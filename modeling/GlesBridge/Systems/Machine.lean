import Mathlib.Data.List.Basic

namespace GlesBridge.Systems

universe u v

/-! Deterministic machines driven by a list of inputs, and caches that keep
some of the inputs from a machine behind them.
-/

/-- `step state input` is `none` where the program has no defined behaviour. -/
structure Machine (State : Type u) (Input : Type v) where
  step : State → Input → Option State

namespace Machine

variable {State : Type u} {Input : Type v} (machine : Machine State Input)

def run : State → List Input → Option State
  | state, [] => some state
  | state, input :: rest => (machine.step state input).bind fun next => run next rest

/-- Every input finds `holds` true of the state in which it comes. -/
def Along (holds : State → Input → Prop) : State → List Input → Prop
  | _, [] => True
  | state, input :: rest =>
      holds state input ∧ ∀ next, machine.step state input = some next → Along holds next rest

/-- A run is followed as far as its inputs have outcomes. -/
instance decidableAlong (machine : Machine State Input) (holds : State → Input → Prop)
    [decide : ∀ state input, Decidable (holds state input)] :
    ∀ state inputs, Decidable (machine.Along holds state inputs)
  | _, [] => isTrue trivial
  | state, input :: rest =>
      match taken : machine.step state input, decide state input with
      | _, isFalse fails => isFalse fun along => fails along.1
      | none, isTrue now => isTrue ⟨now, fun next same => nomatch taken.symm.trans same⟩
      | some next, isTrue now =>
          match machine.decidableAlong holds next rest with
          | isTrue later => isTrue ⟨now, fun other same => by
              cases taken.symm.trans same
              exact later⟩
          | isFalse fails => isFalse fun along => fails (along.2 next taken)

/-- The input has a defined outcome, and `good` holds of it. -/
def Ends (good : State → Prop) (state : State) (input : Input) : Prop :=
  ∃ next, machine.step state input = some next ∧ good next

variable {machine} {holds allowed : State → Input → Prop} {invariant good : State → Prop}
  {state : State} {inputs : List Input}

theorem run_append {front rest : List Input} :
    machine.run state (front ++ rest) =
      (machine.run state front).bind fun next => machine.run next rest := by
  induction front generalizing state with
  | nil => rfl
  | cons input front ih =>
      rw [List.cons_append, run, run, Option.bind_assoc]
      exact congrArg _ (funext fun _ => ih)

/-- `Along` speaks about every input of the run. -/
theorem along_iff_prefix :
    machine.Along holds state inputs ↔
      ∀ front input reached, front ++ [input] <+: inputs → machine.run state front = some reached →
        holds reached input := by
  induction inputs generalizing state with
  | nil => simp [Along]
  | cons first rest ih =>
      constructor
      · rintro ⟨now, later⟩ front input reached within runs
        cases front with
        | nil =>
            obtain rfl : input = first := by simpa using within
            cases runs
            exact now
        | cons head front =>
            rw [List.cons_append] at within
            obtain ⟨rfl, fits⟩ := List.cons_prefix_cons.mp within
            obtain ⟨next, taken, runs⟩ := Option.bind_eq_some_iff.mp runs
            exact ih.mp (later next taken) front input reached fits runs
      · intro all
        refine ⟨all [] first state (by simp) rfl, fun next taken => ih.mpr ?_⟩
        intro front input reached within runs
        refine all (first :: front) input reached ?_ ?_
        · exact List.cons_prefix_cons.mpr ⟨rfl, within⟩
        · rw [run, taken]
          exact runs

/-- What every step keeps holds wherever a run ends. -/
theorem run_invariant
    (keeps : ∀ {state input next}, invariant state → machine.step state input = some next →
      invariant next)
    (start : invariant state) {reached : State} (runs : machine.run state inputs = some reached) :
    invariant reached := by
  induction inputs generalizing state with
  | nil =>
      cases runs
      exact start
  | cons input rest ih =>
      obtain ⟨next, stepped, more⟩ := Option.bind_eq_some_iff.mp runs
      exact ih (keeps start stepped) more

/-- So does what every step keeps that meets the condition of the run. -/
theorem Along.run_invariant
    (keeps : ∀ {state input next}, invariant state → allowed state input →
      machine.step state input = some next → invariant next)
    (start : invariant state) (meets : machine.Along allowed state inputs) {reached : State}
    (runs : machine.run state inputs = some reached) : invariant reached := by
  induction inputs generalizing state with
  | nil =>
      cases runs
      exact start
  | cons input rest ih =>
      obtain ⟨now, later⟩ := meets
      obtain ⟨next, stepped, more⟩ := Option.bind_eq_some_iff.mp runs
      exact ih (keeps start now stepped) (later next stepped) more

/-- A change of the state that every allowed input leaves alone is still there after a run. -/
theorem run_map {change : State → State} {inputs : List Input} {admitted : Input → Prop}
    (commutes : ∀ {state input}, admitted input →
      machine.step (change state) input = (machine.step state input).map change)
    (all : ∀ input ∈ inputs, admitted input) {state : State} :
    machine.run (change state) inputs = (machine.run state inputs).map change := by
  induction inputs generalizing state with
  | nil => rfl
  | cons input rest ih =>
      rw [run, run, commutes (all input (.head _))]
      cases machine.step state input with
      | none => rfl
      | some next => exact ih fun later member => all later (.tail _ member)

theorem Along.of_invariant
    (keeps : ∀ {state input next}, invariant state → allowed state input →
      machine.step state input = some next → invariant next)
    (gives : ∀ {state input}, invariant state → allowed state input → holds state input)
    (start : invariant state) (meets : machine.Along allowed state inputs) :
    machine.Along holds state inputs := by
  induction inputs generalizing state with
  | nil => trivial
  | cons input rest ih =>
      obtain ⟨now, later⟩ := meets
      exact ⟨gives start now, fun next taken =>
        ih (keeps start now taken) (later next taken)⟩

theorem along_congr (exact : ∀ state input, holds state input ↔ allowed state input) :
    machine.Along holds state inputs ↔ machine.Along allowed state inputs := by
  induction inputs generalizing state with
  | nil => exact Iff.rfl
  | cons input rest ih => exact and_congr (exact state input) (forall₂_congr fun _ _ => ih)

/-- A condition on single steps that is exact under an invariant is exact for runs. -/
theorem along_iff
    (keeps : ∀ {state input next}, invariant state → allowed state input →
      machine.step state input = some next → invariant next)
    (exact : ∀ {state input}, invariant state → (holds state input ↔ allowed state input))
    (start : invariant state) :
    machine.Along holds state inputs ↔ machine.Along allowed state inputs := by
  constructor
  · exact Along.of_invariant (fun before now => keeps before ((exact before).mp now))
      (fun before => (exact before).mp) start
  · exact Along.of_invariant keeps (fun before => (exact before).mpr) start

end Machine

/-! ## Caches -/

/-- A cache in front of a target: what it remembers of a call, and whether it
passes the call on. -/
structure Front (Cache : Type u) (Call : Type v) where
  note : Cache → Call → Cache
  sends : Cache → Call → Bool

namespace Front

variable {Cache Target : Type u} {Call : Type v}

/-- Two copies of a target: one gets the calls that are passed on, the other
gets them all. -/
structure Compared (Cache Target : Type u) where
  cache : Cache
  sent : Target
  every : Target

def beside (front : Front Cache Call) (perform : Call → Target → Target) :
    Machine (Compared Cache Target) Call where
  step state call := some {
    cache := front.note state.cache call
    sent := if front.sends state.cache call then perform call state.sent else state.sent
    every := perform call state.every
  }

end Front

end GlesBridge.Systems
