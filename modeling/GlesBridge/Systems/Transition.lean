import Mathlib.Data.Nat.Init
import Mathlib.Data.List.Basic

namespace GlesBridge.Systems

/-! Labelled transition systems with their histories.

A run is kept together with the list of labels it has emitted, so an invariant
may relate the state reached to everything that happened before.
-/

universe u v

structure Lts (State : Type u) (Label : Type v) where
  Initial : State → Prop
  Step : State → Label → State → Prop

namespace Lts

variable {State : Type u} {Label : Type v}

/-- `system.Path first trace last`: the system can go from `first` to `last`
while emitting `trace`. -/
inductive Path (system : Lts State Label) (first : State) : List Label → State → Prop where
  | refl : Path system first [] first
  | step {trace state label next} (path : Path system first trace state)
      (taken : system.Step state label next) : Path system first (trace ++ [label]) next

/-- `system.Run trace last`: a path from an initial state. -/
inductive Run (system : Lts State Label) : List Label → State → Prop where
  | start {first} (initial : system.Initial first) : Run system [] first
  | step {trace state label next} (run : Run system trace state)
      (taken : system.Step state label next) : Run system (trace ++ [label]) next

section Runs

variable {system : Lts State Label} {first state next middle last : State} {label : Label}
  {trace left right : List Label}

theorem Run.append (before : system.Run left middle) (after : system.Path middle right last) :
    system.Run (left ++ right) last := by
  induction after with
  | refl => simpa using before
  | step path taken ih => simpa using ih.step taken

end Runs

/-! ## Runs under a condition -/

/-- The runs all of whose steps meet `allowed`, a condition on the history, the
state before the step and the label of the step. -/
inductive RunWithin (system : Lts State Label) (allowed : List Label → State → Label → Prop) :
    List Label → State → Prop where
  | start {first} (initial : system.Initial first) : RunWithin system allowed [] first
  | step {trace state label next} (run : RunWithin system allowed trace state)
      (taken : system.Step state label next) (meets : allowed trace state label) :
      RunWithin system allowed (trace ++ [label]) next

section Within

variable {system : Lts State Label} {state : State} {trace : List Label}
  {allowed : List Label → State → Label → Prop}

theorem RunWithin.run (within : system.RunWithin allowed trace state) :
    system.Run trace state := by
  induction within with
  | start initial => exact .start initial
  | step run taken meets ih => exact ih.step taken

theorem RunWithin.imp {other : List Label → State → Label → Prop}
    (within : system.RunWithin allowed trace state)
    (weaker : ∀ trace state label, allowed trace state label → other trace state label) :
    system.RunWithin other trace state := by
  induction within with
  | start initial => exact .start initial
  | step _ taken meets ih => exact ih.step taken (weaker _ _ _ meets)

/-- Any label of a run was emitted by a step from a state that the run had
reached with the labels before it. -/
theorem RunWithin.split {label : Label} {left right : List Label}
    (within : system.RunWithin allowed trace state) (shape : trace = left ++ label :: right) :
    ∃ before after, system.RunWithin allowed left before ∧ system.Step before label after ∧
      allowed left before label := by
  induction within generalizing right with
  | start initial => simp at shape
  | @step trace middle emitted next within taken meets ih =>
      rcases List.eq_nil_or_concat right with rfl | ⟨front, final, rfl⟩
      · obtain ⟨rfl, same⟩ := List.append_inj' shape rfl
        obtain rfl : emitted = label := by simpa using same
        exact ⟨middle, next, within, taken, meets⟩
      · have regrouped : trace ++ [emitted] = (left ++ label :: front) ++ [final] := by
          simpa using shape
        exact ih (List.append_inj' regrouped rfl).1

end Within

/-! ## Fair behaviours -/

/-- An infinite execution; at each instant the system takes a step or pauses. -/
structure Behaviour (system : Lts State Label) where
  state : Nat → State
  label : Nat → Option Label
  initial : system.Initial (state 0)
  advance : ∀ instant,
    match label instant with
    | some emitted => system.Step (state instant) emitted (state (instant + 1))
    | none => state (instant + 1) = state instant

namespace Behaviour

variable {system : Lts State Label} (behaviour : Behaviour system)

def trace (instant : Nat) : List Label :=
  (List.range instant).filterMap behaviour.label

theorem run (instant : Nat) : system.Run (behaviour.trace instant) (behaviour.state instant) := by
  induction instant with
  | zero => exact .start behaviour.initial
  | succ instant ih =>
      have advance := behaviour.advance instant
      have extended : behaviour.trace (instant + 1) =
          behaviour.trace instant ++ (behaviour.label instant).toList := by
        simp only [trace, List.range_succ, List.filterMap_append]
        cases emitted : behaviour.label instant <;> simp [emitted]
      rw [extended]
      cases emitted : behaviour.label instant with
      | none =>
          rw [emitted] at advance
          simpa [advance] using ih
      | some label =>
          rw [emitted] at advance
          simpa using ih.step advance

/-- A run goes on along any infinite path from where it ends. -/
theorem exists_of_run {trace : List Label} {last : State} (run : system.Run trace last)
    (state : Nat → State) (label : Nat → Option Label) (start : state 0 = last)
    (advance : ∀ instant,
      match label instant with
      | some emitted => system.Step (state instant) emitted (state (instant + 1))
      | none => state (instant + 1) = state instant) :
    ∃ (behaviour : Behaviour system) (offset : Nat), ∀ instant,
      behaviour.state (offset + instant) = state instant ∧
        behaviour.label (offset + instant) = label instant := by
  induction run generalizing state label with
  | start initial =>
      subst start
      exact ⟨⟨state, label, initial, advance⟩, 0, fun instant => by simp⟩
  | @step trace before emitted next run taken ih =>
      subst start
      obtain ⟨behaviour, offset, follows⟩ := ih (fun instant => instant.casesOn before state)
        (fun instant => instant.casesOn (some emitted) label) rfl (by
          intro instant
          cases instant with
          | zero => exact taken
          | succ instant => exact advance instant)
      refine ⟨behaviour, offset + 1, fun instant => ?_⟩
      have shift : offset + 1 + instant = offset + (instant + 1) := by omega
      rw [shift]
      exact follows (instant + 1)

/-- Weak fairness for the steps whose labels satisfy `owned`: they are not put
off for ever while one of them can be taken at every instant. -/
def WeaklyFair (owned : Label → Prop) : Prop :=
  ∀ start, (∀ instant, start ≤ instant →
      ∃ label next, owned label ∧ system.Step (behaviour.state instant) label next) →
    ∃ instant, start ≤ instant ∧ ∃ label, behaviour.label instant = some label ∧ owned label

def LeadsTo (before after : State → Prop) : Prop :=
  ∀ start, before (behaviour.state start) →
    ∃ instant, start ≤ instant ∧ after (behaviour.state instant)

variable {behaviour} {before between after : State → Prop} {owned : Label → Prop}

theorem LeadsTo.trans (earlier : behaviour.LeadsTo before between)
    (later : behaviour.LeadsTo between after) : behaviour.LeadsTo before after := by
  intro start holds
  obtain ⟨turn, past, reached⟩ := earlier start holds
  obtain ⟨instant, later, done⟩ := later turn reached
  exact ⟨instant, by omega, done⟩

theorem LeadsTo.of_imp (now : ∀ trace state, system.Run trace state → before state → after state) :
    behaviour.LeadsTo before after := fun start holds =>
  ⟨start, Nat.le_refl _, now _ _ (behaviour.run start) holds⟩

theorem LeadsTo.or {other : State → Prop} (left : behaviour.LeadsTo before after)
    (right : behaviour.LeadsTo other after) :
    behaviour.LeadsTo (fun state => before state ∨ other state) after := fun start holds =>
  holds.elim (left start) (right start)

theorem LeadsTo.exists {ι : Sort*} {each : ι → State → Prop}
    (all : ∀ index, behaviour.LeadsTo (each index) after) :
    behaviour.LeadsTo (fun state => ∃ index, each index state) after := fun start holds =>
  holds.elim fun index holds => all index start holds

theorem pause_or_step (behaviour : Behaviour system) (instant : Nat) :
    (behaviour.label instant = none ∧ behaviour.state (instant + 1) = behaviour.state instant) ∨
      ∃ label, behaviour.label instant = some label ∧
        system.Step (behaviour.state instant) label (behaviour.state (instant + 1)) := by
  have advance := behaviour.advance instant
  cases emitted : behaviour.label instant with
  | none =>
      rw [emitted] at advance
      exact .inl ⟨rfl, advance⟩
  | some label =>
      rw [emitted] at advance
      exact .inr ⟨label, rfl, advance⟩

/-- The rule for one fair step: `before` lasts until `after` comes, one of the
owned steps can be taken all that time, and taking it brings `after`. -/
theorem leadsTo_of_fair (fair : behaviour.WeaklyFair owned)
    (lasts : ∀ trace state label next, system.Run trace state → before state →
      system.Step state label next → before next ∨ after next)
    (enabled : ∀ trace state, system.Run trace state → before state →
      ∃ label next, owned label ∧ system.Step state label next)
    (progress : ∀ trace state label next, system.Run trace state → before state →
      system.Step state label next → owned label → after next) :
    behaviour.LeadsTo before after := by
  intro start holds
  by_contra never
  have absent : ∀ instant, start ≤ instant → ¬ after (behaviour.state instant) :=
    fun instant past reached => never ⟨instant, past, reached⟩
  -- Without `after`, the state of affairs at `start` lasts for ever.
  have always : ∀ instant, start ≤ instant → before (behaviour.state instant) := by
    intro instant past
    induction instant, past using Nat.le_induction with
    | base => exact holds
    | succ instant past ih =>
        rcases behaviour.pause_or_step instant with ⟨-, same⟩ | ⟨label, -, taken⟩
        · rwa [same]
        · exact (lasts _ _ _ _ (behaviour.run instant) ih taken).resolve_right
            (absent (instant + 1) (by omega))
  obtain ⟨instant, past, label, emitted, isOwned⟩ := fair start fun instant past =>
    enabled _ _ (behaviour.run instant) (always instant past)
  rcases behaviour.pause_or_step instant with ⟨paused, -⟩ | ⟨other, same, taken⟩
  · rw [paused] at emitted
    cases emitted
  · rw [same] at emitted
    cases emitted
    exact absent (instant + 1) (by omega)
      (progress _ _ _ _ (behaviour.run instant) (always instant past) taken isOwned)

/-! Leads-to by what persists and by what falls. -/

variable {holds : State → Prop}

/-- A state of affairs lasts until `after` comes. -/
theorem lasts_until {start instant : Nat} (past : start ≤ instant)
    (lasts : ∀ trace state label next, system.Run trace state → holds state →
      system.Step state label next → holds next ∨ after next)
    (now : holds (behaviour.state start)) :
    holds (behaviour.state instant) ∨
      ∃ turn, start ≤ turn ∧ after (behaviour.state turn) := by
  induction instant, past using Nat.le_induction with
  | base => exact .inl now
  | succ instant past ih =>
      rcases ih with still | reached
      · rcases behaviour.pause_or_step instant with ⟨-, same⟩ | ⟨label, -, taken⟩
        · exact .inl (same ▸ still)
        · rcases lasts _ _ _ _ (behaviour.run instant) still taken with later | reached
          · exact .inl later
          · exact .inr ⟨instant + 1, by omega, reached⟩
      · exact .inr reached

/-- What lasts until `after` comes still holds where `between` is reached. -/
theorem LeadsTo.holding (leads : behaviour.LeadsTo before between)
    (lasts : ∀ trace state label next, system.Run trace state → holds state →
      system.Step state label next → holds next ∨ after next) :
    behaviour.LeadsTo (fun state => before state ∧ holds state)
      (fun state => between state ∧ holds state ∨ after state) := by
  intro start ⟨ready, now⟩
  obtain ⟨instant, past, reached⟩ := leads start ready
  rcases lasts_until past lasts now with still | ⟨turn, later, done⟩
  · exact ⟨instant, past, .inl ⟨reached, still⟩⟩
  · exact ⟨turn, later, .inr done⟩

/-- `after` comes if `before` brings it, or itself with a smaller measure. -/
theorem LeadsTo.of_measure (measure : State → Nat)
    (falls : ∀ rank, behaviour.LeadsTo (fun state => before state ∧ measure state = rank)
      (fun state => before state ∧ measure state < rank ∨ after state)) :
    behaviour.LeadsTo before after := by
  have descends : ∀ rank start, before (behaviour.state start) →
      measure (behaviour.state start) = rank →
      ∃ instant, start ≤ instant ∧ after (behaviour.state instant) := by
    intro rank
    induction rank using Nat.strong_induction_on with
    | _ rank ih =>
        intro start ready same
        obtain ⟨turn, past, ⟨still, less⟩ | reached⟩ := falls rank start ⟨ready, same⟩
        · obtain ⟨instant, later, reached⟩ := ih _ less turn still rfl
          exact ⟨instant, by omega, reached⟩
        · exact ⟨turn, past, reached⟩
  exact fun start ready => descends _ start ready rfl

/-- As `leadsTo_of_fair`, where several owned steps are needed: each of them lowers
the measure, which no other step raises. -/
theorem leadsTo_of_falling (fair : behaviour.WeaklyFair owned) (measure : State → Nat)
    (lasts : ∀ trace state label next, system.Run trace state → before state →
      system.Step state label next → before next ∧ measure next ≤ measure state ∨ after next)
    (enabled : ∀ trace state, system.Run trace state → before state →
      ∃ label next, owned label ∧ system.Step state label next)
    (progress : ∀ trace state label next, system.Run trace state → before state →
      system.Step state label next → owned label →
      before next ∧ measure next < measure state ∨ after next) :
    behaviour.LeadsTo before after := by
  refine .of_measure measure fun rank => ?_
  apply leadsTo_of_fair fair
  case lasts =>
    intro trace state label next run ⟨ready, same⟩ taken
    rcases lasts _ _ _ _ run ready taken with ⟨still, most⟩ | reached
    · rcases Nat.lt_or_eq_of_le most with less | equal
      · exact .inr (.inl ⟨still, same ▸ less⟩)
      · exact .inl ⟨still, equal.trans same⟩
    · exact .inr (.inr reached)
  case enabled => exact fun trace state run ready => enabled _ _ run ready.1
  case progress =>
    intro trace state label next run ⟨ready, same⟩ taken own
    rw [← same]
    exact progress _ _ _ _ run ready taken own

/-- A behaviour that takes a given path after a given run. -/
theorem exists_of_path {trace rest : List Label} {first last : State}
    (run : system.Run trace first) (path : system.Path first rest last) (state : Nat → State)
    (label : Nat → Option Label) (start : state 0 = last)
    (advance : ∀ instant,
      match label instant with
      | some emitted => system.Step (state instant) emitted (state (instant + 1))
      | none => state (instant + 1) = state instant) :
    ∃ (behaviour : Behaviour system) (begins offset : Nat),
      behaviour.state begins = first ∧ begins ≤ offset ∧ ∀ instant,
        behaviour.state (offset + instant) = state instant ∧
          behaviour.label (offset + instant) = label instant := by
  induction path generalizing state label with
  | refl =>
      obtain ⟨behaviour, offset, follows⟩ := exists_of_run run state label start advance
      exact ⟨behaviour, offset, offset, (follows 0).1.trans start, Nat.le_refl _, follows⟩
  | @step trace middle emitted next path taken ih =>
      subst start
      obtain ⟨behaviour, begins, offset, first, past, follows⟩ :=
        ih (fun instant => instant.casesOn middle state)
          (fun instant => instant.casesOn (some emitted) label) rfl (by
            intro instant
            cases instant with
            | zero => exact taken
            | succ instant => exact advance instant)
      refine ⟨behaviour, begins, offset + 1, first, by omega, fun instant => ?_⟩
      have shift : offset + 1 + instant = offset + (instant + 1) := by omega
      rw [shift]
      exact follows (instant + 1)

end Behaviour

/-! History variables: a record of what the steps of a system do, that no step looks at. -/

section Recorded

universe w

variable {Note : Type w}

def recorded (system : Lts State Label) (note : State → Label → List Note) :
    Lts (State × List Note) Label where
  Initial held := system.Initial held.1 ∧ held.2 = []
  Step held label next := system.Step held.1 label next.1 ∧ next.2 = held.2 ++ note held.1 label

variable {system : Lts State Label} {note : State → Label → List Note}
  {allowed : List Label → State → Label → Prop} {trace : List Label} {state : State}

/-- Without the record, a run is a run. -/
theorem RunWithin.unrecorded {held : State × List Note}
    (within : (system.recorded note).RunWithin (fun before held => allowed before held.1) trace held) :
    system.RunWithin allowed trace held.1 := by
  induction within with
  | start initial => exact .start initial.1
  | step _ taken meets ih => exact ih.step taken.1 meets

theorem RunWithin.stepRecorded {notes : List Note} {label : Label} {next : State}
    (within : (system.recorded note).RunWithin (fun before held => allowed before held.1) trace
      (state, notes)) (taken : system.Step state label next) (meets : allowed trace state label) :
    (system.recorded note).RunWithin (fun before held => allowed before held.1) (trace ++ [label])
      (next, notes ++ note state label) :=
  within.step ⟨taken, rfl⟩ meets

/-- Every run can be recorded. -/
theorem RunWithin.record (within : system.RunWithin allowed trace state)
    (note : State → Label → List Note) :
    ∃ notes, (system.recorded note).RunWithin (fun before held => allowed before held.1) trace
      (state, notes) := by
  induction within with
  | start initial => exact ⟨[], .start ⟨initial, rfl⟩⟩
  | step _ taken meets ih =>
      obtain ⟨notes, recorded⟩ := ih
      exact ⟨_, recorded.stepRecorded taken meets⟩

end Recorded

/-! Runs from a given state. -/

section Start

variable {system : Lts State Label} {first : State}
  {allowed : List Label → State → Label → Prop} {trace : List Label} {state : State}

def startingAt (system : Lts State Label) (first : State) : Lts State Label where
  Initial state := system.Initial state ∧ state = first
  Step := system.Step

theorem RunWithin.anyStart (within : (system.startingAt first).RunWithin allowed trace state) :
    system.RunWithin allowed trace state := by
  induction within with
  | start initial => exact .start initial.1
  | step _ taken meets ih => exact ih.step taken meets

end Start

end Lts

end GlesBridge.Systems
