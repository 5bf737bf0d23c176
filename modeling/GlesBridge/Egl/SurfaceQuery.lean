import GlesBridge.Stub.SurfaceQuery
import GlesBridge.Systems.Machine

namespace GlesBridge.Egl

open GlesBridge.Stub GlesBridge.Systems

/-! Threads that share the caches of `eglQuerySurface`. The lock of the bridge orders
what they send, and nothing else. -/

/-- What a thread is about to do. With `bumping` and `clearing` come the queries, and the
threads that ask them, that the command before it has given other answers. -/
inductive SurfacePhase where
  | idle
  | keeping (query : SurfaceQuery) (val : Int32) (cell : SurfaceCell) (rest : List EntryField)
  | sending
  | bumping (changed : Nat → SurfaceQuery → Bool)
  | clearing (changed : Nat → SurfaceQuery → Bool)

/-- The commands that count before they are sent, with the lock held. -/
inductive CountedCall where
  | eglCreateWindowSurface
  | eglDestroySurface
  | eglSwapBuffers
deriving DecidableEq, Repr

/-- One step of a thread; `act` is what the proxy and the driver make of a command. -/
inductive SurfaceStep (σ : Type) where
  | answer (query : SurfaceQuery)
  | eglQuerySurface (query : SurfaceQuery) (hasValue : Bool)
  | assign
  | count (call : CountedCall)
  | send (act : σ → σ)
  | wlEglWindow (act : σ → σ) (counts : Bool)
  | bump
  | eglMakeCurrent (act : σ → σ)
  | clear

/-- `locked` is the thread between a count and its command, and `driver` the state after
all commands that have been sent. `keeper` is a record of the run: the thread that asked
for what an entry says. -/
structure SurfaceSystem (σ : Type) where
  caches : SurfaceCaches
  phase : Nat → SurfacePhase
  locked : Option Nat
  driver : σ
  keeper : SurfaceCell → Nat

namespace SurfaceSystem

/-! `ask` is what the proxy answers to a thread, in whose context it asks the driver. -/

variable {σ : Type} (ask : σ → Nat → SurfaceQuery → Option Int32) (state : SurfaceSystem σ)

def start (driver : σ) : SurfaceSystem σ where
  caches := .initial
  phase _ := .idle
  locked := none
  driver := driver
  keeper _ := 0

def goto (thread : Nat) (phase : SurfacePhase) : SurfaceSystem σ :=
  { state with phase := Function.update state.phase thread phase }

def free (thread : Nat) : Bool :=
  match state.phase thread with
  | .idle => true
  | _ => false

/-- A command gives a query of a thread another answer. -/
def changes (act : σ → σ) (thread : Nat) (query : SurfaceQuery) : Bool :=
  ask (act state.driver) thread query != ask state.driver thread query

def counted : CountedCall → SurfaceCaches
  | .eglCreateWindowSurface => state.caches.bumpSurfaceGen
  | .eglDestroySurface => state.caches.bumpSurfaceGen.clearAge
  | .eglSwapBuffers => state.caches.bumpSwapCount

/-- A query that fails, or whose answer is not wanted or not kept, ends with the reply. -/
def queried (thread : Nat) (query : SurfaceQuery) (hasValue : Bool) : SurfacePhase :=
  match ask state.driver thread query, query.cell with
  | some val, some cell => if hasValue then .keeping query val cell cell.fields else .idle
  | _, _ => .idle

/-- Without an outcome is what the thread does not do in its phase, or waits for the lock to do. -/
def step (thread : Nat) : SurfaceStep σ → Option (SurfaceSystem σ)
  | .answer query =>
      if state.free thread then (state.caches.answered query).map fun _ => state else none
  | .eglQuerySurface query hasValue =>
      if state.free thread && state.locked.isNone then
        some (state.goto thread (state.queried ask thread query hasValue))
      else none
  | .assign =>
      match state.phase thread with
      | .keeping query val cell (field :: rest) =>
          some
            { state.goto thread (if rest = [] then .idle else .keeping query val cell rest) with
              caches := state.caches.keep cell query val field
              keeper :=
                if rest = [] then Function.update state.keeper cell thread else state.keeper }
      | _ => none
  | .count call =>
      if state.free thread && state.locked.isNone then
        some { state.goto thread .sending with caches := state.counted call, locked := some thread }
      else none
  | .send act =>
      match state.phase thread with
      | .sending => some { state.goto thread .idle with locked := none, driver := act state.driver }
      | _ => none
  | .wlEglWindow act counts =>
      if state.free thread && state.locked.isNone then
        let next := if counts then .bumping (state.changes ask act) else .idle
        some { state.goto thread next with driver := act state.driver }
      else none
  | .bump =>
      match state.phase thread with
      | .bumping _ => some { state.goto thread .idle with caches := state.caches.bumpSurfaceGen }
      | _ => none
  | .eglMakeCurrent act =>
      if state.free thread && state.locked.isNone then
        some { state.goto thread (.clearing (state.changes ask act)) with driver := act state.driver }
      else none
  | .clear =>
      match state.phase thread with
      | .clearing _ => some { state.goto thread .idle with caches := state.caches.clearAge }
      | _ => none

end SurfaceSystem

def surfaceSystem {σ : Type} (ask : σ → Nat → SurfaceQuery → Option Int32) :
    Machine (SurfaceSystem σ) (Nat × SurfaceStep σ) where
  step state input := state.step ask input.1 input.2

section

variable {σ : Type} (ask : σ → Nat → SurfaceQuery → Option Int32)

/-- What the caches answer is what the proxy would answer. -/
def AnswersRight (state : SurfaceSystem σ) (input : Nat × SurfaceStep σ) : Prop :=
  ∀ query val, input.2 = .answer query → state.caches.answered query = some val →
    ask state.driver input.1 query = some val

/-- Some assignments of an entry have been made, and some not. -/
def SurfacePhase.Writes (phase : SurfacePhase) (cell : SurfaceCell) : Prop :=
  ∃ query val rest, phase = .keeping query val cell rest ∧ rest ≠ cell.fields

/-- The entries of a kind have still to be made worthless after a command that gave
the query another answer. -/
def SurfacePhase.Late (phase : SurfacePhase) (cell : SurfaceCell) (thread : Nat)
    (query : SurfaceQuery) : Prop :=
  ∃ changed : Nat → SurfaceQuery → Bool, changed thread query = true ∧
    (phase = .bumping changed ∧ cell ≠ .age ∨ phase = .clearing changed ∧ cell = .age)

/-- No thread has an answer to keep that a command would change. -/
def KeptAnswers (state : SurfaceSystem σ) (act : σ → σ) : Prop :=
  ∀ thread query val cell rest, state.phase thread = .keeping query val cell rest →
    state.changes ask act thread query = false

/-- An entry that counts is for no query that a command gives another answer. -/
def KeptEntry (state : SurfaceSystem σ) (act : σ → σ) (cell : SurfaceCell) : Prop :=
  (state.caches.entries cell).stamp = state.caches.counter cell →
    ∀ query, query.cell = some cell → (state.caches.entries cell).Matches query cell →
      state.changes ask act (state.keeper cell) query = false

/-- No entry of a size is from the generation that comes next: the counter has not
come round. -/
def NewGeneration (state : SurfaceSystem σ) : Prop :=
  ∀ slot height,
    (state.caches.entries (.size slot height)).stamp ≠ state.caches.gSurfaceGen + 1

/-- An entry is read and written while no other thread writes it. It is not read
between a command that gives the query another answer and the count that goes with it,
nor by a thread to which the proxy would answer otherwise. No command comes between
the reply and the last assignment of an entry that it would make wrong, or changes what
an entry says that its count does not make worthless. -/
def KeepsCaches (state : SurfaceSystem σ) (input : Nat × SurfaceStep σ) : Prop :=
  match input.2 with
  | .answer query =>
      ∀ cell, query.cell = some cell →
        ask state.driver input.1 query = ask state.driver (state.keeper cell) query ∧
          ∀ other, ¬ (state.phase other).Writes cell ∧
            ¬ (state.phase other).Late cell (state.keeper cell) query
  | .eglQuerySurface .. => True
  | .assign =>
      ∀ query val cell rest, state.phase input.1 = .keeping query val cell rest →
        ∀ other, other ≠ input.1 → ¬ (state.phase other).Writes cell
  | .count .eglCreateWindowSurface => NewGeneration state
  | .count .eglDestroySurface => NewGeneration state ∧ state.caches.gSwapCount ≠ 0
  | .count .eglSwapBuffers =>
      (state.caches.entries .age).stamp ≠ state.caches.gSwapCount + 1
  | .send act => KeptAnswers ask state act ∧ ∀ cell, KeptEntry ask state act cell
  | .wlEglWindow act counts =>
      KeptAnswers ask state act ∧ KeptEntry ask state act .age ∧
        (counts = false → ∀ slot height, KeptEntry ask state act (.size slot height))
  | .bump => NewGeneration state
  | .eglMakeCurrent act =>
      KeptAnswers ask state act ∧ ∀ slot height, KeptEntry ask state act (.size slot height)
  | .clear => state.caches.gSwapCount ≠ 0

end

/-! ## Entries that are right -/

section

variable {σ : Type} (ask : σ → Nat → SurfaceQuery → Option Int32)

/-- An entry that counts says what the proxy would, unless it has still to be made
worthless. -/
def FreshEntry (state : SurfaceSystem σ) (cell : SurfaceCell) : Prop :=
  ∀ query, query.cell = some cell → (∀ other, ¬ (state.phase other).Writes cell) →
    (state.caches.entries cell).stamp = state.caches.counter cell →
    (state.caches.entries cell).Matches query cell →
      ask state.driver (state.keeper cell) query = some (state.caches.entries cell).val ∨
        ∃ other, (state.phase other).Late cell (state.keeper cell) query

/-- So does an answer that is still to be kept, as far as it has been. -/
structure Fresh (state : SurfaceSystem σ) : Prop where
  entries : ∀ cell, FreshEntry ask state cell
  answers : ∀ thread query val cell rest, state.phase thread = .keeping query val cell rest →
    ask state.driver thread query = some val ∧ query.cell = some cell
  assigned : ∀ thread query val cell rest, state.phase thread = .keeping query val cell rest →
    rest ≠ [] ∧ ∃ done, cell.fields = done ++ rest ∧
      ∀ field ∈ done, (state.caches.entries cell).Has query val field

end

variable {σ : Type} {ask : σ → Nat → SurfaceQuery → Option Int32} {state next : SurfaceSystem σ}
  {thread : Nat} {driver : σ} {act : σ → σ} {cell : SurfaceCell}

theorem Fresh.start : Fresh ask (SurfaceSystem.start driver) where
  entries cell query _ _ counts _ := by
    cases cell with
    | size slot height => exact absurd counts (by change (0 : UInt32) ≠ 1; decide)
    | age => exact absurd counts (by change (0 : UInt32) ≠ 1; decide)
  answers _ _ _ _ _ keeping := nomatch keeping
  assigned _ _ _ _ _ keeping := nomatch keeping

theorem Fresh.right {query : SurfaceQuery} {val : Int32} (fresh : Fresh ask state)
    (keeps : KeepsCaches ask state (thread, .answer query))
    (answered : state.caches.answered query = some val) :
    ask state.driver thread query = some val := by
  obtain ⟨cell, place, counts, same, rfl⟩ := SurfaceCaches.answered_some answered
  obtain ⟨alike, quiet⟩ := keeps cell place
  refine Eq.trans alike ?_
  rcases fresh.entries cell query place (fun other => (quiet other).1) counts same with right | late
  · exact right
  · obtain ⟨other, late⟩ := late
    exact absurd late (quiet other).2

/-! ## One step -/

/-- The thread has no answer to keep, before the step and after it. -/
structure Elsewhere (thread : Nat) (state next : SurfaceSystem σ) : Prop where
  others : ∀ other, other ≠ thread → next.phase other = state.phase other
  before : ∀ query val cell rest, state.phase thread ≠ .keeping query val cell rest
  after : ∀ query val cell rest, next.phase thread ≠ .keeping query val cell rest
  keeper : next.keeper = state.keeper

theorem Elsewhere.keeping_iff (elsewhere : Elsewhere thread state next) {other : Nat}
    {query : SurfaceQuery} {val : Int32} {rest : List EntryField} :
    next.phase other = .keeping query val cell rest ↔
      state.phase other = .keeping query val cell rest := by
  by_cases same : other = thread
  · subst same
    exact iff_of_false (elsewhere.after _ _ _ _) (elsewhere.before _ _ _ _)
  · rw [elsewhere.others other same]

theorem Elsewhere.writes_iff (elsewhere : Elsewhere thread state next) {other : Nat} :
    (next.phase other).Writes cell ↔ (state.phase other).Writes cell := by
  unfold SurfacePhase.Writes
  simp only [elsewhere.keeping_iff]

/-- What a step has to keep of the answers. -/
theorem Fresh.of_entries (fresh : Fresh ask state) (elsewhere : Elsewhere thread state next)
    (entries : ∀ cell, FreshEntry ask next cell)
    (kept : ∀ other query val cell rest, state.phase other = .keeping query val cell rest →
      ask next.driver other query = ask state.driver other query)
    (has : ∀ cell query val field, (state.caches.entries cell).Has query val field →
      (next.caches.entries cell).Has query val field) : Fresh ask next where
  entries := entries
  answers other query val cell rest keeping := by
    have was := elsewhere.keeping_iff.mp keeping
    rw [kept other query val cell rest was]
    exact fresh.answers other query val cell rest was
  assigned other query val cell rest keeping := by
    obtain ⟨some, done, parts, all⟩ :=
      fresh.assigned other query val cell rest (elsewhere.keeping_iff.mp keeping)
    exact ⟨some, done, parts, fun field member => has _ _ _ _ (all field member)⟩

/-- An entry that a step leaves as it is. -/
theorem FreshEntry.kept (fresh : FreshEntry ask state cell) (elsewhere : Elsewhere thread state next)
    (entry : next.caches.entries cell = state.caches.entries cell)
    (counter : next.caches.counter cell = state.caches.counter cell)
    (late : ∀ query, (state.phase thread).Late cell (state.keeper cell) query →
      (next.phase thread).Late cell (state.keeper cell) query)
    (driver : (state.caches.entries cell).stamp = state.caches.counter cell →
      ∀ query, query.cell = some cell → (state.caches.entries cell).Matches query cell →
        ask next.driver (state.keeper cell) query = ask state.driver (state.keeper cell) query ∨
          (next.phase thread).Late cell (state.keeper cell) query) :
    FreshEntry ask next cell := by
  intro query place quiet counts same
  rw [entry, counter] at counts
  rw [entry] at same ⊢
  rw [elsewhere.keeper]
  rcases driver counts query place same with kept | now
  · rw [kept]
    refine (fresh query place (fun other => mt elsewhere.writes_iff.mpr (quiet other)) counts
      same).imp_right fun before => ?_
    obtain ⟨other, was⟩ := before
    refine ⟨other, ?_⟩
    by_cases own : other = thread
    · exact own ▸ late query (own ▸ was)
    · rwa [elsewhere.others other own]
  · exact .inr ⟨thread, now⟩

/-- An entry that does not count. -/
theorem FreshEntry.of_stamp
    (old : (state.caches.entries cell).stamp ≠ state.caches.counter cell) :
    FreshEntry ask state cell :=
  fun _ _ _ counts _ => absurd counts old

theorem free_iff : state.free thread = true ↔ state.phase thread = .idle := by
  unfold SurfaceSystem.free
  cases state.phase thread <;> simp

theorem unlocked (may : (state.free thread && state.locked.isNone) = true) :
    state.phase thread = .idle :=
  free_iff.mp (Bool.and_eq_true_iff.mp may).1

def SurfacePhase.hasAnswer : SurfacePhase → Bool
  | .keeping .. => true
  | _ => false

/-- A step from one phase to another, neither of which has an answer. -/
theorem elsewhere_of {before after : SurfacePhase} (was : state.phase thread = before)
    (phase : next.phase = Function.update state.phase thread after)
    (keeper : next.keeper = state.keeper) (first : before.hasAnswer = false)
    (second : after.hasAnswer = false) : Elsewhere thread state next where
  others other apart := by rw [phase, Function.update_of_ne apart]
  before query val cell rest keeping := by
    rw [← was, keeping] at first
    exact Bool.noConfusion first
  after query val cell rest keeping := by
    rw [phase, Function.update_self] at keeping
    rw [keeping] at second
    exact Bool.noConfusion second
  keeper := keeper

theorem not_late_idle {other : Nat} {query : SurfaceQuery} :
    ¬ SurfacePhase.idle.Late cell other query := by
  rintro ⟨_, _, ⟨phase, _⟩ | ⟨phase, _⟩⟩ <;> cases phase

theorem not_late_sending {other : Nat} {query : SurfaceQuery} :
    ¬ SurfacePhase.sending.Late cell other query := by
  rintro ⟨_, _, ⟨phase, _⟩ | ⟨phase, _⟩⟩ <;> cases phase

theorem unchanged {other : Nat} {query : SurfaceQuery}
    (kept : state.changes ask act other query = false) :
    ask (act state.driver) other query = ask state.driver other query := by
  simpa [SurfaceSystem.changes] using kept

theorem KeptAnswers.ask_eq (kept : KeptAnswers ask state act) {other : Nat} {query : SurfaceQuery}
    {val : Int32} {rest : List EntryField}
    (keeping : state.phase other = .keeping query val cell rest) :
    ask (act state.driver) other query = ask state.driver other query :=
  unchanged (kept other query val cell rest keeping)

theorem Fresh.send (fresh : Fresh ask state) (was : state.phase thread = .sending)
    (answers : KeptAnswers ask state act) (entries : ∀ cell, KeptEntry ask state act cell) :
    Fresh ask { state.goto thread .idle with locked := none, driver := act state.driver } := by
  have elsewhere : Elsewhere thread state
      { state.goto thread .idle with locked := none, driver := act state.driver } :=
    elsewhere_of was rfl rfl rfl rfl
  refine fresh.of_entries elsewhere (fun cell => ?_)
    (fun _ _ _ _ _ keeping => answers.ask_eq keeping) fun _ _ _ _ has => has
  refine (fresh.entries cell).kept elsewhere rfl rfl (fun query late => ?_)
    fun counts query place same => .inl (unchanged (entries cell counts query place same))
  exact absurd (was ▸ late) not_late_sending

/-- Entries that a command makes wrong are late until its count or its clearing. -/
theorem Fresh.perform (fresh : Fresh ask state) (was : state.phase thread = .idle)
    {after : SurfacePhase} (answerless : after.hasAnswer = false)
    (answers : KeptAnswers ask state act)
    (entries : ∀ cell, KeptEntry ask state act cell ∨
      ∀ query, state.changes ask act (state.keeper cell) query = true →
        after.Late cell (state.keeper cell) query) :
    Fresh ask { state.goto thread after with driver := act state.driver } := by
  have elsewhere : Elsewhere thread state
      { state.goto thread after with driver := act state.driver } :=
    elsewhere_of was rfl rfl rfl answerless
  have phase : (state.goto thread after).phase thread = after := Function.update_self ..
  refine fresh.of_entries elsewhere (fun cell => ?_)
    (fun _ _ _ _ _ keeping => answers.ask_eq keeping) fun _ _ _ _ has => has
  refine (fresh.entries cell).kept elsewhere rfl rfl (fun query late => ?_)
    fun counts query place same => ?_
  · exact absurd (was ▸ late) not_late_idle
  · rcases entries cell with kept | late
    · exact .inl (unchanged (kept counts query place same))
    · cases changed : state.changes ask act (state.keeper cell) query with
      | false => exact .inl (unchanged changed)
      | true => exact .inr (phase.symm ▸ late query changed)

theorem Fresh.wlEglWindow (fresh : Fresh ask state) (was : state.phase thread = .idle)
    {counts : Bool} (keeps : KeepsCaches ask state (thread, .wlEglWindow act counts)) :
    Fresh ask { state.goto thread (if counts then .bumping (state.changes ask act) else .idle) with
      driver := act state.driver } := by
  obtain ⟨answers, age, sizes⟩ := keeps
  refine fresh.perform was (by cases counts <;> rfl) answers fun cell => ?_
  cases cell with
  | age => exact .inl age
  | size slot height =>
      cases counts with
      | false => exact .inl (sizes rfl slot height)
      | true => exact .inr fun query changed => ⟨_, changed, .inl ⟨rfl, SurfaceCell.noConfusion⟩⟩

theorem Fresh.eglMakeCurrent (fresh : Fresh ask state) (was : state.phase thread = .idle)
    (keeps : KeepsCaches ask state (thread, .eglMakeCurrent act)) :
    Fresh ask { state.goto thread (.clearing (state.changes ask act)) with
      driver := act state.driver } := by
  refine fresh.perform was rfl keeps.1 fun cell => ?_
  cases cell with
  | age => exact .inr fun query changed => ⟨_, changed, .inr ⟨rfl, rfl⟩⟩
  | size slot height => exact .inl (keeps.2 slot height)

/-- Counters and stamps change; an entry counts afterwards only if it did before. -/
theorem Fresh.recount {before after : SurfacePhase} {caches : SurfaceCaches} {locked : Option Nat}
    (fresh : Fresh ask state) (was : state.phase thread = before)
    (first : before.hasAnswer = false) (second : after.hasAnswer = false)
    (cells : ∀ cell, (caches.entries cell).stamp ≠ caches.counter cell ∨
      caches.entries cell = state.caches.entries cell ∧
        caches.counter cell = state.caches.counter cell ∧
          ∀ other query, ¬ before.Late cell other query)
    (has : ∀ cell query val field, (state.caches.entries cell).Has query val field →
      (caches.entries cell).Has query val field) :
    Fresh ask { state.goto thread after with caches, locked } := by
  have elsewhere : Elsewhere thread state { state.goto thread after with caches, locked } :=
    elsewhere_of was rfl rfl first second
  refine fresh.of_entries elsewhere (fun cell => ?_) (fun _ _ _ _ _ _ => rfl) has
  rcases cells cell with old | ⟨entry, counter, punctual⟩
  · exact .of_stamp old
  · refine (fresh.entries cell).kept elsewhere entry counter (fun query late => ?_)
      fun _ _ _ _ => .inl rfl
    exact absurd (was ▸ late) (punctual _ query)

theorem not_late_bumping {changed : Nat → SurfaceQuery → Bool} {other : Nat} {query : SurfaceQuery} :
    ¬ (SurfacePhase.bumping changed).Late .age other query := by
  rintro ⟨_, _, ⟨_, size⟩ | ⟨phase, _⟩⟩
  · exact size rfl
  · cases phase

theorem not_late_clearing {changed : Nat → SurfaceQuery → Bool} {slot : Fin qsCacheSlots}
    {height : Bool} {other : Nat} {query : SurfaceQuery} :
    ¬ (SurfacePhase.clearing changed).Late (.size slot height) other query := by
  rintro ⟨_, _, ⟨phase, _⟩ | ⟨_, age⟩⟩ <;> cases ‹_ = _›

theorem Fresh.bump {changed : Nat → SurfaceQuery → Bool} (fresh : Fresh ask state)
    (was : state.phase thread = .bumping changed) (generation : NewGeneration state) :
    Fresh ask { state.goto thread .idle with caches := state.caches.bumpSurfaceGen } := by
  refine fresh.recount was rfl rfl (fun cell => ?_) fun _ _ _ _ has => has
  cases cell with
  | size slot height => exact .inl (generation slot height)
  | age => exact .inr ⟨rfl, rfl, fun _ _ => not_late_bumping⟩

theorem Fresh.clear {changed : Nat → SurfaceQuery → Bool} (fresh : Fresh ask state)
    (was : state.phase thread = .clearing changed) (counts : state.caches.gSwapCount ≠ 0) :
    Fresh ask { state.goto thread .idle with caches := state.caches.clearAge } := by
  refine fresh.recount was rfl rfl (fun cell => ?_) fun _ _ _ _ => SurfaceCaches.has_clearAge
  cases cell with
  | size slot height =>
      exact .inr ⟨SurfaceCaches.clearAge_entries_of_ne SurfaceCell.noConfusion, rfl,
        fun _ _ => not_late_clearing⟩
  | age =>
      rw [SurfaceCaches.clearAge_entries_age]
      exact .inl counts.symm

theorem Fresh.count {call : CountedCall} (fresh : Fresh ask state)
    (was : state.phase thread = .idle) (keeps : KeepsCaches ask state (thread, .count call)) :
    Fresh ask { state.goto thread .sending with
      caches := state.counted call, locked := some thread } := by
  cases call with
  | eglCreateWindowSurface =>
      refine fresh.recount was rfl rfl (fun cell => ?_) fun _ _ _ _ has => has
      cases cell with
      | size slot height => exact .inl (keeps slot height)
      | age => exact .inr ⟨rfl, rfl, fun _ _ => not_late_idle⟩
  | eglDestroySurface =>
      refine fresh.recount was rfl rfl (fun cell => ?_) fun _ _ _ _ => SurfaceCaches.has_clearAge
      cases cell with
      | size slot height =>
          have entry : (state.counted .eglDestroySurface).entries (.size slot height) =
              state.caches.entries (.size slot height) :=
            SurfaceCaches.clearAge_entries_of_ne SurfaceCell.noConfusion
          rw [entry]
          exact .inl (keeps.1 slot height)
      | age =>
          change _ ≠ state.caches.gSwapCount ∨ _
          unfold SurfaceSystem.counted
          rw [SurfaceCaches.clearAge_entries_age]
          exact .inl keeps.2.symm
  | eglSwapBuffers =>
      refine fresh.recount was rfl rfl (fun cell => ?_) fun _ _ _ _ has => has
      cases cell with
      | size slot height => exact .inr ⟨rfl, rfl, fun _ _ => not_late_idle⟩
      | age => exact .inl keeps

/-! ## Answers that are kept -/

/-- An entry that the step of a thread does not touch. -/
theorem FreshEntry.of_phases (fresh : FreshEntry ask state cell)
    (entry : next.caches.entries cell = state.caches.entries cell)
    (counter : next.caches.counter cell = state.caches.counter cell)
    (driver : next.driver = state.driver) (keeper : next.keeper cell = state.keeper cell)
    (writes : ∀ other, (state.phase other).Writes cell → (next.phase other).Writes cell)
    (late : ∀ other query, (state.phase other).Late cell (state.keeper cell) query →
      (next.phase other).Late cell (state.keeper cell) query) : FreshEntry ask next cell := by
  intro query place quiet counts same
  rw [entry, counter] at counts
  rw [entry] at same ⊢
  rw [driver, keeper]
  refine (fresh query place (fun other => mt (writes other) (quiet other)) counts same).imp_right ?_
  rintro ⟨other, was⟩
  exact ⟨other, late other query was⟩

theorem queried_cases (query : SurfaceQuery) (hasValue : Bool) :
    state.queried ask thread query hasValue = .idle ∨
      ∃ val cell, state.queried ask thread query hasValue = .keeping query val cell cell.fields ∧
        ask state.driver thread query = some val ∧ query.cell = some cell := by
  unfold SurfaceSystem.queried
  cases answer : ask state.driver thread query with
  | none => exact .inl rfl
  | some val =>
      cases place : query.cell with
      | none => exact .inl rfl
      | some cell =>
          cases hasValue with
          | false => exact .inl rfl
          | true => exact .inr ⟨val, cell, rfl, rfl, rfl⟩

theorem Fresh.eglQuerySurface {query : SurfaceQuery} {hasValue : Bool} (fresh : Fresh ask state)
    (was : state.phase thread = .idle) :
    Fresh ask (state.goto thread (state.queried ask thread query hasValue)) := by
  rcases queried_cases query hasValue with idle | ⟨val, kept, keeping, answer, place⟩
  · rw [idle]
    exact fresh.recount was rfl rfl (fun _ => .inr ⟨rfl, rfl, fun _ _ => not_late_idle⟩)
      fun _ _ _ _ has => has
  · rw [keeping]
    have own : (state.goto thread (.keeping query val kept kept.fields)).phase thread =
        .keeping query val kept kept.fields := Function.update_self ..
    have others : ∀ other, other ≠ thread →
        (state.goto thread (.keeping query val kept kept.fields)).phase other =
          state.phase other := fun other apart => Function.update_of_ne apart _ _
    refine ⟨fun cell => ?_, fun other asked found cell rest holds => ?_,
      fun other asked found cell rest holds => ?_⟩
    · refine (fresh.entries cell).of_phases rfl rfl rfl rfl (fun other writes => ?_)
        fun other query late => ?_
      · by_cases same : other = thread
        · obtain ⟨_, _, _, phase, _⟩ := writes
          rw [same, was] at phase
          cases phase
        · rwa [others other same]
      · by_cases same : other = thread
        · rw [same, was] at late
          exact absurd late not_late_idle
        · rwa [others other same]
    · by_cases same : other = thread
      · rw [same, own] at holds
        cases holds
        rw [same]
        exact ⟨answer, place⟩
      · exact fresh.answers other asked found cell rest (others other same ▸ holds)
    · by_cases same : other = thread
      · rw [same, own] at holds
        cases holds
        refine ⟨by cases kept <;> exact List.cons_ne_nil _ _, [], rfl, fun field member => ?_⟩
        exact absurd member List.not_mem_nil
      · exact fresh.assigned other asked found cell rest (others other same ▸ holds)

theorem attr_of_age {query : SurfaceQuery} (place : query.cell = some .age) :
    query.attr = eglBufferAgeExtAttr := by
  unfold SurfaceQuery.cell at place
  split at place
  · assumption
  · split at place <;> cases place

/-- An entry with all that was assigned is for the query that it was assigned for. -/
theorem eq_of_assigned {entry : SurfaceEntry} {query asked : SurfaceQuery} {val : Int32}
    (place : query.cell = some cell) (other : asked.cell = some cell)
    (all : ∀ field ∈ cell.fields, entry.Has query val field) (same : entry.Matches asked cell) :
    asked = query ∧ entry.val = val := by
  obtain ⟨dpy, surf, attr⟩ := same
  cases cell with
  | size slot height =>
      have value : entry.val = val := all .val (by simp [SurfaceCell.fields])
      have first : entry.dpy = query.dpy := all .dpy (by simp [SurfaceCell.fields])
      have second : entry.surf = query.surf := all .surf (by simp [SurfaceCell.fields])
      have third : entry.attr = query.attr := all .attr (by simp [SurfaceCell.fields])
      have own : entry.attr = asked.attr := attr SurfaceCell.noConfusion
      obtain ⟨_, _, _⟩ := asked
      obtain ⟨_, _, _⟩ := query
      simp_all
  | age =>
      have value : entry.val = val := all .val (by simp [SurfaceCell.fields])
      have first : entry.dpy = query.dpy := all .dpy (by simp [SurfaceCell.fields])
      have second : entry.surf = query.surf := all .surf (by simp [SurfaceCell.fields])
      have third : asked.attr = query.attr := (attr_of_age other).trans (attr_of_age place).symm
      obtain ⟨_, _, _⟩ := asked
      obtain ⟨_, _, _⟩ := query
      simp_all

theorem Fresh.assign {query : SurfaceQuery} {val : Int32} {field : EntryField}
    {rest : List EntryField} (fresh : Fresh ask state)
    (was : state.phase thread = .keeping query val cell (field :: rest))
    (alone : ∀ other, other ≠ thread → ¬ (state.phase other).Writes cell) :
    Fresh ask
      { state.goto thread (if rest = [] then .idle else .keeping query val cell rest) with
        caches := state.caches.keep cell query val field
        keeper := if rest = [] then Function.update state.keeper cell thread else state.keeper } := by
  obtain ⟨answer, place⟩ := fresh.answers thread query val cell _ was
  obtain ⟨-, done, parts, assigned⟩ := fresh.assigned thread query val cell _ was
  have parts : cell.fields = (done ++ [field]) ++ rest := by simp [parts]
  have now : ∀ other ∈ done ++ [field],
      ((state.caches.keep cell query val field).entries cell).Has query val other := by
    intro other member
    rw [SurfaceCaches.keep_entries_self]
    rcases List.mem_append.mp member with before | last
    · exact (assigned other before).assign field
    · rw [List.mem_singleton.mp last]
      exact SurfaceEntry.has_assign_self field
  have own : (state.goto thread (if rest = [] then .idle else .keeping query val cell rest)).phase
      thread = if rest = [] then .idle else .keeping query val cell rest := Function.update_self ..
  have others : ∀ other, other ≠ thread →
      (state.goto thread (if rest = [] then .idle else .keeping query val cell rest)).phase other =
        state.phase other := fun other apart => Function.update_of_ne apart _ _
  refine ⟨fun spot => ?_, fun other asked found spot left holds => ?_,
    fun other asked found spot left holds => ?_⟩
  · by_cases here : spot = cell
    · subst here
      intro asked placed quiet counts same
      by_cases last : rest = []
      · subst last
        have all : ∀ other ∈ spot.fields,
            ((state.caches.keep spot query val field).entries spot).Has query val other :=
          fun other member => now other (by simpa [parts] using member)
        obtain ⟨rfl, value⟩ := eq_of_assigned place placed all same
        refine .inl ?_
        rw [value]
        change ask state.driver (Function.update state.keeper spot thread spot) asked = _
        rw [Function.update_self]
        exact answer
      · refine absurd ⟨query, val, rest, own.trans (if_neg last), fun whole => ?_⟩ (quiet thread)
        have length := congrArg List.length (whole.trans parts)
        simp only [List.length_append, List.length_singleton] at length
        omega
    · refine (fresh.entries spot).of_phases (SurfaceCaches.keep_entries_of_ne here) (by cases spot <;> rfl)
        rfl ?_ (fun other writes => ?_) fun other query late => ?_
      · change (if rest = [] then _ else _ : SurfaceCell → Nat) spot = _
        split
        · exact Function.update_of_ne here _ _
        · rfl
      · by_cases same : other = thread
        · obtain ⟨_, _, _, phase, _⟩ := writes
          rw [same, was] at phase
          cases phase
          exact absurd rfl here
        · exact (others other same).symm ▸ writes
      · by_cases same : other = thread
        · obtain ⟨_, _, ⟨phase, _⟩ | ⟨phase, _⟩⟩ := late <;> rw [same, was] at phase <;> cases phase
        · exact (others other same).symm ▸ late
  · by_cases same : other = thread
    · subst same
      rw [own] at holds
      split at holds
      · cases holds
      · cases holds
        exact ⟨answer, place⟩
    · exact fresh.answers other asked found spot left ((others other same).symm.trans holds)
  · by_cases same : other = thread
    · subst same
      rw [own] at holds
      split at holds
      · cases holds
      · rename_i more
        cases holds
        exact ⟨more, done ++ [field], parts, now⟩
    · have phase : state.phase other = .keeping asked found spot left :=
        (others other same).symm.trans holds
      obtain ⟨some, before, split, all⟩ := fresh.assigned other asked found spot left phase
      by_cases here : spot = cell
      · -- The other thread has not begun with the entry.
        have whole : left = spot.fields := by
          by_contra begun
          exact alone other same (here ▸ ⟨asked, found, left, phase, begun⟩)
        refine ⟨some, [], whole.symm, fun field member => absurd member List.not_mem_nil⟩
      · refine ⟨some, before, split, fun other member => ?_⟩
        rw [SurfaceCaches.keep_entries_of_ne here]
        exact all other member

theorem Fresh.step {input : Nat × SurfaceStep σ} (fresh : Fresh ask state)
    (keeps : KeepsCaches ask state input)
    (stepped : (surfaceSystem ask).step state input = some next) : Fresh ask next := by
  obtain ⟨thread, step⟩ := input
  change state.step ask thread step = some next at stepped
  cases step with
  | answer query =>
      obtain ⟨_, same⟩ := Option.ite_none_right_eq_some.mp stepped
      obtain ⟨_, _, rfl⟩ := Option.map_eq_some_iff.mp same
      exact fresh
  | eglQuerySurface query hasValue =>
      obtain ⟨may, made⟩ := Option.ite_none_right_eq_some.mp stepped
      cases made
      exact fresh.eglQuerySurface (unlocked may)
  | assign =>
      rw [SurfaceSystem.step] at stepped
      split at stepped
      · rename_i query val cell field rest was
        cases stepped
        exact fresh.assign was (keeps query val cell _ was)
      · cases stepped
  | count call =>
      obtain ⟨may, made⟩ := Option.ite_none_right_eq_some.mp stepped
      cases made
      exact fresh.count (unlocked may) keeps
  | send act =>
      rw [SurfaceSystem.step] at stepped
      split at stepped
      · rename_i was
        cases stepped
        exact fresh.send was keeps.1 keeps.2
      · cases stepped
  | wlEglWindow act counts =>
      obtain ⟨may, made⟩ := Option.ite_none_right_eq_some.mp stepped
      cases made
      exact fresh.wlEglWindow (unlocked may) keeps
  | bump =>
      rw [SurfaceSystem.step] at stepped
      split at stepped
      · rename_i was
        cases stepped
        exact fresh.bump was keeps
      · cases stepped
  | eglMakeCurrent act =>
      obtain ⟨may, made⟩ := Option.ite_none_right_eq_some.mp stepped
      cases made
      exact fresh.eglMakeCurrent (unlocked may) keeps
  | clear =>
      rw [SurfaceSystem.step] at stepped
      split at stepped
      · rename_i was
        cases stepped
        exact fresh.clear was keeps
      · cases stepped

theorem Fresh.answersRight {input : Nat × SurfaceStep σ} (fresh : Fresh ask state)
    (keeps : KeepsCaches ask state input) : AnswersRight ask state input := by
  obtain ⟨thread, step⟩ := input
  rintro query val rfl answered
  exact fresh.right keeps answered

/-- For every interleaving of any threads, whatever the driver does. -/
theorem answers_right {inputs : List (Nat × SurfaceStep σ)}
    (keeps : (surfaceSystem ask).Along (KeepsCaches ask) (.start driver) inputs) :
    (surfaceSystem ask).Along (AnswersRight ask) (.start driver) inputs :=
  Machine.Along.of_invariant Fresh.step Fresh.answersRight .start keeps

/-! Surfaces that all have one width, which is the state of the driver -/

def askWidth (width : Int32) (_ : Nat) (query : SurfaceQuery) : Option Int32 :=
  if query.attr = eglWidth then some width else none

theorem not_writes_idle : ¬ SurfacePhase.idle.Writes cell := by
  rintro ⟨_, _, _, phase, _⟩
  cases phase

/-- While the others do nothing, a thread keeps its answer. -/
theorem along_assign {inputs : List (Nat × SurfaceStep σ)} {count : Nat}
    (quiet : ∀ other, other ≠ thread → state.phase other = .idle)
    (rest : ∀ next, (surfaceSystem ask).run state (List.replicate count (thread, .assign)) = some next →
      (∀ other, other ≠ thread → next.phase other = .idle) →
        (surfaceSystem ask).Along (KeepsCaches ask) next inputs) :
    (surfaceSystem ask).Along (KeepsCaches ask) state
      (List.replicate count (thread, .assign) ++ inputs) := by
  induction count generalizing state with
  | zero => exact rest state rfl quiet
  | succ count ih =>
      refine ⟨fun _ _ _ _ _ other apart => (quiet other apart).symm ▸ not_writes_idle,
        fun next taken => ih (fun other apart => ?_) fun last ran => rest last ?_⟩
      · change state.step ask thread .assign = some next at taken
        rw [SurfaceSystem.step] at taken
        split at taken
        · cases taken
          exact (Function.update_of_ne apart _ _).trans (quiet other apart)
        · cases taken
      · rw [List.replicate_succ, Machine.run, taken]
        exact ran

/-- A window is resized, and one thread reads what the other has asked. -/
theorem answers_right_resized :
    (surfaceSystem askWidth).Along (AnswersRight askWidth) (.start 640)
      ((1, .wlEglWindow (fun _ => 800) true) :: (1, .bump) ::
        (0, .eglQuerySurface ⟨1, 1, eglWidth⟩ true) ::
          (List.replicate 5 (0, .assign) ++ [(1, .answer ⟨1, 1, eglWidth⟩)])) := by
  have old : ∀ slot height, ((SurfaceSystem.start (640 : Int32)).caches.entries
      (.size slot height)).stamp ≠ (SurfaceSystem.start (640 : Int32)).caches.gSurfaceGen + 1 := by
    intro _ _
    change (0 : UInt32) ≠ 1 + 1
    decide
  refine answers_right ⟨⟨?_, ?_, ?_⟩, fun _ taken => ?_⟩
  · exact fun _ _ _ _ _ keeping => by cases keeping
  · exact fun counts => absurd counts (by decide)
  · exact fun counts => by cases counts
  cases taken
  refine ⟨old, fun _ taken => ?_⟩
  cases taken
  refine ⟨trivial, fun _ taken => ?_⟩
  cases taken
  refine along_assign (fun other apart => ?_) fun last ran quiet => ⟨fun cell _ => ⟨rfl, ?_⟩, ?_⟩
  · refine (Function.update_of_ne apart _ _).trans ?_
    by_cases resized : other = 1
    · rw [resized]
      rfl
    · exact (Function.update_of_ne resized _ _).trans (Function.update_of_ne resized _ _)
  · intro other
    have idle : last.phase other = .idle := by
      by_cases own : other = 0
      · cases ran
        rw [own]
        rfl
      · exact quiet other own
    rw [idle]
    exact ⟨not_writes_idle, not_late_idle⟩
  · exact fun _ _ => trivial

/-- A reply that is kept after another thread has resized the window. -/
theorem old_width_answered :
    ¬ (surfaceSystem askWidth).Along (AnswersRight askWidth) (.start 640)
      [(0, .eglQuerySurface ⟨1, 1, eglWidth⟩ true), (1, .wlEglWindow (fun _ => 800) true), (1, .bump),
        (0, .assign), (0, .assign), (0, .assign), (0, .assign), (0, .assign),
        (0, .answer ⟨1, 1, eglWidth⟩)] := by
  intro along
  iterate 8 obtain ⟨-, along⟩ := along; replace along := along _ rfl
  have right := along.1 ⟨1, 1, eglWidth⟩ 640 rfl (by decide)
  revert right
  decide

end GlesBridge.Egl
