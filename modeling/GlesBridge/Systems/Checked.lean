import Mathlib.Data.Fin.Basic

namespace GlesBridge.Systems

/-! Programs that index arrays of fixed sizes, and end at the first access past
the end of one.
-/

/-- An access past the end of an array. -/
structure Overrun (Name : Type) where
  array : Name
  index : Nat
deriving DecidableEq, Repr

/-- Programs over a state, with arrays of the given names. -/
abbrev Checked (Name State : Type) : Type → Type := StateT State (Except (Overrun Name))

namespace Checked

variable {Name State Value Other : Type}

/-- An index, once it is known to be inside an array of the size. -/
def access (array : Name) (size index : Nat) : Checked Name State (Fin size) :=
  if below : index < size then pure ⟨index, below⟩ else throw ⟨array, index⟩

/-- The program ends without an access past an array, and `post` holds of its value
and of the state that it leaves. -/
def Yields (program : Checked Name State Value) (post : Value → State → Prop)
    (state : State) : Prop :=
  match program.run state with
  | .ok (value, after) => post value after
  | .error _ => False

/-- If the program ends without one, `post` holds. -/
def Ensures (program : Checked Name State Value) (post : Value → State → Prop)
    (state : State) : Prop :=
  ∀ value after, program.run state = .ok (value, after) → post value after

/-- Every access is inside its array. -/
def Safe (program : Checked Name State Value) (state : State) : Prop :=
  ∀ overrun, program.run state ≠ .error overrun

variable {program : Checked Name State Value} {next : Value → Checked Name State Other}
  {post stronger : Value → State → Prop} {result : Other → State → Prop} {state after : State}
  {value : Value} {condition : Prop}

theorem yields_iff_run :
    program.Yields post state ↔
      ∃ value after, program.run state = .ok (value, after) ∧ post value after := by
  unfold Yields
  cases program.run state with
  | error overrun => simp
  | ok made =>
      constructor
      · exact fun holds => ⟨made.1, made.2, rfl, holds⟩
      · rintro ⟨value, after, same, holds⟩
        cases same
        exact holds

theorem Yields.mono (yields : program.Yields stronger state)
    (weaker : ∀ value after, stronger value after → post value after) :
    program.Yields post state := by
  obtain ⟨value, after, runs, holds⟩ := yields_iff_run.mp yields
  exact yields_iff_run.mpr ⟨value, after, runs, weaker value after holds⟩

/-- What a program yields is what its run ends with. -/
theorem Yields.of_run (yields : program.Yields post state)
    (runs : program.run state = .ok (value, after)) : post value after := by
  unfold Yields at yields
  rw [runs] at yields
  exact yields

theorem Yields.run_eq (yields : program.Yields (fun made reached => made = value ∧ reached = after) state) :
    program.run state = .ok (value, after) := by
  obtain ⟨made, reached, runs, rfl, rfl⟩ := yields_iff_run.mp yields
  exact runs

theorem safe_iff_yields : program.Safe state ↔ program.Yields (fun _ _ => True) state := by
  unfold Safe Yields
  cases program.run state with
  | error overrun => simp
  | ok made => simp

theorem Yields.safe (yields : program.Yields post state) : program.Safe state :=
  safe_iff_yields.mpr (yields.mono fun _ _ _ => trivial)

@[simp] theorem yields_pure : (pure value : Checked Name State Value).Yields post state ↔
    post value state := Iff.rfl

@[simp] theorem yields_bind : (program >>= next).Yields result state ↔
    program.Yields (fun value after => (next value).Yields result after) state := by
  unfold Yields
  rw [StateT.run_bind]
  cases program.run state with
  | error overrun => rfl
  | ok made => rfl

@[simp] theorem yields_map {change : Value → Other} : (change <$> program).Yields result state ↔
    program.Yields (fun value after => result (change value) after) state := by
  rw [map_eq_pure_bind, yields_bind]
  rfl

@[simp] theorem yields_get {post : State → State → Prop} :
    (get : Checked Name State State).Yields post state ↔ post state state := Iff.rfl

@[simp] theorem yields_set {post : PUnit → State → Prop} :
    (set after : Checked Name State PUnit).Yields post state ↔ post ⟨⟩ after := Iff.rfl

@[simp] theorem yields_modify {post : PUnit → State → Prop} {change : State → State} :
    (modify change : Checked Name State PUnit).Yields post state ↔ post ⟨⟩ (change state) := Iff.rfl

@[simp] theorem yields_access {array : Name} {size index : Nat} {post : Fin size → State → Prop} :
    (access array size index : Checked Name State _).Yields post state ↔
      ∃ below : index < size, post ⟨index, below⟩ state := by
  unfold access
  split
  · rename_i below
    exact ⟨fun holds => ⟨below, holds⟩, fun ⟨_, holds⟩ => holds⟩
  · rename_i past
    exact ⟨False.elim, fun ⟨below, _⟩ => past below⟩

theorem yields_ite [Decidable condition] {other : Checked Name State Value} :
    (if condition then program else other).Yields post state ↔
      (condition → program.Yields post state) ∧ (¬ condition → other.Yields post state) := by
  split <;> simp [*]

/-! ## Programs that may end at an access -/

theorem Yields.ensures_iff (yields : program.Yields stronger state) :
    program.Ensures post state ↔ program.Yields post state := by
  obtain ⟨value, after, runs, -⟩ := yields_iff_run.mp yields
  constructor
  · intro ensures
    exact yields_iff_run.mpr ⟨value, after, runs, ensures value after runs⟩
  · intro holds value after runs
    exact holds.of_run runs

@[simp] theorem ensures_pure : (pure value : Checked Name State Value).Ensures post state ↔
    post value state := by
  constructor
  · intro ensures
    exact ensures value state rfl
  · rintro holds _ _ ⟨⟩
    exact holds

@[simp] theorem ensures_bind : (program >>= next).Ensures result state ↔
    program.Ensures (fun value after => (next value).Ensures result after) state := by
  constructor
  · intro ensures value after runs other reached continues
    apply ensures
    rw [StateT.run_bind, runs]
    exact continues
  · intro ensures other reached runs
    rw [StateT.run_bind] at runs
    cases first : program.run state with
    | error overrun =>
        rw [first] at runs
        cases runs
    | ok made =>
        rw [first] at runs
        exact ensures made.1 made.2 first other reached runs

@[simp] theorem ensures_map {change : Value → Other} : (change <$> program).Ensures result state ↔
    program.Ensures (fun value after => result (change value) after) state := by
  rw [map_eq_pure_bind, ensures_bind]
  simp only [ensures_pure]

@[simp] theorem ensures_get {post : State → State → Prop} :
    (get : Checked Name State State).Ensures post state ↔ post state state := by
  constructor
  · intro ensures
    exact ensures state state rfl
  · rintro holds _ _ ⟨⟩
    exact holds

@[simp] theorem ensures_modify {post : PUnit → State → Prop} {change : State → State} :
    (modify change : Checked Name State PUnit).Ensures post state ↔ post ⟨⟩ (change state) := by
  constructor
  · intro ensures
    exact ensures ⟨⟩ (change state) rfl
  · rintro holds _ _ ⟨⟩
    exact holds

@[simp] theorem ensures_access {array : Name} {size index : Nat} {post : Fin size → State → Prop} :
    (access array size index : Checked Name State _).Ensures post state ↔
      ∀ below : index < size, post ⟨index, below⟩ state := by
  unfold access
  split
  · rename_i below
    exact ⟨fun ensures _ => ensures _ _ rfl, fun holds => ensures_pure.mpr (holds below)⟩
  · rename_i past
    exact ⟨fun _ below => absurd below past, fun _ _ _ runs => nomatch runs⟩

theorem ensures_ite [Decidable condition] {other : Checked Name State Value} :
    (if condition then program else other).Ensures post state ↔
      (condition → program.Ensures post state) ∧ (¬ condition → other.Ensures post state) := by
  split <;> simp [*]

end Checked

end GlesBridge.Systems
