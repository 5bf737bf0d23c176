import GlesBridge.Data.Index
import Mathlib.Data.List.FinRange
import Mathlib.Logic.Function.Basic

namespace GlesBridge.Data

/-! Tables that hand out indices for objects. Index 0 is never handed out. -/

variable {n : Nat} {Owner Object : Type}

/-- The indices that can be handed out, in their order. -/
def places (n : Nat) : List (Fin (n + 1)) := (List.finRange (n + 1)).tail

/-- The first place of an object. -/
def placeOf [DecidableEq Object] (table : Fin (n + 1) → Object) (object : Object) :
    Option (Fin (n + 1)) :=
  (places n).find? fun place => table place == object

/-- An object takes the first place that is free; 0 if there is none. -/
def allocate [DecidableEq Object] (table : Fin (n + 1) → Object) (null object : Object) :
    (Fin (n + 1) → Object) × Fin (n + 1) :=
  match placeOf table null with
  | some place => (Function.update table place object, place)
  | none => (table, 0)

def Absent (table : Fin (n + 1) → Object) (object : Object) : Prop :=
  ∀ place, place ≠ 0 → table place ≠ object

/-- An index that was handed out for an object, and to whom the object belongs. -/
structure Handed (Owner Object : Type) where
  owner : Owner
  object : Object
  index : Nat
deriving DecidableEq, Repr

/-- The index and no other one stands for the object. -/
structure Denotes (table : Fin (n + 1) → Object) (null object : Object) (index : Nat) : Prop where
  real : object ≠ null
  nonzero : index ≠ 0
  bound : index ≤ n
  exact : ∀ place, place ≠ 0 → (table place = object ↔ place.val = index)

def Faithful (table : Fin (n + 1) → Object) (null : Object) (given : List (Handed Owner Object)) :
    Prop :=
  ∀ handed ∈ given, Denotes table null handed.object handed.index

/-- Every object of the table was handed out under its index. -/
def Complete (table : Fin (n + 1) → Object) (null : Object) (given : List (Handed Owner Object)) :
    Prop :=
  ∀ place, place ≠ 0 → table place ≠ null →
    ∃ handed ∈ given, handed.object = table place ∧ handed.index = place.val

/-- Nothing is noted where neither an object nor an index was given. -/
def note [DecidableEq Object] (null : Object) (owner : Owner) (object : Object) (index : Nat)
    (given : List (Handed Owner Object)) : List (Handed Owner Object) :=
  if object = null ∧ index = 0 then given else ⟨owner, object, index⟩ :: given

structure Numbered (table : Fin (n + 1) → Object) (null : Object)
    (given : List (Handed Owner Object)) : Prop where
  faithful : Faithful table null given
  complete : Complete table null given

/-- The entry that the object gets is its only one. -/
def Fits [DecidableEq Object] (table : Fin (n + 1) → Object) (null object : Object) : Prop :=
  if placeOf table null = none then object = null else object ≠ null ∧ Absent table object

variable {table : Fin (n + 1) → Object} {null object other : Object} {place : Fin (n + 1)}
  {index : Nat} {given rest : List (Handed Owner Object)} {owner : Owner}

theorem mem_places : place ∈ places n ↔ place ≠ 0 := by
  rw [places, List.finRange_succ, List.tail_cons, List.mem_map]
  constructor
  · rintro ⟨before, -, rfl⟩
    exact Fin.succ_ne_zero before
  · intro nonzero
    exact ⟨place.pred nonzero, List.mem_finRange _, Fin.succ_pred place nonzero⟩

/-- An entry changes that is not the object's and does not become so. -/
theorem Denotes.update (denotes : Denotes table null object index)
    (was : place ≠ 0 → table place ≠ object) (becomes : place ≠ 0 → other ≠ object) :
    Denotes (Function.update table place other) null object index := by
  refine ⟨denotes.real, denotes.nonzero, denotes.bound, fun spot nonzero => ?_⟩
  by_cases same : spot = place
  · subst same
    rw [Function.update_self]
    have left : ¬ spot.val = index := fun val => was nonzero ((denotes.exact spot nonzero).mpr val)
    exact iff_of_false (becomes nonzero) left
  · rw [Function.update_of_ne same]
    exact denotes.exact spot nonzero

/-- An object that is entered at a place has it for its own if it has no other one. -/
theorem denotes_update (nonzero : place ≠ 0) :
    Denotes (Function.update table place object) null object place.val ↔
      object ≠ null ∧ ∀ spot, spot ≠ 0 → spot ≠ place → table spot ≠ object := by
  constructor
  · intro denotes
    refine ⟨denotes.real, fun spot positive apart entry => apart (Fin.ext ?_)⟩
    refine (denotes.exact spot positive).mp ?_
    rw [Function.update_of_ne apart, entry]
  · rintro ⟨real, alone⟩
    refine ⟨real, fun zero => nonzero (Fin.ext zero), Nat.le_of_lt_succ place.isLt,
      fun spot positive => ?_⟩
    by_cases same : spot = place
    · rw [same, Function.update_self]
      exact iff_of_true rfl rfl
    · rw [Function.update_of_ne same]
      exact iff_of_false (alone spot positive same) fun val => same (Fin.ext val)

/-- An object has no second index. -/
theorem Denotes.unique {second : Nat} (denotes : Denotes table null object index)
    (again : Denotes table null object second) : index = second := by
  have nonzero : (⟨index, Nat.lt_succ_of_le denotes.bound⟩ : Fin (n + 1)) ≠ 0 :=
    fun zero => denotes.nonzero (congrArg Fin.val zero)
  exact (again.exact _ nonzero).mp ((denotes.exact _ nonzero).mpr rfl)

theorem faithful_cons {handed : Handed Owner Object} :
    Faithful table null (handed :: given) ↔
      Denotes table null handed.object handed.index ∧ Faithful table null given :=
  List.forall_mem_cons

theorem Numbered.empty : Numbered (fun _ : Fin (n + 1) => null) null ([] : List (Handed Owner Object)) where
  faithful _ member := nomatch member
  complete _ _ entry := absurd rfl entry

/-- Less is handed out. -/
theorem Faithful.subset (faithful : Faithful table null given)
    (fewer : ∀ handed ∈ rest, handed ∈ given) : Faithful table null rest :=
  fun handed member => faithful handed (fewer handed member)

/-- An object is entered at a free place. -/
theorem Faithful.enter (faithful : Faithful table null given) (nonzero : place ≠ 0)
    (free : table place = null) :
    Faithful (Function.update table place object) null (⟨owner, object, place.val⟩ :: given) ↔
      object ≠ null ∧ Absent table object := by
  rw [faithful_cons]
  have spots : (∀ spot, spot ≠ 0 → spot ≠ place → table spot ≠ object) ∧ object ≠ null →
      Absent table object := by
    rintro ⟨alone, real⟩ spot positive
    by_cases same : spot = place
    · rw [same, free]
      exact real.symm
    · exact alone spot positive same
  constructor
  · rintro ⟨denotes, -⟩
    obtain ⟨real, alone⟩ := (denotes_update nonzero).mp denotes
    exact ⟨real, spots ⟨alone, real⟩⟩
  · rintro ⟨real, absent⟩
    refine ⟨(denotes_update nonzero).mpr ⟨real, fun spot positive _ => absent spot positive⟩,
      fun handed member => ?_⟩
    have held := faithful handed member
    refine held.update (fun _ entry => held.real (entry.symm.trans free)) fun _ same => ?_
    have spot : (⟨handed.index, Nat.lt_succ_of_le held.bound⟩ : Fin (n + 1)) ≠ 0 :=
      fun zero => held.nonzero (congrArg Fin.val zero)
    exact absent _ spot (((held.exact _ spot).mpr rfl).trans same.symm)

/-- The handles of an object end with it. -/
theorem Faithful.remove [DecidableEq Object] (faithful : Faithful table null given) :
    Faithful (Function.update table place null) null
      (given.filter fun handed => handed.object ≠ table place) := by
  intro handed member
  obtain ⟨before, apart⟩ := List.mem_filter.mp member
  have held := faithful handed before
  exact held.update (fun _ entry => of_decide_eq_true apart entry.symm) fun _ => held.real.symm

theorem Complete.enter (complete : Complete table null given) (free : table place = null) :
    Complete (Function.update table place object) null (⟨owner, object, place.val⟩ :: given) := by
  intro spot positive entry
  by_cases same : spot = place
  · subst same
    exact ⟨_, .head _, (Function.update_self spot object table).symm, rfl⟩
  · rw [Function.update_of_ne same] at entry ⊢
    obtain ⟨handed, member, found⟩ := complete spot positive entry
    exact ⟨handed, .tail _ member, found⟩

theorem Complete.grow (complete : Complete table null given)
    (more : ∀ handed ∈ given, handed ∈ rest) : Complete table null rest := by
  intro spot positive entry
  obtain ⟨handed, member, found⟩ := complete spot positive entry
  exact ⟨handed, more handed member, found⟩

/-- What was handed out under a place is what stands there. -/
theorem Complete.denotes (complete : Complete table null given) (faithful : Faithful table null given)
    (nonzero : place ≠ 0) (entry : table place ≠ null) :
    Denotes table null (table place) place.val := by
  obtain ⟨handed, member, object, index⟩ := complete place nonzero entry
  rw [← object, ← index]
  exact faithful handed member

theorem Numbered.denotes (numbered : Numbered table null given) (nonzero : place ≠ 0)
    (entry : table place ≠ null) : Denotes table null (table place) place.val :=
  numbered.complete.denotes numbered.faithful nonzero entry

section

variable [DecidableEq Object]

theorem placeOf_some (found : placeOf table object = some place) :
    place ≠ 0 ∧ table place = object := by
  refine ⟨mem_places.mp (List.mem_of_find?_eq_some found), ?_⟩
  have held := List.find?_some found
  exact beq_iff_eq.mp held

theorem placeOf_eq_none : placeOf table object = none ↔ Absent table object := by
  simp [placeOf, Absent, mem_places]

theorem allocate_free (free : placeOf table null = some place) :
    allocate table null object = (Function.update table place object, place) := by
  rw [allocate, free]

theorem allocate_full (full : placeOf table null = none) :
    allocate table null object = (table, 0) := by
  rw [allocate, full]

theorem Denotes.found (denotes : Denotes table null object index) :
    ∃ place, placeOf table object = some place ∧ place.val = index := by
  cases found : placeOf table object with
  | none =>
      have absent := placeOf_eq_none.mp found
      have nonzero : (⟨index, Nat.lt_succ_of_le denotes.bound⟩ : Fin (n + 1)) ≠ 0 :=
        fun zero => denotes.nonzero (congrArg Fin.val zero)
      exact absurd ((denotes.exact _ nonzero).mpr rfl) (absent _ nonzero)
  | some place =>
      obtain ⟨nonzero, entry⟩ := placeOf_some found
      exact ⟨place, rfl, (denotes.exact place nonzero).mp entry⟩

/-! ## Notes of what was given -/

theorem note_none : note null owner null 0 given = given :=
  if_pos ⟨rfl, rfl⟩

theorem note_some (nonzero : index ≠ 0) :
    note null owner object index given = ⟨owner, object, index⟩ :: given :=
  if_neg fun both => nonzero both.2

theorem note_real (real : object ≠ null) :
    note null owner object index given = ⟨owner, object, index⟩ :: given :=
  if_neg fun both => real both.1

theorem Faithful.note (faithful : Faithful table null given)
    (denotes : Denotes table null object index) :
    Faithful table null (note null owner object index given) := by
  rw [note_real denotes.real]
  exact faithful_cons.mpr ⟨denotes, faithful⟩

theorem Numbered.note (numbered : Numbered table null given)
    (denotes : Denotes table null object index) :
    Numbered table null (note null owner object index given) := by
  refine ⟨numbered.faithful.note denotes, ?_⟩
  rw [note_real denotes.real]
  exact numbered.complete.grow fun _ => .tail _

/-- An object is found under its index. -/
theorem Numbered.found (numbered : Numbered table null given) (real : object ≠ null)
    (found : placeOf table object = some place) : Denotes table null object place.val := by
  obtain ⟨nonzero, rfl⟩ := placeOf_some found
  exact numbered.denotes nonzero real

theorem Faithful.allocate (faithful : Faithful table null given) (fits : Fits table null object) :
    Faithful (allocate table null object).1 null
      (Data.note null owner object (allocate table null object).2.val given) := by
  unfold Fits at fits
  cases free : placeOf table null with
  | none =>
      rw [if_pos free] at fits
      rw [allocate_full free, fits, Fin.val_zero, note_none]
      exact faithful
  | some place =>
      obtain ⟨nonzero, entry⟩ := placeOf_some free
      rw [if_neg (by simp [free])] at fits
      rw [allocate_free free, note_real fits.1]
      exact (faithful.enter nonzero entry).mpr fits

theorem Complete.allocate (complete : Complete table null given) :
    Complete (allocate table null object).1 null
      (Data.note null owner object (allocate table null object).2.val given) := by
  cases free : placeOf table null with
  | none =>
      rw [allocate_full free]
      unfold Data.note
      split
      · exact complete
      · exact complete.grow fun _ => .tail _
  | some place =>
      obtain ⟨nonzero, entry⟩ := placeOf_some free
      rw [allocate_free free, note_some fun zero => nonzero (Fin.ext zero)]
      exact complete.enter entry

theorem Numbered.allocate (numbered : Numbered table null given) (fits : Fits table null object) :
    Numbered (allocate table null object).1 null
      (Data.note null owner object (allocate table null object).2.val given) :=
  ⟨numbered.faithful.allocate fits, numbered.complete.allocate⟩

end

end GlesBridge.Data
