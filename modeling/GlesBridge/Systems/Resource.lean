import Mathlib.Data.List.Basic
import Mathlib.Logic.Function.Basic

namespace GlesBridge.Systems

universe u

/-! Objects that are made under names, used and released. A name may be given
out again once its object is gone, so the objects are numbered as they are made.
-/

/-- What is asked of a store. A stray use or release names no object. -/
inductive StoreEvent (Name : Type u) where
  | use (object : Nat)
  | release (object : Nat)
  | stray (name : Name)
deriving DecidableEq, Repr

/-- The latest event comes first in `log`. -/
structure Store (Name : Type u) where
  object : Name → Option Nat
  made : Nat
  log : List (StoreEvent Name)

namespace Store

variable {Name : Type u}

def empty : Store Name where
  object _ := none
  made := 0
  log := []

variable (store : Store Name)

def use (name : Name) : Store Name :=
  { store with
    log := ((store.object name).elim (.stray name) StoreEvent.use) :: store.log }

/-- Nothing is asked of an object after its release. -/
def Settled (log : List (StoreEvent Name)) : Prop :=
  log.Pairwise fun later earlier =>
    ∀ object, earlier = .release object → later ≠ .use object ∧ later ≠ .release object

/-- The names tell the objects apart that are made and not released. -/
structure Tidy (store : Store Name) : Prop where
  made : ∀ {name object}, store.object name = some object → object < store.made
  kept : ∀ {name object}, store.object name = some object → .release object ∉ store.log
  named : ∀ object, object < store.made → .release object ∉ store.log →
    ∃ name, store.object name = some object
  apart : ∀ {name other object}, store.object name = some object →
    store.object other = some object → name = other
  asked : ∀ {object}, .release object ∈ store.log → object < store.made
  settled : Settled store.log

variable {store} {name other : Name} {object : Nat}

theorem Tidy.empty : (Store.empty : Store Name).Tidy where
  made found := by cases found
  kept found := by cases found
  named _ below := by cases below
  apart found := by cases found
  asked mem := by cases mem
  settled := .nil

@[simp] theorem use_object : (store.use name).object = store.object := rfl

@[simp] theorem use_made : (store.use name).made = store.made := rfl

theorem use_log_of_some (found : store.object name = some object) :
    (store.use name).log = .use object :: store.log := by
  simp [use, found]

theorem Tidy.use (tidy : store.Tidy) (found : store.object name = some object) :
    (store.use name).Tidy := by
  have log := use_log_of_some found
  have released {other : Nat} : .release other ∈ (store.use name).log ↔
      .release other ∈ store.log := by simp [log]
  refine ⟨tidy.made, fun live => released.not.mpr (tidy.kept live), fun other below gone =>
    tidy.named other below (released.not.mp gone), tidy.apart, fun mem =>
    tidy.asked (released.mp mem), ?_⟩
  rw [Settled, log, List.pairwise_cons]
  refine ⟨fun earlier mem other shape => ?_, tidy.settled⟩
  subst shape
  constructor
  · intro same
    cases same
    exact tidy.kept found mem
  · intro same
    cases same

variable [DecidableEq Name]

/-- Only a name without an object is given to a new one. -/
def make (store : Store Name) (name : Name) : Store Name :=
  { store with
    object := Function.update store.object name (some store.made)
    made := store.made + 1 }

def release (store : Store Name) (name : Name) : Store Name :=
  { store with
    object := Function.update store.object name none
    log := ((store.object name).elim (.stray name) StoreEvent.release) :: store.log }

@[simp] theorem release_made : (store.release name).made = store.made := rfl

theorem release_log_of_some (found : store.object name = some object) :
    (store.release name).log = .release object :: store.log := by
  simp [release, found]

theorem Tidy.make (tidy : store.Tidy) (fresh : store.object name = none) :
    (store.make name).Tidy := by
  have older {other : Name} {object : Nat}
      (found : (store.make name).object other = some object) :
      (other = name ∧ object = store.made) ∨ store.object other = some object := by
    by_cases here : other = name
    · subst here
      exact .inl ⟨rfl, by simpa [Store.make, eq_comm] using found⟩
    · exact .inr (by simpa [Store.make, here] using found)
  constructor
  · intro other object found
    rcases older found with ⟨-, rfl⟩ | before
    · exact Nat.lt_succ_self _
    · exact Nat.lt_succ_of_lt (tidy.made before)
  · intro other object found released
    rcases older found with ⟨-, rfl⟩ | before
    · exact Nat.lt_irrefl _ (tidy.asked released)
    · exact tidy.kept before released
  · intro object below released
    rcases Nat.lt_succ_iff_lt_or_eq.mp below with before | rfl
    · obtain ⟨other, found⟩ := tidy.named object before released
      have apart : other ≠ name := fun same => by simp [← same, found] at fresh
      exact ⟨other, by simp [Store.make, apart, found]⟩
    · exact ⟨name, by simp [Store.make]⟩
  · intro left right object found also
    rcases older found with ⟨rfl, rfl⟩ | before
    · rcases older also with ⟨rfl, -⟩ | before
      · rfl
      · exact absurd (tidy.made before) (Nat.lt_irrefl _)
    · rcases older also with ⟨rfl, rfl⟩ | also
      · exact absurd (tidy.made before) (Nat.lt_irrefl _)
      · exact tidy.apart before also
  · intro object released
    exact Nat.lt_succ_of_lt (tidy.asked released)
  · exact tidy.settled

theorem Tidy.release (tidy : store.Tidy) (found : store.object name = some object) :
    (store.release name).Tidy := by
  have log := release_log_of_some found
  have live {other : Name} {number : Nat}
      (left : (store.release name).object other = some number) :
      other ≠ name ∧ store.object other = some number := by
    by_cases here : other = name
    · simp [Store.release, here] at left
    · exact ⟨here, by simpa [Store.release, here] using left⟩
  constructor
  · intro other number left
    exact tidy.made (live left).2
  · intro other number left mem
    rw [log, List.mem_cons] at mem
    rcases mem with same | before
    · cases same
      exact (live left).1 (tidy.apart (live left).2 found)
    · exact tidy.kept (live left).2 before
  · intro number below gone
    rw [log, List.mem_cons, not_or] at gone
    obtain ⟨other, left⟩ := tidy.named number below gone.2
    have apart : other ≠ name := by
      intro same
      rw [same, found] at left
      cases left
      exact gone.1 rfl
    exact ⟨other, by simp [Store.release, apart, left]⟩
  · intro left right number here there
    exact tidy.apart (live here).2 (live there).2
  · intro number mem
    rw [log, List.mem_cons] at mem
    rcases mem with same | before
    · cases same
      exact tidy.made found
    · exact tidy.asked before
  · rw [Settled, log, List.pairwise_cons]
    refine ⟨fun earlier mem other shape => ?_, tidy.settled⟩
    subst shape
    constructor
    · intro same
      cases same
    · intro same
      cases same
      exact tidy.kept found mem

end Store

end GlesBridge.Systems
