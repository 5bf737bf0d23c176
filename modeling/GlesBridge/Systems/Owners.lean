import Mathlib.Data.List.Basic

namespace GlesBridge.Systems

universe u

/-! Objects that belong to owners, and that are not to be used once their owner is over. The
owners are numbered from 1 as they begin, and what was never made belongs to 0. -/

structure Owners (Object : Type u) where
  home : Object → Nat
  begun : Nat
  ended : List Nat

namespace Owners

variable {Object : Type u} [DecidableEq Object] (owners : Owners Object)

def Open (object : Object) : Prop := owners.home object ∉ owners.ended

/-- An object may have the name of one that is gone. -/
def give (objects : List Object) (number : Nat) : Owners Object :=
  { owners with home := fun object => if object ∈ objects then number else owners.home object }

/-- A new owner, and what is made with it. -/
def start (objects : List Object) : Owners Object :=
  { owners.give objects (owners.begun + 1) with begun := owners.begun + 1 }

def finish (owner : Object) : Owners Object :=
  { owners with ended := owners.home owner :: owners.ended }

/-- No owner is at home or over that has not begun. -/
structure Numbered (owners : Owners Object) : Prop where
  home : ∀ object, owners.home object ≤ owners.begun
  ended : ∀ number ∈ owners.ended, 0 < number ∧ number ≤ owners.begun

variable {owners} {objects : List Object} {object owner : Object} {number : Nat}

theorem home_give_of_mem (made : object ∈ objects) :
    (owners.give objects number).home object = number :=
  if_pos made

theorem home_give_of_not_mem (other : object ∉ objects) :
    (owners.give objects number).home object = owners.home object :=
  if_neg other

theorem home_start_of_mem (made : object ∈ objects) :
    (owners.start objects).home object = owners.begun + 1 :=
  if_pos made

theorem home_start_of_not_mem (other : object ∉ objects) :
    (owners.start objects).home object = owners.home object :=
  if_neg other

theorem Open.give (was : owners.Open object) (fits : number ∉ owners.ended) :
    (owners.give objects number).Open object := by
  by_cases made : object ∈ objects
  · rw [Open, home_give_of_mem made]
    exact fits
  · rw [Open, home_give_of_not_mem made]
    exact was

theorem open_give_of_mem (made : object ∈ objects) (fits : number ∉ owners.ended) :
    (owners.give objects number).Open object := by
  rw [Open, home_give_of_mem made]
  exact fits

theorem Numbered.zero_open (numbered : owners.Numbered) : 0 ∉ owners.ended :=
  fun member => absurd (numbered.ended 0 member).1 (Nat.lt_irrefl 0)

theorem Numbered.next_open (numbered : owners.Numbered) : owners.begun + 1 ∉ owners.ended :=
  fun member => absurd (numbered.ended _ member).2 (Nat.not_succ_le_self _)

theorem Open.start (was : owners.Open object) (numbered : owners.Numbered) :
    (owners.start objects).Open object :=
  Open.give was numbered.next_open

/-- What ends with an owner is what belongs to it. -/
theorem open_finish_iff :
    (owners.finish owner).Open object ↔
      owners.home object ≠ owners.home owner ∧ owners.Open object := by
  rw [Open, finish, List.mem_cons, not_or]
  rfl

theorem Numbered.give (numbered : owners.Numbered) (begun : number ≤ owners.begun) :
    (owners.give objects number).Numbered where
  home object := by
    by_cases made : object ∈ objects
    · rw [home_give_of_mem made]
      exact begun
    · rw [home_give_of_not_mem made]
      exact numbered.home object
  ended := numbered.ended

theorem Numbered.start (numbered : owners.Numbered) : (owners.start objects).Numbered where
  home object := by
    by_cases made : object ∈ objects
    · rw [home_start_of_mem made]
      exact Nat.le_refl _
    · rw [home_start_of_not_mem made]
      exact Nat.le_succ_of_le (numbered.home object)
  ended number member := by
    obtain ⟨positive, begun⟩ := numbered.ended number member
    exact ⟨positive, Nat.le_succ_of_le begun⟩

theorem Numbered.finish (numbered : owners.Numbered) (made : 0 < owners.home owner) :
    (owners.finish owner).Numbered where
  home := numbered.home
  ended number member := by
    rcases List.mem_cons.mp member with rfl | before
    · exact ⟨made, numbered.home owner⟩
    · exact numbered.ended number before

end Owners

end GlesBridge.Systems
