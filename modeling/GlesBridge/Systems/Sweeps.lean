import Mathlib.Data.List.Basic
import Mathlib.Logic.Function.Basic

namespace GlesBridge.Systems

universe u

/-! Loops over numbered places with other work between two of them, other loops of the
same kind included. Each one notes the items that were marked when it began.
-/

structure Sweep (Item : Type u) where
  position : Nat
  since : Item → Bool

structure Sweeps (Item : Type u) where
  /-- The loops that began after an item was last marked, and that have ended. -/
  ended : Item → Nat
  /-- The innermost loop is the first. -/
  going : List (Sweep Item)

variable {Item : Type u}

namespace Sweep

variable (sweep : Sweep Item) (item : Item) (place : Nat)

def next : Sweep Item := { sweep with position := sweep.position + 1 }

/-- The loop began after the item was marked, and it has gone by the place. -/
def Passed : Bool := sweep.since item && decide (place < sweep.position)

theorem passed_next_of_ne {sweep : Sweep Item} {item : Item} {place : Nat}
    (apart : place ≠ sweep.position) : sweep.next.Passed item place = sweep.Passed item place := by
  have same : place < sweep.position + 1 ↔ place < sweep.position := by omega
  exact congrArg _ (decide_eq_decide.mpr same)

theorem passed_beyond {sweep : Sweep Item} {item : Item} {place : Nat}
    (beyond : place < sweep.position) : sweep.Passed item place = sweep.since item := by
  rw [Passed, decide_eq_true beyond, Bool.and_true]

def forget [DecidableEq Item] : Sweep Item :=
  { sweep with since := Function.update sweep.since item false }

theorem passed_forget_of_ne [DecidableEq Item] {sweep : Sweep Item} {item other : Item} {place : Nat}
    (apart : other ≠ item) : (sweep.forget item).Passed other place = sweep.Passed other place :=
  congrArg (· && decide (place < sweep.position)) (Function.update_of_ne apart ..)

end Sweep

namespace Sweeps

variable (sweeps : Sweeps Item)

def initial : Sweeps Item where
  ended _ := 0
  going := []

def start (marked : Item → Bool) : Sweeps Item :=
  { sweeps with going := { position := 0, since := marked } :: sweeps.going }

def advance : Sweeps Item :=
  match sweeps.going with
  | top :: rest => { sweeps with going := top.next :: rest }
  | [] => sweeps

def close : Sweeps Item :=
  match sweeps.going with
  | top :: rest =>
      { ended := fun item => sweeps.ended item + if top.since item = true then 1 else 0
        going := rest }
  | [] => sweeps

/-- The loops that have ended, and those that have passed a place. -/
def progress (item : Item) (place : Nat) : Nat :=
  sweeps.ended item + sweeps.going.countP (·.Passed item place)

variable {sweeps} {item other : Item} {place : Nat} {top : Sweep Item} {rest : List (Sweep Item)}

theorem ended_le_progress : sweeps.ended item ≤ sweeps.progress item place :=
  Nat.le_add_right ..

@[simp] theorem ended_start {marked : Item → Bool} :
    (sweeps.start marked).ended = sweeps.ended := rfl

@[simp] theorem progress_start {marked : Item → Bool} :
    (sweeps.start marked).progress item place = sweeps.progress item place := by
  simp [progress, start, Sweep.Passed]

theorem progress_advance_of_ne (going : sweeps.going = top :: rest)
    (apart : place ≠ top.position) :
    sweeps.advance.progress item place = sweeps.progress item place := by
  rw [advance, going]
  rw [progress, progress, going, List.countP_cons, List.countP_cons, Sweep.passed_next_of_ne apart]

theorem progress_advance_le : sweeps.advance.progress item place ≤ sweeps.progress item place + 1 := by
  cases going : sweeps.going with
  | nil =>
      rw [advance, going]
      exact Nat.le_succ _
  | cons top rest =>
      rw [advance, going]
      rw [progress, progress, going, List.countP_cons, List.countP_cons]
      have more : (if top.next.Passed item place = true then 1 else 0) ≤ 1 := by
        split <;> omega
      dsimp only
      omega

/-- A loop at its end has passed every place, so that its end changes nothing. -/
theorem progress_close (going : sweeps.going = top :: rest) (beyond : place < top.position) :
    sweeps.close.progress item place = sweeps.progress item place := by
  rw [close, going]
  rw [progress, progress, going, List.countP_cons, Sweep.passed_beyond beyond]
  dsimp only
  omega

section

variable [DecidableEq Item]

/-- The item is marked again: what began before does not count. -/
def restart (sweeps : Sweeps Item) (item : Item) : Sweeps Item where
  ended := Function.update sweeps.ended item 0
  going := sweeps.going.map (·.forget item)

theorem progress_restart_self : (sweeps.restart item).progress item place = 0 := by
  have none : (sweeps.restart item).going.countP (·.Passed item place) = 0 := by
    rw [List.countP_eq_zero]
    intro sweep member
    obtain ⟨before, -, rfl⟩ := List.mem_map.mp member
    simp [Sweep.Passed, Sweep.forget]
  rw [progress, none]
  exact Function.update_self ..

theorem progress_restart_of_ne (apart : other ≠ item) :
    (sweeps.restart item).progress other place = sweeps.progress other place := by
  have ended : (sweeps.restart item).ended other = sweeps.ended other := Function.update_of_ne apart ..
  have same : (fun sweep : Sweep Item => (sweep.forget item).Passed other place) =
      (·.Passed other place) := by
    funext sweep
    rw [Sweep.passed_forget_of_ne apart]
  have going : (sweeps.restart item).going.countP (·.Passed other place) =
      sweeps.going.countP (·.Passed other place) := by
    change (sweeps.going.map (·.forget item)).countP _ = _
    rw [List.countP_map]
    exact congrArg (sweeps.going.countP ·) same
  rw [progress, ended, going, progress]

end

end Sweeps

end GlesBridge.Systems
