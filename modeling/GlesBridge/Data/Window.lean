import Mathlib.Data.Nat.Init
import Mathlib.Tactic.Ring

namespace GlesBridge.Data

/-! Positions on a circle of `capacity` cells, addressed by numbers that only
grow.  Two numbers closer than one lap apart fall on different cells, and two
blocks that do not overlap and lie in one lap do not overlap on the circle.
-/

theorem eq_of_mod_eq_of_lt_add {capacity left right : Nat} (ordered : left ≤ right)
    (near : right < left + capacity) (same : left % capacity = right % capacity) :
    left = right := by
  have gap : (right - left) % capacity = 0 := Nat.sub_mod_eq_zero_of_mod_eq same.symm
  have small : right - left < capacity := by omega
  rw [Nat.mod_eq_of_lt small] at gap
  omega

/-- A run of `size` cells that starts at the absolute position `start`. -/
structure Block where
  start : Nat
  size : Nat
deriving DecidableEq, Repr

namespace Block

def stop (block : Block) : Nat := block.start + block.size

/-- The cell on which the block starts. -/
def offset (capacity : Nat) (block : Block) : Nat := block.start % capacity

/-- The block does not run over the end of the circle. -/
def InLap (capacity : Nat) (block : Block) : Prop :=
  block.offset capacity + block.size ≤ capacity

def DisjointOn (capacity : Nat) (left right : Block) : Prop :=
  left.offset capacity + left.size ≤ right.offset capacity ∨
    right.offset capacity + right.size ≤ left.offset capacity

theorem disjointOn_of_window {capacity : Nat} {left right : Block}
    (ordered : left.stop ≤ right.start) (window : right.stop ≤ left.start + capacity) :
    left.DisjointOn capacity right := by
  have leftSplit := Nat.div_add_mod left.start capacity
  have rightSplit := Nat.div_add_mod right.start capacity
  simp only [DisjointOn, offset, stop] at *
  rcases Nat.lt_trichotomy (right.start / capacity) (left.start / capacity) with
    behind | sameLap | ahead
  · have laps : capacity * (right.start / capacity) + capacity ≤
        capacity * (left.start / capacity) := by
      calc capacity * (right.start / capacity) + capacity
          = capacity * (right.start / capacity + 1) := by ring
        _ ≤ capacity * (left.start / capacity) := Nat.mul_le_mul_left _ behind
    omega
  · rw [sameLap] at rightSplit
    omega
  · have laps : capacity * (left.start / capacity) + capacity ≤
        capacity * (right.start / capacity) := by
      calc capacity * (left.start / capacity) + capacity
          = capacity * (left.start / capacity + 1) := by ring
        _ ≤ capacity * (right.start / capacity) := Nat.mul_le_mul_left _ ahead
    omega

/-! ## Blocks in a row -/

/-- The blocks lie one after the other between `tail` and `head`, the last one
ending at `head`; there may be gaps before each of them. -/
def Laid : Nat → List Block → Nat → Prop
  | tail, [], head => head = tail
  | tail, block :: rest, head => tail ≤ block.start ∧ Laid block.stop rest head

namespace Laid

variable {capacity tail head : Nat} {block : Block} {left right blocks : List Block}

theorem append_iff :
    Laid tail (left ++ right) head ↔ ∃ middle, Laid tail left middle ∧ Laid middle right head := by
  induction left generalizing tail with
  | nil => simp [Laid]
  | cons block rest ih => simp [Laid, ih, and_assoc]

theorem snoc (laid : Laid tail blocks head) (fits : head ≤ block.start) :
    Laid tail (blocks ++ [block]) block.stop :=
  append_iff.mpr ⟨head, laid, fits, rfl⟩

theorem le (laid : Laid tail blocks head) : tail ≤ head := by
  induction blocks generalizing tail with
  | nil => exact Nat.le_of_eq laid.symm
  | cons block rest ih =>
      have rest := ih laid.2
      have first := laid.1
      simp only [stop] at rest
      omega

theorem bounds (laid : Laid tail blocks head) :
    ∀ block ∈ blocks, tail ≤ block.start ∧ block.stop ≤ head := by
  induction blocks generalizing tail with
  | nil => simp
  | cons first rest ih =>
      intro block member
      rcases List.mem_cons.mp member with rfl | later
      · exact ⟨laid.1, le laid.2⟩
      · obtain ⟨lower, upper⟩ := ih laid.2 block later
        have first := laid.1
        simp only [stop] at lower
        exact ⟨by omega, upper⟩

theorem pairwise (laid : Laid tail blocks head) :
    blocks.Pairwise fun earlier later => earlier.stop ≤ later.start := by
  induction blocks generalizing tail with
  | nil => exact .nil
  | cons first rest ih =>
      exact .cons (fun block later => (bounds laid.2 block later).1) (ih laid.2)

theorem head_eq (laid : Laid tail blocks head) :
    head = (blocks.getLast?.map Block.stop).getD tail := by
  rcases List.eq_nil_or_concat blocks with rfl | ⟨front, last, rfl⟩
  · simpa [Laid] using laid
  · rw [List.concat_eq_append, append_iff] at laid
    obtain ⟨middle, -, -, same⟩ := laid
    simpa [Laid] using same

/-- Where a part of the row ends, the rest of it begins. -/
theorem drop {middle : Nat} (front : Laid tail left middle) (laid : Laid tail (left ++ right) head) :
    Laid middle right head := by
  obtain ⟨other, before, after⟩ := append_iff.mp laid
  rwa [front.head_eq, ← before.head_eq]

/-- Blocks laid within one lap are disjoint on the circle. -/
theorem disjointOn (laid : Laid tail blocks head) (lap : head ≤ tail + capacity) :
    blocks.Pairwise (DisjointOn capacity) := by
  have bounds := laid.bounds
  refine laid.pairwise.imp_of_mem fun {left right} inLeft inRight ordered => ?_
  have lower := (bounds left inLeft).1
  have upper := (bounds right inRight).2
  exact disjointOn_of_window ordered (by omega)

end Laid

end Block

end GlesBridge.Data
