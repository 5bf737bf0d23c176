import Mathlib.Algebra.Order.Ring.Nat
import Mathlib.Tactic.Ring

namespace GlesBridge.Data

/-! Images of rows of bytes, each row and each image at a fixed distance from the
one before it.
-/

/-- The multiple of `unit` that is not below `value`. -/
def roundUp (value unit : Nat) : Nat := (value + unit - 1) / unit * unit

section

variable {value other unit factor : Nat}

theorem roundUp_of_dvd (positive : 0 < unit) (whole : unit ∣ value) : roundUp value unit = value := by
  obtain ⟨count, rfl⟩ := whole
  have shape : unit * count + unit - 1 = (unit - 1) + unit * count := by omega
  rw [roundUp, shape, Nat.add_mul_div_left _ _ positive,
    Nat.div_eq_of_lt (Nat.sub_lt positive Nat.one_pos), Nat.zero_add, Nat.mul_comm]

theorem roundUp_mono (ordered : value ≤ other) : roundUp value unit ≤ roundUp other unit :=
  Nat.mul_le_mul_right _ (Nat.div_le_div_right (by omega))

/-- The least multiple of the unit. -/
theorem roundUp_le (positive : 0 < unit) (below : value ≤ unit * factor) :
    roundUp value unit ≤ unit * factor := by
  have same := roundUp_of_dvd positive (Nat.dvd_mul_right unit factor)
  exact (roundUp_mono below).trans_eq same

theorem le_roundUp (positive : 0 < unit) : value ≤ roundUp value unit := by
  have division := Nat.div_add_mod (value + unit - 1) unit
  have rest := Nat.mod_lt (value + unit - 1) positive
  rw [roundUp, Nat.mul_comm]
  omega

theorem roundUp_mul_le (positive : 0 < unit) :
    roundUp (factor * value) unit ≤ factor * roundUp value unit := by
  have shape : factor * roundUp value unit = unit * (factor * ((value + unit - 1) / unit)) := by
    rw [roundUp]
    ring
  rw [shape]
  apply roundUp_le positive
  rw [← shape]
  exact Nat.mul_le_mul_left _ (le_roundUp positive)

end

/-- `start` is the place of the first byte. -/
structure Strided where
  start : Nat
  rowBytes : Nat
  rowStride : Nat
  imageStride : Nat
  rows : Nat
  images : Nat

namespace Strided

/-- A block without bytes. -/
def nothing : Strided where
  start := 0
  rowBytes := 0
  rowStride := 0
  imageStride := 0
  rows := 0
  images := 0

variable (block : Strided)

def place (image row byte : Nat) : Nat :=
  block.start + image * block.imageStride + row * block.rowStride + byte

def Has (place : Nat) : Prop :=
  ∃ image < block.images, ∃ row < block.rows, ∃ byte < block.rowBytes,
    place = block.place image row byte

instance decidableHas (block : Strided) (place : Nat) : Decidable (block.Has place) :=
  inferInstanceAs (Decidable (∃ image < block.images, ∃ row < block.rows, ∃ byte < block.rowBytes,
    place = block.place image row byte))

/-- There is no byte in the block. -/
def Empty : Prop := block.images = 0 ∨ block.rows = 0 ∨ block.rowBytes = 0

instance decidableEmpty (block : Strided) : Decidable block.Empty :=
  inferInstanceAs (Decidable (_ ∨ _ ∨ _))

/-- A byte of memory once the block is stored from `pointer` on; `image` has the
byte for each place. -/
def stored (image : Nat → UInt8) (pointer address : Nat) (before : UInt8) : UInt8 :=
  if pointer ≤ address ∧ block.Has (address - pointer) then image (address - pointer) else before

/-- The place after the last byte of the last row. -/
def stop : Nat := block.place (block.images - 1) (block.rows - 1) block.rowBytes

variable {block} {place : Nat}

theorem Has.lt_stop (has : block.Has place) : place < block.stop := by
  obtain ⟨image, someImage, row, someRow, byte, inside, rfl⟩ := has
  have images : image * block.imageStride ≤ (block.images - 1) * block.imageStride :=
    Nat.mul_le_mul_right _ (by omega)
  have rows : row * block.rowStride ≤ (block.rows - 1) * block.rowStride :=
    Nat.mul_le_mul_right _ (by omega)
  unfold stop Strided.place
  omega

/-- The last byte is one of the block. -/
theorem Has.last (has : block.Has place) : block.Has (block.stop - 1) := by
  obtain ⟨image, someImage, row, someRow, byte, inside, -⟩ := has
  refine ⟨block.images - 1, by omega, block.rows - 1, by omega, block.rowBytes - 1, by omega, ?_⟩
  unfold stop Strided.place
  omega

theorem has_of_pos (images : 0 < block.images) (rows : 0 < block.rows) (bytes : 0 < block.rowBytes) :
    block.Has (block.place 0 0 0) :=
  ⟨0, images, 0, rows, 0, bytes, rfl⟩

theorem Has.not_empty (has : block.Has place) : ¬ block.Empty := by
  obtain ⟨image, someImage, row, someRow, byte, inside, -⟩ := has
  unfold Empty
  omega

theorem has_of_not_empty (some : ¬ block.Empty) : block.Has (block.stop - 1) := by
  unfold Empty at some
  exact (has_of_pos (by omega) (by omega) (by omega)).last

theorem stored_of_empty {image : Nat → UInt8} {pointer address : Nat} {before : UInt8}
    (empty : block.Empty) : block.stored image pointer address before = before :=
  if_neg fun inside => inside.2.not_empty empty

/-- The stop is one more than the greatest place. -/
theorem Has.isGreatest_iff (has : block.Has place) {last : Nat} :
    IsGreatest {place | block.Has place} last ↔ last + 1 = block.stop := by
  have bounded : ∀ other, block.Has other → other ≤ block.stop - 1 := fun other inside =>
    Nat.le_sub_one_of_lt inside.lt_stop
  have greatest : IsGreatest {place | block.Has place} (block.stop - 1) := ⟨has.last, bounded⟩
  have positive := has.lt_stop
  constructor
  · intro top
    have same : last = block.stop - 1 := Nat.le_antisymm (greatest.2 top.1) (top.2 greatest.1)
    omega
  · intro same
    have value : last = block.stop - 1 := by omega
    rw [value]
    exact greatest

end Strided

end GlesBridge.Data
