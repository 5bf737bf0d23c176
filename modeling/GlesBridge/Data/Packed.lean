import Mathlib.Data.Nat.Bitwise

namespace GlesBridge.Data

/-! Two words of 32 bits in one of 64. -/

def packed (high low : UInt32) : UInt64 := low.toUInt64 ||| high.toUInt64 <<< 32

def highHalf (word : UInt64) : UInt32 := (word >>> 32).toUInt32

def lowHalf (word : UInt64) : UInt32 := (word &&& 0xFFFFFFFF).toUInt32

variable {high low : UInt32} {word : UInt64}

theorem lowHalf_eq : lowHalf word = word.toUInt32 := by
  have mask : (word &&& 0xFFFFFFFF).toNat = word.toNat % 4294967296 := by
    rw [UInt64.toNat_and]
    exact Nat.and_two_pow_sub_one_eq_mod word.toNat 32
  apply UInt32.toNat_inj.mp
  rw [lowHalf, UInt64.toNat_toUInt32, UInt64.toNat_toUInt32, mask]
  exact Nat.mod_mod ..

@[simp] theorem lowHalf_packed : lowHalf (packed high low) = low := by
  rw [lowHalf_eq]
  apply UInt32.eq_of_toBitVec_eq
  ext i below
  simp [packed]

@[simp] theorem highHalf_packed : highHalf (packed high low) = high := by
  apply UInt32.eq_of_toBitVec_eq
  ext i below
  have shifted : 32 + i - 32 = i := by omega
  have inside : 32 + i < 64 := by omega
  have upper : ¬ 32 + i < 32 := by omega
  have narrow : i < 64 := by omega
  simp [highHalf, packed, shifted, inside, upper, below, narrow, ← BitVec.getLsbD_eq_getElem]

/-- A number that is extended by its sign is its low half. -/
@[simp] theorem toUInt32_extended (value : Int32) :
    value.toInt64.toUInt64.toUInt32 = value.toUInt32 := by
  apply UInt32.eq_of_toBitVec_eq
  ext i below
  have inside : i < 64 := by omega
  simp [BitVec.getLsbD_signExtend, inside, below, ← BitVec.getLsbD_eq_getElem]

end GlesBridge.Data
