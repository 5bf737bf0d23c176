import Mathlib.Data.Nat.Bitwise

namespace GlesBridge.Data

/-! Rounding to powers of two and to their multiples. -/

/-- The highest bit is at `top`, and the `count` highest bits are ones. -/
structure Filled (top count number : Nat) : Prop where
  below : number < 2 ^ (top + 1)
  ones : ∀ place ≤ top, top < place + count → number.testBit place = true

variable {top count number : Nat}

namespace Filled

theorem of_log2 (positive : number ≠ 0) : Filled number.log2 1 number := by
  constructor
  · exact Nat.lt_log2_self
  · intro place inside near
    obtain rfl : place = number.log2 := by omega
    exact Nat.testBit_log2 positive

/-- Each copy doubles the ones. -/
theorem double (filled : Filled top count number) :
    Filled top (count + count) (number ||| number >>> count) := by
  have shifted : number >>> count < 2 ^ (top + 1) :=
    Nat.lt_of_le_of_lt (Nat.shiftRight_le number count) filled.below
  constructor
  · exact Nat.or_lt_two_pow filled.below shifted
  · intro place inside near
    rw [Nat.testBit_or, Nat.testBit_shiftRight]
    by_cases high : top < place + count
    · rw [filled.ones place inside high, Bool.true_or]
    · have copied : number.testBit (count + place) = true :=
        filled.ones (count + place) (by omega) (by omega)
      rw [copied, Bool.or_true]

theorem full (filled : Filled top count number) (all : top < count) :
    number = 2 ^ (top + 1) - 1 := by
  apply Nat.eq_of_testBit_eq
  intro place
  rw [Nat.testBit_two_pow_sub_one]
  by_cases inside : place < top + 1
  · rw [filled.ones place (Nat.le_of_lt_succ inside) (by omega), decide_eq_true inside]
  · have power : 2 ^ (top + 1) ≤ 2 ^ place := Nat.pow_le_pow_right (by omega) (by omega)
    rw [decide_eq_false inside]
    exact Nat.testBit_lt_two_pow (Nat.lt_of_lt_of_le filled.below power)

end Filled

/-- `v |= v >> 1` and so on, for all 32 bits. -/
def smear (number : UInt32) : UInt32 :=
  let v := number ||| number >>> 1
  let v := v ||| v >>> 2
  let v := v ||| v >>> 4
  let v := v ||| v >>> 8
  v ||| v >>> 16

theorem smear_toNat {number : UInt32} (positive : number ≠ 0) :
    (smear number).toNat = 2 ^ (number.toNat.log2 + 1) - 1 := by
  have start : Filled number.toNat.log2 1 number.toNat :=
    .of_log2 fun none => positive (UInt32.toNat_inj.mp none)
  have bound : number.toNat.log2 < 32 :=
    (Nat.log2_lt fun none => positive (UInt32.toNat_inj.mp none)).mpr number.toNat_lt
  have filled := start.double.double.double.double.double
  exact filled.full (by omega)

/-- `number & ~3u`. -/
theorem and_not_three (small : number < 2 ^ 32) : number &&& 0xFFFFFFFC = number / 4 * 4 := by
  have mask : (0xFFFFFFFC : Nat) = (2 ^ 30 - 1) <<< 2 := by decide
  have cleared : number / 4 * 4 = number >>> 2 <<< 2 := by
    rw [Nat.shiftRight_eq_div_pow, Nat.shiftLeft_eq]
  rw [mask, cleared]
  apply Nat.eq_of_testBit_eq
  intro place
  simp only [Nat.testBit_and, Nat.testBit_shiftLeft, Nat.testBit_shiftRight,
    Nat.testBit_two_pow_sub_one]
  by_cases high : 2 ≤ place
  · have back : 2 + (place - 2) = place := by omega
    by_cases inside : place < 32
    · simp [high, back, show place - 2 < 30 by omega]
    · have power : 2 ^ 32 ≤ 2 ^ place := Nat.pow_le_pow_right (by omega) (Nat.le_of_not_lt inside)
      simp [back, Nat.testBit_lt_two_pow (small.trans_le power)]
  · simp [high]

end GlesBridge.Data
