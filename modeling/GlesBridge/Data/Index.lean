import Mathlib.Algebra.Group.Nat.Even
import Mathlib.Data.Fin.Basic

namespace GlesBridge.Data

/-! Indices into arrays, and lists of them. -/

instance neZero2 : @NeZero Nat Zero.ofOfNat0 2 := Nat.instNeZeroSucc

instance neZero4 : @NeZero Nat Zero.ofOfNat0 4 := Nat.instNeZeroSucc

instance neZero5 : @NeZero Nat Zero.ofOfNat0 5 := Nat.instNeZeroSucc

instance neZero8 : @NeZero Nat Zero.ofOfNat0 8 := Nat.instNeZeroSucc

instance neZero9 : @NeZero Nat Zero.ofOfNat0 9 := Nat.instNeZeroSucc

instance neZero17 : @NeZero Nat Zero.ofOfNat0 17 := Nat.instNeZeroSucc

instance neZero64 : @NeZero Nat Zero.ofOfNat0 64 := Nat.instNeZeroSucc

instance neZero129 : @NeZero Nat Zero.ofOfNat0 129 := Nat.instNeZeroSucc

instance neZero256 : @NeZero Nat Zero.ofOfNat0 256 := Nat.instNeZeroSucc

instance decidableMem {n : Nat} (index : Fin n) (indices : List (Fin n)) :
    Decidable (index ∈ indices) :=
  decidable_of_iff (indices.any fun other => decide (other = index)) (by simp)

end GlesBridge.Data
