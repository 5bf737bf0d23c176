import Mathlib.Algebra.Group.Nat.Even

namespace GlesBridge.Data

/-! Numbers as they stand in memory, the lowest byte first. -/

def littleEndian : Nat → Nat → List UInt8
  | 0, _ => []
  | size + 1, number => UInt8.ofNat number :: littleEndian size (number / 256)

def ofLittleEndian : List UInt8 → Nat
  | [] => 0
  | byte :: rest => byte.toNat + 256 * ofLittleEndian rest

variable {size number : Nat} {stored : List UInt8}

@[simp] theorem length_littleEndian : (littleEndian size number).length = size := by
  induction size generalizing number with
  | zero => rfl
  | succ size ih => rw [littleEndian, List.length_cons, ih]

theorem ofLittleEndian_littleEndian :
    ofLittleEndian (littleEndian size number) = number % 2 ^ (8 * size) := by
  induction size generalizing number with
  | zero => simp [littleEndian, ofLittleEndian, Nat.mod_one]
  | succ size ih =>
      have power : 2 ^ (8 * (size + 1)) = 256 * 2 ^ (8 * size) := by
        rw [Nat.mul_succ, Nat.pow_add, Nat.mul_comm]
      have low : (UInt8.ofNat number).toNat = number % 256 := rfl
      rw [littleEndian, ofLittleEndian, ih, power, Nat.mod_mul, low]

theorem littleEndian_ofLittleEndian : littleEndian stored.length (ofLittleEndian stored) = stored := by
  induction stored with
  | nil => rfl
  | cons byte rest ih =>
      have below : byte.toNat < 256 := byte.toNat_lt
      have low : UInt8.ofNat (byte.toNat + 256 * ofLittleEndian rest) = byte := by
        apply UInt8.toNat.inj
        rw [UInt8.toNat_ofNat']
        omega
      have high : (byte.toNat + 256 * ofLittleEndian rest) / 256 = ofLittleEndian rest := by omega
      rw [List.length_cons, littleEndian, ofLittleEndian, low, high, ih]

theorem ofLittleEndian_lt : ofLittleEndian stored < 2 ^ (8 * stored.length) := by
  have whole : ofLittleEndian (littleEndian stored.length (ofLittleEndian stored)) =
      ofLittleEndian stored % 2 ^ (8 * stored.length) := ofLittleEndian_littleEndian
  rw [littleEndian_ofLittleEndian] at whole
  rw [whole]
  exact Nat.mod_lt _ (Nat.two_pow_pos _)

/-! ## Words -/

/-- A value of `size` bytes. -/
structure Word where
  size : Nat
  bits : BitVec (8 * size)
deriving DecidableEq, Repr

namespace Word

/-- The bytes that `memcpy` copies out of the value. -/
def bytes (word : Word) : List UInt8 := littleEndian word.size word.bits.toNat

/-- The value that `memcpy` makes of the bytes. -/
def ofBytes (stored : List UInt8) : Word :=
  ⟨stored.length, BitVec.ofNat _ (ofLittleEndian stored)⟩

@[simp] theorem length_bytes (word : Word) : word.bytes.length = word.size := length_littleEndian

@[simp] theorem bytes_ofBytes : (ofBytes stored).bytes = stored := by
  have value : (ofBytes stored).bits.toNat = ofLittleEndian stored :=
    Nat.mod_eq_of_lt ofLittleEndian_lt
  rw [Word.bytes, value]
  exact littleEndian_ofLittleEndian

theorem bytes_injective {left right : Word} (same : left.bytes = right.bytes) : left = right := by
  have sizes : left.size = right.size := by
    rw [← left.length_bytes, ← right.length_bytes, same]
  cases left with
  | mk size left =>
      cases right with
      | mk _ right =>
          cases sizes
          have numbers := congrArg ofLittleEndian same
          simp only [bytes, ofLittleEndian_littleEndian] at numbers
          rw [Nat.mod_eq_of_lt left.isLt, Nat.mod_eq_of_lt right.isLt] at numbers
          rw [BitVec.eq_of_toNat_eq numbers]

@[simp] theorem ofBytes_bytes (word : Word) : ofBytes word.bytes = word :=
  bytes_injective bytes_ofBytes

end Word

end GlesBridge.Data
