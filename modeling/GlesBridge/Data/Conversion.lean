namespace GlesBridge.Data

/-! The integer types of C, and the conversions to them. -/

inductive Width where
  | w8 | w16 | w32 | w64
deriving DecidableEq, Repr

def Width.modulus : Width → Int
  | .w8 => 0x100
  | .w16 => 0x10000
  | .w32 => 0x100000000
  | .w64 => 0x10000000000000000

structure IntType where
  signed : Bool
  width : Width
deriving DecidableEq, Repr

namespace IntType

/-- The values of the type. -/
def Holds (type : IntType) (value : Int) : Prop :=
  if type.signed then -(type.width.modulus / 2) ≤ value ∧ value < type.width.modulus / 2
  else 0 ≤ value ∧ value < type.width.modulus

/-- The value of the type that agrees with the given one in the bits it has. -/
def convert (type : IntType) (value : Int) : Int :=
  let low := value % type.width.modulus
  if type.signed ∧ type.width.modulus / 2 ≤ low then low - type.width.modulus else low

instance decidableHolds (type : IntType) (value : Int) : Decidable (type.Holds value) := by
  unfold Holds
  infer_instance

/-- `uint32_t`, and a `uintptr_t` of 32 bits. -/
def uint32 : IntType := ⟨false, .w32⟩

def int32 : IntType := ⟨true, .w32⟩

variable {type : IntType} {value : Int}

theorem convert_eq_self_iff : type.convert value = value ↔ type.Holds value := by
  obtain ⟨signed, width⟩ := type
  cases signed <;> cases width <;>
    simp only [convert, Holds, Width.modulus, Bool.false_eq_true, false_and, true_and, if_true,
      if_false] <;> omega

theorem convert_uint32 : uint32.convert value = value % 0x100000000 := rfl

/-- A type of at most 32 bits does not see those above. -/
theorem convert_low (narrow : type.width ≠ .w64) :
    type.convert (value % 0x100000000) = type.convert value := by
  obtain ⟨signed, width⟩ := type
  cases signed <;> cases width
  case false.w64 | true.w64 => exact absurd rfl narrow
  all_goals
    simp only [convert, Width.modulus, Bool.false_eq_true, false_and, true_and, if_false]
    omega

/-- No type has more than 64 bits. -/
theorem convert_long : type.convert (value % 0x10000000000000000) = type.convert value := by
  obtain ⟨signed, width⟩ := type
  cases signed <;> cases width <;>
    simp only [convert, Width.modulus, Bool.false_eq_true, false_and, true_and, if_false] <;> omega

/-- A type of 64 bits keeps 32 bits as they are. -/
theorem convert_wide (wide : type.width = .w64) :
    type.convert (value % 0x100000000) = value % 0x100000000 := by
  rw [convert_eq_self_iff]
  obtain ⟨signed, width⟩ := type
  cases wide
  cases signed <;>
    simp only [Holds, Width.modulus, Bool.false_eq_true, if_true, if_false] <;> omega

end IntType

end GlesBridge.Data
