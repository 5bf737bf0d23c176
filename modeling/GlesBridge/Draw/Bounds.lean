import GlesBridge.Data.LittleEndian
import GlesBridge.Draw.Vertices
import Mathlib.Order.Bounds.Basic

namespace GlesBridge.Draw

open GlesBridge.Data GlesBridge.Shared GlesBridge.Stub GlesBridge.Upload

/-! The bounds of the vertices that an array of indices names. -/

/-- The index with the number `i`, of `size` bytes. -/
def indexAt (idx : Nat → UInt8) (size i : Nat) : Nat :=
  ofLittleEndian ((List.range size).map fun place => idx (size * i + place))

/-- The vertices of the indices; with restart, an index of ones only names none. -/
def IndexVertices (idx : Option (Nat → UInt8)) (count : Int32) (type : UInt32)
    (basevertex : Int32) (restart : Bool) : Set Int :=
  { vertex | ∃ array size, idx = some array ∧ indexSize type = some size ∧
      ∃ i < count.toNatClampNeg, ¬ (restart = true ∧ indexAt array size i + 1 = 256 ^ size) ∧
        vertex = indexAt array size i + basevertex.toInt }

section

variable {idx : Nat → UInt8} {type : UInt32} {size i : Nat} {low shift : UInt32} {byte : UInt8}
  {count : Int32} {basevertex : Int32} {restart : Bool} {vertex : Int}

/-! ## Indices -/

theorem or_byte_toNat (inside : shift.toNat ≤ 24) (small : low.toNat < 2 ^ shift.toNat) :
    (low ||| byte.toUInt32 <<< shift).toNat = low.toNat + 2 ^ shift.toNat * byte.toNat := by
  have places : shift.toNat % 32 = shift.toNat := Nat.mod_eq_of_lt (by omega)
  have bound : byte.toNat * 2 ^ shift.toNat < 2 ^ 32 := by
    have power : 2 ^ shift.toNat ≤ 2 ^ 24 := Nat.pow_le_pow_right (by omega) inside
    have limit : byte.toNat * 2 ^ shift.toNat ≤ 255 * 2 ^ 24 :=
      Nat.mul_le_mul (Nat.le_of_lt_succ byte.toNat_lt) power
    omega
  rw [UInt32.toNat_or, UInt32.toNat_shiftLeft, UInt8.toNat_toUInt32, places, Nat.shiftLeft_eq,
    Nat.mod_eq_of_lt bound, Nat.or_comm, ← Nat.shiftLeft_eq, ← Nat.shiftLeft_add_eq_or_of_lt small,
    Nat.shiftLeft_eq, Nat.add_comm, Nat.mul_comm]

/-- The stub reads the index. -/
theorem rawIndex_toNat (known : indexSize type = some size) :
    (rawIndex idx type i).toNat = indexAt idx size i := by
  unfold indexSize at known
  unfold rawIndex indexAt
  split at known
  · rename_i byte
    cases known
    simp [byte, ofLittleEndian]
  · rename_i short
    cases known
    have first := (idx (2 * i)).toNat_lt
    have two : ((idx (2 * i)).toUInt32 ||| (idx (2 * i + 1)).toUInt32 <<< 8).toNat =
        (idx (2 * i)).toNat + 256 * (idx (2 * i + 1)).toNat := or_byte_toNat (by decide) first
    rw [short]
    exact two
  · rename_i int
    cases known
    have first := (idx (4 * i)).toNat_lt
    have second := (idx (4 * i + 1)).toNat_lt
    have third := (idx (4 * i + 2)).toNat_lt
    have two : ((idx (4 * i)).toUInt32 ||| (idx (4 * i + 1)).toUInt32 <<< 8).toNat =
        (idx (4 * i)).toNat + 256 * (idx (4 * i + 1)).toNat := or_byte_toNat (by decide) first
    have three : ((idx (4 * i)).toUInt32 ||| (idx (4 * i + 1)).toUInt32 <<< 8 |||
        (idx (4 * i + 2)).toUInt32 <<< 16).toNat =
        (idx (4 * i)).toNat + 256 * (idx (4 * i + 1)).toNat + 65536 * (idx (4 * i + 2)).toNat := by
      rw [or_byte_toNat (by decide) (by rw [two]; change _ < 65536; omega), two]
      rfl
    have four : ((idx (4 * i)).toUInt32 ||| (idx (4 * i + 1)).toUInt32 <<< 8 |||
        (idx (4 * i + 2)).toUInt32 <<< 16 ||| (idx (4 * i + 3)).toUInt32 <<< 24).toNat =
        (idx (4 * i)).toNat + 256 * (idx (4 * i + 1)).toNat + 65536 * (idx (4 * i + 2)).toNat +
          16777216 * (idx (4 * i + 3)).toNat := by
      rw [or_byte_toNat (by decide) (by rw [three]; change _ < 16777216; omega), three]
      rfl
    have bytes : ofLittleEndian ((List.range 4).map fun place => idx (4 * i + place)) =
        (idx (4 * i)).toNat + 256 * ((idx (4 * i + 1)).toNat + 256 * ((idx (4 * i + 2)).toNat +
          256 * (idx (4 * i + 3)).toNat)) := rfl
    rw [int, bytes]
    simp only [four]
    omega
  · cases known

/-- The restart index of a type is the one of ones only. -/
theorem restartIndex_toNat (known : indexSize type = some size) :
    (restartIndex type).toNat + 1 = 256 ^ size := by
  unfold indexSize at known
  unfold restartIndex
  split at known
  · rename_i byte
    cases known
    rw [byte]
    rfl
  · rename_i short
    cases known
    rw [short]
    rfl
  · rename_i int
    cases known
    rw [int]
    rfl
  · cases known

theorem mem_indexVertices (known : indexSize type = some size) :
    vertex ∈ IndexVertices (some idx) count type basevertex restart ↔
      Names idx count.toNatClampNeg type basevertex restart vertex := by
  have equal (i : Nat) : rawIndex idx type i = restartIndex type ↔
      indexAt idx size i + 1 = 256 ^ size := by
    rw [← UInt32.toNat_inj, rawIndex_toNat known, ← restartIndex_toNat known, Nat.add_right_cancel_iff]
  have same (i : Nat) : (indexAt idx size i : Int) = (rawIndex idx type i).toNat := by
    rw [rawIndex_toNat known]
  constructor
  · rintro ⟨array, found, given, sized, i, below, kept, value⟩
    cases given
    rw [known] at sized
    cases sized
    exact ⟨i, below, by rwa [equal], by rw [← same]; exact value⟩
  · rintro ⟨i, below, kept, value⟩
    exact ⟨idx, size, rfl, known, i, below, by rwa [← equal], by rw [same]; exact value⟩

/-! ## Bounds -/

/-- The clamped bounds of a set of vertices, where one of them is not negative. -/
def Clamped (vertices : Set Int) : Option (Int × Int) → Prop
  | none => ∀ vertex ∈ vertices, vertex < 0
  | some (low, high) =>
      IsGreatest vertices high ∧ 0 ≤ high ∧ ∃ least, IsLeast vertices least ∧ low = max 0 least

theorem mappedIndexBounds_clamped {idx : Option (Nat → UInt8)} :
    Clamped (IndexVertices idx count type basevertex restart)
      (mappedIndexBounds idx count type basevertex restart) := by
  cases idx with
  | none =>
      rintro vertex ⟨array, size, given, -⟩
      cases given
  | some idx =>
      rw [mappedIndexBounds]
      by_cases empty : count ≤ 0 ∨ indexTypeSize type = 0
      · rw [if_pos empty]
        rintro vertex ⟨array, size, -, known, i, below, -⟩
        rcases empty with few | unknown
        · exact absurd (pos_of_toNatClampNeg (Nat.zero_lt_of_lt below)) (Int32.not_lt.mpr few)
        · exact absurd unknown (indexTypeSize_known (by rw [known]; exact Option.some_ne_none _))
      · rw [if_neg empty]
        obtain ⟨size, known⟩ : ∃ size, indexSize type = some size := by
          cases known : indexSize type with
          | none => exact absurd (.inr (indexTypeSize_unknown known)) empty
          | some size => exact ⟨size, rfl⟩
        have bounds : BoundsOf (Names idx count.toNatClampNeg type basevertex restart)
            (scanIndices idx count.toNatClampNeg type basevertex restart) := scanIndices_bounds
        have named (vertex : Int) := @mem_indexVertices idx type size count basevertex restart vertex known
        cases found : scanIndices idx count.toNatClampNeg type basevertex restart with
        | none =>
            rw [found] at bounds
            intro vertex among
            exact absurd ((named vertex).mp among) (bounds vertex)
        | some both =>
            obtain ⟨low, high⟩ := both
            rw [found] at bounds
            obtain ⟨least, greatest, between⟩ := bounds
            have top : IsGreatest (IndexVertices (some idx) count type basevertex restart) high :=
              ⟨(named high).mpr greatest, fun vertex among => (between vertex ((named vertex).mp among)).2⟩
            have bottom : IsLeast (IndexVertices (some idx) count type basevertex restart) low :=
              ⟨(named low).mpr least, fun vertex among => (between vertex ((named vertex).mp among)).1⟩
            by_cases negative : high < 0
            · simp only [if_pos negative]
              intro vertex among
              exact Int.lt_of_le_of_lt (top.2 among) negative
            · simp only [if_neg negative]
              refine ⟨top, Int.not_lt.mp negative, low, bottom, ?_⟩
              by_cases below : low < 0
              · rw [if_pos below, max_eq_left below.le]
              · rw [if_neg below, max_eq_right (Int.not_lt.mp below)]

end

/-- Exactly the bounds of the vertices, from 0 on; else the outputs stay as they are. -/
theorem callIndexBounds_exact (idx : Option (Nat → UInt8)) (count : Int32) (type : UInt32)
    (basevertex : Int32) (restart : Bool) (outputs : Int × Int) :
    let vertices := IndexVertices idx count type basevertex restart
    let call := callIndexBounds idx count type basevertex restart outputs
    (call.1 = true ↔ ∃ vertex ∈ vertices, 0 ≤ vertex) ∧
      (call.1 = true → IsGreatest vertices call.2.2 ∧
        ∃ least, IsLeast vertices least ∧ call.2.1 = max 0 least) ∧
      (call.1 = false → call.2 = outputs) := by
  intro vertices call
  have clamped : Clamped vertices (mappedIndexBounds idx count type basevertex restart) :=
    mappedIndexBounds_clamped
  have shape : call = callIndexBounds idx count type basevertex restart outputs := rfl
  rw [callIndexBounds] at shape
  cases found : mappedIndexBounds idx count type basevertex restart with
  | none =>
      rw [found] at clamped shape
      rw [shape]
      refine ⟨?_, ?_, ?_⟩
      · constructor
        · intro refused
          cases refused
        · rintro ⟨vertex, among, natural⟩
          exact absurd (clamped vertex among) (Int.not_lt.mpr natural)
      · intro refused
        cases refused
      · intro _
        rfl
  | some bounds =>
      obtain ⟨low, high⟩ := bounds
      rw [found] at clamped shape
      obtain ⟨top, natural, bottom⟩ := clamped
      rw [shape]
      refine ⟨?_, ?_, ?_⟩
      · exact iff_of_true rfl ⟨high, top.1, natural⟩
      · intro _
        exact ⟨top, bottom⟩
      · intro refused
        cases refused

end GlesBridge.Draw
