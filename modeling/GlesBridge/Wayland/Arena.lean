import GlesBridge.Data.PowerOfTwo
import GlesBridge.Stub.WlArena

namespace GlesBridge.Wayland

open GlesBridge.Data GlesBridge.Stub

/-! Where the data of a Wayland command is put. -/

/-- The bytes of the arena. -/
abbrev arenaBytes : Nat := 0x4000000

def Covers (write : WlWrite) (place : Nat) : Prop :=
  write.off.toNat ≤ place ∧ place < write.off.toNat + write.size.toNat

/-- All writes are in the arena, and no two of them share a byte. -/
structure Placed (writes : List WlWrite) : Prop where
  inside : ∀ write ∈ writes, write.off.toNat + write.size.toNat ≤ arenaBytes
  apart : writes.Pairwise fun left right => ∀ place, ¬ (Covers left place ∧ Covers right place)

/-- With `used` bytes taken, the next size fits, or its sum of 32 bits is too large as
well and the process aborts. -/
def Refusable (used : Nat) : List UInt64 → Prop
  | [] => True
  | size :: rest =>
      if used + size.toNat ≤ arenaBytes then Refusable ((used + size.toNat + 3) / 4 * 4) rest
      else arenaBytes + 3 < (used + size.toNat + 3) % 0x100000000

section

variable {dataPos off next : UInt32} {size : UInt64} {sizes : List UInt64} {used : Nat}

theorem cursor_toNat : ((dataPos + size.toUInt32 + 3) &&& ~~~3).toNat =
    (dataPos.toNat + size.toNat + 3) % 0x100000000 / 4 * 4 := by
  have mask : (~~~3 : UInt32).toNat = 0xFFFFFFFC := rfl
  have three : (3 : UInt32).toNat = 3 := rfl
  have sum : (dataPos + size.toUInt32 + 3).toNat =
      (dataPos.toNat + size.toNat + 3) % 0x100000000 := by
    rw [UInt32.toNat_add, UInt32.toNat_add, UInt64.toNat_toUInt32, three]
    omega
  rw [UInt32.toNat_and, mask, and_not_three (UInt32.toNat_lt _), sum]

theorem bytes_eq : arenaBytes = 0x4000000 := rfl

theorem wlDataSize_toNat : wlDataSize.toNat = arenaBytes := rfl

/-- What fits is handed out. -/
theorem alloc_fits (fits : dataPos.toNat + size.toNat ≤ arenaBytes) :
    ∃ next, wlDataAlloc dataPos size = some (dataPos, next) ∧
      next.toNat = (dataPos.toNat + size.toNat + 3) / 4 * 4 := by
  have bytes := bytes_eq
  have cursor := @cursor_toNat dataPos size
  refine ⟨_, if_neg ?_, ?_⟩
  · rw [UInt32.lt_iff_toNat_lt, cursor, wlDataSize_toNat]
    omega
  · rw [cursor, Nat.mod_eq_of_lt (by omega)]

/-- The sum is looked at as far as 32 bits show it. -/
theorem alloc_none : wlDataAlloc dataPos size = none ↔
    arenaBytes + 3 < (dataPos.toNat + size.toNat + 3) % 0x100000000 := by
  have bytes := bytes_eq
  have cursor := @cursor_toNat dataPos size
  unfold wlDataAlloc
  simp only
  by_cases large : wlDataSize < (dataPos + size.toUInt32 + 3) &&& ~~~3
  · rw [if_pos large]
    rw [UInt32.lt_iff_toNat_lt, cursor, wlDataSize_toNat] at large
    exact iff_of_true rfl (by omega)
  · rw [if_neg large]
    rw [UInt32.lt_iff_toNat_lt, cursor, wlDataSize_toNat] at large
    exact iff_of_false (fun refused => by cases refused) (by omega)

theorem alloc_off (given : wlDataAlloc dataPos size = some (off, next)) : off = dataPos := by
  unfold wlDataAlloc at given
  simp only at given
  split at given
  · cases given
  · cases given
    rfl

/-! ## Commands -/

/-- What comes later lies behind what is taken. -/
theorem later_writes (met : Refusable dataPos.toNat sizes) :
    ∀ write ∈ bridgeDataWriteWl dataPos sizes, dataPos.toNat ≤ write.off.toNat ∧
      write.off.toNat + write.size.toNat ≤ arenaBytes := by
  induction sizes generalizing dataPos with
  | nil =>
      intro write among
      cases among
  | cons size sizes ih =>
      intro write among
      rw [Refusable] at met
      rw [bridgeDataWriteWl] at among
      by_cases fits : dataPos.toNat + size.toNat ≤ arenaBytes
      · rw [if_pos fits] at met
        obtain ⟨next, given, cursor⟩ := alloc_fits fits
        rw [given] at among
        rcases List.mem_cons.mp among with rfl | behind
        · exact ⟨Nat.le_refl _, fits⟩
        · rw [← cursor] at met
          obtain ⟨above, inside⟩ := ih met write behind
          exact ⟨by omega, inside⟩
      · rw [if_neg fits] at met
        rw [alloc_none.mpr met] at among
        cases among

theorem placed_of_refusable (met : Refusable dataPos.toNat sizes) :
    Placed (bridgeDataWriteWl dataPos sizes) := by
  constructor
  · exact fun write among => (later_writes met write among).2
  · induction sizes generalizing dataPos with
    | nil => exact .nil
    | cons size sizes ih =>
        rw [Refusable] at met
        rw [bridgeDataWriteWl]
        by_cases fits : dataPos.toNat + size.toNat ≤ arenaBytes
        · rw [if_pos fits] at met
          obtain ⟨next, given, cursor⟩ := alloc_fits fits
          rw [given]
          rw [← cursor] at met
          refine .cons (fun other among place both => ?_) (ih met)
          obtain ⟨above, -⟩ := later_writes met other among
          obtain ⟨⟨-, before⟩, ⟨behind, -⟩⟩ := both
          simp only at before
          omega
        · rw [if_neg fits] at met
          rw [alloc_none.mpr met]
          exact .nil

theorem refusable_of_placed (placed : Placed (bridgeDataWriteWl dataPos sizes)) :
    Refusable dataPos.toNat sizes := by
  induction sizes generalizing dataPos with
  | nil => trivial
  | cons size sizes ih =>
      rw [Refusable]
      rw [bridgeDataWriteWl] at placed
      by_cases fits : dataPos.toNat + size.toNat ≤ arenaBytes
      · rw [if_pos fits]
        obtain ⟨next, given, cursor⟩ := alloc_fits fits
        rw [given] at placed
        rw [← cursor]
        exact ih ⟨fun write among => placed.inside write (List.mem_cons_of_mem _ among),
          placed.apart.of_cons⟩
      · rw [if_neg fits]
        cases given : wlDataAlloc dataPos size with
        | none => exact alloc_none.mp given
        | some both =>
            obtain ⟨off, next⟩ := both
            rw [given] at placed
            have inside := placed.inside _ List.mem_cons_self
            rw [alloc_off given] at inside
            exact absurd inside fits

end

/-- All writes of a command stay in the arena and apart, exactly if no size is lost in
the 32 bits of the cursor. -/
theorem wlCommandWrites_placed (sizes : List UInt64) :
    Placed (wlCommandWrites sizes) ↔ Refusable 0 sizes := by
  constructor
  · exact fun placed => @refusable_of_placed 0 sizes placed
  · exact fun met => @placed_of_refusable 0 sizes met

/-- A write of 2³² bytes is not refused. -/
theorem hugeWrite_outside : ¬ ∀ sizes, Placed (wlCommandWrites sizes) := by
  intro placed
  have inside := (placed [0x100000000]).inside ⟨0, 0x100000000⟩ (by decide)
  exact absurd inside (by decide)

end GlesBridge.Wayland
