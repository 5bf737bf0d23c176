import GlesBridge.Data.Cursor
import GlesBridge.Data.LittleEndian

namespace GlesBridge.Shared

open GlesBridge.Data

/-! The arguments of a command, packed one after the other into its slot
(`gles_bridge_protocol.h`). -/

/-- The types that have an `aw_*` and an `ar_*`. -/
inductive Scalar where
  | u32 | i32 | f32 | u64 | i64
deriving DecidableEq, Repr

def Scalar.size : Scalar → Nat
  | .u32 | .i32 | .f32 => 4
  | .u64 | .i64 => 8

abbrev bridgeArgsSize : Nat := 256

def sizesOf (scalars : List Scalar) : List Nat := scalars.map Scalar.size

/-! ## Writing -/

structure ArgWriter where
  /-- What stands in `buf` before `pos`. -/
  written : List UInt8

def awInit : ArgWriter := ⟨[]⟩

/-- Any of the `aw_*`: the bytes of the value, and `pos` behind them. -/
def aw (w : ArgWriter) (value : Word) : ArgWriter := ⟨w.written ++ value.bytes⟩

/-- Writes of the given sizes from `pos` on, a `uint32_t`, end inside `args`. -/
def WritesInside : UInt32 → List Nat → Prop
  | _, [] => True
  | pos, size :: rest =>
      pos.toNat + size ≤ bridgeArgsSize ∧ WritesInside (pos + UInt32.ofNat size) rest

/-- `pos` after them. -/
def posAfter : UInt32 → List Nat → UInt32
  | pos, [] => pos
  | pos, size :: rest => posAfter (pos + UInt32.ofNat size) rest

/-! ## Reading -/

structure ArgReader where
  buf : List UInt8
  pos : Nat

def arInit (buf : List UInt8) : ArgReader := ⟨buf, 0⟩

/-- Any of the `ar_*`. -/
def ar (scalar : Scalar) (r : ArgReader) : Word × ArgReader :=
  (Word.ofBytes (chunk r.buf r.pos scalar.size), { r with pos := r.pos + scalar.size })

/-- The `ar_*` calls of a handler, numbered as they stand in its text, made in the
given order; the values that come, with their numbers. -/
def evaluate (scalars : List Scalar) : List Nat → ArgReader → List (Nat × Word)
  | [], _ => []
  | position :: rest, r =>
      let (value, after) := ar (scalars.getD position .u32) r
      (position, value) :: evaluate scalars rest after

/-- The expressions of a handler that read arguments, each with the types that it
reads.  An expression that reads several is one call with the reads as arguments. -/
abbrev Reads := List (List Scalar)

/-- One expression for each argument. -/
def sequenced (scalars : List Scalar) : Reads := scalars.map fun scalar => [scalar]

/-- The orders that C allows, the first read of the first expression having the number
`start`: the expressions follow each other, the arguments of one call may be evaluated
in any order. -/
def Allowed : Nat → Reads → List Nat → Prop
  | _, [], order => order = []
  | start, scalars :: rest, order =>
      ∃ first later, order = first ++ later ∧ first.Perm (List.range' start scalars.length) ∧
        Allowed (start + scalars.length) rest later

/-! ## Lists of arguments -/

/-- A loop that handles the given arguments once for each number below `n`. -/
def repeated (n : Int32) (scalars : List Scalar) : List Scalar :=
  (List.replicate n.toInt.toNat scalars).flatten

def eglNone : UInt64 := 0x3038

def strlen (name : List UInt8) : Nat := (name.takeWhile (· ≠ 0)).length

/-- The string and its terminator. -/
def cString (name : List UInt8) : List UInt8 := name.takeWhile (· ≠ 0) ++ [0]

/-! ## What is written -/

variable {pos : UInt32} {sizes : List Nat} {words : List Word} {w : ArgWriter}

theorem written_foldl : (words.foldl aw w).written = w.written ++ (words.map Word.bytes).flatten := by
  induction words generalizing w with
  | nil => simp
  | cons word rest ih =>
      rw [List.foldl_cons, ih, List.map_cons, List.flatten_cons, aw, List.append_assoc]

theorem toNat_pos_add {size : Nat} (fits : pos.toNat + size ≤ bridgeArgsSize) :
    (pos + UInt32.ofNat size).toNat = pos.toNat + size := by
  have small : pos.toNat + size ≤ 256 := fits
  rw [UInt32.toNat_add, UInt32.toNat_ofNat']
  omega

/-- A sum at most as large as `args` cannot have wrapped on the way. -/
theorem writesInside_iff (inside : pos.toNat ≤ bridgeArgsSize) :
    WritesInside pos sizes ↔ pos.toNat + sizes.sum ≤ bridgeArgsSize := by
  induction sizes generalizing pos with
  | nil => simp [WritesInside, inside]
  | cons size rest ih =>
      rw [WritesInside, List.sum_cons]
      constructor
      · intro ⟨fits, later⟩
        have next := toNat_pos_add fits
        have rest_fits := (ih (by omega)).mp later
        omega
      · intro fits
        have here : pos.toNat + size ≤ bridgeArgsSize := by omega
        have next := toNat_pos_add here
        exact ⟨here, (ih (by omega)).mpr (by omega)⟩

theorem toNat_posAfter (inside : pos.toNat + sizes.sum ≤ bridgeArgsSize) :
    (posAfter pos sizes).toNat = pos.toNat + sizes.sum := by
  induction sizes generalizing pos with
  | nil => rfl
  | cons size rest ih =>
      rw [List.sum_cons] at inside
      have here : pos.toNat + size ≤ bridgeArgsSize := by omega
      have next := toNat_pos_add here
      rw [posAfter, ih (by omega), next, List.sum_cons, Nat.add_assoc]

end GlesBridge.Shared
