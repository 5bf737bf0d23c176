import GlesBridge.Stub.Vertex

namespace GlesBridge.Stub

/-! How many bytes of the client's memory an upload reads, as the stub computes it
(`gles_util_stub.h`). `size_t` has 64 bits.
-/

/-- The members of `GLState` that `glPixelStorei` sets for unpacking. -/
structure UnpackState where
  alignment : Int32
  rowLength : Int32
  skipRows : Int32
  skipPixels : Int32
  imageHeight : Int32
  skipImages : Int32
deriving DecidableEq, Repr

/-- The values that a context starts with. -/
def UnpackState.initial : UnpackState where
  alignment := 4
  rowLength := 0
  skipRows := 0
  skipPixels := 0
  imageHeight := 0
  skipImages := 0

/-- The components of a format, where it is known. -/
def formatComponents (format : UInt32) : Option UInt64 :=
  match format.toNat with
  | 0x1903 | 0x8D94 | 0x1906 | 0x1909 | 0x1902 => some 1
  | 0x8227 | 0x8228 | 0x190A => some 2
  | 0x1907 | 0x8D98 => some 3
  | 0x1908 | 0x8D99 => some 4
  | 0x84F9 => some 2
  | _ => none

/-- The bytes of a component, where the type is known. -/
def componentBytes (type : UInt32) : Option UInt64 :=
  match type.toNat with
  | 0x1401 | 0x1400 => some 1
  | 0x1403 | 0x1402 | 0x140B => some 2
  | 0x1405 | 0x1404 | 0x1406 => some 4
  | _ => none

/-- A packed type has all components of a pixel. -/
def packedBytes (type : UInt32) : Option UInt64 :=
  match type.toNat with
  | 0x8363 | 0x8033 | 0x8034 => some 2
  | 0x8368 | 0x8C3B | 0x8C3E => some 4
  | 0x84FA => some 4
  | 0x8DAD => some 8
  | _ => none

def glBytesPerPixel (format type : UInt32) : UInt64 :=
  match packedBytes type with
  | some bytes => bytes
  | none =>
      match formatComponents format, componentBytes type with
      | some components, some bytes => components * bytes
      | _, _ => 4

def glAlignUpSize (value alignment : UInt64) : UInt64 :=
  if alignment ≤ 1 then value else (value + alignment - 1) / alignment * alignment

namespace UnpackState

/-- The record of a context as the stub's process starts. -/
def zero : UnpackState where
  alignment := 0
  rowLength := 0
  skipRows := 0
  skipPixels := 0
  imageHeight := 0
  skipImages := 0

variable (unpack : UnpackState)

/-- The stub takes any value; the names with `EXT` have the same numbers. -/
def glPixelStorei (pname : UInt32) (param : Int32) : UnpackState :=
  match pname.toNat with
  | 0x0CF5 => { unpack with alignment := param }
  | 0x0CF2 => { unpack with rowLength := param }
  | 0x0CF3 => { unpack with skipRows := param }
  | 0x0CF4 => { unpack with skipPixels := param }
  | 0x806E => { unpack with imageHeight := param }
  | 0x806D => { unpack with skipImages := param }
  | _ => unpack

/-- A size that is not positive counts as none. -/
def orNone (parameter : Int32) : Int32 := if 0 < parameter then parameter else 0

/-- The values that the sizes are computed with. -/
def used : UnpackState where
  alignment := if 0 < unpack.alignment then unpack.alignment else 4
  rowLength := orNone unpack.rowLength
  skipRows := unpack.skipRows
  skipPixels := unpack.skipPixels
  imageHeight := orNone unpack.imageHeight
  skipImages := unpack.skipImages

def glUnpackAlignment : UInt64 := if 0 < unpack.alignment then sizeT unpack.alignment else 4

/-- The distance of two rows in the client's memory. -/
def rowStride (width : Int32) (pixel : UInt64) : UInt64 :=
  let rowPixels := if 0 < unpack.rowLength then sizeT unpack.rowLength else sizeT width
  glAlignUpSize (rowPixels * pixel) unpack.glUnpackAlignment

def glUnpackImageSize2d (width height : Int32) (format type : UInt32) : UInt64 :=
  if width ≤ 0 ∨ height ≤ 0 then 0
  else
    let pixel := glBytesPerPixel format type
    let rowStride := unpack.rowStride width pixel
    let start := sizeT unpack.skipRows * rowStride + sizeT unpack.skipPixels * pixel
    start + sizeT (height - 1) * rowStride + sizeT width * pixel

def glUnpackImageSize3d (width height depth : Int32) (format type : UInt32) : UInt64 :=
  if width ≤ 0 ∨ height ≤ 0 ∨ depth ≤ 0 then 0
  else
    let pixel := glBytesPerPixel format type
    let imageRows := if 0 < unpack.imageHeight then sizeT unpack.imageHeight else sizeT height
    let rowStride := unpack.rowStride width pixel
    let imageStride := rowStride * imageRows
    let start :=
      sizeT unpack.skipImages * imageStride + sizeT unpack.skipRows * rowStride +
        sizeT unpack.skipPixels * pixel
    start + sizeT (depth - 1) * imageStride + sizeT (height - 1) * rowStride + sizeT width * pixel

variable {unpack} {width height depth : Int32} {format type : UInt32} {pixel : UInt64}

/-- Using the values once more changes nothing. -/
theorem used_alignment : unpack.used.glUnpackAlignment = unpack.glUnpackAlignment := by
  unfold glUnpackAlignment used
  by_cases set : 0 < unpack.alignment
  · simp only [if_pos set]
  · simp only [if_neg set]
    rfl

theorem orNone_toNat {parameter : Int32} {other : UInt64} :
    (if 0 < orNone parameter then sizeT (orNone parameter) else other) =
      if 0 < parameter then sizeT parameter else other := by
  unfold orNone
  by_cases set : 0 < parameter
  · simp only [if_pos set]
  · simp only [if_neg set]
    rfl

theorem used_rowStride : unpack.used.rowStride width pixel = unpack.rowStride width pixel := by
  have row : (if 0 < unpack.used.rowLength then sizeT unpack.used.rowLength else sizeT width) =
      if 0 < unpack.rowLength then sizeT unpack.rowLength else sizeT width := orNone_toNat
  unfold rowStride
  rw [used_alignment, row]

/-- The sizes depend on these values alone. -/
theorem used_size2d : unpack.used.glUnpackImageSize2d width height format type =
    unpack.glUnpackImageSize2d width height format type := by
  unfold glUnpackImageSize2d
  simp only [used_rowStride]
  rfl

theorem used_size3d : unpack.used.glUnpackImageSize3d width height depth format type =
    unpack.glUnpackImageSize3d width height depth format type := by
  have rows : (if 0 < unpack.used.imageHeight then sizeT unpack.used.imageHeight
      else sizeT height) = if 0 < unpack.imageHeight then sizeT unpack.imageHeight
      else sizeT height := orNone_toNat
  unfold glUnpackImageSize3d
  simp only [used_rowStride, rows]
  rfl

end UnpackState

end GlesBridge.Stub
