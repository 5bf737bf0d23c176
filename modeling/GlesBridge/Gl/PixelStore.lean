import GlesBridge.Data.Strided
import GlesBridge.Stub.Unpack

namespace GlesBridge.Gl

open GlesBridge.Data GlesBridge.Stub

/-! Which bytes of its source an upload of GL reads. -/

/-- The number of elements of a pixel and the bytes of each; a packed type has one. -/
structure PixelFormat where
  format : UInt32
  type : UInt32
  elements : Nat
  size : Nat
deriving DecidableEq, Repr

/-- The pairs of formats and types that an upload may have. -/
def pixelFormats : List PixelFormat :=
  -- `GL_RGBA`, `GL_RGBA_INTEGER`
  [⟨0x1908, 0x1401, 4, 1⟩, ⟨0x1908, 0x1400, 4, 1⟩, ⟨0x1908, 0x8033, 1, 2⟩, ⟨0x1908, 0x8034, 1, 2⟩,
    ⟨0x1908, 0x8368, 1, 4⟩, ⟨0x1908, 0x140B, 4, 2⟩, ⟨0x1908, 0x1406, 4, 4⟩,
    ⟨0x8D99, 0x1401, 4, 1⟩, ⟨0x8D99, 0x1400, 4, 1⟩, ⟨0x8D99, 0x1403, 4, 2⟩, ⟨0x8D99, 0x1402, 4, 2⟩,
    ⟨0x8D99, 0x1405, 4, 4⟩, ⟨0x8D99, 0x1404, 4, 4⟩, ⟨0x8D99, 0x8368, 1, 4⟩,
    -- `GL_RGB`, `GL_RGB_INTEGER`
    ⟨0x1907, 0x1401, 3, 1⟩, ⟨0x1907, 0x1400, 3, 1⟩, ⟨0x1907, 0x8363, 1, 2⟩, ⟨0x1907, 0x8C3B, 1, 4⟩,
    ⟨0x1907, 0x8C3E, 1, 4⟩, ⟨0x1907, 0x140B, 3, 2⟩, ⟨0x1907, 0x1406, 3, 4⟩,
    ⟨0x8D98, 0x1401, 3, 1⟩, ⟨0x8D98, 0x1400, 3, 1⟩, ⟨0x8D98, 0x1403, 3, 2⟩, ⟨0x8D98, 0x1402, 3, 2⟩,
    ⟨0x8D98, 0x1405, 3, 4⟩, ⟨0x8D98, 0x1404, 3, 4⟩,
    -- `GL_RG`, `GL_RG_INTEGER`
    ⟨0x8227, 0x1401, 2, 1⟩, ⟨0x8227, 0x1400, 2, 1⟩, ⟨0x8227, 0x140B, 2, 2⟩, ⟨0x8227, 0x1406, 2, 4⟩,
    ⟨0x8228, 0x1401, 2, 1⟩, ⟨0x8228, 0x1400, 2, 1⟩, ⟨0x8228, 0x1403, 2, 2⟩, ⟨0x8228, 0x1402, 2, 2⟩,
    ⟨0x8228, 0x1405, 2, 4⟩, ⟨0x8228, 0x1404, 2, 4⟩,
    -- `GL_RED`, `GL_RED_INTEGER`
    ⟨0x1903, 0x1401, 1, 1⟩, ⟨0x1903, 0x1400, 1, 1⟩, ⟨0x1903, 0x140B, 1, 2⟩, ⟨0x1903, 0x1406, 1, 4⟩,
    ⟨0x8D94, 0x1401, 1, 1⟩, ⟨0x8D94, 0x1400, 1, 1⟩, ⟨0x8D94, 0x1403, 1, 2⟩, ⟨0x8D94, 0x1402, 1, 2⟩,
    ⟨0x8D94, 0x1405, 1, 4⟩, ⟨0x8D94, 0x1404, 1, 4⟩,
    -- `GL_DEPTH_COMPONENT`, `GL_DEPTH_STENCIL`, `GL_STENCIL_INDEX`
    ⟨0x1902, 0x1403, 1, 2⟩, ⟨0x1902, 0x1405, 1, 4⟩, ⟨0x1902, 0x1406, 1, 4⟩,
    ⟨0x84F9, 0x84FA, 1, 4⟩, ⟨0x84F9, 0x8DAD, 1, 8⟩, ⟨0x1901, 0x1401, 1, 1⟩,
    -- `GL_LUMINANCE_ALPHA`, `GL_LUMINANCE`, `GL_ALPHA`
    ⟨0x190A, 0x1401, 2, 1⟩, ⟨0x1909, 0x1401, 1, 1⟩, ⟨0x1906, 0x1401, 1, 1⟩]

def pixelFormat (format type : UInt32) : Option PixelFormat :=
  pixelFormats.find? fun entry => entry.format == format && entry.type == type

def PixelFormat.bytes (pixel : PixelFormat) : Nat := pixel.elements * pixel.size

/-- The values that GL accepts. -/
structure PixelStore extends UnpackState where
  alignmentLegal : alignment ∈ [1, 2, 4, 8]
  rowLengthLegal : 0 ≤ rowLength
  skipRowsLegal : 0 ≤ skipRows
  skipPixelsLegal : 0 ≤ skipPixels
  imageHeightLegal : 0 ≤ imageHeight
  skipImagesLegal : 0 ≤ skipImages

/-- A value that GL takes for a parameter of unpacking; another name is none of these. -/
def LegalParam (pname : UInt32) (param : Int32) : Prop :=
  if pname = 0x0CF5 then param ∈ [1, 2, 4, 8] else 0 ≤ param

instance decidableLegalParam (pname : UInt32) (param : Int32) : Decidable (LegalParam pname param) :=
  inferInstanceAs (Decidable (if pname = 0x0CF5 then param ∈ [1, 2, 4, 8] else 0 ≤ param))

/-- `known` is whether the version of the context has the parameter; a call that is
refused changes nothing. -/
def realPixelStorei (pname : UInt32) (param : Int32) (known : Bool) (unpack : UnpackState) :
    UnpackState :=
  if known = true ∧ LegalParam pname param then unpack.glPixelStorei pname param else unpack

namespace PixelStore

def initial : PixelStore where
  toUnpackState := .initial
  alignmentLegal := by decide
  rowLengthLegal := by decide
  skipRowsLegal := by decide
  skipPixelsLegal := by decide
  imageHeightLegal := by decide
  skipImagesLegal := by decide

variable (store : PixelStore)

/-- A parameter that is 0 leaves it at the size of the image. -/
def orElse (parameter size : Int32) : Nat :=
  if parameter = 0 then size.toNatClampNeg else parameter.toNatClampNeg

/-- A row starts at a multiple of the alignment, unless an element is as large. -/
def rowStride (width : Int32) (pixel : PixelFormat) : Nat :=
  let row := orElse store.rowLength width * pixel.bytes
  if store.alignment.toNatClampNeg ≤ pixel.size then row
  else roundUp row store.alignment.toNatClampNeg

def block2D (width height : Int32) (pixel : PixelFormat) : Strided where
  start :=
    store.skipRows.toNatClampNeg * store.rowStride width pixel +
      store.skipPixels.toNatClampNeg * pixel.bytes
  rowBytes := width.toNatClampNeg * pixel.bytes
  rowStride := store.rowStride width pixel
  imageStride := 0
  rows := height.toNatClampNeg
  images := 1

def block3D (width height depth : Int32) (pixel : PixelFormat) : Strided :=
  let imageStride := orElse store.imageHeight height * store.rowStride width pixel
  { start :=
      store.skipImages.toNatClampNeg * imageStride +
        store.skipRows.toNatClampNeg * store.rowStride width pixel +
        store.skipPixels.toNatClampNeg * pixel.bytes
    rowBytes := width.toNatClampNeg * pixel.bytes
    rowStride := store.rowStride width pixel
    imageStride
    rows := height.toNatClampNeg
    images := depth.toNatClampNeg }

end PixelStore

/-- A compressed image is read as it is. -/
def blockOfSize (imageSize : Int32) : Strided where
  start := 0
  rowBytes := imageSize.toNatClampNeg
  rowStride := 0
  imageStride := 0
  rows := 1
  images := 1

end GlesBridge.Gl
