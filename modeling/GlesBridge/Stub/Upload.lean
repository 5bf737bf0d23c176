import GlesBridge.Ring.Step
import GlesBridge.Stub.Mapping
import GlesBridge.Stub.Unpack

namespace GlesBridge.Stub

open GlesBridge.Gl GlesBridge.Shared

/-! The entry points that upload a texture. -/

inductive UploadOp where
  | glTexImage2D
  | glTexSubImage2D
  | glCompressedTexImage2D
  | glCompressedTexSubImage2D
  | glTexImage3D
  | glTexSubImage3D
  | glCompressedTexImage3D
  | glCompressedTexSubImage3D
deriving DecidableEq, Repr

/-- The arguments that decide what is read, those of all entry points together;
`pixels` is the last one, under whatever name. -/
structure Upload where
  op : UploadOp
  width : Int32
  height : Int32
  depth : Int32
  format : UInt32
  type : UInt32
  imageSize : Int32
  pixels : UInt64

/-- The members of the slot that say where the pixels are. For `glTexImage2D`
the mode is `has_pixels`, and `glTexSubImage3D` writes none. -/
structure UploadSlot where
  pixelMode : UInt32
  dataOffset : UInt32
  dataSize : UInt32
  data2Offset : UInt32
  data2Size : UInt32

/-- `client` is the client's memory and `arena` what the data offsets point into.
`head` and `tail` are the numbers that `ring_data_alloc` goes by when it finds
room. `reads` is a record: the ranges of the client's memory that were read. -/
structure UploadStub where
  maps : MapStub
  unpack : UnpackState
  client : UInt64 → UInt8
  arena : Nat → UInt8
  head : Nat
  tail : Nat
  reads : List (UInt64 × Nat)

namespace UploadStub

/-- Nothing has been sent yet. -/
def start (maps : MapStub) (client : UInt64 → UInt8) : UploadStub where
  maps := maps
  unpack := .initial
  client := client
  arena _ := 0
  head := 0
  tail := 0
  reads := []

variable (stub : UploadStub) (current : Ctx)

def pixelUnpackBuffer : UInt32 := (stub.maps.mirrors.stubGlState current).pixelUnpackBuffer

/-- A size past the arena aborts the program. -/
def ringDataAlloc (size : Nat) : Option (UploadStub × UInt32) :=
  if glesBridgeDataSize < size then none
  else
    (Ring.ringDataAlloc stub.head stub.tail size).map fun (offset, head) =>
      ({ stub with head }, .ofNat offset)

/-- Nothing is copied from a null pointer. -/
def bridgeDataWrite (src : UInt64) (size : UInt64) : Option (UploadStub × UInt32) :=
  (stub.ringDataAlloc size.toNat).map fun (stub, offset) =>
    if size ≠ 0 ∧ src ≠ 0 then
      ({ stub with
          arena := Ring.writeBytes stub.arena offset.toNat size.toNat fun place =>
            stub.client (src + .ofNat place)
          reads := (src, size.toNat) :: stub.reads },
        offset)
    else (stub, offset)

/-- As `bridge_data_write`, from the memory of a mapping. -/
def mappingWrite (ptr : UInt64) (start : Nat) (size : UInt64) : Option (UploadStub × UInt32) :=
  (stub.ringDataAlloc size.toNat).map fun (stub, offset) =>
    ({ stub with
        arena := Ring.writeBytes stub.arena offset.toNat size.toNat fun place =>
          stub.maps.memory ptr (start + place) },
      offset)

/-- What an upload from a mapped buffer will read, with its offset and size in the
arena. -/
def stubUnpackPiggyback (offset : Int64) (bytes : UInt64) : Option (UploadStub × UInt32 × UInt32) :=
  let pbo := stub.pixelUnpackBuffer current
  if pbo = 0 ∨ bytes = 0 ∨ offset < 0 then some (stub, 0, 0)
  else
    match stub.maps.mappingOf pbo with
    | none => some (stub, 0, 0)
    | some id =>
        let entry := stub.maps.stubMaps id
        if entry.access &&& glMapFlushExplicitBit ≠ 0 ∨ entry.access &&& glMapWriteBit = 0 then
          some (stub, 0, 0)
        else if offset < entry.offset ∨ entry.offset + entry.length ≤ offset then some (stub, 0, 0)
        else
          let start := (offset - entry.offset).toUInt64
          let size :=
            if entry.length.toUInt64 < start + bytes then entry.length.toUInt64 - start else bytes
          (stub.mappingWrite entry.ptr start.toNat size).map fun (stub, offset) =>
            (stub, offset, size.toUInt32)

/-! ## The entry points -/

def glTexImage2D (call : Upload) : Option (UploadStub × UploadSlot) :=
  let bytes :=
    if call.pixels ≠ 0 ∧ 0 < call.width ∧ 0 < call.height then
      stub.unpack.glUnpackImageSize2d call.width call.height call.format call.type
    else 0
  let hasPixels := if call.pixels ≠ 0 then 1 else 0
  if call.pixels ≠ 0 ∧ bytes ≠ 0 then
    (stub.bridgeDataWrite call.pixels bytes).map fun (stub, offset) =>
      (stub, ⟨hasPixels, offset, bytes.toUInt32, 0, 0⟩)
  else some (stub, ⟨hasPixels, 0, 0, 0, 0⟩)

/-- With a buffer bound, the pointer is an offset, a null one too. -/
def glTexSubImage2D (call : Upload) : Option (UploadStub × UploadSlot) :=
  let pbo := stub.pixelUnpackBuffer current
  let bytes :=
    if (call.pixels ≠ 0 ∨ pbo ≠ 0) ∧ 0 < call.width ∧ 0 < call.height then
      stub.unpack.glUnpackImageSize2d call.width call.height call.format call.type
    else 0
  if pbo ≠ 0 then
    (stub.stubUnpackPiggyback current call.pixels.toInt64 bytes).map fun (stub, offset, size) =>
      (stub, ⟨1, call.pixels.toUInt32, 0, offset, size⟩)
  else if call.pixels = 0 then some (stub, ⟨0, 0, 0, 0, 0⟩)
  else if bytes = 0 then some (stub, ⟨2, 0, 0, 0, 0⟩)
  else
    (stub.bridgeDataWrite call.pixels bytes).map fun (stub, offset) =>
      (stub, ⟨2, offset, bytes.toUInt32, 0, 0⟩)

/-- The decision that the compressed uploads and `glTexImage3D` make. -/
def sendPixels (pixels size : UInt64) : Option (UploadStub × UploadSlot) :=
  if pixels = 0 then some (stub, ⟨0, 0, 0, 0, 0⟩)
  else if stub.pixelUnpackBuffer current ≠ 0 then some (stub, ⟨1, pixels.toUInt32, 0, 0, 0⟩)
  else
    (stub.bridgeDataWrite pixels size).map fun (stub, offset) =>
      (stub, ⟨2, offset, size.toUInt32, 0, 0⟩)

def glCompressedTexImage2D (call : Upload) : Option (UploadStub × UploadSlot) :=
  stub.sendPixels current call.pixels (sizeT call.imageSize)

def glCompressedTexSubImage2D (call : Upload) : Option (UploadStub × UploadSlot) :=
  stub.sendPixels current call.pixels (sizeT call.imageSize)

def glTexImage3D (call : Upload) : Option (UploadStub × UploadSlot) :=
  stub.sendPixels current call.pixels
    (stub.unpack.glUnpackImageSize3d call.width call.height call.depth call.format call.type)

def glTexSubImage3D (call : Upload) : Option (UploadStub × UploadSlot) :=
  let bytes :=
    stub.unpack.glUnpackImageSize3d call.width call.height call.depth call.format call.type
  if stub.pixelUnpackBuffer current ≠ 0 then
    (stub.stubUnpackPiggyback current call.pixels.toInt64 bytes).map fun (stub, offset, size) =>
      (stub, ⟨0, call.pixels.toUInt32, 0, offset, size⟩)
  else
    (stub.bridgeDataWrite call.pixels bytes).map fun (stub, offset) =>
      (stub, ⟨0, offset, bytes.toUInt32, 0, 0⟩)

def glCompressedTexImage3D (call : Upload) : Option (UploadStub × UploadSlot) :=
  stub.sendPixels current call.pixels (sizeT call.imageSize)

def glCompressedTexSubImage3D (call : Upload) : Option (UploadStub × UploadSlot) :=
  stub.sendPixels current call.pixels (sizeT call.imageSize)

def upload (call : Upload) : Option (UploadStub × UploadSlot) :=
  match call.op with
  | .glTexImage2D => stub.glTexImage2D call
  | .glTexSubImage2D => stub.glTexSubImage2D current call
  | .glCompressedTexImage2D => stub.glCompressedTexImage2D current call
  | .glCompressedTexSubImage2D => stub.glCompressedTexSubImage2D current call
  | .glTexImage3D => stub.glTexImage3D current call
  | .glTexSubImage3D => stub.glTexSubImage3D current call
  | .glCompressedTexImage3D => stub.glCompressedTexImage3D current call
  | .glCompressedTexSubImage3D => stub.glCompressedTexSubImage3D current call

end UploadStub

end GlesBridge.Stub
