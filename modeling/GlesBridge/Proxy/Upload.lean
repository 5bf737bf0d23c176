import GlesBridge.Proxy.Mapping
import GlesBridge.Stub.Upload

namespace GlesBridge.Proxy

open GlesBridge.Stub

/-! The handlers of the uploads: what GL gets for the pixels. -/

/-- Where the arena lies in the memory of the proxy. -/
structure DataBase where
  address : UInt32
  used : address ≠ 0
  fits : address.toNat + glesBridgeDataSize ≤ 2 ^ 32

namespace DataBase

variable (data : DataBase) (slot : UploadSlot)

/-- `dp` -/
def dp (offset : UInt32) : UInt32 := data.address + offset

/-- What the proxy finds at an address, which is that of a byte of the arena. -/
def byte (arena : Nat → UInt8) (address : UInt32) : UInt8 := arena (address - data.address).toNat

/-! ## Handlers -/

def hGlTexImage2D : UInt32 :=
  if slot.pixelMode ≠ 0 ∧ slot.dataSize ≠ 0 then data.dp slot.dataOffset else 0

/-- The `switch` over the mode, in `glTexImage3D` a conditional expression. -/
def pixelsOfMode : UInt32 :=
  if slot.pixelMode = 0 then 0
  else if slot.pixelMode = 1 then slot.dataOffset
  else data.dp slot.dataOffset

def hGlTexSubImage2D : UInt32 := data.pixelsOfMode slot

def hGlCompressedTexImage2D : UInt32 := data.pixelsOfMode slot

def hGlCompressedTexSubImage2D : UInt32 := data.pixelsOfMode slot

def hGlTexImage3D : UInt32 := data.pixelsOfMode slot

/-- Without bytes the offset stands for itself. -/
def hGlTexSubImage3D : UInt32 :=
  if slot.dataSize ≠ 0 then data.dp slot.dataOffset else slot.dataOffset

def hGlCompressedTexImage3D : UInt32 := data.pixelsOfMode slot

def hGlCompressedTexSubImage3D : UInt32 := data.pixelsOfMode slot

/-- The pointer that the real call gets. -/
def uploadPointer (op : UploadOp) : UInt32 :=
  match op with
  | .glTexImage2D => data.hGlTexImage2D slot
  | .glTexSubImage2D => data.hGlTexSubImage2D slot
  | .glCompressedTexImage2D => data.hGlCompressedTexImage2D slot
  | .glCompressedTexSubImage2D => data.hGlCompressedTexSubImage2D slot
  | .glTexImage3D => data.hGlTexImage3D slot
  | .glTexSubImage3D => data.hGlTexSubImage3D slot
  | .glCompressedTexImage3D => data.hGlCompressedTexImage3D slot
  | .glCompressedTexSubImage3D => data.hGlCompressedTexSubImage3D slot

end DataBase

namespace MapProxy

variable (proxy : MapProxy)

/-- The binding of `GL_PIXEL_UNPACK_BUFFER`. -/
def unpackBinding : UInt32 := proxy.gl.binding 0x88EC

/-- The loop stops at the first mapping of the buffer. -/
def applyUnpackPiggyback (offset data2Size : UInt32) (data : Nat → UInt8) : Option MapProxy :=
  if data2Size = 0 then some proxy
  else
    let pbo := proxy.unpackBinding
    match mapIds.find? fun id =>
        (proxy.maps id).realPtr != 0 && (proxy.maps id).buffer == pbo with
    | none => some proxy
    | some id =>
        let entry := proxy.maps id
        let start := offset.toInt32
        if start < entry.offset ∨ entry.offset + entry.length < start + data2Size.toInt32 then
          some proxy
        else
          (proxy.gl.storeAt pbo entry.realPtr (start - entry.offset).toUInt32.toNat data2Size.toNat
            data).map fun gl => { proxy with gl }

/-- What a handler does before the real call. -/
def beforeUpload (op : UploadOp) (slot : UploadSlot) (arena : Nat → UInt8) : Option MapProxy :=
  let data (place : Nat) : UInt8 := arena (slot.data2Offset.toNat + place)
  match op with
  | .glTexSubImage2D =>
      if slot.pixelMode = 1 then proxy.applyUnpackPiggyback slot.dataOffset slot.data2Size data
      else some proxy
  | .glTexSubImage3D =>
      if slot.dataSize = 0 then proxy.applyUnpackPiggyback slot.dataOffset slot.data2Size data
      else some proxy
  | _ => some proxy

end MapProxy

end GlesBridge.Proxy
