import GlesBridge.Stub.Upload

namespace GlesBridge.Stub

open GlesBridge.Shared

/-! The entry point that reads pixels back. -/

/-- The arguments; those that say where the pixels are taken from are only passed on. -/
structure ReadPixels where
  width : Int32
  height : Int32
  format : UInt32
  type : UInt32
  pixels : UInt64

/-- The members of the slot that say where the pixels go. -/
structure ReadSlot where
  dataOffset : UInt32
  dataSize : UInt32

def glImageSize2d (width height : Int32) (format type : UInt32) : UInt64 :=
  sizeT width * sizeT height * glBytesPerPixel format type

def ReadPixels.pixBytes (call : ReadPixels) : UInt64 :=
  glImageSize2d call.width call.height call.format call.type

namespace UploadStub

variable (stub : UploadStub) (current : Ctx)

def pixelPackBuffer : UInt32 := (stub.maps.mirrors.stubGlState current).pixelPackBuffer

/-- A range past the arena aborts the program. -/
def bridgeDataRead (dst : UInt64) (offset : UInt32) (size : UInt64) : Option UploadStub :=
  if .ofNat glesBridgeDataSize < offset.toUInt64 + size then none
  else
    some { stub with
      client := fun address =>
        if (address - dst).toNat < size.toNat then stub.arena (offset.toNat + (address - dst).toNat)
        else stub.client address }

/-- What is sent. With a buffer bound, the pointer is an offset into it. -/
def glReadPixels (call : ReadPixels) : Option (UploadStub × ReadSlot) :=
  if stub.pixelPackBuffer current ≠ 0 then some (stub, ⟨call.pixels.toUInt32, 0⟩)
  else
    (stub.bridgeDataWrite call.pixels call.pixBytes).map fun (stub, out) =>
      (stub, ⟨out, call.pixBytes.toUInt32⟩)

/-- After the reply, which only a call without a buffer waits for. -/
def glReadPixelsReturn (call : ReadPixels) (out : UInt32) : Option UploadStub :=
  if stub.pixelPackBuffer current ≠ 0 then some stub
  else if call.pixels ≠ 0 then stub.bridgeDataRead call.pixels out call.pixBytes
  else some stub

end UploadStub

end GlesBridge.Stub
