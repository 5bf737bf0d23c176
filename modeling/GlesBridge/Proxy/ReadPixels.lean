import GlesBridge.Gl.PixelStore
import GlesBridge.Proxy.Upload
import GlesBridge.Stub.ReadPixels

namespace GlesBridge.Proxy

open GlesBridge.Data GlesBridge.Gl GlesBridge.Stub

/-! The handler that reads pixels back. -/

/-- The block of bytes that a driver stores under the pack state `store`: `driver` has
the pixel as it packs it, and is `none` where it refuses the call. -/
def packBlock (store : PixelStore) (driver : Option PixelFormat) (call : ReadPixels) : Strided :=
  match driver with
  | some pixel => store.block2D call.width call.height pixel
  | none => .nothing

namespace DataBase

variable (data : DataBase)

/-- The pointer of the real call: without bytes the offset stands for itself. -/
def hGlReadPixels (slot : ReadSlot) : UInt32 :=
  if slot.dataSize = 0 then slot.dataOffset else data.dp slot.dataOffset

/-- The arena once a driver has stored a block; a byte outside of it would be one
of something else. -/
def storeBlock (arena : Nat → UInt8) (pointer : UInt32) (block : Strided) (image : Nat → UInt8) :
    Option (Nat → UInt8) :=
  if block.Empty ∨ data.address.toNat ≤ pointer.toNat + block.start ∧
      pointer.toNat + block.stop ≤ data.address.toNat + glesBridgeDataSize then
    some fun place =>
      block.stored image pointer.toNat (data.address.toNat + place) (arena place)
  else none

end DataBase

end GlesBridge.Proxy
