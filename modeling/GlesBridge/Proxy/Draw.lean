import GlesBridge.Proxy.Upload
import GlesBridge.Proxy.Vertex
import GlesBridge.Stub.Draw

namespace GlesBridge.Proxy

open GlesBridge.Gl GlesBridge.Shared GlesBridge.Stub

/-! The handlers of the draws: what they copy into real mappings, where the real
attributes point, and what the real call gets for the indices. -/

namespace DataBase

variable (data : DataBase) (slot : DrawSlot)

/-! ## Indices -/

/-- The argument arrives with 64 bits, of which `uintptr_t` keeps 32. -/
def rawIndices : UInt32 := slot.indices.toUInt32

def hGlDrawElements : UInt32 :=
  if slot.indexMode = 0 then rawIndices slot else data.dp slot.dataOffset

def hGlDrawElementsInstanced : UInt32 :=
  if slot.dataSize ≠ 0 then data.dp slot.dataOffset else 0

def hGlDrawElementsBaseVertex : UInt32 :=
  if slot.indexMode = idxModeOffset then rawIndices slot else data.dp slot.indices.toUInt32

/-- The pointer that the real call gets; one without indices gets none. -/
def drawIndices (op : DrawOp) : UInt32 :=
  match op with
  | .glDrawArrays | .glDrawArraysInstanced => 0
  | .glDrawElements => data.hGlDrawElements slot
  | .glDrawElementsInstanced => data.hGlDrawElementsInstanced slot
  | .glDrawElementsBaseVertex => data.hGlDrawElementsBaseVertex slot
  | .glDrawRangeElements | .glDrawElementsInstancedBaseVertex | .glDrawRangeElementsBaseVertex =>
      rawIndices slot

/-! ## Client arrays -/

/-- The pointers that a handler writes into its records. -/
def patches : List (AttribIndex × UInt64) :=
  slot.attribs.map fun (index, offset) => (index, (data.dp offset).toUInt64)

end DataBase

namespace ProxyState

variable (driver : VertexDriver) (group : Ctx → Nat) (state : ProxyState) (ctx : Ctx)

/-- The vertex arrays at the time of the real call. -/
def beforeDraw (data : DataBase) (op : DrawOp) (slot : DrawSlot) : ProxyState :=
  match op with
  | .glDrawArrays => state.hGlDrawArrays driver group ctx (data.patches slot)
  | .glDrawElements =>
      state.hGlDrawElements driver group ctx (slot.indexMode ≠ 0) (data.patches slot)
  | .glDrawElementsBaseVertex => state.hGlDrawArrays driver group ctx []
  | _ => state

end ProxyState

namespace MapProxy

variable (proxy : MapProxy)

/-- The loop stops at the first mapping of the buffer. -/
def applyPiggyback (piggyback : Piggyback) (size : UInt32) (data : Nat → UInt8) : Option MapProxy :=
  if piggyback.buffer = 0 ∨ size = 0 then some proxy
  else
    match mapIds.find? fun id =>
        (proxy.maps id).realPtr != 0 && (proxy.maps id).buffer == piggyback.buffer with
    | none => some proxy
    | some id =>
        let entry := proxy.maps id
        let start := piggyback.offset.toInt32
        let stop := (piggyback.offset + piggyback.length).toInt32
        if start < entry.offset ∨ entry.offset + entry.length < stop then some proxy
        else
          (proxy.gl.storeAt piggyback.buffer entry.realPtr (start - entry.offset).toUInt32.toNat
            size.toNat data).map fun gl => { proxy with gl }

/-- What a handler does to the buffers before the real call. -/
def beforeDraw (op : DrawOp) (slot : DrawSlot) (arena : Nat → UInt8) : Option MapProxy :=
  let data (place : Nat) : UInt8 := arena (slot.dataOffset.toNat + place)
  let data2 (place : Nat) : UInt8 := arena (slot.data2Offset.toNat + place)
  match op with
  | .glDrawArrays => proxy.applyPiggyback slot.piggyback slot.data2Size data2
  | .glDrawElements | .glDrawElementsBaseVertex =>
      (proxy.applyPiggyback slot.eboPiggyback slot.dataSize data).bind fun proxy =>
        proxy.applyPiggyback slot.piggyback slot.data2Size data2
  | _ => some proxy

end MapProxy

end GlesBridge.Proxy
