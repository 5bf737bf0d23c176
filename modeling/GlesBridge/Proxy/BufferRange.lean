import GlesBridge.Proxy.Mapping
import GlesBridge.Stub.BufferRange

namespace GlesBridge.Proxy

open GlesBridge.Gl GlesBridge.Shared GlesBridge.Stub

/-! The indexed bindings of uniform buffers in GL, and the handlers that change them. -/

/-- A buffer with a part of it, or with all of it; nothing is bound with 0. -/
structure IndexedRange where
  buffer : UInt32
  part : Option (Int32 × Int32)
deriving DecidableEq, Repr

namespace IndexedRange

def unbound : IndexedRange := ⟨0, none⟩

/-- `GLintptr` has 32 bits. -/
def ofRange (buffer : UInt32) (offset size : Int64) : IndexedRange :=
  if buffer = 0 then unbound else ⟨buffer, some (offset.toInt32, size.toInt32)⟩

def ofBase (buffer : UInt32) : IndexedRange := ⟨buffer, none⟩

end IndexedRange

/-- What GL refuses is a matter of the arguments. -/
structure RangeDriver where
  range : (target index buffer : UInt32) → (offset size : Int32) → Bool
  base : (target index buffer : UInt32) → Bool

/-- A driver that takes every call. -/
def RangeDriver.plain : RangeDriver where
  range _ _ _ _ _ := true
  base _ _ _ := true

/-- `indexed` are the bindings of `GL_UNIFORM_BUFFER`. -/
structure RangeProxy where
  maps : MapProxy
  indexed : UInt32 → IndexedRange

/-- The mapping of a buffer that a copy goes to, under whatever target. -/
def MapProxy.mappingOf (proxy : MapProxy) (buffer : UInt32) : Option MapId :=
  mapIds.find? fun id => (proxy.maps id).realPtr != 0 && (proxy.maps id).buffer == buffer

/-- The bytes that came along are written through the pointer of the mapping. -/
def MapProxy.copyRange (proxy : MapProxy) (buffer : UInt32) (offset : Int32) (data : List UInt8) :
    Option MapProxy :=
  if data = [] then some proxy
  else
    match proxy.mappingOf buffer with
    | none => some proxy
    | some id =>
        let entry := proxy.maps id
        if entry.offset ≤ offset ∧ offset + .ofNat data.length ≤ entry.offset + entry.length then
          (proxy.gl.storeAt buffer entry.realPtr (offset - entry.offset).toNatClampNeg data.length
            fun place => data.getD place 0).map fun gl => { proxy with gl }
        else some proxy

namespace RangeProxy

def zero : RangeProxy where
  maps := .zero
  indexed _ := .unbound

variable (proxy : RangeProxy) (driver : RangeDriver) (target index buffer : UInt32)

/-- An indexed bind changes the generic binding too. -/
def bindIndexed (range : IndexedRange) (accepted : Bool) : RangeProxy :=
  if accepted = true ∧ target ∈ indexedTargets then
    { maps := proxy.maps.bindBuffer target buffer
      indexed :=
        if target = glUniformBuffer then Function.update proxy.indexed index range
        else proxy.indexed }
  else proxy

def hGlBindBufferBase : RangeProxy :=
  proxy.bindIndexed target index buffer (.ofBase buffer) (driver.base target index buffer)

def hGlBindBufferRange (command : RangeCommand) : Option RangeProxy :=
  (proxy.maps.copyRange command.buffer command.offset.toInt32 command.data).map fun maps =>
    { proxy with maps }.bindIndexed command.target command.index command.buffer
      (.ofRange command.buffer command.offset command.size)
      (driver.range command.target command.index command.buffer command.offset.toInt32
        command.size.toInt32)

/-- `contents` is what the buffer holds afterwards. -/
def hGlBufferSubData (contents : Nat → UInt8) (accepted : Bool) : RangeProxy :=
  let bound := proxy.maps.gl.binding target
  if accepted = true ∧ bound ≠ 0 then
    { proxy with
      maps := { proxy.maps with
        gl := { proxy.maps.gl with bytes := Function.update proxy.maps.gl.bytes bound contents } } }
  else proxy

/-- GL takes a deleted buffer out of the bindings. -/
def unbindDeleted (buffers : List UInt32) (index : UInt32) : IndexedRange :=
  if (proxy.indexed index).buffer ∈ buffers then .unbound else proxy.indexed index

end RangeProxy

end GlesBridge.Proxy
