import GlesBridge.Stub.Mapping

namespace GlesBridge.Proxy

open GlesBridge.Gl GlesBridge.Shared GlesBridge.Stub GlesBridge.Systems

/-! The proxy's table of the real mappings. The proxy is a process of 32 bits. -/

/-- One entry of `maps`; a null `real_ptr` is 0. -/
structure MapEntry where
  realPtr : UInt32
  shmOffset : UInt32
  length : Int32
  target : UInt32
  offset : Int32
  buffer : UInt32
  access : UInt32

def MapEntry.zero : MapEntry where
  realPtr := 0
  shmOffset := 0
  length := 0
  target := 0
  offset := 0
  buffer := 0
  access := 0

/-- What a handler does to an entry whose mapping has ended; `shm_offset` stays. -/
def MapEntry.cleared (entry : MapEntry) : MapEntry :=
  { MapEntry.zero with shmOffset := entry.shmOffset }

/-- The copy into a real mapping, as places of it with their bytes, and the call
that GL gets. -/
structure Flush where
  copied : List (Nat × UInt8)
  target : UInt32
  offset : Int32
  length : Int32
deriving DecidableEq, Repr

structure MapProxy where
  maps : MapId → MapEntry
  gl : Buffers

namespace MapProxy

def zero : MapProxy where
  maps _ := .zero
  gl := .initial

variable (proxy : MapProxy)

def clear (id : MapId) : MapProxy :=
  { proxy with maps := Function.update proxy.maps id (proxy.maps id).cleared }

/-- The entry that a map of the same buffer under the same target has left. -/
def tracked (buffer target : UInt32) : Option MapId :=
  mapIds.find? fun id =>
    (proxy.maps id).realPtr != 0 && (proxy.maps id).buffer == buffer &&
      (proxy.maps id).target == target

/-- The first entry that is free. -/
def freeId : Option MapId := mapIds.find? fun id => (proxy.maps id).realPtr == 0

/-- `alloc_map`, with the assignment to `offset` that follows it. -/
def allocMap (real : UInt32) (length : Int32) (target buffer access : UInt32) (offset : Int32) :
    MapProxy × MapId :=
  match proxy.freeId with
  | some id =>
      ({ proxy with
          maps := Function.update proxy.maps id
            { realPtr := real, shmOffset := 0, length, target, offset, buffer, access } },
        id)
  | none => (proxy, 0)

/-! ## Handlers -/

def bindBuffer (target buffer : UInt32) : MapProxy :=
  { proxy with gl := proxy.gl.bindBuffer target buffer }

/-- What is still mapped of the buffer under this target is unmapped first. -/
def unmapTracked (buffer target : UInt32) : MapProxy :=
  match proxy.tracked buffer target with
  | some id => { proxy with gl := (proxy.gl.unmapBuffer target).1 }.clear id
  | none => proxy

/-- The range arrives with 64 bits, of which `GLintptr` keeps 32. -/
def hGlMapBufferRange (target : UInt32) (offset length : Int64) (access buffer answer : UInt32) :
    MapProxy × MapAnswer :=
  let offset := offset.toInt32
  let length := length.toInt32
  let oldBinding := proxy.gl.binding target
  let moved := oldBinding ≠ buffer
  let proxy := (if moved then proxy.bindBuffer target buffer else proxy).unmapTracked buffer target
  let (gl, real) := proxy.gl.mapBufferRange target offset length answer
  let proxy := { proxy with gl := if moved then gl.bindBuffer target oldBinding else gl }
  if real = 0 then (proxy, ⟨0, fun _ => 0⟩)
  else
    let (proxy, id) := proxy.allocMap real length target buffer access offset
    (proxy, ⟨id, proxy.gl.mappedBytes buffer⟩)

/-- The copy into the real mapping; in pieces, which together are the whole. -/
def writeBack (id : MapId) (size : Nat) (data : Nat → UInt8) : Option MapProxy :=
  let entry := proxy.maps id
  if id ≠ 0 ∧ entry.realPtr ≠ 0 ∧ size ≠ 0 ∧ entry.buffer ≠ 0 ∧
      size ≤ entry.length.toUInt32.toNat ∧ entry.access &&& glMapFlushExplicitBit = 0 ∧
      entry.access &&& glMapWriteBit ≠ 0 then
    (proxy.gl.store entry.buffer entry.realPtr size data).map fun gl => { proxy with gl }
  else some proxy

/-- The target is bound to the buffer for the unmap; with id 0 to none. -/
def hGlUnmapBuffer (target : UInt32) (id : MapId) (size : Nat) (data : Nat → UInt8) :
    Option MapProxy :=
  (proxy.writeBack id size data).map fun proxy =>
    let oldBinding := proxy.gl.binding target
    let gl := (proxy.gl.bindBuffer target (proxy.maps id).buffer).unmapBuffer target
    let proxy := { proxy with gl := gl.1.bindBuffer target oldBinding }
    if id ≠ 0 then proxy.clear id else proxy

def hGlFlushMappedBufferRange (command : FlushCommand) : Option Flush :=
  if below : command.id.toNat < maxMaps then
    let entry := proxy.maps ⟨command.id.toNat, below⟩
    if command.id = 0 ∨ entry.realPtr = 0 then none
    else if entry.target ≠ command.target then none
    else if command.offset < 0 ∨ entry.length < command.offset + command.length then none
    else
      some
        { copied := (List.range command.length.toUInt32.toNat).map fun index =>
            (command.offset.toNatClampNeg + index, command.data index)
          target := command.target
          offset := entry.offset + command.offset
          length := command.length }
  else none

/-- The entries of a deleted buffer. -/
def deleteMaps (buffer : UInt32) : MapProxy :=
  { proxy with
    maps := fun id =>
      let entry := proxy.maps id
      if id ∈ mapIds ∧ entry.realPtr ≠ 0 ∧ entry.buffer = buffer then entry.cleared else entry }

def hGlDeleteBuffers (buffers : List UInt32) : MapProxy :=
  buffers.foldl deleteMaps { proxy with gl := proxy.gl.deleteBuffers buffers }

/-- An id past the table has no defined outcome. -/
def handleMap : MapCommand → Option (MapProxy × MapAnswer)
  | .glBindBuffer target buffer => some (proxy.bindBuffer target buffer, ⟨0, fun _ => 0⟩)
  | .glBufferData target contents accepted =>
      some ({ proxy with gl := proxy.gl.bufferData target contents accepted }, ⟨0, fun _ => 0⟩)
  | .glDeleteBuffers buffers => some (proxy.hGlDeleteBuffers buffers, ⟨0, fun _ => 0⟩)
  | .glMapBufferRange target offset length access buffer answer =>
      some (proxy.hGlMapBufferRange target offset length access buffer answer)
  | .glUnmapBuffer target id size data =>
      if below : id.toNat < maxMaps then
        (proxy.hGlUnmapBuffer target ⟨id.toNat, below⟩ size data).map fun proxy =>
          (proxy, ⟨0, fun _ => 0⟩)
      else none

end MapProxy

end GlesBridge.Proxy
