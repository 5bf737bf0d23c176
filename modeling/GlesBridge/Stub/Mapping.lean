import GlesBridge.Gl.Mapping
import GlesBridge.Stub.Vertex
import GlesBridge.Systems.Pipeline

namespace GlesBridge.Stub

open GlesBridge.Gl GlesBridge.Shared GlesBridge.Systems

/-! The stub's table of the buffers that the client has mapped. The client gets
memory of the stub's own, which is copied to and from the real mapping. -/

abbrev glesBridgeDataSize : Nat := 64 * 1024 * 1024

/-- An index into the tables of both sides; 0 stands for none. -/
abbrev MapId := Fin maxMaps

/-- The loops over the tables start at 1. -/
def mapIds : List MapId := (List.finRange maxMaps).tail

def StubMapEntry.zero : StubMapEntry where
  id := 0
  ptr := 0
  length := 0
  target := 0
  offset := 0
  buffer := 0
  access := 0

/-- The client's calls, with what GL and `malloc` answer; a null pointer is 0. -/
inductive MapCall where
  | glBindBuffer (target buffer : UInt32)
  | glBufferData (target : UInt32) (contents : Nat → UInt8) (accepted : Bool)
  | glDeleteBuffers (buffers : List UInt32)
  | glMapBufferRange (target : UInt32) (offset length : Int64) (access answer : UInt32)
      (malloc : UInt64)
  | glUnmapBuffer (target : UInt32)
  | store (ptr : UInt64) (place : Nat) (byte : UInt8)

inductive MapCommand where
  | glBindBuffer (target buffer : UInt32)
  | glBufferData (target : UInt32) (contents : Nat → UInt8) (accepted : Bool)
  | glDeleteBuffers (buffers : List UInt32)
  | glMapBufferRange (target : UInt32) (offset length : Int64) (access buffer answer : UInt32)
  | glUnmapBuffer (target id : UInt32) (size : Nat) (data : Nat → UInt8)

structure FlushCommand where
  target : UInt32
  offset : Int32
  length : Int32
  id : UInt32
  data : Nat → UInt8

/-- `C->result` and the bytes that are read back. -/
structure MapAnswer where
  result : MapId
  bytes : Nat → UInt8

/-- The bytes that the stub sends along for a mapped buffer. -/
structure Piggyback where
  buffer : UInt32
  offset : UInt32
  length : UInt32
deriving DecidableEq, Repr

/-- `memory` is what the client reads and writes through its pointers. -/
structure MapStub where
  mirrors : StubMirrors
  memory : UInt64 → Nat → UInt8
  stubMaps : MapId → StubMapEntry
  activeStubMapCount : UInt32

namespace MapStub

def zero : MapStub where
  mirrors := .zero
  memory _ _ := 0
  stubMaps _ := .zero
  activeStubMapCount := 0

variable (stub : MapStub) (current : Ctx)

/-- The mapping that is handed out again. -/
def reused (target buffer : UInt32) (offset length : Int64) (access : UInt32) : Option MapId :=
  mapIds.find? fun id =>
    let entry := stub.stubMaps id
    entry.ptr != 0 && entry.buffer == buffer && entry.target == target &&
      entry.offset == offset && entry.length == length && entry.access == access

/-- The loop that frees what is left of other mappings of the buffer. -/
def freeStale (mapId : MapId) (buffer : UInt32) : MapStub :=
  let stale (id : MapId) : Bool :=
    id != mapId && (stub.stubMaps id).ptr != 0 && (stub.stubMaps id).buffer == buffer
  { stub with
    stubMaps := fun id => if id ∈ mapIds ∧ stale id = true then .zero else stub.stubMaps id
    activeStubMapCount :=
      stub.activeStubMapCount - .ofNat (mapIds.filter stale).length }

/-- The entry of a new mapping, over one that the index had before. -/
def enter (mapId : MapId) (entry : StubMapEntry) : MapStub :=
  { stub with
    stubMaps := Function.update stub.stubMaps mapId entry
    activeStubMapCount :=
      (if (stub.stubMaps mapId).ptr ≠ 0 ∧ (stub.stubMaps mapId).ptr ≠ entry.ptr then
          stub.activeStubMapCount - 1
        else stub.activeStubMapCount) + 1 }

/-- What `glMapBufferRange` does with the answer. -/
def mapped (target buffer : UInt32) (offset length : Int64) (access : UInt32) (malloc : UInt64)
    (answer : MapAnswer) : MapStub :=
  if answer.result = 0 ∨ malloc = 0 then stub
  else
    let read :=
      if access &&& glMapReadBit ≠ 0 then
        { stub with memory := Function.update stub.memory malloc answer.bytes }
      else stub
    (read.freeStale answer.result buffer).enter answer.result
      { id := .ofNat answer.result, ptr := malloc, length, target, offset, buffer, access }

/-- The mapping of the buffer, under whatever target. -/
def mappingOf (buffer : UInt32) : Option MapId :=
  mapIds.find? fun id => (stub.stubMaps id).ptr != 0 && (stub.stubMaps id).buffer == buffer

def clear (id : MapId) : MapStub :=
  { stub with
    stubMaps := Function.update stub.stubMaps id .zero
    activeStubMapCount :=
      if (stub.stubMaps id).ptr ≠ 0 then stub.activeStubMapCount - 1
      else stub.activeStubMapCount }

/-- The bytes that an unmap sends: all, unless the client flushes them itself. -/
def unmapSize (id : MapId) : Nat :=
  let entry := stub.stubMaps id
  if entry.access &&& glMapFlushExplicitBit ≠ 0 then 0
  else min entry.length.toUInt64.toNat glesBridgeDataSize

/-- The entries of a deleted buffer; `access` and the count stay as they are. -/
def deleteMaps (buffer : UInt32) : MapStub :=
  { stub with
    stubMaps := fun id =>
      let entry := stub.stubMaps id
      if id ∈ mapIds ∧ entry.ptr ≠ 0 ∧ entry.buffer = buffer then
        { StubMapEntry.zero with access := entry.access }
      else entry }

/-! ## The entry points -/

def glBindBuffer (target buffer : UInt32) : Request MapStub MapCommand MapAnswer :=
  let (mirrors, commands) := stub.mirrors.glBindBuffer current target buffer
  .post { stub with mirrors } (if commands = [] then [] else [.glBindBuffer target buffer])

def glBufferData (target : UInt32) (contents : Nat → UInt8) (accepted : Bool) :
    Request MapStub MapCommand MapAnswer :=
  .post
    { stub with
      mirrors :=
        stub.mirrors.bufrangeCacheInvalidateBuffer (stub.mirrors.boundBuffer current target) }
    [.glBufferData target contents accepted]

/-- The tables are gone through after the command is on its way. -/
def glDeleteBuffers (buffers : List UInt32) : Request MapStub MapCommand MapAnswer :=
  .post
    (buffers.foldl deleteMaps { stub with mirrors := stub.mirrors.glDeleteBuffers current buffers })
    [.glDeleteBuffers buffers]

def glMapBufferRange (target : UInt32) (offset length : Int64) (access answer : UInt32)
    (malloc : UInt64) : Request MapStub MapCommand MapAnswer :=
  let buffer := stub.mirrors.boundBuffer current target
  if (stub.reused target buffer offset length access).isSome then .post stub []
  else
    .await (.glMapBufferRange target offset length access buffer answer)
      (stub.mapped target buffer offset length access malloc)

def glUnmapBuffer (target : UInt32) : Request MapStub MapCommand MapAnswer :=
  match stub.mappingOf (stub.mirrors.boundBuffer current target) with
  | some id =>
      .await
        (.glUnmapBuffer target (stub.stubMaps id).id (stub.unmapSize id)
          (stub.memory (stub.stubMaps id).ptr))
        fun _ => stub.clear id
  | none => .await (.glUnmapBuffer target 0 0 fun _ => 0) fun _ => stub

/-- The mapping that is searched for a range to flush. -/
def flushMap (buffer : UInt32) (offset length : Int64) : Option MapId :=
  mapIds.find? fun id =>
    let entry := stub.stubMaps id
    entry.ptr != 0 && entry.buffer == buffer && decide (entry.offset ≤ offset) &&
      decide (offset + length ≤ entry.offset + entry.length)

/-- The command, if there is one; bytes that do not fit the arena end the process. -/
def glFlushMappedBufferRange (target : UInt32) (offset length : Int64) :
    Option (Option FlushCommand) :=
  match stub.flushMap (stub.mirrors.boundBuffer current target) offset length with
  | some id =>
      let entry := stub.stubMaps id
      let localOff := offset - entry.offset
      if glesBridgeDataSize < length.toUInt64.toNat then none
      else
        some (some
          { target
            offset := localOff.toInt32
            length := length.toInt32
            id := entry.id
            data := fun place => stub.memory entry.ptr (localOff.toUInt64.toNat + place) })
  | none => some none

def mapCall : MapCall → Request MapStub MapCommand MapAnswer
  | .glBindBuffer target buffer => stub.glBindBuffer current target buffer
  | .glBufferData target contents accepted => stub.glBufferData current target contents accepted
  | .glDeleteBuffers buffers => stub.glDeleteBuffers current buffers
  | .glMapBufferRange target offset length access answer malloc =>
      stub.glMapBufferRange current target offset length access answer malloc
  | .glUnmapBuffer target => stub.glUnmapBuffer current target
  | .store ptr place byte =>
      .post
        { stub with
          memory := Function.update stub.memory ptr
            (Function.update (stub.memory ptr) place byte) }
        []

end MapStub

end GlesBridge.Stub
