import GlesBridge.Stub.Mapping

namespace GlesBridge.Stub

open GlesBridge.Gl GlesBridge.Shared

/-! `glBindBufferRange`: what a shader will read of a mapped uniform buffer is hashed, and
goes along with the call unless the cache has it already.
-/

abbrev glUniformBuffer : UInt32 := 0x8A11

/-- `fnv1a_hash` -/
def fnv1aHash (bytes : List UInt8) : UInt32 :=
  bytes.foldl (fun hash byte => (hash ^^^ byte.toUInt32) * 16777619) 2166136261

/-- With the bytes that go along; `data_size` is their number. -/
structure RangeCommand where
  target : UInt32
  index : UInt32
  buffer : UInt32
  offset : Int64
  size : Int64
  data : List UInt8
deriving DecidableEq, Repr

namespace StubMapEntry

variable (entry : StubMapEntry) (offset size : Int64)

/-- The client writes at any time, and flushes nothing itself. -/
def Unsynchronized : Prop :=
  entry.access &&& glMapWriteBit ≠ 0 ∧ entry.access &&& glMapFlushExplicitBit = 0

instance decidableUnsynchronized (entry : StubMapEntry) : Decidable entry.Unsynchronized :=
  instDecidableAnd

/-- The test of the fast path, whose sum wraps. -/
def fits : Bool :=
  let localOff := offset - entry.offset
  decide (0 ≤ localOff) && decide (localOff.toUInt64 + size.toUInt64 ≤ entry.length.toUInt64)

/-- The test of the piggyback. -/
def holds : Bool :=
  decide (entry.offset ≤ offset) && decide (offset + size ≤ entry.offset + entry.length)

/-- The range leaves the memory of the mapping although it passes for one that fits. -/
def runsPast : Bool :=
  entry.fits offset size &&
    decide (18446744073709551616 ≤ (offset - entry.offset).toUInt64.toNat + size.toUInt64.toNat)

end StubMapEntry

namespace MapStub

variable (stub : MapStub) (current : Ctx) (target index buffer : UInt32) (offset size : Int64)

def findStubMap (buffer target : UInt32) : Option MapId :=
  mapIds.find? fun id =>
    let entry := stub.stubMaps id
    entry.ptr != 0 && entry.buffer == buffer && entry.target == target

/-- The mapping whose contents the fast path compares. -/
def unsynchronizedMap : Option StubMapEntry :=
  ((stub.findStubMap buffer glUniformBuffer).map stub.stubMaps).filter fun entry =>
    decide entry.Unsynchronized

def rangeBytes (entry : StubMapEntry) : List UInt8 :=
  (List.range size.toUInt64.toNat).map fun place =>
    stub.memory entry.ptr ((offset - entry.offset).toUInt64.toNat + place)

def hashedMap : Option MappedRange :=
  (stub.unsynchronizedMap buffer).map fun entry =>
    { offset := entry.offset
      length := entry.length
      hash := fnv1aHash (stub.rangeBytes offset size entry) }

/-- The bytes that go along; more than the arena holds end the process. -/
def rangePiggyback : Option (List UInt8) :=
  if stub.activeStubMapCount = 0 then some []
  else
    match stub.mappingOf buffer with
    | none => some []
    | some id =>
        let entry := stub.stubMaps id
        if entry.Unsynchronized ∧ entry.holds offset size = true then
          if glesBridgeDataSize < size.toUInt64.toNat then none
          else some (stub.rangeBytes offset size entry)
        else some []

def rangeCommand : Option RangeCommand :=
  (stub.rangePiggyback buffer offset size).map fun data =>
    { target, index, buffer, offset, size, data }

/-- The fast path is for the first indices of one target. -/
def Cached : Prop := target = glUniformBuffer ∧ index.toNat < bufrangeCacheSlots

instance decidableCached : Decidable (Cached target index) := instDecidableAnd

/-- The command, if there is one. -/
def glBindBufferRange : Option (MapStub × Option RangeCommand) :=
  if Cached target index ∧
      (stub.unsynchronizedMap buffer).any (fun entry => entry.runsPast offset size) = true then none
  else
    let (mirrors, commands) :=
      stub.mirrors.glBindBufferRange current target index buffer offset size
        (stub.hashedMap buffer offset size)
    if commands = [] then some ({ stub with mirrors }, none)
    else
      (stub.rangeCommand target index buffer offset size).map fun command =>
        ({ stub with mirrors }, some command)

/-- `glBufferSubData`, and `glCopyBufferSubData` for its write target. -/
def glBufferSubData : MapStub :=
  { stub with
    mirrors :=
      stub.mirrors.bufrangeCacheInvalidateBuffer (stub.mirrors.boundBuffer current target) }

end MapStub

end GlesBridge.Stub
