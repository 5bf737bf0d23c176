import GlesBridge.Stub.Upload

namespace GlesBridge.Stub

open GlesBridge.Gl GlesBridge.Shared

/-! The entry points that draw, with what they copy from the client's memory and
from its mappings. They work on the same state as the uploads.
-/

inductive DrawOp where
  | glDrawArrays
  | glDrawArraysInstanced
  | glDrawElements
  | glDrawElementsInstanced
  | glDrawRangeElements
  | glDrawElementsBaseVertex
  | glDrawElementsInstancedBaseVertex
  | glDrawRangeElementsBaseVertex
deriving DecidableEq, Repr

/-- The arguments that decide what is read, those of all entry points together. -/
structure Draw where
  op : DrawOp
  first : Int32
  count : Int32
  type : UInt32
  indices : UInt64
  basevertex : Int32

/-- A draw without a range of a buffer. -/
def Piggyback.absent : Piggyback where
  buffer := 0
  offset := 0
  length := 0

/-- The slot of a draw. `indexMode` is `is_client_ptr` in `glDrawElements`, and
`attribs` says where the client's arrays lie in the arena. -/
structure DrawSlot where
  indices : UInt64
  indexMode : UInt32
  attribs : List (AttribIndex × UInt32)
  eboPiggyback : Piggyback
  piggyback : Piggyback
  dataOffset : UInt32
  dataSize : UInt32
  data2Offset : UInt32
  data2Size : UInt32

/-- `setup_scalar` -/
def DrawSlot.scalar : DrawSlot where
  indices := 0
  indexMode := 0
  attribs := []
  eboPiggyback := .absent
  piggyback := .absent
  dataOffset := 0
  dataSize := 0
  data2Offset := 0
  data2Size := 0

def idxModePointer : UInt32 := 0
def idxModeOffset : UInt32 := 1

/-! ## Indices -/

/-- Small numbers are offsets. -/
def isClientPointer (ptr : UInt64) : Bool := !(ptr == 0) && !decide (ptr < 0x10000)

def indexTypeSize (type : UInt32) : UInt64 :=
  match type.toNat with
  | 0x1401 => 1
  | 0x1403 => 2
  | 0x1405 => 4
  | _ => 0

/-- The conditional expression in `glDrawElements` and `glDrawElementsInstanced`. -/
def elemSize (type : UInt32) : UInt64 := if type = 0x1403 then 2 else if type = 0x1405 then 4 else 1

/-- One index; those of more than one byte are little endian. -/
def rawIndex (idx : Nat → UInt8) (type : UInt32) (i : Nat) : UInt32 :=
  match type.toNat with
  | 0x1401 => (idx i).toUInt32
  | 0x1403 => (idx (2 * i)).toUInt32 ||| (idx (2 * i + 1)).toUInt32 <<< 8
  | _ =>
      (idx (4 * i)).toUInt32 ||| (idx (4 * i + 1)).toUInt32 <<< 8 |||
        (idx (4 * i + 2)).toUInt32 <<< 16 ||| (idx (4 * i + 3)).toUInt32 <<< 24

def restartIndex (type : UInt32) : UInt32 :=
  match type.toNat with
  | 0x1401 => 0xFF
  | 0x1403 => 0xFFFF
  | _ => 0xFFFFFFFF

/-- The bounds of the vertices so far. -/
def noteVertex (bounds : Option (Int × Int)) (vertex : Int) : Option (Int × Int) :=
  match bounds with
  | none => some (vertex, vertex)
  | some (low, high) =>
      some (if vertex < low then vertex else low, if high < vertex then vertex else high)

/-- The loop over the indices. No sum leaves the 64 bits of `GLintptr`. -/
def scanIndices (idx : Nat → UInt8) (count : Nat) (type : UInt32) (basevertex : Int32)
    (restart : Bool) : Option (Int × Int) :=
  (List.range count).foldl
    (fun bounds i =>
      let raw := rawIndex idx type i
      if restart = true ∧ raw = restartIndex type then bounds
      else noteVertex bounds (raw.toNat + basevertex.toInt))
    none

/-- Without indices, or where all of them are restarts, there are no bounds. -/
def mappedIndexBounds (idx : Option (Nat → UInt8)) (count : Int32) (type : UInt32)
    (basevertex : Int32) (restart : Bool) : Option (Int × Int) :=
  match idx with
  | none => none
  | some idx =>
      if count ≤ 0 ∨ indexTypeSize type = 0 then none
      else
        match scanIndices idx count.toNatClampNeg type basevertex restart with
        | none => none
        | some (low, high) => if high < 0 then none else some (if low < 0 then 0 else low, high)

/-- What a call returns, and `*min_vertex` and `*max_vertex` after it. -/
def callIndexBounds (idx : Option (Nat → UInt8)) (count : Int32) (type : UInt32)
    (basevertex : Int32) (restart : Bool) (outputs : Int × Int) : Bool × Int × Int :=
  match mappedIndexBounds idx count type basevertex restart with
  | none => (false, outputs)
  | some bounds => (true, bounds)

/-! ## Vertices in mapped buffers -/

def attribTypeSize (type : UInt32) : UInt64 :=
  match type.toNat with
  | 0x1400 | 0x1401 => 1
  | 0x1402 | 0x1403 | 0x140B => 2
  | 0x1404 | 0x1405 | 0x1406 | 0x140C | 0x8D9F | 0x8368 => 4
  | _ => 4

/-- The byte at which a vertex of the attribute starts; a stride of 0 counts as 1. -/
def spanStart (attrib : AttribState) (vertex : Int64) : Int64 :=
  let stride : UInt64 := if attrib.stride ≠ 0 then sizeT attrib.stride else 1
  attrib.pointer.toInt64 + vertex * stride.toInt64

def spanEnd (attrib : AttribState) (vertex : Int64) : Int64 :=
  spanStart attrib vertex + (sizeT attrib.size * attribTypeSize attrib.type).toInt64

/-- The range that all attributes of the buffer span together. -/
def bufferSpan (vao : VAOState) (vbo : UInt32) (first last start stop : Int64) : Int64 × Int64 :=
  (List.finRange maxVertexAttribs).foldl
    (fun (start, stop) index =>
      let attrib := vao.attribs index
      if attrib.enabled = true ∧ attrib.vbo = vbo then
        (if spanStart attrib first < start then spanStart attrib first else start,
          if stop < spanEnd attrib last then spanEnd attrib last else stop)
      else (start, stop))
    (start, stop)

/-- A range of a mapping of the buffer. -/
structure MappedSpan where
  id : MapId
  buffer : UInt32
  start : Int64
  bytes : UInt64

namespace UploadStub

variable (stub : UploadStub) (current : Ctx)

/-- The record of the current vertex array. -/
def vao : VAOState :=
  (stub.maps.mirrors.stubCtx current).vao (stub.maps.mirrors.stubCtx current).currentVao

def primitiveRestart : Bool := (stub.maps.mirrors.stubCtx current).primitiveRestart

/-- What the loop finds at one attribute. -/
def attribSpan (vao : VAOState) (first last : Int64) (attrib : AttribState) : Option MappedSpan :=
  if attrib.enabled = false ∨ attrib.vbo = 0 then none
  else
    (stub.maps.mappingOf attrib.vbo).bind fun id =>
      let entry := stub.maps.stubMaps id
      if entry.access &&& glMapFlushExplicitBit ≠ 0 ∨ entry.access &&& glMapWriteBit = 0 then none
      else
        let (start, stop) :=
          bufferSpan vao attrib.vbo first last (spanStart attrib first) (spanEnd attrib last)
        let start := if start < 0 then 0 else start
        if stop ≤ start ∨ start < entry.offset ∨ entry.offset + entry.length < stop then none
        else
          let place := (start - entry.offset).toUInt64
          let bytes := (stop - start).toUInt64
          let length := entry.length.toUInt64
          if length ≤ place then none
          else some ⟨id, attrib.vbo, start, if length < place + bytes then length - place else bytes⟩

/-- The first attribute whose buffer is mapped around the range decides. -/
def vboSpan (vao : VAOState) (first last : Int64) : Option MappedSpan :=
  (List.finRange maxVertexAttribs).findSome? fun index =>
    stub.attribSpan vao first last (vao.attribs index)

def sendSpan (span : MappedSpan) : Option (UploadStub × Piggyback × UInt32) :=
  let entry := stub.maps.stubMaps span.id
  (stub.mappingWrite entry.ptr (span.start - entry.offset).toUInt64.toNat span.bytes).map
    fun (stub, offset) =>
      (stub, ⟨span.buffer, span.start.toUInt64.toUInt32, span.bytes.toUInt32⟩, offset)

def stubVboPiggybackRange (vao : VAOState) (first last : Int64) :
    Option (UploadStub × Piggyback × UInt32) :=
  match stub.vboSpan vao first last with
  | none => some (stub, .absent, 0)
  | some span => stub.sendSpan span

/-- The end of the draws that send a range of a buffer. -/
def finish (vao : VAOState) (first last : Int64) (slot : DrawSlot) : Option (UploadStub × DrawSlot) :=
  (stub.stubVboPiggybackRange vao first last).map fun (stub, piggyback, offset) =>
    (stub,
      { slot with
        piggyback
        data2Offset := if piggyback.buffer ≠ 0 then offset else 0
        data2Size := if piggyback.buffer ≠ 0 then piggyback.length else 0 })

/-! ## Client arrays -/

/-- The copies go into the arena one after the other. -/
def writeArrays (stub : UploadStub) :
    List ClientCopy → Option (UploadStub × List (AttribIndex × UInt32))
  | [] => some (stub, [])
  | copy :: rest =>
      (stub.bridgeDataWrite copy.pointer copy.bytes).bind fun (stub, offset) =>
        (stub.writeArrays rest).map fun (stub, attribs) => (stub, (copy.index, offset) :: attribs)

/-! ## An element buffer -/

/-- `find_stub_map` -/
def findStubMap (buffer target : UInt32) : Option MapId :=
  mapIds.find? fun id =>
    (stub.maps.stubMaps id).ptr != 0 && (stub.maps.stubMaps id).buffer == buffer &&
      (stub.maps.stubMaps id).target == target

/-- The mapping of the element buffer, where it has all indices. -/
def eboMap (ebo : UInt32) (call : Draw) : Option MapId :=
  (stub.findStubMap ebo glElementArrayBuffer).bind fun id =>
    let entry := stub.maps.stubMaps id
    let bytes := sizeT call.count * indexTypeSize call.type
    if indexTypeSize call.type ≠ 0 ∧ entry.access &&& glMapFlushExplicitBit = 0 ∧
        entry.access &&& glMapWriteBit ≠ 0 ∧ entry.offset ≤ call.indices.toInt64 ∧
        call.indices.toInt64 + bytes.toInt64 ≤ entry.offset + entry.length then some id
    else none

/-- The indices that the stub can look at, and the slot for them. -/
def sendEbo (ebo : UInt32) (call : Draw) :
    Option (UploadStub × Option (Nat → UInt8) × DrawSlot) :=
  match stub.eboMap ebo call with
  | none => some (stub, none, { DrawSlot.scalar with indices := call.indices })
  | some id =>
      let entry := stub.maps.stubMaps id
      let bytes := sizeT call.count * indexTypeSize call.type
      let start := (call.indices.toInt64 - entry.offset).toUInt64.toNat
      (stub.mappingWrite entry.ptr start bytes).map fun (stub, offset) =>
        (stub, some fun place => stub.maps.memory entry.ptr (start + place),
          { DrawSlot.scalar with
            indices := call.indices
            eboPiggyback := ⟨ebo, call.indices.toUInt32, bytes.toUInt32⟩
            dataOffset := offset
            dataSize := bytes.toUInt32 })

/-- The client's indices; a null pointer has none. -/
def clientIndices (indices : UInt64) : Option (Nat → UInt8) :=
  if indices ≠ 0 then some fun place => stub.client (indices + .ofNat place) else none

/-! ## The entry points -/

def glDrawArrays (call : Draw) : Option (UploadStub × DrawSlot) :=
  let copies :=
    clientCopies stub.maps.mirrors.attribStubState (sizeT call.first + sizeT call.count - 1)
  (stub.writeArrays copies).bind fun (stub, attribs) =>
    stub.finish (stub.vao current) call.first.toInt64 (call.first.toInt64 + call.count.toInt64)
      { DrawSlot.scalar with attribs }

/-- The arrays that `glDrawElements` copies for the client's indices. -/
def elementCopies (call : Draw) : List ClientCopy :=
  match stub.clientIndices call.indices with
  | none => []
  | some idx =>
      let bounds := mappedIndexBounds (some idx) call.count call.type 0 (stub.primitiveRestart current)
      let lastVertex := bounds.elim (call.count.toInt - 1) Prod.snd
      clientCopies stub.maps.mirrors.attribStubState ((Int64.ofInt lastVertex).toUInt64 + 1)

/-- The vertices whose part of a mapped buffer is sent. -/
def elementRange (idx : Option (Nat → UInt8)) (call : Draw) : Int64 × Int64 :=
  match mappedIndexBounds idx call.count call.type 0 (stub.primitiveRestart current) with
  | none => (0, call.count.toInt64)
  | some (low, high) => (.ofInt low, .ofInt high)

def glDrawElements (call : Draw) : Option (UploadStub × DrawSlot) :=
  let vao := stub.vao current
  if vao.ebo ≠ 0 then
    (stub.sendEbo vao.ebo call).bind fun (after, idx, slot) =>
      let range := stub.elementRange current idx call
      after.finish vao range.1 range.2 slot
  else
    let bytes := sizeT call.count * elemSize call.type
    (stub.bridgeDataWrite call.indices bytes).bind fun (after, offset) =>
      (after.writeArrays (stub.elementCopies current call)).bind fun (after, attribs) =>
        let range := stub.elementRange current (stub.clientIndices call.indices) call
        after.finish vao range.1 range.2
          { DrawSlot.scalar with
            indexMode := 1, attribs, dataOffset := offset, dataSize := bytes.toUInt32 }

/-- As `elementRange`, with a base vertex. -/
def baseVertexRange (idx : Option (Nat → UInt8)) (call : Draw) : Int64 × Int64 :=
  match mappedIndexBounds idx call.count call.type call.basevertex (stub.primitiveRestart current) with
  | none =>
      let first := if 0 < call.basevertex then call.basevertex.toInt64 else 0
      (first, first + call.count.toInt64)
  | some (low, high) => (.ofInt low, .ofInt high)

/-- The client's arrays are not copied here. -/
def glDrawElementsBaseVertex (call : Draw) : Option (UploadStub × DrawSlot) :=
  let vao := stub.vao current
  if vao.ebo ≠ 0 then
    (stub.sendEbo vao.ebo call).bind fun (after, idx, slot) =>
      let range := stub.baseVertexRange current idx call
      after.finish vao range.1 range.2 { slot with indexMode := idxModeOffset }
  else
    let bytes := sizeT call.count * indexTypeSize call.type
    (stub.bridgeDataWrite call.indices bytes).bind fun (after, offset) =>
      let range := stub.baseVertexRange current (stub.clientIndices call.indices) call
      after.finish vao range.1 range.2
        { DrawSlot.scalar with
          indices := offset.toUInt64, indexMode := idxModePointer, dataSize := bytes.toUInt32 }

/-- What does not look like a pointer is dropped. -/
def glDrawElementsInstanced (call : Draw) : Option (UploadStub × DrawSlot) :=
  if isClientPointer call.indices = true then
    let bytes := sizeT call.count * elemSize call.type
    (stub.bridgeDataWrite call.indices bytes).map fun (stub, offset) =>
      (stub, { DrawSlot.scalar with dataOffset := offset, dataSize := bytes.toUInt32 })
  else some (stub, .scalar)

/-- The draws that send their arguments as they are. -/
def sendDraw (call : Draw) : Option (UploadStub × DrawSlot) :=
  some (stub, { DrawSlot.scalar with indices := call.indices })

def draw (call : Draw) : Option (UploadStub × DrawSlot) :=
  match call.op with
  | .glDrawArrays => stub.glDrawArrays current call
  | .glDrawArraysInstanced => some (stub, .scalar)
  | .glDrawElements => stub.glDrawElements current call
  | .glDrawElementsInstanced => stub.glDrawElementsInstanced call
  | .glDrawRangeElements => stub.sendDraw call
  | .glDrawElementsBaseVertex => stub.glDrawElementsBaseVertex current call
  | .glDrawElementsInstancedBaseVertex => stub.sendDraw call
  | .glDrawRangeElementsBaseVertex => stub.sendDraw call

end UploadStub

end GlesBridge.Stub
