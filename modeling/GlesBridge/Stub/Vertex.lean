import GlesBridge.Gl.VertexArray
import GlesBridge.Stub.Shadow

namespace GlesBridge.Stub

open GlesBridge.Gl GlesBridge.Shared

/-! The entry points of the stub for vertex arrays, buffer bindings and vertex
attributes, with the commands that they send. -/

/-! ## Buffer bindings -/

/-- The members of `GLState`. -/
inductive BufferSlot where
  | array
  | pixelPack
  | pixelUnpack
  | uniform
  | texture
  | transformFeedback
  | copyRead
  | copyWrite
  | shaderStorage
  | atomicCounter
  | dispatchIndirect
  | drawIndirect
deriving DecidableEq, Repr

def bufferSlot (target : UInt32) : Option BufferSlot :=
  match target.toNat with
  | 0x8892 => some .array
  | 0x88EB => some .pixelPack
  | 0x88EC => some .pixelUnpack
  | 0x8A11 => some .uniform
  | 0x8C2A => some .texture
  | 0x8C8E => some .transformFeedback
  | 0x8F36 => some .copyRead
  | 0x8F37 => some .copyWrite
  | 0x90D2 => some .shaderStorage
  | 0x92C0 => some .atomicCounter
  | 0x90EE => some .dispatchIndirect
  | 0x8F3F => some .drawIndirect
  | _ => none

def slotTarget : BufferSlot → UInt32
  | .array => glArrayBuffer
  | .pixelPack => 0x88EB
  | .pixelUnpack => 0x88EC
  | .uniform => 0x8A11
  | .texture => 0x8C2A
  | .transformFeedback => 0x8C8E
  | .copyRead => 0x8F36
  | .copyWrite => 0x8F37
  | .shaderStorage => 0x90D2
  | .atomicCounter => 0x92C0
  | .dispatchIndirect => 0x90EE
  | .drawIndirect => 0x8F3F

theorem bufferSlot_eq_some {target : UInt32} {slot : BufferSlot} :
    bufferSlot target = some slot ↔ target = slotTarget slot := by
  constructor
  · intro found
    unfold bufferSlot at found
    split at found <;> cases found <;> exact UInt32.toNat_inj.mp ‹_›
  · intro same
    subst same
    cases slot <;> decide

/-- The copies are those of the targets that a context has. -/
theorem bufferSlot_isSome {target : UInt32} :
    (bufferSlot target).isSome = true ↔ target ∈ bufferTargets := by
  rw [Option.isSome_iff_exists]
  constructor
  · intro found
    obtain ⟨slot, found⟩ := found
    rw [bufferSlot_eq_some.mp found]
    cases slot <;> decide
  · revert target
    unfold bufferTargets
    simp only [List.mem_cons, List.not_mem_nil, or_false, forall_eq_or_imp, forall_eq]
    exact ⟨⟨.array, rfl⟩, ⟨.pixelPack, rfl⟩, ⟨.pixelUnpack, rfl⟩, ⟨.uniform, rfl⟩, ⟨.texture, rfl⟩,
      ⟨.transformFeedback, rfl⟩, ⟨.copyRead, rfl⟩, ⟨.copyWrite, rfl⟩, ⟨.shaderStorage, rfl⟩,
      ⟨.atomicCounter, rfl⟩, ⟨.dispatchIndirect, rfl⟩, ⟨.drawIndirect, rfl⟩⟩

namespace GLState

def get (state : GLState) : BufferSlot → UInt32
  | .array => state.arrayBuffer
  | .pixelPack => state.pixelPackBuffer
  | .pixelUnpack => state.pixelUnpackBuffer
  | .uniform => state.uniformBuffer
  | .texture => state.textureBuffer
  | .transformFeedback => state.transformFeedbackBuffer
  | .copyRead => state.copyReadBuffer
  | .copyWrite => state.copyWriteBuffer
  | .shaderStorage => state.shaderStorageBuffer
  | .atomicCounter => state.atomicCounterBuffer
  | .dispatchIndirect => state.dispatchIndirectBuffer
  | .drawIndirect => state.drawIndirectBuffer

def set (state : GLState) (buffer : UInt32) : BufferSlot → GLState
  | .array => { state with arrayBuffer := buffer }
  | .pixelPack => { state with pixelPackBuffer := buffer }
  | .pixelUnpack => { state with pixelUnpackBuffer := buffer }
  | .uniform => { state with uniformBuffer := buffer }
  | .texture => { state with textureBuffer := buffer }
  | .transformFeedback => { state with transformFeedbackBuffer := buffer }
  | .copyRead => { state with copyReadBuffer := buffer }
  | .copyWrite => { state with copyWriteBuffer := buffer }
  | .shaderStorage => { state with shaderStorageBuffer := buffer }
  | .atomicCounter => { state with atomicCounterBuffer := buffer }
  | .dispatchIndirect => { state with dispatchIndirectBuffer := buffer }
  | .drawIndirect => { state with drawIndirectBuffer := buffer }

@[simp] theorem get_set (state : GLState) (buffer : UInt32) (slot other : BufferSlot) :
    (state.set buffer slot).get other = if other = slot then buffer else state.get other := by
  cases slot <;> cases other <;> rfl

theorem set_get_self {state : GLState} {buffer : UInt32} {slot : BufferSlot}
    (same : state.get slot = buffer) : state.set buffer slot = state := by
  subst same
  cases slot <;> rfl

@[simp] theorem get_invalidateBuffer (state : GLState) (buffer : UInt32) (slot : BufferSlot) :
    (state.invalidateBuffer buffer).get slot = if state.get slot = buffer then 0 else state.get slot := by
  cases slot <;> rfl

end GLState

/-! ## Calls and commands -/

/-- The part of a persistent, unsynchronised mapping of the buffer that a
`glBindBufferRange` looks at: where it lies, and the hash of the bytes in the range. -/
structure MappedRange where
  offset : Int64
  length : Int64
  hash : UInt32

/-- The client's calls. What GL, the mappings and the data area contribute stands
among the arguments: the names that GL generates, the mapping found, the last
vertex that the indices refer to, and where the copied arrays are placed. -/
inductive VertexCall where
  | glGenVertexArrays (arrays : List UInt32)
  | glDeleteVertexArrays (arrays : List UInt32)
  | glBindVertexArray (array : UInt32)
  | glBindBuffer (target buffer : UInt32)
  | glBindBufferBase (target index buffer : UInt32)
  | glBindBufferRange (target index buffer : UInt32) (offset size : Int64)
      (mapped : Option MappedRange)
  | glDeleteBuffers (buffers : List UInt32)
  | glVertexAttribPointer (index : UInt32) (size : Int32) (type : UInt32) (normalized : UInt8)
      (stride : Int32) (pointer : UInt64)
  | glVertexAttribIPointer (index : UInt32) (size : Int32) (type : UInt32) (stride : Int32)
      (pointer : UInt64)
  | glEnableVertexAttribArray (index : UInt32)
  | glDisableVertexAttribArray (index : UInt32)
  | glVertexAttribDivisor (index divisor : UInt32)
  | glDrawArrays (first count : Int32) (place : AttribIndex → UInt64)
  | glDrawElements (indices : UInt64) (lastVertex : Int64) (place : AttribIndex → UInt64)

/-- The client memory that a draw copies for one attribute. -/
structure ClientCopy where
  index : AttribIndex
  pointer : UInt64
  bytes : UInt64
deriving DecidableEq, Repr

inductive VertexCommand where
  | glGenVertexArrays (arrays : List UInt32)
  | glDeleteVertexArrays (arrays : List UInt32)
  | glBindVertexArray (array : UInt32)
  | glBindBuffer (target buffer : UInt32)
  | glBindBufferBase (target index buffer : UInt32)
  | glBindBufferRange (target index buffer : UInt32) (offset size : Int64)
  | glDeleteBuffers (buffers : List UInt32)
  | glVertexAttribPointer (index : UInt32) (size : Int32) (type : UInt32) (normalized : UInt8)
      (stride : Int32) (pointer : UInt64) (vbo : UInt32)
  | glVertexAttribIPointer (index : UInt32) (size : Int32) (type : UInt32) (stride : Int32)
      (pointer : UInt64) (vbo : UInt32)
  | glEnableVertexAttribArray (index : UInt32)
  | glDisableVertexAttribArray (index : UInt32)
  | glVertexAttribDivisor (index divisor : UInt32)
  | glDrawArrays (patches : List (AttribIndex × UInt64))
  | glDrawElements (clientPtr : Bool) (patches : List (AttribIndex × UInt64))

/-! ## Draws -/

def glTypeSize (type : UInt32) : UInt64 :=
  match type.toNat with
  | 0x1406 => 4
  | 0x140B => 2
  | 0x1401 | 0x1400 => 1
  | 0x1402 | 0x1403 => 2
  | 0x1404 | 0x1405 | 0x140C => 4
  | 0x8368 | 0x8D9F => 4
  | _ => 4

def sizeT (value : Int32) : UInt64 := value.toInt64.toUInt64

theorem sizeT_toNat {value : Int32} (positive : 0 ≤ value) :
    (sizeT value).toNat = value.toNatClampNeg := by
  have wide : 0 ≤ value.toInt64 := by
    rw [Int64.le_iff_toInt_le, Int32.toInt_toInt64]
    exact Int32.le_iff_toInt_le.mp positive
  rw [sizeT, Int64.toNat_toUInt64_of_le wide, Int32.toNatClampNeg_toInt64]

/-- The bytes of a client array up to a vertex, in `size_t`. -/
def clientBytes (attrib : AttribState) (vertices : UInt64) : UInt64 :=
  let elem := sizeT attrib.size * glTypeSize attrib.type
  let stride := if attrib.stride ≠ 0 then sizeT attrib.stride else elem
  vertices * stride + elem

/-- The loops in the draws over the attributes that are not backed by a buffer. -/
def clientCopies (state : AttribIndex → AttribState) (vertices : UInt64) : List ClientCopy :=
  (List.finRange maxVertexAttribs).filterMap fun index =>
    let attrib := state index
    if attrib.enabled = true ∧ attrib.vbo = 0 ∧ attrib.pointer ≠ 0 then
      some ⟨index, attrib.pointer, clientBytes attrib vertices⟩
    else none

def patches (copies : List ClientCopy) (place : AttribIndex → UInt64) :
    List (AttribIndex × UInt64) :=
  copies.map fun copy => (copy.index, place copy.index)

/-! ## The entry points -/

namespace StubMirrors

variable (mirrors : StubMirrors)

def glGenVertexArrays (current : Ctx) (arrays : List UInt32) : StubMirrors × List VertexCommand :=
  (mirrors.setStubCtx current ((mirrors.stubCtx current).zeroVaos arrays),
    [.glGenVertexArrays arrays])

def glDeleteVertexArrays (current : Ctx) (arrays : List UInt32) :
    StubMirrors × List VertexCommand :=
  ((mirrors.stateCall current (.glDeleteVertexArrays arrays)).1, [.glDeleteVertexArrays arrays])

def glBindVertexArray (current : Ctx) (array : UInt32) : StubMirrors × List VertexCommand :=
  let (mirrors, sent) := mirrors.stateCall current (.glBindVertexArray array)
  (mirrors, if sent then [.glBindVertexArray array] else [])

/-- `get_bound_buffer` for the bindings that a context has. -/
def boundBuffer (current : Ctx) (target : UInt32) : UInt32 :=
  if target = glElementArrayBuffer then
    ((mirrors.stubCtx current).vao (mirrors.stubCtx current).currentVao).ebo
  else
    match bufferSlot target with
    | some slot => (mirrors.stubGlState current).get slot
    | none => 0

def setBoundBuffer (current : Ctx) (target buffer : UInt32) : StubMirrors :=
  if target = glElementArrayBuffer then
    let state := mirrors.stubCtx current
    mirrors.setStubCtx current
      (state.setVao state.currentVao { state.vao state.currentVao with ebo := buffer })
  else
    match bufferSlot target with
    | some slot =>
        { mirrors with
          stubGlState := Function.update mirrors.stubGlState current
            ((mirrors.stubGlState current).set buffer slot) }
    | none => mirrors

/-- A binding that the copy has already is not sent; one for another target is
sent in any case. -/
def glBindBuffer (current : Ctx) (target buffer : UInt32) : StubMirrors × List VertexCommand :=
  if (target = glElementArrayBuffer ∨ (bufferSlot target).isSome = true) ∧
      mirrors.boundBuffer current target = buffer then (mirrors, [])
  else (mirrors.setBoundBuffer current target buffer, [.glBindBuffer target buffer])

def glBindBufferBase (target index buffer : UInt32) : StubMirrors × List VertexCommand :=
  (mirrors, [.glBindBufferBase target index buffer])

/-- The hash of the range, where it lies in the mapping. -/
def rangeHash (offset size : Int64) (mapped : Option MappedRange) : Option UInt32 :=
  mapped.bind fun map =>
    let localOff := offset - map.offset
    if 0 ≤ localOff ∧ localOff.toUInt64 + size.toUInt64 ≤ map.length.toUInt64 then some map.hash
    else none

/-- The cache of `glBindBufferRange`: the entry after the call, and whether it is sent. -/
def rangeEntry (entry : BufferRangeCacheEntry) (buffer : UInt32) (offset size : Int64)
    (mapped : Option MappedRange) : BufferRangeCacheEntry × Bool :=
  if entry.buffer = buffer ∧ entry.offset = offset ∧ entry.size = size then
    if mapped.isNone then (entry, false)
    else
      match rangeHash offset size mapped with
      | some hash =>
          if entry.hashValid = true ∧ hash = entry.contentHash then (entry, false)
          else ({ entry with contentHash := hash, hashValid := true }, true)
      | none => (entry, true)
  else
    match rangeHash offset size mapped with
    | some hash => ({ buffer, offset, size, contentHash := hash, hashValid := true }, true)
    | none => ({ entry with buffer, offset, size, hashValid := false }, true)

def glBindBufferRange (current : Ctx) (target index buffer : UInt32) (offset size : Int64)
    (mapped : Option MappedRange) : StubMirrors × List VertexCommand :=
  if below : target = 0x8A11 ∧ index.toNat < bufrangeCacheSlots then
    let cache := mirrors.bufrangeCache current
    let (entry, sent) := rangeEntry (cache ⟨index.toNat, below.2⟩) buffer offset size mapped
    ({ mirrors with
        bufrangeCache := Function.update mirrors.bufrangeCache current
          (Function.update cache ⟨index.toNat, below.2⟩ entry) },
      if sent then [.glBindBufferRange target index buffer offset size] else [])
  else (mirrors, [.glBindBufferRange target index buffer offset size])

def deleteBuffersCall (current : Ctx) (buffers : List UInt32) :
    StubMirrors × List VertexCommand :=
  (mirrors.glDeleteBuffers current buffers, [.glDeleteBuffers buffers])

def records (current : Ctx) : Records where
  attribState := mirrors.attribStubState
  ctx := mirrors.stubCtx current

def setRecords (current : Ctx) (records : Records) : StubMirrors :=
  { mirrors.setStubCtx current records.ctx with attribStubState := records.attribState }

def glVertexAttribPointer (current : Ctx) (index : UInt32) (size : Int32) (type : UInt32)
    (normalized : UInt8) (stride : Int32) (pointer : UInt64) : StubMirrors × List VertexCommand :=
  let vbo := (mirrors.stubGlState current).arrayBuffer
  (mirrors.setRecords current ((mirrors.records current).copyAttrib index fun attrib =>
      { attrib with size, type, normalized, stride, pointer, integer := false, vbo }),
    [.glVertexAttribPointer index size type normalized stride pointer vbo])

def glVertexAttribIPointer (current : Ctx) (index : UInt32) (size : Int32) (type : UInt32)
    (stride : Int32) (pointer : UInt64) : StubMirrors × List VertexCommand :=
  let vbo := (mirrors.stubGlState current).arrayBuffer
  (mirrors.setRecords current ((mirrors.records current).copyAttrib index fun attrib =>
      { attrib with size, type, normalized := 0, stride, pointer, vbo, integer := true }),
    [.glVertexAttribIPointer index size type stride pointer vbo])

def glEnableVertexAttribArray (current : Ctx) (index : UInt32) : StubMirrors × List VertexCommand :=
  (mirrors.setRecords current
      ((mirrors.records current).setAttribs index fun attrib => { attrib with enabled := true }),
    [.glEnableVertexAttribArray index])

def glDisableVertexAttribArray (current : Ctx) (index : UInt32) : StubMirrors × List VertexCommand :=
  (mirrors.setRecords current
      ((mirrors.records current).setAttribs index fun attrib => { attrib with enabled := false }),
    [.glDisableVertexAttribArray index])

def glVertexAttribDivisor (current : Ctx) (index divisor : UInt32) :
    StubMirrors × List VertexCommand :=
  (mirrors.setRecords current
      ((mirrors.records current).setAttribs index fun attrib => { attrib with divisor }),
    [.glVertexAttribDivisor index divisor])

def glDrawArrays (first count : Int32) (place : AttribIndex → UInt64) :
    StubMirrors × List VertexCommand :=
  let copies := clientCopies mirrors.attribStubState (sizeT first + sizeT count - 1)
  (mirrors, [.glDrawArrays (patches copies place)])

/-- Without an element buffer the indices are the client's, and so are the
arrays; a null pointer copies none. -/
def glDrawElements (current : Ctx) (indices : UInt64) (lastVertex : Int64)
    (place : AttribIndex → UInt64) : StubMirrors × List VertexCommand :=
  if mirrors.boundBuffer current glElementArrayBuffer ≠ 0 then (mirrors, [.glDrawElements false []])
  else
    let copies :=
      if indices ≠ 0 then clientCopies mirrors.attribStubState (lastVertex.toUInt64 + 1) else []
    (mirrors, [.glDrawElements true (patches copies place)])

def vertexCall (current : Ctx) : VertexCall → StubMirrors × List VertexCommand
  | .glGenVertexArrays arrays => mirrors.glGenVertexArrays current arrays
  | .glDeleteVertexArrays arrays => mirrors.glDeleteVertexArrays current arrays
  | .glBindVertexArray array => mirrors.glBindVertexArray current array
  | .glBindBuffer target buffer => mirrors.glBindBuffer current target buffer
  | .glBindBufferBase target index buffer => mirrors.glBindBufferBase target index buffer
  | .glBindBufferRange target index buffer offset size mapped =>
      mirrors.glBindBufferRange current target index buffer offset size mapped
  | .glDeleteBuffers buffers => mirrors.deleteBuffersCall current buffers
  | .glVertexAttribPointer index size type normalized stride pointer =>
      mirrors.glVertexAttribPointer current index size type normalized stride pointer
  | .glVertexAttribIPointer index size type stride pointer =>
      mirrors.glVertexAttribIPointer current index size type stride pointer
  | .glEnableVertexAttribArray index => mirrors.glEnableVertexAttribArray current index
  | .glDisableVertexAttribArray index => mirrors.glDisableVertexAttribArray current index
  | .glVertexAttribDivisor index divisor => mirrors.glVertexAttribDivisor current index divisor
  | .glDrawArrays first count place => mirrors.glDrawArrays first count place
  | .glDrawElements indices lastVertex place =>
      mirrors.glDrawElements current indices lastVertex place

/-! ## What an entry point does to the current vertex arrays -/

variable {mirrors} {current : Ctx}

@[simp] theorem setStubCtx_stubCtx (state : GLContextState) (ctx : Ctx) :
    (mirrors.setStubCtx current state).stubCtx ctx =
      if ctx = current then state else mirrors.stubCtx ctx := by
  simp [setStubCtx, Function.update_apply]

@[simp] theorem setRecords_stubCtx (records : Records) (ctx : Ctx) :
    (mirrors.setRecords current records).stubCtx ctx =
      if ctx = current then records.ctx else mirrors.stubCtx ctx := by
  simp [setRecords]

/-- A bind is sent when the shadow has another name, and noted then. -/
theorem glBindVertexArray_eq (mirrors : StubMirrors) (current : Ctx) (array : UInt32) :
    let consulted := mirrors.shadowStateForCurrentCtx current
    mirrors.glBindVertexArray current array =
      if (mirrors.shadowSeen current).slot .vao = array then (consulted, [])
      else
        ((consulted.setShadow current ((mirrors.shadowSeen current).assign [(.vao, array)])).setStubCtx
            current { consulted.stubCtx current with currentVao := array },
          [.glBindVertexArray array]) := by
  simp only [glBindVertexArray, stateCall, consultsShadow, if_true, cachedCall, notePrimitiveRestart,
    cachedSlots, shadowSeen]
  by_cases same : ((mirrors.shadowStateForCurrentCtx current).shadowCtx current).slot .vao = array
  · simp [StubShadowState.matches_, Slot.same, same]
  · simp [StubShadowState.matches_, Slot.same, same, noteCurrentVao, setShadow]

theorem glDeleteBuffers_currentVao (buffers : List UInt32) (ctx : Ctx) :
    ((mirrors.glDeleteBuffers current buffers).stubCtx ctx).currentVao =
      (mirrors.stubCtx ctx).currentVao := by
  unfold glDeleteBuffers
  induction buffers generalizing mirrors with
  | nil => rfl
  | cons buffer rest ih =>
      rw [List.foldl_cons, ih]
      unfold stubGlStateInvalidateBuffer
      split_ifs <;> rfl

theorem shadowInvalidateAll_stubCtx (invalidate : UInt32 → StubShadowState → StubShadowState)
    (names : List UInt32) :
    (mirrors.shadowInvalidateAll invalidate names).stubCtx = mirrors.stubCtx ∧
      (mirrors.shadowInvalidateAll invalidate names).stubNewCtx = mirrors.stubNewCtx := by
  unfold shadowInvalidateAll
  induction names generalizing mirrors with
  | nil => exact ⟨rfl, rfl⟩
  | cons name rest ih =>
      rw [List.foldl_cons, ih.1, ih.2]
      unfold shadowInvalidate
      split_ifs <;> exact ⟨rfl, rfl⟩

theorem shadowInvalidateAll_stubGlState (invalidate : UInt32 → StubShadowState → StubShadowState)
    (names : List UInt32) :
    (mirrors.shadowInvalidateAll invalidate names).stubGlState = mirrors.stubGlState := by
  unfold shadowInvalidateAll
  induction names generalizing mirrors with
  | nil => rfl
  | cons name rest ih =>
      rw [List.foldl_cons, ih]
      unfold shadowInvalidate
      split_ifs <;> rfl

/-- Only a bind reaches `current_vao`, but for the reset before it. -/
theorem vertexCall_currentVao (call : VertexCall) (ctx : Ctx) :
    ((mirrors.vertexCall current call).1.stubCtx ctx).currentVao =
      match call with
      | .glBindVertexArray array =>
          if ctx = current ∧ (mirrors.shadowSeen current).slot .vao ≠ array then array
          else if mirrors.Resets current ctx then 0 else (mirrors.stubCtx ctx).currentVao
      | _ => (mirrors.stubCtx ctx).currentVao := by
  cases call with
  | glBindVertexArray array =>
      simp only [vertexCall, glBindVertexArray_eq]
      by_cases same : (mirrors.shadowSeen current).slot .vao = array
      · simp only [same, if_true, ne_eq, not_true_eq_false, and_false, if_false, stubCtx_consulted]
        split_ifs <;> rfl
      · by_cases here : ctx = current
        · simp [same, here]
        · simp only [same, here, if_false, setStubCtx_stubCtx, false_and]
          change ((mirrors.shadowStateForCurrentCtx current).stubCtx ctx).currentVao = _
          rw [stubCtx_consulted]
          split_ifs <;> rfl
  | glGenVertexArrays arrays =>
      by_cases here : ctx = current
      · subst here
        simp [vertexCall, glGenVertexArrays, GLContextState.zeroVaos_currentVao]
      · simp [vertexCall, glGenVertexArrays, here]
  | glDeleteVertexArrays arrays =>
      simp only [vertexCall, glDeleteVertexArrays, stateCall, shadowInvalidateAll_stubCtx]
  | glBindBuffer target buffer =>
      simp only [vertexCall, glBindBuffer, setBoundBuffer]
      by_cases here : ctx = current
      · subst here
        split_ifs
        · rfl
        · simp
        · split <;> rfl
      · split_ifs
        · rfl
        · simp [here]
        · split <;> rfl
  | glBindBufferRange target index buffer offset size mapped =>
      simp only [vertexCall, glBindBufferRange]
      split_ifs <;> rfl
  | glDeleteBuffers buffers => exact glDeleteBuffers_currentVao buffers ctx
  | glDrawElements indices lastVertex place =>
      simp only [vertexCall, glDrawElements]
      split_ifs <;> rfl
  | glBindBufferBase | glDrawArrays => rfl
  | _ =>
      by_cases here : ctx = current
      · subst here
        simp [vertexCall, glVertexAttribPointer, glVertexAttribIPointer, glEnableVertexAttribArray,
          glDisableVertexAttribArray, glVertexAttribDivisor, records]
      · simp [vertexCall, glVertexAttribPointer, glVertexAttribIPointer, glEnableVertexAttribArray,
          glDisableVertexAttribArray, glVertexAttribDivisor, here]

theorem vertexCall_stubNewCtx (call : VertexCall) :
    (mirrors.vertexCall current call).1.stubNewCtx =
      match call with
      | .glBindVertexArray _ => 0
      | _ => mirrors.stubNewCtx := by
  cases call with
  | glBindVertexArray array =>
      have settled := (mirrors.ready_of_consulted current).1
      simp only [vertexCall, glBindVertexArray_eq]
      split_ifs
      · exact settled
      · exact settled
  | glDeleteVertexArrays arrays =>
      simp only [vertexCall, glDeleteVertexArrays, stateCall, shadowInvalidateAll_stubCtx]
  | glBindBuffer target buffer =>
      simp only [vertexCall, glBindBuffer, setBoundBuffer]
      split_ifs
      · rfl
      · rfl
      · split <;> rfl
  | glBindBufferRange target index buffer offset size mapped =>
      simp only [vertexCall, glBindBufferRange]
      split_ifs <;> rfl
  | glDeleteBuffers buffers => exact (glDeleteBuffers_shadow mirrors current buffers).2
  | glDrawElements indices lastVertex place =>
      simp only [vertexCall, glDrawElements]
      split_ifs <;> rfl
  | _ => rfl

/-- The bindings of a context change where its calls bind or delete a buffer. -/
theorem vertexCall_stubGlState (call : VertexCall) (ctx : Ctx) :
    (mirrors.vertexCall current call).1.stubGlState ctx =
      match call with
      | .glBindBuffer target buffer =>
          if ctx = current then
            match bufferSlot target with
            | some slot => (mirrors.stubGlState ctx).set buffer slot
            | none => mirrors.stubGlState ctx
          else mirrors.stubGlState ctx
      | .glDeleteBuffers buffers => (mirrors.glDeleteBuffers current buffers).stubGlState ctx
      | _ => mirrors.stubGlState ctx := by
  cases call with
  | glBindVertexArray array =>
      simp only [vertexCall, glBindVertexArray_eq]
      split_ifs
      · rw [stubGlState_consulted]
      · simp [setStubCtx, setShadow, stubGlState_consulted]
  | glDeleteVertexArrays arrays =>
      simp only [vertexCall, glDeleteVertexArrays, stateCall, shadowInvalidateAll_stubGlState]
  | glBindBuffer target buffer =>
      simp only [vertexCall, glBindBuffer, boundBuffer, setBoundBuffer]
      by_cases element : target = glElementArrayBuffer
      · subst element
        have none : bufferSlot glElementArrayBuffer = none := by decide
        simp only [none, if_true, ite_self]
        split_ifs <;> rfl
      · simp only [element, if_false, false_or]
        cases slot : bufferSlot target with
        | none => simp
        | some slot =>
            simp only [Option.isSome_some, true_and]
            by_cases here : ctx = current
            · subst here
              rw [if_pos rfl]
              split_ifs with same
              · exact (GLState.set_get_self same).symm
              · simp
            · rw [if_neg here]
              split_ifs
              · rfl
              · simp [here]
  | glBindBufferRange target index buffer offset size mapped =>
      simp only [vertexCall, glBindBufferRange]
      split_ifs <;> rfl
  | glDrawElements indices lastVertex place =>
      simp only [vertexCall, glDrawElements]
      split_ifs <;> rfl
  | _ => rfl

end StubMirrors

end GlesBridge.Stub
