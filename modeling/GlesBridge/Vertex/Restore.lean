import GlesBridge.Proxy.Vertex

namespace GlesBridge.Vertex

open GlesBridge.Gl GlesBridge.Shared GlesBridge.Stub GlesBridge.Proxy

/-! Records of vertex arrays that are submitted to GL again. -/

/-! ## The array buffer -/

section

variable {context : VertexContext} {life : UInt32 → Nat} {object other : BufferObject}
  {index : UInt32}

def bindArray (context : VertexContext) (object : BufferObject) : VertexContext :=
  { context with buffers := Function.update context.buffers glArrayBuffer object }

theorem bindBuffer_array (buffer : UInt32) :
    context.bindBuffer life glArrayBuffer buffer = bindArray context ⟨buffer, life buffer⟩ := by
  have apart : glArrayBuffer ≠ glElementArrayBuffer := by decide
  have target : glArrayBuffer ∈ bufferTargets := by decide
  rw [VertexContext.bindBuffer, if_neg apart, if_pos target, bindArray]

theorem bindArray_bindArray : bindArray (bindArray context object) other = bindArray context other := by
  simp [bindArray]

theorem bindArray_self (bound : context.buffers glArrayBuffer = object) :
    bindArray context object = context := by
  rw [bindArray, ← bound, Function.update_eq_self]

theorem setAttrib_self : context.setAttrib index (context.attrib index) = context := by
  simp [VertexContext.setAttrib, VertexContext.setArray, VertexContext.attrib]

theorem setEnabled_self {driver : VertexDriver} {enabled : Bool}
    (same : (context.attrib index).enabled = enabled) :
    context.setEnabled driver enabled index = context := by
  unfold VertexContext.setEnabled
  rw [← same, setAttrib_self, ite_self]

theorem vertexAttribDivisor_self {driver : VertexDriver} {divisor : UInt32}
    (same : (context.attrib index).divisor = divisor) :
    context.vertexAttribDivisor driver index divisor = context := by
  unfold VertexContext.vertexAttribDivisor
  rw [← same, setAttrib_self, ite_self]

theorem bindBuffer_element_self {buffer : UInt32}
    (bound : (context.arrays context.binding).element = ⟨buffer, life buffer⟩) :
    context.bindBuffer life glElementArrayBuffer buffer = context := by
  rw [VertexContext.bindBuffer, if_pos rfl, ← bound]
  simp [VertexContext.setArray]

end

/-! ## Submitted attributes -/

section

variable (driver : VertexDriver) (life : UInt32 → Nat) (named : Bool)

/-- GL takes the pointer of the record. -/
def Submits (attrib : AttribState) (slot : AttribIndex) : Prop :=
  driver.format named (attrib.vbo ≠ 0) (attribName slot) (format attrib) = true

instance (attrib : AttribState) (slot : AttribIndex) :
    Decidable (Submits driver named attrib slot) := by
  unfold Submits
  infer_instance

/-- The attribute after the pointer of the record has been submitted. -/
def submitted (attrib : AttribState) (slot : AttribIndex) (real : VertexAttrib) : VertexAttrib :=
  if Submits driver named attrib slot then
    { real with format := format attrib, buffer := ⟨attrib.vbo, life attrib.vbo⟩ }
  else real

/-- To submit the record would change nothing. -/
structure Submitted (attrib : AttribState) (slot : AttribIndex) (real : VertexAttrib) : Prop where
  enabled : real.enabled = attrib.enabled
  divisor : real.divisor = attrib.divisor
  pointer : Submits driver named attrib slot →
    real.format = format attrib ∧ real.buffer = ⟨attrib.vbo, life attrib.vbo⟩

structure ArrayMatches (vao : VAOState) (array : VertexArray) : Prop where
  element : array.element = ⟨vao.ebo, life vao.ebo⟩
  attribs : ∀ slot, restored (vao.attribs slot) = true →
    Submitted driver life named (vao.attribs slot) slot (array.attribs (attribName slot))

end

section

variable {driver : VertexDriver} {life : UInt32 → Nat} {vao : VAOState} {context : VertexContext}
  {object : BufferObject} {slot : AttribIndex}

theorem submitted_idem {named : Bool} {attrib : AttribState} {real : VertexAttrib} :
    submitted driver life named attrib slot (submitted driver life named attrib slot real) =
      submitted driver life named attrib slot real := by
  unfold submitted
  split_ifs <;> rfl

theorem restored_iff {attrib : AttribState} :
    restored attrib = true ↔ 1 ≤ attrib.size ∧ attrib.size ≤ 4 := by
  simp only [restored, Bool.and_eq_true, Bool.not_eq_true', Bool.or_eq_false_iff,
    decide_eq_false_iff_not, Int32.not_lt]
  constructor
  · intro given
    exact given.2
  · intro size
    refine ⟨?_, size⟩
    have some : (attrib.size == 0) = false := by
      rw [beq_eq_false_iff_ne]
      intro zero
      rw [zero] at size
      exact absurd size.1 (by decide)
    simp [some]

/-- With the buffer of the pointer bound already, the handler sets the pointer and no more. -/
theorem setPointer_live {index vbo : UInt32} {pointer : VertexFormat}
    (live : context.buffers glArrayBuffer = ⟨vbo, life vbo⟩) :
    setPointer driver life index pointer vbo context =
      context.setAttrib index
        (if driver.format (context.binding ≠ 0) (vbo ≠ 0) index pointer then
          { context.attrib index with format := pointer, buffer := ⟨vbo, life vbo⟩ }
        else context.attrib index) := by
  have name : context.arrayBufferBinding = vbo := by rw [VertexContext.arrayBufferBinding, live]
  have direct : context.vertexAttribPointer driver index pointer =
      context.setAttrib index
        (if driver.format (context.binding ≠ 0) (vbo ≠ 0) index pointer then
          { context.attrib index with format := pointer, buffer := ⟨vbo, life vbo⟩ }
        else context.attrib index) := by
    unfold VertexContext.vertexAttribPointer
    rw [name, live]
    split_ifs
    · rfl
    · exact setAttrib_self.symm
  have kept : (context.vertexAttribPointer driver index pointer).buffers glArrayBuffer =
      ⟨vbo, life vbo⟩ := by
    rw [direct]
    exact live
  unfold setPointer
  rw [name, bindBuffer_array, bindBuffer_array, bindArray_self live, bindArray_self kept, ite_self]
  exact direct

theorem Submitted.same {named : Bool} {attrib : AttribState} {real : VertexAttrib}
    (agrees : Submitted driver life named attrib slot real) :
    submitted driver life named attrib slot real = real := by
  unfold submitted
  split_ifs with takes
  · rw [← (agrees.pointer takes).1, ← (agrees.pointer takes).2]
  · rfl

/-- After it was submitted a record agrees, if the rest of the attribute does. -/
theorem submitted_agrees {named : Bool} {attrib : AttribState} {real : VertexAttrib}
    (enabled : real.enabled = attrib.enabled) (divisor : real.divisor = attrib.divisor) :
    Submitted driver life named attrib slot (submitted driver life named attrib slot real) := by
  unfold submitted
  split_ifs with takes
  · exact ⟨enabled, divisor, fun _ => ⟨rfl, rfl⟩⟩
  · exact ⟨enabled, divisor, fun wrong => absurd wrong takes⟩

theorem submit_bindArray (attrib : AttribState) :
    submit driver slot attrib (bindArray context ⟨attrib.vbo, life attrib.vbo⟩) =
      bindArray (context.setAttrib (attribName slot) (submitted driver life
          (context.binding ≠ 0) attrib slot (context.attrib (attribName slot))))
        ⟨attrib.vbo, life attrib.vbo⟩ := by
  have bound : (bindArray context ⟨attrib.vbo, life attrib.vbo⟩).arrayBufferBinding = attrib.vbo := by
    simp [VertexContext.arrayBufferBinding, bindArray]
  unfold submit VertexContext.vertexAttribPointer submitted
  rw [bound]
  by_cases takes : Submits driver (context.binding ≠ 0) attrib slot
  · rw [if_pos takes]
    refine (if_pos takes).trans ?_
    simp [bindArray, VertexContext.setAttrib, VertexContext.setArray, VertexContext.attrib]
  · rw [if_neg takes, setAttrib_self]
    exact if_neg takes

/-- A record that agrees changes the array buffer only. -/
theorem restoreAttrib_bindArray (given : restored (vao.attribs slot) = true)
    (agrees : ArrayMatches driver life (context.binding ≠ 0) vao (context.arrays context.binding)) :
    restoreAttrib driver life vao (bindArray context object) slot =
      bindArray context ⟨(vao.attribs slot).vbo, life (vao.attribs slot).vbo⟩ := by
  obtain ⟨enabled, divisor, -⟩ := agrees.attribs slot given
  simp only [restoreAttrib, bindBuffer_array, bindArray_bindArray, submit_bindArray]
  have submits : submitted driver life (context.binding ≠ 0) (vao.attribs slot) slot
      (context.attrib (attribName slot)) = context.attrib (attribName slot) :=
    (agrees.attribs slot given).same
  have enables : (bindArray context ⟨(vao.attribs slot).vbo, life (vao.attribs slot).vbo⟩).setEnabled
      driver (vao.attribs slot).enabled (attribName slot) =
        bindArray context ⟨(vao.attribs slot).vbo, life (vao.attribs slot).vbo⟩ :=
    setEnabled_self enabled
  rw [submits, setAttrib_self, enables]
  exact vertexAttribDivisor_self divisor

/-- To restore a record that agrees with the vertex array changes nothing. -/
theorem restore_self (agrees : ArrayMatches driver life (context.binding ≠ 0) vao
      (context.arrays context.binding))
    (live : context.buffers glArrayBuffer =
      ⟨context.arrayBufferBinding, life context.arrayBufferBinding⟩) :
    restore driver life vao context = context := by
  have fold (used : List AttribIndex) (given : ∀ slot ∈ used, restored (vao.attribs slot) = true)
      (object : BufferObject) : ∃ after, used.foldl (restoreAttrib driver life vao)
        (bindArray context object) = bindArray context after := by
    induction used generalizing object with
    | nil => exact ⟨object, rfl⟩
    | cons slot rest ih =>
        rw [List.foldl_cons, restoreAttrib_bindArray (given slot (.head _)) agrees]
        exact ih (fun slot member => given slot (.tail _ member)) _
  unfold restore
  rw [bindBuffer_element_self agrees.element]
  obtain ⟨after, folded⟩ := fold ((List.finRange maxVertexAttribs).filter fun slot =>
    restored (vao.attribs slot)) (fun slot member => (List.mem_filter.mp member).2)
    (context.buffers glArrayBuffer)
  rw [bindArray_self rfl] at folded
  simp only [folded, bindBuffer_array, bindArray_bindArray]
  split_ifs with none
  · rw [none] at folded
    exact folded.symm
  · exact bindArray_self live

/-- The loop of a draw over client arrays of a record. -/
theorem rebuild_fold (driver : VertexDriver) (life : UInt32 → Nat) (vao : VAOState)
    (used : List AttribIndex) (client : ∀ slot ∈ used, (vao.attribs slot).vbo = 0)
    (start : VertexContext) (object : BufferObject) :
    ∃ (array : VertexArray) (after : BufferObject),
      used.foldl (rebuildAttrib driver life vao) (bindArray start object) =
          bindArray (start.setArray array) after ∧
        array.element = (start.arrays start.binding).element ∧
        ∀ slot, array.attribs (attribName slot) =
          if slot ∈ used then
            submitted driver life (start.binding ≠ 0) (vao.attribs slot) slot
              (start.attrib (attribName slot))
          else start.attrib (attribName slot) := by
  induction used generalizing start object with
  | nil =>
      refine ⟨start.arrays start.binding, object, ?_, rfl, fun slot => rfl⟩
      simp [VertexContext.setArray]
  | cons first rest ih =>
      have zero := client first (.head _)
      have once : rebuildAttrib driver life vao (bindArray start object) first =
          bindArray (start.setAttrib (attribName first) (submitted driver life
            (start.binding ≠ 0) (vao.attribs first) first (start.attrib (attribName first))))
            ⟨0, life 0⟩ := by
        have one : submit driver first (vao.attribs first)
            (bindArray start ⟨(vao.attribs first).vbo, life (vao.attribs first).vbo⟩) = _ :=
          submit_bindArray (vao.attribs first)
        rw [zero] at one
        rw [rebuildAttrib, bindBuffer_array, bindArray_bindArray]
        exact one
      obtain ⟨array, after, folded, element, attribs⟩ :=
        ih (fun slot member => client slot (.tail _ member)) (start.setAttrib (attribName first)
          (submitted driver life (start.binding ≠ 0) (vao.attribs first) first
            (start.attrib (attribName first)))) ⟨0, life 0⟩
      refine ⟨array, after, ?_, ?_, fun slot => ?_⟩
      · rw [List.foldl_cons, once, folded]
        simp [VertexContext.setAttrib, VertexContext.setArray]
      · rw [element]
        simp [VertexContext.setAttrib, VertexContext.setArray]
      · rw [attribs]
        by_cases same : slot = first
        · subst same
          simp [VertexContext.setAttrib, VertexContext.setArray, VertexContext.attrib,
            submitted_idem]
        · have apart : attribName slot ≠ attribName first := fun equal =>
            same (attribName_injective equal)
          simp [VertexContext.setAttrib, VertexContext.setArray, VertexContext.attrib, apart, same]

/-- What the client arrays of a record make of a vertex array. -/
theorem rebuild_spec (driver : VertexDriver) (life : UInt32 → Nat) (vao : VAOState)
    (context : VertexContext) (live : context.buffers glArrayBuffer =
      ⟨context.arrayBufferBinding, life context.arrayBufferBinding⟩) :
    ∃ array : VertexArray, rebuild driver life vao context = context.setArray array ∧
      array.element = (context.arrays context.binding).element ∧
      ∀ slot, array.attribs (attribName slot) =
        if ((vao.attribs slot).enabled && (vao.attribs slot).vbo == 0) = true then
          submitted driver life (context.binding ≠ 0) (vao.attribs slot) slot
            (context.attrib (attribName slot))
        else context.attrib (attribName slot) := by
  obtain ⟨array, after, folded, element, attribs⟩ := rebuild_fold driver life vao
    ((List.finRange maxVertexAttribs).filter fun slot =>
      (vao.attribs slot).enabled && (vao.attribs slot).vbo == 0)
    (fun slot member => by simpa using ((Bool.and_eq_true _ _).mp (List.mem_filter.mp member).2).2)
    context (context.buffers glArrayBuffer)
  rw [bindArray_self rfl] at folded
  refine ⟨array, ?_, element, fun slot => ?_⟩
  · simp only [rebuild, folded, bindBuffer_array, bindArray_bindArray]
    split_ifs with none
    · rw [none] at folded
      have kept : context.buffers glArrayBuffer = after := by
        simpa [bindArray] using congrArg (fun reached => reached.buffers glArrayBuffer) folded
      exact bindArray_self kept
    · exact bindArray_self live
  · rw [attribs]
    simp only [List.mem_filter, List.mem_finRange, true_and]

end

end GlesBridge.Vertex
