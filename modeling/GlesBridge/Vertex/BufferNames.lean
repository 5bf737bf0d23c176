import GlesBridge.Vertex.Attribs
import GlesBridge.Vertex.Restore

namespace GlesBridge.Vertex

open GlesBridge.Gl GlesBridge.Shared GlesBridge.Stub GlesBridge.Proxy

/-! The names of the buffers that are bound: what each handler and each entry
point does to them. -/

/-! ## In GL -/

/-- Every binding has the name that it had. -/
structure SameNames (before after : VertexContext) : Prop where
  buffers : ∀ target, (after.buffers target).name = (before.buffers target).name
  elements : ∀ name, (after.arrays name).element.name = (before.arrays name).element.name

/-- Of the bindings only the array buffer may be another. -/
structure OnlyArray (before after : VertexContext) : Prop where
  buffers : ∀ target, target ≠ glArrayBuffer → after.buffers target = before.buffers target
  elements : ∀ name, (after.arrays name).element = (before.arrays name).element

section

variable {driver : VertexDriver} {life : UInt32 → Nat} {context before between after : VertexContext}
  {vao : VAOState} {index : UInt32}

theorem SameNames.refl : SameNames context context := ⟨fun _ => rfl, fun _ => rfl⟩

theorem OnlyArray.refl : OnlyArray context context := ⟨fun _ _ => rfl, fun _ => rfl⟩

theorem OnlyArray.trans (first : OnlyArray before between) (second : OnlyArray between after) :
    OnlyArray before after :=
  ⟨fun target apart => (second.buffers target apart).trans (first.buffers target apart),
    fun name => (second.elements name).trans (first.elements name)⟩

theorem OnlyArray.foldl {step : VertexContext → AttribIndex → VertexContext}
    (steps : ∀ context slot, OnlyArray context (step context slot)) (slots : List AttribIndex) :
    OnlyArray context (slots.foldl step context) := by
  induction slots generalizing context with
  | nil => exact .refl
  | cons slot rest ih => exact (steps context slot).trans ih

theorem onlyArray_bindArray (object : BufferObject) : OnlyArray context (bindArray context object) := by
  refine ⟨fun target apart => ?_, fun _ => rfl⟩
  simp [bindArray, apart]

theorem onlyArray_setAttrib (attrib : VertexAttrib) :
    OnlyArray context (context.setAttrib index attrib) := by
  refine ⟨fun _ _ => rfl, fun name => ?_⟩
  simp only [VertexContext.setAttrib, VertexContext.setArray, Function.update_apply]
  split_ifs with here
  · rw [here]
  · rfl

theorem onlyArray_pointer (pointer : VertexFormat) :
    OnlyArray context (context.vertexAttribPointer driver index pointer) := by
  unfold VertexContext.vertexAttribPointer
  split_ifs
  · exact onlyArray_setAttrib _
  · exact .refl

theorem onlyArray_setEnabled (enabled : Bool) :
    OnlyArray context (context.setEnabled driver enabled index) := by
  unfold VertexContext.setEnabled
  split_ifs
  · exact onlyArray_setAttrib _
  · exact .refl

theorem onlyArray_divisor (divisor : UInt32) :
    OnlyArray context (context.vertexAttribDivisor driver index divisor) := by
  unfold VertexContext.vertexAttribDivisor
  split_ifs
  · exact onlyArray_setAttrib _
  · exact .refl

/-- The array buffer is bound again by its name. -/
theorem OnlyArray.rebound (only : OnlyArray before after) :
    SameNames before (after.bindBuffer life glArrayBuffer before.arrayBufferBinding) := by
  rw [bindBuffer_array]
  refine ⟨fun target => ?_, fun name => congrArg BufferObject.name (only.elements name)⟩
  by_cases array : target = glArrayBuffer
  · subst array
    simp [bindArray, VertexContext.arrayBufferBinding]
  · rw [(onlyArray_bindArray _).buffers target array, only.buffers target array]

theorem setPointer_names (pointer : VertexFormat) (vbo : UInt32) :
    SameNames context (setPointer driver life index pointer vbo context) := by
  unfold setPointer
  split_ifs with zero
  · unfold VertexContext.vertexAttribPointer
    split_ifs
    · refine ⟨fun _ => rfl, fun name => ?_⟩
      exact congrArg BufferObject.name ((onlyArray_setAttrib _).elements name)
    · exact .refl
  · refine OnlyArray.rebound (OnlyArray.trans ?_ (onlyArray_pointer pointer))
    rw [bindBuffer_array]
    exact onlyArray_bindArray _

theorem rebuild_names : SameNames context (rebuild driver life vao context) := by
  have steps (start : VertexContext) (slot : AttribIndex) :
      OnlyArray start (rebuildAttrib driver life vao start slot) := by
    refine OnlyArray.trans ?_ (onlyArray_pointer _)
    rw [bindBuffer_array]
    exact onlyArray_bindArray _
  simp only [rebuild]
  split_ifs with none
  · rw [none]
    exact .refl
  · exact (OnlyArray.foldl steps _).rebound

/-- What is restored changes no name but that of the element buffer. -/
theorem restore_names :
    SameNames (context.bindBuffer life glElementArrayBuffer vao.ebo)
      (restore driver life vao context) := by
  have steps (start : VertexContext) (slot : AttribIndex) :
      OnlyArray start (restoreAttrib driver life vao start slot) := by
    refine OnlyArray.trans ?_ (onlyArray_divisor _)
    refine OnlyArray.trans ?_ (onlyArray_setEnabled _)
    refine OnlyArray.trans ?_ (onlyArray_pointer _)
    rw [bindBuffer_array]
    exact onlyArray_bindArray _
  simp only [restore]
  split_ifs with none
  · rw [none]
    exact .refl
  · exact (OnlyArray.foldl steps _).rebound

end

/-! ## In the stub -/

section

variable {stub : StubMirrors} {current ctx : Ctx} {name : UInt32}

theorem setAttribs_ebo (records : Records) {index : UInt32} {change : AttribState → AttribState}
    (inside : records.ctx.currentVao.toNat < maxVaos) :
    ((records.setAttribs index change).ctx.vao name).ebo = (records.ctx.vao name).ebo := by
  rw [setAttribs_vao records inside]
  split_ifs <;> rfl

theorem copyAttrib_ebo (records : Records) {index : UInt32} {change : AttribState → AttribState}
    (inside : records.ctx.currentVao.toNat < maxVaos) :
    ((records.copyAttrib index change).ctx.vao name).ebo = (records.ctx.vao name).ebo := by
  rw [copyAttrib_vao records inside]
  split_ifs <;> rfl

theorem invalidateBuffer_ebo {buffer : UInt32} (given : buffer ≠ 0) :
    (((stub.stubGlStateInvalidateBuffer current buffer).stubCtx ctx).vao name).ebo =
      if ((stub.stubCtx ctx).vao name).ebo = buffer then 0
      else ((stub.stubCtx ctx).vao name).ebo := by
  unfold StubMirrors.stubGlStateInvalidateBuffer
  rw [if_neg given]
  simp only [StubMirrors.bufrangeCacheInvalidateBuffer, GLContextState.vao, invalidateEbo]
  by_cases below : name.toNat < maxVaos
  · simp only [dif_pos below]
    split_ifs <;> rfl
  · simp only [dif_neg below]
    exact (ite_self _).symm

theorem invalidateBuffer_get {buffer : UInt32} (given : buffer ≠ 0) (slot : BufferSlot) :
    ((stub.stubGlStateInvalidateBuffer current buffer).stubGlState ctx).get slot =
      if ctx = current ∧ (stub.stubGlState ctx).get slot = buffer then 0
      else (stub.stubGlState ctx).get slot := by
  unfold StubMirrors.stubGlStateInvalidateBuffer
  rw [if_neg given]
  by_cases here : ctx = current
  · subst here
    simp [StubMirrors.bufrangeCacheInvalidateBuffer]
  · simp [StubMirrors.bufrangeCacheInvalidateBuffer, here]

/-- The element buffers on record change where a call binds one, deletes it, or
clears the record. -/
theorem vertexCall_ebo (call : VertexCall) (inside : (stub.stubCtx current).currentVao.toNat < maxVaos)
    (generates : ∀ arrays, call = .glGenVertexArrays arrays → Generates arrays) :
    (((stub.vertexCall current call).1.stubCtx ctx).vao name).ebo =
      match call with
      | .glGenVertexArrays arrays =>
          if ctx = current ∧ name ∈ arrays then 0 else ((stub.stubCtx ctx).vao name).ebo
      | .glBindVertexArray _ =>
          if stub.Resets current ctx then 0 else ((stub.stubCtx ctx).vao name).ebo
      | .glBindBuffer target buffer =>
          if target = glElementArrayBuffer ∧ ctx = current ∧
              name = (stub.stubCtx current).currentVao then buffer
          else ((stub.stubCtx ctx).vao name).ebo
      | .glDeleteBuffers buffers =>
          (((stub.glDeleteBuffers current buffers).stubCtx ctx).vao name).ebo
      | _ => ((stub.stubCtx ctx).vao name).ebo := by
  cases call with
  | glGenVertexArrays arrays =>
      simp only [StubMirrors.vertexCall, StubMirrors.glGenVertexArrays,
        StubMirrors.setStubCtx_stubCtx]
      by_cases here : ctx = current
      · subst here
        rw [if_pos rfl, GLContextState.vao_zeroVaos (generates arrays rfl)]
        by_cases member : name ∈ arrays
        · simp [member, VAOState.zero]
        · simp [member]
      · simp [here]
  | glBindVertexArray array =>
      have consulted : (((stub.shadowStateForCurrentCtx current).stubCtx ctx).vao name).ebo =
          if stub.Resets current ctx then 0 else ((stub.stubCtx ctx).vao name).ebo := by
        rw [StubMirrors.stubCtx_consulted]
        split_ifs
        · rw [GLContextState.vao_zero]
          rfl
        · rfl
      simp only [StubMirrors.vertexCall, StubMirrors.glBindVertexArray_eq]
      rw [← consulted]
      split_ifs
      · rfl
      · rw [StubMirrors.setStubCtx_stubCtx]
        split_ifs with here
        · rw [here]
          rfl
        · rfl
  | glDeleteVertexArrays arrays =>
      simp only [StubMirrors.vertexCall, StubMirrors.glDeleteVertexArrays, StubMirrors.stateCall,
        StubMirrors.shadowInvalidateAll_stubCtx]
  | glBindBuffer target buffer =>
      simp only [StubMirrors.vertexCall, StubMirrors.glBindBuffer, StubMirrors.boundBuffer,
        StubMirrors.setBoundBuffer]
      by_cases element : target = glElementArrayBuffer
      · simp only [element, if_true, true_or, true_and]
        split_ifs with known here here
        · rw [here.1, here.2]
          exact known
        · rfl
        · rw [StubMirrors.setStubCtx_stubCtx, if_pos here.1, GLContextState.vao_setVao inside,
            if_pos here.2]
        · rw [StubMirrors.setStubCtx_stubCtx]
          split_ifs with same
          · rw [GLContextState.vao_setVao inside, if_neg fun equal => here ⟨same, equal⟩, same]
          · rfl
      · simp only [element, if_false, false_and]
        split_ifs
        · rfl
        · split <;> rfl
  | glBindBufferRange target index buffer offset size mapped =>
      simp only [StubMirrors.vertexCall, StubMirrors.glBindBufferRange]
      split_ifs <;> rfl
  | glDrawElements indices lastVertex place =>
      simp only [StubMirrors.vertexCall, StubMirrors.glDrawElements]
      split_ifs <;> rfl
  | glBindBufferBase | glDeleteBuffers | glDrawArrays => rfl
  | _ =>
      by_cases here : ctx = current
      · subst here
        simp only [StubMirrors.vertexCall, StubMirrors.glVertexAttribPointer,
          StubMirrors.glVertexAttribIPointer, StubMirrors.glEnableVertexAttribArray,
          StubMirrors.glDisableVertexAttribArray, StubMirrors.glVertexAttribDivisor,
          StubMirrors.setRecords_stubCtx, if_true]
        first
          | exact copyAttrib_ebo (stub.records ctx) inside
          | exact setAttribs_ebo (stub.records ctx) inside
      · simp [StubMirrors.vertexCall, StubMirrors.glVertexAttribPointer,
          StubMirrors.glVertexAttribIPointer, StubMirrors.glEnableVertexAttribArray,
          StubMirrors.glDisableVertexAttribArray, StubMirrors.glVertexAttribDivisor, here]

end

/-! ## In the proxy -/

section

variable {driver : VertexDriver} {group : Ctx → Nat} {state : ProxyState} {ctx : Ctx}

/-- The commands that bind no buffer and delete none. -/
def BindsNone : VertexCommand → Prop
  | .glGenVertexArrays _ | .glBindVertexArray _ | .glBindBuffer .. | .glBindBufferBase ..
  | .glBindBufferRange .. | .glDeleteBuffers _ => False
  | _ => True

theorem handle_names {command : VertexCommand} (none : BindsNone command) (other : Ctx) :
    SameNames (state.world.contexts other)
      ((state.handle driver group ctx command).world.contexts other) := by
  by_cases here : other = ctx
  · subst here
    cases command with
    | glDeleteVertexArrays arrays =>
        simp only [ProxyState.handle, ProxyState.hGlDeleteVertexArrays, ProxyState.gl_contexts, if_true]
        exact ⟨fun _ => rfl, fun _ => rfl⟩
    | glVertexAttribPointer | glVertexAttribIPointer =>
        simp only [ProxyState.handle, ProxyState.hGlVertexAttribPointer,
          ProxyState.hGlVertexAttribIPointer, ProxyState.gl_contexts, if_true]
        exact setPointer_names _ _
    | glEnableVertexAttribArray | glDisableVertexAttribArray =>
        simp only [ProxyState.handle, ProxyState.hGlEnableVertexAttribArray,
          ProxyState.hGlDisableVertexAttribArray, ProxyState.setRecords_world,
          ProxyState.gl_contexts, if_true]
        unfold VertexContext.setEnabled
        split_ifs
        · exact ⟨fun _ => rfl, fun name => congrArg BufferObject.name
            ((onlyArray_setAttrib _).elements name)⟩
        · exact .refl
    | glVertexAttribDivisor index divisor =>
        simp only [ProxyState.handle, ProxyState.hGlVertexAttribDivisor,
          ProxyState.setRecords_world, ProxyState.gl_contexts, if_true]
        unfold VertexContext.vertexAttribDivisor
        split_ifs
        · exact ⟨fun _ => rfl, fun name => congrArg BufferObject.name
            ((onlyArray_setAttrib _).elements name)⟩
        · exact .refl
    | glDrawArrays patches =>
        simp only [ProxyState.handle, ProxyState.hGlDrawArrays, ProxyState.gl_contexts, if_true]
        exact rebuild_names
    | glDrawElements clientPtr patches =>
        simp only [ProxyState.handle, ProxyState.hGlDrawElements]
        split_ifs
        · simp only [ProxyState.gl_contexts, if_true]
          exact rebuild_names
        · exact .refl
    | _ => exact none.elim
  · cases command with
    | glDrawElements clientPtr patches =>
        simp only [ProxyState.handle, ProxyState.hGlDrawElements]
        split_ifs
        · rw [ProxyState.gl_contexts, if_neg here]
          exact .refl
        · exact .refl
    | glGenVertexArrays | glBindVertexArray | glBindBuffer | glBindBufferBase
    | glBindBufferRange | glDeleteBuffers => exact none.elim
    | _ =>
        simp only [ProxyState.handle, ProxyState.hGlDeleteVertexArrays,
          ProxyState.hGlVertexAttribPointer, ProxyState.hGlVertexAttribIPointer,
          ProxyState.hGlEnableVertexAttribArray, ProxyState.hGlDisableVertexAttribArray,
          ProxyState.hGlVertexAttribDivisor, ProxyState.hGlDrawArrays, ProxyState.setRecords_world,
          ProxyState.gl_contexts, if_neg here]
        exact .refl

end

end GlesBridge.Vertex
