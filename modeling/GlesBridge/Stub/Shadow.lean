import GlesBridge.Stub.Mirror

namespace GlesBridge.Stub

open GlesBridge.Gl GlesBridge.Shared

/-! The entry points that compare their arguments with the shadow of the
current context and keep a call back that would change nothing. -/

/-! ## Comparing and noting -/

/-- The comparison of a member with an argument; depths are compared as floats. -/
def Slot.same : Slot → UInt32 → UInt32 → Bool
  | .depthRange _, left, right => floatEq left right
  | _, left, right => left == right

namespace StubShadowState

variable (shadow : StubShadowState)

def matches_ (writes : List (Slot × UInt32)) : Bool :=
  writes.all fun (slot, value) => slot.same (shadow.slot slot) value

def assign (writes : List (Slot × UInt32)) : StubShadowState :=
  { shadow with slot := fun slot => (writes.lookup slot).getD (shadow.slot slot) }

end StubShadowState

/-- The members that an entry point compares with its arguments, and assigns
when they differ. `none` stands for a call that is always sent: the entry point
has no such test, or it finds no member for its target, unit or capability. -/
def cachedSlots (shadow : StubShadowState) : StateCall → Option (List (Slot × UInt32))
  | .glActiveTexture texture => some [(.activeTexture, texture)]
  | .glBindTexture target texture =>
      (shadowTexSlot target (shadow.slot .activeTexture)).map fun slot => [(slot, texture)]
  | .glUseProgram program => some [(.program, program)]
  | .glBindFramebuffer target framebuffer =>
      if target = glFramebuffer then some [(.drawFb, framebuffer), (.readFb, framebuffer)]
      else if target = glDrawFramebuffer then some [(.drawFb, framebuffer)]
      else if target = glReadFramebuffer then some [(.readFb, framebuffer)]
      else none
  | .glBindVertexArray array => some [(.vao, array)]
  | .glBindSampler unit sampler =>
      if below : unit.toNat < maxTextureUnits then some [(.sampler ⟨unit.toNat, below⟩, sampler)]
      else none
  | .glViewport x y w h =>
      some [(.viewportValid, 1), (.viewport 0, x), (.viewport 1, y), (.viewport 2, w),
        (.viewport 3, h)]
  | .glScissor x y width height =>
      some [(.scissorValid, 1), (.scissor 0, x), (.scissor 1, y), (.scissor 2, width),
        (.scissor 3, height)]
  | .glEnable cap => (shadowCapSlot cap).map fun slot => [(slot, glTrue)]
  | .glDisable cap => (shadowCapSlot cap).map fun slot => [(slot, glFalse)]
  | .glColorMask r g b a =>
      some [(.colorMask 0, r.toUInt32), (.colorMask 1, g.toUInt32), (.colorMask 2, b.toUInt32),
        (.colorMask 3, a.toUInt32)]
  | .glDepthFunc func => some [(.depthFunc, func)]
  | .glDepthMask flag => some [(.depthMask, flag.toUInt32)]
  | .glDepthRangef n f => some [(.depthRange 0, n), (.depthRange 1, f)]
  | .glFrontFace mode => some [(.frontFace, mode)]
  | .glBlendEquation mode => some [(.blendEqRgb, mode), (.blendEqAlpha, mode)]
  | .glBlendEquationSeparate modeRgb modeAlpha =>
      some [(.blendEqRgb, modeRgb), (.blendEqAlpha, modeAlpha)]
  | .glBlendFunc sfactor dfactor =>
      some [(.blendSrcRgb, sfactor), (.blendDstRgb, dfactor), (.blendSrcAlpha, sfactor),
        (.blendDstAlpha, dfactor)]
  | .glBlendFuncSeparate srcRgb dstRgb srcAlpha dstAlpha =>
      some [(.blendSrcRgb, srcRgb), (.blendDstRgb, dstRgb), (.blendSrcAlpha, srcAlpha),
        (.blendDstAlpha, dstAlpha)]
  | _ => none

/-- The calls that ask `shadow_state_for_current_ctx` for the shadow. -/
def consultsShadow : StateCall → Bool
  | .glActiveTexture _ | .glBindTexture .. | .glUseProgram _ | .glBindFramebuffer ..
  | .glBindVertexArray _ | .glBindSampler .. | .glViewport .. | .glScissor .. | .glEnable _
  | .glDisable _ | .glColorMask .. | .glDepthFunc _ | .glDepthMask _ | .glDepthRangef ..
  | .glFrontFace _ | .glBlendEquation _ | .glBlendEquationSeparate .. | .glBlendFunc ..
  | .glBlendFuncSeparate .. => true
  | _ => false

/-! ## Deletions -/

/-- The kind of object whose name a member holds. -/
def Slot.kind : Slot → Option ObjectKind
  | .boundTexture .. => some .texture
  | .drawFb | .readFb => some .framebuffer
  | .vao => some .vertexArray
  | .sampler _ => some .sampler
  | _ => none

namespace StubShadowState

/-- The body of the loop over the contexts in the functions `shadow_invalidate_*`:
the members of one kind that hold the name. -/
def invalidate (kind : ObjectKind) (unbound name : UInt32) (shadow : StubShadowState) :
    StubShadowState :=
  { shadow with slot := fun slot =>
      if slot.kind = some kind ∧ shadow.slot slot = name then unbound else shadow.slot slot }

def invalidateTexture : UInt32 → StubShadowState → StubShadowState :=
  invalidate .texture shadowTexInvalid

def invalidateFbo : UInt32 → StubShadowState → StubShadowState := invalidate .framebuffer 0

def invalidateVao : UInt32 → StubShadowState → StubShadowState := invalidate .vertexArray 0

def invalidateSampler : UInt32 → StubShadowState → StubShadowState := invalidate .sampler 0

end StubShadowState

namespace StubMirrors

variable (mirrors : StubMirrors)

/-- `shadow_invalidate_*`: name 0 is never deleted, and every context is gone through. -/
def shadowInvalidate (invalidate : UInt32 → StubShadowState → StubShadowState) (name : UInt32) :
    StubMirrors :=
  if name = 0 then mirrors
  else { mirrors with shadowCtx := fun ctx => invalidate name (mirrors.shadowCtx ctx) }

def shadowInvalidateAll (invalidate : UInt32 → StubShadowState → StubShadowState)
    (names : List UInt32) : StubMirrors :=
  names.foldl (fun mirrors name => mirrors.shadowInvalidate invalidate name) mirrors

end StubMirrors

/-! ## Buffers -/

/-- The twelve tests of `stub_gl_state_invalidate_buffer` on the bindings of the
current context. -/
def GLState.invalidateBuffer (buffer : UInt32) (state : GLState) : GLState :=
  let cleared (bound : UInt32) : UInt32 := if bound = buffer then 0 else bound
  { arrayBuffer := cleared state.arrayBuffer
    pixelPackBuffer := cleared state.pixelPackBuffer
    pixelUnpackBuffer := cleared state.pixelUnpackBuffer
    uniformBuffer := cleared state.uniformBuffer
    textureBuffer := cleared state.textureBuffer
    transformFeedbackBuffer := cleared state.transformFeedbackBuffer
    copyReadBuffer := cleared state.copyReadBuffer
    copyWriteBuffer := cleared state.copyWriteBuffer
    shaderStorageBuffer := cleared state.shaderStorageBuffer
    atomicCounterBuffer := cleared state.atomicCounterBuffer
    dispatchIndirectBuffer := cleared state.dispatchIndirectBuffer
    drawIndirectBuffer := cleared state.drawIndirectBuffer }

/-- The element buffers of one context in `stub_gl_state_invalidate_buffer`. -/
def invalidateEbo (buffer : UInt32) (state : GLContextState) : GLContextState :=
  { state with vaos := fun vao =>
      if (state.vaos vao).ebo = buffer then { state.vaos vao with ebo := 0 } else state.vaos vao }

namespace StubMirrors

variable (mirrors : StubMirrors)

def bufrangeCacheInvalidateBuffer (buffer : UInt32) : StubMirrors :=
  { mirrors with bufrangeCache := fun ctx slot =>
      let entry := mirrors.bufrangeCache ctx slot
      if entry.buffer = buffer then { entry with buffer := 0 } else entry }

def stubGlStateInvalidateBuffer (current : Ctx) (buffer : UInt32) : StubMirrors :=
  if buffer = 0 then mirrors
  else
    { mirrors with
      stubGlState := Function.update mirrors.stubGlState current
        ((mirrors.stubGlState current).invalidateBuffer buffer)
      stubCtx := fun ctx => invalidateEbo buffer (mirrors.stubCtx ctx)
      : StubMirrors }.bufrangeCacheInvalidateBuffer buffer

def glDeleteBuffers (current : Ctx) (buffers : List UInt32) : StubMirrors :=
  buffers.foldl (fun mirrors buffer => mirrors.stubGlStateInvalidateBuffer current buffer) mirrors

theorem glDeleteBuffers_shadow (mirrors : StubMirrors) (current : Ctx) (buffers : List UInt32) :
    (mirrors.glDeleteBuffers current buffers).shadowCtx = mirrors.shadowCtx ∧
      (mirrors.glDeleteBuffers current buffers).stubNewCtx = mirrors.stubNewCtx := by
  unfold glDeleteBuffers
  induction buffers generalizing mirrors with
  | nil => exact ⟨rfl, rfl⟩
  | cons buffer rest ih =>
      have one : (mirrors.stubGlStateInvalidateBuffer current buffer).shadowCtx =
            mirrors.shadowCtx ∧
          (mirrors.stubGlStateInvalidateBuffer current buffer).stubNewCtx = mirrors.stubNewCtx := by
        unfold stubGlStateInvalidateBuffer
        split_ifs
        · exact ⟨rfl, rfl⟩
        · exact ⟨rfl, rfl⟩
      exact ⟨(ih _).1.trans one.1, (ih _).2.trans one.2⟩

/-! ## The entry points -/

/-- The assignments to `g_stub_ctx` that the entry points make besides. -/
def notePrimitiveRestart (current : Ctx) : StateCall → StubMirrors
  | .glEnable cap =>
      if cap = glPrimitiveRestartFixedIndex then
        mirrors.setStubCtx current { mirrors.stubCtx current with primitiveRestart := true }
      else mirrors
  | .glDisable cap =>
      if cap = glPrimitiveRestartFixedIndex then
        mirrors.setStubCtx current { mirrors.stubCtx current with primitiveRestart := false }
      else mirrors
  | _ => mirrors

def noteCurrentVao (current : Ctx) : StateCall → StubMirrors
  | .glBindVertexArray array =>
      mirrors.setStubCtx current { mirrors.stubCtx current with currentVao := array }
  | _ => mirrors

/-- An entry point that compares its arguments with the shadow: the copies
after it, and whether it sends a command. -/
def cachedCall (current : Ctx) (call : StateCall) : StubMirrors × Bool :=
  let mirrors := (mirrors.notePrimitiveRestart current call).shadowStateForCurrentCtx current
  let shadow := mirrors.shadowCtx current
  match cachedSlots shadow call with
  | none => (mirrors, true)
  | some writes =>
      if shadow.matches_ writes then (mirrors, false)
      else ((mirrors.setShadow current (shadow.assign writes)).noteCurrentVao current call, true)

/-- The entry points with `CACHE_GL_STATE`. -/
def stateCall (current : Ctx) : StateCall → StubMirrors × Bool
  | .glDeleteTextures textures =>
      (mirrors.shadowInvalidateAll StubShadowState.invalidateTexture textures, true)
  | .glDeleteFramebuffers fbs => (mirrors.shadowInvalidateAll StubShadowState.invalidateFbo fbs, true)
  | .glDeleteVertexArrays arrays =>
      (mirrors.shadowInvalidateAll StubShadowState.invalidateVao arrays, true)
  | .glDeleteSamplers samplers =>
      (mirrors.shadowInvalidateAll StubShadowState.invalidateSampler samplers, true)
  | .glDeleteBuffers buffers => (mirrors.glDeleteBuffers current buffers, true)
  | call => if consultsShadow call then mirrors.cachedCall current call else (mirrors, true)

end StubMirrors

end GlesBridge.Stub
