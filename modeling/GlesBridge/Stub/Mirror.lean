import GlesBridge.Gl.State
import GlesBridge.Shared.Context
import GlesBridge.Stub.Call

namespace GlesBridge.Stub

open GlesBridge.Gl GlesBridge.Shared

/-! What the stub remembers of the contexts so as not to send calls that would
change nothing (`gles_util_stub.h`). -/

abbrev maxTextureUnits : Nat := 32
abbrev bufrangeCacheSlots : Nat := 64

def shadowTexInvalid : UInt32 := 0xFFFFFFFF

/-! ## The shadow of a context -/

inductive TextureArray where
  | texture2d
  | texture2dArray
  | textureCube
  | texture3d
deriving DecidableEq, Repr

inductive Cap where
  | blend
  | depthTest
  | cullFace
  | scissorTest
  | stencilTest
  | dither
  | polygonOffsetFill
  | sampleAlphaToCoverage
  | sampleCoverage
deriving DecidableEq, Repr

/-- The members of `StubShadowState` after `initialised`. -/
inductive Slot where
  | activeTexture
  | boundTexture (array : TextureArray) (unit : Fin maxTextureUnits)
  | program
  | drawFb
  | readFb
  | vao
  | sampler (unit : Fin maxTextureUnits)
  | viewport (index : Fin 4)
  | viewportValid
  | scissor (index : Fin 4)
  | scissorValid
  | colorMask (index : Fin 4)
  | depthRange (index : Fin 2)
  | depthFunc
  | depthMask
  | frontFace
  | blendEqRgb
  | blendEqAlpha
  | blendSrcRgb
  | blendDstRgb
  | blendSrcAlpha
  | blendDstAlpha
  | cap (name : Cap)
deriving DecidableEq, Repr

structure StubShadowState where
  initialised : Bool
  slot : Slot → UInt32

namespace StubShadowState

def zero : StubShadowState where
  initialised := false
  slot _ := 0

/-- `shadow_state_init`. -/
def init : StubShadowState where
  initialised := true
  slot
    | .activeTexture => glTexture0
    | .colorMask _ => glTrue
    | .depthRange 0 => 0
    | .depthRange 1 => 0x3F800000
    | .depthFunc => glLess
    | .depthMask => glTrue
    | .frontFace => glCcw
    | .blendEqRgb | .blendEqAlpha => glFuncAdd
    | .blendSrcRgb | .blendSrcAlpha => glOne
    | .blendDstRgb | .blendDstAlpha => glZero
    | .cap .dither => glTrue
    | _ => 0

end StubShadowState

def shadowTexSlot (target unit : UInt32) : Option Slot :=
  let idx := (unit - glTexture0).toNat
  if below : idx < maxTextureUnits then
    if target = glTexture2d then some (.boundTexture .texture2d ⟨idx, below⟩)
    else if target = glTexture2dArray then some (.boundTexture .texture2dArray ⟨idx, below⟩)
    else if target = glTextureCubeMap then some (.boundTexture .textureCube ⟨idx, below⟩)
    else if target = glTexture3d then some (.boundTexture .texture3d ⟨idx, below⟩)
    else none
  else none

def shadowCapSlot (cap : UInt32) : Option Slot :=
  if cap = glBlend then some (.cap .blend)
  else if cap = glDepthTest then some (.cap .depthTest)
  else if cap = glCullFace then some (.cap .cullFace)
  else if cap = glScissorTest then some (.cap .scissorTest)
  else if cap = glStencilTest then some (.cap .stencilTest)
  else if cap = glDither then some (.cap .dither)
  else if cap = glPolygonOffsetFill then some (.cap .polygonOffsetFill)
  else if cap = glSampleAlphaToCoverage then some (.cap .sampleAlphaToCoverage)
  else if cap = glSampleCoverage then some (.cap .sampleCoverage)
  else none

/-! ## The other copies -/

structure BufferRangeCacheEntry where
  buffer : UInt32
  offset : Int64
  size : Int64
  contentHash : UInt32
  hashValid : Bool
deriving DecidableEq, Repr

def BufferRangeCacheEntry.zero : BufferRangeCacheEntry where
  buffer := 0
  offset := 0
  size := 0
  contentHash := 0
  hashValid := false

def GLState.zero : GLState where
  arrayBuffer := 0
  pixelPackBuffer := 0
  pixelUnpackBuffer := 0
  uniformBuffer := 0
  textureBuffer := 0
  transformFeedbackBuffer := 0
  copyReadBuffer := 0
  copyWriteBuffer := 0
  shaderStorageBuffer := 0
  atomicCounterBuffer := 0
  dispatchIndirectBuffer := 0
  drawIndirectBuffer := 0

/-- The global copies of the stub's process: `g_shadow_ctx`, `g_stub_ctx`,
`g_stub_gl_state`, `g_bufrange_cache`, `g_attrib_stub_state` and
`g_stub_new_ctx`. -/
structure StubMirrors where
  shadowCtx : Ctx → StubShadowState
  stubCtx : Ctx → GLContextState
  stubGlState : Ctx → GLState
  bufrangeCache : Ctx → Fin bufrangeCacheSlots → BufferRangeCacheEntry
  attribStubState : AttribIndex → AttribState
  stubNewCtx : Nat

namespace StubMirrors

/-- The copies as the stub's process starts. -/
def zero : StubMirrors where
  shadowCtx _ := .zero
  stubCtx _ := .zero
  stubGlState _ := .zero
  bufrangeCache _ _ := .zero
  attribStubState _ := .zero
  stubNewCtx := 0

variable (mirrors : StubMirrors)

def setShadow (ctx : Ctx) (shadow : StubShadowState) : StubMirrors :=
  { mirrors with shadowCtx := Function.update mirrors.shadowCtx ctx shadow }

def setStubCtx (ctx : Ctx) (state : GLContextState) : StubMirrors :=
  { mirrors with stubCtx := Function.update mirrors.stubCtx ctx state }

def stubContextStateReset (idx : Nat) : StubMirrors :=
  if below : idx < maxContexts then
    { mirrors with
      shadowCtx := Function.update mirrors.shadowCtx ⟨idx, below⟩ .zero
      stubCtx := Function.update mirrors.stubCtx ⟨idx, below⟩ .zero
      bufrangeCache := Function.update mirrors.bufrangeCache ⟨idx, below⟩ fun slot =>
        { mirrors.bufrangeCache ⟨idx, below⟩ slot with buffer := 0 } }
  else mirrors

/-- The first half of `shadow_state_for_current_ctx`: a created context is
still to be reset, and with it the context of the thread that happens to come
here first. -/
def resetNewCtx (current : Ctx) : StubMirrors :=
  if 0 < mirrors.stubNewCtx then
    let reset := mirrors.stubContextStateReset mirrors.stubNewCtx
    let reset :=
      if mirrors.stubNewCtx ≠ current then reset.stubContextStateReset current else reset
    { reset with stubNewCtx := 0 }
  else mirrors

def shadowStateForCurrentCtx (current : Ctx) : StubMirrors :=
  let mirrors := mirrors.resetNewCtx current
  if (mirrors.shadowCtx current).initialised then mirrors else mirrors.setShadow current .init

end StubMirrors

/-! ## The shadow that a call finds -/

namespace StubMirrors

variable {mirrors : StubMirrors} {current : Ctx}

/-- The shadow of the current context after the resets still to be made. -/
def shadowSeen (mirrors : StubMirrors) (current : Ctx) : StubShadowState :=
  (mirrors.shadowStateForCurrentCtx current).shadowCtx current

/-- No reset is to be made. -/
def Ready (mirrors : StubMirrors) (current : Ctx) : Prop :=
  mirrors.stubNewCtx = 0 ∧ (mirrors.shadowCtx current).initialised = true

theorem Ready.shadowStateForCurrentCtx (ready : mirrors.Ready current) :
    mirrors.shadowStateForCurrentCtx current = mirrors := by
  simp [StubMirrors.shadowStateForCurrentCtx, resetNewCtx, ready.1, ready.2]

theorem Ready.seen (ready : mirrors.Ready current) :
    mirrors.shadowSeen current = mirrors.shadowCtx current := by
  rw [shadowSeen, ready.shadowStateForCurrentCtx]

theorem shadowCtx_reset (idx : Nat) (ctx : Ctx) :
    (mirrors.stubContextStateReset idx).shadowCtx ctx =
      if idx = ctx then .zero else mirrors.shadowCtx ctx := by
  unfold stubContextStateReset
  by_cases below : idx < maxContexts
  · simp only [dif_pos below, Function.update_apply, Fin.ext_iff, eq_comm]
  · have apart : idx ≠ ctx := fun equal => below (equal ▸ ctx.isLt)
    rw [dif_neg below, if_neg apart]

/-- A reset still to be made reaches the current context in any case. -/
theorem shadowCtx_resetNewCtx (mirrors : StubMirrors) (current : Ctx) :
    (mirrors.resetNewCtx current).shadowCtx current =
      if 0 < mirrors.stubNewCtx then .zero else mirrors.shadowCtx current := by
  simp only [resetNewCtx]
  split_ifs with pending other
  · simp [shadowCtx_reset]
  · simp [shadowCtx_reset, not_ne_iff.mp other]
  · rfl

theorem stubCtx_reset (idx : Nat) (ctx : Ctx) :
    (mirrors.stubContextStateReset idx).stubCtx ctx =
      if idx = ctx then .zero else mirrors.stubCtx ctx := by
  unfold stubContextStateReset
  by_cases below : idx < maxContexts
  · simp only [dif_pos below, Function.update_apply, Fin.ext_iff, eq_comm]
  · have apart : idx ≠ ctx := fun equal => below (equal ▸ ctx.isLt)
    rw [dif_neg below, if_neg apart]

/-- The context was created last, or it is the one that comes first. -/
def Resets (mirrors : StubMirrors) (current ctx : Ctx) : Prop :=
  0 < mirrors.stubNewCtx ∧ (mirrors.stubNewCtx = ctx ∨ current = ctx)

instance (mirrors : StubMirrors) (current ctx : Ctx) : Decidable (mirrors.Resets current ctx) := by
  unfold Resets
  infer_instance

theorem stubCtx_resetNewCtx (mirrors : StubMirrors) (current ctx : Ctx) :
    (mirrors.resetNewCtx current).stubCtx ctx =
      if mirrors.Resets current ctx then .zero else mirrors.stubCtx ctx := by
  by_cases pending : 0 < mirrors.stubNewCtx
  · have both : (mirrors.resetNewCtx current).stubCtx ctx =
        if (current : Nat) = ctx then .zero
        else if mirrors.stubNewCtx = ctx then .zero else mirrors.stubCtx ctx := by
      simp only [resetNewCtx, if_pos pending]
      by_cases last : mirrors.stubNewCtx = current
      · rw [if_neg (not_ne_iff.mpr last), stubCtx_reset, last]
        split_ifs <;> rfl
      · rw [if_pos last, stubCtx_reset, stubCtx_reset]
    rw [both]
    simp only [Resets, pending, true_and, Fin.ext_iff]
    split_ifs <;> first | rfl | omega
  · simp [resetNewCtx, Resets, pending]

theorem stubCtx_consulted (mirrors : StubMirrors) (current ctx : Ctx) :
    (mirrors.shadowStateForCurrentCtx current).stubCtx ctx =
      if mirrors.Resets current ctx then .zero else mirrors.stubCtx ctx := by
  rw [← stubCtx_resetNewCtx]
  simp only [StubMirrors.shadowStateForCurrentCtx]
  split_ifs <;> rfl

theorem stubGlState_reset (mirrors : StubMirrors) (idx : Nat) :
    (mirrors.stubContextStateReset idx).stubGlState = mirrors.stubGlState := by
  unfold stubContextStateReset
  split_ifs <;> rfl

/-- No reset reaches the buffer bindings. -/
theorem stubGlState_consulted (mirrors : StubMirrors) (current : Ctx) :
    (mirrors.shadowStateForCurrentCtx current).stubGlState = mirrors.stubGlState := by
  have reset : (mirrors.resetNewCtx current).stubGlState = mirrors.stubGlState := by
    simp only [resetNewCtx]
    split_ifs
    · simp only [stubGlState_reset]
    · exact stubGlState_reset mirrors _
    · rfl
  simp only [StubMirrors.shadowStateForCurrentCtx]
  split_ifs
  · exact reset
  · exact reset

theorem stubNewCtx_resetNewCtx (mirrors : StubMirrors) (current : Ctx) :
    (mirrors.resetNewCtx current).stubNewCtx = 0 := by
  simp only [resetNewCtx]
  by_cases pending : 0 < mirrors.stubNewCtx
  · rw [if_pos pending]
  · rw [if_neg pending]
    exact Nat.eq_zero_of_not_pos pending

theorem ready_of_consulted (mirrors : StubMirrors) (current : Ctx) :
    (mirrors.shadowStateForCurrentCtx current).Ready current := by
  simp only [StubMirrors.shadowStateForCurrentCtx]
  split_ifs with initialised
  · exact ⟨mirrors.stubNewCtx_resetNewCtx current, initialised⟩
  · refine ⟨mirrors.stubNewCtx_resetNewCtx current, ?_⟩
    simp [setShadow, StubShadowState.init]

theorem shadowSeen_eq (mirrors : StubMirrors) (current : Ctx) :
    mirrors.shadowSeen current =
      if mirrors.stubNewCtx = 0 ∧ (mirrors.shadowCtx current).initialised = true then
        mirrors.shadowCtx current
      else .init := by
  simp only [shadowSeen, StubMirrors.shadowStateForCurrentCtx]
  have reset := mirrors.shadowCtx_resetNewCtx current
  by_cases pending : 0 < mirrors.stubNewCtx
  · rw [if_pos pending] at reset
    have waiting : mirrors.stubNewCtx ≠ 0 := by omega
    simp [reset, waiting, StubShadowState.zero, setShadow]
  · rw [if_neg pending] at reset
    have settled : mirrors.stubNewCtx = 0 := by omega
    cases marked : (mirrors.shadowCtx current).initialised with
    | true => simp [reset, settled, marked]
    | false => simp [reset, settled, marked, setShadow]

end StubMirrors

end GlesBridge.Stub
