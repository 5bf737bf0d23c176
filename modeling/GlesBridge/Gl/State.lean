import GlesBridge.Data.Index
import Mathlib.Data.List.Basic

namespace GlesBridge.Gl

/-! The state of a GL context that the stub keeps a copy of, and the calls that
set it. Names, enumerations and numbers are their 32-bit words, a float its
IEEE 754 encoding. -/

/-! ## Enumerations -/

def glTexture0 : UInt32 := 0x84C0
def glTexture2d : UInt32 := 0x0DE1
def glTexture2dArray : UInt32 := 0x8C1A
def glTextureCubeMap : UInt32 := 0x8513
def glTexture3d : UInt32 := 0x806F
def glFramebuffer : UInt32 := 0x8D40
def glReadFramebuffer : UInt32 := 0x8CA8
def glDrawFramebuffer : UInt32 := 0x8CA9
def glBlend : UInt32 := 0x0BE2
def glDepthTest : UInt32 := 0x0B71
def glCullFace : UInt32 := 0x0B44
def glScissorTest : UInt32 := 0x0C11
def glStencilTest : UInt32 := 0x0B90
def glDither : UInt32 := 0x0BD0
def glPolygonOffsetFill : UInt32 := 0x8037
def glSampleAlphaToCoverage : UInt32 := 0x809E
def glSampleCoverage : UInt32 := 0x80A0
def glPrimitiveRestartFixedIndex : UInt32 := 0x8D69
def glLess : UInt32 := 0x0201
def glCcw : UInt32 := 0x0901
def glFuncAdd : UInt32 := 0x8006
def glOne : UInt32 := 1
def glZero : UInt32 := 0
def glTrue : UInt32 := 1
def glFalse : UInt32 := 0

/-- `==` on `GLfloat`, by the encodings: a NaN equals nothing, the zeros are equal. -/
def floatEq (left right : UInt32) : Bool :=
  let isNan (bits : UInt32) := 0x7F800000 < bits &&& 0x7FFFFFFF
  !isNan left && !isNan right && (left == right || (left ||| right) &&& 0x7FFFFFFF == 0)

/-! ## Fields -/

/-- The kinds of objects whose deletion is followed up in the stub's copy. -/
inductive ObjectKind where
  | texture
  | framebuffer
  | vertexArray
  | sampler
deriving DecidableEq, Repr

inductive Field where
  | activeTexture
  | texture (target : UInt32) (unit : Nat)
  | program
  | drawFramebuffer
  | readFramebuffer
  | vertexArray
  | sampler (unit : Nat)
  | viewport (index : Fin 4)
  | scissor (index : Fin 4)
  | colorMask (index : Fin 4)
  | depthRange (index : Fin 2)
  | depthFunc
  | depthMask
  | frontFace
  | blendEqRgb
  | blendEqAlpha
  | blendSrcRgb
  | blendDstRgb
  | blendSrcAlpha
  | blendDstAlpha
  | cap (name : UInt32)
deriving DecidableEq, Repr

namespace Field

def kind : Field → Option ObjectKind
  | .texture .. => some .texture
  | .drawFramebuffer | .readFramebuffer => some .framebuffer
  | .vertexArray => some .vertexArray
  | .sampler _ => some .sampler
  | _ => none

/-- GL keeps a value of the field for each draw buffer. Only `GL_BLEND` of the
capabilities has an indexed form. -/
def perBuffer : Field → Bool
  | .colorMask _ | .blendEqRgb | .blendEqAlpha | .blendSrcRgb | .blendDstRgb | .blendSrcAlpha
  | .blendDstAlpha | .cap _ => true
  | _ => false

/-- The value in a new context; those of the viewport and the scissor box come
from the surface. -/
def initial : Field → UInt32
  | .activeTexture => glTexture0
  | .colorMask _ | .depthMask => glTrue
  | .depthRange 1 => 0x3F800000
  | .depthFunc => glLess
  | .frontFace => glCcw
  | .blendEqRgb | .blendEqAlpha => glFuncAdd
  | .blendSrcRgb | .blendSrcAlpha => glOne
  | .blendDstRgb | .blendDstAlpha => glZero
  | .cap name => if name = glDither then glTrue else glFalse
  | _ => 0

def fromSurface : Field → Bool
  | .viewport _ | .scissor _ => true
  | _ => false

end Field

/-! ## Calls -/

/-- The entry points that set these fields, in the form that GL defines, with
the object deletions. The indexed blend calls reach GL through the generated
dispatchers. -/
inductive StateCall where
  | glActiveTexture (texture : UInt32)
  | glBindTexture (target texture : UInt32)
  | glDeleteTextures (textures : List UInt32)
  | glUseProgram (program : UInt32)
  | glLinkProgram (program : UInt32)
  | glDeleteProgram (program : UInt32)
  | glBindFramebuffer (target framebuffer : UInt32)
  | glDeleteFramebuffers (fbs : List UInt32)
  | glBindVertexArray (array : UInt32)
  | glDeleteVertexArrays (arrays : List UInt32)
  | glBindSampler (unit sampler : UInt32)
  | glDeleteSamplers (samplers : List UInt32)
  | glDeleteBuffers (buffers : List UInt32)
  | glDeleteRenderbuffers (rbs : List UInt32)
  | glViewport (x y w h : UInt32)
  | glScissor (x y width height : UInt32)
  | glEnable (cap : UInt32)
  | glDisable (cap : UInt32)
  | glEnablei (cap index : UInt32)
  | glDisablei (cap index : UInt32)
  | glColorMask (r g b a : UInt8)
  | glColorMaski (index : UInt32) (r g b a : UInt8)
  | glDepthFunc (func : UInt32)
  | glDepthMask (flag : UInt8)
  | glDepthRangef (n f : UInt32)
  | glFrontFace (mode : UInt32)
  | glBlendEquation (mode : UInt32)
  | glBlendEquationSeparate (modeRgb modeAlpha : UInt32)
  | glBlendEquationSeparatei (index modeRgb modeAlpha : UInt32)
  | glBlendFunc (sfactor dfactor : UInt32)
  | glBlendFuncSeparate (srcRgb dstRgb srcAlpha dstAlpha : UInt32)
  | glBlendFuncSeparatei (index srcRgb dstRgb srcAlpha dstAlpha : UInt32)

/-- What a call that GL accepts does to the fields: it gives them values for all
draw buffers or for one, or the bindings of deleted objects go back to 0. -/
inductive Effect where
  | set (writes : List (Field × UInt32))
  | setAt (buffer : Nat) (writes : List (Field × UInt32))
  | unbind (kind : ObjectKind) (names : List UInt32)
  | nothing

def colorMasks (r g b a : UInt8) : List (Field × UInt32) :=
  [(.colorMask 0, r.toUInt32), (.colorMask 1, g.toUInt32), (.colorMask 2, b.toUInt32),
    (.colorMask 3, a.toUInt32)]

def blendEquations (modeRgb modeAlpha : UInt32) : List (Field × UInt32) :=
  [(.blendEqRgb, modeRgb), (.blendEqAlpha, modeAlpha)]

def blendFactors (srcRgb dstRgb srcAlpha dstAlpha : UInt32) : List (Field × UInt32) :=
  [(.blendSrcRgb, srcRgb), (.blendDstRgb, dstRgb), (.blendSrcAlpha, srcAlpha),
    (.blendDstAlpha, dstAlpha)]

/-- The effect of a call; `active` is the active texture unit. -/
def StateCall.effect (active : UInt32) : StateCall → Effect
  | glActiveTexture texture => .set [(.activeTexture, texture)]
  | glBindTexture target texture => .set [(.texture target (active - glTexture0).toNat, texture)]
  | glDeleteTextures textures => .unbind .texture textures
  | glUseProgram program => .set [(.program, program)]
  | glBindFramebuffer target framebuffer =>
      if target = glFramebuffer then
        .set [(.drawFramebuffer, framebuffer), (.readFramebuffer, framebuffer)]
      else if target = glDrawFramebuffer then .set [(.drawFramebuffer, framebuffer)]
      else if target = glReadFramebuffer then .set [(.readFramebuffer, framebuffer)]
      else .nothing
  | glDeleteFramebuffers fbs => .unbind .framebuffer fbs
  | glBindVertexArray array => .set [(.vertexArray, array)]
  | glDeleteVertexArrays arrays => .unbind .vertexArray arrays
  | glBindSampler unit sampler => .set [(.sampler unit.toNat, sampler)]
  | glDeleteSamplers samplers => .unbind .sampler samplers
  | glViewport x y w h =>
      .set [(.viewport 0, x), (.viewport 1, y), (.viewport 2, w), (.viewport 3, h)]
  | glScissor x y width height =>
      .set [(.scissor 0, x), (.scissor 1, y), (.scissor 2, width), (.scissor 3, height)]
  | glEnable cap => .set [(.cap cap, glTrue)]
  | glDisable cap => .set [(.cap cap, glFalse)]
  | glEnablei cap index => .setAt index.toNat [(.cap cap, glTrue)]
  | glDisablei cap index => .setAt index.toNat [(.cap cap, glFalse)]
  | glColorMask r g b a => .set (colorMasks r g b a)
  | glColorMaski index r g b a => .setAt index.toNat (colorMasks r g b a)
  | glDepthFunc func => .set [(.depthFunc, func)]
  | glDepthMask flag => .set [(.depthMask, flag.toUInt32)]
  | glDepthRangef n f => .set [(.depthRange 0, n), (.depthRange 1, f)]
  | glFrontFace mode => .set [(.frontFace, mode)]
  | glBlendEquation mode => .set (blendEquations mode mode)
  | glBlendEquationSeparate modeRgb modeAlpha => .set (blendEquations modeRgb modeAlpha)
  | glBlendEquationSeparatei index modeRgb modeAlpha =>
      .setAt index.toNat (blendEquations modeRgb modeAlpha)
  | glBlendFunc sfactor dfactor => .set (blendFactors sfactor dfactor sfactor dfactor)
  | glBlendFuncSeparate srcRgb dstRgb srcAlpha dstAlpha =>
      .set (blendFactors srcRgb dstRgb srcAlpha dstAlpha)
  | glBlendFuncSeparatei index srcRgb dstRgb srcAlpha dstAlpha =>
      .setAt index.toNat (blendFactors srcRgb dstRgb srcAlpha dstAlpha)
  | glLinkProgram _ | glDeleteProgram _ | glDeleteBuffers _ | glDeleteRenderbuffers _ => .nothing

/-- The effect gives the field a value, in some draw buffer at least. -/
def Effect.Touches (field : Field) : Effect → Prop
  | .set writes => (writes.lookup field).isSome = true
  | .setAt _ writes => (writes.lookup field).isSome = true
  | .unbind kind _ => field.kind = some kind
  | .nothing => False

/-! ## Contexts -/

/-- What a driver makes of the value it is given for a field: it clamps a
viewport, takes any boolean other than 0 for true. Depths are numbers, so that
equal floats are the same depth; names are kept as they are. -/
structure Driver where
  stores : Field → UInt32 → UInt32
  depth : ∀ index left right, floatEq left right = true →
    stores (.depthRange index) left = stores (.depthRange index) right
  active : ∀ value, stores .activeTexture value = value
  name : ∀ field value, field.kind.isSome = true → stores field value = value

/-- A driver that keeps what it is given, but for the sign of a depth of 0. -/
def Driver.plain : Driver where
  stores
    | .depthRange _, value => if value &&& 0x7FFFFFFF = 0 then 0 else value
    | _, value => value
  depth index left right same := by
    simp only [floatEq, Bool.and_eq_true, Bool.or_eq_true, beq_iff_eq] at same
    rcases same.2 with rfl | zeros
    · rfl
    · have split : (left ||| right) &&& 0x7FFFFFFF = (left &&& 0x7FFFFFFF) ||| (right &&& 0x7FFFFFFF) :=
        UInt32.toBitVec_inj.mp (by simp [BitVec.and_or_distrib_right])
      rw [split, UInt32.or_eq_zero_iff] at zeros
      exact (if_pos zeros.1).trans (if_pos zeros.2).symm
  active _ := rfl
  name field value named := by
    cases field <;> first | rfl | cases named

/-- The fields of a context, for each draw buffer. -/
abbrev GLContext := Field → Nat → UInt32

namespace GLContext

variable (driver : Driver) (context : GLContext)

/-- A context as it is created. -/
def Initial : Prop :=
  ∀ field buffer, field.fromSurface = false → context field buffer = driver.stores field field.initial

/-- A new context whose surface is empty. -/
def new : GLContext := fun field _ => driver.stores field field.initial

def assign (writes : List (Field × UInt32)) (field : Field) (former : UInt32) : UInt32 :=
  match writes.lookup field with
  | some value => driver.stores field value
  | none => former

def apply : Effect → GLContext
  | .set writes => fun field buffer => assign driver writes field (context field buffer)
  | .setAt at_ writes => fun field buffer =>
      if buffer = at_ then assign driver writes field (context field buffer) else context field buffer
  | .unbind kind names => fun field buffer =>
      if field.kind = some kind ∧ context field buffer ∈ names then 0 else context field buffer
  | .nothing => context

def perform (call : StateCall) : GLContext :=
  context.apply driver (call.effect (context .activeTexture 0))

variable {driver} {context}

theorem apply_of_not_touches {effect : Effect} {field : Field} (apart : ¬ effect.Touches field) :
    context.apply driver effect field = context field := by
  funext buffer
  cases effect with
  | set writes =>
      have absent : writes.lookup field = none := Option.not_isSome_iff_eq_none.mp apart
      simp [apply, assign, absent]
  | setAt at_ writes =>
      have absent : writes.lookup field = none := Option.not_isSome_iff_eq_none.mp apart
      simp [apply, assign, absent]
  | unbind kind names => simp_all [apply, Effect.Touches]
  | nothing => rfl

end GLContext

end GlesBridge.Gl
