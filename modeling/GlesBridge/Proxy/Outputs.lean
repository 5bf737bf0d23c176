import GlesBridge.Gl.Queries
import GlesBridge.Proxy.Handles
import GlesBridge.Proxy.ReadPixels
import GlesBridge.Stub.Outputs

namespace GlesBridge.Proxy

open GlesBridge.Data GlesBridge.Gl GlesBridge.Stub

/-! What the handlers, and the drivers they call, put into the arena. -/

/-- What the driver has for a call, and its pack state. -/
structure OutputAnswer where
  /-- It does not refuse the call. -/
  accepts : Bool
  /-- The length of a text without its terminator, or of a program binary. -/
  stored : Nat
  /-- The number of values of a state variable, shaders of a program or configs. -/
  found : Nat
  /-- Those of a uniform: a matrix has at most 16. -/
  components : Nat
  componentsBound : components ≤ 16
  store : PixelStore
  /-- The pixel as it packs it. -/
  pixel : Option PixelFormat

/-- Bytes from the pointer on. -/
def line (bytes : Nat) : Strided := { Strided.nothing with rowBytes := bytes, rows := 1, images := 1 }

namespace OutputAnswer

variable (answer : OutputAnswer)

def ifAccepted (bytes : Nat) : Strided := line (if answer.accepts then bytes else 0)

def names (n : Int32) : Strided := answer.ifAccepted (n.toNatClampNeg * 4)

/-- A text cut off to the size, terminator included. -/
def textBytes (bufSize : Int32) : Strided :=
  answer.ifAccepted (min (answer.stored + 1) bufSize.toNatClampNeg)

/-- A binary that does not fit is an error. -/
def binaryBytes (bufSize : Int32) : Strided :=
  answer.ifAccepted (if answer.stored ≤ bufSize.toNatClampNeg then answer.stored else 0)

end OutputAnswer

/-- `num` behind an array that takes `cfg_sz` configs, or as many as the handler's own. -/
def configCount (answer : OutputAnswer) (cfgSz : Int32) : Nat :=
  if answer.accepts then min answer.found (min cfgSz.toNatClampNeg eglBridgeMaxConfigs) else 0

/-- The places that are written, counted from the pointer. -/
def written (answer : OutputAnswer) (dataSize : UInt32) : OutputCall → Strided
  | .glGenTextures n | .glGenBuffers n _ | .glGenFramebuffers n _ | .glGenRenderbuffers n _ =>
      answer.names n
  | .glGetTexParameterfv pname =>
      answer.ifAccepted (if pname = glTextureBorderColor then 16 else 4)
  -- the driver fills an array of the handler
  | .glGetTexParameteriv pname => line (if pname = glTextureBorderColor then 16 else 4)
  | .glGetBufferParameteriv => line 4
  -- `dp` is `NULL` for no offset
  | .glGetShaderInfoLog size _ | .glGetShaderSource size _ =>
      if 0 < size then answer.textBytes size else .nothing
  | .glGetShaderPrecisionFormat => line 12
  | .glGetProgramInfoLog bufsz | .glGetActiveUniform bufsz | .glGetActiveAttrib bufsz =>
      answer.textBytes bufsz
  | .glGetAttachedShaders max _ =>
      if 0 < max then answer.ifAccepted (min answer.found max.toNatClampNeg * 4) else .nothing
  | .glGetUniformfv | .glGetUniformiv => answer.ifAccepted (answer.components * 4)
  | .glGetVertexAttribfv pname | .glGetVertexAttribiv pname =>
      answer.ifAccepted (if pname = glCurrentVertexAttrib then 16 else 4)
  | .glGetBooleanv => answer.ifAccepted answer.found
  | .glGetFloatv | .glGetIntegerv => answer.ifAccepted (answer.found * 4)
  -- without a size the pointer is none of the arena
  | .glReadPixels call _ =>
      if dataSize = 0 then .nothing else packBlock answer.store answer.pixel call
  | .glGetProgramBinary bufSize => answer.binaryBytes bufSize
  -- a `size_t` of 32 bits
  | .glMapBufferRange length access =>
      if access &&& glMapReadBit ≠ 0 then answer.ifAccepted length.toUInt64.toUInt32.toNat
      else .nothing
  | .eglGetConfigs _ cfgSz =>
      if 0 < cfgSz then line (configCount answer cfgSz * 4) else .nothing
  | .eglChooseConfig _ hasConfigs cfgSz =>
      if hasConfigs then line (configCount answer cfgSz * 4) else .nothing

/-- The offset behind the pointer: the second of the slot for `eglChooseConfig`. -/
def outputOffset (slot : OutputSlot) : OutputCall → UInt32
  | .eglChooseConfig .. => slot.data2Offset
  | _ => slot.dataOffset

/-- A place of the arena that is written. -/
def Writes (answer : OutputAnswer) (slot : OutputSlot) (call : OutputCall) (place : Nat) : Prop :=
  ∃ byte, (written answer slot.dataSize call).Has byte ∧ place = (outputOffset slot call).toNat + byte

end GlesBridge.Proxy
