import GlesBridge.Data.Overlay
import GlesBridge.Stub.Packing

namespace GlesBridge.Stub

open GlesBridge.Data GlesBridge.Shared

/-! What an entry point fills in of its slot, and what it reads of it when the call is
over. -/

/-- The fields of `BridgeCtrl` besides `args`. -/
inductive SlotField where
  | opcode | needsResponse | argsLen | dataOffset | dataSize | data2Offset | data2Size | result
  | resultBufLen | clientPid | dataWatermark | dataWatermarkValid | targetCtx
deriving DecidableEq, Repr

namespace SlotField

/-- The first byte of a field. -/
def start : SlotField → Nat
  | .opcode => 0
  | .needsResponse => 4
  | .argsLen => 264
  | .dataOffset => 268
  | .dataSize => 272
  | .data2Offset => 276
  | .data2Size => 280
  | .result => 288
  | .resultBufLen => 296
  | .clientPid => 304
  | .dataWatermark => 312
  | .dataWatermarkValid => 320
  | .targetCtx => 324

def size : SlotField → Nat
  | .dataWatermarkValid => 1
  | .result | .dataWatermark => 8
  | _ => 4

def covers (field : SlotField) (index : Nat) : Bool :=
  decide (field.start ≤ index) && decide (index < field.start + field.size)

def places (field : SlotField) : List Nat := List.range' field.start field.size

end SlotField

/-- The first byte of `args`. -/
abbrev argsStart : Nat := 8

/-- A call, with what it does not depend on the slot for. -/
structure SlotCall where
  command : Command
  lists : ArgLists
  /-- `attrib_list` has attributes. -/
  attributes : Bool
  /-- How many bytes of the result the return type of a generated dispatcher keeps;
  `void` keeps none. -/
  kept : Fin 9
  /-- What is written, each byte at its place in the slot. -/
  bytes : Nat → UInt8

/-! ## Before the call -/

/-- `bridge_begin`; `wl_bridge_begin` leaves the one slot of its channel as it is. -/
def beginFields : Command → List SlotField
  | .wl _ => []
  | _ => [.clientPid, .targetCtx, .dataWatermark, .dataWatermarkValid, .resultBufLen]

/-- What every command sets, up to `publish_cur`. -/
def frameFields (command : Command) : List SlotField :=
  beginFields command ++ [.opcode, .needsResponse]

/-- `setup_scalar`, and most of the entry points that do without it. -/
def setupFields : List SlotField := [.dataOffset, .dataSize, .data2Offset, .data2Size]

def Gles2Stub.dataFields : Gles2Stub → List SlotField
  | .glDeleteRenderbuffers => []
  | .glDeleteBuffers | .glDeleteFramebuffers | .glGenBuffers | .glGenFramebuffers
  | .glGenRenderbuffers | .glShaderSource => [.dataOffset, .dataSize]
  | _ => setupFields

def Gles32Stub.dataFields : Gles32Stub → List SlotField
  | .glGetFragDataLocation | .glGetInteger64v | .glGetStringi | .glTexStorage2D => []
  | .glTexImage3D => [.dataOffset, .dataSize]
  | _ => setupFields

def EglStub.dataFields (attributes : Bool) : EglStub → List SlotField
  | .eglCreatePbufferSurface | .eglCreatePixmapSurface =>
      if attributes then [.dataOffset, .dataSize] else []
  | .eglCreateContext => [.dataOffset, .dataSize]
  | _ => setupFields

def WlMessage.dataFields : WlMessage → List SlotField
  | .wlDisplayDisconnect => setupFields
  | _ => [.dataOffset, .dataSize]

def Command.dataFields (attributes : Bool) : Command → List SlotField
  | .gles2 function => function.dataFields
  | .gles32 function => function.dataFields
  | .egl function => function.dataFields attributes
  | .glFlushMappedBufferRange | .wlEgl _ => setupFields
  | .wl message => message.dataFields
  | .invokeDynamic _ _ | .invokeDynamicEgl _ _ => []

def argsLenFields : Command → List SlotField
  | .gles32 .glDebugMessageCallback => []
  | _ => [.argsLen]

namespace SlotCall

/-- The fields that are set when the command is sent. -/
def setFields (call : SlotCall) : List SlotField :=
  frameFields call.command ++ call.command.dataFields call.attributes ++
    argsLenFields call.command

/-- The bytes written, with those of arguments past the end of `args`. -/
def written (call : SlotCall) (index : Nat) : Bool :=
  call.setFields.any (·.covers index) ||
    (decide (argsStart ≤ index) &&
      decide (index < argsStart + (call.command.writes call.lists).sum))

/-- The slot when the command is sent, and what stands behind it. -/
def sent (call : SlotCall) (stale : Nat → UInt8) : Nat → UInt8 :=
  overlay call.written call.bytes stale

/-- Whether the command is sent at all. -/
def sends (call : SlotCall) : Bool :=
  match call.command with
  | .invokeDynamic idx _ | .invokeDynamicEgl idx _ => decide (idx ≠ 0)
  | command => command.publishes call.lists

end SlotCall

/-! ## After the call -/

def Gles2Stub.returnsResult : Gles2Stub → Bool
  | .glCheckFramebufferStatus | .glCreateProgram | .glCreateShader | .glGetActiveAttrib
  | .glGetActiveUniform | .glGetAttachedShaders | .glGetAttribLocation | .glGetError
  | .glGetFramebufferAttachmentParameteriv | .glGetProgramInfoLog | .glGetProgramiv
  | .glGetRenderbufferParameteriv | .glGetShaderInfoLog | .glGetShaderSource | .glGetShaderiv
  | .glGetUniformLocation | .glGetVertexAttribPointerv | .glIsBuffer | .glIsEnabled
  | .glIsFramebuffer | .glIsProgram | .glIsRenderbuffer | .glIsShader | .glIsTexture => true
  | _ => false

def Gles32Stub.returnsResult : Gles32Stub → Bool
  | .glClientWaitSync | .glGetFragDataLocation | .glGetUniformBlockIndex | .glIsEnabledi
  | .glIsQuery | .glIsSampler | .glIsSync | .glIsTransformFeedback | .glIsVertexArray
  | .glMapBufferRange | .glUnmapBuffer => true
  | _ => false

def EglStub.returnsResult : EglStub → Bool
  | .eglCreatePbufferFromClientBuffer | .eglQueryString => false
  | _ => true

def WlEglStub.returnsResult : WlEglStub → Bool
  | .wlEglWindowCreate => true
  | _ => false

/-- The messages sent with `bridge_send_call_wl`. -/
def WlMessage.returnsResult : WlMessage → Bool
  | .wlDisplayConnect | .wlDisplayDisconnect | .wlCompositorCreateSurface | .wlGetKeymap
  | .wlShellGetShellSurface | .wlWebosShellGetShellSurface => true
  | _ => false

def Command.returnsResult : Command → Bool
  | .gles2 function => function.returnsResult
  | .gles32 function => function.returnsResult
  | .egl function => function.returnsResult
  | .wlEgl function => function.returnsResult
  | .wl message => message.returnsResult
  | .glFlushMappedBufferRange => false
  -- as its prototype has it
  | .invokeDynamic _ _ | .invokeDynamicEgl _ _ => true

/-- The other fields that are read after the handler. -/
def Command.readBack : Command → List SlotField
  | .wl .wlGetKeymap => [.dataOffset, .dataSize]
  | .wl _ => []
  | .gles2 .glGetAttachedShaders | .gles2 .glGetShaderInfoLog | .gles2 .glGetShaderSource
  | .gles32 .glMapBufferRange => [.resultBufLen, .dataOffset]
  | _ => [.resultBufLen]

namespace SlotCall

/-- The bytes of `result` that the value of the entry point depends on. -/
def resultBytes (call : SlotCall) : Nat :=
  match call.command with
  | .invokeDynamic _ _ | .invokeDynamicEgl _ _ => call.kept
  | command => if command.returnsResult then 8 else 0

/-- The places that are read, in their order. -/
def returnReads (call : SlotCall) : List Nat :=
  List.range' SlotField.result.start call.resultBytes ++
    call.command.readBack.flatMap SlotField.places

end SlotCall

end GlesBridge.Stub
