import GlesBridge.Proxy.Decoding
import GlesBridge.Stub.SlotFields

namespace GlesBridge.Proxy

open GlesBridge.Data GlesBridge.Shared GlesBridge.Stub

/-! What the dispatch loops and the handlers read of a slot, and what they store in it. -/

/-! ## Reading -/

/-- The dispatch loop, and that of the Wayland thread. -/
def loopReads : Command → List SlotField
  | .wl _ => [.opcode, .needsResponse]
  | _ => [.opcode, .targetCtx, .dataWatermarkValid, .dataWatermark, .needsResponse]

/-- `ar_init` copies the length. -/
def lengthReads : Command → List SlotField
  | .gles32 .glDebugMessageCallback => []
  | _ => [.argsLen]

/-- The handlers that note who owns what they make. -/
def ownerReads : Command → List SlotField
  | .egl .eglGetPlatformDisplayEXT | .egl .eglGetDisplay | .egl .eglGetConfigs
  | .egl .eglChooseConfig | .egl .eglCreateWindowSurface
  | .egl .eglCreatePlatformWindowSurfaceEXT | .egl .eglCreatePbufferSurface
  | .egl .eglCreatePixmapSurface | .egl .eglCreateContext | .wlEgl .wlEglWindowCreate
  | .wl .wlCompositorCreateSurface | .wl .wlShellGetShellSurface
  | .wl .wlWebosShellGetShellSurface => [.clientPid]
  | _ => []

def gles2DataReads : Gles2Stub → List SlotField
  | .glShaderBinary => [.dataOffset, .data2Offset]
  | .glBindAttribLocation | .glBufferSubData | .glCompressedTexImage2D
  | .glCompressedTexSubImage2D | .glDeleteBuffers | .glDeleteFramebuffers | .glDeleteTextures
  | .glGenBuffers | .glGenFramebuffers | .glGenRenderbuffers | .glGenTextures
  | .glGetActiveAttrib | .glGetActiveUniform | .glGetAttachedShaders | .glGetAttribLocation
  | .glGetBooleanv | .glGetBufferParameteriv | .glGetFloatv | .glGetIntegerv
  | .glGetProgramInfoLog | .glGetShaderInfoLog | .glGetShaderPrecisionFormat | .glGetShaderSource
  | .glGetTexParameterfv | .glGetTexParameteriv | .glGetUniformLocation | .glGetUniformfv
  | .glGetUniformiv | .glGetVertexAttribfv | .glGetVertexAttribiv | .glTexParameterfv
  | .glTexParameteriv | .glUniform1fv | .glUniform1iv | .glUniform2fv | .glUniform2iv
  | .glUniform3fv | .glUniform3iv | .glUniform4fv | .glUniform4iv | .glUniformMatrix2fv
  | .glUniformMatrix3fv | .glUniformMatrix4fv | .glVertexAttrib1fv | .glVertexAttrib2fv
  | .glVertexAttrib3fv | .glVertexAttrib4fv => [.dataOffset]
  | .glBufferData | .glReadPixels | .glTexImage2D => [.dataOffset, .dataSize]
  | .glDrawArrays => [.data2Offset, .data2Size]
  | .glDrawElements => [.dataOffset, .dataSize, .data2Offset, .data2Size]
  | .glTexSubImage2D => [.dataOffset, .data2Offset, .data2Size]
  | _ => []

def gles32DataReads : Gles32Stub → List SlotField
  | .glCompressedTexImage3D | .glCompressedTexSubImage3D | .glDebugMessageControl
  | .glDeleteQueries | .glDeleteSamplers | .glDeleteTransformFeedbacks | .glDeleteVertexArrays
  | .glGetActiveUniformsiv | .glGetProgramBinary | .glGetUniformBlockIndex | .glGetUniformIndices
  | .glInvalidateFramebuffer | .glInvalidateSubFramebuffer | .glMapBufferRange
  | .glSamplerParameterfv | .glSamplerParameteriv | .glTexImage3D | .glTexParameterIiv
  | .glTexParameterIuiv | .glTransformFeedbackVaryings | .glUniform1uiv | .glUniform2uiv
  | .glUniform3uiv | .glUniform4uiv | .glUniformMatrix2x3fv | .glUniformMatrix2x4fv
  | .glUniformMatrix3x2fv | .glUniformMatrix3x4fv | .glUniformMatrix4x2fv | .glUniformMatrix4x3fv
  | .glVertexAttribI4iv | .glVertexAttribI4uiv => [.dataOffset]
  | .glBindBufferRange | .glCreateShaderProgramv | .glDebugMessageInsert
  | .glDrawElementsInstanced | .glGetProgramResourceIndex | .glGetProgramResourceLocation
  | .glGetProgramResourceiv | .glObjectPtrLabel | .glProgramBinary | .glPushDebugGroup
  | .glUnmapBuffer => [.dataOffset, .dataSize]
  | .glDrawElementsBaseVertex | .glTexSubImage3D =>
      [.dataOffset, .dataSize, .data2Offset, .data2Size]
  | _ => []

/-- `attr_sz` is 0 where the caller gives no attributes. -/
def eglDataReads (attributes : Bool) : EglStub → List SlotField
  | .eglChooseConfig => [.dataOffset, .data2Offset]
  | .eglGetConfigs => [.dataOffset]
  | .eglCreateContext | .eglCreatePbufferSurface | .eglCreatePixmapSurface
  | .eglCreatePlatformWindowSurfaceEXT | .eglCreateWindowSurface =>
      if attributes then [.dataOffset] else []
  | _ => []

def wlDataReads : WlMessage → List SlotField
  | .wlWebosSetProperty => [.dataOffset]
  | _ => []

def dataReads (attributes : Bool) : Command → List SlotField
  | .gles2 function => gles2DataReads function
  | .gles32 function => gles32DataReads function
  | .egl function => eglDataReads attributes function
  | .glFlushMappedBufferRange => [.dataOffset]
  | .wl message => wlDataReads message
  | .wlEgl _ | .invokeDynamic _ _ | .invokeDynamicEgl _ _ => []

def readFields (call : SlotCall) : List SlotField :=
  loopReads call.command ++ lengthReads call.command ++ ownerReads call.command ++
    dataReads call.attributes call.command

/-- How many bytes of `args`, and behind it, a handler looks at. -/
def readArgs (call : SlotCall) : Nat :=
  (sizesOf (reads call.lists call.command).flatten).sum + nameSpan call.lists call.command

def looksAt (call : SlotCall) (index : Nat) : Bool :=
  (readFields call).any (·.covers index) ||
    (decide (argsStart ≤ index) && decide (index < argsStart + readArgs call))

/-! ## Storing -/

def gles2Results : Gles2Stub → Bool
  | .glCheckFramebufferStatus | .glCreateProgram | .glCreateShader | .glDeleteRenderbuffers
  | .glFinish | .glGenBuffers | .glGenFramebuffers | .glGenRenderbuffers | .glGenTextures
  | .glGetActiveAttrib | .glGetActiveUniform | .glGetAttachedShaders | .glGetAttribLocation
  | .glGetBooleanv | .glGetBufferParameteriv | .glGetError | .glGetFloatv
  | .glGetFramebufferAttachmentParameteriv | .glGetIntegerv | .glGetProgramInfoLog
  | .glGetProgramiv | .glGetRenderbufferParameteriv | .glGetShaderInfoLog
  | .glGetShaderPrecisionFormat | .glGetShaderSource | .glGetShaderiv | .glGetString
  | .glGetTexParameterfv | .glGetTexParameteriv | .glGetUniformLocation | .glGetUniformfv
  | .glGetUniformiv | .glGetVertexAttribPointerv | .glGetVertexAttribfv | .glGetVertexAttribiv
  | .glIsBuffer | .glIsEnabled | .glIsFramebuffer | .glIsProgram | .glIsRenderbuffer
  | .glIsShader | .glIsTexture | .glReadPixels => true
  | _ => false

def gles32Results : Gles32Stub → Bool
  | .glActiveShaderProgram | .glBindImageTexture | .glBindProgramPipeline | .glBlendBarrier
  | .glClearBufferfi | .glClearBufferfv | .glClearBufferiv | .glClearBufferuiv
  | .glClientWaitSync | .glCopyImageSubData | .glCreateShaderProgramv | .glDebugMessageInsert
  | .glDeleteProgramPipelines | .glDispatchCompute | .glDispatchComputeIndirect
  | .glDrawArraysIndirect | .glDrawBuffers | .glDrawElementsBaseVertex | .glDrawElementsIndirect
  | .glDrawElementsInstancedBaseVertex | .glDrawRangeElements | .glDrawRangeElementsBaseVertex
  | .glFramebufferTexture | .glGenProgramPipelines | .glGetBufferParameteri64v
  | .glGetBufferPointerv | .glGetDebugMessageLog | .glGetFragDataLocation
  | .glGetGraphicsResetStatus | .glGetInteger64i_v | .glGetInteger64v | .glGetIntegeri_v
  | .glGetInternalformativ | .glGetObjectLabel | .glGetObjectPtrLabel | .glGetPointerv
  | .glGetProgramBinary | .glGetProgramInterfaceiv | .glGetProgramPipelineInfoLog
  | .glGetProgramResourceIndex | .glGetProgramResourceLocation | .glGetProgramResourceName
  | .glGetProgramResourceiv | .glGetSamplerParameterIiv | .glGetSamplerParameterIuiv
  | .glGetStringi | .glGetUniformBlockIndex | .glGetnUniformfv | .glGetnUniformiv
  | .glGetnUniformuiv | .glIsEnabledi | .glIsProgramPipeline | .glIsQuery | .glIsSampler
  | .glIsSync | .glIsTransformFeedback | .glIsVertexArray | .glMapBufferRange | .glMemoryBarrier
  | .glMemoryBarrierByRegion | .glMinSampleShading | .glObjectPtrLabel | .glPatchParameteri
  | .glPopDebugGroup | .glPrimitiveBoundingBox | .glProgramBinary | .glProgramParameteri
  | .glPushDebugGroup | .glReadBuffer | .glReadnPixels | .glSamplerParameterIiv
  | .glSamplerParameterIuiv | .glTexBuffer | .glTexBufferRange | .glTexStorage2D
  | .glTexStorage2DMultisample | .glTexStorage3DMultisample | .glUniformMatrix2x3fv
  | .glUniformMatrix2x4fv | .glUniformMatrix3x2fv | .glUniformMatrix3x4fv | .glUniformMatrix4x2fv
  | .glUniformMatrix4x3fv | .glUnmapBuffer | .glUseProgramStages | .glValidateProgramPipeline =>
      true
  | _ => false

/-- Whether a handler stores `result` on all its paths.  The one of the dispatchers gives
up where the driver does not have the function. -/
def storesResult (resolved : Bool) (call : SlotCall) : Bool :=
  match call.command with
  | .gles2 function => gles2Results function
  | .gles32 function => gles32Results function
  | .egl _ | .wl _ | .wlEgl .wlEglWindowCreate => true
  | .glFlushMappedBufferRange | .wlEgl _ => false
  | .invokeDynamic _ _ | .invokeDynamicEgl _ _ => resolved && decide (call.kept ≠ 0)

def storedFields (resolved : Bool) (call : SlotCall) : List SlotField :=
  (if storesResult resolved call then [.result] else []) ++
    match call.command with
    | .wl .wlGetKeymap => [.dataOffset, .dataSize]
    | _ => []

/-! ## One call -/

/-- What a handler does. -/
structure HandlerReply (Effect : Type) where
  /-- Its calls of the driver, and what it leaves outside the slot. -/
  effect : Effect
  bytes : Nat → UInt8
  /-- It sets `result_buf_len`. -/
  setsLength : Bool

/-- The handlers and the driver, in a state of the proxy. -/
structure SlotProxy (World Effect : Type) where
  handle : Command → (Nat → Option UInt8) → World → HandlerReply Effect
  /-- `eglGetProcAddress` has the function of a dispatcher. -/
  resolves : World → Command → Bool

variable {World Effect : Type}

def HandlerReply.stored (reply : HandlerReply Effect) (resolved : Bool) (call : SlotCall)
    (index : Nat) : Bool :=
  (storedFields resolved call).any (·.covers index) ||
    (reply.setsLength && SlotField.resultBufLen.covers index)

/-- The slot when the handler is done. -/
def HandlerReply.answered (reply : HandlerReply Effect) (resolved : Bool) (call : SlotCall)
    (slot : Nat → UInt8) : Nat → UInt8 :=
  overlay (reply.stored resolved call) reply.bytes slot

namespace SlotProxy

def reply (proxy : SlotProxy World Effect) (call : SlotCall) (world : World)
    (slot : Nat → UInt8) : HandlerReply Effect :=
  proxy.handle call.command (masked (looksAt call) slot) world

/-- A call in a slot that holds other bytes: what the proxy does, and what the entry
point reads for its value.  `none` where no command is sent. -/
def runInSlot (proxy : SlotProxy World Effect) (call : SlotCall) (world : World)
    (stale : Nat → UInt8) : Option (Effect × List UInt8) :=
  if call.sends then
    let reply := proxy.reply call world (call.sent stale)
    some (reply.effect, call.returnReads.map
      (reply.answered (proxy.resolves world call.command) call (call.sent stale)))
  else none

end SlotProxy

end GlesBridge.Proxy
