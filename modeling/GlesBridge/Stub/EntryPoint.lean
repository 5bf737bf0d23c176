import GlesBridge.Ring.State
import GlesBridge.Systems.Flow

namespace GlesBridge.Stub

open GlesBridge.Ring GlesBridge.Systems

/-! The entry points of the stub libraries, as flows over the interface of
`bridge_core`.

Tests that guard no operation of the bridge are left out, and so are the paths
on which a debug build aborts.
-/

inductive BridgeOp where
  | begin
  | dataWrite
  | send (mode : SendMode)
  | dataRead
  deriving DecidableEq

/-- Whether a command has been begun and not sent. -/
inductive Phase where
  | outside
  | inside
  deriving DecidableEq

/-- A command is begun, filled in and sent once; results are read after it. -/
def bridgeProtocol : Protocol BridgeOp Phase where
  next
    | .outside, .begin => some .inside
    | .inside, .dataWrite => some .inside
    | .inside, .send _ => some .outside
    | .outside, .dataRead => some .outside
    | _, _ => none

def begin : Flow BridgeOp := .op .begin
def dataWrite : Flow BridgeOp := .op .dataWrite
def sendVoid : Flow BridgeOp := .op (.send .void)
def sendCall : Flow BridgeOp := .op (.send .call)
def sendSwap : Flow BridgeOp := .op (.send .swap)
def dataRead : Flow BridgeOp := .op .dataRead

/-- A test before `bridge_begin` that returns: cached state, an invalid argument,
a result that is known already. -/
def early : Flow BridgeOp := .opt .ret

/-! ## Shared helpers -/

def stubVboPiggybackRange : Flow BridgeOp :=
  .loop (.block [.opt .cont, .loop (.block [.opt .cont, .opt .brk, .opt .brk, .opt .brk,
    .opt .brk, .opt .brk, dataWrite, .ret])])

def stubUnpackPiggyback : Flow BridgeOp :=
  .block [.opt .ret, .loop (.block [.opt .cont, .opt .ret, dataWrite, .ret])]

def sendInvalidateFramebuffer : Flow BridgeOp :=
  .block [begin, .opt dataWrite, sendVoid]

def eglCreateWindowSurface : Flow BridgeOp :=
  .block [begin, .opt dataWrite, sendCall]

/-! ## `gles2_stub.c` -/

inductive Gles2Stub where
  | glActiveTexture | glAttachShader | glBindAttribLocation | glBindBuffer | glBindFramebuffer
  | glBindRenderbuffer | glBindTexture | glBlendColor | glBlendEquation | glBlendEquationSeparate
  | glBlendFunc | glBlendFuncSeparate | glBufferData | glBufferSubData | glCheckFramebufferStatus
  | glClear | glClearColor | glClearDepthf | glClearStencil | glColorMask | glCompileShader
  | glCompressedTexImage2D | glCompressedTexSubImage2D | glCopyTexImage2D | glCopyTexSubImage2D
  | glCreateProgram | glCreateShader | glCullFace | glDeleteBuffers | glDeleteFramebuffers
  | glDeleteProgram | glDeleteRenderbuffers | glDeleteShader | glDeleteTextures | glDepthFunc
  | glDepthMask | glDepthRangef | glDetachShader | glDisable | glDisableVertexAttribArray
  | glDrawArrays | glDrawElements | glEnable | glEnableVertexAttribArray | glFinish | glFlush
  | glFramebufferRenderbuffer | glFramebufferTexture2D | glFrontFace | glGenBuffers
  | glGenFramebuffers | glGenRenderbuffers | glGenTextures | glGenerateMipmap | glGetActiveAttrib
  | glGetActiveUniform | glGetAttachedShaders | glGetAttribLocation | glGetBooleanv
  | glGetBufferParameteriv | glGetError | glGetFloatv | glGetFramebufferAttachmentParameteriv
  | glGetIntegerv | glGetProgramInfoLog | glGetProgramiv | glGetRenderbufferParameteriv
  | glGetShaderInfoLog | glGetShaderPrecisionFormat | glGetShaderSource | glGetShaderiv
  | glGetString | glGetTexParameterfv | glGetTexParameteriv | glGetUniformLocation
  | glGetUniformfv | glGetUniformiv | glGetVertexAttribPointerv | glGetVertexAttribfv
  | glGetVertexAttribiv | glHint | glIsBuffer | glIsEnabled | glIsFramebuffer | glIsProgram
  | glIsRenderbuffer | glIsShader | glIsTexture | glLineWidth | glLinkProgram | glPixelStorei
  | glPolygonOffset | glReadPixels | glReleaseShaderCompiler | glRenderbufferStorage
  | glSampleCoverage | glScissor | glShaderBinary | glShaderSource | glStencilFunc
  | glStencilFuncSeparate | glStencilMask | glStencilMaskSeparate | glStencilOp
  | glStencilOpSeparate | glTexImage2D | glTexParameterf | glTexParameterfv | glTexParameteri
  | glTexParameteriv | glTexSubImage2D | glUniform1f | glUniform1fv | glUniform1i | glUniform1iv
  | glUniform2f | glUniform2fv | glUniform2i | glUniform2iv | glUniform3f | glUniform3fv
  | glUniform3i | glUniform3iv | glUniform4f | glUniform4fv | glUniform4i | glUniform4iv
  | glUniformMatrix2fv | glUniformMatrix3fv | glUniformMatrix4fv | glUseProgram
  | glValidateProgram | glVertexAttrib1f | glVertexAttrib1fv | glVertexAttrib2f
  | glVertexAttrib2fv | glVertexAttrib3f | glVertexAttrib3fv | glVertexAttrib4f
  | glVertexAttrib4fv | glVertexAttribPointer | glViewport

def Gles2Stub.flow : Gles2Stub → Flow BridgeOp
  | .glAttachShader | .glBindRenderbuffer | .glBlendColor | .glClear | .glClearColor
  | .glClearDepthf | .glClearStencil | .glCompileShader | .glCopyTexImage2D | .glCopyTexSubImage2D
  | .glCullFace | .glDeleteProgram | .glDeleteShader | .glDetachShader
  | .glDisableVertexAttribArray | .glEnableVertexAttribArray | .glFlush
  | .glFramebufferRenderbuffer | .glFramebufferTexture2D | .glGenerateMipmap | .glHint
  | .glLineWidth | .glLinkProgram | .glPixelStorei | .glPolygonOffset | .glReleaseShaderCompiler
  | .glRenderbufferStorage | .glSampleCoverage | .glStencilFunc | .glStencilFuncSeparate
  | .glStencilMask | .glStencilMaskSeparate | .glStencilOp | .glStencilOpSeparate
  | .glTexParameterf | .glTexParameteri | .glUniform1f | .glUniform1i | .glUniform2f
  | .glUniform2i | .glUniform3f | .glUniform3i | .glUniform4f | .glUniform4i | .glValidateProgram
  | .glVertexAttrib1f | .glVertexAttrib2f | .glVertexAttrib3f | .glVertexAttrib4f
  | .glVertexAttribPointer => .block [begin, sendVoid]
  | .glBindAttribLocation | .glBufferSubData | .glDeleteBuffers | .glDeleteFramebuffers
  | .glDeleteTextures | .glTexParameterfv | .glTexParameteriv | .glUniform1fv | .glUniform1iv
  | .glUniform2fv | .glUniform2iv | .glUniform3fv | .glUniform3iv | .glUniform4fv | .glUniform4iv
  | .glUniformMatrix2fv | .glUniformMatrix3fv | .glUniformMatrix4fv | .glVertexAttrib1fv
  | .glVertexAttrib2fv | .glVertexAttrib3fv | .glVertexAttrib4fv =>
      .block [begin, dataWrite, sendVoid]
  | .glActiveTexture | .glBindBuffer | .glBindFramebuffer | .glBindTexture | .glBlendEquation
  | .glBlendEquationSeparate | .glBlendFunc | .glBlendFuncSeparate | .glColorMask
  | .glDeleteRenderbuffers | .glDepthFunc | .glDepthMask | .glDepthRangef | .glDisable | .glEnable
  | .glFrontFace | .glScissor | .glUseProgram | .glViewport => .block [early, begin, sendVoid]
  | .glCheckFramebufferStatus | .glCreateProgram | .glCreateShader | .glFinish | .glGetError
  | .glGetFramebufferAttachmentParameteriv | .glGetProgramiv | .glGetRenderbufferParameteriv
  | .glGetShaderiv | .glGetVertexAttribPointerv | .glIsBuffer | .glIsEnabled | .glIsFramebuffer
  | .glIsProgram | .glIsRenderbuffer | .glIsShader | .glIsTexture => .block [begin, sendCall]
  | .glGenTextures | .glGetActiveAttrib | .glGetBooleanv | .glGetFloatv | .glGetIntegerv
  | .glGetProgramInfoLog | .glGetShaderPrecisionFormat | .glGetUniformfv | .glGetUniformiv
  | .glGetVertexAttribfv | .glGetVertexAttribiv => .block [begin, dataWrite, sendCall, dataRead]
  | .glBufferData | .glCompressedTexImage2D | .glCompressedTexSubImage2D | .glTexImage2D =>
      .block [begin, .opt dataWrite, sendVoid]
  | .glGetActiveUniform | .glGetBufferParameteriv | .glGetTexParameterfv | .glGetTexParameteriv =>
      .block [begin, dataWrite, sendCall, .opt dataRead]
  | .glGenBuffers | .glGenFramebuffers | .glGenRenderbuffers =>
      .block [early, begin, dataWrite, sendCall, dataRead]
  | .glGetAttachedShaders | .glGetShaderInfoLog | .glGetShaderSource =>
      .block [begin, .opt dataWrite, sendCall, .opt dataRead]
  | .glGetAttribLocation | .glGetUniformLocation => .block [early, begin, dataWrite, sendCall]
  | .glDrawArrays =>
      .block [begin, .loop (.block [.opt .cont, .opt .cont, .opt .cont, dataWrite]), .call
        stubVboPiggybackRange, sendVoid]
  | .glDrawElements =>
      .block [begin, .choice (.opt dataWrite) dataWrite, .opt (.loop (.block [.opt .cont,
        dataWrite])), .call stubVboPiggybackRange, sendVoid]
  | .glGetString => .block [early, begin, sendCall]
  | .glReadPixels =>
      .block [begin, .choice sendVoid (.block [dataWrite, sendCall, .opt dataRead])]
  | .glShaderBinary => .block [begin, dataWrite, dataWrite, sendVoid]
  | .glShaderSource => .block [begin, .loop (.opt dataWrite), sendVoid]
  | .glTexSubImage2D =>
      .block [begin, .choice (.call stubUnpackPiggyback) (.opt dataWrite), sendVoid]

/-! ## `gles3_2_stub.c` -/

inductive Gles32Stub where
  | glActiveShaderProgram | glBeginQuery | glBeginTransformFeedback | glBindBufferBase
  | glBindBufferRange | glBindImageTexture | glBindProgramPipeline | glBindSampler
  | glBindTransformFeedback | glBindVertexArray | glBlendBarrier | glBlitFramebuffer
  | glClearBufferfi | glClearBufferfv | glClearBufferiv | glClearBufferuiv | glClientWaitSync
  | glColorMaski | glCompressedTexImage3D | glCompressedTexSubImage3D | glCopyBufferSubData
  | glCopyImageSubData | glCopyTexSubImage3D | glCreateShaderProgramv | glDebugMessageCallback
  | glDebugMessageControl | glDebugMessageInsert | glDeleteProgramPipelines | glDeleteQueries
  | glDeleteSamplers | glDeleteSync | glDeleteTransformFeedbacks | glDeleteVertexArrays
  | glDisablei | glDispatchCompute | glDispatchComputeIndirect | glDrawArraysIndirect
  | glDrawArraysInstanced | glDrawBuffers | glDrawElementsBaseVertex | glDrawElementsIndirect
  | glDrawElementsInstanced | glDrawElementsInstancedBaseVertex | glDrawRangeElements
  | glDrawRangeElementsBaseVertex | glEnablei | glEndQuery | glEndTransformFeedback | glFenceSync
  | glFramebufferTexture | glFramebufferTextureLayer | glGenProgramPipelines | glGenQueries
  | glGenSamplers | glGenTransformFeedbacks | glGenVertexArrays | glGetActiveUniformBlockName
  | glGetActiveUniformBlockiv | glGetActiveUniformsiv | glGetBooleani_v | glGetBufferParameteri64v
  | glGetBufferPointerv | glGetDebugMessageLog | glGetFragDataLocation | glGetGraphicsResetStatus
  | glGetInteger64i_v | glGetInteger64v | glGetIntegeri_v | glGetInternalformativ
  | glGetObjectLabel | glGetObjectPtrLabel | glGetPointerv | glGetProgramBinary
  | glGetProgramInterfaceiv | glGetProgramPipelineInfoLog | glGetProgramResourceIndex
  | glGetProgramResourceLocation | glGetProgramResourceName | glGetProgramResourceiv
  | glGetQueryObjectuiv | glGetQueryiv | glGetSamplerParameterIiv | glGetSamplerParameterIuiv
  | glGetSamplerParameterfv | glGetSamplerParameteriv | glGetStringi | glGetSynciv
  | glGetTexParameterIiv | glGetTexParameterIuiv | glGetTransformFeedbackVarying
  | glGetUniformBlockIndex | glGetUniformIndices | glGetUniformuiv | glGetVertexAttribIiv
  | glGetVertexAttribIuiv | glGetnUniformfv | glGetnUniformiv | glGetnUniformuiv
  | glInvalidateFramebuffer | glInvalidateSubFramebuffer | glIsEnabledi | glIsProgramPipeline
  | glIsQuery | glIsSampler | glIsSync | glIsTransformFeedback | glIsVertexArray
  | glMapBufferRange | glMemoryBarrier | glMemoryBarrierByRegion | glMinSampleShading
  | glObjectLabel | glObjectPtrLabel | glPatchParameteri | glPauseTransformFeedback
  | glPopDebugGroup | glPrimitiveBoundingBox | glProgramBinary | glProgramParameteri
  | glPushDebugGroup | glReadBuffer | glReadnPixels | glRenderbufferStorageMultisample
  | glResumeTransformFeedback | glSamplerParameterIiv | glSamplerParameterIuiv
  | glSamplerParameterf | glSamplerParameterfv | glSamplerParameteri | glSamplerParameteriv
  | glTexBuffer | glTexBufferRange | glTexImage3D | glTexParameterIiv | glTexParameterIuiv
  | glTexStorage2D | glTexStorage2DMultisample | glTexStorage3D | glTexStorage3DMultisample
  | glTexSubImage3D | glTransformFeedbackVaryings | glUniform1ui | glUniform1uiv | glUniform2ui
  | glUniform2uiv | glUniform3ui | glUniform3uiv | glUniform4ui | glUniform4uiv
  | glUniformBlockBinding | glUniformMatrix2x3fv | glUniformMatrix2x4fv | glUniformMatrix3x2fv
  | glUniformMatrix3x4fv | glUniformMatrix4x2fv | glUniformMatrix4x3fv | glUnmapBuffer
  | glUseProgramStages | glValidateProgramPipeline | glVertexAttribDivisor | glVertexAttribI4i
  | glVertexAttribI4iv | glVertexAttribI4ui | glVertexAttribI4uiv | glVertexAttribIPointer
  | glWaitSync

def Gles32Stub.flow : Gles32Stub → Flow BridgeOp
  | .glActiveShaderProgram | .glBeginQuery | .glBeginTransformFeedback | .glBindBufferBase
  | .glBindImageTexture | .glBindProgramPipeline | .glBindTransformFeedback | .glBlendBarrier
  | .glBlitFramebuffer | .glClearBufferfi | .glClearBufferfv | .glClearBufferiv
  | .glClearBufferuiv | .glColorMaski | .glCopyBufferSubData | .glCopyImageSubData
  | .glCopyTexSubImage3D | .glDebugMessageCallback | .glDeleteProgramPipelines | .glDisablei
  | .glDispatchCompute | .glDispatchComputeIndirect | .glDrawArraysIndirect
  | .glDrawArraysInstanced | .glDrawBuffers | .glDrawElementsIndirect
  | .glDrawElementsInstancedBaseVertex | .glDrawRangeElements | .glDrawRangeElementsBaseVertex
  | .glEnablei | .glEndQuery | .glEndTransformFeedback | .glFramebufferTexture
  | .glFramebufferTextureLayer | .glMemoryBarrier | .glMemoryBarrierByRegion | .glMinSampleShading
  | .glPatchParameteri | .glPauseTransformFeedback | .glPopDebugGroup | .glPrimitiveBoundingBox
  | .glProgramParameteri | .glReadBuffer | .glRenderbufferStorageMultisample
  | .glResumeTransformFeedback | .glSamplerParameterIiv | .glSamplerParameterIuiv
  | .glSamplerParameterf | .glSamplerParameteri | .glTexBuffer | .glTexBufferRange
  | .glTexStorage2D | .glTexStorage2DMultisample | .glTexStorage3D | .glTexStorage3DMultisample
  | .glUniform1ui | .glUniform2ui | .glUniform3ui | .glUniform4ui | .glUniformBlockBinding
  | .glUseProgramStages | .glValidateProgramPipeline | .glVertexAttribDivisor | .glVertexAttribI4i
  | .glVertexAttribI4ui | .glVertexAttribIPointer | .glWaitSync => .block [begin, sendVoid]
  | .glGenProgramPipelines | .glGenQueries | .glGenSamplers | .glGenTransformFeedbacks
  | .glGenVertexArrays | .glGetActiveUniformBlockName | .glGetActiveUniformBlockiv
  | .glGetBooleani_v | .glGetBufferParameteri64v | .glGetBufferPointerv | .glGetDebugMessageLog
  | .glGetFragDataLocation | .glGetGraphicsResetStatus | .glGetInteger64i_v | .glGetInteger64v
  | .glGetIntegeri_v | .glGetInternalformativ | .glGetObjectLabel | .glGetObjectPtrLabel
  | .glGetPointerv | .glGetProgramInterfaceiv | .glGetProgramPipelineInfoLog
  | .glGetProgramResourceName | .glGetQueryObjectuiv | .glGetQueryiv | .glGetSamplerParameterIiv
  | .glGetSamplerParameterIuiv | .glGetSamplerParameterfv | .glGetSamplerParameteriv
  | .glGetStringi | .glGetSynciv | .glGetTexParameterIiv | .glGetTexParameterIuiv
  | .glGetTransformFeedbackVarying | .glGetUniformuiv | .glGetVertexAttribIiv
  | .glGetVertexAttribIuiv | .glGetnUniformfv | .glGetnUniformiv | .glGetnUniformuiv
  | .glIsEnabledi | .glIsProgramPipeline | .glIsQuery | .glIsSampler | .glIsSync
  | .glIsTransformFeedback | .glIsVertexArray | .glReadnPixels => .block [begin, sendCall]
  | .glDeleteQueries | .glDeleteSamplers | .glDeleteTransformFeedbacks | .glDeleteVertexArrays
  | .glSamplerParameterfv | .glSamplerParameteriv | .glTexParameterIiv | .glTexParameterIuiv
  | .glTransformFeedbackVaryings | .glUniform1uiv | .glUniform2uiv | .glUniform3uiv
  | .glUniform4uiv | .glUniformMatrix2x3fv | .glUniformMatrix2x4fv | .glUniformMatrix3x2fv
  | .glUniformMatrix3x4fv | .glUniformMatrix4x2fv | .glUniformMatrix4x3fv | .glVertexAttribI4iv
  | .glVertexAttribI4uiv => .block [begin, dataWrite, sendVoid]
  | .glCompressedTexImage3D | .glCompressedTexSubImage3D | .glDebugMessageControl
  | .glDebugMessageInsert | .glDrawElementsInstanced | .glObjectPtrLabel | .glProgramBinary
  | .glPushDebugGroup | .glTexImage3D => .block [begin, .opt dataWrite, sendVoid]
  | .glCreateShaderProgramv | .glGetProgramResourceIndex | .glGetProgramResourceLocation
  | .glGetProgramResourceiv | .glUnmapBuffer => .block [begin, .opt dataWrite, sendCall]
  | .glBindSampler | .glBindVertexArray | .glDeleteSync | .glFenceSync =>
      .block [early, begin, sendVoid]
  | .glGetActiveUniformsiv | .glGetUniformBlockIndex | .glGetUniformIndices =>
      .block [begin, dataWrite, sendCall]
  | .glInvalidateFramebuffer | .glInvalidateSubFramebuffer => .call sendInvalidateFramebuffer
  | .glBindBufferRange =>
      .block [early, begin, .opt (.loop (.block [.opt .cont, .opt .brk, .opt .brk,
        .opt dataWrite, .brk])), sendVoid]
  | .glClientWaitSync =>
      .block [early, begin, .opt (.block [sendVoid, .ret]), .opt (.block [sendVoid, .ret]),
        sendCall]
  | .glDrawElementsBaseVertex =>
      .block [begin, .choice (.opt dataWrite) dataWrite, .loop (.block [.opt .cont, .loop
        (.block [.opt .cont, .opt .brk, .opt .brk, .opt .brk, .opt .brk, .opt .brk, dataWrite,
        .brk])]), sendVoid]
  | .glGetProgramBinary => .block [begin, dataWrite, sendCall, .opt dataRead]
  | .glMapBufferRange => .block [early, begin, .opt dataWrite, sendCall, .opt .ret, .opt dataRead]
  | .glObjectLabel => .skip
  | .glTexSubImage3D => .block [begin, .choice (.call stubUnpackPiggyback) dataWrite, sendVoid]

/-! ## `egl_stub.c` -/

inductive EglStub where
  | eglBindAPI | eglBindTexImage | eglChooseConfig | eglCopyBuffers | eglCreateContext
  | eglCreateImageKHR | eglCreatePbufferFromClientBuffer | eglCreatePbufferSurface
  | eglCreatePixmapSurface | eglCreatePlatformWindowSurfaceEXT | eglCreateWindowSurface
  | eglDestroyContext | eglDestroyImageKHR | eglDestroySurface | eglGetConfigAttrib
  | eglGetConfigs | eglGetCurrentContext | eglGetCurrentDisplay | eglGetCurrentSurface
  | eglGetDisplay | eglGetError | eglGetPlatformDisplayEXT | eglGetProcAddress | eglInitialize
  | eglMakeCurrent | eglQueryAPI | eglQueryContext | eglQueryString | eglQuerySurface
  | eglReleaseTexImage | eglReleaseThread | eglSurfaceAttrib | eglSwapBuffers | eglSwapInterval
  | eglTerminate | eglWaitClient | eglWaitGL | eglWaitNative

def EglStub.flow : EglStub → Flow BridgeOp
  | .eglBindAPI | .eglBindTexImage | .eglCopyBuffers | .eglCreateImageKHR | .eglDestroyContext
  | .eglDestroyImageKHR | .eglDestroySurface | .eglGetConfigAttrib | .eglGetCurrentContext
  | .eglGetCurrentDisplay | .eglGetCurrentSurface | .eglGetError | .eglGetPlatformDisplayEXT
  | .eglInitialize | .eglQueryAPI | .eglQueryContext | .eglReleaseTexImage | .eglReleaseThread
  | .eglSurfaceAttrib | .eglSwapInterval | .eglTerminate | .eglWaitClient | .eglWaitGL
  | .eglWaitNative => .block [begin, sendCall]
  | .eglGetDisplay | .eglGetProcAddress | .eglMakeCurrent | .eglQueryString | .eglQuerySurface =>
      .block [early, begin, sendCall]
  | .eglCreateContext | .eglCreatePbufferSurface | .eglCreatePixmapSurface =>
      .block [begin, .opt dataWrite, sendCall]
  | .eglChooseConfig => .block [begin, .opt dataWrite, .opt dataWrite, sendCall, .opt dataRead]
  | .eglCreatePbufferFromClientBuffer => .skip
  | .eglCreatePlatformWindowSurfaceEXT => .call Stub.eglCreateWindowSurface
  | .eglCreateWindowSurface => Stub.eglCreateWindowSurface
  | .eglGetConfigs => .block [begin, .opt dataWrite, sendCall, .opt dataRead]
  | .eglSwapBuffers => .block [begin, sendSwap]

/-! ## `wl_egl_stub.c` -/

inductive WlEglStub where
  | wlEglWindowCreate | wlEglWindowDestroy | wlEglWindowGetAttachedSize | wlEglWindowResize

def WlEglStub.flow : WlEglStub → Flow BridgeOp
  | .wlEglWindowDestroy | .wlEglWindowResize => .block [early, begin, sendVoid]
  | .wlEglWindowCreate => .block [early, begin, sendCall]
  | .wlEglWindowGetAttachedSize => .skip

/-! ## `wl_stub.c` -/

/-- Wayland calls run under `g_wl.lock` on a channel of their own. -/
inductive WlStub where
  | wlCursorThemeDestroy | wlCursorThemeGetCursor | wlCursorThemeLoad | wlDisplayCancelRead
  | wlDisplayConnect | wlDisplayCreateQueue | wlDisplayDisconnect | wlDisplayDispatch
  | wlDisplayDispatchPending | wlDisplayDispatchQueue | wlDisplayDispatchQueuePending
  | wlDisplayFlush | wlDisplayGetFd | wlDisplayPrepareRead | wlDisplayPrepareReadQueue
  | wlDisplayReadEvents | wlDisplayRoundtrip | wlEventQueueDestroy | wlProxyAddDispatcher
  | wlProxyAddListener | wlProxyCreateWrapper | wlProxyDestroy | wlProxyGetId | wlProxyGetTag
  | wlProxyGetUserData | wlProxyGetVersion | wlProxyMarshal | wlProxyMarshalArrayConstructor
  | wlProxyMarshalArrayConstructorVersioned | wlProxyMarshalConstructor
  | wlProxyMarshalConstructorVersioned | wlProxyMarshalFlags | wlProxySetQueue | wlProxySetTag
  | wlProxySetUserData | wlProxyWrapperDestroy

def WlStub.flow : WlStub → Flow BridgeOp
  | _ => .skip

/-! ## All of them -/

/-- The exported functions whose way through the bridge does not hang on the
stub's own tables. -/
inductive EntryPoint where
  | gles2 (function : Gles2Stub)
  | gles32 (function : Gles32Stub)
  | egl (function : EglStub)
  | wlEgl (function : WlEglStub)
  | wl (function : WlStub)

def EntryPoint.flow : EntryPoint → Flow BridgeOp
  | .gles2 function => function.flow
  | .gles32 function => function.flow
  | .egl function => function.flow
  | .wlEgl function => function.flow
  | .wl function => function.flow

theorem Gles2Stub.balanced (function : Gles2Stub) :
    function.flow.balanced bridgeProtocol .outside = true := by
  cases function <;> rfl

theorem Gles32Stub.balanced (function : Gles32Stub) :
    function.flow.balanced bridgeProtocol .outside = true := by
  cases function <;> rfl

theorem EglStub.balanced (function : EglStub) :
    function.flow.balanced bridgeProtocol .outside = true := by
  cases function <;> rfl

theorem WlEglStub.balanced (function : WlEglStub) :
    function.flow.balanced bridgeProtocol .outside = true := by
  cases function <;> rfl

/-- Every path through an entry point sends each command it begins, once. -/
theorem EntryPoint.balanced (entry : EntryPoint) :
    entry.flow.balanced bridgeProtocol .outside = true := by
  cases entry with
  | gles2 function => exact function.balanced
  | gles32 function => exact function.balanced
  | egl function => exact function.balanced
  | wlEgl function => exact function.balanced
  | wl function => rfl

end GlesBridge.Stub
