import GlesBridge.Shared.Args
import GlesBridge.Shared.Context
import GlesBridge.Stub.EntryPoint

namespace GlesBridge.Stub

open GlesBridge.Shared

/-! What the entry points of the stub libraries pack into `args`. -/

/-- What the lists depend on that some entry points pack. -/
structure ArgLists where
  n : Int32
  /-- The array that goes with `n` is not `NULL`. -/
  array : Bool
  count : Int32
  /-- The attributes whose arrays a draw copies from client memory. -/
  sent : AttribIndex → Bool
  /-- The pairs of `attrib_list`, with whatever stands behind an `EGL_NONE`. -/
  attribList : List (UInt64 × UInt64)
  /-- A string argument, with whatever stands behind its terminator. -/
  name : List UInt8
  /-- A generated table has `procname`, and it is not resolved. -/
  unresolved : Bool

namespace ArgLists

def clientArrays (lists : ArgLists) : List Scalar :=
  ((List.finRange maxVertexAttribs).filter lists.sent).flatMap fun _ => [.u32, .u32]

/-- The pairs before the first key `EGL_NONE`. -/
def attribs (lists : ArgLists) : List (UInt64 × UInt64) :=
  lists.attribList.takeWhile fun pair => pair.1 ≠ eglNone

end ArgLists

/-- What `send_invalidate_framebuffer` packs. -/
def sendInvalidateFramebufferArgs : List Scalar := [.u32, .i32, .i32, .i32, .i32, .i32]

def Gles2Stub.args (lists : ArgLists) : Gles2Stub → List Scalar
  | .glCreateProgram | .glFinish | .glFlush | .glGetError | .glReleaseShaderCompiler => []
  | .glActiveTexture | .glBlendEquation | .glCheckFramebufferStatus | .glClear
  | .glCompileShader | .glCreateShader | .glCullFace | .glDeleteProgram | .glDeleteShader
  | .glDepthFunc | .glDepthMask | .glDisable | .glDisableVertexAttribArray | .glEnable
  | .glEnableVertexAttribArray | .glFrontFace | .glGenerateMipmap | .glGetAttribLocation
  | .glGetBooleanv | .glGetFloatv | .glGetIntegerv | .glGetString | .glGetUniformLocation
  | .glIsBuffer | .glIsEnabled | .glIsFramebuffer | .glIsProgram | .glIsRenderbuffer
  | .glIsShader | .glIsTexture | .glLinkProgram | .glStencilMask | .glUseProgram
  | .glValidateProgram | .glVertexAttrib1fv | .glVertexAttrib2fv | .glVertexAttrib3fv
  | .glVertexAttrib4fv => [.u32]
  | .glClearDepthf | .glLineWidth => [.f32]
  | .glClearStencil | .glDeleteBuffers | .glDeleteFramebuffers | .glDeleteTextures
  | .glGenBuffers | .glGenFramebuffers | .glGenRenderbuffers | .glGenTextures => [.i32]
  | .glAttachShader | .glBindAttribLocation | .glBindBuffer | .glBindFramebuffer
  | .glBindRenderbuffer | .glBindTexture | .glBlendEquationSeparate | .glBlendFunc
  | .glDetachShader | .glGetBufferParameteriv | .glGetProgramiv | .glGetRenderbufferParameteriv
  | .glGetShaderPrecisionFormat | .glGetShaderiv | .glGetTexParameterfv | .glGetTexParameteriv
  | .glGetVertexAttribPointerv | .glGetVertexAttribfv | .glGetVertexAttribiv | .glHint
  | .glStencilMaskSeparate | .glTexParameterfv | .glTexParameteriv => [.u32, .u32]
  | .glDepthRangef | .glPolygonOffset => [.f32, .f32]
  | .glGetAttachedShaders | .glGetProgramInfoLog | .glGetShaderInfoLog | .glGetShaderSource
  | .glGetUniformfv | .glGetUniformiv | .glPixelStorei => [.u32, .i32]
  | .glSampleCoverage => [.f32, .u32]
  | .glUniform1f => [.i32, .f32]
  | .glUniform1fv | .glUniform1i | .glUniform1iv | .glUniform2fv | .glUniform2iv | .glUniform3fv
  | .glUniform3iv | .glUniform4fv | .glUniform4iv => [.i32, .i32]
  | .glVertexAttrib1f => [.u32, .f32]
  | .glBufferSubData => [.u32, .u64, .u64]
  | .glGetActiveAttrib | .glGetActiveUniform | .glTexParameteri => [.u32, .u32, .i32]
  | .glGetFramebufferAttachmentParameteriv | .glStencilOp => [.u32, .u32, .u32]
  | .glShaderBinary => [.i32, .u32, .i32]
  | .glStencilFunc => [.u32, .i32, .u32]
  | .glTexParameterf => [.u32, .u32, .f32]
  | .glUniform2f => [.i32, .f32, .f32]
  | .glUniform2i => [.i32, .i32, .i32]
  | .glUniformMatrix2fv | .glUniformMatrix3fv | .glUniformMatrix4fv => [.i32, .i32, .u32]
  | .glVertexAttrib2f => [.u32, .f32, .f32]
  | .glBlendColor | .glClearColor => [.f32, .f32, .f32, .f32]
  | .glBlendFuncSeparate | .glColorMask | .glFramebufferRenderbuffer | .glStencilOpSeparate =>
      [.u32, .u32, .u32, .u32]
  | .glBufferData => [.u32, .u64, .u32, .u32]
  | .glRenderbufferStorage => [.u32, .u32, .i32, .i32]
  | .glScissor | .glUniform3i | .glViewport => [.i32, .i32, .i32, .i32]
  | .glStencilFuncSeparate => [.u32, .u32, .i32, .u32]
  | .glUniform3f => [.i32, .f32, .f32, .f32]
  | .glVertexAttrib3f => [.u32, .f32, .f32, .f32]
  | .glFramebufferTexture2D => [.u32, .u32, .u32, .u32, .i32]
  | .glUniform4f => [.i32, .f32, .f32, .f32, .f32]
  | .glUniform4i => [.i32, .i32, .i32, .i32, .i32]
  | .glVertexAttrib4f => [.u32, .f32, .f32, .f32, .f32]
  | .glReadPixels => [.i32, .i32, .i32, .i32, .u32, .u32]
  | .glVertexAttribPointer => [.u32, .i32, .u32, .u32, .i32, .u64, .u32]
  | .glCompressedTexImage2D => [.u32, .i32, .u32, .i32, .i32, .i32, .i32, .u32]
  | .glCopyTexImage2D => [.u32, .i32, .u32, .i32, .i32, .i32, .i32, .i32]
  | .glCopyTexSubImage2D => [.u32, .i32, .i32, .i32, .i32, .i32, .i32, .i32]
  | .glCompressedTexSubImage2D => [.u32, .i32, .i32, .i32, .i32, .i32, .u32, .i32, .u32]
  | .glTexImage2D | .glTexSubImage2D => [.u32, .i32, .i32, .i32, .i32, .i32, .u32, .u32, .u32]
  | .glDeleteRenderbuffers => .i32 :: repeated lists.n [.u32]
  | .glShaderSource => [.u32, .i32] ++ repeated lists.count [.u32, .u32]
  | .glDrawArrays => [.u32, .i32, .i32, .u32] ++ lists.clientArrays ++ [.u32, .u32, .u32]
  | .glDrawElements =>
      [.u32, .i32, .u32, .u64, .u32, .u32] ++ lists.clientArrays ++
        [.u32, .u32, .u32, .u32, .u32, .u32]

def Gles32Stub.args (lists : ArgLists) : Gles32Stub → List Scalar
  | .glBlendBarrier | .glDebugMessageCallback | .glEndTransformFeedback
  | .glGetGraphicsResetStatus | .glPauseTransformFeedback | .glPopDebugGroup
  | .glResumeTransformFeedback => []
  | .glBeginTransformFeedback | .glBindProgramPipeline | .glBindVertexArray | .glDeleteSync
  | .glEndQuery | .glGetInteger64v | .glGetPointerv | .glGetUniformBlockIndex
  | .glIsProgramPipeline | .glIsQuery | .glIsSampler | .glIsSync | .glIsTransformFeedback
  | .glIsVertexArray | .glMemoryBarrier | .glMemoryBarrierByRegion | .glReadBuffer
  | .glValidateProgramPipeline | .glVertexAttribI4iv | .glVertexAttribI4uiv => [.u32]
  | .glDeleteQueries | .glDeleteSamplers | .glDeleteTransformFeedbacks | .glDeleteVertexArrays
  | .glGenProgramPipelines | .glGenQueries | .glGenSamplers | .glGenTransformFeedbacks
  | .glGenVertexArrays => [.i32]
  | .glDispatchComputeIndirect => [.u64]
  | .glMinSampleShading => [.f32]
  | .glActiveShaderProgram | .glBeginQuery | .glBindSampler | .glBindTransformFeedback
  | .glDisablei | .glEnablei | .glGetBooleani_v | .glGetBufferParameteri64v
  | .glGetBufferPointerv | .glGetInteger64i_v | .glGetIntegeri_v | .glGetProgramResourceIndex
  | .glGetProgramResourceLocation | .glGetQueryObjectuiv | .glGetQueryiv
  | .glGetSamplerParameterIiv | .glGetSamplerParameterIuiv | .glGetSamplerParameterfv
  | .glGetSamplerParameteriv | .glGetStringi | .glGetTexParameterIiv | .glGetTexParameterIuiv
  | .glGetVertexAttribIiv | .glGetVertexAttribIuiv | .glIsEnabledi | .glSamplerParameterfv
  | .glSamplerParameteriv | .glTexParameterIiv | .glTexParameterIuiv | .glUnmapBuffer
  | .glVertexAttribDivisor => [.u32, .u32]
  | .glCreateShaderProgramv | .glGetDebugMessageLog | .glGetProgramBinary
  | .glGetProgramPipelineInfoLog | .glGetUniformIndices | .glGetUniformuiv | .glPatchParameteri =>
      [.u32, .i32]
  | .glDrawArraysIndirect => [.u32, .u64]
  | .glGetObjectPtrLabel | .glObjectPtrLabel => [.u64, .i32]
  | .glUniform1ui => [.i32, .u32]
  | .glUniform1uiv | .glUniform2uiv | .glUniform3uiv | .glUniform4uiv => [.i32, .i32]
  | .glBindBufferBase | .glDispatchCompute | .glFenceSync | .glGetActiveUniformBlockiv
  | .glGetProgramInterfaceiv | .glTexBuffer | .glUniformBlockBinding | .glUseProgramStages =>
      [.u32, .u32, .u32]
  | .glDrawElementsIndirect | .glWaitSync => [.u32, .u32, .u64]
  | .glGetActiveUniformBlockName | .glGetObjectLabel | .glGetSynciv
  | .glGetTransformFeedbackVarying | .glProgramBinary | .glProgramParameteri | .glPushDebugGroup
  | .glSamplerParameteri => [.u32, .u32, .i32]
  | .glGetActiveUniformsiv | .glTransformFeedbackVaryings => [.u32, .i32, .u32]
  | .glGetnUniformfv | .glGetnUniformiv | .glGetnUniformuiv => [.u32, .i32, .i32]
  | .glSamplerParameterf => [.u32, .u32, .f32]
  | .glUniform2ui => [.i32, .u32, .u32]
  | .glUniformMatrix2x3fv | .glUniformMatrix2x4fv | .glUniformMatrix3x2fv
  | .glUniformMatrix3x4fv | .glUniformMatrix4x2fv | .glUniformMatrix4x3fv => [.i32, .i32, .u32]
  | .glClearBufferfi => [.u32, .i32, .f32, .i32]
  | .glDrawArraysInstanced => [.u32, .i32, .i32, .i32]
  | .glDrawElementsInstanced => [.u32, .i32, .u32, .u32]
  | .glFramebufferTexture | .glGetInternalformativ | .glGetProgramResourceName =>
      [.u32, .u32, .u32, .i32]
  | .glUniform3ui => [.i32, .u32, .u32, .u32]
  | .glBindBufferRange => [.u32, .u32, .u32, .i64, .i64]
  | .glColorMaski | .glVertexAttribI4ui => [.u32, .u32, .u32, .u32, .u32]
  | .glCopyBufferSubData => [.u32, .u32, .u64, .u64, .u64]
  | .glDebugMessageControl => [.u32, .u32, .u32, .i32, .u32]
  | .glDebugMessageInsert => [.u32, .u32, .u32, .u32, .i32]
  | .glFramebufferTextureLayer | .glGetProgramResourceiv => [.u32, .u32, .u32, .i32, .i32]
  | .glMapBufferRange => [.u32, .i64, .i64, .u32, .u32]
  | .glRenderbufferStorageMultisample | .glTexStorage2D => [.u32, .i32, .u32, .i32, .i32]
  | .glTexBufferRange => [.u32, .u32, .u32, .u64, .u64]
  | .glUniform4ui => [.i32, .u32, .u32, .u32, .u32]
  | .glVertexAttribI4i => [.u32, .i32, .i32, .i32, .i32]
  | .glClearBufferfv => [.u32, .i32, .f32, .f32, .f32, .f32]
  | .glClearBufferiv => [.u32, .i32, .i32, .i32, .i32, .i32]
  | .glClearBufferuiv => [.u32, .i32, .u32, .u32, .u32, .u32]
  | .glDrawElementsInstancedBaseVertex => [.u32, .i32, .u32, .u64, .i32, .i32]
  | .glDrawRangeElements => [.u32, .u32, .u32, .i32, .u32, .u64]
  | .glSamplerParameterIiv => [.u32, .u32, .i32, .i32, .i32, .i32]
  | .glSamplerParameterIuiv => [.u32, .u32, .u32, .u32, .u32, .u32]
  | .glTexStorage2DMultisample => [.u32, .i32, .u32, .i32, .i32, .u32]
  | .glTexStorage3D => [.u32, .i32, .u32, .i32, .i32, .i32]
  | .glVertexAttribIPointer => [.u32, .i32, .u32, .i32, .u64, .u32]
  | .glBindImageTexture => [.u32, .u32, .i32, .u32, .i32, .u32, .u32]
  | .glDrawRangeElementsBaseVertex => [.u32, .u32, .u32, .i32, .u32, .u64, .i32]
  | .glReadnPixels => [.i32, .i32, .i32, .i32, .u32, .u32, .i32]
  | .glTexStorage3DMultisample => [.u32, .i32, .u32, .i32, .i32, .i32, .u32]
  | .glPrimitiveBoundingBox => [.f32, .f32, .f32, .f32, .f32, .f32, .f32, .f32]
  | .glCompressedTexImage3D => [.u32, .i32, .u32, .i32, .i32, .i32, .i32, .i32, .i32]
  | .glCopyTexSubImage3D => [.u32, .i32, .i32, .i32, .i32, .i32, .i32, .i32, .i32]
  | .glBlitFramebuffer => [.i32, .i32, .i32, .i32, .i32, .i32, .i32, .i32, .u32, .u32]
  | .glTexImage3D => [.u32, .u32, .i32, .i32, .i32, .i32, .i32, .i32, .u32, .u32]
  | .glTexSubImage3D => [.u32, .i32, .i32, .i32, .i32, .i32, .i32, .i32, .u32, .u32]
  | .glCompressedTexSubImage3D => [.u32, .i32, .i32, .i32, .i32, .i32, .i32, .i32, .u32, .i32, .i32]
  | .glCopyImageSubData =>
      [.u32, .u32, .i32, .i32, .i32, .i32, .u32, .u32, .i32, .i32, .i32, .i32, .i32, .i32, .i32]
  | .glObjectLabel => []
  | .glInvalidateFramebuffer | .glInvalidateSubFramebuffer => sendInvalidateFramebufferArgs
  | .glClientWaitSync => [.u32, .u32, .u64, .u32]
  | .glDeleteProgramPipelines | .glDrawBuffers => .i32 :: repeated lists.n [.u32]
  | .glDrawElementsBaseVertex =>
      [.u32, .i32, .u32, .u64, .i32, .u32, .u32, .u32, .u32, .u32, .u32, .u32]
  | .glGetFragDataLocation => [.u32]

def EglStub.args (lists : ArgLists) : EglStub → List Scalar
  | .eglGetCurrentContext | .eglGetCurrentDisplay | .eglGetError | .eglQueryAPI
  | .eglReleaseThread | .eglWaitClient | .eglWaitGL => []
  | .eglBindAPI | .eglInitialize | .eglTerminate => [.u32]
  | .eglGetCurrentSurface | .eglWaitNative => [.i32]
  | .eglDestroyContext | .eglDestroySurface | .eglGetDisplay | .eglSwapBuffers => [.u32, .u32]
  | .eglDestroyImageKHR => [.u64, .u64]
  | .eglGetConfigs | .eglQueryString | .eglSwapInterval => [.u32, .i32]
  | .eglGetPlatformDisplayEXT => [.u32, .u64]
  | .eglBindTexImage | .eglGetConfigAttrib | .eglQueryContext | .eglQuerySurface
  | .eglReleaseTexImage => [.u32, .u32, .i32]
  | .eglCopyBuffers => [.u32, .u32, .u64]
  | .eglCreatePbufferSurface => [.u32, .u32, .u32]
  | .eglChooseConfig => [.u32, .u32, .u32, .i32]
  | .eglCreateContext | .eglMakeCurrent => [.u32, .u32, .u32, .u32]
  | .eglCreatePixmapSurface => [.u32, .u32, .u64, .u32]
  | .eglSurfaceAttrib => [.u32, .u32, .i32, .i32]
  | .eglCreatePlatformWindowSurfaceEXT | .eglCreateWindowSurface =>
      [.u32, .u32, .u32, .i32, .i32, .u32]
  | .eglCreatePbufferFromClientBuffer => []
  | .eglGetProcAddress => [.u32, .u32]
  | .eglCreateImageKHR =>
      [.u64, .u64, .u32, .u64] ++ lists.attribs.flatMap (fun _ => [.u64, .u64]) ++ [.u64]

def WlEglStub.args : WlEglStub → List Scalar
  | .wlEglWindowDestroy => [.u32]
  | .wlEglWindowCreate => [.u32, .i32, .i32]
  | .wlEglWindowResize => [.u32, .i32, .i32, .i32, .i32]
  | .wlEglWindowGetAttachedSize => []

/-- The commands of `wl_stub.c`. -/
inductive WlMessage where
  | wlDisplayConnect | wlCompositorCreateSurface | wlGetKeymap | wlDisplayDisconnect
  | wlShellGetShellSurface | wlShellSurfaceSetToplevel | wlWebosShellGetShellSurface
  | wlWebosSetProperty | wlSurfaceCommit | wlSurfaceDestroy | wlProxyDestroy | wlRoundtrip
  | wlWebosShellSurfaceSetState

def WlMessage.args : WlMessage → List Scalar
  | .wlDisplayConnect | .wlCompositorCreateSurface | .wlGetKeymap => []
  | .wlDisplayDisconnect | .wlShellGetShellSurface | .wlShellSurfaceSetToplevel
  | .wlWebosShellGetShellSurface | .wlWebosSetProperty | .wlSurfaceCommit | .wlSurfaceDestroy
  | .wlProxyDestroy | .wlRoundtrip => [.u32]
  | .wlWebosShellSurfaceSetState => [.u32, .u32]

/-! ## All of them -/

inductive Command where
  | gles2 (function : Gles2Stub)
  | gles32 (function : Gles32Stub)
  | glFlushMappedBufferRange
  | egl (function : EglStub)
  | wlEgl (function : WlEglStub)
  | wl (message : WlMessage)
  /-- A generated dispatcher: its index, and the types of its parameters. -/
  | invokeDynamic (idx : UInt32) (params : List Scalar)
  | invokeDynamicEgl (idx : UInt32) (params : List Scalar)

namespace Command

def args (lists : ArgLists) : Command → List Scalar
  | .gles2 function => function.args lists
  | .gles32 function => function.args lists
  | .glFlushMappedBufferRange => [.u32, .i32, .i32, .u32]
  | .egl function => function.args lists
  | .wlEgl function => function.args
  | .wl message => message.args
  | .invokeDynamic _ params | .invokeDynamicEgl _ params => .u32 :: params

/-- The bytes that two entry points copy behind their last argument. -/
def nameArg (lists : ArgLists) : Command → List UInt8
  | .gles32 .glGetFragDataLocation => (cString lists.name).take (bridgeArgsSize - 4)
  | .egl .eglGetProcAddress => (cString lists.name).take bridgeArgsSize
  | _ => []

/-- Whether a command is sent at all.  Tests of cached state are left out. -/
def publishes (lists : ArgLists) : Command → Bool
  | .gles2 .glDeleteRenderbuffers => lists.array && decide (0 < lists.n)
  | .gles32 .glObjectLabel | .egl .eglCreatePbufferFromClientBuffer
  | .wlEgl .wlEglWindowGetAttachedSize => false
  | .egl .eglGetProcAddress => lists.unresolved
  | _ => true

/-- The sizes of the writes to `args`, in their order. -/
def writes (lists : ArgLists) (command : Command) : List Nat :=
  sizesOf (command.args lists) ++ [(command.nameArg lists).length]

end Command

end GlesBridge.Stub
