import GlesBridge.Stub.Packing

namespace GlesBridge.Proxy

open GlesBridge.Shared GlesBridge.Stub

/-! What the handlers of the commands read from `args`. -/

/-- `h_glShaderSource` takes no more than 32 strings. -/
def shaderStrings (count : Int32) : Int32 := if count < 0 then 0 else if 32 < count then 32 else count

/-- `h_eglCreateImageKHR` compares keys of 32 bits. -/
def readAttribs (lists : ArgLists) : List (UInt64 × UInt64) :=
  lists.attribs.takeWhile fun pair => pair.1.toUInt32 ≠ eglNone.toUInt32

def gles2Reads (lists : ArgLists) : Gles2Stub → Reads
  | .glCreateProgram | .glFinish | .glFlush | .glGetError | .glReleaseShaderCompiler => []
  | .glActiveTexture | .glBlendEquation | .glCheckFramebufferStatus | .glClear
  | .glCompileShader | .glCreateShader | .glCullFace | .glDeleteProgram | .glDeleteShader
  | .glDepthFunc | .glDepthMask | .glDisable | .glDisableVertexAttribArray | .glEnable
  | .glEnableVertexAttribArray | .glFrontFace | .glGenerateMipmap | .glGetAttribLocation
  | .glGetBooleanv | .glGetFloatv | .glGetIntegerv | .glGetString | .glGetUniformLocation
  | .glIsBuffer | .glIsEnabled | .glIsFramebuffer | .glIsProgram | .glIsRenderbuffer
  | .glIsShader | .glIsTexture | .glLinkProgram | .glStencilMask | .glUseProgram
  | .glValidateProgram | .glVertexAttrib1fv | .glVertexAttrib2fv | .glVertexAttrib3fv
  | .glVertexAttrib4fv => sequenced [.u32]
  | .glClearDepthf | .glLineWidth => sequenced [.f32]
  | .glClearStencil | .glDeleteBuffers | .glDeleteFramebuffers | .glDeleteTextures
  | .glGenBuffers | .glGenFramebuffers | .glGenRenderbuffers | .glGenTextures => sequenced [.i32]
  | .glAttachShader | .glBlendEquationSeparate | .glBlendFunc | .glDetachShader
  | .glGetVertexAttribPointerv | .glGetVertexAttribiv | .glHint | .glStencilMaskSeparate =>
      [[.u32, .u32]]
  | .glBindAttribLocation | .glBindBuffer | .glBindFramebuffer | .glBindRenderbuffer
  | .glBindTexture | .glGetBufferParameteriv | .glGetProgramiv | .glGetRenderbufferParameteriv
  | .glGetShaderPrecisionFormat | .glGetShaderiv | .glGetTexParameterfv | .glGetTexParameteriv
  | .glGetVertexAttribfv | .glTexParameterfv | .glTexParameteriv => sequenced [.u32, .u32]
  | .glDepthRangef | .glPolygonOffset => [[.f32, .f32]]
  | .glGetAttachedShaders | .glGetProgramInfoLog | .glGetShaderInfoLog | .glGetShaderSource
  | .glGetUniformfv | .glGetUniformiv | .glPixelStorei => sequenced [.u32, .i32]
  | .glSampleCoverage => [[.f32, .u32]]
  | .glUniform1f => sequenced [.i32, .f32]
  | .glUniform1fv | .glUniform1i | .glUniform1iv | .glUniform2fv | .glUniform2iv | .glUniform3fv
  | .glUniform3iv | .glUniform4fv | .glUniform4iv => sequenced [.i32, .i32]
  | .glVertexAttrib1f => [[.u32, .f32]]
  | .glBufferSubData => sequenced [.u32, .u64, .u64]
  | .glGetActiveAttrib | .glGetActiveUniform => sequenced [.u32, .u32, .i32]
  | .glGetFramebufferAttachmentParameteriv => sequenced [.u32, .u32, .u32]
  | .glShaderBinary => sequenced [.i32, .u32, .i32]
  | .glStencilFunc => [[.u32, .i32, .u32]]
  | .glStencilOp => [[.u32, .u32, .u32]]
  | .glTexParameterf => [[.u32, .u32, .f32]]
  | .glTexParameteri => [[.u32, .u32, .i32]]
  | .glUniform2f => sequenced [.i32, .f32, .f32]
  | .glUniform2i => sequenced [.i32, .i32, .i32]
  | .glUniformMatrix2fv | .glUniformMatrix3fv | .glUniformMatrix4fv => sequenced [.i32, .i32, .u32]
  | .glVertexAttrib2f => [[.u32, .f32, .f32]]
  | .glBlendColor | .glClearColor => [[.f32, .f32, .f32, .f32]]
  | .glBlendFuncSeparate | .glColorMask | .glStencilOpSeparate => [[.u32, .u32, .u32, .u32]]
  | .glBufferData => sequenced [.u32, .u64, .u32, .u32]
  | .glFramebufferRenderbuffer => sequenced [.u32, .u32, .u32, .u32]
  | .glRenderbufferStorage => sequenced [.u32, .u32, .i32, .i32]
  | .glScissor | .glViewport => [[.i32, .i32, .i32, .i32]]
  | .glStencilFuncSeparate => [[.u32, .u32, .i32, .u32]]
  | .glUniform3f => sequenced [.i32, .f32, .f32, .f32]
  | .glUniform3i => sequenced [.i32, .i32, .i32, .i32]
  | .glVertexAttrib3f => [[.u32, .f32, .f32, .f32]]
  | .glFramebufferTexture2D => sequenced [.u32, .u32, .u32, .u32, .i32]
  | .glUniform4f => sequenced [.i32, .f32, .f32, .f32, .f32]
  | .glUniform4i => sequenced [.i32, .i32, .i32, .i32, .i32]
  | .glVertexAttrib4f => [[.u32, .f32, .f32, .f32, .f32]]
  | .glReadPixels => sequenced [.i32, .i32, .i32, .i32, .u32, .u32]
  | .glVertexAttribPointer => sequenced [.u32, .i32, .u32, .u32, .i32, .u64, .u32]
  | .glCompressedTexImage2D => sequenced [.u32, .i32, .u32, .i32, .i32, .i32, .i32, .u32]
  | .glCopyTexImage2D => sequenced [.u32, .i32, .u32, .i32, .i32, .i32, .i32, .i32]
  | .glCopyTexSubImage2D => sequenced [.u32, .i32, .i32, .i32, .i32, .i32, .i32, .i32]
  | .glCompressedTexSubImage2D => sequenced [.u32, .i32, .i32, .i32, .i32, .i32, .u32, .i32, .u32]
  | .glTexImage2D | .glTexSubImage2D =>
      sequenced [.u32, .i32, .i32, .i32, .i32, .i32, .u32, .u32, .u32]
  | .glDeleteRenderbuffers => sequenced (.i32 :: repeated lists.n [.u32])
  | .glShaderSource =>
      sequenced ([.u32, .i32] ++ repeated (shaderStrings lists.count) [.u32, .u32])
  | .glDrawArrays =>
      sequenced ([.u32, .i32, .i32, .u32] ++ lists.clientArrays ++ [.u32, .u32, .u32])
  | .glDrawElements =>
      sequenced ([.u32, .i32, .u32, .u64, .u32, .u32] ++ lists.clientArrays ++
        [.u32, .u32, .u32, .u32, .u32, .u32])

def gles32Reads (lists : ArgLists) : Gles32Stub → Reads
  | .glBlendBarrier | .glDebugMessageCallback | .glEndTransformFeedback
  | .glGetGraphicsResetStatus | .glPauseTransformFeedback | .glPopDebugGroup
  | .glResumeTransformFeedback => []
  | .glBeginTransformFeedback | .glBindProgramPipeline | .glBindVertexArray | .glDeleteSync
  | .glEndQuery | .glGetInteger64v | .glGetPointerv | .glGetUniformBlockIndex
  | .glIsProgramPipeline | .glIsQuery | .glIsSampler | .glIsSync | .glIsTransformFeedback
  | .glIsVertexArray | .glMemoryBarrier | .glMemoryBarrierByRegion | .glReadBuffer
  | .glValidateProgramPipeline | .glVertexAttribI4iv | .glVertexAttribI4uiv => sequenced [.u32]
  | .glDeleteQueries | .glDeleteSamplers | .glDeleteTransformFeedbacks | .glDeleteVertexArrays
  | .glGenProgramPipelines | .glGenQueries | .glGenSamplers | .glGenTransformFeedbacks
  | .glGenVertexArrays => sequenced [.i32]
  | .glDispatchComputeIndirect => sequenced [.u64]
  | .glMinSampleShading => sequenced [.f32]
  | .glActiveShaderProgram | .glBindSampler | .glBindTransformFeedback | .glDisablei
  | .glEnablei | .glGetBooleani_v | .glGetBufferParameteri64v | .glGetBufferPointerv
  | .glGetInteger64i_v | .glGetIntegeri_v | .glGetProgramResourceIndex
  | .glGetProgramResourceLocation | .glGetQueryObjectuiv | .glGetQueryiv
  | .glGetSamplerParameterIiv | .glGetSamplerParameterIuiv | .glGetSamplerParameterfv
  | .glGetSamplerParameteriv | .glGetStringi | .glGetTexParameterIiv | .glGetTexParameterIuiv
  | .glGetVertexAttribIiv | .glGetVertexAttribIuiv | .glIsEnabledi | .glSamplerParameterfv
  | .glSamplerParameteriv | .glTexParameterIiv | .glTexParameterIuiv | .glUnmapBuffer
  | .glVertexAttribDivisor => sequenced [.u32, .u32]
  | .glBeginQuery => [[.u32, .u32]]
  | .glCreateShaderProgramv | .glGetDebugMessageLog | .glGetProgramBinary
  | .glGetProgramPipelineInfoLog | .glGetUniformIndices | .glGetUniformuiv
  | .glInvalidateFramebuffer | .glPatchParameteri => sequenced [.u32, .i32]
  | .glDrawArraysIndirect => sequenced [.u32, .u64]
  | .glGetObjectPtrLabel | .glObjectPtrLabel => sequenced [.u64, .i32]
  | .glUniform1ui => sequenced [.i32, .u32]
  | .glUniform1uiv | .glUniform2uiv | .glUniform3uiv | .glUniform4uiv => sequenced [.i32, .i32]
  | .glBindBufferBase | .glDispatchCompute | .glFenceSync | .glGetActiveUniformBlockiv
  | .glGetProgramInterfaceiv | .glTexBuffer | .glUniformBlockBinding | .glUseProgramStages =>
      sequenced [.u32, .u32, .u32]
  | .glDrawElementsIndirect | .glWaitSync => sequenced [.u32, .u32, .u64]
  | .glGetActiveUniformBlockName | .glGetObjectLabel | .glGetSynciv
  | .glGetTransformFeedbackVarying | .glProgramBinary | .glProgramParameteri | .glPushDebugGroup =>
      sequenced [.u32, .u32, .i32]
  | .glGetActiveUniformsiv | .glTransformFeedbackVaryings => sequenced [.u32, .i32, .u32]
  | .glGetnUniformfv | .glGetnUniformiv | .glGetnUniformuiv => sequenced [.u32, .i32, .i32]
  | .glSamplerParameterf => sequenced [.u32, .u32, .f32]
  | .glSamplerParameteri => [[.u32, .u32, .i32]]
  | .glUniform2ui => sequenced [.i32, .u32, .u32]
  | .glUniformMatrix2x3fv | .glUniformMatrix2x4fv | .glUniformMatrix3x2fv
  | .glUniformMatrix3x4fv | .glUniformMatrix4x2fv | .glUniformMatrix4x3fv =>
      sequenced [.i32, .i32, .u32]
  | .glClearBufferfi => sequenced [.u32, .i32, .f32, .i32]
  | .glDrawArraysInstanced => [[.u32, .i32, .i32, .i32]]
  | .glDrawElementsInstanced => sequenced [.u32, .i32, .u32, .u32]
  | .glFramebufferTexture | .glGetInternalformativ | .glGetProgramResourceName =>
      sequenced [.u32, .u32, .u32, .i32]
  | .glUniform3ui => sequenced [.i32, .u32, .u32, .u32]
  | .glBindBufferRange => sequenced [.u32, .u32, .u32, .i64, .i64]
  | .glColorMaski | .glVertexAttribI4ui => sequenced [.u32, .u32, .u32, .u32, .u32]
  | .glCopyBufferSubData => sequenced [.u32, .u32, .u64, .u64, .u64]
  | .glDebugMessageControl => sequenced [.u32, .u32, .u32, .i32, .u32]
  | .glDebugMessageInsert => sequenced [.u32, .u32, .u32, .u32, .i32]
  | .glFramebufferTextureLayer | .glGetProgramResourceiv => sequenced [.u32, .u32, .u32, .i32, .i32]
  | .glMapBufferRange => sequenced [.u32, .i64, .i64, .u32, .u32]
  | .glRenderbufferStorageMultisample | .glTexStorage2D => sequenced [.u32, .i32, .u32, .i32, .i32]
  | .glTexBufferRange => sequenced [.u32, .u32, .u32, .u64, .u64]
  | .glUniform4ui => sequenced [.i32, .u32, .u32, .u32, .u32]
  | .glVertexAttribI4i => sequenced [.u32, .i32, .i32, .i32, .i32]
  | .glClearBufferfv => sequenced [.u32, .i32, .f32, .f32, .f32, .f32]
  | .glClearBufferiv | .glInvalidateSubFramebuffer => sequenced [.u32, .i32, .i32, .i32, .i32, .i32]
  | .glClearBufferuiv => sequenced [.u32, .i32, .u32, .u32, .u32, .u32]
  | .glDrawElementsInstancedBaseVertex => sequenced [.u32, .i32, .u32, .u64, .i32, .i32]
  | .glDrawRangeElements => sequenced [.u32, .u32, .u32, .i32, .u32, .u64]
  | .glSamplerParameterIiv => sequenced [.u32, .u32, .i32, .i32, .i32, .i32]
  | .glSamplerParameterIuiv => sequenced [.u32, .u32, .u32, .u32, .u32, .u32]
  | .glTexStorage2DMultisample => sequenced [.u32, .i32, .u32, .i32, .i32, .u32]
  | .glTexStorage3D => sequenced [.u32, .i32, .u32, .i32, .i32, .i32]
  | .glVertexAttribIPointer => sequenced [.u32, .i32, .u32, .i32, .u64, .u32]
  | .glBindImageTexture => sequenced [.u32, .u32, .i32, .u32, .i32, .u32, .u32]
  | .glDrawRangeElementsBaseVertex => sequenced [.u32, .u32, .u32, .i32, .u32, .u64, .i32]
  | .glReadnPixels => sequenced [.i32, .i32, .i32, .i32, .u32, .u32, .i32]
  | .glTexStorage3DMultisample => sequenced [.u32, .i32, .u32, .i32, .i32, .i32, .u32]
  | .glPrimitiveBoundingBox => sequenced [.f32, .f32, .f32, .f32, .f32, .f32, .f32, .f32]
  | .glCompressedTexImage3D => sequenced [.u32, .i32, .u32, .i32, .i32, .i32, .i32, .i32, .u32]
  | .glCopyTexSubImage3D => [[.u32, .i32, .i32, .i32, .i32, .i32, .i32, .i32, .i32]]
  | .glBlitFramebuffer => sequenced [.i32, .i32, .i32, .i32, .i32, .i32, .i32, .i32, .u32, .u32]
  | .glTexImage3D => [[.u32], [.u32, .i32, .i32, .i32, .i32, .i32, .i32, .u32, .u32]]
  | .glTexSubImage3D => [[.u32, .i32, .i32, .i32, .i32, .i32, .i32, .i32, .u32, .u32]]
  | .glCompressedTexSubImage3D =>
      sequenced [.u32, .i32, .i32, .i32, .i32, .i32, .i32, .i32, .u32, .i32, .u32]
  | .glCopyImageSubData =>
      sequenced [.u32, .u32, .i32, .i32, .i32, .i32, .u32, .u32, .i32, .i32, .i32, .i32, .i32, .i32,
        .i32]
  | .glObjectLabel => sequenced [.u32, .u32, .i32]
  | .glClientWaitSync => sequenced [.u32, .u32, .u64, .u32]
  | .glDeleteProgramPipelines | .glDrawBuffers => sequenced (.i32 :: repeated lists.n [.u32])
  | .glDrawElementsBaseVertex =>
      sequenced [.u32, .i32, .u32, .u64, .i32, .u32, .u32, .u32, .u32, .u32, .u32, .u32]
  | .glGetFragDataLocation => sequenced [.u32]

def eglReads (lists : ArgLists) : EglStub → Reads
  | .eglGetCurrentContext | .eglGetCurrentDisplay | .eglGetError | .eglQueryAPI
  | .eglReleaseThread | .eglWaitClient | .eglWaitGL => []
  | .eglBindAPI | .eglInitialize | .eglTerminate => sequenced [.u32]
  | .eglGetCurrentSurface | .eglWaitNative => sequenced [.i32]
  | .eglDestroyContext | .eglDestroySurface | .eglGetDisplay | .eglSwapBuffers =>
      sequenced [.u32, .u32]
  | .eglDestroyImageKHR => sequenced [.u64, .u64]
  | .eglGetConfigs | .eglQueryString | .eglSwapInterval => sequenced [.u32, .i32]
  | .eglGetPlatformDisplayEXT => sequenced [.u32, .u64]
  | .eglBindTexImage | .eglGetConfigAttrib | .eglQueryContext | .eglQuerySurface
  | .eglReleaseTexImage => sequenced [.u32, .u32, .i32]
  | .eglCopyBuffers => sequenced [.u32, .u32, .u64]
  | .eglCreatePbufferSurface => sequenced [.u32, .u32, .u32]
  | .eglChooseConfig => sequenced [.u32, .u32, .u32, .i32]
  | .eglCreateContext | .eglMakeCurrent => sequenced [.u32, .u32, .u32, .u32]
  | .eglCreatePixmapSurface => sequenced [.u32, .u32, .u64, .u32]
  | .eglSurfaceAttrib => sequenced [.u32, .u32, .i32, .i32]
  | .eglCreatePlatformWindowSurfaceEXT | .eglCreateWindowSurface =>
      sequenced [.u32, .u32, .u32, .i32, .i32, .u32]
  | .eglCreatePbufferFromClientBuffer => []
  | .eglGetProcAddress => sequenced [.u32, .u32]
  | .eglCreateImageKHR =>
      sequenced ([.u64, .u64, .u32, .u64] ++ (readAttribs lists).flatMap (fun _ => [.u64, .u64]) ++
        [.u64])

def wlEglReads : WlEglStub → Reads
  | .wlEglWindowDestroy => sequenced [.u32]
  | .wlEglWindowCreate => sequenced [.u32, .i32, .i32]
  | .wlEglWindowResize => sequenced [.u32, .i32, .i32, .i32, .i32]
  | .wlEglWindowGetAttachedSize => []

def wlReads : WlMessage → Reads
  | .wlDisplayConnect | .wlCompositorCreateSurface | .wlGetKeymap => []
  | .wlDisplayDisconnect | .wlShellGetShellSurface | .wlShellSurfaceSetToplevel
  | .wlWebosShellGetShellSurface | .wlWebosSetProperty | .wlSurfaceCommit | .wlSurfaceDestroy
  | .wlProxyDestroy | .wlRoundtrip => sequenced [.u32]
  | .wlWebosShellSurfaceSetState => sequenced [.u32, .u32]

/-- The expressions that read arguments in the handler of a command. -/
def reads (lists : ArgLists) : Command → Reads
  | .gles2 function => gles2Reads lists function
  | .gles32 function => gles32Reads lists function
  | .glFlushMappedBufferRange => sequenced [.u32, .i32, .i32, .u32]
  | .egl function => eglReads lists function
  | .wlEgl function => wlEglReads function
  | .wl message => wlReads message
  | .invokeDynamic _ params | .invokeDynamicEgl _ params => [[.u32], params]

/-- How many bytes of a string at the end of `args` a handler looks at: up to the
terminator, past the last byte packed where that is missing. -/
def nameSpan (lists : ArgLists) : Command → Nat
  | command@(.gles32 .glGetFragDataLocation) | command@(.egl .eglGetProcAddress) =>
      strlen (command.nameArg lists) + 1
  | _ => 0

end GlesBridge.Proxy
