import GlesBridge.Data.Conversion
import GlesBridge.Shared.Args
import GlesBridge.Stub.Call

namespace GlesBridge.Stub

open GlesBridge.Data GlesBridge.Shared

/-! What `gen_gles2_sigs.py` and `gen_egl_sigs.py` make of the prototypes of a header for
the stub. -/

/-! ## Prototypes -/

/-- A prototype with the types of its parameters, as the header spells them. -/
structure Signature extends Prototype where
  params : List String

/-- `str.split` without an argument; `word` is what has come of the present word, turned
round. -/
def splitWords (word : List Char) : List Char → List (List Char)
  | [] => if word.isEmpty then [] else [word.reverse]
  | char :: rest =>
      if char.isWhitespace then
        if word.isEmpty then splitWords [] rest else word.reverse :: splitWords [] rest
      else splitWords (char :: word) rest

def normalizeType (spelling : String) : String :=
  String.ofList ([' '].intercalate (splitWords [] spelling.toList))

/-- `replace("const", "")` -/
def removeConst : List Char → List Char
  | 'c' :: 'o' :: 'n' :: 's' :: 't' :: rest => removeConst rest
  | char :: rest => char :: removeConst rest
  | [] => []

def baseType (spelling : String) : String :=
  normalizeType (String.ofList (removeConst spelling.toList))

/-- `"*" in` the type. -/
def starred (spelling : String) : Bool := (normalizeType spelling).toList.contains '*'

/-- `part in name` -/
def occursIn (part name : String) : Bool := name.toList.tails.any (part.toList.isPrefixOf ·)

/-! ## Which prototypes are accepted -/

def blacklist : List String :=
  ["glMaxActiveShaderCoresARM", "glDrawMeshTasksEXT", "glDrawMeshTasksIndirectEXT",
    "glMultiDrawMeshTasksIndirectEXT", "glMultiDrawMeshTasksIndirectCountEXT",
    "glCreateShaderProgramvEXT", "glGenSamplers", "glDeleteSamplers", "glIsSampler",
    "glBindSampler", "glSamplerParameteri", "glSamplerParameteriv", "glSamplerParameterf",
    "glSamplerParameterfv", "glGetSamplerParameteriv", "glGetSamplerParameterfv",
    "glTextureBarrierNV", "glNamedFramebufferTextureMultiviewOVR"]

def invalidTypes : List String := ["GLdouble", "GLVULKANPROCNV", "GLint64EXT", "GLuint64EXT"]

def isValidGlesFunction (function : Signature) : Bool :=
  !(["NV", "AMD", "INTEL", "APPLE"].any (occursIn · function.name)) &&
    !(invalidTypes.contains (baseType function.ret)) &&
    function.params.all (fun spelling => !(invalidTypes.contains (baseType spelling))) &&
    !(["glMatrixMultTransposedEXT", "glMatrixLoadTransposedEXT", "glMatrixLoaddEXT",
      "glMatrixMultdEXT"].contains function.name)

/-- Its own `BLACKLIST` is empty. -/
def isValidEglFunction (function : Signature) : Bool :=
  ["KHR", "EXT", "NV", "ANDROID", "WL", "HI", "MESA", "IMG", "QNX", "ARM"].any
    (occursIn · function.name)

def accepts (api : Api) (function : Signature) : Bool :=
  match api with
  | .gles => !(blacklist.contains function.name) && isValidGlesFunction function
  | .egl => isValidEglFunction function

/-! ## How a dispatcher packs -/

def pointerTypedefs : List String :=
  ["GLeglImageOES", "GLeglClientBufferEXT", "GLsync", "GLDEBUGPROCKHR", "GLVULKANPROCNV"]

/-- The test ahead of `PACK_MAP`, and of `UNPACK_MAP` for the proxy. -/
def isPointerType (api : Api) (spelling : String) : Bool :=
  starred spelling ||
    match api with
    | .gles => pointerTypedefs.contains (baseType (normalizeType spelling))
    | .egl => "EGL".toList.isPrefixOf (baseType (normalizeType spelling)).toList

def packMap : Api → List (String × Scalar)
  | .gles =>
      [("GLenum", .u32), ("GLuint", .u32), ("GLbitfield", .u32), ("GLboolean", .u32),
        ("GLint", .i32), ("GLsizei", .i32), ("GLintptr", .i32), ("GLsizeiptr", .i32),
        ("GLfixed", .i32), ("GLfloat", .f32), ("GLclampf", .f32), ("GLdouble", .u64)]
  | .egl =>
      [("EGLint", .i32), ("EGLBoolean", .u32), ("EGLenum", .u32), ("EGLAttrib", .u64),
        ("EGLAttribKHR", .u64), ("EGLTimeKHR", .u64), ("EGLTime", .u64), ("EGLuint64KHR", .u64),
        ("EGLnsecsANDROID", .u64)]

/-- Which `aw_*` the dispatcher calls for a parameter. -/
def packedAs (api : Api) (spelling : String) : Scalar :=
  if isPointerType api spelling then .u64
  else ((packMap api).lookup (baseType (normalizeType spelling))).getD .u64

def Signature.packed (api : Api) (function : Signature) : List Scalar :=
  function.params.map (packedAs api)

/-- The argument of an `aw_*`, converted to its type. -/
def packValue (scalar : Scalar) (value : Int) : Word := ⟨scalar.size, BitVec.ofInt _ value⟩

/-- What a dispatcher packs: the index, then its arguments. -/
def packArguments (api : Api) (function : Signature) (idx : UInt32) (values : List Int) :
    List Word :=
  ⟨4, idx.toBitVec⟩ ::
    List.zipWith (fun spelling value => packValue (packedAs api spelling) value) function.params
      values

/-! ## The entry points written by hand -/

/-- The names in `lookup_core_func`. -/
def coreFunctions : List String :=
  ["glActiveTexture", "glAttachShader", "glBindAttribLocation", "glBindBuffer",
    "glBindFramebuffer", "glBindRenderbuffer", "glBindTexture", "glBlendColor", "glBlendEquation",
    "glBlendEquationSeparate", "glBlendFunc", "glBlendFuncSeparate", "glBufferData",
    "glBufferSubData", "glCheckFramebufferStatus", "glClear", "glClearColor", "glClearDepthf",
    "glClearStencil", "glColorMask", "glCompileShader", "glCompressedTexImage2D",
    "glCompressedTexSubImage2D", "glCopyTexImage2D", "glCopyTexSubImage2D", "glCreateProgram",
    "glCreateShader", "glCullFace", "glDeleteBuffers", "glDeleteFramebuffers", "glDeleteProgram",
    "glDeleteRenderbuffers", "glDeleteShader", "glDeleteTextures", "glDepthFunc", "glDepthMask",
    "glDepthRangef", "glDetachShader", "glDisable", "glDisableVertexAttribArray", "glDrawArrays",
    "glDrawElements", "glEnable", "glEnableVertexAttribArray", "glFinish", "glFlush",
    "glFramebufferRenderbuffer", "glFramebufferTexture2D", "glFrontFace", "glGenBuffers",
    "glGenFramebuffers", "glGenRenderbuffers", "glGenTextures", "glGetActiveAttrib",
    "glGetActiveUniform", "glGetAttachedShaders", "glGetAttribLocation", "glGetBooleanv",
    "glGetBufferParameteriv", "glGetError", "glGetFloatv",
    "glGetFramebufferAttachmentParameteriv", "glGetIntegerv", "glGetProgramInfoLog",
    "glGetProgramiv", "glGetRenderbufferParameteriv", "glGetShaderInfoLog", "glGetShaderiv",
    "glGetString", "glGetTexParameterfv", "glGetTexParameteriv", "glGetUniformfv",
    "glGetUniformiv", "glGetUniformLocation", "glGetVertexAttribfv", "glGetVertexAttribiv",
    "glGetVertexAttribPointerv", "glHint", "glIsBuffer", "glIsEnabled", "glIsFramebuffer",
    "glIsProgram", "glIsRenderbuffer", "glIsShader", "glIsTexture", "glLineWidth",
    "glLinkProgram", "glPixelStorei", "glPolygonOffset", "glReadPixels", "glRenderbufferStorage",
    "glSampleCoverage", "glScissor", "glShaderBinary", "glShaderSource", "glStencilFunc",
    "glStencilFuncSeparate", "glStencilMask", "glStencilMaskSeparate", "glStencilOp",
    "glStencilOpSeparate", "glTexImage2D", "glTexParameterf", "glTexParameterfv",
    "glTexParameteri", "glTexParameteriv", "glTexSubImage2D", "glUniform1f", "glUniform1fv",
    "glUniform1i", "glUniform1iv", "glUniform2f", "glUniform2fv", "glUniform2i", "glUniform2iv",
    "glUniform3f", "glUniform3fv", "glUniform3i", "glUniform3iv", "glUniform4f", "glUniform4fv",
    "glUniform4i", "glUniform4iv", "glUniformMatrix2fv", "glUniformMatrix3fv",
    "glUniformMatrix4fv", "glUseProgram", "glValidateProgram", "glVertexAttrib1f",
    "glVertexAttrib1fv", "glVertexAttrib2f", "glVertexAttrib2fv", "glVertexAttrib3f",
    "glVertexAttrib3fv", "glVertexAttrib4f", "glVertexAttrib4fv", "glVertexAttribPointer",
    "glViewport", "glGenVertexArrays", "glDeleteVertexArrays", "glBindVertexArray",
    "glIsVertexArray", "glVertexAttribI4i", "glVertexAttribI4iv", "glVertexAttribI4ui",
    "glVertexAttribI4uiv", "glVertexAttribIPointer", "glGetVertexAttribIiv",
    "glGetVertexAttribIuiv", "glDrawArraysInstanced", "glDrawElementsInstanced",
    "glVertexAttribDivisor", "glMapBufferRange", "glFlushMappedBufferRange", "glUnmapBuffer",
    "glCopyBufferSubData", "glGetBufferPointerv", "glGenQueries", "glDeleteQueries",
    "glBeginQuery", "glEndQuery", "glGetQueryiv", "glGetQueryObjectuiv", "glIsQuery",
    "glGenSamplers", "glDeleteSamplers", "glBindSampler", "glIsSampler", "glSamplerParameteri",
    "glSamplerParameteriv", "glSamplerParameterf", "glSamplerParameterfv",
    "glGetSamplerParameteriv", "glGetSamplerParameterfv", "glBeginTransformFeedback",
    "glEndTransformFeedback", "glTransformFeedbackVaryings", "glGetTransformFeedbackVarying",
    "glBindBufferBase", "glBindBufferRange", "glGenTransformFeedbacks",
    "glDeleteTransformFeedbacks", "glBindTransformFeedback", "glPauseTransformFeedback",
    "glResumeTransformFeedback", "glIsTransformFeedback", "glGetUniformuiv", "glUniform1ui",
    "glUniform1uiv", "glUniform2ui", "glUniform2uiv", "glUniform3ui", "glUniform3uiv",
    "glUniform4ui", "glUniform4uiv", "glGetUniformIndices", "glGetActiveUniformsiv",
    "glGetUniformBlockIndex", "glGetActiveUniformBlockiv", "glGetActiveUniformBlockName",
    "glUniformBlockBinding", "glTexImage3D", "glTexSubImage3D", "glCopyTexSubImage3D",
    "glCompressedTexImage3D", "glCompressedTexSubImage3D", "glTexStorage2D", "glTexStorage3D",
    "glColorMaski", "glEnablei", "glDisablei", "glIsEnabledi", "glGetBooleani_v",
    "glGetTexParameterIiv", "glGetTexParameterIuiv", "glTexParameterIiv", "glTexParameterIuiv",
    "glFenceSync", "glClientWaitSync", "glWaitSync", "glDeleteSync", "glGetSynciv", "glIsSync",
    "glGetStringi", "glGetInteger64v", "glGetFragDataLocation",
    "glRenderbufferStorageMultisample", "glBlitFramebuffer", "glFramebufferTextureLayer",
    "glDebugMessageCallback", "glDebugMessageControl", "glReadBuffer", "glDrawRangeElements",
    "glGetShaderSource", "glGetProgramBinary", "glProgramBinary", "glProgramParameteri",
    "glGetShaderPrecisionFormat", "glReleaseShaderCompiler", "glDrawBuffers", "glClearBufferfi",
    "glClearBufferfv", "glClearBufferiv", "glClearBufferuiv", "glTexBuffer",
    "glGetBufferParameteri64v", "glGetInteger64i_v", "glGetIntegeri_v",
    "glGetSamplerParameterIiv", "glGetSamplerParameterIuiv", "glSamplerParameterIiv",
    "glSamplerParameterIuiv", "glGenerateMipmap", "glTexStorage2DMultisample",
    "glTexStorage3DMultisample", "glFramebufferTexture", "glGetInternalformativ",
    "glDrawElementsBaseVertex", "glDrawElementsInstancedBaseVertex",
    "glDrawRangeElementsBaseVertex", "glMinSampleShading", "glGetPointerv",
    "glDebugMessageInsert", "glGetDebugMessageLog", "glGetObjectLabel", "glGetObjectPtrLabel",
    "glObjectLabel", "glObjectPtrLabel", "glPopDebugGroup", "glPushDebugGroup",
    "glCopyImageSubData", "glBindImageTexture", "glMemoryBarrier", "glDispatchCompute",
    "glDispatchComputeIndirect", "glInvalidateFramebuffer", "glInvalidateSubFramebuffer",
    "glTexBufferRange", "glUniformMatrix2x3fv", "glUniformMatrix2x4fv", "glUniformMatrix3x2fv",
    "glUniformMatrix3x4fv", "glUniformMatrix4x2fv", "glUniformMatrix4x3fv",
    "glDrawArraysIndirect", "glDrawElementsIndirect", "glMemoryBarrierByRegion",
    "glGetProgramInterfaceiv", "glGetProgramResourceIndex", "glGetProgramResourceName",
    "glGetProgramResourceiv", "glGetProgramResourceLocation", "glUseProgramStages",
    "glActiveShaderProgram", "glCreateShaderProgramv", "glBindProgramPipeline",
    "glDeleteProgramPipelines", "glGenProgramPipelines", "glIsProgramPipeline",
    "glValidateProgramPipeline", "glGetProgramPipelineInfoLog", "glBlendBarrier",
    "glPrimitiveBoundingBox", "glGetGraphicsResetStatus", "glReadnPixels", "glGetnUniformfv",
    "glGetnUniformiv", "glGetnUniformuiv", "glPatchParameteri", "eglCreateImageKHR",
    "eglDestroyImageKHR"]

/-- What `eglGetProcAddress` returns ahead of the tables. -/
def handWritten (name : String) : Bool :=
  coreFunctions.contains name ||
    name == "eglGetPlatformDisplayEXT" || name == "eglCreatePlatformWindowSurfaceEXT"

end GlesBridge.Stub
