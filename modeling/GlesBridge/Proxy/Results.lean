import GlesBridge.Stub.Results

namespace GlesBridge.Proxy

open GlesBridge.Gl GlesBridge.Stub

/-! What the handlers write to `ring->result_buf`. -/

/-- `count * sizeof(GLuint)`, a `size_t` of 32 bits. -/
def wordBytes (count : Size) : Nat := (UInt32.ofNat count.val * 4).toNat

/-- `strncpy` fills the buffer up, the last byte is set behind it. -/
def stringWrites (answer : Answer) : List Nat :=
  if answer.string.isSome then [bridgeResultSize - 1, 1] else [1]

def gles2ResultWrites (answer : Answer) : Gles2Stub → List Nat
  | .glGetActiveUniform | .glGetActiveAttrib => [4]
  | .glGetString => stringWrites answer
  | _ => []

def gles32ResultWrites (args : ResultArgs) (answer : Answer) : Gles32Stub → List Nat
  -- the driver puts the names into the result buffer itself
  | .glGenVertexArrays | .glGenQueries => [args.size.val * 4]
  | .glGenSamplers | .glGenTransformFeedbacks | .glGenProgramPipelines | .glGetUniformIndices
  | .glGetActiveUniformsiv | .glGetInternalformativ => [wordBytes args.size]
  | .glReadnPixels | .glGetnUniformfv | .glGetnUniformiv | .glGetnUniformuiv => [args.size.val]
  | .glGetTransformFeedbackVarying => [4, 4, 4, answer.length args.size + 1]
  | .glGetActiveUniformBlockName | .glGetObjectLabel | .glGetObjectPtrLabel
  | .glGetProgramResourceName | .glGetProgramPipelineInfoLog => [4, answer.length args.size]
  -- no query about a sync object has more than one value
  | .glGetSynciv => [4, min 1 (answer.values args.size) * 4]
  | .glGetProgramResourceiv => [4, answer.values args.size * 4]
  | .glGetDebugMessageLog =>
      4 :: (fetched args.messages.toNat args.size.val answer.messages).flatMap
        fun length => [4, 4, 4, 4, 4, length]
  | .glGetStringi => stringWrites answer
  | .glGetProgramBinary => [4, 4]
  | .glGetInteger64v | .glGetBufferPointerv | .glGetPointerv | .glGetBufferParameteri64v
  | .glGetInteger64i_v => [8]
  | .glGetSamplerParameteriv | .glGetSamplerParameterfv | .glGetSamplerParameterIiv
  | .glGetSamplerParameterIuiv => [16]
  | .glGetUniformuiv | .glGetTexParameterIiv | .glGetTexParameterIuiv | .glGetVertexAttribIiv
  | .glGetVertexAttribIuiv | .glGetQueryiv | .glGetQueryObjectuiv | .glGetActiveUniformBlockiv
  | .glGetIntegeri_v | .glGetProgramInterfaceiv | .glGetProgramResourceIndex
  | .glGetProgramResourceLocation | .glCreateShaderProgramv | .glGetGraphicsResetStatus => [4]
  | .glGetBooleani_v | .glIsProgramPipeline => [1]
  | _ => []

def eglResultWrites (answer : Answer) : EglStub → List Nat
  | .eglInitialize => [4, 4]
  | .eglQueryString => if answer.string.isSome then [bridgeResultSize - 1] else [1]
  | _ => []

/-- The sizes of the writes, from the start of the result buffer on. -/
def resultWrites (args : ResultArgs) (answer : Answer) : Command → List Nat
  | .gles2 function => gles2ResultWrites answer function
  | .gles32 function => gles32ResultWrites args answer function
  | .egl function => eglResultWrites answer function
  | _ => []

end GlesBridge.Proxy
