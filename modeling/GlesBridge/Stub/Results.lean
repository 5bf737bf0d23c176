import GlesBridge.Gl.Queries
import GlesBridge.Stub.Packing

namespace GlesBridge.Stub

open GlesBridge.Gl

/-! What the entry points copy out of `t_result`, their copy of the result buffer. -/

abbrev bridgeResultSize : Nat := 4096

/-- The sizes in a call whose answer comes through the result buffer. -/
structure ResultArgs where
  /-- `n`, `count`, `uniformCount` or `bufSize`. -/
  size : Size
  /-- The `GLuint count` of `glGetDebugMessageLog`. -/
  messages : UInt32
  /-- The pointer for the values or the text is not `NULL`. -/
  wanted : Bool

def whenWanted (args : ResultArgs) (sizes : List Nat) : List Nat :=
  if args.wanted then sizes else []

/-- `r.pos` moves over the texts also where they are not copied, so that all but the
last of them lie below what is read. -/
def logReads (args : ResultArgs) : List Nat → List Nat
  | [] => []
  | [length] => [4, 4, 4, 4, 4] ++ whenWanted args [length]
  | length :: rest => [4, 4, 4, 4, 4, length] ++ logReads args rest

def Gles2Stub.resultReads (args : ResultArgs) (answer : Answer) : Gles2Stub → List Nat
  | .glGetActiveUniform | .glGetActiveAttrib => whenWanted args [4]
  | .glGetString => [min (answer.string.getD 0) (bridgeResultSize - 1) + 1]
  | _ => []

def Gles32Stub.resultReads (args : ResultArgs) (answer : Answer) : Gles32Stub → List Nat
  | .glGenVertexArrays | .glGenQueries | .glGenSamplers | .glGenTransformFeedbacks
  | .glGetUniformIndices | .glGetActiveUniformsiv => [args.size.val * 4]
  | .glGenProgramPipelines | .glGetInternalformativ => List.replicate args.size.val 4
  | .glReadnPixels | .glGetnUniformfv | .glGetnUniformiv | .glGetnUniformuiv => [args.size.val]
  | .glGetTransformFeedbackVarying =>
      [4, 4, 4] ++ whenWanted args [min args.size.val (answer.length args.size + 1)]
  | .glGetActiveUniformBlockName | .glGetProgramResourceName | .glGetProgramPipelineInfoLog =>
      [4, answer.length args.size]
  | .glGetObjectLabel | .glGetObjectPtrLabel => [4] ++ whenWanted args [answer.length args.size]
  | .glGetSynciv => [4] ++ whenWanted args [min 1 (answer.values args.size) * 4]
  | .glGetProgramResourceiv => 4 :: List.replicate (answer.values args.size) 4
  | .glGetDebugMessageLog =>
      4 :: logReads args (fetched args.messages.toNat args.size.val answer.messages)
  | .glGetProgramBinary => [4, 4]
  | .glGetInteger64v | .glGetBufferPointerv | .glGetPointerv | .glGetBufferParameteri64v
  | .glGetInteger64i_v => [8]
  | .glGetSamplerParameteriv | .glGetSamplerParameterfv => [16]
  | .glGetSamplerParameterIiv | .glGetSamplerParameterIuiv => [4, 4, 4, 4]
  | .glGetUniformuiv | .glGetTexParameterIiv | .glGetTexParameterIuiv | .glGetVertexAttribIiv
  | .glGetVertexAttribIuiv | .glGetQueryiv | .glGetQueryObjectuiv | .glGetActiveUniformBlockiv
  | .glGetIntegeri_v | .glIsProgramPipeline | .glGetProgramInterfaceiv | .glGetProgramResourceIndex
  | .glGetProgramResourceLocation | .glCreateShaderProgramv | .glGetGraphicsResetStatus => [4]
  | .glGetBooleani_v => [1]
  | _ => []

def EglStub.resultReads (args : ResultArgs) (answer : Answer) : EglStub → List Nat
  | .eglInitialize => whenWanted args [4, 4]
  | .eglQueryString => [min (answer.string.getD 0 + 1) (bridgeResultSize - 1)]
  | _ => []

/-- The sizes of what is read, from the start of `t_result` on. -/
def Command.resultReads (args : ResultArgs) (answer : Answer) : Command → List Nat
  | .gles2 function => function.resultReads args answer
  | .gles32 function => function.resultReads args answer
  | .egl function => function.resultReads args answer
  | _ => []

end GlesBridge.Stub
