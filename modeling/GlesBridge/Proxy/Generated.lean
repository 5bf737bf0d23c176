import GlesBridge.Stub.Generated

namespace GlesBridge.Proxy

open GlesBridge.Data GlesBridge.Shared GlesBridge.Stub

/-! What the generators make of the prototypes for the proxy, and `h_eglGetProcAddress`. -/

/-! ## Parameter types -/

/-- A type as it is in the client's process and in the proxy's. -/
structure ParamType where
  signed : Bool
  client : Width
  proxy : Width
deriving DecidableEq, Repr

def ParamType.inClient (type : ParamType) : IntType := ⟨type.signed, type.client⟩

def ParamType.inProxy (type : ParamType) : IntType := ⟨type.signed, type.proxy⟩

/-- A pointer. -/
def pointerType : ParamType := ⟨false, .w64, .w32⟩

/-- The types with names that the generators know.  Those of floating-point numbers stand
for their bits. -/
def knownTypes : List (String × ParamType) :=
  [("GLenum", ⟨false, .w32, .w32⟩), ("GLuint", ⟨false, .w32, .w32⟩),
    ("GLbitfield", ⟨false, .w32, .w32⟩), ("GLboolean", ⟨false, .w8, .w8⟩),
    ("GLint", ⟨true, .w32, .w32⟩), ("GLsizei", ⟨true, .w32, .w32⟩),
    ("GLintptr", ⟨true, .w64, .w32⟩), ("GLsizeiptr", ⟨true, .w64, .w32⟩),
    ("GLfixed", ⟨true, .w32, .w32⟩), ("GLfloat", ⟨false, .w32, .w32⟩),
    ("GLclampf", ⟨false, .w32, .w32⟩), ("GLeglImageOES", pointerType),
    ("GLeglClientBufferEXT", pointerType), ("GLsync", pointerType),
    ("GLDEBUGPROCKHR", pointerType), ("EGLint", ⟨true, .w32, .w32⟩),
    ("EGLBoolean", ⟨false, .w32, .w32⟩), ("EGLenum", ⟨false, .w32, .w32⟩),
    ("EGLAttrib", ⟨true, .w64, .w32⟩), ("EGLAttribKHR", ⟨true, .w64, .w32⟩),
    ("EGLTimeKHR", ⟨false, .w64, .w64⟩), ("EGLTime", ⟨false, .w64, .w64⟩),
    ("EGLuint64KHR", ⟨false, .w64, .w64⟩), ("EGLnsecsANDROID", ⟨true, .w64, .w64⟩),
    ("EGLDisplay", pointerType), ("EGLConfig", pointerType), ("EGLContext", pointerType),
    ("EGLSurface", pointerType)]

/-- `others` has the types of the other names, as the header declares them. -/
def paramType (others : String → ParamType) (spelling : String) : ParamType :=
  if starred spelling then pointerType
  else
    let base := baseType (normalizeType spelling)
    (knownTypes.lookup base).getD (others base)

/-! ## The cases of `h_InvokeDynamic` and `h_InvokeDynamicEGL` -/

def unpackMap : Api → List (String × Scalar)
  | .gles =>
      [("GLenum", .u32), ("GLuint", .u32), ("GLbitfield", .u32), ("GLboolean", .u32),
        ("GLint", .i32), ("GLsizei", .i32), ("GLintptr", .i32), ("GLsizeiptr", .i32),
        ("GLfixed", .i32), ("GLfloat", .f32), ("GLclampf", .f32), ("GLdouble", .u64)]
  | .egl =>
      [("EGLint", .i32), ("EGLBoolean", .u32), ("EGLenum", .u32), ("EGLAttrib", .u64),
        ("EGLAttribKHR", .u64), ("EGLTimeKHR", .u64), ("EGLTime", .u64), ("EGLuint64KHR", .u64),
        ("EGLnsecsANDROID", .u64)]

/-- How the case of a function reads a parameter: `(T)ar_*(&r)` with the reader given, or
`(T)(uintptr_t)ar_u64(&r)`. -/
def unpackedBy (api : Api) (spelling : String) : Option Scalar :=
  if isPointerType api spelling then none
  else (unpackMap api).lookup (baseType (normalizeType spelling))

def readAs (api : Api) (spelling : String) : Scalar := (unpackedBy api spelling).getD .u64

/-- The value of an `ar_*`. -/
def wordValue (scalar : Scalar) (word : Word) : Int :=
  match scalar with
  | .i32 | .i64 => word.bits.toInt
  | .u32 | .f32 | .u64 => word.bits.toNat

/-- The argument of the driver's function. -/
def castArgument (others : String → ParamType) (api : Api) (spelling : String) (word : Word) :
    Int :=
  let type := (paramType others spelling).inProxy
  match unpackedBy api spelling with
  | some scalar => type.convert (wordValue scalar word)
  -- through a `uintptr_t` of 32 bits
  | none => type.convert (IntType.uint32.convert (wordValue .u64 word))

/-- The `ar_*` calls of a statement, from the left to the right. -/
def readWords : List Scalar → ArgReader → List Word
  | [], _ => []
  | scalar :: rest, r =>
      let (word, after) := ar scalar r
      word :: readWords rest after

/-- A call of the driver. -/
structure Invocation where
  name : String
  arguments : List Int
deriving DecidableEq, Repr

/-- The `switch`; `none` where the driver is not called. -/
def invokeCase (others : String → ParamType) (driver : String → Bool) (api : Api)
    (funcs : List Signature) (idx : Nat) (r : ArgReader) : Option Invocation :=
  match funcs[idx]? with
  | none => none
  | some function =>
      if driver function.name then
        let words := readWords (function.params.map (readAs api)) r
        some ⟨function.name, List.zipWith (castArgument others api) function.params words⟩
      else none

/-- `h_InvokeDynamic`, and `h_InvokeDynamicEGL` on the other list. -/
def hInvokeDynamic (others : String → ParamType) (driver : String → Bool) (api : Api)
    (funcs : List Signature) (args : List UInt8) : Option Invocation :=
  let read := ar .u32 (arInit args)
  invokeCase others driver api funcs read.1.bits.toNat read.2

/-! ## `h_eglGetProcAddress` -/

abbrev maxDynamicFuncs : Nat := 2048

/-- `gl_dyn_table[0].name` and `egl_dyn_table[0].name`: both counts stay 1. -/
abbrev DynTables := Api → String

/-- `strncpy` into `name[128]`. -/
def storedName (name : String) : String := String.ofList (name.toList.take 127)

def hEglGetProcAddress (driver : String → Bool) (dyn : DynTables) (api : Api) (idx : UInt32)
    (name : String) : UInt32 × DynTables :=
  if dyn api = name then (0, dyn)
  else if !driver name then (0, dyn)
  else if maxDynamicFuncs ≤ idx.toNat then (0, dyn)
  else (idx, if idx = 0 then Function.update dyn api (storedName name) else dyn)

end GlesBridge.Proxy
