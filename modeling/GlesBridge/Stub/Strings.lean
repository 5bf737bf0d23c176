import GlesBridge.Gl.Queries
import GlesBridge.Shared.Args
import GlesBridge.Stub.Upload
import GlesBridge.Systems.Reading

namespace GlesBridge.Stub

open GlesBridge.Data GlesBridge.Gl GlesBridge.Shared GlesBridge.Systems

/-! Lists of strings, which the stub sends in one block, the source texts of a
shader, which it sends in a block each, the queries that bring texts back, and the
texts for the debug output. -/

/-- A string of the client, without its terminator. -/
structure CString where
  bytes : List UInt8
  free : 0 ∉ bytes
deriving DecidableEq

def CString.strlen (string : CString) : UInt64 := .ofNat string.bytes.length

/-- The strings of a call, no more than a `GLsizei` counts. -/
structure StringArray where
  strings : List CString
  few : strings.length < 2147483648

def StringArray.count (array : StringArray) : Int32 := .ofNat array.strings.length

/-- The entry points that take a list of strings. -/
inductive StringsOp where
  | glTransformFeedbackVaryings
  | glGetUniformIndices
  | glCreateShaderProgramv
deriving DecidableEq, Repr

structure StringsSlot where
  count : Int32
  dataOffset : UInt32
  dataSize : UInt32
deriving DecidableEq

/-- The first loop. -/
def packTotal (strings : List CString) : UInt64 :=
  strings.foldl (fun total string => total + (string.strlen + 1)) 0

/-- The second loop, behind what `buf` holds; past the end of `buf` it has no defined
outcome. -/
def packInto (total : Nat) : List UInt8 → List CString → Option (List UInt8)
  | buf, [] => some buf
  | buf, string :: rest =>
      if buf.length + (string.bytes.length + 1) ≤ total then
        packInto total (buf ++ (string.bytes ++ [0])) rest
      else none

namespace UploadStub

variable (stub : UploadStub)

/-- As `bridge_data_write`, from a block of the stub's own. -/
def blockWrite (buf : List UInt8) (size : UInt64) : Option (UploadStub × UInt32) :=
  (stub.ringDataAlloc size.toNat).map fun (stub, offset) =>
    ({ stub with
        arena := Ring.writeBytes stub.arena offset.toNat size.toNat fun place => buf.getD place 0 },
      offset)

def packStrings (array : StringArray) : Option (UploadStub × StringsSlot) :=
  let total := packTotal array.strings
  (packInto total.toNat [] array.strings).bind fun buf =>
    (stub.blockWrite buf total).map fun (stub, offset) =>
      (stub, ⟨array.count, offset, total.toUInt32⟩)

/-! ## Lists of strings -/

def glTransformFeedbackVaryings (varyings : StringArray) : Option (UploadStub × StringsSlot) :=
  stub.packStrings varyings

def glGetUniformIndices (uniformNames : StringArray) : Option (UploadStub × StringsSlot) :=
  stub.packStrings uniformNames

/-- Without strings there is no block. -/
def glCreateShaderProgramv (strings : StringArray) : Option (UploadStub × StringsSlot) :=
  if 0 < strings.count then stub.packStrings strings else some (stub, ⟨strings.count, 0, 0⟩)

def sendStrings (strings : StringArray) : StringsOp → Option (UploadStub × StringsSlot)
  | .glTransformFeedbackVaryings => stub.glTransformFeedbackVaryings strings
  | .glGetUniformIndices => stub.glGetUniformIndices strings
  | .glCreateShaderProgramv => stub.glCreateShaderProgramv strings

end UploadStub

/-! ## Source texts -/

/-- The client's memory from a pointer on, a terminator behind it, and the entry of
the array of lengths, where there is an array. -/
structure ShaderString where
  bytes : List UInt8
  length : Option Int32
  inside : ∀ given, length = some given → 0 ≤ given → given.toNatClampNeg ≤ bytes.length

def ShaderString.len (string : ShaderString) : UInt32 :=
  match string.length with
  | some given => if 0 ≤ given then given.toUInt32 else .ofNat (strlen string.bytes)
  | none => .ofNat (strlen string.bytes)

/-- A null pointer is `none`. -/
structure ShaderCall where
  shader : UInt32
  count : Int32
  strings : List (Option ShaderString)
  counted : strings.length = count.toNatClampNeg

/-- A slot from `args` on, in words: 64 of arguments, then `args_len`, `data_offset`
and `data_size`. -/
abbrev SlotWords := Nat → UInt32

namespace UploadStub

/-- A text, and what the stub notes of it. -/
def writeText (stub : UploadStub) : Option ShaderString → Option (UploadStub × UInt32 × UInt32)
  | some string =>
      (stub.blockWrite string.bytes string.len.toUInt64).map fun (stub, off) =>
        (stub, off, string.len)
  | none => some (stub, 0, 0)

def writeTexts : UploadStub → List (Option ShaderString) →
    Option (UploadStub × List (UInt32 × UInt32))
  | stub, [] => some (stub, [])
  | stub, string :: rest =>
      (stub.writeText string).bind fun (stub, metadata) =>
        (writeTexts stub rest).map fun (stub, more) => (stub, metadata :: more)

/-- The pairs go into `args` from its third word on, however many they are. The
members behind `args` are set last. -/
def glShaderSource (stub : UploadStub) (call : ShaderCall) (slot : SlotWords) :
    Option (UploadStub × SlotWords) :=
  (stub.writeTexts call.strings).map fun (stub, metadata) =>
    let slot := Function.update (Function.update slot 0 call.shader) 1 call.count.toUInt32
    let slot := Reading.storePairs id 2 (List.replicate call.strings.length (0, 0)) slot
    let slot := Reading.storePairs id 2 metadata slot
    let slot := Function.update slot 64 (.ofNat (8 + 8 * call.strings.length))
    (stub, Function.update (Function.update slot 65 0) 66 0)

end UploadStub

/-! ## Texts that come back -/

/-- The queries that answer with a text and its length. -/
inductive TextQuery where
  | glGetActiveUniformBlockName
  | glGetProgramResourceName
  | glGetProgramPipelineInfoLog
  | glGetObjectLabel
  | glGetObjectPtrLabel
deriving DecidableEq, Repr

section

variable (client : TextClient) (result : List UInt8)

/-- The `ar_i32` at the start of the result. -/
def resultLen : Int32 := (UInt32.ofNat (ofLittleEndian (result.take 4))).toInt32

/-- The copy of what follows. -/
def resultText (size : Nat) : Nat → UInt8 :=
  overwrite 0 size (fun place => result.getD (4 + place) 0) client.buffer

/-- A null `length` is written through. -/
def storeText : Option TextClient :=
  client.length.map fun _ =>
    { length := some (resultLen result)
      buffer := resultText client result (resultLen result).toNatClampNeg }

def storeLabel : Option TextClient :=
  some
    { length := client.length.map fun _ => resultLen result
      buffer :=
        if 0 < resultLen result then resultText client result (resultLen result).toNatClampNeg
        else client.buffer }

def glGetActiveUniformBlockName : Option TextClient :=
  some
    { length := client.length.map fun _ => resultLen result
      buffer := resultText client result (resultLen result).toNatClampNeg }

def glGetProgramResourceName : Option TextClient := storeText client result

def glGetProgramPipelineInfoLog : Option TextClient := storeText client result

def glGetObjectLabel : Option TextClient := storeLabel client result

def glGetObjectPtrLabel : Option TextClient := storeLabel client result

def takeText : TextQuery → Option TextClient
  | .glGetActiveUniformBlockName => glGetActiveUniformBlockName client result
  | .glGetProgramResourceName => glGetProgramResourceName client result
  | .glGetProgramPipelineInfoLog => glGetProgramPipelineInfoLog client result
  | .glGetObjectLabel => glGetObjectLabel client result
  | .glGetObjectPtrLabel => glGetObjectPtrLabel client result

end

/-! ## The debug log -/

/-- Which of the five reads of a turn gives the word of an array. -/
def logIndex : LogArray → Nat
  | .sources => 0
  | .types => 1
  | .ids => 2
  | .severities => 3
  | .lengths => 4

/-- What it gives, the turn starting at `pos`. -/
def logWord (result : List UInt8) (pos : Nat) (array : LogArray) : UInt32 :=
  .ofNat (ofLittleEndian (chunk result (pos + 4 * logIndex array) 4))

/-- The loop; `moved` is how far `messageLog` has moved. No length that the proxy sends
is negative. -/
def unpackLog (pointers : LogPointers) (result : List UInt8) :
    (i turns pos moved : Nat) → LogBuffers → LogBuffers
  | _, 0, _, _, buffers => buffers
  | i, turns + 1, pos, moved, buffers =>
      let len := (logWord result pos .lengths).toInt32
      let copied := pointers.messageLog && decide (0 < len)
      unpackLog pointers result (i + 1) turns (pos + 20 + len.toNatClampNeg)
        (if copied then moved + len.toNatClampNeg else moved)
        { words := fun array =>
            if pointers.array array then
              Function.update (buffers.words array) i (logWord result pos array)
            else buffers.words array
          messageLog :=
            if copied then
              overwrite moved len.toNatClampNeg (fun place => result.getD (pos + 20 + place) 0)
                buffers.messageLog
            else buffers.messageLog }

/-- The number that is returned, and the buffers then. -/
def glGetDebugMessageLog (pointers : LogPointers) (result : List UInt8) (client : LogBuffers) :
    UInt32 × LogBuffers :=
  let num : UInt32 := .ofNat (ofLittleEndian (chunk result 0 4))
  (num, unpackLog pointers result 0 num.toNat 4 0 client)

/-! ## Texts for the debug output -/

/-- The entry points with one. -/
inductive DebugTextOp where
  | glDebugMessageInsert
  | glPushDebugGroup
  | glObjectLabel
  | glObjectPtrLabel
deriving DecidableEq, Repr

/-- The length, and the client's memory from the pointer on, a terminator behind it. A
null pointer is `none`. -/
structure DebugText where
  length : Int32
  message : Option (List UInt8)
  inside : ∀ bytes, message = some bytes → 0 ≤ length → length.toNatClampNeg ≤ bytes.length
  short : ∀ bytes, message = some bytes → bytes.length < 2147483648

/-- What the slot says of it; the length is the last of the arguments. -/
structure DebugTextSlot where
  length : Int32
  dataOffset : UInt32
  dataSize : UInt32
deriving DecidableEq

namespace UploadStub

variable (stub : UploadStub) (call : DebugText)

/-- The length that was counted does not go into the arguments. -/
def sendDebugText : Option (UploadStub × DebugTextSlot) :=
  match call.message with
  | some message =>
      let length := if call.length < 0 then Int32.ofNat (strlen message) else call.length
      (stub.blockWrite message length.toInt64.toUInt64).map fun (stub, offset) =>
        (stub, ⟨call.length, offset, length.toUInt32⟩)
  | none => some (stub, ⟨call.length, 0, 0⟩)

def glDebugMessageInsert : Option (UploadStub × DebugTextSlot) := stub.sendDebugText call

def glPushDebugGroup : Option (UploadStub × DebugTextSlot) := stub.sendDebugText call

/-- In builds with `DEBUG`; in others nothing is sent. -/
def glObjectLabel : Option (UploadStub × DebugTextSlot) := stub.sendDebugText call

def glObjectPtrLabel : Option (UploadStub × DebugTextSlot) := stub.sendDebugText call

def sendDebug : DebugTextOp → Option (UploadStub × DebugTextSlot)
  | .glDebugMessageInsert => stub.glDebugMessageInsert call
  | .glPushDebugGroup => stub.glPushDebugGroup call
  | .glObjectLabel => stub.glObjectLabel call
  | .glObjectPtrLabel => stub.glObjectPtrLabel call

end UploadStub

end GlesBridge.Stub
