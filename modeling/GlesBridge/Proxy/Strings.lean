import GlesBridge.Proxy.Decoding
import GlesBridge.Stub.Results
import GlesBridge.Stub.Strings
import GlesBridge.Systems.Terminated

namespace GlesBridge.Proxy

open GlesBridge.Data GlesBridge.Gl GlesBridge.Shared GlesBridge.Stub GlesBridge.Systems

/-! The lists of strings and the source texts that the handlers give to the driver, and
the texts that they get from it. Behind the arena there is nothing to read. -/

/-- What a handler reads of the arena before it has its list. -/
abbrev NamesReading := Reading Nat UInt8 (Option (List (List UInt8)))

/-- The loop over the block. -/
def unpackStrings (slot : StringsSlot) : NamesReading :=
  Reading.terminatedList 0 glesBridgeDataSize slot.count.toNatClampNeg slot.dataOffset.toNat

def hGlTransformFeedbackVaryings (slot : StringsSlot) : NamesReading := unpackStrings slot

def hGlGetUniformIndices (slot : StringsSlot) : NamesReading := unpackStrings slot

/-- Without a block the array is a null pointer, from which the driver can read no
string. -/
def hGlCreateShaderProgramv (slot : StringsSlot) : NamesReading :=
  if 0 < slot.dataSize ∧ 0 < slot.count then unpackStrings slot
  else .done (if 0 < slot.count then none else some [])

def handleStrings (slot : StringsSlot) : StringsOp → NamesReading
  | .glTransformFeedbackVaryings => hGlTransformFeedbackVaryings slot
  | .glGetUniformIndices => hGlGetUniformIndices slot
  | .glCreateShaderProgramv => hGlCreateShaderProgramv slot

/-! ## Source texts -/

/-- What the driver takes. -/
structure ShaderSource where
  shader : UInt32
  count : Int32
  texts : List (List UInt8)
deriving DecidableEq

/-- No length is negative as a `GLint`: the arena has no block of that size. -/
def sourceText (arena : Nat → UInt8) (metadata : UInt32 × UInt32) : List UInt8 :=
  if metadata.1 = 0 ∧ metadata.2 = 0 then []
  else Ring.readBytes arena metadata.1.toNat metadata.2.toNat

def hGlShaderSource (slot : SlotWords) (arena : Nat → UInt8) : ShaderSource :=
  let count := shaderStrings (slot 1).toInt32
  { shader := slot 0
    count
    texts := ((Reading.pairs id 2 count.toNatClampNeg).eval slot).map (sourceText arena) }

/-! ## Texts that come back -/

/-- What a handler puts into the result: the length, and of its own copy as many bytes
as that says. Past the end of the result there is no defined outcome. -/
def copyText (text : List UInt8) (bufSize : Size) : Option (List UInt8) :=
  let tmp := driverText text bufSize
  let len := textLength text bufSize
  if 4 + len ≤ bridgeResultSize then some (littleEndian 4 len ++ tmp.take len) else none

def hGlGetActiveUniformBlockName (text : List UInt8) (bufSize : Size) : Option (List UInt8) :=
  copyText text bufSize

def hGlGetProgramResourceName (text : List UInt8) (bufSize : Size) : Option (List UInt8) :=
  copyText text bufSize

def hGlGetProgramPipelineInfoLog (text : List UInt8) (bufSize : Size) : Option (List UInt8) :=
  copyText text bufSize

def hGlGetObjectLabel (text : List UInt8) (bufSize : Size) : Option (List UInt8) :=
  copyText text bufSize

def hGlGetObjectPtrLabel (text : List UInt8) (bufSize : Size) : Option (List UInt8) :=
  copyText text bufSize

def handleText (text : List UInt8) (bufSize : Size) : TextQuery → Option (List UInt8)
  | .glGetActiveUniformBlockName => hGlGetActiveUniformBlockName text bufSize
  | .glGetProgramResourceName => hGlGetProgramResourceName text bufSize
  | .glGetProgramPipelineInfoLog => hGlGetProgramPipelineInfoLog text bufSize
  | .glGetObjectLabel => hGlGetObjectLabel text bufSize
  | .glGetObjectPtrLabel => hGlGetObjectPtrLabel text bufSize

/-! ## The debug log -/

/-- The arrays that the handler takes from its stack, none of them null. -/
def stackPointers : LogPointers := ⟨fun _ => true, true⟩

/-- What a turn of the loop writes of message `i`; `log` is how far that pointer has
moved. -/
def logRecord (arrays : LogBuffers) (i log : Nat) : List UInt8 :=
  [LogArray.sources, .types, .ids, .severities, .lengths].flatMap (fun array =>
      littleEndian 4 (arrays.words array i).toNat) ++
    Ring.readBytes arrays.messageLog log (arrays.words .lengths i).toNat

/-- The loop, behind what stands in the result. Past the end of the result there is no
defined outcome. -/
def packLog (arrays : LogBuffers) : (i turns log : Nat) → List UInt8 → Option (List UInt8)
  | _, 0, _, out => some out
  | i, turns + 1, log, out =>
      let record := logRecord arrays i log
      if out.length + record.length ≤ bridgeResultSize then
        packLog arrays (i + 1) turns (log + (arrays.words .lengths i).toNat) (out ++ record)
      else none

/-- The result, and the log that the driver keeps. -/
def hGlGetDebugMessageLog (log : List DebugMessage) (count : UInt32) (bufSize : Size)
    (stack : LogBuffers) : Option (List UInt8 × List DebugMessage) :=
  let answer := driverLog log count bufSize stackPointers stack
  (packLog answer.buffers 0 answer.num.toNat 0 (littleEndian 4 answer.num.toNat)).map fun result =>
    (result, answer.log)

/-! ## Texts for the debug output -/

/-- What the driver has of a text; `endless` is one without an end in the arena. -/
inductive DebugArgument where
  | null
  | text (bytes : List UInt8)
  | endless
deriving DecidableEq

abbrev DebugReading := Reading Nat UInt8 DebugArgument

/-- The driver goes by the length, where that is negative by the terminator. -/
def driverReads (length : Int32) (address : Nat) : DebugReading :=
  if length < 0 then
    (Reading.terminated 0 (glesBridgeDataSize - address) address).bind fun found =>
      .done (found.elim .endless .text)
  else (Reading.sequence id address length.toNatClampNeg).bind fun bytes => .done (.text bytes)

/-- Without a block the pointer is null. -/
def debugText (slot : DebugTextSlot) : DebugReading :=
  if 0 < slot.dataSize then driverReads slot.length slot.dataOffset.toNat else .done .null

def hGlDebugMessageInsert (slot : DebugTextSlot) : DebugReading := debugText slot

def hGlPushDebugGroup (slot : DebugTextSlot) : DebugReading := debugText slot

def hGlObjectLabel (slot : DebugTextSlot) : DebugReading := debugText slot

def hGlObjectPtrLabel (slot : DebugTextSlot) : DebugReading := debugText slot

def handleDebug (slot : DebugTextSlot) : DebugTextOp → DebugReading
  | .glDebugMessageInsert => hGlDebugMessageInsert slot
  | .glPushDebugGroup => hGlPushDebugGroup slot
  | .glObjectLabel => hGlObjectLabel slot
  | .glObjectPtrLabel => hGlObjectPtrLabel slot

end GlesBridge.Proxy
