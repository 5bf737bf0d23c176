import GlesBridge.Gl.Mapping
import GlesBridge.Stub.ReadPixels

namespace GlesBridge.Stub

open GlesBridge.Gl

/-! What the entry points ask of the arena for answers that come through it. -/

/-- The calls with the arguments that decide how much comes back. A `Bool` says that
the pointer of that name is not `NULL`. -/
inductive OutputCall where
  | glGenTextures (n : Int32)
  | glGenBuffers (n : Int32) (buffers : Bool)
  | glGenFramebuffers (n : Int32) (fbs : Bool)
  | glGenRenderbuffers (n : Int32) (rbs : Bool)
  | glGetTexParameterfv (pname : UInt32)
  | glGetTexParameteriv (pname : UInt32)
  | glGetBufferParameteriv
  | glGetShaderInfoLog (bufSize : Int32) (infoLog : Bool)
  | glGetShaderSource (bufSize : Int32) (source : Bool)
  | glGetShaderPrecisionFormat
  | glGetProgramInfoLog (bufSize : Int32)
  | glGetAttachedShaders (maxCount : Int32) (shaders : Bool)
  | glGetActiveUniform (bufSize : Int32)
  | glGetActiveAttrib (bufSize : Int32)
  | glGetUniformfv
  | glGetUniformiv
  | glGetVertexAttribfv (pname : UInt32)
  | glGetVertexAttribiv (pname : UInt32)
  | glGetBooleanv
  | glGetFloatv
  | glGetIntegerv
  | glReadPixels (call : ReadPixels) (pixelPackBuffer : UInt32)
  | glGetProgramBinary (bufSize : Int32)
  | glMapBufferRange (length : Int64) (access : UInt32)
  | eglGetConfigs (configs : Bool) (configSize : Int32)
  /-- `pairs` counts those before the `EGL_NONE` of `attrib_list`. -/
  | eglChooseConfig (pairs : Option Nat) (configs : Bool) (configSize : Int32)

/-- An offset and a size of the slot: what `bridge_data_write` is asked for, the offset
where it is not called, and the size that is sent. -/
structure OutputField where
  asked : Option UInt64
  offset : UInt32
  size : UInt32

structure OutputRequest where
  data : OutputField
  data2 : OutputField

namespace OutputField

def unused : OutputField := ⟨none, 0, 0⟩

/-- As much as is asked for. -/
def block (size : UInt64) : OutputField := ⟨some size, 0, size.toUInt32⟩

/-- Unless the pointer is `NULL`; the size is sent all the same. -/
def blockIf (present : Bool) (size : UInt32) : OutputField :=
  if present then .block size.toUInt64 else ⟨none, 0, size⟩

end OutputField

def OutputRequest.only (data : OutputField) : OutputRequest := ⟨data, .unused⟩

def glTextureBorderColor : UInt32 := 0x1004

def glCurrentVertexAttrib : UInt32 := 0x8626

/-- `attrib_list_bytes` -/
def attribListBytes : Option Nat → UInt32
  | none => 0
  | some pairs => .ofNat (2 * pairs + 1) * 4

/-- The arrays of names; `glGenTextures` has no check. -/
def namesRequest (n : Int32) (names : Bool) : Option OutputRequest :=
  if names = false ∨ n ≤ 0 then none else some (.only (.block (sizeT n * 4)))

/-- A text or an array that is left out without a pointer or a size. -/
def boundedRequest (count : Int32) (present : Bool) (size : UInt64) : OutputRequest :=
  if 0 < count ∧ present = true then .only (.block size) else .only .unused

/-- What is sent; `none` is a return before that. -/
def OutputCall.request : OutputCall → Option OutputRequest
  | .glGenTextures n => some (.only (.block (sizeT n * 4)))
  | .glGenBuffers n buffers => namesRequest n buffers
  | .glGenFramebuffers n fbs => namesRequest n fbs
  | .glGenRenderbuffers n rbs => namesRequest n rbs
  | .glGetTexParameterfv pname | .glGetTexParameteriv pname =>
      some (.only (.block (if pname = glTextureBorderColor then 16 else 4)))
  | .glGetBufferParameteriv => some (.only (.block 4))
  | .glGetShaderInfoLog bufSize infoLog => some (boundedRequest bufSize infoLog (sizeT bufSize))
  | .glGetShaderSource bufSize source => some (boundedRequest bufSize source (sizeT bufSize))
  | .glGetShaderPrecisionFormat => some (.only (.block 12))
  | .glGetProgramInfoLog bufSize | .glGetActiveAttrib bufSize | .glGetProgramBinary bufSize =>
      some (.only (.block (sizeT bufSize)))
  | .glGetAttachedShaders maxCount shaders =>
      some (boundedRequest maxCount shaders (sizeT maxCount * 4))
  | .glGetActiveUniform bufSize =>
      some (.only (.block (sizeT (if 0 < bufSize then bufSize else 1))))
  | .glGetUniformfv => some (.only (.block 64))
  | .glGetUniformiv => some (.only (.block 16))
  | .glGetVertexAttribfv _ => some (.only (.block 16))
  | .glGetVertexAttribiv pname =>
      some (.only (.block (if pname = glCurrentVertexAttrib then 16 else 4)))
  | .glGetBooleanv => some (.only (.block 32))
  | .glGetFloatv | .glGetIntegerv => some (.only (.block 128))
  | .glReadPixels call pixelPackBuffer =>
      if pixelPackBuffer ≠ 0 then some (.only ⟨none, call.pixels.toUInt32, 0⟩)
      else some (.only (.block call.pixBytes))
  | .glMapBufferRange length access =>
      if access &&& glMapReadBit ≠ 0 then some (.only (.block length.toUInt64))
      else some (.only .unused)
  | .eglGetConfigs configs configSize =>
      some (.only (.blockIf configs (configSize.toUInt32 * 4)))
  | .eglChooseConfig pairs configs configSize =>
      some
        { data := if attribListBytes pairs ≠ 0 then .block (attribListBytes pairs).toUInt64 else .unused
          data2 := .blockIf configs (configSize.toUInt32 * 4) }

/-! ## What the arena gives -/

/-- The offsets and sizes in the slot, and the ranges that were handed out for it. -/
structure OutputSlot where
  dataOffset : UInt32
  dataSize : UInt32
  data2Offset : UInt32
  data2Size : UInt32
  own : List (Nat × Nat)

/-- The offset of a field, its range if it has one, and the new head. A size past the
arena aborts the program. -/
def OutputField.place (field : OutputField) (head tail : Nat) :
    Option (UInt32 × List (Nat × Nat) × Nat) :=
  match field.asked with
  | none => some (field.offset, [], head)
  | some size =>
      if glesBridgeDataSize < size.toNat then none
      else
        (Ring.ringDataAlloc head tail size.toNat).map fun (offset, next) =>
          (.ofNat offset, [(offset, Ring.alignUp size.toNat)], next)

def OutputRequest.place (request : OutputRequest) (head tail : Nat) : Option OutputSlot :=
  (request.data.place head tail).bind fun (dataOffset, first, middle) =>
    (request.data2.place middle tail).map fun (data2Offset, second, _) =>
      { dataOffset
        dataSize := request.data.size
        data2Offset
        data2Size := request.data2.size
        own := first ++ second }

/-- The slot that the proxy gets, if the arena has room. -/
def OutputCall.send (call : OutputCall) (head tail : Nat) : Option OutputSlot :=
  call.request.bind fun request => request.place head tail

end GlesBridge.Stub
