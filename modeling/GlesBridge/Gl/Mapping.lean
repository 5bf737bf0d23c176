import GlesBridge.Gl.VertexArray

namespace GlesBridge.Gl

/-! The buffers of GL with their contents, and the ranges that are mapped. -/

def glMapReadBit : UInt32 := 0x0001
def glMapWriteBit : UInt32 := 0x0002
def glMapFlushExplicitBit : UInt32 := 0x0010

/-- The targets that have a binding. -/
def hasBinding (target : UInt32) : Bool :=
  target == glElementArrayBuffer || decide (target ∈ bufferTargets)

/-- The bytes from `start` on are replaced. -/
def overwrite (start size : Nat) (data bytes : Nat → UInt8) : Nat → UInt8 := fun place =>
  if start ≤ place ∧ place < start + size then data (place - start) else bytes place

/-- The driver is that of a process of 32 bits. -/
structure LiveRange where
  pointer : UInt32
  offset : Int32
  length : Int32
deriving DecidableEq, Repr

/-- One context with its vertex array: a target holds the name that is bound, a
name its bytes and the range of it that is mapped. -/
structure Buffers where
  bound : UInt32 → UInt32
  bytes : UInt32 → Nat → UInt8
  mapping : UInt32 → Option LiveRange

namespace Buffers

def initial : Buffers where
  bound _ := 0
  bytes _ _ := 0
  mapping _ := none

variable (buffers : Buffers)

/-- What `glGetIntegerv` answers for the binding of a target. -/
def binding (target : UInt32) : UInt32 := if hasBinding target then buffers.bound target else 0

def bindBuffer (target buffer : UInt32) : Buffers :=
  { buffers with bound := Function.update buffers.bound target buffer }

/-- A buffer that is mapped already is refused, and so is no buffer; otherwise
the driver answers with a pointer or refuses the range with a null one. -/
def mapBufferRange (target : UInt32) (offset length : Int32) (answer : UInt32) :
    Buffers × UInt32 :=
  if answer ≠ 0 ∧ buffers.binding target ≠ 0 ∧
      (buffers.mapping (buffers.binding target)).isNone = true then
    ({ buffers with
        mapping := Function.update buffers.mapping (buffers.binding target)
          (some ⟨answer, offset, length⟩) },
      answer)
  else (buffers, 0)

def unmap (buffer : UInt32) : Buffers :=
  { buffers with mapping := Function.update buffers.mapping buffer none }

def unmapBuffer (target : UInt32) : Buffers × Bool :=
  if buffers.binding target ≠ 0 ∧ (buffers.mapping (buffers.binding target)).isSome then
    (buffers.unmap (buffers.binding target), true)
  else (buffers, false)

/-- New contents end a mapping, where the driver accepts them. -/
def bufferData (target : UInt32) (contents : Nat → UInt8) (accepted : Bool) : Buffers :=
  if accepted = true ∧ buffers.binding target ≠ 0 then
    { buffers.unmap (buffers.binding target) with
      bytes := Function.update buffers.bytes (buffers.binding target) contents }
  else buffers

def deleteBuffer (buffer : UInt32) : Buffers :=
  if buffer = 0 then buffers
  else
    { buffers.unmap buffer with
      bound := fun target => if buffers.bound target = buffer then 0 else buffers.bound target }

def deleteBuffers (names : List UInt32) : Buffers := names.foldl deleteBuffer buffers

/-- What a mapping shows of its buffer. -/
def mappedBytes (buffer : UInt32) (place : Nat) : UInt8 :=
  match buffers.mapping buffer with
  | some range => buffers.bytes buffer (range.offset.toNatClampNeg + place)
  | none => 0

/-- A write through a pointer that GL gave out for a buffer. Through one whose
mapping has ended it has no defined outcome. -/
def store (buffer pointer : UInt32) (size : Nat) (data : Nat → UInt8) : Option Buffers :=
  match buffers.mapping buffer with
  | some range =>
      if range.pointer = pointer then
        some { buffers with
          bytes := Function.update buffers.bytes buffer
            (overwrite range.offset.toNatClampNeg size data (buffers.bytes buffer)) }
      else none
  | none => none

/-- As `store`, at a distance from the start of the mapping. -/
def storeAt (buffer pointer : UInt32) (distance size : Nat) (data : Nat → UInt8) : Option Buffers :=
  match buffers.mapping buffer with
  | some range =>
      if range.pointer = pointer then
        some { buffers with
          bytes := Function.update buffers.bytes buffer
            (overwrite (range.offset.toNatClampNeg + distance) size data (buffers.bytes buffer)) }
      else none
  | none => none

end Buffers

end GlesBridge.Gl
