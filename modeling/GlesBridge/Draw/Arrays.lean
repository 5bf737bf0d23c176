import GlesBridge.Draw.Vertices
import GlesBridge.Gl.VertexFetch
import GlesBridge.Vertex.Restore
import Mathlib.Data.List.Forall2

namespace GlesBridge.Draw

open GlesBridge.Gl GlesBridge.Shared GlesBridge.Stub GlesBridge.Proxy GlesBridge.Upload
open GlesBridge.Vertex

/-! The client arrays that a draw copies, and those that it reads. -/

/-- Each copy is one of a client array, from its start to no further than a vertex
that the draw refers to, and what is read of an array has been copied. -/
structure Covers (copies : List ClientCopy) (bound : Attribs) (refers : Nat → Prop) : Prop where
  within : ∀ copy ∈ copies, copy.bytes ≠ 0 → ClientArray (bound copy.index) ∧
    copy.pointer = (bound copy.index).pointer ∧
    ∃ vertex, refers vertex ∧ copy.bytes.toNat ≤ (format (bound copy.index)).stop vertex
  enough : ∀ index, ClientArray (bound index) → ∀ place,
    (format (bound index)).Fetches (bound index).divisor refers place →
    ∃ copy ∈ copies, copy.index = index ∧ copy.pointer = (bound index).pointer ∧
      place < copy.bytes.toNat

/-- The numbers of the stub's formula. -/
def arrayElem (attrib : AttribState) : Nat :=
  attrib.size.toNatClampNeg * (glTypeSize attrib.type).toNat

def arrayStride (attrib : AttribState) : Nat :=
  if attrib.stride = 0 then arrayElem attrib else attrib.stride.toNatClampNeg

/-- The formula for so many vertices gives an end between what is read and the end
of the last vertex. -/
structure Fits (global bound : AttribState) (vertices last : Nat) : Prop where
  least : (if bound.divisor = 0 then (format bound).stop last else (format bound).bytes) ≤
    vertices * arrayStride global + arrayElem global
  most : vertices * arrayStride global + arrayElem global ≤ (format bound).stop last

section

variable {data : DataBase} {stub after : UploadStub} {current : Ctx} {call : Stub.Draw}
  {slot : DrawSlot} {refers : Nat → Prop} {global bound : Attribs} {attrib : AttribState}
  {vertices : UInt64} {copies : List ClientCopy} {last : Nat}

/-! ## The formula -/

variable {driver : VertexDriver} {group : Ctx → Nat} {state : ProxyState} {index : AttribIndex}
  {offset : UInt32}

theorem Copied.byte {copy : ClientCopy} {place : Nat} (copied : Copied after copy offset)
    (below : place < copy.bytes.toNat) :
    data.byte after.arena (data.dp offset + .ofNat place) =
      after.client (copy.pointer + .ofNat place) := by
  obtain ⟨block, start, -, -, -, -⟩ := copied.placed
  have inside : offset.toNat < glesBridgeDataSize := by
    rw [← start]
    exact Nat.mod_lt _ (by decide)
  have small := copied.small
  have limit : glesBridgeDataSize + glesBridgeDataSize ≤ 2 ^ 32 := by decide
  rw [byte_dp (by omega)]
  exact copied.same place below

end

/-! ## One client array -/

end GlesBridge.Draw
