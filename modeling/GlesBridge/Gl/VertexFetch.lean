import GlesBridge.Gl.VertexArray

namespace GlesBridge.Gl

/-! Which bytes of an array a draw of GL reads. -/

def packedTypes : List UInt32 := [0x8368, 0x8D9F]

/-- The bytes of a component, where GL knows the type. -/
def componentSize (type : UInt32) : Nat :=
  match type.toNat with
  | 0x1400 | 0x1401 => 1
  | 0x1402 | 0x1403 | 0x140B => 2
  | 0x1404 | 0x1405 | 0x1406 | 0x140C => 4
  | _ => 0

namespace VertexFormat

variable (pointer : VertexFormat)

/-- The bytes of a vertex. A packed type has all components in four. -/
def bytes : Nat :=
  if pointer.type ∈ packedTypes then 4 else pointer.size.toNatClampNeg * componentSize pointer.type

/-- From one vertex to the next. -/
def distance : Nat := if pointer.stride = 0 then pointer.bytes else pointer.stride.toNatClampNeg

/-- The place after the last component of a vertex. -/
def stop (vertex : Nat) : Nat := vertex * pointer.distance + pointer.bytes

/-- A byte of the array is read for one of the vertices; with a divisor only the
first instance is read. -/
def Fetches (divisor : UInt32) (refers : Nat → Prop) (place : Nat) : Prop :=
  ∃ vertex, refers vertex ∧
    if divisor = 0 then vertex * pointer.distance ≤ place ∧ place < pointer.stop vertex
    else place < pointer.bytes

variable {pointer}

theorem stop_mono {vertex last : Nat} (ordered : vertex ≤ last) :
    pointer.stop vertex ≤ pointer.stop last :=
  Nat.add_le_add_right (Nat.mul_le_mul_right _ ordered) _

end VertexFormat

end GlesBridge.Gl
