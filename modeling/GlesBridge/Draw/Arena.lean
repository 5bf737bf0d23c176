import GlesBridge.Proxy.Draw
import GlesBridge.Ring.Arena
import GlesBridge.Upload.Piggyback
import GlesBridge.Vertex.Attribs

namespace GlesBridge.Draw

open GlesBridge.Data GlesBridge.Shared GlesBridge.Stub GlesBridge.Upload GlesBridge.Vertex

/-! What a call has put into the arena stays as it is while the call writes more. -/

/-- The bytes lie in a block between tail and head. -/
def Placed (stub : UploadStub) (offset : UInt32) (size : Nat) : Prop :=
  ∃ block : Block, block.offset glesBridgeDataSize = offset.toNat ∧ size ≤ block.size ∧
    block.InLap glesBridgeDataSize ∧ stub.tail ≤ block.start ∧ block.stop ≤ stub.head

/-- The stub has gone on to write into the arena. -/
structure Grows (stub after : UploadStub) : Prop where
  maps : after.maps = stub.maps
  client : after.client = stub.client
  tail : after.tail = stub.tail
  head : stub.head ≤ after.head
  kept : ∀ offset size, Placed stub offset size → ∀ place < size,
    after.arena (offset.toNat + place) = stub.arena (offset.toNat + place)

section

variable {stub next after : UploadStub} {offset : UInt32} {pixels size : UInt64} {amount : Nat}

theorem Placed.grows (placed : Placed stub offset amount) (grown : Grows stub after) :
    Placed after offset amount := by
  obtain ⟨block, place, fits, lap, low, high⟩ := placed
  exact ⟨block, place, fits, lap, grown.tail ▸ low, high.trans grown.head⟩

theorem Grows.refl (stub : UploadStub) : Grows stub stub := by
  constructor
  · rfl
  · rfl
  · rfl
  · exact Nat.le_refl _
  · exact fun _ _ _ _ _ => rfl

theorem Grows.trans (first : Grows stub next) (second : Grows next after) : Grows stub after := by
  constructor
  · exact second.maps.trans first.maps
  · exact second.client.trans first.client
  · exact second.tail.trans first.tail
  · exact first.head.trans second.head
  · intro offset size placed place below
    exact (second.kept offset size (placed.grows first) place below).trans
      (first.kept offset size placed place below)

theorem Grows.order (grown : Grows stub after) (order : stub.tail ≤ stub.head) :
    after.tail ≤ after.head := by
  rw [grown.tail]
  exact order.trans grown.head

/-- The block that an allocation gets lies past the head of before, and within a
lap of the tail. -/
theorem ringDataAlloc_block (order : stub.tail ≤ stub.head)
    (placed : stub.ringDataAlloc amount = some (next, offset)) :
    ∃ block : Block, block.offset glesBridgeDataSize = offset.toNat ∧ amount ≤ block.size ∧
      block.InLap glesBridgeDataSize ∧ stub.head ≤ block.start ∧
      block.stop ≤ stub.tail + glesBridgeDataSize ∧ next = { stub with head := block.stop } := by
  unfold UploadStub.ringDataAlloc at placed
  split at placed
  · cases placed
  · rename_i fits
    obtain ⟨⟨start, head⟩, found, shape⟩ := Option.map_eq_some_iff.mp placed
    cases shape
    obtain ⟨room, past, window, place, lap⟩ := Ring.ringDataAlloc_spec order found
    have value : (UInt32.ofNat start).toNat = start := by
      have inside := (ring_place found).1
      refine UInt32.toNat_ofNat_of_lt' (inside.trans ?_)
      decide
    have stop : (⟨head - Ring.alignUp amount, Ring.alignUp amount⟩ : Block).stop = head :=
      Nat.sub_add_cancel room
    refine ⟨⟨head - Ring.alignUp amount, Ring.alignUp amount⟩, ?_, ?_, lap, past, ?_, ?_⟩
    · rw [value]
      exact place
    · exact Ring.le_alignUp (Nat.le_of_not_lt fits)
    · rw [stop]
      exact window
    · rw [stop]

/-- A write to the block of an allocation spares all blocks before it. -/
theorem grows_of_write (order : stub.tail ≤ stub.head)
    (placed : stub.ringDataAlloc amount = some (next, offset)) (arena : Nat → UInt8)
    (reads : List (UInt64 × Nat))
    (same : ∀ place, place < offset.toNat ∨ offset.toNat + amount ≤ place →
      arena place = stub.arena place) :
    Grows stub { next with arena, reads } ∧ Placed { next with arena, reads } offset amount := by
  obtain ⟨block, start, fits, lap, past, window, rfl⟩ := ringDataAlloc_block order placed
  have inside : block.start ≤ block.stop := Nat.le_add_right _ _
  refine ⟨?_, block, start, fits, lap, order.trans past, Nat.le_refl _⟩
  constructor
  · rfl
  · rfl
  · rfl
  · exact past.trans inside
  · rintro earlier size ⟨other, place, most, -, low, high⟩ distance below
    apply same
    have apart := Block.disjointOn_of_window (high.trans past)
      (window.trans (Nat.add_le_add_right low _))
    unfold Block.DisjointOn at apart
    omega

theorem bridgeDataWrite_grows (order : stub.tail ≤ stub.head)
    (written : stub.bridgeDataWrite pixels size = some (after, offset)) :
    Grows stub after ∧ Placed after offset size.toNat := by
  obtain ⟨⟨next, start⟩, placed, shape⟩ := Option.map_eq_some_iff.mp written
  by_cases copied : size ≠ 0 ∧ pixels ≠ 0
  · simp only [if_pos copied] at shape
    cases shape
    refine grows_of_write order placed _ _ fun place outside => ?_
    obtain ⟨-, -, -, head, rfl⟩ := ringDataAlloc_place placed
    exact if_neg fun inside => by omega
  · simp only [if_neg copied] at shape
    cases shape
    obtain ⟨-, -, -, head, rfl⟩ := ringDataAlloc_place placed
    exact grows_of_write order placed stub.arena stub.reads fun _ _ => rfl

theorem mappingWrite_grows (order : stub.tail ≤ stub.head) {ptr : UInt64} {start : Nat}
    (written : stub.mappingWrite ptr start size = some (after, offset)) :
    Grows stub after ∧ Placed after offset size.toNat := by
  obtain ⟨⟨next, place⟩, placed, shape⟩ := Option.map_eq_some_iff.mp written
  cases shape
  refine grows_of_write order placed _ next.reads fun place outside => ?_
  obtain ⟨-, -, -, head, rfl⟩ := ringDataAlloc_place placed
  exact if_neg fun inside => by omega

/-- What a call reads of the client's memory. -/
theorem bridgeDataWrite_reads (written : stub.bridgeDataWrite pixels size = some (after, offset)) :
    after.reads = if size ≠ 0 ∧ pixels ≠ 0 then (pixels, size.toNat) :: stub.reads
      else stub.reads := by
  obtain ⟨⟨next, start⟩, placed, shape⟩ := Option.map_eq_some_iff.mp written
  obtain ⟨-, -, -, head, rfl⟩ := ringDataAlloc_place placed
  by_cases copied : size ≠ 0 ∧ pixels ≠ 0
  · simp only [if_pos copied] at shape ⊢
    cases shape
    rfl
  · simp only [if_neg copied] at shape ⊢
    cases shape
    rfl

/-! ## The parts of a draw -/

theorem stubVboPiggybackRange_grows (order : stub.tail ≤ stub.head) {vao : VAOState}
    {first last : Int64} {piggyback : Piggyback}
    (sent : stub.stubVboPiggybackRange vao first last = some (after, piggyback, offset)) :
    Grows stub after ∧ after.reads = stub.reads := by
  unfold UploadStub.stubVboPiggybackRange at sent
  split at sent
  · cases sent
    exact ⟨Grows.refl _, rfl⟩
  · obtain ⟨⟨next, place⟩, written, shape⟩ := Option.map_eq_some_iff.mp sent
    cases shape
    exact ⟨(mappingWrite_grows order written).1, mappingWrite_reads written⟩

/-- The end of a draw leaves the first part of its slot. -/
theorem finish_grows (order : stub.tail ≤ stub.head) {vao : VAOState} {first last : Int64}
    {slot sent : DrawSlot} (taken : stub.finish vao first last slot = some (after, sent)) :
    Grows stub after ∧ after.reads = stub.reads ∧
      ∃ piggyback offset size,
        sent = { slot with piggyback, data2Offset := offset, data2Size := size } := by
  obtain ⟨⟨next, piggyback, place⟩, written, shape⟩ := Option.map_eq_some_iff.mp taken
  cases shape
  obtain ⟨grown, reads⟩ := stubVboPiggybackRange_grows order written
  exact ⟨grown, reads, piggyback, _, _, rfl⟩

theorem sendEbo_grows (order : stub.tail ≤ stub.head) {ebo : UInt32} {call : Stub.Draw}
    {idx : Option (Nat → UInt8)} {slot : DrawSlot}
    (sent : stub.sendEbo ebo call = some (after, idx, slot)) :
    Grows stub after ∧ after.reads = stub.reads ∧ slot.indices = call.indices ∧
      slot.indexMode = 0 ∧ slot.attribs = [] := by
  unfold UploadStub.sendEbo at sent
  split at sent
  · cases sent
    exact ⟨Grows.refl _, rfl, rfl, rfl, rfl⟩
  · obtain ⟨⟨next, place⟩, written, shape⟩ := Option.map_eq_some_iff.mp sent
    cases shape
    exact ⟨(mappingWrite_grows order written).1, mappingWrite_reads written, rfl, rfl, rfl⟩

/-- The copy of a client array in the arena. -/
structure Copied (stub : UploadStub) (copy : ClientCopy) (offset : UInt32) : Prop where
  placed : Placed stub offset copy.bytes.toNat
  small : copy.bytes.toNat ≤ glesBridgeDataSize
  same : ∀ place < copy.bytes.toNat,
    stub.arena (offset.toNat + place) = stub.client (copy.pointer + .ofNat place)

theorem Copied.grows {copy : ClientCopy} (copied : Copied stub copy offset) (grown : Grows stub after) :
    Copied after copy offset := by
  constructor
  · exact copied.placed.grows grown
  · exact copied.small
  · intro place below
    rw [grown.kept offset _ copied.placed place below, grown.client]
    exact copied.same place below

/-- The ranges of the client's memory that the copies read. -/
def arrayReads (copies : List ClientCopy) : List (UInt64 × Nat) :=
  (copies.filter fun copy => copy.bytes != 0).map fun copy => (copy.pointer, copy.bytes.toNat)

theorem mem_arrayCopies {attribs : Attribs} {vertices : UInt64} {copy : ClientCopy} :
    copy ∈ clientCopies attribs vertices ↔ ClientArray (attribs copy.index) ∧
      copy.pointer = (attribs copy.index).pointer ∧
      copy.bytes = clientBytes (attribs copy.index) vertices := by
  simp only [clientCopies, List.mem_filterMap, List.mem_finRange, true_and, Option.ite_none_right_eq_some,
    Option.some.injEq]
  constructor
  · rintro ⟨index, client, rfl⟩
    exact ⟨client, rfl, rfl⟩
  · rintro ⟨client, pointer, bytes⟩
    refine ⟨copy.index, client, ?_⟩
    rw [← pointer, ← bytes]

/-- `glDrawElements` copies arrays for the client's indices. -/
theorem mem_elementCopies {current : Ctx} {call : Stub.Draw} {copy : ClientCopy}
    (member : copy ∈ stub.elementCopies current call) :
    ∃ vertices, copy ∈ clientCopies stub.maps.mirrors.attribStubState vertices := by
  unfold UploadStub.elementCopies at member
  split at member
  · cases member
  · exact ⟨_, member⟩

/-- Every array is copied, and the copies are there in the end. -/
theorem writeArrays_spec (order : stub.tail ≤ stub.head) {copies : List ClientCopy}
    {attribs : List (AttribIndex × UInt32)} (present : ∀ copy ∈ copies, copy.pointer ≠ 0)
    (written : stub.writeArrays copies = some (after, attribs)) :
    Grows stub after ∧ after.reads = (arrayReads copies).reverse ++ stub.reads ∧
      List.Forall₂ (fun copy attrib => copy.index = attrib.1 ∧ Copied after copy attrib.2)
        copies attribs := by
  induction copies generalizing stub attribs with
  | nil =>
      cases written
      exact ⟨Grows.refl _, rfl, .nil⟩
  | cons copy rest ih =>
      obtain ⟨⟨next, offset⟩, first, tail⟩ := Option.bind_eq_some_iff.mp written
      obtain ⟨⟨last, others⟩, more, shape⟩ := Option.map_eq_some_iff.mp tail
      cases shape
      have given : copy.pointer ≠ 0 := present copy (.head _)
      obtain ⟨grown, placed⟩ := bridgeDataWrite_grows order first
      obtain ⟨later, reads, copied⟩ :=
        ih (grown.order order) (fun other member => present other (.tail _ member)) more
      obtain ⟨small, -, -, bytes⟩ := bridgeDataWrite_spec first
      have here : Copied next copy offset := by
        refine ⟨placed, small, fun place below => ?_⟩
        have some : copy.bytes ≠ 0 := by
          intro none
          rw [none] at below
          exact absurd below (Nat.not_lt_zero _)
        rw [(bytes given some).2 place below, grown.client]
      refine ⟨grown.trans later, ?_, .cons ⟨rfl, here.grows later⟩ copied⟩
      rw [reads, bridgeDataWrite_reads first]
      by_cases none : copy.bytes = 0
      · simp [arrayReads, none]
      · simp [arrayReads, none, given]

end

end GlesBridge.Draw
