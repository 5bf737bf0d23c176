import GlesBridge.Draw.Refresh

namespace GlesBridge.Draw

open GlesBridge.Gl GlesBridge.Shared GlesBridge.Stub GlesBridge.Proxy GlesBridge.Mapping
open GlesBridge.Upload

/-! Draws from buffers that the client has mapped. -/

section

variable {stub after : UploadStub} {proxy : MapProxy} {id : MapId} {vao : VAOState}
  {first last : Int64} {attrib : AttribState} {span : MappedSpan}

/-! ## Indices of a mapped element buffer -/

/-- The indices that the stub can look at. -/
def seenIndices (stub : UploadStub) (current : Ctx) (call : Stub.Draw) : Option (Nat → UInt8) :=
  let ebo := (stub.vao current).ebo
  if ebo ≠ 0 then
    (stub.eboMap ebo call).map fun id place =>
      let entry := stub.maps.stubMaps id
      stub.maps.memory entry.ptr ((call.indices.toInt64 - entry.offset).toUInt64.toNat + place)
  else stub.clientIndices call.indices

/-- The mapping has the indices of the draw, as the client writes them. -/
structure HasIndices (proxy : MapProxy) (ebo : UInt32) (call : Stub.Draw) (id : MapId) : Prop where
  written : Written proxy id
  named : (proxy.maps id).buffer = ebo
  known : indexTypeSize call.type ≠ 0
  low : (proxy.maps id).offset.toNatClampNeg ≤ call.indices.toNat
  high : call.indices.toNat + (sizeT call.count * indexTypeSize call.type).toNat ≤
    (proxy.maps id).offset.toNatClampNeg + (proxy.maps id).length.toNatClampNeg

theorem Mapped.eboMap_sound (mapped : Mapped stub.maps proxy) {ebo : UInt32} {call : Stub.Draw}
    (narrow : call.indices.toNat < 2 ^ 32)
    (few : (sizeT call.count * indexTypeSize call.type).toNat < 2 ^ 32)
    (found : stub.eboMap ebo call = some id) : HasIndices proxy ebo call id := by
  obtain ⟨other, mapping, tests⟩ := Option.bind_eq_some_iff.mp found
  obtain ⟨⟨known, implicit, writes, starts, stops⟩, same⟩ := Option.ite_none_right_eq_some.mp tests
  obtain rfl := Option.some.inj same
  have good := (find_mapIds mapping).2
  simp only [Bool.and_eq_true, bne_iff_ne, beq_iff_eq] at good
  have live := (mapped.agree.tracked other).mp good.1.1
  obtain ⟨-, buffer, access⟩ := mapped.stubEntry live
  obtain ⟨offset, length, small⟩ := mapped.bounds live
  rw [access] at implicit writes
  have place : call.indices.toInt64.toInt = call.indices.toNat := offset_toInt (by omega)
  have amount : (sizeT call.count * indexTypeSize call.type).toInt64.toInt =
      (sizeT call.count * indexTypeSize call.type).toNat := offset_toInt (by omega)
  rw [Int64.le_iff_toInt_le, offset, place] at starts
  rw [Int64.le_iff_toInt_le, int64_add (by omega) (by omega), int64_add (by omega) (by omega),
    offset, length, place, amount] at stops
  exact ⟨⟨live, writes, implicit⟩, buffer.symm.trans good.1.2, known, by omega, by omega⟩

/-- The indices that come with a draw bring the element buffer up to date. -/
theorem Mapped.sendEbo_refreshes (mapped : Mapped stub.maps proxy) (order : stub.tail ≤ stub.head)
    {ebo : UInt32} {call : Stub.Draw} {idx : Option (Nat → UInt8)} {slot : DrawSlot}
    {later : UploadStub} (narrow : call.indices.toNat < 2 ^ 32)
    (sent : stub.sendEbo ebo call = some (after, idx, slot)) (grown : Grows after later) :
    ∃ next, proxy.applyPiggyback slot.eboPiggyback slot.dataSize
        (fun place => later.arena (slot.dataOffset.toNat + place)) = some next ∧
      Refreshes stub.maps proxy next ∧
      ∀ id, stub.eboMap ebo call = some id → HasIndices proxy ebo call id ∧
        ∀ place < (sizeT call.count * indexTypeSize call.type).toNat,
          Current stub.maps next id (call.indices.toNat + place) := by
  unfold UploadStub.sendEbo at sent
  cases found : stub.eboMap ebo call with
  | none =>
      rw [found] at sent
      cases sent
      exact ⟨proxy, applyPiggyback_absent, .refl _ _, nofun⟩
  | some id =>
      rw [found] at sent
      obtain ⟨⟨wrote, place⟩, written, shape⟩ := Option.map_eq_some_iff.mp sent
      cases shape
      obtain ⟨fits, bytes⟩ := mappingWrite_spec written
      obtain ⟨-, placed⟩ := mappingWrite_grows order written
      have limit : glesBridgeDataSize < 2 ^ 32 := by decide
      have has := mapped.eboMap_sound narrow (by omega) found
      obtain ⟨low, high⟩ := And.intro has.low has.high
      obtain ⟨offset, -, small⟩ := mapped.bounds has.written.live
      have start : call.indices.toUInt32.toNat = call.indices.toNat :=
        toUInt32_toNat_iff.mpr narrow
      have amount : (sizeT call.count * indexTypeSize call.type).toUInt32.toNat =
          (sizeT call.count * indexTypeSize call.type).toNat := by
        rw [UInt64.toNat_toUInt32, Nat.mod_eq_of_lt (by omega)]
      have place64 : call.indices.toInt64.toInt = call.indices.toNat := offset_toInt (by omega)
      have distance : (call.indices.toInt64 - (stub.maps.stubMaps id).offset).toUInt64.toNat =
          call.indices.toNat - (proxy.maps id).offset.toNatClampNeg := by
        rw [int64_sub_toNat (by omega) (by omega), place64, offset]
        omega
      rw [distance] at bytes
      obtain ⟨next, applied, refreshes, fresh⟩ := mapped.applies has.written
        ⟨ebo, call.indices.toUInt32, (sizeT call.count * indexTypeSize call.type).toUInt32⟩
        (sizeT call.count * indexTypeSize call.type).toUInt32
        (fun distance => later.arena (place.toNat + distance)) has.named.symm rfl
        (by simp only [start]; exact low) (by simp only [start, amount]; exact high) (by
          intro distance below
          rw [amount] at below
          rw [grown.kept place _ placed distance below, bytes distance below, clientByte, start]
          congr 1
          omega)
      refine ⟨next, applied, refreshes, fun other same => ?_⟩
      obtain rfl := Option.some.inj same
      refine ⟨has, fun place below => ?_⟩
      have here := fresh place (by rwa [amount])
      simp only [start] at here
      exact here

/-! ## The vertices that are sent -/

/-- The draws that send ranges of mapped buffers. -/
def Sending : DrawOp → Prop
  | .glDrawArrays | .glDrawElements | .glDrawElementsBaseVertex => True
  | _ => False

/-- The range of vertices that the entry point asks for. -/
def drawRange (stub : UploadStub) (current : Ctx) (call : Stub.Draw) : Int64 × Int64 :=
  match call.op with
  | .glDrawArrays => (call.first.toInt64, call.first.toInt64 + call.count.toInt64)
  | .glDrawElements => stub.elementRange current (seenIndices stub current call) call
  | _ => stub.baseVertexRange current (seenIndices stub current call) call

section

variable {current : Ctx} {call : Stub.Draw} {idx : Option (Nat → UInt8)} {low high : Int}
  {count : Int32} {type : UInt32} {basevertex : Int32} {restart : Bool}

end

/-! ## Draws -/

section

variable {current : Ctx} {call : Stub.Draw} {slot : DrawSlot} {low high place : Nat}
  {refers : Nat → Prop}

theorem vboSpan_congr (maps : after.maps = stub.maps) :
    after.vboSpan vao first last = stub.vboSpan vao first last := by
  unfold UploadStub.vboSpan UploadStub.attribSpan
  rw [maps]

theorem indices_seen (found : stub.eboMap (stub.vao current).ebo call = some id)
    (bound : (stub.vao current).ebo ≠ 0) :
    seenIndices stub current call = some fun place =>
      stub.maps.memory (stub.maps.stubMaps id).ptr
        ((call.indices.toInt64 - (stub.maps.stubMaps id).offset).toUInt64.toNat + place) := by
  unfold seenIndices
  rw [if_pos bound, found]
  rfl

theorem sendEbo_seen (order : stub.tail ≤ stub.head) (bound : (stub.vao current).ebo ≠ 0)
    {idx : Option (Nat → UInt8)}
    (sent : stub.sendEbo (stub.vao current).ebo call = some (after, idx, slot)) :
    idx = seenIndices stub current call := by
  unfold UploadStub.sendEbo at sent
  cases found : stub.eboMap (stub.vao current).ebo call with
  | none =>
      rw [found] at sent
      cases sent
      unfold seenIndices
      rw [if_pos bound, found]
      rfl
  | some id =>
      rw [found] at sent
      obtain ⟨⟨wrote, place⟩, written, shape⟩ := Option.map_eq_some_iff.mp sent
      cases shape
      rw [indices_seen found bound, (mappingWrite_grows order written).1.maps]

/-- What a draw does before the real call: the indices of a mapped element buffer that it
sends, and the range of a mapped buffer. -/
structure Done (stub : UploadStub) (proxy : MapProxy) (current : Ctx) (call : Stub.Draw)
    (next : MapProxy) : Prop where
  refreshes : Refreshes stub.maps proxy next
  indices : Indexed call.op → (stub.vao current).ebo ≠ 0 → ∀ id,
    stub.eboMap (stub.vao current).ebo call = some id →
      HasIndices proxy (stub.vao current).ebo call id ∧
        ∀ place < (sizeT call.count * indexTypeSize call.type).toNat,
          Current stub.maps next id (call.indices.toNat + place)
  vertices : ∀ span, stub.vboSpan (stub.vao current) (drawRange stub current call).1
      (drawRange stub current call).2 = some span → ∀ place : Nat,
    span.start.toInt ≤ place → place < span.start.toInt + span.bytes.toNat →
      Current stub.maps next span.id place

theorem Mapped.arrays_done (mapped : Mapped stub.maps proxy) (order : stub.tail ≤ stub.head)
    (op : call.op = .glDrawArrays) (taken : stub.glDrawArrays current call = some (after, slot)) :
    ∃ next, proxy.beforeDraw .glDrawArrays slot after.arena = some next ∧
      Done stub proxy current call next := by
  unfold UploadStub.glDrawArrays at taken
  obtain ⟨⟨between, attribs⟩, arrays, rest⟩ := Option.bind_eq_some_iff.mp taken
  have given (copy : ClientCopy) (member : copy ∈ clientCopies stub.maps.mirrors.attribStubState
      (sizeT call.first + sizeT call.count - 1)) : copy.pointer ≠ 0 := by
    obtain ⟨⟨-, -, present⟩, pointer, -⟩ := mem_arrayCopies.mp member
    rwa [pointer]
  obtain ⟨grown, -⟩ := writeArrays_spec order given arrays
  have vao : between.vao current = stub.vao current := by
    unfold UploadStub.vao
    rw [grown.maps]
  rw [← grown.maps] at mapped
  simp only at rest
  rw [vao] at rest
  obtain ⟨next, applied, refreshes, fresh⟩ := mapped.finish_refreshes rest
  rw [grown.maps] at refreshes fresh
  have range : drawRange stub current call =
      (call.first.toInt64, call.first.toInt64 + call.count.toInt64) := by
    unfold drawRange
    rw [op]
  refine ⟨next, applied, refreshes, fun indexed => ?_, ?_⟩
  · rw [op] at indexed
    exact absurd indexed not_false
  · rw [range]
    intro span found
    exact fresh span ((vboSpan_congr grown.maps).trans found)

/-- With an element buffer there are two copies into mapped buffers. -/
theorem Mapped.bound_done (mapped : Mapped stub.maps proxy) (order : stub.tail ≤ stub.head)
    (narrow : call.indices.toNat < 2 ^ 32) {between : UploadStub} {idx : Option (Nat → UInt8)}
    {sent : DrawSlot} (mode : UInt32)
    (sends : stub.sendEbo (stub.vao current).ebo call = some (between, idx, sent))
    (range : (first, last) = drawRange stub current call)
    (rest : between.finish (stub.vao current) first last { sent with indexMode := mode } =
      some (after, slot)) :
    ∃ next, ((proxy.applyPiggyback slot.eboPiggyback slot.dataSize
        fun place => after.arena (slot.dataOffset.toNat + place)).bind fun proxy =>
          proxy.applyPiggyback slot.piggyback slot.data2Size
            fun place => after.arena (slot.data2Offset.toNat + place)) = some next ∧
      Done stub proxy current call next := by
  obtain ⟨grown, -⟩ := sendEbo_grows order sends
  obtain ⟨later, -, piggyback, place, size, rfl⟩ := finish_grows (grown.order order) rest
  obtain ⟨middle, applied, refreshes, indices⟩ := mapped.sendEbo_refreshes order narrow sends later
  have onward := mapped.refreshes refreshes
  rw [← grown.maps] at onward
  obtain ⟨next, again, more, fresh⟩ := onward.finish_refreshes rest
  rw [grown.maps] at more fresh
  refine ⟨next, Option.bind_eq_some_iff.mpr ⟨middle, applied, again⟩, refreshes.trans more, ?_, ?_⟩
  · intro _ _ id found
    obtain ⟨has, current⟩ := indices id found
    refine ⟨has, fun place below => more.current (mapped.refreshes refreshes) ?_ (current place below)⟩
    rw [refreshes.maps]
    exact has.written.live
  · rw [← range]
    intro span found
    exact fresh span ((vboSpan_congr grown.maps).trans found)

/-- Without one there is one copy. -/
theorem Mapped.unbound_done (mapped : Mapped stub.maps proxy) {between : UploadStub}
    {sent : DrawSlot} (grown : Grows stub between) (unbound : (stub.vao current).ebo = 0)
    (absent : sent.eboPiggyback = .absent) (range : (first, last) = drawRange stub current call)
    (rest : between.finish (stub.vao current) first last sent = some (after, slot)) :
    ∃ next, ((proxy.applyPiggyback slot.eboPiggyback slot.dataSize
        fun place => after.arena (slot.dataOffset.toNat + place)).bind fun proxy =>
          proxy.applyPiggyback slot.piggyback slot.data2Size
            fun place => after.arena (slot.data2Offset.toNat + place)) = some next ∧
      Done stub proxy current call next := by
  have none : slot.eboPiggyback = .absent := by
    obtain ⟨⟨wrote, piggyback, offset⟩, -, shape⟩ := Option.map_eq_some_iff.mp rest
    cases shape
    exact absent
  rw [← grown.maps] at mapped
  obtain ⟨next, applied, refreshes, fresh⟩ := mapped.finish_refreshes rest
  rw [grown.maps] at refreshes fresh
  rw [none, applyPiggyback_absent]
  refine ⟨next, applied, refreshes, fun _ bound => absurd unbound bound, ?_⟩
  rw [← range]
  intro span found
  exact fresh span ((vboSpan_congr grown.maps).trans found)

theorem Mapped.elements_done (mapped : Mapped stub.maps proxy) (order : stub.tail ≤ stub.head)
    (op : call.op = .glDrawElements)
    (narrow : (stub.vao current).ebo ≠ 0 → call.indices.toNat < 2 ^ 32)
    (taken : stub.glDrawElements current call = some (after, slot)) :
    ∃ next, proxy.beforeDraw .glDrawElements slot after.arena = some next ∧
      Done stub proxy current call next := by
  have range : drawRange stub current call =
      stub.elementRange current (seenIndices stub current call) call := by
    unfold drawRange
    rw [op]
  unfold UploadStub.glDrawElements at taken
  by_cases bound : (stub.vao current).ebo ≠ 0
  · simp only [if_pos bound] at taken
    obtain ⟨⟨between, idx, sent⟩, first, rest⟩ := Option.bind_eq_some_iff.mp taken
    rw [sendEbo_seen order bound first] at rest
    exact mapped.bound_done order (narrow bound) sent.indexMode first range.symm rest
  · simp only [if_neg bound] at taken
    obtain ⟨⟨next, place⟩, first, rest⟩ := Option.bind_eq_some_iff.mp taken
    obtain ⟨⟨between, attribs⟩, arrays, rest⟩ := Option.bind_eq_some_iff.mp rest
    have given (copy : ClientCopy) (member : copy ∈ stub.elementCopies current call) :
        copy.pointer ≠ 0 := by
      obtain ⟨vertices, copied⟩ := mem_elementCopies member
      obtain ⟨⟨-, -, present⟩, pointer, -⟩ := mem_arrayCopies.mp copied
      rwa [pointer]
    obtain ⟨grown, -⟩ := bridgeDataWrite_grows order first
    obtain ⟨more, -⟩ := writeArrays_spec (grown.order order) given arrays
    have seen : seenIndices stub current call = stub.clientIndices call.indices := if_neg bound
    rw [seen] at range
    exact mapped.unbound_done (grown.trans more) (not_not.mp bound) rfl range.symm rest

theorem Mapped.baseVertex_done (mapped : Mapped stub.maps proxy) (order : stub.tail ≤ stub.head)
    (op : call.op = .glDrawElementsBaseVertex)
    (narrow : (stub.vao current).ebo ≠ 0 → call.indices.toNat < 2 ^ 32)
    (taken : stub.glDrawElementsBaseVertex current call = some (after, slot)) :
    ∃ next, proxy.beforeDraw .glDrawElementsBaseVertex slot after.arena = some next ∧
      Done stub proxy current call next := by
  have range : drawRange stub current call =
      stub.baseVertexRange current (seenIndices stub current call) call := by
    unfold drawRange
    rw [op]
  unfold UploadStub.glDrawElementsBaseVertex at taken
  by_cases bound : (stub.vao current).ebo ≠ 0
  · simp only [if_pos bound] at taken
    obtain ⟨⟨between, idx, sent⟩, first, rest⟩ := Option.bind_eq_some_iff.mp taken
    rw [sendEbo_seen order bound first] at rest
    exact mapped.bound_done order (narrow bound) idxModeOffset first range.symm rest
  · simp only [if_neg bound] at taken
    obtain ⟨⟨between, place⟩, first, rest⟩ := Option.bind_eq_some_iff.mp taken
    obtain ⟨grown, -⟩ := bridgeDataWrite_grows order first
    have seen : seenIndices stub current call = stub.clientIndices call.indices := if_neg bound
    rw [seen] at range
    exact mapped.unbound_done grown (not_not.mp bound) rfl range.symm rest

theorem Mapped.done (mapped : Mapped stub.maps proxy) (order : stub.tail ≤ stub.head)
    (sending : Sending call.op)
    (narrow : (stub.vao current).ebo ≠ 0 → call.indices.toNat < 2 ^ 32)
    (taken : stub.draw current call = some (after, slot)) :
    ∃ next, proxy.beforeDraw call.op slot after.arena = some next ∧
      Done stub proxy current call next := by
  unfold UploadStub.draw at taken
  cases op : call.op with
  | glDrawArrays =>
      rw [op] at taken
      exact mapped.arrays_done order op taken
  | glDrawElements =>
      rw [op] at taken
      exact mapped.elements_done order op narrow taken
  | glDrawElementsBaseVertex =>
      rw [op] at taken
      exact mapped.baseVertex_done order op narrow taken
  | glDrawArraysInstanced | glDrawElementsInstanced | glDrawRangeElements
  | glDrawElementsInstancedBaseVertex | glDrawRangeElementsBaseVertex =>
      rw [op] at sending
      exact absurd sending not_false

end

end

end GlesBridge.Draw
