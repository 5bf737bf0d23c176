import GlesBridge.Draw.Bounds
import GlesBridge.Gl.VertexFetch

namespace GlesBridge.Draw

open GlesBridge.Gl GlesBridge.Shared GlesBridge.Stub GlesBridge.Proxy GlesBridge.Mapping
open GlesBridge.Upload

/-! The ranges of mapped buffers that come with a draw. -/

/-- Both sides have the same mappings, and the driver has them where they say. -/
structure Mapped (stub : MapStub) (proxy : MapProxy) : Prop where
  agree : TablesAgree (stub, proxy)
  placed : ∀ id, (proxy.maps id).realPtr ≠ 0 →
    id ≠ 0 ∧ (proxy.maps id).buffer ≠ 0 ∧ 0 ≤ (proxy.maps id).offset ∧ 0 ≤ (proxy.maps id).length ∧
      (proxy.maps id).offset.toNatClampNeg + (proxy.maps id).length.toNatClampNeg < 2 ^ 31 ∧
      ∃ range, proxy.gl.mapping (proxy.maps id).buffer = some range ∧
        range.pointer = (proxy.maps id).realPtr ∧ range.offset = (proxy.maps id).offset

/-- The client writes to the mapping and does not flush it itself. -/
structure Written (proxy : MapProxy) (id : MapId) : Prop where
  live : (proxy.maps id).realPtr ≠ 0
  writes : (proxy.maps id).access &&& glMapWriteBit ≠ 0
  implicit : (proxy.maps id).access &&& glMapFlushExplicitBit = 0

/-- The client's byte for a place of the buffer. -/
def clientByte (stub : MapStub) (proxy : MapProxy) (id : MapId) (place : Nat) : UInt8 :=
  stub.memory (stub.stubMaps id).ptr (place - (proxy.maps id).offset.toNatClampNeg)

/-- The driver has the client's byte, where the place is one of the mapping. -/
def Current (stub : MapStub) (proxy : MapProxy) (id : MapId) (place : Nat) : Prop :=
  InMapping (proxy.maps id) place →
    proxy.gl.bytes (proxy.maps id).buffer place = clientByte stub proxy id place

/-- The buffers get nothing but the client's bytes of mappings that it writes to. -/
structure Refreshes (stub : MapStub) (proxy next : MapProxy) : Prop where
  maps : next.maps = proxy.maps
  mapping : next.gl.mapping = proxy.gl.mapping
  bytes : ∀ buffer place, next.gl.bytes buffer place = proxy.gl.bytes buffer place ∨
    ∃ id, Written proxy id ∧ (proxy.maps id).buffer = buffer ∧ InMapping (proxy.maps id) place ∧
      next.gl.bytes buffer place = clientByte stub proxy id place

section

variable {stub : MapStub} {proxy next last : MapProxy} {id : MapId} {place : Nat}

theorem Refreshes.refl (stub : MapStub) (proxy : MapProxy) : Refreshes stub proxy proxy := by
  constructor
  · rfl
  · rfl
  · exact fun _ _ => .inl rfl

theorem written_congr (maps : next.maps = proxy.maps) : Written next id ↔ Written proxy id := by
  constructor
  · rintro ⟨live, writes, implicit⟩
    rw [maps] at live writes implicit
    exact ⟨live, writes, implicit⟩
  · rintro ⟨live, writes, implicit⟩
    rw [← maps] at live writes implicit
    exact ⟨live, writes, implicit⟩

theorem clientByte_congr (maps : next.maps = proxy.maps) :
    clientByte stub next id place = clientByte stub proxy id place := by
  unfold clientByte
  rw [maps]

theorem Refreshes.trans (first : Refreshes stub proxy next) (second : Refreshes stub next last) :
    Refreshes stub proxy last := by
  constructor
  · exact second.maps.trans first.maps
  · exact second.mapping.trans first.mapping
  · intro buffer place
    rcases second.bytes buffer place with same | ⟨id, written, named, inside, value⟩
    · rw [same]
      exact first.bytes buffer place
    · refine .inr ⟨id, (written_congr first.maps).mp written, ?_, ?_, ?_⟩
      · rwa [← first.maps]
      · rwa [← first.maps]
      · rwa [← clientByte_congr first.maps]

theorem Mapped.refreshes (mapped : Mapped stub proxy) (refreshes : Refreshes stub proxy next) :
    Mapped stub next := by
  have agree := mapped.agree
  have maps := refreshes.maps
  have mapping := refreshes.mapping
  constructor
  · constructor
    · simpa only [maps] using agree.tracked
    · simpa only [maps] using agree.same
    · simpa only [maps] using agree.single
    · simpa only [maps, mapping] using agree.live
  · simpa only [maps, mapping] using mapped.placed

/-- What was up to date stays so. -/
theorem Refreshes.current (refreshes : Refreshes stub proxy next) (mapped : Mapped stub proxy)
    (live : (proxy.maps id).realPtr ≠ 0) (current : Current stub proxy id place) :
    Current stub next id place := by
  intro inside
  rw [refreshes.maps] at inside
  rw [clientByte_congr refreshes.maps, refreshes.maps]
  rcases refreshes.bytes (proxy.maps id).buffer place with same | ⟨other, written, named, -, value⟩
  · rw [same]
    exact current inside
  · have single := mapped.agree.single other id written.live live named
    rwa [single] at value

/-! ## The tables in numbers -/

theorem Mapped.stubEntry (mapped : Mapped stub proxy) (live : (proxy.maps id).realPtr ≠ 0) :
    (stub.stubMaps id).ptr ≠ 0 ∧ (stub.stubMaps id).buffer = (proxy.maps id).buffer ∧
      (stub.stubMaps id).access = (proxy.maps id).access := by
  have present := (mapped.agree.tracked id).mpr live
  obtain ⟨buffer, -, -, -, access⟩ := mapped.agree.same id present
  exact ⟨present, buffer, access⟩

theorem Mapped.bounds (mapped : Mapped stub proxy) (live : (proxy.maps id).realPtr ≠ 0) :
    (stub.stubMaps id).offset.toInt = (proxy.maps id).offset.toNatClampNeg ∧
      (stub.stubMaps id).length.toInt = (proxy.maps id).length.toNatClampNeg ∧
      (proxy.maps id).offset.toNatClampNeg + (proxy.maps id).length.toNatClampNeg < 2 ^ 31 := by
  have present := (mapped.agree.tracked id).mpr live
  obtain ⟨-, -, offset, length, -⟩ := mapped.agree.same id present
  obtain ⟨-, -, low, some, small, -⟩ := mapped.placed id live
  rw [offset, length, Int32.toInt_toInt64, Int32.toInt_toInt64]
  exact ⟨Int32.toInt_eq_toNatClampNeg low, Int32.toInt_eq_toNatClampNeg some, small⟩

theorem Mapped.mappingOf (mapped : Mapped stub proxy) (live : (proxy.maps id).realPtr ≠ 0) :
    stub.mappingOf (proxy.maps id).buffer = some id := by
  obtain ⟨present, buffer, -⟩ := mapped.stubEntry live
  refine find_mapIds_only (mapped.placed id live).1 (by simp [present, buffer]) fun other good => ?_
  simp only [Bool.and_eq_true, bne_iff_ne, beq_iff_eq] at good
  have real := (mapped.agree.tracked other).mp good.1
  exact mapped.agree.single other id real live ((mapped.stubEntry real).2.1.symm.trans good.2)

/-- The mapping that the stub finds is one of the driver's. -/
theorem Mapped.found (mapped : Mapped stub proxy) {buffer : UInt32}
    (found : stub.mappingOf buffer = some id) :
    (proxy.maps id).realPtr ≠ 0 ∧ (proxy.maps id).buffer = buffer := by
  have good := (find_mapIds found).2
  simp only [Bool.and_eq_true, bne_iff_ne, beq_iff_eq] at good
  have live := (mapped.agree.tracked id).mp good.1
  exact ⟨live, (mapped.stubEntry live).2.1.symm.trans good.2⟩

theorem Mapped.proxyFinds (mapped : Mapped stub proxy) (live : (proxy.maps id).realPtr ≠ 0) :
    (mapIds.find? fun other =>
      (proxy.maps other).realPtr != 0 && (proxy.maps other).buffer == (proxy.maps id).buffer) =
      some id := by
  refine find_mapIds_only (mapped.placed id live).1 (by simp [live]) fun other good => ?_
  simp only [Bool.and_eq_true, bne_iff_ne, beq_iff_eq] at good
  exact mapped.agree.single other id good.1 live good.2

/-! ## What the proxy copies -/

theorem applyPiggyback_absent {size : UInt32} {data : Nat → UInt8} :
    proxy.applyPiggyback .absent size data = some proxy :=
  if_pos (.inl rfl)

/-- A range of a mapping is up to date when it comes with the client's bytes. -/
theorem Mapped.applies (mapped : Mapped stub proxy) (written : Written proxy id)
    (piggyback : Piggyback) (size : UInt32) (data : Nat → UInt8)
    (named : piggyback.buffer = (proxy.maps id).buffer) (length : piggyback.length = size)
    (low : (proxy.maps id).offset.toNatClampNeg ≤ piggyback.offset.toNat)
    (high : piggyback.offset.toNat + size.toNat ≤
      (proxy.maps id).offset.toNatClampNeg + (proxy.maps id).length.toNatClampNeg)
    (bytes : ∀ distance < size.toNat,
      data distance = clientByte stub proxy id (piggyback.offset.toNat + distance)) :
    ∃ next, proxy.applyPiggyback piggyback size data = some next ∧ Refreshes stub proxy next ∧
      ∀ distance < size.toNat, Current stub next id (piggyback.offset.toNat + distance) := by
  obtain ⟨-, -, small⟩ := mapped.bounds written.live
  obtain ⟨-, null, least, positive, -, range, live, pointer, start⟩ := mapped.placed id written.live
  by_cases empty : size = 0
  · subst empty
    exact ⟨proxy, if_pos (.inr rfl), .refl _ _, fun distance below => absurd below (Nat.not_lt_zero _)⟩
  have offsetIs : piggyback.offset.toInt32.toInt = piggyback.offset.toNat := word_toInt (by omega)
  have startIs := Int32.toInt_eq_toNatClampNeg least
  have allIs := Int32.toInt_eq_toNatClampNeg positive
  have sum : (piggyback.offset + piggyback.length).toNat = piggyback.offset.toNat + size.toNat := by
    rw [length, UInt32.toNat_add, Nat.mod_eq_of_lt (by omega)]
  have stop : (piggyback.offset + piggyback.length).toInt32.toInt =
      piggyback.offset.toNat + size.toNat := by
    rw [word_toInt (by omega), sum]
    rfl
  have most : ((proxy.maps id).offset + (proxy.maps id).length).toInt =
      (proxy.maps id).offset.toNatClampNeg + (proxy.maps id).length.toNatClampNeg := by
    rw [int32_add, startIs, allIs] <;> rw [startIs, allIs] <;> omega
  have inRange : ¬ (piggyback.offset.toInt32 < (proxy.maps id).offset ∨
      (proxy.maps id).offset + (proxy.maps id).length <
        (piggyback.offset + piggyback.length).toInt32) := by
    rw [Int32.lt_iff_toInt_lt, Int32.lt_iff_toInt_lt, stop, most, offsetIs, startIs]
    omega
  have distance : (piggyback.offset.toInt32 - (proxy.maps id).offset).toUInt32.toNat =
      piggyback.offset.toNat - (proxy.maps id).offset.toNatClampNeg := by
    have ordered : (proxy.maps id).offset ≤ piggyback.offset.toInt32 := by
      rw [Int32.le_iff_toInt_le, offsetIs, startIs]
      omega
    rw [Int32.toNat_toUInt32_of_le (Int32.sub_nonneg_of_le least ordered),
      Int32.toNatClampNeg_sub_of_le least ordered, ← Int32.toNat_toInt, offsetIs]
    rfl
  have asked : ¬ ((proxy.maps id).buffer = 0 ∨ size = 0) := not_or.mpr ⟨null, empty⟩
  have applied : proxy.applyPiggyback piggyback size data =
      some { proxy with
        gl := { proxy.gl with
          bytes := Function.update proxy.gl.bytes (proxy.maps id).buffer
            (overwrite piggyback.offset.toNat size.toNat data
              (proxy.gl.bytes (proxy.maps id).buffer)) } } := by
    unfold MapProxy.applyPiggyback
    simp only [if_neg asked, named, mapped.proxyFinds written.live, if_neg inRange, distance,
      Buffers.storeAt, live, if_pos pointer, start, Option.map_some, Option.some.injEq]
    rw [Nat.add_sub_cancel' low]
  have inside {place : Nat} (first : piggyback.offset.toNat ≤ place)
      (last : place < piggyback.offset.toNat + size.toNat) : InMapping (proxy.maps id) place :=
    ⟨low.trans first, last.trans_le high⟩
  have value {place : Nat} (first : piggyback.offset.toNat ≤ place)
      (last : place < piggyback.offset.toNat + size.toNat) :
      overwrite piggyback.offset.toNat size.toNat data
        (proxy.gl.bytes (proxy.maps id).buffer) place = clientByte stub proxy id place := by
    unfold overwrite
    rw [if_pos ⟨first, last⟩, bytes _ (by omega), Nat.add_sub_cancel' first]
  refine ⟨_, applied, ⟨rfl, rfl, fun buffer place => ?_⟩, fun distance below _ => ?_⟩
  · by_cases here : buffer = (proxy.maps id).buffer
    · subst here
      simp only [Function.update_self]
      by_cases within : piggyback.offset.toNat ≤ place ∧
          place < piggyback.offset.toNat + size.toNat
      · exact .inr ⟨id, written, rfl, inside within.1 within.2, value within.1 within.2⟩
      · exact .inl (if_neg within)
    · exact .inl (congrFun (Function.update_of_ne here ..) place)
  · simp only [Function.update_self]
    exact value (Nat.le_add_right _ _) (by omega)

end

/-! ## What the stub sends -/

/-- The attribute takes its vertices from the buffer. -/
def Uses (buffer : UInt32) (attrib : AttribState) : Prop :=
  attrib.enabled = true ∧ attrib.vbo = buffer

instance decidableUses (buffer : UInt32) (attrib : AttribState) : Decidable (Uses buffer attrib) :=
  inferInstanceAs (Decidable (_ ∧ _))

/-- A part of a mapping that the client writes to. -/
structure Sound (proxy : MapProxy) (span : MappedSpan) : Prop where
  written : Written proxy span.id
  named : span.buffer = (proxy.maps span.id).buffer
  low : ((proxy.maps span.id).offset.toNatClampNeg : Int) ≤ span.start.toInt
  high : span.start.toInt + span.bytes.toNat ≤
    (proxy.maps span.id).offset.toNatClampNeg + (proxy.maps span.id).length.toNatClampNeg

section

variable {stub after : UploadStub} {proxy : MapProxy} {id : MapId} {vao : VAOState}
  {first last start stop : Int64} {attrib : AttribState} {buffer : UInt32} {span : MappedSpan}

/-! ## Where the vertices lie -/

section

variable {Item : Type} {uses : Item → Prop} [DecidablePred uses] {low high : Item → Int64}
  {list : List Item}

end

theorem int64_sub_toNat {left right : Int64} (least : 0 ≤ right.toInt)
    (most : right.toInt ≤ left.toInt) :
    (left - right).toUInt64.toNat = (left.toInt - right.toInt).toNat := by
  have bound := Int64.toInt_lt left
  have difference : (left - right).toInt = left.toInt - right.toInt := by
    rw [Int64.toInt_sub]
    exact Int.bmod_eq_of_le_mul_two (by omega) (by omega)
  have natural : 0 ≤ left - right := by
    rw [Int64.le_iff_toInt_le, difference]
    change (0 : Int) ≤ _
    omega
  rw [Int64.toNat_toUInt64_of_le natural, ← Int64.toNat_toInt, difference]

theorem int64_toNat {value : Int64} {amount : Nat} (is : value.toInt = amount) :
    value.toUInt64.toNat = amount := by
  have natural : 0 ≤ value := by
    rw [Int64.le_iff_toInt_le, is]
    exact Int.natCast_nonneg _
  rw [Int64.toNat_toUInt64_of_le natural, ← Int64.toNat_toInt, is, Int.toNat_natCast]

/-- The loop over the attributes, for a mapping that is found. -/
theorem Mapped.attribSpan_eq (mapped : Mapped stub.maps proxy) (written : Written proxy id)
    (uses : Uses (proxy.maps id).buffer attrib) :
    let range := bufferSpan vao (proxy.maps id).buffer first last (spanStart attrib first)
      (spanEnd attrib last)
    let start := if range.1 < 0 then 0 else range.1
    stub.attribSpan vao first last attrib =
      if start.toInt < range.2.toInt ∧
          ((proxy.maps id).offset.toNatClampNeg : Int) ≤ start.toInt ∧
          range.2.toInt ≤ (proxy.maps id).offset.toNatClampNeg + (proxy.maps id).length.toNatClampNeg
      then some ⟨id, (proxy.maps id).buffer, start, .ofNat (range.2.toInt - start.toInt).toNat⟩
      else none := by
  intro range start
  obtain ⟨offset, length, small⟩ := mapped.bounds written.live
  have access := (mapped.stubEntry written.live).2.2
  have null := (mapped.placed id written.live).2.1
  have stop : ((stub.maps.stubMaps id).offset + (stub.maps.stubMaps id).length).toInt =
      (proxy.maps id).offset.toNatClampNeg + (proxy.maps id).length.toNatClampNeg := by
    have sum : (stub.maps.stubMaps id).offset.toInt + (stub.maps.stubMaps id).length.toInt =
        (proxy.maps id).offset.toNatClampNeg + (proxy.maps id).length.toNatClampNeg := by
      rw [offset, length]
    rw [int64_add (by omega) (by omega), sum]
  have asked : ¬ (attrib.enabled = false ∨ attrib.vbo = 0) := by
    rw [uses.1, uses.2]
    simpa using null
  have allowed : ¬ ((stub.maps.stubMaps id).access &&& glMapFlushExplicitBit ≠ 0 ∨
      (stub.maps.stubMaps id).access &&& glMapWriteBit = 0) := by
    rw [access]
    exact not_or.mpr ⟨not_not.mpr written.implicit, written.writes⟩
  unfold UploadStub.attribSpan
  rw [if_neg asked, uses.2, mapped.mappingOf written.live]
  simp only [Option.bind_some, if_neg allowed]
  have tests : (range.2 ≤ start ∨ start < (stub.maps.stubMaps id).offset ∨
      (stub.maps.stubMaps id).offset + (stub.maps.stubMaps id).length < range.2) ↔
      ¬ (start.toInt < range.2.toInt ∧
        ((proxy.maps id).offset.toNatClampNeg : Int) ≤ start.toInt ∧
        range.2.toInt ≤
          (proxy.maps id).offset.toNatClampNeg + (proxy.maps id).length.toNatClampNeg) := by
    rw [Int64.le_iff_toInt_le, Int64.lt_iff_toInt_lt, Int64.lt_iff_toInt_lt, stop, offset]
    omega
  by_cases inside : start.toInt < range.2.toInt ∧
      ((proxy.maps id).offset.toNatClampNeg : Int) ≤ start.toInt ∧
      range.2.toInt ≤ (proxy.maps id).offset.toNatClampNeg + (proxy.maps id).length.toNatClampNeg
  · obtain ⟨some, low, high⟩ := inside
    have place : (start - (stub.maps.stubMaps id).offset).toUInt64.toNat =
        (start.toInt - (proxy.maps id).offset.toNatClampNeg).toNat := by
      rw [int64_sub_toNat (by omega) (by omega), offset]
    have bytes : (range.2 - start).toUInt64.toNat = (range.2.toInt - start.toInt).toNat :=
      int64_sub_toNat (by omega) (by omega)
    have room : ¬ (stub.maps.stubMaps id).length.toUInt64 ≤
        (start - (stub.maps.stubMaps id).offset).toUInt64 := by
      rw [UInt64.le_iff_toNat_le, int64_toNat length, place]
      omega
    have enough : ¬ (stub.maps.stubMaps id).length.toUInt64 <
        (start - (stub.maps.stubMaps id).offset).toUInt64 + (range.2 - start).toUInt64 := by
      rw [UInt64.lt_iff_toNat_lt, UInt64.toNat_add, place, bytes, int64_toNat length,
        Nat.mod_eq_of_lt (by omega)]
      omega
    have amount : (range.2 - start).toUInt64 = .ofNat (range.2.toInt - start.toInt).toNat := by
      rw [← bytes, UInt64.ofNat_toNat]
    refine Eq.trans ?_ (if_pos ⟨some, low, high⟩).symm
    refine (if_neg (tests.not.mpr (not_not.mpr ⟨some, low, high⟩))).trans ?_
    rw [← amount]
    exact (if_neg room).trans (by rw [if_neg enough])
  · rw [if_neg inside]
    exact if_pos (tests.mpr inside)

/-- What is sent of a buffer is a part of its mapping. -/
theorem Mapped.attribSpan_sound (mapped : Mapped stub.maps proxy)
    (found : stub.attribSpan vao first last attrib = some span) :
    Sound proxy span ∧ Uses span.buffer attrib := by
  have whole := found
  unfold UploadStub.attribSpan at found
  obtain ⟨asked, found⟩ := Option.ite_none_left_eq_some.mp found
  obtain ⟨id, mapping, found⟩ := Option.bind_eq_some_iff.mp found
  obtain ⟨allowed, -⟩ := Option.ite_none_left_eq_some.mp found
  obtain ⟨enabled, -⟩ := not_or.mp asked
  obtain ⟨implicit, writes⟩ := not_or.mp allowed
  obtain ⟨live, named⟩ := mapped.found mapping
  have access := (mapped.stubEntry live).2.2
  rw [access] at implicit writes
  have written : Written proxy id := ⟨live, writes, not_not.mp implicit⟩
  have uses : Uses (proxy.maps id).buffer attrib := ⟨Bool.not_eq_false _ ▸ enabled, named.symm⟩
  rw [mapped.attribSpan_eq written uses] at whole
  obtain ⟨⟨some, low, high⟩, shape⟩ := Option.ite_none_right_eq_some.mp whole
  cases shape
  obtain ⟨-, -, small⟩ := mapped.bounds live
  generalize bufferSpan vao (proxy.maps id).buffer first last (spanStart attrib first)
    (spanEnd attrib last) = range at some low high ⊢
  generalize (if range.1 < 0 then 0 else range.1) = start at some low high ⊢
  have limit : UInt64.size = 2 ^ 64 := rfl
  have amount : (UInt64.ofNat (range.2.toInt - start.toInt).toNat).toNat =
      (range.2.toInt - start.toInt).toNat := UInt64.toNat_ofNat_of_lt' (by omega)
  refine ⟨⟨written, rfl, low, ?_⟩, uses⟩
  simp only [amount]
  omega

theorem Mapped.vboSpan_sound (mapped : Mapped stub.maps proxy)
    (found : stub.vboSpan vao first last = some span) : Sound proxy span := by
  obtain ⟨index, -, here⟩ := List.exists_of_findSome?_eq_some found
  exact (mapped.attribSpan_sound here).1

/-- The range of a buffer that comes with a draw brings it up to date. -/
theorem Mapped.finish_refreshes (mapped : Mapped stub.maps proxy) {slot sent : DrawSlot}
    (taken : stub.finish vao first last slot = some (after, sent)) :
    ∃ next, proxy.applyPiggyback sent.piggyback sent.data2Size
        (fun place => after.arena (sent.data2Offset.toNat + place)) = some next ∧
      Refreshes stub.maps proxy next ∧
      ∀ span, stub.vboSpan vao first last = some span → ∀ place : Nat,
        span.start.toInt ≤ place → place < span.start.toInt + span.bytes.toNat →
          Current stub.maps next span.id place := by
  obtain ⟨⟨wrote, piggyback, offset⟩, range, shape⟩ := Option.map_eq_some_iff.mp taken
  cases shape
  unfold UploadStub.stubVboPiggybackRange at range
  cases found : stub.vboSpan vao first last with
  | none =>
      rw [found] at range
      cases range
      exact ⟨proxy, applyPiggyback_absent, .refl _ _, nofun⟩
  | some span =>
      rw [found] at range
      obtain ⟨⟨wrote, place⟩, written, shape⟩ := Option.map_eq_some_iff.mp range
      cases shape
      have sound := mapped.vboSpan_sound found
      obtain ⟨offsetIs, -, small⟩ := mapped.bounds sound.written.live
      have null := (mapped.placed span.id sound.written.live).2.1
      obtain ⟨low, high⟩ := And.intro sound.low sound.high
      obtain ⟨start, startIs⟩ := Int.eq_ofNat_of_zero_le (a := span.start.toInt) (by omega)
      have begins : span.start.toUInt64.toUInt32.toNat = start := by
        rw [UInt64.toNat_toUInt32, int64_toNat startIs, Nat.mod_eq_of_lt (by omega)]
      have amount : span.bytes.toUInt32.toNat = span.bytes.toNat := by
        rw [UInt64.toNat_toUInt32, Nat.mod_eq_of_lt (by omega)]
      have distance : (span.start - (stub.maps.stubMaps span.id).offset).toUInt64.toNat =
          start - (proxy.maps span.id).offset.toNatClampNeg := by
        rw [int64_sub_toNat (by omega) (by omega), startIs, offsetIs]
        omega
      obtain ⟨-, bytes⟩ := mappingWrite_spec written
      rw [distance] at bytes
      have named : span.buffer ≠ 0 := by rwa [sound.named]
      simp only [if_pos named]
      obtain ⟨next, applied, refreshes, fresh⟩ := mapped.applies sound.written
        ⟨span.buffer, span.start.toUInt64.toUInt32, span.bytes.toUInt32⟩ span.bytes.toUInt32
        (fun distance => after.arena (offset.toNat + distance)) sound.named rfl
        (by simp only [begins]; omega) (by simp only [begins, amount]; omega) (by
          intro distance below
          rw [amount] at below
          rw [bytes distance below, clientByte, begins]
          congr 1
          omega)
      refine ⟨next, applied, refreshes, fun other same place first last => ?_⟩
      obtain rfl := Option.some.inj same
      simp only [begins] at fresh
      have here := fresh (place - start) (by rw [amount]; omega)
      rwa [Nat.add_sub_cancel' (by omega)] at here

end

end GlesBridge.Draw
