import GlesBridge.Proxy.Upload
import GlesBridge.Ring.Arena

namespace GlesBridge.Upload

open GlesBridge.Shared GlesBridge.Stub GlesBridge.Proxy

/-! What the real call gets for the pixels. -/

/-- The size of the client's pixels, where no buffer is bound. -/
def uploadBytes (unpack : UnpackState) (call : Stub.Upload) : UInt64 :=
  match call.op with
  | .glTexImage2D | .glTexSubImage2D =>
      unpack.glUnpackImageSize2d call.width call.height call.format call.type
  | .glTexImage3D | .glTexSubImage3D =>
      unpack.glUnpackImageSize3d call.width call.height call.depth call.format call.type
  | .glCompressedTexImage2D | .glCompressedTexSubImage2D
  | .glCompressedTexImage3D | .glCompressedTexSubImage3D => sizeT call.imageSize

/-- With a buffer bound the pointer is the client's value, which is not read from;
without one it is null for null, and otherwise points to a copy of the client's
bytes. -/
structure Interpreted (data : DataBase) (buffer : UInt32) (stub after : UploadStub)
    (pixels bytes : UInt64) (pointer : UInt32) : Prop where
  offset : buffer ≠ 0 → pointer.toNat = pixels.toNat ∧ after.reads = stub.reads
  null : buffer = 0 → pixels = 0 → pointer = 0
  copy : buffer = 0 → pixels ≠ 0 → ∀ place < bytes.toNat,
    data.byte after.arena (pointer + .ofNat place) = stub.client (pixels + .ofNat place)

/-- With a buffer bound, `glTexImage2D` gets a null pointer, and the others an
offset of 32 bits. Without one, `glTexSubImage3D` gets a null pointer only for an
upload of nothing, when the arena is at its start. -/
def SourceKept (stub : UploadStub) (current : Ctx) (call : Stub.Upload) : Prop :=
  if stub.pixelUnpackBuffer current ≠ 0 then
    if call.op = .glTexImage2D then call.pixels = 0 else call.pixels.toNat < 2 ^ 32
  else
    call.op = .glTexSubImage3D → call.pixels = 0 →
      uploadBytes stub.unpack call = 0 ∧ stub.head % glesBridgeDataSize = 0

section

variable {data : DataBase} {stub after : UploadStub} {current : Ctx} {call : Stub.Upload}
  {pixels size : UInt64} {offset buffer pointer : UInt32} {slot : UploadSlot} {arena : Nat → UInt8}
  {place : Nat}

/-! ## The arena -/

theorem ring_place {head tail amount start next : Nat}
    (placed : Ring.ringDataAlloc head tail amount = some (start, next)) :
    start < glesBridgeDataSize ∧ (amount = 0 → start = head % glesBridgeDataSize) := by
  have room : head % glesBridgeDataSize < glesBridgeDataSize := Nat.mod_lt _ (by decide)
  have none : Ring.alignUp 0 = 0 := by decide
  unfold Ring.ringDataAlloc at placed
  by_cases fits : Ring.alignUp amount ≤ Ring.glesBridgeDataSize - head % Ring.glesBridgeDataSize
  · simp only [if_pos fits] at placed
    split at placed
    · cases placed
    · cases placed
      exact ⟨room, fun _ => rfl⟩
  · simp only [if_neg fits] at placed
    split at placed
    · cases placed
    · cases placed
      refine ⟨by decide, fun nothing => ?_⟩
      rw [nothing, none] at fits
      exact absurd (Nat.zero_le _) fits

/-- A block ends inside the arena. -/
theorem ring_end {head tail amount start next : Nat} (fits : amount ≤ glesBridgeDataSize)
    (placed : Ring.ringDataAlloc head tail amount = some (start, next)) :
    start + amount ≤ glesBridgeDataSize := by
  have aligned : amount ≤ Ring.alignUp amount := Ring.le_alignUp fits
  have room : head % glesBridgeDataSize < glesBridgeDataSize := Nat.mod_lt _ (by decide)
  unfold Ring.ringDataAlloc at placed
  by_cases inside : Ring.alignUp amount ≤ Ring.glesBridgeDataSize - head % Ring.glesBridgeDataSize
  · simp only [if_pos inside] at placed
    split at placed
    · cases placed
    · cases placed
      change Ring.alignUp amount ≤ glesBridgeDataSize - head % glesBridgeDataSize at inside
      change head % glesBridgeDataSize + amount ≤ glesBridgeDataSize
      omega
  · simp only [if_neg inside] at placed
    split at placed
    · cases placed
    · cases placed
      omega

/-- Where an allocation lies. -/
theorem ringDataAlloc_place {amount : Nat}
    (placed : stub.ringDataAlloc amount = some (after, offset)) :
    amount ≤ glesBridgeDataSize ∧ offset.toNat < glesBridgeDataSize ∧
      (amount = 0 → offset.toNat = stub.head % glesBridgeDataSize) ∧
      ∃ head, after = { stub with head } := by
  unfold UploadStub.ringDataAlloc at placed
  split at placed
  · cases placed
  · rename_i fits
    obtain ⟨⟨start, head⟩, found, shape⟩ := Option.map_eq_some_iff.mp placed
    cases shape
    obtain ⟨inside, empty⟩ := ring_place found
    have value : (UInt32.ofNat start).toNat = start := by
      refine UInt32.toNat_ofNat_of_lt' (inside.trans ?_)
      decide
    rw [value]
    exact ⟨Nat.le_of_not_lt fits, inside, empty, head, rfl⟩

/-- A write changes the head, the arena and the record of what was read. -/
theorem bridgeDataWrite_frame (written : stub.bridgeDataWrite pixels size = some (after, offset)) :
    after.maps = stub.maps ∧ after.client = stub.client ∧
      offset.toNat + size.toNat ≤ glesBridgeDataSize ∧
      (pixels ≠ 0 → size ≠ 0 → after.reads = (pixels, size.toNat) :: stub.reads) ∧
      (pixels = 0 ∨ size = 0 → after.reads = stub.reads) := by
  obtain ⟨⟨placed, start⟩, found, shape⟩ := Option.map_eq_some_iff.mp written
  have room : start.toNat + size.toNat ≤ glesBridgeDataSize := by
    unfold UploadStub.ringDataAlloc at found
    split at found
    · cases found
    · rename_i fits
      obtain ⟨⟨place, head⟩, at', shape⟩ := Option.map_eq_some_iff.mp found
      cases shape
      have inside := ring_end (Nat.le_of_not_lt fits) at'
      rwa [UInt32.toNat_ofNat_of_lt' ((Nat.le_of_add_right_le inside).trans_lt (by decide))]
  obtain ⟨-, -, -, head, rfl⟩ := ringDataAlloc_place found
  by_cases copied : size ≠ 0 ∧ pixels ≠ 0
  · simp only [if_pos copied] at shape
    cases shape
    exact ⟨rfl, rfl, room, fun _ _ => rfl, fun none =>
      none.elim (fun null => absurd null copied.2) (fun nothing => absurd nothing copied.1)⟩
  · simp only [if_neg copied] at shape
    cases shape
    exact ⟨rfl, rfl, room, fun present some => absurd ⟨some, present⟩ copied, fun _ => rfl⟩

/-- What a write into the arena leaves there. -/
theorem bridgeDataWrite_spec (written : stub.bridgeDataWrite pixels size = some (after, offset)) :
    size.toNat ≤ glesBridgeDataSize ∧ offset.toNat < glesBridgeDataSize ∧
      (size = 0 → offset.toNat = stub.head % glesBridgeDataSize ∧ after.reads = stub.reads) ∧
      (pixels ≠ 0 → size ≠ 0 → after.reads ≠ stub.reads ∧ ∀ place < size.toNat,
        after.arena (offset.toNat + place) = stub.client (pixels + .ofNat place)) := by
  obtain ⟨⟨placed, start⟩, found, shape⟩ := Option.map_eq_some_iff.mp written
  obtain ⟨fits, inside, empty, head, rfl⟩ := ringDataAlloc_place found
  by_cases copied : size ≠ 0 ∧ pixels ≠ 0
  · simp only [if_pos copied] at shape
    cases shape
    refine ⟨fits, inside, fun nothing => absurd nothing copied.1, fun _ _ =>
      ⟨List.cons_ne_self _ _, fun place below => ?_⟩⟩
    simp only [Ring.writeBytes, Nat.le_add_right, Nat.add_lt_add_iff_left, below, and_self, if_true,
      Nat.add_sub_cancel_left]
  · simp only [if_neg copied] at shape
    cases shape
    refine ⟨fits, inside, fun nothing => ⟨empty ?_, rfl⟩, fun present some =>
      absurd ⟨some, present⟩ copied⟩
    rw [nothing]
    rfl

theorem dp_ne_zero (inside : offset.toNat < glesBridgeDataSize) : data.dp offset ≠ 0 := by
  intro null
  have value := congrArg UInt32.toNat null
  have used : 0 < data.address.toNat := Nat.pos_of_ne_zero fun none =>
    data.used (UInt32.toNat_inj.mp none)
  have fits := data.fits
  rw [DataBase.dp, UInt32.toNat_add, Nat.mod_eq_of_lt (by omega)] at value
  change data.address.toNat + offset.toNat = 0 at value
  omega

/-- The proxy finds in the arena what the stub has put there. -/
theorem byte_dp (below : offset.toNat + place < 2 ^ 32) :
    data.byte arena (data.dp offset + .ofNat place) = arena (offset.toNat + place) := by
  have same : data.address + offset + .ofNat place - data.address = offset + .ofNat place := by
    rw [UInt32.add_assoc, UInt32.add_comm data.address, UInt32.add_sub_cancel]
  unfold DataBase.byte DataBase.dp
  rw [same, UInt32.toNat_add, UInt32.toNat_ofNat_of_lt' (by
    change place < 2 ^ 32
    omega), Nat.mod_eq_of_lt below]

/-! ## The decisions -/

/-- Pixels that are copied arrive, and none are read with a buffer bound. -/
theorem copied (written : stub.bridgeDataWrite pixels size = some (after, offset))
    (present : pixels ≠ 0) : ∀ place < size.toNat,
      data.byte after.arena (data.dp offset + .ofNat place) = stub.client (pixels + .ofNat place) := by
  intro place below
  obtain ⟨fits, inside, -, copy⟩ := bridgeDataWrite_spec written
  have some : size ≠ 0 := by
    rintro rfl
    exact absurd below (Nat.not_lt_zero _)
  have room : offset.toNat + place < 2 ^ 32 := by
    have limit : glesBridgeDataSize + glesBridgeDataSize ≤ 2 ^ 32 := by decide
    omega
  rw [byte_dp room, (copy present some).2 place below]

theorem interpreted_bound (bound : buffer ≠ 0) :
    Interpreted data buffer stub after pixels size pointer ↔
      pointer.toNat = pixels.toNat ∧ after.reads = stub.reads := by
  constructor
  · exact fun interpreted => interpreted.offset bound
  · exact fun same => ⟨fun _ => same, fun none => absurd none bound, fun none => absurd none bound⟩

theorem toUInt32_toNat_iff : pixels.toUInt32.toNat = pixels.toNat ↔ pixels.toNat < 2 ^ 32 := by
  rw [UInt64.toNat_toUInt32]
  exact Nat.mod_eq_iff_lt (by decide)

/-- A pointer that goes out as an offset keeps the bits that fit. -/
theorem interpreted_offset (bound : buffer ≠ 0) (unread : after.reads = stub.reads) :
    Interpreted data buffer stub after pixels size pixels.toUInt32 ↔ pixels.toNat < 2 ^ 32 := by
  rw [interpreted_bound bound, toUInt32_toNat_iff]
  exact and_iff_left unread

/-- A null pointer arrives as one, and is the offset 0 as well. -/
theorem interpreted_null (unread : after.reads = stub.reads) :
    Interpreted data buffer stub after 0 size 0 where
  offset _ := ⟨rfl, unread⟩
  null _ _ := rfl
  copy _ present := absurd rfl present

theorem interpreted_copy (unbound : buffer = 0) (present : pixels ≠ 0)
    (copy : ∀ place < size.toNat,
      data.byte after.arena (pointer + .ofNat place) = stub.client (pixels + .ofNat place)) :
    Interpreted data buffer stub after pixels size pointer where
  offset bound := absurd unbound bound
  null _ none := absurd none present
  copy _ _ := copy

theorem mappingWrite_reads {ptr : UInt64} {start : Nat}
    (written : stub.mappingWrite ptr start size = some (after, offset)) :
    after.reads = stub.reads := by
  obtain ⟨⟨placed, _⟩, found, shape⟩ := Option.map_eq_some_iff.mp written
  obtain ⟨-, -, -, head, rfl⟩ := ringDataAlloc_place found
  cases shape
  rfl

theorem stubUnpackPiggyback_reads {value : Int64} {length : UInt32}
    (sent : stub.stubUnpackPiggyback current value size = some (after, offset, length)) :
    after.reads = stub.reads := by
  unfold UploadStub.stubUnpackPiggyback at sent
  simp only at sent
  split at sent
  · cases sent
    rfl
  · split at sent
    · cases sent
      rfl
    · split at sent
      · cases sent
        rfl
      · split at sent
        · cases sent
          rfl
        · obtain ⟨⟨wrote, _⟩, written, shape⟩ := Option.map_eq_some_iff.mp sent
          cases shape
          exact mappingWrite_reads written

/-- The compressed uploads and `glTexImage3D`. -/
theorem sendPixels_interpreted
    (taken : stub.sendPixels current pixels size = some (after, slot)) :
    Interpreted data (stub.pixelUnpackBuffer current) stub after pixels size
        (data.pixelsOfMode slot) ↔
      (stub.pixelUnpackBuffer current ≠ 0 → pixels.toNat < 2 ^ 32) := by
  unfold UploadStub.sendPixels at taken
  by_cases null : pixels = 0
  · rw [if_pos null] at taken
    cases taken
    subst null
    exact iff_of_true (interpreted_null rfl) fun _ => by decide
  · rw [if_neg null] at taken
    by_cases bound : stub.pixelUnpackBuffer current ≠ 0
    · rw [if_pos bound] at taken
      cases taken
      exact ⟨fun interpreted _ => (interpreted_offset bound rfl).mp interpreted, fun kept =>
        (interpreted_offset bound rfl).mpr (kept bound)⟩
    · rw [if_neg bound] at taken
      obtain ⟨⟨wrote, start⟩, written, shape⟩ := Option.map_eq_some_iff.mp taken
      cases shape
      refine iff_of_true ?_ fun some => absurd some bound
      exact interpreted_copy (not_not.mp bound) null (copied written null)

/-- The tests of the size before it is computed change nothing. -/
theorem size2d_of_pos {unpack : UnpackState} {width height : Int32} {format type : UInt32}
    {asked : Prop} [Decidable asked] (ask : asked) :
    (if asked ∧ 0 < width ∧ 0 < height then unpack.glUnpackImageSize2d width height format type
      else 0) = unpack.glUnpackImageSize2d width height format type := by
  by_cases positive : 0 < width ∧ 0 < height
  · exact if_pos ⟨ask, positive⟩
  · rw [if_neg fun all => positive all.2, UnpackState.glUnpackImageSize2d, if_pos]
    rcases not_and_or.mp positive with narrow | flat
    · exact .inl (Int32.not_lt.mp narrow)
    · exact .inr (Int32.not_lt.mp flat)

theorem toUInt32_ne_zero (some : size ≠ 0) (fits : size.toNat ≤ glesBridgeDataSize) :
    size.toUInt32 ≠ 0 := by
  intro none
  have value := congrArg UInt32.toNat none
  have limit : glesBridgeDataSize < 2 ^ 32 := by decide
  rw [UInt64.toNat_toUInt32, Nat.mod_eq_of_lt (by omega)] at value
  exact some (UInt64.toNat_inj.mp value)

/-- `glTexImage2D` does not ask for the binding. -/
theorem texImage2D_interpreted (taken : stub.glTexImage2D call = some (after, slot)) :
    Interpreted data (stub.pixelUnpackBuffer current) stub after call.pixels
        (stub.unpack.glUnpackImageSize2d call.width call.height call.format call.type)
        (data.hGlTexImage2D slot) ↔
      (stub.pixelUnpackBuffer current ≠ 0 → call.pixels = 0) := by
  unfold UploadStub.glTexImage2D at taken
  by_cases null : call.pixels = 0
  · simp only [null, ne_eq, not_true_eq_false, false_and, if_false, Option.some.injEq,
      Prod.mk.injEq] at taken
    obtain ⟨rfl, rfl⟩ := taken
    rw [null]
    exact iff_of_true (interpreted_null rfl) fun _ => rfl
  · simp only [size2d_of_pos null, if_pos null] at taken
    generalize stub.unpack.glUnpackImageSize2d call.width call.height call.format call.type = size
      at taken ⊢
    by_cases empty : size = 0
    · rw [if_neg fun all => all.2 empty] at taken
      cases taken
      by_cases bound : stub.pixelUnpackBuffer current ≠ 0
      · refine iff_of_false (fun interpreted => null ?_) fun kept => null (kept bound)
        have same : (0 : UInt64).toNat = call.pixels.toNat := (interpreted.offset bound).1
        exact (UInt64.toNat_inj.mp same).symm
      · refine iff_of_true (interpreted_copy (not_not.mp bound) null ?_) fun some => absurd some bound
        rw [empty]
        exact fun _ below => absurd below (Nat.not_lt_zero _)
    · rw [if_pos ⟨null, empty⟩] at taken
      obtain ⟨⟨wrote, start⟩, written, shape⟩ := Option.map_eq_some_iff.mp taken
      cases shape
      obtain ⟨fits, -, -, read⟩ := bridgeDataWrite_spec written
      by_cases bound : stub.pixelUnpackBuffer current ≠ 0
      · exact iff_of_false
          (fun interpreted => (read null empty).1 (interpreted.offset bound).2)
          fun kept => null (kept bound)
      · have pointer : data.hGlTexImage2D ⟨1, start, size.toUInt32, 0, 0⟩ = data.dp start :=
          if_pos ⟨(by decide : (1 : UInt32) ≠ 0), toUInt32_ne_zero empty fits⟩
        rw [pointer]
        refine iff_of_true ?_ fun some => absurd some bound
        exact interpreted_copy (not_not.mp bound) null (copied written null)

theorem texSubImage2D_interpreted
    (taken : stub.glTexSubImage2D current call = some (after, slot)) :
    Interpreted data (stub.pixelUnpackBuffer current) stub after call.pixels
        (stub.unpack.glUnpackImageSize2d call.width call.height call.format call.type)
        (data.hGlTexSubImage2D slot) ↔
      (stub.pixelUnpackBuffer current ≠ 0 → call.pixels.toNat < 2 ^ 32) := by
  unfold UploadStub.glTexSubImage2D at taken
  by_cases bound : stub.pixelUnpackBuffer current ≠ 0
  · simp only [if_pos bound] at taken
    obtain ⟨⟨sent, start, length⟩, piggyback, shape⟩ := Option.map_eq_some_iff.mp taken
    cases shape
    have unread := stubUnpackPiggyback_reads piggyback
    have pointer : data.hGlTexSubImage2D ⟨1, call.pixels.toUInt32, 0, start, length⟩ =
        call.pixels.toUInt32 := rfl
    rw [pointer, interpreted_offset bound unread]
    exact ⟨fun kept _ => kept, fun kept => kept bound⟩
  · simp only [if_neg bound] at taken
    refine iff_of_true ?_ fun some => absurd some bound
    by_cases null : call.pixels = 0
    · rw [if_pos null] at taken
      cases taken
      rw [null]
      exact interpreted_null rfl
    · rw [if_neg null, size2d_of_pos (.inl null)] at taken
      generalize stub.unpack.glUnpackImageSize2d call.width call.height call.format call.type = size
        at taken ⊢
      by_cases empty : size = 0
      · rw [if_pos empty] at taken
        cases taken
        refine interpreted_copy (not_not.mp bound) null ?_
        rw [empty]
        exact fun _ below => absurd below (Nat.not_lt_zero _)
      · rw [if_neg empty] at taken
        obtain ⟨⟨wrote, start⟩, written, shape⟩ := Option.map_eq_some_iff.mp taken
        cases shape
        exact interpreted_copy (not_not.mp bound) null (copied written null)

/-- Without a buffer `glTexSubImage3D` sends what is not there for a null pointer. -/
theorem texSubImage3D_interpreted
    (taken : stub.glTexSubImage3D current call = some (after, slot)) :
    Interpreted data (stub.pixelUnpackBuffer current) stub after call.pixels
        (uploadBytes stub.unpack { call with op := .glTexSubImage3D })
        (data.hGlTexSubImage3D slot) ↔
      if stub.pixelUnpackBuffer current ≠ 0 then call.pixels.toNat < 2 ^ 32
      else call.pixels = 0 →
        uploadBytes stub.unpack { call with op := .glTexSubImage3D } = 0 ∧
          stub.head % glesBridgeDataSize = 0 := by
  unfold UploadStub.glTexSubImage3D at taken
  by_cases bound : stub.pixelUnpackBuffer current ≠ 0
  · simp only [if_pos bound] at taken ⊢
    obtain ⟨⟨sent, start, length⟩, piggyback, shape⟩ := Option.map_eq_some_iff.mp taken
    cases shape
    have unread := stubUnpackPiggyback_reads piggyback
    have pointer : data.hGlTexSubImage3D ⟨0, call.pixels.toUInt32, 0, start, length⟩ =
        call.pixels.toUInt32 := rfl
    rw [pointer]
    exact interpreted_offset bound unread
  · simp only [if_neg bound, uploadBytes] at taken ⊢
    generalize stub.unpack.glUnpackImageSize3d call.width call.height call.depth call.format
      call.type = size at taken ⊢
    obtain ⟨⟨wrote, start⟩, written, shape⟩ := Option.map_eq_some_iff.mp taken
    cases shape
    obtain ⟨fits, inside, empty, -⟩ := bridgeDataWrite_spec written
    have pointer : data.hGlTexSubImage3D ⟨0, start, size.toUInt32, 0, 0⟩ =
        if size.toUInt32 ≠ 0 then data.dp start else start := rfl
    rw [pointer]
    by_cases none : size = 0
    · rw [none, if_neg (by decide : ¬ (0 : UInt64).toUInt32 ≠ 0)]
      have place : start = 0 ↔ stub.head % glesBridgeDataSize = 0 := by
        rw [← UInt32.toNat_inj, (empty none).1]
        rfl
      rw [and_iff_right rfl, ← place]
      constructor
      · exact fun interpreted => interpreted.null (not_not.mp bound)
      · exact fun kept => ⟨fun some => absurd some bound, fun _ => kept, fun _ _ _ below =>
          absurd below (Nat.not_lt_zero _)⟩
    · rw [if_pos (toUInt32_ne_zero none fits)]
      by_cases null : call.pixels = 0
      · refine iff_of_false (fun interpreted => ?_) fun kept => none (kept null).1
        exact dp_ne_zero inside (interpreted.null (not_not.mp bound) null)
      · refine iff_of_true ?_ fun zero => absurd zero null
        exact interpreted_copy (not_not.mp bound) null (copied written null)

/-! ## All uploads -/

/-- Exactly when the real call gets what the client means. -/
theorem pixel_source_iff (taken : stub.upload current call = some (after, slot)) :
    Interpreted data (stub.pixelUnpackBuffer current) stub after call.pixels
        (uploadBytes stub.unpack call) (data.uploadPointer slot call.op) ↔
      SourceKept stub current call := by
  obtain ⟨op, width, height, depth, format, type, imageSize, pixels⟩ := call
  unfold SourceKept
  by_cases bound : stub.pixelUnpackBuffer current ≠ 0
  · rw [if_pos bound]
    cases op with
    | glTexImage2D => exact (texImage2D_interpreted taken).trans (imp_iff_right bound)
    | glTexSubImage2D => exact (texSubImage2D_interpreted taken).trans (imp_iff_right bound)
    | glTexSubImage3D => exact (texSubImage3D_interpreted taken).trans (if_pos bound ▸ .rfl)
    | glTexImage3D | glCompressedTexImage2D | glCompressedTexSubImage2D | glCompressedTexImage3D
    | glCompressedTexSubImage3D =>
        exact (sendPixels_interpreted taken).trans (imp_iff_right bound)
  · rw [if_neg bound]
    have idle {offset : Prop} (other : op ≠ .glTexSubImage3D) {kept : Prop} :
        (stub.pixelUnpackBuffer current ≠ 0 → offset) ↔ (op = .glTexSubImage3D → kept) :=
      iff_of_true (fun some => absurd some bound) fun same => absurd same other
    cases op with
    | glTexImage2D => exact (texImage2D_interpreted taken).trans (idle (by simp))
    | glTexSubImage2D => exact (texSubImage2D_interpreted taken).trans (idle (by simp))
    | glTexSubImage3D =>
        refine (texSubImage3D_interpreted taken).trans ?_
        rw [if_neg bound]
        exact (imp_iff_right rfl).symm
    | glTexImage3D | glCompressedTexImage2D | glCompressedTexSubImage2D | glCompressedTexImage3D
    | glCompressedTexSubImage3D => exact (sendPixels_interpreted taken).trans (idle (by simp))

end

/-- Sixteen pixels of the client's memory. -/
theorem pixel_source_copied :
    let data : DataBase := ⟨0x40000000, by decide, by decide⟩
    let stub := UploadStub.start .zero fun address => address.toUInt8
    let call : Stub.Upload := ⟨.glTexImage3D, 4, 4, 1, 0x1908, 0x1401, 0, 0x7F0000001000⟩
    ∃ after slot, stub.upload 0 call = some (after, slot) ∧
      Interpreted data (stub.pixelUnpackBuffer 0) stub after call.pixels
        (uploadBytes stub.unpack call) (data.uploadPointer slot call.op) := by
  intro data stub call
  have sent : (stub.upload 0 call).isSome = true := by
    subst stub call
    decide
  obtain ⟨⟨after, slot⟩, taken⟩ := Option.isSome_iff_exists.mp sent
  have kept : SourceKept stub 0 call := by
    unfold SourceKept
    rw [if_neg (by subst stub; decide)]
    exact fun other => by cases other
  exact ⟨after, slot, taken, (pixel_source_iff taken).mpr kept⟩

/-- An offset into a buffer is read from as a pointer. -/
theorem offset_read_as_pointer :
    let data : DataBase := ⟨0x40000000, by decide, by decide⟩
    let mirrors := (StubMirrors.zero.glBindBuffer 0 0x88EC 5).1
    let stub := UploadStub.start { MapStub.zero with mirrors } fun _ => 0
    let call : Stub.Upload := ⟨.glTexImage2D, 4, 4, 1, 0x1908, 0x1401, 0, 16⟩
    ∃ after slot, stub.upload 0 call = some (after, slot) ∧
      ¬ Interpreted data (stub.pixelUnpackBuffer 0) stub after call.pixels
        (uploadBytes stub.unpack call) (data.uploadPointer slot call.op) := by
  refine ⟨_, _, rfl, fun interpreted => ?_⟩
  have read := (interpreted.offset (by decide)).2
  cases read

end GlesBridge.Upload
