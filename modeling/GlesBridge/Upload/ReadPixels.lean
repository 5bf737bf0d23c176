import GlesBridge.Proxy.ReadPixels
import GlesBridge.Upload.Exact
import GlesBridge.Upload.Source

namespace GlesBridge.Upload

open GlesBridge.Data GlesBridge.Gl GlesBridge.Shared GlesBridge.Stub GlesBridge.Proxy

/-! `glReadPixels` without a pack buffer, against the call that it stands for. -/

variable {data : DataBase} {stub : UploadStub} {current : Ctx} {store : PixelStore}
  {driver : Option PixelFormat} {call : ReadPixels} {owned : Nat}

/-- The client's memory after a direct call. -/
def directRead (store : PixelStore) (driver : Option PixelFormat) (call : ReadPixels)
    (image : Nat → UInt8) (client : UInt64 → UInt8) (address : UInt64) : UInt8 :=
  (packBlock store driver call).stored image call.pixels.toNat address.toNat (client address)

/-- A direct call of a client whose memory at `pixels` has `owned` bytes, made when
the arena has room for the pixels. -/
structure Readable (stub : UploadStub) (current : Ctx) (store : PixelStore)
    (driver : Option PixelFormat) (call : ReadPixels) (owned : Nat) : Prop where
  unbound : stub.pixelPackBuffer current = 0
  inside : call.pixels.toNat + owned ≤ 2 ^ 64
  held : ¬ (packBlock store driver call).Empty →
    call.pixels ≠ 0 ∧ (packBlock store driver call).stop ≤ owned
  room : call.pixBytes.toNat ≤ glesBridgeDataSize →
    (Ring.ringDataAlloc stub.head stub.tail call.pixBytes.toNat).isSome

/-- The bridged call returns, reads what belongs to the client and nothing else, and
leaves the memory that a direct call leaves, whatever the driver's image is. -/
def Delivers (data : DataBase) (stub : UploadStub) (current : Ctx) (store : PixelStore)
    (driver : Option PixelFormat) (call : ReadPixels) (owned : Nat) : Prop :=
  ∀ image, ∃ sent slot arena after,
    stub.glReadPixels current call = some (sent, slot) ∧
      (sent.reads = stub.reads ∨ ∃ size ≤ owned, sent.reads = (call.pixels, size) :: stub.reads) ∧
      data.storeBlock sent.arena (data.hGlReadPixels slot) (packBlock store driver call) image =
        some arena ∧
      UploadStub.glReadPixelsReturn { sent with arena } current call slot.dataOffset = some after ∧
      after.client = directRead store driver call image stub.client

/-- The bytes of the pixels without a gap, in 64 bits. -/
def tightBytes (call : ReadPixels) : Nat :=
  (call.width.toInt * call.height.toInt * (glBytesPerPixel call.format call.type).toNat %
    2 ^ 64).toNat

/-- The pixels without gaps fit into the arena and into the client's memory, and
are no fewer bytes than the block of the driver ends at. -/
def TightEnough (store : PixelStore) (driver : Option PixelFormat) (call : ReadPixels)
    (owned : Nat) : Prop :=
  tightBytes call ≤ glesBridgeDataSize ∧ (call.pixels ≠ 0 → tightBytes call ≤ owned) ∧
    (¬ (packBlock store driver call).Empty → (packBlock store driver call).stop ≤ tightBytes call)

/-! ## The size that the stub asks for -/

theorem sizeT_emod (value : Int32) : ((sizeT value).toNat : Int) = value.toInt % 2 ^ 64 := by
  have word : (sizeT value).toNat = value.toInt64.toBitVec.toNat := rfl
  have signed : value.toInt64.toBitVec.toInt = value.toInt := Int32.toInt_toInt64 value
  have bound := value.toInt64.toBitVec.isLt
  rw [BitVec.toInt_eq_toNat_cond] at signed
  rw [word]
  split at signed <;> omega

theorem pixBytes_toNat (call : ReadPixels) : call.pixBytes.toNat = tightBytes call := by
  have value : (call.pixBytes.toNat : Int) =
      call.width.toInt * call.height.toInt * (glBytesPerPixel call.format call.type).toNat %
        2 ^ 64 := by
    rw [ReadPixels.pixBytes, glImageSize2d, UInt64.toNat_mul, UInt64.toNat_mul]
    push_cast
    have limit : (18446744073709551616 : Int) = 2 ^ 64 := by norm_num
    rw [sizeT_emod, sizeT_emod, limit, ← Int.mul_emod, Int.mul_emod (_ % _), Int.emod_emod_of_dvd _ (dvd_refl _),
      ← Int.mul_emod]
  rw [tightBytes, ← value, Int.toNat_natCast]

/-! ## The call -/

theorem not_empty_pos (some : ¬ (packBlock store driver call).Empty) :
    0 < (packBlock store driver call).stop :=
  Nat.zero_lt_of_lt (Strided.has_of_not_empty some).lt_stop

/-- Without a buffer the call is sent as soon as the pixels fit into the arena. -/
theorem glReadPixels_isSome (readable : Readable stub current store driver call owned)
    (fits : tightBytes call ≤ glesBridgeDataSize) :
    ∃ sent out, stub.bridgeDataWrite call.pixels call.pixBytes = some (sent, out) ∧
      stub.glReadPixels current call = some (sent, ⟨out, call.pixBytes.toUInt32⟩) := by
  rw [← pixBytes_toNat] at fits
  obtain ⟨place, found⟩ := Option.isSome_iff_exists.mp (readable.room fits)
  have placed : stub.ringDataAlloc call.pixBytes.toNat =
      some ({ stub with head := place.2 }, .ofNat place.1) := by
    rw [UploadStub.ringDataAlloc, if_neg (Nat.not_lt.mpr fits), found]
    rfl
  have written : ∃ sent out, stub.bridgeDataWrite call.pixels call.pixBytes = some (sent, out) := by
    rw [UploadStub.bridgeDataWrite, placed]
    split <;> exact ⟨_, _, rfl⟩
  obtain ⟨sent, out, written⟩ := written
  refine ⟨sent, out, written, ?_⟩
  rw [UploadStub.glReadPixels, if_neg (not_not.mpr readable.unbound), written]
  rfl

theorem glReadPixels_some {sent : UploadStub} {slot : ReadSlot}
    (unbound : stub.pixelPackBuffer current = 0)
    (did : stub.glReadPixels current call = some (sent, slot)) :
    stub.bridgeDataWrite call.pixels call.pixBytes = some (sent, slot.dataOffset) ∧
      slot.dataSize = call.pixBytes.toUInt32 := by
  rw [UploadStub.glReadPixels, if_neg (not_not.mpr unbound)] at did
  obtain ⟨⟨next, out⟩, written, shape⟩ := Option.map_eq_some_iff.mp did
  cases shape
  exact ⟨written, rfl⟩

/-- What the arena holds comes back, to the bytes of the pixels and no others. -/
def returned (call : ReadPixels) (out : UInt32) (arena : Nat → UInt8) (client : UInt64 → UInt8)
    (address : UInt64) : UInt8 :=
  if call.pixels ≠ 0 ∧ (address - call.pixels).toNat < tightBytes call then
    arena (out.toNat + (address - call.pixels).toNat)
  else client address

theorem glReadPixelsReturn_eq {sent : UploadStub} {out : UInt32} (arena : Nat → UInt8)
    (unbound : stub.pixelPackBuffer current = 0)
    (written : stub.bridgeDataWrite call.pixels call.pixBytes = some (sent, out)) :
    ∃ after, UploadStub.glReadPixelsReturn { sent with arena } current call out = some after ∧
      after.client = returned call out arena stub.client := by
  obtain ⟨maps, client, room, -, -⟩ := bridgeDataWrite_frame written
  have same : UploadStub.pixelPackBuffer { sent with arena } current = 0 := by
    rw [← unbound]
    exact congrArg (fun maps => (maps.mirrors.stubGlState current).pixelPackBuffer) maps
  have limit : glesBridgeDataSize < 2 ^ 64 := by decide
  have inside : ¬ UInt64.ofNat glesBridgeDataSize < out.toUInt64 + call.pixBytes := by
    rw [UInt64.lt_iff_toNat_lt, UInt64.toNat_add, UInt32.toNat_toUInt64,
      Nat.mod_eq_of_lt (room.trans_lt limit), UInt64.toNat_ofNat_of_lt' limit]
    exact Nat.not_lt.mpr room
  rw [UploadStub.glReadPixelsReturn, if_neg (not_not.mpr same), UploadStub.bridgeDataRead,
    if_neg inside]
  by_cases present : call.pixels = 0
  · refine ⟨_, if_neg (not_not.mpr present), ?_⟩
    funext address
    rw [returned, if_neg fun inside => inside.1 present]
    exact congrFun client address
  · refine ⟨_, if_pos present, ?_⟩
    funext address
    rw [returned, ← pixBytes_toNat]
    simp only [present, ne_eq, not_false_eq_true, true_and, client]

theorem sub_toNat_lt {address base : UInt64} {count : Nat} (inside : base.toNat + count ≤ 2 ^ 64) :
    (address - base).toNat < count ↔
      base.toNat ≤ address.toNat ∧ address.toNat - base.toNat < count := by
  have first := base.toNat_lt
  have second := address.toNat_lt
  rw [UInt64.toNat_sub]
  constructor <;> intro below <;> omega

/-- A byte that is neither sent nor returned keeps its value, so the last one of
the block is among those that are. -/
theorem Delivers.stop_le (readable : Readable stub current store driver call owned)
    (delivers : Delivers data stub current store driver call owned)
    (nonempty : ¬ (packBlock store driver call).Empty) :
    (packBlock store driver call).stop ≤ tightBytes call := by
  obtain ⟨present, within⟩ := readable.held nonempty
  have has := Strided.has_of_not_empty nonempty
  have last := has.lt_stop
  have inside := readable.inside
  by_contra short
  obtain ⟨sent, slot, arena, after, did, -, -, back, same⟩ :=
    delivers fun place => stub.client (call.pixels + .ofNat place) + 1
  obtain ⟨written, -⟩ := glReadPixels_some readable.unbound did
  obtain ⟨other, back', client⟩ := glReadPixelsReturn_eq arena readable.unbound written
  cases back.symm.trans back'
  have place : (call.pixels + .ofNat ((packBlock store driver call).stop - 1)).toNat =
      call.pixels.toNat + ((packBlock store driver call).stop - 1) := by
    have word : (packBlock store driver call).stop - 1 < 2 ^ 64 := by omega
    rw [UInt64.toNat_add, UInt64.toNat_ofNat_of_lt' word, Nat.mod_eq_of_lt (by omega)]
  have kept := congrFun (client.symm.trans same)
    (call.pixels + .ofNat ((packBlock store driver call).stop - 1))
  have beyond : ¬ (call.pixels + .ofNat ((packBlock store driver call).stop - 1) -
      call.pixels).toNat < tightBytes call := by
    rw [UInt64.toNat_sub_of_le _ _ (UInt64.le_iff_toNat_le.mpr (by omega)), place]
    omega
  rw [returned, if_neg fun inside => beyond inside.2, directRead, Strided.stored, place,
    Nat.add_sub_cancel_left, if_pos ⟨Nat.le_add_right _ _, has⟩] at kept
  exact absurd kept (by simp)

/-- The bytes that the stub reads are the client's. -/
theorem Delivers.owned_le (readable : Readable stub current store driver call owned)
    (delivers : Delivers data stub current store driver call owned) (present : call.pixels ≠ 0) :
    tightBytes call ≤ owned := by
  obtain ⟨sent, slot, arena, after, did, reads, -⟩ := delivers fun _ => 0
  obtain ⟨written, -⟩ := glReadPixels_some readable.unbound did
  obtain ⟨-, -, -, counted, -⟩ := bridgeDataWrite_frame written
  rw [← pixBytes_toNat]
  by_cases empty : call.pixBytes = 0
  · rw [empty]
    exact Nat.zero_le _
  · rw [counted present empty] at reads
    rcases reads with same | ⟨size, small, same⟩
    · exact absurd same (List.cons_ne_self _ _)
    · simp only [List.cons.injEq, Prod.mk.injEq, true_and, and_true] at same
      exact same ▸ small

theorem Delivers.fits (readable : Readable stub current store driver call owned)
    (delivers : Delivers data stub current store driver call owned) :
    tightBytes call ≤ glesBridgeDataSize := by
  obtain ⟨sent, slot, arena, after, did, -⟩ := delivers fun _ => 0
  obtain ⟨written, -⟩ := glReadPixels_some readable.unbound did
  rw [← pixBytes_toNat]
  exact (bridgeDataWrite_spec written).1

/-- The driver stores its block in what the stub has asked for. -/
theorem storeBlock_eq (data : DataBase) {out : UInt32} (arena image : Nat → UInt8)
    (room : out.toNat + call.pixBytes.toNat ≤ glesBridgeDataSize)
    (within : ¬ (packBlock store driver call).Empty →
      (packBlock store driver call).stop ≤ tightBytes call) :
    ∃ after, data.storeBlock arena (data.hGlReadPixels ⟨out, call.pixBytes.toUInt32⟩)
        (packBlock store driver call) image = some after ∧
      ∀ place, after (out.toNat + place) =
        (packBlock store driver call).stored image 0 place (arena (out.toNat + place)) := by
  by_cases empty : (packBlock store driver call).Empty
  · refine ⟨_, if_pos (.inl empty), fun place => ?_⟩
    rw [Strided.stored_of_empty empty, Strided.stored_of_empty empty]
  · have last := (Strided.has_of_not_empty empty).lt_stop
    have stop := within empty
    have base := data.fits
    have start : (packBlock store driver call).start ≤ (packBlock store driver call).stop := by
      unfold Strided.stop Strided.place
      omega
    have some : call.pixBytes.toUInt32 ≠ 0 := by
      intro none
      have value := congrArg UInt32.toNat none
      have limit : glesBridgeDataSize < 2 ^ 32 := by decide
      rw [UInt64.toNat_toUInt32, Nat.mod_eq_of_lt (by omega), pixBytes_toNat] at value
      change tightBytes call = 0 at value
      omega
    rw [← pixBytes_toNat] at stop
    have below : data.address.toNat + out.toNat < 2 ^ 32 := by omega
    have pointer : (data.hGlReadPixels ⟨out, call.pixBytes.toUInt32⟩).toNat =
        data.address.toNat + out.toNat := by
      rw [DataBase.hGlReadPixels, if_neg some, DataBase.dp, UInt32.toNat_add, Nat.mod_eq_of_lt below]
    have inside : data.address.toNat ≤ (data.hGlReadPixels ⟨out, call.pixBytes.toUInt32⟩).toNat +
          (packBlock store driver call).start ∧
        (data.hGlReadPixels ⟨out, call.pixBytes.toUInt32⟩).toNat +
          (packBlock store driver call).stop ≤ data.address.toNat + glesBridgeDataSize := by
      rw [pointer]
      omega
    refine ⟨_, if_pos (.inr inside), fun place => ?_⟩
    have shift : data.address.toNat + (out.toNat + place) - (data.address.toNat + out.toNat) =
        place := by omega
    have above : data.address.toNat + out.toNat ≤ data.address.toNat + (out.toNat + place) := by
      omega
    rw [pointer, Strided.stored, Strided.stored, shift]
    simp only [above, Nat.zero_le, true_and, Nat.sub_zero]

/-- Bytes that go out and come back around the block leave what a direct call leaves. -/
theorem returned_eq {sent : UploadStub} {out : UInt32} {arena image : Nat → UInt8}
    (readable : Readable stub current store driver call owned)
    (enough : TightEnough store driver call owned)
    (written : stub.bridgeDataWrite call.pixels call.pixBytes = some (sent, out))
    (stores : ∀ place, arena (out.toNat + place) =
      (packBlock store driver call).stored image 0 place (sent.arena (out.toNat + place))) :
    returned call out arena stub.client = directRead store driver call image stub.client := by
  funext address
  have inside := readable.inside
  unfold returned directRead
  by_cases present : call.pixels = 0
  · have empty : (packBlock store driver call).Empty := by
      by_contra nonempty
      exact (readable.held nonempty).1 present
    rw [if_neg fun inside => inside.1 present, Strided.stored_of_empty empty]
  · have small := enough.2.1 present
    have range : (address - call.pixels).toNat < tightBytes call ↔
        call.pixels.toNat ≤ address.toNat ∧
          address.toNat - call.pixels.toNat < tightBytes call := sub_toNat_lt (by omega)
    by_cases covered : (address - call.pixels).toNat < tightBytes call
    · obtain ⟨above, below⟩ := range.mp covered
      have distance : (address - call.pixels).toNat = address.toNat - call.pixels.toNat :=
        UInt64.toNat_sub_of_le _ _ (UInt64.le_iff_toNat_le.mpr above)
      have some : call.pixBytes ≠ 0 := by
        intro none
        rw [← pixBytes_toNat, none] at covered
        exact absurd covered (Nat.not_lt_zero _)
      have copy := ((bridgeDataWrite_spec written).2.2.2 present some).2 (address - call.pixels).toNat
        (by rwa [pixBytes_toNat])
      rw [UInt64.ofNat_toNat, UInt64.add_comm, UInt64.sub_add_cancel] at copy
      rw [if_pos ⟨present, covered⟩, stores, copy, distance, Strided.stored, Strided.stored]
      simp only [above, Nat.zero_le, true_and, Nat.sub_zero]
    · rw [if_neg fun inside => covered inside.2, Strided.stored, if_neg]
      rintro ⟨above, has⟩
      have stop := enough.2.2 has.not_empty
      have below := has.lt_stop
      exact covered (range.mpr ⟨above, by omega⟩)

/-- `glReadPixels` delivers the image of GL exactly where the pixels without gaps
are enough for it. -/
theorem delivers_iff (readable : Readable stub current store driver call owned) :
    Delivers data stub current store driver call owned ↔ TightEnough store driver call owned := by
  constructor
  · intro delivers
    exact ⟨delivers.fits readable, delivers.owned_le readable, delivers.stop_le readable⟩
  · intro enough image
    obtain ⟨sent, out, written, did⟩ := glReadPixels_isSome readable enough.1
    obtain ⟨-, -, room, counted, uncounted⟩ := bridgeDataWrite_frame written
    obtain ⟨arena, stored, stores⟩ := storeBlock_eq data sent.arena image room enough.2.2
    obtain ⟨after, back, client⟩ := glReadPixelsReturn_eq arena readable.unbound written
    refine ⟨sent, _, arena, after, did, ?_, stored, back, ?_⟩
    · by_cases none : call.pixels = 0 ∨ call.pixBytes = 0
      · exact .inl (uncounted none)
      · obtain ⟨present, some⟩ := not_or.mp none
        refine .inr ⟨_, ?_, counted present some⟩
        rw [pixBytes_toNat]
        exact enough.2.1 present
    · rw [client, returned_eq readable enough written stores]

/-- Four pixels of `GL_RGBA` and `GL_UNSIGNED_BYTE`. -/
def fourPixels : ReadPixels where
  width := 2
  height := 2
  format := 0x1908
  type := 0x1401
  pixels := 0x1000

theorem readable_fourPixels
    (within : (packBlock store (some ⟨0x1908, 0x1401, 4, 1⟩) fourPixels).stop ≤ owned)
    (small : owned ≤ 24) :
    Readable (.start .zero fun _ => 0) 0 store (some ⟨0x1908, 0x1401, 4, 1⟩) fourPixels owned where
  unbound := by decide
  inside := by
    change 4096 + owned ≤ 2 ^ 64
    omega
  held _ := ⟨by decide, within⟩
  room _ := by decide

/-- The arena at the bottom of the proxy's memory. -/
def lowArena : DataBase where
  address := 0x10000
  used := by decide
  fits := by decide

/-- With the initial pack state they arrive. -/
theorem delivers_fourPixels :
    Delivers lowArena (.start .zero fun _ => 0) 0 .initial (some ⟨0x1908, 0x1401, 4, 1⟩)
      fourPixels 16 :=
  have readable := readable_fourPixels (by decide) (by decide)
  (delivers_iff readable).mpr ⟨by decide, fun _ => by decide, fun _ => by decide⟩

def rowsOfFour : PixelStore where
  toUnpackState := { UnpackState.initial with rowLength := 4 }
  alignmentLegal := by decide
  rowLengthLegal := by decide
  skipRowsLegal := by decide
  skipPixelsLegal := by decide
  imageHeightLegal := by decide
  skipImagesLegal := by decide

/-- With `GL_PACK_ROW_LENGTH` of 4 the second row is at 16, past the bytes that the
stub asks for. -/
theorem rowsOfFour_lost :
    Readable (.start .zero fun _ => 0) 0 rowsOfFour (some ⟨0x1908, 0x1401, 4, 1⟩) fourPixels 24 ∧
      ¬ Delivers lowArena (.start .zero fun _ => 0) 0 rowsOfFour
        (some ⟨0x1908, 0x1401, 4, 1⟩) fourPixels 24 := by
  have readable : Readable (.start .zero fun _ => 0) 0 rowsOfFour (some ⟨0x1908, 0x1401, 4, 1⟩)
      fourPixels 24 := readable_fourPixels (by decide) (by decide)
  refine ⟨readable, fun delivers => ?_⟩
  have covered := delivers.stop_le readable (by decide)
  exact absurd covered (by decide)

end GlesBridge.Upload
