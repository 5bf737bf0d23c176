import GlesBridge.Mapping.Agreement
import GlesBridge.Upload.Addressing
import GlesBridge.Upload.Source

namespace GlesBridge.Upload

open GlesBridge.Data GlesBridge.Gl GlesBridge.Shared GlesBridge.Stub GlesBridge.Proxy
open GlesBridge.Mapping

/-! An upload from a buffer that the client has mapped. -/

/-- The bytes of its source that GL reads; none where the format is none of an upload. -/
def sourceBlock (store : PixelStore) (call : Stub.Upload) : Option Strided :=
  match call.op with
  | .glTexImage2D | .glTexSubImage2D =>
      (pixelFormat call.format call.type).map (store.block2D call.width call.height)
  | .glTexImage3D | .glTexSubImage3D =>
      (pixelFormat call.format call.type).map (store.block3D call.width call.height call.depth)
  | .glCompressedTexImage2D | .glCompressedTexSubImage2D
  | .glCompressedTexImage3D | .glCompressedTexSubImage3D => some (blockOfSize call.imageSize)

/-- The bytes of the buffer that are read. An upload that would read past its end is refused. -/
def Reads (store : PixelStore) (size : Nat) (call : Stub.Upload) (pointer : UInt32) (place : Nat) :
    Prop :=
  ∃ block, sourceBlock store call = some block ∧
    (∀ distance, block.Has distance → pointer.toNat + distance < size) ∧
    ∃ distance, block.Has distance ∧ place = pointer.toNat + distance

def InMapping (entry : MapEntry) (place : Nat) : Prop :=
  entry.offset.toNatClampNeg ≤ place ∧
    place < entry.offset.toNatClampNeg + entry.length.toNatClampNeg

/-- The unpack buffer is mapped for writing, without explicit flushes. Its `size` is
one that a process of 32 bits can have. -/
structure MappedUnpack (stub : UploadStub) (current : Ctx) (store : PixelStore) (proxy : MapProxy)
    (size : Nat) (id : MapId) : Prop where
  unpack : stub.unpack = store.toUnpackState
  agree : TablesAgree (stub.maps, proxy)
  used : id ≠ 0
  mapped : (proxy.maps id).realPtr ≠ 0
  named : (proxy.maps id).buffer ≠ 0
  mirror : stub.pixelUnpackBuffer current = (proxy.maps id).buffer
  binding : proxy.unpackBinding = (proxy.maps id).buffer
  writes : (proxy.maps id).access &&& glMapWriteBit ≠ 0
  implicit : (proxy.maps id).access &&& glMapFlushExplicitBit = 0
  range : ∃ range, proxy.gl.mapping (proxy.maps id).buffer = some range ∧
    range.pointer = (proxy.maps id).realPtr ∧ range.offset = (proxy.maps id).offset
  offset : 0 ≤ (proxy.maps id).offset
  length : 0 ≤ (proxy.maps id).length
  inside : (proxy.maps id).offset.toNatClampNeg + (proxy.maps id).length.toNatClampNeg ≤ size
  small : size < 2 ^ 31

/-- What is read of the mapping is what the client has there. -/
def Fresh (data : DataBase) (stub : UploadStub) (store : PixelStore) (proxy : MapProxy) (size : Nat)
    (id : MapId) (call : Stub.Upload) (after : UploadStub) (slot : UploadSlot) : Prop :=
  ∃ next, proxy.beforeUpload call.op slot after.arena = some next ∧
    ∀ place, Reads store size call (data.uploadPointer slot call.op) place →
      InMapping (proxy.maps id) place →
      next.gl.bytes (proxy.maps id).buffer place =
        stub.maps.memory (stub.maps.stubMaps id).ptr (place - (proxy.maps id).offset.toNatClampNeg)

/-- The upload is one of a part of a texture, and the source starts in the mapping. -/
def Copies (call : Stub.Upload) (entry : MapEntry) : Prop :=
  (call.op = .glTexSubImage2D ∨ call.op = .glTexSubImage3D) ∧ InMapping entry call.pixels.toNat

/-- Where `ring_data_alloc` finds room. -/
def arenaPlace (head amount : Nat) : Nat :=
  if Ring.alignUp amount ≤ glesBridgeDataSize - head % glesBridgeDataSize then
    head % glesBridgeDataSize
  else 0

/-- The offset that the upload reads from with a buffer bound: 32 bits of the client's,
but for `glTexImage2D` where the client's memory is copied to, if it is. -/
def bufferOffset (data : DataBase) (stub : UploadStub) (call : Stub.Upload) : UInt32 :=
  let bytes := uploadBytes stub.unpack call
  if call.op ≠ .glTexImage2D then call.pixels.toUInt32
  else if call.pixels = 0 ∨ bytes = 0 then 0
  else data.dp (.ofNat (arenaPlace stub.head bytes.toNat))

/-- The buffer has the client's bytes already where it is read. -/
def Already (data : DataBase) (stub : UploadStub) (store : PixelStore) (proxy : MapProxy) (size : Nat)
    (id : MapId) (call : Stub.Upload) : Prop :=
  ∀ place, Reads store size call (bufferOffset data stub call) place →
    InMapping (proxy.maps id) place →
    proxy.gl.bytes (proxy.maps id).buffer place =
      stub.maps.memory (stub.maps.stubMaps id).ptr (place - (proxy.maps id).offset.toNatClampNeg)

variable {data : DataBase} {stub after : UploadStub} {current : Ctx} {store : PixelStore}
  {proxy next : MapProxy} {size : Nat} {id : MapId} {call : Stub.Upload} {slot : UploadSlot}

/-! ## Words -/

theorem offset_toInt {value : UInt64} (small : value.toNat < 2 ^ 63) :
    value.toInt64.toInt = value.toNat := by
  change value.toBitVec.toInt = value.toNat
  refine BitVec.toInt_eq_toNat_of_lt ?_
  change 2 * value.toNat < 2 ^ 64
  omega

theorem offset_neg {value : UInt64} (large : 2 ^ 63 ≤ value.toNat) : value.toInt64.toInt < 0 := by
  change value.toBitVec.toInt < 0
  have bound : value.toNat < 2 ^ 64 := value.toNat_lt
  rw [BitVec.toInt_eq_toNat_cond, if_neg]
  · change (value.toNat : Int) - (2 ^ 64 : Nat) < 0
    omega
  · change ¬ 2 * value.toNat < 2 ^ 64
    omega

theorem int64_add {left right : Int64} (least : 0 ≤ left.toInt + right.toInt)
    (most : left.toInt + right.toInt < 2 ^ 63) :
    (left + right).toInt = left.toInt + right.toInt := by
  rw [Int64.toInt_add]
  exact Int.bmod_eq_of_le_mul_two (by omega) (by omega)

theorem int32_add {left right : Int32} (least : 0 ≤ left.toInt + right.toInt)
    (most : left.toInt + right.toInt < 2 ^ 31) :
    (left + right).toInt = left.toInt + right.toInt := by
  rw [Int32.toInt_add]
  exact Int.bmod_eq_of_le_mul_two (by omega) (by omega)

theorem word_toInt {value : UInt32} (small : value.toNat < 2 ^ 31) :
    value.toInt32.toInt = value.toNat := by
  change value.toBitVec.toInt = value.toNat
  refine BitVec.toInt_eq_toNat_of_lt ?_
  change 2 * value.toNat < 2 ^ 32
  omega

/-! ## The mapping that both sides find -/

theorem find_mapIds_only {test : MapId → Bool} (used : id ≠ 0) (good : test id = true)
    (only : ∀ other, test other = true → other = id) : mapIds.find? test = some id := by
  cases found : mapIds.find? test with
  | none =>
      have none := find_mapIds_none.mp found id used
      rw [good] at none
      cases none
  | some other => rw [only other (find_mapIds found).2]

theorem MappedUnpack.stubEntry (mapped : MappedUnpack stub current store proxy size id) :
    (stub.maps.stubMaps id).ptr ≠ 0 ∧ (stub.maps.stubMaps id).buffer = (proxy.maps id).buffer ∧
      (stub.maps.stubMaps id).offset = (proxy.maps id).offset.toInt64 ∧
      (stub.maps.stubMaps id).length = (proxy.maps id).length.toInt64 ∧
      (stub.maps.stubMaps id).access = (proxy.maps id).access := by
  have present := (mapped.agree.tracked id).mpr mapped.mapped
  obtain ⟨buffer, -, offset, length, access⟩ := mapped.agree.same id present
  exact ⟨present, buffer, offset, length, access⟩

theorem MappedUnpack.proxyFinds (mapped : MappedUnpack stub current store proxy size id) :
    (mapIds.find? fun other =>
      (proxy.maps other).realPtr != 0 && (proxy.maps other).buffer == (proxy.maps id).buffer) =
      some id := by
  refine find_mapIds_only mapped.used (by simp [mapped.mapped]) fun other good => ?_
  simp only [Bool.and_eq_true, bne_iff_ne, beq_iff_eq] at good
  exact mapped.agree.single other id good.1 mapped.mapped good.2

theorem MappedUnpack.stubFinds (mapped : MappedUnpack stub current store proxy size id) :
    stub.maps.mappingOf (proxy.maps id).buffer = some id := by
  obtain ⟨present, buffer, -⟩ := mapped.stubEntry
  refine find_mapIds_only mapped.used (by simp [present, buffer]) fun other good => ?_
  simp only [Bool.and_eq_true, bne_iff_ne, beq_iff_eq] at good
  have real := (mapped.agree.tracked other).mp good.1
  have same := (mapped.agree.same other good.1).1
  exact mapped.agree.single other id real mapped.mapped (same.symm.trans good.2)

/-! ## What the stub sends -/

/-- The mapping in numbers. -/
theorem MappedUnpack.bounds (mapped : MappedUnpack stub current store proxy size id) :
    (stub.maps.stubMaps id).offset.toInt = (proxy.maps id).offset.toNatClampNeg ∧
      (stub.maps.stubMaps id).length.toInt = (proxy.maps id).length.toNatClampNeg ∧
      (proxy.maps id).offset.toNatClampNeg + (proxy.maps id).length.toNatClampNeg < 2 ^ 31 := by
  obtain ⟨-, -, offset, length, -⟩ := mapped.stubEntry
  rw [offset, length, Int32.toInt_toInt64, Int32.toInt_toInt64,
    Int32.toInt_eq_toNatClampNeg mapped.offset, Int32.toInt_eq_toNatClampNeg mapped.length]
  have inside := mapped.inside
  have small := mapped.small
  omega

/-- The test that the stub makes of the offset. -/
theorem MappedUnpack.inMapping_iff (mapped : MappedUnpack stub current store proxy size id)
    (pixels : UInt64) :
    (¬ pixels.toInt64 < 0 ∧ ¬ (pixels.toInt64 < (stub.maps.stubMaps id).offset ∨
        (stub.maps.stubMaps id).offset + (stub.maps.stubMaps id).length ≤ pixels.toInt64)) ↔
      InMapping (proxy.maps id) pixels.toNat := by
  obtain ⟨offset, length, small⟩ := mapped.bounds
  have stop : ((stub.maps.stubMaps id).offset + (stub.maps.stubMaps id).length).toInt =
      (proxy.maps id).offset.toNatClampNeg + (proxy.maps id).length.toNatClampNeg := by
    rw [int64_add, offset, length]
    · rw [offset, length]
      omega
    · rw [offset, length]
      omega
  unfold InMapping
  rw [Int64.lt_iff_toInt_lt, Int64.lt_iff_toInt_lt, Int64.le_iff_toInt_le, stop, offset]
  have zero : (0 : Int64).toInt = 0 := rfl
  by_cases large : 2 ^ 63 ≤ pixels.toNat
  · have negative := offset_neg large
    omega
  · have value := offset_toInt (not_le.mp large)
    omega

/-- The function up to its test of the offset. -/
theorem MappedUnpack.piggyback_eq (mapped : MappedUnpack stub current store proxy size id)
    (offset : Int64) (bytes : UInt64) :
    stub.stubUnpackPiggyback current offset bytes =
      if bytes = 0 ∨ offset < 0 ∨ offset < (stub.maps.stubMaps id).offset ∨
          (stub.maps.stubMaps id).offset + (stub.maps.stubMaps id).length ≤ offset then
        some (stub, 0, 0)
      else
        let entry := stub.maps.stubMaps id
        let start := (offset - entry.offset).toUInt64
        let size :=
          if entry.length.toUInt64 < start + bytes then entry.length.toUInt64 - start else bytes
        (stub.mappingWrite entry.ptr start.toNat size).map fun (stub, offset) =>
          (stub, offset, size.toUInt32) := by
  obtain ⟨-, -, -, -, access⟩ := mapped.stubEntry
  have allowed : ¬ ((stub.maps.stubMaps id).access &&& glMapFlushExplicitBit ≠ 0 ∨
      (stub.maps.stubMaps id).access &&& glMapWriteBit = 0) := by
    rw [access]
    exact not_or.mpr ⟨not_not.mpr mapped.implicit, mapped.writes⟩
  unfold UploadStub.stubUnpackPiggyback
  simp only [mapped.mirror, mapped.stubFinds, if_neg allowed, mapped.named, false_or]
  by_cases none : bytes = 0 ∨ offset < 0
  · rw [if_pos none, if_pos (none.imp_right .inl)]
  · rw [if_neg none]
    congr 1
    rw [← or_assoc (a := bytes = 0), eq_iff_iff]
    exact (or_iff_right none).symm

theorem MappedUnpack.sends_none (mapped : MappedUnpack stub current store proxy size id)
    {pixels : UInt64} (outside : ¬ InMapping (proxy.maps id) pixels.toNat) (bytes : UInt64) :
    stub.stubUnpackPiggyback current pixels.toInt64 bytes = some (stub, 0, 0) := by
  rw [mapped.piggyback_eq, if_pos]
  have tests := (mapped.inMapping_iff pixels).not.mpr outside
  rw [← not_or, not_not] at tests
  exact .inr tests

theorem mappingWrite_spec {ptr bytes : UInt64} {start : Nat} {offset : UInt32}
    (written : stub.mappingWrite ptr start bytes = some (after, offset)) :
    bytes.toNat ≤ glesBridgeDataSize ∧ ∀ distance < bytes.toNat,
      after.arena (offset.toNat + distance) = stub.maps.memory ptr (start + distance) := by
  obtain ⟨⟨placed, _⟩, found, shape⟩ := Option.map_eq_some_iff.mp written
  obtain ⟨fits, -, -, head, rfl⟩ := ringDataAlloc_place found
  cases shape
  refine ⟨fits, fun distance below => ?_⟩
  simp only [Ring.writeBytes, Nat.le_add_right, Nat.add_lt_add_iff_left, below, and_self, if_true,
    Nat.add_sub_cancel_left]

theorem MappedUnpack.start_toNat (mapped : MappedUnpack stub current store proxy size id)
    {pixels : UInt64} (inside : InMapping (proxy.maps id) pixels.toNat) :
    (pixels.toInt64 - (stub.maps.stubMaps id).offset).toUInt64.toNat =
      pixels.toNat - (proxy.maps id).offset.toNatClampNeg := by
  obtain ⟨offset, -, small⟩ := mapped.bounds
  obtain ⟨low, high⟩ := inside
  have value : pixels.toInt64.toInt = pixels.toNat := offset_toInt (by omega)
  have difference : (pixels.toInt64 - (stub.maps.stubMaps id).offset).toInt =
      (pixels.toNat : Int) - (proxy.maps id).offset.toNatClampNeg := by
    rw [Int64.toInt_sub, value, offset]
    exact Int.bmod_eq_of_le_mul_two (by omega) (by omega)
  rw [Int64.toNat_toUInt64_of_le, ← Int64.toNat_toInt, difference]
  · omega
  · rw [Int64.le_iff_toInt_le, difference]
    change (0 : Int) ≤ _
    omega

theorem MappedUnpack.length_toNat (mapped : MappedUnpack stub current store proxy size id) :
    (stub.maps.stubMaps id).length.toUInt64.toNat = (proxy.maps id).length.toNatClampNeg := by
  obtain ⟨-, length, -⟩ := mapped.bounds
  rw [Int64.toNat_toUInt64_of_le, ← Int64.toNat_toInt, length]
  · rfl
  · rw [Int64.le_iff_toInt_le, length]
    exact Int.natCast_nonneg _

/-- From a source that starts in the mapping the stub sends what the upload reads,
or all that is left of the mapping. -/
theorem MappedUnpack.sends (mapped : MappedUnpack stub current store proxy size id)
    {pixels bytes : UInt64} {offset length : UInt32}
    (inside : InMapping (proxy.maps id) pixels.toNat) (some : bytes ≠ 0)
    (sent : stub.stubUnpackPiggyback current pixels.toInt64 bytes = .some (after, offset, length)) :
    let start := pixels.toNat - (proxy.maps id).offset.toNatClampNeg
    let room := (proxy.maps id).length.toNatClampNeg - start
    0 < length.toNat ∧ length.toNat ≤ room ∧
      (bytes.toNat ≤ length.toNat ∨ length.toNat = room) ∧
      ∀ distance < length.toNat,
        after.arena (offset.toNat + distance) =
          stub.maps.memory (stub.maps.stubMaps id).ptr (start + distance) := by
  intro start room
  obtain ⟨offsetIs, lengthIs, small⟩ := mapped.bounds
  obtain ⟨low, high⟩ := inside
  have tests := (mapped.inMapping_iff pixels).mpr ⟨low, high⟩
  rw [← not_or] at tests
  rw [mapped.piggyback_eq, if_neg (not_or.mpr ⟨some, tests⟩)] at sent
  obtain ⟨⟨wrote, place⟩, written, shape⟩ := Option.map_eq_some_iff.mp sent
  cases shape
  obtain ⟨fits, bytesAre⟩ := mappingWrite_spec written
  have startIs := mapped.start_toNat ⟨low, high⟩
  have lengthIs := mapped.length_toNat
  rw [startIs] at bytesAre
  generalize (pixels.toInt64 - (stub.maps.stubMaps id).offset).toUInt64 = begin at *
  generalize (stub.maps.stubMaps id).length.toUInt64 = all at *
  have limit : glesBridgeDataSize < 2 ^ 32 := by decide
  have whole : (if all < begin + bytes then all - begin else bytes).toUInt32.toNat =
      (if all < begin + bytes then all - begin else bytes).toNat := by
    rw [UInt64.toNat_toUInt32, Nat.mod_eq_of_lt (by omega)]
  rw [whole]
  have positive : 0 < bytes.toNat := Nat.pos_of_ne_zero fun none => some (UInt64.toNat_inj.mp none)
  have size : (if all < begin + bytes then all - begin else bytes).toNat =
        (proxy.maps id).length.toNatClampNeg - start ∨
      (if all < begin + bytes then all - begin else bytes).toNat = bytes.toNat ∧
        start + bytes.toNat ≤ (proxy.maps id).length.toNatClampNeg := by
    split
    · rw [UInt64.toNat_sub_of_le _ _ (UInt64.le_iff_toNat_le.mpr (by omega)), startIs, lengthIs]
      exact .inl rfl
    · rename_i enough
      rw [if_neg enough] at fits
      have sum := UInt64.le_iff_toNat_le.mp (UInt64.not_lt.mp enough)
      rw [UInt64.toNat_add, Nat.mod_eq_of_lt (by omega), startIs, lengthIs] at sum
      exact .inr ⟨rfl, sum⟩
  refine ⟨?_, ?_, ?_, bytesAre⟩ <;> rcases size with rest | ⟨whole, fits⟩ <;> omega

/-! ## What the proxy copies -/

/-- A range of the mapping is replaced by what was sent. -/
theorem MappedUnpack.applies (mapped : MappedUnpack stub current store proxy size id)
    (offset length : UInt32) (bytes : Nat → UInt8)
    (low : (proxy.maps id).offset.toNatClampNeg ≤ offset.toNat) (some : 0 < length.toNat)
    (high : offset.toNat + length.toNat ≤
      (proxy.maps id).offset.toNatClampNeg + (proxy.maps id).length.toNatClampNeg) :
    ∃ next, proxy.applyUnpackPiggyback offset length bytes = .some next ∧
      ∀ distance < length.toNat,
        next.gl.bytes (proxy.maps id).buffer (offset.toNat + distance) = bytes distance := by
  obtain ⟨-, -, small⟩ := mapped.bounds
  obtain ⟨range, live, pointer, start⟩ := mapped.range
  have present : length ≠ 0 := by
    rintro rfl
    exact absurd some (Nat.lt_irrefl _)
  have offsetIs : offset.toInt32.toInt = offset.toNat := word_toInt (by omega)
  have lengthIs : length.toInt32.toInt = length.toNat := word_toInt (by omega)
  have startIs := Int32.toInt_eq_toNatClampNeg mapped.offset
  have allIs := Int32.toInt_eq_toNatClampNeg mapped.length
  have stop : (offset.toInt32 + length.toInt32).toInt = offset.toNat + length.toNat := by
    rw [int32_add, offsetIs, lengthIs] <;> rw [offsetIs, lengthIs] <;> omega
  have last : ((proxy.maps id).offset + (proxy.maps id).length).toInt =
      (proxy.maps id).offset.toNatClampNeg + (proxy.maps id).length.toNatClampNeg := by
    rw [int32_add, startIs, allIs] <;> rw [startIs, allIs] <;> omega
  have inRange : ¬ (offset.toInt32 < (proxy.maps id).offset ∨
      (proxy.maps id).offset + (proxy.maps id).length < offset.toInt32 + length.toInt32) := by
    rw [Int32.lt_iff_toInt_lt, Int32.lt_iff_toInt_lt, stop, last, offsetIs, startIs]
    omega
  have distance : (offset.toInt32 - (proxy.maps id).offset).toUInt32.toNat =
      offset.toNat - (proxy.maps id).offset.toNatClampNeg := by
    have ordered : (proxy.maps id).offset ≤ offset.toInt32 := by
      rw [Int32.le_iff_toInt_le, offsetIs, startIs]
      omega
    rw [Int32.toNat_toUInt32_of_le (Int32.sub_nonneg_of_le mapped.offset ordered),
      Int32.toNatClampNeg_sub_of_le mapped.offset ordered, ← Int32.toNat_toInt, offsetIs]
    rfl
  unfold MapProxy.applyUnpackPiggyback
  simp only [if_neg present, mapped.binding, mapped.proxyFinds, if_neg inRange, distance,
    Buffers.storeAt, live, if_pos pointer, start]
  refine ⟨_, rfl, fun place below => ?_⟩
  simp only [Function.update_self, overwrite]
  rw [if_pos (by omega)]
  congr 1
  omega

/-! ## Uploads -/

/-- A compressed image has the bytes that the client names. -/
theorem lt_imageSize {imageSize : Int32} {distance : Nat} (has : (blockOfSize imageSize).Has distance) :
    distance < (sizeT imageSize).toNat := by
  obtain ⟨image, onlyImage, row, onlyRow, byte, inside, rfl⟩ := has
  have positive := pos_of_toNatClampNeg (Nat.zero_lt_of_lt inside)
  rw [sizeT_toNat (Int32.le_of_lt positive)]
  change 0 + image * 0 + row * 0 + byte < imageSize.toNatClampNeg
  change byte < imageSize.toNatClampNeg at inside
  omega

/-- The stub counts every byte that is read. -/
theorem lt_uploadBytes {pointer : UInt32} {place : Nat} (small : size < 2 ^ 31)
    (reads : Reads store size call pointer place) :
    ∃ distance < (uploadBytes store.toUnpackState call).toNat, place = pointer.toNat + distance := by
  obtain ⟨block, source, fits, distance, has, rfl⟩ := reads
  refine ⟨distance, ?_, rfl⟩
  have stop : block.stop ≤ 2 ^ 31 := by
    have last := fits _ has.last
    omega
  obtain ⟨op, width, height, depth, format, type, imageSize, pixels⟩ := call
  cases op with
  | glTexImage2D | glTexSubImage2D =>
      obtain ⟨pixel, known, rfl⟩ := Option.map_eq_some_iff.mp source
      exact lt_size2d known has stop
  | glTexImage3D | glTexSubImage3D =>
      obtain ⟨pixel, known, rfl⟩ := Option.map_eq_some_iff.mp source
      exact lt_size3d known has stop
  | glCompressedTexImage2D | glCompressedTexSubImage2D | glCompressedTexImage3D
  | glCompressedTexSubImage3D =>
      cases source
      exact lt_imageSize has

theorem MappedUnpack.refresh (mapped : MappedUnpack stub current store proxy size id)
    {offset length : UInt32} (inside : InMapping (proxy.maps id) call.pixels.toNat)
    (sent : stub.stubUnpackPiggyback current call.pixels.toInt64 (uploadBytes stub.unpack call) =
      some (after, offset, length)) :
    ∃ next, proxy.applyUnpackPiggyback call.pixels.toUInt32 length
        (fun place => after.arena (offset.toNat + place)) = some next ∧
      ∀ place, Reads store size call call.pixels.toUInt32 place → InMapping (proxy.maps id) place →
        next.gl.bytes (proxy.maps id).buffer place =
          stub.maps.memory (stub.maps.stubMaps id).ptr
            (place - (proxy.maps id).offset.toNatClampNeg) := by
  obtain ⟨-, -, small⟩ := mapped.bounds
  obtain ⟨low, high⟩ := inside
  have pointer : call.pixels.toUInt32.toNat = call.pixels.toNat :=
    toUInt32_toNat_iff.mpr (by omega)
  by_cases empty : uploadBytes stub.unpack call = 0
  · rw [mapped.piggyback_eq, if_pos (.inl empty)] at sent
    cases sent
    refine ⟨proxy, if_pos rfl, fun place reads _ => ?_⟩
    obtain ⟨distance, below, -⟩ := lt_uploadBytes mapped.small reads
    rw [← mapped.unpack, empty] at below
    exact absurd below (Nat.not_lt_zero _)
  · obtain ⟨positive, room, enough, bytes⟩ := mapped.sends ⟨low, high⟩ empty sent
    obtain ⟨next, applied, copied⟩ := mapped.applies call.pixels.toUInt32 length
      (fun place => after.arena (offset.toNat + place)) (by omega) positive (by omega)
    refine ⟨next, applied, fun place reads within => ?_⟩
    obtain ⟨distance, below, rfl⟩ := lt_uploadBytes mapped.small reads
    rw [← mapped.unpack] at below
    have sentIt : distance < length.toNat := by
      have inside := within.2
      omega
    rw [copied distance sentIt, bytes distance sentIt, pointer]
    congr 1
    omega

/-! ## Where the upload reads -/

theorem ring_arenaPlace {head tail amount start last : Nat}
    (placed : Ring.ringDataAlloc head tail amount = some (start, last)) :
    start = arenaPlace head amount := by
  unfold Ring.ringDataAlloc at placed
  unfold arenaPlace
  by_cases fits : Ring.alignUp amount ≤ Ring.glesBridgeDataSize - head % Ring.glesBridgeDataSize
  · simp only [if_pos fits] at placed
    split at placed
    · cases placed
    · cases placed
      exact (if_pos fits).symm
  · simp only [if_neg fits] at placed
    split at placed
    · cases placed
    · cases placed
      exact (if_neg fits).symm

theorem bridgeDataWrite_offset {pixels size : UInt64} {offset : UInt32}
    (written : stub.bridgeDataWrite pixels size = some (after, offset)) :
    offset = .ofNat (arenaPlace stub.head size.toNat) := by
  obtain ⟨⟨placed, start⟩, found, shape⟩ := Option.map_eq_some_iff.mp written
  have same : start = offset := by
    split_ifs at shape
    · cases shape
      rfl
    · cases shape
      rfl
  subst same
  unfold UploadStub.ringDataAlloc at found
  split at found
  · cases found
  · obtain ⟨⟨place, head⟩, room, shape⟩ := Option.map_eq_some_iff.mp found
    cases shape
    rw [ring_arenaPlace room]

theorem sendPixels_pointer {pixels size : UInt64} (bound : stub.pixelUnpackBuffer current ≠ 0)
    (taken : stub.sendPixels current pixels size = some (after, slot)) :
    data.pixelsOfMode slot = pixels.toUInt32 := by
  unfold UploadStub.sendPixels at taken
  by_cases null : pixels = 0
  · rw [if_pos null] at taken
    cases taken
    rw [null]
    rfl
  · rw [if_neg null, if_pos bound] at taken
    cases taken
    rfl

theorem texImage2D_pointer (image : call.op = .glTexImage2D)
    (taken : stub.glTexImage2D call = some (after, slot)) :
    data.hGlTexImage2D slot = bufferOffset data stub call := by
  have size : uploadBytes stub.unpack call =
      stub.unpack.glUnpackImageSize2d call.width call.height call.format call.type := by
    simp only [uploadBytes, image]
  unfold bufferOffset
  simp only [image, ne_eq, not_true_eq_false, if_false]
  unfold UploadStub.glTexImage2D at taken
  by_cases null : call.pixels = 0
  · simp only [null, ne_eq, not_true_eq_false, false_and, if_false, Option.some.injEq,
      Prod.mk.injEq] at taken
    obtain ⟨rfl, rfl⟩ := taken
    rw [if_pos (.inl null)]
    rfl
  · simp only [size2d_of_pos null, if_pos null] at taken
    rw [← size] at taken
    by_cases empty : uploadBytes stub.unpack call = 0
    · rw [if_neg fun all => all.2 empty] at taken
      cases taken
      rw [if_pos (.inr empty)]
      rfl
    · rw [if_pos ⟨null, empty⟩] at taken
      obtain ⟨⟨wrote, start⟩, written, shape⟩ := Option.map_eq_some_iff.mp taken
      cases shape
      have fits := (bridgeDataWrite_spec written).1
      rw [if_neg (not_or.mpr ⟨null, empty⟩), ← bridgeDataWrite_offset written]
      exact if_pos ⟨(by decide : (1 : UInt32) ≠ 0), toUInt32_ne_zero empty fits⟩

/-- What the uploads of a part of a texture send. -/
theorem part_sent (data : DataBase) (proxy : MapProxy) (bound : stub.pixelUnpackBuffer current ≠ 0)
    (part : call.op = .glTexSubImage2D ∨ call.op = .glTexSubImage3D)
    (taken : stub.upload current call = some (after, slot)) :
    ∃ offset length,
      stub.stubUnpackPiggyback current call.pixels.toInt64 (uploadBytes stub.unpack call) =
        some (after, offset, length) ∧
      data.uploadPointer slot call.op = call.pixels.toUInt32 ∧
      proxy.beforeUpload call.op slot after.arena =
        proxy.applyUnpackPiggyback call.pixels.toUInt32 length
          fun place => after.arena (offset.toNat + place) := by
  obtain ⟨op, width, height, depth, format, type, imageSize, pixels⟩ := call
  rcases part with plane | volume
  · cases plane
    have asked : pixels ≠ 0 ∨ stub.pixelUnpackBuffer current ≠ 0 := .inr bound
    simp only [UploadStub.upload, UploadStub.glTexSubImage2D, if_pos bound,
      size2d_of_pos asked] at taken
    obtain ⟨⟨sent, offset, length⟩, piggyback, shape⟩ := Option.map_eq_some_iff.mp taken
    cases shape
    exact ⟨offset, length, piggyback, rfl, rfl⟩
  · cases volume
    simp only [UploadStub.upload, UploadStub.glTexSubImage3D, if_pos bound] at taken
    obtain ⟨⟨sent, offset, length⟩, piggyback, shape⟩ := Option.map_eq_some_iff.mp taken
    cases shape
    exact ⟨offset, length, piggyback, rfl, rfl⟩

theorem uploadPointer_eq (bound : stub.pixelUnpackBuffer current ≠ 0)
    (taken : stub.upload current call = some (after, slot)) :
    data.uploadPointer slot call.op = bufferOffset data stub call := by
  obtain ⟨op, width, height, depth, format, type, imageSize, pixels⟩ := call
  cases op with
  | glTexImage2D => exact texImage2D_pointer rfl taken
  | glTexSubImage2D =>
      obtain ⟨-, -, -, pointer, -⟩ := part_sent data .zero bound (.inl rfl) taken
      exact pointer
  | glTexSubImage3D =>
      obtain ⟨-, -, -, pointer, -⟩ := part_sent data .zero bound (.inr rfl) taken
      exact pointer
  | glTexImage3D | glCompressedTexImage2D | glCompressedTexSubImage2D | glCompressedTexImage3D
  | glCompressedTexSubImage3D => exact sendPixels_pointer bound taken

/-! ## The uploads -/

theorem MappedUnpack.bound (mapped : MappedUnpack stub current store proxy size id) :
    stub.pixelUnpackBuffer current ≠ 0 := by
  rw [mapped.mirror]
  exact mapped.named

/-- The bytes are those of the client where the upload copies them. -/
theorem MappedUnpack.fresh_of_copies (mapped : MappedUnpack stub current store proxy size id)
    (copies : Copies call (proxy.maps id)) (taken : stub.upload current call = some (after, slot)) :
    Fresh data stub store proxy size id call after slot := by
  obtain ⟨offset, length, sent, pointer, before⟩ := part_sent data proxy mapped.bound copies.1 taken
  obtain ⟨next, applied, fresh⟩ := mapped.refresh copies.2 sent
  refine ⟨next, before.trans applied, ?_⟩
  rw [pointer]
  exact fresh

/-- Nothing is copied elsewhere. -/
theorem MappedUnpack.beforeUpload_eq (mapped : MappedUnpack stub current store proxy size id)
    (none : ¬ Copies call (proxy.maps id)) (taken : stub.upload current call = some (after, slot)) :
    proxy.beforeUpload call.op slot after.arena = some proxy := by
  by_cases part : call.op = .glTexSubImage2D ∨ call.op = .glTexSubImage3D
  · have outside : ¬ InMapping (proxy.maps id) call.pixels.toNat := fun inside => none ⟨part, inside⟩
    obtain ⟨offset, length, sent, -, before⟩ := part_sent ⟨1, by decide, by decide⟩ proxy
      mapped.bound part taken
    rw [mapped.sends_none outside, Option.some.injEq, Prod.mk.injEq, Prod.mk.injEq] at sent
    obtain ⟨-, -, rfl⟩ := sent
    exact before.trans (if_pos rfl)
  · obtain ⟨plane, volume⟩ := not_or.mp part
    cases op : call.op with
    | glTexSubImage2D => exact absurd op plane
    | glTexSubImage3D => exact absurd op volume
    | glTexImage2D | glTexImage3D | glCompressedTexImage2D | glCompressedTexSubImage2D
    | glCompressedTexImage3D | glCompressedTexSubImage3D => rfl

/-- Exactly when an upload sees the client's bytes. -/
theorem unpack_fresh_iff (mapped : MappedUnpack stub current store proxy size id)
    (taken : stub.upload current call = some (after, slot)) :
    Fresh data stub store proxy size id call after slot ↔
      Copies call (proxy.maps id) ∨ Already data stub store proxy size id call := by
  by_cases copies : Copies call (proxy.maps id)
  · exact iff_of_true (mapped.fresh_of_copies copies taken) (.inl copies)
  · rw [or_iff_right copies]
    unfold Fresh Already
    rw [mapped.beforeUpload_eq copies taken, uploadPointer_eq mapped.bound taken]
    simp only [Option.some.injEq, exists_eq_left']

/-! ## A mapping of 32 bytes -/

/-- Bytes 16 to 47 of buffer 5, which the client has filled with 7. -/
def mappedStub : UploadStub :=
  let entry : StubMapEntry :=
    { id := 1, ptr := 0x1000, length := 32, target := 0x88EC, offset := 16, buffer := 5,
      access := glMapWriteBit }
  .start
    { mirrors := (StubMirrors.zero.glBindBuffer 0 0x88EC 5).1
      memory := fun _ _ => 7
      stubMaps := Function.update (fun _ => .zero) 1 entry
      activeStubMapCount := 1 }
    fun _ => 0

def mappedProxy : MapProxy where
  maps := Function.update (fun _ => .zero) 1
    { realPtr := 0x2000, shmOffset := 0, length := 32, target := 0x88EC, offset := 16, buffer := 5,
      access := glMapWriteBit }
  gl :=
    { Buffers.initial with
      bound := Function.update (fun _ => 0) 0x88EC 5
      mapping := Function.update (fun _ => none) 5 (some ⟨0x2000, 16, 32⟩) }

def initialStore : PixelStore := .initial

theorem mappedUnpack : MappedUnpack mappedStub 0 initialStore mappedProxy 64 1 where
  unpack := rfl
  agree := by
    have only (id : MapId) (other : id ≠ 1) :
        mappedStub.maps.stubMaps id = .zero ∧ mappedProxy.maps id = .zero :=
      ⟨by simp [mappedStub, UploadStub.start, other], by simp [mappedProxy, other]⟩
    constructor
    · intro id
      by_cases here : id = 1
      · subst here
        decide
      · rw [(only id here).1, (only id here).2]
        decide
    · intro id present
      by_cases here : id = 1
      · subst here
        decide
      · rw [(only id here).1] at present
        exact absurd rfl present
    · intro id other present also _
      by_cases here : id = 1
      · by_cases there : other = 1
        · rw [here, there]
        · rw [(only other there).2] at also
          exact absurd rfl also
      · rw [(only id here).2] at present
        exact absurd rfl present
    · intro id present
      by_cases here : id = 1
      · subst here
        exact ⟨_, rfl, rfl⟩
      · rw [(only id here).2] at present
        exact absurd rfl present
  used := by decide
  mapped := by decide
  named := by decide
  mirror := by decide
  binding := by decide
  writes := by decide
  implicit := by decide
  range := ⟨_, rfl, rfl, rfl⟩
  offset := by decide
  length := by decide
  inside := by decide
  small := by decide

/-- Four pixels from the start of the mapping. -/
theorem unpack_fresh_part :
    let data : DataBase := ⟨0x40000000, by decide, by decide⟩
    let call : Stub.Upload := ⟨.glTexSubImage2D, 2, 2, 1, 0x1908, 0x1401, 0, 16⟩
    ∃ after slot, mappedStub.upload 0 call = some (after, slot) ∧
      Fresh data mappedStub initialStore mappedProxy 64 1 call after slot := by
  intro data call
  have sent : (mappedStub.upload 0 call).isSome = true := by
    subst call
    decide
  obtain ⟨⟨after, slot⟩, taken⟩ := Option.isSome_iff_exists.mp sent
  have copies : Copies call (mappedProxy.maps 1) := ⟨.inl rfl, by decide, by decide⟩
  exact ⟨after, slot, taken, (unpack_fresh_iff mappedUnpack taken).mpr (.inl copies)⟩

/-- The same pixels, for a whole texture of three dimensions. -/
theorem unpack_stale :
    let data : DataBase := ⟨0x40000000, by decide, by decide⟩
    let call : Stub.Upload := ⟨.glTexImage3D, 2, 2, 1, 0x1908, 0x1401, 0, 16⟩
    MappedUnpack mappedStub 0 initialStore mappedProxy 64 1 ∧
      ∃ after slot, mappedStub.upload 0 call = some (after, slot) ∧
        ¬ Fresh data mappedStub initialStore mappedProxy 64 1 call after slot := by
  intro data call
  refine ⟨mappedUnpack, _, _, rfl, ?_⟩
  rintro ⟨next, same, fresh⟩
  cases same
  have reads : Reads initialStore 64 call 16 16 := by
    subst call
    refine ⟨_, rfl, fun distance has => ?_, 0, ?_, rfl⟩
    · have below := has.lt_stop
      have stop : (initialStore.block3D 2 2 1 ⟨0x1908, 0x1401, 4, 1⟩).stop = 16 := by decide
      rw [stop] at below
      change 16 + distance < 64
      omega
    · exact ⟨0, by decide, 0, by decide, 0, by decide, by decide⟩
  have bytes := fresh 16 reads ⟨by decide, by decide⟩
  exact absurd bytes (by decide)

end GlesBridge.Upload
