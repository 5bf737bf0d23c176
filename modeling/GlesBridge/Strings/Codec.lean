import GlesBridge.Proxy.Strings
import GlesBridge.Ring.Arena
import GlesBridge.Upload.Source

namespace GlesBridge.Strings

open GlesBridge.Stub GlesBridge.Proxy GlesBridge.Systems GlesBridge.Systems.Reading GlesBridge.Upload

/-! Lists of strings, and texts for the debug output, on their way from the client to the
driver. -/

/-- What is packed of the strings. -/
def block (strings : List CString) : List UInt8 := terminate 0 (strings.map CString.bytes)

section

variable {stub after : UploadStub} {strings : List CString} {string : CString} {array : StringArray}
  {buf : List UInt8} {offset : UInt32} {slot : StringsSlot} {op : StringsOp}

theorem block_cons : block (string :: strings) = (string.bytes ++ [0]) ++ block strings := by
  simp [block]

theorem length_le_block : strings.length ≤ (block strings).length := by
  induction strings with
  | nil => exact Nat.zero_le _
  | cons string rest ih =>
      rw [block_cons, List.length_append, List.length_append, List.length_cons, List.length_singleton]
      omega

/-! ## Packing -/

theorem packInto_eq {total : Nat} (room : buf.length ≤ total) :
    packInto total buf strings =
      if buf.length + (block strings).length ≤ total then some (buf ++ block strings) else none := by
  induction strings generalizing buf with
  | nil =>
      rw [packInto, block, List.map_nil, terminate_nil, List.length_nil, Nat.add_zero, if_pos room,
        List.append_nil]
  | cons string rest ih =>
      rw [packInto, block_cons, List.length_append, List.length_append, List.length_singleton]
      by_cases first : buf.length + (string.bytes.length + 1) ≤ total
      · have longer : (buf ++ (string.bytes ++ [0])).length = buf.length + (string.bytes.length + 1) := by
          rw [List.length_append, List.length_append, List.length_singleton]
        rw [if_pos first, ih (by rw [longer]; exact first), longer, List.append_assoc, Nat.add_assoc]
      · rw [if_neg first, if_neg (by omega)]

/-- The sum of the first loop, modulo what a `size_t` holds. -/
theorem packTotal_eq : packTotal strings = .ofNat (block strings).length := by
  have sums (total : UInt64) :
      strings.foldl (fun total string => total + (string.strlen + 1)) total =
        total + .ofNat (block strings).length := by
    induction strings generalizing total with
    | nil => exact (UInt64.add_zero total).symm
    | cons string rest ih =>
        rw [List.foldl_cons, ih, block_cons, List.length_append, List.length_append,
          List.length_singleton, UInt64.ofNat_add, UInt64.ofNat_add, CString.strlen, UInt64.add_assoc]
        rfl
  rw [packTotal, sums, UInt64.zero_add]

/-- A list whose sum wraps does not fit the block that is taken for it. -/
theorem packStrings_eq :
    stub.packStrings array =
      if (block array.strings).length ≤ glesBridgeDataSize then
        (stub.blockWrite (block array.strings) (.ofNat (block array.strings).length)).map
          fun (stub, offset) => (stub, ⟨array.count, offset, .ofNat (block array.strings).length⟩)
      else none := by
  obtain ⟨strings, few⟩ := array
  have packed : packInto (UInt64.ofNat (block strings).length).toNat [] strings =
      if 0 + (block strings).length ≤ (UInt64.ofNat (block strings).length).toNat then
        some (block strings)
      else none := packInto_eq (Nat.zero_le _)
  rw [Nat.zero_add] at packed
  unfold UploadStub.packStrings
  dsimp only
  rw [packTotal_eq, packed]
  by_cases small : (block strings).length < 18446744073709551616
  · have total : (UInt64.ofNat (block strings).length).toNat = (block strings).length :=
      UInt64.toNat_ofNat_of_lt' small
    rw [total, if_pos (Nat.le_refl _), Option.bind_some]
    by_cases fits : (block strings).length ≤ glesBridgeDataSize
    · rw [if_pos fits, UInt64.toUInt32_ofNat']
    · rw [if_neg fits, UploadStub.blockWrite, UploadStub.ringDataAlloc, total,
        if_pos (Nat.lt_of_not_le fits)]
      rfl
  · have wraps : (UInt64.ofNat (block strings).length).toNat < (block strings).length :=
      (UInt64.toNat_lt _).trans_le (Nat.le_of_not_lt small)
    rw [if_neg (Nat.not_le.mpr wraps), if_neg fun fits => small (fits.trans_lt (by decide))]
    rfl

/-! ## The block in the arena -/

theorem blockWrite_spec {size : Nat} (small : size ≤ glesBridgeDataSize) (length : buf.length = size)
    (written : stub.blockWrite buf (.ofNat size) = some (after, offset)) :
    HoldsWords after.arena id offset.toNat buf ∧ offset.toNat + size ≤ glesBridgeDataSize := by
  have value : (UInt64.ofNat size).toNat = size :=
    UInt64.toNat_ofNat_of_lt' (small.trans_lt (by decide))
  obtain ⟨⟨next, start⟩, placed, shape⟩ := Option.map_eq_some_iff.mp written
  rw [value] at placed
  cases shape
  constructor
  · refine holdsWords_iff.mpr fun place below => ?_
    have inside : offset.toNat ≤ offset.toNat + place ∧
        offset.toNat + place < offset.toNat + (UInt64.ofNat size).toNat := by
      rw [value]
      omega
    change Ring.writeBytes next.arena offset.toNat (UInt64.ofNat size).toNat
      (fun place => buf.getD place 0) (offset.toNat + place) = buf[place]
    rw [Ring.writeBytes, if_pos inside, Nat.add_sub_cancel_left, List.getD_eq_getElem?_getD,
      List.getElem?_eq_getElem below, Option.getD_some]
  · unfold UploadStub.ringDataAlloc at placed
    rw [if_neg (Nat.not_lt.mpr small)] at placed
    obtain ⟨⟨start, head⟩, found, shape⟩ := Option.map_eq_some_iff.mp placed
    cases shape
    have fits := ring_end small found
    have spot : (UInt32.ofNat start).toNat = start :=
      UInt32.toNat_ofNat_of_lt' ((Nat.le_of_add_right_le fits).trans_lt (by decide))
    rw [spot]
    exact fits

/-- The strings that a handler gets, read from nowhere but its block. -/
def Unpacked (names : NamesReading) (arena : Nat → UInt8) (slot : StringsSlot)
    (strings : List CString) : Prop :=
  names.eval arena = some (strings.map CString.bytes) ∧
    ∀ address ∈ names.touched arena,
      slot.dataOffset.toNat ≤ address ∧ address < slot.dataOffset.toNat + slot.dataSize.toNat

theorem packStrings_unpacked (sent : stub.packStrings array = some (after, slot)) :
    Unpacked (unpackStrings slot) after.arena slot array.strings ∧ slot.count = array.count ∧
      (array.strings ≠ [] → 0 < slot.dataSize) := by
  rw [packStrings_eq] at sent
  by_cases fits : (block array.strings).length ≤ glesBridgeDataSize
  · rw [if_pos fits] at sent
    obtain ⟨⟨next, offset⟩, written, shape⟩ := Option.map_eq_some_iff.mp sent
    cases shape
    obtain ⟨holds, inside⟩ := blockWrite_spec fits rfl written
    have size : (UInt32.ofNat (block array.strings).length).toNat = (block array.strings).length :=
      UInt32.toNat_ofNat_of_lt' (fits.trans_lt (by decide))
    have count : array.count.toNatClampNeg = (array.strings.map CString.bytes).length := by
      rw [List.length_map]
      exact Int32.toNatClampNeg_ofNat_of_lt array.few
    have free : ∀ list ∈ array.strings.map CString.bytes, (0 : UInt8) ∉ list := by
      intro list member
      obtain ⟨string, -, rfl⟩ := List.mem_map.mp member
      exact string.free
    obtain ⟨value, touched⟩ := terminatedList_eq holds free inside
    refine ⟨⟨?_, ?_⟩, rfl, fun some => ?_⟩
    · rw [unpackStrings, count]
      exact value
    · intro address member
      rw [unpackStrings, count, touched, List.mem_range'_1] at member
      rw [size]
      exact member
    · rw [UInt32.lt_iff_toNat_lt, size]
      exact (List.length_pos_of_ne_nil some).trans_le length_le_block
  · rw [if_neg fits] at sent
    cases sent

theorem packStrings_none (stopped : stub.packStrings array = none) :
    glesBridgeDataSize < (block array.strings).length ∨
      Ring.ringDataAlloc stub.head stub.tail (block array.strings).length = none := by
  rw [packStrings_eq] at stopped
  by_cases fits : (block array.strings).length ≤ glesBridgeDataSize
  · have value : (UInt64.ofNat (block array.strings).length).toNat = (block array.strings).length :=
      UInt64.toNat_ofNat_of_lt' (fits.trans_lt (by decide))
    rw [if_pos fits, Option.map_eq_none_iff, UploadStub.blockWrite, Option.map_eq_none_iff, value,
      UploadStub.ringDataAlloc, if_neg (Nat.not_lt.mpr fits), Option.map_eq_none_iff] at stopped
    exact .inr stopped
  · exact .inl (Nat.lt_of_not_le fits)

theorem count_pos_iff : 0 < array.count ↔ array.strings ≠ [] := by
  rw [Int32.lt_iff_toInt_lt, StringArray.count, Int32.toInt_ofNat_of_lt array.few, Int32.toInt_zero]
  exact Int.natCast_pos.trans List.length_pos_iff

/-- With no strings there is no block to read. -/
theorem createShaderProgramv_unpacked (sent : stub.glCreateShaderProgramv array = some (after, slot)) :
    Unpacked (hGlCreateShaderProgramv slot) after.arena slot array.strings := by
  unfold UploadStub.glCreateShaderProgramv at sent
  by_cases some : 0 < array.count
  · rw [if_pos some] at sent
    obtain ⟨unpacked, count, size⟩ := packStrings_unpacked sent
    have reads : hGlCreateShaderProgramv slot = unpackStrings slot :=
      if_pos ⟨size (count_pos_iff.mp some), count ▸ some⟩
    rw [reads]
    exact unpacked
  · have empty : array.strings = [] := not_ne_iff.mp (count_pos_iff.not.mp some)
    rw [if_neg some] at sent
    cases sent
    have reads : hGlCreateShaderProgramv ⟨array.count, 0, 0⟩ = .done (Option.some []) := by
      rw [hGlCreateShaderProgramv, if_neg fun both => some both.2, if_neg some]
    rw [reads, empty]
    exact ⟨rfl, fun address member => absurd member List.not_mem_nil⟩

/-- The handlers unpack what the entry points pack. Nothing is sent only where the
block does not fit the arena, or has to wait for room in it. -/
theorem strings_round_trip (stub : UploadStub) (array : StringArray) (op : StringsOp) :
    match stub.sendStrings array op with
    | some (after, slot) => Unpacked (handleStrings slot op) after.arena slot array.strings
    | none => glesBridgeDataSize < (block array.strings).length ∨
        Ring.ringDataAlloc stub.head stub.tail (block array.strings).length = none := by
  cases sent : stub.sendStrings array op with
  | some outcome =>
      cases op with
      | glTransformFeedbackVaryings => exact (packStrings_unpacked sent).1
      | glGetUniformIndices => exact (packStrings_unpacked sent).1
      | glCreateShaderProgramv => exact createShaderProgramv_unpacked sent
  | none =>
      cases op with
      | glTransformFeedbackVaryings => exact packStrings_none sent
      | glGetUniformIndices => exact packStrings_none sent
      | glCreateShaderProgramv =>
          change stub.glCreateShaderProgramv array = none at sent
          unfold UploadStub.glCreateShaderProgramv at sent
          by_cases some : 0 < array.count
          · rw [if_pos some] at sent
            exact packStrings_none sent
          · rw [if_neg some] at sent
            cases sent

end

/-! ## Texts for the debug output -/

section

variable {stub after : UploadStub} {call : DebugText} {message buf : List UInt8} {offset : UInt32}
  {slot : DebugTextSlot} {arena : Nat → UInt8} {op : DebugTextOp} {length : Int32} {size : Nat}

/-- As much of a text as GL takes. -/
def debugTaken (length : Int32) (message : List UInt8) : List UInt8 :=
  if length < 0 then message.takeWhile (· ≠ 0) else message.take length.toNatClampNeg

/-- What a call of the driver itself has. -/
def directDebug (call : DebugText) : DebugArgument :=
  call.message.elim .null fun message => .text (debugTaken call.length message)

/-- There is something of the text, and where the driver looks for its end, that is
behind the copy, in the arena. -/
structure DebugTextKept (length : Int32) (message : List UInt8) (slot : DebugTextSlot)
    (arena : Nat → UInt8) : Prop where
  some : debugTaken length message ≠ []
  ended : length < 0 →
    slot.dataOffset.toNat + (debugTaken length message).length < glesBridgeDataSize ∧
      arena (slot.dataOffset.toNat + (debugTaken length message).length) = 0

/-! ### The copy -/

theorem blockWrite_take :
    stub.blockWrite (buf.take size) (.ofNat size) = stub.blockWrite buf (.ofNat size) := by
  have below : (UInt64.ofNat size).toNat ≤ size := by
    rw [UInt64.toNat_ofNat']
    exact Nat.mod_le ..
  have same (arena : Nat → UInt8) (offset : Nat) :
      Ring.writeBytes arena offset (UInt64.ofNat size).toNat (fun place => (buf.take size).getD place 0) =
        Ring.writeBytes arena offset (UInt64.ofNat size).toNat fun place => buf.getD place 0 := by
    funext address
    unfold Ring.writeBytes
    split
    · rename_i inside
      change (buf.take size).getD (address - offset) 0 = buf.getD (address - offset) 0
      rw [List.getD_eq_getElem?_getD, List.getD_eq_getElem?_getD,
        List.getElem?_take_of_lt (by omega)]
    · rfl
  unfold UploadStub.blockWrite
  simp only [same]

theorem blockWrite_small (written : stub.blockWrite buf (.ofNat size) = some (after, offset))
    (few : size < 2 ^ 64) : size ≤ glesBridgeDataSize := by
  obtain ⟨placed, found, -⟩ := Option.map_eq_some_iff.mp written
  rw [UInt64.toNat_ofNat_of_lt' few] at found
  unfold UploadStub.ringDataAlloc at found
  by_cases large : glesBridgeDataSize < size
  · rw [if_pos large] at found
    cases found
  · exact Nat.le_of_not_lt large

theorem length_debugTaken (inside : 0 ≤ length → length.toNatClampNeg ≤ message.length)
    (positive : ¬ length < 0) : (debugTaken length message).length = length.toNatClampNeg := by
  rw [debugTaken, if_neg positive, List.length_take,
    Nat.min_eq_left (inside (Int32.not_lt.mp positive))]

theorem debugTaken_eq_take :
    debugTaken length message = message.take (debugTaken length message).length := by
  refine List.prefix_iff_eq_take.mp ?_
  unfold debugTaken
  split
  · exact List.takeWhile_prefix _
  · exact List.take_prefix _ _

/-- The length that the stub goes by. -/
theorem counted_eq (inside : 0 ≤ length → length.toNatClampNeg ≤ message.length) :
    (if length < 0 then Int32.ofNat (Shared.strlen message) else length) =
      .ofNat (debugTaken length message).length := by
  by_cases negative : length < 0
  · rw [if_pos negative, debugTaken, if_pos negative]
    rfl
  · rw [if_neg negative, length_debugTaken inside negative]
    exact (Int32.ofNat_toNatClampNeg _ (Int32.not_lt.mp negative)).symm

/-- The stub sends what GL takes. -/
theorem sendDebugText_spec (given : call.message = some message)
    (sent : stub.sendDebugText call = some (after, slot)) :
    slot.length = call.length ∧ slot.dataSize.toNat = (debugTaken call.length message).length ∧
      HoldsWords after.arena id slot.dataOffset.toNat (debugTaken call.length message) ∧
      slot.dataOffset.toNat + (debugTaken call.length message).length ≤ glesBridgeDataSize := by
  have few : (debugTaken call.length message).length < 2147483648 := by
    rw [debugTaken_eq_take, List.length_take]
    exact (Nat.min_le_right ..).trans_lt (call.short message given)
  have wide : (Int32.ofNat (debugTaken call.length message).length).toInt64.toUInt64 =
      .ofNat (debugTaken call.length message).length := by
    rw [Int32.toInt64_ofNat' (by rw [show Int32.maxValue.toInt = 2147483647 from rfl]; omega)]
    rfl
  unfold UploadStub.sendDebugText at sent
  simp only [given, counted_eq (call.inside message given), wide] at sent
  obtain ⟨⟨next, offset⟩, written, shape⟩ := Option.map_eq_some_iff.mp sent
  cases shape
  have small := blockWrite_small written (few.trans (by decide))
  rw [← blockWrite_take, ← debugTaken_eq_take] at written
  obtain ⟨holds, inside⟩ := blockWrite_spec small rfl written
  refine ⟨rfl, ?_, holds, inside⟩
  rw [Int32.toUInt32_ofNat']
  exact UInt32.toNat_ofNat_of_lt' (few.trans (by decide))

/-! ### What the driver reads -/

/-- The driver has the copy, and no more, if it goes by the length or finds a
terminator behind it. -/
theorem driverReads_eq_iff {taken : List UInt8} {address : Nat} (holds : HoldsWords arena id address taken)
    (inside : address + taken.length ≤ glesBridgeDataSize) (free : length < 0 → 0 ∉ taken)
    (counted : ¬ length < 0 → taken.length = length.toNatClampNeg) :
    (driverReads length address).eval arena = .text taken ↔
      (length < 0 → address + taken.length < glesBridgeDataSize ∧
        arena (address + taken.length) = 0) := by
  unfold driverReads
  by_cases negative : length < 0
  · have ended : (terminated 0 (glesBridgeDataSize - address) address).eval arena = some taken ↔ _ :=
      terminated_eq_iff holds (free negative) (by omega)
    have room : taken.length < glesBridgeDataSize - address ↔
        address + taken.length < glesBridgeDataSize := by omega
    rw [if_pos negative, eval_bind, eval_done, imp_iff_right negative, ← room, ← ended]
    cases (terminated 0 (glesBridgeDataSize - address) address).eval arena with
    | none => simp
    | some found => simp
  · rw [if_neg negative, eval_bind, eval_done, ← counted negative, eval_sequence holds]
    exact iff_of_true rfl fun other => absurd other negative

theorem free_debugTaken (negative : length < 0) : 0 ∉ debugTaken length message := by
  rw [debugTaken, if_pos negative]
  intro member
  have other := List.all_eq_true.mp List.all_takeWhile 0 member
  exact absurd other (by decide)

/-- While its copy is kept, the driver has of a text what a call of its own has, exactly if
the text is kept as a whole. -/
theorem debug_text_iff (sent : stub.sendDebug call op = some (after, slot))
    (kept : ∀ place < slot.dataSize.toNat,
      arena (slot.dataOffset.toNat + place) = after.arena (slot.dataOffset.toNat + place)) :
    (handleDebug slot op).eval arena = directDebug call ↔
      ∀ message, call.message = some message → DebugTextKept call.length message slot arena := by
  have handled : handleDebug slot op = debugText slot := by
    cases op with
    | glDebugMessageInsert | glPushDebugGroup | glObjectLabel | glObjectPtrLabel => rfl
  replace sent : stub.sendDebugText call = some (after, slot) := by
    cases op with
    | glDebugMessageInsert | glPushDebugGroup | glObjectLabel | glObjectPtrLabel => exact sent
  rw [handled]
  cases given : call.message with
  | none =>
      unfold UploadStub.sendDebugText at sent
      simp only [given] at sent
      cases sent
      refine iff_of_true ?_ fun message same => by cases same
      rw [directDebug, given]
      rfl
  | some message =>
      obtain ⟨length, size, holds, inside⟩ := sendDebugText_spec given sent
      have direct : directDebug call = .text (debugTaken call.length message) := by
        rw [directDebug, given]
        rfl
      rw [direct, debugText]
      by_cases empty : debugTaken call.length message = []
      · have null : ¬ 0 < slot.dataSize := by
          rw [UInt32.lt_iff_toNat_lt, size, empty]
          exact Nat.lt_irrefl 0
        rw [if_neg null, eval_done]
        exact iff_of_false (by simp) fun all => (all message rfl).some empty
      · have block : 0 < slot.dataSize := by
          rw [UInt32.lt_iff_toNat_lt, size]
          exact List.length_pos_of_ne_nil empty
        have there : HoldsWords arena id slot.dataOffset.toNat (debugTaken call.length message) := by
          refine holds.congr fun place above below => ?_
          have same := kept (place - slot.dataOffset.toNat) (by omega)
          rwa [Nat.add_sub_cancel' above] at same
        rw [if_pos block, length, driverReads_eq_iff there inside free_debugTaken
          (length_debugTaken (call.inside message given))]
        constructor
        · intro ended other same
          cases same
          exact ⟨empty, ended⟩
        · intro all
          exact (all message rfl).ended

/-- A text of one letter, its length left to the stub. -/
def letter : DebugText where
  length := -1
  message := some [65]
  inside _ _ positive := absurd positive (by decide)
  short bytes same := by
    cases same
    decide

theorem letter_sent : ((UploadStub.start .zero fun _ => 0).sendDebug letter
    .glPushDebugGroup).isSome = true := by
  decide +kernel

/-- In a new arena there is a terminator behind it. -/
theorem debug_text_letter :
    ∃ after slot, (UploadStub.start .zero fun _ => 0).sendDebug letter .glPushDebugGroup =
        some (after, slot) ∧
      (handleDebug slot .glPushDebugGroup).eval after.arena = directDebug letter := by
  let outcome := ((UploadStub.start .zero fun _ => 0).sendDebug letter .glPushDebugGroup).get letter_sent
  have sent : (UploadStub.start .zero fun _ => 0).sendDebug letter .glPushDebugGroup =
      some (outcome.1, outcome.2) := (Option.some_get letter_sent).symm
  refine ⟨outcome.1, outcome.2, sent, (debug_text_iff sent fun _ _ => rfl).mpr fun message given => ?_⟩
  cases given
  have ended : outcome.2.dataOffset.toNat + 1 < glesBridgeDataSize ∧
      outcome.1.arena (outcome.2.dataOffset.toNat + 1) = 0 := by decide +kernel
  exact ⟨by decide, fun _ => ended⟩

end

end GlesBridge.Strings
