import GlesBridge.Proxy.Outputs
import GlesBridge.Ring.Arena

namespace GlesBridge.Args

open GlesBridge.Data GlesBridge.Gl GlesBridge.Stub GlesBridge.Proxy
open GlesBridge.Ring (alignUp alignUp_eq le_alignUp ringDataAlloc ringDataAlloc_spec)

/-! Which calls keep what they put into the arena inside what they have asked for. -/

/-- The place is in a range that was handed out for the call. -/
def Owned (slot : OutputSlot) (place : Nat) : Prop :=
  ∃ own ∈ slot.own, own.1 ≤ place ∧ place < own.1 + own.2

/-- In every state of the arena, what the call writes is its own, and none of the bytes
that wait for another command. -/
def WritesOwn (call : OutputCall) (answer : OutputAnswer) : Prop :=
  ∀ head tail slot, tail ≤ head → call.send head tail = some slot →
    ∀ place, Writes answer slot call place →
      Owned slot place ∧
        ∀ position, tail ≤ position → position < head → position % glesBridgeDataSize ≠ place

/-- The bytes that a field asks for. -/
def fieldBytes (field : OutputField) : Nat :=
  match field.asked with
  | none => 0
  | some size => size.toNat

/-- The arena has room for the request, at least once it is empty. -/
structure Fits (request : OutputRequest) : Prop where
  data : fieldBytes request.data ≤ glesBridgeDataSize
  data2 : fieldBytes request.data2 ≤ glesBridgeDataSize
  both : alignUp (fieldBytes request.data) + alignUp (fieldBytes request.data2) ≤ glesBridgeDataSize

/-- The proxy gets the call, if not in every state of the arena. -/
def Sent (call : OutputCall) : Prop := ∃ request, call.request = some request ∧ Fits request

/-- What the driver has is little enough for what is asked for. -/
def AsksEnough (answer : OutputAnswer) : OutputCall → Prop
  -- the start of the arena is taken for a text or an array that is left out
  | .glGetShaderInfoLog bufSize infoLog => 0 < bufSize → infoLog = true ∨ answer.accepts = false
  | .glGetShaderSource bufSize source => 0 < bufSize → source = true ∨ answer.accepts = false
  | .glGetAttachedShaders maxCount shaders =>
      0 < maxCount → shaders = true ∨ answer.accepts = false ∨ answer.found = 0
  | .eglGetConfigs configs configSize =>
      configCount answer configSize ≤ if configs then (configSize.toUInt32 * 4).toNat / 4 else 0
  -- a size of 2 ^ 30 configs and more is cut off
  | .eglChooseConfig _ configs configSize =>
      configs = true → configCount answer configSize ≤ (configSize.toUInt32 * 4).toNat / 4
  | .glGetUniformiv => answer.accepts = true → answer.components ≤ 4
  | .glGetBooleanv | .glGetFloatv | .glGetIntegerv => answer.accepts = true → answer.found ≤ 32
  | .glReadPixels call pixelPackBuffer =>
      pixelPackBuffer = 0 → call.pixBytes ≠ 0 → ¬ (packBlock answer.store answer.pixel call).Empty →
        (packBlock answer.store answer.pixel call).stop ≤ alignUp call.pixBytes.toNat
  | _ => True

variable {call : OutputCall} {answer : OutputAnswer} {request : OutputRequest} {field : OutputField}
  {slot : OutputSlot} {head tail bytes : Nat}

/-! ## Ranges of the arena -/

theorem has_line {place : Nat} : (line bytes).Has place ↔ place < bytes := by
  constructor
  · rintro ⟨image, first, row, only, byte, below, rfl⟩
    have images : image = 0 := Nat.lt_one_iff.mp first
    have rows : row = 0 := Nat.lt_one_iff.mp only
    subst images rows
    simp only [Strided.place, line, Strided.nothing, Nat.zero_mul, Nat.zero_add]
    exact below
  · intro below
    refine ⟨0, Nat.one_pos, 0, Nat.one_pos, place, below, ?_⟩
    simp [Strided.place, line, Strided.nothing]

theorem not_has_nothing {place : Nat} : ¬ Strided.nothing.Has place := fun has =>
  has.not_empty (.inl rfl)

theorem alignUp_zero : alignUp 0 = 0 := by decide

theorem place_unasked (unasked : field.asked = none) :
    field.place head tail = some (field.offset, [], head) := by
  rw [OutputField.place, unasked]

theorem place_asked {size : UInt64} (asked : field.asked = some size) :
    field.place head tail =
      if glesBridgeDataSize < size.toNat then none
      else
        (ringDataAlloc head tail size.toNat).map fun (offset, next) =>
          (.ofNat offset, [(offset, alignUp size.toNat)], next) := by
  rw [OutputField.place, asked]

theorem fieldBytes_asked {size : UInt64} (asked : field.asked = some size) :
    fieldBytes field = size.toNat := by
  rw [fieldBytes, asked]

theorem fieldBytes_unasked (unasked : field.asked = none) : fieldBytes field = 0 := by
  rw [fieldBytes, unasked]

/-- What a field is given: a range behind the head of the arena, in one piece. -/
structure Given (field : OutputField) (head tail : Nat) (offset : UInt32) (own : List (Nat × Nat))
    (next : Nat) : Prop where
  own : own = [(offset.toNat, alignUp (fieldBytes field))]
  small : fieldBytes field ≤ glesBridgeDataSize
  behind : head + alignUp (fieldBytes field) ≤ next
  room : next ≤ tail + glesBridgeDataSize
  here : offset.toNat = (next - alignUp (fieldBytes field)) % glesBridgeDataSize
  lap : offset.toNat + alignUp (fieldBytes field) ≤ glesBridgeDataSize

theorem place_given {size : UInt64} {offset : UInt32} {own : List (Nat × Nat)} {next : Nat}
    (asked : field.asked = some size) (order : tail ≤ head)
    (placed : field.place head tail = some (offset, own, next)) :
    Given field head tail offset own next := by
  rw [place_asked asked] at placed
  split at placed
  · cases placed
  · rename_i small
    obtain ⟨⟨start, newHead⟩, found, same⟩ := Option.map_eq_some_iff.mp placed
    cases same
    obtain ⟨large, behind, room, here, lap⟩ := ringDataAlloc_spec order found
    have limit : Ring.glesBridgeDataSize < UInt32.size := by decide
    have inside : start + alignUp size.toNat ≤ Ring.glesBridgeDataSize := here ▸ lap
    have word : (UInt32.ofNat start).toNat = start := UInt32.toNat_ofNat_of_lt' (by omega)
    have bytes := fieldBytes_asked asked
    exact
      { own := by rw [word, bytes]
        small := by
          rw [bytes]
          exact Nat.le_of_not_lt small
        behind := by
          rw [bytes]
          omega
        room
        here := by
          rw [word, bytes]
          exact here.symm
        lap := by
          rw [word, bytes]
          exact inside }

/-- A range behind the head holds none of the bytes before it that wait. -/
theorem apart_of_window {next size place position : Nat} (behind : head + size ≤ next)
    (room : next ≤ tail + glesBridgeDataSize)
    (lap : (next - size) % glesBridgeDataSize + size ≤ glesBridgeDataSize)
    (above : (next - size) % glesBridgeDataSize ≤ place)
    (below : place < (next - size) % glesBridgeDataSize + size)
    (waits : tail ≤ position) (older : position < head) :
    position % glesBridgeDataSize ≠ place := by
  intro same
  have lapped := Nat.div_add_mod (next - size) glesBridgeDataSize
  have around : (next - size + (place - (next - size) % glesBridgeDataSize)) % glesBridgeDataSize =
      place := by
    have shape : next - size + (place - (next - size) % glesBridgeDataSize) =
        place + glesBridgeDataSize * ((next - size) / glesBridgeDataSize) := by omega
    rw [shape, Nat.add_mul_mod_self_left, Nat.mod_eq_of_lt (by omega)]
  have equal := eq_of_mod_eq_of_lt_add (by omega) (by omega) (same.trans around.symm)
  omega

theorem Given.apart {offset : UInt32} {own : List (Nat × Nat)} {next oldest place position : Nat}
    (given : Given field head tail offset own next) (above : offset.toNat ≤ place)
    (below : place < offset.toNat + alignUp (fieldBytes field)) (earlier : oldest ≤ head)
    (waits : tail ≤ position) (older : position < oldest) :
    position % glesBridgeDataSize ≠ place := by
  have lap := given.lap
  rw [given.here] at above below lap
  exact apart_of_window given.behind given.room lap above below waits (older.trans_le earlier)

/-- The head moves on by what is asked for at least. -/
theorem place_behind {offset : UInt32} {own : List (Nat × Nat)} {next : Nat} (order : tail ≤ head)
    (placed : field.place head tail = some (offset, own, next)) :
    fieldBytes field ≤ glesBridgeDataSize ∧ head + alignUp (fieldBytes field) ≤ next ∧
      (next = head ∨ next ≤ tail + glesBridgeDataSize) := by
  cases asked : field.asked with
  | none =>
      rw [place_unasked asked] at placed
      cases placed
      rw [fieldBytes_unasked asked]
      exact ⟨Nat.zero_le _, Nat.le_refl _, .inl rfl⟩
  | some size =>
      have given := place_given asked order placed
      exact ⟨given.small, given.behind, .inr given.room⟩

theorem alloc_start {size : Nat} (before : head < Ring.glesBridgeDataSize)
    (room : head + alignUp size ≤ Ring.glesBridgeDataSize) :
    ringDataAlloc head 0 size = some (head, head + alignUp size) := by
  have here : head % Ring.glesBridgeDataSize = head := Nat.mod_eq_of_lt before
  have fits : alignUp size ≤ Ring.glesBridgeDataSize - head := by omega
  have free : ¬ head + alignUp size - 0 > Ring.glesBridgeDataSize := by omega
  simp only [ringDataAlloc, here, if_pos fits, if_neg free]

/-- In the arena without commands that wait, behind what the call itself has got. -/
theorem place_start {size : UInt64} (asked : field.asked = some size)
    (small : fieldBytes field ≤ glesBridgeDataSize) (before : head < glesBridgeDataSize)
    (room : head + alignUp (fieldBytes field) ≤ glesBridgeDataSize) :
    field.place head 0 =
      some (.ofNat head, [(head, alignUp (fieldBytes field))], head + alignUp (fieldBytes field)) := by
  rw [fieldBytes_asked asked] at small room ⊢
  rw [place_asked asked, if_neg (Nat.not_lt.mpr small), alloc_start before room]
  rfl

/-! ## Requests -/

theorem place_inversion (placed : request.place head tail = some slot) :
    ∃ first middle second next,
      request.data.place head tail = some (slot.dataOffset, first, middle) ∧
        request.data2.place middle tail = some (slot.data2Offset, second, next) ∧
          slot.dataSize = request.data.size ∧ slot.own = first ++ second := by
  obtain ⟨⟨dataOffset, first, middle⟩, one, rest⟩ := Option.bind_eq_some_iff.mp placed
  obtain ⟨⟨data2Offset, second, next⟩, two, same⟩ := Option.map_eq_some_iff.mp rest
  cases same
  exact ⟨first, middle, second, next, one, two, rfl, rfl⟩

theorem place_eq {dataOffset data2Offset : UInt32} {first second : List (Nat × Nat)} {middle next : Nat}
    (one : request.data.place head tail = some (dataOffset, first, middle))
    (two : request.data2.place middle tail = some (data2Offset, second, next)) :
    request.place head tail =
      some ⟨dataOffset, request.data.size, data2Offset, request.data2.size, first ++ second⟩ := by
  simp only [OutputRequest.place, one, two, Option.bind_some, Option.map_some]

theorem fits_of_place (order : tail ≤ head) (placed : request.place head tail = some slot) :
    Fits request := by
  obtain ⟨first, middle, second, next, one, two, -, -⟩ := place_inversion placed
  obtain ⟨small, behind, room⟩ := place_behind order one
  obtain ⟨small2, behind2, room2⟩ := place_behind (order.trans (by omega)) two
  refine ⟨small, small2, ?_⟩
  omega

/-- A call whose only range is the one that it writes to. -/
theorem writesOwn_only (asks : call.request = some (.only field))
    (plain : ∀ slot, outputOffset slot call = slot.dataOffset) :
    WritesOwn call answer ↔
      (Fits (.only field) → ∀ byte, (written answer field.size call).Has byte →
        byte < alignUp (fieldBytes field)) := by
  have unasked : OutputField.unused.asked = none := rfl
  have send (head tail : Nat) : call.send head tail = (OutputRequest.only field).place head tail := by
    rw [OutputCall.send, asks]
    rfl
  constructor
  · intro own fits byte has
    cases asked : field.asked with
    | none =>
        have placed : (OutputRequest.only field).place 0 0 =
            some ⟨field.offset, field.size, 0, 0, [] ++ []⟩ :=
          place_eq (place_unasked asked) (place_unasked unasked)
        have mine := own 0 0 _ (Nat.le_refl _) ((send 0 0).trans placed) _ ⟨byte, has, rfl⟩
        obtain ⟨range, member, -⟩ := mine.1
        cases member
    | some size =>
        have room : 0 + alignUp (fieldBytes field) ≤ glesBridgeDataSize := by
          have both : alignUp (fieldBytes field) + _ ≤ glesBridgeDataSize := fits.both
          omega
        have placed : (OutputRequest.only field).place 0 0 =
            some ⟨.ofNat 0, field.size, 0, 0, [(0, alignUp (fieldBytes field))] ++ []⟩ :=
          place_eq (place_start asked fits.data (by decide) room) (place_unasked unasked)
        have mine := own 0 0 _ (Nat.le_refl _) ((send 0 0).trans placed) _ ⟨byte, has, rfl⟩
        obtain ⟨range, member, above, below⟩ := mine.1
        rw [plain, List.mem_singleton.mp member] at below
        simpa using below
  · intro enough head tail slot order sent place writes
    rw [send] at sent
    obtain ⟨byte, has, rfl⟩ := writes
    have fits := fits_of_place order sent
    obtain ⟨first, middle, second, next, one, two, size, mine⟩ := place_inversion sent
    rw [size] at has
    have below := enough fits byte has
    rw [plain]
    cases asked : field.asked with
    | none =>
        rw [fieldBytes_unasked asked, alignUp_zero] at below
        cases below
    | some size =>
        have given := place_given asked order one
        have place : slot.dataOffset.toNat + byte <
            slot.dataOffset.toNat + alignUp (fieldBytes field) := Nat.add_lt_add_left below _
        refine ⟨⟨(slot.dataOffset.toNat, alignUp (fieldBytes field)), ?_, Nat.le_add_right _ _, place⟩,
          fun position waits older => ?_⟩
        · rw [mine, given.own]
          exact .head _
        · exact given.apart (Nat.le_add_right _ _) place (Nat.le_refl _) waits older

/-- A call that writes to the second of its ranges. -/
theorem writesOwn_second {size : UInt64} (asks : call.request = some request)
    (second : ∀ slot, outputOffset slot call = slot.data2Offset)
    (asked : request.data2.asked = some size)
    (short : alignUp (fieldBytes request.data) ≠ glesBridgeDataSize) :
    WritesOwn call answer ↔
      (Fits request → ∀ byte, (written answer request.data.size call).Has byte →
        byte < alignUp (fieldBytes request.data2)) := by
  have send (head tail : Nat) : call.send head tail = request.place head tail := by
    rw [OutputCall.send, asks]
    rfl
  constructor
  · intro own fits byte has
    have both := fits.both
    have placed : ∃ dataOffset first, (∀ range ∈ first, range.1 + range.2 ≤ alignUp (fieldBytes request.data)) ∧
        request.data.place 0 0 = some (dataOffset, first, alignUp (fieldBytes request.data)) := by
      cases input : request.data.asked with
      | none =>
          have none : alignUp (fieldBytes request.data) = 0 := by
            rw [fieldBytes_unasked input, alignUp_zero]
          rw [place_unasked input, none]
          exact ⟨_, [], fun _ member => (nomatch member), rfl⟩
      | some bytes =>
          rw [place_start input fits.data (by decide) (by omega), Nat.zero_add]
          refine ⟨_, [(0, alignUp (fieldBytes request.data))], fun range member => ?_, rfl⟩
          rw [List.mem_singleton.mp member, Nat.zero_add]
    obtain ⟨dataOffset, first, inFront, one⟩ := placed
    have two : request.data2.place (alignUp (fieldBytes request.data)) 0 = some _ :=
      place_start asked fits.data2 (by omega) both
    have sent := place_eq one two
    have mine := own 0 0 _ (Nat.le_refl _) ((send 0 0).trans sent) _ ⟨byte, has, rfl⟩
    obtain ⟨range, member, above, below⟩ := mine.1
    have limit : glesBridgeDataSize < UInt32.size := by decide
    rw [second, UInt32.toNat_ofNat_of_lt' (by omega)] at above below
    rcases List.mem_append.mp member with input | output
    · have front := inFront range input
      omega
    · rw [List.mem_singleton.mp output] at below
      exact Nat.lt_of_add_lt_add_left below
  · intro enough head tail slot order sent place writes
    rw [send] at sent
    obtain ⟨byte, has, rfl⟩ := writes
    have fits := fits_of_place order sent
    obtain ⟨first, middle, others, next, one, two, size, mine⟩ := place_inversion sent
    obtain ⟨-, behind, -⟩ := place_behind order one
    rw [size] at has
    have below := enough fits byte has
    have given := place_given asked (order.trans (by omega)) two
    have place : slot.data2Offset.toNat + byte <
        slot.data2Offset.toNat + alignUp (fieldBytes request.data2) := Nat.add_lt_add_left below _
    rw [second]
    refine ⟨⟨(slot.data2Offset.toNat, alignUp (fieldBytes request.data2)), ?_, Nat.le_add_right _ _,
      place⟩, fun position waits older => ?_⟩
    · rw [mine, given.own]
      exact List.mem_append_right _ (.head _)
    · exact given.apart (Nat.le_add_right _ _) place (by omega) waits older

/-! ## One kind of call after the other -/

theorem has_ifAccepted {byte : Nat} :
    (answer.ifAccepted bytes).Has byte ↔ answer.accepts = true ∧ byte < bytes := by
  rw [OutputAnswer.ifAccepted, has_line]
  cases answer.accepts with
  | true => simp
  | false => simp

theorem has_textBytes {bufSize : Int32} {byte : Nat} (has : (answer.textBytes bufSize).Has byte) :
    byte < bufSize.toNatClampNeg :=
  (has_ifAccepted.mp has).2.trans_le (Nat.min_le_right ..)

/-- Every byte below a bound. -/
theorem line_inside {room : Nat} :
    (∀ byte, (line bytes).Has byte → byte < room) ↔ bytes ≤ room := by
  simp only [has_line]
  constructor
  · intro all
    by_contra more
    exact absurd (all room (Nat.lt_of_not_le more)) (Nat.lt_irrefl _)
  · intro few byte below
    exact below.trans_le few

theorem ifAccepted_inside {room : Nat} :
    (∀ byte, (answer.ifAccepted bytes).Has byte → byte < room) ↔
      (answer.accepts = true → bytes ≤ room) := by
  rw [OutputAnswer.ifAccepted, line_inside]
  cases answer.accepts with
  | true => simp
  | false => simp

/-- A negative size counts as none. -/
theorem clamp_of_negative {value : Int32} (negative : ¬ 0 ≤ value) : value.toNatClampNeg = 0 := by
  rw [Int32.le_iff_toInt_le, ← Int32.toNat_toInt] at *
  exact Int.toNat_of_nonpos (Int.le_of_lt (Int.lt_of_not_ge negative))

theorem clamp_le_sizeT {value : Int32} : value.toNatClampNeg ≤ (sizeT value).toNat := by
  by_cases positive : 0 ≤ value
  · rw [sizeT_toNat positive]
  · rw [clamp_of_negative positive]
    exact Nat.zero_le _

/-- The sizes of arrays of words do not run over. -/
theorem words_le {value : Int32} : value.toNatClampNeg * 4 ≤ (sizeT value * 4).toNat := by
  by_cases positive : 0 ≤ value
  · have bound := Int32.toInt_lt value
    have four : (4 : UInt64).toNat = 4 := rfl
    rw [UInt64.toNat_mul, sizeT_toNat positive, four, ← Int32.toNat_toInt, Nat.mod_eq_of_lt (by omega)]
  · rw [clamp_of_negative positive, Nat.zero_mul]
    exact Nat.zero_le _

theorem writesOwn_unsent (unsent : call.request = none) : WritesOwn call answer := by
  intro head tail slot _ sent
  rw [OutputCall.send, unsent] at sent
  cases sent

/-- A call that is given its block writes inside of it. -/
theorem writesOwn_block {size : UInt64} (asks : call.request = some (.only (.block size)))
    (plain : ∀ slot, outputOffset slot call = slot.dataOffset)
    (inside : ∀ byte, (written answer size.toUInt32 call).Has byte → byte < size.toNat) :
    WritesOwn call answer :=
  (writesOwn_only asks plain).mpr fun fits byte has =>
    (inside byte has).trans_le (le_alignUp fits.data)

theorem writesOwn_nothing (plain : ∀ slot, outputOffset slot call = slot.dataOffset)
    {field : OutputField} (asks : call.request = some (.only field))
    (nothing : ∀ byte, ¬ (written answer field.size call).Has byte) : WritesOwn call answer :=
  (writesOwn_only asks plain).mpr fun _ byte has => absurd has (nothing byte)

/-- The exact condition, for a call that asks for one range. -/
theorem only_iff (asks : call.request = some (.only field))
    (plain : ∀ slot, outputOffset slot call = slot.dataOffset)
    (enough : Fits (.only field) →
      ((∀ byte, (written answer field.size call).Has byte → byte < alignUp (fieldBytes field)) ↔
        AsksEnough answer call)) :
    WritesOwn call answer ↔ (Sent call → AsksEnough answer call) := by
  rw [writesOwn_only asks plain]
  constructor
  · rintro inside ⟨request, same, fits⟩
    cases asks.symm.trans same
    exact (enough fits).mp (inside fits)
  · intro holds fits
    exact (enough fits).mpr (holds ⟨_, asks, fits⟩)

/-- Arrays of names, with a check or without. -/
theorem names_own {n : Int32} (asks : call.request = some (.only (.block (sizeT n * 4))))
    (plain : ∀ slot, outputOffset slot call = slot.dataOffset)
    (writes : written answer (sizeT n * 4).toUInt32 call = answer.names n) :
    WritesOwn call answer := by
  refine writesOwn_block asks plain fun byte has => ?_
  rw [writes] at has
  exact (has_ifAccepted.mp has).2.trans_le words_le

theorem checkedNames_own {n : Int32} {names : Bool} (asks : call.request = namesRequest n names)
    (plain : ∀ slot, outputOffset slot call = slot.dataOffset)
    (writes : written answer (sizeT n * 4).toUInt32 call = answer.names n) :
    WritesOwn call answer := by
  rw [namesRequest] at asks
  split at asks
  · exact writesOwn_unsent asks
  · exact names_own asks plain writes

theorem text_own {bufSize : Int32} (asks : call.request = some (.only (.block (sizeT bufSize))))
    (plain : ∀ slot, outputOffset slot call = slot.dataOffset)
    (writes : written answer (sizeT bufSize).toUInt32 call = answer.textBytes bufSize) :
    WritesOwn call answer := by
  refine writesOwn_block asks plain fun byte has => ?_
  rw [writes] at has
  exact (has_textBytes has).trans_le clamp_le_sizeT

/-- What the handler makes of an array that is left out. -/
theorem bounded_iff {count : Int32} {present : Bool} {size : UInt64} {block : Strided}
    (asks : call.request = some (boundedRequest count present size))
    (plain : ∀ slot, outputOffset slot call = slot.dataOffset)
    (writes : ∀ size, written answer size call = if 0 < count then block else .nothing)
    (inside : ∀ byte, block.Has byte → byte < size.toNat)
    (enough : AsksEnough answer call ↔ (0 < count → present = true ∨ ∀ byte, ¬ block.Has byte)) :
    WritesOwn call answer ↔ (Sent call → AsksEnough answer call) := by
  rw [boundedRequest] at asks
  by_cases given : 0 < count ∧ present = true
  · rw [if_pos given] at asks
    refine only_iff asks plain fun fits => iff_of_true (fun byte has => ?_) ?_
    · rw [writes, if_pos given.1] at has
      exact (inside byte has).trans_le (le_alignUp fits.data)
    · exact enough.mpr fun _ => .inl given.2
  · rw [if_neg given] at asks
    refine only_iff asks plain fun _ => ?_
    rw [enough, writes]
    by_cases positive : 0 < count
    · rw [if_pos positive]
      have missing : ¬ present = true := fun there => given ⟨positive, there⟩
      have empty : (∀ byte, block.Has byte → byte < 0) ↔ ∀ byte, ¬ block.Has byte :=
        forall_congr' fun byte => imp_congr_right fun _ => iff_of_false (Nat.not_lt_zero _) id
      exact empty.trans ⟨fun none _ => .inr none, fun none => (none positive).resolve_left missing⟩
    · rw [if_neg positive]
      exact iff_of_true (fun byte has => absurd has not_has_nothing) fun sign => absurd sign positive

theorem clamp_pos {value : Int32} (positive : 0 < value) : 0 < value.toNatClampNeg := by
  have sign := Int32.lt_iff_toInt_lt.mp positive
  rw [← Int32.toNat_toInt]
  change 0 < value.toInt at sign
  omega

theorem noText_iff {bufSize : Int32} (positive : 0 < bufSize) :
    (∀ byte, ¬ (answer.textBytes bufSize).Has byte) ↔ answer.accepts = false := by
  have some := clamp_pos positive
  simp only [OutputAnswer.textBytes, has_ifAccepted]
  cases answer.accepts with
  | true =>
      refine iff_of_false (fun none => none 0 ⟨rfl, ?_⟩) (fun same => by cases same)
      omega
  | false => simp

theorem noArray_iff {count : Int32} (positive : 0 < count) :
    (∀ byte, ¬ (answer.ifAccepted (min answer.found count.toNatClampNeg * 4)).Has byte) ↔
      answer.accepts = false ∨ answer.found = 0 := by
  have some := clamp_pos positive
  simp only [has_ifAccepted]
  cases answer.accepts with
  | true =>
      simp only [true_and, Bool.true_eq_false, false_or]
      constructor
      · intro none
        have first := none 0
        omega
      · intro none byte
        omega
  | false => simp

/-- A number of values that only the driver knows. -/
theorem values_iff {size : UInt64} {values : Nat} (asks : call.request = some (.only (.block size)))
    (plain : ∀ slot, outputOffset slot call = slot.dataOffset)
    (writes : written answer size.toUInt32 call = answer.ifAccepted values)
    (enough : AsksEnough answer call ↔ (answer.accepts = true → values ≤ alignUp size.toNat)) :
    WritesOwn call answer ↔ (Sent call → AsksEnough answer call) := by
  refine only_iff asks plain fun _ => ?_
  rw [enough]
  change (∀ byte, (written answer size.toUInt32 call).Has byte → _) ↔ _
  rw [writes]
  exact ifAccepted_inside

theorem glReadPixels_iff {pixels : ReadPixels} {pixelPackBuffer : UInt32} :
    WritesOwn (.glReadPixels pixels pixelPackBuffer) answer ↔
      (Sent (.glReadPixels pixels pixelPackBuffer) →
        AsksEnough answer (.glReadPixels pixels pixelPackBuffer)) := by
  by_cases bound : pixelPackBuffer = 0
  · have asks : (OutputCall.glReadPixels pixels pixelPackBuffer).request =
        some (.only (.block pixels.pixBytes)) := if_neg (not_not.mpr bound)
    refine only_iff asks (fun _ => rfl) fun fits => ?_
    have small : pixels.pixBytes.toNat ≤ glesBridgeDataSize := fits.data
    have zero : pixels.pixBytes.toUInt32 = 0 ↔ pixels.pixBytes = 0 := by
      have limit : glesBridgeDataSize < 2 ^ 32 := by decide
      rw [← UInt32.toNat_inj, ← UInt64.toNat_inj, UInt64.toNat_toUInt32, Nat.mod_eq_of_lt (by omega)]
      exact Iff.rfl
    change (∀ byte, (if pixels.pixBytes.toUInt32 = 0 then .nothing
        else packBlock answer.store answer.pixel pixels : Strided).Has byte →
      byte < alignUp pixels.pixBytes.toNat) ↔ _
    simp only [zero, AsksEnough, bound, true_imp_iff]
    by_cases none : pixels.pixBytes = 0
    · rw [if_pos none]
      exact iff_of_true (fun byte has => absurd has not_has_nothing) fun some => absurd none some
    · rw [if_neg none]
      constructor
      · intro inside _ nonempty
        have last := inside _ (Strided.has_of_not_empty nonempty)
        omega
      · intro enough byte has
        exact has.lt_stop.trans_le (enough none has.not_empty)
  · have asks : (OutputCall.glReadPixels pixels pixelPackBuffer).request =
        some (.only ⟨none, pixels.pixels.toUInt32, 0⟩) := if_pos bound
    refine iff_of_true (writesOwn_nothing (fun _ => rfl) asks fun _ => not_has_nothing) fun _ zero => ?_
    exact absurd zero bound

/-- A size of configs, whole words. -/
theorem alignUp_words {size : UInt32} (small : size.toUInt64.toNat ≤ glesBridgeDataSize)
    (words : size.toNat % 4 = 0) : alignUp size.toUInt64.toNat = size.toNat := by
  rw [UInt32.toNat_toUInt64] at small ⊢
  rw [alignUp_eq (by simp only [glesBridgeDataSize] at small; omega)]
  omega

theorem words_mod (count : UInt32) : (count * 4).toNat % 4 = 0 := by
  rw [UInt32.toNat_mul]
  change count.toNat * 4 % 4294967296 % 4 = 0
  omega

/-- The configs that are written against the words that are asked for. -/
theorem configs_inside {size : UInt32} {count : Nat}
    (small : size.toUInt64.toNat ≤ glesBridgeDataSize) (words : size.toNat % 4 = 0) :
    (∀ byte, (line (count * 4)).Has byte → byte < alignUp size.toUInt64.toNat) ↔
      count ≤ size.toNat / 4 := by
  rw [line_inside, alignUp_words small words]
  omega

theorem configCount_of_not_pos {size : Int32} (none : ¬ 0 < size) : configCount answer size = 0 := by
  have clamped : size.toNatClampNeg = 0 := by
    rw [Int32.lt_iff_toInt_lt] at none
    rw [← Int32.toNat_toInt]
    exact Int.toNat_of_nonpos (Int.le_of_not_gt none)
  rw [configCount, clamped, Nat.zero_min, Nat.min_zero]
  exact ite_self 0

theorem eglGetConfigs_iff {configs : Bool} {configSize : Int32} :
    WritesOwn (.eglGetConfigs configs configSize) answer ↔
      (Sent (.eglGetConfigs configs configSize) →
        AsksEnough answer (.eglGetConfigs configs configSize)) := by
  have inside {room : Nat} : (∀ byte, (if 0 < configSize then line (configCount answer configSize * 4)
        else .nothing : Strided).Has byte → byte < room) ↔
      ∀ byte, (line (configCount answer configSize * 4)).Has byte → byte < room := by
    by_cases positive : 0 < configSize
    · rw [if_pos positive]
    · rw [if_neg positive, configCount_of_not_pos positive]
      exact iff_of_true (fun byte has => absurd has not_has_nothing)
        fun byte has => absurd (has_line.mp has) (Nat.not_lt_zero _)
  refine only_iff rfl (fun _ => rfl) fun fits => inside.trans ?_
  cases configs with
  | true => exact configs_inside fits.data (words_mod _)
  | false =>
      change _ ↔ configCount answer configSize ≤ 0
      rw [line_inside]
      change _ ≤ alignUp 0 ↔ _
      rw [alignUp_zero]
      omega

/-- A list of attributes is an odd number of words, so never the whole arena. -/
theorem attribList_short {pairs : Option Nat} :
    alignUp (attribListBytes pairs).toNat ≠ glesBridgeDataSize := by
  have bound := (attribListBytes pairs).toNat_lt
  cases pairs with
  | none => decide
  | some pairs =>
      have bytes : (attribListBytes (some pairs)).toNat = (2 * pairs + 1) % 4294967296 * 4 % 4294967296 := by
        rw [attribListBytes, UInt32.toNat_mul, UInt32.toNat_ofNat']
        rfl
      have size : glesBridgeDataSize = 67108864 := rfl
      rw [alignUp_eq (by omega), bytes, size]
      omega

theorem eglChooseConfig_iff {pairs : Option Nat} {configs : Bool} {configSize : Int32} :
    WritesOwn (.eglChooseConfig pairs configs configSize) answer ↔
      (Sent (.eglChooseConfig pairs configs configSize) →
        AsksEnough answer (.eglChooseConfig pairs configs configSize)) := by
  cases configs with
  | false =>
      refine iff_of_true (fun head tail slot _ _ place writes => ?_) fun _ absent => (nomatch absent)
      obtain ⟨byte, has, -⟩ := writes
      exact absurd has not_has_nothing
  | true =>
      have data : fieldBytes (if attribListBytes pairs ≠ 0 then
          .block (attribListBytes pairs).toUInt64 else .unused) = (attribListBytes pairs).toNat := by
        split
        · exact UInt32.toNat_toUInt64 _
        · rename_i none
          rw [not_not.mp none]
          rfl
      rw [writesOwn_second rfl (fun _ => rfl) rfl (by rw [data]; exact attribList_short)]
      constructor
      · rintro inside ⟨request, same, fits⟩ _
        cases same
        exact (configs_inside fits.data2 (words_mod _)).mp (inside fits)
      · intro enough fits
        exact (configs_inside fits.data2 (words_mod _)).mpr (enough ⟨_, rfl, fits⟩ rfl)

/-- A call that has its answer put into the arena writes to its own range and to no
other, exactly where it is not sent or asks for enough. -/
theorem writesOwn_iff (call : OutputCall) (answer : OutputAnswer) :
    WritesOwn call answer ↔ (Sent call → AsksEnough answer call) := by
  have always (own : WritesOwn call answer) (enough : AsksEnough answer call) :
      WritesOwn call answer ↔ (Sent call → AsksEnough answer call) :=
    iff_of_true own fun _ => enough
  cases call with
  | glGenTextures n => exact always (names_own rfl (fun _ => rfl) rfl) trivial
  | glGenBuffers n buffers => exact always (checkedNames_own rfl (fun _ => rfl) rfl) trivial
  | glGenFramebuffers n fbs => exact always (checkedNames_own rfl (fun _ => rfl) rfl) trivial
  | glGenRenderbuffers n rbs => exact always (checkedNames_own rfl (fun _ => rfl) rfl) trivial
  | glGetTexParameterfv pname =>
      refine always (writesOwn_block rfl (fun _ => rfl) fun byte has => ?_) trivial
      have below := (has_ifAccepted.mp has).2
      split at below <;> simp_all
  | glGetTexParameteriv pname =>
      refine always (writesOwn_block rfl (fun _ => rfl) fun byte has => ?_) trivial
      have below := has_line.mp has
      split at below <;> simp_all
  | glGetBufferParameteriv => exact always (writesOwn_block rfl (fun _ => rfl) fun _ => has_line.mp) trivial
  | glGetShaderInfoLog bufSize infoLog =>
      refine bounded_iff rfl (fun _ => rfl) (fun _ => rfl)
        (fun byte has => (has_textBytes has).trans_le clamp_le_sizeT) ?_
      exact imp_congr_right fun positive => or_congr_right (noText_iff positive).symm
  | glGetShaderSource bufSize source =>
      refine bounded_iff rfl (fun _ => rfl) (fun _ => rfl)
        (fun byte has => (has_textBytes has).trans_le clamp_le_sizeT) ?_
      exact imp_congr_right fun positive => or_congr_right (noText_iff positive).symm
  | glGetShaderPrecisionFormat =>
      exact always (writesOwn_block rfl (fun _ => rfl) fun _ => has_line.mp) trivial
  | glGetProgramInfoLog bufSize => exact always (text_own rfl (fun _ => rfl) rfl) trivial
  | glGetAttachedShaders maxCount shaders =>
      refine bounded_iff rfl (fun _ => rfl) (fun _ => rfl) (fun byte has => ?_) ?_
      · have below := (has_ifAccepted.mp has).2
        exact (below.trans_le (Nat.mul_le_mul_right 4 (Nat.min_le_right ..))).trans_le words_le
      · exact imp_congr_right fun positive => or_congr_right (noArray_iff positive).symm
  | glGetActiveUniform bufSize =>
      refine always (writesOwn_block rfl (fun _ => rfl) fun byte has => ?_) trivial
      have below := has_textBytes has
      by_cases positive : 0 < bufSize
      · rw [if_pos positive]
        exact below.trans_le clamp_le_sizeT
      · rw [Int32.lt_iff_toInt_lt] at positive
        rw [← Int32.toNat_toInt] at below
        change ¬ 0 < bufSize.toInt at positive
        omega
  | glGetActiveAttrib bufSize => exact always (text_own rfl (fun _ => rfl) rfl) trivial
  | glGetUniformfv =>
      refine always (writesOwn_block rfl (fun _ => rfl) fun byte has => ?_) trivial
      have below := (has_ifAccepted.mp has).2
      have few := answer.componentsBound
      change byte < 64
      omega
  | glGetUniformiv =>
      refine values_iff rfl (fun _ => rfl) rfl (imp_congr_right fun _ => ?_)
      change _ ↔ answer.components * 4 ≤ 4 * 4
      exact (Nat.mul_le_mul_right_iff (by decide)).symm
  | glGetVertexAttribfv pname =>
      refine always (writesOwn_block rfl (fun _ => rfl) fun byte has => ?_) trivial
      have below := (has_ifAccepted.mp has).2
      change byte < 16
      split at below <;> omega
  | glGetVertexAttribiv pname =>
      refine always (writesOwn_block rfl (fun _ => rfl) fun byte has => ?_) trivial
      have below := (has_ifAccepted.mp has).2
      split at below <;> simp_all
  | glGetBooleanv => exact values_iff rfl (fun _ => rfl) rfl Iff.rfl
  | glGetFloatv =>
      refine values_iff rfl (fun _ => rfl) rfl (imp_congr_right fun _ => ?_)
      change _ ↔ answer.found * 4 ≤ 32 * 4
      exact (Nat.mul_le_mul_right_iff (by decide)).symm
  | glGetIntegerv =>
      refine values_iff rfl (fun _ => rfl) rfl (imp_congr_right fun _ => ?_)
      change _ ↔ answer.found * 4 ≤ 32 * 4
      exact (Nat.mul_le_mul_right_iff (by decide)).symm
  | glReadPixels pixels pixelPackBuffer => exact glReadPixels_iff
  | glGetProgramBinary bufSize =>
      refine always (writesOwn_block rfl (fun _ => rfl) fun byte has => ?_) trivial
      have below := (has_ifAccepted.mp has).2
      refine Nat.lt_of_lt_of_le ?_ clamp_le_sizeT
      split at below <;> omega
  | glMapBufferRange length access =>
      by_cases reads : access &&& glMapReadBit ≠ 0
      · have asks : (OutputCall.glMapBufferRange length access).request =
            some (.only (.block length.toUInt64)) := if_pos reads
        refine always (writesOwn_block asks (fun _ => rfl) fun byte has => ?_) trivial
        change Strided.Has (if access &&& glMapReadBit ≠ 0 then _ else _) byte at has
        rw [if_pos reads] at has
        exact (has_ifAccepted.mp has).2.trans_le (Nat.mod_le ..)
      · have asks : (OutputCall.glMapBufferRange length access).request = some (.only .unused) :=
          if_neg reads
        refine always (writesOwn_nothing (fun _ => rfl) asks fun byte has => ?_) trivial
        change Strided.Has (if access &&& glMapReadBit ≠ 0 then _ else _) byte at has
        rw [if_neg reads] at has
        exact not_has_nothing has
  | eglGetConfigs configs configSize => exact eglGetConfigs_iff
  | eglChooseConfig pairs configs configSize => exact eglChooseConfig_iff

/-- A driver with a pack state that has not been touched, and one config. -/
def oneConfig : OutputAnswer where
  accepts := true
  stored := 0
  found := 1
  components := 0
  componentsBound := Nat.zero_le _
  store := .initial
  pixel := none

/-- `eglGetConfigs` with a size but without an array: the handler writes the config over
the first bytes of the arena. -/
theorem absentConfigs_written : ¬ WritesOwn (.eglGetConfigs false 1) oneConfig := by
  intro own
  have mine := own 0 0 ⟨0, 4, 0, 0, []⟩ (Nat.le_refl _) rfl 0 ⟨0, by decide, rfl⟩
  obtain ⟨range, member, -⟩ := mine.1
  cases member

end GlesBridge.Args
