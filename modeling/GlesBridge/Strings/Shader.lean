import GlesBridge.Draw.Arena
import GlesBridge.Strings.Codec

namespace GlesBridge.Strings

open GlesBridge.Draw GlesBridge.Shared GlesBridge.Stub GlesBridge.Proxy GlesBridge.Systems
  GlesBridge.Systems.Reading GlesBridge.Upload

/-! The source texts of a shader on their way to the driver. -/

/-- What GL takes of a text: as much as its length says, or up to the terminator. -/
def text : Option ShaderString → List UInt8
  | none => []
  | some string =>
      match string.length with
      | some given =>
          if 0 ≤ given then string.bytes.take given.toNatClampNeg
          else string.bytes.takeWhile (· ≠ 0)
      | none => string.bytes.takeWhile (· ≠ 0)

/-- The same shader, the same number of texts, and the same source. -/
structure SourceKept (call : ShaderCall) (source : ShaderSource) : Prop where
  shader : source.shader = call.shader
  count : source.count = call.count
  source : source.texts.flatten = (call.strings.map text).flatten

/-- The count is not negative and at most 32, of 32 texts the last is empty, and a
text has fewer than 2^32 bytes. -/
structure TextsFit (call : ShaderCall) : Prop where
  nonneg : 0 ≤ call.count
  few : call.strings.length ≤ 32
  small : ∀ string ∈ call.strings.take 31, (text string).length < 4294967296
  last : ∀ string ∈ call.strings.drop 31, text string = []

/-! ## One text -/

/-- As much of a text as the stub copies. -/
def copied : Option ShaderString → List UInt8
  | none => []
  | some string => string.bytes.take string.len.toNat

section

variable {stub after : UploadStub} {call : ShaderCall} {slot words : SlotWords}
  {string : Option ShaderString} {strings : List (Option ShaderString)} {name : List UInt8}
  {metadata : UInt32 × UInt32} {listed : List (UInt32 × UInt32)} {offset : UInt32} {buf : List UInt8}
  {size : UInt64}

theorem take_strlen : name.take (strlen name) = name.takeWhile (· ≠ 0) :=
  (List.prefix_iff_eq_take.mp (List.takeWhile_prefix _)).symm

theorem take_mod :
    name.take (strlen name % 4294967296) <+: name.takeWhile (· ≠ 0) ∧
      (name.take (strlen name % 4294967296) = name.takeWhile (· ≠ 0) ↔
        (name.takeWhile (· ≠ 0)).length < 4294967296) := by
  have short : strlen name % 4294967296 ≤ strlen name := Nat.mod_le ..
  have within : strlen name ≤ name.length := (List.takeWhile_prefix _).length_le
  rw [← take_strlen]
  refine ⟨(List.take_prefix_take_left short), ?_⟩
  rw [List.length_take, Nat.min_eq_left within]
  constructor
  · intro same
    have lengths := congrArg List.length same
    rw [List.length_take, List.length_take, Nat.min_eq_left within,
      Nat.min_eq_left (short.trans within)] at lengths
    omega
  · intro small
    rw [Nat.mod_eq_of_lt small]

theorem copied_spec (string : Option ShaderString) :
    copied string <+: text string ∧
      (copied string = text string ↔ (text string).length < 4294967296) := by
  cases string with
  | none => exact ⟨List.prefix_rfl, iff_of_true rfl (by decide)⟩
  | some string =>
      obtain ⟨bytes, length, inside⟩ := string
      have implicit : (UInt32.ofNat (strlen bytes)).toNat = strlen bytes % 4294967296 :=
        UInt32.toNat_ofNat'
      cases length with
      | none =>
          simp only [copied, text, ShaderString.len, implicit]
          exact take_mod
      | some given =>
          by_cases explicit : 0 ≤ given
          · have size : given.toUInt32.toNat = given.toNatClampNeg :=
              Int32.toNat_toUInt32_of_le explicit
            have small := given.toNatClampNeg_lt
            simp only [copied, text, ShaderString.len, if_pos explicit, size]
            refine ⟨List.prefix_rfl, iff_of_true trivial ?_⟩
            rw [List.length_take]
            omega
          · simp only [copied, text, ShaderString.len, if_neg explicit, implicit]
            exact take_mod

/-! ## The texts in the arena -/

/-- A text has its copy where the metadata says. -/
def Sent (stub : UploadStub) (string : Option ShaderString) (metadata : UInt32 × UInt32) : Prop :=
  Placed stub metadata.1 metadata.2.toNat ∧ sourceText stub.arena metadata = copied string ∨
    metadata = (0, 0) ∧ copied string = []

theorem blockWrite_grows (order : stub.tail ≤ stub.head)
    (written : stub.blockWrite buf size = some (after, offset)) :
    Grows stub after ∧ Placed after offset size.toNat ∧
      ∀ place < size.toNat, after.arena (offset.toNat + place) = buf.getD place 0 := by
  obtain ⟨⟨next, start⟩, placed, shape⟩ := Option.map_eq_some_iff.mp written
  obtain ⟨-, -, -, head, rfl⟩ := ringDataAlloc_place placed
  cases shape
  obtain ⟨grown, there⟩ := grows_of_write order placed
    (Ring.writeBytes stub.arena offset.toNat size.toNat fun place => buf.getD place 0) stub.reads
    fun place outside => if_neg fun inside => by omega
  refine ⟨grown, there, fun place below => ?_⟩
  have inside : offset.toNat ≤ offset.toNat + place ∧
      offset.toNat + place < offset.toNat + size.toNat := by omega
  exact (if_pos inside).trans (by rw [Nat.add_sub_cancel_left])

theorem Sent.grows (sent : Sent stub string metadata) (grown : Grows stub after) :
    Sent after string metadata := by
  rcases sent with ⟨placed, text⟩ | none
  · refine .inl ⟨placed.grows grown, ?_⟩
    rw [← text]
    unfold sourceText
    split_ifs
    · rfl
    · refine List.map_congr_left fun place member => ?_
      exact grown.kept _ _ placed place (List.mem_range.mp member)
  · exact .inr none

/-- The block of a text has room for no more than the text has. -/
theorem len_le (given : ShaderString) : given.len.toNat ≤ given.bytes.length := by
  obtain ⟨bytes, length, inside⟩ := given
  have implicit : (UInt32.ofNat (strlen bytes)).toNat ≤ bytes.length := by
    rw [UInt32.toNat_ofNat']
    exact (Nat.mod_le ..).trans (List.takeWhile_prefix _).length_le
  cases length with
  | none => exact implicit
  | some given =>
      by_cases explicit : 0 ≤ given
      · simp only [ShaderString.len, if_pos explicit]
        rw [Int32.toNat_toUInt32_of_le explicit]
        exact inside given rfl explicit
      · simp only [ShaderString.len, if_neg explicit]
        exact implicit

theorem writeText_sent (order : stub.tail ≤ stub.head)
    (written : stub.writeText string = some (after, metadata)) :
    Grows stub after ∧ Sent after string metadata := by
  cases string with
  | none =>
      cases written
      exact ⟨Grows.refl _, .inr ⟨rfl, rfl⟩⟩
  | some given =>
      obtain ⟨⟨next, offset⟩, block, shape⟩ := Option.map_eq_some_iff.mp written
      cases shape
      obtain ⟨grown, placed, bytes⟩ := blockWrite_grows order block
      have wide : given.len.toUInt64.toNat = given.len.toNat := UInt32.toNat_toUInt64 _
      rw [wide] at placed bytes
      refine ⟨grown, .inl ⟨placed, ?_⟩⟩
      have within := len_le given
      have read : Ring.readBytes after.arena offset.toNat given.len.toNat = copied (some given) := by
        refine List.ext_getElem ?_ fun place below also => ?_
        · simp [Ring.readBytes, copied, within]
        · have small : place < given.len.toNat := by simpa [Ring.readBytes] using below
          have reads : (Ring.readBytes after.arena offset.toNat given.len.toNat)[place] =
              after.arena (offset.toNat + place) := by
            simp [Ring.readBytes]
          have takes : (copied (some given))[place] = given.bytes[place] := by
            simp [copied]
          rw [reads, takes, bytes place small, List.getD_eq_getElem?_getD,
            List.getElem?_eq_getElem (small.trans_le within), Option.getD_some]
      unfold sourceText
      split_ifs with null
      · rw [← read, show given.len = 0 from null.2]
        rfl
      · exact read

/-- The texts that are sent are there in the end. -/
theorem writeTexts_sent (order : stub.tail ≤ stub.head)
    (written : stub.writeTexts strings = some (after, listed)) :
    Grows stub after ∧ List.Forall₂ (Sent after) strings listed := by
  induction strings generalizing stub listed with
  | nil =>
      cases written
      exact ⟨Grows.refl _, .nil⟩
  | cons string rest ih =>
      obtain ⟨⟨next, metadata⟩, first, tail⟩ := Option.bind_eq_some_iff.mp written
      obtain ⟨⟨last, others⟩, more, shape⟩ := Option.map_eq_some_iff.mp tail
      cases shape
      obtain ⟨grown, sent⟩ := writeText_sent order first
      obtain ⟨later, all⟩ := ih (grown.order order) more
      exact ⟨grown.trans later, .cons (sent.grows later) all⟩

theorem sourceText_sent (sent : Sent stub string metadata) :
    sourceText stub.arena metadata = copied string := by
  rcases sent with ⟨-, text⟩ | ⟨rfl, empty⟩
  · exact text
  · exact empty.symm

theorem map_sourceText (all : List.Forall₂ (Sent stub) strings listed) :
    listed.map (sourceText stub.arena) = strings.map copied := by
  induction all with
  | nil => rfl
  | cons first _ ih => rw [List.map_cons, List.map_cons, sourceText_sent first, ih]

/-! ## The slot -/

/-- The slot as it is sent, from the metadata of the texts. -/
def filled (call : ShaderCall) (listed : List (UInt32 × UInt32)) (slot : SlotWords) : SlotWords :=
  let slot := Function.update (Function.update slot 0 call.shader) 1 call.count.toUInt32
  let slot := storePairs id 2 (List.replicate call.strings.length (0, 0)) slot
  let slot := Function.update (storePairs id 2 listed slot) 64 (.ofNat (8 + 8 * call.strings.length))
  Function.update (Function.update slot 65 0) 66 0

theorem filled_front {place : Nat} (front : place < 2) :
    filled call listed slot place =
      Function.update (Function.update slot 0 call.shader) 1 call.count.toUInt32 place := by
  have apart (spot : Nat) (above : 2 ≤ spot) : id spot ≠ place := fun same => by
    have equal : spot = place := same
    omega
  unfold filled
  rw [Function.update_of_ne (by omega), Function.update_of_ne (by omega),
    Function.update_of_ne (by omega), storePairs_of_ne fun spot above _ => apart spot above,
    storePairs_of_ne fun spot above _ => apart spot above]

/-- A text past the 31st has its pair where the length of the arguments and the
offset of the data are put in the end. -/
theorem filled_pairs (shape : listed.length = call.strings.length) (few : call.strings.length ≤ 32) :
    HoldsPairs (filled call listed slot) id 2
      (listed.take 31 ++ (listed.drop 31).map fun _ => (264, 0)) := by
  have stored : HoldsPairs (storePairs id 2 listed (storePairs id 2
      (List.replicate call.strings.length (0, 0))
      (Function.update (Function.update slot 0 call.shader) 1 call.count.toUInt32))) id 2
        (listed.take 31 ++ listed.drop 31) := by
    rw [List.take_append_drop]
    exact holdsPairs_storePairs Function.injective_id
  have length : (listed.take 31).length = min 31 listed.length := List.length_take
  rw [holdsPairs_append] at stored ⊢
  refine ⟨stored.1.congr fun place above below => ?_, ?_⟩
  · have before : id place < 64 := by
      change place < 64
      omega
    unfold filled
    rw [Function.update_of_ne (by omega), Function.update_of_ne (by omega),
      Function.update_of_ne (by omega)]
  · by_cases full : listed.length = 32
    · obtain ⟨last, single⟩ := List.length_eq_one_iff.mp
        (by rw [List.length_drop, full] : (listed.drop 31).length = 1)
      rw [single, length, full]
      have size : call.strings.length = 32 := shape ▸ full
      refine ⟨?_, ?_, trivial⟩
      · change filled call listed slot 64 = 264
        unfold filled
        rw [Function.update_of_ne (by decide), Function.update_of_ne (by decide),
          Function.update_self, size]
        rfl
      · change filled call listed slot 65 = 0
        unfold filled
        rw [Function.update_of_ne (by decide), Function.update_self]
    · have none : listed.drop 31 = [] := List.drop_eq_nil_of_le (by omega)
      rw [none]
      trivial

/-- The handler takes the counts from 0 to 32. -/
theorem shaderStrings_eq_iff :
    shaderStrings call.count = call.count ↔ 0 ≤ call.count ∧ call.strings.length ≤ 32 := by
  have size := call.counted
  by_cases negative : call.count < 0
  · rw [shaderStrings, if_pos negative]
    refine iff_of_false (fun same => ?_) fun both => Int32.not_lt.mpr both.1 negative
    rw [← same] at negative
    exact absurd negative (by decide)
  · have nonneg := Int32.not_lt.mp negative
    have value := Int32.cast_toNatClampNeg call.count nonneg
    have most : 32 < call.count ↔ 32 < call.strings.length := by
      rw [Int32.lt_iff_toInt_lt, ← value, size]
      exact Int.ofNat_lt
    rw [shaderStrings, if_neg negative, and_iff_right nonneg]
    by_cases many : 32 < call.count
    · rw [if_pos many]
      refine iff_of_false (fun same => ?_) fun few => absurd (most.mp many) (Nat.not_lt.mpr few)
      rw [← same] at many
      exact absurd many (by decide)
    · rw [if_neg many]
      exact iff_of_true rfl (Nat.not_lt.mp fun past => many (most.mpr past))

/-- What the handler makes of the slot, if the count is one that it accepts. -/
theorem source_eq (order : stub.tail ≤ stub.head)
    (sent : stub.glShaderSource call slot = some (after, words)) (nonneg : 0 ≤ call.count)
    (few : call.strings.length ≤ 32) :
    hGlShaderSource words after.arena =
      { shader := call.shader
        count := call.count
        texts := (call.strings.take 31).map copied ++ (call.strings.drop 31).map fun _ => [] } := by
  obtain ⟨⟨last, listed⟩, written, shape⟩ := Option.map_eq_some_iff.mp sent
  obtain rfl : last = after := congrArg Prod.fst shape
  obtain rfl : filled call listed slot = words := congrArg Prod.snd shape
  obtain ⟨-, all⟩ := writeTexts_sent order written
  have length := all.length_eq
  have shader : filled call listed slot 0 = call.shader := by
    rw [filled_front (by decide), Function.update_of_ne (by decide), Function.update_self]
  have count : (filled call listed slot 1).toInt32 = call.count := by
    rw [filled_front (by decide), Function.update_self]
    exact Int32.toInt32_toUInt32 _
  have accepted : shaderStrings call.count = call.count := shaderStrings_eq_iff.mpr ⟨nonneg, few⟩
  have held : HoldsPairs (filled call listed slot) id 2
      (listed.take 31 ++ (listed.drop 31).map fun _ => (264, 0)) := filled_pairs length.symm few
  have pairs := eval_pairs held
  have number : (listed.take 31 ++ (listed.drop 31).map fun _ => ((264, 0) : UInt32 × UInt32)).length =
      call.count.toNatClampNeg := by
    rw [List.length_append, List.length_map, ← List.length_append, List.take_append_drop, ← length,
      call.counted]
  have texts : listed.map (sourceText last.arena) = call.strings.map copied :=
    map_sourceText all
  have lost : (listed.drop 31).map (sourceText last.arena ∘ fun _ => (264, 0)) =
      (call.strings.drop 31).map fun _ => [] := by
    have none : (sourceText last.arena ∘ fun _ : UInt32 × UInt32 => (264, 0)) = fun _ => [] := rfl
    rw [none, List.map_const', List.map_const', List.length_drop, List.length_drop, length]
  rw [number] at pairs
  unfold hGlShaderSource
  dsimp only
  rw [count, shader, accepted, pairs, List.map_append, List.map_take, texts, ← List.map_take,
    List.map_map, lost]

/-! ## The whole source -/

/-- Beginnings have the concatenation of the wholes only if they are the wholes. -/
theorem flatten_eq_iff {firsts wholes : List (List UInt8)}
    (beginnings : List.Forall₂ (· <+: ·) firsts wholes) :
    firsts.flatten.length ≤ wholes.flatten.length ∧
      (firsts.flatten = wholes.flatten ↔ firsts = wholes) := by
  induction beginnings with
  | nil => exact ⟨Nat.le_refl _, iff_of_true rfl rfl⟩
  | cons first _ ih =>
      obtain ⟨rest, rfl⟩ := first
      obtain ⟨less, exact⟩ := ih
      rw [List.flatten_cons, List.flatten_cons]
      constructor
      · rw [List.length_append, List.length_append, List.length_append]
        omega
      · constructor
        · intro same
          have sizes := congrArg List.length same
          rw [List.length_append, List.length_append, List.length_append] at sizes
          have none : rest = [] := List.eq_nil_of_length_eq_zero (by omega)
          rw [none, List.append_nil] at same ⊢
          rw [exact.mp (List.append_cancel_left same)]
        · intro same
          obtain ⟨here, later⟩ := List.cons.inj same
          rw [← here, exact.mpr later]

theorem texts_eq_iff :
    ((strings.take 31).map copied ++ (strings.drop 31).map fun _ => []).flatten =
        (strings.map text).flatten ↔
      (∀ string ∈ strings.take 31, (text string).length < 4294967296) ∧
        ∀ string ∈ strings.drop 31, text string = [] := by
  have split : strings.map text = (strings.take 31).map text ++ (strings.drop 31).map text := by
    rw [← List.map_append, List.take_append_drop]
  have front : List.Forall₂ (· <+: ·) ((strings.take 31).map copied) ((strings.take 31).map text) := by
    rw [List.forall₂_map_left_iff, List.forall₂_map_right_iff, List.forall₂_same]
    exact fun string _ => (copied_spec string).1
  have back : List.Forall₂ (· <+: ·) ((strings.drop 31).map fun _ => [])
      ((strings.drop 31).map text) := by
    rw [List.forall₂_map_left_iff, List.forall₂_map_right_iff, List.forall₂_same]
    exact fun string _ => List.nil_prefix
  rw [split, (flatten_eq_iff (List.rel_append front back)).2]
  constructor
  · intro same
    have sizes : ((strings.take 31).map copied).length = ((strings.take 31).map text).length := by
      rw [List.length_map, List.length_map]
    obtain ⟨whole, none⟩ := List.append_inj same sizes
    refine ⟨fun string member => ?_, fun string member => ?_⟩
    · exact (copied_spec string).2.mp (List.map_inj_left.mp whole string member)
    · exact (List.map_inj_left.mp none string member).symm
  · rintro ⟨small, last⟩
    refine congrArg₂ (· ++ ·) (List.map_congr_left fun string member => ?_)
      (List.map_congr_left fun string member => (last string member).symm)
    exact (copied_spec string).2.mpr (small string member)

theorem count_eq (sent : stub.glShaderSource call slot = some (after, words)) :
    (hGlShaderSource words after.arena).count = shaderStrings call.count := by
  obtain ⟨⟨last, listed⟩, written, shape⟩ := Option.map_eq_some_iff.mp sent
  obtain rfl : filled call listed slot = words := congrArg Prod.snd shape
  have count : (filled call listed slot 1).toInt32 = call.count := by
    rw [filled_front (by decide), Function.update_self]
    exact Int32.toInt32_toUInt32 _
  exact congrArg shaderStrings count

/-- The driver gets the source that GL would form from the client's arguments,
exactly for calls whose texts fit. -/
theorem shader_source_iff (order : stub.tail ≤ stub.head)
    (sent : stub.glShaderSource call slot = some (after, words)) :
    SourceKept call (hGlShaderSource words after.arena) ↔ TextsFit call := by
  by_cases accepted : 0 ≤ call.count ∧ call.strings.length ≤ 32
  · have source := source_eq order sent accepted.1 accepted.2
    have exact : (hGlShaderSource words after.arena).texts.flatten =
        (call.strings.map text).flatten ↔
          (∀ string ∈ call.strings.take 31, (text string).length < 4294967296) ∧
            ∀ string ∈ call.strings.drop 31, text string = [] := by
      rw [source]
      exact texts_eq_iff
    constructor
    · intro kept
      obtain ⟨small, last⟩ := exact.mp kept.source
      exact ⟨accepted.1, accepted.2, small, last⟩
    · intro fits
      refine ⟨?_, ?_, exact.mpr ⟨fits.small, fits.last⟩⟩
      · rw [source]
      · rw [source]
  · refine iff_of_false (fun kept => ?_) fun fits => accepted ⟨fits.nonneg, fits.few⟩
    have same := kept.count
    rw [count_eq sent] at same
    exact accepted (shaderStrings_eq_iff.mp same)

/-- A text of one letter, several times. -/
def letters (count : Nat) (few : count = (Int32.ofNat count).toNatClampNeg) : ShaderCall where
  shader := 1
  count := .ofNat count
  strings := List.replicate count
    (some { bytes := [65], length := none, inside := fun _ given => nomatch given })
  counted := (List.length_replicate ..).trans few

theorem two_texts_kept :
    ∃ after words, (UploadStub.start .zero fun _ => 0).glShaderSource (letters 2 (by decide)) (fun _ => 0) =
        some (after, words) ∧
      SourceKept (letters 2 (by decide)) (hGlShaderSource words after.arena) := by
  have sends : ((UploadStub.start .zero fun _ => 0).glShaderSource (letters 2 (by decide))
      fun _ => 0).isSome = true := by decide +kernel
  obtain ⟨⟨after, words⟩, sent⟩ := Option.isSome_iff_exists.mp sends
  refine ⟨after, words, sent, (shader_source_iff (Nat.le_refl _) sent).mpr ?_⟩
  exact
    { nonneg := by decide
      few := by decide
      small := by decide
      last := by decide }

theorem letters_sent : ((UploadStub.start .zero fun _ => 0).glShaderSource
    (letters 32 (by decide)) fun _ => 0).isSome = true := by
  decide +kernel

/-- Of 32 letters the last is lost. -/
theorem last_text_lost :
    ∃ after words, (UploadStub.start .zero fun _ => 0).glShaderSource (letters 32 (by decide)) (fun _ => 0) =
        some (after, words) ∧
      ¬ SourceKept (letters 32 (by decide)) (hGlShaderSource words after.arena) := by
  let outcome := ((UploadStub.start .zero fun _ => 0).glShaderSource (letters 32 (by decide))
    fun _ => 0).get letters_sent
  refine ⟨outcome.1, outcome.2, (Option.some_get letters_sent).symm, fun kept => ?_⟩
  have got : (hGlShaderSource outcome.2 outcome.1.arena).texts.flatten.length = 31 := by
    decide +kernel
  have sent : ((letters 32 (by decide)).strings.map text).flatten.length = 32 := by decide +kernel
  rw [kept.source, sent] at got
  exact absurd got (by decide)

end

end GlesBridge.Strings
