import GlesBridge.Proxy.Decoding
import Mathlib.Data.List.Infix

namespace GlesBridge.Args

open GlesBridge.Data GlesBridge.Shared GlesBridge.Stub GlesBridge.Proxy

/-! Handlers with several `ar_*` calls in one call decode what was packed if the
arguments of the call are evaluated from the left to the right, and only then. -/

/-- Each argument of the handler is the one that was packed in its position. -/
def Delivered (words : List Word) (received : List (Nat × Word)) : Prop :=
  ∀ read ∈ received, words[read.1]? = some read.2

def packed (words : List Word) : List UInt8 := (words.foldl aw awInit).written

/-- What the handler gets, in a slot that holds other bytes behind the arguments. -/
def received (lists : ArgLists) (command : Command) (order : List Nat) (words : List Word)
    (stale : List UInt8) : List (Nat × Word) :=
  evaluate (reads lists command).flatten order (arInit (packed words ++ stale))

/-- The arguments that a dispatcher does not take from its caller. -/
def lead : Command → List Word
  | .invokeDynamic idx _ | .invokeDynamicEgl idx _ => [⟨4, idx.toBitVec⟩]
  | _ => []

/-- Evaluation in the given order delivers all that the entry point can pack. -/
def Decodes (lists : ArgLists) (command : Command) (order : List Nat) : Prop :=
  ∀ words : List Word, words.map Word.size = sizesOf (command.args lists) →
    lead command <+: words →
    ∀ stale, Delivered words (received lists command order words stale)

variable {words : List Word} {stale buf : List UInt8} {scalars : List Scalar}
  {expressions : Reads} {sizes order : List Nat} {pos start count : Nat} {lists : ArgLists}
  {command : Command}

/-! ## Orders that C allows -/

theorem Scalar.size_pos (scalar : Scalar) : 0 < scalar.size := by
  cases scalar <;> decide

theorem sizesOf_pos : ∀ size ∈ sizesOf scalars, 0 < size := by
  intro size member
  obtain ⟨scalar, _, same⟩ := List.mem_map.mp member
  exact same ▸ Scalar.size_pos scalar

theorem flatten_sequenced : (sequenced scalars).flatten = scalars := by
  induction scalars with
  | nil => rfl
  | cons scalar rest ih =>
      rw [sequenced, List.map_cons, List.flatten_cons]
      exact congrArg (scalar :: ·) ih

theorem Allowed.perm (allowed : Allowed start expressions order) :
    order.Perm (List.range' start expressions.flatten.length) := by
  induction expressions generalizing start order with
  | nil =>
      cases allowed
      exact .nil
  | cons scalars rest ih =>
      obtain ⟨first, later, same, permutes, allowed⟩ := allowed
      rw [same, List.flatten_cons, List.length_append, ← List.range'_append_1]
      exact permutes.append (ih allowed)

/-- Expressions with one read each leave no choice. -/
theorem Allowed.sequenced (allowed : Allowed start (Shared.sequenced scalars) order) :
    order = List.range' start scalars.length := by
  induction scalars generalizing start order with
  | nil => exact allowed
  | cons scalar rest ih =>
      obtain ⟨first, later, same, permutes, allowed⟩ := allowed
      rw [same, List.perm_singleton.mp permutes, ih allowed]
      rfl

/-! ## Reading the words back -/

theorem mem_of_readInOrder {read : Nat × List UInt8} (taken : read ∈ readInOrder buf sizes order pos) :
    read.1 ∈ order := by
  induction order generalizing pos with
  | nil => cases taken
  | cons index rest ih =>
      cases taken with
      | head => exact List.mem_cons_self ..
      | tail _ later => exact List.mem_cons_of_mem _ (ih later)

theorem evaluate_eq (agree : ∀ index ∈ order, (scalars.getD index .u32).size = sizes.getD index 0) :
    evaluate scalars order ⟨buf, pos⟩ =
      (readInOrder buf sizes order pos).map fun read => (read.1, Word.ofBytes read.2) := by
  induction order generalizing pos with
  | nil => rfl
  | cons index rest ih =>
      have here := agree index (List.mem_cons_self ..)
      rw [readInOrder, List.map_cons, ← here,
        ← ih fun other member => agree other (List.mem_cons_of_mem _ member)]
      rfl

theorem packed_eq : packed words = (words.map Word.bytes).flatten := written_foldl

theorem chunk_packed {index : Nat} (inside : index < words.length) :
    chunk (packed words ++ stale) (offset (words.map Word.size) index)
      ((words.map Word.size).getD index 0) = words[index].bytes := by
  have lengths : (words.map Word.bytes).map List.length = words.map Word.size := by
    rw [List.map_map]
    exact List.map_congr_left fun word _ => word.length_bytes
  have below : index < (words.map Word.bytes).length := by simpa using inside
  have piece : chunk ((words.map Word.bytes).flatten ++ stale) _ _ = _ := chunk_flatten below
  rwa [lengths, ← packed_eq, List.getElem_map] at piece

/-- The words are delivered where the bytes of each come in its place. -/
theorem delivered_iff (inside : ∀ index ∈ order, index < words.length) :
    Delivered words ((readInOrder (packed words ++ stale) (words.map Word.size) order pos).map
        fun read => (read.1, Word.ofBytes read.2)) ↔
      InPlace (packed words ++ stale) (words.map Word.size)
        (readInOrder (packed words ++ stale) (words.map Word.size) order pos) := by
  unfold Delivered InPlace
  rw [List.forall_mem_map]
  refine forall₂_congr fun read taken => ?_
  have below := inside _ (mem_of_readInOrder taken)
  rw [chunk_packed below, List.getElem?_eq_getElem below, Option.some.injEq]
  constructor
  · intro same
    rw [same, Word.bytes_ofBytes]
  · intro same
    rw [same, Word.ofBytes_bytes]

/-! ## What the handlers read is what was packed -/

theorem sizesOf_append {more : List Scalar} :
    sizesOf (scalars ++ more) = sizesOf scalars ++ sizesOf more := List.map_append

theorem sizesOf_repeated {n : Int32} :
    sizesOf (repeated n scalars) = (List.replicate n.toInt.toNat (sizesOf scalars)).flatten := by
  rw [sizesOf, repeated, List.map_flatten, List.map_replicate]
  rfl

theorem replicate_flatten_prefix {few many : Nat} {piece : List Nat} (fewer : few ≤ many) :
    (List.replicate few piece).flatten <+: (List.replicate many piece).flatten := by
  refine ⟨(List.replicate (many - few) piece).flatten, ?_⟩
  rw [← List.flatten_append, List.replicate_append_replicate, Nat.add_sub_cancel' fewer]

theorem shaderStrings_le {n : Int32} : (shaderStrings n).toInt.toNat ≤ n.toInt.toNat := by
  have none : (0 : Int32).toInt = 0 := rfl
  have most : (32 : Int32).toInt = 32 := rfl
  unfold shaderStrings
  split
  · rw [none]
    omega
  · split
    · rename_i large
      rw [Int32.lt_iff_toInt_lt, most] at large
      rw [most]
      omega
    · exact Nat.le_refl _

theorem gles2_prefix (function : Gles2Stub) :
    sizesOf (gles2Reads lists function).flatten <+: sizesOf (function.args lists) := by
  cases function
  case glShaderSource =>
    rw [gles2Reads, flatten_sequenced, Gles2Stub.args]
    simp only [sizesOf_append, List.prefix_append_right_inj, sizesOf_repeated]
    exact replicate_flatten_prefix shaderStrings_le
  case glDeleteRenderbuffers | glDrawArrays | glDrawElements =>
    rw [gles2Reads, flatten_sequenced, Gles2Stub.args]
  all_goals exact List.prefix_rfl

theorem gles32_prefix (function : Gles32Stub) (sent : function ≠ .glObjectLabel) :
    sizesOf (gles32Reads lists function).flatten <+: sizesOf (function.args lists) := by
  cases function
  case glObjectLabel => exact absurd rfl sent
  case glInvalidateFramebuffer => exact ⟨[4, 4, 4, 4], rfl⟩
  case glDeleteProgramPipelines | glDrawBuffers =>
    rw [gles32Reads, flatten_sequenced, Gles32Stub.args]
  all_goals exact List.prefix_rfl

theorem sizesOf_pairs {pairs : List (UInt64 × UInt64)} :
    sizesOf (pairs.flatMap fun _ => [.u64, .u64]) = (List.replicate pairs.length [8, 8]).flatten := by
  induction pairs with
  | nil => rfl
  | cons pair rest ih =>
      rw [List.flatMap_cons, sizesOf, List.map_append, List.length_cons, List.replicate_succ,
        List.flatten_cons, ← ih]
      rfl

/-- A list that ends early ends with the key of the pair behind it. -/
theorem pairs_prefix {few many : Nat} (fewer : few ≤ many) :
    (List.replicate few [8, 8]).flatten ++ [8] <+: (List.replicate many [8, 8]).flatten ++ [8] := by
  by_cases equal : few = many
  · rw [equal]
  · have key : (List.replicate few [8, 8]).flatten ++ [8] ++ [8] =
        (List.replicate (few + 1) [8, 8]).flatten := by
      rw [List.replicate_succ', List.flatten_append, List.append_assoc]
      rfl
    have longer : (List.replicate (few + 1) [8, 8]).flatten <+:
        (List.replicate many [8, 8]).flatten := replicate_flatten_prefix (by omega)
    exact ((List.prefix_append _ [8]).trans (key ▸ longer)).trans (List.prefix_append _ _)

theorem egl_prefix (function : EglStub) :
    sizesOf (eglReads lists function).flatten <+: sizesOf (function.args lists) := by
  cases function
  case eglCreateImageKHR =>
    have fewer : (readAttribs lists).length ≤ lists.attribs.length :=
      (List.takeWhile_prefix _).length_le
    rw [eglReads, flatten_sequenced, EglStub.args]
    simp only [sizesOf_append, List.append_assoc, List.prefix_append_right_inj, sizesOf_pairs]
    exact pairs_prefix fewer
  all_goals exact List.prefix_rfl

theorem reads_initial (published : command.publishes lists = true) :
    sizesOf (reads lists command).flatten <+: sizesOf (command.args lists) := by
  cases command with
  | gles2 function => exact gles2_prefix function
  | gles32 function =>
      exact gles32_prefix function fun same => by
        rw [same] at published
        cases published
  | glFlushMappedBufferRange => exact List.prefix_rfl
  | egl function => exact egl_prefix function
  | wlEgl function => cases function <;> exact List.prefix_rfl
  | wl message => cases message <;> exact List.prefix_rfl
  | invokeDynamic idx params | invokeDynamicEgl idx params =>
      rw [reads, List.flatten_cons, List.flatten_cons, List.flatten_nil, List.append_nil]
      exact List.prefix_rfl

/-! ## Evaluation in an order -/

theorem size_getD (prefixed : sizesOf scalars <+: sizes) {index : Nat}
    (inside : index < scalars.length) :
    (scalars.getD index .u32).size = sizes.getD index 0 := by
  obtain ⟨more, same⟩ := prefixed
  have below : index < (sizesOf scalars).length := by simpa [sizesOf] using inside
  rw [← same, List.getD_append _ _ _ _ below, List.getD_eq_getElem _ _ inside,
    List.getD_eq_getElem _ _ below]
  exact (List.getElem_map _).symm

theorem delivered_evaluate (prefixed : sizesOf scalars <+: words.map Word.size)
    (inside : ∀ index ∈ order, index < scalars.length) :
    Delivered words (evaluate scalars order ⟨packed words ++ stale, pos⟩) ↔
      InPlace (packed words ++ stale) (words.map Word.size)
        (readInOrder (packed words ++ stale) (words.map Word.size) order pos) := by
  have shorter : scalars.length ≤ words.length := by simpa [sizesOf] using prefixed.length_le
  rw [evaluate_eq fun index member => size_getD prefixed (inside index member)]
  exact delivered_iff fun index member => Nat.lt_of_lt_of_le (inside index member) shorter

theorem delivered_in_order (prefixed : sizesOf scalars <+: words.map Word.size) :
    Delivered words
      (evaluate scalars (List.range scalars.length) (arInit (packed words ++ stale))) := by
  have shorter : scalars.length ≤ (words.map Word.size).length := by
    simpa [sizesOf] using prefixed.length_le
  refine (delivered_evaluate prefixed fun index member => List.mem_range.mp member).mpr ?_
  rw [List.range_eq_range']
  have whole : 0 + scalars.length ≤ (words.map Word.size).length := by omega
  exact readInOrder_range whole

/-- Words of the given sizes whose bytes are the given ones. -/
def wordsOf (bytes : List UInt8) (sizes : List Nat) : List Word :=
  (split bytes sizes).map Word.ofBytes

theorem packed_wordsOf (whole : buf.length = sizes.sum) : packed (wordsOf buf sizes) = buf := by
  have bytes : (wordsOf buf sizes).map Word.bytes = split buf sizes := by
    rw [wordsOf, List.map_map]
    exact List.map_id'' (fun _ => Word.bytes_ofBytes) _
  rw [packed_eq, bytes, flatten_split whole]

theorem size_wordsOf (whole : buf.length = sizes.sum) :
    (wordsOf buf sizes).map Word.size = sizes := by
  rw [wordsOf, List.map_map]
  exact map_length_split whole

/-- An order that puts the words in their places, whichever they are behind a given
start, is the one from the left to the right. -/
theorem order_of_places (scalars : List Scalar) (head : List UInt8)
    (behind : head.length ≤ offset (sizesOf scalars) start)
    (permutes : order.Perm (List.range' start count)) (inside : start + count ≤ scalars.length)
    (places : ∀ words : List Word, words.map Word.size = sizesOf scalars → head <+: packed words →
      InPlace (packed words ++ []) (sizesOf scalars)
        (readInOrder (packed words ++ []) (sizesOf scalars) order (offset (sizesOf scalars) start))) :
    order = List.range' start count := by
  have different : (1 : UInt8) ≠ 0 := by decide
  apply order_eq_range different sizesOf_pos behind permutes (by simpa [sizesOf] using inside)
  intro rest whole
  have length : (head ++ rest).length = (sizesOf scalars).sum := by simpa using whole
  have placed := places (wordsOf (head ++ rest) (sizesOf scalars)) (size_wordsOf length)
    (by rw [packed_wordsOf length]; exact List.prefix_append _ _)
  rw [packed_wordsOf length] at placed
  exact ⟨[], placed⟩

/-! ## All commands -/

theorem decodes_in_order (published : command.publishes lists = true) :
    Decodes lists command (List.range (reads lists command).flatten.length) := by
  intro words sizes _ stale
  apply delivered_in_order
  rw [sizes]
  exact reads_initial published

/-- Where nothing is packed ahead of what the caller passes. -/
theorem order_of_decodes (published : command.publishes lists = true) (free : lead command = [])
    (permutes : order.Perm (List.range (reads lists command).flatten.length))
    (decodes : Decodes lists command order) :
    order = List.range (reads lists command).flatten.length := by
  have prefixed := reads_initial published
  have shorter := prefixed.length_le
  simp only [sizesOf, List.length_map] at shorter
  rw [List.range_eq_range'] at *
  refine order_of_places (command.args lists) [] (Nat.zero_le _) permutes
    (by omega) fun words sizes _ => ?_
  rw [← sizes] at prefixed ⊢
  refine (delivered_evaluate prefixed fun index member => ?_).mp
    (decodes words sizes (free ▸ List.nil_prefix) [])
  have bounds := List.mem_range'_1.mp (permutes.subset member)
  omega

/-- The index that a dispatcher packs is read first, in a statement of its own. -/
theorem dynamic_order {idx : UInt32} {params : List Scalar}
    (form : reads lists command = [[.u32], params]) (packs : command.args lists = .u32 :: params)
    (leads : lead command = [⟨4, idx.toBitVec⟩]) (allowed : Allowed 0 (reads lists command) order)
    (decodes : Decodes lists command order) :
    order = List.range (reads lists command).flatten.length := by
  rw [form] at allowed ⊢
  obtain ⟨first, later, same, head, rest⟩ := allowed
  have permutes := Allowed.perm rest
  rw [List.perm_singleton.mp head] at same
  have count : (List.flatten [params]).length = params.length := by simp
  rw [count] at permutes
  have later_order : later = List.range' 1 params.length := by
    refine order_of_places (.u32 :: params) (littleEndian 4 idx.toNat)
      (by rw [length_littleEndian]; exact Nat.le_refl 4) permutes
      (by rw [List.length_cons]; omega) fun words sizes led => ?_
    have leading : lead command <+: words := by
      cases words with
      | nil => cases sizes
      | cons word others =>
          have size := List.head_eq_of_cons_eq sizes
          obtain ⟨tail, behind⟩ := led
          rw [packed_eq, List.map_cons, List.flatten_cons] at behind
          have bytes := (List.append_inj behind (by
            rw [length_littleEndian, Word.length_bytes, size]
            rfl)).1
          have index : word = ⟨4, idx.toBitVec⟩ := Word.bytes_injective bytes.symm
          rw [leads, index]
          exact ⟨others, rfl⟩
    have delivered := decodes words (packs ▸ sizes) leading []
    rw [received, form, same] at delivered
    have flat : List.flatten [[Scalar.u32], params] = .u32 :: params := by simp
    rw [flat, arInit] at delivered
    have prefixed : sizesOf (.u32 :: params) <+: words.map Word.size := by rw [sizes]
    have placed := (delivered_evaluate prefixed fun index member => ?_).mp delivered
    · rw [sizes] at placed
      exact fun read taken => placed read (List.mem_cons_of_mem _ taken)
    · cases member with
      | head => exact Nat.zero_lt_succ _
      | tail _ member =>
          have bounds : 1 ≤ index ∧ index < 1 + params.length :=
            List.mem_range'_1.mp (permutes.subset member)
          rw [List.length_cons]
          omega
  rw [same, later_order, List.range_eq_range', List.flatten_cons, List.length_append, count,
    Nat.add_comm]
  rfl

/-- A handler decodes all that its entry point packs in exactly one of the orders that
C allows, that of the text. -/
theorem decodes_iff_in_order (command : Command) (lists : ArgLists) (order : List Nat)
    (published : command.publishes lists = true)
    (allowed : Allowed 0 (reads lists command) order) :
    Decodes lists command order ↔ order = List.range (reads lists command).flatten.length := by
  constructor
  · intro decodes
    cases form : command with
    | invokeDynamic idx params | invokeDynamicEgl idx params =>
        rw [form] at allowed decodes
        exact dynamic_order rfl rfl rfl allowed decodes
    | gles2 _ | gles32 _ | glFlushMappedBufferRange | egl _ | wlEgl _ | wl _ =>
        rw [form] at published allowed decodes
        have permutes := Allowed.perm allowed
        rw [← List.range_eq_range'] at permutes
        exact order_of_decodes published rfl permutes decodes
  · intro same
    rw [same]
    exact decodes_in_order published

/-- Lists of length zero. -/
def noLists : ArgLists where
  n := 0
  array := false
  count := 0
  sent _ := false
  attribList := []
  name := []
  unresolved := false

theorem viewport_in_order : Decodes noLists (.gles2 .glViewport) [0, 1, 2, 3] :=
  (decodes_iff_in_order (.gles2 .glViewport) noLists [0, 1, 2, 3] rfl
    ⟨[0, 1, 2, 3], [], rfl, .refl _, rfl⟩).mpr rfl

/-- `glViewport(1, 2, 3, 4)` reaches a driver whose handler evaluates from the right to
the left as `glViewport(4, 3, 2, 1)`. -/
theorem viewport_reversed :
    Allowed 0 (reads noLists (.gles2 .glViewport)) [3, 2, 1, 0] ∧
      received noLists (.gles2 .glViewport) [3, 2, 1, 0] [⟨4, 1⟩, ⟨4, 2⟩, ⟨4, 3⟩, ⟨4, 4⟩] [] =
        [(3, ⟨4, 1⟩), (2, ⟨4, 2⟩), (1, ⟨4, 3⟩), (0, ⟨4, 4⟩)] ∧
      ¬ Decodes noLists (.gles2 .glViewport) [3, 2, 1, 0] := by
  refine ⟨⟨[3, 2, 1, 0], [], rfl, by decide, rfl⟩, by decide, fun decodes => ?_⟩
  have first := decodes [⟨4, 1⟩, ⟨4, 2⟩, ⟨4, 3⟩, ⟨4, 4⟩] rfl List.nil_prefix [] (3, ⟨4, 1⟩)
    (by decide)
  exact absurd first (by decide)

end GlesBridge.Args
