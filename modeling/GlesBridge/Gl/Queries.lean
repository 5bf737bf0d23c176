import Mathlib.Algebra.GroupWithZero.Nat
import Mathlib.Data.Fin.Basic
import Mathlib.Data.List.GetD

namespace GlesBridge.Gl

/-! What a driver answers to queries with a size that the caller chooses. -/

/-- A `GLsizei` that is not negative. -/
abbrev Size := Fin 2147483648

/-- What the driver has for a query. -/
structure Answer where
  /-- The length of a name, a label or an info log. -/
  stored : Nat
  /-- The number of values. -/
  found : Nat
  /-- The length of a string that is asked for as a whole, unless that is `NULL`. -/
  string : Option Nat
  /-- The lengths of the messages in the debug log, each with its terminator. -/
  messages : List Nat
  terminated : ∀ length ∈ messages, 0 < length

/-- The length that comes with a text cut off to `bufSize` bytes, terminator included. -/
def Answer.length (answer : Answer) (bufSize : Size) : Nat := min answer.stored (bufSize.val - 1)

/-- How many of the values come. -/
def Answer.values (answer : Answer) (bufSize : Size) : Nat := min answer.found bufSize.val

/-- The messages that `glGetDebugMessageLog` takes from the log: at most `count`, with
texts that fit into `room` bytes. -/
def fetched : Nat → Nat → List Nat → List Nat
  | 0, _, _ => []
  | _, _, [] => []
  | count + 1, room, length :: rest =>
      if length ≤ room then length :: fetched count (room - length) rest else []

variable {count room : Nat} {messages : List Nat}

theorem fetched_length : (fetched count room messages).length ≤ count := by
  induction messages generalizing count room with
  | nil => cases count <;> simp [fetched]
  | cons length rest ih =>
      cases count with
      | zero => simp [fetched]
      | succ count =>
          rw [fetched]
          split
          · exact Nat.succ_le_succ ih
          · exact Nat.zero_le _

theorem fetched_sum : (fetched count room messages).sum ≤ room := by
  induction messages generalizing count room with
  | nil => cases count <;> simp [fetched]
  | cons length rest ih =>
      cases count with
      | zero => simp [fetched]
      | succ count =>
          rw [fetched]
          split
          · have later : (fetched count (room - length) rest).sum ≤ room - length := ih
            rw [List.sum_cons]
            omega
          · exact Nat.zero_le _

theorem length_le_sum (terminated : ∀ length ∈ messages, 0 < length) :
    messages.length ≤ messages.sum := by
  induction messages with
  | nil => exact Nat.le_refl _
  | cons length rest ih =>
      have here := terminated length (List.mem_cons_self ..)
      have later := ih fun other member => terminated other (List.mem_cons_of_mem _ member)
      rw [List.length_cons, List.sum_cons]
      omega

theorem mem_of_fetched {length : Nat} (taken : length ∈ fetched count room messages) :
    length ∈ messages := by
  induction messages generalizing count room with
  | nil => cases count <;> cases taken
  | cons head rest ih =>
      cases count with
      | zero => cases taken
      | succ count =>
          rw [fetched] at taken
          split at taken
          · cases taken with
            | head => exact List.mem_cons_self ..
            | tail _ later => exact List.mem_cons_of_mem _ (ih later)
          · cases taken

/-- Whole logs come if they are small enough. -/
theorem fetched_all (few : messages.length ≤ count) (small : messages.sum ≤ room) :
    fetched count room messages = messages := by
  induction messages generalizing count room with
  | nil => cases count <;> rfl
  | cons length rest ih =>
      cases count with
      | zero => cases few
      | succ count =>
          rw [List.sum_cons] at small
          rw [fetched, if_pos (by omega), ih (Nat.le_of_succ_le_succ few) (by omega)]

theorem fetched_initial : fetched count room messages <+: messages := by
  induction messages generalizing count room with
  | nil => cases count <;> exact List.nil_prefix
  | cons length rest ih =>
      cases count with
      | zero => exact List.nil_prefix
      | succ count =>
          rw [fetched]
          split
          · exact List.cons_prefix_cons.mpr ⟨rfl, ih⟩
          · exact List.nil_prefix

/-- All that `count` allows come exactly if they fit together. -/
theorem fetched_length_eq_iff :
    (fetched count room messages).length = min count messages.length ↔
      (messages.take count).sum ≤ room := by
  induction messages generalizing count room with
  | nil => cases count <;> simp [fetched]
  | cons length rest ih =>
      cases count with
      | zero => simp [fetched]
      | succ count =>
          rw [fetched, List.take_succ_cons, List.sum_cons, List.length_cons, Nat.add_min_add_right]
          by_cases fits : length ≤ room
          · rw [if_pos fits, List.length_cons, Nat.add_right_cancel_iff, ih]
            omega
          · rw [if_neg fits, List.length_nil]
            omega

/-! ## Texts -/

/-- What the client hands in with a query for a text: where `length` points to, unless
it is null, and the buffer. -/
structure TextClient where
  length : Option Int32
  buffer : Nat → UInt8

variable (text : List UInt8) (bufSize : Size)

/-- The length that the driver tells of a text, without the terminator. -/
def textLength : Nat := min text.length (bufSize.val - 1)

/-- The bytes that it writes. -/
def driverText : List UInt8 :=
  if bufSize.val = 0 then [] else text.take (bufSize.val - 1) ++ [0]

/-! ## The debug log -/

/-- The arrays that take a word of each message. -/
inductive LogArray where
  | sources | types | ids | severities | lengths
deriving DecidableEq, Repr

/-- A message, its text without the terminator; with it, a `GLsizei` tells its length. -/
structure DebugMessage where
  source : UInt32
  type : UInt32
  id : UInt32
  severity : UInt32
  text : List UInt8
  short : text.length + 1 < 2147483648

namespace DebugMessage

def length (message : DebugMessage) : Nat := message.text.length + 1

def bytes (message : DebugMessage) : List UInt8 := message.text ++ [0]

def word (message : DebugMessage) : LogArray → UInt32
  | .sources => message.source
  | .types => message.type
  | .ids => message.id
  | .severities => message.severity
  | .lengths => .ofNat message.length

end DebugMessage

/-- The arrays of a caller, and the place for the texts. -/
structure LogBuffers where
  words : LogArray → Nat → UInt32
  messageLog : Nat → UInt8

/-- Which of the pointers are not null. -/
structure LogPointers where
  array : LogArray → Bool
  messageLog : Bool

/-- The values in front, and behind them what the array holds. -/
def inFront {α : Type} (values : List α) (array : Nat → α) : Nat → α := fun place =>
  values.getD place (array place)

section

variable {α : Type} {done : List α} {value : α} {array : Nat → α}

@[simp] theorem inFront_nil : inFront [] array = array := rfl

theorem inFront_concat : inFront (done ++ [value]) array =
    Function.update (inFront done array) done.length value := by
  funext place
  unfold inFront
  rcases Nat.lt_trichotomy place done.length with below | rfl | above
  · rw [Function.update_of_ne (Nat.ne_of_lt below), List.getD_append _ _ _ _ below]
  · rw [Function.update_self, List.getD_append_right _ _ _ _ (Nat.le_refl _), Nat.sub_self]
    rfl
  · rw [Function.update_of_ne (Nat.ne_of_gt above),
      List.getD_eq_default _ _ (by rw [List.length_append, List.length_singleton]; omega),
      List.getD_eq_default _ _ (Nat.le_of_lt above)]

theorem inFront_inside {values : List α} {place : Nat} (inside : place < values.length) :
    inFront values array place = values[place] := List.getD_eq_getElem _ _ inside

end

/-- The messages one after the other into what is there of the arrays. -/
def LogBuffers.store (buffers : LogBuffers) (pointers : LogPointers) (messages : List DebugMessage) :
    LogBuffers where
  words array :=
    if pointers.array array then inFront (messages.map (·.word array)) (buffers.words array)
    else buffers.words array
  messageLog :=
    if pointers.messageLog then inFront (messages.flatMap (·.bytes)) buffers.messageLog
    else buffers.messageLog

/-- How many messages come. Without a place for texts `bufSize` is not looked at. -/
def logged (log : List DebugMessage) (count : UInt32) (bufSize : Size) (pointers : LogPointers) : Nat :=
  if pointers.messageLog then (fetched count.toNat bufSize.val (log.map (·.length))).length
  else min count.toNat log.length

/-- What the caller has after `glGetDebugMessageLog`, and what is left in the log. -/
@[ext] structure LogAnswer where
  num : UInt32
  buffers : LogBuffers
  log : List DebugMessage

def driverLog (log : List DebugMessage) (count : UInt32) (bufSize : Size) (pointers : LogPointers)
    (buffers : LogBuffers) : LogAnswer :=
  let num := logged log count bufSize pointers
  { num := .ofNat num
    buffers := buffers.store pointers (log.take num)
    log := log.drop num }

end GlesBridge.Gl
