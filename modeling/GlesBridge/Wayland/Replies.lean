import GlesBridge.Systems.Machine
import GlesBridge.Wayland.Area

namespace GlesBridge.Wayland

open GlesBridge.Proxy GlesBridge.Systems GlesBridge.Systems.Reading

/-! Threads that read their replies while others, or their own listeners, send commands. -/

variable {area : WlArea} {relay : WlRelay} {call : WlCall}
  {reading : Reading WlAddress UInt64 WlAnswer}

/-! ## A reply that nobody disturbs -/

theorem word_injective : Function.Injective WlAddress.word := fun _ _ same => by
  cases same
  rfl

theorem data_injective : Function.Injective WlAddress.data := fun _ _ same => by
  cases same
  rfl

theorem length_keyPairs_le : (keyPairs relay).length ≤ inputEvtMax := by
  rw [keyPairs, List.length_map]
  exact relay.inputEvts.bound

theorem length_statePairs_le : (statePairs relay).length ≤ proxySurfMax := by
  rw [statePairs, List.length_map, WlRelay.batch, List.length_map]
  refine Nat.le_trans (List.length_filter_le ..) ?_
  rw [List.length_finRange]

theorem word_ne_result {index : Nat} : WlAddress.word index ≠ .result := nofun

theorem dataSize_ne_result : WlAddress.dataSize ≠ .result := nofun

theorem data_ne_result {index : Nat} : WlAddress.data index ≠ .result := nofun

theorem data_ne_dataSize {index : Nat} : WlAddress.data index ≠ .dataSize := nofun

/-- A count of a reply fits its word. -/
theorem toNat_count {count bound : Nat} (below : count ≤ bound) (small : bound ≤ 4294967295) :
    (UInt64.ofNat count).toNat = count := by
  rw [UInt64.toNat_ofNat']
  exact Nat.mod_eq_of_lt (by omega)

section Roundtrip

/-- The area once the keys are written, and the states after them. -/
def keyed (relay : WlRelay) (area : WlArea) : WlArea :=
  storePairs .word 1 (keyPairs relay)
    (Function.update area (.word 0) (.ofNat (keyPairs relay).length))

def stated (relay : WlRelay) (area : WlArea) : WlArea :=
  storePairs .word (webosStateBase + 1) (statePairs relay) (keyed relay area)

theorem roundtrip_word {index : Nat} (apart : index ≠ webosStateBase) :
    hWlRoundtrip relay area (.word index) = stated relay area (.word index) := by
  have other : WlAddress.word index ≠ .word webosStateBase := fun same => apart (word_injective same)
  rw [hWlRoundtrip, Function.update_of_ne word_ne_result, Function.update_of_ne other]
  rfl

/-- The states stand behind the keys and their own count. -/
theorem stated_word {index : Nat} (below : index ≤ webosStateBase) :
    stated relay area (.word index) = keyed relay area (.word index) := by
  refine storePairs_of_ne fun place above _ same => ?_
  have equal := word_injective same
  omega

theorem roundtrip_count :
    hWlRoundtrip relay area (.word 0) = .ofNat (keyPairs relay).length := by
  rw [roundtrip_word (by decide), stated_word (by decide), keyed,
    storePairs_of_ne fun place above _ same => ?_, Function.update_self]
  exact absurd (word_injective same) (by omega)

theorem roundtrip_wssCount :
    hWlRoundtrip relay area (.word webosStateBase) = .ofNat (statePairs relay).length := by
  rw [hWlRoundtrip, Function.update_of_ne word_ne_result, Function.update_self]

theorem roundtrip_keys :
    HoldsPairs (hWlRoundtrip relay area) WlAddress.word 1 (keyPairs relay) := by
  have stored : HoldsPairs (keyed relay area) WlAddress.word 1 (keyPairs relay) :=
    holdsPairs_storePairs word_injective
  have size : (keyPairs relay).length ≤ 16 := length_keyPairs_le
  refine stored.congr fun place above below => ?_
  have before : place < webosStateBase := by
    change place < 33
    omega
  rw [roundtrip_word (Nat.ne_of_lt before), stated_word (Nat.le_of_lt before)]

theorem roundtrip_states :
    HoldsPairs (hWlRoundtrip relay area) WlAddress.word (webosStateBase + 1) (statePairs relay) := by
  have stored : HoldsPairs (stated relay area) WlAddress.word (webosStateBase + 1)
      (statePairs relay) := holdsPairs_storePairs word_injective
  refine stored.congr fun place above _ => ?_
  exact roundtrip_word (Nat.ne_of_gt above)

theorem eval_deliverInputEvents :
    deliverInputEvents.eval (hWlRoundtrip relay area) = .events (keyPairs relay) (statePairs relay) := by
  rw [deliverInputEvents, eval, roundtrip_count, toNat_count length_keyPairs_le (by decide), eval_bind,
    eval_pairs roundtrip_keys, eval, roundtrip_wssCount, toNat_count length_statePairs_le (by decide),
    eval_bind, eval_pairs roundtrip_states]
  rfl

end Roundtrip

theorem eval_text {index count : Nat} :
    (text index count).eval area = textWords (fun place => area (.word place)) index count := by
  induction count generalizing index with
  | zero => rfl
  | succ count ih =>
      rw [text, eval, textWords]
      split
      · rfl
      · rw [eval_bind, ih]
        rfl

theorem eval_words {index count : Nat} :
    (sequence WlAddress.word index count).eval area =
      (List.range' index count).map fun place => area (.word place) := by
  induction count generalizing index with
  | zero => rfl
  | succ count ih =>
      rw [Reading.sequence, eval, eval_bind, ih]
      rfl

theorem eval_connectReply {slot : UInt64} {words : Nat → UInt64} (made : slot ≠ 0) :
    connectReply.eval (hWlDisplayConnect slot words area) = answer (.connect slot words) := by
  have same : (fun place => hWlDisplayConnect slot words area (.word place)) = words :=
    funext fun place => if_neg made
  rw [connectReply, eval_bind, eval_bind, eval_words, eval_text, same]
  rfl

section Keymap

variable {format : UInt64} {keymap : Keymap}

theorem keymap_result :
    hWlGetKeymap format keymap area .result = if keymap.bytes = [] then 0 else format := by
  rw [hWlGetKeymap]
  split
  · exact Function.update_self ..
  · exact Function.update_self ..

theorem keymap_dataSize (found : keymap.bytes ≠ []) :
    hWlGetKeymap format keymap area .dataSize = .ofNat keymap.bytes.length := by
  rw [hWlGetKeymap, if_neg found, Function.update_of_ne dataSize_ne_result, Function.update_self]

theorem keymap_data (found : keymap.bytes ≠ []) :
    (sequence WlAddress.data 0 keymap.bytes.length).eval (hWlGetKeymap format keymap area) =
      keymap.bytes := by
  have stored : HoldsWords (storeWords WlAddress.data 0 keymap.bytes area) WlAddress.data 0
      keymap.bytes := holdsWords_storeWords data_injective
  refine eval_sequence (stored.congr fun place _ _ => ?_)
  rw [hWlGetKeymap, if_neg found, Function.update_of_ne data_ne_result,
    Function.update_of_ne data_ne_dataSize]

theorem eval_fetchProxyKeymap :
    fetchProxyKeymap.eval (hWlGetKeymap format keymap area) = answer (.getKeymap format keymap) := by
  by_cases found : keymap.bytes = []
  · have none : hWlGetKeymap format keymap area .result = 0 := keymap_result.trans (if_pos found)
    have other : (0 : UInt64) ≠ keymapFormatXkbV1 := by decide
    rw [answer, if_neg fun both => both.2 found, fetchProxyKeymap, eval, none, if_pos other]
    rfl
  · have result : hWlGetKeymap format keymap area .result = format :=
      keymap_result.trans (if_neg found)
    by_cases xkb : format = keymapFormatXkbV1
    · have length : (UInt64.ofNat keymap.bytes.length).toNat = keymap.bytes.length :=
        toNat_count keymap.bound (Nat.le_refl _)
      have some : UInt64.ofNat keymap.bytes.length ≠ 0 := fun zero => by
        rw [zero] at length
        exact found (List.length_eq_zero_iff.mp length.symm)
      rw [answer, if_pos ⟨xkb, found⟩, fetchProxyKeymap, eval, result, if_neg (not_not.mpr xkb), eval,
        keymap_dataSize found, if_neg some, eval, eval, keymap_dataSize found, length, eval_bind,
        keymap_data found, eval, keymap_dataSize found]
      rfl
    · rw [answer, if_neg fun both => xkb both.1, fetchProxyKeymap, eval, result, if_pos xkb]
      rfl

end Keymap

/-- A reader that is left alone finds what its command has answered. -/
theorem eval_reader (reads : reader call = some reading) :
    reading.eval (handled area call) = answer call := by
  cases call with
  | roundtrip relay =>
      cases reads
      exact eval_deliverInputEvents
  | connect slot words =>
      rw [reader] at reads
      split at reads
      · cases reads
      · rename_i made
        cases reads
        exact eval_connectReply made
  | getKeymap format keymap =>
      cases reads
      exact eval_fetchProxyKeymap
  | setProperty blob => cases reads
  | other result => cases reads

/-! ## Threads -/

abbrev ReplyReader : Type := Reader WlAddress UInt64 WlAnswer

/-- The replies that a thread still reads, that of its innermost dispatch first. -/
structure ReplyState (Thread : Type) where
  area : WlArea
  readers : Thread → List ReplyReader

/-- A command is handled while its thread holds the lock; reads go on without it. A
thread may send a command between any two reads, from its listeners. -/
inductive ReplyInput (Thread : Type) where
  | command (thread : Thread) (call : WlCall)
  | read (thread : Thread)
  | finish (thread : Thread)

namespace ReplyState

variable {Thread : Type} (state : ReplyState Thread)

def start (area : WlArea) : ReplyState Thread where
  area
  readers _ := []

variable [DecidableEq Thread]

def command (thread : Thread) (call : WlCall) : ReplyState Thread where
  area := handled state.area call
  readers :=
    match reader call with
    | some rest =>
        Function.update state.readers thread (⟨answer call, rest⟩ :: state.readers thread)
    | none => state.readers

/-- The reader of the innermost dispatch goes on. -/
def read (thread : Thread) : Option (ReplyState Thread) :=
  match state.readers thread with
  | [] => none
  | inner :: outer =>
      some { state with
        readers := Function.update state.readers thread
          ({ inner with rest := inner.rest.advance state.area } :: outer) }

/-- It has read all. -/
def finish (thread : Thread) : Option (ReplyState Thread) :=
  match state.readers thread with
  | ⟨_, .done _⟩ :: outer =>
      some { state with readers := Function.update state.readers thread outer }
  | _ => none

def step : ReplyInput Thread → Option (ReplyState Thread)
  | .command thread call => some (state.command thread call)
  | .read thread => state.read thread
  | .finish thread => state.finish thread

/-- Every dispatch, connect and keymap fetch that has come to its end has found the
answer to its own command. -/
def Own (state : ReplyState Thread) : Prop :=
  ∀ thread, ∀ found ∈ state.readers thread, ∀ value, found.rest = .done value →
    value = found.expects

/-- A command leaves the words as they are that somebody has still to read. -/
def Undisturbed (state : ReplyState Thread) : ReplyInput Thread → Prop
  | .command _ call =>
      ∀ thread, ∀ waiting ∈ state.readers thread,
        ∀ address ∈ waiting.rest.touched state.area, handled state.area call address = state.area address
  | _ => True

def Right (state : ReplyState Thread) : Prop :=
  ∀ thread, ∀ waiting ∈ state.readers thread, waiting.Right state.area

variable {state} {next : ReplyState Thread} {thread : Thread}

omit [DecidableEq Thread] in
theorem Right.own (right : state.Right) : state.Own := by
  intro thread found member value ended
  have finds := right thread found member
  rw [Reader.Right, ended, eval_done] at finds
  exact finds

/-- The readers of one thread change. -/
theorem Right.update {readers : List ReplyReader} (right : state.Right)
    (all : ∀ waiting ∈ readers, waiting.Right state.area) :
    Right { state with readers := Function.update state.readers thread readers } := by
  intro other waiting member
  change waiting ∈ Function.update state.readers thread readers other at member
  by_cases same : other = thread
  · rw [same, Function.update_self] at member
    exact all waiting member
  · rw [Function.update_of_ne same] at member
    exact right other waiting member

theorem Right.command (right : state.Right) (undisturbed : state.Undisturbed (.command thread call)) :
    (state.command thread call).Right := by
  have kept : Right { state with area := handled state.area call } :=
    fun other waiting member => (right other waiting member).write (undisturbed other waiting member)
  rw [ReplyState.command]
  cases reads : reader call with
  | none => exact kept
  | some rest =>
      refine kept.update fun waiting member => ?_
      rcases List.mem_cons.mp member with rfl | before
      · exact eval_reader reads
      · exact kept thread waiting before

theorem Right.read (right : state.Right) (stepped : state.read thread = some next) : next.Right := by
  rw [ReplyState.read] at stepped
  split at stepped
  · cases stepped
  · rename_i inner outer shape
    cases stepped
    refine right.update fun waiting member => ?_
    rcases List.mem_cons.mp member with rfl | before
    · exact (right thread inner (by simp [shape])).advance
    · exact right thread waiting (by simp [shape, before])

theorem Right.finish (right : state.Right) (stepped : state.finish thread = some next) :
    next.Right := by
  rw [ReplyState.finish] at stepped
  split at stepped
  · rename_i expects value outer shape
    cases stepped
    exact right.update fun waiting member => right thread waiting (by simp [shape, member])
  · cases stepped

theorem Right.step {input : ReplyInput Thread} (right : state.Right)
    (undisturbed : state.Undisturbed input) (stepped : state.step input = some next) :
    next.Right := by
  cases input with
  | command thread call =>
      cases stepped
      exact right.command undisturbed
  | read thread => exact right.read stepped
  | finish thread => exact right.finish stepped

end ReplyState

/-- The commands and reads of the threads of a client, in any order. -/
def replies (Thread : Type) [DecidableEq Thread] : Machine (ReplyState Thread) (ReplyInput Thread) where
  step state input := state.step input

/-- A key and the state of a surface wait. -/
def waitingRelay : WlRelay where
  inputEvts := InputEvts.empty.kbdKey ⟨30, 1⟩
  wssState := Function.update (fun _ => .zero) 1 { WssState.zero with lastState := 3, pending := true }
  webosShellSurfaces := Function.update (fun _ => 0) 1 5

def collect : List (ReplyInput Unit) :=
  .command () (.roundtrip waitingRelay) :: List.replicate 6 (.read ())

end GlesBridge.Wayland
