import GlesBridge.Wayland.Replies
import Mathlib.Data.List.Nodup

namespace GlesBridge.Wayland

open GlesBridge.Proxy GlesBridge.Systems GlesBridge.Systems.Reading

/-! The batch of events in the words of a reply: `h_wl_roundtrip` lays it out with the
constants of the proxy, and `_deliver_input_events` reads it with those of the stub.
-/

/-- The events as the stub takes them from the 32 bits of a word. -/
structure DecodedBatch where
  keys : List InputEvt
  states : List (UInt32 × UInt32)
deriving DecidableEq, Repr

def decodedKey (words : UInt64 × UInt64) : InputEvt where
  key := words.1.toUInt32
  state := words.2.toUInt32

def decodedState (words : UInt64 × UInt64) : UInt32 × UInt32 :=
  (words.1.toUInt32, words.2.toUInt32)

def WlAnswer.decoded : WlAnswer → DecodedBatch
  | .events keys states => ⟨keys.map decodedKey, states.map decodedState⟩
  | _ => ⟨[], []⟩

def decodeBatch (area : WlArea) : DecodedBatch :=
  (deliverInputEvents.eval area).decoded

def DecodedBatch.Empty (batch : DecodedBatch) : Prop :=
  batch.keys = [] ∧ batch.states = []

/-- The words of the key events, with their count. -/
def keyWords (relay : WlRelay) : List Nat :=
  List.range (1 + relay.inputEvts.events.length * 2)

/-- Those of the states. -/
def stateWords (relay : WlRelay) : List Nat :=
  List.range' webosStateBase (1 + relay.batch.states.length * 2)

/-- What a client finds in the reply to `OP_wl_roundtrip` when the proxy has dispatched
what it had queued, without waiting for the compositor. -/
structure Collects (relay : WlRelay) (queue : List CompositorEvent) (area : WlArea) : Prop where
  keys : (decodeBatch (hWlRoundtrip (relay.dispatchAll queue) area)).keys =
    (relay.dispatchAll queue).inputEvts.events
  /-- A pair for each surface that is pending and lives, and no other pair. -/
  states : ∀ pair, pair ∈ (decodeBatch (hWlRoundtrip (relay.dispatchAll queue) area)).states ↔
    ∃ slot, (relay.dispatchAll queue).Relayed slot ∧
      pair = (.ofNat slot.val, ((relay.dispatchAll queue).wssState slot).lastState)
  /-- No slot has two. -/
  slots : ((decodeBatch (hWlRoundtrip (relay.dispatchAll queue) area)).states.map Prod.fst).Nodup
  apart : List.Disjoint (keyWords (relay.dispatchAll queue)) (stateWords (relay.dispatchAll queue))
  /-- The other words are as they were. -/
  others : ∀ index ∉ keyWords (relay.dispatchAll queue),
    index ∉ stateWords (relay.dispatchAll queue) →
      hWlRoundtrip (relay.dispatchAll queue) area (.word index) = area (.word index)
  /-- It tells of something if there was something before, or if the queue has brought it. -/
  filled : ¬ (decodeBatch (hWlRoundtrip (relay.dispatchAll queue) area)).Empty ↔
    relay.HasEvents ∨ ∃ event ∈ queue, relay.Brings event
  /-- What is there later has come later. -/
  emptied : ∀ arrived, ((relay.dispatchAll queue).collected.dispatchAll arrived).HasEvents ↔
    ∃ event ∈ arrived, (relay.dispatchAll queue).Brings event

variable {relay : WlRelay} {area : WlArea}

theorem decodedKey_words (event : InputEvt) :
    decodedKey (event.key.toUInt64, event.state.toUInt64) = event := by
  rw [decodedKey, UInt32.toUInt32_toUInt64, UInt32.toUInt32_toUInt64]

theorem decodedState_words (state : Fin proxySurfMax × UInt32) :
    decodedState (.ofNat state.1.val, state.2.toUInt64) = (.ofNat state.1.val, state.2) := by
  rw [decodedState, UInt32.toUInt32_toUInt64, UInt64.toUInt32_ofNat']

/-- The stub reads the batch that the proxy has packed. -/
theorem decodeBatch_hWlRoundtrip :
    decodeBatch (hWlRoundtrip relay area) =
      ⟨relay.batch.keys, relay.batch.states.map fun state => (.ofNat state.1.val, state.2)⟩ := by
  have keys : (keyPairs relay).map decodedKey = relay.batch.keys := by
    rw [keyPairs, List.map_map]
    exact (List.map_congr_left fun event _ => decodedKey_words event).trans (List.map_id _)
  have states : (statePairs relay).map decodedState =
      relay.batch.states.map fun state => (.ofNat state.1.val, state.2) := by
    rw [statePairs, List.map_map]
    exact List.map_congr_left fun state _ => decodedState_words state
  rw [decodeBatch, eval_deliverInputEvents, WlAnswer.decoded, keys, states]

theorem mem_batch_states {state : Fin proxySurfMax × UInt32} :
    state ∈ relay.batch.states ↔
      relay.Relayed state.1 ∧ state.2 = (relay.wssState state.1).lastState := by
  obtain ⟨slot, value⟩ := state
  simp only [WlRelay.batch, List.mem_map, List.mem_filter, List.mem_finRange, true_and,
    decide_eq_true_eq, Prod.mk.injEq]
  constructor
  · rintro ⟨found, waits, rfl, rfl⟩
    exact ⟨waits, rfl⟩
  · rintro ⟨waits, rfl⟩
    exact ⟨slot, waits, rfl, rfl⟩

theorem empty_iff :
    (decodeBatch (hWlRoundtrip relay area)).Empty ↔ ¬ relay.HasEvents := by
  rw [decodeBatch_hWlRoundtrip, DecodedBatch.Empty, List.map_eq_nil_iff, WlRelay.HasEvents, not_or,
    not_not]
  refine and_congr_right fun _ => ?_
  rw [List.eq_nil_iff_forall_not_mem]
  constructor
  · rintro none ⟨slot, waits⟩
    exact none (slot, (relay.wssState slot).lastState) (mem_batch_states.mpr ⟨waits, rfl⟩)
  · intro none state member
    exact none ⟨state.1, (mem_batch_states.mp member).1⟩

/-- The slots are listed in their order. -/
theorem slots_nodup :
    (relay.batch.states.map fun state => UInt32.ofNat state.1.val).Nodup := by
  have listed : relay.batch.states.map (fun state => UInt32.ofNat state.1.val) =
      ((List.finRange proxySurfMax).filter fun slot => relay.Relayed slot).map fun slot =>
        UInt32.ofNat slot.val := by
    rw [WlRelay.batch, List.map_map]
    rfl
  have small : ∀ slot : Fin proxySurfMax, (UInt32.ofNat slot.val).toNat = slot.val := by decide
  rw [listed]
  refine List.Nodup.map (fun slot other same => ?_) ((List.nodup_finRange _).filter _)
  have equal := congrArg UInt32.toNat same
  rw [small, small] at equal
  exact Fin.ext equal

theorem disjoint_words : List.Disjoint (keyWords relay) (stateWords relay) := by
  intro index key state
  have few : relay.inputEvts.events.length ≤ 16 := relay.inputEvts.bound
  have below := List.mem_range.mp key
  have above : 33 ≤ index := (List.mem_range'_1.mp state).1
  omega

/-- A reply changes no words but those of its blocks. -/
theorem roundtrip_other {index : Nat} (noKey : index ∉ keyWords relay)
    (noState : index ∉ stateWords relay) :
    hWlRoundtrip relay area (.word index) = area (.word index) := by
  have keys : (keyPairs relay).length = relay.inputEvts.events.length := List.length_map ..
  have states : (statePairs relay).length = relay.batch.states.length := List.length_map ..
  have past : 1 + relay.inputEvts.events.length * 2 ≤ index :=
    Nat.le_of_not_lt fun below => noKey (List.mem_range.mpr below)
  have outside : ¬ (webosStateBase ≤ index ∧
      index < webosStateBase + (1 + relay.batch.states.length * 2)) :=
    fun within => noState (List.mem_range'_1.mpr within)
  have first : WlAddress.word index ≠ .word 0 := fun same => by
    have equal := word_injective same
    omega
  rw [roundtrip_word (by omega), stated, storePairs_of_ne, keyed, storePairs_of_ne,
    Function.update_of_ne first]
  · intro place _ below same
    have equal := word_injective same
    omega
  · intro place above below same
    have equal := word_injective same
    omega

/-- Whatever the proxy holds and has queued, one collection hands it over, whole and
once. -/
theorem roundtrip_collects (relay : WlRelay) (queue : List CompositorEvent) (area : WlArea) :
    Collects relay queue area where
  keys := by rw [decodeBatch_hWlRoundtrip, WlRelay.batch]
  states := by
    intro pair
    rw [decodeBatch_hWlRoundtrip, List.mem_map]
    constructor
    · rintro ⟨state, member, rfl⟩
      obtain ⟨waits, value⟩ := mem_batch_states.mp member
      exact ⟨state.1, waits, by rw [value]⟩
    · rintro ⟨slot, waits, rfl⟩
      exact ⟨(slot, _), mem_batch_states.mpr ⟨waits, rfl⟩, rfl⟩
  slots := by
    rw [decodeBatch_hWlRoundtrip, List.map_map]
    exact slots_nodup
  apart := disjoint_words
  others _ := roundtrip_other
  filled := by rw [empty_iff, not_not, WlRelay.hasEvents_dispatchAll]
  emptied arrived := by
    rw [WlRelay.hasEvents_dispatchAll]
    exact or_iff_right WlRelay.not_hasEvents_collected

end GlesBridge.Wayland
