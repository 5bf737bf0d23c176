import GlesBridge.Proxy.Events
import GlesBridge.Systems.Machine

namespace GlesBridge.Wayland

open GlesBridge.Proxy GlesBridge.Systems

/-! Key events on their way from the compositor to the stub. -/

/-- What changes the events that wait in the proxy: an event that any of its
dispatches reads, a collection, or a change of the table of webOS shell surfaces. -/
inductive RelayInput where
  | event (event : CompositorEvent)
  | collect
  | track (slot : Fin proxySurfMax) (wss : UInt32)
  | untrack (slot : Fin proxySurfMax)
  | forget

/-- `received` came from the compositor, and `handed` is in the batches so far. -/
structure KeyHistory where
  relay : WlRelay
  received : List InputEvt
  handed : List InputEvt

namespace KeyHistory

def start (relay : WlRelay) : KeyHistory where
  relay
  received := relay.inputEvts.events
  handed := []

variable (history : KeyHistory)

def step : RelayInput → KeyHistory
  | .event (.key key) =>
      { history with
        relay := history.relay.dispatch (.key key)
        received := history.received ++ [key] }
  | .event event => { history with relay := history.relay.dispatch event }
  | .collect =>
      { history with
        relay := history.relay.collected
        handed := history.handed ++ history.relay.batch.keys }
  | .track slot wss => { history with relay := history.relay.track slot wss }
  | .untrack slot => { history with relay := history.relay.untrack slot }
  | .forget => { history with relay := history.relay.forget }

/-- What was received has been handed over or waits, in order and once. -/
def Intact : Prop := history.handed ++ history.relay.inputEvts.events = history.received

/-- A key event finds an entry for it. -/
def Room : RelayInput → Prop
  | .event (.key _) => history.relay.inputEvts.events.length < inputEvtMax
  | _ => True

variable {history} {input : RelayInput}

theorem intact_foreign {event : CompositorEvent} (intact : history.Intact)
    (foreign : ∀ key, event ≠ .key key) :
    Intact { history with relay := history.relay.dispatch event } := by
  change history.handed ++ (history.relay.dispatch event).inputEvts.events = history.received
  rw [WlRelay.dispatch_inputEvts foreign]
  exact intact

/-- One input loses an event exactly if the array is full. -/
theorem intact_step_iff (intact : history.Intact) :
    (history.step input).Intact ↔ history.Room input := by
  cases input with
  | event event =>
      cases event with
      | key key =>
          by_cases room : history.relay.inputEvts.events.length < inputEvtMax
          · refine iff_of_true ?_ room
            calc history.handed ++ (history.relay.inputEvts.kbdKey key).events
                = history.handed ++ (history.relay.inputEvts.events ++ [key]) := by
                  rw [InputEvts.kbdKey_room room]
              _ = history.received ++ [key] := by
                  rw [← List.append_assoc, show _ = history.received from intact]
          · refine iff_of_false (fun kept => ?_) room
            have same : history.handed ++ (history.relay.inputEvts.kbdKey key).events =
                history.received ++ [key] := kept
            rw [InputEvts.kbdKey_full room, show _ = history.received from intact] at same
            simp at same
      | stateChanged surface state =>
          exact iff_of_true (intact_foreign intact fun _ same => nomatch same) trivial
      | transformConfigure surface width height =>
          exact iff_of_true (intact_foreign intact fun _ same => nomatch same) trivial
      | other => exact iff_of_true intact trivial
  | collect =>
      refine iff_of_true ?_ trivial
      change (history.handed ++ history.relay.inputEvts.events) ++ [] = history.received
      rw [List.append_nil]
      exact intact
  | track slot wss => exact iff_of_true intact trivial
  | untrack slot => exact iff_of_true intact trivial
  | forget => exact iff_of_true intact trivial

end KeyHistory

def keyRelay : Machine KeyHistory RelayInput where
  step history input := some (history.step input)

/-- No key event is lost, repeated or moved in a run as long as no more than
`INPUT_EVT_MAX` of them come between two collections, and no longer. -/
theorem keys_intact_iff_room (relay : WlRelay) (inputs : List RelayInput) :
    keyRelay.Along (keyRelay.Ends KeyHistory.Intact) (.start relay) inputs ↔
      keyRelay.Along KeyHistory.Room (.start relay) inputs := by
  have ends {history : KeyHistory} {input : RelayInput} :
      keyRelay.Ends KeyHistory.Intact history input ↔ (history.step input).Intact := by
    simp [Machine.Ends, keyRelay]
  have keeps {history next : KeyHistory} {input : RelayInput} (intact : history.Intact)
      (room : history.Room input) (stepped : keyRelay.step history input = some next) :
      next.Intact := by
    cases stepped
    exact (KeyHistory.intact_step_iff intact).mpr room
  have start : (KeyHistory.start relay).Intact := List.nil_append _
  exact Machine.along_iff keeps (fun intact => ends.trans (KeyHistory.intact_step_iff intact)) start

/-- A key is held while others are typed, and let go. -/
def typed : List InputEvt :=
  ⟨30, 1⟩ :: (List.range 7).flatMap (fun key => [⟨.ofNat (16 + key), 1⟩, ⟨.ofNat (16 + key), 0⟩]) ++
    [⟨57, 1⟩, ⟨30, 0⟩]

def idleRelay : WlRelay where
  inputEvts := .empty
  wssState _ := .zero
  webosShellSurfaces _ := 0

/-- The client sees the key go down and never up. -/
theorem released_key_dropped :
    (keyRelay.run (.start idleRelay) (typed.map (.event ∘ .key) ++ [.collect])).map
        (fun history => (decide (⟨30, 1⟩ ∈ history.handed), decide (⟨30, 0⟩ ∈ history.handed),
          decide (⟨30, 0⟩ ∈ history.received))) = some (true, false, true) := by
  decide

end GlesBridge.Wayland
