import GlesBridge.Proxy.Handles

namespace GlesBridge.Proxy

/-! What the compositor sends for a client, kept until `OP_wl_roundtrip` collects it. -/

abbrev inputEvtMax : Nat := 16

structure InputEvt where
  key : UInt32
  state : UInt32
deriving DecidableEq, Repr

/-- `g_input_evts`, as far as `g_input_evt_count`. -/
structure InputEvts where
  events : List InputEvt
  bound : events.length ≤ inputEvtMax

structure WssState where
  lastState : UInt32
  pending : Bool
  width : UInt32
  height : UInt32
  transformPending : Bool
deriving DecidableEq, Repr

def WssState.zero : WssState where
  lastState := 0
  pending := false
  width := 0
  height := 0
  transformPending := false

/-- `WL_WEBOS_SHELL_SURFACE_STATE_FULLSCREEN` -/
abbrev stateFullscreen : UInt32 := 3

structure WlRelay where
  inputEvts : InputEvts
  wssState : Fin proxySurfMax → WssState
  webosShellSurfaces : Fin proxySurfMax → UInt32

/-- The events of the compositor; `other` is any that leaves nothing to collect. -/
inductive CompositorEvent where
  | key (event : InputEvt)
  | stateChanged (surface state : UInt32)
  | transformConfigure (surface width height : UInt32)
  | other
deriving DecidableEq, Repr

/-- What one collection hands to the stub. -/
structure WlBatch where
  keys : List InputEvt
  states : List (Fin proxySurfMax × UInt32)
deriving DecidableEq, Repr

def InputEvts.empty : InputEvts where
  events := []
  bound := Nat.zero_le inputEvtMax

/-- An event that finds the array full is dropped. -/
def InputEvts.kbdKey (evts : InputEvts) (event : InputEvt) : InputEvts :=
  if room : evts.events.length < inputEvtMax then
    { events := evts.events ++ [event]
      bound := by
        rw [List.length_append]
        exact room }
  else evts

theorem InputEvts.kbdKey_room {evts : InputEvts} {event : InputEvt}
    (room : evts.events.length < inputEvtMax) :
    (evts.kbdKey event).events = evts.events ++ [event] := by
  rw [kbdKey, dif_pos room]

theorem InputEvts.kbdKey_full {evts : InputEvts} {event : InputEvt}
    (full : ¬ evts.events.length < inputEvtMax) : evts.kbdKey event = evts := by
  rw [kbdKey, dif_neg full]

namespace WlRelay

variable (relay : WlRelay)

def wssSlot (surface : UInt32) : Option (Fin proxySurfMax) :=
  (List.finRange proxySurfMax).find? fun slot => relay.webosShellSurfaces slot == surface

def setWss (slot : Fin proxySurfMax) (change : WssState → WssState) : WlRelay :=
  { relay with wssState := Function.update relay.wssState slot (change (relay.wssState slot)) }

def wssStateChanged (surface state : UInt32) : WlRelay :=
  match relay.wssSlot surface with
  | some slot => relay.setWss slot fun wss => { wss with lastState := state, pending := true }
  | none => relay

/-- A first configuration counts as the state `FULLSCREEN`. -/
def wssTransformConfigure (surface width height : UInt32) : WlRelay :=
  match relay.wssSlot surface with
  | some slot => relay.setWss slot fun wss =>
      let configured := { wss with width, height, transformPending := true }
      if wss.pending then configured
      else { configured with lastState := stateFullscreen, pending := true }
  | none => relay

/-- One event is dispatched to the listeners of the proxy. -/
def dispatch : CompositorEvent → WlRelay
  | .key event => { relay with inputEvts := relay.inputEvts.kbdKey event }
  | .stateChanged surface state => relay.wssStateChanged surface state
  | .transformConfigure surface width height => relay.wssTransformConfigure surface width height
  | .other => relay

def dispatchAll (events : List CompositorEvent) : WlRelay :=
  events.foldl dispatch relay

/-- A state that is relayed with the next collection. -/
def Relayed (slot : Fin proxySurfMax) : Prop :=
  (relay.wssState slot).pending = true ∧ relay.webosShellSurfaces slot ≠ 0

instance decidableRelayed (slot : Fin proxySurfMax) : Decidable (relay.Relayed slot) :=
  instDecidableAnd

/-- `proxy_wl_has_events` -/
def HasEvents : Prop := relay.inputEvts.events ≠ [] ∨ ∃ slot, relay.Relayed slot

instance decidableHasEvents : Decidable relay.HasEvents :=
  @instDecidableOr _ _ instDecidableNot (Nat.decidableExistsFin relay.Relayed)

/-- An event that leaves something to collect. -/
def Brings : CompositorEvent → Prop
  | .key _ => True
  | .stateChanged surface _ | .transformConfigure surface _ _ =>
      surface ≠ 0 ∧ ∃ slot, relay.webosShellSurfaces slot = surface
  | .other => False

/-- What `h_wl_roundtrip` packs once it has dispatched. -/
def batch : WlBatch where
  keys := relay.inputEvts.events
  states := ((List.finRange proxySurfMax).filter fun slot => relay.Relayed slot).map fun slot =>
    (slot, (relay.wssState slot).lastState)

/-- What it leaves behind. -/
def collected : WlRelay :=
  { relay with
    inputEvts := .empty
    wssState := fun slot =>
      if relay.Relayed slot then { relay.wssState slot with pending := false }
      else relay.wssState slot }

/-- The part of `h_wl_webos_shell_get_shell_surface` that makes a new surface. -/
def track (slot : Fin proxySurfMax) (wss : UInt32) : WlRelay :=
  { relay with
    wssState := Function.update relay.wssState slot .zero
    webosShellSurfaces := Function.update relay.webosShellSurfaces slot wss }

/-- The part of `h_wl_proxy_destroy` for the webOS shell surface. -/
def untrack (slot : Fin proxySurfMax) : WlRelay :=
  { relay with webosShellSurfaces := Function.update relay.webosShellSurfaces slot 0 }

/-- The part of `proxy_wayland_init`; what is pending stays. -/
def forget : WlRelay :=
  { relay with webosShellSurfaces := fun _ => 0 }

variable {relay} {slot : Fin proxySurfMax} {event : CompositorEvent} {wss : UInt32}

@[simp] theorem setWss_inputEvts {change : WssState → WssState} :
    (relay.setWss slot change).inputEvts = relay.inputEvts := rfl

theorem setWss_self {change : WssState → WssState} :
    (relay.setWss slot change).wssState slot = change (relay.wssState slot) :=
  Function.update_self ..

theorem setWss_of_ne {other : Fin proxySurfMax} {change : WssState → WssState}
    (apart : other ≠ slot) : (relay.setWss slot change).wssState other = relay.wssState other :=
  Function.update_of_ne apart ..

/-- Only key events reach the array of keys. -/
theorem dispatch_inputEvts (foreign : ∀ input, event ≠ .key input) :
    (relay.dispatch event).inputEvts = relay.inputEvts := by
  cases event with
  | key input => exact absurd rfl (foreign input)
  | stateChanged surface state =>
      change (relay.wssStateChanged surface state).inputEvts = relay.inputEvts
      unfold wssStateChanged
      cases relay.wssSlot surface with
      | none => rfl
      | some slot => rfl
  | transformConfigure surface width height =>
      change (relay.wssTransformConfigure surface width height).inputEvts = relay.inputEvts
      unfold wssTransformConfigure
      cases relay.wssSlot surface with
      | none => rfl
      | some slot => rfl
  | other => rfl

/-! ## What is there to collect -/

theorem wssSlot_some {surface : UInt32} (found : relay.wssSlot surface = some slot) :
    relay.webosShellSurfaces slot = surface := by
  have same := List.find?_some (p := fun slot => relay.webosShellSurfaces slot == surface) found
  exact eq_of_beq same

theorem wssSlot_none {surface : UInt32} (missing : relay.wssSlot surface = none)
    (slot : Fin proxySurfMax) : relay.webosShellSurfaces slot ≠ surface := fun same => by
  have differs := List.find?_eq_none.mp missing slot (List.mem_finRange slot)
  exact differs (beq_iff_eq.mpr same)

/-- A state that waits is relayed if its surface lives. -/
theorem hasEvents_setWss {change : WssState → WssState}
    (waits : (change (relay.wssState slot)).pending = true) :
    (relay.setWss slot change).HasEvents ↔
      relay.HasEvents ∨ relay.webosShellSurfaces slot ≠ 0 := by
  constructor
  · rintro (keys | ⟨other, pending, surface⟩)
    · exact .inl (.inl keys)
    · by_cases same : other = slot
      · exact .inr (same ▸ surface)
      · rw [setWss_of_ne same] at pending
        exact .inl (.inr ⟨other, pending, surface⟩)
  · rintro ((keys | ⟨other, pending, surface⟩) | live)
    · exact .inl keys
    · refine .inr ⟨other, ?_, surface⟩
      by_cases same : other = slot
      · subst same
        exact (congrArg WssState.pending setWss_self).trans waits
      · rw [setWss_of_ne same]
        exact pending
    · exact .inr ⟨slot, (congrArg WssState.pending setWss_self).trans waits, live⟩

/-- Both events of a surface make the state of its slot wait. -/
theorem hasEvents_state {surface : UInt32} {change : WssState → WssState}
    (waits : ∀ wss, (change wss).pending = true) :
    (match relay.wssSlot surface with
      | some slot => relay.setWss slot change
      | none => relay).HasEvents ↔
      relay.HasEvents ∨ surface ≠ 0 ∧ ∃ slot, relay.webosShellSurfaces slot = surface := by
  cases lookup : relay.wssSlot surface with
  | some slot =>
      have tracked := wssSlot_some lookup
      rw [hasEvents_setWss (waits _), tracked]
      exact or_congr_right ⟨fun live => ⟨live, slot, tracked⟩, And.left⟩
  | none =>
      refine ⟨.inl, fun either => either.resolve_right fun live => ?_⟩
      obtain ⟨slot, tracked⟩ := live.2
      exact wssSlot_none lookup slot tracked

/-- There is something to collect after an event if there was before it, or if it has
brought that. -/
theorem hasEvents_dispatch :
    (relay.dispatch event).HasEvents ↔ relay.HasEvents ∨ relay.Brings event := by
  cases event with
  | key input =>
      refine ⟨fun _ => .inr trivial, fun _ => .inl fun empty => ?_⟩
      change (relay.inputEvts.kbdKey input).events = [] at empty
      by_cases room : relay.inputEvts.events.length < inputEvtMax
      · rw [InputEvts.kbdKey_room room] at empty
        exact List.append_ne_nil_of_right_ne_nil _ (List.cons_ne_nil input []) empty
      · rw [InputEvts.kbdKey_full room] at empty
        rw [empty] at room
        exact room (by decide)
  | stateChanged surface state => exact hasEvents_state fun _ => rfl
  | transformConfigure surface width height =>
      refine hasEvents_state fun wss => ?_
      change (if wss.pending then _ else _ : WssState).pending = true
      split
      · assumption
      · rfl
  | other => exact ⟨.inl, fun either => either.resolve_right id⟩

/-- Events change no surface. -/
theorem dispatch_webosShellSurfaces :
    (relay.dispatch event).webosShellSurfaces = relay.webosShellSurfaces := by
  cases event with
  | key input => rfl
  | stateChanged surface state =>
      rw [dispatch, wssStateChanged]
      split
      · rfl
      · rfl
  | transformConfigure surface width height =>
      rw [dispatch, wssTransformConfigure]
      split
      · rfl
      · rfl
  | other => rfl

theorem brings_dispatch {later : CompositorEvent} :
    (relay.dispatch event).Brings later ↔ relay.Brings later := by
  have same : (relay.dispatch event).webosShellSurfaces = relay.webosShellSurfaces :=
    dispatch_webosShellSurfaces
  cases later with
  | key input => exact Iff.rfl
  | stateChanged surface state => rw [Brings, Brings, same]
  | transformConfigure surface width height => rw [Brings, Brings, same]
  | other => exact Iff.rfl

theorem hasEvents_dispatchAll {events : List CompositorEvent} :
    (relay.dispatchAll events).HasEvents ↔
      relay.HasEvents ∨ ∃ event ∈ events, relay.Brings event := by
  induction events generalizing relay with
  | nil => simp [dispatchAll]
  | cons event rest ih =>
      change ((relay.dispatch event).dispatchAll rest).HasEvents ↔ _
      simp only [ih, hasEvents_dispatch, brings_dispatch, List.exists_mem_cons_iff, or_assoc]

/-- Nothing is left after a collection. -/
theorem not_hasEvents_collected : ¬ relay.collected.HasEvents := by
  rintro (keys | ⟨slot, pending, surface⟩)
  · exact keys rfl
  · change (if relay.Relayed slot then { relay.wssState slot with pending := false }
      else relay.wssState slot).pending = true at pending
    split at pending
    · cases pending
    · rename_i idle
      exact idle ⟨pending, surface⟩

theorem hasEvents_track (has : (relay.track slot wss).HasEvents) : relay.HasEvents := by
  rcases has with keys | ⟨other, pending, surface⟩
  · exact .inl keys
  · by_cases same : other = slot
    · subst same
      simp [track, WssState.zero] at pending
    · simp only [track, Function.update_of_ne same] at pending surface
      exact .inr ⟨other, pending, surface⟩

theorem hasEvents_untrack (has : (relay.untrack slot).HasEvents) : relay.HasEvents := by
  rcases has with keys | ⟨other, pending, surface⟩
  · exact .inl keys
  · by_cases same : other = slot
    · subst same
      simp [untrack] at surface
    · simp only [untrack, Function.update_of_ne same] at pending surface
      exact .inr ⟨other, pending, surface⟩

theorem hasEvents_forget (has : relay.forget.HasEvents) : relay.HasEvents := by
  rcases has with keys | ⟨other, pending, surface⟩
  · exact .inl keys
  · exact absurd rfl surface

end WlRelay

end GlesBridge.Proxy
