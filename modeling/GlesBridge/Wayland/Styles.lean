import GlesBridge.Stub.Listeners

namespace GlesBridge.Wayland

open GlesBridge.Stub

/-! The events of one object through a listener struct and through a dispatcher. -/

inductive ListenerStyle where
  | listener
  | dispatcher
deriving DecidableEq, Repr

inductive ObjectKind where
  | registry
  | seat
  | output
  | keyboard
  | webosSeat
  | webosShellSurface
  | callback
deriving DecidableEq, Repr

/-- What a dispatch finds where it fires the capabilities of a seat late. -/
structure SeatMoment where
  keyboard : ListenerSlot
  allLazyCapsDone : Bool

/-- An occasion for events, with what they tell. A seat has one with its registration,
which `moments` are the dispatches after. -/
inductive EventPayload where
  | global (id : UInt32) (iface : String) (ver : UInt32)
  | seat (moments : List SeatMoment)
  | output (info : OutputInfo)
  | focus (keymap : Option (Int × UInt32)) (surface : UInt32)
  | key (code state : UInt32)
  | webosSeatInfo (info : WebosSeatInfo)
  | stateChanged (state : UInt32)
  | done

/-- A slot to which a client has attached in one of the two styles. -/
def attachedSlot (style : ListenerStyle) (receiver impl data : UInt64) : ListenerSlot :=
  match style with
  | .listener => ListenerSlot.empty.listen receiver data
  | .dispatcher => ListenerSlot.empty.dispatchWith receiver impl data

/-- `_deliver_input_events` fires the capabilities while nobody listens to the keyboard. -/
def SeatMoment.Fires (moment : SeatMoment) : Prop :=
  moment.allLazyCapsDone = false ∧ ¬ moment.keyboard.Attached

instance decidableFires (moment : SeatMoment) : Decidable moment.Fires :=
  @instDecidableAnd _ _ (instDecidableEqBool ..) instDecidableNot

/-- `wl_proxy_add_listener` fires the capabilities at once, a dispatcher waits for them. -/
def seatDeliveries (style : ListenerStyle) (slot : ListenerSlot) (handle : UInt32)
    (moments : List SeatMoment) : List Delivery :=
  match style with
  | .listener => slot.fireSeatCapabilities handle
  | .dispatcher =>
      (moments.filter fun moment => moment.Fires).flatMap fun _ => slot.fireSeatCapabilities handle

namespace EventPayload

def object : EventPayload → ObjectKind
  | .global .. => .registry
  | .seat .. => .seat
  | .output .. => .output
  | .focus _ _ | .key _ _ => .keyboard
  | .webosSeatInfo .. => .webosSeat
  | .stateChanged .. => .webosShellSurface
  | .done => .callback

def deliveries (style : ListenerStyle) (slot : ListenerSlot) (handle : UInt32) :
    EventPayload → List Delivery
  | .global id iface ver => slot.emitGlobal handle id iface ver
  | .seat moments => seatDeliveries style slot handle moments
  | .output info => slot.fireOutputEvents handle info
  | .focus keymap surface => slot.fireKeyboardFocus handle keymap surface
  | .key code state => slot.deliverKey handle code state
  | .webosSeatInfo info => slot.fireWebosSeatInfo handle info (style = .dispatcher)
  | .stateChanged state => slot.deliverState handle state
  | .done => slot.fireCallbackDone handle

/-- The indices and arguments that the receiver gets. -/
def events (style : ListenerStyle) (slot : ListenerSlot) (handle : UInt32)
    (payload : EventPayload) : List (Nat × List EventArg) :=
  (payload.deliveries style slot handle).map fun delivery => (delivery.index, delivery.args)

/-- The payloads that the code treats alike. -/
def Alike : EventPayload → Prop
  | .output _ | .focus none _ => False
  | .seat moments => (moments.filter fun moment => moment.Fires).length = 1
  | _ => True

end EventPayload

/-! ## The protocol -/

/-- The types of the arguments, with the letters of the protocol. -/
inductive ArgType where
  | u | i | s | o | h | a
deriving DecidableEq, Repr

def argType : EventArg → ArgType
  | .u _ => .u
  | .i _ => .i
  | .s _ => .s
  | .o _ => .o
  | .h _ => .h
  | .a _ => .a

/-- The arguments of an event in the protocol. -/
def signature : ObjectKind → Nat → Option (List ArgType)
  | .registry, 0 => some [.u, .s, .u]
  | .seat, 0 => some [.u]
  | .seat, 1 => some [.s]
  | .output, 0 => some [.i, .i, .i, .i, .i, .s, .s, .i]
  | .output, 1 => some [.u, .i, .i, .i]
  | .output, 2 => some []
  | .output, 3 => some [.i]
  | .keyboard, 0 => some [.u, .h, .u]
  | .keyboard, 1 => some [.u, .o, .a]
  | .keyboard, 3 => some [.u, .u, .u, .u]
  | .webosSeat, 0 => some [.u, .s, .u, .u]
  | .webosShellSurface, 0 => some [.u]
  | .callback, 0 => some [.u]
  | _, _ => none

/-- An event with the arguments that the protocol gives it. -/
def Conforms (object : ObjectKind) (event : Nat × List EventArg) : Prop :=
  signature object event.1 = some (event.2.map argType)

/-- Both receivers get the same events, and the listener struct those of the protocol. -/
def StylesAgree (payload : EventPayload) : Prop :=
  ∀ receiver impl data handle, receiver ≠ 0 →
    payload.events .listener (attachedSlot .listener receiver impl data) handle =
        payload.events .dispatcher (attachedSlot .dispatcher receiver impl data) handle ∧
      ∀ event ∈ payload.events .listener (attachedSlot .listener receiver impl data) handle,
        Conforms payload.object event

section Calls

variable {receiver impl data : UInt64} {handle : UInt32} {index : Nat} {args : List EventArg}

@[simp] theorem attached_funcs :
    (attachedSlot .listener receiver impl data).funcs = receiver := rfl

@[simp] theorem attached_dispatcher_funcs :
    (attachedSlot .dispatcher receiver impl data).funcs = 0 := rfl

@[simp] theorem callFuncs_listener (real : receiver ≠ 0) :
    (attachedSlot .listener receiver impl data).callFuncs handle index args =
      [⟨.listener receiver data, handle, index, args⟩] := if_neg real

@[simp] theorem callDispatch_listener :
    (attachedSlot .listener receiver impl data).callDispatch handle index args = [] := if_pos rfl

@[simp] theorem callFuncs_dispatcher :
    (attachedSlot .dispatcher receiver impl data).callFuncs handle index args = [] := if_pos rfl

@[simp] theorem callDispatch_dispatcher (real : receiver ≠ 0) :
    (attachedSlot .dispatcher receiver impl data).callDispatch handle index args =
      [⟨.dispatcher receiver impl, handle, index, args⟩] := if_neg real

end Calls

/-- Fired once, the capabilities are the events of a listener struct. -/
theorem flatMap_eq_iff {Moment : Type} {moments : List Moment} {first second : Nat × List EventArg} :
    [first, second] = moments.flatMap (fun _ => [first, second]) ↔ moments.length = 1 := by
  cases moments with
  | nil => simp
  | cons moment rest =>
      cases rest with
      | nil => simp
      | cons next rest => simp

/-- The two styles see the same events of the protocol for these payloads and no others. -/
theorem styles_agree_iff (payload : EventPayload) : StylesAgree payload ↔ payload.Alike := by
  unfold StylesAgree
  cases payload with
  | global id iface ver =>
      refine iff_of_true (fun receiver impl data handle real => ?_) trivial
      simp [EventPayload.events, EventPayload.deliveries, ListenerSlot.emitGlobal, real, Conforms,
        EventPayload.object, signature, argType, Stub.text]
  | seat moments =>
      have listener {receiver impl data : UInt64} {handle : UInt32} (real : receiver ≠ 0) :
          (EventPayload.seat moments).events .listener (attachedSlot .listener receiver impl data)
            handle = [(0, [.u 3]), (1, [Stub.text "default"])] := by
        simp [EventPayload.events, EventPayload.deliveries, seatDeliveries,
          ListenerSlot.fireSeatCapabilities, real]
      have dispatcher {receiver impl data : UInt64} {handle : UInt32} (real : receiver ≠ 0) :
          (EventPayload.seat moments).events .dispatcher (attachedSlot .dispatcher receiver impl data)
            handle = (moments.filter fun moment => moment.Fires).flatMap fun _ =>
              [(0, [.u 3]), (1, [Stub.text "default"])] := by
        simp [EventPayload.events, EventPayload.deliveries, seatDeliveries,
          ListenerSlot.fireSeatCapabilities, real, List.map_flatMap]
      constructor
      · intro agree
        have same := (agree 1 0 0 0 (by decide)).1
        rw [listener (by decide), dispatcher (by decide)] at same
        exact flatMap_eq_iff.mp same
      · intro once receiver impl data handle real
        rw [listener real, dispatcher real]
        refine ⟨flatMap_eq_iff.mpr once, ?_⟩
        simp [Conforms, EventPayload.object, signature, argType, Stub.text]
  | output info => 
      refine iff_of_false (fun agree => ?_) id
      have same := (agree 1 0 0 0 (by decide)).1
      simp [EventPayload.events, EventPayload.deliveries, ListenerSlot.fireOutputEvents] at same
  | focus keymap surface =>
      cases keymap with
      | none =>
          refine iff_of_false (fun agree => ?_) id
          have same := (agree 1 0 0 0 (by decide)).1
          simp [EventPayload.events, EventPayload.deliveries, ListenerSlot.fireKeyboardFocus] at same
      | some file =>
          refine iff_of_true (fun receiver impl data handle real => ?_) trivial
          simp [EventPayload.events, EventPayload.deliveries, ListenerSlot.fireKeyboardFocus, real,
            Conforms, EventPayload.object, signature, argType]
  | key code state =>
      refine iff_of_true (fun receiver impl data handle real => ?_) trivial
      simp [EventPayload.events, EventPayload.deliveries, ListenerSlot.deliverKey, real, Conforms,
        EventPayload.object, signature, argType]
  | webosSeatInfo info =>
      refine iff_of_true (fun receiver impl data handle real => ?_) trivial
      simp [EventPayload.events, EventPayload.deliveries, ListenerSlot.fireWebosSeatInfo, real,
        Conforms, EventPayload.object, signature, argType, ListenerSlot.webosSeatArgs]
  | stateChanged state =>
      refine iff_of_true (fun receiver impl data handle real => ?_) trivial
      simp [EventPayload.events, EventPayload.deliveries, ListenerSlot.deliverState, real, Conforms,
        EventPayload.object, signature, argType]
  | done =>
      refine iff_of_true (fun receiver impl data handle real => ?_) trivial
      simp [EventPayload.events, EventPayload.deliveries, ListenerSlot.fireCallbackDone, real,
        Conforms, EventPayload.object, signature, argType]

/-- The output that the proxy reports without the compositor's answer. -/
def defaultOutput : OutputInfo := ⟨1920, 1080, 60000, 527, 296, 1⟩

/-- The listener struct of an output has `done` called with a scale. -/
theorem output_done_with_scale :
    (2, [EventArg.i 1]) ∈
        (EventPayload.output defaultOutput).events .listener (attachedSlot .listener 1 0 0) 20 ∧
      ¬ Conforms .output (2, [.i 1]) ∧ ¬ StylesAgree (.output defaultOutput) := by
  refine ⟨?_, by simp [Conforms, signature, argType], fun agree => ?_⟩
  · simp [EventPayload.events, EventPayload.deliveries, ListenerSlot.fireOutputEvents, defaultOutput]
  · have same := (agree 1 0 0 0 (by decide)).1
    simp [EventPayload.events, EventPayload.deliveries, ListenerSlot.fireOutputEvents] at same

end GlesBridge.Wayland
