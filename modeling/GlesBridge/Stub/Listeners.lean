import GlesBridge.Stub.Wayland

namespace GlesBridge.Stub

/-! The events that the stub calls the listeners of a client with. A listener struct has
all its members.
-/

/-- An argument of an event; the letters are those of the signatures. -/
inductive EventArg where
  | u (value : UInt32)
  | i (value : UInt32)
  | s (text : List UInt8)
  | o (handle : UInt32)
  | h (fd : Int)
  | a (size : Nat)
deriving DecidableEq, Repr

/-- Who is called: a member of a listener struct, or a dispatcher. -/
inductive Receiver where
  | listener (funcs data : UInt64)
  | dispatcher (fn impl : UInt64)
deriving DecidableEq, Repr

structure Delivery where
  receiver : Receiver
  handle : UInt32
  index : Nat
  args : List EventArg
deriving DecidableEq, Repr

def text (literal : String) : EventArg := .s literal.toUTF8.toList

namespace ListenerSlot

variable (slot : ListenerSlot) (handle : UInt32)

theorem not_attached_empty : ¬ empty.Attached := by
  rintro (funcs | dispatcher)
  · exact funcs rfl
  · exact dispatcher rfl

/-- A member of the listener struct is called, if there is one. -/
def callFuncs (index : Nat) (args : List EventArg) : List Delivery :=
  if slot.funcs = 0 then [] else [⟨.listener slot.funcs slot.data, handle, index, args⟩]

def callDispatch (index : Nat) (args : List EventArg) : List Delivery :=
  if slot.dispatchFn = 0 then []
  else [⟨.dispatcher slot.dispatchFn slot.dispatchImpl, handle, index, args⟩]

/-- `EMIT_GLOBAL` -/
def emitGlobal (id : UInt32) (iface : String) (ver : UInt32) : List Delivery :=
  slot.callFuncs handle 0 [.u id, text iface, .u ver] ++
    slot.callDispatch handle 0 [.u id, text iface, .u ver]

def outputGeometry (info : OutputInfo) : List EventArg :=
  [.i 0, .i 0, .i info.physW, .i info.physH, .i 0, text "LG", text "webOS TV", .i 0]

def outputMode (info : OutputInfo) : List EventArg :=
  [.u 3, .i info.width, .i info.height, .i info.refresh]

/-- The indices of `scale` and `done` are not the same for both receivers. -/
def fireOutputEvents (info : OutputInfo) : List Delivery :=
  slot.callFuncs handle 0 (outputGeometry info) ++
    slot.callFuncs handle 1 (outputMode info) ++
    slot.callFuncs handle 2 [.i info.scale] ++
    slot.callFuncs handle 3 [] ++
    slot.callDispatch handle 0 (outputGeometry info) ++
    slot.callDispatch handle 1 (outputMode info) ++
    slot.callDispatch handle 2 [] ++
    slot.callDispatch handle 3 [.i info.scale]

/-- The dispatcher of a seat that has a listener too is not called. -/
def fireSeatCapabilities : List Delivery :=
  if slot.funcs ≠ 0 then
    slot.callFuncs handle 0 [.u 3] ++ slot.callFuncs handle 1 [text "default"]
  else slot.callDispatch handle 0 [.u 3] ++ slot.callDispatch handle 1 [text "default"]

/-- The part of `_fire_keyboard_focus_to` for one seat. `keymap` is the file that was made
for the keymap, with its size; without one, only a listener struct is told. -/
def fireKeyboardFocus (keymap : Option (Int × UInt32)) (surface : UInt32) : List Delivery :=
  let enter : List EventArg := [.u 1, .o surface, .a 0]
  match keymap with
  | some (kfd, size) =>
      slot.callFuncs handle 0 [.u 1, .h kfd, .u size] ++ slot.callFuncs handle 1 enter ++
        slot.callDispatch handle 0 [.u 1, .h kfd, .u size] ++ slot.callDispatch handle 1 enter
  | none =>
      slot.callFuncs handle 0 [.u 0, .h (-1), .u 0] ++ slot.callFuncs handle 1 enter ++
        slot.callDispatch handle 1 enter

def deliverKey (key state : UInt32) : List Delivery :=
  slot.callFuncs handle 3 [.u 0, .u 0, .u key, .u state] ++
    slot.callDispatch handle 3 [.u 0, .u 0, .u key, .u state]

/-- The listener struct of a callback goes before its dispatcher. -/
def fireCallbackDone : List Delivery :=
  if slot.funcs ≠ 0 then slot.callFuncs handle 0 [.u 0] else slot.callDispatch handle 0 [.u 0]

def webosSeatArgs (info : WebosSeatInfo) : List EventArg :=
  [.u info.id, .s info.name, .u info.designator, .u info.capabilities]

/-- What `wl_proxy_add_listener` and `wl_proxy_add_dispatcher` call a webOS seat with, each
its own receiver. -/
def fireWebosSeatInfo (info : WebosSeatInfo) (dispatcher : Bool) : List Delivery :=
  if dispatcher then slot.callDispatch handle 0 (webosSeatArgs info)
  else slot.callFuncs handle 0 (webosSeatArgs info)

/-- The end of the state events in `_deliver_input_events`: one receiver was chosen. -/
def deliverState (state : UInt32) : List Delivery :=
  if slot.funcs ≠ 0 then slot.callFuncs handle 0 [.u state]
  else slot.callDispatch handle 0 [.u state]

variable {slot} {handle}

theorem unattached_iff : ¬ slot.Attached ↔ slot.funcs = 0 ∧ slot.dispatchFn = 0 := by
  rw [Attached, not_or, not_not, not_not]

/-- Only who listens is sent anything. -/
theorem fireKeyboardFocus_unattached {keymap : Option (Int × UInt32)} {surface : UInt32}
    (unattached : ¬ slot.Attached) : slot.fireKeyboardFocus handle keymap surface = [] := by
  obtain ⟨funcs, dispatcher⟩ := unattached_iff.mp unattached
  cases keymap with
  | none => simp [fireKeyboardFocus, callFuncs, callDispatch, funcs, dispatcher]
  | some file => simp [fireKeyboardFocus, callFuncs, callDispatch, funcs, dispatcher]

theorem deliverKey_ne_nil {key state : UInt32} (attached : slot.Attached) :
    slot.deliverKey handle key state ≠ [] := by
  rcases attached with funcs | dispatcher
  · simp [deliverKey, callFuncs, funcs]
  · simp [deliverKey, callDispatch, dispatcher]

end ListenerSlot

end GlesBridge.Stub
