import GlesBridge.Stub.Marshal
import GlesBridge.Stub.Listeners

namespace GlesBridge.Stub.WlBridgeState

/-! The life of a callback object in the stub: its slot, what is registered in it, and
the phase of `_bridge_dispatch` that looks at every slot.
-/

variable (stub : WlBridgeState) (index : Fin maxCallbacks)

/-- `wl_surface.frame` and `wl_display.sync` -/
def requestCallback : WlBridgeState :=
  let made := stub.allocCallback
  { made with
    callbacks := Function.update made.callbacks stub.callbackSlot
      { made.callbacks stub.callbackSlot with pending := true } }

/-- The part of `wl_proxy_add_listener` and of `wl_proxy_add_dispatcher` for a callback. -/
def registerCallback (register : ListenerSlot → ListenerSlot) : WlBridgeState :=
  { stub with
    callbacks := Function.update stub.callbacks index
      { stub.callbacks index with listener := register (stub.callbacks index).listener }
    callbackArmed := Function.update stub.callbackArmed index false
    callbackPending := Function.update stub.callbackPending index true }

/-- The part of `wl_proxy_destroy` for a callback; `callback_pending` stays. -/
def proxyDestroyCallback : WlBridgeState :=
  { stub with callbacks := Function.update stub.callbacks index .empty }

def callbackHandle : UInt32 := handleAt bhCallbackBase index.val

/-- The first sighting: the handler may not be there yet. -/
def armCallback : WlBridgeState :=
  { stub with callbackArmed := Function.update stub.callbackArmed index true }

def disarmCallback : WlBridgeState :=
  { stub with
    callbackPending := Function.update stub.callbackPending index false
    callbackArmed := Function.update stub.callbackArmed index false }

/-- What the phase of the callbacks does at one slot, with the events that it delivers. -/
def visitCallback : WlBridgeState × List Delivery :=
  let listener := (stub.callbacks index).listener
  if stub.callbackPending index = true ∧ listener.Attached then
    if stub.callbackArmed index = true then
      (stub.disarmCallback index, listener.fireCallbackDone (callbackHandle index))
    else (stub.armCallback index, [])
  else (stub, [])

/-! ## The requests that make and destroy a callback -/

variable {stub} {index}

theorem newCallback_eq :
    stub.newCallback = stub.requestCallback.returns (callbackHandle stub.callbackSlot) := rfl

theorem wlProxyMarshalFlags_sync {opcode : UInt32} {args : VaList} :
    stub.wlProxyMarshalFlags .display opcode (some "wl_callback") args =
      stub.requestCallback.returns (callbackHandle stub.callbackSlot) := by
  change stub.displayConstructor (some "wl_callback") = _
  rw [displayConstructor, if_neg (by decide), if_pos rfl, newCallback_eq]

theorem wlProxyMarshalFlags_frame {proxy : WlProxyRef} {offset : Fin surfaceRange}
    {interface : String} {args : VaList} (surface : stub.objectFor proxy = .surface offset) :
    stub.wlProxyMarshalFlags proxy 3 (some interface) args =
      stub.requestCallback.returns (callbackHandle stub.callbackSlot) := by
  cases proxy with
  | display => cases surface
  | handle number =>
      change objectOf (stub.resolveHandle number) = _ at surface
      rw [wlProxyMarshalFlags, branch, surface]
      rfl

theorem wlProxyMarshalFlags_callbackDestroy {proxy : WlProxyRef} {opcode : UInt32}
    {args : VaList} (callback : stub.objectFor proxy = .callback index) :
    stub.wlProxyMarshalFlags proxy opcode none args =
      (stub.callbackDestroy index).returns 0 := by
  cases proxy with
  | display => cases callback
  | handle number =>
      change objectOf (stub.resolveHandle number) = _ at callback
      rw [wlProxyMarshalFlags, branch, callback]
      rfl

/-! ## One slot -/

theorem listener_requestCallback_self :
    (stub.requestCallback.callbacks stub.callbackSlot).listener = .empty := by
  simp [requestCallback, allocCallback, CallbackSlot.empty]

theorem callbacks_requestCallback_of_ne (other : index ≠ stub.callbackSlot) :
    stub.requestCallback.callbacks index = stub.callbacks index := by
  simp [requestCallback, allocCallback, other]

theorem callbacks_proxyDestroyCallback_self :
    (stub.proxyDestroyCallback index).callbacks index = .empty :=
  Function.update_self ..

theorem callbacks_callbackDestroy_self :
    (stub.callbackDestroy index).callbacks index =
      { listener := (stub.callbacks index).listener.listen 0 0, pending := false } :=
  Function.update_self ..

theorem callbackPending_disarmCallback_self :
    (stub.disarmCallback index).callbackPending index = false :=
  Function.update_self ..

theorem callbackPending_disarmCallback_of_ne {other : Fin maxCallbacks} (apart : other ≠ index) :
    (stub.disarmCallback index).callbackPending other = stub.callbackPending other :=
  Function.update_of_ne apart ..

/-- The listener that fires is told once. -/
theorem length_fireCallbackDone {listener : ListenerSlot} (handle : UInt32)
    (attached : listener.Attached) : (listener.fireCallbackDone handle).length = 1 := by
  rw [ListenerSlot.fireCallbackDone]
  split
  · rename_i funcs
    rw [ListenerSlot.callFuncs, if_neg funcs]
    rfl
  · rename_i funcs
    rcases attached with member | dispatcher
    · exact absurd member funcs
    · rw [ListenerSlot.callDispatch, if_neg dispatcher]
      rfl

/-- What a visit can do to its slot. -/
theorem visitCallback_cases (stub : WlBridgeState) (index : Fin maxCallbacks) :
    (stub.visitCallback index = (stub, []) ∧
      ¬ (stub.callbackPending index = true ∧ (stub.callbacks index).listener.Attached)) ∨
    (stub.callbackPending index = true ∧ (stub.callbacks index).listener.Attached ∧
      stub.callbackArmed index = false ∧
      stub.visitCallback index = (stub.armCallback index, [])) ∨
    (stub.callbackPending index = true ∧ (stub.callbacks index).listener.Attached ∧
      stub.callbackArmed index = true ∧
      stub.visitCallback index =
        (stub.disarmCallback index,
          (stub.callbacks index).listener.fireCallbackDone (callbackHandle index))) := by
  by_cases waiting : stub.callbackPending index = true ∧ (stub.callbacks index).listener.Attached
  · refine .inr ?_
    cases armed : stub.callbackArmed index with
    | false =>
        refine .inl ⟨waiting.1, waiting.2, rfl, ?_⟩
        rw [visitCallback, if_pos waiting, if_neg (by rw [armed]; exact Bool.false_ne_true)]
    | true =>
        refine .inr ⟨waiting.1, waiting.2, rfl, ?_⟩
        rw [visitCallback, if_pos waiting, if_pos armed]
  · exact .inl ⟨if_neg waiting, waiting⟩

end GlesBridge.Stub.WlBridgeState
