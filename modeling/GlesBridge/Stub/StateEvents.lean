import GlesBridge.Stub.Destroy

namespace GlesBridge.Stub.WlBridgeState

/-! The state events of webOS shell surfaces, which the proxy names by its own slots. -/

variable (stub : WlBridgeState)

/-- The part of `wl_proxy_add_listener` and of `wl_proxy_add_dispatcher` for a webOS shell
surface, which is also the one of them all. -/
def attachWebosSurf (offset : Nat) (change : ListenerSlot → ListenerSlot) : WlBridgeState :=
  { stub with
    webosSs := change stub.webosSs
    webosSsArr :=
      if inside : offset < surfMapMax then
        Function.update stub.webosSsArr ⟨offset, inside⟩ (change (stub.webosSsArr ⟨offset, inside⟩))
      else stub.webosSsArr }

/-- `_fire_keyboard_focus_to` -/
def fireKeyboardFocusTo (file : Option Int) (surface : UInt32) : WlBridgeState × List Delivery :=
  (if ∃ index, (stub.keyboards index).Attached then stub.focused surface else stub,
    (List.finRange maxSeats).flatMap fun index => stub.focusKeyboard index file surface)

/-- Slots of the proxy count from 1, and the offsets of the stub from 0. -/
def stubIdx (proxySlot : UInt32) : UInt32 := if 0 < proxySlot then proxySlot - 1 else 0

/-- The first surface of an event is the active one. -/
def activate (surface : UInt32) : WlBridgeState :=
  if stub.activeSurfaceHandle = 0 then { stub with activeSurfaceHandle := surface } else stub

/-- A surface that goes fullscreen takes the focus of another one. -/
def stateFocus (file : Option Int) (proxySlot wstate : UInt32) : WlBridgeState × List Delivery :=
  let surface := .ofNat bhSurfaceBase + stubIdx proxySlot
  if wstate = 3 ∧ stub.keyboardEnterSent = true ∧ stub.keyboardFocusHandle ≠ surface then
    (stub.activate surface).fireKeyboardFocusTo file surface
  else (stub.activate surface, [])

def perSurface (index : UInt32) : ListenerSlot :=
  if inside : index.toNat < surfMapMax then stub.webosSsArr ⟨index.toNat, inside⟩ else .empty

/-- The listener of the surface, then the one of them all, and then the dispatchers alike. -/
def stateReceiver (index : UInt32) : ListenerSlot :=
  if (stub.perSurface index).funcs ≠ 0 then stub.perSurface index
  else if stub.webosSs.funcs ≠ 0 then stub.webosSs
  else if (stub.perSurface index).dispatchFn ≠ 0 then stub.perSurface index
  else stub.webosSs

def stateDeliver (proxySlot wstate : UInt32) : List Delivery :=
  (stub.stateReceiver (stubIdx proxySlot)).deliverState
    (.ofNat bhWebosSurfBase + stubIdx proxySlot) wstate

/-! ## What the focus leaves as it is -/

/-- No surface is made, and no slot is mapped. -/
def SameSurfaces (next : WlBridgeState) : Prop :=
  next.surfaceSlotMap = stub.surfaceSlotMap ∧ next.nextSurface = stub.nextSurface

variable {stub} {file : Option Int} {surface proxySlot wstate : UInt32}

theorem SameSurfaces.refl (stub : WlBridgeState) : stub.SameSurfaces stub := ⟨rfl, rfl⟩

theorem SameSurfaces.trans {middle next : WlBridgeState} (first : stub.SameSurfaces middle)
    (second : middle.SameSurfaces next) : stub.SameSurfaces next :=
  ⟨second.1.trans first.1, second.2.trans first.2⟩

theorem sameSurfaces_activate : stub.SameSurfaces (stub.activate surface) := by
  rw [activate]
  split
  · exact ⟨rfl, rfl⟩
  · exact .refl stub

theorem sameSurfaces_fireKeyboardFocusTo :
    stub.SameSurfaces (stub.fireKeyboardFocusTo file surface).1 := by
  rw [fireKeyboardFocusTo]
  dsimp only
  split
  · exact ⟨rfl, rfl⟩
  · exact .refl stub

theorem sameSurfaces_stateFocus :
    stub.SameSurfaces (stub.stateFocus file proxySlot wstate).1 := by
  rw [stateFocus]
  split
  · exact sameSurfaces_activate.trans sameSurfaces_fireKeyboardFocusTo
  · exact sameSurfaces_activate

theorem activeSurfaceHandle_activate :
    (stub.activate surface).activeSurfaceHandle =
      if stub.activeSurfaceHandle = 0 then surface else stub.activeSurfaceHandle :=
  apply_ite WlBridgeState.activeSurfaceHandle ..

/-- The focus is no matter of the surface that is active. -/
theorem activate_focus :
    (stub.activate surface).keyboardFocusHandle = stub.keyboardFocusHandle ∧
      (stub.activate surface).keyboards = stub.keyboards ∧
      (stub.activate surface).keymap = stub.keymap := by
  rw [activate]
  split
  · exact ⟨rfl, rfl, rfl⟩
  · exact ⟨rfl, rfl, rfl⟩

theorem activeSurfaceHandle_fireKeyboardFocusTo :
    (stub.fireKeyboardFocusTo file surface).1.activeSurfaceHandle = stub.activeSurfaceHandle := by
  rw [fireKeyboardFocusTo]
  dsimp only
  split
  · rfl
  · rfl

end GlesBridge.Stub.WlBridgeState
