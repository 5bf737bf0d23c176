import GlesBridge.Stub.Callbacks
import GlesBridge.Stub.Seats

namespace GlesBridge.Stub.WlBridgeState

/-! `wl_proxy_destroy`, which chooses by the handle what it forgets and what it sends. -/

variable (stub : WlBridgeState)

/-- The test for webOS shell surfaces stands before the one whose command they share with
shell surfaces, so that only the latter are told to the proxy. -/
def destroySends : BridgeObject → Option StubCommand
  | .surface offset =>
      if stub.slotFor offset.val = 0 then none
      else some (.wlSurfaceDestroy (stub.slotFor offset.val))
  | .shellSurf offset =>
      if stub.slotFor offset.val = 0 then none
      else some (.wlProxyDestroy (stub.slotFor offset.val))
  | _ => none

def forgetWebosSurf (offset : Nat) : WlBridgeState :=
  { stub with
    webosSs := .empty
    webosSsArr :=
      if inside : offset < surfMapMax then
        Function.update stub.webosSsArr ⟨offset, inside⟩ .empty
      else stub.webosSsArr }

def destroyLocally : BridgeObject → WlBridgeState
  | .registry => { stub with registry := .empty, globalsFired := false }
  | .seat index => { stub with seats := Function.update stub.seats index .empty }
  | .output index => stub.destroyOutput index
  | .keyboard index => stub.destroyKeyboard index
  | .pointer index => { stub with pointers := Function.update stub.pointers index .empty }
  | .webosSurf offset => stub.forgetWebosSurf offset.val
  | .webosSeat index =>
      { stub with
        webosSeats := Function.update stub.webosSeats index .empty
        webosSeatInfoFired := Function.update stub.webosSeatInfoFired index false }
  | .callback index => stub.proxyDestroyCallback index
  | _ => stub

def wlProxyDestroy (number : UInt32) : StubCall :=
  let object := objectOf (stub.resolveHandle number)
  { sends := stub.destroySends object
    finish := fun _ => (stub.destroyLocally object, 0) }

/-- What stays of the surfaces, whatever is destroyed. -/
theorem destroyLocally_surfaces (object : BridgeObject) :
    (stub.destroyLocally object).surfaceSlotMap = stub.surfaceSlotMap ∧
      (stub.destroyLocally object).nextSurface = stub.nextSurface := by
  cases object with
  | _ => exact ⟨rfl, rfl⟩

end GlesBridge.Stub.WlBridgeState
