import GlesBridge.Stub.StateEvents
import GlesBridge.Systems.Aliases
import Mathlib.Data.List.FinRange

namespace GlesBridge.Stub

open GlesBridge.Systems

/-! Proxy wrappers, and the entry points that take a proxy beside the requests. -/

abbrev maxProxyUserdata : Nat := 2048

abbrev maxProxyTags : Nat := 2048

/-- `IS_BH`; any other pointer but that of a display goes to the real library. -/
def IsBh (handle : UInt32) : Prop := 0 < handle.toNat ∧ handle.toNat < 2048

instance decidableIsBh (handle : UInt32) : Decidable (IsBh handle) := instDecidableAnd

/-- What the stub keeps about proxies beside `WlBridgeState`: `g_proxy_userdata`,
`g_proxy_tags` and `seat_caps_pending`. -/
structure ProxyTables where
  userData : UInt32 → UInt64
  tags : UInt32 → UInt64
  seatCapsPending : Fin maxSeats → Bool

/-- The end of `wl_proxy_destroy` and of `wl_proxy_wrapper_destroy`. -/
def ProxyTables.forget (tables : ProxyTables) (handle : UInt32) : ProxyTables :=
  { tables with
    userData :=
      if handle.toNat < maxProxyUserdata then Function.update tables.userData handle 0
      else tables.userData
    tags :=
      if handle.toNat < maxProxyTags then Function.update tables.tags handle 0
      else tables.tags }

/-- `is_wrapper_handle`, with the slot of the wrapper. -/
def wrapperOf (handle : UInt32) : Option (Fin maxWrappers) :=
  offsetIn bhWrapperBase maxWrappers handle

def wrapperHandle (slot : Fin maxWrappers) : UInt32 := handleAt bhWrapperBase slot.val

namespace WlBridgeState

variable (stub : WlBridgeState)

/-- The first slot that is free. -/
def freeWrapper : Option (Fin maxWrappers) :=
  (List.finRange maxWrappers).find? fun slot => decide (stub.wrapperTarget slot = 0)

/-- A display is its own wrapper. Without a free slot, `NULL` is returned. -/
def wlProxyCreateWrapper : WlProxyRef → WlBridgeState × Option WlProxyRef
  | .display => (stub, some .display)
  | .handle number =>
      match stub.freeWrapper with
      | some slot =>
          ({ stub with
              wrapperTarget :=
                Function.update stub.wrapperTarget slot (stub.resolveHandle number) },
            some (.handle (wrapperHandle slot)))
      | none => (stub, none)

def wlProxyWrapperDestroy (tables : ProxyTables) : WlProxyRef → WlBridgeState × ProxyTables
  | .display => (stub, tables)
  | .handle number =>
      ({ stub with
          wrapperTarget :=
            match wrapperOf number with
            | some slot => Function.update stub.wrapperTarget slot 0
            | none => stub.wrapperTarget },
        tables.forget number)

/-- The surfaces have the numbers of their slots; from 0xF0 on there is the watermark. -/
def wlProxyGetId : WlProxyRef → UInt32
  | .display => 1
  | .handle number =>
      let handle := stub.resolveHandle number
      if 0xF0 ≤ handle.toNat then stub.idWatermark
      else if bhSurfaceBase ≤ handle.toNat ∧ handle.toNat < bhShellSurfBase then
        stub.slotForSurface handle
      else 0

/-! ## Listeners and dispatchers -/

/-- The events of a webOS seat that is known are fired once. -/
def attachWebosSeat (index : Fin maxSeats) (change : ListenerSlot → ListenerSlot)
    (dispatcher : Bool) : WlBridgeState × List Delivery :=
  let slot := change (stub.webosSeats index)
  let attached := { stub with webosSeats := Function.update stub.webosSeats index slot }
  if stub.webosSeat.received = true ∧ stub.webosSeatInfoFired index = false then
    ({ attached with
        webosSeatInfoFired := Function.update stub.webosSeatInfoFired index true },
      slot.fireWebosSeatInfo (handleAt bhWebosSeatBase index.val) stub.webosSeat dispatcher)
  else (attached, [])

def attachSeat (index : Fin maxSeats) (change : ListenerSlot → ListenerSlot) : WlBridgeState :=
  { stub with seats := Function.update stub.seats index (change (stub.seats index)) }

def attachPointer (index : Fin maxSeats) (change : ListenerSlot → ListenerSlot) : WlBridgeState :=
  { stub with pointers := Function.update stub.pointers index (change (stub.pointers index)) }

/-- `wl_proxy_add_listener`, with the events that it fires before it returns 0. -/
def wlProxyAddListener (proxy : WlProxyRef) (funcs data : UInt64) :
    WlBridgeState × List Delivery :=
  let change := fun slot : ListenerSlot => slot.listen funcs data
  match stub.objectFor proxy with
  | .registry => ({ stub with registry := change stub.registry }, [])
  | .seat index =>
      (stub.attachSeat index change,
        (change (stub.seats index)).fireSeatCapabilities (handleAt bhSeatBase index.val))
  | .output index => (stub.attachOutput index change, [])
  | .webosSurf offset => (stub.attachWebosSurf offset.val change, [])
  | .keyboard index => (stub.attachKeyboard index change, [])
  | .pointer index => (stub.attachPointer index change, [])
  | .callback index => (stub.registerCallback index change, [])
  | .webosSeat index => stub.attachWebosSeat index change false
  | _ => (stub, [])

/-- A registry with another implementation is told the globals again. -/
def dispatchRegistry (fn impl data : UInt64) : WlBridgeState :=
  { stub with
    registry := stub.registry.dispatchWith fn impl data
    globalsFired := if impl ≠ stub.registry.dispatchImpl then false else stub.globalsFired }

/-- `wl_proxy_add_dispatcher`; the capabilities of a seat wait for the next dispatch. -/
def wlProxyAddDispatcher (proxy : WlProxyRef) (fn impl data : UInt64) :
    WlBridgeState × List Delivery :=
  let change := fun slot : ListenerSlot => slot.dispatchWith fn impl data
  match stub.objectFor proxy with
  | .registry => (stub.dispatchRegistry fn impl data, [])
  | .seat index => (stub.attachSeat index change, [])
  | .output index => (stub.attachOutput index change, [])
  | .webosSurf offset => (stub.attachWebosSurf offset.val change, [])
  | .keyboard index => (stub.attachKeyboard index change, [])
  | .pointer index => (stub.attachPointer index change, [])
  | .callback index => (stub.registerCallback index change, [])
  | .webosSeat index => stub.attachWebosSeat index change true
  | _ => (stub, [])

def capsPending (proxy : WlProxyRef) (tables : ProxyTables) : ProxyTables :=
  match stub.objectFor proxy with
  | .seat index =>
      { tables with seatCapsPending := Function.update tables.seatCapsPending index true }
  | _ => tables

/-- The handle that `wl_proxy_destroy` clears the user data and the tag of. -/
def forgetProxy (tables : ProxyTables) : WlProxyRef → ProxyTables
  | .display => tables
  | .handle number => tables.forget (stub.resolveHandle number)

/-! ## The table of the wrappers -/

/-- A free slot holds 0. -/
def wraps (slot : Fin maxWrappers) : Option UInt32 :=
  if stub.wrapperTarget slot = 0 then none else some (stub.wrapperTarget slot)

variable {stub} {guard : Nat} {handle number : UInt32} {slot : Fin maxWrappers}

theorem resolveWithin_eq_follow :
    stub.resolveWithin guard handle = Aliases.follow wrapperOf stub.wraps guard handle := by
  induction guard generalizing handle with
  | zero => rfl
  | succ guard ih =>
      have looked : offsetIn bhWrapperBase maxWrappers handle = wrapperOf handle := rfl
      rw [resolveWithin, Aliases.follow, looked]
      cases named : wrapperOf handle with
      | none => rw [Aliases.target_of_none named]
      | some wrapper =>
          rw [Aliases.target_of_alias named, wraps]
          dsimp only
          split_ifs
          · rfl
          · exact ih

theorem resolveHandle_eq_meaning (settled : Aliases.Settled wrapperOf stub.wraps) :
    stub.resolveHandle handle = Aliases.meaning wrapperOf stub.wraps handle :=
  resolveWithin_eq_follow.trans settled.follow_eq_meaning

theorem wrapperOf_injective {first second : UInt32} (left : wrapperOf first = some slot)
    (right : wrapperOf second = some slot) : first = second :=
  (eq_handleAt left).trans (eq_handleAt right).symm

theorem wrapperOf_wrapperHandle : wrapperOf (wrapperHandle slot) = some slot :=
  offsetIn_handleAt (Nat.lt_trans (Nat.add_lt_add_left slot.isLt _) (by decide)) slot.isLt

theorem wraps_update {value : UInt32} :
    wraps { stub with wrapperTarget := Function.update stub.wrapperTarget slot value } =
      Function.update stub.wraps slot (if value = 0 then none else some value) := by
  funext other
  change (if Function.update stub.wrapperTarget slot value other = 0 then none
    else some (Function.update stub.wrapperTarget slot value other)) = _
  by_cases same : other = slot
  · subst same
    rw [Function.update_self, Function.update_self]
  · rw [Function.update_of_ne same, Function.update_of_ne same, wraps]

theorem wlProxyCreateWrapper_free (found : stub.freeWrapper = some slot) :
    stub.wlProxyCreateWrapper (.handle number) =
      ({ stub with
          wrapperTarget := Function.update stub.wrapperTarget slot (stub.resolveHandle number) },
        some (.handle (wrapperHandle slot))) := by
  rw [wlProxyCreateWrapper, found]

theorem wlProxyCreateWrapper_full (full : stub.freeWrapper = none) :
    stub.wlProxyCreateWrapper (.handle number) = (stub, none) := by
  rw [wlProxyCreateWrapper, full]

/-! ## Calls that leave the wrappers alone -/

def KeepsWrappers (stub : WlBridgeState) (marshalled : Marshalled) : Prop :=
  ∀ call, marshalled = .ok call → ∀ reply, (call.finish reply).1.wrapperTarget = stub.wrapperTarget

section

variable {next : WlBridgeState} {interface : Option String} {args : VaList} {proxy : WlProxyRef}
  {change : ListenerSlot → ListenerSlot}

theorem keepsWrappers_error {fault : MarshalFault} : KeepsWrappers stub (.error fault) := nofun

theorem keepsWrappers_returns (same : next.wrapperTarget = stub.wrapperTarget) :
    KeepsWrappers stub (next.returns handle) := by
  intro call returned reply
  cases returned
  exact same

theorem keepsWrappers_sendsTo {target : UInt32} {command : UInt32 → StubCommand} :
    KeepsWrappers stub (stub.sendsTo target command handle) := by
  rw [sendsTo]
  split
  · exact keepsWrappers_error
  · intro call sent reply
    cases sent
    rfl

theorem keepsWrappers_withObject {next : UInt32 → Marshalled}
    (keeps : ∀ handle, KeepsWrappers stub (next handle)) :
    KeepsWrappers stub (withObject args next) := by
  unfold withObject
  split
  · exact keeps _
  · exact keepsWrappers_error

theorem keepsWrappers_displayConstructor :
    KeepsWrappers stub (stub.displayConstructor interface) := by
  rw [displayConstructor]
  split
  · exact keepsWrappers_returns rfl
  · split
    · exact keepsWrappers_returns rfl
    · exact keepsWrappers_returns rfl

theorem keepsWrappers_registryBind : KeepsWrappers stub (stub.registryBind interface) := by
  rw [registryBind]
  repeat' split
  all_goals exact keepsWrappers_returns rfl

theorem keepsWrappers_seatObject {index : Fin maxSeats} :
    KeepsWrappers stub (stub.seatObject interface index) := by
  rw [seatObject]
  repeat' split
  all_goals exact keepsWrappers_returns rfl

theorem keepsWrappers_setState {offset : Nat} {state : UInt32} :
    KeepsWrappers stub (stub.setState offset state) := by
  rw [setState]
  split
  · exact keepsWrappers_returns rfl
  · intro call sent reply
    cases sent
    rfl

theorem keepsWrappers_setProperty {offset : Nat} {name value : Option (List UInt8)} :
    KeepsWrappers stub (stub.setProperty offset name value) := by
  unfold setProperty
  split
  · exact keepsWrappers_sendsTo
  · exact keepsWrappers_returns rfl

theorem keepsWrappers_perform (branch : Branch) :
    KeepsWrappers stub (stub.perform interface args branch) := by
  cases branch with
  | display => exact keepsWrappers_displayConstructor
  | bind => exact keepsWrappers_registryBind
  | createSurface =>
      intro call sent reply
      cases sent
      rfl
  | getShellSurface | webosGetShellSurface =>
      exact keepsWrappers_withObject fun _ => keepsWrappers_sendsTo
  | setToplevel offset | commit offset | surfaceDestroy offset => exact keepsWrappers_sendsTo
  | setState offset =>
      change KeepsWrappers stub (withUint args (stub.setState offset))
      unfold withUint
      split
      · exact keepsWrappers_setState
      · exact keepsWrappers_error
  | setProperty offset =>
      change KeepsWrappers stub (withStrings args (stub.setProperty offset))
      unfold withStrings
      split
      · exact keepsWrappers_setProperty
      · exact keepsWrappers_error
  | seatObject index => exact keepsWrappers_seatObject
  | getWebosSeat => exact keepsWrappers_withObject fun _ => keepsWrappers_returns rfl
  | frame | callbackDestroy index | generic => exact keepsWrappers_returns rfl

theorem keepsWrappers_nullWithout {marshalled : Marshalled}
    (keeps : KeepsWrappers stub marshalled) :
    KeepsWrappers stub (nullWithout interface marshalled) := by
  rw [nullWithout]
  split
  · cases marshalled with
    | error fault => exact keepsWrappers_error
    | ok call =>
        intro made shape reply
        cases shape
        exact keeps call rfl reply
  · exact keeps

theorem keepsWrappers_wlProxyMarshal {opcode : UInt32} (given : List Argument) :
    KeepsWrappers stub (stub.wlProxyMarshal proxy opcode given) := by
  unfold wlProxyMarshal
  split
  · split
    · exact keepsWrappers_sendsTo
    · exact keepsWrappers_returns rfl
  · exact keepsWrappers_returns rfl

theorem keepsWrappers_wlProxyDestroy : KeepsWrappers stub (.ok (stub.wlProxyDestroy number)) := by
  intro call shape reply
  cases shape
  change (stub.destroyLocally (objectOf (stub.resolveHandle number))).wrapperTarget = _
  cases objectOf (stub.resolveHandle number) with
  | _ => rfl

theorem wrapperTarget_attachWebosSeat {index : Fin maxSeats} {dispatcher : Bool} :
    (stub.attachWebosSeat index change dispatcher).1.wrapperTarget = stub.wrapperTarget := by
  rw [attachWebosSeat]
  dsimp only
  split
  · rfl
  · rfl

theorem wrapperTarget_wlProxyAddListener {funcs data : UInt64} :
    (stub.wlProxyAddListener proxy funcs data).1.wrapperTarget = stub.wrapperTarget := by
  rw [wlProxyAddListener]
  cases stub.objectFor proxy with
  | webosSeat index => exact wrapperTarget_attachWebosSeat
  | _ => rfl

theorem wrapperTarget_wlProxyAddDispatcher {fn impl data : UInt64} :
    (stub.wlProxyAddDispatcher proxy fn impl data).1.wrapperTarget = stub.wrapperTarget := by
  rw [wlProxyAddDispatcher]
  cases stub.objectFor proxy with
  | webosSeat index => exact wrapperTarget_attachWebosSeat
  | _ => rfl

end

end WlBridgeState

end GlesBridge.Stub
