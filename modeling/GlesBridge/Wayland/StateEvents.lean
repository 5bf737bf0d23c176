import GlesBridge.Proxy.Events
import GlesBridge.Stub.StateEvents
import GlesBridge.Wayland.Surfaces
import Mathlib.Algebra.GroupWithZero.Nat

namespace GlesBridge.Wayland

open GlesBridge.Proxy GlesBridge.Stub GlesBridge.Systems

/-! The states of webOS shell surfaces, from the compositor through the slots of the proxy to
the listeners of a client, whatever the client asks for in between.
-/

theorem proxySurfMax_nonzero : NeZero proxySurfMax := ⟨by decide⟩

attribute [local instance] proxySurfMax_nonzero

structure StateWorld where
  bridge : WlBridge
  wssState : Fin proxySurfMax → WssState
  /-- The states that the stub has and that are not delivered. -/
  received : List (Fin proxySurfMax × UInt32)
  /-- Since the connect a surface was asked for when there was no compositor. -/
  refused : Bool

inductive StateInput where
  | connect (words : Nat → UInt32) (name : List UInt8)
      (display compositor shell webosShell : UInt32)
  | disconnect (slot : UInt32)
  | announce (compositor : UInt32)
  | marshal (proxy : WlProxyRef) (opcode : UInt32) (interface : Option String) (args : VaList)
      (answer : UInt32)
  | proxyDestroy (handle : UInt32)
  | listen (offset : Fin surfaceRange) (change : ListenerSlot → ListenerSlot)
  | listenKeys (index : Fin maxSeats) (change : ListenerSlot → ListenerSlot)
  | enter (file : Option Int)
  | compositor (event : CompositorEvent)
  | collect
  | focus (file : Option Int) (slot : Fin proxySurfMax) (state : UInt32)
  | deliver (slot : Fin proxySurfMax) (state : UInt32)

/-- What a state of the surface does to the focus. -/
structure FocusGiven (stub : WlBridgeState) (file : Option Int) (proxySlot state surface : UInt32) :
    Prop where
  active : (stub.stateFocus file proxySlot state).1.activeSurfaceHandle =
    if stub.activeSurfaceHandle = 0 then surface else stub.activeSurfaceHandle
  entered : state = stateFullscreen → stub.keyboardEnterSent = true →
    stub.keyboardFocusHandle ≠ surface →
      (stub.stateFocus file proxySlot state).2 =
          ((List.finRange maxSeats).flatMap fun index => stub.focusKeyboard index file surface) ∧
        ((∃ index, (stub.keyboards index).Attached) →
          (stub.stateFocus file proxySlot state).1.keyboardFocusHandle = surface)
  quiet : ¬ (state = stateFullscreen ∧ stub.keyboardEnterSent = true ∧
      stub.keyboardFocusHandle ≠ surface) →
    (stub.stateFocus file proxySlot state).2 = [] ∧
      (stub.stateFocus file proxySlot state).1.keyboardFocusHandle = stub.keyboardFocusHandle

namespace StateWorld

variable (world : StateWorld)

/-- The proxy has one table of webOS shell surfaces. -/
def relay : WlRelay where
  inputEvts := .empty
  wssState := world.wssState
  webosShellSurfaces := world.bridge.tables.gWebosShellSurfaces

/-- A surface that the proxy has just made has no state. -/
def tracked (after : HandleTables) : Fin proxySurfMax → WssState := fun slot =>
  if world.bridge.tables.gWebosShellSurfaces slot = 0 ∧ after.gWebosShellSurfaces slot ≠ 0 then .zero
  else world.wssState slot

def afterCall (bridge : WlBridge) (refused : Bool) : StateWorld where
  bridge := bridge
  wssState := world.tracked bridge.tables
  received := world.received
  refused := refused

def withStub (stub : WlBridgeState) : StateWorld :=
  { world with bridge := { world.bridge with stub } }

def withTables (tables : HandleTables) : StateWorld :=
  { world with bridge := { world.bridge with tables } }

def Creates (proxy : WlProxyRef) (opcode : UInt32) (interface : Option String) : Prop :=
  world.bridge.stub.branch proxy opcode interface = .createSurface

instance decidableCreates (proxy : WlProxyRef) (opcode : UInt32) (interface : Option String) :
    Decidable (world.Creates proxy opcode interface) :=
  instDecidableEqBranch ..

/-- There is no compositor to make the surface. -/
def Refuses (proxy : WlProxyRef) (opcode : UInt32) (interface : Option String) : Prop :=
  world.Creates proxy opcode interface ∧ world.bridge.tables.proxyWlCompositor = 0

instance decidableRefuses (proxy : WlProxyRef) (opcode : UInt32) (interface : Option String) :
    Decidable (world.Refuses proxy opcode interface) :=
  @instDecidableAnd _ _ (world.decidableCreates ..) (instDecidableEqUInt32 ..)

/-- A surface is asked for, and the proxy makes it. -/
def Makes (proxy : WlProxyRef) (opcode : UInt32) (interface : Option String) (answer : UInt32) :
    Prop :=
  world.Creates proxy opcode interface ∧ world.bridge.tables.proxyWlCompositor ≠ 0 ∧
    world.bridge.tables.gSurfNext.toNat < proxySurfMax ∧ answer ≠ 0

instance decidableMakes (proxy : WlProxyRef) (opcode : UInt32) (interface : Option String)
    (answer : UInt32) : Decidable (world.Makes proxy opcode interface answer) :=
  @instDecidableAnd _ _ (world.decidableCreates ..)
    (@instDecidableAnd _ _ instDecidableNot
      (@instDecidableAnd _ _ (Nat.decLt ..) instDecidableNot))

/-- The state has come to the stub, and is not delivered. -/
def Waits (slot : Fin proxySurfMax) (state : UInt32) : Prop := (slot, state) ∈ world.received

instance decidableWaits (slot : Fin proxySurfMax) (state : UInt32) :
    Decidable (world.Waits slot state) :=
  List.instDecidableMemOfLawfulBEq ..

/-- The states come to the stub in one batch, and its listeners may call it between any two
of them. -/
def step : StateInput → Option StateWorld
  | .connect words name display compositor shell webosShell =>
      (world.bridge.connect words name display compositor shell webosShell).map fun bridge =>
        { world with bridge, refused := false }
  | .disconnect slot =>
      match (Handler.hWlDisplayDisconnect slot).run world.bridge.tables with
      | .ok (_, tables) => some (world.withTables tables)
      | .error _ => none
  | .announce compositor =>
      some (world.withTables { world.bridge.tables with proxyWlCompositor := compositor })
  | .marshal proxy opcode interface args answer =>
      (world.bridge.call (world.bridge.stub.wlProxyMarshalFlags proxy opcode interface args)
        answer).map fun done =>
          world.afterCall done.1 (world.refused || decide (world.Refuses proxy opcode interface))
  | .proxyDestroy handle =>
      (world.bridge.call (.ok (world.bridge.stub.wlProxyDestroy handle)) 0).map fun done =>
        world.afterCall done.1 world.refused
  | .listen offset change =>
      some (world.withStub (world.bridge.stub.attachWebosSurf offset.val change))
  | .listenKeys index change => some (world.withStub (world.bridge.stub.attachKeyboard index change))
  | .enter file =>
      match world.bridge.stub.focusSurface with
      | some surface => some (world.withStub (world.bridge.stub.fireKeyboardFocusTo file surface).1)
      | none => some world
  | .compositor event => some { world with wssState := (world.relay.dispatch event).wssState }
  | .collect =>
      some { world with
        wssState := world.relay.collected.wssState
        received := world.received ++ world.relay.batch.states }
  | .focus file slot state =>
      if world.Waits slot state then
        some (world.withStub (world.bridge.stub.stateFocus file (.ofNat slot.val) state).1)
      else none
  | .deliver slot state =>
      if world.Waits slot state then
        some { world with received := world.received.erase (slot, state) }
      else none

/-- The client surface that the slot of the proxy belongs to. -/
def Maps (idx : Fin surfMapMax) (slot : Fin proxySurfMax) : Prop :=
  slot ≠ 0 ∧ world.bridge.stub.surfaceSlotMap idx = .ofNat slot.val

instance decidableMaps (idx : Fin surfMapMax) (slot : Fin proxySurfMax) :
    Decidable (world.Maps idx slot) :=
  @instDecidableAnd _ _ instDecidableNot (instDecidableEqUInt32 ..)

/-- A state of a slot of the proxy is one of the surface that the slot belongs to. -/
def Right : StateInput → Prop
  | .focus file slot state => ∀ idx, world.Maps idx slot →
      FocusGiven world.bridge.stub file (.ofNat slot.val) state (handleAt bhSurfaceBase idx.val)
  | .deliver slot state => ∀ idx, world.Maps idx slot →
      world.bridge.stub.stateDeliver (.ofNat slot.val) state =
        (world.bridge.stub.webosSsArr idx).deliverState (handleAt bhWebosSurfBase idx.val) state
  | _ => True

/-- The listener of the surface is not behind the one of them all. -/
def Preferred (idx : Fin surfMapMax) : Prop :=
  (world.bridge.stub.webosSsArr idx).funcs ≠ 0 ∨
    world.bridge.stub.webosSs.funcs = 0 ∧
      ((world.bridge.stub.webosSsArr idx).dispatchFn ≠ 0 ∨ world.bridge.stub.webosSs.dispatchFn = 0)

instance decidablePreferred (idx : Fin surfMapMax) : Decidable (world.Preferred idx) :=
  @instDecidableOr _ _ instDecidableNot
    (@instDecidableAnd _ _ (instDecidableEqUInt64 ..)
      (@instDecidableOr _ _ instDecidableNot (instDecidableEqUInt64 ..)))

/-- No surface is made once one was refused for want of a compositor, and each state comes
to a surface that the stub prefers the listener of. -/
def Orderly : StateInput → Prop
  | .marshal proxy opcode interface _ answer =>
      world.Makes proxy opcode interface answer → world.refused = false
  | .deliver slot _ => ∀ idx, world.Maps idx slot → world.Preferred idx
  | _ => True

end StateWorld

def stateMachine : Machine StateWorld StateInput where
  step := StateWorld.step

/-! ## Delivery -/

section

variable {stub : WlBridgeState} {file : Option Int} {proxySlot state surface : UInt32}

theorem focusGiven (named : .ofNat bhSurfaceBase + WlBridgeState.stubIdx proxySlot = surface) :
    FocusGiven stub file proxySlot state surface := by
  have kept : (stub.activate surface).keyboardFocusHandle = stub.keyboardFocusHandle ∧
      (stub.activate surface).keyboards = stub.keyboards ∧
      (stub.activate surface).keymap = stub.keymap := WlBridgeState.activate_focus
  obtain ⟨focus, keyboards, keymap⟩ := kept
  constructor
  case active =>
    rw [WlBridgeState.stateFocus, named, ← WlBridgeState.activeSurfaceHandle_activate]
    split
    · exact WlBridgeState.activeSurfaceHandle_fireKeyboardFocusTo
    · rfl
  case entered =>
    intro full sent away
    rw [WlBridgeState.stateFocus, named, if_pos ⟨full, sent, away⟩,
      WlBridgeState.fireKeyboardFocusTo]
    simp only [WlBridgeState.focusKeyboard, keyboards, keymap, true_and]
    intro attached
    rw [if_pos attached]
    rfl
  case quiet =>
    intro stays
    rw [WlBridgeState.stateFocus, named, if_neg stays]
    exact ⟨rfl, focus⟩

theorem perSurface_ofNat {idx : Fin surfMapMax} :
    stub.perSurface (.ofNat idx.val) = stub.webosSsArr idx := by
  have number : (UInt32.ofNat idx.val).toNat = idx.val :=
    UInt32.toNat_ofNat_of_lt' (idx.isLt.trans (by decide))
  have inside : (UInt32.ofNat idx.val).toNat < surfMapMax := by
    rw [number]
    exact idx.isLt
  rw [WlBridgeState.perSurface, dif_pos inside]
  exact congrArg _ (Fin.ext number)

theorem stubIdx_succ (idx : Fin surfMapMax) :
    WlBridgeState.stubIdx (.ofNat (idx.val + 1)) = .ofNat idx.val := by
  revert idx
  decide

/-- A listener that is not behind the one of them all is who is called. -/
theorem deliverState_preferred {world : StateWorld} {idx : Fin surfMapMax} {handle : UInt32}
    (preferred : world.Preferred idx) :
    (world.bridge.stub.stateReceiver (.ofNat idx.val)).deliverState handle state =
      (world.bridge.stub.webosSsArr idx).deliverState handle state := by
  rw [WlBridgeState.stateReceiver, perSurface_ofNat]
  by_cases own : (world.bridge.stub.webosSsArr idx).funcs ≠ 0
  · rw [if_pos own]
  · obtain ⟨legacy, dispatcher⟩ := preferred.resolve_left own
    rw [if_neg own, if_neg (not_not.mpr legacy)]
    by_cases dispatches : (world.bridge.stub.webosSsArr idx).dispatchFn ≠ 0
    · rw [if_pos dispatches]
    · have none := dispatcher.resolve_left dispatches
      rw [if_neg dispatches]
      simp [ListenerSlot.deliverState, ListenerSlot.callDispatch, legacy, none, not_not.mp own,
        not_not.mp dispatches]

end

/-! ## Calls that make no surface -/

def MakesNone (stub : WlBridgeState) (marshalled : Marshalled) : Prop :=
  ∀ call, marshalled = .ok call → call.sends ≠ some .wlCompositorCreateSurface ∧
    ∀ reply, stub.SameSurfaces (call.finish reply).1

section

variable {stub next : WlBridgeState} {handle slot : UInt32} {command : StubCommand}

theorem makesNone_error {fault : MarshalFault} : MakesNone stub (.error fault) := nofun

theorem makesNone_returns (same : stub.SameSurfaces next) : MakesNone stub (next.returns handle) := by
  rintro call ⟨⟩
  exact ⟨nofun, fun _ => same⟩

theorem makesNone_sends (other : command ≠ .wlCompositorCreateSurface) :
    MakesNone stub (stub.sends command handle) := by
  rintro call ⟨⟩
  exact ⟨fun same => other (Option.some.inj same), fun _ => .refl stub⟩

theorem makesNone_sendsTo {command : UInt32 → StubCommand}
    (other : command slot ≠ .wlCompositorCreateSurface) :
    MakesNone stub (stub.sendsTo slot command handle) := by
  rw [WlBridgeState.sendsTo]
  split
  · exact makesNone_error
  · exact makesNone_sends other

theorem makesNone_withObject {args : VaList} {next : UInt32 → Marshalled}
    (none : ∀ handle, MakesNone stub (next handle)) :
    MakesNone stub (WlBridgeState.withObject args next) := by
  unfold WlBridgeState.withObject
  split
  · exact none _
  · exact makesNone_error

theorem makesNone_displayConstructor {interface : Option String} :
    MakesNone stub (stub.displayConstructor interface) := by
  rw [WlBridgeState.displayConstructor]
  split
  · exact makesNone_returns ⟨rfl, rfl⟩
  · split
    · exact makesNone_returns ⟨rfl, rfl⟩
    · exact makesNone_returns ⟨rfl, rfl⟩

theorem makesNone_registryBind {interface : Option String} :
    MakesNone stub (stub.registryBind interface) := by
  rw [WlBridgeState.registryBind]
  repeat' split
  all_goals exact makesNone_returns ⟨rfl, rfl⟩

theorem makesNone_seatObject {interface : Option String} {index : Fin maxSeats} :
    MakesNone stub (stub.seatObject interface index) := by
  rw [WlBridgeState.seatObject]
  repeat' split
  all_goals exact makesNone_returns ⟨rfl, rfl⟩

theorem makesNone_setState {offset : Nat} {state : UInt32} :
    MakesNone stub (stub.setState offset state) := by
  rw [WlBridgeState.setState]
  split
  · exact makesNone_returns ⟨rfl, rfl⟩
  · exact makesNone_sends nofun

theorem makesNone_setProperty {offset : Nat} {name value : Option (List UInt8)} :
    MakesNone stub (stub.setProperty offset name value) := by
  cases name with
  | none => exact makesNone_returns ⟨rfl, rfl⟩
  | some name =>
      cases value with
      | none => exact makesNone_returns ⟨rfl, rfl⟩
      | some value =>
          have sends : MakesNone stub (stub.sendsTo (stub.slotFor offset)
              (.wlWebosSetProperty · name value) 0) := makesNone_sendsTo nofun
          exact sends

/-- Only one of the requests makes a surface. -/
theorem makesNone_perform {interface : Option String} {args : VaList} {branch : Branch}
    (other : branch ≠ .createSurface) : MakesNone stub (stub.perform interface args branch) := by
  cases branch with
  | createSurface => exact absurd rfl other
  | display => exact makesNone_displayConstructor
  | bind => exact makesNone_registryBind
  | getShellSurface | webosGetShellSurface =>
      exact makesNone_withObject fun _ => makesNone_sendsTo nofun
  | setToplevel offset | commit offset | surfaceDestroy offset => exact makesNone_sendsTo nofun
  | setState offset =>
      change MakesNone stub (WlBridgeState.withUint args (stub.setState offset))
      unfold WlBridgeState.withUint
      split
      · exact makesNone_setState
      · exact makesNone_error
  | setProperty offset =>
      change MakesNone stub (WlBridgeState.withStrings args (stub.setProperty offset))
      unfold WlBridgeState.withStrings
      split
      · exact makesNone_setProperty
      · exact makesNone_error
  | seatObject index => exact makesNone_seatObject
  | getWebosSeat => exact makesNone_withObject fun _ => makesNone_returns ⟨rfl, rfl⟩
  | frame | callbackDestroy index | generic => exact makesNone_returns ⟨rfl, rfl⟩

theorem makesNone_wlProxyDestroy : MakesNone stub (.ok (stub.wlProxyDestroy handle)) := by
  rintro call ⟨⟩
  refine ⟨?_, fun _ => stub.destroyLocally_surfaces _⟩
  rw [WlBridgeState.wlProxyDestroy]
  dsimp only
  cases objectOf (stub.resolveHandle handle) with
  | surface offset | shellSurf offset =>
      rw [WlBridgeState.destroySends]
      split
      · intro same
        cases same
      · intro same
        cases same
  | _ =>
      intro same
      cases same

/-- The other handlers leave the slots of the proxy alone. -/
theorem gSurfNext_request {tables after : HandleTables} {answer : UInt32} {reply : HandleReply}
    (other : command ≠ .wlCompositorCreateSurface)
    (runs : (Handler.wlDispatch (request answer command)).run tables = .ok (reply, after)) :
    after.gSurfNext = tables.gSurfNext := by
  have ensures : (Handler.wlDispatch (request answer command)).Ensures
      (fun _ after => after.gSurfNext = tables.gSurfNext) tables := by
    cases command with
    | wlCompositorCreateSurface => exact absurd rfl other
    | wlShellGetShellSurface slot =>
        change (Handler.hWlShellGetShellSurface slot answer).Ensures _ _
        unfold Handler.hWlShellGetShellSurface
        simp [Checked.ensures_ite]
    | wlWebosShellGetShellSurface slot =>
        change (Handler.hWlWebosShellGetShellSurface slot answer).Ensures _ _
        unfold Handler.hWlWebosShellGetShellSurface
        simp [Checked.ensures_ite]
    | wlShellSurfaceSetToplevel slot =>
        change (Handler.hWlShellSurfaceSetToplevel slot).Ensures _ _
        unfold Handler.hWlShellSurfaceSetToplevel
        simp [Checked.ensures_ite]
    | wlWebosShellSurfaceSetState slot state =>
        change (Handler.hWlWebosShellSurfaceSetState slot).Ensures _ _
        unfold Handler.hWlWebosShellSurfaceSetState
        simp
    | wlWebosSetProperty slot name value =>
        change (Handler.hWlWebosSetProperty slot).Ensures _ _
        unfold Handler.hWlWebosSetProperty
        simp [Checked.ensures_ite]
    | wlSurfaceCommit slot =>
        change (Handler.hWlSurfaceCommit slot).Ensures _ _
        unfold Handler.hWlSurfaceCommit
        simp [Checked.ensures_ite]
    | wlSurfaceDestroy slot =>
        change (Handler.hWlSurfaceDestroy slot).Ensures _ _
        unfold Handler.hWlSurfaceDestroy
        simp [Checked.ensures_ite]
    | wlProxyDestroy slot =>
        change (Handler.hWlProxyDestroy slot).Ensures _ _
        unfold Handler.hWlProxyDestroy
        simp [Checked.ensures_ite]
  exact ensures reply after runs

/-- A call that makes no surface leaves both counts. -/
theorem call_makesNone {bridge after : WlBridge} {marshalled : Marshalled} {answer : UInt32}
    (none : MakesNone bridge.stub marshalled)
    (called : bridge.call marshalled answer = some (after, handle)) :
    bridge.stub.SameSurfaces after.stub ∧
      after.tables.gSurfNext = bridge.tables.gSurfNext := by
  cases marshalled with
  | error fault => cases called
  | ok call =>
      obtain ⟨other, same⟩ := none call rfl
      change bridge.finish call answer = _ at called
      cases sent : call.sends with
      | none =>
          rw [WlBridge.finish, sent] at called
          cases called
          exact ⟨same 0, rfl⟩
      | some command =>
          rw [sent] at other
          cases runs : (Handler.wlDispatch (request answer command)).run bridge.tables with
          | error overrun =>
              rw [WlBridge.finish, sent] at called
              dsimp only at called
              rw [runs] at called
              cases called
          | ok ended =>
              rw [WlBridge.finish, sent] at called
              dsimp only at called
              rw [runs] at called
              cases called
              exact ⟨same _, gSurfNext_request (fun create => other (congrArg some create)) runs⟩

end

/-! ## The invariant -/

/-- A surface that is mapped has the slot after its offset. -/
def Aligned (stub : WlBridgeState) : Prop :=
  ∀ idx, stub.surfaceSlotMap idx = 0 ∨ stub.surfaceSlotMap idx = .ofNat (idx.val + 1)

theorem Aligned.recordSurface {stub : WlBridgeState} {slot : UInt32} (aligned : Aligned stub)
    (fits : slot = 0 ∨ ∃ created, stub.nextSurface = handleAt bhSurfaceBase created ∧
      created < proxySurfMax ∧ slot = .ofNat (created + 1)) : Aligned (stub.recordSurface slot) := by
  intro idx
  rw [WlBridgeState.recordSurface]
  dsimp only
  cases found : offsetIn bhSurfaceBase surfMapMax stub.nextSurface with
  | none => exact aligned idx
  | some entry =>
      dsimp only
      by_cases same : idx = entry
      · subst same
        rw [Function.update_self]
        rcases fits with none | ⟨created, next, few, rfl⟩
        · exact .inl none
        · have made : handleAt bhSurfaceBase created = handleAt bhSurfaceBase idx.val :=
            next.symm.trans (eq_handleAt found)
          have small : bhSurfaceBase + created < 4294967296 :=
            Nat.lt_trans (Nat.add_lt_add_left few _) (by decide)
          rw [handleAt_injective small (surface_small idx) made]
          exact .inr rfl
      · rw [Function.update_of_ne same]
        exact aligned idx

namespace StateWorld

variable {world next : StateWorld}

structure Sound (world : StateWorld) : Prop where
  /-- The proxy counts as the stub does, up to its last slot. -/
  counted : world.refused = false → ∃ created,
    world.bridge.stub.nextSurface = handleAt bhSurfaceBase created ∧
      world.bridge.tables.gSurfNext = .ofNat (min (created + 1) proxySurfMax)
  aligned : Aligned world.bridge.stub

namespace Sound

/-- The steps that make no surface. -/
theorem frame (sound : world.Sound) (refused : next.refused = false → world.refused = false)
    (same : world.bridge.stub.SameSurfaces next.bridge.stub)
    (slots : next.bridge.tables.gSurfNext = world.bridge.tables.gSurfNext) : next.Sound := by
  constructor
  case counted =>
    intro none
    obtain ⟨created, handles, numbered⟩ := sound.counted (refused none)
    exact ⟨created, same.2.trans handles, slots.trans numbered⟩
  case aligned =>
    intro idx
    rw [same.1]
    exact sound.aligned idx

theorem withStub {stub : WlBridgeState} (sound : world.Sound)
    (same : world.bridge.stub.SameSurfaces stub) : (world.withStub stub).Sound :=
  sound.frame id same rfl

theorem connect {words : Nat → UInt32} {name : List UInt8}
    {display compositor shell webosShell : UInt32} {bridge after : WlBridge}
    (connects : bridge.connect words name display compositor shell webosShell = some after)
    (wssState : Fin proxySurfMax → WssState) (received : List (Fin proxySurfMax × UInt32)) :
    Sound { bridge := after, wssState, received, refused := false } := by
  obtain ⟨handles, mapped, slots, -⟩ := WlBridge.connect_fresh connects
  exact ⟨fun _ => ⟨0, handles, slots⟩, fun idx => .inl (congrFun mapped idx)⟩

theorem toNat_slots {created : Nat} :
    (UInt32.ofNat (min (created + 1) proxySurfMax)).toNat = min (created + 1) proxySurfMax :=
  UInt32.toNat_ofNat_of_lt' (Nat.lt_of_le_of_lt (Nat.min_le_right ..) (by decide))

/-- While the proxy has a slot, its next one is the next offset of the stub. -/
theorem next_slot {created : Nat}
    (room : (UInt32.ofNat (min (created + 1) proxySurfMax)).toNat < proxySurfMax) :
    created + 1 < proxySurfMax ∧ min (created + 1) proxySurfMax = created + 1 ∧
      min (created + 1 + 1) proxySurfMax = created + 1 + 1 := by
  rw [toNat_slots] at room
  omega

/-- Both counts go on by one, or the proxy's stays where it ends. -/
theorem createSurface {proxy : WlProxyRef} {opcode answer handle : UInt32}
    {interface : Option String} {args : VaList} {after : WlBridge} (sound : world.Sound)
    (creates : world.Creates proxy opcode interface)
    (orderly : world.Orderly (.marshal proxy opcode interface args answer))
    (called : world.bridge.call (world.bridge.stub.wlProxyMarshalFlags proxy opcode interface args)
      answer = some (after, handle)) :
    (world.afterCall after (world.refused || decide (world.Refuses proxy opcode interface))).Sound := by
  have marshalled : world.bridge.stub.wlProxyMarshalFlags proxy opcode interface args =
      world.bridge.stub.createSurface := by
    rw [WlBridgeState.wlProxyMarshalFlags, creates]
    rfl
  rw [marshalled] at called
  have next {created : Nat} {slot : UInt32}
      (handles : world.bridge.stub.nextSurface = handleAt bhSurfaceBase created) :
      (world.bridge.stub.recordSurface slot).nextSurface = handleAt bhSurfaceBase (created + 1) := by
    change world.bridge.stub.nextSurface + 1 = _
    rw [handles, handleAt_succ]
  by_cases bound : world.bridge.tables.proxyWlCompositor = 0
  · rw [WlBridge.call_createSurface_refused (.inl bound)] at called
    cases called
    refine ⟨fun none => ?_, sound.aligned.recordSurface (.inl rfl)⟩
    have refuses : world.Refuses proxy opcode interface := ⟨creates, bound⟩
    change (world.refused || decide _) = false at none
    simp [refuses] at none
  · have begun (none : (world.refused || decide (world.Refuses proxy opcode interface)) = false) :
        world.refused = false := (Bool.or_eq_false_iff.mp none).1
    by_cases room : world.bridge.tables.gSurfNext.toNat < proxySurfMax
    · by_cases made : answer = 0
      · subst made
        rw [WlBridge.call_createSurface_null bound room] at called
        cases called
        refine ⟨fun none => ?_, sound.aligned.recordSurface (.inl rfl)⟩
        obtain ⟨created, handles, slots⟩ := sound.counted (begun none)
        rw [slots] at room
        obtain ⟨-, last, following⟩ := next_slot room
        refine ⟨created + 1, next handles, ?_⟩
        change world.bridge.tables.gSurfNext + 1 = _
        rw [slots, last, following, UInt32.ofNat_add (created + 1)]
        rfl
      · obtain ⟨created, handles, slots⟩ := sound.counted (orderly ⟨creates, bound, room, made⟩)
        rw [WlBridge.call_createSurface bound room made] at called
        cases called
        rw [slots] at room
        obtain ⟨few, last, following⟩ := next_slot room
        have slot : world.bridge.tables.gSurfNext = .ofNat (created + 1) := by rw [slots, last]
        refine ⟨fun _ => ⟨created + 1, next handles, ?_⟩, sound.aligned.recordSurface
          (.inr ⟨created, handles, Nat.lt_of_succ_lt few, slot⟩)⟩
        change world.bridge.tables.gSurfNext + 1 = _
        rw [slot, following, UInt32.ofNat_add (created + 1)]
        rfl
    · rw [WlBridge.call_createSurface_refused (.inr (Nat.le_of_not_lt room))] at called
      cases called
      refine ⟨fun none => ?_, sound.aligned.recordSurface (.inl rfl)⟩
      obtain ⟨created, handles, slots⟩ := sound.counted (begun none)
      rw [slots, toNat_slots] at room
      have full : min (created + 1) proxySurfMax = min (created + 1 + 1) proxySurfMax := by omega
      exact ⟨created + 1, next handles, slots.trans (congrArg _ full)⟩

/-! ### Events -/

theorem slot_of_maps {idx : Fin surfMapMax} {slot : Fin proxySurfMax} (sound : world.Sound)
    (maps : world.Maps idx slot) : slot.val = idx.val + 1 := by
  obtain ⟨some, mapped⟩ := maps
  have small : slot.val < 4294967296 := slot.isLt.trans (by decide)
  have number : (UInt32.ofNat slot.val).toNat = slot.val := UInt32.toNat_ofNat_of_lt' small
  rcases sound.aligned idx with none | aligned
  · rw [mapped] at none
    rw [none] at number
    exact absurd (Fin.ext number.symm) some
  · rw [mapped] at aligned
    rw [aligned, toNat_slot idx] at number
    exact number.symm

/-- The arithmetic of the stub finds the offset that the slot was mapped for. -/
theorem stubIdx_of_maps {idx : Fin surfMapMax} {slot : Fin proxySurfMax} (sound : world.Sound)
    (maps : world.Maps idx slot) : WlBridgeState.stubIdx (.ofNat slot.val) = .ofNat idx.val := by
  rw [sound.slot_of_maps maps]
  exact stubIdx_succ idx

theorem right {input : StateInput} (sound : world.Sound) (orderly : world.Orderly input) :
    world.Right input := by
  cases input with
  | focus file slot state =>
      intro idx maps
      apply focusGiven
      rw [sound.stubIdx_of_maps maps]
      exact (UInt32.ofNat_add bhSurfaceBase idx.val).symm
  | deliver slot state =>
      intro idx maps
      rw [WlBridgeState.stateDeliver, sound.stubIdx_of_maps maps, ← UInt32.ofNat_add]
      exact deliverState_preferred (orderly idx maps)
  | _ => trivial

end Sound

/-- A step from a sound state under the condition. -/
theorem sound_step {input : StateInput} (sound : world.Sound) (orderly : world.Orderly input)
    (stepped : stateMachine.step world input = some next) : next.Sound := by
  change world.step input = some next at stepped
  cases input with
  | connect words name display compositor shell webosShell =>
      obtain ⟨after, connects, rfl⟩ := Option.map_eq_some_iff.mp stepped
      exact .connect connects world.wssState world.received
  | disconnect slot =>
      rw [step] at stepped
      cases runs : (Handler.hWlDisplayDisconnect slot).run world.bridge.tables with
      | error overrun =>
          rw [runs] at stepped
          cases stepped
      | ok ended =>
          rw [runs] at stepped
          cases stepped
          have ensures : (Handler.hWlDisplayDisconnect slot).Ensures
              (fun _ after => after.gSurfNext = world.bridge.tables.gSurfNext)
              world.bridge.tables := by
            unfold Handler.hWlDisplayDisconnect
            simp [Checked.ensures_ite]
          exact sound.frame id (.refl _) (ensures _ _ runs)
  | announce compositor =>
      cases stepped
      exact sound.frame id (.refl _) rfl
  | marshal proxy opcode interface args answer =>
      obtain ⟨⟨after, handle⟩, called, rfl⟩ := Option.map_eq_some_iff.mp stepped
      by_cases creates : world.Creates proxy opcode interface
      · exact sound.createSurface creates orderly called
      · have none : MakesNone world.bridge.stub
            (world.bridge.stub.wlProxyMarshalFlags proxy opcode interface args) :=
          makesNone_perform creates
        obtain ⟨same, slots⟩ := call_makesNone none called
        exact sound.frame (fun refused => (Bool.or_eq_false_iff.mp refused).1) same slots
  | proxyDestroy handle =>
      obtain ⟨⟨after, handle⟩, called, rfl⟩ := Option.map_eq_some_iff.mp stepped
      obtain ⟨same, slots⟩ := call_makesNone makesNone_wlProxyDestroy called
      exact sound.frame id same slots
  | listen offset change =>
      cases stepped
      exact sound.withStub ⟨rfl, rfl⟩
  | listenKeys index change =>
      cases stepped
      exact sound.withStub ⟨rfl, rfl⟩
  | enter file =>
      rw [step] at stepped
      cases focuses : world.bridge.stub.focusSurface with
      | none =>
          rw [focuses] at stepped
          cases stepped
          exact sound
      | some surface =>
          rw [focuses] at stepped
          cases stepped
          exact sound.withStub WlBridgeState.sameSurfaces_fireKeyboardFocusTo
  | compositor event =>
      cases stepped
      exact sound.frame id (.refl _) rfl
  | collect =>
      cases stepped
      exact sound.frame id (.refl _) rfl
  | focus file slot state =>
      rw [step] at stepped
      split at stepped
      · cases stepped
        exact sound.withStub WlBridgeState.sameSurfaces_stateFocus
      · cases stepped
  | deliver slot state =>
      rw [step] at stepped
      split at stepped
      · cases stepped
        exact sound.frame id (.refl _) rfl
      · cases stepped

end StateWorld

/-! ## Runs -/

/-- The state with which a client comes to a proxy. -/
def StateWorld.begin (bridge : WlBridge) : StateWorld where
  bridge := bridge
  wssState _ := .zero
  received := []
  refused := false

/-- Every state of a slot is one of the surface that the slot is mapped for, in a run after
a connect in which the proxy makes no surface once it refused one since the last connect for
want of a compositor, and in which each state is delivered to a surface whose own listener
comes first. -/
theorem right_of_orderly {bridge start : WlBridge} {words : Nat → UInt32} {name : List UInt8}
    {display compositor shell webosShell : UInt32} {inputs : List StateInput}
    (connects : bridge.connect words name display compositor shell webosShell = some start)
    (orderly : stateMachine.Along StateWorld.Orderly (.begin start) inputs) :
    stateMachine.Along StateWorld.Right (.begin start) inputs := by
  have begun : (StateWorld.begin start).Sound := .connect connects _ _
  exact Machine.Along.of_invariant StateWorld.sound_step
    (fun sound allowed => sound.right allowed) begun orderly

instance decidableOrderlyState (world : StateWorld) (input : StateInput) :
    Decidable (world.Orderly input) :=
  match input with
  | .marshal .. => @instDecidableForall _ _ (world.decidableMakes ..) (instDecidableEqBool ..)
  | .deliver slot _ =>
      @Nat.decidableForallFin _ _ fun idx =>
        @instDecidableForall _ _ (world.decidableMaps idx slot) (world.decidablePreferred idx)
  | .connect .. | .disconnect _ | .announce _ | .proxyDestroy _ | .listen .. | .listenKeys ..
  | .enter _ | .compositor _ | .collect | .focus .. => isTrue trivial

/-! ## Runs of one client -/

def createRequest (answer : UInt32) : StateInput :=
  .marshal (.handle bhCompositor) 0 (some "wl_surface") [] answer

def webosRequest (surface answer : UInt32) : StateInput :=
  .marshal (.handle bhWebosShell) 1 (some "wl_webos_shell_surface")
    [some (.object 0), some (.object surface)] answer

/-- Its second surface goes fullscreen. -/
theorem right_second_surface :
    stateMachine.Along StateWorld.Right (.begin freshBridge)
      [createRequest 5, createRequest 6, webosRequest 101 7, .listen 1 (·.listen 77 0),
        .compositor (.stateChanged 7 stateFullscreen), .collect, .focus none 2 stateFullscreen,
        .deliver 2 stateFullscreen] :=
  right_of_orderly connect_freshBridge (by decide +kernel)

/-- The compositor is not there yet when the client connects. -/
def lateBridge : WlBridge :=
  { freshBridge with tables := { freshBridge.tables with proxyWlCompositor := 0 } }

theorem connect_lateBridge :
    WlBridge.connect ⟨.zero, .zero⟩ (WlBridgeState.connectWords 8 ⟨false, 0, 0, 0, []⟩
      ⟨1920, 1080, 60000, 527, 296, 1⟩) [] 1 0 3 4 = some lateBridge := rfl

/-- A surface was refused, and the next one has the first slot. -/
def lateCompositor : StateWorld :=
  (stateMachine.run (.begin lateBridge)
    [createRequest 0, .announce 2, createRequest 5, webosRequest 101 6, .listen 1 (·.listen 77 0),
      .compositor (.stateChanged 6 stateFullscreen), .collect]).get (by decide +kernel)

/-- A surface that has a dispatcher, beside one that has a listener struct. -/
def besideListener : StateWorld :=
  (stateMachine.run (.begin freshBridge)
    [createRequest 5, createRequest 6, webosRequest 100 7, webosRequest 101 8,
      .listen 0 (·.dispatchWith 55 0 0), .listen 1 (·.listen 77 0),
      .compositor (.stateChanged 7 stateFullscreen), .collect]).get (by decide +kernel)

/-- The state goes to the handle of the surface that was refused; and to the listener of the
other surface. -/
theorem state_misdirected :
    stateMachine.run (.begin lateBridge)
        [createRequest 0, .announce 2, createRequest 5, webosRequest 101 6,
          .listen 1 (·.listen 77 0), .compositor (.stateChanged 6 stateFullscreen), .collect] =
        some lateCompositor ∧
      ¬ lateCompositor.Right (.focus none 1 stateFullscreen) ∧
      ¬ lateCompositor.Right (.deliver 1 stateFullscreen) ∧
    stateMachine.run (.begin freshBridge)
        [createRequest 5, createRequest 6, webosRequest 100 7, webosRequest 101 8,
          .listen 0 (·.dispatchWith 55 0 0), .listen 1 (·.listen 77 0),
          .compositor (.stateChanged 7 stateFullscreen), .collect] = some besideListener ∧
      ¬ besideListener.Right (.deliver 1 stateFullscreen) := by
  have mapped : lateCompositor.Maps 1 1 := by decide +kernel
  have beside : besideListener.Maps 0 1 := by decide +kernel
  refine ⟨(Option.some_get _).symm, ?_, ?_, (Option.some_get _).symm, ?_⟩
  · intro right
    have active := (right 1 mapped).active
    revert active
    decide +kernel
  · intro right
    have delivered := right 1 mapped
    revert delivered
    decide +kernel
  · intro right
    have delivered := right 0 beside
    revert delivered
    decide +kernel

end GlesBridge.Wayland
