import GlesBridge.Handles.Rules
import GlesBridge.Stub.Destroy

namespace GlesBridge.Wayland

open GlesBridge.Proxy GlesBridge.Proxy.Handler GlesBridge.Stub GlesBridge.Systems
  GlesBridge.Systems.Checked

/-! The stub and the proxy, when no command is in flight. A call of the client is over when
the command that it sends has been served.
-/

structure WlBridge where
  stub : WlBridgeState
  tables : HandleTables

/-- The command in the proxy, with what the driver answers. -/
def request (answer : UInt32) : StubCommand → WlCommand
  | .wlCompositorCreateSurface => .wlCompositorCreateSurface answer
  | .wlShellGetShellSurface slot => .wlShellGetShellSurface slot answer
  | .wlWebosShellGetShellSurface slot => .wlWebosShellGetShellSurface slot answer
  | .wlShellSurfaceSetToplevel slot => .wlShellSurfaceSetToplevel slot
  | .wlWebosShellSurfaceSetState slot _ => .wlWebosShellSurfaceSetState slot
  | .wlWebosSetProperty slot _ _ => .wlWebosSetProperty slot
  | .wlSurfaceCommit slot => .wlSurfaceCommit slot
  | .wlSurfaceDestroy slot => .wlSurfaceDestroy slot
  | .wlProxyDestroy slot => .wlProxyDestroy slot

namespace WlBridge

variable (bridge : WlBridge)

def finish (call : StubCall) (answer : UInt32) : Option (WlBridge × UInt32) :=
  match call.sends with
  | none => some ({ bridge with stub := (call.finish 0).1 }, (call.finish 0).2)
  | some command =>
      match (Handler.wlDispatch (request answer command)).run bridge.tables with
      | .ok (reply, tables) =>
          some ({ stub := (call.finish reply.result).1, tables }, (call.finish reply.result).2)
      | .error _ => none

/-- The client is gone where an assertion fails, and the proxy where an array ends. -/
def call (marshalled : Marshalled) (answer : UInt32) : Option (WlBridge × UInt32) :=
  match marshalled with
  | .ok call => bridge.finish call answer
  | .error _ => none

/-- `wl_display_connect`: the stub has forgotten all before it knows the reply. -/
def connect (words : Nat → UInt32) (name : List UInt8)
    (display compositor shell webosShell : UInt32) : Option WlBridge :=
  match (Handler.hWlDisplayConnect display compositor shell webosShell).run bridge.tables with
  | .ok (reply, tables) =>
      if reply.result = 0 then some { stub := bridge.stub.reset, tables }
      else some { stub := bridge.stub.connected words name, tables }
  | .error _ => none

end WlBridge

/-! ## The handlers of surfaces -/

section

variable {tables : HandleTables} {slot surf : UInt32}

theorem run_createSurface_refused
    (refused : tables.proxyWlCompositor = 0 ∨ proxySurfMax ≤ tables.gSurfNext.toNat) :
    (Handler.hWlCompositorCreateSurface surf).run tables = .ok (.number 0, tables) := by
  apply Yields.run_eq
  unfold Handler.hWlCompositorCreateSurface
  simp only [yields_bind, yields_get, yields_ite, refused, not_true, false_implies,
    yields_pure, true_implies, and_self]

/-- A slot is used up even where the driver makes no surface. -/
theorem run_createSurface_null (bound : tables.proxyWlCompositor ≠ 0)
    (room : tables.gSurfNext.toNat < proxySurfMax) :
    (Handler.hWlCompositorCreateSurface 0).run tables =
      .ok (.number 0, { tables with gSurfNext := tables.gSurfNext + 1 }) := by
  apply Yields.run_eq
  unfold Handler.hWlCompositorCreateSurface
  simp [yields_ite, bound, Nat.not_le.mpr room]

theorem run_createSurface (bound : tables.proxyWlCompositor ≠ 0)
    (room : tables.gSurfNext.toNat < proxySurfMax) (made : surf ≠ 0) :
    (Handler.hWlCompositorCreateSurface surf).run tables =
      .ok (.number tables.gSurfNext.toUInt64,
        { tables with
          gSurfNext := tables.gSurfNext + 1
          gSurfs := Function.update tables.gSurfs ⟨tables.gSurfNext.toNat, room⟩ surf }) := by
  apply Yields.run_eq
  unfold Handler.hWlCompositorCreateSurface
  simp [yields_ite, bound, Nat.not_le.mpr room, made, room]

theorem run_surfaceDestroy (room : slot.toNat < proxySurfMax) :
    (Handler.hWlSurfaceDestroy slot).run tables =
      .ok (.number 0,
        { tables with gSurfs := Function.update tables.gSurfs ⟨slot.toNat, room⟩ 0 }) := by
  apply Yields.run_eq
  unfold Handler.hWlSurfaceDestroy
  simp [room]

/-- Both shell surfaces of the slot go. -/
theorem run_proxyDestroy (room : slot.toNat < proxySurfMax) :
    (Handler.hWlProxyDestroy slot).run tables =
      .ok (.number 0,
        { tables with
          gWebosShellSurfaces :=
            Function.update tables.gWebosShellSurfaces ⟨slot.toNat, room⟩ 0
          gShellSurfs := Function.update tables.gShellSurfs ⟨slot.toNat, room⟩ 0 }) := by
  apply Yields.run_eq
  unfold Handler.hWlProxyDestroy
  simp [room]

/-- A shell surface is made, found, or refused; nothing else changes. -/
theorem run_shellSurface (room : slot.toNat < proxySurfMax) :
    ∃ reply shellSurfs, (Handler.hWlShellGetShellSurface slot surf).run tables =
      .ok (reply, { tables with gShellSurfs := shellSurfs }) := by
  have yields : (Handler.hWlShellGetShellSurface slot surf).Yields
      (fun _ after => ∃ shellSurfs, after = { tables with gShellSurfs := shellSurfs }) tables := by
    unfold Handler.hWlShellGetShellSurface
    simp only [yields_bind, yields_index, yields_get, yields_modify, yields_ite, yields_pure]
    exact ⟨room, fun _ => ⟨_, rfl⟩, fun _ => ⟨fun _ => ⟨_, rfl⟩, fun _ =>
      ⟨room, fun _ => ⟨_, rfl⟩, fun _ => ⟨_, rfl⟩⟩⟩⟩
  obtain ⟨reply, after, runs, shellSurfs, rfl⟩ := yields_iff_run.mp yields
  exact ⟨reply, shellSurfs, runs⟩

theorem run_webosShellSurface (room : slot.toNat < proxySurfMax) :
    ∃ reply webosSurfs, (Handler.hWlWebosShellGetShellSurface slot surf).run tables =
      .ok (reply, { tables with gWebosShellSurfaces := webosSurfs }) := by
  have yields : (Handler.hWlWebosShellGetShellSurface slot surf).Yields
      (fun _ after => ∃ webosSurfs, after = { tables with gWebosShellSurfaces := webosSurfs })
      tables := by
    unfold Handler.hWlWebosShellGetShellSurface
    simp only [yields_bind, yields_index, yields_get, yields_modify, yields_ite, yields_pure]
    exact ⟨room, fun _ => ⟨_, rfl⟩, fun _ => ⟨fun _ => ⟨_, rfl⟩, fun _ =>
      ⟨room, fun _ => ⟨_, rfl⟩, fun _ => ⟨_, rfl⟩⟩⟩⟩
  obtain ⟨reply, after, runs, webosSurfs, rfl⟩ := yields_iff_run.mp yields
  exact ⟨reply, webosSurfs, runs⟩

/-- No surface is left of an earlier connection, made or not. -/
theorem run_connect {display compositor shell webosShell : UInt32} :
    ∃ reply after, (Handler.hWlDisplayConnect display compositor shell webosShell).run tables =
        .ok (reply, after) ∧
      after.gSurfNext = 1 ∧ after.gSurfs = (fun _ => 0) ∧ after.gShellSurfs = (fun _ => 0) ∧
      after.gWebosShellSurfaces = (fun _ => 0) := by
  apply yields_iff_run.mp
  unfold Handler.hWlDisplayConnect
  simp only [yields_bind, yields_get, yields_modify, yields_ite, yields_pure]
  exact ⟨fun _ => ⟨trivial, trivial, trivial, trivial⟩,
    fun _ => ⟨trivial, trivial, trivial, trivial⟩⟩

end

/-! ## The calls -/

namespace WlBridge

variable {bridge : WlBridge} {answer slot : UInt32} {handle : UInt32}

theorem call_createSurface (bound : bridge.tables.proxyWlCompositor ≠ 0)
    (room : bridge.tables.gSurfNext.toNat < proxySurfMax) (made : answer ≠ 0) :
    bridge.call bridge.stub.createSurface answer =
      some ({
        stub := bridge.stub.recordSurface bridge.tables.gSurfNext
        tables := { bridge.tables with
          gSurfNext := bridge.tables.gSurfNext + 1
          gSurfs := Function.update bridge.tables.gSurfs ⟨bridge.tables.gSurfNext.toNat, room⟩
            answer } },
        bridge.stub.nextSurface) := by
  have runs : (hWlCompositorCreateSurface answer).run bridge.tables = _ :=
    run_createSurface bound room made
  rw [WlBridgeState.createSurface, call, finish]
  dsimp only [request, wlDispatch]
  rw [runs]
  simp [HandleReply.number]

/-- The client has its handle where the proxy makes nothing. -/
theorem call_createSurface_refused
    (refused : bridge.tables.proxyWlCompositor = 0 ∨
      proxySurfMax ≤ bridge.tables.gSurfNext.toNat) :
    bridge.call bridge.stub.createSurface answer =
      some ({ bridge with stub := bridge.stub.recordSurface 0 }, bridge.stub.nextSurface) := by
  have runs : (hWlCompositorCreateSurface answer).run bridge.tables = _ :=
    run_createSurface_refused refused
  rw [WlBridgeState.createSurface, call, finish]
  dsimp only [request, wlDispatch]
  rw [runs]
  rfl

theorem call_createSurface_null (bound : bridge.tables.proxyWlCompositor ≠ 0)
    (room : bridge.tables.gSurfNext.toNat < proxySurfMax) :
    bridge.call bridge.stub.createSurface 0 =
      some ({
        stub := bridge.stub.recordSurface 0
        tables := { bridge.tables with gSurfNext := bridge.tables.gSurfNext + 1 } },
        bridge.stub.nextSurface) := by
  have runs : (hWlCompositorCreateSurface 0).run bridge.tables = _ :=
    run_createSurface_null bound room
  rw [WlBridgeState.createSurface, call, finish]
  dsimp only [request, wlDispatch]
  rw [runs]
  rfl

theorem call_surfaceDestroy (mapped : slot ≠ 0) (room : slot.toNat < proxySurfMax) :
    bridge.call (bridge.stub.sendsTo slot .wlSurfaceDestroy handle) answer =
      some ({ bridge with
        tables := { bridge.tables with
          gSurfs := Function.update bridge.tables.gSurfs ⟨slot.toNat, room⟩ 0 } }, handle) := by
  have runs : (hWlSurfaceDestroy slot).run bridge.tables = _ := run_surfaceDestroy room
  rw [WlBridgeState.sendsTo, if_neg mapped, WlBridgeState.sends, call, finish]
  dsimp only [request, wlDispatch]
  rw [runs]

/-- A shell surface has the offset of its surface, whatever the proxy answers. -/
theorem call_getShellSurface {surface base : UInt32}
    (mapped : bridge.stub.slotForSurface surface ≠ 0)
    (room : (bridge.stub.slotForSurface surface).toNat < proxySurfMax) :
    ∃ shellSurfs, bridge.call
        (bridge.stub.getShellSurface .wlShellGetShellSurface base surface) answer =
      some ({ bridge with tables := { bridge.tables with gShellSurfs := shellSurfs } },
        base + (surface - .ofNat bhSurfaceBase)) := by
  obtain ⟨reply, shellSurfs, runs⟩ :
      ∃ reply shellSurfs, (hWlShellGetShellSurface (bridge.stub.slotForSurface surface) answer).run
        bridge.tables = .ok (reply, { bridge.tables with gShellSurfs := shellSurfs }) :=
    run_shellSurface room
  refine ⟨shellSurfs, ?_⟩
  rw [WlBridgeState.getShellSurface, WlBridgeState.sendsTo, if_neg mapped, WlBridgeState.sends,
    call, finish]
  dsimp only [request, wlDispatch]
  rw [runs]

theorem call_getWebosShellSurface {surface base : UInt32}
    (mapped : bridge.stub.slotForSurface surface ≠ 0)
    (room : (bridge.stub.slotForSurface surface).toNat < proxySurfMax) :
    ∃ webosSurfs, bridge.call
        (bridge.stub.getShellSurface .wlWebosShellGetShellSurface base surface) answer =
      some ({ bridge with tables := { bridge.tables with gWebosShellSurfaces := webosSurfs } },
        base + (surface - .ofNat bhSurfaceBase)) := by
  obtain ⟨reply, webosSurfs, runs⟩ :
      ∃ reply webosSurfs,
        (hWlWebosShellGetShellSurface (bridge.stub.slotForSurface surface) answer).run
          bridge.tables = .ok (reply, { bridge.tables with gWebosShellSurfaces := webosSurfs }) :=
    run_webosShellSurface room
  refine ⟨webosSurfs, ?_⟩
  rw [WlBridgeState.getShellSurface, WlBridgeState.sendsTo, if_neg mapped, WlBridgeState.sends,
    call, finish]
  dsimp only [request, wlDispatch]
  rw [runs]

/-- What `wl_proxy_destroy` sends to the proxy. -/
theorem call_proxyDestroy_surface {offset : Fin surfaceRange}
    (surface : objectOf (bridge.stub.resolveHandle handle) = .surface offset)
    (mapped : bridge.stub.slotFor offset.val ≠ 0)
    (room : (bridge.stub.slotFor offset.val).toNat < proxySurfMax) :
    bridge.call (.ok (bridge.stub.wlProxyDestroy handle)) answer =
      some ({ bridge with
        tables := { bridge.tables with
          gSurfs := Function.update bridge.tables.gSurfs
            ⟨(bridge.stub.slotFor offset.val).toNat, room⟩ 0 } }, 0) := by
  have runs : (hWlSurfaceDestroy (bridge.stub.slotFor offset.val)).run bridge.tables = _ :=
    run_surfaceDestroy room
  rw [WlBridgeState.wlProxyDestroy, surface, call, finish]
  dsimp only [WlBridgeState.destroySends]
  rw [if_neg mapped]
  dsimp only [request, wlDispatch]
  rw [runs]
  rfl

theorem call_proxyDestroy_shellSurf {offset : Fin surfaceRange}
    (shellSurf : objectOf (bridge.stub.resolveHandle handle) = .shellSurf offset)
    (mapped : bridge.stub.slotFor offset.val ≠ 0)
    (room : (bridge.stub.slotFor offset.val).toNat < proxySurfMax) :
    bridge.call (.ok (bridge.stub.wlProxyDestroy handle)) answer =
      some ({ bridge with
        tables := { bridge.tables with
          gWebosShellSurfaces := Function.update bridge.tables.gWebosShellSurfaces
            ⟨(bridge.stub.slotFor offset.val).toNat, room⟩ 0
          gShellSurfs := Function.update bridge.tables.gShellSurfs
            ⟨(bridge.stub.slotFor offset.val).toNat, room⟩ 0 } }, 0) := by
  have runs : (hWlProxyDestroy (bridge.stub.slotFor offset.val)).run bridge.tables = _ :=
    run_proxyDestroy room
  rw [WlBridgeState.wlProxyDestroy, shellSurf, call, finish]
  dsimp only [WlBridgeState.destroySends]
  rw [if_neg mapped]
  dsimp only [request, wlDispatch]
  rw [runs]
  rfl

theorem call_proxyDestroy_quiet {object : BridgeObject}
    (resolved : objectOf (bridge.stub.resolveHandle handle) = object)
    (quiet : bridge.stub.destroySends object = none) :
    bridge.call (.ok (bridge.stub.wlProxyDestroy handle)) answer =
      some ({ bridge with stub := bridge.stub.destroyLocally object }, 0) := by
  rw [WlBridgeState.wlProxyDestroy, resolved, call, finish]
  dsimp only
  rw [quiet]

/-- Both sides begin without a surface, also where the proxy could not connect. -/
theorem connect_fresh {after : WlBridge} {words : Nat → UInt32} {name : List UInt8}
    {display compositor shell webosShell : UInt32}
    (connects : bridge.connect words name display compositor shell webosShell = some after) :
    after.stub.nextSurface = handleAt bhSurfaceBase 0 ∧
      after.stub.surfaceSlotMap = (fun _ => 0) ∧ after.tables.gSurfNext = 1 ∧
      after.tables.gSurfs = (fun _ => 0) := by
  obtain ⟨reply, tables, runs, next, surfs, -⟩ :
      ∃ reply tables, (Handler.hWlDisplayConnect display compositor shell webosShell).run
          bridge.tables = .ok (reply, tables) ∧ _ := run_connect
  rw [connect, runs] at connects
  dsimp only at connects
  split at connects
  · cases connects
    exact ⟨rfl, rfl, next, surfs⟩
  · cases connects
    exact ⟨rfl, rfl, next, surfs⟩

end WlBridge

end GlesBridge.Wayland
