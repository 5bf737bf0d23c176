import GlesBridge.Handles.Rules

namespace GlesBridge.Proxy

open GlesBridge.Systems GlesBridge.Systems.Checked

/-! Which handles keep the accesses of the handlers inside the arrays. -/

/-- The handles that are used as they come. -/
def HandleCommand.InRange : HandleCommand → Prop
  | .eglInitialize di _ _ _ => di.toNat ≤ eglBridgeMaxDisplays
  | .eglTerminate di _ => di.toNat ≤ eglBridgeMaxDisplays
  | .eglDestroySurface _ si _ => si.toNat ≤ eglBridgeMaxSurfaces
  | .eglDestroyContext _ xi _ => xi.toNat ≤ eglBridgeMaxContexts
  | .wlEglWindowCreate surfaceId _ => surfaceId.toNat < maxWlEglWindows
  | _ => True

def WlCommand.InRange : WlCommand → Prop
  | .wlDisplayDisconnect slot => slot.toNat < eglBridgeMaxDisplays
  | .wlShellGetShellSurface slot _ => slot.toNat < proxySurfMax
  | .wlWebosShellGetShellSurface slot _ => slot.toNat < proxySurfMax
  | .wlWebosShellSurfaceSetState slot => slot.toNat < proxySurfMax
  | _ => True

namespace Handler

variable {tables : HandleTables} {target di si xi slot : UInt32} {ok : Bool}
  {accepts : RealCurrent → Bool} {clientPid : Int32}

/-! ## Handlers that use a handle as it comes -/

theorem safe_hEglInitialize {major minor : Int32} :
    (hEglInitialize di major minor ok).Safe tables ↔ di.toNat ≤ eglBridgeMaxDisplays := by
  rw [safe_iff_yields, hEglInitialize]
  simp only [yields_bind, yields_index, yields_get, yields_modify, yields_disp, yields_ite,
    yields_pure]
  simp [Nat.lt_succ_iff]

theorem safe_hEglTerminate :
    (hEglTerminate di ok).Safe tables ↔ di.toNat ≤ eglBridgeMaxDisplays := by
  rw [safe_iff_yields, hEglTerminate]
  simp only [yields_bind, yields_index, yields_modify, yields_disp, yields_ite, yields_pure]
  simp [Nat.lt_succ_iff]

/-- The last access is made whether the driver destroys the surface or not. -/
theorem safe_hEglDestroySurface :
    (hEglDestroySurface di si ok).Safe tables ↔ si.toNat ≤ eglBridgeMaxSurfaces := by
  rw [safe_iff_yields, hEglDestroySurface, freeSurface]
  simp only [yields_bind, yields_index, yields_modify, yields_disp, yields_surf, yields_ite,
    yields_pure]
  cases ok with
  | false => simp [Nat.lt_succ_iff]
  | true => simp [Nat.lt_succ_iff]

theorem safe_hEglDestroyContext :
    (hEglDestroyContext di xi ok).Safe tables ↔ xi.toNat ≤ eglBridgeMaxContexts := by
  rw [safe_iff_yields, hEglDestroyContext]
  simp only [yields_bind, yields_index, yields_modify, yields_disp, yields_ctx, yields_ite,
    yields_pure]
  cases ok with
  | false => simp [Nat.lt_succ_iff]
  | true =>
      constructor
      · intro accessed
        obtain ⟨below, -⟩ := accessed.1 rfl
        exact Nat.le_of_lt_succ below
      · intro inside
        have below := Nat.lt_succ_of_le inside
        exact ⟨fun _ => ⟨below, fun _ => ⟨below, below, trivial⟩, fun _ => ⟨below, trivial⟩⟩,
          fun _ => ⟨below, trivial⟩⟩

/-- The handlers that begin with an access. -/
theorem index_below {array : HandleArray} {size : Nat} {next : Fin size → Handler HandleReply}
    (safe : (index array size slot >>= next).Safe tables) : slot.toNat < size := by
  rw [safe_iff_yields, yields_bind, yields_index] at safe
  obtain ⟨below, -⟩ := safe
  exact below

theorem safe_hWlEglWindowCreate {window : UInt32} :
    (hWlEglWindowCreate slot window).Safe tables ↔ slot.toNat < maxWlEglWindows :=
  ⟨index_below, fun below => (quiet_hWlEglWindowCreate below).safe⟩

theorem safe_hWlDisplayDisconnect :
    (hWlDisplayDisconnect slot).Safe tables ↔ slot.toNat < eglBridgeMaxDisplays :=
  ⟨index_below, fun below => (quiet_hWlDisplayDisconnect below).safe⟩

theorem safe_hWlShellGetShellSurface {shellSurface : UInt32} :
    (hWlShellGetShellSurface slot shellSurface).Safe tables ↔ slot.toNat < proxySurfMax :=
  ⟨index_below, fun below => (quiet_hWlShellGetShellSurface below).safe⟩

theorem safe_hWlWebosShellGetShellSurface {wss : UInt32} :
    (hWlWebosShellGetShellSurface slot wss).Safe tables ↔ slot.toNat < proxySurfMax :=
  ⟨index_below, fun below => (quiet_hWlWebosShellGetShellSurface below).safe⟩

theorem safe_hWlWebosShellSurfaceSetState :
    (hWlWebosShellSurfaceSetState slot).Safe tables ↔ slot.toNat < proxySurfMax :=
  ⟨index_below, fun below => (quiet_hWlWebosShellSurfaceSetState below).safe⟩

/-! ## All handlers -/

theorem safe_handle {command : HandleCommand} :
    (handle clientPid accepts command).Safe tables ↔ command.InRange := by
  have checked {program : Handler HandleReply} {post : HandleReply → HandleTables → Prop}
      (yields : program.Yields post tables) : program.Safe tables ↔ True :=
    iff_true_intro yields.safe
  cases command with
  | eglGetPlatformDisplayEXT real => exact checked hEglGetPlatformDisplayEXT_enters
  | eglGetDisplay real => exact checked hEglGetDisplay_enters
  | eglInitialize di major minor ok => exact safe_hEglInitialize
  | eglTerminate di ok => exact safe_hEglTerminate
  | eglReleaseThread ok => exact checked quiet_hEglReleaseThread
  | eglQueryString di answer => exact checked quiet_onDisplay
  | eglGetConfigs di cfgSz ok configs => exact checked hEglGetConfigs_enters
  | eglChooseConfig di hasConfigs ok configs => exact checked hEglChooseConfig_enters
  | eglGetConfigAttrib di ci answer => exact checked quiet_hEglGetConfigAttrib
  | eglCreateWindowSurface display config winSlot real =>
      exact checked hEglCreateWindowSurface_enters
  | eglCreatePbufferSurface di ci real => exact checked hEglCreatePbufferSurface_enters
  | eglCreatePixmapSurface di ci real => exact checked hEglCreatePixmapSurface_enters
  | eglDestroySurface di si ok => exact safe_hEglDestroySurface
  | eglQuerySurface di si answer => exact checked quiet_onSurface
  | eglSurfaceAttrib di si answer => exact checked quiet_onSurface
  | eglBindTexImage di si answer => exact checked quiet_onSurface
  | eglReleaseTexImage di si answer => exact checked quiet_onSurface
  | eglCopyBuffers di si answer => exact checked quiet_onSurface
  | eglCreateContext di ci shareIdx real => exact checked hEglCreateContext_enters
  | eglDestroyContext di xi ok => exact safe_hEglDestroyContext
  | eglMakeCurrent display draw read context => exact checked quiet_hEglMakeCurrent
  | eglGetCurrentContext real => exact checked currentIndex_finds
  | eglGetCurrentSurface real => exact checked currentIndex_finds
  | eglGetCurrentDisplay real => exact checked currentIndex_finds
  | eglQueryContext di xi answer => exact checked quiet_hEglQueryContext
  | eglSwapBuffers di si answer => exact checked quiet_onSurface
  | eglSwapInterval di answer => exact checked quiet_onDisplay
  | wlEglWindowCreate surfaceId window => exact safe_hWlEglWindowCreate
  | wlEglWindowResize slot => exact checked quiet_hWlEglWindowResize
  | wlEglWindowDestroy slot => exact checked quiet_hWlEglWindowDestroy
  | other => exact checked quiet_handle_other

/-- Which tables the handler finds has no part in it. -/
theorem safe_dispatch {command : HandleCommand} :
    (dispatch clientPid target accepts command).Safe tables ↔ command.InRange := by
  have bound : (eglBindTargetCtx accepts target >>= fun _ => handle clientPid accepts command).Safe
      tables ↔ command.InRange := by
    rw [safe_iff_yields, yields_bind]
    constructor
    · intro yields
      obtain ⟨_, after, _, handled⟩ := yields_iff_run.mp yields
      exact safe_handle.mp (safe_iff_yields.mpr handled)
    · intro inside
      exact yields_eglBindTargetCtx fun _ _ => safe_iff_yields.mp (safe_handle.mpr inside)
  cases command with
  | eglMakeCurrent display draw read context =>
      rw [dispatch]
      exact safe_handle
  | _ => exact bound

theorem safe_wlDispatch {command : WlCommand} :
    (wlDispatch command).Safe tables ↔ command.InRange := by
  have checked {program : Handler HandleReply} (quiet : Quiet program tables) :
      program.Safe tables ↔ True :=
    iff_true_intro quiet.safe
  cases command with
  | wlDisplayConnect display compositor shell webosShell => exact checked quiet_hWlDisplayConnect
  | wlDisplayDisconnect slot => exact safe_hWlDisplayDisconnect
  | wlCompositorCreateSurface surf => exact checked quiet_hWlCompositorCreateSurface
  | wlSurfaceCommit slot => exact checked quiet_hWlSurfaceCommit
  | wlSurfaceDestroy slot => exact checked quiet_hWlSurfaceDestroy
  | wlWebosSetProperty slot => exact checked quiet_hWlWebosSetProperty
  | wlShellGetShellSurface slot shellSurface => exact safe_hWlShellGetShellSurface
  | wlShellSurfaceSetToplevel slot => exact checked quiet_hWlShellSurfaceSetToplevel
  | wlWebosShellGetShellSurface slot wss => exact safe_hWlWebosShellGetShellSurface
  | wlProxyDestroy slot => exact checked quiet_hWlProxyDestroy
  | wlWebosShellSurfaceSetState slot => exact safe_hWlWebosShellSurfaceSetState

/-! ## Both threads of the proxy -/

/-- A command goes to the thread that serves it. -/
def serve (clientPid : Int32) (targetCtx : UInt32) (accepts : RealCurrent → Bool) :
    HandleCommand ⊕ WlCommand → Handler HandleReply
  | .inl command => dispatch clientPid targetCtx accepts command
  | .inr command => wlDispatch command

def InRange : HandleCommand ⊕ WlCommand → Prop
  | .inl command => command.InRange
  | .inr command => command.InRange

/-- Every access of a handler is inside its array exactly for the handles that are. -/
theorem handles_in_range_iff (command : HandleCommand ⊕ WlCommand) :
    (serve clientPid target accepts command).Safe tables ↔ InRange command := by
  cases command with
  | inl command => exact safe_dispatch
  | inr command => exact safe_wlDispatch

/-- A surface that the driver does not destroy. -/
theorem destroyed_surface_out_of_range :
    ¬ (serve 1 0 (fun _ => true) (.inl (.eglDestroySurface 1 17 false))).Safe .zero := by
  rw [serve, safe_dispatch]
  have past : ¬ (17 : UInt32).toNat ≤ eglBridgeMaxSurfaces := by decide
  exact past

end Handler

end GlesBridge.Proxy
