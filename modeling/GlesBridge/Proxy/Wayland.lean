import GlesBridge.Proxy.Handles

namespace GlesBridge.Proxy

/-! The handlers of Wayland and of `wl_egl_window`, and the choice of the handler. -/

/-- The commands of EGL and of `wl_egl_window`, with what the driver answers; `other`
is any command that indexes none of the arrays. -/
inductive HandleCommand where
  | eglGetPlatformDisplayEXT (real : UInt32)
  | eglGetDisplay (real : UInt32)
  | eglInitialize (di : UInt32) (major minor : Int32) (ok : Bool)
  | eglTerminate (di : UInt32) (ok : Bool)
  | eglReleaseThread (ok : Bool)
  | eglQueryString (di : UInt32) (answer : UInt32 → UInt64)
  | eglGetConfigs (di : UInt32) (cfgSz : Int32) (ok : Bool) (configs : List UInt32)
  | eglChooseConfig (di : UInt32) (hasConfigs ok : Bool) (configs : List UInt32)
  | eglGetConfigAttrib (di ci : UInt32) (answer : UInt32 → UInt32 → UInt64)
  | eglCreateWindowSurface (display config winSlot real : UInt32)
  | eglCreatePbufferSurface (di ci real : UInt32)
  | eglCreatePixmapSurface (di ci real : UInt32)
  | eglDestroySurface (di si : UInt32) (ok : Bool)
  | eglQuerySurface (di si : UInt32) (answer : UInt32 → UInt32 → UInt64)
  | eglSurfaceAttrib (di si : UInt32) (answer : UInt32 → UInt32 → UInt64)
  | eglBindTexImage (di si : UInt32) (answer : UInt32 → UInt32 → UInt64)
  | eglReleaseTexImage (di si : UInt32) (answer : UInt32 → UInt32 → UInt64)
  | eglCopyBuffers (di si : UInt32) (answer : UInt32 → UInt32 → UInt64)
  | eglCreateContext (di ci shareIdx real : UInt32)
  | eglDestroyContext (di xi : UInt32) (ok : Bool)
  | eglMakeCurrent (display draw read context : UInt32)
  | eglGetCurrentContext (real : UInt32)
  | eglGetCurrentSurface (real : UInt32)
  | eglGetCurrentDisplay (real : UInt32)
  | eglQueryContext (di xi : UInt32) (answer : UInt32 → UInt32 → UInt64)
  | eglSwapBuffers (di si : UInt32) (answer : UInt32 → UInt32 → UInt64)
  | eglSwapInterval (di : UInt32) (answer : UInt32 → UInt64)
  | wlEglWindowCreate (surfaceId window : UInt32)
  | wlEglWindowResize (slot : UInt32)
  | wlEglWindowDestroy (slot : UInt32)
  | other

/-- The commands of the thread for Wayland. -/
inductive WlCommand where
  | wlDisplayConnect (display compositor shell webosShell : UInt32)
  | wlDisplayDisconnect (slot : UInt32)
  | wlCompositorCreateSurface (surf : UInt32)
  | wlSurfaceCommit (slot : UInt32)
  | wlSurfaceDestroy (slot : UInt32)
  | wlWebosSetProperty (slot : UInt32)
  | wlShellGetShellSurface (slot shellSurface : UInt32)
  | wlShellSurfaceSetToplevel (slot : UInt32)
  | wlWebosShellGetShellSurface (slot wss : UInt32)
  | wlProxyDestroy (slot : UInt32)
  | wlWebosShellSurfaceSetState (slot : UInt32)
deriving DecidableEq, Repr

namespace Handler

/-- `alloc_slot`, 0 without a free one. -/
def allocSlot (table : Fin eglBridgeMaxDisplays → UInt32) : Fin eglBridgeMaxDisplays :=
  ((List.finRange eglBridgeMaxDisplays).find? fun slot => slot != 0 && table slot == 0).getD 0

/-- `proxy_wayland_init`, with the globals that the compositor announces. -/
def hWlDisplayConnect (display compositor shell webosShell : UInt32) : Handler HandleReply := do
  modify fun tables =>
    { tables with
      gSurfs := fun _ => 0
      gShellSurfs := fun _ => 0
      gWebosShellSurfaces := fun _ => 0
      gSurfNext := 1
      proxyWlDisplay := display
      proxyWlCompositor := if display = 0 then 0 else compositor
      proxyWlShell := if display = 0 then 0 else shell
      proxyWlWebosShell := if display = 0 then 0 else webosShell }
  if display = 0 then return .number 0
  else
    let allocated := allocSlot (← get).displayTable
    modify fun tables =>
      { tables with displayTable := Function.update tables.displayTable allocated display }
    return .number (.ofNat allocated.val)

def hWlDisplayDisconnect (slot : UInt32) : Handler HandleReply := do
  let entry ← index .displayTable eglBridgeMaxDisplays slot
  if (← get).displayTable entry ≠ 0 then
    modify fun tables =>
      { tables with displayTable := Function.update tables.displayTable entry 0 }
  return .number 0

def hWlCompositorCreateSurface (surf : UInt32) : Handler HandleReply := do
  let slot := (← get).gSurfNext
  if (← get).proxyWlCompositor = 0 ∨ proxySurfMax ≤ slot.toNat then return .number 0
  else
    modify fun tables => { tables with gSurfNext := slot + 1 }
    if surf = 0 then return .number 0
    else
      let entry ← index .gSurfs proxySurfMax slot
      modify fun tables => { tables with gSurfs := Function.update tables.gSurfs entry surf }
      return .number slot.toUInt64

/-- The slot indexes the array before it is compared. -/
def hWlShellGetShellSurface (slot shellSurface : UInt32) : Handler HandleReply := do
  let entry ← index .gShellSurfs proxySurfMax slot
  if (← get).gShellSurfs entry ≠ 0 then return .number slot.toUInt64
  else if (← get).proxyWlShell = 0 ∨ proxySurfMax ≤ slot.toNat then return .number 0
  else
    let surface ← index .gSurfs proxySurfMax slot
    if (← get).gSurfs surface = 0 then return .number 0
    else
      modify fun tables =>
        { tables with gShellSurfs := Function.update tables.gShellSurfs entry shellSurface }
      return .number slot.toUInt64

def hWlShellSurfaceSetToplevel (slot : UInt32) : Handler HandleReply := do
  if slot.toNat < proxySurfMax then
    let _ ← index .gShellSurfs proxySurfMax slot
  return .number 0

/-- Here too, but a null answer of the driver is no surface. -/
def hWlWebosShellGetShellSurface (slot wss : UInt32) : Handler HandleReply := do
  let entry ← index .gWebosShellSurfaces proxySurfMax slot
  if (← get).gWebosShellSurfaces entry ≠ 0 then return .number slot.toUInt64
  else if (← get).proxyWlWebosShell = 0 ∨ proxySurfMax ≤ slot.toNat then return .number 0
  else
    let surface ← index .gSurfs proxySurfMax slot
    if (← get).gSurfs surface = 0 ∨ wss = 0 then return .number 0
    else
      modify fun tables =>
        { tables with gWebosShellSurfaces := Function.update tables.gWebosShellSurfaces entry wss }
      return .number slot.toUInt64

def hWlWebosSetProperty (slot : UInt32) : Handler HandleReply := do
  if slot.toNat < proxySurfMax then
    let _ ← index .gWebosShellSurfaces proxySurfMax slot
  return .number 0

def hWlSurfaceCommit (slot : UInt32) : Handler HandleReply := do
  if slot.toNat < proxySurfMax then
    let _ ← index .gSurfs proxySurfMax slot
  return .number 0

def hWlSurfaceDestroy (slot : UInt32) : Handler HandleReply := do
  if slot.toNat < proxySurfMax then
    let entry ← index .gSurfs proxySurfMax slot
    modify fun tables => { tables with gSurfs := Function.update tables.gSurfs entry 0 }
  return .number 0

def hWlProxyDestroy (slot : UInt32) : Handler HandleReply := do
  if slot.toNat < proxySurfMax then
    let webos ← index .gWebosShellSurfaces proxySurfMax slot
    modify fun tables =>
      { tables with gWebosShellSurfaces := Function.update tables.gWebosShellSurfaces webos 0 }
    let shell ← index .gShellSurfs proxySurfMax slot
    modify fun tables =>
      { tables with gShellSurfs := Function.update tables.gShellSurfs shell 0 }
  return .number 0

/-- The slot is not compared. -/
def hWlWebosShellSurfaceSetState (slot : UInt32) : Handler HandleReply := do
  let _ ← index .gWebosShellSurfaces proxySurfMax slot
  return .number 0

/-- A window that is there is looked for before the slot is compared. -/
def hWlEglWindowCreate (surfaceId window : UInt32) : Handler HandleReply := do
  let entry ← index .proxyWlEglWindows maxWlEglWindows surfaceId
  if proxySurfMax ≤ surfaceId.toNat then return .number 0
  else
    let surface ← index .gSurfs proxySurfMax surfaceId
    if (← get).gSurfs surface = 0 ∨ window = 0 then return .number 0
    else
      modify fun tables =>
        { tables with
          proxyWlEglWindows := Function.update tables.proxyWlEglWindows entry window }
      return .number surfaceId.toUInt64

def hWlEglWindowResize (slot : UInt32) : Handler HandleReply := do
  if maxWlEglWindows ≤ slot.toNat then return .number 0
  else
    let _ ← index .proxyWlEglWindows maxWlEglWindows slot
    return .number 0

def hWlEglWindowDestroy (slot : UInt32) : Handler HandleReply := do
  if maxWlEglWindows ≤ slot.toNat then return .number 0
  else
    let entry ← index .proxyWlEglWindows maxWlEglWindows slot
    modify fun tables =>
      { tables with proxyWlEglWindows := Function.update tables.proxyWlEglWindows entry 0 }
    return .number 0

/-! ## The choice of the handler -/

def handle (clientPid : Int32) (accepts : RealCurrent → Bool) : HandleCommand → Handler HandleReply
  | .eglGetPlatformDisplayEXT real => hEglGetPlatformDisplayEXT clientPid real
  | .eglGetDisplay real => hEglGetDisplay clientPid real
  | .eglInitialize di major minor ok => hEglInitialize di major minor ok
  | .eglTerminate di ok => hEglTerminate di ok
  | .eglReleaseThread ok => hEglReleaseThread ok
  | .eglQueryString di answer => hEglQueryString di answer
  | .eglGetConfigs di cfgSz ok configs => hEglGetConfigs clientPid di cfgSz ok configs
  | .eglChooseConfig di hasConfigs ok configs => hEglChooseConfig clientPid di hasConfigs ok configs
  | .eglGetConfigAttrib di ci answer => hEglGetConfigAttrib di ci answer
  | .eglCreateWindowSurface display config winSlot real =>
      hEglCreateWindowSurface clientPid display config winSlot real
  | .eglCreatePbufferSurface di ci real => hEglCreatePbufferSurface clientPid di ci real
  | .eglCreatePixmapSurface di ci real => hEglCreatePixmapSurface clientPid di ci real
  | .eglDestroySurface di si ok => hEglDestroySurface di si ok
  | .eglQuerySurface di si answer => hEglQuerySurface di si answer
  | .eglSurfaceAttrib di si answer => hEglSurfaceAttrib di si answer
  | .eglBindTexImage di si answer => hEglBindTexImage di si answer
  | .eglReleaseTexImage di si answer => hEglReleaseTexImage di si answer
  | .eglCopyBuffers di si answer => hEglCopyBuffers di si answer
  | .eglCreateContext di ci shareIdx real => hEglCreateContext clientPid di ci shareIdx real
  | .eglDestroyContext di xi ok => hEglDestroyContext di xi ok
  | .eglMakeCurrent display draw read context => hEglMakeCurrent accepts display draw read context
  | .eglGetCurrentContext real => hEglGetCurrentContext real
  | .eglGetCurrentSurface real => hEglGetCurrentSurface real
  | .eglGetCurrentDisplay real => hEglGetCurrentDisplay real
  | .eglQueryContext di xi answer => hEglQueryContext di xi answer
  | .eglSwapBuffers di si answer => hEglSwapBuffers di si answer
  | .eglSwapInterval di answer => hEglSwapInterval di answer
  | .wlEglWindowCreate surfaceId window => hWlEglWindowCreate surfaceId window
  | .wlEglWindowResize slot => hWlEglWindowResize slot
  | .wlEglWindowDestroy slot => hWlEglWindowDestroy slot
  | .other => return .number 0

/-- The loop of `main`. -/
def dispatch (clientPid : Int32) (targetCtx : UInt32) (accepts : RealCurrent → Bool)
    (command : HandleCommand) : Handler HandleReply := do
  match command with
  | .eglMakeCurrent .. => handle clientPid accepts command
  | _ =>
      let _ ← eglBindTargetCtx accepts targetCtx
      handle clientPid accepts command

/-- `wl_dispatch_thread` -/
def wlDispatch : WlCommand → Handler HandleReply
  | .wlDisplayConnect display compositor shell webosShell =>
      hWlDisplayConnect display compositor shell webosShell
  | .wlDisplayDisconnect slot => hWlDisplayDisconnect slot
  | .wlCompositorCreateSurface surf => hWlCompositorCreateSurface surf
  | .wlSurfaceCommit slot => hWlSurfaceCommit slot
  | .wlSurfaceDestroy slot => hWlSurfaceDestroy slot
  | .wlWebosSetProperty slot => hWlWebosSetProperty slot
  | .wlShellGetShellSurface slot shellSurface => hWlShellGetShellSurface slot shellSurface
  | .wlShellSurfaceSetToplevel slot => hWlShellSurfaceSetToplevel slot
  | .wlWebosShellGetShellSurface slot wss => hWlWebosShellGetShellSurface slot wss
  | .wlProxyDestroy slot => hWlProxyDestroy slot
  | .wlWebosShellSurfaceSetState slot => hWlWebosShellSurfaceSetState slot

end Handler

end GlesBridge.Proxy
