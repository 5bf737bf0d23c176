import GlesBridge.Handles.Rules

namespace GlesBridge.Proxy

open GlesBridge.Data GlesBridge.Shared GlesBridge.Systems GlesBridge.Systems.Checked

/-! The real objects that the handlers pass to Wayland and to EGL, and those that they get. -/

/-- A pointer or a handle of one kind; `wl` is a proxy on a display, and null is 0. -/
inductive RealObject where
  | wlDisplay (pointer : UInt32)
  | wl (pointer : UInt32)
  | window (pointer : UInt32)
  | eglDisplay (handle : UInt32)
  | eglConfig (handle : UInt32)
  | eglContext (handle : UInt32)
  | eglSurface (handle : UInt32)
deriving DecidableEq, Repr

def RealObject.number : RealObject → UInt32
  | .wlDisplay number | .wl number | .window number | .eglDisplay number | .eglConfig number
  | .eglContext number | .eglSurface number => number

namespace HandleTables

variable (tables : HandleTables)

/-- The entry of an array, if there is one. -/
def pointerAt {size : Nat} (array : Fin size → UInt32) (index : UInt32) : UInt32 :=
  if inside : index.toNat < size then array ⟨index.toNat, inside⟩ else 0

def dispObject (i : UInt32) : RealObject := .eglDisplay (tables.real.displays (clamp _ i))

def cfgObject (i : UInt32) : RealObject := .eglConfig (tables.real.configs (clamp _ i))

def ctxObject (i : UInt32) : RealObject := .eglContext (tables.real.contexts (clamp _ i))

def surfObject (i : UInt32) : RealObject := .eglSurface (tables.real.surfaces (clamp _ i))

def windowObject (slot : UInt32) : RealObject := .window (pointerAt tables.proxyWlEglWindows slot)

def surfaceObject (slot : UInt32) : RealObject := .wl (pointerAt tables.gSurfs slot)

def shellSurfObject (slot : UInt32) : RealObject := .wl (pointerAt tables.gShellSurfs slot)

def webosSurfObject (slot : UInt32) : RealObject := .wl (pointerAt tables.gWebosShellSurfaces slot)

/-- What `egl_bind_target_ctx` may pass on. -/
def bindUses (target : UInt32) : List RealObject :=
  if target = 0 ∨ target = tables.gCurrentCtx ∨ maxContexts ≤ target.toNat then []
  else
    let binding := tables.gCtxBindings (clamp _ target)
    [.eglDisplay binding.dpy, .eglSurface binding.draw, .eglSurface binding.read,
      tables.ctxObject target]

end HandleTables

/-- What a handler may pass on. -/
def HandleCommand.uses (tables : HandleTables) : HandleCommand → List RealObject
  | .eglGetPlatformDisplayEXT _ | .eglGetDisplay _ => [.wlDisplay tables.proxyWlDisplay]
  | .eglInitialize di _ _ _ | .eglTerminate di _ | .eglQueryString di _ | .eglGetConfigs di _ _ _
  | .eglChooseConfig di _ _ _ | .eglSwapInterval di _ => [tables.dispObject di]
  | .eglGetConfigAttrib di ci _ | .eglCreatePbufferSurface di ci _
  | .eglCreatePixmapSurface di ci _ => [tables.dispObject di, tables.cfgObject ci]
  | .eglCreateWindowSurface display config winSlot _ =>
      [tables.dispObject display, tables.cfgObject config, tables.windowObject winSlot]
  | .eglDestroySurface di si _ | .eglQuerySurface di si _ | .eglSurfaceAttrib di si _
  | .eglBindTexImage di si _ | .eglReleaseTexImage di si _ | .eglCopyBuffers di si _
  | .eglSwapBuffers di si _ => [tables.dispObject di, tables.surfObject si]
  | .eglCreateContext di ci shareIdx _ =>
      [tables.dispObject di, tables.cfgObject ci, tables.ctxObject shareIdx]
  | .eglDestroyContext di xi _ | .eglQueryContext di xi _ =>
      [tables.dispObject di, tables.ctxObject xi]
  | .eglMakeCurrent display draw read context =>
      [tables.dispObject display, tables.surfObject draw, tables.surfObject read,
        tables.ctxObject context]
  | .wlEglWindowCreate surfaceId _ => [tables.surfaceObject surfaceId, tables.windowObject surfaceId]
  | .wlEglWindowResize slot | .wlEglWindowDestroy slot => [tables.windowObject slot]
  | .eglReleaseThread _ | .eglGetCurrentContext _ | .eglGetCurrentSurface _
  | .eglGetCurrentDisplay _ | .other => []

/-- What a handler gets from the driver, null or not. -/
def HandleCommand.makes : HandleCommand → List RealObject
  | .eglGetPlatformDisplayEXT real | .eglGetDisplay real => [.eglDisplay real]
  | .eglGetConfigs _ _ _ configs | .eglChooseConfig _ _ _ configs => configs.map .eglConfig
  | .eglCreateWindowSurface _ _ _ real | .eglCreatePbufferSurface _ _ real
  | .eglCreatePixmapSurface _ _ real => [.eglSurface real]
  | .eglCreateContext _ _ _ real => [.eglContext real]
  | .wlEglWindowCreate _ window => [.window window]
  | _ => []

/-- The object on which it is made. -/
def HandleCommand.madeOn (tables : HandleTables) : HandleCommand → RealObject
  | .eglGetPlatformDisplayEXT _ | .eglGetDisplay _ => .wlDisplay tables.proxyWlDisplay
  | .eglGetConfigs di _ _ _ | .eglChooseConfig di _ _ _ | .eglCreateWindowSurface di _ _ _
  | .eglCreatePbufferSurface di _ _ | .eglCreatePixmapSurface di _ _
  | .eglCreateContext di _ _ _ => tables.dispObject di
  | .wlEglWindowCreate surfaceId _ => tables.surfaceObject surfaceId
  | _ => .wlDisplay 0

/-- The same for the thread of Wayland, whose flush comes after the handler. -/
def WlCommand.uses (tables : HandleTables) : WlCommand → List RealObject
  | .wlDisplayConnect _ _ _ _ => []
  | .wlDisplayDisconnect slot => [.wlDisplay (HandleTables.pointerAt tables.displayTable slot)]
  | .wlCompositorCreateSurface _ => [.wl tables.proxyWlCompositor]
  | .wlShellGetShellSurface slot _ => [.wl tables.proxyWlShell, tables.surfaceObject slot]
  | .wlWebosShellGetShellSurface slot _ => [.wl tables.proxyWlWebosShell, tables.surfaceObject slot]
  | .wlShellSurfaceSetToplevel slot => [tables.shellSurfObject slot]
  | .wlWebosShellSurfaceSetState slot => [tables.webosSurfObject slot]
  | .wlWebosSetProperty slot => [tables.webosSurfObject slot, .wlDisplay tables.proxyWlDisplay]
  | .wlSurfaceCommit slot => [tables.surfaceObject slot, .wlDisplay tables.proxyWlDisplay]
  | .wlSurfaceDestroy slot => [tables.surfaceObject slot]
  | .wlProxyDestroy slot => [tables.webosSurfObject slot, tables.shellSurfObject slot]

def WlCommand.makes : WlCommand → List RealObject
  | .wlCompositorCreateSurface surf => [.wl surf]
  | .wlShellGetShellSurface _ shellSurface => [.wl shellSurface]
  | .wlWebosShellGetShellSurface _ wss => [.wl wss]
  | _ => []

def WlCommand.madeOn (tables : HandleTables) : WlCommand → RealObject
  | .wlCompositorCreateSurface _ => .wl tables.proxyWlCompositor
  | .wlShellGetShellSurface _ _ => .wl tables.proxyWlShell
  | .wlWebosShellGetShellSurface _ _ => .wl tables.proxyWlWebosShell
  | _ => .wlDisplay 0

/-! ## What the tables hold -/

namespace HandleTables

/-- Everything of EGL that the tables hold, the windows too. -/
structure AllEgl (tables : HandleTables) (holds : RealObject → Prop) : Prop where
  displays : ∀ e, holds (.eglDisplay (handles tables.eglDisplays e))
  configs : ∀ e, holds (.eglConfig (handles tables.eglConfigs e))
  contexts : ∀ e, holds (.eglContext (handles tables.eglContexts e))
  surfaces : ∀ e, holds (.eglSurface (handles tables.eglSurfaces e))
  bindings : ∀ i, holds (.eglDisplay (tables.gCtxBindings i).dpy) ∧
    holds (.eglSurface (tables.gCtxBindings i).draw) ∧
    holds (.eglSurface (tables.gCtxBindings i).read)
  windows : ∀ slot, holds (.window (tables.proxyWlEglWindows slot))

/-- Every proxy that they hold. -/
structure AllWl (tables : HandleTables) (holds : UInt32 → Prop) : Prop where
  compositor : holds tables.proxyWlCompositor
  shell : holds tables.proxyWlShell
  webosShell : holds tables.proxyWlWebosShell
  surfs : ∀ slot, holds (tables.gSurfs slot)
  shellSurfs : ∀ slot, holds (tables.gShellSurfs slot)
  webosShellSurfaces : ∀ slot, holds (tables.gWebosShellSurfaces slot)

theorem pointerAt_of_all (every : UInt32 → Prop) {size : Nat} {array : Fin size → UInt32}
    {index : UInt32} (null : every 0) (all : ∀ place, every (array place)) :
    every (pointerAt array index) := by
  rw [pointerAt]
  split
  · exact all _
  · exact null

/-- What belongs to the thread of Wayland. -/
def SameWl (before after : HandleTables) : Prop :=
  after.gSurfs = before.gSurfs ∧ after.gShellSurfs = before.gShellSurfs ∧
    after.gWebosShellSurfaces = before.gWebosShellSurfaces ∧
    after.displayTable = before.displayTable ∧ after.proxyWlDisplay = before.proxyWlDisplay ∧
    after.proxyWlCompositor = before.proxyWlCompositor ∧ after.proxyWlShell = before.proxyWlShell ∧
    after.proxyWlWebosShell = before.proxyWlWebosShell

/-- What belongs to the main thread, and the displays. -/
def SameEgl (before after : HandleTables) : Prop :=
  after.eglDisplays = before.eglDisplays ∧ after.eglConfigs = before.eglConfigs ∧
    after.eglContexts = before.eglContexts ∧ after.eglSurfaces = before.eglSurfaces ∧
    after.gCtxBindings = before.gCtxBindings ∧
    after.proxyWlEglWindows = before.proxyWlEglWindows ∧
    after.displayTable = before.displayTable ∧ after.proxyWlDisplay = before.proxyWlDisplay

theorem AllEgl.same {before after : HandleTables} {holds : RealObject → Prop}
    (all : before.AllEgl holds) (same : before.SameEgl after) : after.AllEgl holds := by
  obtain ⟨displays, configs, contexts, surfaces, bindings, windows, -, -⟩ := same
  constructor
  case displays => exact displays ▸ all.displays
  case configs => exact configs ▸ all.configs
  case contexts => exact contexts ▸ all.contexts
  case surfaces => exact surfaces ▸ all.surfaces
  case bindings => exact bindings ▸ all.bindings
  case windows => exact windows ▸ all.windows

theorem AllWl.same {before after : HandleTables} {every : UInt32 → Prop}
    (all : before.AllWl every) (same : before.SameWl after) : after.AllWl every := by
  obtain ⟨surfs, shellSurfs, webosSurfs, -, -, compositor, shell, webosShell⟩ := same
  constructor
  case compositor => exact compositor ▸ all.compositor
  case shell => exact shell ▸ all.shell
  case webosShell => exact webosShell ▸ all.webosShell
  case surfs => exact surfs ▸ all.surfs
  case shellSurfs => exact shellSurfs ▸ all.shellSurfs
  case webosShellSurfaces => exact webosSurfs ▸ all.webosShellSurfaces

theorem AllEgl.mono {tables : HandleTables} {holds other : RealObject → Prop}
    (all : tables.AllEgl holds) (weaker : ∀ object, holds object → other object) :
    tables.AllEgl other where
  displays e := weaker _ (all.displays e)
  configs e := weaker _ (all.configs e)
  contexts e := weaker _ (all.contexts e)
  surfaces e := weaker _ (all.surfaces e)
  bindings i :=
    ⟨weaker _ (all.bindings i).1, weaker _ (all.bindings i).2.1, weaker _ (all.bindings i).2.2⟩
  windows slot := weaker _ (all.windows slot)

theorem AllEgl.and {tables : HandleTables} {one other : RealObject → Prop}
    (first : tables.AllEgl one) (second : tables.AllEgl other) :
    tables.AllEgl fun object => one object ∧ other object where
  displays e := ⟨first.displays e, second.displays e⟩
  configs e := ⟨first.configs e, second.configs e⟩
  contexts e := ⟨first.contexts e, second.contexts e⟩
  surfaces e := ⟨first.surfaces e, second.surfaces e⟩
  bindings i :=
    ⟨⟨(first.bindings i).1, (second.bindings i).1⟩,
      ⟨(first.bindings i).2.1, (second.bindings i).2.1⟩,
      ⟨(first.bindings i).2.2, (second.bindings i).2.2⟩⟩
  windows slot := ⟨first.windows slot, second.windows slot⟩

theorem AllWl.mono {tables : HandleTables} {every other : UInt32 → Prop}
    (all : tables.AllWl every) (weaker : ∀ pointer, every pointer → other pointer) :
    tables.AllWl other where
  compositor := weaker _ all.compositor
  shell := weaker _ all.shell
  webosShell := weaker _ all.webosShell
  surfs slot := weaker _ (all.surfs slot)
  shellSurfs slot := weaker _ (all.shellSurfs slot)
  webosShellSurfaces slot := weaker _ (all.webosShellSurfaces slot)

end HandleTables

/-! ## What is passed on -/

section

variable {tables : HandleTables} {holds : RealObject → Prop}

/-- A handler passes on what the tables hold, and null. -/
theorem all_uses {command : HandleCommand} (all : tables.AllEgl holds)
    (surfs : ∀ slot, holds (.wl (tables.gSurfs slot)))
    (display : holds (.wlDisplay tables.proxyWlDisplay))
    (null : ∀ object : RealObject, object.number = 0 → holds object) :
    ∀ object ∈ command.uses tables, holds object := by
  have window (slot : UInt32) : holds (tables.windowObject slot) :=
    HandleTables.pointerAt_of_all (fun pointer => holds (.window pointer)) (null _ rfl) all.windows
  have surface (slot : UInt32) : holds (tables.surfaceObject slot) :=
    HandleTables.pointerAt_of_all (fun pointer => holds (.wl pointer)) (null _ rfl) surfs
  have disp (di : UInt32) : holds (tables.dispObject di) := all.displays _
  have cfg (ci : UInt32) : holds (tables.cfgObject ci) := all.configs _
  have ctx (xi : UInt32) : holds (tables.ctxObject xi) := all.contexts _
  have surf (si : UInt32) : holds (tables.surfObject si) := all.surfaces _
  cases command with
  | _ => simp_all [HandleCommand.uses]

/-- So is what it gets made on. -/
theorem all_madeOn {command : HandleCommand} (all : tables.AllEgl holds)
    (surfs : ∀ slot, holds (.wl (tables.gSurfs slot)))
    (display : holds (.wlDisplay tables.proxyWlDisplay))
    (null : ∀ object : RealObject, object.number = 0 → holds object) :
    holds (command.madeOn tables) := by
  have disp (di : UInt32) : holds (tables.dispObject di) := all.displays _
  cases command with
  | eglGetPlatformDisplayEXT real | eglGetDisplay real => exact display
  | eglGetConfigs di cfgSz ok configs | eglChooseConfig di hasConfigs ok configs
  | eglCreateWindowSurface di config winSlot real | eglCreatePbufferSurface di ci real
  | eglCreatePixmapSurface di ci real | eglCreateContext di ci shareIdx real => exact disp di
  | wlEglWindowCreate surfaceId window =>
      exact HandleTables.pointerAt_of_all (fun pointer => holds (.wl pointer)) (null _ rfl) surfs
  | _ => exact null _ rfl

theorem all_bindUses {target : UInt32} (all : tables.AllEgl holds) :
    ∀ object ∈ tables.bindUses target, holds object := by
  have context : holds (tables.ctxObject target) := all.contexts _
  obtain ⟨display, draw, read⟩ := all.bindings (clamp _ target)
  rw [HandleTables.bindUses]
  split
  · nofun
  · simp [display, draw, read, context]

theorem all_wlUses {command : WlCommand} (all : tables.AllWl fun pointer => holds (.wl pointer))
    (display : holds (.wlDisplay tables.proxyWlDisplay))
    (table : ∀ slot, holds (.wlDisplay (tables.displayTable slot)))
    (null : ∀ object : RealObject, object.number = 0 → holds object) :
    ∀ object ∈ command.uses tables, holds object := by
  have surface (slot : UInt32) : holds (tables.surfaceObject slot) :=
    HandleTables.pointerAt_of_all (fun pointer => holds (.wl pointer)) (null _ rfl) all.surfs
  have shellSurf (slot : UInt32) : holds (tables.shellSurfObject slot) :=
    HandleTables.pointerAt_of_all (fun pointer => holds (.wl pointer)) (null _ rfl) all.shellSurfs
  have webosSurf (slot : UInt32) : holds (tables.webosSurfObject slot) :=
    HandleTables.pointerAt_of_all (fun pointer => holds (.wl pointer)) (null _ rfl)
      all.webosShellSurfaces
  have entry (slot : UInt32) :
      holds (.wlDisplay (HandleTables.pointerAt tables.displayTable slot)) :=
    HandleTables.pointerAt_of_all (fun pointer => holds (.wlDisplay pointer)) (null _ rfl) table
  obtain ⟨compositor, shell, webosShell, -, -, -⟩ := all
  cases command with
  | _ => simp_all [WlCommand.uses]

end

end GlesBridge.Proxy
