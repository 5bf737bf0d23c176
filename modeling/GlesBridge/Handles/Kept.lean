import GlesBridge.Handles.Objects

namespace GlesBridge.Proxy

open GlesBridge.Data GlesBridge.Systems GlesBridge.Systems.Checked

/-! The handlers keep what the tables hold: no object gets there that the driver has not
given to the handler.
-/

namespace HandleTables

/-- The main thread leaves the other one's part, and all that it holds is what it may. -/
def Keeps (before : HandleTables) (holds : RealObject → Prop) (after : HandleTables) : Prop :=
  after.AllEgl holds ∧ before.SameWl after

section

variable (every : UInt32 → Prop)

theorem all_update {size : Nat} {entries : Fin size → UInt32} {place : Fin size} {real : UInt32}
    (all : ∀ e, every (entries e)) (fits : every real) :
    ∀ e, every (Function.update entries place real e) := by
  intro e
  by_cases same : e = place
  · subst same
    rw [Function.update_self]
    exact fits
  · rw [Function.update_of_ne same]
    exact all e

variable {n : Nat} {table : Fin (n + 1) → EGLHandleEntry} {real : UInt32} {pid : Int32}

theorem all_tableAlloc (all : ∀ e, every (handles table e)) (fits : every real) :
    ∀ e, every (handles (tableAlloc table real pid).1 e) := by
  rw [handles_tableAlloc]
  cases free : placeOf (handles table) 0 with
  | none =>
      rw [allocate_full free]
      exact all
  | some place =>
      rw [allocate_free free]
      exact all_update every all fits

theorem all_getConfigs {table : Fin (eglBridgeMaxConfigs + 1) → EGLHandleEntry}
    {configs : List UInt32} (all : ∀ e, every (handles table e))
    (fits : ∀ config ∈ configs, every config) :
    ∀ e, every (handles (Handler.getConfigs pid table configs).1 e) := by
  induction configs generalizing table with
  | nil => exact all
  | cons config rest ih =>
      have first : every config := fits config (List.mem_cons_self ..)
      exact ih (all_tableAlloc every all first) fun other member =>
        fits other (List.mem_cons_of_mem _ member)

theorem all_chooseConfigs {table : Fin (eglBridgeMaxConfigs + 1) → EGLHandleEntry}
    {configs : List UInt32} (all : ∀ e, every (handles table e))
    (fits : ∀ config ∈ configs, every config) :
    ∀ e, every (handles (Handler.chooseConfigs pid table configs).1 e) := by
  induction configs generalizing table with
  | nil => exact all
  | cons config rest ih =>
      have first : every config := fits config (List.mem_cons_self ..)
      have others : ∀ other ∈ rest, every other := fun other member =>
        fits other (List.mem_cons_of_mem _ member)
      rw [Handler.chooseConfigs]
      cases found : placeOf (handles table) config with
      | some place => exact ih all others
      | none => exact ih (all_tableAlloc every all first) others

end

variable {before tables : HandleTables} {holds : RealObject → Prop}

namespace Keeps

theorem refl (all : tables.AllEgl holds) : tables.Keeps holds tables :=
  ⟨all, rfl, rfl, rfl, rfl, rfl, rfl, rfl, rfl⟩

theorem setDisplay {e : Fin (eglBridgeMaxDisplays + 1)} {change : EGLHandleEntry → EGLHandleEntry}
    (keeps : before.Keeps holds tables)
    (fits : holds (.eglDisplay (change (tables.eglDisplays e)).handle)) :
    before.Keeps holds (tables.setDisplay e change) := by
  refine ⟨{ keeps.1 with displays := ?_ }, keeps.2⟩
  rw [HandleTables.setDisplay, handles_update]
  exact all_update (fun handle => holds (.eglDisplay handle)) keeps.1.displays fits

theorem setContext {e : Fin (eglBridgeMaxContexts + 1)} {change : EGLHandleEntry → EGLHandleEntry}
    (keeps : before.Keeps holds tables)
    (fits : holds (.eglContext (change (tables.eglContexts e)).handle)) :
    before.Keeps holds (tables.setContext e change) := by
  refine ⟨{ keeps.1 with contexts := ?_ }, keeps.2⟩
  rw [HandleTables.setContext, handles_update]
  exact all_update (fun handle => holds (.eglContext handle)) keeps.1.contexts fits

theorem setSurface {e : Fin (eglBridgeMaxSurfaces + 1)} {change : EGLHandleEntry → EGLHandleEntry}
    (keeps : before.Keeps holds tables)
    (fits : holds (.eglSurface (change (tables.eglSurfaces e)).handle)) :
    before.Keeps holds (tables.setSurface e change) := by
  refine ⟨{ keeps.1 with surfaces := ?_ }, keeps.2⟩
  rw [HandleTables.setSurface, handles_update]
  exact all_update (fun handle => holds (.eglSurface handle)) keeps.1.surfaces fits

theorem displays {table : Fin (eglBridgeMaxDisplays + 1) → EGLHandleEntry}
    (keeps : before.Keeps holds tables) (all : ∀ e, holds (.eglDisplay (handles table e))) :
    before.Keeps holds { tables with eglDisplays := table } :=
  ⟨{ keeps.1 with displays := all }, keeps.2⟩

theorem configs {table : Fin (eglBridgeMaxConfigs + 1) → EGLHandleEntry}
    (keeps : before.Keeps holds tables) (all : ∀ e, holds (.eglConfig (handles table e))) :
    before.Keeps holds { tables with eglConfigs := table } :=
  ⟨{ keeps.1 with configs := all }, keeps.2⟩

theorem contexts {table : Fin (eglBridgeMaxContexts + 1) → EGLHandleEntry}
    (keeps : before.Keeps holds tables) (all : ∀ e, holds (.eglContext (handles table e))) :
    before.Keeps holds { tables with eglContexts := table } :=
  ⟨{ keeps.1 with contexts := all }, keeps.2⟩

theorem surfaces {table : Fin (eglBridgeMaxSurfaces + 1) → EGLHandleEntry}
    (keeps : before.Keeps holds tables) (all : ∀ e, holds (.eglSurface (handles table e))) :
    before.Keeps holds { tables with eglSurfaces := table } :=
  ⟨{ keeps.1 with surfaces := all }, keeps.2⟩

theorem current {ctx : UInt32} (keeps : before.Keeps holds tables) :
    before.Keeps holds { tables with gCurrentCtx := ctx } :=
  ⟨{ keeps.1 with }, keeps.2⟩

theorem bindings {made : Fin (eglBridgeMaxContexts + 1) → CtxBinding}
    (keeps : before.Keeps holds tables)
    (all : ∀ i, holds (.eglDisplay (made i).dpy) ∧ holds (.eglSurface (made i).draw) ∧
      holds (.eglSurface (made i).read)) :
    before.Keeps holds { tables with gCtxBindings := made } :=
  ⟨{ keeps.1 with bindings := all }, keeps.2⟩

theorem binding {place : Fin (eglBridgeMaxContexts + 1)} {made : CtxBinding}
    (keeps : before.Keeps holds tables)
    (fits : holds (.eglDisplay made.dpy) ∧ holds (.eglSurface made.draw) ∧
      holds (.eglSurface made.read)) :
    before.Keeps holds
      { tables with gCtxBindings := Function.update tables.gCtxBindings place made } := by
  apply keeps.bindings
  intro i
  by_cases same : i = place
  · subst same
    rw [Function.update_self]
    exact fits
  · rw [Function.update_of_ne same]
    exact keeps.1.bindings i

theorem windows {made : Fin maxWlEglWindows → UInt32} (keeps : before.Keeps holds tables)
    (all : ∀ slot, holds (.window (made slot))) :
    before.Keeps holds { tables with proxyWlEglWindows := made } :=
  ⟨{ keeps.1 with windows := all }, keeps.2⟩

theorem window {place : Fin maxWlEglWindows} {made : UInt32} (keeps : before.Keeps holds tables)
    (fits : holds (.window made)) :
    before.Keeps holds { tables with
      proxyWlEglWindows := Function.update tables.proxyWlEglWindows place made } := by
  apply keeps.windows
  intro slot
  by_cases same : slot = place
  · subst same
    rw [Function.update_self]
    exact fits
  · rw [Function.update_of_ne same]
    exact keeps.1.windows slot

end Keeps

end HandleTables

/-! ## The handlers -/

namespace Handler

open HandleTables

variable {tables : HandleTables} {holds : RealObject → Prop} {clientPid : Int32}
  {di ci si xi real : UInt32} {ok : Bool} {accepts : RealCurrent → Bool}

/-- Whatever the program ends with keeps what the tables hold. -/
def KeepsAll (program : Handler HandleReply) (holds : RealObject → Prop) (tables : HandleTables) :
    Prop :=
  program.Ensures (fun _ after => tables.Keeps holds after) tables

theorem keeps_hEglGetPlatformDisplayEXT (all : tables.AllEgl holds)
    (fits : holds (.eglDisplay real)) :
    (hEglGetPlatformDisplayEXT clientPid real).KeepsAll holds tables := by
  have keeps := Keeps.refl all
  unfold KeepsAll hEglGetPlatformDisplayEXT
  simp only [ensures_bind, ensures_get, ensures_modify, ensures_ite, ensures_pure]
  refine ⟨fun _ => keeps, fun _ => ⟨fun _ => keeps, fun _ => ⟨fun _ => keeps.setDisplay fits,
    fun _ => keeps.displays ?_⟩⟩⟩
  exact all_tableAlloc (fun handle => holds (.eglDisplay handle)) all.displays fits

theorem keeps_hEglGetDisplay (all : tables.AllEgl holds) (fits : holds (.eglDisplay real)) :
    (hEglGetDisplay clientPid real).KeepsAll holds tables := by
  have keeps := Keeps.refl all
  unfold KeepsAll hEglGetDisplay
  simp only [ensures_bind, ensures_get, ensures_modify, ensures_ite, ensures_pure]
  refine ⟨fun _ => keeps, fun _ => ⟨fun _ => keeps.setDisplay fits, fun _ => keeps.displays ?_⟩⟩
  exact all_tableAlloc (fun handle => holds (.eglDisplay handle)) all.displays fits

theorem keeps_hEglInitialize {major minor : Int32} (all : tables.AllEgl holds) :
    (hEglInitialize di major minor ok).KeepsAll holds tables := by
  have keeps := Keeps.refl all
  unfold KeepsAll hEglInitialize
  simp only [ensures_bind, ensures_disp, ensures_index, ensures_get, ensures_modify, ensures_ite,
    ensures_pure]
  exact fun below => ⟨fun _ => keeps.setDisplay (all.displays _), fun _ => keeps⟩

theorem keeps_hEglTerminate (all : tables.AllEgl holds) :
    (hEglTerminate di ok).KeepsAll holds tables := by
  have keeps := Keeps.refl all
  unfold KeepsAll hEglTerminate
  simp only [ensures_bind, ensures_disp, ensures_index, ensures_modify, ensures_ite, ensures_pure]
  intro below
  refine ⟨fun _ => ?_, fun _ => keeps.setDisplay (all.displays _)⟩
  have first : tables.Keeps holds (tables.setDisplay ⟨di.toNat, below⟩ fun entry =>
      { entry with initialized := false, major := 0, minor := 0 }) :=
    keeps.setDisplay (all.displays _)
  exact first.setDisplay (first.1.displays _)

theorem keeps_hEglReleaseThread (all : tables.AllEgl holds) :
    (hEglReleaseThread ok).KeepsAll holds tables := by
  have keeps := Keeps.refl all
  unfold KeepsAll hEglReleaseThread
  simp only [ensures_bind, ensures_modify, ensures_ite, ensures_pure]
  exact ⟨fun _ => keeps.current, fun _ => keeps⟩

theorem keeps_onDisplay {answer : UInt32 → UInt64} (all : tables.AllEgl holds) :
    (onDisplay di answer).KeepsAll holds tables := by
  unfold KeepsAll onDisplay
  simp only [ensures_bind, ensures_disp, ensures_pure]
  exact .refl all

theorem keeps_onSurface {answer : UInt32 → UInt32 → UInt64} (all : tables.AllEgl holds) :
    (onSurface di si answer).KeepsAll holds tables := by
  unfold KeepsAll onSurface
  simp only [ensures_bind, ensures_disp, ensures_surf, ensures_pure]
  exact .refl all

theorem keeps_hEglGetConfigAttrib {answer : UInt32 → UInt32 → UInt64} (all : tables.AllEgl holds) :
    (hEglGetConfigAttrib di ci answer).KeepsAll holds tables := by
  unfold KeepsAll hEglGetConfigAttrib
  simp only [ensures_bind, ensures_disp, ensures_cfg, ensures_pure]
  exact .refl all

theorem keeps_hEglQueryContext {answer : UInt32 → UInt32 → UInt64} (all : tables.AllEgl holds) :
    (hEglQueryContext di xi answer).KeepsAll holds tables := by
  unfold KeepsAll hEglQueryContext
  simp only [ensures_bind, ensures_disp, ensures_ctx, ensures_pure]
  exact .refl all

theorem keeps_hEglGetConfigs {cfgSz : Int32} {configs : List UInt32} (all : tables.AllEgl holds)
    (fits : ∀ config ∈ configs, holds (.eglConfig config)) :
    (hEglGetConfigs clientPid di cfgSz ok configs).KeepsAll holds tables := by
  have keeps := Keeps.refl all
  unfold KeepsAll hEglGetConfigs
  simp only [ensures_bind, ensures_disp, ensures_get, ensures_modify, ensures_ite, ensures_pure]
  refine ⟨fun _ => keeps.configs ?_, fun _ => keeps⟩
  exact all_getConfigs (fun handle => holds (.eglConfig handle)) all.configs fits

theorem keeps_hEglChooseConfig {hasConfigs : Bool} {configs : List UInt32}
    (all : tables.AllEgl holds) (fits : ∀ config ∈ configs, holds (.eglConfig config)) :
    (hEglChooseConfig clientPid di hasConfigs ok configs).KeepsAll holds tables := by
  have keeps := Keeps.refl all
  unfold KeepsAll hEglChooseConfig
  simp only [ensures_bind, ensures_disp, ensures_get, ensures_modify, ensures_ite, ensures_pure]
  refine ⟨fun _ => keeps.configs ?_, fun _ => keeps⟩
  exact all_chooseConfigs (fun handle => holds (.eglConfig handle)) all.configs fits

theorem keeps_enterSurface (all : tables.AllEgl holds) (fits : holds (.eglSurface real)) :
    (enterSurface clientPid real).KeepsAll holds tables := by
  have keeps := Keeps.refl all
  have entered : tables.Keeps holds
      { tables with eglSurfaces := (tableAlloc tables.eglSurfaces real clientPid).1 } :=
    keeps.surfaces (all_tableAlloc (fun handle => holds (.eglSurface handle)) all.surfaces fits)
  unfold KeepsAll enterSurface
  simp only [ensures_bind, ensures_get, ensures_modify, ensures_pure]
  split
  · exact entered.setSurface (entered.1.surfaces _)
  · exact keeps.setSurface (all.surfaces _)

theorem keeps_hEglCreateWindowSurface {winSlot : UInt32} (all : tables.AllEgl holds)
    (fits : holds (.eglSurface real)) :
    (hEglCreateWindowSurface clientPid di ci winSlot real).KeepsAll holds tables := by
  have keeps := Keeps.refl all
  have entered : (enterSurface clientPid real).Ensures (fun _ => tables.Keeps holds) tables :=
    keeps_enterSurface all fits
  unfold KeepsAll hEglCreateWindowSurface
  simp only [ensures_bind, ensures_disp, ensures_cfg, ensures_index, ensures_get, ensures_ite,
    ensures_pure]
  exact ⟨fun _ => keeps, fun _ below => ⟨fun _ => keeps, fun _ => entered⟩⟩

theorem keeps_hEglCreatePbufferSurface (all : tables.AllEgl holds)
    (fits : holds (.eglSurface real)) :
    (hEglCreatePbufferSurface clientPid di ci real).KeepsAll holds tables := by
  have entered : (enterSurface clientPid real).Ensures (fun _ => tables.Keeps holds) tables :=
    keeps_enterSurface all fits
  unfold KeepsAll hEglCreatePbufferSurface
  simp only [ensures_bind, ensures_disp, ensures_cfg]
  exact entered

/-- A binding is without a surface that is gone. -/
theorem bindings_forgetSurface (real : UInt32) (all : tables.AllEgl holds)
    (null : holds (.eglSurface 0)) :
    ∀ i, holds (.eglDisplay ((if i = 0 then tables.gCtxBindings i
        else forgetSurface real (tables.gCtxBindings i))).dpy) ∧
      holds (.eglSurface ((if i = 0 then tables.gCtxBindings i
        else forgetSurface real (tables.gCtxBindings i))).draw) ∧
      holds (.eglSurface ((if i = 0 then tables.gCtxBindings i
        else forgetSurface real (tables.gCtxBindings i))).read) := by
  intro i
  obtain ⟨display, draw, read⟩ := all.bindings i
  split
  · exact ⟨display, draw, read⟩
  · rw [forgetSurface]
    refine ⟨display, ?_, ?_⟩
    · dsimp only
      split
      · exact null
      · exact draw
    · dsimp only
      split
      · exact null
      · exact read

theorem keeps_hEglDestroySurface (all : tables.AllEgl holds) (null : holds (.eglSurface 0)) :
    (hEglDestroySurface di si ok).KeepsAll holds tables := by
  have keeps := Keeps.refl all
  unfold KeepsAll hEglDestroySurface freeSurface
  simp only [ensures_bind, ensures_disp, ensures_surf, ensures_index, ensures_modify, ensures_ite,
    ensures_pure]
  refine ⟨fun _ below also => ?_, fun _ below => keeps.setSurface (all.surfaces _)⟩
  have freed : tables.Keeps holds (tables.setSurface ⟨si.toNat, below⟩ fun entry =>
      { entry with handle := 0, ownerPid := 0 }) := keeps.setSurface null
  have forgot := freed.bindings
    (bindings_forgetSurface (tables.real.surfaces (clamp _ si)) freed.1 null)
  exact forgot.setSurface (forgot.1.surfaces _)

theorem keeps_hEglCreateContext {shareIdx : UInt32} (all : tables.AllEgl holds)
    (fits : holds (.eglContext real)) :
    (hEglCreateContext clientPid di ci shareIdx real).KeepsAll holds tables := by
  have keeps := Keeps.refl all
  have entered : tables.Keeps holds
      { tables with eglContexts := (tableAlloc tables.eglContexts real clientPid).1 } :=
    keeps.contexts (all_tableAlloc (fun handle => holds (.eglContext handle)) all.contexts fits)
  unfold KeepsAll hEglCreateContext
  simp only [ensures_bind, ensures_disp, ensures_cfg, ensures_ctx, ensures_get, ensures_modify,
    ensures_ite, ensures_pure]
  split
  · exact ⟨fun _ => entered, fun _ => entered⟩
  · exact ⟨fun _ => keeps, fun _ => keeps⟩

theorem keeps_hEglDestroyContext (all : tables.AllEgl holds) (null : holds (.eglContext 0)) :
    (hEglDestroyContext di xi ok).KeepsAll holds tables := by
  have keeps := Keeps.refl all
  unfold KeepsAll hEglDestroyContext
  simp only [ensures_bind, ensures_disp, ensures_ctx, ensures_index, ensures_modify, ensures_ite,
    ensures_pure]
  refine ⟨fun _ below => ?_, fun _ below => keeps.setContext (all.contexts _)⟩
  let after := tables.setContext ⟨xi.toNat, below⟩ fun entry =>
    { entry with handle := 0, ownerPid := 0 }
  have freed : tables.Keeps holds after := keeps.setContext null
  refine ⟨fun _ bound also => ?_, fun _ also => freed.setContext (freed.1.contexts _)⟩
  have invalid : tables.Keeps holds { after with
      gCtxBindings := Function.update after.gCtxBindings ⟨xi.toNat, bound⟩
        { after.gCtxBindings ⟨xi.toNat, bound⟩ with valid := false } } :=
    freed.binding (freed.1.bindings _)
  exact invalid.setContext (invalid.1.contexts _)

theorem keeps_hEglMakeCurrent {display draw read context : UInt32} (all : tables.AllEgl holds) :
    (hEglMakeCurrent accepts display draw read context).KeepsAll holds tables := by
  have keeps := Keeps.refl all
  unfold KeepsAll hEglMakeCurrent
  simp only [ensures_bind, ensures_disp, ensures_surf, ensures_ctx, ensures_index, ensures_modify,
    ensures_ite, ensures_pure]
  refine ⟨fun _ => ⟨fun _ below => ?_, fun _ => keeps.current⟩, fun _ => keeps⟩
  let current : HandleTables := { tables with gCurrentCtx := context }
  have kept : tables.Keeps holds current := keeps.current
  have bound : tables.Keeps holds { current with
      gCtxBindings := Function.update current.gCtxBindings ⟨context.toNat, below⟩
        ⟨tables.real.displays (clamp _ display), tables.real.surfaces (clamp _ draw),
          tables.real.surfaces (clamp _ read), true⟩ } :=
    kept.binding ⟨all.displays _, all.surfaces _, all.surfaces _⟩
  exact bound

theorem keeps_currentIndex {n : Nat} {table : HandleTables → Fin (n + 1) → EGLHandleEntry}
    (all : tables.AllEgl holds) : (currentIndex table real).KeepsAll holds tables := by
  unfold KeepsAll currentIndex
  simp only [ensures_bind, ensures_get, ensures_ite, ensures_pure]
  exact ⟨fun _ => .refl all, fun _ => .refl all⟩

theorem keeps_hWlEglWindowCreate {surfaceId window : UInt32} (all : tables.AllEgl holds)
    (fits : holds (.window window)) :
    (hWlEglWindowCreate surfaceId window).KeepsAll holds tables := by
  have keeps := Keeps.refl all
  unfold KeepsAll hWlEglWindowCreate
  simp only [ensures_bind, ensures_index, ensures_get, ensures_modify, ensures_ite, ensures_pure]
  exact fun below => ⟨fun _ => keeps, fun _ also =>
    ⟨fun _ => keeps, fun _ => keeps.window fits⟩⟩

theorem keeps_hWlEglWindowResize {slot : UInt32} (all : tables.AllEgl holds) :
    (hWlEglWindowResize slot).KeepsAll holds tables := by
  unfold KeepsAll hWlEglWindowResize
  simp only [ensures_bind, ensures_index, ensures_ite, ensures_pure]
  exact ⟨fun _ => .refl all, fun _ _ => .refl all⟩

theorem keeps_hWlEglWindowDestroy {slot : UInt32} (all : tables.AllEgl holds)
    (null : holds (.window 0)) : (hWlEglWindowDestroy slot).KeepsAll holds tables := by
  have keeps := Keeps.refl all
  unfold KeepsAll hWlEglWindowDestroy
  simp only [ensures_bind, ensures_index, ensures_modify, ensures_ite, ensures_pure]
  exact ⟨fun _ => keeps, fun _ below => keeps.window null⟩

/-- One handler, once the context of its thread is bound. -/
theorem keeps_handle {command : HandleCommand} (all : tables.AllEgl holds)
    (null : ∀ object : RealObject, object.number = 0 → holds object)
    (fits : ∀ object ∈ command.makes, holds object) :
    (handle clientPid accepts command).KeepsAll holds tables := by
  have configs {given : List UInt32} (every : ∀ object ∈ given.map .eglConfig, holds object) :
      ∀ config ∈ given, holds (.eglConfig config) :=
    fun config member => every _ (List.mem_map_of_mem member)
  cases command with
  | eglGetPlatformDisplayEXT real =>
      exact keeps_hEglGetPlatformDisplayEXT all (fits _ (List.mem_singleton_self _))
  | eglGetDisplay real => exact keeps_hEglGetDisplay all (fits _ (List.mem_singleton_self _))
  | eglInitialize di major minor ok => exact keeps_hEglInitialize all
  | eglTerminate di ok => exact keeps_hEglTerminate all
  | eglReleaseThread ok => exact keeps_hEglReleaseThread all
  | eglQueryString di answer => exact keeps_onDisplay all
  | eglGetConfigs di cfgSz ok given => exact keeps_hEglGetConfigs all (configs fits)
  | eglChooseConfig di hasConfigs ok given => exact keeps_hEglChooseConfig all (configs fits)
  | eglGetConfigAttrib di ci answer => exact keeps_hEglGetConfigAttrib all
  | eglCreateWindowSurface display config winSlot real =>
      exact keeps_hEglCreateWindowSurface all (fits _ (List.mem_singleton_self _))
  | eglCreatePbufferSurface di ci real =>
      exact keeps_hEglCreatePbufferSurface all (fits _ (List.mem_singleton_self _))
  | eglCreatePixmapSurface di ci real =>
      exact keeps_hEglCreatePbufferSurface all (fits _ (List.mem_singleton_self _))
  | eglDestroySurface di si ok => exact keeps_hEglDestroySurface all (null _ rfl)
  | eglCreateContext di ci shareIdx real =>
      exact keeps_hEglCreateContext all (fits _ (List.mem_singleton_self _))
  | eglDestroyContext di xi ok => exact keeps_hEglDestroyContext all (null _ rfl)
  | eglMakeCurrent display draw read context => exact keeps_hEglMakeCurrent all
  | eglGetCurrentContext real | eglGetCurrentSurface real | eglGetCurrentDisplay real =>
      exact keeps_currentIndex all
  | eglQueryContext di xi answer => exact keeps_hEglQueryContext all
  | eglSwapInterval di answer => exact keeps_onDisplay all
  | eglQuerySurface di si answer | eglSurfaceAttrib di si answer | eglBindTexImage di si answer
  | eglReleaseTexImage di si answer | eglCopyBuffers di si answer | eglSwapBuffers di si answer =>
      exact keeps_onSurface all
  | wlEglWindowCreate surfaceId window =>
      exact keeps_hWlEglWindowCreate all (fits _ (List.mem_singleton_self _))
  | wlEglWindowResize slot => exact keeps_hWlEglWindowResize all
  | wlEglWindowDestroy slot => exact keeps_hWlEglWindowDestroy all (null _ rfl)
  | other => exact ensures_pure.mpr (.refl all)

theorem keeps_dispatch {command : HandleCommand} {target : UInt32} (all : tables.AllEgl holds)
    (null : ∀ object : RealObject, object.number = 0 → holds object)
    (fits : ∀ object ∈ command.makes, holds object) :
    (dispatch clientPid target accepts command).KeepsAll holds tables := by
  have handled {current : UInt32} :
      (handle clientPid accepts command).Ensures (fun _ => tables.Keeps holds)
        { tables with gCurrentCtx := current } := by
    have bound : tables.Keeps holds { tables with gCurrentCtx := current } :=
      (Keeps.refl all).current
    exact keeps_handle bound.1 null fits
  have afterBind : (eglBindTargetCtx accepts target >>= fun _ =>
      handle clientPid accepts command).KeepsAll holds tables := by
    have every : (eglBindTargetCtx accepts target).Yields (fun _ after =>
        (handle clientPid accepts command).Ensures (fun _ => tables.Keeps holds) after) tables :=
      yields_eglBindTargetCtx fun _ _ => handled
    exact ensures_bind.mpr (every.ensures_iff.mpr every)
  unfold dispatch
  split
  · exact keeps_handle all null fits
  · exact afterBind

/-! ## The handlers of Wayland -/

section

variable {every : UInt32 → Prop} {slot surf : UInt32}

/-- The thread of Wayland leaves the other one's part, and its proxies are what they may be. -/
def KeepsWl (program : Handler HandleReply) (every : UInt32 → Prop) (tables : HandleTables) : Prop :=
  program.Ensures (fun _ after => after.AllWl every ∧ tables.SameEgl after) tables

theorem same_egl (tables : HandleTables) : tables.SameEgl tables :=
  ⟨rfl, rfl, rfl, rfl, rfl, rfl, rfl, rfl⟩

theorem keepsWl_hWlCompositorCreateSurface (all : tables.AllWl every) (fits : every surf) :
    (hWlCompositorCreateSurface surf).KeepsWl every tables := by
  have same := same_egl tables
  unfold KeepsWl hWlCompositorCreateSurface
  simp only [ensures_bind, ensures_index, ensures_get, ensures_modify, ensures_ite, ensures_pure]
  exact ⟨fun _ => ⟨all, same⟩, fun _ => ⟨fun _ => ⟨{ all with }, same⟩, fun _ below =>
    ⟨{ all with surfs := all_update every all.surfs fits }, same⟩⟩⟩

theorem keepsWl_hWlShellGetShellSurface (all : tables.AllWl every) (fits : every surf) :
    (hWlShellGetShellSurface slot surf).KeepsWl every tables := by
  have same := same_egl tables
  unfold KeepsWl hWlShellGetShellSurface
  simp only [ensures_bind, ensures_index, ensures_get, ensures_modify, ensures_ite, ensures_pure]
  exact fun below => ⟨fun _ => ⟨all, same⟩, fun _ => ⟨fun _ => ⟨all, same⟩, fun _ also =>
    ⟨fun _ => ⟨all, same⟩, fun _ =>
      ⟨{ all with shellSurfs := all_update every all.shellSurfs fits }, same⟩⟩⟩⟩

theorem keepsWl_hWlWebosShellGetShellSurface (all : tables.AllWl every) (fits : every surf) :
    (hWlWebosShellGetShellSurface slot surf).KeepsWl every tables := by
  have same := same_egl tables
  unfold KeepsWl hWlWebosShellGetShellSurface
  simp only [ensures_bind, ensures_index, ensures_get, ensures_modify, ensures_ite, ensures_pure]
  exact fun below => ⟨fun _ => ⟨all, same⟩, fun _ => ⟨fun _ => ⟨all, same⟩, fun _ also =>
    ⟨fun _ => ⟨all, same⟩, fun _ =>
      ⟨{ all with
        webosShellSurfaces := all_update every all.webosShellSurfaces fits }, same⟩⟩⟩⟩

theorem keepsWl_hWlSurfaceDestroy (all : tables.AllWl every) (null : every 0) :
    (hWlSurfaceDestroy slot).KeepsWl every tables := by
  have same := same_egl tables
  unfold KeepsWl hWlSurfaceDestroy
  simp only [ensures_bind, ensures_index, ensures_modify, ensures_ite, ensures_pure]
  exact ⟨fun _ below => ⟨{ all with surfs := all_update every all.surfs null }, same⟩,
    fun _ => ⟨all, same⟩⟩

theorem keepsWl_hWlProxyDestroy (all : tables.AllWl every) (null : every 0) :
    (hWlProxyDestroy slot).KeepsWl every tables := by
  have same := same_egl tables
  unfold KeepsWl hWlProxyDestroy
  simp only [ensures_bind, ensures_index, ensures_modify, ensures_ite, ensures_pure]
  exact ⟨fun _ below also => ⟨{ all with
      webosShellSurfaces := all_update every all.webosShellSurfaces null
      shellSurfs := all_update every all.shellSurfs null }, same⟩, fun _ => ⟨all, same⟩⟩

theorem keepsWl_wlDispatch {command : WlCommand} (all : tables.AllWl every) (null : every 0)
    (fits : ∀ pointer, .wl pointer ∈ command.makes → every pointer)
    (connects : ∀ display compositor shell webosShell,
      command ≠ .wlDisplayConnect display compositor shell webosShell)
    (disconnects : ∀ slot, command ≠ .wlDisplayDisconnect slot) :
    (wlDispatch command).KeepsWl every tables := by
  have same := same_egl tables
  cases command with
  | wlDisplayConnect display compositor shell webosShell =>
      exact absurd rfl (connects display compositor shell webosShell)
  | wlDisplayDisconnect slot => exact absurd rfl (disconnects _)
  | wlCompositorCreateSurface surf =>
      exact keepsWl_hWlCompositorCreateSurface all (fits _ (List.mem_singleton_self _))
  | wlShellGetShellSurface slot shellSurface =>
      exact keepsWl_hWlShellGetShellSurface all (fits _ (List.mem_singleton_self _))
  | wlWebosShellGetShellSurface slot wss =>
      exact keepsWl_hWlWebosShellGetShellSurface all (fits _ (List.mem_singleton_self _))
  | wlSurfaceDestroy slot => exact keepsWl_hWlSurfaceDestroy all null
  | wlProxyDestroy slot => exact keepsWl_hWlProxyDestroy all null
  | wlSurfaceCommit slot =>
      change (hWlSurfaceCommit slot).KeepsWl every tables
      unfold KeepsWl hWlSurfaceCommit
      simp only [ensures_bind, ensures_index, ensures_ite, ensures_pure]
      exact ⟨fun _ _ => ⟨all, same⟩, fun _ => ⟨all, same⟩⟩
  | wlWebosSetProperty slot =>
      change (hWlWebosSetProperty slot).KeepsWl every tables
      unfold KeepsWl hWlWebosSetProperty
      simp only [ensures_bind, ensures_index, ensures_ite, ensures_pure]
      exact ⟨fun _ _ => ⟨all, same⟩, fun _ => ⟨all, same⟩⟩
  | wlShellSurfaceSetToplevel slot =>
      change (hWlShellSurfaceSetToplevel slot).KeepsWl every tables
      unfold KeepsWl hWlShellSurfaceSetToplevel
      simp only [ensures_bind, ensures_index, ensures_ite, ensures_pure]
      exact ⟨fun _ _ => ⟨all, same⟩, fun _ => ⟨all, same⟩⟩
  | wlWebosShellSurfaceSetState slot =>
      change (hWlWebosShellSurfaceSetState slot).KeepsWl every tables
      unfold KeepsWl hWlWebosShellSurfaceSetState
      simp only [ensures_bind, ensures_index, ensures_pure]
      exact fun _ => ⟨all, same⟩

end

end Handler

end GlesBridge.Proxy
