import GlesBridge.Proxy.Wayland

namespace GlesBridge.Proxy

open GlesBridge.Data GlesBridge.Systems GlesBridge.Systems.Checked

/-! What the handlers do to the pointers of the four tables of EGL. -/

attribute [-instance] instNeZeroNatHAdd instNeZeroNatHAdd_1

/-- The tables without what else their entries have. -/
structure RealHandles where
  displays : Fin (eglBridgeMaxDisplays + 1) → UInt32
  configs : Fin (eglBridgeMaxConfigs + 1) → UInt32
  contexts : Fin (eglBridgeMaxContexts + 1) → UInt32
  surfaces : Fin (eglBridgeMaxSurfaces + 1) → UInt32

def HandleTables.real (tables : HandleTables) : RealHandles where
  displays := handles tables.eglDisplays
  configs := handles tables.eglConfigs
  contexts := handles tables.eglContexts
  surfaces := handles tables.eglSurfaces

/-- The driver is not asked without a window. -/
def HandleTables.HasWindow (tables : HandleTables) (slot : UInt32) : Prop :=
  ∃ below : slot.toNat < maxWlEglWindows, tables.proxyWlEglWindows ⟨slot.toNat, below⟩ ≠ 0

/-- What an index that is compared first stands for. -/
def clamp (n : Nat) (i : UInt32) : Fin (n + 1) :=
  if below : i.toNat < n + 1 then ⟨i.toNat, below⟩ else 0

/-- The configurations are asked for, and the display is there. -/
def HandleTables.Lists (tables : HandleTables) (di : UInt32) (cfgSz : Int32) (ok : Bool) : Prop :=
  0 < cfgSz ∧ ok = true ∧ tables.real.displays (clamp _ di) ≠ 0

section

variable {n : Nat} {table : Fin (n + 1) → EGLHandleEntry} {place : Fin (n + 1)}
  {entry : EGLHandleEntry} {real : UInt32} {pid : Int32}

@[simp] theorem handles_update :
    handles (Function.update table place entry) =
      Function.update (handles table) place entry.handle := by
  funext spot
  by_cases same : spot = place
  · subst same
    simp [handles]
  · simp [handles, Function.update_of_ne same]

/-- An entry changes apart from its pointer. -/
theorem handles_same (same : entry.handle = (table place).handle) :
    handles (Function.update table place entry) = handles table := by
  rw [handles_update, same]
  exact Function.update_eq_self place (handles table)

theorem handles_tableAlloc :
    handles (tableAlloc table real pid).1 = (allocate (handles table) 0 real).1 := by
  cases free : placeOf (handles table) 0 with
  | none => rw [tableAlloc, free, allocate_full free]
  | some place => rw [tableAlloc, free, allocate_free free, handles_update]

theorem index_tableAlloc :
    (tableAlloc table real pid).2 = (allocate (handles table) 0 real).2 := by
  cases free : placeOf (handles table) 0 with
  | none => rw [tableAlloc, free, allocate_full free]
  | some place => rw [tableAlloc, free, allocate_free free]

theorem tableAlloc_zero :
    (tableAlloc table real pid).2 = 0 ↔ placeOf (handles table) 0 = none := by
  rw [index_tableAlloc]
  cases free : placeOf (handles table) 0 with
  | none => simp [allocate_full free]
  | some place => simp [allocate_free free, (placeOf_some free).1]

end

namespace HandleTables

variable {tables : HandleTables} {change : EGLHandleEntry → EGLHandleEntry}

/-- Entries change apart from their pointers. -/
theorem real_setDisplay {e : Fin (eglBridgeMaxDisplays + 1)}
    (same : ∀ entry, (change entry).handle = entry.handle) :
    (tables.setDisplay e change).real = tables.real := by
  simp only [setDisplay, real, handles_same (same _)]

theorem real_setContext {e : Fin (eglBridgeMaxContexts + 1)}
    (same : ∀ entry, (change entry).handle = entry.handle) :
    (tables.setContext e change).real = tables.real := by
  simp only [setContext, real, handles_same (same _)]

theorem real_setSurface {e : Fin (eglBridgeMaxSurfaces + 1)}
    (same : ∀ entry, (change entry).handle = entry.handle) :
    (tables.setSurface e change).real = tables.real := by
  simp only [setSurface, real, handles_same (same _)]

/-- A pointer changes. -/
theorem real_setDisplay_handle {e : Fin (eglBridgeMaxDisplays + 1)} {handle : UInt32}
    (becomes : ∀ entry, (change entry).handle = handle) :
    (tables.setDisplay e change).real =
      { tables.real with displays := Function.update tables.real.displays e handle } := by
  simp only [setDisplay, real, handles_update, becomes]

theorem real_setContext_handle {e : Fin (eglBridgeMaxContexts + 1)} {handle : UInt32}
    (becomes : ∀ entry, (change entry).handle = handle) :
    (tables.setContext e change).real =
      { tables.real with contexts := Function.update tables.real.contexts e handle } := by
  simp only [setContext, real, handles_update, becomes]

theorem real_setSurface_handle {e : Fin (eglBridgeMaxSurfaces + 1)} {handle : UInt32}
    (becomes : ∀ entry, (change entry).handle = handle) :
    (tables.setSurface e change).real =
      { tables.real with surfaces := Function.update tables.real.surfaces e handle } := by
  simp only [setSurface, real, handles_update, becomes]

end HandleTables

namespace Handler

open HandleTables

variable {tables : HandleTables} {i : UInt32}

@[simp] theorem yields_index {array : HandleArray} {size : Nat}
    {post : Fin size → HandleTables → Prop} :
    (index array size i).Yields post tables ↔
      ∃ below : i.toNat < size, post ⟨i.toNat, below⟩ tables :=
  yields_access

@[simp] theorem ensures_index {array : HandleArray} {size : Nat}
    {post : Fin size → HandleTables → Prop} :
    (index array size i).Ensures post tables ↔
      ∀ below : i.toNat < size, post ⟨i.toNat, below⟩ tables :=
  ensures_access

section

variable {post : UInt32 → HandleTables → Prop}

/-- A comparison before the access keeps it inside the array. -/
theorem yields_clamped {array : HandleArray} {n : Nat} {post : Fin (n + 1) → HandleTables → Prop} :
    (index array (n + 1) (if i.toNat ≤ n then i else 0)).Yields post tables ↔
      post (clamp n i) tables := by
  rw [yields_index]
  unfold clamp
  by_cases below : i.toNat < n + 1
  · simp [Nat.lt_succ_iff.mp below, below]
  · simp only [mt Nat.lt_succ_of_le below, below, if_false, dif_neg, not_false_iff]
    exact ⟨fun ⟨_, holds⟩ => holds, fun holds => ⟨Nat.succ_pos n, holds⟩⟩

@[simp] theorem yields_disp :
    (disp i).Yields post tables ↔ post (tables.real.displays (clamp _ i)) tables := by
  unfold disp
  rw [yields_bind, yields_clamped]
  rfl

@[simp] theorem yields_cfg :
    (cfg i).Yields post tables ↔ post (tables.real.configs (clamp _ i)) tables := by
  unfold cfg
  rw [yields_bind, yields_clamped]
  rfl

@[simp] theorem yields_ctx :
    (ctx i).Yields post tables ↔ post (tables.real.contexts (clamp _ i)) tables := by
  unfold ctx
  rw [yields_bind, yields_clamped]
  rfl

@[simp] theorem yields_surf :
    (surf i).Yields post tables ↔ post (tables.real.surfaces (clamp _ i)) tables := by
  unfold surf
  rw [yields_bind, yields_clamped]
  rfl

/-! The same for what a program ensures -/

@[simp] theorem ensures_disp :
    (disp i).Ensures post tables ↔ post (tables.real.displays (clamp _ i)) tables := by
  have always : (disp i).Yields (fun _ _ => True) tables := yields_disp.mpr trivial
  rw [always.ensures_iff, yields_disp]

@[simp] theorem ensures_cfg :
    (cfg i).Ensures post tables ↔ post (tables.real.configs (clamp _ i)) tables := by
  have always : (cfg i).Yields (fun _ _ => True) tables := yields_cfg.mpr trivial
  rw [always.ensures_iff, yields_cfg]

@[simp] theorem ensures_ctx :
    (ctx i).Ensures post tables ↔ post (tables.real.contexts (clamp _ i)) tables := by
  have always : (ctx i).Yields (fun _ _ => True) tables := yields_ctx.mpr trivial
  rw [always.ensures_iff, yields_ctx]

@[simp] theorem ensures_surf :
    (surf i).Ensures post tables ↔ post (tables.real.surfaces (clamp _ i)) tables := by
  have always : (surf i).Yields (fun _ _ => True) tables := yields_surf.mpr trivial
  rw [always.ensures_iff, yields_surf]

end

variable {target di si ci xi slot real : UInt32} {ok : Bool} {accepts : RealCurrent → Bool}
  {clientPid : Int32} {every : HandleReply → HandleTables → Prop}

/-- Binding the context of a thread changes no more than which one is current. -/
theorem yields_eglBindTargetCtx {every : Option RealCurrent → HandleTables → Prop}
    (all : ∀ made current, every made { tables with gCurrentCtx := current }) :
    (eglBindTargetCtx accepts target).Yields every tables := by
  have kept (made : Option RealCurrent) : every made tables := all made tables.gCurrentCtx
  unfold eglBindTargetCtx
  simp only [yields_bind, yields_index, yields_get, yields_modify, yields_ctx, yields_ite,
    yields_pure]
  refine ⟨fun _ => kept none, fun apart => ?_⟩
  obtain ⟨-, -, small⟩ := not_or.mp apart |>.imp id not_or.mp
  have below : target.toNat < eglBridgeMaxContexts + 1 :=
    Nat.lt_of_lt_of_le (Nat.lt_of_not_le small) (by decide)
  exact ⟨below, fun _ => kept none, fun _ => ⟨fun _ => kept none, fun _ => all _ target⟩⟩

/-! ## Handlers that leave the pointers as they are -/

/-- The pointers are as they were, and the driver has given none. -/
def Unchanged (tables : HandleTables) (reply : HandleReply) (after : HandleTables) : Prop :=
  after.real = tables.real ∧ reply.reals = []

def Quiet (program : Handler HandleReply) (tables : HandleTables) : Prop :=
  program.Yields (Unchanged tables) tables

theorem quiet_hEglInitialize {major minor : Int32} (inside : di.toNat ≤ eglBridgeMaxDisplays) :
    Quiet (hEglInitialize di major minor ok) tables := by
  unfold Quiet hEglInitialize
  simp only [yields_bind, yields_index, yields_get, yields_modify, yields_disp, yields_ite,
    yields_pure]
  exact ⟨Nat.lt_succ_of_le inside, fun _ => ⟨real_setDisplay fun _ => rfl, rfl⟩,
    fun _ => ⟨rfl, rfl⟩⟩

theorem quiet_hEglTerminate (inside : di.toNat ≤ eglBridgeMaxDisplays) :
    Quiet (hEglTerminate di ok) tables := by
  unfold Quiet hEglTerminate
  simp only [yields_bind, yields_index, yields_modify, yields_disp, yields_ite, yields_pure]
  refine ⟨Nat.lt_succ_of_le inside, fun _ => ⟨?_, rfl⟩, fun _ => ⟨real_setDisplay fun _ => rfl, rfl⟩⟩
  refine (real_setDisplay ?_).trans (real_setDisplay ?_)
  · exact fun _ => rfl
  · exact fun _ => rfl

theorem quiet_hEglReleaseThread : Quiet (hEglReleaseThread ok) tables := by
  unfold Quiet hEglReleaseThread
  simp only [yields_bind, yields_modify, yields_ite, yields_pure]
  exact ⟨fun _ => ⟨rfl, rfl⟩, fun _ => ⟨rfl, rfl⟩⟩

theorem quiet_onDisplay {answer : UInt32 → UInt64} : Quiet (onDisplay di answer) tables := by
  unfold Quiet onDisplay
  simp only [yields_bind, yields_disp, yields_pure]
  exact ⟨rfl, rfl⟩

theorem quiet_onSurface {answer : UInt32 → UInt32 → UInt64} :
    Quiet (onSurface di si answer) tables := by
  unfold Quiet onSurface
  simp only [yields_bind, yields_disp, yields_surf, yields_pure]
  exact ⟨rfl, rfl⟩

theorem quiet_hEglGetConfigAttrib {answer : UInt32 → UInt32 → UInt64} :
    Quiet (hEglGetConfigAttrib di ci answer) tables := by
  unfold Quiet hEglGetConfigAttrib
  simp only [yields_bind, yields_disp, yields_cfg, yields_pure]
  exact ⟨rfl, rfl⟩

theorem quiet_hEglQueryContext {answer : UInt32 → UInt32 → UInt64} :
    Quiet (hEglQueryContext di xi answer) tables := by
  unfold Quiet hEglQueryContext
  simp only [yields_bind, yields_disp, yields_ctx, yields_pure]
  exact ⟨rfl, rfl⟩

theorem quiet_hEglMakeCurrent {display draw read context : UInt32} :
    Quiet (hEglMakeCurrent accepts display draw read context) tables := by
  unfold Quiet hEglMakeCurrent
  simp only [yields_bind, yields_index, yields_modify, yields_disp, yields_surf, yields_ctx,
    yields_ite, yields_pure]
  refine ⟨fun _ => ⟨fun inside => ?_, fun _ => ⟨rfl, rfl⟩⟩, fun _ => ⟨rfl, rfl⟩⟩
  exact ⟨Nat.lt_succ_of_le inside.2, rfl, rfl⟩

theorem quiet_hWlEglWindowCreate {surfaceId window : UInt32}
    (inside : surfaceId.toNat < maxWlEglWindows) :
    Quiet (hWlEglWindowCreate surfaceId window) tables := by
  unfold Quiet hWlEglWindowCreate
  simp only [yields_bind, yields_index, yields_get, yields_modify, yields_ite, yields_pure]
  refine ⟨inside, fun _ => ⟨rfl, rfl⟩, fun small => ?_⟩
  exact ⟨Nat.lt_of_not_le small, fun _ => ⟨rfl, rfl⟩, fun _ => ⟨rfl, rfl⟩⟩

theorem quiet_hWlEglWindowResize : Quiet (hWlEglWindowResize slot) tables := by
  unfold Quiet hWlEglWindowResize
  simp only [yields_bind, yields_index, yields_ite, yields_pure]
  exact ⟨fun _ => ⟨rfl, rfl⟩, fun inside => ⟨Nat.lt_of_not_le inside, rfl, rfl⟩⟩

theorem quiet_hWlEglWindowDestroy : Quiet (hWlEglWindowDestroy slot) tables := by
  unfold Quiet hWlEglWindowDestroy
  simp only [yields_bind, yields_index, yields_modify, yields_ite, yields_pure]
  exact ⟨fun _ => ⟨rfl, rfl⟩, fun inside => ⟨Nat.lt_of_not_le inside, rfl, rfl⟩⟩

theorem quiet_hWlDisplayConnect {display compositor shell webosShell : UInt32} :
    Quiet (hWlDisplayConnect display compositor shell webosShell) tables := by
  unfold Quiet hWlDisplayConnect
  simp only [yields_bind, yields_get, yields_modify, yields_ite, yields_pure]
  exact ⟨fun _ => ⟨rfl, rfl⟩, fun _ => ⟨rfl, rfl⟩⟩

theorem quiet_hWlDisplayDisconnect (inside : slot.toNat < eglBridgeMaxDisplays) :
    Quiet (hWlDisplayDisconnect slot) tables := by
  unfold Quiet hWlDisplayDisconnect
  simp only [yields_bind, yields_index, yields_get, yields_modify, yields_ite, yields_pure]
  exact ⟨inside, fun _ => ⟨rfl, rfl⟩, fun _ => ⟨rfl, rfl⟩⟩

theorem quiet_hWlCompositorCreateSurface {surf : UInt32} :
    Quiet (hWlCompositorCreateSurface surf) tables := by
  unfold Quiet hWlCompositorCreateSurface
  simp only [yields_bind, yields_index, yields_get, yields_modify, yields_ite, yields_pure]
  refine ⟨fun _ => ⟨rfl, rfl⟩, fun fits => ⟨fun _ => ⟨rfl, rfl⟩, fun _ => ⟨?_, rfl, rfl⟩⟩⟩
  exact Nat.lt_of_not_le fun full => fits (.inr full)

theorem quiet_hWlSurfaceCommit : Quiet (hWlSurfaceCommit slot) tables := by
  unfold Quiet hWlSurfaceCommit
  simp only [yields_bind, yields_index, yields_ite, yields_pure]
  exact ⟨fun below => ⟨below, rfl, rfl⟩, fun _ => ⟨rfl, rfl⟩⟩

theorem quiet_hWlSurfaceDestroy : Quiet (hWlSurfaceDestroy slot) tables := by
  unfold Quiet hWlSurfaceDestroy
  simp only [yields_bind, yields_index, yields_modify, yields_ite, yields_pure]
  exact ⟨fun below => ⟨below, rfl, rfl⟩, fun _ => ⟨rfl, rfl⟩⟩

theorem quiet_hWlWebosSetProperty : Quiet (hWlWebosSetProperty slot) tables := by
  unfold Quiet hWlWebosSetProperty
  simp only [yields_bind, yields_index, yields_ite, yields_pure]
  exact ⟨fun below => ⟨below, rfl, rfl⟩, fun _ => ⟨rfl, rfl⟩⟩

theorem quiet_hWlShellSurfaceSetToplevel : Quiet (hWlShellSurfaceSetToplevel slot) tables := by
  unfold Quiet hWlShellSurfaceSetToplevel
  simp only [yields_bind, yields_index, yields_ite, yields_pure]
  exact ⟨fun below => ⟨below, rfl, rfl⟩, fun _ => ⟨rfl, rfl⟩⟩

theorem quiet_hWlProxyDestroy : Quiet (hWlProxyDestroy slot) tables := by
  unfold Quiet hWlProxyDestroy
  simp only [yields_bind, yields_index, yields_modify, yields_ite, yields_pure]
  exact ⟨fun below => ⟨below, below, rfl, rfl⟩, fun _ => ⟨rfl, rfl⟩⟩

theorem quiet_hWlShellGetShellSurface {shellSurface : UInt32}
    (inside : slot.toNat < proxySurfMax) :
    Quiet (hWlShellGetShellSurface slot shellSurface) tables := by
  unfold Quiet hWlShellGetShellSurface
  simp only [yields_bind, yields_index, yields_get, yields_modify, yields_ite, yields_pure]
  refine ⟨inside, fun _ => ⟨rfl, rfl⟩, fun _ => ⟨fun _ => ⟨rfl, rfl⟩, fun _ => ?_⟩⟩
  exact ⟨inside, fun _ => ⟨rfl, rfl⟩, fun _ => ⟨rfl, rfl⟩⟩

theorem quiet_hWlWebosShellGetShellSurface {wss : UInt32} (inside : slot.toNat < proxySurfMax) :
    Quiet (hWlWebosShellGetShellSurface slot wss) tables := by
  unfold Quiet hWlWebosShellGetShellSurface
  simp only [yields_bind, yields_index, yields_get, yields_modify, yields_ite, yields_pure]
  refine ⟨inside, fun _ => ⟨rfl, rfl⟩, fun _ => ⟨fun _ => ⟨rfl, rfl⟩, fun _ => ?_⟩⟩
  exact ⟨inside, fun _ => ⟨rfl, rfl⟩, fun _ => ⟨rfl, rfl⟩⟩

theorem quiet_hWlWebosShellSurfaceSetState (inside : slot.toNat < proxySurfMax) :
    Quiet (hWlWebosShellSurfaceSetState slot) tables := by
  unfold Quiet hWlWebosShellSurfaceSetState
  simp only [yields_bind, yields_index, yields_pure]
  exact ⟨inside, rfl, rfl⟩

theorem quiet_handle_other : Quiet (pure (.number 0)) tables := ⟨rfl, rfl⟩

/-! ## Handlers that enter what the driver gives -/

/-- An object is entered in its table; `put` is the place of the table among the others. -/
def Entered {n : Nat} (table : Fin (n + 1) → UInt32)
    (put : (Fin (n + 1) → UInt32) → RealHandles) (real : UInt32) (reply : HandleReply)
    (after : HandleTables) : Prop :=
  reply = .answered (allocate table 0 real).2.val real ∧ after.real = put (allocate table 0 real).1

/-- A null answer of the driver is a failure. -/
def EnteredIfReal {n : Nat} (table : Fin (n + 1) → UInt32)
    (put : (Fin (n + 1) → UInt32) → RealHandles) (real : UInt32) (reply : HandleReply)
    (after : HandleTables) : Prop :=
  if real = 0 then reply = .answered 0 0 ∧ after.real = put table
  else Entered table put real reply after

theorem entered_tableAlloc {n : Nat} {table : Fin (n + 1) → EGLHandleEntry}
    {put : (Fin (n + 1) → UInt32) → RealHandles} {after : HandleTables}
    (shows : after.real = put (handles (tableAlloc table real clientPid).1)) :
    Entered (handles table) put real (.answered (tableAlloc table real clientPid).2.val real)
      after := by
  rw [handles_tableAlloc] at shows
  exact ⟨by rw [index_tableAlloc], shows⟩

theorem entered_if_real {n : Nat} {table : Fin (n + 1) → EGLHandleEntry}
    {put : (Fin (n + 1) → UInt32) → RealHandles} {after : HandleTables}
    {made : (Fin (n + 1) → EGLHandleEntry) × Fin (n + 1)}
    (allocated : made = if real ≠ 0 then tableAlloc table real clientPid else (table, 0))
    (shows : after.real = put (handles made.1)) :
    EnteredIfReal (handles table) put real (.answered made.2.val real) after := by
  subst allocated
  unfold EnteredIfReal
  by_cases null : real = 0
  · simp only [null, ne_eq, not_true_eq_false, if_false] at shows ⊢
    exact ⟨rfl, shows⟩
  · simp only [null, ne_eq, not_false_eq_true, if_true, if_false] at shows ⊢
    exact entered_tableAlloc shows

/-- A surface that is created. -/
def SurfaceEntered (tables : HandleTables) : UInt32 → HandleReply → HandleTables → Prop :=
  EnteredIfReal tables.real.surfaces fun surfaces => { tables.real with surfaces }

theorem enterSurface_enters :
    (enterSurface clientPid real).Yields (SurfaceEntered tables real) tables := by
  unfold enterSurface
  simp only [yields_bind, yields_get, yields_modify, yields_pure]
  refine entered_if_real rfl ?_
  refine (real_setSurface ?_).trans rfl
  exact fun _ => rfl

theorem hEglCreatePbufferSurface_enters :
    (hEglCreatePbufferSurface clientPid di ci real).Yields (SurfaceEntered tables real) tables := by
  unfold hEglCreatePbufferSurface
  simp only [yields_bind, yields_disp, yields_cfg]
  exact enterSurface_enters

theorem hEglCreatePixmapSurface_enters :
    (hEglCreatePixmapSurface clientPid di ci real).Yields (SurfaceEntered tables real) tables := by
  unfold hEglCreatePixmapSurface
  simp only [yields_bind, yields_disp, yields_cfg]
  exact enterSurface_enters

theorem hEglCreateWindowSurface_enters :
    (hEglCreateWindowSurface clientPid di ci slot real).Yields
      (fun reply after =>
        (tables.HasWindow slot → SurfaceEntered tables real reply after) ∧
          (¬ tables.HasWindow slot → Unchanged tables reply after)) tables := by
  unfold hEglCreateWindowSurface
  simp only [yields_bind, yields_index, yields_get, yields_disp, yields_cfg, yields_ite, yields_pure]
  refine ⟨fun past => ?_, fun inside => ?_⟩
  · have none : ¬ tables.HasWindow slot := by
      rintro ⟨below, -⟩
      exact absurd below (Nat.not_lt.mpr past)
    exact ⟨fun window => absurd window none, fun _ => ⟨rfl, rfl⟩⟩
  · have below := Nat.lt_of_not_le inside
    refine ⟨below, fun missing => ?_, fun there => ?_⟩
    · have none : ¬ tables.HasWindow slot := by
        rintro ⟨_, there⟩
        exact there missing
      exact ⟨fun window => absurd window none, fun _ => ⟨rfl, rfl⟩⟩
    · exact enterSurface_enters.mono fun reply after entered =>
        ⟨fun _ => entered, fun none => absurd ⟨below, there⟩ none⟩

def ContextEntered (tables : HandleTables) : UInt32 → HandleReply → HandleTables → Prop :=
  EnteredIfReal tables.real.contexts fun contexts => { tables.real with contexts }

theorem hEglCreateContext_enters {shareIdx : UInt32} :
    (hEglCreateContext clientPid di ci shareIdx real).Yields (ContextEntered tables real) tables := by
  unfold hEglCreateContext
  simp only [yields_bind, yields_get, yields_modify, yields_disp, yields_cfg, yields_ctx, yields_ite,
    yields_pure]
  exact ⟨fun _ => entered_if_real rfl rfl, fun _ => entered_if_real rfl rfl⟩

/-- Without a free entry a display takes the first one from another. -/
def DisplayEntered (tables : HandleTables) (real : UInt32) (reply : HandleReply)
    (after : HandleTables) : Prop :=
  if tables.proxyWlDisplay = 0 then Unchanged tables reply after
  else if real ≠ 0 ∧ placeOf tables.real.displays 0 = none then
    reply = .answered 1 real ∧
      after.real = { tables.real with displays := Function.update tables.real.displays 1 real }
  else Entered tables.real.displays (fun displays => { tables.real with displays }) real reply after

theorem hEglGetDisplay_enters :
    (hEglGetDisplay clientPid real).Yields (DisplayEntered tables real) tables := by
  unfold hEglGetDisplay
  simp only [yields_bind, yields_get, yields_modify, yields_ite, yields_pure]
  unfold DisplayEntered
  refine ⟨fun missing => ?_, fun there => ⟨fun full => ?_, fun fits => ?_⟩⟩
  · rw [if_pos missing]
    exact ⟨rfl, rfl⟩
  · rw [tableAlloc_zero] at full
    rw [if_neg there, if_pos ⟨full.2, full.1⟩]
    exact ⟨rfl, real_setDisplay_handle fun _ => rfl⟩
  · rw [tableAlloc_zero] at fits
    rw [if_neg there, if_neg fun full => fits full.symm]
    exact entered_tableAlloc rfl

/-- Here a null answer is a failure. -/
def PlatformDisplayEntered (tables : HandleTables) (real : UInt32) (reply : HandleReply)
    (after : HandleTables) : Prop :=
  if real = 0 then after.real = tables.real ∧ (reply.reals = [] ∨ reply = .answered 0 0)
  else DisplayEntered tables real reply after

theorem hEglGetPlatformDisplayEXT_enters :
    (hEglGetPlatformDisplayEXT clientPid real).Yields (PlatformDisplayEntered tables real)
      tables := by
  unfold hEglGetPlatformDisplayEXT
  simp only [yields_bind, yields_get, yields_modify, yields_ite, yields_pure]
  unfold PlatformDisplayEntered DisplayEntered
  refine ⟨fun missing => ?_, fun there => ⟨fun null => ?_, fun given => ⟨fun full => ?_,
    fun fits => ?_⟩⟩⟩
  · rw [if_pos missing]
    split
    · exact ⟨rfl, .inl rfl⟩
    · exact ⟨rfl, rfl⟩
  · subst null
    exact ⟨rfl, .inr rfl⟩
  · rw [tableAlloc_zero] at full
    rw [if_neg given, if_neg there, if_pos ⟨given, full⟩]
    exact ⟨rfl, real_setDisplay_handle fun _ => rfl⟩
  · rw [tableAlloc_zero] at fits
    rw [if_neg given, if_neg there, if_neg fun full => fits full.2]
    exact entered_tableAlloc rfl

/-! ## Configurations -/

/-- What a list of configurations does to their table, with the indices that go back. -/
def ConfigsEntered (tables : HandleTables)
    (made : (Fin (eglBridgeMaxConfigs + 1) → EGLHandleEntry) × List UInt32) (configs : List UInt32)
    (reply : HandleReply) (after : HandleTables) : Prop :=
  after.real = { tables.real with configs := handles made.1 } ∧ reply.words = made.2 ∧
    reply.reals = configs

theorem hEglGetConfigs_enters {cfgSz : Int32} {configs : List UInt32} :
    (hEglGetConfigs clientPid di cfgSz ok configs).Yields
      (fun reply after =>
        (tables.Lists di cfgSz ok →
          ConfigsEntered tables (getConfigs clientPid tables.eglConfigs configs) configs reply after) ∧
        (¬ tables.Lists di cfgSz ok → Unchanged tables reply after)) tables := by
  unfold hEglGetConfigs
  simp only [yields_bind, yields_get, yields_modify, yields_disp, yields_ite, yields_pure]
  refine ⟨fun asked => ?_, fun other => ?_⟩
  · have lists : tables.Lists di cfgSz ok := by simpa [HandleTables.Lists] using asked
    exact ⟨fun _ => ⟨rfl, rfl, rfl⟩, fun none => absurd lists none⟩
  · have none : ¬ tables.Lists di cfgSz ok := by simpa [HandleTables.Lists] using other
    exact ⟨fun lists => absurd lists none, fun _ => ⟨rfl, rfl⟩⟩

theorem hEglChooseConfig_enters {hasConfigs : Bool} {configs : List UInt32} :
    (hEglChooseConfig clientPid di hasConfigs ok configs).Yields
      (fun reply after =>
        if hasConfigs then
          ConfigsEntered tables (chooseConfigs clientPid tables.eglConfigs configs) configs reply after
        else Unchanged tables reply after) tables := by
  unfold hEglChooseConfig
  simp only [yields_bind, yields_get, yields_modify, yields_disp, yields_ite, yields_pure]
  cases hasConfigs with
  | false => exact ⟨fun yes => absurd yes Bool.false_ne_true, fun _ => ⟨rfl, rfl⟩⟩
  | true => exact ⟨fun _ => ⟨rfl, rfl, rfl⟩, fun no => absurd rfl no⟩

/-! ## The ends of objects, and queries -/

theorem hEglDestroySurface_frees (below : si.toNat < eglBridgeMaxSurfaces + 1) :
    (hEglDestroySurface di si ok).Yields
      (fun reply after =>
        reply.reals = [] ∧
          after.real =
            if ok then
              { tables.real with
                surfaces := Function.update tables.real.surfaces ⟨si.toNat, below⟩ 0 }
            else tables.real) tables := by
  unfold hEglDestroySurface freeSurface
  simp only [yields_bind, yields_index, yields_modify, yields_disp, yields_surf, yields_ite,
    yields_pure]
  cases ok with
  | false => exact ⟨fun yes => absurd yes Bool.false_ne_true, fun _ => ⟨below, rfl, real_setSurface fun _ => rfl⟩⟩
  | true =>
      have freed :
          (tables.setSurface ⟨si.toNat, below⟩ fun entry =>
            { entry with handle := 0, ownerPid := 0 }).real =
              { tables.real with
                surfaces := Function.update tables.real.surfaces ⟨si.toNat, below⟩ 0 } :=
        real_setSurface_handle fun _ => rfl
      refine ⟨fun _ => ⟨below, below, rfl, ?_⟩, fun no => absurd rfl no⟩
      refine (real_setSurface ?_).trans freed
      exact fun _ => rfl

theorem hEglDestroyContext_frees (below : xi.toNat < eglBridgeMaxContexts + 1) :
    (hEglDestroyContext di xi ok).Yields
      (fun reply after =>
        reply.reals = [] ∧
          after.real =
            if ok then
              { tables.real with
                contexts := Function.update tables.real.contexts ⟨xi.toNat, below⟩ 0 }
            else tables.real) tables := by
  unfold hEglDestroyContext
  simp only [yields_bind, yields_index, yields_modify, yields_disp, yields_ctx, yields_ite,
    yields_pure]
  cases ok with
  | false => exact ⟨fun yes => absurd yes Bool.false_ne_true, fun _ => ⟨below, rfl, real_setContext fun _ => rfl⟩⟩
  | true =>
      have freed :
          (tables.setContext ⟨xi.toNat, below⟩ fun entry =>
            { entry with handle := 0, ownerPid := 0 }).real =
              { tables.real with
                contexts := Function.update tables.real.contexts ⟨xi.toNat, below⟩ 0 } :=
        real_setContext_handle fun _ => rfl
      refine ⟨fun _ => ⟨below, fun _ => ⟨below, below, rfl, ?_⟩, fun past => ?_⟩, fun no => absurd rfl no⟩
      · refine (real_setContext ?_).trans freed
        exact fun _ => rfl
      · exact absurd (Nat.le_of_lt_succ below) past

/-- A query answers with the first index of what is current. -/
def Found {n : Nat} (table : Fin (n + 1) → UInt32) (real : UInt32) (tables : HandleTables)
    (reply : HandleReply) (after : HandleTables) : Prop :=
  after = tables ∧
    if real = 0 then reply = .number 0 else reply = .answered ((placeOf table real).getD 0).val real

theorem currentIndex_finds {n : Nat} {table : HandleTables → Fin (n + 1) → EGLHandleEntry} :
    (currentIndex table real).Yields (Found (handles (table tables)) real tables) tables := by
  unfold currentIndex
  simp only [yields_bind, yields_get, yields_ite, yields_pure]
  unfold Found
  exact ⟨fun null => ⟨rfl, by rw [if_pos null]⟩, fun there => ⟨rfl, by rw [if_neg there]⟩⟩

end Handler

end GlesBridge.Proxy
