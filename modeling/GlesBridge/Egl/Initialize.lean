import GlesBridge.Handles.Rules
import GlesBridge.Systems.Machine

namespace GlesBridge.Egl

open GlesBridge.Data GlesBridge.Proxy GlesBridge.Systems GlesBridge.Systems.Checked

/-! What the table of displays says of the driver's displays. -/

attribute [-instance] instNeZeroNatHAdd instNeZeroNatHAdd_1

/-- The version of an entry that counts as initialised. -/
def version (entry : EGLHandleEntry) : Option (Int32 × Int32) :=
  if entry.initialized then some (entry.major, entry.minor) else none

/-- `driver` has the versions of the displays that are initialised. -/
structure InitSystem where
  tables : HandleTables
  driver : UInt32 → Option (Int32 × Int32)

/-- Calls with what the driver answers, where it is asked; a display of 0 is none,
and cannot be terminated. -/
inductive DisplayCall where
  | eglGetDisplay (real : UInt32)
  | eglGetPlatformDisplayEXT (real : UInt32)
  | eglInitialize (di : UInt32) (ok : Bool) (major minor : Int32)
  | eglTerminate (di : UInt32) (accepts : Bool)

namespace InitSystem

/-- A client is connected, and has no display yet. -/
def start (wlDisplay : UInt32) : InitSystem where
  tables := { HandleTables.zero with proxyWlDisplay := wlDisplay }
  driver _ := none

variable (state : InitSystem) (clientPid : Int32)

def real (di : UInt32) : UInt32 := state.tables.real.displays (clamp _ di)

/-- The driver is asked for a display that does not count as initialised. -/
def asks (di : UInt32) : Bool :=
  state.real di != 0 && !(state.tables.eglDisplays (clamp _ di)).initialized

/-- An access past the table has no defined outcome. -/
def serve (handler : Handler HandleReply) (driver : UInt32 → Option (Int32 × Int32)) :
    Option (HandleReply × InitSystem) :=
  match handler.run state.tables with
  | .ok (reply, tables) => some (reply, { tables, driver })
  | .error _ => none

def handle : DisplayCall → Option (HandleReply × InitSystem)
  | .eglGetDisplay real => state.serve (Handler.hEglGetDisplay clientPid real) state.driver
  | .eglGetPlatformDisplayEXT real =>
      state.serve (Handler.hEglGetPlatformDisplayEXT clientPid real) state.driver
  | .eglInitialize di ok major minor =>
      state.serve (Handler.hEglInitialize di major minor ok)
        (if state.asks di && ok then
          Function.update state.driver (state.real di) (some (major, minor))
        else state.driver)
  | .eglTerminate di accepts =>
      let ok := state.real di != 0 && accepts
      state.serve (Handler.hEglTerminate di ok)
        (if ok then Function.update state.driver (state.real di) none else state.driver)

/-- The flag and the version of every entry are the driver's. -/
def Agrees : Prop :=
  ∀ id, (state.tables.eglDisplays id).handle ≠ 0 →
    version (state.tables.eglDisplays id) = state.driver (state.tables.eglDisplays id).handle

end InitSystem

def initMachine (clientPid : Int32) : Machine InitSystem DisplayCall where
  step state call := (state.handle clientPid call).map Prod.snd

/-- `EGL_TRUE` is for a display that is initialised then, and comes with its version. -/
def Answers (state next : InitSystem) (reply : HandleReply) : DisplayCall → Prop
  | .eglInitialize di _ _ _ =>
      (reply.result = 1 ↔ state.real di ≠ 0 ∧ (next.driver (state.real di)).isSome) ∧
        ∀ major minor, reply.result = 1 → next.driver (state.real di) = some (major, minor) →
          reply.words = [major.toUInt32, minor.toUInt32]
  | _ => True

/-- A call answers as it should, and the table agrees with the driver then. -/
def Books (clientPid : Int32) (state : InitSystem) (call : DisplayCall) : Prop :=
  ∃ reply next, state.handle clientPid call = some (reply, next) ∧
    Answers state next reply call ∧ next.Agrees

/-- No other entry has the pointer of this one. -/
def Single (tables : HandleTables) (di : UInt32) : Prop :=
  ∀ other, (tables.eglDisplays other).handle = (tables.eglDisplays (clamp _ di)).handle →
    other = clamp _ di

/-- The entry that a display gets. -/
def taken (tables : HandleTables) : Fin (eglBridgeMaxDisplays + 1) :=
  (placeOf (handles tables.eglDisplays) 0).getD 1

/-- A display gets an entry that says of it what the driver says; only a display that
does not count as initialised is initialised, with success, and has no other entry,
and one that is initialised has no other entry when it is terminated. -/
def KeepsBooks (state : InitSystem) : DisplayCall → Prop
  | .eglGetDisplay real | .eglGetPlatformDisplayEXT real =>
      state.tables.proxyWlDisplay ≠ 0 → real ≠ 0 →
        version (state.tables.eglDisplays (taken state.tables)) = state.driver real
  | .eglInitialize di ok _ _ =>
      di.toNat ≤ eglBridgeMaxDisplays ∧
        (state.real di ≠ 0 →
          (state.tables.eglDisplays (clamp _ di)).initialized = false ∧ ok = true ∧
            Single state.tables di)
  | .eglTerminate di accepts =>
      di.toNat ≤ eglBridgeMaxDisplays ∧
        (state.real di ≠ 0 → accepts = true →
          (state.tables.eglDisplays (clamp _ di)).initialized = true → Single state.tables di)

/-! ## The handlers -/

variable {clientPid : Int32} {tables : HandleTables} {di real : UInt32} {ok : Bool}
  {major minor : Int32}

theorem clamp_eq (below : di.toNat < eglBridgeMaxDisplays + 1) :
    clamp eglBridgeMaxDisplays di = ⟨di.toNat, below⟩ := dif_pos below

/-- An entry with the version that the driver wrote. -/
def opened (entry : EGLHandleEntry) (major minor : Int32) : EGLHandleEntry :=
  { entry with initialized := true, major, minor }

/-- What a call leaves of an entry. -/
def noted (entry : EGLHandleEntry) (major minor : Int32) : EGLHandleEntry :=
  if entry.handle ≠ 0 ∧ entry.initialized = false then opened entry major minor else entry

theorem setDisplay_same {e : Fin (eglBridgeMaxDisplays + 1)}
    {change : EGLHandleEntry → EGLHandleEntry}
    (same : change (tables.eglDisplays e) = tables.eglDisplays e) :
    tables.setDisplay e change = tables := by
  rw [HandleTables.setDisplay, same]
  exact congrArg (fun table => { tables with eglDisplays := table })
    (Function.update_eq_self e tables.eglDisplays)

theorem noted_of {entry : EGLHandleEntry} (calls : (entry.handle != 0 && !entry.initialized) = true) :
    noted entry major minor = opened entry major minor := by
  refine if_pos ?_
  simpa using calls

theorem noted_not {entry : EGLHandleEntry}
    (calls : ¬ (entry.handle != 0 && !entry.initialized) = true) :
    noted entry major minor = entry := by
  refine if_neg ?_
  simpa using calls

theorem run_hEglInitialize (below : di.toNat ≤ eglBridgeMaxDisplays) :
    (Handler.hEglInitialize di major minor ok).run tables =
      .ok ({ result :=
              if (tables.eglDisplays (clamp _ di)).handle != 0 &&
                !(tables.eglDisplays (clamp _ di)).initialized && ok then 1 else 0
             words := [(noted (tables.eglDisplays (clamp _ di)) major minor).major.toUInt32,
               (noted (tables.eglDisplays (clamp _ di)) major minor).minor.toUInt32]
             reals := [] },
        tables.setDisplay (clamp _ di) fun entry => noted entry major minor) := by
  have inside := Nat.lt_succ_of_le below
  rw [clamp_eq inside]
  apply Yields.run_eq
  unfold Handler.hEglInitialize
  simp only [yields_bind, Handler.yields_index, yields_get, yields_modify, Handler.yields_disp,
    yields_ite, yields_pure, clamp_eq inside]
  refine ⟨inside, fun calls => ?_, fun calls => ?_⟩
  · change ((tables.eglDisplays ⟨di.toNat, inside⟩).handle != 0 &&
      !(tables.eglDisplays ⟨di.toNat, inside⟩).initialized) = true at calls
    simp only [HandleTables.setDisplay, Function.update_self, noted_of calls]
    exact ⟨rfl, rfl⟩
  · change ¬ ((tables.eglDisplays ⟨di.toNat, inside⟩).handle != 0 &&
      !(tables.eglDisplays ⟨di.toNat, inside⟩).initialized) = true at calls
    rw [noted_not calls]
    exact ⟨rfl, (setDisplay_same (noted_not calls)).symm⟩

theorem below_of_run {handler : Fin (eglBridgeMaxDisplays + 1) → Handler HandleReply}
    {reply : HandleReply} {after : HandleTables}
    (runs : (Handler.index .eglDisplays (eglBridgeMaxDisplays + 1) di >>= handler).run tables =
      .ok (reply, after)) : di.toNat ≤ eglBridgeMaxDisplays := by
  have ensured : (Handler.index .eglDisplays (eglBridgeMaxDisplays + 1) di >>= handler).Ensures
      (fun _ _ => di.toNat ≤ eglBridgeMaxDisplays) tables := by
    rw [ensures_bind, Handler.ensures_index]
    intro below value after _
    exact Nat.lt_succ_iff.mp below
  exact ensured reply after runs

theorem run_hEglTerminate (below : di.toNat ≤ eglBridgeMaxDisplays) :
    (Handler.hEglTerminate di ok).run tables =
      .ok (.number (if ok then 1 else 0),
        tables.setDisplay (clamp _ di) fun entry =>
          if ok then { entry with ownerPid := 0, initialized := false, major := 0, minor := 0 }
          else { entry with ownerPid := 0 }) := by
  have inside := Nat.lt_succ_of_le below
  rw [clamp_eq inside]
  apply Yields.run_eq
  unfold Handler.hEglTerminate
  simp only [yields_bind, Handler.yields_index, yields_modify, Handler.yields_disp, yields_ite,
    yields_pure]
  refine ⟨inside, fun succeeds => ⟨trivial, ?_⟩, fun fails => ⟨trivial, ?_⟩⟩
  · simp only [HandleTables.setDisplay, Function.update_self, Function.update_idem, if_pos succeeds]
  · simp only [HandleTables.setDisplay, if_neg fails]

/-- What becomes of the entries when a display is entered: one gets its pointer and
keeps the rest, unless there is no display. -/
structure Entered (tables : HandleTables) (real : UInt32) (after : HandleTables) : Prop where
  entry : tables.proxyWlDisplay ≠ 0 → real ≠ 0 →
    (after.eglDisplays (taken tables)).handle = real ∧
      version (after.eglDisplays (taken tables)) = version (tables.eglDisplays (taken tables)) ∧
      ∀ id, id ≠ taken tables → after.eglDisplays id = tables.eglDisplays id
  none : tables.proxyWlDisplay = 0 ∨ real = 0 → ∀ id,
    (after.eglDisplays id).handle = (tables.eglDisplays id).handle ∧
      version (after.eglDisplays id) = version (tables.eglDisplays id)

theorem Entered.refl (nothing : tables.proxyWlDisplay = 0 ∨ real = 0) :
    Entered tables real tables where
  entry connected some := (nothing.elim connected some).elim
  none _ _ := ⟨rfl, rfl⟩

/-- The entry that is taken is replaced by one that has another pointer. -/
theorem Entered.update {after : HandleTables} {place : Fin (eglBridgeMaxDisplays + 1)}
    {entry : EGLHandleEntry} (spot : taken tables = place)
    (table : after.eglDisplays = Function.update tables.eglDisplays place entry)
    (handle : entry.handle = real) (same : version entry = version (tables.eglDisplays place))
    (null : real = 0 → (tables.eglDisplays place).handle = 0)
    (connected : tables.proxyWlDisplay ≠ 0) : Entered tables real after := by
  subst spot
  refine ⟨fun _ _ => ?_, fun nothing id => ?_⟩
  · rw [table, Function.update_self]
    exact ⟨handle, same, fun id other => Function.update_of_ne other _ _⟩
  · have zero := nothing.resolve_left connected
    rw [table]
    by_cases here : id = taken tables
    · rw [here, Function.update_self, handle, null zero]
      exact ⟨zero, same⟩
    · rw [Function.update_of_ne here]
      exact ⟨rfl, rfl⟩

theorem taken_of_free {free : Fin (eglBridgeMaxDisplays + 1)}
    (found : placeOf (handles tables.eglDisplays) 0 = some free) : taken tables = free := by
  rw [taken, found, Option.getD_some]

theorem taken_of_full (full : placeOf (handles tables.eglDisplays) 0 = none) : taken tables = 1 := by
  rw [taken, full, Option.getD_none]

theorem entered_hEglGetDisplay (clientPid : Int32) :
    (Handler.hEglGetDisplay clientPid real).Yields (fun _ after => Entered tables real after)
      tables := by
  unfold Handler.hEglGetDisplay
  simp only [yields_bind, yields_get, yields_modify, yields_ite, yields_pure]
  refine ⟨fun apart => .refl (.inl apart), fun connected => ?_⟩
  cases found : placeOf (handles tables.eglDisplays) 0 with
  | some free =>
      have used := (placeOf_some found).1
      have zero : (tables.eglDisplays free).handle = 0 := (placeOf_some found).2
      simp only [tableAlloc, found]
      refine ⟨fun none => absurd none.1 used, fun _ => ?_⟩
      exact .update (taken_of_free found) rfl rfl rfl (fun _ => zero) connected
  | none =>
      simp only [tableAlloc, found]
      refine ⟨fun some => ?_, fun none => ?_⟩
      · exact .update (taken_of_full found) rfl rfl rfl (fun zero => absurd zero some.2) connected
      · exact .refl (.inr (by simpa using none))

theorem entered_hEglGetPlatformDisplayEXT (clientPid : Int32) :
    (Handler.hEglGetPlatformDisplayEXT clientPid real).Yields
      (fun _ after => Entered tables real after) tables := by
  unfold Handler.hEglGetPlatformDisplayEXT
  simp only [yields_bind, yields_get, yields_modify, yields_ite, yields_pure]
  refine ⟨fun apart => .refl (.inl apart), fun connected => ⟨fun zero => .refl (.inr zero),
    fun some => ?_⟩⟩
  cases found : placeOf (handles tables.eglDisplays) 0 with
  | some free =>
      have used := (placeOf_some found).1
      simp only [tableAlloc, found]
      refine ⟨fun none => absurd none used, fun _ => ?_⟩
      exact .update (taken_of_free found) rfl rfl rfl (fun zero => absurd zero some) connected
  | none =>
      simp only [tableAlloc, found]
      refine ⟨fun _ => ?_, fun none => absurd trivial none⟩
      exact .update (taken_of_full found) rfl rfl rfl (fun zero => absurd zero some) connected

/-! ## One call -/

variable {state next : InitSystem} {call : DisplayCall}

theorem agrees_entered {after : HandleTables} (agrees : state.Agrees)
    (entered : Entered state.tables real after) :
    InitSystem.Agrees { state with tables := after } ↔
      (state.tables.proxyWlDisplay ≠ 0 → real ≠ 0 →
        version (state.tables.eglDisplays (taken state.tables)) = state.driver real) := by
  constructor
  · intro kept connected some
    obtain ⟨handle, same, -⟩ := entered.entry connected some
    have entry := kept (taken state.tables) (handle.symm ▸ some)
    change version (after.eglDisplays (taken state.tables)) =
      state.driver (after.eglDisplays (taken state.tables)).handle at entry
    rwa [handle, same] at entry
  · intro fits id present
    change (after.eglDisplays id).handle ≠ 0 at present
    change version (after.eglDisplays id) = state.driver (after.eglDisplays id).handle
    by_cases nothing : state.tables.proxyWlDisplay = 0 ∨ real = 0
    · obtain ⟨handle, same⟩ := entered.none nothing id
      rw [handle] at present ⊢
      rw [same]
      exact agrees id present
    · obtain ⟨connected, some⟩ := not_or.mp nothing
      obtain ⟨handle, same, others⟩ := entered.entry connected some
      by_cases here : id = taken state.tables
      · rw [here, handle, same]
        exact fits connected some
      · rw [others id here] at present ⊢
        exact agrees id present

theorem books_entered {handler : Handler HandleReply} (agrees : state.Agrees)
    (entered : handler.Yields (fun _ after => Entered state.tables real after) state.tables) :
    (∃ reply next, state.serve handler state.driver = some (reply, next) ∧ next.Agrees) ↔
      (state.tables.proxyWlDisplay ≠ 0 → real ≠ 0 →
        version (state.tables.eglDisplays (taken state.tables)) = state.driver real) := by
  obtain ⟨reply, after, runs, kept⟩ := yields_iff_run.mp entered
  have served : state.serve handler state.driver = some (reply, { state with tables := after }) := by
    rw [InitSystem.serve, runs]
  rw [← agrees_entered agrees kept, served]
  simp

/-- One entry changes apart from its pointer, and the driver for no other pointer. -/
theorem agrees_setDisplay {e : Fin (eglBridgeMaxDisplays + 1)} {entry : EGLHandleEntry}
    {driver : UInt32 → Option (Int32 × Int32)} (agrees : state.Agrees)
    (handle : entry.handle = (state.tables.eglDisplays e).handle)
    (others : ∀ real, real ≠ entry.handle → driver real = state.driver real) :
    InitSystem.Agrees { tables := state.tables.setDisplay e fun _ => entry, driver } ↔
      (entry.handle ≠ 0 → version entry = driver entry.handle ∧
        (version (state.tables.eglDisplays e) ≠ driver entry.handle →
          ∀ other, (state.tables.eglDisplays other).handle = entry.handle → other = e)) := by
  have own : ∀ other, other ≠ e →
      (state.tables.setDisplay e fun _ => entry).eglDisplays other =
        state.tables.eglDisplays other := fun other apart => Function.update_of_ne apart _ _
  have here : (state.tables.setDisplay e fun _ => entry).eglDisplays e = entry :=
    Function.update_self ..
  unfold InitSystem.Agrees
  simp only
  constructor
  · intro kept present
    have same := kept e (here.symm ▸ present)
    rw [here] at same
    refine ⟨same, fun changed other pointer => ?_⟩
    by_contra apart
    have others := kept other (by rwa [own other apart, pointer])
    have before := agrees other (pointer.symm ▸ present)
    rw [own other apart, pointer] at others
    rw [pointer] at before
    rw [agrees e (handle ▸ present), ← handle, ← before] at changed
    exact changed others
  · rintro fits id present
    by_cases apart : id = e
    · rw [apart, here] at present ⊢
      exact (fits present).1
    · rw [own id apart] at present ⊢
      by_cases pointer : (state.tables.eglDisplays id).handle = entry.handle
      · have some : entry.handle ≠ 0 := pointer ▸ present
        have unchanged : version (state.tables.eglDisplays e) = driver entry.handle := by
          by_contra changed
          exact apart ((fits some).2 changed id pointer)
        rw [agrees id present, pointer, ← unchanged, agrees e (handle ▸ some), handle]
      · rw [others _ pointer]
        exact agrees id present

theorem single_iff {entry : EGLHandleEntry}
    (handle : entry.handle = (tables.eglDisplays (clamp _ di)).handle) :
    (∀ other, (tables.eglDisplays other).handle = entry.handle → other = clamp _ di) ↔
      Single tables di := by
  rw [handle]
  rfl

theorem books_of_handle {reply : HandleReply}
    (served : state.handle clientPid call = some (reply, next)) :
    Books clientPid state call ↔ Answers state next reply call ∧ next.Agrees := by
  unfold Books
  rw [served]
  constructor
  · rintro ⟨_, _, ⟨⟩, answers, agrees⟩
    exact ⟨answers, agrees⟩
  · rintro ⟨answers, agrees⟩
    exact ⟨reply, next, rfl, answers, agrees⟩

theorem run_of_serve {handler : Handler HandleReply} {reply : HandleReply}
    {driver : UInt32 → Option (Int32 × Int32)}
    (served : state.serve handler driver = some (reply, next)) :
    handler.run state.tables = .ok (reply, next.tables) := by
  unfold InitSystem.serve at served
  cases runs : handler.run state.tables with
  | error overrun =>
      rw [runs] at served
      exact nomatch served
  | ok made =>
      rw [runs] at served
      cases served
      rfl

theorem below_of_hEglInitialize {reply : HandleReply} {after : HandleTables}
    (runs : (Handler.hEglInitialize di major minor ok).run tables = .ok (reply, after)) :
    di.toNat ≤ eglBridgeMaxDisplays := by
  have ensured : (Handler.hEglInitialize di major minor ok).Ensures
      (fun _ _ => di.toNat ≤ eglBridgeMaxDisplays) tables := by
    unfold Handler.hEglInitialize
    rw [ensures_bind, Handler.ensures_disp, ensures_bind, Handler.ensures_index]
    intro below value after _
    exact Nat.lt_succ_iff.mp below
  exact ensured reply after runs

theorem refused_ne : (0 : UInt64) ≠ 1 := by decide

/-- The driver is not asked, and nothing changes. -/
theorem handle_eglInitialize_idle (below : di.toNat ≤ eglBridgeMaxDisplays)
    (idle : state.asks di = false) :
    ∃ words, state.handle clientPid (.eglInitialize di ok major minor) =
      some ({ result := 0, words, reals := [] }, state) := by
  have calls : ¬ ((state.tables.eglDisplays (clamp _ di)).handle != 0 &&
      !(state.tables.eglDisplays (clamp _ di)).initialized) = true := Bool.eq_false_iff.mp idle
  refine ⟨[(state.tables.eglDisplays (clamp _ di)).major.toUInt32,
    (state.tables.eglDisplays (clamp _ di)).minor.toUInt32], ?_⟩
  have same : state.tables.setDisplay (clamp _ di) (fun entry => noted entry major minor) =
      state.tables := setDisplay_same (noted_not calls)
  rw [InitSystem.handle, InitSystem.serve, run_hEglInitialize below, same, noted_not calls,
    Bool.eq_false_iff.mpr calls, idle]
  rfl

/-- The entry takes what the driver wrote, whether or not the driver succeeded. -/
theorem handle_eglInitialize_asked (below : di.toNat ≤ eglBridgeMaxDisplays)
    (asked : state.asks di = true) :
    state.handle clientPid (.eglInitialize di ok major minor) =
      some ({ result := if ok then 1 else 0, words := [major.toUInt32, minor.toUInt32], reals := [] },
        { tables := state.tables.setDisplay (clamp _ di) fun _ =>
            opened (state.tables.eglDisplays (clamp _ di)) major minor
          driver := if ok then Function.update state.driver (state.real di) (some (major, minor))
            else state.driver }) := by
  have calls : ((state.tables.eglDisplays (clamp _ di)).handle != 0 &&
      !(state.tables.eglDisplays (clamp _ di)).initialized) = true := asked
  have entry : state.tables.setDisplay (clamp _ di) (fun entry => noted entry major minor) =
      state.tables.setDisplay (clamp _ di) fun _ =>
        opened (state.tables.eglDisplays (clamp _ di)) major minor := by
    rw [HandleTables.setDisplay, noted_of calls]
    rfl
  rw [InitSystem.handle, InitSystem.serve, run_hEglInitialize below, entry, noted_of calls, calls, asked]
  simp only [Bool.true_and]
  rfl

theorem books_eglInitialize (agrees : state.Agrees) :
    Books clientPid state (.eglInitialize di ok major minor) ↔
      KeepsBooks state (.eglInitialize di ok major minor) := by
  by_cases below : di.toNat ≤ eglBridgeMaxDisplays
  case neg =>
    refine ⟨fun books => ?_, fun keeps => absurd keeps.1 below⟩
    obtain ⟨_, _, served, -, -⟩ := books
    exact absurd (below_of_hEglInitialize (run_of_serve served)) below
  by_cases zero : state.real di = 0
  · -- There is no display: nothing is asked, and nothing is promised.
    have idle : state.asks di = false := by simp [InitSystem.asks, zero]
    obtain ⟨words, served⟩ := handle_eglInitialize_idle below idle
    rw [books_of_handle served]
    refine ⟨fun _ => ⟨below, fun some => absurd zero some⟩, fun _ => ⟨⟨?_, ?_⟩, agrees⟩⟩
    · simp [zero]
    · exact fun _ _ success => absurd success refused_ne
  have known := agrees (clamp _ di) zero
  cases initialized : (state.tables.eglDisplays (clamp _ di)).initialized with
  | true =>
      -- The display is initialised, and the answer is that it is not.
      have idle : state.asks di = false := by simp [InitSystem.asks, initialized]
      obtain ⟨words, served⟩ := handle_eglInitialize_idle below idle
      rw [books_of_handle served]
      refine iff_of_false (fun books => ?_) fun keeps => ?_
      · have some : (state.driver (state.real di)).isSome := by
          change (state.driver (state.tables.eglDisplays (clamp _ di)).handle).isSome
          rw [← known, version, if_pos initialized]
          rfl
        exact absurd (books.1.1.mpr ⟨zero, some⟩) refused_ne
      · exact Bool.noConfusion (initialized.symm.trans (keeps.2 zero).1)
  | false =>
      have asked : state.asks di = true := by simp [InitSystem.asks, zero, initialized]
      have before : version (state.tables.eglDisplays (clamp _ di)) = none :=
        if_neg (Bool.eq_false_iff.mp initialized)
      have pointer : (opened (state.tables.eglDisplays (clamp _ di)) major minor).handle =
          (state.tables.eglDisplays (clamp _ di)).handle := rfl
      rw [books_of_handle (handle_eglInitialize_asked below asked)]
      cases ok with
      | false =>
          -- The entry is initialised then, and the display is not.
          refine iff_of_false (fun books => ?_) fun keeps => Bool.noConfusion (keeps.2 zero).2.1
          obtain ⟨same, -⟩ := (agrees_setDisplay agrees pointer fun _ _ => rfl).mp books.2 zero
          exact nomatch same.trans (known.symm.trans before)
      | true =>
          have others : ∀ real, real ≠ (state.tables.eglDisplays (clamp _ di)).handle →
              Function.update state.driver (state.real di) (some (major, minor)) real =
                state.driver real := fun _ apart => Function.update_of_ne apart _ _
          have now : Function.update state.driver (state.real di) (some (major, minor))
              (state.real di) = some (major, minor) := Function.update_self ..
          refine ⟨fun books => ⟨below, fun _ => ⟨initialized, rfl, ?_⟩⟩, fun keeps =>
            ⟨⟨⟨fun _ => ⟨zero, ?_⟩, fun _ => rfl⟩, fun _ _ _ told => ?_⟩, ?_⟩⟩
          · refine ((agrees_setDisplay agrees pointer others).mp books.2 zero).2 fun same => ?_
            exact nomatch before.symm.trans (same.trans now)
          · exact Option.isSome_iff_exists.mpr ⟨_, now⟩
          · cases now.symm.trans told
            rfl
          · exact (agrees_setDisplay agrees pointer others).mpr fun _ =>
              ⟨now.symm, fun _ => (keeps.2 zero).2.2⟩

/-- An entry of a display that is no longer initialised, and has no owner. -/
def closed (entry : EGLHandleEntry) : EGLHandleEntry :=
  { entry with ownerPid := 0, initialized := false, major := 0, minor := 0 }

def unowned (entry : EGLHandleEntry) : EGLHandleEntry := { entry with ownerPid := 0 }

theorem handle_eglTerminate (below : di.toNat ≤ eglBridgeMaxDisplays) {accepts : Bool}
    (succeeds : (state.real di != 0 && accepts) = ok) :
    state.handle clientPid (.eglTerminate di accepts) =
      some (.number (if ok then 1 else 0),
        { tables := state.tables.setDisplay (clamp _ di) fun _ =>
            if ok then closed (state.tables.eglDisplays (clamp _ di))
            else unowned (state.tables.eglDisplays (clamp _ di))
          driver := if ok then Function.update state.driver (state.real di) none
            else state.driver }) := by
  rw [InitSystem.handle, succeeds, InitSystem.serve, run_hEglTerminate below]
  rfl

theorem below_of_hEglTerminate {reply : HandleReply} {after : HandleTables}
    (runs : (Handler.hEglTerminate di ok).run tables = .ok (reply, after)) :
    di.toNat ≤ eglBridgeMaxDisplays := by
  have ensured : (Handler.hEglTerminate di ok).Ensures
      (fun _ _ => di.toNat ≤ eglBridgeMaxDisplays) tables := by
    unfold Handler.hEglTerminate
    rw [ensures_bind, Handler.ensures_index]
    intro below value after _
    exact Nat.lt_succ_iff.mp below
  exact ensured reply after runs

theorem books_eglTerminate {accepts : Bool} (agrees : state.Agrees) :
    Books clientPid state (.eglTerminate di accepts) ↔
      KeepsBooks state (.eglTerminate di accepts) := by
  by_cases below : di.toNat ≤ eglBridgeMaxDisplays
  case neg =>
    refine ⟨fun books => ?_, fun keeps => absurd keeps.1 below⟩
    obtain ⟨_, _, served, -, -⟩ := books
    exact absurd (below_of_hEglTerminate (run_of_serve served)) below
  cases succeeds : state.real di != 0 && accepts with
  | false =>
      have unasked : state.real di ≠ 0 → accepts ≠ true := by
        intro some accepts
        simp [some, accepts] at succeeds
      rw [books_of_handle (handle_eglTerminate below succeeds)]
      refine iff_of_true ⟨trivial, ?_⟩ ⟨below, fun some accepts => absurd accepts (unasked some)⟩
      have pointer : (unowned (state.tables.eglDisplays (clamp _ di))).handle =
          (state.tables.eglDisplays (clamp _ di)).handle := rfl
      refine (agrees_setDisplay agrees pointer fun _ _ => rfl).mpr fun some => ?_
      have known := agrees (clamp _ di) some
      exact ⟨known, fun changed => absurd known changed⟩
  | true =>
      obtain ⟨zero, accepted⟩ : state.real di ≠ 0 ∧ accepts = true := by simpa using succeeds
      have known := agrees (clamp _ di) zero
      have others : ∀ real, real ≠ (state.tables.eglDisplays (clamp _ di)).handle →
          Function.update state.driver (state.real di) none real = state.driver real :=
        fun _ apart => Function.update_of_ne apart _ _
      have now : Function.update state.driver (state.real di) none (state.real di) = none :=
        Function.update_self ..
      have pointer : (closed (state.tables.eglDisplays (clamp _ di))).handle =
          (state.tables.eglDisplays (clamp _ di)).handle := rfl
      rw [books_of_handle (handle_eglTerminate below succeeds)]
      constructor
      · intro books
        refine ⟨below, fun _ _ initialized => ?_⟩
        refine ((agrees_setDisplay agrees pointer others).mp books.2 zero).2 fun same => ?_
        rw [version, if_pos initialized] at same
        exact nomatch same.trans now
      · intro keeps
        refine ⟨trivial, (agrees_setDisplay agrees pointer others).mpr fun _ =>
          ⟨now.symm, fun changed => keeps.2 zero accepted ?_⟩⟩
        by_contra apart
        exact changed ((if_neg apart).trans now.symm)

theorem books_iff (agrees : state.Agrees) :
    Books clientPid state call ↔ KeepsBooks state call := by
  cases call with
  | eglGetDisplay real =>
      refine Iff.trans ?_ (books_entered agrees (entered_hEglGetDisplay clientPid))
      simp only [Books, Answers, true_and, InitSystem.handle]
  | eglGetPlatformDisplayEXT real =>
      refine Iff.trans ?_ (books_entered agrees (entered_hEglGetPlatformDisplayEXT clientPid))
      simp only [Books, Answers, true_and, InitSystem.handle]
  | eglInitialize di ok major minor => exact books_eglInitialize agrees
  | eglTerminate di accepts => exact books_eglTerminate agrees

theorem agrees_start {wlDisplay : UInt32} : (InitSystem.start wlDisplay).Agrees :=
  fun _ present => absurd rfl present

theorem agrees_of_books (books : Books clientPid state call)
    (steps : (initMachine clientPid).step state call = some next) : next.Agrees := by
  obtain ⟨reply, reached, served, -, agrees⟩ := books
  have same : some reached = some next := by
    rw [← steps]
    exact (congrArg (Option.map Prod.snd) served).symm
  cases same
  exact agrees

/-! ## Every sequence of calls -/

variable {calls : List DisplayCall}

theorem keepsBooks_of_books (agrees : state.Agrees)
    (books : (initMachine clientPid).Along (Books clientPid) state calls) :
    (initMachine clientPid).Along KeepsBooks state calls :=
  books.of_invariant (fun _ now => agrees_of_books now) (fun before => (books_iff before).mp) agrees

theorem books_of_keepsBooks (agrees : state.Agrees)
    (keeps : (initMachine clientPid).Along KeepsBooks state calls) :
    (initMachine clientPid).Along (Books clientPid) state calls :=
  keeps.of_invariant (fun before now => agrees_of_books ((books_iff before).mpr now))
    (fun before => (books_iff before).mpr) agrees

theorem books_kept_iff (wlDisplay : UInt32) (clientPid : Int32) (calls : List DisplayCall) :
    (initMachine clientPid).Along (Books clientPid) (.start wlDisplay) calls ↔
      (initMachine clientPid).Along KeepsBooks (.start wlDisplay) calls :=
  ⟨keepsBooks_of_books agrees_start, books_of_keepsBooks agrees_start⟩

instance decidableSingle {tables : HandleTables} {di : UInt32} : Decidable (Single tables di) :=
  inferInstanceAs (Decidable (∀ _, _ → _))

instance decidableKeepsBooks : ∀ state call, Decidable (KeepsBooks state call)
  | _, .eglGetDisplay _ => inferInstanceAs (Decidable (_ → _ → _))
  | _, .eglGetPlatformDisplayEXT _ => inferInstanceAs (Decidable (_ → _ → _))
  | _, .eglInitialize .. => inferInstanceAs (Decidable (_ ∧ _))
  | _, .eglTerminate .. => inferInstanceAs (Decidable (_ ∧ _))

/-- The display is initialised, and a second call says that it is not. -/
theorem second_initialize_fails :
    ¬ (initMachine 100).Along (Books 100) (.start 1)
      [.eglGetDisplay 7, .eglInitialize 1 true 1 4, .eglInitialize 1 true 1 4] :=
  mt (keepsBooks_of_books agrees_start) (by decide +kernel)

example : ¬ (initMachine 100).Along KeepsBooks (.start 1)
    [.eglGetDisplay 7, .eglInitialize 1 false 0 0, .eglInitialize 1 true 1 4] := by decide +kernel

example : (initMachine 100).Along KeepsBooks (.start 1)
    [.eglGetDisplay 7, .eglInitialize 1 true 1 4, .eglTerminate 1 true, .eglInitialize 1 true 1 5] := by
  decide +kernel

end GlesBridge.Egl
