import GlesBridge.Handles.Range
import GlesBridge.Systems.Machine

namespace GlesBridge.Proxy

open GlesBridge.Data GlesBridge.Systems GlesBridge.Systems.Checked

/-! Each live object of the driver has one index, whatever is called. -/

attribute [-instance] instNeZeroNatHAdd instNeZeroNatHAdd_1

/-- The indices that clients were given for objects that live; the owner of a
configuration, context or surface is its display. -/
structure GivenHandles where
  displays : List (Handed UInt32 UInt32)
  configs : List (Handed UInt32 UInt32)
  contexts : List (Handed UInt32 UInt32)
  surfaces : List (Handed UInt32 UInt32)

structure NamedHandles where
  tables : HandleTables
  given : GivenHandles

/-- A command of a client, with the context of its thread. -/
structure HandleCall where
  clientPid : Int32
  targetCtx : UInt32
  accepts : RealCurrent → Bool
  command : HandleCommand ⊕ WlCommand

def noteAll (owner : UInt32) :
    List (UInt32 × Nat) → List (Handed UInt32 UInt32) → List (Handed UInt32 UInt32)
  | [], given => given
  | (real, index) :: rest, given => noteAll owner rest (note 0 owner real index given)

namespace HandleReply

def single (reply : HandleReply) : List (UInt32 × Nat) :=
  reply.reals.map fun real => (real, reply.result.toNat)

def listed (reply : HandleReply) : List (UInt32 × Nat) :=
  reply.reals.zip (reply.words.map UInt32.toNat)

/-- Another index for an object that has one. -/
def again (reply : HandleReply) (given : List (Handed UInt32 UInt32)) :
    List (Handed UInt32 UInt32) :=
  reply.reals.flatMap fun real =>
    (given.filter fun handed => handed.object = real).map fun handed =>
      { handed with index := reply.result.toNat }

end HandleReply

def RealHandles.display (real : RealHandles) (di : UInt32) : UInt32 :=
  real.displays (clamp _ di)

/-- What clients hold after a command. Contexts and surfaces end with their display. -/
def GivenHandles.after (given : GivenHandles) (real : RealHandles) (reply : HandleReply) :
    HandleCommand → GivenHandles
  | .eglGetPlatformDisplayEXT _ | .eglGetDisplay _ =>
      { given with displays := noteAll 0 reply.single given.displays }
  | .eglTerminate di true =>
      { given with
        contexts := given.contexts.filter fun handed => handed.owner ≠ real.display di
        surfaces := given.surfaces.filter fun handed => handed.owner ≠ real.display di }
  | .eglGetConfigs di _ _ _ | .eglChooseConfig di _ _ _ =>
      { given with configs := noteAll (real.display di) reply.listed given.configs }
  | .eglCreateWindowSurface di _ _ _ | .eglCreatePbufferSurface di _ _
  | .eglCreatePixmapSurface di _ _ =>
      { given with surfaces := noteAll (real.display di) reply.single given.surfaces }
  | .eglDestroySurface _ si true =>
      { given with
        surfaces := given.surfaces.filter fun handed => handed.object ≠ real.surfaces (clamp _ si) }
  | .eglCreateContext di _ _ _ =>
      { given with contexts := noteAll (real.display di) reply.single given.contexts }
  | .eglDestroyContext _ xi true =>
      { given with
        contexts := given.contexts.filter fun handed => handed.object ≠ real.contexts (clamp _ xi) }
  | .eglGetCurrentContext _ =>
      { given with contexts := reply.again given.contexts ++ given.contexts }
  | .eglGetCurrentSurface _ =>
      { given with surfaces := reply.again given.surfaces ++ given.surfaces }
  | .eglGetCurrentDisplay _ =>
      { given with displays := reply.again given.displays ++ given.displays }
  | _ => given

/-- An access outside an array is no step. -/
def namedMachine : Machine NamedHandles HandleCall where
  step state call :=
    match (Handler.serve call.clientPid call.targetCtx call.accepts call.command).run state.tables with
    | .ok (reply, tables) =>
        some {
          tables
          given :=
            match call.command with
            | .inl command => state.given.after state.tables.real reply command
            | .inr _ => state.given }
    | .error _ => none

/-- Each object that was handed out has one index in its table, and it is the one
that was handed out. -/
structure NamedHandles.Faithful (state : NamedHandles) : Prop where
  displays : Data.Faithful state.tables.real.displays 0 state.given.displays
  configs : Data.Faithful state.tables.real.configs 0 state.given.configs
  contexts : Data.Faithful state.tables.real.contexts 0 state.given.contexts
  surfaces : Data.Faithful state.tables.real.surfaces 0 state.given.surfaces

/-! ## When the handlers keep to it -/

/-- A display is new to a table that is not full, or it has the first entry of a full one. -/
def DisplayFits (tables : HandleTables) (real : UInt32) : Prop :=
  tables.proxyWlDisplay ≠ 0 →
    if real ≠ 0 ∧ placeOf tables.real.displays 0 = none then tables.real.displays 1 = real
    else Fits tables.real.displays 0 real

/-- The configurations are new to the table until it is full, and are there after that. -/
def NewConfigs (table : Fin (eglBridgeMaxConfigs + 1) → UInt32) : List UInt32 → Prop
  | [] => True
  | real :: rest =>
      (if placeOf table 0 = none then real = 0 ∨ placeOf table real ≠ none
        else real ≠ 0 ∧ Absent table real) ∧
      NewConfigs (allocate table 0 real).1 rest

/-- Those that are not there find a free entry. -/
def RoomForConfigs (table : Fin (eglBridgeMaxConfigs + 1) → UInt32) : List UInt32 → Prop
  | [] => True
  | real :: rest =>
      if placeOf table real ≠ none then real ≠ 0 ∧ RoomForConfigs table rest
      else (real ≠ 0 → placeOf table 0 ≠ none) ∧ RoomForConfigs (allocate table 0 real).1 rest

/-- A context or surface that was made is new to a table that is not full. -/
def HandleCommand.Fits (tables : HandleTables) : HandleCommand → Prop
  | .eglGetPlatformDisplayEXT real => real ≠ 0 → DisplayFits tables real
  | .eglGetDisplay real => DisplayFits tables real
  | .eglGetConfigs di cfgSz ok configs =>
      tables.Lists di cfgSz ok → NewConfigs tables.real.configs configs
  | .eglChooseConfig _ hasConfigs _ configs =>
      hasConfigs = true → RoomForConfigs tables.real.configs configs
  | .eglCreateWindowSurface _ _ winSlot real =>
      tables.HasWindow winSlot → real ≠ 0 → Data.Fits tables.real.surfaces 0 real
  | .eglCreatePbufferSurface _ _ real => real ≠ 0 → Data.Fits tables.real.surfaces 0 real
  | .eglCreatePixmapSurface _ _ real => real ≠ 0 → Data.Fits tables.real.surfaces 0 real
  | .eglCreateContext _ _ _ real => real ≠ 0 → Data.Fits tables.real.contexts 0 real
  | _ => True

/-- The handles of a call are inside their tables, and what the driver gives finds its place. -/
def Places (state : NamedHandles) (call : HandleCall) : Prop :=
  Handler.InRange call.command ∧
    match call.command with
    | .inl command => command.Fits state.tables
    | .inr _ => True

/-- Displays and configurations stay in their tables. -/
structure Named (real : RealHandles) (given : GivenHandles) : Prop where
  displays : Numbered real.displays 0 given.displays
  configs : Numbered real.configs 0 given.configs
  contexts : Data.Faithful real.contexts 0 given.contexts
  surfaces : Data.Faithful real.surfaces 0 given.surfaces

section

variable {n : Nat} {table : Fin (n + 1) → UInt32} {put : (Fin (n + 1) → UInt32) → RealHandles}
  {given : List (Handed UInt32 UInt32)} {owner real : UInt32} {reply : HandleReply}
  {tables after : HandleTables} {clientPid : Int32} {configs : List UInt32}

theorem noteAll_answered (index : Fin (n + 1)) (small : n < UInt64.size) :
    noteAll owner (HandleReply.answered index.val real).single given =
      note 0 owner real index.val given := by
  have exact : (UInt64.ofNat index.val).toNat = index.val :=
    UInt64.toNat_ofNat_of_lt (by omega)
  simp [noteAll, HandleReply.single, HandleReply.answered, exact]

theorem noteAll_failed : noteAll owner (HandleReply.answered 0 0).single given = given := by
  simp [noteAll, HandleReply.single, HandleReply.answered, note]

theorem noteAll_nothing (nothing : reply.reals = []) : noteAll owner reply.single given = given := by
  rw [HandleReply.single, nothing]
  rfl

theorem listed_nothing (nothing : reply.reals = []) : noteAll owner reply.listed given = given := by
  rw [HandleReply.listed, nothing]
  rfl

open Handler in
theorem EnteredIfReal.named (small : n < UInt64.size) (faithful : Data.Faithful table 0 given)
    (fits : real ≠ 0 → Fits table 0 real) (entered : EnteredIfReal table put real reply after) :
    ∃ filled, after.real = put filled ∧
      Data.Faithful filled 0 (noteAll owner reply.single given) := by
  unfold EnteredIfReal at entered
  by_cases null : real = 0
  · rw [if_pos null] at entered
    obtain ⟨rfl, same⟩ := entered
    refine ⟨table, same, ?_⟩
    rw [noteAll_failed]
    exact faithful
  · rw [if_neg null] at entered
    obtain ⟨rfl, filled⟩ := entered
    refine ⟨_, filled, ?_⟩
    rw [noteAll_answered _ small]
    exact faithful.allocate (fits null)

open Handler in
/-- The first entry of a full table is given again only to the display that has it. -/
theorem DisplayEntered.named (numbered : Numbered tables.real.displays 0 given)
    (fits : DisplayFits tables real) (entered : DisplayEntered tables real reply after) :
    ∃ displays, after.real = { tables.real with displays } ∧
      Numbered displays 0 (noteAll owner reply.single given) := by
  unfold DisplayEntered at entered
  split at entered
  · obtain ⟨same, nothing⟩ := entered
    rw [noteAll_nothing nothing]
    exact ⟨_, same, numbered⟩
  · rename_i connected
    have fits := fits connected
    split at entered
    · rename_i full
      rw [if_pos full] at fits
      obtain ⟨rfl, changed⟩ := entered
      refine ⟨_, changed, ?_⟩
      rw [← fits, Function.update_eq_self]
      have denotes : Denotes tables.real.displays 0 (tables.real.displays 1)
          (1 : Fin (eglBridgeMaxDisplays + 1)).val :=
        numbered.denotes (by decide) (fits ▸ full.1)
      have answered :
          noteAll owner (HandleReply.answered 1 (tables.real.displays 1)).single given =
            note 0 owner (tables.real.displays 1) 1 given :=
        noteAll_answered (n := eglBridgeMaxDisplays) 1 (by decide)
      rw [answered]
      exact numbered.note denotes
    · rename_i free
      rw [if_neg free] at fits
      obtain ⟨rfl, filled⟩ := entered
      refine ⟨_, filled, ?_⟩
      rw [noteAll_answered _ (by decide)]
      exact numbered.allocate fits

/-! ## Lists of configurations -/

theorem indexWord_toNat (index : Fin (eglBridgeMaxConfigs + 1)) :
    (UInt32.ofNat index.val).toNat = index.val :=
  UInt32.toNat_ofNat_of_lt (Nat.lt_trans index.isLt (by decide))

/-- The index that `eglGetConfigs` answers with. -/
def configIndex (made : (Fin (eglBridgeMaxConfigs + 1) → EGLHandleEntry) × Fin (eglBridgeMaxConfigs + 1))
    (real : UInt32) : Fin (eglBridgeMaxConfigs + 1) :=
  if made.2 = 0 then (placeOf (handles made.1) real).getD 0 else made.2

theorem getConfigs_cons {table : Fin (eglBridgeMaxConfigs + 1) → EGLHandleEntry}
    {made : (Fin (eglBridgeMaxConfigs + 1) → EGLHandleEntry) × Fin (eglBridgeMaxConfigs + 1)}
    (allocated : made = tableAlloc table real clientPid) :
    Handler.getConfigs clientPid table (real :: configs) =
      ((Handler.getConfigs clientPid made.1 configs).1,
        .ofNat (configIndex made real).val :: (Handler.getConfigs clientPid made.1 configs).2) := by
  subst allocated
  rfl

theorem configIndex_named {table : Fin (eglBridgeMaxConfigs + 1) → EGLHandleEntry}
    (numbered : Numbered (handles table) 0 given)
    (now : if placeOf (handles table) 0 = none then real = 0 ∨ placeOf (handles table) real ≠ none
      else real ≠ 0 ∧ Absent (handles table) real) :
    Numbered (handles (tableAlloc table real clientPid).1) 0
      (note 0 owner real (configIndex (tableAlloc table real clientPid) real).val given) := by
  unfold configIndex
  simp only [tableAlloc_zero]
  rw [index_tableAlloc, handles_tableAlloc]
  by_cases full : placeOf (handles table) 0 = none
  · rw [if_pos full, allocate_full full]
    rw [if_pos full] at now
    by_cases null : real = 0
    · rw [null, full, Option.getD_none, Fin.val_zero, note_none]
      exact numbered
    · cases found : placeOf (handles table) real with
      | none => exact absurd found (now.resolve_left null)
      | some place => exact numbered.note (numbered.found null found)
  · rw [if_neg full]
    rw [if_neg full] at now
    refine numbered.allocate ?_
    rw [Fits, if_neg full]
    exact now

theorem getConfigs_named {table : Fin (eglBridgeMaxConfigs + 1) → EGLHandleEntry}
    (numbered : Numbered (handles table) 0 given) (fresh : NewConfigs (handles table) configs) :
    Numbered (handles (Handler.getConfigs clientPid table configs).1) 0
      (noteAll owner
        (configs.zip ((Handler.getConfigs clientPid table configs).2.map UInt32.toNat)) given) := by
  induction configs generalizing table given with
  | nil => exact numbered
  | cons real rest ih =>
      obtain ⟨now, later⟩ := fresh
      rw [getConfigs_cons rfl, List.map_cons, List.zip_cons_cons, indexWord_toNat]
      rw [← handles_tableAlloc] at later
      exact ih (configIndex_named numbered now) later

/-- The index that `eglChooseConfig` answers with. -/
def chosenConfig (clientPid : Int32) (table : Fin (eglBridgeMaxConfigs + 1) → EGLHandleEntry)
    (real : UInt32) :
    (Fin (eglBridgeMaxConfigs + 1) → EGLHandleEntry) × Fin (eglBridgeMaxConfigs + 1) :=
  match placeOf (handles table) real with
  | some ci => (table, ci)
  | none => tableAlloc table real clientPid

theorem chooseConfigs_cons {table : Fin (eglBridgeMaxConfigs + 1) → EGLHandleEntry}
    {made : (Fin (eglBridgeMaxConfigs + 1) → EGLHandleEntry) × Fin (eglBridgeMaxConfigs + 1)}
    (chosen : made = chosenConfig clientPid table real) :
    Handler.chooseConfigs clientPid table (real :: configs) =
      ((Handler.chooseConfigs clientPid made.1 configs).1,
        .ofNat made.2.val :: (Handler.chooseConfigs clientPid made.1 configs).2) := by
  subst chosen
  rfl

theorem chooseConfigs_named {table : Fin (eglBridgeMaxConfigs + 1) → EGLHandleEntry}
    (numbered : Numbered (handles table) 0 given) (room : RoomForConfigs (handles table) configs) :
    Numbered (handles (Handler.chooseConfigs clientPid table configs).1) 0
      (noteAll owner
        (configs.zip ((Handler.chooseConfigs clientPid table configs).2.map UInt32.toNat)) given) := by
  induction configs generalizing table given with
  | nil => exact numbered
  | cons real rest ih =>
      rw [RoomForConfigs] at room
      cases found : placeOf (handles table) real with
      | some place =>
          rw [if_pos (by simp [found])] at room
          have chosen : (table, place) = chosenConfig clientPid table real := by
            rw [chosenConfig, found]
          rw [chooseConfigs_cons chosen, List.map_cons, List.zip_cons_cons, indexWord_toNat]
          exact ih (numbered.note (numbered.found room.1 found)) room.2
      | none =>
          rw [if_neg (by simp [found]), ← handles_tableAlloc] at room
          have chosen : tableAlloc table real clientPid = chosenConfig clientPid table real := by
            rw [chosenConfig, found]
          have fits : Fits (handles table) 0 real := by
            unfold Fits
            split
            · rename_i full
              exact of_not_not fun real => room.1 real full
            · rename_i free
              have absent := placeOf_eq_none.mp found
              exact ⟨fun null => free (null ▸ found), absent⟩
          rw [chooseConfigs_cons chosen, List.map_cons, List.zip_cons_cons, indexWord_toNat]
          refine ih ?_ room.2
          rw [handles_tableAlloc, index_tableAlloc]
          exact numbered.allocate fits

end

/-! ## A command -/

section

open Handler

variable {n : Nat} {tables after : HandleTables} {given : GivenHandles} {reply : HandleReply}
  {program : Handler HandleReply} {command : HandleCommand} {clientPid : Int32}
  {targetCtx : UInt32} {accepts : RealCurrent → Bool} {real : UInt32}

/-- A query answers with the index that an object has. -/
theorem mem_again {table : Fin (n + 1) → UInt32} {handed : List (Handed UInt32 UInt32)}
    (small : n < UInt64.size) (faithful : Data.Faithful table 0 handed)
    (found : Found table real tables reply after) :
    ∀ another ∈ reply.again handed, another ∈ handed := by
  intro another member
  unfold Found at found
  obtain ⟨-, answer⟩ := found
  split at answer
  · subst answer
    cases member
  · subst answer
    simp only [HandleReply.again, HandleReply.answered, List.flatMap_cons, List.flatMap_nil,
      List.append_nil, List.mem_map, List.mem_filter, decide_eq_true_eq] at member
    obtain ⟨earlier, ⟨before, rfl⟩, rfl⟩ := member
    obtain ⟨place, there, index⟩ := (faithful earlier before).found
    have exact : (UInt64.ofNat place.val).toNat = place.val :=
      UInt64.toNat_ofNat_of_lt (by omega)
    rw [there, Option.getD_some, exact, index]
    exact before

theorem Faithful.again {table : Fin (n + 1) → UInt32} {handed : List (Handed UInt32 UInt32)}
    (small : n < UInt64.size) (faithful : Data.Faithful table 0 handed)
    (found : Found table real tables reply after) :
    Data.Faithful table 0 (reply.again handed ++ handed) :=
  faithful.subset fun another member =>
    (List.mem_append.mp member).elim (mem_again small faithful found another) id

/-- After a command its replies are noted, and every object still has its index. -/
def Kept (tables : HandleTables) (given : GivenHandles) (command : HandleCommand)
    (reply : HandleReply) (after : HandleTables) : Prop :=
  Named after.real (given.after tables.real reply command)

/-- Handlers that enter nothing. -/
theorem kept_of_quiet (quiet : Quiet program tables)
    (notes : ∀ reply, reply.reals = [] → Named tables.real (given.after tables.real reply command)) :
    program.Yields (Kept tables given command) tables := by
  refine quiet.mono fun reply after unchanged => ?_
  rw [Kept, unchanged.1]
  exact notes reply unchanged.2

theorem kept_surface (named : Named tables.real given) (owner : UInt32)
    (fits : real ≠ 0 → Data.Fits tables.real.surfaces 0 real)
    (notes : given.after tables.real reply command =
      { given with surfaces := noteAll owner reply.single given.surfaces })
    (entered : SurfaceEntered tables real reply after) : Kept tables given command reply after := by
  obtain ⟨filled, same, faithful⟩ := EnteredIfReal.named (by decide) named.surfaces fits entered
  rw [Kept, notes, same]
  exact ⟨named.displays, named.configs, named.contexts, faithful⟩

theorem kept_context (named : Named tables.real given) (owner : UInt32)
    (fits : real ≠ 0 → Data.Fits tables.real.contexts 0 real)
    (notes : given.after tables.real reply command =
      { given with contexts := noteAll owner reply.single given.contexts })
    (entered : ContextEntered tables real reply after) : Kept tables given command reply after := by
  obtain ⟨filled, same, faithful⟩ := EnteredIfReal.named (by decide) named.contexts fits entered
  rw [Kept, notes, same]
  exact ⟨named.displays, named.configs, faithful, named.surfaces⟩

theorem kept_display (named : Named tables.real given) (fits : DisplayFits tables real)
    (notes : given.after tables.real reply command =
      { given with displays := noteAll 0 reply.single given.displays })
    (entered : DisplayEntered tables real reply after) : Kept tables given command reply after := by
  obtain ⟨filled, same, numbered⟩ := DisplayEntered.named named.displays fits entered
  rw [Kept, notes, same]
  exact ⟨numbered, named.configs, named.contexts, named.surfaces⟩

theorem kept_configs
    {made : (Fin (eglBridgeMaxConfigs + 1) → EGLHandleEntry) × List UInt32} {configs : List UInt32}
    {owner : UInt32} (named : Named tables.real given)
    (numbered : Numbered (handles made.1) 0
      (noteAll owner (configs.zip (made.2.map UInt32.toNat)) given.configs))
    (notes : given.after tables.real reply command =
      { given with configs := noteAll owner reply.listed given.configs })
    (entered : ConfigsEntered tables made configs reply after) :
    Kept tables given command reply after := by
  obtain ⟨same, words, reals⟩ := entered
  rw [Kept, notes, same, HandleReply.listed, words, reals]
  exact ⟨named.displays, numbered, named.contexts, named.surfaces⟩

theorem handle_kept (named : Named tables.real given) (inside : command.InRange)
    (fits : command.Fits tables) :
    (handle clientPid accepts command).Yields (Kept tables given command) tables := by
  cases command with
  | eglGetPlatformDisplayEXT real =>
      refine hEglGetPlatformDisplayEXT_enters.mono fun reply after entered => ?_
      unfold PlatformDisplayEntered at entered
      split at entered
      · obtain ⟨same, nothing | rfl⟩ := entered
        · rw [Kept, same, GivenHandles.after, noteAll_nothing nothing]
          exact named
        · rw [Kept, same, GivenHandles.after, noteAll_failed]
          exact named
      · rename_i given
        exact kept_display named (fits given) rfl entered
  | eglGetDisplay real =>
      exact hEglGetDisplay_enters.mono fun reply after => kept_display named fits rfl
  | eglInitialize di major minor ok =>
      exact kept_of_quiet (quiet_hEglInitialize inside) fun _ _ => named
  | eglTerminate di ok =>
      refine kept_of_quiet (quiet_hEglTerminate inside) fun reply nothing => ?_
      cases ok with
      | false => exact named
      | true =>
          refine ⟨named.displays, named.configs, named.contexts.subset ?_, named.surfaces.subset ?_⟩
          · exact fun _ => List.mem_of_mem_filter
          · exact fun _ => List.mem_of_mem_filter
  | eglReleaseThread ok => exact kept_of_quiet quiet_hEglReleaseThread fun _ _ => named
  | eglQueryString di answer => exact kept_of_quiet quiet_onDisplay fun _ _ => named
  | eglGetConfigs di cfgSz ok configs =>
      refine hEglGetConfigs_enters.mono fun reply after entered => ?_
      by_cases lists : tables.Lists di cfgSz ok
      · exact kept_configs named (getConfigs_named named.configs (fits lists)) rfl (entered.1 lists)
      · obtain ⟨same, nothing⟩ := entered.2 lists
        rw [Kept, same, GivenHandles.after, listed_nothing nothing]
        exact named
  | eglChooseConfig di hasConfigs ok configs =>
      refine hEglChooseConfig_enters.mono fun reply after entered => ?_
      split at entered
      · rename_i asked
        exact kept_configs named (chooseConfigs_named named.configs (fits asked)) rfl entered
      · obtain ⟨same, nothing⟩ := entered
        rw [Kept, same, GivenHandles.after, listed_nothing nothing]
        exact named
  | eglGetConfigAttrib di ci answer => exact kept_of_quiet quiet_hEglGetConfigAttrib fun _ _ => named
  | eglCreateWindowSurface display config winSlot real =>
      refine hEglCreateWindowSurface_enters.mono fun reply after entered => ?_
      by_cases window : tables.HasWindow winSlot
      · exact kept_surface named _ (fits window) rfl (entered.1 window)
      · obtain ⟨same, nothing⟩ := entered.2 window
        rw [Kept, same, GivenHandles.after, noteAll_nothing nothing]
        exact named
  | eglCreatePbufferSurface di ci real =>
      exact hEglCreatePbufferSurface_enters.mono fun reply after => kept_surface named _ fits rfl
  | eglCreatePixmapSurface di ci real =>
      exact hEglCreatePixmapSurface_enters.mono fun reply after => kept_surface named _ fits rfl
  | eglDestroySurface di si ok =>
      have below := Nat.lt_succ_of_le inside
      refine (hEglDestroySurface_frees below).mono fun reply after freed => ?_
      cases ok with
      | false =>
          rw [Kept, freed.2]
          exact named
      | true =>
          rw [Kept, freed.2, GivenHandles.after, clamp, dif_pos below]
          exact ⟨named.displays, named.configs, named.contexts, named.surfaces.remove⟩
  | eglQuerySurface di si answer => exact kept_of_quiet quiet_onSurface fun _ _ => named
  | eglSurfaceAttrib di si answer => exact kept_of_quiet quiet_onSurface fun _ _ => named
  | eglBindTexImage di si answer => exact kept_of_quiet quiet_onSurface fun _ _ => named
  | eglReleaseTexImage di si answer => exact kept_of_quiet quiet_onSurface fun _ _ => named
  | eglCopyBuffers di si answer => exact kept_of_quiet quiet_onSurface fun _ _ => named
  | eglCreateContext di ci shareIdx real =>
      exact hEglCreateContext_enters.mono fun reply after => kept_context named _ fits rfl
  | eglDestroyContext di xi ok =>
      have below := Nat.lt_succ_of_le inside
      refine (hEglDestroyContext_frees below).mono fun reply after freed => ?_
      cases ok with
      | false =>
          rw [Kept, freed.2]
          exact named
      | true =>
          rw [Kept, freed.2, GivenHandles.after, clamp, dif_pos below]
          exact ⟨named.displays, named.configs, named.contexts.remove, named.surfaces⟩
  | eglMakeCurrent display draw read context =>
      exact kept_of_quiet quiet_hEglMakeCurrent fun _ _ => named
  | eglGetCurrentContext real =>
      refine currentIndex_finds.mono fun reply after found => ?_
      rw [Kept, found.1]
      exact ⟨named.displays, named.configs, Faithful.again (by decide) named.contexts found,
        named.surfaces⟩
  | eglGetCurrentSurface real =>
      refine currentIndex_finds.mono fun reply after found => ?_
      rw [Kept, found.1]
      exact ⟨named.displays, named.configs, named.contexts,
        Faithful.again (by decide) named.surfaces found⟩
  | eglGetCurrentDisplay real =>
      refine currentIndex_finds.mono fun reply after found => ?_
      rw [Kept, found.1]
      have faithful := Faithful.again (by decide) named.displays.faithful found
      exact ⟨⟨faithful, named.displays.complete.grow fun _ => List.mem_append_right _⟩,
        named.configs, named.contexts, named.surfaces⟩
  | eglQueryContext di xi answer => exact kept_of_quiet quiet_hEglQueryContext fun _ _ => named
  | eglSwapBuffers di si answer => exact kept_of_quiet quiet_onSurface fun _ _ => named
  | eglSwapInterval di answer => exact kept_of_quiet quiet_onDisplay fun _ _ => named
  | wlEglWindowCreate surfaceId window =>
      exact kept_of_quiet (quiet_hWlEglWindowCreate inside) fun _ _ => named
  | wlEglWindowResize slot => exact kept_of_quiet quiet_hWlEglWindowResize fun _ _ => named
  | wlEglWindowDestroy slot => exact kept_of_quiet quiet_hWlEglWindowDestroy fun _ _ => named
  | other => exact kept_of_quiet quiet_handle_other fun _ _ => named

/-- Which context is current does not matter to the pointers. -/
theorem dispatch_kept (named : Named tables.real given) (inside : command.InRange)
    (fits : command.Fits tables) :
    (dispatch clientPid targetCtx accepts command).Yields (Kept tables given command) tables := by
  have bound :
      (eglBindTargetCtx accepts targetCtx >>= fun _ => handle clientPid accepts command).Yields
        (Kept tables given command) tables := by
    rw [yields_bind]
    refine yields_eglBindTargetCtx fun _ current => ?_
    have rebound : command.Fits { tables with gCurrentCtx := current } := by
      cases command <;> exact fits
    have kept : (handle clientPid accepts command).Yields
        (Kept { tables with gCurrentCtx := current } given command)
        { tables with gCurrentCtx := current } :=
      handle_kept named inside rebound
    exact kept
  cases command with
  | eglMakeCurrent display draw read context =>
      rw [dispatch]
      exact handle_kept named inside fits
  | _ => exact bound

theorem wlDispatch_quiet {command : WlCommand} (inside : command.InRange) :
    Quiet (wlDispatch command) tables := by
  cases command with
  | wlDisplayConnect display compositor shell webosShell => exact quiet_hWlDisplayConnect
  | wlDisplayDisconnect slot => exact quiet_hWlDisplayDisconnect inside
  | wlCompositorCreateSurface surf => exact quiet_hWlCompositorCreateSurface
  | wlSurfaceCommit slot => exact quiet_hWlSurfaceCommit
  | wlSurfaceDestroy slot => exact quiet_hWlSurfaceDestroy
  | wlWebosSetProperty slot => exact quiet_hWlWebosSetProperty
  | wlShellGetShellSurface slot shellSurface => exact quiet_hWlShellGetShellSurface inside
  | wlShellSurfaceSetToplevel slot => exact quiet_hWlShellSurfaceSetToplevel
  | wlWebosShellGetShellSurface slot wss => exact quiet_hWlWebosShellGetShellSurface inside
  | wlProxyDestroy slot => exact quiet_hWlProxyDestroy
  | wlWebosShellSurfaceSetState slot => exact quiet_hWlWebosShellSurfaceSetState inside

end

/-! ## Runs -/

section

variable {state : NamedHandles} {call : HandleCall} {calls : List HandleCall}

def NamedHandles.Kept (state : NamedHandles) : Prop := Named state.tables.real state.given

theorem NamedHandles.Kept.faithful (kept : state.Kept) : state.Faithful where
  displays := kept.displays.faithful
  configs := kept.configs.faithful
  contexts := kept.contexts
  surfaces := kept.surfaces

theorem namedMachine_step (kept : state.Kept) (places : Places state call) :
    namedMachine.Ends NamedHandles.Kept state call := by
  obtain ⟨clientPid, targetCtx, accepts, command⟩ := call
  obtain ⟨inside, fits⟩ := places
  unfold Machine.Ends namedMachine
  cases command with
  | inl command =>
      have yields :
          (Handler.dispatch clientPid targetCtx accepts command).Yields
            (Kept state.tables state.given command) state.tables :=
        dispatch_kept kept inside fits
      obtain ⟨reply, tables, runs, named⟩ := yields_iff_run.mp yields
      refine ⟨⟨tables, state.given.after state.tables.real reply command⟩, ?_, named⟩
      simp only [Handler.serve, runs]
  | inr command =>
      have quiet : Handler.Quiet (Handler.wlDispatch command) state.tables := wlDispatch_quiet inside
      obtain ⟨reply, tables, runs, same, -⟩ := yields_iff_run.mp quiet
      refine ⟨⟨tables, state.given⟩, ?_, ?_⟩
      · simp only [Handler.serve, runs]
      · rw [NamedHandles.Kept, same]
        exact kept

/-- Nothing is entered and nothing was handed out. -/
def NamedHandles.zero : NamedHandles where
  tables := .zero
  given := ⟨[], [], [], []⟩

theorem NamedHandles.Kept.zero : NamedHandles.zero.Kept where
  displays := .empty
  configs := .empty
  contexts := Numbered.empty.faithful
  surfaces := Numbered.empty.faithful

/-- As long as each object finds its place, the tables are faithful to all that was
handed out, in every state of a run. -/
theorem handles_faithful
    (placed : namedMachine.Along Places NamedHandles.zero calls) :
    namedMachine.Along (namedMachine.Ends NamedHandles.Faithful) NamedHandles.zero calls := by
  refine Machine.Along.of_invariant ?_ ?_ NamedHandles.Kept.zero placed
  · intro state call next kept places stepped
    obtain ⟨reached, same, holds⟩ := namedMachine_step kept places
    rw [stepped] at same
    cases same
    exact holds
  · intro state call kept places
    obtain ⟨next, stepped, holds⟩ := namedMachine_step kept places
    exact ⟨next, stepped, holds.faithful⟩

/-- A client asks for the same display twice. -/
def displayTwice : List HandleCall :=
  [⟨1, 0, fun _ => true, .inr (.wlDisplayConnect 1 1 1 1)⟩,
    ⟨1, 0, fun _ => true, .inl (.eglGetDisplay 7)⟩,
    ⟨1, 0, fun _ => true, .inl (.eglGetDisplay 7)⟩]

theorem handles_faithful_one_display :
    namedMachine.Along (namedMachine.Ends NamedHandles.Faithful) NamedHandles.zero
      (displayTwice.take 2) := by
  refine handles_faithful ⟨⟨trivial, trivial⟩, fun connected taken => ?_⟩
  cases taken
  refine ⟨⟨trivial, fun _ => ?_⟩, fun _ _ => trivial⟩
  rw [if_neg (by decide)]
  unfold Fits Absent
  decide

theorem display_index_twice :
    ¬ namedMachine.Along (namedMachine.Ends NamedHandles.Faithful) NamedHandles.zero
      displayTwice := by
  intro along
  obtain ⟨_, later⟩ := along
  obtain ⟨_, later⟩ := later _ rfl
  obtain ⟨⟨next, taken, faithful⟩, -⟩ := later _ rfl
  cases taken
  have twice := faithful.displays
  have second := twice ⟨0, 7, 2⟩ (.head _)
  have first := twice ⟨0, 7, 1⟩ (.tail _ (.head _))
  exact absurd (first.unique second) (by decide)

end

end GlesBridge.Proxy
