import GlesBridge.Handles.Kept
import GlesBridge.Systems.Machine
import GlesBridge.Systems.Owners

namespace GlesBridge.Wayland

open GlesBridge.Proxy GlesBridge.Systems

/-! The displays of the proxy, from the connect to the disconnect: which thread uses them, and
what was made on them, in any order of commands and of events.
-/

structure DisplayWorld where
  tables : HandleTables
  seat : UInt32
  inputManager : UInt32
  /-- Each object, with the connection on which it was made. -/
  owners : Owners RealObject

inductive WlGlobal where
  | compositor
  | shell
  | webosShell
  | seat
  | inputManager
deriving DecidableEq, Repr

inductive DisplayInput where
  /-- `wl_dispatch_thread` before it waits -/
  | prepare
  | read
  | announce (global : WlGlobal) (pointer : UInt32)
  /-- `h_wl_roundtrip`, `h_wl_flush` and `h_wl_get_keymap` -/
  | collect
  /-- The globals are those that the compositor announces to a connect, null for none. -/
  | wl (command : WlCommand) (seat inputManager : UInt32)
  | egl (clientPid : Int32) (targetCtx : UInt32) (accepts : RealCurrent → Bool)
      (command : HandleCommand)

/-- What was really made. -/
def given (objects : List RealObject) : List RealObject :=
  objects.filter fun object => object.number != 0

namespace DisplayWorld

variable (world : DisplayWorld)

def current : RealObject := .wlDisplay world.tables.proxyWlDisplay

def bound (global : WlGlobal) (pointer : UInt32) : DisplayWorld :=
  match global with
  | .compositor => { world with tables := { world.tables with proxyWlCompositor := pointer } }
  | .shell => { world with tables := { world.tables with proxyWlShell := pointer } }
  | .webosShell => { world with tables := { world.tables with proxyWlWebosShell := pointer } }
  | .seat => { world with seat := pointer }
  | .inputManager => { world with inputManager := pointer }

def give (objects : List RealObject) (parent : RealObject) : DisplayWorld :=
  { world with owners := world.owners.give (given objects) (world.owners.home parent) }

/-- A connection has the address of no other one that is open. -/
def Fresh : WlCommand → Prop
  | .wlDisplayConnect display _ _ _ =>
      world.owners.home (.wlDisplay display) = 0 ∨ ¬ world.owners.Open (.wlDisplay display)
  | _ => True

instance decidableOpen (owners : Owners RealObject) (object : RealObject) :
    Decidable (owners.Open object) :=
  @instDecidableNot _ (List.instDecidableMemOfLawfulBEq ..)

instance decidableFresh (command : WlCommand) : Decidable (world.Fresh command) :=
  match command with
  | .wlDisplayConnect .. =>
      @instDecidableOr _ _ (Nat.decEq ..) (@instDecidableNot _ (decidableOpen ..))
  | .wlDisplayDisconnect _ | .wlCompositorCreateSurface _ | .wlSurfaceCommit _
  | .wlSurfaceDestroy _ | .wlWebosSetProperty _ | .wlShellGetShellSurface ..
  | .wlShellSurfaceSetToplevel _ | .wlWebosShellGetShellSurface .. | .wlProxyDestroy _
  | .wlWebosShellSurfaceSetState _ => isTrue trivial

/-- What is made with a connection. -/
def arrivals (display compositor shell webosShell seat inputManager : UInt32) : List RealObject :=
  given [.wlDisplay display, .wl compositor, .wl shell, .wl webosShell, .wl seat, .wl inputManager]

/-- A seat and an input manager that are not announced again are those of before. -/
def connected (display compositor shell webosShell seat inputManager : UInt32)
    (tables : HandleTables) : DisplayWorld :=
  if display = 0 then { world with tables }
  else
    { tables
      seat := if seat = 0 then world.seat else seat
      inputManager := if inputManager = 0 then world.inputManager else inputManager
      owners :=
        world.owners.start (arrivals display compositor shell webosShell seat inputManager) }

def disconnected (slot : UInt32) (tables : HandleTables) : DisplayWorld :=
  let display := HandleTables.pointerAt world.tables.displayTable slot
  if display = 0 then { world with tables }
  else { world with tables, owners := world.owners.finish (.wlDisplay display) }

/-- What a command of Wayland leaves, with the tables that its handler left. -/
def served (command : WlCommand) (seat inputManager : UInt32) (tables : HandleTables) :
    DisplayWorld :=
  match command with
  | .wlDisplayConnect display compositor shell webosShell =>
      world.connected display compositor shell webosShell seat inputManager tables
  | .wlDisplayDisconnect slot => world.disconnected slot tables
  | command => { world.give command.makes (command.madeOn world.tables) with tables }

def step : DisplayInput → Option DisplayWorld
  | .prepare | .read | .collect => some world
  | .announce global pointer => some ((world.give [.wl pointer] world.current).bound global pointer)
  | .wl command seat inputManager =>
      if world.Fresh command then
        match (Handler.wlDispatch command).run world.tables with
        | .ok (_, tables) => some (world.served command seat inputManager tables)
        | .error _ => none
      else none
  | .egl clientPid targetCtx accepts command =>
      match (Handler.dispatch clientPid targetCtx accepts command).run world.tables with
      | .ok (_, tables) =>
          some { world.give command.makes (command.madeOn world.tables) with tables }
      | .error _ => none

/-- What a step passes to Wayland and to EGL. -/
def uses : DisplayInput → List RealObject
  | .prepare | .read | .announce _ _ | .collect => [world.current]
  | .wl command _ _ => command.uses world.tables
  | .egl _ targetCtx _ command =>
      match command with
      | .eglMakeCurrent .. => command.uses world.tables
      | _ => world.tables.bindUses targetCtx ++ command.uses world.tables

/-- What the thread of Wayland passes on once the handler has changed the tables: the flush is
after every handler, and the end of `proxy_wayland_init` is what asks for the seat. -/
def usesAfter : DisplayInput → List RealObject
  | .wl (.wlDisplayConnect ..) _ _ =>
      if world.tables.proxyWlDisplay = 0 then []
      else if world.inputManager ≠ 0 ∧ world.seat ≠ 0 then
        [world.current, .wl world.inputManager, .wl world.seat]
      else [world.current]
  | .wl _ _ _ => [world.current]
  | _ => []

/-- Nothing is used whose connection is over, so that none is closed twice either. -/
def Right (input : DisplayInput) : Prop :=
  (∀ object ∈ world.uses input, world.owners.Open object) ∧
    ∀ next, world.step input = some next →
      ∀ object ∈ next.usesAfter input, next.owners.Open object

/-- The connection of the display has left nothing: it is not the current one, and neither EGL
nor a window nor the seat is of it. -/
structure Spare (display : UInt32) : Prop where
  other : display ≠ world.tables.proxyWlDisplay
  seat : world.owners.home (.wl world.seat) ≠ world.owners.home (.wlDisplay display)
  inputManager :
    world.owners.home (.wl world.inputManager) ≠ world.owners.home (.wlDisplay display)
  egl : world.tables.AllEgl fun object =>
    world.owners.home object ≠ world.owners.home (.wlDisplay display)

/-- A display is only closed when it is spare. -/
def Orderly : DisplayInput → Prop
  | .wl (.wlDisplayDisconnect slot) _ _ =>
      HandleTables.pointerAt world.tables.displayTable slot ≠ 0 →
        world.Spare (HandleTables.pointerAt world.tables.displayTable slot)
  | _ => True

end DisplayWorld

def displayMachine : Machine DisplayWorld DisplayInput where
  step := DisplayWorld.step

/-! ## The invariant -/

theorem mem_given {objects : List RealObject} {object : RealObject} :
    object ∈ given objects ↔ object ∈ objects ∧ object.number ≠ 0 := by
  rw [given, List.mem_filter, bne_iff_ne]

namespace DisplayWorld

variable {world next : DisplayWorld}

/-- A proxy that the tables hold is one of the current connection, or null. -/
def Present (world : DisplayWorld) (pointer : UInt32) : Prop :=
  world.owners.home (.wl pointer) = 0 ∨
    world.owners.home (.wl pointer) = world.owners.home world.current

section

variable {objects : List RealObject} {parent : RealObject}

/-- No display is made apart from a connect. -/
theorem home_give_display (others : ∀ pointer, .wlDisplay pointer ∉ objects) (pointer : UInt32) :
    (world.give objects parent).owners.home (.wlDisplay pointer) =
      world.owners.home (.wlDisplay pointer) :=
  Owners.home_give_of_not_mem fun member => others pointer (mem_given.mp member).1

theorem present_made {pointer : UInt32} (others : ∀ pointer, .wlDisplay pointer ∉ objects)
    (present : world.owners.home parent = 0 ∨
      world.owners.home parent = world.owners.home world.current)
    (made : RealObject.wl pointer ∈ given objects) : (world.give objects parent).Present pointer := by
  have home : (world.give objects parent).owners.home (.wl pointer) = world.owners.home parent :=
    Owners.home_give_of_mem made
  have current : (world.give objects parent).owners.home (world.give objects parent).current =
      world.owners.home world.current := home_give_display others _
  rw [Present, home, current]
  exact present

theorem present_kept {pointer : UInt32} (others : ∀ pointer, .wlDisplay pointer ∉ objects)
    (before : world.Present pointer) (other : RealObject.wl pointer ∉ given objects) :
    (world.give objects parent).Present pointer := by
  have home : (world.give objects parent).owners.home (.wl pointer) =
      world.owners.home (.wl pointer) := Owners.home_give_of_not_mem other
  have current : (world.give objects parent).owners.home (world.give objects parent).current =
      world.owners.home world.current := home_give_display others _
  rw [Present, home, current]
  exact before

end

structure Sound (world : DisplayWorld) : Prop where
  numbered : world.owners.Numbered
  null : ∀ object : RealObject, object.number = 0 → world.owners.home object = 0
  apart : ∀ one other, world.owners.home (.wlDisplay one) = world.owners.home (.wlDisplay other) →
    world.owners.home (.wlDisplay one) ≠ 0 → one = other
  entered : ∀ slot, world.tables.displayTable slot ≠ 0 →
    world.owners.home (.wlDisplay (world.tables.displayTable slot)) ≠ 0
  slots : ∀ slot other, world.tables.displayTable slot = world.tables.displayTable other →
    world.tables.displayTable slot ≠ 0 → slot = other
  displays : ∀ slot, world.owners.Open (.wlDisplay (world.tables.displayTable slot))
  current : world.owners.Open world.current
  proxies : world.tables.AllWl world.Present
  seat : world.owners.Open (.wl world.seat)
  inputManager : world.owners.Open (.wl world.inputManager)
  egl : world.tables.AllEgl world.owners.Open

namespace Sound

theorem null_open (sound : world.Sound) (object : RealObject) (null : object.number = 0) :
    world.owners.Open object := by
  rw [Owners.Open, sound.null object null]
  exact sound.numbered.zero_open

theorem present_open (sound : world.Sound) {pointer : UInt32} (present : world.Present pointer) :
    world.owners.Open (.wl pointer) := by
  rcases present with never | current
  · rw [Owners.Open, never]
    exact sound.numbered.zero_open
  · rw [Owners.Open, current]
    exact sound.current

theorem proxies_open (sound : world.Sound) :
    world.tables.AllWl fun pointer => world.owners.Open (.wl pointer) :=
  sound.proxies.mono fun _ => sound.present_open

theorem uses_open (sound : world.Sound) (input : DisplayInput) :
    ∀ object ∈ world.uses input, world.owners.Open object := by
  have current : ∀ object ∈ [world.current], world.owners.Open object :=
    fun object member => List.mem_singleton.mp member ▸ sound.current
  have handled (command : HandleCommand) :
      ∀ object ∈ command.uses world.tables, world.owners.Open object :=
    all_uses sound.egl sound.proxies_open.surfs sound.current sound.null_open
  cases input with
  | prepare | read | announce global pointer | collect => exact current
  | wl command seat inputManager =>
      exact all_wlUses sound.proxies_open sound.current sound.displays sound.null_open
  | egl clientPid targetCtx accepts command =>
      have both : ∀ object ∈ world.tables.bindUses targetCtx ++ command.uses world.tables,
          world.owners.Open object := fun object member =>
        (List.mem_append.mp member).elim (all_bindUses sound.egl object) (handled command object)
      cases command with
      | eglMakeCurrent display draw read context =>
          exact handled (.eglMakeCurrent display draw read context)
      | _ => exact both

theorem usesAfter_open (sound : world.Sound) (input : DisplayInput) :
    ∀ object ∈ world.usesAfter input, world.owners.Open object := by
  have current : ∀ object ∈ [world.current], world.owners.Open object :=
    fun object member => List.mem_singleton.mp member ▸ sound.current
  cases input with
  | wl command seat inputManager =>
      cases command with
      | wlDisplayConnect display compositor shell webosShell =>
          rw [usesAfter]
          split
          · nofun
          · split
            · simp [sound.current, sound.seat, sound.inputManager]
            · exact current
      | _ => exact current
  | _ => nofun

/-- What is made is of the connection of its parent. -/
theorem give {objects : List RealObject} {parent : RealObject} (sound : world.Sound)
    (fits : world.owners.Open parent) (others : ∀ pointer, .wlDisplay pointer ∉ objects)
    (present : ∀ pointer, .wl pointer ∈ objects → world.owners.home parent = 0 ∨
      world.owners.home parent = world.owners.home world.current) :
    (world.give objects parent).Sound := by
  have displays (pointer : UInt32) : (world.give objects parent).owners.home (.wlDisplay pointer) =
      world.owners.home (.wlDisplay pointer) := home_give_display others pointer
  have opens {object : RealObject} (was : world.owners.Open object) :
      (world.give objects parent).owners.Open object := was.give fits
  constructor
  case numbered => exact sound.numbered.give (sound.numbered.home parent)
  case null =>
    intro object null
    have never : object ∉ given objects := fun member => (mem_given.mp member).2 null
    exact (Owners.home_give_of_not_mem never).trans (sound.null object null)
  case apart =>
    intro one other
    rw [displays, displays]
    exact sound.apart one other
  case entered =>
    intro slot
    rw [displays]
    exact sound.entered slot
  case slots => exact sound.slots
  case displays => exact fun slot => opens (sound.displays slot)
  case current => exact opens sound.current
  case proxies =>
    refine sound.proxies.mono fun pointer before => ?_
    by_cases made : RealObject.wl pointer ∈ given objects
    · exact present_made others (present pointer (mem_given.mp made).1) made
    · exact present_kept others before made
  case seat => exact opens sound.seat
  case inputManager => exact opens sound.inputManager
  case egl => exact sound.egl.mono fun _ => opens

/-- The displays stay where they are. -/
theorem tables_changed {tables : HandleTables} (sound : world.Sound)
    (table : tables.displayTable = world.tables.displayTable)
    (display : tables.proxyWlDisplay = world.tables.proxyWlDisplay)
    (proxies : tables.AllWl world.Present) (egl : tables.AllEgl world.owners.Open) :
    Sound { world with tables } := by
  have current : ({ world with tables } : DisplayWorld).current = world.current :=
    congrArg RealObject.wlDisplay display
  constructor
  case numbered => exact sound.numbered
  case null => exact sound.null
  case apart => exact sound.apart
  case entered => exact table ▸ sound.entered
  case slots => exact table ▸ sound.slots
  case displays => exact table ▸ sound.displays
  case current => exact current ▸ sound.current
  case proxies =>
    refine proxies.mono fun pointer present => ?_
    rw [Present, current]
    exact present
  case seat => exact sound.seat
  case inputManager => exact sound.inputManager
  case egl => exact egl

/-- The main thread. -/
theorem egl_served {clientPid : Int32} {targetCtx : UInt32} {accepts : RealCurrent → Bool}
    {command : HandleCommand} {reply : HandleReply} {tables : HandleTables} (sound : world.Sound)
    (runs : (Handler.dispatch clientPid targetCtx accepts command).run world.tables =
      .ok (reply, tables)) :
    Sound { world.give command.makes (command.madeOn world.tables) with tables } := by
  have parent : world.owners.Open (command.madeOn world.tables) :=
    all_madeOn sound.egl sound.proxies_open.surfs sound.current sound.null_open
  have given : (world.give command.makes (command.madeOn world.tables)).Sound := by
    apply sound.give parent
    · intro pointer
      cases command with
      | _ => simp [HandleCommand.makes]
    · intro pointer
      cases command with
      | _ => simp [HandleCommand.makes]
  have made : ∀ object ∈ command.makes,
      (world.give command.makes (command.madeOn world.tables)).owners.Open object := by
    intro object member
    by_cases null : object.number = 0
    · exact given.null_open object null
    · exact Owners.open_give_of_mem (mem_given.mpr ⟨member, null⟩) parent
  obtain ⟨all, same⟩ := Handler.keeps_dispatch given.egl given.null_open made reply tables runs
  have proxies : tables.AllWl (world.give command.makes (command.madeOn world.tables)).Present :=
    given.proxies.same same
  obtain ⟨-, -, -, table, display, -, -, -⟩ := same
  exact given.tables_changed table display proxies all

/-- The other thread, apart from the two commands for displays. -/
theorem wl_served {command : WlCommand} {reply : HandleReply} {tables : HandleTables}
    (sound : world.Sound)
    (connects : ∀ display compositor shell webosShell,
      command ≠ .wlDisplayConnect display compositor shell webosShell)
    (disconnects : ∀ slot, command ≠ .wlDisplayDisconnect slot)
    (runs : (Handler.wlDispatch command).run world.tables = .ok (reply, tables)) :
    Sound { world.give command.makes (command.madeOn world.tables) with tables } := by
  have never : world.Present 0 := .inl (sound.null _ rfl)
  have present : world.owners.home (command.madeOn world.tables) = 0 ∨
      world.owners.home (command.madeOn world.tables) = world.owners.home world.current := by
    cases command with
    | wlCompositorCreateSurface surf => exact sound.proxies.compositor
    | wlShellGetShellSurface slot shellSurface => exact sound.proxies.shell
    | wlWebosShellGetShellSurface slot wss => exact sound.proxies.webosShell
    | _ => exact .inl (sound.null _ rfl)
  have parent : world.owners.Open (command.madeOn world.tables) := by
    rcases present with none | current
    · rw [Owners.Open, none]
      exact sound.numbered.zero_open
    · rw [Owners.Open, current]
      exact sound.current
  have others : ∀ pointer, .wlDisplay pointer ∉ command.makes := by
    intro pointer
    cases command with
    | _ => simp [WlCommand.makes]
  have given : (world.give command.makes (command.madeOn world.tables)).Sound :=
    sound.give parent others fun _ _ => present
  have made : ∀ pointer, .wl pointer ∈ command.makes →
      (world.give command.makes (command.madeOn world.tables)).Present pointer := by
    intro pointer member
    by_cases null : pointer = 0
    · exact .inl (given.null _ null)
    · exact present_made others present (mem_given.mpr ⟨member, null⟩)
  have none : (world.give command.makes (command.madeOn world.tables)).Present 0 :=
    .inl (given.null _ rfl)
  obtain ⟨proxies, same⟩ :=
    Handler.keepsWl_wlDispatch given.proxies none made connects disconnects reply tables runs
  have all := given.egl.same same
  obtain ⟨-, -, -, -, -, -, table, display⟩ := same
  exact given.tables_changed table display proxies all

/-! ### Connects -/

section

variable {display compositor shell webosShell seat inputManager : UInt32}

/-- `proxy_wayland_init` where Wayland cannot be reached. -/
theorem run_connect_null {tables after : HandleTables} {reply : HandleReply}
    (runs : (Handler.hWlDisplayConnect 0 compositor shell webosShell).run tables =
      .ok (reply, after)) :
    after = { tables with
      gSurfs := fun _ => 0
      gShellSurfs := fun _ => 0
      gWebosShellSurfaces := fun _ => 0
      gSurfNext := 1
      proxyWlDisplay := 0
      proxyWlCompositor := 0
      proxyWlShell := 0
      proxyWlWebosShell := 0 } := by
  cases runs
  rfl

theorem run_connect_made {tables after : HandleTables} {reply : HandleReply} (made : display ≠ 0)
    (runs : (Handler.hWlDisplayConnect display compositor shell webosShell).run tables =
      .ok (reply, after)) :
    after = { tables with
      gSurfs := fun _ => 0
      gShellSurfs := fun _ => 0
      gWebosShellSurfaces := fun _ => 0
      gSurfNext := 1
      displayTable :=
        Function.update tables.displayTable (Handler.allocSlot tables.displayTable) display
      proxyWlDisplay := display
      proxyWlCompositor := compositor
      proxyWlShell := shell
      proxyWlWebosShell := webosShell } := by
  have ensures : (Handler.hWlDisplayConnect display compositor shell webosShell).Ensures
      (fun _ reached => reached = { tables with
        gSurfs := fun _ => 0
        gShellSurfs := fun _ => 0
        gWebosShellSurfaces := fun _ => 0
        gSurfNext := 1
        displayTable :=
          Function.update tables.displayTable (Handler.allocSlot tables.displayTable) display
        proxyWlDisplay := display
        proxyWlCompositor := compositor
        proxyWlShell := shell
        proxyWlWebosShell := webosShell }) tables := by
    unfold Handler.hWlDisplayConnect
    simp [made]
  exact ensures reply after runs

variable {pointer : UInt32}

theorem home_arrival (made : display ≠ 0) :
    (world.owners.start
      (arrivals display compositor shell webosShell seat inputManager)).home (.wlDisplay display) =
      world.owners.begun + 1 :=
  Owners.home_start_of_mem (mem_given.mpr ⟨List.mem_cons_self, made⟩)

theorem home_start_display (apart : pointer ≠ display) :
    (world.owners.start
      (arrivals display compositor shell webosShell seat inputManager)).home (.wlDisplay pointer) =
      world.owners.home (.wlDisplay pointer) := by
  apply Owners.home_start_of_not_mem
  intro member
  have inside := (mem_given.mp member).1
  simp [apart] at inside

theorem home_start_null (sound : world.Sound) {object : RealObject} (none : object.number = 0) :
    (world.owners.start
      (arrivals display compositor shell webosShell seat inputManager)).home object = 0 := by
  have never : object ∉ arrivals display compositor shell webosShell seat inputManager :=
    fun member => (mem_given.mp member).2 none
  exact (Owners.home_start_of_not_mem never).trans (sound.null object none)

/-- A global is one of the new connection, or none. -/
theorem home_start_global (sound : world.Sound)
    (global : pointer = compositor ∨ pointer = shell ∨ pointer = webosShell ∨ pointer = seat ∨
      pointer = inputManager) :
    (world.owners.start
        (arrivals display compositor shell webosShell seat inputManager)).home (.wl pointer) = 0 ∨
      (world.owners.start
        (arrivals display compositor shell webosShell seat inputManager)).home (.wl pointer) =
        world.owners.begun + 1 := by
  by_cases none : pointer = 0
  · exact .inl (home_start_null sound none)
  · have inside : RealObject.wl pointer ∈ [RealObject.wlDisplay display, .wl compositor,
        .wl shell, .wl webosShell, .wl seat, .wl inputManager] := by simpa using global
    exact .inr (Owners.home_start_of_mem (mem_given.mpr ⟨inside, none⟩))

theorem open_start_global (sound : world.Sound)
    (global : pointer = compositor ∨ pointer = shell ∨ pointer = webosShell ∨ pointer = seat ∨
      pointer = inputManager) :
    (world.owners.start
      (arrivals display compositor shell webosShell seat inputManager)).Open (.wl pointer) := by
  rcases home_start_global sound global with none | current
  · rw [Owners.Open, none]
    exact sound.numbered.zero_open
  · rw [Owners.Open, current]
    exact sound.numbered.next_open

/-- A display that is in the table is open, and no new one is at its address. -/
theorem absent_of_fresh (sound : world.Sound) (made : display ≠ 0)
    (fresh : world.Fresh (.wlDisplayConnect display compositor shell webosShell))
    (slot : Fin eglBridgeMaxDisplays) : world.tables.displayTable slot ≠ display := by
  rintro rfl
  rcases fresh with never | closed
  · exact sound.entered slot made never
  · exact closed (sound.displays slot)

/-- Each display that begins has a number of its own. -/
theorem apart_start (sound : world.Sound) (made : display ≠ 0) (one other : UInt32)
    (same : (world.owners.start
        (arrivals display compositor shell webosShell seat inputManager)).home (.wlDisplay one) =
      (world.owners.start
        (arrivals display compositor shell webosShell seat inputManager)).home (.wlDisplay other))
    (some : (world.owners.start (arrivals display compositor shell webosShell seat
      inputManager)).home (.wlDisplay one) ≠ 0) : one = other := by
  have below (pointer : UInt32) : world.owners.home (.wlDisplay pointer) ≠ world.owners.begun + 1 :=
    Nat.ne_of_lt (Nat.lt_succ_of_le (sound.numbered.home _))
  by_cases first : one = display
  · by_cases second : other = display
    · rw [first, second]
    · rw [first, home_arrival made, home_start_display second] at same
      exact absurd same.symm (below other)
  · rw [home_start_display first] at same some
    by_cases second : other = display
    · rw [second, home_arrival made] at same
      exact absurd same (below one)
    · rw [home_start_display second] at same
      exact sound.apart one other same some

/-- The new connection has no part in those before. -/
theorem connected_made {tables : HandleTables} {reply : HandleReply} (sound : world.Sound)
    (fresh : world.Fresh (.wlDisplayConnect display compositor shell webosShell))
    (made : display ≠ 0)
    (runs : (Handler.hWlDisplayConnect display compositor shell webosShell).run world.tables =
      .ok (reply, tables)) :
    (world.connected display compositor shell webosShell seat inputManager tables).Sound := by
  have absent := sound.absent_of_fresh made fresh
  have opens {object : RealObject} (was : world.owners.Open object) :
      (world.owners.start
        (arrivals display compositor shell webosShell seat inputManager)).Open object :=
    was.start sound.numbered
  have late : (world.owners.start (arrivals display compositor shell webosShell seat
      inputManager)).Open (.wlDisplay display) := by
    rw [Owners.Open, home_arrival made]
    exact sound.numbered.next_open
  rw [connected, if_neg made]
  cases run_connect_made made runs
  constructor
  case numbered => exact sound.numbered.start
  case null => exact fun object none => home_start_null sound none
  case apart => exact sound.apart_start made
  case entered =>
    intro slot
    dsimp only
    by_cases same : slot = Handler.allocSlot world.tables.displayTable
    · rw [same, Function.update_self, home_arrival made]
      exact fun _ => Nat.succ_ne_zero _
    · rw [Function.update_of_ne same, home_start_display (absent slot)]
      exact sound.entered slot
  case slots =>
    intro slot other
    dsimp only
    by_cases first : slot = Handler.allocSlot world.tables.displayTable
    · by_cases second : other = Handler.allocSlot world.tables.displayTable
      · exact fun _ _ => first.trans second.symm
      · rw [first, Function.update_self, Function.update_of_ne second]
        exact fun same => absurd same.symm (absent other)
    · rw [Function.update_of_ne first]
      by_cases second : other = Handler.allocSlot world.tables.displayTable
      · rw [second, Function.update_self]
        exact fun same => absurd same (absent slot)
      · rw [Function.update_of_ne second]
        exact sound.slots slot other
  case displays =>
    intro slot
    dsimp only
    by_cases same : slot = Handler.allocSlot world.tables.displayTable
    · rw [same, Function.update_self]
      exact late
    · rw [Function.update_of_ne same]
      exact opens (sound.displays slot)
  case current => exact late
  case proxies =>
    have present {pointer : UInt32} (global : pointer = compositor ∨ pointer = shell ∨
        pointer = webosShell ∨ pointer = seat ∨ pointer = inputManager) :
        (world.owners.start (arrivals display compositor shell webosShell seat
            inputManager)).home (.wl pointer) = 0 ∨
          (world.owners.start (arrivals display compositor shell webosShell seat
            inputManager)).home (.wl pointer) =
          (world.owners.start (arrivals display compositor shell webosShell seat
            inputManager)).home (.wlDisplay display) :=
      (home_start_global sound global).imp_right fun number => number.trans (home_arrival made).symm
    constructor
    case compositor => exact present (.inl rfl)
    case shell => exact present (.inr (.inl rfl))
    case webosShell => exact present (.inr (.inr (.inl rfl)))
    case surfs | shellSurfs | webosShellSurfaces => exact fun _ => .inl (home_start_null sound rfl)
  case seat =>
    dsimp only
    split
    · exact opens sound.seat
    · exact open_start_global sound (by simp)
  case inputManager =>
    dsimp only
    split
    · exact opens sound.inputManager
    · exact open_start_global sound (by simp)
  case egl => exact { sound.egl.mono fun _ => opens with }

theorem connected_null {tables : HandleTables} {reply : HandleReply} (sound : world.Sound)
    (runs : (Handler.hWlDisplayConnect 0 compositor shell webosShell).run world.tables =
      .ok (reply, tables)) :
    (world.connected 0 compositor shell webosShell seat inputManager tables).Sound := by
  rw [connected, if_pos rfl]
  cases run_connect_null runs
  constructor
  case numbered => exact sound.numbered
  case null => exact sound.null
  case apart => exact sound.apart
  case entered => exact sound.entered
  case slots => exact sound.slots
  case displays => exact sound.displays
  case current => exact sound.null_open _ rfl
  case proxies =>
    constructor
    case compositor | shell | webosShell => exact .inl (sound.null _ rfl)
    case surfs | shellSurfs | webosShellSurfaces => exact fun _ => .inl (sound.null _ rfl)
  case seat => exact sound.seat
  case inputManager => exact sound.inputManager
  case egl => exact { sound.egl with }

/-- Everything that is open stays so, apart from what belongs to the display. -/
theorem finished {place : Fin eglBridgeMaxDisplays} (sound : world.Sound)
    (spare : world.Spare (world.tables.displayTable place))
    (some : world.tables.displayTable place ≠ 0) :
    Sound { world with
      tables := { world.tables with
        displayTable := Function.update world.tables.displayTable place 0 }
      owners := world.owners.finish (.wlDisplay (world.tables.displayTable place)) } := by
  have home := sound.entered place some
  have opens {object : RealObject} (was : world.owners.Open object)
      (apart : world.owners.home object ≠
        world.owners.home (.wlDisplay (world.tables.displayTable place))) :
      (world.owners.finish (.wlDisplay (world.tables.displayTable place))).Open object :=
    Owners.open_finish_iff.mpr ⟨apart, was⟩
  have display {pointer : UInt32} (was : world.owners.Open (.wlDisplay pointer))
      (apart : pointer ≠ world.tables.displayTable place) :
      (world.owners.finish (.wlDisplay (world.tables.displayTable place))).Open
        (.wlDisplay pointer) :=
    opens was fun same => apart (sound.apart _ _ same.symm home).symm
  constructor
  case numbered => exact sound.numbered.finish (Nat.pos_of_ne_zero home)
  case null => exact sound.null
  case apart => exact sound.apart
  case entered =>
    intro slot
    dsimp only
    by_cases same : slot = place
    · rw [same, Function.update_self]
      exact fun none => absurd rfl none
    · rw [Function.update_of_ne same]
      exact sound.entered slot
  case slots =>
    intro slot other
    dsimp only
    by_cases first : slot = place
    · rw [first, Function.update_self]
      exact fun _ none => absurd rfl none
    · rw [Function.update_of_ne first]
      by_cases second : other = place
      · rw [second, Function.update_self]
        exact fun none full => absurd none full
      · rw [Function.update_of_ne second]
        exact sound.slots slot other
  case displays =>
    intro slot
    dsimp only
    by_cases same : slot = place
    · rw [same, Function.update_self]
      exact display (sound.null_open _ rfl) some.symm
    · rw [Function.update_of_ne same]
      apply display (sound.displays slot)
      intro equal
      exact same (sound.slots slot place equal (equal ▸ some))
  case current => exact display sound.current spare.other.symm
  case proxies => exact { sound.proxies with }
  case seat => exact opens sound.seat spare.seat
  case inputManager => exact opens sound.inputManager spare.inputManager
  case egl =>
    have all := spare.egl.and sound.egl
    exact { all.mono fun object both => opens both.2 both.1 with }

theorem run_disconnect {slot : UInt32} {tables after : HandleTables} {reply : HandleReply}
    (runs : (Handler.hWlDisplayDisconnect slot).run tables = .ok (reply, after)) :
    ∃ inside : slot.toNat < eglBridgeMaxDisplays,
      (tables.displayTable ⟨slot.toNat, inside⟩ = 0 ∧ after = tables) ∨
      (tables.displayTable ⟨slot.toNat, inside⟩ ≠ 0 ∧ after = { tables with
        displayTable := Function.update tables.displayTable ⟨slot.toNat, inside⟩ 0 }) := by
  have ensures : (Handler.hWlDisplayDisconnect slot).Ensures (fun _ reached =>
      ∃ inside : slot.toNat < eglBridgeMaxDisplays,
        (tables.displayTable ⟨slot.toNat, inside⟩ = 0 ∧ reached = tables) ∨
        (tables.displayTable ⟨slot.toNat, inside⟩ ≠ 0 ∧ reached = { tables with
          displayTable := Function.update tables.displayTable ⟨slot.toNat, inside⟩ 0 }))
      tables := by
    unfold Handler.hWlDisplayDisconnect
    simp only [Checked.ensures_bind, Handler.ensures_index, Checked.ensures_get,
      Checked.ensures_modify, Checked.ensures_ite, Checked.ensures_pure]
    exact fun below => ⟨fun full => ⟨below, .inr ⟨full, trivial⟩⟩,
      fun empty => ⟨below, .inl ⟨not_not.mp empty, trivial⟩⟩⟩
  exact ensures reply after runs

/-- A connection that has left nothing can end. -/
theorem disconnected {slot : UInt32} {tables : HandleTables} {reply : HandleReply}
    (sound : world.Sound)
    (spare : HandleTables.pointerAt world.tables.displayTable slot ≠ 0 →
      world.Spare (HandleTables.pointerAt world.tables.displayTable slot))
    (runs : (Handler.hWlDisplayDisconnect slot).run world.tables = .ok (reply, tables)) :
    (world.disconnected slot tables).Sound := by
  obtain ⟨inside, ends⟩ := run_disconnect runs
  have entry : HandleTables.pointerAt world.tables.displayTable slot =
      world.tables.displayTable ⟨slot.toNat, inside⟩ := dif_pos inside
  rw [entry] at spare
  rw [DisplayWorld.disconnected, entry]
  rcases ends with ⟨empty, rfl⟩ | ⟨full, rfl⟩
  · rw [if_pos empty]
    exact sound
  · rw [if_neg full]
    exact sound.finished (spare full) full

end

theorem announced {global : WlGlobal} {pointer : UInt32} (sound : world.Sound) :
    ((world.give [.wl pointer] world.current).bound global pointer).Sound := by
  have others : ∀ other, RealObject.wlDisplay other ∉ [RealObject.wl pointer] := by simp
  have given : (world.give [.wl pointer] world.current).Sound :=
    sound.give sound.current others fun _ _ => .inr rfl
  have present : (world.give [.wl pointer] world.current).Present pointer := by
    by_cases null : pointer = 0
    · exact .inl (given.null _ null)
    · exact present_made others (.inr rfl) (mem_given.mpr ⟨List.mem_singleton_self _, null⟩)
  cases global with
  | compositor =>
      exact given.tables_changed rfl rfl { given.proxies with compositor := present }
        { given.egl with }
  | shell =>
      exact given.tables_changed rfl rfl { given.proxies with shell := present } { given.egl with }
  | webosShell =>
      exact given.tables_changed rfl rfl { given.proxies with webosShell := present }
        { given.egl with }
  | seat => exact { given with seat := given.present_open present }
  | inputManager => exact { given with inputManager := given.present_open present }

end Sound

/-- A step from a sound state under the condition. -/
theorem sound_step {input : DisplayInput} (sound : world.Sound) (orderly : world.Orderly input)
    (stepped : displayMachine.step world input = some next) : next.Sound := by
  change world.step input = some next at stepped
  cases input with
  | prepare | read | collect =>
      cases stepped
      exact sound
  | announce global pointer =>
      cases stepped
      exact sound.announced
  | egl clientPid targetCtx accepts command =>
      rw [step] at stepped
      split at stepped
      · cases stepped
        exact sound.egl_served ‹_›
      · cases stepped
  | wl command seat inputManager =>
      rw [step] at stepped
      split at stepped
      · rename_i fresh
        split at stepped
        · rename_i reply tables runs
          cases stepped
          cases command with
          | wlDisplayConnect display compositor shell webosShell =>
              by_cases made : display = 0
              · subst made
                exact sound.connected_null runs
              · exact sound.connected_made fresh made runs
          | wlDisplayDisconnect slot => exact sound.disconnected orderly runs
          | _ => exact sound.wl_served nofun nofun runs
        · cases stepped
      · cases stepped

theorem Sound.right {input : DisplayInput} (sound : world.Sound) (orderly : world.Orderly input) :
    world.Right input :=
  ⟨sound.uses_open input, fun _ stepped => (sound_step sound orderly stepped).usesAfter_open input⟩

end DisplayWorld

/-! ## Runs -/

/-- The proxy before the first command. -/
def DisplayWorld.zero : DisplayWorld where
  tables := .zero
  seat := 0
  inputManager := 0
  owners := { home := fun _ => 0, begun := 0, ended := [] }

theorem DisplayWorld.Sound.zero : DisplayWorld.zero.Sound := by
  have opens (object : RealObject) : DisplayWorld.zero.owners.Open object := List.not_mem_nil
  constructor
  case numbered => exact ⟨fun _ => Nat.le_refl 0, nofun⟩
  case null => exact fun _ _ => rfl
  case apart => exact fun _ _ _ full => absurd rfl full
  case entered => exact fun _ full => absurd rfl full
  case slots => exact fun _ _ _ full => absurd rfl full
  case displays => exact fun _ => opens _
  case current => exact opens _
  case proxies => exact ⟨.inl rfl, .inl rfl, .inl rfl, fun _ => .inl rfl, fun _ => .inl rfl,
    fun _ => .inl rfl⟩
  case seat => exact opens _
  case inputManager => exact opens _
  case egl => exact ⟨fun _ => opens _, fun _ => opens _, fun _ => opens _, fun _ => opens _,
    fun _ => ⟨opens _, opens _, opens _⟩, fun _ => opens _⟩

/-- No step uses a display that was closed, or what was made on it, and none is closed twice, in
a run in which a display is only closed once another one is the current one and nothing of EGL,
no window and no seat is left of it. -/
theorem open_of_orderly {inputs : List DisplayInput}
    (orderly : displayMachine.Along DisplayWorld.Orderly .zero inputs) :
    displayMachine.Along DisplayWorld.Right .zero inputs :=
  Machine.Along.of_invariant DisplayWorld.sound_step
    (fun sound allowed => sound.right allowed) DisplayWorld.Sound.zero orderly

instance decidableAllEgl (tables : HandleTables) (holds : RealObject → Prop)
    [each : ∀ object, Decidable (holds object)] : Decidable (tables.AllEgl holds) :=
  @decidable_of_iff _
    ((∀ e, holds (.eglDisplay (handles tables.eglDisplays e))) ∧
      (∀ e, holds (.eglConfig (handles tables.eglConfigs e))) ∧
      (∀ e, holds (.eglContext (handles tables.eglContexts e))) ∧
      (∀ e, holds (.eglSurface (handles tables.eglSurfaces e))) ∧
      (∀ i, holds (.eglDisplay (tables.gCtxBindings i).dpy) ∧
        holds (.eglSurface (tables.gCtxBindings i).draw) ∧
        holds (.eglSurface (tables.gCtxBindings i).read)) ∧
      ∀ slot, holds (.window (tables.proxyWlEglWindows slot)))
    ⟨fun ⟨displays, configs, contexts, surfaces, bindings, windows⟩ =>
        ⟨displays, configs, contexts, surfaces, bindings, windows⟩,
      fun all => ⟨all.displays, all.configs, all.contexts, all.surfaces, all.bindings,
        all.windows⟩⟩
    (@instDecidableAnd _ _ (@Nat.decidableForallFin _ _ fun _ => each _)
      (@instDecidableAnd _ _ (@Nat.decidableForallFin _ _ fun _ => each _)
        (@instDecidableAnd _ _ (@Nat.decidableForallFin _ _ fun _ => each _)
          (@instDecidableAnd _ _ (@Nat.decidableForallFin _ _ fun _ => each _)
            (@instDecidableAnd _ _
              (@Nat.decidableForallFin _ _ fun _ =>
                @instDecidableAnd _ _ (each _) (@instDecidableAnd _ _ (each _) (each _)))
              (@Nat.decidableForallFin _ _ fun _ => each _))))))

instance decidableSpare (world : DisplayWorld) (display : UInt32) :
    Decidable (world.Spare display) :=
  @decidable_of_iff _
    (display ≠ world.tables.proxyWlDisplay ∧
      world.owners.home (.wl world.seat) ≠ world.owners.home (.wlDisplay display) ∧
      world.owners.home (.wl world.inputManager) ≠ world.owners.home (.wlDisplay display) ∧
      world.tables.AllEgl fun object =>
        world.owners.home object ≠ world.owners.home (.wlDisplay display))
    ⟨fun ⟨other, seat, inputManager, egl⟩ => ⟨other, seat, inputManager, egl⟩,
      fun spare => ⟨spare.other, spare.seat, spare.inputManager, spare.egl⟩⟩
    (@instDecidableAnd _ _ instDecidableNot
      (@instDecidableAnd _ _ instDecidableNot
        (@instDecidableAnd _ _ instDecidableNot
          (@decidableAllEgl _ _ fun _ => instDecidableNot))))

instance decidableOrderlyDisplay (world : DisplayWorld) (input : DisplayInput) :
    Decidable (world.Orderly input) :=
  match input with
  | .wl (.wlDisplayDisconnect _) _ _ =>
      @instDecidableForall _ _ instDecidableNot (decidableSpare ..)
  | .wl (.wlDisplayConnect ..) _ _ | .wl (.wlCompositorCreateSurface _) _ _
  | .wl (.wlSurfaceCommit _) _ _ | .wl (.wlSurfaceDestroy _) _ _
  | .wl (.wlWebosSetProperty _) _ _ | .wl (.wlShellGetShellSurface ..) _ _
  | .wl (.wlShellSurfaceSetToplevel _) _ _ | .wl (.wlWebosShellGetShellSurface ..) _ _
  | .wl (.wlProxyDestroy _) _ _ | .wl (.wlWebosShellSurfaceSetState _) _ _
  | .prepare | .read | .collect | .announce .. | .egl .. => isTrue trivial

/-! ## Runs of one client -/

/-- A second connection, and the end of the first. -/
theorem open_second_connection :
    displayMachine.Along DisplayWorld.Right .zero
      [.wl (.wlDisplayConnect 1 2 3 4) 5 6, .prepare, .wl (.wlDisplayConnect 11 12 13 14) 15 16,
        .wl (.wlDisplayDisconnect 1) 0 0, .prepare, .read,
        .egl 7 0 (fun _ => true) (.eglGetDisplay 21), .wl (.wlCompositorCreateSurface 22) 0 0] :=
  open_of_orderly (by decide +kernel)

/-- The display of the only connection. -/
def onlyConnection : DisplayWorld :=
  (displayMachine.run .zero [.wl (.wlDisplayConnect 1 2 3 4) 5 6]).get (by decide +kernel)

/-- It is closed, and it is still the current one. -/
def afterDisconnect : DisplayWorld :=
  (onlyConnection.step (.wl (.wlDisplayDisconnect 1) 0 0)).get (by decide +kernel)

/-- The closed display is flushed right away. -/
theorem flushed_after_disconnect :
    displayMachine.run .zero [.wl (.wlDisplayConnect 1 2 3 4) 5 6] = some onlyConnection ∧
      ¬ onlyConnection.Right (.wl (.wlDisplayDisconnect 1) 0 0) := by
  refine ⟨(Option.some_get _).symm, fun right => ?_⟩
  have stepped : onlyConnection.step (.wl (.wlDisplayDisconnect 1) 0 0) = some afterDisconnect :=
    (Option.some_get _).symm
  have flushed := right.2 afterDisconnect stepped (.wlDisplay 1) (by decide +kernel)
  revert flushed
  decide +kernel

end GlesBridge.Wayland
