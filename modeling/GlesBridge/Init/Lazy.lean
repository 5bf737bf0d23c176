import GlesBridge.Systems.Transition
import Mathlib.Logic.Function.Basic

namespace GlesBridge.Init

open GlesBridge.Systems

/-! Lazy initialisation of the bridge.

The first call of any thread runs `bridge_init`. GL and EGL calls come through
`bridge_begin` under `g_lock`, Wayland calls through `wl_bridge_begin` under
`g_wl.lock`; both test the same `g_ring`.
-/

inductive Side where
  | gl
  | wl
  deriving DecidableEq

/-- What `bridge_init` sets up. A pointer or descriptor is recorded as created
or not. -/
inductive Global where
  | ringSlots | ringMask
  | ctrlShm | dataShm | ring | data
  | reqEfd | respEfd | reqWlEfd | respWlEfd | wlEventEfd
  | ctrlWlShm | dataWlShm | wlCtrl | wlData | wlLock | wlDataPos
  | cleanup | clientPid | proxyPid
  deriving DecidableEq

abbrev Globals := Global → Bool

inductive Source where
  | constant
  | created
  | copy (global : Global)
  deriving DecidableEq

/-- Whether the value is usable, when `works` says if the system call worked. -/
def Source.value (globals : Globals) (works : Bool) : Source → Bool
  | .constant => true
  | .created => works
  | .copy global => globals global

inductive Instr where
  | assign (global : Global) (source : Source)
  /-- Ends the process, by `exit(1)` or `abort()`, unless the global is usable. -/
  | require (global : Global)
  /-- `pthread_mutex_init(&g_wl.lock, NULL)` -/
  | initLock
  deriving DecidableEq

def wlBridgeInit : List Instr :=
  [.assign .ctrlWlShm .created, .assign .dataWlShm .created,
    .assign .wlCtrl (.copy .ctrlWlShm), .assign .wlData (.copy .dataWlShm),
    .require .wlCtrl, .require .wlData, .initLock, .assign .wlDataPos .constant]

def startProxy : List Instr :=
  [.assign .proxyPid .created, .require .proxyPid]

def bridgeInit : List Instr :=
  [.assign .ringSlots .constant, .assign .ringMask .constant,
    .assign .ctrlShm .created, .assign .dataShm .created,
    .assign .ring (.copy .ctrlShm), .assign .data (.copy .dataShm),
    .require .ring, .require .data,
    .assign .reqEfd .created, .assign .respEfd .created, .require .reqEfd, .require .respEfd,
    .assign .reqWlEfd .created, .assign .respWlEfd .created,
    .require .reqWlEfd, .require .respWlEfd,
    .assign .wlEventEfd .created, .require .wlEventEfd] ++
  wlBridgeInit ++
  -- A failed `atexit` is only logged.
  [.assign .cleanup .created, .assign .clientPid .constant] ++ startProxy

/-- What the code after `bridge_begin` and after `wl_bridge_begin` works on. -/
def Side.uses : Side → List Global
  | .gl => [.ring, .data, .reqEfd, .respEfd]
  | .wl => [.wlCtrl, .wlData, .reqWlEfd, .respWlEfd]

inductive Pc where
  | idle
  /-- Holds the lock of its side and has not tested `g_ring`. -/
  | check (side : Side)
  /-- Inside `bridge_init`, with these instructions to go. -/
  | init (side : Side) (rest : List Instr)
  /-- Past `bridge_begin` or `wl_bridge_begin`. -/
  | begun (side : Side)
  /-- The process has ended. -/
  | stopped

def Pc.side? : Pc → Option Side
  | .idle | .stopped => none
  | .check side | .init side _ | .begun side => some side

structure State (Tid : Type) where
  globals : Globals
  /-- The owners of `g_lock` and `g_wl.lock`. -/
  owner : Side → Option Tid
  threads : Tid → Pc

inductive Event (Tid : Type) where
  | locked (thread : Tid) (side : Side)
  /-- `if (!g_ring)`; `bridge_init` starts when the ring is not there. -/
  | tested (thread : Tid) (side : Side) (ring : Bool)
  | assigned (thread : Tid) (global : Global) (value : Bool)
  | required (thread : Tid) (global : Global)
  | exited (thread : Tid) (global : Global)
  | lockInit (thread : Tid) (holder : Option Tid)
  | finished (thread : Tid) (side : Side)
  | touched (thread : Tid) (side : Side) (global : Global) (value : Bool)
  | unlocked (thread : Tid) (side : Side)

variable {Tid : Type}

/-! ## The property -/

def Event.startsInit : Event Tid → Bool
  | .tested _ _ false => true
  | _ => false

def bodies (trace : List (Event Tid)) : Nat :=
  trace.countP Event.startsInit

theorem bodies_snoc {trace : List (Event Tid)} {e : Event Tid} :
    bodies (trace ++ [e]) = bodies trace + if e.startsInit then 1 else 0 := by
  simp [bodies, List.countP_append, List.countP_singleton]

/-- What an event may not do, given the events before it: work on something
before `bridge_init` has finished, or initialise a mutex that is held. -/
def Event.InTurn (trace : List (Event Tid)) : Event Tid → Prop
  | .touched _ _ _ value => value = true ∧ ∃ t side, .finished t side ∈ trace
  | .lockInit _ holder => holder = none
  | _ => True

/-! ## The steps -/

variable [DecidableEq Tid]

namespace State

def setPc (s : State Tid) (t : Tid) (pc : Pc) : State Tid :=
  { s with threads := Function.update s.threads t pc }

def setOwner (s : State Tid) (side : Side) (owner : Option Tid) : State Tid :=
  { s with owner := Function.update s.owner side owner }

def setGlobal (s : State Tid) (global : Global) (value : Bool) : State Tid :=
  { s with globals := Function.update s.globals global value }

/-- Before `main`: nothing is created and nothing is locked. -/
def initial : State Tid where
  globals := fun _ => false
  owner := fun _ => none
  threads := fun _ => .idle

end State

inductive Step (s : State Tid) : Event Tid → State Tid → Prop where
  | lock {t} (side : Side) (here : s.threads t = .idle) (free : s.owner side = none) :
      Step s (.locked t side) ((s.setOwner side (some t)).setPc t (.check side))
  | found {t side} (here : s.threads t = .check side) (ring : s.globals .ring = true) :
      Step s (.tested t side true) (s.setPc t (.begun side))
  | start {t side} (here : s.threads t = .check side) (noRing : s.globals .ring = false) :
      Step s (.tested t side false) (s.setPc t (.init side bridgeInit))
  | assign {t side global source rest} (works : Bool)
      (here : s.threads t = .init side (.assign global source :: rest)) :
      Step s (.assigned t global (source.value s.globals works))
        ((s.setGlobal global (source.value s.globals works)).setPc t (.init side rest))
  | require {t side global rest} (here : s.threads t = .init side (.require global :: rest))
      (usable : s.globals global = true) :
      Step s (.required t global) (s.setPc t (.init side rest))
  | exit {t side global rest} (here : s.threads t = .init side (.require global :: rest))
      (unusable : s.globals global = false) :
      Step s (.exited t global) { s with threads := fun _ => .stopped }
  -- A mutex comes out of `pthread_mutex_init` unlocked, whoever held it.
  | lockInit {t side rest} (here : s.threads t = .init side (.initLock :: rest)) :
      Step s (.lockInit t (s.owner .wl))
        (((s.setGlobal .wlLock true).setOwner .wl none).setPc t (.init side rest))
  -- On the Wayland side this is where `g_wl.ctrl->client_pid` is stored.
  | finish {t side} (here : s.threads t = .init side []) :
      Step s (.finished t side) (s.setPc t (.begun side))
  | touch {t side} (global : Global) (here : s.threads t = .begun side)
      (used : global ∈ side.uses) :
      Step s (.touched t side global (s.globals global)) s
  | unlock {t side} (here : s.threads t = .begun side) :
      Step s (.unlocked t side) ((s.setOwner side none).setPc t .idle)

variable (Tid) in
def lazyInit : Lts (State Tid) (Event Tid) where
  Initial s := s = .initial
  Step := Step

/-- The condition on the Wayland calls: they take `g_wl.lock` once it has been
initialised and test `g_ring` while no thread is inside `bridge_init`. -/
def WaylandWaits (_ : List (Event Tid)) (s : State Tid) : Event Tid → Prop
  | .locked _ .wl => s.globals .wlLock = true
  | .tested _ .wl _ => ∀ t side rest, s.threads t ≠ .init side rest
  | _ => True

/-! ## The instructions of `bridge_init` -/

/-- `later` does not take back what `earlier` has checked. -/
def Instr.Keeps (earlier : Instr) : Instr → Prop
  | .assign global _ => earlier ≠ .require global ∧ global ≠ .wlLock
  | .require _ | .initLock => True

instance (earlier later : Instr) : Decidable (earlier.Keeps later) := by
  cases later <;> unfold Instr.Keeps <;> infer_instance

theorem bridgeInit_keeps : bridgeInit.Pairwise Instr.Keeps := by decide

theorem bridgeInit_nodup : bridgeInit.Nodup := by decide

theorem Side.uses_required {side : Side} {global : Global} (used : global ∈ side.uses) :
    .require global ∈ bridgeInit := by
  cases side <;> cases global <;> revert used <;> decide

section Instructions

variable {done rest : List Instr} {instr : Instr}

theorem not_mem_done (shape : bridgeInit = done ++ instr :: rest) : instr ∉ done := by
  have once := bridgeInit_nodup
  rw [shape, List.nodup_append] at once
  exact fun member => once.2.2 instr member instr List.mem_cons_self rfl

theorem keeps_of_mem_done (shape : bridgeInit = done ++ instr :: rest) {earlier : Instr}
    (member : earlier ∈ done) : earlier.Keeps instr := by
  have keeps := bridgeInit_keeps
  rw [shape, List.pairwise_append] at keeps
  exact keeps.2.2 earlier member instr List.mem_cons_self

end Instructions

theorem assign_ne_wlLock {global : Global} {source : Source}
    (member : .assign global source ∈ bridgeInit) : global ≠ .wlLock := by
  rintro rfl
  revert member
  cases source with
  | constant | created => decide
  | copy global => cases global <;> decide

/-! ## Runs in which the Wayland calls wait -/

/-- What the instructions executed so far have left behind. -/
structure Executed (done : List Instr) (s : State Tid) : Prop where
  usable : ∀ global, .require global ∈ done → s.globals global = true
  untouched : .initLock ∉ done → s.globals .wlLock = false ∧ s.owner .wl = none ∧
    ∀ t, (s.threads t).side? ≠ some .wl

inductive Phase (trace : List (Event Tid)) (s : State Tid) : Prop where
  | before (unstarted : bodies trace = 0) (nothing : ∀ global, s.globals global = false)
      (free : s.owner .wl = none)
      (outside : ∀ t, s.threads t = .idle ∨ s.threads t = .check .gl)
  | during {t done rest} (started : bodies trace = 1) (shape : bridgeInit = done ++ rest)
      (here : s.threads t = .init .gl rest) (executed : Executed done s)
      (others : ∀ u, u ≠ t → s.threads u = .idle ∨ s.threads u = .check .wl)
  | after (started : bodies trace = 1) (finished : ∃ t side, .finished t side ∈ trace)
      (usable : ∀ global, .require global ∈ bridgeInit → s.globals global = true)
      (outside : ∀ t side rest, s.threads t ≠ .init side rest)
  | stopped (started : bodies trace ≤ 1) (ended : ∀ t, s.threads t = .stopped)

def Owners (s : State Tid) : Prop :=
  ∀ t side, (s.threads t).side? = some side → s.owner side = some t

variable {s s' : State Tid} {e : Event Tid} {trace : List (Event Tid)} {t : Tid}

theorem setPc_self (pc : Pc) : (s.setPc t pc).threads t = pc := by simp [State.setPc]

theorem setPc_of_ne {u : Tid} (pc : Pc) (different : u ≠ t) :
    (s.setPc t pc).threads u = s.threads u := by simp [State.setPc, different]

/-- No thread holds `g_wl.lock` or is inside `bridge_init` yet; only `bridge_begin` moves. -/
theorem phase_of_before (owners : Owners s) (unstarted : bodies trace = 0)
    (nothing : ∀ global, s.globals global = false) (free : s.owner .wl = none)
    (outside : ∀ t, s.threads t = .idle ∨ s.threads t = .check .gl)
    (taken : Step s e s') (meets : WaylandWaits trace s e) : Phase (trace ++ [e]) s' := by
  have moved (t : Tid) (pc : Pc) (allowed : pc = .idle ∨ pc = .check .gl) (u : Tid) :
      (s.setPc t pc).threads u = .idle ∨ (s.setPc t pc).threads u = .check .gl := by
    by_cases same : u = t
    · subst same
      simpa only [setPc_self] using allowed
    · simpa only [setPc_of_ne _ same] using outside u
  cases taken with
  | @lock t side here unheld =>
      cases side with
      | gl =>
          exact .before (by simp [bodies_snoc, unstarted, Event.startsInit]) nothing free
            (moved t _ (.inr rfl))
      | wl => exact absurd meets (by simp [WaylandWaits, nothing])
  | @found t side here ring => simp [nothing] at ring
  | @start t side here noRing =>
      have isGl : side = .gl := by simpa [here] using outside t
      subst isGl
      have executed : Executed [] (s.setPc t (.init .gl bridgeInit)) := by
        refine ⟨nofun, fun _ => ⟨nothing _, free, fun u waiting => ?_⟩⟩
        by_cases same : u = t
        · subst same
          simp [setPc_self, Pc.side?] at waiting
        · rw [setPc_of_ne _ same] at waiting
          rcases outside u with there | there <;> simp [there, Pc.side?] at waiting
      refine .during (by simp [bodies_snoc, unstarted, Event.startsInit])
        (List.nil_append bridgeInit).symm (setPc_self _) executed fun u different => ?_
      rw [setPc_of_ne _ different]
      refine (outside u).imp_right fun checking => ?_
      -- `g_lock` is held by the thread that starts.
      have mine := owners t .gl (by simp [here, Pc.side?])
      have theirs := owners u .gl (by simp [checking, Pc.side?])
      rw [mine] at theirs
      exact absurd (Option.some.inj theirs).symm different
  | @assign t | @require t | @exit t | @lockInit t | @finish t | @touch t | @unlock t =>
      simpa [*] using outside t

/-- Every instruction of the body keeps what the earlier ones have checked. -/
theorem Executed.assign {done rest : List Instr} {global : Global} {source : Source}
    {value : Bool} (executed : Executed done s)
    (shape : bridgeInit = done ++ .assign global source :: rest) :
    Executed (done ++ [.assign global source])
      ((s.setGlobal global value).setPc t (.init .gl rest)) where
  usable required member := by
    have earlier : .require required ∈ done := by simpa using member
    have different : required ≠ global := by
      rintro rfl
      exact (keeps_of_mem_done shape earlier).1 rfl
    simpa [State.setPc, State.setGlobal, different] using executed.usable required earlier
  untouched absent := by
    obtain ⟨unset, free, none⟩ := executed.untouched (by simpa using absent)
    have different : global ≠ .wlLock := @assign_ne_wlLock global source (by simp [shape])
    refine ⟨by simpa [State.setPc, State.setGlobal, different.symm] using unset, free, fun u => ?_⟩
    by_cases same : u = t
    · simp [same, setPc_self, Pc.side?]
    · simpa [setPc_of_ne _ same, State.setGlobal] using none u

theorem Executed.require {done rest : List Instr} {global : Global} (executed : Executed done s)
    (usable : s.globals global = true) :
    Executed (done ++ [.require global]) (s.setPc t (.init .gl rest)) where
  usable required member := by
    rcases List.mem_append.mp member with earlier | last
    · exact executed.usable required earlier
    · obtain rfl : required = global := by simpa using last
      exact usable
  untouched absent := by
    obtain ⟨unset, free, none⟩ := executed.untouched (by simpa using absent)
    refine ⟨unset, free, fun u => ?_⟩
    by_cases same : u = t
    · simp [same, setPc_self, Pc.side?]
    · simpa only [setPc_of_ne _ same] using none u

theorem Executed.lockInit {done rest : List Instr} (executed : Executed done s) :
    Executed (done ++ [.initLock])
      (((s.setGlobal .wlLock true).setOwner .wl none).setPc t (.init .gl rest)) where
  usable required member := by
    have usable := executed.usable required (by simpa using member)
    by_cases same : required = .wlLock <;>
      simp [State.setPc, State.setOwner, State.setGlobal, same, usable]
  untouched absent := absurd (List.mem_append_right _ List.mem_cons_self) absent

theorem phase_of_during {done rest : List Instr} (owners : Owners s) (started : bodies trace = 1)
    (shape : bridgeInit = done ++ rest) (here : s.threads t = .init .gl rest)
    (executed : Executed done s)
    (others : ∀ u, u ≠ t → s.threads u = .idle ∨ s.threads u = .check .wl)
    (taken : Step s e s') (meets : WaylandWaits trace s e) : Phase (trace ++ [e]) s' := by
  have counted (silent : e.startsInit = false) : bodies (trace ++ [e]) = 1 := by
    simp [bodies_snoc, started, silent]
  have mine {u : Tid} {pc : Pc} (at_ : s.threads u = pc) (outside : pc ≠ .idle)
      (unchecked : pc ≠ .check .wl) : u = t := by
    by_contra different
    exact (others u different).elim (fun idle => outside (at_.symm.trans idle))
      fun checking => unchecked (at_.symm.trans checking)
  have moved (next : State Tid) (same : next.threads = s.threads) (pc : Pc) (u : Tid)
      (different : u ≠ t) : (next.setPc t pc).threads u = .idle ∨
        (next.setPc t pc).threads u = .check .wl := by
    rw [setPc_of_ne _ different, same]
    exact others u different
  cases taken with
  | @lock u side idle unheld =>
      cases side with
      | gl =>
          have held := owners t .gl (by simp [here, Pc.side?])
          simp [held] at unheld
      | wl =>
          have different : t ≠ u := by
            rintro rfl
            simp [here] at idle
          have ready : .initLock ∈ done := by
            by_contra absent
            exact absurd (executed.untouched absent).1 (by simpa [WaylandWaits] using meets)
          refine .during (counted rfl) shape ((setPc_of_ne _ different).trans here)
            ⟨executed.usable, fun absent => absurd ready absent⟩ fun v apart => ?_
          by_cases same : v = u
          · subst same
            exact .inr (setPc_self _)
          · rw [setPc_of_ne _ same]
            exact others v apart
  | @found u side checking | @start u side checking =>
      cases side with
      | gl =>
          obtain rfl := mine checking (by simp) (by simp)
          simp [here] at checking
      | wl => exact absurd here (meets t .gl rest)
  | @assign u side global source next works inside =>
      obtain rfl := mine inside (by simp) (by simp)
      obtain ⟨rfl, rfl⟩ : Side.gl = side ∧ rest = .assign global source :: next := by
        simpa [here] using inside
      exact .during (counted rfl) (by simpa using shape) (setPc_self _)
        (executed.assign shape) (moved _ rfl _)
  | @require u side global next inside usable =>
      obtain rfl := mine inside (by simp) (by simp)
      obtain ⟨rfl, rfl⟩ : Side.gl = side ∧ rest = .require global :: next := by
        simpa [here] using inside
      exact .during (counted rfl) (by simpa using shape) (setPc_self _)
        (executed.require usable) (moved _ rfl _)
  | exit inside unusable => exact .stopped (Nat.le_of_eq (counted rfl)) fun _ => rfl
  | @lockInit u side next inside =>
      obtain rfl := mine inside (by simp) (by simp)
      obtain ⟨rfl, rfl⟩ : Side.gl = side ∧ rest = .initLock :: next := by
        simpa [here] using inside
      exact .during (counted rfl) (by simpa using shape) (setPc_self _)
        executed.lockInit (moved _ rfl _)
  | @finish u side inside =>
      obtain rfl := mine inside (by simp) (by simp)
      obtain ⟨rfl, rfl⟩ : Side.gl = side ∧ rest = [] := by simpa [here] using inside
      refine .after (counted rfl) ⟨u, .gl, by simp⟩ (fun global member => ?_) fun v side next => ?_
      · exact executed.usable global (by simpa [shape] using member)
      · by_cases same : v = u
        · simp [same, setPc_self]
        · rcases moved s rfl (.begun .gl) v same with there | there <;> simp [there]
  | @touch u side global begun | @unlock u side begun =>
      obtain rfl := mine begun (by simp) (by simp)
      simp [here] at begun

/-- The ring is there, so that nobody enters `bridge_init` again. -/
theorem phase_of_after (started : bodies trace = 1)
    (finished : ∃ t side, Event.finished t side ∈ trace)
    (usable : ∀ global, .require global ∈ bridgeInit → s.globals global = true)
    (outside : ∀ t side rest, s.threads t ≠ .init side rest) (taken : Step s e s') :
    Phase (trace ++ [e]) s' := by
  obtain ⟨t, side, done⟩ := finished
  have kept : ∃ t side, Event.finished t side ∈ trace ++ [e] :=
    ⟨t, side, List.mem_append_left _ done⟩
  have moved (t : Tid) (pc : Pc) (entered : ∀ side rest, pc ≠ .init side rest) (u : Tid)
      (side : Side) (rest : List Instr) : (s.setPc t pc).threads u ≠ .init side rest := by
    by_cases same : u = t
    · simpa only [same, setPc_self] using entered side rest
    · simpa only [setPc_of_ne _ same] using outside u side rest
  have counted (silent : e.startsInit = false) : bodies (trace ++ [e]) = 1 := by
    simp [bodies_snoc, started, silent]
  cases taken with
  | lock | found | unlock => exact .after (counted rfl) kept usable (moved _ _ (by simp))
  | touch => exact .after (counted rfl) kept usable outside
  | start here noRing => exact absurd (usable .ring (by decide)) (by simp [noRing])
  | assign _ here | require here | exit here | lockInit here | finish here =>
      exact absurd here (outside _ _ _)

theorem Phase.step (owners : Owners s) (phase : Phase trace s) (taken : Step s e s')
    (meets : WaylandWaits trace s e) : Phase (trace ++ [e]) s' := by
  cases phase with
  | before unstarted nothing free outside =>
      exact phase_of_before owners unstarted nothing free outside taken meets
  | during started shape here executed others =>
      exact phase_of_during owners started shape here executed others taken meets
  | after started finished usable outside =>
      exact phase_of_after started finished usable outside taken
  | stopped started ended =>
      -- Nothing moves in a process that has ended.
      cases taken <;> simp_all

/-- The mutex that is initialised is free, and no thread works on something
that is not there. -/
theorem Phase.inTurn (phase : Phase trace s) (taken : Step s e s') : e.InTurn trace := by
  cases taken with
  | @lockInit t side rest here =>
      cases phase with
      | before _ _ _ outside => simpa [here] using outside t
      | @during u done left started shape inside executed others =>
          obtain rfl : t = u := by
            by_contra different
            simpa [here] using others t different
          obtain ⟨-, rfl⟩ : Side.gl = side ∧ left = .initLock :: rest := by
            simpa [here] using inside.symm
          exact (executed.untouched (not_mem_done shape)).2.1
      | after _ _ _ outside => exact absurd here (outside _ _ _)
      | stopped _ ended => simp [ended] at here
  | @touch t side global here used =>
      cases phase with
      | before _ _ _ outside => simpa [here] using outside t
      | @during u done left started shape inside executed others =>
          by_cases same : t = u
          · simp [← same, here] at inside
          · simpa [here] using others t same
      | after _ finished usable _ => exact ⟨usable global (Side.uses_required used), finished⟩
      | stopped _ ended => simp [ended] at here
  | _ => trivial

theorem Owners.step (owners : Owners s) (phase : Phase trace s) (taken : Step s e s') :
    Owners s' := by
  -- A thread that goes on inside the same critical section.
  have stays {t : Tid} {side : Side} {pc next : Pc} (here : s.threads t = pc)
      (before : pc.side? = some side) (after : next.side? = some side) (globals : Globals) :
      Owners (({ s with globals } : State Tid).setPc t next) := by
    intro u other within
    by_cases same : u = t
    · subst same
      rw [setPc_self, after] at within
      exact owners u other (by rw [here, before, within])
    · rw [setPc_of_ne _ same] at within
      exact owners u other within
  cases taken with
  | @lock t side here free =>
      intro u other within
      by_cases same : u = t
      · subst same
        obtain rfl : side = other := by simpa [setPc_self, Pc.side?] using within
        simp [State.setPc, State.setOwner]
      · rw [setPc_of_ne _ same] at within
        have held := owners u other within
        have apart : other ≠ side := by
          rintro rfl
          simp [held] at free
        simpa [State.setPc, State.setOwner, apart] using held
  | found here | start here | require here | finish here => exact stays here rfl rfl s.globals
  | assign works here => exact stays here rfl rfl _
  | exit => intro u other within; cases within
  | @lockInit t side rest here =>
      have free : s.owner .wl = none := phase.inTurn (.lockInit here)
      have same : s.owner = Function.update s.owner .wl none := by simp [← free]
      have inside : (Pc.init side rest).side? = some side := rfl
      have kept := stays here rfl inside (s.setGlobal .wlLock true).globals
      intro u other within
      exact (congrFun same.symm other).trans (kept u other within)
  | touch => exact owners
  | @unlock t side here =>
      intro u other within
      by_cases same : u = t
      · simp [same, setPc_self, Pc.side?] at within
      · rw [setPc_of_ne _ same] at within
        have held := owners u other within
        have apart : other ≠ side := by
          rintro rfl
          have mine := owners t other (by simp [here, Pc.side?])
          rw [held] at mine
          exact same (Option.some.inj mine)
        simpa [State.setPc, State.setOwner, apart] using held

/-! ## Runs of the body -/

def Instr.passes (globals : Globals) : Instr → Bool
  | .require global => globals global
  | .assign _ _ | .initLock => true

/-- What one instruction does when its system call works. -/
def Instr.next (s : State Tid) (t : Tid) (side : Side) (rest : List Instr) :
    Instr → Event Tid × State Tid
  | .assign global source =>
      let value := source.value s.globals true
      (.assigned t global value, (s.setGlobal global value).setPc t (.init side rest))
  | .require global => (.required t global, s.setPc t (.init side rest))
  | .initLock =>
      (.lockInit t (s.owner .wl),
        ((s.setGlobal .wlLock true).setOwner .wl none).setPc t (.init side rest))

def bodyEvents (t : Tid) (side : Side) (rest : List Instr) :
    List Instr → State Tid → List (Event Tid)
  | [], _ => []
  | instr :: more, s =>
      let taken := instr.next s t side (more ++ rest)
      taken.1 :: bodyEvents t side rest more taken.2

def bodyState (t : Tid) (side : Side) (rest : List Instr) : List Instr → State Tid → State Tid
  | [], s => s
  | instr :: more, s => bodyState t side rest more (instr.next s t side (more ++ rest)).2

def bodyPasses (t : Tid) (side : Side) (rest : List Instr) : List Instr → State Tid → Bool
  | [], _ => true
  | instr :: more, s => instr.passes s.globals &&
      bodyPasses t side rest more (instr.next s t side (more ++ rest)).2

/-- With working system calls the thread inside `bridge_init` gets through. -/
theorem body_runs {allowed : List (Event Tid) → State Tid → Event Tid → Prop}
    (free : ∀ trace s t side rest (instr : Instr), allowed trace s (instr.next s t side rest).1)
    (rest instrs : List Instr) {side : Side} (within : (lazyInit Tid).RunWithin allowed trace s)
    (here : s.threads t = .init side (instrs ++ rest))
    (passes : bodyPasses t side rest instrs s = true) :
    (lazyInit Tid).RunWithin allowed (trace ++ bodyEvents t side rest instrs s)
      (bodyState t side rest instrs s) := by
  induction instrs generalizing trace s with
  | nil => simpa [bodyEvents, bodyState] using within
  | cons instr more ih =>
      obtain ⟨pass, passes⟩ := Bool.and_eq_true_iff.mp passes
      have taken : Step s (instr.next s t side (more ++ rest)).1
          (instr.next s t side (more ++ rest)).2 := by
        cases instr with
        | assign global source => exact .assign true here
        | require global => exact .require here pass
        | initLock => exact .lockInit here
      have there : (instr.next s t side (more ++ rest)).2.threads t = .init side (more ++ rest) := by
        cases instr <;> exact setPc_self _
      simpa [bodyEvents, bodyState] using ih (within.step taken (free _ _ _ _ _ _)) there passes

theorem waylandWaits_next (trace : List (Event Tid)) (s : State Tid) (t : Tid) (side : Side)
    (rest : List Instr) (instr : Instr) : WaylandWaits trace s (instr.next s t side rest).1 := by
  cases instr <;> trivial

/-! ## Once and before use -/

theorem ordered_of_within (within : (lazyInit Tid).RunWithin WaylandWaits trace s) :
    Owners s ∧ Phase trace s := by
  induction within with
  | start initial =>
      subst initial
      exact ⟨nofun, .before rfl (fun _ => rfl) rfl fun _ => .inl rfl⟩
  | step within taken meets ih =>
      exact ⟨ih.1.step ih.2 taken, ih.2.step ih.1 taken meets⟩

/-- When the Wayland calls wait for `bridge_init`, its body is entered once at
most, nobody works on anything before it has finished, and `g_wl.lock` is free
when it is initialised. -/
theorem initialised_once_before_use
    (within : (lazyInit Tid).RunWithin WaylandWaits trace s) :
    bodies trace ≤ 1 ∧ ∀ before e after, trace = before ++ e :: after → e.InTurn before := by
  refine ⟨?_, fun before e after shape => ?_⟩
  · cases (ordered_of_within within).2 with
    | before unstarted => omega
    | during started | after started | stopped started => omega
  · obtain ⟨reached, next, earlier, taken, -⟩ := within.split shape
    exact (ordered_of_within earlier).2.inTurn taken

/-- A GL call initialises the bridge and gives up `g_lock`; a Wayland call finds
everything in place. -/
theorem initialised_once_before_use_wayland_second : ∃ trace, ∃ s : State Bool,
    (lazyInit Bool).RunWithin WaylandWaits trace s ∧ .touched false .wl .wlCtrl true ∈ trace ∧
      bodies trace ≤ 1 ∧ ∀ before e after, trace = before ++ e :: after → e.InTurn before := by
  have run : (lazyInit Bool).RunWithin WaylandWaits [] .initial := .start rfl
  have run := run.step (.lock (t := true) .gl rfl rfl) trivial
  have run := run.step (.start (t := true) rfl rfl) trivial
  have run := body_runs waylandWaits_next (t := true) [] bridgeInit run rfl rfl
  have run := run.step (.finish (t := true) rfl) trivial
  have run := run.step (.touch (t := true) .ring rfl (by decide)) trivial
  have run := run.step (.unlock (t := true) rfl) trivial
  have run := run.step (.lock (t := false) .wl rfl rfl) rfl
  have run := run.step (.found (t := false) rfl rfl) (by rintro (_ | _) <;> exact nofun)
  have run := run.step (.touch (t := false) .wlCtrl rfl (by decide)) trivial
  exact ⟨_, _, run, List.mem_append_right _ (.head _), initialised_once_before_use run⟩

/-- A Wayland call alone initialises the mutex it holds; one that comes while
`bridge_init` has not set `g_ring` enters the body again; one that comes a little
later works on `g_wl.ctrl` before it is there. -/
theorem initialised_twice_held_and_early :
    (∃ trace, ∃ s : State Bool, (lazyInit Bool).Run trace s ∧ ¬ bodies trace ≤ 1) ∧
    (∃ before, ∃ e, ∃ s : State Bool, (lazyInit Bool).Run (before ++ [e]) s ∧
      e = .lockInit false (some false) ∧ ¬ e.InTurn before) ∧
    ∃ before, ∃ e, ∃ s : State Bool, (lazyInit Bool).Run (before ++ [e]) s ∧
      e = .touched false .wl .wlCtrl false ∧ ¬ e.InTurn before := by
  have start : (lazyInit Bool).RunWithin (fun _ _ _ => True) [] .initial := .start rfl
  have gl := start.step (.lock (t := true) .gl rfl rfl) trivial
  have gl := gl.step (.start (t := true) rfl rfl) trivial
  refine ⟨?_, ?_, ?_⟩
  · have run := gl.step (.lock (t := false) .wl rfl rfl) trivial
    have run := run.step (.start (t := false) rfl rfl) trivial
    exact ⟨_, _, run.run, by decide⟩
  · have run := start.step (.lock (t := false) .wl rfl rfl) trivial
    have run := run.step (.start (t := false) rfl rfl) trivial
    have run := body_runs (fun _ _ _ _ _ _ => trivial) (t := false) (bridgeInit.drop 24)
      (bridgeInit.take 24) run rfl rfl
    have run := run.step (.lockInit (t := false) rfl) trivial
    exact ⟨_, _, _, run.run, rfl, nofun⟩
  · have run := body_runs (fun _ _ _ _ _ _ => trivial) (t := true) (bridgeInit.drop 6)
      (bridgeInit.take 6) gl rfl rfl
    have run := run.step (.lock (t := false) .wl rfl rfl) trivial
    have run := run.step (.found (t := false) rfl rfl) trivial
    have run := run.step (.touch (t := false) .wlCtrl rfl (by decide)) trivial
    exact ⟨_, _, _, run.run, rfl, fun turn => by cases turn.1⟩

end GlesBridge.Init
