import GlesBridge.Proxy.Handles
import GlesBridge.Systems.Pipeline
import Mathlib.Logic.Function.Basic

namespace GlesBridge.Stub

open GlesBridge.Systems

/-! The `wl_egl_window`s of the client (`wl_egl_stub.c`). -/

/-- The `struct wl_egl_window` that the client holds. -/
structure EglWindow where
  surface : UInt32
  width : Int32
  height : Int32
  dx : Int32
  dy : Int32
  attachedWidth : Int32
  attachedHeight : Int32
  slot : UInt32
deriving DecidableEq, Repr

/-- By their addresses. -/
abbrev EglWindows : Type := Nat → Option EglWindow

/-- `surf` and `made` are the surface that the proxy has in the slot, and the driver's
window, null if it makes none. -/
inductive WindowCommand where
  | create (surfaceId : UInt32) (width height : Int32) (surf made : UInt32)
  | resize (slot : UInt32) (width height dx dy : Int32)
  | destroy (slot : UInt32)
deriving DecidableEq, Repr

/-- The calls of the client. `address` is the answer of `calloc`, and `proxyId` that of
`wl_proxy_get_id`. -/
inductive WindowCall where
  | create (surface proxyId : UInt32) (width height : Int32) (address : Nat) (surf made : UInt32)
  | resize (window : Nat) (width height dx dy : Int32)
  | destroy (window : Nat)
deriving DecidableEq, Repr

def wlEglWindowCreate (windows : EglWindows) (surface proxyId : UInt32) (width height : Int32)
    (address : Nat) (surf made : UInt32) : Request EglWindows WindowCommand UInt64 :=
  if surface = 0 ∨ width ≤ 0 ∨ height ≤ 0 then .post windows []
  else if address = 0 then .post windows []
  else
    .await (.create proxyId width height surf made) fun result =>
      if result.toUInt32 = 0 then windows
      else
        Function.update windows address (some {
          surface
          width
          height
          dx := 0
          dy := 0
          attachedWidth := width
          attachedHeight := height
          slot := result.toUInt32 })

/-- `none` where a window is used that is none. -/
def wlEglWindowResize (windows : EglWindows) (window : Nat) (width height dx dy : Int32) :
    Option (Request EglWindows WindowCommand UInt64) :=
  if window = 0 then some (.post windows [])
  else
    (windows window).map fun w =>
      .post (Function.update windows window (some { w with width, height, dx, dy }))
        [.resize w.slot width height dx dy]

def wlEglWindowDestroy (windows : EglWindows) (window : Nat) :
    Option (Request EglWindows WindowCommand UInt64) :=
  if window = 0 then some (.post windows [])
  else
    (windows window).map fun w =>
      .post (Function.update windows window none) [.destroy w.slot]

def windowCall (windows : EglWindows) :
    WindowCall → Option (Request EglWindows WindowCommand UInt64)
  | .create surface proxyId width height address surf made =>
      some (wlEglWindowCreate windows surface proxyId width height address surf made)
  | .resize window width height dx dy => wlEglWindowResize windows window width height dx dy
  | .destroy window => wlEglWindowDestroy windows window

end GlesBridge.Stub

namespace GlesBridge.Proxy

open GlesBridge.Stub GlesBridge.Systems

/-! The handlers of `wl_egl_window` (`protocol/wl_egl.c`), with the driver's windows. -/

/-- What the driver has been told about a window. -/
structure RealWindow where
  surf : UInt32
  width : Int32
  height : Int32
  dx : Int32
  dy : Int32
deriving DecidableEq, Repr

/-- `proxy_wl_egl_windows`, and the windows of the driver by their pointers. -/
structure WindowTable where
  windows : Fin maxWlEglWindows → UInt32
  real : UInt32 → Option RealWindow

namespace WindowTable

def empty : WindowTable where
  windows _ := 0
  real _ := none

variable (table : WindowTable)

/-- `wl_egl_window_create` of the driver, and the array. -/
def enter (slot : Fin maxWlEglWindows) (made : UInt32) (window : RealWindow) : WindowTable :=
  let created := Function.update table.real made (some window)
  let occupied := table.windows slot
  { windows := Function.update table.windows slot made
    real := if occupied = 0 then created else Function.update created occupied none }

/-- The array is read before the bound of the surfaces is checked. -/
def hWlEglWindowCreate (surfaceId : UInt32) (width height : Int32) (surf made : UInt32) :
    Option (WindowTable × UInt64) :=
  if inside : surfaceId.toNat < maxWlEglWindows then
    if proxySurfMax ≤ surfaceId.toNat ∨ surf = 0 ∨ made = 0 then some (table, 0)
    else
      some (table.enter ⟨surfaceId.toNat, inside⟩ made ⟨surf, width, height, 0, 0⟩,
        surfaceId.toUInt64)
  else none

def hWlEglWindowResize (slot : UInt32) (width height dx dy : Int32) : WindowTable :=
  if inside : slot.toNat < maxWlEglWindows then
    let w := table.windows ⟨slot.toNat, inside⟩
    if w = 0 then table
    else
      { table with
        real := Function.update table.real w
          ((table.real w).map fun window => { window with width, height, dx, dy }) }
  else table

def hWlEglWindowDestroy (slot : UInt32) : WindowTable :=
  if inside : slot.toNat < maxWlEglWindows then
    let w := table.windows ⟨slot.toNat, inside⟩
    if w = 0 then table
    else
      { windows := Function.update table.windows ⟨slot.toNat, inside⟩ 0
        real := Function.update table.real w none }
  else table

/-- Nobody reads what a command without an answer leaves as one. -/
def serve (table : WindowTable) : WindowCommand → Option (WindowTable × UInt64)
  | .create surfaceId width height surf made =>
      table.hWlEglWindowCreate surfaceId width height surf made
  | .resize slot width height dx dy => some (table.hWlEglWindowResize slot width height dx dy, 0)
  | .destroy slot => some (table.hWlEglWindowDestroy slot, 0)

end WindowTable

def windowExchange : Exchange EglWindows WindowTable WindowCall WindowCommand UInt64 where
  call := windowCall
  serve := WindowTable.serve

end GlesBridge.Proxy

namespace GlesBridge.Egl

open GlesBridge.Proxy GlesBridge.Stub GlesBridge.Systems

/-! The windows of the client and those of the driver, over whole runs. -/

/-- The two sides, when no command is in flight: the client's windows, the array of the
proxy, and the driver's windows. -/
structure Paired (windows : EglWindows) (array : Fin maxWlEglWindows → UInt32)
    (real : UInt32 → Option RealWindow) : Prop where
  /-- A window of the client has one of the driver, which knows its size. -/
  named : ∀ address window, windows address = some window →
    ∃ slot : Fin maxWlEglWindows, slot.val = window.slot.toNat ∧ array slot ≠ 0 ∧
      ∃ surf, real (array slot) = some ⟨surf, window.width, window.height, window.dx, window.dy⟩
  sole : ∀ address other window twin, windows address = some window →
    windows other = some twin → window.slot = twin.slot → address = other
  listed : ∀ slot, array slot ≠ 0 →
    ∃ address window, windows address = some window ∧ window.slot.toNat = slot.val
  apart : ∀ slot other, array slot = array other → array slot ≠ 0 → slot = other
  /-- The driver has no other window. -/
  kept : ∀ pointer window, real pointer = some window →
    pointer ≠ 0 ∧ ∃ slot, array slot = pointer

/-- What `calloc`, the surface and the driver give is new, the surface has no window yet, and
a window that is used is one. -/
def Orderly (state : EglWindows × WindowTable) : WindowCall → Prop
  | .create _ proxyId _ _ address surf made =>
      state.1 address = none ∧ proxyId.toNat < maxWlEglWindows ∧ (proxyId = 0 → surf = 0) ∧
        (made ≠ 0 → state.2.real made = none) ∧
        ∀ other window, state.1 other = some window → window.slot ≠ proxyId
  | .resize window .. | .destroy window => window ≠ 0 → ∃ w, state.1 window = some w

variable {windows : EglWindows} {array : Fin maxWlEglWindows → UInt32}
  {real : UInt32 → Option RealWindow} {address : Nat} {w : EglWindow}
  {slot : Fin maxWlEglWindows}

namespace Paired

theorem empty : Paired (fun _ => none) (fun _ => 0) (fun _ => none) :=
  ⟨nofun, nofun, fun _ used => absurd rfl used, fun _ _ _ used => absurd rfl used, nofun⟩

/-- The slot of a window of the client. -/
theorem slotOf (paired : Paired windows array real) (live : windows address = some w) :
    ∃ inside : w.slot.toNat < maxWlEglWindows, array ⟨w.slot.toNat, inside⟩ ≠ 0 ∧
      ∃ surf, real (array ⟨w.slot.toNat, inside⟩) =
        some ⟨surf, w.width, w.height, w.dx, w.dy⟩ := by
  obtain ⟨slot, same, used, known⟩ := paired.named address w live
  have inside : w.slot.toNat < maxWlEglWindows := same ▸ slot.isLt
  obtain rfl : slot = ⟨w.slot.toNat, inside⟩ := Fin.ext same
  exact ⟨inside, used, known⟩

theorem unused (paired : Paired windows array real)
    (free : ∀ other window, windows other = some window → window.slot.toNat ≠ slot.val) :
    array slot = 0 := by
  by_contra used
  obtain ⟨address, window, live, same⟩ := paired.listed slot used
  exact free address window live same

theorem known (paired : Paired windows array real) (used : array slot ≠ 0) :
    ∃ window, real (array slot) = some window := by
  obtain ⟨address, window, live, number⟩ := paired.listed slot used
  obtain ⟨inside, -, surf, known⟩ := paired.slotOf live
  obtain rfl : slot = ⟨window.slot.toNat, inside⟩ := Fin.ext number.symm
  exact ⟨_, known⟩

/-- A window is made. -/
theorem enter (paired : Paired windows array real) (fresh : windows address = none)
    {made surf : UInt32} (set : made ≠ 0) (new : real made = none)
    (number : slot.val = w.slot.toNat)
    (free : ∀ other window, windows other = some window → window.slot ≠ w.slot) :
    Paired (Function.update windows address (some w)) (Function.update array slot made)
      (Function.update real made (some ⟨surf, w.width, w.height, w.dx, w.dy⟩)) := by
  have empty : array slot = 0 := paired.unused fun other window live same =>
    free other window live (UInt32.toNat.inj (same.trans number))
  have unlisted {slot : Fin maxWlEglWindows} (used : array slot ≠ 0) : array slot ≠ made := by
    intro same
    obtain ⟨window, known⟩ := paired.known used
    rw [same, new] at known
    cases known
  constructor
  case named =>
    intro place window live
    by_cases here : place = address
    · rw [here, Function.update_self, Option.some.injEq] at live
      subst live
      refine ⟨slot, number, ?_, surf, ?_⟩
      · rwa [Function.update_self]
      · rw [Function.update_self, Function.update_self]
    · rw [Function.update_of_ne here] at live
      obtain ⟨other, same, used, known⟩ := paired.named place window live
      have different : other ≠ slot := by
        intro taken
        rw [taken] at used
        exact used empty
      refine ⟨other, same, ?_⟩
      rw [Function.update_of_ne different, Function.update_of_ne (unlisted used)]
      exact ⟨used, known⟩
  case sole =>
    intro place other window twin live lives same
    by_cases here : place = address
    · rw [here, Function.update_self, Option.some.injEq] at live
      by_cases there : other = address
      · rw [here, there]
      · rw [Function.update_of_ne there] at lives
        exact absurd (same.symm.trans (congrArg EglWindow.slot live.symm)) (free other twin lives)
    · rw [Function.update_of_ne here] at live
      by_cases there : other = address
      · rw [there, Function.update_self, Option.some.injEq] at lives
        exact absurd (same.trans (congrArg EglWindow.slot lives.symm)) (free place window live)
      · rw [Function.update_of_ne there] at lives
        exact paired.sole place other window twin live lives same
  case listed =>
    intro place used
    by_cases here : place = slot
    · exact ⟨address, w, Function.update_self .., by rw [here, number]⟩
    · rw [Function.update_of_ne here] at used
      obtain ⟨other, window, live, same⟩ := paired.listed place used
      have different : other ≠ address := by
        intro taken
        rw [taken, fresh] at live
        cases live
      exact ⟨other, window, by rw [Function.update_of_ne different, live], same⟩
  case apart =>
    intro place other same used
    by_cases here : place = slot
    · by_cases there : other = slot
      · rw [here, there]
      · rw [here, Function.update_self, Function.update_of_ne there] at same
        exact absurd same.symm (unlisted (same ▸ set))
    · rw [Function.update_of_ne here] at same used
      by_cases there : other = slot
      · rw [there, Function.update_self] at same
        exact absurd same (unlisted used)
      · rw [Function.update_of_ne there] at same
        exact paired.apart place other same used
  case kept =>
    intro pointer window live
    by_cases here : pointer = made
    · exact ⟨here ▸ set, slot, by rw [here, Function.update_self]⟩
    · rw [Function.update_of_ne here] at live
      obtain ⟨null, other, same⟩ := paired.kept pointer window live
      refine ⟨null, other, ?_⟩
      rw [Function.update_of_ne, same]
      intro taken
      exact null (same.symm.trans (taken ▸ empty))

/-- A window gets another size, on both sides. -/
theorem resize (paired : Paired windows array real) (live : windows address = some w)
    (number : slot.val = w.slot.toNat) {surf : UInt32}
    (known : real (array slot) = some ⟨surf, w.width, w.height, w.dx, w.dy⟩)
    (width height dx dy : Int32) :
    Paired (Function.update windows address (some { w with width, height, dx, dy })) array
      (Function.update real (array slot) (some ⟨surf, width, height, dx, dy⟩)) := by
  have slots {place : Nat} {window : EglWindow}
      (found : Function.update windows address (some { w with width, height, dx, dy }) place =
        some window) :
      ∃ before, windows place = some before ∧ before.slot = window.slot := by
    by_cases here : place = address
    · rw [here, Function.update_self, Option.some.injEq] at found
      exact ⟨w, here ▸ live, by rw [← found]⟩
    · rw [Function.update_of_ne here] at found
      exact ⟨window, found, rfl⟩
  constructor
  case named =>
    intro place window found
    by_cases here : place = address
    · obtain ⟨before, was, same⟩ := slots found
      rw [here, Function.update_self, Option.some.injEq] at found
      obtain ⟨other, index, used, -⟩ := paired.named place before was
      obtain rfl : other = slot := by
        rw [here, live, Option.some.injEq] at was
        exact Fin.ext (by rw [index, number, was])
      refine ⟨other, by rw [index, same], used, surf, ?_⟩
      rw [Function.update_self, ← found]
    · rw [Function.update_of_ne here] at found
      obtain ⟨other, index, used, before⟩ := paired.named place window found
      refine ⟨other, index, used, ?_⟩
      rwa [Function.update_of_ne]
      intro same
      have met := paired.apart other slot same used
      refine here (paired.sole place address window w found live (UInt32.toNat.inj ?_))
      rw [← index, ← number, met]
  case sole =>
    intro place other window twin found finds same
    obtain ⟨before, was, kept⟩ := slots found
    obtain ⟨behind, were, keeps⟩ := slots finds
    exact paired.sole place other before behind was were (by rw [kept, keeps, same])
  case listed =>
    intro place used
    obtain ⟨other, window, was, index⟩ := paired.listed place used
    by_cases here : other = address
    · rw [here, live, Option.some.injEq] at was
      exact ⟨address, _, Function.update_self .., by rw [← index, ← was]⟩
    · exact ⟨other, window, by rw [Function.update_of_ne here, was], index⟩
  case apart => exact paired.apart
  case kept =>
    intro pointer window found
    by_cases here : pointer = array slot
    · exact ⟨here ▸ (paired.kept _ _ known).1, slot, here.symm⟩
    · rw [Function.update_of_ne here] at found
      exact paired.kept pointer window found

/-- A window is given up, on both sides. -/
theorem destroy (paired : Paired windows array real) (live : windows address = some w)
    (number : slot.val = w.slot.toNat) :
    Paired (Function.update windows address none) (Function.update array slot 0)
      (Function.update real (array slot) none) := by
  have others {place : Nat} {window : EglWindow}
      (found : Function.update windows address none place = some window) :
      place ≠ address ∧ windows place = some window := by
    by_cases here : place = address
    · rw [here, Function.update_self] at found
      cases found
    · rw [Function.update_of_ne here] at found
      exact ⟨here, found⟩
  constructor
  case named =>
    intro place window found
    obtain ⟨different, was⟩ := others found
    obtain ⟨other, index, taken, before⟩ := paired.named place window was
    have elsewhere : other ≠ slot := by
      intro same
      refine different (paired.sole place address window w was live (UInt32.toNat.inj ?_))
      rw [← index, ← number, same]
    refine ⟨other, index, ?_⟩
    rw [Function.update_of_ne elsewhere, Function.update_of_ne]
    · exact ⟨taken, before⟩
    · exact fun same => elsewhere (paired.apart other slot same taken)
  case sole =>
    intro place other window twin found finds
    exact paired.sole place other window twin (others found).2 (others finds).2
  case listed =>
    intro place taken
    by_cases here : place = slot
    · rw [here, Function.update_self] at taken
      exact absurd rfl taken
    · rw [Function.update_of_ne here] at taken
      obtain ⟨other, window, was, index⟩ := paired.listed place taken
      have different : other ≠ address := by
        intro same
        rw [same, live, Option.some.injEq] at was
        exact here (Fin.ext (by rw [← index, number, was]))
      exact ⟨other, window, by rw [Function.update_of_ne different, was], index⟩
  case apart =>
    intro place other same taken
    by_cases here : place = slot
    · rw [here, Function.update_self] at taken
      exact absurd rfl taken
    · rw [Function.update_of_ne here] at same taken
      by_cases there : other = slot
      · rw [there, Function.update_self] at same
        exact absurd same taken
      · rw [Function.update_of_ne there] at same
        exact paired.apart place other same taken
  case kept =>
    intro pointer window found
    by_cases here : pointer = array slot
    · rw [here, Function.update_self] at found
      cases found
    · rw [Function.update_of_ne here] at found
      obtain ⟨null, other, same⟩ := paired.kept pointer window found
      refine ⟨null, other, ?_⟩
      rwa [Function.update_of_ne]
      intro taken
      exact here (by rw [← same, taken])

end Paired

/-- `Paired` of the state of the exchange. -/
def Agreeing (state : EglWindows × WindowTable) : Prop :=
  Paired state.1 state.2.windows state.2.real

variable {table : WindowTable}

theorem create_agrees {surface proxyId surf made : UInt32} {width height : Int32}
    (before : Agreeing (windows, table)) (new : windows address = none)
    (inside : proxyId.toNat < maxWlEglWindows) (null : proxyId = 0 → surf = 0)
    (unknown : made ≠ 0 → table.real made = none)
    (free : ∀ other window, windows other = some window → window.slot ≠ proxyId) :
    ∃ next, windowExchange.direct.step (windows, table)
        (.create surface proxyId width height address surf made) = some next ∧
      Agreeing next := by
  have taken : windowExchange.direct.step (windows, table)
        (.create surface proxyId width height address surf made) =
      windowExchange.finish table
        (wlEglWindowCreate windows surface proxyId width height address surf made) := rfl
  rw [taken, wlEglWindowCreate]
  split
  · exact ⟨_, rfl, before⟩
  split
  · exact ⟨_, rfl, before⟩
  by_cases fails : proxySurfMax ≤ proxyId.toNat ∨ surf = 0 ∨ made = 0
  · have served : table.hWlEglWindowCreate proxyId width height surf made = some (table, 0) := by
      rw [WindowTable.hWlEglWindowCreate, dif_pos inside, if_pos fails]
    refine ⟨(windows, table), ?_, before⟩
    simp [Exchange.finish, windowExchange, WindowTable.serve, served]
  · have known : surf ≠ 0 ∧ made ≠ 0 := by
      simp only [not_or] at fails
      exact fails.2
    have empty : table.windows ⟨proxyId.toNat, inside⟩ = 0 :=
      before.unused fun other window live same => free other window live (UInt32.toNat.inj same)
    have served : table.hWlEglWindowCreate proxyId width height surf made =
        some (table.enter ⟨proxyId.toNat, inside⟩ made ⟨surf, width, height, 0, 0⟩,
          proxyId.toUInt64) := by
      rw [WindowTable.hWlEglWindowCreate, dif_pos inside, if_neg fails]
    have answered : proxyId.toUInt64.toUInt32 = proxyId := by simp
    have number : proxyId ≠ 0 := fun zero => known.1 (null zero)
    refine ⟨(Function.update windows address (some
        ⟨surface, width, height, 0, 0, width, height, proxyId⟩),
      table.enter ⟨proxyId.toNat, inside⟩ made ⟨surf, width, height, 0, 0⟩), ?_, ?_⟩
    · simp [Exchange.finish, windowExchange, WindowTable.serve, served, number]
    · have entered : table.enter ⟨proxyId.toNat, inside⟩ made ⟨surf, width, height, 0, 0⟩ =
          ⟨Function.update table.windows ⟨proxyId.toNat, inside⟩ made,
            Function.update table.real made (some ⟨surf, width, height, 0, 0⟩)⟩ := by
        rw [WindowTable.enter, empty]
        rfl
      rw [entered]
      exact before.enter (w := ⟨surface, width, height, 0, 0, width, height, proxyId⟩) new known.2
        (unknown known.2) rfl free

theorem resize_agrees {window : Nat} {width height dx dy : Int32}
    (before : Agreeing (windows, table)) (live : window ≠ 0 → ∃ w, windows window = some w) :
    ∃ next, windowExchange.direct.step (windows, table) (.resize window width height dx dy) =
        some next ∧ Agreeing next := by
  by_cases null : window = 0
  · subst null
    exact ⟨(windows, table), rfl, before⟩
  · obtain ⟨w, found⟩ := live null
    obtain ⟨inside, used, surf, known⟩ := before.slotOf found
    have carried : table.hWlEglWindowResize w.slot width height dx dy =
        { table with
          real := Function.update table.real (table.windows ⟨w.slot.toNat, inside⟩)
            (some ⟨surf, width, height, dx, dy⟩) } := by
      simp only at known used
      rw [WindowTable.hWlEglWindowResize, dif_pos inside]
      simp only [if_neg used, known, Option.map_some]
    refine ⟨(Function.update windows window (some { w with width, height, dx, dy }),
      table.hWlEglWindowResize w.slot width height dx dy), ?_, ?_⟩
    · simp [Exchange.direct, Exchange.finish, Exchange.carry, windowExchange, windowCall,
        wlEglWindowResize, null, found, WindowTable.serve]
    · rw [carried]
      exact before.resize found rfl known width height dx dy

theorem destroy_agrees {window : Nat} (before : Agreeing (windows, table))
    (live : window ≠ 0 → ∃ w, windows window = some w) :
    ∃ next, windowExchange.direct.step (windows, table) (.destroy window) = some next ∧
      Agreeing next := by
  by_cases null : window = 0
  · subst null
    exact ⟨(windows, table), rfl, before⟩
  · obtain ⟨w, found⟩ := live null
    obtain ⟨inside, used, surf, known⟩ := before.slotOf found
    have carried : table.hWlEglWindowDestroy w.slot =
        { windows := Function.update table.windows ⟨w.slot.toNat, inside⟩ 0
          real := Function.update table.real (table.windows ⟨w.slot.toNat, inside⟩) none } := by
      simp only at used
      rw [WindowTable.hWlEglWindowDestroy, dif_pos inside]
      simp only [if_neg used]
    refine ⟨(Function.update windows window none, table.hWlEglWindowDestroy w.slot), ?_, ?_⟩
    · simp [Exchange.direct, Exchange.finish, Exchange.carry, windowExchange, windowCall,
        wlEglWindowDestroy, null, found, WindowTable.serve]
    · rw [carried]
      exact before.destroy found rfl

theorem call_agrees {state : EglWindows × WindowTable} {call : WindowCall}
    (before : Agreeing state) (orderly : Orderly state call) :
    ∃ next, windowExchange.direct.step state call = some next ∧ Agreeing next := by
  obtain ⟨windows, table⟩ := state
  cases call with
  | create surface proxyId width height address surf made =>
      obtain ⟨new, inside, null, unknown, free⟩ := orderly
      exact create_agrees before new inside null unknown free
  | resize window width height dx dy => exact resize_agrees before orderly
  | destroy window => exact destroy_agrees before orderly

/-- At whatever pace the proxy works, the client's windows and the driver's are in one-to-one
correspondence, with the same sizes, whenever no command is in flight. -/
theorem windows_agree (calls : List WindowCall)
    (meets : windowExchange.direct.Along Orderly (fun _ => none, .empty) calls)
    (inputs : List (Option WindowCall)) (shape : inputs.filterMap id = calls) :
    windowExchange.queued.Along
      (windowExchange.queued.Ends (Pipeline.Queued.Drained Agreeing))
      ⟨fun _ => none, [], .empty⟩ inputs := by
  have direct : windowExchange.direct.Along (windowExchange.direct.Ends Agreeing)
      (fun _ => none, .empty) calls := by
    refine Machine.Along.of_invariant ?_ call_agrees Paired.empty meets
    intro state call next before orderly taken
    obtain ⟨reached, same, after⟩ := call_agrees before orderly
    rw [taken, Option.some.injEq] at same
    rwa [same]
  exact Exchange.queued_along rfl Paired.empty (shape ▸ direct)

/-- A window that is made, gets another size and is given up, with the proxy two commands late. -/
theorem windows_agree_resized :
    windowExchange.queued.Along
      (windowExchange.queued.Ends (Pipeline.Queued.Drained Agreeing))
      ⟨fun _ => none, [], .empty⟩
      [some (.create 512 3 800 600 4096 7 9), some (.resize 4096 640 480 0 0),
        some (.destroy 4096), none, none] :=
  windows_agree [.create 512 3 800 600 4096 7 9, .resize 4096 640 480 0 0, .destroy 4096]
    ⟨⟨rfl, by decide, by decide, fun _ => rfl, nofun⟩, fun _ created => by
      obtain rfl := Option.some.inj created
      exact ⟨fun _ => ⟨_, rfl⟩, fun _ resized => by
        obtain rfl := Option.some.inj resized
        exact ⟨fun _ => ⟨_, rfl⟩, fun _ _ => trivial⟩⟩⟩
    _ rfl

end GlesBridge.Egl
