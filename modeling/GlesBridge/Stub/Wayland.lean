import GlesBridge.Data.Index
import Mathlib.Logic.Function.Basic

namespace GlesBridge.Stub

/-! The Wayland objects that the stub hands to a client as small numbers, and what it
keeps about them.
-/

abbrev maxSeats : Nat := 2

abbrev maxOutputs : Nat := 4

abbrev maxCallbacks : Nat := 32

abbrev maxWrappers : Nat := 64

abbrev surfMapMax : Nat := 8

abbrev bhRegistry : UInt32 := 1

abbrev bhCompositor : UInt32 := 2

abbrev bhShell : UInt32 := 3

abbrev bhWebosShell : UInt32 := 4

abbrev bhShm : UInt32 := 5

abbrev bhWebosInputMgr : UInt32 := 6

abbrev bhStarfishPointer : UInt32 := 7

abbrev bhStarfishOutput : UInt32 := 8

abbrev bhWebosForeign : UInt32 := 9

abbrev bhDummySync : UInt32 := 0xFD

abbrev bhDummy : UInt32 := 0xFE

abbrev bhSeatBase : Nat := 10

abbrev bhOutputBase : Nat := 20

abbrev bhKeyboardBase : Nat := 30

abbrev bhPointerBase : Nat := 40

abbrev bhWebosSeatBase : Nat := 50

abbrev bhSurfaceBase : Nat := 100

abbrev bhShellSurfBase : Nat := 200

abbrev bhWebosSurfBase : Nat := 300

abbrev bhCallbackBase : Nat := 0x200

abbrev bhWrapperBase : Nat := 0x400

/-- How many handles stand between the bases of two kinds of surfaces. -/
abbrev surfaceRange : Nat := 100

/-- The object that a handle is taken for. -/
inductive BridgeObject where
  | registry
  | compositor
  | shell
  | webosShell
  | webosInputMgr
  | starfish
  | webosForeign
  | seat (index : Fin maxSeats)
  | output (index : Fin maxOutputs)
  | keyboard (index : Fin maxSeats)
  | pointer (index : Fin maxSeats)
  | webosSeat (index : Fin maxSeats)
  | surface (offset : Fin surfaceRange)
  | shellSurf (offset : Fin surfaceRange)
  | webosSurf (offset : Fin surfaceRange)
  | callback (index : Fin maxCallbacks)
  | other
deriving DecidableEq, Repr

/-- The offset of a handle from the base of its kind. -/
def offsetIn (base size : Nat) (handle : UInt32) : Option (Fin size) :=
  if inside : base ≤ handle.toNat ∧ handle.toNat - base < size then
    some ⟨handle.toNat - base, inside.2⟩
  else none

/-- The objects of which there is one. -/
def single (handle : UInt32) : BridgeObject :=
  if handle = bhRegistry then .registry
  else if handle = bhCompositor then .compositor
  else if handle = bhShell then .shell
  else if handle = bhWebosShell then .webosShell
  else if handle = bhWebosInputMgr then .webosInputMgr
  else if handle = bhStarfishPointer ∨ handle = bhStarfishOutput then .starfish
  else if handle = bhWebosForeign then .webosForeign
  else .other

/-- The comparisons of a handle with the bases; no two of them hold of one handle. -/
def objectOf (handle : UInt32) : BridgeObject :=
  (((offsetIn bhSeatBase maxSeats handle).map .seat).or
    (((offsetIn bhOutputBase maxOutputs handle).map .output).or
    (((offsetIn bhKeyboardBase maxSeats handle).map .keyboard).or
    (((offsetIn bhPointerBase maxSeats handle).map .pointer).or
    (((offsetIn bhWebosSeatBase maxSeats handle).map .webosSeat).or
    (((offsetIn bhSurfaceBase surfaceRange handle).map .surface).or
    (((offsetIn bhShellSurfBase surfaceRange handle).map .shellSurf).or
    (((offsetIn bhWebosSurfBase surfaceRange handle).map .webosSurf).or
    ((offsetIn bhCallbackBase maxCallbacks handle).map .callback))))))))).getD (single handle)

/-- `listener_slot_t`; a null pointer is 0. -/
structure ListenerSlot where
  funcs : UInt64
  data : UInt64
  dispatchFn : UInt64
  dispatchImpl : UInt64
  dispatchData : UInt64
deriving DecidableEq, Repr

structure CallbackSlot where
  listener : ListenerSlot
  pending : Bool
deriving DecidableEq, Repr

structure OutputInfo where
  width : UInt32
  height : UInt32
  refresh : UInt32
  physW : UInt32
  physH : UInt32
  scale : UInt32
deriving DecidableEq, Repr

structure WebosSeatInfo where
  received : Bool
  id : UInt32
  designator : UInt32
  capabilities : UInt32
  name : List UInt8
deriving DecidableEq, Repr

/-- `g_bs`, with the statics beside it from `callbacks` on. -/
structure WlBridgeState where
  idWatermark : UInt32
  numSeats : UInt32
  numOutputs : UInt32
  surfaceSlotMap : Fin surfMapMax → UInt32
  surfaceProxySlot : UInt32
  nextSurface : UInt32
  seatCnt : UInt32
  outCnt : UInt32
  registry : ListenerSlot
  webosSs : ListenerSlot
  webosSsArr : Fin surfMapMax → ListenerSlot
  seats : Fin maxSeats → ListenerSlot
  outputs : Fin maxOutputs → ListenerSlot
  outputEventsPending : Fin maxOutputs → Bool
  callbackPending : Fin maxCallbacks → Bool
  callbackArmed : Fin maxCallbacks → Bool
  keyboards : Fin maxSeats → ListenerSlot
  pointers : Fin maxSeats → ListenerSlot
  globalsFired : Bool
  keyboardEnterSent : Bool
  webosSeat : WebosSeatInfo
  webosSeats : Fin maxSeats → ListenerSlot
  webosSeatInfoFired : Fin maxSeats → Bool
  activeSurfaceHandle : UInt32
  keyboardFocusHandle : UInt32
  output : OutputInfo
  callbacks : Fin maxCallbacks → CallbackSlot
  callbackNext : UInt32
  wrapperTarget : Fin maxWrappers → UInt32
  allLazyCapsDone : Bool
  /-- `g_stub_keymap_size`, if there is a keymap. -/
  keymap : Option UInt32

def ListenerSlot.empty : ListenerSlot where
  funcs := 0
  data := 0
  dispatchFn := 0
  dispatchImpl := 0
  dispatchData := 0

/-- Somebody listens. -/
def ListenerSlot.Attached (slot : ListenerSlot) : Prop := slot.funcs ≠ 0 ∨ slot.dispatchFn ≠ 0

instance decidableAttached (slot : ListenerSlot) : Decidable slot.Attached :=
  @instDecidableOr _ _ instDecidableNot instDecidableNot

def ListenerSlot.listen (slot : ListenerSlot) (funcs data : UInt64) : ListenerSlot :=
  { slot with funcs, data }

def ListenerSlot.dispatchWith (slot : ListenerSlot) (fn impl data : UInt64) : ListenerSlot :=
  { slot with dispatchFn := fn, dispatchImpl := impl, dispatchData := data }

def CallbackSlot.empty : CallbackSlot where
  listener := .empty
  pending := false

def handleAt (base offset : Nat) : UInt32 := .ofNat (base + offset)

namespace WlBridgeState

variable (stub : WlBridgeState)

/-- Wrappers are followed to the object that they wrap, at most `MAX_WRAPPERS` times. -/
def resolveWithin : Nat → UInt32 → UInt32
  | 0, handle => handle
  | guard + 1, handle =>
      match offsetIn bhWrapperBase maxWrappers handle with
      | none => handle
      | some wrapper =>
          if stub.wrapperTarget wrapper = 0 then handle
          else resolveWithin guard (stub.wrapperTarget wrapper)

def resolveHandle (handle : UInt32) : UInt32 := stub.resolveWithin maxWrappers handle

/-- `slot_for_surface` and its siblings for the two shells. -/
def slotFor (offset : Nat) : UInt32 :=
  if inside : offset < surfMapMax then stub.surfaceSlotMap ⟨offset, inside⟩ else 0

/-- The memory before the first connect; the reset of `wl_display_connect` keeps the statics. -/
def zero : WlBridgeState where
  idWatermark := 0
  numSeats := 0
  numOutputs := 0
  surfaceSlotMap _ := 0
  surfaceProxySlot := 0
  nextSurface := 0
  seatCnt := 0
  outCnt := 0
  registry := .empty
  webosSs := .empty
  webosSsArr _ := .empty
  seats _ := .empty
  outputs _ := .empty
  outputEventsPending _ := false
  callbackPending _ := false
  callbackArmed _ := false
  keyboards _ := .empty
  pointers _ := .empty
  globalsFired := false
  keyboardEnterSent := false
  webosSeat := ⟨false, 0, 0, 0, []⟩
  webosSeats _ := .empty
  webosSeatInfoFired _ := false
  activeSurfaceHandle := 0
  keyboardFocusHandle := 0
  output := ⟨0, 0, 0, 0, 0, 0⟩
  callbacks _ := .empty
  callbackNext := 0
  wrapperTarget _ := 0
  allLazyCapsDone := false
  keymap := none

def reset : WlBridgeState :=
  { zero with
    nextSurface := .ofNat bhSurfaceBase
    callbacks := stub.callbacks
    callbackNext := stub.callbackNext
    wrapperTarget := stub.wrapperTarget
    allLazyCapsDone := stub.allLazyCapsDone
    keymap := stub.keymap }

/-- The slot that is next in turn, whoever uses it. -/
def callbackSlot : Fin maxCallbacks :=
  ⟨stub.callbackNext.toNat % maxCallbacks, Nat.mod_lt _ (by decide)⟩

def allocCallback : WlBridgeState :=
  { stub with
    callbackNext := stub.callbackNext + 1
    callbacks := Function.update stub.callbacks stub.callbackSlot .empty
    callbackPending := Function.update stub.callbackPending stub.callbackSlot false
    callbackArmed := Function.update stub.callbackArmed stub.callbackSlot false }

end WlBridgeState

/-! ## Handles and offsets -/

section

variable {base size offset other : Nat} {handle : UInt32}

theorem toNat_handleAt (small : base + offset < 4294967296) :
    (handleAt base offset).toNat = base + offset :=
  UInt32.toNat_ofNat_of_lt' small

theorem handleAt_succ : handleAt base offset + 1 = handleAt base (offset + 1) :=
  (UInt32.ofNat_add (base + offset) 1).symm

theorem handleAt_injective (small : base + offset < 4294967296)
    (also : base + other < 4294967296) (same : handleAt base offset = handleAt base other) :
    offset = other := by
  have numbers := congrArg UInt32.toNat same
  rw [toNat_handleAt small, toNat_handleAt also] at numbers
  omega

theorem offsetIn_handleAt (small : base + offset < 4294967296) (inside : offset < size) :
    offsetIn base size (handleAt base offset) = some ⟨offset, inside⟩ := by
  have number := toNat_handleAt small
  rw [offsetIn, dif_pos (by omega)]
  simp only [number, Nat.add_sub_cancel_left]

theorem eq_handleAt {index : Fin size} (found : offsetIn base size handle = some index) :
    handle = handleAt base index.val := by
  rw [offsetIn] at found
  split at found
  · rename_i inside
    cases found
    rw [handleAt, Nat.add_sub_cancel' inside.1, UInt32.ofNat_toNat]
  · cases found

theorem single_ne_surface {index : Fin surfaceRange} : single handle ≠ .surface index := by
  rw [single]
  repeat' split
  all_goals nofun

/-- Only numbers from the base of the surfaces are taken for a surface. -/
theorem eq_of_objectOf_surface {index : Fin surfaceRange}
    (surface : objectOf handle = .surface index) : handle = handleAt bhSurfaceBase index.val := by
  rw [objectOf, Option.getD_eq_iff] at surface
  rcases surface with found | ⟨-, alone⟩
  · simp only [Option.or_eq_some_iff, Option.map_eq_some_iff, reduceCtorEq, and_false,
      exists_false, false_or, BridgeObject.surface.injEq, exists_eq_right, or_false] at found
    exact eq_handleAt found.2.2.2.2.2
  · exact absurd alone single_ne_surface

theorem WlBridgeState.resolveHandle_of_small {stub : WlBridgeState}
    (small : handle.toNat < bhWrapperBase) : stub.resolveHandle handle = handle := by
  have direct : offsetIn bhWrapperBase maxWrappers handle = none :=
    dif_neg fun inside => absurd small (Nat.not_lt_of_le inside.1)
  rw [resolveHandle, resolveWithin, direct]

end

end GlesBridge.Stub
