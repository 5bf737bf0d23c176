import GlesBridge.Stub.Wayland

namespace GlesBridge.Stub

/-! `wl_proxy_marshal_flags`, which takes its arguments one by one from a `va_list`, and
the entry points that call it.
-/

/-- What a client marshals to: the display, or a handle. -/
inductive WlProxyRef where
  | display
  | handle (number : UInt32)
deriving DecidableEq, Repr

/-- A `union wl_argument`, or an argument of a variadic call. -/
inductive Argument where
  | uint (value : UInt32)
  | object (handle : UInt32)
  | string (text : Option (List UInt8))
deriving DecidableEq, Repr

/-- What a `va_list` or an array holds; `none` was passed by nobody. -/
abbrev VaList : Type := List (Option Argument)

/-- The WL commands of the marshalling functions. -/
inductive StubCommand where
  | wlCompositorCreateSurface
  | wlShellGetShellSurface (slot : UInt32)
  | wlWebosShellGetShellSurface (slot : UInt32)
  | wlShellSurfaceSetToplevel (slot : UInt32)
  | wlWebosShellSurfaceSetState (slot state : UInt32)
  | wlWebosSetProperty (slot : UInt32) (name value : List UInt8)
  | wlSurfaceCommit (slot : UInt32)
  | wlSurfaceDestroy (slot : UInt32)
  | wlProxyDestroy (slot : UInt32)
deriving DecidableEq, Repr

/-- A call that sends at most one command, and what it does with the reply. -/
structure StubCall where
  sends : Option StubCommand
  finish : UInt64 → WlBridgeState × UInt32

/-- An argument is taken that was not passed, or `assert` fails. -/
inductive MarshalFault where
  | argument
  | assertion
deriving DecidableEq, Repr

abbrev Marshalled : Type := Except MarshalFault StubCall

/-- The requests that `wl_proxy_marshal_flags` tells apart. -/
inductive Branch where
  | display
  | bind
  | createSurface
  | getShellSurface
  | webosGetShellSurface
  | setToplevel (offset : Nat)
  | setState (offset : Nat)
  | setProperty (offset : Nat)
  | frame
  | commit (offset : Nat)
  | surfaceDestroy (offset : Nat)
  | seatObject (index : Fin maxSeats)
  | getWebosSeat
  | callbackDestroy (index : Fin maxCallbacks)
  | generic
deriving DecidableEq, Repr

/-- The arguments that a request takes from the `va_list`. -/
inductive Pulls where
  | nothing
  | objects
  | uint
  | strings
deriving DecidableEq, Repr

def Branch.pulls : Branch → Pulls
  | .getShellSurface | .webosGetShellSurface | .getWebosSeat => .objects
  | .setState _ => .uint
  | .setProperty _ => .strings
  | _ => .nothing

/-- The list begins with arguments of these kinds. -/
def Pulls.Fits : Pulls → VaList → Prop
  | .nothing, _ => True
  | .objects, args => ∃ placeholder handle rest,
      args = some (.object placeholder) :: some (.object handle) :: rest
  | .uint, args => ∃ value rest, args = some (.uint value) :: rest
  | .strings, args => ∃ name value rest, args = some (.string name) :: some (.string value) :: rest

/-- The tests of `wl_proxy_marshal_flags` on a handle. -/
def BridgeObject.branch (opcode : UInt32) (interface : Option String) : BridgeObject → Branch
  | .registry => .bind
  | .compositor => if interface = some "wl_surface" then .createSurface else .generic
  | .shell => if interface = some "wl_shell_surface" then .getShellSurface else .generic
  | .webosShell =>
      if opcode = 1 ∧ interface = some "wl_webos_shell_surface" then .webosGetShellSurface
      else .generic
  | .shellSurf offset =>
      if opcode = 3 ∧ interface = none then .setToplevel offset.val else .generic
  | .webosSurf offset =>
      if opcode = 1 ∧ interface = none then .setState offset.val
      else if opcode = 2 ∧ interface = none then .setProperty offset.val
      else .generic
  | .surface offset =>
      if opcode = 3 ∧ interface ≠ none then .frame
      else if opcode = 6 ∧ interface = none then .commit offset.val
      else if opcode = 0 ∧ interface = none then .surfaceDestroy offset.val
      else .generic
  | .seat index => if interface ≠ none then .seatObject index else .generic
  | .webosInputMgr => if interface = some "wl_webos_seat" then .getWebosSeat else .generic
  | .callback index => if interface = none then .callbackDestroy index else .generic
  | _ => .generic

namespace WlBridgeState

variable (stub : WlBridgeState)

def branch (proxy : WlProxyRef) (opcode : UInt32) (interface : Option String) : Branch :=
  match proxy with
  | .display => .display
  | .handle number => (objectOf (stub.resolveHandle number)).branch opcode interface

def returns (handle : UInt32) : Marshalled :=
  .ok { sends := none, finish := fun _ => (stub, handle) }

/-- A command whose reply is not looked at. -/
def sends (command : StubCommand) (handle : UInt32) : Marshalled :=
  .ok { sends := some command, finish := fun _ => (stub, handle) }

/-- `assert(slot != 0)` -/
def sendsTo (slot : UInt32) (command : UInt32 → StubCommand) (handle : UInt32) : Marshalled :=
  if slot = 0 then .error .assertion else stub.sends (command slot) handle

/-- A new callback, which waits for its listener. -/
def newCallback : Marshalled :=
  let idx := stub.callbackSlot
  let made := stub.allocCallback
  { made with
    callbacks := Function.update made.callbacks idx { made.callbacks idx with pending := true }
  }.returns (handleAt bhCallbackBase idx.val)

def displayConstructor (interface : Option String) : Marshalled :=
  if interface = some "wl_registry" then { stub with globalsFired := false }.returns bhRegistry
  else if interface = some "wl_callback" then stub.newCallback
  else stub.returns bhDummySync

/-- The seats and the outputs are counted, and the counts wrap. -/
def registryBind (interface : Option String) : Marshalled :=
  if interface = some "wl_compositor" then stub.returns bhCompositor
  else if interface = some "wl_shell" then stub.returns bhShell
  else if interface = some "wl_webos_shell" then stub.returns bhWebosShell
  else if interface = some "wl_shm" then stub.returns bhShm
  else if interface = some "wl_seat" then
    { stub with seatCnt := stub.seatCnt + 1 }.returns
      (handleAt bhSeatBase (stub.seatCnt &&& 1).toNat)
  else if interface = some "wl_output" then
    { stub with outCnt := stub.outCnt + 1 }.returns
      (handleAt bhOutputBase (stub.outCnt &&& 3).toNat)
  else if interface = some "wl_webos_input_manager" then stub.returns bhWebosInputMgr
  else if interface = some "wl_starfish_pointer" then stub.returns bhStarfishPointer
  else if interface = some "wl_starfish_output" then stub.returns bhStarfishOutput
  else if interface = some "wl_webos_foreign" then stub.returns bhWebosForeign
  else stub.returns bhDummy

/-- The handle of a surface is taken whatever the proxy answers. -/
def recordSurface (slot : UInt32) : WlBridgeState :=
  { stub with
    nextSurface := stub.nextSurface + 1
    surfaceSlotMap :=
      match offsetIn bhSurfaceBase surfMapMax stub.nextSurface with
      | some idx => Function.update stub.surfaceSlotMap idx slot
      | none => stub.surfaceSlotMap
    surfaceProxySlot := slot }

theorem surfaceSlotMap_recordSurface {stub : WlBridgeState} {slot : UInt32} {created : Nat}
    (next : stub.nextSurface = handleAt bhSurfaceBase created) (below : created < surfMapMax) :
    (stub.recordSurface slot).surfaceSlotMap =
      Function.update stub.surfaceSlotMap ⟨created, below⟩ slot := by
  have small : bhSurfaceBase + created < 4294967296 :=
    Nat.lt_of_lt_of_le (Nat.add_lt_add_left below _) (by decide)
  rw [recordSurface, next, offsetIn_handleAt small below]

def createSurface : Marshalled :=
  .ok {
    sends := some .wlCompositorCreateSurface
    finish := fun reply => (stub.recordSurface reply.toUInt32, stub.nextSurface) }

/-- `slot_for_surface`, whose difference wraps below the base. -/
def slotForSurface (handle : UInt32) : UInt32 :=
  if bhSurfaceBase ≤ handle.toNat then stub.slotFor (handle.toNat - bhSurfaceBase) else 0

/-- The surface's own number is moved to the base of the shell. -/
def getShellSurface (command : UInt32 → StubCommand) (base surf : UInt32) : Marshalled :=
  stub.sendsTo (stub.slotForSurface surf) command (base + (surf - .ofNat bhSurfaceBase))

/-- The new-id placeholder and the object after it. -/
def withObject (args : VaList) (next : UInt32 → Marshalled) : Marshalled :=
  match args with
  | some (.object _) :: some (.object handle) :: _ => next handle
  | _ => .error .argument

def withUint (args : VaList) (next : UInt32 → Marshalled) : Marshalled :=
  match args with
  | some (.uint value) :: _ => next value
  | _ => .error .argument

def withStrings (args : VaList) (next : Option (List UInt8) → Option (List UInt8) → Marshalled) :
    Marshalled :=
  match args with
  | some (.string name) :: some (.string value) :: _ => next name value
  | _ => .error .argument

def setState (offset : Nat) (state : UInt32) : Marshalled :=
  if stub.slotFor offset = 0 then stub.returns 0
  else stub.sends (.wlWebosShellSurfaceSetState (stub.slotFor offset) state) 0

def setProperty (offset : Nat) : Option (List UInt8) → Option (List UInt8) → Marshalled
  | some name, some value =>
      stub.sendsTo (stub.slotFor offset) (.wlWebosSetProperty · name value) 0
  | _, _ => stub.returns 0

def seatObject (interface : Option String) (index : Fin maxSeats) : Marshalled :=
  if interface = some "wl_keyboard" then stub.returns (handleAt bhKeyboardBase index.val)
  else if interface = some "wl_pointer" then stub.returns (handleAt bhPointerBase index.val)
  else stub.returns bhDummy

def getWebosSeat (seat : UInt32) : Marshalled :=
  stub.returns (handleAt bhWebosSeatBase
    (((offsetIn bhSeatBase maxSeats seat).map Fin.val).getD 0))

/-- The dispatcher of the callback and `callback_pending` stay. -/
def callbackDestroy (index : Fin maxCallbacks) : WlBridgeState :=
  let slot := stub.callbacks index
  { stub with
    callbacks := Function.update stub.callbacks index
      { listener := slot.listener.listen 0 0, pending := false } }

/-- What each request does, with the arguments that it takes. -/
def perform (interface : Option String) (args : VaList) : Branch → Marshalled
  | .display => stub.displayConstructor interface
  | .bind => stub.registryBind interface
  | .createSurface => stub.createSurface
  | .getShellSurface =>
      withObject args (stub.getShellSurface .wlShellGetShellSurface (.ofNat bhShellSurfBase))
  | .webosGetShellSurface =>
      withObject args (stub.getShellSurface .wlWebosShellGetShellSurface (.ofNat bhWebosSurfBase))
  | .setToplevel offset => stub.sendsTo (stub.slotFor offset) .wlShellSurfaceSetToplevel 0
  | .setState offset => withUint args (stub.setState offset)
  | .setProperty offset => withStrings args (stub.setProperty offset)
  | .frame => stub.newCallback
  | .commit offset => stub.sendsTo (stub.slotFor offset) .wlSurfaceCommit 0
  | .surfaceDestroy offset => stub.sendsTo (stub.slotFor offset) .wlSurfaceDestroy 0
  | .seatObject index => stub.seatObject interface index
  | .getWebosSeat => withObject args stub.getWebosSeat
  | .callbackDestroy index => (stub.callbackDestroy index).returns 0
  | .generic => stub.returns (if interface = none then 0 else bhDummy)

def wlProxyMarshalFlags (proxy : WlProxyRef) (opcode : UInt32) (interface : Option String)
    (args : VaList) : Marshalled :=
  stub.perform interface args (stub.branch proxy opcode interface)

/-! ## The other entry points -/

/-- The object of a proxy; the display is none of them. -/
def objectFor : WlProxyRef → BridgeObject
  | .display => .other
  | .handle number => objectOf (stub.resolveHandle number)

/-- Functions that return `NULL` where no interface is given. -/
def nullWithout (interface : Option String) (marshalled : Marshalled) : Marshalled :=
  if interface = none then
    marshalled.map fun call => { call with finish := fun reply => ((call.finish reply).1, 0) }
  else marshalled

/-- The variadic arguments are not passed on. -/
def wlProxyMarshalConstructor (proxy : WlProxyRef) (opcode : UInt32) (interface : Option String)
    (_args : List Argument) : Marshalled :=
  stub.wlProxyMarshalFlags proxy opcode interface []

/-- Nor are they here. -/
def wlProxyMarshalConstructorVersioned (proxy : WlProxyRef) (opcode : UInt32)
    (interface : Option String) (_args : List Argument) : Marshalled :=
  stub.wlProxyMarshalFlags proxy opcode interface []

/-- The arguments that are passed on from an array. -/
def arrayForwarded (object : BridgeObject) (opcode : UInt32) (interface : Option String)
    (args : List Argument) : VaList :=
  if (object = .shell ∧ opcode = 0 ∨ object = .webosShell ∧ (opcode = 0 ∨ opcode = 1)) ∧
      interface ≠ none then [some (.object 0), args[1]?]
  else
    match object with
    | .webosSurf _ => if interface = none ∧ opcode = 2 then [args[0]?, args[1]?] else []
    | _ => []

def wlProxyMarshalArrayConstructor (proxy : WlProxyRef) (opcode : UInt32)
    (interface : Option String) (args : List Argument) : Marshalled :=
  nullWithout interface (stub.wlProxyMarshalFlags proxy opcode interface
    (arrayForwarded (stub.objectFor proxy) opcode interface args))

/-- The surface is passed on in the place of the new-id placeholder. -/
def arrayForwardedVersioned (object : BridgeObject) (opcode : UInt32) (interface : Option String)
    (args : List Argument) : VaList :=
  if (object = .shell ∨ object = .webosShell) ∧ opcode = 0 ∧ interface ≠ none then [args[1]?]
  else []

def wlProxyMarshalArrayConstructorVersioned (proxy : WlProxyRef) (opcode : UInt32)
    (interface : Option String) (args : List Argument) : Marshalled :=
  nullWithout interface (stub.wlProxyMarshalFlags proxy opcode interface
    (arrayForwardedVersioned (stub.objectFor proxy) opcode interface args))

/-- Only `wl_surface.commit` does anything. -/
def wlProxyMarshal (proxy : WlProxyRef) (opcode : UInt32) (_args : List Argument) : Marshalled :=
  match stub.objectFor proxy with
  | .surface offset =>
      if opcode = 6 then stub.sendsTo (stub.slotFor offset.val) .wlSurfaceCommit 0
      else stub.returns 0
  | _ => stub.returns 0

end WlBridgeState

end GlesBridge.Stub
