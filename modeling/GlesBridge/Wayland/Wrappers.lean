import GlesBridge.Stub.Wrappers
import GlesBridge.Systems.Machine
import GlesBridge.Wayland.Marshal
import Mathlib.Data.List.Forall2

namespace GlesBridge.Wayland

open GlesBridge.Stub GlesBridge.Systems

/-! Proxy wrappers over the life of a client: what stands for what, and which calls can tell
a wrapper from the object that it wraps.
-/

inductive ProxyCall where
  | marshalFlags (request : MarshalRequest)
  | marshal (entry : EntryPoint) (request : MarshalRequest)
  | addListener (proxy : WlProxyRef) (funcs data : UInt64)
  | addDispatcher (proxy : WlProxyRef) (fn impl data : UInt64)
  | destroy (proxy : WlProxyRef)
  | getId (proxy : WlProxyRef)

/-- A command with what comes after its reply, the tables that are left, and the events that
are fired meanwhile. -/
structure ProxyOutcome where
  marshalled : Marshalled
  tables : ProxyTables
  told : List Delivery

/-- What an entry point hands to `wl_proxy_marshal_flags`. -/
def EntryPoint.handed (stub : WlBridgeState) (request : MarshalRequest) : EntryPoint → VaList
  | .marshal | .constructor | .constructorVersioned => []
  | .arrayConstructor =>
      WlBridgeState.arrayForwarded (stub.objectFor request.proxy) request.opcode request.interface
        request.args
  | .arrayConstructorVersioned =>
      WlBridgeState.arrayForwardedVersioned (stub.objectFor request.proxy) request.opcode
        request.interface request.args

/-- What it makes of the result. -/
def EntryPoint.finish (interface : Option String) : EntryPoint → Marshalled → Marshalled
  | .arrayConstructor | .arrayConstructorVersioned => WlBridgeState.nullWithout interface
  | .marshal | .constructor | .constructorVersioned => id

namespace ProxyCall

def proxy : ProxyCall → WlProxyRef
  | marshalFlags request | marshal _ request => request.proxy
  | addListener proxy _ _ | addDispatcher proxy _ _ _ | destroy proxy | getId proxy => proxy

def outcome (stub : WlBridgeState) (tables : ProxyTables) : ProxyCall → ProxyOutcome
  | marshalFlags request => ⟨request.flags stub, tables, []⟩
  | marshal entry request => ⟨entry.call stub request, tables, []⟩
  | addListener proxy funcs data =>
      let added := stub.wlProxyAddListener proxy funcs data
      ⟨added.1.returns 0, tables, added.2⟩
  | addDispatcher proxy fn impl data =>
      let added := stub.wlProxyAddDispatcher proxy fn impl data
      ⟨added.1.returns 0, stub.capsPending proxy tables, added.2⟩
  | destroy .display => ⟨stub.returns 0, tables, []⟩
  | destroy (.handle number) =>
      ⟨.ok (stub.wlProxyDestroy number), stub.forgetProxy tables (.handle number), []⟩
  | getId proxy => ⟨stub.returns (stub.wlProxyGetId proxy), tables, []⟩

/-- The request that a call is taken for, with the arguments that it is taken with. -/
def performed (stub : WlBridgeState) : ProxyCall → Option (Branch × VaList)
  | marshalFlags request => some (request.branch stub, request.passed)
  | marshal .marshal _ => none
  | marshal entry request => some (request.branch stub, entry.handed stub request)
  | _ => none

end ProxyCall

/-- The object after the placeholder. -/
def objectGiven : VaList → Option UInt32
  | some (.object _) :: some (.object handle) :: _ => some handle
  | _ => none

/-- The requests that look at the handle of their object. -/
def Minds (stub : WlBridgeState) (object : UInt32) : Branch → Prop
  | .getShellSurface | .webosGetShellSurface => stub.slotForSurface object ≠ 0
  | .getWebosSeat => object = handleAt bhSeatBase 1
  | _ => False

/-! ## Calls with other handles -/

section

variable (related : UInt32 → UInt32 → Prop)

inductive RelatedProxy : WlProxyRef → WlProxyRef → Prop where
  | display : RelatedProxy .display .display
  | handle {given real : UInt32} (stands : related given real) :
      RelatedProxy (.handle given) (.handle real)

inductive RelatedArgument : Argument → Argument → Prop where
  | uint (value : UInt32) : RelatedArgument (.uint value) (.uint value)
  | string (text : Option (List UInt8)) : RelatedArgument (.string text) (.string text)
  | object {given real : UInt32} (stands : related given real) :
      RelatedArgument (.object given) (.object real)

structure RelatedRequest (given real : MarshalRequest) : Prop where
  proxy : RelatedProxy related given.proxy real.proxy
  opcode : given.opcode = real.opcode
  interface : given.interface = real.interface
  args : List.Forall₂ (RelatedArgument related) given.args real.args

/-- The same call with other handles in its places. -/
inductive RelatedCall : ProxyCall → ProxyCall → Prop where
  | marshalFlags {given real : MarshalRequest} (stands : RelatedRequest related given real) :
      RelatedCall (.marshalFlags given) (.marshalFlags real)
  | marshal {given real : MarshalRequest} (entry : EntryPoint)
      (stands : RelatedRequest related given real) :
      RelatedCall (.marshal entry given) (.marshal entry real)
  | addListener {given real : WlProxyRef} (funcs data : UInt64)
      (stands : RelatedProxy related given real) :
      RelatedCall (.addListener given funcs data) (.addListener real funcs data)
  | addDispatcher {given real : WlProxyRef} (fn impl data : UInt64)
      (stands : RelatedProxy related given real) :
      RelatedCall (.addDispatcher given fn impl data) (.addDispatcher real fn impl data)
  | destroy {given real : WlProxyRef} (stands : RelatedProxy related given real) :
      RelatedCall (.destroy given) (.destroy real)
  | getId {given real : WlProxyRef} (stands : RelatedProxy related given real) :
      RelatedCall (.getId given) (.getId real)

end

structure WrapperWorld where
  stub : WlBridgeState
  tables : ProxyTables
  /-- The object that each wrapper in use was made of. -/
  wrapped : Fin maxWrappers → Option UInt32

inductive WrapperInput where
  | create (proxy : WlProxyRef)
  | wrapperDestroy (proxy : WlProxyRef)
  | call (call : ProxyCall) (reply : UInt64)
  | others (stub : WlBridgeState) (tables : ProxyTables)

/-- Any other pointer goes to the real library. -/
def Bridged : WlProxyRef → Prop
  | .display => True
  | .handle number => IsBh number

instance decidableBridged : ∀ proxy, Decidable (Bridged proxy)
  | .display => isTrue trivial
  | .handle number => decidableIsBh number

namespace WrapperWorld

variable (world : WrapperWorld)

def start (stub : WlBridgeState) (tables : ProxyTables) : WrapperWorld where
  stub := { stub with wrapperTarget := fun _ => 0 }
  tables
  wrapped _ := none

/-- The object that a handle stands for. -/
def object (handle : UInt32) : UInt32 := Aliases.meaning wrapperOf world.wrapped handle

def isNow (slot : Option (Fin maxWrappers)) (object : Option UInt32) :
    Fin maxWrappers → Option UInt32 :=
  match slot with
  | some slot => Function.update world.wrapped slot object
  | none => world.wrapped

/-- The wrapper that is returned wraps what the given proxy stands for. -/
def create (proxy : WlProxyRef) : WrapperWorld :=
  let made := world.stub.wlProxyCreateWrapper proxy
  { world with
    stub := made.1
    wrapped :=
      match proxy, made.2 with
      | .handle number, some (.handle wrapper) =>
          world.isNow (wrapperOf wrapper) (some (world.object number))
      | _, _ => world.wrapped }

def wrapperDestroy (proxy : WlProxyRef) : WrapperWorld :=
  let left := world.stub.wlProxyWrapperDestroy world.tables proxy
  { stub := left.1
    tables := left.2
    wrapped :=
      match proxy with
      | .handle number => world.isNow (wrapperOf number) none
      | .display => world.wrapped }

/-- Nothing comes after a failed assertion, or an argument that was not passed. -/
def afterCall (call : ProxyCall) (reply : UInt64) : Option WrapperWorld :=
  let outcome := call.outcome world.stub world.tables
  match outcome.marshalled with
  | .ok marshalled =>
      some { world with stub := (marshalled.finish reply).1, tables := outcome.tables }
  | .error _ => none

/-- Everything else that the stub does leaves the wrappers alone. -/
def step : WrapperInput → Option WrapperWorld
  | .create proxy => if Bridged proxy then some (world.create proxy) else none
  | .wrapperDestroy proxy => if Bridged proxy then some (world.wrapperDestroy proxy) else none
  | .call call reply => if Bridged call.proxy then world.afterCall call reply else none
  | .others stub tables =>
      some { world with
        stub := { stub with wrapperTarget := world.stub.wrapperTarget }
        tables }

/-! ## Wrappers in the place of objects -/

/-- The second handle is the first one, or the object that it stands for. -/
def Stands (given real : UInt32) : Prop := real = given ∨ real = world.object given

/-- The object in the place of a wrapper makes no difference. -/
def Transparent (call : ProxyCall) : Prop :=
  ∀ other, RelatedCall world.Stands call other →
    other.outcome world.stub world.tables = call.outcome world.stub world.tables

/-- Every handle is taken for the object that it stands for, and no wrapper is found but
in its own place. -/
def Resolves : Prop :=
  ∀ handle, world.stub.resolveHandle handle = world.object handle ∧
    (wrapperOf (world.stub.resolveHandle handle) = none ∨
      world.stub.resolveHandle handle = handle)

/-- Only what was kept of the wrapper itself is gone. -/
structure Intact (next : WrapperWorld) (wrapper : UInt32) : Prop where
  stub : next.stub = { world.stub with wrapperTarget := next.stub.wrapperTarget }
  userData : ∀ other, other ≠ wrapper → next.tables.userData other = world.tables.userData other
  tags : ∀ other, other ≠ wrapper → next.tables.tags other = world.tables.tags other
  seatCapsPending : next.tables.seatCapsPending = world.tables.seatCapsPending
  resolves : ∀ other, other ≠ wrapper →
    next.stub.resolveHandle other = world.stub.resolveHandle other

/-- What is right about one input, besides the handles afterwards. -/
def RightNow : WrapperInput → Prop
  | .call call _ => world.Transparent call
  | .wrapperDestroy (.handle number) =>
      wrapperOf number ≠ none → world.Intact (world.wrapperDestroy (.handle number)) number
  | _ => True

def Right (input : WrapperInput) : Prop :=
  world.RightNow input ∧ ∀ next, world.step input = some next → next.Resolves

/-- No wrapper of another object is given to a request that looks at the handle, and none is made
of a wrapper that is not in use. -/
def Orderly : WrapperInput → Prop
  | .call call _ => ∀ branch args handle object,
      call.performed world.stub = some (branch, args) → objectGiven args = some handle →
        Aliases.target wrapperOf world.wrapped handle = some object →
        ¬ Minds world.stub object branch
  | .create (.handle number) => ∀ slot, IsBh number → world.stub.freeWrapper = some slot →
      wrapperOf (world.object number) = none ∨ wrapperOf (world.object number) = some slot
  | _ => True

end WrapperWorld

def wrapperMachine : Machine WrapperWorld WrapperInput where
  step := WrapperWorld.step

/-! ## Lists of arguments -/

section

variable {related : UInt32 → UInt32 → Prop} {given real : List Argument} {args other : VaList}

abbrev RelatedArgs (related : UInt32 → UInt32 → Prop) : VaList → VaList → Prop :=
  List.Forall₂ (Option.Rel (RelatedArgument related))

theorem relatedArgs_passed (stands : List.Forall₂ (RelatedArgument related) given real) :
    RelatedArgs related (given.map some) (real.map some) := by
  induction stands with
  | nil => exact .nil
  | cons first _ ih => exact .cons (.some first) ih

theorem related_getElem? (stands : List.Forall₂ (RelatedArgument related) given real)
    (index : Nat) : Option.Rel (RelatedArgument related) given[index]? real[index]? := by
  induction stands generalizing index with
  | nil => exact .none
  | cons first _ ih =>
      cases index with
      | zero => exact .some first
      | succ index => exact ih index

/-- The placeholder is 0 where an entry point makes it. -/
theorem relatedArgs_handed {stub : WlBridgeState} {first second : MarshalRequest}
    (zero : related 0 0) (entry : EntryPoint) (stands : RelatedRequest related first second)
    (same : stub.objectFor second.proxy = stub.objectFor first.proxy) :
    RelatedArgs related (entry.handed stub first) (entry.handed stub second) := by
  cases entry with
  | marshal | constructor | constructorVersioned => exact .nil
  | arrayConstructor =>
      rw [EntryPoint.handed, EntryPoint.handed, same, ← stands.opcode, ← stands.interface]
      unfold WlBridgeState.arrayForwarded
      split
      · exact .cons (.some (.object zero)) (.cons (related_getElem? stands.args 1) .nil)
      · split
        · split
          · exact .cons (related_getElem? stands.args 0)
              (.cons (related_getElem? stands.args 1) .nil)
          · exact .nil
        · exact .nil
  | arrayConstructorVersioned =>
      rw [EntryPoint.handed, EntryPoint.handed, WlBridgeState.arrayForwardedVersioned,
        WlBridgeState.arrayForwardedVersioned, same, ← stands.opcode, ← stands.interface]
      split
      · exact .cons (related_getElem? stands.args 1) .nil
      · exact .nil

theorem objectGiven_related (stands : RelatedArgs related args other) :
    Option.Rel related (objectGiven args) (objectGiven other) := by
  cases stands with
  | nil => exact .none
  | cons first rest =>
      cases first with
      | none => exact .none
      | some first =>
          cases first with
          | uint value | string text => exact .none
          | object placeholder =>
              cases rest with
              | nil => exact .none
              | cons second rest =>
                  cases second with
                  | none => exact .none
                  | some second =>
                      cases second with
                      | uint value | string text => exact .none
                      | object stands => exact .some stands

theorem withObject_eq {next : UInt32 → Marshalled} :
    WlBridgeState.withObject args next =
      ((objectGiven args).map next).getD (.error .argument) := by
  unfold WlBridgeState.withObject
  split
  · rfl
  · rename_i missing
    unfold objectGiven
    split
    · exact absurd rfl (missing _ _ _)
    · rfl

theorem withUint_related {next : UInt32 → Marshalled} (stands : RelatedArgs related args other) :
    WlBridgeState.withUint other next = WlBridgeState.withUint args next := by
  cases stands with
  | nil => rfl
  | cons first _ =>
      cases first with
      | none => rfl
      | some first =>
          cases first with
          | _ => rfl

theorem withStrings_related {next : Option (List UInt8) → Option (List UInt8) → Marshalled}
    (stands : RelatedArgs related args other) :
    WlBridgeState.withStrings other next = WlBridgeState.withStrings args next := by
  cases stands with
  | nil => rfl
  | cons first rest =>
      cases first with
      | none => rfl
      | some first =>
          cases first with
          | uint value | object stands => rfl
          | string name =>
              cases rest with
              | nil => rfl
              | cons second _ =>
                  cases second with
                  | none => rfl
                  | some second =>
                      cases second with
                      | _ => rfl

end

/-! ## The requests that take an object -/

section

variable {stub : WlBridgeState} {branch : Branch} {next : UInt32 → Marshalled}
  {handle object : UInt32} {slot : Fin maxWrappers} {interface : Option String} {args : VaList}

/-- What such a request does with its object. -/
def objectNext (stub : WlBridgeState) : Branch → Option (UInt32 → Marshalled)
  | .getShellSurface =>
      some (stub.getShellSurface .wlShellGetShellSurface (.ofNat bhShellSurfBase))
  | .webosGetShellSurface =>
      some (stub.getShellSurface .wlWebosShellGetShellSurface (.ofNat bhWebosSurfBase))
  | .getWebosSeat => some stub.getWebosSeat
  | _ => none

theorem perform_objectNext (takes : objectNext stub branch = some next) :
    stub.perform interface args branch =
      ((objectGiven args).map next).getD (.error .argument) := by
  cases branch with
  | getShellSurface | webosGetShellSurface | getWebosSeat =>
      cases takes
      exact withObject_eq
  | _ => cases takes

theorem minds_objectNext (minds : Minds stub object branch) :
    ∃ next, objectNext stub branch = some next := by
  cases branch with
  | getShellSurface | webosGetShellSurface | getWebosSeat => exact ⟨_, rfl⟩
  | _ => exact minds.elim

theorem le_of_wrapperOf (wrapper : wrapperOf handle = some slot) :
    bhWrapperBase ≤ handle.toNat := by
  rw [eq_handleAt wrapper, toNat_handleAt
    (Nat.lt_trans (Nat.add_lt_add_left slot.isLt _) (by decide))]
  exact Nat.le_add_right ..

/-- The handle of a wrapper is the handle of no surface. -/
theorem slotForSurface_wrapper (wrapper : wrapperOf handle = some slot) :
    stub.slotForSurface handle = 0 := by
  have above : 1024 ≤ handle.toNat := le_of_wrapperOf wrapper
  have far : ¬ handle.toNat - 100 < 8 := by omega
  rw [WlBridgeState.slotForSurface, if_pos (Nat.le_trans (by decide) above),
    WlBridgeState.slotFor, dif_neg far]

theorem seat_wrapper (wrapper : wrapperOf handle = some slot) :
    offsetIn bhSeatBase maxSeats handle = none := by
  have above : 1024 ≤ handle.toNat := le_of_wrapperOf wrapper
  have far : ¬ (10 ≤ handle.toNat ∧ handle.toNat - 10 < 2) := by omega
  exact dif_neg far

/-- A surface without a slot fails the same assertion. -/
theorem getShellSurface_eq_iff {command : UInt32 → StubCommand} {base : UInt32}
    (wrapper : wrapperOf handle = some slot) :
    stub.getShellSurface command base object = stub.getShellSurface command base handle ↔
      ¬ stub.slotForSurface object ≠ 0 := by
  have fails : stub.getShellSurface command base handle = .error .assertion :=
    if_pos (slotForSurface_wrapper wrapper)
  rw [fails, not_not]
  constructor
  · intro same
    by_contra mapped
    have sent : stub.getShellSurface command base object =
        stub.sends (command (stub.slotForSurface object))
          (base + (object - .ofNat bhSurfaceBase)) := if_neg mapped
    cases sent.symm.trans same
  · exact fun unmapped => if_pos unmapped

theorem offsetIn_seat (object : UInt32) :
    ((offsetIn bhSeatBase maxSeats object).map Fin.val).getD 0 = 0 ∨
      object = handleAt bhSeatBase 1 := by
  cases found : offsetIn bhSeatBase maxSeats object with
  | none => exact .inl rfl
  | some index =>
      have place := eq_handleAt found
      have bound : index.val < 2 := index.isLt
      by_cases first : index.val = 0
      · exact .inl first
      · have second : index.val = 1 := by omega
        rw [second] at place
        exact .inr place

/-- The first seat is what anything else is taken for. -/
theorem getWebosSeat_eq_iff (wrapper : wrapperOf handle = some slot) :
    stub.getWebosSeat object = stub.getWebosSeat handle ↔ ¬ object = handleAt bhSeatBase 1 := by
  rw [WlBridgeState.getWebosSeat, WlBridgeState.getWebosSeat, seat_wrapper wrapper]
  constructor
  · rintro same rfl
    have calls := Except.ok.inj same
    have handles : (handleAt bhWebosSeatBase 1 : UInt32) = handleAt bhWebosSeatBase 0 :=
      congrArg (fun call : StubCall => (call.finish 0).2) calls
    exact absurd handles (by decide)
  · intro other
    rw [(offsetIn_seat object).resolve_right other]
    rfl

/-- A wrapper is told from its object where the request minds. -/
theorem next_eq_iff (takes : objectNext stub branch = some next)
    (wrapper : wrapperOf handle = some slot) :
    next object = next handle ↔ ¬ Minds stub object branch := by
  cases branch with
  | getShellSurface | webosGetShellSurface =>
      cases takes
      exact getShellSurface_eq_iff wrapper
  | getWebosSeat =>
      cases takes
      exact getWebosSeat_eq_iff wrapper
  | _ => cases takes

end

/-! ## One call -/

section

variable {related : UInt32 → UInt32 → Prop} {stub : WlBridgeState} {branch : Branch}
  {interface : Option String} {args other : VaList} {request real : MarshalRequest}

/-- Arguments that are no objects are the same. -/
theorem perform_related (stands : RelatedArgs related args other)
    (alike : ∀ next given object, objectNext stub branch = some next →
      objectGiven args = some given → objectGiven other = some object →
      next object = next given) :
    stub.perform interface other branch = stub.perform interface args branch := by
  cases takes : objectNext stub branch with
  | some next =>
      have objects := objectGiven_related stands
      rw [perform_objectNext takes, perform_objectNext takes]
      cases first : objectGiven args with
      | none =>
          cases second : objectGiven other with
          | none => rfl
          | some object =>
              rw [first, second] at objects
              cases objects
      | some given =>
          cases second : objectGiven other with
          | none =>
              rw [first, second] at objects
              cases objects
          | some object => exact alike next given object takes first second
  | none =>
      cases branch with
      | getShellSurface | webosGetShellSurface | getWebosSeat => cases takes
      | setState offset => exact withUint_related stands
      | setProperty offset => exact withStrings_related stands
      | _ => rfl

end

namespace WrapperWorld

/-- The table is the one of the objects, and no object is itself a wrapper of another one. -/
structure Sound (world : WrapperWorld) : Prop where
  table : world.stub.wraps = world.wrapped
  settled : Aliases.Settled wrapperOf world.wrapped

variable {world : WrapperWorld} {given real : WlProxyRef} {handle object : UInt32}
  {slot : Fin maxWrappers} {branch : Branch} {args : VaList}

theorem object_of_target
    (target : Aliases.target wrapperOf world.wrapped handle = some object) :
    world.object handle = object := by
  rw [WrapperWorld.object, Aliases.meaning, target, Option.getD_some]

theorem object_of_target_none (target : Aliases.target wrapperOf world.wrapped handle = none) :
    world.object handle = handle := by
  rw [WrapperWorld.object, Aliases.meaning, target, Option.getD_none]

theorem Sound.resolveHandle_eq (sound : world.Sound) :
    world.stub.resolveHandle handle = world.object handle := by
  have settled := sound.settled
  rw [← sound.table] at settled
  rw [WlBridgeState.resolveHandle_eq_meaning settled, sound.table, WrapperWorld.object]

theorem Sound.resolves (sound : world.Sound) : world.Resolves := by
  intro handle
  refine ⟨sound.resolveHandle_eq, ?_⟩
  rw [sound.resolveHandle_eq]
  exact sound.settled.final WlBridgeState.wrapperOf_injective

theorem Sound.resolveHandle_stands {given real : UInt32} (sound : world.Sound)
    (stands : world.Stands given real) :
    world.stub.resolveHandle real = world.stub.resolveHandle given := by
  rcases stands with rfl | rfl
  · rfl
  · rw [sound.resolveHandle_eq, sound.resolveHandle_eq]
    exact sound.settled.meaning_meaning

theorem Sound.objectFor_stands (sound : world.Sound)
    (stands : RelatedProxy world.Stands given real) :
    world.stub.objectFor real = world.stub.objectFor given := by
  cases stands with
  | display => rfl
  | handle stands => exact congrArg objectOf (sound.resolveHandle_stands stands)

theorem Sound.branch_proxy {opcode : UInt32} {interface : Option String} (sound : world.Sound)
    (stands : RelatedProxy world.Stands given real) :
    world.stub.branch real opcode interface = world.stub.branch given opcode interface := by
  cases stands with
  | display => rfl
  | handle stands =>
      rw [WlBridgeState.branch, WlBridgeState.branch, sound.resolveHandle_stands stands]

theorem Sound.branch_stands {first second : MarshalRequest} (sound : world.Sound)
    (stands : RelatedRequest world.Stands first second) :
    second.branch world.stub = first.branch world.stub := by
  rw [MarshalRequest.branch, MarshalRequest.branch, ← stands.opcode, ← stands.interface]
  exact sound.branch_proxy stands.proxy

/-- A wrapper that is in use is minded nowhere. -/
def Unminded (world : WrapperWorld) (branch : Branch) (args : VaList) : Prop :=
  ∀ handle object, objectGiven args = some handle →
    Aliases.target wrapperOf world.wrapped handle = some object →
    ¬ Minds world.stub object branch

theorem perform_stands {interface : Option String} {other : VaList}
    (stands : RelatedArgs world.Stands args other) (unminded : world.Unminded branch args) :
    world.stub.perform interface other branch = world.stub.perform interface args branch := by
  refine perform_related stands fun next given real takes first second => ?_
  have related := objectGiven_related stands
  rw [first, second] at related
  cases related with
  | some stands =>
      rcases stands with rfl | rfl
      · rfl
      · cases target : Aliases.target wrapperOf world.wrapped given with
        | none => rw [object_of_target_none target]
        | some object =>
            obtain ⟨slot, wrapper, -⟩ := Aliases.target_eq_some_iff.mp target
            rw [object_of_target target]
            exact (next_eq_iff takes wrapper).mpr (unminded given object first target)

theorem call_eq_finish {stub : WlBridgeState} {request : MarshalRequest} {entry : EntryPoint}
    (other : entry ≠ .marshal) :
    entry.call stub request =
      entry.finish request.interface
        (stub.perform request.interface (entry.handed stub request) (request.branch stub)) := by
  cases entry with
  | marshal => exact absurd rfl other
  | constructor | constructorVersioned | arrayConstructor | arrayConstructorVersioned => rfl

/-- A call whose request minds no wrapper. -/
def Passes (world : WrapperWorld) (call : ProxyCall) : Prop :=
  ∀ branch args, call.performed world.stub = some (branch, args) → world.Unminded branch args

theorem Sound.transparent (sound : world.Sound) {call : ProxyCall} (passes : world.Passes call) :
    world.Transparent call := by
  intro other stands
  cases stands with
  | marshalFlags stands =>
      rename_i request other
      have same : other.flags world.stub = request.flags world.stub := by
        change world.stub.perform other.interface other.passed (other.branch world.stub) =
          world.stub.perform request.interface request.passed (request.branch world.stub)
        rw [sound.branch_stands stands, ← stands.interface]
        exact perform_stands (relatedArgs_passed stands.args) (passes _ _ rfl)
      rw [ProxyCall.outcome, ProxyCall.outcome, same]
  | marshal entry stands =>
      rename_i request other
      have objects := sound.objectFor_stands stands.proxy
      have same : entry.call world.stub other = entry.call world.stub request := by
        by_cases plain : entry = .marshal
        · subst plain
          change world.stub.wlProxyMarshal other.proxy other.opcode other.args =
            world.stub.wlProxyMarshal request.proxy request.opcode request.args
          unfold WlBridgeState.wlProxyMarshal
          rw [objects, ← stands.opcode]
        · have args := relatedArgs_handed (.inl rfl) entry stands objects
          rw [call_eq_finish plain, call_eq_finish plain, sound.branch_stands stands,
            ← stands.interface, perform_stands args (passes _ _ ?_)]
          cases entry with
          | marshal => exact absurd rfl plain
          | constructor | constructorVersioned | arrayConstructor | arrayConstructorVersioned =>
              rfl
      rw [ProxyCall.outcome, ProxyCall.outcome, same]
  | addListener funcs data stands =>
      have objects := sound.objectFor_stands stands
      rw [ProxyCall.outcome, ProxyCall.outcome, WlBridgeState.wlProxyAddListener,
        WlBridgeState.wlProxyAddListener, objects]
  | addDispatcher fn impl data stands =>
      have objects := sound.objectFor_stands stands
      rw [ProxyCall.outcome, ProxyCall.outcome, WlBridgeState.wlProxyAddDispatcher,
        WlBridgeState.wlProxyAddDispatcher, WlBridgeState.capsPending, WlBridgeState.capsPending,
        objects]
  | destroy stands =>
      cases stands with
      | display => rfl
      | handle stands =>
          have resolved := sound.resolveHandle_stands stands
          rw [ProxyCall.outcome, ProxyCall.outcome, WlBridgeState.wlProxyDestroy,
            WlBridgeState.wlProxyDestroy, WlBridgeState.forgetProxy, WlBridgeState.forgetProxy,
            resolved]
  | getId stands =>
      cases stands with
      | display => rfl
      | handle stands =>
          have resolved := sound.resolveHandle_stands stands
          rw [ProxyCall.outcome, ProxyCall.outcome, WlBridgeState.wlProxyGetId,
            WlBridgeState.wlProxyGetId, resolved]

/-! ## Every wrapper replaced -/

def realProxy (world : WrapperWorld) : WlProxyRef → WlProxyRef
  | .display => .display
  | .handle number => .handle (world.object number)

def realArgument (world : WrapperWorld) : Argument → Argument
  | .object handle => .object (world.object handle)
  | .uint value => .uint value
  | .string text => .string text

def realRequest (world : WrapperWorld) (request : MarshalRequest) : MarshalRequest :=
  { request with
    proxy := world.realProxy request.proxy
    args := request.args.map world.realArgument }

section

variable {related : UInt32 → UInt32 → Prop} {request : MarshalRequest} {entry : EntryPoint}
  {next : UInt32 → Marshalled}

theorem related_realRequest (all : ∀ handle, related handle (world.object handle)) :
    RelatedRequest related request (world.realRequest request) where
  proxy := by
    rw [realRequest]
    cases request.proxy with
    | display => exact .display
    | handle number => exact .handle (all number)
  opcode := rfl
  interface := rfl
  args := by
    refine List.forall₂_map_right_iff.mpr (List.forall₂_same.mpr fun argument _ => ?_)
    cases argument with
    | uint value => exact .uint value
    | string text => exact .string text
    | object handle => exact .object (all handle)

/-- The request is then given the object. -/
theorem objectGiven_real {args other : VaList}
    (stands : RelatedArgs (fun given real => real = world.object given) args other)
    (given : objectGiven args = some handle) : objectGiven other = some (world.object handle) := by
  have related := objectGiven_related stands
  rw [given] at related
  cases found : objectGiven other with
  | none =>
      rw [found] at related
      cases related
  | some real =>
      rw [found] at related
      cases related with
      | some same => rw [same]

theorem object_zero : world.object 0 = 0 :=
  object_of_target_none (Aliases.target_of_none rfl)

theorem interface_of_objectNext {stub : WlBridgeState}
    (takes : objectNext stub (request.branch stub) = some next) : request.interface ≠ none := by
  have chosen : Chosen (stub.objectFor request.proxy) request.opcode request.interface
      (request.branch stub) := chosen_request
  cases taken : request.branch stub with
  | getShellSurface | getWebosSeat =>
      rw [taken] at chosen
      exact chosen.2
  | webosGetShellSurface =>
      rw [taken] at chosen
      exact chosen.2.2
  | _ =>
      rw [taken] at takes
      cases takes

theorem finish_of_interface {interface : Option String} {marshalled : Marshalled}
    (given : interface ≠ none) : entry.finish interface marshalled = marshalled := by
  cases entry with
  | arrayConstructor | arrayConstructorVersioned => exact if_neg given
  | marshal | constructor | constructorVersioned => rfl

/-- A request that minds tells the object from its wrapper. -/
theorem perform_minded {interface : Option String} {args other : VaList}
    (stands : RelatedArgs (fun given real => real = world.object given) args other)
    (given : objectGiven args = some handle)
    (target : Aliases.target wrapperOf world.wrapped handle = some object)
    (minds : Minds world.stub object branch) :
    world.stub.perform interface other branch ≠ world.stub.perform interface args branch := by
  intro same
  obtain ⟨next, takes⟩ := minds_objectNext minds
  obtain ⟨slot, wrapper, -⟩ := Aliases.target_eq_some_iff.mp target
  have real := objectGiven_real stands given
  rw [object_of_target target] at real
  rw [perform_objectNext takes, perform_objectNext takes, real, given] at same
  exact (next_eq_iff takes wrapper).mp same minds

theorem Sound.passes (sound : world.Sound) {call : ProxyCall}
    (transparent : world.Transparent call) : world.Passes call := by
  intro branch args performed handle object given target minds
  cases call with
  | marshalFlags request =>
      cases performed
      have stands : RelatedRequest world.Stands request (world.realRequest request) :=
        related_realRequest fun _ => .inr rfl
      have exactly : RelatedRequest (fun given real => real = world.object given) request
          (world.realRequest request) := related_realRequest fun _ => rfl
      have same : (world.realRequest request).flags world.stub = request.flags world.stub :=
        congrArg ProxyOutcome.marshalled (transparent _ (.marshalFlags stands))
      change world.stub.perform request.interface (world.realRequest request).passed
          ((world.realRequest request).branch world.stub) =
        world.stub.perform request.interface request.passed (request.branch world.stub) at same
      rw [sound.branch_stands stands] at same
      exact perform_minded (relatedArgs_passed exactly.args) given target minds same
  | marshal entry request =>
      by_cases plain : entry = .marshal
      · subst plain
        cases performed
      · have shape : (request.branch world.stub, entry.handed world.stub request) =
            (branch, args) := by
          cases entry with
          | marshal => exact absurd rfl plain
          | constructor | constructorVersioned | arrayConstructor
          | arrayConstructorVersioned => exact Option.some.inj performed
        cases shape
        obtain ⟨next, takes⟩ := minds_objectNext minds
        have named := interface_of_objectNext takes
        have stands : RelatedRequest world.Stands request (world.realRequest request) :=
          related_realRequest fun _ => .inr rfl
        have exactly : RelatedRequest (fun given real => real = world.object given) request
            (world.realRequest request) := related_realRequest fun _ => rfl
        have same : entry.call world.stub (world.realRequest request) =
            entry.call world.stub request :=
          congrArg ProxyOutcome.marshalled (transparent _ (.marshal entry stands))
        rw [call_eq_finish plain, call_eq_finish plain, sound.branch_stands stands,
          ← stands.interface, finish_of_interface named, finish_of_interface named] at same
        refine perform_minded (relatedArgs_handed ?_ entry exactly
          (sound.objectFor_stands stands.proxy)) given target minds same
        exact object_zero.symm
  | addListener _ _ _ | addDispatcher _ _ _ _ | destroy _ | getId _ => cases performed

end

/-! ## The table from step to step -/

theorem sound_start {stub : WlBridgeState} {tables : ProxyTables} :
    (start stub tables).Sound where
  table := rfl
  settled := nofun

theorem Sound.others (sound : world.Sound) (stub : WlBridgeState) (tables : ProxyTables) :
    Sound { world with
      stub := { stub with wrapperTarget := world.stub.wrapperTarget }
      tables } where
  table := sound.table
  settled := sound.settled

theorem keepsWrappers_outcome (call : ProxyCall) (stub : WlBridgeState) (tables : ProxyTables) :
    WlBridgeState.KeepsWrappers stub (call.outcome stub tables).marshalled := by
  cases call with
  | marshalFlags request => exact WlBridgeState.keepsWrappers_perform _
  | marshal entry request =>
      cases entry with
      | marshal => exact WlBridgeState.keepsWrappers_wlProxyMarshal request.args
      | constructor | constructorVersioned => exact WlBridgeState.keepsWrappers_perform _
      | arrayConstructor | arrayConstructorVersioned =>
          exact WlBridgeState.keepsWrappers_nullWithout (WlBridgeState.keepsWrappers_perform _)
  | addListener proxy funcs data =>
      exact WlBridgeState.keepsWrappers_returns WlBridgeState.wrapperTarget_wlProxyAddListener
  | addDispatcher proxy fn impl data =>
      exact WlBridgeState.keepsWrappers_returns WlBridgeState.wrapperTarget_wlProxyAddDispatcher
  | destroy proxy =>
      cases proxy with
      | display => exact WlBridgeState.keepsWrappers_returns rfl
      | handle number => exact WlBridgeState.keepsWrappers_wlProxyDestroy
  | getId proxy => exact WlBridgeState.keepsWrappers_returns rfl

theorem Sound.afterCall {call : ProxyCall} {reply : UInt64} {next : WrapperWorld}
    (sound : world.Sound) (taken : world.afterCall call reply = some next) : next.Sound := by
  unfold WrapperWorld.afterCall at taken
  dsimp only at taken
  split at taken
  · rename_i marshalled shape
    cases taken
    have kept := keepsWrappers_outcome call world.stub world.tables marshalled shape reply
    refine ⟨?_, sound.settled⟩
    rw [← sound.table]
    funext slot
    rw [WlBridgeState.wraps, kept, WlBridgeState.wraps]
  · cases taken

/-- An object is no null handle. -/
theorem Sound.object_ne_zero (sound : world.Sound) (bridged : IsBh handle) :
    world.object handle ≠ 0 := by
  cases target : Aliases.target wrapperOf world.wrapped handle with
  | none =>
      rw [object_of_target_none target]
      rintro rfl
      exact absurd bridged.1 (by decide)
  | some object =>
      obtain ⟨slot, -, entry⟩ := Aliases.target_eq_some_iff.mp target
      rw [object_of_target target]
      rw [← sound.table, WlBridgeState.wraps] at entry
      split at entry
      · cases entry
      · rename_i nonzero
        cases entry
        exact nonzero

theorem create_full {number : UInt32} (full : world.stub.freeWrapper = none) :
    world.create (.handle number) = world := by
  simp only [WrapperWorld.create, WlBridgeState.wlProxyCreateWrapper_full full]

theorem Sound.create_free {number : UInt32} (sound : world.Sound)
    (found : world.stub.freeWrapper = some slot) :
    world.create (.handle number) =
      { world with
        stub := { world.stub with
          wrapperTarget :=
            Function.update world.stub.wrapperTarget slot (world.object number) }
        wrapped := Function.update world.wrapped slot (some (world.object number)) } := by
  simp only [WrapperWorld.create, WlBridgeState.wlProxyCreateWrapper_free found,
    sound.resolveHandle_eq, WlBridgeState.wrapperOf_wrapperHandle, isNow]

theorem Sound.create {number : UInt32} (sound : world.Sound) (bridged : IsBh number)
    (orderly : world.Orderly (.create (.handle number))) :
    (world.create (.handle number)).Sound := by
  cases found : world.stub.freeWrapper with
  | none => rwa [create_full found]
  | some slot =>
      rw [sound.create_free found]
      refine ⟨?_, sound.settled.enter (orderly slot bridged found)⟩
      rw [WlBridgeState.wraps_update, if_neg (sound.object_ne_zero bridged), sound.table]

/-- A wrapper of a wrapper that is not in use is found as that one. -/
theorem Sound.orderly_of_resolves {number : UInt32} (sound : world.Sound)
    (resolves : (world.create (.handle number)).Resolves) :
    world.Orderly (.create (.handle number)) := by
  intro slot _ found
  obtain ⟨faithful, final⟩ := resolves (wrapperHandle slot)
  rw [faithful] at final
  rw [sound.create_free found, WrapperWorld.object,
    Aliases.meaning_update_self WlBridgeState.wrapperOf_wrapperHandle] at final
  refine final.imp_right fun same => ?_
  rw [same]
  exact WlBridgeState.wrapperOf_wrapperHandle

theorem Sound.wrapperDestroy {number : UInt32} (sound : world.Sound) :
    (world.wrapperDestroy (.handle number)).Sound := by
  cases wrapper : wrapperOf number with
  | none =>
      refine ⟨?_, ?_⟩
      · rw [WrapperWorld.wrapperDestroy, WlBridgeState.wlProxyWrapperDestroy, wrapper, isNow]
        exact sound.table
      · rw [WrapperWorld.wrapperDestroy, wrapper, isNow]
        exact sound.settled
  | some slot =>
      refine ⟨?_, ?_⟩
      · rw [WrapperWorld.wrapperDestroy, WlBridgeState.wlProxyWrapperDestroy, wrapper, isNow]
        rw [WlBridgeState.wraps_update, if_pos rfl, sound.table]
      · rw [WrapperWorld.wrapperDestroy, wrapper, isNow]
        exact sound.settled.remove

theorem userData_forget {tables : ProxyTables} {other : UInt32} (apart : other ≠ handle) :
    (tables.forget handle).userData other = tables.userData other := by
  rw [ProxyTables.forget]
  dsimp only
  split
  · exact Function.update_of_ne apart ..
  · rfl

theorem tags_forget {tables : ProxyTables} {other : UInt32} (apart : other ≠ handle) :
    (tables.forget handle).tags other = tables.tags other := by
  rw [ProxyTables.forget]
  dsimp only
  split
  · exact Function.update_of_ne apart ..
  · rfl

/-- No other handle was found by way of the wrapper. -/
theorem Sound.intact {number : UInt32} (sound : world.Sound) (wrapper : wrapperOf number = some slot) :
    world.Intact (world.wrapperDestroy (.handle number)) number where
  stub := rfl
  userData _ apart := userData_forget apart
  tags _ apart := tags_forget apart
  seatCapsPending := rfl
  resolves other apart := by
    have elsewhere : wrapperOf other ≠ some slot := fun same =>
      apart (WlBridgeState.wrapperOf_injective same wrapper)
    rw [sound.wrapperDestroy.resolveHandle_eq, sound.resolveHandle_eq, WrapperWorld.object,
      WrapperWorld.object, WrapperWorld.wrapperDestroy, wrapper, isNow]
    exact Aliases.meaning_update_of_ne elsewhere

/-- What one step keeps. -/
theorem Sound.step {input : WrapperInput} {next : WrapperWorld} (sound : world.Sound)
    (orderly : world.Orderly input) (taken : world.step input = some next) : next.Sound := by
  cases input with
  | create proxy =>
      rw [WrapperWorld.step] at taken
      split at taken
      · rename_i bridged
        cases taken
        cases proxy with
        | display => exact sound
        | handle number => exact sound.create bridged orderly
      · cases taken
  | wrapperDestroy proxy =>
      rw [WrapperWorld.step] at taken
      split at taken
      · cases taken
        cases proxy with
        | display => exact sound
        | handle number => exact sound.wrapperDestroy
      · cases taken
  | call call reply =>
      rw [WrapperWorld.step] at taken
      split at taken
      · exact sound.afterCall taken
      · cases taken
  | others stub tables =>
      cases taken
      exact sound.others stub tables

theorem Sound.right_iff {input : WrapperInput} (sound : world.Sound) :
    world.Right input ↔ world.Orderly input := by
  constructor
  · intro right
    cases input with
    | create proxy =>
        cases proxy with
        | display => trivial
        | handle number =>
            intro slot bridged found
            have resolves := right.2 _ (if_pos bridged)
            exact sound.orderly_of_resolves resolves slot bridged found
    | call call reply =>
        intro branch args handle object performed
        exact sound.passes right.1 branch args performed handle object
    | wrapperDestroy proxy => trivial
    | others stub tables => trivial
  · intro orderly
    refine ⟨?_, fun next taken => (sound.step orderly taken).resolves⟩
    cases input with
    | create proxy => trivial
    | others stub tables => trivial
    | call call reply =>
        refine sound.transparent fun branch args performed handle object => ?_
        exact orderly branch args handle object performed
    | wrapperDestroy proxy =>
        cases proxy with
        | display => trivial
        | handle number =>
            intro wrapper
            obtain ⟨slot, wrapper⟩ := Option.ne_none_iff_exists'.mp wrapper
            exact sound.intact wrapper

end WrapperWorld

/-- Wrappers are like their objects as long as none of them takes the place of an object that a
request minds, and each is made of what is in use. -/
theorem wrappers_transparent_iff (stub : WlBridgeState) (tables : ProxyTables)
    (inputs : List WrapperInput) :
    wrapperMachine.Along WrapperWorld.Right (.start stub tables) inputs ↔
      wrapperMachine.Along WrapperWorld.Orderly (.start stub tables) inputs :=
  Machine.along_iff (fun sound => sound.step) (fun sound => sound.right_iff)
    WrapperWorld.sound_start

def noTables : ProxyTables where
  userData _ := 0
  tags _ := 0
  seatCapsPending _ := false

/-- `wl_shell.get_shell_surface` for a wrapper of the surface. -/
def wrappedRequest : MarshalRequest :=
  { shellRequest with args := [.object 0, .object (wrapperHandle 0)] }

/-- The surface has its wrapper. -/
def wrappedWorld : WrapperWorld :=
  (WrapperWorld.start oneSurface noTables).create (.handle (.ofNat bhSurfaceBase))

theorem object_wrappedWorld : wrappedWorld.object (wrapperHandle 0) = .ofNat bhSurfaceBase := by
  decide +kernel

/-- The wrapper of a surface that has a slot is taken for a surface without one. -/
theorem wrapped_surface_aborts :
    ¬ wrapperMachine.Along WrapperWorld.Right (.start oneSurface noTables)
      [.create (.handle (.ofNat bhSurfaceBase)), .call (.marshalFlags wrappedRequest) 0] := by
  intro right
  have transparent : wrappedWorld.Transparent (.marshalFlags wrappedRequest) :=
    (right.2 _ rfl).1.1
  have stands : RelatedRequest wrappedWorld.Stands wrappedRequest shellRequest :=
    { proxy := .handle (.inl rfl)
      opcode := rfl
      interface := rfl
      args := .cons (.object (.inl rfl)) (.cons (.object (.inr object_wrappedWorld.symm)) .nil) }
  have same : shellRequest.flags wrappedWorld.stub = wrappedRequest.flags wrappedWorld.stub :=
    congrArg ProxyOutcome.marshalled (transparent _ (.marshalFlags stands))
  have aborts : wrappedRequest.flags wrappedWorld.stub = .error .assertion := rfl
  have sends : ∃ call, shellRequest.flags wrappedWorld.stub = .ok call := ⟨_, rfl⟩
  obtain ⟨call, sent⟩ := sends
  cases sent.symm.trans (same.trans aborts)

end GlesBridge.Wayland
