import GlesBridge.Stub.Callbacks
import GlesBridge.Systems.Machine
import GlesBridge.Systems.Sweeps

namespace GlesBridge.Wayland

open GlesBridge.Stub GlesBridge.Systems

/-! A callback is done once, two runs of `_bridge_dispatch` after its registration. A
listener that is called may do whatever a client does, so that a run is left between two
slots and other runs come in between.
-/

/-- A callback of the client, which has its own number for as long as it lives. -/
structure CallbackObject where
  slot : Fin maxCallbacks
  live : Bool
  registered : Bool
  dones : Nat

structure CallbackWorld where
  stub : WlBridgeState
  made : Nat
  objects : Nat → CallbackObject
  /-- The object whose registration is in a slot. -/
  holder : Fin maxCallbacks → Option Nat
  /-- An object was done that did not live. -/
  stray : Bool
  /-- The runs of `_bridge_dispatch`, at their slots; a callback is marked when registered. -/
  sweeps : Sweeps Nat

inductive CallbackInput where
  | request
  | addListener (number : Nat) (funcs data : UInt64)
  | addDispatcher (number : Nat) (fn impl data : UInt64)
  | proxyDestroy (number : Nat)
  | marshalDestroy (number : Nat)
  | dispatch
  | visit
  | finish

namespace CallbackWorld

variable (world : CallbackWorld)

def initial (stub : WlBridgeState) : CallbackWorld where
  stub := stub
  made := 0
  objects _ := { slot := 0, live := false, registered := false, dones := 0 }
  holder _ := none
  stray := false
  sweeps := .initial

def request : CallbackWorld :=
  let slot := world.stub.callbackSlot
  { world with
    stub := world.stub.requestCallback
    made := world.made + 1
    objects := Function.update world.objects world.made
      { slot, live := true, registered := false, dones := 0 }
    holder := Function.update world.holder slot (some world.made) }

/-- The runs are counted from here. -/
def register (number : Nat) (change : ListenerSlot → ListenerSlot) : CallbackWorld :=
  let object := world.objects number
  let stub := world.stub.registerCallback object.slot change
  { world with
    stub
    objects := Function.update world.objects number
      { object with registered := decide (stub.callbacks object.slot).listener.Attached }
    holder := Function.update world.holder object.slot (some number)
    sweeps := world.sweeps.restart number }

def destroyed (number : Nat) (stub : WlBridgeState) : CallbackWorld :=
  { world with
    stub
    objects := Function.update world.objects number { world.objects number with live := false } }

def done (number : Nat) : CallbackWorld :=
  let object := world.objects number
  { world with
    objects := Function.update world.objects number { object with dones := object.dones + 1 } }

/-- The done event goes to the object that was registered in the slot. -/
def receive (index : Fin maxCallbacks) : CallbackWorld :=
  match world.holder index with
  | some number =>
      if (world.objects number).live = true then world.done number
      else { world with stray := true }
  | none => { world with stray := true }

def dispatch : CallbackWorld :=
  { world with sweeps := world.sweeps.start fun number => (world.objects number).registered }

/-- The run goes on to its next slot. -/
def pass (stub : WlBridgeState) : CallbackWorld :=
  { world with stub, sweeps := world.sweeps.advance }

def visit : Option CallbackWorld :=
  match world.sweeps.going with
  | top :: _ =>
      if inside : top.position < maxCallbacks then
        let visited := world.stub.visitCallback ⟨top.position, inside⟩
        some (visited.2.foldl (fun world _ => world.receive ⟨top.position, inside⟩)
          (world.pass visited.1))
      else none
  | [] => none

def finish : Option CallbackWorld :=
  match world.sweeps.going with
  | top :: _ =>
      if top.position < maxCallbacks then none
      else some { world with sweeps := world.sweeps.close }
  | [] => none

def step : CallbackInput → Option CallbackWorld
  | .request => some world.request
  | .addListener number funcs data =>
      if (world.objects number).live = true then
        some (world.register number (·.listen funcs data))
      else none
  | .addDispatcher number fn impl data =>
      if (world.objects number).live = true then
        some (world.register number (·.dispatchWith fn impl data))
      else none
  | .proxyDestroy number =>
      let object := world.objects number
      if object.live = true then
        some (world.destroyed number (world.stub.proxyDestroyCallback object.slot))
      else none
  | .marshalDestroy number =>
      let object := world.objects number
      if object.live = true then
        some (world.destroyed number (world.stub.callbackDestroy object.slot))
      else none
  | .dispatch => some world.dispatch
  | .visit => world.visit
  | .finish => world.finish

/-- No two live callbacks share a slot, none is done twice or when it does not live, and
two runs are enough for one that is registered. -/
structure Served : Prop where
  distinct : ∀ one other, (world.objects one).live = true → (world.objects other).live = true →
    (world.objects one).slot = (world.objects other).slot → one = other
  once : ∀ number, (world.objects number).dones ≤ 1
  clean : world.stray = false
  done : ∀ number, (world.objects number).live = true →
    (world.objects number).registered = true → 2 ≤ world.sweeps.ended number →
    (world.objects number).dones = 1

/-- The next slot is free, no callback is registered again that was done, and a request
destroys no callback that waits with a dispatcher. -/
def Orderly : CallbackInput → Prop
  | .request => ∀ number < world.made, (world.objects number).live = true →
      (world.objects number).slot ≠ world.stub.callbackSlot
  | .addListener number _ _ | .addDispatcher number _ _ _ => (world.objects number).dones = 0
  | .marshalDestroy number =>
      let slot := (world.objects number).slot
      (world.stub.callbacks slot).listener.dispatchFn = 0 ∨ world.stub.callbackPending slot = false
  | _ => True

end CallbackWorld

def callbackMachine : Machine CallbackWorld CallbackInput where
  step := CallbackWorld.step


/-! ## The invariant -/

namespace CallbackWorld

variable {world next : CallbackWorld} {number other : Nat} {index : Fin maxCallbacks}

/-- The runs since its registration that have gone by the slot of an object. -/
def progress (world : CallbackWorld) (number : Nat) : Nat :=
  world.sweeps.progress number (world.objects number).slot.val

def Waiting (world : CallbackWorld) (index : Fin maxCallbacks) : Prop :=
  world.stub.callbackPending index = true ∧ (world.stub.callbacks index).listener.Attached

/-- A live callback: it has been done, or it waits and is armed by the first run. -/
structure Tracked (world : CallbackWorld) (number : Nat) : Prop where
  held : world.holder (world.objects number).slot = some number
  listens : (world.objects number).registered = true ↔
    (world.stub.callbacks (world.objects number).slot).listener.Attached
  waits : (world.objects number).dones = 0 ∧
      ((world.objects number).registered = true →
        world.stub.callbackPending (world.objects number).slot = true ∧
        world.progress number ≤
          if world.stub.callbackArmed (world.objects number).slot = true then 1 else 0) ∨
    (world.objects number).dones = 1 ∧
      world.stub.callbackPending (world.objects number).slot = false

structure Sound (world : CallbackWorld) : Prop where
  unmade : ∀ number, world.made ≤ number → (world.objects number).live = false
  once : ∀ number, (world.objects number).dones ≤ 1
  clean : world.stray = false
  tracked : ∀ number, (world.objects number).live = true → world.Tracked number
  waiting : ∀ index, world.Waiting index → ∃ number, world.holder index = some number ∧
    (world.objects number).live = true ∧ (world.objects number).slot = index

namespace Sound

theorem made (sound : world.Sound) (live : (world.objects number).live = true) :
    number < world.made := by
  rcases Nat.lt_or_ge number world.made with before | after
  · exact before
  · rw [sound.unmade number after] at live
    cases live

theorem distinct (sound : world.Sound) (one : (world.objects number).live = true)
    (two : (world.objects other).live = true)
    (same : (world.objects number).slot = (world.objects other).slot) : number = other := by
  have held := (sound.tracked number one).held
  rw [same, (sound.tracked other two).held] at held
  exact (Option.some.inj held).symm

theorem slot_ne (sound : world.Sound) (one : (world.objects number).live = true)
    (two : (world.objects other).live = true) (different : number ≠ other) :
    (world.objects number).slot ≠ (world.objects other).slot :=
  fun same => different (sound.distinct one two same)

theorem served (sound : world.Sound) : world.Served where
  distinct _ _ one two same := sound.distinct one two same
  once := sound.once
  clean := sound.clean
  done number live registered runs := by
    rcases (sound.tracked number live).waits with ⟨-, waits⟩ | ⟨done, -⟩
    · have few := (waits registered).2
      have counted : world.sweeps.ended number ≤ world.progress number := Sweeps.ended_le_progress
      split at few
      · omega
      · omega
    · exact done

theorem initial (stub : WlBridgeState) : (initial stub.reset).Sound where
  unmade _ _ := rfl
  once _ := Nat.zero_le _
  clean := rfl
  tracked _ live := nomatch live
  waiting _ waits := nomatch waits.1

end Sound

/-- What happens elsewhere leaves a callback as it was. -/
theorem Tracked.frame (tracked : world.Tracked number)
    (object : next.objects number = world.objects number)
    (holder : next.holder (world.objects number).slot =
      world.holder (world.objects number).slot)
    (listener : (next.stub.callbacks (world.objects number).slot).listener =
      (world.stub.callbacks (world.objects number).slot).listener)
    (pending : next.stub.callbackPending (world.objects number).slot =
      world.stub.callbackPending (world.objects number).slot)
    (armed : next.stub.callbackArmed (world.objects number).slot =
      world.stub.callbackArmed (world.objects number).slot)
    (progress : next.progress number = world.progress number) : next.Tracked number where
  held := by
    rw [object, holder]
    exact tracked.held
  listens := by
    rw [object, listener]
    exact tracked.listens
  waits := by
    rw [object, pending, armed, progress]
    exact tracked.waits

theorem progress_eq (object : next.objects number = world.objects number)
    (sweeps : next.sweeps = world.sweeps) : next.progress number = world.progress number := by
  rw [progress, progress, object, sweeps]

theorem Waiting.congr (listener : (next.stub.callbacks index).listener =
      (world.stub.callbacks index).listener)
    (pending : next.stub.callbackPending index = world.stub.callbackPending index)
    (waits : next.Waiting index) : world.Waiting index :=
  ⟨pending ▸ waits.1, listener ▸ waits.2⟩

/-! ## One step -/

namespace Sound

theorem request (sound : world.Sound) (free : ∀ number < world.made,
      (world.objects number).live = true →
        (world.objects number).slot ≠ world.stub.callbackSlot) : world.request.Sound := by
  have elsewhere (number : Nat) (before : number ≠ world.made) :
      world.request.objects number = world.objects number := Function.update_of_ne before ..
  have new : world.request.objects world.made =
      { slot := world.stub.callbackSlot, live := true, registered := false, dones := 0 } :=
    Function.update_self ..
  have idle : ¬ (world.stub.requestCallback.callbacks world.stub.callbackSlot).listener.Attached := by
    rw [WlBridgeState.listener_requestCallback_self]
    exact ListenerSlot.not_attached_empty
  constructor
  case unmade =>
    intro number after
    have later : world.made < number := after
    rw [elsewhere number later.ne']
    exact sound.unmade number later.le
  case once =>
    intro number
    rcases eq_or_ne number world.made with rfl | before
    · rw [new]
      exact Nat.zero_le _
    · rw [elsewhere number before]
      exact sound.once number
  case clean => exact sound.clean
  case tracked =>
    intro number live
    rcases eq_or_ne number world.made with rfl | before
    · constructor
      · rw [new]
        exact Function.update_self ..
      · rw [new]
        exact ⟨nofun, fun attached => absurd attached idle⟩
      · rw [new]
        exact .inl ⟨rfl, nofun⟩
    · rw [elsewhere number before] at live
      have apart := free number (sound.made live) live
      have kept := WlBridgeState.callbacks_requestCallback_of_ne apart
      apply (sound.tracked number live).frame (elsewhere number before)
      · exact Function.update_of_ne apart ..
      · exact congrArg CallbackSlot.listener kept
      · exact Function.update_of_ne apart ..
      · exact Function.update_of_ne apart ..
      · exact progress_eq (elsewhere number before) rfl
  case waiting =>
    intro index waits
    rcases eq_or_ne index world.stub.callbackSlot with rfl | apart
    · exact absurd waits.2 idle
    · have kept := WlBridgeState.callbacks_requestCallback_of_ne apart
      obtain ⟨number, held, live, slot⟩ := sound.waiting index
        (waits.congr (congrArg CallbackSlot.listener kept) (Function.update_of_ne apart ..))
      refine ⟨number, ?_, ?_, ?_⟩
      · exact (Function.update_of_ne apart ..).trans held
      · rwa [elsewhere number (sound.made live).ne]
      · rwa [elsewhere number (sound.made live).ne]

theorem register (sound : world.Sound) (live : (world.objects number).live = true)
    (undone : (world.objects number).dones = 0) (change : ListenerSlot → ListenerSlot) :
    (world.register number change).Sound := by
  have elsewhere (other : Nat) (apart : other ≠ number) :
      (world.register number change).objects other = world.objects other :=
    Function.update_of_ne apart ..
  have same : (world.register number change).objects number =
      { world.objects number with
        registered := decide
          ((world.stub.registerCallback (world.objects number).slot change).callbacks
            (world.objects number).slot).listener.Attached } := Function.update_self ..
  constructor
  case unmade =>
    intro other after
    have apart : other ≠ number := by
      rintro rfl
      rw [sound.unmade other after] at live
      cases live
    rw [elsewhere other apart]
    exact sound.unmade other after
  case once =>
    intro other
    rcases eq_or_ne other number with rfl | apart
    · rw [same]
      exact sound.once other
    · rw [elsewhere other apart]
      exact sound.once other
  case clean => exact sound.clean
  case tracked =>
    intro other still
    rcases eq_or_ne other number with rfl | apart
    · constructor
      · rw [same]
        exact Function.update_self ..
      · rw [same]
        exact decide_eq_true_iff
      · rw [same]
        refine .inl ⟨undone, fun _ => ⟨Function.update_self .., ?_⟩⟩
        have counted : (world.register other change).progress other = 0 :=
          Sweeps.progress_restart_self
        rw [counted]
        exact Nat.zero_le _
    · rw [elsewhere other apart] at still
      have slots := sound.slot_ne still live apart
      apply (sound.tracked other still).frame (elsewhere other apart)
      · exact Function.update_of_ne slots ..
      · exact congrArg CallbackSlot.listener (Function.update_of_ne slots ..)
      · exact Function.update_of_ne slots ..
      · exact Function.update_of_ne slots ..
      · rw [progress, progress, elsewhere other apart]
        exact Sweeps.progress_restart_of_ne apart
  case waiting =>
    intro index waits
    rcases eq_or_ne index (world.objects number).slot with rfl | slots
    · refine ⟨number, Function.update_self .., ?_, ?_⟩
      · rw [same]
        exact live
      · rw [same]
    · obtain ⟨other, held, still, slot⟩ := sound.waiting index
        (waits.congr (congrArg CallbackSlot.listener (Function.update_of_ne slots ..))
          (Function.update_of_ne slots ..))
      have apart : other ≠ number := by
        rintro rfl
        exact slots slot.symm
      refine ⟨other, (Function.update_of_ne slots ..).trans held, ?_, ?_⟩
      · rwa [elsewhere other apart]
      · rwa [elsewhere other apart]

/-- A destroyed callback does not wait, and the other slots stay. -/
theorem destroyed {stub : WlBridgeState} (sound : world.Sound)
    (live : (world.objects number).live = true)
    (idle : ¬ (stub.callbackPending (world.objects number).slot = true ∧
      (stub.callbacks (world.objects number).slot).listener.Attached))
    (listeners : ∀ index ≠ (world.objects number).slot,
      stub.callbacks index = world.stub.callbacks index)
    (pending : stub.callbackPending = world.stub.callbackPending)
    (armed : stub.callbackArmed = world.stub.callbackArmed) :
    (world.destroyed number stub).Sound := by
  have elsewhere (other : Nat) (apart : other ≠ number) :
      (world.destroyed number stub).objects other = world.objects other :=
    Function.update_of_ne apart ..
  have same : (world.destroyed number stub).objects number =
      { world.objects number with live := false } := Function.update_self ..
  constructor
  case unmade =>
    intro other after
    have apart : other ≠ number := by
      rintro rfl
      rw [sound.unmade other after] at live
      cases live
    rw [elsewhere other apart]
    exact sound.unmade other after
  case once =>
    intro other
    rcases eq_or_ne other number with rfl | apart
    · rw [same]
      exact sound.once other
    · rw [elsewhere other apart]
      exact sound.once other
  case clean => exact sound.clean
  case tracked =>
    intro other still
    rcases eq_or_ne other number with rfl | apart
    · rw [same] at still
      cases still
    · rw [elsewhere other apart] at still
      have slots := sound.slot_ne still live apart
      apply (sound.tracked other still).frame (elsewhere other apart)
      · rfl
      · exact congrArg CallbackSlot.listener (listeners _ slots)
      · exact congrFun pending _
      · exact congrFun armed _
      · exact progress_eq (elsewhere other apart) rfl
  case waiting =>
    intro index waits
    rcases eq_or_ne index (world.objects number).slot with rfl | slots
    · exact absurd waits idle
    · obtain ⟨other, held, still, slot⟩ := sound.waiting index
        (waits.congr (congrArg CallbackSlot.listener (listeners index slots))
          (congrFun pending index))
      have apart : other ≠ number := by
        rintro rfl
        exact slots slot.symm
      refine ⟨other, held, ?_, ?_⟩
      · rwa [elsewhere other apart]
      · rwa [elsewhere other apart]

theorem proxyDestroy (sound : world.Sound) (live : (world.objects number).live = true) :
    (world.destroyed number
      (world.stub.proxyDestroyCallback (world.objects number).slot)).Sound := by
  apply sound.destroyed live
  · rintro ⟨-, attached⟩
    rw [WlBridgeState.callbacks_proxyDestroyCallback_self] at attached
    exact ListenerSlot.not_attached_empty attached
  · exact fun index apart => Function.update_of_ne apart ..
  · rfl
  · rfl

theorem marshalDestroy (sound : world.Sound) (live : (world.objects number).live = true)
    (quiet : (world.stub.callbacks (world.objects number).slot).listener.dispatchFn = 0 ∨
      world.stub.callbackPending (world.objects number).slot = false) :
    (world.destroyed number (world.stub.callbackDestroy (world.objects number).slot)).Sound := by
  apply sound.destroyed live
  · rintro ⟨pending, attached⟩
    rw [WlBridgeState.callbacks_callbackDestroy_self] at attached
    rcases quiet with dispatcher | delivered
    · rcases attached with funcs | dispatches
      · exact funcs rfl
      · exact dispatches dispatcher
    · cases delivered.symm.trans pending
  · exact fun index apart => Function.update_of_ne apart ..
  · rfl
  · rfl

/-! ### The slots of a run -/

section

variable {stub : WlBridgeState} {top : Sweep Nat} {rest : List (Sweep Nat)}

/-- The callbacks of other slots do not notice. -/
theorem tracked_pass_of_ne (tracked : world.Tracked number)
    (going : world.sweeps.going = top :: rest)
    (apart : (world.objects number).slot.val ≠ top.position)
    (listeners : stub.callbacks = world.stub.callbacks)
    (pending : stub.callbackPending (world.objects number).slot =
      world.stub.callbackPending (world.objects number).slot)
    (armed : stub.callbackArmed (world.objects number).slot =
      world.stub.callbackArmed (world.objects number).slot) :
    (world.pass stub).Tracked number := by
  apply tracked.frame
  · rfl
  · rfl
  · exact congrArg CallbackSlot.listener (congrFun listeners _)
  · exact pending
  · exact armed
  · exact Sweeps.progress_advance_of_ne going apart

theorem visit_idle (sound : world.Sound) (going : world.sweeps.going = top :: rest)
    (inside : top.position < maxCallbacks) (idle : ¬ world.Waiting ⟨top.position, inside⟩) :
    (world.pass world.stub).Sound where
  unmade := sound.unmade
  once := sound.once
  clean := sound.clean
  waiting := sound.waiting
  tracked number live := by
    have tracked := sound.tracked number live
    rcases eq_or_ne (world.objects number).slot.val top.position with here | apart
    · have slot : (world.objects number).slot = ⟨top.position, inside⟩ := Fin.ext here
      refine ⟨tracked.held, tracked.listens, tracked.waits.imp_left ?_⟩
      rintro ⟨undone, waits⟩
      refine ⟨undone, fun registered => absurd ?_ idle⟩
      rw [← slot]
      exact ⟨(waits registered).1, tracked.listens.mp registered⟩
    · exact tracked_pass_of_ne tracked going apart rfl rfl rfl

theorem visit_arm (sound : world.Sound) (going : world.sweeps.going = top :: rest)
    (inside : top.position < maxCallbacks)
    (unarmed : world.stub.callbackArmed ⟨top.position, inside⟩ = false) :
    (world.pass (world.stub.armCallback ⟨top.position, inside⟩)).Sound where
  unmade := sound.unmade
  once := sound.once
  clean := sound.clean
  waiting := sound.waiting
  tracked number live := by
    have tracked := sound.tracked number live
    rcases eq_or_ne (world.objects number).slot.val top.position with here | apart
    · have slot : (world.objects number).slot = ⟨top.position, inside⟩ := Fin.ext here
      refine ⟨tracked.held, tracked.listens, tracked.waits.imp_left ?_⟩
      rintro ⟨undone, waits⟩
      refine ⟨undone, fun registered => ⟨(waits registered).1, ?_⟩⟩
      have few := (waits registered).2
      rw [slot, unarmed, if_neg Bool.false_ne_true] at few
      have armed : Function.update world.stub.callbackArmed ⟨top.position, inside⟩ true
          (world.objects number).slot = true := by rw [slot, Function.update_self]
      have counted : (world.pass (world.stub.armCallback ⟨top.position, inside⟩)).progress number ≤
          world.progress number + 1 := Sweeps.progress_advance_le
      rw [Nat.le_zero.mp few] at counted
      exact counted.trans (if_pos armed).ge
    · have slots : (world.objects number).slot ≠ ⟨top.position, inside⟩ :=
        fun same => apart (congrArg Fin.val same)
      exact tracked_pass_of_ne tracked going apart rfl rfl (Function.update_of_ne slots ..)

end

theorem receive_eq (held : world.holder index = some number)
    (live : (world.objects number).live = true) : world.receive index = world.done number := by
  rw [receive, held]
  exact if_pos live

theorem objects_done_self : (world.done number).objects number =
    { world.objects number with dones := (world.objects number).dones + 1 } :=
  Function.update_self ..

theorem objects_done_of_ne (apart : other ≠ number) :
    (world.done number).objects other = world.objects other :=
  Function.update_of_ne apart ..

/-- The callback that is done has waited, and it does not wait any more. -/
theorem visit_fire {top : Sweep Nat} {rest : List (Sweep Nat)} (sound : world.Sound)
    (going : world.sweeps.going = top :: rest) (inside : top.position < maxCallbacks)
    (waits : world.Waiting ⟨top.position, inside⟩) :
    ((world.pass (world.stub.disarmCallback ⟨top.position, inside⟩)).receive
      ⟨top.position, inside⟩).Sound := by
  obtain ⟨number, held, live, slot⟩ := sound.waiting _ waits
  have undone : (world.objects number).dones = 0 := by
    rcases (sound.tracked number live).waits with ⟨undone, -⟩ | ⟨-, delivered⟩
    · exact undone
    · rw [slot] at delivered
      cases delivered.symm.trans waits.1
  have received : (world.pass (world.stub.disarmCallback ⟨top.position, inside⟩)).receive
      ⟨top.position, inside⟩ = _ := receive_eq held live
  rw [received]
  constructor
  case unmade =>
    intro other after
    rw [objects_done_of_ne (lt_of_lt_of_le (sound.made live) after).ne']
    exact sound.unmade other after
  case once =>
    intro other
    rcases eq_or_ne other number with rfl | apart
    · rw [objects_done_self]
      exact (congrArg Nat.succ undone).le
    · rw [objects_done_of_ne apart]
      exact sound.once other
  case clean => exact sound.clean
  case tracked =>
    intro other still
    rcases eq_or_ne other number with rfl | apart
    · have before := sound.tracked other live
      constructor
      · rw [objects_done_self]
        exact before.held
      · rw [objects_done_self]
        exact before.listens
      · rw [objects_done_self]
        refine .inr ⟨congrArg Nat.succ undone, ?_⟩
        change (world.stub.disarmCallback _).callbackPending (world.objects other).slot = false
        rw [slot]
        exact WlBridgeState.callbackPending_disarmCallback_self
    · rw [objects_done_of_ne apart] at still
      have slots : (world.objects other).slot ≠ ⟨top.position, inside⟩ := by
        rw [← slot]
        exact sound.slot_ne still live apart
      have passed :
          (world.pass (world.stub.disarmCallback ⟨top.position, inside⟩)).Tracked other :=
        tracked_pass_of_ne (sound.tracked other still) going (fun here => slots (Fin.ext here))
          rfl (WlBridgeState.callbackPending_disarmCallback_of_ne slots)
          (Function.update_of_ne slots ..)
      apply passed.frame (objects_done_of_ne apart)
      · rfl
      · rfl
      · rfl
      · rfl
      · exact progress_eq (objects_done_of_ne apart) rfl
  case waiting =>
    rintro index ⟨pending, attached⟩
    change (world.stub.disarmCallback _).callbackPending index = true at pending
    have elsewhere : index ≠ ⟨top.position, inside⟩ := by
      rintro rfl
      rw [WlBridgeState.callbackPending_disarmCallback_self] at pending
      cases pending
    rw [WlBridgeState.callbackPending_disarmCallback_of_ne elsewhere] at pending
    obtain ⟨other, holds, lives, here⟩ := sound.waiting index ⟨pending, attached⟩
    have apart : other ≠ number := by
      rintro rfl
      exact elsewhere (here.symm.trans slot)
    refine ⟨other, holds, ?_⟩
    rw [objects_done_of_ne apart]
    exact ⟨lives, here⟩

theorem visit (sound : world.Sound) (visited : world.visit = some next) : next.Sound := by
  rw [CallbackWorld.visit] at visited
  split at visited
  · rename_i top rest going
    split at visited
    · rename_i inside
      cases visited
      rcases world.stub.visitCallback_cases ⟨top.position, inside⟩ with
        ⟨outcome, idle⟩ | ⟨-, -, unarmed, outcome⟩ | ⟨pending, attached, -, outcome⟩
      · rw [outcome]
        exact sound.visit_idle going inside idle
      · rw [outcome]
        exact sound.visit_arm going inside unarmed
      · obtain ⟨delivery, one⟩ := List.length_eq_one_iff.mp
          (WlBridgeState.length_fireCallbackDone
            (WlBridgeState.callbackHandle ⟨top.position, inside⟩) attached)
        rw [outcome, one]
        exact sound.visit_fire going inside ⟨pending, attached⟩
    · cases visited
  · cases visited

theorem dispatch (sound : world.Sound) : world.dispatch.Sound where
  unmade := sound.unmade
  once := sound.once
  clean := sound.clean
  waiting := sound.waiting
  tracked number live := by
    apply (sound.tracked number live).frame
    · rfl
    · rfl
    · rfl
    · rfl
    · rfl
    · exact Sweeps.progress_start

/-- A run that is over has gone by every slot. -/
theorem finish (sound : world.Sound) (finished : world.finish = some next) : next.Sound := by
  rw [CallbackWorld.finish] at finished
  split at finished
  · rename_i top rest going
    split at finished
    · cases finished
    · rename_i atEnd
      cases finished
      constructor
      case unmade => exact sound.unmade
      case once => exact sound.once
      case clean => exact sound.clean
      case waiting => exact sound.waiting
      case tracked =>
        intro number live
        apply (sound.tracked number live).frame
        · rfl
        · rfl
        · rfl
        · rfl
        · rfl
        · have beyond : (world.objects number).slot.val < top.position := by omega
          exact Sweeps.progress_close going beyond
  · cases finished

end Sound

theorem sound_step {input : CallbackInput} (sound : world.Sound) (orderly : world.Orderly input)
    (stepped : world.step input = some next) : next.Sound := by
  cases input with
  | request =>
      cases stepped
      exact sound.request orderly
  | addListener number funcs data =>
      obtain ⟨live, ⟨⟩⟩ := Option.ite_none_right_eq_some.mp stepped
      exact sound.register live orderly _
  | addDispatcher number fn impl data =>
      obtain ⟨live, ⟨⟩⟩ := Option.ite_none_right_eq_some.mp stepped
      exact sound.register live orderly _
  | proxyDestroy number =>
      obtain ⟨live, ⟨⟩⟩ := Option.ite_none_right_eq_some.mp stepped
      exact sound.proxyDestroy live
  | marshalDestroy number =>
      obtain ⟨live, ⟨⟩⟩ := Option.ite_none_right_eq_some.mp stepped
      exact sound.marshalDestroy live orderly
  | dispatch =>
      cases stepped
      exact sound.dispatch
  | visit => exact sound.visit stepped
  | finish => exact sound.finish stepped

end CallbackWorld

/-! ## Runs -/

/-- Every callback is served in a run whose requests find a free slot, that registers no
callback that was done, and that destroys by request none that waits with a dispatcher. -/
theorem served_of_orderly {stub : WlBridgeState} {inputs : List CallbackInput}
    {reached : CallbackWorld}
    (orderly : callbackMachine.Along CallbackWorld.Orderly (.initial stub.reset) inputs)
    (runs : callbackMachine.run (.initial stub.reset) inputs = some reached) : reached.Served := by
  have sound : reached.Sound :=
    Machine.Along.run_invariant CallbackWorld.sound_step (.initial stub) orderly runs
  exact sound.served

instance decidableOrderly (world : CallbackWorld) (input : CallbackInput) :
    Decidable (world.Orderly input) :=
  match input with
  | .request =>
      @Nat.decidableBallLT _ _ fun _ _ =>
        @instDecidableForall _ _ (instDecidableEqBool ..) instDecidableNot
  | .addListener .. | .addDispatcher .. => instDecidableEqNat ..
  | .marshalDestroy _ => @instDecidableOr _ _ (instDecidableEqUInt64 ..) (instDecidableEqBool ..)
  | .proxyDestroy _ | .dispatch | .visit | .finish => isTrue trivial

/-- A run of `_bridge_dispatch` in which no listener does anything. -/
def wholeRun : List CallbackInput :=
  .dispatch :: List.replicate maxCallbacks .visit ++ [.finish]

theorem orderly_callback :
    ∃ ends : (callbackMachine.run (.initial WlBridgeState.zero.reset)
        ([.request, .addListener 0 1 1] ++ wholeRun ++ wholeRun)).isSome = true,
      (Option.get _ ends).Served ∧ ((Option.get _ ends).objects 0).dones = 1 :=
  ⟨by decide, served_of_orderly (by decide) (Option.some_get _).symm, by decide⟩

/-- The next callback after 32 is in the slot of the first. -/
theorem live_callbacks_share_slot :
    ∃ reached, callbackMachine.run (.initial WlBridgeState.zero.reset)
        (.request :: .addListener 0 1 1 :: List.replicate maxCallbacks .request) = some reached ∧
      ¬ reached.Served := by
  refine ⟨_, rfl, fun served => ?_⟩
  have same := served.distinct 0 32 (by decide) (by decide) (by decide)
  cases same

/-- `wl_callback.destroy` leaves the dispatcher, which is told later. -/
theorem destroyed_callback_done :
    ∃ reached, callbackMachine.run (.initial WlBridgeState.zero.reset)
        ([.request, .addDispatcher 0 1 1 1, .marshalDestroy 0] ++ wholeRun ++ wholeRun) =
          some reached ∧
      ¬ reached.Served := by
  refine ⟨_, rfl, fun served => ?_⟩
  have clean := served.clean
  cases clean

end GlesBridge.Wayland
