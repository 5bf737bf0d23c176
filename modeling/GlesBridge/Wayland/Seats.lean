import GlesBridge.Stub.Seats
import GlesBridge.Systems.Machine
import GlesBridge.Systems.Sweeps

namespace GlesBridge.Wayland

open GlesBridge.Stub GlesBridge.Systems

/-! Outputs get their events and keyboards their keys as far as the counts go that the
proxy has given. A listener that is called may do whatever a client does.
-/

/-- What a client has bound and may listen to. -/
inductive BoundObject where
  | output (index : Fin maxOutputs)
  | keyboard (index : Fin maxSeats)
deriving DecidableEq, Repr

/-- `_fire_keyboard_focus_to` at a seat. -/
structure FocusLoop where
  surface : UInt32
  position : Nat
  delivered : Bool

/-- One key of `_deliver_input_events` at a seat, with the keyboards that had been sent an
enter event when it began, and those that got the key. -/
structure KeyLoop where
  code : UInt32
  state : UInt32
  position : Nat
  since : Fin maxSeats → Bool
  given : Fin maxSeats → Bool

structure SeatWorld where
  stub : WlBridgeState
  /-- What the binds have returned. -/
  seats : List UInt32
  outputs : List UInt32
  /-- The runs of `_bridge_dispatch` at their outputs; an output is marked when attached. -/
  sweeps : Sweeps (Fin maxOutputs)
  /-- The events of an output since it was attached. -/
  told : Fin maxOutputs → List Delivery
  entered : Fin maxSeats → Bool
  missed : Fin maxSeats → Bool
  focusing : List FocusLoop
  keying : List KeyLoop

inductive SeatInput where
  | bindSeat
  | bindOutput
  | addListener (object : BoundObject) (funcs data : UInt64)
  | addDispatcher (object : BoundObject) (fn impl data : UInt64)
  | destroy (object : BoundObject)
  | createSurface (slot : UInt32)
  | dispatch
  | visitOutput
  | finishOutputs
  | fireFocus
  | refocus (surface : UInt32)
  | visitFocus (file : Option Int)
  | finishFocus
  | key (code state : UInt32)
  | visitKey
  | finishKey

def KeyLoop.forget (loop : KeyLoop) (index : Fin maxSeats) : KeyLoop :=
  { loop with since := Function.update loop.since index false }

def KeyLoop.visit (loop : KeyLoop) (index : Fin maxSeats) (deliveries : List Delivery) : KeyLoop :=
  { loop with
    position := loop.position + 1
    given := Function.update loop.given index !deliveries.isEmpty }

theorem KeyLoop.given_visit_self {loop : KeyLoop} {index : Fin maxSeats}
    {deliveries : List Delivery} : (loop.visit index deliveries).given index = !deliveries.isEmpty :=
  Function.update_self ..

theorem KeyLoop.given_visit_of_ne {loop : KeyLoop} {index other : Fin maxSeats}
    {deliveries : List Delivery} (apart : other ≠ index) :
    (loop.visit index deliveries).given other = loop.given other :=
  Function.update_of_ne apart ..

namespace SeatWorld

variable (world : SeatWorld)

def initial (stub : WlBridgeState) : SeatWorld where
  stub := stub
  seats := []
  outputs := []
  sweeps := .initial
  told _ := []
  entered _ := false
  missed _ := false
  focusing := []
  keying := []

/-- A client has the handles of the objects that it bound, and keyboards of its seats. -/
def Has : BoundObject → Prop
  | .output index => WlBridgeState.outputHandle index ∈ world.outputs
  | .keyboard index => handleAt bhSeatBase index.val ∈ world.seats

instance decidableHas (object : BoundObject) : Decidable (world.Has object) :=
  match object with
  | .output _ | .keyboard _ => List.instDecidableMemOfLawfulBEq ..

/-- A new listener starts anew; a keyboard without one is not served any more. -/
def attach (change : ListenerSlot → ListenerSlot) : BoundObject → SeatWorld
  | .output index =>
      { world with
        stub := world.stub.attachOutput index change
        sweeps := world.sweeps.restart index
        told := Function.update world.told index [] }
  | .keyboard index =>
      let stub := world.stub.attachKeyboard index change
      if (stub.keyboards index).Attached then { world with stub }
      else
        { world with
          stub
          entered := Function.update world.entered index false
          keying := world.keying.map (·.forget index) }

def destroy : BoundObject → SeatWorld
  | .output index => { world with stub := world.stub.destroyOutput index }
  | .keyboard index =>
      { world with
        stub := world.stub.destroyKeyboard index
        entered := Function.update world.entered index false
        keying := world.keying.map (·.forget index) }

/-! ## The loops -/

def dispatch : SeatWorld :=
  { world with
    sweeps := world.sweeps.start fun index => decide (world.stub.outputs index).Attached }

/-- The events of a pending output are its first ones. -/
def visitOutput : Option SeatWorld :=
  match world.sweeps.going with
  | top :: _ =>
      if inside : top.position < world.stub.numOutputs.toNat ∧ top.position < maxOutputs then
        let index : Fin maxOutputs := ⟨top.position, inside.2⟩
        let visited := world.stub.visitOutput index
        some { world with
          stub := visited.1
          sweeps := world.sweeps.advance
          told :=
            if world.stub.outputEventsPending index = true then
              Function.update world.told index visited.2
            else world.told }
      else none
  | [] => none

def finishOutputs : Option SeatWorld :=
  match world.sweeps.going with
  | top :: _ =>
      if top.position < world.stub.numOutputs.toNat ∧ top.position < maxOutputs then none
      else some { world with sweeps := world.sweeps.close }
  | [] => none

def focus (surface : UInt32) : SeatWorld :=
  { world with focusing := { surface, position := 0, delivered := false } :: world.focusing }

/-- `_fire_keyboard_focus` -/
def fireFocus : SeatWorld :=
  match world.stub.focusSurface with
  | some surface =>
      SeatWorld.focus { world with stub := { world.stub with activeSurfaceHandle := surface } } surface
  | none => world

/-- A state event moves the focus that was given. -/
def refocus (surface : UInt32) : SeatWorld :=
  if world.stub.keyboardEnterSent = true ∧ world.stub.keyboardFocusHandle ≠ surface then
    world.focus surface
  else world

def visitFocus (file : Option Int) : Option SeatWorld :=
  match world.focusing with
  | loop :: rest =>
      if inside : loop.position < maxSeats then
        let index : Fin maxSeats := ⟨loop.position, inside⟩
        let deliveries := world.stub.focusKeyboard index file loop.surface
        let enters := deliveries.any fun delivery => delivery.index == 1
        some { world with
          entered := Function.update world.entered index (world.entered index || enters)
          focusing :=
            { loop with
              position := loop.position + 1
              delivered := loop.delivered || enters } :: rest }
      else none
  | [] => none

def finishFocus : Option SeatWorld :=
  match world.focusing with
  | loop :: rest =>
      if loop.position < maxSeats then none
      else
        some { world with
          stub := if loop.delivered = true then world.stub.focused loop.surface else world.stub
          focusing := rest }
  | [] => none

def key (code state : UInt32) : SeatWorld :=
  { world with
    keying :=
      { code, state, position := 0, since := world.entered, given := fun _ => false } ::
        world.keying }

def visitKey : Option SeatWorld :=
  match world.keying with
  | loop :: rest =>
      if inside : loop.position < world.stub.numSeats.toNat ∧ loop.position < maxSeats then
        let index : Fin maxSeats := ⟨loop.position, inside.2⟩
        let deliveries := (world.stub.keyboards index).deliverKey
          (WlBridgeState.keyboardHandle index) loop.code loop.state
        some { world with keying := loop.visit index deliveries :: rest }
      else none
  | [] => none

/-- A keyboard that had been entered and did not get the key has missed it. -/
def finishKey : Option SeatWorld :=
  match world.keying with
  | loop :: rest =>
      if loop.position < world.stub.numSeats.toNat ∧ loop.position < maxSeats then none
      else
        some { world with
          keying := rest
          missed := fun index => world.missed index || (loop.since index && !loop.given index) }
  | [] => none

def step : SeatInput → Option SeatWorld
  | .bindSeat =>
      some { world with
        stub := world.stub.bindSeat
        seats := world.seats ++ [world.stub.boundSeat] }
  | .bindOutput =>
      some { world with
        stub := world.stub.bindOutput
        outputs := world.outputs ++ [world.stub.boundOutput] }
  | .addListener object funcs data =>
      if world.Has object then some (world.attach (·.listen funcs data) object) else none
  | .addDispatcher object fn impl data =>
      if world.Has object then some (world.attach (·.dispatchWith fn impl data) object) else none
  | .destroy object => if world.Has object then some (world.destroy object) else none
  | .createSurface slot => some { world with stub := world.stub.recordSurface slot }
  | .dispatch => some world.dispatch
  | .visitOutput => world.visitOutput
  | .finishOutputs => world.finishOutputs
  | .fireFocus => some world.fireFocus
  | .refocus surface => some (world.refocus surface)
  | .visitFocus file => world.visitFocus file
  | .finishFocus => world.finishFocus
  | .key code state => some (world.key code state)
  | .visitKey => world.visitKey
  | .finishKey => world.finishKey

/-- The first binds are of different objects, a run tells every output that was attached
before it, and no keyboard that was entered misses a key. -/
structure Served : Prop where
  seats : (world.seats.take maxSeats).Nodup
  outputs : (world.outputs.take maxOutputs).Nodup
  told : ∀ index, (world.stub.outputs index).Attached → 0 < world.sweeps.ended index →
    world.told index =
      (world.stub.outputs index).fireOutputEvents (WlBridgeState.outputHandle index)
        world.stub.output
  keys : ∀ index, world.missed index = false

/-- Only outputs that the proxy has counted get a listener, and a keyboard that is given the
focus is of a seat that it has counted. -/
def Counted : SeatInput → Prop
  | .addListener (.output index) _ _ | .addDispatcher (.output index) _ _ _ =>
      index.val < world.stub.numOutputs.toNat
  | .visitFocus _ => ∀ index : Fin maxSeats,
      (world.focusing.head?.map FocusLoop.position) = some index.val →
      (world.stub.keyboards index).Attached → index.val < world.stub.numSeats.toNat
  | _ => True

end SeatWorld

def seatMachine : Machine SeatWorld SeatInput where
  step := SeatWorld.step

/-! ## Binds -/

section

variable {base : Nat} {mask count : UInt32} {handles : List UInt32}

/-- The handles of the first binds. -/
def boundHandles (base : Nat) (mask : UInt32) (binds : Nat) : List UInt32 :=
  (List.range binds).map fun bind => handleAt base (UInt32.ofNat bind &&& mask).toNat

structure Numbered (base : Nat) (mask : UInt32) (handles : List UInt32) (count : UInt32) :
    Prop where
  each : handles = boundHandles base mask handles.length
  counted : count = .ofNat handles.length

theorem Numbered.bind (numbered : Numbered base mask handles count) :
    Numbered base mask (handles ++ [handleAt base (count &&& mask).toNat]) (count + 1) where
  each := by
    rw [List.length_append, List.length_singleton, boundHandles, List.range_succ, List.map_append,
      ← boundHandles, ← numbered.each, List.map_singleton, ← numbered.counted]
  counted := by
    rw [List.length_append, List.length_singleton, UInt32.ofNat_add, ← numbered.counted]
    rfl

/-- Distinct handles of all the binds before the count wraps are distinct for fewer of them. -/
theorem Numbered.distinct {most : Nat} (numbered : Numbered base mask handles count)
    (all : (boundHandles base mask most).Nodup) : (handles.take most).Nodup := by
  have fewer : List.Sublist (List.range (min most handles.length)) (List.range most) :=
    List.range_sublist.mpr (Nat.min_le_left ..)
  rw [numbered.each, boundHandles, ← List.map_take, List.take_range]
  exact all.sublist (fewer.map _)

end

/-! ## The invariant -/

namespace SeatWorld

variable {world next : SeatWorld}

/-- An attached output waits, or it has been told. -/
structure OutputSound (world : SeatWorld) (index : Fin maxOutputs) : Prop where
  counted : index.val < world.stub.numOutputs.toNat
  told : world.stub.outputEventsPending index = true ∧ world.sweeps.progress index index.val = 0 ∨
    world.told index =
      (world.stub.outputs index).fireOutputEvents (WlBridgeState.outputHandle index)
        world.stub.output

/-- A keyboard that was entered is served by every key. -/
structure KeySound (world : SeatWorld) (index : Fin maxSeats) : Prop where
  entered : world.entered index = true →
    (world.stub.keyboards index).Attached ∧ index.val < world.stub.numSeats.toNat
  missed : world.missed index = false
  given : ∀ loop ∈ world.keying, loop.since index = true →
    world.entered index = true ∧ (index.val < loop.position → loop.given index = true)

structure Sound (world : SeatWorld) : Prop where
  seats : Numbered bhSeatBase 1 world.seats world.stub.seatCnt
  outputs : Numbered bhOutputBase 3 world.outputs world.stub.outCnt
  told : ∀ index, (world.stub.outputs index).Attached → world.OutputSound index
  keys : ∀ index, world.KeySound index

theorem Sound.served (sound : world.Sound) : world.Served where
  seats := sound.seats.distinct (by decide)
  outputs := sound.outputs.distinct (by decide)
  told index attached ended := by
    rcases (sound.told index attached).told with ⟨-, none⟩ | told
    · have counted : world.sweeps.ended index ≤ world.sweeps.progress index index.val :=
        Sweeps.ended_le_progress
      omega
    · exact told
  keys index := (sound.keys index).missed

theorem Sound.initial (stub : WlBridgeState) (words : Nat → UInt32) (name : List UInt8) :
    (initial (stub.connected words name)).Sound where
  seats := ⟨rfl, rfl⟩
  outputs := ⟨rfl, rfl⟩
  told _ attached := absurd attached ListenerSlot.not_attached_empty
  keys _ := ⟨nofun, rfl, fun _ member => nomatch member⟩

/-- Where neither its listener nor its events change, an output stays as it is. -/
theorem OutputSound.frame {index : Fin maxOutputs} (sound : world.OutputSound index)
    (listener : next.stub.outputs index = world.stub.outputs index)
    (pending : next.stub.outputEventsPending index = world.stub.outputEventsPending index)
    (numOutputs : next.stub.numOutputs = world.stub.numOutputs)
    (info : next.stub.output = world.stub.output) (told : next.told index = world.told index)
    (progress : next.sweeps.progress index index.val = world.sweeps.progress index index.val) :
    next.OutputSound index where
  counted := by
    rw [numOutputs]
    exact sound.counted
  told := by
    rw [listener, pending, info, told, progress]
    exact sound.told

theorem KeySound.frame {index : Fin maxSeats} (sound : world.KeySound index)
    (listener : next.stub.keyboards index = world.stub.keyboards index)
    (numSeats : next.stub.numSeats = world.stub.numSeats)
    (entered : next.entered index = world.entered index)
    (missed : next.missed = world.missed) (keying : next.keying = world.keying) :
    next.KeySound index where
  entered := by
    rw [entered, listener, numSeats]
    exact sound.entered
  missed := by
    rw [missed]
    exact sound.missed
  given := by
    rw [keying, entered]
    exact sound.given

namespace Sound

/-- Steps that have to do with keyboards only. -/
theorem sameOutputs (sound : world.Sound) (outputs : next.stub.outputs = world.stub.outputs)
    (pending : next.stub.outputEventsPending = world.stub.outputEventsPending)
    (numOutputs : next.stub.numOutputs = world.stub.numOutputs)
    (info : next.stub.output = world.stub.output) (told : next.told = world.told)
    (sweeps : next.sweeps = world.sweeps) :
    ∀ index, (next.stub.outputs index).Attached → next.OutputSound index := by
  intro index attached
  rw [outputs] at attached
  apply (sound.told index attached).frame
  · exact congrFun outputs index
  · exact congrFun pending index
  · exact numOutputs
  · exact info
  · exact congrFun told index
  · rw [sweeps]

/-- Steps that have to do with outputs only. -/
theorem sameKeyboards (sound : world.Sound) (keyboards : next.stub.keyboards = world.stub.keyboards)
    (numSeats : next.stub.numSeats = world.stub.numSeats) (entered : next.entered = world.entered)
    (missed : next.missed = world.missed) (keying : next.keying = world.keying) :
    ∀ index, next.KeySound index := by
  intro index
  apply (sound.keys index).frame
  · exact congrFun keyboards index
  · exact numSeats
  · exact congrFun entered index
  · exact missed
  · exact keying

/-! ### Outputs -/

theorem attachOutput {index : Fin maxOutputs} (sound : world.Sound)
    (counted : index.val < world.stub.numOutputs.toNat) (change : ListenerSlot → ListenerSlot) :
    (world.attach change (.output index)).Sound where
  seats := sound.seats
  outputs := sound.outputs
  keys := sound.sameKeyboards rfl rfl rfl rfl rfl
  told other attached := by
    rcases eq_or_ne other index with rfl | apart
    · exact ⟨counted, .inl ⟨Function.update_self .., Sweeps.progress_restart_self⟩⟩
    · have kept : (world.stub.attachOutput index change).outputs other = world.stub.outputs other :=
        Function.update_of_ne apart ..
      change ((world.stub.attachOutput index change).outputs other).Attached at attached
      rw [kept] at attached
      apply (sound.told other attached).frame kept
      · exact Function.update_of_ne apart ..
      · rfl
      · rfl
      · exact Function.update_of_ne apart ..
      · exact Sweeps.progress_restart_of_ne apart

theorem destroyOutput {index : Fin maxOutputs} (sound : world.Sound) :
    (world.destroy (.output index)).Sound where
  seats := sound.seats
  outputs := sound.outputs
  keys := sound.sameKeyboards rfl rfl rfl rfl rfl
  told other attached := by
    change ((world.stub.destroyOutput index).outputs other).Attached at attached
    rcases eq_or_ne other index with rfl | apart
    · have gone : (world.stub.destroyOutput other).outputs other = .empty := Function.update_self ..
      rw [gone] at attached
      exact absurd attached ListenerSlot.not_attached_empty
    · have kept : (world.stub.destroyOutput index).outputs other = world.stub.outputs other :=
        Function.update_of_ne apart ..
      rw [kept] at attached
      apply (sound.told other attached).frame kept
      · exact Function.update_of_ne apart ..
      · rfl
      · rfl
      · rfl
      · rfl

theorem dispatch (sound : world.Sound) : world.dispatch.Sound where
  seats := sound.seats
  outputs := sound.outputs
  keys := sound.sameKeyboards rfl rfl rfl rfl rfl
  told index attached := by
    apply (sound.told index attached).frame
    · rfl
    · rfl
    · rfl
    · rfl
    · rfl
    · exact Sweeps.progress_start

/-- An output that waits is told when the run comes by. -/
theorem visitOutput (sound : world.Sound) (visited : world.visitOutput = some next) :
    next.Sound := by
  rw [SeatWorld.visitOutput] at visited
  split at visited
  · rename_i top rest going
    split at visited
    · rename_i inside
      obtain ⟨outputs, keyboards, numOutputs, numSeats, info, seatCnt, outCnt⟩ :=
        world.stub.visitOutput_others ⟨top.position, inside.2⟩
      cases visited
      constructor
      case seats =>
        rw [seatCnt]
        exact sound.seats
      case outputs =>
        rw [outCnt]
        exact sound.outputs
      case keys => exact sound.sameKeyboards keyboards numSeats rfl rfl rfl
      case told =>
        intro index attached
        dsimp only at attached
        rw [outputs] at attached
        have before := sound.told index attached
        rcases eq_or_ne index ⟨top.position, inside.2⟩ with rfl | apart
        · constructor
          · rw [numOutputs]
            exact before.counted
          · right
            dsimp only
            rw [outputs, info]
            split
            · rename_i pending
              rw [Function.update_self, WlBridgeState.visitOutput, if_pos pending]
            · rename_i idle
              rcases before.told with ⟨pending, -⟩ | told
              · exact absurd pending idle
              · exact told
        · apply before.frame
          · exact congrFun outputs index
          · exact WlBridgeState.outputEventsPending_visitOutput_of_ne apart
          · exact numOutputs
          · exact info
          · dsimp only
            split
            · exact Function.update_of_ne apart ..
            · rfl
          · have elsewhere : index.val ≠ top.position := fun here => apart (Fin.ext here)
            exact Sweeps.progress_advance_of_ne going elsewhere
    · cases visited
  · cases visited

/-- A run that is over has gone by every output that the proxy has counted. -/
theorem finishOutputs (sound : world.Sound) (finished : world.finishOutputs = some next) :
    next.Sound := by
  rw [SeatWorld.finishOutputs] at finished
  split at finished
  · rename_i top rest going
    split at finished
    · cases finished
    · rename_i atEnd
      cases finished
      constructor
      case seats => exact sound.seats
      case outputs => exact sound.outputs
      case keys => exact sound.sameKeyboards rfl rfl rfl rfl rfl
      case told =>
        intro index attached
        have before := sound.told index attached
        apply before.frame
        · rfl
        · rfl
        · rfl
        · rfl
        · rfl
        · have counted := before.counted
          have beyond : index.val < top.position := by omega
          exact Sweeps.progress_close going beyond
  · cases finished

/-! ### Keyboards -/

/-- A keyboard without a listener is owed nothing. -/
theorem dropKeyboard {stub : WlBridgeState} {index : Fin maxSeats} (sound : world.Sound)
    (others : ∀ other ≠ index, stub.keyboards other = world.stub.keyboards other)
    (numSeats : stub.numSeats = world.stub.numSeats) :
    ∀ other, ({ world with
        stub
        entered := Function.update world.entered index false
        keying := world.keying.map (·.forget index) } : SeatWorld).KeySound other := by
  intro other
  rcases eq_or_ne other index with rfl | apart
  · constructor
    · intro entered
      cases (Function.update_self ..).symm.trans entered
    · exact (sound.keys other).missed
    · intro loop member since
      obtain ⟨before, -, rfl⟩ := List.mem_map.mp member
      cases (Function.update_self ..).symm.trans since
  · have unchanged : Function.update world.entered index false other = world.entered other :=
      Function.update_of_ne apart ..
    constructor
    · dsimp only
      rw [unchanged, others other apart, numSeats]
      exact (sound.keys other).entered
    · exact (sound.keys other).missed
    · intro loop member since
      obtain ⟨before, within, rfl⟩ := List.mem_map.mp member
      have already : before.since other = true := (Function.update_of_ne apart ..).symm.trans since
      dsimp only
      rw [unchanged]
      exact (sound.keys other).given before within already

theorem attachKeyboard {index : Fin maxSeats} (sound : world.Sound)
    (change : ListenerSlot → ListenerSlot) : (world.attach change (.keyboard index)).Sound := by
  have others (other : Fin maxSeats) (apart : other ≠ index) :
      (world.stub.attachKeyboard index change).keyboards other = world.stub.keyboards other :=
    Function.update_of_ne apart ..
  rw [attach]
  split
  · rename_i attached
    constructor
    case seats => exact sound.seats
    case outputs => exact sound.outputs
    case told => exact sound.sameOutputs rfl rfl rfl rfl rfl rfl
    case keys =>
      intro other
      rcases eq_or_ne other index with rfl | apart
      · have before := sound.keys other
        exact ⟨fun entered => ⟨attached, (before.entered entered).2⟩, before.missed, before.given⟩
      · apply (sound.keys other).frame
        · exact others other apart
        · rfl
        · rfl
        · rfl
        · rfl
  · constructor
    case seats => exact sound.seats
    case outputs => exact sound.outputs
    case told => exact sound.sameOutputs rfl rfl rfl rfl rfl rfl
    case keys => exact sound.dropKeyboard others rfl

theorem destroyKeyboard {index : Fin maxSeats} (sound : world.Sound) :
    (world.destroy (.keyboard index)).Sound where
  seats := sound.seats
  outputs := sound.outputs
  told := sound.sameOutputs rfl rfl rfl rfl rfl rfl
  keys := sound.dropKeyboard (fun other apart => Function.update_of_ne apart ..) rfl

/-- The focus goes to keyboards that keys go to. -/
theorem visitFocus {file : Option Int} (sound : world.Sound)
    (counted : ∀ index : Fin maxSeats,
      (world.focusing.head?.map FocusLoop.position) = some index.val →
      (world.stub.keyboards index).Attached → index.val < world.stub.numSeats.toNat)
    (visited : world.visitFocus file = some next) : next.Sound := by
  rw [SeatWorld.visitFocus] at visited
  split at visited
  · rename_i loop rest focusing
    split at visited
    · rename_i inside
      cases visited
      constructor
      case seats => exact sound.seats
      case outputs => exact sound.outputs
      case told => exact sound.sameOutputs rfl rfl rfl rfl rfl rfl
      case keys =>
        intro index
        have before := sound.keys index
        rcases eq_or_ne index ⟨loop.position, inside⟩ with rfl | apart
        · constructor
          · dsimp only
            rw [Function.update_self]
            intro enters
            by_cases attached : (world.stub.keyboards ⟨loop.position, inside⟩).Attached
            · refine ⟨attached, counted ⟨loop.position, inside⟩ ?_ attached⟩
              rw [focusing]
              rfl
            · rw [WlBridgeState.focusKeyboard,
                ListenerSlot.fireKeyboardFocus_unattached attached, List.any_nil,
                Bool.or_false] at enters
              exact before.entered enters
          · exact before.missed
          · intro other member since
            obtain ⟨entered, given⟩ := before.given other member since
            refine ⟨?_, given⟩
            dsimp only
            rw [Function.update_self, entered, Bool.true_or]
        · apply before.frame
          · rfl
          · rfl
          · exact Function.update_of_ne apart ..
          · rfl
          · rfl
    · cases visited
  · cases visited

theorem finishFocus (sound : world.Sound) (finished : world.finishFocus = some next) :
    next.Sound := by
  rw [SeatWorld.finishFocus] at finished
  split at finished
  · split at finished
    · cases finished
    · cases finished
      split
      · exact ⟨sound.seats, sound.outputs, sound.sameOutputs rfl rfl rfl rfl rfl rfl,
          sound.sameKeyboards rfl rfl rfl rfl rfl⟩
      · exact ⟨sound.seats, sound.outputs, sound.sameOutputs rfl rfl rfl rfl rfl rfl,
          sound.sameKeyboards rfl rfl rfl rfl rfl⟩
  · cases finished

theorem key (sound : world.Sound) (code state : UInt32) : (world.key code state).Sound where
  seats := sound.seats
  outputs := sound.outputs
  told := sound.sameOutputs rfl rfl rfl rfl rfl rfl
  keys index := by
    have before := sound.keys index
    refine ⟨before.entered, before.missed, fun loop member since => ?_⟩
    rcases List.mem_cons.mp member with rfl | earlier
    · exact ⟨since, fun passed => absurd passed (Nat.not_lt_zero _)⟩
    · exact before.given loop earlier since

theorem visitKey (sound : world.Sound) (visited : world.visitKey = some next) : next.Sound := by
  rw [SeatWorld.visitKey] at visited
  split at visited
  · rename_i top rest keying
    split at visited
    · rename_i inside
      cases visited
      constructor
      case seats => exact sound.seats
      case outputs => exact sound.outputs
      case told => exact sound.sameOutputs rfl rfl rfl rfl rfl rfl
      case keys =>
        intro index
        have before := sound.keys index
        refine ⟨before.entered, before.missed, fun loop member since => ?_⟩
        rcases List.mem_cons.mp member with rfl | later
        · obtain ⟨entered, given⟩ := before.given top (keying ▸ List.mem_cons_self ..) since
          refine ⟨entered, fun passed => ?_⟩
          rcases eq_or_ne index ⟨top.position, inside.2⟩ with rfl | apart
          · rw [KeyLoop.given_visit_self, Bool.not_eq_true', List.isEmpty_eq_false_iff]
            exact ListenerSlot.deliverKey_ne_nil (before.entered entered).1
          · rw [KeyLoop.given_visit_of_ne apart]
            have further : index.val < top.position + 1 := passed
            have elsewhere : index.val ≠ top.position := fun here => apart (Fin.ext here)
            exact given (by omega)
        · exact before.given loop (keying ▸ List.mem_cons_of_mem _ later) since
    · cases visited
  · cases visited

/-- A key that is over has gone by every keyboard that was entered. -/
theorem finishKey (sound : world.Sound) (finished : world.finishKey = some next) : next.Sound := by
  rw [SeatWorld.finishKey] at finished
  split at finished
  · rename_i top rest keying
    split at finished
    · cases finished
    · rename_i atEnd
      cases finished
      constructor
      case seats => exact sound.seats
      case outputs => exact sound.outputs
      case told => exact sound.sameOutputs rfl rfl rfl rfl rfl rfl
      case keys =>
        intro index
        have before := sound.keys index
        refine ⟨before.entered, ?_, fun loop member since => ?_⟩
        · dsimp only
          rw [before.missed, Bool.false_or]
          cases since : top.since index with
          | false => rfl
          | true =>
              obtain ⟨entered, given⟩ := before.given top (keying ▸ List.mem_cons_self ..) since
              have counted := (before.entered entered).2
              rw [given (by omega)]
              rfl
        · exact before.given loop (keying ▸ List.mem_cons_of_mem _ member) since
  · cases finished

end Sound

theorem sound_step {input : SeatInput} (sound : world.Sound) (counted : world.Counted input)
    (stepped : world.step input = some next) : next.Sound := by
  cases input with
  | bindSeat =>
      cases stepped
      exact ⟨sound.seats.bind, sound.outputs, sound.sameOutputs rfl rfl rfl rfl rfl rfl,
        sound.sameKeyboards rfl rfl rfl rfl rfl⟩
  | bindOutput =>
      cases stepped
      exact ⟨sound.seats, sound.outputs.bind, sound.sameOutputs rfl rfl rfl rfl rfl rfl,
        sound.sameKeyboards rfl rfl rfl rfl rfl⟩
  | addListener object funcs data =>
      obtain ⟨-, ⟨⟩⟩ := Option.ite_none_right_eq_some.mp stepped
      cases object with
      | output index => exact sound.attachOutput counted _
      | keyboard index => exact sound.attachKeyboard _
  | addDispatcher object fn impl data =>
      obtain ⟨-, ⟨⟩⟩ := Option.ite_none_right_eq_some.mp stepped
      cases object with
      | output index => exact sound.attachOutput counted _
      | keyboard index => exact sound.attachKeyboard _
  | destroy object =>
      obtain ⟨-, ⟨⟩⟩ := Option.ite_none_right_eq_some.mp stepped
      cases object with
      | output index => exact sound.destroyOutput
      | keyboard index => exact sound.destroyKeyboard
  | createSurface slot =>
      cases stepped
      exact ⟨sound.seats, sound.outputs, sound.sameOutputs rfl rfl rfl rfl rfl rfl,
        sound.sameKeyboards rfl rfl rfl rfl rfl⟩
  | dispatch =>
      cases stepped
      exact sound.dispatch
  | visitOutput => exact sound.visitOutput stepped
  | finishOutputs => exact sound.finishOutputs stepped
  | fireFocus =>
      cases stepped
      rw [fireFocus]
      split
      · exact ⟨sound.seats, sound.outputs, sound.sameOutputs rfl rfl rfl rfl rfl rfl,
          sound.sameKeyboards rfl rfl rfl rfl rfl⟩
      · exact sound
  | refocus surface =>
      cases stepped
      rw [refocus]
      split
      · exact ⟨sound.seats, sound.outputs, sound.sameOutputs rfl rfl rfl rfl rfl rfl,
          sound.sameKeyboards rfl rfl rfl rfl rfl⟩
      · exact sound
  | visitFocus file => exact sound.visitFocus counted stepped
  | finishFocus => exact sound.finishFocus stepped
  | key code state =>
      cases stepped
      exact sound.key code state
  | visitKey => exact sound.visitKey stepped
  | finishKey => exact sound.finishKey stepped

end SeatWorld

/-! ## Runs -/

/-- What is bound is served in a run in which only outputs that the proxy has counted get a
listener, and only keyboards of such seats the focus. -/
theorem served_of_counted {stub : WlBridgeState} {words : Nat → UInt32} {name : List UInt8}
    {inputs : List SeatInput} {reached : SeatWorld}
    (counted : seatMachine.Along SeatWorld.Counted (.initial (stub.connected words name)) inputs)
    (runs : seatMachine.run (.initial (stub.connected words name)) inputs = some reached) :
    reached.Served := by
  have sound : reached.Sound :=
    Machine.Along.run_invariant SeatWorld.sound_step (.initial stub words name) counted runs
  exact sound.served

instance decidableCounted (world : SeatWorld) (input : SeatInput) :
    Decidable (world.Counted input) :=
  match input with
  | .addListener (.output _) .. | .addDispatcher (.output _) .. => Nat.decLt ..
  | .visitFocus _ =>
      @Nat.decidableForallFin _ _ fun _ =>
        @instDecidableForall _ _ (Option.instDecidableEq ..)
          (@instDecidableForall _ _ (decidableAttached _) (Nat.decLt ..))
  | .addListener (.keyboard _) .. | .addDispatcher (.keyboard _) .. => isTrue trivial
  | .bindSeat | .bindOutput | .destroy _ | .createSurface _ | .dispatch | .visitOutput
  | .finishOutputs | .fireFocus | .refocus _ | .finishFocus | .key .. | .visitKey | .finishKey =>
      isTrue trivial

/-- A connection to the proxy as it is. -/
def proxyConnected : SeatWorld :=
  .initial (WlBridgeState.zero.connected
    (WlBridgeState.connectWords 8 ⟨false, 0, 0, 0, []⟩ ⟨1920, 1080, 60000, 527, 296, 1⟩) [])

theorem counted_output :
    ∃ ends : (seatMachine.run proxyConnected [.bindOutput, .addListener (.output 0) 1 1,
        .dispatch, .visitOutput, .finishOutputs]).isSome = true,
      (Option.get _ ends).Served ∧ (Option.get _ ends).told 0 ≠ [] :=
  ⟨by decide, served_of_counted (by decide) (Option.some_get _).symm, by decide⟩

/-- The second output that is bound is not told anything. -/
theorem second_output_untold :
    ∃ reached, seatMachine.run proxyConnected [.bindOutput, .bindOutput,
        .addListener (.output 1) 1 1, .dispatch, .visitOutput, .finishOutputs] = some reached ∧
      ¬ reached.Served := by
  refine ⟨_, rfl, fun served => ?_⟩
  have told := served.told 1 (by decide) (by decide)
  cases told

/-- The keyboard of the second seat gets the focus and no key. -/
theorem second_keyboard_misses :
    ∃ reached, seatMachine.run proxyConnected [.bindSeat, .bindSeat,
        .addListener (.keyboard 1) 1 1, .createSurface 1, .fireFocus, .visitFocus none,
        .visitFocus none, .finishFocus, .key 30 1, .visitKey, .finishKey] = some reached ∧
      ¬ reached.Served := by
  refine ⟨_, rfl, fun served => ?_⟩
  have keys := served.keys 1
  cases keys

end GlesBridge.Wayland
