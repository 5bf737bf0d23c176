import GlesBridge.Stub.Marshal
import GlesBridge.Stub.Listeners

namespace GlesBridge.Stub.WlBridgeState

/-! The seats and the outputs that a client binds, and who listens to them. -/

variable (stub : WlBridgeState)

/-- A positive number of 32 bits, or what stands for it. -/
def positiveOr (default value : UInt32) : UInt32 := if 0 < value.toInt32 then value else default

/-- The words of the reply to `wl_display_connect`: the proxy has one seat and one output. -/
def connectWords (watermark : UInt32) (seat : WebosSeatInfo) (output : OutputInfo) : Nat → UInt32
  | 1 | 2 => 1
  | 3 => watermark
  | 4 => if seat.received = true then 1 else 0
  | 5 => seat.id
  | 6 => seat.designator
  | 7 => seat.capabilities
  | 8 => positiveOr 1920 output.width
  | 9 => positiveOr 1080 output.height
  | 10 => positiveOr 60000 output.refresh
  | 11 => positiveOr 527 output.physW
  | 12 => positiveOr 296 output.physH
  | 13 => positiveOr 1 output.scale
  | _ => 0

/-- `wl_display_connect` with a reply, before it asks for the keymap; `name` is the text behind
the words. -/
def connected (words : Nat → UInt32) (name : List UInt8) : WlBridgeState :=
  { stub.reset with
    numSeats := if words 1 = 0 then 1 else words 1
    numOutputs := if words 2 = 0 then 1 else words 2
    idWatermark := words 3
    webosSeat :=
      { received := decide (words 4 ≠ 0), id := words 5, designator := words 6,
        capabilities := words 7, name }
    output :=
      { width := words 8, height := words 9, refresh := words 10, physW := words 11,
        physH := words 12, scale := words 13 } }

/-! ## Binding -/

def bindSeat : WlBridgeState := { stub with seatCnt := stub.seatCnt + 1 }

def boundSeat : UInt32 := handleAt bhSeatBase (stub.seatCnt &&& 1).toNat

def bindOutput : WlBridgeState := { stub with outCnt := stub.outCnt + 1 }

def boundOutput : UInt32 := handleAt bhOutputBase (stub.outCnt &&& 3).toNat

theorem registryBind_seat :
    stub.registryBind (some "wl_seat") = stub.bindSeat.returns stub.boundSeat := by
  rw [registryBind, if_neg (by decide), if_neg (by decide), if_neg (by decide),
    if_neg (by decide), if_pos rfl, bindSeat, boundSeat]

theorem registryBind_output :
    stub.registryBind (some "wl_output") = stub.bindOutput.returns stub.boundOutput := by
  rw [registryBind, if_neg (by decide), if_neg (by decide), if_neg (by decide),
    if_neg (by decide), if_neg (by decide), if_pos rfl, bindOutput, boundOutput]

/-! ## Outputs -/

section

variable (index : Fin maxOutputs)

def outputHandle : UInt32 := handleAt bhOutputBase index.val

/-- The events are not fired inline, for a client may be inside the event of a global. -/
def attachOutput (change : ListenerSlot → ListenerSlot) : WlBridgeState :=
  { stub with
    outputs := Function.update stub.outputs index (change (stub.outputs index))
    outputEventsPending := Function.update stub.outputEventsPending index true }

def destroyOutput : WlBridgeState :=
  { stub with
    outputs := Function.update stub.outputs index .empty
    outputEventsPending := Function.update stub.outputEventsPending index false }

/-- What `_bridge_dispatch` does for one output, with the events that it delivers. -/
def visitOutput : WlBridgeState × List Delivery :=
  if stub.outputEventsPending index = true then
    ({ stub with outputEventsPending := Function.update stub.outputEventsPending index false },
      (stub.outputs index).fireOutputEvents (outputHandle index) stub.output)
  else (stub, [])

variable {stub} {index}

/-- A visit of an output changes what is pending there. -/
theorem visitOutput_cases :
    (stub.visitOutput index).1 = stub ∨
      (stub.visitOutput index).1 =
        { stub with
          outputEventsPending := Function.update stub.outputEventsPending index false } := by
  rw [visitOutput]
  split
  · exact .inr rfl
  · exact .inl rfl

theorem outputEventsPending_visitOutput_of_ne {other : Fin maxOutputs} (apart : other ≠ index) :
    (stub.visitOutput index).1.outputEventsPending other = stub.outputEventsPending other := by
  rcases visitOutput_cases with same | cleared
  · rw [same]
  · rw [cleared]
    exact Function.update_of_ne apart ..

theorem visitOutput_others (stub : WlBridgeState) (index : Fin maxOutputs) :
    (stub.visitOutput index).1.outputs = stub.outputs ∧
      (stub.visitOutput index).1.keyboards = stub.keyboards ∧
      (stub.visitOutput index).1.numOutputs = stub.numOutputs ∧
      (stub.visitOutput index).1.numSeats = stub.numSeats ∧
      (stub.visitOutput index).1.output = stub.output ∧
      (stub.visitOutput index).1.seatCnt = stub.seatCnt ∧
      (stub.visitOutput index).1.outCnt = stub.outCnt := by
  rcases visitOutput_cases with same | cleared
  · rw [same]
    exact ⟨rfl, rfl, rfl, rfl, rfl, rfl, rfl⟩
  · rw [cleared]
    exact ⟨rfl, rfl, rfl, rfl, rfl, rfl, rfl⟩

end

/-! ## Keyboards -/

section

variable (index : Fin maxSeats)

def keyboardHandle : UInt32 := handleAt bhKeyboardBase index.val

def attachKeyboard (change : ListenerSlot → ListenerSlot) : WlBridgeState :=
  { stub with keyboards := Function.update stub.keyboards index (change (stub.keyboards index)) }

def destroyKeyboard : WlBridgeState :=
  { stub with keyboards := Function.update stub.keyboards index .empty }

/-- `_fire_keyboard_focus_to` at one seat; `file` is the descriptor that it makes for the
keymap, if it can. -/
def focusKeyboard (file : Option Int) (surface : UInt32) : List Delivery :=
  let keymap := stub.keymap.bind fun size => file.map fun descriptor => (descriptor, size)
  (stub.keyboards index).fireKeyboardFocus (keyboardHandle index) keymap surface

end

/-- The surface of `_fire_keyboard_focus`; without a state event it is the first one. -/
def focusSurface : Option UInt32 :=
  if stub.keyboardEnterSent = true then none
  else if stub.activeSurfaceHandle ≠ 0 then some stub.activeSurfaceHandle
  else if stub.nextSurface.toNat ≤ bhSurfaceBase then none
  else some (.ofNat bhSurfaceBase)

/-- The end of `_fire_keyboard_focus_to`, where a keyboard was reached. -/
def focused (surface : UInt32) : WlBridgeState :=
  { stub with keyboardFocusHandle := surface, keyboardEnterSent := true }

end GlesBridge.Stub.WlBridgeState
