import GlesBridge.Ring.State
import GlesBridge.Systems.Transition

namespace GlesBridge.Ring

open GlesBridge.Data GlesBridge.Systems

/-! One step of one party, at the granularity of the atomic accesses: a plain
access to memory that the party owns goes with the atomic access before it.
-/

/-! ## The proxy's handlers -/

/-- What a handler leaves behind: the proxy's own state, the two result fields
of the slot, the shared result buffer and the arena. -/
structure Outcome (Gl : Type) where
  gl : Gl
  result : UInt64
  resultBufLen : UInt32
  resultBuf : ResultBuf
  arena : Bytes

abbrev Handler (Gl : Type) := BridgeCtrl → ResultBuf → Bytes → Gl → Outcome Gl

structure Dispatcher (Gl : Type) where
  eglBindTargetCtx : UInt32 → Gl → Gl
  dispatchTable : Fin opMax → Option (Handler Gl)

def Dispatcher.uniform {Gl : Type} (handler : Handler Gl) : Dispatcher Gl where
  eglBindTargetCtx _ gl := gl
  dispatchTable _ := some handler

/-- The main loop's treatment of a slot. An opcode outside the table is logged
and leaves everything as it was. -/
def Dispatcher.run {Gl : Type} (proxy : Dispatcher Gl) (slot : BridgeCtrl) (resultBuf : ResultBuf)
    (arena : Bytes) (gl : Gl) : Outcome Gl :=
  let bound := if slot.opcode = opEglMakeCurrent then gl
    else proxy.eglBindTargetCtx slot.targetCtx gl
  let untouched : Outcome Gl :=
    { gl := bound, result := slot.result, resultBufLen := slot.resultBufLen, resultBuf, arena }
  if listed : slot.opcode ≠ 0 ∧ slot.opcode.toNat < opMax then
    match proxy.dispatchTable ⟨slot.opcode.toNat, listed.2⟩ with
    | some handler => handler slot resultBuf arena bound
    | none => untouched
  else untouched

def BridgeCtrl.answered {Gl : Type} (slot : BridgeCtrl) (outcome : Outcome Gl) : BridgeCtrl :=
  { slot with result := outcome.result, resultBufLen := outcome.resultBufLen }

def Handler.constant (result : UInt64) : Handler Unit := fun slot resultBuf arena gl =>
  { gl, result, resultBufLen := slot.resultBufLen, resultBuf, arena }

/-! ## The data arena -/

/-- `(size + 3u) & ~3u`: the complement is a 32-bit constant. -/
def alignUp (size : Nat) : Nat := (size + 3) &&& 0xFFFFFFFC

/-- One turn of the loop of `ring_data_alloc` against the tail it loads: the
offset and the new head, or nothing while the arena is full. -/
def ringDataAlloc (head tail size : Nat) : Option (Nat × Nat) :=
  let size := alignUp size
  let pos := head % glesBridgeDataSize
  let spaceToEnd := glesBridgeDataSize - pos
  let placed := if size ≤ spaceToEnd then (pos, head + size) else (0, head + spaceToEnd + size)
  if placed.2 - tail > glesBridgeDataSize then none else some placed

def writeBytes (arena : Bytes) (offset size : Nat) (src : Bytes) : Bytes := fun address =>
  if offset ≤ address ∧ address < offset + size then src (address - offset) else arena address

def readBytes (arena : Bytes) (offset size : Nat) : List UInt8 :=
  (List.range size).map fun index => arena (offset + index)

/-- A handler that fills the data range of its command. -/
def Handler.fillData (byte : UInt8) : Handler Unit := fun slot resultBuf arena gl =>
  { gl
    result := slot.result
    resultBufLen := slot.resultBufLen
    resultBuf
    arena := writeBytes arena slot.dataOffset.toNat slot.dataSize.toNat fun _ => byte }

/-! ## Events -/

/-- One call of `ring_data_alloc`: the offset it returns, the size asked for, and
the block that the head moves over. -/
structure Allocation where
  offset : Nat
  size : Nat
  block : Block

inductive Event (Tid Gl : Type) where
  /-- A step of a thread, or of the proxy, that the statements below do not
  single out. -/
  | quiet (actor : Option Tid)
  | begun (thread : Tid) (seq head : Nat)
  | allocated (thread : Tid) (seq : Nat) (allocation : Allocation)
  | published (thread : Tid) (seq : Nat) (mode : SendMode) (slot : BridgeCtrl)
  | dispatched (seq : Nat) (slot : BridgeCtrl) (outcome : Outcome Gl)
  | completed (seq : Nat)
  | posted (seq : Nat)
  | returned (thread : Tid) (seq : Nat) (mode : SendMode) (value : UInt64)
  | readSlot (thread : Tid) (seq : Nat) (slot : BridgeCtrl)
  /-- `bridge_data_read` at the offset of a block the entry point got from
  `bridge_data_write`, or at `C->data_offset`. -/
  | readData (thread : Tid) (seq : Nat) (source : Option Block) (size : Nat) (bytes : List UInt8)

/-- The thread that takes the step, or `none` for the proxy. -/
def Event.actor {Tid Gl : Type} : Event Tid Gl → Option Tid
  | .quiet actor => actor
  | .begun thread .. | .allocated thread .. | .published thread .. | .returned thread ..
  | .readSlot thread .. | .readData thread .. => some thread
  | .dispatched .. | .completed _ | .posted _ => none

/-! ## Updates -/

section Updates

variable {cfg : Config} {Tid Gl : Type} [DecidableEq Tid] (s : State cfg Tid Gl) (t : Tid)

namespace State

def setThread (thread : Thread) : State cfg Tid Gl :=
  { s with threads := Function.update s.threads t thread }

def setPc (pc : Pc) : State cfg Tid Gl := s.setThread t { s.threads t with pc }

def setSlot (index : Fin cfg.ringSlots) (slot : BridgeCtrl) : State cfg Tid Gl :=
  { s with slots := Function.update s.slots index slot }

/-- `g_cur_slot`, as an index. -/
def curIndex : Fin cfg.ringSlots := cfg.slotIndex (s.threads t).curSeq

/-- The test of `ring_reserve_slot`. -/
def hasRoom : Bool := s.localSeq - s.completedSeq < cfg.ringSlots

def acquire : State cfg Tid Gl := { s with lock := some t }.setPc t .reserve

/-- The end of `ring_reserve_slot` and the rest of `bridge_begin`. -/
def bridgeBegin : State cfg Tid Gl :=
  let index := cfg.slotIndex s.localSeq
  let reserved := { s with localSeq := s.localSeq + 1 }.setSlot index
    { s.slots index with
      clientPid := s.clientPid
      targetCtx := (s.threads t).currentCtx
      dataWatermark := s.localDataHead
      dataWatermarkValid := false
      resultBufLen := 0 }
  reserved.setThread t { s.threads t with pc := .fill, curSeq := s.localSeq, allocs := [] }

def writeSlot (write : SlotWrite) : State cfg Tid Gl :=
  s.setSlot (s.curIndex t) (write.apply (s.slots (s.curIndex t)))

/-- The rest of `bridge_data_write` once `ring_data_alloc` has an offset. -/
def bridgeDataWrite (size : Nat) (src : Option Bytes) (offset newHead : Nat) :
    State cfg Tid Gl :=
  let copied := match src with
    | some bytes => writeBytes s.arena offset size bytes
    | none => s.arena
  let marked := { s with localDataHead := newHead, arena := copied }.setSlot (s.curIndex t)
    { s.slots (s.curIndex t) with dataWatermark := newHead, dataWatermarkValid := true }
  let block : Block := ⟨newHead - alignUp size, alignUp size⟩
  marked.setThread t { s.threads t with pc := .fill, allocs := (s.threads t).allocs ++ [block] }

/-- The store of `needs_response` and of `published_seq` in `publish_cur`. -/
def publishCur (mode : SendMode) : State cfg Tid Gl :=
  let published := { s with publishedSeq := (s.threads t).curSeq + 1 }.setSlot (s.curIndex t)
    { s.slots (s.curIndex t) with needsResponse := mode.needsResponse cfg }
  published.setPc t (.loadWaiting mode)

/-- Where a send goes on after `publish_cur`. -/
def afterPublish (mode : SendMode) : Pc :=
  let seq := (s.threads t).curSeq
  match mode with
  | .void => .unlock .void 0
  | .call => .wait .call seq .enter
  | .swap =>
      if cfg.asyncSwap then
        if s.havePendingSwap then .wait .swap s.pendingSwapSeq .enter else .finish .swap
      else .wait .swap seq .enter

/-- The copies that `bridge_send_call` makes under the lock. -/
def copyReply : State cfg Tid Gl :=
  let slot := s.slots (s.curIndex t)
  s.setThread t { s.threads t with
    pc := .unlock .call slot.result
    resultVal := slot.result
    resultLen := slot.resultBufLen
    resultBuf := s.resultBuf }

/-- The end of `bridge_send_swap`. -/
def finishSwap : State cfg Tid Gl :=
  if cfg.asyncSwap then
    { s with pendingSwapSeq := (s.threads t).curSeq, havePendingSwap := true }.setPc t
      (.unlock .swap 1)
  else s.setPc t (.unlock .swap (s.slots (s.curIndex t)).result)

def release (mode : SendMode) : State cfg Tid Gl :=
  { s with lock := none }.setPc t (if mode = SendMode.call then .late else .idle)

def proxyIndex : Fin cfg.ringSlots := cfg.slotIndex s.completed

def outcome (proxy : Dispatcher Gl) : Outcome Gl :=
  proxy.run (s.slots s.proxyIndex) s.resultBuf s.arena s.gl

def dispatch (proxy : Dispatcher Gl) : State cfg Tid Gl :=
  let outcome := s.outcome proxy
  { s with
    resultBuf := outcome.resultBuf
    arena := outcome.arena
    gl := outcome.gl
    proxyPc := .release }.setSlot s.proxyIndex ((s.slots s.proxyIndex).answered outcome)

/-- The release of the slot's arena range. -/
def releaseData : State cfg Tid Gl :=
  let slot := s.slots s.proxyIndex
  { s with
    dataTail := if slot.dataWatermarkValid then slot.dataWatermark else s.dataTail
    proxyPc := .complete }

def complete : State cfg Tid Gl :=
  { s with
    completed := s.completed + 1
    completedSeq := s.completed + 1
    proxyPc := if (s.slots s.proxyIndex).needsResponse = 0 then .load else .post }

end State

end Updates

/-! ## Steps -/

section Steps

variable {cfg : Config} {Tid Gl : Type} [DecidableEq Tid]

inductive Step (proxy : Dispatcher Gl) : State cfg Tid Gl → Event Tid Gl → State cfg Tid Gl → Prop where
  -- `bridge_begin`
  | lock {s t} (here : (s.threads t).pc = .idle) (free : s.lock = none) :
      Step proxy s (.quiet (some t)) (s.acquire t)
  | ringFull {s t} (here : (s.threads t).pc = .reserve) (full : s.hasRoom = false) :
      Step proxy s (.quiet (some t)) s
  | begin {s t} (here : (s.threads t).pc = .reserve) (room : s.hasRoom = true) :
      Step proxy s (.begun t s.localSeq s.localDataHead) (s.bridgeBegin t)
  -- the entry point
  | fill {s t} (write : SlotWrite) (here : (s.threads t).pc = .fill) :
      Step proxy s (.quiet (some t)) (s.writeSlot t write)
  | selectCtx {s t} (ctx : UInt32)
      (here : (s.threads t).pc = .fill ∨ (s.threads t).pc = .idle) :
      Step proxy s (.quiet (some t)) (s.setThread t { s.threads t with currentCtx := ctx })
  -- `bridge_data_write`
  | dataEnter {s t} (size : Nat) (src : Option Bytes) (here : (s.threads t).pc = .fill)
      (admitted : size ≤ glesBridgeDataSize) :
      Step proxy s (.quiet (some t)) (s.setPc t (.alloc size src))
  | dataAbort {s t} (size : Nat) (here : (s.threads t).pc = .fill)
      (tooLarge : glesBridgeDataSize < size) :
      Step proxy s (.quiet (some t)) (s.setPc t .aborted)
  | dataFull {s t size src} (here : (s.threads t).pc = .alloc size src)
      (full : ringDataAlloc s.localDataHead s.dataTail size = none) :
      Step proxy s (.quiet (some t)) s
  | dataWrite {s t size src offset newHead} (here : (s.threads t).pc = .alloc size src)
      (placed : ringDataAlloc s.localDataHead s.dataTail size = some (offset, newHead)) :
      Step proxy s
        (.allocated t (s.threads t).curSeq
          ⟨offset, size, ⟨newHead - alignUp size, alignUp size⟩⟩)
        (s.bridgeDataWrite t size src offset newHead)
  -- `publish_cur`
  | publish {s t} (mode : SendMode) (here : (s.threads t).pc = .fill) :
      Step proxy s
        (.published t (s.threads t).curSeq mode ((s.publishCur t mode).slots (s.curIndex t)))
        (s.publishCur t mode)
  | loadWaiting {s t mode} (here : (s.threads t).pc = .loadWaiting mode) :
      Step proxy s (.quiet (some t))
        (s.setPc t (if s.consumerWaiting then .postReq mode else s.afterPublish t mode))
  | postReq {s t mode} (here : (s.threads t).pc = .postReq mode) :
      Step proxy s (.quiet (some t))
        ({ s with reqEfd := s.reqEfd + 1 }.setPc t (s.afterPublish t mode))
  -- `wait_completed`
  | waitDone {s t mode target phase} (here : (s.threads t).pc = .wait mode target phase)
      (testing : phase ≠ .blocked) (done : target < s.completedSeq) :
      Step proxy s (.quiet (some t)) (s.setPc t (.finish mode))
  | waitMiss {s t mode target phase} (deadline : Bool)
      (here : (s.threads t).pc = .wait mode target phase) (testing : phase ≠ .blocked)
      (behind : s.completedSeq ≤ target) :
      Step proxy s (.quiet (some t)) (s.setPc t (.wait mode target (phase.missed cfg deadline)))
  | efdWait {s t mode target} (here : (s.threads t).pc = .wait mode target .blocked)
      (ready : 0 < s.respEfd) :
      Step proxy s (.quiet (some t)) ({ s with respEfd := 0 }.setPc t (.wait mode target .recheck))
  -- the end of a send
  | copyReply {s t} (here : (s.threads t).pc = .finish .call) :
      Step proxy s (.quiet (some t)) (s.copyReply t)
  | finishSwap {s t} (here : (s.threads t).pc = .finish .swap) :
      Step proxy s (.quiet (some t)) (s.finishSwap t)
  | unlock {s t mode value} (here : (s.threads t).pc = .unlock mode value) :
      Step proxy s (.returned t (s.threads t).curSeq mode value) (s.release t mode)
  -- the entry point, after `bridge_send_call`
  | readSlot {s t} (here : (s.threads t).pc = .late) :
      Step proxy s (.readSlot t (s.threads t).curSeq (s.slots (s.curIndex t))) s
  | readData {s t size block} (here : (s.threads t).pc = .late)
      (own : block ∈ (s.threads t).allocs) (bounded : size ≤ block.size) :
      Step proxy s (.readData t (s.threads t).curSeq (some block) size
        (readBytes s.arena (block.offset glesBridgeDataSize) size)) s
  | readDataOffset {s t} (size : Nat) (here : (s.threads t).pc = .late)
      (bounded : (s.slots (s.curIndex t)).dataOffset.toNat + size ≤ glesBridgeDataSize) :
      Step proxy s (.readData t (s.threads t).curSeq none size
        (readBytes s.arena (s.slots (s.curIndex t)).dataOffset.toNat size)) s
  | leave {s t} (here : (s.threads t).pc = .late) :
      Step proxy s (.quiet (some t)) (s.setPc t .idle)
  -- the proxy's idle path
  | load {s} (here : s.proxyPc = .load) :
      Step proxy s (.quiet none) { s with proxyPc :=
        if s.completed < s.publishedSeq then .dispatch
        else if cfg.spinUs = 0 then .setWaiting else .spin }
  | spin {s} (deadline : Bool) (here : s.proxyPc = .spin) :
      Step proxy s (.quiet none) { s with proxyPc :=
        if s.completed < s.publishedSeq then .load else if deadline then .setWaiting else .spin }
  | setWaiting {s} (here : s.proxyPc = .setWaiting) :
      Step proxy s (.quiet none) { s with consumerWaiting := true, proxyPc := .recheck }
  | recheck {s} (here : s.proxyPc = .recheck) :
      Step proxy s (.quiet none) { s with proxyPc :=
        if s.completed < s.publishedSeq then .clearWaiting else .blocked }
  | wake {s} (here : s.proxyPc = .blocked) (ready : 0 < s.reqEfd) :
      Step proxy s (.quiet none) { s with reqEfd := 0, proxyPc := .clearWaiting }
  | clearWaiting {s} (here : s.proxyPc = .clearWaiting) :
      Step proxy s (.quiet none) { s with consumerWaiting := false, proxyPc := .load }
  -- the proxy's dispatch path
  | dispatch {s} (here : s.proxyPc = .dispatch) :
      Step proxy s (.dispatched s.completed (s.slots s.proxyIndex) (s.outcome proxy))
        (s.dispatch proxy)
  | release {s} (here : s.proxyPc = .release) : Step proxy s (.quiet none) s.releaseData
  | complete {s} (here : s.proxyPc = .complete) :
      Step proxy s (.completed s.completed) s.complete
  | post {s} (here : s.proxyPc = .post) :
      Step proxy s (.posted (s.completed - 1))
        { s with respEfd := s.respEfd + 1, proxyPc := .load }

def bridge (cfg : Config) (Tid : Type) [DecidableEq Tid] (proxy : Dispatcher Gl) :
    Lts (State cfg Tid Gl) (Event Tid Gl) where
  Initial s := ∃ clientPid gl, s = .initial cfg clientPid gl
  Step := Step proxy

end Steps

end GlesBridge.Ring
