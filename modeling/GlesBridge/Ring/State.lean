import GlesBridge.Data.Window
import Mathlib.Algebra.Group.Nat.Even
import Mathlib.Logic.Function.Basic

namespace GlesBridge.Ring

open GlesBridge.Data

/-! The shared ring (`BridgeRing`, `BridgeCtrl`), the stub's process state and
the proxy's loop state.

Sequence numbers and arena positions are natural numbers: the 64-bit counters
start at zero, and no run lives long enough to wrap them.
-/

/-- `GLES_BRIDGE_DATA_SIZE`, 64 MB. -/
def glesBridgeDataSize : Nat := 64 * 1024 * 1024

/-- `BRIDGE_RESULT_SIZE`. -/
def bridgeResultSize : Nat := 4096

/-- `OP_MAX`. -/
def opMax : Nat := 349

def opEglMakeCurrent : UInt32 := 161

abbrev Bytes := Nat → UInt8

abbrev ResultBuf := Fin bridgeResultSize → UInt8

/-- The settings of `bridge.conf` that both sides load before they start. -/
structure Config where
  ringSlots : Nat
  ringMask : Nat
  slots_pow2 : ringSlots.isPowerOfTwo
  mask_eq : ringMask = ringSlots - 1
  asyncSwap : Bool
  spinUs : Nat

namespace Config

/-- The settings used when `bridge.conf` is missing. -/
def default : Config where
  ringSlots := 4096
  ringMask := 4095
  slots_pow2 := ⟨12, rfl⟩
  mask_eq := rfl
  asyncSwap := true
  spinUs := 50

variable (cfg : Config)

theorem ringSlots_pos : 0 < cfg.ringSlots := by
  obtain ⟨exponent, shape⟩ := cfg.slots_pow2
  rw [shape]
  exact Nat.two_pow_pos exponent

theorem and_ringMask (seq : Nat) : seq &&& cfg.ringMask = seq % cfg.ringSlots := by
  obtain ⟨exponent, shape⟩ := cfg.slots_pow2
  rw [cfg.mask_eq, shape]
  exact Nat.and_two_pow_sub_one_eq_mod seq exponent

/-- `seq & g_ring_mask`, the position of a command in `slots[]`. -/
def slotIndex (seq : Nat) : Fin cfg.ringSlots :=
  ⟨seq &&& cfg.ringMask, by
    rw [cfg.and_ringMask]
    exact Nat.mod_lt seq cfg.ringSlots_pos⟩

variable {cfg}

/-- Commands less than a ring apart never share a slot. -/
theorem slotIndex_ne {left right : Nat} (ordered : left < right)
    (near : right < left + cfg.ringSlots) : cfg.slotIndex left ≠ cfg.slotIndex right := by
  intro same
  have sameCell : left % cfg.ringSlots = right % cfg.ringSlots := by
    simpa only [slotIndex, Fin.mk.injEq, and_ringMask] using same
  have := eq_of_mod_eq_of_lt_add (Nat.le_of_lt ordered) near sameCell
  omega

end Config

/-- A command slot. `proxy_pid` is left out: neither side reads it in a slot. -/
structure BridgeCtrl where
  opcode : UInt32
  needsResponse : UInt32
  args : List UInt8
  argsLen : UInt32
  dataOffset : UInt32
  dataSize : UInt32
  data2Offset : UInt32
  data2Size : UInt32
  result : UInt64
  resultBufLen : UInt32
  clientPid : Int32
  dataWatermark : Nat
  dataWatermarkValid : Bool
  targetCtx : UInt32

/-- The fields an entry point assigns between `bridge_begin` and its send. -/
inductive SlotWrite where
  | opcode (value : UInt32)
  | args (bytes : List UInt8)
  | argsLen (value : UInt32)
  | dataOffset (value : UInt32)
  | dataSize (value : UInt32)
  | data2Offset (value : UInt32)
  | data2Size (value : UInt32)

def SlotWrite.apply : SlotWrite → BridgeCtrl → BridgeCtrl
  | .opcode value, slot => { slot with opcode := value }
  | .args bytes, slot => { slot with args := bytes }
  | .argsLen value, slot => { slot with argsLen := value }
  | .dataOffset value, slot => { slot with dataOffset := value }
  | .dataSize value, slot => { slot with dataSize := value }
  | .data2Offset value, slot => { slot with data2Offset := value }
  | .data2Size value, slot => { slot with data2Size := value }

/-- Which of `bridge_send_void`, `bridge_send_call` and `bridge_send_swap`
publishes the command. -/
inductive SendMode where
  | void
  | call
  | swap
deriving DecidableEq, Repr

/-- The value `publish_cur` stores in `needs_response`. -/
def SendMode.needsResponse (cfg : Config) : SendMode → UInt32
  | .void => 0
  | .call => 1
  | .swap => if cfg.asyncSwap then 2 else 1

/-- Where `wait_completed` stands: before its first test, in the spin loop,
before a test of the last loop, or inside `efd_wait(resp_efd)`. -/
inductive WaitPhase where
  | enter
  | spin
  | recheck
  | blocked
deriving DecidableEq, Repr

/-- The next phase after a test that found the command not completed;
`deadline` tells whether the spin time has run out. -/
def WaitPhase.missed (cfg : Config) (deadline : Bool) : WaitPhase → WaitPhase
  | .enter => if cfg.spinUs = 0 then .recheck else .spin
  | .spin => if deadline then .recheck else .spin
  | .recheck => .blocked
  | .blocked => .blocked

inductive Pc where
  /-- Outside the bridge. -/
  | idle
  /-- Inside an entry point whose `bridge_send_call` has released `g_lock`. -/
  | late
  /-- In the loop of `ring_reserve_slot`. -/
  | reserve
  /-- Between `bridge_begin` and the send, filling in the slot. -/
  | fill
  /-- In the loop of `ring_data_alloc`, called by `bridge_data_write(src, size)`. -/
  | alloc (size : Nat) (src : Option Bytes)
  /-- The process died in `ring_data_alloc`. -/
  | aborted
  /-- In `publish_cur`, after the store of `published_seq`. -/
  | loadWaiting (mode : SendMode)
  /-- In `publish_cur`, about to `efd_post(req_efd)`. -/
  | postReq (mode : SendMode)
  /-- In `wait_completed(target)`. -/
  | wait (mode : SendMode) (target : Nat) (phase : WaitPhase)
  /-- After `wait_completed`, before the results are taken. -/
  | finish (mode : SendMode)
  /-- About to release `g_lock` and return `value`. -/
  | unlock (mode : SendMode) (value : UInt64)

/-- What a thread holds: nothing, `g_lock`, a slot it has not published, or
`g_lock` after publishing. -/
inductive Stage where
  | outside
  | reserving
  | filling
  | sending
deriving DecidableEq, Repr

def Pc.stage : Pc → Stage
  | .idle | .late => .outside
  | .reserve => .reserving
  | .fill | .alloc .. | .aborted => .filling
  | .loadWaiting _ | .postReq _ | .wait .. | .finish _ | .unlock .. => .sending

/-- The thread-local state of a client thread. `g_cur_slot` is
`&slots[g_cur_seq & g_ring_mask]`: `ring_reserve_slot` sets both together.
`allocs` are the arena ranges the entry point obtained for its command, each
kept with its absolute position, whose remainder is the offset returned. -/
structure Thread where
  pc : Pc
  curSeq : Nat
  currentCtx : UInt32
  allocs : List Block
  resultBuf : ResultBuf
  resultLen : UInt32
  resultVal : UInt64

/-- Where the proxy's main loop stands. -/
inductive ProxyPc where
  | load
  | spin
  | setWaiting
  | recheck
  | blocked
  | clearWaiting
  | dispatch
  | release
  | complete
  | post
deriving DecidableEq, Repr

/-- One when the handler of the current slot has run and the slot is not
counted as completed yet. -/
def ProxyPc.answered : ProxyPc → Nat
  | .release | .complete => 1
  | _ => 0

/-- One when the arena range of the current slot has been released and the slot
is not counted as completed yet. -/
def ProxyPc.released : ProxyPc → Nat
  | .complete => 1
  | _ => 0

/-- The whole system. The first group of fields lies in shared memory or the
kernel, the second in the stub's process, the third in the proxy. `gl` stands
for everything the handlers keep between commands. -/
structure State (cfg : Config) (Tid Gl : Type) where
  publishedSeq : Nat
  completedSeq : Nat
  dataTail : Nat
  consumerWaiting : Bool
  resultBuf : ResultBuf
  slots : Fin cfg.ringSlots → BridgeCtrl
  arena : Bytes
  reqEfd : Nat
  respEfd : Nat
  lock : Option Tid
  localSeq : Nat
  localDataHead : Nat
  pendingSwapSeq : Nat
  havePendingSwap : Bool
  clientPid : Int32
  threads : Tid → Thread
  proxyPc : ProxyPc
  completed : Nat
  gl : Gl

def BridgeCtrl.zero : BridgeCtrl where
  opcode := 0
  needsResponse := 0
  args := []
  argsLen := 0
  dataOffset := 0
  dataSize := 0
  data2Offset := 0
  data2Size := 0
  result := 0
  resultBufLen := 0
  clientPid := 0
  dataWatermark := 0
  dataWatermarkValid := false
  targetCtx := 0

def Thread.zero : Thread where
  pc := .idle
  curSeq := 0
  currentCtx := 0
  allocs := []
  resultBuf := fun _ => 0
  resultLen := 0
  resultVal := 0

/-- The state in which `bridge_init` leaves the bridge: zeroed segments, no
command, the proxy entering its loop. -/
def State.initial (cfg : Config) {Tid Gl : Type} (clientPid : Int32) (gl : Gl) :
    State cfg Tid Gl where
  publishedSeq := 0
  completedSeq := 0
  dataTail := 0
  consumerWaiting := false
  resultBuf := fun _ => 0
  slots := fun _ => .zero
  arena := fun _ => 0
  reqEfd := 0
  respEfd := 0
  lock := none
  localSeq := 0
  localDataHead := 0
  pendingSwapSeq := 0
  havePendingSwap := false
  clientPid := clientPid
  threads := fun _ => .zero
  proxyPc := .load
  completed := 0
  gl := gl

end GlesBridge.Ring
