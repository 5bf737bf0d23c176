import GlesBridge.Ring.Step
import GlesBridge.Stub.WlArena
import GlesBridge.Systems.Rendezvous

namespace GlesBridge.Wayland

open GlesBridge.Ring GlesBridge.Stub GlesBridge.Systems

/-! The channel of the Wayland commands: one control block and one arena, the threads of
the client in front of `g_wl.lock`, and `wl_dispatch_thread` behind two eventfds. A step
is as long as the memory has one user.
-/

/-- The control block, `WL_RESULT` behind it, and the arena. -/
structure WlMemory where
  ctrl : BridgeCtrl
  wlResult : Nat → UInt32
  data : Bytes

/-! ## The handlers -/

structure WlOutcome (Gl : Type) where
  gl : Gl
  result : UInt64
  dataOffset : UInt32
  dataSize : UInt32
  wlResult : Nat → UInt32
  data : Bytes

def WlMemory.answered {Gl : Type} (memory : WlMemory) (outcome : WlOutcome Gl) : WlMemory where
  ctrl := { memory.ctrl with
    result := outcome.result
    dataOffset := outcome.dataOffset
    dataSize := outcome.dataSize }
  wlResult := outcome.wlResult
  data := outcome.data

/-- `OP_WL_MAX` -/
def opWlMax : Nat := 15

structure WlDispatcher (Gl : Type) where
  wlDispatchTable : Fin opWlMax → Option (WlMemory → Gl → WlOutcome Gl)

/-- An opcode that the table does not have leaves everything as it was. -/
def WlDispatcher.run {Gl : Type} (proxy : WlDispatcher Gl) (memory : WlMemory) (gl : Gl) :
    WlOutcome Gl :=
  let untouched : WlOutcome Gl :=
    { gl
      result := memory.ctrl.result
      dataOffset := memory.ctrl.dataOffset
      dataSize := memory.ctrl.dataSize
      wlResult := memory.wlResult
      data := memory.data }
  if listed : memory.ctrl.opcode ≠ 0 ∧ memory.ctrl.opcode.toNat < opWlMax then
    match proxy.wlDispatchTable ⟨memory.ctrl.opcode.toNat, listed.2⟩ with
    | some handler => handler memory gl
    | none => untouched
  else untouched

/-! ## The state -/

/-- `bridge_send_void_wl` or `bridge_send_call_wl` -/
inductive WlSend where
  | void
  | call
deriving DecidableEq, Repr

/-- What the send returns. -/
def WlSend.value (memory : WlMemory) : WlSend → Option UInt64
  | .void => none
  | .call => some memory.ctrl.result

/-- Where the thread that has the lock is. -/
inductive WlPc where
  /-- Between `wl_bridge_begin` and the send. -/
  | filling
  /-- The process died in `wl_data_alloc`. -/
  | aborted
  /-- In `efd_wait(resp_wl_efd)`. -/
  | waiting (send : WlSend)
  /-- Past it. -/
  | taking (send : WlSend)
deriving DecidableEq, Repr

/-- Where `wl_dispatch_thread` is. After its `poll` it knows whether there is a request. -/
inductive WlPlace where
  | top
  | polling
  | woken (requested : Bool)
  | handling
  | answering
deriving DecidableEq, Repr

/-- `gl` stands for all that the handlers and the listeners of the proxy keep. -/
structure Channel (Tid Gl : Type) where
  memory : WlMemory
  reqWlEfd : Nat
  respWlEfd : Nat
  lock : Option (Tid × WlPc)
  dataPos : UInt32
  place : WlPlace
  gl : Gl

inductive WlEvent (Tid Gl : Type) where
  /-- The compositor, a signal, or another thread of the proxy. -/
  | outside
  | begun (thread : Tid)
  | stub (thread : Tid)
  | proxy
  | asked (thread : Tid) (request : WlMemory)
  | served (request : WlMemory) (outcome : WlOutcome Gl)
  | returned (thread : Tid) (send : WlSend) (memory : WlMemory)

namespace Channel

variable {Tid Gl : Type} (s : Channel Tid Gl) (t : Tid)

/-- `wl_bridge_init`, with the proxy entering its loop. -/
def initial (gl : Gl) : Channel Tid Gl where
  memory := { ctrl := .zero, wlResult := fun _ => 0, data := fun _ => 0 }
  reqWlEfd := 0
  respWlEfd := 0
  lock := none
  dataPos := 0
  place := .top
  gl

/-- `wl_bridge_begin` -/
def wlBridgeBegin : Channel Tid Gl := { s with lock := some (t, .filling), dataPos := 0 }

def writeCtrl (write : SlotWrite) : Channel Tid Gl :=
  { s with memory := { s.memory with ctrl := write.apply s.memory.ctrl } }

/-- `bridge_data_write_wl`, with the offset and the cursor of `wl_data_alloc`. -/
def bridgeDataWriteWl (src : Bytes) (size : UInt64) (off next : UInt32) : Channel Tid Gl :=
  { s with
    memory := { s.memory with data := writeBytes s.memory.data off.toNat size.toNat src }
    dataPos := next }

/-- `needs_response` and `efd_post(req_wl_efd)` -/
def post (send : WlSend) : Channel Tid Gl :=
  { s with
    memory := { s.memory with ctrl := { s.memory.ctrl with needsResponse := 1 } }
    reqWlEfd := s.reqWlEfd + 1
    lock := some (t, .waiting send) }

def outcome (proxy : WlDispatcher Gl) : WlOutcome Gl := proxy.run s.memory s.gl

def handle (proxy : WlDispatcher Gl) : Channel Tid Gl :=
  { s with
    memory := s.memory.answered (s.outcome proxy)
    gl := (s.outcome proxy).gl
    place := .answering }

/-- The end of an iteration that had a request. -/
def respond : Channel Tid Gl :=
  { s with
    respWlEfd := if s.memory.ctrl.needsResponse = 0 then s.respWlEfd else s.respWlEfd + 1
    place := .top }

end Channel

/-! ## Steps -/

section Steps

variable {Tid Gl : Type}

inductive ChannelStep (proxy : WlDispatcher Gl) :
    Channel Tid Gl → WlEvent Tid Gl → Channel Tid Gl → Prop where
  -- the stub
  | begin {s t} (free : s.lock = none) : ChannelStep proxy s (.begun t) (s.wlBridgeBegin t)
  | fill {s t} (write : SlotWrite) (here : s.lock = some (t, .filling)) :
      ChannelStep proxy s (.stub t) (s.writeCtrl write)
  -- `memcpy` has a meaning only inside the arena
  | dataWrite {s t off next} (size : UInt64) (src : Bytes) (here : s.lock = some (t, .filling))
      (given : wlDataAlloc s.dataPos size = some (off, next))
      (inside : off.toNat + size.toNat ≤ wlDataSize.toNat) :
      ChannelStep proxy s (.stub t) (s.bridgeDataWriteWl src size off next)
  | dataAbort {s t} (size : UInt64) (here : s.lock = some (t, .filling))
      (refused : wlDataAlloc s.dataPos size = none) :
      ChannelStep proxy s (.stub t) { s with lock := some (t, .aborted) }
  | post {s t} (send : WlSend) (here : s.lock = some (t, .filling)) :
      ChannelStep proxy s (.asked t (s.post t send).memory) (s.post t send)
  | efdWait {s t send} (here : s.lock = some (t, .waiting send)) (ready : 0 < s.respWlEfd) :
      ChannelStep proxy s (.stub t) { s with respWlEfd := 0, lock := some (t, .taking send) }
  | wlBridgeEnd {s t send} (here : s.lock = some (t, .taking send)) :
      ChannelStep proxy s (.returned t send s.memory) { s with lock := none }
  -- the proxy; `wl_display_prepare_read` fails while events are queued
  | dispatchPending {s} (gl : Gl) (here : s.place = .top) : ChannelStep proxy s .proxy { s with gl }
  | prepareRead {s} (here : s.place = .top) :
      ChannelStep proxy s .proxy { s with place := .polling }
  | pollRequest {s} (here : s.place = .polling) (ready : 0 < s.reqWlEfd) :
      ChannelStep proxy s .proxy { s with place := .woken true }
  | pollEvents {s} (here : s.place = .polling) (idle : s.reqWlEfd = 0) :
      ChannelStep proxy s .outside { s with place := .woken false }
  | interrupted {s} (here : s.place = .polling) (idle : s.reqWlEfd = 0) :
      ChannelStep proxy s .outside { s with place := .top }
  | next {s} (here : s.place = .woken false) : ChannelStep proxy s .proxy { s with place := .top }
  | read {s} (here : s.place = .woken true) (ready : 0 < s.reqWlEfd) :
      ChannelStep proxy s .proxy { s with reqWlEfd := 0, place := .handling }
  | handle {s} (here : s.place = .handling) :
      ChannelStep proxy s (.served s.memory (s.outcome proxy)) (s.handle proxy)
  | respond {s} (here : s.place = .answering) : ChannelStep proxy s .proxy s.respond
  | outside {s} (gl : Gl) : ChannelStep proxy s .outside { s with gl }

def channel (Tid : Type) {Gl : Type} (proxy : WlDispatcher Gl) :
    Lts (Channel Tid Gl) (WlEvent Tid Gl) where
  Initial s := ∃ gl, s = .initial gl
  Step := ChannelStep proxy

end Steps

/-! ## One command at a time -/

variable {Tid Gl : Type} {proxy : WlDispatcher Gl} {s s' : Channel Tid Gl} {e : WlEvent Tid Gl}
  {trace : List (WlEvent Tid Gl)} {t : Tid} {send : WlSend} {pc : WlPc}

/-- The proxy has taken the request and not posted the response. -/
def WlPlace.holds : WlPlace → Nat
  | .handling | .answering => 1
  | _ => 0

def WlPc.waits : WlPc → Nat
  | .waiting _ => 1
  | _ => 0

def Channel.waits (s : Channel Tid Gl) : Nat :=
  match s.lock with
  | some (_, pc) => pc.waits
  | none => 0

/-- The request, its handling or its response: one of them while a thread waits, and none
at other times. -/
structure Token (s : Channel Tid Gl) : Prop where
  one : s.reqWlEfd + s.place.holds + s.respWlEfd = s.waits
  seen : s.place = .woken true → 0 < s.reqWlEfd
  answers : s.waits = 1 → s.memory.ctrl.needsResponse = 1

namespace Token

theorem waits_le (s : Channel Tid Gl) : s.waits ≤ 1 := by
  unfold Channel.waits
  split
  · rename_i pc _
    cases pc <;> simp [WlPc.waits]
  · exact Nat.zero_le _

theorem waits_eq (here : s.lock = some (t, pc)) : s.waits = pc.waits := by
  rw [Channel.waits, here]

theorem initial (gl : Gl) : Token (Channel.initial gl : Channel Tid Gl) :=
  ⟨rfl, nofun, nofun⟩

theorem step (token : Token s) (taken : ChannelStep proxy s e s') : Token s' := by
  obtain ⟨one, seen, answers⟩ := token
  cases taken with
  | begin free =>
      have idle : s.waits = 0 := by rw [Channel.waits, free]
      exact ⟨one.trans idle, seen, nofun⟩
  | fill _ here | dataWrite _ _ here =>
      have idle := waits_eq here
      exact ⟨one, seen, fun waits => absurd (idle.symm.trans waits) (by simp [WlPc.waits])⟩
  | dataAbort _ here => exact ⟨one.trans (waits_eq here), seen, nofun⟩
  | wlBridgeEnd here => exact ⟨one.trans (waits_eq here), seen, nofun⟩
  | post send here =>
      have idle : s.waits = 0 := waits_eq here
      refine ⟨?_, fun _ => Nat.succ_pos _, fun _ => rfl⟩
      show s.reqWlEfd + 1 + s.place.holds + s.respWlEfd = 1
      omega
  | efdWait here ready =>
      have waits : s.waits = 1 := waits_eq here
      refine ⟨?_, seen, nofun⟩
      show s.reqWlEfd + s.place.holds + 0 = 0
      omega
  | dispatchPending | outside => exact ⟨one, seen, answers⟩
  | prepareRead here | interrupted here | next here | pollEvents here =>
      rw [here] at one
      exact ⟨one, nofun, answers⟩
  | pollRequest here ready =>
      rw [here] at one
      exact ⟨one, fun _ => ready, answers⟩
  | read here ready =>
      have holds : s.place.holds = 0 := by rw [here]; rfl
      refine ⟨?_, nofun, answers⟩
      have most := waits_le s
      show 0 + 1 + s.respWlEfd = s.waits
      omega
  | handle here =>
      rw [here] at one
      exact ⟨one, nofun, answers⟩
  | respond here =>
      rw [here, WlPlace.holds] at one
      have waits : s.waits = 1 := by
        have most := waits_le s
        omega
      refine ⟨?_, nofun, answers⟩
      show s.reqWlEfd + 0 +
        (if s.memory.ctrl.needsResponse = 0 then s.respWlEfd else s.respWlEfd + 1) = s.waits
      rw [if_neg (by rw [answers waits]; decide)]
      omega

theorem of_run (run : (channel Tid proxy).Run trace s) : Token s := by
  induction run with
  | start first =>
      obtain ⟨gl, rfl⟩ := first
      exact initial gl
  | step _ taken ih => exact ih.step taken

end Token

/-! ## What the channel is for -/

/-- A thread has the channel, has asked, or has its answer. -/
def Channel.view (s : Channel Tid Gl) : Rendezvous Tid WlMemory WlMemory :=
  match s.lock with
  | none => .free
  | some (t, .filling) | some (t, .aborted) => .entered t
  | some (t, .waiting _) =>
      if 0 < s.reqWlEfd ∨ s.place = .handling then .asked t s.memory else .answered t s.memory
  | some (t, .taking _) => .answered t s.memory

namespace WlEvent

def action : WlEvent Tid Gl → VisitAction Tid WlMemory WlMemory
  | .asked thread request => .ask thread request
  | .served request outcome => .serve request (request.answered outcome)
  | .returned thread _ memory => .leave thread memory
  | _ => .skip

def asked? : WlEvent Tid Gl → Option (Tid × WlMemory)
  | .asked thread request => some (thread, request)
  | _ => none

def served? : WlEvent Tid Gl → Option (WlMemory × WlOutcome Gl)
  | .served request outcome => some (request, outcome)
  | _ => none

def returned? : WlEvent Tid Gl → Option (Tid × WlSend × WlMemory)
  | .returned thread send memory => some (thread, send, memory)
  | _ => none

end WlEvent

theorem view_entered (here : s.lock = some (t, .filling)) : s.view = .entered t := by
  rw [Channel.view, here]

/-- The request has not been handled. -/
def Channel.Pending (s : Channel Tid Gl) : Prop := 0 < s.reqWlEfd ∨ s.place = .handling

theorem view_pending (here : s.lock = some (t, .waiting send)) (pending : s.Pending) :
    s.view = .asked t s.memory := by
  rw [Channel.view, here]
  exact if_pos pending

theorem view_handled (here : s.lock = some (t, .waiting send)) (handled : ¬ s.Pending) :
    s.view = .answered t s.memory := by
  rw [Channel.view, here]
  exact if_neg handled

theorem view_congr (lock : s'.lock = s.lock) (memory : s'.memory = s.memory)
    (pending : s'.Pending ↔ s.Pending) : s'.view = s.view := by
  cases here : s.lock with
  | none => simp only [Channel.view, lock, here]
  | some holder =>
      obtain ⟨t, pc⟩ := holder
      cases pc with
      | filling | aborted | taking => simp only [Channel.view, lock, here, memory]
      | waiting send =>
          by_cases open' : s.Pending
          · rw [view_pending here open', view_pending (lock.trans here) (pending.mpr open'), memory]
          · rw [view_handled here open', view_handled (lock.trans here) (open' ∘ pending.mp), memory]

/-- Who waits while the proxy is busy with a request. -/
theorem Token.waiting (token : Token s) (busy : s.place.holds = 1) :
    ∃ t send, s.lock = some (t, .waiting send) := by
  have one := token.one
  cases here : s.lock with
  | none =>
      have idle : s.waits = 0 := by rw [Channel.waits, here]
      omega
  | some holder =>
      obtain ⟨t, pc⟩ := holder
      rw [Token.waits_eq here] at one
      cases pc with
      | waiting send => exact ⟨t, send, rfl⟩
      | filling | aborted | taking =>
          simp only [WlPc.waits] at one
          omega

theorem visit_step (token : Token s) (taken : ChannelStep proxy s e s') :
    VisitStep s.view e.action s'.view := by
  have one := token.one
  have most := Token.waits_le s
  have keep {next : Channel Tid Gl} (lock : next.lock = s.lock) (memory : next.memory = s.memory)
      (pending : next.Pending ↔ s.Pending) : VisitStep s.view .skip next.view := by
    rw [view_congr lock memory pending]
    exact .skip _
  cases taken with
  | begin free =>
      rw [Channel.view, free]
      exact .enter _
  | @fill t write here =>
      have after : (s.writeCtrl write).view = .entered t := view_entered here
      rw [view_entered here, after]
      exact .skip _
  | @dataWrite t off next size src here =>
      have after : (s.bridgeDataWriteWl src size off next).view = .entered t := view_entered here
      rw [view_entered here, after]
      exact .skip _
  | @dataAbort t _ here =>
      rw [view_entered here]
      exact .skip (.entered t)
  | @post t send here =>
      have after : (s.post t send).view = .asked t (s.post t send).memory :=
        view_pending rfl (.inl (Nat.succ_pos _))
      rw [view_entered here, after]
      exact .ask _ _
  | @efdWait t send here ready =>
      have handled : ¬ s.Pending := by
        rintro (asked | handling)
        · rw [Token.waits_eq here, WlPc.waits] at one
          omega
        · rw [handling, Token.waits_eq here, WlPc.waits, WlPlace.holds] at one
          omega
      rw [view_handled here handled]
      exact .skip (.answered t s.memory)
  | @wlBridgeEnd t send here =>
      have view : s.view = .answered t s.memory := by rw [Channel.view, here]
      rw [view]
      exact .leave _ _
  | dispatchPending | outside => exact keep rfl rfl .rfl
  | prepareRead here | interrupted here | next here | pollEvents here | pollRequest here
  | respond here =>
      refine keep rfl rfl (or_congr_right ?_)
      rw [here]
      exact iff_of_false nofun nofun
  | read here ready => exact keep rfl rfl (iff_of_true (.inr rfl) (.inl ready))
  | handle here =>
      obtain ⟨t, send, waiting⟩ := token.waiting (by rw [here]; rfl)
      rw [here, Token.waits_eq waiting, WlPc.waits, WlPlace.holds] at one
      have handled : ¬ (s.handle proxy).Pending := by
        rintro (asked | handling)
        · have none : 0 < s.reqWlEfd := asked
          omega
        · cases handling
      rw [view_pending waiting (.inr here), view_handled (s := s.handle proxy) waiting handled]
      exact .serve _ _ _

def channelRefinement (proxy : WlDispatcher Gl) :
    Lts.Refinement (channel Tid proxy) (rendezvous Tid WlMemory WlMemory) where
  view := Channel.view
  action := WlEvent.action
  initial s first := by
    obtain ⟨gl, rfl⟩ := first
    rfl
  step trace s e s' run taken := visit_step (.of_run run) taken

/-- The requests, the handlers run and the returns, each in its order. -/
theorem visits_balanced (run : (channel Tid proxy).Run trace s) :
    Balanced (trace.map WlEvent.action) s.view :=
  rendezvous_balanced ((channelRefinement proxy).run run)

theorem asked_eq (trace : List (WlEvent Tid Gl)) :
    (trace.map WlEvent.action).filterMap VisitAction.asked? = trace.filterMap WlEvent.asked? := by
  rw [List.filterMap_map]
  congr 1
  funext event
  cases event <;> rfl

theorem served_eq (trace : List (WlEvent Tid Gl)) :
    (trace.map WlEvent.action).filterMap VisitAction.served? =
      (trace.filterMap WlEvent.served?).map fun run => (run.1, run.1.answered run.2) := by
  rw [List.filterMap_map, List.map_filterMap]
  congr 1
  funext event
  cases event <;> rfl

theorem left_eq (trace : List (WlEvent Tid Gl)) :
    (trace.map WlEvent.action).filterMap VisitAction.left? =
      (trace.filterMap WlEvent.returned?).map fun left => (left.1, left.2.2) := by
  rw [List.filterMap_map, List.map_filterMap]
  congr 1
  funext event
  cases event <;> rfl

/-- A handler that has run is the one of the opcode. -/
theorem served_by_handler (run : (channel Tid proxy).Run trace s) :
    ∀ served ∈ trace.filterMap WlEvent.served?, ∃ gl, served.2 = proxy.run served.1 gl := by
  induction run with
  | start => exact fun _ member => absurd member List.not_mem_nil
  | @step trace before e after run taken ih =>
      intro served member
      rw [List.filterMap_append, List.mem_append] at member
      rcases member with earlier | now
      · exact ih served earlier
      · cases taken with
        | handle =>
            obtain rfl := List.mem_singleton.mp now
            exact ⟨before.gl, rfl⟩
        | _ => cases now

/-- In any interleaving, the requests are handled once each and in their order, as their
threads have left the memory; a thread returns with the memory as the handler of its own
request has left it; and while a handler runs, the thread with the lock waits for it. -/
structure Rpc (proxy : WlDispatcher Gl) (trace : List (WlEvent Tid Gl)) (s : Channel Tid Gl) :
    Prop where
  inOrder : ∃ waiting, waiting.length ≤ 1 ∧ (trace.filterMap WlEvent.asked?).map Prod.snd =
    (trace.filterMap WlEvent.served?).map Prod.fst ++ waiting
  handled : ∀ served ∈ trace.filterMap WlEvent.served?, ∃ gl, served.2 = proxy.run served.1 gl
  own : ∀ (index : Nat) (t : Tid) (send : WlSend) (memory : WlMemory),
    (trace.filterMap WlEvent.returned?)[index]? = some (t, send, memory) →
    ∃ (request : WlMemory) (outcome : WlOutcome Gl),
      (trace.filterMap WlEvent.asked?)[index]? = some (t, request) ∧
        (trace.filterMap WlEvent.served?)[index]? = some (request, outcome) ∧
        memory = request.answered outcome
  undisturbed : s.place = .handling → ∃ t send, s.lock = some (t, .waiting send)

theorem wl_calls_answered (run : (channel Tid proxy).Run trace s) : Rpc proxy trace s where
  inOrder := by
    have requests := (visits_balanced run).requests
    rw [asked_eq, served_eq, List.map_map] at requests
    refine ⟨s.view.unserved, ?_, requests⟩
    unfold Rendezvous.unserved
    split <;> simp
  handled := served_by_handler run
  own index t send memory left := by
    have came : ((trace.map WlEvent.action).filterMap VisitAction.left?)[index]? =
        some (t, memory) := by
      rw [left_eq, List.getElem?_map, left]
      rfl
    obtain ⟨request, asked, served⟩ := (visits_balanced run).own_answer came
    rw [asked_eq] at asked
    rw [served_eq, List.getElem?_map, Option.map_eq_some_iff] at served
    obtain ⟨⟨_, outcome⟩, served, same⟩ := served
    cases same
    exact ⟨_, outcome, asked, served, rfl⟩
  undisturbed here := (Token.of_run run).waiting (by rw [here]; rfl)

/-- One call, with a handler that answers 7. -/
theorem wl_calls_answered_one_call :
    ∃ (trace : List (WlEvent Unit Unit)) (s : Channel Unit Unit) (memory : WlMemory),
      trace.filterMap WlEvent.returned? = [((), .call, memory)] ∧
        WlSend.value memory .call = some 7 ∧
        Rpc ⟨fun _ => some fun memory gl => ⟨gl, 7, 0, 0, memory.wlResult, memory.data⟩⟩ trace s := by
  let proxy : WlDispatcher Unit :=
    ⟨fun _ => some fun memory gl => ⟨gl, 7, 0, 0, memory.wlResult, memory.data⟩⟩
  have run : (channel Unit proxy).Run [] (.initial ()) := .start ⟨(), rfl⟩
  have run := run.step (.begin (t := ()) rfl)
  have run := run.step (.fill (t := ()) (.opcode 3) rfl)
  have run := run.step (.post (t := ()) .call rfl)
  have run := run.step (.prepareRead rfl)
  have run := run.step (.pollRequest rfl Nat.one_pos)
  have run := run.step (.read rfl Nat.one_pos)
  have run := run.step (.handle rfl)
  have run := run.step (.respond rfl)
  have run := run.step (.efdWait (t := ()) rfl Nat.one_pos)
  have run := run.step (.wlBridgeEnd (t := ()) rfl)
  exact ⟨_, _, _, rfl, rfl, wl_calls_answered run⟩

end GlesBridge.Wayland
