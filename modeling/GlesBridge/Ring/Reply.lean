import GlesBridge.Ring.Send
import Mathlib.Data.List.Nodup

namespace GlesBridge.Ring

open GlesBridge.Data GlesBridge.Systems

/-! The answers of the handlers, and the copies that a blocking call makes. -/

variable {cfg : Config} {Tid Gl : Type}

def Event.dispatch? : Event Tid Gl → Option (Nat × BridgeCtrl × Outcome Gl)
  | .dispatched seq slot outcome => some (seq, slot, outcome)
  | _ => none

/-- The handlers run, each with its command and what it left behind. -/
def dispatches (trace : List (Event Tid Gl)) : List (Nat × BridgeCtrl × Outcome Gl) :=
  trace.filterMap Event.dispatch?

variable {trace : List (Event Tid Gl)} {e : Event Tid Gl} {s s' : State cfg Tid Gl} {t : Tid}
  {seq : Nat} {slot : BridgeCtrl} {outcome : Outcome Gl} {mode : SendMode}

theorem dispatches_snoc (trace : List (Event Tid Gl)) (e : Event Tid Gl) :
    dispatches (trace ++ [e]) = dispatches trace ++ e.dispatch?.toList := by
  cases found : e.dispatch? <;> simp [dispatches, found]

theorem dispatchedCommands_eq (trace : List (Event Tid Gl)) :
    dispatchedCommands trace = (dispatches trace).map fun run => (run.1, run.2.1) := by
  simp only [dispatchedCommands, dispatches, List.filterMap_map, List.map_filterMap]
  congr 1
  funext event
  cases event <;> rfl

theorem mem_publishedCommands (member : .published t seq mode slot ∈ trace) :
    (seq, slot) ∈ publishedCommands trace := by
  simp only [publishedCommands, List.filterMap_map, List.mem_filterMap]
  exact ⟨_, member, rfl⟩

theorem Event.dispatch?_of_plain (plain : e.plain = true) : e.dispatch? = none := by
  cases e <;> simp [Event.plain] at plain <;> rfl

variable [DecidableEq Tid] {proxy : Dispatcher Gl}

theorem dispatches_seqs (run : (bridge cfg Tid proxy).Run trace s) :
    (dispatches trace).map Prod.fst = List.range s.served := by
  rw [← dispatchedCommands_seqs run, dispatchedCommands_eq, List.map_map]
  rfl

theorem seq_lt_served (run : (bridge cfg Tid proxy).Run trace s)
    (member : (seq, slot, outcome) ∈ dispatches trace) : seq < s.served := by
  have listed : seq ∈ (dispatches trace).map Prod.fst := List.mem_map_of_mem member
  rwa [dispatches_seqs run, List.mem_range] at listed

/-- A command is dispatched once. -/
theorem dispatch_unique (run : (bridge cfg Tid proxy).Run trace s)
    {slot' : BridgeCtrl} {outcome' : Outcome Gl}
    (first : (seq, slot, outcome) ∈ dispatches trace)
    (second : (seq, slot', outcome') ∈ dispatches trace) : slot' = slot ∧ outcome' = outcome := by
  have once : ((dispatches trace).map Prod.fst).Nodup := by
    rw [dispatches_seqs run]
    exact List.nodup_range
  have same := List.inj_on_of_nodup_map once second first rfl
  simpa using same

/-- A handler runs on the slot that was published. -/
theorem dispatched_as_published (run : (bridge cfg Tid proxy).Run trace s)
    {slot' : BridgeCtrl} (published : .published t seq mode slot ∈ trace)
    (dispatched : (seq, slot', outcome) ∈ dispatches trace) : slot' = slot := by
  have once : ((publishedCommands trace).map Prod.fst).Nodup := by
    rw [publishedCommands_seqs run]
    exact List.nodup_range
  have taken : (seq, slot') ∈ publishedCommands trace := by
    rw [published_eq_dispatched_append run, dispatchedCommands_eq]
    exact List.mem_append_left _ (List.mem_map_of_mem dispatched)
  have same := List.inj_on_of_nodup_map once taken (mem_publishedCommands published) rfl
  simpa using same

/-! ## How long an answer stays -/

/-- Until its slot is given to another command, an answer stays in it. -/
theorem Move.slot_of_served (counters : Counters s) (move : Move proxy s e s')
    (past : seq < s.served) (kept : s'.localSeq ≤ seq + cfg.ringSlots) :
    s'.slots (cfg.slotIndex seq) = s.slots (cfg.slotIndex seq) := by
  have room := counters.served_le
  have pos := cfg.ringSlots_pos
  have published := counters.published_le_local
  -- A slot filled in now lies less than a ring after `seq`.
  have filled {t : Tid} (filling : (s.threads t).pc.stage = .filling)
      (kept : s.localSeq ≤ seq + cfg.ringSlots) : cfg.slotIndex seq ≠ s.curIndex t := by
    obtain ⟨ahead, current⟩ := counters.filling t filling
    exact Config.slotIndex_ne (by omega) (by omega)
  cases move with
  | keep _ frame => rw [frame.slots]
  | acquire | unlock | release | complete => rfl
  | begin =>
      have kept : s.localSeq + 1 ≤ seq + cfg.ringSlots := kept
      exact State.setSlot_of_ne _ _ (Config.slotIndex_ne (by omega) (by omega))
  | fill _ filling => exact State.setSlot_of_ne _ _ (filled filling kept)
  | dataWrite filling => exact State.setSlot_of_ne _ _ (filled filling kept)
  | publish _ filling => exact State.setSlot_of_ne _ _ (filled filling kept)
  | dispatch here =>
      have served : s.served = s.completed := by simp only [State.served, here, ProxyPc.answered]; rfl
      have kept : s.localSeq ≤ seq + cfg.ringSlots := kept
      have ahead := counters.busy (.inl here)
      exact State.setSlot_of_ne _ _ (Config.slotIndex_ne (by omega) (by omega))

structure Replies (trace : List (Event Tid Gl)) (s : State cfg Tid Gl) : Prop where
  slot : ∀ seq slot outcome, (seq, slot, outcome) ∈ dispatches trace →
    s.localSeq ≤ seq + cfg.ringSlots →
    s.slots (cfg.slotIndex seq) = slot.answered outcome
  buffer : ∀ seq slot outcome, (dispatches trace).getLast? = some (seq, slot, outcome) →
    s.resultBuf = outcome.resultBuf

namespace Replies

/-- A step that runs no handler leaves the answers that are still in their slots. -/
theorem keep (run : (bridge cfg Tid proxy).Run trace s) (replies : Replies trace s)
    (move : Move proxy s e s') (silent : e.dispatch? = none)
    (grows : s.localSeq ≤ s'.localSeq) (buffer : s'.resultBuf = s.resultBuf) :
    Replies (trace ++ [e]) s' := by
  have same : dispatches (trace ++ [e]) = dispatches trace := by
    simp [dispatches_snoc, silent]
  constructor
  case slot =>
    intro seq slot outcome member kept
    rw [same] at member
    rw [move.slot_of_served (.of_run run) (seq_lt_served run member) kept]
    exact replies.slot seq slot outcome member (grows.trans kept)
  case buffer =>
    intro seq slot outcome last
    rw [same] at last
    rw [buffer]
    exact replies.buffer seq slot outcome last

theorem of_run (run : (bridge cfg Tid proxy).Run trace s) : Replies trace s := by
  induction run with
  | start initial =>
      obtain ⟨clientPid, gl, rfl⟩ := initial
      exact ⟨nofun, nofun⟩
  | @step trace s e s' run taken replies =>
      have move := taken.move
      cases move with
      | keep plain frame =>
          exact replies.keep run taken.move (Event.dispatch?_of_plain plain)
            (Nat.le_of_eq frame.localSeq.symm) frame.resultBuf
      | acquire | fill | dataWrite | publish | unlock | release | complete =>
          exact replies.keep run taken.move rfl (Nat.le_refl _) rfl
      | begin => exact replies.keep run taken.move rfl (Nat.le_succ _) rfl
      | dispatch here =>
          have counters := Counters.of_run run
          have snoc : dispatches (trace ++
              [.dispatched s.completed (s.slots s.proxyIndex) (s.outcome proxy)]) =
              dispatches trace ++ [(s.completed, s.slots s.proxyIndex, s.outcome proxy)] :=
            dispatches_snoc ..
          constructor
          case slot =>
            intro seq slot outcome member kept
            rw [snoc, List.mem_append, List.mem_singleton] at member
            rcases member with earlier | now
            · rw [taken.move.slot_of_served counters (seq_lt_served run earlier) kept]
              exact replies.slot seq slot outcome earlier kept
            · cases now
              exact Function.update_self ..
          case buffer =>
            intro seq slot outcome last
            rw [snoc, List.getLast?_concat] at last
            cases last
            rfl

end Replies

/-! ## The copies -/

/-- While a thread that has sent the command `seq` holds the lock, the answer
to `seq` is the last one. -/
theorem last_dispatch (run : (bridge cfg Tid proxy).Run trace s)
    (sending : (s.threads t).pc.stage = .sending) (past : (s.threads t).curSeq < s.served) :
    ∃ slot outcome, (dispatches trace).getLast? = some ((s.threads t).curSeq, slot, outcome) := by
  have counters := Counters.of_run run
  have last := counters.sending t sending
  have room := counters.served_le
  have count : s.served = (s.threads t).curSeq + 1 := by omega
  have seqs := congrArg List.getLast? (dispatches_seqs run)
  rw [count, List.range_succ, List.getLast?_concat, List.getLast?_map] at seqs
  obtain ⟨⟨seq, slot, outcome⟩, found, rfl⟩ := Option.map_eq_some_iff.mp seqs
  exact ⟨slot, outcome, found⟩

/-- `t_result_val`, `t_result_len` and `t_result` hold what a handler left. -/
def Thread.holdsReply (thread : Thread) (outcome : Outcome Gl) : Prop :=
  thread.resultVal = outcome.result ∧ thread.resultLen = outcome.resultBufLen ∧
    thread.resultBuf = outcome.resultBuf

def Pc.replied : Pc → Bool
  | .unlock .call _ | .late => true
  | _ => false

structure Replied (trace : List (Event Tid Gl)) (s : State cfg Tid Gl) (t : Tid) : Prop where
  reply : (s.threads t).pc.replied = true →
    ∃ slot outcome, ((s.threads t).curSeq, slot, outcome) ∈ dispatches trace ∧
      (s.threads t).holdsReply outcome
  value : ∀ value, (s.threads t).pc = .unlock .call value → value = (s.threads t).resultVal

namespace Replied

omit [DecidableEq Tid] in
theorem of_unreplied (unreplied : (s.threads t).pc.replied = false) : Replied trace s t where
  reply replied := by rw [unreplied] at replied; cases replied
  value _ here := by rw [here] at unreplied; cases unreplied

omit [DecidableEq Tid] in
theorem afterPublish_unreplied (s : State cfg Tid Gl) (t : Tid) (mode : SendMode) :
    (s.afterPublish t mode).replied = false := by
  cases mode <;> simp only [State.afterPublish]
  · rfl
  · rfl
  · split_ifs <;> rfl

/-- What a call reads once its wait is over is what the proxy answered to it. -/
theorem reply_ready (run : (bridge cfg Tid proxy).Run trace s)
    (here : (s.threads t).pc = .finish .call) :
    ∃ slot outcome, ((s.threads t).curSeq, slot, outcome) ∈ dispatches trace ∧
      (s.slots (s.curIndex t)).result = outcome.result ∧
      (s.slots (s.curIndex t)).resultBufLen = outcome.resultBufLen ∧
      s.resultBuf = outcome.resultBuf := by
  have counters := Counters.of_run run
  have sending : (s.threads t).pc.stage = .sending := by rw [here]; rfl
  have settled := counters.settled_of_owner (t := t) (by simp [sending]) (by simp [sending])
  have last := counters.sending t sending
  have done := ((Sent.of_run run t).awaited .call here).2 _ rfl
  have copy := counters.proxyCopy
  have past : (s.threads t).curSeq < s.served := by
    simp only [State.served]
    omega
  obtain ⟨slot, outcome, found⟩ := last_dispatch run sending past
  have member := List.mem_of_getLast? found
  have replies := Replies.of_run run
  have pos := cfg.ringSlots_pos
  have answered := replies.slot _ slot outcome member (by omega)
  exact ⟨slot, outcome, member, congrArg BridgeCtrl.result answered,
    congrArg BridgeCtrl.resultBufLen answered, replies.buffer _ slot outcome found⟩

theorem step (run : (bridge cfg Tid proxy).Run trace s) (replied : Replied trace s t)
    (taken : Step proxy s e s') : Replied (trace ++ [e]) s' t := by
  have grow : ∀ {run}, run ∈ dispatches trace → run ∈ dispatches (trace ++ [e]) := by
    intro run member
    rw [dispatches_snoc]
    exact List.mem_append_left _ member
  rcases taken.advance t with same | ⟨-, unsent⟩ | advance
  · constructor
    · intro now
      rw [same] at now ⊢
      obtain ⟨slot, outcome, member, holds⟩ := replied.reply now
      exact ⟨slot, outcome, grow member, holds⟩
    · rw [same]
      exact replied.value
  · apply of_unreplied
    cases pc : (s'.threads t).pc <;> rw [pc] at unsent <;> first | rfl | cases unsent
  cases advance with
  | publish => exact of_unreplied (by simp only [State.publishCur, State.setPc_self]; rfl)
  | loadWaiting =>
      apply of_unreplied
      rw [State.setPc_self]
      split_ifs
      · rfl
      · exact afterPublish_unreplied ..
  | postReq =>
      apply of_unreplied
      rw [State.setPc_self]
      exact afterPublish_unreplied ..
  | waitDone | waitMiss | efdWait =>
      exact of_unreplied (by rw [State.setPc_self]; rfl)
  | copyReply here =>
      have self := s.copyReply_self t
      obtain ⟨slot, outcome, member, result, resultBufLen, resultBuf⟩ := reply_ready run here
      constructor
      · intro _
        rw [self]
        exact ⟨slot, outcome, grow member, result, resultBufLen, resultBuf⟩
      · intro value now
        rw [self] at now ⊢
        cases now
        rfl
  | finishSwap =>
      obtain ⟨value, threads⟩ := s.finishSwap_threads t
      exact of_unreplied (by rw [threads, Function.update_self]; rfl)
  | @unlock mode value here =>
      have self := s.release_self t mode
      by_cases called : mode = .call
      · subst called
        constructor
        · intro _
          rw [self]
          obtain ⟨slot, outcome, member, holds⟩ := replied.reply (by rw [here]; rfl)
          exact ⟨slot, outcome, grow member, holds⟩
        · intro value now
          rw [self] at now
          cases now
      · apply of_unreplied
        rw [self, if_neg called]
        rfl

theorem of_run (run : (bridge cfg Tid proxy).Run trace s) (t : Tid) : Replied trace s t := by
  induction run with
  | start initial =>
      obtain ⟨clientPid, gl, rfl⟩ := initial
      exact .of_unreplied rfl
  | step run taken ih => exact ih.step run taken

end Replied

/-- What `bridge_send_call` returns, and what it leaves in the thread's own
copies, was written by the handler of its own command; no other handler has run
since. -/
theorem call_reply_isolated (run : (bridge cfg Tid proxy).Run trace s) {value : UInt64}
    (taken : Step proxy s (.returned t seq .call value) s') :
    ∃ slot outcome, .published t seq .call slot ∈ trace ∧
      (dispatches trace).getLast? = some (seq, slot, outcome) ∧
      value = outcome.result ∧ (s'.threads t).resultVal = outcome.result ∧
      (s'.threads t).resultLen = outcome.resultBufLen ∧
      (s'.threads t).resultBuf = outcome.resultBuf := by
  cases taken with
  | unlock here =>
      have replied := Replied.of_run run t
      obtain ⟨slot, outcome, member, val, len, buf⟩ := replied.reply (by rw [here]; rfl)
      obtain ⟨sentSlot, published⟩ := (Sent.of_run run t).published .call (by rw [here]; rfl)
      obtain rfl := dispatched_as_published run published member
      obtain ⟨lastSlot, last, found⟩ := last_dispatch run (t := t) (by rw [here]; rfl)
        (seq_lt_served run member)
      obtain ⟨rfl, rfl⟩ := dispatch_unique run member (List.mem_of_getLast? found)
      have self := s.release_self t .call
      refine ⟨_, _, published, found, (replied.value value here).trans val, ?_⟩
      rw [self]
      exact ⟨val, len, buf⟩

theorem call_reply_isolated_one_call :
    ∃ trace, ∃ s next : State .default Bool Unit,
      (bridge .default Bool (.uniform (.constant 7))).Run trace s ∧
      Step (.uniform (.constant 7)) s (.returned true 0 .call 7) next ∧
      ∃ slot outcome, .published true 0 .call slot ∈ trace ∧
        (dispatches trace).getLast? = some (0, slot, outcome) ∧
        7 = outcome.result ∧ (next.threads true).resultVal = outcome.result ∧
        (next.threads true).resultLen = outcome.resultBufLen ∧
        (next.threads true).resultBuf = outcome.resultBuf := by
  have run : (bridge .default Bool (.uniform (.constant 7))).Run [] (.initial .default 1 ()) :=
    .start ⟨1, (), rfl⟩
  have run := run.step (.lock (t := true) rfl rfl)
  have run := run.step (.begin (t := true) rfl rfl)
  have run := run.step (.fill (t := true) (.opcode 3) rfl)
  have run := run.step (.publish (t := true) .call rfl)
  have run := run.step (.loadWaiting (t := true) rfl)
  have run := run.step (.load rfl)
  have run := run.step (.dispatch rfl)
  have run := run.step (.release rfl)
  have run := run.step (.complete rfl)
  have run := run.step (.waitDone (t := true) rfl (by decide) (by decide))
  have run := run.step (.copyReply (t := true) rfl)
  exact ⟨_, _, _, run, .unlock rfl, call_reply_isolated run (.unlock rfl)⟩

end GlesBridge.Ring
