import GlesBridge.Ring.Fifo

namespace GlesBridge.Ring

open GlesBridge.Data GlesBridge.Systems

/-! How a thread goes through a send. -/

variable {cfg : Config} {Tid Gl : Type}

/-- The send that the thread is in, or that its entry point has made. -/
def Pc.sent : Pc → Option SendMode
  | .loadWaiting mode | .postReq mode | .wait mode _ _ | .finish mode | .unlock mode _ => some mode
  | .late => some .call
  | _ => none

namespace State

variable {s s' : State cfg Tid Gl} {t : Tid} {mode : SendMode}

def pendingSwap? (s : State cfg Tid Gl) : Option Nat :=
  if s.havePendingSwap then some s.pendingSwapSeq else none

/-- The command that a send waits for. -/
def waitTarget (s : State cfg Tid Gl) (t : Tid) : SendMode → Option Nat
  | .void => none
  | .call => some (s.threads t).curSeq
  | .swap =>
      if cfg.asyncSwap then s.pendingSwap? else some (s.threads t).curSeq

theorem afterPublish_of_waits {target : Nat} (waits : s.waitTarget t mode = some target) :
    s.afterPublish t mode = .wait mode target .enter := by
  cases mode <;> simp only [waitTarget, pendingSwap?, afterPublish] at waits ⊢
  · cases waits
  · cases waits; rfl
  · split_ifs at waits ⊢ <;> cases waits <;> rfl

theorem afterPublish_of_free (free : s.waitTarget t mode = none) (waiting : mode ≠ .void) :
    mode = .swap ∧ s.afterPublish t mode = .finish .swap := by
  cases mode <;> simp only [waitTarget, pendingSwap?, afterPublish] at free ⊢
  · exact (waiting rfl).elim
  · cases free
  · split_ifs at free ⊢
    exact ⟨trivial, rfl⟩

theorem waitTarget_congr (thread : s'.threads t = s.threads t)
    (pending : s'.pendingSwapSeq = s.pendingSwapSeq)
    (pends : s'.havePendingSwap = s.havePendingSwap) :
    s'.waitTarget t mode = s.waitTarget t mode := by
  cases mode <;> simp only [waitTarget, pendingSwap?, thread, pending, pends]

end State

variable [DecidableEq Tid]

/-- The steps of a thread in a send, or leaving its entry point. -/
inductive Advance (s : State cfg Tid Gl) (t : Tid) : Event Tid Gl → State cfg Tid Gl → Prop where
  | publish (mode : SendMode) (here : (s.threads t).pc = .fill) :
      Advance s t
        (.published t (s.threads t).curSeq mode ((s.publishCur t mode).slots (s.curIndex t)))
        (s.publishCur t mode)
  | loadWaiting {mode} (here : (s.threads t).pc = .loadWaiting mode) :
      Advance s t (.quiet (some t))
        (s.setPc t (if s.consumerWaiting then .postReq mode else s.afterPublish t mode))
  | postReq {mode} (here : (s.threads t).pc = .postReq mode) :
      Advance s t (.quiet (some t))
        ({ s with reqEfd := s.reqEfd + 1 }.setPc t (s.afterPublish t mode))
  | waitDone {mode target phase} (here : (s.threads t).pc = .wait mode target phase)
      (testing : phase ≠ .blocked) (done : target < s.completedSeq) :
      Advance s t (.quiet (some t)) (s.setPc t (.finish mode))
  | waitMiss {mode target phase} (deadline : Bool)
      (here : (s.threads t).pc = .wait mode target phase) (testing : phase ≠ .blocked)
      (behind : s.completedSeq ≤ target) :
      Advance s t (.quiet (some t)) (s.setPc t (.wait mode target (phase.missed cfg deadline)))
  | efdWait {mode target} (here : (s.threads t).pc = .wait mode target .blocked)
      (ready : 0 < s.respEfd) :
      Advance s t (.quiet (some t)) ({ s with respEfd := 0 }.setPc t (.wait mode target .recheck))
  | copyReply (here : (s.threads t).pc = .finish .call) :
      Advance s t (.quiet (some t)) (s.copyReply t)
  | finishSwap (here : (s.threads t).pc = .finish .swap) :
      Advance s t (.quiet (some t)) (s.finishSwap t)
  | unlock {mode value} (here : (s.threads t).pc = .unlock mode value) :
      Advance s t (.returned t (s.threads t).curSeq mode value) (s.release t mode)

section Steps

variable {s s' : State cfg Tid Gl} {e : Event Tid Gl} {t : Tid} {mode : SendMode}
  {proxy : Dispatcher Gl} {trace : List (Event Tid Gl)}

theorem State.setThread_self (s : State cfg Tid Gl) (t : Tid) (thread : Thread) :
    (s.setThread t thread).threads t = thread :=
  Function.update_self ..

theorem State.setPc_self (s : State cfg Tid Gl) (t : Tid) (pc : Pc) :
    ((s.setPc t pc).threads t) = { s.threads t with pc } :=
  Function.update_self ..

theorem State.copyReply_self (s : State cfg Tid Gl) (t : Tid) :
    (s.copyReply t).threads t = { s.threads t with
      pc := .unlock .call (s.slots (s.curIndex t)).result
      resultVal := (s.slots (s.curIndex t)).result
      resultLen := (s.slots (s.curIndex t)).resultBufLen
      resultBuf := s.resultBuf } :=
  Function.update_self ..

theorem State.release_self (s : State cfg Tid Gl) (t : Tid) (mode : SendMode) :
    (s.release t mode).threads t =
      { s.threads t with pc := if mode = SendMode.call then .late else .idle } :=
  Function.update_self ..

theorem State.finishSwap_threads (s : State cfg Tid Gl) (t : Tid) :
    ∃ value, (s.finishSwap t).threads =
      Function.update s.threads t { s.threads t with pc := .unlock .swap value } := by
  simp only [State.finishSwap]
  split
  · exact ⟨_, rfl⟩
  · exact ⟨_, rfl⟩

/-- A step changes no thread but the one that takes it. -/
theorem Step.threads_of_ne (taken : Step proxy s e s') (other : e.actor ≠ some t) :
    s'.threads t = s.threads t := by
  have apart {u : Tid} (acts : e.actor = some u) : t ≠ u := fun same => other (same ▸ acts)
  cases taken with
  | @finishSwap u =>
      obtain ⟨value, threads⟩ := s.finishSwap_threads u
      rw [threads]
      exact Function.update_of_ne (apart rfl) ..
  | ringFull | dataFull | readSlot | readData | readDataOffset | load | spin | setWaiting | recheck | wake
  | clearWaiting | dispatch | release | complete | post => rfl
  | lock | begin | fill | selectCtx | dataEnter | dataAbort | dataWrite | publish | loadWaiting
  | postReq | waitDone | waitMiss | efdWait | copyReply | unlock | leave =>
      first
      | rfl
      | exact Function.update_of_ne (apart rfl) ..

theorem Step.threads_of_apart {u : Tid} (taken : Step proxy s e s') (acts : e.actor = some u)
    (different : t ≠ u) : s'.threads t = s.threads t :=
  taken.threads_of_ne fun other => different (Option.some.inj (other.symm.trans acts))

theorem Step.of_actor (taken : Step proxy s e s') (acts : e.actor = some t) :
    ((s.threads t).pc.stage ≠ .sending ∧
      (s'.threads t = s.threads t ∨ (s'.threads t).pc.sent = none)) ∨ Advance s t e s' := by
  -- A step that leaves the thread outside every send.
  have outside {thread : Thread} {pc : Pc} (here : (s.threads t).pc = pc)
      (idle : pc.stage ≠ .sending) (threads : s'.threads = Function.update s.threads t thread)
      (sent : thread.pc.sent = none) :
      ((s.threads t).pc.stage ≠ .sending ∧
        (s'.threads t = s.threads t ∨ (s'.threads t).pc.sent = none)) ∨ Advance s t e s' := by
    refine .inl ⟨here ▸ idle, .inr ?_⟩
    rwa [threads, Function.update_self]
  cases taken with
  | ringFull here | dataFull here | readSlot here | readData here | readDataOffset _ here
  | fill _ here =>
      cases acts
      exact .inl ⟨by simp [here, Pc.stage], .inl rfl⟩
  | load | spin | setWaiting | recheck | wake | clearWaiting | dispatch | release | complete
  | post => cases acts
  | lock here | begin here | dataEnter _ _ here | dataAbort _ here | dataWrite here | leave here =>
      cases acts
      exact outside here (by simp [Pc.stage]) rfl rfl
  | selectCtx ctx here =>
      cases acts
      rcases here with here | here
      · exact outside here (by simp [Pc.stage]) rfl (by rw [here]; rfl)
      · exact outside here (by simp [Pc.stage]) rfl (by rw [here]; rfl)
  | publish mode here => cases acts; exact .inr (.publish mode here)
  | loadWaiting here => cases acts; exact .inr (.loadWaiting here)
  | postReq here => cases acts; exact .inr (.postReq here)
  | waitDone here testing done => cases acts; exact .inr (.waitDone here testing done)
  | waitMiss deadline here testing behind =>
      cases acts; exact .inr (.waitMiss deadline here testing behind)
  | efdWait here ready => cases acts; exact .inr (.efdWait here ready)
  | copyReply here => cases acts; exact .inr (.copyReply here)
  | finishSwap here => cases acts; exact .inr (.finishSwap here)
  | unlock here => cases acts; exact .inr (.unlock here)

/-- A thread in a send that moves takes one of the steps of a send. -/
theorem Step.of_sending (taken : Step proxy s e s') (acts : e.actor = some t)
    (sending : (s.threads t).pc.stage = .sending) : Advance s t e s' :=
  (taken.of_actor acts).resolve_left fun idle => idle.1 sending

theorem Step.advance (taken : Step proxy s e s') (t : Tid) :
    s'.threads t = s.threads t ∨
      ((s.threads t).pc.stage ≠ .sending ∧ (s'.threads t).pc.sent = none) ∨ Advance s t e s' := by
  by_cases acts : e.actor = some t
  · rcases taken.of_actor acts with ⟨idle, same | unsent⟩ | advance
    · exact .inl same
    · exact .inr (.inl ⟨idle, unsent⟩)
    · exact .inr (.inr advance)
  · exact .inl (taken.threads_of_ne acts)

/-- Only the thread that finishes an asynchronous swap changes which swap is
pending. -/
theorem Step.pendingSwap (taken : Step proxy s e s') :
    (s'.pendingSwapSeq = s.pendingSwapSeq ∧ s'.havePendingSwap = s.havePendingSwap) ∨
      ∃ t, cfg.asyncSwap = true ∧ (s.threads t).pc = .finish .swap ∧ e = .quiet (some t) ∧
        s'.pendingSwapSeq = (s.threads t).curSeq ∧ s'.havePendingSwap = true ∧
        s'.threads t = { s.threads t with pc := .unlock .swap 1 } := by
  cases taken with
  | @finishSwap t here =>
      simp only [State.finishSwap]
      split
      next async => exact .inr ⟨t, async, here, rfl, rfl, rfl, State.setPc_self ..⟩
      next => exact .inl ⟨rfl, rfl⟩
  | _ => exact .inl ⟨rfl, rfl⟩

theorem Step.completedSeq_le (taken : Step proxy s e s') (counters : Counters s) :
    s.completedSeq ≤ s'.completedSeq := by
  cases taken with
  | finishSwap =>
      simp only [State.finishSwap]
      split <;> exact Nat.le_refl _
  | complete =>
      rw [← counters.proxyCopy]
      exact Nat.le_succ _
  | _ => exact Nat.le_refl _

/-! ## What a thread in a send can rely on -/

structure Sent (trace : List (Event Tid Gl)) (s : State cfg Tid Gl) (t : Tid) : Prop where
  published : ∀ mode, (s.threads t).pc.sent = some mode →
    ∃ slot, .published t (s.threads t).curSeq mode slot ∈ trace
  awaits : ∀ mode target phase, (s.threads t).pc = .wait mode target phase →
    s.waitTarget t mode = some target
  awaited : ∀ mode, (s.threads t).pc = .finish mode →
    mode ≠ .void ∧ ∀ target, s.waitTarget t mode = some target → target < s.completedSeq

/-- A thread in a send keeps its target while others take their steps. -/
theorem Step.waitTarget_of_same (taken : Step proxy s e s') (counters : Counters s)
    (sending : (s.threads t).pc.stage = .sending) (same : s'.threads t = s.threads t) :
    s'.waitTarget t mode = s.waitTarget t mode := by
  rcases taken.pendingSwap with ⟨pending, pends⟩ | ⟨u, -, here, -, -, -, moved⟩
  · exact State.waitTarget_congr same pending pends
  · have inside : (s.threads t).pc.stage ≠ .outside := by simp [sending]
    have active : (s.threads u).pc.stage ≠ .outside := by simp [here, Pc.stage]
    obtain rfl := counters.unique inside active
    rw [← same, moved] at here
    cases here

omit [DecidableEq Tid] in
theorem State.afterPublish_sent (s : State cfg Tid Gl) (t : Tid) (mode : SendMode) :
    (s.afterPublish t mode).sent = some mode := by
  cases mode <;> simp only [State.afterPublish]
  · rfl
  · rfl
  · split_ifs <;> rfl

namespace Sent

omit [DecidableEq Tid] in
theorem of_unsent (unsent : (s.threads t).pc.sent = none) : Sent trace s t where
  published mode sent := by rw [unsent] at sent; cases sent
  awaits mode target phase here := by rw [here] at unsent; cases unsent
  awaited mode here := by rw [here] at unsent; cases unsent

omit [DecidableEq Tid] in
/-- The thread goes on to `pc` and nothing else that matters here changes. -/
theorem goOn (sent : Sent trace s t) {pc : Pc}
    (self : s'.threads t = { s.threads t with pc })
    (pending : s'.pendingSwapSeq = s.pendingSwapSeq)
    (pends : s'.havePendingSwap = s.havePendingSwap)
    (mode : ∀ mode, pc.sent = some mode → (s.threads t).pc.sent = some mode)
    (awaits : ∀ mode target phase, pc = .wait mode target phase →
      s.waitTarget t mode = some target)
    (awaited : ∀ mode, pc = .finish mode →
      mode ≠ .void ∧ ∀ target, s.waitTarget t mode = some target → target < s'.completedSeq) :
    Sent (trace ++ [e]) s' t := by
  have target : ∀ mode, s'.waitTarget t mode = s.waitTarget t mode := by
    intro mode
    cases mode <;> simp only [State.waitTarget, State.pendingSwap?, self, pending, pends]
  constructor
  case published =>
    intro other isSent
    rw [self] at isSent ⊢
    obtain ⟨slot, member⟩ := sent.published other (mode other isSent)
    exact ⟨slot, List.mem_append_left _ member⟩
  case awaits =>
    intro mode target' phase here
    rw [self] at here
    rw [target, awaits mode target' phase here]
  case awaited =>
    intro mode here
    rw [self] at here
    simpa only [target] using awaited mode here

omit [DecidableEq Tid] in
theorem waited (sent : Sent trace s t) (curSeq : (s'.threads t).curSeq = (s.threads t).curSeq)
    (mode : ∀ mode, (s'.threads t).pc.sent = some mode → (s.threads t).pc.sent = some mode)
    (past : ∀ mode, (∀ target phase, (s'.threads t).pc ≠ .wait mode target phase) ∧
      (s'.threads t).pc ≠ .finish mode) : Sent (trace ++ [e]) s' t where
  published other isSent := by
    obtain ⟨slot, member⟩ := sent.published other (mode other isSent)
    rw [curSeq]
    exact ⟨slot, List.mem_append_left _ member⟩
  awaits mode target phase here := ((past mode).1 target phase here).elim
  awaited mode here := ((past mode).2 here).elim

omit [DecidableEq Tid] in
/-- The command is published and the proxy notified. -/
theorem notified (sent : Sent trace s t) {mode : SendMode}
    (now : (s.threads t).pc.sent = some mode)
    (self : s'.threads t = { s.threads t with pc := s.afterPublish t mode })
    (pending : s'.pendingSwapSeq = s.pendingSwapSeq)
    (pends : s'.havePendingSwap = s.havePendingSwap) : Sent (trace ++ [e]) s' t := by
  refine sent.goOn self pending pends ?_ ?_ ?_
  · intro other isSent
    rw [State.afterPublish_sent] at isSent
    rw [now, isSent]
  · intro other target phase here
    have isSent := congrArg Pc.sent here
    rw [State.afterPublish_sent] at isSent
    cases isSent
    cases waits : s.waitTarget t mode with
    | some expected =>
        rw [State.afterPublish_of_waits waits] at here
        cases here
        rfl
    | none =>
        by_cases void : mode = .void
        · subst void
          cases here
        · obtain ⟨rfl, goes⟩ := State.afterPublish_of_free waits void
          rw [goes] at here
          cases here
  · intro other here
    have isSent := congrArg Pc.sent here
    rw [State.afterPublish_sent] at isSent
    cases isSent
    cases waits : s.waitTarget t mode with
    | some expected =>
        rw [State.afterPublish_of_waits waits] at here
        cases here
    | none =>
        refine ⟨?_, nofun⟩
        rintro rfl
        cases here

theorem still (sent : Sent trace s t) (counters : Counters s) (taken : Step proxy s e s')
    (same : s'.threads t = s.threads t) : Sent (trace ++ [e]) s' t := by
  have target : ∀ mode, (s.threads t).pc.stage = .sending →
      s'.waitTarget t mode = s.waitTarget t mode := fun mode sending =>
    taken.waitTarget_of_same counters sending same
  constructor
  case published =>
    intro mode isSent
    rw [same] at isSent ⊢
    obtain ⟨slot, member⟩ := sent.published mode isSent
    exact ⟨slot, List.mem_append_left _ member⟩
  case awaits =>
    intro mode expected phase here
    rw [same] at here
    rw [target mode (by rw [here]; rfl), sent.awaits mode expected phase here]
  case awaited =>
    intro mode here
    rw [same] at here
    rw [target mode (by rw [here]; rfl)]
    obtain ⟨waiting, past⟩ := sent.awaited mode here
    exact ⟨waiting, fun expected isTarget =>
      (past expected isTarget).trans_le (taken.completedSeq_le counters)⟩

omit [DecidableEq Tid] in
/-- The command is published and the proxy not yet notified. -/
theorem of_published {mode : SendMode} {slot : BridgeCtrl}
    (self : s'.threads t = { s.threads t with pc := .loadWaiting mode }) :
    Sent (trace ++ [.published t (s.threads t).curSeq mode slot]) s' t := by
  constructor
  case published =>
    intro other isSent
    rw [self] at isSent ⊢
    cases isSent
    exact ⟨_, List.mem_append_right _ (List.mem_singleton_self _)⟩
  case awaits =>
    intro other target phase later
    rw [self] at later
    cases later
  case awaited =>
    intro other later
    rw [self] at later
    cases later

theorem step (sent : Sent trace s t) (counters : Counters s) (taken : Step proxy s e s') :
    Sent (trace ++ [e]) s' t := by
  rcases taken.advance t with same | ⟨-, unsent⟩ | advance
  · exact sent.still counters taken same
  · exact .of_unsent unsent
  cases advance with
  | publish mode here => exact of_published (Function.update_self ..)
  | @loadWaiting mode here =>
      by_cases waiting : s.consumerWaiting = true
      · rw [if_pos waiting]
        exact sent.goOn (s.setPc_self t _) rfl rfl (fun _ isSent => by rw [here]; exact isSent)
          nofun nofun
      · rw [if_neg waiting]
        exact sent.notified (by rw [here]; rfl) (s.setPc_self t _) rfl rfl
  | postReq here => exact sent.notified (by rw [here]; rfl) (State.setPc_self _ t _) rfl rfl
  | @waitDone mode target phase here testing done =>
      have expected := sent.awaits mode target phase here
      refine sent.goOn (s.setPc_self t _) rfl rfl (fun _ isSent => by rw [here]; exact isSent)
        nofun ?_
      rintro other ⟨⟩
      refine ⟨?_, fun awaited isTarget => ?_⟩
      · rintro rfl
        cases expected
      · rw [expected] at isTarget
        cases isTarget
        exact done
  | @waitMiss mode target phase deadline here =>
      refine sent.goOn (s.setPc_self t _) rfl rfl (fun _ isSent => by rw [here]; exact isSent)
        ?_ nofun
      rintro other expected later ⟨⟩
      exact sent.awaits mode target phase here
  | @efdWait mode target here =>
      refine sent.goOn (State.setPc_self _ t _) rfl rfl (fun _ isSent => by rw [here]; exact isSent)
        ?_ nofun
      rintro other expected later ⟨⟩
      exact sent.awaits mode target .blocked here
  | copyReply here =>
      have self := s.copyReply_self t
      refine sent.waited (by rw [self]) (fun mode isSent => ?_) (fun mode => ?_)
      · rw [self] at isSent
        rw [here]
        exact isSent
      · rw [self]
        exact ⟨nofun, nofun⟩
  | finishSwap here =>
      obtain ⟨value, threads⟩ := s.finishSwap_threads t
      have self : (s.finishSwap t).threads t = { s.threads t with pc := .unlock .swap value } := by
        rw [threads, Function.update_self]
      refine sent.waited (by rw [self]) (fun mode isSent => ?_) (fun mode => ?_)
      · rw [self] at isSent
        rw [here]
        exact isSent
      · rw [self]
        exact ⟨nofun, nofun⟩
  | @unlock mode value here =>
      have self := s.release_self t mode
      refine sent.waited (by rw [self]) (fun other isSent => ?_) (fun other => ?_)
      · rw [self] at isSent
        rw [here]
        split_ifs at isSent with called
        · cases isSent
          rw [called]
          rfl
        · cases isSent
      · rw [self]
        split_ifs
        · exact ⟨nofun, nofun⟩
        · exact ⟨nofun, nofun⟩

theorem of_run (run : (bridge cfg Tid proxy).Run trace s) (t : Tid) : Sent trace s t := by
  induction run with
  | start initial =>
      obtain ⟨clientPid, gl, rfl⟩ := initial
      exact .of_unsent rfl
  | step run taken ih => exact ih.step (.of_run run) taken

end Sent

end Steps

end GlesBridge.Ring
