import GlesBridge.Ring.Send

namespace GlesBridge.Ring

open GlesBridge.Data GlesBridge.Systems

/-! The two sleeps: the proxy in `read(req_efd)`, a client thread in
`efd_wait(resp_efd)`. -/

variable {cfg : Config} {Tid Gl : Type} [DecidableEq Tid] {proxy : Dispatcher Gl}
  {s s' : State cfg Tid Gl} {e : Event Tid Gl} {trace : List (Event Tid Gl)} {t : Tid}
  {mode : SendMode} {target : Nat} {phase : WaitPhase}

/-! ## The proxy's sleep -/

/-- In `publish_cur`, between the store of `published_seq` and the end of its
`efd_post`. -/
def Pc.notifying : Pc → Bool
  | .loadWaiting _ | .postReq _ => true
  | _ => false

theorem Pc.stage_of_notifying {pc : Pc} (notifying : pc.notifying = true) :
    pc.stage = .sending := by
  cases pc <;> first | rfl | cases notifying

/-- What a step of a client thread leaves of the proxy's wake-up. -/
structure StubStep (s s' : State cfg Tid Gl) (t : Tid) : Prop where
  proxyPc : s'.proxyPc = s.proxyPc
  consumerWaiting : s'.consumerWaiting = s.consumerWaiting
  completed : s'.completed = s.completed
  reqEfd : s.reqEfd ≤ s'.reqEfd
  published : s'.publishedSeq = s.publishedSeq ∨ (s'.threads t).pc.notifying = true

theorem Step.stub (taken : Step proxy s e s') (acts : e.actor = some t) : StubStep s s' t := by
  cases taken with
  | load | spin | setWaiting | recheck | wake | clearWaiting | dispatch | release | complete
  | post => cases acts
  | publish mode =>
      cases acts
      exact ⟨rfl, rfl, rfl, Nat.le_refl _, .inr (by simp only [State.publishCur, State.setPc_self]; rfl)⟩
  | postReq => exact ⟨rfl, rfl, rfl, Nat.le_succ _, .inl rfl⟩
  | finishSwap =>
      simp only [State.finishSwap]
      split
      · exact ⟨rfl, rfl, rfl, Nat.le_refl _, .inl rfl⟩
      · exact ⟨rfl, rfl, rfl, Nat.le_refl _, .inl rfl⟩
  | _ => exact ⟨rfl, rfl, rfl, Nat.le_refl _, .inl rfl⟩

/-- A notification goes on until it is posted, or finds the proxy awake. -/
theorem Step.notifying (taken : Step proxy s e s') (now : (s.threads t).pc.notifying = true) :
    (s'.threads t).pc.notifying = true ∨ 0 < s'.reqEfd ∨ s.consumerWaiting = false := by
  rcases taken.advance t with same | ⟨idle, -⟩ | advance
  · exact .inl (same ▸ now)
  · exact (idle (Pc.stage_of_notifying now)).elim
  cases advance with
  | loadWaiting here =>
      cases waiting : s.consumerWaiting with
      | false => exact .inr (.inr rfl)
      | true => exact .inl (by rw [State.setPc_self]; rfl)
  | postReq here => exact .inr (.inl (Nat.succ_pos _))
  | publish _ here | waitDone here | waitMiss _ here | efdWait here | copyReply here
  | finishSwap here | unlock here =>
      rw [here] at now
      cases now

/-- A sleeping proxy hears of every published command. -/
structure Heard (s : State cfg Tid Gl) : Prop where
  raised : s.proxyPc = .recheck ∨ s.proxyPc = .blocked → s.consumerWaiting = true
  heard : s.proxyPc = .blocked → s.completed < s.publishedSeq →
    0 < s.reqEfd ∨ ∃ t, (s.threads t).pc.notifying = true

namespace Heard

theorem step (heard : Heard s) (taken : Step proxy s e s') : Heard s' := by
  cases acts : e.actor with
  | some t =>
      have stub := taken.stub acts
      have raised := heard.raised
      rw [← stub.proxyPc, ← stub.consumerWaiting] at raised
      refine ⟨raised, fun asleep behind => ?_⟩
      rcases stub.published with same | notifying
      · rw [stub.proxyPc] at asleep
        rw [stub.completed, same] at behind
        rcases heard.heard asleep behind with posted | ⟨u, notifying⟩
        · exact .inl (posted.trans_le stub.reqEfd)
        · rcases taken.notifying notifying with still | posted | unheard
          · exact .inr ⟨u, still⟩
          · exact .inl posted
          · rw [heard.raised (.inr asleep)] at unheard
            cases unheard
      · exact .inr ⟨t, notifying⟩
  | none =>
      cases taken with
      | load | spin =>
          refine ⟨fun idle => ?_, fun asleep => ?_⟩
          · simp only at idle
            split_ifs at idle <;> simp at idle
          · simp only at asleep
            split_ifs at asleep
      | setWaiting => exact ⟨fun _ => rfl, fun asleep => by cases asleep⟩
      | recheck here =>
          refine ⟨fun _ => heard.raised (.inl here), fun asleep behind => ?_⟩
          simp only at asleep behind
          rw [if_pos behind] at asleep
          cases asleep
      | complete =>
          refine ⟨fun idle => ?_, fun asleep => ?_⟩
          · simp only [State.complete] at idle
            split_ifs at idle <;> simp at idle
          · simp only [State.complete] at asleep
            split_ifs at asleep
      | wake | clearWaiting | post | dispatch | release =>
          refine ⟨fun idle => ?_, fun asleep => by cases asleep⟩
          rcases idle with idle | idle <;> cases idle
      | _ => cases acts

theorem of_run (run : (bridge cfg Tid proxy).Run trace s) : Heard s := by
  induction run with
  | start initial =>
      obtain ⟨clientPid, gl, rfl⟩ := initial
      exact ⟨nofun, nofun⟩
  | step run taken ih => exact ih.step taken

end Heard

/-- When the proxy sleeps with nothing to read, every published command is
completed, or a thread is about to post: it is about to load
`consumer_waiting`, which is set, or past that load. -/
theorem no_lost_wakeup (run : (bridge cfg Tid proxy).Run trace s) (asleep : s.proxyPc = .blocked)
    (empty : s.reqEfd = 0) :
    s.completed = s.publishedSeq ∨
      ∃ t mode, ((s.threads t).pc = .loadWaiting mode ∧ s.consumerWaiting = true) ∨
        (s.threads t).pc = .postReq mode := by
  have behind := (Counters.of_run run).behind
  have heard := Heard.of_run run
  rcases Nat.lt_or_ge s.completed s.publishedSeq with ahead | equal
  · right
    rcases heard.heard asleep ahead with posted | ⟨t, notifying⟩
    · omega
    · cases pc : (s.threads t).pc with
      | loadWaiting mode => exact ⟨t, mode, .inl ⟨pc, heard.raised (.inr asleep)⟩⟩
      | postReq mode => exact ⟨t, mode, .inr pc⟩
      | _ => rw [pc] at notifying; cases notifying
  · exact .inl (Nat.le_antisymm behind equal)

theorem no_lost_wakeup_pending_post :
    ∃ trace, ∃ s : State .default Bool Unit,
      (bridge .default Bool (.uniform (.constant 7))).Run trace s ∧
      s.proxyPc = .blocked ∧ s.reqEfd = 0 ∧ s.completed < s.publishedSeq ∧
      (s.completed = s.publishedSeq ∨
        ∃ t mode, ((s.threads t).pc = .loadWaiting mode ∧ s.consumerWaiting = true) ∨
          (s.threads t).pc = .postReq mode) := by
  have run : (bridge .default Bool (.uniform (.constant 7))).Run [] (.initial .default 1 ()) :=
    .start ⟨1, (), rfl⟩
  have run := run.step (.load rfl)
  have run := run.step (.spin true rfl)
  have run := run.step (.setWaiting rfl)
  have run := run.step (.recheck rfl)
  have run := run.step (.lock (t := true) rfl rfl)
  have run := run.step (.begin (t := true) rfl rfl)
  have run := run.step (.publish (t := true) .void rfl)
  have run := run.step (.loadWaiting (t := true) rfl)
  exact ⟨_, _, run, rfl, rfl, by decide, no_lost_wakeup run rfl rfl⟩

/-! ## Fair executions -/

/-- The proxy and every thread go on whenever they can. -/
structure Fair (behaviour : Lts.Behaviour (bridge cfg Tid proxy)) : Prop where
  proxy : behaviour.WeaklyFair fun e => e.actor = none
  thread : ∀ t, behaviour.WeaklyFair fun e => e.actor = some t

theorem Step.awake (taken : Step proxy s e s') (acts : e.actor = none)
    (asleep : s.proxyPc = .blocked) : s'.proxyPc ≠ .blocked := by
  cases taken with
  | wake => exact nofun
  | load here | spin _ here | setWaiting here | recheck here | clearWaiting here | dispatch here
  | release here | complete here | post here =>
      rw [here] at asleep
      cases asleep
  | _ => cases acts

section Progress

variable {behaviour : Lts.Behaviour (bridge cfg Tid proxy)}

theorem wakes_of_posted (fair : Fair behaviour) :
    behaviour.LeadsTo (fun s => s.proxyPc = .blocked ∧ 0 < s.reqEfd)
      (fun s => s.proxyPc ≠ .blocked) := by
  apply Lts.Behaviour.leadsTo_of_fair fair.proxy
  case lasts =>
    intro trace s e s' run ⟨asleep, ready⟩ taken
    cases acts : e.actor with
    | none => exact .inr (taken.awake acts asleep)
    | some t =>
        have stub := taken.stub acts
        exact .inl ⟨stub.proxyPc.trans asleep, ready.trans_le stub.reqEfd⟩
  case enabled =>
    intro trace s run ⟨asleep, ready⟩
    exact ⟨_, _, rfl, .wake asleep ready⟩
  case progress =>
    intro trace s e s' run ⟨asleep, ready⟩ taken acts
    exact taken.awake acts asleep

/-- The proxy is awake, or has something to read. -/
def State.Roused (s : State cfg Tid Gl) : Prop := s.proxyPc ≠ .blocked ∨ 0 < s.reqEfd

theorem posts_of_postReq (fair : Fair behaviour) (t : Tid) :
    behaviour.LeadsTo (fun s => s.proxyPc = .blocked ∧ ∃ mode, (s.threads t).pc = .postReq mode)
      State.Roused := by
  have posts {s s' : State cfg Tid Gl} {e : Event Tid Gl} {mode : SendMode}
      (here : (s.threads t).pc = .postReq mode) (taken : Step proxy s e s')
      (acts : e.actor = some t) : s'.Roused := by
    have advance := taken.of_sending acts (by rw [here]; rfl)
    cases advance with
    | postReq => exact .inr (Nat.succ_pos _)
    | publish _ other | loadWaiting other | waitDone other | waitMiss _ other | efdWait other
    | copyReply other | finishSwap other | unlock other =>
        rw [here] at other
        cases other
  apply Lts.Behaviour.leadsTo_of_fair (fair.thread t)
  case lasts =>
    intro trace s e s' run ⟨asleep, mode, here⟩ taken
    by_cases acts : e.actor = some t
    · exact .inr (posts here taken acts)
    · by_cases still : s'.proxyPc = .blocked
      · exact .inl ⟨still, mode, by rw [taken.threads_of_ne acts, here]⟩
      · exact .inr (.inl still)
  case enabled =>
    intro trace s run ⟨asleep, mode, here⟩
    exact ⟨_, _, rfl, .postReq here⟩
  case progress =>
    intro trace s e s' run ⟨asleep, mode, here⟩ taken acts
    exact posts here taken acts

theorem posts_of_loadWaiting (fair : Fair behaviour) (t : Tid) :
    behaviour.LeadsTo
      (fun s => s.proxyPc = .blocked ∧ ∃ mode, (s.threads t).pc = .loadWaiting mode)
      (fun s => s.Roused ∨ s.proxyPc = .blocked ∧ ∃ mode, (s.threads t).pc = .postReq mode) := by
  have loads {s s' : State cfg Tid Gl} {e : Event Tid Gl} {mode : SendMode}
      (raised : s.consumerWaiting = true) (asleep : s.proxyPc = .blocked)
      (here : (s.threads t).pc = .loadWaiting mode) (taken : Step proxy s e s')
      (acts : e.actor = some t) :
      s'.Roused ∨ s'.proxyPc = .blocked ∧ ∃ mode, (s'.threads t).pc = .postReq mode := by
    have advance := taken.of_sending acts (by rw [here]; rfl)
    cases advance with
    | loadWaiting =>
        rw [if_pos raised]
        exact .inr ⟨asleep, _, by rw [State.setPc_self]⟩
    | publish _ other | postReq other | waitDone other | waitMiss _ other | efdWait other
    | copyReply other | finishSwap other | unlock other =>
        rw [here] at other
        cases other
  apply Lts.Behaviour.leadsTo_of_fair (fair.thread t)
  case lasts =>
    intro trace s e s' run ⟨asleep, mode, here⟩ taken
    by_cases acts : e.actor = some t
    · exact .inr (loads ((Heard.of_run run).raised (.inr asleep)) asleep here taken acts)
    · by_cases still : s'.proxyPc = .blocked
      · exact .inl ⟨still, mode, by rw [taken.threads_of_ne acts, here]⟩
      · exact .inr (.inl (.inl still))
  case enabled =>
    intro trace s run ⟨asleep, mode, here⟩
    exact ⟨_, _, rfl, .loadWaiting here⟩
  case progress =>
    intro trace s e s' run ⟨asleep, mode, here⟩ taken acts
    exact loads ((Heard.of_run run).raised (.inr asleep)) asleep here taken acts

/-- A proxy that sleeps while a command waits wakes up. -/
theorem proxy_wakes (fair : Fair behaviour) :
    behaviour.LeadsTo (fun s => s.proxyPc = .blocked ∧ s.completed < s.publishedSeq)
      (fun s => s.proxyPc ≠ .blocked) := by
  have roused : behaviour.LeadsTo State.Roused (fun s => s.proxyPc ≠ .blocked) := by
    refine .trans (.of_imp fun _ s _ roused => ?_) ((Lts.Behaviour.LeadsTo.of_imp fun _ _ _ awake =>
      awake).or (wakes_of_posted fair))
    by_cases asleep : s.proxyPc = .blocked
    · exact .inr ⟨asleep, roused.resolve_left fun awake => awake asleep⟩
    · exact .inl asleep
  have posted := fun t => (posts_of_postReq fair t).trans roused
  have loaded := fun t => (posts_of_loadWaiting fair t).trans (roused.or (posted t))
  refine .trans (.of_imp fun _ s run ⟨asleep, behind⟩ => ?_)
    (roused.or ((Lts.Behaviour.LeadsTo.exists loaded).or (.exists posted)))
  rcases (Heard.of_run run).heard asleep behind with ready | ⟨t, notifying⟩
  · exact .inl (.inr ready)
  · cases pc : (s.threads t).pc with
    | loadWaiting mode => exact .inr (.inl ⟨t, asleep, mode, pc⟩)
    | postReq mode => exact .inr (.inr ⟨t, asleep, mode, pc⟩)
    | _ => rw [pc] at notifying; cases notifying

end Progress

end GlesBridge.Ring
