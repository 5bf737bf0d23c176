import GlesBridge.Ring.Reply
import GlesBridge.Ring.Wake

namespace GlesBridge.Ring

open GlesBridge.Data GlesBridge.Systems

/-! Waiting for a response: posts and waits do not match one to one, and still
no thread sleeps through the completion of its command. -/

variable {cfg : Config} {Tid Gl : Type} [DecidableEq Tid] {proxy : Dispatcher Gl}
  {s s' : State cfg Tid Gl} {e : Event Tid Gl} {trace : List (Event Tid Gl)} {t u : Tid}
  {mode : SendMode} {seq target : Nat} {phase : WaitPhase} {slot : BridgeCtrl}

/-! ## Requests -/

theorem seq_lt_published (run : (bridge cfg Tid proxy).Run trace s)
    (member : .published t seq mode slot ∈ trace) : seq < s.publishedSeq := by
  have listed : seq ∈ (publishedCommands trace).map Prod.fst :=
    List.mem_map_of_mem (mem_publishedCommands member)
  rwa [publishedCommands_seqs run, List.mem_range] at listed

/-- `needs_response` stays as the send stored it until the command is completed. -/
theorem needsResponse_of_published (run : (bridge cfg Tid proxy).Run trace s)
    (member : .published t seq mode slot ∈ trace) (waiting : s.completed ≤ seq) :
    (s.slots (cfg.slotIndex seq)).needsResponse = mode.needsResponse cfg := by
  induction run with
  | start initial => cases member
  | @step trace s e s' run taken ih =>
      have counters := Counters.of_run run
      rw [List.mem_append, List.mem_singleton] at member
      rcases member with earlier | now
      · have below := seq_lt_published run earlier
        have grows := taken.completedSeq_le counters
        rw [← counters.proxyCopy, ← (counters.step taken.move).proxyCopy] at grows
        have lower := grows.trans waiting
        rcases taken.move.slot_of_published counters lower below with same | ⟨outcome, -, same⟩
        · rw [same, ih earlier lower]
        · rw [same]
          exact ih earlier lower
      · cases now
        cases taken with
        | publish mode here =>
            have self : (s.publishCur t mode).slots (s.curIndex t) =
                { s.slots (s.curIndex t) with needsResponse := mode.needsResponse cfg } :=
              Function.update_self ..
            exact congrArg BridgeCtrl.needsResponse self

theorem SendMode.needsResponse_ne_zero (cfg : Config) (waits : mode ≠ .void) :
    mode.needsResponse cfg ≠ 0 := by
  cases mode with
  | void => exact (waits rfl).elim
  | call => exact nofun
  | swap =>
      simp only [SendMode.needsResponse]
      split_ifs
      · exact nofun
      · exact nofun

theorem pendingSwap_published (run : (bridge cfg Tid proxy).Run trace s)
    (pends : s.havePendingSwap = true) :
    ∃ t slot, .published t s.pendingSwapSeq .swap slot ∈ trace := by
  induction run with
  | start initial =>
      obtain ⟨clientPid, gl, rfl⟩ := initial
      cases pends
  | @step trace s e s' run taken ih =>
      rcases taken.pendingSwap with ⟨pending, had⟩ | ⟨t, -, here, -, pending, -, -⟩
      · rw [had] at pends
        obtain ⟨t, slot, member⟩ := ih pends
        rw [pending]
        exact ⟨t, slot, List.mem_append_left _ member⟩
      · obtain ⟨slot, member⟩ := (Sent.of_run run t).published .swap (by rw [here]; rfl)
        rw [pending]
        exact ⟨t, slot, List.mem_append_left _ member⟩

/-- A thread waits for a command that was published with a request to post. -/
theorem target_published (run : (bridge cfg Tid proxy).Run trace s)
    (waiting : (s.threads t).pc = .wait mode target phase) :
    ∃ u sent slot, sent ≠ .void ∧ .published u target sent slot ∈ trace := by
  have sent := Sent.of_run run t
  have own := sent.published mode (by rw [waiting]; rfl)
  have expected := sent.awaits mode target phase waiting
  cases mode with
  | void => cases expected
  | call =>
      cases expected
      obtain ⟨slot, member⟩ := own
      exact ⟨t, .call, slot, by simp, member⟩
  | swap =>
      simp only [State.waitTarget, State.pendingSwap?] at expected
      split_ifs at expected with async pends
      · cases expected
        obtain ⟨u, slot, member⟩ := pendingSwap_published run pends
        exact ⟨u, .swap, slot, by simp, member⟩
      · cases expected
        obtain ⟨slot, member⟩ := own
        exact ⟨t, .swap, slot, by simp, member⟩

theorem target_requests (run : (bridge cfg Tid proxy).Run trace s)
    (waiting : (s.threads t).pc = .wait mode target phase) (open' : s.completed ≤ target) :
    (s.slots (cfg.slotIndex target)).needsResponse ≠ 0 := by
  obtain ⟨u, sent, slot, waits, member⟩ := target_published run waiting
  rw [needsResponse_of_published run member open']
  exact SendMode.needsResponse_ne_zero cfg waits

/-! ## Posts -/

/-- The post for a command is still to come. -/
def State.PostToCome (s : State cfg Tid Gl) (seq : Nat) : Prop :=
  s.completed ≤ seq ∨ (s.proxyPc = .post ∧ s.completed = seq + 1)

/-- A post is made once, after the command is counted as completed. -/
structure Posts (trace : List (Event Tid Gl)) (s : State cfg Tid Gl) : Prop where
  pending : s.proxyPc = .post → 0 < s.completed
  made : ∀ seq, .posted seq ∈ trace → seq < s.completed ∧ ¬ s.PostToCome seq

/-- Who reads `resp_efd`, and who writes it. -/
theorem Step.respEfd (taken : Step proxy s e s') :
    s.respEfd ≤ s'.respEfd ∨
      ∃ t mode target, (s.threads t).pc = .wait mode target .blocked ∧ e = .quiet (some t) := by
  cases taken with
  | efdWait here => exact .inr ⟨_, _, _, here, rfl⟩
  | finishSwap =>
      simp only [State.finishSwap]
      split
      · exact .inl (Nat.le_refl _)
      · exact .inl (Nat.le_refl _)
  | post => exact .inl (Nat.le_succ _)
  | _ => exact .inl (Nat.le_refl _)

/-- What the proxy does to the responses of the commands it has completed. -/
theorem Step.postToCome (taken : Step proxy s e s') (acts : e.actor = none)
    (coming : s.PostToCome seq) (asked : s.completed = seq →
      (s.slots (cfg.slotIndex seq)).needsResponse ≠ 0) :
    s'.PostToCome seq ∨ (e = .posted seq ∧ 0 < s'.respEfd) := by
  have early : s.proxyPc ≠ .post → s.completed ≤ seq := fun other =>
    coming.resolve_right fun posting => other posting.1
  cases taken with
  | load here | spin _ here | setWaiting here | recheck here | clearWaiting here | dispatch here
  | release here | wake here => exact .inl (.inl (early (by simp [here])))
  | complete here =>
      have before := early (by simp [here])
      rcases Nat.lt_or_eq_of_le before with below | now
      · exact .inl (.inl below)
      · refine .inl (.inr ⟨?_, congrArg (· + 1) now⟩)
        have asks := asked now
        rw [← now] at asks
        exact if_neg asks
  | post here =>
      rcases coming with below | ⟨-, completed⟩
      · exact .inl (.inl below)
      · exact .inr ⟨by rw [completed]; rfl, Nat.succ_pos _⟩
  | _ => cases acts

theorem Posts.of_run (run : (bridge cfg Tid proxy).Run trace s) : Posts trace s := by
  induction run with
  | start initial =>
      obtain ⟨clientPid, gl, rfl⟩ := initial
      exact ⟨by simp [State.initial], by simp⟩
  | @step trace s e s' run taken ih =>
      have old : s'.completed = s.completed →
          (s'.proxyPc = .post → s.proxyPc = .post) → (∀ seq, e ≠ .posted seq) →
          Posts (trace ++ [e]) s' := by
        intro completed posting silent
        refine ⟨fun now => completed ▸ ih.pending (posting now), fun seq member => ?_⟩
        rw [List.mem_append, List.mem_singleton] at member
        obtain ⟨past, settled⟩ := ih.made seq (member.resolve_right (silent seq ·.symm))
        simp only [State.PostToCome, completed] at settled ⊢
        exact ⟨past, fun coming => settled (coming.imp_right (And.imp_left posting))⟩
      cases acts : e.actor with
      | some t =>
          have stub := taken.stub acts
          exact old stub.completed (stub.proxyPc ▸ id) fun seq posted => by
            rw [posted] at acts
            cases acts
      | none =>
          cases taken with
          | load | spin | recheck =>
              refine old rfl (fun now => ?_) (by simp)
              simp only at now
              split_ifs at now
          | setWaiting | wake | clearWaiting | dispatch | release =>
              exact old rfl (fun posting => by cases posting) (by simp)
          | complete here =>
              refine ⟨fun _ => Nat.succ_pos _, fun seq member => ?_⟩
              rw [List.mem_append, List.mem_singleton] at member
              obtain ⟨past, settled⟩ := ih.made seq (member.resolve_right (by simp))
              refine ⟨Nat.lt_succ_of_lt past, ?_⟩
              rintro (below | ⟨-, now⟩)
              · exact absurd below (by simp only [State.complete]; omega)
              · simp only [State.complete] at now
                omega
          | post here =>
              have ready := ih.pending here
              refine ⟨by simp, fun seq member => ?_⟩
              rw [List.mem_append, List.mem_singleton] at member
              have past : seq < s.completed := by
                rcases member with earlier | now
                · exact (ih.made seq earlier).1
                · cases now
                  omega
              refine ⟨past, ?_⟩
              rintro (below | ⟨⟨⟩, -⟩)
              exact absurd below (Nat.not_le_of_lt past)
          | _ => cases acts

/-! ## The thread's sleep -/

/-- A sleeping thread has something to read or will get it. -/
def Hears (s : State cfg Tid Gl) (t : Tid) : Prop :=
  ∀ mode target, (s.threads t).pc = .wait mode target .blocked →
    0 < s.respEfd ∨ s.PostToCome target

/-- A thread falls asleep after a test that found its command not completed. -/
theorem Advance.asleep (advance : Advance s t e s')
    (asleep : (s'.threads t).pc = .wait mode target .blocked) :
    s.completedSeq ≤ target ∧ s'.completed = s.completed := by
  have awake : ∀ sent, s.afterPublish t sent ≠ .wait mode target .blocked := by
    intro sent
    cases sent with
    | void | call => simp [State.afterPublish]
    | swap => simp only [State.afterPublish]; split_ifs <;> simp
  cases advance with
  | waitMiss deadline here testing behind =>
      rw [State.setPc_self] at asleep
      obtain ⟨-, rfl, -⟩ := Pc.wait.inj asleep
      exact ⟨behind, rfl⟩
  | loadWaiting =>
      rw [State.setPc_self] at asleep
      simp only at asleep
      split_ifs at asleep
      exact (awake _ asleep).elim
  | postReq =>
      rw [State.setPc_self] at asleep
      exact (awake _ asleep).elim
  | publish | waitDone | efdWait =>
      simp only [State.publishCur, State.setPc_self] at asleep
      cases asleep
  | copyReply =>
      rw [State.copyReply_self] at asleep
      cases asleep
  | finishSwap =>
      obtain ⟨value, threads⟩ := s.finishSwap_threads t
      rw [threads, Function.update_self] at asleep
      cases asleep
  | @unlock mode =>
      rw [State.release_self] at asleep
      simp only at asleep
      split_ifs at asleep

/-- Only the sleeper itself reads `resp_efd`, and then it is awake. -/
theorem Step.respEfd_of_asleep (taken : Step proxy s e s') (counters : Counters s)
    (asleep : (s.threads t).pc = .wait mode target .blocked) (same : s'.threads t = s.threads t) :
    s.respEfd ≤ s'.respEfd := by
  rcases taken.respEfd with grows | ⟨u, other, awaited, blocked, rfl⟩
  · exact grows
  have inside : (s.threads t).pc.stage ≠ .outside := by simp [asleep, Pc.stage]
  obtain rfl := counters.unique inside (u := u) (by simp [blocked, Pc.stage])
  have advance := taken.of_sending rfl (by rw [blocked]; rfl)
  rw [← same] at blocked
  cases advance with
  | efdWait =>
      rw [State.setPc_self] at blocked
      cases blocked
  | waitMiss | waitDone | loadWaiting | postReq | copyReply => exact Nat.le_refl _
  | finishSwap =>
      simp only [State.finishSwap]
      split <;> exact Nat.le_refl _

theorem Hears.step (run : (bridge cfg Tid proxy).Run trace s) (hears : Hears s t)
    (taken : Step proxy s e s') : Hears s' t := by
  have counters := Counters.of_run run
  intro mode target asleep
  rcases taken.advance t with same | ⟨-, unsent⟩ | advance
  · rw [same] at asleep
    have grows := taken.respEfd_of_asleep counters asleep same
    rcases hears mode target asleep with ready | coming
    · exact .inl (ready.trans_le grows)
    cases acts : e.actor with
    | some u =>
        have stub := taken.stub acts
        simp only [State.PostToCome, stub.completed, stub.proxyPc]
        exact .inr coming
    | none =>
        have asked : s.completed = target → _ := fun reached =>
          target_requests run asleep (Nat.le_of_eq reached)
        rcases taken.postToCome acts coming asked with still | ⟨-, ready⟩
        · exact .inr still
        · exact .inl ready
  · rw [asleep] at unsent
    cases unsent
  · obtain ⟨behind, completed⟩ := advance.asleep asleep
    refine .inr (.inl ?_)
    rw [completed, counters.proxyCopy]
    exact behind

theorem Hears.of_run (run : (bridge cfg Tid proxy).Run trace s) (t : Tid) : Hears s t := by
  induction run with
  | start initial =>
      obtain ⟨clientPid, gl, rfl⟩ := initial
      exact nofun
  | step run taken ih => exact ih.step run taken

/-! ## Every wait ends -/

/-- About to test whether the command, which is completed, is. -/
def Testing (t : Tid) (mode : SendMode) (target : Nat) (s : State cfg Tid Gl) : Prop :=
  (∃ phase, phase ≠ .blocked ∧ (s.threads t).pc = .wait mode target phase) ∧
    target < s.completedSeq

/-- Asleep although the command is completed. -/
def Oversleeping (t : Tid) (mode : SendMode) (target : Nat) (s : State cfg Tid Gl) : Prop :=
  (s.threads t).pc = .wait mode target .blocked ∧ target < s.completedSeq

theorem Testing.step (testing : Testing t mode target s) (taken : Step proxy s e s')
    (acts : e.actor = some t) : (s'.threads t).pc = .finish mode := by
  obtain ⟨⟨phase, awake, here⟩, done⟩ := testing
  have advance := taken.of_sending acts (by rw [here]; rfl)
  cases advance with
  | waitDone other =>
      rw [here] at other
      cases other
      rw [State.setPc_self]
  | waitMiss _ other _ behind =>
      rw [here] at other
      cases other
      omega
  | efdWait other =>
      rw [here] at other
      cases other
      exact (awake rfl).elim
  | publish _ other | loadWaiting other | postReq other | copyReply other | finishSwap other
  | unlock other =>
      rw [here] at other
      cases other

theorem Oversleeping.step (asleep : Oversleeping t mode target s) (taken : Step proxy s e s')
    (acts : e.actor = some t) : Testing t mode target s' := by
  obtain ⟨here, done⟩ := asleep
  have advance := taken.of_sending acts (by rw [here]; rfl)
  cases advance with
  | efdWait other =>
      rw [here] at other
      cases other
      exact ⟨⟨.recheck, nofun, by rw [State.setPc_self]⟩, done⟩
  | waitDone other testing | waitMiss _ other testing =>
      rw [here] at other
      cases other
      exact (testing rfl).elim
  | publish _ other | loadWaiting other | postReq other | copyReply other | finishSwap other
  | unlock other =>
      rw [here] at other
      cases other

theorem Oversleeping.keep (asleep : Oversleeping t mode target s) (counters : Counters s)
    (taken : Step proxy s e s') (other : e.actor ≠ some t) :
    Oversleeping t mode target s' ∧ s.respEfd ≤ s'.respEfd := by
  have same := taken.threads_of_ne other
  exact ⟨⟨by rw [same, asleep.1], asleep.2.trans_le (taken.completedSeq_le counters)⟩,
    taken.respEfd_of_asleep counters asleep.1 same⟩

section Progress

variable {behaviour : Lts.Behaviour (bridge cfg Tid proxy)}

theorem finishes_of_testing (fair : Fair behaviour) :
    behaviour.LeadsTo (Testing t mode target) (fun s => (s.threads t).pc = .finish mode) := by
  apply Lts.Behaviour.leadsTo_of_fair (fair.thread t)
  case lasts =>
    intro trace s e s' run testing taken
    by_cases acts : e.actor = some t
    · exact .inr (testing.step taken acts)
    · left
      rw [Testing, taken.threads_of_ne acts]
      exact ⟨testing.1, testing.2.trans_le (taken.completedSeq_le (.of_run run))⟩
  case enabled =>
    rintro trace s run ⟨⟨phase, awake, here⟩, done⟩
    exact ⟨_, _, rfl, .waitDone here awake done⟩
  case progress => exact fun trace s e s' run testing taken => testing.step taken

theorem wakes_of_ready (fair : Fair behaviour) :
    behaviour.LeadsTo (fun s => Oversleeping t mode target s ∧ 0 < s.respEfd)
      (Testing t mode target) := by
  apply Lts.Behaviour.leadsTo_of_fair (fair.thread t)
  case lasts =>
    intro trace s e s' run ⟨asleep, ready⟩ taken
    by_cases acts : e.actor = some t
    · exact .inr (asleep.step taken acts)
    · obtain ⟨still, grows⟩ := asleep.keep (.of_run run) taken acts
      exact .inl ⟨still, ready.trans_le grows⟩
  case enabled =>
    rintro trace s run ⟨⟨here, done⟩, ready⟩
    exact ⟨_, _, rfl, .efdWait here ready⟩
  case progress => exact fun trace s e s' run asleep taken => asleep.1.step taken

theorem readies_of_post (fair : Fair behaviour) :
    behaviour.LeadsTo (fun s => Oversleeping t mode target s ∧ s.proxyPc = .post)
      (fun s => Testing t mode target s ∨ Oversleeping t mode target s ∧ 0 < s.respEfd) := by
  have posts {s s' : State cfg Tid Gl} {e : Event Tid Gl} (posting : s.proxyPc = .post)
      (taken : Step proxy s e s') (acts : e.actor = none) : 0 < s'.respEfd := by
    cases taken with
    | post => exact Nat.succ_pos _
    | load here | spin _ here | setWaiting here | recheck here | clearWaiting here | dispatch here
    | release here | complete here | wake here =>
        rw [posting] at here
        cases here
    | _ => cases acts
  apply Lts.Behaviour.leadsTo_of_fair fair.proxy
  case lasts =>
    intro trace s e s' run ⟨asleep, posting⟩ taken
    by_cases acts : e.actor = some t
    · exact .inr (.inl (asleep.step taken acts))
    · obtain ⟨still, -⟩ := asleep.keep (.of_run run) taken acts
      cases actor : e.actor with
      | none => exact .inr (.inr ⟨still, posts posting taken actor⟩)
      | some u => exact .inl ⟨still, (taken.stub actor).proxyPc.trans posting⟩
  case enabled =>
    intro trace s run ⟨asleep, posting⟩
    exact ⟨_, _, rfl, .post posting⟩
  case progress =>
    intro trace s e s' run ⟨asleep, posting⟩ taken acts
    obtain ⟨still, -⟩ := asleep.keep (.of_run run) taken (by simp [acts])
    exact .inr ⟨still, posts posting taken acts⟩

/-- A wait for a completed command ends. -/
theorem wait_ends (fair : Fair behaviour) (t : Tid) (mode : SendMode) (target : Nat) :
    behaviour.LeadsTo
      (fun s => (∃ phase, (s.threads t).pc = .wait mode target phase) ∧ target < s.completedSeq)
      (fun s => (s.threads t).pc = .finish mode) := by
  have tested : behaviour.LeadsTo (Testing t mode target) (fun s => (s.threads t).pc = .finish mode) :=
    finishes_of_testing fair
  have ready := (wakes_of_ready fair).trans tested
  have posted := (readies_of_post fair).trans (tested.or ready)
  refine .trans (.of_imp fun trace s run holds => ?_) (tested.or (ready.or posted))
  obtain ⟨⟨phase, here⟩, done⟩ := holds
  by_cases blocked : phase = .blocked
  · subst blocked
    rcases Hears.of_run run t mode target here with now | late | ⟨posting, -⟩
    · exact .inr (.inl ⟨⟨here, done⟩, now⟩)
    · have := (Counters.of_run run).proxyCopy
      omega
    · exact .inr (.inr ⟨⟨here, done⟩, posting⟩)
  · exact .inl ⟨⟨phase, blocked, here⟩, done⟩

end Progress

/-- A thread asleep with nothing to read waits for a command that asks for a
post, and that post has not been made; and once the command is completed, the
wait ends in every fair execution. -/
theorem no_lost_response :
    (∀ trace (s : State cfg Tid Gl), (bridge cfg Tid proxy).Run trace s →
      ∀ t mode target, (s.threads t).pc = .wait mode target .blocked → s.respEfd = 0 →
        .posted target ∉ trace ∧ s.PostToCome target ∧
        ∃ u sent slot, .published u target sent slot ∈ trace ∧ sent.needsResponse cfg ≠ 0) ∧
    (∀ behaviour : Lts.Behaviour (bridge cfg Tid proxy), Fair behaviour → ∀ t mode target,
      behaviour.LeadsTo
        (fun s => (∃ phase, (s.threads t).pc = .wait mode target phase) ∧ target < s.completedSeq)
        (fun s => (s.threads t).pc = .finish mode)) := by
  refine ⟨fun trace s run t mode target asleep empty => ?_, fun behaviour fair => wait_ends fair⟩
  have coming : s.PostToCome target :=
    (Hears.of_run run t mode target asleep).resolve_left (by omega)
  obtain ⟨u, sent, slot, waits, member⟩ := target_published run asleep
  exact ⟨fun posted => ((Posts.of_run run).made target posted).2 coming, coming,
    u, sent, slot, member, SendMode.needsResponse_ne_zero cfg waits⟩

/-- The two parts at a sleeping thread whose command the proxy has not taken
yet, and in a fair execution of one call. -/
theorem no_lost_response_one_call :
    (∃ trace, ∃ s : State .default Unit Unit,
      (bridge .default Unit (.uniform (.constant 7))).Run trace s ∧
      (s.threads ()).pc = .wait .call 0 .blocked ∧ s.respEfd = 0 ∧
      .posted 0 ∉ trace ∧ s.PostToCome 0) ∧
    ∃ behaviour : Lts.Behaviour (bridge .default Unit (.uniform (.constant 7))), Fair behaviour ∧
      ∃ start, ((∃ phase, ((behaviour.state start).threads ()).pc = .wait .call 0 phase) ∧
          0 < (behaviour.state start).completedSeq) ∧
        ∃ instant, start ≤ instant ∧ ((behaviour.state instant).threads ()).pc = .finish .call := by
  have run : (bridge .default Unit (.uniform (.constant 7))).Run [] (.initial .default 1 ()) :=
    .start ⟨1, (), rfl⟩
  have run := run.step (.lock (t := ()) rfl rfl)
  have run := run.step (.begin (t := ()) rfl rfl)
  have run := run.step (.publish (t := ()) .call rfl)
  have run := run.step (.loadWaiting (t := ()) rfl)
  constructor
  · have run := run.step (.waitMiss (t := ()) true rfl nofun (by decide))
    have run := run.step (.waitMiss (t := ()) true rfl nofun (by decide))
    have run := run.step (.waitMiss (t := ()) true rfl nofun (by decide))
    obtain ⟨unposted, coming, -⟩ := no_lost_response.1 _ _ run () .call 0 rfl rfl
    exact ⟨_, _, run, rfl, rfl, unposted, coming⟩
  · have run := run.step (.load rfl)
    have run := run.step (.dispatch rfl)
    have run := run.step (.release rfl)
    have run := run.step (.complete rfl)
    have run := run.step (.post rfl)
    have run := run.step (.load rfl)
    have run := run.step (.spin true rfl)
    have run := run.step (.setWaiting rfl)
    have run := run.step (.recheck rfl)
    obtain ⟨trace, s, run, waiting, done, asleep, empty⟩ :
        ∃ trace, ∃ s : State .default Unit Unit,
          (bridge .default Unit (.uniform (.constant 7))).Run trace s ∧
          (s.threads ()).pc = .wait .call 0 .enter ∧ 0 < s.completedSeq ∧
          s.proxyPc = .blocked ∧ s.reqEfd = 0 := ⟨_, _, run, rfl, by decide, rfl, rfl⟩
    -- The call returns, and its entry point reads the slot for ever after.
    let finished := s.setPc () (.finish .call)
    let copied := finished.copyReply ()
    let final := copied.release () .call
    have late : (final.threads ()).pc = .late := by rw [State.release_self]; rfl
    let states : Nat → State .default Unit Unit
      | 0 => s
      | 1 => finished
      | 2 => copied
      | _ + 3 => final
    let labels : Nat → Option (Event Unit Unit)
      | 0 => some (.quiet (some ()))
      | 1 => some (.quiet (some ()))
      | 2 => some (.returned () (copied.threads ()).curSeq .call
          (finished.slots (finished.curIndex ())).result)
      | _ + 3 => some (.readSlot () (final.threads ()).curSeq (final.slots (final.curIndex ())))
    obtain ⟨behaviour, offset, follows⟩ :=
      Lts.Behaviour.exists_of_run run states labels rfl fun
        | 0 => .waitDone waiting nofun done
        | 1 => .copyReply (by rw [State.setPc_self])
        | 2 => .unlock (by rw [State.copyReply_self])
        | _ + 3 => .readSlot late
    have fair : Fair behaviour := by
      constructor
      case proxy =>
        intro start enabled
        obtain ⟨e, next, acts, taken⟩ := enabled (offset + (start + 3)) (by omega)
        rw [(follows (start + 3)).1] at taken
        cases taken with
        | wake here ready => exact absurd ready (by rw [show final.reqEfd = 0 from empty]; omega)
        | load here | spin _ here | setWaiting here | recheck here | clearWaiting here
        | dispatch here | release here | complete here | post here =>
            rw [show final.proxyPc = .blocked from asleep] at here
            cases here
        | _ => cases acts
      case thread =>
        intro t start enabled
        exact ⟨offset + (start + 3), by omega, _, (follows (start + 3)).2, rfl⟩
    have here : behaviour.state offset = s := (follows 0).1
    have waits : (∃ phase, ((behaviour.state offset).threads ()).pc = .wait .call 0 phase) ∧
        0 < (behaviour.state offset).completedSeq := by
      rw [here]
      exact ⟨⟨.enter, waiting⟩, done⟩
    exact ⟨behaviour, fair, offset, waits,
      no_lost_response.2 behaviour fair () .call 0 offset waits⟩

end GlesBridge.Ring
