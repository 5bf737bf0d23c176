import GlesBridge.Ring.Response

namespace GlesBridge.Ring

open GlesBridge.Data GlesBridge.Systems

/-! Nothing waits for ever: not a command for the proxy, not a thread for a slot,
not a send for its end. -/

variable {cfg : Config} {Tid Gl : Type} [DecidableEq Tid] {proxy : Dispatcher Gl}
  {s s' : State cfg Tid Gl} {e : Event Tid Gl} {trace : List (Event Tid Gl)} {t : Tid}
  {mode : SendMode} {target seq : Nat}

/-! ## The proxy -/

theorem Step.publishedSeq_le (taken : Step proxy s e s') (counters : Counters s) :
    s.publishedSeq ≤ s'.publishedSeq := by
  cases taken with
  | @publish t mode here =>
      show s.publishedSeq ≤ (s.threads t).curSeq + 1
      have := (counters.filling t (by rw [here]; rfl)).2
      omega
  | finishSwap =>
      simp only [State.finishSwap]
      split <;> exact Nat.le_refl _
  | _ => exact Nat.le_refl _

/-- The proxy has completed the commands before `seq`, which waits. -/
def Behind (seq : Nat) (s : State cfg Tid Gl) : Prop := s.completed = seq ∧ seq < s.publishedSeq

omit [DecidableEq Tid] in
theorem Behind.or_completed (least : seq ≤ s.completed) (published : seq < s.publishedSeq) :
    Behind seq s ∨ seq < s.completed := by
  rcases Nat.lt_or_eq_of_le least with past | now
  · exact .inr past
  · exact .inl ⟨now.symm, published⟩

/-- The steps that an awake proxy needs for a command that waits. -/
def ProxyPc.distance : ProxyPc → Nat
  | .complete => 0
  | .release => 1
  | .dispatch => 2
  | .load => 3
  | .spin | .clearWaiting | .post => 4
  | .recheck => 5
  | .setWaiting => 6
  | .blocked => 7

/-- A step of an awake proxy, with a command that waits. -/
theorem Step.closer (taken : Step proxy s e s') (acts : e.actor = none) (behind : Behind seq s)
    (awake : s.proxyPc ≠ .blocked) :
    (Behind seq s' ∧ s'.proxyPc ≠ .blocked) ∧ s'.proxyPc.distance < s.proxyPc.distance ∨
      seq < s'.completed := by
  obtain ⟨rfl, waits⟩ := behind
  have go {next : State cfg Tid Gl} (pc : ProxyPc) (goes : next.proxyPc = pc)
      (completed : next.completed = s.completed) (published : next.publishedSeq = s.publishedSeq)
      (up : pc ≠ .blocked) (less : pc.distance < s.proxyPc.distance) :
      (Behind s.completed next ∧ next.proxyPc ≠ .blocked) ∧
        next.proxyPc.distance < s.proxyPc.distance ∨ s.completed < next.completed := by
    rw [goes]
    exact .inl ⟨⟨⟨completed, published ▸ waits⟩, up⟩, less⟩
  cases taken with
  | load here => exact go .dispatch (if_pos waits) rfl rfl nofun (by rw [here]; decide)
  | spin _ here => exact go .load (if_pos waits) rfl rfl nofun (by rw [here]; decide)
  | recheck here => exact go .clearWaiting (if_pos waits) rfl rfl nofun (by rw [here]; decide)
  | setWaiting here => exact go .recheck rfl rfl rfl nofun (by rw [here]; decide)
  | clearWaiting here | post here => exact go .load rfl rfl rfl nofun (by rw [here]; decide)
  | dispatch here => exact go .release rfl rfl rfl nofun (by rw [here]; decide)
  | release here => exact go .complete rfl rfl rfl nofun (by rw [here]; decide)
  | complete => exact .inr (Nat.lt_succ_self _)
  | wake here => exact absurd here awake
  | _ => cases acts

/-- An awake proxy can always go on. -/
theorem proxy_enabled (proxy : Dispatcher Gl) (awake : s.proxyPc ≠ .blocked) :
    ∃ e next, e.actor = none ∧ Step proxy s e next := by
  cases here : s.proxyPc with
  | load => exact ⟨_, _, rfl, .load here⟩
  | spin => exact ⟨_, _, rfl, .spin true here⟩
  | setWaiting => exact ⟨_, _, rfl, .setWaiting here⟩
  | recheck => exact ⟨_, _, rfl, .recheck here⟩
  | blocked => exact absurd here awake
  | clearWaiting => exact ⟨_, _, rfl, .clearWaiting here⟩
  | dispatch => exact ⟨_, _, rfl, .dispatch here⟩
  | release => exact ⟨_, _, rfl, .release here⟩
  | complete => exact ⟨_, _, rfl, .complete here⟩
  | post => exact ⟨_, _, rfl, .post here⟩

section Progress

variable {behaviour : Lts.Behaviour (bridge cfg Tid proxy)}

theorem completes_of_awake (fair : Fair behaviour) (seq : Nat) :
    behaviour.LeadsTo (fun s => Behind seq s ∧ s.proxyPc ≠ .blocked)
      (fun s => seq < s.completed) := by
  apply Lts.Behaviour.leadsTo_of_falling fair.proxy fun s => s.proxyPc.distance
  case lasts =>
    intro trace s e s' run ⟨behind, awake⟩ taken
    cases acts : e.actor with
    | none =>
        rcases taken.closer acts behind awake with ⟨still, less⟩ | done
        · exact .inl ⟨still, less.le⟩
        · exact .inr done
    | some t =>
        have stub := taken.stub acts
        have grows := taken.publishedSeq_le (.of_run run)
        refine .inl ⟨⟨⟨stub.completed.trans behind.1, behind.2.trans_le grows⟩, ?_⟩, ?_⟩
        · rw [stub.proxyPc]
          exact awake
        · rw [stub.proxyPc]
  case enabled => exact fun trace s run ⟨behind, awake⟩ => proxy_enabled proxy awake
  case progress =>
    exact fun trace s e s' run ⟨behind, awake⟩ taken acts => taken.closer acts behind awake

/-- The next command is completed, whether the proxy sleeps or not. -/
theorem next_completes (fair : Fair behaviour) (seq : Nat) :
    behaviour.LeadsTo (Behind seq) (fun s => seq < s.completed) := by
  have keeps : ∀ trace (s : State cfg Tid Gl) e s', (bridge cfg Tid proxy).Run trace s →
      Behind seq s → Step proxy s e s' → Behind seq s' ∨ seq < s'.completed := by
    intro trace s e s' run ⟨now, waits⟩ taken
    have counters := Counters.of_run run
    have grows := taken.completedSeq_le counters
    rw [← counters.proxyCopy, ← (Counters.of_run (run.step taken)).proxyCopy] at grows
    exact Behind.or_completed (now ▸ grows) (waits.trans_le (taken.publishedSeq_le counters))
  have roused := (proxy_wakes fair).holding keeps
  refine .trans (.of_imp fun trace s run behind => ?_)
    ((completes_of_awake fair seq).or (roused.trans
      (((Lts.Behaviour.LeadsTo.of_imp fun _ _ _ awake => awake.symm).trans
        (completes_of_awake fair seq)).or (.of_imp fun _ _ _ done => done))))
  by_cases asleep : s.proxyPc = .blocked
  · exact .inr ⟨⟨asleep, behind.1 ▸ behind.2⟩, behind⟩
  · exact .inl ⟨behind, asleep⟩

/-- Every published command is completed. -/
theorem command_completes (fair : Fair behaviour) (seq : Nat) :
    behaviour.LeadsTo (fun s => seq < s.publishedSeq) (fun s => seq < s.completedSeq) := by
  refine .of_measure (fun s => seq + 1 - s.completed) fun rank => ?_
  have published : ∀ trace (s : State cfg Tid Gl) e s', (bridge cfg Tid proxy).Run trace s →
      seq < s.publishedSeq → Step proxy s e s' → seq < s'.publishedSeq ∨ False :=
    fun trace s e s' run before taken =>
      .inl (before.trans_le (taken.publishedSeq_le (.of_run run)))
  have one (before : Nat) := (next_completes fair before).holding published
  have each (before : { before // seq + 1 - before = rank ∧ before ≤ seq }) :
      behaviour.LeadsTo (fun s => Behind before s ∧ seq < s.publishedSeq)
        (fun s => (seq < s.publishedSeq ∧ seq + 1 - s.completed < rank) ∨ seq < s.completedSeq) := by
    obtain ⟨before, rfl, past⟩ := before
    refine (one before).trans (.of_imp fun trace s run reached => ?_)
    obtain ⟨less, still⟩ := reached.resolve_right id
    exact .inl ⟨still, by omega⟩
  refine .trans (.of_imp fun trace s run ⟨waits, same⟩ => ?_)
    ((Lts.Behaviour.LeadsTo.of_imp fun _ _ _ done => .inr done).or (.exists each))
  have counters := Counters.of_run run
  by_cases done : seq < s.completedSeq
  · exact .inl done
  · rw [← counters.proxyCopy] at done
    have waiting : Behind s.completed s := ⟨rfl, by omega⟩
    exact .inr ⟨⟨s.completed, same, by omega⟩, waiting, waits⟩

end Progress

/-! ## A slot for a thread -/

/-- In the loop of `ring_reserve_slot`, for the command `seq`. -/
def Reserving (t : Tid) (seq : Nat) (s : State cfg Tid Gl) : Prop :=
  (s.threads t).pc = .reserve ∧ s.localSeq = seq

theorem Step.of_reserve (taken : Step proxy s e s') (acts : e.actor = some t)
    (here : (s.threads t).pc = .reserve) :
    (s' = s ∧ s.hasRoom = false) ∨ ((s'.threads t).pc = .fill ∧ s.hasRoom = true) := by
  cases taken with
  | ringFull other full => exact .inl ⟨rfl, full⟩
  | begin other room =>
      cases acts
      exact .inr ⟨by rw [State.bridgeBegin, State.setThread_self], room⟩
  | load | spin | setWaiting | recheck | wake | clearWaiting | dispatch | release | complete
  | post => cases acts
  | selectCtx _ other =>
      cases acts
      rw [here] at other
      rcases other with other | other <;> cases other
  | lock other | fill _ other | dataEnter _ _ other | dataAbort _ other | dataFull other
  | dataWrite other | publish _ other | loadWaiting other | postReq other | waitDone other
  | waitMiss _ other | efdWait other | copyReply other | finishSwap other | unlock other
  | readSlot other | readData other | readDataOffset _ other | leave other =>
      cases acts
      rw [here] at other
      cases other

/-- The thread owns the lock, so the number of its command stays. -/
theorem Reserving.step (reserving : Reserving t seq s) (counters : Counters s)
    (taken : Step proxy s e s') : Reserving t seq s' ∨ (s'.threads t).pc = .fill := by
  obtain ⟨here, rfl⟩ := reserving
  by_cases acts : e.actor = some t
  · rcases taken.of_reserve acts here with ⟨same, -⟩ | ⟨filling, -⟩
    · rw [same]
      exact .inl ⟨here, rfl⟩
    · exact .inr filling
  · refine .inl ⟨by rw [taken.threads_of_ne acts, here], ?_⟩
    cases taken with
    | @begin u other =>
        have inside : (s.threads t).pc.stage ≠ .outside := by simp [here, Pc.stage]
        have active : (s.threads u).pc.stage ≠ .outside := by simp [other, Pc.stage]
        exact absurd (congrArg some (counters.unique inside active)) acts
    | finishSwap =>
        simp only [State.finishSwap]
        split <;> rfl
    | _ => rfl

section Slots

variable {behaviour : Lts.Behaviour (bridge cfg Tid proxy)}

theorem begins_of_room (fair : Fair behaviour) (t : Tid) (seq : Nat) :
    behaviour.LeadsTo (fun s => seq < s.completedSeq + cfg.ringSlots ∧ Reserving t seq s)
      (fun s => (s.threads t).pc = .fill) := by
  have room {s : State cfg Tid Gl} (near : seq < s.completedSeq + cfg.ringSlots)
      (own : s.localSeq = seq) : s.hasRoom = true := by
    have := cfg.ringSlots_pos
    unfold State.hasRoom
    rw [own, decide_eq_true_eq]
    omega
  apply Lts.Behaviour.leadsTo_of_fair (fair.thread t)
  case lasts =>
    intro trace s e s' run ⟨near, reserving⟩ taken
    have grows := taken.completedSeq_le (.of_run run)
    exact (reserving.step (.of_run run) taken).imp_left fun still => ⟨by omega, still⟩
  case enabled =>
    exact fun trace s run ⟨near, here, own⟩ => ⟨_, _, rfl, .begin here (room near own)⟩
  case progress =>
    intro trace s e s' run ⟨near, here, own⟩ taken acts
    rcases taken.of_reserve acts here with ⟨-, full⟩ | ⟨filling, -⟩
    · rw [room near own] at full
      cases full
    · exact filling

/-- A full ring makes room: `ring_reserve_slot` returns. -/
theorem reserve_ends (fair : Fair behaviour) (t : Tid) :
    behaviour.LeadsTo (fun s => (s.threads t).pc = .reserve) (fun s => (s.threads t).pc = .fill) := by
  have each (seq : Nat) : behaviour.LeadsTo (Reserving t seq) (fun s => (s.threads t).pc = .fill) := by
    have drains := (command_completes fair (seq - cfg.ringSlots)).holding
      fun trace (s : State cfg Tid Gl) e s' run (reserving : Reserving t seq s) taken =>
        reserving.step (.of_run run) taken
    have filled : behaviour.LeadsTo (fun s => (s.threads t).pc = .fill)
        (fun s => (s.threads t).pc = .fill) := .of_imp fun _ _ _ filling => filling
    have roomy := (begins_of_room fair t seq)
    refine .trans (.of_imp fun trace s run reserving => ?_)
      (roomy.or (drains.trans ((Lts.Behaviour.LeadsTo.trans (.of_imp ?_) roomy).or filled)))
    · have counters := Counters.of_run run
      have inside : (s.threads t).pc.stage ≠ .outside := by simp [reserving.1, Pc.stage]
      have settled := counters.settled_of_owner inside (by simp [reserving.1, Pc.stage])
      have own := reserving.2
      have := counters.behind
      have := counters.proxyCopy
      have := cfg.ringSlots_pos
      by_cases near : seq < s.completedSeq + cfg.ringSlots
      · exact .inl ⟨near, reserving⟩
      · exact .inr ⟨by omega, reserving⟩
    · intro trace s run reached
      obtain ⟨done, reserving⟩ := reached
      exact ⟨by omega, reserving⟩
  refine .trans (.of_imp fun _ s _ here => ?_) (.exists each)
  exact ⟨s.localSeq, here, rfl⟩

end Slots

/-! ## The end of a send -/

section Sends

variable {behaviour : Lts.Behaviour (bridge cfg Tid proxy)}

/-- A wait ends, whatever it waits for. -/
theorem wait_returns (fair : Fair behaviour) (t : Tid) (mode : SendMode) (target : Nat) :
    behaviour.LeadsTo (fun s => ∃ phase, (s.threads t).pc = .wait mode target phase)
      (fun s => (s.threads t).pc = .finish mode) := by
  have lasts : ∀ trace (s : State cfg Tid Gl) e s', (bridge cfg Tid proxy).Run trace s →
      (∃ phase, (s.threads t).pc = .wait mode target phase) → Step proxy s e s' →
      (∃ phase, (s'.threads t).pc = .wait mode target phase) ∨ (s'.threads t).pc = .finish mode := by
    intro trace s e s' run ⟨phase, here⟩ taken
    by_cases acts : e.actor = some t
    · cases taken.of_sending acts (by rw [here]; rfl) with
      | waitDone other =>
          rw [here] at other
          cases other
          exact .inr (by rw [State.setPc_self])
      | waitMiss _ other =>
          rw [here] at other
          cases other
          exact .inl ⟨_, by rw [State.setPc_self]⟩
      | efdWait other =>
          rw [here] at other
          cases other
          exact .inl ⟨_, by rw [State.setPc_self]⟩
      | publish _ other | loadWaiting other | postReq other | copyReply other | finishSwap other
      | unlock other =>
          rw [here] at other
          cases other
    · exact .inl ⟨phase, by rw [taken.threads_of_ne acts, here]⟩
  have completed := (command_completes fair target).holding lasts
  refine .trans (.of_imp fun trace s run waiting => ?_) (completed.trans
    ((Lts.Behaviour.LeadsTo.trans (.of_imp fun _ _ _ reached => reached.symm)
      (wait_ends fair t mode target)).or (.of_imp fun _ _ _ finished => finished)))
  obtain ⟨phase, here⟩ := waiting
  obtain ⟨u, sent, slot, -, member⟩ := target_published run here
  exact ⟨seq_lt_published run member, phase, here⟩

/-- The steps that a send has left, where a whole wait counts as one. -/
def Pc.left : Pc → Nat
  | .loadWaiting _ => 4
  | .postReq _ => 3
  | .wait .. => 2
  | .finish _ => 1
  | _ => 0

def Pc.waiting : Pc → Bool
  | .wait .. => true
  | _ => false

omit [DecidableEq Tid] in
theorem State.afterPublish_left (s : State cfg Tid Gl) (t : Tid) (mode : SendMode) :
    (s.afterPublish t mode).left ≤ 2 := by
  unfold State.afterPublish
  cases mode with
  | void => exact Nat.zero_le _
  | call => exact Nat.le_refl _
  | swap =>
      simp only
      split_ifs <;> simp [Pc.left]

/-- A thread in a send, but not in its wait. -/
def Hurrying (t : Tid) (s : State cfg Tid Gl) : Prop :=
  (s.threads t).pc.stage = .sending ∧ (s.threads t).pc.waiting = false

theorem Hurrying.step (hurrying : Hurrying t s) (taken : Step proxy s e s')
    (acts : e.actor = some t) :
    (s'.threads t).pc.stage = .sending ∧ (s'.threads t).pc.left < (s.threads t).pc.left ∨
      (s'.threads t).pc.stage = .outside := by
  have published (mode : SendMode) := s.afterPublish_left t mode
  obtain ⟨sending, active⟩ := hurrying
  cases taken.of_sending acts sending with
  | publish _ here =>
      rw [here] at sending
      cases sending
  | @loadWaiting mode here =>
      left
      rw [State.setPc_self, here]
      cases s.consumerWaiting with
      | true => exact ⟨rfl, show 3 < 4 by decide⟩
      | false => exact ⟨s.afterPublish_stage t mode, (published mode).trans_lt (show 2 < 4 by decide)⟩
  | @postReq mode here =>
      left
      rw [State.setPc_self, here]
      exact ⟨s.afterPublish_stage t mode, (published mode).trans_lt (show 2 < 3 by decide)⟩
  | waitDone here | waitMiss _ here | efdWait here =>
      rw [here] at active
      cases active
  | copyReply here =>
      left
      rw [State.copyReply_self, here]
      exact ⟨rfl, Nat.zero_lt_one⟩
  | finishSwap here =>
      left
      obtain ⟨value, threads⟩ := s.finishSwap_threads t
      rw [threads, Function.update_self, here]
      exact ⟨rfl, Nat.zero_lt_one⟩
  | unlock =>
      right
      rw [State.release_self]
      simp only
      split_ifs <;> rfl

theorem Hurrying.enabled (hurrying : Hurrying t s) (run : (bridge cfg Tid proxy).Run trace s) :
    ∃ e next, e.actor = some t ∧ Step proxy s e next := by
  obtain ⟨sending, active⟩ := hurrying
  cases here : (s.threads t).pc with
  | loadWaiting => exact ⟨_, _, rfl, .loadWaiting here⟩
  | postReq => exact ⟨_, _, rfl, .postReq here⟩
  | unlock => exact ⟨_, _, rfl, .unlock here⟩
  | finish mode =>
      have waited := ((Sent.of_run run t).awaited mode here).1
      cases mode with
      | void => exact absurd rfl waited
      | call => exact ⟨_, _, rfl, .copyReply here⟩
      | swap => exact ⟨_, _, rfl, .finishSwap here⟩
  | wait =>
      rw [here] at active
      cases active
  | idle | late | reserve | fill | alloc | aborted =>
      rw [here] at sending
      cases sending

theorem hurries (fair : Fair behaviour) (t : Tid) (rank : Nat) :
    behaviour.LeadsTo (fun s => Hurrying t s ∧ (s.threads t).pc.left = rank)
      (fun s => ((s.threads t).pc.stage = .sending ∧ (s.threads t).pc.left < rank) ∨
        (s.threads t).pc.stage = .outside) := by
  apply Lts.Behaviour.leadsTo_of_fair (fair.thread t)
  case lasts =>
    intro trace s e s' run ⟨hurrying, same⟩ taken
    by_cases acts : e.actor = some t
    · exact .inr (same ▸ hurrying.step taken acts)
    · left
      rw [Hurrying, taken.threads_of_ne acts]
      exact ⟨hurrying, same⟩
  case enabled => exact fun trace s run ⟨hurrying, same⟩ => hurrying.enabled run
  case progress =>
    exact fun trace s e s' run ⟨hurrying, same⟩ taken acts => same ▸ hurrying.step taken acts

/-- Every send comes to its end and releases the lock. -/
theorem send_ends (fair : Fair behaviour) (t : Tid) :
    behaviour.LeadsTo (fun s => (s.threads t).pc.stage = .sending)
      (fun s => (s.threads t).pc.stage = .outside) := by
  refine .of_measure (fun s => (s.threads t).pc.left) fun rank => ?_
  have waits (call : { call : SendMode × Nat // 2 = rank }) :
      behaviour.LeadsTo (fun s => ∃ phase, (s.threads t).pc = .wait call.1.1 call.1.2 phase)
        (fun s => ((s.threads t).pc.stage = .sending ∧ (s.threads t).pc.left < rank) ∨
          (s.threads t).pc.stage = .outside) := by
    obtain ⟨⟨mode, target⟩, rfl⟩ := call
    refine (wait_returns fair t mode target).trans (.of_imp fun trace s run finished => .inl ?_)
    rw [finished]
    exact ⟨rfl, Nat.one_lt_two⟩
  refine .trans (.of_imp fun trace s run ⟨sending, same⟩ => ?_)
    ((hurries fair t rank).or (.exists waits))
  cases active : (s.threads t).pc.waiting with
  | false => exact .inl ⟨⟨sending, active⟩, same⟩
  | true =>
      cases here : (s.threads t).pc with
      | wait mode target phase =>
          rw [here] at same
          exact .inr ⟨⟨⟨mode, target⟩, same⟩, phase, rfl⟩
      | idle | late | reserve | fill | alloc | aborted | loadWaiting | postReq | finish | unlock =>
          rw [here] at active
          cases active

end Sends

/-- In a fair execution every published command is completed, every thread that has
the lock gets its slot, and every send returns. -/
theorem no_call_hangs {behaviour : Lts.Behaviour (bridge cfg Tid proxy)} (fair : Fair behaviour) :
    (∀ seq, behaviour.LeadsTo (fun s => seq < s.publishedSeq) (fun s => seq < s.completedSeq)) ∧
      (∀ t, behaviour.LeadsTo (fun s => (s.threads t).pc = .reserve)
        (fun s => (s.threads t).pc = .fill)) ∧
      ∀ t, behaviour.LeadsTo (fun s => (s.threads t).pc.stage = .sending)
        (fun s => (s.threads t).pc.stage = .outside) :=
  ⟨command_completes fair, reserve_ends fair, send_ends fair⟩

/-- One call, after which its thread reads the slot for ever and the proxy sleeps. -/
theorem no_call_hangs_one_call :
    ∃ behaviour : Lts.Behaviour (bridge .default Unit (.uniform (.constant 7))), Fair behaviour ∧
      ∃ start, ((behaviour.state start).threads ()).pc = .reserve ∧
        ∃ filled, start ≤ filled ∧ ((behaviour.state filled).threads ()).pc = .fill := by
  have run : (bridge .default Unit (.uniform (.constant 7))).Run [] (.initial .default 1 ()) :=
    .start ⟨1, (), rfl⟩
  have run := run.step (.lock (t := ()) rfl rfl)
  obtain ⟨trace, s, rest, final, run, path, here, late, asleep, empty⟩ :
      ∃ trace, ∃ s : State .default Unit Unit, ∃ rest, ∃ final : State .default Unit Unit,
        (bridge .default Unit (.uniform (.constant 7))).Run trace s ∧
        (bridge .default Unit (.uniform (.constant 7))).Path s rest final ∧
        (s.threads ()).pc = .reserve ∧ (final.threads ()).pc = .late ∧
        final.proxyPc = .blocked ∧ final.reqEfd = 0 := by
    have path : (bridge .default Unit (.uniform (.constant 7))).Path
        ((State.initial .default 1 ()).acquire ()) [] ((State.initial .default 1 ()).acquire ()) :=
      .refl
    have path := path.step (.begin (t := ()) rfl rfl)
    have path := path.step (.publish (t := ()) .call rfl)
    have path := path.step (.loadWaiting (t := ()) rfl)
    have path := path.step (.load rfl)
    have path := path.step (.dispatch rfl)
    have path := path.step (.release rfl)
    have path := path.step (.complete rfl)
    have path := path.step (.post rfl)
    have path := path.step (.load rfl)
    have path := path.step (.spin true rfl)
    have path := path.step (.setWaiting rfl)
    have path := path.step (.recheck rfl)
    have path := path.step (.waitDone (t := ()) rfl nofun (by decide))
    have path := path.step (.copyReply (t := ()) rfl)
    have path := path.step (.unlock (t := ()) rfl)
    exact ⟨_, _, _, _, run, path, rfl, rfl, rfl, rfl⟩
  obtain ⟨behaviour, begins, offset, first, -, follows⟩ :=
    Lts.Behaviour.exists_of_path run path (fun _ => final)
      (fun _ => some (.readSlot () (final.threads ()).curSeq (final.slots (final.curIndex ()))))
      rfl fun _ => .readSlot late
  have fair : Fair behaviour := by
    constructor
    case proxy =>
      intro start enabled
      obtain ⟨e, next, acts, taken⟩ := enabled (offset + start) (by omega)
      rw [(follows start).1] at taken
      cases taken with
      | wake here ready => exact absurd ready (by rw [empty]; omega)
      | load here | spin _ here | setWaiting here | recheck here | clearWaiting here
      | dispatch here | release here | complete here | post here =>
          rw [asleep] at here
          cases here
      | _ => cases acts
    case thread =>
      intro t start enabled
      exact ⟨offset + start, by omega, _, (follows start).2, rfl⟩
  have reserving : ((behaviour.state begins).threads ()).pc = .reserve := by rw [first, here]
  exact ⟨behaviour, fair, begins, reserving, (no_call_hangs fair).2.1 () begins reserving⟩

end GlesBridge.Ring
