import GlesBridge.Ring.Arena

namespace GlesBridge.Ring

open GlesBridge.Data GlesBridge.Systems

/-! When the loop of `ring_data_alloc` ends. -/

variable {cfg : Config} {Tid Gl : Type} [DecidableEq Tid] {proxy : Dispatcher Gl}
  {s s' : State cfg Tid Gl} {e : Event Tid Gl} {trace : List (Event Tid Gl)} {t : Tid}
  {size : Nat} {src : Option Bytes}

/-- The bytes by which the head moves for a request, the end of the arena that it
skips included. -/
def allocationNeed (head size : Nat) : Nat :=
  let spaceToEnd := glesBridgeDataSize - head % glesBridgeDataSize
  if alignUp size ≤ spaceToEnd then alignUp size else spaceToEnd + alignUp size

theorem ringDataAlloc_eq_none_iff {head tail : Nat} (order : tail ≤ head) :
    ringDataAlloc head tail size = none ↔
      glesBridgeDataSize < head - tail + allocationNeed head size := by
  simp only [ringDataAlloc, allocationNeed]
  split_ifs <;> simp <;> omega

/-! ## Where the current command began -/

/-- A command that is being filled in began at the head at which the ranges of
all earlier commands end. -/
def Based (trace : List (Event Tid Gl)) (s : State cfg Tid Gl) (t : Tid) : Prop :=
  (s.threads t).pc.stage = .filling → ∃ base, .begun t (s.threads t).curSeq base ∈ trace ∧
    Block.Laid s.dataTail (blocksIn trace s.released s.publishedSeq) base

namespace Based

omit [DecidableEq Tid] in
theorem keep (based : Based trace s t) (stage : (s'.threads t).pc.stage = .filling →
      (s.threads t).pc.stage = .filling ∧ (s'.threads t).curSeq = (s.threads t).curSeq)
    (dataTail : s'.dataTail = s.dataTail) (released : s'.released = s.released)
    (published : s'.publishedSeq = s.publishedSeq)
    (earlier : ∀ seq, seq < s.publishedSeq → e.allocation? seq = none) :
    Based (trace ++ [e]) s' t := by
  intro filling
  obtain ⟨before, curSeq⟩ := stage filling
  obtain ⟨base, begun, laid⟩ := based before
  refine ⟨base, ?_, ?_⟩
  · rw [curSeq]
    exact List.mem_append_left _ begun
  · rw [dataTail, released, published, blocksIn_congr fun seq _ below => ?_]
    · exact laid
    · simp [allocations_snoc, earlier seq below]

/-- The stage of `t` after a step that gives one thread a new record. -/
theorem stage_of_update {u : Tid} {thread : Thread}
    (threads : s'.threads = Function.update s.threads u thread)
    (own : thread.pc.stage = .filling → (s.threads u).pc.stage = .filling ∧
      thread.curSeq = (s.threads u).curSeq) (filling : (s'.threads t).pc.stage = .filling) :
    (s.threads t).pc.stage = .filling ∧ (s'.threads t).curSeq = (s.threads t).curSeq := by
  by_cases same : t = u
  · subst same
    rw [threads, Function.update_self] at filling ⊢
    exact own filling
  · rw [threads, Function.update_of_ne same] at filling ⊢
    exact ⟨filling, rfl⟩

/-- A command begins when every block of the arena belongs to a published one. -/
theorem begin (holds : ArenaLaid trace s) (counters : Counters s)
    (reserving : (s.threads t).pc.stage = .reserving) :
    Based (trace ++ [.begun t s.localSeq s.localDataHead]) (s.bridgeBegin t) t := by
  intro _
  have inside : (s.threads t).pc.stage ≠ .outside := by simp [reserving]
  have settled := counters.settled_of_owner inside (by simp [reserving])
  have self : ((s.bridgeBegin t).threads t).curSeq = s.localSeq := by
    rw [State.bridgeBegin, State.setThread_self]
  refine ⟨s.localDataHead, ?_, ?_⟩
  · rw [self]
    exact List.mem_append_right _ (List.mem_singleton_self _)
  · show Block.Laid s.dataTail (blocksIn _ s.released s.publishedSeq) s.localDataHead
    rw [blocksIn_congr fun seq _ _ => ?_, ← settled]
    · exact holds.laid
    · simp [allocations_snoc, Event.allocation?]

omit [DecidableEq Tid] in
/-- The proxy gives back the first block of those that lead to the base. -/
theorem release (based : Based trace s t) (holds : ArenaLaid trace s) (counters : Counters s)
    (here : s.proxyPc = .release) :
    Based (trace ++ [.quiet none]) s.releaseData t := by
  intro filling
  have busy := counters.busy (.inr (by rw [here]; rfl))
  have released : s.released = s.completed := by simp only [State.released, here]; rfl
  obtain ⟨base, begun, laid⟩ := based filling
  refine ⟨base, List.mem_append_left _ begun, ?_⟩
  rw [released, blocksIn_cons busy] at laid
  show Block.Laid _ (blocksIn _ (s.completed + 1) s.publishedSeq) base
  rw [blocksIn_congr fun seq _ _ => ?_]
  · exact (holds.giveBack_tail counters here).drop laid
  · simp [allocations_snoc, Event.allocation?]

theorem step (run : (bridge cfg Tid proxy).Run trace s) (based : Based trace s t)
    (taken : Step proxy s e s') : Based (trace ++ [e]) s' t := by
  have counters := Counters.of_run run
  have holds := ArenaLaid.of_run run
  cases taken.move with
  | keep plain frame =>
      exact based.keep (fun filling => ⟨frame.stage t ▸ filling, frame.curSeq t⟩) frame.dataTail
        (by simp only [State.released, frame.completed, frame.released]) frame.publishedSeq
        (fun seq _ => Event.allocation?_of_plain plain seq)
  | acquire =>
      exact based.keep (stage_of_update rfl fun filling => by cases filling) rfl rfl rfl
        (fun _ _ => rfl)
  | @begin u reserving =>
      by_cases same : t = u
      · subst same
        exact begin holds counters reserving
      · refine based.keep (fun filling => ?_) rfl rfl rfl (fun _ _ => rfl)
        rw [taken.threads_of_apart rfl same] at filling ⊢
        exact ⟨filling, rfl⟩
  | fill => exact based.keep (fun filling => ⟨filling, rfl⟩) rfl rfl rfl (fun _ _ => rfl)
  | @dataWrite u size src offset newHead filling =>
      have current := (counters.filling u filling).2
      refine based.keep (stage_of_update rfl fun _ => ⟨filling, rfl⟩) rfl rfl rfl fun seq below => ?_
      simp only [Event.allocation?]
      exact if_neg (by omega)
  | @publish u mode filling =>
      intro later
      by_cases same : t = u
      · subst same
        rw [State.publishCur, State.setPc_self] at later
        cases later
      · rw [taken.threads_of_apart rfl same] at later
        exact (same (counters.unique (by simp [filling]) (by simp [later]))).elim
  | @unlock u mode value here =>
      refine based.keep (stage_of_update rfl fun filling => ?_) rfl rfl rfl (fun _ _ => rfl)
      simp only at filling
      split_ifs at filling <;> cases filling
  | dispatch here =>
      exact based.keep (fun filling => ⟨filling, rfl⟩) rfl (by simp only [State.released, here]; rfl)
        rfl (fun _ _ => rfl)
  | complete here =>
      refine based.keep (fun filling => ⟨filling, rfl⟩) rfl ?_ rfl (fun _ _ => rfl)
      simp only [State.released, State.complete, here]
      split_ifs <;> rfl
  | release here => exact based.release holds counters here

theorem of_run (run : (bridge cfg Tid proxy).Run trace s) (t : Tid) : Based trace s t := by
  induction run with
  | start initial =>
      obtain ⟨clientPid, gl, rfl⟩ := initial
      intro filling
      cases filling
  | step run taken based => exact based.step run taken

/-- Once every published command is completed, the tail is where the current
command began. -/
theorem drained (run : (bridge cfg Tid proxy).Run trace s)
    (filling : (s.threads t).pc.stage = .filling) (all : s.completed = s.publishedSeq) :
    .begun t (s.threads t).curSeq s.dataTail ∈ trace := by
  obtain ⟨base, begun, laid⟩ := of_run run t filling
  have counters := Counters.of_run run
  have released := counters.released_le
  have behind : s.completed ≤ s.released := Nat.le_add_right ..
  rw [show s.released = s.publishedSeq by omega, blocksIn_self] at laid
  rwa [← show base = s.dataTail from laid]

end Based

/-! ## The loop -/

/-- `t` is in the loop for `size` while every published command is completed. -/
structure Looping (t : Tid) (size : Nat) (src : Option Bytes) (seq head tail : Nat)
    (s : State cfg Tid Gl) : Prop where
  here : (s.threads t).pc = .alloc size src
  seq : (s.threads t).curSeq = seq
  head : s.localDataHead = head
  tail : s.dataTail = tail
  drained : s.completed = s.publishedSeq

namespace Looping

variable {seq head tail : Nat}

/-- The turns of the loop. -/
theorem turn (looping : Looping t size src seq head tail s) (taken : Step proxy s e s')
    (acts : e.actor = some t) :
    (s' = s ∧ e = .quiet (some t) ∧ ringDataAlloc head tail size = none) ∨
      ∃ offset newHead, ringDataAlloc head tail size = some (offset, newHead) ∧
        e = .allocated t seq ⟨offset, size, ⟨newHead - alignUp size, alignUp size⟩⟩ := by
  obtain ⟨here, rfl, rfl, rfl, -⟩ := looping
  cases taken with
  | dataFull other full =>
      cases acts
      rw [here] at other
      cases other
      exact .inl ⟨rfl, rfl, full⟩
  | @dataWrite u _ _ offset newHead other placed =>
      cases acts
      rw [here] at other
      cases other
      exact .inr ⟨offset, newHead, placed, rfl⟩
  | load | spin | setWaiting | recheck | wake | clearWaiting | dispatch | release | complete
  | post => cases acts
  | selectCtx _ other =>
      cases acts
      rw [here] at other
      rcases other with other | other <;> cases other
  | lock other | ringFull other | begin other | fill _ other | dataEnter _ _ other
  | dataAbort _ other | publish _ other | loadWaiting other | postReq other | waitDone other
  | waitMiss _ other | efdWait other | copyReply other | finishSwap other | unlock other
  | readSlot other | readData other | readDataOffset _ other | leave other =>
      cases acts
      rw [here] at other
      cases other

/-- Nobody else moves the head or the tail meanwhile. -/
theorem others (looping : Looping t size src seq head tail s) (counters : Counters s)
    (taken : Step proxy s e s') (acts : e.actor ≠ some t) :
    Looping t size src seq head tail s' := by
  have thread := taken.threads_of_ne acts
  obtain ⟨here, own, top, bottom, drained⟩ := looping
  have inside : (s.threads t).pc.stage ≠ .outside := by simp [here, Pc.stage]
  have alone {u : Tid} (active : (s.threads u).pc.stage ≠ .outside) (same : e.actor = some u) :
      False := acts (same.trans (congrArg some (counters.unique inside active)))
  have busy := counters.busy
  have stays : s'.localDataHead = s.localDataHead ∧ s'.dataTail = s.dataTail ∧
      s'.completed = s.completed ∧ s'.publishedSeq = s.publishedSeq := by
    cases taken.move with
    | keep _ frame =>
        exact ⟨frame.localDataHead, frame.dataTail, frame.completed, frame.publishedSeq⟩
    | acquire => exact ⟨rfl, rfl, rfl, rfl⟩
    | begin active | fill _ active | dataWrite active | publish _ active =>
        exact (alone (by simp [active]) rfl).elim
    | unlock active => exact (alone (by simp [active, Pc.stage]) rfl).elim
    | dispatch at' => exact absurd (busy (.inl at')) (by omega)
    | release at' | complete at' =>
        exact absurd (busy (.inr (by rw [at']; rfl))) (by omega)
  obtain ⟨sameHead, sameTail, sameCompleted, samePublished⟩ := stays
  constructor
  · rw [thread, here]
  · rw [thread, own]
  · rw [sameHead, top]
  · rw [sameTail, bottom]
  · rw [sameCompleted, samePublished, drained]

/-- Without room the loop goes on for ever. -/
theorem step (looping : Looping t size src seq head tail s) (counters : Counters s)
    (full : ringDataAlloc head tail size = none) (taken : Step proxy s e s') :
    Looping t size src seq head tail s' := by
  by_cases acts : e.actor = some t
  · rcases looping.turn taken acts with ⟨rfl, -⟩ | ⟨offset, newHead, placed, -⟩
    · exact looping
    · rw [full] at placed
      cases placed
  · exact looping.others counters taken acts

theorem path (run : (bridge cfg Tid proxy).Run trace s)
    (looping : Looping t size src seq head tail s)
    (full : ringDataAlloc head tail size = none) {rest : List (Event Tid Gl)}
    (path : (bridge cfg Tid proxy).Path s rest s') : Looping t size src seq head tail s' := by
  induction path with
  | refl => exact looping
  | step path taken ih => exact ih.step (.of_run (run.append path)) full taken

/-- As long as no turn finds room the thread stays in the loop. -/
theorem lasts {behaviour : Lts.Behaviour (bridge cfg Tid proxy)} {instant : Nat}
    (start : Looping t size src seq head tail (behaviour.state instant))
    (stuck : ∀ later, instant ≤ later → ∀ offset newHead,
      ringDataAlloc head tail size = some (offset, newHead) → behaviour.label later ≠
        some (.allocated t seq ⟨offset, size, ⟨newHead - alignUp size, alignUp size⟩⟩)) :
    ∀ later, instant ≤ later → Looping t size src seq head tail (behaviour.state later) := by
  intro later past
  induction later, past using Nat.le_induction with
  | base => exact start
  | succ later past looping =>
      rcases behaviour.pause_or_step later with ⟨-, same⟩ | ⟨e, emitted, taken⟩
      · rwa [same]
      by_cases acts : e.actor = some t
      · rcases looping.turn taken acts with ⟨same, -, -⟩ | ⟨offset, newHead, placed, rfl⟩
        · rwa [same]
        · exact (stuck later past offset newHead placed emitted).elim
      · exact looping.others (.of_run (behaviour.run later)) taken acts

/-- One turn can always be taken. -/
theorem enabled (looping : Looping t size src seq head tail s) :
    ∃ e next, e.actor = some t ∧ Step proxy s e next := by
  obtain ⟨here, -⟩ := looping
  cases found : ringDataAlloc s.localDataHead s.dataTail size with
  | none => exact ⟨_, _, rfl, .dataFull here found⟩
  | some placed => exact ⟨_, _, rfl, .dataWrite here found⟩

theorem never_leaves {behaviour : Lts.Behaviour (bridge cfg Tid proxy)} {instant : Nat}
    (start : Looping t size src seq head tail (behaviour.state instant))
    (full : ringDataAlloc head tail size = none) {later : Nat} (past : instant ≤ later)
    (given : Allocation) : behaviour.label later ≠ some (.allocated t seq given) := by
  intro emitted
  have looping := start.lasts (fun _ _ _ _ placed => by rw [full] at placed; cases placed) later past
  rcases behaviour.pause_or_step later with ⟨paused, -⟩ | ⟨e, same, taken⟩
  · rw [paused] at emitted
    cases emitted
  · rw [same] at emitted
    cases emitted
    rcases looping.turn taken rfl with ⟨-, quiet, -⟩ | ⟨offset, newHead, placed, -⟩
    · cases quiet
    · rw [full] at placed
      cases placed

theorem leaves {behaviour : Lts.Behaviour (bridge cfg Tid proxy)} {instant : Nat}
    (start : Looping t size src seq head tail (behaviour.state instant))
    (fair : behaviour.WeaklyFair fun e => e.actor = some t)
    (room : ringDataAlloc head tail size ≠ none) :
    ∃ later offset newHead, instant ≤ later ∧
      ringDataAlloc head tail size = some (offset, newHead) ∧
      behaviour.label later =
        some (.allocated t seq ⟨offset, size, ⟨newHead - alignUp size, alignUp size⟩⟩) := by
  by_contra never
  have looping := start.lasts fun later past offset newHead placed emitted =>
    never ⟨later, offset, newHead, past, placed, emitted⟩
  obtain ⟨later, past, e, emitted, acts⟩ := fair instant fun later past => (looping later past).enabled
  rcases behaviour.pause_or_step later with ⟨paused, -⟩ | ⟨other, same, taken⟩
  · rw [paused] at emitted
    cases emitted
  · rw [same] at emitted
    cases emitted
    rcases (looping later past).turn taken acts with ⟨-, -, full⟩ | ⟨offset, newHead, placed, rfl⟩
    · exact room full
    · exact never ⟨later, offset, newHead, past, placed, same⟩

end Looping

/-- With every published command completed, the loop of `ring_data_alloc` ends
with an offset exactly if what the command already holds, counted from the head
at which it began, and what the request needs fit in the arena together. -/
theorem allocation_ends_iff (behaviour : Lts.Behaviour (bridge cfg Tid proxy)) {instant : Nat}
    (fair : behaviour.WeaklyFair fun e => e.actor = some t)
    (here : ((behaviour.state instant).threads t).pc = .alloc size src)
    (drained : (behaviour.state instant).completed = (behaviour.state instant).publishedSeq) :
    ∃ base, .begun t ((behaviour.state instant).threads t).curSeq base ∈ behaviour.trace instant ∧
      ((∃ later given, instant ≤ later ∧
          behaviour.label later =
            some (.allocated t ((behaviour.state instant).threads t).curSeq given) ∧
          given.size = size ∧ given.offset + size ≤ glesBridgeDataSize) ↔
        (behaviour.state instant).localDataHead - base +
          allocationNeed (behaviour.state instant).localDataHead size ≤ glesBridgeDataSize) := by
  have run := behaviour.run instant
  have start : Looping t size src ((behaviour.state instant).threads t).curSeq
      (behaviour.state instant).localDataHead (behaviour.state instant).dataTail
      (behaviour.state instant) := ⟨here, rfl, rfl, rfl, drained⟩
  have order := (ArenaLaid.of_run run).laid.le
  have full := @ringDataAlloc_eq_none_iff size _ _ order
  refine ⟨_, Based.drained run (by rw [here]; rfl) drained, ?_, fun fits => ?_⟩
  · rintro ⟨later, given, past, emitted, -, -⟩
    by_contra exceeds
    exact start.never_leaves (full.mpr (by omega)) past given emitted
  · have room := mt full.mp (by omega)
    obtain ⟨later, offset, newHead, past, placed, emitted⟩ := start.leaves fair room
    obtain ⟨-, -, -, at', inLap⟩ := ringDataAlloc_spec order placed
    have enough := le_alignUp (admitted_of_run run here)
    simp only [Block.InLap, at'] at inLap
    exact ⟨later, _, past, emitted, rfl, by simp only; omega⟩

theorem allocation_ends_iff_small :
    ∃ (behaviour : Lts.Behaviour (bridge .default Unit (.uniform (.constant 7)))) (instant : Nat),
      ((behaviour.state instant).threads ()).pc = .alloc 4 none ∧
      ∃ base, .begun () ((behaviour.state instant).threads ()).curSeq base ∈ behaviour.trace instant ∧
        ((∃ later given, instant ≤ later ∧
            behaviour.label later =
              some (.allocated () ((behaviour.state instant).threads ()).curSeq given) ∧
            given.size = 4 ∧ given.offset + 4 ≤ glesBridgeDataSize) ↔
          (behaviour.state instant).localDataHead - base +
            allocationNeed (behaviour.state instant).localDataHead 4 ≤ glesBridgeDataSize) := by
  have run : (bridge .default Unit (.uniform (.constant 7))).Run [] (.initial .default 1 ()) :=
    .start ⟨1, (), rfl⟩
  have run := run.step (.lock (t := ()) rfl rfl)
  have run := run.step (.begin (t := ()) rfl rfl)
  have run := run.step (.dataEnter (t := ()) 4 none rfl (by decide))
  obtain ⟨trace, s, run, here, drained, placed⟩ : ∃ trace, ∃ s : State .default Unit Unit,
      (bridge .default Unit (.uniform (.constant 7))).Run trace s ∧
      (s.threads ()).pc = .alloc 4 none ∧ s.completed = s.publishedSeq ∧
      ringDataAlloc s.localDataHead s.dataTail 4 = some (0, 4) := ⟨_, _, run, rfl, rfl, rfl⟩
  -- Once it has its offset, the thread sets the opcode again and again.
  let states (instant : Nat) : State .default Unit Unit := instant.casesOn s fun instant =>
    (fun s => s.writeSlot () (.opcode 3))^[instant] (s.bridgeDataWrite () 4 none 0 4)
  let labels (instant : Nat) : Option (Event Unit Unit) :=
    instant.casesOn (some (.allocated () (s.threads ()).curSeq ⟨0, 4, ⟨0, 4⟩⟩)) fun _ =>
      some (.quiet (some ()))
  have next : ∀ instant, states (instant + 2) = (states (instant + 1)).writeSlot () (.opcode 3) :=
    fun instant => Function.iterate_succ_apply' ..
  have filling : ∀ instant, ((states (instant + 1)).threads ()).pc = .fill := by
    intro instant
    induction instant with
    | zero =>
        show ((s.bridgeDataWrite () 4 none 0 4).threads ()).pc = .fill
        rw [State.bridgeDataWrite, State.setThread_self]
    | succ instant ih =>
        rw [next]
        exact ih
  obtain ⟨behaviour, offset, follows⟩ :=
    Lts.Behaviour.exists_of_run run states labels rfl (by
      intro instant
      cases instant with
      | zero => exact .dataWrite here placed
      | succ instant =>
          show Step _ (states (instant + 1)) _ (states (instant + 2))
          rw [next]
          exact .fill _ (filling instant))
  have current : behaviour.state offset = s := (follows 0).1
  have fair : behaviour.WeaklyFair fun e => e.actor = some () := by
    intro start _
    exact ⟨offset + (start + 1), by omega, _, (follows (start + 1)).2, rfl⟩
  have asking : ((behaviour.state offset).threads ()).pc = .alloc 4 none := by rw [current, here]
  exact ⟨behaviour, offset, asking, allocation_ends_iff behaviour fair asking
    (by rw [current, drained])⟩

/-- After an upload of four bytes has come and gone, a request for the whole
arena, which `ring_data_alloc` admits, waits for ever. -/
theorem allocation_spins_forever :
    ∃ trace, ∃ s : State .default Unit Unit,
      (bridge .default Unit (.uniform (.constant 7))).Run trace s ∧
      (s.threads ()).pc = .alloc glesBridgeDataSize none ∧ s.completed = s.publishedSeq ∧
      ∀ rest s', (bridge .default Unit (.uniform (.constant 7))).Path s rest s' →
        (s'.threads ()).pc = .alloc glesBridgeDataSize none := by
  have run : (bridge .default Unit (.uniform (.constant 7))).Run [] (.initial .default 1 ()) :=
    .start ⟨1, (), rfl⟩
  have run := run.step (.lock (t := ()) rfl rfl)
  have run := run.step (.begin (t := ()) rfl rfl)
  have run := run.step (.dataEnter (t := ()) 4 none rfl (by decide))
  have run := run.step (.dataWrite (t := ()) rfl rfl)
  have run := run.step (.publish (t := ()) .void rfl)
  have run := run.step (.loadWaiting (t := ()) rfl)
  have run := run.step (.unlock (t := ()) rfl)
  have run := run.step (.load rfl)
  have run := run.step (.dispatch rfl)
  have run := run.step (.release rfl)
  have run := run.step (.complete rfl)
  have run := run.step (.lock (t := ()) rfl rfl)
  have run := run.step (.begin (t := ()) rfl rfl)
  have run := run.step (.dataEnter (t := ()) glesBridgeDataSize none rfl (Nat.le_refl _))
  refine ⟨_, _, run, rfl, rfl, fun rest s' path => ?_⟩
  exact (Looping.path run ⟨rfl, rfl, rfl, rfl, rfl⟩ rfl path).here

end GlesBridge.Ring
