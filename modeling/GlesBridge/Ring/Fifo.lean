import GlesBridge.Ring.Counters
import GlesBridge.Systems.Fifo

namespace GlesBridge.Ring

open GlesBridge.Data GlesBridge.Systems

/-! The ring as a first-in first-out queue of commands. -/

variable {cfg : Config} {Tid Gl : Type}

/-! ## Histories -/

def Event.fifoAction : Event Tid Gl → FifoAction (Nat × BridgeCtrl)
  | .published _ seq _ slot => .enqueue (seq, slot)
  | .dispatched seq slot _ => .dequeue (seq, slot)
  | _ => .skip

/-- The commands published, with the slots as the stub had written them. -/
def publishedCommands (trace : List (Event Tid Gl)) : List (Nat × BridgeCtrl) :=
  (trace.map Event.fifoAction).filterMap FifoAction.enqueued?

/-- The commands dispatched, with the slots as the handlers got them. -/
def dispatchedCommands (trace : List (Event Tid Gl)) : List (Nat × BridgeCtrl) :=
  (trace.map Event.fifoAction).filterMap FifoAction.dequeued?

namespace State

/-- How many commands the proxy has dispatched. -/
def served (s : State cfg Tid Gl) : Nat := s.completed + s.proxyPc.answered

/-- The commands between the stub and the proxy, read back from the slots. -/
def pending (s : State cfg Tid Gl) : List (Nat × BridgeCtrl) :=
  (List.range' s.served (s.publishedSeq - s.served)).map fun seq =>
    (seq, s.slots (cfg.slotIndex seq))

variable {s s' : State cfg Tid Gl}

theorem pending_congr (served : s'.served = s.served) (published : s'.publishedSeq = s.publishedSeq)
    (slots : ∀ seq, s.served ≤ seq → seq < s.publishedSeq →
      s'.slots (cfg.slotIndex seq) = s.slots (cfg.slotIndex seq)) :
    s'.pending = s.pending := by
  simp only [pending, served, published]
  apply List.map_congr_left
  intro seq member
  rw [List.mem_range'_1] at member
  rw [slots seq member.1 (by omega)]

theorem pending_snoc {value : BridgeCtrl} (served : s'.served = s.served)
    (room : s.served ≤ s.publishedSeq) (published : s'.publishedSeq = s.publishedSeq + 1)
    (slots : ∀ seq, s.served ≤ seq → seq < s.publishedSeq →
      s'.slots (cfg.slotIndex seq) = s.slots (cfg.slotIndex seq))
    (last : s'.slots (cfg.slotIndex s.publishedSeq) = value) :
    s'.pending = s.pending ++ [(s.publishedSeq, value)] := by
  have count : s.publishedSeq + 1 - s.served = s.publishedSeq - s.served + 1 := by omega
  have final : s.served + 1 * (s.publishedSeq - s.served) = s.publishedSeq := by omega
  simp only [pending, served, published, count, List.range'_concat, List.map_append,
    List.map_cons, List.map_nil, final, last]
  congr 1
  apply List.map_congr_left
  intro seq member
  rw [List.mem_range'_1] at member
  rw [slots seq member.1 (by omega)]

theorem pending_cons (served : s'.served = s.served + 1) (ahead : s.served < s.publishedSeq)
    (published : s'.publishedSeq = s.publishedSeq)
    (slots : ∀ seq, s.served < seq → seq < s.publishedSeq →
      s'.slots (cfg.slotIndex seq) = s.slots (cfg.slotIndex seq)) :
    s.pending = (s.served, s.slots (cfg.slotIndex s.served)) :: s'.pending := by
  have count : s.publishedSeq - s.served = s.publishedSeq - (s.served + 1) + 1 := by omega
  simp only [pending, served, published]
  rw [count, List.range'_succ, List.map_cons]
  congr 1
  apply List.map_congr_left
  intro seq member
  rw [List.mem_range'_1] at member
  rw [slots seq member.1 (by omega)]

end State

/-! ## Who writes a slot -/

section Slots

variable {s s' : State cfg Tid Gl} {t : Tid}

theorem Counters.served_le (counters : Counters s) : s.served ≤ s.publishedSeq := by
  have behind := counters.behind
  have busy := counters.busy
  simp only [State.served]
  cases pc : s.proxyPc <;> simp only [pc, ProxyPc.answered] at busy ⊢ <;> simp at busy <;> omega

theorem State.setSlot_self (s : State cfg Tid Gl) (index : Fin cfg.ringSlots) (slot : BridgeCtrl) :
    (s.setSlot index slot).slots index = slot :=
  Function.update_self ..

theorem State.setSlot_of_ne (s : State cfg Tid Gl) {index other : Fin cfg.ringSlots}
    (slot : BridgeCtrl) (different : other ≠ index) :
    (s.setSlot index slot).slots other = s.slots other :=
  Function.update_of_ne different ..

/-- The slot that a thread fills in belongs to no published command that is not
completed. -/
theorem Counters.curIndex_ne (counters : Counters s) (filling : (s.threads t).pc.stage = .filling)
    {seq : Nat} (lower : s.completed ≤ seq) (upper : seq < s.publishedSeq) :
    cfg.slotIndex seq ≠ s.curIndex t := by
  obtain ⟨ahead, current⟩ := counters.filling t filling
  have window := counters.window
  exact Config.slotIndex_ne (by omega) (by omega)

variable [DecidableEq Tid] {e : Event Tid Gl} {proxy : Dispatcher Gl} {trace : List (Event Tid Gl)}

/-- From its publication to its completion, a slot changes only by its own
handler, which writes nothing but the result fields. -/
theorem Move.slot_of_published (counters : Counters s) (move : Move proxy s e s') {seq : Nat}
    (lower : s.completed ≤ seq) (upper : seq < s.publishedSeq) :
    s'.slots (cfg.slotIndex seq) = s.slots (cfg.slotIndex seq) ∨
      ∃ outcome, e = .dispatched seq (s.slots (cfg.slotIndex seq)) outcome ∧
        s'.slots (cfg.slotIndex seq) = (s.slots (cfg.slotIndex seq)).answered outcome := by
  cases move with
  | keep _ frame => exact .inl (by rw [frame.slots])
  | acquire | unlock | release | complete => exact .inl rfl
  | @begin t reserving room =>
      have inside : (s.threads t).pc.stage ≠ .outside := by simp [reserving]
      have settled := counters.settled_of_owner inside (by simp [reserving])
      have fits : s.localSeq - s.completedSeq < cfg.ringSlots := by simpa [State.hasRoom] using room
      have copy := counters.proxyCopy
      exact .inl (State.setSlot_of_ne _ _ (Config.slotIndex_ne (by omega) (by omega)))
  | fill _ filling => exact .inl (State.setSlot_of_ne _ _ (counters.curIndex_ne filling lower upper))
  | dataWrite filling => exact .inl (State.setSlot_of_ne _ _ (counters.curIndex_ne filling lower upper))
  | publish _ filling => exact .inl (State.setSlot_of_ne _ _ (counters.curIndex_ne filling lower upper))
  | dispatch here =>
      by_cases current : seq = s.completed
      · subst current
        exact .inr ⟨s.outcome proxy, rfl, Function.update_self ..⟩
      · have window := counters.window
        have published := counters.published_le_local
        exact .inl (State.setSlot_of_ne _ _
          (Ne.symm (Config.slotIndex_ne (by omega) (by omega))))

/-- While a command is being filled in, only its own thread writes its slot. -/
theorem Move.slot_of_filling (counters : Counters s) (move : Move proxy s e s')
    (filling : (s.threads t).pc.stage = .filling) :
    s'.slots (s.curIndex t) = s.slots (s.curIndex t) ∨ e.actor = some t := by
  have inside : (s.threads t).pc.stage ≠ .outside := by simp [filling]
  obtain ⟨ahead, current⟩ := counters.filling t filling
  cases move with
  | keep _ frame => exact .inl (by rw [frame.slots])
  | acquire | unlock | release | complete => exact .inl rfl
  | @begin u reserving | @fill u _ reserving | @dataWrite u _ _ _ _ reserving
  | @publish u _ reserving =>
      have active : (s.threads u).pc.stage ≠ .outside := by simp [reserving]
      obtain rfl := counters.unique active inside
      exact .inr rfl
  | dispatch here =>
      have busy := counters.busy (.inl here)
      have window := counters.window
      exact .inl (State.setSlot_of_ne _ _ (Ne.symm (Config.slotIndex_ne (by omega) (by omega))))

/-! ## The ring refines the queue -/

theorem Move.fifoStep (counters : Counters s) (move : Move proxy s e s') :
    FifoStep s.pending e.fifoAction s'.pending := by
  have room := counters.served_le
  have lower : s.completed ≤ s.served := Nat.le_add_right ..
  cases move with
  | keep plain frame =>
      have skip : e.fifoAction = .skip := by cases e <;> simp [Event.plain] at plain <;> rfl
      have same : s'.pending = s.pending := State.pending_congr
        (by simp only [State.served, frame.completed, frame.answered]) frame.publishedSeq
        (fun seq _ _ => by rw [frame.slots])
      rw [skip, same]
      exact .skip _
  | acquire | unlock => exact .skip _
  | @begin t reserving isRoom =>
      have move : Move proxy s (.begun t s.localSeq s.localDataHead) (s.bridgeBegin t) :=
        .begin reserving isRoom
      have same : (s.bridgeBegin t).pending = s.pending := State.pending_congr rfl rfl
        fun seq past below =>
          (move.slot_of_published counters (lower.trans past) below).resolve_right (by simp)
      rw [same]
      exact .skip _
  | @fill t write filling =>
      have same : (s.writeSlot t write).pending = s.pending := State.pending_congr rfl rfl
        fun seq past below =>
          State.setSlot_of_ne _ _ (counters.curIndex_ne filling (lower.trans past) below)
      rw [same]
      exact .skip _
  | @dataWrite t size src offset newHead filling placed =>
      have same : (s.bridgeDataWrite t size src offset newHead).pending = s.pending :=
        State.pending_congr rfl rfl fun seq past below =>
          State.setSlot_of_ne _ _ (counters.curIndex_ne filling (lower.trans past) below)
      rw [same]
      exact .skip _
  | @publish t mode filling =>
      obtain ⟨ahead, current⟩ := counters.filling t filling
      have grown : (s.publishCur t mode).pending =
          s.pending ++ [((s.threads t).curSeq, (s.publishCur t mode).slots (s.curIndex t))] := by
        rw [current]
        refine State.pending_snoc rfl room ?_ (fun seq past below =>
          State.setSlot_of_ne _ _ (counters.curIndex_ne filling (lower.trans past) below)) ?_
        · show (s.threads t).curSeq + 1 = s.publishedSeq + 1
          omega
        · rw [← current]
          rfl
      rw [grown]
      exact .enqueue _ _
  | dispatch here =>
      have ahead := counters.busy (.inl here)
      have window := counters.window
      have published := counters.published_le_local
      have served : s.served = s.completed := by simp only [State.served, here, ProxyPc.answered]; rfl
      have popped : s.pending = (s.completed, s.slots s.proxyIndex) :: (s.dispatch proxy).pending := by
        have cons : s.pending =
            (s.served, s.slots (cfg.slotIndex s.served)) :: (s.dispatch proxy).pending :=
          State.pending_cons (by rw [served]; rfl) (by rw [served]; exact ahead) rfl
            (fun seq past below =>
              State.setSlot_of_ne _ _ (Ne.symm (Config.slotIndex_ne (by omega) (by omega))))
        rw [served] at cons
        exact cons
      rw [popped]
      exact .dequeue _ _
  | release here =>
      have same : s.releaseData.pending = s.pending :=
        State.pending_congr (by simp only [State.served, here]; rfl) rfl (fun _ _ _ => rfl)
      rw [same]
      exact .skip _
  | complete here =>
      have same : s.complete.pending = s.pending :=
        State.pending_congr (by
          simp only [State.served, here, State.complete]
          split_ifs <;> rfl) rfl (fun _ _ _ => rfl)
      rw [same]
      exact .skip _

variable (cfg Tid proxy) in
/-- The ring is a queue of commands: publishing puts one in, dispatching takes
the oldest one out. -/
def ringRefinesFifo :
    Lts.Refinement (bridge cfg Tid proxy) (fifo (Nat × BridgeCtrl)) where
  view := State.pending
  action := Event.fifoAction
  initial := by
    rintro _ ⟨clientPid, gl, rfl⟩
    rfl
  step _ _ _ _ run taken := taken.move.fifoStep (.of_run run)

theorem published_eq_dispatched_append (run : (bridge cfg Tid proxy).Run trace s) :
    publishedCommands trace = dispatchedCommands trace ++ s.pending :=
  fifo_balance ((ringRefinesFifo cfg Tid proxy).run run)

omit [DecidableEq Tid] in
theorem publishedCommands_snoc (trace : List (Event Tid Gl)) (e : Event Tid Gl) :
    publishedCommands (trace ++ [e]) =
      publishedCommands trace ++ e.fifoAction.enqueued?.toList := by
  cases found : e.fifoAction.enqueued? <;> simp [publishedCommands, found]

/-- Sequence numbers are given out in publish order, without gaps. -/
theorem publishedCommands_seqs (run : (bridge cfg Tid proxy).Run trace s) :
    (publishedCommands trace).map Prod.fst = List.range s.publishedSeq := by
  induction run with
  | start initial =>
      obtain ⟨clientPid, gl, rfl⟩ := initial
      rfl
  | @step trace s e s' run taken ih =>
      have counters := Counters.of_run run
      rw [publishedCommands_snoc, List.map_append, ih]
      cases taken.move with
      | keep plain frame =>
          have skip : e.fifoAction = .skip := by cases e <;> simp [Event.plain] at plain <;> rfl
          simp [skip, FifoAction.enqueued?, frame.publishedSeq]
      | @publish t mode filling =>
          obtain ⟨ahead, current⟩ := counters.filling t filling
          have next : (s.publishCur t mode).publishedSeq = s.publishedSeq + 1 :=
            congrArg (· + 1) current
          simp [next, Event.fifoAction, FifoAction.enqueued?, List.range_succ, current]
      | acquire | unlock | release | complete | begin | fill | dataWrite | dispatch =>
          exact List.append_nil _

theorem dispatchedCommands_seqs (run : (bridge cfg Tid proxy).Run trace s) :
    (dispatchedCommands trace).map Prod.fst = List.range s.served := by
  have room := (Counters.of_run run).served_le
  have seqs := publishedCommands_seqs run
  have waiting : s.pending.map Prod.fst = List.range' s.served (s.publishedSeq - s.served) := by
    simp [State.pending, Function.comp_def]
  have split : List.range s.publishedSeq =
      List.range s.served ++ List.range' s.served (s.publishedSeq - s.served) := by
    have joined := List.range'_append_1 (s := 0) (m := s.served) (n := s.publishedSeq - s.served)
    rw [Nat.zero_add, Nat.add_sub_cancel' room] at joined
    simpa [List.range_eq_range'] using joined.symm
  rw [published_eq_dispatched_append run, List.map_append, waiting, split] at seqs
  exact List.append_cancel_right seqs

/-- What the ring does with the commands of a run. -/
structure RingFifo (proxy : Dispatcher Gl) (trace : List (Event Tid Gl))
    (s : State cfg Tid Gl) : Prop where
  order : s.completedSeq ≤ s.publishedSeq ∧ s.publishedSeq ≤ s.localSeq ∧
    s.localSeq ≤ s.completedSeq + cfg.ringSlots
  /-- Commands are numbered in publish order. -/
  numbered : (publishedCommands trace).map Prod.fst = List.range s.publishedSeq
  /-- Each command is dispatched once and in that order. -/
  once : (dispatchedCommands trace).map Prod.fst = List.range s.served
  /-- A completed command has been dispatched; at most one other has. -/
  served : s.completedSeq ≤ s.served ∧ s.served ≤ s.completedSeq + 1
  /-- A handler gets the slot as it was published. -/
  unaltered : publishedCommands trace = dispatchedCommands trace ++ s.pending
  /-- Between publication and completion a slot changes by its own handler
  alone, and only in the result fields. -/
  untouched : ∀ e next, Step proxy s e next →
    ∀ seq, s.completedSeq ≤ seq → seq < s.publishedSeq →
      next.slots (cfg.slotIndex seq) = s.slots (cfg.slotIndex seq) ∨
      ∃ outcome, e = .dispatched seq (s.slots (cfg.slotIndex seq)) outcome ∧
        next.slots (cfg.slotIndex seq) = (s.slots (cfg.slotIndex seq)).answered outcome
  /-- Before publication only the thread that reserved the slot writes it. -/
  own : ∀ e next, Step proxy s e next → ∀ t, (s.threads t).pc.stage = .filling →
    next.slots (s.curIndex t) = s.slots (s.curIndex t) ∨ e.actor = some t

theorem ring_fifo_exactly_once (run : (bridge cfg Tid proxy).Run trace s) :
    RingFifo proxy trace s := by
  have counters := Counters.of_run run
  have copy := counters.proxyCopy
  constructor
  case order => exact ⟨copy ▸ counters.behind, counters.published_le_local, copy ▸ counters.window⟩
  case numbered => exact publishedCommands_seqs run
  case once => exact dispatchedCommands_seqs run
  case served =>
    rw [← copy, State.served]
    cases s.proxyPc <;> simp [ProxyPc.answered]
  case unaltered => exact published_eq_dispatched_append run
  case untouched =>
    intro e next taken seq lower upper
    exact taken.move.slot_of_published counters (copy ▸ lower) upper
  case own => exact fun e next taken t => taken.move.slot_of_filling counters

theorem ring_fifo_exactly_once_one_command :
    ∃ trace, ∃ s : State .default Bool Unit,
      (bridge .default Bool (.uniform (.constant 7))).Run trace s ∧
      s.completedSeq = 1 ∧ RingFifo (.uniform (.constant 7)) trace s := by
  have run : (bridge .default Bool (.uniform (.constant 7))).Run [] (.initial .default 1 ()) :=
    .start ⟨1, (), rfl⟩
  have run := run.step (.lock (t := true) rfl rfl)
  have run := run.step (.begin (t := true) rfl rfl)
  have run := run.step (.fill (t := true) (.opcode 3) rfl)
  have run := run.step (.publish (t := true) .void rfl)
  have run := run.step (.load rfl)
  have run := run.step (.dispatch rfl)
  have run := run.step (.release rfl)
  have run := run.step (.complete rfl)
  exact ⟨_, _, run, rfl, ring_fifo_exactly_once run⟩

end Slots

end GlesBridge.Ring
