import GlesBridge.Ring.Arena
import GlesBridge.Ring.Reply

namespace GlesBridge.Ring

open GlesBridge.Data GlesBridge.Systems

/-! What an entry point reads back after `bridge_send_call` has released
`g_lock`. -/

variable {cfg : Config} {Tid Gl : Type}

def Allocation.Covers (given : Allocation) (address : Nat) : Prop :=
  given.offset ≤ address ∧ address < given.offset + given.size

/-- No command after `seq` has been given the byte. -/
def Unclaimed (trace : List (Event Tid Gl)) (seq address : Nat) : Prop :=
  ∀ later, seq < later → ∀ given ∈ allocations trace later, ¬ given.Covers address

/-- Where `bridge_data_read` reads. -/
def readOffset (slot : BridgeCtrl) : Option Block → Nat
  | some block => block.offset glesBridgeDataSize
  | none => slot.dataOffset.toNat

/-- The condition under which late reads are sound: a slot is read before it is
reserved again, bytes of the arena before they are given to a later command, and
the handlers write to the arena only inside the ranges of their own command. -/
def Undisturbed (trace : List (Event Tid Gl)) (s : State cfg Tid Gl) : Event Tid Gl → Prop
  | .readSlot _ seq _ => s.localSeq ≤ seq + cfg.ringSlots
  | .readData _ seq source size _ =>
      (source = none → s.localSeq ≤ seq + cfg.ringSlots) ∧
      ∀ index, index < size →
        Unclaimed trace seq (readOffset (s.slots (cfg.slotIndex seq)) source + index)
  | .dispatched seq _ outcome => ∀ address, outcome.arena address ≠ s.arena address →
      ∃ given ∈ allocations trace seq, given.Covers address
  | _ => True

/-- The value that an event hands to the caller of an entry point is the one that
the handler of the thread's own command produced. -/
def Event.FromOwnHandler (trace : List (Event Tid Gl)) : Event Tid Gl → Prop
  | .returned thread seq .call value => ∃ slot outcome,
      .published thread seq .call slot ∈ trace ∧ (seq, slot, outcome) ∈ dispatches trace ∧
      value = outcome.result
  | .readSlot thread seq found => ∃ slot outcome,
      .published thread seq .call slot ∈ trace ∧ (seq, slot, outcome) ∈ dispatches trace ∧
      found = slot.answered outcome
  | .readData thread seq source size bytes => ∃ slot outcome,
      .published thread seq .call slot ∈ trace ∧ (seq, slot, outcome) ∈ dispatches trace ∧
      bytes = readBytes outcome.arena (readOffset slot source) size
  | _ => True

section Histories

variable {trace : List (Event Tid Gl)} {e : Event Tid Gl}

theorem Unclaimed.of_snoc {seq address : Nat} (free : Unclaimed (trace ++ [e]) seq address) :
    Unclaimed trace seq address := by
  intro later after given member
  apply free later after given
  rw [allocations_snoc]
  exact List.mem_append_left _ member

theorem mem_dispatches_snoc {run : Nat × BridgeCtrl × Outcome Gl} (member : run ∈ dispatches trace) :
    run ∈ dispatches (trace ++ [e]) := by
  rw [dispatches_snoc]
  exact List.mem_append_left _ member

theorem Event.FromOwnHandler.snoc {event : Event Tid Gl} (own : event.FromOwnHandler trace) :
    event.FromOwnHandler (trace ++ [e]) := by
  cases event with
  | returned thread seq mode value =>
      cases mode with
      | call =>
          obtain ⟨slot, outcome, published, dispatched, same⟩ := own
          exact ⟨slot, outcome, List.mem_append_left _ published, mem_dispatches_snoc dispatched, same⟩
      | void | swap => trivial
  | readSlot | readData =>
      obtain ⟨slot, outcome, published, dispatched, same⟩ := own
      exact ⟨slot, outcome, List.mem_append_left _ published, mem_dispatches_snoc dispatched, same⟩
  | _ => trivial

theorem writeBytes_of_outside {arena src : Bytes} {offset size address : Nat}
    (outside : ¬ (offset ≤ address ∧ address < offset + size)) :
    writeBytes arena offset size src address = arena address :=
  if_neg outside

theorem readBytes_congr {left right : Bytes} {offset size : Nat}
    (same : ∀ index, index < size → left (offset + index) = right (offset + index)) :
    readBytes left offset size = readBytes right offset size := by
  apply List.map_congr_left
  intro index member
  exact same index (List.mem_range.mp member)

end Histories

/-! ## Bytes that stay -/

variable [DecidableEq Tid] {proxy : Dispatcher Gl} {s s' : State cfg Tid Gl}
  {e : Event Tid Gl} {trace : List (Event Tid Gl)} {t : Tid}

/-- What a handler left in the arena stays until a later command is given it. -/
theorem arena_of_unclaimed (within : (bridge cfg Tid proxy).RunWithin Undisturbed trace s)
    {seq : Nat} {slot : BridgeCtrl} {outcome : Outcome Gl}
    (dispatched : (seq, slot, outcome) ∈ dispatches trace) {address : Nat}
    (free : Unclaimed trace seq address) : s.arena address = outcome.arena address := by
  induction within with
  | start initial => cases dispatched
  | @step trace s e s' within taken meets ih =>
      have run := within.run
      have counters := Counters.of_run run
      have before := free.of_snoc
      -- Steps that run no handler and leave the byte alone.
      have keep (silent : e.dispatch? = none) (same : s'.arena address = s.arena address) :
          s'.arena address = outcome.arena address := by
        rw [dispatches_snoc, silent] at dispatched
        rw [same]
        exact ih (by simpa using dispatched) before
      cases taken.move with
      | keep plain frame => exact keep (Event.dispatch?_of_plain plain) (by rw [frame.arena])
      | acquire | begin | fill | publish | unlock | release | complete => exact keep rfl rfl
      | @dataWrite u size src offset newHead filling placed =>
          refine keep rfl ?_
          have current := (counters.filling u filling).2
          have past : seq < (s.threads u).curSeq := by
            have served := counters.served_le
            have earlier : (seq, slot, outcome) ∈ dispatches trace := by
              simpa [dispatches_snoc, Event.dispatch?] using dispatched
            have below := seq_lt_served run earlier
            omega
          have outside := free _ past ⟨offset, size, ⟨newHead - alignUp size, alignUp size⟩⟩
            (by simp [allocations_snoc, Event.allocation?])
          cases src with
          | none => rfl
          | some bytes => exact writeBytes_of_outside outside
      | dispatch here =>
          rw [dispatches_snoc, List.mem_append] at dispatched
          rcases dispatched with earlier | now
          · have served : s.served = s.completed := by
              simp only [State.served, here, ProxyPc.answered]; rfl
            have past := seq_lt_served run earlier
            rw [← ih earlier before]
            by_contra changed
            obtain ⟨given, member, covers⟩ := meets address changed
            exact before s.completed (by omega) given member covers
          · simp only [Event.dispatch?, Option.toList, List.mem_singleton] at now
            cases now
            rfl

/-- A thread whose blocking call has returned holds the reply of its own command. -/
theorem reply_of_late (run : (bridge cfg Tid proxy).Run trace s) (here : (s.threads t).pc = .late) :
    ∃ slot outcome, .published t (s.threads t).curSeq .call slot ∈ trace ∧
      ((s.threads t).curSeq, slot, outcome) ∈ dispatches trace ∧
      (s.threads t).holdsReply outcome := by
  obtain ⟨slot, outcome, member, holds⟩ := (Replied.of_run run t).reply (by rw [here]; rfl)
  obtain ⟨sent, published⟩ := (Sent.of_run run t).published .call (by rw [here]; rfl)
  obtain rfl := dispatched_as_published run published member
  exact ⟨_, outcome, published, member, holds⟩

theorem Step.fromOwnHandler (within : (bridge cfg Tid proxy).RunWithin Undisturbed trace s)
    (taken : Step proxy s e s') (meets : Undisturbed trace s e) : e.FromOwnHandler trace := by
  have run := within.run
  cases taken with
  | @unlock t mode value here =>
      cases mode with
      | call =>
          obtain ⟨slot, outcome, published, last, same, -⟩ := call_reply_isolated run (.unlock here)
          exact ⟨slot, outcome, published, List.mem_of_getLast? last, same⟩
      | void | swap => trivial
  | @readSlot t here =>
      obtain ⟨slot, outcome, published, member, -⟩ := reply_of_late run here
      exact ⟨slot, outcome, published, member, (Replies.of_run run).slot _ slot outcome member meets⟩
  | @readData t size block here =>
      obtain ⟨slot, outcome, published, member, -⟩ := reply_of_late run here
      refine ⟨slot, outcome, published, member, readBytes_congr fun index below => ?_⟩
      exact arena_of_unclaimed within member (meets.2 index below)
  | @readDataOffset t size here =>
      obtain ⟨slot, outcome, published, member, -⟩ := reply_of_late run here
      have found : s.slots (s.curIndex t) = slot.answered outcome :=
        (Replies.of_run run).slot _ slot outcome member (meets.1 rfl)
      refine ⟨slot, outcome, published, member, ?_⟩
      have offset : (s.slots (s.curIndex t)).dataOffset = slot.dataOffset := by rw [found]; rfl
      rw [readOffset, ← offset]
      exact readBytes_congr fun index below =>
        arena_of_unclaimed within member (meets.2 index below)
  | _ => trivial

/-- In a run without disturbed reads, every value that a thread is handed after a
blocking call, under the lock or later, comes from the handler of its own
command. -/
theorem late_reads_own (within : (bridge cfg Tid proxy).RunWithin Undisturbed trace s) :
    (∀ e ∈ trace, e.FromOwnHandler trace) ∧
    ∀ t, (s.threads t).pc = .late → ∃ slot outcome,
      .published t (s.threads t).curSeq .call slot ∈ trace ∧
      ((s.threads t).curSeq, slot, outcome) ∈ dispatches trace ∧
      (s.threads t).holdsReply outcome := by
  refine ⟨?_, fun t here => reply_of_late within.run here⟩
  induction within with
  | start initial => exact nofun
  | step within taken meets ih =>
      intro event member
      rcases List.mem_append.mp member with earlier | now
      · exact (ih event earlier).snoc
      · rw [List.mem_singleton] at now
        rw [now]
        exact (taken.fromOwnHandler within meets).snoc

theorem late_reads_own_one_call :
    ∃ trace, ∃ s : State .default Bool Unit,
      (bridge .default Bool (.uniform (.fillData 7))).RunWithin Undisturbed trace s ∧
      .readData true 0 (some ⟨0, 4⟩) 4 [7, 7, 7, 7] ∈ trace ∧
      (∀ e ∈ trace, e.FromOwnHandler trace) ∧
      ∀ t, (s.threads t).pc = .late → ∃ slot outcome,
        .published t (s.threads t).curSeq .call slot ∈ trace ∧
        ((s.threads t).curSeq, slot, outcome) ∈ dispatches trace ∧
        (s.threads t).holdsReply outcome := by
  have run : (bridge .default Bool (.uniform (.fillData 7))).RunWithin Undisturbed []
      (.initial .default 1 ()) := .start ⟨1, (), rfl⟩
  have run := run.step (.lock (t := true) rfl rfl) trivial
  have run := run.step (.begin (t := true) rfl rfl) trivial
  have run := run.step (.dataEnter (t := true) 4 none rfl (by decide)) trivial
  have run := run.step (.dataWrite (t := true) rfl rfl) trivial
  have run := run.step (.fill (t := true) (.opcode 3) rfl) trivial
  have run := run.step (.fill (t := true) (.dataSize 4) rfl) trivial
  have run := run.step (.publish (t := true) .call rfl) trivial
  have run := run.step (.loadWaiting (t := true) rfl) trivial
  have run := run.step (.load rfl) trivial
  have run := run.step (.dispatch rfl) fun address changed =>
    ⟨⟨0, 4, ⟨0, 4⟩⟩, .head _, by_contra fun outside => changed
      (show writeBytes (fun _ => 0) 0 4 (fun _ => 7) address = 0 from writeBytes_of_outside outside)⟩
  have run := run.step (.release rfl) trivial
  have run := run.step (.complete rfl) trivial
  have run := run.step (.waitDone (t := true) rfl nofun (by decide)) trivial
  have run := run.step (.copyReply (t := true) rfl) trivial
  have run := run.step (.unlock (t := true) rfl) trivial
  have alone := (ArenaLaid.of_run run.run).fresh
  have run := run.step (@Step.readData _ _ _ _ _ _ true 4 ⟨0, 4⟩ rfl (.head _) (by decide))
    ⟨nofun, fun index _ later after given member => by
      rw [alone later after] at member
      cases member⟩
  exact ⟨_, _, run, List.mem_append_right _ (.head _), late_reads_own run⟩

/-- One thread asks for four bytes and gets its lock released. Before it reads
them, another thread uploads the rest of the arena and then four bytes more. -/
theorem late_read_of_other_command :
    ∃ trace, ∃ s : State .default Bool Unit,
      (bridge .default Bool (.uniform (.fillData 7))).Run trace s ∧
      ¬ ∀ e ∈ trace, e.FromOwnHandler trace := by
  have run : (bridge .default Bool (.uniform (.fillData 7))).Run [] (.initial .default 1 ()) :=
    .start ⟨1, (), rfl⟩
  have run := run.step (.lock (t := true) rfl rfl)
  have run := run.step (.begin (t := true) rfl rfl)
  have run := run.step (.dataEnter (t := true) 4 none rfl (by decide))
  have run := run.step (.dataWrite (t := true) rfl rfl)
  have run := run.step (.fill (t := true) (.opcode 3) rfl)
  have run := run.step (.fill (t := true) (.dataSize 4) rfl)
  have run := run.step (.publish (t := true) .call rfl)
  have run := run.step (.loadWaiting (t := true) rfl)
  have run := run.step (.load rfl)
  have run := run.step (.dispatch rfl)
  have run := run.step (.release rfl)
  have run := run.step (.complete rfl)
  have run := run.step (.waitDone (t := true) rfl nofun (by decide))
  have run := run.step (.copyReply (t := true) rfl)
  have run := run.step (.unlock (t := true) rfl)
  have run := run.step (.lock (t := false) rfl rfl)
  have run := run.step (.begin (t := false) rfl rfl)
  have run := run.step (.dataEnter (t := false) (glesBridgeDataSize - 4) none rfl (by decide))
  have run := run.step (.dataWrite (t := false) rfl rfl)
  have run := run.step (.publish (t := false) .void rfl)
  have run := run.step (.loadWaiting (t := false) rfl)
  have run := run.step (.unlock (t := false) rfl)
  have run := run.step (.lock (t := false) rfl rfl)
  have run := run.step (.begin (t := false) rfl rfl)
  have run := run.step (.dataEnter (t := false) 4 (some fun _ => 9) rfl (by decide))
  have run := run.step (.dataWrite (t := false) rfl rfl)
  have run := run.step (@Step.readData _ _ _ _ _ _ true 4 ⟨0, 4⟩ rfl (.head _) (by decide))
  obtain ⟨trace, s, run, read, ran⟩ : ∃ trace, ∃ s : State .default Bool Unit,
      (bridge .default Bool (.uniform (.fillData 7))).Run trace s ∧
      .readData true 0 (some ⟨0, 4⟩) 4 [9, 9, 9, 9] ∈ trace ∧
      (dispatches trace).map (fun run => readBytes run.2.2.arena 0 4) = [[7, 7, 7, 7]] :=
    ⟨_, _, run, List.mem_append_right _ (.head _), rfl⟩
  refine ⟨trace, s, run, fun own => ?_⟩
  obtain ⟨slot, outcome, -, member, same⟩ := own _ read
  have listed := List.mem_map_of_mem (f := fun run => readBytes run.2.2.arena 0 4) member
  rw [ran, List.mem_singleton] at listed
  exact absurd (same.trans listed) (by decide)

end GlesBridge.Ring
