import GlesBridge.Data.PowerOfTwo
import GlesBridge.Ring.Send

namespace GlesBridge.Ring

open GlesBridge.Data GlesBridge.Systems

/-! The data arena: what `ring_data_alloc` hands out and when it comes back. -/

/-! ## One allocation -/

theorem alignUp_eq {size : Nat} (small : size + 3 < 2 ^ 32) : alignUp size = (size + 3) / 4 * 4 :=
  and_not_three small

theorem le_alignUp {size : Nat} (admitted : size ≤ glesBridgeDataSize) : size ≤ alignUp size := by
  rw [alignUp_eq (by simp only [glesBridgeDataSize] at admitted; omega)]
  omega

theorem glesBridgeDataSize_pos : 0 < glesBridgeDataSize := by decide

/-- `ring_data_alloc` hands out a block at the head or, where that would run
over the end of the arena, at the start of the next lap. -/
theorem ringDataAlloc_spec {head tail size offset newHead : Nat} (order : tail ≤ head)
    (placed : ringDataAlloc head tail size = some (offset, newHead)) :
    alignUp size ≤ newHead ∧ head ≤ newHead - alignUp size ∧
      newHead ≤ tail + glesBridgeDataSize ∧
      (⟨newHead - alignUp size, alignUp size⟩ : Block).offset glesBridgeDataSize = offset ∧
      (⟨newHead - alignUp size, alignUp size⟩ : Block).InLap glesBridgeDataSize := by
  have pos := glesBridgeDataSize_pos
  have lap := Nat.div_add_mod head glesBridgeDataSize
  have within := Nat.mod_lt head pos
  simp only [ringDataAlloc] at placed
  split_ifs at placed with fits room room
  · obtain ⟨rfl, rfl⟩ : head % glesBridgeDataSize = offset ∧ head + alignUp size = newHead := by
      simpa using placed
    simp only [Block.InLap, Block.offset, Nat.add_sub_cancel]
    exact ⟨by omega, by omega, by omega, trivial, by omega⟩
  · obtain ⟨rfl, rfl⟩ : 0 = offset ∧
        head + (glesBridgeDataSize - head % glesBridgeDataSize) + alignUp size = newHead := by
      simpa using placed
    have start : (head + (glesBridgeDataSize - head % glesBridgeDataSize)) % glesBridgeDataSize = 0 := by
      have whole : head + (glesBridgeDataSize - head % glesBridgeDataSize) =
          glesBridgeDataSize * (head / glesBridgeDataSize + 1) := by
        rw [Nat.mul_add, Nat.mul_one]
        omega
      rw [whole, Nat.mul_mod_right]
    simp only [Block.InLap, Block.offset, Nat.add_sub_cancel, start]
    exact ⟨by omega, by omega, by omega, trivial, by omega⟩

/-! ## The ranges handed out -/

variable {cfg : Config} {Tid Gl : Type}

def Event.allocation? (seq : Nat) : Event Tid Gl → Option Allocation
  | .allocated _ owner allocation => if owner = seq then some allocation else none
  | _ => none

/-- What `ring_data_alloc` has returned to a command. -/
def allocations (trace : List (Event Tid Gl)) (seq : Nat) : List Allocation :=
  trace.filterMap (Event.allocation? seq)

/-- The allocations of the commands `first ≤ seq < last`. -/
def allocationsIn (trace : List (Event Tid Gl)) (first last : Nat) : List Allocation :=
  (List.range' first (last - first)).flatMap (allocations trace)

def blocksIn (trace : List (Event Tid Gl)) (first last : Nat) : List Block :=
  (allocationsIn trace first last).map Allocation.block

section Allocations

variable {trace trace' : List (Event Tid Gl)} {e : Event Tid Gl} {seq first middle last : Nat}

theorem allocations_snoc (trace : List (Event Tid Gl)) (e : Event Tid Gl) (seq : Nat) :
    allocations (trace ++ [e]) seq = allocations trace seq ++ (e.allocation? seq).toList := by
  cases found : e.allocation? seq <;> simp [allocations, found]

theorem blocksIn_congr
    (same : ∀ seq, first ≤ seq → seq < last → allocations trace' seq = allocations trace seq) :
    blocksIn trace' first last = blocksIn trace first last := by
  simp only [blocksIn, allocationsIn]
  congr 1
  apply List.flatMap_congr
  intro seq member
  rw [List.mem_range'_1] at member
  exact same seq member.1 (by omega)

theorem blocksIn_cons (ordered : first < last) :
    blocksIn trace first last =
      (allocations trace first).map Allocation.block ++ blocksIn trace (first + 1) last := by
  have count : last - first = last - (first + 1) + 1 := by omega
  simp only [blocksIn, allocationsIn, count, List.range'_succ, List.flatMap_cons, List.map_append]

theorem blocksIn_snoc (ordered : first ≤ last) :
    blocksIn trace first (last + 1) =
      blocksIn trace first last ++ (allocations trace last).map Allocation.block := by
  have count : last + 1 - first = last - first + 1 := by omega
  simp [blocksIn, allocationsIn, count, List.range'_concat, Nat.add_sub_cancel' ordered]

theorem blocksIn_self : blocksIn trace first first = [] := by
  simp [blocksIn, allocationsIn]

end Allocations

/-! ## The layout of the arena -/

def BridgeCtrl.watermark? (slot : BridgeCtrl) : Option Nat :=
  if slot.dataWatermarkValid then some slot.dataWatermark else none

/-- The first command whose range has not been given back. -/
def State.released (s : State cfg Tid Gl) : Nat := s.completed + s.proxyPc.released

/-- The blocks of the commands whose ranges have not been given back lie in a row
from `data_tail` to the head, and each slot remembers where its own ones end. -/
structure ArenaLaid (trace : List (Event Tid Gl)) (s : State cfg Tid Gl) : Prop where
  fresh : ∀ seq, s.localSeq ≤ seq → allocations trace seq = []
  inLap : ∀ seq, ∀ given ∈ allocations trace seq, given.size ≤ given.block.size ∧
    given.block.offset glesBridgeDataSize = given.offset ∧ given.block.InLap glesBridgeDataSize
  room : s.localDataHead ≤ s.dataTail + glesBridgeDataSize
  laid : Block.Laid s.dataTail (blocksIn trace s.released s.localSeq) s.localDataHead
  marks : ∀ seq, s.released ≤ seq → seq < s.localSeq →
    (s.slots (cfg.slotIndex seq)).watermark? =
      ((allocations trace seq).map Allocation.block).getLast?.map Block.stop

section Steps

variable {trace : List (Event Tid Gl)} {e : Event Tid Gl} {s s' : State cfg Tid Gl} {t : Tid}

theorem Counters.released_le (counters : Counters s) : s.released ≤ s.publishedSeq := by
  have behind := counters.behind
  have busy := counters.busy
  simp only [State.released]
  cases pc : s.proxyPc <;> simp only [pc, ProxyPc.released, ProxyPc.answered] at busy ⊢ <;>
    simp at busy <;> omega

theorem ArenaLaid.keep (holds : ArenaLaid trace s)
    (unallocated : ∀ seq, e.allocation? seq = none) (localSeq : s'.localSeq = s.localSeq)
    (released : s'.released = s.released) (dataTail : s'.dataTail = s.dataTail)
    (head : s'.localDataHead = s.localDataHead)
    (marks : ∀ index, (s'.slots index).watermark? = (s.slots index).watermark?) :
    ArenaLaid (trace ++ [e]) s' := by
  have same : ∀ seq, allocations (trace ++ [e]) seq = allocations trace seq := fun seq => by
    simp [allocations_snoc, unallocated seq]
  constructor
  case fresh =>
    intro seq past
    rw [same]
    exact holds.fresh seq (localSeq ▸ past)
  case inLap =>
    intro seq given member
    rw [same] at member
    exact holds.inLap seq given member
  case room => rw [head, dataTail]; exact holds.room
  case laid =>
    rw [blocksIn_congr (fun seq _ _ => same seq), released, localSeq, dataTail, head]
    exact holds.laid
  case marks =>
    intro seq lower upper
    rw [same, marks]
    exact holds.marks seq (released ▸ lower) (localSeq ▸ upper)

theorem Event.allocation?_of_plain (plain : e.plain = true) (seq : Nat) :
    e.allocation? seq = none := by
  cases e <;> simp [Event.plain] at plain <;> rfl

theorem State.setSlot_watermark (s : State cfg Tid Gl) {index : Fin cfg.ringSlots}
    {slot : BridgeCtrl} (same : slot.watermark? = (s.slots index).watermark?)
    (other : Fin cfg.ringSlots) :
    ((s.setSlot index slot).slots other).watermark? = (s.slots other).watermark? := by
  by_cases written : other = index
  · subst written
    rw [s.setSlot_self, same]
  · rw [s.setSlot_of_ne slot written]

theorem SlotWrite.apply_watermark (write : SlotWrite) (slot : BridgeCtrl) :
    (write.apply slot).watermark? = slot.watermark? := by
  cases write <;> rfl

variable [DecidableEq Tid] {proxy : Dispatcher Gl}

theorem ArenaLaid.allocate (holds : ArenaLaid trace s) (counters : Counters s)
    (filling : (s.threads t).pc.stage = .filling) {size offset newHead : Nat} {src : Option Bytes}
    (admitted : size ≤ glesBridgeDataSize)
    (placed : ringDataAlloc s.localDataHead s.dataTail size = some (offset, newHead)) :
    ArenaLaid
      (trace ++ [.allocated t (s.threads t).curSeq
        ⟨offset, size, ⟨newHead - alignUp size, alignUp size⟩⟩])
      (s.bridgeDataWrite t size src offset newHead) := by
  obtain ⟨ahead, current⟩ := counters.filling t filling
  have released := counters.released_le
  have window := counters.window
  have behind : s.completed ≤ s.released := Nat.le_add_right ..
  obtain ⟨enough, past, room, start, inLap⟩ := ringDataAlloc_spec holds.laid.le placed
  have stop : (⟨newHead - alignUp size, alignUp size⟩ : Block).stop = newHead := by
    simp only [Block.stop]
    omega
  have other : ∀ seq, seq ≠ (s.threads t).curSeq → allocations (trace ++
      [.allocated t (s.threads t).curSeq ⟨offset, size, ⟨newHead - alignUp size, alignUp size⟩⟩]) seq =
      allocations trace seq := by
    intro seq different
    simp [allocations_snoc, Event.allocation?, Ne.symm different]
  have own : allocations (trace ++
      [.allocated t (s.threads t).curSeq ⟨offset, size, ⟨newHead - alignUp size, alignUp size⟩⟩])
        (s.threads t).curSeq =
      allocations trace (s.threads t).curSeq ++ [⟨offset, size, ⟨newHead - alignUp size, alignUp size⟩⟩] := by
    simp [allocations_snoc, Event.allocation?]
  constructor
  case fresh =>
    intro seq past
    have past : s.localSeq ≤ seq := past
    rw [other seq (by omega)]
    exact holds.fresh seq past
  case inLap =>
    intro seq given member
    by_cases same : seq = (s.threads t).curSeq
    · subst same
      rw [own, List.mem_append, List.mem_singleton] at member
      rcases member with earlier | now
      · exact holds.inLap _ given earlier
      · cases now
        exact ⟨le_alignUp admitted, start, inLap⟩
    · rw [other seq same] at member
      exact holds.inLap seq given member
  case room => exact room
  case laid =>
    show Block.Laid s.dataTail (blocksIn _ s.released s.localSeq) newHead
    have before := holds.laid
    have last : s.localSeq = (s.threads t).curSeq + 1 := by omega
    rw [last, blocksIn_snoc (by omega)] at before ⊢
    rw [blocksIn_congr (fun seq _ below => other seq (Nat.ne_of_lt below)), own, List.map_append,
      ← List.append_assoc]
    have row : Block.Laid s.dataTail (_ ++ [(⟨newHead - alignUp size, alignUp size⟩ : Block)]) _ :=
      before.snoc past
    rwa [stop] at row
  case marks =>
    intro seq lower upper
    have lower : s.released ≤ seq := lower
    have upper : seq < s.localSeq := upper
    by_cases same : seq = (s.threads t).curSeq
    · subst same
      have marked : (s.bridgeDataWrite t size src offset newHead).slots
          (cfg.slotIndex (s.threads t).curSeq) =
          { s.slots (s.curIndex t) with
            dataWatermark := newHead
            dataWatermarkValid := true } := State.setSlot_self ..
      rw [marked, own]
      simp [BridgeCtrl.watermark?, stop]
    · have untouched : (s.bridgeDataWrite t size src offset newHead).slots (cfg.slotIndex seq) =
          s.slots (cfg.slotIndex seq) :=
        State.setSlot_of_ne _ _ (Config.slotIndex_ne (by omega) (by omega))
      rw [untouched, other seq same]
      exact holds.marks seq lower upper

omit [DecidableEq Tid] in
/-- `data_tail` goes to the end of the blocks of the command that is released. -/
theorem ArenaLaid.giveBack_tail (holds : ArenaLaid trace s) (counters : Counters s)
    (here : s.proxyPc = .release) :
    Block.Laid s.dataTail ((allocations trace s.completed).map Allocation.block)
      s.releaseData.dataTail := by
  have busy := counters.busy (.inr (by rw [here]; rfl))
  have published := counters.published_le_local
  have released : s.released = s.completed := by simp only [State.released, here]; rfl
  have laid := holds.laid
  rw [released, blocksIn_cons (by omega), Block.Laid.append_iff] at laid
  obtain ⟨middle, own, -⟩ := laid
  have mark := holds.marks s.completed (by omega) (by omega)
  have tail : s.releaseData.dataTail = middle := by
    rw [own.head_eq, ← mark]
    cases valid : (s.slots (cfg.slotIndex s.completed)).dataWatermarkValid <;>
      simp [State.releaseData, BridgeCtrl.watermark?, State.proxyIndex, valid]
  rwa [tail]

omit [DecidableEq Tid] in
theorem ArenaLaid.giveBack (holds : ArenaLaid trace s) (counters : Counters s)
    (here : s.proxyPc = .release) : ArenaLaid (trace ++ [.quiet none]) s.releaseData := by
  have busy := counters.busy (.inr (by rw [here]; rfl))
  have published := counters.published_le_local
  have released : s.released = s.completed := by simp only [State.released, here]; rfl
  have after : s.releaseData.released = s.completed + 1 := rfl
  have same : ∀ seq, allocations (trace ++ [.quiet none]) seq = allocations trace seq := fun seq => by
    simp [allocations_snoc, Event.allocation?]
  have own := holds.giveBack_tail counters here
  constructor
  case fresh =>
    intro seq past
    rw [same]
    exact holds.fresh seq past
  case inLap =>
    intro seq given member
    rw [same] at member
    exact holds.inLap seq given member
  case room => exact holds.room.trans (Nat.add_le_add_right own.le _)
  case laid =>
    have laid := holds.laid
    rw [released, blocksIn_cons (by omega)] at laid
    rw [blocksIn_congr (fun seq _ _ => same seq), after]
    exact own.drop laid
  case marks =>
    intro seq lower upper
    rw [same]
    exact holds.marks seq (by omega) upper

theorem ArenaLaid.reserve (holds : ArenaLaid trace s) (counters : Counters s)
    (room : s.hasRoom = true) :
    ArenaLaid (trace ++ [.begun t s.localSeq s.localDataHead]) (s.bridgeBegin t) := by
  have released := counters.released_le
  have published := counters.published_le_local
  have behind : s.completed ≤ s.released := Nat.le_add_right ..
  have copy := counters.proxyCopy
  have fits : s.localSeq - s.completedSeq < cfg.ringSlots := by simpa [State.hasRoom] using room
  have same : ∀ seq, allocations (trace ++ [.begun t s.localSeq s.localDataHead]) seq =
      allocations trace seq := fun seq => by simp [allocations_snoc, Event.allocation?]
  have empty := holds.fresh s.localSeq (Nat.le_refl _)
  constructor
  case fresh =>
    intro seq past
    rw [same]
    exact holds.fresh seq ((Nat.le_succ _).trans past)
  case inLap =>
    intro seq given member
    rw [same] at member
    exact holds.inLap seq given member
  case room => exact holds.room
  case laid =>
    show Block.Laid s.dataTail (blocksIn _ s.released (s.localSeq + 1)) s.localDataHead
    rw [blocksIn_congr (fun seq _ _ => same seq), blocksIn_snoc (by omega), empty, List.map_nil,
      List.append_nil]
    exact holds.laid
  case marks =>
    intro seq lower upper
    have lower : s.released ≤ seq := lower
    have upper : seq < s.localSeq + 1 := upper
    rw [same]
    by_cases last : seq = s.localSeq
    · subst last
      have cleared : ((s.bridgeBegin t).slots (cfg.slotIndex s.localSeq)).watermark? = none := by
        rw [State.bridgeBegin, State.setThread, State.setSlot_self]
        rfl
      rw [cleared, empty]
      rfl
    · have untouched : (s.bridgeBegin t).slots (cfg.slotIndex seq) = s.slots (cfg.slotIndex seq) :=
        State.setSlot_of_ne _ _ (Config.slotIndex_ne (by omega) (by omega))
      rw [untouched]
      exact holds.marks seq lower (by omega)

/-- `ring_data_alloc` loops only for a size it has admitted. -/
theorem Step.admitted (taken : Step proxy s e s') {size : Nat} {src : Option Bytes}
    (now : (s'.threads t).pc = .alloc size src) :
    (s.threads t).pc = .alloc size src ∨ size ≤ glesBridgeDataSize := by
  by_cases acts : e.actor = some t
  case neg => exact .inl (taken.threads_of_ne acts ▸ now)
  have never {thread : Thread} (threads : s'.threads = Function.update s.threads t thread)
      (left : thread.pc ≠ .alloc size src) :
      (s.threads t).pc = .alloc size src ∨ size ≤ glesBridgeDataSize := by
    rw [threads, Function.update_self] at now
    exact (left now).elim
  cases taken with
  | dataEnter _ _ _ admitted =>
      cases acts
      rw [State.setPc_self] at now
      cases now
      exact .inr admitted
  | ringFull | dataFull | readSlot | readData | readDataOffset | fill => exact .inl now
  | selectCtx =>
      cases acts
      rw [State.setThread_self] at now
      exact .inl now
  | @finishSwap t =>
      cases acts
      obtain ⟨value, threads⟩ := s.finishSwap_threads t
      exact never threads nofun
  | @loadWaiting t mode =>
      cases acts
      refine never rfl fun same => ?_
      have stage := s.afterPublish_stage t mode
      simp only at same
      split_ifs at same
      rw [same] at stage
      cases stage
  | @postReq t mode =>
      cases acts
      refine never rfl fun same => ?_
      have stage := s.afterPublish_stage t mode
      rw [show s.afterPublish t mode = .alloc size src from same] at stage
      cases stage
  | @unlock t mode =>
      cases acts
      refine never rfl fun same => ?_
      simp only at same
      split_ifs at same
  | load | spin | setWaiting | recheck | wake | clearWaiting | dispatch | release | complete
  | post => cases acts
  | lock | begin | dataAbort | dataWrite | publish | waitDone | waitMiss | efdWait | copyReply
  | leave =>
      cases acts
      exact never rfl nofun

theorem admitted_of_run (run : (bridge cfg Tid proxy).Run trace s) {size : Nat}
    {src : Option Bytes} (here : (s.threads t).pc = .alloc size src) :
    size ≤ glesBridgeDataSize := by
  induction run with
  | start initial =>
      obtain ⟨clientPid, gl, rfl⟩ := initial
      cases here
  | step run taken ih => exact (taken.admitted here).elim ih id

theorem ArenaLaid.of_run (run : (bridge cfg Tid proxy).Run trace s) : ArenaLaid trace s := by
  induction run with
  | start initial =>
      obtain ⟨clientPid, gl, rfl⟩ := initial
      exact ⟨fun _ _ => rfl, nofun, Nat.zero_le _, rfl, nofun⟩
  | @step trace s e s' run taken holds =>
      have counters := Counters.of_run run
      cases taken.move with
      | keep plain frame =>
          exact holds.keep (Event.allocation?_of_plain plain) frame.localSeq
            (by simp only [State.released, frame.completed, frame.released]) frame.dataTail
            frame.localDataHead (fun _ => by rw [frame.slots])
      | acquire | unlock =>
          exact holds.keep (fun _ => rfl) rfl rfl rfl rfl (fun _ => rfl)
      | fill write =>
          exact holds.keep (fun _ => rfl) rfl rfl rfl rfl
            (s.setSlot_watermark (write.apply_watermark _))
      | publish => exact holds.keep (fun _ => rfl) rfl rfl rfl rfl (s.setSlot_watermark rfl)
      | dispatch here =>
          exact holds.keep (fun _ => rfl) rfl (by simp only [State.released, here]; rfl) rfl rfl
            (s.setSlot_watermark rfl)
      | complete here =>
          refine holds.keep (fun _ => rfl) rfl ?_ rfl rfl (fun _ => rfl)
          simp only [State.released, State.complete, here]
          split_ifs <;> rfl
      | dataWrite filling placed here =>
          exact holds.allocate counters filling (admitted_of_run run here) placed
      | release here => exact holds.giveBack counters here
      | begin reserving room => exact holds.reserve counters room

/-! ## Ranges of live commands -/

/-- The byte ranges that the calls returned have no byte in common. -/
def Allocation.Apart (left right : Allocation) : Prop :=
  left.offset + left.size ≤ right.offset ∨ right.offset + right.size ≤ left.offset

omit [DecidableEq Tid] in
theorem mem_allocationsIn {first last : Nat} {given : Allocation}
    (member : given ∈ allocationsIn trace first last) :
    ∃ seq, given ∈ allocations trace seq := by
  obtain ⟨seq, -, own⟩ := List.mem_flatMap.mp member
  exact ⟨seq, own⟩

/-- The ranges returned to commands whose space has not been given back lie in
the arena and are pairwise disjoint, and the head is at most one lap ahead. -/
theorem live_ranges_apart (run : (bridge cfg Tid proxy).Run trace s) :
    (∀ given ∈ allocationsIn trace s.released s.localSeq,
      given.offset + given.size ≤ glesBridgeDataSize) ∧
    (allocationsIn trace s.released s.localSeq).Pairwise Allocation.Apart ∧
    s.dataTail ≤ s.localDataHead ∧ s.localDataHead ≤ s.dataTail + glesBridgeDataSize := by
  have holds := ArenaLaid.of_run run
  refine ⟨fun given member => ?_, ?_, holds.laid.le, holds.room⟩
  · obtain ⟨seq, own⟩ := mem_allocationsIn member
    obtain ⟨enough, start, inLap⟩ := holds.inLap seq given own
    simp only [Block.InLap, start] at inLap
    omega
  · refine (List.pairwise_map.mp (holds.laid.disjointOn holds.room)).imp_of_mem ?_
    intro left right inLeft inRight apart
    obtain ⟨leftSeq, leftOwn⟩ := mem_allocationsIn inLeft
    obtain ⟨rightSeq, rightOwn⟩ := mem_allocationsIn inRight
    obtain ⟨leftEnough, leftStart, -⟩ := holds.inLap leftSeq left leftOwn
    obtain ⟨rightEnough, rightStart, -⟩ := holds.inLap rightSeq right rightOwn
    simp only [Block.DisjointOn, leftStart, rightStart] at apart
    simp only [Allocation.Apart]
    omega

theorem live_ranges_apart_two_commands :
    ∃ trace, ∃ s : State .default Bool Unit,
      (bridge .default Bool (.uniform (.constant 7))).Run trace s ∧
      (allocationsIn trace s.released s.localSeq).map Allocation.offset = [0, 8, 12] ∧
      (∀ given ∈ allocationsIn trace s.released s.localSeq,
        given.offset + given.size ≤ glesBridgeDataSize) ∧
      (allocationsIn trace s.released s.localSeq).Pairwise Allocation.Apart ∧
      s.dataTail ≤ s.localDataHead ∧ s.localDataHead ≤ s.dataTail + glesBridgeDataSize := by
  have run : (bridge .default Bool (.uniform (.constant 7))).Run [] (.initial .default 1 ()) :=
    .start ⟨1, (), rfl⟩
  have run := run.step (.lock (t := true) rfl rfl)
  have run := run.step (.begin (t := true) rfl rfl)
  have run := run.step (.dataEnter (t := true) 5 none rfl (by decide))
  have run := run.step (.dataWrite (t := true) rfl rfl)
  have run := run.step (.dataEnter (t := true) 4 none rfl (by decide))
  have run := run.step (.dataWrite (t := true) rfl rfl)
  have run := run.step (.publish (t := true) .void rfl)
  have run := run.step (.loadWaiting (t := true) rfl)
  have run := run.step (.unlock (t := true) rfl)
  have run := run.step (.lock (t := false) rfl rfl)
  have run := run.step (.begin (t := false) rfl rfl)
  have run := run.step (.dataEnter (t := false) 16 none rfl (by decide))
  have run := run.step (.dataWrite (t := false) rfl rfl)
  exact ⟨_, _, run, rfl, live_ranges_apart run⟩

/-- Between the release of its range and the store of `completed_seq` a command
is not completed, yet its range may already have gone to another one. -/
theorem uncompleted_ranges_overlap :
    ∃ trace, ∃ s : State .default Bool Unit,
      (bridge .default Bool (.uniform (.constant 7))).Run trace s ∧
      ¬ (allocationsIn trace s.completedSeq s.localSeq).Pairwise Allocation.Apart := by
  have run : (bridge .default Bool (.uniform (.constant 7))).Run [] (.initial .default 1 ()) :=
    .start ⟨1, (), rfl⟩
  have run := run.step (.lock (t := true) rfl rfl)
  have run := run.step (.begin (t := true) rfl rfl)
  have run := run.step (.dataEnter (t := true) glesBridgeDataSize none rfl (Nat.le_refl _))
  have run := run.step (.dataWrite (t := true) rfl rfl)
  have run := run.step (.publish (t := true) .void rfl)
  have run := run.step (.loadWaiting (t := true) rfl)
  have run := run.step (.unlock (t := true) rfl)
  have run := run.step (.load rfl)
  have run := run.step (.dispatch rfl)
  have run := run.step (.release rfl)
  have run := run.step (.lock (t := false) rfl rfl)
  have run := run.step (.begin (t := false) rfl rfl)
  have run := run.step (.dataEnter (t := false) 4 none rfl (by decide))
  have run := run.step (.dataWrite (t := false) rfl rfl)
  refine ⟨_, _, run, fun apart => ?_⟩
  have both : Allocation.Apart ⟨0, glesBridgeDataSize, ⟨0, glesBridgeDataSize⟩⟩
      ⟨0, 4, ⟨glesBridgeDataSize, 4⟩⟩ := (List.pairwise_cons.mp apart).1 _ (.head _)
  exact absurd both (by simp [Allocation.Apart, glesBridgeDataSize])

end Steps

end GlesBridge.Ring
