import GlesBridge.Ring.Step

namespace GlesBridge.Ring

open GlesBridge.Data GlesBridge.Systems

variable {cfg : Config} {Tid Gl : Type}

/-! ## What a step can do -/

def Event.plain : Event Tid Gl → Bool
  | .quiet _ | .posted _ | .readSlot .. | .readData .. => true
  | _ => false

/-- The memory shared by stub and proxy, the counters and the stage of every
thread are as before. -/
structure Frame (s s' : State cfg Tid Gl) : Prop where
  publishedSeq : s'.publishedSeq = s.publishedSeq
  completedSeq : s'.completedSeq = s.completedSeq
  completed : s'.completed = s.completed
  dataTail : s'.dataTail = s.dataTail
  resultBuf : s'.resultBuf = s.resultBuf
  slots : s'.slots = s.slots
  arena : s'.arena = s.arena
  lock : s'.lock = s.lock
  localSeq : s'.localSeq = s.localSeq
  localDataHead : s'.localDataHead = s.localDataHead
  answered : s'.proxyPc.answered = s.proxyPc.answered
  released : s'.proxyPc.released = s.proxyPc.released
  dispatching : s'.proxyPc = .dispatch → s.proxyPc = .dispatch ∨ s.completed < s.publishedSeq
  curSeq : ∀ t, (s'.threads t).curSeq = (s.threads t).curSeq
  allocs : ∀ t, (s'.threads t).allocs = (s.threads t).allocs
  stage : ∀ t, (s'.threads t).pc.stage = (s.threads t).pc.stage

theorem Frame.refl (s : State cfg Tid Gl) : Frame s s := by
  constructor <;> first | rfl | exact Or.inl | exact fun _ => rfl

theorem State.afterPublish_stage (s : State cfg Tid Gl) (t : Tid) (mode : SendMode) :
    (s.afterPublish t mode).stage = .sending := by
  cases mode <;> simp only [State.afterPublish]
  · rfl
  · rfl
  · split
    · split <;> rfl
    · rfl

variable [DecidableEq Tid]

/-- The steps sorted by what they do to the ring. -/
inductive Move (proxy : Dispatcher Gl) :
    State cfg Tid Gl → Event Tid Gl → State cfg Tid Gl → Prop where
  | keep {s e s'} (plain : e.plain = true) (frame : Frame s s') : Move proxy s e s'
  | acquire {s t} (outside : (s.threads t).pc.stage = .outside) (free : s.lock = none) :
      Move proxy s (.quiet (some t)) (s.acquire t)
  | begin {s t} (reserving : (s.threads t).pc.stage = .reserving) (room : s.hasRoom = true) :
      Move proxy s (.begun t s.localSeq s.localDataHead) (s.bridgeBegin t)
  | fill {s t} (write : SlotWrite) (filling : (s.threads t).pc.stage = .filling) :
      Move proxy s (.quiet (some t)) (s.writeSlot t write)
  | dataWrite {s t size src offset newHead} (filling : (s.threads t).pc.stage = .filling)
      (placed : ringDataAlloc s.localDataHead s.dataTail size = some (offset, newHead))
      (here : (s.threads t).pc = .alloc size src) :
      Move proxy s
        (.allocated t (s.threads t).curSeq
          ⟨offset, size, ⟨newHead - alignUp size, alignUp size⟩⟩)
        (s.bridgeDataWrite t size src offset newHead)
  | publish {s t} (mode : SendMode) (filling : (s.threads t).pc.stage = .filling) :
      Move proxy s
        (.published t (s.threads t).curSeq mode ((s.publishCur t mode).slots (s.curIndex t)))
        (s.publishCur t mode)
  | unlock {s t mode value} (here : (s.threads t).pc = .unlock mode value) :
      Move proxy s (.returned t (s.threads t).curSeq mode value) (s.release t mode)
  | dispatch {s} (here : s.proxyPc = .dispatch) :
      Move proxy s (.dispatched s.completed (s.slots s.proxyIndex) (s.outcome proxy))
        (s.dispatch proxy)
  | release {s} (here : s.proxyPc = .release) : Move proxy s (.quiet none) s.releaseData
  | complete {s} (here : s.proxyPc = .complete) :
      Move proxy s (.completed s.completed) s.complete

variable {proxy : Dispatcher Gl} {s s' : State cfg Tid Gl} {e : Event Tid Gl} {t u : Tid}

/-- Changing what a thread does within its stage keeps the frame. -/
theorem Frame.setThread {thread : Thread} (seq : thread.curSeq = (s.threads t).curSeq)
    (blocks : thread.allocs = (s.threads t).allocs)
    (stage : thread.pc.stage = (s.threads t).pc.stage) : Frame s (s.setThread t thread) := by
  constructor <;> try rfl
  · exact Or.inl
  all_goals
    intro u
    by_cases same : u = t
    · subst same
      simpa [State.setThread]
    · simp [State.setThread, same]

theorem Frame.setPc {pc : Pc} (stage : pc.stage = (s.threads t).pc.stage) :
    Frame s (s.setPc t pc) :=
  .setThread rfl rfl stage

theorem Step.move (taken : Step proxy s e s') : Move proxy s e s' := by
  cases taken with
  | lock here free => exact .acquire (by rw [here]; rfl) free
  | ringFull => exact .keep rfl (.refl s)
  | begin here room => exact .begin (by rw [here]; rfl) room
  | fill write here => exact .fill write (by rw [here]; rfl)
  | selectCtx => exact .keep rfl (.setThread rfl rfl rfl)
  | dataEnter _ _ here => exact .keep rfl (.setPc (by rw [here]; rfl))
  | dataAbort _ here => exact .keep rfl (.setPc (by rw [here]; rfl))
  | dataFull => exact .keep rfl (.refl s)
  | dataWrite here placed => exact .dataWrite (by rw [here]; rfl) placed here
  | publish mode here => exact .publish mode (by rw [here]; rfl)
  | @loadWaiting t mode here =>
      refine .keep rfl (.setPc ?_)
      rw [here]
      split
      · rfl
      · exact s.afterPublish_stage t mode
  | @postReq t mode here =>
      have frame : Frame s (s.setPc t (s.afterPublish t mode)) :=
        .setPc (by rw [here]; exact s.afterPublish_stage t mode)
      exact .keep rfl { frame with }
  | waitDone here => exact .keep rfl (.setPc (by rw [here]; rfl))
  | waitMiss _ here => exact .keep rfl (.setPc (by rw [here]; rfl))
  | @efdWait t mode target here =>
      have frame : Frame s (s.setPc t (.wait mode target .recheck)) :=
        .setPc (by rw [here]; rfl)
      exact .keep rfl { frame with }
  | copyReply here => exact .keep rfl (.setThread rfl rfl (by rw [here]; rfl))
  | @finishSwap t here =>
      simp only [State.finishSwap]
      split
      · have frame : Frame s (s.setPc t (.unlock .swap 1)) := .setPc (by rw [here]; rfl)
        exact .keep rfl { frame with }
      · exact .keep rfl (.setPc (by rw [here]; rfl))
  | unlock here => exact .unlock here
  | readSlot => exact .keep rfl (.refl s)
  | readData => exact .keep rfl (.refl s)
  | readDataOffset => exact .keep rfl (.refl s)
  | leave here => exact .keep rfl (.setPc (by rw [here]; rfl))
  | load here =>
      refine .keep rfl { Frame.refl s with answered := ?_, released := ?_, dispatching := ?_ }
      · rw [here]
        split_ifs <;> rfl
      · rw [here]
        split_ifs <;> rfl
      · intro dispatching
        split_ifs at dispatching with ahead
        exact .inr ahead
  | spin deadline here =>
      refine .keep rfl { Frame.refl s with answered := ?_, released := ?_, dispatching := ?_ }
      · rw [here]
        split_ifs <;> rfl
      · rw [here]
        split_ifs <;> rfl
      · intro dispatching
        split_ifs at dispatching
  | setWaiting here =>
      exact .keep rfl { Frame.refl s with
        answered := by rw [here]; rfl
        released := by rw [here]; rfl
        dispatching := nofun }
  | recheck here =>
      refine .keep rfl { Frame.refl s with answered := ?_, released := ?_, dispatching := ?_ }
      · rw [here]
        split_ifs <;> rfl
      · rw [here]
        split_ifs <;> rfl
      · intro dispatching
        split_ifs at dispatching
  | wake here =>
      exact .keep rfl { Frame.refl s with
        answered := by rw [here]; rfl
        released := by rw [here]; rfl
        dispatching := nofun }
  | clearWaiting here =>
      exact .keep rfl { Frame.refl s with
        answered := by rw [here]; rfl
        released := by rw [here]; rfl
        dispatching := nofun }
  | dispatch here => exact .dispatch here
  | release here => exact .release here
  | complete here => exact .complete here
  | post here =>
      exact .keep rfl { Frame.refl s with
        answered := by rw [here]; rfl
        released := by rw [here]; rfl
        dispatching := nofun }

end GlesBridge.Ring
