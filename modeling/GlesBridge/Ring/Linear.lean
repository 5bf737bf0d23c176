import GlesBridge.Ring.Reply
import GlesBridge.Ring.Uploads

namespace GlesBridge.Ring

open GlesBridge.Data GlesBridge.Systems

/-! The bridge as one object: every command acts when it is published, and every call
returns the answer to its own command. -/

/-! ## What the commands mean -/

/-- What `bridge_send_call` gives to its entry point: the value that it returns and the
bytes in `t_result`. -/
structure Reply where
  value : UInt64
  bytes : List UInt8

def replyBytes (length : UInt32) (resultBuf : ResultBuf) : List UInt8 :=
  ((List.finRange bridgeResultSize).take length.toNat).map resultBuf

def Outcome.reply {Gl : Type} (outcome : Outcome Gl) : Reply :=
  ⟨outcome.result, replyBytes outcome.resultBufLen outcome.resultBuf⟩

/-- A command, and the arena as its own thread has filled it. -/
structure SentCommand where
  slot : BridgeCtrl
  bytes : Bytes

/-- An effect on the driver and an answer, by the slot and by the bytes at the places
that the slot names. -/
structure Meaning (Gl : Type) where
  Names : BridgeCtrl → Nat → Prop
  perform : SentCommand → Gl → Gl × Reply
  only_named : ∀ slot bytes other gl, (∀ address, Names slot address → bytes address = other address) →
    perform ⟨slot, bytes⟩ gl = perform ⟨slot, other⟩ gl

/-- The handlers do what the commands mean, whatever `result_buf` holds. -/
def Dispatcher.Implements {Gl : Type} (proxy : Dispatcher Gl) (meaning : Meaning Gl) : Prop :=
  ∀ slot resultBuf arena gl, slot.resultBufLen = 0 →
    ((proxy.run slot resultBuf arena gl).gl, (proxy.run slot resultBuf arena gl).reply) =
      meaning.perform ⟨slot, arena⟩ gl

/-! ## What the clients do -/

def Upload.Holds (upload : Upload) (address : Nat) : Prop :=
  upload.given.offset ≤ address ∧ address < upload.given.offset + upload.given.size

instance Upload.decidableHolds (upload : Upload) (address : Nat) : Decidable (upload.Holds address) :=
  inferInstanceAs (Decidable (_ ∧ _))

/-- The arena as the uploads of one command fill it. -/
def clientBytes (uploads : List Upload) (seq : Nat) : Bytes := fun address =>
  match uploads.find? fun upload => upload.seq = seq ∧ upload.Holds address with
  | some upload => upload.src (address - upload.given.offset)
  | none => 0

variable {cfg : Config} {Tid Gl : Type}

/-- A command is published with all the bytes that it names. -/
def Uploaded (meaning : Meaning Gl) (uploads : List Upload) (command : Nat × BridgeCtrl) : Prop :=
  ∀ address, meaning.Names command.2 address →
    ∃ upload ∈ uploads, upload.seq = command.1 ∧ upload.Holds address

/-- Clients upload what their commands name, and handlers write in the ranges of their
own commands. -/
def Proper (meaning : Meaning Gl) (trace : List (Event Tid Gl))
    (held : State cfg Tid Gl × List Upload) (e : Event Tid Gl) : Prop :=
  KeepsToOwn trace held.1 e ∧
    ∀ command, e.fifoAction = .enqueue command → Uploaded meaning held.2 command

/-- What a step does to the object. -/
def callOf (held : State cfg Tid Gl × List Upload) :
    Event Tid Gl → List (ObjectAction Tid SentCommand Reply)
  | .published t seq _ slot => [.submit t ⟨slot, clientBytes held.2 seq⟩]
  | .dispatched .. => [.serve]
  | .returned t seq .call value =>
      [.answer t seq ⟨value, replyBytes (held.1.threads t).resultLen (held.1.threads t).resultBuf⟩]
  | _ => []

def calling (cfg : Config) (Tid : Type) [DecidableEq Tid] (proxy : Dispatcher Gl) :
    Lts ((State cfg Tid Gl × List Upload) × List (ObjectAction Tid SentCommand Reply))
      (Event Tid Gl) :=
  (uploading cfg Tid proxy).recorded callOf

/-! ## Uploads of one command -/

section Bytes

variable {uploads fresh : List Upload} {seq : Nat} {arena : Bytes}

theorem clientBytes_append (later : ∀ upload ∈ fresh, upload.seq ≠ seq) :
    clientBytes (uploads ++ fresh) seq = clientBytes uploads seq := by
  have absent (address : Nat) :
      (fresh.find? fun upload => upload.seq = seq ∧ upload.Holds address) = none := by
    rw [List.find?_eq_none]
    intro upload member found
    exact later upload member (of_decide_eq_true found).1
  funext address
  simp only [clientBytes, List.find?_append, absent, Option.or_none]

theorem clientBytes_of_intact
    (intact : ∀ upload ∈ uploads, upload.seq = seq → upload.Intact arena) {address : Nat}
    (uploaded : ∃ upload ∈ uploads, upload.seq = seq ∧ upload.Holds address) :
    clientBytes uploads seq address = arena address := by
  cases found : uploads.find? fun upload => upload.seq = seq ∧ upload.Holds address with
  | none =>
      obtain ⟨upload, member, holds⟩ := uploaded
      exact absurd (decide_eq_true holds) (List.find?_eq_none.mp found upload member)
  | some upload =>
      have picked := List.find?_some found
      obtain ⟨same, low, high⟩ : upload.seq = seq ∧ upload.Holds address := of_decide_eq_true picked
      have kept := intact upload (List.mem_of_find?_eq_some found) same
        (address - upload.given.offset) (by omega)
      rw [Nat.add_sub_cancel' low] at kept
      simp only [clientBytes, found]
      exact kept.symm

end Bytes

/-! ## The slots as they are published -/

section Published

variable [DecidableEq Tid] {proxy : Dispatcher Gl} {trace : List (Event Tid Gl)} {e : Event Tid Gl}
  {s s' : State cfg Tid Gl} {t : Tid}

/-- `bridge_begin` clears `result_buf_len`, and no entry point sets it. -/
structure Cleared (trace : List (Event Tid Gl)) (s : State cfg Tid Gl) : Prop where
  filling : ∀ t, (s.threads t).pc.stage = .filling → (s.slots (s.curIndex t)).resultBufLen = 0
  published : ∀ command ∈ publishedCommands trace, command.2.resultBufLen = 0

namespace Cleared

theorem step_filling (run : (bridge cfg Tid proxy).Run trace s) (cleared : Cleared trace s)
    (taken : Step proxy s e s') (filling : (s'.threads t).pc.stage = .filling) :
    (s'.slots (s'.curIndex t)).resultBufLen = 0 := by
  by_cases acts : e.actor = some t
  · have kept {u : Tid} {slot : BridgeCtrl} (before : (s.threads u).pc.stage = .filling)
        (length : slot.resultBufLen = (s.slots (s.curIndex u)).resultBufLen) :
        ((s.setSlot (s.curIndex u) slot).slots (s.curIndex u)).resultBufLen = 0 := by
      rw [State.setSlot_self, length]
      exact cleared.filling u before
    cases taken.move with
    | keep _ frame =>
        rw [State.curIndex, frame.slots, frame.curSeq]
        exact cleared.filling t (frame.stage t ▸ filling)
    | acquire | publish =>
        cases acts
        simp [State.acquire, State.publishCur, State.setPc_self, Pc.stage] at filling
    | unlock =>
        cases acts
        rw [State.release_self] at filling
        split_ifs at filling <;> cases filling
    | begin =>
        cases acts
        rw [State.curIndex, State.bridgeBegin, State.setThread_self]
        exact congrArg BridgeCtrl.resultBufLen (State.setSlot_self ..)
    | fill write before =>
        cases acts
        exact kept before (by cases write <;> rfl)
    | dataWrite before =>
        cases acts
        simp only [State.curIndex, State.bridgeDataWrite, State.setThread_self]
        exact kept before rfl
    | dispatch | release | complete => cases acts
  · have same := taken.threads_of_ne acts
    rw [same] at filling
    rw [State.curIndex, same]
    rcases taken.move.slot_of_filling (.of_run run) filling with kept | own
    · rw [State.curIndex] at kept
      rw [kept]
      exact cleared.filling t filling
    · exact absurd own acts

theorem of_run (run : (bridge cfg Tid proxy).Run trace s) : Cleared trace s := by
  induction run with
  | start initial =>
      obtain ⟨clientPid, gl, rfl⟩ := initial
      exact ⟨fun _ _ => rfl, nofun⟩
  | @step trace s e s' run taken cleared =>
      constructor
      case filling => exact fun t filling => cleared.step_filling run taken filling
      case published =>
        intro command member
        rw [publishedCommands_snoc] at member
        rcases List.mem_append.mp member with earlier | now
        · exact cleared.published command earlier
        · cases taken.move with
          | keep plain => cases e <;> simp [Event.plain] at plain <;> cases now
          | publish mode before =>
              obtain rfl := List.mem_singleton.mp now
              show ((s.publishCur _ mode).slots _).resultBufLen = 0
              exact (congrArg BridgeCtrl.resultBufLen (State.setSlot_self ..)).trans
                (cleared.filling _ before)
          | acquire | begin | fill | dataWrite | unlock | dispatch | release | complete => cases now

end Cleared

end Published

/-! ## The ring as a queue of commands -/

def Event.publisher? : Event Tid Gl → Option (Nat × Tid)
  | .published t seq .. => some (seq, t)
  | _ => none

def publishers (trace : List (Event Tid Gl)) : List (Nat × Tid) :=
  trace.filterMap Event.publisher?

/-- The ring and the driver behind it. -/
def asObject (trace : List (Event Tid Gl)) (s : State cfg Tid Gl) (uploads : List Upload) :
    ObjectState Gl Tid SentCommand Reply where
  waiting := s.pending.map fun command => ⟨command.2, clientBytes uploads command.1⟩
  state := s.gl
  clients := (publishers trace).map Prod.snd
  answers := (dispatches trace).map fun run => run.2.2.reply

section Object

variable {trace : List (Event Tid Gl)} {e : Event Tid Gl} {s s' : State cfg Tid Gl} {t : Tid}
  {uploads fresh : List Upload} {seq : Nat} {value : UInt64}

/-- Where the numbers are the places. -/
theorem getElem?_of_numbered {α : Type} {numbered : List (Nat × α)} {count index : Nat} {value : α}
    (places : numbered.map Prod.fst = List.range count) (member : (index, value) ∈ numbered) :
    numbered[index]? = some (index, value) := by
  obtain ⟨place, found⟩ := List.mem_iff_getElem?.mp member
  have same : (numbered.map Prod.fst)[place]? = some index := by rw [List.getElem?_map, found]; rfl
  rw [places] at same
  obtain ⟨-, rfl⟩ : place < count ∧ place = index := by simpa [List.getElem?_eq_some_iff] using same
  exact found

theorem publishers_snoc (trace : List (Event Tid Gl)) (e : Event Tid Gl) :
    publishers (trace ++ [e]) = publishers trace ++ e.publisher?.toList := by
  cases found : e.publisher? <;> simp [publishers, found]

theorem publishers_fst (trace : List (Event Tid Gl)) :
    (publishers trace).map Prod.fst = (publishedCommands trace).map Prod.fst := by
  simp only [publishers, publishedCommands, List.filterMap_map, List.map_filterMap]
  congr 1
  funext e
  cases e <;> rfl

theorem waiting_append (later : ∀ upload ∈ fresh, s.publishedSeq ≤ upload.seq) :
    (s.pending.map fun command => (⟨command.2, clientBytes (uploads ++ fresh) command.1⟩ : SentCommand)) =
      s.pending.map fun command => ⟨command.2, clientBytes uploads command.1⟩ := by
  apply List.map_congr_left
  intro command member
  obtain ⟨seq, listed, rfl⟩ := List.mem_map.mp member
  rw [List.mem_range'_1] at listed
  rw [clientBytes_append fun upload found same => ?_]
  have := later upload found
  omega

variable [DecidableEq Tid] {proxy : Dispatcher Gl} {meaning : Meaning Gl}

theorem Step.gl_of_idle (taken : Step proxy s e s') (idle : e.dispatch? = none) : s'.gl = s.gl := by
  cases taken with
  | dispatch => cases idle
  | finishSwap =>
      unfold State.finishSwap
      split_ifs <;> rfl
  | _ => rfl

/-- Uploads are for commands that are not published yet. -/
theorem Step.uploads_later (taken : Step proxy s e s') (counters : Counters s) :
    ∀ upload ∈ uploadOf s e, s.publishedSeq ≤ upload.seq := by
  intro upload member
  cases taken with
  | @dataWrite t size src offset newHead here =>
      have filling := (counters.filling t (by rw [here]; rfl)).2
      rw [uploadOf, here] at member
      cases src with
      | none => cases member
      | some src =>
          obtain rfl := List.mem_singleton.mp member
          exact Nat.le_of_eq filling.symm
  | _ => cases member

/-- Steps that neither publish nor dispatch. -/
theorem asObject_unchanged (run : (bridge cfg Tid proxy).Run trace s) (taken : Step proxy s e s')
    (skip : e.fifoAction = .skip) (idle : e.dispatch? = none) (quiet : e.publisher? = none) :
    asObject (trace ++ [e]) s' (uploads ++ uploadOf s e) = asObject trace s uploads := by
  have counters := Counters.of_run run
  have queue := (taken.move.fifoStep counters).balance
  rw [skip] at queue
  have pending : s'.pending = s.pending := by simpa [FifoAction.enqueued?, FifoAction.dequeued?] using queue.symm
  simp only [asObject, pending, waiting_append (taken.uploads_later counters), taken.gl_of_idle idle,
    publishers_snoc, dispatches_snoc, idle, quiet, Option.toList_none, List.append_nil]

theorem Uploaded.append {command : Nat × BridgeCtrl} (uploaded : Uploaded meaning uploads command)
    (fresh : List Upload) : Uploaded meaning (uploads ++ fresh) command := by
  intro address named
  obtain ⟨upload, member, holds⟩ := uploaded address named
  exact ⟨upload, List.mem_append_left _ member, holds⟩

theorem uploaded_of_run {held : State cfg Tid Gl × List Upload}
    (run : (uploading cfg Tid proxy).RunWithin (Proper meaning) trace held) :
    ∀ command ∈ publishedCommands trace, Uploaded meaning held.2 command := by
  induction run with
  | start => nofun
  | @step trace held e next run taken meets ih =>
      intro command member
      rw [publishedCommands_snoc] at member
      rw [taken.2]
      rcases List.mem_append.mp member with earlier | now
      · exact (ih command earlier).append _
      · refine (meets.2 command ?_).append _
        cases action : e.fifoAction with
        | enqueue value =>
            rw [action] at now
            obtain rfl := List.mem_singleton.mp now
            rfl
        | dequeue | skip =>
            rw [action] at now
            cases now

/-- A handler does what its command means to the client. -/
theorem performs (implements : proxy.Implements meaning)
    (run : (uploading cfg Tid proxy).RunWithin (Proper meaning) trace (s, uploads))
    (here : s.proxyPc = .dispatch) :
    ((s.outcome proxy).gl, (s.outcome proxy).reply) =
      meaning.perform ⟨s.slots s.proxyIndex, clientBytes uploads s.completed⟩ s.gl := by
  have keeps := run.imp fun _ _ _ proper => proper.1
  have bridgeRun := keeps.unrecorded.run
  have counters : Counters s := .of_run bridgeRun
  have busy := counters.busy (.inl here)
  have served : s.served = s.completed := by rw [State.served, here]; rfl
  have waits : (s.completed, s.slots s.proxyIndex) ∈ s.pending :=
    List.mem_map.mpr ⟨s.completed, List.mem_range'_1.mpr ⟨by omega, by omega⟩, rfl⟩
  have published : (s.completed, s.slots s.proxyIndex) ∈ publishedCommands trace := by
    rw [published_eq_dispatched_append bridgeRun]
    exact List.mem_append_right _ waits
  have cleared := (Cleared.of_run bridgeRun).published _ published
  have waiting := Waiting.of_run keeps
  refine (implements _ s.resultBuf s.arena s.gl cleared).trans (meaning.only_named _ _ _ _ ?_)
  intro address named
  refine (clientBytes_of_intact (fun upload member same => ?_)
    (uploaded_of_run run _ published address named)).symm
  exact waiting.intact upload member (Nat.le_of_eq (served.trans same.symm))

/-- A call returns with the answer that its own handler has left. -/
theorem answers_own (run : (bridge cfg Tid proxy).Run trace s)
    (taken : Step proxy s (.returned t seq .call value) s') :
    ((publishers trace).map Prod.snd)[seq]? = some t ∧
      ((dispatches trace).map fun run => run.2.2.reply)[seq]? =
        some ⟨value, replyBytes (s.threads t).resultLen (s.threads t).resultBuf⟩ := by
  cases taken with
  | unlock here =>
      obtain ⟨slot, published⟩ := (Sent.of_run run t).published .call (by rw [here]; rfl)
      have replied := Replied.of_run run t
      obtain ⟨sent, outcome, member, val, len, buf⟩ := replied.reply (by rw [here]; rfl)
      have client : ((s.threads t).curSeq, t) ∈ publishers trace :=
        List.mem_filterMap.mpr ⟨_, published, rfl⟩
      have numbered := (publishers_fst trace).trans (publishedCommands_seqs run)
      constructor
      · rw [List.getElem?_map, getElem?_of_numbered numbered client]
        rfl
      · rw [List.getElem?_map, getElem?_of_numbered (dispatches_seqs run) member,
          replied.value value here, val, len, buf]
        rfl

theorem asObject_published (run : (bridge cfg Tid proxy).Run trace s) {mode : SendMode}
    {slot : BridgeCtrl} (taken : Step proxy s (.published t seq mode slot) s') :
    asObject (trace ++ [.published t seq mode slot]) s' uploads =
      { asObject trace s uploads with
        waiting := (asObject trace s uploads).waiting ++ [⟨slot, clientBytes uploads seq⟩]
        clients := (asObject trace s uploads).clients ++ [t] } := by
  have pending : s.pending ++ [(seq, slot)] = s'.pending :=
    (taken.move.fifoStep (.of_run run)).balance
  simp only [asObject, ← pending, List.map_append, List.map_cons, List.map_nil, publishers_snoc,
    dispatches_snoc, Event.publisher?, Event.dispatch?, Option.toList_some, Option.toList_none,
    List.append_nil, taken.gl_of_idle rfl]

theorem queued_dispatch (implements : proxy.Implements meaning)
    (run : (uploading cfg Tid proxy).RunWithin (Proper meaning) trace (s, uploads))
    (here : s.proxyPc = .dispatch) :
    QueuedStep meaning.perform (asObject trace s uploads) .serve
      (asObject (trace ++ [.dispatched s.completed (s.slots s.proxyIndex) (s.outcome proxy)])
        (s.dispatch proxy) uploads) := by
  have bridgeRun := (run.imp fun _ _ _ proper => proper.1).unrecorded.run
  have pending : s.pending = (s.completed, s.slots s.proxyIndex) :: (s.dispatch proxy).pending := by
    have moved : Move proxy s _ (s.dispatch proxy) := .dispatch here
    have queue := (moved.fifoStep (.of_run bridgeRun)).balance
    simpa [Event.fifoAction, FifoAction.enqueued?, FifoAction.dequeued?] using queue
  have first : (asObject trace s uploads).waiting =
      ⟨s.slots s.proxyIndex, clientBytes uploads s.completed⟩ ::
        (s.dispatch proxy).pending.map fun command => ⟨command.2, clientBytes uploads command.1⟩ := by
    rw [asObject, pending]
    rfl
  have performed := performs implements run here
  have served : QueuedStep meaning.perform (asObject trace s uploads) .serve _ := .serve first
  simp only [asObject, ← performed] at served
  simp only [asObject, publishers_snoc, dispatches_snoc, Event.publisher?, Event.dispatch?,
    Option.toList_some, Option.toList_none, List.append_nil, List.map_append, List.map_cons,
    List.map_nil]
  exact served

/-- The bridge is an object behind a queue. -/
theorem queued_of_run (implements : proxy.Implements meaning) {clientPid : Int32} {gl : Gl}
    {held : (State cfg Tid Gl × List Upload) × List (ObjectAction Tid SentCommand Reply)}
    (run : ((calling cfg Tid proxy).startingAt ((.initial cfg clientPid gl, []), [])).RunWithin
      (fun before held => Proper meaning before held.1) trace held) :
    (queued Tid meaning.perform gl).Run held.2 (asObject trace held.1.1 held.1.2) := by
  induction run with
  | start initial =>
      obtain ⟨-, rfl⟩ := initial
      exact .start rfl
  | @step trace held e next run taken meets ih =>
      obtain ⟨⟨s, uploads⟩, calls⟩ := held
      obtain ⟨⟨s', uploads'⟩, calls'⟩ := next
      obtain ⟨⟨taken, rfl⟩, rfl⟩ := taken
      have within := run.anyStart.unrecorded
      have bridgeRun := (within.imp fun _ _ _ proper => proper.1).unrecorded.run
      cases e with
      | published t seq mode slot =>
          show Lts.Run _ (calls ++ [_]) (asObject _ s' (uploads ++ []))
          rw [List.append_nil, asObject_published bridgeRun taken]
          exact ih.step (.submit ..)
      | dispatched seq slot outcome =>
          show Lts.Run _ (calls ++ [_]) (asObject _ s' (uploads ++ []))
          rw [List.append_nil]
          cases taken with
          | dispatch here => exact ih.step (queued_dispatch implements within here)
      | returned t seq mode value =>
          have same : asObject _ s' (uploads ++ uploadOf s _) = asObject trace s uploads :=
            asObject_unchanged bridgeRun taken rfl rfl rfl
          rw [same]
          cases mode with
          | call =>
              obtain ⟨asked, given⟩ := answers_own bridgeRun taken
              exact ih.step (.answer asked given)
          | void | swap =>
              show Lts.Run _ (calls ++ []) _
              rwa [List.append_nil]
      | quiet | begun | allocated | completed | posted | readSlot | readData =>
          have same : asObject _ s' (uploads ++ uploadOf s _) = asObject trace s uploads :=
            asObject_unchanged bridgeRun taken rfl rfl rfl
          rw [same]
          show Lts.Run _ (calls ++ []) _
          rwa [List.append_nil]

/-- Where clients upload what their commands name and handlers keep to their own ranges,
every `bridge_send_call` returns what a driver answers that performs each command as it is
published, and once the ring is empty the driver is in the state of that one. What an entry
point reads later, out of its slot or the arena, is not part of this. -/
theorem calls_linearize (implements : proxy.Implements meaning) {clientPid : Int32} {gl : Gl}
    {calls : List (ObjectAction Tid SentCommand Reply)}
    (run : ((calling cfg Tid proxy).startingAt ((.initial cfg clientPid gl, []), [])).RunWithin
      (fun before held => Proper meaning before held.1) trace ((s, uploads), calls)) :
    ∃ object, (direct Tid meaning.perform gl).Run calls object ∧
      (s.pending = [] → object.state = s.gl) := by
  have queue := (queuedRefinesDirect Tid meaning.perform gl).run (queued_of_run implements run)
  have same : calls.map (queuedRefinesDirect Tid meaning.perform gl).action = calls := List.map_id calls
  rw [same] at queue
  refine ⟨_, queue, fun empty => ?_⟩
  show (performAll meaning.perform (s.pending.map _) s.gl).1 = s.gl
  rw [empty]
  rfl

/-- The handler that keeps the first byte of a command's data, and answers with it. -/
def Handler.keepByte : Handler UInt8 := fun slot resultBuf arena _ =>
  { gl := arena slot.dataOffset.toNat
    result := (arena slot.dataOffset.toNat).toUInt64
    resultBufLen := slot.resultBufLen
    resultBuf
    arena }

def keptByte : Meaning UInt8 where
  Names slot address := address = slot.dataOffset.toNat
  perform command gl :=
    let outcome := (Dispatcher.uniform .keepByte).run command.slot (fun _ => 0) command.bytes gl
    (outcome.gl, outcome.reply)
  only_named slot bytes other gl same := by
    simp only [Dispatcher.run, Dispatcher.uniform, Handler.keepByte, same _ rfl]
    split <;> rfl

theorem keepByte_implements : (Dispatcher.uniform .keepByte).Implements keptByte := by
  intro slot resultBuf arena gl cleared
  have none (buffer : ResultBuf) : replyBytes 0 buffer = [] := rfl
  simp only [keptByte, Dispatcher.run, Dispatcher.uniform, Handler.keepByte, Outcome.reply]
  split <;> simp only [cleared, none]

omit [DecidableEq Tid] in
theorem Proper.of_skip {held : State cfg Tid Gl × List Upload} (skip : e.fifoAction = .skip) :
    Proper meaning trace held e := by
  constructor
  · cases e with
    | dispatched => cases skip
    | _ => trivial
  · intro command shape
    rw [skip] at shape
    cases shape

theorem call_step {start : (State cfg Tid Gl × List Upload) × List (ObjectAction Tid SentCommand Reply)}
    {calls : List (ObjectAction Tid SentCommand Reply)}
    (run : ((calling cfg Tid proxy).startingAt start).RunWithin
      (fun before held => Proper meaning before held.1) trace ((s, uploads), calls))
    (taken : Step proxy s e s') (proper : Proper meaning trace (s, uploads) e) :
    ((calling cfg Tid proxy).startingAt start).RunWithin
      (fun before held => Proper meaning before held.1) (trace ++ [e])
      ((s', uploads ++ uploadOf s e), calls ++ callOf (s, uploads) e) :=
  run.step ⟨⟨taken, rfl⟩, rfl⟩ proper

/-- One thread sends a byte and gets it back. -/
theorem calls_linearize_byte :
    ∃ (calls : List (ObjectAction Bool SentCommand Reply)) (object : _),
      (direct Bool keptByte.perform 0).Run calls object ∧
      calls.getLast? = some (.answer true 0 ⟨7, []⟩) ∧ object.state = 7 := by
  have run : ((calling .default Bool (.uniform .keepByte)).startingAt
      ((.initial .default 1 0, []), [])).RunWithin (fun before held => Proper keptByte before held.1)
      [] ((.initial .default 1 0, []), []) := .start ⟨⟨⟨⟨1, 0, rfl⟩, rfl⟩, rfl⟩, rfl⟩
  have run := call_step run (.lock (t := true) rfl rfl) (.of_skip rfl)
  have run := call_step run (.begin (t := true) rfl rfl) (.of_skip rfl)
  have run := call_step run (.fill (t := true) (.opcode 3) rfl) (.of_skip rfl)
  have run := call_step run (.dataEnter (t := true) 4 (some fun _ => 7) rfl (by decide)) (.of_skip rfl)
  have run := call_step run (.dataWrite (t := true) rfl rfl) (.of_skip rfl)
  have run := call_step run (.publish (t := true) .call rfl)
    ⟨trivial, fun command shape => by
      cases shape
      intro address named
      subst named
      exact ⟨_, List.mem_cons_self, rfl, by decide⟩⟩
  have run := call_step run (.loadWaiting (t := true) rfl) (.of_skip rfl)
  have run := call_step run (.load rfl) (.of_skip rfl)
  have run := call_step run (.dispatch rfl) ⟨fun address changed => absurd rfl changed, nofun⟩
  have run := call_step run (.release rfl) (.of_skip rfl)
  have run := call_step run (.complete rfl) (.of_skip rfl)
  have run := call_step run (.waitDone (t := true) rfl (by decide) (by decide)) (.of_skip rfl)
  have run := call_step run (.copyReply (t := true) rfl) (.of_skip rfl)
  obtain ⟨trace, s, uploads, calls, run, here, own, length, done, byte⟩ :
      ∃ trace s uploads calls, ((calling .default Bool (.uniform .keepByte)).startingAt
          ((.initial .default 1 0, []), [])).RunWithin
            (fun before held => Proper keptByte before held.1) trace ((s, uploads), calls) ∧
        (s.threads true).pc = .unlock .call 7 ∧ (s.threads true).curSeq = 0 ∧
        (s.threads true).resultLen = 0 ∧ s.pending = [] ∧ s.gl = 7 :=
    ⟨_, _, _, _, run, rfl, rfl, rfl, rfl, rfl⟩
  have run := call_step run (.unlock (t := true) here) (.of_skip rfl)
  obtain ⟨object, direct, settled⟩ := calls_linearize keepByte_implements run
  refine ⟨_, object, direct, ?_, (settled done).trans byte⟩
  simp only [callOf, own, length]
  exact List.getLast?_concat ..

end Object

end GlesBridge.Ring
