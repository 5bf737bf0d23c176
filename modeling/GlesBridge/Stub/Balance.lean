import GlesBridge.Stub.Call
import GlesBridge.Ring.Counters

namespace GlesBridge.Stub

open GlesBridge.Ring GlesBridge.Systems

/-! What a call of an entry point leaves behind in the bridge, whatever the
other threads and the proxy do meanwhile. -/

variable {cfg : Config} {Tid Gl : Type}

/-! ## The operations in a history -/

def Phase.after (phase : Phase) : BridgeOp → Phase
  | .begin => .inside
  | .send _ => .outside
  | .dataWrite | .dataRead => phase

theorem Phase.after_of_next {phase next : Phase} {op : BridgeOp}
    (follows : bridgeProtocol.next phase op = some next) : phase.after op = next := by
  cases phase <;> cases op <;> cases follows <;> rfl

theorem Phase.foldl_of_run {ops : List BridgeOp} {phase last : Phase}
    (follows : bridgeProtocol.run phase ops = some last) : ops.foldl Phase.after phase = last := by
  induction ops generalizing phase with
  | nil => exact Option.some.inj follows
  | cons op rest ih =>
      simp only [Protocol.run, List.foldlM_cons, Option.bind_eq_bind, Option.bind_eq_some_iff]
        at follows
      obtain ⟨next, first, more⟩ := follows
      rw [List.foldl_cons, Phase.after_of_next first]
      exact ih more

/-- Where a thread stands, as far as the begin and the send of a command go. -/
def phaseOf (s : State cfg Tid Gl) (t : Tid) : Phase :=
  if (s.threads t).pc.stage = .filling then .inside else .outside

/-- The caller is back from the function of the bridge it called last. -/
def Pc.isBack : Pc → Prop
  | .idle | .late | .fill => True
  | _ => False

theorem outside_of_phase {pc : Pc} (back : Pc.isBack pc) (sent : pc.stage ≠ .filling) :
    pc.stage = .outside := by
  cases pc with
  | idle | late => rfl
  | fill => exact absurd rfl sent
  | _ => exact back.elim

variable [DecidableEq Tid]

def opOf (t : Tid) : Event Tid Gl → Option BridgeOp
  | .begun thread _ _ => if thread = t then some .begin else none
  | .allocated thread _ _ => if thread = t then some .dataWrite else none
  | .published thread _ mode _ => if thread = t then some (.send mode) else none
  | .readData thread _ _ _ _ => if thread = t then some .dataRead else none
  | _ => none

def opsOf (t : Tid) (trace : List (Event Tid Gl)) : List BridgeOp :=
  trace.filterMap (opOf t)

variable {proxy : Dispatcher Gl} {s s' : State cfg Tid Gl} {e : Event Tid Gl}
  {trace during : List (Event Tid Gl)} {t : Tid}

theorem phaseOf_update {u : Tid} {thread : Thread}
    (threads : s'.threads = Function.update s.threads u thread) :
    phaseOf s' t = if u = t then (if thread.pc.stage = .filling then .inside else .outside)
      else phaseOf s t := by
  by_cases same : u = t
  · subst same
    simp [phaseOf, threads]
  · simp [phaseOf, threads, same, Ne.symm same]

theorem phaseOf_step (taken : Step proxy s e s') :
    phaseOf s' t = (opOf t e).elim (phaseOf s t) (phaseOf s t).after := by
  have here {u : Tid} (filling : (s.threads u).pc.stage = .filling) (same : u = t) :
      phaseOf s t = .inside := by
    subst same
    exact if_pos filling
  have notHere {u : Tid} (sent : (s.threads u).pc.stage ≠ .filling) (same : u = t) :
      phaseOf s t = .outside := by
    subst same
    exact if_neg sent
  cases taken.move with
  | keep plain frame =>
      have same : phaseOf s' t = phaseOf s t := by simp only [phaseOf, frame.stage]
      rw [same]
      cases e with
      | quiet | posted | readSlot => rfl
      | readData thread => by_cases mine : thread = t <;> simp [opOf, mine, Phase.after]
      | _ => cases plain
  | @acquire u outside free =>
      rw [phaseOf_update (s := s) rfl]
      by_cases same : u = t
      · simp [opOf, same, Pc.stage, notHere (by simp [outside]) same]
      · simp [opOf, same]
  | @begin u reserving room =>
      rw [phaseOf_update (s := s) rfl]
      by_cases same : u = t <;> simp [opOf, same, Pc.stage, Phase.after]
  | fill | dispatch | release | complete => rfl
  | @dataWrite u size src offset newHead filling placed writing =>
      rw [phaseOf_update (s := s) rfl]
      by_cases same : u = t
      · simp [opOf, same, Pc.stage, Phase.after, here filling same]
      · simp [opOf, same]
  | @publish u mode filling =>
      rw [phaseOf_update (s := s) rfl]
      by_cases same : u = t <;> simp [opOf, same, Pc.stage, Phase.after]
  | @unlock u mode value unlocking =>
      rw [phaseOf_update (s := s) rfl]
      by_cases same : u = t
      · cases mode <;> simp [opOf, same, Pc.stage, notHere (by simp [unlocking, Pc.stage]) same]
      · simp [opOf, same]

/-- The history of a thread tells where it stands. -/
theorem phaseOf_path (path : (bridge cfg Tid proxy).Path s during s') :
    phaseOf s' t = (opsOf t during).foldl Phase.after (phaseOf s t) := by
  induction path with
  | refl => rfl
  | @step trace middle e next path taken ih =>
      rw [phaseOf_step taken, ih, opsOf, opsOf, List.filterMap_append, List.foldl_append]
      cases shape : opOf t e <;> simp [shape]

/-! ## Calls of one thread -/

structure Made where
  stub : StubState
  call : Call

/-- The call is one that a client can make of the stub. -/
def Made.Possible (funcs : Api → List Prototype) (made : Made) : Prop :=
  (∃ labels, (stubSystem funcs).Run labels made.stub) ∧ made.call.Permitted made.stub

/-- The call is one that comes back with its command sent. -/
def Made.Mapped (made : Made) : Prop := ¬ made.call.FlushesUnmapped made.stub

/-- What one call does to the bridge: its thread goes along a path of the call
and comes back, while the others move as they like. -/
structure Made.Serves (proxy : Dispatcher Gl) (t : Tid) (made : Made) (s : State cfg Tid Gl)
    (during : List (Event Tid Gl)) (s' : State cfg Tid Gl) : Prop where
  path : (bridge cfg Tid proxy).Path s during s'
  performs : (made.call.flow made.stub).Returns (opsOf t during)
  back : Pc.isBack (s'.threads t).pc

/-- The runs in which a thread has made these calls and returned from each. -/
inductive Session (proxy : Dispatcher Gl) (t : Tid) :
    List Made → List (Event Tid Gl) → State cfg Tid Gl → Prop where
  | start {first} (initial : (bridge cfg Tid proxy).Initial first) : Session proxy t [] [] first
  | call {calls trace before made during after} (session : Session proxy t calls trace before)
      (serves : made.Serves proxy t before during after) :
      Session proxy t (calls ++ [made]) (trace ++ during) after

theorem Session.run {calls : List Made} (session : Session proxy t calls trace s) :
    (bridge cfg Tid proxy).Run trace s := by
  induction session with
  | start initial => exact .start initial
  | call session serves ih => exact ih.append serves.path

theorem Made.Serves.phase {funcs : Api → List Prototype} {made : Made}
    (serves : made.Serves proxy t s during s') (possible : made.Possible funcs)
    (mapped : made.Mapped) (outside : phaseOf s t = .outside) :
    bridgeProtocol.run .outside (opsOf t during) = some .outside ∧ phaseOf s' t = .outside := by
  obtain ⟨⟨labels, reached⟩, permitted⟩ := possible
  have sent := made.call.run_of_returns (Resolved.of_run reached) permitted mapped serves.performs
  refine ⟨sent, ?_⟩
  rw [phaseOf_path serves.path, outside]
  exact Phase.foldl_of_run sent

theorem Session.outside {funcs : Api → List Prototype} {calls : List Made}
    (session : Session proxy t calls trace s) (possible : ∀ made ∈ calls, made.Possible funcs)
    (mapped : ∀ made ∈ calls, made.Mapped) : phaseOf s t = .outside := by
  induction session with
  | start initial =>
      obtain ⟨clientPid, gl, rfl⟩ := initial
      rfl
  | @call calls trace s made during s' session serves ih =>
      have before := ih (fun other member => possible other (List.mem_append_left _ member))
        fun other member => mapped other (List.mem_append_left _ member)
      exact (serves.phase (possible made (by simp)) (mapped made (by simp)) before).2

/-- What a call should leave behind: the thread does not hold `g_lock`, no slot
is left unpublished, and every command begun has been sent, once. -/
structure Balanced (t : Tid) (ops : List BridgeOp) (s : State cfg Tid Gl) : Prop where
  unlocked : s.lock ≠ some t
  published : (∀ u, u ≠ t → (s.threads u).pc.stage = .outside) → s.publishedSeq = s.localSeq
  sent : bridgeProtocol.run .outside ops = some .outside

/-- A thread that has made any calls so far comes back from one more with the
bridge balanced, unless it flushes a range that no mapping covers. -/
theorem leaves_balanced_iff {funcs : Api → List Prototype} {calls : List Made} {made : Made}
    (session : Session proxy t calls trace s)
    (earlier : ∀ other ∈ calls, other.Possible funcs ∧ other.Mapped)
    (possible : made.Possible funcs) (serves : made.Serves proxy t s during s') :
    Balanced t (opsOf t during) s' ↔ made.Mapped := by
  have outside := session.outside (fun other member => (earlier other member).1)
    fun other member => (earlier other member).2
  have counters := Counters.of_run (session.run.append serves.path)
  constructor
  · intro balanced unmapped
    have begun := made.call.ops_of_unmapped unmapped serves.performs
    have inside : phaseOf s' t = .inside := by
      rw [phaseOf_path serves.path, outside, begun]
      rfl
    have filling : (s'.threads t).pc.stage = .filling := by
      by_contra other
      rw [phaseOf, if_neg other] at inside
      cases inside
    exact balanced.unlocked ((counters.owner t).mp (by simp [filling]))
  · intro mapped
    obtain ⟨sent, phase⟩ := serves.phase possible mapped outside
    have unfilled : (s'.threads t).pc.stage ≠ .filling := by
      intro filling
      rw [phaseOf, if_pos filling] at phase
      cases phase
    have away := outside_of_phase serves.back unfilled
    refine ⟨fun held => (counters.owner t).mpr held away, fun others => ?_, sent⟩
    refine (counters.settled fun u => ?_).symm
    by_cases same : u = t
    · exact same ▸ unfilled
    · rw [others u same]
      exact nofun

/-- A process without extension functions in which `stub_maps[1]` maps the first
16 bytes of buffer 7, and which has that buffer bound everywhere. -/
def StubState.oneMapping (access : UInt32) : StubState where
  buffers :=
    { stubMaps := fun index =>
        if index.val = 1 then ⟨1, 0x1000, 16, 0x8892, 0, 7, access⟩ else ⟨0, 0, 0, 0, 0, 0, 0⟩
      stubGlState := fun _ => ⟨7, 7, 7, 7, 7, 7, 7, 7, 7, 7, 7, 7⟩
      ebo := fun _ => 7 }
  procs _ := []
  held := []

theorem StubState.oneMapping_initial (access : UInt32) :
    (stubSystem fun _ => []).Run [] (StubState.oneMapping access) :=
  .start ⟨rfl, rfl⟩

/-- After a `glFlush`, a flush of the first four bytes of the mapping. -/
theorem leaves_balanced_iff_after_glFlush :
    ∃ during : List (Event Unit Unit), ∃ s' : State .default Unit Unit,
      opsOf () during = [.begin, .dataWrite, .send .void] ∧
      (Balanced () (opsOf () during) s' ↔
        Made.Mapped ⟨.oneMapping 0x12, .glFlushMappedBufferRange 0 0x8892 0 4⟩) := by
  have first : (bridge .default Unit (.uniform (.constant 0))).Path (.initial .default 1 ()) []
      (.initial .default 1 ()) := .refl
  have here {s s' : State .default Unit Unit} {trace : List (Event Unit Unit)}
      (_ : (bridge .default Unit (.uniform (.constant 0))).Path s trace s') :
      (bridge .default Unit (.uniform (.constant 0))).Path s' [] s' := .refl
  have first := first.step (.lock (t := ()) rfl rfl)
  have first := first.step (.begin (t := ()) rfl rfl)
  have first := first.step (.publish (t := ()) .void rfl)
  have first := first.step (.loadWaiting (t := ()) rfl)
  have first := first.step (.unlock (t := ()) rfl)
  have session := Session.call (.start ⟨1, (), rfl⟩) (⟨first, .inl (.seq (.op _)
    (.seq (.op _) .skip)), trivial⟩ : Made.Serves _ ()
      ⟨.oneMapping 0x12, .plain (.gles2 .glFlush)⟩ _ _ _)
  have second := here first
  have second := second.step (.lock (t := ()) rfl rfl)
  have second := second.step (.begin (t := ()) rfl rfl)
  have second := second.step (.dataEnter (t := ()) 4 none rfl (by decide))
  have second := second.step (.dataWrite (t := ()) rfl rfl)
  have second := second.step (.publish (t := ()) .void rfl)
  have second := second.step (.loadWaiting (t := ()) rfl)
  have second := second.step (.unlock (t := ()) rfl)
  have possible (call : Call) (plain : call.Permitted (.oneMapping 0x12)) :
      Made.Possible (fun _ => []) ⟨.oneMapping 0x12, call⟩ :=
    ⟨⟨_, StubState.oneMapping_initial 0x12⟩, plain⟩
  refine ⟨_, _, rfl, leaves_balanced_iff session ?_ (possible _ trivial) ⟨second, .inl (.seq (.op _)
    (.seq (.op _) (.seq (.op _) .skip))), trivial⟩⟩
  intro other member
  obtain rfl := List.mem_singleton.mp member
  exact ⟨possible _ trivial, not_false⟩

/-- A flush of bytes past the mapping keeps `g_lock` and its slot. -/
theorem unmapped_flush_keeps_lock :
    ∃ during, ∃ s s' : State .default Unit Unit, ∃ made : Made,
      (bridge .default Unit (.uniform (.constant 0))).Run [] s ∧
      made.Possible (fun _ => []) ∧ made.Serves (.uniform (.constant 0)) () s during s' ∧
      s'.lock = some () ∧ s'.publishedSeq ≠ s'.localSeq ∧
      ¬ Balanced () (opsOf () during) s' := by
  have path : (bridge .default Unit (.uniform (.constant 0))).Path (.initial .default 1 ()) []
      (.initial .default 1 ()) := .refl
  have path := path.step (.lock (t := ()) rfl rfl)
  have path := path.step (.begin (t := ()) rfl rfl)
  refine ⟨_, _, _, ⟨.oneMapping 0x12, .glFlushMappedBufferRange 0 0x8892 12 8⟩, .start ⟨1, (), rfl⟩,
    ⟨⟨_, StubState.oneMapping_initial 0x12⟩, trivial⟩, ⟨path, .inr (.seq (.op _) .ret), trivial⟩,
    rfl, by decide, fun balanced => balanced.unlocked rfl⟩

end GlesBridge.Stub
