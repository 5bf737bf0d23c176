import GlesBridge.Vertex.System

namespace GlesBridge.Vertex

open GlesBridge.Gl GlesBridge.Shared GlesBridge.Stub GlesBridge.Proxy GlesBridge.Systems

/-! The three copies of the vertex array binding. -/

/-- The copies of the stub and of the proxy are GL's binding, in every context. -/
def BoundAgree (state : StubMirrors × ProxyState) : Prop :=
  ∀ ctx, (state.1.stubCtx ctx).currentVao = (state.2.world.contexts ctx).binding ∧
    (state.2.proxyCtx ctx).currentVao = (state.2.world.contexts ctx).binding

/-- What a call needs: the indices are in bounds, GL takes a bind that is sent,
and no deletion names the vertex array that is bound. -/
def KeepsBound (state : StubMirrors × ProxyState) (input : Nat × VertexCall) : Prop :=
  ∃ below : input.1 < maxContexts,
    let context := state.2.world.contexts ⟨input.1, below⟩
    match input.2 with
    | .glGenVertexArrays arrays => Generates arrays
    | .glBindVertexArray array => (state.1.shadowSeen ⟨input.1, below⟩).slot .vao ≠ array →
        array.toNat < maxVaos ∧ (context.bindVertexArray array).binding = array
    | .glDeleteVertexArrays arrays => context.binding ∈ arrays → context.binding = 0
    | _ => True

/-- Before the first bind every copy is 0, and a reset changes nothing. -/
structure BoundSound (state : StubMirrors × ProxyState) : Prop where
  agree : BoundAgree state
  waiting : state.1.stubNewCtx ≠ 0 → ∀ ctx, (state.1.stubCtx ctx).currentVao = 0

variable {driver : VertexDriver} {group : Ctx → Nat} {state next : StubMirrors × ProxyState}
  {input : Nat × VertexCall}

/-- The calls and commands that leave the bindings of vertex arrays alone. -/
def PlainCall : VertexCall → Prop
  | .glBindVertexArray _ | .glDeleteVertexArrays _ => False
  | _ => True

def PlainCommand : VertexCommand → Prop
  | .glBindVertexArray _ | .glDeleteVertexArrays _ => False
  | _ => True

theorem plain_commands {stub : StubMirrors} {current : Ctx} {call : VertexCall}
    (plain : PlainCall call) :
    ∀ command ∈ (stub.vertexCall current call).2, PlainCommand command := by
  intro command sent
  cases call with
  | glBindVertexArray | glDeleteVertexArrays => exact plain.elim
  | glBindBuffer target buffer =>
      simp only [StubMirrors.vertexCall, StubMirrors.glBindBuffer] at sent
      split_ifs at sent
      · cases sent
      · cases List.mem_singleton.mp sent
        trivial
  | glBindBufferRange target index buffer offset size mapped =>
      simp only [StubMirrors.vertexCall, StubMirrors.glBindBufferRange] at sent
      split_ifs at sent
      · cases List.mem_singleton.mp sent
        trivial
      · cases sent
      · cases List.mem_singleton.mp sent
        trivial
  | glDrawElements indices lastVertex place =>
      simp only [StubMirrors.vertexCall, StubMirrors.glDrawElements] at sent
      split_ifs at sent <;> cases List.mem_singleton.mp sent <;> trivial
  | _ =>
      cases List.mem_singleton.mp sent
      trivial

/-- After a plain call every copy is what it was. -/
theorem same_of_plain (plain : PlainCall input.2)
    (taken : (vertexMachine driver group).step state input = some next) (ctx : Ctx) :
    (next.1.stubCtx ctx).currentVao = (state.1.stubCtx ctx).currentVao ∧
      (next.2.proxyCtx ctx).currentVao = (state.2.proxyCtx ctx).currentVao ∧
      (next.2.world.contexts ctx).binding = (state.2.world.contexts ctx).binding ∧
      next.1.stubNewCtx = state.1.stubNewCtx := by
  obtain ⟨below, -, stub, way⟩ := vertexMachine_step.mp taken
  have noted : (next.1.stubCtx ctx).currentVao = (state.1.stubCtx ctx).currentVao ∧
      next.1.stubNewCtx = state.1.stubNewCtx := by
    rw [stub, StubMirrors.vertexCall_currentVao, StubMirrors.vertexCall_stubNewCtx]
    revert plain
    cases input.2 <;> intro plain <;> first | exact ⟨rfl, rfl⟩ | exact plain.elim
  refine ⟨noted.1, ?_, ?_, noted.2⟩
  · rcases way with ⟨-, same⟩ | ⟨command, sent, -, after⟩
    · rw [same]
    · have quiet := plain_commands plain command (by rw [sent]; exact .head _)
      rw [after, ProxyState.handle_currentVao]
      cases command <;> first | rfl | exact quiet.elim
  · rcases way with ⟨-, same⟩ | ⟨command, sent, -, after⟩
    · rw [same]
    · have quiet := plain_commands plain command (by rw [sent]; exact .head _)
      rw [after, ProxyState.handle_binding]
      cases command <;> first | rfl | exact quiet.elim

theorem inside_of_plain {stub : StubMirrors} {current : Ctx} {call : VertexCall}
    (plain : PlainCall call) (generates : ∀ arrays, call = .glGenVertexArrays arrays → Generates arrays) :
    ∀ command ∈ (stub.vertexCall current call).2, Inside command := by
  intro command sent
  cases command with
  | glGenVertexArrays arrays =>
      cases call with
      | glGenVertexArrays named =>
          cases List.mem_singleton.mp sent
          exact generates _ rfl
      | glBindVertexArray | glDeleteVertexArrays => exact plain.elim
      | glBindBuffer target buffer =>
          simp only [StubMirrors.vertexCall, StubMirrors.glBindBuffer] at sent
          split_ifs at sent <;> simp at sent
      | glBindBufferRange target index buffer offset size mapped =>
          simp only [StubMirrors.vertexCall, StubMirrors.glBindBufferRange] at sent
          split_ifs at sent <;> simp at sent
      | glDrawElements indices lastVertex place =>
          simp only [StubMirrors.vertexCall, StubMirrors.glDrawElements] at sent
          split_ifs at sent <;> simp at sent
      | _ => cases List.mem_singleton.mp sent
  | glBindVertexArray => exact (plain_commands plain _ sent).elim
  | _ => trivial

/-- The reset before a bind finds only bindings that are 0. -/
theorem BoundSound.reset (sound : BoundSound state) (current ctx : Ctx) :
    (if state.1.Resets current ctx then 0 else (state.1.stubCtx ctx).currentVao) =
      (state.1.stubCtx ctx).currentVao := by
  split_ifs with resets
  · exact (sound.waiting (by unfold StubMirrors.Resets at resets; omega) ctx).symm
  · rfl

/-- A bind that the shadow has already. -/
theorem BoundSound.bind_kept_back (sound : BoundSound state) {ctx : Nat} {array : UInt32}
    (below : ctx < maxContexts) (same : (state.1.shadowSeen ⟨ctx, below⟩).slot .vao = array) :
    ∃ next, (vertexMachine driver group).step state (ctx, .glBindVertexArray array) = some next ∧
      BoundSound next := by
  have quiet : (state.1.vertexCall ⟨ctx, below⟩ (.glBindVertexArray array)).2 = [] := by
    simp [StubMirrors.vertexCall, StubMirrors.glBindVertexArray_eq, same]
  have named (arrays : List UInt32) (wrong : VertexCall.glBindVertexArray array =
      .glGenVertexArrays arrays) : Generates arrays := by cases wrong
  refine ⟨(_, state.2), vertexMachine_step.mpr ⟨below, named, rfl, .inl ⟨quiet, rfl⟩⟩,
    ⟨fun other => ?_, ?_⟩⟩
  · rw [StubMirrors.vertexCall_currentVao]
    simp only [same, ne_eq, not_true_eq_false, and_false, if_false, sound.reset]
    exact sound.agree other
  · rw [StubMirrors.vertexCall_stubNewCtx]
    exact fun wrong => absurd rfl wrong

/-- After a bind that is sent, the copies of both sides are its argument. -/
theorem BoundSound.bind_sent (sound : BoundSound state) {ctx : Nat} {array : UInt32}
    (below : ctx < maxContexts) (differ : (state.1.shadowSeen ⟨ctx, below⟩).slot .vao ≠ array)
    (stub : next.1 = (state.1.vertexCall ⟨ctx, below⟩ (.glBindVertexArray array)).1)
    (proxy : next.2 = state.2.handle driver group ⟨ctx, below⟩ (.glBindVertexArray array)) :
    BoundAgree next ↔
      ((state.2.world.contexts ⟨ctx, below⟩).bindVertexArray array).binding = array := by
  unfold BoundAgree
  simp only [stub, proxy, StubMirrors.vertexCall_currentVao, ProxyState.handle_currentVao,
    ProxyState.handle_binding, ne_eq, differ, not_false_eq_true, and_true, sound.reset]
  constructor
  · intro agree
    have here := (agree ⟨ctx, below⟩).1
    simpa using here.symm
  · intro taken other
    by_cases here : other = ⟨ctx, below⟩
    · simp [here, taken]
    · simpa [here] using sound.agree other

theorem glBindVertexArray_sends {stub : StubMirrors} {current : Ctx} {array : UInt32}
    (differ : (stub.shadowSeen current).slot .vao ≠ array) :
    (stub.vertexCall current (.glBindVertexArray array)).2 = [.glBindVertexArray array] := by
  simp [StubMirrors.vertexCall, StubMirrors.glBindVertexArray_eq, differ]

/-- What is sent stays inside the arrays of the proxy. -/
theorem commands_inside {stub : StubMirrors} {current : Ctx} {call : VertexCall}
    (generates : ∀ arrays, call = .glGenVertexArrays arrays → Generates arrays)
    (bounds : ∀ array, call = .glBindVertexArray array →
      (stub.shadowSeen current).slot .vao ≠ array → array.toNat < maxVaos) :
    ∀ command ∈ (stub.vertexCall current call).2, Inside command := by
  intro command sent
  cases call with
  | glBindVertexArray array =>
      simp only [StubMirrors.vertexCall, StubMirrors.glBindVertexArray_eq] at sent
      split_ifs at sent with known
      · cases sent
      · cases List.mem_singleton.mp sent
        exact bounds array rfl known
  | glDeleteVertexArrays arrays =>
      cases List.mem_singleton.mp sent
      trivial
  | _ =>
      refine inside_of_plain ?_ generates command sent
      trivial

/-- After a deletion GL's binding may be 0, and the copies are what they were. -/
theorem BoundSound.delete (sound : BoundSound state) {ctx : Nat} {arrays : List UInt32}
    (below : ctx < maxContexts)
    (stub : next.1 = (state.1.vertexCall ⟨ctx, below⟩ (.glDeleteVertexArrays arrays)).1)
    (proxy : next.2 = state.2.handle driver group ⟨ctx, below⟩ (.glDeleteVertexArrays arrays)) :
    BoundAgree next ↔ ((state.2.world.contexts ⟨ctx, below⟩).binding ∈ arrays →
      (state.2.world.contexts ⟨ctx, below⟩).binding = 0) := by
  unfold BoundAgree
  simp only [stub, proxy, StubMirrors.vertexCall_currentVao, ProxyState.handle_currentVao,
    ProxyState.handle_binding]
  constructor
  · intro agree member
    have here := (agree ⟨ctx, below⟩).1
    rw [(sound.agree _).1] at here
    simpa [member] using here
  · intro zero other
    by_cases here : other = ⟨ctx, below⟩
    · subst here
      by_cases member : (state.2.world.contexts ⟨ctx, below⟩).binding ∈ arrays
      · simpa [member, zero member] using sound.agree ⟨ctx, below⟩
      · simpa [member] using sound.agree ⟨ctx, below⟩
    · simpa [here] using sound.agree other

theorem BoundSound.ends_iff (sound : BoundSound state) :
    (vertexMachine driver group).Ends BoundAgree state input ↔ KeepsBound state input := by
  have plain (quiet : PlainCall input.2) :
      (vertexMachine driver group).Ends BoundAgree state input ↔ input.1 < maxContexts ∧
        ∀ arrays, input.2 = .glGenVertexArrays arrays → Generates arrays := by
    constructor
    · rintro ⟨next, taken, -⟩
      obtain ⟨below, generates, -⟩ := vertexMachine_step.mp taken
      exact ⟨below, generates⟩
    · rintro ⟨below, generates⟩
      obtain ⟨next, taken⟩ := vertexMachine_defined below generates
        (inside_of_plain quiet generates)
      refine ⟨next, taken, fun ctx => ?_⟩
      obtain ⟨stub, proxy, binding, -⟩ := same_of_plain quiet taken ctx
      rw [stub, proxy, binding]
      exact sound.agree ctx
  obtain ⟨ctx, call⟩ := input
  cases call with
  | glBindVertexArray array =>
      have named (arrays : List UInt32) (wrong : VertexCall.glBindVertexArray array =
        .glGenVertexArrays arrays) : Generates arrays := by cases wrong
      constructor
      · rintro ⟨next, taken, agree⟩
        obtain ⟨below, -, stub, way⟩ := vertexMachine_step.mp taken
        refine ⟨below, fun differ => ?_⟩
        rw [glBindVertexArray_sends differ] at way
        rcases way with ⟨wrong, -⟩ | ⟨command, same, inside, proxy⟩
        · cases wrong
        · cases same
          exact ⟨inside, (sound.bind_sent below differ stub proxy).mp agree⟩
      · rintro ⟨below, needs⟩
        by_cases same : (state.1.shadowSeen ⟨ctx, below⟩).slot .vao = array
        · obtain ⟨next, taken, after⟩ := sound.bind_kept_back below same
          exact ⟨next, taken, after.agree⟩
        · obtain ⟨inside, bound⟩ := needs same
          exact ⟨(_, _), vertexMachine_step.mpr
            ⟨below, named, rfl, .inr ⟨_, glBindVertexArray_sends same, inside, rfl⟩⟩,
            (sound.bind_sent below same rfl rfl).mpr bound⟩
  | glDeleteVertexArrays arrays =>
      have named (others : List UInt32) (wrong : VertexCall.glDeleteVertexArrays arrays =
        .glGenVertexArrays others) : Generates others := by cases wrong
      constructor
      · rintro ⟨next, taken, agree⟩
        obtain ⟨below, -, stub, ⟨wrong, -⟩ | ⟨command, same, -, proxy⟩⟩ :=
          vertexMachine_step.mp taken
        · cases wrong
        · cases same
          exact ⟨below, (sound.delete below stub proxy).mp agree⟩
      · rintro ⟨below, zero⟩
        obtain ⟨next, taken⟩ : ∃ next, (vertexMachine driver group).step state
            (ctx, .glDeleteVertexArrays arrays) = some next := by
          refine vertexMachine_defined below named fun command sent => ?_
          cases List.mem_singleton.mp sent
          trivial
        obtain ⟨_, -, stub, ⟨wrong, -⟩ | ⟨command, same, -, proxy⟩⟩ := vertexMachine_step.mp taken
        · cases wrong
        · cases same
          exact ⟨next, taken, (sound.delete below stub proxy).mpr zero⟩
  | glGenVertexArrays arrays => exact (plain trivial).trans (by simp [KeepsBound])
  | _ => exact (plain trivial).trans (by simp [KeepsBound])

theorem BoundSound.step (sound : BoundSound state) (keeps : KeepsBound state input)
    (taken : (vertexMachine driver group).step state input = some next) : BoundSound next := by
  obtain ⟨reached, arrives, agree⟩ := sound.ends_iff.mpr keeps
  rw [taken] at arrives
  cases arrives
  refine ⟨agree, fun pending ctx => ?_⟩
  obtain ⟨below, -, stub, -⟩ := vertexMachine_step.mp taken
  rw [stub, StubMirrors.vertexCall_stubNewCtx] at pending
  rw [stub, StubMirrors.vertexCall_currentVao]
  obtain ⟨current, call⟩ := input
  cases call <;> first | exact sound.waiting pending ctx | exact absurd rfl pending

/-- Whenever the ring is drained the stub, the proxy and GL have the same vertex
array bound, whatever the pace of the proxy, as long as no bind is refused and
no bound vertex array is deleted, and no longer. -/
theorem bound_vao_agrees_iff {stub : StubMirrors} {proxy : ProxyState}
    {calls : List (Nat × VertexCall)} (stubStart : ∀ ctx, (stub.stubCtx ctx).currentVao = 0)
    (proxyStart : ∀ ctx, (proxy.proxyCtx ctx).currentVao = 0)
    (glStart : ∀ ctx, (proxy.world.contexts ctx).binding = 0) :
    (∀ inputs : List (Option (Nat × VertexCall)), inputs.filterMap id = calls →
        (vertexPipeline driver group).queued.Along
          ((vertexPipeline driver group).queued.Ends (Pipeline.Queued.Drained BoundAgree))
          ⟨stub, [], proxy⟩ inputs) ↔
      (vertexMachine driver group).Along KeepsBound (stub, proxy) calls := by
  have start : BoundSound (stub, proxy) := by
    refine ⟨fun ctx => ?_, fun _ => stubStart⟩
    simp [stubStart, proxyStart, glStart]
  rw [Pipeline.queued_along_iff start.agree]
  exact Machine.along_iff BoundSound.step (fun sound => sound.ends_iff) start

/-- A vertex array is unbound before it is deleted. -/
theorem bound_vao_agrees_iff_unbound_first :
    (vertexPipeline .plain fun _ => 0).queued.Along
      ((vertexPipeline .plain fun _ => 0).queued.Ends (Pipeline.Queued.Drained BoundAgree))
      ⟨.zero, [], .zero⟩
      [some (1, .glGenVertexArrays [5]), none, some (1, .glBindVertexArray 5),
        some (1, .glBindVertexArray 0), some (1, .glDeleteVertexArrays [5]), none, none, none] := by
  refine (bound_vao_agrees_iff (fun _ => rfl) (fun _ => rfl) fun _ => rfl).mpr ?_ _ rfl
  refine ⟨⟨by decide, by decide⟩, ?_⟩
  rintro next ⟨⟩
  refine ⟨⟨by decide, fun _ => ⟨by decide, rfl⟩⟩, ?_⟩
  rintro next ⟨⟩
  refine ⟨⟨by decide, fun _ => ⟨by decide, rfl⟩⟩, ?_⟩
  rintro next ⟨⟩
  exact ⟨⟨by decide, fun _ => rfl⟩, fun _ _ => trivial⟩

/-- The vertex array that is bound is deleted: GL goes back to 0, the copies do not. -/
theorem deleted_vao_stays_current :
    ¬ (vertexPipeline .plain fun _ => 0).queued.Along
      ((vertexPipeline .plain fun _ => 0).queued.Ends (Pipeline.Queued.Drained BoundAgree))
      ⟨.zero, [], .zero⟩
      [some (1, .glGenVertexArrays [5]), none, some (1, .glBindVertexArray 5), none,
        some (1, .glDeleteVertexArrays [5]), none] := by
  rintro ⟨-, rest⟩
  obtain ⟨-, rest⟩ := rest _ rfl
  obtain ⟨-, rest⟩ := rest _ rfl
  obtain ⟨-, rest⟩ := rest _ rfl
  obtain ⟨-, rest⟩ := rest _ rfl
  obtain ⟨⟨reached, taken, drained⟩, -⟩ := rest _ rfl
  cases taken
  exact absurd (drained rfl 1).1 (by decide)

end GlesBridge.Vertex
