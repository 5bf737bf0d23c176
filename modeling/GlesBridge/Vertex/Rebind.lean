import GlesBridge.Vertex.Binding
import GlesBridge.Vertex.ProxyRecords

namespace GlesBridge.Vertex

open GlesBridge.Gl GlesBridge.Shared GlesBridge.Stub GlesBridge.Proxy GlesBridge.Systems

/-! What `h_glBindVertexArray` submits again, and what a plain bind leaves. -/

/-- A bind that is sent has on GL the effect of the bind alone. -/
def Transparent (driver : VertexDriver) (group : Ctx → Nat) (state : StubMirrors × ProxyState)
    (input : Nat × VertexCall) : Prop :=
  ∃ next, (vertexMachine driver group).step state input = some next ∧
    ∀ (below : input.1 < maxContexts) (array : UInt32), input.2 = .glBindVertexArray array →
      let ctx : Ctx := ⟨input.1, below⟩
      (state.1.vertexCall ctx input.2).2 ≠ [] →
        next.2.world =
          state.2.world.set ctx ((state.2.world.contexts ctx).bindVertexArray array)

/-- The client arrays that a draw places are arrays of the current record. -/
def PlacesClient (state : StubMirrors × ProxyState) (ctx : Ctx) : Prop :=
  ∀ slot, ClientArray (state.1.attribStubState slot) →
    ((state.2.currentRecord ctx).attribs slot).enabled = true ∧
      ((state.2.currentRecord ctx).attribs slot).vbo = 0

/-- What a call needs for the records of the proxy to stay GL's. -/
def KeepsRecords (driver : VertexDriver) (group : Ctx → Nat) (state : StubMirrors × ProxyState)
    (input : Nat × VertexCall) : Prop :=
  ∃ below : input.1 < maxContexts,
    let ctx : Ctx := ⟨input.1, below⟩
    let context := state.2.world.contexts ctx
    match input.2 with
    | .glGenVertexArrays arrays => Generates arrays
    | .glDeleteVertexArrays arrays => context.binding ∈ arrays → context.binding = 0
    | .glBindVertexArray array => (state.1.shadowSeen ctx).slot .vao ≠ array →
        array.toNat < maxVaos ∧ context.Accepts array ∧
          (((state.2.proxyCtx ctx).vao array).initialised = false →
            ((state.2.proxyCtx ctx).vao array).ebo = 0)
    | .glVertexAttribPointer index size .. | .glVertexAttribIPointer index size .. =>
        1 ≤ size → size ≤ 4 → ∀ slot, attribName slot = index →
          EnabledAlike (state.2.attribProxyState slot) (context.attrib index)
    | .glDeleteBuffers buffers =>
        ∀ buffer ∈ buffers, buffer ≠ 0 → Unrecorded driver group state ctx buffer
    | .glDrawArrays .. => PlacesClient state ctx
    | .glDrawElements indices .. => state.1.boundBuffer ctx glElementArrayBuffer = 0 →
        indices ≠ 0 → PlacesClient state ctx
    | _ => True

variable {driver : VertexDriver} {group : Ctx → Nat} {state next : StubMirrors × ProxyState}
  {input : Nat × VertexCall} {ctx : Ctx}

/-- The slots of the client arrays that are copied. -/
theorem mem_clientCopies {attribs : Attribs} {vertices : UInt64} {place : AttribIndex → UInt64}
    {slot : AttribIndex}
    (member : slot ∈ (patches (clientCopies attribs vertices) place).map Prod.fst) :
    ClientArray (attribs slot) := by
  simp only [patches, List.map_map, List.mem_map, Function.comp_apply] at member
  obtain ⟨copy, copied, rfl⟩ := member
  obtain ⟨index, -, found⟩ := List.mem_filterMap.mp copied
  simp only at found
  split_ifs at found with client
  cases found
  exact client

theorem Mirrored.step (mirrored : Mirrored driver group state)
    (keeps : KeepsRecords driver group state input)
    (taken : (vertexMachine driver group).step state input = some next) :
    Mirrored driver group next := by
  obtain ⟨below, -, stub, way⟩ := vertexMachine_step.mp taken
  obtain ⟨current, call⟩ := input
  obtain ⟨_, needs⟩ := keeps
  have arrayBuffer (other : Ctx) := vertexCall_arrayBuffer state.1 ⟨current, below⟩ other call
  rw [← stub] at arrayBuffer
  rcases way with ⟨unsent, same⟩ | ⟨command, sent, inside, proxy⟩
  · refine mirrored.same (fun other => ?_) same
    rw [arrayBuffer]
    cases call with
    | glBindBuffer target buffer =>
        simp only [StubMirrors.vertexCall, StubMirrors.glBindBuffer] at unsent
        split_ifs at unsent with known
        simp only
        split_ifs with here
        · obtain ⟨rfl, rfl⟩ := here
          exact known.2.symm
        · rfl
    | glDeleteBuffers buffers => cases unsent
    | _ => rfl
  · cases call with
    | glGenVertexArrays arrays =>
        cases sent
        exact mirrored.gen needs stub proxy
    | glDeleteVertexArrays arrays =>
        cases sent
        exact mirrored.deleteVertexArrays needs arrayBuffer proxy
    | glBindVertexArray array =>
        simp only [StubMirrors.vertexCall, StubMirrors.glBindVertexArray_eq] at sent
        split_ifs at sent with known
        cases sent
        obtain ⟨bounds, accepts, first⟩ := needs known
        exact mirrored.bind bounds accepts first stub proxy
    | glBindBuffer target buffer =>
        simp only [StubMirrors.vertexCall, StubMirrors.glBindBuffer] at sent
        split_ifs at sent
        cases sent
        exact mirrored.glBindBuffer stub proxy
    | glBindBufferBase target index buffer =>
        cases sent
        exact mirrored.bindBufferIndexed arrayBuffer proxy
    | glBindBufferRange target index buffer offset size mapped =>
        simp only [StubMirrors.vertexCall, StubMirrors.glBindBufferRange] at sent
        split_ifs at sent <;> cases sent <;> exact mirrored.bindBufferIndexed arrayBuffer proxy
    | glDeleteBuffers buffers =>
        cases sent
        have after := mirrored.deleteBuffers needs
        obtain ⟨reached, moved⟩ := next
        cases stub
        cases proxy
        exact after
    | glVertexAttribPointer index size type normalized stride pointer =>
        cases sent
        exact mirrored.pointer arrayBuffer proxy (fun _ => rfl) (fun _ => rfl)
          (fun _ => ⟨rfl, rfl⟩) needs
    | glVertexAttribIPointer index size type stride pointer =>
        cases sent
        exact mirrored.pointer arrayBuffer proxy (fun _ => rfl) (fun _ => rfl)
          (fun _ => ⟨rfl, rfl⟩) needs
    | glEnableVertexAttribArray index =>
        cases sent
        refine mirrored.set (fun actual => { actual with enabled := true }) arrayBuffer proxy
          (fun _ => rfl) fun agrees => ?_
        exact ⟨rfl, agrees.divisor, agrees.pointer⟩
    | glDisableVertexAttribArray index =>
        cases sent
        refine mirrored.set (fun actual => { actual with enabled := false }) arrayBuffer proxy
          (fun _ => rfl) fun agrees => ?_
        exact ⟨rfl, agrees.divisor, agrees.pointer⟩
    | glVertexAttribDivisor index divisor =>
        cases sent
        refine mirrored.set (fun actual => { actual with divisor }) arrayBuffer proxy
          (fun _ => rfl) fun agrees => ?_
        exact ⟨agrees.enabled, rfl, agrees.pointer⟩
    | glDrawArrays first count place =>
        cases sent
        exact mirrored.draw arrayBuffer proxy fun slot member => needs slot (mem_clientCopies member)
    | glDrawElements indices lastVertex place =>
        simp only [StubMirrors.vertexCall, StubMirrors.glDrawElements] at sent
        by_cases unbound : state.1.boundBuffer ⟨current, below⟩ glElementArrayBuffer = 0
        · rw [if_neg (not_not.mpr unbound)] at sent
          cases sent
          refine mirrored.draw arrayBuffer proxy fun slot member => ?_
          split_ifs at member with given
          · exact needs unbound given slot (mem_clientCopies member)
          · cases member
        · rw [if_pos unbound] at sent
          cases sent
          refine mirrored.same arrayBuffer (proxy.trans ?_)
          exact patch_nil

/-! ## Rebinding -/

theorem KeepsRecords.defined (keeps : KeepsRecords driver group state input) :
    ∃ next, (vertexMachine driver group).step state input = some next := by
  obtain ⟨current, call⟩ := input
  obtain ⟨below, needs⟩ := keeps
  refine vertexMachine_defined below ?_ (commands_inside ?_ ?_)
  · intro arrays same
    cases same
    exact needs
  · intro arrays same
    cases same
    exact needs
  · intro array same known
    cases same
    exact (needs known).1

theorem KeepsRecords.transparent (keeps : KeepsRecords driver group state input)
    (mirrored : Mirrored driver group state) : Transparent driver group state input := by
  obtain ⟨next, taken⟩ := keeps.defined
  refine ⟨next, taken, fun below array bind sends => ?_⟩
  obtain ⟨current, call⟩ := input
  obtain ⟨_, needs⟩ := keeps
  obtain ⟨_, -, -, way⟩ := vertexMachine_step.mp taken
  cases bind
  rcases way with ⟨unsent, -⟩ | ⟨command, sent, -, proxy⟩
  · exact absurd unsent sends
  · simp only [StubMirrors.vertexCall, StubMirrors.glBindVertexArray_eq] at sent
    split_ifs at sent with known
    cases sent
    obtain ⟨-, accepts, first⟩ := needs known
    rw [proxy]
    exact mirrored.restores accepts first

/-- In every run whose calls keep the records of the proxy, each bind has on GL
the effect of a plain bind. -/
theorem rebind_transparent {stub : StubMirrors} {proxy : ProxyState} {calls : List (Nat × VertexCall)}
    (stubStart : ∀ ctx, (stub.stubGlState ctx).arrayBuffer = 0)
    (proxyStart : ∀ ctx, proxy.proxyCtx ctx = .zero) (glStart : proxy.world = .initial)
    (keeps : (vertexMachine driver group).Along (KeepsRecords driver group) (stub, proxy) calls) :
    (vertexMachine driver group).Along (Transparent driver group) (stub, proxy) calls := by
  have start : Mirrored driver group (stub, proxy) := by
    constructor
    · intro ctx
      rw [proxyStart, glStart]
      rfl
    · intro ctx
      rw [glStart]
      change (0 : UInt32).toNat < maxVaos
      decide
    · intro ctx name
      rw [proxyStart, glStart, GLContextState.vao_zero]
      exact ArrayMatches.initial rfl
    · intro ctx
      rw [stubStart, glStart]
      rfl
    · intro shared
      rw [glStart]
      rfl
  exact Machine.Along.of_invariant Mirrored.step
    (fun mirrored allowed => allowed.transparent mirrored) start keeps

/-- An attribute of a vertex array that is bound again. -/
theorem rebind_transparent_attribute :
    (vertexMachine .plain fun _ => 0).Along (Transparent .plain fun _ => 0) (.zero, .zero)
      [(1, .glGenVertexArrays [5]), (1, .glBindVertexArray 5),
        (1, .glBindBuffer glArrayBuffer 3), (1, .glVertexAttribPointer 0 4 0x1406 0 0 0),
        (1, .glBindVertexArray 0), (1, .glBindVertexArray 5)] := by
  refine rebind_transparent (fun _ => rfl) (fun _ => rfl) rfl ⟨⟨by decide, by decide⟩, ?_⟩
  rintro next ⟨⟩
  refine ⟨⟨by decide, fun _ => ⟨by decide, by decide, fun _ => rfl⟩⟩, ?_⟩
  rintro next ⟨⟩
  refine ⟨⟨by decide, trivial⟩, ?_⟩
  rintro next ⟨⟩
  refine ⟨⟨by decide, fun _ _ slot named => ?_⟩, ?_⟩
  · obtain rfl : slot = 0 := Fin.ext (attribName_eq.mp named)
    exact ⟨rfl, rfl⟩
  rintro next ⟨⟩
  refine ⟨⟨by decide, fun _ => ⟨by decide, by decide, fun _ => rfl⟩⟩, ?_⟩
  rintro next ⟨⟩
  exact ⟨⟨by decide, fun _ => ⟨by decide, by decide, fun _ => rfl⟩⟩, fun _ _ => trivial⟩

/-- The default vertex array has an element buffer before it is ever bound: the
first bind takes it away. -/
theorem first_rebind_erases_element_buffer :
    ¬ (vertexMachine .plain fun _ => 0).Along (Transparent .plain fun _ => 0) (.zero, .zero)
      [(1, .glBindBuffer glElementArrayBuffer 7), (1, .glGenVertexArrays [5]),
        (1, .glBindVertexArray 5), (1, .glBindVertexArray 0)] := by
  rintro ⟨-, rest⟩
  obtain ⟨-, rest⟩ := rest _ rfl
  obtain ⟨-, rest⟩ := rest _ rfl
  obtain ⟨⟨next, taken, same⟩, -⟩ := rest _ rfl
  cases taken
  have world := same (by decide) 0 rfl (by decide)
  have element := congrArg (fun world : VertexWorld Ctx =>
    ((world.contexts 1).arrays 0).element.name) world
  exact absurd element (by decide)

end GlesBridge.Vertex
