import GlesBridge.Vertex.Attribs
import GlesBridge.Vertex.Restore

namespace GlesBridge.Vertex

open GlesBridge.Gl GlesBridge.Shared GlesBridge.Stub GlesBridge.Proxy GlesBridge.Systems

/-! The records of the proxy as a copy of GL's vertex arrays: what each call
leaves of their agreement. -/

/-- What the record and GL have in common of an attribute that will be restored. -/
def EnabledAlike (attrib : AttribState) (real : VertexAttrib) : Prop :=
  attrib.enabled = real.enabled ∧ attrib.divisor = real.divisor

/-- The buffer is in no record of the contexts that share it, nor the array
buffer of another one. -/
def Unrecorded (driver : VertexDriver) (group : Ctx → Nat) (state : StubMirrors × ProxyState)
    (ctx : Ctx) (buffer : UInt32) : Prop :=
  ∀ other, group other = group ctx →
    (other ≠ ctx → (state.1.stubGlState other).arrayBuffer ≠ buffer) ∧
      ∀ name, let vao := (state.2.proxyCtx other).vao name
        vao.ebo ≠ buffer ∧ ∀ slot, restored (vao.attribs slot) = true →
          Submits driver (name ≠ 0) (vao.attribs slot) slot → (vao.attribs slot).vbo ≠ buffer

/-! ## The invariant -/

structure Mirrored (driver : VertexDriver) (group : Ctx → Nat) (state : StubMirrors × ProxyState) :
    Prop where
  current : ∀ ctx, (state.2.proxyCtx ctx).currentVao = (state.2.world.contexts ctx).binding
  inside : ∀ ctx, (state.2.world.contexts ctx).binding.toNat < maxVaos
  arrays : ∀ ctx name, ArrayMatches driver (state.2.world.life group ctx) (name ≠ 0)
    ((state.2.proxyCtx ctx).vao name) ((state.2.world.contexts ctx).arrays name)
  array : ∀ ctx, (state.2.world.contexts ctx).buffers glArrayBuffer =
    state.2.world.object group ctx (state.1.stubGlState ctx).arrayBuffer
  zero : ∀ shared, state.2.world.lives shared 0 = 0

variable {driver : VertexDriver} {group : Ctx → Nat} {state next : StubMirrors × ProxyState}
  {ctx : Ctx}

/-- The array buffer has its name still. -/
theorem Mirrored.named (mirrored : Mirrored driver group state) (ctx : Ctx) :
    (state.2.world.contexts ctx).buffers glArrayBuffer =
      ⟨(state.2.world.contexts ctx).arrayBufferBinding,
        state.2.world.life group ctx (state.2.world.contexts ctx).arrayBufferBinding⟩ := by
  rw [VertexContext.arrayBufferBinding, mirrored.array ctx]
  rfl

/-- Only the current vertex array changes, and its record with it. -/
theorem Mirrored.update (mirrored : Mirrored driver group state) (ctx : Ctx) (vao : VAOState)
    (array : VertexArray)
    (stub : ∀ other, (next.1.stubGlState other).arrayBuffer = (state.1.stubGlState other).arrayBuffer)
    (world : next.2.world = state.2.world.set ctx ((state.2.world.contexts ctx).setArray array))
    (current : ∀ other, (next.2.proxyCtx other).currentVao = (state.2.proxyCtx other).currentVao)
    (records : ∀ other name, (next.2.proxyCtx other).vao name =
      if other = ctx ∧ name = (state.2.proxyCtx ctx).currentVao then vao
      else (state.2.proxyCtx other).vao name)
    (agrees : ArrayMatches driver (state.2.world.life group ctx)
      ((state.2.world.contexts ctx).binding ≠ 0) vao array) :
    Mirrored driver group next := by
  have binding (other : Ctx) : (next.2.world.contexts other).binding =
      (state.2.world.contexts other).binding := by
    rw [world, VertexWorld.set_contexts]
    split_ifs with here
    · rw [here]
      rfl
    · rfl
  have life (other : Ctx) : next.2.world.life group other = state.2.world.life group other := by
    rw [world]
    rfl
  constructor
  · intro other
    rw [current, binding]
    exact mirrored.current other
  · intro other
    rw [binding]
    exact mirrored.inside other
  · intro other name
    rw [life, records, mirrored.current]
    by_cases here : other = ctx
    · subst here
      by_cases same : name = (state.2.world.contexts other).binding
      · subst same
        simpa [world, VertexContext.setArray] using agrees
      · simpa [world, VertexContext.setArray, same] using mirrored.arrays other name
    · simpa [world, here] using mirrored.arrays other name
  · intro other
    rw [stub, VertexWorld.object, life, world, VertexWorld.set_contexts]
    split_ifs with here
    · rw [here]
      exact mirrored.array ctx
    · exact mirrored.array other
  · intro shared
    rw [world]
    exact mirrored.zero shared

theorem ArrayMatches.initial {life : UInt32 → Nat} {named : Bool} (zero : life 0 = 0) :
    ArrayMatches driver life named .zero .initial := by
  constructor
  · simp [VertexArray.initial, VAOState.zero, BufferObject.unbound, zero]
  · intro slot given
    cases given

theorem vertexCall_arrayBuffer (stub : StubMirrors) (current other : Ctx) (call : VertexCall) :
    ((stub.vertexCall current call).1.stubGlState other).arrayBuffer =
      match call with
      | .glBindBuffer target buffer =>
          if other = current ∧ target = glArrayBuffer then buffer
          else (stub.stubGlState other).arrayBuffer
      | .glDeleteBuffers buffers =>
          ((stub.glDeleteBuffers current buffers).stubGlState other).arrayBuffer
      | _ => (stub.stubGlState other).arrayBuffer := by
  rw [StubMirrors.vertexCall_stubGlState]
  cases call with
  | glBindBuffer target buffer =>
      simp only [← show bufferSlot target = some .array ↔ target = glArrayBuffer from
        bufferSlot_eq_some]
      by_cases here : other = current
      · cases found : bufferSlot target with
        | none => simp
        | some slot =>
            have read := GLState.get_set (stub.stubGlState other) buffer slot .array
            simp only [here, GLState.get] at read
            simp [here, read, eq_comm]
      · simp [here]
  | _ => rfl

theorem Mirrored.gen (mirrored : Mirrored driver group state) {arrays : List UInt32}
    (generates : Generates arrays)
    (stub : next.1 = (state.1.vertexCall ctx (.glGenVertexArrays arrays)).1)
    (proxy : next.2 = state.2.handle driver group ctx (.glGenVertexArrays arrays)) :
    Mirrored driver group next := by
  have life (other : Ctx) : next.2.world.life group other = state.2.world.life group other := by
    rw [proxy]
    rfl
  constructor
  · intro other
    rw [proxy, ProxyState.handle_currentVao, ProxyState.handle_binding]
    exact mirrored.current other
  · intro other
    rw [proxy, ProxyState.handle_binding]
    exact mirrored.inside other
  · intro other name
    rw [life]
    by_cases here : other = ctx
    · subst here
      by_cases member : name ∈ arrays
      · have fresh : ArrayMatches driver (state.2.world.life group other) (name ≠ 0) .zero
            .initial := ArrayMatches.initial (mirrored.zero (group other))
        simpa [proxy, ProxyState.handle, ProxyState.hGlGenVertexArrays,
          VertexContext.genVertexArrays, GLContextState.vao_zeroVaos generates, member] using fresh
      · simpa [proxy, ProxyState.handle, ProxyState.hGlGenVertexArrays,
          VertexContext.genVertexArrays, GLContextState.vao_zeroVaos generates, member] using
          mirrored.arrays other name
    · simpa [proxy, ProxyState.handle, ProxyState.hGlGenVertexArrays, here] using
        mirrored.arrays other name
  · intro other
    rw [stub, vertexCall_arrayBuffer, VertexWorld.object, life]
    refine Eq.trans ?_ (mirrored.array other)
    by_cases here : other = ctx
    · subst here
      simp [proxy, ProxyState.handle, ProxyState.hGlGenVertexArrays, VertexContext.genVertexArrays]
    · simp [proxy, ProxyState.handle, ProxyState.hGlGenVertexArrays, here]
  · intro shared
    rw [proxy]
    exact mirrored.zero shared

/-- The record that a bind submits again. -/
theorem Mirrored.boundRecord (mirrored : Mirrored driver group state) {array : UInt32}
    (first : ((state.2.proxyCtx ctx).vao array).initialised = false →
      ((state.2.proxyCtx ctx).vao array).ebo = 0) :
    ArrayMatches driver (state.2.world.life group ctx) (array ≠ 0)
      (state.2.boundRecord ctx array) ((state.2.world.contexts ctx).arrays array) := by
  have before := mirrored.arrays ctx array
  cases marked : ((state.2.proxyCtx ctx).vao array).initialised with
  | true => simpa [ProxyState.boundRecord, marked] using before
  | false =>
      constructor
      · simpa [ProxyState.boundRecord, marked, VAOState.zero, first marked] using before.element
      · intro slot given
        simp only [ProxyState.boundRecord, marked] at given
        cases given

/-- Where GL takes the bind, nothing that is submitted again changes it. -/
theorem Mirrored.restores (mirrored : Mirrored driver group state) {array : UInt32}
    (accepts : (state.2.world.contexts ctx).Accepts array)
    (first : ((state.2.proxyCtx ctx).vao array).initialised = false →
      ((state.2.proxyCtx ctx).vao array).ebo = 0) :
    (state.2.handle driver group ctx (.glBindVertexArray array)).world =
      state.2.world.set ctx ((state.2.world.contexts ctx).bindVertexArray array) := by
  have bound : (state.2.world.contexts ctx).bindVertexArray array =
      { state.2.world.contexts ctx with binding := array } := if_pos accepts
  change state.2.world.set ctx (restore driver (state.2.world.life group ctx)
    (state.2.boundRecord ctx array) ((state.2.world.contexts ctx).bindVertexArray array)) = _
  rw [bound]
  exact congrArg (state.2.world.set ctx) (restore_self (mirrored.boundRecord first) (mirrored.named ctx))

theorem Mirrored.bind (mirrored : Mirrored driver group state) {array : UInt32}
    (inside : array.toNat < maxVaos) (accepts : (state.2.world.contexts ctx).Accepts array)
    (first : ((state.2.proxyCtx ctx).vao array).initialised = false →
      ((state.2.proxyCtx ctx).vao array).ebo = 0)
    (stub : next.1 = (state.1.vertexCall ctx (.glBindVertexArray array)).1)
    (proxy : next.2 = state.2.handle driver group ctx (.glBindVertexArray array)) :
    Mirrored driver group next := by
  have world := mirrored.restores accepts first
  rw [← proxy] at world
  have bound : (state.2.world.contexts ctx).bindVertexArray array =
      { state.2.world.contexts ctx with binding := array } := if_pos accepts
  rw [bound] at world
  have life (other : Ctx) : next.2.world.life group other = state.2.world.life group other := by
    rw [world]
    rfl
  constructor
  · intro other
    rw [proxy, ProxyState.handle_currentVao, ← proxy, world, VertexWorld.set_contexts]
    by_cases here : other = ctx
    · simp [here]
    · simpa [here] using mirrored.current other
  · intro other
    rw [world, VertexWorld.set_contexts]
    split_ifs
    · exact inside
    · exact mirrored.inside other
  · intro other name
    have before := mirrored.arrays other name
    rw [life, world, VertexWorld.set_contexts]
    have real : (if other = ctx then { state.2.world.contexts ctx with binding := array }
        else state.2.world.contexts other).arrays name =
          (state.2.world.contexts other).arrays name := by
      split_ifs with here
      · rw [here]
      · rfl
    rw [real]
    by_cases here : other = ctx ∧ name = array
    · obtain ⟨rfl, rfl⟩ := here
      have record : (next.2.proxyCtx other).vao name = state.2.boundRecord other name := by
        simp [proxy, ProxyState.handle, ProxyState.hGlBindVertexArray,
          GLContextState.vao_setVao inside]
      rw [record]
      exact mirrored.boundRecord first
    · have record : (next.2.proxyCtx other).vao name = (state.2.proxyCtx other).vao name := by
        rw [proxy]
        by_cases same : other = ctx
        · subst same
          have apart : name ≠ array := fun equal => here ⟨rfl, equal⟩
          simp [ProxyState.handle, ProxyState.hGlBindVertexArray,
            GLContextState.vao_setVao inside, apart]
          rfl
        · simp [ProxyState.handle, ProxyState.hGlBindVertexArray, same]
      rw [record]
      exact before
  · intro other
    rw [stub, vertexCall_arrayBuffer, VertexWorld.object, life, world, VertexWorld.set_contexts]
    split_ifs with here
    · rw [here]
      exact mirrored.array ctx
    · exact mirrored.array other
  · intro shared
    rw [world]
    exact mirrored.zero shared

/-- Only names and buffer bindings of the context change, and the array buffer
with its copy. -/
theorem Mirrored.buffers (mirrored : Mirrored driver group state) (generated : UInt32 → Bool)
    (buffers : UInt32 → BufferObject)
    (world : next.2.world =
      state.2.world.set ctx { state.2.world.contexts ctx with generated, buffers })
    (records : next.2.proxyCtx = state.2.proxyCtx)
    (here : buffers glArrayBuffer = state.2.world.object group ctx (next.1.stubGlState ctx).arrayBuffer)
    (elsewhere : ∀ other, other ≠ ctx →
      (next.1.stubGlState other).arrayBuffer = (state.1.stubGlState other).arrayBuffer) :
    Mirrored driver group next := by
  have life (other : Ctx) : next.2.world.life group other = state.2.world.life group other := by
    rw [world]
    rfl
  have binding (other : Ctx) : (next.2.world.contexts other).binding =
      (state.2.world.contexts other).binding := by
    rw [world, VertexWorld.set_contexts]
    split_ifs with same
    · rw [same]
    · rfl
  constructor
  · intro other
    rw [records, binding]
    exact mirrored.current other
  · intro other
    rw [binding]
    exact mirrored.inside other
  · intro other name
    have real : (next.2.world.contexts other).arrays = (state.2.world.contexts other).arrays := by
      rw [world, VertexWorld.set_contexts]
      split_ifs with same
      · rw [same]
      · rfl
    rw [life, records, real]
    exact mirrored.arrays other name
  · intro other
    rw [VertexWorld.object, life, world, VertexWorld.set_contexts]
    split_ifs with same
    · rw [same]
      exact here
    · rw [elsewhere other same]
      exact mirrored.array other
  · intro shared
    rw [world]
    exact mirrored.zero shared

theorem Mirrored.glBindBuffer (mirrored : Mirrored driver group state) {target buffer : UInt32}
    (stub : next.1 = (state.1.vertexCall ctx (.glBindBuffer target buffer)).1)
    (proxy : next.2 = state.2.handle driver group ctx (.glBindBuffer target buffer)) :
    Mirrored driver group next := by
  have noted (other : Ctx) : (next.1.stubGlState other).arrayBuffer =
      if other = ctx ∧ target = glArrayBuffer then buffer
      else (state.1.stubGlState other).arrayBuffer := by
    rw [stub, vertexCall_arrayBuffer]
  by_cases element : target = glElementArrayBuffer
  · subst element
    have apart : glElementArrayBuffer ≠ glArrayBuffer := by decide
    have inside : (state.2.proxyCtx ctx).currentVao.toNat < maxVaos := by
      rw [mirrored.current]
      exact mirrored.inside ctx
    have before := mirrored.arrays ctx (state.2.world.contexts ctx).binding
    refine mirrored.update ctx
      { (state.2.proxyCtx ctx).vao (state.2.proxyCtx ctx).currentVao with ebo := buffer }
      { (state.2.world.contexts ctx).arrays (state.2.world.contexts ctx).binding with
        element := ⟨buffer, state.2.world.life group ctx buffer⟩ } ?_ ?_ ?_ ?_ ?_
    · intro other
      rw [noted]
      simp [apart]
    · rw [proxy]
      rfl
    · intro other
      rw [proxy, ProxyState.handle_currentVao]
    · intro other name
      rw [proxy]
      by_cases here : other = ctx
      · subst here
        simp [ProxyState.handle, ProxyState.hGlBindBuffer, GLContextState.vao_setVao inside]
      · simp [ProxyState.handle, ProxyState.hGlBindBuffer, here]
    · rw [mirrored.current]
      exact ⟨rfl, before.attribs⟩
  · have records : next.2.proxyCtx = state.2.proxyCtx := by
      rw [proxy]
      simp [ProxyState.handle, ProxyState.hGlBindBuffer, element]
    have world : next.2.world = state.2.world.set ctx
        ((state.2.world.contexts ctx).bindBuffer (state.2.world.life group ctx) target buffer) := by
      rw [proxy]
      simp [ProxyState.handle, ProxyState.hGlBindBuffer, element, ProxyState.gl]
    unfold VertexContext.bindBuffer at world
    rw [if_neg element] at world
    by_cases array : target = glArrayBuffer
    · subst array
      have member : glArrayBuffer ∈ bufferTargets := by decide
      rw [if_pos member] at world
      refine mirrored.buffers _ _ world records ?_ ?_
      · rw [Function.update_self, noted]
        simp [VertexWorld.object]
      · intro other apart
        rw [noted]
        simp [apart]
    · have same (other : Ctx) : (next.1.stubGlState other).arrayBuffer =
          (state.1.stubGlState other).arrayBuffer := by
        rw [noted]
        simp [array]
      split_ifs at world with member
      · refine mirrored.buffers _ _ world records ?_ fun other _ => same other
        rw [Function.update_of_ne (Ne.symm array), same]
        exact mirrored.array ctx
      · refine mirrored.buffers _ (state.2.world.contexts ctx).buffers world records ?_
          fun other _ => same other
        rw [same]
        exact mirrored.array ctx

theorem Mirrored.bindBufferIndexed (mirrored : Mirrored driver group state) {target buffer : UInt32}
    (stub : ∀ other, (next.1.stubGlState other).arrayBuffer = (state.1.stubGlState other).arrayBuffer)
    (proxy : next.2 = state.2.gl group ctx fun life context =>
      context.bindBufferIndexed life target buffer) : Mirrored driver group next := by
  have records : next.2.proxyCtx = state.2.proxyCtx := by
    rw [proxy]
    rfl
  have world : next.2.world = state.2.world.set ctx ((state.2.world.contexts ctx).bindBufferIndexed
      (state.2.world.life group ctx) target buffer) := by
    rw [proxy]
    rfl
  unfold VertexContext.bindBufferIndexed at world
  have kept := mirrored.array ctx
  rw [← stub] at kept
  split_ifs at world with member
  · refine mirrored.buffers _ _ world records ?_ fun other _ => stub other
    have apart : target ≠ glArrayBuffer := by
      intro same
      subst same
      exact absurd member (by decide)
    rw [Function.update_of_ne (Ne.symm apart)]
    exact kept
  · exact mirrored.buffers _ (state.2.world.contexts ctx).buffers world records kept
      fun other _ => stub other

/-! ### Deletion of buffers -/

/-- A deletion that no record knows of leaves what agrees. -/
theorem ArrayMatches.deleted {life later : UInt32 → Nat} {named : Bool} {vao : VAOState}
    {array : VertexArray} {buffer : UInt32} (agrees : ArrayMatches driver life named vao array)
    (clear : BufferObject → BufferObject)
    (others : ∀ name, name ≠ buffer → later name = life name)
    (keeps : ∀ object : BufferObject, object.name ≠ buffer → clear object = object)
    (element : vao.ebo ≠ buffer)
    (attribs : ∀ slot, restored (vao.attribs slot) = true →
      Submits driver named (vao.attribs slot) slot → (vao.attribs slot).vbo ≠ buffer) :
    ArrayMatches driver later named vao
      { attribs := fun index => { array.attribs index with buffer := clear (array.attribs index).buffer }
        element := clear array.element } := by
  constructor
  · rw [agrees.element, others _ element]
    exact keeps _ element
  · intro slot given
    obtain ⟨enabled, divisor, pointer⟩ := agrees.attribs slot given
    refine ⟨enabled, divisor, fun takes => ?_⟩
    obtain ⟨format, bound⟩ := pointer takes
    have apart := attribs slot given takes
    refine ⟨format, ?_⟩
    simp only [bound, others _ apart]
    exact keeps _ apart

theorem Mirrored.deleteBuffer (mirrored : Mirrored driver group state) {buffer : UInt32}
    (free : buffer ≠ 0 → Unrecorded driver group state ctx buffer) :
    Mirrored driver group (state.1.stubGlStateInvalidateBuffer ctx buffer,
      { state.2 with world := state.2.world.deleteBuffer group ctx buffer }) := by
  by_cases given : buffer = 0
  · subst given
    exact mirrored
  have life (other : Ctx) (name : UInt32) :
      (state.2.world.deleteBuffer group ctx buffer).life group other name =
        if group other = group ctx ∧ name = buffer then state.2.world.life group ctx buffer + 1
        else state.2.world.life group other name :=
    VertexWorld.deleteBuffer_life given other name
  have context (other : Ctx) : (state.2.world.deleteBuffer group ctx buffer).contexts other =
      if other = ctx then
        (state.2.world.contexts ctx).unbindBuffer (state.2.world.object group ctx buffer)
      else state.2.world.contexts other :=
    VertexWorld.deleteBuffer_contexts given other
  have stub (other : Ctx) : ((state.1.stubGlStateInvalidateBuffer ctx buffer).stubGlState
      other).arrayBuffer =
        if other = ctx ∧ (state.1.stubGlState ctx).arrayBuffer = buffer then 0
        else (state.1.stubGlState other).arrayBuffer := by
    unfold StubMirrors.stubGlStateInvalidateBuffer
    rw [if_neg given]
    by_cases here : other = ctx
    · subst here
      simp [StubMirrors.bufrangeCacheInvalidateBuffer, GLState.invalidateBuffer]
    · simp [StubMirrors.bufrangeCacheInvalidateBuffer, here]
  constructor
  · intro other
    simp only [VertexWorld.deleteBuffer_binding]
    exact mirrored.current other
  · intro other
    simp only [VertexWorld.deleteBuffer_binding]
    exact mirrored.inside other
  · intro other name
    have before := mirrored.arrays other name
    by_cases shared : group other = group ctx
    · obtain ⟨-, unrecorded⟩ := free given other shared
      have others (name : UInt32) (apart : name ≠ buffer) :
          (state.2.world.deleteBuffer group ctx buffer).life group other name =
            state.2.world.life group other name := by
        simp [life, apart]
      rw [context]
      by_cases cleared : other = ctx ∧ name = (state.2.world.contexts ctx).binding
      · obtain ⟨rfl, rfl⟩ := cleared
        rw [if_pos rfl]
        have agrees := before.deleted (fun bound =>
            if bound = state.2.world.object group other buffer then .unbound else bound) others
          (fun object apart => if_neg fun same => apart (congrArg BufferObject.name same))
          (unrecorded _).1 (unrecorded _).2
        simpa [VertexContext.unbindBuffer, VertexContext.setArray] using agrees
      · have kept : (if other = ctx then
            (state.2.world.contexts ctx).unbindBuffer (state.2.world.object group ctx buffer)
            else state.2.world.contexts other).arrays name =
              (state.2.world.contexts other).arrays name := by
          by_cases here : other = ctx
          · subst here
            have apart : name ≠ (state.2.world.contexts other).binding := fun same =>
              cleared ⟨rfl, same⟩
            simp [VertexContext.unbindBuffer, VertexContext.setArray, apart]
          · rw [if_neg here]
        rw [kept]
        exact before.deleted id others (fun _ _ => rfl) (unrecorded _).1 (unrecorded _).2
    · have apart : other ≠ ctx := fun same => shared (congrArg group same)
      have same : (state.2.world.deleteBuffer group ctx buffer).life group other =
          state.2.world.life group other := by
        funext name
        rw [life, if_neg fun both => shared both.1]
      rw [same, context, if_neg apart]
      exact before
  · intro other
    have before := mirrored.array other
    rw [stub, context]
    by_cases here : other = ctx
    · subst here
      simp only [if_true, true_and]
      by_cases bound : (state.1.stubGlState other).arrayBuffer = buffer
      · have zero : (state.2.world.deleteBuffer group other buffer).life group other 0 = 0 := by
          rw [life, if_neg fun both => given both.2.symm]
          exact mirrored.zero (group other)
        rw [bound] at before
        simp [VertexContext.unbindBuffer, before, bound, VertexWorld.object, zero,
          BufferObject.unbound]
      · have kept : state.2.world.object group other (state.1.stubGlState other).arrayBuffer ≠
            state.2.world.object group other buffer := fun same =>
          bound (congrArg BufferObject.name same)
        have live : (state.2.world.deleteBuffer group other buffer).object group other
            (state.1.stubGlState other).arrayBuffer =
              state.2.world.object group other (state.1.stubGlState other).arrayBuffer := by
          rw [VertexWorld.object, VertexWorld.object, life, if_neg fun both => bound both.2]
        rw [if_neg bound, live]
        simp only [VertexContext.unbindBuffer, before]
        exact if_neg kept
    · rw [if_neg here, if_neg fun both => here both.1, before, VertexWorld.object,
        VertexWorld.object, life]
      by_cases shared : group other = group ctx
      · rw [if_neg fun both => (free given other shared).1 here both.2]
      · rw [if_neg fun both => shared both.1]
  · intro shared
    have before := mirrored.zero shared
    unfold VertexWorld.deleteBuffer
    rw [if_neg given]
    by_cases same : shared = group ctx
    · subst same
      have apart : (0 : UInt32) ≠ buffer := Ne.symm given
      simp [apart, before]
    · simp [same, before]

/-- Names are deleted one after the other. -/
theorem Mirrored.deleteBuffers (mirrored : Mirrored driver group state) {buffers : List UInt32}
    (free : ∀ buffer ∈ buffers, buffer ≠ 0 → Unrecorded driver group state ctx buffer) :
    Mirrored driver group (state.1.glDeleteBuffers ctx buffers,
      { state.2 with world := state.2.world.deleteBuffers group ctx buffers }) := by
  induction buffers generalizing state with
  | nil => exact mirrored
  | cons first rest ih =>
      have once := mirrored.deleteBuffer (free first (.head _))
      refine ih once fun buffer member given other shared => ?_
      obtain ⟨apart, records⟩ := free buffer (.tail _ member) given other shared
      refine ⟨fun here => ?_, records⟩
      have kept : (state.1.stubGlStateInvalidateBuffer ctx first).stubGlState other =
          state.1.stubGlState other := by
        unfold StubMirrors.stubGlStateInvalidateBuffer
        split_ifs
        · rfl
        · simp [StubMirrors.bufrangeCacheInvalidateBuffer, here]
      change ((state.1.stubGlStateInvalidateBuffer ctx first).stubGlState other).arrayBuffer ≠ buffer
      rw [kept]
      exact apart here

/-! ### Attributes and draws -/

/-- One attribute is written, in GL and in the current record. -/
theorem Mirrored.assign (mirrored : Mirrored driver group state) (ctx : Ctx) (value : Attribs)
    {index : UInt32} {real : VertexAttrib}
    (stub : ∀ other, (next.1.stubGlState other).arrayBuffer = (state.1.stubGlState other).arrayBuffer)
    (world : next.2.world =
      state.2.world.set ctx ((state.2.world.contexts ctx).setAttrib index real))
    (current : ∀ other, (next.2.proxyCtx other).currentVao = (state.2.proxyCtx other).currentVao)
    (records : ∀ other name, (next.2.proxyCtx other).vao name =
      if other = ctx ∧ name = (state.2.proxyCtx ctx).currentVao then
        { state.2.currentRecord ctx with
          attribs := fun slot =>
            if attribName slot = index then value slot
            else (state.2.currentRecord ctx).attribs slot }
      else (state.2.proxyCtx other).vao name)
    (agrees : ∀ slot, attribName slot = index → restored (value slot) = true →
      Submitted driver (state.2.world.life group ctx) ((state.2.world.contexts ctx).binding ≠ 0)
        (value slot) slot real) : Mirrored driver group next := by
  have before := mirrored.arrays ctx (state.2.world.contexts ctx).binding
  rw [← mirrored.current] at before
  refine mirrored.update ctx _ _ stub world current records ⟨?_, fun slot given => ?_⟩
  · rw [← mirrored.current]
    exact before.element
  · by_cases named : attribName slot = index
    · simp only [named, if_true] at given
      simpa [named] using agrees slot named given
    · simp only [named, if_false] at given
      rw [← mirrored.current]
      simpa [named, ProxyState.currentRecord] using before.attribs slot given

theorem Mirrored.live (mirrored : Mirrored driver group state) (ctx : Ctx) :
    (state.2.world.contexts ctx).buffers glArrayBuffer =
      ⟨(state.1.stubGlState ctx).arrayBuffer,
        state.2.world.life group ctx (state.1.stubGlState ctx).arrayBuffer⟩ := mirrored.array ctx

theorem Mirrored.currentInside (mirrored : Mirrored driver group state) (ctx : Ctx) :
    (state.2.proxyCtx ctx).currentVao.toNat < maxVaos := by
  rw [mirrored.current]
  exact mirrored.inside ctx

/-- A pointer is submitted as the record has it. -/
theorem Mirrored.pointer (mirrored : Mirrored driver group state) {index : UInt32}
    {pointer : VertexFormat} {change : AttribState → AttribState}
    (stub : ∀ other, (next.1.stubGlState other).arrayBuffer = (state.1.stubGlState other).arrayBuffer)
    (proxy : next.2 = (state.2.setRecords ctx ((state.2.records ctx).copyAttrib index change)).gl
      group ctx fun life => setPointer driver life index pointer (state.1.stubGlState ctx).arrayBuffer)
    (formats : ∀ attrib, format (change attrib) = pointer)
    (bound : ∀ attrib, (change attrib).vbo = (state.1.stubGlState ctx).arrayBuffer)
    (rest : ∀ attrib, (change attrib).enabled = attrib.enabled ∧
      (change attrib).divisor = attrib.divisor)
    (alike : 1 ≤ pointer.size → pointer.size ≤ 4 → ∀ slot, attribName slot = index →
      EnabledAlike (state.2.attribProxyState slot) ((state.2.world.contexts ctx).attrib index)) :
    Mirrored driver group next := by
  have world : next.2.world = state.2.world.set ctx
      (setPointer driver (state.2.world.life group ctx) index pointer
        (state.1.stubGlState ctx).arrayBuffer (state.2.world.contexts ctx)) := by
    rw [proxy]
    rfl
  rw [setPointer_live (mirrored.live ctx)] at world
  refine mirrored.assign ctx (fun slot => change (state.2.attribProxyState slot)) stub world
    ?_ ?_ ?_
  · intro other
    rw [proxy, ProxyState.gl_proxyCtx, ProxyState.setRecords_proxyCtx]
    split_ifs with here
    · rw [here]
      exact Records.copyAttrib_currentVao
    · rfl
  · intro other name
    rw [proxy, ProxyState.gl_proxyCtx, ProxyState.setRecords_proxyCtx]
    by_cases here : other = ctx
    · subst here
      rw [if_pos rfl, copyAttrib_vao _ (mirrored.currentInside other)]
      by_cases same : name = (state.2.proxyCtx other).currentVao
      · subst same
        simp [ProxyState.records, ProxyState.currentRecord, vaoAttribs]
      · simp [ProxyState.records, same]
    · simp [here]
  · intro slot named given
    obtain ⟨enabled, divisor⟩ := rest (state.2.attribProxyState slot)
    have size : (change (state.2.attribProxyState slot)).size = pointer.size :=
      congrArg VertexFormat.size (formats _)
    rw [restored_iff, size] at given
    obtain ⟨sameEnabled, sameDivisor⟩ := alike given.1 given.2 slot named
    have agrees : Submitted driver (state.2.world.life group ctx)
        ((state.2.world.contexts ctx).binding ≠ 0) (change (state.2.attribProxyState slot)) slot
        (submitted driver (state.2.world.life group ctx)
          ((state.2.world.contexts ctx).binding ≠ 0) (change (state.2.attribProxyState slot)) slot
          ((state.2.world.contexts ctx).attrib index)) :=
      submitted_agrees (by rw [enabled, sameEnabled]) (by rw [divisor, sameDivisor])
    simpa [submitted, Submits, formats, bound, named] using agrees

/-- An assignment that leaves the pointer alone is made to the record and to GL. -/
theorem Mirrored.set (mirrored : Mirrored driver group state) {index : UInt32}
    {change : AttribState → AttribState} (real : VertexAttrib → VertexAttrib)
    (stub : ∀ other, (next.1.stubGlState other).arrayBuffer = (state.1.stubGlState other).arrayBuffer)
    (proxy : next.2 = (state.2.gl group ctx fun _ context =>
      if driver.attrib index then context.setAttrib index (real (context.attrib index))
      else context).setRecords ctx ((state.2.records ctx).setAttribs index change))
    (size : ∀ attrib, (change attrib).size = attrib.size)
    (agrees : ∀ {life named attrib slot actual}, Submitted driver life named attrib slot actual →
      Submitted driver life named (change attrib) slot (real actual)) :
    Mirrored driver group next := by
  have world : next.2.world = state.2.world.set ctx ((state.2.world.contexts ctx).setAttrib index
      (if driver.attrib index then real ((state.2.world.contexts ctx).attrib index)
      else (state.2.world.contexts ctx).attrib index)) := by
    rw [proxy]
    simp only [ProxyState.setRecords_world, ProxyState.gl]
    split_ifs
    · rfl
    · rw [setAttrib_self]
  refine mirrored.assign ctx (fun slot => change ((state.2.currentRecord ctx).attribs slot)) stub
    world ?_ ?_ ?_
  · intro other
    rw [proxy, ProxyState.setRecords_proxyCtx]
    by_cases here : other = ctx
    · rw [if_pos here, here]
      exact Records.setAttribs_currentVao
    · rw [if_neg here]
      rfl
  · intro other name
    rw [proxy, ProxyState.setRecords_proxyCtx]
    by_cases here : other = ctx
    · subst here
      rw [if_pos rfl, setAttribs_vao _ (mirrored.currentInside other)]
      by_cases same : name = (state.2.proxyCtx other).currentVao
      · subst same
        simp [ProxyState.records, ProxyState.currentRecord, vaoAttribs]
        rfl
      · simp [ProxyState.records, same]
    · simp [here]
  · intro slot named given
    have below : index.toNat < 16 := attribName_eq.mp named ▸ slot.isLt
    rw [if_pos (driver.attrib_of_lt index below)]
    rw [restored_iff, size, ← restored_iff] at given
    have before := (mirrored.arrays ctx (state.2.proxyCtx ctx).currentVao).attribs slot given
    simp only [named, mirrored.current] at before
    refine agrees ?_
    simpa only [ProxyState.currentRecord, VertexContext.attrib, mirrored.current] using before

/-- A draw submits the client arrays that it places. -/
theorem Mirrored.draw (mirrored : Mirrored driver group state)
    {patches : List (AttribIndex × UInt64)}
    (stub : ∀ other, (next.1.stubGlState other).arrayBuffer = (state.1.stubGlState other).arrayBuffer)
    (proxy : next.2 = (state.2.patch ctx patches).gl group ctx fun life =>
      rebuild driver life ((state.2.patch ctx patches).currentRecord ctx))
    (client : ∀ slot ∈ patches.map Prod.fst,
      ((state.2.currentRecord ctx).attribs slot).enabled = true ∧
        ((state.2.currentRecord ctx).attribs slot).vbo = 0) :
    Mirrored driver group next := by
  have inside := mirrored.currentInside ctx
  have record : (state.2.patch ctx patches).currentRecord ctx = { state.2.currentRecord ctx with
      attribs := Attribs.place (state.2.currentRecord ctx).attribs patches } := by
    rw [ProxyState.currentRecord, ProxyState.patch_currentVao, patch_vao inside, if_pos ⟨rfl, rfl⟩]
    rfl
  obtain ⟨array, rebuilt, element, attribs⟩ := rebuild_spec driver (state.2.world.life group ctx)
    ((state.2.patch ctx patches).currentRecord ctx) (state.2.world.contexts ctx)
    (mirrored.named ctx)
  have before := mirrored.arrays ctx (state.2.world.contexts ctx).binding
  have same : (state.2.proxyCtx ctx).vao (state.2.world.contexts ctx).binding =
      state.2.currentRecord ctx := by
    rw [ProxyState.currentRecord, mirrored.current]
  rw [same] at before
  refine mirrored.update ctx ((state.2.patch ctx patches).currentRecord ctx) array stub ?_ ?_ ?_
    ⟨?_, fun slot given => ?_⟩
  · rw [← rebuilt, proxy]
    rfl
  · intro other
    rw [proxy, ProxyState.gl_proxyCtx, ProxyState.patch_currentVao]
  · intro other name
    rw [proxy, ProxyState.gl_proxyCtx, patch_vao inside, record]
    split_ifs with here
    · obtain ⟨rfl, rfl⟩ := here
      rfl
    · rfl
  · rw [element, record]
    exact before.element
  · rw [record] at given attribs ⊢
    simp only at given attribs ⊢
    rw [attribs slot]
    rcases place_slot (state.2.currentRecord ctx).attribs patches slot with
      same | ⟨⟨pointer, placed⟩, member⟩
    · rw [same] at given ⊢
      have agrees := before.attribs slot given
      split_ifs
      · have kept : submitted driver (state.2.world.life group ctx)
            ((state.2.world.contexts ctx).binding ≠ 0) ((state.2.currentRecord ctx).attribs slot) slot
            ((state.2.world.contexts ctx).attrib (attribName slot)) =
              (state.2.world.contexts ctx).attrib (attribName slot) := agrees.same
        rw [kept]
        exact agrees
      · exact agrees
    · obtain ⟨enabled, unbuffered⟩ := client slot member
      rw [placed] at given ⊢
      have agrees := before.attribs slot (restored_iff.mpr (restored_iff.mp given))
      rw [if_pos (by simp [enabled, unbuffered])]
      exact submitted_agrees agrees.enabled agrees.divisor

theorem Mirrored.same (mirrored : Mirrored driver group state)
    (stub : ∀ other, (next.1.stubGlState other).arrayBuffer = (state.1.stubGlState other).arrayBuffer)
    (proxy : next.2 = state.2) : Mirrored driver group next := by
  obtain ⟨current, inside, arrays, array, zero⟩ := mirrored
  obtain ⟨after, _⟩ := next
  subst proxy
  exact ⟨current, inside, arrays, fun other => by rw [stub]; exact array other, zero⟩

theorem Mirrored.deleteVertexArrays (mirrored : Mirrored driver group state) {arrays : List UInt32}
    (unbound : (state.2.world.contexts ctx).binding ∈ arrays →
      (state.2.world.contexts ctx).binding = 0)
    (stub : ∀ other, (next.1.stubGlState other).arrayBuffer = (state.1.stubGlState other).arrayBuffer)
    (proxy : next.2 = state.2.handle driver group ctx (.glDeleteVertexArrays arrays)) :
    Mirrored driver group next := by
  have kept : (if (state.2.world.contexts ctx).binding ∈ arrays then 0
      else (state.2.world.contexts ctx).binding) = (state.2.world.contexts ctx).binding := by
    split_ifs with member
    · exact (unbound member).symm
    · rfl
  have world : next.2.world = state.2.world.set ctx
      ((state.2.world.contexts ctx).deleteVertexArrays arrays) := by
    rw [proxy]
    rfl
  unfold VertexContext.deleteVertexArrays at world
  rw [kept] at world
  refine mirrored.buffers _ (state.2.world.contexts ctx).buffers world (by rw [proxy]; rfl) ?_
    fun other _ => stub other
  rw [stub]
  exact mirrored.array ctx

end GlesBridge.Vertex
