import GlesBridge.Vertex.Binding
import GlesBridge.Vertex.BufferNames

namespace GlesBridge.Vertex

open GlesBridge.Gl GlesBridge.Shared GlesBridge.Stub GlesBridge.Proxy GlesBridge.Systems

/-! `get_bound_buffer` and the bindings that GL has. -/

/-- The binding of a target in GL. -/
def realBinding (context : VertexContext) (target : UInt32) : BufferObject :=
  if target = glElementArrayBuffer then (context.arrays context.binding).element
  else if target ∈ bufferTargets then context.buffers target
  else .unbound

/-- The stub names the buffer that GL has bound, for each target of each context
and for each vertex array. -/
def BuffersExact (state : StubMirrors × ProxyState) : Prop :=
  ∀ ctx,
    (∀ target, state.1.boundBuffer ctx target =
      (realBinding (state.2.world.contexts ctx) target).name) ∧
    ∀ name, ((state.1.stubCtx ctx).vao name).ebo =
      ((state.2.world.contexts ctx).arrays name).element.name

/-- A `glBindBuffer` that is kept back would have changed nothing. -/
def ElidedIdle (group : Ctx → Nat) (state : StubMirrors × ProxyState) (input : Nat × VertexCall) :
    Prop :=
  ∀ (below : input.1 < maxContexts) (target buffer : UInt32),
    input.2 = .glBindBuffer target buffer →
      let ctx : Ctx := ⟨input.1, below⟩
      (state.1.vertexCall ctx input.2).2 = [] →
        (state.2.world.contexts ctx).bindBuffer (state.2.world.life group ctx) target buffer =
          state.2.world.contexts ctx

def MirrorExact (driver : VertexDriver) (group : Ctx → Nat) (state : StubMirrors × ProxyState)
    (input : Nat × VertexCall) : Prop :=
  (vertexMachine driver group).Ends BuffersExact state input ∧ ElidedIdle group state input

/-! ## The condition -/

/-- Of the buffer that is deleted the context has only the bindings that GL
clears, and nobody has others. -/
def DeletesBound (group : Ctx → Nat) (state : StubMirrors × ProxyState) (ctx : Ctx)
    (buffer : UInt32) : Prop :=
  let context := state.2.world.contexts ctx
  let object := state.2.world.object group ctx buffer
  (∀ slot, (context.buffers (slotTarget slot)).name = buffer →
      context.buffers (slotTarget slot) = object) ∧
    ((context.arrays context.binding).element.name = buffer →
      (context.arrays context.binding).element = object) ∧
    ∀ other name, ¬ (other = ctx ∧ name = context.binding) →
      ((state.1.stubCtx other).vao name).ebo ≠ buffer

/-- What a call needs for the copies to stay exact. -/
def KeepsNames (group : Ctx → Nat) (state : StubMirrors × ProxyState) (input : Nat × VertexCall) :
    Prop :=
  ∃ below : input.1 < maxContexts,
    let ctx : Ctx := ⟨input.1, below⟩
    let context := state.2.world.contexts ctx
    match input.2 with
    | .glGenVertexArrays arrays => Generates arrays
    | .glDeleteVertexArrays arrays => context.binding ∈ arrays → context.binding = 0
    | .glBindVertexArray array =>
        (∀ other, state.1.Resets ctx other → ∀ name, ((state.1.stubCtx other).vao name).ebo = 0) ∧
          ((state.1.shadowSeen ctx).slot .vao ≠ array →
            array.toNat < maxVaos ∧ context.Accepts array ∧
              (state.2.boundRecord ctx array).ebo = (context.arrays array).element.name)
    | .glBindBuffer target buffer => state.1.boundBuffer ctx target = buffer →
        target = glElementArrayBuffer ∨ target ∈ bufferTargets →
          realBinding context target = state.2.world.object group ctx buffer
    | .glBindBufferBase target _ buffer =>
        target ∈ indexedTargets → state.1.boundBuffer ctx target = buffer
    | .glBindBufferRange target _ buffer .. => (state.1.vertexCall ctx input.2).2 ≠ [] →
        target ∈ indexedTargets → state.1.boundBuffer ctx target = buffer
    | .glDeleteBuffers buffers =>
        ∀ buffer ∈ buffers, buffer ≠ 0 → DeletesBound group state ctx buffer
    | _ => True

/-! ## The invariant -/

structure NamesAgree (state : StubMirrors × ProxyState) : Prop where
  buffers : ∀ ctx slot, (state.1.stubGlState ctx).get slot =
    ((state.2.world.contexts ctx).buffers (slotTarget slot)).name
  elements : ∀ ctx name, ((state.1.stubCtx ctx).vao name).ebo =
    ((state.2.world.contexts ctx).arrays name).element.name

structure NamesSound (state : StubMirrors × ProxyState) : Prop where
  bound : BoundSound state
  inside : ∀ ctx, (state.2.world.contexts ctx).binding.toNat < maxVaos
  names : NamesAgree state

variable {driver : VertexDriver} {group : Ctx → Nat} {state next : StubMirrors × ProxyState}
  {input : Nat × VertexCall} {ctx : Ctx}

theorem NamesAgree.exact (names : NamesAgree state) (bound : BoundAgree state) :
    BuffersExact state := by
  intro ctx
  refine ⟨fun target => ?_, names.elements ctx⟩
  unfold StubMirrors.boundBuffer realBinding
  by_cases element : target = glElementArrayBuffer
  · rw [if_pos element, if_pos element, (bound ctx).1]
    exact names.elements ctx _
  · rw [if_neg element, if_neg element]
    cases found : bufferSlot target with
    | some slot =>
        have member := bufferSlot_isSome.mp (show (bufferSlot target).isSome = true by rw [found]; rfl)
        rw [if_pos member, bufferSlot_eq_some.mp found]
        exact names.buffers ctx slot
    | none =>
        have apart : target ∉ bufferTargets := fun member => by
          have known := bufferSlot_isSome.mpr member
          rw [found] at known
          cases known
        rw [if_neg apart]
        rfl

/-- A binding by name is cleared where the object is. -/
theorem cleared_name {bound object : BufferObject} (live : bound.name = object.name → bound = object) :
    (if bound = object then BufferObject.unbound else bound).name =
      if bound.name = object.name then 0 else bound.name := by
  by_cases same : bound = object
  · rw [if_pos same, if_pos (congrArg BufferObject.name same)]
    rfl
  · rw [if_neg same, if_neg fun equal => same (live equal)]

theorem NamesAgree.deleteBuffer (names : NamesAgree state) {buffer : UInt32}
    (deletes : buffer ≠ 0 → DeletesBound group state ctx buffer) :
    NamesAgree (state.1.stubGlStateInvalidateBuffer ctx buffer,
      { state.2 with world := state.2.world.deleteBuffer group ctx buffer }) := by
  by_cases given : buffer = 0
  · subst given
    exact names
  obtain ⟨slots, element, elsewhere⟩ := deletes given
  constructor
  · intro other slot
    rw [invalidateBuffer_get given]
    simp only [VertexWorld.deleteBuffer_contexts given]
    by_cases here : other = ctx
    · subst here
      rw [if_pos rfl, VertexContext.unbindBuffer]
      simp only [true_and]
      rw [cleared_name (slots slot), names.buffers]
      rfl
    · rw [if_neg here, if_neg fun both => here both.1]
      exact names.buffers other slot
  · intro other name
    rw [invalidateBuffer_ebo given]
    simp only [VertexWorld.deleteBuffer_contexts given]
    by_cases current : other = ctx ∧ name = (state.2.world.contexts ctx).binding
    · obtain ⟨rfl, rfl⟩ := current
      rw [if_pos rfl, VertexContext.unbindBuffer]
      simp only [VertexContext.setArray, Function.update_self]
      rw [cleared_name element, names.elements]
      rfl
    · rw [if_neg (elsewhere other name current), names.elements]
      split_ifs with here
      · subst here
        have apart : name ≠ (state.2.world.contexts other).binding := fun same =>
          current ⟨rfl, same⟩
        simp [VertexContext.unbindBuffer, VertexContext.setArray, apart]
      · rfl

/-- One deletion leaves to the next what it needs. -/
theorem DeletesBound.after {first buffer : UInt32}
    (deletes : DeletesBound group state ctx buffer) (given : buffer ≠ 0) :
    DeletesBound group (state.1.stubGlStateInvalidateBuffer ctx first,
      { state.2 with world := state.2.world.deleteBuffer group ctx first }) ctx buffer := by
  by_cases zero : first = 0
  · subst zero
    exact deletes
  obtain ⟨slots, element, elsewhere⟩ := deletes
  -- a binding that is left is not of the buffer that was deleted first
  have left {bound : BufferObject} (live : bound.name = buffer →
      bound = state.2.world.object group ctx buffer)
      (named : (if bound = state.2.world.object group ctx first then BufferObject.unbound
        else bound).name = buffer) :
      (if bound = state.2.world.object group ctx first then BufferObject.unbound else bound) =
        (state.2.world.deleteBuffer group ctx first).object group ctx buffer := by
    by_cases cleared : bound = state.2.world.object group ctx first
    · rw [if_pos cleared] at named
      exact absurd named.symm given
    · rw [if_neg cleared] at named ⊢
      have apart : buffer ≠ first := by
        intro same
        rw [live named, same] at cleared
        exact cleared rfl
      rw [live named, VertexWorld.object, VertexWorld.object,
        VertexWorld.deleteBuffer_life zero, if_neg fun both => apart both.2]
  have context : (state.2.world.deleteBuffer group ctx first).contexts ctx =
      (state.2.world.contexts ctx).unbindBuffer (state.2.world.object group ctx first) := by
    rw [VertexWorld.deleteBuffer_contexts zero, if_pos rfl]
  refine ⟨fun slot named => ?_, fun named => ?_, fun other name apart => ?_⟩
  · simp only [context, VertexContext.unbindBuffer] at named ⊢
    exact left (slots slot) named
  · simp only [context, VertexContext.unbindBuffer, VertexContext.setArray, Function.update_self]
      at named ⊢
    exact left element named
  · rw [invalidateBuffer_ebo zero]
    have kept := elsewhere other name (by simpa [VertexWorld.deleteBuffer_binding] using apart)
    split_ifs
    · exact Ne.symm given
    · exact kept

theorem NamesAgree.deleteBuffers (names : NamesAgree state) {buffers : List UInt32}
    (deletes : ∀ buffer ∈ buffers, buffer ≠ 0 → DeletesBound group state ctx buffer) :
    NamesAgree (state.1.glDeleteBuffers ctx buffers,
      { state.2 with world := state.2.world.deleteBuffers group ctx buffers }) := by
  induction buffers generalizing state with
  | nil => exact names
  | cons first rest ih =>
      refine ih (names.deleteBuffer (deletes first (.head _))) fun buffer member given => ?_
      exact (deletes buffer (.tail _ member) given).after given

/-! ## Steps -/

theorem KeepsNames.keepsBound (keeps : KeepsNames group state input) : KeepsBound state input := by
  obtain ⟨current, call⟩ := input
  obtain ⟨below, needs⟩ := keeps
  refine ⟨below, ?_⟩
  cases call with
  | glGenVertexArrays | glDeleteVertexArrays => exact needs
  | glBindVertexArray array =>
      have bound (known : (state.1.shadowSeen ⟨current, below⟩).slot .vao ≠ array) :
          ((state.2.world.contexts ⟨current, below⟩).bindVertexArray array).binding = array := by
        rw [VertexContext.bindVertexArray_binding, if_pos (needs.2 known).2.1]
      exact fun known => ⟨(needs.2 known).1, bound known⟩
  | _ => trivial

theorem NamesSound.stubInside (sound : NamesSound state) (ctx : Ctx) :
    (state.1.stubCtx ctx).currentVao.toNat < maxVaos := by
  rw [(sound.bound.agree ctx).1]
  exact sound.inside ctx

/-- Nothing is sent: the copies must be what they were. -/
theorem NamesSound.unsent (sound : NamesSound state) {call : VertexCall} {current : Nat}
    (below : current < maxContexts) (keeps : KeepsNames group state (current, call))
    (stub : next.1 = (state.1.vertexCall ⟨current, below⟩ call).1) (proxy : next.2 = state.2)
    (unsent : (state.1.vertexCall ⟨current, below⟩ call).2 = []) : NamesAgree next := by
  obtain ⟨_, needs⟩ := keeps
  constructor
  · intro ctx slot
    rw [stub, proxy, StubMirrors.vertexCall_stubGlState, ← sound.names.buffers]
    cases call with
    | glBindBuffer target buffer =>
        simp only [StubMirrors.vertexCall, StubMirrors.glBindBuffer] at unsent
        split_ifs at unsent with known
        by_cases here : ctx = ⟨current, below⟩
        · subst here
          simp only [if_true]
          cases found : bufferSlot target with
          | none => rfl
          | some found_slot =>
              have apart : target ≠ glElementArrayBuffer := by
                intro same
                rw [same] at found
                cases found
              have bound := known.2
              rw [StubMirrors.boundBuffer, if_neg apart, found] at bound
              exact congrArg (fun copy => copy.get slot) (GLState.set_get_self bound)
        · simp only [if_neg here]
    | glDeleteBuffers buffers => cases unsent
    | _ => rfl
  · intro ctx name
    have generates (arrays : List UInt32) (same : call = .glGenVertexArrays arrays) :
        Generates arrays := by
      cases same
      exact needs
    rw [stub, proxy, vertexCall_ebo call (sound.stubInside _) generates, ← sound.names.elements]
    cases call with
    | glBindVertexArray array =>
        simp only
        split_ifs with resets
        · exact (needs.1 ctx resets name).symm
        · rfl
    | glBindBuffer target buffer =>
        simp only [StubMirrors.vertexCall, StubMirrors.glBindBuffer] at unsent
        split_ifs at unsent with known
        simp only
        split_ifs with here
        · obtain ⟨rfl, rfl, rfl⟩ := here
          exact known.2.symm
        · rfl
    | glGenVertexArrays | glDeleteBuffers => cases unsent
    | _ => rfl

theorem NamesAgree.same (names : NamesAgree state)
    (copies : ∀ ctx, next.1.stubGlState ctx = state.1.stubGlState ctx)
    (ebos : ∀ ctx name, ((next.1.stubCtx ctx).vao name).ebo = ((state.1.stubCtx ctx).vao name).ebo)
    (same : ∀ ctx, SameNames (state.2.world.contexts ctx) (next.2.world.contexts ctx)) :
    NamesAgree next := by
  constructor
  · intro ctx slot
    rw [copies, (same ctx).buffers]
    exact names.buffers ctx slot
  · intro ctx name
    rw [ebos, (same ctx).elements]
    exact names.elements ctx name

/-- The copy of the target knows what an indexed bind has as its side effect. -/
theorem NamesAgree.indexed (names : NamesAgree state) {target buffer : UInt32}
    (copies : ∀ ctx, next.1.stubGlState ctx = state.1.stubGlState ctx)
    (ebos : ∀ ctx name, ((next.1.stubCtx ctx).vao name).ebo = ((state.1.stubCtx ctx).vao name).ebo)
    (proxy : next.2 = state.2.gl group ctx fun life context =>
      context.bindBufferIndexed life target buffer)
    (bound : target ∈ indexedTargets → state.1.boundBuffer ctx target = buffer) :
    NamesAgree next := by
  refine names.same copies ebos fun other => ?_
  rw [proxy, ProxyState.gl_contexts]
  split_ifs with here
  · subst here
    unfold VertexContext.bindBufferIndexed
    split_ifs with member
    · refine ⟨fun other_target => ?_, fun _ => rfl⟩
      by_cases same : other_target = target
      · subst same
        have apart : other_target ≠ glElementArrayBuffer := by
          intro wrong
          rw [wrong] at member
          exact absurd member (by decide)
        have listed : other_target ∈ bufferTargets := by
          revert member
          unfold indexedTargets
          simp only [List.mem_cons, List.not_mem_nil, or_false]
          rintro (rfl | rfl | rfl | rfl) <;> decide
        obtain ⟨slot, found⟩ := Option.isSome_iff_exists.mp (bufferSlot_isSome.mpr listed)
        have known := bound member
        rw [StubMirrors.boundBuffer, if_neg apart, found] at known
        have real := names.buffers other slot
        rw [← bufferSlot_eq_some.mp found] at real
        simp only [Function.update_self]
        exact known.symm.trans real
      · simp [same]
    · exact .refl
  · exact .refl

theorem NamesAgree.glBindBuffer (names : NamesAgree state) {target buffer : UInt32}
    (current : (state.1.stubCtx ctx).currentVao = (state.2.world.contexts ctx).binding)
    (copies : ∀ other, next.1.stubGlState other =
      if other = ctx then
        match bufferSlot target with
        | some slot => (state.1.stubGlState other).set buffer slot
        | none => state.1.stubGlState other
      else state.1.stubGlState other)
    (ebos : ∀ other name, ((next.1.stubCtx other).vao name).ebo =
      if target = glElementArrayBuffer ∧ other = ctx ∧ name = (state.1.stubCtx ctx).currentVao then
        buffer
      else ((state.1.stubCtx other).vao name).ebo)
    (proxy : next.2 = state.2.handle driver group ctx (.glBindBuffer target buffer)) :
    NamesAgree next := by
  have context (other : Ctx) : next.2.world.contexts other =
      if other = ctx then
        (state.2.world.contexts ctx).bindBuffer (state.2.world.life group ctx) target buffer
      else state.2.world.contexts other := by
    rw [proxy]
    simp only [ProxyState.handle, ProxyState.hGlBindBuffer]
    split_ifs <;> simp [*]
  constructor
  · intro other slot
    rw [copies, context]
    split_ifs with here
    · subst here
      unfold VertexContext.bindBuffer
      by_cases element : target = glElementArrayBuffer
      · subst element
        have none : bufferSlot glElementArrayBuffer = none := by decide
        simpa [none, VertexContext.setArray] using names.buffers other slot
      · rw [if_neg element]
        cases found : bufferSlot target with
        | some bound =>
            have listed := bufferSlot_isSome.mp
              (show (bufferSlot target).isSome = true by rw [found]; rfl)
            rw [if_pos listed, bufferSlot_eq_some.mp found]
            simp only [GLState.get_set, Function.update_apply]
            by_cases same : slot = bound
            · simp [same]
            · have apart : slotTarget slot ≠ slotTarget bound := fun equal =>
                same (Option.some.inj
                  ((bufferSlot_eq_some.mpr rfl).symm.trans (bufferSlot_eq_some.mpr equal)))
              simpa [same, apart] using names.buffers other slot
        | none =>
            have unlisted : target ∉ bufferTargets := fun member => by
              have known := bufferSlot_isSome.mpr member
              rw [found] at known
              cases known
            rw [if_neg unlisted]
            exact names.buffers other slot
    · exact names.buffers other slot
  · intro other name
    rw [ebos, context, current]
    by_cases element : target = glElementArrayBuffer
    · subst element
      by_cases here : other = ctx
      · subst here
        rw [if_pos rfl, VertexContext.bindBuffer, if_pos rfl]
        simp only [VertexContext.setArray, Function.update_apply, true_and]
        split_ifs
        · rfl
        · exact names.elements other name
      · rw [if_neg here, if_neg fun both => here both.2.1]
        exact names.elements other name
    · rw [if_neg fun both => element both.1, names.elements]
      split_ifs with here
      · subst here
        unfold VertexContext.bindBuffer
        rw [if_neg element]
        split_ifs <;> rfl
      · rfl

theorem NamesAgree.bind (names : NamesAgree state) {array : UInt32}
    (copies : ∀ other, next.1.stubGlState other = state.1.stubGlState other)
    (ebos : ∀ other name, ((next.1.stubCtx other).vao name).ebo =
      if state.1.Resets ctx other then 0 else ((state.1.stubCtx other).vao name).ebo)
    (unreset : ∀ other, state.1.Resets ctx other →
      ∀ name, ((state.1.stubCtx other).vao name).ebo = 0)
    (accepts : (state.2.world.contexts ctx).Accepts array)
    (same : (state.2.boundRecord ctx array).ebo =
      ((state.2.world.contexts ctx).arrays array).element.name)
    (proxy : next.2 = state.2.handle driver group ctx (.glBindVertexArray array)) :
    NamesAgree next := by
  refine names.same copies (fun other name => ?_) fun other => ?_
  · rw [ebos]
    split_ifs with resets
    · exact (unreset other resets name).symm
    · rfl
  · have context : next.2.world.contexts other =
        if other = ctx then
          restore driver (state.2.world.life group ctx) (state.2.boundRecord ctx array)
            ((state.2.world.contexts ctx).bindVertexArray array)
        else state.2.world.contexts other := by
      rw [proxy]
      simp [ProxyState.handle, ProxyState.hGlBindVertexArray]
    rw [context]
    split_ifs with here
    · subst here
      have bound : (state.2.world.contexts other).bindVertexArray array =
          { state.2.world.contexts other with binding := array } := if_pos accepts
      rw [bound]
      obtain ⟨buffers, elements⟩ : SameNames _ (restore driver (state.2.world.life group other)
        (state.2.boundRecord other array)
        { state.2.world.contexts other with binding := array }) := restore_names
      refine ⟨fun target => (buffers target).trans ?_, fun name => (elements name).trans ?_⟩
      · rw [VertexContext.bindBuffer, if_pos rfl]
        rfl
      · rw [VertexContext.bindBuffer, if_pos rfl]
        simp only [VertexContext.setArray, Function.update_apply]
        split_ifs with named
        · rw [named]
          exact same
        · rfl
    · exact .refl

/-- The command that is sent does to GL's names what the call did to the copies. -/
theorem NamesSound.sent (sound : NamesSound state) {call : VertexCall} {current : Nat}
    {command : VertexCommand} (below : current < maxContexts)
    (keeps : KeepsNames group state (current, call))
    (stub : next.1 = (state.1.vertexCall ⟨current, below⟩ call).1)
    (proxy : next.2 = state.2.handle driver group ⟨current, below⟩ command)
    (sends : (state.1.vertexCall ⟨current, below⟩ call).2 = [command]) : NamesAgree next := by
  obtain ⟨_, needs⟩ := keeps
  have generates (arrays : List UInt32) (same : call = .glGenVertexArrays arrays) :
      Generates arrays := by
    cases same
    exact needs
  have copies (ctx : Ctx) : (state.1.vertexCall ⟨current, below⟩ call).1.stubGlState ctx = _ :=
    StubMirrors.vertexCall_stubGlState call ctx
  have ebos (ctx : Ctx) (name : UInt32) :
      (((state.1.vertexCall ⟨current, below⟩ call).1.stubCtx ctx).vao name).ebo = _ :=
    vertexCall_ebo call (sound.stubInside _) generates
  rw [← stub] at copies ebos
  have plain (quiet : BindsNone command)
      (sameCopies : ∀ ctx, next.1.stubGlState ctx = state.1.stubGlState ctx)
      (sameEbos : ∀ ctx name, ((next.1.stubCtx ctx).vao name).ebo =
        ((state.1.stubCtx ctx).vao name).ebo) : NamesAgree next := by
    refine sound.names.same sameCopies sameEbos fun ctx => ?_
    rw [proxy]
    exact handle_names quiet ctx
  cases call with
  | glGenVertexArrays arrays =>
      cases sends
      constructor
      · intro ctx slot
        rw [copies, proxy, sound.names.buffers]
        by_cases here : ctx = ⟨current, below⟩
        · subst here
          simp [ProxyState.handle, ProxyState.hGlGenVertexArrays, VertexContext.genVertexArrays]
        · simp [ProxyState.handle, ProxyState.hGlGenVertexArrays, here]
      · intro ctx name
        rw [ebos, proxy]
        by_cases here : ctx = ⟨current, below⟩
        · subst here
          by_cases member : name ∈ arrays
          · simp [ProxyState.handle, ProxyState.hGlGenVertexArrays, VertexContext.genVertexArrays,
              member, VertexArray.initial, BufferObject.unbound]
          · simpa [ProxyState.handle, ProxyState.hGlGenVertexArrays, VertexContext.genVertexArrays,
              member] using sound.names.elements _ name
        · simpa [ProxyState.handle, ProxyState.hGlGenVertexArrays, here] using
            sound.names.elements ctx name
  | glBindVertexArray array =>
      simp only [StubMirrors.vertexCall, StubMirrors.glBindVertexArray_eq] at sends
      split_ifs at sends with known
      cases sends
      obtain ⟨unreset, kept⟩ := needs
      obtain ⟨-, accepts, same⟩ := kept known
      exact sound.names.bind copies ebos unreset accepts same proxy
  | glBindBuffer target buffer =>
      simp only [StubMirrors.vertexCall, StubMirrors.glBindBuffer] at sends
      split_ifs at sends
      cases sends
      exact sound.names.glBindBuffer (sound.bound.agree _).1 copies ebos proxy
  | glBindBufferBase target index buffer =>
      cases sends
      exact sound.names.indexed copies ebos proxy needs
  | glBindBufferRange target index buffer offset size mapped =>
      have bound := needs (by simp [sends])
      simp only [StubMirrors.vertexCall, StubMirrors.glBindBufferRange] at sends
      split_ifs at sends <;> cases sends <;> exact sound.names.indexed copies ebos proxy bound
  | glDeleteBuffers buffers =>
      cases sends
      have after := sound.names.deleteBuffers needs
      obtain ⟨reached, moved⟩ := next
      cases stub
      cases proxy
      exact after
  | glDrawElements indices lastVertex place =>
      refine plain ?_ copies ebos
      simp only [StubMirrors.vertexCall, StubMirrors.glDrawElements] at sends
      split_ifs at sends <;> cases sends <;> trivial
  | _ =>
      cases sends
      exact plain trivial copies ebos

theorem NamesSound.step (sound : NamesSound state) (keeps : KeepsNames group state input)
    (taken : (vertexMachine driver group).step state input = some next) : NamesSound next := by
  have bound := sound.bound.step keeps.keepsBound taken
  obtain ⟨below, -, stub, way⟩ := vertexMachine_step.mp taken
  obtain ⟨current, call⟩ := input
  refine ⟨bound, fun ctx => ?_, ?_⟩
  · rcases way with ⟨-, same⟩ | ⟨command, -, inside, proxy⟩
    · rw [same]
      exact sound.inside ctx
    · rw [proxy, ProxyState.handle_binding]
      cases command with
      | glBindVertexArray array =>
          simp only [VertexContext.bindVertexArray_binding]
          split_ifs
          · exact inside
          · exact sound.inside _
          · exact sound.inside ctx
      | glDeleteVertexArrays arrays =>
          simp only
          split_ifs
          · decide
          · exact sound.inside ctx
      | _ => exact sound.inside ctx
  · rcases way with ⟨unsent, same⟩ | ⟨command, sends, -, proxy⟩
    · exact sound.unsent below keeps stub same unsent
    · exact sound.sent below keeps stub proxy sends

theorem KeepsNames.defined (keeps : KeepsNames group state input) :
    ∃ next, (vertexMachine driver group).step state input = some next := by
  obtain ⟨current, call⟩ := input
  obtain ⟨below, needs⟩ := keeps
  refine vertexMachine_defined below ?_ (commands_inside ?_ ?_)
  · intro arrays same
    cases same
    exact needs
  · intro arrays same
    cases same
    exact needs
  · intro array same known
    cases same
    exact (needs.2 known).1

/-- A bind that is kept back has its buffer bound, and the buffer is still the
one of that name. -/
theorem KeepsNames.idle (keeps : KeepsNames group state input) : ElidedIdle group state input := by
  intro below target buffer bind _ unsent
  obtain ⟨current, call⟩ := input
  obtain ⟨_, needs⟩ := keeps
  cases bind
  simp only [StubMirrors.vertexCall, StubMirrors.glBindBuffer] at unsent
  split_ifs at unsent with known
  have live := needs known.2 (known.1.imp_right bufferSlot_isSome.mp)
  unfold realBinding at live
  by_cases element : target = glElementArrayBuffer
  · subst element
    exact bindBuffer_element_self live
  · have listed := bufferSlot_isSome.mp (known.1.resolve_left element)
    rw [if_neg element, if_pos listed] at live
    rw [VertexContext.bindBuffer, if_neg element, if_pos listed]
    have same := Function.update_eq_self target (state.2.world.contexts ⟨current, below⟩).buffers
    rw [live] at same
    exact congrArg (fun buffers => { state.2.world.contexts ⟨current, below⟩ with buffers }) same

/-- In every run whose calls meet the condition the stub names the bound buffers,
and keeps back only binds that would change nothing. -/
theorem buffer_mirror_exact {stub : StubMirrors} {proxy : ProxyState}
    {calls : List (Nat × VertexCall)} (stubStart : ∀ ctx, stub.stubCtx ctx = .zero)
    (slotStart : ∀ ctx, stub.stubGlState ctx = .zero)
    (proxyStart : ∀ ctx, (proxy.proxyCtx ctx).currentVao = 0) (glStart : proxy.world = .initial)
    (keeps : (vertexMachine driver group).Along (KeepsNames group) (stub, proxy) calls) :
    (vertexMachine driver group).Along (MirrorExact driver group) (stub, proxy) calls := by
  have start : NamesSound (stub, proxy) := by
    refine ⟨⟨fun ctx => ?_, fun _ ctx => ?_⟩, fun ctx => ?_, ⟨fun ctx slot => ?_, fun ctx name => ?_⟩⟩
    · simp only [stubStart, proxyStart, glStart]
      exact ⟨rfl, rfl⟩
    · simp only [stubStart]
      rfl
    · simp only [glStart]
      change (0 : UInt32).toNat < maxVaos
      decide
    · simp only [slotStart, glStart]
      cases slot <;> rfl
    · simp only [stubStart, glStart, GLContextState.vao_zero]
      rfl
  refine Machine.Along.of_invariant NamesSound.step (fun sound allowed => ?_) start keeps
  obtain ⟨next, taken⟩ := allowed.defined
  have after := sound.step allowed taken
  exact ⟨⟨next, taken, after.names.exact after.bound.agree⟩, allowed.idle⟩

/-- A uniform buffer is bound before one of its indices. -/
theorem buffer_mirror_exact_indexed :
    (vertexMachine .plain fun _ => 0).Along (MirrorExact .plain fun _ => 0) (.zero, .zero)
      [(1, .glBindBuffer 0x8A11 5), (1, .glBindBufferBase 0x8A11 0 5),
        (1, .glBindBuffer 0x8A11 5), (1, .glDeleteBuffers [5])] := by
  refine buffer_mirror_exact (fun _ => rfl) (fun _ => rfl) (fun _ => rfl) rfl
    ⟨⟨by decide, fun bound => absurd bound (by decide)⟩, ?_⟩
  rintro next ⟨⟩
  refine ⟨⟨by decide, fun _ => by decide⟩, ?_⟩
  rintro next ⟨⟩
  refine ⟨⟨by decide, fun _ _ => by decide⟩, ?_⟩
  rintro next ⟨⟩
  refine ⟨⟨by decide, fun buffer member _ => ?_⟩, fun _ _ => trivial⟩
  obtain rfl := List.mem_singleton.mp member
  refine ⟨fun slot => ?_, by decide, fun other name _ => ?_⟩
  · cases slot <;> decide
  · change (GLContextState.zero.vao name).ebo ≠ 5
    rw [GLContextState.vao_zero]
    decide

/-- An indexed bind changes the generic binding as well, which the stub misses. -/
theorem indexed_bind_missed :
    ¬ (vertexMachine .plain fun _ => 0).Along (MirrorExact .plain fun _ => 0) (.zero, .zero)
      [(1, .glBindBufferBase 0x8A11 0 5)] := by
  rintro ⟨⟨⟨next, taken, exact⟩, -⟩, -⟩
  cases taken
  exact absurd ((exact 1).1 0x8A11) (by decide)

end GlesBridge.Vertex
