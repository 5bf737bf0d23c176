import GlesBridge.Stub.Elision

namespace GlesBridge.Stub

open GlesBridge.Gl GlesBridge.Shared GlesBridge.Systems

/-! What a deletion in one context makes of the shadows of the others. -/

/-! ## Many contexts -/

/-- The stub and the contexts it has created. -/
structure Contexts where
  mirrors : StubMirrors
  contexts : Ctx → GLContext

/-- Calls with the index of the context in which they are made; an index past
the arrays of the stub has no defined outcome. GL unbinds what is deleted in the
current context only. -/
def manyContexts (driver : Driver) : Machine Contexts (Nat × StateCall) where
  step state input :=
    if below : input.1 < maxContexts then
      some {
        mirrors := (state.mirrors.stateCall ⟨input.1, below⟩ input.2).1
        contexts :=
          if (state.mirrors.stateCall ⟨input.1, below⟩ input.2).2 then
            Function.update state.contexts ⟨input.1, below⟩
              ((state.contexts ⟨input.1, below⟩).perform driver input.2)
          else state.contexts
      }
    else none

/-- Every binding that a shadow does not hold for unknown is the context's. -/
def Contexts.BindingsHold (driver : Driver) (state : Contexts) : Prop :=
  ∀ ctx slot, slot.kind.isSome = true → (state.mirrors.shadowCtx ctx).Knows slot →
    slot.Holds driver (state.contexts ctx) ((state.mirrors.shadowCtx ctx).slot slot)

/-- No other context has one of the names bound that a deletion of framebuffers,
vertex arrays or samplers is given. -/
def BoundNowhereElse (state : Contexts) (input : Nat × StateCall) : Prop :=
  input.1 < maxContexts ∧
    ∀ kind names, (∀ active, input.2.effect active = .unbind kind names) → kind ≠ .texture →
      ∀ other : Ctx, other.val ≠ input.1 → ∀ slot : Slot, slot.kind = some kind →
        ∀ field, slot.field = some field → state.contexts other field 0 ∈ names →
          state.contexts other field 0 = 0

/-! ## The shadows of the other contexts -/

namespace StubMirrors

variable {mirrors : StubMirrors} {current other : Ctx} {call : StateCall}

/-- Shadows that nothing has been noted in, and a reset that finds only those. -/
structure Blank (mirrors : StubMirrors) : Prop where
  waiting : mirrors.stubNewCtx ≠ 0 → ∀ ctx, (mirrors.shadowCtx ctx).initialised = false
  zero : ∀ ctx, (mirrors.shadowCtx ctx).initialised = false → mirrors.shadowCtx ctx = .zero

theorem Blank.slot_eq_seen (blank : mirrors.Blank) (ctx : Ctx) {slot : Slot}
    (named : slot.kind.isSome = true) :
    (mirrors.shadowCtx ctx).slot slot = (mirrors.shadowSeen ctx).slot slot := by
  rw [shadowSeen_eq]
  split_ifs with ready
  · rfl
  · have unmarked : (mirrors.shadowCtx ctx).initialised = false := by
      by_contra marked
      have settled : mirrors.stubNewCtx = 0 := by
        by_contra pending
        exact marked (blank.waiting pending ctx)
      exact ready ⟨settled, by simpa using marked⟩
    rw [blank.zero ctx unmarked]
    cases slot <;> first | rfl | cases named

theorem shadowCtx_notePrimitiveRestart (mirrors : StubMirrors) (current : Ctx) (call : StateCall) :
    (mirrors.notePrimitiveRestart current call).shadowCtx = mirrors.shadowCtx ∧
      (mirrors.notePrimitiveRestart current call).stubNewCtx = mirrors.stubNewCtx := by
  cases call with
  | glEnable | glDisable =>
      simp only [notePrimitiveRestart]
      split_ifs <;> exact ⟨rfl, rfl⟩
  | _ => exact ⟨rfl, rfl⟩

theorem shadowCtx_noteCurrentVao (mirrors : StubMirrors) (current : Ctx) (call : StateCall) :
    (mirrors.noteCurrentVao current call).shadowCtx = mirrors.shadowCtx ∧
      (mirrors.noteCurrentVao current call).stubNewCtx = mirrors.stubNewCtx := by
  cases call <;> exact ⟨rfl, rfl⟩

/-- The resets before a call change nothing in the other contexts. -/
theorem Blank.shadowCtx_consulted (blank : mirrors.Blank) (apart : other ≠ current) :
    (mirrors.shadowStateForCurrentCtx current).shadowCtx other = mirrors.shadowCtx other := by
  have reset : (mirrors.resetNewCtx current).shadowCtx other = mirrors.shadowCtx other := by
    have current_apart : current.val ≠ other.val := fun same => apart (Fin.ext same.symm)
    simp only [resetNewCtx]
    split_ifs with pending different
    · by_cases same : mirrors.stubNewCtx = other
      · rw [blank.zero other (blank.waiting (by omega) other)]
        simp [shadowCtx_reset, same]
      · simp [shadowCtx_reset, same, current_apart]
    · by_cases same : mirrors.stubNewCtx = other
      · rw [blank.zero other (blank.waiting (by omega) other)]
        simp [shadowCtx_reset, same]
      · simp [shadowCtx_reset, same]
    · rfl
  simp only [StubMirrors.shadowStateForCurrentCtx]
  split_ifs
  · exact reset
  · simpa [setShadow, apart] using reset

/-- What a call that compares its arguments with the shadow leaves. -/
theorem cachedCall_after (mirrors : StubMirrors) (current : Ctx) (call : StateCall) :
    (mirrors.cachedCall current call).1.Ready current ∧ ∀ other ≠ current,
      (mirrors.cachedCall current call).1.shadowCtx other =
        ((mirrors.notePrimitiveRestart current call).shadowStateForCurrentCtx
          current).shadowCtx other := by
  have ready := ready_of_consulted (mirrors.notePrimitiveRestart current call) current
  simp only [cachedCall]
  generalize (mirrors.notePrimitiveRestart current call).shadowStateForCurrentCtx current =
    consulted at ready
  cases cached : cachedSlots (consulted.shadowCtx current) call with
  | none => exact ⟨ready, fun _ _ => rfl⟩
  | some writes =>
      cases same : (consulted.shadowCtx current).matches_ writes with
      | true => simpa [same] using ready
      | false =>
          have noted := shadowCtx_noteCurrentVao (consulted.setShadow current
            ((consulted.shadowCtx current).assign writes)) current call
          simp only [same, Bool.false_eq_true, if_false, Ready, noted.1, noted.2]
          refine ⟨⟨ready.1, ?_⟩, fun other apart => ?_⟩
          · simpa [setShadow, StubShadowState.assign] using ready.2
          · simp [setShadow, apart]

/-- The calls that delete objects whose names the shadow holds. -/
def Unbinds (call : StateCall) (kind : ObjectKind) (names : List UInt32) : Prop :=
  ∀ active, call.effect active = .unbind kind names

/-- The three ways of the entry points with the shadows. -/
theorem stateCall_cases (mirrors : StubMirrors) (current : Ctx) (call : StateCall) :
    (∃ kind names, Unbinds call kind names ∧ mirrors.stateCall current call =
        ({ mirrors with shadowCtx := fun ctx => (mirrors.shadowCtx ctx).unbind kind names }, true)) ∨
      (∀ kind names, ¬ Unbinds call kind names) ∧
        (mirrors.stateCall current call = mirrors.cachedCall current call ∨
          (mirrors.stateCall current call).1.shadowCtx = mirrors.shadowCtx ∧
            (mirrors.stateCall current call).1.stubNewCtx = mirrors.stubNewCtx) := by
  cases call with
  | glDeleteTextures names | glDeleteFramebuffers names | glDeleteVertexArrays names
  | glDeleteSamplers names =>
      exact .inl ⟨_, names, fun _ => rfl, congrArg (·, true) (shadowInvalidateAll_eq mirrors _ names)⟩
  | glDeleteBuffers buffers =>
      refine .inr ⟨fun kind names deletes => ?_, .inr (glDeleteBuffers_shadow mirrors current buffers)⟩
      cases deletes 0
  | glEnablei | glDisablei | glColorMaski | glBlendEquationSeparatei | glBlendFuncSeparatei
  | glLinkProgram | glDeleteProgram | glDeleteRenderbuffers =>
      refine .inr ⟨fun kind names deletes => ?_, .inr ⟨rfl, rfl⟩⟩
      cases deletes 0
  | glBindFramebuffer target framebuffer =>
      refine .inr ⟨fun kind names deletes => ?_, .inl rfl⟩
      have shape := deletes 0
      simp only [StateCall.effect] at shape
      split_ifs at shape
  | _ =>
      refine .inr ⟨fun kind names deletes => ?_, .inl rfl⟩
      cases deletes 0

theorem Blank.of_eq {next : StubMirrors} (blank : mirrors.Blank)
    (shadow : next.shadowCtx = mirrors.shadowCtx) (newCtx : next.stubNewCtx = mirrors.stubNewCtx) :
    next.Blank :=
  ⟨by rw [shadow, newCtx]; exact blank.waiting, by rw [shadow]; exact blank.zero⟩

/-- A call that compares its arguments with the shadow of the current context
leaves the others alone. -/
theorem Blank.cachedCall_other (blank : mirrors.Blank) (apart : other ≠ current)
    (call : StateCall) :
    (mirrors.cachedCall current call).1.shadowCtx other = mirrors.shadowCtx other := by
  obtain ⟨shadow, newCtx⟩ := shadowCtx_notePrimitiveRestart mirrors current call
  rw [(cachedCall_after mirrors current call).2 other apart,
    (blank.of_eq shadow newCtx).shadowCtx_consulted apart, shadow]

theorem Blank.stateCall (blank : mirrors.Blank) (current : Ctx) (call : StateCall) :
    (mirrors.stateCall current call).1.Blank := by
  rcases mirrors.stateCall_cases current call with
    ⟨kind, names, -, shape⟩ | ⟨-, shape | ⟨shadow, newCtx⟩⟩
  · rw [shape]
    refine ⟨blank.waiting, fun ctx unmarked => ?_⟩
    change (mirrors.shadowCtx ctx).unbind kind names = .zero
    rw [blank.zero ctx unmarked]
    simp [StubShadowState.unbind, StubShadowState.zero]
  · rw [shape]
    obtain ⟨ready, -⟩ := cachedCall_after mirrors current call
    refine ⟨fun pending => absurd ready.1 pending, fun ctx unmarked => ?_⟩
    by_cases same : ctx = current
    · rw [same, ready.2] at unmarked
      cases unmarked
    · rw [blank.cachedCall_other same] at unmarked ⊢
      exact blank.zero ctx unmarked
  · exact blank.of_eq shadow newCtx

/-- What a call makes of the shadow that another context will find. -/
theorem Blank.seen_other (blank : mirrors.Blank) (apart : other ≠ current) (call : StateCall) :
    (∃ kind names, Unbinds call kind names ∧
        (mirrors.stateCall current call).1.shadowSeen other =
          (mirrors.shadowSeen other).unbind kind names) ∨
      (∀ kind names, ¬ Unbinds call kind names) ∧
        (mirrors.stateCall current call).1.shadowSeen other = mirrors.shadowSeen other := by
  rcases mirrors.stateCall_cases current call with
    ⟨kind, names, deletes, shape⟩ | ⟨keeps, shape | ⟨shadow, newCtx⟩⟩
  · exact .inl ⟨kind, names, deletes, by rw [shape, unbind_seen]⟩
  · refine .inr ⟨keeps, ?_⟩
    have left := blank.cachedCall_other apart call
    rw [shape, shadowSeen_eq, shadowSeen_eq, left, (cachedCall_after mirrors current call).1.1]
    by_cases pending : mirrors.stubNewCtx = 0
    · simp [pending]
    · simp [pending, blank.waiting pending other]
  · exact .inr ⟨keeps, shadowSeen_congr (congrFun shadow other) newCtx⟩

end StubMirrors

/-! ## Deletions -/

/-- Every shadow is sound for its context. -/
structure Contexts.Sound (driver : Driver) (state : Contexts) : Prop where
  blank : state.mirrors.Blank
  agrees : ∀ ctx, Agrees driver (state.mirrors.shadowSeen ctx) (state.contexts ctx)

variable {driver : Driver} {state next : Contexts} {input : Nat × StateCall}

theorem Contexts.Sound.bindingsHold (sound : state.Sound driver) : state.BindingsHold driver := by
  intro ctx slot named known
  have value := sound.blank.slot_eq_seen ctx named
  have single : slot.perBuffer = false := by
    cases slot <;> first | rfl | cases named
  rw [value]
  refine sound.agrees ctx slot single ?_
  cases slot with
  | boundTexture array unit => exact fun marked => known (value.trans marked)
  | viewport | scissor => cases named
  | _ => trivial

theorem manyContexts_step (taken : (manyContexts driver).step state input = some next) :
    ∃ below : input.1 < maxContexts,
      next.mirrors = (state.mirrors.stateCall ⟨input.1, below⟩ input.2).1 ∧
      next.contexts =
        if (state.mirrors.stateCall ⟨input.1, below⟩ input.2).2 then
          Function.update state.contexts ⟨input.1, below⟩
            ((state.contexts ⟨input.1, below⟩).perform driver input.2)
        else state.contexts := by
  simp only [manyContexts] at taken
  split at taken
  next below =>
    cases taken
    exact ⟨below, rfl, rfl⟩
  next => cases taken

theorem contexts_other (taken : (manyContexts driver).step state input = some next) {other : Ctx}
    (apart : other.val ≠ input.1) : next.contexts other = state.contexts other := by
  obtain ⟨below, -, contexts⟩ := manyContexts_step taken
  have different : other ≠ ⟨input.1, below⟩ := fun same => apart (congrArg Fin.val same)
  rw [contexts]
  split_ifs
  · rw [Function.update_of_ne different]
  · rfl

/-- The binding of a sound shadow is the context's, where it cannot be unknown. -/
theorem Contexts.Sound.bound (sound : state.Sound driver) {kind : ObjectKind}
    (notTexture : kind ≠ .texture) (ctx : Ctx) {slot : Slot} (ofKind : slot.kind = some kind)
    {field : Field} (stands : slot.field = some field) :
    state.contexts ctx field 0 = (state.mirrors.shadowSeen ctx).slot slot := by
  have named : field.kind.isSome = true := by simp [← Slot.kind_eq_field stands, ofKind]
  have single : slot.perBuffer = false := by
    cases slot <;> first | rfl | cases ofKind
  have known : (state.mirrors.shadowSeen ctx).Knows slot := by
    cases slot with
    | boundTexture => exact absurd (Option.some.inj ofKind).symm notTexture
    | viewport | scissor => cases ofKind
    | _ => trivial
  rw [sound.agrees ctx slot single known field stands 0, driver.name field _ named]

theorem Contexts.Sound.step (sound : state.Sound driver) (apart : BoundNowhereElse state input)
    (taken : (manyContexts driver).step state input = some next) : next.Sound driver := by
  obtain ⟨below, mirrors, contexts⟩ := manyContexts_step taken
  refine ⟨mirrors ▸ sound.blank.stateCall _ _, fun ctx => ?_⟩
  by_cases here : ctx.val = input.1
  · obtain rfl : ctx = ⟨input.1, below⟩ := Fin.ext here
    have seen := state.mirrors.stateCall_seen ⟨input.1, below⟩ input.2
    rw [mirrors, contexts, show (state.mirrors.stateCall _ input.2).1.shadowSeen _ = _ from
      congrArg Prod.fst seen]
    cases sent : (state.mirrors.stateCall ⟨input.1, below⟩ input.2).2 with
    | true =>
        rw [if_pos rfl, Function.update_self]
        exact (sound.agrees _).perform input.2
    | false =>
        rw [if_neg (by simp), afterCall_kept_back ((congrArg Prod.snd seen).symm.trans sent)]
        exact sound.agrees _
  · have different : ctx ≠ ⟨input.1, below⟩ := fun same => here (congrArg Fin.val same)
    rw [contexts_other taken here, mirrors]
    rcases sound.blank.seen_other different input.2 with
      ⟨kind, names, deletes, shape⟩ | ⟨-, shape⟩
    · rw [shape]
      refine (sound.agrees ctx).unbind_apart fun notTexture slot ofKind member => ?_
      obtain ⟨field, stands⟩ : ∃ field, slot.field = some field := by
        cases slot <;> first | exact ⟨_, rfl⟩ | cases ofKind
      have bound := sound.bound notTexture ctx ofKind stands
      rw [← bound] at member ⊢
      exact apart.2 kind names deletes notTexture ctx here slot ofKind field stands member
    · rw [shape]
      exact sound.agrees ctx

/-- A name that another context has bound is lost to its shadow. -/
theorem Contexts.Sound.boundNowhereElse (sound : state.Sound driver)
    (ends : (manyContexts driver).Ends (Contexts.BindingsHold driver) state input) :
    BoundNowhereElse state input := by
  obtain ⟨next, taken, hold⟩ := ends
  obtain ⟨below, mirrors, -⟩ := manyContexts_step taken
  refine ⟨below, fun kind names deletes notTexture other apart slot ofKind field stands member => ?_⟩
  by_contra nonzero
  have bound := sound.bound notTexture other ofKind stands
  have named : slot.kind.isSome = true := by simp [ofKind]
  have fieldNamed : field.kind.isSome = true := by rwa [← Slot.kind_eq_field stands]
  rw [← sound.blank.slot_eq_seen other named] at bound
  rw [bound] at member nonzero
  rcases state.mirrors.stateCall_cases ⟨input.1, below⟩ input.2 with
    ⟨kind', names', deletes', shape⟩ | ⟨keeps, -⟩
  · obtain ⟨rfl, rfl⟩ : kind = kind' ∧ names = names' := by
      simpa using (deletes 0).symm.trans (deletes' 0)
    have lost : (next.mirrors.shadowCtx other).slot slot = 0 := by
      rw [mirrors, shape]
      refine (if_pos ⟨ofKind, nonzero, member⟩).trans ?_
      cases kind <;> first | rfl | exact absurd rfl notTexture
    have known : (next.mirrors.shadowCtx other).Knows slot := by
      cases slot with
      | boundTexture => exact absurd (Option.some.inj ofKind).symm notTexture
      | viewport | scissor => cases ofKind
      | _ => trivial
    have held := hold other slot named known field stands 0
    rw [contexts_other taken apart, lost, driver.name field 0 fieldNamed, bound] at held
    exact nonzero held
  · exact keeps kind names deletes

/-- After each call every binding in a shadow is the context's or marked as
unknown, as long as no call deletes what another context has bound, and no
longer. -/
theorem bindings_hold_iff {mirrors : StubMirrors} {contexts : Ctx → GLContext}
    {inputs : List (Nat × StateCall)} (fresh : ∀ ctx, mirrors.shadowCtx ctx = .zero)
    (initial : ∀ ctx, (contexts ctx).Initial driver) :
    (manyContexts driver).Along ((manyContexts driver).Ends (Contexts.BindingsHold driver))
        ⟨mirrors, contexts⟩ inputs ↔
      (manyContexts driver).Along BoundNowhereElse ⟨mirrors, contexts⟩ inputs := by
  have start : Contexts.Sound driver ⟨mirrors, contexts⟩ := by
    refine ⟨⟨fun _ ctx => by rw [fresh]; rfl, fun ctx _ => fresh ctx⟩, fun ctx => ?_⟩
    exact .fresh (.inr (by rw [fresh]; rfl)) (initial ctx)
  refine Machine.along_iff (fun sound apart taken => Contexts.Sound.step sound apart taken) ?_ start
  refine fun {state input} sound => ⟨sound.boundNowhereElse, fun apart => ?_⟩
  have defined : ∃ next, (manyContexts driver).step state input = some next :=
    ⟨_, dif_pos apart.1⟩
  obtain ⟨next, taken⟩ := defined
  exact ⟨next, taken, (sound.step apart taken).bindingsHold⟩

/-- A shared texture is deleted in one context and marked in the other. -/
theorem bindings_hold_iff_shared_texture :
    (manyContexts .plain).Along ((manyContexts .plain).Ends (Contexts.BindingsHold .plain))
      ⟨.zero, fun _ => .new .plain⟩ [(2, .glBindTexture glTexture2d 5), (1, .glDeleteTextures [5])] := by
  refine (bindings_hold_iff (fun _ => rfl) fun _ field buffer _ => rfl).mpr
    ⟨⟨by decide, ?_⟩, fun _ _ => ⟨⟨by decide, ?_⟩, fun _ _ => trivial⟩⟩
  · intro kind names deletes
    cases deletes 0
  · intro kind names deletes notTexture
    cases deletes 0
    exact absurd rfl notTexture

/-- Two contexts have a framebuffer of the same name; the deletion of the one
makes the stub take the other for unbound. -/
theorem framebuffer_lost_in_other_context :
    ¬ (manyContexts .plain).Along ((manyContexts .plain).Ends (Contexts.BindingsHold .plain))
      ⟨.zero, fun _ => .new .plain⟩
      [(2, .glBindFramebuffer glFramebuffer 5), (1, .glDeleteFramebuffers [5])] := by
  rintro ⟨-, rest⟩
  obtain ⟨⟨reached, taken, hold⟩, -⟩ := rest _ rfl
  cases taken
  exact absurd (hold 2 .drawFb rfl trivial .drawFramebuffer rfl 0) (by decide)

end GlesBridge.Stub
