import GlesBridge.Stub.Agreement
import GlesBridge.Systems.Machine

namespace GlesBridge.Stub

open GlesBridge.Gl GlesBridge.Shared GlesBridge.Systems

/-! Keeping calls back, seen from the context: for calls that GL accepts, and
for calls that it may reject. -/

namespace StubMirrors

variable {mirrors : StubMirrors} {current : Ctx}

/-! ## One call -/

theorem unbind_cons (shadow : StubShadowState) (kind : ObjectKind) (name : UInt32)
    (rest : List UInt32) :
    (shadow.unbind kind [name]).unbind kind rest = shadow.unbind kind (name :: rest) := by
  simp only [StubShadowState.unbind, StubShadowState.mk.injEq, true_and]
  funext slot
  by_cases first : slot.kind = some kind ∧ shadow.slot slot ≠ 0 ∧ shadow.slot slot = name
  · obtain ⟨ofKind, nonzero, rfl⟩ := first
    simp [ofKind, nonzero]
  · by_cases later : slot.kind = some kind ∧ shadow.slot slot ≠ 0 ∧ shadow.slot slot ∈ rest
    · obtain ⟨ofKind, nonzero, member⟩ := later
      have other : shadow.slot slot ≠ name := fun same => first ⟨ofKind, nonzero, same⟩
      simp [ofKind, nonzero, other, member]
    · have neither : ¬ (slot.kind = some kind ∧ shadow.slot slot ≠ 0 ∧
          shadow.slot slot ∈ name :: rest) := by
        rintro ⟨ofKind, nonzero, member⟩
        rcases List.mem_cons.mp member with same | member
        · exact first ⟨ofKind, nonzero, same⟩
        · exact later ⟨ofKind, nonzero, member⟩
      simp only [List.mem_singleton]
      rw [if_neg first, if_neg later, if_neg neither]

/-- A deletion in the shadow of each context. -/
theorem shadowInvalidateAll_eq (mirrors : StubMirrors) (kind : ObjectKind) (names : List UInt32) :
    mirrors.shadowInvalidateAll
        (StubShadowState.invalidate kind (StubShadowState.unbound kind)) names =
      { mirrors with shadowCtx := fun ctx => (mirrors.shadowCtx ctx).unbind kind names } := by
  unfold shadowInvalidateAll
  induction names generalizing mirrors with
  | nil => simp [StubShadowState.unbind]
  | cons name rest ih =>
      have one : mirrors.shadowInvalidate
            (StubShadowState.invalidate kind (StubShadowState.unbound kind)) name =
          { mirrors with shadowCtx := fun ctx => (mirrors.shadowCtx ctx).unbind kind [name] } := by
        unfold shadowInvalidate
        split_ifs with zero
        · simp [StubShadowState.unbind, zero]
        · simp only [StubShadowState.unbind, StubShadowState.invalidate, List.mem_singleton]
          congr 1
          funext ctx
          congr 1
          funext slot
          by_cases same : (mirrors.shadowCtx ctx).slot slot = name
          · simp [same, zero]
          · simp [same]
      rw [List.foldl_cons, ih, one]
      simp only [unbind_cons]

/-- The initial names are 0, which no deletion concerns. -/
theorem unbind_init (kind : ObjectKind) (names : List UInt32) :
    StubShadowState.init.unbind kind names = .init := by
  simp only [StubShadowState.unbind, StubShadowState.init, StubShadowState.mk.injEq, true_and]
  funext slot
  refine if_neg fun gone => ?_
  cases slot <;> first | exact gone.2.1 rfl | cases gone.1

theorem shadowSeen_congr {next : StubMirrors}
    (shadow : next.shadowCtx current = mirrors.shadowCtx current)
    (newCtx : next.stubNewCtx = mirrors.stubNewCtx) :
    next.shadowSeen current = mirrors.shadowSeen current := by
  rw [shadowSeen_eq, shadowSeen_eq, shadow, newCtx]

theorem unbind_seen (kind : ObjectKind) (names : List UInt32) :
    { mirrors with
      shadowCtx := fun ctx => (mirrors.shadowCtx ctx).unbind kind names
      : StubMirrors }.shadowSeen current = (mirrors.shadowSeen current).unbind kind names := by
  rw [shadowSeen_eq, shadowSeen_eq]
  by_cases ready : mirrors.stubNewCtx = 0 ∧ (mirrors.shadowCtx current).initialised = true
  · rw [if_pos ready, if_pos (by exact ready)]
  · rw [if_neg ready, if_neg (by exact ready), unbind_init]

theorem invalidate_seen (kind : ObjectKind) (names : List UInt32) :
    (mirrors.shadowInvalidateAll
        (StubShadowState.invalidate kind (StubShadowState.unbound kind)) names).shadowSeen current =
      (mirrors.shadowSeen current).unbind kind names := by
  rw [shadowInvalidateAll_eq, unbind_seen]

theorem cachedCall_seen (mirrors : StubMirrors) (current : Ctx) (call : StateCall) :
    ((mirrors.cachedCall current call).1.shadowSeen current, (mirrors.cachedCall current call).2) =
      (mirrors.shadowSeen current).cachedCall call := by
  have noted : (mirrors.notePrimitiveRestart current call).shadowSeen current =
      mirrors.shadowSeen current := by
    cases call with
    | glEnable | glDisable => 
        simp only [notePrimitiveRestart]
        split_ifs <;> first | rfl | exact shadowSeen_congr rfl rfl
    | _ => rfl
  have ready := ready_of_consulted (mirrors.notePrimitiveRestart current call) current
  rw [shadowSeen] at noted
  simp only [cachedCall, StubShadowState.cachedCall, ← noted]
  generalize (mirrors.notePrimitiveRestart current call).shadowStateForCurrentCtx current =
    consulted at ready
  cases cached : cachedSlots (consulted.shadowCtx current) call with
  | none => simp [ready.seen]
  | some writes =>
      cases same : (consulted.shadowCtx current).matches_ writes with
      | true => simp [ready.seen, same]
      | false =>
          have assigned : (((consulted.setShadow current
              ((consulted.shadowCtx current).assign writes)).noteCurrentVao current call).shadowCtx
                current) = (consulted.shadowCtx current).assign writes := by
            cases call <;> simp [noteCurrentVao, setStubCtx, setShadow]
          have settled : ((consulted.setShadow current
              ((consulted.shadowCtx current).assign writes)).noteCurrentVao current
                call).stubNewCtx = 0 := by
            cases call <;> exact ready.1
          simp only [same, Bool.false_eq_true, if_false]
          rw [Ready.seen ⟨settled, by rw [assigned]; exact ready.2⟩, assigned]

theorem calls_of_consults {call : StateCall} (consults : consultsShadow call = true) :
    mirrors.stateCall current call = mirrors.cachedCall current call ∧
      ∀ shadow : StubShadowState, shadow.afterCall call = shadow.cachedCall call := by
  cases call <;> cases consults <;> exact ⟨rfl, fun _ => rfl⟩

/-- The current context's shadow goes its way alone: what a call makes of it, and
whether it is sent, depend on nothing else. -/
theorem stateCall_seen (mirrors : StubMirrors) (current : Ctx) (call : StateCall) :
    ((mirrors.stateCall current call).1.shadowSeen current, (mirrors.stateCall current call).2) =
      (mirrors.shadowSeen current).afterCall call := by
  by_cases consults : consultsShadow call = true
  · obtain ⟨stub, shadow⟩ := calls_of_consults consults
    rw [stub, shadow]
    exact cachedCall_seen mirrors current call
  · cases call with
    | glDeleteTextures names => exact congrArg (·, true) (invalidate_seen .texture names)
    | glDeleteFramebuffers names => exact congrArg (·, true) (invalidate_seen .framebuffer names)
    | glDeleteVertexArrays names => exact congrArg (·, true) (invalidate_seen .vertexArray names)
    | glDeleteSamplers names => exact congrArg (·, true) (invalidate_seen .sampler names)
    | glDeleteBuffers buffers =>
        obtain ⟨shadow, newCtx⟩ := glDeleteBuffers_shadow mirrors current buffers
        exact congrArg (·, true) (shadowSeen_congr (congrFun shadow current) newCtx)
    | glEnablei | glDisablei | glColorMaski | glBlendEquationSeparatei | glBlendFuncSeparatei
    | glLinkProgram | glDeleteProgram | glDeleteRenderbuffers => rfl
    | _ => exact absurd rfl consults

end StubMirrors

/-! ## Accepted calls -/

/-- A member that may say something else than the context: GL keeps a value with
each draw buffer, or the name is the one that marks a binding as unknown. -/
def Slot.Uncertain (slot : Slot) (value : UInt32) : Prop :=
  slot.perBuffer = true ∨ slot.kind = some .texture ∧ value = shadowTexInvalid

/-- A call that repeats uncertain members finds them in the context, in every
draw buffer. -/
def Kept (driver : Driver) (shadow : StubShadowState) (context : GLContext) (call : StateCall) :
    Prop :=
  ∀ writes, cachedSlots shadow call = some writes → shadow.matches_ writes = true →
    ∀ slot value, writes.lookup slot = some value → slot.Uncertain value →
      slot.Holds driver context value

section

variable {driver : Driver} {current : Ctx} {shadow : StubShadowState} {context : GLContext}
  {call : StateCall}

/-- For calls that the shadow repeats, to change nothing is to be kept. -/
theorem idle_iff_kept (agrees : Agrees driver shadow context) :
    ((shadow.afterCall call).2 = false → context.perform driver call = context) ↔
      Kept driver shadow context call := by
  have way := shadow.afterCall_cases call
  generalize shadow.afterCall call = after at way
  cases way with
  | @kept writes cached same =>
      rw [perform_eq_self_iff agrees cached same]
      constructor
      · rintro holds _ shown - slot value written uncertain
        cases cached.symm.trans shown
        refine holds rfl slot value written (uncertain.imp_right fun marked known => ?_)
        exact (knows_of_matches cached same written).mp known marked
      · intro kept _ slot value written unsure
        refine kept writes cached same slot value written (unsure.imp_right fun unknown => ?_)
        rwa [knows_of_matches cached same written, not_not] at unknown
  | assigned cached differ =>
      refine iff_of_true (by simp) fun writes shown same => ?_
      cases cached.symm.trans shown
      simp [differ] at same
  | unbound cached | other cached =>
      refine iff_of_true (by simp) fun writes shown => ?_
      cases cached.symm.trans shown

theorem afterCall_kept_back (kept : (shadow.afterCall call).2 = false) :
    (shadow.afterCall call).1 = shadow := by
  have way := shadow.afterCall_cases call
  generalize shadow.afterCall call = after at way kept
  cases way with
  | kept => rfl
  | assigned | unbound | other => cases kept

theorem Agrees.fresh {mirrors : StubMirrors}
    (fresh : 0 < mirrors.stubNewCtx ∨ (mirrors.shadowCtx current).initialised = false)
    (initial : context.Initial driver) : Agrees driver (mirrors.shadowSeen current) context := by
  rw [StubMirrors.shadowSeen_eq, if_neg ?_]
  · exact .init initial
  · rintro ⟨settled, marked⟩
    rcases fresh with pending | unmarked
    · omega
    · rw [unmarked] at marked
      cases marked

/-- The stub and the context behind it. -/
structure Shadowed where
  mirrors : StubMirrors
  context : GLContext

/-- Calls with GL's answers to them: one that is rejected leaves the context as
it is. The answer to a call that is kept back does not matter. -/
def answered (driver : Driver) (current : Ctx) : Machine Shadowed (StateCall × Bool) where
  step state input :=
    let after := state.mirrors.stateCall current input.1
    some {
      mirrors := after.1
      context :=
        if after.2 && input.2 then state.context.perform driver input.1 else state.context
    }

/-- A rejected call leaves nothing in the shadow that is not so: the members it
is noted in have their values in the context, and the bindings it clears are 0. -/
structure Harmless (driver : Driver) (shadow : StubShadowState) (context : GLContext)
    (call : StateCall) : Prop where
  set : ∀ writes, cachedSlots shadow call = some writes → ∀ slot value,
    writes.lookup slot = some value → ¬ slot.Uncertain value → slot.Holds driver context value
  unbind : ∀ kind names, (∀ active, call.effect active = .unbind kind names) → kind ≠ .texture →
    ∀ slot : Slot, slot.kind = some kind → shadow.slot slot ∈ names → shadow.slot slot = 0

/-- A deletion that concerns no name the context has bound, textures apart. -/
theorem Agrees.unbind_apart (agrees : Agrees driver shadow context) {kind : ObjectKind}
    {names : List UInt32}
    (unbound : kind ≠ .texture →
      ∀ slot : Slot, slot.kind = some kind → shadow.slot slot ∈ names → shadow.slot slot = 0) :
    Agrees driver (shadow.unbind kind names) context := by
  intro slot single known
  have held := agrees slot single (knows_of_unbind known)
  by_cases gone : slot.kind = some kind ∧ shadow.slot slot ≠ 0 ∧ shadow.slot slot ∈ names
  · obtain ⟨ofKind, nonzero, member⟩ := gone
    have ofTexture : kind = .texture := by
      by_contra other
      exact nonzero (unbound other slot ofKind member)
    subst ofTexture
    cases slot with
    | boundTexture array unit => exact absurd (if_pos ⟨ofKind, nonzero, member⟩) known
    | _ => cases ofKind
  · have left : (shadow.unbind kind names).slot slot = shadow.slot slot := if_neg gone
    rw [left]
    exact held

/-- The shadow stays sound though the context is left as it is. -/
theorem Agrees.rejected (agrees : Agrees driver shadow context)
    (harmless : Harmless driver shadow context call) :
    Agrees driver (shadow.afterCall call).1 context := by
  have way := shadow.afterCall_cases call
  generalize shadow.afterCall call = after at way
  cases way with
  | kept cached same => exact agrees
  | @assigned writes cached differ =>
      intro slot single known
      cases written : writes.lookup slot with
      | none =>
          have held := agrees slot single (knows_of_assign cached written known)
          simpa [StubShadowState.assign, written] using held
      | some value =>
          have assigned : (shadow.assign writes).slot slot = value := by
            simp [StubShadowState.assign, written]
          rw [assigned]
          refine harmless.set writes cached slot value written ?_
          rintro (buffers | ⟨ofTexture, marked⟩)
          · simp [buffers] at single
          · cases slot with
            | boundTexture array unit => exact known (assigned.trans marked)
            | _ => cases ofTexture
  | unbound cached deletes => exact agrees.unbind_apart (harmless.unbind _ _ deletes)
  | other cached apart => exact agrees

def Shadowed.Sound (driver : Driver) (current : Ctx) (state : Shadowed) : Prop :=
  Agrees driver (state.mirrors.shadowSeen current) state.context

/-- What each call has to find: a rejected one leaves no trace, and one that
repeats the shadow finds what the shadow may be wrong about. -/
def Repeatable (driver : Driver) (current : Ctx) (state : Shadowed) (input : StateCall × Bool) :
    Prop :=
  Kept driver (state.mirrors.shadowSeen current) state.context input.1 ∧
    (input.2 = false → Harmless driver (state.mirrors.shadowSeen current) state.context input.1)

theorem Shadowed.Sound.step {state next : Shadowed} {input : StateCall × Bool}
    (sound : state.Sound driver current) (repeatable : Repeatable driver current state input)
    (taken : (answered driver current).step state input = some next) :
    next.Sound driver current := by
  obtain rfl := Option.some.inj taken
  have seen := state.mirrors.stateCall_seen current input.1
  simp only [Shadowed.Sound, show (state.mirrors.stateCall current input.1).1.shadowSeen current = _
    from congrArg Prod.fst seen]
  cases accepted : input.2 with
  | false => simpa using Agrees.rejected sound (repeatable.2 accepted)
  | true =>
      cases sent : (state.mirrors.stateCall current input.1).2 with
      | true => simpa using Agrees.perform sound input.1
      | false =>
          have idle := (idle_iff_kept sound).mpr repeatable.1
            ((congrArg Prod.snd seen).symm.trans sent)
          have performed := Agrees.perform sound input.1
          rw [idle] at performed
          simpa using performed

end

end GlesBridge.Stub
