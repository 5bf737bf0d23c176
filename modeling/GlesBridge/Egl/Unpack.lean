import GlesBridge.Egl.Current
import GlesBridge.Gl.PixelStore

namespace GlesBridge.Egl

open GlesBridge.Gl GlesBridge.Shared GlesBridge.Proxy GlesBridge.Proxy.EglProxy GlesBridge.Stub
open GlesBridge.Systems

/-! The parameters of unpacking that the stub goes by, and those of the real contexts. -/

/-- The other commands of GL leave the parameters as they are. `known` is whether
the version of the context has the parameter. -/
inductive UnpackCall where
  | glPixelStorei (pname : UInt32) (param : Int32) (known : Bool)
  | other (call : EglCommand Unit)

/-- A call of a thread, with the driver's answer where the proxy binds a context for it. -/
structure UnpackInput where
  thread : Nat
  call : UnpackCall
  accepts : Bool

/-- The state of a context is its parameters. -/
def liftCommand : EglCommand Unit → EglCommand UnpackState
  | .eglCreateContext real => .eglCreateContext real
  | .eglDestroyContext context ok => .eglDestroyContext context ok
  | .eglMakeCurrent display draw read context ok => .eglMakeCurrent display draw read context ok
  | .eglReleaseThread ok => .eglReleaseThread ok
  | .eglDestroySurface surface ok => .eglDestroySurface surface ok
  | .otherTables displays surfaces => .otherTables displays surfaces
  | .gl _ => .gl id

def UnpackCall.command : UnpackCall → EglCommand UnpackState
  | .glPixelStorei pname param known => .gl (realPixelStorei pname param known)
  | .other call => liftCommand call

def UnpackInput.input (input : UnpackInput) : EglInput UnpackState where
  thread := input.thread
  call := input.call.command
  accepts := input.accepts

/-- `g_stub_gl_state` belongs to the whole process of the client. -/
structure UnpackSystem where
  egl : EglSystem UnpackState
  stubGlState : Ctx → UnpackState

namespace UnpackSystem

def zero : UnpackSystem where
  egl := .zero .initial
  stubGlState _ := .zero

variable (state : UnpackSystem)

def target (thread : Nat) : UInt32 := (state.egl.threads thread).gStubCurrentCtx

/-- A record past the array has no defined outcome. -/
def note (thread : Nat) : UnpackCall → Option (Ctx → UnpackState)
  | .glPixelStorei pname param _ =>
      if below : (state.target thread).toNat < maxContexts then
        let ctx : Ctx := ⟨(state.target thread).toNat, below⟩
        some (Function.update state.stubGlState ctx
          ((state.stubGlState ctx).glPixelStorei pname param))
      else none
  | .other _ => some state.stubGlState

def step (input : UnpackInput) : Option UnpackSystem :=
  (state.note input.thread input.call).bind fun stubGlState =>
    (state.egl.step .initial input.input).map fun egl => { egl, stubGlState }

/-- The parameters by which the stub sizes uploads are those of the real context,
for every thread that has one. -/
def Mirrors : Prop :=
  ∀ thread, state.egl.proxy.ctx (state.target thread) ≠ 0 →
    ∃ below : (state.target thread).toNat < maxContexts,
      (state.stubGlState ⟨_, below⟩).used =
        state.egl.proxy.contexts (state.egl.proxy.ctx (state.target thread))

end UnpackSystem

def unpackSystem : Machine UnpackSystem UnpackInput where
  step := UnpackSystem.step

/-- A value is one that GL takes, or makes no difference to the sizes. The call runs
in the context of its thread, and one for no context changes none. A context that is
created has a record that counts as a new one. -/
def KeepsMirror (state : UnpackSystem) (input : UnpackInput) : Prop :=
  let proxy := state.egl.proxy
  let target := state.target input.thread
  match input.call with
  | .glPixelStorei pname param known =>
      if proxy.ctx target ≠ 0 then
        (known = true ∧ LegalParam pname param ∨
            ∀ below : target.toNat < maxContexts,
              ((state.stubGlState ⟨_, below⟩).glPixelStorei pname param).used =
                (state.stubGlState ⟨_, below⟩).used) ∧
          state.egl.made input.thread target = true ∧
          (target = proxy.gCurrentCtx ∨ input.accepts = true)
      else
        proxy.current = 0 ∨
          realPixelStorei pname param known (proxy.contexts proxy.current) =
            proxy.contexts proxy.current
  | .other (.eglCreateContext real) =>
      real ≠ 0 → ∀ id, proxy.freeContext = some id →
        ∃ below : (id : Nat) < maxContexts, (state.stubGlState ⟨id, below⟩).used = .initial
  | .other (.eglMakeCurrent display draw read context _) =>
      (state.egl.threads input.thread).repeats ⟨display, draw, read, context⟩ = true →
        proxy.ctx context ≠ 0 → state.egl.made input.thread context = true
  | .other _ => True

/-! ## The records and the contexts -/

/-- What holds of every context of the table, whoever uses it. -/
structure Mirrored (state : UnpackSystem) : Prop where
  bound : Bound state.egl
  apart : ∀ id other, state.egl.proxy.eglContexts id ≠ 0 →
    state.egl.proxy.eglContexts id = state.egl.proxy.eglContexts other → id = other
  agrees : ∀ id, state.egl.proxy.eglContexts id ≠ 0 →
    ∃ below : (id : Nat) < maxContexts,
      (state.stubGlState ⟨id, below⟩).used =
        state.egl.proxy.contexts (state.egl.proxy.eglContexts id)

variable {state next : UnpackSystem} {egl : EglSystem UnpackState} {input : UnpackInput}
  {proxy after : EglProxy UnpackState} {result : UInt32}

theorem Mirrored.zero : Mirrored .zero where
  bound := .zero
  apart _ _ live := absurd rfl live
  agrees _ live := absurd rfl live

/-- Contexts that go away, and other tables. -/
theorem Mirrored.kept (mirrored : Mirrored state) (bound : Bound egl)
    (kept : ∀ id, egl.proxy.eglContexts id ≠ 0 →
      egl.proxy.eglContexts id = state.egl.proxy.eglContexts id)
    (same : ∀ id, egl.proxy.eglContexts id ≠ 0 →
      egl.proxy.contexts (egl.proxy.eglContexts id) =
        state.egl.proxy.contexts (egl.proxy.eglContexts id)) :
    Mirrored { egl, stubGlState := state.stubGlState } where
  bound := bound
  apart id other live equal := by
    have first := kept id live
    have second := kept other (equal ▸ live)
    exact mirrored.apart id other (first ▸ live) (first.symm.trans (equal.trans second))
  agrees id live := by
    have first := kept id live
    rw [same id live, first]
    exact mirrored.agrees id (first ▸ live)

theorem contexts_eglBindTargetCtx (proxy : EglProxy UnpackState) (target : UInt32) (accepts : Bool) :
    (proxy.eglBindTargetCtx target accepts).eglContexts = proxy.eglContexts ∧
      (proxy.eglBindTargetCtx target accepts).contexts = proxy.contexts := by
  rcases eglBindTargetCtx_cases proxy target accepts with same | ⟨-, -, same⟩ <;> rw [same] <;>
    exact ⟨rfl, rfl⟩

theorem contexts_eglMakeCurrent (egl : EglSystem UnpackState) (thread : Nat) (args : MakeCurrent)
    (ok : Bool) :
    (egl.eglMakeCurrent thread args ok).proxy.eglContexts = egl.proxy.eglContexts ∧
      (egl.eglMakeCurrent thread args ok).proxy.contexts = egl.proxy.contexts := by
  unfold EglSystem.eglMakeCurrent
  cases (egl.threads thread).repeats args with
  | true => exact ⟨rfl, rfl⟩
  | false =>
      cases ok with
      | false => exact ⟨rfl, rfl⟩
      | true =>
          simp only [Bool.false_eq_true, if_false, EglProxy.hEglMakeCurrent, if_true]
          split <;> exact ⟨rfl, rfl⟩

/-- The commands that create no context and change no parameter. -/
theorem contexts_served {call : EglCommand Unit}
    (making : ∀ display draw read context ok, call ≠ .eglMakeCurrent display draw read context ok)
    (creating : ∀ real, call ≠ .eglCreateContext real)
    (handled : proxy.handleEgl .initial (liftCommand call) = some (after, result)) :
    (∀ id, after.eglContexts id ≠ 0 → after.eglContexts id = proxy.eglContexts id) ∧
      after.contexts = proxy.contexts := by
  cases call with
  | eglMakeCurrent => exact (making _ _ _ _ _ rfl).elim
  | eglCreateContext => exact (creating _ rfl).elim
  | eglDestroyContext context ok =>
      obtain ⟨last, destroyed, shape⟩ := Option.map_eq_some_iff.mp handled
      cases shape
      unfold EglProxy.hEglDestroyContext at destroyed
      split at destroyed
      · cases destroyed
      · split at destroyed
        · cases destroyed
          refine ⟨fun id live => ?_, rfl⟩
          by_cases here : id = contextId context
          · change Function.update proxy.eglContexts (contextId context) 0 id ≠ 0 at live
            rw [here, Function.update_self] at live
            exact absurd rfl live
          · exact Function.update_of_ne here _ _
        · cases destroyed
          exact ⟨fun _ _ => rfl, rfl⟩
  | eglReleaseThread ok =>
      cases handled
      cases ok with
      | false => exact ⟨fun _ _ => rfl, rfl⟩
      | true => exact ⟨fun _ _ => rfl, rfl⟩
  | eglDestroySurface surface ok =>
      cases handled
      cases ok with
      | false => exact ⟨fun _ _ => rfl, rfl⟩
      | true => exact ⟨fun _ _ => rfl, rfl⟩
  | otherTables displays surfaces =>
      cases handled
      exact ⟨fun _ _ => rfl, rfl⟩
  | gl act =>
      cases handled
      have same : (proxy.performGl id).contexts = proxy.contexts := performGl_idle (.inr rfl)
      refine ⟨fun _ _ => ?_, same⟩
      unfold EglProxy.performGl
      split <;> rfl

/-! ## One step -/

/-- Either the table stays as it is, or a free index gets a pointer that was in no use. -/
theorem hEglCreateContext_cases {real : UInt32}
    (handled : proxy.hEglCreateContext .initial real = some (after, result)) :
    (after.eglContexts = proxy.eglContexts ∧ ∀ id, proxy.eglContexts id ≠ 0 →
        after.contexts (proxy.eglContexts id) = proxy.contexts (proxy.eglContexts id)) ∨
      ∃ free, real ≠ 0 ∧ proxy.freeContext = some free ∧ (∀ id, proxy.eglContexts id ≠ real) ∧
        after.eglContexts = Function.update proxy.eglContexts free real ∧
        after.contexts = Function.update proxy.contexts real .initial := by
  unfold EglProxy.hEglCreateContext at handled
  split at handled
  · cases handled
    exact .inl ⟨rfl, fun _ _ => rfl⟩
  · rename_i present
    split at handled
    · cases handled
    · rename_i unused
      have apart (id : ContextId) : proxy.eglContexts id ≠ real := fun used =>
        unused (.inr ⟨id, used⟩)
      simp only at handled
      split at handled
      · rename_i free found
        cases handled
        exact .inr ⟨free, present, found, apart, rfl, rfl⟩
      · cases handled
        exact .inl ⟨rfl, fun id _ => Function.update_of_ne (apart id) _ _⟩

theorem Mirrored.create {real : UInt32} (mirrored : Mirrored state) (bound : Bound egl)
    (initial : real ≠ 0 → ∀ id, state.egl.proxy.freeContext = some id →
      ∃ below : (id : Nat) < maxContexts, (state.stubGlState ⟨id, below⟩).used = .initial)
    (tables : proxy.eglContexts = state.egl.proxy.eglContexts)
    (same : proxy.contexts = state.egl.proxy.contexts)
    (handled : proxy.hEglCreateContext .initial real = some (egl.proxy, result)) :
    Mirrored { egl, stubGlState := state.stubGlState } := by
  rcases hEglCreateContext_cases handled with ⟨table, values⟩ | ⟨free, present, found, apart, table, values⟩
  · rw [tables] at table values
    rw [same] at values
    refine mirrored.kept bound (fun id _ => congrFun table id) fun id live => ?_
    rw [table] at live ⊢
    exact values id live
  · rw [tables] at apart table
    rw [same] at values
    have first : state.egl.proxy.freeContext = some free := by
      rw [← found, EglProxy.freeContext, EglProxy.freeContext, tables]
    refine ⟨bound, fun id other live equal => ?_, fun id live => ?_⟩
    · simp only [table] at live equal
      by_cases here : id = free
      · by_cases there : other = free
        · rw [here, there]
        · rw [here, Function.update_self, Function.update_of_ne there] at equal
          exact absurd equal.symm (apart other)
      · rw [Function.update_of_ne here] at live equal
        by_cases there : other = free
        · rw [there, Function.update_self] at equal
          exact absurd equal (apart id)
        · rw [Function.update_of_ne there] at equal
          exact mirrored.apart id other live equal
    · simp only [table, values] at live ⊢
      by_cases here : id = free
      · rw [here, Function.update_self, Function.update_self]
        exact initial present free first
      · rw [Function.update_of_ne here] at live ⊢
        rw [Function.update_of_ne (apart id)]
        exact mirrored.agrees id live

theorem orNone_of_nonneg {param : Int32} (legal : 0 ≤ param) : UnpackState.orNone param = param := by
  unfold UnpackState.orNone
  by_cases set : 0 < param
  · rw [if_pos set]
  · rw [if_neg set]
    exact Int32.le_antisymm legal (Int32.not_lt.mp set)

/-- A value that GL takes is used as it is. -/
theorem used_of_legal (unpack : UnpackState) {pname : UInt32} {param : Int32}
    (legal : LegalParam pname param) :
    (unpack.glPixelStorei pname param).used = unpack.used.glPixelStorei pname param := by
  have size (other : pname.toNat ≠ 0x0CF5) : 0 ≤ param := by
    unfold LegalParam at legal
    rwa [if_neg fun same => other (congrArg UInt32.toNat same)] at legal
  unfold UnpackState.glPixelStorei
  split
  · rename_i same
    have positive : 0 < param := by
      unfold LegalParam at legal
      rw [if_pos (UInt32.toNat_inj.mp same)] at legal
      simp only [List.mem_cons, List.not_mem_nil, or_false] at legal
      rcases legal with value | value | value | value <;> rw [value] <;> decide
    simp only [UnpackState.used, if_pos positive]
  · rename_i same
    simp only [UnpackState.used, orNone_of_nonneg (size (by omega))]
  · rfl
  · rfl
  · rename_i same
    simp only [UnpackState.used, orNone_of_nonneg (size (by omega))]
  · rfl
  · rfl

theorem used_glPixelStorei {unpack real : UnpackState} {pname : UInt32} {param : Int32} {known : Bool}
    (same : unpack.used = real)
    (taken : known = true ∧ LegalParam pname param ∨
      (unpack.glPixelStorei pname param).used = unpack.used) :
    (unpack.glPixelStorei pname param).used = realPixelStorei pname param known real := by
  unfold realPixelStorei
  by_cases accepted : known = true ∧ LegalParam pname param
  · rw [if_pos accepted, used_of_legal unpack accepted.2, same]
  · rw [if_neg accepted, taken.resolve_left accepted, same]

theorem step_some (stepped : unpackSystem.step state input = some next) :
    ∃ stubGlState egl, state.note input.thread input.call = some stubGlState ∧
      (eglSystem .initial).step state.egl input.input = some egl ∧ next = ⟨egl, stubGlState⟩ := by
  obtain ⟨stubGlState, noted, mapped⟩ := Option.bind_eq_some_iff.mp stepped
  obtain ⟨egl, served, rfl⟩ := Option.map_eq_some_iff.mp mapped
  exact ⟨stubGlState, egl, noted, served, rfl⟩

/-- The record of a thread without a live context belongs to no context. -/
theorem index_ne_of_dead {target : UInt32} (dead : proxy.ctx target = 0) {id : ContextId}
    (live : proxy.eglContexts id ≠ 0) : (id : Nat) ≠ target.toNat := by
  intro same
  have index : contextId target = id := by
    unfold contextId
    rw [dif_pos (same ▸ id.isLt)]
    exact Fin.ext same.symm
  rw [EglProxy.ctx, index] at dead
  exact live dead

/-- What a parameter does to the contexts: to that of the thread, or to none. -/
theorem performGl_target (act : UnpackState → UnpackState) {target : UInt32} {accepts : Bool}
    (current : (proxy.eglBindTargetCtx target accepts).current = proxy.ctx target)
    (live : proxy.ctx target ≠ 0) :
    ((proxy.eglBindTargetCtx target accepts).performGl act).eglContexts = proxy.eglContexts ∧
      ((proxy.eglBindTargetCtx target accepts).performGl act).contexts =
        Function.update proxy.contexts (proxy.ctx target) (act (proxy.contexts (proxy.ctx target))) := by
  obtain ⟨tables, contexts⟩ := contexts_eglBindTargetCtx proxy target accepts
  unfold EglProxy.performGl
  rw [current, if_neg live]
  exact ⟨tables, by rw [contexts]⟩

/-- A context and its record change together. -/
theorem Mirrored.set {index : Ctx} {record value : UnpackState} {id : ContextId}
    (mirrored : Mirrored state) (bound : Bound egl) (same : (id : Nat) = index)
    (live : state.egl.proxy.eglContexts id ≠ 0) (agrees : record.used = value)
    (tables : egl.proxy.eglContexts = state.egl.proxy.eglContexts)
    (contexts : egl.proxy.contexts =
      Function.update state.egl.proxy.contexts (state.egl.proxy.eglContexts id) value) :
    Mirrored { egl, stubGlState := Function.update state.stubGlState index record } := by
  refine ⟨bound, ?_, fun other used => ?_⟩
  · simp only [tables]
    exact mirrored.apart
  · simp only [tables, contexts] at used ⊢
    by_cases here : other = id
    · subst here
      have below : (other : Nat) < maxContexts := same ▸ index.isLt
      have place : (⟨other, below⟩ : Ctx) = index := Fin.ext same
      refine ⟨below, ?_⟩
      rw [place, Function.update_self, Function.update_self]
      exact agrees
    · obtain ⟨below, value⟩ := mirrored.agrees other used
      have place : (⟨other, below⟩ : Ctx) ≠ index := fun equal =>
        here (Fin.ext ((congrArg Fin.val equal).trans same.symm))
      have pointer : state.egl.proxy.eglContexts other ≠ state.egl.proxy.eglContexts id := fun equal =>
        here (mirrored.apart other id used equal)
      refine ⟨below, ?_⟩
      rw [Function.update_of_ne place, Function.update_of_ne pointer]
      exact value

/-- A record of no context changes alone. -/
theorem Mirrored.setDead {index : Ctx} {record : UnpackState} (mirrored : Mirrored state)
    (bound : Bound egl)
    (dead : ∀ id : ContextId, state.egl.proxy.eglContexts id ≠ 0 → (id : Nat) ≠ index)
    (tables : egl.proxy.eglContexts = state.egl.proxy.eglContexts)
    (contexts : egl.proxy.contexts = state.egl.proxy.contexts) :
    Mirrored { egl, stubGlState := Function.update state.stubGlState index record } := by
  refine ⟨bound, ?_, fun other used => ?_⟩
  · simp only [tables]
    exact mirrored.apart
  · simp only [tables, contexts] at used ⊢
    obtain ⟨below, value⟩ := mirrored.agrees other used
    have place : (⟨other, below⟩ : Ctx) ≠ index := fun equal =>
      dead other used (congrArg Fin.val equal)
    refine ⟨below, ?_⟩
    rw [Function.update_of_ne place]
    exact value

/-- A parameter of a thread that has a context goes to the record and to the context. -/
theorem Mirrored.pixelStorei {thread : Nat} {pname : UInt32} {param : Int32} {known accepts : Bool}
    (mirrored : Mirrored state)
    (keeps : KeepsMirror state ⟨thread, .glPixelStorei pname param known, accepts⟩)
    (stepped : unpackSystem.step state ⟨thread, .glPixelStorei pname param known, accepts⟩ = some next) :
    Mirrored next := by
  obtain ⟨stubGlState, egl, noted, served, rfl⟩ := step_some stepped
  have bound : Bound egl := mirrored.bound.step_of_made (by
    rintro display draw read context ok making
    cases making) served
  obtain ⟨after, result, handled, rfl⟩ := step_other (by simp [UnpackCall.command]) served
  cases handled
  unfold UnpackSystem.note at noted
  simp only at noted
  split at noted
  · rename_i below
    cases noted
    by_cases live : state.egl.proxy.ctx (state.target thread) ≠ 0
    · simp only [KeepsMirror, if_pos live] at keeps
      obtain ⟨taken, made, can⟩ := keeps
      have nonzero : state.target thread ≠ 0 := by
        intro none
        rw [none] at live
        exact live (ctx_zero mirrored.bound.none)
      have current := mirrored.bound.binds nonzero live made
        (can.imp_right fun accepted => ⟨below, accepted⟩)
      obtain ⟨tables, contexts⟩ :=
        performGl_target (realPixelStorei pname param known) current live
      have index : (contextId (state.target thread) : Nat) = (state.target thread).toNat :=
        contextId_of_small (small_of_ctx mirrored.bound.none live)
      obtain ⟨small, agrees⟩ := mirrored.agrees _ live
      have place : (⟨contextId (state.target thread), small⟩ : Ctx) =
          ⟨(state.target thread).toNat, below⟩ := Fin.ext index
      rw [place] at agrees
      have both := used_glPixelStorei agrees (taken.imp_right fun same => same below)
      exact mirrored.set bound index live both tables contexts
    · simp only [KeepsMirror, if_neg live] at keeps
      have dead := not_not.mp live
      have stays : state.egl.proxy.eglBindTargetCtx (state.target thread) accepts =
          state.egl.proxy :=
        (eglBindTargetCtx_cases _ _ _).resolve_right fun bound => live bound.2.1
      refine mirrored.setDead bound (fun id used => index_ne_of_dead dead used) ?_ ?_
      · change ((state.egl.proxy.eglBindTargetCtx (state.target thread) accepts).performGl
          _).eglContexts = _
        rw [stays]
        unfold EglProxy.performGl
        split <;> rfl
      · change ((state.egl.proxy.eglBindTargetCtx (state.target thread) accepts).performGl
          _).contexts = _
        rw [stays]
        exact performGl_idle keeps
  · cases noted

theorem liftCommand_ne {call : EglCommand Unit}
    (making : ∀ display draw read context ok, call ≠ .eglMakeCurrent display draw read context ok) :
    ∀ display draw read context ok,
      liftCommand call ≠ .eglMakeCurrent display draw read context ok := by
  intro display draw read context ok same
  cases call with
  | eglMakeCurrent => exact making _ _ _ _ _ rfl
  | _ => cases same

/-- Commands of EGL, and those of GL that set no parameter. -/
theorem Mirrored.other {thread : Nat} {call : EglCommand Unit} {accepts : Bool}
    (mirrored : Mirrored state) (keeps : KeepsMirror state ⟨thread, .other call, accepts⟩)
    (bound : Bound egl)
    (making : ∀ display draw read context ok, call ≠ .eglMakeCurrent display draw read context ok)
    (served : (eglSystem .initial).step state.egl ⟨thread, liftCommand call, accepts⟩ = some egl) :
    Mirrored { egl, stubGlState := state.stubGlState } := by
  obtain ⟨after, result, handled, rfl⟩ := step_other (liftCommand_ne making) served
  obtain ⟨tables, contexts⟩ := contexts_eglBindTargetCtx state.egl.proxy
    (state.target thread) accepts
  by_cases creating : ∃ real, call = .eglCreateContext real
  · obtain ⟨real, rfl⟩ := creating
    exact mirrored.create bound keeps tables contexts handled
  · obtain ⟨kept, same⟩ := contexts_served making (fun real same => creating ⟨real, same⟩) handled
    refine mirrored.kept bound (fun id live => ?_) fun id live => ?_
    · exact (kept id live).trans (congrFun tables id)
    · exact congrFun (same.trans contexts) _

theorem Mirrored.step (mirrored : Mirrored state) (keeps : KeepsMirror state input)
    (stepped : unpackSystem.step state input = some next) : Mirrored next := by
  obtain ⟨thread, call, accepts⟩ := input
  cases call with
  | glPixelStorei pname param known => exact mirrored.pixelStorei keeps stepped
  | other call =>
      obtain ⟨stubGlState, egl, noted, served, rfl⟩ := step_some stepped
      cases noted
      by_cases making : ∃ display draw read context ok,
          call = .eglMakeCurrent display draw read context ok
      · obtain ⟨display, draw, read, context, ok, rfl⟩ := making
        have bound : Bound egl := mirrored.bound.step_of_made (by
          rintro _ _ _ _ _ ⟨⟩
          exact keeps) served
        cases served
        obtain ⟨tables, contexts⟩ := contexts_eglMakeCurrent state.egl thread
          ⟨display, draw, read, context⟩ ok
        exact mirrored.kept bound (fun id _ => congrFun tables id) fun id _ => congrFun contexts _
      · have other : ∀ display draw read context ok,
            call ≠ .eglMakeCurrent display draw read context ok :=
          fun display draw read context ok same => making ⟨display, draw, read, context, ok, same⟩
        have bound : Bound egl := mirrored.bound.step_of_made
          (fun display draw read context ok same =>
            absurd same (liftCommand_ne other display draw read context ok)) served
        exact mirrored.other keeps bound other served

theorem Mirrored.mirrors (mirrored : Mirrored state) : state.Mirrors := by
  intro thread live
  have index : (contextId (state.target thread) : Nat) = (state.target thread).toNat :=
    contextId_of_small (small_of_ctx mirrored.bound.none live)
  obtain ⟨small, agrees⟩ := mirrored.agrees _ live
  have below : (state.target thread).toNat < maxContexts := index ▸ small
  have place : (⟨contextId (state.target thread), small⟩ : Ctx) =
      ⟨(state.target thread).toNat, below⟩ := Fin.ext index
  exact ⟨below, place ▸ agrees⟩

/-- In any interleaving of threads, as long as the conditions of its steps are met. -/
theorem parameters_mirrored {inputs : List UnpackInput}
    (keeps : unpackSystem.Along KeepsMirror .zero inputs) {reached : UnpackSystem}
    (runs : unpackSystem.run .zero inputs = some reached) : reached.Mirrors :=
  (Machine.Along.run_invariant Mirrored.step Mirrored.zero keeps runs).mirrors

/-- A context of thread 0 with rows of 5 pixels. -/
def rowsOfFive : List UnpackInput :=
  [⟨0, .other (.eglCreateContext 101), true⟩, ⟨0, .other (.eglMakeCurrent 1 1 1 1 true), true⟩,
    ⟨0, .glPixelStorei 0x0CF2 5 true, true⟩]

theorem rowsOfFive_keeps : unpackSystem.Along KeepsMirror .zero rowsOfFive := by
  refine ⟨fun _ id found => ?_, fun _ taken => ?_⟩
  · cases found
    exact ⟨by decide, rfl⟩
  cases taken
  refine ⟨fun again => (by cases again), fun _ taken => ?_⟩
  cases taken
  exact ⟨⟨.inl ⟨rfl, by decide⟩, rfl, .inl rfl⟩, fun _ _ => trivial⟩

theorem parameters_mirrored_rows :
    ∃ reached, unpackSystem.run .zero rowsOfFive = some reached ∧ reached.Mirrors := by
  have ends : (unpackSystem.run .zero rowsOfFive).isSome := rfl
  obtain ⟨reached, runs⟩ := Option.isSome_iff_exists.mp ends
  exact ⟨reached, runs, parameters_mirrored rowsOfFive_keeps runs⟩

/-- GL refuses an alignment of 3, which the stub goes by all the same. -/
theorem alignment_not_mirrored :
    ∃ reached, unpackSystem.run .zero
        [⟨0, .other (.eglCreateContext 101), true⟩, ⟨0, .other (.eglMakeCurrent 1 1 1 1 true), true⟩,
          ⟨0, .glPixelStorei 0x0CF5 3 true, true⟩] = some reached ∧ ¬ reached.Mirrors := by
  refine ⟨_, rfl, fun mirrors => ?_⟩
  obtain ⟨below, same⟩ := mirrors 0 (by decide)
  have value : (3 : Int32) = 4 := congrArg UnpackState.alignment same
  exact absurd value (by decide)

/-- A context that is created at an index in use before inherits its record. -/
theorem record_inherited :
    ∃ reached, unpackSystem.run .zero
        (rowsOfFive ++
          [⟨0, .other (.eglMakeCurrent 1 0 0 0 true), true⟩,
            ⟨0, .other (.eglDestroyContext 1 true), true⟩,
            ⟨0, .other (.eglCreateContext 102), true⟩,
            ⟨0, .other (.eglMakeCurrent 1 1 1 1 true), true⟩]) = some reached ∧
      ¬ reached.Mirrors := by
  refine ⟨_, rfl, fun mirrors => ?_⟩
  obtain ⟨below, same⟩ := mirrors 0 (by decide)
  have value : (5 : Int32) = 0 := congrArg UnpackState.rowLength same
  exact absurd value (by decide)

end GlesBridge.Egl
