import GlesBridge.Egl.System

namespace GlesBridge.Egl

open GlesBridge.Shared GlesBridge.Proxy GlesBridge.Proxy.EglProxy GlesBridge.Stub GlesBridge.Systems

/-! Which context a command of GL really runs in. -/

variable {σ : Type} {fresh : σ}

/-- A command of GL runs in the context of its thread; one of a thread without a
context changes none. -/
def RunsInTarget (fresh : σ) (state : EglSystem σ) (input : EglInput σ) : Prop :=
  ∀ act, input.call = .gl act →
    let target := (state.threads input.thread).gStubCurrentCtx
    (target ≠ 0 → state.proxy.ctx target ≠ 0 → state.made input.thread target = true →
        (state.proxy.eglBindTargetCtx target input.accepts).current = state.proxy.ctx target) ∧
      (target = 0 → ∀ next, state.step fresh input = some next →
        next.proxy.contexts = state.proxy.contexts)

/-- The context of a thread is current already, or its index is small and the
driver accepts it; a command of a thread without a context finds none, or one that
it leaves as it is; and a call of `eglMakeCurrent` that is answered at once is for
a handle that has had no other context since the thread made it current. -/
def KeepsTarget (state : EglSystem σ) (input : EglInput σ) : Prop :=
  let target := (state.threads input.thread).gStubCurrentCtx
  match input.call with
  | .gl act =>
      (target ≠ 0 → state.proxy.ctx target ≠ 0 → state.made input.thread target = true →
          target = state.proxy.gCurrentCtx ∨
            target.toNat < maxContexts ∧ input.accepts = true) ∧
        (target = 0 → state.proxy.current = 0 ∨
          act (state.proxy.contexts state.proxy.current) =
            state.proxy.contexts state.proxy.current)
  | .eglMakeCurrent display draw read context _ =>
      (state.threads input.thread).repeats ⟨display, draw, read, context⟩ = true →
        state.proxy.ctx context ≠ 0 → state.made input.thread context = true
  | _ => True

/-! ## The table of contexts -/

/-- A handle that some thread has made current can be bound again, and where it is
current for the proxy it really is. -/
structure Bound (state : EglSystem σ) : Prop where
  none : state.proxy.eglContexts 0 = 0
  valid : ∀ thread handle, handle ≠ 0 → state.proxy.ctx handle ≠ 0 →
    state.made thread handle = true →
      (state.proxy.gCtxBindings (contextId handle)).valid = true ∧
        (state.proxy.gCurrentCtx = handle → state.proxy.current = state.proxy.ctx handle)

theorem Bound.zero : Bound (EglSystem.zero fresh) where
  none := rfl
  valid _ _ _ live := absurd rfl live

section

variable {proxy after : EglProxy σ} {handle target context : UInt32} {accepts ok : Bool}

theorem contextId_of_small (small : handle.toNat ≤ eglBridgeMaxContexts) :
    (contextId handle : Nat) = handle.toNat := by
  unfold contextId
  rw [dif_pos (Nat.lt_succ_of_le small)]

/-- A handle that has a context is in the table. -/
theorem small_of_ctx (zero : proxy.eglContexts 0 = 0) (live : proxy.ctx handle ≠ 0) :
    handle.toNat ≤ eglBridgeMaxContexts := by
  by_contra large
  unfold EglProxy.ctx contextId at live
  rw [dif_neg (by omega)] at live
  exact live zero

theorem toNat_ofNat_id (id : ContextId) : (UInt32.ofNat id).toNat = id := by
  have small : (id : Nat) < 9 := id.isLt
  refine UInt32.toNat_ofNat_of_lt' ?_
  change (id : Nat) < 2 ^ 32
  omega

theorem contextId_ofNat (id : ContextId) : contextId (.ofNat id) = id := by
  have small : (id : Nat) < 9 := id.isLt
  refine Fin.ext ?_
  rw [contextId_of_small, toNat_ofNat_id]
  rw [toNat_ofNat_id]
  omega

theorem ofNat_id_ne_zero {id : ContextId} (used : id ≠ 0) : UInt32.ofNat id ≠ 0 := by
  intro none
  have value := toNat_ofNat_id id
  rw [none] at value
  exact used (Fin.ext value.symm)

/-- What a bind changes, if anything. -/
theorem eglBindTargetCtx_cases (proxy : EglProxy σ) (target : UInt32) (accepts : Bool) :
    proxy.eglBindTargetCtx target accepts = proxy ∨
      target ≠ 0 ∧ proxy.ctx target ≠ 0 ∧
        proxy.eglBindTargetCtx target accepts =
          { proxy with current := proxy.ctx target, gCurrentCtx := target } := by
  unfold EglProxy.eglBindTargetCtx
  split
  · exact .inl rfl
  · rename_i bound
    split
    · exact .inl rfl
    · rename_i known
      split
      · exact .inl rfl
      · exact .inr ⟨fun none => bound (.inl none), fun none => known (.inr none), rfl⟩

/-- A handle of the table that the table has lost, or that has got another context,
is none that a thread has made current. -/
structure Shrinks (before after : EglSystem σ) : Prop where
  zero : after.proxy.eglContexts 0 = 0
  ctx : ∀ thread handle, after.proxy.ctx handle ≠ 0 → after.made thread handle = true →
    after.proxy.ctx handle = before.proxy.ctx handle ∧ before.made thread handle = true
  valid : ∀ id, (before.proxy.gCtxBindings id).valid = true → after.proxy.eglContexts id ≠ 0 →
    (after.proxy.gCtxBindings id).valid = true
  current : (after.proxy.current = before.proxy.current ∧
      after.proxy.gCurrentCtx = before.proxy.gCurrentCtx) ∨
    after.proxy.current = after.proxy.ctx after.proxy.gCurrentCtx

theorem Bound.shrink {before after : EglSystem σ} (bound : Bound before)
    (shrinks : Shrinks before after) : Bound after where
  none := shrinks.zero
  valid thread handle nonzero live made := by
    obtain ⟨same, was⟩ := shrinks.ctx thread handle live made
    obtain ⟨valid, current⟩ := bound.valid thread handle nonzero (same ▸ live) was
    refine ⟨shrinks.valid _ valid live, fun here => ?_⟩
    rcases shrinks.current with ⟨kept, index⟩ | moved
    · rw [kept, same]
      exact current (index.symm.trans here)
    · rw [moved, here]

theorem freeContext_some {id : ContextId} (found : proxy.freeContext = some id) :
    id ≠ 0 ∧ proxy.eglContexts id = 0 := by
  have free := List.find?_some found
  have member := List.mem_of_find?_eq_some found
  simp only [beq_iff_eq] at free
  refine ⟨fun none => ?_, free⟩
  rw [none] at member
  revert member
  decide

theorem ctx_zero (zero : proxy.eglContexts 0 = 0) : proxy.ctx 0 = 0 := zero

theorem Bound.create {state : EglSystem σ} {real result : UInt32} (bound : Bound state)
    (handled : state.proxy.hEglCreateContext fresh real = some (after, result)) :
    Bound { state with
      proxy := after
      made := if result = 0 then state.made else state.forget result } := by
  unfold EglProxy.hEglCreateContext at handled
  split at handled
  · cases handled
    exact bound
  · split at handled
    · cases handled
    · simp only at handled
      split at handled
      · rename_i id free
        cases handled
        obtain ⟨used, -⟩ := freeContext_some free
        have zero : Function.update state.proxy.eglContexts id real 0 = 0 :=
          (Function.update_of_ne used.symm _ _).trans bound.none
        rw [if_neg (ofNat_id_ne_zero used)]
        refine bound.shrink ⟨zero, fun thread handle live made => ?_, fun _ valid _ => valid,
          .inl ⟨rfl, rfl⟩⟩
        have apart : handle ≠ .ofNat id := by
          intro same
          simp [EglSystem.forget, same] at made
        have below := small_of_ctx zero live
        have elsewhere : contextId handle ≠ id := by
          intro same
          refine apart (UInt32.toNat_inj.mp ?_)
          rw [toNat_ofNat_id, ← same, contextId_of_small below]
        refine ⟨Function.update_of_ne elsewhere _ _, ?_⟩
        simpa [EglSystem.forget, apart] using made
      · cases handled
        exact bound.shrink ⟨bound.none, fun _ _ _ made => ⟨rfl, made⟩, fun _ valid _ => valid,
          .inl ⟨rfl, rfl⟩⟩

theorem Bound.destroy {state : EglSystem σ} (bound : Bound state)
    (handled : state.proxy.hEglDestroyContext context ok = some after) :
    Bound { state with proxy := after } := by
  unfold EglProxy.hEglDestroyContext at handled
  split at handled
  · cases handled
  · split at handled
    · cases handled
      have elsewhere {id : ContextId}
          (live : Function.update state.proxy.eglContexts (contextId context) 0 id ≠ 0) :
          id ≠ contextId context := by
        intro same
        rw [same, Function.update_self] at live
        exact live rfl
      refine bound.shrink ⟨?_, fun thread handle live made => ?_, fun id valid live => ?_,
        .inl ⟨rfl, rfl⟩⟩
      · by_cases here : contextId context = 0
        · rw [here]
          exact Function.update_self (0 : ContextId) (0 : UInt32) state.proxy.eglContexts
        · exact (Function.update_of_ne (Ne.symm here) _ _).trans bound.none
      · exact ⟨Function.update_of_ne (elsewhere live) _ _, made⟩
      · simp only [Function.update_of_ne (elsewhere live)]
        exact valid
    · cases handled
      exact bound

/-- The handlers that give no context out and take no call of `eglMakeCurrent`. -/
theorem Bound.served {state : EglSystem σ} {call : EglCommand σ} {result : UInt32}
    (bound : Bound state)
    (other : ∀ display draw read context ok, call ≠ .eglMakeCurrent display draw read context ok)
    (handled : state.proxy.handleEgl fresh call = some (after, result)) :
    Bound { state with
      proxy := after
      made := if result = 0 then state.made else state.forget result } := by
  cases call with
  | eglMakeCurrent => exact (other _ _ _ _ _ rfl).elim
  | eglCreateContext real => exact bound.create handled
  | eglDestroyContext context ok =>
      obtain ⟨last, destroyed, shape⟩ := Option.map_eq_some_iff.mp handled
      cases shape
      exact bound.destroy destroyed
  | eglReleaseThread ok =>
      cases handled
      cases ok with
      | false => exact bound
      | true =>
          exact bound.shrink ⟨bound.none, fun _ _ _ made => ⟨rfl, made⟩, fun _ valid _ => valid,
            .inr (ctx_zero bound.none).symm⟩
  | eglDestroySurface surface ok =>
      cases handled
      cases ok with
      | false => exact bound
      | true =>
          refine bound.shrink ⟨bound.none, fun _ _ _ made => ⟨rfl, made⟩, fun id valid _ => ?_,
            .inl ⟨rfl, rfl⟩⟩
          simp only [EglProxy.hEglDestroySurface, if_true]
          split <;> exact valid
  | otherTables displays surfaces =>
      cases handled
      exact ⟨bound.none, bound.valid⟩
  | gl act =>
      cases handled
      unfold EglProxy.performGl
      split
      · exact bound
      · exact ⟨bound.none, bound.valid⟩

theorem Bound.bind {state : EglSystem σ} (bound : Bound state) (target : UInt32) (accepts : Bool) :
    Bound { state with proxy := state.proxy.eglBindTargetCtx target accepts } := by
  rcases eglBindTargetCtx_cases state.proxy target accepts with same | ⟨-, -, same⟩
  · rw [same]
    exact bound
  · rw [same]
    exact bound.shrink ⟨bound.none, fun _ _ _ made => ⟨rfl, made⟩, fun _ valid _ => valid, .inr rfl⟩

/-- What a successful call of `eglMakeCurrent` does to the tables. -/
theorem hEglMakeCurrent_true (proxy : EglProxy σ) (args : MakeCurrent) :
    let after := proxy.hEglMakeCurrent args.display args.draw args.read args.context true
    after.eglContexts = proxy.eglContexts ∧ after.current = proxy.ctx args.context ∧
      after.gCurrentCtx = args.context ∧
      ∀ id, ((proxy.gCtxBindings id).valid = true → (after.gCtxBindings id).valid = true) ∧
        (args.context ≠ 0 → args.context.toNat ≤ eglBridgeMaxContexts →
          id = contextId args.context → (after.gCtxBindings id).valid = true) := by
  simp only [EglProxy.hEglMakeCurrent, if_true]
  split
  · refine ⟨rfl, rfl, rfl, fun id => ⟨fun valid => ?_, fun _ _ same => ?_⟩⟩
    · by_cases here : id = contextId args.context
      · simp [here]
      · simpa only [Function.update_of_ne here] using valid
    · simp [same]
  · rename_i none
    exact ⟨rfl, rfl, rfl, fun id => ⟨fun valid => valid, fun nonzero small =>
      absurd ⟨nonzero, small⟩ none⟩⟩

theorem Bound.makeCurrent {state : EglSystem σ} (bound : Bound state) {thread : Nat}
    {args : MakeCurrent} (ok : Bool)
    (again : (state.threads thread).repeats args = true → state.proxy.ctx args.context ≠ 0 →
      state.made thread args.context = true) :
    Bound (state.eglMakeCurrent thread args ok) := by
  have noted {number : Nat} {handle : UInt32}
      (made : state.note thread args.context number handle = true) :
      number = thread ∧ handle = args.context ∨ state.made number handle = true := by
    unfold EglSystem.note at made
    by_cases here : number = thread
    · rw [here, Function.update_self] at made
      by_cases same : handle = args.context
      · exact .inl ⟨here, same⟩
      · rw [Function.update_of_ne same] at made
        exact .inr (here ▸ made)
    · rw [Function.update_of_ne here] at made
      exact .inr made
  unfold EglSystem.eglMakeCurrent
  cases repeated : (state.threads thread).repeats args with
  | true =>
      refine ⟨bound.none, fun number handle nonzero live made => ?_⟩
      rcases noted made with ⟨rfl, rfl⟩ | before
      · exact bound.valid number _ nonzero live (again repeated live)
      · exact bound.valid number handle nonzero live before
  | false =>
      cases ok with
      | false => exact ⟨bound.none, bound.valid⟩
      | true =>
          obtain ⟨ctxs, current, index, valid⟩ := hEglMakeCurrent_true state.proxy args
          have same (handle : UInt32) : EglProxy.ctx (state.proxy.hEglMakeCurrent args.display
              args.draw args.read args.context true) handle = state.proxy.ctx handle := by
            rw [EglProxy.ctx, ctxs]
            rfl
          refine ⟨(congrFun ctxs 0).trans bound.none, fun number handle nonzero live made => ?_⟩
          simp only [Bool.false_eq_true, if_false, same] at live ⊢
          rw [current, index]
          rcases noted made with ⟨rfl, rfl⟩ | before
          · exact ⟨(valid _).2 nonzero (small_of_ctx bound.none live) rfl, fun _ => rfl⟩
          · obtain ⟨was, -⟩ := bound.valid number handle nonzero live before
            exact ⟨(valid _).1 was, fun here => by rw [here]⟩

theorem step_other {state next : EglSystem σ} {thread : Nat} {call : EglCommand σ}
    (other : ∀ display draw read context ok, call ≠ .eglMakeCurrent display draw read context ok)
    (stepped : (eglSystem fresh).step state ⟨thread, call, accepts⟩ = some next) :
    ∃ proxy result,
      (state.proxy.eglBindTargetCtx (state.threads thread).gStubCurrentCtx accepts).handleEgl fresh
          call = some (proxy, result) ∧
        next = { state with
          proxy
          made := if result = 0 then state.made else state.forget result } := by
  have mapped : ((state.proxy.eglBindTargetCtx (state.threads thread).gStubCurrentCtx
      accepts).handleEgl fresh call).map (fun answer => { state with
        proxy := answer.1
        made := if answer.2 = 0 then state.made else state.forget answer.2 }) = some next := by
    cases call with
    | eglMakeCurrent => exact (other _ _ _ _ _ rfl).elim
    | _ => exact stepped
  obtain ⟨⟨proxy, result⟩, handled, shape⟩ := Option.map_eq_some_iff.mp mapped
  exact ⟨proxy, result, handled, shape.symm⟩

theorem Bound.step_of_made {state next : EglSystem σ} {input : EglInput σ} (bound : Bound state)
    (again : ∀ display draw read context ok,
      input.call = .eglMakeCurrent display draw read context ok →
        (state.threads input.thread).repeats ⟨display, draw, read, context⟩ = true →
          state.proxy.ctx context ≠ 0 → state.made input.thread context = true)
    (stepped : (eglSystem fresh).step state input = some next) : Bound next := by
  obtain ⟨thread, call, accepts⟩ := input
  by_cases making : ∃ display draw read context ok,
      call = .eglMakeCurrent display draw read context ok
  · obtain ⟨display, draw, read, context, ok, rfl⟩ := making
    cases stepped
    exact bound.makeCurrent ok (again _ _ _ _ _ rfl)
  · have other : ∀ display draw read context ok,
        call ≠ .eglMakeCurrent display draw read context ok := fun display draw read context ok same =>
      making ⟨display, draw, read, context, ok, same⟩
    obtain ⟨proxy, result, handled, rfl⟩ := step_other other stepped
    exact (bound.bind _ accepts).served other handled

theorem Bound.step {state next : EglSystem σ} {input : EglInput σ} (bound : Bound state)
    (keeps : KeepsTarget state input) (stepped : (eglSystem fresh).step state input = some next) :
    Bound next := by
  refine bound.step_of_made (fun display draw read context ok making => ?_) stepped
  obtain ⟨thread, call, accepts⟩ := input
  cases making
  exact keeps

theorem Bound.binds {state : EglSystem σ} (bound : Bound state) {thread : Nat} (nonzero : target ≠ 0)
    (live : state.proxy.ctx target ≠ 0) (made : state.made thread target = true)
    (can : target = state.proxy.gCurrentCtx ∨ target.toNat < maxContexts ∧ accepts = true) :
    (state.proxy.eglBindTargetCtx target accepts).current = state.proxy.ctx target := by
  obtain ⟨valid, current⟩ := bound.valid thread target nonzero live made
  by_cases here : target = state.proxy.gCurrentCtx
  · have stays : state.proxy.eglBindTargetCtx target accepts = state.proxy :=
      if_pos (.inr (.inl here))
    rw [stays]
    exact current here.symm
  · obtain ⟨small, accepted⟩ := can.resolve_left here
    unfold EglProxy.eglBindTargetCtx
    rw [if_neg, if_neg, if_neg]
    · simp [accepted]
    · simp [valid, live]
    · simp [nonzero, here, small]

/-- A command for no context finds none that it could change. -/
theorem performGl_idle {act : σ → σ}
    (idle : proxy.current = 0 ∨ act (proxy.contexts proxy.current) = proxy.contexts proxy.current) :
    (proxy.performGl act).contexts = proxy.contexts := by
  unfold EglProxy.performGl
  split
  · rfl
  · rename_i current
    rw [idle.resolve_left current]
    exact Function.update_eq_self ..

theorem Bound.runsInTarget {state : EglSystem σ} {input : EglInput σ} (bound : Bound state)
    (keeps : KeepsTarget state input) : RunsInTarget fresh state input := by
  obtain ⟨thread, call, accepts⟩ := input
  rintro act rfl
  obtain ⟨binds, idle⟩ := keeps
  refine ⟨fun nonzero live made => bound.binds nonzero live made (binds nonzero live made),
    fun none next stepped => ?_⟩
  have stepped : (eglSystem fresh).step state ⟨thread, .gl act, accepts⟩ = some next := stepped
  obtain ⟨proxy, result, handled, rfl⟩ := step_other (by simp) stepped
  cases handled
  have unbound : state.proxy.eglBindTargetCtx (state.threads thread).gStubCurrentCtx accepts =
      state.proxy := if_pos (.inl none)
  simp only [unbound]
  exact performGl_idle (idle none)

end

/-- In any interleaving, as long as the conditions of its steps are met. -/
theorem runs_in_target {inputs : List (EglInput σ)}
    (keeps : (eglSystem fresh).Along KeepsTarget (.zero fresh) inputs) :
    (eglSystem fresh).Along (RunsInTarget fresh) (.zero fresh) inputs :=
  Machine.Along.of_invariant Bound.step Bound.runsInTarget .zero keeps

/-- Two threads take turns, each with a context of its own. -/
theorem runs_in_target_turns :
    (eglSystem 0).Along (RunsInTarget 0) (.zero 0)
      [⟨0, .eglCreateContext 101, true⟩, ⟨0, .eglMakeCurrent 1 1 1 1 true, true⟩,
        ⟨1, .eglCreateContext 102, true⟩, ⟨1, .eglMakeCurrent 1 2 2 2 true, true⟩,
        ⟨0, .gl Nat.succ, true⟩, ⟨1, .gl Nat.succ, true⟩] := by
  refine runs_in_target ⟨trivial, fun _ taken => ?_⟩
  cases taken
  refine ⟨fun again => (by cases again), fun _ taken => ?_⟩
  cases taken
  refine ⟨trivial, fun _ taken => ?_⟩
  cases taken
  refine ⟨fun again => (by cases again), fun _ taken => ?_⟩
  cases taken
  refine ⟨⟨fun _ _ _ => .inr ⟨by decide, rfl⟩, fun none => (by cases none)⟩, fun _ taken => ?_⟩
  cases taken
  exact ⟨⟨fun _ _ _ => .inr ⟨by decide, rfl⟩, fun none => (by cases none)⟩, fun _ _ => trivial⟩

/-- The last index of the table is none that a command can be bound to. -/
theorem last_context_left :
    ¬ (eglSystem 0).Along (RunsInTarget 0) (.zero 0)
      ([101, 102, 103, 104, 105, 106, 107, 108].map (fun real =>
          ⟨0, .eglCreateContext real, true⟩) ++
        [⟨0, .eglMakeCurrent 1 1 1 8 true, true⟩, ⟨1, .eglMakeCurrent 1 2 2 1 true, true⟩,
          ⟨0, .gl Nat.succ, true⟩]) := by
  intro along
  iterate 10 obtain ⟨-, along⟩ := along; replace along := along _ rfl
  have bound := (along.1 _ rfl).1 (by decide) (by decide) (by decide)
  revert bound
  decide

end GlesBridge.Egl
