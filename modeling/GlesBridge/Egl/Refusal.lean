import GlesBridge.Egl.System
import GlesBridge.Stub.Lifecycle

namespace GlesBridge.Egl

open GlesBridge.Shared GlesBridge.Proxy GlesBridge.Proxy.EglProxy GlesBridge.Stub GlesBridge.Systems

/-! A call of `eglMakeCurrent` that is refused, and the later calls of its thread. -/

/-- A call that the stub compares with its copies of the context of the thread comes
with what the commands that it sends do to the context that is current. -/
inductive ClientCall (σ : Type) where
  | egl (call : EglCommand σ)
  | gl (call : GlCall) (act : σ → σ)

structure ClientInput (σ : Type) where
  thread : Nat
  call : ClientCall σ
  accepts : Bool

/-- The copies belong to the whole process of the client. -/
structure ClientSystem (σ : Type) where
  egl : EglSystem σ
  mirrors : StubMirrors

namespace ClientSystem

variable {σ : Type}

def zero (fresh : σ) : ClientSystem σ where
  egl := .zero fresh
  mirrors := .zero

variable (state : ClientSystem σ)

/-- `target_ctx` of the calls of a thread, and the index of its copies. -/
def target (thread : Nat) : UInt32 := (state.egl.threads thread).gStubCurrentCtx

/-- Whether a call of GL is more than what the copies say already. -/
def sends (current : Ctx) : GlCall → Bool
  | .state call => (state.mirrors.stateCall current call).2
  | .vertex call => !(state.mirrors.vertexCall current call).2.isEmpty

def returns (thread : Nat) (args : MakeCurrent) (ok : Bool) : Bool :=
  (state.egl.threads thread).repeats args || ok

def eglMakeCurrent (thread : Nat) (args : MakeCurrent) (ok : Bool) : ClientSystem σ :=
  { state with egl := state.egl.eglMakeCurrent thread args ok }

/-- A new context has its copies reset later. -/
def noteCreated (fresh : σ) (input : EglInput σ) : StubMirrors :=
  match input.call with
  | .eglCreateContext real =>
      match state.egl.proxy.dispatch fresh (state.target input.thread) input.accepts
          (.eglCreateContext real) with
      | some (_, raw) =>
          if raw = 0 then state.mirrors else { state.mirrors with stubNewCtx := raw.toNat }
      | none => state.mirrors
  | _ => state.mirrors

/-- A copy past the arrays has no defined outcome. -/
def step (fresh : σ) (input : ClientInput σ) : Option (ClientSystem σ) :=
  match input.call with
  | .egl call =>
      let input := ⟨input.thread, call, input.accepts⟩
      (state.egl.step fresh input).map fun egl => { egl, mirrors := state.noteCreated fresh input }
  | .gl call act =>
      if below : (state.target input.thread).toNat < maxContexts then
        let mirrors := state.mirrors.glCall ⟨_, below⟩ call
        if state.sends ⟨_, below⟩ call then
          (state.egl.step fresh ⟨input.thread, .gl act, input.accepts⟩).map fun egl => { egl, mirrors }
        else some { state with mirrors }
      else none

end ClientSystem

def clientSystem {σ : Type} (fresh : σ) : Machine (ClientSystem σ) (ClientInput σ) where
  step state input := state.step fresh input

/-- The thread does not try again. -/
def ClientInput.Follows {σ : Type} (thread : Nat) (input : ClientInput σ) : Prop :=
  ∀ display draw read context ok,
    input.call = .egl (.eglMakeCurrent display draw read context ok) → input.thread ≠ thread

/-- The calls of the thread have the same target and the same copies, and the proxy
is in the same state when it executes them. -/
structure SameFor {σ : Type} (thread : Nat) (left right : ClientSystem σ) : Prop where
  target : left.target thread = right.target thread
  mirrors : left.mirrors = right.mirrors
  proxy : left.egl.proxy = right.egl.proxy

/-- Whatever the threads call next, the thread is where it was without the call. -/
def Unmoved {σ : Type} (fresh : σ) (thread : Nat) (before after : ClientSystem σ) : Prop :=
  ∀ later : List (ClientInput σ), (∀ input ∈ later, input.Follows thread) →
    Option.Rel (SameFor thread) ((clientSystem fresh).run after later)
      ((clientSystem fresh).run before later)

/-! ## What the thread forgets -/

variable {σ : Type} {fresh : σ} {thread : Nat} {state : ClientSystem σ} {args : MakeCurrent}
  {input : ClientInput σ} {ok : Bool}

/-- The thread has no call to be repeated. -/
def EglSystem.forgetLast (thread : Nat) (state : EglSystem σ) : EglSystem σ :=
  { state with
    threads := Function.update state.threads thread { state.threads thread with last := none } }

def ClientSystem.forgetLast (thread : Nat) (state : ClientSystem σ) : ClientSystem σ :=
  { state with egl := state.egl.forgetLast thread }

theorem forgetLast_thread_of_ne {egl : EglSystem σ} {other : Nat} (apart : other ≠ thread) :
    (egl.forgetLast thread).threads other = egl.threads other :=
  Function.update_of_ne apart _ _

theorem forgetLast_thread_self {egl : EglSystem σ} :
    (egl.forgetLast thread).threads thread = { egl.threads thread with last := none } :=
  Function.update_self ..

theorem forgetLast_target {egl : EglSystem σ} (other : Nat) :
    ((egl.forgetLast thread).threads other).gStubCurrentCtx =
      (egl.threads other).gStubCurrentCtx := by
  by_cases same : other = thread
  · rw [same, forgetLast_thread_self]
  · rw [forgetLast_thread_of_ne same]

/-- A call of another thread goes by what that thread has called. -/
theorem forgetLast_eglMakeCurrent {egl : EglSystem σ} {other : Nat} (apart : other ≠ thread) :
    (egl.forgetLast thread).eglMakeCurrent other args ok =
      (egl.eglMakeCurrent other args ok).forgetLast thread := by
  have own : (egl.eglMakeCurrent other args ok).threads thread = egl.threads thread :=
    Function.update_of_ne (Ne.symm apart) _ _
  unfold EglSystem.forgetLast
  rw [own]
  simp only [EglSystem.eglMakeCurrent, Function.update_of_ne apart]
  rw [Function.update_comm (Ne.symm apart)]
  rfl

theorem forgetLast_eglStep {egl : EglSystem σ} {input : EglInput σ}
    (follows : ∀ display draw read context ok,
      input.call = .eglMakeCurrent display draw read context ok → input.thread ≠ thread) :
    (egl.forgetLast thread).step fresh input =
      (egl.step fresh input).map (EglSystem.forgetLast thread) := by
  obtain ⟨other, call, accepts⟩ := input
  cases call with
  | eglMakeCurrent display draw read context ok =>
      exact congrArg some (forgetLast_eglMakeCurrent (follows _ _ _ _ _ rfl))
  | _ =>
      simp only [EglSystem.step, forgetLast_target, Option.map_map]
      rfl

theorem sameFor_forgetLast : SameFor thread (state.forgetLast thread) state where
  target := forgetLast_target thread
  mirrors := rfl
  proxy := rfl

theorem forgetLast_step (follows : input.Follows thread) :
    (clientSystem fresh).step (state.forgetLast thread) input =
      ((clientSystem fresh).step state input).map (ClientSystem.forgetLast thread) := by
  obtain ⟨other, call, accepts⟩ := input
  have target : (state.forgetLast thread).target other = state.target other :=
    forgetLast_target other
  cases call with
  | egl call =>
      have stepped : (state.egl.forgetLast thread).step fresh ⟨other, call, accepts⟩ =
          (state.egl.step fresh ⟨other, call, accepts⟩).map (EglSystem.forgetLast thread) :=
        forgetLast_eglStep fun _ _ _ _ _ making => follows _ _ _ _ _ (congrArg _ making)
      have noted : (state.forgetLast thread).noteCreated fresh ⟨other, call, accepts⟩ =
          state.noteCreated fresh ⟨other, call, accepts⟩ := by
        unfold ClientSystem.noteCreated
        rw [target]
        rfl
      simp only [clientSystem, ClientSystem.step, noted]
      change ((state.egl.forgetLast thread).step fresh ⟨other, call, accepts⟩).map _ = _
      rw [stepped, Option.map_map, Option.map_map]
      rfl
  | gl call act =>
      have stepped : (state.egl.forgetLast thread).step fresh ⟨other, .gl act, accepts⟩ =
          (state.egl.step fresh ⟨other, .gl act, accepts⟩).map (EglSystem.forgetLast thread) :=
        forgetLast_eglStep fun _ _ _ _ _ making => by cases making
      simp only [clientSystem, ClientSystem.step, target]
      by_cases below : (state.target other).toNat < maxContexts
      · have sends : (state.forgetLast thread).sends ⟨_, below⟩ call =
            state.sends ⟨_, below⟩ call := rfl
        simp only [dif_pos below, sends]
        cases state.sends ⟨_, below⟩ call with
        | false => rfl
        | true =>
            simp only [if_true, Option.map_map]
            change ((state.egl.forgetLast thread).step fresh ⟨other, .gl act, accepts⟩).map _ = _
            rw [stepped, Option.map_map]
            rfl
      · simp only [dif_neg below]
        rfl

/-! ## The refused call -/

/-- The call is refused for a context that the thread has anyway. -/
theorem refused_eq (refused : state.returns thread args ok = false)
    (own : args.context = state.target thread) :
    state.eglMakeCurrent thread args ok = state.forgetLast thread := by
  obtain ⟨new, failed⟩ := Bool.or_eq_false_iff.mp refused
  unfold ClientSystem.eglMakeCurrent ClientSystem.forgetLast EglSystem.eglMakeCurrent
    EglSystem.forgetLast EglThread.eglMakeCurrent
  rw [new, failed, own]
  rfl

theorem unmoved_iff (fresh : σ) (state : ClientSystem σ) (thread : Nat) (args : MakeCurrent)
    (ok : Bool) (refused : state.returns thread args ok = false) :
    Unmoved fresh thread state (state.eglMakeCurrent thread args ok) ↔
      args.context = state.target thread := by
  obtain ⟨new, failed⟩ := Bool.or_eq_false_iff.mp refused
  constructor
  · intro unmoved
    have now : SameFor thread (state.eglMakeCurrent thread args ok) state := by
      cases unmoved [] fun _ member => absurd member List.not_mem_nil with
      | some same => exact same
    rw [← now.target]
    unfold ClientSystem.target ClientSystem.eglMakeCurrent EglSystem.eglMakeCurrent
    simp only [Function.update_self, EglThread.eglMakeCurrent, new]
    rfl
  · intro own later follows
    rw [refused_eq refused own, Machine.run_map forgetLast_step follows]
    cases (clientSystem fresh).run state later with
    | none => exact .none
    | some reached => exact .some sameFor_forgetLast

/-- The surface is refused, for the context that is current. -/
theorem unmoved_own :
    ∃ state, (clientSystem 0).run (.zero 0)
        [⟨0, .egl (.eglCreateContext 101), true⟩,
          ⟨0, .egl (.eglMakeCurrent 1 1 1 1 true), true⟩] = some state ∧
      state.returns 0 ⟨1, 2, 2, 1⟩ false = false ∧
      Unmoved 0 0 state (state.eglMakeCurrent 0 ⟨1, 2, 2, 1⟩ false) :=
  ⟨_, rfl, rfl, (unmoved_iff 0 _ 0 ⟨1, 2, 2, 1⟩ false rfl).mpr rfl⟩

/-- The thread has the context 1, is refused the context 2, and draws into that one. -/
theorem refused_moves :
    ∃ state drawn, (clientSystem 0).run (.zero 0)
        [⟨0, .egl (.eglCreateContext 101), true⟩, ⟨0, .egl (.eglCreateContext 102), true⟩,
          ⟨0, .egl (.eglMakeCurrent 1 2 2 2 true), true⟩,
          ⟨0, .egl (.eglMakeCurrent 1 1 1 1 true), true⟩] = some state ∧
      state.returns 0 ⟨1, 3, 3, 2⟩ false = false ∧
      (clientSystem 0).step (state.eglMakeCurrent 0 ⟨1, 3, 3, 2⟩ false)
        ⟨0, .egl (.gl Nat.succ), true⟩ = some drawn ∧
      drawn.egl.proxy.contexts 102 = 1 ∧
      ¬ Unmoved 0 0 state (state.eglMakeCurrent 0 ⟨1, 3, 3, 2⟩ false) := by
  refine ⟨_, _, rfl, rfl, rfl, rfl, fun unmoved => ?_⟩
  cases unmoved [] fun _ member => absurd member List.not_mem_nil with
  | some same => exact absurd same.target (by decide)

end GlesBridge.Egl
