import GlesBridge.Stub.LazyReset

namespace GlesBridge.Stub

open GlesBridge.Gl GlesBridge.Shared GlesBridge.Systems

/-! The copies of every context over its life. -/

/-! ## Two stubs that say the same -/

namespace StubMirrors

variable {mirrors left right : StubMirrors} {current ctx : Ctx} {idx : Nat}

theorem SameIn.trans {between : StubMirrors} (first : left.SameIn ctx between)
    (second : between.SameIn ctx right) : left.SameIn ctx right where
  shadow := first.shadow.trans second.shadow
  stubCtx := first.stubCtx.trans second.stubCtx
  glState := first.glState.trans second.glState
  cache := first.cache.trans second.cache

theorem SameIn.initial (same : left.SameIn ctx right) (initial : right.Initial ctx) :
    left.Initial ctx where
  shadow := same.shadow.trans initial.shadow
  stubCtx := same.stubCtx.trans initial.stubCtx
  cache slot := by rw [same.cache, initial.cache]
  glState := same.glState.trans initial.glState

theorem forget_described_congr (same : left.described = right.described) :
    (left.forget idx).described = (right.forget idx).described := by
  have reset (mirrors : StubMirrors) :
      (mirrors.forget idx).described = (mirrors.described.forget idx).described := by
    simp only [forget, described, mk.injEq, and_true]
    funext ctx
    split_ifs
    · rfl
    · exact (described_described _).symm
  rw [reset, same, ← reset]

theorem created_eq (mirrors : StubMirrors) (handle : Nat) :
    mirrors.created handle =
      { mirrors.forget handle with
        stubGlState := fun ctx => if handle = ctx then .zero else mirrors.stubGlState ctx
        stubNewCtx := mirrors.stubNewCtx } := by
  rw [created, stubContextStateReset_eq]

theorem forget_past (past : maxContexts ≤ idx) :
    mirrors.forget idx = { mirrors with stubNewCtx := 0 } := by
  have apart (ctx : Ctx) : ¬ idx = ctx := by omega
  simp only [forget, apart, if_false]

/-- A reset that is lost over the next one would have changed nothing. -/
theorem forget_lost (kept : 0 < mirrors.stubNewCtx → mirrors.stubNewCtx ≠ idx →
      ∀ ctx : Ctx, mirrors.stubNewCtx = ctx → mirrors.Clear ctx) :
    (mirrors.settled.forget idx).described = (mirrors.forget idx).described := by
  by_cases pending : 0 < mirrors.stubNewCtx
  · rw [settled_of_pending pending]
    by_cases same : mirrors.stubNewCtx = idx
    · rw [same, forget_forget]
    · have nothing : (mirrors.forget mirrors.stubNewCtx).described =
          { mirrors with stubNewCtx := 0 : StubMirrors }.described := by
        by_cases below : mirrors.stubNewCtx < maxContexts
        · exact (kept pending same ⟨mirrors.stubNewCtx, below⟩ rfl).forget_described
        · rw [forget_past (Nat.not_lt.mp below)]
      refine (forget_described_congr nothing).trans ?_
      rfl
  · rw [settled_of_none (by omega)]

theorem created_described (same : left.described = right.settled.described)
    (unused : ∀ ctx : Ctx, idx = ctx → right.stubGlState ctx = .zero)
    (kept : 0 < right.stubNewCtx → right.stubNewCtx ≠ idx →
      ∀ ctx : Ctx, right.stubNewCtx = ctx → right.Clear ctx) :
    (left.created idx).described = (right.forget idx).described := by
  have settled : left.stubNewCtx = 0 :=
    (congrArg StubMirrors.stubNewCtx same).trans right.settled_stubNewCtx
  have bound : left.stubGlState = right.stubGlState := by
    refine (congrArg StubMirrors.stubGlState same).trans ?_
    unfold StubMirrors.settled
    split_ifs <;> rfl
  have bindings : (fun ctx : Ctx => if idx = ctx then GLState.zero else left.stubGlState ctx) =
      left.stubGlState := by
    funext ctx
    split_ifs with own
    · rw [bound, unused ctx own]
    · rfl
  rw [← forget_lost kept, ← forget_described_congr same, created_eq, bindings, settled]
  rfl

theorem created_initial (mirrors : StubMirrors) (ctx : Ctx) : (mirrors.created ctx).Initial ctx := by
  rw [created_eq]
  have clear := mirrors.clear_forget ctx
  exact ⟨⟨clear.shadow, clear.stubCtx, clear.cache⟩, if_pos rfl⟩

theorem Initial.created (initial : mirrors.Initial ctx) (apart : idx ≠ ctx) :
    (mirrors.created idx).Initial ctx := by
  have same : (mirrors.created idx).SameIn ctx mirrors := by
    rw [created_eq]
    refine ⟨?_, if_neg apart, if_neg apart, ?_⟩
    · simp only [forget, if_neg apart]
    · funext slot
      exact if_neg apart
  exact same.initial initial

end StubMirrors

/-! ## One step -/

namespace Lifecycle

variable {state next : Lifecycle} {input : Nat × LifeCall}

/-- But for the reset that the stub has still to make, both stubs say the same,
and what is fresh is initial. -/
structure Followed (state : Lifecycle) : Prop where
  eager : state.eager.described = state.stub.settled.described
  initial : ∀ ctx, state.fresh ctx = true → state.eager.Initial ctx

theorem Followed.eager_settled (followed : state.Followed) : state.eager.stubNewCtx = 0 := by
  have same := congrArg StubMirrors.stubNewCtx followed.eager
  exact same.trans state.stub.settled_stubNewCtx

theorem Followed.create (followed : state.Followed) {thread : Nat} {created : Bool}
    (inTime : state.InTime (thread, .eglCreateContext created)) :
    (state.eglCreateContext created).Followed := by
  unfold eglCreateContext
  by_cases none : state.raw created = 0
  · simpa [none] using followed
  obtain ⟨unused, kept⟩ := inTime none
  simp only [ne_eq, none, not_false_eq_true, if_true]
  refine ⟨?_, fun ctx fresh => ?_⟩
  · have reset : { state.stub with stubNewCtx := state.raw created : StubMirrors }.settled =
        state.stub.forget (state.raw created) :=
      StubMirrors.settled_of_pending (Nat.pos_of_ne_zero none)
    exact (StubMirrors.created_described followed.eager unused kept).trans
      (congrArg StubMirrors.described reset.symm)
  · by_cases own : state.raw created = ctx
    · rw [own]
      exact state.eager.created_initial ctx
    · have before : state.fresh ctx = true := by simpa [own] using fresh
      exact (followed.initial ctx before).created own

theorem Followed.call (followed : state.Followed) {thread : Nat} {current : Ctx} {call : GlCall}
    (made : state.current thread = current) (inTime : state.InTime (thread, .gl call)) :
    (state.gl current call).Followed := by
  obtain ⟨here, found, inTime⟩ := inTime
  obtain rfl : here = current := Fin.ext (found.symm.trans made)
  have settled := followed.eager_settled
  refine ⟨?_, fun ctx fresh => ?_⟩
  · change (state.eager.glCall here call).described = (state.stub.glCall here call).settled.described
    rw [← StubMirrors.glCall_settled inTime, ← StubMirrors.glCall_described settled,
      ← StubMirrors.glCall_described state.stub.settled_stubNewCtx, followed.eager]
  · by_cases own : ctx = here
    · subst own
      simp [gl] at fresh
    · have before : state.fresh ctx = true := by simpa [gl, own] using fresh
      exact (followed.initial ctx before).glCall settled call own

theorem Followed.step (followed : state.Followed) (inTime : state.InTime input)
    (taken : lifecycle.step state input = some next) : next.Followed := by
  obtain ⟨thread, call⟩ := input
  cases call with
  | eglCreateContext created =>
      cases taken
      exact followed.create inTime
  | eglDestroyContext context destroyed =>
      cases taken
      unfold eglDestroyContext
      split_ifs
      · exact ⟨followed.eager, followed.initial⟩
      · exact followed
  | eglMakeCurrent context =>
      cases taken
      exact ⟨followed.eager, followed.initial⟩
  | gl call =>
      simp only [lifecycle] at taken
      split at taken
      next below =>
        cases taken
        exact followed.call rfl inTime
      next => cases taken

end Lifecycle

/-! ## Whole runs -/

end GlesBridge.Stub
