import GlesBridge.Stub.Lifecycle

namespace GlesBridge.Stub

open GlesBridge.Gl GlesBridge.Shared GlesBridge.Systems

/-! The reset of a created context that waits for a later call, against one that
is made at once. -/

/-! ## Records that are zero -/

theorem StubShadowState.unbind_zero (kind : ObjectKind) (names : List UInt32) :
    StubShadowState.zero.unbind kind names = .zero := by
  simp only [StubShadowState.unbind, StubShadowState.zero, StubShadowState.mk.injEq, true_and]
  funext slot
  exact if_neg fun gone => gone.2.1 rfl

theorem StubShadowState.described_unbind (shadow : StubShadowState) (kind : ObjectKind)
    (names : List UInt32) : (shadow.unbind kind names).described = shadow.described.unbind kind names := by
  unfold StubShadowState.described
  cases marked : shadow.initialised with
  | true =>
      have after : (shadow.unbind kind names).initialised = true := marked
      rw [if_pos after, if_pos rfl]
  | false =>
      have after : (shadow.unbind kind names).initialised = false := marked
      simp [after, StubMirrors.unbind_init]

theorem invalidateEbo_zero (buffer : UInt32) : invalidateEbo buffer .zero = .zero := by
  simp only [invalidateEbo, GLContextState.zero, VAOState.zero, GLContextState.mk.injEq, and_true]
  funext vao
  exact ite_self _

/-! ## Resets -/

attribute [ext] StubMirrors

namespace StubMirrors

variable {mirrors : StubMirrors} {current : Ctx} {idx : Nat}

/-- The context of an index is reset, and none is still to be. -/
def forget (mirrors : StubMirrors) (idx : Nat) : StubMirrors :=
  { mirrors with
    shadowCtx := fun ctx => if idx = ctx then .zero else mirrors.shadowCtx ctx
    stubCtx := fun ctx => if idx = ctx then .zero else mirrors.stubCtx ctx
    bufrangeCache := fun ctx slot =>
      if idx = ctx then { mirrors.bufrangeCache ctx slot with buffer := 0 }
      else mirrors.bufrangeCache ctx slot
    stubNewCtx := 0 }

/-- The reset that is still to be made is made, and only that. -/
def settled (mirrors : StubMirrors) : StubMirrors :=
  if 0 < mirrors.stubNewCtx then mirrors.forget mirrors.stubNewCtx else mirrors

/-- Every shadow as it is before anything is compared with it. -/
def described (mirrors : StubMirrors) : StubMirrors :=
  { mirrors with shadowCtx := fun ctx => (mirrors.shadowCtx ctx).described }

theorem stubContextStateReset_eq (mirrors : StubMirrors) (idx : Nat) :
    mirrors.stubContextStateReset idx =
      { mirrors.forget idx with stubNewCtx := mirrors.stubNewCtx } := by
  unfold stubContextStateReset
  split_ifs with below
  · ext1
    · funext ctx
      simp [forget, Function.update_apply, Fin.ext_iff, eq_comm]
    · funext ctx
      simp [forget, Function.update_apply, Fin.ext_iff, eq_comm]
    · rfl
    · funext ctx slot
      simp only [forget, Function.update_apply]
      by_cases here : ctx = ⟨idx, below⟩
      · simp [here]
      · have apart : ¬ idx = ctx := fun same => here (Fin.ext same.symm)
        simp [here, apart]
    · rfl
    · rfl
  · have apart (ctx : Ctx) : idx ≠ ctx := fun same => below (same ▸ ctx.isLt)
    simp [forget, apart]

/-! ## A reset and a call in another context -/

@[simp] theorem forget_stubCtx (ctx : Ctx) :
    (mirrors.forget idx).stubCtx ctx = if idx = ctx then .zero else mirrors.stubCtx ctx := rfl

theorem forget_setStubCtx (apart : idx ≠ current) (state : GLContextState) :
    (mirrors.forget idx).setStubCtx current state = (mirrors.setStubCtx current state).forget idx := by
  simp only [setStubCtx, forget, mk.injEq, true_and, and_true]
  funext ctx
  simp only [Function.update_apply]
  by_cases here : ctx = current
  · simp [here, apart]
  · simp [here]

theorem forget_unbind (kind : ObjectKind) (names : List UInt32) :
    (mirrors.forget idx).shadowInvalidateAll
        (StubShadowState.invalidate kind (StubShadowState.unbound kind)) names =
      (mirrors.shadowInvalidateAll
        (StubShadowState.invalidate kind (StubShadowState.unbound kind)) names).forget idx := by
  rw [shadowInvalidateAll_eq, shadowInvalidateAll_eq]
  simp only [forget, mk.injEq, and_true]
  funext ctx
  split_ifs
  · exact StubShadowState.unbind_zero kind names
  · rfl

theorem forget_glDeleteBuffers (buffers : List UInt32) :
    (mirrors.forget idx).glDeleteBuffers current buffers =
      (mirrors.glDeleteBuffers current buffers).forget idx := by
  have one (mirrors : StubMirrors) (buffer : UInt32) :
      (mirrors.forget idx).stubGlStateInvalidateBuffer current buffer =
        (mirrors.stubGlStateInvalidateBuffer current buffer).forget idx := by
    unfold stubGlStateInvalidateBuffer
    split_ifs with nothing
    · rfl
    · simp only [forget, bufrangeCacheInvalidateBuffer, mk.injEq, true_and, and_true]
      refine ⟨?_, ?_⟩
      · funext ctx
        split_ifs
        · exact invalidateEbo_zero buffer
        · rfl
      · funext ctx slot
        by_cases here : idx = ctx
        · simp only [if_pos here]
          split_ifs <;> rfl
        · simp only [if_neg here]
  unfold glDeleteBuffers
  induction buffers generalizing mirrors with
  | nil => rfl
  | cons buffer rest ih => rw [List.foldl_cons, List.foldl_cons, one, ih]

theorem forget_cache (apart : idx ≠ current)
    (entries : Fin bufrangeCacheSlots → BufferRangeCacheEntry) :
    { mirrors.forget idx with
      bufrangeCache := Function.update (mirrors.forget idx).bufrangeCache current entries } =
      { mirrors with
        bufrangeCache := Function.update mirrors.bufrangeCache current entries
        : StubMirrors }.forget idx := by
  simp only [forget, mk.injEq, true_and, and_true]
  funext ctx slot
  simp only [Function.update_apply]
  by_cases here : ctx = current
  · simp [here, apart]
  · simp [here]

/-- No call but a bind of a vertex array looks at what is still to be reset. -/
theorem vertexCall_forget (apart : idx ≠ current) {call : VertexCall}
    (plain : (GlCall.vertex call).consulting = none) :
    ((mirrors.forget idx).vertexCall current call).1 =
      (mirrors.vertexCall current call).1.forget idx := by
  have seen : (mirrors.forget idx).stubCtx current = mirrors.stubCtx current := if_neg apart
  have records : (mirrors.forget idx).records current = mirrors.records current := by
    simp only [StubMirrors.records, seen]
    rfl
  have set (after : Records) : (mirrors.forget idx).setRecords current after =
      (mirrors.setRecords current after).forget idx := by
    simp only [setRecords, forget_setStubCtx apart]
    rfl
  cases call with
  | glBindVertexArray array => cases plain
  | glGenVertexArrays arrays => simp only [vertexCall, glGenVertexArrays, seen, forget_setStubCtx apart]
  | glDeleteVertexArrays arrays => exact forget_unbind .vertexArray arrays
  | glBindBuffer target buffer =>
      have bound : (mirrors.forget idx).boundBuffer current target =
          mirrors.boundBuffer current target := by
        simp only [boundBuffer, seen]
        rfl
      simp only [vertexCall, glBindBuffer, setBoundBuffer, bound, seen]
      split_ifs
      · rfl
      · exact forget_setStubCtx apart _
      · cases bufferSlot target with
        | none => rfl
        | some slot => rfl
  | glBindBufferRange target index buffer offset size mapped =>
      have cache : (mirrors.forget idx).bufrangeCache current = mirrors.bufrangeCache current := by
        funext slot
        exact if_neg apart
      simp only [vertexCall, glBindBufferRange, cache]
      by_cases below : target = 0x8A11 ∧ index.toNat < bufrangeCacheSlots
      · simp only [dif_pos below]
        exact forget_cache apart _
      · simp only [dif_neg below]
  | glDeleteBuffers buffers => exact forget_glDeleteBuffers buffers
  | glDrawElements indices lastVertex place =>
      simp only [vertexCall, glDrawElements]
      split_ifs <;> rfl
  | glBindBufferBase | glDrawArrays => rfl
  | glVertexAttribPointer | glVertexAttribIPointer =>
      simp only [vertexCall, glVertexAttribPointer, glVertexAttribIPointer, records, set]
      rfl
  | glEnableVertexAttribArray | glDisableVertexAttribArray | glVertexAttribDivisor =>
      simp only [vertexCall, glEnableVertexAttribArray, glDisableVertexAttribArray,
        glVertexAttribDivisor, records, set]

/-! ## A reset and a call in its context -/

theorem setAttribs_zero (records : Records) {index : UInt32} {assign : AttribState → AttribState}
    (nothing : maxVertexAttribs ≤ index.toNat ∨ assign .zero = .zero) :
    (Records.mk records.attribState .zero).setAttribs index assign =
      ⟨(records.setAttribs index assign).attribState, .zero⟩ := by
  unfold Records.setAttribs
  split_ifs with below
  · have zero : assign .zero = .zero := nothing.resolve_left (by omega)
    have attrib (index : AttribIndex) : GLContextState.zero.attrib index = .zero := by
      rw [GLContextState.attrib, GLContextState.vao_zero]
      rfl
    simp only [attrib, zero, GLContextState.setAttrib_zero]
  · rfl

theorem copyAttrib_past {records : Records} {index : UInt32} {assign : AttribState → AttribState}
    (past : maxVertexAttribs ≤ index.toNat) : records.copyAttrib index assign = records :=
  dif_neg (Nat.not_lt.mpr past)

theorem entry_unbound {entry : BufferRangeCacheEntry} (unbound : entry.buffer = 0) :
    { entry with buffer := 0 } = entry := by
  rw [← unbound]

theorem rangeEntry_zero {entry : BufferRangeCacheEntry} (unbound : entry.buffer = 0)
    (offset size : Int64) (mapped : Option MappedRange) :
    (rangeEntry entry 0 offset size mapped).1.buffer = 0 := by
  unfold rangeEntry
  split_ifs
  · exact unbound
  · split
    · split_ifs
      · exact unbound
      · exact unbound
    · exact unbound
  · split <;> rfl

/-- What the call writes a reset of its context would write as well. -/
theorem vertexCall_forget_self {call : VertexCall}
    (plain : (GlCall.vertex call).consulting = none)
    (keeps : (GlCall.vertex call).keepsZero = true)
    (clear : (GlCall.vertex call).elidable = true → mirrors.Clear current) :
    ((mirrors.forget current).vertexCall current call).1 =
      (mirrors.vertexCall current call).1.forget current := by
  have seen : (mirrors.forget current).stubCtx current = .zero := if_pos rfl
  have records : (mirrors.forget current).records current = ⟨mirrors.attribStubState, .zero⟩ := by
    simp only [StubMirrors.records, seen]
    rfl
  have setZero (state : GLContextState) : (mirrors.forget current).setStubCtx current .zero =
      (mirrors.setStubCtx current state).forget current := by
    simp only [setStubCtx, forget, mk.injEq, true_and, and_true]
    funext ctx
    by_cases here : ctx = current
    · simp [here]
    · simp [here]
  have set (after : Records) : (mirrors.forget current).setRecords current ⟨after.attribState, .zero⟩ =
      (mirrors.setRecords current after).forget current := by
    simp only [setRecords, setZero after.ctx]
    rfl
  cases call with
  | glBindVertexArray array => cases plain
  | glGenVertexArrays arrays =>
      simp only [vertexCall, glGenVertexArrays, seen, GLContextState.zeroVaos_zero]
      exact setZero _
  | glDeleteVertexArrays arrays => exact forget_unbind .vertexArray arrays
  | glBindBuffer target buffer =>
      by_cases element : target = glElementArrayBuffer
      · subst element
        have none : buffer = 0 := by simpa [GlCall.keepsZero] using keeps
        have bound : mirrors.boundBuffer current glElementArrayBuffer = 0 := by
          simp [boundBuffer, (clear rfl).stubCtx, VAOState.zero]
        have after : (mirrors.forget current).boundBuffer current glElementArrayBuffer = 0 := by
          simp [boundBuffer, VAOState.zero]
        subst none
        simp [vertexCall, glBindBuffer, bound, after]
      · have bound : (mirrors.forget current).boundBuffer current target =
            mirrors.boundBuffer current target := by
          simp only [boundBuffer, if_neg element]
          rfl
        simp only [vertexCall, glBindBuffer, setBoundBuffer, bound, if_neg element]
        split_ifs
        · rfl
        · cases bufferSlot target with
          | none => rfl
          | some slot => rfl
  | glBindBufferRange target index buffer offset size mapped =>
      by_cases below : target = 0x8A11 ∧ index.toNat < bufrangeCacheSlots
      · have none : buffer = 0 := by
          simpa [GlCall.keepsZero, below.1, Nat.not_le.mpr below.2] using keeps
        have empty := (clear (by simp [GlCall.elidable, below])).cache
        have same : (mirrors.forget current).bufrangeCache current = mirrors.bufrangeCache current := by
          funext slot
          exact (if_pos rfl).trans (entry_unbound (empty slot))
        subst none
        simp only [vertexCall, glBindBufferRange, dif_pos below, same]
        simp only [forget, mk.injEq, true_and, and_true]
        funext ctx slot
        by_cases here : ctx = current
        · subst here
          simp only [Function.update_self, if_true]
          by_cases entry : slot = ⟨index.toNat, below.2⟩
          · subst entry
            rw [Function.update_self]
            exact (entry_unbound (rangeEntry_zero (empty _) offset size mapped)).symm
          · rw [Function.update_of_ne entry]
            exact (entry_unbound (empty slot)).symm
        · simp [here]
      · simp only [vertexCall, glBindBufferRange, dif_neg below]
  | glDeleteBuffers buffers => exact forget_glDeleteBuffers buffers
  | glDrawElements indices lastVertex place =>
      simp only [vertexCall, glDrawElements]
      split_ifs <;> rfl
  | glBindBufferBase | glDrawArrays => rfl
  | glVertexAttribPointer | glVertexAttribIPointer =>
      have past := of_decide_eq_true keeps
      simp only [vertexCall, glVertexAttribPointer, glVertexAttribIPointer, records,
        copyAttrib_past past]
      exact set (mirrors.records current)
  | glEnableVertexAttribArray index =>
      have past := of_decide_eq_true keeps
      simp only [vertexCall, glEnableVertexAttribArray, records]
      refine Eq.trans ?_ (set _)
      exact congrArg _ (setAttribs_zero (mirrors.records current) (.inl past))
  | glDisableVertexAttribArray index =>
      simp only [vertexCall, glDisableVertexAttribArray, records]
      refine Eq.trans ?_ (set _)
      exact congrArg _ (setAttribs_zero (mirrors.records current) (.inr rfl))
  | glVertexAttribDivisor index divisor =>
      simp only [vertexCall, glVertexAttribDivisor, records]
      refine Eq.trans ?_ (set _)
      refine congrArg _ (setAttribs_zero (mirrors.records current) ?_)
      rcases Bool.or_eq_true_iff.mp keeps with past | zero
      · exact .inl (of_decide_eq_true past)
      · rw [eq_of_beq zero]
        exact .inr rfl

theorem stateCall_forget {call : StateCall} (plain : consultsShadow call = false) :
    ((mirrors.forget idx).stateCall current call).1 =
      (mirrors.stateCall current call).1.forget idx := by
  cases call with
  | glDeleteTextures names => exact forget_unbind .texture names
  | glDeleteFramebuffers names => exact forget_unbind .framebuffer names
  | glDeleteVertexArrays names => exact forget_unbind .vertexArray names
  | glDeleteSamplers names => exact forget_unbind .sampler names
  | glDeleteBuffers buffers => exact forget_glDeleteBuffers buffers
  | _ => first | rfl | cases plain

theorem glCall_forget {call : GlCall} (plain : call.consulting = none)
    (self : idx = current → call.keepsZero = true ∧ (call.elidable = true → mirrors.Clear current)) :
    (mirrors.forget idx).glCall current call = (mirrors.glCall current call).forget idx := by
  cases call with
  | state call =>
      have plain : consultsShadow call = false := by simpa [GlCall.consulting] using plain
      exact stateCall_forget plain
  | vertex call =>
      by_cases here : idx = current
      · obtain ⟨keeps, clear⟩ := self here
        rw [here]
        exact vertexCall_forget_self plain keeps clear
      · exact vertexCall_forget here plain

/-! ## Calls that ask for the shadow -/

/-- What such a call makes of the copies it compares its arguments with. -/
def cachedAfter (consulted : StubMirrors) (current : Ctx) (call : StateCall) : StubMirrors :=
  match cachedSlots (consulted.shadowCtx current) call with
  | none => consulted
  | some writes =>
      if (consulted.shadowCtx current).matches_ writes then consulted
      else
        (consulted.setShadow current ((consulted.shadowCtx current).assign writes)).noteCurrentVao
          current call

theorem cachedCall_fst (mirrors : StubMirrors) (current : Ctx) (call : StateCall) :
    (mirrors.cachedCall current call).1 =
      cachedAfter ((mirrors.notePrimitiveRestart current call).shadowStateForCurrentCtx current)
        current call := by
  generalize seen : (mirrors.notePrimitiveRestart current call).shadowStateForCurrentCtx current =
    consulted
  simp only [cachedCall, cachedAfter, seen]
  cases cachedSlots (consulted.shadowCtx current) call with
  | none => rfl
  | some writes =>
      dsimp only
      split_ifs <;> rfl

theorem glCall_consulting {call : GlCall} {noted : StateCall} (asks : call.consulting = some noted) :
    mirrors.glCall current call = (mirrors.cachedCall current noted).1 := by
  cases call with
  | state call =>
      simp only [GlCall.consulting] at asks
      split at asks
      next consults =>
        cases asks
        exact congrArg Prod.fst (calls_of_consults consults).1
      next => cases asks
  | vertex call =>
      cases call with
      | glBindVertexArray array =>
          cases asks
          rfl
      | _ => cases asks

theorem consulted_settled (settled : mirrors.stubNewCtx = 0) :
    mirrors.shadowStateForCurrentCtx current =
      mirrors.setShadow current (mirrors.shadowCtx current).described := by
  simp only [shadowStateForCurrentCtx, resetNewCtx, settled, lt_irrefl, if_false]
  unfold StubShadowState.described
  split_ifs with initialised
  · rw [setShadow, Function.update_eq_self]
  · rfl

theorem setStubCtx_self (mirrors : StubMirrors) (current : Ctx) :
    mirrors.setStubCtx current (mirrors.stubCtx current) = mirrors := by
  rw [setStubCtx, Function.update_eq_self]

/-- Only the one capability is noted outside the shadow, and to enable it alone
is more than a new context has. -/
theorem notePrimitiveRestart_eq (current : Ctx) (call : StateCall) :
    ∃ change : GLContextState → GLContextState,
      (∀ mirrors : StubMirrors, mirrors.notePrimitiveRestart current call =
        mirrors.setStubCtx current (change (mirrors.stubCtx current))) ∧
      (call ≠ .glEnable glPrimitiveRestartFixedIndex → change .zero = .zero) := by
  have nothing : ∃ change : GLContextState → GLContextState,
      (∀ mirrors : StubMirrors, mirrors =
        mirrors.setStubCtx current (change (mirrors.stubCtx current))) ∧
      (call ≠ .glEnable glPrimitiveRestartFixedIndex → change .zero = .zero) :=
    ⟨id, fun mirrors => (mirrors.setStubCtx_self current).symm, fun _ => rfl⟩
  cases call with
  | glEnable cap =>
      by_cases restart : cap = glPrimitiveRestartFixedIndex
      · subst restart
        exact ⟨fun state => { state with primitiveRestart := true }, fun _ => rfl,
          fun other => absurd rfl other⟩
      · simpa only [notePrimitiveRestart, if_neg restart] using nothing
  | glDisable cap =>
      by_cases restart : cap = glPrimitiveRestartFixedIndex
      · subst restart
        exact ⟨fun state => { state with primitiveRestart := false }, fun _ => rfl, fun _ => rfl⟩
      · simpa only [notePrimitiveRestart, if_neg restart] using nothing
  | _ => exact nothing

theorem noteCurrentVao_eq (current : Ctx) (call : StateCall) :
    ∃ change : GLContextState → GLContextState, ∀ mirrors : StubMirrors,
      mirrors.noteCurrentVao current call =
        mirrors.setStubCtx current (change (mirrors.stubCtx current)) := by
  cases call with
  | glBindVertexArray array => exact ⟨fun state => { state with currentVao := array }, fun _ => rfl⟩
  | _ => exact ⟨id, fun mirrors => (mirrors.setStubCtx_self current).symm⟩

theorem forget_setShadow (apart : idx ≠ current) (shadow : StubShadowState) :
    (mirrors.forget idx).setShadow current shadow = (mirrors.setShadow current shadow).forget idx := by
  simp only [setShadow, forget, mk.injEq, and_true]
  funext ctx
  simp only [Function.update_apply]
  by_cases here : ctx = current
  · simp [here, apart]
  · simp [here]

theorem cachedAfter_forget (apart : idx ≠ current) (call : StateCall) :
    cachedAfter (mirrors.forget idx) current call = (cachedAfter mirrors current call).forget idx := by
  have seen : (mirrors.forget idx).shadowCtx current = mirrors.shadowCtx current := if_neg apart
  obtain ⟨change, noted⟩ := noteCurrentVao_eq current call
  simp only [cachedAfter, seen]
  cases cachedSlots (mirrors.shadowCtx current) call with
  | none => rfl
  | some writes =>
      dsimp only
      split_ifs
      · rfl
      · rw [noted, noted, forget_setShadow apart, forget_stubCtx, if_neg apart,
          forget_setStubCtx apart]

/-- With nothing left to reset, a call in another context is made before or
after a reset. -/
theorem cachedCall_forget (apart : idx ≠ current) (settled : mirrors.stubNewCtx = 0)
    (call : StateCall) :
    ((mirrors.forget idx).cachedCall current call).1 =
      (mirrors.cachedCall current call).1.forget idx := by
  obtain ⟨change, noted, -⟩ := notePrimitiveRestart_eq current call
  have seen : (mirrors.forget idx).stubCtx current = mirrors.stubCtx current := if_neg apart
  rw [cachedCall_fst, cachedCall_fst, noted, noted, seen, forget_setStubCtx apart,
    consulted_settled (by rfl), consulted_settled (by exact settled), forget_setShadow apart,
    cachedAfter_forget apart]
  congr 3
  exact congrArg StubShadowState.described (if_neg apart)

theorem glCall_forget_other {call : GlCall} (apart : idx ≠ current)
    (settled : mirrors.stubNewCtx = 0) :
    (mirrors.forget idx).glCall current call = (mirrors.glCall current call).forget idx := by
  cases asks : call.consulting with
  | none => exact glCall_forget asks fun same => absurd same apart
  | some noted =>
      rw [glCall_consulting asks, glCall_consulting asks]
      exact cachedCall_forget apart settled noted

/-! ## Shadows that are not initialised -/

theorem described_of_initialised {shadow : StubShadowState} (marked : shadow.initialised = true) :
    shadow.described = shadow :=
  if_pos marked

theorem described_initialised (shadow : StubShadowState) : shadow.described.initialised = true := by
  unfold StubShadowState.described
  cases marked : shadow.initialised with
  | true => exact marked
  | false => rfl

theorem described_described (shadow : StubShadowState) :
    shadow.described.described = shadow.described :=
  described_of_initialised (described_initialised shadow)

theorem described_setShadow (mirrors : StubMirrors) (current : Ctx) (shadow : StubShadowState) :
    (mirrors.setShadow current shadow).described =
      mirrors.described.setShadow current shadow.described := by
  simp only [setShadow, described, mk.injEq, and_true]
  funext ctx
  simp only [Function.update_apply]
  split_ifs <;> rfl

theorem cachedAfter_described (marked : (mirrors.shadowCtx current).initialised = true)
    (call : StateCall) :
    cachedAfter mirrors.described current call = (cachedAfter mirrors current call).described := by
  have seen : mirrors.described.shadowCtx current = mirrors.shadowCtx current :=
    described_of_initialised marked
  obtain ⟨change, noted⟩ := noteCurrentVao_eq current call
  simp only [cachedAfter, seen]
  cases cachedSlots (mirrors.shadowCtx current) call with
  | none => rfl
  | some writes =>
      have kept : ((mirrors.shadowCtx current).assign writes).described =
          (mirrors.shadowCtx current).assign writes := described_of_initialised marked
      dsimp only
      split_ifs
      · rfl
      · rw [noted, noted]
        have set := mirrors.described_setShadow current ((mirrors.shadowCtx current).assign writes)
        rw [kept] at set
        rw [← set]
        rfl

theorem unbind_described (kind : ObjectKind) (names : List UInt32) :
    mirrors.described.shadowInvalidateAll
        (StubShadowState.invalidate kind (StubShadowState.unbound kind)) names =
      (mirrors.shadowInvalidateAll
        (StubShadowState.invalidate kind (StubShadowState.unbound kind)) names).described := by
  rw [shadowInvalidateAll_eq, shadowInvalidateAll_eq]
  simp only [described, StubShadowState.described_unbind]

theorem glDeleteBuffers_described (buffers : List UInt32) :
    mirrors.described.glDeleteBuffers current buffers =
      (mirrors.glDeleteBuffers current buffers).described := by
  have one (mirrors : StubMirrors) (buffer : UInt32) :
      mirrors.described.stubGlStateInvalidateBuffer current buffer =
        (mirrors.stubGlStateInvalidateBuffer current buffer).described := by
    unfold stubGlStateInvalidateBuffer
    split_ifs <;> rfl
  unfold glDeleteBuffers
  induction buffers generalizing mirrors with
  | nil => rfl
  | cons buffer rest ih => rw [List.foldl_cons, List.foldl_cons, one, ih]

theorem stateCall_described {call : StateCall} (plain : consultsShadow call = false) :
    (mirrors.described.stateCall current call).1 = (mirrors.stateCall current call).1.described := by
  cases call with
  | glDeleteTextures names => exact unbind_described .texture names
  | glDeleteFramebuffers names => exact unbind_described .framebuffer names
  | glDeleteVertexArrays names => exact unbind_described .vertexArray names
  | glDeleteSamplers names => exact unbind_described .sampler names
  | glDeleteBuffers buffers => exact glDeleteBuffers_described buffers
  | _ => first | rfl | cases plain

theorem vertexCall_described {call : VertexCall}
    (plain : (GlCall.vertex call).consulting = none) :
    (mirrors.described.vertexCall current call).1 =
      (mirrors.vertexCall current call).1.described := by
  cases call with
  | glBindVertexArray array => cases plain
  | glDeleteVertexArrays arrays => exact unbind_described .vertexArray arrays
  | glBindBuffer target buffer =>
      have bound : mirrors.described.boundBuffer current target =
          mirrors.boundBuffer current target := rfl
      simp only [vertexCall, glBindBuffer, setBoundBuffer, bound]
      split_ifs
      · rfl
      · rfl
      · cases bufferSlot target with
        | none => rfl
        | some slot => rfl
  | glBindBufferRange target index buffer offset size mapped =>
      by_cases below : target = 0x8A11 ∧ index.toNat < bufrangeCacheSlots
      · simp only [vertexCall, glBindBufferRange, dif_pos below]
        rfl
      · simp only [vertexCall, glBindBufferRange, dif_neg below]
  | glDeleteBuffers buffers => exact glDeleteBuffers_described buffers
  | glDrawElements indices lastVertex place =>
      have bound : mirrors.described.boundBuffer current glElementArrayBuffer =
          mirrors.boundBuffer current glElementArrayBuffer := rfl
      simp only [vertexCall, glDrawElements, bound]
      split_ifs <;> rfl
  | _ => rfl

/-- A call makes no difference between a shadow that is not initialised and the
one that it will be. -/
theorem glCall_described (settled : mirrors.stubNewCtx = 0) (call : GlCall) :
    mirrors.described.glCall current call = (mirrors.glCall current call).described := by
  cases asks : call.consulting with
  | none =>
      cases call with
      | state call => exact stateCall_described (by simpa [GlCall.consulting] using asks)
      | vertex call => exact vertexCall_described asks
  | some noted =>
      obtain ⟨change, restart, -⟩ := notePrimitiveRestart_eq current noted
      rw [glCall_consulting asks, glCall_consulting asks, cachedCall_fst, cachedCall_fst, restart,
        restart, consulted_settled (by exact settled), consulted_settled (by exact settled),
        ← cachedAfter_described, described_setShadow]
      · rfl
      · simp only [setShadow, Function.update_self]
        exact described_initialised _

/-! ## A reset that comes late -/

theorem forget_forget : (mirrors.forget idx).forget idx = mirrors.forget idx := by
  simp only [forget, mk.injEq, true_and, and_true]
  refine ⟨funext fun ctx => ?_, funext fun ctx => ?_, funext fun ctx => funext fun slot => ?_⟩
  · split_ifs <;> rfl
  · split_ifs <;> rfl
  · split_ifs <;> rfl

theorem settled_stubNewCtx (mirrors : StubMirrors) : mirrors.settled.stubNewCtx = 0 := by
  unfold settled
  split_ifs with pending
  · rfl
  · exact Nat.eq_zero_of_not_pos pending

theorem settled_of_none (none : mirrors.stubNewCtx = 0) : mirrors.settled = mirrors :=
  if_neg (by omega)

theorem settled_of_pending (pending : 0 < mirrors.stubNewCtx) :
    mirrors.settled = mirrors.forget mirrors.stubNewCtx :=
  if_pos pending

/-- A reset leaves a context clear, and a clear context as it is. -/
theorem clear_forget (mirrors : StubMirrors) (current : Ctx) :
    (mirrors.forget current).Clear current := by
  refine ⟨?_, if_pos rfl, fun slot => ?_⟩
  · simp only [forget, if_true]
    rfl
  · simp [forget]

theorem Clear.forget_described (clear : mirrors.Clear current) :
    (mirrors.forget current).described = { mirrors.described with stubNewCtx := 0 } := by
  simp only [forget, described, mk.injEq, true_and, and_true]
  refine ⟨funext fun ctx => ?_, funext fun ctx => ?_, funext fun ctx => funext fun slot => ?_⟩
  · split_ifs with here
    · rw [← Fin.ext here, clear.shadow]
      rfl
    · rfl
  · split_ifs with here
    · rw [← Fin.ext here, clear.stubCtx]
    · rfl
  · split_ifs with here
    · rw [← Fin.ext here]
      exact entry_unbound (clear.cache slot)
    · rfl

theorem Clear.forget_setShadow (clear : mirrors.Clear current) (settled : mirrors.stubNewCtx = 0)
    (shadow : StubShadowState) :
    (mirrors.forget current).setShadow current shadow = mirrors.setShadow current shadow := by
  simp only [forget, setShadow, mk.injEq, true_and]
  refine ⟨funext fun ctx => ?_, funext fun ctx => ?_, funext fun ctx => funext fun slot => ?_,
    settled.symm⟩
  · by_cases here : ctx = current
    · simp [here]
    · have apart : ¬ (current : Nat) = ctx := fun same => here (Fin.ext same.symm)
      simp [here, apart]
  · split_ifs with here
    · rw [← Fin.ext here, clear.stubCtx]
    · rfl
  · split_ifs with here
    · rw [← Fin.ext here]
      exact entry_unbound (clear.cache slot)
    · rfl

theorem consulted_pending (pending : 0 < mirrors.stubNewCtx) :
    mirrors.shadowStateForCurrentCtx current =
      ((mirrors.forget mirrors.stubNewCtx).forget current).setShadow current .init := by
  have reset : mirrors.resetNewCtx current =
      (mirrors.forget mirrors.stubNewCtx).forget current := by
    simp only [resetNewCtx, if_pos pending, stubContextStateReset_eq]
    by_cases other : mirrors.stubNewCtx ≠ current
    · rw [if_pos other]
      rfl
    · rw [if_neg other, ← not_ne_iff.mp other, forget_forget]
      rfl
  have zero : ((mirrors.forget mirrors.stubNewCtx).forget current).shadowCtx current = .zero :=
    if_pos rfl
  simp only [shadowStateForCurrentCtx, reset, zero]
  rfl

/-- A reset in time is one that was made at once. -/
theorem consulted_in_time (pending : 0 < mirrors.stubNewCtx)
    (ready : mirrors.stubNewCtx ≠ current → mirrors.Clear current) :
    mirrors.settled.Clear current ∧
      mirrors.settled.shadowStateForCurrentCtx current =
        mirrors.shadowStateForCurrentCtx current := by
  have clear : (mirrors.forget mirrors.stubNewCtx).Clear current := by
    by_cases own : mirrors.stubNewCtx = current
    · rw [own]
      exact mirrors.clear_forget current
    · obtain ⟨shadow, stubCtx, cache⟩ := ready own
      refine ⟨?_, (if_neg own).trans stubCtx, fun slot => ?_⟩
      · simpa only [forget, if_neg own] using shadow
      · simpa only [forget, if_neg own] using cache slot
  rw [settled_of_pending pending]
  refine ⟨clear, ?_⟩
  rw [consulted_settled (by rfl), clear.shadow, consulted_pending pending,
    clear.forget_setShadow (by rfl)]

theorem noted_in_time (pending : 0 < mirrors.stubNewCtx)
    (ready : mirrors.stubNewCtx ≠ current → mirrors.Clear current) {call : StateCall}
    (plain : call ≠ .glEnable glPrimitiveRestartFixedIndex) :
    (mirrors.settled.notePrimitiveRestart current call).shadowStateForCurrentCtx current =
      (mirrors.notePrimitiveRestart current call).shadowStateForCurrentCtx current := by
  obtain ⟨clear, same⟩ := consulted_in_time pending ready
  obtain ⟨change, noted, zero⟩ := notePrimitiveRestart_eq current call
  have kept : mirrors.settled.notePrimitiveRestart current call = mirrors.settled := by
    rw [noted, clear.stubCtx, zero plain, ← clear.stubCtx, setStubCtx_self]
  -- What is noted first is lost in the reset.
  have lost (state : GLContextState) :
      ((mirrors.setStubCtx current state).forget mirrors.stubNewCtx).forget current =
        (mirrors.forget mirrors.stubNewCtx).forget current := by
    simp only [setStubCtx, forget, mk.injEq, true_and, and_true]
    funext ctx
    by_cases here : ctx = current
    · simp [here]
    · simp [here]
  rw [kept, same, consulted_pending pending, noted, consulted_pending (by exact pending)]
  exact congrArg (fun after => setShadow after current .init) (lost _).symm

theorem cachedAfter_stubNewCtx (mirrors : StubMirrors) (current : Ctx) (call : StateCall) :
    (cachedAfter mirrors current call).stubNewCtx = mirrors.stubNewCtx := by
  obtain ⟨change, noted⟩ := noteCurrentVao_eq current call
  simp only [cachedAfter]
  split
  · rfl
  · split_ifs
    · rfl
    · rw [noted]
      rfl

theorem glCall_stubNewCtx (mirrors : StubMirrors) (current : Ctx) (call : GlCall) :
    (mirrors.glCall current call).stubNewCtx =
      if call.consulting.isSome then 0 else mirrors.stubNewCtx := by
  cases asks : call.consulting with
  | some noted =>
      rw [glCall_consulting asks, cachedCall_fst, cachedAfter_stubNewCtx]
      exact (ready_of_consulted _ current).1
  | none =>
      cases call with
      | vertex call =>
          refine (vertexCall_stubNewCtx call).trans ?_
          cases call <;> first | rfl | cases asks
      | state call =>
          have plain : consultsShadow call = false := by simpa [GlCall.consulting] using asks
          cases call with
          | glDeleteTextures | glDeleteFramebuffers | glDeleteVertexArrays | glDeleteSamplers =>
              exact (shadowInvalidateAll_stubCtx _ _).2
          | glDeleteBuffers buffers => exact (glDeleteBuffers_shadow mirrors current buffers).2
          | _ => first | rfl | cases plain

theorem glCall_settled {call : GlCall}
    (inTime : 0 < mirrors.stubNewCtx →
      match call.consulting with
      | some noted =>
          (mirrors.stubNewCtx ≠ current → mirrors.Clear current) ∧
            noted ≠ .glEnable glPrimitiveRestartFixedIndex
      | none =>
          mirrors.stubNewCtx = current →
            call.keepsZero = true ∧ (call.elidable = true → mirrors.Clear current)) :
    mirrors.settled.glCall current call = (mirrors.glCall current call).settled := by
  have after := mirrors.glCall_stubNewCtx current call
  by_cases pending : 0 < mirrors.stubNewCtx
  · have inTime := inTime pending
    cases asks : call.consulting with
    | none =>
        rw [asks] at after inTime
        have waits : (mirrors.glCall current call).stubNewCtx = mirrors.stubNewCtx := after
        rw [settled_of_pending pending, settled_of_pending (by omega), waits]
        exact glCall_forget asks inTime
    | some noted =>
        rw [asks] at after inTime
        rw [settled_of_none after, glCall_consulting asks, glCall_consulting asks, cachedCall_fst,
          cachedCall_fst, noted_in_time pending inTime.1 inTime.2]
  · have none : mirrors.stubNewCtx = 0 := by omega
    have none' : (mirrors.glCall current call).stubNewCtx = 0 := by
      rw [after, none, ite_self]
    rw [settled_of_none none, settled_of_none none']

/-! ## The buffer bindings of the others -/

theorem glCall_stubGlState (call : GlCall) {ctx : Ctx} (apart : ctx ≠ current) :
    (mirrors.glCall current call).stubGlState ctx = mirrors.stubGlState ctx := by
  have deleted (buffers : List UInt32) :
      (mirrors.glDeleteBuffers current buffers).stubGlState ctx = mirrors.stubGlState ctx := by
    unfold glDeleteBuffers
    induction buffers generalizing mirrors with
    | nil => rfl
    | cons buffer rest ih =>
        rw [List.foldl_cons, ih]
        unfold stubGlStateInvalidateBuffer
        split_ifs
        · rfl
        · exact Function.update_of_ne apart _ _
  cases asks : call.consulting with
  | some noted =>
      obtain ⟨change, restart, -⟩ := notePrimitiveRestart_eq current noted
      have after (consulted : StubMirrors) :
          (cachedAfter consulted current noted).stubGlState = consulted.stubGlState := by
        obtain ⟨change, vao⟩ := noteCurrentVao_eq current noted
        simp only [cachedAfter]
        split
        · rfl
        · split_ifs
          · rfl
          · rw [vao]
            rfl
      rw [glCall_consulting asks, cachedCall_fst, after, stubGlState_consulted, restart]
      rfl
  | none =>
      cases call with
      | vertex call =>
          refine (vertexCall_stubGlState call ctx).trans ?_
          cases call with
          | glBindBuffer target buffer => exact if_neg apart
          | glDeleteBuffers buffers => exact deleted buffers
          | _ => rfl
      | state call =>
          have plain : consultsShadow call = false := by simpa [GlCall.consulting] using asks
          cases call with
          | glDeleteTextures | glDeleteFramebuffers | glDeleteVertexArrays | glDeleteSamplers =>
              exact congrFun (shadowInvalidateAll_stubGlState _ _) ctx
          | glDeleteBuffers buffers => exact deleted buffers
          | _ => first | rfl | cases plain

/-- A context that is as it was created stays so while others make calls. -/
theorem Initial.glCall {ctx : Ctx} (initial : mirrors.Initial ctx) (settled : mirrors.stubNewCtx = 0)
    (call : GlCall) (apart : ctx ≠ current) : (mirrors.glCall current call).Initial ctx := by
  have after : (mirrors.glCall current call).stubNewCtx = 0 := by
    rw [glCall_stubNewCtx, settled, ite_self]
  have same : ((mirrors.glCall current call).forget ctx).described =
      (mirrors.glCall current call).described := by
    rw [← glCall_forget_other (Fin.val_ne_of_ne apart) settled, ← glCall_described (by rfl),
      initial.toClear.forget_described, ← glCall_described settled]
    congr 1
    rw [← settled]
    rfl
  have clear := (mirrors.glCall current call).clear_forget ctx
  refine ⟨⟨?_, ?_, fun slot => ?_⟩, (glCall_stubGlState call apart).trans initial.glState⟩
  · have shadow := congrFun (congrArg shadowCtx same) ctx
    exact shadow.symm.trans clear.shadow
  · have stubCtx := congrFun (congrArg StubMirrors.stubCtx same) ctx
    exact stubCtx.symm.trans clear.stubCtx
  · have cache := congrFun (congrFun (congrArg bufrangeCache same) ctx) slot
    exact (congrArg BufferRangeCacheEntry.buffer cache.symm).trans (clear.cache slot)

end StubMirrors

end GlesBridge.Stub
