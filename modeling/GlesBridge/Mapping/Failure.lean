import GlesBridge.Mapping.Agreement

namespace GlesBridge.Mapping

open GlesBridge.Gl GlesBridge.Shared GlesBridge.Stub GlesBridge.Proxy GlesBridge.Systems

/-! What a map that returns no pointer leaves behind. -/

/-- The pointer that `glMapBufferRange` returns when the proxy has caught up. -/
def mapReturns (current : Ctx) (state : MapStub × MapProxy) : MapCall → Option UInt64
  | .glMapBufferRange target offset length access answer malloc =>
      let buffer := state.1.mirrors.boundBuffer current target
      match state.1.reused target buffer offset length access with
      | some id => some (state.1.stubMaps id).ptr
      | none =>
          let map := state.2.hGlMapBufferRange target offset length access buffer answer
          some (if map.2.result = 0 ∨ malloc = 0 then 0 else malloc)
  | _ => none

/-- The stub with its table, its count and its bindings, the table of the proxy,
and what GL has bound and mapped. -/
structure Unchanged (state next : MapStub × MapProxy) : Prop where
  stub : next.1 = state.1
  maps : next.2.maps = state.2.maps
  mapping : next.2.gl.mapping = state.2.gl.mapping
  binding : ∀ target, next.2.gl.binding target = state.2.gl.binding target

/-- The driver maps the buffer, once what is tracked under the target is unmapped. -/
def DriverMaps (proxy : MapProxy) (buffer target answer : UInt32) : Prop :=
  answer ≠ 0 ∧ buffer ≠ 0 ∧ hasBinding target = true ∧
    ((proxy.tracked buffer target).isSome = true ∨ (proxy.gl.mapping buffer).isNone = true)

instance decidableDriverMaps (proxy : MapProxy) (buffer target answer : UInt32) :
    Decidable (DriverMaps proxy buffer target answer) :=
  @instDecidableAnd _ _ instDecidableNot (@instDecidableAnd _ _ instDecidableNot
    (@instDecidableAnd _ _ (instDecidableEqBool ..)
      (@instDecidableOr _ _ (instDecidableEqBool ..) (instDecidableEqBool ..))))

/-- What is tracked is made again as it is, by GL and at its index. -/
def Remade (proxy : MapProxy) (target buffer : UInt32) (offset length : Int64)
    (access answer : UInt32) : Prop :=
  ∃ id, proxy.tracked buffer target = some id ∧ (proxy.clear id).freeId = some id ∧
    proxy.maps id =
      { realPtr := answer, shmOffset := 0, length := length.toInt32, target,
        offset := offset.toInt32, buffer, access } ∧
    proxy.gl.mapping buffer = some ⟨answer, offset.toInt32, length.toInt32⟩

/-- A map that the driver refuses finds nothing tracked; one that it grants finds
an index and memory, or makes again what is there. -/
def Harmless (state : MapStub × MapProxy) (target buffer : UInt32) (offset length : Int64)
    (access answer : UInt32) (malloc : UInt64) : Prop :=
  if DriverMaps state.2 buffer target answer then
    if malloc = 0 then Remade state.2 target buffer offset length access answer
    else (state.2.tracked buffer target).isSome = true ∨ state.2.freeId.isSome = true
  else state.2.tracked buffer target = none

section

variable {stub : MapStub} {proxy : MapProxy} {buffer target access answer : UInt32}
  {offset length : Int64} {malloc : UInt64} {id : MapId}

theorem accepts_iff : Accepts proxy buffer target answer ↔ DriverMaps proxy buffer target answer := by
  refine and_congr_right fun _ => and_congr_right fun nonzero => and_congr_right fun known => ?_
  rcases ready_maps proxy buffer target with ⟨untracked, -, same⟩ | ⟨id, found, -, gone⟩
  · simp [untracked, same]
  · simp [found, gone nonzero known]

/-- GL after a map: the target is bound again to what it was bound to. -/
theorem gl_map :
    (proxy.hGlMapBufferRange target offset length access buffer answer).1.gl =
      let asked := ((ready proxy buffer target).gl.mapBufferRange target offset.toInt32 length.toInt32
        answer).1
      if proxy.gl.binding target ≠ buffer then asked.bindBuffer target (proxy.gl.binding target)
      else asked := by
  have kept (state : MapProxy) (real : UInt32) (length offset : Int32) :
      (state.allocMap real length target buffer access offset).1.gl = state.gl := by
    unfold MapProxy.allocMap
    cases state.freeId with
    | none => rfl
    | some id => rfl
  simp only [MapProxy.hGlMapBufferRange]
  rw [← ready]
  split_ifs
  · rfl
  · rfl
  · exact kept ..
  · exact kept ..

theorem binding_map (other : UInt32) :
    (proxy.hGlMapBufferRange target offset length access buffer answer).1.gl.binding other =
      proxy.gl.binding other := by
  have unmapped (state : MapProxy) :
      (state.unmapTracked buffer target).gl.binding other = state.gl.binding other := by
    unfold MapProxy.unmapTracked
    cases state.tracked buffer target with
    | none => rfl
    | some id => exact binding_unmapBuffer
  have asked : ((ready proxy buffer target).gl.mapBufferRange target offset.toInt32 length.toInt32
      answer).1.binding other = (ready proxy buffer target).gl.binding other := by
    unfold Buffers.mapBufferRange
    split_ifs <;> rfl
  have before : (ready proxy buffer target).gl.binding other =
      (if proxy.gl.binding target ≠ buffer then proxy.bindBuffer target buffer
        else proxy).gl.binding other := unmapped _
  rw [gl_map]
  dsimp only
  by_cases moved : proxy.gl.binding target ≠ buffer
  · rw [if_pos moved, binding_bindBuffer]
    by_cases here : other = target
    · rw [if_pos here, here, Buffers.binding]
      split_ifs <;> rfl
    · rw [if_neg here, asked, before, if_pos moved]
      exact binding_bindBuffer.trans (if_neg here)
  · rw [if_neg moved, asked, before, if_neg moved]

/-- No map changes what a buffer holds. -/
theorem bytes_map (proxy : MapProxy) (target buffer access answer : UInt32) (offset length : Int64) :
    (proxy.hGlMapBufferRange target offset length access buffer answer).1.gl.bytes =
      proxy.gl.bytes := by
  have unmapped (state : MapProxy) :
      (state.unmapTracked buffer target).gl.bytes = state.gl.bytes := by
    unfold MapProxy.unmapTracked
    cases state.tracked buffer target with
    | none => rfl
    | some id =>
        change (state.gl.unmapBuffer target).1.bytes = state.gl.bytes
        unfold Buffers.unmapBuffer
        split_ifs <;> rfl
  have asked : ((ready proxy buffer target).gl.mapBufferRange target offset.toInt32 length.toInt32
      answer).1.bytes = (ready proxy buffer target).gl.bytes := by
    unfold Buffers.mapBufferRange
    split_ifs <;> rfl
  have before : (ready proxy buffer target).gl.bytes =
      (if proxy.gl.binding target ≠ buffer then proxy.bindBuffer target buffer else proxy).gl.bytes :=
    unmapped _
  rw [gl_map]
  dsimp only
  by_cases moved : proxy.gl.binding target ≠ buffer
  · rw [if_pos moved] at before ⊢
    exact asked.trans before
  · rw [if_neg moved] at before ⊢
    exact asked.trans before

theorem tracked_changed (found : proxy.tracked buffer target = some id) {maps : MapId → MapEntry}
    (given : maps id = (proxy.maps id).cleared) : maps ≠ proxy.maps := by
  intro same
  refine (tracked_some found).2.1 ?_
  rw [← same, given]
  rfl

theorem unchanged_iff :
    Unchanged (stub, proxy)
        (stub, (proxy.hGlMapBufferRange target offset length access buffer answer).1) ↔
      (proxy.hGlMapBufferRange target offset length access buffer answer).1.maps = proxy.maps ∧
      (proxy.hGlMapBufferRange target offset length access buffer answer).1.gl.mapping =
        proxy.gl.mapping :=
  ⟨fun same => ⟨same.maps, same.mapping⟩, fun same => ⟨rfl, same.1, same.2, binding_map⟩⟩

theorem refused_unchanged_iff (refused : ¬ DriverMaps proxy buffer target answer) :
    Unchanged (stub, proxy)
        (stub, (proxy.hGlMapBufferRange target offset length access buffer answer).1) ↔
      proxy.tracked buffer target = none := by
  obtain ⟨-, maps, mapping⟩ := map_refused offset length access (accepts_iff.not.mpr refused)
  rw [unchanged_iff, maps, mapping]
  rcases ready_maps proxy buffer target with ⟨untracked, same, kept⟩ | ⟨id, found, cleared, -⟩
  · exact iff_of_true ⟨same, kept⟩ untracked
  · refine iff_of_false (fun same => ?_) (by simp [found])
    refine tracked_changed found ?_ same.1
    rw [cleared, Function.update_self]

/-- Only a mapping of the buffer that was there can be there again. -/
theorem accepted_unchanged_iff (accepts : DriverMaps proxy buffer target answer) :
    Unchanged (stub, proxy)
        (stub, (proxy.hGlMapBufferRange target offset length access buffer answer).1) ↔
      Remade proxy target buffer offset length access answer := by
  obtain ⟨mapping, entered⟩ := map_accepted offset length access (accepts_iff.mpr accepts)
  obtain ⟨pointer, nonzero, known, way⟩ := accepts
  rw [unchanged_iff, mapping]
  rcases ready_maps proxy buffer target with ⟨untracked, same, kept⟩ | ⟨id, found, cleared, gone⟩
  · -- GL had no mapping of the buffer.
    refine iff_of_false (fun unchanged => ?_) (by simp [Remade, untracked])
    have now := congrFun unchanged.2 buffer
    rw [Function.update_self] at now
    simp [untracked, ← now] at way
  · have free : (ready proxy buffer target).freeId = (proxy.clear id).freeId := by
      simp only [MapProxy.freeId, cleared, MapProxy.clear]
    rw [gone nonzero known, Function.update_idem]
    rw [free, cleared] at entered
    cases index : (proxy.clear id).freeId with
    | none =>
        have taken := find_mapIds_none.mp index id (tracked_some found).1
        simp [MapProxy.clear, cleared_realPtr] at taken
    | some first =>
        rw [index] at entered
        rw [entered.2]
        constructor
        · rintro ⟨maps, live⟩
          have here : id = first := by
            by_contra apart
            refine tracked_changed found ?_ maps
            rw [Function.update_of_ne apart, Function.update_self]
          subst here
          refine ⟨id, found, index, ?_, ?_⟩
          · rw [← congrFun maps id, Function.update_self]
          · rw [← congrFun live buffer, Function.update_self]
        · rintro ⟨other, again, same, entry, live⟩
          obtain rfl : id = other := Option.some.inj (found.symm.trans again)
          obtain rfl : first = id := Option.some.inj (index.symm.trans same)
          refine ⟨?_, ?_⟩
          · rw [Function.update_idem, ← entry, Function.update_eq_self]
          · rw [← live, Function.update_eq_self]

/-- The map returns no pointer if GL does not map the buffer, or an index or the
memory for it is missing. -/
theorem accepted_result (offset length : Int64) (access : UInt32)
    (accepts : DriverMaps proxy buffer target answer) :
    (proxy.hGlMapBufferRange target offset length access buffer answer).2.result ≠ 0 ↔
      (proxy.tracked buffer target).isSome = true ∨ proxy.freeId.isSome = true := by
  obtain ⟨-, entered⟩ := map_accepted offset length access (accepts_iff.mpr accepts)
  cases index : (ready proxy buffer target).freeId with
  | some id =>
      rw [index] at entered
      rw [entered.1]
      refine iff_of_true (find_mapIds index).1 ?_
      rcases ready_maps proxy buffer target with ⟨-, same, -⟩ | ⟨other, found, -, -⟩
      · right
        rw [MapProxy.freeId, same] at index
        rw [MapProxy.freeId, index]
        rfl
      · left
        rw [found]
        rfl
  | none =>
      rw [index] at entered
      rw [entered.1]
      refine iff_of_false (fun given => given rfl) ?_
      rcases ready_maps proxy buffer target with ⟨untracked, same, -⟩ | ⟨other, found, cleared, -⟩
      · rw [MapProxy.freeId, same] at index
        simp [untracked, MapProxy.freeId, index]
      · have taken := find_mapIds_none.mp index other (tracked_some found).1
        simp [cleared, cleared_realPtr] at taken

/-- A map that returns no pointer. -/
theorem failure_iff :
    ((proxy.hGlMapBufferRange target offset length access buffer answer).2.result = 0 ∨ malloc = 0 →
        Unchanged (stub, proxy)
          (stub, (proxy.hGlMapBufferRange target offset length access buffer answer).1)) ↔
      Harmless (stub, proxy) target buffer offset length access answer malloc := by
  unfold Harmless
  by_cases accepts : DriverMaps proxy buffer target answer
  · rw [if_pos accepts, accepted_unchanged_iff accepts]
    have given := accepted_result offset length access accepts
    by_cases null : malloc = 0
    · rw [if_pos null]
      exact ⟨fun unchanged => unchanged (.inr null), fun remade _ => remade⟩
    · rw [if_neg null, ← given]
      constructor
      · rintro unchanged zero
        obtain ⟨id, found, -⟩ := unchanged (.inl zero)
        exact given.mpr (.inl (by rw [found]; rfl)) zero
      · rintro nonzero (zero | zero)
        · exact absurd zero nonzero
        · exact absurd zero null
  · rw [if_neg accepts, refused_unchanged_iff accepts]
    have zero := (map_refused offset length access (accepts_iff.not.mpr accepts)).1
    exact ⟨fun unchanged => unchanged (.inl zero), fun untracked _ => untracked⟩

/-! ## Runs -/

/-- A call that returns no pointer leaves everything as it was when the proxy had
caught up. -/
def FailureUnchanged (current : Ctx) (state : Pipeline.Queued MapStub MapProxy MapCommand)
    (input : Option MapCall) : Prop :=
  ∀ call later next, input = some call →
    state.queue.foldlM (mapExchange current).carry state.consumer = some later →
    mapReturns current (state.producer, later) call = some 0 →
    (mapExchange current).queued.step state input = some next →
    Unchanged (state.producer, later) (next.producer, next.consumer)

def MapHarmless (current : Ctx) (state : Pipeline.Queued MapStub MapProxy MapCommand)
    (input : Option MapCall) : Prop :=
  ∀ target offset length access answer malloc later,
    input = some (.glMapBufferRange target offset length access answer malloc) →
    state.queue.foldlM (mapExchange current).carry state.consumer = some later →
    let buffer := state.producer.mirrors.boundBuffer current target
    state.producer.reused target buffer offset length access = none →
    Harmless (state.producer, later) target buffer offset length access answer malloc

variable {current : Ctx}

theorem map_step {consumer later : MapProxy} {queue : List MapCommand}
    (ahead : queue.foldlM (mapExchange current).carry consumer = some later)
    (new : stub.reused target (stub.mirrors.boundBuffer current target) offset length access = none) :
    let outcome := later.hGlMapBufferRange target offset length access
      (stub.mirrors.boundBuffer current target) answer
    (mapExchange current).queued.step ⟨stub, queue, consumer⟩
        (some (.glMapBufferRange target offset length access answer malloc)) =
      some ⟨stub.mapped target (stub.mirrors.boundBuffer current target) offset length access malloc
        outcome.2, [], outcome.1⟩ := by
  have awaits : stub.mapCall current (.glMapBufferRange target offset length access answer malloc) =
      .await (.glMapBufferRange target offset length access (stub.mirrors.boundBuffer current target)
        answer) (stub.mapped target (stub.mirrors.boundBuffer current target) offset length access
          malloc) :=
    if_neg (by rw [new]; exact Bool.false_ne_true)
  rw [Exchange.queued_await ahead (congrArg some awaits)]
  have direct : (mapExchange current).direct.step (stub, later)
      (.glMapBufferRange target offset length access answer malloc) =
        _ := direct_await awaits
  rw [direct]
  rfl

theorem failure_step_iff (state : Pipeline.Queued MapStub MapProxy MapCommand)
    (input : Option MapCall) :
    FailureUnchanged current state input ↔ MapHarmless current state input := by
  obtain ⟨stub, queue, consumer⟩ := state
  constructor
  · rintro unchanged target offset length access answer malloc later rfl ahead buffer new
    refine failure_iff.mp fun null => ?_
    have returns : mapReturns current (stub, later)
        (.glMapBufferRange target offset length access answer malloc) = some 0 := by
      have unmade : stub.reused target (stub.mirrors.boundBuffer current target) offset length access =
          none := new
      simp only [mapReturns, unmade]
      exact congrArg some (if_pos null)
    have left : stub.mapped target buffer offset length access malloc
        (later.hGlMapBufferRange target offset length access buffer answer).2 = stub := if_pos null
    have same := unchanged _ later _ rfl ahead returns (map_step ahead new)
    change Unchanged (stub, later) (stub.mapped target buffer offset length access malloc
      (later.hGlMapBufferRange target offset length access buffer answer).2, _) at same
    rwa [left] at same
  · rintro harmless call later next rfl ahead returns step
    cases call with
    | glMapBufferRange target offset length access answer malloc =>
        cases again : stub.reused target (stub.mirrors.boundBuffer current target) offset length
            access with
        | some id =>
            simp only [mapReturns, again] at returns
            exact absurd (Option.some.inj returns) (reused_some again).2.1
        | none =>
            have failed : (later.hGlMapBufferRange target offset length access
                (stub.mirrors.boundBuffer current target) answer).2.result = 0 ∨ malloc = 0 := by
              simp only [mapReturns, again] at returns
              by_contra given
              rw [if_neg given] at returns
              exact given (.inr (Option.some.inj returns))
            have left : stub.mapped target (stub.mirrors.boundBuffer current target) offset length
                access malloc (later.hGlMapBufferRange target offset length access
                  (stub.mirrors.boundBuffer current target) answer).2 = stub := if_pos failed
            rw [map_step ahead again] at step
            cases step
            change Unchanged (stub, later) (stub.mapped target (stub.mirrors.boundBuffer current target)
              offset length access malloc _, _)
            rw [left]
            exact failure_iff.mpr (harmless _ _ _ _ _ _ later rfl ahead again) failed
    | glBindBuffer | glBufferData | glDeleteBuffers | glUnmapBuffer | store => cases returns

/-- At any pace of the proxy the maps of a run that return no pointer change nothing
exactly if each map of it is harmless. -/
theorem failed_maps_unchanged_iff (state : Pipeline.Queued MapStub MapProxy MapCommand)
    (inputs : List (Option MapCall)) :
    (mapExchange current).queued.Along (FailureUnchanged current) state inputs ↔
      (mapExchange current).queued.Along (MapHarmless current) state inputs :=
  Machine.along_congr failure_step_iff

/-- A mapped buffer is mapped again with a range that the driver refuses. -/
theorem refused_map_unmaps :
    ¬ ∀ inputs : List (Option MapCall),
      (mapExchange 1).queued.Along (FailureUnchanged 1) ⟨.zero, [], .zero⟩ inputs := by
  intro every
  obtain ⟨-, rest⟩ := every [some (.glBindBuffer glArrayBuffer 5),
    some (.glMapBufferRange glArrayBuffer 0 16 glMapWriteBit 4096 8192),
    some (.glMapBufferRange glArrayBuffer 0 4096 glMapWriteBit 0 0)]
  obtain ⟨-, rest⟩ := rest _ rfl
  obtain ⟨unchanged, -⟩ := rest _ rfl
  have same := congrFun (unchanged _ _ _ rfl rfl rfl rfl).mapping 5
  exact absurd same (by decide)

end

end GlesBridge.Mapping
