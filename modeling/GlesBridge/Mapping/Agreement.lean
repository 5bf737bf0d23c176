import GlesBridge.Mapping.Tables

namespace GlesBridge.Mapping

open GlesBridge.Gl GlesBridge.Shared GlesBridge.Stub GlesBridge.Proxy GlesBridge.Systems

/-! The two tables of mappings, and GL, over runs of calls. -/

/-- Both tables have the same mappings, one of a buffer at most, and each is one
that GL has. -/
structure TablesAgree (state : MapStub × MapProxy) : Prop where
  tracked : ∀ id, (state.1.stubMaps id).ptr ≠ 0 ↔ (state.2.maps id).realPtr ≠ 0
  same : ∀ id, (state.1.stubMaps id).ptr ≠ 0 →
    (state.1.stubMaps id).buffer = (state.2.maps id).buffer ∧
    (state.1.stubMaps id).target = (state.2.maps id).target ∧
    (state.1.stubMaps id).offset = (state.2.maps id).offset.toInt64 ∧
    (state.1.stubMaps id).length = (state.2.maps id).length.toInt64 ∧
    (state.1.stubMaps id).access = (state.2.maps id).access
  single : ∀ id other, (state.2.maps id).realPtr ≠ 0 → (state.2.maps other).realPtr ≠ 0 →
    (state.2.maps id).buffer = (state.2.maps other).buffer → id = other
  live : ∀ id, (state.2.maps id).realPtr ≠ 0 →
    ∃ range, state.2.gl.mapping (state.2.maps id).buffer = some range ∧
      range.pointer = (state.2.maps id).realPtr

/-- What the proxy makes of an offset or a length. -/
def narrow (value : Int64) : Int64 := value.toInt32.toInt64

/-- The stub gets memory for a mapping whose range has kept its value in the
proxy; without memory it has the entry that the proxy makes from before. -/
def Entered (stub : MapStub) (proxy : MapProxy) (target buffer : UInt32) (offset length : Int64)
    (access : UInt32) (malloc : UInt64) : Prop :=
  if malloc = 0 then
    stub.reused target buffer (narrow offset) (narrow length) access =
      (ready proxy buffer target).freeId
  else narrow offset = offset ∧ narrow length = length

/-- New contents are not given to a buffer that the tables have. A buffer that
the proxy has under the target is mapped again only with a range that the driver
accepts, and the stub has what the proxy has entered. -/
def KeepsTables (current : Ctx) (state : MapStub × MapProxy) : MapCall → Prop
  | .glBufferData target _ accepted =>
      accepted = true → ∀ id, (state.2.maps id).realPtr ≠ 0 →
        (state.2.maps id).buffer ≠ state.2.gl.binding target
  | .glMapBufferRange target offset length access answer malloc =>
      let buffer := state.1.mirrors.boundBuffer current target
      state.1.reused target buffer offset length access = none →
        ((state.2.tracked buffer target).isSome = true → answer ≠ 0) ∧
        (answer ≠ 0 → buffer ≠ 0 →
          (state.2.tracked buffer target).isSome = true ∨
            (state.2.gl.mapping buffer).isNone = true ∧ state.2.freeId.isSome = true →
          Entered state.1 state.2 target buffer offset length access malloc)
  | _ => True

/-! ## The invariant -/

structure Matched (state : MapStub × MapProxy) : Prop where
  tables : stubTable state.1 = proxyTable state.2
  ids : StubIds state.1
  live : Live state.2

section

variable {current : Ctx} {state next : MapStub × MapProxy} {stub : MapStub} {proxy : MapProxy}
  {id : MapId} {buffer target access answer : UInt32} {offset length : Int64} {malloc : UInt64}
  {call : MapCall}

theorem Matched.agree (matched : Matched state) : TablesAgree state := by
  have tables (id : MapId) := congrFun matched.tables id
  refine ⟨fun id => ?_, fun id mapped => ?_, matched.live.single, matched.live.mapping⟩
  · rw [← stubTable_isSome, tables id, proxyTable_isSome]
  · have here := tables id
    have entry : stubTable state.1 id = some ⟨(state.1.stubMaps id).buffer,
        (state.1.stubMaps id).target, (state.1.stubMaps id).offset, (state.1.stubMaps id).length,
        (state.1.stubMaps id).access⟩ := if_pos mapped
    rw [entry] at here
    have track := (proxyTable_eq_some.mp here.symm).2
    simpa using track

theorem Matched.start : Matched (MapStub.zero, MapProxy.zero) where
  tables := rfl
  ids := ⟨rfl, fun _ mapped => absurd rfl mapped⟩
  live := ⟨rfl, fun _ mapped => absurd rfl mapped, fun _ _ mapped => absurd rfl mapped,
    fun _ mapped => absurd rfl mapped⟩

/-- What leaves the tables and the mappings alone. -/
theorem Matched.frame (matched : Matched (stub, proxy)) {stub' : MapStub} {proxy' : MapProxy}
    (stubMaps : stub'.stubMaps = stub.stubMaps) (maps : proxy'.maps = proxy.maps)
    (mapping : ∀ id, (proxy.maps id).realPtr ≠ 0 →
      proxy'.gl.mapping (proxy.maps id).buffer = proxy.gl.mapping (proxy.maps id).buffer) :
    Matched (stub', proxy') := by
  refine ⟨?_, ⟨?_, ?_⟩, ?_⟩
  · rw [stubTable_congr stubMaps, proxyTable_congr maps]
    exact matched.tables
  · rw [stubMaps]
    exact matched.ids.zero
  · rw [stubMaps]
    exact matched.ids.own
  · refine matched.live.shrink (by rw [maps]; exact matched.live.zero) fun id mapped => ?_
    rw [maps] at mapped ⊢
    exact ⟨rfl, mapping id mapped⟩

/-- Only a target that GL knows has a buffer in the stub. -/
theorem hasBinding_of_bound {mirrors : StubMirrors}
    (bound : mirrors.boundBuffer current target ≠ 0) : hasBinding target = true := by
  unfold StubMirrors.boundBuffer at bound
  unfold hasBinding
  by_cases element : target = glElementArrayBuffer
  · simp [element]
  · rw [if_neg element] at bound
    cases slot : bufferSlot target with
    | none =>
        rw [slot] at bound
        exact absurd rfl bound
    | some slot =>
        have known := bufferSlot_isSome.mp (by rw [slot]; rfl)
        simp [known]

/-! ## Unmapping and deleting -/

theorem Matched.deleteBuffers (matched : Matched (stub, proxy)) (mirrors : StubMirrors)
    (buffers : List UInt32) :
    Matched (buffers.foldl MapStub.deleteMaps { stub with mirrors }, proxy.hGlDeleteBuffers buffers) := by
  have ids : StubIds { stub with mirrors } := ⟨matched.ids.zero, matched.ids.own⟩
  have zero : ({ proxy with gl := proxy.gl.deleteBuffers buffers } : MapProxy).maps 0 = .zero :=
    matched.live.zero
  obtain ⟨stubs, after⟩ := stubTable_foldl_deleteMaps ids buffers
  obtain ⟨proxies, gl, kept⟩ := foldl_deleteMaps zero buffers
  have tables : buffers.foldl Table.remove (stubTable { stub with mirrors }) =
      buffers.foldl Table.remove
        (proxyTable { proxy with gl := proxy.gl.deleteBuffers buffers }) :=
    congrArg (buffers.foldl Table.remove) matched.tables
  refine ⟨stubs.trans (tables.trans proxies.symm), after, ?_⟩
  refine matched.live.shrink ((kept 0 (.inr rfl)).trans zero) fun id mapped => ?_
  have entry := kept id (.inl mapped)
  refine ⟨entry, ?_⟩
  have left := proxyTable_eq_some.mpr ⟨mapped, rfl⟩
  have spared := (Table.foldl_remove_eq_some.mp ((congrFun proxies id).symm.trans left)).2
  change (proxy.hGlDeleteBuffers buffers).maps id = proxy.maps id at entry
  rw [entry] at mapped spared
  have nonzero := (matched.live.named id mapped).1
  have after : (proxy.hGlDeleteBuffers buffers).gl = proxy.gl.deleteBuffers buffers := gl
  rw [after]
  exact (mapping_deleteBuffers nonzero).trans (if_neg spared)

/-- Writing back needs the mapping to be live, and changes only the bytes. -/
theorem writeBack_some (live : Live proxy) (id : MapId) (size : Nat) (data : Nat → UInt8) :
    ∃ after, proxy.writeBack id size data = some after ∧ after.maps = proxy.maps ∧
      after.gl.mapping = proxy.gl.mapping := by
  simp only [MapProxy.writeBack]
  split_ifs with writes
  · obtain ⟨range, found, pointer⟩ := live.mapping id writes.2.1
    simp only [Buffers.store, found, if_pos pointer]
    exact ⟨_, rfl, rfl, rfl⟩
  · exact ⟨_, rfl, rfl, rfl⟩

theorem unmap_some (live : Live proxy) (id : MapId) (target : UInt32) (size : Nat) (data : Nat → UInt8) :
    ∃ after, proxy.hGlUnmapBuffer target id size data = some after ∧
      after.maps = (if id ≠ 0 then Function.update proxy.maps id (proxy.maps id).cleared
        else proxy.maps) ∧
      ∀ name, name ≠ (proxy.maps id).buffer → after.gl.mapping name = proxy.gl.mapping name := by
  obtain ⟨written, wrote, maps, mapping⟩ := writeBack_some live id size data
  simp only [MapProxy.hGlUnmapBuffer, wrote, Option.map_some]
  refine ⟨_, rfl, ?_, fun name other => ?_⟩
  · split_ifs
    · simp only [MapProxy.clear, maps]
    · exact maps
  · have unmapped : ((written.gl.bindBuffer target (written.maps id).buffer).unmapBuffer
        target).1.mapping name = proxy.gl.mapping name := by
      rw [mapping_unmapBuffer, binding_bindBuffer, if_pos rfl, maps]
      refine (if_neg fun here => ?_).trans (congrFun mapping name)
      obtain ⟨same, nonzero⟩ := here
      split_ifs at same
      · exact other same
      · exact nonzero same
    split_ifs
    · exact unmapped
    · exact unmapped

theorem Matched.unmap (matched : Matched (stub, proxy)) (used : id ≠ 0)
    (mapped : (stub.stubMaps id).ptr ≠ 0) (size : Nat) (data : Nat → UInt8) :
    ∃ after, proxy.handleMap (.glUnmapBuffer target (stub.stubMaps id).id size data) =
        some (after, ⟨0, fun _ => 0⟩) ∧ Matched (stub.clear id, after) := by
  have own := matched.ids.own id mapped
  have small : (id : Nat) < 2 ^ 32 := id.isLt.trans (by decide)
  have number : ((stub.stubMaps id).id).toNat = id := by
    rw [own]
    exact UInt32.toNat_ofNat_of_lt' small
  have below : ((stub.stubMaps id).id).toNat < maxMaps := number ▸ id.isLt
  have index : (⟨((stub.stubMaps id).id).toNat, below⟩ : MapId) = id := Fin.ext number
  obtain ⟨after, unmaps, maps, mapping⟩ := unmap_some matched.live id target size data
  rw [if_pos used] at maps
  refine ⟨after, by simp [MapProxy.handleMap, below, index, unmaps], ?_, matched.ids.clear, ?_⟩
  · rw [stubTable_clear, matched.tables, ← proxyTable_clear]
    exact (proxyTable_congr maps).symm
  · have whole : Live ({ proxy with gl := after.gl }.clear id) := by
      refine matched.live.clear fun other apart also => mapping _ fun same => ?_
      have here := ((matched.agree.tracked id).mp mapped)
      exact apart (matched.live.single other id also here same)
    have shape : after = { proxy with gl := after.gl }.clear id := by
      cases after
      simp only [MapProxy.clear, MapProxy.mk.injEq, and_true]
      exact maps
    rw [shape]
    exact whole

/-! ## Mapping -/

theorem ready_live (live : Live proxy) (buffer target : UInt32) :
    Live (ready proxy buffer target) := by
  rcases ready_cases live buffer target with
    ⟨-, maps, mapping⟩ | ⟨id, found, maps, mapping⟩
  · refine live.shrink (by rw [maps]; exact live.zero) fun id mapped => ?_
    rw [maps, mapping]
    exact ⟨rfl, rfl⟩
  · obtain ⟨used, mapped, bound, -⟩ := tracked_some found
    refine live.shrink ?_ fun other also => ?_
    · rw [maps, Function.update_of_ne used.symm, live.zero]
    · rw [maps] at also ⊢
      by_cases here : other = id
      · subst here
        simp [cleared_realPtr] at also
      · rw [Function.update_of_ne here] at also ⊢
        refine ⟨rfl, ?_⟩
        rw [mapping]
        refine Function.update_of_ne (fun same => here ?_) _ _
        exact live.single other id also mapped (same.trans bound.symm)

/-- Where GL maps the buffer, nothing is left of it in the table. -/
theorem ready_apart (live : Live proxy)
    (free : ((ready proxy buffer target).gl.mapping buffer).isNone = true) (id : MapId)
    (mapped : ((ready proxy buffer target).maps id).realPtr ≠ 0) :
    ((ready proxy buffer target).maps id).buffer ≠ buffer := by
  intro same
  obtain ⟨range, mapping, -⟩ := (ready_live live buffer target).mapping id mapped
  rw [same] at mapping
  simp [mapping] at free

theorem ready_table (live : Live proxy)
    (free : ((ready proxy buffer target).gl.mapping buffer).isNone = true) :
    proxyTable (ready proxy buffer target) = (proxyTable proxy).remove buffer := by
  have gone : ∀ id track, proxyTable (ready proxy buffer target) id = some track →
      track.buffer ≠ buffer := by
    intro id track found
    obtain ⟨mapped, rfl⟩ := proxyTable_eq_some.mp found
    exact ready_apart live free id mapped
  rcases ready_cases live buffer target with
    ⟨-, maps, -⟩ | ⟨id, found, maps, -⟩
  · rw [proxyTable_congr maps] at gone ⊢
    exact (Table.remove_eq_self gone).symm
  · obtain ⟨-, mapped, bound, -⟩ := tracked_some found
    have cleared : proxyTable (ready proxy buffer target) =
        Function.update (proxyTable proxy) id none := by
      rw [← proxyTable_clear]
      exact proxyTable_congr maps
    rw [cleared]
    funext other
    by_cases here : other = id
    · subst here
      have entry := proxyTable_eq_some.mpr ⟨mapped, rfl⟩
      simp [Table.remove, entry, bound]
    · rw [Function.update_of_ne here]
      cases found : proxyTable proxy other with
      | none => simp [Table.remove, found]
      | some track =>
          obtain ⟨also, rfl⟩ := proxyTable_eq_some.mp found
          have apart : (proxy.maps other).buffer ≠ buffer := fun same =>
            here (live.single other id also mapped (same.trans bound.symm))
          simp [Table.remove, found, apart]

/-- A buffer that is tracked, or not mapped at all, is what GL can map. -/
theorem accepts_of_known (live : Live proxy) (pointer : answer ≠ 0) (named : buffer ≠ 0)
    (known : hasBinding target = true)
    (free : (proxy.tracked buffer target).isSome = true ∨ (proxy.gl.mapping buffer).isNone = true) :
    Accepts proxy buffer target answer := by
  refine ⟨pointer, named, known, ?_⟩
  rcases ready_cases live buffer target with
    ⟨untracked, -, mapping⟩ | ⟨id, -, -, mapping⟩
  · rw [mapping]
    simpa [untracked] using free
  · rw [mapping, Function.update_self]
    rfl

/-- Giving up an entry leaves an index free. -/
theorem freeId_ready (live : Live proxy) (buffer target : UInt32)
    (free : (proxy.tracked buffer target).isSome = true ∨ proxy.freeId.isSome = true) :
    ∃ id, (ready proxy buffer target).freeId = some id := by
  rw [← Option.isSome_iff_exists]
  rcases ready_cases live buffer target with
    ⟨untracked, maps, -⟩ | ⟨id, found, maps, -⟩
  · simpa [MapProxy.freeId, maps, untracked] using free
  · obtain ⟨used, -⟩ := tracked_some found
    cases full : (ready proxy buffer target).freeId with
    | some free => rfl
    | none =>
        have taken := find_mapIds_none.mp full id used
        simp [maps, cleared_realPtr] at taken

theorem reused_some (found : stub.reused target buffer offset length access = some id) :
    id ≠ 0 ∧ (stub.stubMaps id).ptr ≠ 0 ∧ (stub.stubMaps id).buffer = buffer ∧
      (stub.stubMaps id).target = target ∧ (stub.stubMaps id).offset = offset ∧
      (stub.stubMaps id).length = length ∧ (stub.stubMaps id).access = access := by
  obtain ⟨used, test⟩ := find_mapIds found
  simp only [Bool.and_eq_true, bne_iff_ne, beq_iff_eq] at test
  obtain ⟨⟨⟨⟨⟨mapped, bound⟩, under⟩, start⟩, size⟩, flags⟩ := test
  exact ⟨used, mapped, bound, under, start, size, flags⟩

/-- An entry that is made again is the only one of its buffer. -/
theorem Matched.reentered (matched : Matched (stub, proxy))
    (found : stub.reused target buffer offset length access = some id) :
    stubTable stub = Function.update ((stubTable stub).remove buffer) id
      (some ⟨buffer, target, offset, length, access⟩) := by
  obtain ⟨-, mapped, rfl, rfl, rfl, rfl, rfl⟩ := reused_some found
  funext other
  by_cases here : other = id
  · subst here
    rw [Function.update_self]
    exact if_pos mapped
  · rw [Function.update_of_ne here]
    cases entry : stubTable stub other with
    | none => simp [Table.remove, entry]
    | some track =>
        refine (Table.remove_eq_some.mpr ⟨entry, fun same => here ?_⟩).symm
        have also : (stub.stubMaps other).ptr ≠ 0 := by
          rw [← stubTable_isSome, entry]
          rfl
        have bound : (stub.stubMaps other).buffer = track.buffer := by
          rw [stubTable, if_pos also] at entry
          cases entry
          rfl
        have agree := matched.agree
        refine agree.single other id ((agree.tracked other).mp also) ((agree.tracked id).mp mapped) ?_
        exact ((agree.same other also).1.symm.trans (bound.trans same)).trans
          (agree.same id mapped).1

/-- The stub has what the proxy enters. -/
theorem Matched.map (matched : Matched (stub, proxy)) (known : buffer ≠ 0 → hasBinding target = true)
    (remap : (proxy.tracked buffer target).isSome = true → answer ≠ 0)
    (memory : answer ≠ 0 → buffer ≠ 0 →
      (proxy.tracked buffer target).isSome = true ∨
        (proxy.gl.mapping buffer).isNone = true ∧ proxy.freeId.isSome = true →
      Entered stub proxy target buffer offset length access malloc) :
    Matched
      (stub.mapped target buffer offset length access malloc
        (proxy.hGlMapBufferRange target offset length access buffer answer).2,
      (proxy.hGlMapBufferRange target offset length access buffer answer).1) := by
  have live := matched.live
  have refused (given : (proxy.hGlMapBufferRange target offset length access buffer answer).2.result =
      0) : stub.mapped target buffer offset length access malloc
        (proxy.hGlMapBufferRange target offset length access buffer answer).2 = stub :=
    if_pos (.inl given)
  by_cases accepts : Accepts proxy buffer target answer
  · obtain ⟨mapping, entered⟩ := map_accepted offset length access accepts
    obtain ⟨pointer, named, -, free⟩ := accepts
    cases index : (ready proxy buffer target).freeId with
    | none =>
        -- A tracked buffer leaves an index free, so this one is not.
        rw [index] at entered
        obtain ⟨given, maps⟩ := entered
        rw [refused given]
        rcases ready_cases live buffer target with ⟨-, same, before⟩ | ⟨id, found, -, -⟩
        · refine matched.frame rfl (maps.trans same) fun id mapped => ?_
          have apart := ready_apart live free id (by rwa [same])
          rw [same] at apart
          rw [mapping, before, Function.update_of_ne apart]
        · obtain ⟨id, some⟩ := freeId_ready live buffer target
            (.inl (by rw [found]; rfl))
          rw [index] at some
          cases some
    | some id =>
        rw [index] at entered
        obtain ⟨given, maps⟩ := entered
        obtain ⟨used, -⟩ := find_mapIds index
        have entry : Entered stub proxy target buffer offset length access malloc := by
          refine memory pointer named ?_
          rcases ready_cases live buffer target with ⟨-, same, before⟩ | ⟨other, found, -, -⟩
          · refine .inr ⟨by rwa [before] at free, ?_⟩
            have again : proxy.freeId = some id := by
              rw [← index, MapProxy.freeId, MapProxy.freeId, same]
            rw [again]
            rfl
          · exact .inl (by rw [found]; rfl)
        have after := (ready_live live buffer target).enter used maps mapping
          ⟨named, known named⟩ (ready_apart live free)
        have tracks := proxyTable_enter maps pointer
        rw [ready_table live free, ← matched.tables] at tracks
        unfold Entered at entry
        by_cases null : malloc = 0
        · rw [if_pos null, index] at entry
          have same : stub.mapped target buffer offset length access malloc
              (proxy.hGlMapBufferRange target offset length access buffer answer).2 = stub :=
            if_pos (.inr null)
          rw [same]
          exact ⟨(matched.reentered entry).trans tracks.symm, matched.ids, after⟩
        · rw [if_neg null] at entry
          obtain ⟨table, ids⟩ := stubTable_mapped matched.ids target buffer access offset length
            (by rw [given]; exact used :
              (proxy.hGlMapBufferRange target offset length access buffer answer).2.result ≠ 0)
            null
          obtain ⟨start, size⟩ := entry
          unfold narrow at start size
          rw [start, size] at tracks
          exact ⟨by rw [table, given, tracks], ids, after⟩
  · obtain ⟨given, maps, mapping⟩ := map_refused offset length access accepts
    rw [refused given]
    rcases ready_cases live buffer target with ⟨-, same, before⟩ | ⟨id, found, -, -⟩
    · exact matched.frame rfl (maps.trans same) fun id mapped => by rw [mapping, before]
    · -- What is tracked is unmapped, and the driver takes the new range.
      obtain ⟨-, mapped, rfl, rfl⟩ := tracked_some found
      have tracked : (proxy.tracked (proxy.maps id).buffer (proxy.maps id).target).isSome = true := by
        rw [found]
        rfl
      obtain ⟨named, known⟩ := live.named id mapped
      exact absurd (accepts_of_known live (remap tracked) named known (.inl tracked)) accepts

/-! ## One call -/

theorem direct_post {commands : List MapCommand} (posts : state.1.mapCall current call = .post stub commands) :
    (mapExchange current).direct.step state call =
      (commands.foldlM (mapExchange current).carry state.2).map fun proxy => (stub, proxy) := by
  simp [Exchange.direct, mapExchange, posts, Exchange.finish]

theorem direct_await {command : MapCommand} {resume : MapAnswer → MapStub}
    (awaits : state.1.mapCall current call = .await command resume) :
    (mapExchange current).direct.step state call =
      (state.2.handleMap command).map fun served => (resume served.2, served.1) := by
  simp [Exchange.direct, mapExchange, awaits, Exchange.finish]

/-- A call whose conditions are met keeps the tables matched. -/
theorem Matched.step (matched : Matched state) (keeps : KeepsTables current state call) :
    ∃ next, (mapExchange current).direct.step state call = some next ∧ Matched next := by
  obtain ⟨stub, proxy⟩ := state
  cases call with
  | glBindBuffer target buffer =>
      have posts : stub.mapCall current (.glBindBuffer target buffer) =
          .post { stub with mirrors := (stub.mirrors.glBindBuffer current target buffer).1 }
            (if (stub.mirrors.glBindBuffer current target buffer).2 = [] then []
              else [.glBindBuffer target buffer]) := rfl
      rw [direct_post posts]
      by_cases sent : (stub.mirrors.glBindBuffer current target buffer).2 = []
      · rw [if_pos sent]
        exact ⟨_, rfl, matched.frame rfl rfl fun _ _ => rfl⟩
      · rw [if_neg sent]
        exact ⟨_, rfl, matched.frame rfl rfl fun _ _ => rfl⟩
  | glBufferData target contents accepted =>
      rw [direct_post rfl]
      refine ⟨_, rfl, matched.frame rfl rfl fun id mapped => ?_⟩
      refine (mapping_bufferData (matched.live.named id mapped).1).trans (if_neg fun taken => ?_)
      exact keeps taken.1 id mapped taken.2
  | glDeleteBuffers buffers =>
      rw [direct_post rfl]
      exact ⟨_, rfl, matched.deleteBuffers _ buffers⟩
  | glMapBufferRange target offset length access answer malloc =>
      cases again : stub.reused target (stub.mirrors.boundBuffer current target) offset length access with
      | some id =>
          have posts : stub.mapCall current
              (.glMapBufferRange target offset length access answer malloc) = .post stub [] :=
            if_pos (by rw [again]; rfl)
          rw [direct_post posts]
          exact ⟨_, rfl, matched⟩
      | none =>
          have awaits : stub.mapCall current
              (.glMapBufferRange target offset length access answer malloc) =
                .await (.glMapBufferRange target offset length access
                  (stub.mirrors.boundBuffer current target) answer)
                  (stub.mapped target (stub.mirrors.boundBuffer current target) offset length access
                    malloc) :=
            if_neg (by rw [again]; exact Bool.false_ne_true)
          rw [direct_await awaits]
          obtain ⟨remap, memory⟩ := keeps again
          exact ⟨_, rfl, matched.map hasBinding_of_bound remap memory⟩
  | glUnmapBuffer target =>
      cases found : stub.mappingOf (stub.mirrors.boundBuffer current target) with
      | some id =>
          obtain ⟨used, test⟩ := find_mapIds found
          have mapped : (stub.stubMaps id).ptr ≠ 0 := by simpa using (Bool.and_eq_true_iff.mp test).1
          have awaits : stub.mapCall current (.glUnmapBuffer target) =
              .await (.glUnmapBuffer target (stub.stubMaps id).id (stub.unmapSize id)
                (stub.memory (stub.stubMaps id).ptr)) fun _ => stub.clear id := by
            simp only [MapStub.mapCall, MapStub.glUnmapBuffer, found]
          obtain ⟨after, serves, kept⟩ := matched.unmap used mapped (stub.unmapSize id)
            (stub.memory (stub.stubMaps id).ptr)
          rw [direct_await awaits, serves]
          exact ⟨_, rfl, kept⟩
      | none =>
          have awaits : stub.mapCall current (.glUnmapBuffer target) =
              .await (.glUnmapBuffer target 0 0 fun _ => 0) fun _ => stub := by
            simp only [MapStub.mapCall, MapStub.glUnmapBuffer, found]
          obtain ⟨after, unmaps, maps, mapping⟩ := unmap_some matched.live 0 target 0 fun _ => 0
          rw [direct_await awaits]
          refine ⟨(stub, after), by simp [MapProxy.handleMap, unmaps], ?_⟩
          refine matched.frame rfl maps fun id mapped => mapping _ ?_
          rw [matched.live.zero]
          exact (matched.live.named id mapped).1
  | store ptr place byte =>
      rw [direct_post rfl]
      exact ⟨_, rfl, matched.frame rfl rfl fun _ _ => rfl⟩

/-- A tracked buffer that the driver does not map again is lost to the proxy only. -/
theorem Matched.remapped (matched : Matched (stub, proxy))
    (agree : TablesAgree
      (stub.mapped target buffer offset length access malloc
        (proxy.hGlMapBufferRange target offset length access buffer answer).2,
      (proxy.hGlMapBufferRange target offset length access buffer answer).1))
    (tracked : (proxy.tracked buffer target).isSome = true) : answer ≠ 0 := by
  intro null
  obtain ⟨given, maps, -⟩ := map_refused offset length access
    (fun accepts => accepts.1 null : ¬ Accepts proxy buffer target answer)
  rcases ready_cases matched.live buffer target with ⟨untracked, -, -⟩ | ⟨id, found, after, -⟩
  · simp [untracked] at tracked
  · have lost := (agree.tracked id).mp
    have same : stub.mapped target buffer offset length access malloc
        (proxy.hGlMapBufferRange target offset length access buffer answer).2 = stub :=
      if_pos (.inl given)
    simp only [same, maps, after, Function.update_self, cleared_realPtr] at lost
    exact lost ((matched.agree.tracked id).mpr (tracked_some found).2.1) rfl

/-- What the proxy enters is what the stub has then. -/
theorem Matched.entered (matched : Matched (stub, proxy))
    (known : buffer ≠ 0 → hasBinding target = true)
    (agree : TablesAgree
      (stub.mapped target buffer offset length access malloc
        (proxy.hGlMapBufferRange target offset length access buffer answer).2,
      (proxy.hGlMapBufferRange target offset length access buffer answer).1))
    (pointer : answer ≠ 0) (named : buffer ≠ 0)
    (way : (proxy.tracked buffer target).isSome = true ∨
      (proxy.gl.mapping buffer).isNone = true ∧ proxy.freeId.isSome = true) :
    Entered stub proxy target buffer offset length access malloc := by
  have accepts : Accepts proxy buffer target answer :=
    accepts_of_known matched.live pointer named (known named) (way.imp_right And.left)
  obtain ⟨id, free⟩ := freeId_ready matched.live buffer target (way.imp_right And.right)
  obtain ⟨-, entered⟩ := map_accepted offset length access accepts
  rw [free] at entered
  obtain ⟨given, maps⟩ := entered
  have used := (find_mapIds free).1
  have mapped := (agree.tracked id).mpr
  have entry := agree.same id
  simp only [maps, Function.update_self] at mapped entry
  replace mapped := mapped pointer
  obtain ⟨bound, under, start, size, flags⟩ := entry mapped
  unfold Entered
  by_cases null : malloc = 0
  · have same : stub.mapped target buffer offset length access malloc
        (proxy.hGlMapBufferRange target offset length access buffer answer).2 = stub :=
      if_pos (.inr null)
    rw [same] at mapped bound under start size flags
    rw [if_pos null, free]
    cases found : stub.reused target buffer (narrow offset) (narrow length) access with
    | none =>
        have test := find_mapIds_none.mp found id used
        simp [bound, under, start, size, flags, mapped, narrow] at test
    | some other =>
        obtain ⟨-, also, again, -⟩ := reused_some found
        have before := matched.agree
        have one := before.single other id ((before.tracked other).mp also)
          ((before.tracked id).mp mapped)
        rw [one ((before.same other also).1.symm.trans
          ((again.trans bound.symm).trans (before.same id mapped).1))]
  · have memory : ¬ ((proxy.hGlMapBufferRange target offset length access buffer answer).2.result =
        0 ∨ malloc = 0) := by simp [given, used, null]
    rw [MapStub.mapped, if_neg memory] at start size
    simp only [MapStub.enter, given, Function.update_self] at start size
    rw [if_neg null]
    exact ⟨start.symm, size.symm⟩

/-- Tables that agree after a call are those of a call whose conditions are met. -/
theorem Matched.keeps (matched : Matched state)
    (ends : (mapExchange current).direct.Ends TablesAgree state call) :
    KeepsTables current state call := by
  obtain ⟨stub, proxy⟩ := state
  obtain ⟨next, taken, agree⟩ := ends
  cases call with
  | glBufferData target contents accepted =>
      rw [direct_post rfl] at taken
      cases taken
      intro given id mapped bound
      obtain ⟨range, mapping, -⟩ := agree.live id mapped
      have ended : (proxy.gl.bufferData target contents accepted).mapping (proxy.maps id).buffer =
          none :=
        (mapping_bufferData (matched.live.named id mapped).1).trans (if_pos ⟨given, bound⟩)
      exact absurd (ended.symm.trans mapping) (by simp)
  | glMapBufferRange target offset length access answer malloc =>
      intro new
      have awaits : stub.mapCall current
          (.glMapBufferRange target offset length access answer malloc) =
            .await (.glMapBufferRange target offset length access
              (stub.mirrors.boundBuffer current target) answer)
              (stub.mapped target (stub.mirrors.boundBuffer current target) offset length access
                malloc) :=
        if_neg (by rw [new]; exact Bool.false_ne_true)
      rw [direct_await awaits] at taken
      cases taken
      exact ⟨matched.remapped agree, matched.entered hasBinding_of_bound agree⟩
  | glBindBuffer | glDeleteBuffers | glUnmapBuffer | store => trivial

end

/-! ## Whole runs -/

/-- At any pace of the proxy: whenever the ring is drained the tables agree, with
each other and with GL, as long as the conditions of the calls are met, and no
longer. -/
theorem tables_agree_iff {current : Ctx} {calls : List MapCall} :
    (∀ inputs : List (Option MapCall), inputs.filterMap id = calls →
        (mapExchange current).queued.Along
          ((mapExchange current).queued.Ends (Pipeline.Queued.Drained TablesAgree))
          ⟨.zero, [], .zero⟩ inputs) ↔
      (mapExchange current).direct.Along (KeepsTables current) (.zero, .zero) calls := by
  rw [Exchange.queued_along_iff Matched.start.agree]
  refine Machine.along_iff ?_ (fun {state call} matched => ?_) Matched.start
  · intro state call next matched keeps taken
    obtain ⟨after, step, kept⟩ := matched.step keeps
    rw [step] at taken
    cases taken
    exact kept
  · refine ⟨matched.keeps, fun keeps => ?_⟩
    obtain ⟨after, step, kept⟩ := matched.step keeps
    exact ⟨after, step, kept.agree⟩

/-- A mapped buffer gets new contents: GL has ended its mapping, and both tables
keep it. -/
theorem buffer_data_leaves_dangling_map :
    ¬ ∀ inputs : List (Option MapCall), inputs.filterMap id =
        [.glBindBuffer glArrayBuffer 5, .glMapBufferRange glArrayBuffer 0 16 glMapWriteBit 4096 8192,
          .glBufferData glArrayBuffer (fun _ => 0) true] →
      (mapExchange 1).queued.Along
        ((mapExchange 1).queued.Ends (Pipeline.Queued.Drained TablesAgree))
        ⟨.zero, [], .zero⟩ inputs := by
  intro every
  have along := every [some (.glBindBuffer glArrayBuffer 5),
    some (.glMapBufferRange glArrayBuffer 0 16 glMapWriteBit 4096 8192),
    some (.glBufferData glArrayBuffer (fun _ => 0) true), none] rfl
  obtain ⟨-, rest⟩ := along
  obtain ⟨-, rest⟩ := rest _ rfl
  obtain ⟨-, rest⟩ := rest _ rfl
  obtain ⟨⟨reached, taken, drained⟩, -⟩ := rest _ rfl
  cases taken
  have live := (drained rfl).live 1 (by decide)
  exact absurd (Option.isSome_iff_exists.mpr (live.imp fun _ found => found.1)) (by decide)

end GlesBridge.Mapping
