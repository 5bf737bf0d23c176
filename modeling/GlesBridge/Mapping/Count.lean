import GlesBridge.Mapping.Tables

namespace GlesBridge.Mapping

open GlesBridge.Gl GlesBridge.Shared GlesBridge.Stub GlesBridge.Systems

/-! The count of active mappings, which is kept by hand. -/

/-- A call in a context, with what the proxy answers if it is asked. -/
structure MapTurn where
  current : Ctx
  call : MapCall
  answer : MapAnswer

/-- `malloc` gives out no memory that is in use. -/
def FreshMemory (stub : MapStub) : MapCall → Prop
  | .glMapBufferRange _ _ _ _ _ malloc => malloc ≠ 0 → ∀ id, (stub.stubMaps id).ptr ≠ malloc
  | _ => True

instance decidableFreshMemory (stub : MapStub) (call : MapCall) :
    Decidable (FreshMemory stub call) :=
  match call with
  | .glMapBufferRange .. =>
      @instDecidableForall _ _ instDecidableNot (@Nat.decidableForallFin _ _ fun _ => instDecidableNot)
  | .glBindBuffer .. | .glBufferData .. | .glDeleteBuffers _ | .glUnmapBuffer _ | .store .. =>
      isTrue trivial

def mapTurn (stub : MapStub) (turn : MapTurn) : MapStub :=
  match stub.mapCall turn.current turn.call with
  | .post stub _ => stub
  | .await _ resume => resume turn.answer

/-- The stub, whatever the proxy answers. -/
def mapStubMachine : Machine MapStub MapTurn where
  step stub turn := if FreshMemory stub turn.call then some (mapTurn stub turn) else none

/-- The entries with a pointer. -/
def activeMaps (stub : MapStub) : Nat :=
  (List.finRange maxMaps).countP fun id => (stub.stubMaps id).ptr != 0

/-- What `g_active_stub_map_count` is taken for. -/
structure CountExact (stub : MapStub) : Prop where
  number : stub.activeStubMapCount.toNat = activeMaps stub
  guard : 0 < stub.activeStubMapCount ↔ ∃ id, (stub.stubMaps id).ptr ≠ 0

/-- No buffer is deleted that the client has mapped. -/
def SparesMapped (stub : MapStub) : MapCall → Prop
  | .glDeleteBuffers buffers =>
      ∀ id, (stub.stubMaps id).ptr ≠ 0 → (stub.stubMaps id).buffer ∉ buffers
  | _ => True

/-! ## Counting -/

section

variable {α : Type} [DecidableEq α] {list : List α} {marked : α → Bool} {element : α} {mark : Bool}

theorem countP_erase_update (nodup : list.Nodup) :
    (list.erase element).countP (Function.update marked element mark) =
      (list.erase element).countP marked := by
  refine List.countP_congr fun other there => ?_
  have apart : other ≠ element := by
    rintro rfl
    exact nodup.not_mem_erase there
  rw [Function.update_of_ne apart]

/-- Of the marks on the elements of a list one is set anew. -/
theorem countP_update (nodup : list.Nodup) (member : element ∈ list) (marked : α → Bool)
    (mark : Bool) :
    list.countP (Function.update marked element mark) + (marked element).toNat =
      list.countP marked + mark.toNat := by
  have split (marks : α → Bool) :
      list.countP marks = (list.erase element).countP marks + (marks element).toNat := by
    rw [(List.perm_cons_erase member).countP_eq, List.countP_cons]
    cases marks element with
    | _ => rfl
  rw [split, split marked, countP_erase_update nodup, Function.update_self]
  omega

/-- Some of the marked elements are counted apart. -/
theorem countP_split {α : Type} {list : List α} {marked chosen : α → Bool}
    (marks : ∀ element, chosen element = true → marked element = true) :
    list.countP marked =
      list.countP chosen + list.countP fun element => marked element && !chosen element := by
  induction list with
  | nil => rfl
  | cons first rest ih =>
      rw [List.countP_cons, List.countP_cons, List.countP_cons, ih]
      cases taken : chosen first with
      | true => simp [marks first taken]; omega
      | false => simp; omega

end

section

variable {stub : MapStub} {current : Ctx} {id : MapId} {malloc : UInt64}

def pointed (stub : MapStub) (id : MapId) : Bool := (stub.stubMaps id).ptr != 0

theorem activeMaps_eq (stub : MapStub) :
    activeMaps stub = (List.finRange maxMaps).countP (pointed stub) :=
  rfl

theorem activeMaps_le (stub : MapStub) : activeMaps stub ≤ 64 :=
  List.countP_le_length.trans (Nat.le_of_eq (List.length_finRange))

theorem activeMaps_pos : 0 < activeMaps stub ↔ ∃ id, (stub.stubMaps id).ptr ≠ 0 := by
  rw [activeMaps, List.countP_pos_iff]
  simp

/-- The counter as a number that is too small to wrap. -/
structure Counted (stub : MapStub) : Prop where
  ids : StubIds stub
  count : stub.activeStubMapCount = .ofNat (activeMaps stub)

theorem Counted.exact (counted : Counted stub) : CountExact stub := by
  have number : stub.activeStubMapCount.toNat = activeMaps stub := by
    rw [counted.count]
    exact UInt32.toNat_ofNat_of_lt' (Nat.lt_of_le_of_lt (activeMaps_le stub) (by decide))
  refine ⟨number, ?_⟩
  rw [UInt32.lt_iff_toNat_lt, number]
  exact activeMaps_pos

theorem CountExact.counted (exact : CountExact stub) (ids : StubIds stub) : Counted stub where
  ids := ids
  count := by rw [← exact.number, UInt32.ofNat_toNat]

theorem Counted.zero : Counted .zero where
  ids := ⟨rfl, fun _ mapped => absurd rfl mapped⟩
  count := by decide

theorem Counted.frame (counted : Counted stub) {next : MapStub} (maps : next.stubMaps = stub.stubMaps)
    (count : next.activeStubMapCount = stub.activeStubMapCount) : Counted next := by
  constructor
  · constructor
    · rw [maps]
      exact counted.ids.zero
    · rw [maps]
      exact counted.ids.own
  · rw [count, counted.count, activeMaps, activeMaps, maps]

theorem pointed_clear : pointed (stub.clear id) = Function.update (pointed stub) id false := by
  funext other
  by_cases here : other = id
  · rw [here, Function.update_self]
    simp [pointed, MapStub.clear, StubMapEntry.zero]
  · rw [Function.update_of_ne here]
    simp [pointed, MapStub.clear, here]

theorem Counted.clear (counted : Counted stub) (mapped : (stub.stubMaps id).ptr ≠ 0) :
    Counted (stub.clear id) := by
  refine ⟨counted.ids.clear, ?_⟩
  have before : pointed stub id = true := bne_iff_ne.mpr mapped
  have fewer : activeMaps (stub.clear id) + 1 = activeMaps stub := by
    have updated :=
      countP_update (List.nodup_finRange maxMaps) (List.mem_finRange id) (pointed stub) false
    rwa [← pointed_clear, before] at updated
  have count : (stub.clear id).activeStubMapCount = stub.activeStubMapCount - 1 := if_pos mapped
  rw [count, counted.count, ← fewer, UInt32.ofNat_add]
  exact UInt32.add_sub_cancel ..

/-! ## A new mapping -/

/-- The entries that are left of other mappings of a buffer. -/
def stale (stub : MapStub) (mapId : MapId) (buffer : UInt32) (id : MapId) : Bool :=
  id != mapId && pointed stub id && (stub.stubMaps id).buffer == buffer

theorem activeMaps_freeStale (ids : StubIds stub) (mapId : MapId) (buffer : UInt32) :
    activeMaps stub = (mapIds.filter (stale stub mapId buffer)).length +
        activeMaps (stub.freeStale mapId buffer) := by
  have zero : stale stub mapId buffer 0 = false := by simp [stale, pointed, ids.zero]
  have staleCount : (mapIds.filter (stale stub mapId buffer)).length =
      (List.finRange maxMaps).countP (stale stub mapId buffer) := by
    have all : List.finRange maxMaps = 0 :: mapIds := rfl
    rw [all, List.countP_cons, zero, List.countP_eq_length_filter]
    rfl
  have left : pointed (stub.freeStale mapId buffer) =
      fun id => pointed stub id && !stale stub mapId buffer id := by
    funext id
    by_cases gone : id ∈ mapIds ∧ stale stub mapId buffer id = true
    · have entry : (stub.freeStale mapId buffer).stubMaps id = .zero := if_pos gone
      rw [pointed, entry, gone.2]
      simp [StubMapEntry.zero]
    · have entry : (stub.freeStale mapId buffer).stubMaps id = stub.stubMaps id := if_neg gone
      have kept : stale stub mapId buffer id = false := by
        by_cases first : id = 0
        · rw [first]
          exact zero
        · exact Bool.eq_false_iff.mpr fun is => gone ⟨mem_mapIds.mpr first, is⟩
      rw [pointed, entry, kept, Bool.not_false, Bool.and_true]
      rfl
  rw [staleCount, activeMaps_eq, activeMaps_eq, left]
  refine countP_split fun id is => ?_
  simp only [stale, Bool.and_eq_true] at is
  exact is.1.2

theorem count_freeStale (counted : Counted stub) (mapId : MapId) (buffer : UInt32) :
    (stub.freeStale mapId buffer).activeStubMapCount =
      .ofNat (activeMaps (stub.freeStale mapId buffer)) := by
  have count : (stub.freeStale mapId buffer).activeStubMapCount =
      stub.activeStubMapCount - .ofNat (mapIds.filter (stale stub mapId buffer)).length := rfl
  rw [count, counted.count, activeMaps_freeStale counted.ids mapId buffer, UInt32.ofNat_add,
    UInt32.add_comm]
  exact UInt32.add_sub_cancel ..

theorem pointed_enter {entry : StubMapEntry} (memory : entry.ptr ≠ 0) :
    pointed (stub.enter id entry) = Function.update (pointed stub) id true := by
  funext other
  by_cases here : other = id
  · rw [here, Function.update_self]
    simp [pointed, MapStub.enter, memory]
  · rw [Function.update_of_ne here]
    simp [pointed, MapStub.enter, here]

theorem count_enter {entry : StubMapEntry} (memory : entry.ptr ≠ 0)
    (fresh : (stub.stubMaps id).ptr ≠ entry.ptr)
    (count : stub.activeStubMapCount = .ofNat (activeMaps stub)) :
    (stub.enter id entry).activeStubMapCount = .ofNat (activeMaps (stub.enter id entry)) := by
  have updated := countP_update (List.nodup_finRange maxMaps) (List.mem_finRange id) (pointed stub) true
  rw [← pointed_enter memory, ← activeMaps_eq, ← activeMaps_eq] at updated
  by_cases mapped : (stub.stubMaps id).ptr ≠ 0
  · -- What the index had before is freed first.
    have before : pointed stub id = true := bne_iff_ne.mpr mapped
    have same : activeMaps (stub.enter id entry) = activeMaps stub :=
      Nat.add_right_cancel (updated.trans (by rw [before]))
    have kept : (stub.enter id entry).activeStubMapCount = stub.activeStubMapCount - 1 + 1 :=
      congrArg (· + 1) (if_pos ⟨mapped, fresh⟩)
    rw [kept, same, UInt32.sub_add_cancel, count]
  · have before : pointed stub id = false := bne_eq_false_iff_eq.mpr (not_ne_iff.mp mapped)
    have more : activeMaps (stub.enter id entry) = activeMaps stub + 1 := by
      rw [before] at updated
      exact updated
    have grown : (stub.enter id entry).activeStubMapCount = stub.activeStubMapCount + 1 :=
      congrArg (· + 1) (if_neg fun both => mapped both.1)
    rw [grown, more, count, UInt32.ofNat_add]
    rfl

theorem Counted.mapped (counted : Counted stub) (target buffer access : UInt32)
    (offset length : Int64) (answer : MapAnswer)
    (fresh : malloc ≠ 0 → ∀ id, (stub.stubMaps id).ptr ≠ malloc) :
    Counted (stub.mapped target buffer offset length access malloc answer) := by
  by_cases failed : answer.result = 0 ∨ malloc = 0
  · rw [MapStub.mapped, if_pos failed]
    exact counted
  · have given : answer.result ≠ 0 := fun null => failed (.inl null)
    have memory : malloc ≠ 0 := fun null => failed (.inr null)
    refine ⟨(stubTable_mapped counted.ids target buffer access offset length given memory).2, ?_⟩
    rw [MapStub.mapped, if_neg failed]
    dsimp only
    generalize readBack : (if access &&& glMapReadBit ≠ 0 then
        { stub with memory := Function.update stub.memory malloc answer.bytes }
      else stub) = read
    have maps : read.stubMaps = stub.stubMaps := by
      rw [← readBack]
      split_ifs <;> rfl
    have same : read.activeStubMapCount = stub.activeStubMapCount := by
      rw [← readBack]
      split_ifs <;> rfl
    refine count_enter memory ?_ (count_freeStale (counted.frame maps same) ..)
    -- The loop leaves the index out that the mapping gets.
    have spared : (read.freeStale answer.result buffer).stubMaps answer.result =
        stub.stubMaps answer.result := by
      rw [← maps]
      exact if_neg fun gone => by simp at gone
    rw [spared]
    exact fresh memory answer.result

/-! ## Deletions -/

def chosen (stub : MapStub) (buffers : List UInt32) (id : MapId) : Bool :=
  pointed stub id && decide ((stub.stubMaps id).buffer ∈ buffers)

theorem pointed_iff_isSome : pointed stub id = true ↔ (stubTable stub id).isSome = true := by
  rw [stubTable_isSome]
  exact bne_iff_ne

theorem pointed_foldl_deleteMaps (ids : StubIds stub) (buffers : List UInt32) :
    pointed (buffers.foldl MapStub.deleteMaps stub) =
      fun id => pointed stub id && !chosen stub buffers id := by
  funext id
  rw [Bool.eq_iff_iff, pointed_iff_isSome, (stubTable_foldl_deleteMaps ids buffers).1,
    Option.isSome_iff_exists]
  simp only [Table.foldl_remove_eq_some]
  by_cases mapped : (stub.stubMaps id).ptr ≠ 0
  · have before : pointed stub id = true := bne_iff_ne.mpr mapped
    simp [chosen, before, stubTable, mapped]
  · have before : pointed stub id = false := bne_eq_false_iff_eq.mpr (not_ne_iff.mp mapped)
    simp [before, stubTable, mapped]

theorem activeMaps_deleteBuffers (ids : StubIds stub) (buffers : List UInt32) :
    activeMaps stub = (List.finRange maxMaps).countP (chosen stub buffers) +
      activeMaps (buffers.foldl MapStub.deleteMaps stub) := by
  rw [activeMaps_eq, activeMaps_eq, pointed_foldl_deleteMaps ids]
  refine countP_split fun id is => ?_
  simp only [chosen, Bool.and_eq_true] at is
  exact is.1

theorem spares_iff_countP {buffers : List UInt32} :
    SparesMapped stub (.glDeleteBuffers buffers) ↔
      (List.finRange maxMaps).countP (chosen stub buffers) = 0 := by
  rw [List.countP_eq_zero]
  constructor
  · rintro spares id - is
    simp only [chosen, pointed, Bool.and_eq_true, bne_iff_ne, decide_eq_true_eq] at is
    exact spares id is.1 is.2
  · intro none id mapped member
    refine none id (List.mem_finRange id) ?_
    simp only [chosen, pointed, Bool.and_eq_true, bne_iff_ne, decide_eq_true_eq]
    exact ⟨mapped, member⟩

theorem count_foldl_deleteMaps (buffers : List UInt32) :
    (buffers.foldl MapStub.deleteMaps stub).activeStubMapCount = stub.activeStubMapCount := by
  induction buffers generalizing stub with
  | nil => rfl
  | cons buffer rest ih => exact ih

/-- A deletion leaves the counter alone, so it is right for deletions of
unmapped buffers only. -/
theorem countExact_deleteBuffers (counted : Counted stub) (buffers : List UInt32) :
    CountExact (buffers.foldl MapStub.deleteMaps stub) ↔
      SparesMapped stub (.glDeleteBuffers buffers) := by
  have fewer := activeMaps_deleteBuffers counted.ids buffers
  have before := counted.exact.number
  rw [spares_iff_countP]
  constructor
  · intro exact
    have after := exact.number
    rw [count_foldl_deleteMaps] at after
    omega
  · intro none
    have ids : StubIds (buffers.foldl MapStub.deleteMaps stub) :=
      (stubTable_foldl_deleteMaps counted.ids buffers).2
    refine Counted.exact ⟨ids, ?_⟩
    rw [count_foldl_deleteMaps, counted.count]
    congr 1
    omega

/-! ## Runs -/

theorem exact_step_iff (counted : Counted stub) (turn : MapTurn)
    (fresh : FreshMemory stub turn.call) :
    CountExact (mapTurn stub turn) ↔ SparesMapped stub turn.call := by
  obtain ⟨current, call, answer⟩ := turn
  cases call with
  | glDeleteBuffers buffers =>
      have kept : Counted { stub with mirrors := stub.mirrors.glDeleteBuffers current buffers } :=
        counted.frame rfl rfl
      exact countExact_deleteBuffers kept buffers
  | glBindBuffer target buffer =>
      have kept : Counted (mapTurn stub ⟨current, .glBindBuffer target buffer, answer⟩) :=
        counted.frame rfl rfl
      exact iff_of_true kept.exact trivial
  | glBufferData target contents accepted =>
      have kept : Counted (mapTurn stub ⟨current, .glBufferData target contents accepted, answer⟩) :=
        counted.frame rfl rfl
      exact iff_of_true kept.exact trivial
  | store ptr place byte =>
      have kept : Counted (mapTurn stub ⟨current, .store ptr place byte, answer⟩) :=
        counted.frame rfl rfl
      exact iff_of_true kept.exact trivial
  | glMapBufferRange target offset length access given malloc =>
      refine iff_of_true ?_ trivial
      simp only [mapTurn, MapStub.mapCall, MapStub.glMapBufferRange]
      split_ifs
      · exact counted.exact
      · exact (counted.mapped _ _ _ _ _ _ fresh).exact
  | glUnmapBuffer target =>
      refine iff_of_true ?_ trivial
      simp only [mapTurn, MapStub.mapCall, MapStub.glUnmapBuffer]
      cases found : stub.mappingOf (stub.mirrors.boundBuffer current target) with
      | none => exact counted.exact
      | some id =>
          have mapped := (find_mapIds found).2
          simp only [Bool.and_eq_true, bne_iff_ne] at mapped
          exact (counted.clear mapped.1).exact

theorem StubIds.turn (ids : StubIds stub) (turn : MapTurn) : StubIds (mapTurn stub turn) := by
  obtain ⟨current, call, answer⟩ := turn
  cases call with
  | glDeleteBuffers buffers =>
      have kept : StubIds { stub with mirrors := stub.mirrors.glDeleteBuffers current buffers } :=
        ⟨ids.zero, ids.own⟩
      exact (stubTable_foldl_deleteMaps kept buffers).2
  | glBindBuffer target buffer => exact ⟨ids.zero, ids.own⟩
  | glBufferData target contents accepted => exact ⟨ids.zero, ids.own⟩
  | store ptr place byte => exact ⟨ids.zero, ids.own⟩
  | glMapBufferRange target offset length access given malloc =>
      simp only [mapTurn, MapStub.mapCall, MapStub.glMapBufferRange]
      split_ifs
      · exact ids
      · change StubIds (stub.mapped target (stub.mirrors.boundBuffer current target) offset length
          access malloc answer)
        by_cases failed : answer.result = 0 ∨ malloc = 0
        · rw [MapStub.mapped, if_pos failed]
          exact ids
        · rw [not_or] at failed
          exact (stubTable_mapped ids _ _ _ _ _ failed.1 failed.2).2
  | glUnmapBuffer target =>
      simp only [mapTurn, MapStub.mapCall, MapStub.glUnmapBuffer]
      cases stub.mappingOf (stub.mirrors.boundBuffer current target) with
      | none => exact ids
      | some id => exact ids.clear

/-- The counter is right after every call of a run exactly if no call of the run
deletes a buffer while it is mapped. -/
theorem exact_iff_spares (turns : List MapTurn) :
    mapStubMachine.Along (fun stub turn =>
        ∀ next, mapStubMachine.step stub turn = some next → CountExact next) .zero turns ↔
      mapStubMachine.Along (fun stub turn =>
        ∀ next, mapStubMachine.step stub turn = some next → SparesMapped stub turn.call)
        .zero turns := by
  have taken {stub next : MapStub} {turn : MapTurn} (step : mapStubMachine.step stub turn = some next) :
      FreshMemory stub turn.call ∧ mapTurn stub turn = next := by
    have some :
        (if FreshMemory stub turn.call then some (mapTurn stub turn) else none) = some next :=
      step
    split_ifs at some with fresh
    exact ⟨fresh, Option.some.inj some⟩
  refine Machine.along_iff ?_ ?_ Counted.zero
  · intro stub turn next counted spares step
    obtain ⟨fresh, rfl⟩ := taken step
    exact ((exact_step_iff counted turn fresh).mpr (spares _ step)).counted (counted.ids.turn turn)
  · intro stub turn counted
    refine forall_congr' fun next => forall_congr' fun step => ?_
    obtain ⟨fresh, rfl⟩ := taken step
    exact exact_step_iff counted turn fresh

/-- A buffer is bound, mapped and deleted. -/
def mapDeleteTurns : List MapTurn :=
  [⟨0, .glBindBuffer glArrayBuffer 5, ⟨0, fun _ => 0⟩⟩,
    ⟨0, .glMapBufferRange glArrayBuffer 0 16 2 1 8192, ⟨1, fun _ => 0⟩⟩,
    ⟨0, .glDeleteBuffers [5], ⟨0, fun _ => 0⟩⟩]

theorem deleted_mapping_counts :
    ∃ reached, mapStubMachine.run .zero mapDeleteTurns = some reached ∧
      reached.activeStubMapCount = 1 ∧ activeMaps reached = 0 ∧ ¬ CountExact reached := by
  let reached := (mapStubMachine.run .zero mapDeleteTurns).get (by decide +kernel)
  have count : reached.activeStubMapCount = 1 := by decide +kernel
  have maps : activeMaps reached = 0 := by decide +kernel
  refine ⟨reached, (Option.some_get _).symm, count, maps, fun exact => ?_⟩
  have number := exact.number
  rw [count, maps] at number
  exact absurd number (by decide)

end

end GlesBridge.Mapping
