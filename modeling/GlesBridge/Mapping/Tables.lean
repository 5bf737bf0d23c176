import GlesBridge.Proxy.Mapping

namespace GlesBridge.Mapping

open GlesBridge.Gl GlesBridge.Shared GlesBridge.Stub GlesBridge.Proxy GlesBridge.Systems

/-! The tables of mappings of the stub and of the proxy, and the ring between them. -/

def mapExchange (current : Ctx) : Exchange MapStub MapProxy MapCall MapCommand MapAnswer where
  call stub call := some (stub.mapCall current call)
  serve proxy command := proxy.handleMap command

/-! ## What the tables say -/

/-- The members that both tables have. -/
structure Track where
  buffer : UInt32
  target : UInt32
  offset : Int64
  length : Int64
  access : UInt32
deriving DecidableEq, Repr

abbrev Table := MapId → Option Track

namespace Table

variable (table : Table)

/-- The buffer is deleted. -/
def remove (buffer : UInt32) : Table := fun id =>
  match table id with
  | some track => if track.buffer = buffer then none else some track
  | none => none

variable {table}

theorem remove_eq_some {buffer : UInt32} {id : MapId} {track : Track} :
    table.remove buffer id = some track ↔ table id = some track ∧ track.buffer ≠ buffer := by
  unfold remove
  cases table id with
  | none => simp
  | some found =>
      by_cases same : found.buffer = buffer
      · simp only [if_pos same, reduceCtorEq, Option.some.injEq, false_iff, not_and, not_not]
        intro equal
        rwa [← equal]
      · simp only [if_neg same, Option.some.injEq, ne_eq, iff_self_and]
        intro equal
        rwa [← equal]

theorem foldl_remove_eq_some {buffers : List UInt32} {id : MapId} {track : Track} :
    buffers.foldl remove table id = some track ↔ table id = some track ∧ track.buffer ∉ buffers := by
  induction buffers generalizing table with
  | nil => simp
  | cons buffer rest ih =>
      rw [List.foldl_cons, ih, remove_eq_some, List.mem_cons, not_or, and_assoc]

/-- No entry has the buffer. -/
theorem remove_eq_self {buffer : UInt32}
    (none : ∀ id track, table id = some track → track.buffer ≠ buffer) :
    table.remove buffer = table := by
  funext id
  cases found : table id with
  | none => simp [remove, found]
  | some track => exact remove_eq_some.mpr ⟨found, none id track found⟩

end Table

theorem mem_mapIds {id : MapId} : id ∈ mapIds ↔ id ≠ 0 := mem_tail_finRange

/-- The first index that a loop over a table stops at. -/
theorem find_mapIds {test : MapId → Bool} {id : MapId} (found : mapIds.find? test = some id) :
    id ≠ 0 ∧ test id = true :=
  ⟨mem_mapIds.mp (List.mem_of_find?_eq_some found), List.find?_some found⟩

theorem find_mapIds_none {test : MapId → Bool} :
    mapIds.find? test = none ↔ ∀ id, id ≠ 0 → test id = false := by
  simp [List.find?_eq_none, mem_mapIds]

/-! ## The table of the stub -/

section

variable {stub : MapStub} {current : Ctx} {id : MapId} {buffer target access : UInt32}

def stubTable (stub : MapStub) : Table := fun id =>
  let entry := stub.stubMaps id
  if entry.ptr ≠ 0 then
    some ⟨entry.buffer, entry.target, entry.offset, entry.length, entry.access⟩
  else none

theorem stubTable_isSome : (stubTable stub id).isSome = true ↔ (stub.stubMaps id).ptr ≠ 0 := by
  unfold stubTable
  by_cases mapped : (stub.stubMaps id).ptr ≠ 0
  · simp [mapped]
  · simp [mapped]

theorem stubTable_congr {other : MapStub} (same : other.stubMaps = stub.stubMaps) :
    stubTable other = stubTable stub := by
  funext id
  rw [stubTable, stubTable, same]

/-- Index 0 is never used, and an entry knows its own index. -/
structure StubIds (stub : MapStub) : Prop where
  zero : (stub.stubMaps 0).ptr = 0
  own : ∀ id, (stub.stubMaps id).ptr ≠ 0 → (stub.stubMaps id).id = .ofNat id

theorem stubTable_clear : stubTable (stub.clear id) = Function.update (stubTable stub) id none := by
  funext other
  by_cases here : other = id
  · subst here
    simp [stubTable, MapStub.clear, StubMapEntry.zero]
  · simp [stubTable, MapStub.clear, here]

theorem StubIds.clear (ids : StubIds stub) : StubIds (stub.clear id) := by
  constructor
  · by_cases here : (0 : MapId) = id
    · simp [MapStub.clear, here, StubMapEntry.zero]
    · simpa [MapStub.clear, here] using ids.zero
  · intro other
    by_cases here : other = id
    · simp [MapStub.clear, here, StubMapEntry.zero]
    · simpa [MapStub.clear, here] using ids.own other

theorem stubTable_deleteMaps (ids : StubIds stub) :
    stubTable (stub.deleteMaps buffer) = (stubTable stub).remove buffer := by
  funext id
  by_cases mapped : (stub.stubMaps id).ptr ≠ 0
  · have used : id ∈ mapIds := mem_mapIds.mpr fun none => mapped (none ▸ ids.zero)
    by_cases same : (stub.stubMaps id).buffer = buffer
    · simp [stubTable, MapStub.deleteMaps, Table.remove, used, mapped, same, StubMapEntry.zero]
    · simp [stubTable, MapStub.deleteMaps, Table.remove, mapped, same]
  · simp [stubTable, MapStub.deleteMaps, Table.remove, mapped]

theorem StubIds.deleteMaps (ids : StubIds stub) : StubIds (stub.deleteMaps buffer) := by
  constructor
  · simp [MapStub.deleteMaps, ids.zero]
  · intro id
    simp only [MapStub.deleteMaps]
    split_ifs
    · simp [StubMapEntry.zero]
    · exact ids.own id

theorem stubTable_foldl_deleteMaps (ids : StubIds stub) (buffers : List UInt32) :
    stubTable (buffers.foldl MapStub.deleteMaps stub) = buffers.foldl Table.remove (stubTable stub) ∧
      StubIds (buffers.foldl MapStub.deleteMaps stub) := by
  induction buffers generalizing stub with
  | nil => exact ⟨rfl, ids⟩
  | cons buffer rest ih =>
      rw [List.foldl_cons, List.foldl_cons, ← stubTable_deleteMaps ids]
      exact ih ids.deleteMaps

/-- A new mapping takes the place of what the stub had of the buffer. -/
theorem stubTable_mapped {malloc : UInt64} {answer : MapAnswer} (ids : StubIds stub)
    (target buffer access : UInt32) (offset length : Int64) (given : answer.result ≠ 0)
    (memory : malloc ≠ 0) :
    stubTable (stub.mapped target buffer offset length access malloc answer) =
        Function.update ((stubTable stub).remove buffer) answer.result
          (some ⟨buffer, target, offset, length, access⟩) ∧
      StubIds (stub.mapped target buffer offset length access malloc answer) := by
  have some : ¬ (answer.result = 0 ∨ malloc = 0) := by simp [given, memory]
  simp only [MapStub.mapped, if_neg some]
  generalize readBack : (if access &&& glMapReadBit ≠ 0 then
      { stub with memory := Function.update stub.memory malloc answer.bytes }
    else stub) = read
  have maps : read.stubMaps = stub.stubMaps := by
    rw [← readBack]
    split_ifs <;> rfl
  constructor
  · funext id
    by_cases here : id = answer.result
    · subst here
      simp [stubTable, MapStub.enter, memory]
    · by_cases mapped : (stub.stubMaps id).ptr ≠ 0
      · have used : id ≠ 0 := fun none => mapped (none ▸ ids.zero)
        by_cases same : (stub.stubMaps id).buffer = buffer
        · simp [stubTable, MapStub.enter, MapStub.freeStale, Table.remove, here, mem_mapIds, used,
            maps, mapped, same, StubMapEntry.zero]
        · simp [stubTable, MapStub.enter, MapStub.freeStale, Table.remove, here, maps, mapped, same]
      · simp [stubTable, MapStub.enter, MapStub.freeStale, Table.remove, here, maps, mapped]
  · constructor
    · simp [MapStub.enter, MapStub.freeStale, given.symm, mem_mapIds, maps, ids.zero]
    · intro id
      by_cases here : id = answer.result
      · subst here
        simp [MapStub.enter]
      · simp only [MapStub.enter, Function.update_of_ne here, MapStub.freeStale, maps]
        split_ifs
        · simp [StubMapEntry.zero]
        · exact ids.own id

end

/-! ## Bindings and mappings in GL -/

section

variable {buffers : Buffers} {target other buffer name : UInt32}

theorem binding_bindBuffer :
    (buffers.bindBuffer target buffer).binding other =
      if other = target then (if hasBinding target then buffer else 0) else buffers.binding other := by
  by_cases here : other = target
  · subst here
    simp [Buffers.binding, Buffers.bindBuffer]
  · simp [Buffers.binding, Buffers.bindBuffer, here]

theorem mapping_unmapBuffer :
    (buffers.unmapBuffer target).1.mapping name =
      if name = buffers.binding target ∧ name ≠ 0 then none else buffers.mapping name := by
  unfold Buffers.unmapBuffer
  by_cases here : name = buffers.binding target
  · subst here
    by_cases mapped : buffers.binding target ≠ 0 ∧
        (buffers.mapping (buffers.binding target)).isSome = true
    · rw [if_pos mapped]
      simp [Buffers.unmap, mapped.1]
    · rw [if_neg mapped]
      by_cases bound : buffers.binding target ≠ 0
      · have gone : (buffers.mapping (buffers.binding target)).isSome = false := by
          simpa [bound] using mapped
        simpa [bound] using gone
      · simp [bound]
  · split_ifs with mapped unmapped unmapped
    · exact absurd unmapped.1 here
    · simp [Buffers.unmap, here]
    · exact absurd unmapped.1 here
    · rfl

theorem binding_unmapBuffer :
    (buffers.unmapBuffer target).1.binding other = buffers.binding other := by
  unfold Buffers.unmapBuffer
  split_ifs <;> rfl

theorem mapping_bufferData {contents : Nat → UInt8} {accepted : Bool} (nonzero : name ≠ 0) :
    (buffers.bufferData target contents accepted).mapping name =
      if accepted = true ∧ name = buffers.binding target then none else buffers.mapping name := by
  unfold Buffers.bufferData
  by_cases here : name = buffers.binding target
  · subst here
    split_ifs with given taken taken
    · simp [Buffers.unmap]
    · exact absurd ⟨given.1, rfl⟩ taken
    · exact absurd ⟨taken.1, nonzero⟩ given
    · rfl
  · split_ifs with given taken taken
    · exact absurd taken.2 here
    · exact Function.update_of_ne here _ _
    · exact absurd taken.2 here
    · rfl

theorem mapping_deleteBuffers {names : List UInt32} (nonzero : name ≠ 0) :
    (buffers.deleteBuffers names).mapping name =
      if name ∈ names then none else buffers.mapping name := by
  unfold Buffers.deleteBuffers
  induction names generalizing buffers with
  | nil => simp
  | cons first rest ih =>
      rw [List.foldl_cons, ih]
      by_cases later : name ∈ rest
      · simp [later]
      · by_cases here : name = first
        · subst here
          simp [later, Buffers.deleteBuffer, nonzero, Buffers.unmap]
        · simp only [later, if_false, List.mem_cons, here, or_self]
          unfold Buffers.deleteBuffer
          split_ifs
          · rfl
          · exact Function.update_of_ne here _ _

end

/-! ## The table of the proxy -/

section

variable {proxy : MapProxy} {id : MapId} {buffer target access answer : UInt32}

def proxyTable (proxy : MapProxy) : Table := fun id =>
  let entry := proxy.maps id
  if entry.realPtr ≠ 0 then
    some ⟨entry.buffer, entry.target, entry.offset.toInt64, entry.length.toInt64, entry.access⟩
  else none

theorem proxyTable_eq_some {track : Track} :
    proxyTable proxy id = some track ↔ (proxy.maps id).realPtr ≠ 0 ∧
      track = ⟨(proxy.maps id).buffer, (proxy.maps id).target, (proxy.maps id).offset.toInt64,
        (proxy.maps id).length.toInt64, (proxy.maps id).access⟩ := by
  unfold proxyTable
  by_cases mapped : (proxy.maps id).realPtr ≠ 0
  · simp [mapped, eq_comm]
  · simp [mapped]

theorem proxyTable_isSome : (proxyTable proxy id).isSome = true ↔ (proxy.maps id).realPtr ≠ 0 := by
  unfold proxyTable
  by_cases mapped : (proxy.maps id).realPtr ≠ 0
  · simp [mapped]
  · simp [mapped]

theorem proxyTable_congr {other : MapProxy} (same : other.maps = proxy.maps) :
    proxyTable other = proxyTable proxy := by
  funext id
  rw [proxyTable, proxyTable, same]

theorem proxyTable_clear :
    proxyTable (proxy.clear id) = Function.update (proxyTable proxy) id none := by
  funext other
  by_cases here : other = id
  · subst here
    simp [proxyTable, MapProxy.clear, MapEntry.cleared, MapEntry.zero]
  · simp [proxyTable, MapProxy.clear, here]

theorem proxyTable_enter {other : MapProxy} {entry : MapEntry}
    (maps : other.maps = Function.update proxy.maps id entry) (mapped : entry.realPtr ≠ 0) :
    proxyTable other = Function.update (proxyTable proxy) id
      (some ⟨entry.buffer, entry.target, entry.offset.toInt64, entry.length.toInt64,
        entry.access⟩) := by
  funext index
  by_cases here : index = id
  · subst here
    simp [proxyTable, maps, mapped]
  · simp [proxyTable, maps, here]

theorem proxyTable_deleteMaps (zero : proxy.maps 0 = .zero) :
    proxyTable (proxy.deleteMaps buffer) = (proxyTable proxy).remove buffer := by
  funext id
  by_cases mapped : (proxy.maps id).realPtr ≠ 0
  · have used : id ∈ mapIds := mem_mapIds.mpr fun none => mapped (by rw [none, zero]; rfl)
    by_cases same : (proxy.maps id).buffer = buffer
    · simp [proxyTable, MapProxy.deleteMaps, Table.remove, used, mapped, same, MapEntry.cleared,
        MapEntry.zero]
    · simp [proxyTable, MapProxy.deleteMaps, Table.remove, mapped, same]
  · simp [proxyTable, MapProxy.deleteMaps, Table.remove, mapped]

/-- A deletion takes entries away and changes no other. -/
theorem foldl_deleteMaps (zero : proxy.maps 0 = .zero) (buffers : List UInt32) :
    proxyTable (buffers.foldl MapProxy.deleteMaps proxy) =
        buffers.foldl Table.remove (proxyTable proxy) ∧
      (buffers.foldl MapProxy.deleteMaps proxy).gl = proxy.gl ∧
      ∀ id, ((buffers.foldl MapProxy.deleteMaps proxy).maps id).realPtr ≠ 0 ∨ id = 0 →
        (buffers.foldl MapProxy.deleteMaps proxy).maps id = proxy.maps id := by
  induction buffers generalizing proxy with
  | nil => exact ⟨rfl, rfl, fun _ _ => rfl⟩
  | cons buffer rest ih =>
      have one (id : MapId) : ((proxy.deleteMaps buffer).maps id).realPtr ≠ 0 ∨ id = 0 →
          (proxy.deleteMaps buffer).maps id = proxy.maps id := by
        intro kept
        refine if_neg fun gone => ?_
        rcases kept with mapped | first
        · refine mapped ?_
          rw [MapProxy.deleteMaps]
          exact congrArg MapEntry.realPtr (if_pos gone)
        · exact mem_mapIds.mp gone.1 first
      have first : (proxy.deleteMaps buffer).maps 0 = .zero := (one 0 (.inr rfl)).trans zero
      obtain ⟨table, gl, kept⟩ := ih first
      rw [List.foldl_cons, List.foldl_cons, ← proxyTable_deleteMaps zero]
      refine ⟨table, gl, fun id still => (kept id still).trans (one id ?_)⟩
      exact still.imp_left fun mapped => by rwa [kept id still] at mapped

/-- A mapping that both sides have is one that GL has. -/
structure Live (proxy : MapProxy) : Prop where
  zero : proxy.maps 0 = .zero
  mapping : ∀ id, (proxy.maps id).realPtr ≠ 0 →
    ∃ range, proxy.gl.mapping (proxy.maps id).buffer = some range ∧
      range.pointer = (proxy.maps id).realPtr
  single : ∀ id other, (proxy.maps id).realPtr ≠ 0 → (proxy.maps other).realPtr ≠ 0 →
    (proxy.maps id).buffer = (proxy.maps other).buffer → id = other
  named : ∀ id, (proxy.maps id).realPtr ≠ 0 →
    (proxy.maps id).buffer ≠ 0 ∧ hasBinding (proxy.maps id).target = true

/-- Entries may be given up, and mappings that no entry is left for may end. -/
theorem Live.shrink {next : MapProxy} (live : Live proxy) (zero : next.maps 0 = .zero)
    (kept : ∀ id, (next.maps id).realPtr ≠ 0 → next.maps id = proxy.maps id ∧
      next.gl.mapping (proxy.maps id).buffer = proxy.gl.mapping (proxy.maps id).buffer) :
    Live next := by
  refine ⟨zero, fun id mapped => ?_, fun id other mapped also same => ?_, fun id mapped => ?_⟩
  · obtain ⟨entry, mapping⟩ := kept id mapped
    rw [entry] at mapped ⊢
    rw [mapping]
    exact live.mapping id mapped
  · have entry := (kept id mapped).1
    have entry' := (kept other also).1
    rw [entry] at mapped same
    rw [entry'] at also same
    exact live.single id other mapped also same
  · have entry := (kept id mapped).1
    rw [entry] at mapped ⊢
    exact live.named id mapped

theorem cleared_realPtr (entry : MapEntry) : entry.cleared.realPtr = 0 := rfl

theorem Live.clear {gl : Buffers} (live : Live proxy)
    (others : ∀ other, other ≠ id → (proxy.maps other).realPtr ≠ 0 →
      gl.mapping (proxy.maps other).buffer = proxy.gl.mapping (proxy.maps other).buffer) :
    Live ({ proxy with gl }.clear id) := by
  refine live.shrink ?_ fun other mapped => ?_
  · by_cases here : (0 : MapId) = id
    · subst here
      simp [MapProxy.clear, live.zero, MapEntry.cleared, MapEntry.zero]
    · simp [MapProxy.clear, here, live.zero]
  · by_cases here : other = id
    · subst here
      simp [MapProxy.clear, cleared_realPtr] at mapped
    · have entry : ({ proxy with gl }.clear id).maps other = proxy.maps other :=
        Function.update_of_ne here _ _
      rw [entry] at mapped
      exact ⟨entry, others other here mapped⟩

/-- A new entry for a mapping that GL has now, of a buffer that no other has. -/
theorem Live.enter {next : MapProxy} {entry : MapEntry} (live : Live proxy) (used : id ≠ 0)
    (maps : next.maps = Function.update proxy.maps id entry)
    (mapping : next.gl.mapping = Function.update proxy.gl.mapping entry.buffer
      (some ⟨entry.realPtr, entry.offset, entry.length⟩))
    (named : entry.buffer ≠ 0 ∧ hasBinding entry.target = true)
    (apart : ∀ other, (proxy.maps other).realPtr ≠ 0 → (proxy.maps other).buffer ≠ entry.buffer) :
    Live next := by
  refine ⟨?_, fun other mapped => ?_, fun other also mapped mapped' same => ?_, fun other mapped => ?_⟩
  · rw [maps, Function.update_of_ne used.symm, live.zero]
  · rw [maps] at mapped ⊢
    rw [mapping]
    by_cases here : other = id
    · subst here
      simp
    · rw [Function.update_of_ne here] at mapped ⊢
      rw [Function.update_of_ne (apart other mapped)]
      exact live.mapping other mapped
  · rw [maps] at mapped mapped' same
    by_cases here : other = id
    · by_cases there : also = id
      · rw [here, there]
      · rw [Function.update_of_ne there] at mapped' same
        rw [here, Function.update_self] at same
        exact absurd same.symm (apart also mapped')
    · rw [Function.update_of_ne here] at mapped same
      by_cases there : also = id
      · rw [there, Function.update_self] at same
        exact absurd same (apart other mapped)
      · rw [Function.update_of_ne there] at mapped' same
        exact live.single other also mapped mapped' same
  · rw [maps] at mapped ⊢
    by_cases here : other = id
    · rw [here, Function.update_self]
      exact named
    · rw [Function.update_of_ne here] at mapped ⊢
      exact live.named other mapped

/-! ## A map -/

/-- The proxy before it asks GL: the buffer is bound, and what is tracked of it
under the target is unmapped. -/
def ready (proxy : MapProxy) (buffer target : UInt32) : MapProxy :=
  (if proxy.gl.binding target ≠ buffer then proxy.bindBuffer target buffer else proxy).unmapTracked
    buffer target

/-- GL maps the buffer. -/
def Accepts (proxy : MapProxy) (buffer target answer : UInt32) : Prop :=
  answer ≠ 0 ∧ buffer ≠ 0 ∧ hasBinding target = true ∧
    ((ready proxy buffer target).gl.mapping buffer).isNone = true

theorem tracked_some (found : proxy.tracked buffer target = some id) :
    id ≠ 0 ∧ (proxy.maps id).realPtr ≠ 0 ∧ (proxy.maps id).buffer = buffer ∧
      (proxy.maps id).target = target := by
  obtain ⟨used, test⟩ := find_mapIds found
  simp only [Bool.and_eq_true, bne_iff_ne, beq_iff_eq] at test
  exact ⟨used, test.1.1, test.1.2, test.2⟩

theorem binding_moved (proxy : MapProxy) (buffer target : UInt32) :
    (if proxy.gl.binding target ≠ buffer then proxy.bindBuffer target buffer
      else proxy).gl.binding target = if hasBinding target then buffer else 0 := by
  split_ifs with moved known known
  · exact binding_bindBuffer.trans (by simp [known])
  · exact binding_bindBuffer.trans (by simp [known])
  · exact not_ne_iff.mp moved
  · simp [Buffers.binding, known]

theorem maps_moved (proxy : MapProxy) (buffer target : UInt32) :
    (if proxy.gl.binding target ≠ buffer then proxy.bindBuffer target buffer else proxy).maps =
        proxy.maps ∧
      (if proxy.gl.binding target ≠ buffer then proxy.bindBuffer target buffer
        else proxy).gl.mapping = proxy.gl.mapping := by
  split_ifs
  · exact ⟨rfl, rfl⟩
  · exact ⟨rfl, rfl⟩

/-- What is left of the tables before GL is asked, and of the mappings where the
buffer can be bound. -/
theorem ready_maps (proxy : MapProxy) (buffer target : UInt32) :
    (proxy.tracked buffer target = none ∧ (ready proxy buffer target).maps = proxy.maps ∧
        (ready proxy buffer target).gl.mapping = proxy.gl.mapping) ∨
      ∃ id, proxy.tracked buffer target = some id ∧
        (ready proxy buffer target).maps =
          Function.update proxy.maps id (proxy.maps id).cleared ∧
        (buffer ≠ 0 → hasBinding target = true →
          (ready proxy buffer target).gl.mapping = Function.update proxy.gl.mapping buffer none) := by
  obtain ⟨maps, mapping⟩ := maps_moved proxy buffer target
  have binding := binding_moved proxy buffer target
  unfold ready
  generalize (if proxy.gl.binding target ≠ buffer then proxy.bindBuffer target buffer
    else proxy) = moved at maps mapping binding
  have same : moved.tracked buffer target = proxy.tracked buffer target := by
    simp only [MapProxy.tracked, maps]
  unfold MapProxy.unmapTracked
  rw [same]
  cases found : proxy.tracked buffer target with
  | none => exact .inl ⟨rfl, maps, mapping⟩
  | some id =>
      refine .inr ⟨id, rfl, by simp only [MapProxy.clear, maps], fun nonzero known => ?_⟩
      funext name
      simp only [MapProxy.clear, mapping_unmapBuffer, binding, known, if_true, mapping]
      by_cases here : name = buffer
      · simp [here, nonzero]
      · simp [here]

theorem ready_cases (live : Live proxy) (buffer target : UInt32) :
    (proxy.tracked buffer target = none ∧ (ready proxy buffer target).maps = proxy.maps ∧
        (ready proxy buffer target).gl.mapping = proxy.gl.mapping) ∨
      ∃ id, proxy.tracked buffer target = some id ∧
        (ready proxy buffer target).maps =
          Function.update proxy.maps id (proxy.maps id).cleared ∧
        (ready proxy buffer target).gl.mapping = Function.update proxy.gl.mapping buffer none := by
  refine (ready_maps proxy buffer target).imp_right ?_
  rintro ⟨id, found, maps, mapping⟩
  obtain ⟨-, mapped, rfl, rfl⟩ := tracked_some found
  obtain ⟨nonzero, known⟩ := live.named id mapped
  exact ⟨id, found, maps, mapping nonzero known⟩

theorem binding_ready (proxy : MapProxy) (buffer target : UInt32) :
    (ready proxy buffer target).gl.binding target = if hasBinding target then buffer else 0 := by
  have binding := binding_moved proxy buffer target
  unfold ready
  generalize (if proxy.gl.binding target ≠ buffer then proxy.bindBuffer target buffer
    else proxy) = moved at binding
  unfold MapProxy.unmapTracked
  cases moved.tracked buffer target with
  | none => exact binding
  | some id => exact binding_unmapBuffer.trans binding

theorem map_refused (offset length : Int64) (access : UInt32)
    (refused : ¬ Accepts proxy buffer target answer) :
    (proxy.hGlMapBufferRange target offset length access buffer answer).2.result = 0 ∧
      (proxy.hGlMapBufferRange target offset length access buffer answer).1.maps =
        (ready proxy buffer target).maps ∧
      (proxy.hGlMapBufferRange target offset length access buffer answer).1.gl.mapping =
        (ready proxy buffer target).gl.mapping := by
  have asked : (ready proxy buffer target).gl.mapBufferRange target offset.toInt32 length.toInt32 answer =
      ((ready proxy buffer target).gl, 0) := by
    refine if_neg fun way => refused ?_
    rw [binding_ready] at way
    by_cases known : hasBinding target = true
    · simp only [known, if_true] at way
      exact ⟨way.1, way.2.1, known, way.2.2⟩
    · simp [known] at way
  simp only [MapProxy.hGlMapBufferRange]
  rw [← ready, asked]
  refine ⟨rfl, rfl, ?_⟩
  simp only [if_true]
  split_ifs <;> rfl

theorem map_accepted (offset length : Int64) (access : UInt32)
    (accepts : Accepts proxy buffer target answer) :
    (proxy.hGlMapBufferRange target offset length access buffer answer).1.gl.mapping =
        Function.update (ready proxy buffer target).gl.mapping buffer
          (some ⟨answer, offset.toInt32, length.toInt32⟩) ∧
      match (ready proxy buffer target).freeId with
      | some id =>
          (proxy.hGlMapBufferRange target offset length access buffer answer).2.result = id ∧
          (proxy.hGlMapBufferRange target offset length access buffer answer).1.maps =
            Function.update (ready proxy buffer target).maps id
              { realPtr := answer, shmOffset := 0, length := length.toInt32, target,
                offset := offset.toInt32, buffer, access }
      | none =>
          (proxy.hGlMapBufferRange target offset length access buffer answer).2.result = 0 ∧
          (proxy.hGlMapBufferRange target offset length access buffer answer).1.maps =
            (ready proxy buffer target).maps := by
  obtain ⟨pointer, named, known, free⟩ := accepts
  have bound : (ready proxy buffer target).gl.binding target = buffer := by
    rw [binding_ready, if_pos known]
  have asked : (ready proxy buffer target).gl.mapBufferRange target offset.toInt32 length.toInt32
      answer = ({ (ready proxy buffer target).gl with
          mapping := Function.update (ready proxy buffer target).gl.mapping buffer
            (some ⟨answer, offset.toInt32, length.toInt32⟩) }, answer) := by
    unfold Buffers.mapBufferRange
    rw [bound]
    exact if_pos ⟨pointer, named, free⟩
  simp only [MapProxy.hGlMapBufferRange]
  rw [← ready, asked]
  simp only [if_neg pointer, MapProxy.allocMap]
  have same (gl : Buffers) :
      ({ ready proxy buffer target with gl } : MapProxy).freeId = (ready proxy buffer target).freeId :=
    rfl
  rw [same]
  cases (ready proxy buffer target).freeId with
  | none => exact ⟨by split_ifs <;> rfl, rfl, rfl⟩
  | some id => exact ⟨by split_ifs <;> rfl, rfl, rfl⟩

end

end GlesBridge.Mapping
