import GlesBridge.Mapping.Failure

namespace GlesBridge.Mapping

open GlesBridge.Gl GlesBridge.Shared GlesBridge.Stub GlesBridge.Proxy GlesBridge.Systems

/-! What a buffer holds when the client has mapped it, has written to some places
and has unmapped it. -/

def glMapInvalidateRangeBit : UInt32 := 0x0004
def glMapInvalidateBufferBit : UInt32 := 0x0008

/-! ## Stores -/

/-- Bytes after stores, the last of which wins. -/
def written (writes : List (Nat × UInt8)) (bytes : Nat → UInt8) : Nat → UInt8 :=
  writes.foldl (fun bytes write => Function.update bytes write.1 write.2) bytes

section

variable {writes : List (Nat × UInt8)} {bytes other : Nat → UInt8} {place start size : Nat}

theorem written_of_not_mem (spared : place ∉ writes.map Prod.fst) :
    written writes bytes place = bytes place := by
  induction writes generalizing bytes with
  | nil => rfl
  | cons write rest ih =>
      rw [List.map_cons, List.mem_cons, not_or] at spared
      exact (ih spared.2).trans (Function.update_of_ne spared.1 ..)

theorem written_congr (same : bytes place = other place) :
    written writes bytes place = written writes other place := by
  induction writes generalizing bytes other with
  | nil => exact same
  | cons write rest ih =>
      refine ih ?_
      dsimp only
      by_cases here : place = write.1
      · rw [here, Function.update_self, Function.update_self]
      · rw [Function.update_of_ne here, Function.update_of_ne here, same]

/-- What was there before makes no difference where something is stored. -/
theorem written_of_mem (stored : place ∈ writes.map Prod.fst) :
    written writes bytes place = written writes other place := by
  induction writes generalizing bytes other with
  | nil => cases stored
  | cons write rest ih =>
      by_cases later : place ∈ rest.map Prod.fst
      · exact ih later
      · rw [List.map_cons, List.mem_cons] at stored
        obtain rfl := stored.resolve_right later
        have first : Function.update bytes write.1 write.2 write.1 =
            Function.update other write.1 write.2 write.1 := by
          rw [Function.update_self, Function.update_self]
        change written rest _ write.1 = written rest _ write.1
        exact written_congr first

theorem overwrite_within (within : place < size) (data : Nat → UInt8) :
    overwrite start size data bytes (start + place) = data place := by
  rw [overwrite, if_pos (by omega), Nat.add_sub_cancel_left]

theorem overwrite_outside (outside : place < start ∨ start + size ≤ place) (data : Nat → UInt8) :
    overwrite start size data bytes place = bytes place :=
  if_neg (by omega)

/-- Two ways to fill the same place differ only in the bytes that they put there. -/
theorem overwrite_eq_iff {shorter : Nat} {data whole : Nat → UInt8} (shorter_le : shorter ≤ size) :
    overwrite start shorter data bytes = overwrite start size whole bytes ↔
      (∀ place < shorter, data place = whole place) ∧
        ∀ place, shorter ≤ place → place < size → whole place = bytes (start + place) := by
  constructor
  · intro same
    constructor
    · intro place within
      have here := congrFun same (start + place)
      rwa [overwrite_within within, overwrite_within (by omega)] at here
    · intro place past within
      have here := congrFun same (start + place)
      rw [overwrite_outside (by omega), overwrite_within within] at here
      exact here.symm
  · rintro ⟨copied, left⟩
    funext place
    by_cases outside : place < start ∨ start + size ≤ place
    · rw [overwrite_outside outside, overwrite_outside (by omega)]
    · obtain ⟨distance, rfl⟩ := Nat.exists_eq_add_of_le (by omega : start ≤ place)
      have within : distance < size := by omega
      rw [overwrite_within within]
      by_cases short : distance < shorter
      · rw [overwrite_within short, copied distance short]
      · rw [overwrite_outside (by omega), left distance (by omega) within]

end

/-! ## An open mapping -/

/-- `glMapBufferRange` makes a mapping: the stub has none to hand out again, the
driver grants it, and an index and memory are found. What is read back fits the
arena, or the stub ends. Nothing is invalidated or left to be flushed. -/
structure NewMapping (current : Ctx) (state : MapStub × MapProxy) (target access answer : UInt32)
    (start size : Nat) (malloc : UInt64) : Prop where
  new : state.1.reused target (state.1.mirrors.boundBuffer current target) (.ofNat start)
    (.ofNat size) access = none
  granted : DriverMaps state.2 (state.1.mirrors.boundBuffer current target) target answer
  index : (state.2.tracked (state.1.mirrors.boundBuffer current target) target).isSome = true ∨
    state.2.freeId.isSome = true
  memory : malloc ≠ 0
  arrives : access &&& glMapReadBit ≠ 0 → size ≤ glesBridgeDataSize
  keeps : access &&& (glMapInvalidateRangeBit ||| glMapInvalidateBufferBit) = 0
  whole : access &&& glMapFlushExplicitBit = 0
  positive : 0 < size
  within : start + size < 2147483648

/-- Both sides have the mapping, and GL too. -/
structure Opened (state : MapStub × MapProxy) (id : MapId) (target buffer access answer : UInt32)
    (start size : Nat) (malloc : UInt64) : Prop where
  used : id ≠ 0
  found : state.1.mappingOf buffer = some id
  entry : state.1.stubMaps id =
    { id := .ofNat id, ptr := malloc, length := .ofNat size, target, offset := .ofNat start, buffer,
      access }
  maps : state.2.maps id =
    { realPtr := answer, shmOffset := 0, length := .ofNat size, target, offset := .ofNat start,
      buffer, access }
  live : state.2.gl.mapping buffer = some ⟨answer, .ofNat start, .ofNat size⟩
  pointer : answer ≠ 0
  nonzero : buffer ≠ 0

section

variable {current : Ctx} {state next : MapStub × MapProxy} {stub : MapStub} {proxy : MapProxy}
  {id : MapId} {target buffer access answer : UInt32} {start size : Nat} {malloc : UInt64}

/-- The loop over the table leaves no other entry of the buffer. -/
theorem mappingOf_mapped {served : MapAnswer} (stub : MapStub) (target buffer access : UInt32)
    (offset length : Int64) (given : served.result ≠ 0) (memory : malloc ≠ 0) :
    (stub.mapped target buffer offset length access malloc served).mappingOf buffer =
        some served.result ∧
      (stub.mapped target buffer offset length access malloc served).stubMaps served.result =
        { id := .ofNat served.result, ptr := malloc, length, target, offset, buffer, access } ∧
      (stub.mapped target buffer offset length access malloc served).memory malloc =
        (if access &&& glMapReadBit ≠ 0 then served.bytes else stub.memory malloc) ∧
      (stub.mapped target buffer offset length access malloc served).mirrors = stub.mirrors := by
  have succeeds : ¬ (served.result = 0 ∨ malloc = 0) := by simp [given, memory]
  simp only [MapStub.mapped, if_neg succeeds]
  generalize readBack : (if access &&& glMapReadBit ≠ 0 then
      { stub with memory := Function.update stub.memory malloc served.bytes }
    else stub) = read
  have bytes : read.memory malloc =
      (if access &&& glMapReadBit ≠ 0 then served.bytes else stub.memory malloc) := by
    rw [← readBack]
    split_ifs
    · exact Function.update_self ..
    · rfl
  have mirrors : read.mirrors = stub.mirrors := by
    rw [← readBack]
    split_ifs <;> rfl
  generalize entry :
    ({ id := .ofNat served.result, ptr := malloc, length, target, offset, buffer, access } :
      StubMapEntry) = made
  have here : ((read.freeStale served.result buffer).enter served.result made).stubMaps
      served.result = made := Function.update_self ..
  refine ⟨?_, here, bytes, mirrors⟩
  cases found : ((read.freeStale served.result buffer).enter served.result made).mappingOf
      buffer with
  | none =>
      have test := find_mapIds_none.mp found served.result given
      rw [here, ← entry] at test
      simp [memory] at test
  | some other =>
      obtain ⟨used, test⟩ := find_mapIds found
      by_contra apart
      have differs : other ≠ served.result := fun same => apart (congrArg some same)
      have there : ((read.freeStale served.result buffer).enter served.result made).stubMaps other =
          (read.freeStale served.result buffer).stubMaps other := Function.update_of_ne differs ..
      rw [there] at test
      simp only [MapStub.freeStale, mem_mapIds] at test
      split_ifs at test with stale
      · simp [StubMapEntry.zero] at test
      · simp only [Bool.and_eq_true] at test
        exact stale ⟨used, by simp [differs, test.1, test.2]⟩

theorem answer_bytes
    (given : (proxy.hGlMapBufferRange target (.ofNat start) (.ofNat size) access buffer
      answer).2.result ≠ 0) :
    (proxy.hGlMapBufferRange target (.ofNat start) (.ofNat size) access buffer answer).2.bytes =
      (proxy.hGlMapBufferRange target (.ofNat start) (.ofNat size) access buffer
        answer).1.gl.mappedBytes buffer := by
  revert given
  simp only [MapProxy.hGlMapBufferRange]
  split_ifs
  · exact fun given => absurd rfl given
  · exact fun _ => rfl
  · exact fun given => absurd rfl given
  · exact fun _ => rfl

/-- A new mapping shows the client the bytes of the buffer if it may read them. -/
theorem NewMapping.opened
    (mapping : NewMapping current state target access answer start size malloc) :
    let buffer := state.1.mirrors.boundBuffer current target
    ∃ id next, (mapExchange current).direct.step state
        (.glMapBufferRange target (.ofNat start) (.ofNat size) access answer malloc) = some next ∧
      Opened next id target buffer access answer start size malloc ∧
      next.1.mirrors = state.1.mirrors ∧ next.2.gl.bytes = state.2.gl.bytes ∧
      next.1.memory malloc =
        if access &&& glMapReadBit ≠ 0 then fun place => state.2.gl.bytes buffer (start + place)
        else state.1.memory malloc := by
  obtain ⟨stub, proxy⟩ := state
  intro buffer
  have awaits : stub.mapCall current
      (.glMapBufferRange target (.ofNat start) (.ofNat size) access answer malloc) =
        .await (.glMapBufferRange target (.ofNat start) (.ofNat size) access buffer answer)
          (stub.mapped target buffer (.ofNat start) (.ofNat size) access malloc) :=
    if_neg (by rw [mapping.new]; exact Bool.false_ne_true)
  have given := (accepted_result (.ofNat start) (.ofNat size) access mapping.granted).mpr
    mapping.index
  obtain ⟨live, entered⟩ := map_accepted (.ofNat start) (.ofNat size) access
    (accepts_iff.mpr mapping.granted)
  have narrowStart : (Int64.ofNat start).toInt32 = .ofNat start := Int64.toInt32_ofNat'
  have narrowSize : (Int64.ofNat size).toInt32 = .ofNat size := Int64.toInt32_ofNat'
  rw [narrowStart, narrowSize] at live entered
  have shown := answer_bytes given
  have same := bytes_map proxy target buffer access answer (.ofNat start) (.ofNat size)
  have here := congrFun live buffer
  rw [Function.update_self] at here
  have maps : (proxy.hGlMapBufferRange target (.ofNat start) (.ofNat size) access buffer answer).1.maps
      (proxy.hGlMapBufferRange target (.ofNat start) (.ofNat size) access buffer answer).2.result =
        { realPtr := answer, shmOffset := 0, length := .ofNat size, target, offset := .ofNat start,
          buffer, access } := by
    cases index : (ready proxy buffer target).freeId with
    | none =>
        rw [index] at entered
        exact absurd entered.1 given
    | some id =>
        rw [index] at entered
        rw [entered.2, entered.1, Function.update_self]
  generalize served : proxy.hGlMapBufferRange target (.ofNat start) (.ofNat size) access buffer
    answer = outcome at given live entered shown same here maps
  have step : (mapExchange current).direct.step (stub, proxy)
      (.glMapBufferRange target (.ofNat start) (.ofNat size) access answer malloc) =
        some (stub.mapped target buffer (.ofNat start) (.ofNat size) access malloc outcome.2,
          outcome.1) := by
    have direct : (mapExchange current).direct.step (stub, proxy)
        (.glMapBufferRange target (.ofNat start) (.ofNat size) access answer malloc) = _ :=
      direct_await awaits
    rw [direct, ← served]
    rfl
  obtain ⟨found, entry, memory, mirrors⟩ := mappingOf_mapped stub target buffer access (.ofNat start)
    (.ofNat size) given mapping.memory
  refine ⟨outcome.2.result, _, step, ?_, mirrors, same, ?_⟩
  · exact ⟨given, found, entry, maps, here, mapping.granted.1, mapping.granted.2.1⟩
  · have first : (Int32.ofNat start).toNatClampNeg = start :=
      Int32.toNatClampNeg_ofNat_of_lt (by have := mapping.within; omega)
    have bytes : outcome.2.bytes = fun place => proxy.gl.bytes buffer (start + place) := by
      funext place
      rw [shown]
      change outcome.1.gl.mappedBytes buffer place = _
      simp only [Buffers.mappedBytes, here, same, first]
    rw [memory, bytes]

/-! ## The way back -/

theorem run_stores (stub : MapStub) (malloc : UInt64) (writes : List (Nat × UInt8)) :
    (mapExchange current).direct.run (stub, proxy)
        (writes.map fun write => .store malloc write.1 write.2) =
      some ({ stub with
        memory := Function.update stub.memory malloc (written writes (stub.memory malloc)) },
        proxy) := by
  induction writes generalizing stub with
  | nil =>
      have same : Function.update stub.memory malloc (written [] (stub.memory malloc)) = stub.memory :=
        Function.update_eq_self ..
      rw [same]
      rfl
  | cons write rest ih =>
      rw [List.map_cons, Machine.run]
      refine (Option.bind_some ..).trans ((ih { stub with
        memory := Function.update stub.memory malloc
          (Function.update (stub.memory malloc) write.1 write.2) }).trans ?_)
      simp only [Function.update_self, Function.update_idem]
      rfl

theorem handle_unmap (id : MapId) (size : Nat) (data : Nat → UInt8) :
    proxy.handleMap (.glUnmapBuffer target (.ofNat id) size data) =
      (proxy.hGlUnmapBuffer target id size data).map fun proxy => (proxy, ⟨0, fun _ => 0⟩) := by
  have small : (id : Nat) < 2 ^ 32 := id.isLt.trans (by decide)
  have number : (UInt32.ofNat id).toNat = id := UInt32.toNat_ofNat_of_lt' small
  have below : (UInt32.ofNat id).toNat < maxMaps := number.trans_lt id.isLt
  have index : (⟨(UInt32.ofNat id).toNat, below⟩ : MapId) = id := Fin.ext number
  simp only [MapProxy.handleMap, dif_pos below, index]

theorem Opened.unmapSize
    (opened : Opened state id target buffer access answer start size malloc)
    (whole : access &&& glMapFlushExplicitBit = 0) (within : start + size < 2147483648) :
    state.1.unmapSize id = min size glesBridgeDataSize := by
  have length : (Int64.ofNat size).toUInt64.toNat = size := by
    rw [Int64.toUInt64_ofNat']
    exact UInt64.toNat_ofNat_of_lt' (Nat.lt_trans (by omega : size < 2147483648) (by decide))
  simp only [MapStub.unmapSize, opened.entry, whole, length]
  exact if_neg (fun different => different rfl)

/-- The copy into the real mapping needs the driver to let the client write. -/
theorem Opened.writeBack
    (opened : Opened state id target buffer access answer start size malloc)
    (whole : access &&& glMapFlushExplicitBit = 0) (positive : 0 < size)
    (within : start + size < 2147483648) (data : Nat → UInt8) :
    ∃ after, state.2.writeBack id (min size glesBridgeDataSize) data = some after ∧
      after.gl.bytes =
        if access &&& glMapWriteBit ≠ 0 then
          Function.update state.2.gl.bytes buffer
            (overwrite start (min size glesBridgeDataSize) data (state.2.gl.bytes buffer))
        else state.2.gl.bytes := by
  have length : (Int32.ofNat size).toUInt32.toNat = size := by
    rw [Int32.toUInt32_ofNat']
    exact UInt32.toNat_ofNat_of_lt' (Nat.lt_trans (by omega : size < 2147483648) (by decide))
  have first : (Int32.ofNat start).toNatClampNeg = start :=
    Int32.toNatClampNeg_ofNat_of_lt (by omega)
  have fits : min size glesBridgeDataSize ≤ size := Nat.min_le_left ..
  have some : min size glesBridgeDataSize ≠ 0 := by
    unfold glesBridgeDataSize
    omega
  simp only [MapProxy.writeBack, opened.maps, length]
  by_cases writes : access &&& glMapWriteBit ≠ 0
  · rw [if_pos ⟨opened.used, opened.pointer, some, opened.nonzero, fits, whole, writes⟩,
      if_pos writes]
    simp only [Buffers.store, opened.live, if_true, first]
    exact ⟨_, rfl, rfl⟩
  · rw [if_neg fun all => writes all.2.2.2.2.2.2, if_neg writes]
    exact ⟨_, rfl, rfl⟩

/-- An unmap puts the client's memory where the mapping is, up to the arena's size. -/
theorem Opened.unmap (opened : Opened state id target buffer access answer start size malloc)
    (bound : state.1.mirrors.boundBuffer current target = buffer)
    (whole : access &&& glMapFlushExplicitBit = 0) (positive : 0 < size)
    (within : start + size < 2147483648) :
    ∃ after, (mapExchange current).direct.step state (.glUnmapBuffer target) = some after ∧
      after.2.gl.bytes =
        if access &&& glMapWriteBit ≠ 0 then
          Function.update state.2.gl.bytes buffer
            (overwrite start (min size glesBridgeDataSize) (state.1.memory malloc)
              (state.2.gl.bytes buffer))
        else state.2.gl.bytes := by
  have awaits : state.1.mapCall current (.glUnmapBuffer target) =
      .await (.glUnmapBuffer target (.ofNat id) (min size glesBridgeDataSize)
        (state.1.memory malloc)) fun _ => state.1.clear id := by
    simp only [MapStub.mapCall, MapStub.glUnmapBuffer, bound, opened.found,
      opened.unmapSize whole within, opened.entry]
  obtain ⟨copied, copies, bytes⟩ := opened.writeBack whole positive within (state.1.memory malloc)
  rw [direct_await awaits, handle_unmap]
  simp only [MapProxy.hGlUnmapBuffer, copies, Option.map_some, if_pos opened.used]
  refine ⟨_, rfl, Eq.trans ?_ bytes⟩
  change (Buffers.unmapBuffer _ target).1.bytes = copied.gl.bytes
  unfold Buffers.unmapBuffer
  split_ifs <;> rfl

/-! ## From the map to the unmap -/

/-- The client maps a range, stores bytes in it and unmaps it. -/
def mapWriteUnmap (target access answer : UInt32) (start size : Nat) (malloc : UInt64)
    (writes : List (Nat × UInt8)) : List MapCall :=
  .glMapBufferRange target (.ofNat start) (.ofNat size) access answer malloc ::
    (writes.map (fun write => .store malloc write.1 write.2) ++ [.glUnmapBuffer target])

theorem NewMapping.run
    (mapping : NewMapping current state target access answer start size malloc)
    (writes : List (Nat × UInt8)) :
    let buffer := state.1.mirrors.boundBuffer current target
    let old := fun place => state.2.gl.bytes buffer (start + place)
    let memory := if access &&& glMapReadBit ≠ 0 then old else state.1.memory malloc
    ∃ after, (mapExchange current).direct.run state
        (mapWriteUnmap target access answer start size malloc writes) = some after ∧
      after.2.gl.bytes =
        if access &&& glMapWriteBit ≠ 0 then
          Function.update state.2.gl.bytes buffer
            (overwrite start (min size glesBridgeDataSize) (written writes memory)
              (state.2.gl.bytes buffer))
        else state.2.gl.bytes := by
  intro buffer old memory
  obtain ⟨id, next, maps, opened, mirrors, bytes, shown⟩ := mapping.opened
  obtain ⟨stub, proxy⟩ := next
  have still : Opened ({ stub with
      memory := Function.update stub.memory malloc (written writes (stub.memory malloc)) }, proxy)
      id target buffer access answer start size malloc :=
    ⟨opened.used, opened.found, opened.entry, opened.maps, opened.live, opened.pointer,
      opened.nonzero⟩
  have bound : stub.mirrors.boundBuffer current target = buffer :=
    congrArg (fun mirrors => StubMirrors.boundBuffer mirrors current target) mirrors
  obtain ⟨after, unmaps, final⟩ := still.unmap bound mapping.whole mapping.positive mapping.within
  refine ⟨after, ?_, ?_⟩
  · rw [mapWriteUnmap, Machine.run, maps, Option.bind_some, Machine.run_append, run_stores,
      Option.bind_some, Machine.run, unmaps]
    rfl
  · rw [final]
    simp only [Function.update_self]
    change (if _ then Function.update proxy.gl.bytes buffer _ else proxy.gl.bytes) = _
    rw [bytes, shown]

/-- What the client does not store is what the buffer held: it was read back, or
the memory happened to hold it. Nothing is lost past the arena's size, nor where
the driver does not let the client write. -/
def KeepsRest (access : UInt32) (size : Nat) (writes : List (Nat × UInt8))
    (unread old : Nat → UInt8) : Prop :=
  if access &&& glMapWriteBit ≠ 0 then
    (access &&& glMapReadBit = 0 → ∀ place < min size glesBridgeDataSize,
        place ∉ writes.map Prod.fst → unread place = old place) ∧
      ∀ place, glesBridgeDataSize ≤ place → place < size → written writes old place = old place
  else ∀ place < size, written writes old place = old place

theorem stored_eq_iff {writes : List (Nat × UInt8)} {unread old : Nat → UInt8} {count : Nat} :
    (∀ place < count, written writes (if access &&& glMapReadBit ≠ 0 then old else unread) place =
        written writes old place) ↔
      (access &&& glMapReadBit = 0 → ∀ place < count, place ∉ writes.map Prod.fst →
        unread place = old place) := by
  by_cases reads : access &&& glMapReadBit ≠ 0
  · rw [if_pos reads]
    exact iff_of_true (fun _ _ => rfl) fun none => absurd none reads
  · rw [if_neg reads]
    constructor
    · intro same _ place within spared
      have here := same place within
      rwa [written_of_not_mem spared, written_of_not_mem spared] at here
    · intro same place within
      by_cases stored : place ∈ writes.map Prod.fst
      · exact written_of_mem stored
      · exact written_congr (same (not_ne_iff.mp reads) place within stored)

/-- After the unmap the buffer holds what was stored, and the rest as before,
exactly under `KeepsRest`. -/
theorem unmap_keeps_iff
    (mapping : NewMapping current state target access answer start size malloc)
    (writes : List (Nat × UInt8)) :
    let buffer := state.1.mirrors.boundBuffer current target
    let old := fun place => state.2.gl.bytes buffer (start + place)
    (∃ after, (mapExchange current).direct.run state
        (mapWriteUnmap target access answer start size malloc writes) = some after ∧
      after.2.gl.bytes = Function.update state.2.gl.bytes buffer
        (overwrite start size (written writes old) (state.2.gl.bytes buffer))) ↔
      KeepsRest access size writes (state.1.memory malloc) old := by
  intro buffer old
  obtain ⟨reached, runs, bytes⟩ := mapping.run writes
  have only (wanted : UInt32 → Nat → UInt8) :
      (∃ after, (mapExchange current).direct.run state
          (mapWriteUnmap target access answer start size malloc writes) = some after ∧
        after.2.gl.bytes = wanted) ↔ reached.2.gl.bytes = wanted := by
    rw [runs]
    simp
  rw [only, bytes]
  unfold KeepsRest
  by_cases writable : access &&& glMapWriteBit ≠ 0
  · rw [if_pos writable, if_pos writable, (Function.update_injective _ _).eq_iff,
      overwrite_eq_iff (Nat.min_le_left ..)]
    refine and_congr stored_eq_iff ?_
    constructor
    · exact fun left place past => left place (Nat.le_trans (Nat.min_le_right ..) past)
    · intro left place past within
      have arena : glesBridgeDataSize ≤ place := by omega
      exact left place arena within
  · have nothing : overwrite start 0 old (state.2.gl.bytes buffer) = state.2.gl.bytes buffer :=
      funext fun place => overwrite_outside (by omega) old
    rw [if_neg writable, if_neg writable, Function.eq_update_iff,
      and_iff_left (fun name _ => rfl : ∀ name ≠ buffer, state.2.gl.bytes name = state.2.gl.bytes name)]
    refine Iff.trans (Eq.congr_left nothing.symm) ((overwrite_eq_iff (Nat.zero_le size)).trans ?_)
    constructor
    · exact fun same place within => same.2 place (Nat.zero_le place) within
    · exact fun same => ⟨fun place none => absurd none (Nat.not_lt_zero place),
        fun place _ within => same place within⟩

/-- A mapping that the client may read, too. -/
theorem unmap_keeps_read :
    let state := ((mapExchange 1).direct.run (.zero, .zero) [.glBindBuffer glArrayBuffer 5]).get
      (by decide)
    let buffer := state.1.mirrors.boundBuffer 1 glArrayBuffer
    let old := fun place => state.2.gl.bytes buffer (8 + place)
    ∃ after, (mapExchange 1).direct.run state
        (mapWriteUnmap glArrayBuffer 3 4096 8 16 8192 [(0, 1)]) = some after ∧
      after.2.gl.bytes = Function.update state.2.gl.bytes buffer
        (overwrite 8 16 (written [(0, 1)] old) (state.2.gl.bytes buffer)) :=
  (unmap_keeps_iff
    { new := by decide +kernel
      granted := by decide +kernel
      index := by decide +kernel
      memory := by decide
      arrives := fun _ => by decide
      keeps := by decide
      whole := by decide
      positive := by decide
      within := by decide } [(0, 1)]).mpr
    ⟨fun none => absurd none (by decide), fun place arena within => by
      unfold glesBridgeDataSize at arena
      omega⟩

/-- Only the first byte is stored, and the second is lost. -/
theorem write_map_loses_rest :
    ∃ after, (mapExchange 1).direct.run (.zero, .zero)
        (.glBindBuffer glArrayBuffer 5 :: .glBufferData glArrayBuffer (fun _ => 7) true ::
          mapWriteUnmap glArrayBuffer glMapWriteBit 4096 0 16 8192 [(0, 1)]) = some after ∧
      after.2.gl.bytes 5 0 = 1 ∧ after.2.gl.bytes 5 1 ≠ 7 := by
  refine ⟨_, (Option.some_get (by decide +kernel)).symm, ?_, ?_⟩
  · decide +kernel
  · decide +kernel

end

end GlesBridge.Mapping
