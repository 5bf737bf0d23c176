import GlesBridge.Mapping.Count
import GlesBridge.Mapping.Failure
import GlesBridge.Proxy.BufferRange

namespace GlesBridge.Mapping

open GlesBridge.Gl GlesBridge.Shared GlesBridge.Stub GlesBridge.Proxy GlesBridge.Systems

/-! The cache of `glBindBufferRange` over runs of calls, each of which reaches GL before the
next one.
-/

inductive RangeCall where
  | glBindBufferRange (target index buffer : UInt32) (offset size : Int64)
  | glBindBufferBase (target index buffer : UInt32)
  | glBufferSubData (target : UInt32) (contents : Nat → UInt8) (accepted : Bool)
  | others (call : MapCall)

/-- Where a copy into a range of a mapped buffer arrives in the buffer. -/
def destination (proxy : MapProxy) (buffer : UInt32) (offset : Int32) (count : Nat) : Option Nat :=
  (proxy.mappingOf buffer).bind fun id =>
    let entry := proxy.maps id
    if entry.offset ≤ offset ∧ offset + .ofNat count ≤ entry.offset + entry.length then
      (proxy.gl.mapping buffer).bind fun range =>
        if range.pointer = entry.realPtr then
          some (range.offset.toNatClampNeg + (offset - entry.offset).toNatClampNeg)
        else none
    else none

/-- The real bytes there. -/
def arrived (proxy : MapProxy) (buffer : UInt32) (offset : Int32) (count : Nat) :
    Option (List UInt8) :=
  (destination proxy buffer offset count).map fun start =>
    (List.range count).map fun place => proxy.gl.bytes buffer (start + place)

/-! ## Copies -/

section

variable {proxy after : MapProxy} {buffer : UInt32} {offset : Int32} {count : Nat}
  {data bytes : List UInt8}

theorem destination_congr {other : MapProxy} (maps : other.maps = proxy.maps)
    (mapping : other.gl.mapping = proxy.gl.mapping) (buffer : UInt32) (offset : Int32)
    (count : Nat) : destination other buffer offset count = destination proxy buffer offset count := by
  simp only [destination, MapProxy.mappingOf, maps, mapping]

theorem arrived_congr {other : MapProxy} (maps : other.maps = proxy.maps)
    (mapping : other.gl.mapping = proxy.gl.mapping) (bytes : other.gl.bytes = proxy.gl.bytes)
    (buffer : UInt32) (offset : Int32) (count : Nat) :
    arrived other buffer offset count = arrived proxy buffer offset count := by
  rw [arrived, arrived, destination_congr maps mapping, bytes]

/-- The buffer with the bytes in it. -/
def withCopy (proxy : MapProxy) (buffer : UInt32) (start : Nat) (data : List UInt8) :
    MapProxy :=
  { proxy with
    gl := { proxy.gl with
      bytes := Function.update proxy.gl.bytes buffer
        (overwrite start data.length (fun place => data.getD place 0) (proxy.gl.bytes buffer)) } }

/-- Bytes go where their destination is, or nowhere. -/
theorem copyRange_cases (copied : proxy.copyRange buffer offset data = some after) :
    (after = proxy ∧ (data = [] ∨ destination proxy buffer offset data.length = none)) ∨
      ∃ start, destination proxy buffer offset data.length = some start ∧
        after = withCopy proxy buffer start data := by
  unfold MapProxy.copyRange at copied
  by_cases nothing : data = []
  · rw [if_pos nothing] at copied
    exact .inl ⟨(Option.some.inj copied).symm, .inl nothing⟩
  · rw [if_neg nothing] at copied
    cases found : proxy.mappingOf buffer with
    | none =>
        rw [found] at copied
        exact .inl ⟨(Option.some.inj copied).symm, .inr (by simp [destination, found])⟩
    | some id =>
        rw [found] at copied
        dsimp only at copied
        split_ifs at copied with inside
        · obtain ⟨gl, stored, rfl⟩ := Option.map_eq_some_iff.mp copied
          unfold Buffers.storeAt at stored
          cases live : proxy.gl.mapping buffer with
          | none => simp [live] at stored
          | some range =>
              rw [live] at stored
              dsimp only at stored
              split_ifs at stored with same
              refine .inr ⟨range.offset.toNatClampNeg +
                (offset - (proxy.maps id).offset).toNatClampNeg, ?_, ?_⟩
              · simp only [destination, found, Option.bind_some, if_pos inside, live, if_pos same]
              · cases stored
                rfl
        · refine .inl ⟨(Option.some.inj copied).symm, .inr ?_⟩
          simp only [destination, found, Option.bind_some, if_neg inside]

theorem withCopy_place {start place : Nat} (inside : place < data.length) :
    (withCopy proxy buffer start data).gl.bytes buffer (start + place) =
      data.getD place 0 := by
  have within : start ≤ start + place ∧ start + place < start + data.length := by omega
  simp [withCopy, overwrite, within]

/-- What was copied is what has arrived. -/
theorem arrived_of_copied (copied : proxy.copyRange buffer offset data = some after)
    (there : arrived after buffer offset data.length = some bytes) : bytes = data := by
  obtain ⟨start, found, rfl⟩ := Option.map_eq_some_iff.mp there
  rcases copyRange_cases copied with ⟨rfl, rfl | nowhere⟩ | ⟨place, goes, rfl⟩
  · rfl
  · rw [nowhere] at found
    cases found
  · have same : destination (withCopy proxy buffer place data) buffer offset data.length =
        destination proxy buffer offset data.length := destination_congr rfl rfl ..
    obtain rfl : place = start := by
      rw [same, goes] at found
      exact Option.some.inj found
    refine List.ext_getElem (by simp) fun index _ below => ?_
    simp [withCopy_place below, below]

/-- Bytes that have arrived already change nothing. -/
theorem bytes_of_arrived (there : ∀ bytes, arrived proxy buffer offset data.length = some bytes → bytes = data)
    (copied : proxy.copyRange buffer offset data = some after) : after.gl.bytes = proxy.gl.bytes := by
  rcases copyRange_cases copied with ⟨rfl, -⟩ | ⟨start, goes, rfl⟩
  · rfl
  · have same := there _ (by rw [arrived, goes]; rfl)
    have byte (place : Nat) (below : place < data.length) :
        proxy.gl.bytes buffer (start + place) = data.getD place 0 := by
      have taken := congrArg (fun list : List UInt8 => list.getD place 0) same
      simpa [below] using taken
    refine (Function.update_eq_self_iff).mpr (funext fun place => ?_)
    unfold overwrite
    split_ifs with inside
    · have split : start + (place - start) = place := by omega
      have stays := byte (place - start) (by omega)
      rw [split] at stays
      exact stays.symm
    · rfl

theorem copyRange_frame (copied : proxy.copyRange buffer offset data = some after) :
    after.maps = proxy.maps ∧ after.gl.mapping = proxy.gl.mapping ∧ after.gl.bound = proxy.gl.bound := by
  rcases copyRange_cases copied with ⟨rfl, -⟩ | ⟨start, -, rfl⟩
  · exact ⟨rfl, rfl, rfl⟩
  · exact ⟨rfl, rfl, rfl⟩

/-- A copy goes wrong only by a pointer that is left of a mapping that has ended. -/
theorem copyRange_some
    (live : ∀ id, proxy.mappingOf buffer = some id →
      ∃ range, proxy.gl.mapping buffer = some range ∧ range.pointer = (proxy.maps id).realPtr) :
    ∃ after, proxy.copyRange buffer offset data = some after := by
  unfold MapProxy.copyRange
  split_ifs
  · exact ⟨_, rfl⟩
  · cases found : proxy.mappingOf buffer with
    | none => exact ⟨_, rfl⟩
    | some id =>
        obtain ⟨range, mapped, same⟩ := live id found
        dsimp only
        split_ifs
        · simp [Buffers.storeAt, mapped, same]
        · exact ⟨_, rfl⟩

end

/-! ## Runs -/

/-- The bytes that a call takes a hash of. -/
def hashedBytes (stub : MapStub) (buffer : UInt32) (offset size : Int64) : Option (List UInt8) :=
  (stub.unsynchronizedMap buffer).bind fun entry =>
    if entry.fits offset size = true then some (stub.rangeBytes offset size entry) else none

abbrev CacheSlot := Fin bufrangeCacheSlots

/-- The slot of a call that the fast path is for. -/
def slotOf (target index : UInt32) : Option CacheSlot :=
  if cached : MapStub.Cached target index then some ⟨index.toNat, cached.2⟩ else none

/-- What the calls have done so far for the entries of the cache. -/
structure RangeHistory where
  /-- The call of the entry was taken, and the index has not been bound otherwise since. -/
  bound : CacheSlot → Prop
  /-- The buffer of the last call that bound `GL_UNIFORM_BUFFER`. -/
  uniform : UInt32
  /-- The bytes whose hash the entry has. -/
  hashed : CacheSlot → List UInt8
  /-- They went along with their call, and have stayed where they arrived. -/
  kept : CacheSlot → Prop

structure RangeWorld where
  stub : MapStub
  proxy : RangeProxy
  history : RangeHistory

namespace RangeWorld

def start : RangeWorld where
  stub := .zero
  proxy := .zero
  history :=
    { bound := fun _ => True
      uniform := 0
      hashed := fun _ => []
      kept := fun _ => False }

variable (driver : RangeDriver) (current : Ctx) (world : RangeWorld)

def entry (slot : CacheSlot) : BufferRangeCacheEntry := world.stub.mirrors.bufrangeCache current slot

/-- What has arrived where the range of an entry is copied to. -/
def arrivedFor (proxy : RangeProxy) (entry : BufferRangeCacheEntry) : Option (List UInt8) :=
  arrived proxy.maps entry.buffer entry.offset.toInt32 entry.size.toUInt64.toNat

/-- A step leaves an entry and what has arrived for it. -/
def Stays (stub : MapStub) (proxy : RangeProxy) (slot : CacheSlot) : Prop :=
  stub.mirrors.bufrangeCache current slot = world.entry current slot ∧
    arrivedFor proxy (world.entry current slot) = arrivedFor world.proxy (world.entry current slot)

/-- A mapping is asked for, which may leave nothing of what a buffer held. -/
def MapsAnew (buffer : UInt32) : MapCall → Prop
  | .glMapBufferRange target offset length access _ _ =>
      world.stub.mirrors.boundBuffer current target = buffer ∧
        world.stub.reused target buffer offset length access = none
  | _ => False

def Deletes : MapCall → Prop
  | .glDeleteBuffers _ => True
  | _ => False

/-- What a call of the other functions binds to `GL_UNIFORM_BUFFER`. -/
def uniformAfter : MapCall → UInt32
  | .glBindBuffer target buffer =>
      if target = glUniformBuffer ∧ (world.stub.mirrors.glBindBuffer current target buffer).2 ≠ []
      then buffer
      else world.history.uniform
  | .glDeleteBuffers buffers =>
      if world.history.uniform ∈ buffers then 0 else world.history.uniform
  | _ => world.history.uniform

/-- A call that was sent, with what went along. -/
def afterRange (command : RangeCommand) (stub : MapStub) (proxy : RangeProxy) : RangeWorld :=
  let accepted := driver.range command.target command.index command.buffer command.offset.toInt32
    command.size.toInt32
  let hashing (slot : CacheSlot) : Option (List UInt8) :=
    if slotOf command.target command.index = some slot then
      hashedBytes world.stub command.buffer command.offset command.size
    else none
  { stub
    proxy
    history :=
      { bound := fun slot =>
          if slotOf command.target command.index = some slot then accepted = true
          else world.history.bound slot
        uniform :=
          if command.target = glUniformBuffer ∧ accepted = true then command.buffer
          else world.history.uniform
        hashed := fun slot => (hashing slot).getD (world.history.hashed slot)
        kept := fun slot =>
          match hashing slot with
          | some bytes => command.data = bytes
          | none => world.history.kept slot ∧ world.Stays current stub proxy slot } }

def glBindBufferRange (target index buffer : UInt32) (offset size : Int64) : Option RangeWorld :=
  (world.stub.glBindBufferRange current target index buffer offset size).bind fun made =>
    match made.2 with
    | none => some { world with stub := made.1 }
    | some command =>
        (world.proxy.hGlBindBufferRange driver command).map fun proxy =>
          world.afterRange driver current command made.1 proxy

/-- Nothing is bound both by an empty entry and without a buffer. -/
def glBindBufferBase (target index buffer : UInt32) : RangeWorld :=
  let accepted := driver.base target index buffer
  let proxy := world.proxy.hGlBindBufferBase driver target index buffer
  { world with
    proxy
    history := { world.history with
      bound := fun slot =>
        if slotOf target index = some slot ∧ accepted = true then
          buffer = 0 ∧ (world.entry current slot).buffer = 0
        else world.history.bound slot
      uniform :=
        if target = glUniformBuffer ∧ accepted = true then buffer else world.history.uniform
      kept := fun slot =>
        world.history.kept slot ∧ world.Stays current world.stub proxy slot } }

def glBufferSubData (target : UInt32) (contents : Nat → UInt8) (accepted : Bool) : RangeWorld :=
  let stub := world.stub.glBufferSubData current target
  let proxy := world.proxy.hGlBufferSubData target contents accepted
  { stub
    proxy
    history := { world.history with
      bound := fun slot =>
        world.history.bound slot ∧
          stub.mirrors.bufrangeCache current slot = world.entry current slot
      kept := fun slot => world.history.kept slot ∧ world.Stays current stub proxy slot } }

/-- A deleted buffer goes out of the entries and out of the bindings. -/
def afterOthers (call : MapCall) (stub : MapStub) (maps : MapProxy) : RangeWorld :=
  let proxy : RangeProxy :=
    { maps
      indexed :=
        match call with
        | .glDeleteBuffers buffers => world.proxy.unbindDeleted buffers
        | _ => world.proxy.indexed }
  { stub
    proxy
    history :=
      { bound := fun slot =>
          world.history.bound slot ∧
            (Deletes call ∨ stub.mirrors.bufrangeCache current slot = world.entry current slot)
        uniform := world.uniformAfter current call
        hashed := world.history.hashed
        kept := fun slot =>
          world.history.kept slot ∧ world.Stays current stub proxy slot ∧
            ¬ world.MapsAnew current (world.entry current slot).buffer call } }

def step : RangeCall → Option RangeWorld
  | .glBindBufferRange target index buffer offset size =>
      world.glBindBufferRange driver current target index buffer offset size
  | .glBindBufferBase target index buffer =>
      some (world.glBindBufferBase driver current target index buffer)
  | .glBufferSubData target contents accepted =>
      some (world.glBufferSubData current target contents accepted)
  | .others call =>
      ((mapExchange current).direct.step (world.stub, world.proxy.maps) call).map fun after =>
        world.afterOthers current call after.1 after.2

/-- The fast path keeps the call back. -/
def Skips (target index buffer : UInt32) (offset size : Int64) : Prop :=
  ∃ stub, world.stub.glBindBufferRange current target index buffer offset size = some (stub, none)

/-- What GL holds of the uniform buffers, with all the bytes. -/
structure SameUniforms (before after : RangeProxy) : Prop where
  indexed : after.indexed = before.indexed
  generic : after.maps.gl.bound glUniformBuffer = before.maps.gl.bound glUniformBuffer
  bytes : after.maps.gl.bytes = before.maps.gl.bytes

/-- A call that is kept back could have been sent, and would have changed nothing. -/
def Right : RangeCall → Prop
  | .glBindBufferRange target index buffer offset size =>
      world.Skips current target index buffer offset size →
        ∃ command after,
          world.stub.rangeCommand target index buffer offset size = some command ∧
          world.proxy.hGlBindBufferRange driver command = some after ∧
          SameUniforms world.proxy after
  | _ => True

/-- The test of the fast path. -/
structure Hits (slot : CacheSlot) (buffer : UInt32) (offset size : Int64) : Prop where
  sameBuffer : (world.entry current slot).buffer = buffer
  sameOffset : (world.entry current slot).offset = offset
  sameSize : (world.entry current slot).size = size
  sameHash : ∀ mapped, world.stub.unsynchronizedMap buffer = some mapped →
    mapped.fits offset size = true ∧ (world.entry current slot).hashValid = true ∧
      fnv1aHash (world.stub.rangeBytes offset size mapped) = (world.entry current slot).contentHash

/-- What a call that is kept back must not have had in between. -/
structure Undisturbed (slot : CacheSlot) (index buffer : UInt32) (offset size : Int64) : Prop where
  /-- Nothing else has bound the index, and no other buffer `GL_UNIFORM_BUFFER`. -/
  bindings :
    driver.range glUniformBuffer index buffer offset.toInt32 size.toInt32 = true →
      world.history.bound slot ∧ world.history.uniform = buffer
  /-- What was hashed is still where it arrived, and its hash stands for no other bytes. -/
  contents : ∀ mapped, world.stub.unsynchronizedMap buffer = some mapped →
    mapped.holds offset size = true →
      let bytes := world.stub.rangeBytes offset size mapped
      world.history.kept slot ∧
        (fnv1aHash bytes = fnv1aHash (world.history.hashed slot) → bytes = world.history.hashed slot)
  /-- Nothing would go along from a mapping for another target. -/
  target : ∀ id, world.stub.mappingOf buffer = some id →
    (world.stub.stubMaps id).target ≠ glUniformBuffer →
    ¬ ((world.stub.stubMaps id).Unsynchronized ∧ (world.stub.stubMaps id).holds offset size = true)
  /-- The proxy has no pointer left of a mapping that has ended. -/
  live : ∀ mapped, world.stub.unsynchronizedMap buffer = some mapped →
    mapped.holds offset size = true →
      ∀ id, world.proxy.maps.mappingOf buffer = some id →
        ∃ range, world.proxy.maps.gl.mapping buffer = some range ∧
          range.pointer = (world.proxy.maps.maps id).realPtr

/-- What is asked of a call that the test lets pass. -/
def Orderly : RangeCall → Prop
  | .glBindBufferRange target index buffer offset size =>
      ∀ slot, slotOf target index = some slot → world.Hits current slot buffer offset size →
        world.Undisturbed driver slot index buffer offset size
  | _ => True

end RangeWorld

def rangeMachine (driver : RangeDriver) (current : Ctx) : Machine RangeWorld RangeCall where
  step world call := world.step driver current call

/-- What is found first stays first under a stronger test that it meets. -/
theorem find?_of_stronger {α : Type} {list : List α} {weak strong : α → Bool} {element : α}
    (found : list.find? weak = some element) (meets : strong element = true)
    (stronger : ∀ other, strong other = true → weak other = true) :
    list.find? strong = some element := by
  induction list with
  | nil => cases found
  | cons first rest ih =>
      rw [List.find?_cons] at found ⊢
      cases passes : weak first with
      | true =>
          rw [passes] at found
          cases found
          rw [meets]
      | false =>
          rw [passes] at found
          have fails : strong first = false := by
            refine Bool.eq_false_iff.mpr fun strongly => ?_
            rw [stronger first strongly] at passes
            cases passes
          rw [fails]
          exact ih found

/-! ## The cache -/

section

open StubMirrors (rangeEntry rangeHash)

variable {stub next : MapStub} {current : Ctx} {target index buffer : UInt32}
  {offset size : Int64} {slot : CacheSlot} {entry : BufferRangeCacheEntry}
  {mapped : Option MappedRange} {command : RangeCommand}

theorem slotOf_eq_some : slotOf target index = some slot ↔
    target = glUniformBuffer ∧ index = .ofNat slot := by
  unfold slotOf
  constructor
  · intro found
    split_ifs at found with cached
    cases found
    exact ⟨cached.1, (UInt32.ofNat_toNat).symm⟩
  · rintro ⟨rfl, rfl⟩
    have same : (UInt32.ofNat slot).toNat = slot :=
      UInt32.toNat_ofNat_of_lt' (Nat.lt_trans slot.isLt (by decide))
    rw [dif_pos ⟨rfl, by rw [same]; exact slot.isLt⟩]
    exact congrArg some (Fin.ext same)

theorem rangeEntry_key (entry : BufferRangeCacheEntry) (buffer : UInt32) (offset size : Int64)
    (mapped : Option MappedRange) :
    (rangeEntry entry buffer offset size mapped).1.buffer = buffer ∧
      (rangeEntry entry buffer offset size mapped).1.offset = offset ∧
      (rangeEntry entry buffer offset size mapped).1.size = size := by
  unfold rangeEntry
  by_cases same : entry.buffer = buffer ∧ entry.offset = offset ∧ entry.size = size
  · rw [if_pos same]
    cases mapped with
    | none => exact same
    | some map =>
        cases rangeHash offset size (some map) with
        | none => exact same
        | some hash =>
            simp only [Option.isNone_some, Bool.false_eq_true, if_false]
            split_ifs
            · exact same
            · exact same
  · rw [if_neg same]
    cases rangeHash offset size mapped with
    | none => exact ⟨rfl, rfl, rfl⟩
    | some hash => exact ⟨rfl, rfl, rfl⟩

/-- A call that is kept back has passed the test. -/
theorem rangeEntry_unsent (unsent : (rangeEntry entry buffer offset size mapped).2 = false) :
    (rangeEntry entry buffer offset size mapped).1 = entry ∧
      (mapped.isSome = true →
        rangeHash offset size mapped = some entry.contentHash ∧ entry.hashValid = true) := by
  unfold rangeEntry at unsent ⊢
  by_cases same : entry.buffer = buffer ∧ entry.offset = offset ∧ entry.size = size
  · simp only [if_pos same] at unsent ⊢
    cases mapped with
    | none => simp
    | some map =>
        cases hashes : rangeHash offset size (some map) with
        | none => simp [hashes] at unsent
        | some hash =>
            simp only [hashes, Option.isNone_some, Bool.false_eq_true, if_false] at unsent ⊢
            split_ifs at unsent ⊢ with equal
            · exact ⟨rfl, fun _ => ⟨congrArg some equal.2, equal.1⟩⟩
  · rw [if_neg same] at unsent
    cases hashes : rangeHash offset size mapped with
    | none => simp [hashes] at unsent
    | some hash => simp [hashes] at unsent

/-- A valid hash is the one of this call, or the entry is as before. -/
theorem rangeEntry_hash (valid : (rangeEntry entry buffer offset size mapped).1.hashValid = true) :
    rangeHash offset size mapped =
        some (rangeEntry entry buffer offset size mapped).1.contentHash ∨
      rangeHash offset size mapped = none ∧
        (rangeEntry entry buffer offset size mapped).1 = entry := by
  unfold rangeEntry at valid ⊢
  by_cases same : entry.buffer = buffer ∧ entry.offset = offset ∧ entry.size = size
  · simp only [if_pos same] at valid ⊢
    cases mapped with
    | none => exact .inr ⟨rfl, rfl⟩
    | some map =>
        cases hashes : rangeHash offset size (some map) with
        | none => simp
        | some hash =>
            simp only [Option.isNone_some, Bool.false_eq_true, if_false]
            split_ifs with equal
            · exact .inl (congrArg some equal.2)
            · exact .inl rfl
  · simp only [if_neg same] at valid ⊢
    cases hashes : rangeHash offset size mapped with
    | none => simp [hashes] at valid
    | some hash => exact .inl rfl

/-- The hash is the one of the bytes. -/
theorem rangeHash_hashedMap (stub : MapStub) (buffer : UInt32) (offset size : Int64) :
    rangeHash offset size (stub.hashedMap buffer offset size) =
      (hashedBytes stub buffer offset size).map fnv1aHash := by
  unfold hashedBytes MapStub.hashedMap
  cases stub.unsynchronizedMap buffer with
  | none => rfl
  | some entry =>
      simp only [Option.map_some, Option.bind_some, rangeHash, StubMapEntry.fits, Bool.and_eq_true,
        decide_eq_true_eq]
      split_ifs
      · rfl
      · rfl

theorem range_cached (cached : MapStub.Cached target index) (mirrors : StubMirrors) :
    mirrors.glBindBufferRange current target index buffer offset size mapped =
      let made := rangeEntry (mirrors.bufrangeCache current ⟨index.toNat, cached.2⟩) buffer offset
        size mapped
      ({ mirrors with
          bufrangeCache := Function.update mirrors.bufrangeCache current
            (Function.update (mirrors.bufrangeCache current) ⟨index.toNat, cached.2⟩ made.1) },
        if made.2 = true then [.glBindBufferRange target index buffer offset size] else []) :=
  dif_pos cached

/-- The slot of a call takes its entry; a call is sent, or it has passed the test of its slot. -/
theorem range_made {made : Option RangeCommand}
    (taken : stub.glBindBufferRange current target index buffer offset size = some (next, made)) :
    (∀ slot, next.mirrors.bufrangeCache current slot =
        if slotOf target index = some slot then
          (rangeEntry (stub.mirrors.bufrangeCache current slot) buffer offset size
            (stub.hashedMap buffer offset size)).1
        else stub.mirrors.bufrangeCache current slot) ∧
      (∀ command, made = some command →
        stub.rangeCommand target index buffer offset size = some command) ∧
      (made = none → ∃ slot, slotOf target index = some slot ∧
        (rangeEntry (stub.mirrors.bufrangeCache current slot) buffer offset size
          (stub.hashedMap buffer offset size)).2 = false) := by
  unfold MapStub.glBindBufferRange at taken
  split_ifs at taken with past
  by_cases cached : MapStub.Cached target index
  · have known : slotOf target index = some ⟨index.toNat, cached.2⟩ := dif_pos cached
    have same (slot : CacheSlot) :
        slotOf target index = some slot ↔ slot = ⟨index.toNat, cached.2⟩ := by
      rw [known, Option.some.injEq, eq_comm]
    rw [range_cached cached] at taken
    simp only [same]
    cases sent : (rangeEntry (stub.mirrors.bufrangeCache current ⟨index.toNat, cached.2⟩) buffer
        offset size (stub.hashedMap buffer offset size)).2 with
    | true =>
        simp only [sent, if_true, List.cons_ne_nil, if_false] at taken
        obtain ⟨command, made, same⟩ := Option.map_eq_some_iff.mp taken
        cases same
        refine ⟨fun slot => ?_, fun other here => here ▸ made, by rintro ⟨⟩⟩
        by_cases here : slot = ⟨index.toNat, cached.2⟩
        · subst here
          simp
        · simp [here]
    | false =>
        simp only [sent, Bool.false_eq_true, if_false, if_true, Option.some.injEq,
          Prod.mk.injEq] at taken
        obtain ⟨rfl, rfl⟩ := taken
        refine ⟨fun slot => ?_, by rintro _ ⟨⟩, fun _ => ⟨_, rfl, sent⟩⟩
        by_cases here : slot = ⟨index.toNat, cached.2⟩
        · subst here
          simp
        · simp [here]
  · have unknown : slotOf target index = none := dif_neg cached
    have mirrors : stub.mirrors.glBindBufferRange current target index buffer offset size
        (stub.hashedMap buffer offset size) =
          (stub.mirrors, [.glBindBufferRange target index buffer offset size]) := dif_neg cached
    rw [mirrors] at taken
    dsimp only at taken
    rw [if_neg (List.cons_ne_nil _ _)] at taken
    obtain ⟨command, made, same⟩ := Option.map_eq_some_iff.mp taken
    cases same
    rw [unknown]
    exact ⟨fun _ => rfl, fun other here => here ▸ made, by rintro ⟨⟩⟩


/-- The mapping of a buffer, where it is one for the target. -/
theorem findStubMap_of_mappingOf {id : MapId} (found : stub.mappingOf buffer = some id)
    (target : (stub.stubMaps id).target = glUniformBuffer) :
    stub.findStubMap buffer glUniformBuffer = some id := by
  refine find?_of_stronger found ?_ fun other meets => ?_
  · have mapped := List.find?_some found
    simpa [target] using mapped
  · exact (Bool.and_eq_true_iff.mp meets).1

/-- What goes along of the mapping of a buffer. -/
theorem rangePiggyback_eq (stub : MapStub) (buffer : UInt32) (offset size : Int64) :
    stub.rangePiggyback buffer offset size = some [] ∨
      ∃ id, stub.mappingOf buffer = some id ∧
        (stub.stubMaps id).Unsynchronized ∧ (stub.stubMaps id).holds offset size = true ∧
        stub.rangePiggyback buffer offset size =
          if glesBridgeDataSize < size.toUInt64.toNat then none
          else some (stub.rangeBytes offset size (stub.stubMaps id)) := by
  unfold MapStub.rangePiggyback
  by_cases active : stub.activeStubMapCount = 0
  · exact .inl (if_pos active)
  · rw [if_neg active]
    cases stub.mappingOf buffer with
    | none => exact .inl rfl
    | some id =>
        by_cases goes : (stub.stubMaps id).Unsynchronized ∧
            (stub.stubMaps id).holds offset size = true
        · exact .inr ⟨id, rfl, goes.1, goes.2, if_pos goes⟩
        · exact .inl (if_neg goes)

/-- Nothing goes along but the bytes of the mapping that the fast path looks at. -/
theorem rangePiggyback_uniform
    (target : ∀ id, stub.mappingOf buffer = some id →
      (stub.stubMaps id).target ≠ glUniformBuffer →
      ¬ ((stub.stubMaps id).Unsynchronized ∧ (stub.stubMaps id).holds offset size = true)) :
    stub.rangePiggyback buffer offset size = some [] ∨
      ∃ map, stub.unsynchronizedMap buffer = some map ∧ map.holds offset size = true ∧
        stub.rangePiggyback buffer offset size =
          if glesBridgeDataSize < size.toUInt64.toNat then none
          else some (stub.rangeBytes offset size map) := by
  refine (rangePiggyback_eq stub buffer offset size).imp_right ?_
  rintro ⟨id, found, unsynchronized, holds, taken⟩
  have uniform : (stub.stubMaps id).target = glUniformBuffer := by
    by_contra other
    exact target id found other ⟨unsynchronized, holds⟩
  refine ⟨stub.stubMaps id, ?_, holds, taken⟩
  simp [MapStub.unsynchronizedMap, findStubMap_of_mappingOf found uniform, unsynchronized]

theorem length_rangeBytes (stub : MapStub) (offset size : Int64) (map : StubMapEntry) :
    (stub.rangeBytes offset size map).length = size.toUInt64.toNat := by
  simp [MapStub.rangeBytes]

theorem rangeCommand_some (made : stub.rangeCommand target index buffer offset size = some command) :
    ∃ data, stub.rangePiggyback buffer offset size = some data ∧
      command = { target, index, buffer, offset, size, data } := by
  obtain ⟨data, taken, rfl⟩ := Option.map_eq_some_iff.mp made
  exact ⟨data, taken, rfl⟩

theorem length_rangePiggyback {data : List UInt8}
    (taken : stub.rangePiggyback buffer offset size = some data) :
    data.length ≤ glesBridgeDataSize := by
  rcases rangePiggyback_eq stub buffer offset size with nothing | ⟨id, -, -, -, some⟩
  · rw [nothing] at taken
    cases taken
    exact Nat.zero_le _
  · rw [some] at taken
    split_ifs at taken with past
    cases taken
    rw [length_rangeBytes]
    exact Nat.not_lt.mp past

end

/-! ## Bindings -/

section

variable {proxy : RangeProxy} {driver : RangeDriver} {target index buffer : UInt32}
  {range : IndexedRange} {accepted : Bool}

theorem bindIndexed_maps :
    (proxy.bindIndexed target index buffer range accepted).maps.maps = proxy.maps.maps ∧
      (proxy.bindIndexed target index buffer range accepted).maps.gl.mapping =
        proxy.maps.gl.mapping ∧
      (proxy.bindIndexed target index buffer range accepted).maps.gl.bytes = proxy.maps.gl.bytes := by
  unfold RangeProxy.bindIndexed
  by_cases taken : accepted = true ∧ target ∈ indexedTargets
  · rw [if_pos taken]
    exact ⟨rfl, rfl, rfl⟩
  · rw [if_neg taken]
    exact ⟨rfl, rfl, rfl⟩

theorem buffer_ofRange (buffer : UInt32) (offset size : Int64) :
    (IndexedRange.ofRange buffer offset size).buffer = buffer := by
  unfold IndexedRange.ofRange
  split_ifs with none
  · exact none.symm
  · rfl

theorem arrived_bindIndexed {name : UInt32} {offset : Int32} {count : Nat} :
    arrived (proxy.bindIndexed target index buffer range accepted).maps name offset count =
      arrived proxy.maps name offset count :=
  arrived_congr bindIndexed_maps.1 bindIndexed_maps.2.1 bindIndexed_maps.2.2 ..

theorem bindIndexed_bound :
    (proxy.bindIndexed target index buffer range accepted).maps.gl.bound glUniformBuffer =
      if target = glUniformBuffer ∧ accepted = true then buffer
      else proxy.maps.gl.bound glUniformBuffer := by
  unfold RangeProxy.bindIndexed
  by_cases uniform : target = glUniformBuffer
  · subst uniform
    have known : glUniformBuffer ∈ indexedTargets := by decide
    cases accepted with
    | true => simp [known, MapProxy.bindBuffer, Buffers.bindBuffer]
    | false => simp
  · rw [if_neg (c := target = glUniformBuffer ∧ accepted = true) fun both => uniform both.1]
    by_cases taken : accepted = true ∧ target ∈ indexedTargets
    · rw [if_pos taken]
      exact Function.update_of_ne (Ne.symm uniform) _ _
    · rw [if_neg taken]

theorem bindIndexed_indexed (other : UInt32) :
    (proxy.bindIndexed target index buffer range accepted).indexed other =
      if target = glUniformBuffer ∧ accepted = true ∧ other = index then range
      else proxy.indexed other := by
  unfold RangeProxy.bindIndexed
  by_cases uniform : target = glUniformBuffer
  · subst uniform
    have known : glUniformBuffer ∈ indexedTargets := by decide
    cases accepted with
    | true => simp [known, Function.update_apply]
    | false => simp
  · rw [if_neg (c := target = glUniformBuffer ∧ accepted = true ∧ other = index)
      fun all => uniform all.1]
    by_cases taken : accepted = true ∧ target ∈ indexedTargets
    · rw [if_pos taken]
      simp only [if_neg uniform]
    · rw [if_neg taken]

end

/-! ## The other calls -/

section

variable {stub : MapStub} {proxy : MapProxy} {after : MapStub × MapProxy} {mirrors : StubMirrors}
  {current : Ctx} {slot : CacheSlot} {buffer : UInt32}

theorem binding_uniform (gl : Buffers) : gl.binding glUniformBuffer = gl.bound glUniformBuffer :=
  if_pos (by decide)

theorem invalidate_cache : (mirrors.bufrangeCacheInvalidateBuffer buffer).bufrangeCache current slot =
    if (mirrors.bufrangeCache current slot).buffer = buffer then
      { mirrors.bufrangeCache current slot with buffer := 0 }
    else mirrors.bufrangeCache current slot :=
  rfl

/-- The entries of a deleted buffer are emptied. -/
theorem glDeleteBuffers_cache (buffers : List UInt32) :
    (mirrors.glDeleteBuffers current buffers).bufrangeCache current slot =
      if (mirrors.bufrangeCache current slot).buffer ∈ buffers then
        { mirrors.bufrangeCache current slot with buffer := 0 }
      else mirrors.bufrangeCache current slot := by
  unfold StubMirrors.glDeleteBuffers
  induction buffers generalizing mirrors with
  | nil => rfl
  | cons buffer rest ih =>
      have one : (mirrors.stubGlStateInvalidateBuffer current buffer).bufrangeCache current slot =
          if (mirrors.bufrangeCache current slot).buffer = buffer then
            { mirrors.bufrangeCache current slot with buffer := 0 }
          else mirrors.bufrangeCache current slot := by
        unfold StubMirrors.stubGlStateInvalidateBuffer
        by_cases none : buffer = 0
        · rw [if_pos none]
          split_ifs with unbound
          · rw [none] at unbound
            rw [← unbound]
          · rfl
        · rw [if_neg none]
          exact invalidate_cache
      rw [List.foldl_cons, ih, one]
      by_cases here : (mirrors.bufrangeCache current slot).buffer = buffer
      · simp [here]
      · simp [here]

theorem mirrors_deleteMaps (buffers : List UInt32) :
    (buffers.foldl MapStub.deleteMaps stub).mirrors = stub.mirrors := by
  induction buffers generalizing stub with
  | nil => rfl
  | cons buffer rest ih => exact ih

theorem bound_deleteBuffers (gl : Buffers) (buffers : List UInt32) (target : UInt32) :
    (gl.deleteBuffers buffers).bound target =
      if gl.bound target ∈ buffers then 0 else gl.bound target := by
  unfold Buffers.deleteBuffers
  induction buffers generalizing gl with
  | nil => rfl
  | cons buffer rest ih =>
      have one : (gl.deleteBuffer buffer).bound target =
          if gl.bound target = buffer then 0 else gl.bound target := by
        unfold Buffers.deleteBuffer
        by_cases none : buffer = 0
        · rw [if_pos none]
          split_ifs with unbound
          · rw [unbound, none]
          · rfl
        · rw [if_neg none]
      rw [List.foldl_cons, ih, one]
      by_cases here : gl.bound target = buffer
      · simp [here]
      · simp [here]

theorem foldl_deleteMaps_gl (buffers : List UInt32) :
    (buffers.foldl MapProxy.deleteMaps proxy).gl = proxy.gl := by
  induction buffers generalizing proxy with
  | nil => rfl
  | cons buffer rest ih => exact ih

theorem bound_unmap {id : MapId} {target : UInt32} {size : Nat} {data : Nat → UInt8}
    {next : MapProxy} (unmaps : proxy.hGlUnmapBuffer target id size data = some next) :
    next.gl.binding glUniformBuffer = proxy.gl.binding glUniformBuffer := by
  obtain ⟨written, wrote, rfl⟩ := Option.map_eq_some_iff.mp unmaps
  have same : written.gl.bound = proxy.gl.bound := by
    unfold MapProxy.writeBack at wrote
    dsimp only at wrote
    split_ifs at wrote with writes
    · obtain ⟨gl, stored, rfl⟩ := Option.map_eq_some_iff.mp wrote
      unfold Buffers.store at stored
      split at stored
      · split_ifs at stored
        cases stored
        rfl
      · cases stored
    · cases wrote
      rfl
  have binding (target : UInt32) : written.gl.binding target = proxy.gl.binding target := by
    rw [Buffers.binding, Buffers.binding, same]
  have kept : (((written.gl.bindBuffer target (written.maps id).buffer).unmapBuffer target).1.bindBuffer
      target (written.gl.binding target)).binding glUniformBuffer =
        proxy.gl.binding glUniformBuffer := by
    rw [binding_bindBuffer, ← binding]
    by_cases here : glUniformBuffer = target
    · subst here
      rw [if_pos rfl]
      exact if_pos (by decide)
    · rw [if_neg here, binding_unmapBuffer, binding_bindBuffer, if_neg here]
  dsimp only
  split_ifs
  · exact kept
  · exact kept

theorem binding_served {target id : UInt32} {size : Nat} {data : Nat → UInt8}
    {served : MapProxy × MapAnswer}
    (serves : proxy.handleMap (.glUnmapBuffer target id size data) = some served) :
    served.1.gl.binding glUniformBuffer = proxy.gl.binding glUniformBuffer := by
  simp only [MapProxy.handleMap] at serves
  split_ifs at serves
  obtain ⟨next, unmaps, rfl⟩ := Option.map_eq_some_iff.mp serves
  exact bound_unmap unmaps

theorem mirrors_mapped {target access : UInt32} {offset length : Int64} {malloc : UInt64}
    {answer : MapAnswer} :
    (stub.mapped target buffer offset length access malloc answer).mirrors = stub.mirrors := by
  unfold MapStub.mapped
  dsimp only
  split_ifs
  · rfl
  · rfl
  · rfl

/-- A call empties the entries of a buffer. -/
def Empties (stub : MapStub) (current : Ctx) (buffer : UInt32) : MapCall → Prop
  | .glBufferData target _ _ => buffer = stub.mirrors.boundBuffer current target
  | .glDeleteBuffers buffers => buffer ∈ buffers
  | _ => False

def Emptied (stub next : MapStub) (current : Ctx) (slot : CacheSlot) (call : MapCall) : Prop :=
  let entry := stub.mirrors.bufrangeCache current slot
  Empties stub current entry.buffer call ∧
      next.mirrors.bufrangeCache current slot = { entry with buffer := 0 } ∨
    ¬ Empties stub current entry.buffer call ∧ next.mirrors.bufrangeCache current slot = entry

theorem Emptied.of_same {next : MapStub} {call : MapCall}
    (empties : ¬ Empties stub current (stub.mirrors.bufrangeCache current slot).buffer call)
    (same : next.mirrors.bufrangeCache = stub.mirrors.bufrangeCache) :
    Emptied stub next current slot call :=
  .inr ⟨empties, by rw [same]⟩

/-- What a call does to an entry, and to the binding of `GL_UNIFORM_BUFFER`. -/
theorem others_made {history : RangeHistory} {call : MapCall} (indexed : UInt32 → IndexedRange)
    (slot : CacheSlot)
    (uniform : proxy.gl.bound glUniformBuffer = history.uniform)
    (taken : (mapExchange current).direct.step (stub, proxy) call = some after) :
    Emptied stub after.1 current slot call ∧
      after.2.gl.bound glUniformBuffer =
        RangeWorld.uniformAfter current ⟨stub, ⟨proxy, indexed⟩, history⟩ call := by
  rw [← binding_uniform] at uniform ⊢
  cases call with
  | glBindBuffer target buffer =>
      have posts : stub.mapCall current (.glBindBuffer target buffer) =
          .post { stub with mirrors := (stub.mirrors.glBindBuffer current target buffer).1 }
            (if (stub.mirrors.glBindBuffer current target buffer).2 = [] then []
              else [.glBindBuffer target buffer]) := rfl
      rw [direct_post posts] at taken
      have cache : (stub.mirrors.glBindBuffer current target buffer).1.bufrangeCache =
          stub.mirrors.bufrangeCache := by
        unfold StubMirrors.glBindBuffer StubMirrors.setBoundBuffer
        split_ifs
        · rfl
        · rfl
        · cases bufferSlot target with
          | none => rfl
          | some slot => rfl
      by_cases sent : (stub.mirrors.glBindBuffer current target buffer).2 = []
      · rw [if_pos sent] at taken
        cases taken
        exact ⟨.of_same id cache, by simp [RangeWorld.uniformAfter, sent, uniform]⟩
      · rw [if_neg sent] at taken
        cases taken
        refine ⟨.of_same id cache, ?_⟩
        change (proxy.gl.bindBuffer target buffer).binding glUniformBuffer = _
        rw [binding_bindBuffer]
        by_cases here : glUniformBuffer = target
        · subst here
          have known : hasBinding glUniformBuffer = true := by decide
          simp [RangeWorld.uniformAfter, sent, known]
        · simp [RangeWorld.uniformAfter, here, Ne.symm here, uniform]
  | glBufferData target contents accepted =>
      rw [direct_post rfl] at taken
      cases taken
      refine ⟨?_, ?_⟩
      · by_cases here : (stub.mirrors.bufrangeCache current slot).buffer =
            stub.mirrors.boundBuffer current target
        · exact .inl ⟨here, if_pos here⟩
        · exact .inr ⟨here, if_neg here⟩
      · refine Eq.trans ?_ uniform
        change (proxy.gl.bufferData target contents accepted).binding glUniformBuffer = _
        unfold Buffers.bufferData
        by_cases given : accepted = true ∧ proxy.gl.binding target ≠ 0
        · rw [if_pos given]
          rfl
        · rw [if_neg given]
  | glDeleteBuffers buffers =>
      rw [direct_post rfl] at taken
      cases taken
      refine ⟨?_, ?_⟩
      · unfold Emptied
        rw [mirrors_deleteMaps]
        by_cases here : (stub.mirrors.bufrangeCache current slot).buffer ∈ buffers
        · exact .inl ⟨here, (glDeleteBuffers_cache buffers).trans (if_pos here)⟩
        · exact .inr ⟨here, (glDeleteBuffers_cache buffers).trans (if_neg here)⟩
      · change (proxy.hGlDeleteBuffers buffers).gl.binding glUniformBuffer = _
        rw [MapProxy.hGlDeleteBuffers, foldl_deleteMaps_gl, binding_uniform]
        refine (bound_deleteBuffers proxy.gl buffers glUniformBuffer).trans ?_
        rw [← binding_uniform, uniform]
        rfl
  | glMapBufferRange target offset length access answer malloc =>
      by_cases again : (stub.reused target (stub.mirrors.boundBuffer current target) offset length
          access).isSome = true
      · have posts : stub.mapCall current
            (.glMapBufferRange target offset length access answer malloc) = .post stub [] :=
          if_pos again
        rw [direct_post posts] at taken
        cases taken
        exact ⟨.of_same id rfl, uniform⟩
      · have awaits : stub.mapCall current
            (.glMapBufferRange target offset length access answer malloc) =
              .await (.glMapBufferRange target offset length access
                (stub.mirrors.boundBuffer current target) answer)
                (stub.mapped target (stub.mirrors.boundBuffer current target) offset length access
                  malloc) := if_neg again
        rw [direct_await awaits] at taken
        cases taken
        exact ⟨.of_same id (by rw [mirrors_mapped]), (binding_map _).trans uniform⟩
  | glUnmapBuffer target =>
      cases found : stub.mappingOf (stub.mirrors.boundBuffer current target) with
      | some mapped =>
          have awaits : stub.mapCall current (.glUnmapBuffer target) =
              .await (.glUnmapBuffer target (stub.stubMaps mapped).id (stub.unmapSize mapped)
                (stub.memory (stub.stubMaps mapped).ptr)) fun _ => stub.clear mapped := by
            simp only [MapStub.mapCall, MapStub.glUnmapBuffer, found]
          rw [direct_await awaits] at taken
          obtain ⟨served, serves, rfl⟩ := Option.map_eq_some_iff.mp taken
          exact ⟨.of_same id rfl, (binding_served serves).trans uniform⟩
      | none =>
          have awaits : stub.mapCall current (.glUnmapBuffer target) =
              .await (.glUnmapBuffer target 0 0 fun _ => 0) fun _ => stub := by
            simp only [MapStub.mapCall, MapStub.glUnmapBuffer, found]
          rw [direct_await awaits] at taken
          obtain ⟨served, serves, rfl⟩ := Option.map_eq_some_iff.mp taken
          exact ⟨.of_same id rfl, (binding_served serves).trans uniform⟩
  | store ptr place byte =>
      rw [direct_post rfl] at taken
      cases taken
      exact ⟨.of_same id rfl, uniform⟩

end

/-! ## Runs that disturb nothing -/

namespace RangeWorld

variable {driver : RangeDriver} {current : Ctx} {world : RangeWorld}
  {target index buffer : UInt32} {offset size : Int64}

/-- The history tells what GL has, and what the entries of the cache stand for. -/
structure Sound (current : Ctx) (world : RangeWorld) : Prop where
  indexed : ∀ slot, world.history.bound slot →
    world.proxy.indexed (.ofNat slot) =
      .ofRange (world.entry current slot).buffer (world.entry current slot).offset
        (world.entry current slot).size
  uniform : world.proxy.maps.gl.bound glUniformBuffer = world.history.uniform
  hashes : ∀ slot, (world.entry current slot).hashValid = true →
    (world.entry current slot).contentHash = fnv1aHash (world.history.hashed slot)
  kept : ∀ slot, world.history.kept slot →
    ∀ bytes, arrivedFor world.proxy (world.entry current slot) = some bytes →
      bytes = world.history.hashed slot
  room : ∀ slot, world.history.kept slot →
    (world.history.hashed slot).length ≤ glesBridgeDataSize

theorem Sound.start : Sound current start where
  indexed _ _ := rfl
  uniform := rfl
  hashes _ valid := nomatch valid
  kept _ kept := kept.elim
  room _ kept := kept.elim

theorem hits_of_skips (skips : world.Skips current target index buffer offset size) :
    ∃ slot, slotOf target index = some slot ∧ world.Hits current slot buffer offset size := by
  obtain ⟨stub, taken⟩ := skips
  obtain ⟨slot, known, unsent⟩ := (range_made taken).2.2 rfl
  obtain ⟨same, hash⟩ := rangeEntry_unsent unsent
  have key := rangeEntry_key (world.entry current slot) buffer offset size
    (world.stub.hashedMap buffer offset size)
  rw [entry, same] at key
  refine ⟨slot, known, key.1, key.2.1, key.2.2, fun mapped found => ?_⟩
  have looked : (world.stub.hashedMap buffer offset size).isSome = true := by
    simp [MapStub.hashedMap, found]
  obtain ⟨hashed, valid⟩ := hash looked
  rw [rangeHash_hashedMap, hashedBytes, found, Option.bind_some] at hashed
  split_ifs at hashed with fits
  · exact ⟨fits, valid, Option.some.inj hashed⟩
  · cases hashed

/-- An orderly call is kept back for good. -/
theorem skip_right {call : RangeCall} (sound : Sound current world)
    (orderly : world.Orderly driver current call) : world.Right driver current call := by
  cases call with
  | glBindBufferBase target index buffer => trivial
  | glBufferSubData target contents accepted => trivial
  | others call => trivial
  | glBindBufferRange target index buffer offset size =>
      intro skips
      obtain ⟨slot, known, hits⟩ := hits_of_skips skips
      have undisturbed := orderly slot known hits
      obtain ⟨rfl, rfl⟩ := slotOf_eq_some.mp known
      -- What goes along has arrived already, and can be written again.
      have along : ∃ data after, world.stub.rangePiggyback buffer offset size = some data ∧
          world.proxy.maps.copyRange buffer offset.toInt32 data = some after ∧
          after.gl.bytes = world.proxy.maps.gl.bytes := by
        rcases rangePiggyback_uniform undisturbed.target with nothing | ⟨mapped, found, holds, data⟩
        · exact ⟨[], world.proxy.maps, nothing, if_pos rfl, rfl⟩
        · obtain ⟨kept, told⟩ := undisturbed.contents mapped found holds
          obtain ⟨-, valid, hash⟩ := hits.sameHash mapped found
          have same := told (hash.trans (sound.hashes slot valid))
          have fits : ¬ glesBridgeDataSize < size.toUInt64.toNat := by
            have room := sound.room slot kept
            rw [← same, length_rangeBytes] at room
            exact Nat.not_lt.mpr room
          rw [if_neg fits] at data
          obtain ⟨after, copied⟩ := copyRange_some (undisturbed.live mapped found holds)
          refine ⟨_, after, data, copied, bytes_of_arrived (fun bytes there => ?_) copied⟩
          rw [same]
          refine sound.kept slot kept bytes ?_
          rw [arrivedFor, hits.sameBuffer, hits.sameOffset, hits.sameSize]
          rwa [length_rangeBytes] at there
      obtain ⟨data, after, piggyback, copied, bytes⟩ := along
      have command : world.stub.rangeCommand glUniformBuffer (.ofNat slot) buffer offset size =
          some { target := glUniformBuffer, index := .ofNat slot, buffer, offset, size, data } := by
        rw [MapStub.rangeCommand, piggyback]
        rfl
      refine ⟨_, _, command, by rw [RangeProxy.hGlBindBufferRange, copied]; rfl, ?_⟩
      obtain ⟨-, -, bound⟩ := copyRange_frame copied
      refine ⟨funext fun other => ?_, ?_, ?_⟩
      · rw [bindIndexed_indexed]
        split_ifs with here
        · obtain ⟨-, accepted, rfl⟩ := here
          rw [sound.indexed slot (undisturbed.bindings accepted).1, hits.sameBuffer, hits.sameOffset,
            hits.sameSize]
        · rfl
      · rw [bindIndexed_bound]
        split_ifs with here
        · rw [sound.uniform, (undisturbed.bindings here.2).2]
        · rw [bound]
      · rw [bindIndexed_maps.2.2, bytes]

/-! ## Steps -/

section

variable {stub : MapStub} {proxy : RangeProxy} {slot : CacheSlot} {next : RangeWorld}

theorem Stays.kept (stays : world.Stays current stub proxy slot) {hashed : List UInt8}
    (kept : ∀ bytes, arrivedFor world.proxy (world.entry current slot) = some bytes →
      bytes = hashed) :
    ∀ bytes, arrivedFor proxy (stub.mirrors.bufrangeCache current slot) = some bytes →
      bytes = hashed := by
  intro bytes there
  rw [stays.1, stays.2] at there
  exact kept bytes there

/-- A call that is kept back changes nothing here. -/
theorem Sound.unsent (sound : Sound current world)
    (taken : world.stub.glBindBufferRange current target index buffer offset size =
      some (stub, none)) : Sound current { world with stub } := by
  obtain ⟨cache, -, skips⟩ := range_made taken
  obtain ⟨slot, known, unsent⟩ := skips rfl
  have same (other : CacheSlot) :
      stub.mirrors.bufrangeCache current other = world.entry current other := by
    rw [cache other]
    split_ifs with here
    · obtain rfl : slot = other := Option.some.inj (known.symm.trans here)
      exact (rangeEntry_unsent unsent).1
    · rfl
  constructor
  · intro other bound
    rw [entry, same]
    exact sound.indexed other bound
  · exact sound.uniform
  · intro other valid
    rw [entry, same] at valid ⊢
    exact sound.hashes other valid
  · intro other kept
    rw [entry, same]
    exact sound.kept other kept
  · exact sound.room

theorem length_hashedBytes {bytes : List UInt8}
    (hashed : hashedBytes stub buffer offset size = some bytes) :
    bytes.length = size.toUInt64.toNat := by
  obtain ⟨mapped, -, taken⟩ := Option.bind_eq_some_iff.mp hashed
  split_ifs at taken
  cases taken
  exact length_rangeBytes ..

theorem kept_afterRange {command : RangeCommand}
    (was : (world.afterRange driver current command stub proxy).history.kept slot) :
    slotOf command.target command.index = some slot ∧
        hashedBytes world.stub command.buffer command.offset command.size = some command.data ∧
        (world.afterRange driver current command stub proxy).history.hashed slot = command.data ∨
      world.history.kept slot ∧ world.Stays current stub proxy slot ∧
        (world.afterRange driver current command stub proxy).history.hashed slot =
          world.history.hashed slot := by
  simp only [afterRange] at was ⊢
  by_cases here : slotOf command.target command.index = some slot
  · simp only [if_pos here] at was ⊢
    cases hashed : hashedBytes world.stub command.buffer command.offset command.size with
    | none =>
        rw [hashed] at was
        exact .inr ⟨was.1, was.2, rfl⟩
    | some bytes =>
        rw [hashed] at was
        exact .inl ⟨here, congrArg some was.symm, was.symm⟩
  · simp only [if_neg here] at was ⊢
    exact .inr ⟨was.1, was.2, rfl⟩

/-- The entry of a call that is sent stands for the bytes that arrive. -/
theorem Sound.sent {command : RangeCommand} (sound : Sound current world)
    (taken : world.stub.glBindBufferRange current target index buffer offset size =
      some (stub, some command))
    (handled : world.proxy.hGlBindBufferRange driver command = some proxy) :
    Sound current (world.afterRange driver current command stub proxy) := by
  obtain ⟨cache, made, -⟩ := range_made taken
  obtain ⟨data, piggyback, rfl⟩ := rangeCommand_some (made _ rfl)
  obtain ⟨maps, copied, rfl⟩ := Option.map_eq_some_iff.mp handled
  dsimp only at copied
  obtain ⟨-, -, bound⟩ := copyRange_frame copied
  constructor
  · intro slot was
    change if slotOf target index = some slot then
      driver.range target index buffer offset.toInt32 size.toInt32 = true
      else world.history.bound slot at was
    refine (bindIndexed_indexed _).trans ?_
    rw [entry, afterRange, cache slot]
    by_cases here : slotOf target index = some slot
    · rw [if_pos here] at was ⊢
      obtain ⟨sameBuffer, sameOffset, sameSize⟩ := rangeEntry_key
        (world.stub.mirrors.bufrangeCache current slot) buffer offset size
        (world.stub.hashedMap buffer offset size)
      obtain ⟨rfl, rfl⟩ := slotOf_eq_some.mp here
      rw [if_pos ⟨rfl, was, rfl⟩, sameBuffer, sameOffset, sameSize]
    · rw [if_neg here] at was ⊢
      refine (if_neg ?_).trans (sound.indexed slot was)
      rintro ⟨uniform, -, same⟩
      exact here (slotOf_eq_some.mpr ⟨uniform, same.symm⟩)
  · exact bindIndexed_bound.trans (by rw [bound, sound.uniform]; rfl)
  · intro slot valid
    change (stub.mirrors.bufrangeCache current slot).hashValid = true at valid
    change (stub.mirrors.bufrangeCache current slot).contentHash = fnv1aHash (Option.getD
      (if slotOf target index = some slot then hashedBytes world.stub buffer offset size else none)
      (world.history.hashed slot))
    rw [cache slot] at valid ⊢
    by_cases here : slotOf target index = some slot
    · rw [if_pos here] at valid ⊢
      rw [if_pos here]
      have hash := rangeEntry_hash valid
      rw [rangeHash_hashedMap] at hash
      rcases hash with hash | ⟨none, same⟩
      · obtain ⟨bytes, hashed, told⟩ := Option.map_eq_some_iff.mp hash
        rw [hashed, ← told]
        rfl
      · rw [Option.map_eq_none_iff] at none
        rw [same] at valid ⊢
        rw [none]
        exact sound.hashes slot valid
    · rw [if_neg here] at valid ⊢
      rw [if_neg here]
      exact sound.hashes slot valid
  · intro slot was
    rcases kept_afterRange was with ⟨here, hashed, same⟩ | ⟨kept, stays, same⟩
    · intro bytes there
      rw [same]
      have key := rangeEntry_key (world.stub.mirrors.bufrangeCache current slot) buffer offset size
        (world.stub.hashedMap buffer offset size)
      have entered : stub.mirrors.bufrangeCache current slot = _ := (cache slot).trans (if_pos here)
      rw [← entered] at key
      refine arrived_of_copied copied (Eq.trans ?_ there)
      refine Eq.symm (arrived_bindIndexed.trans ?_)
      change arrived maps (stub.mirrors.bufrangeCache current slot).buffer
        (stub.mirrors.bufrangeCache current slot).offset.toInt32
        (stub.mirrors.bufrangeCache current slot).size.toUInt64.toNat = _
      rw [key.1, key.2.1, key.2.2, length_hashedBytes hashed]
    · rw [same]
      exact stays.kept (sound.kept slot kept)
  · intro slot was
    rcases kept_afterRange was with ⟨-, -, same⟩ | ⟨kept, -, same⟩
    · rw [same]
      exact length_rangePiggyback piggyback
    · rw [same]
      exact sound.room slot kept

theorem Sound.base (sound : Sound current world) :
    Sound current (world.glBindBufferBase driver current target index buffer) := by
  constructor
  · intro slot was
    change if slotOf target index = some slot ∧ driver.base target index buffer = true then
      buffer = 0 ∧ (world.entry current slot).buffer = 0
      else world.history.bound slot at was
    refine (bindIndexed_indexed _).trans ?_
    by_cases here : slotOf target index = some slot ∧ driver.base target index buffer = true
    · rw [if_pos here] at was
      obtain ⟨uniform, same⟩ := slotOf_eq_some.mp here.1
      rw [if_pos ⟨uniform, here.2, same.symm⟩, was.1]
      exact (if_pos was.2).symm
    · rw [if_neg here] at was
      refine (if_neg ?_).trans (sound.indexed slot was)
      rintro ⟨uniform, accepted, same⟩
      exact here ⟨slotOf_eq_some.mpr ⟨uniform, same.symm⟩, accepted⟩
  · exact bindIndexed_bound.trans (by rw [sound.uniform]; rfl)
  · exact sound.hashes
  · rintro slot ⟨kept, stays⟩
    exact stays.kept (sound.kept slot kept)
  · rintro slot ⟨kept, -⟩
    exact sound.room slot kept

/-- An entry that is emptied keeps its hash. -/
theorem Sound.hashes_of_emptied (sound : Sound current world)
    (emptied : stub.mirrors.bufrangeCache current slot =
        { world.entry current slot with buffer := 0 } ∨
      stub.mirrors.bufrangeCache current slot = world.entry current slot)
    (valid : (stub.mirrors.bufrangeCache current slot).hashValid = true) :
    (stub.mirrors.bufrangeCache current slot).contentHash =
      fnv1aHash (world.history.hashed slot) := by
  rcases emptied with same | same
  · rw [same] at valid ⊢
    exact sound.hashes slot valid
  · rw [same] at valid ⊢
    exact sound.hashes slot valid

theorem Sound.subData (sound : Sound current world) (target : UInt32) (contents : Nat → UInt8)
    (accepted : Bool) : Sound current (world.glBufferSubData current target contents accepted) := by
  have frame : (world.proxy.hGlBufferSubData target contents accepted).indexed =
        world.proxy.indexed ∧
      (world.proxy.hGlBufferSubData target contents accepted).maps.gl.bound =
        world.proxy.maps.gl.bound := by
    simp only [RangeProxy.hGlBufferSubData]
    split_ifs
    · exact ⟨rfl, rfl⟩
    · exact ⟨rfl, rfl⟩
  constructor
  · rintro slot ⟨bound, same⟩
    rw [entry, glBufferSubData]
    dsimp only
    rw [frame.1, same]
    exact sound.indexed slot bound
  · exact (congrFun frame.2 _).trans sound.uniform
  · intro slot valid
    have emptied : (world.stub.glBufferSubData current target).mirrors.bufrangeCache current slot =
          { world.entry current slot with buffer := 0 } ∨
        (world.stub.glBufferSubData current target).mirrors.bufrangeCache current slot =
          world.entry current slot := by
      by_cases here : (world.entry current slot).buffer =
          world.stub.mirrors.boundBuffer current target
      · exact .inl (if_pos here)
      · exact .inr (if_neg here)
    exact sound.hashes_of_emptied emptied valid
  · rintro slot ⟨kept, stays⟩
    exact stays.kept (sound.kept slot kept)
  · rintro slot ⟨kept, -⟩
    exact sound.room slot kept

theorem entry_afterOthers {call : MapCall} {maps : MapProxy} :
    (world.afterOthers current call stub maps).entry current slot =
      stub.mirrors.bufrangeCache current slot :=
  rfl

theorem Sound.others {call : MapCall} {after : MapStub × MapProxy} (sound : Sound current world)
    (taken : (mapExchange current).direct.step (world.stub, world.proxy.maps) call = some after) :
    Sound current (world.afterOthers current call after.1 after.2) := by
  have emptied (slot : CacheSlot) : Emptied world.stub after.1 current slot call :=
    (others_made world.proxy.indexed slot sound.uniform taken).1
  constructor
  · rintro slot ⟨bound, stays⟩
    have before := sound.indexed slot bound
    cases call with
    | glDeleteBuffers buffers =>
        change world.proxy.unbindDeleted buffers (.ofNat slot) = _
        rw [RangeProxy.unbindDeleted, before, buffer_ofRange, entry_afterOthers]
        rcases emptied slot with ⟨deleted, same⟩ | ⟨spared, same⟩
        · rw [same]
          exact if_pos deleted
        · rw [same]
          exact if_neg spared
    | _ =>
        rw [entry_afterOthers, stays.resolve_left id]
        exact before
  · exact (others_made world.proxy.indexed ⟨0, by decide⟩ sound.uniform taken).2
  · intro slot valid
    exact sound.hashes_of_emptied ((emptied slot).imp And.right And.right) valid
  · rintro slot ⟨kept, stays, -⟩
    exact stays.kept (sound.kept slot kept)
  · rintro slot ⟨kept, -⟩
    exact sound.room slot kept

/-- Every call keeps the history right. -/
theorem Sound.step {call : RangeCall} (sound : Sound current world)
    (taken : world.step driver current call = some next) : Sound current next := by
  cases call with
  | glBindBufferRange target index buffer offset size =>
      obtain ⟨⟨stub, sent⟩, made, more⟩ := Option.bind_eq_some_iff.mp taken
      cases sent with
      | none =>
          cases more
          exact sound.unsent made
      | some command =>
          obtain ⟨proxy, handled, rfl⟩ := Option.map_eq_some_iff.mp more
          exact sound.sent made handled
  | glBindBufferBase target index buffer =>
      cases taken
      exact sound.base
  | glBufferSubData target contents accepted =>
      cases taken
      exact sound.subData target contents accepted
  | others call =>
      obtain ⟨after, made, rfl⟩ := Option.map_eq_some_iff.mp taken
      exact sound.others made

end

end RangeWorld

/-- In a run all of whose calls are orderly the fast path keeps back only calls that would have
changed nothing. -/
theorem skips_change_nothing (driver : RangeDriver) (current : Ctx) (calls : List RangeCall)
    (orderly : (rangeMachine driver current).Along (fun world => world.Orderly driver current)
      .start calls) :
    (rangeMachine driver current).Along (fun world => world.Right driver current) .start calls :=
  Machine.Along.of_invariant (fun sound _ taken => sound.step taken)
    (fun sound => RangeWorld.skip_right sound) .start orderly

/-- A buffer is mapped and written to, and a part of it is bound twice. -/
def boundTwice : List RangeCall :=
  [.others (.glBindBuffer glUniformBuffer 5),
    .others (.glMapBufferRange glUniformBuffer 0 64 glMapWriteBit 4096 8192),
    .others (.store 8192 0 7),
    .glBindBufferRange glUniformBuffer 0 5 0 4,
    .glBindBufferRange glUniformBuffer 0 5 0 4]

theorem boundTwice_right :
    (rangeMachine .plain 1).Along (fun world => world.Right .plain 1) .start boundTwice := by
  refine skips_change_nothing .plain 1 boundTwice ?_
  refine ⟨trivial, fun first bound => ⟨trivial, fun second mapped => ⟨trivial, fun third stored => ?_⟩⟩⟩
  cases bound
  cases mapped
  cases stored
  have only {slot : CacheSlot} (known : slotOf glUniformBuffer 0 = some slot) : 0 = slot :=
    Option.some.inj known
  refine ⟨?_, fun fourth sent => ⟨?_, fun _ _ => trivial⟩⟩
  · rintro slot known ⟨same, -, -, -⟩
    cases only known
    exact absurd same (by decide)
  · cases sent
    intro slot known hits
    cases only known
    refine ⟨fun _ => ⟨rfl, rfl⟩, ?_, ?_, ?_⟩
    · rintro mapped ⟨⟩ -
      exact ⟨rfl, fun _ => rfl⟩
    · rintro id ⟨⟩ other
      exact absurd rfl other
    · rintro mapped ⟨⟩ - id ⟨⟩
      exact ⟨_, rfl, rfl⟩

/-- Another buffer is bound to the index in between. -/
def reboundBase : List RangeCall :=
  [.glBindBufferRange glUniformBuffer 0 5 0 64,
    .glBindBufferBase glUniformBuffer 0 6,
    .glBindBufferRange glUniformBuffer 0 5 0 64]

theorem reboundBase_wrong :
    ¬ (rangeMachine .plain 1).Along (fun world => world.Right .plain 1) .start reboundBase := by
  intro right
  have third := ((right.2 _ rfl).2 _ rfl).1
  obtain ⟨command, after, made, handled, same⟩ := third ⟨_, rfl⟩
  cases made
  cases handled
  have indexed := congrFun same.indexed 0
  revert indexed
  decide

end GlesBridge.Mapping
