import GlesBridge.Stub.Locations
import GlesBridge.Systems.Machine

namespace GlesBridge.Strings

open GlesBridge.Data GlesBridge.Stub GlesBridge.Systems

/-! The answers of the cache of locations, against what the driver has reported. -/

/-- A query that the cache had no answer for, with the driver's, once it is there. -/
structure LocPending where
  key : LocKey
  location : Option Int32
deriving DecidableEq

/-- `pending` has the queries of the threads. `reported` is a record: what the driver
has reported since the program was last invalidated. -/
structure LocSystem where
  cache : LocCache
  pending : Nat → Option LocPending
  reported : LocKey → List Int32

/-- The steps of `glGetUniformLocation` and `glGetAttribLocation`, which other threads
may come between, and the invalidation that `glLinkProgram`, `glProgramBinary` and
`glDeleteProgram` make. -/
inductive LocOp where
  | query (thread : Nat) (key : LocKey)
  | report (thread : Nat) (location : Int32)
  | insert (thread : Nat)
  | invalidate (program : UInt32)

namespace LocSystem

def zero : LocSystem where
  cache := .zero
  pending _ := none
  reported _ := []

variable (state : LocSystem)

def setPending (thread : Nat) (pending : Option LocPending) : LocSystem :=
  { state with pending := Function.update state.pending thread pending }

/-- A thread makes one call at a time. -/
def query (thread : Nat) (key : LocKey) : Option LocSystem :=
  match state.pending thread with
  | some _ => none
  | none =>
      match LocCache.locCacheLookup state.cache key with
      | some _ => some state
      | none => some (state.setPending thread (some ⟨key, none⟩))

def report (thread : Nat) (location : Int32) : Option LocSystem :=
  match state.pending thread with
  | some ⟨key, none⟩ =>
      some { state.setPending thread (some ⟨key, some location⟩) with
        reported := Function.update state.reported key (location :: state.reported key) }
  | _ => none

def insert (thread : Nat) : Option LocSystem :=
  match state.pending thread with
  | some ⟨key, some location⟩ =>
      some { state.setPending thread none with
        cache := LocCache.locCacheInsert state.cache key location }
  | _ => none

def invalidate (program : UInt32) : LocSystem :=
  { state with
    cache := LocCache.locCacheInvalidateProgram state.cache program
    reported := fun key => if key.program = program then [] else state.reported key }

def step : LocOp → Option LocSystem
  | .query thread key => state.query thread key
  | .report thread location => state.report thread location
  | .insert thread => state.insert thread
  | .invalidate program => some (state.invalidate program)

end LocSystem

def locSystem : Machine LocSystem LocOp where
  step := LocSystem.step

/-- A hit is a location that the driver has reported for that program, that name and
that kind since the program was last invalidated. -/
def HitsExact (state : LocSystem) (op : LocOp) : Prop :=
  ∀ thread key location, op = .query thread key →
    LocCache.locCacheLookup state.cache key = some location → location ∈ state.reported key

/-- A query does not come upon an entry that was stored for a name too long for it, and
what a thread stores has been reported since the program was last invalidated. -/
def KeepsLocations (state : LocSystem) : LocOp → Prop
  | .query _ key => ∀ slot, LocCache.found state.cache key = some slot →
      (state.cache slot).whole.length < locCacheNameMax
  | .insert thread => ∀ key location, state.pending thread = some ⟨key, some location⟩ →
      location ∈ state.reported key
  | _ => True

/-! ## The entries -/

/-- An entry has been reported for the name that it was to be stored for. -/
structure Stored (reported : LocKey → List Int32) (entry : LocCacheEntry) (key : LocKey) : Prop where
  program : entry.program = key.program
  isAttrib : entry.isAttrib = key.isAttrib
  whole : entry.whole = key.name.bytes
  name : entry.name = entry.whole.take (locCacheNameMax - 1)
  location : entry.location ∈ reported key

def EntriesStored (state : LocSystem) : Prop :=
  ∀ slot, (state.cache slot).program ≠ 0 → ∃ key, Stored state.reported (state.cache slot) key

variable {state next : LocSystem} {op : LocOp} {key other : LocKey} {slot : LocSlot}
  {cache : LocCache} {reported : LocKey → List Int32} {entry : LocCacheEntry}

/-- A name that is not cut is equal to any that `strncmp` takes for it. -/
theorem eq_of_strncmp {stored asked : List UInt8} (short : stored.length < locCacheNameMax)
    (same : strncmp (stored.take (locCacheNameMax - 1)) asked locCacheNameMax = true) :
    asked = stored := by
  have whole : stored.take (locCacheNameMax - 1) = stored :=
    List.take_of_length_le (Nat.le_sub_one_of_lt short)
  rw [whole, strncmp, beq_iff_eq, List.take_of_length_le short.le] at same
  have few : asked.length ≤ locCacheNameMax := by
    by_contra long
    have length := congrArg List.length same
    rw [List.length_take, Nat.min_eq_left (by omega)] at length
    omega
  rw [List.take_of_length_le few] at same
  exact same.symm

theorem found_stored (entries : EntriesStored state)
    (found : LocCache.found state.cache key = some slot)
    (short : (state.cache slot).whole.length < locCacheNameMax) :
    (state.cache slot).location ∈ state.reported key := by
  obtain ⟨matching, used⟩ := probe_hits found
  simp only [LocCache.matching, LocCache.empty, Bool.and_eq_true, beq_iff_eq,
    beq_eq_false_iff_ne] at matching used
  obtain ⟨⟨program, isAttrib⟩, same⟩ := matching
  obtain ⟨owner, stored⟩ := entries slot used
  rw [stored.name] at same
  have name : key.name = owner.name := by
    have bytes := (eq_of_strncmp short same).trans stored.whole
    cases nameOf : key.name
    cases ownerName : owner.name
    simp_all
  have equal : owner = key := by
    cases owner
    cases key
    simp_all [stored.program, stored.isAttrib]
  exact equal ▸ stored.location

theorem EntriesStored.zero : EntriesStored .zero := fun _ used => absurd rfl used

theorem Stored.mono {more : LocKey → List Int32} (stored : Stored reported entry key)
    (kept : ∀ location ∈ reported key, location ∈ more key) : Stored more entry key :=
  { stored with location := kept _ stored.location }

theorem stored_insert {location : Int32}
    (entries : ∀ slot, (cache slot).program ≠ 0 → ∃ key, Stored reported (cache slot) key)
    (fresh : location ∈ reported key) (slot : LocSlot)
    (used : (LocCache.locCacheInsert cache key location slot).program ≠ 0) :
    ∃ owner, Stored reported (LocCache.locCacheInsert cache key location slot) owner := by
  cases place : LocCache.room cache key with
  | none =>
      simp only [LocCache.locCacheInsert, place] at used ⊢
      exact entries slot used
  | some free =>
      simp only [LocCache.locCacheInsert, place] at used ⊢
      by_cases here : slot = free
      · rw [here, Function.update_self]
        exact ⟨key, rfl, rfl, rfl, rfl, fresh⟩
      · rw [Function.update_of_ne here] at used ⊢
        exact entries slot used

theorem EntriesStored.invalidate (entries : EntriesStored state) (program : UInt32) :
    EntriesStored (state.invalidate program) := by
  intro slot used
  simp only [LocSystem.invalidate, LocCache.locCacheInvalidateProgram] at used ⊢
  by_cases own : (state.cache slot).program = program
  · rw [if_pos own] at used
    exact absurd rfl used
  · rw [if_neg own] at used ⊢
    obtain ⟨key, stored⟩ := entries slot used
    have other : key.program ≠ program := fun same => own (stored.program.trans same)
    exact ⟨key, stored.mono fun location member => by rwa [if_neg other]⟩

theorem EntriesStored.step (entries : EntriesStored state) (keeps : KeepsLocations state op)
    (stepped : locSystem.step state op = some next) : EntriesStored next := by
  cases op with
  | query thread key =>
      change state.query thread key = some next at stepped
      unfold LocSystem.query at stepped
      split at stepped
      · cases stepped
      · split at stepped
        · cases stepped
          exact entries
        · cases stepped
          exact entries
  | report thread location =>
      change state.report thread location = some next at stepped
      unfold LocSystem.report at stepped
      split at stepped
      · rename_i key asked
        cases stepped
        intro slot used
        obtain ⟨owner, stored⟩ := entries slot used
        refine ⟨owner, stored.mono fun before member => ?_⟩
        by_cases same : owner = key
        · subst same
          simp only [Function.update_self]
          exact List.mem_cons_of_mem _ member
        · simp only [Function.update_of_ne same]
          exact member
      · cases stepped
  | insert thread =>
      change state.insert thread = some next at stepped
      unfold LocSystem.insert at stepped
      split at stepped
      · rename_i key location asked
        cases stepped
        exact stored_insert entries (keeps key location asked)
      · cases stepped
  | invalidate program =>
      cases stepped
      exact entries.invalidate program

theorem EntriesStored.hitsExact (entries : EntriesStored state) (keeps : KeepsLocations state op) :
    HitsExact state op := by
  intro thread key location asks hit
  subst asks
  obtain ⟨slot, found, value⟩ := Option.map_eq_some_iff.mp hit
  rw [← value]
  exact found_stored entries found (keeps slot found)

/-- In any interleaving of threads, as long as the conditions of its steps are met. -/
theorem locations_exact {ops : List LocOp} (keeps : locSystem.Along KeepsLocations .zero ops) :
    locSystem.Along HitsExact .zero ops :=
  Machine.Along.of_invariant EntriesStored.step EntriesStored.hitsExact .zero keeps

/-- A name of 63 bytes. -/
def longName : CString where
  bytes := List.replicate 61 97 ++ [107, 98]
  free := by decide

/-- The same with one byte more, at the same place of the table. -/
def longerName : CString where
  bytes := longName.bytes ++ [98]
  free := by decide

theorem lookup_zero (key : LocKey) : LocCache.locCacheLookup .zero key = none := rfl

theorem found_of_first (used : LocCache.empty cache (LocCache.slotAt key 0) = false)
    (hit : LocCache.matching cache key (LocCache.slotAt key 0) = true) :
    LocCache.found cache key = some (LocCache.slotAt key 0) := by
  change probe _ _ _ 0 (4095 + 1) = _
  rw [probe, used, hit]
  rfl

/-- One answer in an empty cache. -/
theorem insert_zero (location : Int32) :
    LocCache.locCacheInsert .zero key location (LocCache.slotAt key 0) =
      { program := key.program
        name := key.name.bytes.take (locCacheNameMax - 1)
        location
        isAttrib := key.isAttrib
        whole := key.name.bytes } :=
  Function.update_self ..

/-- It is found again by what `strncmp` takes for its name, at the same place. -/
theorem found_insert (location : Int32) (same : LocCache.slotAt other 0 = LocCache.slotAt key 0)
    (used : key.program ≠ 0) (program : key.program = other.program)
    (isAttrib : key.isAttrib = other.isAttrib)
    (name : strncmp (key.name.bytes.take (locCacheNameMax - 1)) other.name.bytes locCacheNameMax =
      true) :
    LocCache.found (LocCache.locCacheInsert .zero key location) other =
      some (LocCache.slotAt key 0) := by
  rw [← same]
  refine found_of_first ?_ ?_
  · rw [LocCache.empty, same, insert_zero]
    exact beq_eq_false_iff_ne.mpr used
  · rw [LocCache.matching, same, insert_zero]
    simp only [program, isAttrib, name, beq_self_eq_true, Bool.and_self]

theorem locations_exact_again :
    locSystem.Along HitsExact .zero
      [.query 0 ⟨1, longName, false⟩, .report 0 5, .insert 0, .query 0 ⟨1, longName, false⟩] := by
  refine locations_exact ⟨fun slot found => ?_, fun _ taken => ?_⟩
  · cases found
  cases taken
  refine ⟨trivial, fun _ taken => ?_⟩
  cases taken
  refine ⟨fun key location asked => ?_, fun _ taken => ?_⟩
  · cases asked
    exact List.mem_cons_self
  cases taken
  refine ⟨fun slot found => ?_, fun _ _ => trivial⟩
  have hit : LocCache.found (LocCache.locCacheInsert .zero ⟨1, longName, false⟩ 5)
      ⟨1, longName, false⟩ = some (LocCache.slotAt ⟨1, longName, false⟩ 0) :=
    found_insert 5 rfl (by decide) rfl rfl (by decide)
  have place := Option.some.inj (hit.symm.trans found)
  change (LocCache.locCacheInsert .zero ⟨1, longName, false⟩ 5 slot).whole.length < locCacheNameMax
  rw [← place, insert_zero]
  decide

/-- A name of 64 bytes is stored as the one that has its first 63. -/
theorem longer_name_hit :
    ¬ locSystem.Along HitsExact .zero
      [.query 0 ⟨1, longerName, false⟩, .report 0 5, .insert 0, .query 0 ⟨1, longName, false⟩] := by
  intro along
  iterate 3 obtain ⟨-, along⟩ := along; replace along := along _ rfl
  have place : LocCache.slotAt ⟨1, longName, false⟩ 0 = LocCache.slotAt ⟨1, longerName, false⟩ 0 := by
    decide +kernel
  have hit : LocCache.found (LocCache.locCacheInsert .zero ⟨1, longerName, false⟩ 5)
      ⟨1, longName, false⟩ = some (LocCache.slotAt ⟨1, longerName, false⟩ 0) :=
    found_insert 5 place (by decide) rfl rfl (by decide)
  have answer : LocCache.locCacheLookup (LocCache.locCacheInsert .zero ⟨1, longerName, false⟩ 5)
      ⟨1, longName, false⟩ = some 5 := by
    rw [LocCache.locCacheLookup, hit, Option.map_some, insert_zero]
  have reported : (5 : Int32) ∈ Function.update (fun _ => []) (⟨1, longerName, false⟩ : LocKey) [5]
      ⟨1, longName, false⟩ := along.1 0 ⟨1, longName, false⟩ 5 rfl answer
  have apart : (⟨1, longName, false⟩ : LocKey) ≠ ⟨1, longerName, false⟩ := by decide
  have none : Function.update (fun _ => []) (⟨1, longerName, false⟩ : LocKey) [(5 : Int32)]
      ⟨1, longName, false⟩ = [] := Function.update_of_ne apart _ _
  rw [none] at reported
  exact List.not_mem_nil reported

end GlesBridge.Strings
