import GlesBridge.Sync.Handle
import GlesBridge.Systems.Machine

namespace GlesBridge.Sync

open GlesBridge.Proxy GlesBridge.Stub GlesBridge.Systems

/-! The ids of fences, which a free names without their generation. -/

/-- `live` is a record of the run: the handles that were given out and not freed since. -/
structure SyncIds where
  stub : SyncStub
  live : UInt32 → Bool

inductive SyncIdCall where
  | alloc
  | free (handle : UInt32)
deriving DecidableEq, Repr

namespace SyncIds

def zero : SyncIds where
  stub := .zero
  live _ := false

variable (ids : SyncIds)

def alloc : SyncIds :=
  match ids.stub.bridgeSyncAlloc with
  | none => ids
  | some (stub, handle) => { stub, live := Function.update ids.live handle true }

def free (handle : UInt32) : SyncIds where
  stub := ids.stub.bridgeSyncFree handle
  live := Function.update ids.live handle false

/-- A live handle has the id. -/
def Held (id : SyncId) : Prop := ∃ handle, ids.live handle = true ∧ syncId handle = id

/-- What the next `bridge_sync_alloc` would do. -/
structure AllocSound : Prop where
  fails : ids.stub.bridgeSyncAlloc = none ↔ ∀ id, id ≠ 0 → ids.Held id
  fresh : ∀ stub handle, ids.stub.bridgeSyncAlloc = some (stub, handle) →
    handle ≠ 0 ∧ ¬ ids.Held (syncId handle)

/-- A free does not name the id of another handle that is live. -/
def Orderly : SyncIdCall → Prop
  | .alloc => True
  | .free handle => ∀ other, ids.live other = true → syncId other = syncId handle → other = handle

end SyncIds

def syncIdMachine : Machine SyncIds SyncIdCall where
  step ids
    | .alloc => some ids.alloc
    | .free handle => some (ids.free handle)

/-! ## The search -/

section

variable {stub after : SyncStub} {handle : UInt32}

/-- The turns of the loop go round all ids. -/
theorem toNat_tryId (positive : 0 < stub.gSyncNext.toNat) (small : stub.gSyncNext.toNat ≤ 256)
    {turn : Nat} (below : turn < 255) :
    (stub.tryId (turn + 1)).toNat = 1 + (stub.gSyncNext.toNat - 1 + turn) % 255 := by
  have back : (stub.gSyncNext - 1).toNat = stub.gSyncNext.toNat - 1 :=
    UInt32.toNat_sub_of_le _ _ (UInt32.le_iff_toNat_le.mpr positive)
  have count : (UInt32.ofNat (turn + 1)).toNat = turn + 1 :=
    UInt32.toNat_ofNat_of_lt' (by change turn + 1 < 4294967296; omega)
  have sum : (stub.gSyncNext - 1 + .ofNat (turn + 1)).toNat = stub.gSyncNext.toNat - 1 + (turn + 1) := by
    rw [UInt32.toNat_add, back, count]
    exact Nat.mod_eq_of_lt (by omega)
  have moved : (stub.gSyncNext - 1 + .ofNat (turn + 1) - 1).toNat = stub.gSyncNext.toNat - 1 + turn := by
    rw [UInt32.toNat_sub_of_le _ _ (UInt32.le_iff_toNat_le.mpr (by rw [sum]; change 1 ≤ _; omega)), sum]
    change _ - 1 = _
    omega
  have rest : ((stub.gSyncNext - 1 + .ofNat (turn + 1) - 1) % 255).toNat =
      (stub.gSyncNext.toNat - 1 + turn) % 255 := by
    rw [UInt32.toNat_mod, moved]
    rfl
  unfold SyncStub.tryId
  rw [UInt32.toNat_add, rest]
  change (1 + _) % 2 ^ 32 = _
  omega

/-- Some turn of the loop comes to every id. -/
theorem exists_tryId (positive : 0 < stub.gSyncNext.toNat) (small : stub.gSyncNext.toNat ≤ 256)
    {id : SyncId} (used : id ≠ 0) : ∃ turn < 255, syncId (stub.tryId (turn + 1)) = id := by
  have nonzero : id.val ≠ 0 := Fin.val_ne_of_ne used
  have below : id.val < 256 := id.isLt
  -- the turn at which the remainder is that of the id
  refine ⟨(id.val - 1 + (256 - stub.gSyncNext.toNat)) % 255, Nat.mod_lt _ (by decide), Fin.ext ?_⟩
  rw [toNat_syncId, toNat_tryId positive small (Nat.mod_lt _ (by decide))]
  omega

theorem freeId_eq_none (positive : 0 < stub.gSyncNext.toNat) (small : stub.gSyncNext.toNat ≤ 256) :
    stub.freeId = none ↔ ∀ id, id ≠ 0 → stub.gSyncUsed id = true := by
  rw [SyncStub.freeId, List.find?_eq_none]
  simp only [List.mem_map, List.mem_range, Bool.not_eq_true, Bool.not_eq_false', forall_exists_index,
    and_imp, forall_apply_eq_imp_iff₂]
  constructor
  · intro every id used
    obtain ⟨turn, below, rfl⟩ := exists_tryId positive small used
    exact every turn below
  · intro every turn below
    refine every _ fun zero => ?_
    have index := congrArg Fin.val zero
    rw [toNat_syncId, toNat_tryId positive small below] at index
    change _ = 0 at index
    omega

theorem bridgeSyncAlloc_eq_none : stub.bridgeSyncAlloc = none ↔ stub.freeId = none :=
  Option.map_eq_none_iff

/-- The next search begins behind the id that was found. -/
theorem gSyncNext_bridgeSyncAlloc (given : stub.bridgeSyncAlloc = some (after, handle)) :
    0 < after.gSyncNext.toNat ∧ after.gSyncNext.toNat ≤ 256 := by
  obtain ⟨id, free, shape⟩ := Option.map_eq_some_iff.mp given
  cases shape
  obtain ⟨turn, -, rfl⟩ := List.mem_map.mp (List.mem_of_find?_eq_some free)
  obtain ⟨positive, below⟩ := tryId_bounds stub (turn + 1)
  have next : (stub.tryId (turn + 1) + 1).toNat = (stub.tryId (turn + 1)).toNat + 1 := by
    rw [UInt32.toNat_add]
    exact Nat.mod_eq_of_lt (by change _ + 1 < 2 ^ 32; omega)
  change 0 < (stub.tryId (turn + 1) + 1).toNat ∧ (stub.tryId (turn + 1) + 1).toNat ≤ 256
  omega

end

/-! ## Runs -/

namespace SyncIds

/-- The used ids are those of the live handles. -/
structure Tracked (ids : SyncIds) : Prop where
  positive : 0 < ids.stub.gSyncNext.toNat
  small : ids.stub.gSyncNext.toNat ≤ 256
  used : ∀ id, id ≠ 0 → (ids.stub.gSyncUsed id = true ↔ ids.Held id)
  nonzero : ∀ handle, ids.live handle = true → syncId handle ≠ 0

variable {ids : SyncIds} {handle : UInt32} {id : SyncId}

theorem held_update_true :
    Held { ids with live := Function.update ids.live handle true } id ↔ syncId handle = id ∨ ids.Held id := by
  constructor
  · rintro ⟨other, live, rfl⟩
    by_cases here : other = handle
    · exact .inl (congrArg syncId here.symm)
    · exact .inr ⟨other, (Function.update_of_ne here ..).symm.trans live, rfl⟩
  · rintro (rfl | ⟨other, live, rfl⟩)
    · exact ⟨handle, Function.update_self .., rfl⟩
    · by_cases here : other = handle
      · exact ⟨handle, Function.update_self .., congrArg syncId here.symm⟩
      · exact ⟨other, (Function.update_of_ne here ..).trans live, rfl⟩

theorem Tracked.allocSound (tracked : ids.Tracked) : ids.AllocSound where
  fails := by
    rw [bridgeSyncAlloc_eq_none, freeId_eq_none tracked.positive tracked.small]
    exact forall₂_congr tracked.used
  fresh stub handle given := by
    obtain ⟨nonzero, -, unused, -⟩ := bridgeSyncAlloc_some given
    refine ⟨fun null => nonzero (by rw [null]; rfl), fun held => ?_⟩
    rw [(tracked.used _ nonzero).mpr held] at unused
    cases unused

theorem Tracked.zero : Tracked .zero where
  positive := by decide
  small := by decide
  used _ _ := by
    constructor
    · intro used
      cases used
    · rintro ⟨handle, live, -⟩
      cases live
  nonzero _ live := by cases live

theorem Tracked.alloc (tracked : ids.Tracked) : ids.alloc.Tracked := by
  unfold SyncIds.alloc
  cases given : ids.stub.bridgeSyncAlloc with
  | none => exact tracked
  | some made =>
      obtain ⟨stub, handle⟩ := made
      obtain ⟨nonzero, -, -, used, -⟩ := bridgeSyncAlloc_some given
      obtain ⟨positive, small⟩ := gSyncNext_bridgeSyncAlloc given
      refine ⟨positive, small, fun id some => ?_, fun other live => ?_⟩
      · have held : Held ⟨stub, Function.update ids.live handle true⟩ id ↔
            syncId handle = id ∨ ids.Held id := held_update_true
        rw [held, used]
        by_cases here : id = syncId handle
        · rw [here, Function.update_self]
          exact iff_of_true rfl (.inl rfl)
        · rw [Function.update_of_ne here, tracked.used id some]
          exact ⟨.inr, fun either => either.resolve_left fun same => here same.symm⟩
      · by_cases here : other = handle
        · rw [here]
          exact nonzero
        · exact tracked.nonzero other ((Function.update_of_ne here ..).symm.trans live)

/-- The id of a handle that is freed is left to nobody. -/
theorem Tracked.free (tracked : ids.Tracked) (orderly : ids.Orderly (.free handle)) :
    (ids.free handle).Tracked := by
  have live {other : UInt32} : (ids.free handle).live other = true ↔
      other ≠ handle ∧ ids.live other = true := by
    by_cases here : other = handle
    · simp [SyncIds.free, here]
    · simp [SyncIds.free, here]
  have next : (ids.stub.bridgeSyncFree handle).gSyncNext = ids.stub.gSyncNext := by
    unfold SyncStub.bridgeSyncFree
    split <;> rfl
  refine ⟨next ▸ tracked.positive, next ▸ tracked.small, fun id some => ?_,
    fun other still => tracked.nonzero other (live.mp still).2⟩
  by_cases here : syncId handle = id
  · have freed : (ids.free handle).stub.gSyncUsed id = false := by
      simp [SyncIds.free, SyncStub.bridgeSyncFree, here, some]
    rw [freed]
    refine iff_of_false Bool.false_ne_true ?_
    rintro ⟨other, still, same⟩
    exact (live.mp still).1 (orderly other (live.mp still).2 (same.trans here.symm))
  · have kept : (ids.free handle).stub.gSyncUsed id = ids.stub.gSyncUsed id := by
      unfold SyncIds.free SyncStub.bridgeSyncFree
      split
      · rfl
      · exact Function.update_of_ne (Ne.symm here) ..
    rw [kept, tracked.used id some]
    constructor
    · rintro ⟨other, alive, rfl⟩
      exact ⟨other, live.mpr ⟨fun same => here (congrArg syncId same.symm), alive⟩, rfl⟩
    · rintro ⟨other, alive, rfl⟩
      exact ⟨other, (live.mp alive).2, rfl⟩

/-- Where no free names the id of another live handle, allocation is right at any time. -/
theorem alloc_sound_of_orderly {calls : List SyncIdCall} {reached : SyncIds}
    (orderly : syncIdMachine.Along Orderly .zero calls)
    (runs : syncIdMachine.run .zero calls = some reached) : reached.AllocSound := by
  refine Tracked.allocSound (orderly.run_invariant ?_ Tracked.zero runs)
  intro ids call next tracked now taken
  cases call with
  | alloc =>
      cases taken
      exact tracked.alloc
  | free handle =>
      cases taken
      exact tracked.free now

/-- A handle is freed, and another is taken. -/
theorem alloc_sound_second :
    ((syncIdMachine.run .zero [.alloc, .free 257, .alloc]).get (by decide)).AllocSound := by
  refine alloc_sound_of_orderly ?_ (Option.some_get _).symm
  refine ⟨trivial, fun first taken => ⟨?_, fun _ _ => ⟨trivial, fun _ _ => trivial⟩⟩⟩
  cases taken
  intro other live _
  by_contra apart
  cases live.symm.trans (Function.update_of_ne apart ..)

/-! ## A stale free -/

/-- The first handles have the ids in their order. -/
def inOrder (count : Nat) : SyncStub where
  gSyncUsed id := decide (0 < id.val ∧ id.val ≤ count)
  gSyncGen := .ofNat count
  gSyncNext := .ofNat (count + 1)

theorem bridgeSyncAlloc_inOrder {count : Nat} (below : count < 255) :
    ∃ handle, (inOrder count).bridgeSyncAlloc = some (inOrder (count + 1), handle) := by
  have next : (inOrder count).gSyncNext.toNat = count + 1 :=
    UInt32.toNat_ofNat_of_lt' (by change count + 1 < 4294967296; omega)
  have id : (inOrder count).tryId 1 = .ofNat (count + 1) := by
    refine UInt32.toNat_inj.mp ?_
    have first : ((inOrder count).tryId (0 + 1)).toNat = _ :=
      toNat_tryId (by rw [next]; omega) (by rw [next]; omega) (by decide)
    rw [first, next, UInt32.toNat_ofNat_of_lt' (by change count + 1 < 4294967296; omega)]
    omega
  have index : (syncId (.ofNat (count + 1)) : Nat) = count + 1 := by
    rw [toNat_syncId, UInt32.toNat_ofNat_of_lt' (by change count + 1 < 4294967296; omega)]
    omega
  have unused : (inOrder count).gSyncUsed (syncId (.ofNat (count + 1))) = false :=
    decide_eq_false fun inside => by omega
  have free : (inOrder count).freeId = some (.ofNat (count + 1)) := by
    rw [SyncStub.freeId]
    change List.find? _ (List.map _ (List.range (254 + 1))) = _
    rw [List.range_succ_eq_map, List.map_cons, id, List.find?_cons_of_pos (by rw [unused]; rfl)]
  have gen : (inOrder count).nextGen = .ofNat (count + 1) := by
    refine UInt32.toNat_inj.mp ?_
    have few : (inOrder count).gSyncGen.toNat = count :=
      UInt32.toNat_ofNat_of_lt' (by change count < 4294967296; omega)
    rw [nextGen_of_few (by omega), few,
      UInt32.toNat_ofNat_of_lt' (by change count + 1 < 4294967296; omega)]
  refine ⟨(inOrder count).nextGen <<< bridgeSyncIdBits ||| .ofNat (count + 1), ?_⟩
  rw [SyncStub.bridgeSyncAlloc, free, Option.map_some, gen]
  refine congrArg some (congrArg (Prod.mk · _) ?_)
  have used : Function.update (inOrder count).gSyncUsed (syncId (.ofNat (count + 1))) true =
      (inOrder (count + 1)).gSyncUsed := by
    funext place
    by_cases here : place = syncId (.ofNat (count + 1))
    · rw [here, Function.update_self]
      exact (decide_eq_true (by omega)).symm
    · rw [Function.update_of_ne here]
      have apart : place.val ≠ count + 1 := fun same => here (Fin.ext (same.trans index.symm))
      exact decide_eq_decide.mpr (by omega)
  have behind : (UInt32.ofNat (count + 1) + 1 : UInt32) = .ofNat (count + 1 + 1) :=
    (UInt32.ofNat_add (count + 1) 1).symm
  rw [used, behind]
  rfl

/-- The stub of before holds 255 live handles. -/
theorem run_allocs {count : Nat} (below : count ≤ 255) :
    ∃ ids, syncIdMachine.run .zero (.replicate count .alloc) = some ids ∧ ids.stub = inOrder count := by
  induction count with
  | zero =>
      refine ⟨_, rfl, ?_⟩
      have none : (inOrder 0).gSyncUsed = fun _ => false :=
        funext fun _ => decide_eq_false fun inside => by omega
      rw [inOrder] at none ⊢
      exact congrArg (SyncStub.mk · _ _) none.symm
  | succ count ih =>
      obtain ⟨ids, runs, shape⟩ := ih (by omega)
      obtain ⟨handle, given⟩ := bridgeSyncAlloc_inOrder below
      rw [← shape] at given
      refine ⟨ids.alloc, ?_, ?_⟩
      · rw [List.replicate_succ', Machine.run_append, runs]
        rfl
      · rw [SyncIds.alloc, given]

/-- A handle is freed a second time when its id belongs to another. -/
theorem stale_free_releases :
    ¬ ∀ calls reached, syncIdMachine.run .zero calls = some reached → reached.AllocSound := by
  intro every
  obtain ⟨ids, runs, shape⟩ := run_allocs (Nat.le_refl 255)
  have given : ∃ stub, ((inOrder 255).bridgeSyncFree 257).bridgeSyncAlloc = some (stub, 65537) ∧
      ((stub.bridgeSyncFree 257).bridgeSyncAlloc.map fun made => syncId made.2) = some 1 := by
    refine ⟨(((inOrder 255).bridgeSyncFree 257).bridgeSyncAlloc.get (by decide +kernel)).1, ?_, ?_⟩
    · refine (Option.some_get (by decide +kernel)).symm.trans (congrArg some (Prod.ext rfl ?_))
      decide +kernel
    · decide +kernel
  obtain ⟨stub, first, second⟩ := given
  obtain ⟨⟨after, handle⟩, again, one⟩ := Option.map_eq_some_iff.mp second
  have middle : (ids.free 257).alloc =
      ⟨stub, Function.update (ids.free 257).live 65537 true⟩ := by
    rw [SyncIds.alloc]
    have same : (ids.free 257).stub = (inOrder 255).bridgeSyncFree 257 := by rw [SyncIds.free, shape]
    rw [same, first]
  have last := every (.replicate 255 .alloc ++ [.free 257, .alloc, .free 257])
    ((ids.free 257).alloc.free 257) (by rw [Machine.run_append, runs]; rfl)
  rw [middle] at last
  refine (last.fresh after handle again).2 ⟨65537, ?_, ?_⟩
  · have apart : (65537 : UInt32) ≠ 257 := by decide
    change Function.update (Function.update (ids.free 257).live 65537 true) 257 false 65537 = true
    rw [Function.update_of_ne apart, Function.update_self]
  · exact one.symm ▸ rfl

end SyncIds

end GlesBridge.Sync
