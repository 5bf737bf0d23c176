import GlesBridge.Stub.Sync
import GlesBridge.Sync.Handlers

namespace GlesBridge.Sync

open GlesBridge.Gl GlesBridge.Proxy GlesBridge.Proxy.SyncProxy GlesBridge.Stub

/-! The handles of fences: an index, and a generation above it. -/

section

variable {handle other : UInt32}

theorem toNat_syncId (handle : UInt32) : (syncId handle : Nat) = handle.toNat % 256 := by
  change (handle &&& bridgeSyncIdMask).toNat = _
  rw [UInt32.toNat_and]
  exact Nat.and_two_pow_sub_one_eq_mod handle.toNat 8

theorem toNat_syncGen (handle : UInt32) : (syncGen handle).toNat = handle.toNat / 256 := by
  change (handle >>> bridgeSyncIdBits).toNat = _
  rw [UInt32.toNat_shiftRight, Nat.shiftRight_eq_div_pow]
  rfl

theorem handle_ext (id : syncId handle = syncId other) (gen : syncGen handle = syncGen other) :
    handle = other := by
  have low := congrArg Fin.val id
  have high := congrArg UInt32.toNat gen
  simp only [toNat_syncId] at low
  rw [toNat_syncGen, toNat_syncGen] at high
  refine UInt32.toNat_inj.mp ?_
  omega

theorem bridgeSyncDone_iff {syncDoneGen : SyncId → UInt32} :
    bridgeSyncDone syncDoneGen handle = true ↔
      syncId handle ≠ 0 ∧ syncGen handle ≠ 0 ∧ syncDoneGen (syncId handle) = syncGen handle := by
  simp [bridgeSyncDone, and_assoc]

/-- A cell that is written counts for one handle only. -/
theorem bridgeSyncDone_mark {syncDoneGen : SyncId → UInt32}
    (done : bridgeSyncDone (Function.update syncDoneGen (syncId other) (syncGen other)) handle = true) :
    handle = other ∨ bridgeSyncDone syncDoneGen handle = true := by
  obtain ⟨nonzero, generation, cell⟩ := bridgeSyncDone_iff.mp done
  by_cases here : syncId handle = syncId other
  · rw [here, Function.update_self] at cell
    exact .inl (handle_ext here cell.symm)
  · rw [Function.update_of_ne here] at cell
    exact .inr (bridgeSyncDone_iff.mpr ⟨nonzero, generation, cell⟩)

theorem bridgeSyncDone_markAll {syncDoneGen : SyncId → UInt32} {entries : List DeferredSync}
    (done : bridgeSyncDone (markAll entries syncDoneGen) handle = true) :
    (∃ entry ∈ entries, entry.handle = handle) ∨ bridgeSyncDone syncDoneGen handle = true := by
  induction entries generalizing syncDoneGen with
  | nil => exact .inr done
  | cons entry rest ih =>
      rcases ih done with ⟨other, mem, same⟩ | earlier
      · exact .inl ⟨other, List.mem_cons_of_mem _ mem, same⟩
      · rcases bridgeSyncDone_mark earlier with same | before
        · exact .inl ⟨entry, List.mem_cons_self, same.symm⟩
        · exact .inr before

/-! ## Handles that are given out -/

theorem nextGen_lt (stub : SyncStub) : stub.nextGen.toNat < 2 ^ 24 := by
  have low : ((stub.gSyncGen + 1) &&& 0x00FFFFFF).toNat < 2 ^ 24 := by
    rw [UInt32.toNat_and]
    exact Nat.lt_of_le_of_lt Nat.and_le_right (by decide)
  simp only [SyncStub.nextGen]
  split
  · decide
  · exact low

theorem tryId_bounds (stub : SyncStub) (turn : Nat) :
    0 < (stub.tryId turn).toNat ∧ (stub.tryId turn).toNat < 256 := by
  unfold SyncStub.tryId
  have low : ((stub.gSyncNext - 1 + .ofNat turn - 1) % 255).toNat < 255 := by
    rw [UInt32.toNat_mod]
    exact Nat.mod_lt _ (by decide)
  rw [UInt32.toNat_add]
  change 0 < (1 + _) % 2 ^ 32 ∧ (1 + _) % 2 ^ 32 < 256
  rw [Nat.mod_eq_of_lt (by omega)]
  omega

/-- The parts of a handle can be read off again. -/
theorem toNat_handle {gen id : UInt32} (generation : gen.toNat < 2 ^ 24) (index : id.toNat < 256) :
    (gen <<< bridgeSyncIdBits ||| id).toNat = gen.toNat * 256 + id.toNat := by
  have shifted : (gen <<< bridgeSyncIdBits).toNat = gen.toNat <<< 8 := by
    rw [UInt32.toNat_shiftLeft]
    change gen.toNat <<< 8 % 2 ^ 32 = _
    rw [Nat.shiftLeft_eq]
    exact Nat.mod_eq_of_lt (by omega)
  rw [UInt32.toNat_or, shifted, ← Nat.shiftLeft_add_eq_or_of_lt (by omega : id.toNat < 2 ^ 8),
    Nat.shiftLeft_eq]

theorem bridgeSyncAlloc_some {stub after : SyncStub} {handle : UInt32}
    (given : stub.bridgeSyncAlloc = some (after, handle)) :
    syncId handle ≠ 0 ∧ syncGen handle = stub.nextGen ∧ stub.gSyncUsed (syncId handle) = false ∧
      after.gSyncUsed = Function.update stub.gSyncUsed (syncId handle) true ∧
      after.gSyncGen = stub.nextGen := by
  obtain ⟨id, free, shape⟩ := Option.map_eq_some_iff.mp given
  cases shape
  obtain ⟨turn, -, rfl⟩ := List.mem_map.mp (List.mem_of_find?_eq_some free)
  have unused := List.find?_some free
  rw [Bool.not_eq_true'] at unused
  obtain ⟨positive, below⟩ := tryId_bounds stub (turn + 1)
  have whole := toNat_handle (nextGen_lt stub) below
  have index : syncId (stub.nextGen <<< bridgeSyncIdBits ||| stub.tryId (turn + 1)) =
      syncId (stub.tryId (turn + 1)) := by
    refine Fin.ext ?_
    rw [toNat_syncId, toNat_syncId, whole]
    omega
  rw [index]
  refine ⟨fun zero => ?_, ?_, unused, rfl, rfl⟩
  · have value := congrArg Fin.val zero
    rw [toNat_syncId] at value
    change _ = 0 at value
    omega
  · refine UInt32.toNat_inj.mp ?_
    rw [toNat_syncGen, whole]
    omega
/-- Before the generations come round, each is one more than the last. -/
theorem nextGen_of_few {stub : SyncStub} (few : stub.gSyncGen.toNat < 2 ^ 24 - 1) :
    stub.nextGen.toNat = stub.gSyncGen.toNat + 1 := by
  have sum : (stub.gSyncGen + 1).toNat = stub.gSyncGen.toNat + 1 := by
    rw [UInt32.toNat_add]
    exact Nat.mod_eq_of_lt (by change _ + 1 < 2 ^ 32; omega)
  have whole : ((stub.gSyncGen + 1) &&& 0x00FFFFFF).toNat = stub.gSyncGen.toNat + 1 := by
    rw [UInt32.toNat_and, sum]
    exact (Nat.and_two_pow_sub_one_eq_mod _ 24).trans (Nat.mod_eq_of_lt (by omega))
  have nonzero : (stub.gSyncGen + 1) &&& 0x00FFFFFF ≠ 0 := by
    intro zero
    rw [zero] at whole
    cases whole
  simp only [SyncStub.nextGen, if_neg nonzero]
  exact whole

end

end GlesBridge.Sync
