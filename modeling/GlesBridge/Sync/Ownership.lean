import GlesBridge.Sync.Handlers
import GlesBridge.Systems.Machine

namespace GlesBridge.Sync

open GlesBridge.Gl GlesBridge.Proxy GlesBridge.Proxy.SyncProxy GlesBridge.Systems

/-! Who has to delete a fence: the table of handles, or the list of deferred waits. -/

/-- A command, or a handler of another kind that resolves. -/
inductive SyncInput where
  | command (command : SyncCommand) (answers : SyncAnswers)
  | resolve (waits : List WaitResult)

def syncMachine : Machine SyncProxy SyncInput where
  step proxy input :=
    match input with
    | .command command answers => proxy.handleSync command answers
    | .resolve waits => proxy.resolve waits

section

variable {fences : Store UInt32} {sync : UInt32} {waits rest : List WaitResult} {gl gl' : Syncs}
  {proxy after : SyncProxy} {entry : DeferredSync} {entries : List DeferredSync}

structure Kept (fences : Store UInt32) : Prop where
  tidy : fences.Tidy
  direct : ∀ sync, .stray sync ∉ fences.log
  null : fences.object 0 = none

theorem Kept.nonnull (kept : Kept fences) (live : (fences.object sync).isSome = true) : sync ≠ 0 := by
  intro null
  rw [null, kept.null] at live
  cases live

theorem Kept.use (kept : Kept fences) (live : (fences.object sync).isSome = true) :
    Kept (fences.use sync) := by
  obtain ⟨fence, found⟩ := Option.isSome_iff_exists.mp live
  refine ⟨kept.tidy.use found, fun other mem => ?_, kept.null⟩
  rw [Store.use_log_of_some found, List.mem_cons] at mem
  exact mem.elim (fun same => by cases same) (kept.direct other)

theorem Kept.release (kept : Kept fences) (live : (fences.object sync).isSome = true) :
    Kept (fences.release sync) := by
  have nonnull := kept.nonnull live
  obtain ⟨fence, found⟩ := Option.isSome_iff_exists.mp live
  refine ⟨kept.tidy.release found, fun other mem => ?_, ?_⟩
  · rw [Store.release_log_of_some found, List.mem_cons] at mem
    exact mem.elim (fun same => by cases same) (kept.direct other)
  · exact (Function.update_of_ne nonnull.symm _ _).trans kept.null

theorem Kept.make (kept : Kept fences) (fresh : fences.object sync = none) (nonnull : sync ≠ 0) :
    Kept (fences.make sync) :=
  ⟨kept.tidy.make fresh, kept.direct, (Function.update_of_ne nonnull.symm _ _).trans kept.null⟩

theorem Kept.waitOut (kept : Kept gl.fences) (live : (gl.fences.object sync).isSome = true)
    (waited : waitOut sync waits gl = some (gl', rest)) : Kept gl'.fences := by
  induction waits generalizing gl with
  | nil => cases waited
  | cons result waits ih =>
      obtain ⟨-, more⟩ := waitOut_cons waited
      have once : Kept ({ gl with fences := gl.fences.use sync } : Syncs).fences := kept.use live
      split at more
      · exact ih once live more
      · obtain ⟨rfl, -⟩ := more
        exact kept.use live

theorem Kept.delete (kept : Kept gl.fences) (live : (gl.fences.object sync).isSome = true) :
    Kept (gl.glDeleteSync sync).fences := by
  rw [Syncs.glDeleteSync, if_neg (kept.nonnull live)]
  exact kept.release live

theorem Kept.resolveOne (kept : Kept proxy.gl.fences)
    (live : (proxy.gl.fences.object entry.s).isSome = true)
    (resolved : proxy.resolveOne entry waits = some (after, rest)) : Kept after.gl.fences := by
  obtain ⟨gl, waited, rfl⟩ := resolveOne_some resolved
  have later := kept.waitOut live waited
  cases entry.owned with
  | false => exact later
  | true =>
      refine later.delete ?_
      rw [(waitOut_keeps waited).1]
      exact live

/-- Deleting the fence of one entry leaves the others alone. -/
theorem Kept.resolveEach (kept : Kept proxy.gl.fences)
    (live : ∀ entry ∈ entries, (proxy.gl.fences.object entry.s).isSome = true)
    (apart : (entries.map DeferredSync.s).Nodup)
    (resolved : resolveEach entries waits proxy = some (after, rest)) : Kept after.gl.fences := by
  induction entries generalizing proxy waits with
  | nil =>
      cases resolved
      exact kept
  | cons entry entries ih =>
      obtain ⟨middle, left, first, more⟩ := resolveEach_cons resolved
      rw [List.map_cons, List.nodup_cons] at apart
      rw [List.forall_mem_cons] at live
      refine ih (kept.resolveOne live.1 first) (fun other mem => ?_) apart.2 more
      obtain ⟨fence, found⟩ := Option.isSome_iff_exists.mp (live.2 other mem)
      rw [(resolveOne_resolved first).object, Option.isSome_iff_exists]
      refine ⟨fence, (spare_eq_some (kept.nonnull (live.2 other mem))).mpr ⟨found, ?_⟩⟩
      intro only mem' _ same
      rw [List.mem_singleton.mp mem'] at same
      exact apart.1 (same ▸ List.mem_map_of_mem mem)

end

/-! ## The list of deferred waits -/

section

variable {sync : UInt32} {entry : DeferredSync} {entries : List DeferredSync}

theorem adopt_map (sync : UInt32) (entries : List DeferredSync) :
    (adopt sync entries).map DeferredSync.s = entries.map DeferredSync.s := by
  induction entries with
  | nil => rfl
  | cons first rest ih =>
      unfold adopt
      split
      · rfl
      · rw [List.map_cons, List.map_cons, ih]

/-- With one entry of each fence, the entry of the fence becomes an owner and the
others stay. -/
theorem mem_adopt (apart : (entries.map DeferredSync.s).Nodup) (mem : entry ∈ adopt sync entries) :
    (entry.s = sync → entry.owned = true) ∧ (entry.s ≠ sync → entry ∈ entries) := by
  induction entries with
  | nil => cases mem
  | cons first rest ih =>
      rw [List.map_cons, List.nodup_cons] at apart
      unfold adopt at mem
      split at mem
      · rename_i here
        rcases List.mem_cons.mp mem with rfl | later
        · exact ⟨fun _ => rfl, fun other => absurd here other⟩
        · refine ⟨fun same => ?_, fun _ => List.mem_cons_of_mem _ later⟩
          refine absurd ?_ apart.1
          rw [here, ← same]
          exact List.mem_map_of_mem later
      · rename_i there
        rcases List.mem_cons.mp mem with rfl | later
        · exact ⟨fun same => absurd same there, fun _ => List.mem_cons_self⟩
        · obtain ⟨owns, stays⟩ := ih apart.2 later
          exact ⟨owns, fun other => List.mem_cons_of_mem _ (stays other)⟩

theorem mem_adopt_origin (mem : entry ∈ adopt sync entries) :
    ∃ other ∈ entries, other.handle = entry.handle ∧ other.s = entry.s := by
  induction entries with
  | nil => cases mem
  | cons first rest ih =>
      unfold adopt at mem
      split at mem
      · rcases List.mem_cons.mp mem with rfl | later
        · exact ⟨first, List.mem_cons_self, rfl, rfl⟩
        · exact ⟨entry, List.mem_cons_of_mem _ later, rfl, rfl⟩
      · rcases List.mem_cons.mp mem with rfl | later
        · exact ⟨entry, List.mem_cons_self, rfl, rfl⟩
        · obtain ⟨other, mem, same⟩ := ih later
          exact ⟨other, List.mem_cons_of_mem _ mem, same⟩

theorem deferred_iff {proxy : SyncProxy} :
    proxy.deferred sync = true ↔ sync ∈ proxy.gDef.map DeferredSync.s := by
  simp [deferred]

end

/-! ## The invariant -/

/-- A fence has one place in the table and one on the list at most, and both only
where the list does not own it; `hand` is one that a handler still holds. -/
structure Owned (hand : UInt32) (proxy : SyncProxy) : Prop where
  kept : Kept proxy.gl.fences
  table : ∀ id, (proxy.syncs id).real ≠ 0 →
    (proxy.gl.fences.object (proxy.syncs id).real).isSome = true
  single : ∀ id other, (proxy.syncs id).real ≠ 0 → (proxy.syncs id).real = (proxy.syncs other).real →
    id = other
  pending : ∀ entry ∈ proxy.gDef, (proxy.gl.fences.object entry.s).isSome = true
  apart : (proxy.gDef.map DeferredSync.s).Nodup
  shared : ∀ entry ∈ proxy.gDef, entry.owned = false → ∃ id, (proxy.syncs id).real = entry.s
  given : ∀ entry ∈ proxy.gDef, entry.owned = true → ∀ id, (proxy.syncs id).real ≠ entry.s
  held : hand ≠ 0 → (proxy.gl.fences.object hand).isSome = true ∧
    (∀ id, (proxy.syncs id).real ≠ hand) ∧ hand ∉ proxy.gDef.map DeferredSync.s
  reach : ∀ sync, (proxy.gl.fences.object sync).isSome = true →
    (∃ id, (proxy.syncs id).real = sync) ∨ sync ∈ proxy.gDef.map DeferredSync.s ∨ sync = hand
  bounded : proxy.gDef.length ≤ maxDeferredSyncs

theorem Owned.zero : Owned 0 SyncProxy.zero where
  kept := ⟨.empty, (fun _ mem => by cases mem), rfl⟩
  table _ mapped := absurd rfl mapped
  single _ _ mapped := absurd rfl mapped
  pending _ mem := by cases mem
  apart := .nil
  shared _ mem := by cases mem
  given _ mem := by cases mem
  held none := absurd rfl none
  reach _ live := by cases live
  bounded := Nat.zero_le _

section

variable {proxy after : SyncProxy} {hand sync handle answer : UInt32} {id : SyncId} {mode : WaitMode}
  {waits rest : List WaitResult} {result : WaitResult}

theorem Owned.resolve (owned : Owned 0 proxy)
    (resolved : proxy.proxyResolveDeferredWaits waits = some (after, rest)) :
    Owned 0 after ∧ after.gDef = [] ∧ after.syncs = proxy.syncs := by
  obtain ⟨⟨last, left⟩, each, shape⟩ := Option.map_eq_some_iff.mp resolved
  cases shape
  have parts := resolveEach_resolved each
  have kept := owned.kept.resolveEach owned.pending owned.apart each
  refine ⟨⟨kept, ?_, ?_, fun _ mem => (by cases mem), .nil, fun _ mem => (by cases mem),
    fun _ mem => (by cases mem), fun none => absurd rfl none, ?_, Nat.zero_le _⟩, rfl, parts.syncs⟩
  · intro id mapped
    rw [parts.syncs] at mapped ⊢
    obtain ⟨fence, found⟩ := Option.isSome_iff_exists.mp (owned.table id mapped)
    rw [parts.object, Option.isSome_iff_exists]
    exact ⟨fence, (spare_eq_some mapped).mpr
      ⟨found, fun entry mem mine same => owned.given entry mem mine id same.symm⟩⟩
  · rw [parts.syncs]
    exact owned.single
  · intro sync live
    obtain ⟨fence, found⟩ := Option.isSome_iff_exists.mp live
    have nonnull := kept.nonnull live
    rw [parts.object, spare_eq_some nonnull] at found
    rw [parts.syncs]
    rcases owned.reach sync (by rw [found.1]; rfl) with inTable | onList | held
    · exact .inl inTable
    · obtain ⟨entry, mem, rfl⟩ := List.mem_map.mp onList
      cases mine : entry.owned with
      | true => exact absurd rfl (found.2 entry mem mine)
      | false => exact .inl (owned.shared entry mem mine)
    · exact absurd held nonnull

/-- A use of a fence, and what `sync_mark_done` writes. -/
theorem Owned.wait (owned : Owned hand proxy) (gl : Syncs) (kept : Kept gl.fences)
    (object : gl.fences.object = proxy.gl.fences.object) (done : SyncId → UInt32) :
    Owned hand { proxy with gl, syncDoneGen := done } where
  kept := kept
  table id mapped := by rw [object]; exact owned.table id mapped
  single := owned.single
  pending entry mem := by rw [object]; exact owned.pending entry mem
  apart := owned.apart
  shared := owned.shared
  given := owned.given
  held some := by rw [object]; exact owned.held some
  reach sync live := owned.reach sync (by rwa [object] at live)
  bounded := owned.bounded

theorem Owned.make (owned : Owned 0 proxy) (fresh : proxy.gl.fences.object answer = none)
    (nonnull : answer ≠ 0) :
    Owned answer { proxy with gl := { proxy.gl with fences := proxy.gl.fences.make answer } } := by
  have stays {sync : UInt32} (live : (proxy.gl.fences.object sync).isSome = true) :
      sync ≠ answer ∧ ((proxy.gl.fences.make answer).object sync).isSome = true := by
    have apart : sync ≠ answer := by
      intro same
      rw [same, fresh] at live
      cases live
    exact ⟨apart, by simpa [Store.make, apart] using live⟩
  constructor
  · exact owned.kept.make fresh nonnull
  · exact fun id mapped => (stays (owned.table id mapped)).2
  · exact owned.single
  · exact fun entry mem => (stays (owned.pending entry mem)).2
  · exact owned.apart
  · exact owned.shared
  · exact owned.given
  · refine fun _ => ⟨by simp [Store.make], fun id same => ?_, fun onList => ?_⟩
    · have mapped : (proxy.syncs id).real ≠ 0 := by
        change (proxy.syncs id).real = answer at same
        rwa [same]
      exact (stays (owned.table id mapped)).1 same
    · obtain ⟨entry, mem, same⟩ := List.mem_map.mp onList
      exact (stays (owned.pending entry mem)).1 same
  · intro sync live
    by_cases here : sync = answer
    · exact .inr (.inr here)
    · have before : (proxy.gl.fences.object sync).isSome = true := by
        simpa [Store.make, here] using live
      rcases owned.reach sync before with inTable | onList | held
      · exact .inl inTable
      · exact .inr (.inl onList)
      · exact absurd held (owned.kept.nonnull before)
  · exact owned.bounded

/-- The fence in hand is not kept. -/
theorem Owned.discard (owned : Owned hand proxy) :
    Owned 0 { proxy with gl := proxy.gl.glDeleteSync hand } := by
  by_cases null : hand = 0
  · rw [null] at owned ⊢
    exact owned
  · obtain ⟨live, absent, unlisted⟩ := owned.held null
    rw [Syncs.glDeleteSync, if_neg null]
    have stays {sync : UInt32} (apart : sync ≠ hand) :
        (proxy.gl.fences.release hand).object sync = proxy.gl.fences.object sync :=
      Function.update_of_ne apart _ _
    constructor
    · exact owned.kept.release live
    · intro id mapped
      simp only [stays (absent id)]
      exact owned.table id mapped
    · exact owned.single
    · intro entry mem
      have apart : entry.s ≠ hand := fun same => unlisted (same ▸ List.mem_map_of_mem mem)
      simp only [stays apart]
      exact owned.pending entry mem
    · exact owned.apart
    · exact owned.shared
    · exact owned.given
    · exact fun none => absurd rfl none
    · intro sync left
      have apart : sync ≠ hand := by
        intro same
        simp [same, Store.release] at left
      simp only [stays apart] at left
      rcases owned.reach sync left with inTable | onList | held
      · exact .inl inTable
      · exact .inr (.inl onList)
      · exact absurd held apart
    · exact owned.bounded

/-- The table takes the fence in hand at an index that is free. -/
theorem Owned.enter (owned : Owned hand proxy) (nonnull : hand ≠ 0)
    (free : (proxy.syncs id).real = 0) (gen : UInt32) :
    Owned 0 { proxy with syncs := Function.update proxy.syncs id ⟨hand, gen⟩ } := by
  obtain ⟨live, absent, unlisted⟩ := owned.held nonnull
  have other {index : SyncId} (apart : index ≠ id) :
      Function.update proxy.syncs id ⟨hand, gen⟩ index = proxy.syncs index :=
    Function.update_of_ne apart _ _
  constructor
  · exact owned.kept
  · intro index mapped
    by_cases here : index = id
    · subst here
      simpa using live
    · simp only [other here] at mapped ⊢
      exact owned.table index mapped
  · intro left right mapped same
    by_cases here : left = id
    · by_cases there : right = id
      · rw [here, there]
      · subst here
        simp only [Function.update_self, other there] at same
        exact absurd same.symm (absent right)
    · by_cases there : right = id
      · subst there
        simp only [Function.update_self, other here] at same
        exact absurd same (absent left)
      · simp only [other here, other there] at mapped same
        exact owned.single left right mapped same
  · exact owned.pending
  · exact owned.apart
  · intro entry mem free
    obtain ⟨index, mapped⟩ := owned.shared entry mem free
    refine ⟨index, ?_⟩
    have nonzero := owned.kept.nonnull (owned.pending entry mem)
    have apart : index ≠ id := by
      rintro rfl
      exact nonzero (mapped.symm.trans ‹_›)
    simpa only [other apart] using mapped
  · intro entry mem mine index
    by_cases here : index = id
    · subst here
      simp only [Function.update_self]
      exact fun same => unlisted (same ▸ List.mem_map_of_mem mem)
    · simp only [other here]
      exact owned.given entry mem mine index
  · exact fun none => absurd rfl none
  · intro sync left
    rcases owned.reach sync left with ⟨index, mapped⟩ | onList | held
    · have apart : index ≠ id := by
        rintro rfl
        exact owned.kept.nonnull left (mapped.symm.trans free)
      exact .inl ⟨index, by simpa only [other apart] using mapped⟩
    · exact .inr (.inl onList)
    · exact .inl ⟨id, by simp [held]⟩
  · exact owned.bounded

/-- An index that is left when another is cleared. -/
theorem Owned.cleared (owned : Owned hand proxy) {index : SyncId} {gen : UInt32}
    (still : (Function.update proxy.syncs id ⟨0, gen⟩ index).real ≠ 0) :
    index ≠ id ∧ (proxy.syncs index).real ≠ 0 ∧ (proxy.syncs index).real ≠ (proxy.syncs id).real ∧
      Function.update proxy.syncs id ⟨0, gen⟩ index = proxy.syncs index := by
  have apart : index ≠ id := by
    intro same
    simp [same] at still
  have same : Function.update proxy.syncs id ⟨0, gen⟩ index = proxy.syncs index :=
    Function.update_of_ne apart _ _
  rw [same] at still
  exact ⟨apart, still, fun equal => apart (owned.single index id still equal), same⟩

theorem Owned.cleared_single (owned : Owned hand proxy) {left right : SyncId} {gen : UInt32}
    (still : (Function.update proxy.syncs id ⟨0, gen⟩ left).real ≠ 0)
    (same : (Function.update proxy.syncs id ⟨0, gen⟩ left).real =
      (Function.update proxy.syncs id ⟨0, gen⟩ right).real) : left = right := by
  obtain ⟨-, mapped, -, here⟩ := owned.cleared still
  obtain ⟨-, -, -, there⟩ := owned.cleared (same ▸ still)
  rw [here, there] at same
  exact owned.single left right mapped same

theorem Owned.cleared_held (owned : Owned hand proxy) {index : SyncId} {gen : UInt32} (nonnull : hand ≠ 0) :
    (Function.update proxy.syncs id ⟨0, gen⟩ index).real ≠ hand := by
  intro same
  obtain ⟨-, -, -, here⟩ := owned.cleared (by rwa [same])
  rw [here] at same
  exact (owned.held nonnull).2.1 index same

/-- An index whose fence is another one keeps it. -/
theorem cleared_other {index : SyncId} {gen : UInt32} (found : (proxy.syncs index).real = sync)
    (apart : sync ≠ (proxy.syncs id).real) :
    (Function.update proxy.syncs id ⟨0, gen⟩ index).real = sync := by
  have elsewhere : index ≠ id := by
    intro same
    rw [same] at found
    exact apart found.symm
  rw [Function.update_of_ne elsewhere]
  exact found

/-- The list takes over the fence that the table gives up. -/
theorem Owned.adopt (owned : Owned hand proxy) (mapped : (proxy.syncs id).real ≠ 0) (gen : UInt32)
    (listed : (proxy.syncs id).real ∈ proxy.gDef.map DeferredSync.s) :
    Owned hand { proxy with
      gDef := SyncProxy.adopt (proxy.syncs id).real proxy.gDef
      syncs := Function.update proxy.syncs id ⟨0, gen⟩ } := by
  constructor
  · exact owned.kept
  · intro index still
    obtain ⟨-, mapped, -, same⟩ := owned.cleared still
    simp only [same]
    exact owned.table index mapped
  · exact fun _ _ => owned.cleared_single
  · intro entry mem
    by_cases here : entry.s = (proxy.syncs id).real
    · rw [here]
      exact owned.table id mapped
    · exact owned.pending entry ((mem_adopt owned.apart mem).2 here)
  · rw [adopt_map]
    exact owned.apart
  · intro entry mem free
    have elsewhere : entry.s ≠ (proxy.syncs id).real := by
      intro here
      rw [(mem_adopt owned.apart mem).1 here] at free
      cases free
    obtain ⟨index, found⟩ := owned.shared entry ((mem_adopt owned.apart mem).2 elsewhere) free
    exact ⟨index, cleared_other found elsewhere⟩
  · intro entry mem mine index same
    have live : (proxy.gl.fences.object entry.s).isSome = true := by
      by_cases here : entry.s = (proxy.syncs id).real
      · rw [here]
        exact owned.table id mapped
      · exact owned.pending entry ((mem_adopt owned.apart mem).2 here)
    obtain ⟨-, -, apart, still⟩ := owned.cleared (by rw [same]; exact owned.kept.nonnull live)
    simp only [still] at same
    have before := (mem_adopt owned.apart mem).2 fun here => apart (same.trans here)
    exact owned.given entry before mine index same
  · rw [adopt_map]
    exact fun nonnull => ⟨(owned.held nonnull).1, fun _ => owned.cleared_held nonnull,
      (owned.held nonnull).2.2⟩
  · intro sync live
    rw [adopt_map]
    rcases owned.reach sync live with ⟨index, found⟩ | onList | inHand
    · by_cases here : sync = (proxy.syncs id).real
      · rw [here]
        exact .inr (.inl listed)
      · exact .inl ⟨index, cleared_other found here⟩
    · exact .inr (.inl onList)
    · exact .inr (.inr inHand)
  · have length := congrArg List.length (adopt_map (proxy.syncs id).real proxy.gDef)
    rw [List.length_map, List.length_map] at length
    exact Nat.le_trans (Nat.le_of_eq length) owned.bounded

/-- The fence that the table gives up is deleted. -/
theorem Owned.delete (owned : Owned hand proxy) (mapped : (proxy.syncs id).real ≠ 0) (gen : UInt32)
    (unlisted : (proxy.syncs id).real ∉ proxy.gDef.map DeferredSync.s) :
    Owned hand { proxy with
      gl := proxy.gl.glDeleteSync (proxy.syncs id).real
      syncs := Function.update proxy.syncs id ⟨0, gen⟩ } := by
  rw [Syncs.glDeleteSync, if_neg mapped]
  have stays {sync : UInt32} (apart : sync ≠ (proxy.syncs id).real) :
      (proxy.gl.fences.release (proxy.syncs id).real).object sync = proxy.gl.fences.object sync :=
    Function.update_of_ne apart _ _
  have listedApart {entry : DeferredSync} (mem : entry ∈ proxy.gDef) :
      entry.s ≠ (proxy.syncs id).real := fun same =>
    unlisted (same ▸ List.mem_map_of_mem mem)
  constructor
  · exact owned.kept.release (owned.table id mapped)
  · intro index still
    obtain ⟨-, mapped, elsewhere, same⟩ := owned.cleared still
    simp only [same, stays elsewhere]
    exact owned.table index mapped
  · exact fun _ _ => owned.cleared_single
  · intro entry mem
    simp only [stays (listedApart mem)]
    exact owned.pending entry mem
  · exact owned.apart
  · intro entry mem free
    obtain ⟨index, found⟩ := owned.shared entry mem free
    exact ⟨index, cleared_other found (listedApart mem)⟩
  · intro entry mem mine index same
    have live := owned.kept.nonnull (owned.pending entry mem)
    obtain ⟨-, -, -, still⟩ := owned.cleared (by rwa [same])
    simp only [still] at same
    exact owned.given entry mem mine index same
  · intro nonnull
    obtain ⟨live, absent, unlisted⟩ := owned.held nonnull
    refine ⟨?_, fun _ => owned.cleared_held nonnull, unlisted⟩
    simp only [stays (absent id).symm]
    exact live
  · intro sync live
    have apart : sync ≠ (proxy.syncs id).real := by
      intro same
      simp [same, Store.release] at live
    simp only [stays apart] at live
    rcases owned.reach sync live with ⟨index, found⟩ | onList | inHand
    · exact .inl ⟨index, cleared_other found apart⟩
    · exact .inr (.inl onList)
    · exact .inr (.inr inHand)
  · exact owned.bounded

/-- The table gives up the fence of an index: the list owns it then, or it is deleted. -/
theorem Owned.drop (owned : Owned hand proxy) (mapped : (proxy.syncs id).real ≠ 0) (gen : UInt32) :
    Owned hand { proxy.adoptOrDelete (proxy.syncs id).real with
      syncs := Function.update proxy.syncs id ⟨0, gen⟩ } := by
  unfold adoptOrDelete
  cases listed : proxy.deferred (proxy.syncs id).real with
  | true => exact owned.adopt mapped gen (deferred_iff.mp listed)
  | false =>
      refine owned.delete mapped gen ?_
      rw [← deferred_iff, listed]
      exact Bool.false_ne_true

/-- A fence of the table is put on the list. -/
theorem Owned.push (owned : Owned 0 proxy) (mapped : (proxy.syncs id).real ≠ 0)
    (unlisted : (proxy.syncs id).real ∉ proxy.gDef.map DeferredSync.s)
    (room : proxy.gDef.length < maxDeferredSyncs) (handle : UInt32) :
    Owned 0 { proxy with gDef := proxy.gDef ++ [⟨(proxy.syncs id).real, handle, false⟩] } := by
  constructor
  · exact owned.kept
  · exact owned.table
  · exact owned.single
  · intro entry mem
    rcases List.mem_append.mp mem with before | new
    · exact owned.pending entry before
    · rw [List.mem_singleton.mp new]
      exact owned.table id mapped
  · rw [List.map_append, List.nodup_append]
    refine ⟨owned.apart, by simp, fun sync onList other new => ?_⟩
    rw [List.map_singleton, List.mem_singleton] at new
    rw [new]
    intro same
    exact unlisted ((show sync = (proxy.syncs id).real from same) ▸ onList)
  · intro entry mem free
    rcases List.mem_append.mp mem with before | new
    · exact owned.shared entry before free
    · rw [List.mem_singleton.mp new]
      exact ⟨id, rfl⟩
  · intro entry mem mine
    rcases List.mem_append.mp mem with before | new
    · exact owned.given entry before mine
    · rw [List.mem_singleton.mp new] at mine
      cases mine
  · exact fun none => absurd rfl none
  · intro sync live
    rw [List.map_append, List.mem_append]
    rcases owned.reach sync live with inTable | onList | inHand
    · exact .inl inTable
    · exact .inr (.inl (.inl onList))
    · exact .inr (.inr inHand)
  · rw [List.length_append]
    exact room

/-! ## The handlers -/

theorem Owned.hGlFenceSync (owned : Owned 0 proxy)
    (handled : proxy.hGlFenceSync handle answer = some after) : Owned 0 after := by
  rcases hGlFenceSync_cases handled with ⟨-, rfl⟩ | ⟨nonnull, fresh, ⟨-, rfl⟩ | ⟨-, rfl⟩⟩
  · exact owned
  · exact (owned.make fresh nonnull).discard
  · have held := owned.make fresh nonnull
    by_cases stale : (proxy.syncs (syncId handle)).real ≠ 0
    · have entered := (held.drop stale 0).enter nonnull
        (by simp : (Function.update proxy.syncs (syncId handle) ⟨0, 0⟩ (syncId handle)).real = 0)
        (syncGen handle)
      simp only [Function.update_idem] at entered
      have given : (proxy.withFence answer).giveUp (syncId handle) =
          (proxy.withFence answer).adoptOrDelete (proxy.syncs (syncId handle)).real := if_pos stale
      rw [given]
      exact entered
    · have given : (proxy.withFence answer).giveUp (syncId handle) = proxy.withFence answer :=
        if_neg stale
      rw [given]
      exact held.enter nonnull (not_not.mp stale) (syncGen handle)

theorem Owned.hGlDeleteSync (owned : Owned 0 proxy) : Owned 0 (proxy.hGlDeleteSync handle) := by
  rcases hGlDeleteSync_cases with ⟨-, same⟩ | ⟨found, dropped⟩
  · rw [same]
    exact owned
  · rw [dropped]
    exact owned.drop (lookupSync_real found).2.2.1 0

theorem Owned.deferPush (owned : Owned 0 proxy) (mapped : (proxy.syncs id).real ≠ 0)
    (pushed : proxy.deferPush (proxy.syncs id).real handle waits = some (after, rest)) :
    Owned 0 after := by
  rcases deferPush_cases pushed with ⟨-, rfl, -⟩ | ⟨unlisted, ready, resolved, rfl⟩
  · exact owned
  · split at resolved
    · obtain ⟨later, empty, syncs⟩ := owned.resolve resolved
      rw [← syncs] at mapped ⊢
      exact later.push mapped (by simp [empty]) (by rw [empty]; decide) handle
    · rename_i room
      cases resolved
      refine owned.push mapped ?_ (Nat.lt_of_le_of_ne owned.bounded room) handle
      rw [← deferred_iff, unlisted]
      exact Bool.false_ne_true

theorem Owned.use (owned : Owned 0 proxy) (mapped : (proxy.syncs id).real ≠ 0)
    (done : SyncId → UInt32) :
    Owned 0 { proxy with
      gl := { proxy.gl with fences := proxy.gl.fences.use (proxy.syncs id).real }
      syncDoneGen := done } :=
  owned.wait { proxy.gl with fences := proxy.gl.fences.use (proxy.syncs id).real }
    (owned.kept.use (owned.table id mapped)) rfl done

theorem Owned.hGlClientWaitSync (owned : Owned 0 proxy)
    (handled : proxy.hGlClientWaitSync handle mode waits = some (after, rest, result)) :
    Owned 0 after := by
  rcases hGlClientWaitSync_cases handled with
    ⟨-, rfl, -⟩ | ⟨found, ⟨-, pushed⟩ | ⟨-, -, -, rfl⟩⟩
  · exact owned
  · exact owned.deferPush (lookupSync_real found).2.2.1 pushed
  · exact owned.use (lookupSync_real found).2.2.1 _

theorem Owned.hGlWaitSync (owned : Owned 0 proxy) : Owned 0 (proxy.hGlWaitSync handle) := by
  unfold SyncProxy.hGlWaitSync Syncs.glWaitSync
  by_cases found : proxy.lookupSync handle = 0
  · rw [if_pos found]
    exact owned
  · obtain ⟨real, -, mapped, -⟩ := lookupSync_real found
    rw [if_neg found, real]
    exact owned.use mapped _

end

theorem Owned.step {proxy after : SyncProxy} {input : SyncInput} (owned : Owned 0 proxy)
    (stepped : syncMachine.step proxy input = some after) : Owned 0 after := by
  cases input with
  | command command answers =>
      cases command with
      | glFenceSync handle =>
          obtain ⟨-, handled⟩ := Option.ite_none_right_eq_some.mp stepped
          exact owned.hGlFenceSync handled
      | glClientWaitSync handle mode =>
          obtain ⟨⟨ready, rest, result⟩, handled, ended⟩ := Option.bind_eq_some_iff.mp stepped
          obtain ⟨-, same⟩ := Option.ite_none_right_eq_some.mp ended
          cases same
          exact owned.hGlClientWaitSync handled
      | glWaitSync handle =>
          obtain ⟨-, same⟩ := Option.ite_none_right_eq_some.mp stepped
          cases same
          exact owned.hGlWaitSync
      | glDeleteSync handle =>
          obtain ⟨-, same⟩ := Option.ite_none_right_eq_some.mp stepped
          cases same
          exact owned.hGlDeleteSync
  | resolve waits =>
      obtain ⟨⟨ready, rest⟩, resolved, ended⟩ := Option.bind_eq_some_iff.mp stepped
      obtain ⟨-, same⟩ := Option.ite_none_right_eq_some.mp ended
      cases same
      exact (owned.resolve resolved).1

theorem Owned.run {proxy after : SyncProxy} {inputs : List SyncInput} (owned : Owned 0 proxy)
    (runs : syncMachine.run proxy inputs = some after) : Owned 0 after := by
  induction inputs generalizing proxy with
  | nil =>
      cases runs
      exact owned
  | cons input rest ih =>
      obtain ⟨next, stepped, more⟩ := Option.bind_eq_some_iff.mp runs
      exact ih (owned.step stepped) more

end GlesBridge.Sync
