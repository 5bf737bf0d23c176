import GlesBridge.Sync.Handle
import GlesBridge.Sync.Ownership
import GlesBridge.Sync.System

namespace GlesBridge.Sync

open GlesBridge.Gl GlesBridge.Proxy GlesBridge.Proxy.SyncProxy GlesBridge.Stub GlesBridge.Systems

/-! When the stub may answer a wait itself. -/

/-- Where the stub answers at once, the fence of the call that gave out the handle
is signaled. -/
def FastPathSound (state : SyncSystem) : SystemInput → Prop
  | .glClientWaitSync handle timeout fast =>
      Stub.glClientWaitSync state.proxy.syncDoneGen handle timeout fast = .fast →
        state.Signaled handle
  | _ => True

/-- Nothing is left of an earlier fence where a handle is given out, and no
deferred wait fails. -/
def KeepsFastPath (state : SyncSystem) (input : SystemInput) : Prop :=
  (input = .glFenceSync → ∀ made ∈ state.stub.bridgeSyncAlloc, state.Forgotten made.2) ∧
    (state.Resolves input →
      match input with
      | .serve answers => .waitFailed ∉ answers.waits
      | .resolve waits => .waitFailed ∉ waits
      | _ => True)

/-! ## The invariant of the proxy -/

/-- What the proxy knows of a handle comes from the latest call that gave it out. -/
structure Traced (issued : UInt32 → Option Nat) (created : List (Nat × Nat)) (hand : UInt32)
    (proxy : SyncProxy) : Prop where
  owned : Owned hand proxy
  cell : ∀ handle, bridgeSyncDone proxy.syncDoneGen handle = true →
    ∃ call fence, issued handle = some call ∧ (call, fence) ∈ created ∧ fence ∈ proxy.gl.signaled
  table : ∀ handle, proxy.lookupSync handle ≠ 0 →
    ∃ call fence, issued handle = some call ∧ (call, fence) ∈ created ∧
      proxy.gl.fences.object (proxy.lookupSync handle) = some fence
  list : ∀ entry ∈ proxy.gDef,
    ∃ call fence, issued entry.handle = some call ∧ (call, fence) ∈ created ∧
      proxy.gl.fences.object entry.s = some fence

section

variable {issued : UInt32 → Option Nat} {created : List (Nat × Nat)} {proxy after : SyncProxy}
  {handle hand sync answer : UInt32} {mode : WaitMode} {waits rest : List WaitResult}
  {result : WaitResult}

theorem lookupSync_congr (syncs : after.syncs = proxy.syncs) (handle : UInt32) :
    after.lookupSync handle = proxy.lookupSync handle := by
  simp only [lookupSync, syncs]

/-- Fences that are still live are the same ones. -/
theorem Traced.shrink {next : UInt32} (traced : Traced issued created hand proxy) (owned : Owned next after)
    (cell : ∀ handle, bridgeSyncDone after.syncDoneGen handle = true →
      ∃ call fence, issued handle = some call ∧ (call, fence) ∈ created ∧
        fence ∈ after.gl.signaled)
    (object : ∀ {sync fence}, after.gl.fences.object sync = some fence →
      proxy.gl.fences.object sync = some fence)
    (table : ∀ handle, after.lookupSync handle ≠ 0 →
      after.lookupSync handle = proxy.lookupSync handle)
    (list : ∀ entry ∈ after.gDef, ∃ other ∈ proxy.gDef,
      other.handle = entry.handle ∧ other.s = entry.s) :
    Traced issued created next after := by
  refine ⟨owned, cell, fun handle found => ?_, fun entry mem => ?_⟩
  · have same := table handle found
    have nonnull := found
    rw [same] at nonnull
    obtain ⟨call, fence, given, made, before⟩ := traced.table handle nonnull
    obtain ⟨real, -, mapped, -⟩ := lookupSync_real found
    obtain ⟨number, live⟩ := Option.isSome_iff_exists.mp (owned.table _ mapped)
    rw [← real] at live
    have earlier := object live
    rw [same, before] at earlier
    cases earlier
    exact ⟨call, fence, given, made, live⟩
  · obtain ⟨other, mem', same, pointer⟩ := list entry mem
    obtain ⟨call, fence, given, made, before⟩ := traced.list other mem'
    obtain ⟨number, live⟩ := Option.isSome_iff_exists.mp (owned.pending entry mem)
    have earlier := object live
    rw [← pointer, before] at earlier
    cases earlier
    exact ⟨call, fence, by rw [← same]; exact given, made, live⟩

theorem Traced.resolve (traced : Traced issued created 0 proxy) (succeeds : .waitFailed ∉ waits)
    (resolved : proxy.proxyResolveDeferredWaits waits = some (after, rest)) :
    Traced issued created 0 after := by
  obtain ⟨owned, empty, syncs⟩ := traced.owned.resolve resolved
  obtain ⟨⟨last, left⟩, each, shape⟩ := Option.map_eq_some_iff.mp resolved
  cases shape
  have parts := resolveEach_resolved each
  have nonnull (entry : DeferredSync) (mem : entry ∈ proxy.gDef) : entry.s ≠ 0 :=
    traced.owned.kept.nonnull (traced.owned.pending entry mem)
  have signaled := resolveEach_signaled each succeeds traced.owned.apart nonnull
  refine traced.shrink owned (fun handle done => ?_) (fun {sync fence} live => ?_)
    (fun handle _ => lookupSync_congr syncs handle) (fun entry mem => by cases mem)
  · simp only [parts.done] at done
    simp only [parts.signaled]
    rcases bridgeSyncDone_markAll done with ⟨entry, mem, rfl⟩ | before
    · obtain ⟨call, fence, given, made, live⟩ := traced.list entry mem
      exact ⟨call, fence, given, made, signaled entry mem fence live⟩
    · exact traced.cell handle before
  · have live' : spare proxy.gDef proxy.gl.fences.object sync = some fence := parts.object ▸ live
    have nonnull := owned.kept.nonnull (by rw [live]; rfl)
    exact ((spare_eq_some nonnull).mp live').1

/-- The driver answers for a fence of the table. -/
theorem Traced.use (traced : Traced issued created 0 proxy) (found : proxy.lookupSync handle ≠ 0)
    (honest : proxy.gl.Honest (proxy.syncs (syncId handle)).real result) :
    Traced issued created 0 { proxy with
      gl := { proxy.gl with fences := proxy.gl.fences.use (proxy.syncs (syncId handle)).real }
      syncDoneGen := if result.saysSignaled then (proxy.syncMarkDone handle).syncDoneGen
        else proxy.syncDoneGen } := by
  obtain ⟨real, -, mapped, -⟩ := lookupSync_real found
  refine traced.shrink (traced.owned.use mapped _) (fun other done => ?_) (fun live => live)
    (fun _ _ => rfl) (fun entry mem => ⟨entry, mem, rfl, rfl⟩)
  cases signals : result.saysSignaled with
  | false =>
      simp only [signals] at done
      exact traced.cell other done
  | true =>
      simp only [signals, if_true] at done
      rcases bridgeSyncDone_mark done with rfl | before
      · obtain ⟨call, fence, given, made, live⟩ := traced.table other found
        rw [real] at live
        exact ⟨call, fence, given, made, honest signals fence live⟩
      · exact traced.cell other before

theorem Traced.push (traced : Traced issued created 0 proxy) (found : proxy.lookupSync handle ≠ 0)
    (owned : Owned 0 { proxy with
      gDef := proxy.gDef ++ [⟨(proxy.syncs (syncId handle)).real, handle, false⟩] }) :
    Traced issued created 0 { proxy with
      gDef := proxy.gDef ++ [⟨(proxy.syncs (syncId handle)).real, handle, false⟩] } := by
  refine ⟨owned, traced.cell, traced.table, fun entry mem => ?_⟩
  rcases List.mem_append.mp mem with before | new
  · exact traced.list entry before
  · rw [List.mem_singleton.mp new]
    have traces := traced.table handle found
    rw [(lookupSync_real found).1] at traces
    exact traces

theorem Traced.deferPush (traced : Traced issued created 0 proxy)
    (found : proxy.lookupSync handle ≠ 0)
    (succeeds : proxy.deferred (proxy.syncs (syncId handle)).real = false →
      proxy.gDef.length = maxDeferredSyncs → .waitFailed ∉ waits)
    (pushed : proxy.deferPush (proxy.syncs (syncId handle)).real handle waits = some (after, rest)) :
    Traced issued created 0 after := by
  have mapped := (lookupSync_real found).2.2.1
  have owned := traced.owned.deferPush mapped pushed
  rcases deferPush_cases pushed with ⟨-, rfl, -⟩ | ⟨unlisted, ready, resolved, rfl⟩
  · exact traced
  · split at resolved
    · rename_i full
      have syncs := (traced.owned.resolve resolved).2.2
      have later := traced.resolve (succeeds unlisted full) resolved
      rw [← syncs] at owned ⊢
      refine later.push ?_ owned
      rwa [lookupSync_congr syncs]
    · cases resolved
      exact traced.push found owned

theorem Traced.make (traced : Traced issued created 0 proxy)
    (fresh : proxy.gl.fences.object answer = none) (nonnull : answer ≠ 0) (call : Nat) :
    Traced issued ((call, proxy.gl.fences.made) :: created) answer (proxy.withFence answer) := by
  have stays {sync : UInt32} {fence : Nat} (live : proxy.gl.fences.object sync = some fence) :
      (proxy.withFence answer).gl.fences.object sync = some fence := by
    have apart : sync ≠ answer := by
      intro same
      rw [same, fresh] at live
      cases live
    exact (Function.update_of_ne apart _ _).trans live
  refine ⟨traced.owned.make fresh nonnull, fun handle done => ?_, fun handle found => ?_,
    fun entry mem => ?_⟩
  · obtain ⟨call, fence, given, made, signaled⟩ := traced.cell handle done
    exact ⟨call, fence, given, List.mem_cons_of_mem _ made, signaled⟩
  · obtain ⟨call, fence, given, made, live⟩ := traced.table handle found
    exact ⟨call, fence, given, List.mem_cons_of_mem _ made, stays live⟩
  · obtain ⟨call, fence, given, made, live⟩ := traced.list entry mem
    exact ⟨call, fence, given, List.mem_cons_of_mem _ made, stays live⟩

theorem adoptOrDelete_object {fence : Nat} {name : UInt32}
    (live : (proxy.adoptOrDelete sync).gl.fences.object name = some fence) :
    proxy.gl.fences.object name = some fence := by
  unfold adoptOrDelete at live
  split at live
  · exact live
  · simp only [Syncs.glDeleteSync] at live
    split at live
    · exact live
    · by_cases here : name = sync
      · simp [here, Store.release] at live
      · exact (Function.update_of_ne here _ _).symm.trans live

theorem adoptOrDelete_signaled : (proxy.adoptOrDelete sync).gl.signaled = proxy.gl.signaled := by
  simp only [adoptOrDelete, Syncs.glDeleteSync]
  split
  · rfl
  · split <;> rfl

theorem adoptOrDelete_origin {entry : DeferredSync} (mem : entry ∈ (proxy.adoptOrDelete sync).gDef) :
    ∃ other ∈ proxy.gDef, other.handle = entry.handle ∧ other.s = entry.s := by
  unfold adoptOrDelete at mem
  split at mem
  · exact mem_adopt_origin mem
  · exact ⟨entry, mem, rfl, rfl⟩

/-- A handle that is still in the table after an index was cleared was there before. -/
theorem lookupSync_cleared {id : SyncId} {gen : UInt32}
    (syncs : after.syncs = Function.update proxy.syncs id ⟨0, gen⟩)
    (found : after.lookupSync handle ≠ 0) :
    after.lookupSync handle = proxy.lookupSync handle := by
  obtain ⟨-, -, mapped, -⟩ := lookupSync_real found
  have apart : syncId handle ≠ id := by
    intro same
    rw [syncs, same, Function.update_self] at mapped
    exact mapped rfl
  simp only [lookupSync, syncs, Function.update_of_ne apart]

theorem Traced.drop {id : SyncId} (traced : Traced issued created hand proxy)
    (mapped : (proxy.syncs id).real ≠ 0) :
    Traced issued created hand { proxy.adoptOrDelete (proxy.syncs id).real with
      syncs := Function.update proxy.syncs id ⟨0, 0⟩ } := by
  refine traced.shrink (traced.owned.drop mapped 0) (fun handle done => ?_)
    (fun live => adoptOrDelete_object live) (fun handle found => lookupSync_cleared rfl found)
    (fun entry mem => adoptOrDelete_origin mem)
  simp only [adoptOrDelete_done] at done
  simp only [adoptOrDelete_signaled]
  exact traced.cell handle done

theorem Traced.discard (traced : Traced issued created hand proxy) :
    Traced issued created 0 { proxy with gl := proxy.gl.glDeleteSync hand } := by
  have signaled : (proxy.gl.glDeleteSync hand).signaled = proxy.gl.signaled := by
    unfold Syncs.glDeleteSync
    split <;> rfl
  refine traced.shrink traced.owned.discard (fun handle done => ?_) (fun {sync fence} live => ?_)
    (fun _ _ => rfl) (fun entry mem => ⟨entry, mem, rfl, rfl⟩)
  · simp only [signaled]
    exact traced.cell handle done
  · unfold Syncs.glDeleteSync at live
    split at live
    · exact live
    · by_cases here : sync = hand
      · simp [here, Store.release] at live
      · exact (Function.update_of_ne here _ _).symm.trans live

theorem Traced.enter {call fence : Nat} (traced : Traced issued created hand proxy)
    (nonnull : hand ≠ 0)
    (free : (proxy.syncs (syncId handle)).real = 0) (given : issued handle = some call)
    (made : (call, fence) ∈ created) (live : proxy.gl.fences.object hand = some fence) :
    Traced issued created 0 { proxy with
      syncs := Function.update proxy.syncs (syncId handle) ⟨hand, syncGen handle⟩ } := by
  refine ⟨traced.owned.enter nonnull free _, traced.cell, fun other found => ?_, traced.list⟩
  obtain ⟨real, -, mapped, gen⟩ := lookupSync_real found
  by_cases here : syncId other = syncId handle
  · simp only [here, Function.update_self] at gen real
    rw [handle_ext here gen.symm] at real ⊢
    exact ⟨call, fence, given, made, by rw [real]; exact live⟩
  · have same : SyncProxy.lookupSync { proxy with
        syncs := Function.update proxy.syncs (syncId handle) ⟨hand, syncGen handle⟩ } other =
        proxy.lookupSync other := by
      simp only [lookupSync, Function.update_of_ne here]
    rw [same] at found ⊢
    exact traced.table other found

theorem Traced.hGlFenceSync {call : Nat} (traced : Traced issued created 0 proxy)
    (given : issued handle = some call)
    (handled : proxy.hGlFenceSync handle answer = some after) :
    Traced issued ((if answer = 0 then [] else [(call, proxy.gl.fences.made)]) ++ created) 0
      after := by
  rcases hGlFenceSync_cases handled with ⟨null, rfl⟩ | ⟨nonnull, fresh, ⟨-, rfl⟩ | ⟨-, rfl⟩⟩
  · rw [if_pos null]
    exact traced
  · rw [if_neg nonnull]
    exact (traced.make fresh nonnull call).discard
  · rw [if_neg nonnull]
    have held := traced.make fresh nonnull call
    have live : (proxy.withFence answer).gl.fences.object answer = some proxy.gl.fences.made :=
      Function.update_self ..
    by_cases stale : (proxy.syncs (syncId handle)).real ≠ 0
    · have given' : (proxy.withFence answer).giveUp (syncId handle) =
          (proxy.withFence answer).adoptOrDelete (proxy.syncs (syncId handle)).real := if_pos stale
      rw [given']
      have dropped := held.drop stale
      obtain ⟨number, still⟩ := Option.isSome_iff_exists.mp (dropped.owned.held nonnull).1
      have same := adoptOrDelete_object still
      rw [live] at same
      cases same
      have entered := dropped.enter nonnull
        (by simp : (Function.update proxy.syncs (syncId handle) ⟨0, 0⟩ (syncId handle)).real = 0)
        given List.mem_cons_self still
      simp only [Function.update_idem] at entered
      exact entered
    · have given' : (proxy.withFence answer).giveUp (syncId handle) = proxy.withFence answer :=
        if_neg stale
      rw [given']
      exact held.enter nonnull (not_not.mp stale) given List.mem_cons_self live

theorem Traced.hGlDeleteSync (traced : Traced issued created 0 proxy) :
    Traced issued created 0 (proxy.hGlDeleteSync handle) := by
  rcases hGlDeleteSync_cases with ⟨-, same⟩ | ⟨found, dropped⟩
  · rw [same]
    exact traced
  · rw [dropped]
    exact traced.drop (lookupSync_real found).2.2.1

theorem Traced.hGlClientWaitSync (traced : Traced issued created 0 proxy)
    (succeeds : mode = .defer → proxy.lookupSync handle ≠ 0 →
      proxy.deferred (proxy.lookupSync handle) = false →
      proxy.gDef.length = maxDeferredSyncs → .waitFailed ∉ waits)
    (handled : proxy.hGlClientWaitSync handle mode waits = some (after, rest, result)) :
    Traced issued created 0 after := by
  rcases hGlClientWaitSync_cases handled with
    ⟨-, rfl, -⟩ | ⟨found, ⟨deferring, pushed⟩ | ⟨-, -, honest, rfl⟩⟩
  · exact traced
  · refine traced.deferPush found (fun unlisted => succeeds deferring found ?_) pushed
    rw [(lookupSync_real found).1]
    exact unlisted
  · exact traced.use found honest

theorem Traced.hGlWaitSync (traced : Traced issued created 0 proxy) :
    Traced issued created 0 (proxy.hGlWaitSync handle) := by
  refine traced.shrink traced.owned.hGlWaitSync (fun other done => ?_) (fun {sync fence} live => ?_)
    (fun _ _ => rfl) (fun entry mem => ⟨entry, mem, rfl, rfl⟩)
  · have signaled : (proxy.hGlWaitSync handle).gl.signaled = proxy.gl.signaled := by
      simp only [SyncProxy.hGlWaitSync, Syncs.glWaitSync]
      split <;> rfl
    rw [signaled]
    exact traced.cell other done
  · simp only [SyncProxy.hGlWaitSync, Syncs.glWaitSync] at live
    split at live <;> exact live

end

/-! ## Runs -/

/-- What is on its way comes from the latest call as well. -/
structure Sound (state : SyncSystem) : Prop where
  traced : Traced state.issued state.created 0 state.proxy
  sent : ∀ {call handle}, (call, .glFenceSync handle) ∈ state.queue →
    state.issued handle = some call
  unsent : ∀ {call handle}, (call, .send (.glFenceSync handle)) ∈ state.pending →
    state.issued handle = some call

section

variable {state next : SyncSystem} {input : SystemInput}

theorem Sound.zero : Sound SyncSystem.zero where
  traced :=
    { owned := Owned.zero
      cell := fun handle done => by
        obtain ⟨-, generation, cell⟩ := bridgeSyncDone_iff.mp done
        exact absurd cell.symm generation
      table := fun handle found => absurd rfl (lookupSync_real found).2.2.1
      list := fun _ mem => by cases mem }
  sent mem := by cases mem
  unsent mem := by cases mem

theorem Sound.signaled (sound : Sound state) {handle : UInt32} (done : state.done handle = true) :
    state.Signaled handle :=
  sound.traced.cell handle done

theorem Sound.begin (sound : Sound state) {pending : Pending}
    (other : ∀ handle, pending ≠ .send (.glFenceSync handle)) : Sound (state.begin pending) := by
  refine ⟨sound.traced, sound.sent, fun {call handle} mem => ?_⟩
  rcases List.mem_append.mp mem with before | new
  · exact sound.unsent before
  · obtain ⟨-, same⟩ := Prod.mk.inj (List.mem_singleton.mp new)
    exact absurd same.symm (other handle)

/-- A handle of which nothing is left may be given out again. -/
theorem Sound.glFenceSync (sound : Sound state)
    (forgotten : ∀ made ∈ state.stub.bridgeSyncAlloc, state.Forgotten made.2) :
    Sound state.glFenceSync := by
  unfold SyncSystem.glFenceSync
  cases given : state.stub.bridgeSyncAlloc with
  | none => exact sound
  | some made =>
      obtain ⟨stub, handle⟩ := made
      have gone := forgotten _ given
      have stays {other : UInt32} (apart : other ≠ handle) :
          (state.give stub handle).issued other = state.issued other :=
        Function.update_of_ne apart _ _
      refine ⟨⟨sound.traced.owned, fun other done => ?_, fun other found => ?_, fun entry mem => ?_⟩,
        fun {call other} mem => ?_, fun {call other} mem => ?_⟩
      · have apart : other ≠ handle := by
          intro same
          rw [same] at done
          exact Bool.false_ne_true (gone.marked.symm.trans done)
        simp only [stays apart]
        exact sound.traced.cell other done
      · have apart : other ≠ handle := fun same => found (same ▸ gone.table)
        simp only [stays apart]
        exact sound.traced.table other found
      · simp only [stays (gone.list entry mem)]
        exact sound.traced.list entry mem
      · have apart : other ≠ handle := fun same => gone.sent call (same ▸ mem)
        simp only [stays apart]
        exact sound.sent mem
      · rcases List.mem_append.mp mem with before | new
        · have apart : other ≠ handle := fun same => gone.unsent call (same ▸ before)
          simp only [stays apart]
          exact sound.unsent before
        · cases List.mem_singleton.mp new
          exact Function.update_self ..

theorem Sound.advance (sound : Sound state) {place : Nat}
    (stepped : state.advance place = some next) : Sound next := by
  obtain ⟨⟨call, pending⟩, found, rfl⟩ := Option.map_eq_some_iff.mp stepped
  have member := List.mem_of_getElem? found
  have left {item : Numbered Pending} (mem : item ∈ state.pending.eraseIdx place) :
      item ∈ state.pending := List.mem_of_mem_eraseIdx mem
  cases pending with
  | send command =>
      refine ⟨sound.traced, fun {number handle} mem => ?_, fun mem => sound.unsent (left mem)⟩
      rcases List.mem_append.mp mem with before | new
      · exact sound.sent before
      · cases List.mem_singleton.mp new
        exact sound.unsent member
  | delete handle =>
      refine ⟨sound.traced, fun {number other} mem => ?_, fun {number other} mem => ?_⟩
      · rcases List.mem_append.mp mem with before | new
        · exact sound.sent before
        · cases List.mem_singleton.mp new
      · rcases List.mem_append.mp mem with before | new
        · exact sound.unsent (left before)
        · cases List.mem_singleton.mp new
  | free handle => exact ⟨sound.traced, sound.sent, fun mem => sound.unsent (left mem)⟩

theorem Sound.serve (sound : Sound state) {answers : SyncAnswers}
    (succeeds : state.Resolves (.serve answers) → .waitFailed ∉ answers.waits)
    (stepped : state.serve answers = some next) : Sound next := by
  unfold SyncSystem.serve at stepped
  cases order : state.queue with
  | nil =>
      rw [order] at stepped
      cases stepped
  | cons head rest =>
      obtain ⟨call, command⟩ := head
      rw [order] at stepped
      obtain ⟨proxy, handled, rfl⟩ := Option.map_eq_some_iff.mp stepped
      have sent {number : Nat} {handle : UInt32} (mem : (number, .glFenceSync handle) ∈ rest) :
          state.issued handle = some number :=
        sound.sent (order ▸ List.mem_cons_of_mem _ mem)
      refine ⟨?_, sent, sound.unsent⟩
      cases command with
      | glFenceSync handle =>
          obtain ⟨-, handled⟩ := Option.ite_none_right_eq_some.mp handled
          exact sound.traced.hGlFenceSync (sound.sent (order ▸ List.mem_cons_self)) handled
      | glClientWaitSync handle mode =>
          obtain ⟨⟨ready, left, result⟩, handled, ended⟩ := Option.bind_eq_some_iff.mp handled
          obtain ⟨-, same⟩ := Option.ite_none_right_eq_some.mp ended
          cases same
          refine sound.traced.hGlClientWaitSync (fun deferring found unlisted full => succeeds ?_)
            handled
          simp only [SyncSystem.Resolves, order, deferring]
          exact ⟨found, unlisted, full⟩
      | glWaitSync handle =>
          obtain ⟨-, same⟩ := Option.ite_none_right_eq_some.mp handled
          cases same
          exact sound.traced.hGlWaitSync
      | glDeleteSync handle =>
          obtain ⟨-, same⟩ := Option.ite_none_right_eq_some.mp handled
          cases same
          exact sound.traced.hGlDeleteSync

theorem Sound.step (sound : Sound state) (keeps : KeepsFastPath state input)
    (stepped : syncSystem.step state input = some next) : Sound next := by
  cases input with
  | glFenceSync =>
      cases stepped
      exact sound.glFenceSync (keeps.1 rfl)
  | glClientWaitSync handle timeout fast =>
      cases stepped
      unfold SyncSystem.glClientWaitSync
      cases Stub.glClientWaitSync state.proxy.syncDoneGen handle timeout fast with
      | fast => exact sound
      | send mode => exact sound.begin fun _ same => by cases same
  | glWaitSync handle =>
      cases stepped
      exact sound.begin fun _ same => by cases same
  | glDeleteSync handle =>
      cases stepped
      unfold SyncSystem.glDeleteSync
      split
      · exact sound
      · have begun := sound.begin fun _ (same : Pending.delete handle = _) => by cases same
        exact ⟨begun.traced, begun.sent, begun.unsent⟩
  | advance place => exact sound.advance stepped
  | serve answers => exact sound.serve keeps.2 stepped
  | resolve waits =>
      obtain ⟨proxy, resolved, rfl⟩ := Option.map_eq_some_iff.mp stepped
      obtain ⟨⟨ready, rest⟩, each, ended⟩ := Option.bind_eq_some_iff.mp resolved
      obtain ⟨-, same⟩ := Option.ite_none_right_eq_some.mp ended
      cases same
      exact ⟨sound.traced.resolve (keeps.2 trivial) each, sound.sent, sound.unsent⟩
  | signal fence =>
      cases stepped
      refine ⟨sound.traced.shrink ?_ (fun handle done => ?_) (fun live => live) (fun _ _ => rfl)
        fun entry mem => ⟨entry, mem, rfl, rfl⟩, sound.sent, sound.unsent⟩
      · exact sound.traced.owned.wait (state.proxy.gl.signal fence) sound.traced.owned.kept rfl _
      · obtain ⟨call, number, given, made, signaled⟩ := sound.traced.cell handle done
        exact ⟨call, number, given, made, List.mem_cons_of_mem _ signaled⟩

theorem Sound.fastPath (sound : Sound state) : FastPathSound state input := by
  cases input with
  | glClientWaitSync handle timeout fast =>
      intro answered
      refine sound.signaled ?_
      unfold Stub.glClientWaitSync at answered
      by_cases done : bridgeSyncDone state.proxy.syncDoneGen handle = true
      · exact done
      · rw [if_neg done] at answered
        split_ifs at answered
  | _ => trivial

end

/-- In any interleaving, as long as the conditions of its steps are met. -/
theorem fast_path_sound {inputs : List SystemInput}
    (keeps : syncSystem.Along KeepsFastPath .zero inputs) :
    syncSystem.Along FastPathSound .zero inputs :=
  Machine.Along.of_invariant Sound.step (fun sound _ => sound.fastPath) .zero keeps

/-! ## Handles that are new -/

/-- Fewer than 2^24 - 1 handles have been given out where a fence is asked for, and
no deferred wait fails. -/
def FewHandles (state : SyncSystem) (input : SystemInput) : Prop :=
  (input = .glFenceSync → state.stub.gSyncGen.toNat < 2 ^ 24 - 1) ∧
    (state.Resolves input →
      match input with
      | .serve answers => .waitFailed ∉ answers.waits
      | .resolve waits => .waitFailed ∉ waits
      | _ => True)

section

variable {state next : SyncSystem} {input : SystemInput} {handle : UInt32}

/-- The generations of the handles that were given out. -/
def Rising (state : SyncSystem) : Prop :=
  ∀ handle call, state.issued handle = some call →
    (syncGen handle).toNat ≤ state.stub.gSyncGen.toNat

theorem Sound.forgotten (sound : Sound state) (unissued : state.issued handle = none) :
    state.Forgotten handle := by
  have never (call : Nat) : state.issued handle ≠ some call := by simp [unissued]
  constructor
  · refine Bool.eq_false_iff.mpr fun done => ?_
    obtain ⟨call, -, given, -⟩ := sound.signaled done
    exact never call given
  · by_contra found
    obtain ⟨call, -, given, -⟩ := sound.traced.table handle found
    exact never call given
  · intro entry mem same
    obtain ⟨call, -, given, -⟩ := sound.traced.list entry mem
    exact never call (same ▸ given)
  · exact fun call mem => never call (sound.sent mem)
  · exact fun call mem => never call (sound.unsent mem)

theorem Rising.unissued (rising : Rising state) (few : state.stub.gSyncGen.toNat < 2 ^ 24 - 1)
    {stub : SyncStub} (given : state.stub.bridgeSyncAlloc = some (stub, handle)) :
    state.issued handle = none := by
  have generation := (bridgeSyncAlloc_some given).2.1
  cases issued : state.issued handle with
  | none => rfl
  | some call =>
      have bound := rising handle call issued
      rw [generation, nextGen_of_few few] at bound
      omega

theorem bridgeSyncFree_gen {stub : SyncStub} : (stub.bridgeSyncFree handle).gSyncGen = stub.gSyncGen := by
  unfold SyncStub.bridgeSyncFree
  split <;> rfl

theorem Rising.glFenceSync (rising : Rising state)
    (few : state.stub.gSyncGen.toNat < 2 ^ 24 - 1) : Rising state.glFenceSync := by
  unfold SyncSystem.glFenceSync
  cases given : state.stub.bridgeSyncAlloc with
  | none => exact rising
  | some made =>
      obtain ⟨stub, handle⟩ := made
      obtain ⟨-, generation, -, -, after⟩ := bridgeSyncAlloc_some given
      intro other call issued
      change (syncGen other).toNat ≤ stub.gSyncGen.toNat
      rw [after, nextGen_of_few few]
      by_cases here : other = handle
      · exact Nat.le_of_eq (by rw [here, generation, nextGen_of_few few])
      · have before : state.issued other = some call :=
          (Function.update_of_ne here _ _).symm.trans issued
        exact Nat.le_succ_of_le (rising other call before)

theorem Rising.step (rising : Rising state) (few : FewHandles state input)
    (stepped : syncSystem.step state input = some next) : Rising next := by
  cases input with
  | glFenceSync =>
      cases stepped
      exact rising.glFenceSync (few.1 rfl)
  | glClientWaitSync handle timeout fast =>
      cases stepped
      unfold SyncSystem.glClientWaitSync
      split <;> exact rising
  | glWaitSync handle =>
      cases stepped
      exact rising
  | glDeleteSync handle =>
      cases stepped
      unfold SyncSystem.glDeleteSync
      split <;> exact rising
  | advance place =>
      obtain ⟨⟨call, pending⟩, found, rfl⟩ := Option.map_eq_some_iff.mp stepped
      cases pending with
      | send | delete => exact rising
      | free handle =>
          intro other number issued
          simp only [bridgeSyncFree_gen]
          exact rising other number issued
  | serve answers =>
      unfold syncSystem SyncSystem.step SyncSystem.serve at stepped
      cases order : state.queue with
      | nil =>
          simp only [order] at stepped
          cases stepped
      | cons head rest =>
          simp only [order] at stepped
          obtain ⟨proxy, -, rfl⟩ := Option.map_eq_some_iff.mp stepped
          exact rising
  | resolve waits =>
      obtain ⟨proxy, -, rfl⟩ := Option.map_eq_some_iff.mp stepped
      exact rising
  | signal fence =>
      cases stepped
      exact rising

end

/-- Only a generation that comes round can find something left of an earlier fence. -/
theorem keepsFastPath_of_few {inputs : List SystemInput}
    (few : syncSystem.Along FewHandles .zero inputs) :
    syncSystem.Along KeepsFastPath .zero inputs := by
  have meets {state : SyncSystem} {input : SystemInput} (known : Sound state ∧ Rising state)
      (few : FewHandles state input) : KeepsFastPath state input := by
    refine ⟨fun asked made given => ?_, few.2⟩
    exact known.1.forgotten (known.2.unissued (few.1 asked) given)
  have keeps {state next : SyncSystem} {input : SystemInput} (known : Sound state ∧ Rising state)
      (now : FewHandles state input) (stepped : syncSystem.step state input = some next) :
      Sound next ∧ Rising next :=
    ⟨known.1.step (meets known now) stepped, known.2.step now stepped⟩
  exact Machine.Along.of_invariant keeps meets ⟨.zero, fun _ _ none => by cases none⟩ few

/-! ## Runs on which the stub answers -/

/-- A deferred wait fails: the fence counts as done, though no GPU has passed it. -/
theorem failed_wait_answers_fast :
    ¬ syncSystem.Along FastPathSound .zero
      [.glFenceSync, .advance 0, .serve ⟨7, []⟩, .glClientWaitSync 0x101 glTimeoutIgnored true,
        .advance 0, .serve ⟨0, []⟩, .resolve [.waitFailed],
        .glClientWaitSync 0x101 glTimeoutIgnored true] := by
  rintro ⟨-, along⟩
  obtain ⟨-, along⟩ := along _ rfl
  obtain ⟨-, along⟩ := along _ rfl
  obtain ⟨-, along⟩ := along _ rfl
  obtain ⟨-, along⟩ := along _ rfl
  obtain ⟨-, along⟩ := along _ rfl
  obtain ⟨-, along⟩ := along _ rfl
  obtain ⟨call, fence, -, -, signaled⟩ := (along _ rfl).1 (by decide)
  cases signaled

/-- A poll that finds the fence signaled. -/
theorem fast_path_sound_polled :
    syncSystem.Along FastPathSound .zero
      [.glFenceSync, .advance 0, .serve ⟨7, []⟩, .signal 0, .glClientWaitSync 0x101 0 true,
        .advance 0, .serve ⟨0, [.alreadySignaled]⟩, .glClientWaitSync 0x101 0 true] := by
  refine fast_path_sound ⟨⟨fun _ made given => ?_, fun none => none.elim⟩, fun _ taken => ?_⟩
  · cases given
    exact ⟨rfl, rfl, fun _ mem => (by cases mem), fun _ mem => (by cases mem), fun _ mem => by cases mem⟩
  cases taken
  refine ⟨⟨fun none => (by cases none), fun none => none.elim⟩, fun _ taken => ?_⟩
  cases taken
  refine ⟨⟨fun none => (by cases none), fun none => none.elim⟩, fun _ taken => ?_⟩
  cases taken
  refine ⟨⟨fun none => (by cases none), fun none => none.elim⟩, fun _ taken => ?_⟩
  cases taken
  refine ⟨⟨fun none => (by cases none), fun none => none.elim⟩, fun _ taken => ?_⟩
  cases taken
  refine ⟨⟨fun none => (by cases none), fun none => none.elim⟩, fun _ taken => ?_⟩
  cases taken
  refine ⟨⟨fun none => (by cases none), fun none => none.elim⟩, fun _ taken => ?_⟩
  cases taken
  exact ⟨⟨fun none => (by cases none), fun none => none.elim⟩, fun _ _ => trivial⟩

end GlesBridge.Sync
