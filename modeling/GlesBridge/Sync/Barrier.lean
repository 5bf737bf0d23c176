import GlesBridge.Proxy.Copies
import GlesBridge.Sync.FastPath

namespace GlesBridge.Sync

open GlesBridge.Gl GlesBridge.Proxy GlesBridge.Proxy.SyncProxy GlesBridge.Stub GlesBridge.Systems

/-! Deferred waits are over before anything is copied into a real mapping or out of it. -/

/-- A command with what the driver answers to its waits, or the GPU passes a fence. -/
inductive CopyInput where
  | command (command : CopyCommand) (waits : List WaitResult)
  | signal (fence : Nat)

def copyMachine : Machine CopyProxy CopyInput where
  step proxy input :=
    match input with
    | .command command waits =>
        (proxy.handleCopy command waits).bind fun (proxy, waits) =>
          if waits = [] then some proxy else none
    | .signal fence =>
        some { proxy with sync := { proxy.sync with gl := proxy.sync.gl.signal fence } }

/-- Nothing was deferred, and every fence that the client was told of had passed. -/
def Waited (copy : Copy) : Prop :=
  copy.deferred = [] ∧ ∀ fence ∈ copy.told, fence ∈ copy.signaled

/-- Nothing that has been copied after the step was copied too early. -/
def CopiesWaited (proxy : CopyProxy) (input : CopyInput) : Prop :=
  ∀ after, copyMachine.step proxy input = some after → ∀ copy ∈ after.copies, Waited copy

/-- No deferred wait fails, and none is put off for a handle that the table has
lost though it names a fence. -/
def KeepsWaiting (proxy : CopyProxy) : CopyInput → Prop
  | .command (.sync (.glClientWaitSync handle .defer) _) waits =>
      .waitFailed ∉ waits ∧ (proxy.sync.lookupSync handle = 0 → proxy.fenceOf handle = none)
  | .command (.sync _ _) _ => True
  | .command _ waits => .waitFailed ∉ waits
  | .signal _ => True

/-! ## What the handlers that copy do -/

/-- Copies, all of this moment, and changes of the table. -/
structure Copied (proxy after : CopyProxy) : Prop where
  sync : after.sync = proxy.sync
  fenceOf : after.fenceOf = proxy.fenceOf
  told : after.told = proxy.told
  copies : ∀ copy ∈ after.copies, copy ∈ proxy.copies ∨ copy.deferred = proxy.sync.gDef ∧
    copy.told = proxy.told ∧ copy.signaled = proxy.sync.gl.signaled

/-- Either the handler copies nothing, or it resolves before it copies. -/
def Careful (proxy : CopyProxy) (waits : List WaitResult) (after : CopyProxy)
    (rest : List WaitResult) : Prop :=
  (rest = waits ∧ Copied proxy after ∧ after.copies = proxy.copies) ∨
    ∃ ready, proxy.proxyResolveDeferredWaits waits = some (ready, rest) ∧ Copied ready after

section

variable {proxy after middle ready : CopyProxy} {waits rest : List WaitResult} {buffer : UInt32}
  {start stop : Int32} {size : Nat}

theorem Copied.refl : Copied proxy proxy := ⟨rfl, rfl, rfl, fun _ mem => .inl mem⟩

theorem Copied.tables (tables : MapProxy) : Copied proxy { proxy with tables } :=
  ⟨rfl, rfl, rfl, fun _ mem => .inl mem⟩

theorem Copied.trans (first : Copied proxy middle) (second : Copied middle after) :
    Copied proxy after := by
  refine ⟨second.sync.trans first.sync, second.fenceOf.trans first.fenceOf,
    second.told.trans first.told, fun copy mem => ?_⟩
  rcases second.copies copy mem with before | now
  · exact first.copies copy before
  · rw [first.sync, first.told] at now
    exact .inr now

theorem Copied.memcpy (pointer : UInt32) (size : Nat) : Copied proxy (proxy.memcpy pointer size) := by
  refine ⟨rfl, rfl, rfl, fun copy mem => ?_⟩
  rcases List.mem_cons.mp mem with rfl | before
  · exact .inr ⟨rfl, rfl, rfl⟩
  · exact .inl before

theorem Copied.copyRange : Copied proxy (proxy.copyRange buffer start stop size) := by
  unfold CopyProxy.copyRange
  cases mapIds.find? _ with
  | none => exact .refl
  | some id =>
      simp only
      split
      · exact .refl
      · exact .memcpy _ _

theorem Careful.idle : Careful proxy waits proxy waits := .inl ⟨rfl, .refl, rfl⟩

theorem Careful.of_resolve {finish : CopyProxy × List WaitResult → CopyProxy × List WaitResult}
    (copies : ∀ ready left, Copied ready (finish (ready, left)).1 ∧ (finish (ready, left)).2 = left)
    (handled : (proxy.proxyResolveDeferredWaits waits).map finish = some (after, rest)) :
    Careful proxy waits after rest := by
  obtain ⟨⟨ready, left⟩, resolved, shape⟩ := Option.map_eq_some_iff.mp handled
  obtain ⟨copied, same⟩ := copies ready left
  rw [shape] at copied same
  cases same
  exact .inr ⟨ready, resolved, copied⟩

/-- A handler that goes on with the table. -/
theorem Careful.then_copied (careful : Careful proxy waits middle rest) (more : Copied middle after)
    (copies : after.copies = middle.copies) : Careful proxy waits after rest := by
  rcases careful with ⟨same, idle, none⟩ | ⟨ready, resolved, copied⟩
  · exact .inl ⟨same, idle.trans more, copies.trans none⟩
  · exact .inr ⟨ready, resolved, copied.trans more⟩

/-- The table does not matter for what is deferred. -/
theorem Careful.of_tables (tables : MapProxy)
    (careful : Careful { proxy with tables } waits after rest) : Careful proxy waits after rest := by
  rcases careful with ⟨same, idle, none⟩ | ⟨ready, resolved, copied⟩
  · exact .inl ⟨same, (Copied.tables tables).trans idle, none⟩
  · obtain ⟨⟨sync, left⟩, each, shape⟩ := Option.map_eq_some_iff.mp resolved
    cases shape
    refine .inr ⟨{ proxy with sync }, ?_, (Copied.tables tables).trans copied⟩
    exact congrArg (Option.map _) each

theorem Careful.drawElements {ebo vbo : Piggyback} {dataSize data2Size : UInt32}
    (handled : proxy.drawElements ebo dataSize vbo data2Size waits = some (after, rest)) :
    Careful proxy waits after rest := by
  simp only [CopyProxy.drawElements] at handled
  by_cases sends : (ebo.buffer ≠ 0 ∧ dataSize ≠ 0) ∨ (vbo.buffer ≠ 0 ∧ data2Size ≠ 0)
  · rw [if_pos sends] at handled
    refine Careful.of_resolve (fun ready left => ⟨?_, rfl⟩) handled
    have first : Copied ready (if ebo.buffer ≠ 0 ∧ dataSize ≠ 0 then
        ready.copyPiggyback ebo dataSize else ready) := by
      split
      · exact .copyRange
      · exact .refl
    simp only
    split
    · exact first.trans .copyRange
    · exact first
  · rw [if_neg sends] at handled
    rw [not_or] at sends
    simp only [if_neg sends.1, if_neg sends.2] at handled
    cases handled
    exact .idle

theorem Careful.applyUnpackPiggyback {offset data2Size pbo : UInt32}
    (handled : proxy.applyUnpackPiggyback offset data2Size pbo waits = some (after, rest)) :
    Careful proxy waits after rest := by
  unfold CopyProxy.applyUnpackPiggyback at handled
  split at handled
  · cases handled
    exact .idle
  · exact Careful.of_resolve (fun _ _ => ⟨.copyRange, rfl⟩) handled

theorem Careful.hGlMapBufferRange {target access real : UInt32} {offset length : Int64}
    (handled : proxy.hGlMapBufferRange target offset length access buffer real waits =
      some (after, rest)) : Careful proxy waits after rest := by
  simp only [CopyProxy.hGlMapBufferRange] at handled
  refine Careful.of_tables (proxy.untracked buffer target) ?_
  split at handled
  · cases handled
    exact .idle
  · obtain ⟨⟨middle, left⟩, copied, shape⟩ := Option.map_eq_some_iff.mp handled
    cases shape
    refine Careful.then_copied ?_ (.tables _) rfl
    split at copied
    · exact Careful.of_resolve (fun _ _ => ⟨.memcpy _ _, rfl⟩) copied
    · cases copied
      exact .idle

theorem Careful.hGlUnmapBuffer {id : MapId} {size : UInt32}
    (handled : proxy.hGlUnmapBuffer id size waits = some (after, rest)) :
    Careful proxy waits after rest := by
  obtain ⟨⟨middle, left⟩, copied, shape⟩ := Option.map_eq_some_iff.mp handled
  cases shape
  have careful : Careful proxy waits middle rest := by
    split at copied
    · refine Careful.of_resolve (fun ready left => ⟨?_, rfl⟩) copied
      simp only
      split
      · exact .memcpy _ _
      · exact .refl
    · cases copied
      exact .idle
  split
  · exact careful.then_copied (.tables _) rfl
  · exact careful

theorem Careful.hGlFlushMappedBufferRange {target : UInt32} {offset length : Int32} {id : MapId}
    (handled : proxy.hGlFlushMappedBufferRange target offset length id waits = some (after, rest)) :
    Careful proxy waits after rest := by
  unfold CopyProxy.hGlFlushMappedBufferRange at handled
  simp only at handled
  split at handled
  · cases handled
    exact .idle
  · split at handled
    · cases handled
      exact .idle
    · split at handled
      · cases handled
        exact .idle
      · exact Careful.of_resolve (fun _ _ => ⟨.memcpy _ _, rfl⟩) handled

theorem Careful.hGlBindBufferRange {offset : Int64} {dataSize : UInt32}
    (handled : proxy.hGlBindBufferRange buffer offset dataSize waits = some (after, rest)) :
    Careful proxy waits after rest := by
  unfold CopyProxy.hGlBindBufferRange at handled
  split at handled
  · exact Careful.of_resolve (fun _ _ => ⟨.copyRange, rfl⟩) handled
  · cases handled
    exact .idle

theorem Careful.hGlDrawArrays {vbo : Piggyback} {data2Size : UInt32}
    (handled : proxy.hGlDrawArrays vbo data2Size waits = some (after, rest)) :
    Careful proxy waits after rest := by
  unfold CopyProxy.hGlDrawArrays at handled
  split at handled
  · exact Careful.of_resolve (fun _ _ => ⟨.copyRange, rfl⟩) handled
  · cases handled
    exact .idle

/-- A handler of a command that is not about fences. -/
theorem careful {command : CopyCommand} (other : ∀ fence pointer, command ≠ .sync fence pointer)
    (handled : proxy.handleCopy command waits = some (after, rest)) :
    Careful proxy waits after rest := by
  cases command with
  | sync fence pointer => exact absurd rfl (other fence pointer)
  | glMapBufferRange target offset length access buffer real =>
      exact Careful.hGlMapBufferRange handled
  | glUnmapBuffer target id size =>
      obtain ⟨id, -, handled⟩ := Option.bind_eq_some_iff.mp handled
      exact Careful.hGlUnmapBuffer handled
  | glFlushMappedBufferRange target offset length id =>
      cases known : CopyProxy.mapIdOf id with
      | none =>
          simp only [CopyProxy.handleCopy, known] at handled
          cases handled
          exact .idle
      | some id =>
          simp only [CopyProxy.handleCopy, known] at handled
          exact Careful.hGlFlushMappedBufferRange handled
  | glDeleteBuffers buffers =>
      cases handled
      exact .inl ⟨rfl, .tables _, rfl⟩
  | glBindBufferRange => exact Careful.hGlBindBufferRange handled
  | glDrawArrays => exact Careful.hGlDrawArrays handled
  | glDrawElements => exact Careful.drawElements handled
  | glDrawElementsBaseVertex => exact Careful.drawElements handled
  | glTexSubImage2D pixelMode dataOffset data2Size pbo =>
      have handled :
          proxy.hGlTexSubImage2D pixelMode dataOffset data2Size pbo waits = some (after, rest) :=
        handled
      unfold CopyProxy.hGlTexSubImage2D at handled
      split at handled
      · exact Careful.applyUnpackPiggyback handled
      · cases handled
        exact .idle
  | glTexSubImage3D dataSize dataOffset data2Size pbo =>
      have handled :
          proxy.hGlTexSubImage3D dataSize dataOffset data2Size pbo waits = some (after, rest) :=
        handled
      unfold CopyProxy.hGlTexSubImage3D at handled
      split at handled
      · exact Careful.applyUnpackPiggyback handled
      · cases handled
        exact .idle
  | glReadPixels => exact .inr ⟨after, handled, .refl⟩

end

/-! ## The barrier -/

section

variable {proxy after ready : CopyProxy} {waits rest : List WaitResult} {handle pointer : UInt32}

theorem resolve_some (resolved : proxy.proxyResolveDeferredWaits waits = some (ready, rest)) :
    ∃ sync, proxy.sync.proxyResolveDeferredWaits waits = some (sync, rest) ∧ sync.gDef = [] ∧
      ready = { proxy with sync } := by
  obtain ⟨⟨sync, left⟩, each, shape⟩ := Option.map_eq_some_iff.mp resolved
  cases shape
  obtain ⟨⟨last, left⟩, -, shape⟩ := Option.map_eq_some_iff.mp each
  cases shape
  exact ⟨_, each, rfl, rfl⟩

theorem copyMachine_command {command : CopyCommand}
    (stepped : copyMachine.step proxy (.command command waits) = some after) :
    proxy.handleCopy command waits = some (after, []) := by
  obtain ⟨⟨ready, rest⟩, handled, ended⟩ := Option.bind_eq_some_iff.mp stepped
  obtain ⟨none, same⟩ := Option.ite_none_right_eq_some.mp ended
  cases none
  cases same
  exact handled

theorem handleSync_some {command : SyncCommand}
    (handled : proxy.handleCopy (.sync command pointer) waits = some (after, rest)) :
    ∃ sync, proxy.sync.handleSync command ⟨pointer, waits⟩ = some sync ∧
      after = { proxy.noteSync command pointer with sync } := by
  obtain ⟨last, fenced, shape⟩ := Option.map_eq_some_iff.mp handled
  obtain ⟨same, -⟩ := Prod.mk.inj shape
  obtain ⟨sync, served, made⟩ := Option.map_eq_some_iff.mp fenced
  exact ⟨sync, served, (made.trans same).symm⟩

theorem noteSync_copies {command : SyncCommand} :
    (proxy.noteSync command pointer).copies = proxy.copies := by
  unfold CopyProxy.noteSync
  split
  · split <;> rfl
  · rfl
  · rfl
  · rfl

/-- A step adds copies of a moment at which nothing is deferred. -/
theorem barrier_step {input : CopyInput} (before : ∀ copy ∈ proxy.copies, copy.deferred = [])
    (stepped : copyMachine.step proxy input = some after) :
    ∀ copy ∈ after.copies, copy.deferred = [] := by
  cases input with
  | signal fence =>
      cases stepped
      exact before
  | command command waits =>
      have handled := copyMachine_command stepped
      by_cases about : ∃ fence pointer, command = .sync fence pointer
      · obtain ⟨fence, pointer, rfl⟩ := about
        obtain ⟨sync, -, rfl⟩ := handleSync_some handled
        rw [noteSync_copies]
        exact before
      · have other : ∀ fence pointer, command ≠ .sync fence pointer := fun fence pointer same =>
          about ⟨fence, pointer, same⟩
        rcases careful other handled with ⟨-, -, same⟩ | ⟨ready, resolved, copied⟩
        · rw [same]
          exact before
        · obtain ⟨sync, -, empty, rfl⟩ := resolve_some resolved
          intro copy mem
          rcases copied.copies copy mem with earlier | ⟨now, -⟩
          · exact before copy earlier
          · rw [now]
            exact empty

end

/-- Whatever the commands are and whatever the driver answers, nothing is deferred
when something is copied. -/
theorem copies_after_resolve {inputs : List CopyInput} {after : CopyProxy}
    (runs : copyMachine.run .zero inputs = some after) :
    ∀ copy ∈ after.copies, copy.deferred = [] :=
  Machine.run_invariant barrier_step (fun _ mem => by cases mem) runs

/-! ## What the client was told -/

/-- A fence that the client was told of has passed, or its wait is on the list. -/
def ToldOf (sync : SyncProxy) (told : List Nat) : Prop :=
  ∀ fence ∈ told, fence ∈ sync.gl.signaled ∨
    ∃ entry ∈ sync.gDef, sync.gl.fences.object entry.s = some fence

/-- A handle in the table names the fence there. -/
def Named (sync : SyncProxy) (fenceOf : UInt32 → Option Nat) : Prop :=
  ∀ handle, sync.lookupSync handle ≠ 0 →
    sync.gl.fences.object (sync.lookupSync handle) = fenceOf handle

structure Waiting (proxy : CopyProxy) : Prop where
  owned : Owned 0 proxy.sync
  named : Named proxy.sync proxy.fenceOf
  told : ToldOf proxy.sync proxy.told
  copies : ∀ copy ∈ proxy.copies, Waited copy

theorem Waiting.zero : Waiting CopyProxy.zero where
  owned := .zero
  named _ found := absurd (by simp [CopyProxy.zero, SyncProxy.zero, lookupSync]) found
  told _ mem := by cases mem
  copies _ mem := by cases mem

section

variable {proxy after : CopyProxy} {sync ready : SyncProxy} {waits rest : List WaitResult}
  {handle pointer : UInt32} {fenceOf : UInt32 → Option Nat} {told : List Nat}

/-- The table is no larger, and its fences are the same ones. -/
theorem Named.shrink (named : Named sync fenceOf) (owned : Owned 0 ready)
    (table : ∀ handle, ready.lookupSync handle ≠ 0 →
      ready.lookupSync handle = sync.lookupSync handle)
    (object : ∀ {name fence}, ready.gl.fences.object name = some fence →
      sync.gl.fences.object name = some fence) : Named ready fenceOf := by
  intro handle found
  have same := table handle found
  obtain ⟨real, -, mapped, -⟩ := lookupSync_real found
  obtain ⟨fence, live⟩ := Option.isSome_iff_exists.mp (owned.table _ mapped)
  rw [← real] at live
  have before := named handle (same ▸ found)
  rw [live, ← before, ← same]
  exact (object live).symm

theorem Waiting.resolve (owned : Owned 0 sync) (named : Named sync fenceOf)
    (toldOf : ToldOf sync told) (succeeds : .waitFailed ∉ waits)
    (resolved : sync.proxyResolveDeferredWaits waits = some (ready, rest)) :
    Owned 0 ready ∧ Named ready fenceOf ∧ ready.gDef = [] ∧
      ∀ fence ∈ told, fence ∈ ready.gl.signaled := by
  obtain ⟨later, empty, syncs⟩ := owned.resolve resolved
  obtain ⟨⟨last, left⟩, each, shape⟩ := Option.map_eq_some_iff.mp resolved
  cases shape
  have parts := resolveEach_resolved each
  have signaled := resolveEach_signaled each succeeds owned.apart
    fun entry mem => owned.kept.nonnull (owned.pending entry mem)
  refine ⟨later, named.shrink later (fun handle _ => lookupSync_congr syncs handle)
    (fun {name fence} live => ?_), rfl, fun fence mem => ?_⟩
  · have nonnull := later.kept.nonnull (by rw [live]; rfl)
    have live' : spare sync.gDef sync.gl.fences.object name = some fence := parts.object ▸ live
    exact ((spare_eq_some nonnull).mp live').1
  · rw [parts.signaled]
    rcases toldOf fence mem with passed | ⟨entry, listed, live⟩
    · exact passed
    · exact signaled entry listed fence live

/-- An entry of the list whose fence is in the table. -/
theorem ToldOf.listed (toldOf : ToldOf sync told)
    (entry : ∃ entry ∈ sync.gDef, entry.s = sync.lookupSync handle)
    (named : Named sync fenceOf) (found : sync.lookupSync handle ≠ 0) :
    ToldOf sync ((fenceOf handle).toList ++ told) := by
  intro fence mem
  rcases List.mem_append.mp mem with new | before
  · obtain ⟨entry, listed, same⟩ := entry
    refine .inr ⟨entry, listed, ?_⟩
    rw [same, named handle found]
    exact Option.mem_toList.mp new
  · exact toldOf fence before

theorem Waiting.deferred (owned : Owned 0 sync) (named : Named sync fenceOf)
    (toldOf : ToldOf sync told) (succeeds : .waitFailed ∉ waits)
    (found : sync.lookupSync handle ≠ 0)
    (pushed : sync.deferPush (sync.syncs (syncId handle)).real handle waits = some (ready, rest)) :
    Named ready fenceOf ∧ ToldOf ready ((fenceOf handle).toList ++ told) := by
  have real := (lookupSync_real found).1
  have push {middle : SyncProxy} (named : Named middle fenceOf) (toldOf : ToldOf middle told)
      (same : middle.syncs = sync.syncs) :
      Named { middle with
          gDef := middle.gDef ++ [⟨(sync.syncs (syncId handle)).real, handle, false⟩] } fenceOf ∧
        ToldOf { middle with
          gDef := middle.gDef ++ [⟨(sync.syncs (syncId handle)).real, handle, false⟩] }
          ((fenceOf handle).toList ++ told) := by
    have lookup := lookupSync_congr same handle
    refine ⟨named, ToldOf.listed (fun fence mem => ?_) ⟨_, List.mem_append_right _
      List.mem_cons_self, ?_⟩ named (by rw [← lookup] at found; exact found)⟩
    · rcases toldOf fence mem with passed | ⟨entry, listed, live⟩
      · exact .inl passed
      · exact .inr ⟨entry, List.mem_append_left _ listed, live⟩
    · rw [← real]
      exact lookup.symm
  rcases deferPush_cases pushed with ⟨listed, rfl, -⟩ | ⟨-, middle, resolved, rfl⟩
  · rw [deferred_iff, ← real] at listed
    obtain ⟨entry, mem, same⟩ := List.mem_map.mp listed
    exact ⟨named, toldOf.listed ⟨entry, mem, same⟩ named found⟩
  · split at resolved
    · obtain ⟨-, later, -, passed⟩ := Waiting.resolve owned named toldOf succeeds resolved
      exact push later (fun fence mem => .inl (passed fence mem)) (owned.resolve resolved).2.2
    · cases resolved
      exact push named toldOf rfl

theorem adoptOrDelete_map {name : UInt32} :
    (sync.adoptOrDelete name).gDef.map DeferredSync.s = sync.gDef.map DeferredSync.s := by
  unfold adoptOrDelete
  split
  · exact adopt_map name sync.gDef
  · rfl

/-- The list has the same fences, apart from one that was made meanwhile. -/
theorem ToldOf.shrink (toldOf : ToldOf sync told) (owned : Owned 0 ready)
    (list : ready.gDef.map DeferredSync.s = sync.gDef.map DeferredSync.s)
    (signaled : ready.gl.signaled = sync.gl.signaled)
    (object : ∀ {name fence}, ready.gl.fences.object name = some fence →
      sync.gl.fences.object name = some fence ∨ sync.gl.fences.object name = none) :
    ToldOf ready told := by
  intro fence mem
  rw [signaled]
  refine (toldOf fence mem).imp_right fun ⟨entry, listed, live⟩ => ?_
  have member : entry.s ∈ ready.gDef.map DeferredSync.s := by
    rw [list]
    exact List.mem_map_of_mem listed
  obtain ⟨other, listed', same⟩ := List.mem_map.mp member
  obtain ⟨number, still⟩ := Option.isSome_iff_exists.mp (owned.pending other listed')
  refine ⟨other, listed', ?_⟩
  rw [still]
  rw [same] at still
  rcases object still with before | none
  · rw [← live, before]
  · rw [live] at none
    cases none

theorem Waiting.hGlFenceSync (owned : Owned 0 sync) (named : Named sync fenceOf)
    (toldOf : ToldOf sync told) (handled : sync.hGlFenceSync handle pointer = some ready) :
    Named ready (if syncId handle = 0 ∨ pointer = 0 then fenceOf
        else Function.update fenceOf handle (some sync.gl.fences.made)) ∧ ToldOf ready told := by
  have later := owned.hGlFenceSync handled
  rcases hGlFenceSync_cases handled with
    ⟨null, rfl⟩ | ⟨nonnull, fresh, ⟨noId, rfl⟩ | ⟨index, rfl⟩⟩
  · rw [if_pos (.inr null)]
    exact ⟨named, toldOf⟩
  · rw [if_pos (.inl noId)]
    have object {name : UInt32} {fence : Nat}
        (live : ((sync.withFence pointer).gl.glDeleteSync pointer).fences.object name = some fence) :
        sync.gl.fences.object name = some fence := by
      rw [Syncs.glDeleteSync, if_neg nonnull] at live
      by_cases here : name = pointer
      · simp [here, Store.release] at live
      · simpa [Store.release, withFence, Store.make, here] using live
    have signaled : ((sync.withFence pointer).gl.glDeleteSync pointer).signaled = sync.gl.signaled := by
      rw [Syncs.glDeleteSync, if_neg nonnull]
      rfl
    exact ⟨named.shrink later (fun _ _ => rfl) object,
      toldOf.shrink later rfl signaled fun live => .inl (object live)⟩
  · rw [if_neg (not_or.mpr ⟨index, nonnull⟩)]
    have given : (sync.withFence pointer).giveUp (syncId handle) = sync.withFence pointer ∨
        (sync.withFence pointer).giveUp (syncId handle) =
          (sync.withFence pointer).adoptOrDelete (sync.syncs (syncId handle)).real := by
      unfold giveUp
      split
      · exact .inr rfl
      · exact .inl rfl
    have made {name : UInt32} {fence : Nat}
        (live : (sync.withFence pointer).gl.fences.object name = some fence) :
        name = pointer ∧ fence = sync.gl.fences.made ∨ sync.gl.fences.object name = some fence := by
      by_cases here : name = pointer
      · simp [withFence, Store.make, here] at live
        exact .inl ⟨here, live.symm⟩
      · exact .inr (by simpa [withFence, Store.make, here] using live)
    have object {name : UInt32} {fence : Nat}
        (live : ((sync.withFence pointer).giveUp (syncId handle)).gl.fences.object name = some fence) :
        name = pointer ∧ fence = sync.gl.fences.made ∨ sync.gl.fences.object name = some fence := by
      rcases given with same | same
      · rw [same] at live
        exact made live
      · rw [same] at live
        exact made (adoptOrDelete_object live)
    have list : ((sync.withFence pointer).giveUp (syncId handle)).gDef.map DeferredSync.s =
        sync.gDef.map DeferredSync.s := by
      rcases given with same | same
      · rw [same]
        rfl
      · rw [same]
        exact adoptOrDelete_map
    have signaled : ((sync.withFence pointer).giveUp (syncId handle)).gl.signaled =
        sync.gl.signaled := by
      rcases given with same | same
      · rw [same]
        rfl
      · rw [same]
        exact adoptOrDelete_signaled
    refine ⟨fun other found => ?_, toldOf.shrink later list signaled fun live => ?_⟩
    · obtain ⟨real, -, mapped, gen⟩ := lookupSync_real found
      obtain ⟨fence, live⟩ := Option.isSome_iff_exists.mp (later.table _ mapped)
      rw [← real] at live
      rw [live]
      by_cases here : syncId other = syncId handle
      · simp only [here, Function.update_self] at gen real
        rw [handle_ext here gen.symm, Function.update_self]
        rw [real] at live
        rcases object live with ⟨-, same⟩ | before
        · rw [same]
        · rw [fresh] at before
          cases before
      · have apart : other ≠ handle := fun same => here (congrArg syncId same)
        rw [Function.update_of_ne apart]
        have same : sync.lookupSync other = SyncProxy.lookupSync
            { (sync.withFence pointer).giveUp (syncId handle) with
              syncs := Function.update sync.syncs (syncId handle) ⟨pointer, syncGen handle⟩ }
            other := by
          simp only [lookupSync, Function.update_of_ne here]
        rw [← same] at found live
        have before := named other found
        rcases object live with ⟨new, -⟩ | old
        · obtain ⟨real, -, mapped, -⟩ := lookupSync_real found
          have known := owned.table _ mapped
          rw [← real, new, fresh] at known
          cases known
        · rw [← old, before]
    · rcases object live with ⟨same, -⟩ | before
      · exact .inr (same ▸ fresh)
      · exact .inl before

theorem Waiting.hGlDeleteSync (handle : UInt32) (owned : Owned 0 sync) (named : Named sync fenceOf)
    (toldOf : ToldOf sync told) :
    Named (sync.hGlDeleteSync handle) (Function.update fenceOf handle none) ∧
      ToldOf (sync.hGlDeleteSync handle) told := by
  have later : Owned 0 (sync.hGlDeleteSync handle) := owned.hGlDeleteSync
  have elsewhere {other : UInt32} (gone : (sync.hGlDeleteSync handle).lookupSync handle = 0)
      (found : (sync.hGlDeleteSync handle).lookupSync other ≠ 0) : other ≠ handle := fun same =>
    found (same ▸ gone)
  rcases hGlDeleteSync_cases with ⟨unknown, same⟩ | ⟨found, dropped⟩
  · rw [same] at later elsewhere ⊢
    refine ⟨fun other found => ?_, toldOf⟩
    rw [Function.update_of_ne (elsewhere unknown found)]
    exact named other found
  · rw [dropped] at later elsewhere ⊢
    have gone : SyncProxy.lookupSync { sync.adoptOrDelete (sync.syncs (syncId handle)).real with
        syncs := Function.update sync.syncs (syncId handle) ⟨0, 0⟩ } handle = 0 := by
      simp [lookupSync]
    have shrunk := named.shrink later (fun other found => lookupSync_cleared rfl found)
      fun live => adoptOrDelete_object live
    refine ⟨fun other found => ?_, toldOf.shrink later adoptOrDelete_map adoptOrDelete_signaled
      fun live => .inl (adoptOrDelete_object live)⟩
    rw [Function.update_of_ne (elsewhere gone found)]
    exact shrunk other found

/-- The handlers of the other commands leave the table, the list and the fences alone. -/
theorem Waiting.used (waiting : Waiting proxy) (owned : Owned 0 ready)
    (syncs : ready.syncs = proxy.sync.syncs)
    (object : ready.gl.fences.object = proxy.sync.gl.fences.object)
    (signaled : ∀ fence ∈ proxy.sync.gl.signaled, fence ∈ ready.gl.signaled)
    (list : ready.gDef = proxy.sync.gDef) : Waiting { proxy with sync := ready } where
  owned := owned
  named handle found := by
    rw [lookupSync_congr syncs] at found ⊢
    rw [object]
    exact waiting.named handle found
  told fence mem := by
    rw [object, list]
    exact (waiting.told fence mem).imp_left (signaled fence)
  copies := waiting.copies

theorem Waiting.signal (waiting : Waiting proxy) (fence : Nat) :
    Waiting { proxy with sync := { proxy.sync with gl := proxy.sync.gl.signal fence } } :=
  waiting.used (waiting.owned.wait (proxy.sync.gl.signal fence) waiting.owned.kept rfl _) rfl rfl
    (fun _ => List.mem_cons_of_mem _) rfl

theorem Waiting.fences (waiting : Waiting proxy) {command : SyncCommand}
    (keeps : KeepsWaiting proxy (.command (.sync command pointer) waits))
    (handled : proxy.sync.handleSync command ⟨pointer, waits⟩ = some sync) :
    Waiting { proxy.noteSync command pointer with sync } := by
  cases command with
  | glFenceSync handle =>
      obtain ⟨-, handled⟩ := Option.ite_none_right_eq_some.mp handled
      obtain ⟨named, told⟩ := Waiting.hGlFenceSync waiting.owned waiting.named waiting.told handled
      have owned := waiting.owned.hGlFenceSync handled
      simp only [CopyProxy.noteSync]
      split
      · rename_i none
        rw [if_pos none] at named
        exact ⟨owned, named, told, waiting.copies⟩
      · rename_i some
        rw [if_neg some] at named
        exact ⟨owned, named, told, waiting.copies⟩
  | glClientWaitSync handle mode =>
      obtain ⟨⟨ready, rest, result⟩, waited, ended⟩ := Option.bind_eq_some_iff.mp handled
      obtain ⟨-, same⟩ := Option.ite_none_right_eq_some.mp ended
      cases same
      have owned := waiting.owned.hGlClientWaitSync waited
      rcases hGlClientWaitSync_cases waited with
        ⟨unknown, rfl, -⟩ | ⟨found, ⟨rfl, pushed⟩ | ⟨asking, -, -, rfl⟩⟩
      · cases mode with
        | defer =>
            have none := keeps.2 unknown
            simp only [CopyProxy.noteSync, none, Option.toList_none, List.nil_append]
            exact waiting
        | block | poll => exact waiting
      · obtain ⟨named, told⟩ := Waiting.deferred waiting.owned waiting.named waiting.told keeps.1
          found pushed
        exact ⟨owned, named, told, waiting.copies⟩
      · have used := waiting.used owned rfl rfl (fun _ mem => mem) rfl
        cases mode with
        | defer => exact absurd rfl asking
        | block | poll => exact used
  | glWaitSync handle =>
      obtain ⟨-, same⟩ := Option.ite_none_right_eq_some.mp handled
      cases same
      refine waiting.used waiting.owned.hGlWaitSync rfl ?_ (fun fence mem => ?_) rfl
      · unfold SyncProxy.hGlWaitSync Syncs.glWaitSync
        split <;> rfl
      · unfold SyncProxy.hGlWaitSync Syncs.glWaitSync
        split <;> exact mem
  | glDeleteSync handle =>
      obtain ⟨-, same⟩ := Option.ite_none_right_eq_some.mp handled
      cases same
      obtain ⟨named, told⟩ := Waiting.hGlDeleteSync handle waiting.owned waiting.named waiting.told
      exact ⟨waiting.owned.hGlDeleteSync, named, told, waiting.copies⟩

theorem Waiting.careful (waiting : Waiting proxy) (succeeds : .waitFailed ∉ waits)
    (careful : Careful proxy waits after rest) : Waiting after := by
  rcases careful with ⟨-, copied, none⟩ | ⟨ready, resolved, copied⟩
  · refine ⟨?_, ?_, ?_, ?_⟩
    · rw [copied.sync]
      exact waiting.owned
    · rw [copied.sync, copied.fenceOf]
      exact waiting.named
    · rw [copied.sync, copied.told]
      exact waiting.told
    · rw [none]
      exact waiting.copies
  · obtain ⟨sync, finished, -, rfl⟩ := resolve_some resolved
    obtain ⟨owned, named, empty, passed⟩ := Waiting.resolve waiting.owned waiting.named waiting.told
      succeeds finished
    refine ⟨?_, ?_, ?_, ?_⟩
    · rw [copied.sync]
      exact owned
    · rw [copied.sync, copied.fenceOf]
      exact named
    · rw [copied.sync, copied.told]
      exact fun fence mem => .inl (passed fence mem)
    · intro copy mem
      rcases copied.copies copy mem with before | ⟨now, told, signaled⟩
      · exact waiting.copies copy before
      · refine ⟨now.trans empty, ?_⟩
        rw [told, signaled]
        exact passed

theorem Waiting.step {input : CopyInput} (waiting : Waiting proxy) (keeps : KeepsWaiting proxy input)
    (stepped : copyMachine.step proxy input = some after) : Waiting after := by
  cases input with
  | signal fence =>
      cases stepped
      exact waiting.signal fence
  | command command waits =>
      have handled := copyMachine_command stepped
      by_cases about : ∃ fence pointer, command = .sync fence pointer
      · obtain ⟨fence, pointer, rfl⟩ := about
        obtain ⟨sync, served, rfl⟩ := handleSync_some handled
        exact waiting.fences keeps served
      · have other : ∀ fence pointer, command ≠ .sync fence pointer := fun fence pointer same =>
          about ⟨fence, pointer, same⟩
        have succeeds : .waitFailed ∉ waits := by
          cases command with
          | sync fence pointer => exact absurd rfl (other fence pointer)
          | _ => exact keeps
        exact waiting.careful succeeds (Sync.careful other handled)

end

/-- In every run, as long as the conditions of its steps are met. -/
theorem copies_wait {inputs : List CopyInput} (keeps : copyMachine.Along KeepsWaiting .zero inputs) :
    copyMachine.Along CopiesWaited .zero inputs :=
  Machine.Along.of_invariant Waiting.step
    (fun (waiting : Waiting _) keeps _ stepped => (waiting.step keeps stepped).copies) .zero keeps

/-- A fence is waited for, and a buffer is written after the wait. -/
def writesAfterWait (waits : List WaitResult) : List CopyInput :=
  [.command (.sync (.glFenceSync 0x101) 7) [],
    .command (.sync (.glClientWaitSync 0x101 .defer) 0) [],
    .command (.glMapBufferRange glArrayBuffer 0 64 glMapWriteBit 1 0x1000) [],
    .signal 0, .command (.glUnmapBuffer glArrayBuffer 1 64) waits]

theorem copies_wait_unmapped :
    copyMachine.Along CopiesWaited .zero (writesAfterWait [.timeoutExpired, .alreadySignaled]) := by
  refine copies_wait ⟨trivial, fun _ taken => ?_⟩
  cases taken
  refine ⟨⟨by simp, fun none => by cases none⟩, fun _ taken => ?_⟩
  cases taken
  refine ⟨List.not_mem_nil, fun _ taken => ?_⟩
  cases taken
  refine ⟨trivial, fun _ taken => ?_⟩
  cases taken
  have succeeds : WaitResult.waitFailed ∉ [WaitResult.timeoutExpired, .alreadySignaled] := by decide
  exact ⟨succeeds, fun _ _ => trivial⟩

/-- The wait fails, which is logged, and the write goes on. -/
theorem failed_wait_lets_write :
    ¬ copyMachine.Along CopiesWaited .zero
      [.command (.sync (.glFenceSync 0x101) 7) [],
        .command (.sync (.glClientWaitSync 0x101 .defer) 0) [],
        .command (.glMapBufferRange glArrayBuffer 0 64 glMapWriteBit 1 0x1000) [],
        .command (.glUnmapBuffer glArrayBuffer 1 64) [.waitFailed]] := by
  rintro ⟨-, along⟩
  obtain ⟨-, along⟩ := along _ rfl
  obtain ⟨-, along⟩ := along _ rfl
  have waited := (along _ rfl).1 _ rfl _ List.mem_cons_self
  have passed := waited.2 0 List.mem_cons_self
  cases passed

end GlesBridge.Sync
