import GlesBridge.Proxy.Sync

namespace GlesBridge.Proxy.SyncProxy

open GlesBridge.Gl GlesBridge.Systems

/-! What the handlers of the fences do to each part of the proxy. -/

variable {proxy after : SyncProxy} {sync handle answer : UInt32} {id : SyncId} {mode : WaitMode}
  {waits rest : List WaitResult} {result : WaitResult} {gl gl' : Syncs} {entry : DeferredSync}
  {entries : List DeferredSync}

/-! ## Waits -/

theorem glClientWaitSync_some (waited : gl.glClientWaitSync sync result = some gl') :
    gl.Honest sync result ∧ gl' = { gl with fences := gl.fences.use sync } := by
  unfold Syncs.glClientWaitSync at waited
  split at waited
  · rename_i honest
    exact ⟨honest, (Option.some.inj waited).symm⟩
  · cases waited

theorem waitOut_cons (waited : waitOut sync (result :: waits) gl = some (gl', rest)) :
    gl.Honest sync result ∧
      if result = .timeoutExpired then
        waitOut sync waits { gl with fences := gl.fences.use sync } = some (gl', rest)
      else gl' = { gl with fences := gl.fences.use sync } ∧ rest = waits := by
  unfold waitOut at waited
  obtain ⟨between, once, more⟩ := Option.bind_eq_some_iff.mp waited
  obtain ⟨honest, rfl⟩ := glClientWaitSync_some once
  refine ⟨honest, ?_⟩
  split at more
  · rename_i expired
    rwa [if_pos expired]
  · rename_i ended
    rw [if_neg ended]
    cases more
    exact ⟨rfl, rfl⟩

/-- Waiting changes no more than the log. -/
theorem waitOut_keeps (waited : waitOut sync waits gl = some (gl', rest)) :
    gl'.fences.object = gl.fences.object ∧ gl'.fences.made = gl.fences.made ∧
      gl'.signaled = gl.signaled := by
  induction waits generalizing gl with
  | nil => cases waited
  | cons result waits ih =>
      obtain ⟨-, more⟩ := waitOut_cons waited
      split at more
      · have kept := ih more
        exact kept
      · obtain ⟨rfl, -⟩ := more
        exact ⟨rfl, rfl, rfl⟩

theorem waitOut_suffix (waited : waitOut sync waits gl = some (gl', rest)) : rest <:+ waits := by
  induction waits generalizing gl with
  | nil => cases waited
  | cons result waits ih =>
      obtain ⟨-, more⟩ := waitOut_cons waited
      split at more
      · have later := ih more
        exact later.trans (List.suffix_cons result waits)
      · obtain ⟨-, rfl⟩ := more
        exact List.suffix_cons result rest

/-- A wait that ends with success is over a signaled fence. -/
theorem waitOut_signaled {fence : Nat} (waited : waitOut sync waits gl = some (gl', rest))
    (succeeds : .waitFailed ∉ waits) (live : gl.fences.object sync = some fence) :
    fence ∈ gl.signaled := by
  induction waits generalizing gl with
  | nil => cases waited
  | cons result waits ih =>
      rw [List.mem_cons, not_or] at succeeds
      obtain ⟨honest, more⟩ := waitOut_cons waited
      split at more
      · have later := ih more succeeds.2 live
        exact later
      · rename_i ended
        refine honest ?_ fence live
        cases result with
        | alreadySignaled => rfl
        | conditionSatisfied => rfl
        | timeoutExpired => exact absurd rfl ended
        | waitFailed => exact absurd rfl succeeds.1

/-! ## The deferred waits -/

/-- What is left of the fences when the owned ones of a list are deleted. -/
def spare (entries : List DeferredSync) (object : UInt32 → Option Nat) : UInt32 → Option Nat :=
  entries.foldl (fun object entry =>
    if entry.owned = true ∧ entry.s ≠ 0 then Function.update object entry.s none else object) object

def markAll (entries : List DeferredSync) (done : SyncId → UInt32) : SyncId → UInt32 :=
  entries.foldl (fun done entry =>
    Function.update done (syncId entry.handle) (syncGen entry.handle)) done

/-- What `resolveOne` and the loop of them leave alone. -/
structure Resolved (entries : List DeferredSync) (proxy after : SyncProxy) : Prop where
  syncs : after.syncs = proxy.syncs
  gDef : after.gDef = proxy.gDef
  done : after.syncDoneGen = markAll entries proxy.syncDoneGen
  object : after.gl.fences.object = spare entries proxy.gl.fences.object
  made : after.gl.fences.made = proxy.gl.fences.made
  signaled : after.gl.signaled = proxy.gl.signaled

theorem resolveOne_some (resolved : proxy.resolveOne entry waits = some (after, rest)) :
    ∃ gl, waitOut entry.s waits proxy.gl = some (gl, rest) ∧
      after = { proxy with
        gl := if entry.owned then gl.glDeleteSync entry.s else gl }.syncMarkDone entry.handle := by
  obtain ⟨⟨gl, left⟩, waited, shape⟩ := Option.map_eq_some_iff.mp resolved
  cases shape
  exact ⟨gl, waited, rfl⟩

theorem resolveOne_resolved (resolved : proxy.resolveOne entry waits = some (after, rest)) :
    Resolved [entry] proxy after := by
  obtain ⟨gl, waited, rfl⟩ := resolveOne_some resolved
  obtain ⟨object, made, signaled⟩ := waitOut_keeps waited
  refine ⟨rfl, rfl, rfl, ?_, ?_, ?_⟩
  · cases owned : entry.owned with
    | false => simp [syncMarkDone, spare, owned, object]
    | true =>
        by_cases null : entry.s = 0
        · simp [syncMarkDone, spare, owned, null, Syncs.glDeleteSync, object]
        · simp [syncMarkDone, spare, owned, null, Syncs.glDeleteSync, Store.release, object]
  · simp only [syncMarkDone, Syncs.glDeleteSync]
    split_ifs <;> exact made
  · simp only [syncMarkDone, Syncs.glDeleteSync]
    split_ifs <;> exact signaled

theorem Resolved.trans {middle : SyncProxy} {left right : List DeferredSync}
    (first : Resolved left proxy middle) (second : Resolved right middle after) :
    Resolved (left ++ right) proxy after where
  syncs := second.syncs.trans first.syncs
  gDef := second.gDef.trans first.gDef
  done := by rw [second.done, first.done, markAll, markAll, markAll, List.foldl_append]
  object := by rw [second.object, first.object, spare, spare, spare, List.foldl_append]
  made := second.made.trans first.made
  signaled := second.signaled.trans first.signaled

theorem resolveEach_cons
    (resolved : resolveEach (entry :: entries) waits proxy = some (after, rest)) :
    ∃ middle left, proxy.resolveOne entry waits = some (middle, left) ∧
      resolveEach entries left middle = some (after, rest) := by
  obtain ⟨⟨middle, left⟩, first, more⟩ := Option.bind_eq_some_iff.mp resolved
  exact ⟨middle, left, first, more⟩

theorem resolveEach_resolved (resolved : resolveEach entries waits proxy = some (after, rest)) :
    Resolved entries proxy after := by
  induction entries generalizing proxy waits with
  | nil =>
      cases resolved
      exact ⟨rfl, rfl, rfl, rfl, rfl, rfl⟩
  | cons entry entries ih =>
      obtain ⟨middle, left, first, more⟩ := resolveEach_cons resolved
      exact (resolveOne_resolved first).trans (ih more)

theorem spare_eq_some {object : UInt32 → Option Nat} {fence : Nat} (nonnull : sync ≠ 0) :
    spare entries object sync = some fence ↔
      object sync = some fence ∧ ∀ entry ∈ entries, entry.owned = true → entry.s ≠ sync := by
  induction entries generalizing object with
  | nil => simp [spare]
  | cons entry entries ih =>
      have step : spare (entry :: entries) object = spare entries
          (if entry.owned = true ∧ entry.s ≠ 0 then Function.update object entry.s none
            else object) := rfl
      rw [step, ih, List.forall_mem_cons, ← and_assoc]
      refine and_congr_left fun _ => ?_
      by_cases gone : entry.owned = true ∧ entry.s = sync
      · obtain ⟨owned, rfl⟩ := gone
        simp [owned, nonnull]
      · by_cases given : entry.owned = true ∧ entry.s ≠ 0
        · have apart : sync ≠ entry.s := fun same => gone ⟨given.1, same.symm⟩
          simp [given, apart, apart.symm]
        · rw [if_neg given]
          simp only [iff_self_and]
          exact fun _ owned same => gone ⟨owned, same⟩

/-- A deferred wait that ends with success is over a signaled fence. -/
theorem resolveEach_signaled (resolved : resolveEach entries waits proxy = some (after, rest))
    (succeeds : .waitFailed ∉ waits) (apart : (entries.map DeferredSync.s).Nodup)
    (nonnull : ∀ entry ∈ entries, entry.s ≠ 0) :
    ∀ entry ∈ entries, ∀ fence ∈ proxy.gl.fences.object entry.s, fence ∈ proxy.gl.signaled := by
  induction entries generalizing proxy waits with
  | nil => exact fun _ mem => by cases mem
  | cons entry entries ih =>
      obtain ⟨middle, left, first, more⟩ := resolveEach_cons resolved
      obtain ⟨gl, waited, -⟩ := resolveOne_some first
      have kept := resolveOne_resolved first
      rw [List.map_cons, List.nodup_cons] at apart
      rw [List.forall_mem_cons] at nonnull ⊢
      refine ⟨fun fence live => waitOut_signaled waited succeeds live, fun other mem fence live => ?_⟩
      have still : middle.gl.fences.object other.s = some fence := by
        rw [kept.object, spare_eq_some (nonnull.2 other mem)]
        refine ⟨live, fun only mem' _ same => apart.1 ?_⟩
        rw [List.mem_singleton.mp mem'] at same
        rw [same]
        exact List.mem_map_of_mem mem
      rw [← kept.signaled]
      exact ih more (fun failed => succeeds ((waitOut_suffix waited).mem failed)) apart.2 nonnull.2
        other mem fence still

/-! ## The handlers -/

theorem lookupSync_real (found : proxy.lookupSync handle ≠ 0) :
    proxy.lookupSync handle = (proxy.syncs (syncId handle)).real ∧ syncId handle ≠ 0 ∧
      (proxy.syncs (syncId handle)).real ≠ 0 ∧
      (proxy.syncs (syncId handle)).gen = syncGen handle := by
  simp only [lookupSync] at found ⊢
  split at found
  · exact absurd rfl found
  · rename_i known
    rw [if_neg known]
    simp only [not_or, not_not] at known
    exact ⟨rfl, known.1, known.2.1, known.2.2⟩

/-- The driver has made a fence that the handler holds. -/
def withFence (proxy : SyncProxy) (answer : UInt32) : SyncProxy :=
  { proxy with gl := { proxy.gl with fences := proxy.gl.fences.make answer } }

/-- What the table has at an index is adopted or deleted. -/
def giveUp (proxy : SyncProxy) (id : SyncId) : SyncProxy :=
  if (proxy.syncs id).real ≠ 0 then proxy.adoptOrDelete (proxy.syncs id).real else proxy

@[simp] theorem adoptOrDelete_syncs : (proxy.adoptOrDelete sync).syncs = proxy.syncs := by
  unfold adoptOrDelete
  split <;> rfl

@[simp] theorem adoptOrDelete_done : (proxy.adoptOrDelete sync).syncDoneGen = proxy.syncDoneGen := by
  unfold adoptOrDelete
  split <;> rfl

@[simp] theorem giveUp_syncs : (proxy.giveUp id).syncs = proxy.syncs := by
  unfold giveUp
  split
  · exact adoptOrDelete_syncs
  · rfl

@[simp] theorem giveUp_done : (proxy.giveUp id).syncDoneGen = proxy.syncDoneGen := by
  unfold giveUp
  split
  · exact adoptOrDelete_done
  · rfl

/-- The driver has no fence for the handler, or the handle has no index, or the
table takes the fence. -/
theorem hGlFenceSync_cases (handled : proxy.hGlFenceSync handle answer = some after) :
    (answer = 0 ∧ after = proxy) ∨
      answer ≠ 0 ∧ proxy.gl.fences.object answer = none ∧
        (syncId handle = 0 ∧
            after = { proxy with gl := (proxy.withFence answer).gl.glDeleteSync answer } ∨
          syncId handle ≠ 0 ∧
            after = { (proxy.withFence answer).giveUp (syncId handle) with
              syncs := Function.update proxy.syncs (syncId handle) ⟨answer, syncGen handle⟩ }) := by
  obtain ⟨gl, made, rfl⟩ := Option.map_eq_some_iff.mp handled
  by_cases null : answer = 0
  · rw [Syncs.glFenceSync, if_pos null] at made
    cases made
    simp [null, Syncs.glDeleteSync]
  · rw [Syncs.glFenceSync, if_neg null] at made
    cases found : proxy.gl.fences.object answer with
    | some fence =>
        rw [found] at made
        cases made
    | none =>
        rw [found] at made
        cases made
        refine .inr ⟨null, rfl, ?_⟩
        by_cases bad : syncId handle = 0
        · exact .inl ⟨bad, if_pos (.inl bad)⟩
        · refine .inr ⟨bad, (if_neg (not_or.mpr ⟨bad, null⟩)).trans ?_⟩
          have entered : { (proxy.withFence answer).giveUp (syncId handle) with
              syncs := Function.update ((proxy.withFence answer).giveUp (syncId handle)).syncs
                (syncId handle) ⟨answer, syncGen handle⟩ } =
              { (proxy.withFence answer).giveUp (syncId handle) with
                syncs := Function.update proxy.syncs (syncId handle) ⟨answer, syncGen handle⟩ } := by
            rw [giveUp_syncs]
            rfl
          exact entered

theorem hGlDeleteSync_cases :
    (proxy.lookupSync handle = 0 ∧ proxy.hGlDeleteSync handle = proxy) ∨
      proxy.lookupSync handle ≠ 0 ∧ proxy.hGlDeleteSync handle =
        { proxy.adoptOrDelete (proxy.syncs (syncId handle)).real with
          syncs := Function.update proxy.syncs (syncId handle) ⟨0, 0⟩ } := by
  by_cases found : proxy.lookupSync handle = 0
  · exact .inl ⟨found, if_pos found⟩
  · refine .inr ⟨found, (if_neg found).trans ?_⟩
    simp only [(lookupSync_real found).1, adoptOrDelete_syncs]

/-- A deferred wait is on the list already, or it is put there, after the others
are resolved where the list is full. -/
theorem deferPush_cases (pushed : proxy.deferPush sync handle waits = some (after, rest)) :
    (proxy.deferred sync = true ∧ after = proxy ∧ rest = waits) ∨
      proxy.deferred sync = false ∧ ∃ ready,
        (if proxy.gDef.length = maxDeferredSyncs then proxy.proxyResolveDeferredWaits waits
          else some (proxy, waits)) = some (ready, rest) ∧
        after = { ready with gDef := ready.gDef ++ [⟨sync, handle, false⟩] } := by
  unfold deferPush at pushed
  cases listed : proxy.deferred sync with
  | true =>
      rw [listed, if_pos rfl] at pushed
      cases pushed
      exact .inl ⟨rfl, rfl, rfl⟩
  | false =>
      rw [listed, if_neg Bool.false_ne_true] at pushed
      obtain ⟨⟨ready, left⟩, resolved, shape⟩ := Option.map_eq_some_iff.mp pushed
      cases shape
      exact .inr ⟨rfl, ready, resolved, rfl⟩

/-- A wait for an unknown handle does nothing; otherwise it is put off, or the
driver answers it. -/
theorem hGlClientWaitSync_cases
    (handled : proxy.hGlClientWaitSync handle mode waits = some (after, rest, result)) :
    (proxy.lookupSync handle = 0 ∧ after = proxy ∧ rest = waits) ∨
      proxy.lookupSync handle ≠ 0 ∧
        (mode = .defer ∧
            proxy.deferPush (proxy.syncs (syncId handle)).real handle waits = some (after, rest) ∨
          mode ≠ .defer ∧ waits = result :: rest ∧
            proxy.gl.Honest (proxy.syncs (syncId handle)).real result ∧
            after = { proxy with
              gl := { proxy.gl with
                fences := proxy.gl.fences.use (proxy.syncs (syncId handle)).real }
              syncDoneGen := if result.saysSignaled then (proxy.syncMarkDone handle).syncDoneGen
                else proxy.syncDoneGen }) := by
  simp only [hGlClientWaitSync] at handled
  split at handled
  · rename_i unknown
    cases handled
    exact .inl ⟨unknown, rfl, rfl⟩
  · rename_i found
    rw [(lookupSync_real found).1] at handled
    refine .inr ⟨found, ?_⟩
    split at handled
    · rename_i deferring
      obtain ⟨⟨ready, left⟩, pushed, shape⟩ := Option.map_eq_some_iff.mp handled
      cases shape
      exact .inl ⟨deferring, pushed⟩
    · rename_i asking
      cases waits with
      | nil => cases handled
      | cons first waits =>
          obtain ⟨gl, waited, shape⟩ := Option.map_eq_some_iff.mp handled
          obtain ⟨honest, rfl⟩ := glClientWaitSync_some waited
          cases shape
          refine .inr ⟨asking, rfl, honest, ?_⟩
          cases signaled : result.saysSignaled with
          | true => rfl
          | false => rfl

end GlesBridge.Proxy.SyncProxy
