import GlesBridge.Sync.Steady

namespace GlesBridge.Sync

open GlesBridge.Gl GlesBridge.Proxy GlesBridge.Proxy.SyncProxy GlesBridge.Stub GlesBridge.Systems

/-! A fence that has been reported signaled stays so. -/

/-- Until its deletion, a handle that is done is done after the next step. -/
def StaysDone (state : SyncSystem) (input : SystemInput) : Prop :=
  ∀ next, syncSystem.step state input = some next → ∀ handle, state.live handle = true →
    state.done handle = true → next.done handle = true ∨ next.live handle = false

/-! ## What a mark does to the others -/

section

variable {proxy after : SyncProxy} {handle other : UInt32} {mode : WaitMode}
  {waits rest : List WaitResult} {result : WaitResult} {entries : List DeferredSync}

theorem bridgeSyncDone_mark_other {syncDoneGen : SyncId → UInt32}
    (done : bridgeSyncDone syncDoneGen handle = true)
    (apart : syncId other = syncId handle → other = handle) :
    bridgeSyncDone (Function.update syncDoneGen (syncId other) (syncGen other)) handle = true := by
  obtain ⟨nonzero, generation, cell⟩ := bridgeSyncDone_iff.mp done
  refine bridgeSyncDone_iff.mpr ⟨nonzero, generation, ?_⟩
  by_cases here : syncId handle = syncId other
  · rw [apart here.symm, Function.update_self]
  · rw [Function.update_of_ne here]
    exact cell

theorem bridgeSyncDone_markAll_other {syncDoneGen : SyncId → UInt32}
    (done : bridgeSyncDone syncDoneGen handle = true)
    (apart : ∀ entry ∈ entries, syncId entry.handle = syncId handle → entry.handle = handle) :
    bridgeSyncDone (markAll entries syncDoneGen) handle = true := by
  induction entries generalizing syncDoneGen with
  | nil => exact done
  | cons entry rest ih =>
      rw [List.forall_mem_cons] at apart
      exact ih (bridgeSyncDone_mark_other done apart.1) apart.2

theorem resolve_done (done : bridgeSyncDone proxy.syncDoneGen handle = true)
    (apart : ∀ entry ∈ proxy.gDef, syncId entry.handle = syncId handle → entry.handle = handle)
    (resolved : proxy.proxyResolveDeferredWaits waits = some (after, rest)) :
    bridgeSyncDone after.syncDoneGen handle = true := by
  obtain ⟨⟨last, left⟩, each, shape⟩ := Option.map_eq_some_iff.mp resolved
  cases shape
  rw [(resolveEach_resolved each).done]
  exact bridgeSyncDone_markAll_other done apart

theorem hGlClientWaitSync_done (done : bridgeSyncDone proxy.syncDoneGen handle = true)
    (alone : Alone proxy handle)
    (apart : mode = .defer → proxy.lookupSync other ≠ 0 →
      proxy.deferred (proxy.lookupSync other) = false → proxy.gDef.length = maxDeferredSyncs →
      ∀ entry ∈ proxy.gDef, syncId entry.handle = syncId handle → entry.handle = handle)
    (handled : proxy.hGlClientWaitSync other mode waits = some (after, rest, result)) :
    bridgeSyncDone after.syncDoneGen handle = true := by
  rcases hGlClientWaitSync_cases handled with
    ⟨-, rfl, -⟩ | ⟨found, ⟨deferring, pushed⟩ | ⟨-, -, -, rfl⟩⟩
  · exact done
  · rcases deferPush_cases pushed with ⟨-, rfl, -⟩ | ⟨unlisted, ready, resolved, rfl⟩
    · exact done
    · split at resolved
      · rename_i full
        rw [← (lookupSync_real found).1] at unlisted
        have marked := resolve_done done (apart deferring found unlisted full) resolved
        exact marked
      · cases resolved
        exact done
  · cases signals : result.saysSignaled with
    | false => exact done
    | true =>
        simp only [if_true]
        obtain ⟨-, -, mapped, gen⟩ := lookupSync_real found
        refine bridgeSyncDone_mark_other done fun here => handle_ext here ?_
        rw [here] at mapped gen
        exact gen.symm.trans (alone mapped)

end

/-! ## Runs -/

section

variable {state next : SyncSystem} {input : SystemInput} {handle : UInt32}

theorem Steady.serveDone (steady : Steady state) {answers : SyncAnswers}
    (clear : state.Resolves (.serve answers) → ∀ handle, state.live handle = true →
      state.done handle = true →
      ∀ entry ∈ state.proxy.gDef, syncId entry.handle = syncId handle → entry.handle = handle)
    (stepped : state.serve answers = some next) (live : state.live handle = true)
    (done : state.done handle = true) : next.done handle = true := by
  unfold SyncSystem.serve at stepped
  cases order : state.queue with
  | nil =>
      rw [order] at stepped
      cases stepped
  | cons head rest =>
      obtain ⟨call, command⟩ := head
      rw [order] at stepped
      obtain ⟨proxy, handled, rfl⟩ := Option.map_eq_some_iff.mp stepped
      cases command with
      | glFenceSync other =>
          obtain ⟨-, handled⟩ := Option.ite_none_right_eq_some.mp handled
          simp only [SyncSystem.done, hGlFenceSync_done handled]
          exact done
      | glClientWaitSync other mode =>
          obtain ⟨⟨ready, left, result⟩, handled, ended⟩ := Option.bind_eq_some_iff.mp handled
          obtain ⟨-, same⟩ := Option.ite_none_right_eq_some.mp ended
          cases same
          have alone := (steady.settled handle live (.inr (.inr done))).2
          refine hGlClientWaitSync_done done alone (fun deferring found unlisted full => ?_) handled
          refine clear ?_ handle live done
          simp only [SyncSystem.Resolves, order, deferring]
          exact ⟨found, unlisted, full⟩
      | glWaitSync other =>
          obtain ⟨-, same⟩ := Option.ite_none_right_eq_some.mp handled
          cases same
          exact done
      | glDeleteSync other =>
          obtain ⟨-, same⟩ := Option.ite_none_right_eq_some.mp handled
          cases same
          rcases hGlDeleteSync_cases with ⟨-, same⟩ | ⟨-, dropped⟩
          · rw [SyncSystem.done, same]
            exact done
          · rw [SyncSystem.done, dropped]
            exact (congrFun (congrArg bridgeSyncDone adoptOrDelete_done) handle).trans done

theorem Steady.staysDone (steady : Steady state) (keeps : KeepsDone state input) :
    StaysDone state input := by
  intro next stepped handle live done
  cases input with
  | glFenceSync =>
      cases stepped
      unfold SyncSystem.glFenceSync
      split <;> exact .inl done
  | glClientWaitSync =>
      cases stepped
      unfold SyncSystem.glClientWaitSync
      split <;> exact .inl done
  | glWaitSync =>
      cases stepped
      exact .inl done
  | glDeleteSync =>
      cases stepped
      unfold SyncSystem.glDeleteSync
      split <;> exact .inl done
  | advance place =>
      obtain ⟨⟨call, pending⟩, found, rfl⟩ := Option.map_eq_some_iff.mp stepped
      cases pending <;> exact .inl done
  | serve answers => exact .inl (steady.serveDone keeps.2.2 stepped live done)
  | resolve waits =>
      obtain ⟨proxy, resolved, rfl⟩ := Option.map_eq_some_iff.mp stepped
      obtain ⟨⟨ready, rest⟩, each, ended⟩ := Option.bind_eq_some_iff.mp resolved
      obtain ⟨-, same⟩ := Option.ite_none_right_eq_some.mp ended
      cases same
      exact .inl (resolve_done done (keeps.2.2 trivial handle live done) each)
  | signal fence =>
      cases stepped
      exact .inl done

end

/-- In any interleaving, as long as the conditions of its steps are met. -/
theorem signaled_stays {inputs : List SystemInput}
    (keeps : syncSystem.Along KeepsDone .zero inputs) :
    syncSystem.Along StaysDone .zero inputs :=
  Machine.Along.of_invariant Steady.step Steady.staysDone .zero keeps

/-- A poll finds the fence signaled, and the fence is used on. -/
theorem signaled_stays_polled :
    syncSystem.Along StaysDone .zero
      [.glFenceSync, .advance 0, .serve ⟨7, []⟩, .signal 0, .glClientWaitSync 0x101 0 true,
        .advance 0, .serve ⟨0, [.alreadySignaled]⟩, .glWaitSync 0x101, .advance 0,
        .serve ⟨0, []⟩] := by
  have call {state : SyncSystem} {input : SystemInput} (plain : input ≠ .glFenceSync ∧
      ∀ place, input ≠ .advance place) (none : ¬ state.Resolves input) : KeepsDone state input :=
    ⟨fun same => absurd same plain.1, fun place _ _ same => absurd same (plain.2 place),
      fun resolves => absurd resolves none⟩
  have sends {state : SyncSystem} {number : Nat} {command : SyncCommand}
      (first : state.pending = [(number, .send command)]) : KeepsDone state (.advance 0) := by
    refine ⟨fun none => (by cases none), fun place _ _ same found => ?_, fun none => none.elim⟩
    cases same
    rw [first] at found
    cases found
  refine signaled_stays ⟨⟨fun _ made given => ?_, fun _ _ _ none => (by cases none),
    fun none => none.elim⟩, fun _ taken => ?_⟩
  · cases given
    exact ⟨rfl, rfl, fun _ mem => (by cases mem), fun _ mem => (by cases mem),
      fun _ mem => by cases mem⟩
  cases taken
  refine ⟨sends rfl, fun _ taken => ?_⟩
  cases taken
  refine ⟨call (by simp) not_false, fun _ taken => ?_⟩
  cases taken
  refine ⟨call (by simp) not_false, fun _ taken => ?_⟩
  cases taken
  refine ⟨call (by simp) not_false, fun _ taken => ?_⟩
  cases taken
  refine ⟨sends rfl, fun _ taken => ?_⟩
  cases taken
  refine ⟨call (by simp) not_false, fun _ taken => ?_⟩
  cases taken
  refine ⟨call (by simp) not_false, fun _ taken => ?_⟩
  cases taken
  refine ⟨sends rfl, fun _ taken => ?_⟩
  cases taken
  exact ⟨call (by simp) not_false, fun _ _ => trivial⟩

/-! ## A run on which an index is used again -/

/-- The handle of a generation, at the index of the same number. -/
def alike (turn : Nat) : UInt32 := .ofNat turn <<< bridgeSyncIdBits ||| .ofNat turn

/-- A client that makes one fence a frame and deletes it. -/
def oneFrame (turn : Nat) : List SystemInput :=
  [.glFenceSync, .advance 0, .serve ⟨2, []⟩, .glDeleteSync (alike turn), .advance 0,
    .serve ⟨0, []⟩, .advance 0]

/-- All is as it was but for a deferred wait, the counters and the records. -/
structure Between (turn : Nat) (state : SyncSystem) : Prop where
  stub : state.stub = ⟨fun _ => false, .ofNat turn, .ofNat turn + 1⟩
  pending : state.pending = []
  queue : state.queue = []
  syncs : state.proxy.syncs = fun _ => ⟨0, 0⟩
  gDef : state.proxy.gDef = [⟨1, 0x101, true⟩]
  done : state.proxy.syncDoneGen = fun _ => 0
  first : state.proxy.gl.fences.object 1 = some 0
  fresh : state.proxy.gl.fences.object 2 = none
  made : state.proxy.gl.fences.made = turn

theorem bridgeSyncAlloc_unused {stub : SyncStub} (unused : stub.gSyncUsed = fun _ => false) :
    stub.bridgeSyncAlloc = some
      (⟨Function.update stub.gSyncUsed (syncId (stub.tryId 1)) true, stub.nextGen,
          stub.tryId 1 + 1⟩,
        stub.nextGen <<< bridgeSyncIdBits ||| stub.tryId 1) := by
  have first : stub.freeId = some (stub.tryId 1) := by
    have turns : List.range (bridgeMaxSyncs - 1) = 0 :: (List.range 254).map Nat.succ :=
      List.range_succ_eq_map
    rw [SyncStub.freeId, turns, List.map_cons, List.find?_cons_of_pos]
    rw [unused]
    rfl
  rw [SyncStub.bridgeSyncAlloc, first]
  rfl

theorem toNat_turn (turn : Nat) (few : turn < 2 ^ 32) : (UInt32.ofNat turn).toNat = turn :=
  UInt32.toNat_ofNat_of_lt' few

theorem alike_parts (turn : Nat) (few : turn < 256) :
    (syncId (alike turn) : Nat) = turn ∧ (syncGen (alike turn)).toNat = turn := by
  have value := toNat_turn turn (by omega)
  have whole := toNat_handle (by omega : (UInt32.ofNat turn).toNat < 2 ^ 24)
    (by omega : (UInt32.ofNat turn).toNat < 256)
  rw [value] at whole
  constructor
  · rw [toNat_syncId, alike, whole]
    omega
  · rw [toNat_syncGen, alike, whole]
    omega

theorem Between.alloc {turn : Nat} {state : SyncSystem} (between : Between turn state)
    (few : turn < 255) :
    state.stub.bridgeSyncAlloc = some
      (⟨Function.update (fun _ => false) (syncId (alike (turn + 1))) true, .ofNat (turn + 1),
        .ofNat (turn + 1) + 1⟩, alike (turn + 1)) := by
  have value := toNat_turn turn (by omega)
  have unused : state.stub.gSyncUsed = fun _ => false := by rw [between.stub]
  have gen : state.stub.nextGen = .ofNat (turn + 1) := by
    have before : state.stub.gSyncGen = .ofNat turn := by rw [between.stub]
    refine UInt32.toNat_inj.mp ?_
    rw [nextGen_of_few (by rw [before]; omega), before, value, toNat_turn (turn + 1) (by omega)]
  have id : state.stub.tryId 1 = .ofNat (turn + 1) := by
    have turned : state.stub.tryId 1 = 1 + .ofNat turn % 255 := by
      rw [SyncStub.tryId, between.stub]
      simp
    refine UInt32.toNat_inj.mp ?_
    rw [turned, UInt32.toNat_add, UInt32.toNat_mod, value, toNat_turn (turn + 1) (by omega)]
    change (1 + turn % 255) % 2 ^ 32 = _
    omega
  have index : syncId (.ofNat (turn + 1)) = syncId (alike (turn + 1)) := by
    refine Fin.ext ?_
    rw [(alike_parts (turn + 1) (by omega)).1, toNat_syncId, toNat_turn (turn + 1) (by omega)]
    omega
  rw [bridgeSyncAlloc_unused unused, gen, id, unused, index]
  rfl

/-- A call that makes a fence, from its beginning to its end. -/
def SyncSystem.fenced (state : SyncSystem) (stub : SyncStub) (handle pointer : UInt32) : SyncSystem :=
  { state.give stub handle with
    pending := []
    created := (state.calls, state.proxy.gl.fences.made) :: state.created
    proxy :=
      { state.proxy with
        gl := { state.proxy.gl with fences := state.proxy.gl.fences.make pointer }
        syncs := Function.update state.proxy.syncs (syncId handle) ⟨pointer, syncGen handle⟩ } }

theorem run_fence {state : SyncSystem} {stub : SyncStub} {handle pointer : UInt32}
    (given : state.stub.bridgeSyncAlloc = some (stub, handle)) (pending : state.pending = [])
    (queue : state.queue = []) (index : syncId handle ≠ 0)
    (empty : (state.proxy.syncs (syncId handle)).real = 0) (nonzero : pointer ≠ 0)
    (fresh : state.proxy.gl.fences.object pointer = none) :
    syncSystem.run state [.glFenceSync, .advance 0, .serve ⟨pointer, []⟩] =
      some (state.fenced stub handle pointer) := by
  have taken : state.glFenceSync = state.give stub handle := by
    rw [SyncSystem.glFenceSync, given]
  have handled : state.proxy.hGlFenceSync handle pointer =
      some (state.fenced stub handle pointer).proxy := by
    simp [hGlFenceSync, Syncs.glFenceSync, nonzero, fresh, index, empty, SyncSystem.fenced]
  have sent : (state.give stub handle).advance 0 =
      some { state.give stub handle with
        pending := [], queue := [(state.calls, .glFenceSync handle)] } := by
    simp [SyncSystem.advance, SyncSystem.give, SyncSystem.begin, pending, queue]
  have served : SyncSystem.serve { state.give stub handle with
        pending := [], queue := [(state.calls, .glFenceSync handle)] } ⟨pointer, []⟩ =
      some (state.fenced stub handle pointer) := by
    simp [SyncSystem.serve, SyncSystem.give, SyncSystem.begin, handleSync, handled,
      SyncSystem.made, nonzero, SyncSystem.fenced, queue]
  simp only [Machine.run, syncSystem, SyncSystem.step, taken, Option.bind_some, sent, served]

/-- A call that deletes a fence, to its end. -/
def SyncSystem.dropped (state : SyncSystem) (handle : UInt32) : SyncSystem :=
  { state with
    stub := state.stub.bridgeSyncFree handle
    proxy := state.proxy.hGlDeleteSync handle
    calls := state.calls + 1
    live := Function.update state.live handle false }

theorem run_delete {state : SyncSystem} {handle : UInt32} (pending : state.pending = [])
    (queue : state.queue = []) (nonzero : handle ≠ 0) :
    syncSystem.run state [.glDeleteSync handle, .advance 0, .serve ⟨0, []⟩, .advance 0] =
      some (state.dropped handle) := by
  obtain ⟨stub, waiting, ring, proxy, calls, issued, created, live⟩ := state
  cases pending
  cases queue
  simp [Machine.run, syncSystem, SyncSystem.step, SyncSystem.glDeleteSync, nonzero,
    SyncSystem.begin, SyncSystem.advance, SyncSystem.serve, handleSync, SyncSystem.made,
    SyncSystem.dropped]

theorem Between.frame {turn : Nat} {state : SyncSystem} (between : Between turn state)
    (few : turn < 255) :
    ∃ next, syncSystem.run state (oneFrame (turn + 1)) = some next ∧ Between (turn + 1) next := by
  obtain ⟨index, -⟩ := alike_parts (turn + 1) (by omega)
  have given := between.alloc few
  have someId : syncId (alike (turn + 1)) ≠ 0 := by
    intro zero
    rw [zero] at index
    cases index
  have nonzero : alike (turn + 1) ≠ 0 := by
    intro zero
    rw [zero] at index
    cases index
  have fence := run_fence given between.pending between.queue someId (by rw [between.syncs])
    (by decide) between.fresh
  generalize middleIs : state.fenced _ (alike (turn + 1)) 2 = middle at fence
  have dropped : middle.proxy.hGlDeleteSync (alike (turn + 1)) =
      { state.proxy with
        gl := { state.proxy.gl with fences := (state.proxy.gl.fences.make 2).release 2 } } := by
    rw [← middleIs]
    simp [hGlDeleteSync, lookupSync, SyncSystem.fenced, someId, adoptOrDelete, deferred,
      between.gDef, Syncs.glDeleteSync, between.syncs]
  have freed : middle.stub.bridgeSyncFree (alike (turn + 1)) =
      ⟨fun _ => false, .ofNat (turn + 1), .ofNat (turn + 1) + 1⟩ := by
    rw [← middleIs]
    simp [SyncSystem.fenced, SyncSystem.give, SyncStub.bridgeSyncFree, someId]
  have pending : middle.pending = [] := by
    rw [← middleIs]
    rfl
  have queue : middle.queue = [] := by
    rw [← middleIs]
    exact between.queue
  have deletion := run_delete pending queue nonzero
  refine ⟨middle.dropped (alike (turn + 1)), ?_, ?_⟩
  · have parts : oneFrame (turn + 1) = [.glFenceSync, .advance 0, .serve ⟨2, []⟩] ++
        [.glDeleteSync (alike (turn + 1)), .advance 0, .serve ⟨0, []⟩, .advance 0] := rfl
    rw [parts, Machine.run_append, fence]
    exact deletion
  · have proxy : (middle.dropped (alike (turn + 1))).proxy = _ := dropped
    constructor
    · exact freed
    · exact pending
    · exact queue
    · rw [proxy]
      exact between.syncs
    · rw [proxy]
      exact between.gDef
    · rw [proxy]
      exact between.done
    · rw [proxy]
      simp [Store.release, Store.make, between.first]
    · rw [proxy]
      simp [Store.release]
    · rw [proxy]
      simp [Store.make, between.made]

/-- The first fence is waited for and deleted while its wait is put off. -/
def putOff : List SystemInput :=
  [.glFenceSync, .advance 0, .serve ⟨1, []⟩, .glClientWaitSync (alike 1) glTimeoutIgnored true,
    .advance 0, .serve ⟨0, []⟩, .glDeleteSync (alike 1), .advance 0, .serve ⟨0, []⟩, .advance 0]

theorem update_back {α β : Type} [DecidableEq α] {base value : β} (place : α) :
    Function.update (Function.update (fun _ => base) place value) place base = fun _ => base := by
  simp

theorem between_putOff : ∃ next, syncSystem.run .zero putOff = some next ∧ Between 1 next := by
  refine ⟨_, rfl, ?_⟩
  constructor
  · exact congrArg (SyncStub.mk · 1 2) (update_back (1 : SyncId))
  · rfl
  · rfl
  · exact update_back (1 : SyncId)
  · rfl
  · rfl
  · rfl
  · rfl
  · rfl

/-- The other indices are used in turn. -/
theorem frames_run (turns : Nat) (few : turns < 255) :
    ∃ next, syncSystem.run .zero
        (putOff ++ (List.range turns).flatMap fun turn => oneFrame (turn + 2)) = some next ∧
      Between (turns + 1) next := by
  induction turns with
  | zero => exact between_putOff
  | succ turns ih =>
      obtain ⟨middle, before, between⟩ := ih (by omega)
      obtain ⟨next, after, between⟩ := between.frame few
      refine ⟨next, ?_, between⟩
      rw [List.range_succ, List.flatMap_append, ← List.append_assoc, Machine.run_append, before]
      simpa using after

/-- The first index is used again, and its fence is seen to be signaled. -/
def again : List SystemInput :=
  [.glFenceSync, .advance 0, .serve ⟨2, []⟩, .signal 0, .signal 255,
    .glClientWaitSync 0x10001 0 true, .advance 0, .serve ⟨0, [.alreadySignaled]⟩]

/-- The proxy has polled a fence that is signaled. -/
def SyncSystem.seen (state : SyncSystem) (handle : UInt32) : SyncSystem :=
  let fences := state.proxy.gl.fences.use (state.proxy.lookupSync handle)
  let proxy := { state.proxy with gl := { state.proxy.gl with fences } }
  { state with calls := state.calls + 1, proxy := proxy.syncMarkDone handle }

theorem run_poll {state : SyncSystem} {handle : UInt32} (fast : Bool)
    (pending : state.pending = []) (queue : state.queue = []) (undone : state.done handle = false)
    (found : state.proxy.lookupSync handle ≠ 0)
    (honest : state.proxy.gl.Honest (state.proxy.lookupSync handle) .alreadySignaled) :
    syncSystem.run state
        [.glClientWaitSync handle 0 fast, .advance 0, .serve ⟨0, [.alreadySignaled]⟩] =
      some (state.seen handle) := by
  rw [SyncSystem.done] at undone
  have polls : state.glClientWaitSync handle 0 fast =
      state.begin (.send (.glClientWaitSync handle .poll)) := by
    simp [SyncSystem.glClientWaitSync, Stub.glClientWaitSync, undone]
  have handled : state.proxy.hGlClientWaitSync handle .poll [.alreadySignaled] =
      some ((state.seen handle).proxy, [], .alreadySignaled) := by
    simp [hGlClientWaitSync, found, Syncs.glClientWaitSync, honest, WaitResult.saysSignaled,
      SyncSystem.seen]
  obtain ⟨stub, waiting, ring, proxy, calls, issued, created, live⟩ := state
  cases pending
  cases queue
  simp [Machine.run, syncSystem, SyncSystem.step, polls, SyncSystem.begin, SyncSystem.advance,
    SyncSystem.serve, handleSync, handled, SyncSystem.made, SyncSystem.seen]

/-- A wait that was put off is over. -/
theorem resolve_one {proxy : SyncProxy} {entry : DeferredSync} (listed : proxy.gDef = [entry])
    (honest : proxy.gl.Honest entry.s .alreadySignaled) :
    ∃ after, proxy.resolve [.alreadySignaled] = some after ∧
      after.syncDoneGen =
        Function.update proxy.syncDoneGen (syncId entry.handle) (syncGen entry.handle) := by
  simp [SyncProxy.resolve, proxyResolveDeferredWaits, listed, resolveEach, resolveOne, waitOut,
    Syncs.glClientWaitSync, honest, syncMarkDone]

/-- At the first index a later fence is done, and the first one is still listed. -/
structure Polled (state : SyncSystem) : Prop where
  live : state.live 0x10001 = true
  done : state.done 0x10001 = true
  gDef : state.proxy.gDef = [⟨1, 0x101, true⟩]
  first : state.proxy.gl.fences.object 1 = some 0
  signaled : 0 ∈ state.proxy.gl.signaled

theorem Between.polled {state : SyncSystem} (between : Between 255 state) :
    ∃ next, syncSystem.run state again = some next ∧ Polled next := by
  have unused : state.stub.gSyncUsed = fun _ => false := by rw [between.stub]
  have given := bridgeSyncAlloc_unused unused
  have handle : state.stub.nextGen <<< bridgeSyncIdBits ||| state.stub.tryId 1 = 0x10001 := by
    rw [between.stub]
    decide
  rw [handle] at given
  have fence := run_fence given between.pending between.queue (by decide) (by rw [between.syncs])
    (by decide) between.fresh
  generalize middleIs : state.fenced _ 0x10001 2 = middle at fence
  generalize readyIs : ({ middle with
    proxy := { middle.proxy with
      gl := (middle.proxy.gl.signal 0).signal 255 } } : SyncSystem) = ready
  have passed : syncSystem.run middle [.signal 0, .signal 255] = some ready := by
    rw [← readyIs]
    rfl
  have undone : ready.done 0x10001 = false := by
    rw [← readyIs, ← middleIs]
    simp only [SyncSystem.done, SyncSystem.fenced, between.done]
    decide
  have found : ready.proxy.lookupSync 0x10001 = 2 := by
    rw [← readyIs, ← middleIs]
    simp only [lookupSync, SyncSystem.fenced, Function.update_self]
    decide
  have object : ready.proxy.gl.fences.object 2 = some 255 := by
    rw [← readyIs, ← middleIs]
    simp [SyncSystem.fenced, Store.make, between.made, Syncs.signal]
  have signaled : ready.proxy.gl.signaled = 255 :: 0 :: middle.proxy.gl.signaled := by
    rw [← readyIs]
    rfl
  have honest : ready.proxy.gl.Honest (ready.proxy.lookupSync 0x10001) .alreadySignaled := by
    rw [found]
    simp [Syncs.Honest, object, signaled]
  have poll := run_poll true (by rw [← readyIs, ← middleIs]; rfl)
    (by rw [← readyIs, ← middleIs]; exact between.queue) undone (by rw [found]; decide) honest
  have parts : again = [.glFenceSync, .advance 0, .serve ⟨2, []⟩] ++ ([.signal 0, .signal 255] ++
      [.glClientWaitSync 0x10001 0 true, .advance 0, .serve ⟨0, [.alreadySignaled]⟩]) := rfl
  rw [parts, Machine.run_append, fence, Option.bind_some, Machine.run_append, passed]
  refine ⟨_, poll, ?_, ?_, ?_, ?_, ?_⟩
  · rw [← readyIs, ← middleIs]
    exact Function.update_self (0x10001 : UInt32) true state.live
  · have marked := Function.update_self (syncId 0x10001) (syncGen 0x10001) ready.proxy.syncDoneGen
    exact bridgeSyncDone_iff.mpr ⟨by decide, by decide, marked⟩
  · rw [← readyIs, ← middleIs]
    exact between.gDef
  · rw [← readyIs, ← middleIs]
    simp [SyncSystem.fenced, SyncSystem.seen, syncMarkDone, Store.make, between.first, Syncs.signal]
  · simp [SyncSystem.seen, syncMarkDone, signaled]

/-- The wait for the first fence is resolved late and takes the cell from the other. -/
theorem late_resolve_forgets :
    ¬ syncSystem.Along StaysDone .zero
      ((putOff ++ (List.range 254).flatMap fun turn => oneFrame (turn + 2)) ++ again ++
        [.resolve [.alreadySignaled]]) := by
  intro along
  obtain ⟨before, run, between⟩ := frames_run 254 (by decide)
  obtain ⟨reached, more, polled⟩ := between.polled
  have stays := Machine.along_iff_prefix.mp along _ _ reached List.prefix_rfl (by
    rw [Machine.run_append, run]
    exact more)
  have honest : reached.proxy.gl.Honest 1 .alreadySignaled := by
    simp [Syncs.Honest, polled.first, polled.signaled]
  obtain ⟨after, resolved, marked⟩ := resolve_one polled.gDef honest
  have stepped : syncSystem.step reached (.resolve [.alreadySignaled]) =
      some { reached with proxy := after } := congrArg (Option.map _) resolved
  rcases stays _ stepped 0x10001 polled.live polled.done with done | gone
  · simp only [SyncSystem.done, marked] at done
    cases done
  · rw [polled.live] at gone
    cases gone

end GlesBridge.Sync
