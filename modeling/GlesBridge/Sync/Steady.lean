import GlesBridge.Sync.FastPath
import Mathlib.Data.List.Perm.Basic

namespace GlesBridge.Sync

open GlesBridge.Gl GlesBridge.Proxy GlesBridge.Proxy.SyncProxy GlesBridge.Stub GlesBridge.Systems

/-! A live handle is the last of its index that the proxy gets to know. -/

namespace SyncSystem

variable (state : SyncSystem)

/-- A handle that the client has, or will be given, has the index. -/
def InUse (id : SyncId) : Prop :=
  (∃ handle, state.live handle = true ∧ syncId handle = id) ∨
    ∃ call handle, (call, .send (.glFenceSync handle)) ∈ state.pending ∧ syncId handle = id

end SyncSystem

/-- Nothing is left of an earlier fence where a handle is given out, no index is
given back that is in use, and no deferred wait is resolved of an older handle
whose index a handle has that is done. -/
def KeepsDone (state : SyncSystem) (input : SystemInput) : Prop :=
  (input = .glFenceSync → ∀ made ∈ state.stub.bridgeSyncAlloc, state.Forgotten made.2) ∧
    (∀ place call handle, input = .advance place →
      state.pending[place]? = some (call, .free handle) → ¬ state.InUse (syncId handle)) ∧
    (state.Resolves input → ∀ handle, state.live handle = true → state.done handle = true →
      ∀ entry ∈ state.proxy.gDef, syncId entry.handle = syncId handle → entry.handle = handle)

/-! ## What the proxy knows of a handle -/

/-- The proxy could still write the cell for this handle, or has done so. -/
def Known (proxy : SyncProxy) (handle : UInt32) : Prop :=
  proxy.lookupSync handle ≠ 0 ∨ (∃ entry ∈ proxy.gDef, entry.handle = handle) ∨
    bridgeSyncDone proxy.syncDoneGen handle = true

/-- No other handle is in the table at the index. -/
def Alone (proxy : SyncProxy) (handle : UInt32) : Prop :=
  (proxy.syncs (syncId handle)).real ≠ 0 → (proxy.syncs (syncId handle)).gen = syncGen handle

/-- A handler that enters no fence. -/
structure Quiet (proxy after : SyncProxy) : Prop where
  known : ∀ handle, Known after handle → Known proxy handle
  alone : ∀ handle, Alone proxy handle → Alone after handle

section

variable {proxy after middle : SyncProxy} {handle other sync answer : UInt32} {mode : WaitMode}
  {waits rest : List WaitResult} {result : WaitResult} {entries : List DeferredSync}

theorem Quiet.trans (first : Quiet proxy middle) (second : Quiet middle after) :
    Quiet proxy after where
  known handle later := first.known handle (second.known handle later)
  alone handle before := second.alone handle (first.alone handle before)

/-- The table stays, and the list and the cells are no news. -/
theorem Quiet.of_syncs (syncs : after.syncs = proxy.syncs)
    (list : ∀ entry ∈ after.gDef, Known proxy entry.handle)
    (cell : ∀ handle, bridgeSyncDone after.syncDoneGen handle = true → Known proxy handle) :
    Quiet proxy after := by
  refine ⟨fun handle known => ?_, fun handle alone => ?_⟩
  · rcases known with found | ⟨entry, mem, rfl⟩ | done
    · rw [lookupSync_congr syncs] at found
      exact .inl found
    · exact list entry mem
    · exact cell handle done
  · unfold Alone
    rw [syncs]
    exact alone

theorem Quiet.resolve (resolved : proxy.proxyResolveDeferredWaits waits = some (after, rest)) :
    Quiet proxy after := by
  obtain ⟨⟨last, left⟩, each, shape⟩ := Option.map_eq_some_iff.mp resolved
  cases shape
  have parts := resolveEach_resolved each
  refine Quiet.of_syncs parts.syncs (fun _ mem => by cases mem) fun handle done => ?_
  simp only [parts.done] at done
  rcases bridgeSyncDone_markAll done with deferred | before
  · exact .inr (.inl deferred)
  · exact .inr (.inr before)

theorem Quiet.deferPush (found : proxy.lookupSync handle ≠ 0)
    (pushed : proxy.deferPush sync handle waits = some (after, rest)) : Quiet proxy after := by
  have push {ready : SyncProxy} (found : ready.lookupSync handle ≠ 0) :
      Quiet ready { ready with gDef := ready.gDef ++ [⟨sync, handle, false⟩] } := by
    refine Quiet.of_syncs rfl (fun entry mem => ?_) fun _ done => .inr (.inr done)
    rcases List.mem_append.mp mem with before | new
    · exact .inr (.inl ⟨entry, before, rfl⟩)
    · rw [List.mem_singleton.mp new]
      exact .inl found
  rcases deferPush_cases pushed with ⟨-, rfl, -⟩ | ⟨-, ready, resolved, rfl⟩
  · exact ⟨fun _ known => known, fun _ alone => alone⟩
  · split at resolved
    · obtain ⟨⟨last, left⟩, each, shape⟩ := Option.map_eq_some_iff.mp resolved
      have syncs : ready.syncs = proxy.syncs := by
        cases shape
        exact (resolveEach_resolved each).syncs
      exact (Quiet.resolve resolved).trans (push (by rwa [lookupSync_congr syncs]))
    · cases resolved
      exact push found

theorem Quiet.hGlClientWaitSync
    (handled : proxy.hGlClientWaitSync handle mode waits = some (after, rest, result)) :
    Quiet proxy after := by
  rcases hGlClientWaitSync_cases handled with
    ⟨-, rfl, -⟩ | ⟨found, ⟨-, pushed⟩ | ⟨-, -, -, rfl⟩⟩
  · exact ⟨fun _ known => known, fun _ alone => alone⟩
  · exact Quiet.deferPush found pushed
  · refine Quiet.of_syncs rfl (fun entry mem => .inr (.inl ⟨entry, mem, rfl⟩)) fun other done => ?_
    cases signals : result.saysSignaled with
    | false =>
        simp only [signals] at done
        exact .inr (.inr done)
    | true =>
        simp only [signals, if_true] at done
        rcases bridgeSyncDone_mark done with rfl | before
        · exact .inl found
        · exact .inr (.inr before)

/-- The table gives up an index. -/
theorem Quiet.drop {id : SyncId} :
    Quiet proxy { proxy.adoptOrDelete (proxy.syncs id).real with
      syncs := Function.update proxy.syncs id ⟨0, 0⟩ } := by
  refine ⟨fun handle known => ?_, fun handle alone mapped => ?_⟩
  · rcases known with found | ⟨entry, mem, rfl⟩ | done
    · rw [lookupSync_cleared rfl found] at found
      exact .inl found
    · obtain ⟨other, mem, same, -⟩ := adoptOrDelete_origin mem
      exact .inr (.inl ⟨other, mem, same⟩)
    · simp only [adoptOrDelete_done] at done
      exact .inr (.inr done)
  · by_cases here : syncId handle = id
    · simp [here] at mapped
    · simp only [Function.update_of_ne here] at mapped ⊢
      exact alone mapped

theorem Quiet.hGlDeleteSync : Quiet proxy (proxy.hGlDeleteSync handle) := by
  rcases hGlDeleteSync_cases with ⟨-, same⟩ | ⟨-, dropped⟩
  · rw [same]
    exact ⟨fun _ known => known, fun _ alone => alone⟩
  · rw [dropped]
    exact Quiet.drop

theorem Quiet.hGlWaitSync : Quiet proxy (proxy.hGlWaitSync handle) :=
  Quiet.of_syncs rfl (fun entry mem => .inr (.inl ⟨entry, mem, rfl⟩)) fun _ done => .inr (.inr done)

/-- A command for a fence is about its own index only. -/
theorem hGlFenceSync_quiet (handled : proxy.hGlFenceSync handle answer = some after)
    (apart : other ≠ handle) (known : Known after other) : Known proxy other := by
  rcases hGlFenceSync_cases handled with ⟨-, rfl⟩ | ⟨-, -, ⟨-, rfl⟩ | ⟨-, rfl⟩⟩
  · exact known
  · exact known
  · rcases known with found | ⟨entry, mem, rfl⟩ | done
    · obtain ⟨-, -, -, gen⟩ := lookupSync_real found
      by_cases here : syncId other = syncId handle
      · simp only [here, Function.update_self] at gen
        exact absurd (handle_ext here gen.symm) apart
      · simp only [lookupSync, Function.update_of_ne here] at found
        exact .inl found
    · unfold giveUp at mem
      split at mem
      · obtain ⟨origin, mem, same, -⟩ := adoptOrDelete_origin mem
        exact .inr (.inl ⟨origin, mem, same⟩)
      · exact .inr (.inl ⟨entry, mem, rfl⟩)
    · simp only [giveUp_done] at done
      exact .inr (.inr done)

/-- The table takes the fence, or nothing changes that is known. -/
theorem hGlFenceSync_syncs (handled : proxy.hGlFenceSync handle answer = some after) :
    after.syncs = Function.update proxy.syncs (syncId handle) ⟨answer, syncGen handle⟩ ∨
      after.syncs = proxy.syncs ∧ ∀ other, Known after other → Known proxy other := by
  rcases hGlFenceSync_cases handled with ⟨-, rfl⟩ | ⟨-, -, ⟨-, rfl⟩ | ⟨-, rfl⟩⟩
  · exact .inr ⟨rfl, fun _ known => known⟩
  · exact .inr ⟨rfl, fun _ known => known⟩
  · exact .inl rfl

theorem hGlFenceSync_done (handled : proxy.hGlFenceSync handle answer = some after) :
    after.syncDoneGen = proxy.syncDoneGen := by
  rcases hGlFenceSync_cases handled with ⟨-, rfl⟩ | ⟨-, -, ⟨-, rfl⟩ | ⟨-, rfl⟩⟩
  · rfl
  · rfl
  · exact giveUp_done

end

/-! ## What is on its way -/

/-- The handle that a command enters at an index. -/
def entered (id : SyncId) : SyncCommand → Option UInt32
  | .glFenceSync handle => if syncId handle = id then some handle else none
  | _ => none

def Pending.entered (id : SyncId) : Pending → Option UInt32
  | .send command => Sync.entered id command
  | _ => none

namespace SyncSystem

variable (state : SyncSystem)

/-- The handles of an index that commands in the ring enter. -/
def sentFences (id : SyncId) : List UInt32 :=
  state.queue.filterMap fun (_, command) => entered id command

/-- Those that threads have still to send. -/
def unsentFences (id : SyncId) : List UInt32 :=
  state.pending.filterMap fun (_, pending) => pending.entered id

end SyncSystem

/-- A live handle is the last of its index that is entered, or was entered. -/
structure Last (state : SyncSystem) (handle : UInt32) : Prop where
  unsent : ∀ other ∈ state.unsentFences (syncId handle), other = handle
  ends : state.sentFences (syncId handle) ++ state.unsentFences (syncId handle) = [] ∨
    ∃ older, handle ∉ older ∧
      state.sentFences (syncId handle) ++ state.unsentFences (syncId handle) = older ++ [handle]

structure Steady (state : SyncSystem) : Prop where
  used : ∀ id, state.InUse id → state.stub.gSyncUsed id = true
  unique : ∀ handle other, state.live handle = true → state.live other = true →
    syncId handle = syncId other → handle = other
  last : ∀ handle, state.live handle = true → Last state handle
  settled : ∀ handle, state.live handle = true → Known state.proxy handle →
    state.sentFences (syncId handle) ++ state.unsentFences (syncId handle) = [] ∧
      Alone state.proxy handle

section

variable {state next : SyncSystem} {input : SystemInput} {handle : UInt32}

theorem Steady.zero : Steady SyncSystem.zero where
  used id used := by
    rcases used with ⟨handle, live, -⟩ | ⟨call, handle, mem, -⟩
    · cases live
    · cases mem
  unique _ _ live := by cases live
  last _ live := by cases live
  settled _ live := by cases live

/-- The lists of a handle that stays live are as they were, and the proxy learns
nothing of it. -/
theorem Steady.frame (steady : Steady state)
    (used : ∀ id, next.InUse id → next.stub.gSyncUsed id = true)
    (live : ∀ handle, next.live handle = true → state.live handle = true)
    (lists : ∀ id, next.sentFences id = state.sentFences id ∧
      next.unsentFences id = state.unsentFences id)
    (quiet : Quiet state.proxy next.proxy) : Steady next where
  used := used
  unique handle other here there := steady.unique handle other (live handle here) (live other there)
  last handle here := by
    obtain ⟨unsent, ends⟩ := steady.last handle (live handle here)
    refine ⟨?_, ?_⟩
    · rw [(lists _).2]
      exact unsent
    · rw [(lists _).1, (lists _).2]
      exact ends
  settled handle here known := by
    obtain ⟨none, alone⟩ := steady.settled handle (live handle here) (quiet.known handle known)
    rw [(lists _).1, (lists _).2]
    exact ⟨none, quiet.alone handle alone⟩

theorem Quiet.refl {proxy : SyncProxy} : Quiet proxy proxy :=
  ⟨fun _ known => known, fun _ alone => alone⟩

theorem unsentFences_begin {pending : Pending} (id : SyncId) :
    (state.begin pending).unsentFences id = state.unsentFences id ++ (pending.entered id).toList := by
  simp only [SyncSystem.unsentFences, SyncSystem.begin, List.filterMap_append]
  cases entered : pending.entered id <;> simp [entered]

theorem mem_unsentFences {id : SyncId} (mem : handle ∈ state.unsentFences id) :
    syncId handle = id ∧ ∃ call, (call, .send (.glFenceSync handle)) ∈ state.pending := by
  obtain ⟨⟨call, pending⟩, mem, shape⟩ := List.mem_filterMap.mp mem
  cases pending with
  | delete | free => cases shape
  | send command =>
      cases command with
      | glFenceSync other =>
          obtain ⟨here, same⟩ := Option.ite_none_right_eq_some.mp shape
          cases same
          exact ⟨here, call, mem⟩
      | glClientWaitSync | glWaitSync | glDeleteSync => cases shape

theorem mem_sentFences {id : SyncId} (mem : handle ∈ state.sentFences id) :
    syncId handle = id ∧ ∃ call, (call, .glFenceSync handle) ∈ state.queue := by
  obtain ⟨⟨call, command⟩, mem, shape⟩ := List.mem_filterMap.mp mem
  cases command with
  | glFenceSync other =>
      obtain ⟨here, same⟩ := Option.ite_none_right_eq_some.mp shape
      cases same
      exact ⟨here, call, mem⟩
  | glClientWaitSync | glWaitSync | glDeleteSync => cases shape

/-- A call that gives no handle out. -/
theorem Steady.begin (steady : Steady state) {pending : Pending}
    (other : ∀ id, pending.entered id = none) : Steady (state.begin pending) := by
  refine steady.frame (fun id used => steady.used id ?_) (fun _ live => live)
    (fun id => ⟨rfl, ?_⟩) Quiet.refl
  · rcases used with live | ⟨call, handle, mem, same⟩
    · exact .inl live
    · rcases List.mem_append.mp mem with before | new
      · exact .inr ⟨call, handle, before, same⟩
      · obtain ⟨-, shape⟩ := Prod.mk.inj (List.mem_singleton.mp new)
        have here := other (syncId handle)
        rw [← shape] at here
        simp [Pending.entered, entered] at here
  · rw [unsentFences_begin, other id]
    simp

theorem unsentFences_give {stub : SyncStub} (id : SyncId) :
    (state.give stub handle).unsentFences id =
      state.unsentFences id ++ if syncId handle = id then [handle] else [] := by
  have begun : (state.give stub handle).unsentFences id =
      (state.begin (.send (.glFenceSync handle))).unsentFences id := rfl
  rw [begun, unsentFences_begin]
  simp only [Pending.entered, entered]
  split <;> rfl

/-- The new handle is the last of its index, of which the proxy knows nothing. -/
theorem Steady.give (steady : Steady state) {stub : SyncStub}
    (given : state.stub.bridgeSyncAlloc = some (stub, handle)) (gone : state.Forgotten handle) :
    Steady (state.give stub handle) := by
  obtain ⟨-, -, unused, after, -⟩ := bridgeSyncAlloc_some given
  have free : ¬ state.InUse (syncId handle) := fun used => by
    rw [steady.used _ used] at unused
    cases unused
  have elsewhere {other : UInt32} (apart : other ≠ handle)
      (live : (state.give stub handle).live other = true) :
      state.live other = true ∧ syncId other ≠ syncId handle := by
    have before : state.live other = true := (Function.update_of_ne apart _ _).symm.trans live
    exact ⟨before, fun same => free (.inl ⟨other, before, same⟩)⟩
  have unsent : state.unsentFences (syncId handle) = [] := by
    refine List.eq_nil_iff_forall_not_mem.mpr fun other mem => ?_
    obtain ⟨here, call, mem⟩ := mem_unsentFences mem
    exact free (.inr ⟨call, other, mem, here⟩)
  have unknown : ¬ Known state.proxy handle := by
    rintro (found | ⟨entry, mem, same⟩ | done)
    · exact found gone.table
    · exact gone.list entry mem same
    · exact Bool.false_ne_true (gone.marked.symm.trans done)
  have same {id : SyncId} (apart : id ≠ syncId handle) :
      (state.give stub handle).unsentFences id = state.unsentFences id := by
    rw [unsentFences_give, if_neg apart.symm, List.append_nil]
  have self : (state.give stub handle).unsentFences (syncId handle) = [handle] := by
    rw [unsentFences_give, unsent, if_pos rfl, List.nil_append]
  have sent (id : SyncId) : (state.give stub handle).sentFences id = state.sentFences id := rfl
  have kept {id : SyncId} (used : state.stub.gSyncUsed id = true) : stub.gSyncUsed id = true := by
    rw [after]
    by_cases here : id = syncId handle
    · simp [here]
    · rwa [Function.update_of_ne here]
  have taken : stub.gSyncUsed (syncId handle) = true := by rw [after, Function.update_self]
  constructor
  · rintro id (⟨other, live, here⟩ | ⟨call, other, mem, here⟩)
    · by_cases new : other = handle
      · rw [← here, new]
        exact taken
      · exact kept (steady.used id (.inl ⟨other, (elsewhere new live).1, here⟩))
    · rcases List.mem_append.mp mem with before | new
      · exact kept (steady.used id (.inr ⟨call, other, before, here⟩))
      · cases List.mem_singleton.mp new
        rw [← here]
        exact taken
  · intro left right here there index
    by_cases new : left = handle
    · by_cases also : right = handle
      · rw [new, also]
      · rw [new] at index
        exact absurd index.symm (elsewhere also there).2
    · by_cases also : right = handle
      · rw [also] at index
        exact absurd index (elsewhere new here).2
      · exact steady.unique left right (elsewhere new here).1 (elsewhere also there).1 index
  · intro other live
    by_cases new : other = handle
    · subst new
      refine ⟨fun third mem => ?_, .inr ⟨state.sentFences (syncId other), fun mem => ?_, ?_⟩⟩
      · rw [self] at mem
        exact List.mem_singleton.mp mem
      · obtain ⟨-, call, mem⟩ := mem_sentFences mem
        exact gone.sent call mem
      · rw [self, sent]
    · obtain ⟨before, apart⟩ := elsewhere new live
      obtain ⟨only, ends⟩ := steady.last other before
      exact ⟨by rw [same apart]; exact only, by rw [same apart, sent]; exact ends⟩
  · intro other live known
    by_cases new : other = handle
    · rw [new] at known
      exact absurd known unknown
    · obtain ⟨before, apart⟩ := elsewhere new live
      rw [same apart, sent]
      exact steady.settled other before known

theorem filterMap_eraseIdx_length {α β : Type} {f : α → Option β} {list : List α} {place : Nat}
    {item : α} (found : list[place]? = some item) :
    ((list.eraseIdx place).filterMap f).length + (f item).toList.length =
      (list.filterMap f).length := by
  obtain ⟨below, here⟩ := List.getElem?_eq_some_iff.mp found
  have mapped := ((List.getElem_cons_eraseIdx_perm below).filterMap f).length_eq
  rw [here] at mapped
  rw [← mapped, List.filterMap_cons]
  cases f item <;> simp

theorem filterMap_eraseIdx_none {α β : Type} {f : α → Option β} {list : List α} {place : Nat}
    {item : α} (found : list[place]? = some item) (none : f item = none) :
    (list.eraseIdx place).filterMap f = list.filterMap f := by
  induction list generalizing place with
  | nil => rfl
  | cons first rest ih =>
      cases place with
      | zero =>
          cases found
          simp [none]
      | succ place =>
          rw [List.eraseIdx_cons_succ, List.filterMap_cons, List.filterMap_cons, ih found]

/-- What a thread has still to enter at a live index is the handle, once. -/
theorem Last.unsent_eq (last : Last state handle)
    (mem : handle ∈ state.unsentFences (syncId handle)) :
    state.unsentFences (syncId handle) = [handle] ∧ handle ∉ state.sentFences (syncId handle) := by
  obtain ⟨only, ends⟩ := last
  rcases ends with none | ⟨older, fresh, ends⟩
  · rw [(List.append_eq_nil_iff.mp none).2] at mem
    cases mem
  · rcases List.eq_nil_or_concat (state.unsentFences (syncId handle)) with empty | ⟨front, final, shape⟩
    · rw [empty] at mem
      cases mem
    · rw [shape, List.concat_eq_append] at ends only ⊢
      rw [← List.append_assoc] at ends
      obtain ⟨before, same⟩ := List.append_inj' ends rfl
      have front_nil : front = [] := by
        refine List.eq_nil_iff_forall_not_mem.mpr fun other inFront => fresh ?_
        rw [← before, ← only other (List.mem_append_left _ inFront)]
        exact List.mem_append_right _ inFront
      rw [front_nil] at before ⊢
      rw [List.append_nil] at before
      exact ⟨same, by rw [before]; exact fresh⟩

/-- A command goes from its thread to the ring, and the thread may go on. -/
theorem Steady.send (steady : Steady state) {place call : Nat} {pending : Pending}
    {command : SyncCommand} (rest : List (Numbered Pending))
    (found : state.pending[place]? = some (call, pending))
    (carries : ∀ id, pending.entered id = entered id command)
    (quiet : ∀ item ∈ rest, ∀ id, item.2.entered id = none) :
    Steady { state with
      pending := state.pending.eraseIdx place ++ rest
      queue := state.queue ++ [(call, command)] } := by
  generalize shape : ({ state with
    pending := state.pending.eraseIdx place ++ rest
    queue := state.queue ++ [(call, command)] } : SyncSystem) = next
  have proxy : next.proxy = state.proxy := by rw [← shape]
  have live : next.live = state.live := by rw [← shape]
  have stub : next.stub = state.stub := by rw [← shape]
  have pendings : next.pending = state.pending.eraseIdx place ++ rest := by rw [← shape]
  have queue : next.queue = state.queue ++ [(call, command)] := by rw [← shape]
  have added (id : SyncId) : rest.filterMap (fun item => item.2.entered id) = [] :=
    List.filterMap_eq_nil_iff.mpr fun item mem => quiet item mem id
  have sent (id : SyncId) :
      next.sentFences id = state.sentFences id ++ (entered id command).toList := by
    simp only [SyncSystem.sentFences, queue, List.filterMap_append]
    cases enters : entered id command <;> simp [enters]
  have split (id : SyncId) : next.unsentFences id =
      (state.pending.eraseIdx place).filterMap fun item => item.2.entered id := by
    have parts : next.unsentFences id =
        ((state.pending.eraseIdx place).filterMap fun item => item.2.entered id) ++
          rest.filterMap fun item => item.2.entered id := by
      rw [← List.filterMap_append, ← pendings]
      rfl
    rw [parts, added, List.append_nil]
  have unsent {id : SyncId} (none : entered id command = none) :
      next.unsentFences id = state.unsentFences id := by
    rw [split]
    exact filterMap_eraseIdx_none found ((carries id).trans none)
  -- At a live index the thread had only the handle itself to send.
  have moved {handle : UInt32} (last : Last state handle) {other : UInt32}
      (enters : entered (syncId handle) command = some other) :
      other = handle ∧ state.unsentFences (syncId handle) = [handle] ∧
        handle ∉ state.sentFences (syncId handle) ∧ next.unsentFences (syncId handle) = [] := by
    have member : other ∈ state.unsentFences (syncId handle) :=
      List.mem_filterMap.mpr ⟨(call, pending), List.mem_of_getElem? found, (carries _).trans enters⟩
    obtain rfl := last.unsent other member
    obtain ⟨only, fresh⟩ := last.unsent_eq member
    have erased : next.unsentFences (syncId other) = [] := by
      have length := filterMap_eraseIdx_length (f := fun item => item.2.entered (syncId other)) found
      have whole : (state.pending.filterMap fun item => item.2.entered (syncId other)) = [other] :=
        only
      rw [whole, (carries _).trans enters] at length
      rw [split]
      exact List.eq_nil_of_length_eq_zero (by simpa using length)
    exact ⟨rfl, only, fresh, erased⟩
  constructor
  · intro id used
    rw [stub]
    refine steady.used id (used.imp (fun ⟨handle, here, same⟩ => ⟨handle, live ▸ here, same⟩) ?_)
    rintro ⟨number, handle, mem, same⟩
    rw [pendings] at mem
    rcases List.mem_append.mp mem with before | new
    · exact ⟨number, handle, List.mem_of_mem_eraseIdx before, same⟩
    · have none := quiet _ new (syncId handle)
      simp [Pending.entered, entered] at none
  · rw [live]
    exact steady.unique
  · intro handle here
    rw [live] at here
    have last := steady.last handle here
    cases enters : entered (syncId handle) command with
    | none =>
        obtain ⟨only, ends⟩ := last
        refine ⟨by rw [unsent enters]; exact only, ?_⟩
        rw [sent, unsent enters, enters]
        simpa using ends
    | some other =>
        obtain ⟨rfl, -, fresh, empty⟩ := moved last enters
        refine ⟨fun third mem => ?_, .inr ⟨state.sentFences (syncId other), fresh, ?_⟩⟩
        · rw [empty] at mem
          cases mem
        · rw [sent, empty, enters, List.append_nil]
          rfl
  · intro handle here known
    rw [live] at here
    rw [proxy] at known ⊢
    obtain ⟨none, alone⟩ := steady.settled handle here known
    refine ⟨?_, alone⟩
    cases enters : entered (syncId handle) command with
    | none =>
        rw [sent, unsent enters, enters]
        simpa using none
    | some other =>
        obtain ⟨-, only, -⟩ := moved (steady.last handle here) enters
        rw [only] at none
        simp at none

theorem Steady.advance (steady : Steady state) {place : Nat}
    (free : ∀ call handle, state.pending[place]? = some (call, .free handle) →
      ¬ state.InUse (syncId handle))
    (stepped : state.advance place = some next) : Steady next := by
  obtain ⟨⟨call, pending⟩, found, rfl⟩ := Option.map_eq_some_iff.mp stepped
  cases pending with
  | send command =>
      have sent := steady.send [] found (fun _ => rfl) fun _ mem => by cases mem
      rw [List.append_nil] at sent
      exact sent
  | delete handle =>
      refine steady.send [(call, .free handle)] found (fun _ => rfl) fun item mem id => ?_
      rw [List.mem_singleton.mp mem]
      rfl
  | free handle =>
      refine steady.frame (fun id used => ?_) (fun _ live => live)
        (fun id => ⟨rfl, filterMap_eraseIdx_none found rfl⟩) Quiet.refl
      have before : state.InUse id := used.imp_right fun ⟨number, other, mem, same⟩ =>
        ⟨number, other, List.mem_of_mem_eraseIdx mem, same⟩
      have apart : id ≠ syncId handle := fun same => free call handle found (same ▸ before)
      simp only [SyncStub.bridgeSyncFree]
      split
      · exact steady.used id before
      · exact (Function.update_of_ne apart _ _).trans (steady.used id before)

/-! ## The proxy's turn -/

/-- A fence is entered, which is not the last of its index unless it is the live one. -/
theorem Steady.enter (steady : Steady state) {call : Nat} {answer : UInt32} {proxy : SyncProxy}
    {rest : List (Numbered SyncCommand)} {created : List (Nat × Nat)}
    (order : state.queue = (call, .glFenceSync handle) :: rest)
    (handled : state.proxy.hGlFenceSync handle answer = some proxy) :
    Steady { state with queue := rest, proxy, created } := by
  generalize shape : ({ state with queue := rest, proxy, created } : SyncSystem) = next
  have proxyNow : next.proxy = proxy := by rw [← shape]
  have live : next.live = state.live := by rw [← shape]
  have stub : next.stub = state.stub := by rw [← shape]
  have used {id : SyncId} : next.InUse id ↔ state.InUse id := by rw [← shape]; rfl
  have unsent (id : SyncId) : next.unsentFences id = state.unsentFences id := by
    rw [← shape]
    rfl
  have elsewhere {id : SyncId} (apart : syncId handle ≠ id) :
      next.sentFences id = state.sentFences id := by
    rw [← shape]
    simp [SyncSystem.sentFences, order, entered, apart]
  have here {other : UInt32} (same : syncId other = syncId handle) :
      state.sentFences (syncId other) = handle :: next.sentFences (syncId other) := by
    rw [← shape]
    simp [SyncSystem.sentFences, order, entered, same]
  have blocked {other : UInt32} (same : syncId other = syncId handle)
      (living : state.live other = true) : ¬ Known state.proxy other := fun known => by
    have none := (steady.settled other living known).1
    rw [here same] at none
    cases none
  constructor
  · intro id inUse
    rw [stub]
    exact steady.used id (used.mp inUse)
  · rw [live]
    exact steady.unique
  · intro other living
    rw [live] at living
    obtain ⟨only, ends⟩ := steady.last other living
    refine ⟨by rw [unsent]; exact only, ?_⟩
    rw [unsent]
    by_cases same : syncId other = syncId handle
    · rw [here same] at ends
      rcases ends with none | ⟨older, fresh, ends⟩
      · cases none
      · cases older with
        | nil => exact .inl (List.cons.inj ends).2
        | cons first older =>
            exact .inr ⟨older, fun mem => fresh (List.mem_cons_of_mem _ mem), (List.cons.inj ends).2⟩
    · rw [elsewhere (Ne.symm same)]
      exact ends
  · intro other living known
    rw [live] at living
    rw [proxyNow] at known ⊢
    rw [unsent]
    by_cases new : other = handle
    · subst new
      rcases hGlFenceSync_syncs handled with syncs | ⟨-, quiet⟩
      · refine ⟨?_, fun _ => ?_⟩
        · obtain ⟨-, ends⟩ := steady.last other living
          rw [here rfl] at ends
          rcases ends with none | ⟨older, fresh, ends⟩
          · cases none
          · cases older with
            | nil => exact (List.cons.inj ends).2
            | cons first older =>
                have same := (List.cons.inj ends).1
                exact absurd (by rw [same]; exact List.mem_cons_self) fresh
        · rw [syncs, Function.update_self]
      · exact absurd (quiet other known) (blocked rfl living)
    · have before := hGlFenceSync_quiet handled new known
      have apart : syncId other ≠ syncId handle := fun same => blocked same living before
      obtain ⟨none, alone⟩ := steady.settled other living before
      rw [elsewhere apart.symm]
      refine ⟨none, ?_⟩
      unfold Alone
      rcases hGlFenceSync_syncs handled with syncs | ⟨syncs, -⟩
      · rw [syncs, Function.update_of_ne apart]
        exact alone
      · rw [syncs]
        exact alone

/-- The handler of the next command, and what it leaves in the ring. -/
theorem Steady.serve (steady : Steady state) {answers : SyncAnswers}
    (stepped : state.serve answers = some next) : Steady next := by
  unfold SyncSystem.serve at stepped
  cases order : state.queue with
  | nil =>
      rw [order] at stepped
      cases stepped
  | cons head rest =>
      obtain ⟨call, command⟩ := head
      rw [order] at stepped
      obtain ⟨proxy, handled, rfl⟩ := Option.map_eq_some_iff.mp stepped
      have quietly (none : ∀ id, entered id command = none) (quiet : Quiet state.proxy proxy) :
          Steady { state with
            queue := rest
            proxy
            created := state.made call command answers ++ state.created } := by
        refine steady.frame steady.used (fun _ live => live) (fun id => ⟨?_, rfl⟩) quiet
        simp [SyncSystem.sentFences, order, none id]
      cases command with
      | glFenceSync handle =>
          obtain ⟨-, handled⟩ := Option.ite_none_right_eq_some.mp handled
          exact steady.enter order handled
      | glClientWaitSync handle mode =>
          obtain ⟨⟨ready, left, result⟩, handled, ended⟩ := Option.bind_eq_some_iff.mp handled
          obtain ⟨-, same⟩ := Option.ite_none_right_eq_some.mp ended
          cases same
          exact quietly (fun _ => rfl) (Quiet.hGlClientWaitSync handled)
      | glWaitSync handle =>
          obtain ⟨-, same⟩ := Option.ite_none_right_eq_some.mp handled
          cases same
          exact quietly (fun _ => rfl) Quiet.hGlWaitSync
      | glDeleteSync handle =>
          obtain ⟨-, same⟩ := Option.ite_none_right_eq_some.mp handled
          cases same
          exact quietly (fun _ => rfl) Quiet.hGlDeleteSync

theorem Steady.step (steady : Steady state) (keeps : KeepsDone state input)
    (stepped : syncSystem.step state input = some next) : Steady next := by
  cases input with
  | glFenceSync =>
      cases stepped
      unfold SyncSystem.glFenceSync
      cases given : state.stub.bridgeSyncAlloc with
      | none => exact steady
      | some made => exact steady.give given (keeps.1 rfl made given)
  | glClientWaitSync handle timeout fast =>
      cases stepped
      unfold SyncSystem.glClientWaitSync
      cases Stub.glClientWaitSync state.proxy.syncDoneGen handle timeout fast with
      | fast => exact steady
      | send mode => exact steady.begin fun _ => rfl
  | glWaitSync handle =>
      cases stepped
      exact steady.begin fun _ => rfl
  | glDeleteSync handle =>
      cases stepped
      unfold SyncSystem.glDeleteSync
      split
      · exact steady
      · have begun : Steady (state.begin (.delete handle)) := steady.begin fun _ => rfl
        have live (other : UInt32) (still : Function.update state.live handle false other = true) :
            state.live other = true := by
          by_cases here : other = handle
          · simp [here] at still
          · rwa [Function.update_of_ne here] at still
        refine begun.frame (fun id used => begun.used id ?_) live (fun _ => ⟨rfl, rfl⟩) Quiet.refl
        exact used.imp_left fun ⟨other, still, same⟩ => ⟨other, live other still, same⟩
  | advance place => exact steady.advance (fun call handle => keeps.2.1 place call handle rfl) stepped
  | serve answers => exact steady.serve stepped
  | resolve waits =>
      obtain ⟨proxy, resolved, rfl⟩ := Option.map_eq_some_iff.mp stepped
      obtain ⟨⟨ready, rest⟩, each, ended⟩ := Option.bind_eq_some_iff.mp resolved
      obtain ⟨-, same⟩ := Option.ite_none_right_eq_some.mp ended
      cases same
      exact steady.frame steady.used (fun _ live => live) (fun _ => ⟨rfl, rfl⟩)
        (Quiet.resolve each)
  | signal fence =>
      cases stepped
      exact steady.frame steady.used (fun _ live => live) (fun _ => ⟨rfl, rfl⟩)
        ⟨fun _ known => known, fun _ alone => alone⟩

end

end GlesBridge.Sync
