import GlesBridge.Ring.Send

namespace GlesBridge.Ring

open GlesBridge.Data GlesBridge.Systems

/-! How far `bridge_send_swap` lets a client run ahead of the proxy. -/

variable {cfg : Config} {Tid Gl : Type}

/-! ## Histories -/

def Event.swap? : Event Tid Gl → Option Nat
  | .published _ seq .swap _ => some seq
  | _ => none

def Event.swapReturn? : Event Tid Gl → Option Nat
  | .returned _ seq .swap _ => some seq
  | _ => none

def swaps (trace : List (Event Tid Gl)) : List Nat := trace.filterMap Event.swap?

/-- The swaps whose `bridge_send_swap` has returned, in order. -/
def swapReturns (trace : List (Event Tid Gl)) : List Nat := trace.filterMap Event.swapReturn?

theorem swaps_snoc (trace : List (Event Tid Gl)) (e : Event Tid Gl) :
    swaps (trace ++ [e]) = swaps trace ++ e.swap?.toList := by
  cases found : e.swap? <;> simp [swaps, found]

theorem swapReturns_snoc (trace : List (Event Tid Gl)) (e : Event Tid Gl) :
    swapReturns (trace ++ [e]) = swapReturns trace ++ e.swapReturn?.toList := by
  cases found : e.swapReturn? <;> simp [swapReturns, found]

/-! ## The phases of a swap -/

/-- A swap under way has recorded itself in `g_pending_swap_seq` or not yet. -/
inductive SwapPhase where
  | unrecorded
  | recorded
deriving DecidableEq, Repr

def Pc.swapPhase : Pc → Option SwapPhase
  | .loadWaiting mode | .postReq mode | .wait mode _ _ | .finish mode =>
      if mode = .swap then some .unrecorded else none
  | .unlock mode _ => if mode = .swap then some .recorded else none
  | _ => none

theorem Pc.swapPhase_of_unsent {pc : Pc} (unsent : pc.sent = none) : pc.swapPhase = none := by
  cases pc <;> first | rfl | cases unsent

theorem Pc.sending_of_swapPhase {pc : Pc} {phase : SwapPhase} (active : pc.swapPhase = some phase) :
    pc.stage = .sending := by
  cases pc <;> first | rfl | cases active

theorem Pc.swapPhase_of_idle {pc : Pc} (idle : pc.stage ≠ .sending) : pc.swapPhase = none := by
  cases active : pc.swapPhase with
  | none => rfl
  | some phase => exact (idle (Pc.sending_of_swapPhase active)).elim

variable [DecidableEq Tid] {proxy : Dispatcher Gl} {s s' : State cfg Tid Gl} {e : Event Tid Gl}
  {t u : Tid} {trace : List (Event Tid Gl)} {phase : SwapPhase}

omit [DecidableEq Tid] in
theorem State.afterPublish_swapPhase (s : State cfg Tid Gl) (t : Tid) (mode : SendMode) :
    (s.afterPublish t mode).swapPhase = (Pc.loadWaiting mode).swapPhase := by
  cases mode <;> simp only [State.afterPublish]
  · rfl
  · rfl
  · split_ifs <;> rfl

/-- The steps sorted by what they do to the swaps. -/
inductive SwapMove (s : State cfg Tid Gl) : Event Tid Gl → State cfg Tid Gl → Prop where
  | keep {e : Event Tid Gl} {s' : State cfg Tid Gl} (unpublished : e.swap? = none) (unreturned : e.swapReturn? = none)
      (phase : ∀ t, (s'.threads t).pc.swapPhase = (s.threads t).pc.swapPhase)
      (curSeq : ∀ t phase, (s.threads t).pc.swapPhase = some phase →
        (s'.threads t).curSeq = (s.threads t).curSeq)
      (pending : s'.pendingSwap? = s.pendingSwap?) : SwapMove s e s'
  | publish {t : Tid} {slot : BridgeCtrl} (filling : (s.threads t).pc.stage = .filling) :
      SwapMove s (.published t (s.threads t).curSeq .swap slot) (s.publishCur t .swap)
  | finish {t : Tid} (here : (s.threads t).pc = .finish .swap) :
      SwapMove s (.quiet (some t)) (s.finishSwap t)
  | unlock {t : Tid} {value : UInt64} (here : (s.threads t).pc = .unlock .swap value) :
      SwapMove s (.returned t (s.threads t).curSeq .swap value) (s.release t .swap)

theorem Step.swapPhase (taken : Step proxy s e s') (unpublished : e.swap? = none)
    (unreturned : e.swapReturn? = none)
    (unfinished : ∀ t, (s.threads t).pc = .finish .swap → e.actor ≠ some t) (t : Tid) :
    (s'.threads t).pc.swapPhase = (s.threads t).pc.swapPhase ∧
      ∀ phase, (s.threads t).pc.swapPhase = some phase →
        (s'.threads t).curSeq = (s.threads t).curSeq := by
  rcases taken.advance t with same | ⟨idle, unsent⟩ | advance
  · rw [same]
    exact ⟨rfl, fun _ _ => rfl⟩
  · have before := Pc.swapPhase_of_idle idle
    rw [before, Pc.swapPhase_of_unsent unsent]
    exact ⟨rfl, nofun⟩
  cases advance with
  | publish mode here =>
      simp only [State.publishCur, State.setPc_self, here]
      cases mode with
      | swap => cases unpublished
      | void | call => exact ⟨rfl, nofun⟩
  | loadWaiting here =>
      rw [State.setPc_self, here]
      refine ⟨?_, fun _ _ => rfl⟩
      simp only
      split_ifs
      · rfl
      · exact s.afterPublish_swapPhase t _
  | postReq here =>
      rw [State.setPc_self, here]
      exact ⟨s.afterPublish_swapPhase t _, fun _ _ => rfl⟩
  | waitDone here | waitMiss _ here | efdWait here =>
      rw [State.setPc_self, here]
      exact ⟨rfl, fun _ _ => rfl⟩
  | copyReply here =>
      rw [State.copyReply_self, here]
      exact ⟨rfl, nofun⟩
  | finishSwap here => exact (unfinished t here rfl).elim
  | @unlock mode value here =>
      rw [State.release_self, here]
      cases mode with
      | swap => cases unreturned
      | void | call => exact ⟨rfl, nofun⟩

theorem Step.swapMove (taken : Step proxy s e s') : SwapMove s e s' := by
  by_cases finishing : ∃ t, (s.threads t).pc = .finish .swap ∧ e.actor = some t
  · obtain ⟨t, here, acts⟩ := finishing
    have advance := taken.of_sending acts (by rw [here]; rfl)
    cases advance with
    | finishSwap => exact .finish here
    | publish _ other | loadWaiting other | postReq other | waitDone other | waitMiss _ other
    | efdWait other | copyReply other | unlock other =>
        rw [here] at other
        cases other
  have unfinished : ∀ t, (s.threads t).pc = .finish .swap → e.actor ≠ some t :=
    fun t here acts => finishing ⟨t, here, acts⟩
  have keep (unpublished : e.swap? = none) (unreturned : e.swapReturn? = none) :
      SwapMove s e s' := by
    refine .keep unpublished unreturned
      (fun t => (taken.swapPhase unpublished unreturned unfinished t).1)
      (fun t => (taken.swapPhase unpublished unreturned unfinished t).2) ?_
    rcases taken.pendingSwap with ⟨pending, pends⟩ | ⟨t, -, here, rfl, -⟩
    · simp only [State.pendingSwap?, pending, pends]
    · exact (unfinished t here rfl).elim
  cases taken with
  | publish mode here =>
      cases mode with
      | swap => exact .publish (by rw [here]; rfl)
      | void | call => exact keep rfl rfl
  | @unlock t mode value here =>
      cases mode with
      | swap => exact .unlock here
      | void | call => exact keep rfl rfl
  | _ => exact keep rfl rfl

omit [DecidableEq Tid] in
/-- A thread inside the bridge keeps every other one out of a swap. -/
theorem Counters.others_unswapping (counters : Counters s)
    (inside : (s.threads t).pc.stage ≠ .outside) (u : Tid) (different : u ≠ t) :
    (s.threads u).pc.swapPhase = none :=
  Pc.swapPhase_of_idle (by simp [counters.others_outside inside u different])

theorem Step.others_unswapping (taken : Step proxy s e s') (counters : Counters s)
    (acts : e.actor = some t) (inside : (s.threads t).pc.stage ≠ .outside) (u : Tid)
    (different : u ≠ t) : (s'.threads u).pc.swapPhase = none := by
  rw [taken.threads_of_apart acts different]
  exact counters.others_unswapping inside u different

structure Swaps (trace : List (Event Tid Gl)) (s : State cfg Tid Gl) : Prop where
  idle : (∀ t, (s.threads t).pc.swapPhase = none) → swaps trace = swapReturns trace
  active : ∀ t phase, (s.threads t).pc.swapPhase = some phase →
    swaps trace = swapReturns trace ++ [(s.threads t).curSeq]
  pending : cfg.asyncSwap = true → (∀ t, (s.threads t).pc.swapPhase ≠ some .recorded) →
    s.pendingSwap? = (swapReturns trace).getLast?
  recorded : ∀ t, (s.threads t).pc.swapPhase = some .recorded →
    (cfg.asyncSwap = true → s.pendingSwap? = some (s.threads t).curSeq ∧
      ∀ previous, (swapReturns trace).getLast? = some previous → previous < s.completedSeq) ∧
    (cfg.asyncSwap = false → (s.threads t).curSeq < s.completedSeq)

namespace Swaps

omit [DecidableEq Tid] in
theorem keep (holds : Swaps trace s) (grows : s.completedSeq ≤ s'.completedSeq)
    (unpublished : e.swap? = none) (unreturned : e.swapReturn? = none)
    (phases : ∀ t, (s'.threads t).pc.swapPhase = (s.threads t).pc.swapPhase)
    (curSeq : ∀ t phase, (s.threads t).pc.swapPhase = some phase →
      (s'.threads t).curSeq = (s.threads t).curSeq)
    (pending : s'.pendingSwap? = s.pendingSwap?) : Swaps (trace ++ [e]) s' := by
  have sameSwaps : swaps (trace ++ [e]) = swaps trace := by simp [swaps_snoc, unpublished]
  have sameReturns : swapReturns (trace ++ [e]) = swapReturns trace := by
    simp [swapReturns_snoc, unreturned]
  constructor
  case idle =>
    intro none
    rw [sameSwaps, sameReturns]
    exact holds.idle fun t => phases t ▸ none t
  case active =>
    intro t phase active
    rw [phases] at active
    rw [sameSwaps, sameReturns, curSeq t phase active]
    exact holds.active t phase active
  case pending =>
    intro async none
    rw [sameReturns, pending]
    exact holds.pending async fun t => phases t ▸ none t
  case recorded =>
    intro t recorded
    rw [phases] at recorded
    rw [sameReturns, pending, curSeq t _ recorded]
    obtain ⟨async, sync⟩ := holds.recorded t recorded
    exact ⟨fun isAsync => ⟨(async isAsync).1, fun previous last =>
      ((async isAsync).2 previous last).trans_le grows⟩, fun isSync =>
      (sync isSync).trans_le grows⟩

omit [DecidableEq Tid] in
/-- When no other thread is in a swap, only `t` has to be looked at. -/
theorem ofThread (others : ∀ u, u ≠ t → (s.threads u).pc.swapPhase = none)
    (idle : (s.threads t).pc.swapPhase = none → swaps trace = swapReturns trace)
    (active : (s.threads t).pc.swapPhase ≠ none →
      swaps trace = swapReturns trace ++ [(s.threads t).curSeq])
    (pending : cfg.asyncSwap = true → (s.threads t).pc.swapPhase ≠ some .recorded →
      s.pendingSwap? = (swapReturns trace).getLast?)
    (recorded : (s.threads t).pc.swapPhase = some .recorded →
      (cfg.asyncSwap = true → s.pendingSwap? = some (s.threads t).curSeq ∧
        ∀ previous, (swapReturns trace).getLast? = some previous → previous < s.completedSeq) ∧
      (cfg.asyncSwap = false → (s.threads t).curSeq < s.completedSeq)) : Swaps trace s where
  idle none := idle (none t)
  active u phase now := by
    by_cases same : u = t
    · subst same
      exact active (by simp [now])
    · rw [others u same] at now
      cases now
  pending async none := pending async (none t)
  recorded u now := by
    by_cases same : u = t
    · subst same
      exact recorded now
    · rw [others u same] at now
      cases now

theorem publish (holds : Swaps trace s) (counters : Counters s) {slot : BridgeCtrl}
    (filling : (s.threads t).pc.stage = .filling)
    (taken : Step proxy s (.published t (s.threads t).curSeq .swap slot) (s.publishCur t .swap)) :
    Swaps (trace ++ [.published t (s.threads t).curSeq .swap slot]) (s.publishCur t .swap) := by
  have inside : (s.threads t).pc.stage ≠ .outside := by simp [filling]
  have own : (s.threads t).pc.swapPhase = none := Pc.swapPhase_of_idle (by simp [filling])
  have idle : ∀ u, (s.threads u).pc.swapPhase = none := fun u =>
    if same : u = t then same ▸ own else counters.others_unswapping inside u same
  have self : (s.publishCur t .swap).threads t = { s.threads t with pc := .loadWaiting .swap } :=
    Function.update_self ..
  refine .ofThread (taken.others_unswapping counters rfl inside) ?_ ?_ ?_ ?_
  · simp [self, Pc.swapPhase]
  · intro _
    rw [swaps_snoc, swapReturns_snoc, holds.idle idle, self]
    exact congrArg (· ++ _) (List.append_nil _).symm
  · intro async _
    rw [swapReturns_snoc]
    have same := holds.pending async fun u recorded => by rw [idle u] at recorded; cases recorded
    exact same.trans (congrArg List.getLast? (List.append_nil _).symm)
  · simp [self, Pc.swapPhase]

/-- `bridge_send_swap` has waited for the swap before it when it records its own. -/
theorem finish (run : (bridge cfg Tid proxy).Run trace s) (holds : Swaps trace s)
    (here : (s.threads t).pc = .finish .swap)
    (taken : Step proxy s (.quiet (some t)) (s.finishSwap t)) :
    Swaps (trace ++ [.quiet (some t)]) (s.finishSwap t) := by
  have counters := Counters.of_run run
  have inside : (s.threads t).pc.stage ≠ .outside := by simp [here, Pc.stage]
  obtain ⟨value, threads⟩ := s.finishSwap_threads t
  have self : (s.finishSwap t).threads t = { s.threads t with pc := .unlock .swap value } := by
    rw [threads, Function.update_self]
  have phase : (s.threads t).pc.swapPhase = some .unrecorded := by rw [here]; rfl
  have before := holds.active t .unrecorded phase
  have unrecorded : ∀ u, (s.threads u).pc.swapPhase ≠ some .recorded := by
    intro u
    by_cases same : u = t
    · simp [same, phase]
    · simp [counters.others_unswapping inside u same]
  have awaited := ((Sent.of_run run t).awaited .swap here).2
  refine .ofThread (taken.others_unswapping counters rfl inside) ?_ ?_ ?_ ?_
  · simp [self, Pc.swapPhase]
  · intro _
    rw [swaps_snoc, swapReturns_snoc, before, self]
    simp [Event.swap?, Event.swapReturn?]
  · intro _ now
    rw [self] at now
    exact (now rfl).elim
  · intro _
    rw [self, swapReturns_snoc]
    simp only [State.waitTarget] at awaited
    refine ⟨fun async => ?_, fun sync => ?_⟩
    · simp only [State.finishSwap, if_pos async] at awaited ⊢
      refine ⟨rfl, fun previous last => awaited previous ?_⟩
      rw [holds.pending async unrecorded, ← last]
      exact congrArg List.getLast? (List.append_nil _).symm
    · have own := awaited (s.threads t).curSeq (by simp [sync])
      rw [State.finishSwap, if_neg (by simp [sync])]
      exact own

theorem unlock (holds : Swaps trace s) (counters : Counters s) {value : UInt64}
    (here : (s.threads t).pc = .unlock .swap value)
    (taken : Step proxy s (.returned t (s.threads t).curSeq .swap value) (s.release t .swap)) :
    Swaps (trace ++ [.returned t (s.threads t).curSeq .swap value]) (s.release t .swap) := by
  have self := s.release_self t .swap
  have inside : (s.threads t).pc.stage ≠ .outside := by simp [here, Pc.stage]
  have phase : (s.threads t).pc.swapPhase = some .recorded := by rw [here]; rfl
  refine .ofThread (taken.others_unswapping counters rfl inside) ?_ ?_ ?_ ?_
  · intro _
    rw [swaps_snoc, swapReturns_snoc, holds.active t .recorded phase]
    exact List.append_nil _
  · rw [self]
    exact fun now => (now rfl).elim
  · intro async _
    rw [swapReturns_snoc]
    exact ((holds.recorded t phase).1 async).1.trans List.getLast?_concat.symm
  · simp [self, Pc.swapPhase]

theorem step (run : (bridge cfg Tid proxy).Run trace s) (holds : Swaps trace s)
    (taken : Step proxy s e s') : Swaps (trace ++ [e]) s' := by
  have counters := Counters.of_run run
  cases taken.swapMove with
  | keep unpublished unreturned phases curSeq pending =>
      exact holds.keep (taken.completedSeq_le counters) unpublished unreturned phases curSeq pending
  | publish filling => exact holds.publish counters filling taken
  | finish here => exact holds.finish run here taken
  | unlock here => exact holds.unlock counters here taken

theorem of_run (run : (bridge cfg Tid proxy).Run trace s) : Swaps trace s := by
  induction run with
  | start initial =>
      obtain ⟨clientPid, gl, rfl⟩ := initial
      exact ⟨fun _ => rfl, nofun, fun _ _ => rfl, nofun⟩
  | step run taken ih => exact ih.step run taken

end Swaps

/-! ## Frames in flight -/

theorem completed_of_lt (run : (bridge cfg Tid proxy).Run trace s) {seq : Nat}
    (past : seq < s.completedSeq) : .completed seq ∈ trace := by
  induction run with
  | start initial =>
      obtain ⟨clientPid, gl, rfl⟩ := initial
      cases past
  | @step trace s e s' run taken ih =>
      rw [List.mem_append, List.mem_singleton]
      by_cases before : seq < s.completedSeq
      · exact .inl (ih before)
      right
      cases taken with
      | complete here =>
          have copy := (Counters.of_run run).proxyCopy
          have past : seq < s.completed + 1 := past
          rw [show seq = s.completed by omega]
      | finishSwap =>
          simp only [State.finishSwap] at past
          split at past <;> exact (before past).elim
      | _ => exact (before past).elim

/-- When `bridge_send_swap` returns for a swap, the swaps published are those
that have returned and this one. With `async_swap` every command up to the swap
before it is completed, and without it every command up to this swap. -/
theorem at_most_one_frame (run : (bridge cfg Tid proxy).Run trace s) {seq : Nat} {value : UInt64}
    (taken : Step proxy s (.returned t seq .swap value) s') :
    swaps trace = swapReturns trace ++ [seq] ∧
    (cfg.asyncSwap = true → ∀ previous, (swapReturns trace).getLast? = some previous →
      ∀ earlier, earlier ≤ previous → .completed earlier ∈ trace) ∧
    (cfg.asyncSwap = false → ∀ earlier, earlier ≤ seq → .completed earlier ∈ trace) := by
  cases taken with
  | unlock here =>
      have holds := Swaps.of_run run
      have phase : (s.threads t).pc.swapPhase = some .recorded := by rw [here]; rfl
      obtain ⟨async, sync⟩ := holds.recorded t phase
      refine ⟨holds.active t _ phase, fun isAsync previous last earlier upTo => ?_,
        fun isSync earlier upTo => ?_⟩
      · exact completed_of_lt run (upTo.trans_lt ((async isAsync).2 previous last))
      · exact completed_of_lt run (upTo.trans_lt (sync isSync))

theorem at_most_one_frame_two_swaps :
    ∃ trace, ∃ s next : State .default Bool Unit,
      (bridge .default Bool (.uniform (.constant 1))).Run trace s ∧
      Step (.uniform (.constant 1)) s (.returned false 1 .swap 1) next ∧
      swapReturns trace = [0] ∧ swaps trace = swapReturns trace ++ [1] ∧
      ∀ earlier, earlier ≤ 0 → .completed earlier ∈ trace := by
  have run : (bridge .default Bool (.uniform (.constant 1))).Run [] (.initial .default 1 ()) :=
    .start ⟨1, (), rfl⟩
  have run := run.step (.lock (t := true) rfl rfl)
  have run := run.step (.begin (t := true) rfl rfl)
  have run := run.step (.publish (t := true) .swap rfl)
  have run := run.step (.loadWaiting (t := true) rfl)
  have run := run.step (.finishSwap (t := true) rfl)
  have run := run.step (.unlock (t := true) rfl)
  have run := run.step (.lock (t := false) rfl rfl)
  have run := run.step (.begin (t := false) rfl rfl)
  have run := run.step (.publish (t := false) .swap rfl)
  have run := run.step (.loadWaiting (t := false) rfl)
  have run := run.step (.load rfl)
  have run := run.step (.dispatch rfl)
  have run := run.step (.release rfl)
  have run := run.step (.complete rfl)
  have run := run.step (.waitDone (t := false) rfl nofun (by decide))
  have run := run.step (.finishSwap (t := false) rfl)
  obtain ⟨all, done, -⟩ := at_most_one_frame run (.unlock (t := false) rfl)
  exact ⟨_, _, _, run, .unlock (t := false) rfl, rfl, all, done rfl 0 rfl⟩

end GlesBridge.Ring
