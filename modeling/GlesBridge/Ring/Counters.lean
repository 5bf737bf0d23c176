import GlesBridge.Ring.Move

namespace GlesBridge.Ring

open GlesBridge.Data GlesBridge.Systems

variable {cfg : Config} {Tid Gl : Type} {s s' : State cfg Tid Gl} {t u : Tid}

/-- How the three counters, the lock and the stages of the threads hang
together. -/
structure Counters (s : State cfg Tid Gl) : Prop where
  owner : ∀ t, (s.threads t).pc.stage ≠ .outside ↔ s.lock = some t
  proxyCopy : s.completed = s.completedSeq
  behind : s.completed ≤ s.publishedSeq
  window : s.localSeq ≤ s.completed + cfg.ringSlots
  settled : (∀ t, (s.threads t).pc.stage ≠ .filling) → s.localSeq = s.publishedSeq
  filling : ∀ t, (s.threads t).pc.stage = .filling →
    s.localSeq = s.publishedSeq + 1 ∧ (s.threads t).curSeq = s.publishedSeq
  sending : ∀ t, (s.threads t).pc.stage = .sending → (s.threads t).curSeq + 1 = s.publishedSeq
  busy : s.proxyPc = .dispatch ∨ s.proxyPc.answered = 1 → s.completed < s.publishedSeq

namespace Counters

/-- Mutual exclusion: at most one thread is inside the bridge. -/
theorem unique (counters : Counters s) (first : (s.threads t).pc.stage ≠ .outside)
    (second : (s.threads u).pc.stage ≠ .outside) : u = t := by
  have locked := (counters.owner t).mp first
  rw [(counters.owner u).mp second] at locked
  exact Option.some.inj locked

theorem others_outside (counters : Counters s) (inside : (s.threads t).pc.stage ≠ .outside) :
    ∀ u, u ≠ t → (s.threads u).pc.stage = .outside := fun _ different =>
  Classical.byContradiction fun active => different (counters.unique inside active)

/-- While one thread is past `bridge_begin`'s test, no other is filling in a slot. -/
theorem settled_of_owner (counters : Counters s) (inside : (s.threads t).pc.stage ≠ .outside)
    (idle : (s.threads t).pc.stage ≠ .filling) : s.localSeq = s.publishedSeq := by
  apply counters.settled
  intro u filling
  have active : (s.threads u).pc.stage ≠ .outside := by simp [filling]
  exact idle (counters.unique inside active ▸ filling)

theorem published_le_local (counters : Counters s) : s.publishedSeq ≤ s.localSeq := by
  by_cases filling : ∃ t, (s.threads t).pc.stage = .filling
  · obtain ⟨t, filling⟩ := filling
    have := (counters.filling t filling).1
    omega
  · have := counters.settled (fun t filled => filling ⟨t, filled⟩)
    omega

theorem initial (clientPid : Int32) (gl : Gl) :
    Counters (State.initial cfg clientPid gl : State cfg Tid Gl) := by
  constructor <;> simp [State.initial, Thread.zero, Pc.stage, ProxyPc.answered]

theorem keep (counters : Counters s) (frame : Frame s s') : Counters s' where
  owner u := by rw [frame.stage, frame.lock]; exact counters.owner u
  proxyCopy := by rw [frame.completed, frame.completedSeq]; exact counters.proxyCopy
  behind := by rw [frame.completed, frame.publishedSeq]; exact counters.behind
  window := by rw [frame.localSeq, frame.completed]; exact counters.window
  settled none := by
    rw [frame.localSeq, frame.publishedSeq]
    exact counters.settled (fun u => frame.stage u ▸ none u)
  filling u filling := by
    rw [frame.localSeq, frame.publishedSeq, frame.curSeq]
    exact counters.filling u (frame.stage u ▸ filling)
  sending u sending := by
    rw [frame.publishedSeq, frame.curSeq]
    exact counters.sending u (frame.stage u ▸ sending)
  busy working := by
    rw [frame.completed, frame.publishedSeq]
    rcases working with dispatching | answered
    · rcases frame.dispatching dispatching with before | ahead
      · exact counters.busy (.inl before)
      · exact ahead
    · exact counters.busy (.inr (frame.answered ▸ answered))

variable [DecidableEq Tid]

/-- A step of the thread that is inside, or enters, the bridge: only its own
stage has to be looked at again. -/
theorem ofThread (counters : Counters s) (thread : Thread)
    (threads : s'.threads = Function.update s.threads t thread)
    (others : ∀ u, u ≠ t → (s.threads u).pc.stage = .outside)
    (owner : s'.lock = if thread.pc.stage = .outside then none else some t)
    (completed : s'.completed = s.completed) (completedSeq : s'.completedSeq = s.completedSeq)
    (proxyPc : s'.proxyPc = s.proxyPc) (grows : s.publishedSeq ≤ s'.publishedSeq)
    (window : s'.localSeq ≤ s.completed + cfg.ringSlots)
    (settled : thread.pc.stage ≠ .filling → s'.localSeq = s'.publishedSeq)
    (filling : thread.pc.stage = .filling →
      s'.localSeq = s'.publishedSeq + 1 ∧ thread.curSeq = s'.publishedSeq)
    (sending : thread.pc.stage = .sending → thread.curSeq + 1 = s'.publishedSeq) :
    Counters s' := by
  have self : s'.threads t = thread := by simp [threads]
  have other : ∀ u, u ≠ t → (s'.threads u).pc.stage = .outside := by
    intro u different
    rw [threads, Function.update_of_ne different]
    exact others u different
  constructor
  · intro u
    by_cases same : u = t
    · subst same
      rw [self, owner]
      split_ifs with outside <;> simp [outside]
    · rw [other u same, owner]
      split_ifs <;> simp [Ne.symm same]
  · rw [completed, completedSeq]; exact counters.proxyCopy
  · rw [completed]; exact counters.behind.trans grows
  · rw [completed]; exact window
  · intro none
    exact settled (self ▸ none t)
  · intro u stage
    by_cases same : u = t
    · subst same
      rw [self] at stage ⊢
      exact filling stage
    · rw [other u same] at stage
      cases stage
  · intro u stage
    by_cases same : u = t
    · subst same
      rw [self] at stage ⊢
      exact sending stage
    · rw [other u same] at stage
      cases stage
  · rw [proxyPc, completed]
    exact fun working => (counters.busy working).trans_le grows

variable {proxy : Dispatcher Gl} {e : Event Tid Gl}

theorem step (counters : Counters s) (move : Move proxy s e s') : Counters s' := by
  cases move with
  | keep _ frame => exact counters.keep frame
  | @acquire t outside free =>
      have others : ∀ u, u ≠ t → (s.threads u).pc.stage = .outside := fun u _ =>
        Classical.byContradiction fun active => by
          have locked := (counters.owner u).mp active
          rw [free] at locked
          cases locked
      have settled := counters.settled fun u filling => by
        have locked := (counters.owner u).mp (by simp [filling])
        rw [free] at locked
        cases locked
      exact counters.ofThread _ rfl others rfl rfl rfl rfl (Nat.le_refl _) counters.window
        (fun _ => settled) nofun nofun
  | @begin t reserving room =>
      have inside : (s.threads t).pc.stage ≠ .outside := by simp [reserving]
      have settled := counters.settled_of_owner inside (by simp [reserving])
      have fits : s.localSeq - s.completedSeq < cfg.ringSlots := by simpa [State.hasRoom] using room
      have copy := counters.proxyCopy
      have behind := counters.behind
      refine counters.ofThread _ rfl (counters.others_outside inside)
        ((counters.owner t).mp inside) rfl rfl rfl (Nat.le_refl _) ?_ ?_ ?_ nofun
      · show s.localSeq + 1 ≤ s.completed + cfg.ringSlots
        omega
      · exact fun other => (other rfl).elim
      · exact fun _ => ⟨congrArg (· + 1) settled, settled⟩
  | fill => exact { counters with }
  | @dataWrite t size src offset newHead filling placed =>
      have inside : (s.threads t).pc.stage ≠ .outside := by simp [filling]
      exact counters.ofThread _ rfl (counters.others_outside inside)
        ((counters.owner t).mp inside) rfl rfl rfl (Nat.le_refl _) counters.window
        (fun other => (other rfl).elim) (fun _ => counters.filling t filling) nofun
  | @publish t mode filling =>
      have inside : (s.threads t).pc.stage ≠ .outside := by simp [filling]
      obtain ⟨ahead, current⟩ := counters.filling t filling
      refine counters.ofThread _ rfl (counters.others_outside inside)
        ((counters.owner t).mp inside) rfl rfl rfl ?_ counters.window ?_ nofun (fun _ => rfl)
      · show s.publishedSeq ≤ (s.threads t).curSeq + 1
        omega
      · intro _
        show s.localSeq = (s.threads t).curSeq + 1
        omega
  | @unlock t mode value here =>
      have inside : (s.threads t).pc.stage ≠ .outside := by simp [here, Pc.stage]
      have settled := counters.settled_of_owner inside (by simp [here, Pc.stage])
      have outside : (if mode = SendMode.call then Pc.late else Pc.idle).stage = .outside := by
        split_ifs <;> rfl
      refine counters.ofThread _ rfl (counters.others_outside inside) ?_ rfl rfl rfl
        (Nat.le_refl _) counters.window (fun _ => settled) ?_ ?_
      · simp [State.release, State.setPc, State.setThread, outside]
      · simp [outside]
      · simp [outside]
  | dispatch here =>
      have busy := counters.busy (.inl here)
      exact { counters with busy := fun _ => busy }
  | release here =>
      have busy := counters.busy (.inr (by rw [here]; rfl))
      exact { counters with busy := fun _ => busy }
  | complete here =>
      have ahead := counters.busy (.inr (by rw [here]; rfl))
      have window := counters.window
      refine { counters with
        proxyCopy := rfl
        behind := ahead
        window := ?_
        busy := ?_ }
      · show s.localSeq ≤ s.completed + 1 + cfg.ringSlots
        omega
      · simp only [State.complete]
        split_ifs <;> simp [ProxyPc.answered]

theorem of_run {trace : List (Event Tid Gl)} (run : (bridge cfg Tid proxy).Run trace s) :
    Counters s := by
  induction run with
  | start initial =>
      obtain ⟨clientPid, gl, rfl⟩ := initial
      exact .initial clientPid gl
  | step run taken ih => exact ih.step taken.move

end Counters

end GlesBridge.Ring
