import GlesBridge.Wayland.Channel

namespace GlesBridge.Wayland

open GlesBridge.Systems

/-! A call that has posted its request returns. -/

variable {Tid Gl : Type} {proxy : WlDispatcher Gl} {s s' : Channel Tid Gl} {e : WlEvent Tid Gl}
  {trace : List (WlEvent Tid Gl)} {t : Tid} {send : WlSend} {pc : WlPc}

namespace WlEvent

def ByProxy : WlEvent Tid Gl → Prop
  | .proxy | .served .. => True
  | _ => False

/-- A thread need not begin a command. -/
def ByThread (t : Tid) : WlEvent Tid Gl → Prop
  | .stub thread | .asked thread _ | .returned thread .. => thread = t
  | _ => False

end WlEvent

/-- `wl_display_prepare_read` succeeds in the end: the other threads do not queue events
faster than they are dispatched. -/
structure WlFair (behaviour : Lts.Behaviour (channel Tid proxy)) : Prop where
  proxy : behaviour.WeaklyFair WlEvent.ByProxy
  thread : ∀ t, behaviour.WeaklyFair (WlEvent.ByThread t)
  prepares : behaviour.LeadsTo (fun s => s.place = .top) (fun s => s.place = .polling)

/-- The response has not been posted. -/
def Unanswered (t : Tid) (send : WlSend) (s : Channel Tid Gl) : Prop :=
  s.lock = some (t, .waiting send) ∧ s.respWlEfd = 0

def Answered (t : Tid) (send : WlSend) (s : Channel Tid Gl) : Prop :=
  s.lock = some (t, .waiting send) ∧ 0 < s.respWlEfd

/-- The steps that the proxy needs for a request that is posted. -/
def WlPlace.distance : WlPlace → Nat
  | .answering => 0
  | .handling => 1
  | .woken true => 2
  | .polling => 3
  | .top => 4
  | .woken false => 5

/-- No step but a turn of the loop ahead of `poll` leaves the proxy where it is. -/
theorem Unanswered.step (unanswered : Unanswered t send s) (token : Token s)
    (taken : ChannelStep proxy s e s') :
    (Unanswered t send s' ∧ s'.place.distance ≤ s.place.distance ∧
      (e.ByProxy → s.place ≠ .top → s'.place.distance < s.place.distance)) ∨
        Answered t send s' := by
  obtain ⟨lock, unposted⟩ := unanswered
  obtain ⟨one, -, answers⟩ := token
  have waits : s.waits = 1 := Token.waits_eq lock
  have closer (next : WlPlace) (below : next.distance < s.place.distance) :
      next.distance ≤ s.place.distance ∧
        (e.ByProxy → s.place ≠ .top → next.distance < s.place.distance) :=
    ⟨Nat.le_of_lt below, fun _ _ => below⟩
  cases taken with
  | begin free =>
      rw [free] at lock
      cases lock
  | fill _ here | dataWrite _ _ here | dataAbort _ here | post _ here | wlBridgeEnd here =>
      rw [here] at lock
      cases lock
  | efdWait here ready => omega
  | dispatchPending _ here =>
      exact .inl ⟨⟨lock, unposted⟩, Nat.le_refl _, fun _ away => absurd here away⟩
  | outside => exact .inl ⟨⟨lock, unposted⟩, Nat.le_refl _, nofun⟩
  | pollEvents here idle | interrupted here idle =>
      -- The request is there, so `poll` returns with it.
      have holds : s.place.holds = 1 := by omega
      rw [here] at holds
      cases holds
  | prepareRead here => exact .inl ⟨⟨lock, unposted⟩, closer .polling (by rw [here]; decide)⟩
  | pollRequest here => exact .inl ⟨⟨lock, unposted⟩, closer (.woken true) (by rw [here]; decide)⟩
  | next here => exact .inl ⟨⟨lock, unposted⟩, closer .top (by rw [here]; decide)⟩
  | read here => exact .inl ⟨⟨lock, unposted⟩, closer .handling (by rw [here]; decide)⟩
  | handle here => exact .inl ⟨⟨lock, unposted⟩, closer .answering (by rw [here]; decide)⟩
  | respond here =>
      refine .inr ⟨lock, ?_⟩
      show 0 < if s.memory.ctrl.needsResponse = 0 then s.respWlEfd else s.respWlEfd + 1
      rw [if_neg (by rw [answers waits]; decide)]
      exact Nat.succ_pos _

theorem Answered.step (answered : Answered t send s) (token : Token s)
    (taken : ChannelStep proxy s e s') :
    Answered t send s' ∧ ¬ e.ByThread t ∨ s'.lock = some (t, .taking send) := by
  obtain ⟨lock, posted⟩ := answered
  have one := token.one
  have waits : s.waits = 1 := Token.waits_eq lock
  cases taken with
  | begin free =>
      rw [free] at lock
      cases lock
  | fill _ here | dataWrite _ _ here | dataAbort _ here | post _ here | wlBridgeEnd here =>
      rw [here] at lock
      cases lock
  | efdWait here ready =>
      rw [here] at lock
      cases lock
      exact .inr rfl
  | respond here =>
      rw [here, WlPlace.holds] at one
      omega
  | _ => exact .inl ⟨⟨lock, posted⟩, not_false⟩

section Calls

variable {behaviour : Lts.Behaviour (channel Tid proxy)}

/-- Past its `poll`, or before it, the proxy comes to the response. -/
theorem answers_of_near (fair : WlFair behaviour) (t : Tid) (send : WlSend) :
    behaviour.LeadsTo (fun s => Unanswered t send s ∧ s.place.distance ≤ 3) (Answered t send) := by
  apply Lts.Behaviour.leadsTo_of_falling fair.proxy fun s => s.place.distance
  case lasts =>
    intro trace s e s' run reached taken
    obtain ⟨unanswered, near⟩ := reached
    rcases unanswered.step (.of_run run) taken with ⟨still, most, -⟩ | answered
    · exact .inl ⟨⟨still, Nat.le_trans most near⟩, most⟩
    · exact .inr answered
  case enabled =>
    intro trace s run reached
    obtain ⟨⟨lock, unposted⟩, near⟩ := reached
    have token := Token.of_run run
    have one := token.one
    have waits : s.waits = 1 := Token.waits_eq lock
    cases here : s.place with
    | top =>
        rw [here] at near
        exact absurd near (by decide)
    | polling =>
        rw [here, WlPlace.holds] at one
        · exact ⟨.proxy, _, trivial, .pollRequest here (by omega)⟩
        all_goals simp
    | woken requested =>
        cases requested with
        | true => exact ⟨.proxy, _, trivial, .read here (token.seen here)⟩
        | false =>
            rw [here] at near
            exact absurd near (by decide)
    | handling => exact ⟨.served _ _, _, trivial, .handle here⟩
    | answering => exact ⟨.proxy, _, trivial, .respond here⟩
  case progress =>
    intro trace s e s' run reached taken own
    obtain ⟨unanswered, near⟩ := reached
    have away : s.place ≠ .top := fun here => by
      rw [here] at near
      exact absurd near (by decide)
    rcases unanswered.step (.of_run run) taken with ⟨still, most, less⟩ | answered
    · exact .inl ⟨⟨still, Nat.le_trans most near⟩, less own away⟩
    · exact .inr answered

/-- An iteration without the request ends. -/
theorem turns (fair : WlFair behaviour) (t : Tid) (send : WlSend) :
    behaviour.LeadsTo (fun s => Unanswered t send s ∧ s.place = .woken false)
      (fun s => Unanswered t send s ∧ s.place.distance ≤ 4 ∨ Answered t send s) := by
  have fallen {place : WlPlace} (less : place.distance < (WlPlace.woken false).distance) :
      place.distance ≤ 4 := Nat.le_of_lt_succ less
  apply Lts.Behaviour.leadsTo_of_fair fair.proxy
  case lasts =>
    intro trace s e s' run ⟨unanswered, here⟩ taken
    rcases unanswered.step (.of_run run) taken with ⟨still, most, -⟩ | answered
    · rw [here] at most
      rcases Nat.lt_or_eq_of_le most with less | same
      · exact .inr (.inl ⟨still, fallen less⟩)
      · left
        refine ⟨still, ?_⟩
        cases place : s'.place with
        | woken requested =>
            cases requested with
            | false => rfl
            | true =>
                rw [place] at same
                cases same
        | top | polling | handling | answering =>
            rw [place] at same
            cases same
    · exact .inr (.inr answered)
  case enabled => exact fun trace s run ⟨unanswered, here⟩ => ⟨.proxy, _, trivial, .next here⟩
  case progress =>
    intro trace s e s' run ⟨unanswered, here⟩ taken own
    rcases unanswered.step (.of_run run) taken with ⟨still, -, less⟩ | answered
    · rw [here] at less
      exact .inl ⟨still, fallen (less own nofun)⟩
    · exact .inr answered

theorem answers_of_top (fair : WlFair behaviour) (t : Tid) (send : WlSend) :
    behaviour.LeadsTo (fun s => Unanswered t send s ∧ s.place.distance ≤ 4) (Answered t send) := by
  have kept : ∀ trace (s : Channel Tid Gl) e s', (channel Tid proxy).Run trace s →
      Unanswered t send s → ChannelStep proxy s e s' → Unanswered t send s' ∨ Answered t send s' :=
    fun trace s e s' run unanswered taken =>
      (unanswered.step (.of_run run) taken).imp_left fun still => still.1
  have near := answers_of_near fair t send
  have prepared := (fair.prepares.holding kept).trans
    (((Lts.Behaviour.LeadsTo.of_imp fun _ s _ reached => ⟨reached.2, by rw [reached.1]; decide⟩).trans
      near).or (.of_imp fun _ _ _ answered => answered))
  refine .trans (.of_imp fun trace s run ⟨unanswered, close⟩ => ?_) (prepared.or near)
  by_cases here : s.place = .top
  · exact .inl ⟨here, unanswered⟩
  · refine .inr ⟨unanswered, ?_⟩
    cases place : s.place with
    | top => exact absurd place here
    | woken requested =>
        cases requested with
        | true => decide
        | false =>
            rw [place] at close
            exact absurd close (by decide)
    | polling | handling | answering => decide

theorem response_comes (fair : WlFair behaviour) (t : Tid) (send : WlSend) :
    behaviour.LeadsTo (Unanswered t send) (Answered t send) := by
  have top := answers_of_top fair t send
  refine .trans (.of_imp fun trace s run unanswered => ?_)
    (top.or ((turns fair t send).trans (top.or (.of_imp fun _ _ _ answered => answered))))
  by_cases here : s.place = .woken false
  · exact .inr ⟨unanswered, here⟩
  · refine .inl ⟨unanswered, ?_⟩
    cases place : s.place with
    | woken requested =>
        cases requested with
        | true => decide
        | false => exact absurd place here
    | top | polling | handling | answering => decide

theorem response_taken (fair : WlFair behaviour) (t : Tid) (send : WlSend) :
    behaviour.LeadsTo (Answered t send) (fun s => s.lock = some (t, .taking send)) := by
  apply Lts.Behaviour.leadsTo_of_fair (fair.thread t)
  case lasts =>
    exact fun trace s e s' run answered taken =>
      (answered.step (.of_run run) taken).imp_left fun still => still.1
  case enabled =>
    exact fun trace s run ⟨lock, posted⟩ => ⟨.stub t, _, rfl, .efdWait lock posted⟩
  case progress =>
    exact fun trace s e s' run answered taken own =>
      (answered.step (.of_run run) taken).resolve_left fun still => still.2 own

/-- In a fair execution every call returns, and the lock is free then. -/
theorem wl_calls_return (fair : WlFair behaviour) (t : Tid) (send : WlSend) :
    behaviour.LeadsTo (fun s => s.lock = some (t, .waiting send)) (fun s => s.lock = none) := by
  have leaves : behaviour.LeadsTo (fun s => s.lock = some (t, .taking send))
      (fun s => s.lock = none) := by
    have only {s s' : Channel Tid Gl} {e : WlEvent Tid Gl}
        (here : s.lock = some (t, .taking send)) (taken : ChannelStep proxy s e s') :
        s'.lock = some (t, .taking send) ∧ ¬ e.ByThread t ∨ s'.lock = none := by
      cases taken with
      | begin other | fill _ other | dataWrite _ _ other | dataAbort _ other | post _ other
      | efdWait other =>
          rw [here] at other
          cases other
      | wlBridgeEnd => exact .inr rfl
      | _ => exact .inl ⟨here, not_false⟩
    apply Lts.Behaviour.leadsTo_of_fair (fair.thread t)
    case lasts => exact fun _ _ _ _ _ here taken => (only here taken).imp_left fun still => still.1
    case enabled => exact fun _ _ _ here => ⟨.returned _ _ _, _, rfl, .wlBridgeEnd here⟩
    case progress =>
      exact fun _ _ _ _ _ here taken own => (only here taken).resolve_left fun still => still.2 own
  have answered := (response_taken fair t send).trans leaves
  refine .trans (.of_imp fun trace s run here => ?_)
    (((response_comes fair t send).trans answered).or answered)
  rcases Nat.eq_zero_or_pos s.respWlEfd with unposted | posted
  · exact .inl ⟨here, unposted⟩
  · exact .inr ⟨here, posted⟩

/-- One call, after which the client is silent and the proxy is in `poll`. -/
theorem wl_calls_return_one_call :
    ∃ behaviour : Lts.Behaviour (channel Unit (⟨fun _ => none⟩ : WlDispatcher Unit)),
      WlFair behaviour ∧ ∃ start, (behaviour.state start).lock = some ((), .waiting .call) ∧
        ∃ instant, start ≤ instant ∧ (behaviour.state instant).lock = none := by
  let proxy : WlDispatcher Unit := ⟨fun _ => none⟩
  have run : (channel Unit proxy).Run [] (.initial ()) := .start ⟨(), rfl⟩
  have run := run.step (.begin (t := ()) rfl)
  have run := run.step (.post (t := ()) .call rfl)
  obtain ⟨trace, s, rest, final, run, path, here, place, silent, free⟩ :
      ∃ trace, ∃ s : Channel Unit Unit, ∃ rest, ∃ final : Channel Unit Unit,
        (channel Unit proxy).Run trace s ∧ (channel Unit proxy).Path s rest final ∧
        s.lock = some ((), .waiting .call) ∧ final.place = .polling ∧ final.reqWlEfd = 0 ∧
        final.lock = none := by
    have path : (channel Unit proxy).Path (((Channel.initial ()).wlBridgeBegin ()).post () .call) []
      (((Channel.initial ()).wlBridgeBegin ()).post () .call) := .refl
    have path := path.step (.prepareRead rfl)
    have path := path.step (.pollRequest rfl Nat.one_pos)
    have path := path.step (.read rfl Nat.one_pos)
    have path := path.step (.handle rfl)
    have path := path.step (.respond rfl)
    have path := path.step (.efdWait (t := ()) rfl Nat.one_pos)
    have path := path.step (.wlBridgeEnd (t := ()) rfl)
    have path := path.step (.prepareRead rfl)
    exact ⟨_, _, _, _, run, path, rfl, rfl, rfl, rfl⟩
  obtain ⟨behaviour, begins, offset, first, -, follows⟩ :=
    Lts.Behaviour.exists_of_path run path (fun _ => final) (fun _ => none) rfl fun _ => rfl
  have fair : WlFair behaviour := by
    constructor
    case proxy =>
      intro start enabled
      obtain ⟨e, next, own, taken⟩ := enabled (offset + start) (by omega)
      rw [(follows start).1] at taken
      cases taken with
      | pollRequest _ ready => exact absurd ready (by rw [silent]; omega)
      | dispatchPending _ other | prepareRead other | next other | read other | handle other
      | respond other =>
          rw [place] at other
          cases other
      | _ => cases own
    case thread =>
      intro t start enabled
      obtain ⟨e, next, own, taken⟩ := enabled (offset + start) (by omega)
      rw [(follows start).1] at taken
      cases taken with
      | fill _ other | dataWrite _ _ other | dataAbort _ other | post _ other | efdWait other
      | wlBridgeEnd other =>
          rw [free] at other
          cases other
      | _ => cases own
    case prepares =>
      intro start _
      exact ⟨offset + start, by omega, by rw [(follows start).1]; exact place⟩
  have waits : (behaviour.state begins).lock = some ((), .waiting .call) := by rw [first, here]
  exact ⟨behaviour, fair, begins, waits, wl_calls_return fair () .call begins waits⟩

end Calls

end GlesBridge.Wayland
