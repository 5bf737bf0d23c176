import GlesBridge.Proxy.WlThread

namespace GlesBridge.Wayland

open GlesBridge.Proxy GlesBridge.Systems

/-! A client sleeps on the notification only while there is nothing to collect. -/

variable {Thread : Type} {state next : WlThread Thread} {events arrived : List CompositorEvent}
  {made : UInt32} {thread : Thread} {request : WlRequest} {relay : WlRelay}

/-- The thread waits in `poll` for something that has not come. -/
def Blocked (state : WlThread Thread) : Prop := state.place = .polling ∧ ¬ state.Woken

/-- The notification can be read, or a client has read it and is about to collect. -/
def Told (state : WlThread Thread) : Prop :=
  state.wlEventEfd ≠ 0 ∨ ∃ thread, state.collecting thread = true

/-- No client sleeps on events of a blocked thread. -/
def Ready (state : WlThread Thread) : Prop :=
  Blocked state → state.relay.HasEvents → Told state

/-- The dispatched events bring nothing to collect where there was nothing. -/
def Quiet (relay : WlRelay) (events : List CompositorEvent) : Prop :=
  (relay.dispatchAll events).HasEvents → relay.HasEvents

instance decidableQuiet (relay : WlRelay) (events : List CompositorEvent) :
    Decidable (Quiet relay events) :=
  instDecidableForall

/-- Only the dispatch after `poll` and the one of a collection bring events. -/
def Announced (state : WlThread Thread) : WlThreadInput Thread → Prop
  | .prepareRead => Quiet state.relay state.queue
  | .handle arrived _ =>
      state.request.map Prod.snd = some .connect → Quiet state.relay.forget arrived
  | _ => True

/-- What is there to collect is about to be announced, or has been. -/
def Noticed (state : WlThread Thread) : Prop :=
  state.relay.HasEvents → (∃ requested, state.place = .dispatched requested) ∨ Told state

theorem Noticed.ready (noticed : Noticed state) : Ready state := by
  rintro ⟨polling, -⟩ has
  rcases noticed has with ⟨requested, dispatched⟩ | told
  · rw [polling] at dispatched
    cases dispatched
  · exact told

/-- Nothing new comes, and what was told stays told. -/
theorem Noticed.mono (noticed : Noticed state) (undispatched : ∀ requested, state.place ≠ .dispatched requested)
    (fewer : next.relay.HasEvents → state.relay.HasEvents) (told : Told state → Told next) :
    Noticed next := by
  intro has
  rcases noticed (fewer has) with ⟨requested, dispatched⟩ | before
  · exact absurd dispatched (undispatched requested)
  · exact .inr (told before)

/-! ## One step -/

theorem noticed_prepareRead (noticed : Noticed state) (quiet : Quiet state.relay state.queue)
    (stepped : state.prepareRead = some next) : Noticed next := by
  unfold WlThread.prepareRead at stepped
  split at stepped
  · cases stepped
  · rename_i atTop
    have top : state.place = .top := Decidable.not_not.mp atTop
    have elsewhere : ∀ requested, state.place ≠ .dispatched requested := by simp [top]
    split at stepped
    · cases stepped
      exact noticed.mono elsewhere quiet id
    · cases stepped
      exact noticed.mono elsewhere id id

theorem noticed_poll (noticed : Noticed state) (stepped : state.poll = some next) :
    Noticed next := by
  unfold WlThread.poll at stepped
  split at stepped
  · rename_i polling
    cases stepped
    exact noticed.mono (by simp [polling.1]) id id
  · cases stepped

theorem noticed_interrupted (noticed : Noticed state) (stepped : state.interrupted = some next) :
    Noticed next := by
  unfold WlThread.interrupted at stepped
  split at stepped
  · rename_i polling
    cases stepped
    exact noticed.mono (by simp [polling]) id id
  · cases stepped

theorem noticed_readEvents (noticed : Noticed state) (stepped : state.readEvents = some next) :
    Noticed next := by
  unfold WlThread.readEvents at stepped
  split at stepped
  · rename_i readable requested place
    have elsewhere : ∀ requested, state.place ≠ .dispatched requested := by simp [place]
    split at stepped
    · cases stepped
      exact noticed.mono elsewhere id id
    · split at stepped
      all_goals
        cases stepped
        exact noticed.mono elsewhere id id
  · cases stepped

/-- The dispatch after `poll` is followed by the notification. -/
theorem noticed_dispatchPending (stepped : state.dispatchPending = some next) : Noticed next := by
  unfold WlThread.dispatchPending at stepped
  split at stepped
  · cases stepped
    exact fun _ => .inl ⟨_, rfl⟩
  · cases stepped

theorem noticed_notify (stepped : state.notify = some next) : Noticed next := by
  unfold WlThread.notify at stepped
  split at stepped
  · cases stepped
    intro has
    refine .inr (.inl ?_)
    change (if state.relay.HasEvents then state.wlEventEfd + 1 else state.wlEventEfd) ≠ 0
    rw [if_pos has]
    exact Nat.succ_ne_zero _
  · cases stepped

theorem noticed_readElsewhere (noticed : Noticed state) (stepped : state.readElsewhere = some next) :
    Noticed next := by
  unfold WlThread.readElsewhere at stepped
  split at stepped
  · cases stepped
  · cases stepped
  · cases stepped
    exact noticed

theorem not_hasEvents_roundtrip {compositor : Bool} :
    ¬ (state.handleRoundtrip compositor arrived).relay.HasEvents := by
  unfold WlThread.handleRoundtrip
  split
  · exact WlRelay.not_hasEvents_collected
  · split
    · exact WlRelay.not_hasEvents_collected
    · exact WlRelay.not_hasEvents_collected

theorem not_hasEvents_initial : ¬ (WlThread.initial : WlThread Thread).relay.HasEvents := by
  rintro (keys | ⟨slot, -, surface⟩)
  · exact keys rfl
  · exact surface rfl

section

variable [DecidableEq Thread]

/-- A command that brings nothing leaves the others as they were told. -/
theorem noticed_respond (noticed : Noticed state) (place : state.place = .handling)
    (same : next.collecting = state.collecting) (posted : next.wlEventEfd = state.wlEventEfd)
    (fewer : next.relay.HasEvents → state.relay.HasEvents)
    (keeps : ∀ compositor, request ≠ .roundtrip compositor) :
    Noticed (next.respond thread request) := by
  refine noticed.mono (by simp [place]) fewer fun told => ?_
  have stays : (next.respond thread request).collecting = state.collecting := by
    cases request with
    | roundtrip compositor => exact absurd rfl (keeps compositor)
    | _ => exact same
  unfold Told
  rw [stays]
  exact told.imp_left fun readable => by rwa [← posted] at readable

theorem noticed_handle (noticed : Noticed state)
    (quiet : state.request.map Prod.snd = some .connect → Quiet state.relay.forget arrived)
    (stepped : state.handle arrived made = some next) : Noticed next := by
  unfold WlThread.handle at stepped
  split at stepped
  · rename_i thread request place asked
    cases stepped
    cases request with
    | connect =>
        have small := quiet (by rw [asked, Option.map_some])
        rw [WlThread.handled, WlThread.handleConnect]
        split
        · exact noticed_respond noticed place rfl rfl WlRelay.hasEvents_forget nofun
        · exact noticed_respond noticed place rfl rfl
            (fun has => WlRelay.hasEvents_forget (small has)) nofun
    | roundtrip compositor => exact fun has => absurd has not_hasEvents_roundtrip
    | track slot =>
        rw [WlThread.handled]
        split
        · exact noticed_respond noticed place rfl rfl id nofun
        · exact noticed_respond noticed place rfl rfl WlRelay.hasEvents_track nofun
    | untrack slot =>
        exact noticed_respond noticed place rfl rfl WlRelay.hasEvents_untrack nofun
    | other => exact noticed_respond noticed place rfl rfl id nofun
  · cases stepped

/-- The client that has emptied the notification collects. -/
theorem noticed_consume (stepped : state.consume thread = some next) : Noticed next := by
  unfold WlThread.consume at stepped
  split at stepped
  · cases stepped
    exact fun _ => .inr (.inr ⟨thread, Function.update_self ..⟩)
  · cases stepped

theorem noticed_step {input : WlThreadInput Thread} (noticed : Noticed state)
    (announced : Announced state input) (stepped : state.step input = some next) :
    Noticed next := by
  cases input with
  | send event =>
      cases stepped
      exact noticed
  | readElsewhere => exact noticed_readElsewhere noticed stepped
  | prepareRead => exact noticed_prepareRead noticed announced stepped
  | poll => exact noticed_poll noticed stepped
  | interrupted => exact noticed_interrupted noticed stepped
  | readEvents => exact noticed_readEvents noticed stepped
  | dispatchPending => exact noticed_dispatchPending stepped
  | notify => exact noticed_notify stepped
  | handle arrived made => exact noticed_handle noticed announced stepped
  | kick =>
      cases stepped
      exact fun has => (noticed has).imp_right fun _ => .inl (Nat.succ_ne_zero _)
  | consume thread => exact noticed_consume stepped
  | ask thread request =>
      change (if state.request = none then _ else _) = some next at stepped
      split at stepped
      · cases stepped
        exact noticed
      · cases stepped

/-! ## Runs -/

/-- No readiness is lost in a run whose events all come with the dispatch after
`poll` or with a collection. -/
theorem ready_of_announced {inputs : List (WlThreadInput Thread)} {reached : WlThread Thread}
    (announced : (wlThread Thread).Along Announced .initial inputs)
    (runs : (wlThread Thread).run .initial inputs = some reached) : Ready reached := by
  have start : Noticed (WlThread.initial : WlThread Thread) :=
    fun has => absurd has not_hasEvents_initial
  have noticed : Noticed reached := Machine.Along.run_invariant noticed_step start announced runs
  exact noticed.ready

end

/-! ## Runs of one client -/

instance decidableAnnounced (state : WlThread Thread) (input : WlThreadInput Thread) :
    Decidable (Announced state input) :=
  match input with
  | .prepareRead => decidableQuiet ..
  | .handle .. => @instDecidableForall _ _ (Option.instDecidableEq ..) (decidableQuiet ..)
  | .send _ | .readElsewhere | .poll | .interrupted | .readEvents | .dispatchPending | .notify
  | .kick | .consume _ | .ask _ _ => isTrue trivial

/-- A client connects, and the thread waits for what comes next. -/
def connecting : List (WlThreadInput Unit) :=
  [.ask () .connect, .prepareRead, .poll, .readEvents, .handle [] 1]

def keyArrives : List (WlThreadInput Unit) :=
  connecting ++ [.prepareRead, .send (.key ⟨30, 1⟩), .poll, .readEvents, .dispatchPending, .notify,
    .prepareRead]

/-- A key that the thread itself reads is announced. -/
theorem announced_key :
    ∃ ends : ((wlThread Unit).run .initial keyArrives).isSome = true,
      (Option.get _ ends).relay.HasEvents ∧ Ready (Option.get _ ends) :=
  ⟨by decide, by decide, ready_of_announced (by decide) (Option.some_get _).symm⟩

/-- Another thread of the proxy reads a key just before the thread prepares its read. -/
theorem unannounced_key :
    ∃ reached, (wlThread Unit).run .initial (connecting ++
        [.send (.key ⟨30, 1⟩), .readElsewhere, .prepareRead, .prepareRead]) = some reached ∧
      ¬ Ready reached := by
  refine ⟨_, rfl, fun ready => ?_⟩
  rcases ready ⟨rfl, by decide⟩ (by decide) with readable | ⟨thread, collecting⟩
  · exact readable rfl
  · cases collecting

end GlesBridge.Wayland
