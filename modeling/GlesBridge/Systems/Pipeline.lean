import Mathlib.Data.List.Monad
import GlesBridge.Systems.Machine

namespace GlesBridge.Systems

universe u v

/-! Two parties with a queue between them: the one turns calls into commands,
the other carries the commands out, in their order but at its own pace. -/

/-- `none` is an undefined outcome, on either side. -/
structure Pipeline (Producer Consumer : Type u) (Call Command : Type v) where
  produce : Producer → Call → Option (Producer × List Command)
  consume : Consumer → Command → Option Consumer

namespace Pipeline

variable {Producer Consumer : Type u} {Call Command : Type v}
  (pipeline : Pipeline Producer Consumer Call Command)

/-- The consumer carries out each call's commands at once. -/
def direct : Machine (Producer × Consumer) Call where
  step state call :=
    (pipeline.produce state.1 call).bind fun made =>
      (made.2.foldlM pipeline.consume state.2).map fun consumer => (made.1, consumer)

structure Queued (Producer Consumer : Type u) (Command : Type v) where
  producer : Producer
  queue : List Command
  consumer : Consumer

/-- A call of the producer, or a turn of the consumer. -/
def queued : Machine (Queued Producer Consumer Command) (Option Call) where
  step state input :=
    match input, state.queue with
    | some call, queue =>
        (pipeline.produce state.producer call).map fun made =>
          { state with producer := made.1, queue := queue ++ made.2 }
    | none, [] => some state
    | none, command :: rest =>
        (pipeline.consume state.consumer command).map fun consumer =>
          { state with queue := rest, consumer }

def Queued.Drained (good : Producer × Consumer → Prop) (state : Queued Producer Consumer Command) :
    Prop :=
  state.queue = [] → good (state.producer, state.consumer)

variable {pipeline}

theorem direct_step {state next : Producer × Consumer} {call : Call} :
    pipeline.direct.step state call = some next ↔
      ∃ commands, pipeline.produce state.1 call = some (next.1, commands) ∧
        commands.foldlM pipeline.consume state.2 = some next.2 := by
  obtain ⟨producer, consumer⟩ := next
  simp only [direct, Option.bind_eq_some_iff, Option.map_eq_some_iff, Prod.mk.injEq]
  constructor
  · rintro ⟨⟨reached, commands⟩, made, after, carried, rfl, rfl⟩
    exact ⟨commands, made, carried⟩
  · rintro ⟨commands, made, carried⟩
    exact ⟨(producer, commands), made, consumer, carried, rfl, rfl⟩

end Pipeline

/-! ## Answers -/

/-- A call that is sent off, or one that waits for its answer. -/
inductive Request (Producer : Type u) (Command Answer : Type v) where
  | post (producer : Producer) (commands : List Command)
  | await (command : Command) (resume : Answer → Producer)

/-- Two parties of which the one may wait for what the other answers. -/
structure Exchange (Producer Consumer : Type u) (Call Command Answer : Type v) where
  call : Producer → Call → Option (Request Producer Command Answer)
  serve : Consumer → Command → Option (Consumer × Answer)

namespace Exchange

open Pipeline

variable {Producer Consumer : Type u} {Call Command Answer : Type v}
  (exchange : Exchange Producer Consumer Call Command Answer)

def carry (consumer : Consumer) (command : Command) : Option Consumer :=
  (exchange.serve consumer command).map Prod.fst

/-- A request to a consumer that has nothing else to do. -/
def finish (consumer : Consumer) : Request Producer Command Answer → Option (Producer × Consumer)
  | .post producer commands =>
      (commands.foldlM exchange.carry consumer).map fun consumer => (producer, consumer)
  | .await command resume =>
      (exchange.serve consumer command).map fun served => (resume served.2, served.1)

def direct : Machine (Producer × Consumer) Call where
  step state call := (exchange.call state.1 call).bind (exchange.finish state.2)

/-- Who waits for an answer waits until the queue is empty. -/
def queued : Machine (Queued Producer Consumer Command) (Option Call) where
  step state input :=
    match input, state.queue with
    | some call, queue =>
        (exchange.call state.producer call).bind fun request =>
          match request with
          | .post producer commands => some { state with producer, queue := queue ++ commands }
          | .await .. =>
              (queue.foldlM exchange.carry state.consumer).bind fun consumer =>
                (exchange.finish consumer request).map fun after => ⟨after.1, [], after.2⟩
    | none, [] => some state
    | none, command :: rest =>
        (exchange.carry state.consumer command).map fun consumer =>
          { state with queue := rest, consumer }

variable {exchange} {good : Producer × Consumer → Prop} {producer : Producer}
  {consumer later : Consumer}

/-- A call that waits meets a consumer that has caught up, and leaves no queue. -/
theorem queued_await {queue : List Command} {call : Call} {command : Command}
    {resume : Answer → Producer} (ahead : queue.foldlM exchange.carry consumer = some later)
    (awaits : exchange.call producer call = some (.await command resume)) :
    exchange.queued.step ⟨producer, queue, consumer⟩ (some call) =
      (exchange.direct.step (producer, later) call).map fun after => ⟨after.1, [], after.2⟩ := by
  simp [queued, direct, awaits, ahead]

/-- What holds whenever the consumer keeps up holds whenever it has caught up. -/
theorem queued_along {queue : List Command} {inputs : List (Option Call)}
    (ahead : queue.foldlM exchange.carry consumer = some later) (now : good (producer, later))
    (meets : exchange.direct.Along (exchange.direct.Ends good) (producer, later)
      (inputs.filterMap id)) :
    exchange.queued.Along (exchange.queued.Ends (Queued.Drained good))
      ⟨producer, queue, consumer⟩ inputs := by
  induction inputs generalizing producer consumer later queue with
  | nil => trivial
  | cons input rest ih =>
      cases input with
      | some call =>
          obtain ⟨⟨next, taken, holds⟩, after⟩ := meets
          obtain ⟨request, made, finished⟩ := Option.bind_eq_some_iff.mp taken
          cases request with
          | post reached commands =>
              obtain ⟨arrived, carried, rfl⟩ := Option.map_eq_some_iff.mp finished
              have joined : (queue ++ commands).foldlM exchange.carry consumer = some arrived := by
                rw [List.foldlM_append, ahead]
                exact carried
              have step : exchange.queued.step ⟨producer, queue, consumer⟩ (some call) =
                  some ⟨reached, queue ++ commands, consumer⟩ := by
                simp only at made
                simp [queued, made]
              refine ⟨⟨_, step, fun empty => ?_⟩, fun found moved => ?_⟩
              · rw [show queue ++ commands = [] from empty] at joined
                cases joined
                exact holds
              · rw [step] at moved
                cases moved
                exact ih joined holds (after _ taken)
          | await command resume =>
              have step : exchange.queued.step ⟨producer, queue, consumer⟩ (some call) =
                  some ⟨next.1, [], next.2⟩ := by
                simp only at made finished
                simp [queued, made, ahead, finished]
              refine ⟨⟨_, step, fun _ => holds⟩, fun found moved => ?_⟩
              rw [step] at moved
              cases moved
              exact ih rfl holds (after _ taken)
      | none =>
          cases queue with
          | nil =>
              obtain rfl : consumer = later := Option.some.inj ahead
              exact ⟨⟨_, rfl, fun _ => now⟩, fun reached arrived => by
                cases arrived
                exact ih rfl now meets⟩
          | cons command queue =>
              rw [List.foldlM_cons] at ahead
              obtain ⟨between, one, more⟩ := Option.bind_eq_some_iff.mp ahead
              have step : exchange.queued.step ⟨producer, command :: queue, consumer⟩ none =
                  some ⟨producer, queue, between⟩ := by
                simp [queued, one]
              refine ⟨⟨_, step, fun empty => ?_⟩, fun reached arrived => ?_⟩
              · rw [show queue = [] from empty] at more
                cases more
                exact now
              · rw [step] at arrived
                cases arrived
                exact ih more now meets

/-- The consumer empties the queue before the next call. -/
theorem along_served {commands : List Command} {rest : List (Option Call)}
    (meets : exchange.queued.Along (exchange.queued.Ends (Queued.Drained good))
      ⟨producer, commands, consumer⟩ (List.replicate commands.length none ++ rest))
    (now : commands = [] → good (producer, consumer)) :
    ∃ later, commands.foldlM exchange.carry consumer = some later ∧ good (producer, later) ∧
      exchange.queued.Along (exchange.queued.Ends (Queued.Drained good))
        ⟨producer, [], later⟩ rest := by
  induction commands generalizing consumer with
  | nil => exact ⟨consumer, rfl, now rfl, meets⟩
  | cons command queue ih =>
      obtain ⟨⟨next, taken, drained⟩, after⟩ := meets
      obtain ⟨between, one, rfl⟩ := Option.map_eq_some_iff.mp taken
      obtain ⟨later, more, holds, serves⟩ := ih (after _ taken) drained
      exact ⟨later, by rw [List.foldlM_cons, one]; exact more, holds, serves⟩

/-- No pace of the consumer makes a difference to what holds of a drained queue. -/
theorem queued_along_iff {calls : List Call} (now : good (producer, consumer)) :
    (∀ inputs : List (Option Call), inputs.filterMap id = calls →
        exchange.queued.Along (exchange.queued.Ends (Queued.Drained good))
          ⟨producer, [], consumer⟩ inputs) ↔
      exchange.direct.Along (exchange.direct.Ends good) (producer, consumer) calls := by
  constructor
  · intro every
    induction calls generalizing producer consumer with
    | nil => trivial
    | cons call rest ih =>
        obtain ⟨⟨next, taken, drained⟩, -⟩ := every (some call :: rest.map some) (by simp)
        obtain ⟨request, made, moved⟩ := Option.bind_eq_some_iff.mp taken
        simp only at made
        cases request with
        | post reached commands =>
            cases moved
            have served (inputs : List (Option Call)) (shape : inputs.filterMap id = rest) :=
              along_served ((every (some call :: (List.replicate commands.length none ++ inputs))
                (by simpa using shape)).2 _ taken) drained
            obtain ⟨later, carried, holds, -⟩ := served (rest.map some) (by simp)
            have step : exchange.direct.step (producer, consumer) call = some (reached, later) := by
              simp only at carried
              simp [direct, made, finish, carried]
            refine ⟨⟨_, step, holds⟩, fun arrived taken => ?_⟩
            rw [step] at taken
            cases taken
            refine ih holds fun inputs shape => ?_
            obtain ⟨same, again, -, meets⟩ := served inputs shape
            rw [carried] at again
            cases again
            exact meets
        | await command resume =>
            obtain ⟨after, finished, rfl⟩ := Option.map_eq_some_iff.mp moved
            have step : exchange.direct.step (producer, consumer) call = some after := by
              simp only [direct, made]
              exact finished
            refine ⟨⟨_, step, drained rfl⟩, fun arrived moves => ?_⟩
            rw [step] at moves
            cases moves
            refine ih (drained rfl) fun inputs shape => ?_
            exact (every (some call :: inputs) (by simpa using shape)).2 _ taken
  · rintro meets inputs rfl
    exact queued_along rfl now meets

end Exchange

namespace Pipeline

variable {Producer Consumer : Type u} {Call Command : Type v}

/-- A pipeline is an exchange in which nobody waits. -/
def exchange (pipeline : Pipeline Producer Consumer Call Command) :
    Exchange Producer Consumer Call Command PUnit where
  call producer call := (pipeline.produce producer call).map fun made => .post made.1 made.2
  serve consumer command := (pipeline.consume consumer command).map fun consumer => (consumer, ⟨⟩)

variable {pipeline : Pipeline Producer Consumer Call Command}

theorem exchange_carry : pipeline.exchange.carry = pipeline.consume := by
  funext consumer command
  simp [Exchange.carry, exchange, Function.comp_def]

theorem exchange_direct : pipeline.exchange.direct = pipeline.direct := by
  unfold Exchange.direct direct
  congr 1
  funext state call
  simp only [exchange, Option.bind_map]
  congr 1
  funext made
  exact congrArg (fun carry => (made.2.foldlM carry state.2).map fun consumer => (made.1, consumer))
    exchange_carry

theorem exchange_queued : pipeline.exchange.queued = pipeline.queued := by
  unfold Exchange.queued queued
  congr 1
  funext state input
  obtain ⟨producer, queue, consumer⟩ := state
  cases input with
  | some call =>
      simp only [exchange, Option.bind_map]
      exact Option.map_eq_bind.symm
  | none =>
      cases queue with
      | nil => rfl
      | cons command rest => simp only [exchange_carry]

/-- Nor does it where nobody waits for answers. -/
theorem queued_along_iff {good : Producer × Consumer → Prop} {producer : Producer}
    {consumer : Consumer} {calls : List Call} (now : good (producer, consumer)) :
    (∀ inputs : List (Option Call), inputs.filterMap id = calls →
        pipeline.queued.Along (pipeline.queued.Ends (Queued.Drained good))
          ⟨producer, [], consumer⟩ inputs) ↔
      pipeline.direct.Along (pipeline.direct.Ends good) (producer, consumer) calls := by
  rw [← exchange_queued, ← exchange_direct]
  exact Exchange.queued_along_iff now

end Pipeline

end GlesBridge.Systems
