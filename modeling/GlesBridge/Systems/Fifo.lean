import GlesBridge.Systems.Transition

namespace GlesBridge.Systems

universe u v w x

/-! ## Refinement mappings -/

namespace Lts

variable {State : Type u} {Label : Type v} {Spec : Type w} {Action : Type x}

/-- A refinement mapping: every reachable step of `concrete` is a step of
`abstract` between the viewed states. -/
structure Refinement (concrete : Lts State Label) (abstract : Lts Spec Action) where
  view : State → Spec
  action : Label → Action
  initial : ∀ state, concrete.Initial state → abstract.Initial (view state)
  step : ∀ trace state label next, concrete.Run trace state → concrete.Step state label next →
    abstract.Step (view state) (action label) (view next)

theorem Refinement.run {concrete : Lts State Label} {abstract : Lts Spec Action}
    (refinement : Refinement concrete abstract) {trace : List Label} {state : State}
    (run : concrete.Run trace state) :
    abstract.Run (trace.map refinement.action) (refinement.view state) := by
  induction run with
  | start initial => exact .start (refinement.initial _ initial)
  | step run taken ih => simpa using ih.step (refinement.step _ _ _ _ run taken)

end Lts

/-! ## The queue

What a single-producer, single-consumer channel is for: values leave in the
order in which they were put in, each of them once.
-/

inductive FifoAction (α : Type u) where
  | enqueue (value : α)
  | dequeue (value : α)
  | skip

namespace FifoAction

variable {α : Type u}

def enqueued? : FifoAction α → Option α
  | .enqueue value => some value
  | _ => none

def dequeued? : FifoAction α → Option α
  | .dequeue value => some value
  | _ => none

end FifoAction

inductive FifoStep {α : Type u} : List α → FifoAction α → List α → Prop where
  | enqueue (queue : List α) (value : α) : FifoStep queue (.enqueue value) (queue ++ [value])
  | dequeue (queue : List α) (value : α) : FifoStep (value :: queue) (.dequeue value) queue
  | skip (queue : List α) : FifoStep queue .skip queue

def fifo (α : Type u) : Lts (List α) (FifoAction α) where
  Initial queue := queue = []
  Step := FifoStep

theorem FifoStep.balance {α : Type u} {queue after : List α} {action : FifoAction α}
    (taken : FifoStep queue action after) :
    queue ++ action.enqueued?.toList = action.dequeued?.toList ++ after := by
  cases taken <;> simp [FifoAction.enqueued?, FifoAction.dequeued?]

/-- Everything put in has been taken out or still waits, in the same order. -/
theorem fifo_balance {α : Type u} {trace : List (FifoAction α)} {queue : List α}
    (run : (fifo α).Run trace queue) :
    trace.filterMap FifoAction.enqueued? = trace.filterMap FifoAction.dequeued? ++ queue := by
  induction run with
  | start initial => simpa using initial.symm
  | step run taken ih =>
      simp only [List.filterMap_append, List.filterMap_cons, List.filterMap_nil, ih]
      cases taken <;> simp [FifoAction.enqueued?, FifoAction.dequeued?]

/-! ## An object behind a queue

Clients hand in commands and go on; a server performs them one after the other. -/

section Object

variable {State : Type u} {Client : Type v} {Command : Type w} {Answer : Type x}

inductive ObjectAction (Client : Type v) (Command : Type w) (Answer : Type x) where
  | submit (client : Client) (command : Command)
  | serve
  | answer (client : Client) (index : Nat) (value : Answer)

/-- `clients` and `answers` are in the order of the commands. -/
structure ObjectState (State : Type u) (Client : Type v) (Command : Type w) (Answer : Type x) where
  waiting : List Command
  state : State
  clients : List Client
  answers : List Answer

def ObjectState.start (state : State) : ObjectState State Client Command Answer :=
  ⟨[], state, [], []⟩

variable (perform : Command → State → State × Answer)

inductive QueuedStep : ObjectState State Client Command Answer →
    ObjectAction Client Command Answer → ObjectState State Client Command Answer → Prop where
  | submit (object) (client : Client) (command : Command) :
      QueuedStep object (.submit client command)
        { object with
          waiting := object.waiting ++ [command]
          clients := object.clients ++ [client] }
  | serve {object : ObjectState State Client Command Answer} {command : Command}
      {rest : List Command} (first : object.waiting = command :: rest) :
      QueuedStep object .serve
        { object with
          waiting := rest
          state := (perform command object.state).1
          answers := object.answers ++ [(perform command object.state).2] }
  | answer {object : ObjectState State Client Command Answer} {client : Client} {index : Nat}
      {value : Answer} (asked : object.clients[index]? = some client)
      (given : object.answers[index]? = some value) :
      QueuedStep object (.answer client index value) object

variable (Client) in
def queued (state : State) :
    Lts (ObjectState State Client Command Answer) (ObjectAction Client Command Answer) where
  Initial object := object = .start state
  Step := QueuedStep perform

/-- A command is performed as soon as it is handed in. -/
inductive DirectStep : ObjectState State Client Command Answer →
    ObjectAction Client Command Answer → ObjectState State Client Command Answer → Prop where
  | submit (object) (client : Client) (command : Command) :
      DirectStep object (.submit client command)
        { object with
          state := (perform command object.state).1
          clients := object.clients ++ [client]
          answers := object.answers ++ [(perform command object.state).2] }
  | serve (object) : DirectStep object .serve object
  | answer {object : ObjectState State Client Command Answer} {client : Client} {index : Nat}
      {value : Answer} (asked : object.clients[index]? = some client)
      (given : object.answers[index]? = some value) :
      DirectStep object (.answer client index value) object

variable (Client) in
def direct (state : State) :
    Lts (ObjectState State Client Command Answer) (ObjectAction Client Command Answer) where
  Initial object := object = .start state
  Step := DirectStep perform

def performAll : List Command → State → State × List Answer
  | [], state => (state, [])
  | command :: rest, state =>
      let performed := perform command state
      let others := performAll rest performed.1
      (others.1, performed.2 :: others.2)

theorem performAll_concat (commands : List Command) (command : Command) (state : State) :
    performAll perform (commands ++ [command]) state =
      ((perform command (performAll perform commands state).1).1,
        (performAll perform commands state).2 ++
          [(perform command (performAll perform commands state).1).2]) := by
  induction commands generalizing state with
  | nil => rfl
  | cons first rest ih => simp only [List.cons_append, performAll, ih]

/-- The object once the server has caught up. -/
def ObjectState.drained (object : ObjectState State Client Command Answer) :
    ObjectState State Client Command Answer where
  waiting := []
  state := (performAll perform object.waiting object.state).1
  clients := object.clients
  answers := object.answers ++ (performAll perform object.waiting object.state).2

variable {perform}

theorem QueuedStep.direct {object next : ObjectState State Client Command Answer}
    {action : ObjectAction Client Command Answer} (taken : QueuedStep perform object action next) :
    DirectStep perform (object.drained perform) action (next.drained perform) := by
  cases taken with
  | submit client command =>
      have performed : ({ object with
          waiting := object.waiting ++ [command]
          clients := object.clients ++ [client] } :
            ObjectState State Client Command Answer).drained perform =
          { object.drained perform with
            state := (perform command (object.drained perform).state).1
            clients := (object.drained perform).clients ++ [client]
            answers := (object.drained perform).answers ++
              [(perform command (object.drained perform).state).2] } := by
        simp only [ObjectState.drained, performAll_concat, List.append_assoc]
      rw [performed]
      exact .submit ..
  | @serve command rest first =>
      have same : ({ object with
          waiting := rest
          state := (perform command object.state).1
          answers := object.answers ++ [(perform command object.state).2] } :
            ObjectState State Client Command Answer).drained perform = object.drained perform := by
        simp only [ObjectState.drained, first, performAll, List.append_assoc, List.cons_append,
          List.nil_append]
      rw [same]
      exact .serve _
  | @answer client index value asked given =>
      have short : index < object.answers.length := (List.getElem?_eq_some_iff.mp given).1
      exact .answer asked ((List.getElem?_append_left short).trans given)

variable (Client perform) in
/-- The clients cannot tell when their commands are performed. -/
def queuedRefinesDirect (state : State) :
    Lts.Refinement (queued Client perform state) (direct Client perform state) where
  view := ObjectState.drained perform
  action := id
  initial := by
    intro object initial
    obtain rfl : object = .start state := initial
    rfl
  step _ _ _ _ _ taken := taken.direct

end Object

end GlesBridge.Systems
