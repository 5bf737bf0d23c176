import GlesBridge.Systems.Fifo

namespace GlesBridge.Systems

universe u v w

/-! A server that takes one request at a time: a client enters, asks, is answered
and leaves, and until then no other client enters. -/

inductive Rendezvous (Client : Type u) (Request : Type v) (Answer : Type w) where
  | free
  | entered (client : Client)
  | asked (client : Client) (request : Request)
  | answered (client : Client) (answer : Answer)

inductive VisitAction (Client : Type u) (Request : Type v) (Answer : Type w) where
  | skip
  | ask (client : Client) (request : Request)
  | serve (request : Request) (answer : Answer)
  | leave (client : Client) (answer : Answer)

namespace VisitAction

variable {Client : Type u} {Request : Type v} {Answer : Type w}

def asked? : VisitAction Client Request Answer → Option (Client × Request)
  | .ask client request => some (client, request)
  | _ => none

def served? : VisitAction Client Request Answer → Option (Request × Answer)
  | .serve request answer => some (request, answer)
  | _ => none

def left? : VisitAction Client Request Answer → Option (Client × Answer)
  | .leave client answer => some (client, answer)
  | _ => none

end VisitAction

section

variable {Client : Type u} {Request : Type v} {Answer : Type w}

inductive VisitStep : Rendezvous Client Request Answer → VisitAction Client Request Answer →
    Rendezvous Client Request Answer → Prop where
  | skip (state) : VisitStep state .skip state
  | enter (client) : VisitStep .free .skip (.entered client)
  | ask (client request) : VisitStep (.entered client) (.ask client request) (.asked client request)
  | serve (client request answer) :
      VisitStep (.asked client request) (.serve request answer) (.answered client answer)
  | leave (client answer) : VisitStep (.answered client answer) (.leave client answer) .free

def rendezvous (Client : Type u) (Request : Type v) (Answer : Type w) :
    Lts (Rendezvous Client Request Answer) (VisitAction Client Request Answer) where
  Initial state := state = .free
  Step := VisitStep

namespace Rendezvous

/-- Who has asked and not left. -/
def waiting : Rendezvous Client Request Answer → List Client
  | .asked client _ | .answered client _ => [client]
  | _ => []

def unserved : Rendezvous Client Request Answer → List Request
  | .asked _ request => [request]
  | _ => []

def untaken : Rendezvous Client Request Answer → List Answer
  | .answered _ answer => [answer]
  | _ => []

end Rendezvous

/-- The requests, the answers and the returns of a history, in their order. -/
structure Balanced (trace : List (VisitAction Client Request Answer))
    (state : Rendezvous Client Request Answer) : Prop where
  clients : (trace.filterMap VisitAction.asked?).map Prod.fst =
    (trace.filterMap VisitAction.left?).map Prod.fst ++ state.waiting
  requests : (trace.filterMap VisitAction.asked?).map Prod.snd =
    (trace.filterMap VisitAction.served?).map Prod.fst ++ state.unserved
  answers : (trace.filterMap VisitAction.served?).map Prod.snd =
    (trace.filterMap VisitAction.left?).map Prod.snd ++ state.untaken

/-- Every request is served once, in the order of the asking, and every client leaves
with the answer to its own. -/
theorem rendezvous_balanced {trace : List (VisitAction Client Request Answer)}
    {state : Rendezvous Client Request Answer}
    (run : (rendezvous Client Request Answer).Run trace state) :
    Balanced trace state := by
  induction run with
  | start initial =>
      cases initial
      exact ⟨rfl, rfl, rfl⟩
  | step run taken ih =>
      obtain ⟨clients, requests, answers⟩ := ih
      constructor <;>
        simp only [List.filterMap_append, List.filterMap_cons, List.filterMap_nil, List.map_append,
          clients, requests, answers] <;>
        cases taken <;>
        simp [VisitAction.asked?, VisitAction.served?, VisitAction.left?,
          Rendezvous.waiting, Rendezvous.unserved, Rendezvous.untaken]

namespace Balanced

variable {trace : List (VisitAction Client Request Answer)}
  {state : Rendezvous Client Request Answer}

/-- What the `index`-th client leaves with is the answer to the `index`-th request, which
is its own. -/
theorem own_answer (balanced : Balanced trace state) {index : Nat} {client : Client}
    {answer : Answer} (left : (trace.filterMap VisitAction.left?)[index]? = some (client, answer)) :
    ∃ request, (trace.filterMap VisitAction.asked?)[index]? = some (client, request) ∧
      (trace.filterMap VisitAction.served?)[index]? = some (request, answer) := by
  obtain ⟨clients, requests, answers⟩ := balanced
  generalize trace.filterMap VisitAction.asked? = asks at *
  generalize trace.filterMap VisitAction.served? = serves at *
  generalize trace.filterMap VisitAction.left? = leaves at *
  have below : index < leaves.length := (List.getElem?_eq_some_iff.mp left).1
  have own : (asks.map Prod.fst)[index]? = some client := by
    rw [clients, List.getElem?_append_left (by simpa using below), List.getElem?_map, left]
    rfl
  have same : (serves.map Prod.snd)[index]? = some answer := by
    rw [answers, List.getElem?_append_left (by simpa using below), List.getElem?_map, left]
    rfl
  obtain ⟨⟨asker, request⟩, asked, rfl⟩ := Option.map_eq_some_iff.mp (List.getElem?_map .. ▸ own)
  obtain ⟨⟨served, _⟩, answered, rfl⟩ := Option.map_eq_some_iff.mp (List.getElem?_map .. ▸ same)
  have handled : (asks.map Prod.snd)[index]? = some served := by
    rw [requests, List.getElem?_append_left, List.getElem?_map, answered]
    · rfl
    · simpa using (List.getElem?_eq_some_iff.mp answered).1
  rw [List.getElem?_map, asked, Option.map_some, Option.some.injEq] at handled
  exact ⟨request, asked, by rw [answered, ← handled]⟩

end Balanced

end

end GlesBridge.Systems
