import GlesBridge.Proxy.Events
import GlesBridge.Systems.Machine

namespace GlesBridge.Proxy

open GlesBridge.Systems

/-! The thread of the proxy for Wayland, between the compositor, the other threads
that read its socket, and the clients of the readiness notification.
-/

/-- Where `wl_dispatch_thread` is, with the two `revents` of its `poll`. -/
inductive LoopPlace where
  | top
  | polling
  | woken (readable requested : Bool)
  | read (requested : Bool)
  | dispatched (requested : Bool)
  | handling
deriving DecidableEq, Repr

/-- The commands by what they do to the events that wait. -/
inductive WlRequest where
  | connect
  | roundtrip (compositor : Bool)
  | track (slot : Fin proxySurfMax)
  | untrack (slot : Fin proxySurfMax)
  | other
deriving DecidableEq, Repr

/-- `socket` is not read yet, and `queue` is read and not dispatched. A thread is
`collecting` from its read of the notification until its own `OP_wl_roundtrip` has
been handled. -/
structure WlThread (Thread : Type) where
  place : LoopPlace
  connected : Bool
  socket : List CompositorEvent
  queue : List CompositorEvent
  relay : WlRelay
  wlEventEfd : Nat
  request : Option (Thread × WlRequest)
  collecting : Thread → Bool

inductive WlThreadInput (Thread : Type) where
  /-- The compositor sends an event. -/
  | send (event : CompositorEvent)
  /-- Another thread of the proxy reads the socket. -/
  | readElsewhere
  | prepareRead
  | poll
  | interrupted
  | readEvents
  | dispatchPending
  | notify
  /-- `arrived` is what the compositor sends while the command is handled, and `made`
  the display or the webOS shell surface that the command makes, if it does. -/
  | handle (arrived : List CompositorEvent) (made : UInt32)
  | kick
  | consume (thread : Thread)
  | ask (thread : Thread) (request : WlRequest)

namespace WlThread

variable {Thread : Type}

def initial : WlThread Thread where
  place := .top
  connected := false
  socket := []
  queue := []
  relay := { inputEvts := .empty, wssState := fun _ => .zero, webosShellSurfaces := fun _ => 0 }
  wlEventEfd := 0
  request := none
  collecting _ := false

variable (state : WlThread Thread)

/-- The end of an iteration, or its command. -/
def after (requested : Bool) : LoopPlace := if requested then .handling else .top

/-- A descriptor of the two is ready. -/
def Woken : Prop := state.connected = true ∧ state.socket ≠ [] ∨ state.request ≠ none

instance decidableWoken : Decidable state.Woken :=
  @instDecidableOr _ _ instDecidableAnd
    (decidable_of_iff (state.request.isSome = true) Option.isSome_iff_ne_none)

/-- `wl_display_prepare_read` fails while events are queued, and they are dispatched. -/
def prepareRead : Option (WlThread Thread) :=
  if state.place ≠ .top then none
  else if state.connected = true ∧ state.queue ≠ [] then
    some { state with relay := state.relay.dispatchAll state.queue, queue := [] }
  else some { state with place := .polling }

def poll : Option (WlThread Thread) :=
  if state.place = .polling ∧ state.Woken then
    some { state with
      place := .woken (state.connected && decide (state.socket ≠ [])) state.request.isSome }
  else none

/-- `EINTR` -/
def interrupted : Option (WlThread Thread) :=
  if state.place = .polling then some { state with place := .top } else none

/-- `wl_display_read_events` or `wl_display_cancel_read` -/
def readEvents : Option (WlThread Thread) :=
  match state.place with
  | .woken readable requested =>
      if state.connected = false then some { state with place := after requested }
      else if readable = true then
        some { state with
          place := .read requested, queue := state.queue ++ state.socket, socket := [] }
      else some { state with place := .read requested }
  | _ => none

def dispatchPending : Option (WlThread Thread) :=
  match state.place with
  | .read requested =>
      some { state with
        place := .dispatched requested
        relay := state.relay.dispatchAll state.queue
        queue := [] }
  | _ => none

def notify : Option (WlThread Thread) :=
  match state.place with
  | .dispatched requested =>
      some { state with
        place := after requested
        wlEventEfd := if state.relay.HasEvents then state.wlEventEfd + 1 else state.wlEventEfd }
  | _ => none

/-- A read waits for the threads that have prepared one. -/
def readElsewhere : Option (WlThread Thread) :=
  match state.place with
  | .polling | .woken .. => none
  | _ => some { state with queue := state.queue ++ state.socket, socket := [] }

/-- `h_wl_display_connect`, with the events of its roundtrips. -/
def handleConnect (arrived : List CompositorEvent) (display : UInt32) : WlThread Thread :=
  if display = 0 then
    { state with connected := false, relay := state.relay.forget, queue := [], socket := [] }
  else
    { state with
      connected := true
      relay := state.relay.forget.dispatchAll arrived
      queue := []
      socket := [] }

/-- `h_wl_roundtrip` -/
def handleRoundtrip (compositor : Bool) (arrived : List CompositorEvent) : WlThread Thread :=
  if state.connected = false then { state with relay := state.relay.collected }
  else if compositor = true then
    { state with
      relay := (state.relay.dispatchAll (state.queue ++ state.socket ++ arrived)).collected
      queue := []
      socket := [] }
  else { state with relay := (state.relay.dispatchAll state.queue).collected, queue := [] }

/-- The handler of a command. -/
def handled (arrived : List CompositorEvent) (made : UInt32) : WlRequest → WlThread Thread
  | .connect => state.handleConnect arrived made
  | .roundtrip compositor => state.handleRoundtrip compositor arrived
  | .track slot => if made = 0 then state else { state with relay := state.relay.track slot made }
  | .untrack slot => { state with relay := state.relay.untrack slot }
  | .other => state

/-- The response lets the client go on, and a collection is over for it. -/
def respond [DecidableEq Thread] (thread : Thread) (request : WlRequest) : WlThread Thread :=
  { state with
    place := .top
    request := none
    collecting :=
      match request with
      | .roundtrip _ => Function.update state.collecting thread false
      | _ => state.collecting }

def handle [DecidableEq Thread] (arrived : List CompositorEvent) (made : UInt32) :
    Option (WlThread Thread) :=
  match state.place, state.request with
  | .handling, some (thread, request) =>
      some ((state.handled arrived made request).respond thread request)
  | _, _ => none

/-- A thread that waits for a response does nothing else. -/
def Free (thread : Thread) : Prop := ∀ waiting ∈ state.request, waiting.1 ≠ thread

instance decidableFree [DecidableEq Thread] (thread : Thread) : Decidable (state.Free thread) :=
  decidable_of_iff (state.request.all fun waiting => waiting.1 ≠ thread) (by
    cases shape : state.request with
    | none => simp [Free, shape]
    | some waiting => simp [Free, shape])

def consume [DecidableEq Thread] (thread : Thread) : Option (WlThread Thread) :=
  if state.Free thread then
    some { state with
      wlEventEfd := 0
      collecting := Function.update state.collecting thread true }
  else none

def ask (thread : Thread) (request : WlRequest) : Option (WlThread Thread) :=
  if state.request = none then some { state with request := some (thread, request) } else none

def step [DecidableEq Thread] : WlThreadInput Thread → Option (WlThread Thread)
  | .send event => some { state with socket := state.socket ++ [event] }
  | .readElsewhere => state.readElsewhere
  | .prepareRead => state.prepareRead
  | .poll => state.poll
  | .interrupted => state.interrupted
  | .readEvents => state.readEvents
  | .dispatchPending => state.dispatchPending
  | .notify => state.notify
  | .handle arrived made => state.handle arrived made
  | .kick => some { state with wlEventEfd := state.wlEventEfd + 1 }
  | .consume thread => state.consume thread
  | .ask thread request => state.ask thread request

end WlThread

def wlThread (Thread : Type) [DecidableEq Thread] :
    Machine (WlThread Thread) (WlThreadInput Thread) where
  step state input := state.step input

end GlesBridge.Proxy
