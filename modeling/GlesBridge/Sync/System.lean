import GlesBridge.Stub.Sync
import GlesBridge.Systems.Machine

namespace GlesBridge.Sync

open GlesBridge.Gl GlesBridge.Proxy GlesBridge.Stub GlesBridge.Systems

/-! Threads of the client, the stub, the ring and the proxy, as far as fences go.

A call of a thread is cut where another thread or the proxy may come between: a
handle is taken before its command is sent, and given back after.
-/

/-- What a thread has still to do for a call. -/
inductive Pending where
  | send (command : SyncCommand)
  | delete (handle : UInt32)
  | free (handle : UInt32)
deriving DecidableEq, Repr

/-- A call of a thread, with its number. -/
abbrev Numbered (α : Type) := Nat × α

/-- The last three are a record of the run: the latest `glFenceSync` that gave out
a handle, the fences that were made for such calls, and the handles that the
client has and has not deleted. -/
structure SyncSystem where
  stub : SyncStub
  pending : List (Numbered Pending)
  queue : List (Numbered SyncCommand)
  proxy : SyncProxy
  calls : Nat
  issued : UInt32 → Option Nat
  created : List (Nat × Nat)
  live : UInt32 → Bool

inductive SystemInput where
  | glFenceSync
  | glClientWaitSync (handle : UInt32) (timeout : UInt64) (fast : Bool)
  | glWaitSync (handle : UInt32)
  | glDeleteSync (handle : UInt32)
  | advance (place : Nat)
  | serve (answers : SyncAnswers)
  | resolve (waits : List WaitResult)
  | signal (fence : Nat)

namespace SyncSystem

def zero : SyncSystem where
  stub := .zero
  pending := []
  queue := []
  proxy := .zero
  calls := 0
  issued _ := none
  created := []
  live _ := false

variable (state : SyncSystem)

def done (handle : UInt32) : Bool := bridgeSyncDone state.proxy.syncDoneGen handle

/-- A call begins with something that is still to be done. -/
def begin (pending : Pending) : SyncSystem :=
  { state with pending := state.pending ++ [(state.calls, pending)], calls := state.calls + 1 }

/-- The stub has taken a handle for a fence. -/
def give (stub : SyncStub) (handle : UInt32) : SyncSystem :=
  { state.begin (.send (.glFenceSync handle)) with
    stub
    issued := Function.update state.issued handle (some state.calls)
    live := Function.update state.live handle true }

/-- Without a handle `glFenceSync` returns at once. -/
def glFenceSync : SyncSystem :=
  match state.stub.bridgeSyncAlloc with
  | none => state
  | some (stub, handle) => state.give stub handle

def glClientWaitSync (handle : UInt32) (timeout : UInt64) (fast : Bool) : SyncSystem :=
  match Stub.glClientWaitSync state.proxy.syncDoneGen handle timeout fast with
  | .fast => state
  | .send mode => state.begin (.send (.glClientWaitSync handle mode))

/-- A null handle is ignored. -/
def glDeleteSync (handle : UInt32) : SyncSystem :=
  if handle = 0 then state
  else
    { state.begin (.delete handle) with live := Function.update state.live handle false }

/-- A thread goes on with its call. -/
def advance (place : Nat) : Option SyncSystem :=
  (state.pending[place]?).map fun (call, pending) =>
    let rest := state.pending.eraseIdx place
    match pending with
    | .send command => { state with pending := rest, queue := state.queue ++ [(call, command)] }
    | .delete handle =>
        { state with
          pending := rest ++ [(call, .free handle)]
          queue := state.queue ++ [(call, .glDeleteSync handle)] }
    | .free handle => { state with pending := rest, stub := state.stub.bridgeSyncFree handle }

/-- The fence that the driver makes for a command. -/
def made (call : Nat) (command : SyncCommand) (answers : SyncAnswers) : List (Nat × Nat) :=
  match command with
  | .glFenceSync _ => if answers.pointer = 0 then [] else [(call, state.proxy.gl.fences.made)]
  | _ => []

/-- The proxy carries out the next command. -/
def serve (answers : SyncAnswers) : Option SyncSystem :=
  match state.queue with
  | [] => none
  | (call, command) :: rest =>
      (state.proxy.handleSync command answers).map fun proxy =>
        { state with
          queue := rest
          proxy
          created := state.made call command answers ++ state.created }

def step : SystemInput → Option SyncSystem
  | .glFenceSync => some state.glFenceSync
  | .glClientWaitSync handle timeout fast => some (state.glClientWaitSync handle timeout fast)
  | .glWaitSync handle => some (state.begin (.send (.glWaitSync handle)))
  | .glDeleteSync handle => some (state.glDeleteSync handle)
  | .advance place => state.advance place
  | .serve answers => state.serve answers
  | .resolve waits => (state.proxy.resolve waits).map fun proxy => { state with proxy }
  | .signal fence =>
      some { state with proxy := { state.proxy with gl := state.proxy.gl.signal fence } }

/-- A fence is signaled that was made for the latest call that gave out the handle. -/
def Signaled (handle : UInt32) : Prop :=
  ∃ call fence, state.issued handle = some call ∧ (call, fence) ∈ state.created ∧
    fence ∈ state.proxy.gl.signaled

/-- The input makes the proxy resolve what is deferred. -/
def Resolves : SystemInput → Prop
  | .resolve _ => True
  | .serve _ =>
      match state.queue with
      | (_, .glClientWaitSync handle .defer) :: _ =>
          state.proxy.lookupSync handle ≠ 0 ∧
            state.proxy.deferred (state.proxy.lookupSync handle) = false ∧
            state.proxy.gDef.length = maxDeferredSyncs
      | _ => False
  | _ => False

/-- Nothing is left of an earlier fence with the handle. -/
structure Forgotten (handle : UInt32) : Prop where
  marked : state.done handle = false
  table : state.proxy.lookupSync handle = 0
  list : ∀ entry ∈ state.proxy.gDef, entry.handle ≠ handle
  sent : ∀ call, (call, .glFenceSync handle) ∉ state.queue
  unsent : ∀ call, (call, .send (.glFenceSync handle)) ∉ state.pending

end SyncSystem

def syncSystem : Machine SyncSystem SystemInput where
  step := SyncSystem.step

end GlesBridge.Sync
