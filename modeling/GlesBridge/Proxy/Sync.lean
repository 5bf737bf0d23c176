import GlesBridge.Gl.Sync

namespace GlesBridge.Proxy

open GlesBridge.Gl

/-! The proxy's fences: the table of those that the client has handles for, and
the waits that it has put off. -/

abbrev bridgeMaxSyncs : Nat := 256
def bridgeSyncIdBits : UInt32 := 8
def bridgeSyncIdMask : UInt32 := 0xFF
def maxDeferredSyncs : Nat := 8

/-- An index into the tables of fences; 0 stands for none. -/
abbrev SyncId := Fin bridgeMaxSyncs

/-- A null `real` is 0. -/
structure SyncEntry where
  real : UInt32
  gen : UInt32
deriving DecidableEq, Repr

structure DeferredSync where
  s : UInt32
  handle : UInt32
  owned : Bool
deriving DecidableEq, Repr

/-- `syncDoneGen` is in the ring, where the stub reads it. -/
structure SyncProxy where
  syncs : SyncId → SyncEntry
  gDef : List DeferredSync
  syncDoneGen : SyncId → UInt32
  gl : Syncs

/-- 0 blocks, 1 polls, 2 defers. -/
inductive WaitMode where
  | block
  | poll
  | defer
deriving DecidableEq, Repr

/-- The commands about fences; flags and timeouts are for the driver only. -/
inductive SyncCommand where
  | glFenceSync (handle : UInt32)
  | glClientWaitSync (handle : UInt32) (mode : WaitMode)
  | glWaitSync (handle : UInt32)
  | glDeleteSync (handle : UInt32)
deriving DecidableEq, Repr

/-- What the driver answers while a command is carried out, in its order. -/
structure SyncAnswers where
  pointer : UInt32
  waits : List WaitResult

def syncId (handle : UInt32) : SyncId :=
  ⟨(handle &&& bridgeSyncIdMask).toNat, by
    rw [UInt32.toNat_and]
    exact Nat.lt_of_le_of_lt Nat.and_le_right (by decide)⟩

def syncGen (handle : UInt32) : UInt32 := handle >>> bridgeSyncIdBits

namespace SyncProxy

def zero : SyncProxy where
  syncs _ := ⟨0, 0⟩
  gDef := []
  syncDoneGen _ := 0
  gl := .initial

variable (proxy : SyncProxy)

def lookupSync (handle : UInt32) : UInt32 :=
  let entry := proxy.syncs (syncId handle)
  if syncId handle = 0 ∨ entry.real = 0 ∨ entry.gen ≠ syncGen handle then 0 else entry.real

def syncMarkDone (handle : UInt32) : SyncProxy :=
  { proxy with
    syncDoneGen := Function.update proxy.syncDoneGen (syncId handle) (syncGen handle) }

/-- The loop that goes on as long as a wait times out. -/
def waitOut (sync : UInt32) : List WaitResult → Syncs → Option (Syncs × List WaitResult)
  | [], _ => none
  | answer :: rest, gl =>
      (gl.glClientWaitSync sync answer).bind fun gl =>
        if answer = .timeoutExpired then waitOut sync rest gl else some (gl, rest)

/-- One entry of the list; a failed wait is logged and counts as done. -/
def resolveOne (entry : DeferredSync) (waits : List WaitResult) :
    Option (SyncProxy × List WaitResult) :=
  (waitOut entry.s waits proxy.gl).map fun (gl, rest) =>
    let gl := if entry.owned then gl.glDeleteSync entry.s else gl
    ({ proxy with gl }.syncMarkDone entry.handle, rest)

def resolveEach : List DeferredSync → List WaitResult → SyncProxy → Option (SyncProxy × List WaitResult)
  | [], waits, proxy => some (proxy, waits)
  | entry :: rest, waits, proxy =>
      (proxy.resolveOne entry waits).bind fun (proxy, waits) => resolveEach rest waits proxy

def proxyResolveDeferredWaits (waits : List WaitResult) : Option (SyncProxy × List WaitResult) :=
  (resolveEach proxy.gDef waits proxy).map fun (proxy, waits) => ({ proxy with gDef := [] }, waits)

/-- Is the pointer on the list? -/
def deferred (sync : UInt32) : Bool := proxy.gDef.any fun entry => entry.s == sync

def deferPush (sync handle : UInt32) (waits : List WaitResult) :
    Option (SyncProxy × List WaitResult) :=
  if proxy.deferred sync then some (proxy, waits)
  else
    (if proxy.gDef.length = maxDeferredSyncs then proxy.proxyResolveDeferredWaits waits
      else some (proxy, waits)).map fun (proxy, waits) =>
        ({ proxy with gDef := proxy.gDef ++ [⟨sync, handle, false⟩] }, waits)

/-- The first entry with the pointer gets to own it. -/
def adopt (sync : UInt32) : List DeferredSync → List DeferredSync
  | [] => []
  | entry :: rest =>
      if entry.s = sync then { entry with owned := true } :: rest else entry :: adopt sync rest

/-- `if (!defer_adopt_delete(s)) glDeleteSync(s)` -/
def adoptOrDelete (sync : UInt32) : SyncProxy :=
  if proxy.deferred sync then { proxy with gDef := adopt sync proxy.gDef }
  else { proxy with gl := proxy.gl.glDeleteSync sync }

/-! ## Handlers -/

def hGlFenceSync (handle answer : UInt32) : Option SyncProxy :=
  (proxy.gl.glFenceSync answer).map fun gl =>
    let proxy := { proxy with gl }
    if syncId handle = 0 ∨ answer = 0 then { proxy with gl := gl.glDeleteSync answer }
    else
      let stale := (proxy.syncs (syncId handle)).real
      let proxy := if stale ≠ 0 then proxy.adoptOrDelete stale else proxy
      { proxy with
        syncs := Function.update proxy.syncs (syncId handle) ⟨answer, syncGen handle⟩ }

/-- With `C->result`. -/
def hGlClientWaitSync (handle : UInt32) (mode : WaitMode) (waits : List WaitResult) :
    Option (SyncProxy × List WaitResult × WaitResult) :=
  let sync := proxy.lookupSync handle
  if sync = 0 then some (proxy, waits, .waitFailed)
  else if mode = .defer then
    (proxy.deferPush sync handle waits).map fun (proxy, waits) =>
      (proxy, waits, .conditionSatisfied)
  else
    match waits with
    | [] => none
    | result :: waits =>
        (proxy.gl.glClientWaitSync sync result).map fun gl =>
          let proxy := { proxy with gl }
          (if result.saysSignaled then proxy.syncMarkDone handle else proxy, waits, result)

def hGlWaitSync (handle : UInt32) : SyncProxy :=
  { proxy with gl := proxy.gl.glWaitSync (proxy.lookupSync handle) }

def hGlDeleteSync (handle : UInt32) : SyncProxy :=
  let sync := proxy.lookupSync handle
  if sync = 0 then proxy
  else
    let proxy := proxy.adoptOrDelete sync
    { proxy with syncs := Function.update proxy.syncs (syncId handle) ⟨0, 0⟩ }

/-- The command uses up what the driver answers. -/
def handleSync (command : SyncCommand) (answers : SyncAnswers) : Option SyncProxy :=
  match command with
  | .glFenceSync handle =>
      if answers.waits = [] then proxy.hGlFenceSync handle answers.pointer else none
  | .glClientWaitSync handle mode =>
      (proxy.hGlClientWaitSync handle mode answers.waits).bind fun (proxy, waits, _) =>
        if waits = [] then some proxy else none
  | .glWaitSync handle => if answers.waits = [] then some (proxy.hGlWaitSync handle) else none
  | .glDeleteSync handle => if answers.waits = [] then some (proxy.hGlDeleteSync handle) else none

/-- A handler that resolves, as those do that copy. -/
def resolve (waits : List WaitResult) : Option SyncProxy :=
  (proxy.proxyResolveDeferredWaits waits).bind fun (proxy, waits) =>
    if waits = [] then some proxy else none

end SyncProxy

end GlesBridge.Proxy
