import GlesBridge.Proxy.Sync

namespace GlesBridge.Stub

open GlesBridge.Proxy

/-! The handles that the stub gives out for fences, without a round trip. -/

def glTimeoutIgnored : UInt64 := 0xFFFFFFFFFFFFFFFF

structure SyncStub where
  gSyncUsed : SyncId → Bool
  gSyncGen : UInt32
  gSyncNext : UInt32

namespace SyncStub

def zero : SyncStub where
  gSyncUsed _ := false
  gSyncGen := 0
  gSyncNext := 1

variable (stub : SyncStub)

/-- The index of a turn of the loop, which counts from 1. -/
def tryId (turn : Nat) : UInt32 := 1 + (stub.gSyncNext - 1 + .ofNat turn - 1) % 255

/-- The first index that is not used, from the one after the last. -/
def freeId : Option UInt32 :=
  (((List.range (bridgeMaxSyncs - 1)).map fun turn => stub.tryId (turn + 1)).find? fun id =>
    !stub.gSyncUsed (syncId id))

/-- Generations have 24 bits, and 0 is left out. -/
def nextGen : UInt32 :=
  let gen := (stub.gSyncGen + 1) &&& 0x00FFFFFF
  if gen = 0 then 1 else gen

/-- No handle where all are used. -/
def bridgeSyncAlloc : Option (SyncStub × UInt32) :=
  stub.freeId.map fun id =>
    ({ gSyncUsed := Function.update stub.gSyncUsed (syncId id) true
       gSyncNext := id + 1
       gSyncGen := stub.nextGen },
      stub.nextGen <<< bridgeSyncIdBits ||| id)

def bridgeSyncFree (handle : UInt32) : SyncStub :=
  if syncId handle = 0 then stub
  else { stub with gSyncUsed := Function.update stub.gSyncUsed (syncId handle) false }

end SyncStub

/-- The stub reads the cell of the handle in the ring. -/
def bridgeSyncDone (syncDoneGen : SyncId → UInt32) (handle : UInt32) : Bool :=
  syncId handle != 0 && syncGen handle != 0 && syncDoneGen (syncId handle) == syncGen handle

/-- `glClientWaitSync` answers at once, or sends a command. -/
inductive ClientWait where
  | fast
  | send (mode : WaitMode)
deriving DecidableEq, Repr

/-- `fast` says that something is mapped and that waits may be put off. -/
def glClientWaitSync (syncDoneGen : SyncId → UInt32) (handle : UInt32) (timeout : UInt64)
    (fast : Bool) : ClientWait :=
  if bridgeSyncDone syncDoneGen handle then .fast
  else if timeout = 0 then .send .poll
  else if timeout = glTimeoutIgnored ∧ fast = true then .send .defer
  else .send .block

end GlesBridge.Stub
