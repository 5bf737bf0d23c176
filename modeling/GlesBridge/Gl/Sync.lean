import GlesBridge.Data.Index
import GlesBridge.Systems.Resource

namespace GlesBridge.Gl

open GlesBridge.Systems

/-! The sync objects of GL, under the pointers that the driver gives out. -/

/-- What `glClientWaitSync` answers. -/
inductive WaitResult where
  | alreadySignaled
  | timeoutExpired
  | conditionSatisfied
  | waitFailed
deriving DecidableEq, Repr

def WaitResult.saysSignaled : WaitResult → Bool
  | .alreadySignaled | .conditionSatisfied => true
  | .timeoutExpired | .waitFailed => false

/-- `signaled` are the numbers of the fences that the GPU has passed. -/
structure Syncs where
  fences : Store UInt32
  signaled : List Nat

namespace Syncs

def initial : Syncs where
  fences := .empty
  signaled := []

variable (syncs : Syncs)

def signal (fence : Nat) : Syncs := { syncs with signaled := fence :: syncs.signaled }

/-- The driver answers with a pointer that no fence has, or with a null one. -/
def glFenceSync (answer : UInt32) : Option Syncs :=
  if answer = 0 then some syncs
  else
    match syncs.fences.object answer with
    | some _ => .none
    | .none => some { syncs with fences := syncs.fences.make answer }

/-- The driver says of a fence that it is signaled only when it is. -/
def Honest (sync : UInt32) (answer : WaitResult) : Prop :=
  answer.saysSignaled = true → ∀ fence ∈ syncs.fences.object sync, fence ∈ syncs.signaled

instance (sync : UInt32) (answer : WaitResult) : Decidable (syncs.Honest sync answer) := by
  unfold Honest
  infer_instance

def glClientWaitSync (sync : UInt32) (answer : WaitResult) : Option Syncs :=
  if syncs.Honest sync answer then some { syncs with fences := syncs.fences.use sync } else .none

/-- A null pointer names no fence and is refused. -/
def glWaitSync (sync : UInt32) : Syncs :=
  if sync = 0 then syncs else { syncs with fences := syncs.fences.use sync }

/-- A null pointer is ignored. -/
def glDeleteSync (sync : UInt32) : Syncs :=
  if sync = 0 then syncs else { syncs with fences := syncs.fences.release sync }

end Syncs

end GlesBridge.Gl
