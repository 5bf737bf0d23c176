import Mathlib.Data.Option.Basic
import Mathlib.Data.List.Basic

namespace GlesBridge.Systems

/-! Control flow over the operations of an interface.

A flow keeps of a function's body the operations of one interface and the
statements that order them. Conditions are free choices, so the executions of a
flow include those of the body for every argument and every state.
-/

universe u v

inductive Flow (Op : Type u) where
  | skip
  | op (action : Op)
  | seq (first second : Flow Op)
  | choice (left right : Flow Op)
  | loop (body : Flow Op)
  /-- A call of a helper, whose `return` goes no further. -/
  | call (body : Flow Op)
  | ret
  | brk
  | cont

/-- How an execution ends: past the last statement, or by a jump. -/
inductive Exit where
  | done
  | ret
  | brk
  | cont
  deriving DecidableEq

namespace Flow

variable {Op : Type u}

/-- An `if` without `else`. -/
def opt (flow : Flow Op) : Flow Op := .choice flow .skip

def block : List (Flow Op) → Flow Op
  | [] => .skip
  | flow :: rest => .seq flow (block rest)

/-- `flow.Exec ops exit`: some execution performs `ops` and ends in `exit`. -/
inductive Exec : Flow Op → List Op → Exit → Prop where
  | skip : Exec .skip [] .done
  | op (action : Op) : Exec (.op action) [action] .done
  | seq {first second front rest exit} (start : Exec first front .done)
      (more : Exec second rest exit) : Exec (.seq first second) (front ++ rest) exit
  | seqJump {first second front exit} (start : Exec first front exit) (jump : exit ≠ .done) :
      Exec (.seq first second) front exit
  | left {left right ops exit} (taken : Exec left ops exit) : Exec (.choice left right) ops exit
  | right {left right ops exit} (taken : Exec right ops exit) : Exec (.choice left right) ops exit
  | loopEnd {body} : Exec (.loop body) [] .done
  | loopMore {body front rest exit turn} (once : Exec body front turn)
      (goesOn : turn = .done ∨ turn = .cont) (more : Exec (.loop body) rest exit) :
      Exec (.loop body) (front ++ rest) exit
  | loopBreak {body front} (once : Exec body front .brk) : Exec (.loop body) front .done
  | loopReturn {body front} (once : Exec body front .ret) : Exec (.loop body) front .ret
  | callDone {body ops} (inner : Exec body ops .done) : Exec (.call body) ops .done
  | callReturn {body ops} (inner : Exec body ops .ret) : Exec (.call body) ops .done
  | ret : Exec .ret [] .ret
  | brk : Exec .brk [] .brk
  | cont : Exec .cont [] .cont

/-- A call that performs `ops` and comes back to its caller. -/
def Returns (flow : Flow Op) (ops : List Op) : Prop :=
  flow.Exec ops .done ∨ flow.Exec ops .ret

end Flow

/-! ## Protocols -/

/-- Which operations may come next in a phase, and the phase after each. -/
structure Protocol (Op : Type u) (Phase : Type v) where
  next : Phase → Op → Option Phase

namespace Protocol

variable {Op : Type u} {Phase : Type v} (protocol : Protocol Op Phase)

def run (phase : Phase) (ops : List Op) : Option Phase :=
  ops.foldlM protocol.next phase

@[simp] theorem run_nil (phase : Phase) : protocol.run phase [] = some phase := rfl

@[simp] theorem run_one (phase : Phase) (op : Op) :
    protocol.run phase [op] = protocol.next phase op := by
  simp [run]

theorem run_append {phase middle last : Phase} {front rest : List Op}
    (before : protocol.run phase front = some middle) (after : protocol.run middle rest = some last) :
    protocol.run phase (front ++ rest) = some last := by
  rw [run, List.foldlM_append, show front.foldlM protocol.next phase = some middle from before]
  exact after

end Protocol

/-! ## Checking a flow against a protocol -/

structure Exits (Phase : Type v) where
  done : Option Phase
  ret : Option Phase
  brk : Option Phase
  cont : Option Phase
  deriving DecidableEq

namespace Exits

variable {Phase : Type v}

def nowhere : Exits Phase := ⟨none, none, none, none⟩

def jumps (exits : Exits Phase) : Exits Phase := { exits with done := none }

def via (exits : Exits Phase) : Exit → Option Phase
  | .done => exits.done
  | .ret => exits.ret
  | .brk => exits.brk
  | .cont => exits.cont

variable [DecidableEq Phase]

/-- Two branches may leave by the same way in the same phase only. -/
def joinPhase : Option Phase → Option Phase → Option (Option Phase)
  | none, right => some right
  | left, none => some left
  | some left, some right => if left = right then some (some left) else none

def join (left right : Exits Phase) : Option (Exits Phase) := do
  let done ← joinPhase left.done right.done
  let ret ← joinPhase left.ret right.ret
  let brk ← joinPhase left.brk right.brk
  let cont ← joinPhase left.cont right.cont
  return ⟨done, ret, brk, cont⟩

theorem joinPhase_left {left right joined : Option Phase} {phase : Phase}
    (both : joinPhase left right = some joined) (here : left = some phase) :
    joined = some phase := by
  subst here
  cases right with
  | none => exact (Option.some.inj both).symm
  | some other =>
      simp only [joinPhase] at both
      split at both
      · exact (Option.some.inj both).symm
      · cases both

theorem joinPhase_right {left right joined : Option Phase} {phase : Phase}
    (both : joinPhase left right = some joined) (here : right = some phase) :
    joined = some phase := by
  subst here
  cases left with
  | none => exact (Option.some.inj both).symm
  | some other =>
      simp only [joinPhase] at both
      split at both
      next same => exact same ▸ (Option.some.inj both).symm
      next => cases both

theorem join_parts {left right joined : Exits Phase} (both : left.join right = some joined) :
    joinPhase left.done right.done = some joined.done ∧
      joinPhase left.ret right.ret = some joined.ret ∧
      joinPhase left.brk right.brk = some joined.brk ∧
      joinPhase left.cont right.cont = some joined.cont := by
  simp only [join, Option.bind_eq_bind, Option.bind_eq_some_iff] at both
  obtain ⟨done, hDone, ret, hRet, brk, hBrk, cont, hCont, same⟩ := both
  cases same
  exact ⟨hDone, hRet, hBrk, hCont⟩

theorem join_left {left right joined : Exits Phase} {exit : Exit} {phase : Phase}
    (both : left.join right = some joined) (here : left.via exit = some phase) :
    joined.via exit = some phase := by
  obtain ⟨done, ret, brk, cont⟩ := join_parts both
  cases exit with
  | done => exact joinPhase_left done here
  | ret => exact joinPhase_left ret here
  | brk => exact joinPhase_left brk here
  | cont => exact joinPhase_left cont here

theorem join_right {left right joined : Exits Phase} {exit : Exit} {phase : Phase}
    (both : left.join right = some joined) (here : right.via exit = some phase) :
    joined.via exit = some phase := by
  obtain ⟨done, ret, brk, cont⟩ := join_parts both
  cases exit with
  | done => exact joinPhase_right done here
  | ret => exact joinPhase_right ret here
  | brk => exact joinPhase_right brk here
  | cont => exact joinPhase_right cont here

end Exits

namespace Flow

variable {Op : Type u} {Phase : Type v} [DecidableEq Phase] (protocol : Protocol Op Phase)

/-- The phases in which a flow entered in `phase` leaves, if it follows the
protocol on the way and a loop comes back to the phase it started in. -/
def check : Flow Op → Phase → Option (Exits Phase)
  | .skip, phase => some { Exits.nowhere with done := some phase }
  | .op action, phase =>
      (protocol.next phase action).map fun next => { Exits.nowhere with done := some next }
  | .seq first second, phase => do
      let start ← first.check phase
      match start.done with
      | none => some start
      | some middle => start.jumps.join (← second.check middle)
  | .choice left right, phase => do (← left.check phase).join (← right.check phase)
  | .loop body, phase => do
      let turn ← body.check phase
      if (turn.done = none ∨ turn.done = some phase) ∧
          (turn.cont = none ∨ turn.cont = some phase) then
        Exits.join ⟨some phase, turn.ret, none, none⟩ ⟨turn.brk, none, none, none⟩
      else none
  | .call body, phase => do
      let inner ← body.check phase
      Exits.join ⟨inner.done, none, none, none⟩ ⟨inner.ret, none, none, none⟩
  | .ret, phase => some { Exits.nowhere with ret := some phase }
  | .brk, phase => some { Exits.nowhere with brk := some phase }
  | .cont, phase => some { Exits.nowhere with cont := some phase }

variable {protocol}

theorem loop_parts {body : Flow Op} {phase : Phase} {exits : Exits Phase}
    (checked : (Flow.loop body).check protocol phase = some exits) :
    ∃ turn, body.check protocol phase = some turn ∧
      (∀ exit, exit = .done ∨ exit = .cont → ∀ back, turn.via exit = some back → back = phase) ∧
      Exits.join ⟨some phase, turn.ret, none, none⟩ ⟨turn.brk, none, none, none⟩ = some exits := by
  simp only [check, Option.bind_eq_bind, Option.bind_eq_some_iff] at checked
  obtain ⟨turn, checkedBody, checked⟩ := checked
  split at checked
  next back =>
    refine ⟨turn, checkedBody, ?_, checked⟩
    rintro exit (rfl | rfl) found leaves
    · rcases back.1 with never | same
      · cases never.symm.trans leaves
      · exact Option.some.inj (leaves.symm.trans same)
    · rcases back.2 with never | same
      · cases never.symm.trans leaves
      · exact Option.some.inj (leaves.symm.trans same)
  next => cases checked

theorem check_sound {flow : Flow Op} {phase : Phase} {exits : Exits Phase} {ops : List Op}
    {exit : Exit} (checked : flow.check protocol phase = some exits) (run : flow.Exec ops exit) :
    ∃ last, exits.via exit = some last ∧ protocol.run phase ops = some last := by
  induction run generalizing phase exits with
  | skip | ret | brk | cont =>
      cases checked
      exact ⟨phase, rfl, rfl⟩
  | op action =>
      obtain ⟨next, follows, same⟩ := Option.map_eq_some_iff.mp checked
      cases same
      exact ⟨next, rfl, by simpa using follows⟩
  | @seq first second front rest exit start more ihFirst ihSecond =>
      simp only [check, Option.bind_eq_bind, Option.bind_eq_some_iff] at checked
      obtain ⟨before, checkedFirst, checked⟩ := checked
      obtain ⟨middle, reached, runFront⟩ := ihFirst checkedFirst
      rw [show before.done = some middle from reached] at checked
      simp only [Option.bind_eq_some_iff] at checked
      obtain ⟨after, checkedSecond, joined⟩ := checked
      obtain ⟨last, leaves, runRest⟩ := ihSecond checkedSecond
      exact ⟨last, Exits.join_right joined leaves, protocol.run_append runFront runRest⟩
  | @seqJump first second front exit start jump ih =>
      simp only [check, Option.bind_eq_bind, Option.bind_eq_some_iff] at checked
      obtain ⟨before, checkedFirst, checked⟩ := checked
      obtain ⟨last, leaves, runFront⟩ := ih checkedFirst
      refine ⟨last, ?_, runFront⟩
      cases reached : before.done with
      | none =>
          rw [reached] at checked
          cases checked
          exact leaves
      | some middle =>
          rw [reached] at checked
          simp only [Option.bind_eq_some_iff] at checked
          obtain ⟨after, -, joined⟩ := checked
          refine Exits.join_left joined ?_
          cases exit with
          | done => exact absurd rfl jump
          | ret | brk | cont => exact leaves
  | left taken ih =>
      simp only [check, Option.bind_eq_bind, Option.bind_eq_some_iff] at checked
      obtain ⟨before, checkedLeft, after, -, joined⟩ := checked
      obtain ⟨last, leaves, runOps⟩ := ih checkedLeft
      exact ⟨last, Exits.join_left joined leaves, runOps⟩
  | right taken ih =>
      simp only [check, Option.bind_eq_bind, Option.bind_eq_some_iff] at checked
      obtain ⟨before, -, after, checkedRight, joined⟩ := checked
      obtain ⟨last, leaves, runOps⟩ := ih checkedRight
      exact ⟨last, Exits.join_right joined leaves, runOps⟩
  | @loopEnd body =>
      obtain ⟨turn, -, -, joined⟩ := loop_parts checked
      exact ⟨phase, Exits.join_left joined rfl, rfl⟩
  | @loopMore body front rest exit turn once goesOn more ihOnce ihMore =>
      obtain ⟨ways, checkedBody, comesBack, -⟩ := loop_parts checked
      obtain ⟨middle, leaves, runFront⟩ := ihOnce checkedBody
      obtain rfl : middle = phase := comesBack turn goesOn middle leaves
      obtain ⟨last, leaves, runRest⟩ := ihMore checked
      exact ⟨last, leaves, protocol.run_append runFront runRest⟩
  | loopBreak once ih =>
      obtain ⟨ways, checkedBody, -, joined⟩ := loop_parts checked
      obtain ⟨last, leaves, runFront⟩ := ih checkedBody
      exact ⟨last, Exits.join_right joined leaves, runFront⟩
  | loopReturn once ih =>
      obtain ⟨ways, checkedBody, -, joined⟩ := loop_parts checked
      obtain ⟨last, leaves, runFront⟩ := ih checkedBody
      exact ⟨last, Exits.join_left joined leaves, runFront⟩

  | callDone inner ih =>
      simp only [check, Option.bind_eq_bind, Option.bind_eq_some_iff] at checked
      obtain ⟨ways, checkedBody, joined⟩ := checked
      obtain ⟨last, leaves, follows⟩ := ih checkedBody
      exact ⟨last, @Exits.join_left _ _ _ _ _ .done _ joined leaves, follows⟩
  | callReturn inner ih =>
      simp only [check, Option.bind_eq_bind, Option.bind_eq_some_iff] at checked
      obtain ⟨ways, checkedBody, joined⟩ := checked
      obtain ⟨last, leaves, follows⟩ := ih checkedBody
      exact ⟨last, @Exits.join_right _ _ _ _ _ .done _ joined leaves, follows⟩

variable (protocol) in
/-- Every return of the flow, entered in `phase`, is back in `phase`. -/
def balanced (flow : Flow Op) (phase : Phase) : Bool :=
  match flow.check protocol phase with
  | some exits => (exits.done = none ∨ exits.done = some phase) ∧
      (exits.ret = none ∨ exits.ret = some phase)
  | none => false

theorem run_of_balanced {flow : Flow Op} {phase : Phase} {ops : List Op}
    (balanced : flow.balanced protocol phase = true) (returns : flow.Returns ops) :
    protocol.run phase ops = some phase := by
  cases checked : flow.check protocol phase with
  | none => simp [Flow.balanced, checked] at balanced
  | some exits =>
      simp only [Flow.balanced, checked, decide_eq_true_eq] at balanced
      rcases returns with run | run
      · obtain ⟨last, leaves, follows⟩ := check_sound checked run
        rcases balanced.1 with never | back
        · cases never.symm.trans leaves
        · exact follows.trans (leaves.symm.trans back)
      · obtain ⟨last, leaves, follows⟩ := check_sound checked run
        rcases balanced.2 with never | back
        · cases never.symm.trans leaves
        · exact follows.trans (leaves.symm.trans back)

end Flow

end GlesBridge.Systems
