import GlesBridge.Data.Index
import GlesBridge.Stub.EntryPoint
import GlesBridge.Systems.Transition

namespace GlesBridge.Stub

open GlesBridge.Systems

/-! The calls whose way through the bridge hangs on tables of the stub: a flush
of a mapped range, and the dispatchers generated for extension functions. -/

/-! ## Mapped buffers -/

abbrev maxMaps : Nat := 64

/-- One entry of `stub_maps`; a null `ptr` is 0. -/
structure StubMapEntry where
  id : UInt32
  ptr : UInt64
  length : Int64
  target : UInt32
  offset : Int64
  buffer : UInt32
  access : UInt32

structure GLState where
  arrayBuffer : UInt32
  pixelPackBuffer : UInt32
  pixelUnpackBuffer : UInt32
  uniformBuffer : UInt32
  textureBuffer : UInt32
  transformFeedbackBuffer : UInt32
  copyReadBuffer : UInt32
  copyWriteBuffer : UInt32
  shaderStorageBuffer : UInt32
  atomicCounterBuffer : UInt32
  dispatchIndirectBuffer : UInt32
  drawIndirectBuffer : UInt32

/-- What the lookup of a mapping reads. `ebo` is the element array buffer of the
vertex array object that is current in a context. -/
structure BufferState where
  stubMaps : Fin maxMaps → StubMapEntry
  stubGlState : UInt32 → GLState
  ebo : UInt32 → UInt32

def getBoundBuffer (buffers : BufferState) (ctx target : UInt32) : UInt32 :=
  let bound := buffers.stubGlState ctx
  match target.toNat with
  | 0x8892 => bound.arrayBuffer
  | 0x8893 => buffers.ebo ctx
  | 0x88EB => bound.pixelPackBuffer
  | 0x88EC => bound.pixelUnpackBuffer
  | 0x8A11 => bound.uniformBuffer
  | 0x8C2A => bound.textureBuffer
  | 0x8C8E => bound.transformFeedbackBuffer
  | 0x8F36 => bound.copyReadBuffer
  | 0x8F37 => bound.copyWriteBuffer
  | 0x90D2 => bound.shaderStorageBuffer
  | 0x92C0 => bound.atomicCounterBuffer
  | 0x90EE => bound.dispatchIndirectBuffer
  | 0x8F3F => bound.drawIndirectBuffer
  | _ => 0

/-- The tests of the loop in `glFlushMappedBufferRange`, on 64-bit sums. -/
def StubMapEntry.Covers (entry : StubMapEntry) (buffer : UInt32) (offset length : Int64) : Prop :=
  entry.ptr ≠ 0 ∧ entry.buffer = buffer ∧ ¬ offset < entry.offset ∧
    ¬ offset + length > entry.offset + entry.length

instance (entry : StubMapEntry) (buffer : UInt32) (offset length : Int64) :
    Decidable (entry.Covers buffer offset length) := by
  unfold StubMapEntry.Covers
  infer_instance

/-- The first entry from 1 on that passes. -/
def findFlushed (buffers : BufferState) (ctx target : UInt32) (offset length : Int64) :
    Option (Fin maxMaps) :=
  (List.finRange maxMaps).tail.find? fun index =>
    (buffers.stubMaps index).Covers (getBoundBuffer buffers ctx target) offset length

def glFlushMappedBufferRange (buffers : BufferState) (ctx target : UInt32)
    (offset length : Int64) : Flow BridgeOp :=
  .seq begin <|
    match findFlushed buffers ctx target offset length with
    | none => .ret
    | some _ => .block [dataWrite, sendVoid]

theorem mem_tail_finRange {index : Fin maxMaps} :
    index ∈ (List.finRange maxMaps).tail ↔ index ≠ 0 := by
  have shape : List.finRange maxMaps = 0 :: (List.finRange maxMaps).tail := by decide
  have nodup := List.nodup_finRange maxMaps
  have member := List.mem_finRange index
  rw [shape] at nodup member
  constructor
  · rintro present rfl
    exact (List.nodup_cons.mp nodup).1 present
  · exact fun different => (List.mem_cons.mp member).resolve_left different

theorem findFlushed_eq_none_iff {buffers : BufferState} {ctx target : UInt32}
    {offset length : Int64} :
    findFlushed buffers ctx target offset length = none ↔ ∀ index, index ≠ 0 →
      ¬ (buffers.stubMaps index).Covers (getBoundBuffer buffers ctx target) offset length := by
  simp [findFlushed, List.find?_eq_none, mem_tail_finRange]

/-! ## Generated dispatchers -/

/-- A prototype found by one of the generators, as far as the code they emit
depends on it. -/
structure Prototype where
  name : String
  ret : String

structure ProcEntry where
  name : String
  idx : UInt32
  resolved : Bool

abbrev ProcTable := List ProcEntry

/-- The table a generator emits for the prototypes it has found. -/
def procTable (funcs : List Prototype) : ProcTable :=
  funcs.zipIdx.map fun (function, idx) => ⟨function.name, .ofNat idx, false⟩

/-- `find_proc`, and `egl_find_proc` on the other table. -/
def findProc (table : ProcTable) (name : String) : Option ProcEntry :=
  table.find? fun entry => entry.name = name

/-- The function emitted as `dispatch_<name>`. -/
def dispatch (table : ProcTable) (function : Prototype) : Flow BridgeOp :=
  .seq begin <|
    match findProc table function.name with
    | none => .ret
    | some entry =>
        if entry.idx = 0 then .ret
        else if function.ret = "void" then sendVoid else sendCall

/-- The assignments to `p->idx` and `p->resolved` for the entry `find_proc` gives. -/
def resolve (name : String) (idx : UInt32) : ProcTable → ProcTable
  | [] => []
  | entry :: rest =>
      if entry.name = name then { entry with idx, resolved := true } :: rest
      else entry :: resolve name idx rest

inductive Api where
  | gles
  | egl
  deriving DecidableEq

/-- The stub's process as its clients see it; `held` lists the dispatchers that
`eglGetProcAddress` has handed out. -/
structure StubState where
  buffers : BufferState
  procs : Api → ProcTable
  held : List (Api × String)

/-- The table `eglGetProcAddress` settles on. -/
def StubState.tableOf (stub : StubState) (name : String) : Option (Api × ProcEntry) :=
  match findProc (stub.procs .gles) name with
  | some entry => some (.gles, entry)
  | none => (findProc (stub.procs .egl) name).map fun entry => (.egl, entry)

/-- `eglGetProcAddress` past the names it knows itself, with the proxy's answer. -/
def eglGetProcAddress (stub : StubState) (name : String) (answer : UInt32) : StubState :=
  match stub.tableOf name with
  | none => stub
  | some (api, entry) =>
      if entry.resolved then { stub with held := (api, name) :: stub.held }
      else if answer = 0 then stub
      else
        { stub with
          procs := Function.update stub.procs api (resolve name answer (stub.procs api))
          held := (api, name) :: stub.held }

/-- What clients do to the tables. The bindings and mappings may become
anything. -/
inductive StubStep (stub : StubState) : Unit → StubState → Prop where
  | getProcAddress (name : String) (answer : UInt32) :
      StubStep stub () (eglGetProcAddress stub name answer)
  | bind (buffers : BufferState) : StubStep stub () { stub with buffers }

def stubSystem (funcs : Api → List Prototype) : Lts StubState Unit where
  Initial stub := stub.procs = (fun api => procTable (funcs api)) ∧ stub.held = []
  Step := StubStep

theorem findProc_resolve (name other : String) (idx : UInt32) (table : ProcTable) :
    findProc (resolve name idx table) other =
      if other = name then
        (findProc table name).map fun entry => { entry with idx, resolved := true }
      else findProc table other := by
  induction table with
  | nil => simp [resolve, findProc]
  | cons entry rest ih =>
      simp only [findProc] at ih
      by_cases here : entry.name = name
      · by_cases same : other = name
        · simp [resolve, findProc, here, same]
        · have apart : name ≠ other := fun equal => same equal.symm
          simp [resolve, findProc, here, same, apart]
      · by_cases same : other = name
        · simp only [same, if_true] at ih
          simp [resolve, findProc, here, same, ih]
        · simp only [same, if_false] at ih
          by_cases there : entry.name = other <;>
            simp [resolve, findProc, here, same, there, ih]

/-- An entry that has been resolved, and the entry of a dispatcher that has been
handed out, carry an index of the proxy. -/
structure Resolved (stub : StubState) : Prop where
  idx : ∀ api name entry, findProc (stub.procs api) name = some entry → entry.resolved = true →
    entry.idx ≠ 0
  held : ∀ api name, (api, name) ∈ stub.held →
    ∃ entry, findProc (stub.procs api) name = some entry ∧ entry.idx ≠ 0

theorem StubState.tableOf_some {stub : StubState} {name : String} {api : Api} {entry : ProcEntry}
    (found : stub.tableOf name = some (api, entry)) :
    findProc (stub.procs api) name = some entry := by
  unfold StubState.tableOf at found
  split at found
  next first gles =>
    cases found
    exact gles
  next =>
    obtain ⟨second, egl, same⟩ := Option.map_eq_some_iff.mp found
    cases same
    exact egl

/-- `p->idx = idx; p->resolved = 1;` with an index that is not 0. -/
theorem Resolved.resolve {stub : StubState} (resolved : Resolved stub) {api : Api} {name : String}
    {entry : ProcEntry} {answer : UInt32} (found : findProc (stub.procs api) name = some entry)
    (answered : answer ≠ 0) :
    Resolved { stub with
      procs := Function.update stub.procs api (resolve name answer (stub.procs api))
      held := (api, name) :: stub.held } := by
  have lookup (other : Api) (wanted : String) :
      findProc (Function.update stub.procs api (Stub.resolve name answer (stub.procs api)) other)
          wanted =
        if other = api ∧ wanted = name then some { entry with idx := answer, resolved := true }
        else findProc (stub.procs other) wanted := by
    by_cases same : other = api
    · subst same
      by_cases called : wanted = name <;> simp [findProc_resolve, called, found]
    · simp [same]
  constructor
  · intro other wanted result present marked
    rw [lookup] at present
    split at present
    · cases present
      exact answered
    · exact resolved.idx other wanted result present marked
  · intro other wanted member
    rw [lookup]
    split
    · exact ⟨_, rfl, answered⟩
    next different =>
      refine resolved.held other wanted ((List.mem_cons.mp member).resolve_left ?_)
      rintro ⟨rfl, rfl⟩
      exact different ⟨rfl, rfl⟩

theorem Resolved.step {stub next : StubState} (resolved : Resolved stub)
    (taken : StubStep stub () next) : Resolved next := by
  cases taken with
  | bind buffers => exact ⟨resolved.idx, resolved.held⟩
  | getProcAddress name answer =>
      unfold eglGetProcAddress
      split
      · exact resolved
      next api entry found =>
        have present := StubState.tableOf_some found
        split_ifs with done failed
        · refine ⟨resolved.idx, fun other wanted member => ?_⟩
          rcases List.mem_cons.mp member with same | before
          · cases same
            exact ⟨entry, present, resolved.idx api name entry present done⟩
          · exact resolved.held other wanted before
        · exact resolved
        · exact resolved.resolve present failed

theorem Resolved.of_run {funcs : Api → List Prototype} {trace : List Unit} {stub : StubState}
    (run : (stubSystem funcs).Run trace stub) : Resolved stub := by
  induction run with
  | start initial =>
      obtain ⟨tables, none⟩ := initial
      refine ⟨fun api name entry found marked => ?_, fun api name member => ?_⟩
      · rw [tables] at found
        obtain ⟨generated, -, same⟩ := List.mem_map.mp (List.mem_of_find?_eq_some found)
        simp [← same] at marked
      · simp [none] at member
  | step run taken ih => exact ih.step taken

/-! ## Calls -/

inductive Call where
  | plain (entry : EntryPoint)
  | glFlushMappedBufferRange (ctx target : UInt32) (offset length : Int64)
  | dispatch (api : Api) (function : Prototype)

def Call.flow (stub : StubState) : Call → Flow BridgeOp
  | .plain entry => entry.flow
  | .glFlushMappedBufferRange ctx target offset length =>
      Stub.glFlushMappedBufferRange stub.buffers ctx target offset length
  | .dispatch api function => Stub.dispatch (stub.procs api) function

/-- A client calls a dispatcher through the pointer it has been given. -/
def Call.Permitted (stub : StubState) : Call → Prop
  | .dispatch api function => (api, function.name) ∈ stub.held
  | _ => True

/-- A flush of a range that no mapping of the bound buffer covers. -/
def Call.FlushesUnmapped (stub : StubState) : Call → Prop
  | .glFlushMappedBufferRange ctx target offset length => ∀ index, index ≠ 0 →
      ¬ (stub.buffers.stubMaps index).Covers (getBoundBuffer stub.buffers ctx target) offset length
  | _ => False

/-- Every path of a call sends what it begins, the flush of an unmapped range
apart. -/
theorem Call.run_of_returns {stub : StubState} {call : Call} {ops : List BridgeOp}
    (resolved : Resolved stub) (permitted : call.Permitted stub)
    (mapped : ¬ call.FlushesUnmapped stub) (returns : (call.flow stub).Returns ops) :
    bridgeProtocol.run .outside ops = some .outside := by
  refine Flow.run_of_balanced ?_ returns
  cases call with
  | plain entry => exact entry.balanced
  | glFlushMappedBufferRange ctx target offset length =>
      cases found : findFlushed stub.buffers ctx target offset length with
      | none => exact absurd (findFlushed_eq_none_iff.mp found) mapped
      | some index =>
          simp only [Call.flow, Stub.glFlushMappedBufferRange, found]
          rfl
  | dispatch api function =>
      obtain ⟨entry, found, indexed⟩ := resolved.held api function.name permitted
      simp only [Call.flow, Stub.dispatch, found, if_neg indexed]
      split <;> rfl

/-- The flush of an unmapped range returns right after `bridge_begin`. -/
theorem Call.ops_of_unmapped {stub : StubState} {call : Call} {ops : List BridgeOp}
    (unmapped : call.FlushesUnmapped stub) (returns : (call.flow stub).Returns ops) :
    ops = [.begin] := by
  cases call with
  | plain | dispatch => exact unmapped.elim
  | glFlushMappedBufferRange ctx target offset length =>
      have missing := findFlushed_eq_none_iff.mpr unmapped
      simp only [Flow.Returns, Call.flow, Stub.glFlushMappedBufferRange, missing] at returns
      rcases returns with run | run
      · cases run with
        | seq start more => cases more
        | seqJump start jump => exact absurd rfl jump
      · cases run with
        | seq start more =>
            cases start
            cases more
            rfl
        | seqJump start jump => cases start

end GlesBridge.Stub
