import GlesBridge.Data.Index
import Mathlib.Data.Fin.Basic
import Mathlib.Logic.Function.Basic

namespace GlesBridge.Shared

/-! The records of vertex array state that the stub and the proxy both keep
(`gles_util_shared.h`). -/

abbrev maxContexts : Nat := 8
abbrev maxVaos : Nat := 1024
abbrev maxVertexAttribs : Nat := 16

/-- An index into the arrays with one entry for each context. -/
abbrev Ctx := Fin maxContexts

abbrev VaoIndex := Fin maxVaos

abbrev AttribIndex := Fin maxVertexAttribs

structure AttribState where
  size : Int32
  type : UInt32
  normalized : UInt8
  stride : Int32
  enabled : Bool
  pointer : UInt64
  divisor : UInt32
  integer : Bool
  vbo : UInt32
deriving DecidableEq, Repr

structure VAOState where
  attribs : AttribIndex → AttribState
  ebo : UInt32
  initialised : Bool

structure GLContextState where
  vaos : VaoIndex → VAOState
  currentVao : UInt32
  primitiveRestart : Bool

/-! ## Zeroed memory -/

def AttribState.zero : AttribState where
  size := 0
  type := 0
  normalized := 0
  stride := 0
  enabled := false
  pointer := 0
  divisor := 0
  integer := false
  vbo := 0

def VAOState.zero : VAOState where
  attribs _ := .zero
  ebo := 0
  initialised := false

def GLContextState.zero : GLContextState where
  vaos _ := .zero
  currentVao := 0
  primitiveRestart := false

/-! ## Access by name -/

namespace GLContextState

variable (state : GLContextState)

/-- `ctx->vaos[name]`. An index past the array reads as zeroed memory here, and
`setVao` leaves it alone; the callers say when they stay inside. -/
def vao (name : UInt32) : VAOState :=
  if below : name.toNat < maxVaos then state.vaos ⟨name.toNat, below⟩ else .zero

def setVao (name : UInt32) (vao : VAOState) : GLContextState :=
  if below : name.toNat < maxVaos then
    { state with vaos := Function.update state.vaos ⟨name.toNat, below⟩ vao }
  else state

/-- `vao->attribs[index]` of the current vertex array. -/
def attrib (index : AttribIndex) : AttribState := (state.vao state.currentVao).attribs index

def setAttrib (index : AttribIndex) (attrib : AttribState) : GLContextState :=
  state.setVao state.currentVao { state.vao state.currentVao with
    attribs := Function.update (state.vao state.currentVao).attribs index attrib }

/-- The loop after the generation of names. -/
def zeroVaos (names : List UInt32) : GLContextState :=
  names.foldl (fun state name => state.setVao name .zero) state

variable {state} {name other : UInt32} {entry : VAOState}

@[simp] theorem vao_zero : zero.vao name = .zero := by
  unfold vao
  split_ifs <;> rfl

theorem vao_setVao (below : name.toNat < maxVaos) :
    (state.setVao name entry).vao other = if other = name then entry else state.vao other := by
  unfold vao setVao
  rw [dif_pos below]
  by_cases same : other = name
  · subst same
    simp [below]
  · have apart : other.toNat ≠ name.toNat := fun equal => same (UInt32.toNat_inj.mp equal)
    simp [same, Fin.ext_iff, apart]

@[simp] theorem setVao_currentVao : (state.setVao name entry).currentVao = state.currentVao := by
  unfold setVao
  split_ifs <;> rfl

@[simp] theorem setAttrib_currentVao {index : AttribIndex} {attrib : AttribState} :
    (state.setAttrib index attrib).currentVao = state.currentVao :=
  setVao_currentVao

theorem zeroVaos_currentVao (names : List UInt32) :
    (state.zeroVaos names).currentVao = state.currentVao := by
  unfold zeroVaos
  induction names generalizing state with
  | nil => rfl
  | cons name rest ih => rw [List.foldl_cons, ih, setVao_currentVao]

theorem vao_zeroVaos {names : List UInt32} (below : ∀ name ∈ names, name.toNat < maxVaos) :
    (state.zeroVaos names).vao other = if other ∈ names then .zero else state.vao other := by
  unfold zeroVaos
  induction names generalizing state with
  | nil => simp
  | cons name rest ih =>
      rw [List.foldl_cons, ih fun name member => below name (.tail _ member),
        vao_setVao (below name (.head _))]
      by_cases later : other ∈ rest
      · simp [later]
      · simp [later]

/-! Zero written to zeroed memory changes nothing. -/

theorem setVao_zero (name : UInt32) : zero.setVao name .zero = zero := by
  unfold setVao
  split_ifs
  · simp only [zero, mk.injEq, and_true]
    exact Function.update_eq_self _ _
  · rfl

theorem zeroVaos_zero (names : List UInt32) : zero.zeroVaos names = zero := by
  unfold zeroVaos
  induction names with
  | nil => rfl
  | cons name rest ih => rw [List.foldl_cons, setVao_zero, ih]

theorem setAttrib_zero (index : AttribIndex) : zero.setAttrib index .zero = zero := by
  have same : Function.update (zero.vao zero.currentVao).attribs index .zero =
      VAOState.zero.attribs := by
    rw [vao_zero]
    exact Function.update_eq_self _ _
  unfold setAttrib
  rw [same, vao_zero]
  exact setVao_zero _

end GLContextState

/-! ## Records of one side -/

/-- What a call in one context sees of the attribute records of a side: the
global copy of the attributes, and the context. -/
structure Records where
  attribState : AttribIndex → AttribState
  ctx : GLContextState

namespace Records

variable (records : Records) (index : UInt32) (assign : AttribState → AttribState)

/-- An assignment to members of the global copy, whose whole then goes to the
current vertex array. -/
def copyAttrib : Records :=
  if below : index.toNat < maxVertexAttribs then
    let attrib := assign (records.attribState ⟨index.toNat, below⟩)
    { attribState := Function.update records.attribState ⟨index.toNat, below⟩ attrib
      ctx := records.ctx.setAttrib ⟨index.toNat, below⟩ attrib }
  else records

/-- The same assignment to the global copy and to the current vertex array. -/
def setAttribs : Records :=
  if below : index.toNat < maxVertexAttribs then
    { attribState := Function.update records.attribState ⟨index.toNat, below⟩
        (assign (records.attribState ⟨index.toNat, below⟩))
      ctx := records.ctx.setAttrib ⟨index.toNat, below⟩
        (assign (records.ctx.attrib ⟨index.toNat, below⟩)) }
  else records

variable {records index assign}

@[simp] theorem copyAttrib_currentVao :
    (records.copyAttrib index assign).ctx.currentVao = records.ctx.currentVao := by
  unfold copyAttrib
  split_ifs
  · exact GLContextState.setAttrib_currentVao
  · rfl

@[simp] theorem setAttribs_currentVao :
    (records.setAttribs index assign).ctx.currentVao = records.ctx.currentVao := by
  unfold setAttribs
  split_ifs
  · exact GLContextState.setAttrib_currentVao
  · rfl

end Records

end GlesBridge.Shared
