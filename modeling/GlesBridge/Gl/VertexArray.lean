import Mathlib.Data.List.Basic
import Mathlib.Logic.Function.Basic

namespace GlesBridge.Gl

/-! Vertex array objects and buffer bindings, as GL has them. -/

def glArrayBuffer : UInt32 := 0x8892
def glElementArrayBuffer : UInt32 := 0x8893

/-- The targets of `glBindBuffer`, `GL_ELEMENT_ARRAY_BUFFER` apart. -/
def bufferTargets : List UInt32 :=
  [glArrayBuffer, 0x88EB, 0x88EC, 0x8A11, 0x8C2A, 0x8C8E, 0x8F36, 0x8F37, 0x90D2, 0x92C0, 0x90EE,
    0x8F3F]

/-- The targets of `glBindBufferBase` and `glBindBufferRange`. -/
def indexedTargets : List UInt32 := [0x8A11, 0x8C8E, 0x90D2, 0x92C0]

/-- A buffer object. A deleted object lives on where another context or vertex
array refers to it, while its name may go to a new one: the objects of a name
are told apart by how often the name had been deleted before. -/
structure BufferObject where
  name : UInt32
  life : Nat
deriving DecidableEq, Repr

def BufferObject.unbound : BufferObject := ⟨0, 0⟩

structure VertexFormat where
  size : Int32
  type : UInt32
  normalized : UInt8
  stride : Int32
  pointer : UInt64
  integer : Bool
deriving DecidableEq, Repr

structure VertexAttrib where
  format : VertexFormat
  buffer : BufferObject
  enabled : Bool
  divisor : UInt32
deriving DecidableEq, Repr

structure VertexArray where
  attribs : UInt32 → VertexAttrib
  element : BufferObject

/-- What GL refuses is a matter of the arguments, of whether the default vertex
array is bound and of whether a buffer is. Sixteen attributes are the least that
there are. -/
structure VertexDriver where
  format : (named buffered : Bool) → UInt32 → VertexFormat → Bool
  attrib : UInt32 → Bool
  attrib_of_lt : ∀ index, index.toNat < 16 → attrib index = true

/-- A driver with sixteen attributes that takes each size from 1 to 4. -/
def VertexDriver.plain : VertexDriver where
  format _ _ _ pointer := decide (1 ≤ pointer.size) && decide (pointer.size ≤ 4)
  attrib index := decide (index.toNat < 16)
  attrib_of_lt index below := by simpa using below

/-- The vertex arrays and buffer bindings of a context. -/
structure VertexContext where
  generated : UInt32 → Bool
  arrays : UInt32 → VertexArray
  binding : UInt32
  buffers : UInt32 → BufferObject

def VertexAttrib.initial : VertexAttrib where
  format := { size := 4, type := 0x1406, normalized := 0, stride := 0, pointer := 0, integer := false }
  buffer := .unbound
  enabled := false
  divisor := 0

def VertexArray.initial : VertexArray where
  attribs _ := .initial
  element := .unbound

namespace VertexContext

def initial : VertexContext where
  generated _ := false
  arrays _ := .initial
  binding := 0
  buffers _ := .unbound

variable (driver : VertexDriver) (life : UInt32 → Nat) (context : VertexContext)

def setArray (array : VertexArray) : VertexContext :=
  { context with arrays := Function.update context.arrays context.binding array }

def setAttrib (index : UInt32) (attrib : VertexAttrib) : VertexContext :=
  context.setArray { context.arrays context.binding with
    attribs := Function.update (context.arrays context.binding).attribs index attrib }

def attrib (index : UInt32) : VertexAttrib := (context.arrays context.binding).attribs index

/-- `names` is what GL answers. -/
def genVertexArrays (names : List UInt32) : VertexContext :=
  { context with
    generated := fun name => decide (name ∈ names) || context.generated name
    arrays := fun name => if name ∈ names then .initial else context.arrays name }

def deleteVertexArrays (names : List UInt32) : VertexContext :=
  { context with
    generated := fun name => context.generated name && !decide (name ∈ names)
    binding := if context.binding ∈ names then 0 else context.binding }

def Accepts (array : UInt32) : Prop := array = 0 ∨ context.generated array = true

instance (array : UInt32) : Decidable (context.Accepts array) := by
  unfold Accepts
  infer_instance

def bindVertexArray (array : UInt32) : VertexContext :=
  if context.Accepts array then { context with binding := array } else context

/-- A name that is not in use gets a new object. -/
def bindBuffer (target buffer : UInt32) : VertexContext :=
  if target = glElementArrayBuffer then
    context.setArray { context.arrays context.binding with element := ⟨buffer, life buffer⟩ }
  else if target ∈ bufferTargets then
    { context with buffers := Function.update context.buffers target ⟨buffer, life buffer⟩ }
  else context

/-- The side effect of the indexed binds on the generic binding. -/
def bindBufferIndexed (target buffer : UInt32) : VertexContext :=
  if target ∈ indexedTargets then
    { context with buffers := Function.update context.buffers target ⟨buffer, life buffer⟩ }
  else context

/-- `GL_ARRAY_BUFFER_BINDING`. -/
def arrayBufferBinding : UInt32 := (context.buffers glArrayBuffer).name

def vertexAttribPointer (index : UInt32) (format : VertexFormat) : VertexContext :=
  if driver.format (context.binding ≠ 0) (context.arrayBufferBinding ≠ 0) index format then
    context.setAttrib index
      { context.attrib index with format, buffer := context.buffers glArrayBuffer }
  else context

def setEnabled (enabled : Bool) (index : UInt32) : VertexContext :=
  if driver.attrib index then context.setAttrib index { context.attrib index with enabled }
  else context

def vertexAttribDivisor (index divisor : UInt32) : VertexContext :=
  if driver.attrib index then context.setAttrib index { context.attrib index with divisor }
  else context

/-- The object goes out of the bindings of the current context and out of the
vertex array bound there. -/
def unbindBuffer (object : BufferObject) : VertexContext :=
  let cleared (bound : BufferObject) : BufferObject :=
    if bound = object then .unbound else bound
  let array := context.arrays context.binding
  { context.setArray {
      attribs := fun index => { array.attribs index with buffer := cleared (array.attribs index).buffer }
      element := cleared array.element } with
    buffers := fun target => cleared (context.buffers target) }

/-! ### The bound vertex array -/

section

variable {driver : VertexDriver} {life : UInt32 → Nat} {context : VertexContext}

theorem bindVertexArray_binding (array : UInt32) :
    (context.bindVertexArray array).binding =
      if context.Accepts array then array else context.binding := by
  unfold bindVertexArray
  split_ifs <;> rfl

@[simp] theorem setAttrib_binding (index : UInt32) (attrib : VertexAttrib) :
    (context.setAttrib index attrib).binding = context.binding := rfl

@[simp] theorem bindBuffer_binding (target buffer : UInt32) :
    (context.bindBuffer life target buffer).binding = context.binding := by
  unfold bindBuffer
  split_ifs <;> rfl

@[simp] theorem bindBufferIndexed_binding (target buffer : UInt32) :
    (context.bindBufferIndexed life target buffer).binding = context.binding := by
  unfold bindBufferIndexed
  split_ifs <;> rfl

@[simp] theorem vertexAttribPointer_binding (index : UInt32) (format : VertexFormat) :
    (context.vertexAttribPointer driver index format).binding = context.binding := by
  unfold vertexAttribPointer
  split_ifs <;> rfl

@[simp] theorem setEnabled_binding (enabled : Bool) (index : UInt32) :
    (context.setEnabled driver enabled index).binding = context.binding := by
  unfold setEnabled
  split_ifs <;> rfl

@[simp] theorem vertexAttribDivisor_binding (index divisor : UInt32) :
    (context.vertexAttribDivisor driver index divisor).binding = context.binding := by
  unfold vertexAttribDivisor
  split_ifs <;> rfl

end

end VertexContext

/-! ## All contexts -/

/-- Contexts of one group share their buffers: `lives` counts, for each group,
how often a name has been deleted. -/
structure VertexWorld (ι : Type) where
  contexts : ι → VertexContext
  lives : Nat → UInt32 → Nat

namespace VertexWorld

def initial {ι : Type} : VertexWorld ι where
  contexts _ := .initial
  lives _ _ := 0

variable {ι : Type} [DecidableEq ι] (group : ι → Nat) (world : VertexWorld ι) (ctx : ι)

def life (buffer : UInt32) : Nat := world.lives (group ctx) buffer

/-- The object that has the name now. -/
def object (buffer : UInt32) : BufferObject := ⟨buffer, world.life group ctx buffer⟩

def set (context : VertexContext) : VertexWorld ι :=
  { world with contexts := Function.update world.contexts ctx context }

def deleteBuffer (buffer : UInt32) : VertexWorld ι :=
  if buffer = 0 then world
  else
    { world.set ctx ((world.contexts ctx).unbindBuffer (world.object group ctx buffer)) with
      lives := Function.update world.lives (group ctx)
        (Function.update (world.lives (group ctx)) buffer (world.life group ctx buffer + 1)) }

def deleteBuffers (buffers : List UInt32) : VertexWorld ι :=
  buffers.foldl (fun world buffer => world.deleteBuffer group ctx buffer) world

variable {group world ctx}

@[simp] theorem set_contexts (context : VertexContext) (other : ι) :
    (world.set ctx context).contexts other =
      if other = ctx then context else world.contexts other := by
  simp [set, Function.update_apply]

@[simp] theorem set_lives (context : VertexContext) : (world.set ctx context).lives = world.lives :=
  rfl

theorem deleteBuffer_contexts {buffer : UInt32} (given : buffer ≠ 0) (other : ι) :
    (world.deleteBuffer group ctx buffer).contexts other =
      if other = ctx then (world.contexts ctx).unbindBuffer (world.object group ctx buffer)
      else world.contexts other := by
  unfold deleteBuffer
  rw [if_neg given]
  exact set_contexts _ _

theorem deleteBuffer_life {buffer : UInt32} (given : buffer ≠ 0) (other : ι) (name : UInt32) :
    (world.deleteBuffer group ctx buffer).life group other name =
      if group other = group ctx ∧ name = buffer then world.life group ctx buffer + 1
      else world.life group other name := by
  unfold life deleteBuffer
  rw [if_neg given]
  by_cases shared : group other = group ctx
  · rw [shared]
    simp [Function.update_apply, life]
  · simp [shared]

theorem deleteBuffer_binding (buffer : UInt32) (other : ι) :
    ((world.deleteBuffer group ctx buffer).contexts other).binding =
      (world.contexts other).binding := by
  unfold deleteBuffer
  by_cases zero : buffer = 0
  · rw [if_pos zero]
  · by_cases same : other = ctx
    · subst same
      simp [zero, VertexContext.unbindBuffer, VertexContext.setArray]
    · simp [zero, same]

theorem deleteBuffers_binding (buffers : List UInt32) (other : ι) :
    ((world.deleteBuffers group ctx buffers).contexts other).binding =
      (world.contexts other).binding := by
  unfold deleteBuffers
  induction buffers generalizing world with
  | nil => rfl
  | cons buffer rest ih => rw [List.foldl_cons, ih, deleteBuffer_binding]

end VertexWorld

end GlesBridge.Gl
