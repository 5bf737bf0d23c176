import GlesBridge.Stub.Vertex

namespace GlesBridge.Proxy

open GlesBridge.Gl GlesBridge.Shared GlesBridge.Stub

/-! The handlers of the proxy for vertex arrays, buffer bindings and vertex
attributes, which call GL and keep records of their own. -/

/-- `g_proxy_ctx`, `g_attrib_proxy_state` and GL. -/
structure ProxyState where
  proxyCtx : Ctx → GLContextState
  attribProxyState : AttribIndex → AttribState
  world : VertexWorld Ctx

/-- The proxy as it starts. -/
def ProxyState.zero : ProxyState where
  proxyCtx _ := .zero
  attribProxyState _ := .zero
  world := .initial

/-- The arguments with which a record is submitted; `glVertexAttribIPointer` has
no `normalized`. -/
def format (attrib : AttribState) : VertexFormat where
  size := attrib.size
  type := attrib.type
  normalized := if attrib.integer then 0 else attrib.normalized
  stride := attrib.stride
  pointer := attrib.pointer
  integer := attrib.integer

def attribName (index : AttribIndex) : UInt32 := .ofNat index

theorem attribName_eq {slot : AttribIndex} {index : UInt32} :
    attribName slot = index ↔ (slot : Nat) = index.toNat := by
  have small : (slot : Nat) < 2 ^ 32 := slot.isLt.trans (by decide)
  rw [← UInt32.toNat_inj, attribName, UInt32.toNat_ofNat_of_lt' small]

theorem attribName_injective : Function.Injective attribName := by
  intro slot other same
  have first := attribName_eq.mp same
  have second := attribName_eq.mp (rfl : attribName other = attribName other)
  exact Fin.ext (first.trans second.symm)

/-! ## Submitting records -/

section

variable (driver : VertexDriver) (life : UInt32 → Nat)

def submit (index : AttribIndex) (attrib : AttribState) (context : VertexContext) : VertexContext :=
  context.vertexAttribPointer driver (attribName index) (format attrib)

/-- The attributes that `h_glBindVertexArray` does not skip. -/
def restored (attrib : AttribState) : Bool :=
  !(!attrib.enabled && attrib.size == 0 && attrib.vbo == 0) &&
    !(decide (attrib.size < 1) || decide (4 < attrib.size))

def restoreAttrib (vao : VAOState) (context : VertexContext) (index : AttribIndex) :
    VertexContext :=
  let attrib := vao.attribs index
  let context := submit driver index attrib (context.bindBuffer life glArrayBuffer attrib.vbo)
  (context.setEnabled driver attrib.enabled (attribName index)).vertexAttribDivisor driver
    (attribName index) attrib.divisor

/-- What `h_glBindVertexArray` does after the bind: the element buffer and the
attributes of the record are submitted again. -/
def restore (vao : VAOState) (context : VertexContext) : VertexContext :=
  let context := context.bindBuffer life glElementArrayBuffer vao.ebo
  let used := (List.finRange maxVertexAttribs).filter fun index => restored (vao.attribs index)
  let after := used.foldl (restoreAttrib driver life vao) context
  if used = [] then after else after.bindBuffer life glArrayBuffer context.arrayBufferBinding

def rebuildAttrib (vao : VAOState) (context : VertexContext) (index : AttribIndex) :
    VertexContext :=
  submit driver index (vao.attribs index) (context.bindBuffer life glArrayBuffer 0)

/-- The client arrays that a draw submits again. -/
def rebuild (vao : VAOState) (context : VertexContext) : VertexContext :=
  let used := (List.finRange maxVertexAttribs).filter fun index =>
    (vao.attribs index).enabled && (vao.attribs index).vbo == 0
  let after := used.foldl (rebuildAttrib driver life vao) context
  if used = [] then after else after.bindBuffer life glArrayBuffer context.arrayBufferBinding

/-- A pointer is set with the buffer that the stub had bound, whose binding is put back. -/
def setPointer (index : UInt32) (pointer : VertexFormat) (vbo : UInt32) (context : VertexContext) :
    VertexContext :=
  if vbo = 0 then context.vertexAttribPointer driver index pointer
  else
    ((context.bindBuffer life glArrayBuffer vbo).vertexAttribPointer driver index
      pointer).bindBuffer life glArrayBuffer context.arrayBufferBinding

end

/-! ## Handlers -/

namespace ProxyState

variable (driver : VertexDriver) (group : Ctx → Nat) (state : ProxyState) (ctx : Ctx)

/-- A call to GL in the target context of the command. -/
def gl (call : (UInt32 → Nat) → VertexContext → VertexContext) : ProxyState :=
  { state with
    world := state.world.set ctx (call (state.world.life group ctx) (state.world.contexts ctx)) }

def setProxyCtx (context : GLContextState) : ProxyState :=
  { state with proxyCtx := Function.update state.proxyCtx ctx context }

def records : Records where
  attribState := state.attribProxyState
  ctx := state.proxyCtx ctx

def setRecords (records : Records) : ProxyState :=
  { state.setProxyCtx ctx records.ctx with attribProxyState := records.attribState }

def hGlGenVertexArrays (arrays : List UInt32) : ProxyState :=
  (state.gl group ctx fun _ context => context.genVertexArrays arrays).setProxyCtx ctx
    ((state.proxyCtx ctx).zeroVaos arrays)

def hGlDeleteVertexArrays (arrays : List UInt32) : ProxyState :=
  state.gl group ctx fun _ context => context.deleteVertexArrays arrays

/-- The record of the vertex array, which is wiped at its first bind. -/
def boundRecord (array : UInt32) : VAOState :=
  let vao := (state.proxyCtx ctx).vao array
  if vao.initialised then vao else { VAOState.zero with initialised := true }

def hGlBindVertexArray (array : UInt32) : ProxyState :=
  let vao := state.boundRecord ctx array
  (state.gl group ctx fun life context =>
      restore driver life vao (context.bindVertexArray array)).setProxyCtx ctx
    ({ state.proxyCtx ctx with currentVao := array }.setVao array vao)

def hGlBindBuffer (target buffer : UInt32) : ProxyState :=
  let context := state.proxyCtx ctx
  let noted :=
    if target = glElementArrayBuffer then
      state.setProxyCtx ctx
        (context.setVao context.currentVao { context.vao context.currentVao with ebo := buffer })
    else state
  noted.gl group ctx fun life context => context.bindBuffer life target buffer

def hGlBindBufferBase (target buffer : UInt32) : ProxyState :=
  state.gl group ctx fun life context => context.bindBufferIndexed life target buffer

def hGlBindBufferRange (target buffer : UInt32) : ProxyState :=
  state.gl group ctx fun life context => context.bindBufferIndexed life target buffer

def hGlDeleteBuffers (buffers : List UInt32) : ProxyState :=
  { state with world := state.world.deleteBuffers group ctx buffers }

def hGlVertexAttribPointer (index : UInt32) (size : Int32) (type : UInt32) (norm : UInt8)
    (stride : Int32) (ptr : UInt64) (vbo : UInt32) : ProxyState :=
  (state.setRecords ctx ((state.records ctx).copyAttrib index fun attrib =>
      { attrib with
        size, type, normalized := norm, stride, pointer := ptr, vbo, integer := false })).gl
    group ctx fun life => setPointer driver life index
      { size, type, normalized := norm, stride, pointer := ptr, integer := false } vbo

def hGlVertexAttribIPointer (index : UInt32) (size : Int32) (type : UInt32) (stride : Int32)
    (ptr : UInt64) (vbo : UInt32) : ProxyState :=
  (state.setRecords ctx ((state.records ctx).copyAttrib index fun attrib =>
      { attrib with
        size, type, normalized := 0, stride, pointer := ptr, vbo, integer := true })).gl
    group ctx fun life => setPointer driver life index
      { size, type, normalized := 0, stride, pointer := ptr, integer := true } vbo

def hGlEnableVertexAttribArray (index : UInt32) : ProxyState :=
  (state.gl group ctx fun _ context => context.setEnabled driver true index).setRecords ctx
    ((state.records ctx).setAttribs index fun attrib => { attrib with enabled := true })

def hGlDisableVertexAttribArray (index : UInt32) : ProxyState :=
  (state.gl group ctx fun _ context => context.setEnabled driver false index).setRecords ctx
    ((state.records ctx).setAttribs index fun attrib => { attrib with enabled := false })

def hGlVertexAttribDivisor (index divisor : UInt32) : ProxyState :=
  (state.gl group ctx fun _ context => context.vertexAttribDivisor driver index divisor).setRecords
    ctx ((state.records ctx).setAttribs index fun attrib => { attrib with divisor })

/-- The client arrays are found at their places in the data area. -/
def patch (patches : List (AttribIndex × UInt64)) : ProxyState :=
  state.setRecords ctx (patches.foldl (fun records (index, pointer) =>
    records.setAttribs (attribName index) fun attrib => { attrib with pointer })
    (state.records ctx))

def currentRecord : VAOState := (state.proxyCtx ctx).vao (state.proxyCtx ctx).currentVao

def hGlDrawArrays (patches : List (AttribIndex × UInt64)) : ProxyState :=
  let state := state.patch ctx patches
  state.gl group ctx fun life => rebuild driver life (state.currentRecord ctx)

def hGlDrawElements (clientPtr : Bool) (patches : List (AttribIndex × UInt64)) : ProxyState :=
  let state := state.patch ctx patches
  if clientPtr then state.gl group ctx fun life => rebuild driver life (state.currentRecord ctx)
  else state

/-- The dispatch of a command to its handler. -/
def handle : VertexCommand → ProxyState
  | .glGenVertexArrays arrays => state.hGlGenVertexArrays group ctx arrays
  | .glDeleteVertexArrays arrays => state.hGlDeleteVertexArrays group ctx arrays
  | .glBindVertexArray array => state.hGlBindVertexArray driver group ctx array
  | .glBindBuffer target buffer => state.hGlBindBuffer group ctx target buffer
  | .glBindBufferBase target _ buffer => state.hGlBindBufferBase group ctx target buffer
  | .glBindBufferRange target _ buffer _ _ => state.hGlBindBufferRange group ctx target buffer
  | .glDeleteBuffers buffers => state.hGlDeleteBuffers group ctx buffers
  | .glVertexAttribPointer index size type norm stride ptr vbo =>
      state.hGlVertexAttribPointer driver group ctx index size type norm stride ptr vbo
  | .glVertexAttribIPointer index size type stride ptr vbo =>
      state.hGlVertexAttribIPointer driver group ctx index size type stride ptr vbo
  | .glEnableVertexAttribArray index => state.hGlEnableVertexAttribArray driver group ctx index
  | .glDisableVertexAttribArray index => state.hGlDisableVertexAttribArray driver group ctx index
  | .glVertexAttribDivisor index divisor =>
      state.hGlVertexAttribDivisor driver group ctx index divisor
  | .glDrawArrays patches => state.hGlDrawArrays driver group ctx patches
  | .glDrawElements clientPtr patches => state.hGlDrawElements driver group ctx clientPtr patches

/-! ## What a handler does to the current vertex arrays -/

variable {driver group state ctx}

@[simp] theorem gl_contexts (call : (UInt32 → Nat) → VertexContext → VertexContext) (other : Ctx) :
    (state.gl group ctx call).world.contexts other =
      if other = ctx then call (state.world.life group ctx) (state.world.contexts ctx)
      else state.world.contexts other := by
  simp [gl]

@[simp] theorem gl_proxyCtx (call : (UInt32 → Nat) → VertexContext → VertexContext) :
    (state.gl group ctx call).proxyCtx = state.proxyCtx := rfl

@[simp] theorem setProxyCtx_proxyCtx (context : GLContextState) (other : Ctx) :
    (state.setProxyCtx ctx context).proxyCtx other =
      if other = ctx then context else state.proxyCtx other := by
  simp [setProxyCtx, Function.update_apply]

@[simp] theorem setProxyCtx_world (context : GLContextState) :
    (state.setProxyCtx ctx context).world = state.world := rfl

@[simp] theorem setRecords_proxyCtx (records : Records) (other : Ctx) :
    (state.setRecords ctx records).proxyCtx other =
      if other = ctx then records.ctx else state.proxyCtx other := by
  simp [setRecords, setProxyCtx, Function.update_apply]

@[simp] theorem setRecords_world (records : Records) :
    (state.setRecords ctx records).world = state.world := rfl

end ProxyState

@[simp] theorem restore_binding {driver : VertexDriver} {life : UInt32 → Nat} (vao : VAOState)
    (context : VertexContext) : (restore driver life vao context).binding = context.binding := by
  have fold (used : List AttribIndex) (start : VertexContext) :
      (used.foldl (restoreAttrib driver life vao) start).binding = start.binding := by
    induction used generalizing start with
    | nil => rfl
    | cons index rest ih =>
        rw [List.foldl_cons, ih]
        simp [restoreAttrib, submit]
  simp only [restore]
  split_ifs
  · rw [fold]
    simp
  · rw [VertexContext.bindBuffer_binding, fold]
    simp

@[simp] theorem rebuild_binding {driver : VertexDriver} {life : UInt32 → Nat} (vao : VAOState)
    (context : VertexContext) : (rebuild driver life vao context).binding = context.binding := by
  have fold (used : List AttribIndex) (start : VertexContext) :
      (used.foldl (rebuildAttrib driver life vao) start).binding = start.binding := by
    induction used generalizing start with
    | nil => rfl
    | cons index rest ih =>
        rw [List.foldl_cons, ih]
        simp [rebuildAttrib, submit]
  simp only [rebuild]
  split_ifs
  · exact fold _ _
  · rw [VertexContext.bindBuffer_binding, fold]

@[simp] theorem setPointer_binding {driver : VertexDriver} {life : UInt32 → Nat} (index : UInt32)
    (pointer : VertexFormat) (vbo : UInt32) (context : VertexContext) :
    (setPointer driver life index pointer vbo context).binding = context.binding := by
  unfold setPointer
  split_ifs <;> simp

namespace ProxyState

variable {driver : VertexDriver} {group : Ctx → Nat} {state : ProxyState} {ctx : Ctx}

/-- Only deletions and binds reach `GL_VERTEX_ARRAY_BINDING`. -/
theorem handle_binding (command : VertexCommand) (other : Ctx) :
    ((state.handle driver group ctx command).world.contexts other).binding =
      match command with
      | .glBindVertexArray array =>
          if other = ctx then ((state.world.contexts ctx).bindVertexArray array).binding
          else (state.world.contexts other).binding
      | .glDeleteVertexArrays arrays =>
          if other = ctx ∧ (state.world.contexts ctx).binding ∈ arrays then 0
          else (state.world.contexts other).binding
      | _ => (state.world.contexts other).binding := by
  by_cases here : other = ctx
  · subst here
    cases command with
    | glDeleteVertexArrays arrays =>
        simp [handle, hGlDeleteVertexArrays, VertexContext.deleteVertexArrays]
    | glBindBuffer target buffer =>
        simp only [handle, hGlBindBuffer]
        split_ifs <;> simp
    | glDeleteBuffers buffers =>
        simp [handle, hGlDeleteBuffers, VertexWorld.deleteBuffers_binding]
    | glDrawElements clientPtr patches =>
        simp only [handle, hGlDrawElements]
        split_ifs <;> simp [patch]
    | _ =>
        simp [handle, hGlGenVertexArrays, hGlBindVertexArray, hGlBindBufferBase, hGlBindBufferRange,
          hGlVertexAttribPointer, hGlVertexAttribIPointer, hGlEnableVertexAttribArray,
          hGlDisableVertexAttribArray, hGlVertexAttribDivisor, hGlDrawArrays, patch,
          VertexContext.genVertexArrays]
  · cases command with
    | glBindBuffer target buffer =>
        simp only [handle, hGlBindBuffer]
        split_ifs <;> simp [here]
    | glDeleteBuffers buffers =>
        simp [handle, hGlDeleteBuffers, VertexWorld.deleteBuffers_binding]
    | glDrawElements clientPtr patches =>
        simp only [handle, hGlDrawElements]
        split_ifs <;> simp [patch, here]
    | _ =>
        simp [handle, hGlGenVertexArrays, hGlDeleteVertexArrays, hGlBindVertexArray,
          hGlBindBufferBase, hGlBindBufferRange,
          hGlVertexAttribPointer, hGlVertexAttribIPointer, hGlEnableVertexAttribArray,
          hGlDisableVertexAttribArray, hGlVertexAttribDivisor, hGlDrawArrays, patch, here]

theorem patch_currentVao (patches : List (AttribIndex × UInt64)) (other : Ctx) :
    ((state.patch ctx patches).proxyCtx other).currentVao = (state.proxyCtx other).currentVao := by
  have fold (start : Records) :
      (patches.foldl (fun records (index, pointer) =>
        records.setAttribs (attribName index) fun attrib => { attrib with pointer })
        start).ctx.currentVao = start.ctx.currentVao := by
    induction patches generalizing start with
    | nil => rfl
    | cons first rest ih => rw [List.foldl_cons, ih, Records.setAttribs_currentVao]
  by_cases here : other = ctx
  · subst here
    simp [patch, fold, records]
  · simp [patch, here]

/-- Only a bind reaches `current_vao`. -/
theorem handle_currentVao (command : VertexCommand) (other : Ctx) :
    ((state.handle driver group ctx command).proxyCtx other).currentVao =
      match command with
      | .glBindVertexArray array =>
          if other = ctx then array else (state.proxyCtx other).currentVao
      | _ => (state.proxyCtx other).currentVao := by
  cases command with
  | glBindVertexArray array =>
      by_cases here : other = ctx <;> simp [handle, hGlBindVertexArray, here]
  | glBindBuffer target buffer =>
      simp only [handle, hGlBindBuffer]
      by_cases here : other = ctx
      · subst here
        split_ifs <;> simp
      · split_ifs <;> simp [here]
  | glDeleteBuffers | glDeleteVertexArrays | glBindBufferBase | glBindBufferRange => rfl
  | glDrawArrays patches => exact patch_currentVao patches other
  | glDrawElements clientPtr patches =>
      simp only [handle, hGlDrawElements]
      split_ifs <;> exact patch_currentVao patches other
  | glGenVertexArrays arrays =>
      by_cases here : other = ctx
      · subst here
        simp [handle, hGlGenVertexArrays, GLContextState.zeroVaos_currentVao]
      · simp [handle, hGlGenVertexArrays, here]
  | _ =>
      by_cases here : other = ctx
      · subst here
        simp [handle, hGlVertexAttribPointer, hGlVertexAttribIPointer, hGlEnableVertexAttribArray,
          hGlDisableVertexAttribArray, hGlVertexAttribDivisor, records]
      · simp [handle, hGlVertexAttribPointer, hGlVertexAttribIPointer, hGlEnableVertexAttribArray,
          hGlDisableVertexAttribArray, hGlVertexAttribDivisor, here]

end ProxyState

end GlesBridge.Proxy
