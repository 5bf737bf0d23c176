import GlesBridge.Vertex.Attribs
import GlesBridge.Vertex.Binding

namespace GlesBridge.Vertex

open GlesBridge.Gl GlesBridge.Shared GlesBridge.Stub GlesBridge.Proxy GlesBridge.Systems

/-! The attribute records of a vertex array and the calls that are its own: those
made while it is bound. -/

/-! ## The calls of a vertex array -/

/-- A call, the vertex array that is bound when it is made, and the array and
element buffers. -/
structure Issued where
  ctx : Ctx
  array : UInt32
  call : VertexCall
  vbo : UInt32
  element : UInt32

/-- The calls of a vertex array: the one that generates it, and those made while
it is bound. -/
def Issued.concerns (issued : Issued) (ctx : Ctx) (name : UInt32) : Bool :=
  decide (ctx = issued.ctx) &&
    match issued.call with
    | .glGenVertexArrays arrays => decide (name ∈ arrays)
    | _ => decide (name = issued.array)

theorem Issued.concerns_iff {issued : Issued} {ctx : Ctx} {name : UInt32} :
    issued.concerns ctx name = true ↔ ctx = issued.ctx ∧
      match issued.call with
      | .glGenVertexArrays arrays => name ∈ arrays
      | _ => name = issued.array := by
  rw [Issued.concerns, Bool.and_eq_true, decide_eq_true_iff]
  split <;> rw [decide_eq_true_iff]

/-- The two records that a vertex array's own calls lead to. -/
structure OwnAttribs where
  stub : Attribs
  proxy : Attribs

namespace OwnAttribs

def zero : OwnAttribs where
  stub := .zero
  proxy := .zero

def after (own : OwnAttribs) (issued : Issued) : OwnAttribs :=
  match issued.call, attribChange issued.vbo issued.call with
  | .glGenVertexArrays _, _ => zero
  | _, some (index, change) =>
      { stub := own.stub.assign index change, proxy := own.proxy.assign index change }
  | call, none => { own with proxy := own.proxy.place (drawPatches own.stub issued.element call) }

/-- Nothing but the vertex array's own calls is looked at. -/
def of (history : List Issued) (ctx : Ctx) (name : UInt32) : OwnAttribs :=
  (history.filter fun issued => issued.concerns ctx name).foldl after zero

theorem of_append (history : List Issued) (issued : Issued) (ctx : Ctx) (name : UInt32) :
    of (history ++ [issued]) ctx name =
      if issued.concerns ctx name then (of history ctx name).after issued
      else of history ctx name := by
  unfold of
  rw [List.filter_append]
  cases own : issued.concerns ctx name with
  | true => simp [own]
  | false => simp [own]

end OwnAttribs

/-! ## Calls with their history -/

structure Traced where
  stub : StubMirrors
  proxy : ProxyState
  history : List Issued

def issued (stub : StubMirrors) (proxy : ProxyState) (ctx : Ctx) (call : VertexCall) : Issued where
  ctx
  array := (proxy.world.contexts ctx).binding
  call
  vbo := (stub.stubGlState ctx).arrayBuffer
  element := stub.boundBuffer ctx glElementArrayBuffer

def tracedMachine (driver : VertexDriver) (group : Ctx → Nat) : Machine Traced (Nat × VertexCall) where
  step state input :=
    if below : input.1 < maxContexts then
      ((vertexMachine driver group).step (state.stub, state.proxy) input).map fun next =>
        { stub := next.1
          proxy := next.2
          history := state.history ++ [issued state.stub state.proxy ⟨input.1, below⟩ input.2] }
    else none

/-- On both sides the record of each vertex array is what its own calls made it. -/
def RecordsOwn (state : Traced) : Prop :=
  ∀ ctx name,
    vaoAttribs (state.stub.stubCtx ctx) name = (OwnAttribs.of state.history ctx name).stub ∧
      vaoAttribs (state.proxy.proxyCtx ctx) name = (OwnAttribs.of state.history ctx name).proxy

/-- A draw copies the client arrays of the vertex array that is bound. -/
def DrawsOwn (state : Traced) (input : Nat × VertexCall) : Prop :=
  ∀ below : input.1 < maxContexts,
    let ctx : Ctx := ⟨input.1, below⟩
    let element := state.stub.boundBuffer ctx glElementArrayBuffer
    drawCopies state.stub.attribStubState element input.2 =
      drawCopies (OwnAttribs.of state.history ctx (state.proxy.world.contexts ctx).binding).stub
        element input.2

def Isolated (driver : VertexDriver) (group : Ctx → Nat) (state : Traced)
    (input : Nat × VertexCall) : Prop :=
  (tracedMachine driver group).Ends RecordsOwn state input ∧ DrawsOwn state input

/-! ### The condition -/

/-- The members that the copy of a client array depends on. -/
def SameArray (attrib other : AttribState) : Prop :=
  attrib.enabled = other.enabled ∧ attrib.vbo = other.vbo ∧ attrib.pointer = other.pointer ∧
    attrib.size = other.size ∧ attrib.type = other.type ∧ attrib.stride = other.stride

/-- Where the global copy or the record has a client array, both have the same one. -/
def SharesArrays (attribs record : Attribs) : Prop :=
  ∀ slot, ClientArray (attribs slot) ∨ ClientArray (record slot) →
    SameArray (attribs slot) (record slot)

/-- The vertex array that is bound is the current one of both sides. -/
def OnBound (stub : StubMirrors) (proxy : ProxyState) (ctx : Ctx) : Prop :=
  (stub.stubCtx ctx).currentVao = (proxy.world.contexts ctx).binding ∧
    (proxy.proxyCtx ctx).currentVao = (proxy.world.contexts ctx).binding

def AssignsOwn (stub : StubMirrors) (proxy : ProxyState) (ctx : Ctx) (index : UInt32) : Prop :=
  index.toNat < maxVertexAttribs → OnBound stub proxy ctx

/-- The global copies have, in what no pointer call sets, what the records of
the bound vertex array have. -/
def CopiesOwn (stub : StubMirrors) (proxy : ProxyState) (ctx : Ctx) (index : UInt32) : Prop :=
  let bound := (proxy.world.contexts ctx).binding
  AssignsOwn stub proxy ctx index ∧ ∀ slot, attribName slot = index →
    SameRest (stub.attribStubState slot) (vaoAttribs (stub.stubCtx ctx) bound slot) ∧
      SameRest (proxy.attribProxyState slot) (vaoAttribs (proxy.proxyCtx ctx) bound slot)

def CopiesArraysOwn (stub : StubMirrors) (proxy : ProxyState) (ctx : Ctx) : Prop :=
  let record := vaoAttribs (stub.stubCtx ctx) (proxy.world.contexts ctx).binding
  SharesArrays stub.attribStubState record ∧
    ((∃ slot, ClientArray (record slot)) → OnBound stub proxy ctx)

/-- Attributes are lost to the reset that a bind makes, or to the wiping of the
record at a first bind. -/
def BindLoses (stub : StubMirrors) (proxy : ProxyState) (ctx : Ctx) (array : UInt32) : Prop :=
  (∃ other, stub.Resets ctx other ∧ ∃ name, vaoAttribs (stub.stubCtx other) name ≠ .zero) ∨
    (stub.shadowSeen ctx).slot .vao ≠ array ∧ ((proxy.proxyCtx ctx).vao array).initialised = false ∧
      vaoAttribs (proxy.proxyCtx ctx) array ≠ .zero

def Isolates (state : Traced) (input : Nat × VertexCall) : Prop :=
  ∃ below : input.1 < maxContexts,
    let ctx : Ctx := ⟨input.1, below⟩
    match input.2 with
    | .glGenVertexArrays arrays => Generates arrays
    | .glBindVertexArray array =>
        ¬ BindLoses state.stub state.proxy ctx array ∧
          ((state.stub.shadowSeen ctx).slot .vao ≠ array → array.toNat < maxVaos)
    | .glVertexAttribPointer index .. | .glVertexAttribIPointer index .. =>
        CopiesOwn state.stub state.proxy ctx index
    | .glEnableVertexAttribArray index | .glDisableVertexAttribArray index
    | .glVertexAttribDivisor index _ => AssignsOwn state.stub state.proxy ctx index
    | .glDrawArrays .. => CopiesArraysOwn state.stub state.proxy ctx
    | .glDrawElements indices .. =>
        state.stub.boundBuffer ctx glElementArrayBuffer = 0 → indices ≠ 0 →
          CopiesArraysOwn state.stub state.proxy ctx
    | _ => True

/-! ### Steps -/

structure Isolation (state : Traced) : Prop where
  own : RecordsOwn state
  inside : ∀ ctx, (state.stub.stubCtx ctx).currentVao.toNat < maxVaos ∧
    (state.proxy.proxyCtx ctx).currentVao.toNat < maxVaos

section

variable {driver : VertexDriver} {group : Ctx → Nat} {state next : Traced}
  {input : Nat × VertexCall} {stub : StubMirrors} {proxy : ProxyState} {history : List Issued}
  {ctx other : Ctx} {name : UInt32} {call : VertexCall}

theorem own_gen {arrays : List UInt32} :
    OwnAttribs.of (history ++ [issued stub proxy ctx (.glGenVertexArrays arrays)]) other name =
      if other = ctx ∧ name ∈ arrays then .zero else OwnAttribs.of history other name := by
  rw [OwnAttribs.of_append]
  simp only [Issued.concerns_iff, issued]
  split_ifs <;> rfl

theorem own_bind {array : UInt32} :
    OwnAttribs.of (history ++ [issued stub proxy ctx (.glBindVertexArray array)]) other name =
      OwnAttribs.of history other name := by
  rw [OwnAttribs.of_append]
  split_ifs <;> rfl

theorem own_attr {index : UInt32} {change : AttribState → AttribState}
    (changes : attribChange (stub.stubGlState ctx).arrayBuffer call = some (index, change)) :
    OwnAttribs.of (history ++ [issued stub proxy ctx call]) other name =
      if other = ctx ∧ name = (proxy.world.contexts ctx).binding then
        { stub := (OwnAttribs.of history other name).stub.assign index change
          proxy := (OwnAttribs.of history other name).proxy.assign index change }
      else OwnAttribs.of history other name := by
  rw [OwnAttribs.of_append]
  cases call with
  | glVertexAttribPointer | glVertexAttribIPointer | glEnableVertexAttribArray
  | glDisableVertexAttribArray | glVertexAttribDivisor =>
      cases changes
      simp only [Issued.concerns_iff, issued]
      split_ifs <;> rfl
  | _ => cases changes

theorem own_quiet (quiet : QuietCall call) :
    OwnAttribs.of (history ++ [issued stub proxy ctx call]) other name =
      if other = ctx ∧ name = (proxy.world.contexts ctx).binding then
        { OwnAttribs.of history other name with
          proxy := (OwnAttribs.of history other name).proxy.place (drawPatches
            (OwnAttribs.of history other name).stub (stub.boundBuffer ctx glElementArrayBuffer)
            call) }
      else OwnAttribs.of history other name := by
  obtain ⟨notGen, -, none⟩ := quiet
  rw [OwnAttribs.of_append]
  cases call with
  | glGenVertexArrays arrays => exact absurd rfl (notGen arrays)
  | glVertexAttribPointer | glVertexAttribIPointer | glEnableVertexAttribArray
  | glDisableVertexAttribArray | glVertexAttribDivisor => cases none
  | _ =>
      simp only [Issued.concerns_iff, issued]
      split_ifs <;> rfl

theorem clientCopies_eq {attribs record : Attribs} (shares : SharesArrays attribs record)
    (vertices : UInt64) : clientCopies attribs vertices = clientCopies record vertices := by
  unfold clientCopies
  refine List.filterMap_congr fun slot _ => ?_
  by_cases client : ClientArray (attribs slot) ∨ ClientArray (record slot)
  · obtain ⟨enabled, vbo, pointer, size, type, stride⟩ := shares slot client
    simp only [clientBytes, enabled, vbo, pointer, size, type, stride]
  · obtain ⟨notHere, notThere⟩ := not_or.mp client
    exact (if_neg notHere).trans (if_neg notThere).symm

theorem clientCopies_nil {attribs : Attribs} (without : ¬ ∃ slot, ClientArray (attribs slot))
    (vertices : UInt64) : clientCopies attribs vertices = [] := by
  unfold clientCopies
  refine List.filterMap_eq_nil_iff.mpr fun slot _ => ?_
  simp only
  exact if_neg fun client => without ⟨slot, client⟩

theorem drawCopies_eq {attribs record : Attribs} {element : UInt32}
    (shares : (∀ indices lastVertex place, call = .glDrawElements indices lastVertex place →
      element = 0 ∧ indices ≠ 0) → SharesArrays attribs record) :
    drawCopies attribs element call = drawCopies record element call := by
  cases call with
  | glDrawArrays first count place =>
      exact clientCopies_eq (shares fun _ _ _ wrong => by cases wrong) _
  | glDrawElements indices lastVertex place =>
      simp only [drawCopies]
      by_cases client : element = 0 ∧ indices ≠ 0
      · rw [if_pos client, if_pos client]
        refine clientCopies_eq (shares fun _ _ _ same => ?_) _
        cases same
        exact client
      · rw [if_neg client, if_neg client]
  | _ => rfl

/-- Under the condition a draw finds the arrays of the record. -/
theorem Isolates.draws (isolates : Isolates state input) (sound : RecordsOwn state) :
    DrawsOwn state input := by
  obtain ⟨current, call⟩ := input
  intro below
  obtain ⟨_, needs⟩ := isolates
  simp only
  rw [← (sound _ _).1]
  cases call with
  | glDrawArrays => exact drawCopies_eq fun _ => needs.1
  | glDrawElements indices lastVertex place =>
      refine drawCopies_eq fun client => ?_
      obtain ⟨unbound, given⟩ := client _ _ _ rfl
      exact (needs unbound given).1
  | _ => rfl

/-- A draw that places arrays is made on the bound vertex array. -/
theorem Isolates.onBound (isolates : Isolates state input) (below : input.1 < maxContexts)
    (places : drawCopies state.stub.attribStubState
      (state.stub.boundBuffer ⟨input.1, below⟩ glElementArrayBuffer) input.2 ≠ []) :
    OnBound state.stub state.proxy ⟨input.1, below⟩ := by
  obtain ⟨current, call⟩ := input
  obtain ⟨_, needs⟩ := isolates
  have found (vertices : UInt64) (owns : CopiesArraysOwn state.stub state.proxy ⟨current, below⟩)
      (some : clientCopies state.stub.attribStubState vertices ≠ []) :
      OnBound state.stub state.proxy ⟨current, below⟩ := by
    refine owns.2 (Classical.byContradiction fun without => some ?_)
    rw [clientCopies_eq owns.1]
    exact clientCopies_nil without vertices
  cases call with
  | glDrawArrays => exact found _ needs places
  | glDrawElements indices lastVertex place =>
      simp only [drawCopies] at places
      split_ifs at places with client
      · exact found _ (needs client.1 client.2) places
      · exact absurd rfl places
  | _ => exact absurd rfl places

theorem tracedMachine_step :
    (tracedMachine driver group).step state input = some next ↔ ∃ below : input.1 < maxContexts,
      (vertexMachine driver group).step (state.stub, state.proxy) input =
          some (next.stub, next.proxy) ∧
        next.history = state.history ++
          [issued state.stub state.proxy ⟨input.1, below⟩ input.2] := by
  obtain ⟨stub, proxy, history⟩ := next
  by_cases below : input.1 < maxContexts
  · simp only [tracedMachine, below, dif_pos, Option.map_eq_some_iff, Traced.mk.injEq,
      exists_true_left]
    constructor
    · intro taken
      obtain ⟨reached, taken, rfl, rfl, noted⟩ := taken
      exact ⟨taken, noted.symm⟩
    · intro taken
      exact ⟨_, taken.1, rfl, rfl, taken.2.symm⟩
  · simp [tracedMachine, below]

/-- What is new in the state after a call, whose commands are carried out. -/
structure Taken (driver : VertexDriver) (group : Ctx → Nat) (state next : Traced) (ctx : Ctx)
    (call : VertexCall) : Prop where
  stub : next.stub = (state.stub.vertexCall ctx call).1
  proxy : (state.stub.vertexCall ctx call).2 = [] ∧ next.proxy = state.proxy ∨
    ∃ command, (state.stub.vertexCall ctx call).2 = [command] ∧ Inside command ∧
      next.proxy = state.proxy.handle driver group ctx command
  history : next.history = state.history ++ [issued state.stub state.proxy ctx call]

theorem Taken.gen {arrays : List UInt32}
    (taken : Taken driver group state next ctx (.glGenVertexArrays arrays))
    (sound : Isolation state) (generates : Generates arrays) : RecordsOwn next := by
  intro other name
  obtain ⟨wrong, -⟩ | ⟨command, sent, -, proxy⟩ := taken.proxy
  · cases wrong
  cases sent
  rw [taken.stub, taken.history, proxy, stub_gen generates, proxy_gen generates, own_gen]
  split_ifs
  · exact ⟨rfl, rfl⟩
  · exact sound.own other name

theorem Taken.bind {array : UInt32}
    (taken : Taken driver group state next ctx (.glBindVertexArray array))
    (sound : Isolation state) (keeps : ¬ BindLoses state.stub state.proxy ctx array) :
    RecordsOwn next := by
  obtain ⟨noReset, noWipe⟩ := not_or.mp keeps
  intro other name
  obtain ⟨ownStub, ownProxy⟩ := sound.own other name
  rw [taken.stub, taken.history, own_bind, stub_bind, ← ownStub, ← ownProxy]
  constructor
  · split_ifs with resets
    · exact (Classical.byContradiction fun lost => noReset ⟨other, resets, name, lost⟩).symm
    · rfl
  · obtain ⟨-, same⟩ | ⟨command, sent, inside, proxy⟩ := taken.proxy
    · rw [same]
    · simp only [StubMirrors.vertexCall, StubMirrors.glBindVertexArray_eq] at sent
      split_ifs at sent with known
      cases sent
      rw [proxy, proxy_bind inside]
      split_ifs with wiped
      · obtain ⟨rfl, rfl, unmarked⟩ := wiped
        exact (Classical.byContradiction fun lost => noWipe ⟨known, unmarked, Ne.symm lost⟩)
      · rfl

theorem attr_sends {vbo : UInt32} {found : UInt32 × (AttribState → AttribState)}
    (changes : attribChange vbo call = some found) : (stub.vertexCall ctx call).2 ≠ [] := by
  cases call with
  | glVertexAttribPointer | glVertexAttribIPointer | glEnableVertexAttribArray
  | glDisableVertexAttribArray | glVertexAttribDivisor => exact List.cons_ne_nil _ _
  | _ => cases changes

theorem Taken.attr {index : UInt32} {change : AttribState → AttribState}
    (taken : Taken driver group state next ctx call) (sound : Isolation state)
    (changes : attribChange (state.stub.stubGlState ctx).arrayBuffer call = some (index, change))
    (assigns : AssignsOwn state.stub state.proxy ctx index)
    (copies : CopiesWhole call → CopiesOwn state.stub state.proxy ctx index) :
    RecordsOwn next := by
  have bound (slot : AttribIndex) (named : attribName slot = index) :
      OnBound state.stub state.proxy ctx :=
    assigns (attribName_eq.mp named ▸ slot.isLt)
  have stubRest (whole : CopiesWhole call) (slot : AttribIndex) (named : attribName slot = index) :
      SameRest (state.stub.attribStubState slot) ((state.stub.stubCtx ctx).attrib slot) := by
    have rest := ((copies whole).2 slot named).1
    rw [← (bound slot named).1] at rest
    exact rest
  have proxyRest (whole : CopiesWhole call) (slot : AttribIndex)
      (named : attribName slot = index) :
      SameRest (state.proxy.attribProxyState slot) ((state.proxy.proxyCtx ctx).attrib slot) := by
    have rest := ((copies whole).2 slot named).2
    rw [← (bound slot named).2] at rest
    exact rest
  intro other name
  obtain ⟨ownStub, ownProxy⟩ := sound.own other name
  obtain ⟨none, -⟩ | ⟨command, sent, -, proxy⟩ := taken.proxy
  · exact absurd none (attr_sends changes)
  rw [taken.stub, taken.history, proxy, stub_attr changes (sound.inside ctx).1 stubRest,
    proxy_attr changes sent (sound.inside ctx).2 proxyRest, own_attr changes, ← ownStub, ← ownProxy]
  by_cases below : index.toNat < maxVertexAttribs
  · rw [(assigns below).1, (assigns below).2]
    split_ifs
    · exact ⟨rfl, rfl⟩
    · exact ⟨ownStub, ownProxy⟩
  · simp only [assign_of_not_lt below, ite_self]
    split_ifs
    · exact ⟨rfl, rfl⟩
    · exact ⟨ownStub, ownProxy⟩

/-- Draws are always sent. -/
theorem drawPatches_of_unsent (attribs : Attribs) (element : UInt32)
    (unsent : (stub.vertexCall ctx call).2 = []) : drawPatches attribs element call = [] := by
  cases call with
  | glDrawArrays => cases unsent
  | glDrawElements indices lastVertex place =>
      simp only [StubMirrors.vertexCall, StubMirrors.glDrawElements] at unsent
      split_ifs at unsent
  | _ => rfl

theorem drawPatches_congr {attribs record : Attribs} {element : UInt32}
    (same : drawCopies attribs element call = drawCopies record element call) :
    drawPatches attribs element call = drawPatches record element call := by
  cases call with
  | glDrawArrays first count place => exact congrArg (patches · place) same
  | glDrawElements indices lastVertex place => exact congrArg (patches · place) same
  | _ => rfl

theorem drawPatches_of_nil {attribs : Attribs} {element : UInt32}
    (none : drawCopies attribs element call = []) : drawPatches attribs element call = [] := by
  cases call with
  | glDrawArrays first count place => exact congrArg (patches · place) none
  | glDrawElements indices lastVertex place => exact congrArg (patches · place) none
  | _ => rfl

theorem Taken.quiet (taken : Taken driver group state next ctx call) (sound : Isolation state)
    (quiet : QuietCall call) (isolates : Isolates state (ctx, call)) : RecordsOwn next := by
  intro other name
  obtain ⟨ownStub, ownProxy⟩ := sound.own other name
  have placed : vaoAttribs (next.proxy.proxyCtx other) name =
      if other = ctx ∧ name = (state.proxy.proxyCtx ctx).currentVao then
        (vaoAttribs (state.proxy.proxyCtx other) name).place (drawPatches
          state.stub.attribStubState (state.stub.boundBuffer ctx glElementArrayBuffer) call)
      else vaoAttribs (state.proxy.proxyCtx other) name := by
    obtain ⟨unsent, same⟩ | ⟨command, sent, -, proxy⟩ := taken.proxy
    · rw [same, drawPatches_of_unsent _ _ unsent]
      exact (ite_self _).symm
    · rw [proxy]
      exact proxy_quiet quiet (sound.inside ctx).2 sent
  rw [taken.stub, stub_quiet quiet (sound.inside ctx).1, placed, taken.history, own_quiet quiet]
  have onBoundOwn (here : other = ctx) (named : name = (state.proxy.world.contexts ctx).binding) :
      drawPatches state.stub.attribStubState
          (state.stub.boundBuffer ctx glElementArrayBuffer) call =
        drawPatches (OwnAttribs.of state.history other name).stub
          (state.stub.boundBuffer ctx glElementArrayBuffer) call := by
    subst here named
    exact drawPatches_congr (isolates.draws sound.own other.isLt)
  by_cases places : drawCopies state.stub.attribStubState
      (state.stub.boundBuffer ctx glElementArrayBuffer) call = []
  · have without : drawPatches state.stub.attribStubState
        (state.stub.boundBuffer ctx glElementArrayBuffer) call = [] := drawPatches_of_nil places
    rw [without]
    refine ⟨?_, (ite_self _).trans ?_⟩
    · split_ifs <;> exact ownStub
    · split_ifs with here
      · rw [← onBoundOwn here.1 here.2, without]
        exact ownProxy
      · exact ownProxy
  · rw [(isolates.onBound ctx.isLt places).2]
    split_ifs with here
    · rw [onBoundOwn here.1 here.2, ownProxy]
      exact ⟨ownStub, rfl⟩
    · exact ⟨ownStub, ownProxy⟩

theorem Isolates.generates (isolates : Isolates state input) (arrays : List UInt32)
    (same : input.2 = .glGenVertexArrays arrays) : Generates arrays := by
  obtain ⟨current, call⟩ := input
  obtain ⟨_, needs⟩ := isolates
  cases same
  exact needs

theorem Isolates.bounds (isolates : Isolates state input) (below : input.1 < maxContexts)
    (array : UInt32) (same : input.2 = .glBindVertexArray array)
    (known : (state.stub.shadowSeen ⟨input.1, below⟩).slot .vao ≠ array) :
    array.toNat < maxVaos := by
  obtain ⟨current, call⟩ := input
  obtain ⟨_, needs⟩ := isolates
  cases same
  exact needs.2 known

theorem Isolates.defined (isolates : Isolates state input) :
    ∃ next, (tracedMachine driver group).step state input = some next := by
  obtain ⟨below, -⟩ := id isolates
  obtain ⟨reached, taken⟩ : ∃ reached, (vertexMachine driver group).step
      (state.stub, state.proxy) input = some reached :=
    vertexMachine_defined below isolates.generates
      (commands_inside isolates.generates (isolates.bounds below))
  exact ⟨⟨reached.1, reached.2, _⟩, tracedMachine_step.mpr ⟨below, taken, rfl⟩⟩

theorem Isolation.currents (sound : Isolation state) (isolates : Isolates state (ctx, call))
    (taken : Taken driver group state next ctx call) (other : Ctx) :
    (next.stub.stubCtx other).currentVao.toNat < maxVaos ∧
      (next.proxy.proxyCtx other).currentVao.toNat < maxVaos := by
  obtain ⟨insideStub, insideProxy⟩ := sound.inside other
  have zero : (0 : UInt32).toNat < maxVaos := by decide
  constructor
  · rw [taken.stub, StubMirrors.vertexCall_currentVao]
    cases call with
    | glBindVertexArray array =>
        obtain ⟨_, -, bounds⟩ := isolates
        simp only
        split_ifs with noted
        · exact bounds noted.2
        · exact zero
        · exact insideStub
    | _ => exact insideStub
  · obtain ⟨-, same⟩ | ⟨command, -, inside, proxy⟩ := taken.proxy
    · rw [same]
      exact insideProxy
    · rw [proxy, ProxyState.handle_currentVao]
      cases command with
      | glBindVertexArray array =>
          simp only
          split_ifs
          · exact inside
          · exact insideProxy
      | _ => exact insideProxy

theorem Isolation.step (sound : Isolation state) (isolates : Isolates state input)
    (steps : (tracedMachine driver group).step state input = some next) : Isolation next := by
  obtain ⟨below, moved, history⟩ := tracedMachine_step.mp steps
  obtain ⟨_, -, stub, proxy⟩ := vertexMachine_step.mp moved
  obtain ⟨current, call⟩ := input
  have taken : Taken driver group state next ⟨current, below⟩ call := ⟨stub, proxy, history⟩
  refine ⟨?_, sound.currents isolates taken⟩
  obtain ⟨_, needs⟩ := id isolates
  cases call with
  | glGenVertexArrays arrays => exact taken.gen sound needs
  | glBindVertexArray array => exact taken.bind sound needs.1
  | glVertexAttribPointer | glVertexAttribIPointer =>
      exact taken.attr sound rfl needs.1 fun _ => needs
  | glEnableVertexAttribArray | glDisableVertexAttribArray | glVertexAttribDivisor =>
      exact taken.attr sound rfl needs fun whole => whole.elim
  | _ =>
      refine taken.quiet sound ⟨?_, ?_, rfl⟩ isolates
      · intro arrays wrong
        cases wrong
      · intro array wrong
        cases wrong

end

/-- No call leaks into the record of another vertex array, and each draw copies
the client arrays of its own, in every run whose calls meet the condition. -/
theorem records_isolated {driver : VertexDriver} {group : Ctx → Nat} {stub : StubMirrors}
    {proxy : ProxyState} {calls : List (Nat × VertexCall)}
    (stubStart : ∀ ctx, stub.stubCtx ctx = .zero) (proxyStart : ∀ ctx, proxy.proxyCtx ctx = .zero)
    (isolates : (tracedMachine driver group).Along Isolates ⟨stub, proxy, []⟩ calls) :
    (tracedMachine driver group).Along (Isolated driver group) ⟨stub, proxy, []⟩ calls := by
  have start : Isolation ⟨stub, proxy, []⟩ := by
    refine ⟨fun ctx name => ?_, fun ctx => ?_⟩
    · rw [stubStart, proxyStart]
      simp only [vaoAttribs, GLContextState.vao_zero]
      exact ⟨rfl, rfl⟩
    · rw [stubStart, proxyStart]
      decide
  refine Machine.Along.of_invariant Isolation.step (fun sound allowed => ?_) start isolates
  obtain ⟨next, taken⟩ := allowed.defined
  exact ⟨⟨next, taken, (sound.step allowed taken).own⟩, allowed.draws sound.own⟩

/-- One vertex array only is used. -/
theorem records_isolated_single :
    (tracedMachine .plain fun _ => 0).Along (Isolated .plain fun _ => 0) ⟨.zero, .zero, []⟩
      [(1, .glGenVertexArrays [5]), (1, .glBindVertexArray 5), (1, .glEnableVertexAttribArray 0),
        (1, .glVertexAttribPointer 0 4 0x1406 0 0 0x1000)] := by
  refine records_isolated (fun _ => rfl) (fun _ => rfl) ⟨⟨by decide, by decide⟩, ?_⟩
  rintro next ⟨⟩
  refine ⟨⟨by decide, ?_, fun _ => by decide⟩, ?_⟩
  · intro loses
    rcases loses with ⟨_, ⟨pending, -⟩, -⟩ | ⟨-, -, lost⟩
    · exact absurd pending (by decide)
    · exact lost rfl
  rintro next ⟨⟩
  refine ⟨⟨by decide, fun _ => ⟨rfl, rfl⟩⟩, ?_⟩
  rintro next ⟨⟩
  refine ⟨⟨by decide, fun _ => ⟨rfl, rfl⟩, fun slot named => ?_⟩, fun _ _ => trivial⟩
  obtain rfl : slot = 0 := Fin.ext (attribName_eq.mp named)
  exact ⟨⟨rfl, rfl⟩, rfl, rfl⟩

/-- The attribute is enabled under vertex array 5; a pointer that is set under 6
enables it there. -/
theorem enabled_leaks_to_other_vao :
    ¬ (tracedMachine .plain fun _ => 0).Along (Isolated .plain fun _ => 0) ⟨.zero, .zero, []⟩
      [(1, .glGenVertexArrays [5, 6]), (1, .glBindVertexArray 5),
        (1, .glEnableVertexAttribArray 0), (1, .glBindVertexArray 6),
        (1, .glVertexAttribPointer 0 4 0x1406 0 0 0x1000)] := by
  rintro ⟨-, rest⟩
  obtain ⟨-, rest⟩ := rest _ rfl
  obtain ⟨-, rest⟩ := rest _ rfl
  obtain ⟨-, rest⟩ := rest _ rfl
  obtain ⟨⟨⟨reached, taken, own⟩, -⟩, -⟩ := rest _ rfl
  cases taken
  have leaked := congrFun (own 1 6).1 0
  exact absurd (congrArg AttribState.enabled leaked) (by decide)

end GlesBridge.Vertex
