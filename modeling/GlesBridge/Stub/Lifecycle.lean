import GlesBridge.Stub.Elision
import GlesBridge.Stub.Vertex

namespace GlesBridge.Stub

open GlesBridge.Gl GlesBridge.Shared GlesBridge.Systems

/-! The life of contexts, from any number of threads, as the copies of the stub
follow it. -/

abbrev eglBridgeMaxContexts : Nat := 8

/-! ## Calls in a context -/

inductive GlCall where
  | state (call : StateCall)
  | vertex (call : VertexCall)

namespace GlCall

/-- The call that asks for the shadow of the current context. -/
def consulting : GlCall → Option StateCall
  | .state call => if consultsShadow call then some call else none
  | .vertex (.glBindVertexArray array) => some (.glBindVertexArray array)
  | .vertex _ => none

/-- The stub may keep the call back. -/
def elidable : GlCall → Bool
  | .state call => consultsShadow call
  | .vertex (.glBindVertexArray _) => true
  | .vertex (.glBindBuffer target _) =>
      target == glElementArrayBuffer || (bufferSlot target).isSome
  | .vertex (.glBindBufferRange target index ..) =>
      target == 0x8A11 && decide (index.toNat < bufrangeCacheSlots)
  | .vertex _ => false

/-- The call writes nothing but zero to what a reset of its context would set to zero. -/
def keepsZero : GlCall → Bool
  | .vertex (.glBindBuffer target buffer) => target != glElementArrayBuffer || buffer == 0
  | .vertex (.glBindBufferRange target index buffer ..) =>
      target != 0x8A11 || decide (bufrangeCacheSlots ≤ index.toNat) || buffer == 0
  | .vertex (.glVertexAttribPointer index ..) | .vertex (.glVertexAttribIPointer index ..)
  | .vertex (.glEnableVertexAttribArray index) => decide (maxVertexAttribs ≤ index.toNat)
  | .vertex (.glVertexAttribDivisor index divisor) =>
      decide (maxVertexAttribs ≤ index.toNat) || divisor == 0
  | _ => true

end GlCall

namespace StubMirrors

variable (mirrors : StubMirrors)

def glCall (current : Ctx) : GlCall → StubMirrors
  | .state call => (mirrors.stateCall current call).1
  | .vertex call => (mirrors.vertexCall current call).1

/-- A context is created, and its copies are those of a new context at once. -/
def created (handle : Nat) : StubMirrors :=
  { mirrors.stubContextStateReset handle with
    stubGlState := fun ctx => if handle = ctx then .zero else mirrors.stubGlState ctx }

end StubMirrors

/-! ## The calls of the threads -/

/-- Calls with what the driver answers. -/
inductive LifeCall where
  | eglCreateContext (created : Bool)
  | eglDestroyContext (context : Nat) (destroyed : Bool)
  | eglMakeCurrent (context : Nat)
  | gl (call : GlCall)

/-- The stub, and beside it a stub that gets the same calls but resets a context
as it is created, and no other. `fresh` are the contexts without a call since
they were created; `table` are the indices in use. -/
structure Lifecycle where
  stub : StubMirrors
  eager : StubMirrors
  fresh : Ctx → Bool
  table : Nat → Bool
  current : Nat → Nat

namespace Lifecycle

def start : Lifecycle where
  stub := .zero
  eager := .zero
  fresh _ := false
  table _ := false
  current _ := 0

variable (state : Lifecycle)

/-- `TABLE_ALLOC`, 0 where no index is free. -/
def tableAlloc : Nat :=
  ((List.range' 1 eglBridgeMaxContexts).find? fun index => !state.table index).getD 0

/-- The answer to `eglCreateContext`. -/
def raw (created : Bool) : Nat := if created then state.tableAlloc else 0

def eglCreateContext (created : Bool) : Lifecycle :=
  let raw := state.raw created
  if raw ≠ 0 then
    { state with
      stub := { state.stub with stubNewCtx := raw }
      eager := state.eager.created raw
      fresh := fun ctx => decide (raw = ctx) || state.fresh ctx
      table := Function.update state.table raw true }
  else state

/-- The reset that stands after the return of the stub's `eglDestroyContext` is
never reached. -/
def eglDestroyContext (context : Nat) (destroyed : Bool) : Lifecycle :=
  if destroyed then { state with table := Function.update state.table context false } else state

/-- The context is noted before the answer is known. -/
def eglMakeCurrent (thread context : Nat) : Lifecycle :=
  { state with current := Function.update state.current thread context }

def gl (current : Ctx) (call : GlCall) : Lifecycle :=
  { state with
    stub := state.stub.glCall current call
    eager := state.eager.glCall current call
    fresh := Function.update state.fresh current false }

end Lifecycle

/-- Calls with their threads. With a context past the arrays a call has no
defined outcome. -/
def lifecycle : Machine Lifecycle (Nat × LifeCall) where
  step state input :=
    match input.2 with
    | .eglCreateContext created => some (state.eglCreateContext created)
    | .eglDestroyContext context destroyed => some (state.eglDestroyContext context destroyed)
    | .eglMakeCurrent context => some (state.eglMakeCurrent input.1 context)
    | .gl call =>
        if below : state.current input.1 < maxContexts then
          some (state.gl ⟨state.current input.1, below⟩ call)
        else none

/-! ## What the copies say of a context -/

/-- A shadow that is not initialised yet is so before anything is compared with it. -/
def StubShadowState.described (shadow : StubShadowState) : StubShadowState :=
  if shadow.initialised then shadow else .init

namespace StubMirrors

/-- Both stubs have the same to say of a context. -/
structure SameIn (ctx : Ctx) (left right : StubMirrors) : Prop where
  shadow : (left.shadowCtx ctx).described = (right.shadowCtx ctx).described
  stubCtx : left.stubCtx ctx = right.stubCtx ctx
  glState : left.stubGlState ctx = right.stubGlState ctx
  cache : left.bufrangeCache ctx = right.bufrangeCache ctx

/-- The copies that a reset of the context would set back say what it would. -/
structure Clear (ctx : Ctx) (mirrors : StubMirrors) : Prop where
  shadow : (mirrors.shadowCtx ctx).described = .init
  stubCtx : mirrors.stubCtx ctx = .zero
  cache : ∀ slot, (mirrors.bufrangeCache ctx slot).buffer = 0

/-- The copies describe GL's initial state. -/
structure Initial (ctx : Ctx) (mirrors : StubMirrors) : Prop extends Clear ctx mirrors where
  glState : mirrors.stubGlState ctx = .zero

end StubMirrors

namespace Lifecycle

/-- A reset that comes late finds nothing that it could set back wrongly: no
created context is forgotten over the next one, the thread that makes it come is
in the created context or in one that is as it was created, and what the created
context has said before it is zero. Nothing resets the buffer bindings. -/
def InTime (state : Lifecycle) (input : Nat × LifeCall) : Prop :=
  match input.2 with
  | .eglCreateContext created =>
      state.raw created ≠ 0 →
        (∀ ctx : Ctx, state.raw created = ctx.val → state.stub.stubGlState ctx = .zero) ∧
        (0 < state.stub.stubNewCtx → state.stub.stubNewCtx ≠ state.raw created →
          ∀ ctx : Ctx, state.stub.stubNewCtx = ctx.val → state.stub.Clear ctx)
  | .eglDestroyContext .. | .eglMakeCurrent _ => True
  | .gl call =>
      ∃ current : Ctx, state.current input.1 = current.val ∧ (0 < state.stub.stubNewCtx →
        match call.consulting with
        | some noted =>
            (state.stub.stubNewCtx ≠ current.val → state.stub.Clear current) ∧
              noted ≠ .glEnable glPrimitiveRestartFixedIndex
        | none =>
            state.stub.stubNewCtx = current.val →
              call.keepsZero = true ∧ (call.elidable = true → state.stub.Clear current))

end Lifecycle

end GlesBridge.Stub
