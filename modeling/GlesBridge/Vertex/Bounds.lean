import GlesBridge.Stub.Lifecycle
import GlesBridge.Systems.Checked
import GlesBridge.Vertex.System

namespace GlesBridge.Vertex

open GlesBridge.Gl GlesBridge.Shared GlesBridge.Stub GlesBridge.Proxy GlesBridge.Systems
  GlesBridge.Systems.Checked

/-! The accesses to the arrays that are indexed by contexts and vertex arrays, with
the indices as they come. What a call does there is said elsewhere. -/

/-- The entry points that index the arrays: `bound` looks a buffer up by its target, as
the calls for mappings and buffer contents do, and `pixels` reads or writes a member of
`stub_gl_state`, as pixel stores and uploads do. -/
inductive IndexingCall where
  | gl (call : GlCall)
  | bound (target : UInt32)
  | pixels

/-! ## Entry points -/

section

end

/-! ## Handlers -/

section

end

/-! ## Indices inside the arrays -/

def ContextInside (ctx : UInt32) : Prop := ctx.toNat < maxContexts

/-- The context is inside its array, and the vertex array that is current in it too. -/
def VaoInside (stub : StubMirrors) (ctx : UInt32) : Prop :=
  ∃ below : ctx.toNat < maxContexts,
    (stub.stubCtx ⟨ctx.toNat, below⟩).currentVao.toNat < maxVaos

def HVaoInside (proxy : ProxyState) (ctx : UInt32) : Prop :=
  ∃ below : ctx.toNat < maxContexts,
    (proxy.proxyCtx ⟨ctx.toNat, below⟩).currentVao.toNat < maxVaos

def BoundInside (stub : StubMirrors) (ctx target : UInt32) : Prop :=
  if target = glElementArrayBuffer then VaoInside stub ctx
  else (bufferSlot target).isSome = true → ContextInside ctx

def DeleteBuffersInside (ctx : UInt32) (buffers : List UInt32) : Prop :=
  (∃ buffer ∈ buffers, buffer ≠ 0) → ContextInside ctx

/-- A call that keeps to itself needs no context. -/
def StateInside (ctx : UInt32) : StateCall → Prop
  | .glDeleteBuffers buffers => DeleteBuffersInside ctx buffers
  | call => consultsShadow call = true → ContextInside ctx

def VertexInside (stub : StubMirrors) (ctx : UInt32) : VertexCall → Prop
  | .glGenVertexArrays arrays => ContextInside ctx ∧ Generates arrays
  | .glBindVertexArray _ => ContextInside ctx
  | .glBindBuffer target _ => BoundInside stub ctx target
  | .glBindBufferRange target index .. =>
      target = 0x8A11 ∧ index.toNat < bufrangeCacheSlots → ContextInside ctx
  | .glDeleteBuffers buffers => DeleteBuffersInside ctx buffers
  | .glVertexAttribPointer index .. | .glVertexAttribIPointer index .. =>
      ContextInside ctx ∧ (index.toNat < maxVertexAttribs → VaoInside stub ctx)
  | .glEnableVertexAttribArray index | .glDisableVertexAttribArray index
  | .glVertexAttribDivisor index _ => index.toNat < maxVertexAttribs → VaoInside stub ctx
  | .glDrawArrays .. | .glDrawElements .. => VaoInside stub ctx
  | _ => True

def IndexingCall.Inside (stub : StubMirrors) (ctx : UInt32) : IndexingCall → Prop
  | .gl (.state call) => StateInside ctx call
  | .gl (.vertex call) => VertexInside stub ctx call
  | .bound target => BoundInside stub ctx target
  | .pixels => ContextInside ctx

def CommandInside (proxy : ProxyState) (ctx : UInt32) : VertexCommand → Prop
  | .glGenVertexArrays arrays => ContextInside ctx ∧ Generates arrays
  | .glBindVertexArray array => ContextInside ctx ∧ array.toNat < maxVaos
  | .glBindBuffer target _ => target = glElementArrayBuffer → HVaoInside proxy ctx
  | .glVertexAttribPointer index .. | .glVertexAttribIPointer index ..
  | .glEnableVertexAttribArray index | .glDisableVertexAttribArray index
  | .glVertexAttribDivisor index _ => index.toNat < maxVertexAttribs → HVaoInside proxy ctx
  | .glDrawArrays _ | .glDrawElements .. => HVaoInside proxy ctx
  | _ => True

section

variable {stub : StubMirrors} {proxy : ProxyState} {ctx cap index target : UInt32}
  {array : ContextArray} {buffers arrays : List UInt32} {State : Type} {state : State}
  {generates : State → Prop}

end

/-! ## Both sides -/

/-- An entry point of a thread, or a handler. -/
abbrev Indexing := IndexingCall ⊕ VertexCommand

def Indexing.Inside (stub : StubMirrors) (proxy : ProxyState) (ctx : UInt32) : Indexing → Prop
  | .inl call => call.Inside stub ctx
  | .inr command => CommandInside proxy ctx command

end GlesBridge.Vertex
