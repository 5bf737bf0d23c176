import Mathlib.Data.List.FinRange
import Mathlib.Logic.Function.Basic
import GlesBridge.Shared.Context

namespace GlesBridge.Proxy

open GlesBridge.Shared

/-! The proxy's table of contexts. One thread of the proxy serves all threads of
the client, so the context that is really current has to follow them.
-/

abbrev eglBridgeMaxContexts : Nat := 8

/-- An index into the table of contexts; 0 stands for none. -/
abbrev ContextId := Fin (eglBridgeMaxContexts + 1)

/-- The loops over the table start at 1. -/
def contextIds : List ContextId := (List.finRange (eglBridgeMaxContexts + 1)).tail

/-- The surfaces with which a context was last made current. -/
structure CtxBinding where
  dpy : UInt32
  draw : UInt32
  read : UInt32
  valid : Bool

/-- A null pointer is 0. `eglDisplays` and `eglSurfaces` are what these tables have
under a handle. The last two are the driver's: the pointer to the context that is
current, and the state of each context.
-/
structure EglProxy (σ : Type) where
  eglContexts : ContextId → UInt32
  gCurrentCtx : UInt32
  gCtxBindings : ContextId → CtxBinding
  eglDisplays : UInt32 → UInt32
  eglSurfaces : UInt32 → UInt32
  current : UInt32
  contexts : UInt32 → σ

/-- A command with what the driver answers; `gl` is any command of GL, as what it
does to the context that is current. -/
inductive EglCommand (σ : Type) where
  | eglCreateContext (real : UInt32)
  | eglDestroyContext (context : UInt32) (ok : Bool)
  | eglMakeCurrent (display draw read context : UInt32) (ok : Bool)
  | eglReleaseThread (ok : Bool)
  | eglDestroySurface (surface : UInt32) (ok : Bool)
  | otherTables (displays surfaces : UInt32 → UInt32)
  | gl (act : σ → σ)

namespace EglProxy

variable {σ : Type}

/-- At the start every context has the state of a new one. -/
def zero (fresh : σ) : EglProxy σ where
  eglContexts _ := 0
  gCurrentCtx := 0
  gCtxBindings _ := ⟨0, 0, 0, false⟩
  eglDisplays _ := 0
  eglSurfaces _ := 0
  current := 0
  contexts _ := fresh

variable (proxy : EglProxy σ)

/-- An index past the table counts as 0. -/
def contextId (context : UInt32) : ContextId :=
  if below : context.toNat < eglBridgeMaxContexts + 1 then ⟨context.toNat, below⟩ else 0

/-- `CTX` -/
def ctx (context : UInt32) : UInt32 := proxy.eglContexts (contextId context)

/-- The real context follows the thread that a command comes from. -/
def eglBindTargetCtx (context : UInt32) (accepts : Bool) : EglProxy σ :=
  if context = 0 ∨ context = proxy.gCurrentCtx ∨ maxContexts ≤ context.toNat then proxy
  else if (proxy.gCtxBindings (contextId context)).valid = false ∨ proxy.ctx context = 0 then proxy
  else if accepts = false then proxy
  else { proxy with current := proxy.ctx context, gCurrentCtx := context }

/-- The first index that is free. -/
def freeContext : Option ContextId := contextIds.find? fun id => proxy.eglContexts id == 0

/-! ## Handlers -/

/-- The driver answers with a pointer that none of the contexts has, or with a null one. -/
def hEglCreateContext (fresh : σ) (real : UInt32) : Option (EglProxy σ × UInt32) :=
  if real = 0 then some (proxy, 0)
  else if real = proxy.current ∨ ∃ id, proxy.eglContexts id = real then none
  else
    let proxy := { proxy with contexts := Function.update proxy.contexts real fresh }
    match proxy.freeContext with
    | some id =>
        some ({ proxy with eglContexts := Function.update proxy.eglContexts id real }, .ofNat id)
    | none => some (proxy, 0)

/-- A context that is current stays so after its destruction. An index past the
table has no defined outcome. -/
def hEglDestroyContext (context : UInt32) (ok : Bool) : Option (EglProxy σ) :=
  if eglBridgeMaxContexts < context.toNat then none
  else if ok then
    let id := contextId context
    some
      { proxy with
        eglContexts := Function.update proxy.eglContexts id 0
        gCtxBindings :=
          Function.update proxy.gCtxBindings id { proxy.gCtxBindings id with valid := false } }
  else some proxy

def hEglMakeCurrent (display draw read context : UInt32) (ok : Bool) : EglProxy σ :=
  if ok then
    let made := { proxy with current := proxy.ctx context, gCurrentCtx := context }
    if context ≠ 0 ∧ context.toNat ≤ eglBridgeMaxContexts then
      { made with
        gCtxBindings :=
          Function.update proxy.gCtxBindings (contextId context)
            ⟨proxy.eglDisplays display, proxy.eglSurfaces draw, proxy.eglSurfaces read, true⟩ }
    else made
  else proxy

def hEglReleaseThread (ok : Bool) : EglProxy σ :=
  if ok then { proxy with current := 0, gCurrentCtx := 0 } else proxy

/-- A context is not bound to a surface again that is gone. -/
def hEglDestroySurface (surface : UInt32) (ok : Bool) : EglProxy σ :=
  if ok then
    let real := proxy.eglSurfaces surface
    { proxy with
      eglSurfaces := Function.update proxy.eglSurfaces surface 0
      gCtxBindings := fun id =>
        let binding := proxy.gCtxBindings id
        if id = 0 then binding
        else
          { binding with
            draw := if binding.draw = real then 0 else binding.draw
            read := if binding.read = real then 0 else binding.read } }
  else proxy

/-- Without a current context a command of GL does nothing. -/
def performGl (act : σ → σ) : EglProxy σ :=
  if proxy.current = 0 then proxy
  else
    { proxy with
      contexts := Function.update proxy.contexts proxy.current (act (proxy.contexts proxy.current)) }

/-- With `C->result` of `eglCreateContext`, and 0 of the others. -/
def handleEgl (fresh : σ) : EglCommand σ → Option (EglProxy σ × UInt32)
  | .eglCreateContext real => proxy.hEglCreateContext fresh real
  | .eglDestroyContext context ok =>
      (proxy.hEglDestroyContext context ok).map fun proxy => (proxy, 0)
  | .eglMakeCurrent display draw read context ok =>
      some (proxy.hEglMakeCurrent display draw read context ok, 0)
  | .eglReleaseThread ok => some (proxy.hEglReleaseThread ok, 0)
  | .eglDestroySurface surface ok => some (proxy.hEglDestroySurface surface ok, 0)
  | .otherTables displays surfaces =>
      some ({ proxy with eglDisplays := displays, eglSurfaces := surfaces }, 0)
  | .gl act => some (proxy.performGl act, 0)

/-- The loop of the proxy: `eglMakeCurrent` binds its own target, and the other
commands that of their thread. -/
def dispatch (fresh : σ) (targetCtx : UInt32) (accepts : Bool) (command : EglCommand σ) :
    Option (EglProxy σ × UInt32) :=
  match command with
  | .eglMakeCurrent .. => proxy.handleEgl fresh command
  | _ => (proxy.eglBindTargetCtx targetCtx accepts).handleEgl fresh command

end EglProxy

end GlesBridge.Proxy
