import GlesBridge.Stub.Egl
import GlesBridge.Systems.Machine

namespace GlesBridge.Egl

open GlesBridge.Shared GlesBridge.Proxy GlesBridge.Proxy.EglProxy GlesBridge.Stub GlesBridge.Systems

/-! Threads of the client and the one thread of the proxy, as far as contexts go.
The ring keeps the order of the calls.
-/

/-- `made` is a record of the run: the handles that a thread has made current,
with success, since they got their contexts. -/
structure EglSystem (σ : Type) where
  threads : Nat → EglThread
  proxy : EglProxy σ
  made : Nat → UInt32 → Bool

/-- A call of a thread, with the driver's answer where the proxy binds a context for it. -/
structure EglInput (σ : Type) where
  thread : Nat
  call : EglCommand σ
  accepts : Bool

namespace EglSystem

variable {σ : Type}

def zero (fresh : σ) : EglSystem σ where
  threads _ := .zero
  proxy := .zero fresh
  made _ _ := false

variable (state : EglSystem σ)

def note (thread : Nat) (handle : UInt32) : Nat → UInt32 → Bool :=
  Function.update state.made thread (Function.update (state.made thread) handle true)

/-- A handle that gets a context has been made current by no thread. -/
def forget (handle : UInt32) : Nat → UInt32 → Bool := fun thread other =>
  if other = handle then false else state.made thread other

def eglMakeCurrent (thread : Nat) (args : MakeCurrent) (ok : Bool) : EglSystem σ :=
  let repeats := (state.threads thread).repeats args
  { threads :=
      Function.update state.threads thread ((state.threads thread).eglMakeCurrent args ok)
    proxy :=
      if repeats then state.proxy
      else state.proxy.hEglMakeCurrent args.display args.draw args.read args.context ok
    made := if repeats || ok then state.note thread args.context else state.made }

def step (fresh : σ) (input : EglInput σ) : Option (EglSystem σ) :=
  match input.call with
  | .eglMakeCurrent display draw read context ok =>
      some (state.eglMakeCurrent input.thread ⟨display, draw, read, context⟩ ok)
  | call =>
      let target := (state.threads input.thread).gStubCurrentCtx
      (state.proxy.dispatch fresh target input.accepts call).map fun (proxy, result) =>
        { state with
          proxy
          made := if result = 0 then state.made else state.forget result }

end EglSystem

def eglSystem {σ : Type} (fresh : σ) : Machine (EglSystem σ) (EglInput σ) where
  step state input := state.step fresh input

end GlesBridge.Egl
