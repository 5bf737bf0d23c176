import GlesBridge.Proxy.Egl

namespace GlesBridge.Stub

open GlesBridge.Proxy

/-! What a thread of the client remembers of its current context. -/

/-- The arguments of `eglMakeCurrent`, as handles. -/
structure MakeCurrent where
  display : UInt32
  draw : UInt32
  read : UInt32
  context : UInt32
deriving DecidableEq, Repr

/-- `last` is none without `have_last`. -/
structure EglThread where
  last : Option MakeCurrent
  gStubCurrentCtx : UInt32

namespace EglThread

def zero : EglThread where
  last := none
  gStubCurrentCtx := 0

variable (thread : EglThread)

/-- A call that repeats the last one is answered at once. -/
def repeats (args : MakeCurrent) : Bool := thread.last == some args

/-- The thread takes the context for its own, whatever the answer is. -/
def eglMakeCurrent (args : MakeCurrent) (ok : Bool) : EglThread :=
  if thread.repeats args then { thread with gStubCurrentCtx := args.context }
  else { last := if ok then some args else none, gStubCurrentCtx := args.context }

end EglThread

end GlesBridge.Stub
