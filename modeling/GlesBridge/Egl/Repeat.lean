import GlesBridge.Handles.Rules
import GlesBridge.Stub.Egl
import GlesBridge.Systems.Machine

namespace GlesBridge.Egl

open GlesBridge.Shared GlesBridge.Proxy GlesBridge.Stub GlesBridge.Systems GlesBridge.Systems.Checked

/-! The calls of `eglMakeCurrent` that a thread of the client answers by itself. -/

/-! ## The driver -/

/-- A context or a surface that lives. -/
structure EglObject where
  real : UInt32
  display : UInt32
  config : UInt32
deriving DecidableEq, Repr

/-- `fits` says which surfaces a context takes, by their configurations, and
`surfaceless` whether it needs any. -/
structure EglDriver where
  fits : UInt32 → UInt32 → Bool
  surfaceless : Bool
  contexts : List EglObject
  surfaces : List EglObject
  current : RealCurrent

/-- Nothing is current. -/
def noCurrent : RealCurrent where
  dpy := 0
  draw := 0
  read := 0
  context := 0

namespace EglDriver

variable (driver : EglDriver)

def takes (context : EglObject) (surface : UInt32) : Bool :=
  driver.surfaces.any fun object =>
    object.real == surface && object.display == context.display &&
      driver.fits context.config object.config

/-- Objects are made current while they live, together or none of them. -/
def accepts (made : RealCurrent) : Bool :=
  if made.context = 0 then made.draw == 0 && made.read == 0
  else driver.contexts.any fun object =>
    object.real == made.context && object.display == made.dpy &&
      (driver.surfaceless && made.draw == 0 && made.read == 0 ||
        driver.takes object made.draw && driver.takes object made.read)

/-- What a command makes of the objects, with the real objects of its handles. -/
def after (real : RealHandles) (reply : HandleReply) : HandleCommand → EglDriver
  | .eglCreateWindowSurface display config _ _ | .eglCreatePbufferSurface display config _
  | .eglCreatePixmapSurface display config _ =>
      { driver with
        surfaces := (reply.reals.filter (· ≠ 0)).map (fun made =>
          ⟨made, real.displays (clamp _ display), real.configs (clamp _ config)⟩) ++ driver.surfaces }
  | .eglCreateContext display config _ _ =>
      { driver with
        contexts := (reply.reals.filter (· ≠ 0)).map (fun made =>
          ⟨made, real.displays (clamp _ display), real.configs (clamp _ config)⟩) ++ driver.contexts }
  | .eglDestroySurface _ si true =>
      { driver with
        surfaces := driver.surfaces.filter fun object => object.real ≠ real.surfaces (clamp _ si) }
  | .eglDestroyContext _ xi true =>
      { driver with
        contexts := driver.contexts.filter fun object => object.real ≠ real.contexts (clamp _ xi) }
  | .eglTerminate di true =>
      { driver with
        contexts := driver.contexts.filter fun object => object.display ≠ real.displays (clamp _ di)
        surfaces := driver.surfaces.filter fun object => object.display ≠ real.displays (clamp _ di) }
  | .eglReleaseThread true => { driver with current := noCurrent }
  | _ => driver

end EglDriver

/-! ## Threads, proxy and driver -/

structure RepeatSystem where
  threads : Nat → EglThread
  tables : HandleTables
  driver : EglDriver

structure RepeatInput where
  thread : Nat
  clientPid : Int32
  command : HandleCommand ⊕ WlCommand

/-- The objects that the handles stand for. -/
def resolve (real : RealHandles) (args : MakeCurrent) : RealCurrent where
  dpy := real.displays (clamp _ args.display)
  draw := real.surfaces (clamp _ args.draw)
  read := real.surfaces (clamp _ args.read)
  context := real.contexts (clamp _ args.context)

namespace RepeatSystem

variable (state : RepeatSystem)

/-- The context of a thread is bound before its command. -/
def bindTarget (target : UInt32) : RepeatSystem :=
  match (Handler.eglBindTargetCtx state.driver.accepts target).run state.tables with
  | .ok (made, tables) =>
      { state with tables, driver.current := made.getD state.driver.current }
  | .error _ => state

/-- The call of `eglMakeCurrent` reaches the driver. -/
def sendMakeCurrent (args : MakeCurrent) : RepeatSystem × Bool :=
  match (Handler.hEglMakeCurrent state.driver.accepts args.display args.draw args.read
      args.context).run state.tables with
  | .ok (reply, tables) =>
      if reply.result = 0 then ({ state with tables }, false)
      else ({ state with tables, driver.current := resolve state.tables.real args }, true)
  | .error _ => (state, false)

def eglMakeCurrent (thread : Nat) (args : MakeCurrent) : RepeatSystem :=
  let (sent, ok) :=
    if (state.threads thread).repeats args then (state, true) else state.sendMakeCurrent args
  { sent with
    threads :=
      Function.update state.threads thread ((state.threads thread).eglMakeCurrent args ok) }

/-- The other commands; one that leaves an array has no outcome. -/
def serve (thread : Nat) (clientPid : Int32) (command : HandleCommand) : Option RepeatSystem :=
  let bound := state.bindTarget (state.threads thread).gStubCurrentCtx
  match (Handler.handle clientPid bound.driver.accepts command).run bound.tables with
  | .ok (reply, tables) =>
      some { bound with tables, driver := bound.driver.after bound.tables.real reply command }
  | .error _ => none

def serveWl (command : WlCommand) : Option RepeatSystem :=
  match (Handler.wlDispatch command).run state.tables with
  | .ok (_, tables) => some { state with tables }
  | .error _ => none

def step (input : RepeatInput) : Option RepeatSystem :=
  match input.command with
  | .inl (.eglMakeCurrent display draw read context) =>
      some (state.eglMakeCurrent input.thread ⟨display, draw, read, context⟩)
  | .inl command => state.serve input.thread input.clientPid command
  | .inr command => state.serveWl command

end RepeatSystem

/-- A surface lives that the context takes. -/
def EglDriver.Takes (driver : EglDriver) (context : EglObject) (surface : UInt32) : Prop :=
  ∃ object ∈ driver.surfaces, object.real = surface ∧ object.display = context.display ∧
    driver.fits context.config object.config = true

/-- The objects that the handles stand for live and go together. -/
def EglDriver.Live (driver : EglDriver) (made : RealCurrent) : Prop :=
  if made.context = 0 then made.draw = 0 ∧ made.read = 0
  else ∃ object ∈ driver.contexts, object.real = made.context ∧ object.display = made.dpy ∧
    (driver.surfaceless = true ∧ made.draw = 0 ∧ made.read = 0 ∨
      driver.Takes object made.draw ∧ driver.Takes object made.read)

/-- The context is on record with what the handles stand for now. -/
def Recorded (tables : HandleTables) (args : MakeCurrent) : Prop :=
  let real := resolve tables.real args
  tables.gCtxBindings (clamp _ args.context) = ⟨real.dpy, real.draw, real.read, true⟩

/-- What the handles stand for lives, it is what the context is recorded with, and it
is what is current, or will be: a context that is not current has to be one that
is bound again, and without a context nothing may be current. -/
structure Intact (state : RepeatSystem) (args : MakeCurrent) : Prop where
  live : state.driver.Live (resolve state.tables.real args)
  recorded : args.context ≠ 0 → args.context.toNat ≤ eglBridgeMaxContexts →
    Recorded state.tables args
  bound : if state.tables.gCurrentCtx = args.context then
      state.driver.current = resolve state.tables.real args
    else args.context ≠ 0 ∧ args.context.toNat < maxContexts ∧
      (resolve state.tables.real args).context ≠ 0

/-! ## Rules -/

section

variable {driver : EglDriver} {made : RealCurrent} {object : EglObject} {surface : UInt32}

theorem takes_iff : driver.takes object surface = true ↔ driver.Takes object surface := by
  simp [EglDriver.takes, EglDriver.Takes, List.any_eq_true, and_assoc]

theorem accepts_iff : driver.accepts made = true ↔ driver.Live made := by
  unfold EglDriver.accepts EglDriver.Live
  split
  · simp
  · simp [List.any_eq_true, takes_iff, and_assoc]

end

section

variable {tables : HandleTables} {accepts : RealCurrent → Bool} {args : MakeCurrent}
  {target : UInt32}

/-- The tables once a context has been made current. -/
def madeCurrent (tables : HandleTables) (args : MakeCurrent) : HandleTables :=
  let real := resolve tables.real args
  { tables with
    gCurrentCtx := args.context
    gCtxBindings :=
      if args.context ≠ 0 ∧ args.context.toNat ≤ eglBridgeMaxContexts then
        Function.update tables.gCtxBindings (clamp _ args.context)
          ⟨real.dpy, real.draw, real.read, true⟩
      else tables.gCtxBindings }

end

/-! ## Calls that are answered at once change nothing -/

section

variable {state : RepeatSystem} {args : MakeCurrent} {target : UInt32} {input : RepeatInput}
  {inputs : List RepeatInput}

/-- What is bound after the command. -/
def sent (state : RepeatSystem) (args : MakeCurrent) : RepeatSystem :=
  { state with
    tables := madeCurrent state.tables args
    driver.current := resolve state.tables.real args }

/-- A driver without surfaceless contexts, and nothing else. -/
def RepeatSystem.zero : RepeatSystem where
  threads _ := .zero
  tables := .zero
  driver :=
    { fits := fun _ _ => true
      surfaceless := false
      contexts := []
      surfaces := []
      current := noCurrent }

end

end GlesBridge.Egl
