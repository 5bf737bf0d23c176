import GlesBridge.Data.Handles
import GlesBridge.Proxy.Egl
import GlesBridge.Systems.Checked

namespace GlesBridge.Proxy

open GlesBridge.Data GlesBridge.Shared GlesBridge.Systems

/-! The tables in which the proxy keeps the real objects of EGL and Wayland, and
the handlers that index them by what a client sends.
-/

attribute [-instance] instNeZeroNatHAdd instNeZeroNatHAdd_1

abbrev eglBridgeMaxDisplays : Nat := 4

abbrev eglBridgeMaxConfigs : Nat := 128

abbrev eglBridgeMaxSurfaces : Nat := 16

abbrev proxySurfMax : Nat := 16

abbrev maxWlEglWindows : Nat := 64

/-- A null pointer is 0. -/
structure EGLHandleEntry where
  handle : UInt32
  ownerPid : Int32
  initialized : Bool
  major : Int32
  minor : Int32
deriving DecidableEq, Repr

inductive HandleArray where
  | eglDisplays
  | eglConfigs
  | eglContexts
  | eglSurfaces
  | gCtxBindings
  | proxyWlEglWindows
  | gSurfs
  | gShellSurfs
  | gWebosShellSurfaces
  | displayTable
deriving DecidableEq, Repr

/-- The entries of the last seven are pointers, as are the four globals of Wayland. -/
structure HandleTables where
  eglDisplays : Fin (eglBridgeMaxDisplays + 1) → EGLHandleEntry
  eglConfigs : Fin (eglBridgeMaxConfigs + 1) → EGLHandleEntry
  eglContexts : Fin (eglBridgeMaxContexts + 1) → EGLHandleEntry
  eglSurfaces : Fin (eglBridgeMaxSurfaces + 1) → EGLHandleEntry
  gCurrentCtx : UInt32
  gCtxBindings : Fin (eglBridgeMaxContexts + 1) → CtxBinding
  proxyWlEglWindows : Fin maxWlEglWindows → UInt32
  gSurfs : Fin proxySurfMax → UInt32
  gShellSurfs : Fin proxySurfMax → UInt32
  gWebosShellSurfaces : Fin proxySurfMax → UInt32
  displayTable : Fin eglBridgeMaxDisplays → UInt32
  gSurfNext : UInt32
  proxyWlDisplay : UInt32
  proxyWlCompositor : UInt32
  proxyWlShell : UInt32
  proxyWlWebosShell : UInt32

/-- `words` are written to `result_buf` or to the arena, and `reals` are the objects
that the driver has answered with. -/
structure HandleReply where
  result : UInt64
  words : List UInt32
  reals : List UInt32
deriving DecidableEq, Repr

def HandleReply.number (result : UInt64) : HandleReply where
  result
  words := []
  reals := []

def HandleReply.answered (idx : Nat) (real : UInt32) : HandleReply where
  result := .ofNat idx
  words := []
  reals := [real]

/-- The real objects with which a thread is made current. -/
structure RealCurrent where
  dpy : UInt32
  draw : UInt32
  read : UInt32
  context : UInt32
deriving DecidableEq, Repr

def EGLHandleEntry.zero : EGLHandleEntry where
  handle := 0
  ownerPid := 0
  initialized := false
  major := 0
  minor := 0

def HandleTables.zero : HandleTables where
  eglDisplays _ := .zero
  eglConfigs _ := .zero
  eglContexts _ := .zero
  eglSurfaces _ := .zero
  gCurrentCtx := 0
  gCtxBindings _ := ⟨0, 0, 0, false⟩
  proxyWlEglWindows _ := 0
  gSurfs _ := 0
  gShellSurfs _ := 0
  gWebosShellSurfaces _ := 0
  displayTable _ := 0
  gSurfNext := 1
  proxyWlDisplay := 0
  proxyWlCompositor := 0
  proxyWlShell := 0
  proxyWlWebosShell := 0

namespace HandleTables

variable (tables : HandleTables)

def setDisplay (e : Fin (eglBridgeMaxDisplays + 1)) (change : EGLHandleEntry → EGLHandleEntry) :
    HandleTables :=
  { tables with eglDisplays := Function.update tables.eglDisplays e (change (tables.eglDisplays e)) }

def setContext (e : Fin (eglBridgeMaxContexts + 1)) (change : EGLHandleEntry → EGLHandleEntry) :
    HandleTables :=
  { tables with eglContexts := Function.update tables.eglContexts e (change (tables.eglContexts e)) }

def setSurface (e : Fin (eglBridgeMaxSurfaces + 1)) (change : EGLHandleEntry → EGLHandleEntry) :
    HandleTables :=
  { tables with eglSurfaces := Function.update tables.eglSurfaces e (change (tables.eglSurfaces e)) }

end HandleTables

/-- The pointers of a table. -/
def handles {n : Nat} (table : Fin (n + 1) → EGLHandleEntry) (index : Fin (n + 1)) : UInt32 :=
  (table index).handle

/-- The entry that `TABLE_ALLOC` takes; without one the table is full. -/
def tableAlloc {n : Nat} (table : Fin (n + 1) → EGLHandleEntry) (real : UInt32) (pid : Int32) :
    (Fin (n + 1) → EGLHandleEntry) × Fin (n + 1) :=
  match placeOf (handles table) 0 with
  | some index =>
      (Function.update table index { table index with handle := real, ownerPid := pid }, index)
  | none => (table, 0)

abbrev Handler : Type → Type := Checked HandleArray HandleTables

namespace Handler

def index (array : HandleArray) (size : Nat) (value : UInt32) : Handler (Fin size) :=
  Checked.access array size value.toNat

/-! ## Macros -/

def disp (i : UInt32) : Handler UInt32 := do
  let entry ← index .eglDisplays (eglBridgeMaxDisplays + 1) (if i.toNat ≤ eglBridgeMaxDisplays then i else 0)
  return ((← get).eglDisplays entry).handle

def cfg (i : UInt32) : Handler UInt32 := do
  let entry ← index .eglConfigs (eglBridgeMaxConfigs + 1) (if i.toNat ≤ eglBridgeMaxConfigs then i else 0)
  return ((← get).eglConfigs entry).handle

def ctx (i : UInt32) : Handler UInt32 := do
  let entry ← index .eglContexts (eglBridgeMaxContexts + 1) (if i.toNat ≤ eglBridgeMaxContexts then i else 0)
  return ((← get).eglContexts entry).handle

def surf (i : UInt32) : Handler UInt32 := do
  let entry ← index .eglSurfaces (eglBridgeMaxSurfaces + 1) (if i.toNat ≤ eglBridgeMaxSurfaces then i else 0)
  return ((← get).eglSurfaces entry).handle

/-- What becomes current, when the driver accepts it. -/
def eglBindTargetCtx (accepts : RealCurrent → Bool) (target : UInt32) :
    Handler (Option RealCurrent) := do
  if target = 0 ∨ target = (← get).gCurrentCtx ∨ maxContexts ≤ target.toNat then return none
  else
    let binding := (← get).gCtxBindings (← index .gCtxBindings (eglBridgeMaxContexts + 1) target)
    let context ← ctx target
    if binding.valid = false ∨ context = 0 then return none
    else
      let made : RealCurrent := ⟨binding.dpy, binding.draw, binding.read, context⟩
      if accepts made = false then return none
      else
        modify fun tables => { tables with gCurrentCtx := target }
        return some made

/-! ## Handlers of EGL

Each comes with what the driver answers.
-/

variable (clientPid : Int32)

/-- `real` is null where the driver has no such function. -/
def hEglGetPlatformDisplayEXT (real : UInt32) : Handler HandleReply := do
  if (← get).proxyWlDisplay = 0 then return .number 0
  else if real = 0 then return .answered 0 real
  else
    let (table, idx) := tableAlloc (← get).eglDisplays real clientPid
    if idx = 0 then
      modify (·.setDisplay 1 fun entry => { entry with handle := real })
      return .answered 1 real
    else
      modify fun tables => { tables with eglDisplays := table }
      return .answered idx.val real

/-- A null pointer takes an entry too. -/
def hEglGetDisplay (real : UInt32) : Handler HandleReply := do
  if (← get).proxyWlDisplay = 0 then return .number 0
  else
    let (table, idx) := tableAlloc (← get).eglDisplays real clientPid
    if idx = 0 ∧ real ≠ 0 then
      modify (·.setDisplay 1 fun entry => { entry with handle := real, ownerPid := clientPid })
      return .answered 1 real
    else
      modify fun tables => { tables with eglDisplays := table }
      return .answered idx.val real

def hEglInitialize (di : UInt32) (major minor : Int32) (ok : Bool) : Handler HandleReply := do
  let real ← disp di
  let e ← index .eglDisplays (eglBridgeMaxDisplays + 1) di
  let entry := (← get).eglDisplays e
  let calls := real != 0 && !entry.initialized
  if calls then
    modify (·.setDisplay e fun entry => { entry with initialized := true, major, minor })
  let entry := (← get).eglDisplays e
  return {
    result := if calls && ok then 1 else 0
    words := [entry.major.toUInt32, entry.minor.toUInt32]
    reals := [] }

def hEglTerminate (di : UInt32) (ok : Bool) : Handler HandleReply := do
  let e ← index .eglDisplays (eglBridgeMaxDisplays + 1) di
  let _ ← disp di
  if ok then
    modify (·.setDisplay e fun entry => { entry with initialized := false, major := 0, minor := 0 })
  modify (·.setDisplay e fun entry => { entry with ownerPid := 0 })
  return .number (if ok then 1 else 0)

def hEglReleaseThread (ok : Bool) : Handler HandleReply := do
  if ok then modify fun tables => { tables with gCurrentCtx := 0 }
  return .number (if ok then 1 else 0)

/-- Another index even if the configuration has one; the index that it has only when
the table is full. -/
def getConfigs (table : Fin (eglBridgeMaxConfigs + 1) → EGLHandleEntry) :
    List UInt32 → (Fin (eglBridgeMaxConfigs + 1) → EGLHandleEntry) × List UInt32
  | [] => (table, [])
  | real :: rest =>
      let (table, ci) := tableAlloc table real clientPid
      let ci := if ci = 0 then (placeOf (handles table) real).getD 0 else ci
      let (table, out) := getConfigs table rest
      (table, .ofNat ci.val :: out)

/-- `configs` are the entries of `tmp` that the driver has written. -/
def hEglGetConfigs (di : UInt32) (cfgSz : Int32) (ok : Bool) (configs : List UInt32) :
    Handler HandleReply := do
  let real ← disp di
  let ok := ok && real != 0
  let num : UInt64 := if real = 0 then 0 else .ofNat configs.length
  let flag : UInt64 := if ok then 1 else 0
  let result := num ||| flag <<< 32
  if 0 < cfgSz ∧ ok = true then
    let (table, out) := getConfigs clientPid (← get).eglConfigs configs
    modify fun tables => { tables with eglConfigs := table }
    return { result, words := out, reals := configs }
  else return .number result

/-- The index that a configuration has, and another one only if it has none. -/
def chooseConfigs (table : Fin (eglBridgeMaxConfigs + 1) → EGLHandleEntry) :
    List UInt32 → (Fin (eglBridgeMaxConfigs + 1) → EGLHandleEntry) × List UInt32
  | [] => (table, [])
  | real :: rest =>
      let (table, ci) :=
        match placeOf (handles table) real with
        | some ci => (table, ci)
        | none => tableAlloc table real clientPid
      let (table, out) := chooseConfigs table rest
      (table, .ofNat ci.val :: out)

def hEglChooseConfig (di : UInt32) (hasConfigs : Bool) (ok : Bool) (configs : List UInt32) :
    Handler HandleReply := do
  let _ ← disp di
  let flag : UInt64 := if ok then 1 else 0
  let result := .ofNat configs.length ||| flag <<< 32
  if hasConfigs then
    let (table, out) := chooseConfigs clientPid (← get).eglConfigs configs
    modify fun tables => { tables with eglConfigs := table }
    return { result, words := out, reals := configs }
  else return .number result

/-- The end of the three handlers that create surfaces. -/
def enterSurface (real : UInt32) : Handler HandleReply := do
  let before := (← get).eglSurfaces
  let (table, si) := if real ≠ 0 then tableAlloc before real clientPid else (before, 0)
  modify fun tables => { tables with eglSurfaces := table }
  modify (·.setSurface si fun entry => { entry with ownerPid := clientPid })
  return .answered si.val real

def hEglCreateWindowSurface (display config winSlot real : UInt32) : Handler HandleReply := do
  if maxWlEglWindows ≤ winSlot.toNat then return .number 0
  else
    let window ← index .proxyWlEglWindows maxWlEglWindows winSlot
    if (← get).proxyWlEglWindows window = 0 then return .number 0
    else
      let _ ← disp display
      let _ ← cfg config
      enterSurface clientPid real

def hEglCreatePbufferSurface (di ci real : UInt32) : Handler HandleReply := do
  let _ ← disp di
  let _ ← cfg ci
  enterSurface clientPid real

def hEglCreatePixmapSurface (di ci real : UInt32) : Handler HandleReply := do
  let _ ← disp di
  let _ ← cfg ci
  enterSurface clientPid real

/-- `TABLE_FREE`, of an index as it comes. -/
def freeSurface (si : UInt32) : Handler Unit := do
  let entry ← index .eglSurfaces (eglBridgeMaxSurfaces + 1) si
  modify (·.setSurface entry fun entry => { entry with handle := 0, ownerPid := 0 })

/-- A context is not bound to a surface again that is gone. -/
def forgetSurface (real : UInt32) (binding : CtxBinding) : CtxBinding :=
  { binding with
    draw := if binding.draw = real then 0 else binding.draw
    read := if binding.read = real then 0 else binding.read }

def hEglDestroySurface (di si : UInt32) (ok : Bool) : Handler HandleReply := do
  let real ← surf si
  let _ ← disp di
  if ok then
    freeSurface si
    modify fun tables =>
      { tables with
        gCtxBindings := fun i =>
          if i = 0 then tables.gCtxBindings i else forgetSurface real (tables.gCtxBindings i) }
  let entry ← index .eglSurfaces (eglBridgeMaxSurfaces + 1) si
  modify (·.setSurface entry fun entry => { entry with ownerPid := 0 })
  return .number (if ok then 1 else 0)

def hEglCreateContext (di ci shareIdx real : UInt32) : Handler HandleReply := do
  if shareIdx ≠ 0 then
    let _ ← ctx shareIdx
  let _ ← disp di
  let _ ← cfg ci
  let before := (← get).eglContexts
  let (table, xi) := if real ≠ 0 then tableAlloc before real clientPid else (before, 0)
  modify fun tables => { tables with eglContexts := table }
  return .answered xi.val real

def hEglDestroyContext (di xi : UInt32) (ok : Bool) : Handler HandleReply := do
  let _ ← disp di
  let _ ← ctx xi
  if ok then
    let entry ← index .eglContexts (eglBridgeMaxContexts + 1) xi
    modify (·.setContext entry fun entry => { entry with handle := 0, ownerPid := 0 })
    if xi.toNat ≤ eglBridgeMaxContexts then
      let binding ← index .gCtxBindings (eglBridgeMaxContexts + 1) xi
      modify fun tables =>
        { tables with
          gCtxBindings :=
            Function.update tables.gCtxBindings binding
              { tables.gCtxBindings binding with valid := false } }
  let entry ← index .eglContexts (eglBridgeMaxContexts + 1) xi
  modify (·.setContext entry fun entry => { entry with ownerPid := 0 })
  return .number (if ok then 1 else 0)

def hEglMakeCurrent (accepts : RealCurrent → Bool) (display draw read context : UInt32) :
    Handler HandleReply := do
  let made : RealCurrent := ⟨← disp display, ← surf draw, ← surf read, ← ctx context⟩
  if accepts made then
    modify fun tables => { tables with gCurrentCtx := context }
    if context ≠ 0 ∧ context.toNat ≤ eglBridgeMaxContexts then
      let binding ← index .gCtxBindings (eglBridgeMaxContexts + 1) context
      modify fun tables =>
        { tables with
          gCtxBindings :=
            Function.update tables.gCtxBindings binding ⟨made.dpy, made.draw, made.read, true⟩ }
    return .number 1
  else return .number 0

/-- The three queries of what is current look the driver's answer up. -/
def currentIndex {n : Nat} (table : HandleTables → Fin (n + 1) → EGLHandleEntry) (real : UInt32) :
    Handler HandleReply := do
  if real = 0 then return .number 0
  else return .answered ((placeOf (handles (table (← get))) real).getD 0).val real

def hEglGetCurrentContext (real : UInt32) : Handler HandleReply := currentIndex (·.eglContexts) real

def hEglGetCurrentSurface (real : UInt32) : Handler HandleReply := currentIndex (·.eglSurfaces) real

def hEglGetCurrentDisplay (real : UInt32) : Handler HandleReply := currentIndex (·.eglDisplays) real

/-- The handlers that only pass real objects on; `answer` is the driver's. -/
def onDisplay (di : UInt32) (answer : UInt32 → UInt64) : Handler HandleReply := do
  return .number (answer (← disp di))

def onSurface (di si : UInt32) (answer : UInt32 → UInt32 → UInt64) : Handler HandleReply := do
  return .number (answer (← disp di) (← surf si))

def hEglQueryString : UInt32 → (UInt32 → UInt64) → Handler HandleReply := onDisplay

def hEglSwapInterval : UInt32 → (UInt32 → UInt64) → Handler HandleReply := onDisplay

def hEglQuerySurface : UInt32 → UInt32 → (UInt32 → UInt32 → UInt64) → Handler HandleReply := onSurface

def hEglSurfaceAttrib : UInt32 → UInt32 → (UInt32 → UInt32 → UInt64) → Handler HandleReply := onSurface

def hEglBindTexImage : UInt32 → UInt32 → (UInt32 → UInt32 → UInt64) → Handler HandleReply := onSurface

def hEglReleaseTexImage : UInt32 → UInt32 → (UInt32 → UInt32 → UInt64) → Handler HandleReply :=
  onSurface

def hEglCopyBuffers : UInt32 → UInt32 → (UInt32 → UInt32 → UInt64) → Handler HandleReply := onSurface

def hEglSwapBuffers : UInt32 → UInt32 → (UInt32 → UInt32 → UInt64) → Handler HandleReply := onSurface

def hEglGetConfigAttrib (di ci : UInt32) (answer : UInt32 → UInt32 → UInt64) :
    Handler HandleReply := do
  return .number (answer (← disp di) (← cfg ci))

def hEglQueryContext (di xi : UInt32) (answer : UInt32 → UInt32 → UInt64) :
    Handler HandleReply := do
  return .number (answer (← disp di) (← ctx xi))

end Handler

end GlesBridge.Proxy
