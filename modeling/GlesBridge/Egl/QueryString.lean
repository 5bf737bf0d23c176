import GlesBridge.Stub.QueryString
import GlesBridge.Systems.Machine

namespace GlesBridge.Egl

open GlesBridge.Proxy GlesBridge.Stub GlesBridge.Systems

/-! The strings that `eglQueryString` answers by itself, against those of the proxy. -/

/-- `driver` has the strings that the driver would answer with now. -/
structure QuerySystem where
  stub : StringCache
  tables : HandleTables
  driver : DriverStrings

/-- A query, or any other commands, after which the tables and the driver are what
they are then. -/
inductive QueryOp where
  | eglQueryString (display : UInt32) (name : Int32)
  | others (tables : HandleTables) (driver : DriverStrings)

namespace QuerySystem

def zero : QuerySystem where
  stub := .zero
  tables := .zero
  driver _ _ := none

variable (state : QuerySystem)

/-- What the proxy would answer now. -/
def answer (display : UInt32) (name : Int32) : List UInt8 :=
  state.tables.hEglQueryString state.driver display name

def step : QueryOp → Option QuerySystem
  | .eglQueryString display name =>
      some { state with stub := (state.stub.eglQueryString display name (state.answer display name)).1 }
  | .others tables driver => some { state with tables, driver }

end QuerySystem

def querySystem : Machine QuerySystem QueryOp where
  step := QuerySystem.step

/-- An answer without the proxy is the one that it would give. -/
def CachedRight (state : QuerySystem) (op : QueryOp) : Prop :=
  ∀ display name text, op = .eglQueryString display name →
    state.stub.cached display name = some text → text = state.answer display name

/-- A query that is answered at once shares its cell with one of the same answer, such
as one of the same display and name; and other commands leave the answers as they
are of the queries that are kept. -/
def KeepsStrings (state : QuerySystem) : QueryOp → Prop
  | .eglQueryString display name =>
      (state.stub.cached display name).isSome →
        state.answer (state.stub.asked (stringCell display name)).1
            (state.stub.asked (stringCell display name)).2 =
          state.answer display name
  | .others tables driver =>
      ∀ cell, state.stub.valid cell = true →
        tables.hEglQueryString driver (state.stub.asked cell).1 (state.stub.asked cell).2 =
          state.answer (state.stub.asked cell).1 (state.stub.asked cell).2

/-- A cell has the answer of the query that it was filled by. -/
def Filled (state : QuerySystem) : Prop :=
  ∀ cell, state.stub.valid cell = true →
    state.stub.cache cell = state.answer (state.stub.asked cell).1 (state.stub.asked cell).2

variable {state next : QuerySystem} {op : QueryOp}

theorem Filled.zero : Filled .zero := fun _ valid => by cases valid

theorem Filled.step (filled : Filled state) (keeps : KeepsStrings state op)
    (stepped : querySystem.step state op = some next) : Filled next := by
  cases op with
  | eglQueryString display name =>
      cases stepped
      intro cell valid
      cases kept : state.stub.cached display name with
      | some text =>
          simp only [StringCache.eglQueryString, kept] at valid ⊢
          exact filled cell valid
      | none =>
          simp only [StringCache.eglQueryString, kept] at valid ⊢
          by_cases here : cell = stringCell display name
          · subst here
            simp only [Function.update_self]
            rfl
          · simp only [Function.update_of_ne here] at valid ⊢
            exact filled cell valid
  | others tables driver =>
      cases stepped
      intro cell valid
      exact (filled cell valid).trans (keeps cell valid).symm

theorem Filled.cachedRight (filled : Filled state) (keeps : KeepsStrings state op) :
    CachedRight state op := by
  intro display name text asks kept
  subst asks
  have same := keeps (by rw [kept]; rfl)
  unfold StringCache.cached at kept
  dsimp only at kept
  split at kept
  · rename_i valid
    cases kept
    exact (filled _ valid.1).trans same
  · cases kept

/-- In any run, as long as the conditions of its steps are met. -/
theorem cached_strings_right {ops : List QueryOp}
    (keeps : querySystem.Along KeepsStrings .zero ops) :
    querySystem.Along CachedRight .zero ops :=
  Machine.Along.of_invariant Filled.step Filled.cachedRight .zero keeps

def shortText (byte : UInt8) (some : byte ≠ 0) : CString where
  bytes := [byte]
  free := by simpa using some.symm

/-- A display at index 1, with the strings `E` for `EGL_EXTENSIONS` and `C` for
`EGL_CLIENT_APIS`. -/
def twoStrings : QueryOp :=
  .others (HandleTables.zero.setDisplay 1 fun entry => { entry with handle := 0x100 })
    fun real name =>
      if real = 0x100 ∧ name = 0x3055 then some (shortText 69 (by decide))
      else if real = 0x100 ∧ name = 0x308D then some (shortText 67 (by decide))
      else none

theorem cached_strings_right_again :
    querySystem.Along CachedRight .zero
      [twoStrings, .eglQueryString 1 0x3055, .eglQueryString 1 0x3055] := by
  refine cached_strings_right ⟨fun cell valid => (by cases valid), fun _ taken => ?_⟩
  cases taken
  refine ⟨fun kept => (by cases kept), fun _ taken => ?_⟩
  cases taken
  exact ⟨fun _ => rfl, fun _ _ => trivial⟩

/-- `EGL_EXTENSIONS` and `EGL_CLIENT_APIS` have the same low bits. -/
theorem client_apis_not_right :
    ¬ querySystem.Along CachedRight .zero
      [twoStrings, .eglQueryString 1 0x3055, .eglQueryString 1 0x308D] := by
  intro along
  iterate 2 obtain ⟨-, along⟩ := along; replace along := along _ rfl
  have wrong : ([69] : List UInt8) = [67] := along.1 1 0x308D [69] rfl rfl
  exact absurd wrong (by decide)

end GlesBridge.Egl
