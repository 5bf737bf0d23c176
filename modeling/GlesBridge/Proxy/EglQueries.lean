import GlesBridge.Data.Packed
import GlesBridge.Handles.Rules

namespace GlesBridge.Proxy

open GlesBridge.Data GlesBridge.Systems GlesBridge.Systems.Checked

/-! The queries of EGL with a status and a number (`protocol/egl.c`). -/

attribute [-instance] instNeZeroNatHAdd instNeZeroNatHAdd_1

/-- What the driver returns, and what it writes, if it writes anything. -/
structure DriverAnswer where
  ok : UInt32
  written : Option Int32
deriving DecidableEq, Repr

/-- What is in a variable after the driver's answer. -/
def DriverAnswer.left (answer : DriverAnswer) (before : Int32) : Int32 :=
  answer.written.getD before

/-- With handles as the client asks, and with real objects as the driver is asked.
`hasConfigs` is whether there is an array for the configurations. -/
inductive EglQuery where
  | eglQueryContext (dpy ctx : UInt32) (attr : Int32)
  | eglQuerySurface (dpy surface : UInt32) (attr : Int32)
  | eglGetConfigAttrib (dpy config : UInt32) (attr : Int32)
  | eglGetConfigs (dpy : UInt32) (hasConfigs : Bool) (configSize : Int32)
  | eglChooseConfig (dpy : UInt32) (attribList : Option (List Int32)) (hasConfigs : Bool)
      (configSize : Int32)
deriving DecidableEq, Repr

/-- The arrays `tmp` have so many entries. -/
def maxConfigs : Int32 := 128

namespace EglQuery

variable (tables : HandleTables) (driver : EglQuery → DriverAnswer) (query : EglQuery)

/-- The client's own query, of the real objects. -/
def real : EglQuery :=
  match query with
  | .eglQueryContext dpy ctx attr =>
      .eglQueryContext (tables.real.displays (clamp _ dpy)) (tables.real.contexts (clamp _ ctx)) attr
  | .eglQuerySurface dpy surface attr =>
      .eglQuerySurface (tables.real.displays (clamp _ dpy)) (tables.real.surfaces (clamp _ surface))
        attr
  | .eglGetConfigAttrib dpy config attr =>
      .eglGetConfigAttrib (tables.real.displays (clamp _ dpy)) (tables.real.configs (clamp _ config))
        attr
  | .eglGetConfigs dpy hasConfigs configSize =>
      .eglGetConfigs (tables.real.displays (clamp _ dpy)) hasConfigs configSize
  | .eglChooseConfig dpy attribList hasConfigs configSize =>
      .eglChooseConfig (tables.real.displays (clamp _ dpy)) attribList hasConfigs configSize

def limit (configSize : Int32) : Int32 := if configSize < maxConfigs then configSize else maxConfigs

/-- What the driver is asked and answers. Without a display it is not asked for
configurations. -/
def given : DriverAnswer :=
  match query.real tables with
  | .eglGetConfigs dpy _ configSize =>
      if dpy = 0 then { ok := 0, written := none }
      else driver (.eglGetConfigs dpy (0 < limit configSize) (limit configSize))
  | .eglChooseConfig dpy attribList hasConfigs configSize =>
      driver (.eglChooseConfig dpy attribList hasConfigs (limit configSize))
  | asked => driver asked

/-- The number that the handlers start with is 0. -/
def num : Int32 := (query.given tables driver).left 0

/-- The loop over the configurations runs past `tmp`. -/
def Overruns : Prop :=
  match query with
  | .eglGetConfigs _ _ configSize =>
      0 < configSize ∧ (query.given tables driver).ok ≠ 0 ∧ maxConfigs < query.num tables driver
  | .eglChooseConfig _ _ hasConfigs _ => hasConfigs = true ∧ maxConfigs < query.num tables driver
  | _ => False

instance decidableOverruns : ∀ query : EglQuery, Decidable (query.Overruns tables driver)
  | .eglGetConfigs .. => inferInstanceAs (Decidable (_ ∧ _ ∧ _))
  | .eglChooseConfig .. => inferInstanceAs (Decidable (_ ∧ _))
  | .eglQueryContext .. | .eglQuerySurface .. | .eglGetConfigAttrib .. =>
      inferInstanceAs (Decidable False)

/-- `C->result`; `eglQueryContext` is the one that leaves the status out. -/
def result : UInt64 :=
  match query with
  | .eglQueryContext .. => (query.num tables driver).toInt64.toUInt64
  | _ => packed (query.given tables driver).ok (query.num tables driver).toUInt32

/-- Reading past `tmp` has no defined outcome. -/
def reply : Option UInt64 :=
  if query.Overruns tables driver then none else some (query.result tables driver)

end EglQuery

/-! ## The handlers -/

namespace Handler

variable {tables : HandleTables} {driver : EglQuery → DriverAnswer} {di xi si ci : UInt32}
  {attr configSize : Int32}

theorem run_hEglQueryContext :
    (hEglQueryContext di xi fun dpy ctx =>
        ((driver (.eglQueryContext dpy ctx attr)).left 0).toInt64.toUInt64).run tables =
      .ok (.number ((EglQuery.eglQueryContext di xi attr).result tables driver), tables) := by
  apply Yields.run_eq
  unfold hEglQueryContext
  simp only [yields_bind, yields_disp, yields_ctx, yields_pure]
  exact ⟨rfl, trivial⟩

theorem run_hEglQuerySurface :
    (hEglQuerySurface di si fun dpy surface =>
        let answer := driver (.eglQuerySurface dpy surface attr)
        packed answer.ok (answer.left 0).toUInt32).run tables =
      .ok (.number ((EglQuery.eglQuerySurface di si attr).result tables driver), tables) := by
  apply Yields.run_eq
  unfold hEglQuerySurface onSurface
  simp only [yields_bind, yields_disp, yields_surf, yields_pure]
  exact ⟨rfl, trivial⟩

theorem run_hEglGetConfigAttrib :
    (hEglGetConfigAttrib di ci fun dpy config =>
        let answer := driver (.eglGetConfigAttrib dpy config attr)
        packed answer.ok (answer.left 0).toUInt32).run tables =
      .ok (.number ((EglQuery.eglGetConfigAttrib di ci attr).result tables driver), tables) := by
  apply Yields.run_eq
  unfold hEglGetConfigAttrib
  simp only [yields_bind, yields_disp, yields_cfg, yields_pure]
  exact ⟨rfl, trivial⟩

/-! The driver answers with a list of configurations. -/

def listed (ok : Bool) (configs : List UInt32) : DriverAnswer where
  ok := if ok then 1 else 0
  written := some (.ofNat configs.length)

variable {clientPid : Int32} {ok hasConfigs : Bool} {configs : List UInt32}
  {attribList : Option (List Int32)}

theorem packed_listed (few : configs.length < 4294967296) :
    packed (listed ok configs).ok (Int32.ofNat configs.length).toUInt32 =
      UInt64.ofNat configs.length ||| (if ok then 1 else 0 : UInt64) <<< 32 := by
  have low : (UInt32.ofNat configs.length).toUInt64 = UInt64.ofNat configs.length := by
    apply UInt64.toNat_inj.mp
    rw [UInt32.toNat_toUInt64, UInt32.toNat_ofNat_of_lt' few, UInt64.toNat_ofNat_of_lt']
    change configs.length < 18446744073709551616
    omega
  unfold packed
  rw [← low]
  cases ok <;> rfl

theorem result_hEglGetConfigs (few : configs.length < 4294967296) :
    (hEglGetConfigs clientPid di configSize ok configs).Yields
      (fun reply _ => reply.result =
        (EglQuery.eglGetConfigs di hasConfigs configSize).result tables fun _ => listed ok configs)
      tables := by
  have word : (EglQuery.eglGetConfigs di hasConfigs configSize).result tables
      (fun _ => listed ok configs) =
        (if tables.real.displays (clamp _ di) = 0 then 0 else UInt64.ofNat configs.length) |||
          (if ok && tables.real.displays (clamp _ di) != 0 then 1 else 0 : UInt64) <<< 32 := by
    unfold EglQuery.result EglQuery.num EglQuery.given EglQuery.real
    by_cases zero : tables.real.displays (clamp _ di) = 0
    · simp only [zero, if_true, bne_self_eq_false, Bool.and_false]
      rfl
    · simp only [zero, if_false, bne_iff_ne.mpr zero, Bool.and_true]
      exact packed_listed few
  unfold hEglGetConfigs
  simp only [yields_bind, yields_disp, yields_get, yields_modify, yields_ite, yields_pure, word]
  exact ⟨fun _ => trivial, fun _ => rfl⟩

theorem result_hEglChooseConfig (few : configs.length < 4294967296) :
    (hEglChooseConfig clientPid di hasConfigs ok configs).Yields
      (fun reply _ => reply.result =
        (EglQuery.eglChooseConfig di attribList hasConfigs configSize).result tables
          fun _ => listed ok configs)
      tables := by
  unfold hEglChooseConfig
  simp only [yields_bind, yields_disp, yields_get, yields_modify, yields_ite, yields_pure]
  exact ⟨fun _ => (packed_listed few).symm, fun _ => (packed_listed few).symm⟩

end Handler

end GlesBridge.Proxy
