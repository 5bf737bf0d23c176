import GlesBridge.Proxy.EglQueries
import GlesBridge.Stub.Mapping
import GlesBridge.Stub.SurfaceQuery

namespace GlesBridge.Stub

open GlesBridge.Data GlesBridge.Proxy

/-! What the stub makes of the replies to the queries of EGL. `out` is what is in the
output argument, if there is one. -/

namespace EglQueries

variable (query : EglQuery) (caches : SurfaceCaches) (out : Option Int32)

/-- `eglQuerySurface` asks the caches first. -/
def answered : Option Int32 :=
  match query with
  | .eglQuerySurface dpy surface attr =>
      if out.isSome then caches.answered ⟨dpy, surface, attr⟩ else none
  | _ => none

def bufSz (configSize : Int32) : UInt32 := (configSize.toUInt32.toUInt64 * 4).toUInt32

/-- The stub aborts when the array for the configurations does not fit into the data. -/
def Fits : Prop :=
  match query with
  | .eglGetConfigs _ hasConfigs configSize | .eglChooseConfig _ _ hasConfigs configSize =>
      hasConfigs = true → (bufSz configSize).toNat ≤ glesBridgeDataSize
  | _ => True

/-- The status and the number. `eglQueryContext` takes both from the low half. -/
def received (word : UInt64) : UInt32 × Int32 :=
  match query with
  | .eglQueryContext .. => (word.toUInt32, word.toUInt32.toInt32)
  | _ => (highHalf word, (lowHalf word).toInt32)

/-- `cnt` configurations fit into `tmp`; a negative number is a large size. -/
def CopiesAll (value configSize : Int32) : Prop :=
  let cnt := if value < configSize then value else configSize
  0 ≤ cnt ∧ cnt ≤ maxConfigs

/-- The configurations are copied for the client, with `*num_config` read again. -/
def Copies (ok : UInt32) (value : Int32) : Prop :=
  match query with
  | .eglGetConfigs _ hasConfigs configSize =>
      hasConfigs = true → ok ≠ 0 → CopiesAll value configSize
  | .eglChooseConfig _ _ hasConfigs configSize =>
      hasConfigs = true → ok ≠ 0 → out.isSome = true ∧ (0 < value → CopiesAll value configSize)
  | _ => True

instance decidableCopiesAll (value configSize : Int32) : Decidable (CopiesAll value configSize) :=
  inferInstanceAs (Decidable (_ ∧ _))

instance decidableFits : ∀ query, Decidable (Fits query)
  | .eglGetConfigs .. | .eglChooseConfig .. => inferInstanceAs (Decidable (_ → _))
  | .eglQueryContext .. | .eglQuerySurface .. | .eglGetConfigAttrib .. =>
      inferInstanceAs (Decidable True)

instance decidableCopies (ok : UInt32) (value : Int32) : ∀ query, Decidable (Copies query out ok value)
  | .eglGetConfigs .. => inferInstanceAs (Decidable (_ → _ → _))
  | .eglChooseConfig .. => inferInstanceAs (Decidable (_ → _ → _ ∧ (_ → _)))
  | .eglQueryContext .. | .eglQuerySurface .. | .eglGetConfigAttrib .. =>
      inferInstanceAs (Decidable True)

/-- What an entry point returns and leaves in the output argument, unless the stub is lost. -/
def call (tables : HandleTables) (driver : EglQuery → DriverAnswer) :
    Option (UInt32 × Option Int32) :=
  match answered query caches out with
  | some val => some (1, out.map fun _ => val)
  | none =>
      if Fits query then
        (query.reply tables driver).bind fun word =>
          let (ok, value) := received query word
          if Copies query out ok value then some (ok, out.map fun _ => value) else none
      else none

end EglQueries

end GlesBridge.Stub
