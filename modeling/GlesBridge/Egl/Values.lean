import GlesBridge.Stub.EglQueries

namespace GlesBridge.Egl

open GlesBridge.Data GlesBridge.Proxy GlesBridge.Stub GlesBridge.Stub.EglQueries

/-! The status and the number of a query, as they come to the client. -/

variable (tables : HandleTables) (driver : EglQuery → DriverAnswer) (caches : SurfaceCaches)
  (query : EglQuery) (out : Option Int32)

/-- The driver asked by the client itself. -/
def direct : UInt32 × Option Int32 :=
  let answer := driver (query.real tables)
  (answer.ok, out.map answer.left)

/-- What the driver gives the proxy is what it would give the client, in the output
argument as well as in the variable of the handler. -/
def SameAnswer (given answer : DriverAnswer) (out : Option Int32) : Prop :=
  given.ok = answer.ok ∧ ∀ before, out = some before → given.left 0 = answer.left before

/-- A value from the caches is the driver's. Otherwise the driver has the same answer
for what the proxy asks, of `eglQueryContext` it has the status for its value, and the
configurations fit into the arrays that they are copied to. -/
def Travels : Prop :=
  match answered query caches out with
  | some val => SameAnswer { ok := 1, written := some val } (driver (query.real tables)) out
  | none =>
      SameAnswer (query.given tables driver) (driver (query.real tables)) out ∧ Fits query ∧
        ¬ query.Overruns tables driver ∧
        match query with
        | .eglQueryContext .. =>
            (query.num tables driver).toUInt32 = (query.given tables driver).ok
        | _ => Copies query out (query.given tables driver).ok (query.num tables driver)

variable {tables driver caches query out}

theorem map_left_iff {given answer : DriverAnswer} :
    out.map (fun _ => given.left 0) = out.map answer.left ↔
      ∀ before, out = some before → given.left 0 = answer.left before := by
  cases out with
  | none => simp
  | some before => simp

theorem sameAnswer_iff {given answer : DriverAnswer} :
    (given.ok, out.map fun _ => given.left 0) = (answer.ok, out.map answer.left) ↔
      SameAnswer given answer out := by
  rw [Prod.mk.injEq, map_left_iff]
  rfl

/-- The four queries that pack both parts. -/
theorem received_packed {ok : UInt32} {value : Int32}
    (both : ∀ dpy ctx attr, query ≠ .eglQueryContext dpy ctx attr) :
    received query (packed ok value.toUInt32) = (ok, value) := by
  cases query with
  | eglQueryContext dpy ctx attr => exact absurd rfl (both dpy ctx attr)
  | _ => simp [received]

theorem received_context {dpy ctx : UInt32} {attr value : Int32} :
    received (.eglQueryContext dpy ctx attr) value.toInt64.toUInt64 = (value.toUInt32, value) := by
  simp [received]

/-- The reply without an access past `tmp`. -/
theorem call_eq {tables : HandleTables} {driver : EglQuery → DriverAnswer}
    (asked : answered query caches out = none) (fits : Fits query)
    (inside : ¬ query.Overruns tables driver) :
    call query caches out tables driver =
      if Copies query out (received query (query.result tables driver)).1
          (received query (query.result tables driver)).2 then
        some ((received query (query.result tables driver)).1,
          out.map fun _ => (received query (query.result tables driver)).2)
      else none := by
  unfold call EglQuery.reply
  rw [asked]
  simp only [if_pos fits, if_neg inside, Option.bind_some]

/-- A query that does not go through leaves the client without an answer. -/
theorem call_none {tables : HandleTables} {driver : EglQuery → DriverAnswer}
    (asked : answered query caches out = none)
    (stops : ¬ (Fits query ∧ ¬ query.Overruns tables driver)) :
    call query caches out tables driver = none := by
  unfold call EglQuery.reply
  rw [asked]
  by_cases fits : Fits query
  · have overrun : query.Overruns tables driver := by
      by_contra inside
      exact stops ⟨fits, inside⟩
    simp only [if_pos fits, if_pos overrun, Option.bind_none]
  · simp only [if_neg fits]

/-- The status that comes is the low half of the value. -/
theorem call_context_iff {answer : DriverAnswer} :
    ((answer.left 0).toUInt32, out.map fun _ => answer.left 0) = (answer.ok, out.map answer.left) ↔
      SameAnswer answer answer out ∧ (answer.left 0).toUInt32 = answer.ok := by
  rw [Prod.mk.injEq, map_left_iff]
  constructor
  · rintro ⟨status, value⟩
    exact ⟨⟨rfl, value⟩, status⟩
  · rintro ⟨⟨_, value⟩, status⟩
    exact ⟨status, value⟩

/-- The four queries that send both parts. -/
theorem call_packed_iff {tables : HandleTables} {driver : EglQuery → DriverAnswer}
    (word : received query (query.result tables driver) =
      ((query.given tables driver).ok, query.num tables driver)) :
    (if Copies query out (received query (query.result tables driver)).1
          (received query (query.result tables driver)).2 then
        some ((received query (query.result tables driver)).1,
          out.map fun _ => (received query (query.result tables driver)).2)
      else none) = some (direct tables driver query out) ↔
      SameAnswer (query.given tables driver) (driver (query.real tables)) out ∧
        Copies query out (query.given tables driver).ok (query.num tables driver) := by
  rw [word, Option.ite_none_right_eq_some, Option.some_inj]
  constructor
  · rintro ⟨copies, same⟩
    exact ⟨sameAnswer_iff.mp same, copies⟩
  · rintro ⟨same, copies⟩
    exact ⟨copies, sameAnswer_iff.mpr same⟩

theorem call_direct_iff (tables : HandleTables) (driver : EglQuery → DriverAnswer)
    (caches : SurfaceCaches) (query : EglQuery) (out : Option Int32) :
    call query caches out tables driver = some (direct tables driver query out) ↔
      Travels tables driver caches query out := by
  unfold Travels
  cases asked : answered query caches out with
  | some val =>
      have cached : call query caches out tables driver = some (1, out.map fun _ => val) := by
        rw [call, asked]
      have status : ((1 : UInt32), out.map fun _ => val) =
          (({ ok := 1, written := some val } : DriverAnswer).ok,
            out.map fun _ => ({ ok := 1, written := some val } : DriverAnswer).left 0) := rfl
      rw [cached, Option.some.injEq, status]
      exact sameAnswer_iff
  | none =>
      by_cases through : Fits query ∧ ¬ query.Overruns tables driver
      case neg =>
        rw [call_none asked through]
        refine iff_of_false (fun same => ?_) fun travels => through ⟨travels.2.1, travels.2.2.1⟩
        cases same
      obtain ⟨fits, inside⟩ := through
      rw [call_eq asked fits inside]
      have passed (rest : Prop) : (SameAnswer (query.given tables driver)
          (driver (query.real tables)) out ∧ Fits query ∧ ¬ query.Overruns tables driver ∧ rest) ↔
          SameAnswer (query.given tables driver) (driver (query.real tables)) out ∧ rest := by
        simp only [fits, inside, not_false_eq_true, true_and]
      cases query with
      | eglQueryContext dpy ctx attr =>
          have word : received (.eglQueryContext dpy ctx attr)
              ((EglQuery.eglQueryContext dpy ctx attr).result tables driver) =
                (((EglQuery.eglQueryContext dpy ctx attr).num tables driver).toUInt32,
                  (EglQuery.eglQueryContext dpy ctx attr).num tables driver) := received_context
          rw [passed, Option.ite_none_right_eq_some, Option.some_inj, word]
          exact (and_iff_right trivial).trans call_context_iff
      | _ =>
          rw [passed]
          exact call_packed_iff (received_packed fun _ _ _ same => by cases same)

/-- For every outcome that the driver writes. -/
theorem context_outcome_iff {dpy ctx ok : UInt32} {attr value : Int32} :
    call (.eglQueryContext dpy ctx attr) caches out tables (fun _ => { ok, written := some value }) =
        some (ok, out.map fun _ => value) ↔
      value.toUInt32 = ok := by
  have fits : Fits (.eglQueryContext dpy ctx attr) := trivial
  have inside : ¬ (EglQuery.eglQueryContext dpy ctx attr).Overruns tables
      (fun _ => { ok, written := some value }) := not_false
  have word : received (.eglQueryContext dpy ctx attr)
      ((EglQuery.eglQueryContext dpy ctx attr).result tables fun _ => { ok, written := some value }) =
        (value.toUInt32, value) := received_context
  rw [call_eq rfl fits inside, Option.ite_none_right_eq_some, Option.some_inj, word, Prod.mk.injEq]
  exact ⟨fun all => all.2.1, fun same => ⟨trivial, same, rfl⟩⟩

/-- The context has the value 0, and the client is told that the query failed. -/
theorem context_value_zero :
    call (.eglQueryContext 1 1 0x3097) .initial (some 7) .zero (fun _ => { ok := 1, written := some 0 }) ≠
      some (direct .zero (fun _ => { ok := 1, written := some 0 }) (.eglQueryContext 1 1 0x3097)
        (some 7)) := by
  decide

end GlesBridge.Egl
