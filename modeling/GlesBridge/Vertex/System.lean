import GlesBridge.Proxy.Vertex
import GlesBridge.Systems.Pipeline

namespace GlesBridge.Vertex

open GlesBridge.Gl GlesBridge.Shared GlesBridge.Stub GlesBridge.Proxy GlesBridge.Systems

/-! The stub and the proxy together: calls in any contexts, with the ring in
between. -/

/-- Both sides clear the records of the names that GL generates. -/
def Generates (arrays : List UInt32) : Prop := ∀ array ∈ arrays, array.toNat < maxVaos

instance (arrays : List UInt32) : Decidable (Generates arrays) :=
  List.decidableBAll (fun array : UInt32 => array.toNat < maxVaos) arrays

/-- An access past an array has no defined outcome. The stub indexes its arrays by
the context, and by the names of new vertex arrays. -/
def produce (stub : StubMirrors) (input : Nat × VertexCall) :
    Option (StubMirrors × List (Ctx × VertexCommand)) :=
  if below : input.1 < maxContexts then
    let after := stub.vertexCall ⟨input.1, below⟩ input.2
    let made := (after.1, after.2.map fun command => (⟨input.1, below⟩, command))
    match input.2 with
    | .glGenVertexArrays arrays => if Generates arrays then some made else none
    | _ => some made
  else none

/-- The proxy indexes its records by the names of new vertex arrays, and by the
name that is bound. -/
def consume (driver : VertexDriver) (group : Ctx → Nat) (proxy : ProxyState)
    (input : Ctx × VertexCommand) : Option ProxyState :=
  match input.2 with
  | .glGenVertexArrays arrays =>
      if Generates arrays then some (proxy.handle driver group input.1 input.2) else none
  | .glBindVertexArray array =>
      if array.toNat < maxVaos then some (proxy.handle driver group input.1 input.2) else none
  | _ => some (proxy.handle driver group input.1 input.2)

def vertexPipeline (driver : VertexDriver) (group : Ctx → Nat) :
    Pipeline StubMirrors ProxyState (Nat × VertexCall) (Ctx × VertexCommand) where
  produce := produce
  consume := consume driver group

/-- Each command is carried out at once. -/
def vertexMachine (driver : VertexDriver) (group : Ctx → Nat) :
    Machine (StubMirrors × ProxyState) (Nat × VertexCall) :=
  (vertexPipeline driver group).direct

/-! ## Steps -/

/-- A command that reaches the proxy with its arrays in bounds. -/
def Inside : VertexCommand → Prop
  | .glGenVertexArrays arrays => Generates arrays
  | .glBindVertexArray array => array.toNat < maxVaos
  | _ => True

variable {driver : VertexDriver} {group : Ctx → Nat} {state next : StubMirrors × ProxyState}
  {input : Nat × VertexCall}

/-- An entry point sends one command or none. -/
theorem vertexCall_commands (stub : StubMirrors) (current : Ctx) (call : VertexCall) :
    (stub.vertexCall current call).2 = [] ∨ ∃ command, (stub.vertexCall current call).2 = [command] := by
  cases call with
  | glBindVertexArray array =>
      simp only [StubMirrors.vertexCall, StubMirrors.glBindVertexArray]
      split_ifs
      · exact .inr ⟨_, rfl⟩
      · exact .inl rfl
  | glBindBuffer target buffer =>
      simp only [StubMirrors.vertexCall, StubMirrors.glBindBuffer]
      split_ifs
      · exact .inl rfl
      · exact .inr ⟨_, rfl⟩
  | glBindBufferRange target index buffer offset size mapped =>
      simp only [StubMirrors.vertexCall, StubMirrors.glBindBufferRange]
      split_ifs
      · exact .inr ⟨_, rfl⟩
      · exact .inl rfl
      · exact .inr ⟨_, rfl⟩
  | glDrawElements indices lastVertex place =>
      simp only [StubMirrors.vertexCall, StubMirrors.glDrawElements]
      split_ifs <;> exact .inr ⟨_, rfl⟩
  | _ => exact .inr ⟨_, rfl⟩

theorem consume_some {command : VertexCommand} {ctx : Ctx} {proxy after : ProxyState} :
    consume driver group proxy (ctx, command) = some after ↔
      Inside command ∧ after = proxy.handle driver group ctx command := by
  cases command with
  | glGenVertexArrays arrays =>
      simp only [consume, Inside]
      split_ifs with inside
      · simp [inside, eq_comm]
      · simp [inside]
  | glBindVertexArray array =>
      simp only [consume, Inside]
      split_ifs with inside
      · simp [inside, eq_comm]
      · simp [inside]
  | _ => simp [consume, Inside, eq_comm]

theorem produce_some {stub reached : StubMirrors} {commands : List (Ctx × VertexCommand)} :
    produce stub input = some (reached, commands) ↔ ∃ below : input.1 < maxContexts,
      (∀ arrays, input.2 = .glGenVertexArrays arrays → Generates arrays) ∧
      reached = (stub.vertexCall ⟨input.1, below⟩ input.2).1 ∧
      commands = (stub.vertexCall ⟨input.1, below⟩ input.2).2.map fun command =>
        (⟨input.1, below⟩, command) := by
  obtain ⟨ctx, call⟩ := input
  by_cases below : ctx < maxContexts
  · cases call with
    | glGenVertexArrays arrays =>
        by_cases inside : Generates arrays
        · simp [produce, below, inside, eq_comm]
        · simp [produce, below, inside]
    | _ => simp [produce, below, eq_comm]
  · simp [produce, below]

/-- What a call that takes its whole way does. -/
theorem vertexMachine_step :
    (vertexMachine driver group).step state input = some next ↔ ∃ below : input.1 < maxContexts,
      (∀ arrays, input.2 = .glGenVertexArrays arrays → Generates arrays) ∧
      next.1 = (state.1.vertexCall ⟨input.1, below⟩ input.2).1 ∧
      ((state.1.vertexCall ⟨input.1, below⟩ input.2).2 = [] ∧ next.2 = state.2 ∨
        ∃ command, (state.1.vertexCall ⟨input.1, below⟩ input.2).2 = [command] ∧
          Inside command ∧ next.2 = state.2.handle driver group ⟨input.1, below⟩ command) := by
  rw [vertexMachine, Pipeline.direct_step]
  constructor
  · rintro ⟨commands, made, carried⟩
    obtain ⟨below, inside, stub, rfl⟩ := produce_some.mp made
    refine ⟨below, inside, stub, ?_⟩
    rcases vertexCall_commands state.1 ⟨input.1, below⟩ input.2 with none | ⟨command, one⟩
    · rw [none] at carried
      exact .inl ⟨none, (Option.some.inj carried).symm⟩
    · rw [one] at carried
      have taken : consume driver group state.2 (⟨input.1, below⟩, command) = some next.2 := by
        simpa [vertexPipeline] using carried
      exact .inr ⟨command, one, consume_some.mp taken⟩
  · rintro ⟨below, inside, stub, way⟩
    refine ⟨_, produce_some.mpr ⟨below, inside, stub, rfl⟩, ?_⟩
    rcases way with ⟨none, same⟩ | ⟨command, one, bounds, after⟩
    · rw [none, same]
      rfl
    · rw [one]
      have taken := consume_some.mpr
        ⟨bounds, after⟩
      simpa [vertexPipeline] using taken

theorem vertexMachine_defined (below : input.1 < maxContexts)
    (generates : ∀ arrays, input.2 = .glGenVertexArrays arrays → Generates arrays)
    (inside : ∀ command ∈ (state.1.vertexCall ⟨input.1, below⟩ input.2).2, Inside command) :
    ∃ next, (vertexMachine driver group).step state input = some next := by
  rcases vertexCall_commands state.1 ⟨input.1, below⟩ input.2 with none | ⟨command, one⟩
  · exact ⟨(_, state.2), vertexMachine_step.mpr ⟨below, generates, rfl, .inl ⟨none, rfl⟩⟩⟩
  · have bounds := inside command (by rw [one]; exact .head _)
    exact ⟨(_, _), vertexMachine_step.mpr
      ⟨below, generates, rfl, .inr ⟨command, one, bounds, rfl⟩⟩⟩

end GlesBridge.Vertex
