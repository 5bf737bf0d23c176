import GlesBridge.Proxy.Results

namespace GlesBridge.Args

open GlesBridge.Gl GlesBridge.Stub GlesBridge.Proxy

/-! Which calls keep their answers inside the result buffer, whatever the driver has
for them. -/

/-- For every answer of the driver, the handler writes and the entry point reads
inside the buffer. -/
def AnswersInside (args : ResultArgs) (command : Command) : Prop :=
  ∀ answer : Answer, (resultWrites args answer command).sum ≤ bridgeResultSize ∧
    (command.resultReads args answer).sum ≤ bridgeResultSize

/-- The calls that ask for little enough. -/
def AsksLittle (args : ResultArgs) : Command → Prop
  | .gles32 .glGenVertexArrays | .gles32 .glGenQueries | .gles32 .glGenSamplers
  | .gles32 .glGenTransformFeedbacks | .gles32 .glGenProgramPipelines
  | .gles32 .glGetUniformIndices | .gles32 .glGetActiveUniformsiv
  | .gles32 .glGetInternalformativ => args.size.val ≤ 1024
  | .gles32 .glReadnPixels | .gles32 .glGetnUniformfv | .gles32 .glGetnUniformiv
  | .gles32 .glGetnUniformuiv => args.size.val ≤ 4096
  | .gles32 .glGetTransformFeedbackVarying => args.size.val ≤ 4084
  | .gles32 .glGetActiveUniformBlockName | .gles32 .glGetObjectLabel
  | .gles32 .glGetObjectPtrLabel | .gles32 .glGetProgramResourceName
  | .gles32 .glGetProgramPipelineInfoLog => args.size.val ≤ 4093
  | .gles32 .glGetProgramResourceiv => args.size.val ≤ 1023
  | .gles32 .glGetDebugMessageLog =>
      args.messages = 0 ∨
        4 + 20 * min args.messages.toNat args.size.val + args.size.val ≤ 4096
  | _ => True

variable {args : ResultArgs} {answer : Answer} {command : Command} {messages : List Nat}
  {size : Size}

/-! ## Sums -/

theorem wordBytes_le : wordBytes size ≤ size.val * 4 := by
  have bytes : wordBytes size = size.val % 2 ^ 32 * 4 % 2 ^ 32 := rfl
  rw [bytes]
  exact Nat.le_trans (Nat.mod_le _ _) (Nat.mul_le_mul_right 4 (Nat.mod_le _ _))

theorem sum_whenWanted {sizes : List Nat} : (whenWanted args sizes).sum ≤ sizes.sum := by
  unfold whenWanted
  split
  · exact Nat.le_refl _
  · exact Nat.zero_le _

theorem length_le : answer.length size + 1 ≤ max size.val 1 := by
  unfold Answer.length
  omega

theorem log_writes : (messages.flatMap fun length => [4, 4, 4, 4, 4, length]).sum =
    20 * messages.length + messages.sum := by
  induction messages with
  | nil => rfl
  | cons length rest ih =>
      rw [List.flatMap_cons, List.sum_append_nat, ih, List.sum_cons, List.length_cons]
      simp only [List.sum_cons, List.sum_nil]
      omega

theorem log_reads : (logReads args messages).sum ≤ 20 * messages.length + messages.sum := by
  induction messages with
  | nil => exact Nat.le_refl _
  | cons length rest ih =>
      cases rest with
      | nil =>
          have read : (whenWanted args [length]).sum ≤ [length].sum := sum_whenWanted
          rw [logReads, List.sum_append_nat]
          simp only [List.sum_cons, List.sum_nil, List.length_cons, List.length_nil] at *
          omega
      | cons next others =>
          rw [logReads, List.sum_append_nat, List.length_cons, List.sum_cons]
          · simp only [List.sum_cons, List.sum_nil] at *
            omega
          · simp

/-! ## Answers that fill the buffer -/

/-- A driver with a long text and many values. -/
def longAnswer (messages : List Nat) (terminated : ∀ length ∈ messages, 0 < length) : Answer where
  stored := 2147483648
  found := 2147483648
  string := none
  messages := messages
  terminated := terminated

def ampleAnswer : Answer := longAnswer [] fun _ member => absurd member (by simp)

theorem ample_length : ampleAnswer.length size = size.val - 1 :=
  Nat.min_eq_right (by have below := size.isLt; change size.val - 1 ≤ 2147483648; omega)

theorem ample_values : ampleAnswer.values size = size.val :=
  Nat.min_eq_right (Nat.le_of_lt size.isLt)

/-- As many messages as fit, of one byte each but for the last. -/
def crowdedLog (count room : Nat) : List Nat := List.replicate count 1 ++ [room - count]

theorem crowdedLog_length {count room : Nat} : (crowdedLog count room).length = count + 1 := by
  rw [crowdedLog, List.length_append, List.length_replicate, List.length_singleton]

theorem crowdedLog_sum {count room : Nat} (few : count ≤ room) : (crowdedLog count room).sum = room := by
  rw [crowdedLog, List.sum_append_nat, List.sum_replicate_nat, List.sum_singleton, Nat.mul_one,
    Nat.add_sub_cancel' few]

theorem crowdedLog_pos {count room : Nat} (few : count < room) :
    ∀ length ∈ crowdedLog count room, 0 < length := by
  intro length member
  cases List.mem_append.mp member with
  | inl one => exact (List.eq_of_mem_replicate one).symm ▸ Nat.one_pos
  | inr last =>
      rw [List.mem_singleton.mp last]
      omega

/-! ## One kind of call after the other -/

theorem names_inside (writes : ∀ answer, (resultWrites args answer command).sum ≤ args.size.val * 4)
    (reads : ∀ answer, (command.resultReads args answer).sum = args.size.val * 4) :
    AnswersInside args command ↔ args.size.val ≤ 1024 := by
  have size : bridgeResultSize = 4096 := rfl
  constructor
  · intro inside
    have read := (inside ampleAnswer).2
    rw [reads] at read
    omega
  · intro few answer
    have write := writes answer
    rw [reads]
    omega

theorem bytes_inside (writes : ∀ answer, (resultWrites args answer command).sum = args.size.val)
    (reads : ∀ answer, (command.resultReads args answer).sum = args.size.val) :
    AnswersInside args command ↔ args.size.val ≤ 4096 := by
  have size : bridgeResultSize = 4096 := rfl
  constructor
  · intro inside
    have read := (inside ampleAnswer).2
    rwa [reads] at read
  · intro few answer
    rw [writes, reads]
    exact ⟨few, few⟩

/-- A text behind its length. -/
theorem text_inside
    (writes : ∀ answer, (resultWrites args answer command).sum = 4 + answer.length args.size)
    (reads : ∀ answer, (command.resultReads args answer).sum ≤ 4 + answer.length args.size) :
    AnswersInside args command ↔ args.size.val ≤ 4093 := by
  have size : bridgeResultSize = 4096 := rfl
  constructor
  · intro inside
    have write := (inside ampleAnswer).1
    rw [writes, ample_length] at write
    omega
  · intro few answer
    have read := reads answer
    have text : answer.length args.size + 1 ≤ max args.size.val 1 := length_le
    rw [writes]
    omega

theorem varying_inside :
    AnswersInside args (.gles32 .glGetTransformFeedbackVarying) ↔ args.size.val ≤ 4084 := by
  have size : bridgeResultSize = 4096 := rfl
  have writes (answer : Answer) :
      (resultWrites args answer (.gles32 .glGetTransformFeedbackVarying)).sum =
        12 + (answer.length args.size + 1) := by
    simp only [resultWrites, gles32ResultWrites, List.sum_cons, List.sum_nil]
    omega
  constructor
  · intro inside
    have write := (inside ampleAnswer).1
    rw [writes, ample_length] at write
    omega
  · intro few answer
    have text : answer.length args.size + 1 ≤ max args.size.val 1 := length_le
    have read : (whenWanted args [min args.size.val (answer.length args.size + 1)]).sum ≤
        [min args.size.val (answer.length args.size + 1)].sum := sum_whenWanted
    rw [List.sum_singleton] at read
    have reads : (Command.resultReads args answer (.gles32 .glGetTransformFeedbackVarying)).sum =
        12 + (whenWanted args [min args.size.val (answer.length args.size + 1)]).sum := by
      rw [Command.resultReads, Gles32Stub.resultReads, List.sum_append_nat]
      rfl
    rw [writes, reads]
    omega

theorem resource_inside :
    AnswersInside args (.gles32 .glGetProgramResourceiv) ↔ args.size.val ≤ 1023 := by
  have size : bridgeResultSize = 4096 := rfl
  have writes (answer : Answer) : (resultWrites args answer (.gles32 .glGetProgramResourceiv)).sum =
      4 + answer.values args.size * 4 := by
    simp only [resultWrites, gles32ResultWrites, List.sum_cons, List.sum_nil]
    omega
  have reads (answer : Answer) :
      (Command.resultReads args answer (.gles32 .glGetProgramResourceiv)).sum =
        4 + answer.values args.size * 4 := by
    rw [Command.resultReads, Gles32Stub.resultReads, List.sum_cons, List.sum_replicate_nat]
  constructor
  · intro inside
    have write := (inside ampleAnswer).1
    rw [writes, ample_values] at write
    omega
  · intro few answer
    have values : answer.values args.size ≤ args.size.val := Nat.min_le_right _ _
    rw [writes, reads]
    omega

theorem log_inside : AnswersInside args (.gles32 .glGetDebugMessageLog) ↔
    args.messages = 0 ∨
      4 + 20 * min args.messages.toNat args.size.val + args.size.val ≤ 4096 := by
  have size : bridgeResultSize = 4096 := rfl
  have writes (answer : Answer) : (resultWrites args answer (.gles32 .glGetDebugMessageLog)).sum =
      4 + (20 * (fetched args.messages.toNat args.size.val answer.messages).length +
        (fetched args.messages.toNat args.size.val answer.messages).sum) := by
    rw [resultWrites, gles32ResultWrites, List.sum_cons, log_writes]
  constructor
  · intro inside
    by_cases none : args.messages = 0
    · exact .inl none
    · have some_messages : 0 < args.messages.toNat :=
        Nat.pos_of_ne_zero fun zero => none (UInt32.toNat.inj zero)
      by_cases empty : args.size.val = 0
      · rw [empty]
        exact .inr (by omega)
      · have write := (inside (longAnswer
          (crowdedLog (min args.messages.toNat args.size.val - 1) args.size.val)
          (crowdedLog_pos (by omega)))).1
        rw [writes, longAnswer, fetched_all, crowdedLog_length, crowdedLog_sum (by omega)] at write
        · exact .inr (by omega)
        · rw [crowdedLog_length]
          omega
        · exact Nat.le_of_eq (crowdedLog_sum (by omega))
  · intro few answer
    have count : (fetched args.messages.toNat args.size.val answer.messages).length ≤
        args.messages.toNat := fetched_length
    have total : (fetched args.messages.toNat args.size.val answer.messages).sum ≤
        args.size.val := fetched_sum
    have short : (fetched args.messages.toNat args.size.val answer.messages).length ≤
        (fetched args.messages.toNat args.size.val answer.messages).sum :=
      length_le_sum fun length member => answer.terminated length (mem_of_fetched member)
    have read : (logReads args (fetched args.messages.toNat args.size.val answer.messages)).sum ≤ _ :=
      log_reads
    have bound : 4 + (20 * (fetched args.messages.toNat args.size.val answer.messages).length +
        (fetched args.messages.toNat args.size.val answer.messages).sum) ≤ 4096 := by
      cases few with
      | inl none =>
          have zero : args.messages.toNat = 0 := congrArg UInt32.toNat none
          have nothing : fetched args.messages.toNat args.size.val answer.messages = [] := by
            rw [zero, fetched]
          rw [nothing]
          decide
      | inr few => omega
    rw [writes, Command.resultReads, Gles32Stub.resultReads, List.sum_cons]
    omega

/-! ## All calls -/

theorem sum_text {length : Nat} : [4, length].sum = 4 + length := rfl

theorem gles32_inside (function : Gles32Stub) :
    AnswersInside args (.gles32 function) ↔ AsksLittle args (.gles32 function) := by
  cases function
  case glGenVertexArrays | glGenQueries =>
    exact names_inside (fun _ => Nat.le_refl _) fun _ => rfl
  case glGenSamplers | glGenTransformFeedbacks | glGetUniformIndices | glGetActiveUniformsiv =>
    exact names_inside (fun _ => wordBytes_le) fun _ => rfl
  case glGenProgramPipelines | glGetInternalformativ =>
    exact names_inside (fun _ => wordBytes_le) fun _ => List.sum_replicate_nat
  case glReadnPixels | glGetnUniformfv | glGetnUniformiv | glGetnUniformuiv =>
    exact bytes_inside (fun _ => rfl) fun _ => rfl
  case glGetTransformFeedbackVarying => exact varying_inside
  case glGetActiveUniformBlockName | glGetProgramResourceName | glGetProgramPipelineInfoLog =>
    exact text_inside (fun _ => sum_text) fun _ => Nat.le_of_eq sum_text
  case glGetObjectLabel | glGetObjectPtrLabel =>
    refine text_inside (fun _ => sum_text) fun answer => ?_
    rw [Command.resultReads, Gles32Stub.resultReads, List.sum_append_nat]
    exact Nat.add_le_add_left sum_whenWanted 4
  case glGetProgramResourceiv => exact resource_inside
  case glGetDebugMessageLog => exact log_inside
  case glGetSynciv =>
    refine iff_of_true (fun answer => ?_) trivial
    have size : bridgeResultSize = 4096 := rfl
    have read : (whenWanted args [min 1 (answer.values args.size) * 4]).sum ≤
        [min 1 (answer.values args.size) * 4].sum := sum_whenWanted
    rw [resultWrites, gles32ResultWrites, sum_text, Command.resultReads, Gles32Stub.resultReads,
      List.sum_append_nat, List.sum_singleton]
    rw [List.sum_singleton] at read
    omega
  case glGetStringi =>
    refine iff_of_true (fun answer => ⟨?_, Nat.le_of_ble_eq_true rfl⟩) trivial
    rw [resultWrites, gles32ResultWrites, stringWrites]
    split <;> decide
  all_goals
    exact iff_of_true (fun _ => ⟨Nat.le_of_ble_eq_true rfl, Nat.le_of_ble_eq_true rfl⟩) trivial

/-- Exactly the calls that ask for little enough keep all answers inside the result
buffer. -/
theorem answers_inside_iff (command : Command) (args : ResultArgs) :
    AnswersInside args command ↔ AsksLittle args command := by
  have size : bridgeResultSize = 4096 := rfl
  cases command with
  | gles32 function => exact gles32_inside function
  | gles2 function =>
      cases function
      case glGetActiveUniform | glGetActiveAttrib =>
        refine iff_of_true (fun answer => ⟨Nat.le_of_ble_eq_true rfl, ?_⟩) trivial
        exact Nat.le_trans sum_whenWanted (Nat.le_of_ble_eq_true rfl)
      case glGetString =>
        refine iff_of_true (fun answer => ?_) trivial
        rw [resultWrites, gles2ResultWrites, stringWrites, Command.resultReads,
          Gles2Stub.resultReads, List.sum_singleton]
        refine ⟨?_, by omega⟩
        split <;> decide
      all_goals
        exact iff_of_true (fun _ => ⟨Nat.le_of_ble_eq_true rfl, Nat.le_of_ble_eq_true rfl⟩) trivial
  | egl function =>
      cases function
      case eglInitialize =>
        refine iff_of_true (fun answer => ⟨Nat.le_of_ble_eq_true rfl, ?_⟩) trivial
        exact Nat.le_trans sum_whenWanted (Nat.le_of_ble_eq_true rfl)
      case eglQueryString =>
        refine iff_of_true (fun answer => ?_) trivial
        rw [resultWrites, eglResultWrites, Command.resultReads, EglStub.resultReads,
          List.sum_singleton]
        refine ⟨?_, by omega⟩
        split <;> decide
      all_goals
        exact iff_of_true (fun _ => ⟨Nat.le_of_ble_eq_true rfl, Nat.le_of_ble_eq_true rfl⟩) trivial
  | glFlushMappedBufferRange | wlEgl _ | wl _ | invokeDynamic _ _ | invokeDynamicEgl _ _ =>
      exact iff_of_true (fun _ => ⟨Nat.le_of_ble_eq_true rfl, Nat.le_of_ble_eq_true rfl⟩) trivial

/-- `glGenQueries(1025, ids)` has the driver write 4100 bytes. -/
theorem queries_overrun :
    (resultWrites ⟨1025, 0, true⟩ ampleAnswer (.gles32 .glGenQueries)).sum = 4100 ∧
      ¬ AnswersInside ⟨1025, 0, true⟩ (.gles32 .glGenQueries) :=
  ⟨rfl, fun inside => absurd (inside ampleAnswer).1 (by decide)⟩

end GlesBridge.Args
