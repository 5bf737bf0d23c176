import GlesBridge.Args.Order
import Mathlib.Data.List.TakeWhile

namespace GlesBridge.Args

open GlesBridge.Data GlesBridge.Shared GlesBridge.Stub GlesBridge.Proxy

/-! Which calls pack their arguments inside `args`, with handlers that read only what
was packed. -/

/-- Every write of the entry point ends inside `args`, its `pos` too, and the handler
reads no byte behind the last one written. -/
structure Packed (lists : ArgLists) (command : Command) : Prop where
  inside : WritesInside 0 (command.writes lists)
  position : (posAfter 0 (sizesOf (command.args lists))).toNat ≤ bridgeArgsSize
  read : (sizesOf (reads lists command).flatten).sum + nameSpan lists command ≤
    (command.writes lists).sum

/-- The calls whose lists are short enough. -/
def Short (lists : ArgLists) : Command → Prop
  | .gles2 .glDeleteRenderbuffers => lists.array = true → lists.n ≤ 63
  | .gles2 .glShaderSource => lists.count ≤ 31
  | .gles32 .glDeleteProgramPipelines | .gles32 .glDrawBuffers => lists.n ≤ 63
  | .gles32 .glGetFragDataLocation => strlen lists.name ≤ 251
  | .egl .eglCreateImageKHR => lists.attribs.length ≤ 13
  | .egl .eglGetProcAddress => lists.unresolved = true → strlen lists.name ≤ 247
  | .invokeDynamic _ params | .invokeDynamicEgl _ params => (sizesOf params).sum ≤ 252
  | _ => True

variable {lists : ArgLists} {command : Command} {scalars : List Scalar} {name : List UInt8}

/-! ## Sizes -/

theorem sum_writes : (command.writes lists).sum =
    (sizesOf (command.args lists)).sum + (command.nameArg lists).length := by
  rw [Command.writes, List.sum_append_nat, List.sum_singleton]

theorem sum_le_of_initial {few many : List Nat} (prefixed : few <+: many) : few.sum ≤ many.sum := by
  obtain ⟨more, same⟩ := prefixed
  rw [← same, List.sum_append_nat]
  exact Nat.le_add_right _ _

theorem sum_replicate_flatten {count : Nat} {piece : List Nat} :
    (List.replicate count piece).flatten.sum = count * piece.sum := by
  induction count with
  | zero => simp
  | succ count ih =>
      rw [List.replicate_succ, List.flatten_cons, List.sum_append_nat, ih, Nat.succ_mul,
        Nat.add_comm]

theorem sum_repeated {n : Int32} : (sizesOf (repeated n scalars)).sum =
    n.toInt.toNat * (sizesOf scalars).sum := by
  rw [sizesOf_repeated, sum_replicate_flatten]

theorem sum_clientArrays : (sizesOf lists.clientArrays).sum ≤ 128 := by
  have sum (attribs : List AttribIndex) :
      (sizesOf (attribs.flatMap fun _ => [.u32, .u32])).sum = 8 * attribs.length := by
    induction attribs with
    | nil => rfl
    | cons attrib rest ih =>
        rw [List.flatMap_cons, sizesOf_append, List.sum_append_nat, ih, List.length_cons]
        exact (Nat.add_comm _ _).trans (Nat.mul_succ ..).symm
  have few := List.length_filter_le lists.sent (List.finRange maxVertexAttribs)
  rw [List.length_finRange] at few
  have most : maxVertexAttribs = 16 := rfl
  rw [ArgLists.clientArrays, sum]
  omega

/-! ## Names -/

theorem strlen_take {size : Nat} :
    strlen ((cString name).take size) = min size (strlen name) := by
  have kept : ∀ byte ∈ name.takeWhile (· ≠ 0), decide (byte ≠ 0) = true :=
    List.all_eq_true.mp List.all_takeWhile
  have last : [(0 : UInt8)].takeWhile (· ≠ 0) = [] := rfl
  unfold strlen cString
  by_cases cut : size ≤ (name.takeWhile (· ≠ 0)).length
  · rw [List.take_append_of_le_length cut, List.takeWhile_eq_self_iff.mpr
      fun byte member => kept byte (List.mem_of_mem_take member), List.length_take]
  · rw [List.take_of_length_le (by rw [List.length_append, List.length_singleton]; omega),
      List.takeWhile_append_of_pos kept, last, List.append_nil]
    omega

theorem length_take_cString {size : Nat} :
    ((cString name).take size).length = min size (strlen name + 1) := by
  rw [List.length_take, cString, List.length_append, List.length_singleton, strlen]

/-! ## One command -/

/-- The writes and the reads of a command, as sums. -/
theorem packed_iff_sums :
    Packed lists command ↔
      (sizesOf (command.args lists)).sum + (command.nameArg lists).length ≤ bridgeArgsSize ∧
      (sizesOf (reads lists command).flatten).sum + nameSpan lists command ≤
        (sizesOf (command.args lists)).sum + (command.nameArg lists).length := by
  have zero : (0 : UInt32).toNat = 0 := rfl
  have fits : WritesInside 0 (command.writes lists) ↔ _ := writesInside_iff (Nat.zero_le _)
  rw [sum_writes, zero, Nat.zero_add] at fits
  constructor
  · intro packed
    have read := packed.read
    rw [sum_writes] at read
    exact ⟨fits.mp packed.inside, read⟩
  · intro ⟨inside, read⟩
    refine ⟨fits.mpr inside, ?_, by rw [sum_writes]; exact read⟩
    rw [toNat_posAfter (by rw [zero]; omega), zero]
    omega

/-- Where nothing but the arguments is packed, their sum decides. -/
theorem packed_iff (published : command.publishes lists = true)
    (unnamed : command.nameArg lists = []) (unread : nameSpan lists command = 0) :
    Packed lists command ↔ (sizesOf (command.args lists)).sum ≤ bridgeArgsSize := by
  rw [packed_iff_sums, unnamed, unread, List.length_nil, Nat.add_zero, Nat.add_zero]
  exact and_iff_left (sum_le_of_initial (reads_initial published))

/-- A name of which the first `size` bytes are packed behind `head` bytes. -/
theorem name_iff {head size : Nat} (args : (sizesOf (command.args lists)).sum = head)
    (read : (sizesOf (reads lists command).flatten).sum = head)
    (packs : command.nameArg lists = (cString lists.name).take size)
    (spans : nameSpan lists command = strlen (command.nameArg lists) + 1) :
    Packed lists command ↔
      head + min size (strlen lists.name + 1) ≤ bridgeArgsSize ∧ strlen lists.name < size := by
  rw [packed_iff_sums, spans, packs, strlen_take, length_take_cString, args, read]
  omega

/-! ## All commands -/

theorem repeated_le {n : Int32} {head item most : Nat} (whole : bridgeArgsSize = head + most * item)
    (positive : 0 < item) :
    head + n.toInt.toNat * item ≤ bridgeArgsSize ↔ n.toInt ≤ most := by
  rw [whole, Nat.add_le_add_iff_left, Nat.mul_le_mul_right_iff positive]
  omega

/-- A count and an array of as many names. -/
theorem names_le {n : Int32} :
    (sizesOf (.i32 :: repeated n [.u32])).sum ≤ bridgeArgsSize ↔ n ≤ 63 := by
  have sum : (sizesOf (.i32 :: repeated n [.u32])).sum =
      4 + (sizesOf (repeated n [.u32])).sum := List.sum_cons
  rw [sum, sum_repeated, Int32.le_iff_toInt_le]
  exact repeated_le rfl (by decide)

theorem gles2_short (function : Gles2Stub)
    (published : Command.publishes lists (.gles2 function) = true) :
    (sizesOf (function.args lists)).sum ≤ bridgeArgsSize ↔ Short lists (.gles2 function) := by
  cases function
  case glDeleteRenderbuffers =>
    have array : lists.array = true := (Bool.and_eq_true_iff.mp published).1
    rw [Short, forall_prop_of_true array]
    exact names_le
  case glShaderSource =>
    have sum : (sizesOf (Gles2Stub.glShaderSource.args lists)).sum =
        8 + (sizesOf (repeated lists.count [.u32, .u32])).sum := by
      rw [Gles2Stub.args, sizesOf_append, List.sum_append_nat]
      rfl
    rw [sum, sum_repeated, Short, Int32.le_iff_toInt_le]
    exact repeated_le rfl (by decide)
  case glDrawArrays | glDrawElements =>
    have arrays : (sizesOf lists.clientArrays).sum ≤ 128 := sum_clientArrays
    refine iff_of_true ?_ trivial
    rw [Gles2Stub.args, sizesOf_append, sizesOf_append, List.sum_append_nat, List.sum_append_nat]
    exact Nat.le_trans (Nat.add_le_add_right (Nat.add_le_add_left arrays _) _) (by decide)
  all_goals exact iff_of_true (Nat.le_of_ble_eq_true rfl) trivial

theorem gles32_short (function : Gles32Stub) (other : function ≠ .glGetFragDataLocation) :
    (sizesOf (function.args lists)).sum ≤ bridgeArgsSize ↔ Short lists (.gles32 function) := by
  cases function
  case glGetFragDataLocation => exact absurd rfl other
  case glDeleteProgramPipelines | glDrawBuffers => exact names_le
  all_goals exact iff_of_true (Nat.le_of_ble_eq_true rfl) trivial

theorem egl_short (function : EglStub) (other : function ≠ .eglGetProcAddress) :
    (sizesOf (function.args lists)).sum ≤ bridgeArgsSize ↔ Short lists (.egl function) := by
  cases function
  case eglGetProcAddress => exact absurd rfl other
  case eglCreateImageKHR =>
    have sum : (sizesOf (EglStub.eglCreateImageKHR.args lists)).sum =
        28 + lists.attribs.length * 16 + 8 := by
      rw [EglStub.args, sizesOf_append, sizesOf_append, sizesOf_pairs, List.sum_append_nat,
        List.sum_append_nat, sum_replicate_flatten]
      rfl
    have size : bridgeArgsSize = 256 := rfl
    rw [sum, size, Short]
    omega
  all_goals exact iff_of_true (Nat.le_of_ble_eq_true rfl) trivial

/-- Exactly the calls with short lists and names pack inside `args` and are read back
inside what they packed. -/
theorem packed_iff_short (command : Command) (lists : ArgLists) :
    (command.publishes lists = true → Packed lists command) ↔ Short lists command := by
  have size : bridgeArgsSize = 256 := rfl
  by_cases published : command.publishes lists = true
  · rw [forall_prop_of_true published]
    cases command with
    | gles2 function =>
        rw [packed_iff published rfl rfl]
        exact gles2_short function published
    | gles32 function =>
        by_cases name : function = .glGetFragDataLocation
        · subst name
          have sums : Packed lists (.gles32 .glGetFragDataLocation) ↔
              4 + min 252 (strlen lists.name + 1) ≤ bridgeArgsSize ∧ strlen lists.name < 252 :=
            name_iff rfl rfl rfl rfl
          rw [sums, size, Short]
          omega
        · have unnamed : Command.nameArg lists (.gles32 function) = [] := by
            cases function <;> first | rfl | exact absurd rfl name
          have unread : nameSpan lists (.gles32 function) = 0 := by
            cases function <;> first | rfl | exact absurd rfl name
          rw [packed_iff published unnamed unread]
          exact gles32_short function name
    | glFlushMappedBufferRange =>
        rw [packed_iff published rfl rfl]
        exact iff_of_true (Nat.le_of_ble_eq_true rfl) trivial
    | egl function =>
        by_cases name : function = .eglGetProcAddress
        · subst name
          have unresolved : lists.unresolved = true := published
          have sums : Packed lists (.egl .eglGetProcAddress) ↔
              8 + min 256 (strlen lists.name + 1) ≤ bridgeArgsSize ∧ strlen lists.name < 256 :=
            name_iff rfl rfl rfl rfl
          rw [sums, size, Short, forall_prop_of_true unresolved]
          omega
        · have unnamed : Command.nameArg lists (.egl function) = [] := by
            cases function <;> first | rfl | exact absurd rfl name
          have unread : nameSpan lists (.egl function) = 0 := by
            cases function <;> first | rfl | exact absurd rfl name
          rw [packed_iff published unnamed unread]
          exact egl_short function name
    | wlEgl function =>
        rw [packed_iff published rfl rfl]
        cases function <;> exact iff_of_true (Nat.le_of_ble_eq_true rfl) trivial
    | wl message =>
        rw [packed_iff published rfl rfl]
        cases message <;> exact iff_of_true (Nat.le_of_ble_eq_true rfl) trivial
    | invokeDynamic idx params | invokeDynamicEgl idx params =>
        rw [packed_iff published rfl rfl, Short, size]
        have sum : (sizesOf (.u32 :: params)).sum = 4 + (sizesOf params).sum := List.sum_cons
        change (sizesOf (.u32 :: params)).sum ≤ 256 ↔ _
        omega
  · refine iff_of_true (fun sent => absurd sent published) ?_
    -- what is not sent is a call with no array, or of a name that is resolved
    cases command with
    | gles2 function =>
        cases function
        case glDeleteRenderbuffers =>
          intro array
          have none : ¬ 0 < lists.n := by simpa [Command.publishes, array] using published
          rw [Int32.lt_iff_toInt_lt] at none
          rw [Int32.le_iff_toInt_le]
          exact Int.le_trans (Int.not_lt.mp none) (by decide)
        all_goals exact absurd rfl published
    | gles32 function => cases function <;> trivial
    | egl function =>
        cases function
        case eglGetProcAddress => exact fun unresolved => absurd unresolved published
        case eglCreatePbufferFromClientBuffer => trivial
        all_goals exact absurd rfl published
    | wlEgl function => trivial
    | glFlushMappedBufferRange | wl _ | invokeDynamic _ _ | invokeDynamicEgl _ _ =>
        exact absurd rfl published

/-- `glDeleteRenderbuffers(64, rbs)` packs 260 bytes. -/
theorem sixty_four_renderbuffers :
    Command.publishes { noLists with n := 64, array := true } (.gles2 .glDeleteRenderbuffers) =
        true ∧
      (Command.writes { noLists with n := 64, array := true }
        (.gles2 .glDeleteRenderbuffers)).sum = 260 ∧
      ¬ WritesInside 0 (Command.writes { noLists with n := 64, array := true }
        (.gles2 .glDeleteRenderbuffers)) := by
  refine ⟨by decide, by decide, fun inside => ?_⟩
  have sum := (writesInside_iff (Nat.zero_le _)).mp inside
  exact absurd sum (by decide)

end GlesBridge.Args
