import GlesBridge.Args.Bounds
import GlesBridge.Proxy.SlotFields

namespace GlesBridge.Args

open GlesBridge.Data GlesBridge.Shared GlesBridge.Stub GlesBridge.Proxy

/-! What earlier commands left in a slot reaches neither the driver nor the client, but
for a dispatcher whose function the driver does not have. -/

/-- Two contents that a slot may have when a command is begun in it.  The process that
the Wayland slot belongs to is noted in it once. -/
def Recycled (command : Command) (stale stale' : Nat → UInt8) : Prop :=
  match command with
  | .wl _ => ∀ index, SlotField.clientPid.covers index = true → stale index = stale' index
  | _ => True

/-- The value of the entry point is what the slot holds as `result`. -/
def LeavesResult {World Effect : Type} (proxy : SlotProxy World Effect) (call : SlotCall)
    (world : World) : Prop :=
  match call.command with
  | .invokeDynamic idx params | .invokeDynamicEgl idx params =>
      idx ≠ 0 ∧ proxy.resolves world call.command = false ∧ call.kept ≠ 0 ∧
        -- the arguments end before the last byte that is kept
        argsStart + (sizesOf (.u32 :: params)).sum < SlotField.result.start + call.kept.val
  | _ => False

variable {World Effect : Type} {proxy : SlotProxy World Effect} {world : World} {call : SlotCall}
  {command : Command} {attributes resolved : Bool} {field : SlotField} {index : Nat}
  {stale stale' : Nat → UInt8} {lists : ArgLists}

/-! ## What is read has been set -/

theorem mem_of_all {fields others : List SlotField}
    (all : fields.all (others.contains ·) = true) (member : field ∈ fields) : field ∈ others :=
  List.contains_iff_mem.mp (List.all_eq_true.mp all field member)

theorem data_set (member : field ∈ dataReads attributes command) :
    field ∈ command.dataFields attributes := by
  refine mem_of_all ?_ member
  cases command with
  | gles2 function => cases function <;> rfl
  | gles32 function => cases function <;> rfl
  | egl function => cases function <;> cases attributes <;> rfl
  | wl message => cases message <;> rfl
  | glFlushMappedBufferRange | wlEgl _ | invokeDynamic _ _ | invokeDynamicEgl _ _ => rfl

theorem lengthReads_eq : lengthReads command = argsLenFields command := by
  cases command with
  | gles32 function => cases function <;> rfl
  | gles2 _ | glFlushMappedBufferRange | egl _ | wlEgl _ | wl _ | invokeDynamic _ _
  | invokeDynamicEgl _ _ => rfl

theorem owner_of_mem (member : field ∈ ownerReads command) : field = .clientPid := by
  unfold ownerReads at member
  split at member
  case h_14 => cases member
  all_goals exact List.mem_singleton.mp member

theorem loop_set (member : field ∈ loopReads command) :
    field ∈ frameFields command := by
  refine mem_of_all ?_ member
  cases command <;> rfl

theorem mem_setFields : field ∈ call.setFields ↔
    field ∈ frameFields call.command ∨
      field ∈ call.command.dataFields call.attributes ∨ field ∈ argsLenFields call.command := by
  rw [SlotCall.setFields, List.mem_append, List.mem_append, or_assoc]

/-- Every field that a handler reads, or the loop ahead of it, is set for the command. -/
theorem read_set (member : field ∈ readFields call) :
    field ∈ call.setFields ∨ field = .clientPid ∧ ∃ message, call.command = .wl message := by
  rw [mem_setFields]
  rcases List.mem_append.mp member with others | data
  · rcases List.mem_append.mp others with others | owner
    · rcases List.mem_append.mp others with loop | length
      · exact .inl (.inl (loop_set loop))
      · exact .inl (.inr (.inr (lengthReads_eq ▸ length)))
    · have same := owner_of_mem owner
      cases form : call.command with
      | wl message => exact .inr ⟨same, message, rfl⟩
      | gles2 _ | gles32 _ | glFlushMappedBufferRange | egl _ | wlEgl _ | invokeDynamic _ _
      | invokeDynamicEgl _ _ =>
          rw [same]
          exact .inl (.inl (List.mem_cons_self ..))
  · exact .inl (.inr (.inl (data_set data)))

theorem written_of_set (member : field ∈ call.setFields) (covered : field.covers index = true) :
    call.written index = true :=
  Bool.or_eq_true_iff.mpr (.inl (List.any_eq_true.mpr ⟨field, member, covered⟩))

theorem written_of_args (behind : argsStart ≤ index)
    (before : index < argsStart + (call.command.writes call.lists).sum) :
    call.written index = true := by
  refine Bool.or_eq_true_iff.mpr (.inr ?_)
  rw [decide_eq_true behind, decide_eq_true before]
  rfl

theorem covers_iff : field.covers index = true ↔
    field.start ≤ index ∧ index < field.start + field.size := by
  rw [SlotField.covers, Bool.and_eq_true, decide_eq_true_iff, decide_eq_true_iff]

theorem publishes_of_sends (sends : call.sends = true) :
    call.command.publishes call.lists = true := by
  cases form : call.command with
  | invokeDynamic _ _ | invokeDynamicEgl _ _ => rfl
  | gles2 _ | gles32 _ | glFlushMappedBufferRange | egl _ | wlEgl _ | wl _ =>
      rw [SlotCall.sends, form] at sends
      exact sends

theorem nameSpan_eq_zero (location : command ≠ .gles32 .glGetFragDataLocation)
    (address : command ≠ .egl .eglGetProcAddress) : nameSpan lists command = 0 := by
  unfold nameSpan
  split
  · exact absurd rfl location
  · exact absurd rfl address
  · rfl

/-- The reader of a name that is cut off goes on to the length of `args`, or behind a name
that has run over it. -/
theorem args_written (sends : call.sends = true) (behind : argsStart ≤ index)
    (before : index < argsStart + readArgs call) : call.written index = true := by
  have shorter := sum_le_of_initial (reads_initial (publishes_of_sends sends))
  by_cases inside : index < argsStart + (call.command.writes call.lists).sum
  · exact written_of_args behind inside
  rw [sum_writes] at inside
  rw [readArgs] at before
  by_cases location : call.command = .gles32 .glGetFragDataLocation
  · rw [location] at before inside
    change index < 8 + (4 + (strlen ((cString call.lists.name).take 252) + 1)) at before
    change ¬ index < 8 + (4 + ((cString call.lists.name).take 252).length) at inside
    rw [strlen_take] at before
    rw [length_take_cString] at inside
    have last : index = SlotField.argsLen.start := by
      change index = 264
      omega
    have set : SlotField.argsLen ∈ argsLenFields call.command := by
      rw [location]
      exact List.mem_singleton.mpr rfl
    rw [last]
    exact written_of_set (mem_setFields.mpr (.inr (.inr set))) rfl
  by_cases address : call.command = .egl .eglGetProcAddress
  · rw [address] at before inside
    change index < 8 + (8 + (strlen ((cString call.lists.name).take 256) + 1)) at before
    change ¬ index < 8 + (8 + ((cString call.lists.name).take 256).length) at inside
    rw [strlen_take] at before
    rw [length_take_cString] at inside
    have last : index = SlotField.dataSize.start := by
      change index = 272
      omega
    have set : SlotField.dataSize ∈ call.command.dataFields call.attributes := by
      rw [address]
      exact List.mem_cons_of_mem _ (List.mem_cons_self ..)
    rw [last]
    exact written_of_set (mem_setFields.mpr (.inr (.inl set))) rfl
  · rw [nameSpan_eq_zero location address] at before
    omega

/-- Two slots look the same to the handler. -/
theorem view_eq (sends : call.sends = true) (recycled : Recycled call.command stale stale') :
    masked (looksAt call) (call.sent stale) = masked (looksAt call) (call.sent stale') := by
  refine masked_congr fun index looks => overlay_congr ?_
  rcases Bool.or_eq_true_iff.mp looks with fields | args
  · obtain ⟨field, member, covered⟩ := List.any_eq_true.mp fields
    rcases read_set member with set | ⟨owner, message, form⟩
    · exact .inl (written_of_set set covered)
    · rw [form] at recycled
      exact .inr (recycled index (owner ▸ covered))
  · have bounds := Bool.and_eq_true_iff.mp args
    exact .inl (args_written sends (of_decide_eq_true bounds.1) (of_decide_eq_true bounds.2))

/-! ## What is returned has been set or stored -/

theorem stores_of_returns (returns : command.returnsResult = true)
    (form : call.command = command) (dynamic : ∀ idx params, command ≠ .invokeDynamic idx params)
    (dynamicEgl : ∀ idx params, command ≠ .invokeDynamicEgl idx params) :
    storesResult resolved call = true := by
  unfold storesResult
  rw [form]
  cases command with
  | gles2 function => cases function <;> first | rfl | cases returns
  | gles32 function => cases function <;> first | rfl | cases returns
  | wlEgl function => cases function <;> first | rfl | cases returns
  | egl _ | wl _ => rfl
  | glFlushMappedBufferRange => cases returns
  | invokeDynamic idx params => exact absurd rfl (dynamic idx params)
  | invokeDynamicEgl idx params => exact absurd rfl (dynamicEgl idx params)

theorem readBack_set (member : field ∈ call.command.readBack) : field ∈ call.setFields := by
  have all : ∀ command : Command, command.readBack.all
      ((frameFields command ++ command.dataFields call.attributes).contains ·) = true := by
    intro command
    cases command with
    | gles2 function => cases function <;> rfl
    | gles32 function => cases function <;> rfl
    | wl message => cases message <;> rfl
    | glFlushMappedBufferRange | egl _ | wlEgl _ | invokeDynamic _ _ | invokeDynamicEgl _ _ => rfl
  rw [mem_setFields]
  rcases List.mem_append.mp (mem_of_all (all call.command) member) with begun | data
  · exact .inl begun
  · exact .inr (.inl data)

/-! ## Dispatchers -/

def Dispatches (call : SlotCall) (idx : UInt32) (params : List Scalar) : Prop :=
  call.command = .invokeDynamic idx params ∨ call.command = .invokeDynamicEgl idx params

variable {idx : UInt32} {params : List Scalar}

theorem leavesResult_iff (dispatches : Dispatches call idx params) :
    LeavesResult proxy call world ↔
      idx ≠ 0 ∧ proxy.resolves world call.command = false ∧ call.kept ≠ 0 ∧
        argsStart + (sizesOf (.u32 :: params)).sum < SlotField.result.start + call.kept.val := by
  unfold LeavesResult
  rcases dispatches with form | form <;> rw [form]

theorem sends_iff (dispatches : Dispatches call idx params) : call.sends = true ↔ idx ≠ 0 := by
  unfold SlotCall.sends
  rcases dispatches with form | form <;> rw [form] <;> exact decide_eq_true_iff

theorem sum_dispatched (dispatches : Dispatches call idx params) :
    (call.command.writes call.lists).sum = (sizesOf (.u32 :: params)).sum := by
  rw [sum_writes]
  rcases dispatches with form | form <;> rw [form] <;> exact Nat.add_zero _

theorem resultBytes_dispatched (dispatches : Dispatches call idx params) :
    call.resultBytes = call.kept := by
  unfold SlotCall.resultBytes
  rcases dispatches with form | form <;> rw [form]

theorem storesResult_dispatched (dispatches : Dispatches call idx params) :
    storesResult resolved call = (resolved && decide (call.kept ≠ 0)) := by
  unfold storesResult
  rcases dispatches with form | form <;> rw [form]

theorem setFields_dispatched (dispatches : Dispatches call idx params) :
    call.setFields = [.clientPid, .targetCtx, .dataWatermark, .dataWatermarkValid, .resultBufLen,
      .opcode, .needsResponse, .argsLen] := by
  unfold SlotCall.setFields
  rcases dispatches with form | form <;> rw [form] <;> rfl

theorem dispatches_of (command : Command) :
    (∃ idx params, command = .invokeDynamic idx params ∨ command = .invokeDynamicEgl idx params) ∨
      (∀ idx params, command ≠ .invokeDynamic idx params) ∧
        ∀ idx params, command ≠ .invokeDynamicEgl idx params := by
  cases command with
  | invokeDynamic idx params => exact .inl ⟨idx, params, .inl rfl⟩
  | invokeDynamicEgl idx params => exact .inl ⟨idx, params, .inr rfl⟩
  | gles2 _ | gles32 _ | glFlushMappedBufferRange | egl _ | wlEgl _ | wl _ =>
      refine .inr ⟨?_, ?_⟩
      all_goals
        intro idx params same
        cases same

/-! ## Two runs -/

theorem resultBytes_other (other : ∀ idx params, call.command ≠ .invokeDynamic idx params)
    (otherEgl : ∀ idx params, call.command ≠ .invokeDynamicEgl idx params) :
    call.resultBytes = if call.command.returnsResult then 8 else 0 := by
  unfold SlotCall.resultBytes
  split
  · rename_i idx params form
    exact absurd form (other idx params)
  · rename_i idx params form
    exact absurd form (otherEgl idx params)
  · rfl

/-- What is read for the value is set by the call or stored by its handler, where the
handler does not leave the result. -/
theorem return_written {reply : HandlerReply Effect} (sends : call.sends = true)
    (stores : ¬ LeavesResult proxy call world) (member : index ∈ call.returnReads) :
    reply.stored (proxy.resolves world call.command) call index = true ∨
      call.written index = true := by
  have stored (result : storesResult (proxy.resolves world call.command) call = true)
      (covered : SlotField.result.covers index = true) :
      reply.stored (proxy.resolves world call.command) call index = true := by
    refine Bool.or_eq_true_iff.mpr (.inl (List.any_eq_true.mpr ⟨.result, ?_, covered⟩))
    rw [storedFields, if_pos result]
    exact List.mem_cons_self ..
  have args : argsStart = 8 := rfl
  have start : SlotField.result.start = 288 := rfl
  have size : SlotField.result.size = 8 := rfl
  rcases List.mem_append.mp member with result | others
  · have bounds := List.mem_range'_1.mp result
    rcases dispatches_of call.command with ⟨idx, params, dispatches⟩ | ⟨other, otherEgl⟩
    · rw [resultBytes_dispatched dispatches] at bounds
      have small := call.kept.isLt
      have covered : SlotField.result.covers index = true := covers_iff.mpr (by omega)
      have kept : call.kept ≠ 0 := fun none => by
        rw [none] at bounds
        change _ ∧ _ < _ + 0 at bounds
        omega
      cases resolved : proxy.resolves world call.command with
      | true =>
          refine .inl (resolved ▸ stored ?_ covered)
          rw [storesResult_dispatched dispatches, resolved, decide_eq_true kept]
          rfl
      | false =>
          rw [leavesResult_iff dispatches] at stores
          have beyond : ¬ argsStart + (sizesOf (.u32 :: params)).sum <
              SlotField.result.start + call.kept.val := fun below =>
            stores ⟨(sends_iff dispatches).mp sends, resolved, kept, below⟩
          refine .inr (written_of_args (by omega) ?_)
          rw [sum_dispatched dispatches]
          omega
    · rw [resultBytes_other other otherEgl] at bounds
      split at bounds
      · rename_i returns
        exact .inl (stored (stores_of_returns returns rfl other otherEgl)
          (covers_iff.mpr (by omega)))
      · omega
  · obtain ⟨field, read, place⟩ := List.mem_flatMap.mp others
    have bounds := List.mem_range'_1.mp place
    exact .inr (written_of_set (readBack_set read) (covers_iff.mpr bounds))

theorem reply_eq (sends : call.sends = true) (recycled : Recycled call.command stale stale') :
    proxy.reply call world (call.sent stale) = proxy.reply call world (call.sent stale') := by
  rw [SlotProxy.reply, SlotProxy.reply, view_eq sends recycled]

theorem run_eq (recycled : Recycled call.command stale stale')
    (stores : ¬ LeavesResult proxy call world) :
    proxy.runInSlot call world stale = proxy.runInSlot call world stale' := by
  cases sends : call.sends with
  | false => rw [SlotProxy.runInSlot, SlotProxy.runInSlot, sends]; rfl
  | true =>
      rw [SlotProxy.runInSlot, SlotProxy.runInSlot, if_pos sends, if_pos sends,
        reply_eq sends recycled]
      refine congrArg some (Prod.ext rfl (List.map_congr_left fun index member => ?_))
      refine overlay_congr ((return_written sends stores member).imp_right fun written => ?_)
      exact overlay_congr (.inl written)

theorem storedFields_missing (dispatches : Dispatches call idx params) :
    storedFields false call = [] := by
  have none : storesResult false call = false := storesResult_dispatched dispatches
  rw [storedFields, none]
  rcases dispatches with form | form <;> rw [form] <;> rfl

theorem covers_false_iff : field.covers index = false ↔
    index < field.start ∨ field.start + field.size ≤ index := by
  rw [← Bool.not_eq_true, covers_iff]
  omega

theorem result_unset (dispatches : Dispatches call idx params) (inResult : 288 ≤ index)
    (inside : index < 296) (member : field ∈ call.setFields) : field.covers index = false := by
  have apart : ∀ field ∈ call.setFields, field.start + field.size ≤ 288 ∨ 296 ≤ field.start := by
    rw [setFields_dispatched dispatches]
    decide
  rw [covers_false_iff]
  have bounds := apart field member
  omega

/-- The last byte of the result that is kept is what it was. -/
theorem result_untouched {reply : HandlerReply Effect} (dispatches : Dispatches call idx params)
    (kept : call.kept ≠ 0)
    (short : argsStart + (sizesOf (.u32 :: params)).sum < SlotField.result.start + call.kept.val) :
    reply.answered false call (call.sent stale) (287 + call.kept) = stale (287 + call.kept) := by
  have start : SlotField.result.start = 288 := rfl
  have small := call.kept.isLt
  have positive : 0 < call.kept.val := Fin.pos_iff_ne_zero.mpr kept
  have unstored : reply.stored false call (287 + call.kept) = false := by
    have apart : SlotField.resultBufLen.covers (287 + call.kept) = false :=
      covers_false_iff.mpr (.inl (by change _ < 296; omega))
    rw [HandlerReply.stored, storedFields_missing dispatches, apart, Bool.and_false]
    rfl
  have unwritten : call.written (287 + call.kept) = false := by
    refine Bool.or_eq_false_iff.mpr ⟨List.any_eq_false.mpr fun field member => ?_, ?_⟩
    · rw [result_unset dispatches (by omega) (by omega) member]
      exact Bool.false_ne_true
    · rw [sum_dispatched dispatches, decide_eq_false (show ¬ _ < _ by omega), Bool.and_false]
  rw [HandlerReply.answered, overlay_kept unstored, SlotCall.sent, overlay_kept unwritten]

/-- Two slots of which only the results differ show in the value. -/
theorem run_ne (leaves : LeavesResult proxy call world) :
    proxy.runInSlot call world (fun _ => 0) ≠
      proxy.runInSlot call world (fun index => if SlotField.result.covers index then 1 else 0) := by
  obtain ⟨idx, params, dispatches⟩ | ⟨other, otherEgl⟩ := dispatches_of call.command
  · rw [leavesResult_iff dispatches] at leaves
    obtain ⟨sent, missing, kept, short⟩ := leaves
    have sends := (sends_iff dispatches).mpr sent
    have positive : 0 < call.kept.val := Fin.pos_iff_ne_zero.mpr kept
    have last : 287 + call.kept.val ∈ call.returnReads := by
      refine List.mem_append_left _ (List.mem_range'_1.mpr ?_)
      rw [resultBytes_dispatched dispatches]
      have start : SlotField.result.start = 288 := rfl
      omega
    intro same
    rw [SlotProxy.runInSlot, SlotProxy.runInSlot, if_pos sends, if_pos sends, Option.some.injEq,
      Prod.mk.injEq] at same
    have value := List.map_inj_left.mp same.2 _ last
    rw [missing, result_untouched dispatches kept short, result_untouched dispatches kept short,
      if_pos (covers_iff.mpr ⟨by change 288 ≤ _; omega, by change _ < 296; omega⟩)] at value
    exact absurd value (by decide)
  · unfold LeavesResult at leaves
    split at leaves
    · rename_i idx params form
      exact absurd form (other idx params)
    · rename_i idx params form
      exact absurd form (otherEgl idx params)
    · exact leaves.elim

/-- What the proxy does and what the client gets depend on what earlier commands left in
the slot exactly where a dispatcher's function is missing and its result is not. -/
theorem runs_agree_iff (proxy : SlotProxy World Effect) (call : SlotCall) (world : World) :
    (∀ stale stale', Recycled call.command stale stale' →
      proxy.runInSlot call world stale = proxy.runInSlot call world stale') ↔
      ¬ LeavesResult proxy call world := by
  constructor
  · intro agree leaves
    refine run_ne leaves (agree _ _ ?_)
    unfold Recycled
    split
    · rename_i message form
      unfold LeavesResult at leaves
      rw [form] at leaves
      exact leaves.elim
    · trivial
  · exact fun stores stale stale' recycled => run_eq recycled stores

/-- A driver that does not have the function of any dispatcher. -/
def bareDriver : SlotProxy Unit Unit where
  handle _ _ _ := ⟨(), fun _ => 0, false⟩
  resolves _ _ := false

/-- A dispatcher without parameters that returns a `GLenum`. -/
def statusCall : SlotCall where
  command := .invokeDynamic 5 []
  lists := noLists
  attributes := false
  kept := 4
  bytes _ := 0

/-- The client gets the result of an earlier command. -/
theorem missing_function_stale :
    bareDriver.runInSlot statusCall () (fun _ => 0) = some ((), [0, 0, 0, 0, 0, 0, 0, 0]) ∧
      bareDriver.runInSlot statusCall ()
          (fun index => if SlotField.result.covers index then 1 else 0) =
        some ((), [1, 1, 1, 1, 0, 0, 0, 0]) ∧
      ¬ ∀ stale stale', Recycled statusCall.command stale stale' →
        bareDriver.runInSlot statusCall () stale = bareDriver.runInSlot statusCall () stale' := by
  have zero : bareDriver.runInSlot statusCall () (fun _ => 0) =
      some ((), [0, 0, 0, 0, 0, 0, 0, 0]) := by decide
  have one : bareDriver.runInSlot statusCall ()
      (fun index => if SlotField.result.covers index then 1 else 0) =
        some ((), [1, 1, 1, 1, 0, 0, 0, 0]) := by decide
  refine ⟨zero, one, fun agree => ?_⟩
  have same := agree (fun _ => 0) (fun index => if SlotField.result.covers index then 1 else 0)
    trivial
  rw [zero, one] at same
  exact absurd same (by decide)

end GlesBridge.Args
