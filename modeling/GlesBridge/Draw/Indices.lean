import GlesBridge.Draw.Arena

namespace GlesBridge.Draw

open GlesBridge.Shared GlesBridge.Stub GlesBridge.Proxy GlesBridge.Upload

/-! What the real call of an indexed draw gets for the indices. -/

/-- The bytes of an index, where GL knows the type. -/
def indexSize (type : UInt32) : Option Nat :=
  match type.toNat with
  | 0x1401 => some 1
  | 0x1403 => some 2
  | 0x1405 => some 4
  | _ => none

/-- The bytes of the indices; none where GL refuses the draw. -/
def indexBytes (call : Stub.Draw) : Nat := call.count.toNatClampNeg * (indexSize call.type).getD 0

/-- With an element buffer the pointer is the client's offset, and the client's
memory is not read. Without one, exactly the client's indices have been read, and
are found at the pointer. A null pointer has no indices. -/
structure Classified (data : DataBase) (ebo : UInt32) (stub after : UploadStub) (call : Stub.Draw)
    (pointer : UInt32) : Prop where
  offset : ebo ≠ 0 → pointer.toNat = call.indices.toNat ∧ after.reads = stub.reads
  read : ebo = 0 → call.indices ≠ 0 → indexBytes call ≠ 0 →
    ∃ arrays, after.reads = arrays ++ (call.indices, indexBytes call) :: stub.reads
  copy : ebo = 0 → call.indices ≠ 0 → ∀ place < indexBytes call,
    data.byte after.arena (pointer + .ofNat place) = stub.client (call.indices + .ofNat place)

def Indexed : DrawOp → Prop
  | .glDrawArrays | .glDrawArraysInstanced => False
  | _ => True

/-- An offset has to fit in 32 bits, and in `glDrawElementsInstanced` to be 0. The
client's indices are copied in `glDrawElements` and `glDrawElementsBaseVertex`, and in
`glDrawElementsInstanced` where their address is no small number. -/
def IndicesKept (ebo : UInt32) (call : Stub.Draw) : Prop :=
  if ebo ≠ 0 then
    if call.op = .glDrawElementsInstanced then call.indices = 0 else call.indices.toNat < 2 ^ 32
  else
    call.indices ≠ 0 → indexBytes call ≠ 0 →
      call.op = .glDrawElements ∨ call.op = .glDrawElementsBaseVertex ∨
        call.op = .glDrawElementsInstanced ∧ 0x10000 ≤ call.indices.toNat

section

variable {data : DataBase} {stub next after : UploadStub} {current : Ctx} {call : Stub.Draw}
  {size : UInt64} {offset ebo pointer : UInt32} {slot : DrawSlot}

/-! ## Sizes -/

theorem elem_cases {elem : Nat} (known : indexSize call.type = some elem) :
    (indexTypeSize call.type).toNat = elem ∧ (elemSize call.type).toNat = elem ∧ elem ≤ 4 := by
  unfold indexSize at known
  unfold indexTypeSize elemSize
  split at known
  · rename_i byte
    cases known
    have type : call.type = 0x1401 := UInt32.toNat_inj.mp byte
    rw [type]
    decide
  · rename_i short
    cases known
    have type : call.type = 0x1403 := UInt32.toNat_inj.mp short
    rw [type]
    decide
  · rename_i int
    cases known
    have type : call.type = 0x1405 := UInt32.toNat_inj.mp int
    rw [type]
    decide
  · cases known

/-- The sizes that the stub computes are those of the indices. -/
theorem indexBytes_toNat (some : indexBytes call ≠ 0) :
    (sizeT call.count * indexTypeSize call.type).toNat = indexBytes call ∧
      (sizeT call.count * elemSize call.type).toNat = indexBytes call := by
  unfold indexBytes at some ⊢
  cases known : indexSize call.type with
  | none =>
      rw [known] at some
      exact absurd (Nat.mul_zero _) some
  | some elem =>
      rw [known, Option.getD_some] at some
      rw [Option.getD_some]
      obtain ⟨typed, sized, small⟩ := elem_cases known
      have positive : 0 < call.count.toNatClampNeg :=
        Nat.pos_of_ne_zero fun none => some (by rw [none, Nat.zero_mul])
      have count := sizeT_toNat (Int32.le_of_lt (pos_of_toNatClampNeg positive))
      have bound := toNatClampNeg_lt call.count
      have product : call.count.toNatClampNeg * elem ≤ 2 ^ 31 * 4 := Nat.mul_le_mul bound.le small
      constructor
      · rw [UInt64.toNat_mul, count, typed, Nat.mod_eq_of_lt (by omega)]
      · rw [UInt64.toNat_mul, count, sized, Nat.mod_eq_of_lt (by omega)]

/-! ## Offsets -/

theorem classified_bound (bound : ebo ≠ 0) :
    Classified data ebo stub after call pointer ↔
      pointer.toNat = call.indices.toNat ∧ after.reads = stub.reads := by
  constructor
  · intro classified
    exact classified.offset bound
  · intro same
    constructor
    · exact fun _ => same
    · exact fun none => absurd none bound
    · exact fun none => absurd none bound

theorem classified_offset (bound : ebo ≠ 0) (unread : after.reads = stub.reads) :
    Classified data ebo stub after call call.indices.toUInt32 ↔ call.indices.toNat < 2 ^ 32 := by
  rw [classified_bound bound, toUInt32_toNat_iff]
  exact and_iff_left unread

/-! ## Client memory -/

/-- Without indices there is nothing to classify. -/
theorem classified_nothing (unbound : ebo = 0) (none : call.indices ≠ 0 → indexBytes call = 0) :
    Classified data ebo stub after call pointer := by
  constructor
  · exact fun bound => absurd unbound bound
  · exact fun _ present some => absurd (none present) some
  · intro _ present place below
    rw [none present] at below
    exact absurd below (Nat.not_lt_zero _)

/-- What is not read is not copied. -/
theorem classified_unread (unbound : ebo = 0) (unread : after.reads = stub.reads) :
    Classified data ebo stub after call pointer ↔ (call.indices ≠ 0 → indexBytes call = 0) := by
  constructor
  · intro classified present
    by_contra some
    obtain ⟨arrays, reads⟩ := classified.read unbound present some
    have lengths := congrArg List.length (unread.symm.trans reads)
    rw [List.length_append, List.length_cons] at lengths
    omega
  · exact classified_nothing unbound

/-- The indices that were copied first are there in the end. -/
theorem classified_copied (order : stub.tail ≤ stub.head) (unbound : ebo = 0)
    (sized : call.indices ≠ 0 → indexBytes call ≠ 0 → size.toNat = indexBytes call)
    (written : stub.bridgeDataWrite call.indices size = some (next, offset))
    (grown : Grows next after) (arrays : ∃ arrays, after.reads = arrays ++ next.reads) :
    Classified data ebo stub after call (data.dp offset) := by
  by_cases none : call.indices ≠ 0 → indexBytes call = 0
  · exact classified_nothing unbound none
  · obtain ⟨present, some⟩ := Classical.not_imp.mp none
    have amount := sized present some
    have read : size ≠ 0 := by
      intro zero
      rw [zero] at amount
      exact some amount.symm
    obtain ⟨fits, -, -, copy⟩ := bridgeDataWrite_spec written
    obtain ⟨-, placed⟩ := bridgeDataWrite_grows order written
    constructor
    · exact fun bound => absurd unbound bound
    · intro _ _ _
      obtain ⟨arrays, reads⟩ := arrays
      refine ⟨arrays, ?_⟩
      rw [reads, bridgeDataWrite_reads written, if_pos ⟨read, present⟩, amount]
    · intro _ _ place below
      have inside := (bridgeDataWrite_spec written).2.1
      have limit : glesBridgeDataSize + glesBridgeDataSize ≤ 2 ^ 32 := by decide
      rw [byte_dp (by omega), grown.kept offset _ placed place (by omega)]
      exact (copy present read).2 place (by omega)

/-! ## The draws -/

theorem elements_classified (order : stub.tail ≤ stub.head)
    (taken : stub.glDrawElements current call = some (after, slot)) :
    Classified data (stub.vao current).ebo stub after call (data.hGlDrawElements slot) ↔
      ((stub.vao current).ebo ≠ 0 → call.indices.toNat < 2 ^ 32) := by
  unfold UploadStub.glDrawElements at taken
  by_cases bound : (stub.vao current).ebo ≠ 0
  · simp only [if_pos bound] at taken
    obtain ⟨⟨next, idx, sent⟩, first, rest⟩ := Option.bind_eq_some_iff.mp taken
    obtain ⟨grown, unread, indices, mode, -⟩ := sendEbo_grows order first
    obtain ⟨-, reads, piggyback, place, length, rfl⟩ := finish_grows (grown.order order) rest
    have pointer : data.hGlDrawElements
        { sent with piggyback, data2Offset := place, data2Size := length } =
          call.indices.toUInt32 := by
      unfold DataBase.hGlDrawElements DataBase.rawIndices
      simp only [mode, if_true, indices]
    rw [pointer, classified_offset bound (reads.trans unread)]
    exact (imp_iff_right bound).symm
  · simp only [if_neg bound] at taken
    obtain ⟨⟨next, place⟩, first, rest⟩ := Option.bind_eq_some_iff.mp taken
    obtain ⟨⟨last, attribs⟩, arrays, rest⟩ := Option.bind_eq_some_iff.mp rest
    obtain ⟨grown, -⟩ := bridgeDataWrite_grows order first
    have given (copy : ClientCopy) (member : copy ∈ stub.elementCopies current call) :
        copy.pointer ≠ 0 := by
      obtain ⟨vertices, copied⟩ := mem_elementCopies member
      obtain ⟨⟨-, -, present⟩, pointer, -⟩ := mem_arrayCopies.mp copied
      rwa [pointer]
    obtain ⟨more, reads, -⟩ := writeArrays_spec (grown.order order) given arrays
    obtain ⟨last, unread, piggyback, start, length, rfl⟩ :=
      finish_grows (more.order (grown.order order)) rest
    refine iff_of_true ?_ fun some => absurd some bound
    exact classified_copied order (not_not.mp bound)
      (fun _ some => (indexBytes_toNat some).2) first (more.trans last) ⟨_, unread.trans reads⟩

theorem baseVertex_classified (order : stub.tail ≤ stub.head)
    (taken : stub.glDrawElementsBaseVertex current call = some (after, slot)) :
    Classified data (stub.vao current).ebo stub after call (data.hGlDrawElementsBaseVertex slot) ↔
      ((stub.vao current).ebo ≠ 0 → call.indices.toNat < 2 ^ 32) := by
  unfold UploadStub.glDrawElementsBaseVertex at taken
  by_cases bound : (stub.vao current).ebo ≠ 0
  · simp only [if_pos bound] at taken
    obtain ⟨⟨next, idx, sent⟩, first, rest⟩ := Option.bind_eq_some_iff.mp taken
    obtain ⟨grown, unread, indices, -, -⟩ := sendEbo_grows order first
    obtain ⟨-, reads, piggyback, place, length, rfl⟩ := finish_grows (grown.order order) rest
    have pointer : data.hGlDrawElementsBaseVertex
        { sent with
          indexMode := idxModeOffset, piggyback, data2Offset := place, data2Size := length } =
          call.indices.toUInt32 := by
      unfold DataBase.hGlDrawElementsBaseVertex DataBase.rawIndices
      simp only [if_true, indices]
    rw [pointer, classified_offset bound (reads.trans unread)]
    exact (imp_iff_right bound).symm
  · simp only [if_neg bound] at taken
    obtain ⟨⟨next, place⟩, first, rest⟩ := Option.bind_eq_some_iff.mp taken
    obtain ⟨grown, -⟩ := bridgeDataWrite_grows order first
    obtain ⟨more, unread, piggyback, start, length, rfl⟩ := finish_grows (grown.order order) rest
    have apart : idxModePointer ≠ idxModeOffset := by decide
    have narrow : place.toUInt64.toUInt32 = place := UInt32.toUInt32_toUInt64 place
    have pointer : data.hGlDrawElementsBaseVertex
        { DrawSlot.scalar with
          indices := place.toUInt64
          indexMode := idxModePointer
          dataSize := (sizeT call.count * indexTypeSize call.type).toUInt32
          piggyback, data2Offset := start, data2Size := length } = data.dp place := by
      unfold DataBase.hGlDrawElementsBaseVertex
      simp only [if_neg apart, narrow]
    rw [pointer]
    refine iff_of_true ?_ fun some => absurd some bound
    exact classified_copied order (not_not.mp bound)
      (fun _ some => (indexBytes_toNat some).1) first more ⟨[], unread⟩

theorem isClientPointer_iff {ptr : UInt64} : isClientPointer ptr = true ↔ 0x10000 ≤ ptr.toNat := by
  have value : (0x10000 : UInt64).toNat = 0x10000 := by decide
  unfold isClientPointer
  rw [Bool.and_eq_true, Bool.not_eq_true', beq_eq_false_iff_ne, Bool.not_eq_true',
    decide_eq_false_iff_not, UInt64.not_lt, UInt64.le_iff_toNat_le, value]
  constructor
  · exact fun both => both.2
  · intro large
    refine ⟨?_, large⟩
    rintro rfl
    exact absurd large (by decide)

/-- An offset is dropped or read from, and the indices at a small address are dropped. -/
theorem instanced_classified (order : stub.tail ≤ stub.head)
    (taken : stub.glDrawElementsInstanced call = some (after, slot)) :
    Classified data ebo stub after call (data.hGlDrawElementsInstanced slot) ↔
      if ebo ≠ 0 then call.indices = 0
      else call.indices ≠ 0 → indexBytes call ≠ 0 → 0x10000 ≤ call.indices.toNat := by
  unfold UploadStub.glDrawElementsInstanced at taken
  by_cases client : isClientPointer call.indices = true
  · rw [if_pos client] at taken
    obtain ⟨⟨next, place⟩, first, shape⟩ := Option.map_eq_some_iff.mp taken
    cases shape
    have large := isClientPointer_iff.mp client
    have present : call.indices ≠ 0 := by
      intro none
      rw [none] at large
      exact absurd large (by decide)
    by_cases bound : ebo ≠ 0
    · rw [if_pos bound, classified_bound bound]
      refine iff_of_false ?_ present
      rintro ⟨same, unread⟩
      rw [bridgeDataWrite_reads first] at unread
      by_cases empty : sizeT call.count * elemSize call.type = 0
      · have pointer : data.hGlDrawElementsInstanced
            { DrawSlot.scalar with
              dataOffset := place
              dataSize := (sizeT call.count * elemSize call.type).toUInt32 } = 0 := by
          rw [empty]
          rfl
        rw [pointer] at same
        exact present (UInt64.toNat_inj.mp same.symm)
      · rw [if_pos ⟨empty, present⟩] at unread
        exact List.cons_ne_self _ _ unread
    · rw [if_neg bound]
      refine iff_of_true ?_ fun _ _ => large
      by_cases none : call.indices ≠ 0 → indexBytes call = 0
      · exact classified_nothing (not_not.mp bound) none
      · obtain ⟨-, some⟩ := Classical.not_imp.mp none
        have amount := (indexBytes_toNat some).2
        have read : sizeT call.count * elemSize call.type ≠ 0 := by
          intro zero
          rw [zero] at amount
          exact some amount.symm
        have pointer : data.hGlDrawElementsInstanced
            { DrawSlot.scalar with
              dataOffset := place
              dataSize := (sizeT call.count * elemSize call.type).toUInt32 } = data.dp place :=
          if_pos (toUInt32_ne_zero read (bridgeDataWrite_spec first).1)
        rw [pointer]
        exact classified_copied order (not_not.mp bound) (fun _ _ => amount) first (Grows.refl _)
          ⟨[], rfl⟩
  · rw [if_neg client] at taken
    cases taken
    have small := isClientPointer_iff.not.mp client
    have pointer : data.hGlDrawElementsInstanced .scalar = 0 := rfl
    rw [pointer]
    by_cases bound : ebo ≠ 0
    · rw [if_pos bound, classified_bound bound, and_iff_left rfl]
      constructor
      · intro same
        have zero : (0 : UInt64).toNat = call.indices.toNat := same
        exact (UInt64.toNat_inj.mp zero).symm
      · intro null
        rw [null]
        rfl
    · rw [if_neg bound, classified_unread (not_not.mp bound) rfl]
      constructor
      · exact fun none present some => absurd (none present) some
      · exact fun kept present => not_not.mp fun some => small (kept present some)

theorem sendDraw_classified (taken : stub.sendDraw call = some (after, slot)) :
    Classified data ebo stub after call (DataBase.rawIndices slot) ↔
      if ebo ≠ 0 then call.indices.toNat < 2 ^ 32 else call.indices ≠ 0 → indexBytes call = 0 := by
  cases taken
  have pointer : DataBase.rawIndices { DrawSlot.scalar with indices := call.indices } =
      call.indices.toUInt32 := rfl
  rw [pointer]
  by_cases bound : ebo ≠ 0
  · rw [if_pos bound]
    exact classified_offset bound rfl
  · rw [if_neg bound]
    exact classified_unread (not_not.mp bound) rfl

/-- Exactly when the real call gets the indices that the client means. -/
theorem indices_classified_iff (order : stub.tail ≤ stub.head) (indexed : Indexed call.op)
    (taken : stub.draw current call = some (after, slot)) :
    Classified data (stub.vao current).ebo stub after call (data.drawIndices slot call.op) ↔
      IndicesKept (stub.vao current).ebo call := by
  obtain ⟨op, first, count, type, indices, basevertex⟩ := call
  unfold IndicesKept
  cases op with
  | glDrawArrays | glDrawArraysInstanced => exact absurd indexed not_false
  | glDrawElements =>
      refine (elements_classified order taken).trans ?_
      by_cases bound : (stub.vao current).ebo ≠ 0
      · simp [bound]
      · simp [bound]
  | glDrawElementsBaseVertex =>
      refine (baseVertex_classified order taken).trans ?_
      by_cases bound : (stub.vao current).ebo ≠ 0
      · simp [bound]
      · simp [bound]
  | glDrawElementsInstanced =>
      refine (instanced_classified order taken).trans ?_
      simp
  | glDrawRangeElements | glDrawElementsInstancedBaseVertex | glDrawRangeElementsBaseVertex =>
      refine (sendDraw_classified taken).trans ?_
      simp

end

/-- Three indices of the client's memory. -/
theorem indices_classified_copied :
    let data : DataBase := ⟨0x40000000, by decide, by decide⟩
    let stub := UploadStub.start .zero fun address => address.toUInt8
    let call : Stub.Draw := ⟨.glDrawElements, 0, 3, 0x1403, 0x7F0000001000, 0⟩
    ∃ after slot, stub.draw 0 call = some (after, slot) ∧
      Classified data (stub.vao 0).ebo stub after call (data.drawIndices slot call.op) := by
  intro data stub call
  have sent : (stub.draw 0 call).isSome = true := by
    subst stub call
    decide
  obtain ⟨⟨after, slot⟩, taken⟩ := Option.isSome_iff_exists.mp sent
  have kept : IndicesKept (stub.vao 0).ebo call := by
    unfold IndicesKept
    rw [if_neg (by subst stub; decide)]
    exact fun _ _ => .inl rfl
  have indexed : Indexed call.op := trivial
  exact ⟨after, slot, taken, (indices_classified_iff (Nat.le_refl _) indexed taken).mpr kept⟩

/-- An offset into the element buffer does not arrive. -/
theorem offset_dropped :
    let data : DataBase := ⟨0x40000000, by decide, by decide⟩
    let mirrors := (StubMirrors.zero.glBindBuffer 0 Gl.glElementArrayBuffer 5).1
    let stub := UploadStub.start { MapStub.zero with mirrors } fun _ => 0
    let call : Stub.Draw := ⟨.glDrawElementsInstanced, 0, 3, 0x1403, 12, 0⟩
    ∃ after slot, stub.draw 0 call = some (after, slot) ∧
      ¬ Classified data (stub.vao 0).ebo stub after call (data.drawIndices slot call.op) := by
  refine ⟨_, _, rfl, fun classified => ?_⟩
  have offset := (classified.offset (by decide)).1
  cases offset

end GlesBridge.Draw
