import Mathlib.Algebra.GroupWithZero.Nat
import Mathlib.Data.List.GetD
import Mathlib.Data.List.Perm.Basic

namespace GlesBridge.Data

/-! Pieces of a buffer that stand one after the other, and a cursor that takes
them off in any order.
-/

variable {Byte : Type} {buffer stale : List Byte} {sizes order : List Nat}
  {pieces : List (List Byte)} {start size index count position : Nat}

def chunk (buffer : List Byte) (start size : Nat) : List Byte := (buffer.drop start).take size

/-- Where the piece with the number `index` starts. -/
def offset (sizes : List Nat) (index : Nat) : Nat := (sizes.take index).sum

/-- The cursor takes the pieces off in the given order, the size of each being that
of the piece which is asked for; the pieces that come, with their numbers. -/
def readInOrder (buffer : List Byte) (sizes : List Nat) : List Nat → Nat →
    List (Nat × List Byte)
  | [], _ => []
  | index :: rest, position =>
      (index, chunk buffer position (sizes.getD index 0)) ::
        readInOrder buffer sizes rest (position + sizes.getD index 0)

/-- What comes under each number is the piece of that number. -/
def InPlace (buffer : List Byte) (sizes : List Nat) (reads : List (Nat × List Byte)) : Prop :=
  ∀ read ∈ reads, read.2 = chunk buffer (offset sizes read.1) (sizes.getD read.1 0)

/-! ## Offsets -/

theorem offset_succ (inside : index < sizes.length) :
    offset sizes (index + 1) = offset sizes index + sizes.getD index 0 := by
  unfold offset
  rw [List.take_add_one, List.sum_append_nat, List.getElem?_eq_getElem inside,
    List.getD_eq_getElem _ _ inside]
  simp

theorem offset_mono (ordered : start ≤ index) : offset sizes start ≤ offset sizes index := by
  induction index with
  | zero => exact Nat.le_of_eq (congrArg _ (Nat.le_zero.mp ordered))
  | succ index ih =>
      by_cases last : start = index + 1
      · exact Nat.le_of_eq (congrArg _ last)
      · have step := ih (by omega)
        have longer : offset sizes index ≤ offset sizes (index + 1) := by
          unfold offset
          rw [List.take_add_one, List.sum_append_nat]
          exact Nat.le_add_right ..
        exact Nat.le_trans step longer

theorem offset_lt (positive : ∀ size ∈ sizes, 0 < size) (ordered : start < index)
    (inside : start < sizes.length) : offset sizes start < offset sizes index := by
  have past : offset sizes (start + 1) ≤ offset sizes index := offset_mono ordered
  rw [offset_succ inside, List.getD_eq_getElem _ _ inside] at past
  have size := positive _ (List.getElem_mem inside)
  omega

theorem offset_le_sum : offset sizes index ≤ sizes.sum := by
  have whole : offset sizes sizes.length = sizes.sum := by simp [offset]
  by_cases inside : index ≤ sizes.length
  · rw [← whole]
    exact offset_mono inside
  · exact Nat.le_of_eq (congrArg _ (List.take_of_length_le (by omega)))

/-- No two pieces start at one place. -/
theorem eq_of_offset_eq (positive : ∀ size ∈ sizes, 0 < size) (start_inside : start < sizes.length)
    (index_inside : index < sizes.length) (same : offset sizes start = offset sizes index) :
    start = index := by
  rcases Nat.lt_trichotomy start index with before | equal | after
  · have apart := offset_lt positive before start_inside
    omega
  · exact equal
  · have apart := offset_lt positive after index_inside
    omega

/-! ## Reading from the left to the right -/

theorem readInOrder_range (inside : start + count ≤ sizes.length) :
    InPlace buffer sizes (readInOrder buffer sizes (List.range' start count)
      (offset sizes start)) := by
  induction count generalizing start with
  | zero => simp [InPlace, readInOrder]
  | succ count ih =>
      rw [List.range'_succ, readInOrder, ← offset_succ (by omega)]
      intro read taken
      cases taken with
      | head => rfl
      | tail _ later => exact ih (by omega) read later

/-! ## Reading in another order -/

theorem head_chunk (positive : 0 < size) : (chunk buffer start size)[0]? = buffer[start]? := by
  unfold chunk
  rw [List.getElem?_take_of_lt positive, List.getElem?_drop, Nat.add_zero]

theorem getElem?_between {head middle : List Byte} (behind : head.length ≤ position)
    (inside : position < head.length + middle.length) :
    (head ++ middle ++ stale)[position]? = middle[position - head.length]? := by
  rw [List.getElem?_append_left (by simpa using inside), List.getElem?_append_right behind]

/-- A buffer whose one byte `mark` stands behind a given start of it. -/
theorem eq_of_chunk_marked {head : List Byte} {mark blank : Byte} (different : mark ≠ blank)
    {total : Nat} (start_behind : head.length ≤ start) (behind : head.length ≤ position)
    (start_inside : start < head.length + total) (inside : position < head.length + total)
    (positive : 0 < size)
    (same : chunk (head ++ (List.replicate total blank).set (position - head.length) mark ++ stale)
        start size =
      chunk (head ++ (List.replicate total blank).set (position - head.length) mark ++ stale)
        position size) :
    start = position := by
  have heads := congrArg (·[0]?) same
  simp only [head_chunk positive] at heads
  rw [getElem?_between start_behind (by simpa using start_inside),
    getElem?_between behind (by simpa using inside), List.getElem?_set_self (by simp; omega)] at heads
  by_cases equal : start = position
  · exact equal
  · rw [List.getElem?_set_ne (by omega), List.getElem?_replicate] at heads
    split at heads
    · exact absurd (Option.some.inj heads).symm different
    · cases heads

/-- A cursor that puts every piece in its place, whatever the buffer holds behind a
given start of it, went from the left to the right. -/
theorem order_eq_range {mark blank : Byte} (different : mark ≠ blank)
    (positive : ∀ size ∈ sizes, 0 < size) {head : List Byte} (behind : head.length ≤ offset sizes start)
    (permutes : order.Perm (List.range' start count)) (inside : start + count ≤ sizes.length)
    (places : ∀ rest : List Byte, head.length + rest.length = sizes.sum →
      ∃ stale, InPlace (head ++ rest ++ stale) sizes
        (readInOrder (head ++ rest ++ stale) sizes order (offset sizes start))) :
    order = List.range' start count := by
  induction count generalizing start order with
  | zero => exact permutes.eq_nil
  | succ count ih =>
      cases order with
      | nil => exact absurd permutes.length_eq (by simp)
      | cons first rest =>
          have member := permutes.subset (List.mem_cons_self ..)
          rw [List.mem_range'_1] at member
          have first_inside : first < sizes.length := by omega
          have first_size : 0 < sizes.getD first 0 := by
            rw [List.getD_eq_getElem _ _ first_inside]
            exact positive _ (List.getElem_mem first_inside)
          have first_behind : offset sizes start ≤ offset sizes first := offset_mono member.1
          have next := offset_succ first_inside
          have last : offset sizes (first + 1) ≤ sizes.sum := offset_le_sum
          have first_place : start = first := by
            obtain ⟨stale, placed⟩ := places ((List.replicate (sizes.sum - head.length) blank).set
              (offset sizes first - head.length) mark) (by simp; omega)
            have read := placed _ (List.mem_cons_self ..)
            exact eq_of_offset_eq positive (by omega) first_inside
              (eq_of_chunk_marked different behind (by omega) (by omega) (by omega) first_size read)
          subst first_place
          rw [List.range'_succ] at permutes ⊢
          rw [ih (by omega) ((List.perm_cons _).mp permutes) (by omega) fun rest whole => ?_]
          obtain ⟨stale, placed⟩ := places rest whole
          exact ⟨stale, fun read later => placed read (by
            rw [readInOrder, ← next]
            exact List.mem_cons_of_mem _ later)⟩

/-! ## Pieces put together -/

/-- The pieces of the given sizes that a buffer starts with. -/
def split (buffer : List Byte) : List Nat → List (List Byte)
  | [] => []
  | size :: rest => buffer.take size :: split (buffer.drop size) rest

theorem flatten_split (whole : buffer.length = sizes.sum) : (split buffer sizes).flatten = buffer := by
  induction sizes generalizing buffer with
  | nil => exact (List.eq_nil_of_length_eq_zero whole).symm
  | cons size rest ih =>
      rw [List.sum_cons] at whole
      rw [split, List.flatten_cons, ih (by rw [List.length_drop]; omega), List.take_append_drop]

theorem map_length_split (whole : buffer.length = sizes.sum) :
    (split buffer sizes).map List.length = sizes := by
  induction sizes generalizing buffer with
  | nil => rfl
  | cons size rest ih =>
      rw [List.sum_cons] at whole
      rw [split, List.map_cons, ih (by rw [List.length_drop]; omega), List.length_take,
        Nat.min_eq_left (by omega)]

/-- A piece is found where the sizes of those before it say. -/
theorem chunk_flatten (inside : index < pieces.length) :
    chunk (pieces.flatten ++ stale) (offset (pieces.map List.length) index)
      ((pieces.map List.length).getD index 0) = pieces[index] := by
  induction pieces generalizing index with
  | nil => cases inside
  | cons piece rest ih =>
      cases index with
      | zero => simp [chunk, offset]
      | succ index =>
          have later := ih (Nat.lt_of_succ_lt_succ inside)
          unfold chunk offset at *
          rw [List.map_cons, List.take_succ_cons, List.sum_cons, List.flatten_cons,
            List.append_assoc, ← List.drop_drop, List.drop_left, List.getD_cons_succ, later]
          rfl

end GlesBridge.Data
