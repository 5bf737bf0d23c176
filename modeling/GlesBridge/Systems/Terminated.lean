import GlesBridge.Systems.Reading

namespace GlesBridge.Systems.Reading

universe u

/-! Sequences with a terminator, one behind the other, which a reader takes apart
by the terminators alone.
-/

variable {Word : Type u} [DecidableEq Word] (stop : Word)

/-- The words of a sequence with the terminator behind each. -/
def terminate (lists : List (List Word)) : List Word := lists.flatMap fun list => list ++ [stop]

/-- The words before the terminator, which must come within `limit` words. -/
def terminated : (limit address : Nat) → Reading Nat Word (Option (List Word))
  | 0, _ => done none
  | limit + 1, address =>
      read address fun word =>
        if word = stop then done (some [])
        else (terminated limit (address + 1)).bind fun rest => done (rest.map (word :: ·))

/-- As many sequences as are asked for, all of them before `last`. -/
def terminatedList (last : Nat) : (count address : Nat) → Reading Nat Word (Option (List (List Word)))
  | 0, _ => done (some [])
  | count + 1, address =>
      (terminated stop (last - address) address).bind fun
        | none => done none
        | some list =>
            (terminatedList last count (address + (list.length + 1))).bind fun rest =>
              done (rest.map (list :: ·))

variable {stop} {memory : Nat → Word} {address limit last : Nat} {list : List Word}
  {lists : List (List Word)}

@[simp] theorem terminate_nil : terminate stop [] = [] := rfl

@[simp] theorem terminate_cons :
    terminate stop (list :: lists) = list ++ stop :: terminate stop lists := by
  simp [terminate]

/-- A sequence is read up to its terminator, and not further. -/
theorem terminated_eq (holds : HoldsWords memory id address (list ++ [stop])) (free : stop ∉ list)
    (inside : list.length < limit) :
    (terminated stop limit address).eval memory = some list ∧
      (terminated stop limit address).touched memory = List.range' address (list.length + 1) := by
  induction list generalizing address limit with
  | nil =>
      obtain ⟨limit, rfl⟩ := Nat.exists_eq_succ_of_ne_zero (Nat.ne_of_gt inside)
      have here : memory address = stop := holds.1
      simp [terminated, eval, touched, here]
  | cons word rest ih =>
      obtain ⟨limit, rfl⟩ := Nat.exists_eq_succ_of_ne_zero (Nat.ne_of_gt (Nat.zero_lt_of_lt inside))
      obtain ⟨here, more⟩ := holds
      rw [List.mem_cons, not_or] at free
      have other : word ≠ stop := Ne.symm free.1
      obtain ⟨value, words⟩ := ih more free.2 (Nat.lt_of_succ_lt_succ inside)
      replace here : memory address = word := here
      constructor
      · simp only [terminated, eval, here, if_neg other, eval_bind, value]
        rfl
      · simp only [terminated, touched, here, if_neg other, touched_bind, words]
        simp [List.range'_succ]

/-- A reader is past words that stand before any terminator. -/
theorem terminated_append (holds : HoldsWords memory id address list) (free : stop ∉ list)
    (inside : list.length ≤ limit) :
    (terminated stop limit address).eval memory =
      ((terminated stop (limit - list.length) (address + list.length)).eval memory).map (list ++ ·) := by
  induction list generalizing address limit with
  | nil => simp
  | cons word rest ih =>
      have some : 0 < limit := Nat.lt_of_lt_of_le (Nat.zero_lt_succ rest.length) inside
      obtain ⟨limit, rfl⟩ := Nat.exists_eq_succ_of_ne_zero (Nat.ne_of_gt some)
      obtain ⟨here, more⟩ := holds
      rw [List.mem_cons, not_or] at free
      have other : word ≠ stop := Ne.symm free.1
      have value := ih more free.2 (Nat.le_of_succ_le_succ inside)
      have room : limit.succ - (word :: rest).length = limit - rest.length := Nat.succ_sub_succ ..
      have place : address + (word :: rest).length = address + 1 + rest.length := by
        rw [List.length_cons]
        omega
      replace here : memory address = word := here
      rw [room, place]
      simp only [terminated, eval, here, if_neg other, eval_bind, value, Option.map_map]
      rfl

/-- Such words are all that is read exactly if a terminator is next. -/
theorem terminated_eq_iff (holds : HoldsWords memory id address list) (free : stop ∉ list)
    (inside : list.length ≤ limit) :
    (terminated stop limit address).eval memory = some list ↔
      list.length < limit ∧ memory (address + list.length) = stop := by
  rw [terminated_append holds free inside]
  cases room : limit - list.length with
  | zero => exact iff_of_false (by simp [terminated]) fun both => by omega
  | succ more =>
      have below : list.length < limit := by omega
      rw [and_iff_right below]
      simp only [terminated, eval]
      split
      · rename_i stopped
        simp [stopped]
      · rename_i other
        refine iff_of_false (fun same => ?_) other
        obtain ⟨found, value, whole⟩ := Option.map_eq_some_iff.mp same
        have none : found = [] := List.append_right_eq_self.mp whole
        rw [eval_bind, none] at value
        obtain ⟨rest, -, longer⟩ := Option.map_eq_some_iff.mp value
        cases longer

/-- What was packed is what is read, and nothing else is touched. -/
theorem terminatedList_eq (holds : HoldsWords memory id address (terminate stop lists))
    (free : ∀ list ∈ lists, stop ∉ list)
    (inside : address + (terminate stop lists).length ≤ last) :
    (terminatedList stop last lists.length address).eval memory = some lists ∧
      (terminatedList stop last lists.length address).touched memory =
        List.range' address (terminate stop lists).length := by
  induction lists generalizing address with
  | nil => exact ⟨rfl, rfl⟩
  | cons list rest ih =>
      have split : terminate stop (list :: rest) = (list ++ [stop]) ++ terminate stop rest := by simp
      have size : (terminate stop (list :: rest)).length =
          list.length + 1 + (terminate stop rest).length := by
        rw [split, List.length_append, List.length_append]
        rfl
      rw [split, holdsWords_append] at holds
      obtain ⟨first, more⟩ := holds
      have length : (list ++ [stop]).length = list.length + 1 := List.length_append
      rw [length] at more
      obtain ⟨value, words⟩ := terminated_eq first (free list (.head _))
        (by omega : list.length < last - address)
      obtain ⟨values, others⟩ := ih more (fun other member => free other (.tail _ member)) (by omega)
      constructor
      · simp only [List.length_cons, terminatedList, eval_bind, value, values]
        rfl
      · simp only [List.length_cons, terminatedList, touched_bind, value, words, others, values, size]
        simp [touched, List.range'_append_1]

end GlesBridge.Systems.Reading
