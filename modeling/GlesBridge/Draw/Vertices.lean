import GlesBridge.Draw.Indices

namespace GlesBridge.Draw

open GlesBridge.Shared GlesBridge.Stub GlesBridge.Upload

/-! The vertices that a draw refers to, and what the stub makes of the indices. -/

/-- Some index, not a restart, gives the vertex. -/
def Names (idx : Nat → UInt8) (count : Nat) (type : UInt32) (basevertex : Int32) (restart : Bool)
    (vertex : Int) : Prop :=
  ∃ i < count, ¬ (restart = true ∧ rawIndex idx type i = restartIndex type) ∧
    vertex = (rawIndex idx type i).toNat + basevertex.toInt

/-- The bounds are the least and the greatest of the vertices. -/
def BoundsOf (vertices : Int → Prop) : Option (Int × Int) → Prop
  | none => ∀ vertex, ¬ vertices vertex
  | some (low, high) => vertices low ∧ vertices high ∧ ∀ vertex, vertices vertex → low ≤ vertex ∧ vertex ≤ high

section

variable {vertices others : Int → Prop} {bounds : Option (Int × Int)} {vertex : Int}
  {idx : Nat → UInt8} {count : Nat} {type : UInt32} {basevertex : Int32} {restart : Bool}

theorem BoundsOf.congr (known : BoundsOf vertices bounds) (same : ∀ vertex, others vertex ↔ vertices vertex) :
    BoundsOf others bounds := by
  have equal : others = vertices := funext fun vertex => propext (same vertex)
  rwa [equal]

theorem BoundsOf.note (known : BoundsOf vertices bounds) :
    BoundsOf (fun other => vertices other ∨ other = vertex) (noteVertex bounds vertex) := by
  cases bounds with
  | none =>
      refine ⟨.inr rfl, .inr rfl, fun other either => ?_⟩
      rcases either with old | rfl
      · exact absurd old (known other)
      · exact ⟨le_refl _, le_refl _⟩
  | some bounds =>
      obtain ⟨low, high⟩ := bounds
      obtain ⟨least, greatest, between⟩ := known
      have ordered := between high greatest
      refine ⟨?_, ?_, fun other either => ?_⟩
      · by_cases below : vertex < low
        · exact .inr (if_pos below)
        · rw [if_neg below]
          exact .inl least
      · by_cases above : high < vertex
        · exact .inr (if_pos above)
        · rw [if_neg above]
          exact .inl greatest
      · rcases either with old | rfl
        · have inside := between other old
          split_ifs <;> omega
        · split_ifs <;> omega

theorem scanIndices_bounds :
    BoundsOf (Names idx count type basevertex restart)
      (scanIndices idx count type basevertex restart) := by
  unfold scanIndices
  induction count with
  | zero =>
      rintro vertex ⟨i, below, -⟩
      exact absurd below (Nat.not_lt_zero _)
  | succ count ih =>
      rw [List.range_succ, List.foldl_append]
      simp only [List.foldl_cons, List.foldl_nil]
      by_cases skipped : restart = true ∧ rawIndex idx type count = restartIndex type
      · rw [if_pos skipped]
        refine ih.congr fun vertex => ?_
        constructor
        · rintro ⟨i, below, kept, value⟩
          refine ⟨i, Nat.lt_of_le_of_ne (Nat.le_of_lt_succ below) ?_, kept, value⟩
          rintro rfl
          exact kept skipped
        · rintro ⟨i, below, kept, value⟩
          exact ⟨i, Nat.lt_succ_of_lt below, kept, value⟩
      · rw [if_neg skipped]
        refine ih.note.congr fun vertex => ?_
        constructor
        · rintro ⟨i, below, kept, value⟩
          rcases Nat.lt_succ_iff_lt_or_eq.mp below with earlier | rfl
          · exact .inl ⟨i, earlier, kept, value⟩
          · exact .inr value
        · rintro (⟨i, below, kept, value⟩ | value)
          · exact ⟨i, Nat.lt_succ_of_lt below, kept, value⟩
          · exact ⟨count, Nat.lt_succ_self _, skipped, value⟩

/-- Both read the same three names of types. -/
theorem indexTypeSize_eq : indexTypeSize type = .ofNat ((indexSize type).getD 0) := by
  unfold indexTypeSize indexSize
  split
  · rename_i byte
    simp [byte]
  · rename_i short
    simp [short]
  · rename_i int
    simp [int]
  · simp [*]

theorem indexTypeSize_known (known : indexSize type ≠ none) : indexTypeSize type ≠ 0 := by
  obtain ⟨elem, size⟩ := Option.ne_none_iff_exists'.mp known
  rw [indexTypeSize_eq, size, Option.getD_some]
  unfold indexSize at size
  split at size
  · cases size
    decide
  · cases size
    decide
  · cases size
    decide
  · cases size

theorem indexTypeSize_unknown (unknown : indexSize type = none) : indexTypeSize type = 0 := by
  rw [indexTypeSize_eq, unknown]
  rfl

end

/-! ## The vertices of a draw -/

end GlesBridge.Draw
