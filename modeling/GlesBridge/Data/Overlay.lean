namespace GlesBridge.Data

universe u v

/-! Memories of which a part is written over, and readers that look at a part. -/

variable {Index : Type u} {Value : Type v}

/-- The new values where they are written, the old ones elsewhere. -/
def overlay (written : Index → Bool) (new old : Index → Value) : Index → Value :=
  fun index => if written index then new index else old index

/-- What a reader of some places sees. -/
def masked (read : Index → Bool) (memory : Index → Value) : Index → Option Value :=
  fun index => if read index then some (memory index) else none

variable {written read : Index → Bool} {new old old' : Index → Value} {index : Index}

@[simp] theorem overlay_written (here : written index = true) :
    overlay written new old index = new index := if_pos here

@[simp] theorem overlay_kept (elsewhere : written index = false) :
    overlay written new old index = old index := by
  rw [overlay, if_neg (by rw [elsewhere]; exact Bool.false_ne_true)]

theorem overlay_congr (same : written index = true ∨ old index = old' index) :
    overlay written new old index = overlay written new old' index := by
  cases here : written index with
  | true => rw [overlay_written here, overlay_written here]
  | false =>
      rw [overlay_kept here, overlay_kept here]
      exact same.resolve_left (by rw [here]; exact Bool.false_ne_true)

theorem masked_congr (same : ∀ index, read index = true → old index = old' index) :
    masked read old = masked read old' := by
  funext index
  unfold masked
  split
  · rename_i here
    rw [same index here]
  · rfl

end GlesBridge.Data
