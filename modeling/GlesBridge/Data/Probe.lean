import Mathlib.Init

namespace GlesBridge.Data

universe u

variable {Place : Type u} {order : Nat → Place} {stops hits : Place → Bool} {place : Place}

/-- The first place from `index` on that is hit, unless one that stops the search
comes before; `left` bounds how many are looked at. -/
def probe (order : Nat → Place) (stops hits : Place → Bool) (index : Nat) : Nat → Option Place
  | 0 => none
  | left + 1 =>
      if stops (order index) then none
      else if hits (order index) then some (order index)
      else probe order stops hits (index + 1) left

theorem probe_hits {left : Nat} : ∀ {index : Nat},
    probe order stops hits index left = some place → hits place = true ∧ stops place = false := by
  induction left with
  | zero =>
      intro index found
      cases found
  | succ left ih =>
      intro index found
      cases stop : stops (order index) with
      | true =>
          simp [probe, stop] at found
      | false =>
          cases hit : hits (order index) with
          | true =>
              obtain rfl : order index = place := by simpa [probe, stop, hit] using found
              exact ⟨hit, stop⟩
          | false =>
              exact ih (by simpa [probe, stop, hit] using found)

end GlesBridge.Data
