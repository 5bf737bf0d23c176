import Mathlib.Logic.Function.Basic

namespace GlesBridge.Stub

/-! What the stub remembers of the answers to `eglQuerySurface` (`egl_stub.c`). -/

abbrev qsCacheSlots : Nat := 16

def eglWidth : Int32 := 0x3057
def eglHeight : Int32 := 0x3056
def eglBufferAgeExtAttr : Int32 := 0x313D

structure SurfaceQuery where
  dpy : UInt32
  surf : UInt32
  attr : Int32
deriving DecidableEq, Repr

/-- The entries of `qs_cache`, and `age_cache`. -/
inductive SurfaceCell where
  | size (slot : Fin qsCacheSlots) (height : Bool)
  | age
deriving DecidableEq, Repr

/-- The entry that an answer is kept in, if it is kept at all. -/
def SurfaceQuery.cell (query : SurfaceQuery) : Option SurfaceCell :=
  if query.attr = eglBufferAgeExtAttr then some .age
  else if query.attr = eglWidth ∨ query.attr = eglHeight then
    some (.size ⟨query.surf.toNat % qsCacheSlots, Nat.mod_lt _ (by decide)⟩
      (query.attr == eglHeight))
  else none

/-- `stamp` is `gen` of an entry of `qs_cache`, and `swaps` of `age_cache`, where `attr`
is not used. -/
structure SurfaceEntry where
  dpy : UInt32
  surf : UInt32
  attr : Int32
  val : Int32
  stamp : UInt32
deriving DecidableEq, Repr

inductive EntryField where
  | dpy
  | surf
  | attr
  | val
  | stamp
deriving DecidableEq, Repr

/-- The assignments that keep an answer, in their order. -/
def SurfaceCell.fields : SurfaceCell → List EntryField
  | .size .. => [.dpy, .surf, .attr, .val, .stamp]
  | .age => [.dpy, .surf, .val, .stamp]

namespace SurfaceEntry

def zero : SurfaceEntry where
  dpy := 0
  surf := 0
  attr := 0
  val := 0
  stamp := 0

variable (entry : SurfaceEntry) (query : SurfaceQuery) (val : Int32) (counter : UInt32)

def assign : EntryField → SurfaceEntry
  | .dpy => { entry with dpy := query.dpy }
  | .surf => { entry with surf := query.surf }
  | .attr => { entry with attr := query.attr }
  | .val => { entry with val := val }
  | .stamp => { entry with stamp := counter }

/-- An assignment has been made. The counter may have changed since. -/
def Has : EntryField → Prop
  | .dpy => entry.dpy = query.dpy
  | .surf => entry.surf = query.surf
  | .attr => entry.attr = query.attr
  | .val => entry.val = val
  | .stamp => True

/-- The entry is for the query. -/
def Matches (cell : SurfaceCell) : Prop :=
  entry.dpy = query.dpy ∧ entry.surf = query.surf ∧ (cell ≠ .age → entry.attr = query.attr)

instance decidableMatches (cell : SurfaceCell) : Decidable (entry.Matches query cell) :=
  inferInstanceAs (Decidable (_ ∧ _ ∧ (_ → _)))

variable {entry query val counter}

theorem has_assign_self (field : EntryField) : (entry.assign query val counter field).Has query val field := by
  cases field with
  | stamp => trivial
  | _ => rfl

theorem Has.assign {field : EntryField} (has : entry.Has query val field) (other : EntryField) :
    (entry.assign query val counter other).Has query val field := by
  cases field with
  | stamp => trivial
  | _ => cases other with
    | _ => first | exact has | rfl

end SurfaceEntry

/-- The caches and the two counters belong to the whole process. -/
structure SurfaceCaches where
  entries : SurfaceCell → SurfaceEntry
  gSurfaceGen : UInt32
  gSwapCount : UInt32

namespace SurfaceCaches

def initial : SurfaceCaches where
  entries _ := .zero
  gSurfaceGen := 1
  gSwapCount := 1

variable (caches : SurfaceCaches)

def counter : SurfaceCell → UInt32
  | .size .. => caches.gSurfaceGen
  | .age => caches.gSwapCount

/-- The answer without a call of the proxy. -/
def answered (query : SurfaceQuery) : Option Int32 :=
  match query.cell with
  | none => none
  | some cell =>
      if (caches.entries cell).stamp = caches.counter cell ∧
          (caches.entries cell).Matches query cell then
        some (caches.entries cell).val
      else none

/-- One of the assignments that keep an answer. -/
def keep (cell : SurfaceCell) (query : SurfaceQuery) (val : Int32) (field : EntryField) :
    SurfaceCaches :=
  { caches with
    entries := Function.update caches.entries cell
      ((caches.entries cell).assign query val (caches.counter cell) field) }

/-- `age_cache.swaps = 0` -/
def clearAge : SurfaceCaches :=
  { caches with
    entries := Function.update caches.entries .age { caches.entries .age with stamp := 0 } }

def bumpSurfaceGen : SurfaceCaches := { caches with gSurfaceGen := caches.gSurfaceGen + 1 }

def bumpSwapCount : SurfaceCaches := { caches with gSwapCount := caches.gSwapCount + 1 }

variable {caches} {query : SurfaceQuery} {cell : SurfaceCell} {val : Int32}

@[simp] theorem clearAge_entries_age :
    caches.clearAge.entries .age = { caches.entries .age with stamp := 0 } := by
  simp [clearAge]

theorem clearAge_entries_of_ne (other : cell ≠ .age) :
    caches.clearAge.entries cell = caches.entries cell := by
  simp [clearAge, Function.update_of_ne other]

theorem has_clearAge {field : EntryField} (has : (caches.entries cell).Has query val field) :
    (caches.clearAge.entries cell).Has query val field := by
  by_cases age : cell = .age
  · subst age
    rw [clearAge_entries_age]
    cases field with
    | stamp => trivial
    | _ => exact has
  · rwa [clearAge_entries_of_ne age]

@[simp] theorem keep_entries_self {field : EntryField} :
    (caches.keep cell query val field).entries cell =
      (caches.entries cell).assign query val (caches.counter cell) field := by
  simp [keep]

theorem keep_entries_of_ne {field : EntryField} {other : SurfaceCell} (apart : other ≠ cell) :
    (caches.keep cell query val field).entries other = caches.entries other := by
  simp [keep, Function.update_of_ne apart]

theorem answered_some (found : caches.answered query = some val) :
    ∃ cell, query.cell = some cell ∧ (caches.entries cell).stamp = caches.counter cell ∧
      (caches.entries cell).Matches query cell ∧ (caches.entries cell).val = val := by
  unfold answered at found
  cases place : query.cell with
  | none =>
      rw [place] at found
      exact nomatch found
  | some cell =>
      rw [place] at found
      obtain ⟨⟨stamp, same⟩, value⟩ := Option.ite_none_right_eq_some.mp found
      exact ⟨cell, rfl, stamp, same, Option.some.inj value⟩

end SurfaceCaches

end GlesBridge.Stub
