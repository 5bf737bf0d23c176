import Mathlib.Logic.Function.Basic

namespace GlesBridge.Systems.Aliases

universe u v

/-! Names of which some are aliases: an alias stands for another name as long as a table
says so, and a name is found by following the table.
-/

variable {Name : Type u} {Alias : Type v}

section

variable (aliasOf : Name → Option Alias) (table : Alias → Option Name)

/-- What a name stands for, if it is an alias in use. -/
def target (name : Name) : Option Name := (aliasOf name).bind table

/-- The table is looked at once. -/
def meaning (name : Name) : Name := (target aliasOf table name).getD name

/-- The table is looked at until a name stands for itself, or `guard` is used up. -/
def follow : Nat → Name → Name
  | 0, name => name
  | guard + 1, name =>
      match target aliasOf table name with
      | none => name
      | some further => follow guard further

/-- No alias stands for another alias. -/
def Settled : Prop :=
  ∀ taken name, table taken = some name → aliasOf name = none ∨ aliasOf name = some taken

end

variable {aliasOf : Name → Option Alias} {table : Alias → Option Name} {name further : Name}
  {taken : Alias} {guard : Nat}

theorem target_eq_some_iff :
    target aliasOf table name = some further ↔
      ∃ taken, aliasOf name = some taken ∧ table taken = some further :=
  Option.bind_eq_some_iff

theorem target_of_alias (named : aliasOf name = some taken) :
    target aliasOf table name = table taken := by
  rw [target, named]
  rfl

theorem target_of_none (plain : aliasOf name = none) : target aliasOf table name = none := by
  rw [target, plain]
  rfl

theorem follow_of_target_none (ends : target aliasOf table name = none) :
    follow aliasOf table guard name = name := by
  cases guard with
  | zero => rfl
  | succ guard => rw [follow, ends]

/-- A loop at one name is left with that name. -/
theorem follow_of_target_self (loops : target aliasOf table name = some name) :
    follow aliasOf table guard name = name := by
  induction guard with
  | zero => rfl
  | succ guard ih =>
      rw [follow, loops]
      exact ih

/-- What an alias stands for stands for nothing else. -/
theorem Settled.target_further (settled : Settled aliasOf table)
    (stands : target aliasOf table name = some further) :
    target aliasOf table further = none ∨ target aliasOf table further = some further := by
  obtain ⟨taken, -, entry⟩ := target_eq_some_iff.mp stands
  rcases settled taken further entry with plain | own
  · exact .inl (target_of_none plain)
  · exact .inr ((target_of_alias own).trans entry)

theorem Settled.follow_eq_meaning (settled : Settled aliasOf table) :
    follow aliasOf table (guard + 1) name = meaning aliasOf table name := by
  cases stands : target aliasOf table name with
  | none => rw [follow_of_target_none stands, meaning, stands, Option.getD_none]
  | some further =>
      rw [follow, meaning, stands, Option.getD_some]
      rcases settled.target_further stands with ends | loops
      · exact follow_of_target_none ends
      · exact follow_of_target_self loops

/-- To follow the table again changes nothing. -/
theorem Settled.meaning_meaning (settled : Settled aliasOf table) :
    meaning aliasOf table (meaning aliasOf table name) = meaning aliasOf table name := by
  cases stands : target aliasOf table name with
  | none =>
      have same : meaning aliasOf table name = name := by rw [meaning, stands, Option.getD_none]
      rw [same, same]
  | some further =>
      have first : meaning aliasOf table name = further := by
        rw [meaning, stands, Option.getD_some]
      rw [first]
      rcases settled.target_further stands with ends | loops
      · rw [meaning, ends, Option.getD_none]
      · rw [meaning, loops, Option.getD_some]

section

variable (injective : ∀ {first second : Name} {taken : Alias},
  aliasOf first = some taken → aliasOf second = some taken → first = second)

include injective

/-- The search ends with a name that is no alias, or where it began. -/
theorem Settled.final (settled : Settled aliasOf table) :
    aliasOf (meaning aliasOf table name) = none ∨ meaning aliasOf table name = name := by
  cases stands : target aliasOf table name with
  | none => exact .inr (by rw [meaning, stands, Option.getD_none])
  | some further =>
      obtain ⟨taken, named, entry⟩ := target_eq_some_iff.mp stands
      rw [meaning, stands, Option.getD_some]
      exact (settled taken further entry).imp_right fun own => injective own named

end

/-! ## Changes of one alias -/

variable [DecidableEq Alias]

theorem meaning_update_of_ne {value : Option Name} (other : aliasOf name ≠ some taken) :
    meaning aliasOf (Function.update table taken value) name = meaning aliasOf table name := by
  cases named : aliasOf name with
  | none => rw [meaning, meaning, target_of_none named, target_of_none named]
  | some used =>
      have apart : used ≠ taken := fun same => other (named.trans (congrArg some same))
      rw [meaning, meaning, target_of_alias named, target_of_alias named,
        Function.update_of_ne apart]

theorem meaning_update_self {value : Name} (named : aliasOf name = some taken) :
    meaning aliasOf (Function.update table taken (some value)) name = value := by
  rw [meaning, target_of_alias named, Function.update_self, Option.getD_some]

theorem Settled.remove (settled : Settled aliasOf table) :
    Settled aliasOf (Function.update table taken none) := by
  intro used name entry
  by_cases same : used = taken
  · rw [same, Function.update_self] at entry
    cases entry
  · rw [Function.update_of_ne same] at entry
    exact settled used name entry

/-- A new alias may stand for what is no alias, and for itself. -/
theorem Settled.enter (settled : Settled aliasOf table)
    (fits : aliasOf further = none ∨ aliasOf further = some taken) :
    Settled aliasOf (Function.update table taken (some further)) := by
  intro used name entry
  by_cases same : used = taken
  · rw [same, Function.update_self] at entry
    cases entry
    rwa [same]
  · rw [Function.update_of_ne same] at entry
    exact settled used name entry

end GlesBridge.Systems.Aliases
