import Mathlib.Data.List.Basic
import Mathlib.Logic.Function.Basic

namespace GlesBridge.Systems

universe u v w

/-! Readers of a memory that others write: one word is read at a time, and what is
read next depends on the words so far.
-/

inductive Reading (Address : Type u) (Word : Type v) (Value : Type w) where
  | done (value : Value)
  | read (address : Address) (next : Word → Reading Address Word Value)

namespace Reading

variable {Address : Type u} {Word : Type v} {Value Other : Type w}

/-- What is read while nobody writes. -/
def eval (memory : Address → Word) : Reading Address Word Value → Value
  | done value => value
  | read address next => (next (memory address)).eval memory

/-- The words that are read then. -/
def touched (memory : Address → Word) : Reading Address Word Value → List Address
  | done _ => []
  | read address next => address :: (next (memory address)).touched memory

def bind : Reading Address Word Value → (Value → Reading Address Word Other) →
    Reading Address Word Other
  | done value, next => next value
  | read address more, next => read address fun word => (more word).bind next

/-- One word is read. -/
def advance (memory : Address → Word) : Reading Address Word Value → Reading Address Word Value
  | done value => done value
  | read address next => next (memory address)

/-- Two words at a time, `count` times. -/
def pairs (address : Nat → Address) : (index count : Nat) → Reading Address Word (List (Word × Word))
  | _, 0 => done []
  | index, count + 1 =>
      read (address index) fun first => read (address (index + 1)) fun second =>
        (pairs address (index + 2) count).bind fun rest => done ((first, second) :: rest)

/-- A sequence of words. -/
def sequence (address : Nat → Address) : (index count : Nat) → Reading Address Word (List Word)
  | _, 0 => done []
  | index, count + 1 =>
      read (address index) fun first =>
        (sequence address (index + 1) count).bind fun rest => done (first :: rest)

variable {memory written : Address → Word} {reading : Reading Address Word Value}
  {next : Value → Reading Address Word Other} {address : Nat → Address} {index count : Nat}

@[simp] theorem eval_done {value : Value} :
    (done value : Reading Address Word Value).eval memory = value := rfl

@[simp] theorem eval_bind : (reading.bind next).eval memory = (next (reading.eval memory)).eval memory := by
  induction reading with
  | done value => rfl
  | read address more ih => exact ih (memory address)

theorem touched_bind : (reading.bind next).touched memory =
    reading.touched memory ++ (next (reading.eval memory)).touched memory := by
  induction reading with
  | done value => rfl
  | read address more ih => exact congrArg (address :: ·) (ih (memory address))

@[simp] theorem eval_advance : (reading.advance memory).eval memory = reading.eval memory := by
  cases reading with
  | done value => rfl
  | read address more => rfl

/-- A change of other words is not noticed. -/
theorem eval_congr (same : ∀ address ∈ reading.touched memory, written address = memory address) :
    reading.eval written = reading.eval memory := by
  induction reading with
  | done value => rfl
  | read address more ih =>
      have first : written address = memory address := same address (.head _)
      change (more (written address)).eval written = (more (memory address)).eval memory
      rw [first]
      exact ih (memory address) fun later member => same later (.tail _ member)

/-! ## Pairs and sequences in the memory -/

/-- The pairs stand from `index` on. -/
def HoldsPairs (memory : Address → Word) (address : Nat → Address) : Nat → List (Word × Word) → Prop
  | _, [] => True
  | index, pair :: rest =>
      memory (address index) = pair.1 ∧ memory (address (index + 1)) = pair.2 ∧
        HoldsPairs memory address (index + 2) rest

/-- The words stand from `index` on. -/
def HoldsWords (memory : Address → Word) (address : Nat → Address) : Nat → List Word → Prop
  | _, [] => True
  | index, word :: rest =>
      memory (address index) = word ∧ HoldsWords memory address (index + 1) rest

theorem holdsPairs_append {listed more : List (Word × Word)} :
    HoldsPairs memory address index (listed ++ more) ↔
      HoldsPairs memory address index listed ∧
        HoldsPairs memory address (index + 2 * listed.length) more := by
  induction listed generalizing index with
  | nil => simp [HoldsPairs]
  | cons pair rest ih =>
      have next : index + 2 * (pair :: rest).length = index + 2 + 2 * rest.length := by
        rw [List.length_cons]
        omega
      rw [List.cons_append, HoldsPairs, HoldsPairs, ih, next, and_assoc, and_assoc]

theorem holdsWords_append {listed more : List Word} :
    HoldsWords memory address index (listed ++ more) ↔
      HoldsWords memory address index listed ∧
        HoldsWords memory address (index + listed.length) more := by
  induction listed generalizing index with
  | nil => simp [HoldsWords]
  | cons word rest ih =>
      have next : index + (word :: rest).length = index + 1 + rest.length := by
        rw [List.length_cons, Nat.add_assoc, Nat.add_comm 1]
      rw [List.cons_append, HoldsWords, HoldsWords, ih, next, and_assoc]

/-- Word by word. -/
theorem holdsWords_iff {listed : List Word} :
    HoldsWords memory address index listed ↔
      ∀ place (below : place < listed.length), memory (address (index + place)) = listed[place] := by
  induction listed generalizing index with
  | nil => simp [HoldsWords]
  | cons word rest ih =>
      rw [HoldsWords, ih]
      constructor
      · rintro ⟨first, more⟩ place below
        cases place with
        | zero => exact first
        | succ place =>
            have spot : index + (place + 1) = index + 1 + place := by omega
            exact (congrArg (fun spot => memory (address spot)) spot).trans
              (more place (Nat.lt_of_succ_lt_succ below))
      · intro all
        refine ⟨all 0 (Nat.zero_lt_succ _), fun place below => ?_⟩
        have spot : index + 1 + place = index + (place + 1) := by omega
        exact (congrArg (fun spot => memory (address spot)) spot).trans
          (all (place + 1) (Nat.succ_lt_succ below))

theorem eval_pairs {listed : List (Word × Word)} (holds : HoldsPairs memory address index listed) :
    (pairs address index listed.length).eval memory = listed := by
  induction listed generalizing index with
  | nil => rfl
  | cons pair rest ih =>
      obtain ⟨first, second, more⟩ := holds
      rw [List.length_cons, pairs, eval, eval, eval_bind, ih more, first, second]
      rfl

theorem eval_sequence {listed : List Word} (holds : HoldsWords memory address index listed) :
    (sequence address index listed.length).eval memory = listed := by
  induction listed generalizing index with
  | nil => rfl
  | cons word rest ih =>
      obtain ⟨first, more⟩ := holds
      rw [List.length_cons, sequence, eval, eval_bind, ih more, first]
      rfl

section Stores

variable [DecidableEq Address]

def storePairs (address : Nat → Address) :
    Nat → List (Word × Word) → (Address → Word) → Address → Word
  | _, [], memory => memory
  | index, pair :: rest, memory =>
      storePairs address (index + 2) rest
        (Function.update (Function.update memory (address index) pair.1) (address (index + 1)) pair.2)

def storeWords (address : Nat → Address) : Nat → List Word → (Address → Word) → Address → Word
  | _, [], memory => memory
  | index, word :: rest, memory =>
      storeWords address (index + 1) rest (Function.update memory (address index) word)

theorem storePairs_of_ne {listed : List (Word × Word)} {spot : Address}
    (apart : ∀ place, index ≤ place → place < index + 2 * listed.length → address place ≠ spot) :
    storePairs address index listed memory spot = memory spot := by
  induction listed generalizing index memory with
  | nil => rfl
  | cons pair rest ih =>
      have size : 2 * (pair :: rest).length = 2 * rest.length + 2 := Nat.mul_succ ..
      have first := apart index (Nat.le_refl _) (by omega)
      have second := apart (index + 1) (by omega) (by omega)
      rw [storePairs, ih fun place above below => apart place (by omega) (by omega),
        Function.update_of_ne second.symm, Function.update_of_ne first.symm]

theorem storeWords_of_ne {listed : List Word} {spot : Address}
    (apart : ∀ place, index ≤ place → place < index + listed.length → address place ≠ spot) :
    storeWords address index listed memory spot = memory spot := by
  induction listed generalizing index memory with
  | nil => rfl
  | cons word rest ih =>
      have size : (word :: rest).length = rest.length + 1 := List.length_cons
      have first := apart index (Nat.le_refl _) (by omega)
      rw [storeWords, ih fun place above below => apart place (by omega) (by omega),
        Function.update_of_ne first.symm]

theorem holdsPairs_storePairs (injective : Function.Injective address)
    {listed : List (Word × Word)} :
    HoldsPairs (storePairs address index listed memory) address index listed := by
  induction listed generalizing index memory with
  | nil => trivial
  | cons pair rest ih =>
      have apart (spot : Nat) (low : spot < index + 2) :
          ∀ place, index + 2 ≤ place → place < index + 2 + 2 * rest.length →
            address place ≠ address spot := fun place above _ same => by
        have equal := injective same
        omega
      have ne : address index ≠ address (index + 1) := fun same =>
        absurd (injective same) (Nat.succ_ne_self index).symm
      refine ⟨?_, ?_, ih⟩
      · rw [storePairs, storePairs_of_ne (apart index (by omega)), Function.update_of_ne ne,
          Function.update_self]
      · rw [storePairs, storePairs_of_ne (apart (index + 1) (by omega)), Function.update_self]

theorem holdsWords_storeWords (injective : Function.Injective address) {listed : List Word} :
    HoldsWords (storeWords address index listed memory) address index listed := by
  induction listed generalizing index memory with
  | nil => trivial
  | cons word rest ih =>
      have apart : ∀ place, index + 1 ≤ place → place < index + 1 + rest.length →
          address place ≠ address index := fun place above _ same => by
        have equal := injective same
        omega
      refine ⟨?_, ih⟩
      rw [storeWords, storeWords_of_ne apart, Function.update_self]

end Stores

/-- Words that are written elsewhere leave the pairs alone. -/
theorem HoldsPairs.congr {listed : List (Word × Word)} (holds : HoldsPairs memory address index listed)
    (same : ∀ place, index ≤ place → place < index + 2 * listed.length →
      written (address place) = memory (address place)) :
    HoldsPairs written address index listed := by
  induction listed generalizing index with
  | nil => trivial
  | cons pair rest ih =>
      have size : 2 * (pair :: rest).length = 2 * rest.length + 2 := Nat.mul_succ ..
      obtain ⟨first, second, more⟩ := holds
      refine ⟨(same index (Nat.le_refl _) (by omega)).trans first,
        (same (index + 1) (by omega) (by omega)).trans second, ih more fun place above below => ?_⟩
      exact same place (by omega) (by omega)

theorem HoldsWords.congr {listed : List Word} (holds : HoldsWords memory address index listed)
    (same : ∀ place, index ≤ place → place < index + listed.length →
      written (address place) = memory (address place)) :
    HoldsWords written address index listed := by
  induction listed generalizing index with
  | nil => trivial
  | cons word rest ih =>
      have size : (word :: rest).length = rest.length + 1 := List.length_cons
      obtain ⟨first, more⟩ := holds
      refine ⟨(same index (Nat.le_refl _) (by omega)).trans first, ih more fun place above below => ?_⟩
      exact same place (by omega) (by omega)

/-! ## Readers that share a memory -/

/-- A reader with what it is to find. -/
structure Reader (Address : Type u) (Word : Type v) (Value : Type w) where
  expects : Value
  rest : Reading Address Word Value

/-- Left alone, it finds that. -/
def Reader.Right (memory : Address → Word) (reader : Reader Address Word Value) : Prop :=
  reader.rest.eval memory = reader.expects

variable {reader : Reader Address Word Value}

theorem Reader.Right.write (right : reader.Right memory)
    (same : ∀ address ∈ reader.rest.touched memory, written address = memory address) :
    reader.Right written :=
  (eval_congr same).trans right

theorem Reader.Right.advance (right : reader.Right memory) :
    Reader.Right memory { reader with rest := reader.rest.advance memory } :=
  eval_advance.trans right

end Reading

end GlesBridge.Systems
