import GlesBridge.Shared.Log

namespace GlesBridge.Logging

open GlesBridge.Shared

/-! The buffers of the log helpers. -/

/-- The bytes of the text that the call has put into the buffer. -/
def stored (print : Print) : Int :=
  match print.text with
  | none => 0
  | some text => (text.1.take (print.size - 1).toNat).length

/-- Every call of `snprintf` gets a place in the buffer with the room that is left there,
and returns a length that fits; what is copied and written is what has been stored. -/
structure Sound (line : LogLine) : Prop where
  inside : ∀ print ∈ line.prints, 0 ≤ print.offset ∧ print.offset ≤ logBufSize
  size : ∀ print ∈ line.prints, print.size = logBufSize - print.offset
  fits : ∀ print ∈ line.prints, returned print.text < print.size
  used : ∀ print, line.prints.getLast? = some print → line.copyLen = print.offset + stored print
  source : line.copyLen ≤ logBufSize
  out : line.copyTo + line.copyLen ≤ logOutSize
  count : line.count = line.copyTo + line.copyLen

/-- With the newline there are at most 4095 bytes; a failure takes one byte back. -/
structure Fits (head : List UInt8) (fmt : Formatted) : Prop where
  failed : fmt = none → head.length ≤ 4095
  whole : ∀ text, fmt = some text → head.length + text.1.length ≤ 4094

section

variable {process : Process} {number : Int} {text head : List UInt8} {fmt : Formatted}
  {counter : UInt64} {stale : Int → UInt8} {log : LogBuf}

theorem bufSize_eq : logBufSize = 4096 := rfl

theorem outSize_eq : logOutSize = 4200 := rfl

/-! ## Lengths -/

theorem toSize_small (natural : 0 ≤ number) (small : number ≤ logOutSize) :
    process.toSize number = number := by
  have bound := outSize_eq
  apply Int.emod_eq_of_lt natural
  cases process <;> simp only [Process.sizeModulus, Process.longMax] <;> omega

theorem formatted_fits (fits : text.length ≤ intMax) : formatted text = some ⟨text, fits⟩ :=
  dif_pos fits

theorem returned_formatted (fits : text.length ≤ intMax) :
    returned (formatted text) = text.length := by
  rw [formatted_fits fits]
  rfl

theorem newline_fits : [newline].length ≤ intMax := by decide

theorem returned_newline : returned (formatted [newline]) = 1 := returned_formatted newline_fits

theorem length_counterText : (counterText counter).length ≤ 21 := by
  have digits : (Nat.digits 10 counter.toNat).length ≤ 20 :=
    (Nat.digits_length_le_iff (by omega) _).mpr (Nat.lt_of_lt_of_le counter.toNat_lt (by decide))
  unfold counterText
  rw [List.length_append, List.length_leftpad, List.length_reverse, List.length_map,
    List.length_singleton]
  omega

/-! ## The calls -/

@[simp] theorem print_n : (log.print process fmt).n = log.n + returned fmt := rfl

@[simp] theorem print_prints : (log.print process fmt).prints =
    log.prints ++ [⟨log.n, process.toSize (logBufSize - log.n), fmt⟩] := rfl

/-- There is always room for the counter. -/
theorem atomicWriteLine_eq : atomicWriteLine process counter log =
    { prints := log.prints
      copyTo := (counterText counter).length
      copyLen := process.toSize log.n
      count := process.toSize ((counterText counter).length + process.toSize log.n)
      bytes := counterText counter ++
        (List.range (process.toSize log.n).toNat).map fun place : Nat => log.buf place } := by
  have short : (counterText counter).length ≤ 21 := length_counterText
  have room : ((counterText counter).length : Int) < logOutSize := by
    rw [outSize_eq]
    omega
  unfold atomicWriteLine
  simp only [if_pos room]

/-- The buffer after the three calls. -/
def printed (process : Process) (head : List UInt8) (fmt : Formatted) (stale : Int → UInt8) : LogBuf :=
  ((LogBuf.print process ⟨0, stale, []⟩ (formatted head)).print process fmt).print process
    (formatted [newline])

theorem writeLine_eq : writeLine process head fmt counter stale =
    atomicWriteLine process counter (printed process head fmt stale) := rfl

theorem printed_n :
    (printed process head fmt stale).n = returned (formatted head) + returned fmt + 1 := by
  rw [printed, print_n, print_n, print_n, returned_newline]
  exact congrArg (· + returned fmt + 1) (Int.zero_add _)

theorem printed_prints : (printed process head fmt stale).prints =
    [⟨0, process.toSize logBufSize, formatted head⟩,
      ⟨returned (formatted head), process.toSize (logBufSize - returned (formatted head)), fmt⟩,
      ⟨returned (formatted head) + returned fmt,
        process.toSize (logBufSize - (returned (formatted head) + returned fmt)),
        formatted [newline]⟩] := by
  simp only [printed, print_prints, print_n, Int.zero_add, Int.sub_zero, List.nil_append,
    List.cons_append]

theorem forall_prints {holds : Print → Prop} :
    (∀ print ∈ (printed process head fmt stale).prints, holds print) ↔
      holds ⟨0, process.toSize logBufSize, formatted head⟩ ∧
      holds ⟨returned (formatted head), process.toSize (logBufSize - returned (formatted head)), fmt⟩ ∧
      holds ⟨returned (formatted head) + returned fmt,
        process.toSize (logBufSize - (returned (formatted head) + returned fmt)),
        formatted [newline]⟩ := by
  rw [printed_prints, List.forall_mem_cons, List.forall_mem_cons, List.forall_mem_singleton]

theorem fits_of_sound (sound : Sound (writeLine process head fmt counter stale)) : Fits head fmt := by
  have room := bufSize_eq
  rw [writeLine_eq, atomicWriteLine_eq] at sound
  have inside := sound.inside
  have fits := sound.fits
  have size := sound.size
  simp only [forall_prints] at inside fits size
  obtain ⟨-, second, -⟩ := inside
  obtain ⟨-, -, third⟩ := fits
  obtain ⟨-, -, left⟩ := size
  rw [returned_newline] at third
  by_cases short : head.length ≤ intMax
  · rw [returned_formatted short] at second third left
    constructor
    · rintro rfl
      have failed : returned none = -1 := rfl
      rw [failed] at third left
      omega
    · rintro text rfl
      have whole : returned (some text) = text.1.length := rfl
      rw [whole] at third left
      omega
  · have failed : returned (formatted head) = -1 := by
      rw [formatted, dif_neg short]
      rfl
    rw [failed] at second
    omega

/-- What the condition means for the numbers that the calls return. -/
theorem Fits.bounds (begun : head ≠ []) (fits : Fits head fmt) :
    head.length ≤ intMax ∧ (head.length : Int) < logBufSize ∧ 0 ≤ head.length + returned fmt ∧
      returned fmt < logBufSize - head.length ∧ head.length + returned fmt + 1 < logBufSize := by
  have room := bufSize_eq
  have large : intMax = 0x7FFFFFFF := rfl
  have positive : 0 < head.length := List.length_pos_iff.mpr begun
  cases fmt with
  | none =>
      have failed : returned none = -1 := rfl
      have short := fits.failed rfl
      rw [failed]
      omega
  | some text =>
      have whole : returned (some text) = text.1.length := rfl
      have short := fits.whole text rfl
      rw [whole]
      omega

theorem sound_of_fits (begun : head ≠ []) (fits : Fits head fmt) :
    Sound (writeLine process head fmt counter stale) := by
  obtain ⟨short, start, natural, middle, whole⟩ := fits.bounds begun
  have room := bufSize_eq
  have outRoom := outSize_eq
  have counted : (counterText counter).length ≤ 21 := length_counterText
  have first : process.toSize logBufSize = logBufSize := toSize_small (by omega) (by omega)
  have second : process.toSize (logBufSize - head.length) = logBufSize - head.length :=
    toSize_small (by omega) (by omega)
  have third : process.toSize (logBufSize - (head.length + returned fmt)) =
      logBufSize - (head.length + returned fmt) := toSize_small (by omega) (by omega)
  have len : process.toSize (head.length + returned fmt + 1) = head.length + returned fmt + 1 :=
    toSize_small (by omega) (by omega)
  have count : process.toSize ((counterText counter).length + (head.length + returned fmt + 1)) =
      (counterText counter).length + (head.length + returned fmt + 1) :=
    toSize_small (by omega) (by omega)
  rw [writeLine_eq, atomicWriteLine_eq]
  constructor
  · simp only [forall_prints, returned_formatted short]
    omega
  · simp only [forall_prints, returned_formatted short, first, second, third, Int.sub_zero, and_self]
  · simp only [forall_prints, returned_formatted short, returned_newline, first, second, third]
    omega
  · intro print last
    rw [printed_prints, returned_formatted short, third] at last
    obtain rfl : ⟨_, _, formatted [newline]⟩ = print := Option.some.inj last
    have one : ([newline].take (logBufSize - (head.length + returned fmt) - 1).toNat).length = 1 := by
      rw [List.length_take, List.length_singleton]
      omega
    simp only [printed_n, returned_formatted short, len, stored, formatted_fits newline_fits, one]
    omega
  · simp only [printed_n, returned_formatted short, len]
    omega
  · simp only [printed_n, returned_formatted short, len]
    omega
  · simp only [printed_n, returned_formatted short, len, count]

theorem log_loud {debug : Bool} {helper : LogHelper} (loud : helper.silent debug = false) :
    helper.log process debug fmt counter stale =
      some (writeLine process helper.head fmt counter stale) := by
  rw [LogHelper.log, if_neg (by rw [loud]; exact Bool.false_ne_true)]

theorem log_silent {debug : Bool} {helper : LogHelper} (quiet : helper.silent debug = true) :
    helper.log process debug fmt counter stale = none := if_pos quiet

theorem head_ne_nil (helper : LogHelper) : helper.head ≠ [] := by
  cases helper with
  | logError => decide
  | logConsoleImpl start => exact List.append_ne_nil_of_right_ne_nil _ (List.cons_ne_nil _ _)
  | logConsoleAlwaysImpl start => exact List.append_ne_nil_of_right_ne_nil _ (List.cons_ne_nil _ _)

theorem longText_unfit (fits : text.length ≤ intMax) (long : 4094 < text.length) :
    ¬ Fits head (formatted text) := by
  intro whole
  have bound := whole.whole ⟨text, fits⟩ (formatted_fits fits)
  simp only at bound
  omega

/-! ## What comes out -/

/-- The buffer starts with the text, and `n` is its length. -/
structure Holds (log : LogBuf) (text : List UInt8) : Prop where
  length : log.n = text.length
  bytes : ∀ place < text.length, log.buf place = text[place]?.getD 0

theorem Holds.print {added : List UInt8} (holds : Holds log text)
    (fits : (text ++ added).length < 4096) :
    Holds (log.print process (formatted added)) (text ++ added) := by
  have room := bufSize_eq
  have outRoom := outSize_eq
  have large : intMax = 0x7FFFFFFF := rfl
  have place := holds.length
  rw [List.length_append] at fits
  have small : added.length ≤ intMax := by omega
  have size : process.toSize (logBufSize - log.n) = logBufSize - log.n :=
    toSize_small (by omega) (by omega)
  have whole : added.take (logBufSize - log.n - 1).toNat = added :=
    List.take_of_length_le (by omega)
  constructor
  · rw [print_n, returned_formatted small, place, List.length_append, Int.natCast_add]
  · intro index below
    rw [List.length_append] at below
    simp only [LogBuf.print, Print.store, formatted_fits small, size, whole]
    by_cases before : index < text.length
    · rw [if_pos (by omega), holds.bytes index before, List.getElem?_append_left before]
    · have inside : ((index : Int) - log.n).toNat = index - text.length := by omega
      rw [if_neg (by omega), inside, List.getElem?_append_right (Nat.le_of_not_lt before)]

theorem Holds.range (holds : Holds log text) :
    (List.range text.length).map (fun place : Nat => log.buf place) = text := by
  apply List.ext_getElem
  · rw [List.length_map, List.length_range]
  · intro index mapped inside
    rw [List.getElem_map, List.getElem_range, holds.bytes index inside,
      List.getElem?_eq_getElem inside, Option.getD_some]

/-- A line that fits is written whole, behind its number. -/
theorem bytes_writeLine {added : { text : List UInt8 // text.length ≤ intMax }}
    (fits : Fits head (some added)) :
    (writeLine process head (some added) counter stale).bytes =
      counterText counter ++ (head ++ added.1 ++ [newline]) := by
  have whole := fits.whole added rfl
  have given : some added = formatted added.1 := (formatted_fits added.2).symm
  have empty : Holds ⟨0, stale, []⟩ [] := ⟨rfl, fun _ below => absurd below (Nat.not_lt_zero _)⟩
  have holds : Holds (printed process head (some added) stale) (head ++ added.1 ++ [newline]) := by
    rw [printed, given]
    apply Holds.print
    · apply Holds.print
      · apply empty.print
        rw [List.nil_append]
        omega
      · rw [List.length_append]
        omega
    · rw [List.length_append, List.length_append, List.length_singleton]
      omega
  have length : (head ++ added.1 ++ [newline]).length < 4096 := by
    rw [List.length_append, List.length_append, List.length_singleton]
    omega
  have len : process.toSize (printed process head (some added) stale).n =
      (head ++ added.1 ++ [newline]).length := by
    rw [holds.length]
    exact toSize_small (by omega) (by rw [outSize_eq]; omega)
  rw [writeLine_eq, atomicWriteLine_eq]
  simp only [len, Int.toNat_natCast, holds.range]

end

/-- The helpers keep to their buffers exactly with the lines that fit. -/
theorem log_sound_iff (process : Process) (debug : Bool) (helper : LogHelper) (fmt : Formatted)
    (counter : UInt64) (stale : Int → UInt8) :
    (∀ line, helper.log process debug fmt counter stale = some line → Sound line) ↔
      (helper.silent debug = false → Fits helper.head fmt) := by
  cases quiet : helper.silent debug with
  | true =>
      rw [log_silent quiet]
      constructor
      · intro _ loud
        cases loud
      · intro _ line logged
        cases logged
  | false =>
      rw [log_loud quiet]
      constructor
      · intro sound _
        exact fits_of_sound (sound _ rfl)
      · intro fits line logged
        rw [← Option.some.inj logged]
        exact sound_of_fits (head_ne_nil helper) (fits rfl)

/-- A text of 5000 bytes, such as a shader's log, leads over the end of the buffer. -/
theorem longText_overruns : ¬ ∀ (process : Process) (debug : Bool) (helper : LogHelper)
    (fmt : Formatted) (counter : UInt64) (stale : Int → UInt8) (line : LogLine),
      helper.log process debug fmt counter stale = some line → Sound line := by
  intro sound
  have length : (List.replicate 5000 (0x78 : UInt8)).length = 5000 := List.length_replicate
  have fits : (List.replicate 5000 (0x78 : UInt8)).length ≤ intMax := by
    rw [length]
    exact Nat.le_of_ble_eq_true rfl
  have logged := sound .proxy false .logError (formatted (List.replicate 5000 0x78)) 1 (fun _ => 0) _
    (log_loud rfl)
  exact longText_unfit fits (by rw [length]; omega) (fits_of_sound logged)

end GlesBridge.Logging
