import GlesBridge.Shared.Config

namespace GlesBridge.Config

open GlesBridge.Shared

/-! The lines of `bridge.conf`, and what is left of them where they are read piece by
piece. -/

def lines (file : List UInt8) : List (List UInt8) := file.splitOn newline

def comment (line : List UInt8) : Bool := (line.dropWhile isspace).head? == some hashSign

/-- Blank lines have no equals sign. -/
def keyValue (line : List UInt8) : Bool := line.contains equalsSign && !comment line

/-- No piece of the line, read alone, is a setting. -/
def Harmless (process : Process) (line : List UInt8) : Prop :=
  ∀ index, setting process.toLong ((line.drop (255 * index)).take 255) = none

/-! ## Pieces -/

section

variable {room fuel : Nat} {byte : UInt8} {line rest file : List UInt8} {long : Int → Int}
  {config other : BridgeConfig}

/-- A line without its newline is read as far as there is room. -/
theorem fgets_plain (plain : newline ∉ line) :
    fgets room line = (line.take room, line.drop room) := by
  induction line generalizing room with
  | nil => cases room <;> rfl
  | cons byte line ih =>
      cases room with
      | zero => rfl
      | succ room =>
          have different : byte ≠ newline := fun same => plain (same ▸ List.mem_cons_self)
          have behind : newline ∉ line := fun inside => plain (List.mem_cons_of_mem _ inside)
          rw [fgets, if_neg different, ih behind]
          rfl

theorem fgets_long (plain : newline ∉ line) (long : room ≤ line.length) :
    fgets room (line ++ rest) = (line.take room, line.drop room ++ rest) := by
  induction line generalizing room with
  | nil =>
      obtain rfl : room = 0 := Nat.le_zero.mp long
      cases rest <;> rfl
  | cons byte line ih =>
      cases room with
      | zero => rfl
      | succ room =>
          have different : byte ≠ newline := fun same => plain (same ▸ List.mem_cons_self)
          have behind : newline ∉ line := fun inside => plain (List.mem_cons_of_mem _ inside)
          rw [List.cons_append, fgets, if_neg different, ih behind (Nat.le_of_succ_le_succ long)]
          rfl

/-- The newline is read with the end of its line. -/
theorem fgets_short (plain : newline ∉ line) (short : line.length < room) :
    fgets room (line ++ newline :: rest) = (line ++ [newline], rest) := by
  induction line generalizing room with
  | nil =>
      cases room with
      | zero => exact absurd short (Nat.not_lt_zero _)
      | succ room => exact if_pos rfl
  | cons byte line ih =>
      cases room with
      | zero => exact absurd short (Nat.not_lt_zero _)
      | succ room =>
          have different : byte ≠ newline := fun same => plain (same ▸ List.mem_cons_self)
          have behind : newline ∉ line := fun inside => plain (List.mem_cons_of_mem _ inside)
          rw [List.cons_append, fgets, if_neg different, ih behind (Nat.lt_of_succ_lt_succ short)]
          rfl

theorem length_fgets : (fgets room file).2.length ≤ file.length := by
  induction file generalizing room with
  | nil => cases room <;> exact le_refl _
  | cons byte file ih =>
      cases room with
      | zero => exact le_refl _
      | succ room =>
          rw [fgets]
          by_cases ends : byte = newline
          · rw [if_pos ends]
            exact Nat.le_succ _
          · rw [if_neg ends]
            exact Nat.le_succ_of_le ih

/-- `fgets` takes a byte where there is one. -/
theorem length_fgets_cons : (fgets (room + 1) (byte :: file)).2.length ≤ file.length := by
  rw [fgets]
  by_cases ends : byte = newline
  · rw [if_pos ends]
  · rw [if_neg ends]
    exact length_fgets

/-! ## The loop -/

theorem readLines_cons :
    readLines long (fuel + 1) config (byte :: file) =
      readLines long fuel (parseLine long config (fgets 255 (byte :: file)).1)
        (fgets 255 (byte :: file)).2 := by
  rw [readLines, fgets]
  by_cases ends : byte = newline
  · rw [if_pos ends]
  · rw [if_neg ends]

/-- The result does not depend on the fuel. -/
theorem readLines_eq {more : Nat} (enough : file.length < fuel) (also : file.length < more) :
    readLines long fuel config file = readLines long more config file := by
  induction fuel generalizing config file more with
  | zero => exact absurd enough (Nat.not_lt_zero _)
  | succ fuel ih =>
      cases more with
      | zero => exact absurd also (Nat.not_lt_zero _)
      | succ more =>
          cases file with
          | nil => rfl
          | cons byte file =>
              have shorter : (fgets 255 (byte :: file)).2.length ≤ file.length := length_fgets_cons
              rw [readLines_cons, readLines_cons]
              apply ih
              · exact Nat.lt_of_le_of_lt shorter (Nat.lt_of_succ_lt_succ enough)
              · exact Nat.lt_of_le_of_lt shorter (Nat.lt_of_succ_lt_succ also)

/-- The loop to its end. -/
def readFile (long : Int → Int) (config : BridgeConfig) (file : List UInt8) : BridgeConfig :=
  readLines long (file.length + 1) config file

@[simp] theorem readFile_nil : readFile long config [] = config := rfl

theorem readFile_step (more : file ≠ []) :
    readFile long config file =
      readFile long (parseLine long config (fgets 255 file).1) (fgets 255 file).2 := by
  cases file with
  | nil => exact absurd rfl more
  | cons byte file =>
      have shorter : (fgets 255 (byte :: file)).2.length ≤ file.length := length_fgets_cons
      rw [readFile, readLines_cons]
      exact readLines_eq (Nat.lt_succ_of_le shorter) (Nat.lt_succ_self _)

/-- A line alone is read in pieces of 255 bytes. -/
theorem readFile_piece (plain : newline ∉ line) :
    readFile long config line =
      readFile long (parseLine long config (line.take 255)) (line.drop 255) := by
  cases line with
  | nil => rfl
  | cons byte line =>
      rw [readFile_step (List.cons_ne_nil _ _), fgets_plain plain]

/-! ## Newlines -/

/-- A string goes on with the newline, unless it has ended before. -/
theorem takeWhile_newline :
    (line ++ [newline]).takeWhile (· != 0) = line.takeWhile (· != 0) ++ [newline] ∨
      (line ++ [newline]).takeWhile (· != 0) = line.takeWhile (· != 0) := by
  induction line with
  | nil => exact .inl rfl
  | cons byte line ih =>
      by_cases zero : (byte != 0) = true
      · rw [List.cons_append, List.takeWhile_cons, List.takeWhile_cons, if_pos zero, if_pos zero]
        rcases ih with longer | same
        · exact .inl (congrArg (byte :: ·) longer)
        · exact .inr (congrArg (byte :: ·) same)
      · rw [List.cons_append, List.takeWhile_cons, List.takeWhile_cons, if_neg zero, if_neg zero]
        exact .inr rfl

theorem dropWhile_newline :
    (line ++ [newline]).dropWhile isspace = [] ∧ line.dropWhile isspace = [] ∨
      line.dropWhile isspace ≠ [] ∧
        (line ++ [newline]).dropWhile isspace = line.dropWhile isspace ++ [newline] := by
  rw [List.dropWhile_append]
  by_cases blank : (line.dropWhile isspace).isEmpty = true
  · rw [if_pos blank]
    exact .inl ⟨rfl, List.isEmpty_iff.mp blank⟩
  · rw [if_neg blank]
    exact .inr ⟨fun none => blank (List.isEmpty_iff.mpr none), rfl⟩

theorem scanDigits_newline : scanDigits (line ++ [newline]) = scanDigits line := by
  have same : (line ++ [newline]).takeWhile isdigit = line.takeWhile isdigit := by
    induction line with
    | nil => rfl
    | cons byte line ih =>
        by_cases digit : isdigit byte = true
        · rw [List.cons_append, List.takeWhile_cons_of_pos digit,
            List.takeWhile_cons_of_pos digit, ih]
        · rw [List.cons_append, List.takeWhile_cons_of_neg digit,
            List.takeWhile_cons_of_neg digit]
  rw [scanDigits, scanDigits, same]

theorem scanNumber_newline : scanNumber (line ++ [newline]) = scanNumber line := by
  unfold scanNumber
  rcases @dropWhile_newline line with ⟨longer, blank⟩ | ⟨present, longer⟩
  · rw [longer, blank]
  · rw [longer]
    cases digits : line.dropWhile isspace with
    | nil => exact absurd digits present
    | cons sign digits =>
        rw [List.cons_append]
        split
        · rename_i same
          cases same
          simp only [scanDigits_newline]
        · rename_i same
          cases same
          simp only [scanDigits_newline]
        · rename_i minus plus
          split
          · rename_i same
            cases same
            exact absurd rfl (minus _)
          · rename_i same
            cases same
            exact absurd rfl (plus _)
          · rw [← List.cons_append, scanDigits_newline]

theorem matchKey_newline :
    matchKey room (line ++ [newline]) =
      (matchKey room line).map fun (key, value) => (key, value ++ [newline]) := by
  induction line generalizing room with
  | nil =>
      cases room with
      | zero => rfl
      | succ room => cases room <;> rfl
  | cons byte line ih =>
      by_cases ends : byte = equalsSign
      · cases room with
        | zero =>
            rw [List.cons_append, matchKey, matchKey, if_pos ends, if_pos ends, Option.map_some]
        | succ room =>
            rw [List.cons_append, matchKey, matchKey, if_pos ends, if_pos ends, Option.map_some]
      · cases room with
        | zero =>
            rw [List.cons_append, matchKey, matchKey, if_neg ends, if_neg ends, Option.map_none]
        | succ room =>
            rw [List.cons_append, matchKey, matchKey, if_neg ends, if_neg ends, ih, Option.map_map,
              Option.map_map]
            rfl

theorem scanKeyValue_newline : scanKeyValue (line ++ [newline]) = scanKeyValue line := by
  unfold scanKeyValue
  rw [matchKey_newline]
  cases found : matchKey 63 line with
  | none => rfl
  | some both =>
      obtain ⟨key, value⟩ := both
      cases key with
      | nil => rfl
      | cons byte key => simp only [Option.map_some, scanNumber_newline]

/-- The newline at the end of a piece changes nothing. -/
theorem parseLine_newline :
    parseLine long config (line ++ [newline]) = parseLine long config line := by
  have same : setting long (line ++ [newline]) = setting long line := by
    unfold setting
    rcases @takeWhile_newline line with longer | same
    · rw [longer]
      rcases @dropWhile_newline (line.takeWhile (· != 0)) with ⟨blank, also⟩ | ⟨present, longer⟩
      · rw [blank, also]
      · rw [longer]
        cases shown : (line.takeWhile (· != 0)).dropWhile isspace with
        | nil => exact absurd shown present
        | cons first text =>
            simp only [List.cons_append, List.head?_cons]
            rw [← List.cons_append, scanKeyValue_newline]
            rfl
    · rw [same]
  rw [parseLine, parseLine, same]

/-! ## Lines -/

/-- A line of a file is read as if it were alone. -/
theorem readFile_line (plain : newline ∉ line) :
    readFile long config (line ++ newline :: rest) =
      readFile long (readFile long config line) rest := by
  induction size : line.length using Nat.strong_induction_on generalizing line config with
  | _ amount ih =>
      have more : line ++ newline :: rest ≠ [] :=
        List.append_ne_nil_of_right_ne_nil _ (List.cons_ne_nil _ _)
      rw [readFile_step more, readFile_piece plain]
      by_cases short : line.length < 255
      · rw [fgets_short plain short, parseLine_newline, List.take_of_length_le short.le,
          List.drop_of_length_le short.le, readFile_nil]
      · have long : 255 ≤ line.length := Nat.le_of_not_lt short
        have behind : newline ∉ line.drop 255 := fun inside => plain (List.mem_of_mem_drop inside)
        have shorter : (line.drop 255).length < amount := by
          rw [List.length_drop]
          omega
        rw [fgets_long plain long]
        exact ih _ shorter behind rfl

theorem lines_plain (plain : newline ∉ line) : lines line = [line] :=
  List.splitOnP_eq_singleton fun byte inside =>
    beq_false_of_ne fun same : byte = newline => plain (same ▸ inside)

theorem lines_cons (plain : newline ∉ line) :
    lines (line ++ newline :: rest) = line :: lines rest :=
  List.splitOnP_append_cons_of_forall_mem
    (fun byte inside => beq_false_of_ne fun same : byte = newline => plain (same ▸ inside)) newline
    (beq_self_eq_true newline) rest

/-- A file is one line without a newline, or starts with a line. -/
theorem lines_induction {motive : List UInt8 → Prop}
    (last : ∀ line, newline ∉ line → motive line)
    (first : ∀ line rest, newline ∉ line → motive rest → motive (line ++ newline :: rest))
    (file : List UInt8) : motive file := by
  induction size : file.length using Nat.strong_induction_on generalizing file with
  | _ amount ih =>
      by_cases ends : newline ∈ file
      · obtain ⟨line, rest, whole, plain⟩ := List.eq_append_cons_of_mem ends
        have shorter : rest.length < amount := by
          rw [← size, whole, List.length_append, List.length_cons]
          omega
        rw [whole]
        exact first line rest plain (ih _ shorter rest rfl)
      · exact last file ends

theorem plain_of_mem_lines (among : line ∈ lines file) : newline ∉ line := by
  induction file using lines_induction with
  | last file plain =>
      rw [lines_plain plain, List.mem_singleton] at among
      rwa [among]
  | first head rest plain ih =>
      rw [lines_cons plain, List.mem_cons] at among
      rcases among with rfl | behind
      · exact plain
      · exact ih behind

/-- The lines of a file follow each other. -/
theorem readFile_eq : readFile long config file = (lines file).foldl (readFile long) config := by
  induction file using lines_induction generalizing config with
  | last file plain => rw [lines_plain plain, List.foldl_cons, List.foldl_nil]
  | first head rest plain ih => rw [readFile_line plain, lines_cons plain, List.foldl_cons, ih]

/-! ## Lines that say nothing -/

theorem setting_nil : setting long [] = none := rfl

theorem readFile_harmless {process : Process} (plain : newline ∉ line)
    (harmless : Harmless process line) : readFile process.toLong config line = config := by
  induction size : line.length using Nat.strong_induction_on generalizing line with
  | _ amount ih =>
      cases line with
      | nil => rfl
      | cons byte line =>
          have first : setting process.toLong ((byte :: line).take 255) = none := harmless 0
          have behind : newline ∉ (byte :: line).drop 255 := fun inside =>
            plain (List.mem_of_mem_drop inside)
          have shorter : ((byte :: line).drop 255).length < amount := by
            rw [List.length_drop, size]
            rw [List.length_cons] at size
            omega
          have others : Harmless process ((byte :: line).drop 255) := by
            intro index
            rw [List.drop_drop, Nat.add_comm, ← Nat.mul_succ]
            exact harmless (index + 1)
          rw [readFile_piece plain, parseLine, first]
          exact ih _ shorter behind others rfl

/-- What has no equals sign says nothing. -/
theorem setting_of_no_equals (absent : equalsSign ∉ line) : setting long line = none := by
  have unmatched (room : Nat) (text : List UInt8) (absent : equalsSign ∉ text) :
      matchKey room text = none := by
    induction text generalizing room with
    | nil => cases room <;> rfl
    | cons byte text ih =>
        have different : byte ≠ equalsSign := fun same => absent (same ▸ List.mem_cons_self)
        have behind : equalsSign ∉ text := fun inside => absent (List.mem_cons_of_mem _ inside)
        cases room with
        | zero => rw [matchKey, if_neg different]
        | succ room => rw [matchKey, if_neg different, ih room behind, Option.map_none]
  have part : equalsSign ∉ (line.takeWhile (· != 0)).dropWhile isspace := fun inside =>
    absent ((List.takeWhile_sublist _).mem ((List.dropWhile_sublist _).mem inside))
  simp only [setting, scanKeyValue, unmatched 63 _ part]
  exact ite_self _

theorem harmless_of_no_equals {process : Process} (absent : equalsSign ∉ line) :
    Harmless process line := by
  intro index
  apply setting_of_no_equals
  intro inside
  exact absent (List.mem_of_mem_drop (List.mem_of_mem_take inside))

theorem setting_comment (commented : comment line = true) : setting long line = none := by
  have starts : ((line.takeWhile (· != 0)).dropWhile isspace).head? = some hashSign := by
    rw [comment, beq_iff_eq] at commented
    induction line with
    | nil => cases commented
    | cons byte line ih =>
        by_cases space : isspace byte = true
        · have present : (byte != 0) = true := by
            rw [bne_iff_ne]
            rintro rfl
            cases space
          rw [List.dropWhile_cons_of_pos space] at commented
          rw [List.takeWhile_cons, if_pos present, List.dropWhile_cons_of_pos space]
          exact ih commented
        · rw [List.dropWhile_cons_of_neg space, List.head?_cons] at commented
          cases commented
          rfl
  unfold setting
  exact if_pos (.inr starts)

/-- A comment that fits in the buffer. -/
theorem harmless_of_short {process : Process} (commented : comment line = true)
    (short : line.length ≤ 255) : Harmless process line := by
  intro index
  cases index with
  | zero =>
      rw [Nat.mul_zero, List.drop_zero, List.take_of_length_le short]
      exact setting_comment commented
  | succ index =>
      rw [List.drop_of_length_le (by omega)]
      rfl

/-! ## Lines that say something -/

/-- From settings that agree on one, a line leads to settings that do. -/
theorem parseLine_agree {which : Setting} (agree : config.get which = other.get which) :
    (parseLine long config line).get which = (parseLine long other line).get which := by
  unfold parseLine
  cases given : setting long line with
  | none => exact agree
  | some both =>
      obtain ⟨named, val⟩ := both
      cases named <;> cases which <;> first | rfl | exact agree

theorem parseLine_named {which : Setting} {val : Int}
    (given : setting long line = some (which, val)) :
    (parseLine long config line).get which = val := by
  rw [parseLine, given]
  cases which <;> rfl

theorem readFile_agree {which : Setting} (agree : config.get which = other.get which) :
    (readFile long config file).get which = (readFile long other file).get which := by
  induction size : file.length using Nat.strong_induction_on generalizing file config other with
  | _ amount ih =>
      cases file with
      | nil => exact agree
      | cons byte file =>
          have shorter : (fgets 255 (byte :: file)).2.length ≤ file.length := length_fgets_cons
          rw [readFile_step (List.cons_ne_nil _ _), readFile_step (List.cons_ne_nil _ _)]
          apply ih _ _ (parseLine_agree agree) rfl
          rw [List.length_cons] at size
          omega

/-- A line with a setting in a piece makes the setting what it says. -/
theorem readFile_named {which : Setting} {val : Int} {index : Nat} (plain : newline ∉ line)
    (given : setting long ((line.drop (255 * index)).take 255) = some (which, val)) :
    (readFile long config line).get which = (readFile long other line).get which := by
  induction index generalizing line config other with
  | zero =>
      rw [readFile_piece plain, readFile_piece plain]
      apply readFile_agree
      rw [Nat.mul_zero, List.drop_zero] at given
      rw [parseLine_named given, parseLine_named given]
  | succ index ih =>
      have behind : newline ∉ line.drop 255 := fun inside => plain (List.mem_of_mem_drop inside)
      rw [readFile_piece plain, readFile_piece plain]
      apply ih behind
      rw [List.drop_drop, Nat.add_comm, ← Nat.mul_succ]
      exact given

/-- Two lines for each setting that disagree about it. -/
def sample (which : Setting) (first : Bool) : List UInt8 :=
  match which, first with
  | .ringSlots, true => ascii "ring_slots=64"
  | .ringSlots, false => ascii "ring_slots=128"
  | .asyncSwap, true => ascii "async_swap=1"
  | .asyncSwap, false => ascii "async_swap=0"
  | .spinUs, true => ascii "spin_us=1"
  | .spinUs, false => ascii "spin_us=2"
  | .fastClientWait, true => ascii "fast_client_wait=1"
  | .fastClientWait, false => ascii "fast_client_wait=0"

theorem sample_apart (process : Process) (which : Setting) :
    (readFile process.toLong config (sample which true)).get which ≠
      (readFile process.toLong config (sample which false)).get which := by
  have plain (first : Bool) : newline ∉ sample which first := by
    cases which <;> cases first <;> decide
  have whole (first : Bool) : readFile process.toLong config (sample which first) =
      parseLine process.toLong config (sample which first) := by
    rw [readFile_piece (plain first)]
    cases which <;> cases first <;> rfl
  rw [whole, whole]
  cases process <;> cases which <;> exact of_decide_eq_true rfl

/-! ## Files -/

/-- Harmless lines can be left out. -/
theorem foldl_filter {process : Process} {given : List (List UInt8)}
    (harmless : ∀ line ∈ given, keyValue line = false → newline ∉ line ∧ Harmless process line) :
    given.foldl (readFile process.toLong) config =
      (given.filter keyValue).foldl (readFile process.toLong) config := by
  induction given generalizing config with
  | nil => rfl
  | cons line given ih =>
      have others := fun other inside => harmless other (List.mem_cons_of_mem line inside)
      rw [List.foldl_cons, ih others]
      cases kind : keyValue line with
      | true => rw [List.filter_cons_of_pos kind, List.foldl_cons]
      | false =>
          obtain ⟨plain, harmless⟩ := harmless line List.mem_cons_self kind
          rw [List.filter_cons_of_neg (by rw [kind]; exact Bool.false_ne_true),
            readFile_harmless plain harmless]

end

/-- What follows from the key=value lines alone, if the other lines are among `ignored`:
all settings, unless one of these lines has a setting in a piece. -/
theorem keyValues_settle (process : Process) (ignored : List UInt8 → Prop) :
    (∀ left right : List UInt8,
        (∀ line ∈ lines left, keyValue line = true ∨ ignored line) →
        (∀ line ∈ lines right, keyValue line = true ∨ ignored line) →
        (lines left).filter keyValue = (lines right).filter keyValue →
        readConfigFile process.toLong (some left) = readConfigFile process.toLong (some right)) ↔
      ∀ line, ignored line → keyValue line = false → newline ∉ line → Harmless process line := by
  constructor
  · intro settled line chosen kind plain index
    cases given : setting process.toLong ((line.drop (255 * index)).take 255) with
    | none => rfl
    | some both =>
        obtain ⟨which, val⟩ := both
        have before (first : Bool) :
            newline ∉ sample which first ∧ keyValue (sample which first) = true := by
          cases which <;> cases first <;> decide
        -- after either sample the line decides
        have same (first : Bool) :
            readFile process.toLong (readFile process.toLong .default (sample which first)) line =
              readFile process.toLong .default (sample which first) := by
          obtain ⟨apart, named⟩ := before first
          have cut : lines (sample which first ++ newline :: line) = [sample which first, line] := by
            rw [lines_cons apart, lines_plain plain]
          have alone : lines (sample which first) = [sample which first] := lines_plain apart
          have equal := settled (sample which first ++ newline :: line) (sample which first)
            (by
              rw [cut]
              rintro other (_ | ⟨_, _ | ⟨_, inside⟩⟩)
              · exact .inl named
              · exact .inr chosen
              · cases inside)
            (by
              rw [alone]
              rintro other (_ | ⟨_, inside⟩)
              · exact .inl named
              · cases inside)
            (by
              rw [cut, alone, List.filter_cons_of_pos named, List.filter_cons_of_pos named,
                List.filter_cons_of_neg (by rw [kind]; exact Bool.false_ne_true)])
          rw [← readFile_line apart]
          exact equal
        have decided :
            (readFile process.toLong
                (readFile process.toLong .default (sample which true)) line).get which =
              (readFile process.toLong
                (readFile process.toLong .default (sample which false)) line).get which :=
          readFile_named plain given
        rw [same, same] at decided
        exact absurd decided (sample_apart process which)
  · intro harmless left right fromLeft fromRight equal
    have alone (file : List UInt8)
        (known : ∀ line ∈ lines file, keyValue line = true ∨ ignored line) :
        readConfigFile process.toLong (some file) =
          ((lines file).filter keyValue).foldl (readFile process.toLong) .default := by
      refine readFile_eq.trans (foldl_filter fun line among kind => ?_)
      have plain := plain_of_mem_lines among
      rcases known line among with named | chosen
      · rw [kind] at named
        cases named
      · exact ⟨plain, harmless line chosen kind plain⟩
    rw [alone left fromLeft, alone right fromRight, equal]

/-- The end of a comment of 267 bytes is read as a setting. -/
theorem longComment_sets : ¬ ∀ (process : Process) (left right : List UInt8),
    (lines left).filter keyValue = (lines right).filter keyValue →
      readConfigFile process.toLong (some left) = readConfigFile process.toLong (some right) := by
  intro settled
  have equal := settled .proxy (hashSign :: List.replicate 254 0x2D ++ ascii "ring_slots=8") []
    (by decide +kernel)
  exact absurd equal (by decide +kernel)

end GlesBridge.Config
