import GlesBridge.Shared.Config
import Mathlib.Data.Nat.Digits.Lemmas

namespace GlesBridge.Shared

/-! Log lines, as both programs write them (`shared_util.c`). -/

/-- `size_t` has the width of a `long`. -/
def Process.sizeModulus (process : Process) : Int := 2 * process.longMax + 2

/-- A number that becomes a `size_t`. -/
def Process.toSize (process : Process) (number : Int) : Int := number % process.sizeModulus

def intMax : Nat := 0x7FFFFFFF

/-- What a format and its arguments make: a text whose length is an `int`, or a failure. -/
abbrev Formatted := Option { text : List UInt8 // text.length ≤ intMax }

def formatted (text : List UInt8) : Formatted :=
  if fits : text.length ≤ intMax then some ⟨text, fits⟩ else none

/-- What `snprintf` returns: the length of the whole text, also where it is cut. -/
def returned : Formatted → Int
  | none => -1
  | some text => text.1.length

abbrev logBufSize : Int := 4096
abbrev logOutSize : Int := 4200

/-- A call of `snprintf` or `vsnprintf` with a place in `buf`. -/
structure Print where
  offset : Int
  size : Int
  text : Formatted

/-- The text as far as there is room, and a terminator. What a failure leaves in the
buffer is not used. -/
def Print.store (print : Print) (buf : Int → UInt8) : Int → UInt8 :=
  match print.text with
  | none => buf
  | some text =>
      let stored := text.1.take (print.size - 1).toNat
      fun place =>
        if print.size ≤ 0 ∨ place < print.offset ∨ print.offset + stored.length < place then buf place
        else (stored[(place - print.offset).toNat]?).getD 0

/-- `buf` and `n`, and a record of the calls. -/
structure LogBuf where
  n : Int
  buf : Int → UInt8
  prints : List Print

section

variable (process : Process)

/-- `n += snprintf(buf + n, sizeof(buf) - n, ..)`. -/
def LogBuf.print (log : LogBuf) (text : Formatted) : LogBuf :=
  let print : Print := ⟨log.n, process.toSize (logBufSize - log.n), text⟩
  { n := log.n + returned text
    buf := print.store log.buf
    prints := log.prints ++ [print] }

/-- `"%09llu "`. -/
def counterText (counter : UInt64) : List UInt8 :=
  ((Nat.digits 10 counter.toNat).map fun digit => 0x30 + UInt8.ofNat digit).reverse.leftpad 9 0x30 ++
    [0x20]

/-- What a helper does: its calls of `snprintf`, what it copies to `out` and how much it
gives to `write`. -/
structure LogLine where
  prints : List Print
  copyTo : Int
  copyLen : Int
  count : Int
  bytes : List UInt8

def atomicWriteLine (counter : UInt64) (log : LogBuf) : LogLine :=
  let len := process.toSize log.n
  let n : Int := (counterText counter).length
  if n < logOutSize then
    { prints := log.prints
      copyTo := n
      copyLen := len
      count := process.toSize (n + len)
      bytes := counterText counter ++ (List.range len.toNat).map fun place : Nat => log.buf place }
  else
    { prints := log.prints
      copyTo := n
      copyLen := 0
      count := process.toSize n
      bytes := counterText counter }

/-- The chain of calls that all helpers have. `stale` is what `buf` has before. -/
def writeLine (head : List UInt8) (fmt : Formatted) (counter : UInt64) (stale : Int → UInt8) :
    LogLine :=
  let log : LogBuf := ⟨0, stale, []⟩
  let log := log.print process (formatted head)
  let log := log.print process fmt
  let log := log.print process (formatted [newline])
  atomicWriteLine process counter log

inductive LogHelper where
  | logError
  | logConsoleImpl (start : List UInt8)
  | logConsoleAlwaysImpl (start : List UInt8)

/-- What the first `snprintf` prints. -/
def LogHelper.head : LogHelper → List UInt8
  | .logError => ascii "[ERROR] "
  | .logConsoleImpl start => start ++ [0x20]
  | .logConsoleAlwaysImpl start => start ++ [0x20]

/-- Without a debug build `log_console_impl` does nothing. -/
def LogHelper.silent (debug : Bool) : LogHelper → Bool
  | .logError => false
  | .logConsoleImpl _ => !debug
  | .logConsoleAlwaysImpl _ => false

/-- A call of a helper. -/
def LogHelper.log (debug : Bool) (helper : LogHelper) (fmt : Formatted) (counter : UInt64)
    (stale : Int → UInt8) : Option LogLine :=
  if helper.silent debug then none else some (writeLine process helper.head fmt counter stale)

end

end GlesBridge.Shared
