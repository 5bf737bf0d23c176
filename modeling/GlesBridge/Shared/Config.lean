import Mathlib.Data.List.DropRight

namespace GlesBridge.Shared

/-! `bridge.conf`, as both programs read it (`bridge_config.c`). -/

/-- The two programs that load the settings. -/
inductive Process where
  | stub
  | proxy
deriving DecidableEq, Repr

/-- A `long` has 64 bits in the stub and 32 in the proxy. -/
def Process.longMax : Process → Int
  | .stub => 0x7FFFFFFFFFFFFFFF
  | .proxy => 0x7FFFFFFF

/-- `%ld` gives the nearest `long`. -/
def Process.toLong (process : Process) (number : Int) : Int :=
  if process.longMax < number then process.longMax
  else if number < -process.longMax - 1 then -process.longMax - 1
  else number

def ascii (text : String) : List UInt8 := text.toList.map fun char => UInt8.ofNat char.toNat

def newline : UInt8 := 0x0A
def hashSign : UInt8 := 0x23
def equalsSign : UInt8 := 0x3D

def isspace (byte : UInt8) : Bool := byte == 0x20 || (0x09 ≤ byte && byte ≤ 0x0D)

def isdigit (byte : UInt8) : Bool := 0x30 ≤ byte && byte ≤ 0x39

/-! ## Settings -/

inductive Setting where
  | ringSlots
  | asyncSwap
  | spinUs
  | fastClientWait
deriving DecidableEq, Repr

structure BridgeConfig where
  ringSlots : Int
  asyncSwap : Int
  spinUs : Int
  fastClientWait : Int
deriving DecidableEq, Repr

def bridgeRingSlotsDefault : Int := 4096
def bridgeRingSlotsMin : UInt32 := 64
def bridgeRingSlotsMax : UInt32 := 65536

namespace BridgeConfig

def default : BridgeConfig where
  ringSlots := bridgeRingSlotsDefault
  asyncSwap := 1
  spinUs := 50
  fastClientWait := 1

def get (config : BridgeConfig) : Setting → Int
  | .ringSlots => config.ringSlots
  | .asyncSwap => config.asyncSwap
  | .spinUs => config.spinUs
  | .fastClientWait => config.fastClientWait

def set (config : BridgeConfig) (setting : Setting) (val : Int) : BridgeConfig :=
  match setting with
  | .ringSlots => { config with ringSlots := val }
  | .asyncSwap => { config with asyncSwap := val }
  | .spinUs => { config with spinUs := val }
  | .fastClientWait => { config with fastClientWait := val }

end BridgeConfig

/-! ## Lines -/

/-- At most `room` bytes, and none behind a newline; and what is left of the file. -/
def fgets : Nat → List UInt8 → List UInt8 × List UInt8
  | 0, file => ([], file)
  | _ + 1, [] => ([], [])
  | room + 1, byte :: file =>
      if byte = newline then ([byte], file)
      else
        match fgets room file with
        | (line, rest) => (byte :: line, rest)

/-- `%63[^=]=` with `room` for 63 bytes: the key, and what follows the equals sign. -/
def matchKey : Nat → List UInt8 → Option (List UInt8 × List UInt8)
  | _, [] => none
  | 0, byte :: text => if byte = equalsSign then some ([], text) else none
  | room + 1, byte :: text =>
      if byte = equalsSign then some ([], text)
      else (matchKey room text).map fun (key, value) => (byte :: key, value)

def scanDigits (text : List UInt8) : Option Int :=
  match text.takeWhile isdigit with
  | [] => none
  | digits => some (digits.foldl (fun val digit => 10 * val + (digit.toNat - 48)) 0)

/-- `%ld`, before the number becomes a `long`. -/
def scanNumber (text : List UInt8) : Option Int :=
  match text.dropWhile isspace with
  | 0x2D :: digits => (scanDigits digits).map fun val => -val
  | 0x2B :: digits => scanDigits digits
  | digits => scanDigits digits

/-- `sscanf` with `%63[^=]=%ld`, where it converts both. -/
def scanKeyValue (text : List UInt8) : Option (List UInt8 × Int) :=
  match matchKey 63 text with
  | none => none
  | some ([], _) => none
  | some (key, value) => (scanNumber value).map fun val => (key, val)

/-- The comparisons with the names. -/
def settingNamed (key : List UInt8) (val : Int) : Option (Setting × Int) :=
  let kp := (key.rdropWhile isspace).dropWhile isspace
  if kp = ascii "ring_slots" then
    some (.ringSlots, if val ≤ 0 then bridgeRingSlotsDefault else val)
  else if kp = ascii "async_swap" then some (.asyncSwap, if val = 0 then 0 else 1)
  else if kp = ascii "spin_us" then
    some (.spinUs, if val < 0 then 0 else if 10000 < val then 10000 else val)
  else if kp = ascii "fast_client_wait" then some (.fastClientWait, if val = 0 then 0 else 1)
  else none

section

-- How a number becomes a `long`.
variable (long : Int → Int)

/-- What a line says, if it says something; a string ends at its first zero. -/
def setting (line : List UInt8) : Option (Setting × Int) :=
  let p := (line.takeWhile (· != 0)).dropWhile isspace
  if p.head? = none ∨ p.head? = some hashSign then none
  else
    match scanKeyValue p with
    | none => none
    | some (key, val) => settingNamed key (long val)

/-- The body of the loop. -/
def parseLine (config : BridgeConfig) (line : List UInt8) : BridgeConfig :=
  match setting long line with
  | none => config
  | some (setting, val) => config.set setting val

/-- The loop; `line` has room for 255 bytes. -/
def readLines : Nat → BridgeConfig → List UInt8 → BridgeConfig
  | 0, config, _ => config
  | fuel + 1, config, file =>
      match fgets 255 file with
      | ([], _) => config
      | (line, rest) => readLines fuel (parseLine long config line) rest

/-- Each call of `fgets` but the last takes a byte. A missing file is written with the
defaults. -/
def readConfigFile : Option (List UInt8) → BridgeConfig
  | none => .default
  | some file => readLines long (file.length + 1) .default file

end

/-! ## Ring slots -/

def isPow2 (v : UInt32) : Bool := v != 0 && v &&& (v - 1) == 0

def roundUpPow2 (v : UInt32) : UInt32 :=
  if v < 2 then 1
  else
    let v := v - 1
    let v := v ||| v >>> 1
    let v := v ||| v >>> 2
    let v := v ||| v >>> 4
    let v := v ||| v >>> 8
    let v := v ||| v >>> 16
    v + 1

/-- The setting is cut to 32 bits before its bounds are looked at. -/
def loadRingSlots (config : BridgeConfig) : UInt32 :=
  let slots := UInt32.ofInt config.ringSlots
  let slots :=
    if slots < bridgeRingSlotsMin ∨ bridgeRingSlotsMax < slots then
      if slots < bridgeRingSlotsMin then bridgeRingSlotsMin else bridgeRingSlotsMax
    else slots
  if isPow2 slots then slots else roundUpPow2 slots

def bridgeConfigRingSlots (process : Process) (file : Option (List UInt8)) : UInt32 :=
  loadRingSlots (readConfigFile process.toLong file)

def bridgeConfigRingMask (process : Process) (file : Option (List UInt8)) : UInt32 :=
  bridgeConfigRingSlots process file - 1

end GlesBridge.Shared
