import GlesBridge.Config.Lines
import GlesBridge.Data.PowerOfTwo
import GlesBridge.Ring.State

namespace GlesBridge.Config

open GlesBridge.Shared GlesBridge.Data

/-! The number of slots that a file gives the ring, in the stub and in the proxy. -/

/-- The number of slots that the file asks for, before it becomes a `long`. -/
def written (file : Option (List UInt8)) : Int := (readConfigFile id file).ringSlots

/-- What `seq & mask` needs, and that both programs have the same. -/
structure Geometry (file : Option (List UInt8)) : Prop where
  power : ∀ process, (bridgeConfigRingSlots process file).toNat.isPowerOfTwo
  range : ∀ process, bridgeRingSlotsMin ≤ bridgeConfigRingSlots process file ∧
    bridgeConfigRingSlots process file ≤ bridgeRingSlotsMax
  mask : ∀ process, bridgeConfigRingMask process file = bridgeConfigRingSlots process file - 1
  cell : ∀ process (seq : UInt64), seq &&& (bridgeConfigRingMask process file).toUInt64 =
    seq % (bridgeConfigRingSlots process file).toUInt64
  slots_same : bridgeConfigRingSlots .stub file = bridgeConfigRingSlots .proxy file
  cell_same : ∀ seq : UInt64, seq &&& (bridgeConfigRingMask .stub file).toUInt64 =
    seq &&& (bridgeConfigRingMask .proxy file).toUInt64

section

variable {v slots : UInt32} {config : BridgeConfig} {process : Process}
  {file : Option (List UInt8)} {number : Int} {long : Int → Int}

/-! ## Rounding -/

theorem isPow2_iff : isPow2 v = true ↔ v.toNat.isPowerOfTwo := by
  by_cases zero : v = 0
  · subst zero
    exact ⟨fun refused => absurd refused (by decide),
      fun power => absurd power Nat.not_isPowerOfTwo_zero⟩
  · have positive : v.toNat ≠ 0 := fun none => zero (UInt32.toNat_inj.mp none)
    have less : (v - 1).toNat = v.toNat - 1 :=
      UInt32.toNat_sub_of_le _ _ (UInt32.le_iff_toNat_le.mpr (Nat.one_le_iff_ne_zero.mpr positive))
    rw [← Nat.and_sub_one_eq_zero_iff_isPowerOfTwo positive, isPow2, Bool.and_eq_true, bne_iff_ne,
      beq_iff_eq, and_iff_right zero, ← UInt32.toNat_inj, UInt32.toNat_and, less]
    rfl

/-- The least power of two from the number on. -/
theorem roundUpPow2_toNat (low : 2 ≤ v) (high : v ≤ 0x80000000) :
    ∃ exponent, (roundUpPow2 v).toNat = 2 ^ exponent ∧ v.toNat ≤ 2 ^ exponent ∧
      2 ^ exponent < 2 * v.toNat := by
  have lower : 2 ≤ v.toNat := UInt32.le_iff_toNat_le.mp low
  have upper : v.toNat ≤ 0x80000000 := UInt32.le_iff_toNat_le.mp high
  have less : (v - 1).toNat = v.toNat - 1 :=
    UInt32.toNat_sub_of_le _ _ (UInt32.le_iff_toNat_le.mpr (by
      have one : (1 : UInt32).toNat = 1 := rfl
      omega))
  have positive : (v - 1).toNat ≠ 0 := by omega
  have above : (v - 1).toNat < 2 ^ ((v - 1).toNat.log2 + 1) := Nat.lt_log2_self
  have below : 2 ^ ((v - 1).toNat.log2 + 1) < 2 * v.toNat := by
    have least := Nat.log2_self_le positive
    rw [Nat.pow_succ]
    omega
  refine ⟨(v - 1).toNat.log2 + 1, ?_, by omega, below⟩
  have rounded : roundUpPow2 v = smear (v - 1) + 1 :=
    if_neg (UInt32.not_lt.mpr low)
  have smeared : (smear (v - 1)).toNat = 2 ^ ((v - 1).toNat.log2 + 1) - 1 :=
    smear_toNat fun none => positive (by rw [none]; rfl)
  have one : (1 : UInt32).toNat = 1 := rfl
  rw [rounded, UInt32.toNat_add, smeared, one]
  omega

/-- What becomes of the 32 bits that are looked at. -/
def slotsOf (slots : UInt32) : UInt32 :=
  let slots :=
    if slots < bridgeRingSlotsMin ∨ bridgeRingSlotsMax < slots then
      if slots < bridgeRingSlotsMin then bridgeRingSlotsMin else bridgeRingSlotsMax
    else slots
  if isPow2 slots then slots else roundUpPow2 slots

theorem slotsOf_low (low : slots.toNat < 64) : slotsOf slots = 64 := by
  have below : slots < bridgeRingSlotsMin := UInt32.lt_iff_toNat_lt.mpr low
  simp only [slotsOf, if_pos (Or.inl below), if_pos below]
  rfl

theorem slotsOf_high (high : 65536 < slots.toNat) : slotsOf slots = 65536 := by
  have above : bridgeRingSlotsMax < slots := UInt32.lt_iff_toNat_lt.mpr high
  have apart : ¬ slots < bridgeRingSlotsMin := fun below => by
    have small : slots.toNat < 64 := UInt32.lt_iff_toNat_lt.mp below
    omega
  simp only [slotsOf, if_pos (Or.inr above), if_neg apart]
  rfl

/-- Between the bounds the number is rounded up. -/
theorem slotsOf_inside (low : 64 ≤ slots.toNat) (high : slots.toNat ≤ 65536) :
    ∃ exponent, (slotsOf slots).toNat = 2 ^ exponent ∧ slots.toNat ≤ 2 ^ exponent ∧
      2 ^ exponent < 2 * slots.toNat := by
  have below : ¬ slots < bridgeRingSlotsMin :=
    UInt32.not_lt.mpr (UInt32.le_iff_toNat_le.mpr low)
  have above : ¬ bridgeRingSlotsMax < slots :=
    UInt32.not_lt.mpr (UInt32.le_iff_toNat_le.mpr high)
  simp only [slotsOf, if_neg (not_or.mpr ⟨below, above⟩)]
  by_cases power : isPow2 slots = true
  · rw [if_pos power]
    obtain ⟨exponent, shape⟩ := isPow2_iff.mp power
    exact ⟨exponent, shape, shape.le, by omega⟩
  · rw [if_neg power]
    have two : (2 : UInt32).toNat = 2 := rfl
    have top : (0x80000000 : UInt32).toNat = 0x80000000 := rfl
    apply roundUpPow2_toNat
    · rw [UInt32.le_iff_toNat_le]
      omega
    · rw [UInt32.le_iff_toNat_le]
      omega

theorem slotsOf_cases :
    slots.toNat < 64 ∧ slotsOf slots = 64 ∨ 65536 < slots.toNat ∧ slotsOf slots = 65536 ∨
      ∃ exponent, 64 ≤ slots.toNat ∧ slots.toNat ≤ 65536 ∧ (slotsOf slots).toNat = 2 ^ exponent ∧
        slots.toNat ≤ 2 ^ exponent ∧ 2 ^ exponent < 2 * slots.toNat := by
  by_cases low : slots.toNat < 64
  · exact .inl ⟨low, slotsOf_low low⟩
  · by_cases high : 65536 < slots.toNat
    · exact .inr (.inl ⟨high, slotsOf_high high⟩)
    · obtain ⟨exponent, rounded⟩ := slotsOf_inside (Nat.le_of_not_lt low) (Nat.le_of_not_lt high)
      exact .inr (.inr ⟨exponent, Nat.le_of_not_lt low, Nat.le_of_not_lt high, rounded⟩)

theorem slotsOf_power : (slotsOf slots).toNat.isPowerOfTwo := by
  rcases @slotsOf_cases slots with ⟨-, equal⟩ | ⟨-, equal⟩ | ⟨exponent, -, -, equal, -⟩
  · rw [equal]
    exact ⟨6, rfl⟩
  · rw [equal]
    exact ⟨16, rfl⟩
  · exact ⟨exponent, equal⟩

/-- A power of two below 2¹⁷ is at most 2¹⁶. -/
theorem slotsOf_range : 64 ≤ (slotsOf slots).toNat ∧ (slotsOf slots).toNat ≤ 65536 := by
  rcases @slotsOf_cases slots with ⟨-, equal⟩ | ⟨-, equal⟩ |
    ⟨exponent, low, high, equal, least, near⟩
  · rw [equal]
    decide
  · rw [equal]
    decide
  · rw [equal]
    have small : exponent < 17 := (Nat.pow_lt_pow_iff_right (by omega : 1 < 2)).mp (by omega)
    have power : 2 ^ exponent ≤ 2 ^ 16 := Nat.pow_le_pow_right (by omega) (by omega)
    omega

/-- The largest ring, from half of its size on. -/
theorem slotsOf_eq_max : slotsOf slots = 65536 ↔ 32768 < slots.toNat := by
  rcases @slotsOf_cases slots with ⟨low, equal⟩ | ⟨high, equal⟩ |
    ⟨exponent, low, high, equal, least, near⟩
  · rw [equal]
    exact ⟨fun refused => absurd refused (by decide), fun above => by omega⟩
  · exact ⟨fun _ => by omega, fun _ => equal⟩
  · rw [← UInt32.toNat_inj, equal]
    constructor
    · intro full
      have whole : 2 ^ exponent = 65536 := full
      omega
    · intro above
      have more : 15 < exponent := (Nat.pow_lt_pow_iff_right (by omega : 1 < 2)).mp (by omega)
      have less : exponent < 17 := (Nat.pow_lt_pow_iff_right (by omega : 1 < 2)).mp (by omega)
      obtain rfl : exponent = 16 := by omega
      rfl

theorem loadRingSlots_eq : loadRingSlots config = slotsOf (.ofInt config.ringSlots) := rfl

theorem cell_eq (power : slots.toNat.isPowerOfTwo) (seq : UInt64) :
    seq &&& (slots - 1).toUInt64 = seq % slots.toUInt64 := by
  obtain ⟨exponent, shape⟩ := power
  have positive : 0 < slots.toNat := by
    rw [shape]
    exact Nat.two_pow_pos exponent
  have less : (slots - 1).toNat = slots.toNat - 1 :=
    UInt32.toNat_sub_of_le _ _ (UInt32.le_iff_toNat_le.mpr positive)
  rw [← UInt64.toNat_inj, UInt64.toNat_and, UInt64.toNat_mod, UInt32.toNat_toUInt64,
    UInt32.toNat_toUInt64, less, shape]
  exact Nat.and_two_pow_sub_one_eq_mod _ exponent

/-! ## The setting -/

/-- A `long` keeps the sign, and the default. -/
structure Faithful (long : Int → Int) : Prop where
  sign : ∀ number, long number ≤ 0 ↔ number ≤ 0
  default : long bridgeRingSlotsDefault = bridgeRingSlotsDefault

theorem toLong_fits (natural : 0 ≤ number) (fits : number ≤ process.longMax) :
    process.toLong number = number := by
  rw [Process.toLong, if_neg (Int.not_lt.mpr fits), if_neg (by omega)]

theorem toLong_large (large : process.longMax < number) :
    process.toLong number = process.longMax := if_pos large

theorem faithful_toLong : Faithful process.toLong := by
  constructor
  · intro number
    cases process <;> simp only [Process.toLong, Process.longMax] <;> split_ifs <;> omega
  · cases process <;> rfl

/-- Two ways to make a `long` lead to settings of one number. -/
def Follows (long : Int → Int) (config exact : BridgeConfig) : Prop :=
  config.ringSlots = long exact.ringSlots ∧ 0 < exact.ringSlots

theorem parseLine_follows {line : List UInt8} {exact : BridgeConfig} (faithful : Faithful long)
    (follows : Follows long config exact) :
    Follows long (parseLine long config line) (parseLine id exact line) := by
  -- both convert the same number, under the same key
  have named (key : List UInt8) (val : Int) (both : setting long line = settingNamed key (long val))
      (also : setting id line = settingNamed key val) :
      Follows long (parseLine long config line) (parseLine id exact line) := by
    rw [parseLine, parseLine, both, also]
    unfold settingNamed
    by_cases ring : (key.rdropWhile isspace).dropWhile isspace = ascii "ring_slots"
    · simp only [if_pos ring]
      constructor
      · by_cases small : val ≤ 0
        · have smaller := (faithful.sign val).mpr small
          simp only [BridgeConfig.set, if_pos small, if_pos smaller, faithful.default]
        · have larger := mt (faithful.sign val).mp small
          simp only [BridgeConfig.set, if_neg small, if_neg larger]
      · by_cases small : val ≤ 0
        · simp only [BridgeConfig.set, if_pos small]
          decide
        · simp only [BridgeConfig.set, if_neg small]
          exact Int.not_le.mp small
    · simp only [if_neg ring]
      split_ifs <;> exact follows
  have silent (none : setting long line = none) (also : setting id line = Option.none) :
      Follows long (parseLine long config line) (parseLine id exact line) := by
    rw [parseLine, parseLine, none, also]
    exact follows
  unfold setting at named silent
  simp only at named silent
  by_cases skipped : ((line.takeWhile (· != 0)).dropWhile isspace).head? = none ∨
      ((line.takeWhile (· != 0)).dropWhile isspace).head? = some hashSign
  · simp only [if_pos skipped] at silent
    exact silent trivial trivial
  · simp only [if_neg skipped] at named silent
    cases scanned : scanKeyValue ((line.takeWhile (· != 0)).dropWhile isspace) with
    | none =>
        rw [scanned] at silent
        exact silent rfl rfl
    | some both =>
        obtain ⟨key, val⟩ := both
        rw [scanned] at named
        exact named key val rfl rfl

theorem readConfigFile_follows (faithful : Faithful long) :
    Follows long (readConfigFile long file) (readConfigFile id file) := by
  have start : Follows long .default .default := ⟨faithful.default.symm, by decide⟩
  cases file with
  | none => exact start
  | some file =>
      have run : ∀ fuel config exact file, Follows long config exact →
          Follows long (readLines long fuel config file) (readLines id fuel exact file) := by
        intro fuel
        induction fuel with
        | zero => exact fun _ _ _ follows => follows
        | succ fuel ih =>
            intro config exact file follows
            cases file with
            | nil => exact follows
            | cons byte file =>
                rw [readLines_cons, readLines_cons]
                exact ih _ _ _ (parseLine_follows faithful follows)
      exact run _ _ _ _ start

theorem written_pos : 0 < written file := (readConfigFile_follows (@faithful_toLong .stub)).2

theorem slots_eq : bridgeConfigRingSlots process file =
    slotsOf (.ofInt (process.toLong (written file))) := by
  have follows : Follows process.toLong (readConfigFile process.toLong file)
    (readConfigFile id file) := readConfigFile_follows faithful_toLong
  rw [bridgeConfigRingSlots, loadRingSlots_eq, follows.1]
  rfl

/-! ## Both programs -/

theorem ofInt_toNat (natural : 0 ≤ number) :
    (UInt32.ofInt number).toNat = number.toNat % 0x100000000 := by
  rw [UInt32.ofInt, UInt32.toNat_ofNat']
  omega

/-- The stub looks at the low half of a `long`; the proxy has no more than that. -/
theorem slots_same_iff : bridgeConfigRingSlots .stub file = bridgeConfigRingSlots .proxy file ↔
    written file < 0x80000000 ∨ 0x8000000000000000 ≤ written file ∨
      0x8000 < written file % 0x100000000 := by
  have positive : 0 < written file := written_pos
  have wide : Process.stub.longMax = 0x7FFFFFFFFFFFFFFF := rfl
  have narrow : Process.proxy.longMax = 0x7FFFFFFF := rfl
  rw [slots_eq, slots_eq]
  by_cases small : written file < 0x80000000
  · rw [toLong_fits (by omega) (by omega), toLong_fits (by omega) (by omega)]
    exact iff_of_true rfl (.inl small)
  · have most : slotsOf (.ofInt Process.proxy.longMax) = 65536 := slotsOf_high (by decide)
    rw [@toLong_large .proxy _ (by omega), most, slotsOf_eq_max]
    by_cases huge : 0x8000000000000000 ≤ written file
    · rw [toLong_large (by omega)]
      exact iff_of_true (by decide) (.inr (.inl huge))
    · rw [toLong_fits (by omega) (by omega), ofInt_toNat (by omega)]
      omega

end

/-- Both programs have a ring that works, and the same one unless the file asks for more
than a `long` of the proxy holds and the stub does not see this in the low half. -/
theorem geometry_iff (file : Option (List UInt8)) :
    Geometry file ↔
      written file < 0x80000000 ∨ 0x8000000000000000 ≤ written file ∨
        0x8000 < written file % 0x100000000 := by
  constructor
  · exact fun geometry => slots_same_iff.mp geometry.slots_same
  · intro fits
    have same := slots_same_iff.mpr fits
    have power (process : Process) : (bridgeConfigRingSlots process file).toNat.isPowerOfTwo := by
      rw [slots_eq]
      exact slotsOf_power
    have range (process : Process) : bridgeRingSlotsMin ≤ bridgeConfigRingSlots process file ∧
        bridgeConfigRingSlots process file ≤ bridgeRingSlotsMax := by
      rw [slots_eq, UInt32.le_iff_toNat_le, UInt32.le_iff_toNat_le]
      exact slotsOf_range
    constructor
    · exact power
    · exact range
    · exact fun _ => rfl
    · exact fun process seq => cell_eq (power process) seq
    · exact same
    · intro seq
      rw [bridgeConfigRingMask, bridgeConfigRingMask, same]

/-- A ring of 1024 slots in the stub, of 65536 in the proxy. -/
theorem largeSlots_differ : ¬ ∀ file, Geometry file := by
  intro valid
  have same := (valid (some (ascii "ring_slots=4294968320"))).slots_same
  exact absurd same (by decide +kernel)

/-! ## The settings of the ring -/

/-- What a program starts with. -/
def ringConfig (process : Process) (file : Option (List UInt8)) : Ring.Config where
  ringSlots := (bridgeConfigRingSlots process file).toNat
  ringMask := (bridgeConfigRingMask process file).toNat
  slots_pow2 := by
    rw [slots_eq]
    exact slotsOf_power
  mask_eq := by
    have positive : 1 ≤ (bridgeConfigRingSlots process file).toNat := by
      rw [slots_eq]
      exact Nat.le_trans (by omega) slotsOf_range.1
    exact UInt32.toNat_sub_of_le _ _ (UInt32.le_iff_toNat_le.mpr positive)
  asyncSwap := (readConfigFile process.toLong file).asyncSwap != 0
  spinUs := (readConfigFile process.toLong file).spinUs.toNat

/-- A missing file gives the default settings. -/
theorem ringConfig_missing (process : Process) : ringConfig process none = .default := by
  cases process <;> rfl

end GlesBridge.Config
