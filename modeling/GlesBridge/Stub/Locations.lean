import Mathlib.Logic.Function.Basic
import GlesBridge.Data.Probe
import GlesBridge.Stub.Strings

namespace GlesBridge.Stub

open GlesBridge.Data

/-! What the stub remembers of the locations that the driver has reported. -/

abbrev locCacheSlots : Nat := 4096
abbrev locCacheNameMax : Nat := 64

abbrev LocSlot := Fin locCacheSlots

/-- What a location is asked for by. -/
structure LocKey where
  program : UInt32
  name : CString
  isAttrib : Bool
deriving DecidableEq

/-- `name` is what the array has in front of its terminator. `whole` is a record: the
name that was to be stored. -/
structure LocCacheEntry where
  program : UInt32
  name : List UInt8
  location : Int32
  isAttrib : Bool
  whole : List UInt8

def LocCacheEntry.zero : LocCacheEntry where
  program := 0
  name := []
  location := 0
  isAttrib := false
  whole := []

/-- `strncmp` of two strings finds no difference. -/
def strncmp (left right : List UInt8) (count : Nat) : Bool := left.take count == right.take count

def locHash (key : LocKey) : UInt32 :=
  key.name.bytes.foldl (fun hash byte => hash * 131 + byte.toUInt32)
    (key.program * 2654435761 + (if key.isAttrib then 1 else 0) * 0x9E3779B9)

abbrev LocCache := LocSlot → LocCacheEntry

namespace LocCache

def zero : LocCache := fun _ => .zero

/-- The slots in the order in which they are looked at; the masks are remainders. -/
def slotAt (key : LocKey) (index : Nat) : LocSlot :=
  Fin.ofNat locCacheSlots ((locHash key).toNat % locCacheSlots + index)

variable (cache : LocCache) (key : LocKey)

def empty (slot : LocSlot) : Bool := (cache slot).program == 0

def matching (slot : LocSlot) : Bool :=
  (cache slot).program == key.program && (cache slot).isAttrib == key.isAttrib &&
    strncmp (cache slot).name key.name.bytes locCacheNameMax

/-- The slot of a hit. -/
def found : Option LocSlot :=
  probe (slotAt key) (empty cache) (matching cache key) 0 locCacheSlots

def locCacheLookup : Option Int32 := (found cache key).map fun slot => (cache slot).location

/-- The slot that an answer goes to, none with the table full. -/
def room : Option LocSlot :=
  probe (slotAt key) (fun _ => false) (fun slot => empty cache slot || matching cache key slot) 0
    locCacheSlots

def locCacheInsert (location : Int32) : LocCache :=
  match room cache key with
  | some slot =>
      Function.update cache slot
        { program := key.program
          name := key.name.bytes.take (locCacheNameMax - 1)
          location
          isAttrib := key.isAttrib
          whole := key.name.bytes }
  | none => cache

def locCacheInvalidateProgram (program : UInt32) : LocCache := fun slot =>
  if (cache slot).program = program then { cache slot with program := 0 } else cache slot

end LocCache

end GlesBridge.Stub
