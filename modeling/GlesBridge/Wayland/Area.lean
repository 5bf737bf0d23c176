import GlesBridge.Proxy.Events
import GlesBridge.Systems.Reading

namespace GlesBridge.Wayland

open GlesBridge.Proxy GlesBridge.Systems GlesBridge.Systems.Reading

/-! The control block of the Wayland channel, as the handlers leave it and as the
stub reads it. There is one, for all threads of the client.
-/

/-- `C->result`, `C->data_size`, the words of `WL_RESULT(C)`, and the bytes of the arena. -/
inductive WlAddress where
  | result
  | dataSize
  | word (index : Nat)
  | data (index : Nat)
deriving DecidableEq, Repr

abbrev WlArea : Type := WlAddress → UInt64

/-- `WEBOS_STATE_BASE`, the same in the proxy. -/
abbrev webosStateBase : Nat := 1 + inputEvtMax * 2

abbrev keymapFormatXkbV1 : UInt64 := 1

/-- `g_keymap_string`, as long as the 32 bits of `g_keymap_size` say. -/
structure Keymap where
  bytes : List UInt64
  bound : bytes.length ≤ 4294967295

/-- The commands by what they leave in the control block. -/
inductive WlCall where
  /-- `relay` is what the handler finds once it has dispatched. -/
  | roundtrip (relay : WlRelay)
  /-- `words` are those of the reply, and slot 0 is a failure. -/
  | connect (slot : UInt64) (words : Nat → UInt64)
  | getKeymap (format : UInt64) (keymap : Keymap)
  | setProperty (blob : List UInt64)
  | other (result : UInt64)

/-- What the stub makes of a reply. -/
inductive WlAnswer where
  | events (keys states : List (UInt64 × UInt64))
  | connected (words name : List UInt64)
  | keymap (size : UInt64) (bytes : List UInt64) (kept : UInt64)
  | noKeymap
deriving DecidableEq, Repr

def keyPairs (relay : WlRelay) : List (UInt64 × UInt64) :=
  relay.batch.keys.map fun event => (event.key.toUInt64, event.state.toUInt64)

def statePairs (relay : WlRelay) : List (UInt64 × UInt64) :=
  relay.batch.states.map fun state => (.ofNat state.1.val, state.2.toUInt64)

/-! ## The handlers -/

/-- The end of `h_wl_roundtrip`. -/
def hWlRoundtrip (relay : WlRelay) (area : WlArea) : WlArea :=
  let counted := Function.update area (.word 0) (.ofNat (keyPairs relay).length)
  let keyed := storePairs .word 1 (keyPairs relay) counted
  let stated := storePairs .word (webosStateBase + 1) (statePairs relay) keyed
  Function.update (Function.update stated (.word webosStateBase) (.ofNat (statePairs relay).length))
    .result 0

/-- `strncpy` fills the area to its end. -/
def hWlDisplayConnect (slot : UInt64) (words : Nat → UInt64) (area : WlArea) : WlArea
  | .result => slot
  | .word index => if slot = 0 then area (.word index) else words index
  | address => area address

def hWlGetKeymap (format : UInt64) (keymap : Keymap) (area : WlArea) : WlArea :=
  if keymap.bytes = [] then
    Function.update (Function.update area .dataSize 0) .result 0
  else
    Function.update
      (Function.update (storeWords .data 0 keymap.bytes area) .dataSize (.ofNat keymap.bytes.length))
      .result format

/-- A command from the fields that the stub sets to its result. -/
def handled (area : WlArea) : WlCall → WlArea
  | .roundtrip relay => hWlRoundtrip relay (Function.update area .dataSize 0)
  | .connect slot words => hWlDisplayConnect slot words (Function.update area .dataSize 0)
  | .getKeymap format keymap => hWlGetKeymap format keymap (Function.update area .dataSize 0)
  | .setProperty blob =>
      Function.update
        (Function.update (storeWords .data 0 blob area) .dataSize (.ofNat blob.length)) .result 0
  | .other result => Function.update (Function.update area .dataSize 0) .result result

/-! ## The readers -/

/-- `_deliver_input_events`: the counts are read once, the events one after the other. -/
def deliverInputEvents : Reading WlAddress UInt64 WlAnswer :=
  .read (.word 0) fun count =>
    (pairs .word 1 count.toNat).bind fun keys =>
      .read (.word webosStateBase) fun wssCount =>
        (pairs .word (webosStateBase + 1) wssCount.toNat).bind fun states =>
          .done (.events keys states)

/-- A byte of the word is 0. -/
def EndsText (word : UInt64) : Prop :=
  word &&& 0xFF = 0 ∨ word &&& 0xFF00 = 0 ∨ word &&& 0xFF0000 = 0 ∨ word &&& 0xFF000000 = 0

instance decidableEndsText (word : UInt64) : Decidable (EndsText word) :=
  @instDecidableOr _ _ (instDecidableEqUInt64 ..)
    (@instDecidableOr _ _ (instDecidableEqUInt64 ..)
      (@instDecidableOr _ _ (instDecidableEqUInt64 ..) (instDecidableEqUInt64 ..)))

/-- `strncpy` reads as far as the end of the text. -/
def text : (index count : Nat) → Reading WlAddress UInt64 (List UInt64)
  | _, 0 => .done []
  | index, count + 1 =>
      .read (.word index) fun word =>
        if EndsText word then .done [word]
        else (text (index + 1) count).bind fun rest => .done (word :: rest)

/-- The end of `wl_display_connect`. -/
def connectReply : Reading WlAddress UInt64 WlAnswer :=
  (sequence .word 1 13).bind fun words => (text 14 64).bind fun name => .done (.connected words name)

/-- `_fetch_proxy_keymap` -/
def fetchProxyKeymap : Reading WlAddress UInt64 WlAnswer :=
  .read .result fun format =>
    if format ≠ keymapFormatXkbV1 then .done .noKeymap
    else .read .dataSize fun found =>
      if found = 0 then .done .noKeymap
      else .read .dataSize fun size => .read .dataSize fun copied =>
        (sequence .data 0 copied.toNat).bind fun bytes =>
          .read .dataSize fun kept => .done (.keymap size bytes kept)

/-- What a thread reads after its command, when the lock is free again. -/
def reader : WlCall → Option (Reading WlAddress UInt64 WlAnswer)
  | .roundtrip _ => some deliverInputEvents
  | .connect slot _ => if slot = 0 then none else some connectReply
  | .getKeymap _ _ => some fetchProxyKeymap
  | .setProperty _ | .other _ => none

/-! ## What a command has answered -/

def textWords (words : Nat → UInt64) : (index count : Nat) → List UInt64
  | _, 0 => []
  | index, count + 1 =>
      if EndsText (words index) then [words index]
      else words index :: textWords words (index + 1) count

def answer : WlCall → WlAnswer
  | .roundtrip relay => .events (keyPairs relay) (statePairs relay)
  | .connect _ words => .connected ((List.range' 1 13).map words) (textWords words 14 64)
  | .getKeymap format keymap =>
      if format = keymapFormatXkbV1 ∧ keymap.bytes ≠ [] then
        .keymap (.ofNat keymap.bytes.length) keymap.bytes (.ofNat keymap.bytes.length)
      else .noKeymap
  | .setProperty _ | .other _ => .noKeymap

end GlesBridge.Wayland
