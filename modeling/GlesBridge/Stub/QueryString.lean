import GlesBridge.Proxy.QueryString

namespace GlesBridge.Stub

open GlesBridge.Proxy

/-! The strings that the stub's `eglQueryString` keeps. -/

/-- `[di][ni]` -/
abbrev StringCell := Fin eglBridgeMaxDisplays × Fin 8

/-- The masks keep the low bits of the display and of the name. -/
def stringCell (display : UInt32) (name : Int32) : StringCell :=
  (Fin.ofNat _ display.toNat, Fin.ofNat _ name.toUInt32.toNat)

/-- The static arrays. `asked` is a record: the query that a cell was filled by. -/
structure StringCache where
  cache : StringCell → List UInt8
  valid : StringCell → Bool
  asked : StringCell → UInt32 × Int32

namespace StringCache

def zero : StringCache where
  cache _ := []
  valid _ := false
  asked _ := (0, 0)

variable (state : StringCache)

/-- The string of a query that is answered at once. -/
def cached (display : UInt32) (name : Int32) : Option (List UInt8) :=
  let cell := stringCell display name
  if state.valid cell = true ∧ state.cache cell ≠ [] then some (state.cache cell) else none

/-- With the answer of the proxy, which is not kept when it is empty. -/
def eglQueryString (display : UInt32) (name : Int32) (answer : List UInt8) :
    StringCache × List UInt8 :=
  match state.cached display name with
  | some text => (state, text)
  | none =>
      let cell := stringCell display name
      ({ cache := Function.update state.cache cell answer
         valid := Function.update state.valid cell (answer != [])
         asked := Function.update state.asked cell (display, name) },
        answer)

end StringCache

end GlesBridge.Stub
