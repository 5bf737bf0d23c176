import GlesBridge.Handles.Rules
import GlesBridge.Stub.Results
import GlesBridge.Stub.Strings

namespace GlesBridge.Proxy

open GlesBridge.Stub

/-! The strings that the proxy's `eglQueryString` answers with. -/

/-- The driver's answers, where it has one; no display is 0. -/
abbrev DriverStrings := UInt32 → Int32 → Option CString

/-- What is in `result_buf` as a string: no more than its size less 1. Without a
display only `EGL_EXTENSIONS` is asked for. -/
def HandleTables.hEglQueryString (tables : HandleTables) (driver : DriverStrings) (di : UInt32)
    (name : Int32) : List UInt8 :=
  let real := tables.real.displays (clamp _ di)
  let text :=
    if di = 0 ∨ real = 0 then if real = 0 ∧ name = 0x3055 then driver 0 name else none
    else driver real name
  match text with
  | some text => text.bytes.take (bridgeResultSize - 1)
  | none => []

end GlesBridge.Proxy
