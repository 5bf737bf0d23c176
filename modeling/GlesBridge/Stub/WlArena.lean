import Mathlib.Init

namespace GlesBridge.Stub

/-! The data of a Wayland command (`bridge_core.c`). -/

abbrev wlDataSize : UInt32 := 64 * 1024 * 1024

/-- The offset and the next cursor, where the process does not abort. -/
def wlDataAlloc (dataPos : UInt32) (size : UInt64) : Option (UInt32 × UInt32) :=
  let off := dataPos
  let dataPos := (dataPos + size.toUInt32 + 3) &&& ~~~3
  if wlDataSize < dataPos then none else some (off, dataPos)

/-- The bytes that `memcpy` writes. -/
structure WlWrite where
  off : UInt32
  size : UInt64
deriving DecidableEq, Repr

/-- The calls of `bridge_data_write_wl` between `wl_bridge_begin` and the end of the
command, up to one that aborts. -/
def bridgeDataWriteWl (dataPos : UInt32) : List UInt64 → List WlWrite
  | [] => []
  | size :: rest =>
      match wlDataAlloc dataPos size with
      | none => []
      | some (off, dataPos) => ⟨off, size⟩ :: bridgeDataWriteWl dataPos rest

/-- `wl_bridge_begin` sets the cursor back. -/
def wlCommandWrites (sizes : List UInt64) : List WlWrite := bridgeDataWriteWl 0 sizes

end GlesBridge.Stub
