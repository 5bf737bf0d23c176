import GlesBridge.Mapping.Agreement

namespace GlesBridge.Mapping

open GlesBridge.Gl GlesBridge.Shared GlesBridge.Stub GlesBridge.Proxy GlesBridge.Systems

/-! The flush of a part of a mapping. -/

/-- The client's bytes go to their own place, and the driver gets the client's call. -/
def flushed (state : MapStub × MapProxy) (target : UInt32) (id : MapId) (place count : Nat) : Flush where
  copied := (List.range count).map fun index =>
    (place + index, state.1.memory (state.1.stubMaps id).ptr (place + index))
  target := target
  offset := .ofNat place
  length := .ofNat count

section

variable {current : Ctx} {state : MapStub × MapProxy} {target buffer : UInt32} {id : MapId}
  {start size place count : Nat}

theorem ofNat_lt {first second : Nat} (small : first < 2147483648) (also : second < 2147483648) :
    Int32.ofNat first < Int32.ofNat second ↔ first < second := by
  rw [Int32.lt_iff_toInt_lt, Int32.toInt_ofNat_of_lt small, Int32.toInt_ofNat_of_lt also]
  exact Int.ofNat_lt

/-- No buffer has two entries. -/
theorem TablesAgree.only (agree : TablesAgree state) {other : MapId}
    (mapped : (state.1.stubMaps id).ptr ≠ 0) (also : (state.1.stubMaps other).ptr ≠ 0)
    (same : (state.1.stubMaps other).buffer = (state.1.stubMaps id).buffer) : other = id := by
  refine agree.single other id ((agree.tracked other).mp also) ((agree.tracked id).mp mapped) ?_
  rw [← (agree.same other also).1, ← (agree.same id mapped).1, same]

end

end GlesBridge.Mapping
