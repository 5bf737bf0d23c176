import GlesBridge.Systems.Machine
import GlesBridge.Wayland.Bridge
import Mathlib.Data.Set.Function

namespace GlesBridge.Wayland

open GlesBridge.Proxy GlesBridge.Stub GlesBridge.Systems

/-! The surfaces of a client and those of the proxy, over all calls that make one or
destroy one.
-/

structure SurfaceWorld where
  bridge : WlBridge
  /-- The surfaces that the client has. -/
  surfaces : List UInt32

/-- The calls, with what the driver answers to their command. -/
inductive SurfaceInput where
  | createSurface (answer : UInt32)
  | getShellSurface (surface answer : UInt32)
  | getWebosShellSurface (surface answer : UInt32)
  | surfaceDestroy (surface : UInt32)
  | proxyDestroy (handle : UInt32)

namespace SurfaceInput

def marshal (stub : WlBridgeState) : SurfaceInput → Marshalled
  | .createSurface _ => stub.wlProxyMarshalFlags (.handle bhCompositor) 0 (some "wl_surface") []
  | .getShellSurface surface _ =>
      stub.wlProxyMarshalFlags (.handle bhShell) 0 (some "wl_shell_surface")
        [some (.object 0), some (.object surface)]
  | .getWebosShellSurface surface _ =>
      stub.wlProxyMarshalFlags (.handle bhWebosShell) 1 (some "wl_webos_shell_surface")
        [some (.object 0), some (.object surface)]
  | .surfaceDestroy surface => stub.wlProxyMarshalFlags (.handle surface) 0 none []
  | .proxyDestroy handle => .ok (stub.wlProxyDestroy handle)

def answer : SurfaceInput → UInt32
  | .createSurface answer | .getShellSurface _ answer | .getWebosShellSurface _ answer => answer
  | .surfaceDestroy _ | .proxyDestroy _ => 0

/-- The handle that a call destroys. -/
def destroys (stub : WlBridgeState) : SurfaceInput → Option UInt32
  | .surfaceDestroy surface => some surface
  | .proxyDestroy handle => some (stub.resolveHandle handle)
  | _ => none

/-- A handle of the kind that the call makes, and not of another one. -/
def OfKind (handle : UInt32) : SurfaceInput → Prop
  | .createSurface _ => ∃ offset, objectOf handle = .surface offset
  | .getShellSurface _ _ =>
      (∃ offset, objectOf handle = .shellSurf offset) ∧ handle ≠ bhDummy ∧ handle ≠ bhDummySync
  | .getWebosShellSurface _ _ => ∃ offset, objectOf handle = .webosSurf offset
  | _ => True

end SurfaceInput

/-- The entry of a slot is null, and a slot that is none has no entry. -/
def cleared (table : Fin proxySurfMax → UInt32) (slot : UInt32) : Fin proxySurfMax → UInt32 :=
  if inside : slot ≠ 0 ∧ slot.toNat < proxySurfMax then
    Function.update table ⟨slot.toNat, inside.2⟩ 0
  else table

def entryAt (table : Fin proxySurfMax → UInt32) (slot : UInt32) : UInt32 :=
  if inside : slot.toNat < proxySurfMax then table ⟨slot.toNat, inside⟩ else 0

/-- Of the objects of the proxy, the one that belongs to the object of the client is gone. -/
def OwnCleared (stub : WlBridgeState) (before after : HandleTables) : BridgeObject → Prop
  | .surface offset =>
      after.gSurfs = cleared before.gSurfs (stub.slotFor offset.val) ∧
        after.gShellSurfs = before.gShellSurfs ∧
        after.gWebosShellSurfaces = before.gWebosShellSurfaces
  | .shellSurf offset =>
      after.gSurfs = before.gSurfs ∧
        after.gShellSurfs = cleared before.gShellSurfs (stub.slotFor offset.val) ∧
        after.gWebosShellSurfaces = before.gWebosShellSurfaces
  | .webosSurf offset =>
      after.gSurfs = before.gSurfs ∧ after.gShellSurfs = before.gShellSurfs ∧
        after.gWebosShellSurfaces =
          cleared before.gWebosShellSurfaces (stub.slotFor offset.val)
  | _ =>
      after.gSurfs = before.gSurfs ∧ after.gShellSurfs = before.gShellSurfs ∧
        after.gWebosShellSurfaces = before.gWebosShellSurfaces

/-- The slot of a shell surface, of either kind, has no webOS shell surface. -/
def Lone (bridge : WlBridge) : BridgeObject → Prop
  | .shellSurf offset | .webosSurf offset =>
      entryAt bridge.tables.gWebosShellSurfaces (bridge.stub.slotFor offset.val) = 0
  | _ => True

instance decidableLone (bridge : WlBridge) (object : BridgeObject) :
    Decidable (Lone bridge object) :=
  match object with
  | .shellSurf _ | .webosSurf _ => instDecidableEqUInt32 ..
  | .registry | .compositor | .shell | .webosShell | .webosInputMgr | .starfish | .webosForeign
  | .seat _ | .output _ | .keyboard _ | .pointer _ | .webosSeat _ | .surface _ | .callback _
  | .other => isTrue trivial

namespace SurfaceWorld

variable (world : SurfaceWorld)

/-- The client names no surface but those that it has. -/
def Has : SurfaceInput → Prop
  | .getShellSurface surface _ | .getWebosShellSurface surface _ | .surfaceDestroy surface =>
      surface ∈ world.surfaces
  | .createSurface _ | .proxyDestroy _ => True

instance decidableHasSurface (input : SurfaceInput) : Decidable (world.Has input) :=
  match input with
  | .getShellSurface .. | .getWebosShellSurface .. | .surfaceDestroy _ =>
      List.instDecidableMemOfLawfulBEq ..
  | .createSurface _ | .proxyDestroy _ => isTrue trivial

def surfacesAfter (input : SurfaceInput) (handle : UInt32) : List UInt32 :=
  match input with
  | .createSurface _ => world.surfaces ++ [handle]
  | _ =>
      match input.destroys world.bridge.stub with
      | some gone => world.surfaces.filter (· ≠ gone)
      | none => world.surfaces

/-- A call with the handle that it returns. -/
def perform (input : SurfaceInput) : Option (SurfaceWorld × UInt32) :=
  if world.Has input then
    (world.bridge.call (input.marshal world.bridge.stub) input.answer).map fun done =>
      ({ bridge := done.1, surfaces := world.surfacesAfter input done.2 }, done.2)
  else none

/-- `surface_slot_map` is a bijection of the client's surfaces and those of `g_surfs`. -/
def Corresponds : Prop :=
  Set.BijOn (fun handle => (world.bridge.stub.slotForSurface handle).toNat)
    { handle | handle ∈ world.surfaces }
    { slot | ∃ entry : Fin proxySurfMax, entry.val = slot ∧ world.bridge.tables.gSurfs entry ≠ 0 }

/-- A call of the client comes to its end, with surfaces that correspond; it destroys what
belongs to the object that it is for, and the handle that it makes is of its own kind. -/
def Kept (input : SurfaceInput) : Prop :=
  world.Has input → ∃ next handle, world.perform input = some (next, handle) ∧
    next.Corresponds ∧ input.OfKind handle ∧
    ∀ gone, input.destroys world.bridge.stub = some gone →
      OwnCleared world.bridge.stub world.bridge.tables next.bridge.tables (objectOf gone)

/-- At most `SURF_MAP_MAX` surfaces are created, the proxy makes each of them, and the slot of
a shell surface that is destroyed has no webOS shell surface. -/
def Orderly : SurfaceInput → Prop
  | .createSurface answer =>
      answer ≠ 0 ∧ world.bridge.tables.proxyWlCompositor ≠ 0 ∧
        world.bridge.stub.nextSurface.toNat < bhSurfaceBase + surfMapMax
  | .proxyDestroy handle => Lone world.bridge (objectOf (world.bridge.stub.resolveHandle handle))
  | _ => True

end SurfaceWorld

def surfaceMachine : Machine SurfaceWorld SurfaceInput where
  step world input := (world.perform input).map Prod.fst

/-! ## The calls -/

section

variable {stub : WlBridgeState} {surface handle : UInt32}

theorem marshal_createSurface (answer : UInt32) :
    (SurfaceInput.createSurface answer).marshal stub = stub.createSurface := by
  have direct : stub.resolveHandle bhCompositor = bhCompositor :=
    WlBridgeState.resolveHandle_of_small (by decide)
  change stub.wlProxyMarshalFlags _ _ _ _ = _
  rw [WlBridgeState.wlProxyMarshalFlags, WlBridgeState.branch, direct]
  rfl

theorem marshal_getShellSurface (answer : UInt32) :
    (SurfaceInput.getShellSurface surface answer).marshal stub =
      stub.getShellSurface .wlShellGetShellSurface (.ofNat bhShellSurfBase) surface := by
  have direct : stub.resolveHandle bhShell = bhShell :=
    WlBridgeState.resolveHandle_of_small (by decide)
  change stub.wlProxyMarshalFlags _ _ _ _ = _
  rw [WlBridgeState.wlProxyMarshalFlags, WlBridgeState.branch, direct]
  rfl

theorem marshal_getWebosShellSurface (answer : UInt32) :
    (SurfaceInput.getWebosShellSurface surface answer).marshal stub =
      stub.getShellSurface .wlWebosShellGetShellSurface (.ofNat bhWebosSurfBase) surface := by
  have direct : stub.resolveHandle bhWebosShell = bhWebosShell :=
    WlBridgeState.resolveHandle_of_small (by decide)
  change stub.wlProxyMarshalFlags _ _ _ _ = _
  rw [WlBridgeState.wlProxyMarshalFlags, WlBridgeState.branch, direct]
  rfl

variable {offset : Fin surfMapMax}

theorem surface_small (offset : Fin surfMapMax) : bhSurfaceBase + offset.val < 4294967296 :=
  Nat.lt_of_lt_of_le (Nat.add_lt_add_left offset.isLt _) (by decide)

theorem objectOf_surface :
    objectOf (handleAt bhSurfaceBase offset.val) =
      .surface ⟨offset.val, offset.isLt.trans (by decide)⟩ := by
  revert offset
  decide

theorem marshal_surfaceDestroy :
    (SurfaceInput.surfaceDestroy (handleAt bhSurfaceBase offset.val)).marshal stub =
      stub.sendsTo (stub.slotFor offset.val) .wlSurfaceDestroy 0 := by
  have small : (handleAt bhSurfaceBase offset.val).toNat < bhWrapperBase := by
    revert offset
    decide
  change stub.wlProxyMarshalFlags _ _ _ _ = _
  rw [WlBridgeState.wlProxyMarshalFlags, WlBridgeState.branch,
    WlBridgeState.resolveHandle_of_small small, objectOf_surface]
  rfl

theorem slotForSurface_handleAt :
    stub.slotForSurface (handleAt bhSurfaceBase offset.val) = stub.slotFor offset.val := by
  have number : (handleAt bhSurfaceBase offset.val).toNat = bhSurfaceBase + offset.val :=
    toNat_handleAt (surface_small offset)
  rw [WlBridgeState.slotForSurface, if_pos (number ▸ Nat.le_add_right ..), number,
    Nat.add_sub_cancel_left]

theorem slotFor_eq : stub.slotFor offset.val = stub.surfaceSlotMap offset :=
  dif_pos offset.isLt

/-- The handles of the shell surfaces have the offset of the surface. -/
theorem ofKind_shell (base : Nat) (fits : base = bhShellSurfBase ∨ base = bhWebosSurfBase) :
    UInt32.ofNat base + (handleAt bhSurfaceBase offset.val - .ofNat bhSurfaceBase) =
      handleAt base offset.val := by
  rcases fits with rfl | rfl
  · revert offset
    decide
  · revert offset
    decide

end

/-! ## The invariant -/

/-- The entry of the surface that was created as the given one. -/
def entryOf (offset : Fin surfMapMax) : Fin proxySurfMax :=
  ⟨offset.val + 1, Nat.lt_of_le_of_lt offset.isLt (by decide)⟩

theorem toNat_slot (offset : Fin surfMapMax) :
    (UInt32.ofNat (offset.val + 1)).toNat = (entryOf offset).val := by
  revert offset
  decide

theorem entryOf_injective {one other : Fin surfMapMax} (same : entryOf one = entryOf other) :
    one = other :=
  Fin.ext (Nat.succ.inj (congrArg Fin.val same))

namespace SurfaceWorld

variable {world next : SurfaceWorld} {created : Nat}

theorem perform_eq {input : SurfaceInput} {after : WlBridge} {handle : UInt32}
    (has : world.Has input)
    (called : world.bridge.call (input.marshal world.bridge.stub) input.answer =
      some (after, handle)) :
    world.perform input =
      some ({ bridge := after, surfaces := world.surfacesAfter input handle }, handle) := by
  rw [perform, if_pos has, called]
  rfl

/-- Both sides count their surfaces alike, and the client's are those of the proxy. -/
structure Sound (world : SurfaceWorld) (created : Nat) : Prop where
  few : created ≤ surfMapMax
  handles : world.bridge.stub.nextSurface = handleAt bhSurfaceBase created
  slots : world.bridge.tables.gSurfNext = .ofNat (created + 1)
  mapped : ∀ offset : Fin surfMapMax, world.bridge.stub.surfaceSlotMap offset =
    if offset.val < created then .ofNat (offset.val + 1) else 0
  made : ∀ handle ∈ world.surfaces, ∃ offset : Fin surfMapMax, offset.val < created ∧
    handle = handleAt bhSurfaceBase offset.val
  held : ∀ offset, world.bridge.tables.gSurfs (entryOf offset) ≠ 0 ↔
    handleAt bhSurfaceBase offset.val ∈ world.surfaces
  entered : ∀ entry, world.bridge.tables.gSurfs entry ≠ 0 → ∃ offset, entry = entryOf offset

namespace Sound

variable {offset : Fin surfMapMax}

theorem slotFor_made (sound : world.Sound created) (below : offset.val < created) :
    world.bridge.stub.slotFor offset.val = .ofNat (offset.val + 1) := by
  rw [slotFor_eq, sound.mapped offset, if_pos below]

theorem toNat_slotFor (sound : world.Sound created) (below : offset.val < created) :
    (world.bridge.stub.slotFor offset.val).toNat = (entryOf offset).val := by
  rw [sound.slotFor_made below]
  exact toNat_slot offset

theorem slotFor_ne_zero (sound : world.Sound created) (below : offset.val < created) :
    world.bridge.stub.slotFor offset.val ≠ 0 := by
  intro zero
  have number := sound.toNat_slotFor below
  rw [zero] at number
  exact absurd number (Nat.succ_ne_zero _).symm

theorem corresponds (sound : world.Sound created) : world.Corresponds := by
  refine ⟨?_, ?_, ?_⟩
  · intro handle member
    obtain ⟨offset, below, rfl⟩ := sound.made handle member
    refine ⟨entryOf offset, ?_, (sound.held offset).mpr member⟩
    dsimp only
    rw [slotForSurface_handleAt, sound.toNat_slotFor below]
  · intro one first two second same
    obtain ⟨offset, below, rfl⟩ := sound.made one first
    obtain ⟨other, under, rfl⟩ := sound.made two second
    dsimp only at same
    rw [slotForSurface_handleAt, slotForSurface_handleAt, sound.toNat_slotFor below,
      sound.toNat_slotFor under] at same
    rw [entryOf_injective (Fin.ext same)]
  · rintro slot ⟨entry, rfl, full⟩
    obtain ⟨offset, rfl⟩ := sound.entered entry full
    have member := (sound.held offset).mp full
    obtain ⟨other, below, same⟩ := sound.made _ member
    have equal : offset.val = other.val := handleAt_injective (surface_small _) (surface_small _) same
    refine ⟨handleAt bhSurfaceBase offset.val, member, ?_⟩
    dsimp only
    rw [slotForSurface_handleAt, sound.toNat_slotFor (by omega)]

/-! ### Creation -/

theorem createSurface {answer : UInt32} (sound : world.Sound created)
    (orderly : world.Orderly (.createSurface answer)) :
    ∃ next handle, world.perform (.createSurface answer) = some (next, handle) ∧
      next.Sound (created + 1) ∧ (SurfaceInput.createSurface answer).OfKind handle := by
  obtain ⟨made, bound, room⟩ := orderly
  rw [sound.handles] at room
  have small := sound.few
  have number : (handleAt bhSurfaceBase created).toNat = bhSurfaceBase + created :=
    toNat_handleAt (Nat.lt_of_le_of_lt (Nat.add_le_add_left small _) (by decide))
  have below : created < surfMapMax := by omega
  let offset : Fin surfMapMax := ⟨created, below⟩
  have slot : world.bridge.tables.gSurfNext.toNat = (entryOf offset).val := by
    rw [sound.slots]
    exact toNat_slot offset
  have space : world.bridge.tables.gSurfNext.toNat < proxySurfMax := by
    rw [slot]
    exact (entryOf offset).isLt
  have entry : (⟨world.bridge.tables.gSurfNext.toNat, space⟩ : Fin proxySurfMax) =
      entryOf offset := Fin.ext slot
  have called := WlBridge.call_createSurface bound space made
  rw [entry, sound.handles] at called
  rw [← marshal_createSurface answer] at called
  have has : world.Has (.createSurface answer) := trivial
  have performed := perform_eq has called
  have kind : objectOf (handleAt bhSurfaceBase offset.val) = _ := objectOf_surface
  refine ⟨_, _, performed, ?_, ⟨_, kind⟩⟩
  constructor
  case few => exact below
  case handles =>
    change world.bridge.stub.nextSurface + 1 = _
    rw [sound.handles, handleAt_succ]
  case slots =>
    change world.bridge.tables.gSurfNext + 1 = _
    rw [sound.slots, UInt32.ofNat_add (created + 1)]
    rfl
  case mapped =>
    intro other
    change (world.bridge.stub.recordSurface _).surfaceSlotMap other = _
    rw [WlBridgeState.surfaceSlotMap_recordSurface sound.handles offset.isLt]
    rcases eq_or_ne other offset with rfl | apart
    · rw [Function.update_self, if_pos (Nat.lt_succ_self _), sound.slots]
    · rw [Function.update_of_ne apart, sound.mapped other]
      have different : other.val ≠ created := fun same => apart (Fin.ext same)
      exact if_congr (by omega) rfl rfl
  case made =>
    intro handle member
    rcases List.mem_append.mp member with before | new
    · obtain ⟨other, under, same⟩ := sound.made handle before
      exact ⟨other, Nat.lt_succ_of_lt under, same⟩
    · exact ⟨offset, Nat.lt_succ_self _, List.mem_singleton.mp new⟩
  case held =>
    intro other
    change Function.update _ _ _ (entryOf other) ≠ 0 ↔ _ ∈ world.surfaces ++ [_]
    rw [List.mem_append, List.mem_singleton]
    rcases eq_or_ne other offset with rfl | apart
    · rw [Function.update_self]
      exact ⟨fun _ => .inr rfl, fun _ => made⟩
    · rw [Function.update_of_ne fun same => apart (entryOf_injective same), sound.held other]
      refine ⟨.inl, ?_⟩
      rintro (before | new)
      · exact before
      · exact absurd (Fin.ext (handleAt_injective (surface_small _) (surface_small offset) new)) apart
  case entered =>
    intro entry full
    change Function.update _ _ _ entry ≠ 0 at full
    rcases eq_or_ne entry (entryOf offset) with rfl | apart
    · exact ⟨offset, rfl⟩
    · rw [Function.update_of_ne apart] at full
      exact sound.entered entry full

/-! ### Shell surfaces -/

theorem kind_shellSurf (offset : Fin surfMapMax) :
    objectOf (handleAt bhShellSurfBase offset.val) =
        .shellSurf ⟨offset.val, offset.isLt.trans (by decide)⟩ ∧
      handleAt bhShellSurfBase offset.val ≠ bhDummy ∧
      handleAt bhShellSurfBase offset.val ≠ bhDummySync := by
  revert offset
  decide

theorem kind_webosSurf (offset : Fin surfMapMax) :
    objectOf (handleAt bhWebosSurfBase offset.val) =
      .webosSurf ⟨offset.val, offset.isLt.trans (by decide)⟩ := by
  revert offset
  decide

theorem getShellSurface {surface answer : UInt32} (sound : world.Sound created)
    (has : surface ∈ world.surfaces) :
    ∃ next handle, world.perform (.getShellSurface surface answer) = some (next, handle) ∧
      next.Sound created ∧ (SurfaceInput.getShellSurface surface answer).OfKind handle := by
  obtain ⟨offset, below, rfl⟩ := sound.made surface has
  have mapped := sound.slotFor_ne_zero below
  have room : (world.bridge.stub.slotFor offset.val).toNat < proxySurfMax := by
    rw [sound.toNat_slotFor below]
    exact (entryOf offset).isLt
  rw [← slotForSurface_handleAt] at mapped room
  obtain ⟨shellSurfs, called⟩ := WlBridge.call_getShellSurface mapped room
  rw [← marshal_getShellSurface answer, ofKind_shell _ (.inl rfl)] at called
  have named : world.Has (.getShellSurface (handleAt bhSurfaceBase offset.val) answer) := has
  refine ⟨_, _, perform_eq named called, ?_, ⟨_, (kind_shellSurf offset).1⟩,
    (kind_shellSurf offset).2⟩
  exact ⟨sound.few, sound.handles, sound.slots, sound.mapped, sound.made, sound.held, sound.entered⟩

theorem getWebosShellSurface {surface answer : UInt32} (sound : world.Sound created)
    (has : surface ∈ world.surfaces) :
    ∃ next handle, world.perform (.getWebosShellSurface surface answer) = some (next, handle) ∧
      next.Sound created ∧ (SurfaceInput.getWebosShellSurface surface answer).OfKind handle := by
  obtain ⟨offset, below, rfl⟩ := sound.made surface has
  have mapped := sound.slotFor_ne_zero below
  have room : (world.bridge.stub.slotFor offset.val).toNat < proxySurfMax := by
    rw [sound.toNat_slotFor below]
    exact (entryOf offset).isLt
  rw [← slotForSurface_handleAt] at mapped room
  obtain ⟨webosSurfs, called⟩ := WlBridge.call_getWebosShellSurface mapped room
  rw [← marshal_getWebosShellSurface answer, ofKind_shell _ (.inr rfl)] at called
  have named : world.Has (.getWebosShellSurface (handleAt bhSurfaceBase offset.val) answer) := has
  refine ⟨_, _, perform_eq named called, ?_, _, kind_webosSurf offset⟩
  exact ⟨sound.few, sound.handles, sound.slots, sound.mapped, sound.made, sound.held, sound.entered⟩

/-! ### Destruction -/

/-- A surface is forgotten on both sides. -/
theorem forget {gone : UInt32} {after : WlBridge} (sound : world.Sound created)
    (handles : after.stub.nextSurface = world.bridge.stub.nextSurface)
    (mapped : after.stub.surfaceSlotMap = world.bridge.stub.surfaceSlotMap)
    (slots : after.tables.gSurfNext = world.bridge.tables.gSurfNext)
    (held : ∀ offset, after.tables.gSurfs (entryOf offset) ≠ 0 ↔
      world.bridge.tables.gSurfs (entryOf offset) ≠ 0 ∧ handleAt bhSurfaceBase offset.val ≠ gone)
    (entered : ∀ entry, after.tables.gSurfs entry ≠ 0 → world.bridge.tables.gSurfs entry ≠ 0) :
    Sound { bridge := after, surfaces := world.surfaces.filter (· ≠ gone) } created where
  few := sound.few
  handles := handles.trans sound.handles
  slots := slots.trans sound.slots
  mapped offset := (congrFun mapped offset).trans (sound.mapped offset)
  made handle member := sound.made handle (List.mem_of_mem_filter member)
  held offset := by
    rw [held offset, sound.held offset, List.mem_filter, decide_eq_true_iff]
  entered entry full := sound.entered entry (entered entry full)

/-- Who is not a surface of the client is forgotten without a change. -/
theorem forget_absent {gone : UInt32} {after : WlBridge} (sound : world.Sound created)
    (handles : after.stub.nextSurface = world.bridge.stub.nextSurface)
    (mapped : after.stub.surfaceSlotMap = world.bridge.stub.surfaceSlotMap)
    (slots : after.tables.gSurfNext = world.bridge.tables.gSurfNext)
    (surfs : after.tables.gSurfs = world.bridge.tables.gSurfs) (absent : gone ∉ world.surfaces) :
    Sound { bridge := after, surfaces := world.surfaces.filter (· ≠ gone) } created := by
  apply sound.forget handles mapped slots
  · intro offset
    rw [surfs]
    refine ⟨fun full => ⟨full, ?_⟩, And.left⟩
    rintro rfl
    exact absent ((sound.held offset).mp full)
  · intro entry full
    rwa [surfs] at full

theorem absent_of_object {gone : UInt32} (sound : world.Sound created)
    (object : ∀ offset, objectOf gone ≠ .surface offset) : gone ∉ world.surfaces := by
  intro member
  obtain ⟨offset, -, rfl⟩ := sound.made gone member
  exact object _ objectOf_surface

/-- The entry of the surface is cleared. -/
theorem forget_made {offset : Fin surfMapMax} {after : WlBridge} (sound : world.Sound created)
    (stub : after.stub = world.bridge.stub)
    (slots : after.tables.gSurfNext = world.bridge.tables.gSurfNext)
    (surfs : after.tables.gSurfs = Function.update world.bridge.tables.gSurfs (entryOf offset) 0) :
    Sound { bridge := after,
            surfaces := world.surfaces.filter (· ≠ handleAt bhSurfaceBase offset.val) } created := by
  apply sound.forget (congrArg _ stub) (congrArg _ stub) slots
  · intro other
    rw [surfs]
    rcases eq_or_ne other offset with rfl | apart
    · rw [Function.update_self]
      exact ⟨fun full => absurd rfl full, fun kept => absurd rfl kept.2⟩
    · rw [Function.update_of_ne fun same => apart (entryOf_injective same)]
      refine ⟨fun full => ⟨full, fun same => apart (Fin.ext ?_)⟩, And.left⟩
      exact handleAt_injective (surface_small other) (surface_small offset) same
  · intro entry full
    rw [surfs] at full
    rcases eq_or_ne entry (entryOf offset) with rfl | apart
    · exact absurd (Function.update_self ..) full
    · rwa [Function.update_of_ne apart] at full

/-- A handle has no slot, or it is one of a surface that was made. -/
theorem slotFor_cases (sound : world.Sound created) (number : Nat) :
    world.bridge.stub.slotFor number = 0 ∨
      ∃ offset : Fin surfMapMax, offset.val = number ∧ offset.val < created := by
  by_cases inside : number < surfMapMax
  · by_cases below : number < created
    · exact .inr ⟨⟨number, inside⟩, rfl, below⟩
    · left
      change world.bridge.stub.slotFor (⟨number, inside⟩ : Fin surfMapMax).val = 0
      rw [slotFor_eq, sound.mapped, if_neg below]
  · exact .inl (dif_neg inside)

theorem room_slotFor (sound : world.Sound created) (below : offset.val < created) :
    (world.bridge.stub.slotFor offset.val).toNat < proxySurfMax := by
  rw [sound.toNat_slotFor below]
  exact (entryOf offset).isLt

theorem entry_slotFor (sound : world.Sound created) (below : offset.val < created) :
    (⟨(world.bridge.stub.slotFor offset.val).toNat, sound.room_slotFor below⟩ : Fin proxySurfMax) =
      entryOf offset :=
  Fin.ext (sound.toNat_slotFor below)

/-- The entry of a surface that was made. -/
theorem cleared_made (sound : world.Sound created) (below : offset.val < created)
    (table : Fin proxySurfMax → UInt32) :
    cleared table (world.bridge.stub.slotFor offset.val) =
      Function.update table (entryOf offset) 0 := by
  have inside := And.intro (sound.slotFor_ne_zero below) (sound.room_slotFor below)
  rw [cleared, dif_pos inside, sound.entry_slotFor below]

theorem cleared_zero (table : Fin proxySurfMax → UInt32) : cleared table 0 = table :=
  dif_neg fun inside => inside.1 rfl

/-- An entry that is null already stays so. -/
theorem cleared_null (sound : world.Sound created) {number : Nat}
    {table : Fin proxySurfMax → UInt32}
    (null : entryAt table (world.bridge.stub.slotFor number) = 0) :
    cleared table (world.bridge.stub.slotFor number) = table := by
  rcases sound.slotFor_cases number with none | ⟨offset, rfl, below⟩
  · rw [none, cleared_zero]
  · have room := sound.room_slotFor below
    rw [entryAt, dif_pos room, sound.entry_slotFor below] at null
    rw [sound.cleared_made below, Function.update_eq_self_iff]
    exact null.symm

/-- What a destruction comes to. -/
def Destroyed (world : SurfaceWorld) (created : Nat) (input : SurfaceInput) (gone : UInt32) :
    Prop :=
  ∃ next handle, world.perform input = some (next, handle) ∧ next.Sound created ∧
    OwnCleared world.bridge.stub world.bridge.tables next.bridge.tables (objectOf gone)

theorem surfaceDestroy {surface : UInt32} (sound : world.Sound created)
    (has : surface ∈ world.surfaces) :
    Destroyed world created (.surfaceDestroy surface) surface := by
  obtain ⟨offset, below, rfl⟩ := sound.made surface has
  have called : world.bridge.call
      (world.bridge.stub.sendsTo (world.bridge.stub.slotFor offset.val) .wlSurfaceDestroy 0) 0 = _ :=
    WlBridge.call_surfaceDestroy (sound.slotFor_ne_zero below) (sound.room_slotFor below)
  rw [← marshal_surfaceDestroy, sound.entry_slotFor below] at called
  have named : world.Has (.surfaceDestroy (handleAt bhSurfaceBase offset.val)) := has
  refine ⟨_, _, perform_eq named called, sound.forget_made rfl rfl rfl, ?_⟩
  rw [objectOf_surface]
  exact ⟨(sound.cleared_made below _).symm, rfl, rfl⟩

/-- Nothing is told to the proxy. -/
theorem proxyDestroy_quiet {handle : UInt32} {object : BridgeObject} (sound : world.Sound created)
    (resolved : objectOf (world.bridge.stub.resolveHandle handle) = object)
    (quiet : world.bridge.stub.destroySends object = none)
    (absent : world.bridge.stub.resolveHandle handle ∉ world.surfaces)
    (own : OwnCleared world.bridge.stub world.bridge.tables world.bridge.tables object) :
    Destroyed world created (.proxyDestroy handle) (world.bridge.stub.resolveHandle handle) := by
  have called : world.bridge.call
      ((SurfaceInput.proxyDestroy handle).marshal world.bridge.stub) 0 = _ :=
    WlBridge.call_proxyDestroy_quiet resolved quiet
  obtain ⟨mapped, handles⟩ := world.bridge.stub.destroyLocally_surfaces object
  have named : world.Has (.proxyDestroy handle) := trivial
  refine ⟨_, _, perform_eq named called, sound.forget_absent handles mapped rfl rfl absent, ?_⟩
  rw [resolved]
  exact own

theorem proxyDestroy_surface {handle : UInt32} {offset : Fin surfaceRange}
    (sound : world.Sound created)
    (surface : objectOf (world.bridge.stub.resolveHandle handle) = .surface offset) :
    Destroyed world created (.proxyDestroy handle) (world.bridge.stub.resolveHandle handle) := by
  have same := eq_of_objectOf_surface surface
  rcases sound.slotFor_cases offset.val with none | ⟨made, number, below⟩
  · apply sound.proxyDestroy_quiet surface
    · rw [WlBridgeState.destroySends, if_pos none]
    · intro member
      obtain ⟨other, under, handles⟩ := sound.made _ member
      rw [same] at handles
      have small : bhSurfaceBase + offset.val < 4294967296 :=
        Nat.lt_of_lt_of_le (Nat.add_lt_add_left offset.isLt _) (by decide)
      have offsets := handleAt_injective small (surface_small other) handles
      rw [offsets] at none
      exact sound.slotFor_ne_zero under none
    · refine ⟨?_, rfl, rfl⟩
      rw [none, cleared_zero]
  · have mapped := sound.slotFor_ne_zero below
    have room := sound.room_slotFor below
    have entry := sound.entry_slotFor below
    have clears := sound.cleared_made below world.bridge.tables.gSurfs
    rw [number] at mapped room clears
    simp only [number] at entry
    have called : world.bridge.call
        ((SurfaceInput.proxyDestroy handle).marshal world.bridge.stub) 0 = _ :=
      WlBridge.call_proxyDestroy_surface surface mapped room
    rw [entry] at called
    have named : world.Has (.proxyDestroy handle) := trivial
    have performed := perform_eq named called
    refine ⟨_, _, performed, ?_, ?_⟩
    · have gone : world.bridge.stub.resolveHandle handle = handleAt bhSurfaceBase made.val := by
        rw [same, number]
      change Sound { bridge := _, surfaces := world.surfaces.filter (· ≠ _) } created
      rw [gone]
      exact sound.forget_made rfl rfl rfl
    · rw [surface]
      exact ⟨clears.symm, rfl, rfl⟩

theorem proxyDestroy_shellSurf {handle : UInt32} {offset : Fin surfaceRange}
    (sound : world.Sound created)
    (shellSurf : objectOf (world.bridge.stub.resolveHandle handle) = .shellSurf offset)
    (alone : entryAt world.bridge.tables.gWebosShellSurfaces
      (world.bridge.stub.slotFor offset.val) = 0) :
    Destroyed world created (.proxyDestroy handle) (world.bridge.stub.resolveHandle handle) := by
  have absent : world.bridge.stub.resolveHandle handle ∉ world.surfaces :=
    sound.absent_of_object (by simp [shellSurf])
  rcases sound.slotFor_cases offset.val with none | ⟨made, number, below⟩
  · apply sound.proxyDestroy_quiet shellSurf
    · rw [WlBridgeState.destroySends, if_pos none]
    · exact absent
    · refine ⟨rfl, ?_, rfl⟩
      rw [none, cleared_zero]
  · have mapped := sound.slotFor_ne_zero below
    have room := sound.room_slotFor below
    have entry := sound.entry_slotFor below
    have clears := sound.cleared_made below world.bridge.tables.gShellSurfs
    have stays := sound.cleared_null alone
    have clearsWebos := sound.cleared_made below world.bridge.tables.gWebosShellSurfaces
    rw [number] at mapped room clears clearsWebos
    simp only [number] at entry
    have called : world.bridge.call
        ((SurfaceInput.proxyDestroy handle).marshal world.bridge.stub) 0 = _ :=
      WlBridge.call_proxyDestroy_shellSurf shellSurf mapped room
    rw [entry, ← clears, ← clearsWebos, stays] at called
    have named : world.Has (.proxyDestroy handle) := trivial
    refine ⟨_, _, perform_eq named called, sound.forget_absent rfl rfl rfl rfl absent, ?_⟩
    rw [shellSurf]
    exact ⟨rfl, rfl, rfl⟩

theorem proxyDestroy {handle : UInt32} (sound : world.Sound created)
    (orderly : world.Orderly (.proxyDestroy handle)) :
    Destroyed world created (.proxyDestroy handle) (world.bridge.stub.resolveHandle handle) := by
  change Lone _ _ at orderly
  cases object : objectOf (world.bridge.stub.resolveHandle handle) with
  | surface offset => exact sound.proxyDestroy_surface object
  | shellSurf offset =>
      rw [object] at orderly
      exact sound.proxyDestroy_shellSurf object orderly
  | webosSurf offset =>
      rw [object] at orderly
      apply sound.proxyDestroy_quiet object rfl
      · exact sound.absent_of_object (by simp [object])
      · exact ⟨rfl, rfl, (sound.cleared_null orderly).symm⟩
  | _ =>
      apply sound.proxyDestroy_quiet object rfl
      · exact sound.absent_of_object (by simp [object])
      · exact ⟨rfl, rfl, rfl⟩

theorem kept {input : SurfaceInput} (sound : world.Sound created) (orderly : world.Orderly input) :
    world.Kept input := by
  intro has
  cases input with
  | createSurface answer =>
      obtain ⟨next, handle, performed, after, kind⟩ := sound.createSurface orderly
      exact ⟨next, handle, performed, after.corresponds, kind, nofun⟩
  | getShellSurface surface answer =>
      obtain ⟨next, handle, performed, after, kind⟩ := sound.getShellSurface has
      exact ⟨next, handle, performed, after.corresponds, kind, nofun⟩
  | getWebosShellSurface surface answer =>
      obtain ⟨next, handle, performed, after, kind⟩ := sound.getWebosShellSurface has
      exact ⟨next, handle, performed, after.corresponds, kind, nofun⟩
  | surfaceDestroy surface =>
      obtain ⟨next, handle, performed, after, own⟩ := sound.surfaceDestroy has
      refine ⟨next, handle, performed, after.corresponds, trivial, fun gone same => ?_⟩
      cases same
      exact own
  | proxyDestroy number =>
      obtain ⟨next, handle, performed, after, own⟩ := sound.proxyDestroy orderly
      refine ⟨next, handle, performed, after.corresponds, trivial, fun gone same => ?_⟩
      cases same
      exact own

end Sound

/-- A step from a sound state under the condition. -/
theorem sound_step {input : SurfaceInput} (before : ∃ created, world.Sound created)
    (orderly : world.Orderly input) (stepped : surfaceMachine.step world input = some next) :
    ∃ created, next.Sound created := by
  obtain ⟨created, sound⟩ := before
  obtain ⟨⟨after, handle⟩, performed, rfl⟩ := Option.map_eq_some_iff.mp stepped
  have has : world.Has input := by
    by_contra lacks
    rw [perform, if_neg lacks] at performed
    cases performed
  have ends {reached : SurfaceWorld × UInt32} (runs : world.perform input = some reached) :
      reached = (after, handle) := Option.some.inj (runs.symm.trans performed)
  cases input with
  | createSurface answer =>
      obtain ⟨reached, made, runs, holds, -⟩ := sound.createSurface orderly
      cases ends runs
      exact ⟨_, holds⟩
  | getShellSurface surface answer =>
      obtain ⟨reached, made, runs, holds, -⟩ := sound.getShellSurface has
      cases ends runs
      exact ⟨_, holds⟩
  | getWebosShellSurface surface answer =>
      obtain ⟨reached, made, runs, holds, -⟩ := sound.getWebosShellSurface has
      cases ends runs
      exact ⟨_, holds⟩
  | surfaceDestroy surface =>
      obtain ⟨reached, made, runs, holds, -⟩ := sound.surfaceDestroy has
      cases ends runs
      exact ⟨_, holds⟩
  | proxyDestroy number =>
      obtain ⟨reached, made, runs, holds, -⟩ := sound.proxyDestroy orderly
      cases ends runs
      exact ⟨_, holds⟩

theorem Sound.connect {bridge after : WlBridge} {words : Nat → UInt32} {name : List UInt8}
    {display compositor shell webosShell : UInt32}
    (connects : bridge.connect words name display compositor shell webosShell = some after) :
    Sound { bridge := after, surfaces := [] } 0 := by
  obtain ⟨handles, mapped, next, surfs⟩ := WlBridge.connect_fresh connects
  constructor
  case few => exact Nat.zero_le _
  case handles => exact handles
  case slots => exact next
  case mapped => exact fun offset => congrFun mapped offset
  case made => exact fun handle member => nomatch member
  case held =>
    intro offset
    rw [surfs]
    exact ⟨fun full => absurd rfl full, nofun⟩
  case entered =>
    intro entry full
    rw [surfs] at full
    exact absurd rfl full

end SurfaceWorld

/-! ## Runs -/

/-- The surfaces correspond, and each destruction and each creation is what it should be, in
a run after a connect in which at most `SURF_MAP_MAX` surfaces are created, the proxy makes
each of them, and no shell surface is destroyed whose slot has a webOS shell surface. -/
theorem kept_of_orderly {bridge start : WlBridge} {words : Nat → UInt32} {name : List UInt8}
    {display compositor shell webosShell : UInt32} {inputs : List SurfaceInput}
    (connects : bridge.connect words name display compositor shell webosShell = some start)
    (orderly : surfaceMachine.Along SurfaceWorld.Orderly ⟨start, []⟩ inputs) :
    surfaceMachine.Along SurfaceWorld.Kept ⟨start, []⟩ inputs := by
  have begun : ∃ created, SurfaceWorld.Sound ⟨start, []⟩ created := ⟨0, .connect connects⟩
  exact Machine.Along.of_invariant SurfaceWorld.sound_step
    (fun ⟨_, sound⟩ allowed => sound.kept allowed) begun orderly

instance decidableOrderlySurface (world : SurfaceWorld) (input : SurfaceInput) :
    Decidable (world.Orderly input) :=
  match input with
  | .createSurface _ =>
      @instDecidableAnd _ _ instDecidableNot
        (@instDecidableAnd _ _ instDecidableNot (Nat.decLt ..))
  | .proxyDestroy _ => decidableLone ..
  | .getShellSurface .. | .getWebosShellSurface .. | .surfaceDestroy _ => isTrue trivial

/-! ## Runs of one client -/

/-- What a first connect leaves. -/
def freshBridge : WlBridge where
  stub := WlBridgeState.zero.connected
    (WlBridgeState.connectWords 8 ⟨false, 0, 0, 0, []⟩ ⟨1920, 1080, 60000, 527, 296, 1⟩) []
  tables :=
    { HandleTables.zero with
      proxyWlDisplay := 1
      proxyWlCompositor := 2
      proxyWlShell := 3
      proxyWlWebosShell := 4
      displayTable := Function.update (fun _ => 0) 1 1 }

theorem connect_freshBridge :
    WlBridge.connect ⟨.zero, .zero⟩ (WlBridgeState.connectWords 8 ⟨false, 0, 0, 0, []⟩
      ⟨1920, 1080, 60000, 527, 296, 1⟩) [] 1 2 3 4 = some freshBridge := rfl

/-- A surface is made, shown with a shell surface, and destroyed. -/
theorem orderly_surface :
    surfaceMachine.Along SurfaceWorld.Kept ⟨freshBridge, []⟩
      [.createSurface 5, .getShellSurface 100 6, .proxyDestroy 200, .surfaceDestroy 100] :=
  kept_of_orderly connect_freshBridge (by decide)

/-- A client that has a webOS shell surface. -/
def webosShown : SurfaceWorld :=
  (surfaceMachine.run ⟨freshBridge, []⟩ [.createSurface 5, .getWebosShellSurface 100 6]).get
    (by decide)

/-- The client destroys its webOS shell surface, and the one of the proxy stays. -/
theorem webos_surface_stays :
    surfaceMachine.run ⟨freshBridge, []⟩ [.createSurface 5, .getWebosShellSurface 100 6] =
        some webosShown ∧
      ¬ webosShown.Kept (.proxyDestroy 300) := by
  refine ⟨(Option.some_get _).symm, fun kept => ?_⟩
  obtain ⟨next, handle, performed, -, -, own⟩ := kept trivial
  have direct : webosShown.bridge.stub.resolveHandle 300 = 300 :=
    WlBridgeState.resolveHandle_of_small (by decide)
  have object : objectOf 300 = .webosSurf 0 := by decide
  have clears := own 300 (congrArg some direct)
  rw [object] at clears
  have evaluated : (webosShown.perform (.proxyDestroy 300)).map
      (fun done => done.1.bridge.tables.gWebosShellSurfaces 1) = some 6 := by
    decide +kernel
  rw [performed] at evaluated
  have stays : next.bridge.tables.gWebosShellSurfaces 1 = 6 := Option.some.inj evaluated
  have null : cleared webosShown.bridge.tables.gWebosShellSurfaces
      (webosShown.bridge.stub.slotFor 0) 1 = 0 := by decide +kernel
  rw [clears.2.2] at stays
  cases null.symm.trans stays

end GlesBridge.Wayland
