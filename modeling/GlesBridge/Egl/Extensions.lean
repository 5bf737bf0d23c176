import GlesBridge.Args.Order
import GlesBridge.Proxy.Generated

namespace GlesBridge.Egl

open GlesBridge.Data GlesBridge.Shared GlesBridge.Stub GlesBridge.Proxy GlesBridge.Systems

/-! Extension functions, from `eglGetProcAddress` to the call of the driver. -/

/-- The headers that the two sides are generated from, and the driver. -/
structure Extensions where
  funcs : Api → List Signature
  accepted : ∀ api, ∀ function ∈ funcs api, accepts api function = true
  /-- The generated files compile. -/
  distinct : ∀ api, ((funcs api).map (·.name)).Nodup
  others : String → ParamType
  driver : String → Bool

/-- The objects that the stub knows by a number. -/
inductive ObjectKind where
  | display | config | context | surface
deriving DecidableEq, Repr

structure Bridge where
  stub : StubState
  dyn : DynTables
  /-- The real objects, as numbers of the proxy's pointers. -/
  objects : ObjectKind → Int → Int

variable {ext : Extensions} {bridge next : Bridge} {api : Api} {name spelling : String}
  {value : Int} {index : Nat} {function : Signature} {entry : ProcEntry}

/-! ## `eglGetProcAddress` -/

inductive Address where
  | null
  | own
  | dispatcher (api : Api) (name : String)
deriving DecidableEq

/-- The request for an entry of a table; `none` where the name is copied past `args`. -/
def requestAddress (ext : Extensions) (bridge : Bridge) (name : String) (api : Api)
    (entry : ProcEntry) : Option (Address × Bridge) :=
  if entry.resolved then
    some (.dispatcher api name, { bridge with stub := eglGetProcAddress bridge.stub name 0 })
  else if 8 + min (name.length + 1) bridgeArgsSize ≤ bridgeArgsSize then
    let reply := hEglGetProcAddress ext.driver bridge.dyn api entry.idx name
    some (if reply.1 = 0 then .null else .dispatcher api name,
      { bridge with stub := eglGetProcAddress bridge.stub name reply.1, dyn := reply.2 })
  else none

def getProcAddress (ext : Extensions) (bridge : Bridge) (name : String) :
    Option (Address × Bridge) :=
  if handWritten name then some (.own, bridge)
  else
    match bridge.stub.tableOf name with
    | none => some (.null, bridge)
    | some (api, entry) => requestAddress ext bridge name api entry

inductive BridgeStep (ext : Extensions) (bridge : Bridge) : Unit → Bridge → Prop where
  | getProcAddress {name address next} (called : getProcAddress ext bridge name = some (address, next)) :
      BridgeStep ext bridge () next
  /-- Other calls change the bindings, the mappings and the objects. -/
  | others (buffers : BufferState) (objects : ObjectKind → Int → Int) :
      BridgeStep ext bridge () { bridge with stub := { bridge.stub with buffers }, objects }

def bridgeSystem (ext : Extensions) : Lts Bridge Unit where
  Initial bridge := bridge.stub.procs = (fun api => procTable ((ext.funcs api).map (·.toPrototype))) ∧
    bridge.stub.held = [] ∧ bridge.dyn = fun _ => ""
  Step := BridgeStep ext

/-! ## A call through the dispatcher -/

/-- What the proxy does; `none` where the arguments are packed past `args`. -/
def callDispatcher (ext : Extensions) (bridge : Bridge) (api : Api) (function : Signature)
    (values : List Int) (stale : List UInt8) : Option (Option Invocation) :=
  match findProc (bridge.stub.procs api) function.name with
  | none => some none
  | some entry =>
      if entry.idx = 0 then some none
      else
        let words := packArguments api function entry.idx values
        if (words.map Word.size).sum ≤ bridgeArgsSize then
          some (hInvokeDynamic ext.others ext.driver api (ext.funcs api)
            (Args.packed words ++ stale))
        else none

/-- A function of a header that the driver has, and arguments for it. -/
structure ExtensionCall (ext : Extensions) where
  api : Api
  index : Nat
  function : Signature
  listed : (ext.funcs api)[index]? = some function
  resolves : ext.driver function.name = true
  values : List Int
  typed : List.Forall₂ (fun spelling value => (paramType ext.others spelling).inClient.Holds value)
    function.params values

/-! ## What the call is to do -/

@[irreducible]
def objectKind (base : String) : Option ObjectKind :=
  [("EGLDisplay", ObjectKind.display), ("EGLConfig", .config), ("EGLContext", .context),
    ("EGLSurface", .surface)].lookup base

/-- The number in a handle of the client (`H2I`). -/
def handleNumber (value : Int) : Int := value % 0x100000000

/-- The argument that the driver is to get; a pointer has no meaning in the proxy. -/
def expected (bridge : Bridge) (spelling : String) (value : Int) : Option Int :=
  if starred spelling then none
  else
    match objectKind (baseType (normalizeType spelling)) with
    | some kind => some (bridge.objects kind (handleNumber value))
    | none => some value

namespace ExtensionCall

/-- The parameters' types with the values. -/
def arguments (call : ExtensionCall ext) : List (String × Int) :=
  call.function.params.zip call.values

def Receives (call : ExtensionCall ext) (bridge : Bridge) (received : List Int) : Prop :=
  List.Forall₂ (fun argument got => ∀ wanted,
    expected bridge argument.1 argument.2 = some wanted → got = wanted) call.arguments received

/-- The way of a call whose function gets its dispatcher and the table entry `entry`. -/
structure PreservedBy (call : ExtensionCall ext) (bridge next : Bridge) (entry : ProcEntry) :
    Prop where
  returned : getProcAddress ext bridge call.function.name =
    some (.dispatcher call.api call.function.name, next)
  found : findProc (next.stub.procs call.api) call.function.name = some entry
  widths : ∃ target, (ext.funcs call.api)[entry.idx.toNat]? = some target ∧
    sizesOf (call.function.packed call.api) = sizesOf (target.params.map (readAs call.api))
  invoked : ∀ stale, ∃ received,
    callDispatcher ext next call.api call.function call.values stale =
      some (some ⟨call.function.name, received⟩) ∧ call.Receives next received

def Preserved (call : ExtensionCall ext) (bridge : Bridge) : Prop :=
  ∃ next entry, call.PreservedBy bridge next entry

end ExtensionCall

/-! ## When it does -/

/-- The type has 64 bits in the proxy and is read through a `uintptr_t` of 32. -/
def Detours (ext : Extensions) (api : Api) (spelling : String) : Prop :=
  unpackedBy api spelling = none ∧ (paramType ext.others spelling).proxy = .w64

/-- A number comes through, or the number of an object. -/
def Carried (ext : Extensions) (bridge : Bridge) (api : Api) (spelling : String) (value : Int) :
    Prop :=
  match objectKind (baseType (normalizeType spelling)) with
  | some kind => bridge.objects kind (handleNumber value) = handleNumber value
  | none =>
      (paramType ext.others spelling).inProxy.Holds value ∧
        (Detours ext api spelling → 0 ≤ value ∧ value < 0x100000000)

/-- An argument comes through, if it is a scalar. -/
structure Survives (ext : Extensions) (bridge : Bridge) (api : Api) (spelling : String)
    (value : Int) : Prop where
  scalar : starred spelling = false → Carried ext bridge api spelling value

/-- The calls that are preserved. -/
structure Sound (bridge : Bridge) (call : ExtensionCall ext) : Prop where
  generated : handWritten call.function.name = false
  unshadowed : call.api = .egl → call.function.name ∉ (ext.funcs .gles).map (·.name)
  first : call.index ≠ 0
  inside : call.index < maxDynamicFuncs
  short : call.function.name.length < 248
  /-- The name is not the one kept for the first function, or it is resolved already. -/
  fresh : bridge.dyn call.api = call.function.name →
    ∃ entry, findProc (bridge.stub.procs call.api) call.function.name = some entry ∧
      entry.resolved = true
  fits : (sizesOf (call.function.packed call.api)).sum ≤ 252
  survive : ∀ argument ∈ call.arguments, Survives ext bridge call.api argument.1 argument.2

/-! ## One argument -/

/-- What the driver gets for a value that a dispatcher packs. -/
def delivered (ext : Extensions) (api : Api) (spelling : String) (value : Int) : Int :=
  castArgument ext.others api spelling (packValue (packedAs api spelling) value)

theorem unpackMap_eq : unpackMap api = packMap api := by
  cases api <;> rfl

/-- Both sides choose the same width for a type. -/
theorem readAs_eq : readAs api spelling = packedAs api spelling := by
  unfold readAs unpackedBy packedAs
  rw [unpackMap_eq]
  split <;> rfl

theorem mem_of_lookup {Key Value : Type} [BEq Key] [LawfulBEq Key] {table : List (Key × Value)}
    {key : Key} {value : Value} (found : table.lookup key = some value) : (key, value) ∈ table := by
  induction table with
  | nil => cases found
  | cons head rest ih =>
      obtain ⟨first, stored⟩ := head
      rw [List.lookup_cons] at found
      cases same : key == first with
      | true =>
          rw [same] at found
          cases found
          rw [eq_of_beq same]
          exact List.mem_cons_self ..
      | false =>
          rw [same] at found
          exact List.mem_cons_of_mem _ (ih found)

theorem paramType_eq {others : String → ParamType} (scalar : starred spelling = false) :
    paramType others spelling = (knownTypes.lookup (baseType (normalizeType spelling))).getD
      (others (baseType (normalizeType spelling))) := by
  rw [paramType, scalar, if_neg Bool.false_ne_true]

theorem starred_of_unpacked {scalar : Scalar} (read : unpackedBy api spelling = some scalar) :
    starred spelling = false := by
  unfold unpackedBy at read
  split at read
  · cases read
  · rename_i plain
    unfold isPointerType at plain
    rw [Bool.not_eq_true, Bool.or_eq_false_iff] at plain
    exact plain.1

theorem lookup_of_unpacked {scalar : Scalar} (read : unpackedBy api spelling = some scalar) :
    (baseType (normalizeType spelling), scalar) ∈ unpackMap api := by
  unfold unpackedBy at read
  split at read
  · cases read
  · exact mem_of_lookup read

/-- The types that are read by 32 bits. -/
theorem narrow_of_unpacked {scalar : Scalar} (read : unpackedBy api spelling = some scalar) :
    scalar = .u64 ∨ scalar.size = 4 ∧ (paramType ext.others spelling).inProxy.width ≠ .w64 := by
  have known : ∀ entry ∈ unpackMap api, entry.2 = .u64 ∨ entry.2.size = 4 ∧
      (knownTypes.lookup entry.1).any (fun type => type.proxy != .w64) = true := by
    cases api <;> decide
  rcases known _ (lookup_of_unpacked read) with long | short
  · exact .inl long
  · obtain ⟨type, found, narrow⟩ := (Option.any_eq_true _ _).mp short.2
    rw [paramType_eq (starred_of_unpacked read), found]
    exact .inr ⟨short.1, bne_iff_ne.mp narrow⟩

theorem value_short {scalar : Scalar} (short : scalar.size = 4) :
    wordValue scalar (packValue scalar value) % 0x100000000 = value % 0x100000000 := by
  cases scalar with
  | i32 =>
      change (BitVec.ofInt 32 value).toInt % _ = _
      rw [BitVec.toInt_ofInt]
      exact Int.bmod_emod
  | u32 | f32 =>
      change ((BitVec.ofInt 32 value).toNat : Int) % _ = _
      rw [BitVec.toNat_ofInt]
      omega
  | u64 | i64 => cases short

theorem value_long : wordValue .u64 (packValue .u64 value) = value % 0x10000000000000000 := by
  change ((BitVec.ofInt 64 value).toNat : Int) = _
  rw [BitVec.toNat_ofInt]
  omega

theorem convert_packed {type : IntType} {scalar : Scalar}
    (read : scalar = .u64 ∨ scalar.size = 4 ∧ type.width ≠ .w64) :
    type.convert (wordValue scalar (packValue scalar value)) = type.convert value := by
  rcases read with long | ⟨short, narrow⟩
  · rw [long, value_long, IntType.convert_long]
  · rw [← IntType.convert_low narrow, value_short short, IntType.convert_low narrow]

theorem delivered_none (read : unpackedBy api spelling = none) :
    delivered ext api spelling value =
      (paramType ext.others spelling).inProxy.convert (value % 0x100000000) := by
  have packed : packedAs api spelling = .u64 := by rw [← readAs_eq, readAs, read]; rfl
  have low : value % 0x10000000000000000 % 0x100000000 = value % 0x100000000 := by omega
  rw [delivered, castArgument, read, packed, ← low, ← value_long]
  rfl

theorem delivered_some {scalar : Scalar} (read : unpackedBy api spelling = some scalar) :
    delivered ext api spelling value = (paramType ext.others spelling).inProxy.convert value := by
  have packed : packedAs api spelling = scalar := by rw [← readAs_eq, readAs, read]; rfl
  rw [← convert_packed (narrow_of_unpacked read), delivered, castArgument, read, packed]

theorem delivered_detour (detours : Detours ext api spelling) :
    delivered ext api spelling value = value % 0x100000000 := by
  rw [delivered_none detours.1]
  exact IntType.convert_wide detours.2

theorem delivered_plain (plain : ¬ Detours ext api spelling) :
    delivered ext api spelling value = (paramType ext.others spelling).inProxy.convert value := by
  cases read : unpackedBy api spelling with
  | some scalar => exact delivered_some read
  | none =>
      rw [delivered_none read]
      exact IntType.convert_low fun wide => plain ⟨read, wide⟩

theorem handle_type {kind : ObjectKind} {others : String → ParamType}
    (scalar : starred spelling = false)
    (handle : objectKind (baseType (normalizeType spelling)) = some kind) :
    paramType others spelling = pointerType := by
  have known : ∀ entry ∈ [("EGLDisplay", ObjectKind.display), ("EGLConfig", .config),
      ("EGLContext", .context), ("EGLSurface", .surface)],
      knownTypes.lookup entry.1 = some pointerType := by decide
  unfold objectKind at handle
  rw [paramType_eq scalar, known _ (mem_of_lookup handle)]
  rfl

/-- The driver gets what it is to get exactly where the value survives. -/
theorem expected_iff : (∀ wanted, expected bridge spelling value = some wanted →
    delivered ext api spelling value = wanted) ↔ Survives ext bridge api spelling value := by
  have scalars : Survives ext bridge api spelling value ↔
      (starred spelling = false → Carried ext bridge api spelling value) :=
    ⟨Survives.scalar, Survives.mk⟩
  rw [scalars]
  unfold expected Carried
  cases scalar : starred spelling with
  | true => simp
  | false =>
      rw [if_neg Bool.false_ne_true, forall_prop_of_true rfl]
      cases handle : objectKind (baseType (normalizeType spelling)) with
      | some kind =>
          have type : paramType ext.others spelling = pointerType := handle_type scalar handle
          have plain : ¬ Detours ext api spelling := fun detours => by
            have wide := detours.2
            rw [type] at wide
            cases wide
          rw [delivered_plain plain, type]
          exact ⟨fun get => (get _ rfl).symm, fun same wanted is => by cases is; exact same.symm⟩
      | none =>
          have self : (∀ wanted, some value = some wanted →
              delivered ext api spelling value = wanted) ↔
                delivered ext api spelling value = value :=
            ⟨fun get => get _ rfl, fun same wanted is => by cases is; exact same⟩
          rw [self]
          by_cases detours : Detours ext api spelling
          · have wide : (paramType ext.others spelling).inProxy.width = .w64 := detours.2
            have keeps : (paramType ext.others spelling).inProxy.convert (value % 0x100000000) =
                value % 0x100000000 := IntType.convert_wide wide
            rw [delivered_detour detours]
            constructor
            · intro same
              rw [same, IntType.convert_eq_self_iff] at keeps
              exact ⟨keeps, fun _ => by omega⟩
            · intro both
              have low := both.2 detours
              omega
          · rw [delivered_plain detours, IntType.convert_eq_self_iff]
            exact ⟨fun holds => ⟨holds, fun other => absurd other detours⟩, fun both => both.1⟩

/-! ## The tables -/

theorem find_zipIdx {funcs : List Prototype} {function : Prototype} (start : Nat)
    (distinct : (funcs.map (·.name)).Nodup) (listed : funcs[index]? = some function) :
    findProc ((funcs.zipIdx start).map fun (function, idx) =>
        ⟨function.name, .ofNat idx, false⟩) function.name =
      some ⟨function.name, .ofNat (start + index), false⟩ := by
  induction funcs generalizing start index with
  | nil => cases listed
  | cons head rest ih =>
      rw [List.map_cons, List.nodup_cons] at distinct
      cases index with
      | zero =>
          cases listed
          simp [findProc]
      | succ index =>
          have later : rest[index]? = some function := listed
          have apart : head.name ≠ function.name := fun same =>
            distinct.1 (same ▸ List.mem_map_of_mem (List.mem_of_getElem? later))
          rw [List.zipIdx_cons, List.map_cons, findProc, List.find?_cons_of_neg (by simpa using apart)]
          have tail := ih (start + 1) distinct.2 later
          rw [findProc, Nat.add_right_comm] at tail
          exact tail

/-- What a table says about the function in a place of the list. -/
def EntryOf (function : Signature) (index : Nat) (entry : ProcEntry) : Prop :=
  entry.idx = UInt32.ofNat index ∧
    (entry.resolved = true →
      entry.idx ≠ 0 ∧ entry.idx.toNat < maxDynamicFuncs ∧ function.name.length < 248)

structure Indexed (ext : Extensions) (bridge : Bridge) : Prop where
  entries : ∀ api index function, (ext.funcs api)[index]? = some function →
    ∃ entry, findProc (bridge.stub.procs api) function.name = some entry ∧
      EntryOf function index entry
  missing : ∀ api name, name ∉ (ext.funcs api).map (·.name) →
    findProc (bridge.stub.procs api) name = none

theorem Indexed.initial (initial : (bridgeSystem ext).Initial bridge) : Indexed ext bridge := by
  have tables := initial.1
  constructor
  · intro api index function listed
    have names : (((ext.funcs api).map (·.toPrototype)).map (·.name)).Nodup := by
      rw [List.map_map]
      exact ext.distinct api
    have place : ((ext.funcs api).map (·.toPrototype))[index]? = some function.toPrototype := by
      rw [List.getElem?_map, listed]
      rfl
    have found := find_zipIdx 0 names place
    rw [Nat.zero_add] at found
    refine ⟨⟨function.name, .ofNat index, false⟩, ?_, rfl, fun resolved => ?_⟩
    · rw [tables]
      exact found
    · cases resolved
  · intro api name absent
    rw [tables, findProc, List.find?_eq_none]
    intro entry member same
    obtain ⟨place, listed, generated⟩ := List.mem_map.mp member
    have source : place.1 ∈ (ext.funcs api).map (·.toPrototype) := by
      rw [← List.zipIdx_map_fst 0 ((ext.funcs api).map (·.toPrototype))]
      exact List.mem_map_of_mem listed
    obtain ⟨function, present, is⟩ := List.mem_map.mp source
    refine absent (List.mem_map.mpr ⟨function, present, ?_⟩)
    rw [← of_decide_eq_true same, ← generated]
    exact congrArg Prototype.name is

theorem eq_of_name {other : Signature} {place : Nat}
    (listed : (ext.funcs api)[index]? = some function)
    (also : (ext.funcs api)[place]? = some other) (same : other.name = function.name) :
    place = index := by
  have names (spot : Nat) {found : Signature} (there : (ext.funcs api)[spot]? = some found) :
      ((ext.funcs api).map (·.name))[spot]? = some found.name := by
    rw [List.getElem?_map, there]
    rfl
  have within : place < ((ext.funcs api).map (·.name)).length := by
    rw [List.length_map]
    exact (List.getElem?_eq_some_iff.mp also).1
  exact (List.getElem?_inj within (ext.distinct api)).mp
    (by rw [names _ also, names _ listed, same])

/-- The entry that a request marks keeps its index. -/
theorem Indexed.resolve {answer : UInt32} {dyn : DynTables} {held : List (Api × String)}
    (indexed : Indexed ext bridge) (found : findProc (bridge.stub.procs api) name = some entry)
    (answered : answer = entry.idx) (positive : answer ≠ 0)
    (inside : answer.toNat < maxDynamicFuncs) (short : name.length < 248) :
    Indexed ext { bridge with
      stub := { bridge.stub with
        procs := Function.update bridge.stub.procs api (Stub.resolve name answer (bridge.stub.procs api))
        held }
      dyn } := by
  have lookup (other : Api) (wanted : String) :
      findProc (Function.update bridge.stub.procs api
          (Stub.resolve name answer (bridge.stub.procs api)) other) wanted =
        if other = api ∧ wanted = name then some { entry with idx := answer, resolved := true }
        else findProc (bridge.stub.procs other) wanted := by
    by_cases same : other = api
    · subst same
      by_cases called : wanted = name <;> simp [findProc_resolve, called, found]
    · simp [same]
  constructor
  · intro other index function listed
    obtain ⟨before, present, idx, marked⟩ := indexed.entries other index function listed
    change ∃ entry, findProc (Function.update bridge.stub.procs api _ other) _ = _ ∧ _
    rw [lookup]
    split
    · rename_i here
      rw [here.1, here.2, found] at present
      cases present
      exact ⟨_, rfl, answered.trans idx, fun _ => ⟨positive, inside, here.2 ▸ short⟩⟩
    · exact ⟨before, present, idx, marked⟩
  · intro other wanted absent
    have none := indexed.missing other wanted absent
    change findProc (Function.update bridge.stub.procs api _ other) _ = _
    rw [lookup, if_neg, none]
    intro here
    rw [here.1, here.2, found] at none
    cases none

/-- The proxy answers with the index it is asked for, or with 0. -/
theorem answer_eq {dyn : DynTables} {idx : UInt32} :
    (hEglGetProcAddress ext.driver dyn api idx name).1 =
      if dyn api ≠ name ∧ ext.driver name = true ∧ idx.toNat < maxDynamicFuncs then idx else 0 := by
  unfold hEglGetProcAddress
  by_cases kept : dyn api = name
  · rw [if_pos kept, if_neg (by simp [kept])]
  cases resolves : ext.driver name with
  | false => simp [kept]
  | true =>
      by_cases inside : idx.toNat < maxDynamicFuncs
      · simp [kept, inside, Nat.not_le.mpr inside]
      · simp [kept, inside, Nat.not_lt.mp inside]

theorem Indexed.others (indexed : Indexed ext bridge) {held : List (Api × String)}
    {buffers : BufferState} {dyn : DynTables} {objects : ObjectKind → Int → Int} :
    Indexed ext ⟨⟨buffers, bridge.stub.procs, held⟩, dyn, objects⟩ :=
  ⟨indexed.entries, indexed.missing⟩

/-- The stub after a request, by what `resolved` says before it and by the answer. -/
theorem stub_resolved {stub : StubState} {answer : UInt32}
    (settled : stub.tableOf name = some (api, entry)) (resolved : entry.resolved = true) :
    eglGetProcAddress stub name answer = { stub with held := (api, name) :: stub.held } := by
  unfold eglGetProcAddress
  simp only [settled, resolved, if_true]

theorem stub_refused {stub : StubState} (settled : stub.tableOf name = some (api, entry))
    (unresolved : entry.resolved = false) : eglGetProcAddress stub name 0 = stub := by
  unfold eglGetProcAddress
  simp only [settled, unresolved, Bool.false_eq_true, if_false, if_true]

theorem stub_answered {stub : StubState} {answer : UInt32}
    (settled : stub.tableOf name = some (api, entry)) (unresolved : entry.resolved = false)
    (answered : answer ≠ 0) :
    eglGetProcAddress stub name answer =
      { stub with
        procs := Function.update stub.procs api (Stub.resolve name answer (stub.procs api))
        held := (api, name) :: stub.held } := by
  unfold eglGetProcAddress
  simp only [settled, unresolved, Bool.false_eq_true, if_false, if_neg answered]

theorem short_iff : 8 + min (name.length + 1) bridgeArgsSize ≤ bridgeArgsSize ↔
    name.length < 248 := by
  have size : bridgeArgsSize = 256 := rfl
  omega

theorem Indexed.getProcAddress {address : Address} (indexed : Indexed ext bridge)
    (called : Egl.getProcAddress ext bridge name = some (address, next)) : Indexed ext next := by
  unfold Egl.getProcAddress at called
  split at called
  · cases called
    exact indexed
  split at called
  · cases called
    exact indexed
  rename_i api entry settled
  have found := StubState.tableOf_some settled
  unfold requestAddress at called
  split at called
  · rename_i resolved
    cases called
    rw [stub_resolved settled resolved]
    exact indexed.others
  rename_i resolved
  have unresolved := Bool.not_eq_true _ ▸ resolved
  split at called
  · rename_i short
    obtain ⟨-, rfl⟩ := Prod.mk.inj (Option.some.inj called)
    rw [answer_eq]
    split
    · rename_i answered
      by_cases zero : entry.idx = 0
      · rw [zero, stub_refused settled unresolved]
        exact indexed.others
      · rw [stub_answered settled unresolved zero]
        exact indexed.resolve found rfl zero answered.2.2 (short_iff.mp short)
    · rw [stub_refused settled unresolved]
      exact indexed.others
  · cases called

theorem Indexed.of_run {trace : List Unit} (run : (bridgeSystem ext).Run trace bridge) :
    Indexed ext bridge := by
  induction run with
  | start initial => exact Indexed.initial initial
  | step run taken ih =>
      cases taken with
      | getProcAddress called => exact ih.getProcAddress called
      | others buffers objects => exact ih.others

/-! ## What the case reads -/

theorem ar_packed {scalar : Scalar} {word : Word} {before behind : List UInt8}
    (size : word.size = scalar.size) :
    ar scalar ⟨before ++ (word.bytes ++ behind), before.length⟩ =
      (word, ⟨before ++ (word.bytes ++ behind), (before ++ word.bytes).length⟩) := by
  have bytes : chunk (before ++ (word.bytes ++ behind)) before.length scalar.size = word.bytes := by
    rw [chunk, List.drop_left, ← size, ← word.length_bytes, List.take_left]
  rw [ar, bytes, Word.ofBytes_bytes, List.length_append, word.length_bytes, size]

theorem readWords_packed {scalars : List Scalar} {words : List Word} {before stale : List UInt8}
    (sizes : words.map Word.size = sizesOf scalars) :
    readWords scalars ⟨before ++ ((words.map Word.bytes).flatten ++ stale), before.length⟩ =
      words := by
  induction scalars generalizing words before with
  | nil =>
      cases words with
      | nil => rfl
      | cons word rest => cases sizes
  | cons scalar others ih =>
      cases words with
      | nil => cases sizes
      | cons word rest =>
          have size := List.head_eq_of_cons_eq sizes
          have later : readWords others ⟨(before ++ word.bytes) ++
              ((rest.map Word.bytes).flatten ++ stale), (before ++ word.bytes).length⟩ = rest :=
            ih (List.tail_eq_of_cons_eq sizes)
          rw [List.map_cons, List.flatten_cons, List.append_assoc, readWords, ar_packed size]
          rw [List.append_assoc] at later
          exact congrArg (word :: ·) later

theorem sizes_zipWith {params : List String} {values : List Int}
    (typed : values.length = params.length) :
    (List.zipWith (fun spelling value => packValue (packedAs api spelling) value) params
      values).map Word.size = sizesOf (params.map (packedAs api)) := by
  induction params generalizing values with
  | nil => rfl
  | cons spelling rest ih =>
      cases values with
      | nil => cases typed
      | cons value others =>
          rw [List.zipWith_cons_cons, List.map_cons, ih (Nat.succ.inj typed)]
          rfl

theorem zipWith_cast {params : List String} {values : List Int} :
    List.zipWith (castArgument ext.others api) params
        (List.zipWith (fun spelling value => packValue (packedAs api spelling) value) params
          values) =
      (params.zip values).map fun argument => delivered ext api argument.1 argument.2 := by
  induction params generalizing values with
  | nil => rfl
  | cons spelling rest ih =>
      cases values with
      | nil => rfl
      | cons value others =>
          rw [List.zipWith_cons_cons, List.zipWith_cons_cons, List.zip_cons_cons, List.map_cons, ih]
          rfl

theorem ar_first {word : Word} {rest : List Word} {stale : List UInt8} (size : word.size = 4) :
    ar .u32 (arInit (Args.packed (word :: rest) ++ stale)) =
      (word, ⟨Args.packed (word :: rest) ++ stale, 4⟩) := by
  have behind : (([] : List UInt8) ++ word.bytes).length = 4 := by
    rw [List.nil_append, word.length_bytes, size]
  have first := @ar_packed .u32 word [] ((rest.map Word.bytes).flatten ++ stale) size
  rw [behind] at first
  rw [Args.packed_eq, List.map_cons, List.flatten_cons, List.append_assoc]
  exact first

theorem invoke_packed {idx : UInt32} {values : List Int} {stale : List UInt8} :
    hInvokeDynamic ext.others ext.driver api (ext.funcs api)
        (Args.packed (packArguments api function idx values) ++ stale) =
      invokeCase ext.others ext.driver api (ext.funcs api) idx.toNat
        ⟨Args.packed (packArguments api function idx values) ++ stale, 4⟩ := by
  rw [hInvokeDynamic, packArguments, ar_first rfl]
  rfl

/-- The case of the function reads what its dispatcher has packed. -/
theorem invokeCase_packed {place : Nat} {idx : UInt32} {values : List Int} {stale : List UInt8}
    (listed : (ext.funcs api)[place]? = some function) (resolves : ext.driver function.name = true)
    (typed : values.length = function.params.length) :
    invokeCase ext.others ext.driver api (ext.funcs api) place
        ⟨Args.packed (packArguments api function idx values) ++ stale, 4⟩ =
      some ⟨function.name, (function.params.zip values).map fun argument =>
        delivered ext api argument.1 argument.2⟩ := by
  have same : function.params.map (readAs api) = function.params.map (packedAs api) :=
    List.map_congr_left fun _ _ => readAs_eq
  have words := @readWords_packed (function.params.map (packedAs api))
    (List.zipWith (fun spelling value => packValue (packedAs api spelling) value) function.params
      values) (Word.bytes ⟨4, idx.toBitVec⟩) stale (sizes_zipWith typed)
  rw [Word.length_bytes] at words
  unfold invokeCase
  simp only [listed, resolves, if_true]
  rw [same, ← zipWith_cast, Args.packed_eq, packArguments, List.map_cons, List.flatten_cons,
    List.append_assoc, words]

theorem name_of_invokeCase {place : Nat} {r : ArgReader} {invocation : Invocation}
    (invoked : invokeCase ext.others ext.driver api (ext.funcs api) place r = some invocation) :
    ∃ target, (ext.funcs api)[place]? = some target ∧ target.name = invocation.name := by
  unfold invokeCase at invoked
  split at invoked
  · cases invoked
  · rename_i target listed
    split at invoked
    · cases invoked
      exact ⟨target, listed, rfl⟩
    · cases invoked

/-! ## The way of a call -/

theorem objects_eq {address : Address}
    (called : getProcAddress ext bridge name = some (address, next)) :
    next.objects = bridge.objects := by
  unfold getProcAddress at called
  split at called
  · cases called
    rfl
  split at called
  · cases called
    rfl
  unfold requestAddress at called
  split at called
  · cases called
    rfl
  split at called
  · obtain ⟨-, rfl⟩ := Prod.mk.inj (Option.some.inj called)
    rfl
  · cases called

/-- When a request for an entry ends with a dispatcher. -/
def Granted (ext : Extensions) (bridge : Bridge) (api : Api) (name : String)
    (entry : ProcEntry) : Prop :=
  entry.resolved = true ∨
    name.length < 248 ∧ bridge.dyn api ≠ name ∧ ext.driver name = true ∧
      entry.idx.toNat < maxDynamicFuncs ∧ entry.idx ≠ 0

theorem granted_iff {wanted : Api} :
    (∃ next, requestAddress ext bridge name api entry = some (.dispatcher wanted name, next)) ↔
      api = wanted ∧ Granted ext bridge api name entry := by
  unfold requestAddress Granted
  cases resolved : entry.resolved with
  | true => simp
  | false =>
      by_cases short : name.length < 248
      · rw [if_neg Bool.false_ne_true, if_pos (short_iff.mpr short)]
        simp only [answer_eq]
        by_cases answered : bridge.dyn api ≠ name ∧ ext.driver name = true ∧
            entry.idx.toNat < maxDynamicFuncs
        · simp only [if_pos answered]
          by_cases zero : entry.idx = 0
          · simp [zero]
          · simp [zero, short, answered.1, answered.2.1, answered.2.2]
        · simp only [if_neg answered, if_true]
          refine iff_of_false ?_ ?_
          · intro ⟨after, same⟩
            cases same
          · intro ⟨_, granted⟩
            have conditions := granted.resolve_left Bool.false_ne_true
            exact answered ⟨conditions.2.1, conditions.2.2.1, conditions.2.2.2.1⟩
      · have past : ¬ 8 + min (name.length + 1) bridgeArgsSize ≤ bridgeArgsSize :=
          fun inside => short (short_iff.mp inside)
        rw [if_neg Bool.false_ne_true, if_neg past]
        simp [short]

theorem Indexed.missing_iff (indexed : Indexed ext bridge) :
    findProc (bridge.stub.procs api) name = none ↔ name ∉ (ext.funcs api).map (·.name) := by
  constructor
  · intro none member
    obtain ⟨function, present, same⟩ := List.mem_map.mp member
    obtain ⟨index, listed⟩ := List.mem_iff_getElem?.mp present
    obtain ⟨entry, found, _⟩ := indexed.entries api index function listed
    rw [same, none] at found
    cases found
  · exact indexed.missing api name

theorem returned_of_settled {found : Api} (settled : bridge.stub.tableOf name = some (found, entry)) :
    (∃ next, getProcAddress ext bridge name = some (.dispatcher api name, next)) ↔
      handWritten name = false ∧ found = api ∧ Granted ext bridge found name entry := by
  unfold getProcAddress
  cases generated : handWritten name with
  | true => simp
  | false =>
      rw [if_neg Bool.false_ne_true, settled, ← granted_iff]
      exact (and_iff_right rfl).symm

/-- When the client gets the dispatcher of a function that a table has. -/
theorem returned_iff (indexed : Indexed ext bridge)
    (found : findProc (bridge.stub.procs api) name = some entry) :
    (∃ next, getProcAddress ext bridge name = some (.dispatcher api name, next)) ↔
      handWritten name = false ∧ (api = .egl → name ∉ (ext.funcs .gles).map (·.name)) ∧
        Granted ext bridge api name entry := by
  cases first : findProc (bridge.stub.procs .gles) name with
  | some other =>
      have settled : bridge.stub.tableOf name = some (.gles, other) := by
        rw [StubState.tableOf, first]
      rw [returned_of_settled settled]
      cases api with
      | gles =>
          cases found.symm.trans first
          simp
      | egl =>
          have shadowed : ¬ name ∉ (ext.funcs .gles).map (·.name) := fun absent => by
            rw [indexed.missing_iff.mpr absent] at first
            cases first
          exact iff_of_false (fun both => by cases both.2.1) fun both => shadowed (both.2.1 rfl)
  | none =>
      have free := indexed.missing_iff.mp first
      cases api with
      | gles => cases found.symm.trans first
      | egl =>
          have settled : bridge.stub.tableOf name = some (.egl, entry) := by
            rw [StubState.tableOf, first, found]
            rfl
          rw [returned_of_settled settled]
          exact and_congr_right fun _ => ⟨fun both => ⟨fun _ => free, both.2⟩,
            fun both => ⟨rfl, both.2⟩⟩

theorem callDispatcher_eq {values : List Int} {stale : List UInt8}
    (found : findProc (bridge.stub.procs api) function.name = some entry)
    (positive : entry.idx ≠ 0) (typed : values.length = function.params.length) :
    callDispatcher ext bridge api function values stale =
      if (sizesOf (function.packed api)).sum ≤ 252 then
        some (invokeCase ext.others ext.driver api (ext.funcs api) entry.idx.toNat
          ⟨Args.packed (packArguments api function entry.idx values) ++ stale, 4⟩)
      else none := by
  have sizes : ((packArguments api function entry.idx values).map Word.size).sum =
      4 + (sizesOf (function.packed api)).sum := by
    rw [packArguments, List.map_cons, sizes_zipWith typed, List.sum_cons]
    rfl
  have fits : (4 + (sizesOf (function.packed api)).sum ≤ bridgeArgsSize) =
      ((sizesOf (function.packed api)).sum ≤ 252) := propext (by
    have size : bridgeArgsSize = 256 := rfl
    omega)
  unfold callDispatcher
  simp only [found, if_neg positive, sizes, fits, invoke_packed]

/-! ## All calls -/

namespace ExtensionCall

variable {call : ExtensionCall ext}

theorem length_values : call.values.length = call.function.params.length :=
  call.typed.length_eq.symm

theorem toNat_idx (indexed : EntryOf call.function call.index entry)
    (inside : call.index < maxDynamicFuncs) : entry.idx.toNat = call.index := by
  have most : maxDynamicFuncs = 2048 := rfl
  rw [indexed.1, UInt32.toNat_ofNat']
  omega

theorem receives_iff : call.Receives bridge (call.arguments.map fun argument =>
      delivered ext call.api argument.1 argument.2) ↔
    ∀ argument ∈ call.arguments, Survives ext bridge call.api argument.1 argument.2 := by
  rw [Receives, List.forall₂_map_right_iff, List.forall₂_same]
  exact forall₂_congr fun argument _ => expected_iff

theorem sizes_read : sizesOf (call.function.packed call.api) =
    sizesOf (call.function.params.map (readAs call.api)) :=
  congrArg sizesOf (List.map_congr_left fun _ _ => readAs_eq.symm)

theorem survives_congr (same : next.objects = bridge.objects) :
    Survives ext next api spelling value ↔ Survives ext bridge api spelling value := by
  have fits : Carried ext next api spelling value ↔ Carried ext bridge api spelling value := by
    unfold Carried
    rw [same]
  exact ⟨fun survives => ⟨fun scalar => fits.mp (survives.scalar scalar)⟩,
    fun survives => ⟨fun scalar => fits.mpr (survives.scalar scalar)⟩⟩

/-- An entry that is granted has an index that the proxy can take. -/
theorem bounds_of_granted (place : EntryOf call.function call.index entry)
    (granted : Granted ext bridge call.api call.function.name entry) :
    entry.idx ≠ 0 ∧ entry.idx.toNat < maxDynamicFuncs ∧ call.function.name.length < 248 := by
  rcases granted with resolved | ⟨short, _, _, inside, positive⟩
  · exact place.2 resolved
  · exact ⟨positive, inside, short⟩

/-- The driver is called by the right name from the place of the function alone. -/
theorem idx_of_invoked {r : ArgReader} {received : List Int}
    (invoked : invokeCase ext.others ext.driver call.api (ext.funcs call.api) entry.idx.toNat r =
      some ⟨call.function.name, received⟩) : entry.idx.toNat = call.index := by
  obtain ⟨target, listed, same⟩ := name_of_invokeCase invoked
  exact eq_of_name call.listed listed same

/-- A call that is preserved is sound. -/
theorem sound_of_preserved (indexed : Indexed ext bridge) (preserved : call.Preserved bridge) :
    Sound bridge call := by
  obtain ⟨next, entry, preserved⟩ := preserved
  obtain ⟨before, found, place⟩ := indexed.entries call.api call.index call.function call.listed
  obtain ⟨generated, unshadowed, granted⟩ :=
    (returned_iff indexed found).mp ⟨next, preserved.returned⟩
  obtain ⟨positive, inside, short⟩ := bounds_of_granted place granted
  obtain ⟨after, found', place'⟩ := (indexed.getProcAddress preserved.returned).entries call.api
    call.index call.function call.listed
  have kept : after.idx = before.idx := place'.1.trans place.1.symm
  obtain ⟨received, called, receives⟩ := preserved.invoked []
  rw [callDispatcher_eq found' (kept ▸ positive) length_values] at called
  split at called
  · rename_i fits
    have invoked := Option.some.inj called
    have index := idx_of_invoked invoked
    rw [invokeCase_packed (index ▸ call.listed) call.resolves length_values] at invoked
    have values : call.arguments.map (fun argument =>
        delivered ext call.api argument.1 argument.2) = received :=
      (Invocation.mk.inj (Option.some.inj invoked)).2
    rw [← values, receives_iff] at receives
    refine ⟨generated, unshadowed, ?_, ?_, short, ?_, fits, fun argument member => ?_⟩
    · intro zero
      rw [← index, kept] at zero
      exact positive (UInt32.toNat.inj zero)
    · rw [← index, kept]
      exact inside
    · exact fun same => ⟨before, found, granted.resolve_right fun new => new.2.1 same⟩
    · rw [← survives_congr (objects_eq preserved.returned)]
      exact receives argument member
  · cases called

theorem preserved_of_sound (indexed : Indexed ext bridge) (sound : Sound bridge call) :
    call.Preserved bridge := by
  obtain ⟨before, found, place⟩ := indexed.entries call.api call.index call.function call.listed
  have index := toNat_idx place sound.inside
  have positive : before.idx ≠ 0 := fun zero => sound.first (by rw [← index, zero]; rfl)
  have granted : Granted ext bridge call.api call.function.name before := by
    by_cases same : bridge.dyn call.api = call.function.name
    · obtain ⟨entry, present, resolved⟩ := sound.fresh same
      cases present.symm.trans found
      exact .inl resolved
    · exact .inr ⟨sound.short, same, call.resolves, index ▸ sound.inside, positive⟩
  obtain ⟨next, returned⟩ :=
    (returned_iff indexed found).mpr ⟨sound.generated, sound.unshadowed, granted⟩
  obtain ⟨after, found', place'⟩ := (indexed.getProcAddress returned).entries call.api call.index
    call.function call.listed
  have kept : after.idx = before.idx := place'.1.trans place.1.symm
  have listed : (ext.funcs call.api)[after.idx.toNat]? = some call.function := by
    rw [kept, index]
    exact call.listed
  refine ⟨next, after, returned, found', ⟨call.function, listed, sizes_read⟩, fun stale =>
    ⟨_, ?_, receives_iff.mpr fun argument member => ?_⟩⟩
  · rw [callDispatcher_eq found' (kept ▸ positive) length_values, if_pos sound.fits,
      invokeCase_packed listed call.resolves length_values]
    rfl
  · rw [survives_congr (objects_eq returned)]
    exact sound.survive argument member

/-- In every state that clients can bring about, an extension function is called as the
client calls it exactly under the conditions of `Sound`. -/
theorem preserved_iff {trace : List Unit} (run : (bridgeSystem ext).Run trace bridge)
    (call : ExtensionCall ext) : call.Preserved bridge ↔ Sound bridge call :=
  ⟨sound_of_preserved (Indexed.of_run run), preserved_of_sound (Indexed.of_run run)⟩

end ExtensionCall

/-! ## Examples -/

/-- The start of a header, with a driver that has all of it. -/
def blendExtensions : Extensions where
  funcs
    | .gles => [⟨⟨"glBlendBarrierKHR", "void"⟩, []⟩,
        ⟨⟨"glBlendEquationiEXT", "void"⟩, ["GLuint", "GLenum"]⟩]
    | .egl => []
  accepted := by
    intro api
    cases api <;> decide
  distinct := by
    intro api
    cases api <;> decide
  others _ := pointerType
  driver _ := true

def startBridge : Bridge where
  stub :=
    { buffers := ⟨fun _ => ⟨0, 0, 0, 0, 0, 0, 0⟩, fun _ => ⟨0, 0, 0, 0, 0, 0, 0, 0, 0, 0, 0, 0⟩,
        fun _ => 0⟩
      procs := fun api => procTable ((blendExtensions.funcs api).map (·.toPrototype))
      held := [] }
  dyn _ := ""
  objects _ number := number

def blendBarrier : ExtensionCall blendExtensions where
  api := .gles
  index := 0
  function := ⟨⟨"glBlendBarrierKHR", "void"⟩, []⟩
  listed := rfl
  resolves := rfl
  values := []
  typed := .nil

/-- `glBlendEquationiEXT(0, GL_FUNC_ADD)` -/
def blendEquation : ExtensionCall blendExtensions where
  api := .gles
  index := 1
  function := ⟨⟨"glBlendEquationiEXT", "void"⟩, ["GLuint", "GLenum"]⟩
  listed := rfl
  resolves := rfl
  values := [0, 0x8006]
  typed := .cons (by decide) (.cons (by decide) .nil)

theorem fits_number (plain : objectKind (baseType (normalizeType spelling)) = none)
    (holds : (paramType ext.others spelling).inProxy.Holds value)
    (low : 0 ≤ value ∧ value < 0x100000000) : Carried ext bridge api spelling value := by
  unfold Carried
  rw [plain]
  exact ⟨holds, fun _ => low⟩

theorem blend_equation_preserved : blendEquation.Preserved startBridge := by
  refine (ExtensionCall.preserved_iff (.start ⟨rfl, rfl, rfl⟩) blendEquation).mpr
    ⟨by decide, by decide, by decide, by decide, by decide, fun same => ?_, by decide, ?_⟩
  · exact absurd same (by decide)
  · intro argument member
    rcases List.mem_pair.mp member with same | same
    · rw [same]
      exact ⟨fun _ => fits_number (by decide +kernel) (by decide) (by decide)⟩
    · rw [same]
      exact ⟨fun _ => fits_number (by decide +kernel) (by decide) (by decide)⟩

/-- The first function of the header has the index that stands for a failure, and
`EGL_FOREVER_KHR` arrives as a finite time. -/
theorem first_function_null :
    (getProcAddress blendExtensions startBridge "glBlendBarrierKHR").map Prod.fst =
        some .null ∧
      ¬ blendBarrier.Preserved startBridge ∧
      delivered blendExtensions .egl "EGLTimeKHR" 0xFFFFFFFFFFFFFFFF = 0xFFFFFFFF := by
  have address : (getProcAddress blendExtensions startBridge "glBlendBarrierKHR").map Prod.fst =
      some .null := by decide
  refine ⟨address, ?_, by decide⟩
  intro ⟨next, entry, preserved⟩
  have returned : getProcAddress blendExtensions startBridge "glBlendBarrierKHR" = some _ :=
    preserved.returned
  rw [returned] at address
  cases address

end GlesBridge.Egl
