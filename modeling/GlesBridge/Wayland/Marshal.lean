import GlesBridge.Stub.Marshal

namespace GlesBridge.Wayland

open GlesBridge.Stub

/-! The entry points of marshalling, compared with `wl_proxy_marshal_flags`. -/

inductive EntryPoint where
  | marshal
  | constructor
  | constructorVersioned
  | arrayConstructor
  | arrayConstructorVersioned
deriving DecidableEq, Repr

structure MarshalRequest where
  proxy : WlProxyRef
  opcode : UInt32
  interface : Option String
  args : List Argument

namespace MarshalRequest

variable (request : MarshalRequest) (stub : WlBridgeState)

def branch : Branch := stub.branch request.proxy request.opcode request.interface

def passed : VaList := request.args.map some

/-- The client passes what the request takes. -/
def Complete : Prop := (request.branch stub).pulls.Fits request.passed

def flags : Marshalled :=
  stub.wlProxyMarshalFlags request.proxy request.opcode request.interface request.passed

end MarshalRequest

namespace EntryPoint

variable (entry : EntryPoint) (stub : WlBridgeState) (request : MarshalRequest)

def call : EntryPoint → Marshalled
  | .marshal => stub.wlProxyMarshal request.proxy request.opcode request.args
  | .constructor =>
      stub.wlProxyMarshalConstructor request.proxy request.opcode request.interface request.args
  | .constructorVersioned =>
      stub.wlProxyMarshalConstructorVersioned request.proxy request.opcode request.interface
        request.args
  | .arrayConstructor =>
      stub.wlProxyMarshalArrayConstructor request.proxy request.opcode request.interface
        request.args
  | .arrayConstructorVersioned =>
      stub.wlProxyMarshalArrayConstructorVersioned request.proxy request.opcode request.interface
        request.args

/-- `wl_proxy_marshal` returns nothing, and is given no interface. -/
def Takes : EntryPoint → Prop
  | .marshal => request.interface = none
  | _ => True

/-- The same command, the same state and the same handle. -/
def Agrees : EntryPoint → Prop
  | .marshal => call stub request .marshal = WlBridgeState.nullWithout none (request.flags stub)
  | entry => entry.call stub request = request.flags stub

/-- The request does nothing. -/
def Idle (args : VaList) : Branch → Prop
  | .setState offset => stub.slotFor offset = 0
  | .setProperty _ => args[0]? = some (some (.string none)) ∨ args[1]? = some (some (.string none))
  | .callbackDestroy index => stub.callbackDestroy index = stub
  | .display | .bind | .generic => True
  | _ => False

/-- A handle comes back although no interface is given. -/
def Unasked : Prop :=
  request.interface = none ∧ (request.branch stub = .display ∨ request.branch stub = .bind)

/-- The requests whose arguments get through. -/
def Forwards : EntryPoint → Prop
  | .marshal =>
      (∃ offset, request.branch stub = .commit offset) ∨
        Idle stub request.passed (request.branch stub)
  | .constructor | .constructorVersioned => (request.branch stub).pulls = .nothing
  | .arrayConstructor =>
      ((request.branch stub).pulls = .nothing ∨ (∃ offset, request.branch stub = .setProperty offset) ∨
        request.branch stub = .webosGetShellSurface ∨
        request.branch stub = .getShellSurface ∧ request.opcode = 0) ∧ ¬ Unasked stub request
  | .arrayConstructorVersioned =>
      (request.branch stub).pulls = .nothing ∧ ¬ Unasked stub request

end EntryPoint

variable {stub : WlBridgeState} {request : MarshalRequest} {interface : Option String}
  {branch : Branch} {args more : VaList} {entry : EntryPoint}

/-! ## What the interpreter takes -/

theorem perform_nothing (nothing : branch.pulls = .nothing) :
    stub.perform interface args branch = stub.perform interface more branch := by
  cases branch <;> first | rfl | cases nothing

theorem withObject_missing {next : UInt32 → Marshalled} (missing : ¬ Pulls.objects.Fits args) :
    WlBridgeState.withObject args next = .error .argument := by
  unfold WlBridgeState.withObject
  split
  · exact absurd ⟨_, _, _, rfl⟩ missing
  · rfl

theorem withUint_missing {next : UInt32 → Marshalled} (missing : ¬ Pulls.uint.Fits args) :
    WlBridgeState.withUint args next = .error .argument := by
  unfold WlBridgeState.withUint
  split
  · exact absurd ⟨_, _, rfl⟩ missing
  · rfl

theorem withStrings_missing {next : Option (List UInt8) → Option (List UInt8) → Marshalled}
    (missing : ¬ Pulls.strings.Fits args) :
    WlBridgeState.withStrings args next = .error .argument := by
  unfold WlBridgeState.withStrings
  split
  · exact absurd ⟨_, _, _, rfl⟩ missing
  · rfl

/-- An argument that is missing is taken all the same. -/
theorem perform_missing (missing : ¬ branch.pulls.Fits args) :
    stub.perform interface args branch = .error .argument := by
  cases branch with
  | getShellSurface => exact withObject_missing missing
  | webosGetShellSurface => exact withObject_missing missing
  | getWebosSeat => exact withObject_missing missing
  | setState offset => exact withUint_missing missing
  | setProperty offset => exact withStrings_missing missing
  | _ => exact absurd trivial missing

theorem sendsTo_ne_argument {slot : UInt32} {command : UInt32 → StubCommand} {handle : UInt32} :
    stub.sendsTo slot command handle ≠ .error .argument := by
  unfold WlBridgeState.sendsTo
  split <;> nofun

theorem returns_ne_argument {handle : UInt32} : stub.returns handle ≠ .error .argument := nofun

theorem displayConstructor_ne_argument : stub.displayConstructor interface ≠ .error .argument := by
  unfold WlBridgeState.displayConstructor
  split
  · exact returns_ne_argument
  · split
    · exact returns_ne_argument
    · exact returns_ne_argument

theorem registryBind_ne_argument : stub.registryBind interface ≠ .error .argument := by
  unfold WlBridgeState.registryBind
  iterate 10
    split
    · exact returns_ne_argument
  exact returns_ne_argument

theorem seatObject_ne_argument {index : Fin maxSeats} :
    stub.seatObject interface index ≠ .error .argument := by
  unfold WlBridgeState.seatObject
  split
  · exact returns_ne_argument
  · split
    · exact returns_ne_argument
    · exact returns_ne_argument

theorem setState_ne_argument {offset : Nat} {state : UInt32} :
    stub.setState offset state ≠ .error .argument := by
  unfold WlBridgeState.setState
  split
  · exact returns_ne_argument
  · nofun

theorem setProperty_ne_argument {offset : Nat} {name value : Option (List UInt8)} :
    stub.setProperty offset name value ≠ .error .argument := by
  unfold WlBridgeState.setProperty
  split
  · exact sendsTo_ne_argument
  · exact returns_ne_argument

/-- A request with its arguments is defined, or an assertion stops it. -/
theorem perform_ne_argument (fits : branch.pulls.Fits args) :
    stub.perform interface args branch ≠ .error .argument := by
  cases branch with
  | display => exact displayConstructor_ne_argument
  | bind => exact registryBind_ne_argument
  | createSurface => nofun
  | getShellSurface | webosGetShellSurface =>
      obtain ⟨placeholder, handle, rest, rfl⟩ := fits
      exact sendsTo_ne_argument
  | getWebosSeat =>
      obtain ⟨placeholder, handle, rest, rfl⟩ := fits
      exact returns_ne_argument
  | setState offset =>
      obtain ⟨value, rest, rfl⟩ := fits
      exact setState_ne_argument
  | setProperty offset =>
      obtain ⟨name, value, rest, rfl⟩ := fits
      exact setProperty_ne_argument
  | setToplevel offset | commit offset | surfaceDestroy offset => exact sendsTo_ne_argument
  | frame => exact returns_ne_argument
  | seatObject index => exact seatObject_ne_argument
  | callbackDestroy index => exact returns_ne_argument
  | generic => exact returns_ne_argument

/-! ## What a request is made of -/

/-- What the tests have found when they choose a request. -/
def Chosen (object : BridgeObject) (opcode : UInt32) (interface : Option String) : Branch → Prop
  | .getShellSurface => object = .shell ∧ interface ≠ none
  | .webosGetShellSurface => object = .webosShell ∧ opcode = 1 ∧ interface ≠ none
  | .setState offset => (∃ spot, object = .webosSurf spot ∧ spot.val = offset) ∧ opcode = 1
  | .setProperty offset =>
      (∃ spot, object = .webosSurf spot ∧ spot.val = offset) ∧ opcode = 2 ∧ interface = none
  | .getWebosSeat => object = .webosInputMgr ∧ interface ≠ none
  | .createSurface | .frame | .seatObject _ => interface ≠ none
  | .commit offset => ∃ spot, object = .surface spot ∧ spot.val = offset ∧ opcode = 6
  | .surfaceDestroy _ => ∃ spot, object = .surface spot ∧ opcode = 0
  | .display | .bind | .setToplevel _ | .callbackDestroy _ => ∀ spot, object ≠ .surface spot
  | .generic => opcode = 6 → interface = none → ∀ spot, object ≠ .surface spot

theorem branch_chosen {object : BridgeObject} {opcode : UInt32} :
    Chosen object opcode interface (object.branch opcode interface) := by
  cases object with
  | registry => exact nofun
  | compositor =>
      rw [BridgeObject.branch]
      split
      · rename_i named
        simp [Chosen, named]
      · exact fun _ _ => nofun
  | shell =>
      rw [BridgeObject.branch]
      split
      · rename_i named
        simp [Chosen, named]
      · exact fun _ _ => nofun
  | webosShell =>
      rw [BridgeObject.branch]
      split
      · rename_i named
        simp [Chosen, named]
      · exact fun _ _ => nofun
  | shellSurf offset =>
      rw [BridgeObject.branch]
      split
      · exact nofun
      · exact fun _ _ => nofun
  | webosSurf offset =>
      rw [BridgeObject.branch]
      split
      · rename_i asked
        exact ⟨⟨offset, rfl, rfl⟩, asked.1⟩
      · split
        · rename_i asked
          exact ⟨⟨offset, rfl, rfl⟩, asked⟩
        · exact fun _ _ => nofun
  | surface offset =>
      rw [BridgeObject.branch]
      split
      · rename_i asked
        exact asked.2
      · split
        · rename_i asked
          exact ⟨offset, rfl, rfl, asked.1⟩
        · split
          · rename_i asked
            exact ⟨offset, rfl, asked.1⟩
          · rename_i commit _
            exact fun six none => absurd ⟨six, none⟩ commit
  | seat index =>
      rw [BridgeObject.branch]
      split
      · assumption
      · exact fun _ _ => nofun
  | webosInputMgr =>
      rw [BridgeObject.branch]
      split
      · rename_i named
        simp [Chosen, named]
      · exact fun _ _ => nofun
  | callback index =>
      rw [BridgeObject.branch]
      split
      · exact nofun
      · exact fun _ _ => nofun
  | starfish | webosForeign | output _ | keyboard _ | pointer _ | webosSeat _ | other =>
      exact fun _ _ => nofun

/-! ## What the entry points pass on -/

theorem passed_objects {listed : List Argument} (fits : Pulls.objects.Fits (listed.map some)) :
    ∃ placeholder handle rest, listed = .object placeholder :: .object handle :: rest := by
  obtain ⟨placeholder, handle, rest, shape⟩ := fits
  obtain ⟨first, tail, rfl, head, more⟩ := List.map_eq_cons_iff.mp shape
  obtain ⟨second, after, rfl, next, -⟩ := List.map_eq_cons_iff.mp more
  cases head
  cases next
  exact ⟨placeholder, handle, after, rfl⟩

theorem passed_strings {listed : List Argument} (fits : Pulls.strings.Fits (listed.map some)) :
    ∃ name value rest, listed = .string name :: .string value :: rest := by
  obtain ⟨name, value, rest, shape⟩ := fits
  obtain ⟨first, tail, rfl, head, more⟩ := List.map_eq_cons_iff.mp shape
  obtain ⟨second, after, rfl, next, -⟩ := List.map_eq_cons_iff.mp more
  cases head
  cases next
  exact ⟨name, value, after, rfl⟩

section Arrays

variable {object : BridgeObject} {opcode : UInt32} {listed : List Argument}

theorem not_fits_nil (some : branch.pulls ≠ .nothing) : ¬ branch.pulls.Fits [] := by
  cases pulled : branch.pulls with
  | nothing => exact absurd pulled some
  | objects => simp [Pulls.Fits]
  | uint => simp [Pulls.Fits]
  | strings => simp [Pulls.Fits]

/-- Arguments that are there agree with those that are not in no request that takes them. -/
theorem perform_ne (missing : ¬ branch.pulls.Fits more) (complete : branch.pulls.Fits args) :
    stub.perform interface more branch ≠ stub.perform interface args branch := by
  rw [perform_missing missing]
  exact (perform_ne_argument complete).symm

/-- Without its arguments a request agrees only if it has none. -/
theorem perform_nil_iff (complete : branch.pulls.Fits args) :
    stub.perform interface [] branch = stub.perform interface args branch ↔
      branch.pulls = .nothing := by
  constructor
  · intro same
    by_contra some
    exact perform_ne (not_fits_nil some) complete same
  · exact perform_nothing

/-- What is passed on from an array is what the request takes, or nothing is. -/
theorem perform_array_iff (chosen : Chosen object opcode interface branch)
    (complete : branch.pulls.Fits (listed.map some)) :
    stub.perform interface (WlBridgeState.arrayForwarded object opcode interface listed) branch =
        stub.perform interface (listed.map some) branch ↔
      branch.pulls = .nothing ∨ (∃ offset, branch = .setProperty offset) ∨
        branch = .webosGetShellSurface ∨ branch = .getShellSurface ∧ opcode = 0 := by
  cases branch with
  | getShellSurface =>
      obtain ⟨rfl, asked⟩ := chosen
      by_cases zero : opcode = 0
      · obtain ⟨placeholder, handle, rest, rfl⟩ := passed_objects complete
        refine iff_of_true ?_ (.inr (.inr (.inr ⟨rfl, zero⟩)))
        rw [WlBridgeState.arrayForwarded, if_pos ⟨.inl ⟨rfl, zero⟩, asked⟩]
        · rfl
        · exact fun _ => nofun
      · have none : WlBridgeState.arrayForwarded .shell opcode interface listed = [] := by
          simp [WlBridgeState.arrayForwarded, zero]
        rw [none]
        refine iff_of_false (perform_ne (not_fits_nil nofun) complete) ?_
        simp [Branch.pulls, zero]
  | webosGetShellSurface =>
      obtain ⟨rfl, one, asked⟩ := chosen
      obtain ⟨placeholder, handle, rest, rfl⟩ := passed_objects complete
      refine iff_of_true ?_ (.inr (.inr (.inl rfl)))
      rw [WlBridgeState.arrayForwarded, if_pos ⟨.inr ⟨rfl, .inr one⟩, asked⟩]
      · rfl
      · exact fun _ => nofun
  | getWebosSeat =>
      obtain ⟨rfl, -⟩ := chosen
      have none : WlBridgeState.arrayForwarded .webosInputMgr opcode interface listed = [] := by
        simp [WlBridgeState.arrayForwarded]
      rw [none]
      refine iff_of_false (perform_ne (not_fits_nil nofun) complete) ?_
      simp [Branch.pulls]
  | setState offset =>
      obtain ⟨⟨spot, rfl, -⟩, rfl⟩ := chosen
      have none : WlBridgeState.arrayForwarded (.webosSurf spot) 1 interface listed = [] := by
        simp [WlBridgeState.arrayForwarded]
      rw [none]
      refine iff_of_false (perform_ne (not_fits_nil nofun) complete) ?_
      simp [Branch.pulls]
  | setProperty offset =>
      obtain ⟨⟨spot, rfl, -⟩, rfl, rfl⟩ := chosen
      obtain ⟨name, value, rest, rfl⟩ := passed_strings complete
      exact iff_of_true rfl (.inr (.inl ⟨offset, rfl⟩))
  | _ => exact iff_of_true (perform_nothing rfl) (.inl rfl)

/-- One argument in the wrong place is as good as none. -/
theorem not_fits_versioned (chosen : Chosen object opcode interface branch)
    (some : branch.pulls ≠ .nothing) :
    ¬ branch.pulls.Fits (WlBridgeState.arrayForwardedVersioned object opcode interface listed) := by
  unfold WlBridgeState.arrayForwardedVersioned
  split
  · rename_i shell
    cases branch with
    | getShellSurface | webosGetShellSurface | getWebosSeat =>
        rintro ⟨placeholder, handle, rest, shape⟩
        cases (List.cons.inj shape).2
    | setState offset =>
        obtain ⟨⟨spot, rfl, -⟩, -⟩ := chosen
        rcases shell.1 with same | same <;> cases same
    | setProperty offset =>
        rintro ⟨name, value, rest, shape⟩
        cases (List.cons.inj shape).2
    | _ => exact absurd rfl some
  · exact not_fits_nil some

theorem perform_array_versioned_iff (chosen : Chosen object opcode interface branch)
    (complete : branch.pulls.Fits (listed.map some)) :
    stub.perform interface
          (WlBridgeState.arrayForwardedVersioned object opcode interface listed) branch =
        stub.perform interface (listed.map some) branch ↔ branch.pulls = .nothing := by
  constructor
  · intro same
    by_contra some
    exact perform_ne (not_fits_versioned chosen some) complete same
  · exact perform_nothing

/-- Without an interface, only the display and the registry give a handle back. -/
theorem nullWithout_perform (chosen : Chosen object opcode none branch)
    (display : branch ≠ .display) (bind : branch ≠ .bind) :
    WlBridgeState.nullWithout none (stub.perform none args branch) = stub.perform none args branch := by
  have sendsTo {slot : UInt32} {command : UInt32 → StubCommand} :
      WlBridgeState.nullWithout none (stub.sendsTo slot command 0) = stub.sendsTo slot command 0 := by
    unfold WlBridgeState.sendsTo
    split <;> rfl
  cases branch with
  | display => exact absurd rfl display
  | bind => exact absurd rfl bind
  | createSurface | frame | seatObject _ => exact absurd rfl chosen
  | getShellSurface | getWebosSeat => exact absurd rfl chosen.2
  | webosGetShellSurface => exact absurd rfl chosen.2.2
  | setToplevel offset | commit offset | surfaceDestroy offset => exact sendsTo
  | setState offset =>
      change WlBridgeState.nullWithout none (WlBridgeState.withUint args _) = WlBridgeState.withUint args _
      unfold WlBridgeState.withUint
      split
      · unfold WlBridgeState.setState
        split <;> rfl
      · rfl
  | setProperty offset =>
      change WlBridgeState.nullWithout none (WlBridgeState.withStrings args _) =
        WlBridgeState.withStrings args _
      unfold WlBridgeState.withStrings
      split
      · unfold WlBridgeState.setProperty
        split
        · exact sendsTo
        · rfl
      · rfl
  | callbackDestroy index => rfl
  | generic => rfl

/-- A handle that is returned is told from none. -/
theorem returns_ne_null {handle : UInt32} (real : handle ≠ 0) {marshalled : Marshalled} :
    WlBridgeState.nullWithout none marshalled ≠ stub.returns handle := by
  intro same
  cases marshalled with
  | error fault => cases same
  | ok call =>
      have finish := congrArg (fun made => made.map fun call => (call.finish 0).2) same
      exact real (Except.ok.inj finish).symm

end Arrays

theorem chosen_request : Chosen (stub.objectFor request.proxy) request.opcode request.interface
    (request.branch stub) := by
  unfold MarshalRequest.branch
  cases request.proxy with
  | display => exact nofun
  | handle number => exact branch_chosen

/-- The functions for arrays, with what they pass on. -/
theorem nullWithout_iff {forwarded : VaList} {condition : Prop}
    (exact : stub.perform request.interface forwarded (request.branch stub) = request.flags stub ↔
      condition) :
    WlBridgeState.nullWithout request.interface
          (stub.perform request.interface forwarded (request.branch stub)) = request.flags stub ↔
      condition ∧ ¬ EntryPoint.Unasked stub request := by
  by_cases without : request.interface = none
  · by_cases unasked : EntryPoint.Unasked stub request
    · refine iff_of_false ?_ fun both => both.2 unasked
      rw [without]
      rcases unasked.2 with display | bind
      · have returned : request.flags stub = stub.returns bhDummySync := by
          change stub.perform request.interface _ (request.branch stub) = _
          rw [display, without]
          simp [WlBridgeState.perform, WlBridgeState.displayConstructor]
        rw [returned]
        exact returns_ne_null (by decide)
      · have returned : request.flags stub = stub.returns bhDummy := by
          change stub.perform request.interface _ (request.branch stub) = _
          rw [bind, without]
          simp [WlBridgeState.perform, WlBridgeState.registryBind]
        rw [returned]
        exact returns_ne_null (by decide)
    · have chosen : Chosen (stub.objectFor request.proxy) request.opcode request.interface
          (request.branch stub) := chosen_request
      rw [without] at chosen exact ⊢
      rw [nullWithout_perform chosen (fun display => unasked ⟨without, .inl display⟩)
        fun bind => unasked ⟨without, .inr bind⟩]
      exact exact.trans (and_iff_left unasked).symm
  · have kept : WlBridgeState.nullWithout request.interface
        (stub.perform request.interface forwarded (request.branch stub)) =
          stub.perform request.interface forwarded (request.branch stub) := if_neg without
    rw [kept]
    exact exact.trans (and_iff_left fun unasked => without unasked.1).symm

/-! ## `wl_proxy_marshal` -/

theorem sendsTo_ne_returns {slot handle other : UInt32} {command : UInt32 → StubCommand} :
    WlBridgeState.nullWithout none (stub.sendsTo slot command handle) ≠ stub.returns other := by
  unfold WlBridgeState.sendsTo
  split
  · nofun
  · intro same
    exact absurd (congrArg StubCall.sends (Except.ok.inj same)) nofun

theorem returns_eq_iff {next : WlBridgeState} {handle : UInt32} :
    stub.returns 0 = WlBridgeState.nullWithout none (next.returns handle) ↔ next = stub := by
  constructor
  · intro same
    have finish := congrArg (fun made => made.map fun call => (call.finish 0).1) same
    exact (Except.ok.inj finish).symm
  · rintro rfl
    rfl

/-- A request without an interface that is no commit does nothing, or is left undone. -/
theorem idle_iff {object : BridgeObject} {opcode : UInt32}
    (chosen : Chosen object opcode none branch) (complete : branch.pulls.Fits args)
    (uncommitted : ∀ offset, branch ≠ .commit offset) :
    stub.returns 0 = WlBridgeState.nullWithout none (stub.perform none args branch) ↔
      EntryPoint.Idle stub args branch := by
  have undone {slot : UInt32} {command : UInt32 → StubCommand} :
      stub.returns 0 ≠ WlBridgeState.nullWithout none (stub.sendsTo slot command 0) :=
    sendsTo_ne_returns.symm
  cases branch with
  | display =>
      have returned : stub.perform none args .display = stub.returns bhDummySync := by
        simp [WlBridgeState.perform, WlBridgeState.displayConstructor]
      rw [returned]
      exact iff_of_true rfl trivial
  | bind =>
      have returned : stub.perform none args .bind = stub.returns bhDummy := by
        simp [WlBridgeState.perform, WlBridgeState.registryBind]
      rw [returned]
      exact iff_of_true rfl trivial
  | createSurface | frame | seatObject _ => exact absurd rfl chosen
  | getShellSurface | getWebosSeat => exact absurd rfl chosen.2
  | webosGetShellSurface => exact absurd rfl chosen.2.2
  | setToplevel offset | surfaceDestroy offset => exact iff_of_false undone id
  | commit offset => exact absurd rfl (uncommitted offset)
  | setState offset =>
      obtain ⟨value, rest, rfl⟩ := complete
      change stub.returns 0 = WlBridgeState.nullWithout none (stub.setState offset value) ↔
        stub.slotFor offset = 0
      unfold WlBridgeState.setState
      split
      · rename_i zero
        exact iff_of_true rfl zero
      · rename_i nonzero
        refine iff_of_false (fun same => ?_) nonzero
        exact absurd (congrArg StubCall.sends (Except.ok.inj same)) nofun
  | setProperty offset =>
      obtain ⟨name, value, rest, rfl⟩ := complete
      change stub.returns 0 = WlBridgeState.nullWithout none (stub.setProperty offset name value) ↔
        some (some (Argument.string name)) = some (some (.string none)) ∨
          some (some (Argument.string value)) = some (some (.string none))
      cases name with
      | none => exact iff_of_true rfl (.inl rfl)
      | some name =>
          cases value with
          | none => exact iff_of_true rfl (.inr rfl)
          | some value =>
              have sent : stub.returns 0 ≠ WlBridgeState.nullWithout none
                  (stub.sendsTo (stub.slotFor offset) (.wlWebosSetProperty · name value) 0) := undone
              exact iff_of_false sent (by simp)
  | callbackDestroy index => exact returns_eq_iff
  | generic => exact iff_of_true rfl trivial

theorem call_commit {offset : Nat} (commit : request.branch stub = .commit offset) :
    stub.wlProxyMarshal request.proxy request.opcode request.args =
      stub.sendsTo (stub.slotFor offset) .wlSurfaceCommit 0 := by
  have chosen : Chosen (stub.objectFor request.proxy) request.opcode request.interface
      (request.branch stub) := chosen_request
  rw [commit] at chosen
  obtain ⟨spot, surface, rfl, six⟩ := chosen
  simp [WlBridgeState.wlProxyMarshal, surface, six]

/-- Everything else is ignored. -/
theorem call_uncommitted (without : request.interface = none)
    (uncommitted : ∀ offset, request.branch stub ≠ .commit offset) :
    stub.wlProxyMarshal request.proxy request.opcode request.args = stub.returns 0 := by
  unfold WlBridgeState.wlProxyMarshal
  split
  · rename_i offset surface
    split
    · rename_i six
      refine absurd ?_ (uncommitted offset.val)
      unfold MarshalRequest.branch WlBridgeState.branch
      cases target : request.proxy with
      | display => simp [WlBridgeState.objectFor, target] at surface
      | handle number =>
          have resolved : objectOf (stub.resolveHandle number) = .surface offset := by
            rwa [target] at surface
          simp [BridgeObject.branch, resolved, six, without]
    · rfl
  · rfl

/-! ## All of them -/

/-- An entry point agrees with `wl_proxy_marshal_flags` exactly on the requests whose
arguments it passes on. -/
theorem agrees_iff_forwards (stub : WlBridgeState) (entry : EntryPoint) (request : MarshalRequest)
    (complete : request.Complete stub) (takes : entry.Takes request) :
    entry.Agrees stub request ↔ entry.Forwards stub request := by
  cases entry with
  | marshal =>
      have without : request.interface = none := takes
      have chosen : Chosen (stub.objectFor request.proxy) request.opcode request.interface
          (request.branch stub) := chosen_request
      by_cases commit : ∃ offset, request.branch stub = .commit offset
      · obtain ⟨offset, commit⟩ := commit
        refine iff_of_true ?_ (.inl ⟨offset, commit⟩)
        change stub.wlProxyMarshal request.proxy request.opcode request.args =
          WlBridgeState.nullWithout none (stub.perform request.interface _ (request.branch stub))
        rw [without] at chosen ⊢
        rw [call_commit commit, nullWithout_perform chosen (by simp [commit]) (by simp [commit]),
          commit]
        rfl
      · have uncommitted : ∀ offset, request.branch stub ≠ .commit offset :=
          fun offset same => commit ⟨offset, same⟩
        change stub.wlProxyMarshal request.proxy request.opcode request.args =
          WlBridgeState.nullWithout none (stub.perform request.interface _ (request.branch stub)) ↔ _
        rw [call_uncommitted without uncommitted]
        rw [without] at chosen ⊢
        exact (idle_iff chosen complete uncommitted).trans (or_iff_right commit).symm
  | constructor => exact perform_nil_iff complete
  | constructorVersioned => exact perform_nil_iff complete
  | arrayConstructor => exact nullWithout_iff (perform_array_iff chosen_request complete)
  | arrayConstructorVersioned =>
      exact nullWithout_iff (perform_array_versioned_iff chosen_request complete)

/-- A client with one surface, which slot 1 of the proxy stands for. -/
def oneSurface : WlBridgeState := WlBridgeState.zero.reset.recordSurface 1

/-- `wl_shell.get_shell_surface` for that surface. -/
def shellRequest : MarshalRequest where
  proxy := .handle bhShell
  opcode := 0
  interface := some "wl_shell_surface"
  args := [.object 0, .object (.ofNat bhSurfaceBase)]

theorem shell_surface_from_array :
    EntryPoint.Agrees oneSurface shellRequest .arrayConstructor ↔
      EntryPoint.Forwards oneSurface shellRequest .arrayConstructor := by
  refine agrees_iff_forwards _ _ _ ⟨0, .ofNat bhSurfaceBase, [], ?_⟩ trivial
  decide

/-- `wl_proxy_marshal_constructor` takes a surface that it was not given. -/
theorem constructor_loses_surface :
    ¬ EntryPoint.Agrees oneSurface shellRequest .constructor ∧
      ∃ call, shellRequest.flags oneSurface = .ok call ∧
        call.sends = some (.wlShellGetShellSurface 1) := by
  refine ⟨fun same => ?_, _, rfl, rfl⟩
  have lost : (Except.error MarshalFault.argument : Marshalled) = .ok _ := same
  cases lost

end GlesBridge.Wayland
