import GlesBridge.Ring.Arena
import GlesBridge.Ring.Fifo
import Mathlib.Data.List.Pairwise

namespace GlesBridge.Ring

open GlesBridge.Data GlesBridge.Systems

/-! The bytes that entry points upload with their commands, from `bridge_data_write` to
the handler. -/

/-- `bridge_data_write(src, size)` with the range that it got. -/
structure Upload where
  seq : Nat
  given : Allocation
  src : Bytes

def Upload.Intact (upload : Upload) (arena : Bytes) : Prop :=
  ∀ index < upload.given.size, arena (upload.given.offset + index) = upload.src index

variable {cfg : Config} {Tid Gl : Type}

/-- A reservation without `src` uploads nothing. -/
def uploadOf (s : State cfg Tid Gl) : Event Tid Gl → List Upload
  | .allocated t seq given =>
      match (s.threads t).pc with
      | .alloc _ (some src) => [⟨seq, given, src⟩]
      | _ => []
  | _ => []

/-- A handler writes the ranges of its own command only. -/
def KeepsToOwn (trace : List (Event Tid Gl)) (s : State cfg Tid Gl) : Event Tid Gl → Prop
  | .dispatched seq _ outcome => ∀ address, outcome.arena address ≠ s.arena address →
      ∃ given ∈ allocations trace seq,
        given.offset ≤ address ∧ address < given.offset + given.size
  | _ => True

def uploading (cfg : Config) (Tid : Type) [DecidableEq Tid] (proxy : Dispatcher Gl) :
    Lts (State cfg Tid Gl × List Upload) (Event Tid Gl) :=
  (bridge cfg Tid proxy).recorded uploadOf

/-! ## Ranges apart -/

variable {trace : List (Event Tid Gl)} {e : Event Tid Gl} {s s' : State cfg Tid Gl} {t : Tid}
  {seq other first last : Nat} {given range : Allocation} {upload : Upload}

/-- Ranges of two commands of a window. -/
theorem apart_of_window (apart : (allocationsIn trace first last).Pairwise Allocation.Apart)
    (own : given ∈ allocations trace seq) (theirs : range ∈ allocations trace other)
    (different : seq ≠ other) (inside : first ≤ seq ∧ seq < last)
    (otherInside : first ≤ other ∧ other < last) : given.Apart range := by
  let Across (left right : Nat) : Prop :=
    ∀ given ∈ allocations trace left, ∀ range ∈ allocations trace right, given.Apart range
  have symmetric : Std.Symm Across :=
    ⟨fun _ _ across given own range theirs => Or.symm (across range theirs given own)⟩
  have across : (List.range' first (last - first)).Pairwise Across :=
    (List.pairwise_flatMap.mp apart).2
  refine across.forall (List.mem_range'_1.mpr ⟨inside.1, ?_⟩)
    (List.mem_range'_1.mpr ⟨otherInside.1, ?_⟩) different given own range theirs
  · omega
  · omega

theorem lt_of_allocation [DecidableEq Tid] {proxy : Dispatcher Gl}
    (run : (bridge cfg Tid proxy).Run trace s) (own : given ∈ allocations trace seq) :
    seq < s.localSeq := by
  by_contra fresh
  rw [(ArenaLaid.of_run run).fresh seq (Nat.le_of_not_lt fresh)] at own
  cases own

theorem State.released_le_served (s : State cfg Tid Gl) : s.released ≤ s.served := by
  unfold State.released State.served
  cases s.proxyPc <;> simp [ProxyPc.released, ProxyPc.answered]

/-! ## What a step does to an upload -/

/-- Bytes outside of the range that is written stay. -/
theorem Upload.Intact.of_apart {arena after : Bytes} (intact : upload.Intact arena)
    (kept : ∀ address, after address ≠ arena address →
      ∃ given : Allocation, upload.given.Apart given ∧
        given.offset ≤ address ∧ address < given.offset + given.size) :
    upload.Intact after := by
  intro index inside
  by_contra changed
  rw [← intact index inside] at changed
  obtain ⟨given, apart, low, high⟩ := kept _ changed
  rcases apart with before | behind
  · omega
  · omega

theorem intact_writeBytes {arena src : Bytes} {offset size : Nat} {block : Block} :
    Upload.Intact ⟨seq, ⟨offset, size, block⟩, src⟩ (writeBytes arena offset size src) := by
  intro index (inside : index < size)
  have here : offset ≤ offset + index ∧ offset + index < offset + size := by omega
  rw [writeBytes, if_pos here, Nat.add_sub_cancel_left]

/-- The uploads of the commands that have not been dispatched are in the arena. -/
structure Waiting (trace : List (Event Tid Gl)) (s : State cfg Tid Gl) (uploads : List Upload) :
    Prop where
  own : ∀ upload ∈ uploads, upload.given ∈ allocations trace upload.seq
  intact : ∀ upload ∈ uploads, s.served ≤ upload.seq → upload.Intact s.arena

namespace Waiting

variable {uploads : List Upload}

theorem keep (waiting : Waiting trace s uploads) (none : uploadOf s e = [])
    (arena : s'.arena = s.arena) (served : s.served ≤ s'.served) :
    Waiting (trace ++ [e]) s' (uploads ++ uploadOf s e) := by
  rw [none, List.append_nil]
  constructor
  case own =>
    intro upload member
    rw [allocations_snoc]
    exact List.mem_append_left _ (waiting.own upload member)
  case intact =>
    intro upload member late
    rw [arena]
    exact waiting.intact upload member (Nat.le_trans served late)

variable [DecidableEq Tid] {proxy : Dispatcher Gl}

/-- A new range is apart from the earlier ones of its command and from those of the other
commands that wait. -/
theorem apart_new (run : (bridge cfg Tid proxy).Run trace s) {size offset newHead : Nat}
    {src : Option Bytes} (here : (s.threads t).pc = .alloc size src)
    (placed : ringDataAlloc s.localDataHead s.dataTail size = some (offset, newHead))
    (own : range ∈ allocations trace seq) (late : s.served ≤ seq) :
    range.Apart ⟨offset, size, ⟨newHead - alignUp size, alignUp size⟩⟩ := by
  let given : Allocation := ⟨offset, size, ⟨newHead - alignUp size, alignUp size⟩⟩
  have later := run.step (.dataWrite here placed)
  have counters := Counters.of_run run
  have filling := counters.filling t (by rw [here]; rfl)
  have reserved := lt_of_allocation run own
  have released := s.released_le_served
  have published := counters.served_le
  have grown (seq : Nat) : allocations
      (trace ++ [.allocated t (s.threads t).curSeq given]) seq =
        allocations trace seq ++ if (s.threads t).curSeq = seq then [given] else [] := by
    rw [allocations_snoc, Event.allocation?]
    split <;> rfl
  have apart : (allocationsIn (trace ++ [.allocated t (s.threads t).curSeq given]) s.released
      s.localSeq).Pairwise Allocation.Apart := (live_ranges_apart later).2.1
  have theirs : given ∈ allocations (trace ++ [.allocated t (s.threads t).curSeq given])
      (s.threads t).curSeq := by
    rw [grown, if_pos rfl]
    exact List.mem_append_right _ List.mem_cons_self
  by_cases same : seq = (s.threads t).curSeq
  · have within := (List.pairwise_flatMap.mp apart).1 seq
      (List.mem_range'_1.mpr ⟨by omega, by omega⟩)
    rw [grown, if_pos same.symm] at within
    exact (List.pairwise_append.mp within).2.2 range own given List.mem_cons_self
  · refine apart_of_window apart ?_ theirs same ⟨by omega, reserved⟩ ⟨by omega, by omega⟩
    rw [grown]
    exact List.mem_append_left _ own

theorem write (run : (bridge cfg Tid proxy).Run trace s) (waiting : Waiting trace s uploads)
    {size offset newHead : Nat} {src : Option Bytes} (here : (s.threads t).pc = .alloc size src)
    (placed : ringDataAlloc s.localDataHead s.dataTail size = some (offset, newHead)) :
    Waiting
      (trace ++ [.allocated t (s.threads t).curSeq
        ⟨offset, size, ⟨newHead - alignUp size, alignUp size⟩⟩])
      (s.bridgeDataWrite t size src offset newHead)
      (uploads ++ uploadOf s (.allocated t (s.threads t).curSeq
        ⟨offset, size, ⟨newHead - alignUp size, alignUp size⟩⟩)) := by
  cases src with
  | none => exact waiting.keep (by rw [uploadOf, here]) rfl (Nat.le_refl _)
  | some src =>
      rw [uploadOf, here]
      constructor
      case own =>
        intro upload member
        rw [allocations_snoc]
        rcases List.mem_append.mp member with earlier | now
        · exact List.mem_append_left _ (waiting.own upload earlier)
        · obtain rfl := List.mem_singleton.mp now
          rw [Event.allocation?, if_pos rfl]
          exact List.mem_append_right _ List.mem_cons_self
      case intact =>
        intro upload member late
        rcases List.mem_append.mp member with earlier | now
        · refine (waiting.intact upload earlier late).of_apart fun address changed => ?_
          have written : offset ≤ address ∧ address < offset + size := by
            by_contra outside
            exact changed (if_neg outside)
          exact ⟨_, apart_new run here placed (waiting.own upload earlier) late, written⟩
        · obtain rfl := List.mem_singleton.mp now
          exact intact_writeBytes

theorem dispatch (run : (bridge cfg Tid proxy).Run trace s) (waiting : Waiting trace s uploads)
    (here : s.proxyPc = .dispatch)
    (keeps : KeepsToOwn trace s (.dispatched s.completed (s.slots s.proxyIndex) (s.outcome proxy))) :
    Waiting (trace ++ [.dispatched s.completed (s.slots s.proxyIndex) (s.outcome proxy)])
      (s.dispatch proxy) uploads := by
  have served : s.served = s.completed := by rw [State.served, here]; rfl
  have released : s.released = s.completed := by rw [State.released, here]; rfl
  have counters := Counters.of_run run
  have busy := counters.busy (.inl here)
  have known := counters.published_le_local
  have apart := (live_ranges_apart run).2.1
  constructor
  case own =>
    intro upload member
    rw [allocations_snoc]
    exact List.mem_append_left _ (waiting.own upload member)
  case intact =>
    intro upload member (late : s.completed + 1 ≤ upload.seq)
    have own := waiting.own upload member
    have reserved := lt_of_allocation run own
    refine (waiting.intact upload member (by omega)).of_apart fun address changed => ?_
    obtain ⟨given, theirs, low, high⟩ := keeps address changed
    exact ⟨given, apart_of_window apart own theirs (by omega) (by omega) (by omega), low, high⟩

theorem step (run : (bridge cfg Tid proxy).Run trace s) (waiting : Waiting trace s uploads)
    (taken : Step proxy s e s') (keeps : KeepsToOwn trace s e) :
    Waiting (trace ++ [e]) s' (uploads ++ uploadOf s e) := by
  cases taken.move with
  | keep plain frame =>
      have none : uploadOf s e = [] := by cases e <;> simp [Event.plain] at plain <;> rfl
      refine waiting.keep none frame.arena (Nat.le_of_eq ?_)
      rw [State.served, State.served, frame.completed, frame.answered]
  | acquire | begin | fill | publish | unlock => exact waiting.keep rfl rfl (Nat.le_refl _)
  | release here =>
      refine waiting.keep rfl rfl (Nat.le_of_eq ?_)
      rw [State.served, State.served, here]
      rfl
  | complete here =>
      refine waiting.keep rfl rfl (Nat.le_trans (Nat.le_of_eq ?_) (Nat.le_add_right _ _))
      rw [State.served, here]
      rfl
  | dataWrite _ placed here => exact waiting.write run here placed
  | dispatch here =>
      show Waiting _ _ (uploads ++ [])
      rw [List.append_nil]
      exact waiting.dispatch run here keeps

theorem of_run {held : State cfg Tid Gl × List Upload}
    (run : (uploading cfg Tid proxy).RunWithin (fun before held => KeepsToOwn before held.1) trace
      held) : Waiting trace held.1 held.2 := by
  induction run with
  | start initial =>
      rw [initial.2]
      exact ⟨nofun, nofun⟩
  | step run taken keeps ih =>
      rw [taken.2]
      exact ih.step run.unrecorded.run taken.1 keeps

end Waiting

section Delivery

variable [DecidableEq Tid] {proxy : Dispatcher Gl} {uploads : List Upload}

theorem Upload.Intact.readBytes {arena : Bytes} (intact : upload.Intact arena) :
    readBytes arena upload.given.offset upload.given.size =
      (List.range upload.given.size).map upload.src :=
  List.map_congr_left fun index member => intact index (List.mem_range.mp member)

/-- Where the handlers keep to the ranges of their own commands, each of them finds its
command as it was published, and in the ranges of its uploads the bytes of the client. -/
theorem uploads_delivered (run : (bridge cfg Tid proxy).RunWithin KeepsToOwn trace s) :
    (∃ uploads, (uploading cfg Tid proxy).RunWithin (fun before held => KeepsToOwn before held.1)
      trace (s, uploads)) ∧
    ∀ uploads, (uploading cfg Tid proxy).RunWithin (fun before held => KeepsToOwn before held.1)
        trace (s, uploads) → s.proxyPc = .dispatch →
      (s.completed, s.slots s.proxyIndex) ∈ publishedCommands trace ∧
        ∀ upload ∈ uploads, upload.seq = s.completed →
          upload.given.offset + upload.given.size ≤ glesBridgeDataSize ∧
            readBytes s.arena upload.given.offset upload.given.size =
              (List.range upload.given.size).map upload.src := by
  refine ⟨run.record uploadOf, fun uploads recorded here => ?_⟩
  have counters := Counters.of_run run.run
  have busy := counters.busy (.inl here)
  have known := counters.published_le_local
  have served : s.served = s.completed := by rw [State.served, here]; rfl
  have released := s.released_le_served
  constructor
  · have waits : (s.completed, s.slots s.proxyIndex) ∈ s.pending :=
      List.mem_map.mpr ⟨s.completed, List.mem_range'_1.mpr ⟨by omega, by omega⟩, rfl⟩
    rw [published_eq_dispatched_append run.run]
    exact List.mem_append_right _ waits
  · intro upload member current
    have waiting := Waiting.of_run recorded
    have listed : upload.given ∈ allocationsIn trace s.released s.localSeq :=
      List.mem_flatMap.mpr ⟨upload.seq, List.mem_range'_1.mpr ⟨by omega, by omega⟩,
        waiting.own upload member⟩
    exact ⟨(live_ranges_apart run.run).1 _ listed,
      (waiting.intact upload member (Nat.le_of_eq (served.trans current.symm))).readBytes⟩

/-- Four bytes, with a handler that writes none. -/
theorem uploads_delivered_four_bytes :
    ∃ (trace : List (Event Bool Unit)) (s : State .default Bool Unit) (uploads : List Upload),
      uploads.map (fun upload => (upload.seq, upload.given.offset, upload.given.size)) = [(0, 0, 4)] ∧
        s.proxyPc = .dispatch ∧ (s.completed, s.slots s.proxyIndex) ∈ publishedCommands trace ∧
        readBytes s.arena 0 4 = [7, 7, 7, 7] := by
  have run : (uploading .default Bool (.uniform (.constant 7))).RunWithin
      (fun before held => KeepsToOwn before held.1) [] (.initial .default 1 (), []) :=
    .start ⟨⟨1, (), rfl⟩, rfl⟩
  have run := run.stepRecorded (.lock (t := true) rfl rfl) trivial
  have run := run.stepRecorded (.begin (t := true) rfl rfl) trivial
  have run := run.stepRecorded (.dataEnter (t := true) 4 (some fun _ => 7) rfl (by decide)) trivial
  have run := run.stepRecorded (.dataWrite (t := true) rfl rfl) trivial
  have run := run.stepRecorded (.publish (t := true) .void rfl) trivial
  have run := run.stepRecorded (.load rfl) trivial
  obtain ⟨trace, s, uploads, run, shape, here, first⟩ :
      ∃ (trace : List (Event Bool Unit)) (s : State .default Bool Unit) (uploads : List Upload),
        (uploading .default Bool (.uniform (.constant 7))).RunWithin
          (fun before held => KeepsToOwn before held.1) trace (s, uploads) ∧
        uploads = [⟨0, ⟨0, 4, ⟨0, 4⟩⟩, fun _ => 7⟩] ∧ s.proxyPc = .dispatch ∧ s.completed = 0 :=
    ⟨_, _, _, run, rfl, rfl, rfl⟩
  subst shape
  have delivered := (uploads_delivered run.unrecorded).2 _ run here
  have bytes := (delivered.2 _ List.mem_cons_self first.symm).2
  exact ⟨trace, s, [⟨0, ⟨0, 4, ⟨0, 4⟩⟩, fun _ => 7⟩], rfl, here, delivered.1, bytes⟩

end Delivery

end GlesBridge.Ring
