import GlesBridge.Stub.Shadow

namespace GlesBridge.Stub

open GlesBridge.Gl GlesBridge.Shared

/-! What a member of the shadow stands for in a context, and when the shadow is
a sound copy of the context. -/

/-! ## Members and fields -/

def TextureArray.target : TextureArray → UInt32
  | .texture2d => glTexture2d
  | .texture2dArray => glTexture2dArray
  | .textureCube => glTextureCubeMap
  | .texture3d => glTexture3d

def Cap.name : Cap → UInt32
  | .blend => glBlend
  | .depthTest => glDepthTest
  | .cullFace => glCullFace
  | .scissorTest => glScissorTest
  | .stencilTest => glStencilTest
  | .dither => glDither
  | .polygonOffsetFill => glPolygonOffsetFill
  | .sampleAlphaToCoverage => glSampleAlphaToCoverage
  | .sampleCoverage => glSampleCoverage

/-- The field of a context that a member is a copy of. -/
def Slot.field : Slot → Option Field
  | .activeTexture => some .activeTexture
  | .boundTexture array unit => some (.texture array.target unit)
  | .program => some .program
  | .drawFb => some .drawFramebuffer
  | .readFb => some .readFramebuffer
  | .vao => some .vertexArray
  | .sampler unit => some (.sampler unit)
  | .viewport index => some (.viewport index)
  | .scissor index => some (.scissor index)
  | .viewportValid | .scissorValid => none
  | .colorMask index => some (.colorMask index)
  | .depthRange index => some (.depthRange index)
  | .depthFunc => some .depthFunc
  | .depthMask => some .depthMask
  | .frontFace => some .frontFace
  | .blendEqRgb => some .blendEqRgb
  | .blendEqAlpha => some .blendEqAlpha
  | .blendSrcRgb => some .blendSrcRgb
  | .blendDstRgb => some .blendDstRgb
  | .blendSrcAlpha => some .blendSrcAlpha
  | .blendDstAlpha => some .blendDstAlpha
  | .cap name => some (.cap name.name)

theorem shadowTexSlot_eq_some_iff {target unit : UInt32} {slot : Slot} :
    shadowTexSlot target unit = some slot ↔
      slot.field = some (.texture target (unit - glTexture0).toNat) := by
  constructor
  · intro found
    unfold shadowTexSlot at found
    by_cases below : (unit - glTexture0).toNat < maxTextureUnits
    · rw [dif_pos below] at found
      split_ifs at found <;> cases found <;> subst_vars <;> rfl
    · rw [dif_neg below] at found
      cases found
  · intro stands
    cases slot with
    | boundTexture array index =>
        simp only [Slot.field, Option.some.injEq, Field.texture.injEq] at stands
        obtain ⟨rfl, same⟩ := stands
        have below : (unit - glTexture0).toNat < maxTextureUnits := by omega
        have index : (⟨(unit - glTexture0).toNat, below⟩ : Fin maxTextureUnits) = index :=
          Fin.ext same.symm
        unfold shadowTexSlot
        rw [dif_pos below, index]
        cases array <;> rfl
    | _ => simp [Slot.field] at stands

theorem shadowCapSlot_eq_some_iff {cap : UInt32} {slot : Slot} :
    shadowCapSlot cap = some slot ↔ slot.field = some (.cap cap) := by
  constructor
  · intro found
    unfold shadowCapSlot at found
    split_ifs at found <;> cases found <;> subst_vars <;> rfl
  · intro stands
    cases slot with
    | cap name =>
        simp only [Slot.field, Option.some.injEq, Field.cap.injEq] at stands
        subst stands
        cases name <;> rfl
    | _ => simp [Slot.field] at stands

theorem Cap.name_injective : Function.Injective Cap.name := by
  intro left right same
  have found : shadowCapSlot left.name = some (.cap left) :=
    shadowCapSlot_eq_some_iff.mpr rfl
  have also_ : shadowCapSlot left.name = some (.cap right) :=
    shadowCapSlot_eq_some_iff.mpr (by rw [same]; rfl)
  simpa using found.symm.trans also_

theorem TextureArray.target_injective : Function.Injective TextureArray.target := by
  intro left right same
  cases left <;> cases right <;> first | rfl | exact absurd same (by decide)

/-- No two members are copies of one field. -/
theorem Slot.field_injective {left right : Slot} {field : Field} (stands : left.field = some field)
    (same : right.field = some field) : left = right := by
  cases left <;> cases stands <;> cases right <;>
    simp_all [Slot.field, Fin.ext_iff, TextureArray.target_injective.eq_iff,
      Cap.name_injective.eq_iff]

/-- Assignments to members, as assignments to the fields. -/
def fieldWrites (writes : List (Slot × UInt32)) : List (Field × UInt32) :=
  writes.filterMap fun (slot, value) => slot.field.map fun field => (field, value)

theorem lookup_fieldWrites {writes : List (Slot × UInt32)} {slot : Slot} {field : Field}
    (stands : slot.field = some field) :
    (fieldWrites writes).lookup field = writes.lookup slot := by
  induction writes with
  | nil => rfl
  | cons head rest ih =>
      obtain ⟨other, value⟩ := head
      by_cases same : slot = other
      · subst same
        simp [fieldWrites, stands]
      · have shape : (fieldWrites ((other, value) :: rest)).lookup field =
            (fieldWrites rest).lookup field := by
          cases shown : other.field with
          | none => simp [fieldWrites, shown]
          | some first =>
              have apart : field ≠ first := by
                rintro rfl
                exact same (Slot.field_injective stands shown)
              simp [fieldWrites, shown, List.lookup_cons, beq_eq_false_iff_ne.mpr apart]
        rw [shape, ih, List.lookup_cons, beq_eq_false_iff_ne.mpr same]

theorem mem_fieldWrites {writes : List (Slot × UInt32)} {field : Field} {value : UInt32}
    (found : (fieldWrites writes).lookup field = some value) :
    ∃ slot, slot.field = some field ∧ writes.lookup slot = some value := by
  have member : (field, value) ∈ fieldWrites writes := by
    obtain ⟨front, back, shape, -⟩ := List.lookup_eq_some_iff.mp found
    simp [shape]
  obtain ⟨⟨slot, written⟩, -, same⟩ := List.mem_filterMap.mp member
  obtain ⟨shown, stands, same⟩ := Option.map_eq_some_iff.mp same
  cases same
  exact ⟨slot, stands, by rwa [← lookup_fieldWrites stands]⟩

/-- An entry point that has members for its arguments assigns what GL assigns. -/
theorem effect_of_cached {shadow : StubShadowState} {call : StateCall}
    {writes : List (Slot × UInt32)} (cached : cachedSlots shadow call = some writes) :
    call.effect (shadow.slot .activeTexture) = .set (fieldWrites writes) := by
  cases call with
  | glBindTexture target texture =>
      obtain ⟨slot, found, rfl⟩ := Option.map_eq_some_iff.mp cached
      simp [StateCall.effect, fieldWrites, shadowTexSlot_eq_some_iff.mp found]
  | glEnable cap | glDisable cap =>
      obtain ⟨slot, found, rfl⟩ := Option.map_eq_some_iff.mp cached
      simp [StateCall.effect, fieldWrites, shadowCapSlot_eq_some_iff.mp found]
  | glBindFramebuffer target framebuffer =>
      simp only [cachedSlots] at cached
      simp only [StateCall.effect]
      split_ifs at cached ⊢ <;> cases cached <;> rfl
  | glBindSampler unit sampler =>
      simp only [cachedSlots] at cached
      split_ifs at cached
      cases cached
      rfl
  | _ => cases cached <;> rfl

/-! ## The shadow of one context -/

namespace StubShadowState

variable (shadow : StubShadowState)

/-- What the deletions leave for the name of a deleted object. -/
def unbound : ObjectKind → UInt32
  | .texture => shadowTexInvalid
  | _ => 0

def unbind (kind : ObjectKind) (names : List UInt32) : StubShadowState :=
  { shadow with slot := fun slot =>
      if slot.kind = some kind ∧ shadow.slot slot ≠ 0 ∧ shadow.slot slot ∈ names then unbound kind
      else shadow.slot slot }

def cachedCall (call : StateCall) : StubShadowState × Bool :=
  match cachedSlots shadow call with
  | none => (shadow, true)
  | some writes =>
      if shadow.matches_ writes then (shadow, false) else (shadow.assign writes, true)

/-- What the entry points do to the shadow of the current context, and whether
they send a command. -/
def afterCall : StateCall → StubShadowState × Bool
  | .glDeleteTextures textures => (shadow.unbind .texture textures, true)
  | .glDeleteFramebuffers fbs => (shadow.unbind .framebuffer fbs, true)
  | .glDeleteVertexArrays arrays => (shadow.unbind .vertexArray arrays, true)
  | .glDeleteSamplers samplers => (shadow.unbind .sampler samplers, true)
  | call => shadow.cachedCall call

end StubShadowState

/-- GL keeps a value of what the member stands for with each draw buffer. -/
def Slot.perBuffer (slot : Slot) : Bool := slot.field.any Field.perBuffer

/-- The ways of an entry point with the shadow. -/
inductive ShadowCase (shadow : StubShadowState) (call : StateCall) : StubShadowState × Bool → Prop
    where
  | kept {writes} (cached : cachedSlots shadow call = some writes)
      (same : shadow.matches_ writes = true) : ShadowCase shadow call (shadow, false)
  | assigned {writes} (cached : cachedSlots shadow call = some writes)
      (differ : shadow.matches_ writes = false) : ShadowCase shadow call (shadow.assign writes, true)
  | unbound {kind names} (cached : cachedSlots shadow call = none)
      (deletes : ∀ active, call.effect active = .unbind kind names) :
      ShadowCase shadow call (shadow.unbind kind names, true)
  | other (cached : cachedSlots shadow call = none)
      (apart : ∀ (slot : Slot) field, slot.field = some field → slot.perBuffer = false →
        ¬ (call.effect (shadow.slot .activeTexture)).Touches field) :
      ShadowCase shadow call (shadow, true)

/-- A call without a member for its arguments leaves what the members stand for. -/
theorem not_touches_of_uncached {shadow : StubShadowState} {call : StateCall}
    (uncached : cachedSlots shadow call = none)
    (keeps : ∀ active kind names, call.effect active ≠ .unbind kind names) {slot : Slot}
    {field : Field} (stands : slot.field = some field) (single : slot.perBuffer = false) :
    ¬ (call.effect (shadow.slot .activeTexture)).Touches field := by
  have buffers : field.perBuffer = false := by simpa [Slot.perBuffer, stands] using single
  cases call with
  | glBindTexture target texture =>
      have missing := Option.map_eq_none_iff.mp uncached
      have apart : field ≠ .texture target (shadow.slot .activeTexture - glTexture0).toNat := by
        rintro rfl
        rw [shadowTexSlot_eq_some_iff.mpr stands] at missing
        cases missing
      simp [StateCall.effect, Effect.Touches, List.lookup_cons, beq_eq_false_iff_ne.mpr apart]
  | glEnable cap | glDisable cap =>
      have missing := Option.map_eq_none_iff.mp uncached
      have apart : field ≠ .cap cap := by
        rintro rfl
        rw [shadowCapSlot_eq_some_iff.mpr stands] at missing
        cases missing
      simp [StateCall.effect, Effect.Touches, List.lookup_cons, beq_eq_false_iff_ne.mpr apart]
  | glBindFramebuffer target framebuffer =>
      simp only [cachedSlots] at uncached
      simp only [StateCall.effect]
      split_ifs at uncached ⊢
      simp [Effect.Touches]
  | glBindSampler unit sampler =>
      have apart : field ≠ .sampler unit.toNat := by
        rintro rfl
        cases slot with
        | sampler index =>
            simp only [Slot.field, Option.some.injEq, Field.sampler.injEq] at stands
            have below : unit.toNat < maxTextureUnits := by omega
            simp only [cachedSlots, dif_pos below, reduceCtorEq] at uncached
        | _ => simp [Slot.field] at stands
      simp [StateCall.effect, Effect.Touches, List.lookup_cons, beq_eq_false_iff_ne.mpr apart]
  | glEnablei | glDisablei | glColorMaski | glBlendEquationSeparatei | glBlendFuncSeparatei =>
      cases field <;> simp_all [StateCall.effect, Effect.Touches, Field.perBuffer, colorMasks,
        blendEquations, blendFactors]
  | glDeleteTextures | glDeleteFramebuffers | glDeleteVertexArrays | glDeleteSamplers =>
      exact absurd rfl (keeps 0 _ _)
  | glLinkProgram | glDeleteProgram | glDeleteBuffers | glDeleteRenderbuffers =>
      simp [StateCall.effect, Effect.Touches]
  | _ => cases uncached

theorem StubShadowState.afterCall_cases (shadow : StubShadowState) (call : StateCall) :
    ShadowCase shadow call (shadow.afterCall call) := by
  have other (shape : shadow.afterCall call = shadow.cachedCall call)
      (keeps : ∀ active kind names, call.effect active ≠ .unbind kind names) :
      ShadowCase shadow call (shadow.afterCall call) := by
    rw [shape, StubShadowState.cachedCall]
    cases cached : cachedSlots shadow call with
    | none => exact .other cached fun slot field => not_touches_of_uncached cached keeps
    | some writes =>
        cases same : shadow.matches_ writes with
        | true => simpa [same] using ShadowCase.kept cached same
        | false => simpa [same] using ShadowCase.assigned cached same
  cases call with
  | glDeleteTextures | glDeleteFramebuffers | glDeleteVertexArrays | glDeleteSamplers =>
      exact .unbound rfl fun _ => rfl
  | glBindFramebuffer target framebuffer =>
      refine other rfl fun active kind names => ?_
      simp only [StateCall.effect]
      split_ifs <;> simp
  | _ => exact other rfl (by simp [StateCall.effect])

/-! ## Sound copies -/

/-- The member says something of the context. -/
def StubShadowState.Knows (shadow : StubShadowState) : Slot → Prop
  | .boundTexture array unit => shadow.slot (.boundTexture array unit) ≠ shadowTexInvalid
  | .viewport _ => shadow.slot .viewportValid = 1
  | .scissor _ => shadow.slot .scissorValid = 1
  | _ => True

/-- The context has what the driver makes of the value, in every draw buffer. -/
def Slot.Holds (slot : Slot) (driver : Driver) (context : GLContext) (value : UInt32) : Prop :=
  ∀ field, slot.field = some field → ∀ buffer, context field buffer = driver.stores field value

/-- What the shadow knows of the state that is one for all draw buffers is so. -/
def Agrees (driver : Driver) (shadow : StubShadowState) (context : GLContext) : Prop :=
  ∀ slot, slot.perBuffer = false → shadow.Knows slot → slot.Holds driver context (shadow.slot slot)

variable {driver : Driver} {shadow : StubShadowState} {context : GLContext} {call : StateCall}
  {writes : List (Slot × UInt32)}

theorem Agrees.init (initial : context.Initial driver) : Agrees driver .init context := by
  have unknown : (0 : UInt32) ≠ 1 := by decide
  intro slot single known field stands buffer
  have surface : field.fromSurface = false := by
    cases slot with
    | viewport | scissor => exact absurd known unknown
    | viewportValid | scissorValid => cases stands
    | _ => cases stands; rfl
  rw [initial field buffer surface]
  cases slot with
  | depthRange index =>
      cases stands
      match index with
      | 0 => rfl
      | 1 => rfl
  | colorMask | cap => cases single
  | viewport | scissor => exact absurd known unknown
  | viewportValid | scissorValid => cases stands
  | _ => cases stands; rfl

theorem Agrees.effect (agrees : Agrees driver shadow context) :
    call.effect (context .activeTexture 0) = call.effect (shadow.slot .activeTexture) := by
  rw [agrees .activeTexture rfl trivial .activeTexture rfl 0, driver.active]

/-- Equal members of the shadow make the driver store the same. -/
theorem stores_of_matches (same : shadow.matches_ writes = true) {slot : Slot} {value : UInt32}
    (written : writes.lookup slot = some value) {field : Field} (stands : slot.field = some field) :
    driver.stores field (shadow.slot slot) = driver.stores field value := by
  have member : (slot, value) ∈ writes := by
    obtain ⟨front, back, shape, -⟩ := List.lookup_eq_some_iff.mp written
    simp [shape]
  have equal : slot.same (shadow.slot slot) value = true := List.all_eq_true.mp same _ member
  cases slot with
  | depthRange index =>
      cases stands
      exact driver.depth index _ _ equal
  | _ => rw [show shadow.slot _ = value by simpa [Slot.same] using equal]

/-- The members for the viewport and the scissor box. -/
def Slot.isBox : Slot → Bool
  | .viewport _ | .viewportValid | .scissor _ | .scissorValid => true
  | _ => false

/-- The members of a box are written together, by one entry point each. -/
theorem box_of_cached (cached : cachedSlots shadow call = some writes) :
    (∃ x y w h, call = .glViewport x y w h) ∨ (∃ x y width height, call = .glScissor x y width height) ∨
      ∀ slot : Slot, slot.isBox = true → writes.lookup slot = none := by
  have alone {slot : Slot} {value : UInt32} (outside : slot.isBox = false) :
      ∀ box : Slot, box.isBox = true → [(slot, value)].lookup box = none := by
    intro box inside
    have differ : box ≠ slot := by
      rintro rfl
      rw [inside] at outside
      cases outside
    rw [List.lookup_cons, beq_eq_false_iff_ne.mpr differ, List.lookup_nil]
  cases call with
  | glViewport x y w h => exact .inl ⟨x, y, w, h, rfl⟩
  | glScissor x y width height => exact .inr (.inl ⟨x, y, width, height, rfl⟩)
  | glBindTexture target texture =>
      obtain ⟨slot, found, rfl⟩ := Option.map_eq_some_iff.mp cached
      have stands := shadowTexSlot_eq_some_iff.mp found
      exact .inr (.inr (alone (by cases slot <;> first | rfl | simp [Slot.field] at stands)))
  | glEnable cap | glDisable cap =>
      obtain ⟨slot, found, rfl⟩ := Option.map_eq_some_iff.mp cached
      have stands := shadowCapSlot_eq_some_iff.mp found
      exact .inr (.inr (alone (by cases slot <;> first | rfl | simp [Slot.field] at stands)))
  | glBindFramebuffer target framebuffer =>
      simp only [cachedSlots] at cached
      refine .inr (.inr fun slot inside => ?_)
      split_ifs at cached <;> cases cached <;> cases slot <;> first | rfl | cases inside
  | glBindSampler unit sampler =>
      simp only [cachedSlots] at cached
      split_ifs at cached
      cases cached
      exact .inr (.inr (alone rfl))
  | _ =>
      refine .inr (.inr fun slot inside => ?_)
      cases cached <;> cases slot <;> first | rfl | cases inside

/-- The validity of a box is written with all of it. -/
theorem knows_of_assign (cached : cachedSlots shadow call = some writes) {slot : Slot}
    (unwritten : writes.lookup slot = none) (known : (shadow.assign writes).Knows slot) :
    shadow.Knows slot := by
  cases slot with
  | boundTexture array unit =>
      simpa [StubShadowState.Knows, StubShadowState.assign, unwritten] using known
  | viewport index =>
      rcases box_of_cached cached with ⟨x, y, w, h, rfl⟩ | ⟨x, y, width, height, rfl⟩ | apart
      · cases cached
        match index with
        | 0 | 1 | 2 | 3 => cases unwritten
      · cases cached
        exact known
      · simpa [StubShadowState.Knows, StubShadowState.assign, apart .viewportValid rfl] using known
  | scissor index =>
      rcases box_of_cached cached with ⟨x, y, w, h, rfl⟩ | ⟨x, y, width, height, rfl⟩ | apart
      · cases cached
        exact known
      · cases cached
        match index with
        | 0 | 1 | 2 | 3 => cases unwritten
      · simpa [StubShadowState.Knows, StubShadowState.assign, apart .scissorValid rfl] using known
  | _ => trivial

/-- What a call repeats is known, but for the name that marks a binding as unknown. -/
theorem knows_of_matches (cached : cachedSlots shadow call = some writes)
    (same : shadow.matches_ writes = true) {slot : Slot} {value : UInt32}
    (written : writes.lookup slot = some value) :
    shadow.Knows slot ↔ ¬ (slot.kind = some .texture ∧ value = shadowTexInvalid) := by
  have equal (slot : Slot) (value : UInt32) (member : (slot, value) ∈ writes) :
      slot.same (shadow.slot slot) value = true := List.all_eq_true.mp same _ member
  cases slot with
  | boundTexture array unit =>
      obtain ⟨front, back, shape, -⟩ := List.lookup_eq_some_iff.mp written
      have held : shadow.slot (.boundTexture array unit) = value := by
        simpa [Slot.same] using equal (.boundTexture array unit) value (by simp [shape])
      simp [StubShadowState.Knows, Slot.kind, held]
  | viewport index =>
      refine iff_of_true ?_ (by simp [Slot.kind])
      rcases box_of_cached cached with ⟨x, y, w, h, rfl⟩ | ⟨x, y, width, height, rfl⟩ | apart
      · cases cached
        exact LawfulBEq.eq_of_beq (equal .viewportValid 1 (.head _))
      · cases cached
        cases written
      · rw [apart _ rfl] at written
        cases written
  | scissor index =>
      refine iff_of_true ?_ (by simp [Slot.kind])
      rcases box_of_cached cached with ⟨x, y, w, h, rfl⟩ | ⟨x, y, width, height, rfl⟩ | apart
      · cases cached
        cases written
      · cases cached
        exact LawfulBEq.eq_of_beq (equal .scissorValid 1 (.head _))
      · rw [apart _ rfl] at written
        cases written
  | _ => simp [StubShadowState.Knows, Slot.kind]

/-! ### Steps -/

/-- An accepted call that assigns members, on the context. -/
theorem perform_of_cached (agrees : Agrees driver shadow context)
    (cached : cachedSlots shadow call = some writes) {slot : Slot} {field : Field}
    (stands : slot.field = some field) (buffer : Nat) :
    context.perform driver call field buffer =
      match writes.lookup slot with
      | some value => driver.stores field value
      | none => context field buffer := by
  cases found : writes.lookup slot with
  | none =>
      simp only [GLContext.perform, agrees.effect, effect_of_cached cached, GLContext.apply,
        GLContext.assign, lookup_fieldWrites stands, found]
  | some value =>
      simp only [GLContext.perform, agrees.effect, effect_of_cached cached, GLContext.apply,
        GLContext.assign, lookup_fieldWrites stands, found]

theorem Slot.kind_eq_field {slot : Slot} {field : Field} (stands : slot.field = some field) :
    slot.kind = field.kind := by
  cases slot <;> cases stands <;> rfl

theorem knows_of_unbind {kind : ObjectKind} {names : List UInt32} {slot : Slot}
    (known : (shadow.unbind kind names).Knows slot) : shadow.Knows slot := by
  cases slot with
  | boundTexture array unit =>
      intro marked
      refine known ?_
      simp only [StubShadowState.unbind]
      split_ifs with gone
      · rw [← Option.some.inj gone.1]
        rfl
      · exact marked
  | viewport index | scissor index => simpa [StubShadowState.Knows, StubShadowState.unbind, Slot.kind] using known
  | _ => trivial

/-- The names of deleted objects go out of the shadow and out of the context. -/
theorem Agrees.unbind (agrees : Agrees driver shadow context) (kind : ObjectKind)
    (names : List UInt32) :
    Agrees driver (shadow.unbind kind names) (context.apply driver (.unbind kind names)) := by
  intro slot single known field stands buffer
  have kinds := Slot.kind_eq_field stands
  have held := agrees slot single (knows_of_unbind known) field stands buffer
  by_cases ofKind : slot.kind = some kind
  · have named : field.kind = some kind := by rw [← kinds, ofKind]
    have stored (value : UInt32) : driver.stores field value = value :=
      driver.name field value (by simp [named])
    rw [stored] at held ⊢
    simp only [GLContext.apply, named, held, true_and]
    by_cases gone : shadow.slot slot ≠ 0 ∧ shadow.slot slot ∈ names
    · have left : (shadow.unbind kind names).slot slot = StubShadowState.unbound kind :=
        if_pos ⟨ofKind, gone⟩
      rw [if_pos gone.2, left]
      cases slot with
      | boundTexture array unit =>
          cases ofKind
          exact absurd left known
      | _ => cases ofKind <;> rfl
    · have left : (shadow.unbind kind names).slot slot = shadow.slot slot :=
        if_neg fun all => gone all.2
      rw [left]
      split_ifs with member
      · exact (not_ne_iff.mp fun nonzero => gone ⟨nonzero, member⟩).symm
      · rfl
  · have apart : field.kind ≠ some kind := by rwa [← kinds]
    have left : (shadow.unbind kind names).slot slot = shadow.slot slot :=
      if_neg fun all => ofKind all.1
    simpa [GLContext.apply, apart, left] using held

/-- The shadow stays a sound copy: every call is followed up, but for the state
that GL has for each draw buffer. -/
theorem Agrees.perform (agrees : Agrees driver shadow context) (call : StateCall) :
    Agrees driver (shadow.afterCall call).1 (context.perform driver call) := by
  have way := shadow.afterCall_cases call
  generalize shadow.afterCall call = after at way
  cases way with
  | kept cached same =>
      intro slot single known field stands buffer
      rw [perform_of_cached agrees cached stands]
      split
      next value written => rw [stores_of_matches same written stands]
      next => exact agrees slot single known field stands buffer
  | @assigned writes cached differ =>
      intro slot single known field stands buffer
      rw [perform_of_cached agrees cached stands]
      split
      next value written => simp [StubShadowState.assign, written]
      next unwritten =>
        rw [agrees slot single (knows_of_assign cached unwritten known) field stands buffer]
        simp [StubShadowState.assign, unwritten]
  | unbound cached deletes =>
      rw [GLContext.perform, deletes]
      exact agrees.unbind _ _
  | other cached apart =>
      intro slot single known field stands buffer
      rw [GLContext.perform, agrees.effect,
        GLContext.apply_of_not_touches (apart slot field stands single)]
      exact agrees slot single known field stands buffer

/-- A call that repeats what the shadow holds changes nothing if the context
really holds it where the shadow may be wrong. -/
theorem perform_eq_self_iff (agrees : Agrees driver shadow context)
    (cached : cachedSlots shadow call = some writes) (same : shadow.matches_ writes = true) :
    context.perform driver call = context ↔ ∀ slot value, writes.lookup slot = some value →
      slot.perBuffer = true ∨ ¬ shadow.Knows slot → slot.Holds driver context value := by
  constructor
  · intro idle slot value written _ field stands buffer
    have performed := perform_of_cached agrees cached stands buffer
    rw [idle, written] at performed
    exact performed
  · intro holds
    funext field buffer
    cases found : (fieldWrites writes).lookup field with
    | none =>
        simp [GLContext.perform, agrees.effect, effect_of_cached cached, GLContext.apply,
          GLContext.assign, found]
    | some value =>
        obtain ⟨slot, stands, written⟩ := mem_fieldWrites found
        rw [perform_of_cached agrees cached stands, written]
        by_cases trusted : slot.perBuffer = false ∧ shadow.Knows slot
        · rw [agrees slot trusted.1 trusted.2 field stands buffer,
            stores_of_matches same written stands]
        · refine (holds slot value written ?_ field stands buffer).symm
          cases single : slot.perBuffer with
          | true => exact .inl rfl
          | false => exact .inr fun known => trusted ⟨single, known⟩

end GlesBridge.Stub
