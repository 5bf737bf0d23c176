import GlesBridge.Framebuffer.Cache
import GlesBridge.Egl.Current

namespace GlesBridge.Framebuffer

open GlesBridge.Gl GlesBridge.Proxy GlesBridge.Proxy.EglProxy GlesBridge.Systems

/-! Which attachments may be left out. -/

/-- An attachment that is left out is in place in the context that is current, so
the call would have changed nothing. -/
def AttachSound (proxy : FboProxy) (input : FboInput) : Prop :=
  ∀ target attachment textarget texture level,
    input.command = .glFramebufferTexture2D target attachment textarget texture level →
    let proxy := proxy.bindTarget input
    let image := proxy.image2D textarget texture level
    (proxy.cache.attach target attachment textarget texture level).1 = true →
      (proxy.egl.current ≠ 0 →
        let framebuffers := proxy.egl.contexts proxy.egl.current
        framebuffers.Has (framebuffers.bound target) attachment image) ∧
      ∀ accepts, proxy.perform accepts (·.attach target attachment image) = proxy

/-- The driver takes a bind that the cache notes and an attachment that it
records; an extension leaves the bindings alone and what is recorded; and no
context gets the index of the one that counts as current. -/
def KeepsCache (proxy : FboProxy) (input : FboInput) : Prop :=
  let proxy := proxy.bindTarget input
  let framebuffers := proxy.egl.contexts proxy.egl.current
  match input.command with
  | .egl (.eglCreateContext _) _ => proxy.egl.freeContext ≠ some proxy.cacheId
  | .egl (.gl act) _ =>
      proxy.egl.current ≠ 0 →
        (act framebuffers).draw = framebuffers.draw ∧ (act framebuffers).read = framebuffers.read ∧
          ∀ place image, let entry := proxy.cache.entries place
            entry.fbo ≠ 0 → framebuffers.Has entry.fbo entry.attachment image →
              (act framebuffers).Has entry.fbo entry.attachment image
  | .glBindFramebuffer target framebuffer =>
      input.accepts = true ∨ proxy.cache.bind target framebuffer = proxy.cache
  | .glFramebufferTexture2D target .. => input.accepts = true ∨ proxy.cache.bound target = 0
  | _ => True

/-- The context that the cache of an index is about. -/
def holder (proxy : FboProxy) (id : ContextId) : UInt32 :=
  if id = proxy.cacheId then proxy.egl.current else proxy.egl.eglContexts id

/-- The table has the current context at its index, or none there, and every cache
is right about its context. -/
structure Cached (proxy : FboProxy) : Prop where
  zero : proxy.egl.eglContexts 0 = 0
  index : proxy.egl.eglContexts proxy.cacheId = proxy.egl.current ∨
    proxy.egl.eglContexts proxy.cacheId = 0
  injective : ∀ first second, holder proxy first ≠ 0 → holder proxy first = holder proxy second →
    first = second
  distinct : ∀ id, Distinct (proxy.gFboCache id)
  truthful : ∀ id, holder proxy id ≠ 0 →
    Truthful (proxy.gFboCache id) (proxy.textures (proxy.groups (holder proxy id)))
      (proxy.egl.contexts (holder proxy id))

theorem Cached.zero_start : Cached .zero where
  zero := rfl
  index := .inl rfl
  injective first _ live := by
    unfold holder at live
    split at live <;> exact absurd rfl live
  distinct _ := .zero
  truthful _ _ := .zero

variable {proxy next : FboProxy} {egl : EglProxy Framebuffers} {input : FboInput}

theorem holder_current (proxy : FboProxy) : holder proxy proxy.cacheId = proxy.egl.current :=
  if_pos rfl

theorem Cached.table (cached : Cached proxy) {id : ContextId} (live : proxy.egl.eglContexts id ≠ 0) :
    holder proxy id = proxy.egl.eglContexts id := by
  unfold holder
  split
  · rename_i here
    subst here
    exact (cached.index.resolve_right live).symm
  · rfl

/-! ## Contexts -/

/-- Every cache that is about a context is about the same one as before. -/
theorem Cached.keep (cached : Cached proxy)
    (holds : ∀ id, holder { proxy with egl } id ≠ 0 →
      holder { proxy with egl } id = holder proxy id)
    (contexts : egl.contexts = proxy.egl.contexts) (zero : egl.eglContexts 0 = 0)
    (index : egl.eglContexts (contextId egl.gCurrentCtx) = egl.current ∨
      egl.eglContexts (contextId egl.gCurrentCtx) = 0) : Cached { proxy with egl } where
  zero := zero
  index := index
  injective first second live same := by
    have also := same ▸ live
    rw [holds first live, holds second also] at same
    exact cached.injective first second (holds first live ▸ live) same
  distinct := cached.distinct
  truthful id live := by
    have truthful := cached.truthful id (holds id live ▸ live)
    rw [← holds id live] at truthful
    simpa only [contexts] using truthful

/-- The context that is current is another one of the table, or none. -/
theorem Cached.switch (cached : Cached proxy) (contexts : egl.contexts = proxy.egl.contexts)
    (table : egl.eglContexts = proxy.egl.eglContexts)
    (current : egl.current = egl.ctx egl.gCurrentCtx) : Cached { proxy with egl } := by
  refine cached.keep (fun id live => ?_) contexts (table ▸ cached.zero) (.inl current.symm)
  have holds : holder { proxy with egl } id = proxy.egl.eglContexts id := by
    rw [← table]
    unfold holder
    split
    · rename_i here
      rw [here]
      exact current
    · rfl
  rw [holds] at live ⊢
  exact (cached.table live).symm

/-- Contexts leave the table, and the one that is current stays so. -/
theorem Cached.leave (cached : Cached proxy) (contexts : egl.contexts = proxy.egl.contexts)
    (current : egl.current = proxy.egl.current) (same : egl.gCurrentCtx = proxy.egl.gCurrentCtx)
    (table : ∀ id, egl.eglContexts id = proxy.egl.eglContexts id ∨ egl.eglContexts id = 0) :
    Cached { proxy with egl } := by
  have index : FboProxy.cacheId { proxy with egl } = proxy.cacheId := congrArg contextId same
  refine cached.keep (fun id live => ?_) contexts ?_ ?_
  · unfold holder at live ⊢
    rw [index] at live ⊢
    split
    · exact current
    · rename_i away
      rw [if_neg away] at live
      exact (table id).resolve_right live
  · rcases table 0 with kept | gone
    · exact kept.trans cached.zero
    · exact gone
  · rw [same, current]
    rcases table proxy.cacheId with kept | gone
    · exact cached.index.imp kept.trans kept.trans
    · exact .inr gone

theorem Cached.bindTarget (cached : Cached proxy) (input : FboInput) :
    Cached (proxy.bindTarget input) := by
  unfold FboProxy.bindTarget
  split
  · exact cached
  · rcases Egl.eglBindTargetCtx_cases proxy.egl input.targetCtx input.binds with same | ⟨-, -, same⟩
    · rw [same]
      exact cached
    · rw [same]
      exact cached.switch rfl rfl rfl

/-- States of contexts that no cache is about do not matter. -/
theorem Cached.others (cached : Cached proxy) (contexts : UInt32 → Framebuffers)
    (groups : UInt32 → Nat)
    (same : ∀ id, holder proxy id ≠ 0 →
      contexts (holder proxy id) = proxy.egl.contexts (holder proxy id) ∧
        groups (holder proxy id) = proxy.groups (holder proxy id)) :
    Cached { proxy with egl := { proxy.egl with contexts }, groups } where
  zero := cached.zero
  index := cached.index
  injective := cached.injective
  distinct := cached.distinct
  truthful id live := by
    obtain ⟨state, group⟩ := same id live
    have truthful := cached.truthful id live
    rw [← state, ← group] at truthful
    exact truthful

/-- A new context at an index that is free. -/
theorem Cached.enter (cached : Cached proxy) {id : ContextId} {real : UInt32} (used : id ≠ 0)
    (away : id ≠ proxy.cacheId) (unused : ∀ other, holder proxy other ≠ real)
    (fresh : proxy.egl.contexts real = .initial) :
    Cached { proxy with
      egl := { proxy.egl with eglContexts := Function.update proxy.egl.eglContexts id real }
      gFboCache := Function.update proxy.gFboCache id .zero } := by
  generalize shape : ({ proxy with
    egl := { proxy.egl with eglContexts := Function.update proxy.egl.eglContexts id real }
    gFboCache := Function.update proxy.gFboCache id .zero } : FboProxy) = next
  have new : holder next id = real := by
    subst shape
    exact (if_neg away).trans (Function.update_self ..)
  have old (other) (apart : other ≠ id) : holder next other = holder proxy other := by
    subst shape
    unfold holder
    exact congrArg (ite _ _) (Function.update_of_ne apart ..)
  have oldCache (other) (apart : other ≠ id) : next.gFboCache other = proxy.gFboCache other := by
    subst shape
    exact Function.update_of_ne apart ..
  have newCache : next.gFboCache id = .zero := by
    subst shape
    exact Function.update_self ..
  refine ⟨?_, ?_, fun first second live same => ?_, fun other => ?_, fun other live => ?_⟩
  · subst shape
    exact (Function.update_of_ne used.symm ..).trans cached.zero
  · have stays : next.egl.eglContexts next.cacheId = proxy.egl.eglContexts proxy.cacheId := by
      subst shape
      exact Function.update_of_ne away.symm ..
    rw [stays]
    subst shape
    exact cached.index
  · by_cases atFirst : first = id
    · by_cases atSecond : second = id
      · exact atFirst.trans atSecond.symm
      · rw [atFirst, new, old second atSecond] at same
        exact (unused second same.symm).elim
    · by_cases atSecond : second = id
      · rw [atSecond, new, old first atFirst] at same
        exact (unused first same).elim
      · rw [old first atFirst] at live same
        rw [old second atSecond] at same
        exact cached.injective first second live same
  · by_cases here : other = id
    · rw [here, newCache]
      exact .zero
    · rw [oldCache other here]
      exact cached.distinct other
  · by_cases here : other = id
    · rw [here, newCache, new]
      subst shape
      simp only [fresh]
      exact .zero
    · rw [old other here] at live ⊢
      rw [oldCache other here]
      subst shape
      exact cached.truthful other live

theorem holder_ne {real : UInt32}
    (unused : ¬ (real = proxy.egl.current ∨ ∃ id, proxy.egl.eglContexts id = real)) (id : ContextId) :
    holder proxy id ≠ real := by
  intro same
  unfold holder at same
  split at same
  · exact unused (.inl same.symm)
  · exact unused (.inr ⟨id, same⟩)

theorem Cached.create (cached : Cached proxy) {real : UInt32} {group : Nat}
    (apart : proxy.egl.freeContext ≠ some proxy.cacheId)
    (handled : proxy.hEgl (.eglCreateContext real) group = some next) : Cached next := by
  obtain ⟨⟨egl, result⟩, created, rfl⟩ := Option.map_eq_some_iff.mp handled
  have created : proxy.egl.hEglCreateContext .initial real = some (egl, result) := created
  unfold EglProxy.hEglCreateContext at created
  split at created
  · rename_i null
    cases created
    exact cached.others _ _ fun id live => ⟨rfl, Function.update_of_ne (null ▸ live) ..⟩
  · split at created
    · cases created
    · rename_i unused
      have known := cached.others (Function.update proxy.egl.contexts real .initial)
        (Function.update proxy.groups real group) fun id _ => ⟨Function.update_of_ne (holder_ne unused id) ..,
          Function.update_of_ne (holder_ne unused id) ..⟩
      simp only at created
      split at created
      · rename_i id free
        cases created
        obtain ⟨used, -⟩ := Egl.freeContext_some free
        have away : id ≠ proxy.cacheId := fun same => apart (free.trans (congrArg some same))
        have entered := known.enter used away (holder_ne unused) (Function.update_self ..)
        simpa only [if_neg (Egl.ofNat_id_ne_zero used), Egl.contextId_ofNat] using entered
      · cases created
        exact known

/-! ## Commands -/

/-- A command changes the state of the context that is current and its cache. -/
theorem Cached.work (cached : Cached proxy) {contexts : UInt32 → Framebuffers} {cache : FboCache}
    (others : ∀ real, real ≠ proxy.egl.current → contexts real = proxy.egl.contexts real)
    (distinct : Distinct cache)
    (truthful : proxy.egl.current ≠ 0 →
      Truthful cache proxy.objects (contexts proxy.egl.current)) :
    Cached ({ proxy with egl := { proxy.egl with contexts } } |>.remember cache) := by
  have otherCache (id) (away : id ≠ proxy.cacheId) :
      Function.update proxy.gFboCache proxy.cacheId cache id = proxy.gFboCache id :=
    Function.update_of_ne away ..
  refine ⟨cached.zero, cached.index, cached.injective, fun id => ?_, fun id live => ?_⟩
  · change Distinct (Function.update proxy.gFboCache proxy.cacheId cache id)
    by_cases here : id = proxy.cacheId
    · rw [here, Function.update_self]
      exact distinct
    · rw [otherCache id here]
      exact cached.distinct id
  · change holder proxy id ≠ 0 at live
    change Truthful (Function.update proxy.gFboCache proxy.cacheId cache id)
      (proxy.textures (proxy.groups (holder proxy id))) (contexts (holder proxy id))
    by_cases here : id = proxy.cacheId
    · rw [here, holder_current] at live ⊢
      rw [Function.update_self]
      exact truthful live
    · have elsewhere : holder proxy id ≠ proxy.egl.current := by
        intro same
        rw [← holder_current] at same
        exact here (cached.injective id _ live same)
      rw [otherCache id here, others _ elsewhere]
      exact cached.truthful id live

/-- What a command does to the states of the contexts. -/
theorem perform_shape (proxy : FboProxy) (accepts : Bool) (act : Framebuffers → Framebuffers) :
    ∃ contexts, proxy.perform accepts act =
        { proxy with egl := { proxy.egl with contexts } } ∧
      (∀ real, real ≠ proxy.egl.current → contexts real = proxy.egl.contexts real) ∧
      (proxy.egl.current ≠ 0 →
        contexts proxy.egl.current =
          if accepts then act (proxy.egl.contexts proxy.egl.current)
          else proxy.egl.contexts proxy.egl.current) := by
  unfold FboProxy.perform EglProxy.performGl
  cases accepts with
  | false => exact ⟨_, rfl, fun _ _ => rfl, fun _ => rfl⟩
  | true =>
      by_cases none : proxy.egl.current = 0
      · rw [if_pos rfl, if_pos none]
        exact ⟨_, rfl, fun _ _ => rfl, fun live => absurd none live⟩
      · rw [if_pos rfl, if_neg none]
        exact ⟨_, rfl, fun real away => Function.update_of_ne away .., fun _ =>
          Function.update_self ..⟩

theorem Cached.perform (cached : Cached proxy) {accepts : Bool} {act : Framebuffers → Framebuffers}
    {cache : FboCache} (distinct : Distinct cache)
    (truthful : proxy.egl.current ≠ 0 →
      Truthful proxy.cache proxy.objects (proxy.egl.contexts proxy.egl.current) →
      Truthful cache proxy.objects
        (if accepts then act (proxy.egl.contexts proxy.egl.current)
        else proxy.egl.contexts proxy.egl.current)) :
    Cached ((proxy.perform accepts act).remember cache) := by
  obtain ⟨contexts, shape, others, here⟩ := perform_shape proxy accepts act
  rw [shape]
  refine cached.work others distinct fun live => ?_
  rw [here live]
  have known := cached.truthful proxy.cacheId
  rw [holder_current] at known
  exact truthful live (known live)

theorem Cached.cacheDistinct (cached : Cached proxy) : Distinct proxy.cache :=
  cached.distinct proxy.cacheId

/-- A command may come before its note in the cache or after it. -/
theorem remember_perform (proxy : FboProxy) (accepts : Bool) (act : Framebuffers → Framebuffers)
    (cache : FboCache) :
    (proxy.remember cache).perform accepts act = (proxy.perform accepts act).remember cache := by
  unfold FboProxy.perform EglProxy.performGl FboProxy.remember
  cases accepts with
  | false => rfl
  | true =>
      simp only [if_true]
      split <;> rfl

theorem remember_cache (proxy : FboProxy) : proxy.remember proxy.cache = proxy := by
  unfold FboProxy.remember FboProxy.cache
  rw [Function.update_eq_self]

theorem Cached.performed (cached : Cached proxy) (accepts : Bool)
    (act : Framebuffers → Framebuffers)
    (truthful : proxy.egl.current ≠ 0 →
      Truthful proxy.cache proxy.objects (proxy.egl.contexts proxy.egl.current) →
      Truthful proxy.cache proxy.objects
        (if accepts then act (proxy.egl.contexts proxy.egl.current)
        else proxy.egl.contexts proxy.egl.current)) :
    Cached (proxy.perform accepts act) := by
  have noted := cached.perform cached.cacheDistinct truthful
  rw [← remember_perform, remember_cache] at noted
  exact noted

theorem Cached.attachUncached (cached : Cached proxy) (target attachment : UInt32) (image : Image)
    (accepts : Bool) : Cached (proxy.attachUncached target attachment image accepts) :=
  cached.perform (cached.cacheDistinct.fewer (fewer_clear _ _)) fun _ truthful =>
    truthful.invalidate accepts

theorem renew_other {names : List UInt32} {objects : UInt32 → Nat} {name : UInt32}
    (kept : names.contains name = false) : FboProxy.renew names objects name = objects name := by
  simp only [FboProxy.renew, kept, Bool.false_eq_true, if_false]

/-- Every cache forgets the names, whichever contexts they are shared with. -/
theorem Cached.forgetTextures (cached : Cached proxy) (names : List UInt32)
    {contexts : UInt32 → Framebuffers} {textures : Nat → UInt32 → Nat}
    (same : ∀ group name, names.contains name = false →
      textures group name = proxy.textures group name)
    (others : ∀ real, real ≠ proxy.egl.current → contexts real = proxy.egl.contexts real)
    (here : proxy.egl.current ≠ 0 →
      contexts proxy.egl.current =
        (proxy.egl.contexts proxy.egl.current).detach (Image.isOfTexture proxy.objects names)) :
    Cached { proxy with
      egl := { proxy.egl with contexts }
      gFboCache := fun id => (proxy.gFboCache id).forgetTextures names
      textures } := by
  refine ⟨cached.zero, cached.index, cached.injective, fun id => ?_, fun id live => ?_⟩
  · exact (cached.distinct id).fewer (fewer_forgetTextures _ _)
  · change holder proxy id ≠ 0 at live
    change Truthful ((proxy.gFboCache id).forgetTextures names)
      (textures (proxy.groups (holder proxy id))) (contexts (holder proxy id))
    obtain ⟨kept, detached⟩ := (cached.truthful id live).forgetTextures names
      (same (proxy.groups (holder proxy id)))
    by_cases current : holder proxy id = proxy.egl.current
    · rw [current] at live detached ⊢
      rw [here live]
      exact detached
    · rw [others _ current]
      exact kept

theorem Cached.deleteTextures (cached : Cached proxy) (names : List UInt32) :
    Cached (proxy.hGlDeleteTextures names) := by
  unfold FboProxy.hGlDeleteTextures
  by_cases none : proxy.egl.current = 0
  · rw [if_pos none]
    exact cached.forgetTextures names (fun _ _ _ => rfl) (fun _ _ => rfl) fun live =>
      absurd none live
  · rw [if_neg none]
    obtain ⟨contexts, shape, others, here⟩ := perform_shape
      { proxy with gFboCache := fun id => (proxy.gFboCache id).forgetTextures names } true
      (·.detach (Image.isOfTexture proxy.objects names))
    rw [shape]
    refine cached.forgetTextures names (fun group name kept => ?_) others here
    by_cases own : group = proxy.groups proxy.egl.current
    · rw [own, Function.update_self]
      exact renew_other kept
    · rw [Function.update_of_ne own]

theorem Cached.framebufferTexture2D (cached : Cached proxy)
    (target attachment textarget texture : UInt32) (level : Int32) {accepts : Bool}
    (takes : accepts = true ∨ proxy.cache.bound target = 0) :
    Cached (proxy.hGlFramebufferTexture2D target attachment textarget texture level accepts) := by
  unfold FboProxy.hGlFramebufferTexture2D
  rcases attach_cases cached.cacheDistinct target attachment textarget texture level with
    ⟨hit, -⟩ | ⟨same, default⟩ | ⟨miss, bound, recorded⟩
  · generalize proxy.cache.attach target attachment textarget texture level = answer at hit ⊢
    obtain ⟨skip, cache⟩ := answer
    subst hit
    exact cached
  · rw [same]
    simp only [remember_perform]
    refine cached.perform cached.cacheDistinct fun _ truthful => ?_
    have unbound : (proxy.egl.contexts proxy.egl.current).bound target = 0 := by
      rw [← truthful.bound]
      exact default
    have idle : (proxy.egl.contexts proxy.egl.current).attach target attachment
        (proxy.image2D textarget texture level) = proxy.egl.contexts proxy.egl.current := by
      simp only [Framebuffers.attach, if_pos unbound]
    rw [idle, ite_self]
    exact truthful
  · generalize proxy.cache.attach target attachment textarget texture level = answer
      at miss recorded ⊢
    obtain ⟨skip, cache⟩ := answer
    subst miss
    have accepted := takes.resolve_right bound
    simp only [remember_perform]
    refine cached.perform (cached.cacheDistinct.recorded recorded) fun _ truthful => ?_
    rw [if_pos accepted]
    exact truthful.recorded recorded rfl bound

theorem Cached.dynamic (cached : Cached proxy) {act : Framebuffers → Framebuffers}
    (leaves : let framebuffers := proxy.egl.contexts proxy.egl.current
      proxy.egl.current ≠ 0 →
        (act framebuffers).draw = framebuffers.draw ∧ (act framebuffers).read = framebuffers.read ∧
          ∀ place image, let entry := proxy.cache.entries place
            entry.fbo ≠ 0 → framebuffers.Has entry.fbo entry.attachment image →
              (act framebuffers).Has entry.fbo entry.attachment image) :
    Cached { proxy with egl := proxy.egl.performGl act } := by
  have performed := cached.performed true act fun live truthful => by
    obtain ⟨draw, read, has⟩ := leaves live
    obtain ⟨sameDraw, sameRead, attached⟩ := truthful
    exact ⟨sameDraw.trans draw.symm, sameRead.trans read.symm, fun place used =>
      has place _ used (attached place used)⟩
  exact performed

theorem Cached.serve (cached : Cached proxy) {call : EglCommand Framebuffers} {group : Nat}
    (create : ∀ real, call = .eglCreateContext real → proxy.egl.freeContext ≠ some proxy.cacheId)
    (dynamic : ∀ act, call = .gl act → Cached { proxy with egl := proxy.egl.performGl act })
    (handled : proxy.hEgl call group = some next) : Cached next := by
  cases call with
  | eglCreateContext real => exact cached.create (create real rfl) handled
  | eglDestroyContext context ok =>
      obtain ⟨⟨egl, result⟩, served, rfl⟩ := Option.map_eq_some_iff.mp handled
      obtain ⟨egl, destroyed, shape⟩ := Option.map_eq_some_iff.mp served
      cases shape
      unfold EglProxy.hEglDestroyContext at destroyed
      split at destroyed
      · cases destroyed
      · split at destroyed
        · cases destroyed
          refine cached.leave rfl rfl rfl fun id => ?_
          by_cases here : id = contextId context
          · rw [here]
            exact .inr (Function.update_self ..)
          · exact .inl (Function.update_of_ne here ..)
        · cases destroyed
          exact cached
  | eglMakeCurrent display draw read context ok =>
      cases handled
      cases ok with
      | false => exact cached
      | true =>
          obtain ⟨table, current, index, -⟩ :=
            Egl.hEglMakeCurrent_true proxy.egl ⟨display, draw, read, context⟩
          refine cached.switch ?_ table ?_
          · simp only [EglProxy.hEglMakeCurrent, if_true]
            split <;> rfl
          · refine current.trans ?_
            rw [index]
            exact congrFun table.symm _
  | eglReleaseThread ok =>
      cases handled
      cases ok with
      | false => exact cached
      | true => exact cached.switch rfl rfl cached.zero.symm
  | eglDestroySurface surface ok =>
      cases handled
      cases ok with
      | false => exact cached
      | true => exact cached.leave rfl rfl rfl fun _ => .inl rfl
  | otherTables displays surfaces =>
      cases handled
      exact cached.leave rfl rfl rfl fun _ => .inl rfl
  | gl act =>
      cases handled
      exact dynamic act rfl

theorem Cached.step (cached : Cached proxy) (keeps : KeepsCache proxy input)
    (stepped : fboMachine.step proxy input = some next) : Cached next := by
  have bound := cached.bindTarget input
  unfold KeepsCache at keeps
  have handled : (proxy.bindTarget input).handle input.command input.accepts = some next := stepped
  generalize proxy.bindTarget input = proxy at bound keeps handled
  generalize input.command = command at keeps handled
  cases command with
  | egl call group =>
      refine bound.serve (fun real same => ?_) (fun act same => ?_) handled
      · subst same
        exact keeps
      · subst same
        exact bound.dynamic keeps
  | glBindFramebuffer target framebuffer =>
      cases handled
      refine bound.perform bound.cacheDistinct fun _ truthful => ?_
      cases accepted : input.accepts with
      | true => exact truthful.bind
      | false =>
          rw [keeps.resolve_left (by simp [accepted])]
          exact truthful
  | glFramebufferTexture2D target attachment textarget texture level =>
      cases handled
      exact bound.framebufferTexture2D target attachment textarget texture level keeps
  | glFramebufferRenderbuffer target attachment renderbuffer =>
      cases handled
      exact bound.attachUncached ..
  | glFramebufferTextureLayer target attachment texture level layer =>
      cases handled
      exact bound.attachUncached ..
  | glFramebufferTexture target attachment texture level =>
      cases handled
      exact bound.attachUncached ..
  | glDeleteFramebuffers names =>
      cases handled
      unfold FboProxy.hGlDeleteFramebuffers
      rw [remember_perform]
      exact bound.perform (bound.cacheDistinct.fewer (fewer_forgetFbos _ _)) fun _ truthful =>
        truthful.forgetFbos names
  | glDeleteTextures names =>
      cases handled
      exact bound.deleteTextures names
  | glDeleteRenderbuffers names =>
      cases handled
      exact bound.performed true _ fun _ truthful => truthful.deleteRenderbuffers names

/-! ## Soundness -/

/-- To repeat what the context that is current has changes nothing. -/
theorem perform_idle {accepts : Bool} {act : Framebuffers → Framebuffers}
    (idle : proxy.egl.current ≠ 0 → act (proxy.egl.contexts proxy.egl.current) =
      proxy.egl.contexts proxy.egl.current) : proxy.perform accepts act = proxy := by
  unfold FboProxy.perform EglProxy.performGl
  split
  · split
    · rfl
    · rename_i current
      rw [idle current, Function.update_eq_self]
  · rfl

theorem Cached.attachSound (cached : Cached proxy) (input : FboInput) : AttachSound proxy input := by
  intro target attachment textarget texture level _ bound image hit
  have known : Cached bound := cached.bindTarget input
  have place : ∃ place, bound.cache.entries place =
        ⟨bound.cache.bound target, attachment, textarget, texture, level⟩ ∧
      bound.cache.bound target ≠ 0 := by
    rcases attach_cases known.cacheDistinct target attachment textarget texture level with
      ⟨-, used, place, here⟩ | ⟨same, -⟩ | ⟨miss, -⟩
    · exact ⟨place, here, used⟩
    · rw [same] at hit
      cases hit
    · rw [miss] at hit
      cases hit
  obtain ⟨place, here, used⟩ := place
  have has : bound.egl.current ≠ 0 →
      (bound.egl.contexts bound.egl.current).Has
        ((bound.egl.contexts bound.egl.current).bound target) attachment image := by
    intro live
    have truthful := known.truthful bound.cacheId
    rw [holder_current] at truthful
    have truthful : Truthful bound.cache bound.objects (bound.egl.contexts bound.egl.current) :=
      truthful live
    have attached := truthful.attached place
    rw [here, truthful.bound] at attached
    exact attached (truthful.bound target ▸ used)
  exact ⟨has, fun accepts => perform_idle fun live => attach_again (has live)⟩

/-- In every run whose steps meet the conditions. -/
theorem attach_sound {inputs : List FboInput} (keeps : fboMachine.Along KeepsCache .zero inputs) :
    fboMachine.Along AttachSound .zero inputs :=
  Machine.Along.of_invariant Cached.step (fun cached _ => cached.attachSound _) .zero_start keeps

/-- A texture is attached twice. -/
theorem attach_sound_twice :
    fboMachine.Along AttachSound .zero
      [⟨0, true, .egl (.eglCreateContext 101) 1, true⟩,
        ⟨0, true, .egl (.eglMakeCurrent 1 1 1 1 true) 0, true⟩,
        ⟨1, true, .glBindFramebuffer glFramebuffer 5, true⟩,
        ⟨1, true, .glFramebufferTexture2D glFramebuffer glColorAttachment0 glTexture2d 7 0, true⟩,
        ⟨1, true, .glFramebufferTexture2D glFramebuffer glColorAttachment0 glTexture2d 7 0,
          true⟩] := by
  have apart : FboProxy.zero.egl.freeContext ≠ some FboProxy.zero.cacheId := by decide
  refine attach_sound ⟨apart, fun _ taken => ?_⟩
  cases taken
  refine ⟨trivial, fun _ taken => ?_⟩
  cases taken
  refine ⟨.inl rfl, fun _ taken => ?_⟩
  cases taken
  refine ⟨.inl rfl, fun _ taken => ?_⟩
  cases taken
  exact ⟨.inl rfl, fun _ _ => trivial⟩

/-- The driver refuses a texture, which is recorded all the same. -/
theorem refused_attachment_kept :
    ¬ fboMachine.Along AttachSound .zero
      [⟨0, true, .egl (.eglCreateContext 101) 1, true⟩,
        ⟨0, true, .egl (.eglMakeCurrent 1 1 1 1 true) 0, true⟩,
        ⟨1, true, .glBindFramebuffer glFramebuffer 5, true⟩,
        ⟨1, true, .glFramebufferTexture2D glFramebuffer glColorAttachment0 glTexture2d 7 0, false⟩,
        ⟨1, true, .glFramebufferTexture2D glFramebuffer glColorAttachment0 glTexture2d 7 0,
          true⟩] := by
  rintro ⟨-, along⟩
  obtain ⟨-, along⟩ := along _ rfl
  obtain ⟨-, along⟩ := along _ rfl
  obtain ⟨-, along⟩ := along _ rfl
  have sound := (along _ rfl).1 _ _ _ _ _ rfl (by decide)
  have has := sound.1 (by decide) glColorAttachment0 (by decide)
  revert has
  decide

end GlesBridge.Framebuffer
