import GlesBridge.Proxy.Framebuffer

namespace GlesBridge.Framebuffer

open GlesBridge.Gl GlesBridge.Proxy

/-! What the cache has about a context, and what is really attached there. -/

/-- What an entry says is attached. -/
def entryImage (objects : UInt32 → Nat) (entry : FboAttachEntry) : Image :=
  .ofTexture objects entry.texture (.texture2D entry.textarget · entry.level)

/-- The bindings are those of the context, and every entry in use is right. -/
structure Truthful (cache : FboCache) (objects : UInt32 → Nat) (framebuffers : Framebuffers) :
    Prop where
  draw : cache.draw = framebuffers.draw
  read : cache.read = framebuffers.read
  attached : ∀ place, (cache.entries place).fbo ≠ 0 →
    framebuffers.Has (cache.entries place).fbo (cache.entries place).attachment
      (entryImage objects (cache.entries place))

/-- An attachment of a framebuffer has one entry at most. -/
def Distinct (cache : FboCache) : Prop :=
  ∀ first second, (cache.entries first).fbo ≠ 0 →
    (cache.entries first).fbo = (cache.entries second).fbo →
    (cache.entries first).attachment = (cache.entries second).attachment → first = second

variable {cache after : FboCache} {framebuffers : Framebuffers} {objects : UInt32 → Nat}
  {target attachment framebuffer first second : UInt32} {image other : Image}
  {place : Fin fboCacheEntries}

theorem Truthful.zero : Truthful .zero objects .initial where
  draw := rfl
  read := rfl
  attached _ live := absurd rfl live

theorem Distinct.zero : Distinct .zero := fun _ _ live => absurd rfl live

theorem Truthful.bound (truthful : Truthful cache objects framebuffers) (target : UInt32) :
    cache.bound target = framebuffers.bound target := by
  unfold FboCache.bound Framebuffers.bound
  rw [truthful.draw, truthful.read]

/-! ## Attachments that stay -/

/-- A point of an attachment is the attachment itself, or both are of depth or stencil. -/
theorem point_cases {point : UInt32} (member : point ∈ attachmentPoints first) :
    point = first ∨ isDepthOrStencil first = true ∧ isDepthOrStencil point = true := by
  unfold attachmentPoints at member
  split at member
  · rename_i both
    subst both
    refine .inr ⟨rfl, ?_⟩
    rcases List.mem_pair.mp member with rfl | rfl <;> rfl
  · exact .inl (List.mem_singleton.mp member)

/-- Attachments that do not alias have no point in common. -/
theorem points_disjoint (apart : fboAttachmentsAlias first second = false) {point : UInt32}
    (member : point ∈ attachmentPoints first) : point ∉ attachmentPoints second := by
  intro also
  refine Bool.false_ne_true (apart.symm.trans ?_)
  unfold fboAttachmentsAlias
  rcases point_cases member with rfl | ⟨depth, point⟩
  · rcases point_cases also with rfl | ⟨depth, point⟩
    · simp
    · simp [depth, point]
  · rcases point_cases also with rfl | ⟨other, -⟩
    · simp [depth, point]
    · simp [depth, other]

@[simp] theorem attach_draw :
    (framebuffers.attach target attachment image).draw = framebuffers.draw := by
  simp only [Framebuffers.attach]
  split <;> rfl

@[simp] theorem attach_read :
    (framebuffers.attach target attachment image).read = framebuffers.read := by
  simp only [Framebuffers.attach]
  split <;> rfl

theorem has_attach (has : framebuffers.Has framebuffer first other)
    (apart : framebuffer = framebuffers.bound target → fboAttachmentsAlias first attachment = false) :
    (framebuffers.attach target attachment image).Has framebuffer first other := by
  intro point member
  simp only [Framebuffers.attach]
  split
  · exact has point member
  · by_cases here : framebuffer = framebuffers.bound target
    · subst here
      simp only [Function.update_self, if_neg (points_disjoint (apart rfl) member)]
      exact has point member
    · simp only [Function.update_of_ne here]
      exact has point member

/-- What is attached is there. -/
theorem has_attached (bound : framebuffers.bound target ≠ 0) :
    (framebuffers.attach target attachment image).Has (framebuffers.bound target) attachment image := by
  intro point member
  simp only [Framebuffers.attach, if_neg bound, Function.update_self, if_pos member]

/-- To attach an image again changes nothing. -/
theorem attach_again (has : framebuffers.Has (framebuffers.bound target) attachment image) :
    framebuffers.attach target attachment image = framebuffers := by
  have same : (fun point => if point ∈ attachmentPoints attachment then image
      else framebuffers.attachments (framebuffers.bound target) point) =
      framebuffers.attachments (framebuffers.bound target) := by
    funext point
    split
    · rename_i member
      exact (has point member).symm
    · rfl
  simp only [Framebuffers.attach, same, Function.update_eq_self, ite_self]

/-! ## Entries that are cleared -/

theorem entries_clear {gone : FboAttachEntry → Bool}
    (live : ((cache.clear gone).entries place).fbo ≠ 0) :
    (cache.clear gone).entries place = cache.entries place ∧ gone (cache.entries place) = false := by
  unfold FboCache.clear at live ⊢
  simp only at live ⊢
  split at live
  · exact absurd rfl live
  · rename_i kept
    exact ⟨if_neg kept, by simpa using kept⟩

/-- Every entry that is left in use is as it was. -/
def Fewer (cache after : FboCache) : Prop :=
  ∀ place, (after.entries place).fbo ≠ 0 → after.entries place = cache.entries place

theorem Distinct.fewer (distinct : Distinct cache) (fewer : Fewer cache after) : Distinct after := by
  intro first second live sameFbo sameAttachment
  have before := fewer first live
  have also := fewer second (sameFbo ▸ live)
  rw [before] at live sameFbo sameAttachment
  rw [also] at sameFbo sameAttachment
  exact distinct first second live sameFbo sameAttachment

theorem fewer_clear (cache : FboCache) (gone : FboAttachEntry → Bool) :
    Fewer cache (cache.clear gone) := fun _ live => (entries_clear live).1

theorem fewer_forgetTextures (cache : FboCache) (names : List UInt32) :
    Fewer cache (cache.forgetTextures names) := fewer_clear _ _

theorem fewer_forgetFbos (cache : FboCache) (names : List UInt32) :
    Fewer cache (cache.forgetFbos names) := by
  intro place live
  simp only [FboCache.forgetFbos] at live ⊢
  exact (entries_clear live).1

theorem Truthful.invalidate (truthful : Truthful cache objects framebuffers) (accepts : Bool) :
    Truthful (cache.invalidateAttachment target attachment) objects
      (if accepts then framebuffers.attach target attachment image else framebuffers) where
  draw := by
    refine truthful.draw.trans ?_
    cases accepts <;> simp
  read := by
    refine truthful.read.trans ?_
    cases accepts <;> simp
  attached place live := by
    obtain ⟨same, kept⟩ := entries_clear live
    unfold FboCache.invalidateAttachment at live ⊢
    rw [same] at live ⊢
    have has := truthful.attached place live
    split
    · refine has_attach has fun here => ?_
      rw [← truthful.bound] at here
      simpa [here] using kept
    · exact has

theorem Truthful.bind (truthful : Truthful cache objects framebuffers) :
    Truthful (cache.bind target framebuffer) objects
      (framebuffers.glBindFramebuffer target framebuffer) where
  draw := by
    simp only [FboCache.bind, Framebuffers.glBindFramebuffer, truthful.draw]
  read := by
    simp only [FboCache.bind, Framebuffers.glBindFramebuffer, truthful.read]
  attached := truthful.attached

theorem Truthful.forgetFbos (truthful : Truthful cache objects framebuffers) (names : List UInt32) :
    Truthful (cache.forgetFbos names) objects (framebuffers.glDeleteFramebuffers names) where
  draw := by
    simp only [FboCache.forgetFbos, Framebuffers.glDeleteFramebuffers, truthful.draw]
  read := by
    simp only [FboCache.forgetFbos, Framebuffers.glDeleteFramebuffers, truthful.read]
  attached place live := by
    simp only [FboCache.forgetFbos] at live ⊢
    obtain ⟨same, kept⟩ := entries_clear live
    rw [same] at live ⊢
    intro point member
    have other : names.contains (cache.entries place).fbo = false := by simpa [live] using kept
    simp only [Framebuffers.glDeleteFramebuffers, other]
    exact truthful.attached place live point member

/-- The names of the entries that are left stand for the textures that they stood for. -/
theorem entryImage_of_kept {entry : FboAttachEntry} {names : List UInt32}
    (kept : (entry.texture != 0 && names.contains entry.texture) = false)
    {renewed : UInt32 → Nat} (same : ∀ name, names.contains name = false → renewed name = objects name) :
    entryImage renewed entry = entryImage objects entry ∧
      Image.isOfTexture objects names (entryImage objects entry) = false := by
  unfold entryImage Image.ofTexture
  by_cases none : entry.texture = 0
  · simp [none, Image.isOfTexture]
  · have apart : names.contains entry.texture = false := by simpa [none] using kept
    rw [if_neg none, if_neg none, same _ apart]
    refine ⟨rfl, ?_⟩
    simp only [Image.isOfTexture, apart, Bool.false_and]

theorem Truthful.forgetTextures (truthful : Truthful cache objects framebuffers)
    (names : List UInt32) {renewed : UInt32 → Nat}
    (same : ∀ name, names.contains name = false → renewed name = objects name) :
    Truthful (cache.forgetTextures names) renewed framebuffers ∧
      Truthful (cache.forgetTextures names) renewed
        (framebuffers.detach (Image.isOfTexture objects names)) := by
  have stays (place) (live : ((cache.forgetTextures names).entries place).fbo ≠ 0) :
      framebuffers.Has ((cache.forgetTextures names).entries place).fbo
          ((cache.forgetTextures names).entries place).attachment
          (entryImage renewed ((cache.forgetTextures names).entries place)) ∧
        Image.isOfTexture objects names
          (entryImage renewed ((cache.forgetTextures names).entries place)) = false := by
    obtain ⟨entry, kept⟩ := entries_clear live
    obtain ⟨image, left⟩ := entryImage_of_kept kept same
    unfold FboCache.forgetTextures at live ⊢
    rw [entry] at live ⊢
    rw [image]
    exact ⟨truthful.attached place live, left⟩
  refine ⟨⟨truthful.draw, truthful.read, fun place live => (stays place live).1⟩,
    ⟨truthful.draw, truthful.read, fun place live point member => ?_⟩⟩
  obtain ⟨has, left⟩ := stays place live
  simp only [Framebuffers.detach, has point member, left]
  simp

theorem Truthful.deleteRenderbuffers (truthful : Truthful cache objects framebuffers)
    (names : List UInt32) :
    Truthful cache objects (framebuffers.detach (Image.isOfRenderbuffer names)) where
  draw := truthful.draw
  read := truthful.read
  attached place live point member := by
    have texture : Image.isOfRenderbuffer names (entryImage objects (cache.entries place)) = false := by
      unfold entryImage Image.ofTexture
      split <;> rfl
    simp only [Framebuffers.detach, truthful.attached place live point member, texture]
    simp

/-! ## Entries that are recorded -/

/-- The attachment is recorded, and the entries that it makes wrong are gone. -/
structure Recorded (cache after : FboCache) (entry : FboAttachEntry) : Prop where
  draw : after.draw = cache.draw
  read : after.read = cache.read
  entries : ∃ place, after.entries place = entry ∧
    ∀ elsewhere, elsewhere ≠ place → (after.entries elsewhere).fbo ≠ 0 →
      after.entries elsewhere = cache.entries elsewhere ∧
        ((cache.entries elsewhere).fbo = entry.fbo →
          fboAttachmentsAlias (cache.entries elsewhere).attachment entry.attachment = false)

theorem find_some {good : FboAttachEntry → Bool} (found : cache.find good = some place) :
    good (cache.entries place) = true := by
  have answer := List.find?_some found
  exact answer

theorem find_none {good : FboAttachEntry → Bool} (missing : cache.find good = none) (place) :
    good (cache.entries place) = false := by
  have all := List.find?_eq_none.mp missing place (List.mem_finRange place)
  simpa using all

theorem Distinct.recorded {entry : FboAttachEntry} (distinct : Distinct cache)
    (recorded : Recorded cache after entry) : Distinct after := by
  obtain ⟨place, here, others⟩ := recorded.entries
  -- an entry beside the new one is none for the same attachment
  have apart (elsewhere) (away : elsewhere ≠ place) (live : (after.entries elsewhere).fbo ≠ 0)
      (fbo : (after.entries elsewhere).fbo = entry.fbo) :
      (after.entries elsewhere).attachment ≠ entry.attachment := by
    obtain ⟨same, unlike⟩ := others elsewhere away live
    rw [same] at fbo ⊢
    intro attachment
    have clash := unlike fbo
    simp [fboAttachmentsAlias, attachment] at clash
  intro first second live sameFbo sameAttachment
  by_cases atFirst : first = place
  · by_contra differ
    subst atFirst
    rw [here] at live sameFbo sameAttachment
    exact apart second (Ne.symm differ) (sameFbo ▸ live) sameFbo.symm sameAttachment.symm
  · by_cases atSecond : second = place
    · subst atSecond
      rw [here] at sameFbo sameAttachment
      exact (apart first atFirst live sameFbo sameAttachment).elim
    · have before := (others first atFirst live).1
      have also := (others second atSecond (sameFbo ▸ live)).1
      rw [before] at live sameFbo sameAttachment
      rw [also] at sameFbo sameAttachment
      exact distinct first second live sameFbo sameAttachment

theorem Truthful.recorded {entry : FboAttachEntry} (truthful : Truthful cache objects framebuffers)
    (recorded : Recorded cache after entry) (bound : cache.bound target = entry.fbo)
    (used : entry.fbo ≠ 0) :
    Truthful after objects
      (framebuffers.attach target entry.attachment (entryImage objects entry)) := by
  rw [truthful.bound] at bound
  have real : framebuffers.bound target ≠ 0 := bound ▸ used
  refine ⟨?_, ?_, fun elsewhere live => ?_⟩
  · rw [attach_draw, recorded.draw, truthful.draw]
  · rw [attach_read, recorded.read, truthful.read]
  · obtain ⟨place, here, others⟩ := recorded.entries
    by_cases new : elsewhere = place
    · subst new
      rw [here, ← bound]
      exact has_attached real
    · obtain ⟨same, unlike⟩ := others elsewhere new live
      rw [same] at live ⊢
      exact has_attach (truthful.attached elsewhere live) fun fbo => unlike (fbo.trans bound)

/-- The entry takes a place of its own, and the attachment has no other. -/
theorem Recorded.put {entry : FboAttachEntry}
    (only : ∀ elsewhere, elsewhere ≠ place → (cache.entries elsewhere).fbo = entry.fbo →
      (cache.entries elsewhere).attachment ≠ entry.attachment) :
    Recorded cache
      ((cache.clear fun other => other.fbo == entry.fbo && other.attachment != entry.attachment &&
        fboAttachmentsAlias other.attachment entry.attachment).put place entry) entry where
  draw := rfl
  read := rfl
  entries := by
    refine ⟨place, Function.update_self .., fun elsewhere away live => ?_⟩
    simp only [FboCache.put, Function.update_of_ne away] at live ⊢
    obtain ⟨same, kept⟩ := entries_clear live
    exact ⟨same, fun fbo => by simpa [fbo, only elsewhere away fbo] using kept⟩

/-- What the function answers and what it does, where an attachment has one entry. -/
theorem attach_cases (distinct : Distinct cache) (target attachment textarget texture : UInt32)
    (level : Int32) :
    let entry : FboAttachEntry := ⟨cache.bound target, attachment, textarget, texture, level⟩
    let answer := cache.attach target attachment textarget texture level
    answer.1 = true ∧ cache.bound target ≠ 0 ∧ (∃ place, cache.entries place = entry) ∨
      answer = (false, cache) ∧ cache.bound target = 0 ∨
      answer.1 = false ∧ cache.bound target ≠ 0 ∧ Recorded cache answer.2 entry := by
  intro entry answer
  by_cases none : cache.bound target = 0
  · exact .inr (.inl ⟨by simp [answer, FboCache.attach, none], none⟩)
  have shape : answer = cache.attach target attachment textarget texture level := rfl
  simp only [FboCache.attach, if_neg none] at shape
  split at shape
  · rename_i place found
    have key := find_some found
    simp only [Bool.and_eq_true, beq_iff_eq] at key
    split at shape
    · rename_i same
      obtain ⟨rfl, rfl, rfl⟩ := same
      refine .inl ⟨by rw [shape], none, place, ?_⟩
      simp only [entry, ← key.1, ← key.2]
    · refine .inr (.inr ⟨by rw [shape], none, ?_⟩)
      rw [shape]
      refine Recorded.put fun elsewhere away fbo attachment => away ?_
      exact distinct elsewhere place (fbo ▸ none) (fbo.trans key.1.symm)
        (attachment.trans key.2.symm)
  · rename_i missing
    split at shape
    · refine .inr (.inr ⟨by rw [shape], none, ?_⟩)
      rw [shape]
      refine Recorded.put fun elsewhere _ fbo attachment => ?_
      have unlike := find_none missing elsewhere
      simp [fbo, attachment] at unlike
    · refine .inr (.inr ⟨by rw [shape], none, ?_⟩)
      rw [shape]
      refine ⟨rfl, rfl, 0, by simp [FboCache.put, entry], fun elsewhere away live => ?_⟩
      simp only [FboCache.put, Function.update_of_ne away] at live
      exact absurd rfl live

end GlesBridge.Framebuffer
