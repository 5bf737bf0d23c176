import GlesBridge.Upload.Addressing

namespace GlesBridge.Upload

open GlesBridge.Data GlesBridge.Gl GlesBridge.Stub

/-! The sizes that the stub computes are exact, except for one format. -/

def glStencilIndex : UInt32 := 0x1901

variable {store : PixelStore} {width height depth : Int32} {format type : UInt32}
  {pixel : PixelFormat} {block wide : Strided} {size : UInt64}

/-- The size is one more than the last place that GL reads, where 64 bits hold it. -/
def ExactSize (block : Strided) (size : UInt64) : Prop :=
  ∀ last, IsGreatest {place | block.Has place} last → last + 1 < 2 ^ 64 → size.toNat = last + 1

/-- The size formula for images of rows. -/
def Exact2d (store : PixelStore) (width height : Int32) (pixel : PixelFormat) : Prop :=
  let size := store.toUnpackState.glUnpackImageSize2d width height pixel.format pixel.type
  (0 < width ∧ 0 < height → ExactSize (store.block2D width height pixel) size) ∧
    (¬ (0 < width ∧ 0 < height) → size = 0)

/-- The size formula for images of images. -/
def Exact3d (store : PixelStore) (width height depth : Int32) (pixel : PixelFormat) : Prop :=
  let size := store.toUnpackState.glUnpackImageSize3d width height depth pixel.format pixel.type
  (0 < width ∧ 0 < height ∧ 0 < depth →
      ExactSize (store.block3D width height depth pixel) size) ∧
    (¬ (0 < width ∧ 0 < height ∧ 0 < depth) → size = 0)

/-- Nothing tells the two ends apart in 64 bits. -/
def SameEnd (block wide : Strided) : Prop :=
  block.stop < 2 ^ 64 → 2 ^ 64 ∣ wide.stop - block.stop

/-- Pixels of four bytes instead of one make no difference: there are none, or the
sizes wrap. -/
def FourIsOne (store : PixelStore) (width height depth : Int32) : Prop :=
  (0 < width ∧ 0 < height →
      SameEnd (stubBlock store width height 0 1 0 1) (stubBlock store width height 0 1 0 4)) ∧
    (0 < width ∧ 0 < height ∧ 0 < depth →
      SameEnd (stubBlock3d store width height depth 1) (stubBlock3d store width height depth 4))

/-- The stub's bytes of a pixel are those of GL, or four where GL has one. -/
theorem bytesPerPixel_eq : ∀ pixel ∈ pixelFormats,
    if pixel.format = glStencilIndex then
      pixel.bytes = 1 ∧ (glBytesPerPixel pixel.format pixel.type).toNat = 4
    else (glBytesPerPixel pixel.format pixel.type).toNat = pixel.bytes := by decide

theorem exactSize_iff {place : Nat} (has : block.Has place) :
    ExactSize block size ↔ (block.stop < 2 ^ 64 → size.toNat = block.stop) := by
  have positive := has.lt_stop
  unfold ExactSize
  simp only [has.isGreatest_iff]
  constructor
  · intro exact small
    have last : block.stop - 1 + 1 = block.stop := by omega
    have value := exact (block.stop - 1) last (by omega)
    omega
  · intro exact last same small
    rw [same] at small ⊢
    exact exact small

theorem pixels_pos (known : pixel ∈ pixelFormats) : 0 < pixel.bytes := by
  have each : ∀ pixel ∈ pixelFormats, 0 < pixel.bytes := by decide
  exact each pixel known

theorem toNatClampNeg_pos {value : Int32} (positive : 0 < value) : 0 < value.toNatClampNeg := by
  have above := Int32.lt_iff_toInt_lt.mp positive
  change 0 < value.toInt at above
  rw [← Int32.toNat_toInt]
  omega

theorem stubBlock_has {imageRows images skipImages bytes : Nat} (someWidth : 0 < width)
    (someHeight : 0 < height) (someImages : 0 < images) (someBytes : 0 < bytes) :
    ∃ place, (stubBlock store width height imageRows images skipImages bytes).Has place :=
  ⟨_, Strided.has_of_pos someImages (toNatClampNeg_pos someHeight)
    (Nat.mul_pos (toNatClampNeg_pos someWidth) someBytes)⟩

/-- A size that is the end of a wider block, in 64 bits. -/
theorem exactSize_of_mod {place : Nat} (has : block.Has place) (ordered : block.stop ≤ wide.stop)
    (value : size.toNat = wide.stop % 2 ^ 64) : ExactSize block size ↔ SameEnd block wide := by
  rw [exactSize_iff has, value]
  unfold SameEnd
  refine imp_congr_right fun small => ?_
  constructor
  · intro same
    omega
  · intro whole
    omega

theorem sameEnd_self : SameEnd block block := by
  intro small
  rw [Nat.sub_self]
  exact Nat.dvd_zero _

theorem exact2d_iff (known : pixel ∈ pixelFormats) :
    Exact2d store width height pixel ↔
      (0 < width ∧ 0 < height →
        SameEnd (stubBlock store width height 0 1 0 pixel.bytes)
          (stubBlock store width height 0 1 0
            (glBytesPerPixel pixel.format pixel.type).toNat)) := by
  have least := (bytesPerPixel_between pixel known).1
  have nothing : ¬ (0 < width ∧ 0 < height) →
      store.toUnpackState.glUnpackImageSize2d width height pixel.format pixel.type = 0 := by
    intro empty
    rw [not_and_or, Int32.not_lt, Int32.not_lt] at empty
    exact if_pos empty
  unfold Exact2d
  refine (and_iff_left nothing).trans (imp_congr_right ?_)
  rintro ⟨someWidth, someHeight⟩
  rw [block2D_eq known]
  obtain ⟨place, has⟩ := stubBlock_has someWidth someHeight Nat.one_pos (pixels_pos known)
  exact exactSize_of_mod has (stop_mono least) (size2d_mod store someWidth someHeight)

theorem exact3d_iff (known : pixel ∈ pixelFormats) :
    Exact3d store width height depth pixel ↔
      (0 < width ∧ 0 < height ∧ 0 < depth →
        SameEnd (stubBlock3d store width height depth pixel.bytes)
          (stubBlock3d store width height depth
            (glBytesPerPixel pixel.format pixel.type).toNat)) := by
  have least := (bytesPerPixel_between pixel known).1
  have nothing : ¬ (0 < width ∧ 0 < height ∧ 0 < depth) →
      store.toUnpackState.glUnpackImageSize3d width height depth pixel.format pixel.type = 0 := by
    intro empty
    rw [not_and_or, not_and_or, Int32.not_lt, Int32.not_lt, Int32.not_lt] at empty
    exact if_pos empty
  unfold Exact3d
  refine (and_iff_left nothing).trans (imp_congr_right ?_)
  rintro ⟨someWidth, someHeight, someDepth⟩
  rw [block3D_eq known]
  obtain ⟨place, has⟩ :=
    stubBlock_has someWidth someHeight (toNatClampNeg_pos someDepth) (pixels_pos known)
  exact exactSize_of_mod has (stop_mono least) (size3d_mod store someWidth someHeight someDepth)

/-- Both formulas are exact for every format but `GL_STENCIL_INDEX`, which is taken
to have four bytes. -/
theorem sizes_exact_iff (known : pixelFormat format type = some pixel) :
    Exact2d store width height pixel ∧ Exact3d store width height depth pixel ↔
      (format = glStencilIndex → FourIsOne store width height depth) := by
  obtain ⟨member, rfl, rfl⟩ := pixelFormat_some known
  have bytes := bytesPerPixel_eq pixel member
  rw [exact2d_iff member, exact3d_iff member]
  by_cases stencil : pixel.format = glStencilIndex
  · rw [if_pos stencil] at bytes
    rw [bytes.1, bytes.2]
    exact ⟨fun same _ => same, fun same => same stencil⟩
  · rw [if_neg stencil] at bytes
    rw [bytes]
    exact ⟨fun _ other => absurd other stencil, fun _ => ⟨fun _ => sameEnd_self, fun _ => sameEnd_self⟩⟩

/-- A legal state and every format but that one. -/
theorem sizes_exact_rgba :
    Exact2d .initial 3 2 ⟨0x1908, 0x1401, 4, 1⟩ ∧ Exact3d .initial 3 2 5 ⟨0x1908, 0x1401, 4, 1⟩ :=
  have known : pixelFormat 0x1908 0x1401 = some ⟨0x1908, 0x1401, 4, 1⟩ := by decide
  have other : (0x1908 : UInt32) ≠ glStencilIndex := by decide
  (sizes_exact_iff known).mpr fun stencil => absurd stencil other

/-- One pixel of `GL_STENCIL_INDEX` is one byte for GL and four for the stub. -/
theorem stencil_inexact :
    pixelFormat 0x1901 0x1401 = some ⟨0x1901, 0x1401, 1, 1⟩ ∧
      IsGreatest {place | (PixelStore.initial.block2D 1 1 ⟨0x1901, 0x1401, 1, 1⟩).Has place} 0 ∧
      PixelStore.initial.glUnpackImageSize2d 1 1 0x1901 0x1401 = 4 ∧
      ¬ Exact2d .initial 1 1 ⟨0x1901, 0x1401, 1, 1⟩ := by
  have has : (PixelStore.initial.block2D 1 1 ⟨0x1901, 0x1401, 1, 1⟩).Has 0 :=
    Strided.has_of_pos (by decide) (by decide) (by decide)
  have last : IsGreatest {place | (PixelStore.initial.block2D 1 1 ⟨0x1901, 0x1401, 1, 1⟩).Has place}
      0 := has.isGreatest_iff.mpr (by decide)
  have four : PixelStore.initial.glUnpackImageSize2d 1 1 0x1901 0x1401 = 4 := by decide
  refine ⟨by decide, last, four, fun exact => ?_⟩
  have one : (4 : UInt64).toNat = 0 + 1 := four ▸ exact.1 (by decide) 0 last (by decide)
  exact absurd one (by decide)

end GlesBridge.Upload
