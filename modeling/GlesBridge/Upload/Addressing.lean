import GlesBridge.Gl.PixelStore

namespace GlesBridge.Upload

open GlesBridge.Data GlesBridge.Gl GlesBridge.Stub

/-! The sizes that the stub computes are no smaller than what GL reads. -/

def stubStride (store : PixelStore) (width : Int32) (pixel : Nat) : Nat :=
  roundUp (PixelStore.orElse store.rowLength width * pixel) store.alignment.toNatClampNeg

/-- What the formulas of the stub come to without a bound on numbers, where a pixel
has that many bytes. -/
def stubBlock (store : PixelStore) (width height : Int32) (imageRows images skipImages : Nat)
    (pixel : Nat) : Strided where
  start :=
    skipImages * (imageRows * stubStride store width pixel) +
      store.skipRows.toNatClampNeg * stubStride store width pixel +
        store.skipPixels.toNatClampNeg * pixel
  rowBytes := width.toNatClampNeg * pixel
  rowStride := stubStride store width pixel
  imageStride := imageRows * stubStride store width pixel
  rows := height.toNatClampNeg
  images

variable {store : PixelStore} {width height depth : Int32} {format type : UInt32}
  {imageRows images skipImages first second : Nat} {pixel : PixelFormat} {bytes : UInt64}

/-! ## The formula and GL -/

theorem alignment_cases (store : PixelStore) :
    store.alignment.toNatClampNeg = 1 ∨ store.alignment.toNatClampNeg = 2 ∨
      store.alignment.toNatClampNeg = 4 ∨ store.alignment.toNatClampNeg = 8 := by
  have legal := store.alignmentLegal
  simp only [List.mem_cons, List.not_mem_nil, or_false] at legal
  rcases legal with same | same | same | same <;> rw [same] <;> decide

theorem alignment_pos (store : PixelStore) : 0 < store.alignment.toNatClampNeg := by
  have cases := alignment_cases store
  omega

theorem size_cases : ∀ pixel ∈ pixelFormats,
    pixel.size = 1 ∨ pixel.size = 2 ∨ pixel.size = 4 ∨ pixel.size = 8 := by decide

/-- GL leaves a row of large elements as it is, which rounding up does as well. -/
theorem rowStride_eq (known : pixel ∈ pixelFormats) :
    store.rowStride width pixel = stubStride store width pixel.bytes := by
  unfold PixelStore.rowStride stubStride
  simp only
  split
  · rename_i large
    have whole : store.alignment.toNatClampNeg ∣ pixel.size := by
      rcases alignment_cases store with alignment | alignment | alignment | alignment <;>
        rcases size_cases pixel known with size | size | size | size <;>
        rw [alignment, size] at large ⊢ <;> revert large <;> decide
    refine (roundUp_of_dvd (alignment_pos store) ?_).symm
    exact Dvd.dvd.mul_left (Dvd.dvd.mul_left whole _) _
  · rfl

theorem block2D_eq (known : pixel ∈ pixelFormats) :
    store.block2D width height pixel = stubBlock store width height 0 1 0 pixel.bytes := by
  simp [PixelStore.block2D, stubBlock, rowStride_eq known]

theorem block3D_eq (known : pixel ∈ pixelFormats) :
    store.block3D width height depth pixel =
      stubBlock store width height (PixelStore.orElse store.imageHeight height)
        depth.toNatClampNeg store.skipImages.toNatClampNeg pixel.bytes := by
  simp [PixelStore.block3D, stubBlock, rowStride_eq known]

theorem stubStride_mono (ordered : first ≤ second) :
    stubStride store width first ≤ stubStride store width second :=
  roundUp_mono (Nat.mul_le_mul_left _ ordered)

theorem stubStride_mul_le {factor : Nat} :
    stubStride store width (factor * first) ≤ factor * stubStride store width first := by
  unfold stubStride
  rw [Nat.mul_left_comm]
  exact roundUp_mul_le (alignment_pos store)

theorem stubBlock_stop (store : PixelStore) (width height : Int32)
    (imageRows images skipImages pixel : Nat) :
    (stubBlock store width height imageRows images skipImages pixel).stop =
      skipImages * (imageRows * stubStride store width pixel) +
        store.skipRows.toNatClampNeg * stubStride store width pixel +
          store.skipPixels.toNatClampNeg * pixel +
        (images - 1) * (imageRows * stubStride store width pixel) +
        (height.toNatClampNeg - 1) * stubStride store width pixel +
        width.toNatClampNeg * pixel := rfl

/-- More bytes in a pixel, more bytes in a block. -/
theorem stop_mono (ordered : first ≤ second) :
    (stubBlock store width height imageRows images skipImages first).stop ≤
      (stubBlock store width height imageRows images skipImages second).stop := by
  have stride : stubStride store width first ≤ stubStride store width second :=
    stubStride_mono ordered
  rw [stubBlock_stop, stubBlock_stop]
  gcongr

theorem stop_mul_le {factor : Nat} :
    (stubBlock store width height imageRows images skipImages (factor * first)).stop ≤
      factor * (stubBlock store width height imageRows images skipImages first).stop := by
  have stride : stubStride store width (factor * first) ≤ factor * stubStride store width first :=
    stubStride_mul_le
  rw [stubBlock_stop, stubBlock_stop]
  generalize stubStride store width (factor * first) = large at stride ⊢
  generalize stubStride store width first = small at stride ⊢
  calc _ ≤ skipImages * (imageRows * (factor * small)) +
          store.skipRows.toNatClampNeg * (factor * small) +
            store.skipPixels.toNatClampNeg * (factor * first) +
          (images - 1) * (imageRows * (factor * small)) +
          (height.toNatClampNeg - 1) * (factor * small) +
          width.toNatClampNeg * (factor * first) := by gcongr
    _ = _ := by ring

/-! ## The formula in machine words -/

theorem toNatClampNeg_lt (value : Int32) : value.toNatClampNeg < 2 ^ 31 := by
  have bound := Int32.toInt_lt value
  rw [← Int32.toNat_toInt]
  omega

theorem glAlignUpSize_toNat {value alignment : UInt64} (positive : 0 < alignment.toNat)
    (fits : value.toNat + alignment.toNat < 2 ^ 64) :
    (glAlignUpSize value alignment).toNat = roundUp value.toNat alignment.toNat := by
  unfold glAlignUpSize
  split
  · rename_i small
    have one : alignment.toNat = 1 := by
      have below : alignment.toNat ≤ 1 := UInt64.le_iff_toNat_le.mp small
      omega
    rw [one]
    exact (roundUp_of_dvd Nat.one_pos (Nat.one_dvd _)).symm
  · have sum : (value + alignment).toNat = value.toNat + alignment.toNat := by
      rw [UInt64.toNat_add, Nat.mod_eq_of_lt fits]
    have least : (value + alignment - 1).toNat = value.toNat + alignment.toNat - 1 := by
      rw [UInt64.toNat_sub_of_le _ _ (UInt64.le_iff_toNat_le.mpr (by
        rw [sum]
        change 1 ≤ _
        omega)), sum]
      rfl
    have bounded := Nat.div_mul_le_self (value.toNat + alignment.toNat - 1) alignment.toNat
    rw [UInt64.toNat_mul, UInt64.toNat_div, least, Nat.mod_eq_of_lt (by omega)]
    rfl

theorem orElse_lt (parameter size : Int32) : PixelStore.orElse parameter size < 2 ^ 31 := by
  unfold PixelStore.orElse
  split <;> exact toNatClampNeg_lt _

/-- A parameter that is set counts, in the stub as in GL. -/
theorem orElse_toNat {parameter size : Int32} (legal : 0 ≤ parameter) (positive : 0 ≤ size) :
    (if 0 < parameter then sizeT parameter else sizeT size).toNat =
      PixelStore.orElse parameter size := by
  unfold PixelStore.orElse
  by_cases none : parameter = 0
  · rw [if_pos none, none]
    exact sizeT_toNat positive
  · rw [if_neg none, if_pos (Int32.lt_of_le_of_ne legal (Ne.symm none))]
    exact sizeT_toNat legal

theorem alignment_toNat (store : PixelStore) :
    store.toUnpackState.glUnpackAlignment.toNat = store.alignment.toNatClampNeg := by
  have positive : 0 < store.alignment := by
    have legal := store.alignmentLegal
    simp only [List.mem_cons, List.not_mem_nil, or_false] at legal
    rcases legal with same | same | same | same <;> rw [same] <;> decide
  unfold UnpackState.glUnpackAlignment
  rw [if_pos positive]
  exact sizeT_toNat (Int32.le_of_lt positive)

theorem stubStride_toNat (store : PixelStore) (positive : 0 ≤ width) (small : bytes.toNat ≤ 16) :
    (store.toUnpackState.rowStride width bytes).toNat = stubStride store width bytes.toNat := by
  have pixels := orElse_toNat store.rowLengthLegal positive
  have bounded := orElse_lt store.rowLength width
  have alignment := alignment_toNat store
  have cases := alignment_cases store
  have product : PixelStore.orElse store.rowLength width * bytes.toNat ≤ 2 ^ 31 * 16 :=
    Nat.mul_le_mul bounded.le small
  have row : ((if 0 < store.rowLength then sizeT store.rowLength else sizeT width) * bytes).toNat =
      PixelStore.orElse store.rowLength width * bytes.toNat := by
    rw [UInt64.toNat_mul, pixels, Nat.mod_eq_of_lt (by omega)]
  unfold UnpackState.rowStride stubStride
  simp only
  rw [glAlignUpSize_toNat (by omega) (by omega), row, alignment]

theorem sub_one_toNat {value : Int32} (positive : 0 < value) :
    (sizeT (value - 1)).toNat = value.toNatClampNeg - 1 := by
  have one : (1 : Int32) ≤ value := by
    have above := Int32.lt_iff_toInt_lt.mp positive
    rw [Int32.le_iff_toInt_le]
    exact above
  have small : (0 : Int32) ≤ 1 := by decide
  rw [sizeT_toNat (Int32.sub_nonneg_of_le small one), Int32.toNatClampNeg_sub_of_le small one]
  rfl

theorem packedBytes_le (found : packedBytes type = some bytes) : bytes.toNat ≤ 16 := by
  unfold packedBytes at found
  split at found <;> cases found <;> decide

theorem formatComponents_le (found : formatComponents format = some bytes) : bytes.toNat ≤ 4 := by
  unfold formatComponents at found
  split at found <;> cases found <;> decide

theorem componentBytes_le (found : componentBytes type = some bytes) : bytes.toNat ≤ 4 := by
  unfold componentBytes at found
  split at found <;> cases found <;> decide

theorem bytesPerPixel_le (format type : UInt32) : (glBytesPerPixel format type).toNat ≤ 16 := by
  unfold glBytesPerPixel
  split
  · rename_i packed
    exact packedBytes_le packed
  · split
    · rename_i components bytes count each
      have product := Nat.mul_le_mul (formatComponents_le count) (componentBytes_le each)
      rw [UInt64.toNat_mul, Nat.mod_eq_of_lt (by omega)]
      exact product
    · decide

/-- The words of the stub wrap. -/
theorem size2d_mod (store : PixelStore) (wide : 0 < width) (high : 0 < height) :
    (store.toUnpackState.glUnpackImageSize2d width height format type).toNat =
      (stubBlock store width height 0 1 0 (glBytesPerPixel format type).toNat).stop % 2 ^ 64 := by
  have stride := stubStride_toNat store (Int32.le_of_lt wide) (bytesPerPixel_le format type)
  have present : ¬ (width ≤ 0 ∨ height ≤ 0) := by
    simp [Int32.not_le, wide, high]
  rw [stubBlock_stop]
  unfold UnpackState.glUnpackImageSize2d
  rw [if_neg present]
  simp only [UInt64.toNat_add, UInt64.toNat_mul, stride, sizeT_toNat store.skipRowsLegal,
    sizeT_toNat store.skipPixelsLegal, sizeT_toNat (Int32.le_of_lt wide), sub_one_toNat high,
    Nat.add_mod_mod, Nat.mod_add_mod]
  congr 1
  omega

theorem size2d_toNat (store : PixelStore) (wide : 0 < width) (high : 0 < height)
    (fits : (stubBlock store width height 0 1 0 (glBytesPerPixel format type).toNat).stop < 2 ^ 64) :
    (store.toUnpackState.glUnpackImageSize2d width height format type).toNat =
      (stubBlock store width height 0 1 0 (glBytesPerPixel format type).toNat).stop := by
  rw [size2d_mod store wide high, Nat.mod_eq_of_lt fits]

/-- What the formula for images comes to. -/
def stubBlock3d (store : PixelStore) (width height depth : Int32) (pixel : Nat) : Strided :=
  stubBlock store width height (PixelStore.orElse store.imageHeight height) depth.toNatClampNeg
    store.skipImages.toNatClampNeg pixel

theorem size3d_mod (store : PixelStore) (wide : 0 < width) (high : 0 < height) (deep : 0 < depth) :
    (store.toUnpackState.glUnpackImageSize3d width height depth format type).toNat =
      (stubBlock3d store width height depth (glBytesPerPixel format type).toNat).stop % 2 ^ 64 := by
  have stride := stubStride_toNat store (Int32.le_of_lt wide) (bytesPerPixel_le format type)
  have present : ¬ (width ≤ 0 ∨ height ≤ 0 ∨ depth ≤ 0) := by
    simp [Int32.not_le, wide, high, deep]
  rw [stubBlock3d, stubBlock_stop]
  unfold UnpackState.glUnpackImageSize3d
  rw [if_neg present]
  simp only [UInt64.toNat_add, UInt64.toNat_mul, stride, sizeT_toNat store.skipRowsLegal,
    sizeT_toNat store.skipPixelsLegal, sizeT_toNat store.skipImagesLegal,
    sizeT_toNat (Int32.le_of_lt wide), sub_one_toNat high, sub_one_toNat deep,
    orElse_toNat store.imageHeightLegal (Int32.le_of_lt high),
    Nat.add_mod_mod, Nat.mod_add_mod, Nat.mul_mod_mod]
  rw [Nat.mul_comm (stubStride _ _ _) (PixelStore.orElse _ _)]

theorem size3d_toNat (store : PixelStore) (wide : 0 < width) (high : 0 < height) (deep : 0 < depth)
    (fits : (stubBlock3d store width height depth (glBytesPerPixel format type).toNat).stop < 2 ^ 64) :
    (store.toUnpackState.glUnpackImageSize3d width height depth format type).toNat =
      (stubBlock3d store width height depth (glBytesPerPixel format type).toNat).stop := by
  rw [size3d_mod store wide high deep, Nat.mod_eq_of_lt fits]

/-! ## What is read is counted -/

theorem pixelFormat_some (known : pixelFormat format type = some pixel) :
    pixel ∈ pixelFormats ∧ pixel.format = format ∧ pixel.type = type := by
  have member := List.mem_of_find?_eq_some known
  have same := List.find?_some known
  simp only [Bool.and_eq_true, beq_iff_eq] at same
  exact ⟨member, same⟩

/-- The stub counts the bytes of a pixel, and for `GL_STENCIL_INDEX` more. -/
theorem bytesPerPixel_between : ∀ pixel ∈ pixelFormats,
    pixel.bytes ≤ (glBytesPerPixel pixel.format pixel.type).toNat ∧
      (glBytesPerPixel pixel.format pixel.type).toNat ≤ 4 * pixel.bytes := by decide

theorem stop_between (store : PixelStore) (width height : Int32) (imageRows images skipImages : Nat)
    (known : pixelFormat format type = some pixel) :
    (stubBlock store width height imageRows images skipImages pixel.bytes).stop ≤
        (stubBlock store width height imageRows images skipImages
          (glBytesPerPixel format type).toNat).stop ∧
      (stubBlock store width height imageRows images skipImages
          (glBytesPerPixel format type).toNat).stop ≤
        4 * (stubBlock store width height imageRows images skipImages pixel.bytes).stop := by
  obtain ⟨member, rfl, rfl⟩ := pixelFormat_some known
  obtain ⟨least, most⟩ := bytesPerPixel_between pixel member
  exact ⟨stop_mono least, (stop_mono most).trans stop_mul_le⟩

theorem pos_of_toNatClampNeg {value : Int32} (positive : 0 < value.toNatClampNeg) : 0 < value := by
  rw [← Int32.toNat_toInt] at positive
  rw [Int32.lt_iff_toInt_lt]
  change 0 < value.toInt
  omega

variable {place : Nat}

/-- A block that ends within an address space of 31 bits is counted in full. -/
theorem lt_size2d (known : pixelFormat format type = some pixel)
    (has : (store.block2D width height pixel).Has place)
    (small : (store.block2D width height pixel).stop ≤ 2 ^ 31) :
    place < (store.toUnpackState.glUnpackImageSize2d width height format type).toNat := by
  have below := has.lt_stop
  obtain ⟨_, _, row, someRow, byte, inside, -⟩ := has
  have wide : 0 < width := pos_of_toNatClampNeg (Nat.pos_of_mul_pos_right (Nat.zero_lt_of_lt inside))
  have high : 0 < height := pos_of_toNatClampNeg (Nat.zero_lt_of_lt someRow)
  rw [block2D_eq (pixelFormat_some known).1] at below small
  obtain ⟨least, most⟩ := stop_between store width height 0 1 0 known
  rw [size2d_toNat store wide high (by omega)]
  omega

theorem lt_size3d (known : pixelFormat format type = some pixel)
    (has : (store.block3D width height depth pixel).Has place)
    (small : (store.block3D width height depth pixel).stop ≤ 2 ^ 31) :
    place < (store.toUnpackState.glUnpackImageSize3d width height depth format type).toNat := by
  have below := has.lt_stop
  obtain ⟨_, someImage, row, someRow, byte, inside, -⟩ := has
  have wide : 0 < width := pos_of_toNatClampNeg (Nat.pos_of_mul_pos_right (Nat.zero_lt_of_lt inside))
  have high : 0 < height := pos_of_toNatClampNeg (Nat.zero_lt_of_lt someRow)
  have deep : 0 < depth := pos_of_toNatClampNeg (Nat.zero_lt_of_lt someImage)
  rw [block3D_eq (pixelFormat_some known).1] at below small
  obtain ⟨least, most⟩ := stop_between store width height
    (PixelStore.orElse store.imageHeight height) depth.toNatClampNeg
    store.skipImages.toNatClampNeg known
  rw [size3d_toNat store wide high deep (by rw [stubBlock3d]; omega), stubBlock3d]
  omega

end GlesBridge.Upload
