import Mathlib.Algebra.Order.Floor.Semiring
import Mathlib.Order.Bounds.Defs
import HailoDsp.Containment
import HailoDsp.Decode

/-!
# The regions of a privacy mask and its bitmask

A bit of the bitmask stands for a cell of four by four pixels. The check of the regions counts the
cells of a side in `float`, which rounds the side to 24 bits first; the size of the bitmask is
computed in `double`, which is exact. The two agree on every side of at most `2 ^ 24` pixels, and on
a longer one where the rounding does not move the number of cells.
-/

namespace HailoDsp

open BinaryRounding SampledPlane

/-- The cells along a side. -/
def maskCells (side : ℕ) : ℕ := (side + 3) / 4

/-- The cells along a side that has been rounded to 24 bits. -/
def roundedMaskCells (side : ℕ) : ℕ := ⌈roundTo 24 side / 4⌉₊

/-- A region that is not empty in either direction. -/
structure DspRoi.Proper (roi : DspRoi) : Prop where
  startX_lt : roi.startX < roi.endX
  startY_lt : roi.startY < roi.endY

/-- A region that ends inside the given number of columns and rows. -/
structure DspRoi.EndsWithin (roi : DspRoi) (columns rows : ℕ) : Prop where
  endX_le : roi.endX.toNat ≤ columns
  endY_le : roi.endY.toNat ≤ rows

/-- The regions of a mask are not empty and end inside the given number of columns and rows. -/
def DspPrivacyMask.Within (mask : DspPrivacyMask) (columns rows : ℕ) : Prop :=
  ∀ i < mask.roisCount.toNat, (mask.roi i).Proper ∧ (mask.roi i).EndsWithin columns rows

/-- The check of the regions agrees with the bitmask that is sent. -/
structure MaskLimitsAgree (image : DspImageProperties) (mask : DspPrivacyMask) : Prop where
  verdict : verifyPrivacyMaskParams (some image) (some mask) = .ok () ↔
    mask.Within (maskCells image.width.toNat) (maskCells image.height.toNat)
  stride : IsLeast {n | 8 ∣ n ∧ maskCells image.width.toNat ≤ 8 * n} (bitmaskStride image).toNat
  cells : verifyPrivacyMaskParams (some image) (some mask) = .ok () →
    ∀ i < mask.roisCount.toNat, ∀ x y, (mask.roi i).Covers x y →
      y * (bitmaskStride image).toNat + x / 8 < (bitmaskStride image * bitmaskHeight image).toNat

/-- The rounding of the sides makes no difference to the regions of a mask: one of them is empty, or
they end inside the cells counted either way, or they end outside counted either way. -/
def RoundingHarmless (image : DspImageProperties) (mask : DspPrivacyMask) : Prop :=
  (∃ i < mask.roisCount.toNat, ¬ (mask.roi i).Proper) ∨
    (∀ i < mask.roisCount.toNat,
      (mask.roi i).EndsWithin (roundedMaskCells image.width.toNat) (roundedMaskCells image.height.toNat) ∧
        (mask.roi i).EndsWithin (maskCells image.width.toNat) (maskCells image.height.toNat)) ∨
    ((∃ i < mask.roisCount.toNat,
      ¬ (mask.roi i).EndsWithin (roundedMaskCells image.width.toNat)
        (roundedMaskCells image.height.toNat)) ∧
        ∃ i < mask.roisCount.toNat,
          ¬ (mask.roi i).EndsWithin (maskCells image.width.toNat) (maskCells image.height.toNat))

/-- An image whose sides have from 1 to `2 ^ 32 - 1` pixels. -/
structure DspImageProperties.MaskableSize (image : DspImageProperties) : Prop where
  width_pos : 0 < image.width.toNat
  width_lt : image.width.toNat < 2 ^ 32
  height_pos : 0 < image.height.toNat
  height_lt : image.height.toNat < 2 ^ 32

/-- The exact number of cells is a ceiling too. -/
theorem ceil_div_four (side : ℕ) : ⌈(side : ℚ) / 4⌉₊ = maskCells side := by
  have hceil : ⌈(side : ℚ) / 4⌉ = ((side + 4 - 1) / 4 : ℕ) := ceil_div_natCast side (by norm_num)
  rw [← Int.ceil_toNat, hceil, Int.toNat_natCast]
  rfl

/-- A side of at most `2 ^ 24` pixels is not rounded. -/
theorem roundedMaskCells_of_le {side : ℕ} (h : side ≤ 2 ^ 24) : roundedMaskCells side = maskCells side := by
  rw [roundedMaskCells, roundTo_natCast_of_le (by norm_num) h, ceil_div_four]

/-- A side has at least one cell, rounded or not. -/
theorem one_le_roundedMaskCells {side : ℕ} (h : 0 < side) : 1 ≤ roundedMaskCells side := by
  have hone := roundTo_natCast_of_le (p := 24) (n := 1) (by norm_num) (by norm_num)
  have hmono : roundTo 24 ((1 : ℕ) : ℚ) ≤ roundTo 24 (side : ℚ) :=
    roundTo_mono (by norm_num) (by positivity) (by exact_mod_cast h)
  rw [hone, Nat.cast_one] at hmono
  have hpos : 0 < roundTo 24 (side : ℚ) / 4 := by linarith
  exact Nat.ceil_pos.mpr hpos

/-- A side of 32 bits has at most `2 ^ 30` cells, rounded or not. -/
theorem roundedMaskCells_le {side : ℕ} (h : side < 2 ^ 32) : roundedMaskCells side ≤ 2 ^ 30 := by
  have hpow : roundTo 24 ((2 ^ 32 : ℕ) : ℚ) = (2 ^ 32 : ℕ) :=
    roundTo_of_representable ⟨1, 32, by norm_num, by norm_num⟩
  have hmono : roundTo 24 (side : ℚ) ≤ roundTo 24 ((2 ^ 32 : ℕ) : ℚ) :=
    roundTo_mono (by norm_num) (by positivity) (by exact_mod_cast h.le)
  rw [hpow] at hmono
  refine Nat.ceil_le.mpr ?_
  push_cast at hmono ⊢
  linarith

/-- The limit of the check is the number of cells of the rounded side. -/
theorem toNat_quantizedSide {side : UInt64} (h : side.toNat < 2 ^ 32) :
    (quantizedSide side).toNat = roundedMaskCells side.toNat := by
  have hdivisor : toFloat privacyMaskQuantization = 2 ^ 2 := by
    rw [toFloat, roundTo_natCast_of_le (by norm_num) (by decide),
      show privacyMaskQuantization.toNat = 4 from rfl]
    norm_num
  have hquotient : divFloat (toFloat side) (2 ^ 2) = roundTo 24 side.toNat / 2 ^ 2 :=
    roundTo_div_two_pow (by norm_num) (by positivity) 2
  have hfour : (2 : ℚ) ^ 2 = 4 := by norm_num
  have hle := roundedMaskCells_le h
  rw [quantizedSide, hdivisor, hquotient, hfour, toSize, ceilOf, Int.floor_intCast, Int.ceil_toNat]
  exact UInt64.toNat_ofNat_of_lt' (show roundedMaskCells side.toNat < 2 ^ 64 by omega)

/-- The two counts decide about a mask in the same way exactly when the rounding makes no difference. -/
theorem within_iff_iff_harmless (image : DspImageProperties) (mask : DspPrivacyMask) :
    (mask.Within (roundedMaskCells image.width.toNat) (roundedMaskCells image.height.toNat) ↔
      mask.Within (maskCells image.width.toNat) (maskCells image.height.toNat)) ↔
      RoundingHarmless image mask := by
  by_cases hproper : ∀ i < mask.roisCount.toNat, (mask.roi i).Proper
  · have hwithin (columns rows : ℕ) : mask.Within columns rows ↔
        ∀ i < mask.roisCount.toNat, (mask.roi i).EndsWithin columns rows :=
      ⟨fun hwithin i hi => (hwithin i hi).2, fun hends i hi => ⟨hproper i hi, hends i hi⟩⟩
    have hoverlap (p q : ℕ → Prop) : (∀ i < mask.roisCount.toNat, p i ∧ q i) ↔
        (∀ i < mask.roisCount.toNat, p i) ∧ ∀ i < mask.roisCount.toNat, q i :=
      ⟨fun hboth => ⟨fun i hi => (hboth i hi).1, fun i hi => (hboth i hi).2⟩,
        fun hboth i hi => ⟨hboth.1 i hi, hboth.2 i hi⟩⟩
    have hmissed (p : ℕ → Prop) : (∃ i < mask.roisCount.toNat, ¬ p i) ↔
        ¬ ∀ i < mask.roisCount.toNat, p i := by
      simp only [not_forall, exists_prop]
    rw [hwithin, hwithin, RoundingHarmless, hoverlap, hmissed, hmissed, hmissed]
    exact iff_iff_and_or_not_and_not.trans (or_iff_right (not_not.mpr hproper)).symm
  · obtain ⟨i, hi, hempty⟩ : ∃ i < mask.roisCount.toNat, ¬ (mask.roi i).Proper := by simpa using hproper
    have hrejected (columns rows : ℕ) : ¬ mask.Within columns rows := fun hwithin => hempty (hwithin i hi).1
    exact iff_of_true (iff_of_false (hrejected _ _) (hrejected _ _)) (.inl ⟨i, hi, hempty⟩)

/-- A mask whose only region has the given columns and rows, from the first cell on. -/
def firstCellsMask (columns rows : ℕ) : DspPrivacyMask :=
  { smallMask with rois := some fun _ => ⟨0, 0, UInt64.ofNat columns, UInt64.ofNat rows⟩ }

/-- Such a mask gets as far as the loop over its regions. -/
theorem firstCellsMask_reaches (columns rows : ℕ) : (firstCellsMask columns rows).ReachesRois where
  bitmask_ne := show (8192 : UInt64) ≠ 0 by decide
  count_ne := show (1 : UInt64) ≠ 0 by decide
  count_le := show (1 : UInt64).toNat ≤ maxPrivacyMaskRois by decide

/-- Its region ends where the mask is told to. -/
theorem firstCellsMask_within_iff {columns rows : ℕ} (hcolumns : 0 < columns) (hcolumns' : columns ≤ 2 ^ 30)
    (hrows : 0 < rows) (hrows' : rows ≤ 2 ^ 30) (width height : ℕ) :
    (firstCellsMask columns rows).Within width height ↔ columns ≤ width ∧ rows ≤ height := by
  have hendX : (UInt64.ofNat columns).toNat = columns :=
    UInt64.toNat_ofNat_of_lt' (show _ < 2 ^ 64 by omega)
  have hendY : (UInt64.ofNat rows).toNat = rows := UInt64.toNat_ofNat_of_lt' (show _ < 2 ^ 64 by omega)
  constructor
  · intro hwithin
    obtain ⟨-, hx, hy⟩ := hwithin 0 (show 0 < (1 : UInt64).toNat by decide)
    exact ⟨hendX ▸ hx, hendY ▸ hy⟩
  · rintro ⟨hx, hy⟩ i -
    refine ⟨⟨UInt64.lt_iff_toNat_lt.mpr ?_, UInt64.lt_iff_toNat_lt.mpr ?_⟩, hendX.le.trans hx,
      hendY.le.trans hy⟩
    · exact hcolumns.trans_eq hendX.symm
    · exact hrows.trans_eq hendY.symm

/-- The bits of a line of the bitmask as samples, eight of which share a byte. -/
def bitSampling : Sampling := ⟨1, 8, 1, Nat.one_pos, Nat.succ_pos 7, Nat.one_pos⟩

section Agreement

variable {image : DspImageProperties} (h : image.MaskableSize)
include h

/-- The check accepts the regions that end inside the cells of the rounded sides. -/
theorem maskAccepted_iff {mask : DspPrivacyMask} (hreaches : mask.ReachesRois) (hrois : mask.rois ≠ none) :
    verifyPrivacyMaskParams (some image) (some mask) = .ok () ↔
      mask.Within (roundedMaskCells image.width.toNat) (roundedMaskCells image.height.toNat) := by
  rw [verifyPrivacyMaskParams_ok_iff, ← toNat_quantizedSide h.width_lt, ← toNat_quantizedSide h.height_lt]
  constructor
  · intro haccepted i hi
    obtain ⟨hx, hy, hendX, hendY⟩ := haccepted.roi i hi
    exact ⟨⟨hx, hy⟩, hendX, hendY⟩
  · intro hwithin
    refine ⟨hreaches, hrois, fun i hi => ?_⟩
    obtain ⟨⟨hx, hy⟩, hendX, hendY⟩ := hwithin i hi
    exact ⟨hx, hy, hendX, hendY⟩

/-- The stride of the bitmask is the least multiple of 8 bytes with a bit for every column. -/
theorem bitmaskStride_isLeast :
    IsLeast {n | 8 ∣ n ∧ maskCells image.width.toNat ≤ 8 * n} (bitmaskStride image).toNat := by
  rw [toNat_bitmaskStride h.width_lt]
  constructor
  · refine ⟨Nat.dvd_mul_left _ _, ?_⟩
    simp only [maskCells, bitmaskLine]
    omega
  · rintro n ⟨⟨words, rfl⟩, hcells⟩
    simp only [maskCells, bitmaskLine] at hcells ⊢
    omega

/-- The byte of every cell of the image is inside the bitmask. -/
theorem maskCell_lt {x y : ℕ} (hx : x < maskCells image.width.toNat)
    (hy : y < maskCells image.height.toNat) :
    y * (bitmaskStride image).toNat + x / 8 < (bitmaskStride image * bitmaskHeight image).toNat := by
  obtain ⟨-, hcolumns⟩ := (bitmaskStride_isLeast h).1
  have hrows : (bitmaskHeight image).toNat = maskCells image.height.toNat := toNat_bitmaskHeight h.height_lt
  have hheight := h.height_lt
  have hline : (bitmaskStride image).toNat < 2 ^ 32 := by
    have hwidth := h.width_lt
    rw [toNat_bitmaskStride hwidth, bitmaskLine]
    omega
  have hlines : maskCells image.height.toNat < 2 ^ 32 := by
    rw [maskCells]
    omega
  rw [toNat_mul_of_lt (by rw [hrows]; nlinarith), hrows]
  set stride := (bitmaskStride image).toNat
  have hfits : bitSampling.Fits (stride * 8) (maskCells image.height.toNat) stride
      (stride * maskCells image.height.toNat) := ⟨(Nat.mul_one _).le, (Nat.mul_one _).ge⟩
  have hoffset := hfits.offset_lt (Nat.dvd_mul_left 8 stride) (one_dvd _) (show x < stride * 8 by omega) hy
    (show 0 < bitSampling.bytes by decide)
  simpa [Sampling.offset, bitSampling] using hoffset

/-- The check agrees with the bitmask as soon as it decides as it would without the rounding. -/
theorem maskLimitsAgree_iff_within {mask : DspPrivacyMask} (hreaches : mask.ReachesRois)
    (hrois : mask.rois ≠ none) :
    MaskLimitsAgree image mask ↔
      (mask.Within (roundedMaskCells image.width.toNat) (roundedMaskCells image.height.toNat) ↔
        mask.Within (maskCells image.width.toNat) (maskCells image.height.toNat)) := by
  rw [← maskAccepted_iff h hreaches hrois]
  constructor
  · intro hagree
    exact hagree.verdict
  · intro hverdict
    refine ⟨hverdict, bitmaskStride_isLeast h, fun hok i hi x y hcovers => ?_⟩
    obtain ⟨-, hendX, hendY⟩ := hverdict.mp hok i hi
    exact maskCell_lt h (hcovers.2.1.trans_le hendX) (hcovers.2.2.2.trans_le hendY)

/-- A region from the first cell on tells the two counts apart where they differ. -/
theorem firstCells_within_iff
    (hall : ∀ mask : DspPrivacyMask, mask.ReachesRois → mask.rois ≠ none → MaskLimitsAgree image mask)
    {columns rows : ℕ} (hcolumns : 0 < columns) (hcolumns' : columns ≤ 2 ^ 30) (hrows : 0 < rows)
    (hrows' : rows ≤ 2 ^ 30) :
    columns ≤ roundedMaskCells image.width.toNat ∧ rows ≤ roundedMaskCells image.height.toNat ↔
      columns ≤ maskCells image.width.toNat ∧ rows ≤ maskCells image.height.toNat := by
  have hreaches := firstCellsMask_reaches columns rows
  have hrois : (firstCellsMask columns rows).rois ≠ none := Option.some_ne_none _
  have hwithin := firstCellsMask_within_iff hcolumns hcolumns' hrows hrows'
  rw [← hwithin, ← hwithin]
  exact (maskLimitsAgree_iff_within h hreaches hrois).mp (hall _ hreaches hrois)

/-- The check agrees with the bitmask for every mask exactly when the rounding does not move the
number of cells along either side. -/
theorem forall_maskLimitsAgree_iff :
    (∀ mask : DspPrivacyMask, mask.ReachesRois → mask.rois ≠ none → MaskLimitsAgree image mask) ↔
      roundedMaskCells image.width.toNat = maskCells image.width.toNat ∧
        roundedMaskCells image.height.toNat = maskCells image.height.toNat := by
  constructor
  · intro hall
    have hwidth := h.width_lt
    have hheight := h.height_lt
    have hcolumn := one_le_roundedMaskCells h.width_pos
    have hrow := one_le_roundedMaskCells h.height_pos
    have hcolumns := roundedMaskCells_le hwidth
    have hrows := roundedMaskCells_le hheight
    have hcell : 1 ≤ maskCells image.width.toNat ∧ 1 ≤ maskCells image.height.toNat := by
      have hwidthPos := h.width_pos
      have hheightPos := h.height_pos
      simp only [maskCells]
      omega
    have hcells : maskCells image.width.toNat ≤ 2 ^ 30 ∧ maskCells image.height.toNat ≤ 2 ^ 30 := by
      simp only [maskCells]
      omega
    constructor
    · apply le_antisymm
      · exact ((firstCells_within_iff h hall hcolumn hcolumns one_pos (by norm_num)).mp ⟨le_rfl, hrow⟩).1
      · exact ((firstCells_within_iff h hall hcell.1 hcells.1 one_pos (by norm_num)).mpr
          ⟨le_rfl, hcell.2⟩).1
    · apply le_antisymm
      · exact ((firstCells_within_iff h hall one_pos (by norm_num) hrow hrows).mp ⟨hcolumn, le_rfl⟩).2
      · exact ((firstCells_within_iff h hall one_pos (by norm_num) hcell.2 hcells.2).mpr
          ⟨hcell.1, le_rfl⟩).2
  · rintro ⟨hwidth, hheight⟩ mask hreaches hrois
    rw [maskLimitsAgree_iff_within h hreaches hrois, hwidth, hheight]

/-- The check of the regions of a mask agrees with its bitmask exactly when the rounding makes no
difference to them, and it agrees with every bitmask of an image exactly when the rounding does not
move the number of cells along either side. -/
theorem maskLimitsAgree_iff_roundingHarmless :
    (∀ mask : DspPrivacyMask, mask.ReachesRois → mask.rois ≠ none →
      (MaskLimitsAgree image mask ↔ RoundingHarmless image mask)) ∧
    ((∀ mask : DspPrivacyMask, mask.ReachesRois → mask.rois ≠ none → MaskLimitsAgree image mask) ↔
      roundedMaskCells image.width.toNat = maskCells image.width.toNat ∧
        roundedMaskCells image.height.toNat = maskCells image.height.toNat) := by
  refine ⟨fun mask hreaches hrois => ?_, forall_maskLimitsAgree_iff h⟩
  rw [maskLimitsAgree_iff_within h hreaches hrois]
  exact within_iff_iff_harmless image mask

end Agreement

/-- A small image satisfies the bounds on the sides. -/
theorem smallImage_maskableSize : (smallImage .nv12).MaskableSize :=
  ⟨by decide, by decide, by decide, by decide⟩

/-- The check agrees with the bitmask of a small image, where the rounding makes no difference. -/
theorem maskLimitsAgree_iff_roundingHarmless_smallImage :
    MaskLimitsAgree (smallImage .nv12) smallMask ∧ RoundingHarmless (smallImage .nv12) smallMask := by
  have hreaches : smallMask.ReachesRois := ⟨by decide, by decide, by decide⟩
  have hrois : smallMask.rois ≠ none := Option.some_ne_none _
  obtain ⟨hmask, hall⟩ := maskLimitsAgree_iff_roundingHarmless smallImage_maskableSize
  have hagree := hall.mpr ⟨roundedMaskCells_of_le (by decide), roundedMaskCells_of_le (by decide)⟩ smallMask
    hreaches hrois
  exact ⟨hagree, (hmask smallMask hreaches hrois).mp hagree⟩

/-- An image of `2 ^ 26 + 12` lines, which are rounded up to `2 ^ 26 + 16`. -/
def tallImage : DspImageProperties := { smallImage .nv12 with height := 67108876 }

/-- An image of `2 ^ 24 + 1` columns, which are rounded down to `2 ^ 24`. -/
def wideImage : DspImageProperties := { smallImage .nv12 with width := 16777217 }

/-- A region that ends a row behind the bitmask of the tall image is accepted, and the byte of its
last row is behind the bitmask; a region that ends with the bitmask of the wide image is rejected. -/
theorem roundedSides_disagree :
    (verifyPrivacyMaskParams (some tallImage) (some (firstCellsMask 1 16777220)) = .ok () ∧
      ¬ (firstCellsMask 1 16777220).Within (maskCells tallImage.width.toNat)
        (maskCells tallImage.height.toNat) ∧
      ((firstCellsMask 1 16777220).roi 0).Covers 0 16777219 ∧
      ¬ 16777219 * (bitmaskStride tallImage).toNat + 0 / 8 <
        (bitmaskStride tallImage * bitmaskHeight tallImage).toNat) ∧
    (verifyPrivacyMaskParams (some wideImage) (some (firstCellsMask 4194305 1)) = .error invalidArgument ∧
      (firstCellsMask 4194305 1).Within (maskCells wideImage.width.toNat)
        (maskCells wideImage.height.toNat)) := by
  refine ⟨⟨by decide +kernel, ?_, ?_, by decide +kernel⟩, by decide +kernel, ?_⟩
  · rw [firstCellsMask_within_iff (by norm_num) (by norm_num) (by norm_num) (by norm_num)]
    decide
  · exact ⟨by decide, by decide, by decide, by decide⟩
  · rw [firstCellsMask_within_iff (by norm_num) (by norm_num) (by norm_num) (by norm_num)]
    decide

end HailoDsp
