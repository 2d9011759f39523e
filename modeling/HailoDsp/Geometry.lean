import HailoDsp.Foundations.SampledPlane
import HailoDsp.Marshalling

/-!
# The geometry of an image in exact arithmetic

What the validators are about: every plane has room for the samples of the image. The checks
multiply modulo `2 ^ 64` and compare in `double`, so that they see a number rounded to 53 bits.
What they decide is said here in exact arithmetic: an inequality holds, or its failure is hidden
from the check. Nothing is hidden while the products fit 64 bits and the sizes 52.
-/

namespace HailoDsp

open BinaryRounding SampledPlane

/-- A plane with a sample for every pixel. -/
def fullSampling (bytes : ℕ) (h : 0 < bytes := by decide) : Sampling :=
  ⟨bytes, 1, 1, h, by decide, by decide⟩

/-- A plane with a sample for every block of two by two pixels. -/
def halfSampling (bytes : ℕ) (h : 0 < bytes := by decide) : Sampling :=
  ⟨bytes, 2, 2, h, by decide, by decide⟩

/-- How the planes of a format are sampled. -/
def DspImageFormat.samplings : DspImageFormat → List Sampling
  | gray8 => [fullSampling 1]
  | rgb => [fullSampling 3]
  | nv12 => [fullSampling 1, halfSampling 2]
  | a420 => [fullSampling 1, halfSampling 1, halfSampling 1, fullSampling 1]
  | other _ => []

/-- The validators call `verify_plane` with the sampling of the plane. -/
theorem DspImageFormat.layouts_eq (format : DspImageFormat) :
    format.layouts = format.samplings.map fun s =>
      ⟨UInt64.ofNat s.bytes, UInt64.ofNat s.widthRatio, UInt64.ofNat s.heightRatio⟩ := by
  cases format <;> rfl

/-- A format has one sampling for each plane. -/
theorem DspImageFormat.length_samplings (format : DspImageFormat) :
    format.samplings.length = format.layouts.length := by
  rw [layouts_eq, List.length_map]

/-- A sample has at most three bytes. -/
theorem DspImageFormat.bytes_le {format : DspImageFormat} {s : Sampling} (h : s ∈ format.samplings) :
    s.bytes ≤ 3 := by
  revert h
  cases format <;> simp +contextual [samplings, fullSampling, halfSampling, or_imp]

/-- Only the planes of the formats with even sizes are subsampled. -/
theorem DspImageFormat.ratios {format : DspImageFormat} {s : Sampling} (h : s ∈ format.samplings) :
    (s.widthRatio = 1 ∧ s.heightRatio = 1) ∨
      (format.yuv420 = true ∧ s.widthRatio = 2 ∧ s.heightRatio = 2) := by
  revert h
  cases format <;> simp +contextual [samplings, fullSampling, halfSampling, yuv420, or_imp]

/-- The first plane of a format has a sample for every pixel. -/
theorem DspImageFormat.exists_first_sampling {format : DspImageFormat} (h : format.layouts ≠ []) :
    ∃ s, format.samplings[0]? = some s ∧ s.widthRatio = 1 ∧ s.heightRatio = 1 := by
  cases format with
  | other n => exact absurd rfl h
  | _ => exact ⟨_, rfl, rfl, rfl⟩

/-- The geometry of an image: sizes, plane count, and room in every plane. -/
structure WellFormedGeometry (format : DspImageFormat) (width height planesCount : ℕ)
    (stride size : ℕ → ℕ) : Prop where
  width_ne : width ≠ 0
  height_ne : height ≠ 0
  count : planesCount = format.samplings.length
  even : format.yuv420 = true → width % 2 = 0 ∧ height % 2 = 0
  plane : ∀ j (s : Sampling), format.samplings[j]? = some s → s.Fits width height (stride j) (size j)

/-- An image that is well formed in exact arithmetic. -/
def DspImageProperties.WellFormed (image : DspImageProperties) : Prop :=
  WellFormedGeometry image.format image.width.toNat image.height.toNat image.planesCount.toNat
    (fun j => (image.plane j).bytesperline.toNat) (fun j => (image.plane j).bytesused.toNat)

/-- An image whose sizes fit 32 bits. -/
structure DspImageProperties.Below32 (image : DspImageProperties) : Prop where
  width_lt : image.width.toNat < 2 ^ 32
  height_lt : image.height.toNat < 2 ^ 32
  stride_lt : ∀ j < image.planesCount.toNat, (image.plane j).bytesperline.toNat < 2 ^ 32
  size_lt : ∀ j < image.planesCount.toNat, (image.plane j).bytesused.toNat < 2 ^ 32

/-- The small image has 32-bit sizes. -/
theorem smallImage_below32 (format : DspImageFormat) : (smallImage format).Below32 := by
  refine ⟨?_, ?_, fun _ _ => ?_, fun _ _ => ?_⟩
  · exact show (4 : UInt64).toNat < 2 ^ 32 by decide
  · exact show (4 : UInt64).toNat < 2 ^ 32 by decide
  · exact show (16 : UInt64).toNat < 2 ^ 32 by decide
  · exact show (64 : UInt64).toNat < 2 ^ 32 by decide

/-- The blocks of a plane divide an image of the size that its format asks for. -/
theorem WellFormedGeometry.ratios_dvd {format : DspImageFormat} {width height planesCount : ℕ}
    {stride size : ℕ → ℕ} (h : WellFormedGeometry format width height planesCount stride size)
    {s : Sampling} (hs : s ∈ format.samplings) :
    s.widthRatio ∣ width ∧ s.heightRatio ∣ height := by
  rcases DspImageFormat.ratios hs with ⟨hw, hh⟩ | ⟨hyuv, hw, hh⟩
  · rw [hw, hh]
    exact ⟨one_dvd _, one_dvd _⟩
  · rw [hw, hh]
    obtain ⟨hwidth, hheight⟩ := h.even hyuv
    exact ⟨Nat.dvd_of_mod_eq_zero hwidth, Nat.dvd_of_mod_eq_zero hheight⟩

/-- A check in `double` compares the product and what it has to fit into, both rounded to 53 bits. -/
theorem ceil_le_toDouble_iff (product size : UInt64) {ratio : ℕ} (hratio : ratio = 1 ∨ ratio = 2) :
    ceilOf (divDouble (toDouble product) (toDouble (UInt64.ofNat ratio))) ≤ toDouble size ↔
      roundTo 53 product.toNat ≤ roundTo 53 (size.toNat * ratio : ℕ) := by
  obtain ⟨k, rfl, hk⟩ : ∃ k, ratio = 2 ^ k ∧ k ≤ 1 := by
    rcases hratio with rfl | rfl
    · exact ⟨0, rfl, by omega⟩
    · exact ⟨1, rfl, le_rfl⟩
  have hpow : 2 ^ k ≤ 2 := by simpa using Nat.pow_le_pow_right (n := 2) (by norm_num) hk
  have hdivisor : toDouble (UInt64.ofNat (2 ^ k)) = 2 ^ k := by
    have hvalue : (UInt64.ofNat (2 ^ k)).toNat = 2 ^ k :=
      UInt64.toNat_ofNat_of_lt' (show _ < 2 ^ 64 by omega)
    rw [toDouble_of_le (by omega), hvalue]
    push_cast
    rfl
  rw [hdivisor, divDouble_two_pow]
  exact ceil_roundTo_div_le_iff (by norm_num) _ _ _

/-- A shortfall that a check does not see: `need` exceeds `room`, but its low 64 bits do not, or they
round to the same 53 bits. -/
def HiddenShortfall (need room : ℕ) : Prop :=
  room < need ∧ (need % 2 ^ 64 ≤ room ∨ roundTo 53 (need % 2 ^ 64 : ℕ) = roundTo 53 room)

/-- What a comparison of the rounded values decides. -/
theorem roundTo_wrapped_le_iff (need room : ℕ) :
    roundTo 53 (need % 2 ^ 64 : ℕ) ≤ roundTo 53 room ↔ need ≤ room ∨ HiddenShortfall need room := by
  rw [roundTo_le_roundTo_iff (by norm_num) (by positivity) (by positivity), Nat.cast_le]
  rcases le_or_gt need room with hle | hlt
  · exact ⟨fun _ => .inl hle, fun _ => .inl ((Nat.mod_le _ _).trans hle)⟩
  · simp [HiddenShortfall, hlt, not_le.mpr hlt]

/-- Only a product of more than 64 bits or a room of at least 53 bits hides anything. -/
theorem HiddenShortfall.large {need room : ℕ} (h : HiddenShortfall need room) :
    2 ^ 64 ≤ need ∨ 2 ^ 53 ≤ room := by
  obtain ⟨hlt, hhidden⟩ := h
  by_contra hsmall
  obtain ⟨hneed, hroom⟩ := not_or.mp hsmall
  rw [Nat.mod_eq_of_lt (by omega)] at hhidden
  rcases hhidden with hle | heq
  · omega
  · exact absurd (le_of_roundTo_le (by norm_num) (by omega) heq.le) (by omega)

/-- A plane for which each of the two inequalities holds, or fails hidden from the check. -/
structure SeemsToFit (s : Sampling) (width height stride size : ℕ) : Prop where
  line : width * s.bytes ≤ stride * s.widthRatio ∨ HiddenShortfall (width * s.bytes) (stride * s.widthRatio)
  plane : stride * height ≤ size * s.heightRatio ∨ HiddenShortfall (stride * height) (size * s.heightRatio)

/-- The arguments with which the validators call `verify_plane` for a plane. -/
theorem DspImageFormat.getElem_layouts {format : DspImageFormat} {j : ℕ} {s : Sampling}
    (hs : format.samplings[j]? = some s) (hj : j < format.layouts.length) :
    format.layouts[j] = ⟨UInt64.ofNat s.bytes, UInt64.ofNat s.widthRatio, UInt64.ofNat s.heightRatio⟩ := by
  refine Option.some_injective _ ?_
  rw [← List.getElem?_eq_getElem hj, DspImageFormat.layouts_eq, List.getElem?_map, hs]
  rfl

/-- `verify_plane` accepts a plane exactly when its pointer is not NULL and it seems to fit. -/
theorem planeAccepted_iff {image : DspImageProperties} {plane : DspDataPlane} {s : Sampling}
    (hs : s ∈ image.format.samplings) :
    PlaneAccepted image plane
        ⟨UInt64.ofNat s.bytes, UInt64.ofNat s.widthRatio, UInt64.ofNat s.heightRatio⟩ ↔
      plane.userptr ≠ 0 ∧
        SeemsToFit s image.width.toNat image.height.toNat plane.bytesperline.toNat
          plane.bytesused.toNat := by
  have hratios : (s.widthRatio = 1 ∨ s.widthRatio = 2) ∧ (s.heightRatio = 1 ∨ s.heightRatio = 2) := by
    rcases DspImageFormat.ratios hs with ⟨hw, hh⟩ | ⟨-, hw, hh⟩
    · exact ⟨.inl hw, .inl hh⟩
    · exact ⟨.inr hw, .inr hh⟩
  have hbytes := DspImageFormat.bytes_le hs
  have hsample : (UInt64.ofNat s.bytes).toNat = s.bytes :=
    UInt64.toNat_ofNat_of_lt' (show _ < 2 ^ 64 by omega)
  have hline := ceil_le_toDouble_iff (image.width * UInt64.ofNat s.bytes) plane.bytesperline hratios.1
  have hplane := ceil_le_toDouble_iff (plane.bytesperline * image.height) plane.bytesused hratios.2
  rw [UInt64.toNat_mul, hsample, roundTo_wrapped_le_iff] at hline
  rw [UInt64.toNat_mul, roundTo_wrapped_le_iff] at hplane
  constructor
  · intro h
    exact ⟨h.userptr_ne, hline.mp h.stride, hplane.mp h.size⟩
  · rintro ⟨huserptr, h⟩
    exact ⟨huserptr, hline.mpr h.line, hplane.mpr h.plane⟩

/-- The number of planes of a format as a word. -/
theorem DspImageFormat.toNat_length (format : DspImageFormat) :
    (UInt64.ofNat format.layouts.length).toNat = format.samplings.length := by
  rw [length_samplings]
  exact UInt64.toNat_ofNat_of_lt' (format.length_layouts_le.trans_lt (by decide))

/-- An even word is an even number. -/
theorem toNat_mod_two_eq_zero_iff {n : UInt64} : n.toNat % 2 = 0 ↔ n % 2 = 0 := by
  rw [← UInt64.toNat_inj, UInt64.toNat_mod]
  rfl

/-- An image that is valid but for shortfalls hidden from the validator. -/
structure DspImageProperties.SeemsWellFormed (image : DspImageProperties) : Prop where
  planes_ne : image.planes ≠ none
  known : image.format.layouts ≠ []
  userptr_ne : ∀ j < image.planesCount.toNat, (image.plane j).userptr ≠ 0
  width_ne : image.width.toNat ≠ 0
  height_ne : image.height.toNat ≠ 0
  count : image.planesCount.toNat = image.format.samplings.length
  even : image.format.yuv420 = true → image.width.toNat % 2 = 0 ∧ image.height.toNat % 2 = 0
  plane : ∀ j (s : Sampling), image.format.samplings[j]? = some s →
    SeemsToFit s image.width.toNat image.height.toNat (image.plane j).bytesperline.toNat
      (image.plane j).bytesused.toNat

/-- A validated image seems well formed. -/
theorem ImageAccepted.seemsWellFormed {image : DspImageProperties} (h : ImageAccepted image) :
    image.SeemsWellFormed := by
  have hcount : image.planesCount.toNat = image.format.samplings.length := by
    rw [h.count, DspImageFormat.toNat_length]
  have haccepted (j : ℕ) (s : Sampling) (hs : image.format.samplings[j]? = some s) :
      PlaneAccepted image (image.plane j)
        ⟨UInt64.ofNat s.bytes, UInt64.ofNat s.widthRatio, UInt64.ofNat s.heightRatio⟩ := by
    obtain ⟨hj, -⟩ := List.getElem?_eq_some_iff.mp hs
    rw [DspImageFormat.length_samplings] at hj
    rw [← DspImageFormat.getElem_layouts hs hj]
    exact h.plane j hj
  exact {
    planes_ne := h.planes_ne
    known := h.known
    userptr_ne := fun j hj => (haccepted j _ (List.getElem?_eq_getElem (hcount ▸ hj))).userptr_ne
    width_ne := fun hzero => h.width_ne (UInt64.toNat_inj.mp hzero)
    height_ne := fun hzero => h.height_ne (UInt64.toNat_inj.mp hzero)
    count := hcount
    even := fun hyuv => (h.even hyuv).imp toNat_mod_two_eq_zero_iff.mpr toNat_mod_two_eq_zero_iff.mpr
    plane := fun j s hs => ((planeAccepted_iff (List.mem_of_getElem? hs)).mp (haccepted j s hs)).2 }

/-- Nothing is hidden by factors of 32 bits. -/
theorem not_hiddenShortfall {a b c ratio : ℕ} (ha : a < 2 ^ 32) (hb : b < 2 ^ 32) (hc : c < 2 ^ 32)
    (hratio : ratio ≤ 2) : ¬ HiddenShortfall (a * b) (c * ratio) := by
  intro hhidden
  rcases hhidden.large with hneed | hroom <;> nlinarith

/-- A validated image with 32-bit sizes is well formed in exact arithmetic. -/
theorem ImageAccepted.wellFormed {image : DspImageProperties} (h : ImageAccepted image)
    (hbelow : image.Below32) :
    image.WellFormed where
  width_ne := h.seemsWellFormed.width_ne
  height_ne := h.seemsWellFormed.height_ne
  count := h.seemsWellFormed.count
  even := h.seemsWellFormed.even
  plane j s hs := by
    have hmem : s ∈ image.format.samplings := List.mem_of_getElem? hs
    have hj : j < image.planesCount.toNat := by
      rw [h.seemsWellFormed.count]
      exact (List.getElem?_eq_some_iff.mp hs).1
    have hbytes := DspImageFormat.bytes_le hmem
    have hratios : s.widthRatio ≤ 2 ∧ s.heightRatio ≤ 2 := by
      rcases DspImageFormat.ratios hmem with ⟨hw, hh⟩ | ⟨-, hw, hh⟩ <;> omega
    have hseems := h.seemsWellFormed.plane j s hs
    have hline := not_hiddenShortfall hbelow.width_lt (show s.bytes < 2 ^ 32 by omega)
      (hbelow.stride_lt j hj)
      hratios.1
    have hlines := not_hiddenShortfall (hbelow.stride_lt j hj) hbelow.height_lt
      (hbelow.size_lt j hj) hratios.2
    exact ⟨hseems.line.resolve_right hline, hseems.plane.resolve_right hlines⟩

end HailoDsp
