import HailoDsp.Geometry

/-!
# What the validator decides

`verify_image_properties` in exact arithmetic, for all 64-bit sizes: it accepts the images that
seem to be well formed. So it never refuses a well-formed image, and what it accepts has room in
every plane unless a shortfall is hidden from it.
-/

namespace HailoDsp

open SampledPlane

/-- An image that seems well formed is accepted. -/
theorem DspImageProperties.SeemsWellFormed.accepted {image : DspImageProperties}
    (h : image.SeemsWellFormed) :
    ImageAccepted image where
  width_ne hzero := h.width_ne (congrArg UInt64.toNat hzero)
  height_ne hzero := h.height_ne (congrArg UInt64.toNat hzero)
  planes_ne := h.planes_ne
  known := h.known
  count := UInt64.toNat_inj.mp (h.count.trans image.format.toNat_length.symm)
  even hyuv := (h.even hyuv).imp toNat_mod_two_eq_zero_iff.mp toNat_mod_two_eq_zero_iff.mp
  plane j hj := by
    have hjs : j < image.format.samplings.length := by rwa [DspImageFormat.length_samplings]
    have hs := List.getElem?_eq_getElem hjs
    rw [DspImageFormat.getElem_layouts hs hj]
    exact (planeAccepted_iff (List.getElem_mem hjs)).mpr ⟨h.userptr_ne j (h.count ▸ hjs), h.plane j _ hs⟩

/-- `verify_image_properties` accepts exactly the images that seem to be well formed. -/
theorem verifyImageProperties_ok_iff_seemsWellFormed (image : DspImageProperties) :
    verifyImageProperties (some image) = .ok () ↔ image.SeemsWellFormed := by
  have hverify : verifyImageProperties (some image) = .ok () ↔ ImageAccepted image := by
    simp [verifyImageProperties_ok_iff]
  rw [hverify]
  exact ⟨fun h => h.seemsWellFormed, fun h => h.accepted⟩

/-- An image whose validation hides a shortfall: one of the two inequalities fails for one of its
planes, and nothing else is wrong with the image that the validator sees. -/
structure DspImageProperties.HidesShortfall (image : DspImageProperties) : Prop where
  seems : image.SeemsWellFormed
  hidden : ∃ j s, image.format.samplings[j]? = some s ∧
    (HiddenShortfall (image.width.toNat * s.bytes) ((image.plane j).bytesperline.toNat * s.widthRatio) ∨
      HiddenShortfall ((image.plane j).bytesperline.toNat * image.height.toNat)
        ((image.plane j).bytesused.toNat * s.heightRatio))

/-- What `verify_image_properties` accepts has room in every plane exactly when the image does not
hide a shortfall from it. -/
theorem accepted_fits_iff_not_hidesShortfall (image : DspImageProperties) :
    (verifyImageProperties (some image) = .ok () →
      ∀ j (s : Sampling), image.format.samplings[j]? = some s →
        s.Fits image.width.toNat image.height.toNat (image.plane j).bytesperline.toNat
          (image.plane j).bytesused.toNat) ↔
      ¬ image.HidesShortfall := by
  rw [verifyImageProperties_ok_iff_seemsWellFormed]
  constructor
  · rintro hfits ⟨hseems, j, s, hs, hline | hplane⟩
    · exact absurd (hfits hseems j s hs).line (not_le.mpr hline.1)
    · exact absurd (hfits hseems j s hs).plane (not_le.mpr hplane.1)
  · intro hopen hseems j s hs
    have hplane := hseems.plane j s hs
    exact ⟨hplane.line.resolve_right fun hline => hopen ⟨hseems, j, s, hs, .inl hline⟩,
      hplane.plane.resolve_right fun hsize => hopen ⟨hseems, j, s, hs, .inr hsize⟩⟩

/-- An image of `2 ^ 32` by `2 ^ 32` pixels in a plane of one byte. -/
def hugeSource : DspImageProperties where
  width := 4294967296
  height := 4294967296
  planes := some fun _ => ⟨4096, 4294967296, 1⟩
  planesCount := 1
  format := .gray8
  memory := .userptr

/-- The huge image is accepted, since its number of bytes is a multiple of `2 ^ 64`. -/
theorem hugeSource_accepted :
    verifyImageProperties (some hugeSource) = .ok () ∧
      ¬ (fullSampling 1).Fits hugeSource.width.toNat hugeSource.height.toNat
        (hugeSource.plane 0).bytesperline.toNat (hugeSource.plane 0).bytesused.toNat := by
  refine ⟨by decide +kernel, fun hfits => ?_⟩
  exact absurd hfits.plane (by decide)

/-- A well-formed image whose pointers are all there is one that seems well formed. -/
theorem DspImageProperties.WellFormed.seemsWellFormed {image : DspImageProperties} (h : image.WellFormed)
    (hknown : image.format.layouts ≠ []) (hplanes : image.planes ≠ none)
    (huserptr : ∀ j < image.planesCount.toNat, (image.plane j).userptr ≠ 0) : image.SeemsWellFormed where
  planes_ne := hplanes
  known := hknown
  userptr_ne := huserptr
  width_ne := h.width_ne
  height_ne := h.height_ne
  count := h.count
  even := h.even
  plane j s hs := ⟨.inl (h.plane j s hs).line, .inl (h.plane j s hs).plane⟩

/-- A well-formed image is accepted, whatever its sizes. -/
theorem verifyImageProperties_of_wellFormed {image : DspImageProperties} (h : image.WellFormed)
    (hknown : image.format.layouts ≠ []) (hplanes : image.planes ≠ none)
    (huserptr : ∀ j < image.planesCount.toNat, (image.plane j).userptr ≠ 0) :
    verifyImageProperties (some image) = .ok () := by
  refine (verifyImageProperties_ok_iff_seemsWellFormed image).mpr ?_
  exact h.seemsWellFormed hknown hplanes huserptr

/-- The small image is one of them. -/
theorem verifyImageProperties_of_wellFormed_smallImage :
    verifyImageProperties (some (smallImage .nv12)) = .ok () :=
  verifyImageProperties_of_wellFormed
    ((smallImage_accepted (by decide)).wellFormed (smallImage_below32 .nv12))
    (by decide) (by simp [smallImage]) fun j _ => show (4096 : UInt64) ≠ 0 by decide

end HailoDsp
