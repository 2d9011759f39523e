import HailoDsp.Geometry
import HailoDsp.Message

/-!
# What narrowing does to the geometry

The validators work on 64-bit sizes, but the converter and the buffer list keep the low 32 bits
of each of them, without a look at the rest. The geometry survives exactly when those low bits
still satisfy its inequalities, as they do whenever the planes are smaller than `2 ^ 32` bytes.
-/

namespace HailoDsp

open SampledPlane

/-- Plane `j` of an image on the wire. -/
def ImageProperties.plane (image : ImageProperties) (j : ℕ) : DataPlane := (image.planes[j]?).getD default

/-- An image on the wire that is well formed when its fields are read as integers. -/
def ImageProperties.WellFormed (image : ImageProperties) : Prop :=
  ∃ format, DspImageFormat.ofCode image.format = some format ∧
    WellFormedGeometry format image.width.toNat image.height.toNat image.planesCount.toNat
      (fun j => (image.plane j).lineStride.toNat) (fun j => (image.plane j).planeSize.toNat)

/-- The buffer that `BufferList::add_plane` appends has room for the lines of the plane on the wire. -/
def EntriesFit (image : DspImageProperties) (wire : ImageProperties) (accessType : BufferAccessType) :
    Prop :=
  ∀ j (s : Sampling), image.format.samplings[j]? = some s → ∀ list : BufferList,
    ∃ entry, (list.addPlane (image.plane j) accessType image.memory).1.buffers.getLast? = some entry ∧
      (wire.plane j).lineStride.toNat * wire.height.toNat ≤ entry.size.toNat * s.heightRatio

/-- The low 32 bits of the sizes of an image satisfy the inequalities of its format. -/
structure LowBitsFit (image : DspImageProperties) : Prop where
  width_ne : image.width.toNat % 2 ^ 32 ≠ 0
  height_ne : image.height.toNat % 2 ^ 32 ≠ 0
  plane : ∀ j (s : Sampling), image.format.samplings[j]? = some s →
    s.Fits (image.width.toNat % 2 ^ 32) (image.height.toNat % 2 ^ 32)
      ((image.plane j).bytesperline.toNat % 2 ^ 32) ((image.plane j).bytesused.toNat % 2 ^ 32)

/-- A plane of a converted image has the low bits of its sizes. -/
theorem plane_convertedImage {image : DspImageProperties} (h : Convertible image)
    (dst : ImageProperties) {j : ℕ} (hj : j < image.planesCount.toNat) :
    ((convertedImage image dst).plane j).lineStride = (image.plane j).bytesperline.toUInt32 ∧
      ((convertedImage image dst).plane j).planeSize = (image.plane j).bytesused.toUInt32 := by
  have hj4 : j < maxPlanes := hj.trans_le h.planesCount_le
  have hplane : (convertedImage image dst).plane j = convertPlane (image.plane j) dst.planes[j] := by
    simp only [ImageProperties.plane, convertedImage, Vector.getElem?_eq_getElem hj4, Option.getD_some]
    rw [getElem_updatePrefix _ _ _ hj4, if_pos hj]
  rw [hplane]
  exact ⟨rfl, rfl⟩

/-- What is left of the geometry of a well-formed image on the wire and in the buffer list is
well formed exactly when the low bits fit. -/
theorem narrowed_wellFormed_iff_lowBitsFit {image : DspImageProperties} (hexact : image.WellFormed)
    (hverify : verifyImageProperties (some image) = .ok ()) (dst : ImageProperties)
    (accessType : BufferAccessType) :
    ∃ wire, convertImage (some image) dst = .ok wire ∧
      (wire.WellFormed ∧ EntriesFit image wire accessType ↔ LowBitsFit image) := by
  obtain ⟨_, himage, haccepted⟩ := (verifyImageProperties_ok_iff _).mp hverify
  cases himage
  have hconvertible := haccepted.convertible
  have hformat : DspImageFormat.ofCode (convertedImage image dst).format = some image.format :=
    DspImageFormat.ofCode_value hconvertible.known
  have hwidth : (convertedImage image dst).width.toNat = image.width.toNat % 2 ^ 32 :=
    UInt64.toNat_toUInt32 _
  have hheight : (convertedImage image dst).height.toNat = image.height.toNat % 2 ^ 32 :=
    UInt64.toNat_toUInt32 _
  have hplane (j : ℕ) (s : Sampling) (hs : image.format.samplings[j]? = some s) :
      ((convertedImage image dst).plane j).lineStride.toNat = (image.plane j).bytesperline.toNat % 2 ^ 32 ∧
        ((convertedImage image dst).plane j).planeSize.toNat =
        (image.plane j).bytesused.toNat % 2 ^ 32 := by
    obtain ⟨hj, -⟩ := List.getElem?_eq_some_iff.mp hs
    obtain ⟨hstride, hsize⟩ := plane_convertedImage hconvertible dst (j := j)
      (by rwa [hconvertible.toNat_planesCount, ← DspImageFormat.length_samplings])
    rw [hstride, hsize]
    exact ⟨UInt64.toNat_toUInt32 _, UInt64.toNat_toUInt32 _⟩
  refine ⟨convertedImage image dst, convertImage_eq hconvertible dst, ?_, ?_⟩
  · rintro ⟨⟨format, hcode, hwire⟩, -⟩
    cases hformat.symm.trans hcode
    refine ⟨hwidth ▸ hwire.width_ne, hheight ▸ hwire.height_ne, fun j s hs => ?_⟩
    obtain ⟨hstride, hsize⟩ := hplane j s hs
    rw [← hwidth, ← hheight, ← hstride, ← hsize]
    exact hwire.plane j s hs
  · intro hlow
    refine ⟨⟨image.format, hformat, hwidth ▸ hlow.width_ne, hheight ▸ hlow.height_ne, ?_, ?_, ?_⟩, ?_⟩
    · rw [← hexact.count]
      exact hconvertible.toNat_toUInt32_planesCount
    · intro hyuv
      obtain ⟨hw, hh⟩ := hexact.even hyuv
      rw [hwidth, hheight]
      omega
    · intro j s hs
      obtain ⟨hstride, hsize⟩ := hplane j s hs
      rw [hwidth, hheight, hstride, hsize]
      exact hlow.plane j s hs
    · intro j s hs list
      refine ⟨_, list.getLast?_addPlane _ accessType image.memory, ?_⟩
      rw [(hplane j s hs).1, hheight]
      simp only [planeBuffer, UInt64.toNat_toUInt32]
      exact (hlow.plane j s hs).plane

/-- The small image on the wire. -/
theorem narrowed_wellFormed_iff_lowBitsFit_smallImage :
    ∃ wire, convertImage (some (smallImage .nv12)) default = .ok wire ∧
      (wire.WellFormed ∧ EntriesFit (smallImage .nv12) wire .read ↔ LowBitsFit (smallImage .nv12)) := by
  have haccepted : ImageAccepted (smallImage .nv12) := smallImage_accepted (by decide)
  exact narrowed_wellFormed_iff_lowBitsFit (haccepted.wellFormed (smallImage_below32 .nv12))
    ((verifyImageProperties_ok_iff _).mpr ⟨_, rfl, haccepted⟩) default .read

/-- An image of `65536` by `65536` pixels, whose only plane has exactly `2 ^ 32` bytes. -/
def fullSource : DspImageProperties where
  width := 65536
  height := 65536
  planes := some fun _ => ⟨4096, 65536, 4294967296⟩
  planesCount := 1
  format := .gray8
  memory := .userptr

/-- The plane of that image has no bytes left on the wire. -/
theorem fullSource_not_wellFormed :
    fullSource.WellFormed ∧ verifyImageProperties (some fullSource) = .ok () ∧
      ∃ wire, convertImage (some fullSource) default = .ok wire ∧ (wire.plane 0).planeSize = 0 ∧
      ¬ wire.WellFormed := by
  have hverify : verifyImageProperties (some fullSource) = .ok () := by decide +kernel
  obtain ⟨_, himage, haccepted⟩ := (verifyImageProperties_ok_iff _).mp hverify
  cases himage
  refine ⟨⟨by decide, by decide, rfl, by rintro ⟨⟩, ?_⟩, hverify, convertedImage fullSource default,
    convertImage_eq haccepted.convertible _, rfl, ?_⟩
  · intro j s hs
    rcases j with _ | j
    · cases hs
      exact ⟨by decide, by decide⟩
    · cases hs
  · rintro ⟨format, hcode, hwire⟩
    cases hcode
    exact absurd (hwire.plane 0 _ rfl).plane (by decide)

/-- An image whose planes are smaller than `2 ^ 32` bytes has only 32-bit sizes. -/
theorem below32_of_sizes {image : DspImageProperties} (hknown : image.format.layouts ≠ [])
    (hexact : image.WellFormed)
    (hsize : ∀ j < image.planesCount.toNat, (image.plane j).bytesused.toNat < 2 ^ 32) : image.Below32 := by
  have hstride (j : ℕ) (s : Sampling) (hs : image.format.samplings[j]? = some s) :
      (image.plane j).bytesperline.toNat ≤ (image.plane j).bytesused.toNat :=
    (hexact.plane j s hs).stride_le_size (hexact.ratios_dvd (List.mem_of_getElem? hs)).2 hexact.height_ne
  obtain ⟨s, hs, hw, hh⟩ := DspImageFormat.exists_first_sampling hknown
  have hfits := hexact.plane 0 s hs
  have hline := hfits.line
  have hplane := hfits.plane
  rw [hw, Nat.mul_one] at hline
  rw [hh, Nat.mul_one] at hplane
  have hpos : 0 < image.planesCount.toNat := by
    rw [hexact.count]
    exact (List.getElem?_eq_some_iff.mp hs).1
  have hfirst := hsize 0 hpos
  have hfirstStride := hstride 0 s hs
  have hwidth : image.width.toNat ≤ (image.plane 0).bytesperline.toNat :=
    (Nat.le_mul_of_pos_right _ s.bytes_pos).trans hline
  have hheight : image.height.toNat ≤ (image.plane 0).bytesused.toNat := by
    refine le_trans (Nat.le_mul_of_pos_left _ ?_) hplane
    exact (Nat.pos_of_ne_zero hexact.width_ne).trans_le hwidth
  refine ⟨by omega, by omega, fun j hj => ?_, hsize⟩
  have hjs : j < image.format.samplings.length := by rwa [← hexact.count]
  exact (hstride j _ (List.getElem?_eq_getElem hjs)).trans_lt (hsize j hj)

/-- The low bits fit whenever the planes are smaller than `2 ^ 32` bytes. -/
theorem lowBitsFit_of_sizes {image : DspImageProperties} (hknown : image.format.layouts ≠ [])
    (hexact : image.WellFormed)
    (hsize : ∀ j < image.planesCount.toNat, (image.plane j).bytesused.toNat < 2 ^ 32) :
    LowBitsFit image := by
  have hbelow := below32_of_sizes hknown hexact hsize
  refine ⟨?_, ?_, fun j s hs => ?_⟩
  · rw [Nat.mod_eq_of_lt hbelow.width_lt]
    exact hexact.width_ne
  · rw [Nat.mod_eq_of_lt hbelow.height_lt]
    exact hexact.height_ne
  · have hj : j < image.planesCount.toNat := by
      rw [hexact.count]
      exact (List.getElem?_eq_some_iff.mp hs).1
    rw [Nat.mod_eq_of_lt hbelow.width_lt, Nat.mod_eq_of_lt hbelow.height_lt,
      Nat.mod_eq_of_lt (hbelow.stride_lt j hj), Nat.mod_eq_of_lt (hbelow.size_lt j hj)]
    exact hexact.plane j s hs

end HailoDsp
