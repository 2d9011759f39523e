import HailoDsp.Machine
import HailoDsp.Wire

/-!
# Validating and converting images

The functions of `image_utils.cpp`. The validator of a format checks the number of planes and
then each plane with the sample size and the two subsampling ratios of that plane; the
converter narrows every 64-bit field to the 32 bits of the request block.
-/

namespace HailoDsp

open EarlyExit

/-- The table of `convert_image_format`, indexed by the public enumerator. -/
def formatConvert : List DspInterfaceImageFormat := [.gray8, .rgb, .nv12, .a420]

/-- `convert_image_format` -/
def convertImageFormat (format : DspImageFormat) : Call DspInterfaceImageFormat :=
  match formatConvert[format.value]? with
  | none => .error invalidArgument
  | some interfaceFormat => .ok interfaceFormat

/-- The part of `convert_image` that writes one plane; the buffer index is left as it is. -/
def convertPlane (plane : DspDataPlane) (dst : DataPlane) : DataPlane :=
  { dst with lineStride := plane.bytesperline.toUInt32, planeSize := plane.bytesused.toUInt32 }

/-- `convert_image`, returning what it has made of `img_dst`. -/
def convertImage (imgSrc : Ptr DspImageProperties) (imgDst : ImageProperties) : Call ImageProperties := do
  let src ← deref imgSrc
  rejectIf (UInt64.ofNat maxPlanes < src.planesCount)
  let format ← convertImageFormat src.format
  let imgDst := { imgDst with
    format := format.code
    width := src.width.toUInt32
    height := src.height.toUInt32
    planesCount := src.planesCount.toUInt32 }
  forRange src.planesCount.toNat (fun i imgDst => do
    let plane ← deref (src.planes.elem i)
    let planes ← writeAt imgDst.planes i (convertPlane plane)
    return { imgDst with planes }) imgDst

/-- `verify_plane` -/
def verifyPlane (image : DspImageProperties) (plane : Ptr DspDataPlane)
    (bytesPerPixel widthRatio heightRatio : UInt64) : Call Unit := do
  rejectIf (plane = none)
  let plane ← deref plane
  rejectIf (plane.userptr = 0)
  let lineStride := plane.bytesperline
  rejectIf (toDouble lineStride <
    ceilOf (divDouble (toDouble (image.width * bytesPerPixel)) (toDouble widthRatio)))
  rejectIf (toDouble plane.bytesused <
    ceilOf (divDouble (toDouble (lineStride * image.height)) (toDouble heightRatio)))

/-- `verify_yuv420_image` -/
def verifyYuv420Image (image : DspImageProperties) : Call Unit :=
  rejectIf (image.width % 2 ≠ 0 ∨ image.height % 2 ≠ 0)

/-- The last three arguments of a call of `verify_plane` that precede the plane index. -/
structure PlaneLayout where
  bytesPerPixel : UInt64
  widthRatio : UInt64
  heightRatio : UInt64
  deriving DecidableEq, Repr

/-- The calls of `verify_plane` for consecutive planes, starting at plane `i`. -/
def verifyPlanes (image : DspImageProperties) : ℕ → List PlaneLayout → Call Unit
  | _, [] => .ok ()
  | i, layout :: rest => do
    verifyPlane image (image.planes.elem i) layout.bytesPerPixel layout.widthRatio layout.heightRatio
    verifyPlanes image (i + 1) rest

/-- The shape that the validators of the four formats share. -/
def verifyFormat (image : DspImageProperties) (yuv420 : Bool) (layouts : List PlaneLayout) : Call Unit := do
  rejectIf (image.planesCount ≠ UInt64.ofNat layouts.length)
  cond yuv420 (verifyYuv420Image image) (.ok ())
  verifyPlanes image 0 layouts

/-- `verify_gray8_image` -/
def verifyGray8Image (image : DspImageProperties) : Call Unit :=
  verifyFormat image false [⟨1, 1, 1⟩]

/-- `verify_rgb_image` -/
def verifyRgbImage (image : DspImageProperties) : Call Unit :=
  verifyFormat image false [⟨3, 1, 1⟩]

/-- `verify_nv12_image` -/
def verifyNv12Image (image : DspImageProperties) : Call Unit :=
  verifyFormat image true [⟨1, 1, 1⟩, ⟨2, 2, 2⟩]

/-- `verify_a420_image` -/
def verifyA420Image (image : DspImageProperties) : Call Unit :=
  verifyFormat image true [⟨1, 1, 1⟩, ⟨1, 2, 2⟩, ⟨1, 2, 2⟩, ⟨1, 1, 1⟩]

/-- `verify_image_properties` -/
def verifyImageProperties (image : Ptr DspImageProperties) : Call Unit := do
  rejectIf (image = none)
  let image ← deref image
  rejectIf (image.width = 0)
  rejectIf (image.height = 0)
  rejectIf (image.planes = none)
  match image.format with
  | .gray8 => verifyGray8Image image
  | .rgb => verifyRgbImage image
  | .nv12 => verifyNv12Image image
  | .a420 => verifyA420Image image
  | .other _ => .error invalidArgument

/-- The checks that `verify_crop_params` and `verify_roi_params` both make, in this order. -/
def verifyRegion (image : Ptr DspImageProperties) (region : Ptr DspRoi) : Call Unit := do
  rejectIf (image = none ∨ region = none)
  let image ← deref image
  let region ← deref region
  rejectIf (region.startX ≥ region.endX)
  rejectIf (region.startY ≥ region.endY)
  rejectIf (region.endX > image.width)
  rejectIf (region.endY > image.height)

/-- A plane that passes `verify_plane`. -/
structure PlaneAccepted (image : DspImageProperties) (plane : DspDataPlane) (layout : PlaneLayout) :
    Prop where
  userptr_ne : plane.userptr ≠ 0
  stride : ceilOf (divDouble (toDouble (image.width * layout.bytesPerPixel)) (toDouble layout.widthRatio)) ≤
    toDouble plane.bytesperline
  size : ceilOf (divDouble (toDouble (plane.bytesperline * image.height)) (toDouble layout.heightRatio)) ≤
    toDouble plane.bytesused

/-- `verify_plane` accepts a plane exactly when its pointer and both sizes are as they should be. -/
theorem verifyPlane_ok_iff (image : DspImageProperties) (plane : DspDataPlane) (layout : PlaneLayout) :
    verifyPlane image (some plane) layout.bytesPerPixel layout.widthRatio layout.heightRatio = .ok () ↔
      PlaneAccepted image plane layout := by
  simp only [verifyPlane, bind_eq_ok, exitIf_eq_ok, readThrough_eq_ok, exists_const, Option.some.injEq,
    reduceCtorEq, not_false_eq_true, true_and, exists_eq_left', not_lt]
  constructor
  · rintro ⟨h, hs, hz⟩
    exact ⟨h, hs, hz⟩
  · intro h
    exact ⟨h.userptr_ne, h.stride, h.size⟩

/-- A plane is either accepted or rejected as an invalid argument. -/
theorem verifyPlane_stops (image : DspImageProperties) (plane : Ptr DspDataPlane)
    (bytesPerPixel widthRatio heightRatio : UInt64) :
    StopsOnlyWith invalidArgument (verifyPlane image plane bytesPerPixel widthRatio heightRatio) := by
  refine .exitIf_bind fun hplane => ?_
  obtain ⟨p, rfl⟩ := Option.ne_none_iff_exists'.mp hplane
  exact .exitIf_bind fun _ => .exitIf_bind fun _ => .exitIf _ _

/-- The planes of a format, with the arguments with which its validator calls `verify_plane`. -/
def DspImageFormat.layouts : DspImageFormat → List PlaneLayout
  | gray8 => [⟨1, 1, 1⟩]
  | rgb => [⟨3, 1, 1⟩]
  | nv12 => [⟨1, 1, 1⟩, ⟨2, 2, 2⟩]
  | a420 => [⟨1, 1, 1⟩, ⟨1, 2, 2⟩, ⟨1, 2, 2⟩, ⟨1, 1, 1⟩]
  | other _ => []

/-- The formats whose validator calls `verify_yuv420_image`. -/
def DspImageFormat.yuv420 : DspImageFormat → Bool
  | nv12 | a420 => true
  | _ => false

/-- An image that passes `verify_image_properties`. -/
structure ImageAccepted (image : DspImageProperties) : Prop where
  width_ne : image.width ≠ 0
  height_ne : image.height ≠ 0
  planes_ne : image.planes ≠ none
  known : image.format.layouts ≠ []
  count : image.planesCount = UInt64.ofNat image.format.layouts.length
  even : image.format.yuv420 = true → image.width % 2 = 0 ∧ image.height % 2 = 0
  plane : ∀ j (hj : j < image.format.layouts.length),
    PlaneAccepted image (image.plane j) image.format.layouts[j]

/-- The calls of `verify_plane` accept exactly the planes they are about. -/
theorem verifyPlanes_ok_iff {image : DspImageProperties} (hplanes : image.planes ≠ none) (i : ℕ)
    (layouts : List PlaneLayout) :
    verifyPlanes image i layouts = .ok () ↔
      ∀ j (hj : j < layouts.length), PlaneAccepted image (image.plane (i + j)) layouts[j] := by
  induction layouts generalizing i with
  | nil => simp [verifyPlanes]
  | cons layout rest ih =>
    simp only [verifyPlanes, unit_bind_eq_ok, image.elem_planes hplanes, ih, verifyPlane_ok_iff]
    constructor
    · rintro ⟨hfirst, hrest⟩ j hj
      cases j with
      | zero => exact hfirst
      | succ j =>
        have := hrest j (by simpa using hj)
        rwa [show i + 1 + j = i + (j + 1) by omega] at this
    · intro h
      refine ⟨h 0 (by simp), fun j hj => ?_⟩
      have := h (j + 1) (by simpa using hj)
      rwa [show i + (j + 1) = i + 1 + j by omega] at this

/-- The calls of `verify_plane` only stop with an invalid argument. -/
theorem verifyPlanes_stops (image : DspImageProperties) (i : ℕ) (layouts : List PlaneLayout) :
    StopsOnlyWith invalidArgument (verifyPlanes image i layouts) := by
  induction layouts generalizing i with
  | nil => exact .of_ok rfl
  | cons layout rest ih => exact (verifyPlane_stops image _ _ _ _).bind fun _ _ => ih (i + 1)

/-- What one of the four validators accepts. -/
theorem verifyFormat_ok_iff {image : DspImageProperties} (hplanes : image.planes ≠ none)
    (yuv420 : Bool) (layouts : List PlaneLayout) :
    verifyFormat image yuv420 layouts = .ok () ↔
      image.planesCount = UInt64.ofNat layouts.length ∧
      (yuv420 = true → image.width % 2 = 0 ∧ image.height % 2 = 0) ∧
      ∀ j (hj : j < layouts.length), PlaneAccepted image (image.plane j) layouts[j] := by
  have hparity : cond yuv420 (verifyYuv420Image image) (.ok ()) = .ok () ↔
      (yuv420 = true → image.width % 2 = 0 ∧ image.height % 2 = 0) := by
    cases yuv420 <;> simp [verifyYuv420Image, not_or]
  simp only [verifyFormat, unit_bind_eq_ok, exitIf_eq_ok, hparity,
    verifyPlanes_ok_iff hplanes, zero_add, ne_eq, not_not]

/-- A format's validator only stops with an invalid argument. -/
theorem verifyFormat_stops (image : DspImageProperties) (yuv420 : Bool) (layouts : List PlaneLayout) :
    StopsOnlyWith invalidArgument (verifyFormat image yuv420 layouts) := by
  refine .exitIf_bind fun _ => StopsOnlyWith.bind ?_ fun _ _ => verifyPlanes_stops image 0 layouts
  cases yuv420 with
  | false => exact .of_ok rfl
  | true => exact .exitIf _ _

/-- The dispatch on the format is the shared validator at the format's own planes. -/
theorem verifyImageProperties_eq (image : DspImageProperties) :
    verifyImageProperties (some image) = (do
      rejectIf (image.width = 0)
      rejectIf (image.height = 0)
      rejectIf (image.planes = none)
      rejectIf (image.format.layouts = [])
      verifyFormat image image.format.yuv420 image.format.layouts) := by
  obtain ⟨_, _, _, _, format, _⟩ := image
  cases format <;> rfl

/-- `verify_image_properties` accepts exactly the images described by `ImageAccepted`. -/
theorem verifyImageProperties_ok_iff (p : Ptr DspImageProperties) :
    verifyImageProperties p = .ok () ↔ ∃ image, p = some image ∧ ImageAccepted image := by
  cases p with
  | none => simp [verifyImageProperties, exitIf, bind, Except.bind]
  | some image =>
    simp only [verifyImageProperties_eq, unit_bind_eq_ok, exitIf_eq_ok, Option.some.injEq,
      exists_eq_left']
    constructor
    · rintro ⟨hw, hh, hp, hk, hformat⟩
      obtain ⟨hcount, heven, hplane⟩ := (verifyFormat_ok_iff hp _ _).mp hformat
      exact ⟨hw, hh, hp, hk, hcount, heven, hplane⟩
    · intro h
      exact ⟨h.width_ne, h.height_ne, h.planes_ne, h.known,
        (verifyFormat_ok_iff h.planes_ne _ _).mpr ⟨h.count, h.even, h.plane⟩⟩

/-- `verify_image_properties` follows no NULL pointer and has one error status. -/
theorem verifyImageProperties_stops (p : Ptr DspImageProperties) :
    StopsOnlyWith invalidArgument (verifyImageProperties p) := by
  cases p with
  | none => exact .exitIf_bind fun h => absurd rfl h
  | some image =>
    rw [verifyImageProperties_eq]
    exact .exitIf_bind fun _ => .exitIf_bind fun _ => .exitIf_bind fun _ => .exitIf_bind fun _ =>
      verifyFormat_stops image _ _

/-- An image of four by four pixels in user memory, with more room than any format needs. -/
def smallImage (format : DspImageFormat) : DspImageProperties where
  width := 4
  height := 4
  planes := some fun _ => ⟨4096, 16, 64⟩
  planesCount := UInt64.ofNat format.layouts.length
  format := format
  memory := .userptr

/-- The small image is valid in every known format. -/
theorem smallImage_accepted {format : DspImageFormat} (h : format.layouts ≠ []) :
    ImageAccepted (smallImage format) := by
  have hverify : verifyImageProperties (some (smallImage format)) = .ok () := by
    cases format with
    | other n => exact absurd rfl h
    | _ => decide +kernel
  obtain ⟨image, himage, haccepted⟩ := (verifyImageProperties_ok_iff _).mp hverify
  cases himage
  exact haccepted

/-- A nonempty region inside the image. -/
structure RegionAccepted (image : DspImageProperties) (region : DspRoi) : Prop where
  startX_lt : region.startX < region.endX
  startY_lt : region.startY < region.endY
  endX_le : region.endX ≤ image.width
  endY_le : region.endY ≤ image.height

/-- The region checks accept exactly the nonempty regions inside the image. -/
theorem verifyRegion_ok_iff (image : Ptr DspImageProperties) (region : Ptr DspRoi) :
    verifyRegion image region = .ok () ↔
      ∃ i r, image = some i ∧ region = some r ∧ RegionAccepted i r := by
  constructor
  · intro h
    simp only [verifyRegion, bind_eq_ok, exitIf_eq_ok, readThrough_eq_ok, exists_const] at h
    obtain ⟨-, i, hi, r, hr, hx, hy, hw, hh⟩ := h
    exact ⟨i, r, hi, hr, by simpa using hx, by simpa using hy, by simpa using hw, by simpa using hh⟩
  · rintro ⟨i, r, rfl, rfl, h⟩
    simp only [verifyRegion, bind_eq_ok, exitIf_eq_ok, readThrough_some, exists_const, Except.ok.injEq,
      exists_eq_left']
    exact ⟨by simp, by simpa using h.startX_lt, by simpa using h.startY_lt, by simpa using h.endX_le,
      by simpa using h.endY_le⟩

/-- The region checks follow no NULL pointer and have one error status. -/
theorem verifyRegion_stops (image : Ptr DspImageProperties) (region : Ptr DspRoi) :
    StopsOnlyWith invalidArgument (verifyRegion image region) := by
  refine .exitIf_bind fun h => ?_
  obtain ⟨hi, hr⟩ := not_or.mp h
  obtain ⟨i, rfl⟩ := Option.ne_none_iff_exists'.mp hi
  obtain ⟨r, rfl⟩ := Option.ne_none_iff_exists'.mp hr
  exact .exitIf_bind fun _ => .exitIf_bind fun _ => .exitIf_bind fun _ => .exitIf _ _

end HailoDsp
