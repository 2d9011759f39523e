import HailoDsp.Marshalling

/-!
# Resizing, with or without a crop

`dsp_crop_and_resize_perf` and `dsp_resize_perf`. A crop is validated on a copy of the source
that has the size of the crop rectangle, while the source itself goes on the wire.
-/

namespace HailoDsp

open EarlyExit

/-- `verify_crop_params` -/
def verifyCropParams (image : Ptr DspImageProperties) (cropParams : Ptr DspRoi) : Call Unit :=
  verifyRegion image cropParams

/-- The source as the crop makes it: the same planes with the size of the crop rectangle. -/
def croppedSrc (src : DspImageProperties) (cropParams : DspRoi) : DspImageProperties :=
  { src with
    width := cropParams.endX - cropParams.startX
    height := cropParams.endY - cropParams.startY }

/-- `dsp_crop_and_resize_perf` -/
def dspCropAndResizePerf (device : Ptr DspDevice) (resizeParams : Ptr DspResizeParams)
    (cropParams : Ptr DspRoi) (inData : ImagingRequest) : Call Submission := do
  rejectIf (device = none ∨ resizeParams = none)
  let params ← deref resizeParams
  verifyCropParams params.src cropParams
  let src ← deref params.src
  let crop ← deref cropParams
  verifyImageProperties (some (croppedSrc src crop))
  verifyImageProperties params.dst
  rejectIf (params.interpolation.value ≥ interpolationTypeCount)
  let dst ← deref params.dst
  rejectIf (src.format ≠ dst.format)
  rejectIf (src.format ≠ .gray8 ∧ src.format ≠ .rgb ∧ src.format ≠ .nv12)
  rejectIf (params.interpolation = .area ∧
    ((croppedSrc src crop).width < dst.width ∨ (croppedSrc src crop).height < dst.height))
  let inData := { inData with
    operation := ImagingOperation.cropAndResize.tag
    cropAndResizeArgs := { inData.cropAndResizeArgs with
      interpolation := UInt8.ofNat params.interpolation.value
      cropStartX := crop.startX.toUInt32
      cropStartY := crop.startY.toUInt32
      cropEndX := crop.endX.toUInt32
      cropEndY := crop.endY.toUInt32 } }
  sendCommandImages device [⟨params.src, .cropSrc, .read⟩, ⟨params.dst, .cropDst, .write⟩] inData

/-- `dsp_resize_perf` -/
def dspResizePerf (device : Ptr DspDevice) (resizeParams : Ptr DspResizeParams)
    (inData : ImagingRequest) : Call Submission := do
  rejectIf (resizeParams = none)
  let params ← deref resizeParams
  rejectIf (params.src = none)
  let src ← deref params.src
  dspCropAndResizePerf device resizeParams (some ⟨0, 0, src.width, src.height⟩) inData

/-- The values of a request that passes every check of `dsp_crop_and_resize_perf`. -/
structure CropAndResizeAccepted (src dst : DspImageProperties) (crop : DspRoi)
    (interpolation : DspInterpolationType) : Prop where
  region : RegionAccepted src crop
  source : ImageAccepted (croppedSrc src crop)
  target : ImageAccepted dst
  interpolation_lt : interpolation.value < interpolationTypeCount
  format_eq : src.format = dst.format
  supported : src.format = .gray8 ∨ src.format = .rgb ∨ src.format = .nv12
  area : interpolation = .area →
    dst.width ≤ crop.endX - crop.startX ∧ dst.height ≤ crop.endY - crop.startY

/-- The request block of a single resize before its images are added. -/
def cropAndResizeArguments (crop : DspRoi) (interpolation : DspInterpolationType)
    (inData : ImagingRequest) :
    ImagingRequest :=
  { inData with
    operation := ImagingOperation.cropAndResize.tag
    cropAndResizeArgs := { inData.cropAndResizeArgs with
      interpolation := UInt8.ofNat interpolation.value
      cropStartX := crop.startX.toUInt32
      cropStartY := crop.startY.toUInt32
      cropEndX := crop.endX.toUInt32
      cropEndY := crop.endY.toUInt32 } }

/-- The images of a single resize. -/
def cropAndResizeCommands (src dst : Ptr DspImageProperties) : List CommandImage :=
  [⟨src, .cropSrc, .read⟩, ⟨dst, .cropDst, .write⟩]

/-- The converter does not look at the size, so a source is convertible when its crop is. -/
theorem ImageAccepted.ready_of_cropped {src : DspImageProperties} {crop : DspRoi}
    (h : ImageAccepted (croppedSrc src crop)) (slot : ImageSlot) (accessType : BufferAccessType) :
    CommandImage.Ready ⟨some src, slot, accessType⟩ := ⟨rfl, h.planes_ne, h.known, h.count⟩

/-- The images of a resize reach the driver when the cropped source and the destination are accepted. -/
theorem sendCropAndResize_eq {src dst : DspImageProperties} {crop : DspRoi}
    (hsrc : ImageAccepted (croppedSrc src crop)) (hdst : ImageAccepted dst) (device : DspDevice)
    (request : ImagingRequest) :
    ∃ after, sendCommandImages (some device) (cropAndResizeCommands (some src) (some dst)) request =
        .ok ⟨device.fd, after, ⟨(cropAndResizeCommands (some src) (some dst)).flatMap
          CommandImage.planeBuffers⟩⟩ ∧
      Marshalled (cropAndResizeCommands (some src) (some dst)) 0 request after :=
  sendCommandImages_eq _
    (by simpa [cropAndResizeCommands] using ⟨hsrc.ready_of_cropped _ _, hdst.ready _ _⟩)
    (by simp [cropAndResizeCommands]) device request

/-- A request that passes every check reaches the driver. -/
theorem dspCropAndResizePerf_finishes {src dst : DspImageProperties} {crop : DspRoi}
    {interpolation : DspInterpolationType} (h : CropAndResizeAccepted src dst crop interpolation)
    (device : DspDevice) (inData : ImagingRequest) :
    ∃ after, dspCropAndResizePerf (some device) (some ⟨some src, some dst, interpolation⟩)
      (some crop) inData =
        .ok ⟨device.fd, after, ⟨(cropAndResizeCommands (some src) (some dst)).flatMap
          CommandImage.planeBuffers⟩⟩ ∧
      Marshalled (cropAndResizeCommands (some src) (some dst)) 0
        (cropAndResizeArguments crop interpolation inData) after := by
  obtain ⟨after, hsend, hmarshalled⟩ := sendCropAndResize_eq h.source h.target device
    (cropAndResizeArguments crop interpolation inData)
  refine ⟨after, ?_, hmarshalled⟩
  have hcrop : verifyCropParams (some src) (some crop) = .ok () :=
    (verifyRegion_ok_iff _ _).mpr ⟨src, crop, rfl, rfl, h.region⟩
  have hsupported : ¬ (src.format ≠ .gray8 ∧ src.format ≠ .rgb ∧ src.format ≠ .nv12) := by
    have := h.supported
    tauto
  have harea : ¬ (interpolation = .area ∧
      ((croppedSrc src crop).width < dst.width ∨ (croppedSrc src crop).height < dst.height)) := by
    rintro ⟨hi, hsmall⟩
    obtain ⟨hw, hh⟩ := h.area hi
    rcases hsmall with hlt | hlt
    · exact UInt64.not_lt.mpr hw hlt
    · exact UInt64.not_lt.mpr hh hlt
  rw [dspCropAndResizePerf, rejectIf_of_not (by simp), ok_bind, deref_some, ok_bind, hcrop,
    ok_bind, deref_some,
    ok_bind, deref_some, ok_bind, (verifyImageProperties_ok_iff _).mpr ⟨_, rfl, h.source⟩, ok_bind,
    (verifyImageProperties_ok_iff _).mpr ⟨_, rfl, h.target⟩, ok_bind,
    rejectIf_of_not (Nat.not_le.mpr h.interpolation_lt), ok_bind, deref_some, ok_bind,
    rejectIf_of_not (not_not.mpr h.format_eq), ok_bind, rejectIf_of_not hsupported, ok_bind,
    rejectIf_of_not harea, ok_bind]
  exact hsend

/-- What reaches the driver has passed every check. -/
theorem dspCropAndResizePerf_accepted {device : Ptr DspDevice} {resizeParams : Ptr DspResizeParams}
    {cropParams : Ptr DspRoi} {inData : ImagingRequest} {submission : Submission}
    (h : dspCropAndResizePerf device resizeParams cropParams inData = .ok submission) :
    ∃ d p s t c, device = some d ∧ resizeParams = some p ∧ p.src = some s ∧ p.dst = some t ∧
    cropParams = some c ∧
      CropAndResizeAccepted s t c p.interpolation := by
  unfold dspCropAndResizePerf at h
  obtain ⟨hpointers, h⟩ := unit_bind_eq_ok.mp h
  obtain ⟨hdevice, hparams⟩ := not_or.mp (rejectIf_eq_ok.mp hpointers)
  obtain ⟨d, rfl⟩ := Option.ne_none_iff_exists'.mp hdevice
  obtain ⟨⟨src, dst, interpolation⟩, rfl⟩ := Option.ne_none_iff_exists'.mp hparams
  rw [deref_some, ok_bind] at h
  obtain ⟨hcrop, h⟩ := unit_bind_eq_ok.mp h
  obtain ⟨s, c, rfl, rfl, hregion⟩ := (verifyRegion_ok_iff _ _).mp hcrop
  rw [deref_some, ok_bind, deref_some, ok_bind] at h
  obtain ⟨hverifySrc, h⟩ := unit_bind_eq_ok.mp h
  obtain ⟨hverifyDst, h⟩ := unit_bind_eq_ok.mp h
  obtain ⟨hinterpolation, h⟩ := unit_bind_eq_ok.mp h
  obtain ⟨_, hsource, haccepted⟩ := (verifyImageProperties_ok_iff _).mp hverifySrc
  cases hsource
  obtain ⟨t, rfl, htarget⟩ := (verifyImageProperties_ok_iff _).mp hverifyDst
  rw [deref_some, ok_bind] at h
  obtain ⟨hformat, h⟩ := unit_bind_eq_ok.mp h
  obtain ⟨hsupported, h⟩ := unit_bind_eq_ok.mp h
  obtain ⟨harea, -⟩ := unit_bind_eq_ok.mp h
  refine ⟨d, _, s, t, c, rfl, rfl, rfl, rfl, rfl, hregion, haccepted, htarget,
    Nat.not_le.mp (rejectIf_eq_ok.mp hinterpolation), not_not.mp (rejectIf_eq_ok.mp hformat), ?_,
    fun hi => ?_⟩
  · have := rejectIf_eq_ok.mp hsupported
    tauto
  · obtain ⟨hw, hh⟩ := not_or.mp fun hsmall => rejectIf_eq_ok.mp harea ⟨hi, hsmall⟩
    exact ⟨UInt64.not_lt.mp hw, UInt64.not_lt.mp hh⟩

/-- The operation follows no NULL pointer, stays inside the request block and has one error status. -/
theorem dspCropAndResizePerf_stops (device : Ptr DspDevice) (resizeParams : Ptr DspResizeParams)
    (cropParams : Ptr DspRoi) (inData : ImagingRequest) :
    StopsOnlyWith invalidArgument (dspCropAndResizePerf device resizeParams cropParams inData) := by
  refine .exitIf_bind fun hpointers => ?_
  obtain ⟨hdevice, hparams⟩ := not_or.mp hpointers
  obtain ⟨d, rfl⟩ := Option.ne_none_iff_exists'.mp hdevice
  obtain ⟨⟨src, dst, interpolation⟩, rfl⟩ := Option.ne_none_iff_exists'.mp hparams
  refine (verifyRegion_stops src cropParams).bind fun _ hcrop => ?_
  obtain ⟨s, c, rfl, rfl, -⟩ := (verifyRegion_ok_iff _ _).mp hcrop
  refine (verifyImageProperties_stops _).bind fun _ hsource => (verifyImageProperties_stops dst).bind
    fun _ htarget => .exitIf_bind fun _ => ?_
  obtain ⟨_, hs, hsource⟩ := (verifyImageProperties_ok_iff _).mp hsource
  cases hs
  obtain ⟨t, rfl, hdst⟩ := (verifyImageProperties_ok_iff _).mp htarget
  refine .exitIf_bind fun _ => .exitIf_bind fun _ => .exitIf_bind fun _ => ?_
  obtain ⟨after, hsend, -⟩ :=
    sendCropAndResize_eq hsource hdst d (cropAndResizeArguments c interpolation inData)
  exact .of_ok hsend

/-- The whole image as a region. -/
def wholeImage (src : DspImageProperties) : DspRoi := ⟨0, 0, src.width, src.height⟩

/-- A resize is a crop of the whole image. -/
theorem dspResizePerf_eq (device : Ptr DspDevice) {params : DspResizeParams} {src : DspImageProperties}
    (h : params.src = some src) (inData : ImagingRequest) :
    dspResizePerf device (some params) inData =
      dspCropAndResizePerf device (some params) (some (wholeImage src)) inData := by
  rw [dspResizePerf, rejectIf_of_not (by simp), ok_bind, deref_some, ok_bind,
    rejectIf_of_not (by simp [h]), ok_bind, h, deref_some, ok_bind]
  rfl

/-- The parameters of a resize that reaches the driver are there. -/
theorem dspResizePerf_ok {device : Ptr DspDevice} {resizeParams : Ptr DspResizeParams}
    {inData : ImagingRequest} {submission : Submission}
    (h : dspResizePerf device resizeParams inData = .ok submission) :
    ∃ params src, resizeParams = some params ∧ params.src = some src := by
  unfold dspResizePerf at h
  obtain ⟨hparams, h⟩ := unit_bind_eq_ok.mp h
  obtain ⟨params, rfl⟩ := Option.ne_none_iff_exists'.mp (rejectIf_eq_ok.mp hparams)
  rw [deref_some, ok_bind] at h
  obtain ⟨hsrc, -⟩ := unit_bind_eq_ok.mp h
  obtain ⟨src, hsrc⟩ := Option.ne_none_iff_exists'.mp (rejectIf_eq_ok.mp hsrc)
  exact ⟨params, src, rfl, hsrc⟩

/-- The operation follows no NULL pointer, stays inside the request block and has one error status. -/
theorem dspResizePerf_stops (device : Ptr DspDevice) (resizeParams : Ptr DspResizeParams)
    (inData : ImagingRequest) : StopsOnlyWith invalidArgument
      (dspResizePerf device resizeParams inData) := by
  refine .exitIf_bind fun hparams => ?_
  obtain ⟨params, rfl⟩ := Option.ne_none_iff_exists'.mp hparams
  refine .exitIf_bind fun hsrc => ?_
  obtain ⟨src, hsrc⟩ := Option.ne_none_iff_exists'.mp hsrc
  rw [hsrc, deref_some, ok_bind]
  exact dspCropAndResizePerf_stops device (some params) (some (wholeImage src)) inData

end HailoDsp
