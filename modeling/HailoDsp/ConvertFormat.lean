import HailoDsp.Marshalling

/-!
# Converting between formats

`dsp_convert_format_perf`. It does not look at its image pointers itself; both go through
`verify_image_properties` before they are followed.
-/

namespace HailoDsp

open EarlyExit

/-- `dsp_convert_format_perf` -/
def dspConvertFormatPerf (device : Ptr DspDevice) (src dst : Ptr DspImageProperties)
    (inData : ImagingRequest) : Call Submission := do
  rejectIf (device = none)
  verifyImageProperties src
  verifyImageProperties dst
  let srcImage ← deref src
  let dstImage ← deref dst
  rejectIf (¬((srcImage.format = .rgb ∧ dstImage.format = .nv12) ∨
    (srcImage.format = .nv12 ∧ dstImage.format = .rgb)))
  rejectIf (srcImage.width ≠ dstImage.width ∨ srcImage.height ≠ dstImage.height)
  let inData := { inData with operation := ImagingOperation.convertFormat.tag }
  sendCommandImages device [⟨src, .convertSrc, .read⟩, ⟨dst, .convertDst, .write⟩] inData

/-- The values of a request that passes every check of `dsp_convert_format_perf`. -/
structure ConvertFormatAccepted (src dst : DspImageProperties) : Prop where
  source : ImageAccepted src
  target : ImageAccepted dst
  formats : (src.format = .rgb ∧ dst.format = .nv12) ∨ (src.format = .nv12 ∧ dst.format = .rgb)
  width_eq : src.width = dst.width
  height_eq : src.height = dst.height

/-- The request block of a conversion before its images are added. -/
def convertFormatArguments (inData : ImagingRequest) : ImagingRequest :=
  { inData with operation := ImagingOperation.convertFormat.tag }

/-- The images of a conversion. -/
def convertFormatCommands (src dst : Ptr DspImageProperties) : List CommandImage :=
  [⟨src, .convertSrc, .read⟩, ⟨dst, .convertDst, .write⟩]

/-- Both images of an accepted conversion can be marshalled. -/
theorem ConvertFormatAccepted.ready {src dst : DspImageProperties} (h : ConvertFormatAccepted src dst) :
    ∀ command ∈ convertFormatCommands (some src) (some dst), command.Ready := by
  simpa [convertFormatCommands] using ⟨h.source.ready _ _, h.target.ready _ _⟩

/-- A request that passes every check reaches the driver. -/
theorem dspConvertFormatPerf_finishes {src dst : DspImageProperties} (h : ConvertFormatAccepted src dst)
    (device : DspDevice) (inData : ImagingRequest) :
    ∃ after, dspConvertFormatPerf (some device) (some src) (some dst) inData =
        .ok ⟨device.fd, after, ⟨(convertFormatCommands (some src) (some dst)).flatMap
          CommandImage.planeBuffers⟩⟩ ∧
      Marshalled (convertFormatCommands (some src) (some dst)) 0 (convertFormatArguments inData) after := by
  obtain ⟨after, hsend, hmarshalled⟩ :=
    sendCommandImages_eq _ h.ready (by simp [convertFormatCommands]) device
    (convertFormatArguments inData)
  refine ⟨after, ?_, hmarshalled⟩
  rw [dspConvertFormatPerf, rejectIf_of_not (by simp), ok_bind,
    (verifyImageProperties_ok_iff _).mpr ⟨src, rfl, h.source⟩, ok_bind,
    (verifyImageProperties_ok_iff _).mpr ⟨dst, rfl, h.target⟩, ok_bind, deref_some, ok_bind,
    deref_some, ok_bind, rejectIf_of_not (not_not.mpr h.formats), ok_bind,
    rejectIf_of_not (by simp [h.width_eq, h.height_eq]), ok_bind]
  exact hsend

/-- What reaches the driver has passed every check. -/
theorem dspConvertFormatPerf_accepted {device : Ptr DspDevice} {src dst : Ptr DspImageProperties}
    {inData : ImagingRequest} {submission : Submission}
    (h : dspConvertFormatPerf device src dst inData = .ok submission) :
    ∃ d s t, device = some d ∧ src = some s ∧ dst = some t ∧ ConvertFormatAccepted s t := by
  unfold dspConvertFormatPerf at h
  obtain ⟨hdevice, h⟩ := unit_bind_eq_ok.mp h
  obtain ⟨hverifySrc, h⟩ := unit_bind_eq_ok.mp h
  obtain ⟨hverifyDst, h⟩ := unit_bind_eq_ok.mp h
  obtain ⟨d, rfl⟩ := Option.ne_none_iff_exists'.mp (rejectIf_eq_ok.mp hdevice)
  obtain ⟨s, rfl, hs⟩ := (verifyImageProperties_ok_iff _).mp hverifySrc
  obtain ⟨t, rfl, ht⟩ := (verifyImageProperties_ok_iff _).mp hverifyDst
  obtain ⟨hformats, h⟩ := unit_bind_eq_ok.mp h
  obtain ⟨hsizes, -⟩ := unit_bind_eq_ok.mp h
  obtain ⟨hwidth, hheight⟩ := not_or.mp (rejectIf_eq_ok.mp hsizes)
  exact ⟨d, s, t, rfl, rfl, rfl, hs, ht, not_not.mp (rejectIf_eq_ok.mp hformats), not_not.mp hwidth,
    not_not.mp hheight⟩

/-- The operation follows no NULL pointer, stays inside the request block and has one error status. -/
theorem dspConvertFormatPerf_stops (device : Ptr DspDevice) (src dst : Ptr DspImageProperties)
    (inData : ImagingRequest) : StopsOnlyWith invalidArgument
      (dspConvertFormatPerf device src dst inData) := by
  refine .exitIf_bind fun hdevice => (verifyImageProperties_stops src).bind fun _ hsrc =>
    (verifyImageProperties_stops dst).bind fun _ hdst => ?_
  obtain ⟨d, rfl⟩ := Option.ne_none_iff_exists'.mp hdevice
  obtain ⟨s, rfl, hs⟩ := (verifyImageProperties_ok_iff _).mp hsrc
  obtain ⟨t, rfl, ht⟩ := (verifyImageProperties_ok_iff _).mp hdst
  refine .exitIf_bind fun _ => .exitIf_bind fun _ => ?_
  obtain ⟨after, hsend, -⟩ := sendCommandImages_eq (convertFormatCommands (some s) (some t))
    (by simpa [convertFormatCommands] using ⟨hs.ready _ _, ht.ready _ _⟩)
      (by simp [convertFormatCommands]) d
    (convertFormatArguments inData)
  exact .of_ok hsend

end HailoDsp
