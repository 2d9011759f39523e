import HailoDsp.Marshalling

/-!
# Blurring regions of an image

`dsp_blur_perf`. The request block is taken as `make_aligned_uptr` returns it, with arbitrary
contents. The regions are validated and written in one loop, so a region that is rejected
leaves the earlier ones in a block that is then never sent.
-/

namespace HailoDsp

open EarlyExit

/-- `KERNEL_MAX_SIZE` -/
def kernelMaxSize : UInt32 := 33

/-- `verify_roi_params` -/
def verifyRoiParams (image : Ptr DspImageProperties) (roiParams : Ptr DspRoi) : Call Unit :=
  verifyRegion image roiParams

/-- One round of the loop of `dsp_blur_perf`. -/
def addBlurRoi (image : Ptr DspImageProperties) (rois : Ptr (ℕ → DspRoi)) (i : ℕ)
    (inData : ImagingRequest) : Call ImagingRequest := do
  verifyRoiParams image (rois.elem i)
  let roi ← deref (rois.elem i)
  let roisInData ← writeAt inData.blurArgs.rois i fun _ =>
    ⟨roi.startX.toUInt32, roi.startY.toUInt32, roi.endX.toUInt32, roi.endY.toUInt32⟩
  return { inData with blurArgs.rois := roisInData }

/-- `dsp_blur_perf` -/
def dspBlurPerf (device : Ptr DspDevice) (image : Ptr DspImageProperties) (rois : Ptr (ℕ → DspRoi))
    (roisCount : UInt64) (kernelSize : UInt32) (inData : ImagingRequest) : Call Submission := do
  rejectIf (device = none ∨ image = none ∨ rois = none)
  rejectIf (kernelSize % 2 = 0)
  rejectIf (kernelSize > kernelMaxSize)
  rejectIf (roisCount > UInt64.ofNat maxBlurRois)
  verifyImageProperties image
  let properties ← deref image
  rejectIf (properties.format ≠ .gray8 ∧ properties.format ≠ .nv12)
  let inData := { inData with
    operation := ImagingOperation.blur.tag
    blurArgs := { inData.blurArgs with roisCount := roisCount.toUInt32, kernelSize } }
  let inData ← forRange roisCount.toNat (addBlurRoi image rois) inData
  sendCommandImages device [⟨image, .blurImage, .readWrite⟩] inData

/-- The values of a request that passes every check of `dsp_blur_perf`. -/
structure BlurAccepted (image : DspImageProperties) (rois : ℕ → DspRoi) (roisCount : UInt64)
    (kernelSize : UInt32) : Prop where
  kernel_odd : kernelSize % 2 ≠ 0
  kernel_le : kernelSize ≤ kernelMaxSize
  count_le : roisCount.toNat ≤ maxBlurRois
  accepted : ImageAccepted image
  format : image.format = .gray8 ∨ image.format = .nv12
  roi : ∀ i < roisCount.toNat, RegionAccepted image (rois i)

/-- The request block of a blur before its image is added. -/
def blurArguments (rois : ℕ → DspRoi) (roisCount : UInt64) (kernelSize : UInt32)
    (inData : ImagingRequest) : ImagingRequest :=
  { inData with
    operation := ImagingOperation.blur.tag
    blurArgs := { inData.blurArgs with
      rois := updatePrefix inData.blurArgs.rois roisCount.toNat fun i _ => roiInData (rois i)
      roisCount := roisCount.toUInt32
      kernelSize } }

/-- The image of a blur, which is both read and written. -/
def blurCommands (image : Ptr DspImageProperties) : List CommandImage :=
  [⟨image, .blurImage, .readWrite⟩]

/-- The loop writes every region when all of them are inside the image. -/
theorem addBlurRoi_loop {image : DspImageProperties} {rois : ℕ → DspRoi} {n : ℕ} (hn : n ≤ maxBlurRois)
    (h : ∀ i < n, RegionAccepted image (rois i)) (inData : ImagingRequest) :
    forRange n (addBlurRoi (some image) (some rois)) inData =
      .ok { inData with
        blurArgs.rois := updatePrefix inData.blurArgs.rois n fun i _ => roiInData (rois i) } := by
  let upTo (n : ℕ) : ImagingRequest :=
    { inData with blurArgs.rois := updatePrefix inData.blurArgs.rois n fun i _ => roiInData (rois i) }
  obtain ⟨last, hrun, rfl⟩ := forRange_finishes (n := n) (addBlurRoi (some image) (some rois))
    inData (fun i s => s = upTo i)
    (by simp [upTo, updatePrefix_zero]) (by
      rintro i hi s rfl
      refine ⟨upTo (i + 1), ?_, rfl⟩
      have hregion : verifyRoiParams (some image) (some (rois i)) = .ok () :=
        (verifyRegion_ok_iff _ _).mpr ⟨image, rois i, rfl, rfl, h i hi⟩
      have hwrite := writeAt_updatePrefix inData.blurArgs.rois (hi.trans_le hn) fun i _ =>
        roiInData (rois i)
      simp only [roiInData] at hwrite
      simp only [addBlurRoi, Ptr.elem, Option.map_some, hregion, deref_some, ok_bind, upTo, roiInData]
      rw [hwrite]
      rfl)
  exact hrun

/-- A request that passes every check reaches the driver. -/
theorem dspBlurPerf_finishes {image : DspImageProperties} {rois : ℕ → DspRoi} {roisCount : UInt64}
    {kernelSize : UInt32} (h : BlurAccepted image rois roisCount kernelSize) (device : DspDevice)
    (inData : ImagingRequest) :
    ∃ after, dspBlurPerf (some device) (some image) (some rois) roisCount kernelSize inData =
        .ok ⟨device.fd, after, ⟨(blurCommands (some image)).flatMap CommandImage.planeBuffers⟩⟩ ∧
      Marshalled (blurCommands (some image)) 0 (blurArguments rois roisCount kernelSize inData) after := by
  have hready : ∀ command ∈ blurCommands (some image), command.Ready := by
    intro command hcommand
    rw [List.mem_singleton.mp hcommand]
    exact h.accepted.ready _ _
  have hcount : ¬ roisCount > UInt64.ofNat maxBlurRois := (not_gt_ofNat_iff (by decide)).mpr h.count_le
  have hformat : ¬ (image.format ≠ .gray8 ∧ image.format ≠ .nv12) := by
    rcases h.format with hf | hf <;> simp [hf]
  have hverify : verifyImageProperties (some image) = .ok () :=
    (verifyImageProperties_ok_iff _).mpr ⟨image, rfl, h.accepted⟩
  obtain ⟨after, hsend, hmarshalled⟩ := sendCommandImages_eq _ hready (by simp [blurCommands]) device
    (blurArguments rois roisCount kernelSize inData)
  refine ⟨after, ?_, hmarshalled⟩
  rw [dspBlurPerf, rejectIf_of_not (by simp), ok_bind, rejectIf_of_not h.kernel_odd, ok_bind,
    rejectIf_of_not (UInt32.not_lt.mpr h.kernel_le), ok_bind, rejectIf_of_not hcount, ok_bind, hverify,
    ok_bind, deref_some, ok_bind, rejectIf_of_not hformat, ok_bind]
  exact bind_eq_ok.mpr ⟨_, addBlurRoi_loop h.count_le h.roi _, hsend⟩

/-- What reaches the driver has passed every check. -/
theorem dspBlurPerf_accepted {device : Ptr DspDevice} {image : Ptr DspImageProperties}
    {rois : Ptr (ℕ → DspRoi)} {roisCount : UInt64} {kernelSize : UInt32} {inData : ImagingRequest}
    {submission : Submission}
    (h : dspBlurPerf device image rois roisCount kernelSize inData = .ok submission) :
    ∃ d i r, device = some d ∧ image = some i ∧ rois = some r ∧
      BlurAccepted i r roisCount kernelSize := by
  unfold dspBlurPerf at h
  obtain ⟨hpointers, h⟩ := unit_bind_eq_ok.mp h
  obtain ⟨hodd, h⟩ := unit_bind_eq_ok.mp h
  obtain ⟨hkernel, h⟩ := unit_bind_eq_ok.mp h
  obtain ⟨hcount, h⟩ := unit_bind_eq_ok.mp h
  obtain ⟨hverify, h⟩ := unit_bind_eq_ok.mp h
  obtain ⟨i, hi, h⟩ := bind_eq_ok.mp h
  obtain ⟨hformat, h⟩ := unit_bind_eq_ok.mp h
  obtain ⟨last, hloop, -⟩ := bind_eq_ok.mp h
  obtain ⟨hdevice, -, hrois⟩ := by simpa only [not_or] using rejectIf_eq_ok.mp hpointers
  obtain ⟨d, rfl⟩ := Option.ne_none_iff_exists'.mp hdevice
  obtain ⟨r, rfl⟩ := Option.ne_none_iff_exists'.mp hrois
  obtain rfl := readThrough_eq_ok.mp hi
  obtain ⟨image, himage, haccepted⟩ := (verifyImageProperties_ok_iff _).mp hverify
  cases himage
  refine ⟨d, i, r, rfl, rfl, rfl, rejectIf_eq_ok.mp hodd, UInt32.not_lt.mp (rejectIf_eq_ok.mp hkernel),
    (not_gt_ofNat_iff (by decide)).mp (rejectIf_eq_ok.mp hcount), haccepted, ?_, ?_⟩
  · have := rejectIf_eq_ok.mp hformat
    tauto
  · intro j hj
    obtain ⟨t, t', hround⟩ := forRange_round hloop hj
    obtain ⟨hregion, -⟩ := unit_bind_eq_ok.mp hround
    obtain ⟨_, _, hi, hr, hregion⟩ := (verifyRegion_ok_iff _ _).mp hregion
    cases hi
    cases hr
    exact hregion

/-- The operation follows no NULL pointer, stays inside the request block and has one error status. -/
theorem dspBlurPerf_stops (device : Ptr DspDevice) (image : Ptr DspImageProperties)
    (rois : Ptr (ℕ → DspRoi)) (roisCount : UInt64) (kernelSize : UInt32) (inData : ImagingRequest) :
    StopsOnlyWith invalidArgument (dspBlurPerf device image rois roisCount kernelSize inData) := by
  refine .exitIf_bind fun hpointers => .exitIf_bind fun _ => .exitIf_bind fun _ =>
      .exitIf_bind fun hcount =>
    (verifyImageProperties_stops image).bind fun _ hverify => ?_
  obtain ⟨hdevice, -, hrois⟩ := by simpa only [not_or] using hpointers
  obtain ⟨d, rfl⟩ := Option.ne_none_iff_exists'.mp hdevice
  obtain ⟨r, rfl⟩ := Option.ne_none_iff_exists'.mp hrois
  obtain ⟨i, rfl, haccepted⟩ := (verifyImageProperties_ok_iff _).mp hverify
  refine .exitIf_bind fun _ => StopsOnlyWith.bind ?_ fun last _ => ?_
  · refine .forRange fun j hj block => (verifyRegion_stops _ _).bind fun _ _ => ?_
    have hroom : j < maxBlurRois := hj.trans_le ((not_gt_ofNat_iff (by decide)).mp hcount)
    exact .of_ok (bind_eq_ok.mpr ⟨r j, rfl, bind_eq_ok.mpr ⟨_, writeAt_of_lt hroom _, rfl⟩⟩)
  · obtain ⟨after, hsend, -⟩ := sendCommandImages_eq (blurCommands (some i))
      (by simpa [blurCommands] using haccepted.ready _ _) (by simp [blurCommands]) d last
    exact .of_ok hsend

end HailoDsp
