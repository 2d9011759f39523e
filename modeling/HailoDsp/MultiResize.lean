import Mathlib.Data.List.ReduceOption
import HailoDsp.Resize

/-!
# Resizing into several outputs, with or without a privacy mask

`dsp_multi_crop_and_resize_perf`. The entries of the output array that are NULL are skipped, so
the images are collected in a growing list whose length says where the next one goes. The
bitmask of a privacy mask is added behind the buffers of all the images. The regions of the
mask are read through a pointer that is never compared with NULL.
-/

namespace HailoDsp

open EarlyExit

/-- `PRIVACY_MASK_QUANTIZATION` -/
def privacyMaskQuantization : UInt64 := 4

/-- One round of the loop of `verify_privacy_mask_params`. -/
def verifyPrivacyMaskRoi (image : DspImageProperties) (roi : Ptr DspRoi) : Call Unit := do
  let roi ← deref roi
  let bitmaskWidth := toSize (ceilOf (divFloat (toFloat image.width) (toFloat privacyMaskQuantization)))
  let bitmaskHeight := toSize (ceilOf (divFloat (toFloat image.height) (toFloat privacyMaskQuantization)))
  rejectIf (roi.startX ≥ roi.endX ∨ roi.startY ≥ roi.endY ∨
    roi.endX > bitmaskWidth ∨ roi.endY > bitmaskHeight)

/-- `verify_privacy_mask_params` -/
def verifyPrivacyMaskParams (image : Ptr DspImageProperties) (privacyMaskParams : Ptr DspPrivacyMask) :
    Call Unit :=
  match privacyMaskParams with
  | none => .ok ()
  | some mask => do
    rejectIf (image = none ∨ mask.bitmask = 0)
    rejectIf (mask.roisCount = 0)
    rejectIf (mask.roisCount > UInt64.ofNat maxPrivacyMaskRois)
    let image ← deref image
    forRange mask.roisCount.toNat (fun i _ => verifyPrivacyMaskRoi image (mask.rois.elem i)) ()

/-- One round of the loop of `dsp_multi_crop_and_resize_perf` that validates the outputs. -/
def verifyMultiResizeOutput (dst : Ptr DspImageProperties) : Call Unit :=
  match dst with
  | none => .ok ()
  | some image => do
    verifyImageProperties dst
    rejectIf (image.format ≠ .nv12)

/-- One round of the loop of `dsp_multi_crop_and_resize_perf` that collects the outputs. -/
def addMultiResizeOutput (images : List CommandImage) (dst : Ptr DspImageProperties) :
    Call (List CommandImage) :=
  match dst with
  | none => .ok images
  | some _ => do
    let slot ← multiDstSlot (images.length - 1)
    return images ++ [⟨dst, slot, .write⟩]

/-- The part of `dsp_multi_crop_and_resize_perf` that adds the bitmask and the mask's arguments. -/
def addPrivacyMask (src : DspImageProperties) (mask : DspPrivacyMask) (bufferList : BufferList)
    (inData : ImagingRequest) : Call (BufferList × ImagingRequest) := do
  let bitmaskWidth := toSize (ceilOf (divDouble (toDouble src.width)
    (toDouble (privacyMaskQuantization * 8))))
  let bitmaskStride := roundUp bitmaskWidth 8
  let bitmaskHeight := toSize (ceilOf (divDouble (toDouble src.height)
    (toDouble privacyMaskQuantization)))
  let (bufferList, index) := bufferList.addBuffer mask.bitmask (bitmaskStride * bitmaskHeight) .read
  let rois ← forRange mask.roisCount.toNat (fun i rois => do
    let roi ← deref (mask.rois.elem i)
    writeAt rois i fun _ =>
      ⟨roi.startX.toUInt32, roi.startY.toUInt32, roi.endX.toUInt32, roi.endY.toUInt32⟩)
    inData.multiCropAndResizeArgs.privacyMask.rois
  return (bufferList, { inData with
    multiCropAndResizeArgs.privacyMask := {
      bitmask := {
        xrpBufferIndex := index.toUInt32
        lineStride := bitmaskStride.toUInt32
        planeSize := (bitmaskStride * bitmaskHeight).toUInt32 }
      yColor := mask.yColor
      uColor := mask.uColor
      vColor := mask.vColor
      rois
      roisCount := mask.roisCount.toUInt32 } })

/-- `dsp_multi_crop_and_resize_perf` -/
def dspMultiCropAndResizePerf (device : Ptr DspDevice) (resizeParams : Ptr DspMultiResizeParams)
    (cropParams : Ptr DspRoi) (privacyMaskParams : Ptr DspPrivacyMask) (inData : ImagingRequest) :
    Call Submission := do
  rejectIf (device = none ∨ resizeParams = none)
  let params ← deref resizeParams
  verifyCropParams params.src cropParams
  verifyPrivacyMaskParams params.src privacyMaskParams
  let src ← deref params.src
  let crop ← deref cropParams
  verifyImageProperties (some (croppedSrc src crop))
  rejectIf (src.format ≠ .nv12)
  params.dst.toList.forM verifyMultiResizeOutput
  rejectIf (params.interpolation ≠ .bilinear ∧ params.interpolation ≠ .bicubic)
  let operation := if privacyMaskParams.isSome then
    ImagingOperation.multiCropAndResizePrivacyMask else ImagingOperation.multiCropAndResize
  let images ← params.dst.toList.foldlM addMultiResizeOutput [⟨params.src, .multiSrc, .read⟩]
  let inData := { inData with
    operation := operation.tag
    multiCropAndResizeArgs := { inData.multiCropAndResizeArgs with
      interpolation := UInt8.ofNat params.interpolation.value
      cropStartX := crop.startX.toUInt32
      cropStartY := crop.startY.toUInt32
      cropEndX := crop.endX.toUInt32
      cropEndY := crop.endY.toUInt32
      dstCount := UInt8.ofNat (images.length - 1) } }
  let (bufferList, inData) ← addImagesToBufferList {} images inData
  let (bufferList, inData) ← match privacyMaskParams with
    | none => .ok (bufferList, inData)
    | some mask => addPrivacyMask src mask bufferList inData
  sendCommand device bufferList inData

section Outputs

/-- The outputs of a multiple resize: the entries that are not NULL, in the order of the array. -/
def DspMultiResizeParams.outputs (params : DspMultiResizeParams) : List DspImageProperties :=
  params.dst.toList.reduceOption

/-- There are no more outputs than the array has entries. -/
theorem DspMultiResizeParams.length_outputs_le (params : DspMultiResizeParams) :
    params.outputs.length ≤ multiResizeOutputsCount :=
  (List.reduceOption_length_le _).trans (by simp)

/-- An output that passes the checks of the loop. -/
structure OutputAccepted (dst : DspImageProperties) : Prop where
  accepted : ImageAccepted dst
  format : dst.format = .nv12

/-- The first loop accepts exactly the arrays whose entries are NULL or accepted. -/
theorem verifyMultiResizeOutputs_ok_iff (dsts : List (Ptr DspImageProperties)) :
    dsts.forM verifyMultiResizeOutput = .ok () ↔ ∀ dst ∈ dsts.reduceOption, OutputAccepted dst := by
  induction dsts with
  | nil => simp [List.forM, pure, Except.pure]
  | cons dst rest ih =>
    rw [List.forM, unit_bind_eq_ok, ih]
    cases dst with
    | none => simp [verifyMultiResizeOutput]
    | some image =>
      have himage : verifyMultiResizeOutput (some image) = .ok () ↔ OutputAccepted image := by
        simp only [verifyMultiResizeOutput, unit_bind_eq_ok, rejectIf_eq_ok, verifyImageProperties_ok_iff,
          Option.some.injEq, exists_eq_left', ne_eq, not_not]
        constructor
        · rintro ⟨h, hf⟩
          exact ⟨h, hf⟩
        · intro h
          exact ⟨h.accepted, h.format⟩
      simp [himage]

/-- The first loop only stops with an invalid argument. -/
theorem verifyMultiResizeOutputs_stops (dsts : List (Ptr DspImageProperties)) :
    StopsOnlyWith invalidArgument (dsts.forM verifyMultiResizeOutput) := by
  induction dsts with
  | nil => exact .of_ok rfl
  | cons dst rest ih =>
    rw [List.forM]
    refine StopsOnlyWith.bind ?_ fun _ _ => ih
    cases dst with
    | none => exact .of_ok rfl
    | some image => exact (verifyImageProperties_stops _).bind fun _ _ => .exitIf _ _

/-- The images of a multiple resize: the source and the outputs. -/
def multiCropAndResizeCommands (src : Ptr DspImageProperties) (outputs : List DspImageProperties) :
    List CommandImage :=
  ⟨src, .multiSrc, .read⟩ :: indexedCommands .multiDst .write outputs

/-- The list holds the source and one image for each output. -/
theorem length_multiCropAndResizeCommands (src : Ptr DspImageProperties) {outputs : List DspImageProperties}
    (h : outputs.length ≤ interfaceMultiResizeOutputsCount) :
    (multiCropAndResizeCommands src outputs).length = outputs.length + 1 := by
  rw [multiCropAndResizeCommands, List.length_cons, length_indexedCommands _ _ h]

/-- The second loop collects the outputs into consecutive slots, whatever entries are NULL. -/
theorem addMultiResizeOutputs_eq (src : Ptr DspImageProperties) (outputs : List DspImageProperties)
    (dsts : List (Ptr DspImageProperties))
    (h : outputs.length + dsts.length ≤ interfaceMultiResizeOutputsCount) :
    dsts.foldlM addMultiResizeOutput (multiCropAndResizeCommands src outputs) =
      .ok (multiCropAndResizeCommands src (outputs ++ dsts.reduceOption)) := by
  induction dsts generalizing outputs with
  | nil => simp [pure, Except.pure]
  | cons dst rest ih =>
    rw [List.length_cons] at h
    cases dst with
    | none =>
      rw [List.foldlM_cons, List.reduceOption_cons_of_none]
      exact ih outputs (by omega)
    | some image =>
      have hroom : outputs.length < interfaceMultiResizeOutputsCount := by omega
      have hslot : multiDstSlot ((multiCropAndResizeCommands src outputs).length - 1) =
          .ok (.multiDst ⟨outputs.length, hroom⟩) := by
        rw [length_multiCropAndResizeCommands src hroom.le]
        exact dif_pos hroom
      have happend : multiCropAndResizeCommands src outputs ++
          [⟨some image, .multiDst ⟨outputs.length, hroom⟩, .write⟩] =
          multiCropAndResizeCommands src (outputs ++ [image]) := by
        rw [multiCropAndResizeCommands, multiCropAndResizeCommands, indexedCommands_append _ _ _ _ hroom,
          List.cons_append]
      rw [List.foldlM_cons, List.reduceOption_cons_of_some]
      simp only [addMultiResizeOutput, hslot, ok_bind]
      rw [happend]
      exact (ih (outputs ++ [image]) (by rw [List.length_append, List.length_singleton]; omega)).trans
        (by simp)

/-- The images of a multiple resize can be marshalled. -/
theorem multiCropAndResizeCommands_ready {src : DspImageProperties} {crop : DspRoi}
    {outputs : List DspImageProperties} (hsrc : ImageAccepted (croppedSrc src crop))
    (houtputs : ∀ dst ∈ outputs, OutputAccepted dst) :
    ∀ command ∈ multiCropAndResizeCommands (some src) outputs, command.Ready := by
  intro command hcommand
  rcases List.mem_cons.mp hcommand with rfl | houtput
  · exact hsrc.ready_of_cropped _ _
  · obtain ⟨j, -, hj, rfl⟩ := mem_indexedCommands houtput
    exact (houtputs _ (List.getElem_mem hj)).accepted.ready _ _

/-- The images of a multiple resize go to different places of the request block. -/
theorem multiCropAndResizeCommands_nodup (src : Ptr DspImageProperties)
    (outputs : List DspImageProperties) :
    ((multiCropAndResizeCommands src outputs).map CommandImage.dspApiImage).Nodup := by
  rw [multiCropAndResizeCommands, List.map_cons, List.nodup_cons]
  refine ⟨fun hmem => ?_, nodup_indexedCommands (fun i j h => by simpa using h) _ _⟩
  obtain ⟨command, hcommand, hslot⟩ := List.mem_map.mp hmem
  obtain ⟨j, hn, hj, rfl⟩ := mem_indexedCommands hcommand
  cases hslot

end Outputs

section PrivacyMask

/-- A side of the bitmask in ROI units, as the loop over the regions computes it. -/
def quantizedSide (side : UInt64) : UInt64 :=
  toSize (ceilOf (divFloat (toFloat side) (toFloat privacyMaskQuantization)))

/-- A region of a privacy mask that passes the checks of the loop. -/
structure MaskRoiAccepted (image : DspImageProperties) (roi : DspRoi) : Prop where
  startX_lt : roi.startX < roi.endX
  startY_lt : roi.startY < roi.endY
  endX_le : roi.endX ≤ quantizedSide image.width
  endY_le : roi.endY ≤ quantizedSide image.height

/-- A mask that gets as far as the loop over its regions. -/
structure DspPrivacyMask.ReachesRois (mask : DspPrivacyMask) : Prop where
  bitmask_ne : mask.bitmask ≠ 0
  count_ne : mask.roisCount ≠ 0
  count_le : mask.roisCount.toNat ≤ maxPrivacyMaskRois

/-- A mask that passes `verify_privacy_mask_params`. -/
structure MaskAccepted (image : DspImageProperties) (mask : DspPrivacyMask) : Prop where
  reaches : mask.ReachesRois
  rois_ne : mask.rois ≠ none
  roi : ∀ i < mask.roisCount.toNat, MaskRoiAccepted image (mask.roi i)

/-- The loop body accepts exactly the regions inside the bitmask. -/
theorem verifyPrivacyMaskRoi_ok_iff (image : DspImageProperties) (roi : DspRoi) :
    verifyPrivacyMaskRoi image (some roi) = .ok () ↔ MaskRoiAccepted image roi := by
  simp only [verifyPrivacyMaskRoi, deref_some, ok_bind, rejectIf_eq_ok, not_or, ge_iff_le, gt_iff_lt,
    UInt64.not_le, UInt64.not_lt]
  constructor
  · rintro ⟨hx, hy, hendX, hendY⟩
    exact ⟨hx, hy, hendX, hendY⟩
  · intro h
    exact ⟨h.startX_lt, h.startY_lt, h.endX_le, h.endY_le⟩

/-- The checks before the loop are the ones that `ReachesRois` lists. -/
theorem verifyPrivacyMaskParams_eq (image : DspImageProperties) {mask : DspPrivacyMask}
    (h : mask.ReachesRois) :
    verifyPrivacyMaskParams (some image) (some mask) =
      forRange mask.roisCount.toNat (fun i _ => verifyPrivacyMaskRoi image (mask.rois.elem i)) () := by
  rw [verifyPrivacyMaskParams, rejectIf_of_not (by simpa using h.bitmask_ne), ok_bind,
    rejectIf_of_not h.count_ne, ok_bind, rejectIf_of_not
      ((not_gt_ofNat_iff (by decide)).mpr h.count_le), ok_bind,
    deref_some, ok_bind]

/-- A mask that does not get to the loop is rejected. -/
theorem verifyPrivacyMaskParams_of_not_reaches (image : DspImageProperties) {mask : DspPrivacyMask}
    (h : ¬ mask.ReachesRois) :
    verifyPrivacyMaskParams (some image) (some mask) = .error invalidArgument := by
  by_cases hbitmask : mask.bitmask = 0
  · simp [verifyPrivacyMaskParams, hbitmask, rejectIf, exitIf]
  · rw [verifyPrivacyMaskParams, rejectIf_of_not (by simpa using hbitmask), ok_bind]
    by_cases hcount : mask.roisCount = 0
    · simp [hcount, rejectIf, exitIf]
    · rw [rejectIf_of_not hcount, ok_bind]
      have hmany : mask.roisCount > UInt64.ofNat maxPrivacyMaskRois := by
        by_contra hfew
        exact h ⟨hbitmask, hcount, (not_gt_ofNat_iff (by decide)).mp hfew⟩
      simp [hmany, rejectIf, exitIf]

/-- `verify_privacy_mask_params` accepts a mask exactly as `MaskAccepted` says. -/
theorem verifyPrivacyMaskParams_ok_iff (image : DspImageProperties) (mask : DspPrivacyMask) :
    verifyPrivacyMaskParams (some image) (some mask) = .ok () ↔ MaskAccepted image mask := by
  constructor
  · intro h
    by_cases hreaches : mask.ReachesRois
    · rw [verifyPrivacyMaskParams_eq image hreaches] at h
      have hpos : 0 < mask.roisCount.toNat :=
        Nat.pos_of_ne_zero fun hzero => hreaches.count_ne (UInt64.toNat_inj.mp hzero)
      have hrois : mask.rois ≠ none := by
        intro hnull
        obtain ⟨_, _, hround⟩ := forRange_round h hpos
        simp [hnull, Ptr.elem, verifyPrivacyMaskRoi, readThrough] at hround
      refine ⟨hreaches, hrois, fun i hi => ?_⟩
      obtain ⟨_, _, hround⟩ := forRange_round h hi
      rw [mask.elem_rois hrois] at hround
      exact (verifyPrivacyMaskRoi_ok_iff _ _).mp hround
    · rw [verifyPrivacyMaskParams_of_not_reaches image hreaches] at h
      cases h
  · intro h
    rw [verifyPrivacyMaskParams_eq image h.reaches]
    obtain ⟨_, hrun, -⟩ := forRange_finishes (n := mask.roisCount.toNat)
      (fun i _ => verifyPrivacyMaskRoi image (mask.rois.elem i)) () (fun _ _ => True) trivial
      (fun i hi _ _ => ⟨(), by
        rw [mask.elem_rois h.rois_ne]
        exact (verifyPrivacyMaskRoi_ok_iff _ _).mpr (h.roi i hi), trivial⟩)
    exact hrun

/-- With an array of regions, the only way to stop is an invalid argument. -/
theorem verifyPrivacyMaskParams_stops (image : DspImageProperties) {mask : DspPrivacyMask}
    (h : mask.ReachesRois → mask.rois ≠ none) :
    StopsOnlyWith invalidArgument (verifyPrivacyMaskParams (some image) (some mask)) := by
  by_cases hreaches : mask.ReachesRois
  · rw [verifyPrivacyMaskParams_eq image hreaches]
    refine .forRange fun i _ _ => ?_
    rw [mask.elem_rois (h hreaches)]
    exact .exitIf _ _
  · rw [verifyPrivacyMaskParams_of_not_reaches image hreaches]
    exact fun e he => by cases he; rfl

/-- Without an array of regions, the loop follows the NULL pointer in its first round. -/
theorem verifyPrivacyMaskParams_null (image : DspImageProperties) {mask : DspPrivacyMask}
    (h : mask.ReachesRois) (hnull : mask.rois = none) :
    verifyPrivacyMaskParams (some image) (some mask) = .error (.fault .nullPointer) := by
  rw [verifyPrivacyMaskParams_eq image h]
  obtain ⟨n, hn⟩ := Nat.exists_eq_succ_of_ne_zero fun hzero => h.count_ne (UInt64.toNat_inj.mp hzero)
  have hfirst (n : ℕ) : forRange (n + 1) (fun i _ => verifyPrivacyMaskRoi image (mask.rois.elem i)) () =
      .error (.fault .nullPointer) := by
    induction n with
    | zero => simp [forRange, hnull, Ptr.elem, verifyPrivacyMaskRoi, readThrough]
    | succ n ih => rw [forRange, ih, error_bind]
  rw [hn]
  exact hfirst n

/-- The bytes of one line of the bitmask. -/
def bitmaskStride (src : DspImageProperties) : UInt64 :=
  roundUp (toSize (ceilOf (divDouble (toDouble src.width) (toDouble (privacyMaskQuantization * 8))))) 8

/-- The lines of the bitmask. -/
def bitmaskHeight (src : DspImageProperties) : UInt64 :=
  toSize (ceilOf (divDouble (toDouble src.height) (toDouble privacyMaskQuantization)))

/-- The buffer of the bitmask. -/
def bitmaskBuffer (src : DspImageProperties) (mask : DspPrivacyMask) : XrpIoctlBuffer :=
  userBuffer mask.bitmask (bitmaskStride src * bitmaskHeight src) .read

/-- The arguments of a mask whose bitmask is at position `index` of the buffer list. -/
def privacyMaskInData (src : DspImageProperties) (mask : DspPrivacyMask) (index : ℕ)
    (dst : PrivacyMaskInData) :
    PrivacyMaskInData where
  bitmask := {
    xrpBufferIndex := UInt32.ofNat index
    lineStride := (bitmaskStride src).toUInt32
    planeSize := (bitmaskStride src * bitmaskHeight src).toUInt32 }
  yColor := mask.yColor
  uColor := mask.uColor
  vColor := mask.vColor
  rois := updatePrefix dst.rois mask.roisCount.toNat fun i _ => roiInData (mask.roi i)
  roisCount := mask.roisCount.toUInt32

/-- The request block with the arguments of the mask, if there is one. -/
def withPrivacyMask (src : DspImageProperties) (index : ℕ) (request : ImagingRequest) :
    Ptr DspPrivacyMask → ImagingRequest
  | none => request
  | some mask => { request with
      multiCropAndResizeArgs.privacyMask :=
        privacyMaskInData src mask index request.multiCropAndResizeArgs.privacyMask }

/-- The buffers behind those of the images: the bitmask, if there is a mask. -/
def maskBuffers (src : DspImageProperties) : Ptr DspPrivacyMask → List XrpIoctlBuffer
  | none => []
  | some mask => [bitmaskBuffer src mask]

/-- The mask's arguments leave the images alone. -/
theorem get_withPrivacyMask (src : DspImageProperties) (index : ℕ) (mask : Ptr DspPrivacyMask)
    (slot : ImageSlot) (request : ImagingRequest) :
    slot.get (withPrivacyMask src index request mask) = slot.get request := by
  cases mask <;> cases slot <;> rfl

/-- The mask's arguments do not depend on the images. -/
theorem withoutImages_withPrivacyMask (src : DspImageProperties) (index : ℕ) (mask : Ptr DspPrivacyMask)
    (request : ImagingRequest) :
    (withPrivacyMask src index request mask).withoutImages =
      withPrivacyMask src index request.withoutImages mask := by
  cases mask <;> rfl

/-- Adding a mask with its regions appends the bitmask and writes the mask's arguments. -/
theorem addPrivacyMask_eq (src : DspImageProperties) {mask : DspPrivacyMask}
    (hcount : mask.roisCount.toNat ≤ maxPrivacyMaskRois) (hrois : mask.rois ≠ none) (list : BufferList)
    (request : ImagingRequest) :
    addPrivacyMask src mask list request =
      .ok (⟨list.buffers ++ [bitmaskBuffer src mask]⟩,
        withPrivacyMask src list.buffers.length request (some mask)) := by
  let initial := request.multiCropAndResizeArgs.privacyMask.rois
  obtain ⟨last, hrun, rfl⟩ := forRange_finishes (n := mask.roisCount.toNat)
    (fun i rois => do
      let roi ← deref (mask.rois.elem i)
      writeAt rois i fun _ =>
        ⟨roi.startX.toUInt32, roi.startY.toUInt32, roi.endX.toUInt32, roi.endY.toUInt32⟩)
    initial (fun i s => s = updatePrefix initial i fun j _ => roiInData (mask.roi j))
    (updatePrefix_zero _ _).symm (by
      rintro i hi s rfl
      refine ⟨_, ?_, rfl⟩
      rw [mask.elem_rois hrois, deref_some, ok_bind]
      exact writeAt_updatePrefix initial (hi.trans_le hcount) fun j _ => roiInData (mask.roi j))
  simp only [addPrivacyMask, BufferList.addBuffer_eq]
  exact bind_eq_ok.mpr ⟨_, hrun, rfl⟩

end PrivacyMask

/-- The values of a request that passes every check of `dsp_multi_crop_and_resize_perf`; that there
are at most seven outputs is not checked but holds of the array they come from. -/
structure MultiCropAndResizeAccepted (src : DspImageProperties) (outputs : List DspImageProperties)
    (crop : DspRoi) (interpolation : DspInterpolationType) (mask : Ptr DspPrivacyMask) : Prop where
  region : RegionAccepted src crop
  privacyMask : ∀ m, mask = some m → MaskAccepted src m
  source : ImageAccepted (croppedSrc src crop)
  srcFormat : src.format = .nv12
  outputs_le : outputs.length ≤ multiResizeOutputsCount
  output : ∀ dst ∈ outputs, OutputAccepted dst
  interpolation_eq : interpolation = .bilinear ∨ interpolation = .bicubic

/-- The operation of a multiple resize. -/
def multiCropAndResizeOperation (mask : Ptr DspPrivacyMask) : ImagingOperation :=
  if mask.isSome then .multiCropAndResizePrivacyMask else .multiCropAndResize

/-- The request block of a multiple resize before its images and its mask are added. -/
def multiCropAndResizeArguments (crop : DspRoi) (interpolation : DspInterpolationType) (dstCount : ℕ)
    (mask : Ptr DspPrivacyMask) (inData : ImagingRequest) : ImagingRequest :=
  { inData with
    operation := (multiCropAndResizeOperation mask).tag
    multiCropAndResizeArgs := { inData.multiCropAndResizeArgs with
      interpolation := UInt8.ofNat interpolation.value
      cropStartX := crop.startX.toUInt32
      cropStartY := crop.startY.toUInt32
      cropEndX := crop.endX.toUInt32
      cropEndY := crop.endY.toUInt32
      dstCount := UInt8.ofNat dstCount } }

/-- What the operation does behind its checks: the images, the mask and the command. -/
theorem sendMultiCropAndResize_eq {src : DspImageProperties} {outputs : List DspImageProperties}
    {crop : DspRoi} {mask : Ptr DspPrivacyMask} (hsrc : ImageAccepted (croppedSrc src crop))
    (houtputs : ∀ dst ∈ outputs, OutputAccepted dst) (hmask : ∀ m, mask = some m → MaskAccepted src m)
    (device : DspDevice) (request : ImagingRequest) :
    let commands := multiCropAndResizeCommands (some src) outputs
    let imageBuffers := commands.flatMap CommandImage.planeBuffers
    ∃ after, (do
        let (bufferList, inData) ← addImagesToBufferList {} commands request
        let (bufferList, inData) ← match mask with
          | none => .ok (bufferList, inData)
          | some mask => addPrivacyMask src mask bufferList inData
        sendCommand (some device) bufferList inData) =
        .ok ⟨device.fd, after, ⟨imageBuffers ++ maskBuffers src mask⟩⟩ ∧
      Marshalled commands 0 (withPrivacyMask src imageBuffers.length request mask) after := by
  intro commands imageBuffers
  obtain ⟨after, hadd, hmarshalled⟩ := addImagesToBufferList_eq
    (multiCropAndResizeCommands_ready hsrc houtputs) (multiCropAndResizeCommands_nodup _ _) {} request
  refine ⟨withPrivacyMask src imageBuffers.length after mask, ?_,
    hmarshalled.update (get_withPrivacyMask src _ mask) (withoutImages_withPrivacyMask src _ mask)⟩
  refine bind_eq_ok.mpr ⟨_, hadd, ?_⟩
  cases mask with
  | none => simp [maskBuffers, withPrivacyMask, sendCommand, imageBuffers, commands, pure, Except.pure]
  | some m =>
    have haccepted := hmask m rfl
    exact bind_eq_ok.mpr ⟨_, addPrivacyMask_eq src haccepted.reaches.count_le haccepted.rois_ne _ _, rfl⟩

/-- A request that passes every check reaches the driver. -/
theorem dspMultiCropAndResizePerf_finishes {params : DspMultiResizeParams} {src : DspImageProperties}
    {crop : DspRoi} {mask : Ptr DspPrivacyMask} (hsrc : params.src = some src)
    (h : MultiCropAndResizeAccepted src params.outputs crop params.interpolation mask) (device : DspDevice)
    (inData : ImagingRequest) :
    let commands := multiCropAndResizeCommands (some src) params.outputs
    let imageBuffers := commands.flatMap CommandImage.planeBuffers
    ∃ after, dspMultiCropAndResizePerf (some device) (some params) (some crop) mask inData =
        .ok ⟨device.fd, after, ⟨imageBuffers ++ maskBuffers src mask⟩⟩ ∧
      Marshalled commands 0 (withPrivacyMask src imageBuffers.length
        (multiCropAndResizeArguments crop params.interpolation params.outputs.length mask inData)
            mask) after := by
  intro commands imageBuffers
  obtain ⟨after, hsend, hmarshalled⟩ := sendMultiCropAndResize_eq h.source h.output h.privacyMask device
    (multiCropAndResizeArguments crop params.interpolation params.outputs.length mask inData)
  refine ⟨after, ?_, hmarshalled⟩
  have hcrop : verifyCropParams (some src) (some crop) = .ok () :=
    (verifyRegion_ok_iff _ _).mpr ⟨src, crop, rfl, rfl, h.region⟩
  have hmask : verifyPrivacyMaskParams (some src) mask = .ok () := by
    cases mask with
    | none => rfl
    | some m => exact (verifyPrivacyMaskParams_ok_iff _ _).mpr (h.privacyMask m rfl)
  have hinterpolation : ¬ (params.interpolation ≠ .bilinear ∧ params.interpolation ≠ .bicubic) := by
    have := h.interpolation_eq
    tauto
  have hcollect := addMultiResizeOutputs_eq (some src) [] params.dst.toList (by simp)
  have hcount : commands.length - 1 = params.outputs.length := by
    rw [length_multiCropAndResizeCommands _ params.length_outputs_le, Nat.add_sub_cancel]
  rw [dspMultiCropAndResizePerf, rejectIf_of_not (by simp), ok_bind, deref_some, ok_bind, hsrc,
    hcrop, ok_bind, hmask, ok_bind, deref_some, ok_bind, deref_some, ok_bind,
    (verifyImageProperties_ok_iff _).mpr ⟨_, rfl, h.source⟩, ok_bind,
    rejectIf_of_not (not_not.mpr h.srcFormat),
    ok_bind, (verifyMultiResizeOutputs_ok_iff _).mpr h.output, ok_bind,
    rejectIf_of_not hinterpolation, ok_bind]
  refine bind_eq_ok.mpr ⟨commands, hcollect, ?_⟩
  rw [hcount]
  exact hsend

/-- What reaches the driver has passed every check. -/
theorem dspMultiCropAndResizePerf_accepted {device : Ptr DspDevice}
    {resizeParams : Ptr DspMultiResizeParams} {cropParams : Ptr DspRoi} {mask : Ptr DspPrivacyMask}
    {inData : ImagingRequest} {submission : Submission}
    (h : dspMultiCropAndResizePerf device resizeParams cropParams mask inData = .ok submission) :
    ∃ d p s c, device = some d ∧ resizeParams = some p ∧ p.src = some s ∧ cropParams = some c ∧
      MultiCropAndResizeAccepted s p.outputs c p.interpolation mask := by
  unfold dspMultiCropAndResizePerf at h
  obtain ⟨hpointers, h⟩ := unit_bind_eq_ok.mp h
  obtain ⟨hdevice, hparams⟩ := not_or.mp (rejectIf_eq_ok.mp hpointers)
  obtain ⟨d, rfl⟩ := Option.ne_none_iff_exists'.mp hdevice
  obtain ⟨⟨src, dst, interpolation⟩, rfl⟩ := Option.ne_none_iff_exists'.mp hparams
  rw [deref_some, ok_bind] at h
  obtain ⟨hcrop, h⟩ := unit_bind_eq_ok.mp h
  obtain ⟨s, c, rfl, rfl, hregion⟩ := (verifyRegion_ok_iff _ _).mp hcrop
  obtain ⟨hmask, h⟩ := unit_bind_eq_ok.mp h
  rw [deref_some, ok_bind, deref_some, ok_bind] at h
  obtain ⟨hverifySrc, h⟩ := unit_bind_eq_ok.mp h
  obtain ⟨hformat, h⟩ := unit_bind_eq_ok.mp h
  obtain ⟨houtputs, h⟩ := unit_bind_eq_ok.mp h
  obtain ⟨hinterpolation, -⟩ := unit_bind_eq_ok.mp h
  obtain ⟨_, hsource, haccepted⟩ := (verifyImageProperties_ok_iff _).mp hverifySrc
  cases hsource
  refine ⟨d, _, s, c, rfl, rfl, rfl, rfl, hregion, ?_, haccepted, not_not.mp (rejectIf_eq_ok.mp hformat),
    DspMultiResizeParams.length_outputs_le _, (verifyMultiResizeOutputs_ok_iff _).mp houtputs, ?_⟩
  · rintro m rfl
    exact (verifyPrivacyMaskParams_ok_iff _ _).mp hmask
  · have := rejectIf_eq_ok.mp hinterpolation
    tauto

/-- A call that gets to the loop over the regions of a mask whose array of regions is NULL. -/
def NullRoisRead (device : Ptr DspDevice) (resizeParams : Ptr DspMultiResizeParams)
    (cropParams : Ptr DspRoi) (privacyMaskParams : Ptr DspPrivacyMask) : Prop :=
  device ≠ none ∧ ∃ params src crop mask, resizeParams = some params ∧ params.src = some src ∧
    cropParams = some crop ∧ RegionAccepted src crop ∧ privacyMaskParams = some mask ∧ mask.ReachesRois ∧
    mask.rois = none

/-- Such a call follows the NULL pointer. -/
theorem dspMultiCropAndResizePerf_null {device : Ptr DspDevice} {resizeParams : Ptr DspMultiResizeParams}
    {cropParams : Ptr DspRoi} {mask : Ptr DspPrivacyMask}
    (h : NullRoisRead device resizeParams cropParams mask) (inData : ImagingRequest) :
    dspMultiCropAndResizePerf device resizeParams cropParams mask inData =
    .error (.fault .nullPointer) := by
  obtain ⟨hdevice, params, src, crop, m, rfl, hsrc, rfl, hregion, rfl, hreaches, hnull⟩ := h
  have hcrop : verifyCropParams (some src) (some crop) = .ok () :=
    (verifyRegion_ok_iff _ _).mpr ⟨src, crop, rfl, rfl, hregion⟩
  rw [dspMultiCropAndResizePerf, rejectIf_of_not (by simpa using hdevice), ok_bind, deref_some,
    ok_bind, hsrc, hcrop, ok_bind, verifyPrivacyMaskParams_null src hreaches hnull, error_bind]

/-- Every other call follows no NULL pointer, stays inside the request block and has one error status. -/
theorem dspMultiCropAndResizePerf_stops {device : Ptr DspDevice} {resizeParams : Ptr DspMultiResizeParams}
    {cropParams : Ptr DspRoi} {mask : Ptr DspPrivacyMask}
    (h : ¬ NullRoisRead device resizeParams cropParams mask) (inData : ImagingRequest) :
    StopsOnlyWith invalidArgument (dspMultiCropAndResizePerf device resizeParams cropParams mask
      inData) := by
  refine .exitIf_bind fun hpointers => ?_
  obtain ⟨hdevice, hparams⟩ := not_or.mp hpointers
  obtain ⟨d, rfl⟩ := Option.ne_none_iff_exists'.mp hdevice
  obtain ⟨params, rfl⟩ := Option.ne_none_iff_exists'.mp hparams
  rw [deref_some, ok_bind]
  refine (verifyRegion_stops params.src cropParams).bind fun _ hcrop => ?_
  obtain ⟨s, c, hsrc, rfl, hregion⟩ := (verifyRegion_ok_iff _ _).mp hcrop
  rw [hsrc]
  refine StopsOnlyWith.bind ?_ fun _ hmask => ?_
  · cases mask with
    | none => exact .of_ok rfl
    | some m =>
      refine verifyPrivacyMaskParams_stops s fun hreaches hnull => h ?_
      exact ⟨hdevice, params, s, c, m, rfl, hsrc, rfl, hregion, rfl, hreaches, hnull⟩
  rw [deref_some, ok_bind, deref_some, ok_bind]
  refine (verifyImageProperties_stops _).bind fun _ hsource => .exitIf_bind fun _ =>
    (verifyMultiResizeOutputs_stops _).bind fun _ houtputs => .exitIf_bind fun _ => ?_
  obtain ⟨_, hs, hsource⟩ := (verifyImageProperties_ok_iff _).mp hsource
  cases hs
  have haccepted : ∀ m, mask = some m → MaskAccepted s m := by
    rintro m rfl
    exact (verifyPrivacyMaskParams_ok_iff _ _).mp hmask
  obtain ⟨after, hsend, -⟩ := sendMultiCropAndResize_eq hsource
    ((verifyMultiResizeOutputs_ok_iff _).mp houtputs) haccepted d
    (multiCropAndResizeArguments c params.interpolation
      ((multiCropAndResizeCommands (some s) params.outputs).length - 1) mask inData)
  have hcollect := addMultiResizeOutputs_eq (some s) [] params.dst.toList (by simp)
  exact .of_ok (bind_eq_ok.mpr ⟨_, hcollect, hsend⟩)

end HailoDsp
