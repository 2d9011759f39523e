import HailoDsp.BufferTable

/-!
# A multiple resize is several single resizes

`dsp_multi_crop_and_resize` and `dsp_crop_and_resize` check their arguments in different orders,
with different rules for formats and interpolations, and build their lists of images differently.
On an NV12 source with one of the two shared interpolations they agree nevertheless: the multiple
resize is accepted exactly when the single resize into each of its outputs is, and its message is
made of the messages of those.
-/

namespace HailoDsp

/-- On an NV12 source with one of the shared interpolations, the checks of the multiple resize are
those of the single resizes of its outputs, if it has any. -/
theorem multiCropAndResizeAccepted_iff {src : DspImageProperties} {outputs : List DspImageProperties}
    {crop : DspRoi} {interpolation : DspInterpolationType} (hformat : src.format = .nv12)
    (hinterpolation : interpolation = .bilinear ∨ interpolation = .bicubic) (houtputs : outputs ≠ [])
    (hlength : outputs.length ≤ multiResizeOutputsCount) :
    MultiCropAndResizeAccepted src outputs crop interpolation none ↔
      ∀ dst ∈ outputs, CropAndResizeAccepted src dst crop interpolation := by
  have hknown : interpolation.value < interpolationTypeCount := by
    rcases hinterpolation with rfl | rfl <;> decide
  have hnotArea : interpolation ≠ .area := by
    rcases hinterpolation with rfl | rfl <;> decide
  constructor
  · intro h dst hdst
    have houtput := h.output dst hdst
    exact {
      region := h.region
      source := h.source
      target := houtput.accepted
      interpolation_lt := hknown
      format_eq := hformat.trans houtput.format.symm
      supported := .inr (.inr hformat)
      area := fun harea => absurd harea hnotArea }
  · intro h
    obtain ⟨first, hfirst⟩ := List.exists_mem_of_ne_nil outputs houtputs
    exact {
      region := (h first hfirst).region
      privacyMask := fun m hm => by cases hm
      source := (h first hfirst).source
      srcFormat := hformat
      outputs_le := hlength
      output := fun dst hdst => ⟨(h dst hdst).target, (h dst hdst).format_eq.symm.trans hformat⟩
      interpolation_eq := hinterpolation }

/-- One image in two messages, with the buffer lists of both and with what the two request blocks
held before: the same fields and, up to their positions in the buffer lists, the same planes, each
with an entry. The planes that the image does not have are not written in either. -/
structure SameImage (before after : ImageProperties) (buffers : List XrpIoctlBuffer)
    (before' after' : ImageProperties) (buffers' : List XrpIoctlBuffer) : Prop where
  width : after.width = after'.width
  height : after.height = after'.height
  format : after.format = after'.format
  planesCount : after.planesCount = after'.planesCount
  planes : after.resolve buffers = after'.resolve buffers'
  entries : ∀ plane ∈ after.resolve buffers, plane.buffer ≠ none
  unused : ∀ j (hj : j < maxPlanes), after.planesCount.toNat ≤ j →
    after.planes[j] = before.planes[j] ∧ after'.planes[j] = before'.planes[j]

/-- Placing an image writes the planes it has and no others. -/
theorem planes_placedImage_of_le {image : DspImageProperties} (h : Convertible image) (start : ℕ)
    (dst : ImageProperties) {j : ℕ} (hj : j < maxPlanes)
    (hunused : (placedImage image start dst).planesCount.toNat ≤ j) :
    (placedImage image start dst).planes[j] = dst.planes[j] := by
  have hcount : (placedImage image start dst).planesCount.toNat = image.planesCount.toNat :=
    h.toNat_toUInt32_planesCount
  rw [hcount] at hunused
  simp only [placedImage]
  rw [getElem_updatePrefix _ _ _ hj, if_neg (Nat.not_lt.mpr hunused)]

/-- Two accepted requests that marshal one image with one access describe it in the same way. -/
theorem Issued.sameImage {request request' : HostRequest} {inData inData' : ImagingRequest}
    {queue queue' : XrpIoctlQueue} (h : Issued request inData queue)
    (h' : Issued request' inData' queue') (haccepted : request.Accepted) (haccepted' : request'.Accepted)
    {image : Ptr DspImageProperties} {slot slot' : ImageSlot} {accessType : BufferAccessType}
    (hcommand : ⟨image, slot, accessType⟩ ∈ request.commands)
    (hcommand' : ⟨image, slot', accessType⟩ ∈ request'.commands) :
    SameImage (slot.get (request.arguments inData)) (slot.get queue.inData) queue.buffers
      (slot'.get (request'.arguments inData')) (slot'.get queue'.inData)
      queue'.buffers := by
  obtain ⟨position, hget⟩ := h.marshalled.placed.get_eq _ hcommand
  obtain ⟨position', hget'⟩ := h'.marshalled.placed.get_eq _ hcommand'
  have hplanes := h.resolve haccepted _ hcommand
  have hplanes' := h'.resolve haccepted' _ hcommand'
  have hconvertible := (haccepted.ready _ hcommand).convertible
  simp only at hget hget' hplanes hplanes'
  refine ⟨?_, ?_, ?_, ?_, hplanes.trans hplanes'.symm, ?_, ?_⟩
  · rw [hget, hget']
    rfl
  · rw [hget, hget']
    rfl
  · rw [hget, hget']
    rfl
  · rw [hget, hget']
    rfl
  · rw [hplanes]
    intro plane hplane
    obtain ⟨j, -, rfl⟩ := List.mem_map.mp hplane
    exact Option.some_ne_none _
  · intro j hj hunused
    rw [hget] at hunused
    rw [hget, hget']
    exact ⟨planes_placedImage_of_le hconvertible _ _ hj hunused,
      planes_placedImage_of_le hconvertible _ _ hj hunused⟩

/-- The ioctl of a multiple resize compared with that of the single resize into its output number
`j`; `inData` and `block` are what the two request blocks held before. -/
structure AgreesOn (inData block : ImagingRequest) (multi single : XrpIoctlQueue)
    (j : Fin interfaceMultiResizeOutputsCount) : Prop where
  output : SameImage (inData.multiCropAndResizeArgs.dst.get j)
    (multi.inData.multiCropAndResizeArgs.dst.get j)
    multi.buffers block.cropAndResizeArgs.dst single.inData.cropAndResizeArgs.dst
    single.buffers
  source : SameImage inData.multiCropAndResizeArgs.src multi.inData.multiCropAndResizeArgs.src
    multi.buffers block.cropAndResizeArgs.src single.inData.cropAndResizeArgs.src
    single.buffers
  sourcePlanes : multi.inData.multiCropAndResizeArgs.src.usedPlanes =
    single.inData.cropAndResizeArgs.src.usedPlanes
  cropStartX : multi.inData.multiCropAndResizeArgs.cropStartX = single.inData.cropAndResizeArgs.cropStartX
  cropStartY : multi.inData.multiCropAndResizeArgs.cropStartY = single.inData.cropAndResizeArgs.cropStartY
  cropEndX : multi.inData.multiCropAndResizeArgs.cropEndX = single.inData.cropAndResizeArgs.cropEndX
  cropEndY : multi.inData.multiCropAndResizeArgs.cropEndY = single.inData.cropAndResizeArgs.cropEndY
  interpolation : multi.inData.multiCropAndResizeArgs.interpolation =
    single.inData.cropAndResizeArgs.interpolation

/-- The ioctl of a multiple resize agrees with the ioctl of each of its single resizes. -/
theorem Issued.agreesOn {src : DspImageProperties} {outputs : List DspImageProperties} {crop : DspRoi}
    {interpolation : DspInterpolationType} {inData block : ImagingRequest} {multi single : XrpIoctlQueue}
    (h : Issued (.multiCropAndResize src outputs crop interpolation none) inData multi)
    (haccepted : MultiCropAndResizeAccepted src outputs crop interpolation none) {j : ℕ}
    (hj : j < outputs.length)
    (h' : Issued (.cropAndResize src outputs[j] crop interpolation) block single)
    (haccepted' : CropAndResizeAccepted src outputs[j] crop interpolation) :
    AgreesOn inData block multi single ⟨j, hj.trans_le haccepted.outputs_le⟩ where
  output := h.sameImage h' haccepted haccepted'
    (List.mem_cons_of_mem _ (indexedCommands_mem .multiDst .write (hj.trans_le haccepted.outputs_le) hj))
    (List.mem_cons_of_mem _ List.mem_cons_self)
  source := h.sameImage h' haccepted haccepted' List.mem_cons_self List.mem_cons_self
  sourcePlanes := by
    -- the source is the first image of both lists, so even its positions are the same
    have hsource : multi.inData.multiCropAndResizeArgs.src = _ := h.marshalled.placed.1
    have hsource' : single.inData.cropAndResizeArgs.src = _ := h'.marshalled.placed.1
    have hconvertible : Convertible src := (haccepted.source.ready_of_cropped .multiSrc .read).convertible
    rw [hsource, hsource']
    exact (usedPlanes_placedImage hconvertible _ _).trans (usedPlanes_placedImage hconvertible _ _).symm
  cropStartX := (h.marshalled.congr_args (fun r => r.multiCropAndResizeArgs.cropStartX) fun _ => rfl).trans
    (h'.marshalled.congr_args (fun r => r.cropAndResizeArgs.cropStartX) fun _ => rfl).symm
  cropStartY := (h.marshalled.congr_args (fun r => r.multiCropAndResizeArgs.cropStartY) fun _ => rfl).trans
    (h'.marshalled.congr_args (fun r => r.cropAndResizeArgs.cropStartY) fun _ => rfl).symm
  cropEndX := (h.marshalled.congr_args (fun r => r.multiCropAndResizeArgs.cropEndX) fun _ => rfl).trans
    (h'.marshalled.congr_args (fun r => r.cropAndResizeArgs.cropEndX) fun _ => rfl).symm
  cropEndY := (h.marshalled.congr_args (fun r => r.multiCropAndResizeArgs.cropEndY) fun _ => rfl).trans
    (h'.marshalled.congr_args (fun r => r.cropAndResizeArgs.cropEndY) fun _ => rfl).symm
  interpolation := (h.marshalled.congr_args (fun r => r.multiCropAndResizeArgs.interpolation)
    fun _ => rfl).trans
    (h'.marshalled.congr_args (fun r => r.cropAndResizeArgs.interpolation) fun _ => rfl).symm

/-- The single resize into one output of a multiple resize. -/
def DspMultiResizeParams.single (params : DspMultiResizeParams) (crop : DspRoi) (dst : DspImageProperties) :
    ImagingCall :=
  .cropAndResize (some ⟨params.src, some dst, params.interpolation⟩) (some crop)

/-- On an NV12 source, with at least one output and one of the shared interpolations, a multiple
resize makes an ioctl exactly when the single resize into each output does, and then what it issues
has the outputs of the single ioctls, in order, and their source and arguments, on the same
descriptor. -/
theorem multiCropAndResize_agrees {params : DspMultiResizeParams} {src : DspImageProperties} (crop : DspRoi)
    (hsrc : params.src = some src) (hformat : src.format = .nv12)
    (hinterpolation : params.interpolation = .bilinear ∨ params.interpolation = .bicubic)
    (hentry : ∃ dst, some dst ∈ params.dst.toList) (ioctl ioctl' : Int32 → XrpIoctlQueue → Int32)
    (perfInfo perfInfo' : UInt64) (device : Ptr DspDevice) (inData : ImagingRequest) :
    ((∃ fd multi, (fd, multi) ∈
      ((ImagingCall.multiCropAndResize (some params) (some crop)).run ioctl perfInfo
        device inData).ioctls) ↔
      ∀ dst ∈ params.outputs, ∀ block, ∃ fd single,
        (fd, single) ∈ ((params.single crop dst).run ioctl' perfInfo' device block).ioctls) ∧
    ∀ fd multi, (fd, multi) ∈ ((ImagingCall.multiCropAndResize (some params) (some crop)).run ioctl perfInfo
        device inData).ioctls →
      multi.inData.multiCropAndResizeArgs.dstCount.toNat = params.outputs.length ∧
      ∀ j (hj : j < params.outputs.length) block fd' single,
        (fd', single) ∈ ((params.single crop params.outputs[j]).run ioctl' perfInfo' device block).ioctls →
        fd = fd' ∧ AgreesOn inData block multi single ⟨j, hj.trans_le params.length_outputs_le⟩ := by
  have hmulti : (ImagingCall.multiCropAndResize (some params) (some crop)).Denotes
      (.multiCropAndResize src params.outputs crop params.interpolation none) :=
        .multiCropAndResize crop hsrc
  have hsingle (dst : DspImageProperties) : (params.single crop dst).Denotes
      (.cropAndResize src dst crop params.interpolation) := by
    rw [DspMultiResizeParams.single, hsrc]
    exact .cropAndResize src dst crop params.interpolation
  have houtputs : params.outputs ≠ [] := by
    obtain ⟨dst, hdst⟩ := hentry
    exact List.ne_nil_of_mem (List.reduceOption_mem_iff.mpr hdst)
  have haccepted_iff : MultiCropAndResizeAccepted src params.outputs crop params.interpolation none ↔
      ∀ dst ∈ params.outputs, CropAndResizeAccepted src dst crop params.interpolation :=
    multiCropAndResizeAccepted_iff hformat hinterpolation houtputs params.length_outputs_le
  refine ⟨?_, fun fd multi hissues => ?_⟩
  · simp only [hmulti.issues_iff, (hsingle _).issues_iff, HostRequest.Accepted, haccepted_iff]
    constructor
    · rintro ⟨hdevice, haccepted⟩ dst hdst block
      exact ⟨hdevice, haccepted dst hdst⟩
    · intro h
      obtain ⟨first, hfirst⟩ := List.exists_mem_of_ne_nil _ houtputs
      exact ⟨(h first hfirst inData).1, fun dst hdst => (h dst hdst inData).2⟩
  · obtain ⟨d, rfl, haccepted, hfd, hissued⟩ := hmulti.issued hissues
    refine ⟨hissued.dstCount params.length_outputs_le, fun j hj block fd' single hone => ?_⟩
    obtain ⟨_, hd, haccepted', hfd', hissued'⟩ := (hsingle _).issued hone
    cases hd
    exact ⟨hfd.trans hfd'.symm, hissued.agreesOn haccepted hj hissued' haccepted'⟩

/-- Two outputs of a small image, and the second of them taken alone. -/
theorem multiCropAndResize_agrees_smallOutputs :
    ∃ multi single,
      (3, multi) ∈ ((ImagingCall.multiCropAndResize (some smallOutputs) (some ⟨0, 0, 4, 4⟩)).run
        (fun _ _ => 0) 0 (some ⟨3⟩) default).ioctls ∧
      (3, single) ∈ ((smallOutputs.single ⟨0, 0, 4, 4⟩ (smallImage .nv12)).run (fun _ _ => -1)
        4096 (some ⟨3⟩) default).ioctls ∧
      multi.inData.multiCropAndResizeArgs.dstCount.toNat = 2 ∧ AgreesOn default default multi single 1 := by
  have smallSrc : smallOutputs.src = some (smallImage .nv12) := rfl
  have hagrees := multiCropAndResize_agrees ⟨0, 0, 4, 4⟩ smallSrc rfl (.inl rfl)
    ⟨smallImage .nv12, by simp [smallOutputs]⟩ (fun _ _ => 0) (fun _ _ => -1) 0 4096 (some ⟨3⟩) default
  have haccepted (dst : DspImageProperties) (hdst : dst ∈ smallOutputs.outputs) :
      CropAndResizeAccepted (smallImage .nv12) dst ⟨0, 0, 4, 4⟩ .bilinear := by
    have hmulti : MultiCropAndResizeAccepted (smallImage .nv12) smallOutputs.outputs ⟨0, 0, 4, 4⟩ .bilinear
      (some smallMask) := smallMulti_accepted
    have houtput := hmulti.output dst hdst
    exact ⟨hmulti.region, hmulti.source, houtput.accepted, by decide, houtput.format.symm, .inr (.inr rfl),
      fun h => by cases h⟩
  have hsingle (dst : DspImageProperties) (hdst : dst ∈ smallOutputs.outputs) (block : ImagingRequest) :
      ∃ single, (3, single) ∈ ((smallOutputs.single ⟨0, 0, 4, 4⟩ dst).run (fun _ _ => -1) 4096 (some ⟨3⟩)
        block).ioctls :=
    (ImagingCall.Denotes.cropAndResize (smallImage .nv12) dst ⟨0, 0, 4, 4⟩ .bilinear).issues
      (haccepted dst hdst)
      (fun _ _ => -1) 4096 ⟨3⟩ block
  obtain ⟨fd, multi, hissues⟩ := hagrees.1.mpr fun dst hdst block => ⟨3, hsingle dst hdst block⟩
  obtain ⟨single, hone⟩ := hsingle _
    (List.getElem_mem (show 1 < smallOutputs.outputs.length by decide)) default
  obtain ⟨hcount, hall⟩ := hagrees.2 fd multi hissues
  obtain ⟨rfl, hagreesOn⟩ := hall 1 (by decide) default 3 single hone
  exact ⟨multi, single, hissues, hone, hcount, hagreesOn⟩

end HailoDsp
