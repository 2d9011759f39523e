import HailoDsp.Blend
import HailoDsp.Blur
import HailoDsp.ConvertFormat
import HailoDsp.Dewarp
import HailoDsp.MultiResize

/-!
# The eight imaging entry points

An `ImagingCall` is a call of one of the public functions with its arguments as the caller
passes them. A `HostRequest` is such a call with all its pointers followed: the values that the
operation is about. Every operation is described here in the same terms, by the checks its
values have to pass, the images it marshals, the buffers around theirs and its arguments in the
request block, so that later results need not distinguish the operations.
-/

namespace HailoDsp

open EarlyExit

/-- A call of one of the imaging functions; the one with a `perf_info` argument and the one
without it differ only in that argument. -/
inductive ImagingCall
  | resize (resizeParams : Ptr DspResizeParams)
  | cropAndResize (resizeParams : Ptr DspResizeParams) (cropParams : Ptr DspRoi)
  | multiCropAndResize (resizeParams : Ptr DspMultiResizeParams) (cropParams : Ptr DspRoi)
  | multiCropAndResizePrivacyMask (resizeParams : Ptr DspMultiResizeParams) (cropParams : Ptr DspRoi)
      (privacyMaskParams : Ptr DspPrivacyMask)
  | blend (image : Ptr DspImageProperties) (overlays : Ptr (ℕ → DspOverlayProperties))
      (overlaysCount : UInt64)
  | blur (image : Ptr DspImageProperties) (rois : Ptr (ℕ → DspRoi)) (roisCount : UInt64)
      (kernelSize : UInt32)
  | convertFormat (src dst : Ptr DspImageProperties)
  | dewarp (src dst : Ptr DspImageProperties) (mesh : Ptr DspDewarpMesh)
      (interpolation : DspInterpolationType)

/-- The operation up to its call of the driver, with a request block of the given contents. -/
def ImagingCall.perf (device : Ptr DspDevice) (inData : ImagingRequest) : ImagingCall → Call Submission
  | resize params => dspResizePerf device params inData
  | cropAndResize params crop => dspCropAndResizePerf device params crop inData
  | multiCropAndResize params crop => dspMultiCropAndResizePerf device params crop none inData
  | multiCropAndResizePrivacyMask params crop mask =>
    dspMultiCropAndResizePerf device params crop mask inData
  | blend image overlays count => dspBlendPerf device image overlays count inData
  | blur image rois count kernelSize => dspBlurPerf device image rois count kernelSize inData
  | convertFormat src dst => dspConvertFormatPerf device src dst inData
  | dewarp src dst mesh interpolation => dspDewarpPerf device src dst mesh interpolation inData

/-- The whole call, on a system where `ioctl` answers as given. -/
def ImagingCall.run (ioctl : Int32 → XrpIoctlQueue → Int32) (perfInfo : UInt64) (device : Ptr DspDevice)
    (inData : ImagingRequest) (call : ImagingCall) : Outcome :=
  (call.perf device inData).finish ioctl perfInfo

/-- The values that a call is about. -/
inductive HostRequest
  | cropAndResize (src dst : DspImageProperties) (crop : DspRoi) (interpolation : DspInterpolationType)
  | multiCropAndResize (src : DspImageProperties) (outputs : List DspImageProperties) (crop : DspRoi)
      (interpolation : DspInterpolationType) (mask : Ptr DspPrivacyMask)
  | blend (background : DspImageProperties) (overlays : ℕ → DspOverlayProperties) (overlaysCount : UInt64)
  | blur (image : DspImageProperties) (rois : ℕ → DspRoi) (roisCount : UInt64) (kernelSize : UInt32)
  | convertFormat (src dst : DspImageProperties)
  | dewarp (src dst : DspImageProperties) (mesh : DspDewarpMesh) (interpolation : DspInterpolationType)

/-- None of the pointers that lead to the values of the request is NULL. -/
inductive ImagingCall.Denotes : ImagingCall → HostRequest → Prop
  | resize (src dst : DspImageProperties) (interpolation : DspInterpolationType) :
    Denotes (.resize (some ⟨some src, some dst, interpolation⟩))
      (.cropAndResize src dst (wholeImage src) interpolation)
  | cropAndResize (src dst : DspImageProperties) (crop : DspRoi) (interpolation : DspInterpolationType) :
    Denotes (.cropAndResize (some ⟨some src, some dst, interpolation⟩) (some crop))
      (.cropAndResize src dst crop interpolation)
  | multiCropAndResize {params : DspMultiResizeParams} {src : DspImageProperties} (crop : DspRoi)
      (hsrc : params.src = some src) :
    Denotes (.multiCropAndResize (some params) (some crop))
      (.multiCropAndResize src params.outputs crop params.interpolation none)
  | multiCropAndResizePrivacyMask {params : DspMultiResizeParams} {src : DspImageProperties} (crop : DspRoi)
      (mask : Ptr DspPrivacyMask) (hsrc : params.src = some src) :
    Denotes (.multiCropAndResizePrivacyMask (some params) (some crop) mask)
      (.multiCropAndResize src params.outputs crop params.interpolation mask)
  | blend (image : DspImageProperties) (overlays : ℕ → DspOverlayProperties) (overlaysCount : UInt64) :
    Denotes (.blend (some image) (some overlays) overlaysCount) (.blend image overlays overlaysCount)
  | blur (image : DspImageProperties) (rois : ℕ → DspRoi) (roisCount : UInt64) (kernelSize : UInt32) :
    Denotes (.blur (some image) (some rois) roisCount kernelSize) (.blur image rois roisCount kernelSize)
  | convertFormat (src dst : DspImageProperties) :
    Denotes (.convertFormat (some src) (some dst)) (.convertFormat src dst)
  | dewarp (src dst : DspImageProperties) (mesh : DspDewarpMesh) (interpolation : DspInterpolationType) :
    Denotes (.dewarp (some src) (some dst) (some mesh) interpolation) (.dewarp src dst mesh interpolation)

namespace HostRequest

/-- The checks of the operation, all passed. -/
def Accepted : HostRequest → Prop
  | cropAndResize src dst crop interpolation => CropAndResizeAccepted src dst crop interpolation
  | multiCropAndResize src outputs crop interpolation mask =>
    MultiCropAndResizeAccepted src outputs crop interpolation mask
  | blend background overlays count => BlendAccepted background overlays count
  | blur image rois count kernelSize => BlurAccepted image rois count kernelSize
  | convertFormat src dst => ConvertFormatAccepted src dst
  | dewarp src dst mesh interpolation => DewarpAccepted src dst mesh interpolation

/-- The images that the operation marshals, in order. -/
def commands : HostRequest → List CommandImage
  | cropAndResize src dst _ _ => cropAndResizeCommands (some src) (some dst)
  | multiCropAndResize src outputs _ _ _ => multiCropAndResizeCommands (some src) outputs
  | blend background overlays count => blendCommands (some background) overlays count.toNat
  | blur image _ _ _ => blurCommands (some image)
  | convertFormat src dst => convertFormatCommands (some src) (some dst)
  | dewarp src dst _ _ => dewarpCommands (some src) (some dst)

/-- The buffers of the planes of all images. -/
def imageBuffers (request : HostRequest) : List XrpIoctlBuffer :=
  request.commands.flatMap CommandImage.planeBuffers

/-- The buffers in front of those of the images. -/
def leading : HostRequest → List XrpIoctlBuffer
  | dewarp _ _ mesh _ => [meshBuffer mesh]
  | _ => []

/-- The buffers behind those of the images. -/
def trailing : HostRequest → List XrpIoctlBuffer
  | multiCropAndResize src _ _ _ mask => maskBuffers src mask
  | _ => []

/-- The buffers that the operation hands to the driver. -/
def buffers (request : HostRequest) : List XrpIoctlBuffer :=
  request.leading ++ request.imageBuffers ++ request.trailing

/-- The operation on the wire. -/
def operation : HostRequest → ImagingOperation
  | cropAndResize _ _ _ _ => .cropAndResize
  | multiCropAndResize _ _ _ _ mask => multiCropAndResizeOperation mask
  | blend _ _ _ => .blend
  | blur _ _ _ _ => .blur
  | convertFormat _ _ => .convertFormat
  | dewarp _ _ _ _ => .dewarp

/-- The request block except for its images. -/
def arguments (request : HostRequest) (inData : ImagingRequest) : ImagingRequest :=
  match request with
  | cropAndResize _ _ crop interpolation => cropAndResizeArguments crop interpolation inData
  | multiCropAndResize src outputs crop interpolation mask =>
    withPrivacyMask src ((multiCropAndResizeCommands (some src) outputs).flatMap
      CommandImage.planeBuffers).length
      (multiCropAndResizeArguments crop interpolation outputs.length mask inData) mask
  | blend _ overlays count => blendArguments overlays count inData
  | blur _ rois count kernelSize => blurArguments rois count kernelSize inData
  | convertFormat _ _ => convertFormatArguments inData
  | dewarp _ _ mesh interpolation => dewarpArguments mesh interpolation inData

end HostRequest

/-- The images of an accepted request can be marshalled. -/
theorem HostRequest.Accepted.ready {request : HostRequest} (h : request.Accepted) :
    ∀ command ∈ request.commands, command.Ready := by
  cases request with
  | cropAndResize src dst crop interpolation =>
    simpa [HostRequest.commands, cropAndResizeCommands] using
      ⟨h.source.ready_of_cropped _ _, h.target.ready _ _⟩
  | multiCropAndResize src outputs crop interpolation mask =>
    exact multiCropAndResizeCommands_ready h.source h.output
  | blend background overlays count =>
    exact blendCommands_ready h.accepted fun i hi => (h.overlay i hi).accepted
  | blur image rois count kernelSize =>
    simpa [HostRequest.commands, blurCommands] using h.accepted.ready _ _
  | convertFormat src dst => exact ConvertFormatAccepted.ready h
  | dewarp src dst mesh interpolation =>
    simpa [HostRequest.commands, dewarpCommands] using ⟨h.source.ready _ _, h.target.ready _ _⟩

/-- The images of a request go to different places of the request block. -/
theorem HostRequest.commands_nodup (request : HostRequest) :
    (request.commands.map CommandImage.dspApiImage).Nodup := by
  cases request with
  | multiCropAndResize src outputs crop interpolation mask => exact multiCropAndResizeCommands_nodup _ _
  | blend background overlays count => exact blendCommands_nodup _ _ _
  | _ => simp [commands, cropAndResizeCommands, blurCommands, convertFormatCommands, dewarpCommands]

/-- The tag of the request block. -/
theorem HostRequest.operation_arguments (request : HostRequest) (inData : ImagingRequest) :
    (request.arguments inData).operation = request.operation.tag := by
  cases request with
  | multiCropAndResize src outputs crop interpolation mask => cases mask <;> rfl
  | _ => rfl

/-- What an operation hands to the driver. -/
structure Submitted (request : HostRequest) (inData : ImagingRequest) (submission : Submission) : Prop where
  buffers : submission.bufferList.buffers = request.buffers
  marshalled : Marshalled request.commands request.leading.length (request.arguments inData)
    submission.request

/-- A command that only has images. -/
theorem Submitted.of_images {request : HostRequest} {inData after : ImagingRequest} {fd : Int32}
    (hleading : request.leading = []) (htrailing : request.trailing = [])
    (h : Marshalled request.commands 0 (request.arguments inData) after) :
    Submitted request inData ⟨fd, after, ⟨request.imageBuffers⟩⟩ :=
  ⟨by simp [HostRequest.buffers, hleading, htrailing], by rwa [hleading]⟩

/-- What the argument of an ioctl carries: the buffers and the marshalled block of a request. -/
structure Issued (request : HostRequest) (inData : ImagingRequest) (queue : XrpIoctlQueue) : Prop where
  buffers : queue.buffers = request.buffers
  marshalled : Marshalled request.commands request.leading.length (request.arguments inData) queue.inData

/-- What an operation hands to the driver is carried by the argument of the ioctl. -/
theorem Submitted.issued {request : HostRequest} {inData : ImagingRequest} {submission : Submission}
    (h : Submitted request inData submission) (perfInfo : UInt64) :
    Issued request inData (submission.queue perfInfo) where
  buffers := (submission.queue_buffers perfInfo).trans h.buffers
  marshalled := by
    rw [submission.queue_inData]
    exact h.marshalled

/-- The number of outputs on the wire. -/
theorem Issued.dstCount {src : DspImageProperties} {outputs : List DspImageProperties} {crop : DspRoi}
    {interpolation : DspInterpolationType} {mask : Ptr DspPrivacyMask} {inData : ImagingRequest}
    {queue : XrpIoctlQueue}
    (h : Issued (.multiCropAndResize src outputs crop interpolation mask) inData queue)
    (hlength : outputs.length ≤ multiResizeOutputsCount) :
    queue.inData.multiCropAndResizeArgs.dstCount.toNat = outputs.length := by
  have hcount : queue.inData.multiCropAndResizeArgs.dstCount = UInt8.ofNat outputs.length := by
    refine (h.marshalled.congr_args (fun r => r.multiCropAndResizeArgs.dstCount) fun _ => rfl).trans ?_
    cases mask <;> rfl
  rw [hcount]
  exact UInt8.toNat_ofNat_of_lt' (hlength.trans_lt (by decide))

/-- The offsets of an overlay on the wire. -/
theorem Issued.offsets {background : DspImageProperties} {overlays : ℕ → DspOverlayProperties}
    {count : UInt64} {inData : ImagingRequest} {queue : XrpIoctlQueue}
    (h : Issued (.blend background overlays count) inData queue) {i : ℕ} (hi : i < count.toNat)
    (hroom : i < maxBlendOverlays) :
    queue.inData.blendArgs.overlays[i].xOffset = (overlays i).xOffset.toUInt32 ∧
      queue.inData.blendArgs.overlays[i].yOffset = (overlays i).yOffset.toUInt32 := by
  have hargs : queue.inData.blendArgs.overlays.map (fun overlay => (overlay.xOffset, overlay.yOffset)) =
      (updatePrefix inData.blendArgs.overlays count.toNat fun i => placeOverlay (overlays i)).map
        (fun overlay => (overlay.xOffset, overlay.yOffset)) :=
    h.marshalled.congr_args (fun r => r.blendArgs.overlays.map fun overlay =>
      (overlay.xOffset, overlay.yOffset))
      fun _ => by simp [ImagingRequest.withoutImages, Vector.map_map, Function.comp_def]
  have hoffset := congrArg (fun array => array[i]) hargs
  simpa only [Vector.getElem_map, getElem_updatePrefix _ _ _ hroom, if_pos hi, placeOverlay, Prod.mk.injEq]
    using hoffset

/-- The mesh on the wire, and its buffer. -/
theorem Issued.mesh_eq {src dst : DspImageProperties} {mesh : DspDewarpMesh}
    {interpolation : DspInterpolationType} {inData : ImagingRequest} {queue : XrpIoctlQueue}
    (h : Issued (.dewarp src dst mesh interpolation) inData queue) :
    queue.inData.dewarpArgs.mesh =
        ⟨0, (meshLineStride mesh).toUInt32, (meshLineStride mesh * mesh.meshHeight).toUInt32⟩ ∧
      queue.buffers[0]? = some (meshBuffer mesh) := by
  refine ⟨h.marshalled.congr_args (fun r => r.dewarpArgs.mesh) fun _ => rfl, ?_⟩
  rw [h.buffers]
  rfl

/-- The privacy mask on the wire, and the buffer of its bitmask behind those of the images. -/
theorem Issued.privacyMask_eq {src : DspImageProperties} {outputs : List DspImageProperties} {crop : DspRoi}
    {interpolation : DspInterpolationType} {mask : DspPrivacyMask} {inData : ImagingRequest}
    {queue : XrpIoctlQueue}
    (h : Issued (.multiCropAndResize src outputs crop interpolation (some mask)) inData queue) :
    queue.inData.multiCropAndResizeArgs.privacyMask =
        privacyMaskInData src mask ((multiCropAndResizeCommands (some src) outputs).flatMap
          CommandImage.planeBuffers).length inData.multiCropAndResizeArgs.privacyMask ∧
      queue.buffers[((multiCropAndResizeCommands (some src) outputs).flatMap
        CommandImage.planeBuffers).length]? = some (bitmaskBuffer src mask) := by
  refine ⟨h.marshalled.congr_args (fun r => r.multiCropAndResizeArgs.privacyMask) fun _ => rfl, ?_⟩
  rw [h.buffers]
  simp [HostRequest.buffers, HostRequest.leading, HostRequest.trailing, HostRequest.imageBuffers,
    HostRequest.commands, maskBuffers]

/-- Every operation whose checks are passed reaches the driver. -/
theorem ImagingCall.perf_finishes {call : ImagingCall} {request : HostRequest}
    (hdenotes : call.Denotes request) (h : request.Accepted) (device : DspDevice)
    (inData : ImagingRequest) :
    ∃ submission, call.perf (some device) inData = .ok submission ∧ submission.fd = device.fd ∧
      Submitted request inData submission := by
  cases hdenotes with
  | resize src dst interpolation =>
    obtain ⟨after, hrun, hmarshalled⟩ := dspCropAndResizePerf_finishes h device inData
    exact ⟨_, (dspResizePerf_eq _ rfl _).trans hrun, rfl, .of_images rfl rfl hmarshalled⟩
  | cropAndResize src dst crop interpolation =>
    obtain ⟨after, hrun, hmarshalled⟩ := dspCropAndResizePerf_finishes h device inData
    exact ⟨_, hrun, rfl, .of_images rfl rfl hmarshalled⟩
  | multiCropAndResize crop hsrc =>
    obtain ⟨after, hrun, hmarshalled⟩ := dspMultiCropAndResizePerf_finishes hsrc h device inData
    exact ⟨_, hrun, rfl, rfl, hmarshalled⟩
  | multiCropAndResizePrivacyMask crop mask hsrc =>
    obtain ⟨after, hrun, hmarshalled⟩ := dspMultiCropAndResizePerf_finishes hsrc h device inData
    exact ⟨_, hrun, rfl, rfl, hmarshalled⟩
  | blend image overlays count =>
    obtain ⟨after, hrun, hmarshalled⟩ := dspBlendPerf_finishes h device inData
    exact ⟨_, hrun, rfl, .of_images rfl rfl hmarshalled⟩
  | blur image rois count kernelSize =>
    obtain ⟨after, hrun, hmarshalled⟩ := dspBlurPerf_finishes h device inData
    exact ⟨_, hrun, rfl, .of_images rfl rfl hmarshalled⟩
  | convertFormat src dst =>
    obtain ⟨after, hrun, hmarshalled⟩ := dspConvertFormatPerf_finishes h device inData
    exact ⟨_, hrun, rfl, .of_images rfl rfl hmarshalled⟩
  | dewarp src dst mesh interpolation =>
    obtain ⟨after, hrun, hmarshalled⟩ := dspDewarpPerf_finishes h device inData
    exact ⟨_, hrun, rfl, by simp [HostRequest.buffers, HostRequest.imageBuffers, HostRequest.leading,
      HostRequest.trailing, HostRequest.commands], hmarshalled⟩

/-- What reaches the driver has passed every check of its operation. -/
theorem ImagingCall.perf_accepted {call : ImagingCall} {device : Ptr DspDevice} {inData : ImagingRequest}
    {submission : Submission} (h : call.perf device inData = .ok submission) :
    ∃ d request, device = some d ∧ call.Denotes request ∧ request.Accepted := by
  cases call with
  | resize params =>
    obtain ⟨p, src, rfl, hsrc⟩ := dspResizePerf_ok h
    obtain ⟨d, _, s, t, c, rfl, hp, hs, ht, hc, haccepted⟩ :=
      dspCropAndResizePerf_accepted ((dspResizePerf_eq device hsrc inData).symm.trans h)
    obtain ⟨psrc, pdst, i⟩ := p
    cases hp
    cases hsrc.symm.trans hs
    cases hc
    obtain rfl : psrc = some src := hsrc
    obtain rfl : pdst = some t := ht
    exact ⟨d, _, rfl, .resize src t i, haccepted⟩
  | cropAndResize params crop =>
    obtain ⟨d, ⟨psrc, pdst, i⟩, s, t, c, rfl, rfl, hs, ht, rfl, haccepted⟩ :=
      dspCropAndResizePerf_accepted h
    obtain rfl : psrc = some s := hs
    obtain rfl : pdst = some t := ht
    exact ⟨d, _, rfl, .cropAndResize s t c i, haccepted⟩
  | multiCropAndResize params crop =>
    obtain ⟨d, p, s, c, rfl, rfl, hs, rfl, haccepted⟩ := dspMultiCropAndResizePerf_accepted h
    exact ⟨d, _, rfl, .multiCropAndResize c hs, haccepted⟩
  | multiCropAndResizePrivacyMask params crop mask =>
    obtain ⟨d, p, s, c, rfl, rfl, hs, rfl, haccepted⟩ := dspMultiCropAndResizePerf_accepted h
    exact ⟨d, _, rfl, .multiCropAndResizePrivacyMask c mask hs, haccepted⟩
  | blend image overlays count =>
    obtain ⟨d, b, o, rfl, rfl, rfl, haccepted⟩ := dspBlendPerf_accepted h
    exact ⟨d, _, rfl, .blend b o count, haccepted⟩
  | blur image rois count kernelSize =>
    obtain ⟨d, i, r, rfl, rfl, rfl, haccepted⟩ := dspBlurPerf_accepted h
    exact ⟨d, _, rfl, .blur i r count kernelSize, haccepted⟩
  | convertFormat src dst =>
    obtain ⟨d, s, t, rfl, rfl, rfl, haccepted⟩ := dspConvertFormatPerf_accepted h
    exact ⟨d, _, rfl, .convertFormat s t, haccepted⟩
  | dewarp src dst mesh interpolation =>
    obtain ⟨d, s, t, m, rfl, rfl, rfl, rfl, haccepted⟩ := dspDewarpPerf_accepted h
    exact ⟨d, _, rfl, .dewarp s t m interpolation, haccepted⟩

/-- What reaches the driver is the marshalled form of an accepted request. -/
theorem ImagingCall.perf_submitted {call : ImagingCall} {device : Ptr DspDevice} {inData : ImagingRequest}
    {submission : Submission} (h : call.perf device inData = .ok submission) :
    ∃ d request, device = some d ∧ call.Denotes request ∧ request.Accepted ∧ submission.fd = d.fd ∧
      Submitted request inData submission := by
  obtain ⟨d, request, rfl, hdenotes, haccepted⟩ := perf_accepted h
  obtain ⟨submission', hrun, hfd, hsubmitted⟩ := perf_finishes hdenotes haccepted d inData
  cases h.symm.trans hrun
  exact ⟨d, request, rfl, hdenotes, haccepted, hfd, hsubmitted⟩

/-- Two outputs of a small image, at the second and the fifth entry of the array. -/
def smallOutputs : DspMultiResizeParams where
  src := some (smallImage .nv12)
  dst := #v[none, some (smallImage .nv12), none, none, some (smallImage .nv12), none, none]
  interpolation := .bilinear

/-- A privacy mask of one region. -/
def smallMask : DspPrivacyMask := ⟨8192, 16, 128, 128, some fun _ => ⟨0, 0, 1, 1⟩, 1⟩

/-- A small image resized into two outputs under a privacy mask. -/
def smallMulti : ImagingCall :=
  .multiCropAndResizePrivacyMask (some smallOutputs) (some ⟨0, 0, 4, 4⟩) (some smallMask)

/-- The values of that call. -/
def smallMultiRequest : HostRequest :=
  .multiCropAndResize (smallImage .nv12) smallOutputs.outputs ⟨0, 0, 4, 4⟩ .bilinear (some smallMask)

/-- The pointers of that call are in place. -/
theorem smallMulti_denotes : smallMulti.Denotes smallMultiRequest :=
  @ImagingCall.Denotes.multiCropAndResizePrivacyMask smallOutputs _ ⟨0, 0, 4, 4⟩ (some smallMask) rfl

/-- The call passes its checks. -/
theorem smallMulti_accepted : smallMultiRequest.Accepted where
  region := ⟨by decide, by decide, by decide, by decide⟩
  privacyMask m hm := by
    cases hm
    have hroi : MaskRoiAccepted (smallImage .nv12) ⟨0, 0, 1, 1⟩ :=
      ⟨by decide, by decide, by decide +kernel, by decide +kernel⟩
    exact ⟨⟨by decide, by decide, by decide⟩, by simp [smallMask], fun _ _ => hroi⟩
  source := smallImage_accepted (by decide)
  srcFormat := rfl
  outputs_le := smallOutputs.length_outputs_le
  output dst hdst := by
    have hdst : dst ∈ [smallImage .nv12, smallImage .nv12] := hdst
    obtain rfl : dst = smallImage .nv12 := by simpa using hdst
    exact ⟨smallImage_accepted (by decide), rfl⟩
  interpolation_eq := .inl rfl

/-- A call denotes at most one request. -/
theorem ImagingCall.Denotes.unique {call : ImagingCall} {request request' : HostRequest}
    (h : call.Denotes request) (h' : call.Denotes request') : request = request' := by
  cases h with
  | multiCropAndResize crop hsrc =>
    cases h' with
    | multiCropAndResize crop' hsrc' =>
      cases hsrc.symm.trans hsrc'
      rfl
  | multiCropAndResizePrivacyMask crop mask hsrc =>
    cases h' with
    | multiCropAndResizePrivacyMask crop' mask' hsrc' =>
      cases hsrc.symm.trans hsrc'
      rfl
  | _ =>
    cases h'
    rfl

/-- A call that denotes a request reaches the driver with that request, accepted and marshalled. -/
theorem ImagingCall.Denotes.submitted {call : ImagingCall} {request : HostRequest}
    (hdenotes : call.Denotes request) {device : Ptr DspDevice} {inData : ImagingRequest}
    {submission : Submission} (h : call.perf device inData = .ok submission) :
    ∃ d, device = some d ∧ request.Accepted ∧ submission.fd = d.fd ∧
    Submitted request inData submission := by
  obtain ⟨d, request', hdevice, hdenotes', hsubmitted⟩ := ImagingCall.perf_submitted h
  obtain rfl := hdenotes.unique hdenotes'
  exact ⟨d, hdevice, hsubmitted⟩

section Ioctls

variable {call : ImagingCall} {request : HostRequest} {ioctl : Int32 → XrpIoctlQueue → Int32}
  {perfInfo : UInt64}
  {inData : ImagingRequest}

/-- An accepted request makes its ioctl, on the descriptor of its device. -/
theorem ImagingCall.Denotes.issues (hdenotes : call.Denotes request) (haccepted : request.Accepted)
    (ioctl : Int32 → XrpIoctlQueue → Int32) (perfInfo : UInt64) (device : DspDevice)
    (inData : ImagingRequest) :
    ∃ queue, (device.fd, queue) ∈ (call.run ioctl perfInfo (some device) inData).ioctls := by
  obtain ⟨submission, hperf, hfd, -⟩ := ImagingCall.perf_finishes hdenotes haccepted device inData
  exact ⟨submission.queue perfInfo, Call.mem_ioctls_finish.mpr ⟨submission, hperf, hfd.symm, rfl⟩⟩

/-- Every ioctl of a call carries an accepted request, on the descriptor of the device. -/
theorem ImagingCall.run_issued {device : Ptr DspDevice} {fd : Int32} {queue : XrpIoctlQueue}
    (h : (fd, queue) ∈ (call.run ioctl perfInfo device inData).ioctls) :
    ∃ d request, device = some d ∧ call.Denotes request ∧ request.Accepted ∧ fd = d.fd ∧
      Issued request inData queue := by
  obtain ⟨submission, hperf, rfl, rfl⟩ := Call.mem_ioctls_finish.mp h
  obtain ⟨d, request, rfl, hdenotes, haccepted, hfd, hsubmitted⟩ := ImagingCall.perf_submitted hperf
  exact ⟨d, request, rfl, hdenotes, haccepted, hfd, hsubmitted.issued perfInfo⟩

/-- The ioctls of a call that denotes a request carry that request. -/
theorem ImagingCall.Denotes.issued (hdenotes : call.Denotes request) {device : Ptr DspDevice} {fd : Int32}
    {queue : XrpIoctlQueue} (h : (fd, queue) ∈ (call.run ioctl perfInfo device inData).ioctls) :
    ∃ d, device = some d ∧ request.Accepted ∧ fd = d.fd ∧ Issued request inData queue := by
  obtain ⟨d, request', hdevice, hdenotes', hissued⟩ := ImagingCall.run_issued h
  obtain rfl := hdenotes.unique hdenotes'
  exact ⟨d, hdevice, hissued⟩

/-- A call that denotes a request makes an ioctl exactly when it has a device and the request is
accepted. -/
theorem ImagingCall.Denotes.issues_iff (hdenotes : call.Denotes request)
    (ioctl : Int32 → XrpIoctlQueue → Int32) (perfInfo : UInt64) (device : Ptr DspDevice)
    (inData : ImagingRequest) :
    (∃ fd queue, (fd, queue) ∈ (call.run ioctl perfInfo device inData).ioctls) ↔
      device ≠ none ∧ request.Accepted := by
  constructor
  · rintro ⟨fd, queue, hissues⟩
    obtain ⟨d, rfl, haccepted, -⟩ := hdenotes.issued hissues
    exact ⟨by simp, haccepted⟩
  · rintro ⟨hdevice, haccepted⟩
    obtain ⟨d, rfl⟩ := Option.ne_none_iff_exists'.mp hdevice
    obtain ⟨queue, hissues⟩ := hdenotes.issues haccepted ioctl perfInfo d inData
    exact ⟨d.fd, queue, hissues⟩

end Ioctls

/-- A call that gets to the loop over the regions of a privacy mask whose array of regions is NULL. -/
def ImagingCall.ReadsNullRois (device : Ptr DspDevice) : ImagingCall → Prop
  | multiCropAndResizePrivacyMask params crop mask => NullRoisRead device params crop mask
  | _ => False

/-- Every other call follows no NULL pointer, stays inside the request block and has one error status. -/
theorem ImagingCall.perf_stops {call : ImagingCall} {device : Ptr DspDevice}
    (h : ¬ call.ReadsNullRois device) (inData : ImagingRequest) :
    StopsOnlyWith invalidArgument (call.perf device inData) := by
  cases call with
  | resize params => exact dspResizePerf_stops device params inData
  | cropAndResize params crop => exact dspCropAndResizePerf_stops device params crop inData
  | multiCropAndResize params crop =>
    refine @dspMultiCropAndResizePerf_stops device params crop none ?_ inData
    rintro ⟨-, _, _, _, _, -, -, -, -, hmask, -⟩
    cases hmask
  | multiCropAndResizePrivacyMask params crop mask => exact dspMultiCropAndResizePerf_stops h inData
  | blend image overlays count => exact dspBlendPerf_stops device image overlays count inData
  | blur image rois count kernelSize => exact dspBlurPerf_stops device image rois count kernelSize inData
  | convertFormat src dst => exact dspConvertFormatPerf_stops device src dst inData
  | dewarp src dst mesh interpolation => exact dspDewarpPerf_stops device src dst mesh interpolation inData

/-- A call that reads a NULL array of regions has no defined result. -/
theorem ImagingCall.perf_null {call : ImagingCall} {device : Ptr DspDevice} (h : call.ReadsNullRois device)
    (inData : ImagingRequest) : call.perf device inData = .error (.fault .nullPointer) := by
  cases call with
  | multiCropAndResizePrivacyMask params crop mask => exact dspMultiCropAndResizePerf_null h inData
  | _ => cases h

end HailoDsp
