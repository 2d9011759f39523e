import HailoDsp.Imaging

/-!
# How a call ends

A call with all its pointers in place either fails one of its checks, and then returns
`DSP_INVALID_ARGUMENT` without an ioctl, or issues exactly one `XRP_IOCTL_QUEUE` and reports how
that went. A NULL pointer is rejected in the same way, with one exception: the array of regions
of a privacy mask is read without having been compared with NULL.
-/

namespace HailoDsp

open EarlyExit

/-- A NULL pointer inside an image: its planes array, or the address of a plane in user memory. -/
def DspImageProperties.HasNull (image : DspImageProperties) : Prop :=
  image.planes = none ∨
    image.memory = .userptr ∧ ∃ j < image.planesCount.toNat, (image.plane j).userptr = 0

/-- A pointer to an image that is NULL or leads to a NULL pointer. -/
def NullImage (image : Ptr DspImageProperties) : Prop :=
  image = none ∨ ∃ i, image = some i ∧ i.HasNull

/-- A NULL pointer anywhere in the arguments of a call, other than a multiple-resize output or
the privacy mask argument itself. -/
def ImagingCall.HasNullArgument : ImagingCall → Prop
  | resize params => params = none ∨ ∃ p, params = some p ∧ (NullImage p.src ∨ NullImage p.dst)
  | cropAndResize params crop =>
    params = none ∨ crop = none ∨ ∃ p, params = some p ∧ (NullImage p.src ∨ NullImage p.dst)
  | multiCropAndResize params crop =>
    params = none ∨ crop = none ∨
      ∃ p, params = some p ∧ (NullImage p.src ∨ ∃ dst ∈ p.outputs, dst.HasNull)
  | multiCropAndResizePrivacyMask params crop mask =>
    params = none ∨ crop = none ∨
      (∃ p, params = some p ∧ (NullImage p.src ∨ ∃ dst ∈ p.outputs, dst.HasNull)) ∨
      ∃ m, mask = some m ∧ (m.bitmask = 0 ∨ m.rois = none)
  | blend image overlays count =>
    NullImage image ∨ overlays = none ∨
      ∃ o, overlays = some o ∧ ∃ i < count.toNat, (o i).overlay.HasNull
  | blur image rois _ _ => NullImage image ∨ rois = none
  | convertFormat src dst => NullImage src ∨ NullImage dst
  | dewarp src dst mesh _ =>
    NullImage src ∨ NullImage dst ∨ mesh = none ∨ ∃ m, mesh = some m ∧ m.meshTable = 0

/-- A NULL pointer in a call, its device included. -/
def ImagingCall.HasNull (device : Ptr DspDevice) (call : ImagingCall) : Prop :=
  device = none ∨ call.HasNullArgument

/-- An image whose planes the validator accepts, whatever its size, has no NULL pointer. -/
theorem not_hasNull_of_planes {image : DspImageProperties} (hconvertible : Convertible image)
    (hplane : ∀ j < image.format.layouts.length, (image.plane j).userptr ≠ 0) : ¬ image.HasNull := by
  rintro (hplanes | ⟨-, j, hj, hnull⟩)
  · exact hconvertible.planes_ne hplanes
  · rw [hconvertible.toNat_planesCount] at hj
    exact hplane j hj hnull

/-- A validated image has no NULL pointer. -/
theorem ImageAccepted.not_hasNull {image : DspImageProperties} (h : ImageAccepted image) :
    ¬ image.HasNull :=
  not_hasNull_of_planes h.convertible fun j hj => (h.plane j hj).userptr_ne

/-- A source has no NULL pointer when its crop is validated. -/
theorem ImageAccepted.not_hasNull_of_cropped {src : DspImageProperties} {crop : DspRoi}
    (h : ImageAccepted (croppedSrc src crop)) : ¬ src.HasNull :=
  not_hasNull_of_planes ⟨h.planes_ne, h.known, h.count⟩ fun j hj => (h.plane j hj).userptr_ne

/-- A pointer to an image without NULL pointers. -/
theorem not_nullImage {image : DspImageProperties} (h : ¬ image.HasNull) : ¬ NullImage (some image) := by
  rintro (hnone | ⟨i, hi, hnull⟩)
  · cases hnone
  · cases hi
    exact h hnull

/-- A call that denotes an accepted request has no NULL pointer among its arguments. -/
theorem ImagingCall.Denotes.not_hasNullArgument {call : ImagingCall} {request : HostRequest}
    (hdenotes : call.Denotes request) (h : request.Accepted) : ¬ call.HasNullArgument := by
  cases hdenotes with
  | resize src dst interpolation =>
    rintro (hnone | ⟨p, hp, hsrc | hdst⟩)
    · cases hnone
    · cases hp
      exact not_nullImage h.source.not_hasNull_of_cropped hsrc
    · cases hp
      exact not_nullImage h.target.not_hasNull hdst
  | cropAndResize src dst crop interpolation =>
    rintro (hnone | hnone | ⟨p, hp, hsrc | hdst⟩)
    · cases hnone
    · cases hnone
    · cases hp
      exact not_nullImage h.source.not_hasNull_of_cropped hsrc
    · cases hp
      exact not_nullImage h.target.not_hasNull hdst
  | multiCropAndResize crop hsrc =>
    rintro (hnone | hnone | ⟨p, hp, hnull | ⟨dst, hdst, hnull⟩⟩)
    · cases hnone
    · cases hnone
    · cases hp
      exact not_nullImage h.source.not_hasNull_of_cropped (hsrc ▸ hnull)
    · cases hp
      exact (h.output dst hdst).accepted.not_hasNull hnull
  | multiCropAndResizePrivacyMask crop mask hsrc =>
    rintro (hnone | hnone | ⟨p, hp, hnull | ⟨dst, hdst, hnull⟩⟩ | ⟨m, hm, hnull⟩)
    · cases hnone
    · cases hnone
    · cases hp
      exact not_nullImage h.source.not_hasNull_of_cropped (hsrc ▸ hnull)
    · cases hp
      exact (h.output dst hdst).accepted.not_hasNull hnull
    · rcases hnull with hbitmask | hrois
      · exact (h.privacyMask m hm).reaches.bitmask_ne hbitmask
      · exact (h.privacyMask m hm).rois_ne hrois
  | blend image overlays count =>
    rintro (hnull | hnone | ⟨o, ho, i, hi, hnull⟩)
    · exact not_nullImage h.accepted.not_hasNull hnull
    · cases hnone
    · cases ho
      exact (h.overlay i hi).accepted.not_hasNull hnull
  | blur image rois count kernelSize =>
    rintro (hnull | hnone)
    · exact not_nullImage h.accepted.not_hasNull hnull
    · cases hnone
  | convertFormat src dst =>
    rintro (hnull | hnull)
    · exact not_nullImage h.source.not_hasNull hnull
    · exact not_nullImage h.target.not_hasNull hnull
  | dewarp src dst mesh interpolation =>
    rintro (hnull | hnull | hnone | ⟨m, hm, hnull⟩)
    · exact not_nullImage h.source.not_hasNull hnull
    · exact not_nullImage h.target.not_hasNull hnull
    · cases hnone
    · cases hm
      exact h.meshAccepted.table_ne hnull

/-- A call that reaches the driver has no NULL pointer. -/
theorem ImagingCall.perf_not_hasNull {call : ImagingCall} {device : Ptr DspDevice} {inData : ImagingRequest}
    {submission : Submission} (h : call.perf device inData = .ok submission) : ¬ call.HasNull device := by
  obtain ⟨d, request, rfl, hdenotes, haccepted⟩ := ImagingCall.perf_accepted h
  rintro (hnone | hnull)
  · cases hnone
  · exact hdenotes.not_hasNullArgument haccepted hnull

/-- The outcome of a call that is turned down. -/
def rejected : Outcome := ⟨.ok .invalidArgument, []⟩

/-- A call that does not reach the driver and follows no NULL pointer is turned down. -/
theorem ImagingCall.run_rejected {call : ImagingCall} {device : Ptr DspDevice}
    (hrois : ¬ call.ReadsNullRois device) {inData : ImagingRequest}
    (h : ∀ submission, call.perf device inData ≠ .ok submission) (ioctl : Int32 → XrpIoctlQueue → Int32)
    (perfInfo : UInt64) : call.run ioctl perfInfo device inData = rejected := by
  rw [ImagingCall.run, (ImagingCall.perf_stops hrois inData).eq_error h]
  rfl

/-- A call that reads no NULL array of regions returns a status. -/
theorem ImagingCall.run_returns {call : ImagingCall} {device : Ptr DspDevice}
    (hrois : ¬ call.ReadsNullRois device) (ioctl : Int32 → XrpIoctlQueue → Int32)
    (perfInfo : UInt64) (inData : ImagingRequest) :
    ∃ status, (call.run ioctl perfInfo device inData).result = .ok status := by
  rcases (ImagingCall.perf_stops hrois inData).cases with hstop | ⟨submission, hrun⟩
  · exact ⟨.invalidArgument, by rw [ImagingCall.run, hstop]; rfl⟩
  · exact ⟨_, by rw [ImagingCall.run, hrun, Call.finish_ok]⟩

/-- What the interface promises about NULL pointers: none is followed, and a call with one is
turned down. -/
structure ImagingCall.NullSafe (call : ImagingCall) (ioctl : Int32 → XrpIoctlQueue → Int32)
    (perfInfo : UInt64) (device : Ptr DspDevice) (inData : ImagingRequest) : Prop where
  not_followed : (call.run ioctl perfInfo device inData).result ≠ .error .nullPointer
  turned_down : call.HasNull device → call.run ioctl perfInfo device inData = rejected

/-- NULL pointers are handled safely except in the array of regions of a privacy mask. -/
theorem nullSafe_iff_not_readsNullRois (call : ImagingCall) (ioctl : Int32 → XrpIoctlQueue → Int32)
    (perfInfo : UInt64) (device : Ptr DspDevice) (inData : ImagingRequest) :
    call.NullSafe ioctl perfInfo device inData ↔ ¬ call.ReadsNullRois device := by
  constructor
  · intro hsafe hrois
    refine hsafe.not_followed ?_
    rw [ImagingCall.run, ImagingCall.perf_null hrois]
    rfl
  · intro hrois
    constructor
    · obtain ⟨status, hresult⟩ := ImagingCall.run_returns hrois ioctl perfInfo inData
      simp [hresult]
    · intro hnull
      exact ImagingCall.run_rejected hrois (fun submission h => ImagingCall.perf_not_hasNull h hnull)
        ioctl perfInfo

/-- A privacy mask with one region and no array to find it in. -/
def maskWithoutRois : DspPrivacyMask := ⟨4096, 0, 0, 0, none, 1⟩

/-- The whole of a small image, into no output, with that mask. -/
def callWithoutRois : ImagingCall :=
  .multiCropAndResizePrivacyMask (some ⟨some (smallImage .nv12), Vector.replicate _ none, .bilinear⟩)
    (some ⟨0, 0, 4, 4⟩) (some maskWithoutRois)

/-- The call with a NULL array of regions is not handled safely. -/
theorem callWithoutRois_not_nullSafe : ¬ callWithoutRois.NullSafe (fun _ _ => 0) 0 (some ⟨3⟩) default := by
  have hreads : callWithoutRois.ReadsNullRois (some ⟨3⟩) :=
    ⟨by simp, _, smallImage .nv12, ⟨0, 0, 4, 4⟩, maskWithoutRois, rfl, rfl, rfl,
      ⟨by decide, by decide, by decide, by decide⟩, rfl, ⟨by decide, by decide, by decide⟩, rfl⟩
  intro hsafe
  refine hsafe.not_followed ?_
  rw [ImagingCall.run, ImagingCall.perf_null hreads]
  rfl

/-- The one pointer of a request that a call follows without having checked it. -/
def HostRequest.RoisPresent : HostRequest → Prop
  | multiCropAndResize _ _ _ _ mask => ∀ m, mask = some m → m.rois ≠ none
  | _ => True

/-- A call whose regions are there does not read a NULL array of regions. -/
theorem HostRequest.RoisPresent.not_readsNullRois {call : ImagingCall} {request : HostRequest}
    (h : request.RoisPresent) (hdenotes : call.Denotes request) (device : Ptr DspDevice) :
    ¬ call.ReadsNullRois device := by
  cases hdenotes with
  | multiCropAndResizePrivacyMask crop mask hsrc =>
    rintro ⟨-, _, _, _, m, -, -, -, -, hmask, -, hrois⟩
    exact h m hmask hrois
  | _ => exact id

/-- The indices with which an operation goes into the arrays of the request block: the planes of
its images, and its outputs, overlays or regions. -/
def HostRequest.IndicesInRange (request : HostRequest) : Prop :=
  (∀ command ∈ request.commands, command.bufferCount ≤ maxPlanes) ∧
    match request with
    | multiCropAndResize _ outputs _ _ mask =>
      outputs.length ≤ interfaceMultiResizeOutputsCount ∧
        ∀ m, mask = some m → m.roisCount.toNat ≤ maxPrivacyMaskRois
    | blend _ _ count => count.toNat ≤ maxBlendOverlays
    | blur _ _ count _ => count.toNat ≤ maxBlurRois
    | _ => True

/-- The checks keep every index below the length of its array. -/
theorem HostRequest.Accepted.indicesInRange {request : HostRequest} (h : request.Accepted) :
    request.IndicesInRange := by
  refine ⟨fun command hcommand => (h.ready command hcommand).convertible.planesCount_le, ?_⟩
  cases request with
  | multiCropAndResize src outputs crop interpolation mask =>
    exact ⟨h.outputs_le, fun m hm => (h.privacyMask m hm).reaches.count_le⟩
  | blend background overlays count => exact h.count_le
  | blur image rois count kernelSize => exact h.count_le
  | _ => trivial

/-- The status that goes with the answer of the ioctl. -/
def statusOfIoctl (answer : Int32) : DspStatus := if answer < 0 then .runCommandFailed else .success

/-- A call with its pointers in place is turned down exactly when one of its checks fails;
otherwise every conversion succeeds, every index stays inside its array, and the call issues one
ioctl and returns what its answer says. -/
theorem run_total {call : ImagingCall} {request : HostRequest} (hdenotes : call.Denotes request)
    (hrois : request.RoisPresent) (ioctl : Int32 → XrpIoctlQueue → Int32) (perfInfo : UInt64)
    (device : DspDevice) (inData : ImagingRequest) :
    (¬ request.Accepted → call.run ioctl perfInfo (some device) inData = ⟨.ok .invalidArgument, []⟩) ∧
    (request.Accepted →
      (∀ command ∈ request.commands, ∀ dst, ∃ image, convertImage command.userApiImage dst = .ok image) ∧
      (∀ list block, ∃ result, addImagesToBufferList list request.commands block = .ok result) ∧
      request.IndicesInRange ∧
      ∃ queue, call.run ioctl perfInfo (some device) inData =
        ⟨.ok (statusOfIoctl (ioctl device.fd queue)), [(device.fd, queue)]⟩) := by
  refine ⟨fun hreject => ?_, fun haccepted => ⟨?_, ?_, haccepted.indicesInRange, ?_⟩⟩
  · refine ImagingCall.run_rejected (hrois.not_readsNullRois hdenotes _) (fun submission hrun => hreject ?_)
      ioctl perfInfo
    obtain ⟨_, -, haccepted, -⟩ := hdenotes.submitted hrun
    exact haccepted
  · intro command hcommand dst
    have hready := haccepted.ready command hcommand
    exact ⟨_, (congrArg (convertImage · dst) hready.user).trans (convertImage_eq hready.convertible dst)⟩
  · intro list block
    obtain ⟨after, hadd, -⟩ := addImagesToBufferList_eq haccepted.ready request.commands_nodup list block
    exact ⟨_, hadd⟩
  · obtain ⟨submission, hrun, hfd, -⟩ := ImagingCall.perf_finishes hdenotes haccepted device inData
    refine ⟨submission.queue perfInfo, ?_⟩
    rw [ImagingCall.run, hrun, Call.finish_ok, hfd]
    rfl

/-- A region in the middle of a small image. -/
def smallRoi : DspRoi := ⟨1, 1, 3, 3⟩

/-- A blur of that region. -/
def smallBlur : HostRequest := .blur (smallImage .gray8) (fun _ => smallRoi) 1 5

/-- The small blur passes its checks. -/
theorem smallBlur_accepted : smallBlur.Accepted :=
  ⟨by decide, by decide, by decide, smallImage_accepted (by decide), .inl rfl,
    fun _ _ => ⟨by decide, by decide, by decide, by decide⟩⟩

/-- The small blur issues one ioctl, and here it fails. -/
theorem run_total_smallBlur : smallBlur.Accepted ∧ ∃ queue,
    (ImagingCall.blur (some (smallImage .gray8)) (some fun _ => smallRoi) 1 5).run
      (fun _ _ => -1) 0 (some ⟨3⟩)
      default = ⟨.ok .runCommandFailed, [(3, queue)]⟩ :=
  ⟨smallBlur_accepted,
    ((run_total (.blur (smallImage .gray8) (fun _ => smallRoi) 1 5) trivial (fun _ _ => -1) 0 ⟨3⟩ default).2
      smallBlur_accepted).2.2.2⟩

end HailoDsp
