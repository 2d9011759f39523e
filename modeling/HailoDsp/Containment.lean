import HailoDsp.BufferTable
import HailoDsp.Geometry

/-!
# Pixels inside their buffers

An image that the validator has seen at its full size has every one of its pixels inside the
buffer that the message names for its plane. The source of a crop is only validated at the size
of the crop, from the start of its planes on, and whether the crop is inside the planes is
decided by its last pixel.
-/

namespace HailoDsp

open SampledPlane

/-- The bytes of pixel `(x, y)` in plane `j`, whose lines start at multiples of `stride`. -/
def pixelBytes (format : DspImageFormat) (j stride x y : ℕ) : List ℕ :=
  match format, j with
  | .gray8, 0 => [y * stride + x]
  | .rgb, 0 => [y * stride + 3 * x, y * stride + 3 * x + 1, y * stride + 3 * x + 2]
  | .nv12, 0 => [y * stride + x]
  | .nv12, 1 => [y / 2 * stride + 2 * (x / 2), y / 2 * stride + 2 * (x / 2) + 1]
  | .a420, 0 => [y * stride + x]
  | .a420, 1 => [y / 2 * stride + x / 2]
  | .a420, 2 => [y / 2 * stride + x / 2]
  | .a420, 3 => [y * stride + x]
  | _, _ => []

/-- The bytes of a pixel are those of its sample. -/
theorem pixelBytes_eq {format : DspImageFormat} {j : ℕ} {s : Sampling} (hs : format.samplings[j]? = some s)
    (stride x y : ℕ) : pixelBytes format j stride x y = (List.range s.bytes).map (s.offset stride x y) := by
  cases format <;> rcases j with _ | _ | _ | _ | j <;>
    simp only [DspImageFormat.samplings, List.getElem?_cons_zero, List.getElem?_cons_succ,
      List.getElem?_nil, Option.some.injEq, reduceCtorEq] at hs <;> subst hs <;>
    simp [pixelBytes, Sampling.offset, fullSampling, halfSampling, List.range_succ]

/-- A plane that the format does not have holds no byte of a pixel. -/
theorem pixelBytes_of_none {format : DspImageFormat} {j : ℕ} (hs : format.samplings[j]? = none)
    (stride x y : ℕ) : pixelBytes format j stride x y = [] := by
  cases format <;> rcases j with _ | _ | _ | _ | j <;> first | rfl | cases hs

/-- A byte of a pixel belongs to a plane of the format. -/
theorem mem_pixelBytes {format : DspImageFormat} {j stride x y byte : ℕ}
    (h : byte ∈ pixelBytes format j stride x y) :
    ∃ s, format.samplings[j]? = some s ∧ ∃ k < s.bytes, byte = s.offset stride x y k := by
  cases hs : format.samplings[j]? with
  | none =>
    rw [pixelBytes_of_none hs] at h
    cases h
  | some s =>
    rw [pixelBytes_eq hs] at h
    obtain ⟨k, hk, rfl⟩ := List.mem_map.mp h
    exact ⟨s, rfl, k, List.mem_range.mp hk, rfl⟩

/-- In a well-formed image every byte of every pixel is inside its plane. -/
theorem WellFormedGeometry.pixel_lt {format : DspImageFormat} {width height planesCount : ℕ}
    {stride size : ℕ → ℕ} (h : WellFormedGeometry format width height planesCount stride size)
    {x y : ℕ} (hx : x < width) (hy : y < height) {j byte : ℕ}
    (hbyte : byte ∈ pixelBytes format j (stride j) x y) : byte < size j := by
  obtain ⟨s, hs, k, hk, rfl⟩ := mem_pixelBytes hbyte
  obtain ⟨hwidth, hheight⟩ := h.ratios_dvd (List.mem_of_getElem? hs)
  exact (h.plane j s hs).offset_lt hwidth hheight hx hy hk

/-- The buffer that the message names for plane `j` of an image, when there is one. -/
def XrpIoctlQueue.bufferOf (queue : XrpIoctlQueue) (slot : ImageSlot) (j : ℕ) : Option XrpIoctlBuffer :=
  (slot.get queue.inData).usedPlanes[j]? >>= fun plane =>
    queue.buffers[plane.xrpBufferIndex.toNat]?

/-- The buffer of a plane is the one that was made for it. -/
theorem Issued.bufferOf_eq {request : HostRequest} {inData : ImagingRequest} {queue : XrpIoctlQueue}
    (h : Issued request inData queue) (haccepted : request.Accepted) {command : CommandImage}
    (hcommand : command ∈ request.commands) {j : ℕ} (hj : j < command.bufferCount) :
    queue.bufferOf command.dspApiImage j =
      some (planeBuffer (command.image.plane j) command.accessType command.image.memory) := by
  have hresolved := congrArg (fun planes => planes[j]?) (h.resolve haccepted command hcommand)
  simp only [ImageProperties.resolve, CommandImage.resolvedPlanes, List.getElem?_map,
    List.getElem?_range hj, Option.map_some] at hresolved
  obtain ⟨plane, hplane, hbuffer⟩ := Option.map_eq_some_iff.mp hresolved
  rw [XrpIoctlQueue.bufferOf, hplane]
  exact congrArg ResolvedPlane.buffer hbuffer

/-- The images of a call that are validated at their full size: all but the source of a crop. -/
def ImagingCall.fullyValidated (call : ImagingCall) (request : HostRequest) : List CommandImage :=
  match call with
  | cropAndResize _ _ | multiCropAndResize _ _ | multiCropAndResizePrivacyMask _ _ _ =>
    request.commands.tail
  | _ => request.commands

/-- They are among the images of the message. -/
theorem ImagingCall.mem_of_fullyValidated {call : ImagingCall} {request : HostRequest}
    {command : CommandImage} (h : command ∈ call.fullyValidated request) :
    command ∈ request.commands := by
  cases call with
  | cropAndResize _ _ => exact List.mem_of_mem_tail h
  | multiCropAndResize _ _ => exact List.mem_of_mem_tail h
  | multiCropAndResizePrivacyMask _ _ _ => exact List.mem_of_mem_tail h
  | _ => exact h

/-- Cropping to the whole image changes nothing. -/
theorem croppedSrc_wholeImage (src : DspImageProperties) : croppedSrc src (wholeImage src) = src := by
  simp [croppedSrc, wholeImage]

/-- Every image validated at its full size is accepted. -/
theorem ImagingCall.Denotes.accepted_of_fullyValidated {call : ImagingCall} {request : HostRequest}
    (hdenotes : call.Denotes request) (h : request.Accepted) {command : CommandImage}
    (hcommand : command ∈ call.fullyValidated request) : ImageAccepted command.image := by
  cases hdenotes with
  | resize src dst interpolation =>
    rcases List.mem_pair.mp hcommand with rfl | rfl
    · exact croppedSrc_wholeImage src ▸ h.source
    · exact h.target
  | cropAndResize src dst crop interpolation =>
    obtain rfl := List.mem_singleton.mp hcommand
    exact h.target
  | multiCropAndResize crop hsrc =>
    obtain ⟨j, -, hj, rfl⟩ := mem_indexedCommands hcommand
    exact (h.output _ (List.getElem_mem hj)).accepted
  | multiCropAndResizePrivacyMask crop mask hsrc =>
    obtain ⟨j, -, hj, rfl⟩ := mem_indexedCommands hcommand
    exact (h.output _ (List.getElem_mem hj)).accepted
  | blend image overlays count =>
    rcases List.mem_cons.mp hcommand with rfl | hmem
    · exact h.accepted
    · obtain ⟨j, -, hj, rfl⟩ := mem_indexedCommands hmem
      have hjn : j < count.toNat := by simpa using hj
      simpa [overlayImages, CommandImage.image] using (h.overlay j hjn).accepted
  | blur image rois count kernelSize =>
    obtain rfl := List.mem_singleton.mp hcommand
    exact h.accepted
  | convertFormat src dst =>
    rcases List.mem_pair.mp hcommand with rfl | rfl
    · exact h.source
    · exact h.target
  | dewarp src dst mesh interpolation =>
    rcases List.mem_pair.mp hcommand with rfl | rfl
    · exact h.source
    · exact h.target

/-- Pixel `(x, y)` lies in a region. -/
def DspRoi.Covers (roi : DspRoi) (x y : ℕ) : Prop :=
  roi.startX.toNat ≤ x ∧ x < roi.endX.toNat ∧ roi.startY.toNat ≤ y ∧ y < roi.endY.toNat

/-- The pixels of an accepted region are pixels of the image. -/
theorem RegionAccepted.lt_of_covers {image : DspImageProperties} {roi : DspRoi}
    (h : RegionAccepted image roi) {x y : ℕ} (hcovers : roi.Covers x y) :
    x < image.width.toNat ∧ y < image.height.toNat :=
  ⟨hcovers.2.1.trans_le h.endX_le, hcovers.2.2.2.trans_le h.endY_le⟩

/-- Every pixel of every fully validated image is inside the buffer that the issued message names
for its plane, and so is every pixel of every region of a blur. -/
theorem pixels_inside_buffers {call : ImagingCall} {request : HostRequest}
    {ioctl : Int32 → XrpIoctlQueue → Int32} {perfInfo : UInt64} {device : Ptr DspDevice}
    {inData : ImagingRequest} {fd : Int32} {queue : XrpIoctlQueue} (hdenotes : call.Denotes request)
    (h : (fd, queue) ∈ (call.run ioctl perfInfo device inData).ioctls) :
    (∀ command ∈ call.fullyValidated request, command.image.Below32 →
      ∀ x y, x < command.image.width.toNat → y < command.image.height.toNat →
      ∀ j, ∀ byte ∈ pixelBytes command.image.format j (command.image.plane j).bytesperline.toNat x y,
      ∃ entry, queue.bufferOf command.dspApiImage j = some entry ∧ byte < entry.size.toNat) ∧
    (∀ image rois count kernelSize, request = .blur image rois count kernelSize → image.Below32 →
      ∀ i < count.toNat, ∀ x y, (rois i).Covers x y →
      ∀ j, ∀ byte ∈ pixelBytes image.format j (image.plane j).bytesperline.toNat x y,
      ∃ entry, queue.bufferOf .blurImage j = some entry ∧ byte < entry.size.toNat) := by
  obtain ⟨d, rfl, haccepted, -, hissued⟩ := hdenotes.issued h
  have hpixels : ∀ command ∈ call.fullyValidated request, command.image.Below32 →
      ∀ x y, x < command.image.width.toNat → y < command.image.height.toNat →
      ∀ j, ∀ byte ∈ pixelBytes command.image.format j (command.image.plane j).bytesperline.toNat x y,
      ∃ entry, queue.bufferOf command.dspApiImage j = some entry ∧ byte < entry.size.toNat := by
    intro command hcommand hbelow x y hx hy j byte hbyte
    have himage := hdenotes.accepted_of_fullyValidated haccepted hcommand
    obtain ⟨s, hs, -⟩ := mem_pixelBytes hbyte
    obtain ⟨hj, -⟩ := List.getElem?_eq_some_iff.mp hs
    have hjc : j < command.bufferCount := by
      rwa [CommandImage.bufferCount, himage.convertible.toNat_planesCount,
        ← DspImageFormat.length_samplings]
    refine ⟨_, hissued.bufferOf_eq haccepted (ImagingCall.mem_of_fullyValidated hcommand) hjc, ?_⟩
    have hsize : (planeBuffer (command.image.plane j) command.accessType command.image.memory).size.toNat =
        (command.image.plane j).bytesused.toNat := toNat_toUInt32_of_lt (hbelow.size_lt j hjc)
    rw [hsize]
    exact (himage.wellFormed hbelow).pixel_lt hx hy hbyte
  refine ⟨hpixels, ?_⟩
  rintro image rois count kernelSize rfl hbelow i hi x y hcovers j byte hbyte
  cases hdenotes with
  | blur _ _ _ _ =>
    obtain ⟨hx, hy⟩ := (haccepted.roi i hi).lt_of_covers hcovers
    exact hpixels _ List.mem_cons_self hbelow x y hx hy j byte hbyte

/-- The outputs of a small resize into two outputs. -/
theorem pixels_inside_buffers_smallMulti :
    ∃ queue, (3, queue) ∈ (smallMulti.run (fun _ _ => 0) 0 (some ⟨3⟩) default).ioctls ∧
      ∀ command ∈ smallMulti.fullyValidated smallMultiRequest, command.image.Below32 →
      ∀ x y, x < command.image.width.toNat → y < command.image.height.toNat →
      ∀ j, ∀ byte ∈ pixelBytes command.image.format j (command.image.plane j).bytesperline.toNat x y,
      ∃ entry, queue.bufferOf command.dspApiImage j = some entry ∧ byte < entry.size.toNat := by
  obtain ⟨queue, hissues⟩ := smallMulti_denotes.issues smallMulti_accepted (fun _ _ => 0) 0 ⟨3⟩ default
  exact ⟨queue, hissues, (pixels_inside_buffers smallMulti_denotes hissues).1⟩

/-- The source and the rectangle of a crop. -/
def HostRequest.CropOf (request : HostRequest) (src : DspImageProperties) (crop : DspRoi) : Prop :=
  match request with
  | cropAndResize s _ c _ => s = src ∧ c = crop
  | multiCropAndResize s _ c _ _ => s = src ∧ c = crop
  | _ => False

/-- Every byte of every pixel of the crop is among the bytes of its plane. -/
def CropInside (src : DspImageProperties) (crop : DspRoi) : Prop :=
  ∀ x y, crop.Covers x y → ∀ j, ∀ byte ∈ pixelBytes src.format j (src.plane j).bytesperline.toNat x y,
    byte < (src.plane j).bytesused.toNat

/-- In every plane, the last byte of the last pixel of the crop is among the bytes of the plane. -/
def LastPixelInside (src : DspImageProperties) (crop : DspRoi) : Prop :=
  ∀ j (s : Sampling), src.format.samplings[j]? = some s →
    s.offset (src.plane j).bytesperline.toNat (crop.endX.toNat - 1) (crop.endY.toNat - 1) (s.bytes - 1) <
      (src.plane j).bytesused.toNat

/-- A nonempty crop is inside its planes exactly when its last pixel is. -/
theorem cropInside_iff_of_region {src : DspImageProperties} {crop : DspRoi} (h : RegionAccepted src crop) :
    CropInside src crop ↔ LastPixelInside src crop := by
  have hplane (s : Sampling) (stride size : ℕ) :=
    @Sampling.forall_offset_lt_iff s stride size _ _ _ _ h.startX_lt h.startY_lt
  constructor
  · intro hinside j s hs
    refine (hplane s _ _).mp fun x y k hxs hxe hys hye hk => ?_
    refine hinside x y ⟨hxs, hxe, hys, hye⟩ j _ ?_
    rw [pixelBytes_eq hs]
    exact List.mem_map_of_mem (List.mem_range.mpr hk)
  · rintro hlast x y ⟨hxs, hxe, hys, hye⟩ j byte hbyte
    obtain ⟨s, hs, k, hk, rfl⟩ := mem_pixelBytes hbyte
    exact (hplane s _ _).mpr (hlast j s hs) x y k hxs hxe hys hye hk

/-- The region checks are part of every crop. -/
theorem HostRequest.Accepted.region {request : HostRequest} (h : request.Accepted)
    {src : DspImageProperties} {crop : DspRoi} (hcrop : request.CropOf src crop) :
    RegionAccepted src crop := by
  cases request with
  | cropAndResize s _ c _ =>
    obtain ⟨rfl, rfl⟩ := hcrop
    exact CropAndResizeAccepted.region h
  | multiCropAndResize s _ c _ _ =>
    obtain ⟨rfl, rfl⟩ := hcrop
    exact MultiCropAndResizeAccepted.region h
  | _ => cases hcrop

/-- A source that is itself validated has every crop inside its planes. -/
theorem ImageAccepted.cropInside {src : DspImageProperties} (h : ImageAccepted src) (hbelow : src.Below32)
    {crop : DspRoi} (hregion : RegionAccepted src crop) : CropInside src crop := by
  intro x y hcovers j byte hbyte
  obtain ⟨hx, hy⟩ := hregion.lt_of_covers hcovers
  exact (h.wellFormed hbelow).pixel_lt hx hy hbyte

/-- The crop of an accepted request is inside the planes of its source exactly when the last
pixel of the crop is. -/
theorem cropInside_iff_lastPixelInside {call : ImagingCall} {request : HostRequest} {device : Ptr DspDevice}
    {inData : ImagingRequest} {submission : Submission} (hdenotes : call.Denotes request)
    (h : call.perf device inData = .ok submission) {src : DspImageProperties} {crop : DspRoi}
    (hcrop : request.CropOf src crop) : CropInside src crop ↔ LastPixelInside src crop := by
  obtain ⟨d, rfl, haccepted, -⟩ := hdenotes.submitted h
  exact cropInside_iff_of_region (haccepted.region hcrop)

/-- The crop of a small image. -/
theorem cropInside_iff_lastPixelInside_smallMulti :
    ∃ submission, smallMulti.perf (some ⟨3⟩) default = .ok submission ∧
      (CropInside (smallImage .nv12) ⟨0, 0, 4, 4⟩ ↔ LastPixelInside (smallImage .nv12) ⟨0, 0, 4, 4⟩) := by
  obtain ⟨submission, hrun, -⟩ := ImagingCall.perf_finishes smallMulti_denotes
    smallMulti_accepted ⟨3⟩ default
  exact ⟨submission, hrun, cropInside_iff_lastPixelInside smallMulti_denotes hrun ⟨rfl, rfl⟩⟩

/-- An image of a hundred by a hundred pixels whose only plane has lines of four bytes and
sixteen bytes in all. -/
def narrowSource : DspImageProperties where
  width := 100
  height := 100
  planes := some fun _ => ⟨4096, 4, 16⟩
  planesCount := 1
  format := .gray8
  memory := .userptr

/-- The four by four pixels in the far corner. -/
def cornerRoi : DspRoi := ⟨96, 96, 100, 100⟩

/-- Resizing that corner is accepted, although none of its pixels is inside the plane. -/
theorem cornerRoi_not_inside :
    narrowSource.Below32 ∧
    (∃ submission, (ImagingCall.cropAndResize
      (some ⟨some narrowSource, some (smallImage .gray8), .bilinear⟩)
      (some cornerRoi)).perf (some ⟨3⟩) default = .ok submission) ∧
    ¬ CropInside narrowSource cornerRoi := by
  refine ⟨⟨by decide, by decide, fun _ _ => ?_, fun _ _ => ?_⟩, ?_, ?_⟩
  · exact show (4 : UInt64).toNat < 2 ^ 32 by decide
  · exact show (16 : UInt64).toNat < 2 ^ 32 by decide
  · have hsource : verifyImageProperties (some (croppedSrc narrowSource cornerRoi)) = .ok () := by
      decide +kernel
    obtain ⟨_, hs, hsource⟩ := (verifyImageProperties_ok_iff _).mp hsource
    cases hs
    have haccepted : (HostRequest.cropAndResize narrowSource (smallImage .gray8) cornerRoi
        .bilinear).Accepted :=
      ⟨⟨by decide, by decide, by decide, by decide⟩, hsource, smallImage_accepted (by decide),
        by decide, rfl, .inl rfl, by rintro ⟨⟩⟩
    obtain ⟨submission, hrun, -⟩ := ImagingCall.perf_finishes (.cropAndResize _ _ _ _) haccepted ⟨3⟩ default
    exact ⟨submission, hrun⟩
  · intro hinside
    have hlast := hinside 99 99 ⟨by decide, by decide, by decide, by decide⟩ 0 (99 * 4 + 99)
      (List.mem_singleton.mpr rfl)
    exact absurd hlast (by decide)

end HailoDsp
