import HailoDsp.Marshalling

/-!
# Blending overlays onto an image

`dsp_blend_perf`. One loop validates the overlays, writes their offsets into the request block
and collects their images, so that the validation of an overlay runs when the block is already
half written; a rejected overlay leaves a block that is never sent.
-/

namespace HailoDsp

open EarlyExit

/-- `verify_overlay_params` -/
def verifyOverlayParams (image : DspImageProperties) (overlay : DspOverlayProperties) : Call Unit := do
  rejectIf (overlay.xOffset + overlay.overlay.width > image.width)
  rejectIf (overlay.yOffset + overlay.overlay.height > image.height)

/-- One round of the loop of `dsp_blend_perf`. -/
def addOverlay (image : DspImageProperties) (overlays : Ptr (ℕ → DspOverlayProperties)) (i : ℕ)
    (state : List CommandImage × ImagingRequest) : Call (List CommandImage × ImagingRequest) := do
  let overlay ← deref (overlays.elem i)
  verifyImageProperties (some overlay.overlay)
  verifyOverlayParams image overlay
  rejectIf (overlay.overlay.format ≠ .a420)
  let slot ← overlaySlot i
  let overlaysInData ← writeAt state.2.blendArgs.overlays i fun dst =>
    { dst with xOffset := overlay.xOffset.toUInt32, yOffset := overlay.yOffset.toUInt32 }
  return (state.1 ++ [⟨some overlay.overlay, slot, .read⟩],
    { state.2 with blendArgs.overlays := overlaysInData })

/-- `dsp_blend_perf` -/
def dspBlendPerf (device : Ptr DspDevice) (image : Ptr DspImageProperties)
    (overlays : Ptr (ℕ → DspOverlayProperties)) (overlaysCount : UInt64) (inData : ImagingRequest) :
    Call Submission := do
  rejectIf (device = none ∨ image = none ∨ overlays = none)
  rejectIf (overlaysCount > UInt64.ofNat maxBlendOverlays)
  verifyImageProperties image
  let background ← deref image
  rejectIf (background.format ≠ .nv12)
  let inData := { inData with
    operation := ImagingOperation.blend.tag
    blendArgs.overlaysCount := overlaysCount.toUInt32 }
  let (images, inData) ← forRange overlaysCount.toNat (addOverlay background overlays)
    ([⟨image, .blendBackground, .readWrite⟩], inData)
  sendCommandImages device images inData

/-- An overlay that passes the checks of the loop. -/
structure OverlayAccepted (background : DspImageProperties) (overlay : DspOverlayProperties) : Prop where
  accepted : ImageAccepted overlay.overlay
  right_le : overlay.xOffset + overlay.overlay.width ≤ background.width
  bottom_le : overlay.yOffset + overlay.overlay.height ≤ background.height
  format : overlay.overlay.format = .a420

/-- The values of a request that passes every check of `dsp_blend_perf`. -/
structure BlendAccepted (background : DspImageProperties) (overlays : ℕ → DspOverlayProperties)
    (overlaysCount : UInt64) : Prop where
  count_le : overlaysCount.toNat ≤ maxBlendOverlays
  accepted : ImageAccepted background
  format : background.format = .nv12
  overlay : ∀ i < overlaysCount.toNat, OverlayAccepted background (overlays i)

/-- The images of the first `n` overlays. -/
def overlayImages (overlays : ℕ → DspOverlayProperties) (n : ℕ) : List DspImageProperties :=
  (List.range n).map fun i => (overlays i).overlay

/-- The number of overlay images. -/
@[simp] theorem length_overlayImages (overlays : ℕ → DspOverlayProperties) (n : ℕ) :
    (overlayImages overlays n).length = n := by
  simp [overlayImages]

/-- The images of a blend: the background, which is both read and written, and the overlays. -/
def blendCommands (background : Ptr DspImageProperties) (overlays : ℕ → DspOverlayProperties) (n : ℕ) :
    List CommandImage :=
  ⟨background, .blendBackground, .readWrite⟩ :: indexedCommands .blendOverlay .read
    (overlayImages overlays n)

/-- The offsets of an overlay on the wire. -/
def placeOverlay (overlay : DspOverlayProperties) (dst : OverlayInData) : OverlayInData :=
  { dst with xOffset := overlay.xOffset.toUInt32, yOffset := overlay.yOffset.toUInt32 }

/-- The request block of a blend before its images are added. -/
def blendArguments (overlays : ℕ → DspOverlayProperties) (overlaysCount : UInt64)
    (inData : ImagingRequest) :
    ImagingRequest :=
  { inData with
    operation := ImagingOperation.blend.tag
    blendArgs := { inData.blendArgs with
      overlays := updatePrefix inData.blendArgs.overlays overlaysCount.toNat fun i =>
        placeOverlay (overlays i)
      overlaysCount := overlaysCount.toUInt32 } }

/-- One more overlay goes to the end of the list, into the next slot. -/
theorem blendCommands_succ (background : Ptr DspImageProperties)
    (overlays : ℕ → DspOverlayProperties) {n : ℕ} (hn : n < maxBlendOverlays) :
    blendCommands background overlays (n + 1) =
      blendCommands background overlays n ++
      [⟨some (overlays n).overlay, .blendOverlay ⟨n, hn⟩, .read⟩] := by
  have hsucc : overlayImages overlays (n + 1) = overlayImages overlays n ++ [(overlays n).overlay] := by
    simp [overlayImages, List.range_succ]
  have hlen : (overlayImages overlays n).length < maxBlendOverlays := by simpa using hn
  simp only [blendCommands, hsucc, indexedCommands_append _ _ _ _ hlen, length_overlayImages,
    List.cons_append]

/-- Every overlay is among the images of a blend. -/
theorem overlay_mem_blendCommands (background : Ptr DspImageProperties)
    (overlays : ℕ → DspOverlayProperties) {i n : ℕ} (hi : i < n) (hroom : i < maxBlendOverlays) :
    ⟨some (overlays i).overlay, .blendOverlay ⟨i, hroom⟩, .read⟩ ∈ blendCommands background overlays n := by
  have hlen : i < (overlayImages overlays n).length := by simpa using hi
  have hmem := indexedCommands_mem .blendOverlay .read hroom hlen
  rw [show (overlayImages overlays n)[i] = (overlays i).overlay by simp [overlayImages]] at hmem
  exact List.mem_cons_of_mem _ hmem

/-- An array that still has room has a slot for the next overlay. -/
theorem overlaySlot_of_lt {i : ℕ} (h : i < maxBlendOverlays) : overlaySlot i = .ok (.blendOverlay ⟨i, h⟩) :=
  dif_pos h

/-- The check of the offsets accepts exactly the overlays whose far corner is inside the image. -/
theorem verifyOverlayParams_ok_iff (image : DspImageProperties) (overlay : DspOverlayProperties) :
    verifyOverlayParams image overlay = .ok () ↔
      overlay.xOffset + overlay.overlay.width ≤ image.width ∧
      overlay.yOffset + overlay.overlay.height ≤ image.height := by
  simp only [verifyOverlayParams, unit_bind_eq_ok, rejectIf_eq_ok, gt_iff_lt, UInt64.not_lt]

/-- A round of the loop on an accepted overlay writes its offsets and collects its image. -/
theorem addOverlay_eq {background : DspImageProperties} {overlays : ℕ → DspOverlayProperties} {i : ℕ}
    (hi : i < maxBlendOverlays) (h : OverlayAccepted background (overlays i))
    (image : Ptr DspImageProperties) (request : ImagingRequest)
    (offsets : Vector OverlayInData maxBlendOverlays) :
    addOverlay background (some overlays) i (blendCommands image overlays i,
      { request with
        blendArgs.overlays := updatePrefix offsets i fun j => placeOverlay (overlays j) }) =
    .ok (blendCommands image overlays (i + 1),
      { request with
        blendArgs.overlays := updatePrefix offsets (i + 1) fun j => placeOverlay (overlays j) }) := by
  have hwrite := writeAt_updatePrefix offsets hi fun j => placeOverlay (overlays j)
  unfold placeOverlay at hwrite
  simp only [addOverlay, Ptr.elem, Option.map_some, deref_some, ok_bind]
  rw [(verifyImageProperties_ok_iff _).mpr ⟨_, rfl, h.accepted⟩, ok_bind,
    (verifyOverlayParams_ok_iff _ _).mpr ⟨h.right_le, h.bottom_le⟩, ok_bind,
    rejectIf_of_not (not_not.mpr h.format), ok_bind, overlaySlot_of_lt hi, ok_bind,
    blendCommands_succ image overlays hi]
  exact bind_eq_ok.mpr ⟨_, hwrite, rfl⟩

/-- The loop collects every overlay when all of them are accepted. -/
theorem addOverlay_loop {background : DspImageProperties} {overlays : ℕ → DspOverlayProperties} {n : ℕ}
    (hn : n ≤ maxBlendOverlays) (h : ∀ i < n, OverlayAccepted background (overlays i))
    (image : Ptr DspImageProperties) (request : ImagingRequest) :
    forRange n (addOverlay background (some overlays)) (blendCommands image overlays 0, request) =
      .ok (blendCommands image overlays n, { request with
        blendArgs.overlays := updatePrefix request.blendArgs.overlays n fun i =>
            placeOverlay (overlays i) }) := by
  let upTo (n : ℕ) : List CommandImage × ImagingRequest := (blendCommands image overlays n, { request with
    blendArgs.overlays := updatePrefix request.blendArgs.overlays n fun i => placeOverlay (overlays i) })
  obtain ⟨last, hrun, rfl⟩ := forRange_finishes (n := n) (addOverlay background (some overlays))
    (blendCommands image overlays 0, request) (fun i s => s = upTo i)
    (by simp [upTo, updatePrefix_zero]) (by
      rintro i hi s rfl
      exact ⟨_, addOverlay_eq (hi.trans_le hn) (h i hi) image request request.blendArgs.overlays, rfl⟩)
  exact hrun

/-- The images of an accepted blend can be marshalled. -/
theorem blendCommands_ready {background : DspImageProperties} {overlays : ℕ → DspOverlayProperties} {n : ℕ}
    (hbackground : ImageAccepted background) (h : ∀ i < n, ImageAccepted (overlays i).overlay) :
    ∀ command ∈ blendCommands (some background) overlays n, command.Ready := by
  intro command hcommand
  rcases List.mem_cons.mp hcommand with rfl | hoverlay
  · exact hbackground.ready _ _
  · obtain ⟨j, -, hj, rfl⟩ := mem_indexedCommands hoverlay
    have hjn : j < n := by simpa using hj
    simpa [overlayImages] using (h j hjn).ready _ _

/-- The images of a blend go to different places of the request block. -/
theorem blendCommands_nodup (background : Ptr DspImageProperties)
    (overlays : ℕ → DspOverlayProperties) (n : ℕ) :
    ((blendCommands background overlays n).map CommandImage.dspApiImage).Nodup := by
  rw [blendCommands, List.map_cons, List.nodup_cons]
  refine ⟨fun hmem => ?_, nodup_indexedCommands (fun i j h => by simpa using h) _ _⟩
  obtain ⟨command, hcommand, hslot⟩ := List.mem_map.mp hmem
  obtain ⟨j, hn, hj, rfl⟩ := mem_indexedCommands hcommand
  cases hslot

/-- A request that passes every check reaches the driver. -/
theorem dspBlendPerf_finishes {background : DspImageProperties} {overlays : ℕ → DspOverlayProperties}
    {overlaysCount : UInt64} (h : BlendAccepted background overlays overlaysCount) (device : DspDevice)
    (inData : ImagingRequest) :
    ∃ after, dspBlendPerf (some device) (some background) (some overlays) overlaysCount inData =
        .ok ⟨device.fd, after, ⟨(blendCommands (some background) overlays overlaysCount.toNat).flatMap
          CommandImage.planeBuffers⟩⟩ ∧
      Marshalled (blendCommands (some background) overlays overlaysCount.toNat) 0
        (blendArguments overlays overlaysCount inData) after := by
  obtain ⟨after, hsend, hmarshalled⟩ := sendCommandImages_eq _
    (blendCommands_ready h.accepted fun i hi => (h.overlay i hi).accepted)
    (blendCommands_nodup _ _ _) device (blendArguments overlays overlaysCount inData)
  refine ⟨after, ?_, hmarshalled⟩
  rw [dspBlendPerf, rejectIf_of_not (by simp), ok_bind,
    rejectIf_of_not ((not_gt_ofNat_iff (by decide)).mpr h.count_le), ok_bind,
    (verifyImageProperties_ok_iff _).mpr ⟨_, rfl, h.accepted⟩, ok_bind, deref_some, ok_bind,
    rejectIf_of_not (not_not.mpr h.format), ok_bind]
  exact bind_eq_ok.mpr ⟨_, addOverlay_loop h.count_le h.overlay (some background) _, hsend⟩

/-- A finished round of the loop has accepted its overlay. -/
theorem addOverlay_accepted {background : DspImageProperties} {overlays : ℕ → DspOverlayProperties} {i : ℕ}
    {state state' : List CommandImage × ImagingRequest}
    (h : addOverlay background (some overlays) i state = .ok state') :
    OverlayAccepted background (overlays i) := by
  unfold addOverlay at h
  obtain ⟨overlay, hoverlay, h⟩ := bind_eq_ok.mp h
  cases hoverlay
  obtain ⟨hverify, h⟩ := unit_bind_eq_ok.mp h
  obtain ⟨hparams, h⟩ := unit_bind_eq_ok.mp h
  obtain ⟨hformat, -⟩ := unit_bind_eq_ok.mp h
  obtain ⟨image, himage, haccepted⟩ := (verifyImageProperties_ok_iff _).mp hverify
  cases himage
  obtain ⟨hright, hbottom⟩ := (verifyOverlayParams_ok_iff _ _).mp hparams
  exact ⟨haccepted, hright, hbottom, not_not.mp (rejectIf_eq_ok.mp hformat)⟩

/-- What reaches the driver has passed every check. -/
theorem dspBlendPerf_accepted {device : Ptr DspDevice} {image : Ptr DspImageProperties}
    {overlays : Ptr (ℕ → DspOverlayProperties)} {overlaysCount : UInt64} {inData : ImagingRequest}
    {submission : Submission}
    (h : dspBlendPerf device image overlays overlaysCount inData = .ok submission) :
    ∃ d b o, device = some d ∧ image = some b ∧ overlays = some o ∧ BlendAccepted b o overlaysCount := by
  unfold dspBlendPerf at h
  obtain ⟨hpointers, h⟩ := unit_bind_eq_ok.mp h
  obtain ⟨hcount, h⟩ := unit_bind_eq_ok.mp h
  obtain ⟨hverify, h⟩ := unit_bind_eq_ok.mp h
  obtain ⟨hdevice, -, hoverlays⟩ := by simpa only [not_or] using rejectIf_eq_ok.mp hpointers
  obtain ⟨d, rfl⟩ := Option.ne_none_iff_exists'.mp hdevice
  obtain ⟨o, rfl⟩ := Option.ne_none_iff_exists'.mp hoverlays
  obtain ⟨b, rfl, haccepted⟩ := (verifyImageProperties_ok_iff _).mp hverify
  obtain ⟨hformat, h⟩ := unit_bind_eq_ok.mp h
  obtain ⟨last, hloop, -⟩ := bind_eq_ok.mp h
  refine ⟨d, b, o, rfl, rfl, rfl, (not_gt_ofNat_iff (by decide)).mp (rejectIf_eq_ok.mp hcount), haccepted,
    not_not.mp (rejectIf_eq_ok.mp hformat), fun i hi => ?_⟩
  obtain ⟨state, state', hround⟩ := forRange_round hloop hi
  exact addOverlay_accepted hround

/-- A round of the loop only stops with an invalid argument. -/
theorem addOverlay_stops (background : DspImageProperties) (overlays : ℕ → DspOverlayProperties) {i : ℕ}
    (hi : i < maxBlendOverlays) (state : List CommandImage × ImagingRequest) :
    StopsOnlyWith invalidArgument (addOverlay background (some overlays) i state) := by
  have hslot := overlaySlot_of_lt hi
  refine StopsOnlyWith.bind (.of_ok (deref_some (overlays i))) fun overlay _ =>
    (verifyImageProperties_stops _).bind fun _ _ => StopsOnlyWith.bind ?_ fun _ _ => .exitIf_bind fun _ =>
    (StopsOnlyWith.of_ok hslot).bind fun _ _ => .of_ok (bind_eq_ok.mpr ⟨_, writeAt_of_lt hi _, rfl⟩)
  exact .exitIf_bind fun _ => .exitIf _ _

/-- The operation follows no NULL pointer, stays inside the request block and has one error status. -/
theorem dspBlendPerf_stops (device : Ptr DspDevice) (image : Ptr DspImageProperties)
    (overlays : Ptr (ℕ → DspOverlayProperties)) (overlaysCount : UInt64) (inData : ImagingRequest) :
    StopsOnlyWith invalidArgument (dspBlendPerf device image overlays overlaysCount inData) := by
  refine .exitIf_bind fun hpointers => .exitIf_bind fun hcount =>
    (verifyImageProperties_stops image).bind fun _ hverify => ?_
  obtain ⟨hdevice, -, hoverlays⟩ := by simpa only [not_or] using hpointers
  obtain ⟨d, rfl⟩ := Option.ne_none_iff_exists'.mp hdevice
  obtain ⟨o, rfl⟩ := Option.ne_none_iff_exists'.mp hoverlays
  obtain ⟨b, rfl, haccepted⟩ := (verifyImageProperties_ok_iff _).mp hverify
  have hroom := (not_gt_ofNat_iff (by decide)).mp hcount
  refine .exitIf_bind fun _ => StopsOnlyWith.bind
    (.forRange fun i hi => addOverlay_stops b o (hi.trans_le hroom)) fun last hloop => ?_
  have hoverlay (i : ℕ) (hi : i < overlaysCount.toNat) : OverlayAccepted b (o i) := by
    obtain ⟨state, state', hround⟩ := forRange_round hloop hi
    exact addOverlay_accepted hround
  cases (addOverlay_loop hroom hoverlay (some b) _).symm.trans hloop
  obtain ⟨after, hsend, -⟩ := sendCommandImages_eq _
    (blendCommands_ready haccepted fun i hi => (hoverlay i hi).accepted) (blendCommands_nodup _ _ _) d
    (blendArguments o overlaysCount inData)
  exact .of_ok hsend

end HailoDsp
