import HailoDsp.BufferTable

/-!
# Where overlays are placed

`verify_overlay_params` adds the offset and the size of an overlay in 64 bits. An overlay whose sum
fits is inside the background, on the wire as well; one whose sum wraps has passed the check with
what is left of it.
-/

namespace HailoDsp

/-- A rectangle of `width` by `height` pixels at `(xOffset, yOffset)` is inside the outer one. -/
structure LiesInside (xOffset yOffset width height outerWidth outerHeight : ℕ) : Prop where
  right_le : xOffset + width ≤ outerWidth
  bottom_le : yOffset + height ≤ outerHeight
  pixel : ∀ x < width, ∀ y < height, xOffset + x < outerWidth ∧ yOffset + y < outerHeight

/-- A rectangle whose far corner is inside is inside. -/
theorem LiesInside.of_le {xOffset yOffset width height outerWidth outerHeight : ℕ}
    (hright : xOffset + width ≤ outerWidth) (hbottom : yOffset + height ≤ outerHeight) :
    LiesInside xOffset yOffset width height outerWidth outerHeight where
  right_le := hright
  bottom_le := hbottom
  pixel x hx y hy := ⟨by omega, by omega⟩

/-- Where the caller places an overlay. -/
def DspOverlayProperties.InsideOf (overlay : DspOverlayProperties) (background : DspImageProperties) :
    Prop :=
  LiesInside overlay.xOffset.toNat overlay.yOffset.toNat overlay.overlay.width.toNat
    overlay.overlay.height.toNat
    background.width.toNat background.height.toNat

/-- Where the message places an overlay. -/
def OverlayInData.InsideOf (overlay : OverlayInData) (background : ImageProperties) : Prop :=
  LiesInside overlay.xOffset.toNat overlay.yOffset.toNat overlay.overlay.width.toNat
    overlay.overlay.height.toNat
    background.width.toNat background.height.toNat

/-- The overlays of a blend are inside its background, as they are passed and as they are sent. -/
structure OverlaysInside (background : DspImageProperties) (overlays : ℕ → DspOverlayProperties)
    (overlaysCount : UInt64) (args : BlendInData) : Prop where
  exact : ∀ i < overlaysCount.toNat, (overlays i).InsideOf background
  wire : background.width.toNat < 2 ^ 32 → background.height.toNat < 2 ^ 32 →
    ∀ i : Fin maxBlendOverlays, i.val < overlaysCount.toNat → (args.overlays.get i).InsideOf args.background

/-- The far corner of an overlay has 64-bit coordinates. -/
def DspOverlayProperties.CornerFits (overlay : DspOverlayProperties) : Prop :=
  overlay.xOffset.toNat + overlay.overlay.width.toNat < 2 ^ 64 ∧
    overlay.yOffset.toNat + overlay.overlay.height.toNat < 2 ^ 64

/-- An accepted overlay is inside the background exactly when the sums of the check do not wrap. -/
theorem OverlayAccepted.insideOf_iff {background : DspImageProperties} {overlay : DspOverlayProperties}
    (h : OverlayAccepted background overlay) : overlay.InsideOf background ↔ overlay.CornerFits := by
  constructor
  · intro hinside
    exact ⟨hinside.right_le.trans_lt background.width.toNat_lt,
      hinside.bottom_le.trans_lt background.height.toNat_lt⟩
  · rintro ⟨hx, hy⟩
    have hright := UInt64.le_iff_toNat_le.mp h.right_le
    have hbottom := UInt64.le_iff_toNat_le.mp h.bottom_le
    rw [toNat_add_of_lt hx] at hright
    rw [toNat_add_of_lt hy] at hbottom
    exact .of_le hright hbottom

/-- The size of the background of the message is exact when it fits 32 bits. -/
theorem Issued.background_size {background : DspImageProperties} {overlays : ℕ → DspOverlayProperties}
    {overlaysCount : UInt64} {inData : ImagingRequest} {queue : XrpIoctlQueue}
    (h : Issued (.blend background overlays overlaysCount) inData queue)
    (hwidth : background.width.toNat < 2 ^ 32) (hheight : background.height.toNat < 2 ^ 32) :
    queue.inData.blendArgs.background.width.toNat = background.width.toNat ∧
      queue.inData.blendArgs.background.height.toNat = background.height.toNat :=
  h.toNat_size ⟨some background, .blendBackground, .readWrite⟩ List.mem_cons_self hwidth hheight

/-- What is inside a background with 32-bit sizes keeps its place on the wire. -/
theorem Issued.overlay_insideOf {background : DspImageProperties} {overlays : ℕ → DspOverlayProperties}
    {overlaysCount : UInt64} {inData : ImagingRequest} {queue : XrpIoctlQueue}
    (h : Issued (.blend background overlays overlaysCount) inData queue)
    (hwidth : background.width.toNat < 2 ^ 32) (hheight : background.height.toNat < 2 ^ 32)
    {i : Fin maxBlendOverlays} (hi : i.val < overlaysCount.toNat)
    (hinside : (overlays i).InsideOf background) :
    (queue.inData.blendArgs.overlays.get i).InsideOf queue.inData.blendArgs.background := by
  obtain ⟨hright, hbottom, -⟩ := hinside
  obtain ⟨hx, hy⟩ := h.offsets hi i.isLt
  have hx : (queue.inData.blendArgs.overlays.get i).xOffset.toNat = (overlays i).xOffset.toNat :=
    (congrArg UInt32.toNat hx).trans (toNat_toUInt32_of_lt (by omega))
  have hy : (queue.inData.blendArgs.overlays.get i).yOffset.toNat = (overlays i).yOffset.toNat :=
    (congrArg UInt32.toNat hy).trans (toNat_toUInt32_of_lt (by omega))
  have hw : (overlays i).overlay.width.toNat < 2 ^ 32 := by omega
  have hh : (overlays i).overlay.height.toNat < 2 ^ 32 := by omega
  obtain ⟨hw, hh⟩ := h.toNat_size _ (overlay_mem_blendCommands (some background) overlays hi i.isLt) hw hh
  have hw : (queue.inData.blendArgs.overlays.get i).overlay.width.toNat =
    (overlays i).overlay.width.toNat := hw
  have hh : (queue.inData.blendArgs.overlays.get i).overlay.height.toNat =
    (overlays i).overlay.height.toNat := hh
  have hsize := h.background_size hwidth hheight
  rw [OverlayInData.InsideOf, hx, hy, hw, hh, hsize.1, hsize.2]
  exact .of_le hright hbottom

/-- The overlays that an accepted blend issues are inside its background exactly when none of the sums
of the check wraps. -/
theorem overlaysInside_iff_cornersFit {ioctl : Int32 → XrpIoctlQueue → Int32} {perfInfo : UInt64}
    {device : Ptr DspDevice} {background : DspImageProperties} {overlays : ℕ → DspOverlayProperties}
    {overlaysCount : UInt64} {inData : ImagingRequest} {fd : Int32} {queue : XrpIoctlQueue}
    (h : (fd, queue) ∈ ((ImagingCall.blend (some background) (some overlays) overlaysCount).run
      ioctl perfInfo device inData).ioctls) :
    OverlaysInside background overlays overlaysCount queue.inData.blendArgs ↔
      ∀ i < overlaysCount.toNat, (overlays i).CornerFits := by
  obtain ⟨d, rfl, haccepted, -, hissued⟩ :=
    (ImagingCall.Denotes.blend background overlays overlaysCount).issued h
  have hinside (i : ℕ) (hi : i < overlaysCount.toNat) :
      (overlays i).InsideOf background ↔ (overlays i).CornerFits := (haccepted.overlay i hi).insideOf_iff
  constructor
  · intro hall i hi
    exact (hinside i hi).mp (hall.exact i hi)
  · intro hfits
    refine ⟨fun i hi => (hinside i hi).mpr (hfits i hi), fun hwidth hheight i hi => ?_⟩
    exact hissued.overlay_insideOf hwidth hheight hi ((hinside i hi).mpr (hfits i hi))

/-- A small image over another, at a horizontal offset. -/
def smallOverlay (xOffset : UInt64) : DspOverlayProperties := ⟨smallImage .a420, xOffset, 0⟩

/-- A small image with that overlay. -/
def smallBlend (xOffset : UInt64) : ImagingCall :=
  .blend (some (smallImage .nv12)) (some fun _ => smallOverlay xOffset) 1

/-- The values of that call. -/
theorem smallBlend_denotes (xOffset : UInt64) :
    (smallBlend xOffset).Denotes (.blend (smallImage .nv12) (fun _ => smallOverlay xOffset) 1) :=
    .blend _ _ _

/-- Blending the small image is accepted when the wrapped sum is in range. -/
theorem smallBlend_issues (xOffset : UInt64) (h : xOffset + 4 ≤ 4) :
    ∃ queue, (3, queue) ∈ ((smallBlend xOffset).run (fun _ _ => 0) 0 (some ⟨3⟩) default).ioctls := by
  have haccepted : BlendAccepted (smallImage .nv12) (fun _ => smallOverlay xOffset) 1 :=
    ⟨by decide, smallImage_accepted (by decide), rfl,
      fun _ _ => ⟨smallImage_accepted (by decide), h, show (0 + 4 : UInt64) ≤ 4 by decide, rfl⟩⟩
  exact (smallBlend_denotes xOffset).issues haccepted (fun _ _ => 0) 0 ⟨3⟩ default

/-- At offset 0 the small image is inside. -/
theorem overlaysInside_iff_cornersFit_smallOverlay :
    ∃ queue, (3, queue) ∈ ((smallBlend 0).run (fun _ _ => 0) 0 (some ⟨3⟩) default).ioctls ∧
      OverlaysInside (smallImage .nv12) (fun _ => smallOverlay 0) 1 queue.inData.blendArgs := by
  obtain ⟨queue, hissues⟩ := smallBlend_issues 0 (by decide)
  exact ⟨queue, hissues, (overlaysInside_iff_cornersFit hissues).mpr fun _ _ => ⟨by decide, by decide⟩⟩

/-- Two columns short of `2 ^ 64` the small image is accepted, although it is nowhere near the
background. -/
theorem smallOverlay_outside :
    ∃ queue, (3, queue) ∈ ((smallBlend 18446744073709551614).run (fun _ _ => 0) 0 (some ⟨3⟩)
      default).ioctls ∧
      ¬ (smallOverlay 18446744073709551614).InsideOf (smallImage .nv12) ∧
      ¬ (queue.inData.blendArgs.overlays.get 0).InsideOf queue.inData.blendArgs.background := by
  obtain ⟨queue, hissues⟩ := smallBlend_issues 18446744073709551614 (by decide)
  obtain ⟨d, hdevice, -, -, hissued⟩ := (smallBlend_denotes 18446744073709551614).issued hissues
  have hoffset : (queue.inData.blendArgs.overlays.get 0).xOffset =
      (18446744073709551614 : UInt64).toUInt32 :=
    (hissued.offsets (i := 0) (by decide) (by decide)).1
  have hwidth := (hissued.background_size (by decide) (by decide)).1
  refine ⟨queue, hissues, fun hinside => absurd hinside.right_le (by decide), fun hinside => ?_⟩
  have hright := hinside.right_le
  rw [hoffset, hwidth] at hright
  exact absurd (Nat.le_of_add_right_le hright) (by decide)

end HailoDsp
