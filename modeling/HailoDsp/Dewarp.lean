import HailoDsp.Marshalling

/-!
# Correcting the lens distortion

`dsp_dewarp_perf`. The mesh is a buffer of its own that is added before the images, so it has
position 0 of the buffer list and the planes of the images follow it.
-/

namespace HailoDsp

open EarlyExit

/-- `MESH_SQ_SIZE` -/
def meshSqSize : UInt64 := 64

/-- The number of squares needed to cover a side of the output, `minimum_mesh_width` and
`minimum_mesh_height`. -/
def minimumMesh (side : UInt64) : UInt64 :=
  side / meshSqSize + if side % meshSqSize = 0 then 0 else 1

/-- `verify_mesh_properties` -/
def verifyMeshProperties (mesh : DspDewarpMesh) (dst : DspImageProperties) : Call Unit := do
  rejectIf (mesh.meshWidth = 0)
  rejectIf (mesh.meshHeight = 0)
  rejectIf (mesh.meshTable = 0)
  rejectIf (mesh.meshWidth < minimumMesh dst.width)
  rejectIf (mesh.meshHeight < minimumMesh dst.height)

/-- `dsp_dewarp_perf` -/
def dspDewarpPerf (device : Ptr DspDevice) (src dst : Ptr DspImageProperties) (mesh : Ptr DspDewarpMesh)
    (interpolation : DspInterpolationType) (inData : ImagingRequest) : Call Submission := do
  rejectIf (device = none ∨ src = none ∨ dst = none ∨ mesh = none)
  verifyImageProperties src
  verifyImageProperties dst
  let meshProperties ← deref mesh
  let srcImage ← deref src
  let dstImage ← deref dst
  verifyMeshProperties meshProperties dstImage
  rejectIf (srcImage.format ≠ .nv12)
  rejectIf (dstImage.format ≠ .nv12)
  rejectIf (interpolation ≠ .bilinear ∧ interpolation ≠ .bicubic)
  let meshLineStride := meshProperties.meshWidth * 2 * 4
  let meshSize := meshLineStride * meshProperties.meshHeight
  let (bufferList, index) := BufferList.addBuffer {} meshProperties.meshTable meshSize .read
  let inData := { inData with
    operation := ImagingOperation.dewarp.tag
    dewarpArgs := { inData.dewarpArgs with
      interpolation := UInt8.ofNat interpolation.value
      meshWidth := meshProperties.meshWidth.toUInt32
      meshHeight := meshProperties.meshHeight.toUInt32
      mesh := {
        xrpBufferIndex := index.toUInt32
        lineStride := meshLineStride.toUInt32
        planeSize := meshSize.toUInt32 } } }
  let (bufferList, inData) ← addImagesToBufferList bufferList
    [⟨src, .dewarpSrc, .read⟩, ⟨dst, .dewarpDst, .write⟩] inData
  sendCommand device bufferList inData

/-- A mesh that passes `verify_mesh_properties`. -/
structure MeshAccepted (mesh : DspDewarpMesh) (dst : DspImageProperties) : Prop where
  width_ne : mesh.meshWidth ≠ 0
  height_ne : mesh.meshHeight ≠ 0
  table_ne : mesh.meshTable ≠ 0
  width_le : minimumMesh dst.width ≤ mesh.meshWidth
  height_le : minimumMesh dst.height ≤ mesh.meshHeight

/-- The checks of the mesh accept exactly the meshes with a table and with at least the minimum in
each direction. -/
theorem verifyMeshProperties_ok_iff (mesh : DspDewarpMesh) (dst : DspImageProperties) :
    verifyMeshProperties mesh dst = .ok () ↔ MeshAccepted mesh dst := by
  simp only [verifyMeshProperties, unit_bind_eq_ok, rejectIf_eq_ok, UInt64.not_lt]
  constructor
  · rintro ⟨hwidth, hheight, htable, hlineWidth, hlineHeight⟩
    exact ⟨hwidth, hheight, htable, hlineWidth, hlineHeight⟩
  · intro h
    exact ⟨h.width_ne, h.height_ne, h.table_ne, h.width_le, h.height_le⟩

/-- The checks of the mesh have one error status. -/
theorem verifyMeshProperties_stops (mesh : DspDewarpMesh) (dst : DspImageProperties) :
    StopsOnlyWith invalidArgument (verifyMeshProperties mesh dst) :=
  .exitIf_bind fun _ => .exitIf_bind fun _ => .exitIf_bind fun _ => .exitIf_bind fun _ => .exitIf _ _

/-- The values of a request that passes every check of `dsp_dewarp_perf`. -/
structure DewarpAccepted (src dst : DspImageProperties) (mesh : DspDewarpMesh)
    (interpolation : DspInterpolationType) : Prop where
  source : ImageAccepted src
  target : ImageAccepted dst
  meshAccepted : MeshAccepted mesh dst
  srcFormat : src.format = .nv12
  dstFormat : dst.format = .nv12
  interpolation_eq : interpolation = .bilinear ∨ interpolation = .bicubic

/-- The bytes of one line of the mesh, two `int32_t` for each vertex. -/
def meshLineStride (mesh : DspDewarpMesh) : UInt64 := mesh.meshWidth * 2 * 4

/-- The buffer of the mesh. -/
def meshBuffer (mesh : DspDewarpMesh) : XrpIoctlBuffer :=
  userBuffer mesh.meshTable (meshLineStride mesh * mesh.meshHeight) .read

/-- The request block of a dewarp before its images are added. -/
def dewarpArguments (mesh : DspDewarpMesh) (interpolation : DspInterpolationType)
    (inData : ImagingRequest) : ImagingRequest :=
  { inData with
    operation := ImagingOperation.dewarp.tag
    dewarpArgs := { inData.dewarpArgs with
      interpolation := UInt8.ofNat interpolation.value
      meshWidth := mesh.meshWidth.toUInt32
      meshHeight := mesh.meshHeight.toUInt32
      mesh := {
        xrpBufferIndex := 0
        lineStride := (meshLineStride mesh).toUInt32
        planeSize := (meshLineStride mesh * mesh.meshHeight).toUInt32 } } }

/-- The images of a dewarp. -/
def dewarpCommands (src dst : Ptr DspImageProperties) : List CommandImage :=
  [⟨src, .dewarpSrc, .read⟩, ⟨dst, .dewarpDst, .write⟩]

/-- The images of a dewarp are marshalled behind the mesh. -/
theorem addDewarpImages_eq {src dst : DspImageProperties} (hsrc : ImageAccepted src)
    (hdst : ImageAccepted dst) (mesh : DspDewarpMesh) (request : ImagingRequest) :
    ∃ after, addImagesToBufferList ⟨[meshBuffer mesh]⟩ (dewarpCommands (some src) (some dst)) request =
        .ok (⟨meshBuffer mesh :: (dewarpCommands (some src) (some dst)).flatMap
          CommandImage.planeBuffers⟩, after) ∧
      Marshalled (dewarpCommands (some src) (some dst)) 1 request after :=
  addImagesToBufferList_eq (by simpa [dewarpCommands] using ⟨hsrc.ready _ _, hdst.ready _ _⟩)
    (by simp [dewarpCommands]) ⟨[meshBuffer mesh]⟩ request

/-- A request that passes every check reaches the driver. -/
theorem dspDewarpPerf_finishes {src dst : DspImageProperties} {mesh : DspDewarpMesh}
    {interpolation : DspInterpolationType} (h : DewarpAccepted src dst mesh interpolation)
    (device : DspDevice) (inData : ImagingRequest) :
    ∃ after, dspDewarpPerf (some device) (some src) (some dst) (some mesh) interpolation inData =
        .ok ⟨device.fd, after,
          ⟨meshBuffer mesh :: (dewarpCommands (some src) (some dst)).flatMap CommandImage.planeBuffers⟩⟩ ∧
      Marshalled (dewarpCommands (some src) (some dst)) 1
          (dewarpArguments mesh interpolation inData) after := by
  obtain ⟨after, hadd, hmarshalled⟩ := addDewarpImages_eq h.source h.target mesh
    (dewarpArguments mesh interpolation inData)
  refine ⟨after, ?_, hmarshalled⟩
  have hinterpolation : ¬ (interpolation ≠ .bilinear ∧ interpolation ≠ .bicubic) := by
    rcases h.interpolation_eq with hi | hi <;> simp [hi]
  rw [dspDewarpPerf, rejectIf_of_not (by simp), ok_bind,
    (verifyImageProperties_ok_iff _).mpr ⟨src, rfl, h.source⟩, ok_bind,
    (verifyImageProperties_ok_iff _).mpr ⟨dst, rfl, h.target⟩, ok_bind, deref_some, ok_bind,
    deref_some, ok_bind,
    deref_some, ok_bind, (verifyMeshProperties_ok_iff _ _).mpr h.meshAccepted, ok_bind,
    rejectIf_of_not (not_not.mpr h.srcFormat), ok_bind, rejectIf_of_not (not_not.mpr h.dstFormat), ok_bind,
    rejectIf_of_not hinterpolation, ok_bind]
  exact bind_eq_ok.mpr ⟨_, hadd, rfl⟩

/-- What reaches the driver has passed every check. -/
theorem dspDewarpPerf_accepted {device : Ptr DspDevice} {src dst : Ptr DspImageProperties}
    {mesh : Ptr DspDewarpMesh} {interpolation : DspInterpolationType} {inData : ImagingRequest}
    {submission : Submission}
    (h : dspDewarpPerf device src dst mesh interpolation inData = .ok submission) :
    ∃ d s t m, device = some d ∧ src = some s ∧ dst = some t ∧ mesh = some m ∧
      DewarpAccepted s t m interpolation := by
  unfold dspDewarpPerf at h
  obtain ⟨hpointers, h⟩ := unit_bind_eq_ok.mp h
  obtain ⟨hverifySrc, h⟩ := unit_bind_eq_ok.mp h
  obtain ⟨hverifyDst, h⟩ := unit_bind_eq_ok.mp h
  obtain ⟨hdevice, -, -, hmesh⟩ := by simpa only [not_or] using rejectIf_eq_ok.mp hpointers
  obtain ⟨d, rfl⟩ := Option.ne_none_iff_exists'.mp hdevice
  obtain ⟨m, rfl⟩ := Option.ne_none_iff_exists'.mp hmesh
  obtain ⟨s, rfl, hs⟩ := (verifyImageProperties_ok_iff _).mp hverifySrc
  obtain ⟨t, rfl, ht⟩ := (verifyImageProperties_ok_iff _).mp hverifyDst
  obtain ⟨hmesh, h⟩ := unit_bind_eq_ok.mp h
  obtain ⟨hsrcFormat, h⟩ := unit_bind_eq_ok.mp h
  obtain ⟨hdstFormat, h⟩ := unit_bind_eq_ok.mp h
  obtain ⟨hinterpolation, -⟩ := unit_bind_eq_ok.mp h
  refine ⟨d, s, t, m, rfl, rfl, rfl, rfl, hs, ht, (verifyMeshProperties_ok_iff _ _).mp hmesh,
    not_not.mp (rejectIf_eq_ok.mp hsrcFormat), not_not.mp (rejectIf_eq_ok.mp hdstFormat), ?_⟩
  have := rejectIf_eq_ok.mp hinterpolation
  tauto

/-- The operation follows no NULL pointer, stays inside the request block and has one error status. -/
theorem dspDewarpPerf_stops (device : Ptr DspDevice) (src dst : Ptr DspImageProperties)
    (mesh : Ptr DspDewarpMesh) (interpolation : DspInterpolationType) (inData : ImagingRequest) :
    StopsOnlyWith invalidArgument (dspDewarpPerf device src dst mesh interpolation inData) := by
  refine .exitIf_bind fun hpointers => (verifyImageProperties_stops src).bind fun _ hsrc =>
    (verifyImageProperties_stops dst).bind fun _ hdst => ?_
  obtain ⟨hdevice, -, -, hmesh⟩ := by simpa only [not_or] using hpointers
  obtain ⟨d, rfl⟩ := Option.ne_none_iff_exists'.mp hdevice
  obtain ⟨m, rfl⟩ := Option.ne_none_iff_exists'.mp hmesh
  obtain ⟨s, rfl, hs⟩ := (verifyImageProperties_ok_iff _).mp hsrc
  obtain ⟨t, rfl, ht⟩ := (verifyImageProperties_ok_iff _).mp hdst
  refine (verifyMeshProperties_stops _ _).bind fun _ _ => .exitIf_bind fun _ => .exitIf_bind fun _ =>
    .exitIf_bind fun _ => ?_
  obtain ⟨after, hadd, -⟩ := addDewarpImages_eq hs ht m (dewarpArguments m interpolation inData)
  exact .of_ok (bind_eq_ok.mpr ⟨_, hadd, rfl⟩)

end HailoDsp
