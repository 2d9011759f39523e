import HailoDsp.Imaging

/-!
# The cells of a dewarp mesh

The output is divided into squares of 64 by 64 pixels, and the pixels of a square are found from the
vertices at its four corners. The minimum that `verify_mesh_properties` asks for is the number of
squares, but a row of squares has one vertex more than it has squares; and the bytes of the mesh are
multiplied in 64 bits and sent in 32.
-/

namespace HailoDsp

/-- The number of bytes of a mesh up to the end of the two coordinates of a vertex. -/
def DataPlane.vertexEnd (plane : DataPlane) (column row : ℕ) : ℕ :=
  row * plane.lineStride.toNat + column * 8 + 8

/-- A vertex of the mesh, with its coordinates inside the plane and the buffer of the mesh. -/
structure VertexPresent (mesh : DspDewarpMesh) (plane : DataPlane) (entry : XrpIoctlBuffer)
    (column row : ℕ) :
    Prop where
  column_lt : column < mesh.meshWidth.toNat
  row_lt : row < mesh.meshHeight.toNat
  plane_le : plane.vertexEnd column row ≤ plane.planeSize.toNat
  entry_le : plane.vertexEnd column row ≤ entry.size.toNat

/-- The two lines of vertices on either side of a pixel. -/
def cornersOf (pixel : ℕ) : List ℕ := [pixel / 64, pixel / 64 + 1]

/-- Every pixel of the output is in a square whose four corners are present. -/
def MeshCovers (mesh : DspDewarpMesh) (dst : DspImageProperties) (queue : XrpIoctlQueue) : Prop :=
  ∃ entry, queue.buffers[queue.inData.dewarpArgs.mesh.xrpBufferIndex.toNat]? = some entry ∧
    ∀ x < dst.width.toNat, ∀ y < dst.height.toNat, ∀ column ∈ cornersOf x, ∀ row ∈ cornersOf y,
      VertexPresent mesh queue.inData.dewarpArgs.mesh entry column row

/-- A mesh with more vertices than the minimum in both directions, of which the last one that is
needed is inside the low 32 bits of the size of the table. -/
structure MeshSuffices (mesh : DspDewarpMesh) (dst : DspImageProperties) : Prop where
  width_lt : (minimumMesh dst.width).toNat < mesh.meshWidth.toNat
  height_lt : (minimumMesh dst.height).toNat < mesh.meshHeight.toNat
  table_le : (minimumMesh dst.height).toNat * (mesh.meshWidth.toNat * 8 % 2 ^ 32) +
    (minimumMesh dst.width).toNat * 8 + 8 ≤ mesh.meshWidth.toNat * 8 * mesh.meshHeight.toNat % 2 ^ 32

/-- The minimum of the check is the number of squares, rounded up. -/
theorem toNat_minimumMesh (side : UInt64) : (minimumMesh side).toNat = (side.toNat + 63) / 64 := by
  have hsquare : meshSqSize.toNat = 64 := rfl
  have hlt := side.toNat_lt
  have hzero : side % meshSqSize = 0 ↔ side.toNat % 64 = 0 := by
    rw [← UInt64.toNat_inj, UInt64.toNat_mod, hsquare]
    rfl
  have hrest : (if side % meshSqSize = 0 then (0 : UInt64) else 1).toNat =
      if side.toNat % 64 = 0 then 0 else 1 := by
    simp only [hzero]
    split <;> rfl
  have hsum : (side / meshSqSize).toNat = side.toNat / 64 := by rw [UInt64.toNat_div, hsquare]
  rw [minimumMesh, toNat_add_of_lt, hsum, hrest]
  · split <;> omega
  · rw [hsum, hrest]
    split <;> omega

/-- No pixel of a side needs a line of vertices past the minimum. -/
theorem le_minimumMesh_of_mem_cornersOf {side : UInt64} {pixel vertex : ℕ} (hpixel : pixel < side.toNat)
    (h : vertex ∈ cornersOf pixel) : vertex ≤ (minimumMesh side).toNat := by
  rw [toNat_minimumMesh]
  rcases List.mem_pair.mp h with rfl | rfl <;> omega

/-- The last pixel of a side needs that line. -/
theorem minimumMesh_mem_cornersOf {side : UInt64} (h : side.toNat ≠ 0) :
    (minimumMesh side).toNat ∈ cornersOf (side.toNat - 1) := by
  rw [toNat_minimumMesh]
  exact List.mem_pair.mpr (.inr (by omega))

/-- The bytes of a line of the mesh, as narrowed. -/
theorem toNat_toUInt32_meshLineStride (mesh : DspDewarpMesh) :
    (meshLineStride mesh).toUInt32.toNat = mesh.meshWidth.toNat * 8 % 2 ^ 32 := by
  have h2 : (2 : UInt64).toNat = 2 := rfl
  have h4 : (4 : UInt64).toNat = 4 := rfl
  rw [meshLineStride, toNat_toUInt32_mul, UInt64.toNat_mul, h2, h4]
  omega

/-- The bytes of the mesh, as narrowed. -/
theorem toNat_toUInt32_meshSize (mesh : DspDewarpMesh) :
    (meshLineStride mesh * mesh.meshHeight).toUInt32.toNat =
      mesh.meshWidth.toNat * 8 * mesh.meshHeight.toNat % 2 ^ 32 := by
  rw [toNat_toUInt32_mul, Nat.mul_mod, ← UInt64.toNat_toUInt32, toNat_toUInt32_meshLineStride,
    ← Nat.mul_mod]

/-- With a vertex all those before it are present. -/
theorem VertexPresent.mono {mesh : DspDewarpMesh} {plane : DataPlane} {entry : XrpIoctlBuffer}
    {column column' row row' : ℕ} (h : VertexPresent mesh plane entry column' row')
    (hcolumn : column ≤ column') (hrow : row ≤ row') : VertexPresent mesh plane entry column row := by
  have hend : plane.vertexEnd column row ≤ plane.vertexEnd column' row' := by
    have hline : row * plane.lineStride.toNat ≤ row' * plane.lineStride.toNat := Nat.mul_le_mul_right _ hrow
    unfold DataPlane.vertexEnd
    omega
  exact ⟨hcolumn.trans_lt h.column_lt, hrow.trans_lt h.row_lt, hend.trans h.plane_le, hend.trans h.entry_le⟩

/-- In a table of less than `2 ^ 32` bytes there is room for every vertex. -/
theorem meshSuffices_iff_of_lt {mesh : DspDewarpMesh} {dst : DspImageProperties}
    (h : mesh.meshWidth.toNat * 8 * mesh.meshHeight.toNat < 2 ^ 32) :
    MeshSuffices mesh dst ↔ (minimumMesh dst.width).toNat < mesh.meshWidth.toNat ∧
      (minimumMesh dst.height).toNat < mesh.meshHeight.toNat := by
  refine ⟨fun hsuffices => ⟨hsuffices.width_lt, hsuffices.height_lt⟩, ?_⟩
  rintro ⟨hwidth, hheight⟩
  refine ⟨hwidth, hheight, ?_⟩
  have hline : mesh.meshWidth.toNat * 8 ≤ mesh.meshWidth.toNat * 8 * mesh.meshHeight.toNat :=
    Nat.le_mul_of_pos_right _ (by omega)
  rw [Nat.mod_eq_of_lt h, Nat.mod_eq_of_lt (by omega)]
  calc (minimumMesh dst.height).toNat * (mesh.meshWidth.toNat * 8) + (minimumMesh dst.width).toNat * 8 + 8
      ≤ (minimumMesh dst.height).toNat * (mesh.meshWidth.toNat * 8) + mesh.meshWidth.toNat * 8 := by omega
    _ = ((minimumMesh dst.height).toNat + 1) * (mesh.meshWidth.toNat * 8) := by ring
    _ ≤ mesh.meshHeight.toNat * (mesh.meshWidth.toNat * 8) := Nat.mul_le_mul_right _ hheight
    _ = mesh.meshWidth.toNat * 8 * mesh.meshHeight.toNat := Nat.mul_comm _ _

/-- Whether a vertex is present in the message of a dewarp, in terms of the mesh that was passed. -/
theorem Issued.vertexPresent_iff {src dst : DspImageProperties} {mesh : DspDewarpMesh}
    {interpolation : DspInterpolationType} {inData : ImagingRequest} {queue : XrpIoctlQueue}
    (h : Issued (.dewarp src dst mesh interpolation) inData queue) (column row : ℕ) :
    VertexPresent mesh queue.inData.dewarpArgs.mesh (meshBuffer mesh) column row ↔
      column < mesh.meshWidth.toNat ∧ row < mesh.meshHeight.toNat ∧
        row * (mesh.meshWidth.toNat * 8 % 2 ^ 32) + column * 8 + 8 ≤
          mesh.meshWidth.toNat * 8 * mesh.meshHeight.toNat % 2 ^ 32 := by
  have hend : queue.inData.dewarpArgs.mesh.vertexEnd column row =
      row * (mesh.meshWidth.toNat * 8 % 2 ^ 32) + column * 8 + 8 := by
    rw [DataPlane.vertexEnd, h.mesh_eq.1, toNat_toUInt32_meshLineStride]
  have hplane : queue.inData.dewarpArgs.mesh.planeSize.toNat =
      mesh.meshWidth.toNat * 8 * mesh.meshHeight.toNat % 2 ^ 32 := by
    rw [h.mesh_eq.1, toNat_toUInt32_meshSize]
  have hentry : (meshBuffer mesh).size.toNat = mesh.meshWidth.toNat * 8 * mesh.meshHeight.toNat % 2 ^ 32 :=
    toNat_toUInt32_meshSize mesh
  rw [← hend]
  constructor
  · intro hvertex
    exact ⟨hvertex.column_lt, hvertex.row_lt, hplane ▸ hvertex.plane_le⟩
  · rintro ⟨hcolumn, hrow, hle⟩
    exact ⟨hcolumn, hrow, hplane ▸ hle, hentry ▸ hle⟩

/-- The mesh that an accepted dewarp issues covers the output exactly when it has a vertex more than the
minimum in both directions and the last one that is needed is inside the narrowed table. -/
theorem meshCovers_iff_meshSuffices {ioctl : Int32 → XrpIoctlQueue → Int32} {perfInfo : UInt64}
    {device : Ptr DspDevice} {src dst : DspImageProperties} {mesh : DspDewarpMesh}
    {interpolation : DspInterpolationType} {inData : ImagingRequest} {fd : Int32} {queue : XrpIoctlQueue}
    (h : (fd, queue) ∈ ((ImagingCall.dewarp (some src) (some dst) (some mesh) interpolation).run
      ioctl perfInfo device inData).ioctls) :
    MeshCovers mesh dst queue ↔ MeshSuffices mesh dst := by
  obtain ⟨d, rfl, haccepted, -, hissued⟩ := (ImagingCall.Denotes.dewarp src dst mesh interpolation).issued h
  have hentry : queue.buffers[queue.inData.dewarpArgs.mesh.xrpBufferIndex.toNat]? =
      some (meshBuffer mesh) := by
    rw [hissued.mesh_eq.1]
    exact hissued.mesh_eq.2
  constructor
  · rintro ⟨entry, hlookup, hcovers⟩
    cases hentry.symm.trans hlookup
    have hwidth : dst.width.toNat ≠ 0 := fun hzero => haccepted.target.width_ne (UInt64.toNat_inj.mp hzero)
    have hheight : dst.height.toNat ≠ 0 := fun hzero =>
      haccepted.target.height_ne (UInt64.toNat_inj.mp hzero)
    have hlast := hcovers _ (Nat.pred_lt hwidth) _ (Nat.pred_lt hheight) _
      (minimumMesh_mem_cornersOf hwidth) _
      (minimumMesh_mem_cornersOf hheight)
    obtain ⟨hcolumn, hrow, htable⟩ := (hissued.vertexPresent_iff _ _).mp hlast
    exact ⟨hcolumn, hrow, htable⟩
  · intro hsuffices
    have hlast := (hissued.vertexPresent_iff _ _).mpr
      ⟨hsuffices.width_lt, hsuffices.height_lt, hsuffices.table_le⟩
    refine ⟨meshBuffer mesh, hentry, fun x hx y hy column hcolumn row hrow => ?_⟩
    exact hlast.mono (le_minimumMesh_of_mem_cornersOf hx hcolumn) (le_minimumMesh_of_mem_cornersOf hy hrow)

/-- A small image dewarped with the mesh. -/
def smallDewarp (mesh : DspDewarpMesh) : ImagingCall :=
  .dewarp (some (smallImage .nv12)) (some (smallImage .nv12)) (some mesh) .bilinear

/-- A small image is dewarped with a mesh of a few vertices. -/
theorem smallDewarp_issues (mesh : DspDewarpMesh) (h : MeshAccepted mesh (smallImage .nv12)) :
    ∃ queue, (3, queue) ∈ ((smallDewarp mesh).run (fun _ _ => 0) 0 (some ⟨3⟩) default).ioctls := by
  have haccepted : DewarpAccepted (smallImage .nv12) (smallImage .nv12) mesh .bilinear :=
    ⟨smallImage_accepted (by decide), smallImage_accepted (by decide), h, rfl, rfl, .inl rfl⟩
  have hdenotes : (smallDewarp mesh).Denotes
      (.dewarp (smallImage .nv12) (smallImage .nv12) mesh .bilinear) :=
    .dewarp _ _ _ _
  exact hdenotes.issues haccepted (fun _ _ => 0) 0 ⟨3⟩ default

/-- A mesh of two by two vertices covers a small image. -/
theorem meshCovers_iff_meshSuffices_small :
    ∃ queue, (3, queue) ∈ ((smallDewarp ⟨2, 2, 4096⟩).run (fun _ _ => 0) 0 (some ⟨3⟩) default).ioctls ∧
      MeshCovers ⟨2, 2, 4096⟩ (smallImage .nv12) queue := by
  obtain ⟨queue, hissues⟩ := smallDewarp_issues ⟨2, 2, 4096⟩
    ⟨by decide, by decide, by decide, by decide, by decide⟩
  refine ⟨queue, hissues, (meshCovers_iff_meshSuffices hissues).mpr ?_⟩
  exact (meshSuffices_iff_of_lt (by decide)).mpr ⟨by decide, by decide⟩

/-- A mesh of a single vertex is accepted for a small image, whose only square has no other corner. -/
theorem singleVertex_not_covers :
    ∃ queue, (3, queue) ∈ ((smallDewarp ⟨1, 1, 4096⟩).run (fun _ _ => 0) 0 (some ⟨3⟩) default).ioctls ∧
      ¬ MeshCovers ⟨1, 1, 4096⟩ (smallImage .nv12) queue := by
  obtain ⟨queue, hissues⟩ := smallDewarp_issues ⟨1, 1, 4096⟩
    ⟨by decide, by decide, by decide, by decide, by decide⟩
  refine ⟨queue, hissues, ?_⟩
  rintro ⟨entry, -, hcovers⟩
  have hcorner := hcovers 0 (by decide) 0 (by decide) 1 (by decide) 0 (by decide)
  exact absurd hcorner.column_lt (by decide)

end HailoDsp
