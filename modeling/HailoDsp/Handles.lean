import HailoDsp.Validation

/-!
# The handles of the planes

The eight bytes that `userptr` and `fd` share mean what the memory type of the image says. The
validator tests them as a pointer, for every memory type, and never looks at the memory type;
`add_plane` reads the member that the memory type selects. The two agree on user memory. A
descriptor has to be positive: 0 with nothing behind it is taken for NULL, and a negative one for a
pointer.
-/

namespace HailoDsp

/-- The planes of an image have the handles that its memory type asks for. -/
def DspImageProperties.HandlesValid (image : DspImageProperties) : Prop :=
  (image.memory = .userptr ∧ ∀ j < image.planesCount.toNat, (image.plane j).userptr ≠ 0) ∨
    (image.memory = .dmabuf ∧ ∀ j < image.planesCount.toNat, 0 ≤ (image.plane j).fd)

/-- The image with other contents of the unions of its planes. -/
def DspImageProperties.withHandles (image : DspImageProperties) (handles : ℕ → UInt64) :
    DspImageProperties :=
  { image with planes := image.planes.map fun planes j => { planes j with handle := handles j } }

/-- A memory type of `enum ioctl_memory_type`, and a valid handle in the member that it selects. -/
def XrpIoctlBuffer.HandleValid (buffer : XrpIoctlBuffer) : Prop :=
  (buffer.memoryType = 0 ∧ buffer.addr ≠ 0) ∨ (buffer.memoryType = 1 ∧ 0 ≤ buffer.fd)

/-- The verdict on an image does not depend on the bytes outside its descriptors. -/
def VerdictOnlyFd (image : DspImageProperties) : Prop :=
  ∀ handles : ℕ → UInt64,
    (∀ j < image.planesCount.toNat, ((image.withHandles handles).plane j).fd = (image.plane j).fd) →
      verifyImageProperties (some (image.withHandles handles)) = verifyImageProperties (some image)

/-- The handles of an image are checked according to its memory type. -/
structure HandlesChecked (image : DspImageProperties) : Prop where
  verdict : verifyImageProperties (some image) = .ok () ↔ image.HandlesValid
  onlyFd : image.memory = .dmabuf → VerdictOnlyFd image
  entries : verifyImageProperties (some image) = .ok () → ∀ j < image.planesCount.toNat,
    ∀ (list : BufferList) (accessType : BufferAccessType), ∃ entry,
      (list.addPlane (image.plane j) accessType image.memory).1.buffers.getLast? = some entry ∧
      entry.HandleValid

/-- The images for which a test of the eight bytes against NULL is all it takes. -/
def NullTestSuffices (image : DspImageProperties) : Prop :=
  match image.memory with
  | .userptr => True
  | .dmabuf => ∀ j < image.planesCount.toNat, 0 < (image.plane j).fd
  | .other _ => ∃ j < image.planesCount.toNat, (image.plane j).userptr = 0

/-- A NULL pointer is descriptor 0. -/
theorem DspDataPlane.fd_of_userptr_eq_zero {plane : DspDataPlane} (h : plane.userptr = 0) :
    plane.fd = 0 := by
  have hhandle : plane.handle = 0 := h
  rw [fd, hhandle]
  rfl

/-- A positive descriptor is not a NULL pointer. -/
theorem DspDataPlane.userptr_ne_of_fd_pos {plane : DspDataPlane} (h : 0 < plane.fd) :
    plane.userptr ≠ 0 := by
  intro hnull
  rw [fd_of_userptr_eq_zero hnull] at h
  exact absurd h (by decide)

/-- The eight bytes of a union that holds a descriptor, with the four bytes that it leaves over. -/
def unionOf (fd : Int32) (rest : UInt32) : UInt64 := UInt64.ofNat (rest.toNat * 2 ^ 32 + fd.toUInt32.toNat)

/-- The bytes of such a union as a number. -/
theorem toNat_unionOf (fd : Int32) (rest : UInt32) :
    (unionOf fd rest).toNat = rest.toNat * 2 ^ 32 + fd.toUInt32.toNat := by
  have hrest := rest.toNat_lt
  have hfd := fd.toUInt32.toNat_lt
  exact UInt64.toNat_ofNat_of_lt' (show _ < 2 ^ 64 by omega)

/-- Such a union holds its descriptor. -/
theorem DspDataPlane.fd_unionOf {plane : DspDataPlane} {fd : Int32} {rest : UInt32}
    (h : plane.handle = unionOf fd rest) : plane.fd = fd := by
  have hlow : plane.handle.toUInt32 = fd.toUInt32 := by
    have hfd := fd.toUInt32.toNat_lt
    rw [← UInt32.toNat_inj, UInt64.toNat_toUInt32, h, toNat_unionOf]
    omega
  rw [DspDataPlane.fd, hlow, Int32.toInt32_toUInt32]

/-- A union is NULL only if it holds descriptor 0 and nothing else. -/
theorem unionOf_eq_zero_iff {fd : Int32} {rest : UInt32} : unionOf fd rest = 0 ↔ fd = 0 ∧ rest = 0 := by
  have hfd : fd = 0 ↔ fd.toUInt32.toNat = 0 := by
    refine ⟨fun hzero => hzero ▸ rfl, fun hzero => ?_⟩
    rw [← fd.toInt32_toUInt32, show fd.toUInt32 = 0 from UInt32.toNat_inj.mp hzero]
    rfl
  rw [← UInt64.toNat_inj, toNat_unionOf, hfd, ← UInt32.toNat_inj]
  show _ = 0 ↔ _ ∧ _ = 0
  omega

/-- A plane of the image with other handles. -/
theorem DspImageProperties.plane_withHandles {image : DspImageProperties} (hplanes : image.planes ≠ none)
    (handles : ℕ → UInt64) (j : ℕ) :
    (image.withHandles handles).plane j = { image.plane j with handle := handles j } := by
  obtain ⟨planes, h⟩ := Option.ne_none_iff_exists'.mp hplanes
  simp [plane, withHandles, Ptr.elem, h]

/-- The entry of a plane in user memory holds its pointer. -/
theorem planeBuffer_userptr (plane : DspDataPlane) (accessType : BufferAccessType) :
    (planeBuffer plane accessType .userptr).memoryType = 0 ∧
      (planeBuffer plane accessType .userptr).addr = plane.userptr := ⟨rfl, rfl⟩

/-- The entry of a plane in a DMABUF holds its descriptor. -/
theorem planeBuffer_dmabuf (plane : DspDataPlane) (accessType : BufferAccessType) :
    (planeBuffer plane accessType .dmabuf).memoryType = 1 ∧
      (planeBuffer plane accessType .dmabuf).fd = plane.fd := by
  refine ⟨rfl, ?_⟩
  simp [planeBuffer, XrpIoctlBuffer.fd]

section WellFormed

variable {image : DspImageProperties} (h : image.WellFormed) (hknown : image.format.layouts ≠ [])
  (hplanes : image.planes ≠ none)
include h hknown hplanes

/-- Of a well-formed image the validator only tests the pointers of its planes. -/
theorem verifyImageProperties_ok_iff_userptr_ne :
    verifyImageProperties (some image) = .ok () ↔
    ∀ j < image.planesCount.toNat, (image.plane j).userptr ≠ 0 := by
  rw [verifyImageProperties_ok_iff_seemsWellFormed]
  exact ⟨fun hseems => hseems.userptr_ne, fun huserptr => h.seemsWellFormed hknown hplanes huserptr⟩

/-- The same test decides about the image with other handles. -/
theorem verifyImageProperties_withHandles_ok_iff (handles : ℕ → UInt64) :
    verifyImageProperties (some (image.withHandles handles)) = .ok () ↔
      ∀ j < image.planesCount.toNat, handles j ≠ 0 := by
  have hplane := DspImageProperties.plane_withHandles hplanes handles
  have hother : (image.withHandles handles).WellFormed := by
    simp only [DspImageProperties.WellFormed, hplane]
    exact h
  have hnull : (image.withHandles handles).planes ≠ none := by
    obtain ⟨planes, heq⟩ := Option.ne_none_iff_exists'.mp hplanes
    simp [DspImageProperties.withHandles, heq]
  rw [verifyImageProperties_ok_iff_userptr_ne hother hknown hnull]
  simp only [hplane]
  rfl

/-- Where the verdict depends on nothing but the descriptors, none of them is 0. -/
theorem VerdictOnlyFd.fd_ne_zero (honly : VerdictOnlyFd image) {j : ℕ} (hj : j < image.planesCount.toNat) :
    (image.plane j).fd ≠ 0 := by
  intro hzero
  have hsame (rest : UInt32) :
      verifyImageProperties (some (image.withHandles fun k => unionOf (image.plane k).fd rest)) =
        verifyImageProperties (some image) := by
    refine honly _ fun k _ => ?_
    rw [DspImageProperties.plane_withHandles hplanes]
    exact DspDataPlane.fd_unionOf (show _ = unionOf (image.plane k).fd rest from rfl)
  have hverify (rest : UInt32) := verifyImageProperties_withHandles_ok_iff h hknown hplanes
    fun k => unionOf (image.plane k).fd rest
  -- a byte left over in every union gets the image accepted, descriptor 0 without one rejected
  have hone : verifyImageProperties (some image) = .ok () := by
    rw [← hsame 1]
    refine (hverify 1).mpr fun k _ hnull => ?_
    exact absurd (unionOf_eq_zero_iff.mp hnull).2 (by decide)
  rw [← hsame 0] at hone
  exact (hverify 0).mp hone j hj (unionOf_eq_zero_iff.mpr ⟨hzero, rfl⟩)

/-- In user memory a test against NULL suffices. -/
theorem handlesChecked_of_userptr (hmemory : image.memory = .userptr) : HandlesChecked image where
  verdict := by
    rw [verifyImageProperties_ok_iff_userptr_ne h hknown hplanes]
    simp [DspImageProperties.HandlesValid, hmemory]
  onlyFd hdmabuf := by
    rw [hmemory] at hdmabuf
    cases hdmabuf
  entries hok j hj list accessType := by
    refine ⟨_, list.getLast?_addPlane _ accessType image.memory, .inl ?_⟩
    obtain ⟨htype, haddr⟩ := planeBuffer_userptr (image.plane j) accessType
    rw [hmemory, haddr]
    exact ⟨htype, (verifyImageProperties_ok_iff_userptr_ne h hknown hplanes).mp hok j hj⟩

/-- In DMABUFs it suffices exactly for positive descriptors. -/
theorem handlesChecked_dmabuf_iff (hmemory : image.memory = .dmabuf) :
    HandlesChecked image ↔ ∀ j < image.planesCount.toNat, 0 < (image.plane j).fd := by
  have hvalid : image.HandlesValid ↔ ∀ j < image.planesCount.toNat, 0 ≤ (image.plane j).fd := by
    simp [DspImageProperties.HandlesValid, hmemory]
  have hverify := verifyImageProperties_ok_iff_userptr_ne h hknown hplanes
  constructor
  · intro hchecked j hj
    have hne (k : ℕ) (hk : k < image.planesCount.toNat) : (image.plane k).fd ≠ 0 :=
      VerdictOnlyFd.fd_ne_zero h hknown hplanes (hchecked.onlyFd hmemory) hk
    have haccepted : verifyImageProperties (some image) = .ok () := by
      refine hverify.mpr fun k hk hnull => ?_
      exact hne k hk (DspDataPlane.fd_of_userptr_eq_zero hnull)
    have hnonneg := hvalid.mp (hchecked.verdict.mp haccepted) j hj
    exact Int32.lt_of_le_of_ne hnonneg (hne j hj).symm
  · intro hpos
    have haccepted : verifyImageProperties (some image) = .ok () :=
      hverify.mpr fun j hj => DspDataPlane.userptr_ne_of_fd_pos (hpos j hj)
    refine ⟨?_, fun _ handles hfd => ?_, fun _ j hj list accessType => ?_⟩
    · exact iff_of_true haccepted (hvalid.mpr fun j hj => Int32.le_of_lt (hpos j hj))
    · rw [haccepted]
      refine (verifyImageProperties_withHandles_ok_iff h hknown hplanes handles).mpr fun j hj => ?_
      have hfdpos := hpos j hj
      rw [← hfd j hj, DspImageProperties.plane_withHandles hplanes] at hfdpos
      exact DspDataPlane.userptr_ne_of_fd_pos hfdpos
    · refine ⟨_, list.getLast?_addPlane _ accessType image.memory, .inr ?_⟩
      obtain ⟨htype, hentry⟩ := planeBuffer_dmabuf (image.plane j) accessType
      rw [hmemory, hentry]
      exact ⟨htype, Int32.le_of_lt (hpos j hj)⟩

/-- An image of no memory type is rejected only for a NULL pointer. -/
theorem handlesChecked_other_iff {n : ℕ} (hmemory : image.memory = .other n) :
    HandlesChecked image ↔ ∃ j < image.planesCount.toNat, (image.plane j).userptr = 0 := by
  have hinvalid : ¬ image.HandlesValid := by simp [DspImageProperties.HandlesValid, hmemory]
  have hrejected : ¬ verifyImageProperties (some image) = .ok () ↔
      ∃ j < image.planesCount.toNat, (image.plane j).userptr = 0 := by
    rw [verifyImageProperties_ok_iff_userptr_ne h hknown hplanes]
    simp
  rw [← hrejected]
  constructor
  · intro hchecked haccepted
    exact hinvalid (hchecked.verdict.mp haccepted)
  · intro hnot
    refine ⟨iff_of_false hnot hinvalid, fun hdmabuf => ?_, fun haccepted => absurd haccepted hnot⟩
    rw [hmemory] at hdmabuf
    cases hdmabuf

/-- The handles of a well-formed image are checked according to its memory type exactly when a test
against NULL suffices. -/
theorem handlesChecked_iff_nullTestSuffices : HandlesChecked image ↔ NullTestSuffices image := by
  unfold NullTestSuffices
  split
  next hmemory => exact iff_of_true (handlesChecked_of_userptr h hknown hplanes hmemory) trivial
  next hmemory => exact handlesChecked_dmabuf_iff h hknown hplanes hmemory
  next n hmemory => exact handlesChecked_other_iff h hknown hplanes hmemory

end WellFormed

/-- A small image in a DMABUF. -/
def smallDmabuf (handle : UInt64) : DspImageProperties :=
  { (smallImage .gray8).withHandles fun _ => handle with memory := .dmabuf }

/-- The small image in a DMABUF is well formed, whatever its descriptor. -/
theorem smallDmabuf_wellFormed (handle : UInt64) : (smallDmabuf handle).WellFormed :=
  (smallImage_accepted (show DspImageFormat.gray8.layouts ≠ [] by decide)).wellFormed
    (smallImage_below32 .gray8)

/-- The small image in a DMABUF has a valid handle when its descriptor is not negative. -/
theorem smallDmabuf_handlesValid_iff (handle : UInt64) :
    (smallDmabuf handle).HandlesValid ↔ 0 ≤ handle.toUInt32.toInt32 := by
  constructor
  · rintro (⟨hmemory, -⟩ | ⟨-, hfd⟩)
    · cases hmemory
    · exact hfd 0 (show 0 < (1 : UInt64).toNat by decide)
  · exact fun hfd => .inr ⟨rfl, fun _ _ => hfd⟩

/-- Descriptor -1 is accepted, and descriptor 0 is rejected unless bytes are left over behind it. -/
theorem smallDmabuf_descriptors :
    (∀ handle, (smallDmabuf handle).WellFormed) ∧
      (verifyImageProperties (some (smallDmabuf 4294967295)) = .ok () ∧
        ¬ (smallDmabuf 4294967295).HandlesValid) ∧
      (verifyImageProperties (some (smallDmabuf 0)) = .error invalidArgument ∧
        (smallDmabuf 0).HandlesValid) ∧
      (verifyImageProperties (some (smallDmabuf 4294967296)) = .ok () ∧
        (smallDmabuf 4294967296).HandlesValid) := by
  simp only [smallDmabuf_handlesValid_iff]
  refine ⟨smallDmabuf_wellFormed, ⟨?_, by decide⟩, ⟨?_, by decide⟩, ?_, by decide⟩
  · decide +kernel
  · decide +kernel
  · decide +kernel

/-- The handle of an image with descriptor 5 is checked. -/
theorem handlesChecked_iff_nullTestSuffices_smallDmabuf : HandlesChecked (smallDmabuf 5) :=
  (handlesChecked_iff_nullTestSuffices (smallDmabuf_wellFormed 5) (by decide)
    (Option.some_ne_none _)).mpr fun j _ => show 0 < (5 : Int32) by decide

end HailoDsp
