import HailoDsp.BufferPairing

/-!
# How large a created buffer is

`dsp_create_buffer` adds the size of the header in 64 bits, and `driver_allocate_buffer` asks for
the low 32 bits of the sum. From `2 ^ 32 - 64` bytes on the block is smaller than the buffer that
the caller is told to have.
-/

namespace HailoDsp

open ByteMemory EarlyExit

/-- The bytes of the two members of a header. -/
def headerBytes (dspBuffer : UInt64) : Set ℕ := span dspBuffer.toNat 8 ∪ span (dspBuffer + 8).toNat 8

/-- What a successful `XRP_IOCTL_ALLOC` returns is the address of as many bytes of memory as it was
asked for. -/
def AllocatesMemory (ioctl : BufferDriver) : Prop :=
  ∀ fd arg, ¬ (ioctl fd (.alloc arg)).ret < 0 →
    (ioctl fd (.alloc arg)).addr.toNat + arg.size.toNat ≤ 2 ^ 64

/-- The call that led from one state to another has allocated one block, which holds the header that
the call has written and the bytes of the caller. -/
def CreatedInBlock (device size pointer : UInt64) (before after : BufferState) : Prop :=
  ∃ record block, after.issued = record :: before.issued ∧ record.applyTo [] = [block] ∧
    after.memory = storeMetadata record.answer.memory block.base ⟨device, sizeofDspBuffer + size⟩ ∧
    headerBytes block.base ⊆ block.bytes ∧ span pointer.toNat size.toNat ⊆ block.bytes

/-- A header inside the address space has sixteen bytes. -/
theorem headerBytes_subset {dspBuffer : UInt64} (h : dspBuffer.toNat + 16 ≤ 2 ^ 64) :
    headerBytes dspBuffer ⊆ span dspBuffer.toNat 16 := by
  refine Set.union_subset (span_subset le_rfl (by omega)) ?_
  rw [toNat_add_eight h]
  exact span_subset (by omega) (by omega)

/-- From `2 ^ 32 - 64` bytes on the block is smaller than what it was allocated for. -/
theorem allocatedSize_lt {size : UInt64} (h : 2 ^ 32 - 64 ≤ size.toNat) :
    (sizeofDspBuffer + size).toUInt32.toNat < size.toNat := by
  rw [toNat_allocatedSize]
  omega

/-- A creation on a device that is not open has no defined result. -/
theorem dspCreateBuffer_dangling (ioctl : BufferDriver) {devices : OpenDevices} {device size : UInt64}
    {buffer : Ptr UInt64} (s : BufferState) (h : ¬ (device = 0 ∨ size = 0 ∨ buffer = none))
    (hclosed : devices device = none) :
    (dspCreateBuffer ioctl devices device size buffer).exec s = (.error (.fault .danglingPointer), s) := by
  have hfd : deviceFd devices device = .error (.fault .danglingPointer) := by
    rw [deviceFd, hclosed]
    rfl
  rw [dspCreateBuffer, exec_bind_of_ok (exec_liftM (rejectIf_of_not h) s)]
  exact exec_bind_of_error (exec_liftM hfd s) _

/-- What a successful creation has done. -/
theorem dspCreateBuffer_ok {ioctl : BufferDriver} {devices : OpenDevices} {device size pointer : UInt64}
    {buffer : Ptr UInt64} {s s' : BufferState}
    (h : (dspCreateBuffer ioctl devices device size buffer).exec s = (.ok pointer, s')) :
    ∃ (d : DspDevice) (answer : IoctlAnswer), size ≠ 0 ∧
      ioctl d.fd (.alloc ⟨(sizeofDspBuffer + size).toUInt32, 0, 0⟩) = answer ∧ ¬ answer.ret < 0 ∧
      pointer = answer.addr + sizeofDspBuffer ∧
      s' = ⟨storeMetadata answer.memory answer.addr ⟨device, sizeofDspBuffer + size⟩,
        ⟨d.fd, .alloc ⟨(sizeofDspBuffer + size).toUInt32, 0, 0⟩, answer⟩ :: s.issued⟩ := by
  by_cases harguments : device = 0 ∨ size = 0 ∨ buffer = none
  · rw [dspCreateBuffer_rejected ioctl s harguments] at h
    cases h
  obtain ⟨-, hsize, -⟩ := by simpa only [not_or] using harguments
  cases hopen : devices device with
  | none =>
    rw [dspCreateBuffer_dangling ioctl s harguments hopen] at h
    cases h
  | some d =>
    by_cases hret : (ioctl d.fd (.alloc ⟨(sizeofDspBuffer + size).toUInt32, 0, 0⟩)).ret < 0
    · rw [dspCreateBuffer_fails ioctl s harguments hopen rfl hret] at h
      cases h
    · rw [dspCreateBuffer_succeeds ioctl s harguments hopen rfl hret] at h
      cases h
      exact ⟨d, _, hsize, rfl, hret, rfl, rfl⟩

/-- A buffer inside its block has less than `2 ^ 32 - 64` bytes. -/
theorem CreatedInBlock.size_lt {ioctl : BufferDriver} {devices : OpenDevices} {device size pointer : UInt64}
    {buffer : Ptr UInt64} {s s' : BufferState} (hinside : CreatedInBlock device size pointer s s')
    (h : (dspCreateBuffer ioctl devices device size buffer).exec s = (.ok pointer, s')) :
    size.toNat < 2 ^ 32 - 64 := by
  obtain ⟨d, answer, hsize, -, hret, rfl, rfl⟩ := dspCreateBuffer_ok h
  obtain ⟨record, block, hrecord, happly, -, -, hdata⟩ := hinside
  obtain ⟨rfl, -⟩ := List.cons.inj hrecord
  rw [IoctlRecord.applyTo_alloc hret] at happly
  obtain ⟨rfl, -⟩ := List.cons.inj happly
  by_contra hlarge
  have hshort := allocatedSize_lt (Nat.le_of_not_lt hlarge)
  have hpos : 0 < size.toNat := Nat.pos_of_ne_zero fun hzero => hsize (UInt64.toNat_inj.mp hzero)
  -- the first and the last byte of the caller are further apart than the ends of the block
  have hfirst := mem_span.mp (hdata (mem_span.mpr ⟨le_rfl, Nat.lt_add_of_pos_right hpos⟩))
  have hlast := mem_span.mp (hdata (mem_span.mpr ⟨Nat.le_add_right _ (size.toNat - 1), by omega⟩))
  dsimp only at hfirst hlast
  omega

/-- What a successful creation has made is inside the block that it has allocated exactly when less
than `2 ^ 32 - 64` bytes were asked for. -/
theorem createdInBlock_iff {ioctl : BufferDriver} (hdriver : AllocatesMemory ioctl) {devices : OpenDevices}
    {device size pointer : UInt64} {buffer : Ptr UInt64} {s s' : BufferState}
    (h : (dspCreateBuffer ioctl devices device size buffer).exec s = (.ok pointer, s')) :
    CreatedInBlock device size pointer s s' ↔ size.toNat < 2 ^ 32 - 64 := by
  refine ⟨fun hinside => hinside.size_lt h, fun hlimit => ?_⟩
  obtain ⟨d, answer, hsize, hanswer, hret, rfl, rfl⟩ := dspCreateBuffer_ok h
  have hfits : answer.addr.toNat + (sizeofDspBuffer + size).toUInt32.toNat ≤ 2 ^ 64 := by
    subst hanswer
    exact hdriver _ _ hret
  have hsound : LiveBuffer.Sound ⟨device, answer.addr + sizeofDspBuffer, size,
      ⟨d.fd, answer.addr, (sizeofDspBuffer + size).toUInt32⟩⟩ := .of_alloc hsize hlimit hfits
  exact ⟨_, _, rfl, IoctlRecord.applyTo_alloc hret _ _ _, rfl,
    (headerBytes_subset hsound.header_fits).trans hsound.header_subset, hsound.userBytes_subset⟩

/-- A creation on the sample device, whose driver allocates at 65536. -/
theorem sampleCreate (size : UInt64) (h : size ≠ 0) :
    ∃ s', (dspCreateBuffer (grantingDriver 65536 sampleStart.memory) sampleStart.devices 4096 size
      (some 0)).exec
      ⟨sampleStart.memory, []⟩ = (.ok 65600, s') :=
  ⟨_, dspCreateBuffer_succeeds (grantingDriver 65536 sampleStart.memory) ⟨sampleStart.memory, []⟩ (d := ⟨3⟩)
    (by simpa using h) rfl rfl (show ¬ (0 : Int32) < 0 by decide)⟩

/-- A buffer of 100 bytes is inside its block. -/
theorem createdInBlock_iff_sample :
    ∃ s', (dspCreateBuffer (grantingDriver 65536 sampleStart.memory) sampleStart.devices 4096 100
      (some 0)).exec
        ⟨sampleStart.memory, []⟩ = (.ok 65600, s') ∧
      CreatedInBlock 4096 100 65600 ⟨sampleStart.memory, []⟩ s' := by
  obtain ⟨s', hrun⟩ := sampleCreate 100 (by decide)
  have hdriver : AllocatesMemory (grantingDriver 65536 sampleStart.memory) := fun fd arg hret =>
    ((grantingDriver_contract (by decide) sampleStart.memory (List.forall_mem_nil _)).fresh fd arg hret).1
  exact ⟨s', hrun, (createdInBlock_iff hdriver hrun).mpr (by decide)⟩

/-- A buffer of `2 ^ 32` bytes is created in a block of 64 bytes. -/
theorem fourGibibytes_not_inBlock :
    ∃ s', (dspCreateBuffer (grantingDriver 65536 sampleStart.memory) sampleStart.devices 4096 4294967296
        (some 0)).exec ⟨sampleStart.memory, []⟩ = (.ok 65600, s') ∧
      s'.issued.map IoctlRecord.request = [.alloc ⟨64, 0, 0⟩] ∧
      ¬ CreatedInBlock 4096 4294967296 65600 ⟨sampleStart.memory, []⟩ s' := by
  obtain ⟨s', hrun⟩ := sampleCreate 4294967296 (by decide)
  refine ⟨s', hrun, ?_, fun hinside => absurd (hinside.size_lt hrun) (by decide)⟩
  obtain ⟨d, answer, -, -, -, -, rfl⟩ := dspCreateBuffer_ok hrun
  rfl

end HailoDsp
