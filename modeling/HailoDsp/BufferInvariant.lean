import HailoDsp.BufferRuns

/-!
# Headers stand for the table

The invariant of the runs: the blocks of the driver are those of the live buffers, they do not
overlap, and the header of every live buffer names its device and the size of its block. What a
permitted call does is said once, in terms of the live buffer it names instead of the header it
reads; that the invariant is kept follows for each kind of step, and from it, for every run, that
each `XRP_IOCTL_FREE` takes back exactly what one `XRP_IOCTL_ALLOC` has handed out.
-/

namespace HailoDsp

open ByteMemory EarlyExit

/-- The header of a buffer. -/
def LiveBuffer.metadata (b : LiveBuffer) : BufferMetadata := ⟨b.device, sizeofDspBuffer + b.size⟩

/-- The bytes that the caller may use. -/
def LiveBuffer.userBytes (b : LiveBuffer) : Set ℕ := span b.pointer.toNat b.size.toNat

/-- The block of a buffer holds its header and its bytes. -/
structure LiveBuffer.Sound (b : LiveBuffer) : Prop where
  pointer_eq : b.pointer = b.block.base + sizeofDspBuffer
  size_eq : b.block.size.toNat = b.size.toNat + 64
  size_pos : 0 < b.size.toNat
  fits : b.block.base.toNat + b.block.size.toNat ≤ 2 ^ 64

/-- The size of the block that a creation asks for, which has 32 bits. -/
theorem toNat_allocatedSize (size : UInt64) :
    (sizeofDspBuffer + size).toUInt32.toNat = (size.toNat + 64) % 2 ^ 32 := by
  rw [UInt64.toNat_toUInt32, UInt64.toNat_add, Nat.mod_mod_of_dvd _ (by decide), Nat.add_comm]
  rfl

/-- A block allocated for less than `2 ^ 32 - 64` bytes holds its header and its bytes. -/
theorem LiveBuffer.Sound.of_alloc {device size base : UInt64} {fd : Int32} (hsize : size ≠ 0)
    (hlimit : size.toNat < 2 ^ 32 - 64)
    (hfits : base.toNat + (sizeofDspBuffer + size).toUInt32.toNat ≤ 2 ^ 64) :
    LiveBuffer.Sound
      ⟨device, base + sizeofDspBuffer, size, ⟨fd, base, (sizeofDspBuffer + size).toUInt32⟩⟩ where
  pointer_eq := rfl
  size_eq := by
    rw [toNat_allocatedSize]
    exact Nat.mod_eq_of_lt (by omega)
  size_pos := Nat.pos_of_ne_zero fun hzero => hsize (UInt64.toNat_inj.mp hzero)
  fits := hfits

namespace LiveBuffer.Sound

variable {b : LiveBuffer} (h : b.Sound)
include h

/-- The address of the buffer. -/
theorem toNat_pointer : b.pointer.toNat = b.block.base.toNat + 64 := by
  have hsize := h.size_eq
  have hpos := h.size_pos
  have hfits := h.fits
  rw [h.pointer_eq, toNat_add_of_lt]
  · rfl
  · change b.block.base.toNat + 64 < 2 ^ 64
    omega

/-- A buffer is not NULL. -/
theorem pointer_ne : b.pointer ≠ 0 := by
  intro hzero
  have hpointer := h.toNat_pointer
  rw [hzero] at hpointer
  simp at hpointer

/-- The block is found from the buffer. -/
theorem dspBufferFromPtr_pointer : dspBufferFromPtr b.pointer = b.block.base := by
  rw [h.pointer_eq, dspBufferFromPtr, UInt64.add_sub_cancel]

/-- The size in the header is the size of the block. -/
theorem metadata_eq : b.metadata = ⟨b.device, b.block.size.toUInt64⟩ := by
  have hsize := h.size_eq
  have hlt := b.block.size.toNat_lt
  have hallocated : sizeofDspBuffer + b.size = b.block.size.toUInt64 := by
    apply UInt64.toNat_inj.mp
    rw [UInt32.toNat_toUInt64, toNat_add_of_lt (by change 64 + b.size.toNat < _; omega), hsize,
      Nat.add_comm]
    rfl
  rw [LiveBuffer.metadata, hallocated]

/-- Narrowing the size in the header loses nothing. -/
theorem toUInt32_allocatedSize : b.metadata.allocatedSize.toUInt32 = b.block.size := by
  rw [h.metadata_eq, UInt32.toUInt32_toUInt64]

/-- The bytes of the caller are in the block. -/
theorem userBytes_subset : b.userBytes ⊆ b.block.bytes := by
  have hpointer := h.toNat_pointer
  have hsize := h.size_eq
  exact span_subset (by omega) (by omega)

/-- The block begins at its base. -/
theorem base_mem : b.block.base.toNat ∈ b.block.bytes := by
  have hsize := h.size_eq
  exact mem_span.mpr ⟨le_rfl, by omega⟩

/-- The header is in the block. -/
theorem header_subset : span b.block.base.toNat 16 ⊆ b.block.bytes := by
  have hsize := h.size_eq
  exact span_subset le_rfl (by omega)

/-- The header is apart from the bytes of the caller. -/
theorem header_disjoint : Disjoint (span b.block.base.toNat 16) b.userBytes := by
  have hpointer := h.toNat_pointer
  exact disjoint_span (by omega)

/-- The header is inside the address space. -/
theorem header_fits : b.block.base.toNat + 16 ≤ 2 ^ 64 := by
  have hsize := h.size_eq
  have hfits := h.fits
  omega

/-- A header is still there as long as the block keeps its bytes. -/
theorem loadMetadata_of_eqOn {memory memory' : Memory} (heq : Set.EqOn memory' memory b.block.bytes) :
    loadMetadata memory' b.block.base = loadMetadata memory b.block.base :=
  loadMetadata_congr h.header_fits (heq.mono h.header_subset)

end LiveBuffer.Sound

/-- The invariant of the runs. -/
structure BufferWorld.Consistent (w : BufferWorld) : Prop where
  blocks : driverBlocks w.history = (liveBuffers w.history).map LiveBuffer.block
  disjoint : (liveBuffers w.history).Pairwise fun b c => Disjoint b.block.bytes c.block.bytes
  sound : ∀ b ∈ liveBuffers w.history, b.Sound
  header : ∀ b ∈ liveBuffers w.history, loadMetadata w.memory b.block.base = b.metadata
  device_open : ∀ b ∈ liveBuffers w.history, Attached w.history b →
    b.device ≠ 0 ∧ w.devices b.device = some ⟨b.block.fd⟩

/-- What a permitted call can do. -/
inductive BufferWorld.CallEffect (w : BufferWorld) (ioctl : BufferDriver) : CallRecord → Memory → Prop
  | rejected (request : BufferRequest) : CallEffect w ioctl ⟨request, .error invalidArgument, []⟩ w.memory
  | createFails {device size : UInt64} (buffer : Ptr UInt64) {d : DspDevice} {answer : IoctlAnswer}
      (hanswer : ioctl d.fd (.alloc ⟨(sizeofDspBuffer + size).toUInt32, 0, 0⟩) = answer)
      (hret : answer.ret < 0) :
    CallEffect w ioctl ⟨.createBuffer device size buffer, .error (.status .createBufferFailed),
      [⟨d.fd, .alloc ⟨(sizeofDspBuffer + size).toUInt32, 0, 0⟩, answer⟩]⟩ answer.memory
  | createSucceeds {device size : UInt64} (buffer : Ptr UInt64) {d : DspDevice} {answer : IoctlAnswer}
      (hdevice : device ≠ 0) (hsize : size ≠ 0) (hlimit : size.toNat < 2 ^ 32 - 64)
      (hopen : w.devices device = some d)
      (hanswer : ioctl d.fd (.alloc ⟨(sizeofDspBuffer + size).toUInt32, 0, 0⟩) = answer)
      (hret : ¬ answer.ret < 0) :
    CallEffect w ioctl ⟨.createBuffer device size buffer, .ok (some (answer.addr + sizeofDspBuffer)),
      [⟨d.fd, .alloc ⟨(sizeofDspBuffer + size).toUInt32, 0, 0⟩, answer⟩]⟩
      (storeMetadata answer.memory answer.addr ⟨device, sizeofDspBuffer + size⟩)
  | released {b : LiveBuffer} {answer : IoctlAnswer} (hlive : b ∈ liveBuffers w.history)
      (hanswer : ioctl b.block.fd (.free ⟨b.block.size, 0, b.block.base⟩) = answer) :
    CallEffect w ioctl ⟨.releaseBuffer b.device b.pointer,
      (failIfNegative .unmapBufferFailed answer.ret).map fun _ => none,
      [⟨b.block.fd, .free ⟨b.block.size, 0, b.block.base⟩, answer⟩]⟩ answer.memory
  | synced {b : LiveBuffer} {answer : IoctlAnswer} (hlive : b ∈ liveBuffers w.history)
      (accessTime : IoctlSyncAccessTime) (direction : DspSyncDirection)
      (hanswer : ioctl b.block.fd
        (.dmaSync ⟨direction.value, accessTime.value, b.block.size, b.pointer⟩) = answer) :
    CallEffect w ioctl
      ⟨.bufferSync accessTime b.pointer direction,
        (failIfNegative .syncBufferFailed answer.ret).map fun _ => none,
        [⟨b.block.fd, .dmaSync ⟨direction.value, accessTime.value, b.block.size, b.pointer⟩, answer⟩]⟩
      answer.memory

/-- Mapping the result of a call. -/
theorem exec_map {α β : Type} {call : BufferCall α} {s s' : BufferState} {result : Call α}
    (h : call.exec s = (result, s')) (f : α → β) : (f <$> call).exec s = (result.map f, s') := by
  cases result with
  | error e => exact exec_bind_of_error h _
  | ok a => exact exec_bind_of_ok h _

/-- What a call does is what its execution does. -/
theorem BufferWorld.call_eq (w : BufferWorld) (ioctl : BufferDriver) (request : BufferRequest)
    {result : Call (Ptr UInt64)} {s : BufferState}
    (h : (request.run ioctl w.devices).exec ⟨w.memory, []⟩ = (result, s)) :
    w.call ioctl request = (⟨request, result, s.issued⟩, s.memory) := by
  rw [BufferWorld.call, h]

/-- Both synchronisations are the same but for the access time. -/
theorem BufferRequest.run_bufferSync (ioctl : BufferDriver) (devices : OpenDevices)
    (accessTime : IoctlSyncAccessTime) (buffer : UInt64) (direction : DspSyncDirection) :
    (BufferRequest.bufferSync accessTime buffer direction).run ioctl devices =
    (fun _ => none) <$> dspBufferSync
      (fun fd buffer size direction => driverSyncBuffer ioctl fd buffer size direction accessTime)
      devices buffer direction := by
  cases accessTime <;> rfl

section HeaderReads

variable {w : BufferWorld} (h : w.Consistent) (ioctl : BufferDriver) {b : LiveBuffer}
  (hb : b ∈ liveBuffers w.history) (hattached : Attached w.history b)
include h hb

/-- The header in front of a live buffer. -/
theorem BufferWorld.Consistent.header_of_pointer :
    loadMetadata w.memory (dspBufferFromPtr b.pointer) = b.metadata := by
  rw [(h.sound b hb).dspBufferFromPtr_pointer]
  exact h.header b hb

include hattached

/-- A release frees the block of the buffer. -/
theorem BufferWorld.Consistent.call_release :
    let request := .free ⟨b.block.size, 0, b.block.base⟩
    let answer := ioctl b.block.fd request
    w.call ioctl (.releaseBuffer b.device b.pointer) =
      (⟨.releaseBuffer b.device b.pointer, (failIfNegative .unmapBufferFailed answer.ret).map fun _ => none,
        [⟨b.block.fd, request, answer⟩]⟩, answer.memory) := by
  have hsound := h.sound b hb
  obtain ⟨hdevice, hopen⟩ := h.device_open b hb hattached
  have hpass : ¬ (b.device = 0 ∨ b.pointer = 0) := not_or.mpr ⟨hdevice, hsound.pointer_ne⟩
  have hexec := dspReleaseBuffer_exec ioctl ⟨w.memory, []⟩ hpass hopen (h.header_of_pointer hb) rfl
  rw [call_eq w ioctl (.releaseBuffer ..) (exec_map hexec _), hsound.dspBufferFromPtr_pointer,
    hsound.toUInt32_allocatedSize]

/-- A synchronisation starts at the buffer and has the size of the block. -/
theorem BufferWorld.Consistent.call_sync (accessTime : IoctlSyncAccessTime) (direction : DspSyncDirection) :
    let request := .dmaSync ⟨direction.value, accessTime.value, b.block.size, b.pointer⟩
    let answer := ioctl b.block.fd request
    w.call ioctl (.bufferSync accessTime b.pointer direction) =
      (⟨.bufferSync accessTime b.pointer direction,
        (failIfNegative .syncBufferFailed answer.ret).map fun _ => none,
        [⟨b.block.fd, request, answer⟩]⟩, answer.memory) := by
  have hsound := h.sound b hb
  have hrun := BufferRequest.run_bufferSync ioctl w.devices accessTime b.pointer direction
  have hexec := dspBufferSync_exec ioctl ⟨w.memory, []⟩ accessTime direction hsound.pointer_ne
    (h.header_of_pointer hb) (h.device_open b hb hattached).2 rfl
  rw [call_eq w ioctl _ (hrun ▸ exec_map hexec _), hsound.toUInt32_allocatedSize]

end HeaderReads

/-- The effect of a permitted call; where the code reads a header, the invariant says what it finds. -/
theorem BufferWorld.Consistent.callEffect {w : BufferWorld} (h : w.Consistent) (ioctl : BufferDriver)
    {request : BufferRequest} (hpermits : w.Permits request) :
    w.CallEffect ioctl (w.call ioctl request).1 (w.call ioctl request).2 := by
  cases request with
  | createBuffer device size buffer =>
    obtain ⟨hlimit, hdevice⟩ := hpermits
    by_cases hreject : device = 0 ∨ size = 0 ∨ buffer = none
    · rw [call_eq w ioctl (.createBuffer ..) (exec_map (dspCreateBuffer_rejected ioctl _ hreject) some)]
      exact .rejected _
    · obtain ⟨hdevice0, hsize, -⟩ : device ≠ 0 ∧ size ≠ 0 ∧
        buffer ≠ none := by simpa only [not_or] using hreject
      obtain ⟨d, hopen⟩ := Option.ne_none_iff_exists'.mp (hdevice.resolve_left hdevice0)
      by_cases hret : (ioctl d.fd (.alloc ⟨(sizeofDspBuffer + size).toUInt32, 0, 0⟩)).ret < 0
      · have hexec := dspCreateBuffer_fails ioctl ⟨w.memory, []⟩ hreject hopen rfl hret
        rw [call_eq w ioctl (.createBuffer ..) (exec_map hexec some)]
        exact .createFails buffer rfl hret
      · have hexec := dspCreateBuffer_succeeds ioctl ⟨w.memory, []⟩ hreject hopen rfl hret
        rw [call_eq w ioctl (.createBuffer ..) (exec_map hexec some)]
        exact .createSucceeds buffer hdevice0 hsize hlimit hopen rfl hret
  | releaseBuffer device buffer =>
    by_cases hreject : device = 0 ∨ buffer = 0
    · rw [call_eq w ioctl (.releaseBuffer ..) (exec_map (dspReleaseBuffer_rejected ioctl _ hreject) _)]
      exact .rejected _
    · obtain ⟨b, hlive, hattached, rfl, rfl⟩ := Or.resolve_left hpermits hreject
      rw [h.call_release ioctl hlive hattached]
      exact .released hlive rfl
  | bufferSync accessTime buffer direction =>
    by_cases hreject : buffer = 0
    · subst hreject
      have hrun := BufferRequest.run_bufferSync ioctl w.devices accessTime 0 direction
      rw [call_eq w ioctl _ (hrun ▸ exec_map (dspBufferSync_rejected _ _) _)]
      exact .rejected _
    · obtain ⟨b, hlive, hattached, rfl⟩ := Or.resolve_left hpermits hreject
      rw [h.call_sync ioctl hlive hattached]
      exact .synced hlive accessTime direction rfl

/-- A call that fails has created nothing. -/
@[simp] theorem CallRecord.created_error (request : BufferRequest) (e : Stop) (issued : List IoctlRecord) :
    CallRecord.created ⟨request, .error e, issued⟩ = none := by
  cases request <;> rfl

/-- A call that fails has released nothing. -/
@[simp] theorem CallRecord.released_error (request : BufferRequest) (e : Stop) (issued : List IoctlRecord) :
    CallRecord.released ⟨request, .error e, issued⟩ = none := by
  cases request <;> rfl

/-- A failing ioctl does not change the blocks of the driver. -/
theorem IoctlRecord.applyTo_of_fails {answer : IoctlAnswer} (h : answer.ret < 0) (fd : Int32)
    (request : BufferIoctl) (blocks : List Block) :
    IoctlRecord.applyTo ⟨fd, request, answer⟩ blocks = blocks :=
  if_pos h

/-- A successful allocation adds its block. -/
theorem IoctlRecord.applyTo_alloc {answer : IoctlAnswer} (h : ¬ answer.ret < 0) (fd : Int32)
    (arg : XrpIoctlAlloc) (blocks : List Block) :
    IoctlRecord.applyTo ⟨fd, .alloc arg, answer⟩ blocks = ⟨fd, answer.addr, arg.size⟩ :: blocks := if_neg h

/-- A successful release takes away the block at its address. -/
theorem IoctlRecord.applyTo_free {answer : IoctlAnswer} (h : ¬ answer.ret < 0) (fd : Int32)
    (arg : XrpIoctlAlloc) (blocks : List Block) :
    IoctlRecord.applyTo ⟨fd, .free arg, answer⟩ blocks = blocks.filter fun block =>
    block.base ≠ arg.addr := if_neg h

/-- A synchronisation does not change the blocks. -/
theorem IoctlRecord.applyTo_dmaSync (answer : IoctlAnswer) (fd : Int32) (arg : XrpIoctlSyncBuffer)
    (blocks : List Block) : IoctlRecord.applyTo ⟨fd, .dmaSync arg, answer⟩ blocks = blocks := ite_self _

/-- The buffers after a call that neither creates nor releases one. -/
theorem liveBuffers_called {record : CallRecord} (hcreated : record.created = none)
    (hreleased : record.released = none) (earlier : List BufferEvent) :
    liveBuffers (.called record :: earlier) = liveBuffers earlier := by
  simp [liveBuffers, hcreated, hreleased]

namespace BufferWorld.Consistent

/-- The invariant, for a table that is known. -/
theorem of_live {w : BufferWorld} {live : List LiveBuffer} (hlive : liveBuffers w.history = live)
    (hblocks : driverBlocks w.history = live.map LiveBuffer.block)
    (hdisjoint : live.Pairwise fun b c => Disjoint b.block.bytes c.block.bytes)
    (hsound : ∀ b ∈ live, b.Sound)
    (hheader : ∀ b ∈ live, loadMetadata w.memory b.block.base = b.metadata)
    (hopen : ∀ b ∈ live, Attached w.history b → b.device ≠ 0 ∧ w.devices b.device = some ⟨b.block.fd⟩) :
    w.Consistent := by
  subst hlive
  exact ⟨hblocks, hdisjoint, hsound, hheader, hopen⟩

variable {w : BufferWorld} (h : w.Consistent)
include h

/-- The block of a live buffer is one of the driver's. -/
theorem block_mem {b : LiveBuffer} (hb : b ∈ liveBuffers w.history) : b.block ∈ driverBlocks w.history := by
  rw [h.blocks]
  exact List.mem_map_of_mem hb

/-- Live buffers with a common byte are the same. -/
theorem eq_of_common {b c : LiveBuffer} (hb : b ∈ liveBuffers w.history)
    (hc : c ∈ liveBuffers w.history) {a : ℕ}
    (hab : a ∈ b.block.bytes) (hac : a ∈ c.block.bytes) : b = c := by
  by_contra hne
  have hsymm : Std.Symm fun b c : LiveBuffer => Disjoint b.block.bytes c.block.bytes :=
    ⟨fun _ _ hd => hd.symm⟩
  exact Set.disjoint_left.mp (h.disjoint.forall hb hc hne) hab hac

/-- Live buffers at the same base are the same. -/
theorem eq_of_base {b c : LiveBuffer} (hb : b ∈ liveBuffers w.history) (hc : c ∈ liveBuffers w.history)
    (hbase : b.block.base = c.block.base) : b = c := by
  have hmem := (h.sound c hc).base_mem
  rw [← hbase] at hmem
  exact h.eq_of_common hb hc (h.sound b hb).base_mem hmem

/-- Live buffers keep their bytes in an ioctl that fails. -/
theorem eqOn_of_fails {ioctl : BufferDriver}
    (hcontract : DriverContract ioctl w.memory (driverBlocks w.history))
    {fd : Int32} {request : BufferIoctl} {answer : IoctlAnswer} (hanswer : ioctl fd request = answer)
    (hret : answer.ret < 0) :
    ∀ b ∈ liveBuffers w.history, Set.EqOn answer.memory w.memory b.block.bytes := by
  subst hanswer
  intro b hb
  refine hcontract.keeps fd request b.block (h.block_mem hb) ?_
  rw [IoctlRecord.applyTo_of_fails hret]
  exact h.block_mem hb

/-- A call that changes neither the table nor the bytes of the blocks. -/
theorem unchanged {record : CallRecord} {memory : Memory} (hcreated : record.created = none)
    (hreleased : record.released = none)
    (hblocks : record.issued.foldr IoctlRecord.applyTo (driverBlocks w.history) = driverBlocks w.history)
    (hmemory : ∀ b ∈ liveBuffers w.history, Set.EqOn memory w.memory b.block.bytes) :
    BufferWorld.Consistent { w with memory := memory, history := .called record :: w.history } := by
  refine of_live (liveBuffers_called hcreated hreleased w.history) (hblocks.trans h.blocks) h.disjoint
    h.sound ?_ ?_
  · intro b hb
    exact ((h.sound b hb).loadMetadata_of_eqOn (hmemory b hb)).trans (h.header b hb)
  · intro b hb hattached
    exact h.device_open b hb (hattached.resolve_left (by simp [hcreated]))

/-- A creation adds a buffer. -/
theorem create {ioctl : BufferDriver} (hcontract : DriverContract ioctl w.memory (driverBlocks w.history))
    {device size : UInt64} (buffer : Ptr UInt64) {d : DspDevice} {answer : IoctlAnswer}
    (hdevice : device ≠ 0) (hsize : size ≠ 0) (hlimit : size.toNat < 2 ^ 32 - 64)
    (hopen : w.devices device = some d)
    (hanswer : ioctl d.fd (.alloc ⟨(sizeofDspBuffer + size).toUInt32, 0, 0⟩) = answer)
    (hret : ¬ answer.ret < 0) :
    BufferWorld.Consistent { w with
      memory := storeMetadata answer.memory answer.addr ⟨device, sizeofDspBuffer + size⟩
      history := .called ⟨.createBuffer device size buffer, .ok (some (answer.addr + sizeofDspBuffer)),
        [⟨d.fd, .alloc ⟨(sizeofDspBuffer + size).toUInt32, 0, 0⟩, answer⟩]⟩ :: w.history } := by
  let new : LiveBuffer := ⟨device, answer.addr + sizeofDspBuffer, size,
    ⟨d.fd, answer.addr, (sizeofDspBuffer + size).toUInt32⟩⟩
  obtain ⟨hfits, hapart⟩ : answer.addr.toNat + new.block.size.toNat ≤ 2 ^ 64 ∧
      ∀ block ∈ driverBlocks w.history, Disjoint new.block.bytes block.bytes := by
    subst hanswer
    exact hcontract.fresh d.fd _ hret
  have hnew : new.Sound := .of_alloc hsize hlimit hfits
  have hlive (record : CallRecord) (hcreated : record.created = some new)
      (hreleased : record.released = none) :
      liveBuffers (.called record :: w.history) = new :: liveBuffers w.history := by
    simp [liveBuffers, hcreated, hreleased]
  have hkeeps : ∀ b ∈ liveBuffers w.history, Set.EqOn answer.memory w.memory b.block.bytes := by
    intro b hb
    subst hanswer
    refine hcontract.keeps _ _ b.block (h.block_mem hb) ?_
    rw [IoctlRecord.applyTo_alloc hret]
    exact List.mem_cons_of_mem _ (h.block_mem hb)
  refine of_live (hlive _ rfl rfl) ?_ ?_ ?_ ?_ ?_
  · exact (IoctlRecord.applyTo_alloc hret _ _ _).trans (congrArg _ h.blocks)
  · refine List.pairwise_cons.mpr ⟨fun b hb => hapart _ (h.block_mem hb), h.disjoint⟩
  · intro b hb
    rcases List.mem_cons.mp hb with rfl | hb
    · exact hnew
    · exact h.sound b hb
  · intro b hb
    rcases List.mem_cons.mp hb with rfl | hb
    · exact loadMetadata_storeMetadata _ hnew.header_fits _
    · refine ((h.sound b hb).loadMetadata_of_eqOn fun a ha => ?_).trans (h.header b hb)
      have hout : a ∉ span answer.addr.toNat 16 := fun hin =>
        Set.disjoint_left.mp (hapart _ (h.block_mem hb)) (hnew.header_subset hin) ha
      exact (storeMetadata_eqOn _ hnew.header_fits _ hout).trans (hkeeps b hb ha)
  · intro b hb hattached
    rcases hattached with hcreated | hattached
    · obtain rfl : new = b := Option.some.inj hcreated
      exact ⟨hdevice, hopen⟩
    · rcases List.mem_cons.mp hb with rfl | hb
      · exact ⟨hdevice, hopen⟩
      · exact h.device_open b hb hattached

/-- A successful release removes the buffer. -/
theorem release {ioctl : BufferDriver} (hcontract : DriverContract ioctl w.memory (driverBlocks w.history))
    {b : LiveBuffer} {answer : IoctlAnswer} (hb : b ∈ liveBuffers w.history)
    (hanswer : ioctl b.block.fd (.free ⟨b.block.size, 0, b.block.base⟩) = answer)
    (hret : ¬ answer.ret < 0) :
    BufferWorld.Consistent { w with
      memory := answer.memory
      history := .called ⟨.releaseBuffer b.device b.pointer, .ok none,
        [⟨b.block.fd, .free ⟨b.block.size, 0, b.block.base⟩, answer⟩]⟩ :: w.history } := by
  let rest := (liveBuffers w.history).filter fun c => c.block.base ≠ b.block.base
  have hpointer : ∀ c ∈ liveBuffers w.history, (some b.pointer ≠ some c.pointer ↔
      c.block.base ≠ b.block.base) := by
    intro c hc
    refine not_congr ⟨fun heq => ?_, fun heq => ?_⟩
    · have hptr := Option.some.inj heq
      rw [(h.sound b hb).pointer_eq, (h.sound c hc).pointer_eq] at hptr
      exact ((UInt64.add_left_inj _).mp hptr).symm
    · rw [h.eq_of_base hc hb heq]
  have hlive (record : CallRecord) (hcreated : record.created = none)
      (hreleased : record.released = some b.pointer) :
      liveBuffers (.called record :: w.history) = rest := by
    simp only [liveBuffers, hcreated, hreleased, Option.toList_none, List.nil_append]
    exact List.filter_congr fun c hc => decide_eq_decide.mpr (hpointer c hc)
  have hmem : ∀ c ∈ rest, c ∈ liveBuffers w.history ∧ c.block.base ≠ b.block.base := by
    intro c hc
    simpa [rest] using hc
  refine of_live (hlive _ rfl rfl) ?_ ?_ ?_ ?_ ?_
  · refine (IoctlRecord.applyTo_free hret _ _ _).trans ?_
    rw [List.foldr_nil, h.blocks, List.filter_map]
    rfl
  · exact h.disjoint.filter _
  · exact fun c hc => h.sound c (hmem c hc).1
  · intro c hc
    obtain ⟨hc, hbase⟩ := hmem c hc
    refine ((h.sound c hc).loadMetadata_of_eqOn ?_).trans (h.header c hc)
    subst hanswer
    refine hcontract.keeps _ _ c.block (h.block_mem hc) ?_
    rw [IoctlRecord.applyTo_free hret]
    exact List.mem_filter.mpr ⟨h.block_mem hc, decide_eq_true hbase⟩
  · intro c hc hattached
    exact h.device_open c (hmem c hc).1 (hattached.resolve_left (by simp [CallRecord.created]))

/-- User code leaves the headers alone. -/
theorem userWrites {memory : Memory} (hwrites : w.UserWrites memory) :
    BufferWorld.Consistent { w with memory := memory } := by
  refine ⟨h.blocks, h.disjoint, h.sound, fun b hb => ?_, h.device_open⟩
  refine (loadMetadata_congr (h.sound b hb).header_fits fun a ha => ?_).trans (h.header b hb)
  by_contra hne
  have hin := (h.sound b hb).header_subset ha
  obtain ⟨c, hc, hac⟩ := hwrites a hne b.block (h.block_mem hb) hin
  obtain rfl := h.eq_of_common hb hc hin ((h.sound c hc).userBytes_subset hac)
  exact Set.disjoint_left.mp (h.sound b hb).header_disjoint ha hac

/-- A device that is opened is none of those that live buffers belong to. -/
theorem openDevice {device : UInt64} (d : DspDevice) (hclosed : w.devices device = none) :
    BufferWorld.Consistent { w with devices := Function.update w.devices device (some d) } := by
  refine ⟨h.blocks, h.disjoint, h.sound, h.header, fun b hb hattached => ?_⟩
  obtain ⟨hdevice, hopen⟩ := h.device_open b hb hattached
  have hne : b.device ≠ device := by
    rintro rfl
    cases hclosed.symm.trans hopen
  exact ⟨hdevice, (Function.update_of_ne hne _ _).trans hopen⟩

/-- A buffer whose device is closed is no longer attached. -/
theorem closeDevice (device : UInt64) :
    BufferWorld.Consistent { w with
      devices := Function.update w.devices device none
      history := .closed device :: w.history } := by
  refine ⟨h.blocks, h.disjoint, h.sound, h.header, fun b hb hattached => ?_⟩
  obtain ⟨hne, hattached⟩ := hattached
  obtain ⟨hdevice, hopen⟩ := h.device_open b hb hattached
  exact ⟨hdevice, (Function.update_of_ne hne.symm _ _).trans hopen⟩

/-- A call keeps the invariant. -/
theorem afterCall {ioctl : BufferDriver} {request : BufferRequest} (hpermits : w.Permits request)
    (hcontract : DriverContract ioctl w.memory (driverBlocks w.history)) :
    (w.afterCall ioctl request).Consistent := by
  have heffect := h.callEffect ioctl hpermits
  unfold BufferWorld.afterCall
  generalize (w.call ioctl request).1 = record, (w.call ioctl request).2 = memory at heffect
  cases heffect with
  | rejected request => exact h.unchanged (by simp) (by simp) rfl fun b _ => Set.eqOn_refl _ _
  | createFails buffer hanswer hret =>
    exact h.unchanged (by simp) (by simp) (IoctlRecord.applyTo_of_fails hret _ _ _)
      (h.eqOn_of_fails hcontract hanswer hret)
  | createSucceeds buffer hdevice hsize hlimit hopen hanswer hret =>
    exact h.create hcontract buffer hdevice hsize hlimit hopen hanswer hret
  | @released b answer hb hanswer =>
    by_cases hret : answer.ret < 0
    · rw [show failIfNegative .unmapBufferFailed answer.ret = _ from if_pos hret]
      exact h.unchanged (by simp [Except.map]) (by simp [Except.map])
        (IoctlRecord.applyTo_of_fails hret _ _ _)
        (h.eqOn_of_fails hcontract hanswer hret)
    · rw [show failIfNegative .unmapBufferFailed answer.ret = _ from if_neg hret]
      exact h.release hcontract hb hanswer hret
  | @synced b answer hb accessTime direction hanswer =>
    refine h.unchanged rfl rfl (IoctlRecord.applyTo_dmaSync _ _ _ _) fun c _ => ?_
    rw [← hanswer, hcontract.dmaSync]
    exact Set.eqOn_refl _ _

end BufferWorld.Consistent

/-- Every step keeps the invariant. -/
theorem BufferWorld.Step.consistent {w w' : BufferWorld} (hstep : w.Step w') (h : w.Consistent) :
    w'.Consistent := by
  cases hstep with
  | call hpermits hcontract => exact h.afterCall hpermits hcontract
  | userWrites hwrites => exact h.userWrites hwrites
  | openDevice d hclosed => exact h.openDevice d hclosed
  | closeDevice device => exact h.closeDevice device

/-- The invariant holds throughout every run. -/
theorem BufferWorld.Reachable.consistent {w : BufferWorld} (h : w.Reachable) : w.Consistent := by
  obtain ⟨devices, memory, hsteps⟩ := h
  induction hsteps with
  | refl =>
    exact ⟨rfl, List.Pairwise.nil, by simp [liveBuffers], by simp [liveBuffers], by simp [liveBuffers]⟩
  | tail _ hstep ih => exact hstep.consistent ih

end HailoDsp
