import HailoDsp.Foundations.ByteMemory
import HailoDsp.Machine

/-!
# Buffers of device memory

`buffer.cpp` and the buffer functions of `hailodsp_driver.cpp`. A buffer is a block that the
driver hands out, with 64 bytes in front that hold the device and the size of the block; the
caller gets a pointer to what follows them. These functions work on the bytes of memory, and a
pointer is an address here, NULL being zero. Every ioctl is put on record together with the
answer of the driver, which includes the contents of memory after it.
-/

namespace HailoDsp

open ByteMemory EarlyExit

/-- `dsp_sync_direction_t`; `other n` is a value `n` without an enumerator. -/
inductive DspSyncDirection
  | read
  | write
  | readWrite
  | other (n : UInt32)
  deriving DecidableEq, Repr

/-- The value of the enumerator. -/
def DspSyncDirection.value : DspSyncDirection → UInt32
  | read => 1
  | write => 2
  | readWrite => 3
  | other n => n

/-- `enum ioctl_sync_access_time` -/
inductive IoctlSyncAccessTime
  | syncStart
  | syncEnd
  deriving DecidableEq, Repr

/-- The value of the enumerator. -/
def IoctlSyncAccessTime.value : IoctlSyncAccessTime → UInt32
  | syncStart => 0
  | syncEnd => 1

/-- `struct xrp_ioctl_alloc` -/
structure XrpIoctlAlloc where
  size : UInt32
  align : UInt32
  addr : UInt64
  deriving DecidableEq, Repr

/-- `struct xrp_ioctl_sync_buffer` -/
structure XrpIoctlSyncBuffer where
  direction : UInt32
  accessTime : UInt32
  size : UInt32
  addr : UInt64
  deriving DecidableEq, Repr

/-- `XRP_IOCTL_ALLOC`, `XRP_IOCTL_FREE` and `XRP_IOCTL_DMA_SYNC` with their arguments. -/
inductive BufferIoctl
  | alloc (arg : XrpIoctlAlloc)
  | free (arg : XrpIoctlAlloc)
  | dmaSync (arg : XrpIoctlSyncBuffer)
  deriving DecidableEq, Repr

/-- What an ioctl returns, the member `addr` of its argument and the memory afterwards. -/
structure IoctlAnswer where
  ret : Int32
  addr : UInt64
  memory : Memory

/-- The driver, as it answers during one call. -/
abbrev BufferDriver := Int32 → BufferIoctl → IoctlAnswer

/-- An ioctl that was issued. -/
structure IoctlRecord where
  fd : Int32
  request : BufferIoctl
  answer : IoctlAnswer

/-- The memory and the ioctls issued so far, the last one first. -/
structure BufferState where
  memory : Memory
  issued : List IoctlRecord

/-- A function of the library that works on memory and issues ioctls. -/
abbrev BufferCall (α : Type) := ExceptT Stop (StateM BufferState) α

/-- What a call ends with, from a given state. -/
abbrev BufferCall.exec {α : Type} (call : BufferCall α) (s : BufferState) : Call α × BufferState :=
  call.run.run s

/-- `ioctl(fd, request, &arg)` -/
def issueIoctl (ioctl : BufferDriver) (fd : Int32) (request : BufferIoctl) : BufferCall IoctlAnswer := do
  let answer := ioctl fd request
  modify fun s => ⟨answer.memory, ⟨fd, request, answer⟩ :: s.issued⟩
  return answer

/-- `if (ret < 0) { return status; }` -/
abbrev failIfNegative (status : DspStatus) (ret : Int32) : Call Unit := exitIf (.status status) (ret < 0)

/-- `driver_allocate_buffer` -/
def driverAllocateBuffer (ioctl : BufferDriver) (fd : Int32) (size : UInt64) : BufferCall UInt64 := do
  let answer ← issueIoctl ioctl fd (.alloc ⟨size.toUInt32, 0, 0⟩)
  failIfNegative .createBufferFailed answer.ret
  return answer.addr

/-- `driver_release_buffer` -/
def driverReleaseBuffer (ioctl : BufferDriver) (fd : Int32) (buffer size : UInt64) : BufferCall Unit := do
  let answer ← issueIoctl ioctl fd (.free ⟨size.toUInt32, 0, buffer⟩)
  failIfNegative .unmapBufferFailed answer.ret

/-- `driver_sync_buffer` -/
def driverSyncBuffer (ioctl : BufferDriver) (fd : Int32) (buffer size : UInt64)
    (direction : DspSyncDirection) (accessTime : IoctlSyncAccessTime) : BufferCall Unit := do
  rejectIf (buffer = 0)
  let answer ← issueIoctl ioctl fd (.dmaSync ⟨direction.value, accessTime.value, size.toUInt32, buffer⟩)
  failIfNegative .syncBufferFailed answer.ret

/-- `driver_sync_buffer_start` -/
def driverSyncBufferStart (ioctl : BufferDriver) (fd : Int32) (buffer size : UInt64)
    (direction : DspSyncDirection) : BufferCall Unit :=
  driverSyncBuffer ioctl fd buffer size direction .syncStart

/-- `driver_sync_buffer_end` -/
def driverSyncBufferEnd (ioctl : BufferDriver) (fd : Int32) (buffer size : UInt64)
    (direction : DspSyncDirection) : BufferCall Unit :=
  driverSyncBuffer ioctl fd buffer size direction .syncEnd

/-- `buffer_metadata_t` -/
structure BufferMetadata where
  device : UInt64
  allocatedSize : UInt64
  deriving DecidableEq, Repr

/-- `sizeof(dsp_buffer_t)`, also the offset of its member `data`. -/
def sizeofDspBuffer : UInt64 := 64

/-- The member `metadata` of a `dsp_buffer_t`, whose members are at the offsets 0 and 8. -/
def loadMetadata (memory : Memory) (dspBuffer : UInt64) : BufferMetadata where
  device := UInt64.ofNat (loadWord 8 memory dspBuffer.toNat)
  allocatedSize := UInt64.ofNat (loadWord 8 memory (dspBuffer + 8).toNat)

/-- Assign to both members of `metadata`. -/
def storeMetadata (memory : Memory) (dspBuffer : UInt64) (metadata : BufferMetadata) : Memory :=
  storeWord 8 (storeWord 8 memory dspBuffer.toNat metadata.device.toNat) (dspBuffer + 8).toNat
    metadata.allocatedSize.toNat

/-- The devices that are open, by their addresses. -/
abbrev OpenDevices := UInt64 → Option DspDevice

/-- `device->fd` -/
def deviceFd (devices : OpenDevices) (device : UInt64) : Call Int32 := do
  let device ← readThrough (.fault .danglingPointer) (devices device)
  return device.fd

/-- `dsp_buffer_from_ptr` -/
def dspBufferFromPtr (buffer : UInt64) : UInt64 := buffer - sizeofDspBuffer

/-- `dsp_create_buffer`; the result is what it writes to `*buffer`. -/
def dspCreateBuffer (ioctl : BufferDriver) (devices : OpenDevices) (device size : UInt64)
    (buffer : Ptr UInt64) : BufferCall UInt64 := do
  rejectIf (device = 0 ∨ size = 0 ∨ buffer = none)
  let allocatedSize := sizeofDspBuffer + size
  let fd ← deviceFd devices device
  let dspBuffer ← driverAllocateBuffer ioctl fd allocatedSize
  modify fun s => { s with memory := storeMetadata s.memory dspBuffer ⟨device, allocatedSize⟩ }
  return dspBuffer + sizeofDspBuffer

/-- `dsp_release_buffer` -/
def dspReleaseBuffer (ioctl : BufferDriver) (devices : OpenDevices) (device buffer : UInt64) :
    BufferCall Unit := do
  rejectIf (device = 0 ∨ buffer = 0)
  let dspBuffer := dspBufferFromPtr buffer
  let metadata := loadMetadata (← get).memory dspBuffer
  let fd ← deviceFd devices device
  driverReleaseBuffer ioctl fd dspBuffer metadata.allocatedSize

/-- What `dsp_buffer_sync_start` and `dsp_buffer_sync_end` do, with the driver function they call. -/
def dspBufferSync (driverSync : Int32 → UInt64 → UInt64 → DspSyncDirection → BufferCall Unit)
    (devices : OpenDevices) (buffer : UInt64) (direction : DspSyncDirection) : BufferCall Unit := do
  rejectIf (buffer = 0)
  let metadata := loadMetadata (← get).memory (dspBufferFromPtr buffer)
  let fd ← deviceFd devices metadata.device
  driverSync fd buffer metadata.allocatedSize direction

/-- `dsp_buffer_sync_start` -/
def dspBufferSyncStart (ioctl : BufferDriver) (devices : OpenDevices) (buffer : UInt64)
    (direction : DspSyncDirection) : BufferCall Unit :=
  dspBufferSync (driverSyncBufferStart ioctl) devices buffer direction

/-- `dsp_buffer_sync_end` -/
def dspBufferSyncEnd (ioctl : BufferDriver) (devices : OpenDevices) (buffer : UInt64)
    (direction : DspSyncDirection) : BufferCall Unit :=
  dspBufferSync (driverSyncBufferEnd ioctl) devices buffer direction

/-- The second member of a header follows the first. -/
theorem toNat_add_eight {dspBuffer : UInt64} (h : dspBuffer.toNat + 16 ≤ 2 ^ 64) :
    (dspBuffer + 8).toNat = dspBuffer.toNat + 8 := toNat_add_of_lt (by simpa using by omega)

/-- A header is read back as it was written. -/
theorem loadMetadata_storeMetadata (memory : Memory) {dspBuffer : UInt64}
    (h : dspBuffer.toNat + 16 ≤ 2 ^ 64) (metadata : BufferMetadata) :
    loadMetadata (storeMetadata memory dspBuffer metadata) dspBuffer =
    metadata := by
  have hdisjoint : Disjoint (span dspBuffer.toNat 8) (span (dspBuffer + 8).toNat 8) :=
    disjoint_span (toNat_add_eight h).ge
  rw [loadMetadata, storeMetadata, loadWord_storeWord metadata.allocatedSize.toNat_lt,
    loadWord_storeWord_of_disjoint hdisjoint, loadWord_storeWord metadata.device.toNat_lt,
    UInt64.ofNat_toNat, UInt64.ofNat_toNat]

/-- Writing a header changes its sixteen bytes only. -/
theorem storeMetadata_eqOn (memory : Memory) {dspBuffer : UInt64} (h : dspBuffer.toNat + 16 ≤ 2 ^ 64)
    (metadata : BufferMetadata) :
    Set.EqOn (storeMetadata memory dspBuffer metadata) memory (Set.compl (span dspBuffer.toNat 16)) := by
  intro a ha
  rw [storeMetadata, storeWord_eqOn, storeWord_eqOn]
  · exact fun hmem => ha (span_subset le_rfl (by omega) hmem)
  · rw [toNat_add_eight h]
    exact fun hmem => ha (span_subset (by omega) (by omega) hmem)

/-- A header is read alike from memories that agree on its sixteen bytes. -/
theorem loadMetadata_congr {memory memory' : Memory} {dspBuffer : UInt64}
    (h : dspBuffer.toNat + 16 ≤ 2 ^ 64) (heq : Set.EqOn memory memory' (span dspBuffer.toNat 16)) :
    loadMetadata memory dspBuffer = loadMetadata memory' dspBuffer := by
  have hfirst : span dspBuffer.toNat 8 ⊆ span dspBuffer.toNat 16 := span_subset le_rfl (by omega)
  have hsecond : span (dspBuffer + 8).toNat 8 ⊆ span dspBuffer.toNat 16 := by
    rw [toNat_add_eight h]
    exact span_subset (by omega) (by omega)
  rw [loadMetadata, loadMetadata, loadWord_congr (heq.mono hfirst), loadWord_congr (heq.mono hsecond)]

/-- A finished first part hands over its value and its state. -/
theorem exec_bind_of_ok {α β : Type} {call : BufferCall α} {s s' : BufferState} {a : α}
    (h : call.exec s = (.ok a, s')) (rest : α → BufferCall β) :
    (call >>= rest).exec s = (rest a).exec s' := by
  change (call.run >>= ExceptT.bindCont rest).run s = _
  rw [StateT.run_bind, show call.run.run s = _ from h]
  rfl

/-- A stopped first part stops the whole. -/
theorem exec_bind_of_error {α β : Type} {call : BufferCall α} {s s' : BufferState} {e : Stop}
    (h : call.exec s = (.error e, s')) (rest : α → BufferCall β) :
    (call >>= rest).exec s = (.error e, s') := by
  change (call.run >>= ExceptT.bindCont rest).run s = _
  rw [StateT.run_bind, show call.run.run s = _ from h]
  rfl

/-- A check does not change the state. -/
theorem exec_liftM {α : Type} {call result : Call α} (h : call = result) (s : BufferState) :
    (liftM call : BufferCall α).exec s = (result, s) := by
  rw [← h]
  rfl

section Calls

variable (ioctl : BufferDriver) (fd : Int32) (s : BufferState)

/-- An ioctl is put on record. -/
theorem issueIoctl_exec (request : BufferIoctl) :
    (issueIoctl ioctl fd request).exec s =
      (.ok (ioctl fd request),
        ⟨(ioctl fd request).memory, ⟨fd, request, ioctl fd request⟩ :: s.issued⟩) := rfl

/-- A failing `XRP_IOCTL_ALLOC`. -/
theorem driverAllocateBuffer_fails {size : UInt64} {answer : IoctlAnswer}
    (hanswer : ioctl fd (.alloc ⟨size.toUInt32, 0, 0⟩) = answer) (hret : answer.ret < 0) :
    (driverAllocateBuffer ioctl fd size).exec s = (.error (.status .createBufferFailed),
      ⟨answer.memory, ⟨fd, .alloc ⟨size.toUInt32, 0, 0⟩, answer⟩ :: s.issued⟩) := by
  subst hanswer
  rw [driverAllocateBuffer, exec_bind_of_ok (issueIoctl_exec ioctl fd s _)]
  exact exec_bind_of_error (exec_liftM (if_pos hret) _) _

/-- A successful `XRP_IOCTL_ALLOC`. -/
theorem driverAllocateBuffer_succeeds {size : UInt64} {answer : IoctlAnswer}
    (hanswer : ioctl fd (.alloc ⟨size.toUInt32, 0, 0⟩) = answer) (hret : ¬ answer.ret < 0) :
    (driverAllocateBuffer ioctl fd size).exec s = (.ok answer.addr,
      ⟨answer.memory, ⟨fd, .alloc ⟨size.toUInt32, 0, 0⟩, answer⟩ :: s.issued⟩) := by
  subst hanswer
  rw [driverAllocateBuffer, exec_bind_of_ok (issueIoctl_exec ioctl fd s _)]
  exact exec_bind_of_ok (exec_liftM (exitIf_of_not hret) _) _

/-- `XRP_IOCTL_FREE` and what its answer means. -/
theorem driverReleaseBuffer_exec {buffer size : UInt64} {answer : IoctlAnswer}
    (hanswer : ioctl fd (.free ⟨size.toUInt32, 0, buffer⟩) = answer) :
    (driverReleaseBuffer ioctl fd buffer size).exec s = (failIfNegative .unmapBufferFailed answer.ret,
      ⟨answer.memory, ⟨fd, .free ⟨size.toUInt32, 0, buffer⟩, answer⟩ :: s.issued⟩) := by
  subst hanswer
  rw [driverReleaseBuffer, exec_bind_of_ok (issueIoctl_exec ioctl fd s _)]
  exact exec_liftM rfl _

/-- `XRP_IOCTL_DMA_SYNC` and what its answer means. -/
theorem driverSyncBuffer_exec {buffer size : UInt64} {direction : DspSyncDirection}
    {accessTime : IoctlSyncAccessTime} {answer : IoctlAnswer} (hbuffer : buffer ≠ 0)
    (hanswer : ioctl fd (.dmaSync ⟨direction.value, accessTime.value, size.toUInt32, buffer⟩) = answer) :
    (driverSyncBuffer ioctl fd buffer size direction accessTime).exec s =
      (failIfNegative .syncBufferFailed answer.ret, ⟨answer.memory,
        ⟨fd, .dmaSync ⟨direction.value, accessTime.value, size.toUInt32, buffer⟩, answer⟩ ::
          s.issued⟩) := by
  subst hanswer
  rw [driverSyncBuffer, exec_bind_of_ok (exec_liftM (rejectIf_of_not hbuffer) s),
    exec_bind_of_ok (issueIoctl_exec ioctl fd s _)]
  exact exec_liftM rfl _

/-- The descriptor of an open device. -/
theorem deviceFd_of_open {devices : OpenDevices} {device : UInt64} {d : DspDevice}
    (h : devices device = some d) :
    deviceFd devices device = .ok d.fd := by
  rw [deviceFd, h]
  rfl

end Calls

section PublicCalls

variable (ioctl : BufferDriver) {devices : OpenDevices} {d : DspDevice} (s : BufferState)

/-- A creation with a NULL argument or without a size issues no ioctl. -/
theorem dspCreateBuffer_rejected {device size : UInt64} {buffer : Ptr UInt64}
    (h : device = 0 ∨ size = 0 ∨ buffer = none) :
    (dspCreateBuffer ioctl devices device size buffer).exec s = (.error invalidArgument, s) :=
  exec_bind_of_error (exec_liftM (if_pos h) s) _

/-- A creation whose `XRP_IOCTL_ALLOC` fails. -/
theorem dspCreateBuffer_fails {device size : UInt64} {buffer : Ptr UInt64} {answer : IoctlAnswer}
    (h : ¬ (device = 0 ∨ size = 0 ∨ buffer = none)) (hopen : devices device = some d)
    (hanswer : ioctl d.fd (.alloc ⟨(sizeofDspBuffer + size).toUInt32, 0, 0⟩) = answer)
    (hret : answer.ret < 0) :
    (dspCreateBuffer ioctl devices device size buffer).exec s = (.error (.status .createBufferFailed),
      ⟨answer.memory, ⟨d.fd, .alloc ⟨(sizeofDspBuffer + size).toUInt32, 0, 0⟩, answer⟩ :: s.issued⟩) := by
  rw [dspCreateBuffer, exec_bind_of_ok (exec_liftM (rejectIf_of_not h) s)]
  simp only
  rw [exec_bind_of_ok (exec_liftM (deviceFd_of_open hopen) s)]
  exact exec_bind_of_error (driverAllocateBuffer_fails ioctl d.fd s hanswer hret) _

/-- A creation whose `XRP_IOCTL_ALLOC` succeeds fills in the header of the block. -/
theorem dspCreateBuffer_succeeds {device size : UInt64} {buffer : Ptr UInt64} {answer : IoctlAnswer}
    (h : ¬ (device = 0 ∨ size = 0 ∨ buffer = none)) (hopen : devices device = some d)
    (hanswer : ioctl d.fd (.alloc ⟨(sizeofDspBuffer + size).toUInt32, 0, 0⟩) = answer)
    (hret : ¬ answer.ret < 0) :
    (dspCreateBuffer ioctl devices device size buffer).exec s = (.ok (answer.addr + sizeofDspBuffer),
      ⟨storeMetadata answer.memory answer.addr ⟨device, sizeofDspBuffer + size⟩,
        ⟨d.fd, .alloc ⟨(sizeofDspBuffer + size).toUInt32, 0, 0⟩, answer⟩ :: s.issued⟩) := by
  rw [dspCreateBuffer, exec_bind_of_ok (exec_liftM (rejectIf_of_not h) s)]
  simp only
  rw [exec_bind_of_ok (exec_liftM (deviceFd_of_open hopen) s),
    exec_bind_of_ok (driverAllocateBuffer_succeeds ioctl d.fd s hanswer hret)]
  rfl

/-- A release with a NULL argument issues no ioctl. -/
theorem dspReleaseBuffer_rejected {device buffer : UInt64} (h : device = 0 ∨ buffer = 0) :
    (dspReleaseBuffer ioctl devices device buffer).exec s = (.error invalidArgument, s) :=
  exec_bind_of_error (exec_liftM (if_pos h) s) _

/-- A release issues one `XRP_IOCTL_FREE` for the block in front of the buffer, of the size that
its header says. -/
theorem dspReleaseBuffer_exec {device buffer : UInt64} {metadata : BufferMetadata} {answer : IoctlAnswer}
    (h : ¬ (device = 0 ∨ buffer = 0)) (hopen : devices device = some d)
    (hmetadata : loadMetadata s.memory (dspBufferFromPtr buffer) = metadata)
    (hanswer : ioctl d.fd (.free ⟨metadata.allocatedSize.toUInt32, 0, dspBufferFromPtr buffer⟩) = answer) :
    (dspReleaseBuffer ioctl devices device buffer).exec s = (failIfNegative .unmapBufferFailed answer.ret,
      ⟨answer.memory, ⟨d.fd, .free ⟨metadata.allocatedSize.toUInt32, 0, dspBufferFromPtr buffer⟩, answer⟩ ::
        s.issued⟩) := by
  subst hmetadata
  rw [dspReleaseBuffer, exec_bind_of_ok (exec_liftM (rejectIf_of_not h) s)]
  simp only
  rw [exec_bind_of_ok (show (get : BufferCall BufferState).exec s = (.ok s, s) from rfl),
    exec_bind_of_ok (exec_liftM (deviceFd_of_open hopen) s)]
  exact driverReleaseBuffer_exec ioctl d.fd s hanswer

/-- A synchronisation of NULL issues no ioctl. -/
theorem dspBufferSync_rejected {direction : DspSyncDirection}
    (driverSync : Int32 → UInt64 → UInt64 → DspSyncDirection → BufferCall Unit) :
    (dspBufferSync driverSync devices 0 direction).exec s = (.error invalidArgument, s) :=
  exec_bind_of_error (exec_liftM (if_pos rfl) s) _

/-- A synchronisation issues one `XRP_IOCTL_DMA_SYNC` from the buffer on, with the size in its header. -/
theorem dspBufferSync_exec {buffer : UInt64} (accessTime : IoctlSyncAccessTime)
    (direction : DspSyncDirection) {metadata : BufferMetadata} {answer : IoctlAnswer}
    (hbuffer : buffer ≠ 0) (hmetadata : loadMetadata s.memory (dspBufferFromPtr buffer) = metadata)
    (hopen : devices metadata.device = some d)
    (hanswer : ioctl d.fd
      (.dmaSync ⟨direction.value, accessTime.value, metadata.allocatedSize.toUInt32, buffer⟩) = answer) :
    (dspBufferSync (fun fd buffer size direction =>
        driverSyncBuffer ioctl fd buffer size direction accessTime)
        devices buffer direction).exec s = (failIfNegative .syncBufferFailed answer.ret, ⟨answer.memory,
      ⟨d.fd, .dmaSync ⟨direction.value, accessTime.value, metadata.allocatedSize.toUInt32, buffer⟩,
        answer⟩ ::
        s.issued⟩) := by
  subst hmetadata
  rw [dspBufferSync, exec_bind_of_ok (exec_liftM (rejectIf_of_not hbuffer) s),
    exec_bind_of_ok (show (get : BufferCall BufferState).exec s = (.ok s, s) from rfl)]
  simp only
  rw [exec_bind_of_ok (exec_liftM (deviceFd_of_open hopen) s)]
  exact driverSyncBuffer_exec ioctl d.fd s hbuffer hanswer

end PublicCalls

end HailoDsp
