import HailoDsp.BufferInvariant
import HailoDsp.Imaging

/-!
# Devices

`device.cpp`, `utilization.cpp` and the functions of `hailodsp_driver.cpp` that open and close the
device. What is done with descriptors is put on record, whichever function of the library does it:
the log of a process is what the kernel sees of it.
-/

namespace HailoDsp

open EarlyExit

/-- What is done with a descriptor. -/
inductive DescriptorEvent
  | opened (fd : Int32)
  | closed (fd : Int32)
  | ioctl (fd : Int32)
  deriving DecidableEq, Repr

/-- The devices in the memory of a process, and what it has done with descriptors, the last event first. -/
structure DeviceState where
  devices : OpenDevices
  log : List DescriptorEvent

/-- One event more. -/
def DeviceState.record (s : DeviceState) (event : DescriptorEvent) : DeviceState :=
  { s with log := event :: s.log }

/-- Write the device at an address, or free it. -/
def DeviceState.write (s : DeviceState) (device : UInt64) (content : Option DspDevice) : DeviceState :=
  { s with devices := Function.update s.devices device content }

/-- What the operating system answers while a device is created: the address of the new object, with
what is there, and what `open` returns. -/
structure DeviceAnswers where
  allocated : Option (UInt64 × DspDevice)
  opened : Int32

/-- `driver_open_device`, with the descriptor that it assigns. -/
def driverOpenDevice (opened : Int32) (s : DeviceState) : Call Int32 × DeviceState :=
  if opened = -1 then (.error (.status .openDeviceFailed), s) else (.ok opened, s.record (.opened opened))

/-- `driver_close_device` -/
def driverCloseDevice (fd : Int32) (s : DeviceState) : Call Unit × DeviceState :=
  (.ok (), if fd ≠ -1 then s.record (.closed fd) else s)

/-- `dsp_create_device`; the result is what it writes to `*device`. -/
def dspCreateDevice (answers : DeviceAnswers) (device : Ptr Unit) (s : DeviceState) :
    Call UInt64 × DeviceState :=
  match device, answers.allocated with
  | none, _ => (.error invalidArgument, s)
  | some _, none => (.error (.status .outOfHostMemory), s)
  | some _, some (localDevice, content) =>
    match driverOpenDevice answers.opened (s.write localDevice (some content)) with
    | (.error stop, s) => (.error stop, s.write localDevice none)
    | (.ok fd, s) => (.ok localDevice, s.write localDevice (some ⟨fd⟩))

/-- `dsp_release_device` -/
def dspReleaseDevice (device : UInt64) (s : DeviceState) : Call Unit × DeviceState :=
  if device = 0 then (.error invalidArgument, s)
  else match deviceFd s.devices device with
    | .error stop => (.error stop, s)
    | .ok fd =>
      match driverCloseDevice fd s with
      | (.error stop, s) => (.error stop, s)
      | (.ok (), s) => (.ok (), s.write device none)

/-- `dsp_get_utilization`, where `ioctl` returns the given value and the DSP writes the given response. -/
def dspGetUtilization (ret : Int32) (response : UInt32) (device : UInt64) (s : DeviceState) :
    Call UInt32 × DeviceState :=
  if device = 0 then (.error invalidArgument, s)
  else match deviceFd s.devices device with
    | .error stop => (.error stop, s)
    | .ok fd => (if ret < 0 then .error (.status .runCommandFailed) else .ok response, s.record (.ioctl fd))

/-- Making and freeing an object where there was none leaves the devices as they were. -/
theorem DeviceState.write_none {s : DeviceState} {device : UInt64} (h : s.devices device = none)
    (content : Option DspDevice) : (s.write device content).write device none = s := by
  have hdevices : Function.update s.devices device none = s.devices := by rw [← h, Function.update_eq_self]
  simp [DeviceState.write, hdevices]

/-- A handle that the library may be called with: NULL, or a device that is open. -/
def OpenDevices.Admits (devices : OpenDevices) (device : UInt64) : Prop :=
  device = 0 ∨ devices device ≠ none

/-- `dsp_create_device` either fails and leaves nothing behind, or makes a device that is open. -/
theorem dspCreateDevice_cases (answers : DeviceAnswers) (device : Ptr Unit) (s : DeviceState)
    (hnew : ∀ a content, answers.allocated = some (a, content) → s.devices a = none) :
    (∃ status, dspCreateDevice answers device s = (.error (.status status), s)) ∨
      ∃ a, s.devices a = none ∧ answers.opened ≠ -1 ∧
        dspCreateDevice answers device s =
          (.ok a, (s.write a (some ⟨answers.opened⟩)).record (.opened answers.opened)) := by
  obtain ⟨allocated, opened⟩ := answers
  cases device with
  | none => exact .inl ⟨_, rfl⟩
  | some _ =>
    cases allocated with
    | none => exact .inl ⟨_, rfl⟩
    | some object =>
      obtain ⟨a, content⟩ := object
      have hnone := hnew a content rfl
      by_cases hopened : opened = -1
      · refine .inl ⟨.openDeviceFailed, ?_⟩
        simp only [dspCreateDevice, driverOpenDevice, if_pos hopened]
        rw [DeviceState.write_none hnone]
      · refine .inr ⟨a, hnone, hopened, ?_⟩
        simp only [dspCreateDevice, driverOpenDevice, if_neg hopened]
        simp [DeviceState.write, DeviceState.record]

/-- `dsp_release_device` turns NULL down, and closes the descriptor of an open device and frees it. -/
theorem dspReleaseDevice_cases {device : UInt64} {s : DeviceState} (h : s.devices.Admits device) :
    (∃ status, dspReleaseDevice device s = (.error (.status status), s)) ∨
      ∃ fd, s.devices device = some ⟨fd⟩ ∧
        dspReleaseDevice device s =
          (.ok (), ((if fd ≠ -1 then s.record (.closed fd) else s).write device none)) := by
  by_cases hdevice : device = 0
  · exact .inl ⟨.invalidArgument, if_pos hdevice⟩
  · obtain ⟨d, hd⟩ := Option.ne_none_iff_exists'.mp (h.resolve_left hdevice)
    refine .inr ⟨d.fd, hd, ?_⟩
    rw [dspReleaseDevice, if_neg hdevice, deviceFd_of_open hd]
    rfl

/-- `dsp_get_utilization` turns NULL down, and issues an ioctl on the descriptor of an open device. -/
theorem dspGetUtilization_cases {ret : Int32} {response : UInt32} {device : UInt64} {s : DeviceState}
    (h : s.devices.Admits device) :
    (∃ status, dspGetUtilization ret response device s = (.error (.status status), s)) ∨
      ∃ fd, s.devices device = some ⟨fd⟩ ∧
        dspGetUtilization ret response device s =
          (if ret < 0 then .error (.status .runCommandFailed) else .ok response, s.record (.ioctl fd)) := by
  by_cases hdevice : device = 0
  · exact .inl ⟨.invalidArgument, if_pos hdevice⟩
  · obtain ⟨d, hd⟩ := Option.ne_none_iff_exists'.mp (h.resolve_left hdevice)
    refine .inr ⟨d.fd, hd, ?_⟩
    rw [dspGetUtilization, if_neg hdevice, deviceFd_of_open hd]

section Descriptors

variable {α β : Type} {P : Int32 → Prop}

/-- A call issues ioctls only on descriptors with a given property. -/
def IssuesOn (P : Int32 → Prop) (call : BufferCall α) : Prop :=
  ∀ s, ∀ record ∈ (call.exec s).2.issued, record ∈ s.issued ∨ P record.fd

/-- A call that issues no ioctl. -/
theorem IssuesOn.of_same {call : BufferCall α} (h : ∀ s, (call.exec s).2.issued = s.issued) :
    IssuesOn P call :=
  fun s _ hrecord => .inl (h s ▸ hrecord)

/-- One call after another. -/
theorem IssuesOn.bind {call : BufferCall α} {rest : α → BufferCall β} (h : IssuesOn P call)
    (hrest : ∀ s a, (call.exec s).1 = .ok a → IssuesOn P (rest a)) : IssuesOn P (call >>= rest) := by
  intro s record hrecord
  obtain ⟨result, s', hexec⟩ : ∃ result s', call.exec s = (result, s') := ⟨_, _, rfl⟩
  have hfirst := h s
  rw [hexec] at hfirst
  cases result with
  | error stop =>
    rw [exec_bind_of_error hexec] at hrecord
    exact hfirst record hrecord
  | ok a =>
    rw [exec_bind_of_ok hexec] at hrecord
    rcases hrest s a (by rw [hexec]) s' record hrecord with hearlier | hP
    · exact hfirst record hearlier
    · exact .inr hP

/-- A check, or a look at a device, and what follows it. -/
theorem IssuesOn.lift {call : Call α} {rest : α → BufferCall β}
    (hrest : ∀ a, call = .ok a → IssuesOn P (rest a)) :
    IssuesOn P ((liftM call : BufferCall α) >>= rest) := by
  refine IssuesOn.bind (.of_same fun s => by rw [exec_liftM rfl]) fun s a ha => hrest a ?_
  rw [exec_liftM rfl] at ha
  exact ha

/-- An ioctl. -/
theorem issuesOn_issueIoctl (ioctl : BufferDriver) {fd : Int32} (request : BufferIoctl) (h : P fd) :
    IssuesOn P (issueIoctl ioctl fd request) := by
  intro s record hrecord
  rw [issueIoctl_exec] at hrecord
  rcases List.mem_cons.mp hrecord with rfl | hearlier
  · exact .inr h
  · exact .inl hearlier

/-- A value that is computed from the result. -/
theorem IssuesOn.map {call : BufferCall α} (h : IssuesOn P call) (f : α → β) : IssuesOn P (f <$> call) := by
  intro s record hrecord
  obtain ⟨result, s', hexec⟩ : ∃ result s', call.exec s = (result, s') := ⟨_, _, rfl⟩
  rw [exec_map hexec] at hrecord
  refine h s record ?_
  rwa [hexec]

/-- The descriptor of a device that is open. -/
def OpenDevices.Has (devices : OpenDevices) (fd : Int32) : Prop := ∃ device, devices device = some ⟨fd⟩

/-- A descriptor is read from a device that is open. -/
theorem deviceFd_has {devices : OpenDevices} {device : UInt64} {fd : Int32}
    (h : deviceFd devices device = .ok fd) :
    devices device = some ⟨fd⟩ := by
  cases hdevice : devices device with
  | none => simp [deviceFd, readThrough, hdevice, bind, Except.bind] at h
  | some d =>
    rw [deviceFd_of_open hdevice] at h
    rw [← Except.ok.inj h]

variable (ioctl : BufferDriver) {devices : OpenDevices}

/-- A synchronisation. -/
theorem issuesOn_driverSyncBuffer {fd : Int32} {buffer size : UInt64} {direction : DspSyncDirection}
    {accessTime : IoctlSyncAccessTime} (h : P fd) :
    IssuesOn P (driverSyncBuffer ioctl fd buffer size direction accessTime) := by
  refine .lift fun _ _ => (issuesOn_issueIoctl ioctl _ h).bind fun _ answer _ => ?_
  exact .of_same fun s => by rw [exec_liftM rfl]

/-- The buffer functions issue ioctls only on the descriptors of devices that are open; with a handle
that points to no device they end in a fault before the ioctl. -/
theorem BufferRequest.issuesOn (request : BufferRequest) :
    IssuesOn devices.Has (request.run ioctl devices) := by
  cases request with
  | createBuffer device size buffer =>
    refine IssuesOn.map (.lift fun _ _ => .lift fun fd hfd => ?_) _
    have halloc : IssuesOn devices.Has (driverAllocateBuffer ioctl fd (sizeofDspBuffer + size)) := by
      refine (issuesOn_issueIoctl ioctl _ ⟨device, deviceFd_has hfd⟩).bind fun _ answer _ =>
        .lift fun _ _ => ?_
      exact .of_same fun _ => rfl
    exact halloc.bind fun _ _ _ => .of_same fun _ => rfl
  | releaseBuffer device buffer =>
    refine IssuesOn.map (.lift fun _ _ => ?_) _
    refine IssuesOn.bind (.of_same fun _ => rfl) fun s a _ => .lift fun fd hfd => ?_
    refine (issuesOn_issueIoctl ioctl _ ⟨device, deviceFd_has hfd⟩).bind fun _ answer _ => ?_
    exact .of_same fun s => by rw [exec_liftM rfl]
  | bufferSync accessTime buffer direction =>
    rw [BufferRequest.run_bufferSync]
    refine IssuesOn.map (.lift fun _ _ => ?_) _
    refine IssuesOn.bind (.of_same fun _ => rfl) fun s a _ => .lift fun fd hfd => ?_
    exact issuesOn_driverSyncBuffer ioctl ⟨_, deviceFd_has hfd⟩

end Descriptors

/-- The imaging operations issue ioctls only on the descriptor of their device. -/
theorem ImagingCall.ioctls_fd {call : ImagingCall} {ioctl : Int32 → XrpIoctlQueue → Int32}
    {perfInfo : UInt64} {device : Ptr DspDevice} {inData : ImagingRequest}
    {entry : Int32 × XrpIoctlQueue} (h : entry ∈ (call.run ioctl perfInfo device inData).ioctls) :
    device = some ⟨entry.1⟩ := by
  obtain ⟨d, request, rfl, -, -, hfd, -⟩ := call.run_issued h
  rw [hfd]

end HailoDsp
