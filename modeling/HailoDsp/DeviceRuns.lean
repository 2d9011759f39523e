import HailoDsp.BufferPairing
import HailoDsp.Device
import HailoDsp.Outcomes

/-!
# Runs of the whole library

A process calls the functions of the library in any order, and its own code writes to memory in
between. It calls them with device handles that are NULL or open and uses its buffers as permitted;
a call that follows a pointer to something that is not there would end the run. The log of
descriptors is what the kernel sees: an ioctl or a close on a descriptor that is not open would hit
another file. As far as the buffers go, such runs are runs of `BufferWorld`.
-/

namespace HailoDsp

/-- The descriptors that are open after the events of a log. -/
def openDescriptors : List DescriptorEvent → List Int32
  | [] => []
  | .opened fd :: earlier => fd :: openDescriptors earlier
  | .closed fd :: earlier => (openDescriptors earlier).erase fd
  | .ioctl _ :: earlier => openDescriptors earlier

/-- Descriptors are used and closed only while they are open. -/
def WellUsed : List DescriptorEvent → Prop
  | [] => True
  | .opened _ :: earlier => WellUsed earlier
  | .closed fd :: earlier => fd ∈ openDescriptors earlier ∧ WellUsed earlier
  | .ioctl fd :: earlier => fd ∈ openDescriptors earlier ∧ WellUsed earlier

/-- Ioctls do not open or close descriptors. -/
theorem openDescriptors_ioctls (fds : List Int32) (log : List DescriptorEvent) :
    openDescriptors (fds.map .ioctl ++ log) = openDescriptors log := by
  induction fds with
  | nil => rfl
  | cons fd rest ih => exact ih

/-- Ioctls on open descriptors. -/
theorem wellUsed_ioctls {fds : List Int32} {log : List DescriptorEvent} (h : WellUsed log)
    (hfds : ∀ fd ∈ fds, fd ∈ openDescriptors log) : WellUsed (fds.map .ioctl ++ log) := by
  induction fds with
  | nil => exact h
  | cons fd rest ih =>
    refine ⟨?_, ih fun fd' hfd' => hfds fd' (List.mem_cons_of_mem _ hfd')⟩
    change fd ∈ openDescriptors (rest.map .ioctl ++ log)
    rw [openDescriptors_ioctls]
    exact hfds fd List.mem_cons_self

/-- A call of the library with the answers of the system, or what user code does to memory. -/
inductive ApiCall
  | createDevice (answers : DeviceAnswers) (device : Ptr Unit)
  | releaseDevice (device : UInt64)
  | getUtilization (ret : Int32) (response : UInt32) (device : UInt64)
  | buffer (ioctl : BufferDriver) (request : BufferRequest)
  | imaging (ioctl : Int32 → XrpIoctlQueue → Int32) (perfInfo device : UInt64) (inData : ImagingRequest)
      (call : ImagingCall)
  | userWrites (memory : ByteMemory.Memory)

/-- A process that uses the library. -/
structure Process where
  world : BufferWorld
  log : List DescriptorEvent

namespace Process

/-- The devices and the log. -/
def deviceState (p : Process) : DeviceState := ⟨p.world.devices, p.log⟩

/-- What a handle points to: nothing when it is NULL, and otherwise a device that has to be there. -/
def follow (p : Process) (device : UInt64) : Option (Ptr DspDevice) :=
  if device = 0 then some none else (p.world.devices device).map some

/-- The process goes on after a call that returns, and not after one that follows a pointer to nothing. -/
def survives {α : Type} (result : Call α) (p : Process) : Option Process :=
  match result with
  | .error (.fault _) => none
  | _ => some p

/-- The process after a call, if the call returns. -/
def perform (p : Process) : ApiCall → Option Process
  | .createDevice answers device =>
    let (result, s) := dspCreateDevice answers device p.deviceState
    survives result ⟨{ p.world with devices := s.devices }, s.log⟩
  | .releaseDevice device =>
    match dspReleaseDevice device p.deviceState with
    | (.error stop, s) =>
      survives (.error stop : Call Unit) ⟨{ p.world with devices := s.devices }, s.log⟩
    | (.ok (), s) =>
      some ⟨{ p.world with devices := s.devices, history := .closed device :: p.world.history }, s.log⟩
  | .getUtilization ret response device =>
    let (result, s) := dspGetUtilization ret response device p.deviceState
    survives result { p with log := s.log }
  | .buffer ioctl request =>
    survives (p.world.call ioctl request).1.result
      ⟨p.world.afterCall ioctl request, (p.world.call ioctl request).1.issued.map (.ioctl ·.fd) ++ p.log⟩
  | .imaging ioctl perfInfo device inData call =>
    match p.follow device with
    | none => none
    | some handle =>
      let outcome := call.run ioctl perfInfo handle inData
      match outcome.result with
      | .error _ => none
      | .ok _ => some { p with log := (outcome.ioctls.map Prod.fst).map .ioctl ++ p.log }
  | .userWrites memory => some { p with world := { p.world with memory } }

/-- What the operating system promises: a new object is where there is none, a new descriptor is not
open, or is the value -1. -/
def Answered (p : Process) : ApiCall → Prop
  | .createDevice answers _ =>
    (∀ device content, answers.allocated = some (device, content) → device ≠ 0 ∧
      p.world.devices device = none) ∧
      answers.opened ∉ openDescriptors p.log
  | _ => True

/-- The calls that a process may make: device handles are NULL or open, buffers are used as permitted,
with a driver that keeps its contract, and the array of regions of a privacy mask is not NULL where it
is read. -/
def Permits (p : Process) : ApiCall → Prop
  | .createDevice _ _ => True
  | .releaseDevice device => p.world.devices.Admits device
  | .getUtilization _ _ device => p.world.devices.Admits device
  | .buffer ioctl request =>
    p.world.Permits request ∧ DriverContract ioctl p.world.memory (driverBlocks p.world.history)
  | .imaging _ _ device _ call =>
    p.world.devices.Admits device ∧ ∀ handle, p.follow device = some handle → ¬ call.ReadsNullRois handle
  | .userWrites memory => p.world.UserWrites memory

/-- A process that has called nothing. -/
def start (memory : ByteMemory.Memory) : Process := ⟨⟨fun _ => none, memory, []⟩, []⟩

/-- A process that permitted calls of the library get to. -/
inductive Reachable : Process → Prop
  | start (memory : ByteMemory.Memory) : Reachable (start memory)
  | call {p p' : Process} (h : p.Reachable) {call : ApiCall} (hanswered : p.Answered call)
      (hpermits : p.Permits call) (hperform : p.perform call = some p') : Reachable p'

/-- The invariant: the buffers are in order, and the descriptors that are open are those of the devices
in memory, one for each. -/
structure Consistent (p : Process) : Prop where
  world : p.world.Reachable
  used : WellUsed p.log
  nodup : (openDescriptors p.log).Nodup
  valid : -1 ∉ openDescriptors p.log
  covered : ∀ fd, fd ∈ openDescriptors p.log ↔ p.world.devices.Has fd
  distinct : ∀ device device' d, p.world.devices device = some d → p.world.devices device' = some d →
    device = device'

/-- What a call can do to a process: nothing, or open a device, close one, issue ioctls on the
descriptors of open devices, or write to the bytes of the callers. -/
inductive Effect (p : Process) : Process → Prop
  | nothing : Effect p p
  | opens {device : UInt64} {fd : Int32} (hnone : p.world.devices device = none)
      (hnew : fd ∉ openDescriptors p.log) (hvalid : fd ≠ -1) :
    Effect p ⟨{ p.world with devices := Function.update p.world.devices device (some ⟨fd⟩) },
      .opened fd :: p.log⟩
  | closes {device : UInt64} {fd : Int32} (hopen : p.world.devices device = some ⟨fd⟩) :
    Effect p ⟨{ p.world with
        devices := Function.update p.world.devices device none
        history := .closed device :: p.world.history },
      if fd ≠ -1 then .closed fd :: p.log else p.log⟩
  | ioctls {world : BufferWorld} (hworld : world = p.world ∨ p.world.Step world)
      (hdevices : world.devices = p.world.devices) (fds : List Int32)
      (hfds : ∀ fd ∈ fds, p.world.devices.Has fd) :
    Effect p ⟨world, fds.map .ioctl ++ p.log⟩
  | writes {memory : ByteMemory.Memory} (hwrites : p.world.UserWrites memory) :
    Effect p { p with world := { p.world with memory } }

/-- A process that has called nothing has nothing open. -/
theorem start_consistent (memory : ByteMemory.Memory) : (start memory).Consistent where
  world := ⟨fun _ => none, memory, .refl⟩
  used := trivial
  nodup := List.nodup_nil
  valid := by simp [start, openDescriptors]
  covered := by simp [start, openDescriptors, OpenDevices.Has]
  distinct := by simp [start]

section Steps

variable {p p' : Process}

/-- The handles that may be passed can be followed. -/
theorem follow_of_admits {device : UInt64} (h : p.world.devices.Admits device) :
    ∃ handle, p.follow device = some handle ∧ ∀ d, handle = some d → p.world.devices device = some d := by
  by_cases hdevice : device = 0
  · exact ⟨none, if_pos hdevice, fun d hd => by cases hd⟩
  · obtain ⟨d, hd⟩ := Option.ne_none_iff_exists'.mp (h.resolve_left hdevice)
    refine ⟨some d, ?_, fun d' hd' => ?_⟩
    · rw [follow, if_neg hdevice, hd, Option.map_some]
    · rw [hd, hd']

/-- A permitted call of a buffer function returns. -/
theorem perform_buffer (h : p.world.Reachable) {ioctl : BufferDriver} {request : BufferRequest}
    (hpermits : p.Permits (.buffer ioctl request)) :
    p.perform (.buffer ioctl request) = some ⟨p.world.afterCall ioctl request,
      (p.world.call ioctl request).1.issued.map (.ioctl ·.fd) ++ p.log⟩ := by
  have hresult := (h.consistent.callEffect ioctl hpermits.1).no_fault
  rw [perform]
  cases hcall : (p.world.call ioctl request).1.result with
  | ok result => rfl
  | error stop =>
    cases stop with
    | status status => rfl
    | fault fault => exact absurd hcall (hresult fault)

/-- A permitted call returns, and its effect is one of those above. -/
theorem perform_cases (h : p.world.Reachable) {call : ApiCall} (hanswered : p.Answered call)
    (hpermits : p.Permits call) : ∃ p', p.perform call = some p' ∧ Effect p p' := by
  cases call with
  | createDevice answers device =>
    obtain ⟨hnew, hopened⟩ := hanswered
    rcases dspCreateDevice_cases answers device p.deviceState fun a content ha => (hnew a content ha).2 with
      ⟨status, heq⟩ | ⟨a, hnone, hvalid, heq⟩
    · refine ⟨p, ?_, .nothing⟩
      rw [perform, heq]
      rfl
    · refine ⟨_, ?_, .opens hnone hopened hvalid⟩
      rw [perform, heq]
      rfl
  | releaseDevice device =>
    rcases dspReleaseDevice_cases (s := p.deviceState) hpermits with ⟨status, heq⟩ | ⟨fd, hopen, heq⟩
    · refine ⟨p, ?_, .nothing⟩
      rw [perform, heq]
      rfl
    · refine ⟨_, ?_, .closes hopen⟩
      rw [perform, heq]
      by_cases hfd : fd = -1 <;> simp [hfd, deviceState, DeviceState.record, DeviceState.write]
  | getUtilization ret response device =>
    rcases dspGetUtilization_cases (s := p.deviceState) hpermits with ⟨status, heq⟩ | ⟨fd, hopen, heq⟩
    · refine ⟨p, ?_, .nothing⟩
      rw [perform, heq]
      rfl
    · refine ⟨_, ?_, .ioctls (.inl rfl) rfl [fd] fun fd' hfd' =>
        ⟨device, List.mem_singleton.mp hfd' ▸ hopen⟩⟩
      rw [perform, heq]
      by_cases hret : ret < 0
      · rw [if_pos hret]
        rfl
      · rw [if_neg hret]
        rfl
  | buffer ioctl request =>
    refine ⟨_, perform_buffer h hpermits, ?_⟩
    have hfds : ∀ fd ∈ (p.world.call ioctl request).1.issued.map IoctlRecord.fd,
        p.world.devices.Has fd := by
      intro fd hfd
      obtain ⟨record, hrecord, rfl⟩ := List.mem_map.mp hfd
      exact (request.issuesOn ioctl ⟨p.world.memory, []⟩ record hrecord).resolve_left (by simp)
    have heffect := Effect.ioctls (.inr (.call hpermits.1 hpermits.2)) rfl _ hfds
    rwa [List.map_map] at heffect
  | imaging ioctl perfInfo device inData call =>
    obtain ⟨hadmits, hrois⟩ := hpermits
    obtain ⟨handle, hfollow, hopen⟩ := follow_of_admits hadmits
    obtain ⟨status, hresult⟩ := ImagingCall.run_returns (hrois handle hfollow) ioctl perfInfo inData
    refine ⟨_, ?_, .ioctls (.inl rfl) rfl ((call.run ioctl perfInfo handle inData).ioctls.map Prod.fst) ?_⟩
    · simp only [perform, hfollow, hresult]
    · intro fd hfd
      obtain ⟨entry, hentry, rfl⟩ := List.mem_map.mp hfd
      exact ⟨device, hopen _ (ImagingCall.ioctls_fd hentry)⟩
  | userWrites memory => exact ⟨_, rfl, .writes hpermits⟩

/-- An effect does nothing to the buffers, or what a step of `BufferWorld` does. -/
theorem Effect.world (h : p.Effect p') : p'.world = p.world ∨ p.world.Step p'.world := by
  cases h with
  | nothing => exact .inl rfl
  | opens hnone hnew hvalid => exact .inr (.openDevice _ hnone)
  | closes hopen => exact .inr (.closeDevice _)
  | ioctls hworld hdevices fds hfds => exact hworld
  | writes hwrites => exact .inr (.userWrites hwrites)

/-- Runs of the buffers go on with an effect. -/
theorem Effect.world_reachable (h : p.Effect p') (hworld : p.world.Reachable) : p'.world.Reachable := by
  rcases h.world with heq | hstep
  · rwa [heq]
  · exact hworld.step hstep

/-- Ioctls on the descriptors of devices in memory keep the invariant. -/
theorem Consistent.ioctls (h : p.Consistent) (fds : List Int32) (hfds : ∀ fd ∈ fds, p.world.devices.Has fd)
    (hworld : p'.world.Reachable) (hdevices : p'.world.devices = p.world.devices)
    (hlog : p'.log = fds.map .ioctl ++ p.log) :
    p'.Consistent := by
  have hopen : openDescriptors p'.log = openDescriptors p.log := by rw [hlog, openDescriptors_ioctls]
  refine ⟨hworld, ?_, hopen ▸ h.nodup, hopen ▸ h.valid, fun fd => ?_, ?_⟩
  · rw [hlog]
    exact wellUsed_ioctls h.used fun fd hfd => (h.covered fd).mpr (hfds fd hfd)
  · rw [hopen, hdevices]
    exact h.covered fd
  · rw [hdevices]
    exact h.distinct

/-- A device that has been made, with a descriptor of its own. -/
theorem Consistent.opened (h : p.Consistent) {device : UInt64} {fd : Int32}
    (hnew : p.world.devices device = none) (hfd : fd ∉ openDescriptors p.log) (hvalid : fd ≠ -1)
    (hworld : p'.world.Reachable)
    (hdevices : p'.world.devices = Function.update p.world.devices device (some ⟨fd⟩))
    (hlog : p'.log = .opened fd :: p.log) : p'.Consistent := by
  have hopen : openDescriptors p'.log = fd :: openDescriptors p.log := by rw [hlog, openDescriptors]
  have hnot (device' : UInt64) (hdevice' : p.world.devices device' = some ⟨fd⟩) : False :=
    hfd ((h.covered fd).mpr ⟨device', hdevice'⟩)
  refine ⟨hworld, ?_, hopen ▸ List.nodup_cons.mpr ⟨hfd, h.nodup⟩, ?_, fun fd' => ?_, ?_⟩
  · rw [hlog]
    exact h.used
  · rw [hopen, List.mem_cons, not_or]
    exact ⟨hvalid.symm, h.valid⟩
  · rw [hopen, List.mem_cons, h.covered, hdevices]
    constructor
    · rintro (rfl | ⟨device', hdevice'⟩)
      · exact ⟨device, by simp⟩
      · have hne : device' ≠ device := fun heq => by simp [heq, hnew] at hdevice'
        exact ⟨device', by simpa [hne] using hdevice'⟩
    · rintro ⟨device', hdevice'⟩
      by_cases hne : device' = device
      · subst hne
        simp only [Function.update_self, Option.some_inj] at hdevice'
        exact .inl (congrArg DspDevice.fd hdevice').symm
      · exact .inr ⟨device', by simpa [hne] using hdevice'⟩
  · intro a b d ha hb
    rw [hdevices] at ha hb
    by_cases hae : a = device <;> by_cases hbe : b = device
    · rw [hae, hbe]
    · subst hae
      simp only [Function.update_self, Option.some_inj] at ha
      simp only [Function.update_of_ne hbe, ← ha] at hb
      exact (hnot b hb).elim
    · subst hbe
      simp only [Function.update_self, Option.some_inj] at hb
      simp only [Function.update_of_ne hae, ← hb] at ha
      exact (hnot a ha).elim
    · simp only [Function.update_of_ne hae] at ha
      simp only [Function.update_of_ne hbe] at hb
      exact h.distinct a b d ha hb

/-- A device that has been released, with its descriptor. -/
theorem Consistent.closed (h : p.Consistent) {device : UInt64} {fd : Int32}
    (hdevice : p.world.devices device = some ⟨fd⟩) (hworld : p'.world.Reachable)
    (hdevices : p'.world.devices = Function.update p.world.devices device none)
    (hlog : p'.log = .closed fd :: p.log) : p'.Consistent := by
  have hopen : openDescriptors p'.log = (openDescriptors p.log).erase fd := by rw [hlog, openDescriptors]
  refine ⟨hworld, ?_, hopen ▸ h.nodup.erase fd, fun hin => h.valid (List.mem_of_mem_erase (hopen ▸ hin)),
    fun fd' => ?_, ?_⟩
  · rw [hlog]
    exact ⟨(h.covered fd).mpr ⟨device, hdevice⟩, h.used⟩
  · rw [hopen, h.nodup.mem_erase_iff, h.covered, hdevices]
    constructor
    · rintro ⟨hne, device', hdevice'⟩
      have hother : device' ≠ device := by
        rintro rfl
        exact hne (congrArg DspDevice.fd (Option.some_inj.mp (hdevice'.symm.trans hdevice)))
      exact ⟨device', by simpa [hother] using hdevice'⟩
    · rintro ⟨device', hdevice'⟩
      have hother : device' ≠ device := fun heq => by simp [heq] at hdevice'
      simp only [Function.update_of_ne hother] at hdevice'
      exact ⟨fun heq => hother (h.distinct device' device _ hdevice' (heq ▸ hdevice)), device', hdevice'⟩
  · intro a b d ha hb
    rw [hdevices] at ha hb
    have hae : a ≠ device := fun heq => by simp [heq] at ha
    have hbe : b ≠ device := fun heq => by simp [heq] at hb
    simp only [Function.update_of_ne hae] at ha
    simp only [Function.update_of_ne hbe] at hb
    exact h.distinct a b d ha hb

/-- Every effect keeps the invariant. -/
theorem Effect.consistent (heffect : p.Effect p') (h : p.Consistent) : p'.Consistent := by
  have hworld := heffect.world_reachable h.world
  cases heffect with
  | nothing => exact h
  | opens hnone hnew hvalid => exact h.opened hnone hnew hvalid hworld rfl rfl
  | @closes device fd hopen =>
    have hvalid : fd ≠ -1 := fun hfd => h.valid ((h.covered (-1)).mpr ⟨device, hfd ▸ hopen⟩)
    exact h.closed hopen hworld rfl (if_pos hvalid)
  | ioctls _ hdevices fds hfds => exact h.ioctls fds hfds hworld hdevices rfl
  | writes hwrites => exact ⟨hworld, h.used, h.nodup, h.valid, h.covered, h.distinct⟩

/-- The invariant holds in every run. -/
theorem Reachable.consistent (h : p.Reachable) : p.Consistent := by
  induction h with
  | start memory => exact start_consistent memory
  | call _ hanswered hpermits hperform ih =>
    obtain ⟨p', heq, heffect⟩ := perform_cases ih.world hanswered hpermits
    cases hperform.symm.trans heq
    exact heffect.consistent ih

end Steps

/-- In every run, whichever calls of the system fail, no ioctl is issued on a descriptor that is not open
and none is closed that is not open, what is open are the descriptors of the devices that have been
created and not released, a different one for each, and no permitted call follows a pointer to nothing. -/
theorem descriptors_well_used {p : Process} (h : p.Reachable) :
    WellUsed p.log ∧ (∀ fd, fd ∈ openDescriptors p.log ↔ ∃! device, p.world.devices device = some ⟨fd⟩) ∧
      ∀ call, p.Answered call → p.Permits call → p.perform call ≠ none := by
  have hconsistent := h.consistent
  refine ⟨hconsistent.used, fun fd => ?_, fun call hanswered hpermits => ?_⟩
  · rw [hconsistent.covered]
    constructor
    · rintro ⟨device, hdevice⟩
      exact ⟨device, hdevice, fun device' hdevice' =>
        hconsistent.distinct device' device _ hdevice' hdevice⟩
    · rintro ⟨device, hdevice, -⟩
      exact ⟨device, hdevice⟩
  · obtain ⟨p', heq, -⟩ := perform_cases hconsistent.world hanswered hpermits
    rw [heq]
    exact Option.some_ne_none p'

/-- One device has been made. -/
def sampleOne : Process := ⟨⟨Function.update (fun _ => none) 4096 (some ⟨3⟩), fun _ => 0, []⟩, [.opened 3]⟩

/-- And another one. -/
def sampleTwo : Process :=
  ⟨⟨Function.update sampleOne.world.devices 8192 (some ⟨4⟩), fun _ => 0, []⟩, [.opened 4, .opened 3]⟩

/-- The first one has been released, and the other one asked for its utilization. -/
def sample : Process :=
  ⟨⟨Function.update sampleTwo.world.devices 4096 none, fun _ => 0, [.closed 4096]⟩,
    [.ioctl 4, .closed 3, .opened 4, .opened 3]⟩

/-- A run gets to two devices. -/
theorem sampleTwo_reachable : sampleTwo.Reachable := by
  have hfirst : (start fun _ => 0).Answered (.createDevice ⟨some (4096, ⟨0⟩), 3⟩ (some ())) := by
    refine ⟨?_, by simp [start, openDescriptors]⟩
    rintro device content ⟨⟩
    exact ⟨by decide, rfl⟩
  have hone : sampleOne.Reachable := by
    refine .call (.start fun _ => 0) hfirst trivial ?_
    simp [perform, dspCreateDevice, driverOpenDevice, survives, DeviceState.write,
      DeviceState.record, deviceState, start, sampleOne]
  have hsecond : sampleOne.Answered (.createDevice ⟨some (8192, ⟨0⟩), 4⟩ (some ())) := by
    refine ⟨?_, by decide⟩
    rintro device content ⟨⟩
    exact ⟨by decide, rfl⟩
  refine .call hone hsecond trivial ?_
  simp [perform, dspCreateDevice, driverOpenDevice, survives, DeviceState.write,
    DeviceState.record, deviceState, sampleTwo, sampleOne]

/-- A run gets to the release of one of them. -/
theorem sample_reachable : sample.Reachable := by
  have hrelease : sampleTwo.Permits (.releaseDevice 4096) := .inr (by decide)
  have hreleased : Reachable
      ⟨⟨Function.update sampleTwo.world.devices 4096 none, fun _ => 0, [.closed 4096]⟩,
        [.closed 3, .opened 4, .opened 3]⟩ := .call sampleTwo_reachable (by trivial) hrelease rfl
  have hask : Permits ⟨⟨Function.update sampleTwo.world.devices 4096 none, fun _ => 0, [.closed 4096]⟩,
      [.closed 3, .opened 4, .opened 3]⟩ (.getUtilization 0 50 8192) := .inr (by decide)
  exact .call hreleased (by trivial) hask rfl

/-- The descriptor of the device that is left is open, and the only one. -/
theorem descriptors_well_used_sample :
    WellUsed [.ioctl 4, .closed 3, .opened 4, .opened 3] ∧
      (∀ fd, fd ∈ openDescriptors [.ioctl 4, .closed 3, .opened 4, .opened 3] ↔
        ∃! device, sample.world.devices device = some ⟨fd⟩) ∧
      sample.perform (.releaseDevice 8192) ≠ none := by
  obtain ⟨hused, hopen, hreturns⟩ := descriptors_well_used sample_reachable
  exact ⟨hused, hopen, hreturns _ trivial (.inr (by decide))⟩

/-- In every run the buffers of the process are used as they should be, and every live buffer whose
device has not been released still has the descriptor open through which its block was handed out. -/
theorem run_refines_buffers {p : Process} (h : p.Reachable) :
    p.world.Reachable ∧
      ∀ b ∈ liveBuffers p.world.history, Attached p.world.history b →
      b.block.fd ∈ openDescriptors p.log := by
  have hconsistent := h.consistent
  refine ⟨hconsistent.world, fun b hb hattached => ?_⟩
  have hdevice := (hconsistent.world.consistent.device_open b hb hattached).2
  exact (hconsistent.covered b.block.fd).mpr ⟨b.device, hdevice⟩

/-- The two devices, with a buffer of the first one. -/
def sampleWithBuffer : Process :=
  ⟨sampleTwo.world.afterCall (grantingDriver 65536 sampleTwo.world.memory)
    (.createBuffer 4096 100 (some 0)),
    [.ioctl 3, .opened 4, .opened 3]⟩

/-- The descriptor of the device of the buffer is open. -/
theorem run_refines_buffers_sample :
    sampleWithBuffer.world.Reachable ∧ sampleBuffer.block.fd ∈ openDescriptors sampleWithBuffer.log := by
  have hpermits : sampleTwo.Permits (.buffer (grantingDriver 65536 sampleTwo.world.memory)
      (.createBuffer 4096 100 (some 0))) :=
    ⟨⟨by decide, .inr (by decide)⟩,
      grantingDriver_contract (by decide) _ (by simp [sampleTwo, driverBlocks])⟩
  have hreachable : sampleWithBuffer.Reachable :=
    .call sampleTwo_reachable (by trivial) hpermits
      (perform_buffer sampleTwo_reachable.consistent.world hpermits)
  have hrefines := run_refines_buffers hreachable
  exact ⟨hrefines.1, hrefines.2 sampleBuffer (List.mem_singleton.mpr rfl) (.inl rfl)⟩

end Process

end HailoDsp
