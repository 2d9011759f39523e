import HailoDsp.Buffer
import Mathlib.Logic.Relation

/-!
# Runs of buffer calls

The library keeps no table of its buffers: what a later call knows about a buffer is what its
header says. Here the calls work on one memory, in any order and with any ioctl failing, while
user code writes into the buffers and devices are opened and closed. The history of a run says
which blocks the driver has handed out and not taken back, and which buffers the callers hold;
that the headers agree with this table is the invariant.
-/

namespace HailoDsp

open ByteMemory EarlyExit

/-- A block that `XRP_IOCTL_ALLOC` has handed out. -/
structure Block where
  fd : Int32
  base : UInt64
  size : UInt32
  deriving DecidableEq, Repr

/-- The bytes of a block. -/
def Block.bytes (block : Block) : Set ℕ := span block.base.toNat block.size.toNat

/-- The blocks that the driver has handed out and not taken back, after one more ioctl. -/
def IoctlRecord.applyTo (record : IoctlRecord) (blocks : List Block) : List Block :=
  if record.answer.ret < 0 then blocks
  else match record.request with
    | .alloc arg => ⟨record.fd, record.answer.addr, arg.size⟩ :: blocks
    | .free arg => blocks.filter fun block => block.base ≠ arg.addr
    | .dmaSync _ => blocks

/-- What is assumed of the driver while it has handed out the given blocks: a new block is apart
from them, and the blocks that it still has afterwards keep their bytes. -/
structure DriverContract (ioctl : BufferDriver) (memory : Memory) (blocks : List Block) : Prop where
  fresh : ∀ fd arg, ¬ (ioctl fd (.alloc arg)).ret < 0 →
    (ioctl fd (.alloc arg)).addr.toNat + arg.size.toNat ≤ 2 ^ 64 ∧
      ∀ block ∈ blocks, Disjoint (span (ioctl fd (.alloc arg)).addr.toNat arg.size.toNat) block.bytes
  keeps : ∀ fd request, ∀ block ∈ blocks,
    block ∈ (IoctlRecord.mk fd request (ioctl fd request)).applyTo blocks →
      Set.EqOn (ioctl fd request).memory memory block.bytes
  dmaSync : ∀ fd arg, (ioctl fd (.dmaSync arg)).memory = memory

/-- A call of one of the four functions. -/
inductive BufferRequest
  | createBuffer (device size : UInt64) (buffer : Ptr UInt64)
  | releaseBuffer (device buffer : UInt64)
  | bufferSync (accessTime : IoctlSyncAccessTime) (buffer : UInt64) (direction : DspSyncDirection)

/-- The call, with what it writes to `*buffer`. -/
def BufferRequest.run (ioctl : BufferDriver) (devices : OpenDevices) :
    BufferRequest → BufferCall (Ptr UInt64)
  | createBuffer device size buffer => some <$> dspCreateBuffer ioctl devices device size buffer
  | releaseBuffer device buffer => (fun _ => none) <$> dspReleaseBuffer ioctl devices device buffer
  | bufferSync .syncStart buffer direction =>
    (fun _ => none) <$> dspBufferSyncStart ioctl devices buffer direction
  | bufferSync .syncEnd buffer direction =>
    (fun _ => none) <$> dspBufferSyncEnd ioctl devices buffer direction

/-- A call with its result and its ioctls. -/
structure CallRecord where
  request : BufferRequest
  result : Call (Ptr UInt64)
  issued : List IoctlRecord

/-- A buffer that a caller holds: what it was created with and the block of its `XRP_IOCTL_ALLOC`. -/
structure LiveBuffer where
  device : UInt64
  pointer : UInt64
  size : UInt64
  block : Block
  deriving DecidableEq, Repr

/-- The buffer that a call has created. -/
def CallRecord.created : CallRecord → Option LiveBuffer
  | ⟨.createBuffer device size _, .ok (some pointer), [⟨fd, .alloc arg, answer⟩]⟩ =>
    some ⟨device, pointer, size, ⟨fd, answer.addr, arg.size⟩⟩
  | _ => none

/-- The pointer that a call has released. -/
def CallRecord.released : CallRecord → Option UInt64
  | ⟨.releaseBuffer _ pointer, .ok _, _⟩ => some pointer
  | _ => none

/-- What leaves a trace in a run. -/
inductive BufferEvent
  | called (record : CallRecord)
  | closed (device : UInt64)

/-- The blocks that the driver has handed out and not taken back; histories have the last event first. -/
def driverBlocks : List BufferEvent → List Block
  | [] => []
  | .called record :: earlier => record.issued.foldr IoctlRecord.applyTo (driverBlocks earlier)
  | .closed _ :: earlier => driverBlocks earlier

/-- The buffers that have been created and not released. -/
def liveBuffers : List BufferEvent → List LiveBuffer
  | [] => []
  | .called record :: earlier =>
    record.created.toList ++ (liveBuffers earlier).filter fun b => record.released ≠ some b.pointer
  | .closed _ :: earlier => liveBuffers earlier

/-- The device of a buffer has been open ever since the buffer was created. -/
def Attached : List BufferEvent → LiveBuffer → Prop
  | [], _ => False
  | .called record :: earlier, b => record.created = some b ∨ Attached earlier b
  | .closed device :: earlier, b => device ≠ b.device ∧ Attached earlier b

/-- The state of a run. -/
structure BufferWorld where
  devices : OpenDevices
  memory : Memory
  history : List BufferEvent

namespace BufferWorld

/-- The calls that a program may make: it asks for less than `2^32 - 64` bytes of a device that is
open, and names buffers that are live, with the device that created them, still open. A NULL
argument is allowed. -/
def Permits (w : BufferWorld) : BufferRequest → Prop
  | .createBuffer device size _ => size.toNat < 2 ^ 32 - 64 ∧ (device = 0 ∨ w.devices device ≠ none)
  | .releaseBuffer device buffer => (device = 0 ∨ buffer = 0) ∨
      ∃ b ∈ liveBuffers w.history, Attached w.history b ∧ device = b.device ∧ buffer = b.pointer
  | .bufferSync _ buffer _ => buffer = 0 ∨
      ∃ b ∈ liveBuffers w.history, Attached w.history b ∧ buffer = b.pointer

/-- User code changes no byte of a block except those given to the callers. -/
def UserWrites (w : BufferWorld) (memory : Memory) : Prop :=
  ∀ a, memory a ≠ w.memory a → ∀ block ∈ driverBlocks w.history, a ∈ block.bytes →
    ∃ b ∈ liveBuffers w.history, a ∈ span b.pointer.toNat b.size.toNat

/-- What a call does, and the memory afterwards. -/
def call (w : BufferWorld) (ioctl : BufferDriver) (request : BufferRequest) : CallRecord × Memory :=
  let (result, s) := (request.run ioctl w.devices).exec ⟨w.memory, []⟩
  (⟨request, result, s.issued⟩, s.memory)

/-- The world after a call. -/
def afterCall (w : BufferWorld) (ioctl : BufferDriver) (request : BufferRequest) : BufferWorld :=
  { w with memory := (w.call ioctl request).2, history := .called (w.call ioctl request).1 :: w.history }

/-- One step of a run. -/
inductive Step : BufferWorld → BufferWorld → Prop
  | call {w : BufferWorld} {ioctl : BufferDriver} {request : BufferRequest}
      (hpermits : w.Permits request) (hcontract : DriverContract ioctl w.memory (driverBlocks w.history)) :
    Step w (w.afterCall ioctl request)
  | userWrites {w : BufferWorld} {memory : Memory} (hwrites : w.UserWrites memory) :
      Step w { w with memory }
  | openDevice {w : BufferWorld} {device : UInt64} (d : DspDevice) (hclosed : w.devices device = none) :
    Step w { w with devices := Function.update w.devices device (some d) }
  | closeDevice {w : BufferWorld} (device : UInt64) :
    Step w { w with
      devices := Function.update w.devices device none
      history := .closed device :: w.history }

/-- A world that a run can get to. -/
def Reachable (w : BufferWorld) : Prop :=
  ∃ devices memory, Relation.ReflTransGen Step ⟨devices, memory, []⟩ w

/-- A run goes on with a step. -/
theorem Reachable.step {w w' : BufferWorld} (h : w.Reachable) (hstep : w.Step w') : w'.Reachable := by
  obtain ⟨devices, memory, hsteps⟩ := h
  exact ⟨devices, memory, hsteps.tail hstep⟩

end BufferWorld

end HailoDsp
