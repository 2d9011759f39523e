import HailoDsp.Foundations.CountedHeap
import Mathlib.Data.UInt

/-!
# The objects of the XRP library and the world around them

The reference-counted structures of `xrp_host_common.h`, and what the library asks the operating
system for: device descriptors, memory of the driver, and memory of the process. Pointers are
addresses, and no object is at the address 0.
-/

namespace HailoDsp.Xrp

open CountedHeap ThreadPool

/-- `enum xrp_status` -/
inductive XrpStatus
  | success
  | failure
  | pending
  deriving DecidableEq

/-- `enum xrp_access_flags`, a set of bits. -/
abbrev XrpAccessFlags := UInt32

/-- `struct xrp_device` -/
structure XrpDevice where
  fd : ℕ

/-- The type of a buffer. -/
inductive XrpBufferType
  | host
  | device
  deriving DecidableEq

/-- `struct xrp_buffer` -/
structure XrpBuffer where
  device : ℕ
  type : XrpBufferType
  ptr : ℕ
  size : ℕ
  mapCount : UInt64
  mapFlags : XrpAccessFlags

/-- `struct xrp_buffer_group_record` -/
structure XrpBufferGroupRecord where
  buffer : ℕ
  accessFlags : XrpAccessFlags

/-- `struct xrp_buffer_group`: the array has room for `capacity` records and holds `buffer.length`. -/
structure XrpBufferGroup where
  capacity : ℕ
  buffer : List XrpBufferGroupRecord

/-- `struct xrp_request`, which is itself at the address `item`. -/
structure XrpRequest where
  item : ℕ
  inData : Option ℕ
  inDataBytes : List UInt8
  outData : ℕ
  outDataSize : ℕ
  bufferGroup : Option ℕ
  event : Option ℕ

/-- `struct xrp_queue` with its `struct xrp_request_queue`, the linked list of requests as a list. -/
structure XrpQueue where
  device : ℕ
  useNsid : Bool
  priority : Int32
  nsid : Vector UInt8 16
  requestQueue : List XrpRequest
  exit : Bool
  syncExit : ℕ

/-- `struct xrp_event` -/
structure XrpEvent where
  queue : ℕ
  status : XrpStatus

/-- What can be behind a pointer; the last is the variable `exit` of `xrp_queue_process`. -/
inductive XrpObject
  | device (device : XrpDevice)
  | buffer (buffer : XrpBuffer)
  | group (group : XrpBufferGroup)
  | queue (queue : XrpQueue)
  | event (event : XrpEvent)
  | variable (exit : Bool)

/-- `struct xrp_ioctl_buffer` -/
structure XrpIoctlBuffer where
  flags : XrpAccessFlags
  size : ℕ
  addr : ℕ

/-- `struct xrp_ioctl_queue` with what its pointers point to. -/
structure XrpIoctlQueue where
  flags : UInt32
  inData : List UInt8
  inDataSize : ℕ
  outData : ℕ
  outDataSize : ℕ
  bufferSize : ℕ
  buffers : List XrpIoctlBuffer
  nsid : Vector UInt8 16

/-- What one thread can hand over to another: an object of some kind, or that a buffer is on a device. -/
inductive XrpHandle
  | device (a : ℕ)
  | buffer (a : ℕ)
  | group (a : ℕ)
  | queue (a : ℕ)
  | event (a queue : ℕ)
  | onDevice (buffer : ℕ)
  deriving DecidableEq

/-- What the operating system has given to the process, the handles that its threads have put down
for one another, and what the library has left behind: the requests of a queue that was destroyed,
and descriptors of devices that were never made. -/
structure XrpWorld where
  descriptors : Multiset ℕ
  blocks : Multiset (ℕ × ℕ)
  memory : Multiset ℕ
  bag : Multiset XrpHandle
  abandoned : List (ℕ × XrpRequest)
  unclosed : Multiset ℕ

/-- The calls to the operating system. The last four change only what the world keeps account of. -/
inductive XrpCmd : Type → Type
  | openDevice (idx : UInt32) : XrpCmd (Option ℕ)
  | close (fd : ℕ) : XrpCmd Unit
  | ioctlAlloc (fd size : ℕ) : XrpCmd (Option ℕ)
  | ioctlFree (fd addr size : ℕ) : XrpCmd Unit
  | ioctlSync (fd addr size : ℕ) (direction : XrpAccessFlags) (accessTime : ℕ) : XrpCmd Bool
  | ioctlQueue (fd : ℕ) (args : XrpIoctlQueue) : XrpCmd Bool
  | malloc (size : ℕ) : XrpCmd (Option ℕ)
  | free (p : ℕ) : XrpCmd Unit
  | realloc (size : ℕ) : XrpCmd Bool
  | forget (fd : ℕ) : XrpCmd Unit
  | abandon (queue : ℕ) (requests : List XrpRequest) : XrpCmd Unit
  | post (handles : Multiset XrpHandle) : XrpCmd Unit
  | fetch : XrpCmd (Multiset XrpHandle)

/-- The calls that may be made: on an open descriptor, for memory that has been given out. Requests
are left behind only by the worker of their own queue, and only if nobody can wait for them. -/
def XrpCmd.Allowed (t : Thread) {β : Type} : XrpCmd β → XrpWorld → Prop
  | .close fd, w => fd ∈ w.descriptors
  | .ioctlAlloc fd _, w => fd ∈ w.descriptors
  | .ioctlFree fd addr size, w => fd ∈ w.descriptors ∧ (addr, size) ∈ w.blocks
  | .ioctlSync fd addr size _ _, w => fd ∈ w.descriptors ∧ (addr, size) ∈ w.blocks
  | .ioctlQueue fd _, w => fd ∈ w.descriptors
  | .free p, w => p ∈ w.memory
  | .abandon queue requests, _ => t = .service queue ∧ ∀ rq ∈ requests, rq.event = none
  | _, _ => True

/-- How the calls are answered: whether they succeed is for the operating system to say. -/
def XrpCmd.Answers {β : Type} (cmd : XrpCmd β) (w : XrpWorld) (r : β) (w' : XrpWorld) : Prop :=
  match cmd with
  | .openDevice _ => (r = none ∧ w' = w) ∨ ∃ fd, fd ∉ w.descriptors ∧ r = some fd ∧
      w' = { w with descriptors := fd ::ₘ w.descriptors }
  | .close fd => w' = { w with descriptors := w.descriptors.erase fd }
  | .ioctlAlloc _ size => (r = none ∧ w' = w) ∨ ∃ addr, r = some addr ∧
      w' = { w with blocks := (addr, size) ::ₘ w.blocks }
  | .ioctlFree _ addr size => w' = { w with blocks := w.blocks.erase (addr, size) }
  | .ioctlSync _ _ _ _ _ => w' = w
  | .ioctlQueue _ _ => w' = w
  | .malloc _ => (r = none ∧ w' = w) ∨ ∃ p, p ∉ w.memory ∧ r = some p ∧
      w' = { w with memory := p ::ₘ w.memory }
  | .free p => w' = { w with memory := w.memory.erase p }
  | .realloc _ => w' = w
  | .forget fd => w' = { w with unclosed := fd ::ₘ w.unclosed }
  | .abandon queue requests => w' = { w with abandoned := w.abandoned ++ requests.map (queue, ·) }
  | .post handles => w' = { w with bag := w.bag + handles }
  | .fetch => ∃ rest, w.bag = rest + r ∧ w' = { w with bag := rest }

/-- The environment of the library. -/
def xrpEnvironment : Environment XrpWorld XrpCmd where
  Allowed := XrpCmd.Allowed
  Answers := XrpCmd.Answers

/-- The programs of the library. -/
abbrev XrpProg (α : Type) := Prog (Op XrpObject XrpCmd) α

/-- A world in which nothing has been given out. -/
def XrpWorld.start : XrpWorld := ⟨0, 0, 0, 0, [], 0⟩

end HailoDsp.Xrp
