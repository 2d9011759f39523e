import HailoDsp.ImageUtils

/-!
# The buffer list and the command

`buffer_list.hpp`, `send_command.cpp` and `driver_send_command`. A command is described by a
list of images, each with a pointer into the request block where its converted form goes;
adding the images appends one buffer for each plane and writes the position of the buffer
into the plane's descriptor. Such a pointer is an `ImageSlot`.
-/

namespace HailoDsp

open EarlyExit

/-- `BufferAccessType` -/
inductive BufferAccessType
  | read
  | write
  | readWrite
  deriving DecidableEq, Repr

/-- The value of the enumerator, which is also its `ioctl_buffer_flags` value. -/
def BufferAccessType.flags : BufferAccessType → UInt32
  | read => 1
  | write => 2
  | readWrite => 3

/-- `class BufferList` -/
structure BufferList where
  buffers : List XrpIoctlBuffer := []
  deriving DecidableEq, Repr

/-- The ioctl buffer that `BufferList::add_plane` makes of a plane. -/
def planeBuffer (plane : DspDataPlane) (accessType : BufferAccessType) (memoryType : DspMemoryType) :
    XrpIoctlBuffer where
  flags := accessType.flags
  size := plane.bytesused.toUInt32
  memoryType := UInt32.ofNat memoryType.value
  handle := if memoryType = .userptr then plane.userptr else plane.fd.toUInt32.toUInt64

/-- `BufferList::add_plane` -/
def BufferList.addPlane (list : BufferList) (plane : DspDataPlane) (accessType : BufferAccessType)
    (memoryType : DspMemoryType) : BufferList × Int32 :=
  let buffers := list.buffers ++ [planeBuffer plane accessType memoryType]
  (⟨buffers⟩, Int32.ofNat (buffers.length - 1))

/-- The ioctl buffer that `BufferList::add_buffer` makes of a block of user memory. -/
def userBuffer (buffer : UInt64) (size : UInt64) (accessType : BufferAccessType) : XrpIoctlBuffer where
  flags := accessType.flags
  size := size.toUInt32
  memoryType := 0
  handle := buffer

/-- `BufferList::add_buffer` -/
def BufferList.addBuffer (list : BufferList) (buffer : UInt64) (size : UInt64)
    (accessType : BufferAccessType) : BufferList × Int32 :=
  let buffers := list.buffers ++ [userBuffer buffer size accessType]
  (⟨buffers⟩, Int32.ofNat (buffers.length - 1))

/-- A block of user memory is appended, and its index is the number of buffers before it. -/
theorem BufferList.addBuffer_eq (list : BufferList) (buffer size : UInt64) (accessType : BufferAccessType) :
    list.addBuffer buffer size accessType =
      (⟨list.buffers ++ [userBuffer buffer size accessType]⟩, Int32.ofNat list.buffers.length) := by
  simp [addBuffer]

/-- The entry of a plane is the last one of the list. -/
theorem BufferList.getLast?_addPlane (list : BufferList) (plane : DspDataPlane)
    (accessType : BufferAccessType) (memory : DspMemoryType) :
    (list.addPlane plane accessType memory).1.buffers.getLast? =
    some (planeBuffer plane accessType memory) := by
  simp [addPlane]

/-- A pointer to one of the images of the request block. -/
inductive ImageSlot
  | cropSrc
  | cropDst
  | blendBackground
  | blendOverlay (i : Fin maxBlendOverlays)
  | blurImage
  | convertSrc
  | convertDst
  | dewarpSrc
  | dewarpDst
  | multiSrc
  | multiDst (i : Fin interfaceMultiResizeOutputsCount)
  deriving DecidableEq, Repr

/-- The image that a pointer points to. -/
def ImageSlot.get (request : ImagingRequest) : ImageSlot → ImageProperties
  | cropSrc => request.cropAndResizeArgs.src
  | cropDst => request.cropAndResizeArgs.dst
  | blendBackground => request.blendArgs.background
  | blendOverlay i => request.blendArgs.overlays[i].overlay
  | blurImage => request.blurArgs.image
  | convertSrc => request.convertFormatArgs.src
  | convertDst => request.convertFormatArgs.dst
  | dewarpSrc => request.dewarpArgs.src
  | dewarpDst => request.dewarpArgs.dst
  | multiSrc => request.multiCropAndResizeArgs.src
  | multiDst i => request.multiCropAndResizeArgs.dst[i]

/-- Write the image that a pointer points to. -/
def ImageSlot.set (request : ImagingRequest) (image : ImageProperties) : ImageSlot → ImagingRequest
  | cropSrc => { request with cropAndResizeArgs.src := image }
  | cropDst => { request with cropAndResizeArgs.dst := image }
  | blendBackground => { request with blendArgs.background := image }
  | blendOverlay i =>
    let overlays := request.blendArgs.overlays
    { request with blendArgs.overlays := overlays.set i { overlays[i] with overlay := image } }
  | blurImage => { request with blurArgs.image := image }
  | convertSrc => { request with convertFormatArgs.src := image }
  | convertDst => { request with convertFormatArgs.dst := image }
  | dewarpSrc => { request with dewarpArgs.src := image }
  | dewarpDst => { request with dewarpArgs.dst := image }
  | multiSrc => { request with multiCropAndResizeArgs.src := image }
  | multiDst i =>
    { request with multiCropAndResizeArgs.dst := request.multiCropAndResizeArgs.dst.set i image }

/-- `&in_data->blend_args.overlays[i].overlay` -/
def overlaySlot (i : ℕ) : Call ImageSlot :=
  if h : i < maxBlendOverlays then .ok (.blendOverlay ⟨i, h⟩) else .error (.fault .wireIndex)

/-- `&in_data->multi_crop_and_resize_args.dst[i]` -/
def multiDstSlot (i : ℕ) : Call ImageSlot :=
  if h : i < interfaceMultiResizeOutputsCount then .ok (.multiDst ⟨i, h⟩) else .error (.fault .wireIndex)

/-- `command_image_t` -/
structure CommandImage where
  userApiImage : Ptr DspImageProperties
  dspApiImage : ImageSlot
  accessType : BufferAccessType

/-- One round of the inner loop of `add_images_to_buffer_list`. -/
def addPlaneToBufferList (command : CommandImage) (image : DspImageProperties) (j : ℕ)
    (state : BufferList × ImageProperties) : Call (BufferList × ImageProperties) := do
  let plane ← deref (image.planes.elem j)
  let (bufferList, index) := state.1.addPlane plane command.accessType image.memory
  let planes ← writeAt state.2.planes j fun dst => { dst with xrpBufferIndex := index.toUInt32 }
  return (bufferList, { state.2 with planes })

/-- One round of the outer loop of `add_images_to_buffer_list`. -/
def addImageToBufferList (bufferList : BufferList) (command : CommandImage) (request : ImagingRequest) :
    Call (BufferList × ImagingRequest) := do
  let dspImage ← convertImage command.userApiImage (command.dspApiImage.get request)
  let image ← deref command.userApiImage
  let (bufferList, dspImage) ← forRange dspImage.planesCount.toNat
    (addPlaneToBufferList command image) (bufferList, dspImage)
  return (bufferList, command.dspApiImage.set request dspImage)

/-- `add_images_to_buffer_list`, returning the list and the request block it has written to. -/
def addImagesToBufferList : BufferList → List CommandImage → ImagingRequest →
    Call (BufferList × ImagingRequest)
  | bufferList, [], request => .ok (bufferList, request)
  | bufferList, command :: rest, request => do
    let (bufferList, request) ← addImageToBufferList bufferList command request
    addImagesToBufferList bufferList rest request

/-- The arguments with which an operation reaches `driver_send_command`. -/
structure Submission where
  fd : Int32
  request : ImagingRequest
  bufferList : BufferList

/-- `send_command` with a buffer list, up to its call of `driver_send_command`. -/
def sendCommand (device : Ptr DspDevice) (bufferList : BufferList) (inData : ImagingRequest) :
    Call Submission := do
  let device ← deref device
  return ⟨device.fd, inData, bufferList⟩

/-- `send_command` with a list of images, up to its call of `driver_send_command`. -/
def sendCommandImages (device : Ptr DspDevice) (images : List CommandImage) (inData : ImagingRequest) :
    Call Submission := do
  let (bufferList, inData) ← addImagesToBufferList {} images inData
  sendCommand device bufferList inData

/-- How a call of the library ends, and the `XRP_IOCTL_QUEUE` calls it has made by then. -/
structure Outcome where
  result : Except Fault DspStatus
  ioctls : List (Int32 × XrpIoctlQueue)

/-- `IMAGING_NSID` -/
def imagingNsid : String := "imagingnamespace"

/-- `XRP_QUEUE_FLAG_NSID` -/
def xrpQueueFlagNsid : UInt32 := 0x4

/-- `sizeof(imaging_request_t)` -/
def sizeofImagingRequest : UInt64 := 3672

/-- `sizeof(perf_info_t)` -/
def sizeofPerfInfo : UInt64 := 48

/-- `sizeof(struct xrp_ioctl_buffer)` -/
def sizeofXrpIoctlBuffer : UInt64 := 24

/-- The ioctl argument that `driver_send_command` builds. -/
def ioctlQueue (nsid : Option String) (bufferList : BufferList) (inData : ImagingRequest)
    (inDataSize outData outDataSize : UInt64) : XrpIoctlQueue where
  flags := if nsid.isSome then xrpQueueFlagNsid else 0
  inDataSize := inDataSize.toUInt32
  outDataSize := outDataSize.toUInt32
  bufferSize := (UInt64.ofNat bufferList.buffers.length * sizeofXrpIoctlBuffer).toUInt32
  inData
  outDataAddr := outData
  buffers := bufferList.buffers
  nsid

/-- `driver_send_command`, on a system where `ioctl` answers as given. -/
def driverSendCommand (ioctl : Int32 → XrpIoctlQueue → Int32) (fd : Int32) (nsid : Option String)
    (bufferList : BufferList) (inData : ImagingRequest) (inDataSize outData outDataSize : UInt64) :
    Outcome :=
  let queue := ioctlQueue nsid bufferList inData inDataSize outData outDataSize
  if ioctl fd queue < 0 then ⟨.ok .runCommandFailed, [(fd, queue)]⟩ else ⟨.ok .success, [(fd, queue)]⟩

/-- The ioctl argument of a submission. -/
def Submission.queue (submission : Submission) (perfInfo : UInt64) : XrpIoctlQueue :=
  ioctlQueue (some imagingNsid) submission.bufferList submission.request sizeofImagingRequest perfInfo
    (if perfInfo ≠ 0 then sizeofPerfInfo else 0)

/-- The rest of an operation: a stop is its status, a submission goes to the driver. -/
def Call.finish (ioctl : Int32 → XrpIoctlQueue → Int32) (perfInfo : UInt64) :
    Call Submission → Outcome
  | .error (.status status) => ⟨.ok status, []⟩
  | .error (.fault fault) => ⟨.error fault, []⟩
  | .ok submission =>
    driverSendCommand ioctl submission.fd (some imagingNsid) submission.bufferList submission.request
      sizeofImagingRequest perfInfo (if perfInfo ≠ 0 then sizeofPerfInfo else 0)

/-- A submission issues one ioctl and returns the status that goes with its answer. -/
theorem Call.finish_ok (ioctl : Int32 → XrpIoctlQueue → Int32) (perfInfo : UInt64)
    (submission : Submission) :
    Call.finish ioctl perfInfo (.ok submission) =
      ⟨.ok (if ioctl submission.fd (submission.queue perfInfo) < 0 then .runCommandFailed else .success),
        [(submission.fd, submission.queue perfInfo)]⟩ := by
  by_cases h : ioctl submission.fd (submission.queue perfInfo) < 0
  · rw [if_pos h]
    exact if_pos h
  · rw [if_neg h]
    exact if_neg h

/-- Only a submission issues an ioctl, and the argument of that ioctl is the one built from it. -/
theorem Call.mem_ioctls_finish {ioctl : Int32 → XrpIoctlQueue → Int32} {perfInfo : UInt64}
    {call : Call Submission} {fd : Int32} {queue : XrpIoctlQueue} :
    (fd, queue) ∈ (call.finish ioctl perfInfo).ioctls ↔
      ∃ submission, call = .ok submission ∧ fd = submission.fd ∧ queue = submission.queue perfInfo := by
  cases call with
  | error stop => cases stop <;> simp [Call.finish]
  | ok submission => simp [Call.finish_ok]

/-- The argument of the ioctl points to the request block. -/
@[simp] theorem Submission.queue_inData (submission : Submission) (perfInfo : UInt64) :
    (submission.queue perfInfo).inData = submission.request := rfl

/-- The argument of the ioctl points to the entries of the buffer list. -/
@[simp] theorem Submission.queue_buffers (submission : Submission) (perfInfo : UInt64) :
    (submission.queue perfInfo).buffers = submission.bufferList.buffers := rfl

/-- The sizes in the argument of an ioctl are those of a whole request block and of its table of buffers. -/
structure XrpIoctlQueue.SizesExact (queue : XrpIoctlQueue) : Prop where
  inDataSize : queue.inDataSize.toNat = sizeofImagingRequest.toNat
  bufferSize : queue.bufferSize.toNat = queue.buffers.length * sizeofXrpIoctlBuffer.toNat

/-- A table of less than `2 ^ 27` buffers has a size that fits its 32 bits. -/
theorem Submission.queue_sizesExact (submission : Submission) (perfInfo : UInt64)
    (h : submission.bufferList.buffers.length < 2 ^ 27) : (submission.queue perfInfo).SizesExact := by
  have hcount : (UInt64.ofNat submission.bufferList.buffers.length).toNat =
      submission.bufferList.buffers.length :=
    UInt64.toNat_ofNat_of_lt' (h.trans (by decide))
  have hsize : sizeofXrpIoctlBuffer.toNat = 24 := rfl
  constructor
  · rfl
  · have hbytes : (submission.queue perfInfo).bufferSize =
        (UInt64.ofNat submission.bufferList.buffers.length * sizeofXrpIoctlBuffer).toUInt32 := rfl
    rw [hbytes, UInt64.toNat_toUInt32, UInt64.toNat_mul, hcount, hsize, Submission.queue_buffers]
    omega

end HailoDsp
