import HailoDsp.Xrp.Objects

/-!
# The functions of the XRP library

The functions of `xrp_host_common.c`, `xrp_threaded_queue.c` and `hosted/xrp_linux.c` as programs of
atomic operations. What is done while a mutex is held is one operation, a loop around a condition
variable is an operation that waits.

`xrp_wait_any` and the loop of `xrp_impl_broadcast_event` over the groups of an event are left out;
they are the subject of `HailoDsp.Xrp.WaitAny`. Left out is also a `pthread_create` that fails,
`XRP_IOCTL_FREE` is taken to succeed, and `xrp_sync_device_buffer` is called for device buffers only.
-/

namespace HailoDsp.Xrp

open CountedHeap ThreadPool

section Objects

variable {α β : Type}

/-- Read and write a part of the object behind a pointer. -/
def access (get : XrpObject → Option α) (put : α → XrpObject) (a : ℕ) (f : α → β × α) : XrpProg β :=
  perform (.access a fun object =>
    match get object with
    | some content => .done (f content).1 (put (f content).2)
    | none => .fault)

/-- The device behind a pointer. -/
def XrpObject.asDevice : XrpObject → Option XrpDevice
  | .device d => some d
  | _ => none

/-- The buffer behind a pointer. -/
def XrpObject.asBuffer : XrpObject → Option XrpBuffer
  | .buffer b => some b
  | _ => none

/-- The buffer group behind a pointer. -/
def XrpObject.asGroup : XrpObject → Option XrpBufferGroup
  | .group g => some g
  | _ => none

/-- The queue behind a pointer. -/
def XrpObject.asQueue : XrpObject → Option XrpQueue
  | .queue q => some q
  | _ => none

/-- The event behind a pointer. -/
def XrpObject.asEvent : XrpObject → Option XrpEvent
  | .event e => some e
  | _ => none

/-- The variable behind a pointer. -/
def XrpObject.asVariable : XrpObject → Option Bool
  | .variable exit => some exit
  | _ => none

/-- Read and write a buffer. -/
def atBuffer (a : ℕ) (f : XrpBuffer → β × XrpBuffer) : XrpProg β := access XrpObject.asBuffer .buffer a f

/-- A critical section on a buffer group. -/
def atGroup (a : ℕ) (f : XrpBufferGroup → β × XrpBufferGroup) : XrpProg β :=
  access XrpObject.asGroup .group a f

/-- A critical section on a queue. -/
def atQueue (a : ℕ) (f : XrpQueue → β × XrpQueue) : XrpProg β := access XrpObject.asQueue .queue a f

/-- A critical section on an event. -/
def atEvent (a : ℕ) (f : XrpEvent → β × XrpEvent) : XrpProg β := access XrpObject.asEvent .event a f

/-- Read and write a variable. -/
def atVariable (a : ℕ) (f : Bool → β × Bool) : XrpProg β := access XrpObject.asVariable .variable a f

/-- Follow a pointer, which must not be NULL. -/
def deref (p : Option α) : XrpProg α := perform (.inspect fun _ => p)

/-- `device->impl.fd` -/
def fdOf (objects : ℕ → Option XrpObject) (device : ℕ) : Option ℕ := do
  let device ← (← objects device).asDevice
  return device.fd

/-- `if (p) f(p)` -/
def ifGiven (p : Option α) (f : α → XrpProg Unit) : XrpProg Unit :=
  match p with
  | some content => f content
  | none => return

/-- The descriptor of the device of a buffer, and what the driver calls the buffer: it has 32 bits
for the size. -/
def blockOf (objects : ℕ → Option XrpObject) (buffer : ℕ) : Option (ℕ × ℕ × ℕ) := do
  let b ← (← objects buffer).asBuffer
  let fd ← fdOf objects b.device
  return (fd, b.ptr, b.size % 2 ^ 32)

/-- `free` -/
def freeMemory (p : Option ℕ) : XrpProg Unit :=
  match p with
  | some p => perform (.command fun _ => some (.free p))
  | none => return

end Objects

section Devices

/-- `xrp_open_device`: the descriptor is not closed when there is no memory for the device. -/
def xrpOpenDevice (idx : UInt32) : XrpProg (XrpStatus × Option ℕ) := do
  match ← perform (.command fun _ => some (.openDevice idx)) with
  | none => return (.failure, none)
  | some fd =>
    match ← perform (.alloc (.device ⟨0⟩)) with
    | none =>
      perform (.command fun _ => some (.forget fd))
      return (.failure, none)
    | some device =>
      access XrpObject.asDevice .device device fun _ => ((), ⟨fd⟩)
      return (.success, some device)

/-- `xrp_retain_device` -/
def xrpRetainDevice (device : ℕ) : XrpProg Unit := perform (.retain device)

/-- `xrp_impl_release_device` -/
def xrpImplReleaseDevice (device : ℕ) : XrpProg Unit :=
  perform (.command fun objects => (fdOf objects device).map .close)

/-- `xrp_release_device` -/
def xrpReleaseDevice (device : ℕ) : XrpProg Unit := do
  if ← perform (.release device) then
    xrpImplReleaseDevice device
    perform (.free device)

end Devices

section Buffers

/-- `xrp_impl_create_device_buffer` -/
def xrpImplCreateDeviceBuffer (device buffer size : ℕ) : XrpProg XrpStatus := do
  xrpRetainDevice device
  atBuffer buffer fun b => ((), { b with device := device })
  match ← perform (.command fun objects =>
      (blockOf objects buffer).map fun block => .ioctlAlloc block.1 (size % 2 ^ 32)) with
  | none =>
    xrpReleaseDevice (← atBuffer buffer fun b => (b.device, b))
    return .failure
  | some addr =>
    atBuffer buffer fun b => ((), { b with ptr := addr, size := size })
    return .success

/-- `xrp_impl_release_device_buffer` -/
def xrpImplReleaseDeviceBuffer (buffer : ℕ) : XrpProg Unit := do
  perform (.command fun objects =>
    (blockOf objects buffer).map fun block => .ioctlFree block.1 block.2.1 block.2.2)
  xrpReleaseDevice (← atBuffer buffer fun b => (b.device, b))

/-- `xrp_create_buffer` -/
def xrpCreateBuffer (device : Option ℕ) (size : ℕ) (hostPtr : Option ℕ) :
    XrpProg (XrpStatus × Option ℕ) := do
  if hostPtr = none ∧ device = none then
    return (.failure, none)
  match ← perform (.alloc (.buffer ⟨0, .host, 0, 0, 0, 0⟩)) with
  | none => return (.failure, none)
  | some buf =>
    match hostPtr with
    | none =>
      atBuffer buf fun b => ((), { b with type := .device })
      let s ← xrpImplCreateDeviceBuffer (← deref device) buf size
      if s ≠ .success then
        perform (.free buf)
        return (s, none)
      return (s, some buf)
    | some ptr =>
      atBuffer buf fun b => ((), { b with type := .host, ptr := ptr, size := size })
      return (.success, some buf)

/-- `xrp_retain_buffer` -/
def xrpRetainBuffer (buffer : ℕ) : XrpProg Unit := perform (.retain buffer)

/-- `xrp_release_buffer` -/
def xrpReleaseBuffer (buffer : ℕ) : XrpProg Unit := do
  if ← perform (.release buffer) then
    if (← atBuffer buffer fun b => (b.type, b)) = .device then
      xrpImplReleaseDeviceBuffer buffer
    perform (.free buffer)

/-- `xrp_map_buffer` -/
def xrpMapBuffer (buffer offset size : ℕ) (mapFlags : XrpAccessFlags) : XrpProg (XrpStatus × Option ℕ) := do
  let bufferSize ← atBuffer buffer fun b => (b.size, b)
  if offset ≤ bufferSize ∧ size ≤ bufferSize - offset then
    perform (.retain buffer)
    atBuffer buffer fun b => ((), { b with mapCount := b.mapCount + 1 })
    atBuffer buffer fun b => ((), { b with mapFlags := b.mapFlags ||| mapFlags })
    let ptr ← atBuffer buffer fun b => (b.ptr, b)
    return (.success, some (ptr + offset))
  return (.failure, none)

/-- `xrp_unmap_buffer` -/
def xrpUnmapBuffer (buffer p : ℕ) : XrpProg XrpStatus := do
  let (ptr, size) ← atBuffer buffer fun b => ((b.ptr, b.size), b)
  if ptr ≤ p ∧ p - ptr ≤ size then
    atBuffer buffer fun b => ((), { b with mapCount := b.mapCount - 1 })
    xrpReleaseBuffer buffer
    return .success
  return .failure

/-- `xrp_sync_device_buffer` -/
def xrpSyncDeviceBuffer (buffer : ℕ) (direction : XrpAccessFlags) (accessTime : ℕ) : XrpProg XrpStatus := do
  if ← perform (.command fun objects =>
      (blockOf objects buffer).map fun block =>
        .ioctlSync block.1 block.2.1 block.2.2 direction accessTime) then
    return .success
  return .failure

/-- `enum xrp_buffer_info` -/
inductive XrpBufferInfo
  | size
  | hostPointer
  | other (info : ℕ)

/-- `xrp_buffer_get_info`: what is copied to the caller, if it has provided as many bytes. -/
def xrpBufferGetInfo (buffer : ℕ) (info : XrpBufferInfo) (outSz : ℕ) : XrpProg (XrpStatus × Option ℕ) :=
  atBuffer buffer fun b =>
    let value : Option ℕ := match info with
      | .size => some b.size
      | .hostPointer => some (if b.type ≠ .host then 0 else b.ptr)
      | .other _ => none
    (if value ≠ none ∧ outSz = 8 then (.success, value) else (.failure, none), b)

end Buffers

section Groups

/-- `xrp_create_buffer_group` -/
def xrpCreateBufferGroup : XrpProg (XrpStatus × Option ℕ) := do
  match ← perform (.alloc (.group ⟨0, []⟩)) with
  | some group => return (.success, some group)
  | none => return (.failure, none)

/-- `xrp_retain_buffer_group` -/
def xrpRetainBufferGroup (group : ℕ) : XrpProg Unit := perform (.retain group)

/-- The loop of `xrp_release_buffer_group`. -/
def releaseBuffers : List XrpBufferGroupRecord → XrpProg Unit
  | [] => return
  | record :: rest => do
    xrpReleaseBuffer record.buffer
    releaseBuffers rest

/-- `xrp_release_buffer_group` -/
def xrpReleaseBufferGroup (group : ℕ) : XrpProg Unit := do
  if ← perform (.release group) then
    releaseBuffers (← atGroup group fun g => (g.buffer, g))
    perform (.free group)

/-- `realloc` to the next capacity if the array is full, and one record more. -/
def XrpBufferGroup.add (group : XrpBufferGroup) (record : XrpBufferGroupRecord) (memory : Bool) :
    Option XrpBufferGroup :=
  if group.buffer.length = group.capacity then
    if memory then some ⟨(group.capacity + 2) * 2, group.buffer ++ [record]⟩ else none
  else some { group with buffer := group.buffer ++ [record] }

/-- `xrp_add_buffer_to_group`: whether there is memory, should it be needed, is asked beforehand. -/
def xrpAddBufferToGroup (group buffer : ℕ) (accessFlags : XrpAccessFlags) :
    XrpProg (XrpStatus × Option ℕ) := do
  let memory ← perform (.command fun _ => some (.realloc 0))
  perform (.accessRetaining group fun object =>
    match object with
    | .group g =>
      match g.add ⟨buffer, accessFlags⟩ memory with
      | some g' => ((.success, some g.buffer.length), .group g', some buffer)
      | none => ((.failure, none), .group g, none)
    | _ => ((.failure, none), object, none))

/-- The critical section of `xrp_set_buffer_in_group`, with the buffer that is to be released. -/
def XrpBufferGroup.set (group : XrpBufferGroup) (index : ℕ) (record : XrpBufferGroupRecord) :
    (XrpStatus × ℕ) × XrpBufferGroup :=
  match group.buffer[index]? with
  | some old => ((.success, old.buffer), { group with buffer := group.buffer.set index record })
  | none => ((.failure, record.buffer), group)

/-- `xrp_set_buffer_in_group` -/
def xrpSetBufferInGroup (group index buffer : ℕ) (accessFlags : XrpAccessFlags) : XrpProg XrpStatus := do
  xrpRetainBuffer buffer
  let (status, oldBuffer) ← atGroup group fun g => g.set index ⟨buffer, accessFlags⟩
  xrpReleaseBuffer oldBuffer
  return status

/-- `xrp_get_buffer_from_group` -/
def xrpGetBufferFromGroup (group idx : ℕ) : XrpProg (XrpStatus × Option ℕ) :=
  perform (.accessRetaining group fun object =>
    match object with
    | .group g =>
      match g.buffer[idx]? with
      | some record => ((.success, some record.buffer), object, some record.buffer)
      | none => ((.failure, none), object, none)
    | _ => ((.failure, none), object, none))

/-- `enum xrp_buffer_group_info` -/
inductive XrpBufferGroupInfo
  | flags
  | size
  | other (info : ℕ)

/-- `xrp_buffer_group_get_info`: what is copied to the caller, if it has provided as many bytes. -/
def xrpBufferGroupGetInfo (group : ℕ) (info : XrpBufferGroupInfo) (idx outSz : ℕ) :
    XrpProg (XrpStatus × Option ℕ) :=
  atGroup group fun g =>
    let value : Option (ℕ × ℕ) := match info with
      | .flags => g.buffer[idx]?.map fun record => (4, record.accessFlags.toNat)
      | .size => some (8, g.buffer.length)
      | .other _ => none
    (match value with
      | some (sz, content) => if sz = outSz then (.success, some content) else (.failure, none)
      | none => (.failure, none), g)

end Groups

section Queues

/-- `xrp_queue_init` and `xrp_impl_create_queue` -/
def xrpImplCreateQueue (queue : ℕ) : XrpProg XrpStatus := do
  perform (.spawn queue)
  return .success

/-- `xrp_create_nsp_queue` -/
def xrpCreateNspQueue (device : ℕ) (nsid : Option (Vector UInt8 16)) (priority : Int32) :
    XrpProg (XrpStatus × Option ℕ) := do
  xrpRetainDevice device
  match ← perform (.alloc (.queue ⟨0, false, 0, Vector.replicate 16 0, [], false, 0⟩)) with
  | none =>
    xrpReleaseDevice device
    return (.failure, none)
  | some queue =>
    atQueue queue fun q => ((), { q with device := device })
    ifGiven nsid fun nsid => atQueue queue fun q => ((), { q with useNsid := true, nsid := nsid })
    atQueue queue fun q => ((), { q with priority := priority })
    let status ← xrpImplCreateQueue queue
    return (status, some queue)

/-- `xrp_create_ns_queue` -/
def xrpCreateNsQueue (device : ℕ) (nsid : Option (Vector UInt8 16)) : XrpProg (XrpStatus × Option ℕ) :=
  xrpCreateNspQueue device nsid 0

/-- `xrp_create_queue` -/
def xrpCreateQueue (device : ℕ) : XrpProg (XrpStatus × Option ℕ) := xrpCreateNsQueue device none

/-- `xrp_retain_queue` -/
def xrpRetainQueue (queue : ℕ) : XrpProg Unit := perform (.retain queue)

/-- The end of the thread in `xrp_queue_destroy`: it is waited for, unless it is the caller. -/
def endThread (queue : ℕ) : XrpProg Unit := do
  if !(← perform (.join queue)) then
    let syncExit ← atQueue queue fun q => (q.syncExit, q)
    atVariable syncExit fun _ => ((), true)
    perform (.detach queue)

/-- `xrp_queue_destroy`, which is also `xrp_impl_release_queue`. Where the source prints that it is
releasing a non-empty queue, the requests are noted down. -/
def xrpQueueDestroy (queue : ℕ) : XrpProg Unit := do
  atQueue queue fun q => ((), { q with exit := true })
  endThread queue
  let requests ← atQueue queue fun q => (q.requestQueue, q)
  if requests ≠ [] then
    perform (.command fun _ => some (.abandon queue requests))

/-- `xrp_release_queue` -/
def xrpReleaseQueue (queue : ℕ) : XrpProg Unit := do
  if ← perform (.release queue) then
    xrpQueueDestroy queue
    xrpReleaseDevice (← atQueue queue fun q => (q.device, q))
    perform (.free queue)

/-- The critical section of `xrp_queue_push`. -/
def XrpQueue.push (queue : XrpQueue) (rq : XrpRequest) : XrpQueue :=
  { queue with requestQueue := queue.requestQueue ++ [rq] }

/-- `xrp_queue_push` -/
def xrpQueuePush (queue : ℕ) (rq : XrpRequest) : XrpProg Unit := atQueue queue fun q => ((), q.push rq)

end Queues

section Events

/-- `xrp_event_create` -/
def xrpEventCreate : XrpProg (Option ℕ) := do
  match ← perform (.alloc (.event ⟨0, .success⟩)) with
  | none => return none
  | some event =>
    atEvent event fun e => ((), { e with status := .pending })
    return some event

/-- `xrp_retain_event` -/
def xrpRetainEvent (event : ℕ) : XrpProg Unit := perform (.retain event)

/-- `xrp_release_event` -/
def xrpReleaseEvent (event : ℕ) : XrpProg Unit := do
  if ← perform (.release event) then
    xrpReleaseQueue (← atEvent event fun e => (e.queue, e))
    perform (.free event)

/-- `xrp_event_status` -/
def xrpEventStatus (event : ℕ) : XrpProg XrpStatus := atEvent event fun e => (e.status, e)

/-- `xrp_wait` -/
def xrpWait (event : ℕ) : XrpProg XrpStatus := do
  perform (.access event fun object =>
    match object.asEvent with
    | some e => if e.status = .pending then .wait else .done () object
    | none => .fault)
  return .success

/-- `xrp_impl_broadcast_event` -/
def xrpImplBroadcastEvent (event : ℕ) (status : XrpStatus) : XrpProg Unit :=
  atEvent event fun e => ((), { e with status := status })

end Events

section Commands

/-- The array `ioctl_buffer` of `xrp_run_command_ioctl`. -/
def ioctlBuffers (group : ℕ) (objects : ℕ → Option XrpObject) : Option (List XrpIoctlBuffer) := do
  let group ← (← objects group).asGroup
  group.buffer.mapM fun record => do
    let buffer ← (← objects record.buffer).asBuffer
    return ⟨record.accessFlags, buffer.size % 2 ^ 32, buffer.ptr⟩

/-- The structure `ioctl_queue` of `xrp_run_command_ioctl`. -/
def XrpQueue.ioctlArgs (queue : XrpQueue) (inData : List UInt8) (outData outDataSize : ℕ)
    (buffers : List XrpIoctlBuffer) : XrpIoctlQueue where
  flags := (if queue.useNsid then (0x4 : UInt32) else 0) ||| ((queue.priority.toUInt32 <<< 8) &&& 0xff00)
  inData := inData
  inDataSize := inData.length % 2 ^ 32
  outData := outData
  outDataSize := outDataSize % 2 ^ 32
  bufferSize := buffers.length * 16 % 2 ^ 32
  buffers := buffers
  nsid := queue.nsid

/-- The command of `xrp_run_command_ioctl`. -/
def ioctlQueue (queue : ℕ) (inData : List UInt8) (outData outDataSize : ℕ) (buffers : List XrpIoctlBuffer)
    (objects : ℕ → Option XrpObject) : Option (XrpCmd Bool) := do
  let queue ← (← objects queue).asQueue
  let fd ← fdOf objects queue.device
  return .ioctlQueue fd (queue.ioctlArgs inData outData outDataSize buffers)

/-- The records of a group, if there is one. -/
def ioctlRecords (bufferGroup : Option ℕ) : XrpProg (List XrpIoctlBuffer) :=
  match bufferGroup with
  | some group => perform (.inspect (ioctlBuffers group))
  | none => return []

/-- `xrp_run_command_ioctl` -/
def xrpRunCommandIoctl (queue : ℕ) (inData : List UInt8) (outData outDataSize : ℕ)
    (bufferGroup : Option ℕ) : XrpProg XrpStatus := do
  let buffers ← ioctlRecords bufferGroup
  if ← perform (.command (ioctlQueue queue inData outData outDataSize buffers)) then
    return .success
  return .failure

/-- `xrp_request_process` -/
def xrpRequestProcess (rq : XrpRequest) (queue : ℕ) : XrpProg Unit := do
  let status ← xrpRunCommandIoctl queue rq.inDataBytes rq.outData rq.outDataSize rq.bufferGroup
  ifGiven rq.bufferGroup xrpReleaseBufferGroup
  ifGiven rq.event fun event => do
    xrpImplBroadcastEvent event status
    xrpReleaseEvent event
  freeMemory rq.inData
  freeMemory (some rq.item)

/-- The loop in the critical section of `xrp_queue_process`. -/
def XrpQueue.next (queue : XrpQueue) : Reply XrpObject (Option XrpRequest) :=
  match queue.requestQueue with
  | rq :: rest => .done (some rq) (.queue { queue with requestQueue := rest })
  | [] => if queue.exit then .done none (.queue queue) else .wait

/-- `xrp_queue_process`, the body of the thread of a queue, which runs it again as long as it
returns `true`. -/
def xrpQueueProcess (queue : ℕ) : XrpProg Bool := do
  let exit ← perform (.place (.variable false))
  atQueue queue fun q => ((), { q with syncExit := exit })
  match ← perform (.access queue fun object =>
      match object.asQueue with
      | some q => q.next
      | none => .fault) with
  | none =>
    -- the variable goes out of scope
    perform (.free exit)
    return false
  | some rq =>
    xrpRequestProcess rq queue
    let again ← atVariable exit fun exit => (!exit, exit)
    perform (.free exit)
    return again

/-- The event of `xrp_enqueue_command`, if the caller wants one. -/
def eventFor (evt : Bool) : XrpProg (Option ℕ) := if evt then xrpEventCreate else return none

/-- `xrp_enqueue_command`, with an event if `evt` is set. -/
def xrpEnqueueCommand (queue : ℕ) (inData : List UInt8) (outData outDataSize : ℕ)
    (bufferGroup : Option ℕ) (evt : Bool) : XrpProg (XrpStatus × Option ℕ) := do
  let rq ← perform (.command fun _ => some (.malloc 56))
  let inDataCopy ← perform (.command fun _ => some (.malloc inData.length))
  match rq with
  | none =>
    freeMemory inDataCopy
    freeMemory none
    return (.failure, none)
  | some item =>
    if inData.length ≠ 0 ∧ inDataCopy = none then
      freeMemory inDataCopy
      freeMemory (some item)
      return (.failure, none)
    let event ← eventFor evt
    if evt ∧ event = none then
      freeMemory inDataCopy
      freeMemory (some item)
      return (.failure, none)
    ifGiven event fun event => do
      xrpRetainQueue queue
      atEvent event fun e => ((), { e with queue := queue })
      xrpRetainEvent event
    ifGiven bufferGroup xrpRetainBufferGroup
    xrpQueuePush queue ⟨item, inDataCopy, inData, outData, outDataSize, bufferGroup, event⟩
    return (.success, event)

/-- `xrp_run_command_sync` -/
def xrpRunCommandSync (queue : ℕ) (inData : List UInt8) (outData outDataSize : ℕ)
    (bufferGroup : Option ℕ) : XrpProg XrpStatus := do
  match ← xrpEnqueueCommand queue inData outData outDataSize bufferGroup true with
  | (.success, evt) =>
    let evt ← deref evt
    let _ ← xrpWait evt
    let status ← xrpEventStatus evt
    xrpReleaseEvent evt
    return status
  | (s, _) => return s

end Commands

end HailoDsp.Xrp
