import HailoDsp.Xrp.CommandCalls

/-!
# Clients of the XRP library

What each function takes from its caller and what it gives back, in terms of the objects that the
caller may go on to use. A client is disciplined if it has what each of its calls takes, and has
given everything back in the end; the library is then verified for it.

The clients do not call `xrp_wait_any`, and synchronise device buffers only; their queues get their
threads, and the driver takes back every block.
-/

namespace HailoDsp.Xrp

open CountedHeap ThreadPool

/-- The calls of a client, and the two ways to pass objects to other clients. -/
inductive XrpCall : Type → Type 1
  | openDevice (idx : UInt32) : XrpCall (XrpStatus × Option ℕ)
  | retainDevice (device : ℕ) : XrpCall Unit
  | releaseDevice (device : ℕ) : XrpCall Unit
  | createBuffer (device : Option ℕ) (size : ℕ) (hostPtr : Option ℕ) : XrpCall (XrpStatus × Option ℕ)
  | retainBuffer (buffer : ℕ) : XrpCall Unit
  | releaseBuffer (buffer : ℕ) : XrpCall Unit
  | mapBuffer (buffer offset size : ℕ) (mapFlags : XrpAccessFlags) : XrpCall (XrpStatus × Option ℕ)
  | unmapBuffer (buffer p : ℕ) : XrpCall XrpStatus
  | bufferGetInfo (buffer : ℕ) (info : XrpBufferInfo) (outSz : ℕ) : XrpCall (XrpStatus × Option ℕ)
  | syncDeviceBuffer (buffer : ℕ) (direction : XrpAccessFlags) (accessTime : ℕ) : XrpCall XrpStatus
  | createBufferGroup : XrpCall (XrpStatus × Option ℕ)
  | retainBufferGroup (group : ℕ) : XrpCall Unit
  | releaseBufferGroup (group : ℕ) : XrpCall Unit
  | addBufferToGroup (group buffer : ℕ) (accessFlags : XrpAccessFlags) : XrpCall (XrpStatus × Option ℕ)
  | setBufferInGroup (group index buffer : ℕ) (accessFlags : XrpAccessFlags) : XrpCall XrpStatus
  | getBufferFromGroup (group idx : ℕ) : XrpCall (XrpStatus × Option ℕ)
  | bufferGroupGetInfo (group : ℕ) (info : XrpBufferGroupInfo) (idx outSz : ℕ) :
      XrpCall (XrpStatus × Option ℕ)
  | createQueue (device : ℕ) : XrpCall (XrpStatus × Option ℕ)
  | createNsQueue (device : ℕ) (nsid : Option (Vector UInt8 16)) : XrpCall (XrpStatus × Option ℕ)
  | createNspQueue (device : ℕ) (nsid : Option (Vector UInt8 16)) (priority : Int32) :
      XrpCall (XrpStatus × Option ℕ)
  | retainQueue (queue : ℕ) : XrpCall Unit
  | releaseQueue (queue : ℕ) : XrpCall Unit
  | retainEvent (event : ℕ) : XrpCall Unit
  | releaseEvent (event : ℕ) : XrpCall Unit
  | eventStatus (event : ℕ) : XrpCall XrpStatus
  | wait (event : ℕ) : XrpCall XrpStatus
  | enqueueCommand (queue : ℕ) (inData : List UInt8) (outData outDataSize : ℕ) (bufferGroup : Option ℕ)
      (evt : Bool) : XrpCall (XrpStatus × Option ℕ)
  | runCommandSync (queue : ℕ) (inData : List UInt8) (outData outDataSize : ℕ) (bufferGroup : Option ℕ) :
      XrpCall XrpStatus
  | runCommandIoctl (queue : ℕ) (inData : List UInt8) (outData outDataSize : ℕ) (bufferGroup : Option ℕ) :
      XrpCall XrpStatus
  | post (handles : Multiset XrpHandle) : XrpCall Unit
  | fetch : XrpCall (Multiset XrpHandle)

/-- What is run for a call. -/
def XrpCall.prog {α : Type} : XrpCall α → XrpProg α
  | openDevice idx => xrpOpenDevice idx
  | retainDevice device => xrpRetainDevice device
  | releaseDevice device => xrpReleaseDevice device
  | createBuffer device size hostPtr => xrpCreateBuffer device size hostPtr
  | retainBuffer buffer => xrpRetainBuffer buffer
  | releaseBuffer buffer => xrpReleaseBuffer buffer
  | mapBuffer buffer offset size mapFlags => xrpMapBuffer buffer offset size mapFlags
  | unmapBuffer buffer p => xrpUnmapBuffer buffer p
  | bufferGetInfo buffer info outSz => xrpBufferGetInfo buffer info outSz
  | syncDeviceBuffer buffer direction accessTime => xrpSyncDeviceBuffer buffer direction accessTime
  | createBufferGroup => xrpCreateBufferGroup
  | retainBufferGroup group => xrpRetainBufferGroup group
  | releaseBufferGroup group => xrpReleaseBufferGroup group
  | addBufferToGroup group buffer accessFlags => xrpAddBufferToGroup group buffer accessFlags
  | setBufferInGroup group index buffer accessFlags => xrpSetBufferInGroup group index buffer accessFlags
  | getBufferFromGroup group idx => xrpGetBufferFromGroup group idx
  | bufferGroupGetInfo group info idx outSz => xrpBufferGroupGetInfo group info idx outSz
  | createQueue device => xrpCreateQueue device
  | createNsQueue device nsid => xrpCreateNsQueue device nsid
  | createNspQueue device nsid priority => xrpCreateNspQueue device nsid priority
  | retainQueue queue => xrpRetainQueue queue
  | releaseQueue queue => xrpReleaseQueue queue
  | retainEvent event => xrpRetainEvent event
  | releaseEvent event => xrpReleaseEvent event
  | eventStatus event => xrpEventStatus event
  | wait event => xrpWait event
  | enqueueCommand queue inData outData outDataSize bufferGroup evt =>
    xrpEnqueueCommand queue inData outData outDataSize bufferGroup evt
  | runCommandSync queue inData outData outDataSize bufferGroup =>
    xrpRunCommandSync queue inData outData outDataSize bufferGroup
  | runCommandIoctl queue inData outData outDataSize bufferGroup =>
    xrpRunCommandIoctl queue inData outData outDataSize bufferGroup
  | post handles => perform (.command fun _ => some (.post handles))
  | fetch => perform (.command fun _ => some .fetch)

/-- The handle behind a pointer that may be NULL. -/
def given (handle : ℕ → XrpHandle) (p : Option ℕ) : Multiset XrpHandle := p.elim 0 fun a => {handle a}

/-- The handles that a call takes and those that it gives. -/
inductive XrpCall.Spec : {α : Type} → XrpCall α → Multiset XrpHandle → (α → Multiset XrpHandle) → Prop
  | openDevice {idx} : Spec (.openDevice idx) 0 fun r => given .device r.2
  | retainDevice {a} : Spec (.retainDevice a) {.device a} fun _ => {.device a} + {.device a}
  | releaseDevice {a} : Spec (.releaseDevice a) {.device a} fun _ => 0
  | createBuffer {device size hostPtr} : Spec (.createBuffer device size (some hostPtr))
      (given .device device)
      fun r => given .device device + given .buffer r.2
  | createDeviceBuffer {device size} : Spec (.createBuffer device size none) (given .device device)
      fun r => given .device device + (given .onDevice r.2 + given .buffer r.2)
  | retainBuffer {a} : Spec (.retainBuffer a) {.buffer a} fun _ => {.buffer a} + {.buffer a}
  | retainDeviceBuffer {a} : Spec (.retainBuffer a) ({.buffer a} + {.onDevice a})
      fun _ => {.buffer a} + {.buffer a} + ({.onDevice a} + {.onDevice a})
  | releaseBuffer {a} : Spec (.releaseBuffer a) {.buffer a} fun _ => 0
  | mapBuffer {a offset size flags} : Spec (.mapBuffer a offset size flags) {.buffer a}
      fun r => {.buffer a} + r.2.elim 0 fun _ => {.buffer a}
  | unmapBuffer {a p} : Spec (.unmapBuffer a p) {.buffer a} fun r => if r = .success then 0 else {.buffer a}
  | bufferGetInfo {a info outSz} : Spec (.bufferGetInfo a info outSz) {.buffer a} fun _ => {.buffer a}
  | syncDeviceBuffer {a direction accessTime} : Spec (.syncDeviceBuffer a direction accessTime)
      ({.buffer a} + {.onDevice a}) fun _ => {.buffer a} + {.onDevice a}
  | createBufferGroup : Spec .createBufferGroup 0 fun r => given .group r.2
  | retainBufferGroup {a} : Spec (.retainBufferGroup a) {.group a} fun _ => {.group a} + {.group a}
  | releaseBufferGroup {a} : Spec (.releaseBufferGroup a) {.group a} fun _ => 0
  | addBufferToGroup {a b flags} : Spec (.addBufferToGroup a b flags) ({.buffer b} + {.group a})
      fun _ => {.buffer b} + {.group a}
  | setBufferInGroup {a index b flags} : Spec (.setBufferInGroup a index b flags) ({.buffer b} + {.group a})
      fun _ => {.buffer b} + {.group a}
  | getBufferFromGroup {a idx} : Spec (.getBufferFromGroup a idx) {.group a} fun r =>
    {.group a} + given .buffer r.2
  | bufferGroupGetInfo {a info idx outSz} : Spec (.bufferGroupGetInfo a info idx outSz) {.group a}
      fun _ => {.group a}
  | createQueue {a} : Spec (.createQueue a) {.device a} fun r => {.device a} + given .queue r.2
  | createNsQueue {a nsid} : Spec (.createNsQueue a nsid) {.device a} fun r =>
    {.device a} + given .queue r.2
  | createNspQueue {a nsid priority} : Spec (.createNspQueue a nsid priority) {.device a}
      fun r => {.device a} + given .queue r.2
  | retainQueue {a} : Spec (.retainQueue a) {.queue a} fun _ => {.queue a} + {.queue a}
  | releaseQueue {a} : Spec (.releaseQueue a) {.queue a} fun _ => 0
  | retainEvent {a q} : Spec (.retainEvent a) {.event a q} fun _ => {.event a q} + {.event a q}
  | releaseEvent {a q} : Spec (.releaseEvent a) {.event a q} fun _ => 0
  | eventStatus {a q} : Spec (.eventStatus a) {.event a q} fun _ => {.event a q}
  | wait {a q} : Spec (.wait a) {.event a q} fun _ => {.event a q}
  | enqueueCommand {q inData outData size group evt} :
      Spec (.enqueueCommand q inData outData size group evt)
      ({.queue q} + given .group group) fun r => {.queue q} + given .group group + given (.event · q) r.2
  | runCommandSync {q inData outData size group} : Spec (.runCommandSync q inData outData size group)
      ({.queue q} + given .group group) fun _ => {.queue q} + given .group group
  | runCommandIoctl {q inData outData size group} : Spec (.runCommandIoctl q inData outData size group)
      ({.queue q} + given .group group) fun _ => {.queue q} + given .group group
  | post {handles} : Spec (.post handles) handles fun _ => 0
  | fetch : Spec .fetch 0 fun r => r

/-- What the results of a call have in common. -/
def XrpCall.Returns {α : Type} (call : XrpCall α) (r : α) : Prop :=
  match call with
  | openDevice _ => Returned r
  | createBuffer _ _ _ => Returned r
  | mapBuffer _ _ _ _ => Returned r
  | createBufferGroup => Returned r
  | getBufferFromGroup _ _ => Returned r
  | createQueue _ => Returned r
  | createNsQueue _ _ => Returned r
  | createNspQueue _ _ _ => Returned r
  | enqueueCommand _ _ _ _ _ evt => Enqueued evt r
  | _ => True

/-- The tokens behind handles. -/
def tokens (handles : Multiset XrpHandle) : Multiset XrpToken := handles.map XrpHandle.token

@[simp] theorem tokens_add (handles handles' : Multiset XrpHandle) :
    tokens (handles + handles') = tokens handles + tokens handles' := Multiset.map_add _ _ _

@[simp] theorem tokens_singleton (handle : XrpHandle) :
    tokens {handle} = {handle.token} := Multiset.map_singleton _ _

@[simp] theorem tokens_zero : tokens 0 = 0 := Multiset.map_zero _

@[simp] theorem tokens_given (handle : ℕ → XrpHandle) (p : Option ℕ) :
    tokens (given handle p) = p.elim 0 fun a => {(handle a).token} := by
  cases p <;> rfl

section Verified

variable {i : ℕ} {a q : ℕ}

/-- A client is not the thread of a queue. -/
theorem client_ne_service : Thread.client i ≠ .service q := fun h => by cases h

/-- `xrp_run_command_ioctl`, for a client with a reference to the queue. -/
theorem verified_runCommandIoctl {inData : List UInt8} {outData outDataSize : ℕ} {bufferGroup : Option ℕ} :
    XrpVerifies (.client i) (xrpRunCommandIoctl q inData outData outDataSize bufferGroup)
      (fun _ m => m = {.ref q .queue} + optionalRef .group bufferGroup)
      ({.ref q .queue} + optionalRef .group bufferGroup) := by
  refine verified_xrpRunCommandIoctl fun frame s x hb => ?_
  obtain ⟨⟨n, object⟩, hcell, hx, hkind, -⟩ := hb.of_ref (a := q) (k := .queue) (by simp)
  obtain ⟨queue, rfl⟩ := of_kind_queue hkind
  exact ⟨n, queue, hcell, hx⟩

/-- `xrp_retain_buffer`, for a buffer that is known to be on a device. -/
theorem verified_retainDeviceBuffer :
    XrpVerifies (.client i) (xrpRetainBuffer a)
      (fun _ m => m = {.ref a .buffer} + {.ref a .buffer} + ({.fact a .onDevice} + {.fact a .onDevice}))
      ({.ref a .buffer} + {.fact a .onDevice}) := by
  have hretain := verified_xrpRetainBuffer (t := .client i) (b := a)
  refine (hretain.keep ({.fact a .onDevice} + {.fact a .onDevice}) rfl ?_).update ?_
  · rintro _ _ rfl
    rfl
  · have hupdate := updates_duplicate (d := xrpDiscipline) (.fact a .onDevice) rfl (by simp)
    have hframe := hupdate.frame {.ref a .buffer}
    rwa [add_comm, add_comm _ {Token.ref a XrpKind.buffer}] at hframe

/-- Objects are put down for other clients. -/
theorem verified_post {handles : Multiset XrpHandle} :
    XrpVerifies (.client i) (perform (.command fun _ => some (.post handles))) (fun _ m => m = 0)
      (tokens handles) := by
  refine verified_command fun frame s x _ => ⟨_, rfl, trivial, ?_⟩
  rintro r w rfl
  refine ⟨0, rfl, ?_⟩
  simp only [xrpDiscipline_shared, xrpDiscipline_outstanding, XrpWorld.shared, Multiset.map_add, tokens]
  change _ + XrpWorld.assets _ = _ + XrpWorld.assets _
  rw [show XrpWorld.assets { s.env with bag := s.env.bag + handles } = s.env.assets from rfl]
  abel

/-- Objects are taken from those that clients have put down. -/
theorem verified_fetch :
    XrpVerifies (.client i) (perform (.command fun _ => some .fetch)) (fun r m => m = tokens r) 0 := by
  refine verified_command fun frame s x _ => ⟨_, rfl, trivial, ?_⟩
  rintro r w ⟨rest, hbag, rfl⟩
  refine ⟨_, rfl, ?_⟩
  simp only [xrpDiscipline_shared, xrpDiscipline_outstanding, XrpWorld.shared, hbag,
    Multiset.map_add, tokens]
  change _ + XrpWorld.assets _ = _ + XrpWorld.assets _
  rw [show XrpWorld.assets { s.env with bag := rest } = s.env.assets from rfl]
  abel

end Verified

/-- Every call keeps to its specification. -/
theorem XrpCall.Spec.verified {α : Type} {call : XrpCall α} {takes : Multiset XrpHandle}
    {gives : α → Multiset XrpHandle} (h : call.Spec takes gives) (i : ℕ) :
    XrpVerifies (.client i) call.prog (fun r m => call.Returns r ∧ m = tokens (gives r))
      (tokens takes) := by
  -- a call whose results have nothing in common
  have plain {α : Type} {prog : XrpProg α} {post post' : α → Multiset XrpToken} {m : Multiset XrpToken}
      (hverified : XrpVerifies (.client i) prog (fun r m => m = post r) m) (heq : ∀ r, post r = post' r) :
      XrpVerifies (.client i) prog (fun r m => True ∧ m = post' r) m :=
    hverified.mono fun r _ hm => ⟨trivial, hm.trans (heq r)⟩
  cases h <;> simp only [tokens_add, tokens_singleton, tokens_zero, tokens_given, XrpHandle.token,
    XrpCall.prog, XrpCall.Returns]
  case openDevice => exact verified_xrpOpenDevice
  case retainDevice => exact plain verified_xrpRetainDevice fun _ => rfl
  case releaseDevice => exact plain verified_xrpReleaseDevice fun _ => rfl
  case createBuffer =>
    refine verified_xrpCreateBuffer.mono fun r _ hm => ⟨hm.1, hm.2.trans ?_⟩
    cases r.2 <;> simp [newBuffer, optionalRef]
  case createDeviceBuffer =>
    refine verified_xrpCreateBuffer.mono fun r _ hm => ⟨hm.1, hm.2.trans ?_⟩
    cases r.2 <;> simp [newBuffer, optionalRef]
  case retainBuffer => exact plain verified_xrpRetainBuffer fun _ => rfl
  case retainDeviceBuffer => exact plain verified_retainDeviceBuffer fun _ => rfl
  case releaseBuffer => exact plain verified_xrpReleaseBuffer fun _ => rfl
  case mapBuffer =>
    refine verified_xrpMapBuffer.mono fun r _ hm => ⟨hm.1, hm.2.trans ?_⟩
    cases r.2 <;> simp [XrpHandle.token]
  case unmapBuffer => exact plain verified_xrpUnmapBuffer fun r => by split <;> simp [XrpHandle.token]
  case bufferGetInfo => exact plain verified_xrpBufferGetInfo fun _ => rfl
  case syncDeviceBuffer => exact plain verified_xrpSyncDeviceBuffer fun _ => rfl
  case createBufferGroup => exact verified_xrpCreateBufferGroup
  case retainBufferGroup => exact plain verified_xrpRetainBufferGroup fun _ => rfl
  case releaseBufferGroup => exact plain verified_xrpReleaseBufferGroup fun _ => rfl
  case addBufferToGroup => exact plain verified_xrpAddBufferToGroup fun _ => rfl
  case setBufferInGroup => exact plain verified_xrpSetBufferInGroup fun _ => rfl
  case getBufferFromGroup => exact verified_xrpGetBufferFromGroup
  case bufferGroupGetInfo => exact plain verified_xrpBufferGroupGetInfo fun _ => rfl
  case createQueue => exact verified_xrpCreateNspQueue
  case createNsQueue => exact verified_xrpCreateNspQueue
  case createNspQueue => exact verified_xrpCreateNspQueue
  case retainQueue => exact plain verified_xrpRetainQueue fun _ => rfl
  case releaseQueue => exact plain (verified_xrpReleaseQueue client_ne_service) fun _ => rfl
  case retainEvent => exact plain verified_xrpRetainEvent fun _ => rfl
  case releaseEvent => exact plain (verified_xrpReleaseEvent client_ne_service) fun _ => rfl
  case eventStatus => exact plain verified_xrpEventStatus fun _ => rfl
  case wait => exact plain verified_xrpWait fun _ => rfl
  case enqueueCommand => exact verified_xrpEnqueueCommand
  case runCommandSync => exact plain (verified_xrpRunCommandSync client_ne_service) fun _ => rfl
  case runCommandIoctl => exact plain verified_runCommandIoctl fun _ => rfl
  case post => exact plain verified_post fun _ => rfl
  case fetch => exact plain verified_fetch fun _ => rfl

/-- What a client does: calls, and in the end whether it starts again. -/
abbrev Client := Prog XrpCall Bool

/-- A client that has the handles for each of its calls, whatever the calls return, and in the end has
none but the knowledge that buffers are on a device. -/
def Disciplined : Client → Multiset XrpHandle → Prop
  | .pure _, held => ∀ handle ∈ held, ∃ b, handle = .onDevice b
  | .step call next, held => ∃ takes gives rest, call.Spec takes gives ∧ held = takes + rest ∧
      ∀ r, call.Returns r → Disciplined (next r) (gives r + rest)

/-- What a client runs. -/
def Client.prog (client : Client) : XrpProg Bool := client.interpret XrpCall.prog

/-- Knowledge about buffers can be forgotten. -/
theorem updates_forgetAll {held : Multiset XrpHandle} (h : ∀ handle ∈ held, ∃ b, handle = .onDevice b) :
    (assertions xrpDiscipline).Updates (tokens held) 0 := by
  induction held using Multiset.induction with
  | empty => exact .refl 0
  | cons handle rest ih =>
    obtain ⟨b, rfl⟩ := h handle (Multiset.mem_cons_self _ _)
    have hforget := updates_forget (d := xrpDiscipline) (.fact b .onDevice) rfl (by simp)
    have hframe := hforget.frame (tokens rest)
    rw [zero_add] at hframe
    have hrest := ih fun handle hin => h handle (Multiset.mem_cons_of_mem hin)
    rw [← Multiset.singleton_add, tokens_add, tokens_singleton]
    exact hframe.trans hrest

/-- A disciplined client is verified. -/
theorem Disciplined.verified {client : Client} {held : Multiset XrpHandle}
    (h : Disciplined client held) (i : ℕ) :
    XrpVerifies (.client i) client.prog ((assertions xrpDiscipline).AtEnd (.client i)) (tokens held) := by
  induction client generalizing held with
  | pure again =>
    refine Verified.update (verified_pure ?_) (updates_forgetAll h)
    cases again <;> exact rfl
  | step call next ih =>
    obtain ⟨takes, gives, rest, hspec, rfl, hnext⟩ := h
    refine (hspec.verified i).seq (tokens rest) (tokens_add takes rest) ?_
    rintro r _ ⟨hreturns, rfl⟩
    rw [← tokens_add]
    exact ih r (hnext r hreturns)

end HailoDsp.Xrp
