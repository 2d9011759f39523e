import HailoDsp.Foundations.Quiescence
import HailoDsp.Xrp.Calls

/-!
# Who owns what in the XRP library

The references behind the pointers of an object, and what the operating system has given to it. A
request that waits in a queue is owned by the queue.
-/

namespace HailoDsp.Xrp

open CountedHeap ThreadPool

/-- What a pointer points to. -/
inductive XrpKind
  | device
  | buffer
  | group
  | queue
  | event (queue : ℕ)
  | variable
  deriving DecidableEq

/-- What a pointer to the object points to. -/
def XrpObject.kind : XrpObject → XrpKind
  | .device _ => .device
  | .buffer _ => .buffer
  | .group _ => .group
  | .queue _ => .queue
  | .event e => .event e.queue
  | .variable _ => .variable

/-- What stays true of an object: a queue will not be used by its thread again, a buffer is on a device. -/
inductive XrpFact
  | drained
  | onDevice

/-- The objects that something is true of. -/
def XrpFact.Holds : XrpFact → XrpObject → Prop
  | .drained, .queue q => q.exit = true ∧ q.requestQueue = []
  | .onDevice, .buffer b => b.type = .device
  | _, _ => False

/-- What the operating system gives out. -/
inductive XrpAsset
  | descriptor (fd : ℕ)
  | block (addr size : ℕ)
  | memory (p : ℕ)

/-- The tokens of the library. -/
abbrev XrpToken := Token XrpObject XrpKind ℕ XrpFact XrpAsset

/-- What a handle stands for. -/
def XrpHandle.token : XrpHandle → XrpToken
  | .device a => .ref a .device
  | .buffer a => .ref a .buffer
  | .group a => .ref a .group
  | .queue a => .ref a .queue
  | .event a q => .ref a (.event q)
  | .onDevice a => .fact a .onDevice

/-- What has to be released when a request has been processed. -/
def XrpRequest.tokens (queue : ℕ) (rq : XrpRequest) : Multiset XrpToken :=
  {.asset (.memory rq.item)} + rq.inData.elim 0 (fun p => {.asset (.memory p)}) +
    rq.bufferGroup.elim 0 (fun group => {.ref group .group}) +
      rq.event.elim 0 fun event => {.ref event (.event queue)}

/-- What has to be released when all requests of a queue have been processed. -/
def requestTokens (queue : ℕ) (requests : List XrpRequest) : Multiset XrpToken :=
  (requests.map (XrpRequest.tokens queue)).sum

/-- The references behind the records of a group. -/
def recordTokens (records : List XrpBufferGroupRecord) : Multiset XrpToken :=
  (records.map fun record => ({.ref record.buffer .buffer} : Multiset XrpToken)).sum

/-- What a buffer has to give back. -/
def XrpBuffer.tokens (buffer : XrpBuffer) : Multiset XrpToken :=
  match buffer.type with
  | .host => 0
  | .device => {.ref buffer.device .device} + {.asset (.block buffer.ptr (buffer.size % 2 ^ 32))}

/-- What an object owns. -/
def XrpObject.owns (a : ℕ) : XrpObject → Multiset XrpToken
  | .device d => {.asset (.descriptor d.fd)}
  | .buffer b => b.tokens
  | .group g => recordTokens g.buffer
  | .queue q => {.ref q.device .device} + requestTokens a q.requestQueue
  | .event e => {.ref e.queue .queue}
  | .variable _ => 0

/-- The tokens in the bag and those of what has been left behind. -/
def XrpWorld.shared (w : XrpWorld) : Multiset XrpToken :=
  w.bag.map XrpHandle.token + (w.abandoned.map fun entry => entry.2.tokens entry.1).sum +
    w.unclosed.map fun fd => .asset (.descriptor fd)

/-- What the operating system has given to the process. -/
def XrpWorld.outstanding (w : XrpWorld) : Multiset XrpAsset :=
  w.descriptors.map .descriptor + w.blocks.map (fun block => .block block.1 block.2) + w.memory.map .memory

/-- The part of a queue that its thread writes. -/
def XrpObject.syncExit : XrpObject → ℕ
  | .queue q => q.syncExit
  | _ => 0

/-- A queue whose thread has been told to end. -/
def XrpObject.Closing : XrpObject → Prop
  | .queue q => q.exit = true
  | _ => False

/-- How the objects of the library are used. -/
def xrpDiscipline : Discipline XrpObject XrpWorld XrpKind ℕ XrpFact XrpAsset where
  kind := XrpObject.kind
  Served := (· = .queue)
  priv := XrpObject.syncExit
  Closing := XrpObject.Closing
  Holds := XrpFact.Holds
  drained := .drained
  owns := XrpObject.owns
  shared := XrpWorld.shared
  outstanding := XrpWorld.outstanding
  closing_of_drained object h := by
    cases object <;> simp_all [XrpFact.Holds, XrpObject.Closing]

section Simp

variable (a : ℕ) (object : XrpObject) (k : XrpKind) (φ : XrpFact) (w : XrpWorld)

@[simp] theorem kind_device (dev : XrpDevice) : (XrpObject.device dev).kind = .device := rfl

@[simp] theorem kind_buffer (b : XrpBuffer) : (XrpObject.buffer b).kind = .buffer := rfl

@[simp] theorem kind_group (g : XrpBufferGroup) : (XrpObject.group g).kind = .group := rfl

@[simp] theorem kind_queue (q : XrpQueue) : (XrpObject.queue q).kind = .queue := rfl

@[simp] theorem kind_event (e : XrpEvent) : (XrpObject.event e).kind = .event e.queue := rfl

@[simp] theorem kind_variable (exit : Bool) : (XrpObject.variable exit).kind = .variable := rfl

@[simp] theorem xrpDiscipline_kind : xrpDiscipline.kind object = object.kind := rfl

@[simp] theorem xrpDiscipline_served : xrpDiscipline.Served k ↔ k = .queue := Iff.rfl

@[simp] theorem xrpDiscipline_priv : xrpDiscipline.priv object = object.syncExit := rfl

@[simp] theorem xrpDiscipline_closing : xrpDiscipline.Closing object ↔ object.Closing := Iff.rfl

@[simp] theorem xrpDiscipline_holds : xrpDiscipline.Holds φ object ↔ φ.Holds object := Iff.rfl

@[simp] theorem xrpDiscipline_drained : xrpDiscipline.drained = .drained := rfl

@[simp] theorem xrpDiscipline_owns : xrpDiscipline.owns a object = object.owns a := rfl

@[simp] theorem xrpDiscipline_shared : xrpDiscipline.shared w = w.shared := rfl

@[simp] theorem xrpDiscipline_outstanding : xrpDiscipline.outstanding w = w.outstanding := rfl

end Simp

section Kinds

variable {object : XrpObject}

/-- A device. -/
theorem of_kind_device (h : object.kind = .device) : ∃ d, object = .device d := by
  cases object <;> simp_all [XrpObject.kind]

/-- A buffer. -/
theorem of_kind_buffer (h : object.kind = .buffer) : ∃ b, object = .buffer b := by
  cases object <;> simp_all [XrpObject.kind]

/-- A buffer group. -/
theorem of_kind_group (h : object.kind = .group) : ∃ g, object = .group g := by
  cases object <;> simp_all [XrpObject.kind]

/-- A queue. -/
theorem of_kind_queue (h : object.kind = .queue) : ∃ q, object = .queue q := by
  cases object <;> simp_all [XrpObject.kind]

/-- An event. -/
theorem of_kind_event {queue : ℕ} (h : object.kind = .event queue) :
    ∃ e, object = .event e ∧ e.queue = queue := by
  cases object <;> simp_all [XrpObject.kind]

end Kinds

/-- The verified programs of the library. -/
abbrev XrpVerifies {α : Type} (t : Thread) (prog : XrpProg α) (post : α → Multiset XrpToken → Prop)
    (m : Multiset XrpToken) : Prop := Verifies xrpEnvironment xrpDiscipline t prog post m

/-- A new object is shared. -/
theorem share {a : ℕ} (object : XrpObject) (h : object.kind ≠ .queue) :
    (assertions xrpDiscipline).Updates ({.own a ⟨1, object⟩} + object.owns a) {.ref a object.kind} :=
  updates_share object h

/-- What is known of an object is noted down by its owner. -/
theorem learn {a n : ℕ} (object : XrpObject) (φ : XrpFact) (h : φ.Holds object) :
    (assertions xrpDiscipline).Updates {.own a ⟨n, object⟩} ({.fact a φ} + {.own a ⟨n, object⟩}) :=
  updates_learn h

section Access

variable {β : Type} {t : Thread} {a n : ℕ} {m : Multiset XrpToken} {post : β → Multiset XrpToken → Prop}

/-- The owner of a buffer fills it in. -/
theorem verified_atBuffer_own {b : XrpBuffer} {f : XrpBuffer → β × XrpBuffer}
    (hf : XrpFact.onDevice.Holds (.buffer b) → XrpFact.onDevice.Holds (.buffer (f b).2)) :
    XrpVerifies t (atBuffer a f) (fun r m => r = (f b).1 ∧ m = {.own a ⟨n, .buffer (f b).2⟩})
      {.own a ⟨n, .buffer b⟩} := by
  refine verified_access_own rfl (fun p => ?_) (fun h => h) fun φ hφ => ?_
  · simp
  · cases φ with
    | drained => exact hφ
    | onDevice => exact hf hφ

/-- The owner of an event fills it in. -/
theorem verified_atEvent_own {e : XrpEvent} {f : XrpEvent → β × XrpEvent} :
    XrpVerifies t (atEvent a f) (fun r m => r = (f e).1 ∧ m = {.own a ⟨n, .event (f e).2⟩})
      {.own a ⟨n, .event e⟩} := by
  refine verified_access_own rfl (fun p => ?_) (fun h => h) fun φ hφ => ?_
  · simp
  · cases φ <;> exact hφ

/-- The owner of a queue fills it in. -/
theorem verified_atQueue_own {q : XrpQueue} {f : XrpQueue → β × XrpQueue}
    (hsync : (f q).2.syncExit = q.syncExit) (hexit : (f q).2.exit = q.exit)
    (hrequests : (f q).2.requestQueue = q.requestQueue) :
    XrpVerifies t (atQueue a f) (fun r m => r = (f q).1 ∧ m = {.own a ⟨n, .queue (f q).2⟩})
      {.own a ⟨n, .queue q⟩} := by
  refine verified_access_own rfl (fun p => ?_) (fun h => ?_) fun φ hφ => ?_
  · simp [XrpObject.syncExit, hsync]
  · exact hexit.symm.trans h
  · cases φ with
    | drained => exact ⟨hexit ▸ hφ.1, hrequests ▸ hφ.2⟩
    | onDevice => exact hφ

/-- The owner of a group reads it. -/
theorem verified_atGroup_own {g : XrpBufferGroup} {f : XrpBufferGroup → β × XrpBufferGroup} :
    XrpVerifies t (atGroup a f) (fun r m => r = (f g).1 ∧ m = {.own a ⟨n, .group (f g).2⟩})
      {.own a ⟨n, .group g⟩} := by
  refine verified_access_own rfl (fun p => ?_) (fun h => h) fun φ hφ => ?_
  · simp
  · cases φ <;> exact hφ

/-- The owner of a device fills it in. -/
theorem verified_atDevice_own {dev : XrpDevice} {f : XrpDevice → β × XrpDevice} :
    XrpVerifies t (access XrpObject.asDevice .device a f)
      (fun r m => r = (f dev).1 ∧ m = {.own a ⟨n, .device (f dev).2⟩})
      {.own a ⟨n, .device dev⟩} := by
  refine verified_access_own rfl (fun p => ?_) (fun h => h) fun φ hφ => ?_
  · simp
  · cases φ <;> exact hφ

/-- A variable is read and written by the thread that has it on its stack. -/
theorem verified_atVariable {exit : Bool} {f : Bool → β × Bool} :
    XrpVerifies t (atVariable a f) (fun r m => r = (f exit).1 ∧ m = {.own a ⟨n, .variable (f exit).2⟩})
      {.own a ⟨n, .variable exit⟩} := by
  refine verified_access_own rfl (fun p => ?_) (fun h => h) fun φ hφ => ?_
  · simp
  · cases φ <;> exact hφ

/-- A thread with a reference to a buffer does not change what the buffer has to give back. -/
theorem verified_atBuffer_ref {f : XrpBuffer → β × XrpBuffer}
    (hf : ∀ b, (f b).2.type = b.type ∧ (f b).2.device = b.device ∧ (f b).2.ptr = b.ptr ∧
      (f b).2.size = b.size) :
    XrpVerifies t (atBuffer a f) (fun _ m => m = {.ref a .buffer}) {.ref a .buffer} := by
  rw [← zero_add {Token.ref a XrpKind.buffer}]
  refine verified_access_ref fun object hkind hopen => ?_
  obtain ⟨b, rfl⟩ := of_kind_buffer hkind
  obtain ⟨htype, hdevice, hptr, hsize⟩ := hf b
  refine ⟨by simp [XrpObject.asBuffer], ?_⟩
  rintro r object' ⟨⟩
  refine ⟨rfl, rfl, hopen, fun φ hφ => ?_, 0, ?_, rfl⟩
  · cases φ with
    | drained => exact hφ
    | onDevice => exact htype.trans hφ
  · simp [XrpObject.owns, XrpBuffer.tokens, htype, hdevice, hptr, hsize]

/-- A critical section of a thread with a reference to a group. -/
theorem verified_atGroup_ref {f : XrpBufferGroup → β × XrpBufferGroup}
    (hf : ∀ g, ∃ m', m' + recordTokens (f g).2.buffer = m + recordTokens g.buffer ∧
      post (f g).1 (m' + {.ref a .group})) :
    XrpVerifies t (atGroup a f) post (m + {.ref a .group}) := by
  refine verified_access_ref fun object hkind hopen => ?_
  obtain ⟨g, rfl⟩ := of_kind_group hkind
  refine ⟨by simp [XrpObject.asGroup], ?_⟩
  rintro r object' ⟨⟩
  exact ⟨rfl, rfl, hopen, fun φ hφ => by cases φ <;> exact hφ, hf g⟩

/-- A critical section of a thread with a reference to an event. -/
theorem verified_atEvent_ref {queue : ℕ} {f : XrpEvent → β × XrpEvent} (hf : ∀ e, (f e).2.queue = e.queue) :
    XrpVerifies t (atEvent a f) (fun _ m => m = {.ref a (.event queue)}) {.ref a (.event queue)} := by
  rw [← zero_add {Token.ref a (XrpKind.event queue)}]
  refine verified_access_ref fun object hkind hopen => ?_
  obtain ⟨e, rfl, rfl⟩ := of_kind_event hkind
  refine ⟨by simp [XrpObject.asEvent], ?_⟩
  rintro r object' ⟨⟩
  refine ⟨congrArg XrpKind.event (hf e), rfl, hopen, fun φ hφ => by cases φ <;> exact hφ, 0, ?_, rfl⟩
  simp [XrpObject.owns, hf]

/-- A critical section of a thread with a reference to a queue. -/
theorem verified_atQueue_ref {f : XrpQueue → β × XrpQueue} (hsync : ∀ q, (f q).2.syncExit = q.syncExit)
    (hexit : ∀ q, (f q).2.exit = q.exit) (hdevice : ∀ q, (f q).2.device = q.device)
    (hf : ∀ q, ∃ m', m' + requestTokens a (f q).2.requestQueue = m + requestTokens a q.requestQueue ∧
      post (f q).1 (m' + {.ref a .queue})) :
    XrpVerifies t (atQueue a f) post (m + {.ref a .queue}) := by
  refine verified_access_ref fun object hkind hopen => ?_
  obtain ⟨q, rfl⟩ := of_kind_queue hkind
  refine ⟨by simp [XrpObject.asQueue], ?_⟩
  rintro r object' ⟨⟩
  obtain ⟨m', hbalance, hpost⟩ := hf q
  refine ⟨rfl, hsync q, fun hclosing => hopen ((hexit q).symm.trans hclosing),
    fun φ hφ => ?_, m', ?_, hpost⟩
  · cases φ with
    | drained => exact absurd hφ.1 hopen
    | onDevice => exact hφ
  · simp only [xrpDiscipline_owns, XrpObject.owns, hdevice]
    rw [add_left_comm, hbalance, add_left_comm]

/-- A critical section of the thread that is to destroy a queue. -/
theorem verified_atQueue_dying {f : XrpQueue → β × XrpQueue} (hsync : ∀ q, (f q).2.syncExit = q.syncExit)
    (hexit : ∀ q, q.exit = true → (f q).2.exit = true)
    (hrequests : ∀ q, (f q).2.requestQueue = q.requestQueue)
    (hdevice : ∀ q, (f q).2.device = q.device) :
    XrpVerifies t (atQueue a f) (fun _ m => m = {.dying a .queue}) {.dying a .queue} := by
  rw [← zero_add {Token.dying a XrpKind.queue}]
  refine verified_access_dying fun object hkind => ?_
  obtain ⟨q, rfl⟩ := of_kind_queue hkind
  refine ⟨by simp [XrpObject.asQueue], ?_⟩
  rintro r object' ⟨⟩
  refine ⟨rfl, hsync q, fun φ hφ => ?_, 0, ?_, rfl⟩
  · cases φ with
    | drained => exact ⟨hexit q hφ.1, (hrequests q).trans hφ.2⟩
    | onDevice => exact hφ
  · simp [XrpObject.owns, hrequests, hdevice]

/-- A critical section of the thread of a queue. -/
theorem verified_atQueue_service {p : ℕ} {f : XrpQueue → β × XrpQueue} (hexit : ∀ q, (f q).2.exit = q.exit)
    (hrequests : ∀ q, (f q).2.requestQueue = q.requestQueue) (hdevice : ∀ q, (f q).2.device = q.device) :
    XrpVerifies t (atQueue a f)
      (fun r m => ∃ q, q.syncExit = p ∧ r = (f q).1 ∧ m = {.service a .active (f q).2.syncExit})
      {.service a .active p} := by
  rw [← zero_add {Token.service a Phase.active p}]
  refine verified_access_service (fun _ => false) fun object hpriv hserved => ?_
  obtain ⟨q, rfl⟩ := of_kind_queue hserved
  refine ⟨by simp [XrpObject.asQueue], ?_⟩
  rintro r object' ⟨⟩
  refine ⟨rfl, (hexit q).symm.trans, fun φ hφ => ?_, by simp, 0, ?_, q, hpriv, rfl, ?_⟩
  · cases φ with
    | drained => exact ⟨(hexit q).trans hφ.1, (hrequests q).trans hφ.2⟩
    | onDevice => exact hφ
  · simp [XrpObject.owns, hrequests, hdevice]
  · simp [XrpObject.syncExit]

end Access

end HailoDsp.Xrp
