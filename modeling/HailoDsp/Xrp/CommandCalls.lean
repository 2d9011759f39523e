import HailoDsp.Xrp.QueueCalls

/-!
# Commands and the thread of a queue

Events, commands and the loop of the thread of a queue. When the thread drops the last reference to
its own queue it destroys the queue, and learns about it from the variable on its stack.
-/

namespace HailoDsp.Xrp

open CountedHeap ThreadPool

variable {t : Thread} {g b q e n l : ℕ}

/-- What the thread of a queue holds while it processes requests: the right to the queue or, once it
has destroyed the queue, a variable that tells it so. -/
def Working (q l : ℕ) (m : Multiset XrpToken) : Prop :=
  m = {.service q .active l} + {.own l ⟨1, .variable false⟩} ∨ m = {.gone q} + {.own l ⟨1, .variable true⟩}

section Events

/-- `xrp_release_queue`, called by the thread of the queue. -/
theorem verified_xrpReleaseQueue_self :
    XrpVerifies (.service q) (xrpReleaseQueue q) (fun _ m => Working q l m)
      ({.ref q .queue} + ({.service q .active l} + {.own l ⟨1, .variable false⟩})) := by
  unfold xrpReleaseQueue
  refine verified_release_served.seq ({.service q .active l} + {.own l ⟨1, .variable false⟩}) rfl ?_
  rintro (_ | _) _ rfl
  · exact verified_pure (.inl (zero_add _))
  · refine verified_xrpQueueDestroy_self.andThen ?_
    rintro _ _ ⟨queue, rfl⟩
    refine (verified_atQueue_own rfl rfl rfl).seq ({.service q .settled queue.syncExit} +
      {.ref queue.device .device} + {.own l ⟨1, .variable true⟩}) (by simp only [emptied]; abel) ?_
    rintro _ _ ⟨rfl, rfl⟩
    refine verified_xrpReleaseDevice.seq ({.own q ⟨0, .queue queue⟩} +
      {.service q .settled queue.syncExit} +
      {.own l ⟨1, .variable true⟩}) (by abel) ?_
    rintro _ _ rfl
    rw [zero_add]
    have hfree : XrpVerifies (.service q) (perform (.free q)) (fun _ m => m = {.gone q})
        ({.own q ⟨0, .queue queue⟩} + {.service q .settled queue.syncExit}) := verified_free_served rfl
    refine hfree.keep {.own l ⟨1, .variable true⟩} rfl ?_
    rintro _ _ rfl
    exact .inr rfl

/-- `xrp_event_create` -/
theorem verified_xrpEventCreate :
    XrpVerifies t xrpEventCreate (fun r m => m = r.elim 0 fun e => {.own e ⟨1, .event ⟨0, .pending⟩⟩})
      0 := by
  unfold xrpEventCreate
  refine (verified_alloc_unserved (by simp) id).andThen ?_
  rintro (_ | e) _ rfl
  · exact verified_pure rfl
  · refine verified_atEvent_own.andThen ?_
    rintro _ _ ⟨-, rfl⟩
    exact verified_pure rfl

/-- `xrp_retain_event` -/
theorem verified_xrpRetainEvent :
    XrpVerifies t (xrpRetainEvent e) (fun _ m => m = {.ref e (.event q)} + {.ref e (.event q)})
      {.ref e (.event q)} :=
  verified_retain

/-- `xrp_release_event`, given what `xrp_release_queue` does. -/
theorem verified_xrpReleaseEvent_of {m : Multiset XrpToken} {post : Multiset XrpToken → Prop}
    (hqueue : XrpVerifies t (xrpReleaseQueue q) (fun _ m' => post m') ({.ref q .queue} + m))
    (hpost : post m) :
    XrpVerifies t (xrpReleaseEvent e) (fun _ m' => post m') ({.ref e (.event q)} + m) := by
  unfold xrpReleaseEvent
  refine (verified_release (by simp)).seq m rfl ?_
  rintro (_ | _) m' hm
  · rw [show m' = 0 from hm, zero_add]
    exact verified_pure hpost
  · obtain ⟨object, hkind, rfl⟩ := hm
    obtain ⟨event, rfl, rfl⟩ := of_kind_event hkind
    refine verified_atEvent_own.seq ({.ref event.queue .queue} + m) (add_assoc _ _ _) ?_
    rintro _ _ ⟨rfl, rfl⟩
    refine hqueue.seq {.own e ⟨0, .event event⟩} (add_comm _ _) ?_
    intro _ m' hm'
    refine Verified.keep (verified_free (by simp)) m' (add_comm _ _) ?_
    rintro _ _ rfl
    rwa [zero_add]

/-- `xrp_release_event`, called by another thread than that of the queue. -/
theorem verified_xrpReleaseEvent (ht : t ≠ .service q) :
    XrpVerifies t (xrpReleaseEvent e) (fun _ m => m = 0) {.ref e (.event q)} := by
  have hqueue : XrpVerifies t (xrpReleaseQueue q) (fun _ m => m = 0) ({.ref q .queue} + 0) := by
    rw [add_zero]
    exact verified_xrpReleaseQueue ht
  have hevent := verified_xrpReleaseEvent_of (e := e) hqueue rfl
  rwa [add_zero] at hevent

/-- `xrp_event_status` -/
theorem verified_xrpEventStatus :
    XrpVerifies t (xrpEventStatus e) (fun _ m => m = {.ref e (.event q)}) {.ref e (.event q)} :=
  verified_atEvent_ref fun _ => rfl

/-- `xrp_wait` -/
theorem verified_xrpWait :
    XrpVerifies t (xrpWait e) (fun _ m => m = {.ref e (.event q)}) {.ref e (.event q)} := by
  unfold xrpWait
  refine Verified.andThen ?_ fun _ _ hm => verified_pure hm
  rw [← zero_add {Token.ref e (XrpKind.event q)}]
  refine verified_access_ref fun object hkind hopen => ?_
  obtain ⟨event, rfl, rfl⟩ := of_kind_event hkind
  simp only [XrpObject.asEvent]
  split
  · exact ⟨by simp, by simp⟩
  · refine ⟨by simp, ?_⟩
    rintro _ _ ⟨⟩
    exact ⟨rfl, rfl, hopen, fun _ hφ => hφ, 0, rfl, rfl⟩

end Events

section Commands

/-- The records of a group that somebody refers to. -/
theorem ioctlBuffers_isSome {s : State XrpObject XrpWorld} {x : Finset ℕ} {m : Multiset XrpToken}
    (hb : Balanced xrpDiscipline s x (m + (contents xrpDiscipline s x + xrpDiscipline.shared s.env)))
    (h : .ref g .group ∈ m + (contents xrpDiscipline s x + xrpDiscipline.shared s.env)) :
    ∃ buffers, ioctlBuffers g s.objects = some buffers := by
  obtain ⟨⟨n, object⟩, hcell, hx, hkind, -⟩ := hb.of_ref h
  obtain ⟨group, rfl⟩ := of_kind_group hkind
  have hrecords : ∀ records : List XrpBufferGroupRecord, (∀ record ∈ records, record ∈ group.buffer) →
      ∃ buffers : List XrpIoctlBuffer, (records.mapM fun record => do
        let buffer ← (← s.objects record.buffer).asBuffer
        return (⟨record.accessFlags, buffer.size % 2 ^ 32, buffer.ptr⟩ : XrpIoctlBuffer)) =
            some buffers := by
    intro records hall
    induction records with
    | nil => exact ⟨[], rfl⟩
    | cons record rest ih =>
      have href : .ref record.buffer .buffer ∈ contents xrpDiscipline s x :=
        hb.mem_contents hcell hx (mem_recordTokens (hall record List.mem_cons_self))
      obtain ⟨⟨n', object'⟩, hcell', -, hkind', -⟩ :=
        hb.of_ref (a := record.buffer) (k := .buffer) (by simp [href])
      obtain ⟨buffer, rfl⟩ := of_kind_buffer hkind'
      obtain ⟨buffers, hbuffers⟩ := ih fun record' h' => hall record' (List.mem_cons_of_mem _ h')
      refine ⟨⟨record.accessFlags, buffer.size % 2 ^ 32, buffer.ptr⟩ :: buffers, ?_⟩
      rw [List.mapM_cons, hbuffers]
      simp [State.objects, hcell', XrpObject.asBuffer]
  obtain ⟨buffers, hbuffers⟩ := hrecords group.buffer fun _ h => h
  exact ⟨buffers, by simpa [ioctlBuffers, State.objects, hcell, XrpObject.asGroup] using hbuffers⟩

/-- The records of a group are read. -/
theorem verified_ioctlRecords {bufferGroup : Option ℕ} :
    XrpVerifies t (ioctlRecords bufferGroup) (fun _ m => m = optionalRef .group bufferGroup)
      (optionalRef .group bufferGroup) := by
  cases bufferGroup with
  | none => exact verified_pure rfl
  | some g =>
    refine verified_inspect fun frame s x hb => ?_
    obtain ⟨buffers, hbuffers⟩ := ioctlBuffers_isSome (g := g) hb (by simp [optionalRef])
    exact ⟨buffers, hbuffers, rfl⟩

/-- `xrp_run_command_ioctl`, for a thread with a right to the queue. -/
theorem verified_xrpRunCommandIoctl {inData : List UInt8} {outData outDataSize : ℕ} {bufferGroup : Option ℕ}
    {m : Multiset XrpToken}
    (hqueue : ∀ frame s x, Balanced xrpDiscipline s x
      (m + frame + (contents xrpDiscipline s x + xrpDiscipline.shared s.env)) →
      ∃ n queue, s.cells q = some ⟨n, .queue queue⟩ ∧ q ∉ x) :
    XrpVerifies t (xrpRunCommandIoctl q inData outData outDataSize bufferGroup)
      (fun _ m' => m' = m + optionalRef .group bufferGroup) (m + optionalRef .group bufferGroup) := by
  unfold xrpRunCommandIoctl
  refine verified_ioctlRecords.seq m (add_comm _ _) ?_
  rintro buffers _ rfl
  have hcommand : XrpVerifies t (perform (.command (ioctlQueue q inData outData outDataSize buffers)))
      (fun _ m' => m' = m) m := by
    refine verified_command fun frame s x hb => ?_
    obtain ⟨n, queue, hcell, hx⟩ := hqueue frame s x hb
    have hdevice : .ref queue.device .device ∈ contents xrpDiscipline s x :=
      hb.mem_contents hcell hx (by simp [XrpObject.owns])
    obtain ⟨fd, hfd, hopen⟩ :=
      fdOf_ref hb (Multiset.mem_add.mpr (.inr (Multiset.mem_add.mpr (.inl hdevice))))
    have hallowed : xrpEnvironment.Allowed t
        (.ioctlQueue fd (queue.ioctlArgs inData outData outDataSize buffers)) s.env := hopen
    refine ⟨_, ?_, hallowed, ?_⟩
    · have hobject : s.objects q = some (.queue queue) := by simp [State.objects, hcell]
      simp [ioctlQueue, hobject, XrpObject.asQueue, hfd]
    · rintro r w rfl
      exact ⟨_, rfl, rfl⟩
  refine hcommand.seq (optionalRef .group bufferGroup) (add_comm _ _) ?_
  rintro r _ rfl
  split
  · exact verified_pure rfl
  · exact verified_pure rfl

/-- The tokens of a request, one after the other. -/
theorem XrpRequest.tokens_eq (rq : XrpRequest) (q : ℕ) : rq.tokens q = optionalRef .group rq.bufferGroup +
    (rq.event.elim 0 (fun e => {.ref e (.event q)}) + (rq.inData.elim 0 (fun p => {.asset (.memory p)}) +
      {.asset (.memory rq.item)})) := by
  simp only [XrpRequest.tokens, optionalRef]
  abel

/-- `xrp_request_process` -/
theorem verified_xrpRequestProcess {rq : XrpRequest} :
    XrpVerifies (.service q) (xrpRequestProcess rq q) (fun _ m => Working q l m)
      (rq.tokens q + ({.service q .active l} + {.own l ⟨1, .variable false⟩})) := by
  unfold xrpRequestProcess
  rw [rq.tokens_eq]
  have hcommand : XrpVerifies (.service q)
      (xrpRunCommandIoctl q rq.inDataBytes rq.outData rq.outDataSize rq.bufferGroup)
      (fun _ m => m = {.service q .active l} + optionalRef .group rq.bufferGroup)
      ({.service q .active l} + optionalRef .group rq.bufferGroup) := by
    refine verified_xrpRunCommandIoctl fun frame s x hb => ?_
    obtain ⟨⟨n, object⟩, hcell, hx, hserved, -⟩ := hb.of_active (a := q) (p := l) (by simp)
    obtain ⟨queue, rfl⟩ := of_kind_queue hserved
    exact ⟨n, queue, hcell, hx⟩
  refine hcommand.seq (rq.event.elim 0 (fun e => {.ref e (.event q)}) +
    (rq.inData.elim 0 (fun p => {.asset (.memory p)}) +
    {.asset (.memory rq.item)}) + {.own l ⟨1, .variable false⟩}) (by abel) ?_
  rintro status _ rfl
  have hgroup : XrpVerifies (.service q) (ifGiven rq.bufferGroup xrpReleaseBufferGroup)
      (fun _ m => m = rq.bufferGroup.elim 0 fun _ => 0) (optionalRef .group rq.bufferGroup) :=
    verified_ifGiven fun _ _ => verified_xrpReleaseBufferGroup
  refine hgroup.seq (rq.event.elim 0 (fun e => {.ref e (.event q)}) +
    (rq.inData.elim 0 (fun p => {.asset (.memory p)}) +
    {.asset (.memory rq.item)}) + ({.service q .active l} + {.own l ⟨1, .variable false⟩})) (by abel) ?_
  rintro _ _ rfl
  have hevent : XrpVerifies (.service q) (ifGiven rq.event fun event => do
        xrpImplBroadcastEvent event status
        xrpReleaseEvent event)
      (fun _ m => Working q l m)
      (rq.event.elim 0 (fun e => {.ref e (.event q)}) +
          ({.service q .active l} + {.own l ⟨1, .variable false⟩})) := by
    cases rq.event with
    | none => exact verified_pure (.inl (zero_add _))
    | some e =>
      refine (verified_atEvent_ref fun _ => rfl).seq
        ({.service q .active l} + {.own l ⟨1, .variable false⟩}) rfl ?_
      rintro _ _ rfl
      exact verified_xrpReleaseEvent_of verified_xrpReleaseQueue_self (.inl rfl)
  refine hevent.seq (rq.inData.elim 0 (fun p => {.asset (.memory p)}) + {.asset (.memory rq.item)}) ?_ ?_
  · rw [show (rq.bufferGroup.elim 0 fun _ => 0) = (0 : Multiset XrpToken) by cases rq.bufferGroup <;> rfl]
    abel
  intro _ m hm
  refine verified_freeMemory.seq (m + {.asset (.memory rq.item)}) (add_left_comm _ _ _) ?_
  rintro _ _ rfl
  refine verified_freeMemory.keep m (by simp only [Option.elim_some]; abel) ?_
  rintro _ _ rfl
  rwa [zero_add]

/-- A request is taken from the queue, or there is none left and there will be none. -/
theorem verified_next :
    XrpVerifies (.service q) (perform (.access q fun object =>
        match object.asQueue with
        | some queue => queue.next
        | none => .fault))
      (fun rq m => m = (if rq.isNone = true then {.fact q .drained} else 0) +
        (rq.elim 0 (XrpRequest.tokens q) + {.service q .active l})) {.service q .active l} := by
  rw [← zero_add {Token.service q Phase.active l}]
  refine verified_access_service Option.isNone fun object hpriv hserved => ?_
  obtain ⟨queue, rfl⟩ := of_kind_queue hserved
  obtain rfl : queue.syncExit = l := hpriv
  simp only [XrpObject.asQueue, XrpQueue.next]
  split
  · rename_i rq rest hrequests
    refine ⟨by simp, ?_⟩
    rintro _ _ ⟨⟩
    refine ⟨rfl, id, fun φ hφ => ?_, by simp, rq.tokens q, ?_, rfl⟩
    · cases φ with
      | drained => exact absurd hφ.2 (by simp [hrequests])
      | onDevice => exact hφ
    · simp only [xrpDiscipline_owns, XrpObject.owns, requestTokens, hrequests, List.map_cons, List.sum_cons]
      abel
  · rename_i hrequests
    split
    · rename_i hexit
      refine ⟨by simp, ?_⟩
      rintro _ _ ⟨⟩
      exact ⟨rfl, id, fun _ => id, fun _ => ⟨hexit, hrequests⟩, 0, rfl, rfl⟩
    · exact ⟨by simp, by simp⟩

/-- `xrp_queue_process`: the thread goes on with the right to its queue, or ends. -/
theorem verified_xrpQueueProcess :
    XrpVerifies (.service q) (xrpQueueProcess q) ((assertions xrpDiscipline).AtEnd (.service q))
      {.service q .active e} := by
  unfold xrpQueueProcess
  refine (verified_place_unserved (by simp) id).seq {.service q .active e} (zero_add _).symm ?_
  rintro l _ rfl
  have hsync : XrpVerifies (.service q) (atQueue q fun q => ((), { q with syncExit := l }))
      (fun _ m => m = {.service q .active l}) {.service q .active e} := by
    refine (verified_atQueue_service (fun _ => rfl) (fun _ => rfl) fun _ => rfl).mono ?_
    rintro _ _ ⟨queue, -, -, rfl⟩
    rfl
  refine hsync.seq {.own l ⟨1, .variable false⟩} (add_comm _ _) ?_
  rintro _ _ rfl
  have hfree (exit : Bool) : XrpVerifies (.service q) (perform (.free l)) (fun _ m => m = 0)
      {.own l ⟨1, .variable exit⟩} := verified_free (by simp)
  refine verified_next.seq {.own l ⟨1, .variable false⟩} rfl ?_
  rintro (_ | rq) _ rfl
  · refine (hfree false).seq ({.service q .active l} + {.fact q .drained}) ?_ ?_
    · simp only [Option.isNone_none, if_true, Option.elim_none]
      abel
    rintro _ _ rfl
    exact verified_pure (.inr ⟨l, zero_add _⟩)
  · refine (verified_xrpRequestProcess (l := l)).seq 0 ?_ ?_
    · simp only [Option.isNone_some, Bool.false_eq_true, if_false, Option.elim_some]
      abel
    rintro _ _ (rfl | rfl)
    · refine verified_atVariable.seq {.service q .active l} (by abel) ?_
      rintro _ _ ⟨rfl, rfl⟩
      refine (hfree false).seq {.service q .active l} rfl ?_
      rintro _ _ rfl
      exact verified_pure ⟨l, zero_add _⟩
    · refine verified_atVariable.seq {.gone q} (by abel) ?_
      rintro _ _ ⟨rfl, rfl⟩
      refine (hfree true).seq {.gone q} rfl ?_
      rintro _ _ rfl
      exact verified_pure (.inl (zero_add _))

/-- A new event that belongs to a queue is shared: it refers to the queue. -/
theorem share_event {status : XrpStatus} :
    (assertions xrpDiscipline).Updates ({.own e ⟨1, .event ⟨q, status⟩⟩} + {.ref q .queue})
      {.ref e (.event q)} :=
  share (.event ⟨q, status⟩) (by simp)

/-- `xrp_queue_push` of a command, after the references that it holds have been taken. -/
theorem verified_enqueue {item : ℕ} {copy event bufferGroup : Option ℕ} {inData : List UInt8}
    {outData outDataSize : ℕ} :
    XrpVerifies t (do
        ifGiven event fun event => do
          xrpRetainQueue q
          atEvent event fun e => ((), { e with queue := q })
          xrpRetainEvent event
        ifGiven bufferGroup xrpRetainBufferGroup
        xrpQueuePush q ⟨item, copy, inData, outData, outDataSize, bufferGroup, event⟩
        return (XrpStatus.success, event))
      (fun r m => r = (.success, event) ∧
        m = {.ref q .queue} + optionalRef .group bufferGroup + event.elim 0 fun e => {.ref e (.event q)})
      ({.ref q .queue} + optionalRef .group bufferGroup + {.asset (.memory item)} +
        copy.elim 0 (fun p => {.asset (.memory p)}) + event.elim 0 fun e =>
            {.own e ⟨1, .event ⟨0, .pending⟩⟩}) := by
  have hevent : XrpVerifies t (ifGiven event fun event => do
        xrpRetainQueue q
        atEvent event fun e => ((), { e with queue := q })
        xrpRetainEvent event)
      (fun _ m => m = {.ref q .queue} + (event.elim 0 (fun e => {.ref e (.event q)}) +
        event.elim 0 fun e => {.ref e (.event q)}))
      ({.ref q .queue} + event.elim 0 fun e => {.own e ⟨1, .event ⟨0, .pending⟩⟩}) := by
    cases event with
    | none => exact verified_pure (by simp)
    | some e =>
      refine verified_xrpRetainQueue.seq {.own e ⟨1, .event ⟨0, .pending⟩⟩} rfl ?_
      rintro _ _ rfl
      refine verified_atEvent_own.seq ({.ref q .queue} + {.ref q .queue}) (add_comm _ _) ?_
      rintro _ _ ⟨-, rfl⟩
      rw [← add_assoc]
      refine Verified.update ?_ (share_event.frame {.ref q .queue})
      refine verified_xrpRetainEvent.keep {.ref q .queue} rfl ?_
      rintro _ _ rfl
      exact add_comm _ _
  have hgroup : XrpVerifies t (ifGiven bufferGroup xrpRetainBufferGroup)
      (fun _ m => m = optionalRef .group bufferGroup + optionalRef .group bufferGroup)
      (optionalRef .group bufferGroup) := by
    cases bufferGroup with
    | none => exact verified_pure rfl
    | some g => exact verified_xrpRetainBufferGroup
  refine hevent.seq (optionalRef .group bufferGroup + {.asset (.memory item)} +
    copy.elim 0 (fun p => {.asset (.memory p)})) (by abel) ?_
  rintro _ _ rfl
  refine hgroup.seq ({.ref q .queue} + (event.elim 0 (fun e => {.ref e (.event q)}) +
    event.elim 0 fun e => {.ref e (.event q)}) + {.asset (.memory item)} +
      copy.elim 0 (fun p => {.asset (.memory p)})) (by abel) ?_
  rintro _ _ rfl
  refine verified_xrpQueuePush.seq (optionalRef .group bufferGroup + event.elim 0 fun e =>
    {.ref e (.event q)}) ?_ ?_
  · simp only [XrpRequest.tokens_eq]
    abel
  · rintro _ _ rfl
    exact verified_pure ⟨rfl, by abel⟩

/-- An event is returned if and only if it is wanted and the command has been enqueued. -/
def Enqueued (evt : Bool) (r : XrpStatus × Option ℕ) : Prop := r.2 ≠ none ↔ r.1 = .success ∧ evt = true

/-- `xrp_enqueue_command` -/
theorem verified_xrpEnqueueCommand {inData : List UInt8} {outData outDataSize : ℕ} {bufferGroup : Option ℕ}
    {evt : Bool} :
    XrpVerifies t (xrpEnqueueCommand q inData outData outDataSize bufferGroup evt)
      (fun r m => Enqueued evt r ∧
        m = {.ref q .queue} + optionalRef .group bufferGroup + r.2.elim 0 fun e => {.ref e (.event q)})
      ({.ref q .queue} + optionalRef .group bufferGroup) := by
  unfold xrpEnqueueCommand
  refine verified_malloc.seq ({.ref q .queue} + optionalRef .group bufferGroup) (zero_add _).symm ?_
  rintro rq _ rfl
  refine verified_malloc.seq (rq.elim 0 (fun p => {.asset (.memory p)}) +
    ({.ref q .queue} + optionalRef .group bufferGroup)) (zero_add _).symm ?_
  rintro copy _ rfl
  have hfree (item : Option ℕ) : XrpVerifies t (do
        freeMemory copy
        freeMemory item
        return (XrpStatus.failure, (none : Option ℕ)))
      (fun r m => Enqueued evt r ∧
        m = {.ref q .queue} + optionalRef .group bufferGroup + r.2.elim 0 fun e => {.ref e (.event q)})
      (copy.elim 0 (fun p => {.asset (.memory p)}) + (item.elim 0 (fun p => {.asset (.memory p)}) +
        ({.ref q .queue} + optionalRef .group bufferGroup))) := by
    refine verified_freeMemory.seq _ rfl ?_
    rintro _ _ rfl
    refine verified_freeMemory.seq ({.ref q .queue} + optionalRef .group bufferGroup) (zero_add _) ?_
    rintro _ _ rfl
    exact verified_pure ⟨by simp [Enqueued], by simp⟩
  cases rq with
  | none => exact hfree none
  | some item =>
    simp only
    split
    · exact hfree (some item)
    have hevent : XrpVerifies t (eventFor evt) (fun r m => (evt = false → r = none) ∧
        m = r.elim 0 fun e => {.own e ⟨1, .event ⟨0, .pending⟩⟩}) 0 := by
      unfold eventFor
      split
      · rename_i hevt
        exact verified_xrpEventCreate.mono fun _ _ hm =>
          ⟨fun hnot => absurd (hnot.symm.trans hevt) (by simp), hm⟩
      · exact verified_pure ⟨fun _ => rfl, rfl⟩
    refine hevent.seq _ (zero_add _).symm ?_
    rintro event _ ⟨hwanted, rfl⟩
    split
    · rename_i hnone
      rw [hnone.2, Option.elim_none, zero_add]
      exact hfree (some item)
    · rename_i hsome
      refine verified_enqueue.keep 0 (by simp only [Option.elim_some]; abel) ?_
      rintro _ _ ⟨rfl, rfl⟩
      refine ⟨?_, add_zero _⟩
      cases evt with
      | false => simp [Enqueued, hwanted rfl]
      | true => simpa [Enqueued] using hsome

/-- `xrp_run_command_sync` -/
theorem verified_xrpRunCommandSync {inData : List UInt8} {outData outDataSize : ℕ} {bufferGroup : Option ℕ}
    (ht : t ≠ .service q) :
    XrpVerifies t (xrpRunCommandSync q inData outData outDataSize bufferGroup)
      (fun _ m => m = {.ref q .queue} + optionalRef .group bufferGroup)
      ({.ref q .queue} + optionalRef .group bufferGroup) := by
  unfold xrpRunCommandSync
  refine verified_xrpEnqueueCommand.andThen ?_
  rintro ⟨s, evt⟩ _ ⟨hevent, rfl⟩
  cases s with
  | success =>
    obtain ⟨e, rfl⟩ := Option.ne_none_iff_exists'.mp (hevent.mpr ⟨rfl, rfl⟩)
    refine verified_deref.andThen ?_
    rintro _ _ ⟨rfl, rfl⟩
    refine verified_xrpWait.seq ({.ref q .queue} + optionalRef .group bufferGroup) (add_comm _ _) ?_
    rintro _ _ rfl
    refine verified_xrpEventStatus.seq ({.ref q .queue} + optionalRef .group bufferGroup) rfl ?_
    rintro _ _ rfl
    refine (verified_xrpReleaseEvent ht).seq ({.ref q .queue} + optionalRef .group bufferGroup) rfl ?_
    rintro _ _ rfl
    exact verified_pure (zero_add _)
  | _ =>
    obtain rfl : evt = none := by simpa [Enqueued] using hevent
    exact verified_pure (add_zero _)

end Commands

end HailoDsp.Xrp
