import HailoDsp.Xrp.BufferCalls

/-!
# Groups, queues and events of the XRP library

What each function needs and what it leaves. The last reference to a queue can be dropped by the
thread of the queue itself, which then takes the queue over.
-/

namespace HailoDsp.Xrp

open CountedHeap ThreadPool

variable {t : Thread} {g b q e n : ℕ}

section Groups

/-- `xrp_create_buffer_group` -/
theorem verified_xrpCreateBufferGroup :
    XrpVerifies t xrpCreateBufferGroup (fun r m => Returned r ∧ m = r.2.elim 0 fun g =>
      {.ref g .group}) 0 := by
  unfold xrpCreateBufferGroup
  refine (verified_alloc_unserved (by simp) id).andThen ?_
  rintro (_ | g) _ rfl
  · exact verified_pure ⟨returned_failure, rfl⟩
  · have hshare := share (a := g) (.group ⟨0, []⟩) (by simp)
    rw [show XrpObject.owns g (.group ⟨0, []⟩) = 0 from rfl, add_zero] at hshare
    exact Verified.update (verified_pure ⟨returned_success, rfl⟩) hshare

/-- The references behind one record more. -/
theorem recordTokens_append (records : List XrpBufferGroupRecord) (record : XrpBufferGroupRecord) :
    recordTokens (records ++ [record]) = {.ref record.buffer .buffer} + recordTokens records := by
  simp [recordTokens, add_comm]

/-- The references behind the records when one of them is replaced. -/
theorem recordTokens_set {records : List XrpBufferGroupRecord} {index : ℕ}
    {old record : XrpBufferGroupRecord} (h : records[index]? = some old) :
    {.ref old.buffer .buffer} + recordTokens (records.set index record) =
      {.ref record.buffer .buffer} + recordTokens records := by
  induction records generalizing index with
  | nil => simp at h
  | cons head tail ih =>
    cases index with
    | zero =>
      obtain rfl : head = old := by simpa using h
      simp only [recordTokens, List.set_cons_zero, List.map_cons, List.sum_cons]
      exact add_left_comm _ _ _
    | succ index =>
      have htail := ih (by simpa using h)
      simp only [recordTokens, List.set_cons_succ, List.map_cons, List.sum_cons] at htail ⊢
      rw [add_left_comm, htail, add_left_comm]

/-- A record holds a reference. -/
theorem mem_recordTokens {records : List XrpBufferGroupRecord} {record : XrpBufferGroupRecord}
    (h : record ∈ records) :
    .ref record.buffer .buffer ∈ recordTokens records :=
  Multiset.mem_of_le (List.le_sum_of_mem (List.mem_map_of_mem h)) (Multiset.mem_singleton_self _)

/-- The loop of `xrp_release_buffer_group`. -/
theorem verified_releaseBuffers (records : List XrpBufferGroupRecord) :
    XrpVerifies t (releaseBuffers records) (fun _ m => m = 0) (recordTokens records) := by
  induction records with
  | nil => exact verified_pure rfl
  | cons record rest ih =>
    refine verified_xrpReleaseBuffer.seq (recordTokens rest) rfl ?_
    rintro _ _ rfl
    rwa [zero_add]

/-- `xrp_retain_buffer_group` -/
theorem verified_xrpRetainBufferGroup :
    XrpVerifies t (xrpRetainBufferGroup g) (fun _ m => m = {.ref g .group} + {.ref g .group})
      {.ref g .group} :=
  verified_retain

/-- `xrp_release_buffer_group` -/
theorem verified_xrpReleaseBufferGroup :
    XrpVerifies t (xrpReleaseBufferGroup g) (fun _ m => m = 0) {.ref g .group} := by
  unfold xrpReleaseBufferGroup
  refine (verified_release (by simp)).andThen ?_
  rintro (_ | _) m hm
  · exact verified_pure hm
  · obtain ⟨object, hkind, rfl⟩ := hm
    obtain ⟨group, rfl⟩ := of_kind_group hkind
    refine verified_atGroup_own.seq (recordTokens group.buffer) rfl ?_
    rintro _ _ ⟨rfl, rfl⟩
    refine (verified_releaseBuffers group.buffer).seq {.own g ⟨0, .group group⟩} (add_comm _ _) ?_
    rintro _ _ rfl
    rw [zero_add]
    exact verified_free (by simp)

/-- `xrp_add_buffer_to_group` -/
theorem verified_xrpAddBufferToGroup {accessFlags : XrpAccessFlags} :
    XrpVerifies t (xrpAddBufferToGroup g b accessFlags) (fun _ m => m = {.ref b .buffer} + {.ref g .group})
      ({.ref b .buffer} + {.ref g .group}) := by
  unfold xrpAddBufferToGroup
  have hrealloc : XrpVerifies t (perform (.command fun _ => some (.realloc 0)))
      (fun _ m => m = {.ref b .buffer} + {.ref g .group}) ({.ref b .buffer} + {.ref g .group}) := by
    refine verified_command fun frame s x _ => ⟨_, rfl, trivial, ?_⟩
    rintro r w rfl
    exact ⟨_, rfl, rfl⟩
  refine hrealloc.andThen ?_
  rintro memory _ rfl
  refine verified_access_retaining fun object hkind hopen => ?_
  obtain ⟨group, rfl⟩ := of_kind_group hkind
  simp only
  cases hadd : group.add ⟨b, accessFlags⟩ memory with
  | none => exact ⟨rfl, rfl, hopen, fun φ hφ => hφ, {.ref b .buffer}, rfl, rfl⟩
  | some group' =>
    have happend : group'.buffer = group.buffer ++ [⟨b, accessFlags⟩] := by
      unfold XrpBufferGroup.add at hadd
      split at hadd
      · split at hadd
        · cases hadd
          rfl
        · cases hadd
      · cases hadd
        rfl
    have htokens : XrpObject.owns g (.group group') = {.ref b .buffer} +
        XrpObject.owns g (.group group) := by
      simp [XrpObject.owns, happend, recordTokens_append]
    refine ⟨rfl, rfl, hopen, fun φ hφ => by cases φ <;> exact hφ, 0, ?_, .buffer, by simp, ?_, ?_⟩
    · exact (zero_add _).trans htokens
    · simp [htokens]
    · rw [zero_add, add_comm]

/-- `xrp_set_buffer_in_group` -/
theorem verified_xrpSetBufferInGroup {index : ℕ} {accessFlags : XrpAccessFlags} :
    XrpVerifies t (xrpSetBufferInGroup g index b accessFlags)
      (fun _ m => m = {.ref b .buffer} + {.ref g .group})
      ({.ref b .buffer} + {.ref g .group}) := by
  unfold xrpSetBufferInGroup
  refine verified_xrpRetainBuffer.seq {.ref g .group} rfl ?_
  rintro _ _ rfl
  have hset : XrpVerifies t (atGroup g fun group => group.set index ⟨b, accessFlags⟩)
      (fun r m => m = {.ref r.2 .buffer} + {.ref g .group}) ({.ref b .buffer} + {.ref g .group}) := by
    refine verified_atGroup_ref fun group => ?_
    cases hindex : group.buffer[index]? with
    | none => exact ⟨{.ref b .buffer}, by simp [XrpBufferGroup.set, hindex],
        by simp [XrpBufferGroup.set, hindex]⟩
    | some record =>
      refine ⟨{.ref record.buffer .buffer}, ?_, by simp [XrpBufferGroup.set, hindex]⟩
      simpa [XrpBufferGroup.set, hindex] using recordTokens_set hindex
  refine hset.seq {.ref b .buffer} (by abel) ?_
  rintro ⟨status, old⟩ _ rfl
  refine verified_xrpReleaseBuffer.seq ({.ref g .group} + {.ref b .buffer}) (add_assoc _ _ _) ?_
  rintro _ _ rfl
  refine verified_pure ?_
  rw [zero_add, add_comm]

/-- `xrp_get_buffer_from_group`: the buffer is retained before anybody else can release it. -/
theorem verified_xrpGetBufferFromGroup {idx : ℕ} :
    XrpVerifies t (xrpGetBufferFromGroup g idx)
      (fun r m => Returned r ∧ m = {.ref g .group} + r.2.elim 0 fun b => {.ref b .buffer})
          {.ref g .group} := by
  unfold xrpGetBufferFromGroup
  rw [← zero_add {Token.ref g XrpKind.group}]
  refine verified_access_retaining fun object hkind hopen => ?_
  obtain ⟨group, rfl⟩ := of_kind_group hkind
  simp only
  cases hindex : group.buffer[idx]? with
  | none => exact ⟨rfl, rfl, hopen, fun φ hφ => hφ, 0, rfl, returned_failure, by simp⟩
  | some record =>
    refine ⟨rfl, rfl, hopen, fun φ hφ => hφ, 0, rfl, .buffer, by simp, ?_, returned_success, by simp⟩
    rw [zero_add]
    exact mem_recordTokens (List.mem_of_getElem? hindex)

/-- `xrp_buffer_group_get_info` -/
theorem verified_xrpBufferGroupGetInfo {info : XrpBufferGroupInfo} {idx outSz : ℕ} :
    XrpVerifies t (xrpBufferGroupGetInfo g info idx outSz) (fun _ m => m = {.ref g .group})
      {.ref g .group} := by
  rw [← zero_add {Token.ref g XrpKind.group}]
  exact verified_atGroup_ref fun _ => ⟨0, rfl, rfl⟩

end Groups

section Queues

/-- `if (p) f(p)` -/
theorem verified_ifGiven {α : Type} {p : Option α} {f : α → XrpProg Unit} {m m' : α → Multiset XrpToken}
    (h : ∀ a, p = some a → XrpVerifies t (f a) (fun _ m₀ => m₀ = m' a) (m a)) :
    XrpVerifies t (ifGiven p f) (fun _ m₀ => m₀ = p.elim 0 m') (p.elim 0 m) := by
  cases p with
  | none => exact verified_pure rfl
  | some a => exact h a rfl

/-- `xrp_create_nsp_queue` -/
theorem verified_xrpCreateNspQueue {d : ℕ} {nsid : Option (Vector UInt8 16)} {priority : Int32} :
    XrpVerifies t (xrpCreateNspQueue d nsid priority)
      (fun r m => Returned r ∧ m = {.ref d .device} + r.2.elim 0 fun q => {.ref q .queue})
          {.ref d .device} := by
  unfold xrpCreateNspQueue
  refine verified_xrpRetainDevice.andThen ?_
  rintro _ _ rfl
  refine (verified_alloc_served (by simp) (by simp [XrpObject.Closing])).seq
    ({.ref d .device} + {.ref d .device}) (zero_add _).symm ?_
  rintro (_ | q) _ rfl
  · refine verified_xrpReleaseDevice.seq {.ref d .device} (zero_add _) ?_
    rintro _ _ rfl
    exact verified_pure ⟨returned_failure, by simp⟩
  · refine (verified_atQueue_own rfl rfl rfl).seq
      ({.service q .fresh 0} + ({.ref d .device} + {.ref d .device}))
      (add_assoc _ _ _) ?_
    rintro _ _ ⟨-, rfl⟩
    have hnsid (queue : XrpQueue) : XrpVerifies t
        (ifGiven nsid fun nsid => atQueue q fun q => ((), { q with useNsid := true, nsid := nsid }))
        (fun _ m => ∃ queue' : XrpQueue, queue'.device = queue.device ∧ queue'.syncExit = queue.syncExit ∧
          queue'.requestQueue = queue.requestQueue ∧ m = {.own q ⟨1, .queue queue'⟩})
            {.own q ⟨1, .queue queue⟩} := by
      cases nsid with
      | none => exact verified_pure ⟨queue, rfl, rfl, rfl, rfl⟩
      | some nsid =>
        refine (verified_atQueue_own rfl rfl rfl).mono ?_
        rintro _ _ ⟨-, rfl⟩
        exact ⟨{ queue with useNsid := true, nsid := nsid }, rfl, rfl, rfl, rfl⟩
    refine (hnsid _).seq ({.service q .fresh 0} + ({.ref d .device} + {.ref d .device})) rfl ?_
    rintro _ _ ⟨queue, hdevice, hsync, hrequests, rfl⟩
    refine (verified_atQueue_own rfl rfl rfl).seq
      ({.service q .fresh 0} + ({.ref d .device} + {.ref d .device})) rfl ?_
    rintro _ _ ⟨-, rfl⟩
    set filled : XrpQueue := { queue with priority := priority } with hfilled
    have hspawn : XrpVerifies t (perform (.spawn q)) (fun _ m => m = {.ref q .queue})
        ({.own q ⟨1, .queue filled⟩} + {.service q .fresh filled.syncExit} +
            XrpObject.owns q (.queue filled)) :=
      verified_spawn rfl
    have howns : XrpObject.owns q (.queue filled) = {.ref d .device} := by
      simp [XrpObject.owns, hfilled, hdevice, hrequests, requestTokens]
    have hzero : filled.syncExit = 0 := hsync
    rw [howns, hzero] at hspawn
    have hcreate : XrpVerifies t (xrpImplCreateQueue q) (fun r m => r = .success ∧ m = {.ref q .queue})
        ({.own q ⟨1, .queue filled⟩} + {.service q .fresh 0} + {.ref d .device}) :=
      hspawn.andThen fun _ _ hm => verified_pure ⟨rfl, hm⟩
    refine hcreate.seq {.ref d .device} ?_ ?_
    · simp only [← add_assoc, hfilled]
    · rintro _ _ ⟨rfl, rfl⟩
      exact verified_pure ⟨returned_success, add_comm _ _⟩

/-- `xrp_retain_queue` -/
theorem verified_xrpRetainQueue :
    XrpVerifies t (xrpRetainQueue q) (fun _ m => m = {.ref q .queue} + {.ref q .queue}) {.ref q .queue} :=
  verified_retain

/-- `xrp_queue_push` -/
theorem verified_xrpQueuePush {rq : XrpRequest} :
    XrpVerifies t (xrpQueuePush q rq) (fun _ m => m = {.ref q .queue}) (rq.tokens q + {.ref q .queue}) := by
  refine verified_atQueue_ref (fun _ => rfl) (fun _ => rfl) (fun _ => rfl) fun queue => ⟨0, ?_, zero_add _⟩
  simp [XrpQueue.push, requestTokens, add_comm]

/-- The tokens of a queue that is destroyed, with the requests that are left. -/
def destroyed (q : ℕ) (queue : XrpQueue) : Multiset XrpToken :=
  {.own q ⟨0, .queue queue⟩} + {.service q .settled queue.syncExit} + XrpObject.owns q (.queue queue)

/-- Another thread waits for the thread of a queue, which has then processed all requests. -/
theorem verified_endThread (ht : t ≠ .service q) :
    XrpVerifies t (endThread q) (fun _ m => ∃ queue : XrpQueue, queue.requestQueue = [] ∧
      m = destroyed q queue)
      {.dying q .queue} := by
  unfold endThread
  refine (verified_join rfl ht).andThen ?_
  rintro _ _ ⟨rfl, object, hkind, hdrained, rfl⟩
  obtain ⟨queue, rfl⟩ := of_kind_queue hkind
  exact verified_pure ⟨queue, hdrained.2, rfl⟩

/-- The thread of a queue takes the queue over. -/
theorem verified_endThread_self {l : ℕ} {exit : Bool} :
    XrpVerifies (.service q) (endThread q)
      (fun _ m => ∃ queue, m = destroyed q queue + {.own l ⟨1, .variable true⟩})
      ({.dying q .queue} + {.service q .active l} + {.own l ⟨1, .variable exit⟩}) := by
  unfold endThread
  refine (verified_join_self rfl).seq ({.service q .active l} + {.own l ⟨1, .variable exit⟩})
    (add_assoc _ _ _) ?_
  rintro _ _ ⟨rfl, rfl⟩
  refine (verified_atQueue_service (fun _ => rfl) (fun _ => rfl) fun _ => rfl).seq
    ({.dying q .queue} + {.own l ⟨1, .variable exit⟩}) (add_left_comm _ _ _) ?_
  rintro _ _ ⟨queue, rfl, rfl, rfl⟩
  refine verified_atVariable.seq ({.dying q .queue} + {.service q .active queue.syncExit}) (by abel) ?_
  rintro _ _ ⟨-, rfl⟩
  refine verified_detach.keep {.own queue.syncExit ⟨1, .variable true⟩} (add_comm _ _) ?_
  rintro _ _ ⟨object, hkind, hpriv, rfl⟩
  obtain ⟨queue', rfl⟩ := of_kind_queue hkind
  exact ⟨queue', by simp only [destroyed, ← hpriv]; rfl⟩

/-- The tokens of a queue that is destroyed and has no request left. -/
def emptied (q : ℕ) (queue : XrpQueue) : Multiset XrpToken :=
  {.own q ⟨0, .queue queue⟩} + {.service q .settled queue.syncExit} + {.ref queue.device .device}

/-- A queue without requests. -/
theorem destroyed_eq_emptied {queue : XrpQueue} (h : queue.requestQueue = []) :
    destroyed q queue = emptied q queue := by
  simp [destroyed, emptied, XrpObject.owns, requestTokens, h]

/-- `xrp_queue_destroy`, called by another thread. -/
theorem verified_xrpQueueDestroy (ht : t ≠ .service q) :
    XrpVerifies t (xrpQueueDestroy q) (fun _ m => ∃ queue, m = emptied q queue) {.dying q .queue} := by
  unfold xrpQueueDestroy
  refine (verified_atQueue_dying (fun _ => rfl) (fun _ _ => rfl) (fun _ => rfl) fun _ => rfl).andThen ?_
  rintro _ _ rfl
  refine (verified_endThread ht).andThen ?_
  rintro _ _ ⟨queue, hempty, rfl⟩
  rw [destroyed_eq_emptied hempty, emptied, add_assoc]
  refine (verified_atQueue_own rfl rfl rfl).seq
    ({.service q .settled queue.syncExit} + {.ref queue.device .device})
    rfl ?_
  rintro _ _ ⟨rfl, rfl⟩
  simp only [hempty, ne_eq, not_true_eq_false, if_false]
  exact verified_pure ⟨queue, (add_assoc _ _ _).symm⟩

/-- The requests that are left behind have no event: an event would still refer to the queue. -/
theorem event_eq_none {s : State XrpObject XrpWorld} {x : Finset ℕ} {frame : Multiset XrpToken}
    {queue : XrpQueue} (hb : Balanced xrpDiscipline s x
      (destroyed q queue + frame + (contents xrpDiscipline s x + xrpDiscipline.shared s.env)))
    {rq : XrpRequest} (hrq : rq ∈ queue.requestQueue) : rq.event = none := by
  by_contra hsome
  obtain ⟨e, he⟩ := Option.ne_none_iff_exists'.mp hsome
  have hevent : .ref e (.event q) ∈ rq.tokens q := by simp [XrpRequest.tokens, he]
  have hrequests : .ref e (.event q) ∈ requestTokens q queue.requestQueue :=
    Multiset.mem_of_le (List.le_sum_of_mem (List.mem_map_of_mem hrq)) hevent
  obtain ⟨⟨n, object⟩, hcell, hx, hkind, -⟩ := hb.of_ref (a := e) (k := .event q)
    (by simp [destroyed, XrpObject.owns, hrequests])
  obtain ⟨event, rfl, rfl⟩ := of_kind_event hkind
  have href : .ref event.queue .queue ∈ contents xrpDiscipline s x :=
    hb.mem_contents hcell hx (by simp [XrpObject.owns])
  obtain ⟨-, -, hshared, -⟩ := hb.of_ref (a := event.queue) (k := .queue) (by simp [href])
  exact hshared (hb.of_own (a := event.queue) (c := ⟨0, .queue queue⟩) (by simp [destroyed])).2

/-- `xrp_queue_destroy`, called by the thread of the queue. -/
theorem verified_xrpQueueDestroy_self {l : ℕ} {exit : Bool} :
    XrpVerifies (.service q) (xrpQueueDestroy q)
      (fun _ m => ∃ queue, m = emptied q queue + {.own l ⟨1, .variable true⟩})
      ({.dying q .queue} + ({.service q .active l} + {.own l ⟨1, .variable exit⟩})) := by
  unfold xrpQueueDestroy
  refine (verified_atQueue_dying (fun _ => rfl) (fun _ _ => rfl) (fun _ => rfl) fun _ => rfl).seq
    ({.service q .active l} + {.own l ⟨1, .variable exit⟩}) rfl ?_
  rintro _ _ rfl
  refine verified_endThread_self.seq 0 (by abel) ?_
  rintro _ _ ⟨queue, rfl⟩
  refine (verified_atQueue_own rfl rfl rfl).seq
    ({.service q .settled queue.syncExit} + XrpObject.owns q (.queue queue) +
    {.own l ⟨1, .variable true⟩}) (by simp only [destroyed]; abel) ?_
  rintro _ _ ⟨rfl, rfl⟩
  split
  · have habandon : XrpVerifies (.service q)
      (perform (.command fun _ => some (.abandon q queue.requestQueue)))
        (fun _ m => m = emptied q queue) (destroyed q queue) := by
      refine verified_command fun frame s x hb => ?_
      have hallowed : xrpEnvironment.Allowed (.service q) (.abandon q queue.requestQueue) s.env :=
        ⟨rfl, fun rq hrq => event_eq_none hb hrq⟩
      refine ⟨_, rfl, hallowed, ?_⟩
      rintro r w rfl
      refine ⟨_, rfl, ?_⟩
      simp only [xrpDiscipline_shared, XrpWorld.shared, List.map_append, List.map_map,
        List.sum_append, destroyed, emptied, XrpObject.owns, requestTokens, Function.comp_def]
      change _ + s.env.assets = _ + s.env.assets
      abel
    refine habandon.keep {.own l ⟨1, .variable true⟩} (by simp only [destroyed]; abel) ?_
    rintro _ _ rfl
    exact ⟨queue, rfl⟩
  · rename_i hempty
    refine verified_pure ⟨queue, ?_⟩
    rw [← destroyed_eq_emptied (not_not.mp hempty), destroyed]
    abel

/-- `free` of a queue that is destroyed. -/
theorem verified_free_queue {queue : XrpQueue} : XrpVerifies t (perform (.free q)) (fun _ m => m = 0)
    ({.own q ⟨0, .queue queue⟩} + {.service q .settled queue.syncExit}) := by
  refine (verified_free_served rfl).updatePost ?_
  rintro _ _ rfl
  exact ⟨0, updates_forget (.gone q) rfl (by simp), rfl⟩

/-- `xrp_release_queue`, called by another thread. -/
theorem verified_xrpReleaseQueue (ht : t ≠ .service q) :
    XrpVerifies t (xrpReleaseQueue q) (fun _ m => m = 0) {.ref q .queue} := by
  unfold xrpReleaseQueue
  refine verified_release_served.andThen ?_
  rintro (_ | _) _ rfl
  · exact verified_pure rfl
  · refine (verified_xrpQueueDestroy ht).andThen ?_
    rintro _ _ ⟨queue, rfl⟩
    rw [emptied, add_assoc]
    refine (verified_atQueue_own rfl rfl rfl).seq
      ({.service q .settled queue.syncExit} + {.ref queue.device .device})
      rfl ?_
    rintro _ _ ⟨rfl, rfl⟩
    refine verified_xrpReleaseDevice.seq ({.own q ⟨0, .queue queue⟩} + {.service q .settled queue.syncExit})
      (by abel) ?_
    rintro _ _ rfl
    rw [zero_add]
    exact verified_free_queue

end Queues

end HailoDsp.Xrp
