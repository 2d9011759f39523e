import HailoDsp.Foundations.Schedule
import HailoDsp.Xrp.Clients

/-!
# Runs of the XRP library

Any number of disciplined clients call the library, and pass objects to one another. In every
interleaving of their threads and of the threads of the queues nothing is used after it has been
freed, and when all threads have ended nothing is left but what the library leaks by itself: the
descriptor of a device that there was no memory for, and requests of a queue that is destroyed by
its own thread.
-/

namespace HailoDsp.Xrp

open CountedHeap ThreadPool

/-- The bodies of all threads. -/
def xrpBodies (clients : ℕ → Client) : Thread → XrpProg Bool
  | .client i => (clients i).prog
  | .service q => xrpQueueProcess q

/-- The state in which some clients are about to start. -/
def xrpStart (active : ℕ → Bool) : State XrpObject XrpWorld :=
  ⟨fun _ => none, 1, fun _ => .idle, active, .start⟩

/-- The pools that disciplined clients can get to. -/
abbrev XrpReachable (clients : ℕ → Client) (active : ℕ → Bool) :
    Pool (Op XrpObject XrpCmd) Thread (State XrpObject XrpWorld) → Prop :=
  Pool.Reachable (machine xrpEnvironment) (xrpBodies clients) (xrpStart active)

section Runs

variable {clients : ℕ → Client} {active : ℕ → Bool}
  {pool : Pool (Op XrpObject XrpCmd) Thread (State XrpObject XrpWorld)}

/-- The bodies of all threads are verified. -/
theorem bodiesVerified (hclients : ∀ i, Disciplined (clients i) 0) :
    BodiesVerified (machine xrpEnvironment) (assertions xrpDiscipline) (xrpBodies clients) where
  body t m hstart := by
    cases t with
    | client i =>
      obtain rfl : m = 0 := hstart
      exact (hclients i).verified i
    | service q =>
      obtain ⟨p, rfl⟩ := hstart
      exact verified_xrpQueueProcess
  stop t m frame s hends _ hinv := hinv.stop hends

/-- The resources can be divided among the threads at the beginning. -/
theorem xrpStart_ok (hclients : ∀ i, Disciplined (clients i) 0) :
    Pool.Ok (machine xrpEnvironment) (assertions xrpDiscipline) (xrpBodies clients) ⟨xrpStart active,
      xrpBodies clients⟩ := by
  refine Pool.Ok.initial 0 (bodiesVerified hclients) ?_ (fun t hrun => ?_) fun _ _ => rfl
  · exact Inv.initial (fun _ => rfl) (fun _ => rfl) rfl rfl
  · cases t with
    | client i => rfl
    | service q => simp [machine, Running, xrpStart] at hrun

/-- The resources can be divided among the threads in every pool that they can get to. -/
theorem XrpReachable.ok (hclients : ∀ i, Disciplined (clients i) 0) (h : XrpReachable clients active pool) :
    pool.Ok (machine xrpEnvironment) (assertions xrpDiscipline) (xrpBodies clients) :=
  Pool.Reachable.ok (bodiesVerified hclients) (xrpStart_ok hclients) h

end Runs

section Samples

/-- An operating system that refuses nothing. -/
def obliging {β : Type} : XrpCmd β → XrpWorld → Option (β × XrpWorld)
  | .openDevice _, w =>
    let fd := 3 + w.descriptors.card
    if fd ∈ w.descriptors then none else some (some fd, { w with descriptors := fd ::ₘ w.descriptors })
  | .close fd, w => some ((), { w with descriptors := w.descriptors.erase fd })
  | .ioctlAlloc _ size, w =>
    let addr := 4096 * w.blocks.card
    some (some addr, { w with blocks := (addr, size) ::ₘ w.blocks })
  | .ioctlFree _ addr size, w => some ((), { w with blocks := w.blocks.erase (addr, size) })
  | .ioctlSync _ _ _ _ _, w => some (true, w)
  | .ioctlQueue _ _, w => some (true, w)
  | .malloc _, w =>
    let p := 1000 + w.memory.card
    if p ∈ w.memory then none else some (some p, { w with memory := p ::ₘ w.memory })
  | .free p, w => some ((), { w with memory := w.memory.erase p })
  | .realloc _, w => some (true, w)
  | .forget fd, w => some ((), { w with unclosed := fd ::ₘ w.unclosed })
  | .abandon queue requests, w => some ((), { w with abandoned := w.abandoned ++ requests.map (queue, ·) })
  | .post handles, w => some ((), { w with bag := w.bag + handles })
  | .fetch, w => some (0, w)

/-- An operating system that refuses nothing answers as it should. -/
def xrpOracle : Oracle xrpEnvironment where
  answer := obliging
  sound := by
    intro β cmd w w' r h
    cases cmd with
    | openDevice idx =>
      obtain ⟨hnew, heq⟩ := Option.ite_none_left_eq_some.mp h
      obtain ⟨rfl, rfl⟩ := Prod.mk.inj (Option.some_inj.mp heq)
      exact .inr ⟨_, hnew, rfl, rfl⟩
    | malloc size =>
      obtain ⟨hnew, heq⟩ := Option.ite_none_left_eq_some.mp h
      obtain ⟨rfl, rfl⟩ := Prod.mk.inj (Option.some_inj.mp heq)
      exact .inr ⟨_, hnew, rfl, rfl⟩
    | ioctlAlloc fd size =>
      obtain ⟨rfl, rfl⟩ := Prod.mk.inj (Option.some_inj.mp h)
      exact .inr ⟨_, rfl, rfl⟩
    | fetch =>
      obtain ⟨rfl, rfl⟩ := Prod.mk.inj (Option.some_inj.mp h)
      exact ⟨w.bag, (add_zero _).symm, rfl⟩
    | _ =>
      obtain ⟨-, rfl⟩ := Prod.mk.inj (Option.some_inj.mp h)
      exact rfl

/-- The calls of `sampleClient` for a queue. -/
def sampleQueue (queue : ℕ) : Client :=
  .step (.enqueueCommand queue [1, 2, 3] 0 0 none true) fun first =>
    .step (.enqueueCommand queue [] 0 0 none false) fun _ =>
      .step (.releaseQueue queue) fun _ =>
        match first.2 with
        | none => .pure false
        | some event => .step (.releaseEvent event) fun _ => .pure false

/-- A client that enqueues a command with an event and one without, and waits for neither. -/
def sampleClient : Client :=
  .step (.openDevice 0) fun opened =>
    match opened.2 with
    | none => .pure false
    | some device =>
      .step (.createQueue device) fun created =>
        .step (.releaseDevice device) fun _ =>
          match created.2 with
          | none => .pure false
          | some queue => sampleQueue queue

/-- A client that has a queue gives it back. -/
theorem sampleQueue_disciplined (queue : ℕ) : Disciplined (sampleQueue queue) {.queue queue} := by
  refine ⟨_, _, 0, .enqueueCommand, (add_zero _).symm, fun first _ => ?_⟩
  refine ⟨_, _, given (.event · queue) first.2, .enqueueCommand, by rw [add_zero], fun second hsecond => ?_⟩
  obtain ⟨s, e⟩ := second
  obtain rfl : e = none := by simpa [XrpCall.Returns, Enqueued] using hsecond
  refine ⟨_, _, given (.event · queue) first.2, .releaseQueue, by simp [given], fun _ _ => ?_⟩
  rw [zero_add]
  cases first.2 with
  | none => simp [Disciplined, given]
  | some event =>
    refine ⟨_, _, 0, .releaseEvent (q := queue), (add_zero _).symm, fun _ _ => ?_⟩
    simp [Disciplined]

/-- The client gives everything back. -/
theorem sampleClient_disciplined : Disciplined sampleClient 0 := by
  refine ⟨_, _, 0, .openDevice, rfl, fun opened _ => ?_⟩
  obtain ⟨s, device⟩ := opened
  cases device with
  | none => simp [Disciplined, given]
  | some device =>
    refine ⟨_, _, 0, .createQueue, rfl, fun created _ => ?_⟩
    refine ⟨_, _, given .queue created.2, .releaseDevice, add_zero _, fun _ _ => ?_⟩
    rw [zero_add]
    obtain ⟨s, queue⟩ := created
    cases queue with
    | none => simp [Disciplined, given]
    | some queue => exact sampleQueue_disciplined queue

/-- A run of `sampleClient`. -/
def sampleRun (schedule : List Thread) : Pool (Op XrpObject XrpCmd) Thread (State XrpObject XrpWorld) :=
  play xrpOracle (xrpBodies fun _ => sampleClient) schedule ⟨xrpStart (· == 0),
    xrpBodies fun _ => sampleClient⟩

/-- A run of `sampleClient` is a run of the library. -/
theorem sampleRun_reachable (schedule : List Thread) :
    XrpReachable (fun _ => sampleClient) (· == 0) (sampleRun schedule) :=
    play_sound xrpOracle schedule .refl

/-- The client drops its last references before the thread of the queue has processed anything. -/
def hasty (steps : ℕ) : List Thread := List.replicate 23 (.client 0) ++ List.replicate steps (.service 2)

/-- The thread of the queue has processed everything when the client drops its last references. -/
def orderly : List Thread :=
  List.replicate 20 (.client 0) ++ List.replicate 22 (.service 2) ++ List.replicate 5 (.client 0) ++
    List.replicate 3 (.service 2) ++ List.replicate 9 (.client 0)

/-- In the orderly run all threads end. -/
theorem orderly_stopped (t : Thread) : ¬ Running (sampleRun orderly).state t := by
  have hactive : (sampleRun orderly).state.active = Function.update (· == 0) 0 false := rfl
  have hservice : (sampleRun orderly).state.service =
      Function.update (Function.update (Function.update (fun _ => .idle) 2 .running) 2 .finished) 2
        .joined := rfl
  cases t with
  | client i => by_cases hi : i = 0 <;> simp [Running, hactive, hi]
  | service q => by_cases hq : q = 2 <;> simp [Running, hservice, hq]

end Samples

section Runs

variable {clients : ℕ → Client} {active : ℕ → Bool}
  {pool : Pool (Op XrpObject XrpCmd) Thread (State XrpObject XrpWorld)}

/-- However disciplined clients and the threads of their queues are interleaved, nothing is used or
released after it has been freed, no call is made on a closed descriptor, no memory is given back twice. -/
theorem xrp_no_fault {t : Thread} {β : Type} {op : Op XrpObject XrpCmd β} {next : β → XrpProg Bool}
    (hclients : ∀ i, Disciplined (clients i) 0) (h : XrpReachable clients active pool)
    (hrun : Running pool.state t) (hcode : pool.code t = .step op next) :
    ¬ CountedHeap.Fault xrpEnvironment t op pool.state :=
  Pool.Ok.no_fault (h.ok hclients) hrun hcode

/-- The thread of a queue frees the queue in the hasty run. -/
theorem xrp_no_fault_hasty :
    ¬ CountedHeap.Fault xrpEnvironment (.service 2)
    (.free 2 : Op XrpObject XrpCmd Unit) (sampleRun (hasty 19)).state := by
  have hrun : Running (sampleRun (hasty 19)).state (.service 2) := Or.inr rfl
  exact xrp_no_fault (fun _ => sampleClient_disciplined) (sampleRun_reachable (hasty 19)) hrun rfl

/-- The rank of a kind: an object refers only to objects of lower ranks, queues apart. -/
def XrpKind.rank : XrpKind → ℕ
  | .device => 0
  | .buffer => 1
  | .group => 2
  | .queue => 0
  | .event _ => 3
  | .variable => 0

/-- A group owns references to buffers. -/
theorem of_mem_recordTokens {records : List XrpBufferGroupRecord} {tok : XrpToken}
    (h : tok ∈ recordTokens records) :
    ∃ b, tok = .ref b .buffer := by
  induction records with
  | nil => simp [recordTokens] at h
  | cons record rest ih =>
    rw [recordTokens, List.map_cons, List.sum_cons, Multiset.mem_add] at h
    rcases h with hin | hin
    · exact ⟨record.buffer, Multiset.mem_singleton.mp hin⟩
    · exact ih hin

/-- A request owns references and memory. -/
theorem of_mem_requestTokens {q : ℕ} {requests : List XrpRequest} {tok : XrpToken}
    (h : tok ∈ requestTokens q requests) :
    (∃ b k, tok = .ref b k) ∨ ∃ y, tok = .asset y := by
  have helim {p : Option ℕ} {f : ℕ → XrpToken} (hin : tok ∈ p.elim 0 fun a => ({f a} : Multiset XrpToken)) :
      ∃ a, tok = f a := by
    cases p with
    | none => simp at hin
    | some a => exact ⟨a, Multiset.mem_singleton.mp hin⟩
  induction requests with
  | nil => simp [requestTokens] at h
  | cons rq rest ih =>
    rw [requestTokens, List.map_cons, List.sum_cons, Multiset.mem_add] at h
    rcases h with hin | hin
    · simp only [XrpRequest.tokens, Multiset.mem_add] at hin
      rcases hin with ((hitem | hdata) | hgroup) | hevent
      · exact .inr ⟨_, Multiset.mem_singleton.mp hitem⟩
      · obtain ⟨p, hp⟩ := helim hdata
        exact .inr ⟨_, hp⟩
      · obtain ⟨g, hg⟩ := helim hgroup
        exact .inl ⟨_, _, hg⟩
      · obtain ⟨e, he⟩ := helim hevent
        exact .inl ⟨_, _, he⟩
    · exact ih hin

/-- What is left in a world with nothing in the bag and no requests left behind. -/
theorem shared_eq {w : XrpWorld} (hbag : w.bag = 0) (habandoned : w.abandoned = []) :
    w.shared = (w.unclosed.map XrpAsset.descriptor).map .asset := by
  simp [XrpWorld.shared, hbag, habandoned]

/-- A reference that an object owns is to an object of a lower rank, queues apart. -/
theorem rank_lt {a b : ℕ} {object : XrpObject} {k : XrpKind} (h : .ref b k ∈ object.owns a)
    (hobject : object.kind ≠ .queue) (hk : k ≠ .queue) : k.rank < object.kind.rank := by
  cases object with
  | device d => simp [XrpObject.owns] at h
  | buffer buf =>
    simp only [XrpObject.owns, XrpBuffer.tokens] at h
    cases htype : buf.type <;> simp [htype] at h
    obtain ⟨-, rfl⟩ := h
    simp [XrpKind.rank]
  | group g =>
    obtain ⟨b, hb⟩ := of_mem_recordTokens h
    obtain ⟨-, rfl⟩ := Token.ref.inj hb
    simp [XrpKind.rank]
  | queue q => simp at hobject
  | event e =>
    simp [XrpObject.owns] at h
    exact absurd h.2 hk
  | _ => simp [XrpObject.owns] at h

/-- What is owned is a reference or an asset. -/
theorem of_mem_owns {a : ℕ} {object : XrpObject} {tok : XrpToken} (h : tok ∈ object.owns a) :
    (∃ b k, tok = .ref b k) ∨ ∃ y, tok = .asset y := by
  cases object with
  | device d => exact .inr ⟨_, Multiset.mem_singleton.mp h⟩
  | buffer buf =>
    rw [XrpObject.owns, XrpBuffer.tokens] at h
    split at h
    · simp at h
    · rcases Multiset.mem_add.mp h with hin | hin
      · exact .inl ⟨_, _, Multiset.mem_singleton.mp hin⟩
      · exact .inr ⟨_, Multiset.mem_singleton.mp hin⟩
  | group g =>
    obtain ⟨b, hb⟩ := of_mem_recordTokens h
    exact .inl ⟨b, _, hb⟩
  | queue q =>
    rcases Multiset.mem_add.mp h with hin | hin
    · exact .inl ⟨_, _, Multiset.mem_singleton.mp hin⟩
    · exact of_mem_requestTokens hin
  | event e => exact .inl ⟨_, _, Multiset.mem_singleton.mp h⟩
  | _ => simp [XrpObject.owns] at h

/-- When no thread is running, no thread has any tokens. -/
theorem XrpReachable.inv_of_stopped (hclients : ∀ i, Disciplined (clients i) 0)
    (h : XrpReachable clients active pool) (hstopped : ∀ t, ¬ Running pool.state t) :
    Inv xrpDiscipline 0 pool.state := by
  obtain ⟨share, hinv, hthreads⟩ := h.ok hclients
  have hshare : share = 0 := Finsupp.ext fun t => ((hthreads t).idle (hstopped t)).1
  rwa [hshare, Finsupp.sum_zero_index] at hinv

/-- What is outstanding tells what the operating system has given to the process. -/
theorem XrpWorld.of_outstanding {w : XrpWorld} (h : w.outstanding = w.unclosed.map .descriptor) :
    w.blocks = 0 ∧ w.memory = 0 ∧ w.descriptors = w.unclosed := by
  have hblocks : w.blocks = 0 := by
    refine Multiset.eq_zero_of_forall_notMem fun block hin => ?_
    have hout : XrpAsset.block block.1 block.2 ∈ w.outstanding := by simp [XrpWorld.outstanding, hin]
    simp [h] at hout
  have hmemory : w.memory = 0 := by
    refine Multiset.eq_zero_of_forall_notMem fun p hin => ?_
    have hout : XrpAsset.memory p ∈ w.outstanding := by simp [XrpWorld.outstanding, hin]
    simp [h] at hout
  refine ⟨hblocks, hmemory, ?_⟩
  simp only [XrpWorld.outstanding, hblocks, hmemory, Multiset.map_zero, add_zero] at h
  exact Multiset.map_injective (fun fd fd' heq => XrpAsset.descriptor.inj heq) h

/-- When all threads have ended, having left no handles in the bag, and no request was left behind,
everything has been given back except the descriptors of devices for which there was no memory. -/
theorem xrp_no_leak (hclients : ∀ i, Disciplined (clients i) 0) (h : XrpReachable clients active pool)
    (hstopped : ∀ t, ¬ Running pool.state t) (hbag : pool.state.env.bag = 0)
    (habandoned : pool.state.env.abandoned = []) :
    (∀ a, pool.state.cells a = none) ∧ pool.state.env.blocks = 0 ∧ pool.state.env.memory = 0 ∧
      pool.state.env.descriptors = pool.state.env.unclosed := by
  have hinv := h.inv_of_stopped hclients hstopped
  obtain ⟨hcells, hout⟩ := hinv.quiescent (fun q => hstopped (.service q)) (shared_eq hbag habandoned)
    (fun _ _ _ hin => of_mem_owns hin) XrpKind.rank fun _ _ _ _ hin hobject hk => rank_lt hin hobject hk
  exact ⟨hcells, XrpWorld.of_outstanding hout⟩

/-- Nothing is left after the orderly run. -/
theorem xrp_no_leak_orderly :
    (∀ a, (sampleRun orderly).state.cells a = none) ∧ (sampleRun orderly).state.env.blocks = 0 ∧
      (sampleRun orderly).state.env.memory = 0 ∧
        (sampleRun orderly).state.env.descriptors = (sampleRun orderly).state.env.unclosed :=
  xrp_no_leak (fun _ => sampleClient_disciplined) (sampleRun_reachable orderly) orderly_stopped rfl rfl

/-- A request that is left behind is one that nobody can wait for. -/
theorem xrp_abandoned_without_event (hclients : ∀ i, Disciplined (clients i) 0)
    (h : XrpReachable clients active pool) {q : ℕ} {rq : XrpRequest}
    (hin : (q, rq) ∈ pool.state.env.abandoned) : rq.event = none := by
  have hall : ∀ entry ∈ pool.state.env.abandoned, entry.2.event = none := by
    refine environment_invariant (P := fun w => ∀ entry ∈ w.abandoned, entry.2.event = none) ?_
      (bodiesVerified hclients) (xrpStart_ok hclients) h (by simp [xrpStart, XrpWorld.start])
    intro t β cmd w w' r hallowed hanswers hbefore
    cases cmd with
    | abandon queue requests =>
      obtain rfl := hanswers
      intro entry hentry
      rcases List.mem_append.mp hentry with hold | hnew
      · exact hbefore entry hold
      · obtain ⟨rq, hrq, rfl⟩ := List.mem_map.mp hnew
        exact hallowed.2 rq hrq
    | openDevice _ => rcases hanswers with ⟨-, rfl⟩ | ⟨fd, -, -, rfl⟩ <;> exact hbefore
    | ioctlAlloc _ _ => rcases hanswers with ⟨-, rfl⟩ | ⟨addr, -, rfl⟩ <;> exact hbefore
    | malloc _ => rcases hanswers with ⟨-, rfl⟩ | ⟨p, -, -, rfl⟩ <;> exact hbefore
    | fetch =>
      obtain ⟨rest, -, rfl⟩ := hanswers
      exact hbefore
    | _ =>
      obtain rfl := hanswers
      exact hbefore
  exact hall (q, rq) hin

/-- In the hasty run the request without an event is left behind. -/
theorem xrp_abandoned_hasty : ∃ rq :
    XrpRequest, (2, rq) ∈ (sampleRun (hasty 15)).state.env.abandoned ∧ rq.event = none := by
  have hin : (2, (⟨1002, some 1003, [], 0, 0, none, none⟩ : XrpRequest)) ∈
      (sampleRun (hasty 15)).state.env.abandoned :=
    List.mem_singleton.mpr rfl
  exact ⟨_, hin, xrp_abandoned_without_event (fun _ => sampleClient_disciplined)
    (sampleRun_reachable (hasty 15)) hin⟩

end Runs

end HailoDsp.Xrp
