import HailoDsp.Xrp.WaitAnyBroadcasts

/-!
# Runs of threads that wait for one of several events

What holds in every state that threads can get to when they call `xrp_wait_any` and
`xrp_impl_broadcast_event` in any order.
-/

namespace HailoDsp.Xrp.WaitAny

open OwnedChain

section Runs

variable {s s' : WaitState} {entries : ℕ → List (EventPtr × LinkPtr)} {t : ℕ}

/-- A thread that follows the pointer that a failed `calloc` has returned. -/
def WaitState.OutOfMemory (s : WaitState) (t : ℕ) : Prop :=
  ∃ call, s.position t = .registering call 0 ∧ call.link = none

/-- A thread that waits for a mutex that another one holds, or for its group to be signaled. -/
def WaitState.Blocked (s : WaitState) (t : ℕ) : Prop :=
  (∃ e event t', s.events (.event e) = some event ∧ event.holder = some t') ∨
    ∃ call, s.position t = .waiting call ∧ ¬ s.Signaled (.group t)

/-- What can become of a thread that takes its next step. -/
def Advances (s : WaitState) (t : ℕ) (outcome : Outcome) : Prop :=
  (outcome = .fault ∧ s.OutOfMemory t) ∨ (outcome = .wait ∧ s.Blocked t) ∨
    ∃ s' entries, outcome = .next s' ∧ Consistent s' entries

/-- A step that takes the mutex of an event. -/
theorem lock_advances {e : ℕ} {f : XrpEvent → Outcome} {event : XrpEvent}
    (hevent : s.events (.event e) = some event) (hf : event.holder = none → Advances s t (f event)) :
    Advances s t (s.lock e f) := by
  simp only [WaitState.lock, WaitState.deref, hevent]
  by_cases hholder : event.holder = none
  · rw [if_pos hholder]
    exact hf hholder
  · rw [if_neg hholder]
    obtain ⟨t', hheld⟩ := Option.ne_none_iff_exists'.mp hholder
    exact .inr (.inl ⟨rfl, .inl ⟨e, event, t', hevent, hheld⟩⟩)

/-- A round of the first loop. -/
theorem Consistent.registerEvent (h : Consistent s entries) {call : WaitCall} {i : ℕ}
    (hposition : s.position t = .registering call i) : Advances s t (registerEvent s t call i) := by
  have hok := h.thread t
  have hfits := hok.fits
  rw [hposition] at hfits
  obtain ⟨-, hnone⟩ := hfits
  unfold WaitAny.registerEvent
  cases hat : call.event[i]? with
  | none => exact .inr (.inr ⟨_, entries, rfl, h.startWaiting hposition hat⟩)
  | some e =>
    have hcall : (s.position t).call = some call := by
      rw [hposition]
      rfl
    obtain ⟨event, hevent⟩ := Option.isSome_iff_exists.mp (hok.live call hcall e (List.mem_of_getElem? hat))
    refine lock_advances hevent fun hholder => ?_
    by_cases hpending : event.status = .pending
    · rw [if_pos hpending]
      cases hlink : call.link with
      | none =>
        refine .inl ⟨rfl, call, ?_, hlink⟩
        rw [hposition, hnone hlink]
      | some link =>
        obtain ⟨s₁, entries', hregister, hconsistent⟩ :=
          h.register hposition hat hevent hholder hpending hlink
        exact .inr (.inr ⟨_, entries', by simp [hregister, Outcome.ofOption], hconsistent⟩)
    · rw [if_neg hpending]
      exact .inr (.inr ⟨_, entries, rfl, h.leaveLoop hposition hat ⟨event, hevent, hpending⟩⟩)

/-- The wait for the group. -/
theorem Consistent.waitGroup (h : Consistent s entries) {call : WaitCall}
    (hposition : s.position t = .waiting call) :
    Advances s t (waitGroup s t call) := by
  have hcall : (s.position t).call = some call := by
    rw [hposition]
    rfl
  obtain ⟨group, hgroup⟩ := Option.isSome_iff_exists.mp ((h.thread t).group call hcall)
  simp only [WaitAny.waitGroup, WaitState.deref, hgroup]
  by_cases hpending : group.status = .pending
  · rw [if_pos hpending]
    refine .inr (.inl ⟨rfl, .inr ⟨call, hposition, ?_⟩⟩)
    rintro ⟨found, hfound, hstatus⟩
    obtain rfl : group = found := Option.some_inj.mp (hgroup.symm.trans hfound)
    exact hstatus hpending
  · rw [if_neg hpending]
    exact .inr (.inr ⟨_, entries, rfl, h.wakeUp hposition ⟨group, hgroup, hpending⟩⟩)

/-- A round of the second loop. -/
theorem Consistent.unregisterEvent (h : Consistent s entries) {call : WaitCall} {nEvents i rv : ℕ}
    (hposition : s.position t = .unregistering call nEvents i rv) :
    Advances s t (unregisterEvent s t call nEvents i rv) := by
  have hok := h.thread t
  have hfits := hok.fits
  rw [hposition] at hfits
  obtain ⟨-, hn, hnone, -⟩ := hfits
  unfold WaitAny.unregisterEvent
  by_cases hi : i < nEvents
  · rw [if_pos hi]
    have hat := List.getElem?_eq_getElem (Nat.lt_of_lt_of_le hi hn)
    rw [hat]
    have hcall : (s.position t).call = some call := by
      rw [hposition]
      rfl
    obtain ⟨event, hevent⟩ := Option.isSome_iff_exists.mp (hok.live call hcall _ (List.mem_of_getElem? hat))
    refine lock_advances hevent fun hholder => ?_
    have hmemory : call.link ≠ none := fun hlink => by
      rw [hnone hlink] at hi
      exact Nat.not_lt_zero i hi
    obtain ⟨link, hlink⟩ := Option.ne_none_iff_exists'.mp hmemory
    obtain ⟨s₁, entries', hunregister, hconsistent⟩ := h.unregister hposition hi hat hevent hholder hlink
    exact .inr (.inr ⟨_, entries', by simp [hlink, hunregister, Outcome.ofOption], hconsistent⟩)
  · rw [if_neg hi]
    exact .inr (.inr ⟨_, entries, rfl, h.finish hposition hi⟩)

/-- A round of the loop of a broadcast, which does not have to wait. -/
theorem Consistent.broadcastGroup (h : Consistent s entries) {e : ℕ} {status : XrpStatus}
    {group : Option EventPtr} {link : Option LinkPtr}
    (hposition : s.position t = .broadcasting e status group link) :
    ∃ s' entries, broadcastGroup s t e status group link = .next s' ∧ Consistent s' entries := by
  have hfits := (h.thread t).fits
  rw [hposition] at hfits
  obtain ⟨-, event, hevent, -⟩ := hfits
  cases link with
  | none =>
    exact ⟨_, entries, by simp [WaitAny.broadcastGroup, WaitState.deref, hevent],
      h.endBroadcast hposition hevent⟩
  | some p =>
    obtain ⟨t₀, event, node, rfl, hevent, hnode, hconsistent⟩ := h.visit hposition
    exact ⟨_, entries, by simp [WaitAny.broadcastGroup, hevent, hnode, Outcome.ofOption, visited],
      hconsistent⟩

/-- The steps of one thread while the others rest. -/
def RunsAlone (t : ℕ) : WaitState → WaitState → Prop :=
  Relation.ReflTransGen fun s s' => advance s t = .next s'

/-- A broadcast comes to its end. -/
theorem Consistent.broadcast_ends {e : ℕ} {status : XrpStatus} {rest : List (EventPtr × LinkPtr)}
    {group : Option EventPtr} {link prev : Option LinkPtr} (h : Consistent s entries)
    (hposition : s.position t = .broadcasting e status group link)
    (hrest : Chained s.links (none, none) prev (group, link) rest) :
    ∃ s', RunsAlone t s s' ∧ s'.position t = .outside := by
  induction rest generalizing s group link prev with
  | nil =>
    cases hrest
    have hfits := (h.thread t).fits
    rw [hposition] at hfits
    obtain ⟨-, event, hevent, -⟩ := hfits
    refine ⟨(s.setEvent (.event e) (some { event with holder := none })).goto t .outside,
      .single ?_, by simp⟩
    rw [WaitAny.advance, hposition]
    simp [WaitAny.broadcastGroup, WaitState.deref, hevent]
  | cons entry rest ih =>
    obtain ⟨hhead, node, hnode, -, hrest⟩ := hrest
    cases hhead
    obtain ⟨t₀, event, node', hgroup, hevent, hnode', hconsistent⟩ := h.visit hposition
    obtain rfl : node = node' := Option.some_inj.mp (hnode.symm.trans hnode')
    have hnext : WaitAny.advance s t = .next (visited s t e t₀ status event node) := by
      rw [WaitAny.advance, hposition]
      simp [WaitAny.broadcastGroup, hgroup, hevent, hnode, Outcome.ofOption, visited]
    obtain ⟨s', hruns, hend⟩ := ih hconsistent (by simp [visited]) hrest
    exact ⟨s', hruns.head hnext, hend⟩

/-- The next step of a thread that is inside of a function. -/
theorem Consistent.advance (h : Consistent s entries) (t : ℕ) (hinside : ¬ (s.position t).Idle) :
    Advances s t (advance s t) := by
  unfold WaitAny.advance
  cases hposition : s.position t with
  | outside =>
    rw [hposition] at hinside
    exact absurd trivial hinside
  | registering call i => exact h.registerEvent hposition
  | waiting call => exact h.waitGroup hposition
  | unregistering call nEvents i rv => exact h.unregisterEvent hposition
  | returned event status rv =>
    rw [hposition] at hinside
    exact absurd trivial hinside
  | broadcasting e status group link => exact .inr (.inr (h.broadcastGroup hposition))

/-- Nothing happens in a thread that is not inside of a function. -/
theorem advance_idle (hidle : (s.position t).Idle) : advance s t = .wait := by
  unfold WaitAny.advance
  cases hposition : s.position t with
  | outside => rfl
  | returned event status rv => rfl
  | _ =>
    rw [hposition] at hidle
    exact hidle.elim

/-- Every step leaves the invariant true, for lists that may have changed. -/
theorem Consistent.step (h : Consistent s entries) (hstep : Step s s') :
    ∃ entries', Consistent s' entries' := by
  cases hstep with
  | create e hfresh => exact ⟨entries, h.create hfresh⟩
  | call t event link group hidle hlive hunused hdistinct =>
    exact ⟨entries, h.start hidle hlive hunused hdistinct⟩
  | broadcast t e status hidle hstatus hnext =>
    obtain ⟨event, hevent, hholder, hnext⟩ := lock_next hnext
    cases hnext
    exact ⟨entries, h.beginBroadcast hidle hstatus hevent hholder⟩
  | advance t hnext =>
    have hinside : ¬ (s.position t).Idle := fun hidle => by
      rw [advance_idle hidle] at hnext
      cases hnext
    rcases h.advance t hinside with ⟨hfault, -⟩ | ⟨hwait, -⟩ | ⟨s₁, entries', hnext', hconsistent⟩
    · cases hnext.symm.trans hfault
    · cases hnext.symm.trans hwait
    · cases hnext.symm.trans hnext'
      exact ⟨entries', hconsistent⟩

/-- The invariant is true at the start. -/
theorem consistent_start : Consistent .start fun _ => [] := by
  constructor
  · exact fun t => .of_no_call rfl trivial
  · intro e
    constructor
    · rintro event ⟨⟩
    · exact List.nodup_nil
    · exact fun g p => ⟨fun hmem => absurd hmem List.not_mem_nil,
        fun ⟨_, _, call, hcall, _⟩ => by cases hcall⟩
    · rintro event t ⟨⟩
    · rintro t status group link ⟨⟩
    · rintro event ⟨⟩
  · rintro t t' p ⟨call, hcall, -⟩
    cases hcall
  · rfl

/-- The invariant is true in every state that the threads can get to. -/
theorem Reachable.consistent (h : Reachable s) : ∃ entries, Consistent s entries := by
  induction h with
  | refl => exact ⟨_, consistent_start⟩
  | tail _ hstep ih =>
    obtain ⟨entries, hconsistent⟩ := ih
    exact hconsistent.step hstep

end Runs

section Samples

/-- The state that a step leads to, if it leads to one. -/
def Outcome.getD : Outcome → WaitState → WaitState
  | .next s', _ => s'
  | _, s => s

/-- A step can be taken. -/
def Outcome.isNext : Outcome → Bool
  | .next _ => true
  | _ => false

/-- The state after the next step of a thread. -/
def WaitState.after (s : WaitState) (t : ℕ) : WaitState := (advance s t).getD s

/-- A step that can be taken. -/
theorem Outcome.eq_next {outcome : Outcome} (h : outcome.isNext = true) (s : WaitState) :
    outcome = .next (outcome.getD s) := by
  cases outcome with
  | next s' => rfl
  | _ => cases h

/-- A step that can be taken leads to a state that the threads can get to. -/
theorem Reachable.after {s : WaitState} (h : Reachable s) (t : ℕ) (hnext : (advance s t).isNext = true) :
    Reachable (s.after t) := h.tail (.advance t (Outcome.eq_next hnext s))

/-- Two events. -/
def sampleCreated : WaitState :=
  (WaitState.start.setEvent (.event 0) (some ⟨.pending, none, none, none⟩)).setEvent (.event 1)
    (some ⟨.pending, none, none, none⟩)

/-- A thread has called the function for both of them and waits. -/
def sampleFirst : WaitState :=
  (((xrpWaitAny sampleCreated 1 [0, 1] (some 5) ⟨.success, none, none, none⟩).after 1).after 1).after 1

/-- Another thread has called it for the first event and waits too. -/
def sample : WaitState :=
  ((xrpWaitAny sampleFirst 2 [0] (some 6) ⟨.success, none, none, none⟩).after 2).after 2

/-- The threads can get to the state with one thread. -/
theorem sampleFirst_reachable : Reachable sampleFirst := by
  have hcreated : Reachable sampleCreated := Relation.ReflTransGen.tail (.single (.create 0 rfl))
    (.create 1 rfl)
  have hcalled := hcreated.tail (.call 1 [0, 1] (some 5) ⟨.success, none, none, none⟩ trivial (by decide)
    (fun _ _ => rfl) (by decide))
  exact ((Reachable.after hcalled 1 (by decide)).after 1 (by decide)).after 1 (by decide)

/-- The threads can get to this state. -/
theorem sample_reachable : Reachable sample := by
  have hunused : ∀ p : LinkPtr, some p.link = some 6 → sampleFirst.links p = none := by
    rintro ⟨link, index⟩ ⟨⟩
    rfl
  have hcalled := sampleFirst_reachable.tail (.call 2 [0] (some 6) ⟨.success, none, none, none⟩ (by decide)
    (by decide) hunused (by decide))
  exact (Reachable.after hcalled 2 (by decide)).after 2 (by decide)

/-- A third thread has begun to broadcast the first event, and both still wait. -/
def sampleBroadcasting : WaitState := (xrpImplBroadcastEvent sample 3 0 .success).getD sample

/-- The threads can get to this state too. -/
theorem sampleBroadcasting_reachable : Reachable sampleBroadcasting :=
  sample_reachable.tail (.broadcast 3 0 .success trivial (by decide) (Outcome.eq_next (by decide) sample))

end Samples

section Results

variable {s : WaitState}

/-- The list of every event holds the threads that are registered with it, each with its own link;
no thread finds the links inconsistent, and none follows a pointer that leads nowhere, but for the
one that `calloc` returns when there is no memory. -/
theorem lists_exact (h : Reachable s) :
    (∀ e event, s.events (.event e) = some event →
      ∃ entries, Represents s.links (event.group, event.link) entries ∧
      (entries.map Prod.fst).Nodup ∧
        ∀ g p, (g, p) ∈ entries ↔ ∃ t, g = .group t ∧ (s.position t).Registered e p) ∧
      s.reports = 0 ∧ ∀ t, advance s t = .fault → s.OutOfMemory t := by
  obtain ⟨entries, hconsistent⟩ := h.consistent
  refine ⟨fun e event hevent => ?_, hconsistent.reports, fun t hfault => ?_⟩
  · have hlist := hconsistent.event e
    exact ⟨entries e, hlist.chained event hevent, hlist.owners, hlist.mem⟩
  · have hinside : ¬ (s.position t).Idle := fun hidle => by
      rw [advance_idle hidle] at hfault
      cases hfault
    rcases hconsistent.advance t hinside with ⟨-, hmemory⟩ | ⟨hwait, -⟩ | ⟨s', entries', hnext, -⟩
    · exact hmemory
    · cases hfault.symm.trans hwait
    · cases hfault.symm.trans hnext

/-- Two threads that wait for one event are on its list, each with its own link. -/
theorem lists_exact_sample : ∃ event entries, sample.events (.event 0) = some event ∧
    Represents sample.links (event.group, event.link) entries ∧ (entries.map Prod.fst).Nodup ∧
    (.group 1, ⟨5, 0⟩) ∈ entries ∧ (.group 2, ⟨6, 0⟩) ∈ entries ∧ sample.reports = 0 := by
  obtain ⟨hlists, hreports, -⟩ := lists_exact sample_reachable
  obtain ⟨entries, hlist, hnodup, hmem⟩ := hlists 0 ⟨.pending, some (.group 2), some ⟨6, 0⟩, none⟩ rfl
  have hfirst : (sample.position 1).Registered 0 ⟨5, 0⟩ :=
    ⟨⟨[0, 1], some 5⟩, rfl, Nat.zero_lt_two, rfl, rfl⟩
  have hsecond : (sample.position 2).Registered 0 ⟨6, 0⟩ := ⟨⟨[0], some 6⟩, rfl, Nat.zero_lt_one, rfl, rfl⟩
  exact ⟨_, entries, rfl, hlist, hnodup, (hmem _ _).mpr ⟨1, rfl, hfirst⟩,
    (hmem _ _).mpr ⟨2, rfl, hsecond⟩, hreports⟩

/-- When no thread is inside of the functions, no event has links. -/
theorem lists_empty (h : Reachable s) (hidle : ∀ t, (s.position t).Idle) {e : ℕ} {event : XrpEvent}
    (hevent : s.events (.event e) = some event) : event.group = none ∧ event.link = none := by
  obtain ⟨hlists, -⟩ := lists_exact h
  obtain ⟨entries, hlist, -, hmem⟩ := hlists e event hevent
  cases entries with
  | nil => exact Prod.mk.inj hlist
  | cons entry rest =>
    obtain ⟨t, -, hregistered⟩ := (hmem entry.1 entry.2).mp List.mem_cons_self
    exact absurd hregistered (not_registered_of_no_call (hidle t).call_eq_none e entry.2)

/-- A thread that waits for its group is told of every event that is signaled, unless a broadcast
is still on its way to it. -/
theorem Consistent.told_of {entries : ℕ → List (EventPtr × LinkPtr)} {t e : ℕ} {call : WaitCall}
    {event : XrpEvent} (h : Consistent s entries) (hposition : s.position t = .waiting call)
    (he : e ∈ call.event) (hevent : s.events (.event e) = some event)
    (hstatus : event.status ≠ .pending) (hholder : event.holder = none) :
    s.Signaled (.group t) := by
  have hfits := (h.thread t).fits
  rw [hposition] at hfits
  obtain ⟨link, hlink⟩ := Option.ne_none_iff_exists'.mp hfits
  obtain ⟨j, hj, hat⟩ := List.mem_iff_getElem.mp he
  have hregistered : (s.position t).Registered e ⟨link, j⟩ := by
    rw [hposition]
    exact ⟨call, rfl, hj, hat ▸ List.getElem?_eq_getElem hj, hlink⟩
  exact (h.event e).told event hevent hstatus hholder _ (((h.event e).mem _ _).mpr ⟨t, rfl, hregistered⟩)

/-- A thread that has to wait waits for events that are all pending, or for a broadcast, which comes
to its end when the thread that broadcasts goes on. -/
theorem waits_for_pending (h : Reachable s) (t : ℕ) (hinside : ¬ (s.position t).Idle)
    (hwait : advance s t = .wait) :
    (∃ call, s.position t = .waiting call ∧ ∀ e ∈ call.event, ¬ s.Signaled (.event e)) ∨
      ∃ t' e status group link s', s.position t' = .broadcasting e status group link ∧
        RunsAlone t' s s' ∧ s'.position t' = .outside := by
  obtain ⟨entries, hconsistent⟩ := h.consistent
  have hbroadcast {e t' : ℕ} {event : XrpEvent} (hevent : s.events (.event e) = some event)
      (hholder : event.holder = some t') :
      ∃ t' e status group link s', s.position t' = .broadcasting e status group link ∧
        RunsAlone t' s s' ∧ s'.position t' = .outside := by
    obtain ⟨status, group, link, hposition⟩ := (hconsistent.event e).held event t' hevent hholder
    obtain ⟨before, rest, -, hrest, -⟩ := (hconsistent.event e).walked t' status group link hposition
    obtain ⟨s', hruns, hend⟩ := hconsistent.broadcast_ends hposition hrest
    exact ⟨t', e, status, group, link, s', hposition, hruns, hend⟩
  rcases hconsistent.advance t hinside with ⟨hfault, -⟩ | ⟨-, hblocked⟩ | ⟨s', entries', hnext, -⟩
  · cases hwait.symm.trans hfault
  · rcases hblocked with ⟨e, event, t', hevent, hholder⟩ | ⟨call, hposition, hpending⟩
    · exact .inr (hbroadcast hevent hholder)
    · by_cases hall : ∀ e ∈ call.event, ¬ s.Signaled (.event e)
      · exact .inl ⟨call, hposition, hall⟩
      · right
        push Not at hall
        obtain ⟨e, he, event, hevent, hstatus⟩ := hall
        cases hholder : event.holder with
        | none => exact absurd (hconsistent.told_of hposition he hevent hstatus hholder) hpending
        | some t' => exact hbroadcast hevent hholder
  · cases hwait.symm.trans hnext

/-- Two threads that wait for one event, before it is broadcast and while it is. -/
theorem waits_for_pending_sample :
    ((∃ call, sample.position 2 = .waiting call ∧ ∀ e ∈ call.event, ¬ sample.Signaled (.event e)) ∨
      ∃ t' e status group link s', sample.position t' = .broadcasting e status group link ∧
        RunsAlone t' sample s' ∧ s'.position t' = .outside) ∧
    ((∃ call, sampleBroadcasting.position 1 = .waiting call ∧
        ∀ e ∈ call.event, ¬ sampleBroadcasting.Signaled (.event e)) ∨
      ∃ t' e status group link s', sampleBroadcasting.position t' = .broadcasting e status group link ∧
        RunsAlone t' sampleBroadcasting s' ∧ s'.position t' = .outside) :=
  ⟨waits_for_pending sample_reachable 2 (by decide) rfl,
    waits_for_pending sampleBroadcasting_reachable 1 (by decide) rfl⟩

/-- A run in which thread 1 has given the event 0 twice, and has put its second link on the list behind
thread 2; when it leaves, it takes thread 2 off the list as well. -/
def lostWaiter : WaitState :=
  let created := (WaitState.start.setEvent (.event 0) (some ⟨.pending, none, none, none⟩)).setEvent
    (.event 1) (some ⟨.pending, none, none, none⟩)
  let first := (xrpWaitAny created 1 [0, 0, 1] (some 5) ⟨.success, none, none, none⟩).after 1
  let second := ((xrpWaitAny first 2 [0] (some 6) ⟨.success, none, none, none⟩).after 2).after 2
  let waiting := ((second.after 1).after 1).after 1
  let told := (((xrpImplBroadcastEvent waiting 3 1 .success).getD waiting).after 3).after 3
  let left := ((((told.after 1).after 1).after 1).after 1).after 1
  ((xrpImplBroadcastEvent left 3 0 .success).getD left).after 3

-- The events of a call have to differ: here a thread waits for an event that was broadcast long ago.
example : lostWaiter.position 2 = .waiting ⟨[0], some 6⟩ ∧ advance lostWaiter 2 = .wait ∧
    lostWaiter.position 3 = .outside ∧ lostWaiter.Signaled (.event 0) :=
  ⟨by decide, rfl, by decide, ⟨.success, none, none, none⟩, rfl, by decide⟩

/-- What `xrp_wait_any` returns: a failure for no events, or else the index of an event that has
been signaled. -/
theorem returns_signaled (h : Reachable s) {t : ℕ} {event : List ℕ} {status : XrpStatus} {rv : ℕ}
    (hposition : s.position t = .returned event status rv) :
    (event = [] ∧ status = .failure ∧ rv = 0) ∨
      (status = .success ∧ ∃ e, event[rv]? = some e ∧ s.Signaled (.event e)) := by
  obtain ⟨entries, hconsistent⟩ := h.consistent
  have hfits := (hconsistent.thread t).fits
  rw [hposition] at hfits
  exact hfits

/-- The broadcast has come to its end, and the thread that waits for both events has returned. -/
def sampleReturned : WaitState :=
  ((((((sampleBroadcasting.after 3).after 3).after 3).after 1).after 1).after 1).after 1

/-- The threads can get to this state. -/
theorem sampleReturned_reachable : Reachable sampleReturned := by
  have htold := ((sampleBroadcasting_reachable.after 3 (by decide)).after 3 (by decide)).after 3 (by decide)
  exact (((htold.after 1 (by decide)).after 1 (by decide)).after 1 (by decide)).after 1 (by decide)

/-- The index of the event that has been broadcast. -/
theorem returns_signaled_sample :
    ([0, 1] = [] ∧ XrpStatus.success = .failure ∧ 0 = 0) ∨
      (XrpStatus.success = .success ∧ ∃ e, [0, 1][0]? = some e ∧ sampleReturned.Signaled (.event e)) :=
  returns_signaled sampleReturned_reachable (t := 1) (by decide)

end Results

end HailoDsp.Xrp.WaitAny
