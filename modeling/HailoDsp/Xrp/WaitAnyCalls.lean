import HailoDsp.Xrp.WaitAnyInvariant

/-!
# What the steps of `xrp_wait_any` keep

A step changes the list of one event, or what only its thread uses, or nothing but the position of
its thread. There is a lemma for each of these, and from it one for every step.
-/

namespace HailoDsp.Xrp.WaitAny

open OwnedChain

section Inversion

variable {s s' : WaitState}

/-- A pointer that was followed. -/
theorem deref_next {e : EventPtr} {f : XrpEvent → Outcome} (h : s.deref e f = .next s') :
    ∃ event, s.events e = some event ∧ f event = .next s' := by
  unfold WaitState.deref at h
  split at h
  · exact ⟨_, ‹_›, h⟩
  · cases h

/-- A mutex that was taken. -/
theorem lock_next {e : ℕ} {f : XrpEvent → Outcome} (h : s.lock e f = .next s') :
    ∃ event, s.events (.event e) = some event ∧ event.holder = none ∧ f event = .next s' := by
  obtain ⟨event, hevent, h⟩ := deref_next h
  split at h
  · exact ⟨event, hevent, ‹_›, h⟩
  · cases h

end Inversion

section Lists

variable {s : WaitState} {entries : ℕ → List (EventPtr × LinkPtr)} {t e : ℕ} {position : Position}

/-- Nobody broadcasts to an event whose mutex is free. -/
theorem Consistent.not_broadcasting (h : Consistent s entries) {event : XrpEvent}
    (hevent : s.events (.event e) = some event) (hholder : event.holder = none) (t' : ℕ)
    (status : XrpStatus) (group : Option EventPtr) (link : Option LinkPtr) :
    s.position t' ≠ .broadcasting e status group link := by
  intro hposition
  have hfits := (h.thread t').fits
  rw [hposition] at hfits
  obtain ⟨-, event', hevent', -, hholder'⟩ := hfits
  obtain rfl : event = event' := Option.some_inj.mp (hevent.symm.trans hevent')
  exact Option.some_ne_none t' (hholder'.symm.trans hholder)

/-- The event as it is after its list has been changed. -/
def relinked (s : WaitState) (e : ℕ) (event : XrpEvent) (links : LinkPtr → Option XrpEventLink)
    (head : Head EventPtr LinkPtr) : WaitState :=
  (s.setLinks links).setEvent (.event e) (some { event with group := head.1, link := head.2 })

/-- Which events are signaled does not depend on the lists. -/
theorem signaled_relinked {event : XrpEvent} (hevent : s.events (.event e) = some event)
    (links : LinkPtr → Option XrpEventLink) (head : Head EventPtr LinkPtr) (a : EventPtr) :
    (relinked s e event links head).Signaled a ↔ s.Signaled a := by
  by_cases ha : a = .event e
  · subst ha
    simp [WaitState.Signaled, relinked, hevent]
  · exact signaled_setEvent ha _

/-- A link that a thread has not used yet is on no list. -/
theorem Consistent.unused_not_listed (h : Consistent s entries) {p : LinkPtr}
    (hp : (s.position t).Unused p) (e : ℕ) :
    p ∉ (entries e).map Prod.snd := by
  intro hmem
  obtain ⟨entry, hentry, rfl⟩ := List.mem_map.mp hmem
  obtain ⟨t', -, hregistered⟩ := (h.event e).owner hentry
  obtain rfl : t = t' := h.own t t' entry.2 hp.owns hregistered.owns
  exact hp.not_registered hregistered

variable {event : XrpEvent} {links : LinkPtr → Option XrpEventLink} {head : Head EventPtr LinkPtr}
  {touched : List LinkPtr} {list : List (EventPtr × LinkPtr)}

/-- An event keeps its status and its mutex when its list is changed. -/
theorem relinked_event (links : LinkPtr → Option XrpEventLink) (head : Head EventPtr LinkPtr)
    (hevent : s.events (.event e) = some event) {e' : ℕ} {event' : XrpEvent}
    (hevent' : s.events (.event e') = some event') : ∃ event'',
      (relinked s e event links head).events (.event e') = some event'' ∧
        event''.status = event'.status ∧ event''.holder = event'.holder := by
  by_cases he : e' = e
  · subst he
    obtain rfl : event = event' := Option.some_inj.mp (hevent.symm.trans hevent')
    exact ⟨{ event with group := head.1, link := head.2 }, by simp [relinked], rfl, rfl⟩
  · exact ⟨event', by simp [relinked, he, hevent'], rfl, rfl⟩

/-- What a change of a list leaves to the other threads. -/
theorem Consistent.threadKept_relink (h : Consistent s entries) (hevent : s.events (.event e) = some event)
    (hkeeps : Keeps s.links links touched)
    (htouched : ∀ p ∈ touched, (s.position t).Unused p ∨ p ∈ (entries e).map Prod.snd) {t' : ℕ}
    (hne : t' ≠ t) :
    ThreadKept s ((relinked s e event links head).goto t position) t' := by
  constructor
  · simp [relinked, hne]
  · intro e' event' hevent'
    obtain ⟨event'', hevent'', hstatus, hholder⟩ := relinked_event links head hevent hevent'
    exact ⟨event'', hevent'', fun hs => hstatus ▸ hs, fun hh => hholder.trans hh⟩
  · intro _ hgroup
    simpa [relinked] using hgroup
  · intro p _ hp
    exact (hkeeps.isSome p).trans hp
  · intro p hp
    refine hkeeps.outside p fun hmem => ?_
    rcases htouched p hmem with hunused | hlisted
    · exact hne (h.own t' t p hp.owns hunused.owns)
    · exact h.unused_not_listed hp e hlisted
  · intro call hcall hs
    exact .inl ((signaled_relinked hevent links head _).mp hs)

/-- What a change of a list leaves to the other events. -/
theorem Consistent.eventKept_relink (h : Consistent s entries) (hevent : s.events (.event e) = some event)
    (hquiet : position.Quiet) (hquiet' : (s.position t).Quiet) (hkeeps : Keeps s.links links touched)
    (htouched : ∀ p ∈ touched, (s.position t).Unused p ∨ p ∈ (entries e).map Prod.snd) {e' : ℕ}
    (hne : e' ≠ e) (helse : ∀ p, position.Registered e' p ↔ (s.position t).Registered e' p) :
    EventKept s ((relinked s e event links head).goto t position) e' (entries e') := by
  constructor
  · simp [relinked, hne]
  · intro entry hentry
    refine hkeeps.outside entry.2 fun hmem => ?_
    rcases htouched entry.2 hmem with hunused | hlisted
    · exact h.unused_not_listed hunused e' (List.mem_map_of_mem hentry)
    · obtain ⟨entry', hentry', heq⟩ := List.mem_map.mp hlisted
      have hentry' : (entry'.1, entry.2) ∈ entries e := heq ▸ hentry'
      exact hne (h.event_unique hentry hentry')
  · intro t' p
    by_cases ht : t' = t
    · subst ht
      simpa [relinked] using helse p
    · simp [relinked, ht]
  · exact fun t' => broadcasting_goto hquiet hquiet' t'
  · exact fun entry _ hs => (signaled_relinked hevent links head _).mpr hs

/-- A position within a call. -/
theorem Position.quiet_of_call {position : Position} (h : position.call ≠ none) : position.Quiet := by
  cases position with
  | broadcasting => exact h rfl
  | _ => trivial

/-- A thread that holds the mutex of an event changes its list: it puts in its own link, which is not
used yet, or takes it out. -/
theorem Consistent.relink (h : Consistent s entries)
    (hevent : s.events (.event e) = some event) (hholder : event.holder = none)
    (hcall : position.call = (s.position t).call) (hcalled : (s.position t).call ≠ none)
    (hkeeps : Keeps s.links links touched)
    (htouched : ∀ p ∈ touched, (s.position t).Unused p ∨ p ∈ (entries e).map Prod.snd)
    (hunused : ∀ p, position.Unused p → (s.position t).Unused p ∧ p ∉ touched)
    (hlist : Represents links head list) (howners : (list.map Prod.fst).Nodup)
    (hmem : ∀ g p, (g, p) ∈ list ↔ ∃ t', g = .group t' ∧
      (((relinked s e event links head).goto t position).position t').Registered e p)
    (helse : ∀ e' ≠ e, ∀ p, position.Registered e' p ↔ (s.position t).Registered e' p)
    (hfits : (relinked s e event links head).Fits t position)
    (hheld : ∀ call, position.call = some call → s.Signaled (.group t) →
      (∃ n i rv, position = .unregistering call n i rv) ∨
        ∃ j e, position.Holds j ∧ call.event[j]? = some e ∧ s.Signaled (.event e))
    (htold : event.status ≠ .pending → ∀ entry ∈ list, s.Signaled entry.1) :
    Consistent ((relinked s e event links head).goto t position) (Function.update entries e list) := by
  have howns (p : LinkPtr) : position.Owns p ↔ (s.position t).Owns p := by
    simp only [Position.Owns, hcall]
  have hquiet' := Position.quiet_of_call hcalled
  have hquiet := Position.quiet_of_call (hcall ▸ hcalled)
  have hnobody := h.not_broadcasting hevent hholder
  constructor
  · intro t'
    by_cases ht : t' = t
    · subst ht
      have hok := h.thread t'
      constructor <;> simp only [goto_position, Function.update_self]
      · exact hcall ▸ hok.nonempty
      · exact hcall ▸ hok.distinct
      · rw [hcall]
        intro call hc e' he'
        obtain ⟨event', hevent'⟩ := Option.isSome_iff_exists.mp (hok.live call hc e' he')
        obtain ⟨event'', hevent'', -⟩ := relinked_event links head hevent hevent'
        exact hevent'' ▸ rfl
      · rw [hcall]
        intro call hc
        simpa [relinked] using hok.group call hc
      · rw [hcall]
        exact fun call p hc hlink hp => (hkeeps.isSome p).trans (hok.links call p hc hlink hp)
      · exact fun p hp => (hkeeps.outside p (hunused p hp).2).trans (hok.unused p (hunused p hp).1)
      · exact hfits
      · intro call hc hs
        rcases hheld call hc ((signaled_relinked hevent links head _).mp hs) with hunregistering |
          ⟨j, e', hj, he', hs'⟩
        · exact .inl hunregistering
        · exact .inr ⟨j, e', hj, he', (signaled_relinked hevent links head _).mpr hs'⟩
    · exact (h.thread t').kept (h.threadKept_relink hevent hkeeps htouched ht)
  · intro e'
    by_cases he : e' = e
    · subst he
      rw [Function.update_self]
      have hfound : ((relinked s e' event links head).goto t position).events (.event e') =
          some { event with group := head.1, link := head.2 } := by simp [relinked]
      constructor
      · intro event' hevent'
        obtain rfl := Option.some_inj.mp (hfound.symm.trans hevent')
        exact hlist
      · exact howners
      · exact hmem
      · intro event' t' hevent' hholder'
        obtain rfl := Option.some_inj.mp (hfound.symm.trans hevent')
        exact absurd (hholder'.symm.trans hholder) (Option.some_ne_none t')
      · intro t' status group link hposition
        exact (hnobody t' status group link
          ((broadcasting_goto hquiet hquiet' t' status group link).mp hposition)).elim
      · intro event' hevent' hstatus _ entry hentry
        obtain rfl := Option.some_inj.mp (hfound.symm.trans hevent')
        exact (signaled_relinked hevent links head _).mpr (htold hstatus entry hentry)
    · rw [Function.update_of_ne he]
      exact (h.event e').kept (h.eventKept_relink hevent hquiet hquiet' hkeeps htouched he (helse e' he))
  · exact own_goto h.own fun p => (howns p).mp
  · exact h.reports

end Lists

section Calls

variable {s s' : WaitState} {entries : ℕ → List (EventPtr × LinkPtr)} {t e i link : ℕ} {call : WaitCall}
  {position : Position}

/-- A thread goes on in its call, and remains registered where it was. -/
theorem Consistent.proceed (h : Consistent s entries) (hcalled : (s.position t).call = some call)
    (hcall : position.call = some call) (hholds : ∀ j, position.Holds j ↔ (s.position t).Holds j)
    (hunused : ∀ p, ¬ position.Unused p) (hfits : s.Fits t position)
    (htold : (∃ n i rv, s.position t = .unregistering call n i rv) →
      ∃ n i rv, position = .unregistering call n i rv) :
    Consistent (s.goto t position) entries := by
  have hok := h.thread t
  apply h.goto
  · apply hok.within
    · rw [hcall, hcalled]
    · exact fun p hp => absurd hp (hunused p)
    · exact hfits
    · intro call' hcall' hs
      obtain rfl : call = call' := Option.some_inj.mp (hcall.symm.trans hcall')
      rcases hok.told call hcalled hs with hunregistering | ⟨j, e, hj, hrest⟩
      · exact .inl (htold hunregistering)
      · exact .inr ⟨j, e, (hholds j).mpr hj, hrest⟩
  · intro e p
    simp only [Position.Registered, hholds, hcall, hcalled]
  · exact Position.quiet_of_call (hcall ▸ Option.some_ne_none call)
  · exact Position.quiet_of_call (hcalled ▸ Option.some_ne_none call)
  · intro p hp
    simpa only [Position.Owns, hcall, hcalled] using hp

/-- The first loop has come to its end. -/
theorem Consistent.startWaiting (h : Consistent s entries) (hposition : s.position t = .registering call i)
    (hend : call.event[i]? = none) : Consistent (s.goto t (.waiting call)) entries := by
  have hfits := (h.thread t).fits
  rw [hposition] at hfits
  obtain ⟨hi, hlink⟩ := hfits
  obtain rfl : i = call.event.length := le_antisymm hi (List.getElem?_eq_none_iff.mp hend)
  apply h.proceed
  · rw [hposition]
    rfl
  · rfl
  · rw [hposition]
    exact fun _ => Iff.rfl
  · exact fun _ => id
  · intro hnone
    exact (h.thread t).nonempty call (by rw [hposition]; rfl) (List.length_eq_zero_iff.mp (hlink hnone))
  · rintro ⟨n, j, rv, heq⟩
    cases hposition.symm.trans heq

/-- The first loop is left at an event that is signaled. -/
theorem Consistent.leaveLoop (h : Consistent s entries) (hposition : s.position t = .registering call i)
    (hat : call.event[i]? = some e) (hs : s.Signaled (.event e)) :
    Consistent (s.goto t (.unregistering call i 0 i)) entries := by
  have hfits := (h.thread t).fits
  rw [hposition] at hfits
  obtain ⟨hi, hlink⟩ := hfits
  apply h.proceed
  · rw [hposition]
    rfl
  · rfl
  · rw [hposition]
    exact fun j => and_iff_right (Nat.zero_le j)
  · exact fun _ => id
  · exact ⟨Nat.zero_le i, hi, hlink, .inl ⟨e, hat, hs⟩⟩
  · exact fun _ => ⟨i, 0, i, rfl⟩

/-- The group of a waiting thread has been signaled. -/
theorem Consistent.wakeUp (h : Consistent s entries) (hposition : s.position t = .waiting call)
    (hs : s.Signaled (.group t)) :
    Consistent (s.goto t (.unregistering call call.event.length 0 call.event.length)) entries := by
  have hok := h.thread t
  have hfits := hok.fits
  rw [hposition] at hfits
  apply h.proceed
  · rw [hposition]
    rfl
  · rfl
  · rw [hposition]
    exact fun j => and_iff_right (Nat.zero_le j)
  · exact fun _ => id
  · refine ⟨Nat.zero_le _, le_rfl, fun hnone => absurd hnone hfits, .inr ?_⟩
    rcases hok.told call (by rw [hposition]; rfl) hs with ⟨n, i', rv, heq⟩ | ⟨j, e, hj, hrest⟩
    · cases hposition.symm.trans heq
    · rw [hposition] at hj
      exact ⟨j, e, Nat.zero_le j, hj, hrest⟩
  · exact fun _ => ⟨_, _, _, rfl⟩

/-- What a thread is registered with after another round of the first loop. -/
theorem registered_succ (hat : call.event[i]? = some e) (hlink : call.link = some link) (e' : ℕ)
    (p : LinkPtr) :
    (Position.registering call (i + 1)).Registered e' p ↔
      (Position.registering call i).Registered e' p ∨ (p = ⟨link, i⟩ ∧ e' = e) := by
  constructor
  · rintro ⟨_, ⟨⟩, hj, hevent, hp⟩
    rcases Nat.lt_succ_iff_lt_or_eq.mp hj with hlt | heq
    · exact .inl ⟨call, rfl, hlt, hevent, hp⟩
    · have hlinks : p.link = link := Option.some_inj.mp (hp.symm.trans hlink)
      rw [heq] at hevent
      refine .inr ⟨?_, Option.some_inj.mp (hevent.symm.trans hat)⟩
      rw [← heq, ← hlinks]
  · rintro (⟨_, ⟨⟩, hj, hrest⟩ | ⟨rfl, rfl⟩)
    · exact ⟨call, rfl, Nat.lt_succ_of_lt hj, hrest⟩
    · exact ⟨call, rfl, Nat.lt_succ_self i, hat, hlink⟩

/-- What a thread was registered with before a round of the second loop. -/
theorem registered_unregistering {nEvents rv rv' : ℕ} (hat : call.event[i]? = some e) (hi : i < nEvents)
    (hlink : call.link = some link) (e' : ℕ) (p : LinkPtr) :
    (Position.unregistering call nEvents i rv).Registered e' p ↔
      (Position.unregistering call nEvents (i + 1) rv').Registered e' p ∨ (p = ⟨link, i⟩ ∧ e' = e) := by
  constructor
  · rintro ⟨_, ⟨⟩, ⟨hj, hn⟩, hevent, hp⟩
    rcases Nat.lt_or_eq_of_le hj with hlt | heq
    · exact .inl ⟨call, rfl, ⟨hlt, hn⟩, hevent, hp⟩
    · have hlinks : p.link = link := Option.some_inj.mp (hp.symm.trans hlink)
      rw [← heq] at hevent
      refine .inr ⟨?_, Option.some_inj.mp (hevent.symm.trans hat)⟩
      rw [heq, ← hlinks]
  · rintro (⟨_, ⟨⟩, ⟨hj, hn⟩, hrest⟩ | ⟨rfl, rfl⟩)
    · exact ⟨call, rfl, ⟨Nat.le_of_succ_le hj, hn⟩, hrest⟩
    · exact ⟨call, rfl, ⟨le_rfl, hi⟩, hat, hlink⟩

/-- A thread registers with an event. -/
theorem Consistent.register {event : XrpEvent} (h : Consistent s entries)
    (hposition : s.position t = .registering call i) (hat : call.event[i]? = some e)
    (hevent : s.events (.event e) = some event) (hholder : event.holder = none)
    (hpending : event.status = .pending) (hlink : call.link = some link) :
    ∃ s₁ entries', registerLink s t e i event link = some s₁ ∧
      Consistent (s₁.goto t (.registering call (i + 1))) entries' := by
  have hok := h.thread t
  have hi := (List.getElem?_eq_some_iff.mp hat).1
  have hcalled : (s.position t).call = some call := by
    rw [hposition]
    rfl
  have hunused : (s.position t).Unused ⟨link, i⟩ := by
    rw [hposition]
    exact ⟨hlink, le_rfl, hi⟩
  have hfresh := h.unused_not_listed hunused e
  obtain ⟨links, hpush, hlist, hkeeps⟩ := ((h.event e).chained event hevent).push
    (g := .group t) (h.links_nodup e) (hok.unused _ hunused) rfl hfresh
  refine ⟨relinked s e event links (some (.group t), some ⟨link, i⟩),
    Function.update entries e ((.group t, ⟨link, i⟩) :: entries e), ?_, ?_⟩
  · simp [registerLink, hpush, relinked]
  refine h.relink hevent hholder ?_ ?_ hkeeps ?_ ?_ hlist ?_ ?_ ?_ ?_ ?_ ?_
  · rw [hcalled]
    rfl
  · rw [hcalled]
    exact Option.some_ne_none call
  · intro p hp
    rcases List.mem_cons.mp hp with rfl | hp
    · exact .inl hunused
    · exact .inr hp
  · rw [hposition]
    rintro p ⟨hp, hj, hlt⟩
    have hold : (s.position t).Unused p := by
      rw [hposition]
      exact ⟨hp, Nat.le_of_succ_le hj, hlt⟩
    refine ⟨⟨hp, Nat.le_of_succ_le hj, hlt⟩,
      List.not_mem_cons_of_ne_of_not_mem ?_ (h.unused_not_listed hold e)⟩
    rintro rfl
    exact Nat.lt_irrefl i hj
  · refine List.nodup_cons.mpr ⟨fun hmem => ?_, (h.event e).owners⟩
    obtain ⟨⟨_, p⟩, hentry, rfl⟩ := List.mem_map.mp hmem
    obtain ⟨-, -, hheld⟩ := h.index_unique hcalled hat hentry
    rw [hposition] at hheld
    exact Nat.lt_irrefl i hheld
  · intro g p
    rw [List.mem_cons, (h.event e).mem g p]
    constructor
    · rintro (heq | ⟨t', rfl, hregistered⟩)
      · cases heq
        exact ⟨t, rfl, by simpa using (registered_succ hat hlink e ⟨link, i⟩).mpr (.inr ⟨rfl, rfl⟩)⟩
      · refine ⟨t', rfl, ?_⟩
        by_cases ht : t' = t
        · subst ht
          rw [hposition] at hregistered
          simpa using (registered_succ hat hlink e p).mpr (.inl hregistered)
        · simpa [relinked, ht] using hregistered
    · rintro ⟨t', rfl, hregistered⟩
      by_cases ht : t' = t
      · subst ht
        rw [goto_position, Function.update_self] at hregistered
        rcases (registered_succ hat hlink e p).mp hregistered with hold | ⟨rfl, -⟩
        · exact .inr ⟨t', rfl, hposition ▸ hold⟩
        · exact .inl rfl
      · exact .inr ⟨t', rfl, by simpa [relinked, ht] using hregistered⟩
  · intro e' he' p
    rw [hposition, registered_succ hat hlink, or_iff_left fun heq => he' heq.2]
  · exact ⟨hi, fun hnone => absurd (hlink.symm.trans hnone) (Option.some_ne_none link)⟩
  · intro call' hcall' hs
    cases hcall'
    rcases hok.told call hcalled hs with ⟨n, j, rv, heq⟩ | ⟨j, e', hj, hrest⟩
    · cases hposition.symm.trans heq
    · rw [hposition] at hj
      exact .inr ⟨j, e', Nat.lt_succ_of_lt hj, hrest⟩
  · exact fun hstatus => absurd hpending hstatus

/-- What is to be returned after a round of the second loop. -/
theorem fits_unregistering {event : XrpEvent} {nEvents rv : ℕ} (hat : call.event[i]? = some e)
    (hevent : s.events (.event e) = some event)
    (hrv : (∃ e, call.event[rv]? = some e ∧ s.Signaled (.event e)) ∨
      ∃ k e, i ≤ k ∧ k < nEvents ∧ call.event[k]? = some e ∧ s.Signaled (.event e)) :
    (∃ e, call.event[if event.status ≠ .pending then i else rv]? = some e ∧ s.Signaled (.event e)) ∨
      ∃ k e, i + 1 ≤ k ∧ k < nEvents ∧ call.event[k]? = some e ∧ s.Signaled (.event e) := by
  by_cases hstatus : event.status ≠ .pending
  · rw [if_pos hstatus]
    exact .inl ⟨e, hat, event, hevent, hstatus⟩
  · rw [if_neg hstatus]
    rcases hrv with hrv | ⟨k, e', hik, hkn, hat', hs⟩
    · exact .inl hrv
    · refine .inr ⟨k, e', Nat.lt_of_le_of_ne hik ?_, hkn, hat', hs⟩
      rintro rfl
      obtain rfl : e = e' := Option.some_inj.mp (hat.symm.trans hat')
      obtain ⟨event', hevent', hstatus'⟩ := hs
      obtain rfl : event = event' := Option.some_inj.mp (hevent.symm.trans hevent')
      exact hstatus hstatus'

/-- A thread that is registered with an event takes its link out. -/
theorem Consistent.unregister {event : XrpEvent} {nEvents rv : ℕ} (h : Consistent s entries)
    (hposition : s.position t = .unregistering call nEvents i rv) (hi : i < nEvents)
    (hat : call.event[i]? = some e) (hevent : s.events (.event e) = some event)
    (hholder : event.holder = none) (hlink : call.link = some link) :
    ∃ s₁ entries', unregisterLink s t e i event link = some s₁ ∧
      Consistent (s₁.goto t (.unregistering call nEvents (i + 1)
        (if event.status ≠ .pending then i else rv)))
        entries' := by
  have hok := h.thread t
  have hfits := hok.fits
  rw [hposition] at hfits
  obtain ⟨-, hn, hnone, hrv⟩ := hfits
  have hcalled : (s.position t).call = some call := by
    rw [hposition]
    rfl
  have hregistered : (s.position t).Registered e ⟨link, i⟩ :=
    ⟨call, hcalled, hposition ▸ ⟨le_rfl, hi⟩, hat, hlink⟩
  have hentry : (EventPtr.group t, LinkPtr.mk link i) ∈ entries e :=
    ((h.event e).mem _ _).mpr ⟨t, rfl, hregistered⟩
  obtain ⟨first, rest, hsplit⟩ := List.append_of_mem hentry
  have hnodup := h.links_nodup e
  have howners := (h.event e).owners
  have hlist := (h.event e).chained event hevent
  rw [hsplit] at hnodup howners hlist
  rw [List.map_append, List.map_cons, List.nodup_middle, ← List.map_append, List.nodup_cons] at howners
  have hfirst : EventPtr.group t ∉ first.map Prod.fst := by
    rw [List.map_append, List.mem_append, not_or] at howners
    exact howners.1.1
  obtain ⟨links, head, hremove, hlist', hkeeps⟩ := hlist.remove hnodup hfirst
  have hold {entry : EventPtr × LinkPtr} (hmem : entry ∈ first ++ rest) : entry ∈ entries e := by
    rw [hsplit]
    rcases List.mem_append.mp hmem with hmem | hmem
    · exact List.mem_append_left _ hmem
    · exact List.mem_append_right _ (List.mem_cons_of_mem _ hmem)
  refine ⟨relinked s e event links head, Function.update entries e (first ++ rest), ?_, ?_⟩
  · simp [unregisterLink, hremove, relinked]
  refine h.relink hevent hholder ?_ ?_ hkeeps ?_ ?_ hlist' howners.2 ?_ ?_ ?_ ?_ ?_
  · rw [hcalled]
    rfl
  · rw [hcalled]
    exact Option.some_ne_none call
  · intro p hp
    obtain ⟨entry, hmem, rfl⟩ := List.mem_map.mp hp
    exact .inr (List.mem_map_of_mem (hold hmem))
  · exact fun p hp => hp.elim
  · intro g p
    constructor
    · intro hmem
      obtain ⟨t', rfl, hregistered'⟩ := ((h.event e).mem g p).mp (hold hmem)
      have ht : t' ≠ t := by
        rintro rfl
        exact howners.1 (List.mem_map.mpr ⟨_, hmem, rfl⟩)
      exact ⟨t', rfl, by simpa [relinked, ht] using hregistered'⟩
    · rintro ⟨t', rfl, hregistered'⟩
      have hne : t' ≠ t := by
        rintro rfl
        rw [goto_position, Function.update_self] at hregistered'
        obtain ⟨_, ⟨⟩, ⟨hj, -⟩, hat', -⟩ := hregistered'
        obtain ⟨hp, hget⟩ := List.getElem?_eq_some_iff.mp hat
        obtain ⟨hp', hget'⟩ := List.getElem?_eq_some_iff.mp hat'
        have heq : i = p.index := (hok.distinct call hcalled).getElem_inj_iff.mp (hget.trans hget'.symm)
        exact absurd hj (by omega)
      have hmem : (EventPtr.group t', p) ∈ entries e :=
        ((h.event e).mem _ _).mpr ⟨t', rfl, by simpa [relinked, hne] using hregistered'⟩
      rw [hsplit] at hmem
      rcases List.mem_append.mp hmem with hmem | hmem
      · exact List.mem_append_left rest hmem
      · rcases List.mem_cons.mp hmem with heq | hmem
        · cases heq
          exact absurd rfl hne
        · exact List.mem_append_right first hmem
  · intro e' he' p
    rw [hposition, registered_unregistering hat hi hlink, or_iff_left fun heq => he' heq.2]
  · refine ⟨hi, hn, hnone, ?_⟩
    simp only [signaled_relinked hevent]
    exact fits_unregistering hat hevent hrv
  · intro call' hcall' hs
    cases hcall'
    exact .inl ⟨_, _, _, rfl⟩
  · exact fun hstatus entry hmem => (h.event e).told event hevent hstatus hholder entry (hold hmem)

/-- A thread outside of a call uses nothing. -/
theorem ThreadOk.of_no_call (hcall : (s.position t).call = none) (hfits : s.Fits t (s.position t)) :
    ThreadOk s t := by
  constructor
  · simp [hcall]
  · simp [hcall]
  · simp [hcall]
  · simp [hcall]
  · simp [hcall]
  · intro p hp
    obtain ⟨call, hcalled, -⟩ := hp.owns
    cases hcall.symm.trans hcalled
  · exact hfits
  · simp [hcall]

/-- A thread outside of a call is registered nowhere. -/
theorem not_registered_of_no_call (hcall : position.call = none) (e : ℕ) (p : LinkPtr) :
    ¬ position.Registered e p := by
  rintro ⟨call, hcalled, -⟩
  cases hcall.symm.trans hcalled

/-- A thread outside of a call owns no links. -/
theorem not_owns_of_no_call (hcall : position.call = none) (p : LinkPtr) : ¬ position.Owns p := by
  rintro ⟨call, hcalled, -⟩
  cases hcall.symm.trans hcalled

/-- A thread outside of the functions is in no call. -/
theorem Position.Idle.call_eq_none (h : position.Idle) : position.call = none := by
  cases position with
  | outside => rfl
  | returned => rfl
  | _ => exact h.elim

/-- A thread outside of the functions does not broadcast. -/
theorem Position.Idle.quiet (h : position.Idle) : position.Quiet := by
  cases position with
  | broadcasting => exact h.elim
  | _ => trivial

/-- A thread that is on no list changes what only it uses. -/
theorem Consistent.alone (h : Consistent s entries)
    (hevents : ∀ e, s'.events (.event e) = s.events (.event e))
    (hgroups : ∀ t', t' ≠ t → s'.events (.group t') = s.events (.group t'))
    (hlinks : ∀ p, s'.links p = s.links p ∨ ∀ t', t' ≠ t → ¬ (s.position t').Owns p)
    (hposition : s'.position = Function.update s.position t position)
    (hnone : ∀ e p, ¬ (s.position t).Registered e p) (hnone' : ∀ e p, ¬ position.Registered e p)
    (hquiet : (s.position t).Quiet) (hquiet' : position.Quiet)
    (hown : ∀ t' p, t' ≠ t → position.Owns p → ¬ (s.position t').Owns p) (hthread : ThreadOk s' t)
    (hreports : s'.reports = s.reports) : Consistent s' entries := by
  have hother {t' : ℕ} (ht : t' ≠ t) : s'.position t' = s.position t' := by
    rw [hposition, Function.update_of_ne ht]
  have hself : s'.position t = position := by
    rw [hposition, Function.update_self]
  have hkept {t' : ℕ} (ht : t' ≠ t) {p : LinkPtr} (hp : (s.position t').Owns p) : s'.links p = s.links p :=
    (hlinks p).resolve_right fun hnot => hnot t' ht hp
  constructor
  · intro t'
    by_cases ht : t' = t
    · exact ht ▸ hthread
    · refine (h.thread t').kept ⟨hother ht, ?_, ?_, ?_, fun p hp => hkept ht hp.owns, ?_⟩
      · exact fun e event hevent => ⟨event, (hevents e).trans hevent, id, id⟩
      · exact fun _ hgroup => (hgroups t' ht).symm ▸ hgroup
      · exact fun p hp hsome => (hkept ht hp).symm ▸ hsome
      · rintro call - ⟨group, hgroup, hstatus⟩
        exact .inl ⟨group, (hgroups t' ht) ▸ hgroup, hstatus⟩
  · intro e
    have howner {entry : EventPtr × LinkPtr} (hentry : entry ∈ entries e) :
        ∃ t', t' ≠ t ∧ entry.1 = .group t' ∧ (s.position t').Registered e entry.2 := by
      obtain ⟨t', hgroup, hregistered⟩ := (h.event e).owner hentry
      exact ⟨t', fun ht => hnone e entry.2 (ht ▸ hregistered), hgroup, hregistered⟩
    refine (h.event e).kept ⟨hevents e, ?_, ?_, ?_, ?_⟩
    · intro entry hentry
      obtain ⟨t', ht, -, hregistered⟩ := howner hentry
      exact hkept ht hregistered.owns
    · intro t' p
      by_cases ht : t' = t
      · subst ht
        rw [hself]
        exact iff_of_false (hnone' e p) (hnone e p)
      · rw [hother ht]
    · intro t' status group link
      have hgoto := broadcasting_goto (s := s) hquiet' hquiet t' status group link (e := e)
      rwa [goto_position, ← hposition] at hgoto
    · intro entry hentry hs
      obtain ⟨t', ht, hgroup, -⟩ := howner hentry
      rw [hgroup] at hs ⊢
      obtain ⟨group, hfound, hstatus⟩ := hs
      exact ⟨group, (hgroups t' ht).trans hfound, hstatus⟩
  · intro t₁ t₂ p h₁ h₂
    by_cases ht₁ : t₁ = t <;> by_cases ht₂ : t₂ = t
    · rw [ht₁, ht₂]
    · rw [ht₁, hself] at h₁
      rw [hother ht₂] at h₂
      exact absurd h₂ (hown t₂ p ht₂ h₁)
    · rw [ht₂, hself] at h₂
      rw [hother ht₁] at h₁
      exact absurd h₁ (hown t₁ p ht₁ h₂)
    · rw [hother ht₁] at h₁
      rw [hother ht₂] at h₂
      exact h.own t₁ t₂ p h₁ h₂
  · exact hreports.trans h.reports

/-- The second loop has come to its end: the thread is on no list any more, and its group and its
links are given back. -/
theorem Consistent.finish {nEvents rv : ℕ} (h : Consistent s entries)
    (hposition : s.position t = .unregistering call nEvents i rv) (hi : ¬ i < nEvents) :
    Consistent (((s.setEvent (.group t) none).freeLinks call.link).goto t
      (.returned call.event .success rv))
      entries := by
  have hfits := (h.thread t).fits
  rw [hposition] at hfits
  obtain ⟨-, -, -, hrv⟩ := hfits
  apply h.alone (t := t)
  · intro e
    simp [WaitState.freeLinks]
  · intro t' ht
    simp [WaitState.freeLinks, ht]
  · intro p
    by_cases hp : some p.link = call.link
    · refine .inr fun t' ht howns => ht (h.own t' t p howns ?_)
      rw [hposition]
      exact ⟨call, rfl, hp.symm⟩
    · exact .inl (by simp [WaitState.freeLinks, hp])
  · rfl
  · rintro e p ⟨call', hcall, hholds, -⟩
    rw [hposition] at hholds
    exact hi (Nat.lt_of_le_of_lt hholds.1 hholds.2)
  · exact not_registered_of_no_call rfl
  · rw [hposition]
    trivial
  · trivial
  · exact fun _ p _ howns => absurd howns (not_owns_of_no_call rfl p)
  · apply ThreadOk.of_no_call
    · simp [Position.call]
    · rw [goto_position, Function.update_self]
      rcases hrv with ⟨e, hat, hs⟩ | ⟨k, e, hik, hkn, -⟩
      · have hkept := (signaled_setEvent (s := s) (a := .group t) (b := .event e) (by simp) none).mpr hs
        exact .inr ⟨rfl, e, hat, hkept⟩
      · exact absurd (Nat.lt_of_le_of_lt hik hkn) hi
  · rfl

/-- An array of links that is not in use belongs to nobody. -/
theorem Consistent.not_owned (h : Consistent s entries)
    (hunused : ∀ p : LinkPtr, p.link = link → s.links p = none)
    (t' : ℕ) {p : LinkPtr} (hp : p.link = link) : ¬ (s.position t').Owns p := by
  rintro ⟨call, hcall, hlink⟩
  have hlength := List.length_pos_iff.mpr ((h.thread t').nonempty call hcall)
  have hsome := (h.thread t').links call ⟨p.link, 0⟩ hcall hlink hlength
  rw [hunused ⟨p.link, 0⟩ hp] at hsome
  cases hsome

/-- A thread calls the function with no events. -/
theorem Consistent.startEmpty (h : Consistent s entries) (hidle : (s.position t).Idle) :
    Consistent (s.goto t (.returned [] .failure 0)) entries := by
  apply h.goto
  · apply ThreadOk.of_no_call
    · simp [Position.call]
    · rw [goto_position, Function.update_self]
      exact .inl ⟨rfl, rfl, rfl⟩
  · exact fun e p => iff_of_false (not_registered_of_no_call rfl e p)
      (not_registered_of_no_call hidle.call_eq_none e p)
  · trivial
  · exact hidle.quiet
  · exact fun p howns => absurd howns (not_owns_of_no_call rfl p)

/-- A thread calls the function. -/
theorem Consistent.start {event : List ℕ} {link : Option ℕ} {group : XrpEvent} (h : Consistent s entries)
    (hidle : (s.position t).Idle) (hlive : ∀ e ∈ event, s.events (.event e) ≠ none)
    (hunused : ∀ p : LinkPtr, some p.link = link → s.links p = none) (hdistinct : event.Nodup) :
    Consistent (xrpWaitAny s t event link group) entries := by
  by_cases hempty : event = []
  · rw [xrpWaitAny, if_pos hempty, hempty]
    exact h.startEmpty hidle
  rw [xrpWaitAny, if_neg hempty]
  have hnone (p : LinkPtr) (hp : some p.link = link) (t' : ℕ) : ¬ (s.position t').Owns p :=
    h.not_owned (fun q hq => hunused q (hq ▸ hp)) t' rfl
  apply h.alone (t := t)
  · intro e
    simp [WaitState.calloc]
  · intro t' ht
    simp [WaitState.calloc, ht]
  · intro p
    by_cases hp : some p.link = link
    · exact .inr fun t' _ => hnone p hp t'
    · exact .inl (by simp [WaitState.calloc, hp])
  · rfl
  · exact not_registered_of_no_call hidle.call_eq_none
  · rintro e p ⟨_, _, hholds, -⟩
    exact Nat.not_lt_zero _ hholds
  · exact hidle.quiet
  · trivial
  · rintro t' p - ⟨_, ⟨⟩, hlink⟩
    exact hnone p hlink.symm t'
  · constructor <;> simp only [goto_position, Function.update_self]
    · rintro _ ⟨⟩
      exact hempty
    · rintro _ ⟨⟩
      exact hdistinct
    · rintro _ ⟨⟩ e he
      simpa [WaitState.calloc, Option.isSome_iff_ne_none] using hlive e he
    · rintro _ ⟨⟩
      simp
    · rintro _ p ⟨⟩ hlink hp
      simp [WaitState.calloc, hlink.symm, hp]
    · rintro p ⟨hlink, -, hp⟩
      simp only [goto_links, setEvent_links, WaitState.calloc, setLinks_links]
      rw [if_pos ⟨hlink.symm, hp⟩]
    · exact ⟨Nat.zero_le _, fun _ => rfl⟩
    · rintro _ ⟨⟩ ⟨found, hfound, hstatus⟩
      rw [goto_events, setEvent_events, Function.update_self] at hfound
      cases hfound
      exact absurd rfl hstatus
  · rfl

end Calls

end HailoDsp.Xrp.WaitAny
