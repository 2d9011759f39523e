import HailoDsp.Xrp.WaitAny

/-!
# The lists of those who wait

In every state the list of an event holds exactly the threads that are registered with it, each
with its own link, although threads come and go in any order.
-/

namespace HailoDsp.Xrp.WaitAny

open OwnedChain

section Predicates

/-- An event that is no longer pending. -/
def WaitState.Signaled (s : WaitState) (e : EventPtr) : Prop :=
  ∃ event, s.events e = some event ∧ event.status ≠ .pending

/-- The call that a thread is in. -/
def Position.call : Position → Option WaitCall
  | .registering call _ => some call
  | .waiting call => some call
  | .unregistering call _ _ _ => some call
  | _ => none

/-- The events of its call that a thread is registered with, by their indices. -/
def Position.Holds : Position → ℕ → Prop
  | .registering _ i, j => j < i
  | .waiting call, j => j < call.event.length
  | .unregistering _ nEvents i _, j => i ≤ j ∧ j < nEvents
  | _, _ => False

/-- The thread is registered with an event, through a link. -/
def Position.Registered (position : Position) (e : ℕ) (p : LinkPtr) : Prop :=
  ∃ call, position.call = some call ∧ position.Holds p.index ∧ call.event[p.index]? = some e ∧
    call.link = some p.link

/-- The links of its call that a thread has not used yet. -/
def Position.Unused : Position → LinkPtr → Prop
  | .registering call i, p => call.link = some p.link ∧ i ≤ p.index ∧ p.index < call.event.length
  | _, _ => False

/-- The links of the call of a thread. -/
def Position.Owns (position : Position) (p : LinkPtr) : Prop :=
  ∃ call, position.call = some call ∧ call.link = some p.link

/-- What is true of a thread at its position: the counters are in range, an index that is to be
returned is that of a signaled event or will be replaced, and a broadcast holds the mutex. -/
def WaitState.Fits (s : WaitState) (t : ℕ) : Position → Prop
  | .outside => True
  | .registering call i => i ≤ call.event.length ∧ (call.link = none → i = 0)
  | .waiting call => call.link ≠ none
  | .unregistering call nEvents i rv => i ≤ nEvents ∧ nEvents ≤ call.event.length ∧
      (call.link = none → nEvents = 0) ∧
      ((∃ e, call.event[rv]? = some e ∧ s.Signaled (.event e)) ∨
        ∃ k e, i ≤ k ∧ k < nEvents ∧ call.event[k]? = some e ∧ s.Signaled (.event e))
  | .returned event status rv => (event = [] ∧ status = .failure ∧ rv = 0) ∨
      (status = .success ∧ ∃ e, event[rv]? = some e ∧ s.Signaled (.event e))
  | .broadcasting e status _ _ => status ≠ .pending ∧
      ∃ event, s.events (.event e) = some event ∧ event.status ≠ .pending ∧ event.holder = some t

/-- What is true of a thread: what it uses exists, and its group is signaled only after an event
that it is registered with. -/
structure ThreadOk (s : WaitState) (t : ℕ) : Prop where
  nonempty : ∀ call, (s.position t).call = some call → call.event ≠ []
  distinct : ∀ call, (s.position t).call = some call → call.event.Nodup
  live : ∀ call, (s.position t).call = some call → ∀ e ∈ call.event, (s.events (.event e)).isSome
  group : ∀ call, (s.position t).call = some call → (s.events (.group t)).isSome
  links : ∀ call p, (s.position t).call = some call → call.link = some p.link →
    p.index < call.event.length →
    (s.links p).isSome
  unused : ∀ p, (s.position t).Unused p → s.links p = some ⟨none, none, none⟩
  fits : s.Fits t (s.position t)
  told : ∀ call, (s.position t).call = some call → s.Signaled (.group t) →
    (∃ n i rv, s.position t = .unregistering call n i rv) ∨
      ∃ j e, (s.position t).Holds j ∧ call.event[j]? = some e ∧ s.Signaled (.event e)

/-- A broadcast has signaled the groups up to the one it looks at. -/
def WaitState.Walked (s : WaitState) (entries : List (EventPtr × LinkPtr)) (group : Option EventPtr)
    (link : Option LinkPtr) : Prop :=
  ∃ visited rest, entries = visited ++ rest ∧
    Chained s.links (none, none) (lastNode none visited) (group, link) rest ∧
    ∀ entry ∈ visited, s.Signaled entry.1

/-- The list of an event holds the threads that are registered with it. Unless a broadcast is on its
way, they have all been told of an event that is signaled. -/
structure EventOk (s : WaitState) (e : ℕ) (entries : List (EventPtr × LinkPtr)) : Prop where
  chained : ∀ event, s.events (.event e) = some event → Represents s.links (event.group, event.link) entries
  owners : (entries.map Prod.fst).Nodup
  mem : ∀ g p, (g, p) ∈ entries ↔ ∃ t, g = .group t ∧ (s.position t).Registered e p
  held : ∀ event t, s.events (.event e) = some event → event.holder = some t →
    ∃ status group link, s.position t = .broadcasting e status group link
  walked : ∀ t status group link, s.position t = .broadcasting e status group link →
    s.Walked entries group link
  told : ∀ event, s.events (.event e) = some event → event.status ≠ .pending → event.holder = none →
    ∀ entry ∈ entries, s.Signaled entry.1

/-- The invariant. -/
structure Consistent (s : WaitState) (entries : ℕ → List (EventPtr × LinkPtr)) : Prop where
  thread : ∀ t, ThreadOk s t
  event : ∀ e, EventOk s e (entries e)
  own : ∀ t t' p, (s.position t).Owns p → (s.position t').Owns p → t = t'
  reports : s.reports = 0

end Predicates

section Consequences

variable {s : WaitState} {entries : ℕ → List (EventPtr × LinkPtr)} {t e : ℕ} {p : LinkPtr}

/-- A registered thread uses a link of its own. -/
theorem Position.Registered.owns {position : Position} (h : position.Registered e p) : position.Owns p := by
  obtain ⟨call, hcall, -, -, hlink⟩ := h
  exact ⟨call, hcall, hlink⟩

/-- A link that is not used yet is one of its own as well. -/
theorem Position.Unused.owns {position : Position} (h : position.Unused p) : position.Owns p := by
  cases position with
  | registering call i => exact ⟨call, rfl, h.1⟩
  | _ => exact h.elim

/-- A link that is not used yet is on no list. -/
theorem Position.Unused.not_registered {position : Position} (h : position.Unused p) :
    ¬ position.Registered e p := by
  cases position with
  | registering call i =>
    rintro ⟨_, -, hholds, -, -⟩
    exact absurd hholds (Nat.not_lt.mpr h.2.1)
  | _ => exact h.elim

/-- Only threads are on lists. -/
theorem EventOk.owner {l : List (EventPtr × LinkPtr)} (h : EventOk s e l) {entry : EventPtr × LinkPtr}
    (hentry : entry ∈ l) : ∃ t, entry.1 = .group t ∧ (s.position t).Registered e entry.2 :=
  (h.mem entry.1 entry.2).mp hentry

/-- The links of a list differ. -/
theorem Consistent.links_nodup (h : Consistent s entries) (e : ℕ) : ((entries e).map Prod.snd).Nodup := by
  have hpairs := List.Nodup.of_map _ (h.event e).owners
  refine List.Nodup.map_on (fun x hx y hy hxy => ?_) hpairs
  obtain ⟨t, ht, hregistered⟩ := (h.event e).owner hx
  obtain ⟨t', ht', hregistered'⟩ := (h.event e).owner hy
  have heq : t = t' := h.own t t' x.2 hregistered.owns (hxy ▸ hregistered'.owns)
  subst heq
  exact Prod.ext (ht.trans ht'.symm) hxy

/-- A link is on the list of one event only. -/
theorem Consistent.event_unique (h : Consistent s entries) {e' : ℕ} {g g' : EventPtr}
    (hmem : (g, p) ∈ entries e) (hmem' : (g', p) ∈ entries e') : e = e' := by
  obtain ⟨t, -, hregistered⟩ := (h.event e).owner hmem
  obtain ⟨t', -, hregistered'⟩ := (h.event e').owner hmem'
  obtain rfl : t = t' := h.own t t' p hregistered.owns hregistered'.owns
  obtain ⟨call, hcall, -, hevent, -⟩ := hregistered
  obtain ⟨call', hcall', -, hevent', -⟩ := hregistered'
  obtain rfl : call = call' := Option.some_inj.mp (hcall.symm.trans hcall')
  exact Option.some_inj.mp (hevent.symm.trans hevent')

/-- A thread that is on a list is registered there through the link that its counter says. -/
theorem Consistent.index_unique (h : Consistent s entries) {call : WaitCall} {i : ℕ}
    (hcall : (s.position t).call = some call) (hevent : call.event[i]? = some e)
    (hmem : (EventPtr.group t, p) ∈ entries e) : call.link = some p.link ∧ p.index = i ∧
    (s.position t).Holds i := by
  obtain ⟨t', ht', call', hcall', hholds, hevent', hlink⟩ := (h.event e).owner hmem
  cases ht'
  obtain rfl : call = call' := Option.some_inj.mp (hcall.symm.trans hcall')
  have hindex : p.index = i := by
    obtain ⟨hi, hget⟩ := List.getElem?_eq_some_iff.mp hevent
    obtain ⟨hp, hget'⟩ := List.getElem?_eq_some_iff.mp hevent'
    exact (List.Nodup.getElem_inj_iff ((h.thread t).distinct call hcall)).mp (hget'.trans hget.symm)
  exact ⟨hlink, hindex, hindex ▸ hholds⟩

end Consequences

section Frames

variable {s s' : WaitState} {t e : ℕ}

@[simp] theorem setEvent_events (a : EventPtr) (event : Option XrpEvent) :
    (s.setEvent a event).events = Function.update s.events a event := rfl

@[simp] theorem setEvent_links (a : EventPtr) (event : Option XrpEvent) :
    (s.setEvent a event).links = s.links := rfl

@[simp] theorem setEvent_position (a : EventPtr) (event : Option XrpEvent) :
    (s.setEvent a event).position = s.position := rfl

@[simp] theorem setLinks_events (links : LinkPtr → Option XrpEventLink) :
    (s.setLinks links).events = s.events := rfl

@[simp] theorem setLinks_links (links : LinkPtr → Option XrpEventLink) :
    (s.setLinks links).links = links := rfl

@[simp] theorem setLinks_position (links : LinkPtr → Option XrpEventLink) :
    (s.setLinks links).position = s.position := rfl

@[simp] theorem goto_events (position : Position) : (s.goto t position).events = s.events := rfl

@[simp] theorem goto_links (position : Position) : (s.goto t position).links = s.links := rfl

@[simp] theorem goto_position (position : Position) :
    (s.goto t position).position = Function.update s.position t position := rfl

/-- What a step leaves to a thread that does not take it. -/
structure ThreadKept (s s' : WaitState) (t : ℕ) : Prop where
  position : s'.position t = s.position t
  event : ∀ e event, s.events (.event e) = some event → ∃ event', s'.events (.event e) = some event' ∧
    (event.status ≠ .pending → event'.status ≠ .pending) ∧ (event.holder = some t → event'.holder = some t)
  group : (s.position t).call ≠ none → (s.events (.group t)).isSome → (s'.events (.group t)).isSome
  links : ∀ p, (s.position t).Owns p → (s.links p).isSome → (s'.links p).isSome
  unused : ∀ p, (s.position t).Unused p → s'.links p = s.links p
  told : ∀ call, (s.position t).call = some call → s'.Signaled (.group t) → s.Signaled (.group t) ∨
    ∃ j e, (s.position t).Holds j ∧ call.event[j]? = some e ∧ s.Signaled (.event e)

/-- A thread keeps what it has. -/
theorem ThreadOk.kept (h : ThreadOk s t) (k : ThreadKept s s' t) : ThreadOk s' t := by
  have hsignaled {e : ℕ} (hs : s.Signaled (.event e)) : s'.Signaled (.event e) := by
    obtain ⟨event, hevent, hstatus⟩ := hs
    obtain ⟨event', hevent', hkept, -⟩ := k.event e event hevent
    exact ⟨event', hevent', hkept hstatus⟩
  constructor
  · rw [k.position]
    exact h.nonempty
  · rw [k.position]
    exact h.distinct
  · rw [k.position]
    intro call hcall e he
    obtain ⟨event, hevent⟩ := Option.isSome_iff_exists.mp (h.live call hcall e he)
    obtain ⟨event', hevent', -⟩ := k.event e event hevent
    exact hevent' ▸ rfl
  · rw [k.position]
    intro call hcall
    exact k.group (hcall ▸ Option.some_ne_none _) (h.group call hcall)
  · rw [k.position]
    exact fun call p hcall hlink hp => k.links p ⟨call, hcall, hlink⟩ (h.links call p hcall hlink hp)
  · rw [k.position]
    exact fun p hp => (k.unused p hp).trans (h.unused p hp)
  · rw [k.position]
    have hfits := h.fits
    cases hposition : s.position t with
    | outside => trivial
    | registering call i =>
      rw [hposition] at hfits
      exact hfits
    | waiting call =>
      rw [hposition] at hfits
      exact hfits
    | unregistering call nEvents i rv =>
      rw [hposition] at hfits
      obtain ⟨hi, hn, hlink, hrv⟩ := hfits
      refine ⟨hi, hn, hlink, ?_⟩
      rcases hrv with ⟨e, he, hs⟩ | ⟨k, e, hik, hkn, he, hs⟩
      · exact .inl ⟨e, he, hsignaled hs⟩
      · exact .inr ⟨k, e, hik, hkn, he, hsignaled hs⟩
    | returned event status rv =>
      rw [hposition] at hfits
      rcases hfits with hempty | ⟨hstatus, e, he, hs⟩
      · exact .inl hempty
      · exact .inr ⟨hstatus, e, he, hsignaled hs⟩
    | broadcasting e status group link =>
      rw [hposition] at hfits
      obtain ⟨hstatus, event, hevent, hs, hholder⟩ := hfits
      obtain ⟨event', hevent', hkept, hheld⟩ := k.event e event hevent
      exact ⟨hstatus, event', hevent', hkept hs, hheld hholder⟩
  · rw [k.position]
    intro call hcall hs
    have htold : (∃ n i rv, s.position t = .unregistering call n i rv) ∨
        ∃ j e, (s.position t).Holds j ∧ call.event[j]? = some e ∧ s.Signaled (.event e) := by
      rcases k.told call hcall hs with hs | hheld
      · exact h.told call hcall hs
      · exact .inr hheld
    rcases htold with hunregistering | ⟨j, e, hj, he, hs⟩
    · exact .inl hunregistering
    · exact .inr ⟨j, e, hj, he, hsignaled hs⟩

/-- What a step leaves to an event that it is not about. -/
structure EventKept (s s' : WaitState) (e : ℕ) (entries : List (EventPtr × LinkPtr)) : Prop where
  event : s'.events (.event e) = s.events (.event e)
  links : ∀ entry ∈ entries, s'.links entry.2 = s.links entry.2
  registered : ∀ t p, (s'.position t).Registered e p ↔ (s.position t).Registered e p
  broadcasting : ∀ t status group link,
    s'.position t = .broadcasting e status group link ↔ s.position t = .broadcasting e status group link
  signaled : ∀ entry ∈ entries, s.Signaled entry.1 → s'.Signaled entry.1

/-- An event keeps its list. -/
theorem EventOk.kept {entries : List (EventPtr × LinkPtr)} (h : EventOk s e entries)
    (k : EventKept s s' e entries) :
    EventOk s' e entries := by
  constructor
  · rw [k.event]
    exact fun event hevent => (h.chained event hevent).congr k.links
  · exact h.owners
  · intro g p
    simp only [h.mem g p, k.registered]
  · rw [k.event]
    intro event t hevent hholder
    obtain ⟨status, group, link, hposition⟩ := h.held event t hevent hholder
    exact ⟨status, group, link, (k.broadcasting ..).mpr hposition⟩
  · intro t status group link hposition
    obtain ⟨visited, rest, rfl, hrest, hvisited⟩ :=
      h.walked t status group link ((k.broadcasting ..).mp hposition)
    refine ⟨visited, rest, rfl, hrest.congr fun entry hentry => ?_, fun entry hentry => ?_⟩
    · exact k.links entry (List.mem_append_right visited hentry)
    · exact k.signaled entry (List.mem_append_left rest hentry) (hvisited entry hentry)
  · rw [k.event]
    exact fun event hevent hstatus hholder entry hentry =>
      k.signaled entry hentry (h.told event hevent hstatus hholder entry hentry)

/-- Writing an event does not touch the others. -/
theorem signaled_setEvent {a b : EventPtr} (hne : b ≠ a) (event : Option XrpEvent) :
    (s.setEvent a event).Signaled b ↔ s.Signaled b := by
  simp only [WaitState.Signaled, setEvent_events, Function.update_of_ne hne]

/-- A thread that goes on touches no other thread. -/
theorem ThreadKept.goto {t' : ℕ} (hne : t' ≠ t) (position : Position) :
    ThreadKept s (s.goto t position) t' := by
  constructor
  · simp [hne]
  · exact fun e event hevent => ⟨event, hevent, id, id⟩
  · exact fun _ h => h
  · exact fun _ _ h => h
  · exact fun _ _ => rfl
  · exact fun _ _ h => .inl h

/-- The position of a thread in which it holds no mutex. -/
def Position.Quiet : Position → Prop
  | .broadcasting _ _ _ _ => False
  | _ => True

/-- A thread that goes on and remains registered where it was. -/
theorem registered_goto {position : Position}
    (hregistered : ∀ e p, position.Registered e p ↔ (s.position t).Registered e p) (t' : ℕ) (p : LinkPtr) :
    ((s.goto t position).position t').Registered e p ↔ (s.position t').Registered e p := by
  by_cases ht : t' = t
  · subst ht
    simpa using hregistered e p
  · simp [ht]

/-- A thread that goes on and remains outside of a broadcast. -/
theorem broadcasting_goto {position : Position} (hquiet : position.Quiet)
    (hquiet' : (s.position t).Quiet) (t' : ℕ) (status : XrpStatus) (group : Option EventPtr)
    (link : Option LinkPtr) :
    (s.goto t position).position t' = .broadcasting e status group link ↔
      s.position t' = .broadcasting e status group link := by
  by_cases ht : t' = t
  · subst ht
    simp only [goto_position, Function.update_self]
    constructor
    · rintro rfl
      exact hquiet.elim
    · intro heq
      rw [heq] at hquiet'
      exact hquiet'.elim
  · simp [ht]

end Frames

section Goto

variable {s : WaitState} {entries : ℕ → List (EventPtr × LinkPtr)} {t : ℕ} {position : Position}

/-- A thread goes on, and the links that it owns remain its own. -/
theorem own_goto (h : ∀ t t' p, (s.position t).Owns p → (s.position t').Owns p → t = t')
    (howns : ∀ p, position.Owns p → (s.position t).Owns p) (t₁ t₂ : ℕ) (p : LinkPtr)
    (h₁ : ((s.goto t position).position t₁).Owns p) (h₂ : ((s.goto t position).position t₂).Owns p) :
    t₁ = t₂ := by
  have hkept {t' : ℕ} (h' : ((s.goto t position).position t').Owns p) : (s.position t').Owns p := by
    by_cases ht : t' = t
    · subst ht
      exact howns p (by simpa using h')
    · simpa [ht] using h'
  exact h t₁ t₂ p (hkept h₁) (hkept h₂)

/-- A thread goes on without a change to anything that is shared. -/
theorem Consistent.goto (h : Consistent s entries) (hthread : ThreadOk (s.goto t position) t)
    (hregistered : ∀ e p, position.Registered e p ↔ (s.position t).Registered e p)
    (hquiet : position.Quiet) (hquiet' : (s.position t).Quiet)
    (howns : ∀ p, position.Owns p → (s.position t).Owns p) : Consistent (s.goto t position) entries := by
  constructor
  · intro t'
    by_cases ht : t' = t
    · exact ht ▸ hthread
    · exact (h.thread t').kept (.goto ht position)
  · intro e
    refine (h.event e).kept ⟨rfl, fun _ _ => rfl, ?_, ?_, fun _ _ hs => hs⟩
    · exact registered_goto hregistered
    · exact broadcasting_goto hquiet hquiet'
  · exact own_goto h.own howns
  · exact h.reports

/-- A thread goes on within its call. -/
theorem ThreadOk.within (h : ThreadOk s t) (hcall : position.call = (s.position t).call)
    (hunused : ∀ p, position.Unused p → (s.position t).Unused p) (hfits : s.Fits t position)
    (htold : ∀ call, position.call = some call → s.Signaled (.group t) →
      (∃ n i rv, position = .unregistering call n i rv) ∨
        ∃ j e, position.Holds j ∧ call.event[j]? = some e ∧ s.Signaled (.event e)) :
    ThreadOk (s.goto t position) t := by
  constructor <;> simp only [goto_position, Function.update_self]
  · exact hcall ▸ h.nonempty
  · exact hcall ▸ h.distinct
  · exact hcall ▸ h.live
  · exact hcall ▸ h.group
  · exact hcall ▸ h.links
  · exact fun p hp => h.unused p (hunused p hp)
  · exact hfits
  · exact htold

end Goto

end HailoDsp.Xrp.WaitAny
