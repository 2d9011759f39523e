import HailoDsp.Xrp.WaitAnyCalls

/-!
# What the steps of a broadcast keep

An event is created, and a broadcast goes from group to group along the list of its event.
-/

namespace HailoDsp.Xrp.WaitAny

open OwnedChain

section Broadcasts

variable {s s' : WaitState} {entries : ℕ → List (EventPtr × LinkPtr)} {t e : ℕ} {position : Position}

/-- An event is created. -/
theorem Consistent.create (h : Consistent s entries) (hfresh : s.events (.event e) = none) :
    Consistent (s.setEvent (.event e) (some ⟨.pending, none, none, none⟩)) entries := by
  have hempty : entries e = [] := by
    refine List.eq_nil_iff_forall_not_mem.mpr fun entry hentry => ?_
    obtain ⟨t, -, call, hcall, -, hat, -⟩ := (h.event e).owner hentry
    have hsome := (h.thread t).live call hcall e (List.mem_of_getElem? hat)
    rw [hfresh] at hsome
    cases hsome
  have hkept (event : XrpEvent) : ∀ e' event', s.events (.event e') = some event' →
      (s.setEvent (.event e) (some event)).events (.event e') = some event' := by
    intro e' event' hevent'
    have hne : e' ≠ e := by
      rintro rfl
      cases hfresh.symm.trans hevent'
    simpa [hne] using hevent'
  constructor
  · intro t
    refine (h.thread t).kept ⟨rfl, ?_, ?_, fun _ _ hp => hp, fun _ _ => rfl, ?_⟩
    · exact fun e' event' hevent' => ⟨event', hkept _ e' event' hevent', id, id⟩
    · simp
    · exact fun call _ hs => .inl ((signaled_setEvent (by simp) _).mp hs)
  · intro e'
    by_cases he : e' = e
    · subst he
      have hlist := h.event e'
      rw [hempty] at hlist ⊢
      constructor
      · intro event hevent
        rw [setEvent_events, Function.update_self] at hevent
        cases hevent
        rfl
      · exact hlist.owners
      · exact hlist.mem
      · intro event t hevent hholder
        rw [setEvent_events, Function.update_self] at hevent
        cases hevent
        cases hholder
      · intro t status group link hposition
        have hfits := (h.thread t).fits
        rw [setEvent_position] at hposition
        rw [hposition] at hfits
        obtain ⟨-, event, hevent, -⟩ := hfits
        cases hfresh.symm.trans hevent
      · exact fun _ _ _ _ _ hentry => absurd hentry List.not_mem_nil
    · refine (h.event e').kept ⟨by simp [he], fun _ _ => rfl, fun _ _ => Iff.rfl,
        fun _ _ _ _ => Iff.rfl, ?_⟩
      intro entry hentry hs
      obtain ⟨t, hgroup, -⟩ := (h.event e').owner hentry
      exact (signaled_setEvent (by simp [hgroup]) _).mpr hs
  · exact h.own
  · exact h.reports

/-- Writing an event and going on does not touch the other events. -/
theorem signaled_write {a b : EventPtr} (hne : b ≠ a) (event : Option XrpEvent) :
    ((s.setEvent a event).goto t position).Signaled b ↔ s.Signaled b := signaled_setEvent hne event

/-- A thread that is in no call, and goes on with one event, writes it. -/
theorem Consistent.write (h : Consistent s entries) {event event' : XrpEvent}
    (hevent : s.events (.event e) = some event) (hcall : (s.position t).call = none)
    (hcall' : position.call = none)
    (helse : ∀ e' status group link, s.position t = .broadcasting e' status group link → e' = e)
    (helse' : ∀ e' status group link, position = .broadcasting e' status group link → e' = e)
    (hstatus : event.status ≠ .pending → event'.status ≠ .pending)
    (hholder : ∀ t', t' ≠ t → event.holder ≠ some t')
    (hfits : ((s.setEvent (.event e) (some event')).goto t position).Fits t position)
    (hlist : EventOk ((s.setEvent (.event e) (some event')).goto t position) e (entries e)) :
    Consistent ((s.setEvent (.event e) (some event')).goto t position) entries := by
  constructor
  · intro t'
    by_cases ht : t' = t
    · subst ht
      exact .of_no_call (by simpa using hcall') (by simpa using hfits)
    · refine (h.thread t').kept ⟨by simp [ht], ?_, ?_, fun _ _ hp => hp, fun _ _ => rfl, ?_⟩
      · intro e' found hfound
        by_cases he : e' = e
        · subst he
          obtain rfl : event = found := Option.some_inj.mp (hevent.symm.trans hfound)
          exact ⟨event', by simp, hstatus, fun hheld => absurd hheld (hholder t' ht)⟩
        · exact ⟨found, by simpa [he] using hfound, id, id⟩
      · simp
      · exact fun call _ hs => .inl ((signaled_write EventPtr.noConfusion _).mp hs)
  · intro e'
    by_cases he : e' = e
    · exact he ▸ hlist
    · refine (h.event e').kept ⟨by simp [he], fun _ _ => rfl, ?_, ?_, ?_⟩
      · apply registered_goto
        exact fun e p => iff_of_false (not_registered_of_no_call hcall' e p)
          (not_registered_of_no_call hcall e p)
      · intro t' status group link
        by_cases ht : t' = t
        · subst ht
          rw [goto_position, Function.update_self]
          exact iff_of_false (fun heq => he (helse' _ _ _ _ heq)) fun heq => he (helse _ _ _ _ heq)
        · simp [ht]
      · intro entry hentry hs
        obtain ⟨t', hgroup, -⟩ := (h.event e').owner hentry
        exact (signaled_setEvent (by simp [hgroup]) _).mpr hs
  · exact own_goto h.own fun p howns => absurd howns (not_owns_of_no_call hcall' p)
  · exact h.reports

/-- The list of an event that is written, but for its links and its broadcast. -/
theorem EventOk.write {l : List (EventPtr × LinkPtr)} (h : EventOk s e l) {event event' : XrpEvent}
    (hevent : s.events (.event e) = some event) (hgroup : event'.group = event.group)
    (hlink : event'.link = event.link) (hcall : (s.position t).call = none)
    (hcall' : position.call = none)
    (hheld : ∀ t', event'.holder = some t' → t' = t ∧
      ∃ status group link, position = .broadcasting e status group link)
    (hwalked : ∀ t' status group link,
      ((s.setEvent (.event e) (some event')).goto t position).position t' =
      .broadcasting e status group link →
        s.Walked l group link)
    (htold : event'.status ≠ .pending → event'.holder = none → ∀ entry ∈ l, s.Signaled entry.1) :
    EventOk ((s.setEvent (.event e) (some event')).goto t position) e l := by
  have hsignaled {entry : EventPtr × LinkPtr} (hentry : entry ∈ l) (hs : s.Signaled entry.1) :
      ((s.setEvent (.event e) (some event')).goto t position).Signaled entry.1 := by
    obtain ⟨t', hgroup, -⟩ := h.owner hentry
    exact (signaled_setEvent (by simp [hgroup]) _).mpr hs
  have hfound {found : XrpEvent}
      (hfound : ((s.setEvent (.event e) (some event')).goto t position).events (.event e) = some found) :
      found = event' := by
    rw [goto_events, setEvent_events, Function.update_self] at hfound
    exact (Option.some_inj.mp hfound).symm
  constructor
  · intro found hfound'
    rw [hfound hfound', hgroup, hlink]
    exact h.chained event hevent
  · exact h.owners
  · intro g p
    simp only [h.mem g p]
    refine exists_congr fun t' => and_congr_right fun _ => (registered_goto ?_ t' p).symm
    exact fun e p => iff_of_false (not_registered_of_no_call hcall' e p)
      (not_registered_of_no_call hcall e p)
  · intro found t' hfound' hholder
    obtain ⟨rfl, status, group, link, hposition⟩ := hheld t' (hfound hfound' ▸ hholder)
    exact ⟨status, group, link, by simpa using hposition⟩
  · intro t' status group link hposition
    obtain ⟨visited, rest, rfl, hrest, hvisited⟩ := hwalked t' status group link hposition
    refine ⟨visited, rest, rfl, hrest, fun entry hentry => ?_⟩
    exact hsignaled (List.mem_append_left rest hentry) (hvisited entry hentry)
  · intro found hfound' hstatus hholder entry hentry
    rw [hfound hfound'] at hstatus hholder
    exact hsignaled hentry (htold hstatus hholder entry hentry)

/-- A broadcast takes the mutex of its event. -/
theorem Consistent.beginBroadcast (h : Consistent s entries) {event : XrpEvent} {status : XrpStatus}
    (hidle : (s.position t).Idle) (hstatus : status ≠ .pending) (hevent : s.events (.event e) = some event)
    (hholder : event.holder = none) :
    Consistent ((s.setEvent (.event e) (some { event with status, holder := some t })).goto t
      (.broadcasting e status event.group event.link)) entries := by
  have hnobody := h.not_broadcasting hevent hholder
  have helse (e' : ℕ) (status : XrpStatus) (group : Option EventPtr) (link : Option LinkPtr) :
      s.position t ≠ .broadcasting e' status group link := by
    intro heq
    rw [heq] at hidle
    exact hidle
  refine h.write hevent hidle.call_eq_none rfl ?_ ?_ (fun _ => hstatus) ?_ ?_ ?_
  · exact fun e' status group link heq => (helse e' status group link heq).elim
  · rintro e' status group link ⟨⟩
    rfl
  · intro t' _
    rw [hholder]
    exact (Option.some_ne_none t').symm
  · exact ⟨hstatus, { event with status, holder := some t }, by simp, hstatus, rfl⟩
  · refine (h.event e).write hevent rfl rfl hidle.call_eq_none rfl ?_ ?_ ?_
    · rintro t' ⟨⟩
      exact ⟨rfl, status, event.group, event.link, rfl⟩
    · intro t' status' group link hposition
      by_cases ht : t' = t
      · subst ht
        rw [goto_position, Function.update_self] at hposition
        cases hposition
        exact ⟨[], entries e, rfl, (h.event e).chained event hevent,
          fun _ hentry => absurd hentry List.not_mem_nil⟩
      · exact absurd (by simpa [ht] using hposition) (hnobody t' status' group link)
    · exact fun _ hnone => absurd hnone (Option.some_ne_none t)

/-- A broadcast has come to the end of its list, and gives the mutex back. -/
theorem Consistent.endBroadcast (h : Consistent s entries) {event : XrpEvent} {status : XrpStatus}
    {group : Option EventPtr} (hposition : s.position t = .broadcasting e status group none)
    (hevent : s.events (.event e) = some event) :
    Consistent ((s.setEvent (.event e) (some { event with holder := none })).goto t .outside) entries := by
  have hcall : (s.position t).call = none := by
    rw [hposition]
    rfl
  have hholder {t' : ℕ} {status' : XrpStatus} {group' : Option EventPtr} {link' : Option LinkPtr}
      (hposition' : s.position t' = .broadcasting e status' group' link') : event.holder = some t' := by
    have hfits := (h.thread t').fits
    rw [hposition'] at hfits
    obtain ⟨-, found, hfound, -, hheld⟩ := hfits
    obtain rfl : event = found := Option.some_inj.mp (hevent.symm.trans hfound)
    exact hheld
  have hall : ∀ entry ∈ entries e, s.Signaled entry.1 := by
    obtain ⟨visited, rest, hsplit, hrest, hvisited⟩ := (h.event e).walked t status group none hposition
    cases rest with
    | nil =>
      rw [hsplit, List.append_nil]
      exact hvisited
    | cons entry rest => cases hrest.1
  refine h.write hevent hcall rfl ?_ ?_ id ?_ trivial ?_
  · intro e' status' group' link' heq
    rw [hposition] at heq
    cases heq
    rfl
  · rintro e' status' group' link' ⟨⟩
  · intro t' ht heq
    exact ht (Option.some_inj.mp (heq.symm.trans (hholder hposition)))
  · refine (h.event e).write hevent rfl rfl hcall rfl ?_ ?_ fun _ _ => hall
    · rintro t' ⟨⟩
    · intro t' status' group' link' hposition'
      by_cases ht : t' = t
      · subst ht
        rw [goto_position, Function.update_self] at hposition'
        cases hposition'
      · rw [goto_position, Function.update_of_ne ht, setEvent_position] at hposition'
        exact absurd (Option.some_inj.mp ((hholder hposition').symm.trans (hholder hposition))) ht

/-- The state after a broadcast has signaled the group of a thread. -/
def visited (s : WaitState) (t e t₀ : ℕ) (status : XrpStatus) (event : XrpEvent)
    (node : XrpEventLink) : WaitState :=
  (s.setEvent (.group t₀) (some { event with status })).goto t (.broadcasting e status node.owner node.next)

section Visits

variable {t₀ : ℕ} {status : XrpStatus} {event : XrpEvent} {node : XrpEventLink} {p : LinkPtr}

/-- What was signaled remains so. -/
theorem signaled_visited (hstatus : status ≠ .pending) {a : EventPtr} (hs : s.Signaled a) :
    (visited s t e t₀ status event node).Signaled a := by
  by_cases ha : a = .group t₀
  · subst ha
    exact ⟨{ event with status }, by simp [visited], hstatus⟩
  · exact (signaled_write ha _).mpr hs

/-- The threads are registered where they were. -/
theorem registered_visited (hcall : (s.position t).call = none) (e' t' : ℕ) (p : LinkPtr) :
    ((visited s t e t₀ status event node).position t').Registered e' p ↔
    (s.position t').Registered e' p := by
  apply registered_goto
  exact fun e' p => iff_of_false (not_registered_of_no_call rfl e' p) (not_registered_of_no_call hcall e' p)

/-- The event of a broadcast keeps its list, and one more group on it is signaled. -/
theorem EventOk.visit {l : List (EventPtr × LinkPtr)} (h : EventOk s e l) {this : XrpEvent}
    (hposition : s.position t = .broadcasting e status (some (.group t₀)) (some p))
    (hstatus : status ≠ .pending) (hthis : s.events (.event e) = some this)
    (hheld : this.holder = some t) (hnode : s.links p = some node)
    (hothers : ∀ t' status group link, s.position t' = .broadcasting e status group link → t' = t) :
    EventOk (visited s t e t₀ status event node) e l := by
  have hcall : (s.position t).call = none := by
    rw [hposition]
    rfl
  have hfound {found : XrpEvent}
      (hfound : (visited s t e t₀ status event node).events (.event e) = some found) :
      found = this := by
    rw [visited, goto_events, setEvent_events, Function.update_of_ne (by simp)] at hfound
    exact Option.some_inj.mp (hfound.symm.trans hthis)
  constructor
  · intro found hfound'
    rw [hfound hfound']
    exact h.chained this hthis
  · exact h.owners
  · intro g p
    simp only [h.mem g p, registered_visited hcall]
  · intro found t' hfound' hholder
    rw [hfound hfound', hheld] at hholder
    cases hholder
    exact ⟨status, node.owner, node.next, by simp [visited]⟩
  · intro t' status' group link hposition'
    by_cases ht : t' = t
    · subst ht
      rw [visited, goto_position, Function.update_self] at hposition'
      cases hposition'
      obtain ⟨before, rest, hsplit, hrest, hbefore⟩ := h.walked t' status _ _ hposition
      cases rest with
      | nil => cases hrest
      | cons entry rest =>
        obtain ⟨g, q⟩ := entry
        obtain ⟨hhead, node', hnode', -, hrest⟩ := hrest
        cases hhead
        obtain rfl : node = node' := Option.some_inj.mp (hnode.symm.trans hnode')
        refine ⟨before ++ [(.group t₀, p)], rest, by simp [hsplit], ?_, fun entry hentry => ?_⟩
        · rw [lastNode_append]
          exact hrest
        · rcases List.mem_append.mp hentry with hentry | hentry
          · exact signaled_visited hstatus (hbefore entry hentry)
          · rw [List.mem_singleton.mp hentry]
            exact ⟨{ event with status }, by simp [visited], hstatus⟩
    · rw [visited, goto_position, Function.update_of_ne ht, setEvent_position] at hposition'
      exact absurd (hothers t' status' group link hposition') ht
  · intro found hfound' _ hholder
    rw [hfound hfound', hheld] at hholder
    cases hholder

/-- A broadcast signals the next group of its list. -/
theorem Consistent.visit (h : Consistent s entries) {group : Option EventPtr}
    (hposition : s.position t = .broadcasting e status group (some p)) : ∃ t₀ event node,
      group = some (.group t₀) ∧ s.events (.group t₀) = some event ∧ s.links p = some node ∧
        Consistent (visited s t e t₀ status event node) entries := by
  have hfits := (h.thread t).fits
  rw [hposition] at hfits
  obtain ⟨hstatus, this, hthis, hsignaled, hheld⟩ := hfits
  have hcall : (s.position t).call = none := by
    rw [hposition]
    rfl
  have hothers {t' e' : ℕ} {status' : XrpStatus} {group' : Option EventPtr} {link' : Option LinkPtr}
      (hposition' : s.position t' = .broadcasting e' status' group' link') : t' = t ↔ e' = e := by
    constructor
    · rintro rfl
      cases hposition'.symm.trans hposition
      rfl
    · rintro rfl
      have hfits := (h.thread t').fits
      rw [hposition'] at hfits
      obtain ⟨-, found, hfound, -, hheld'⟩ := hfits
      obtain rfl : this = found := Option.some_inj.mp (hthis.symm.trans hfound)
      exact Option.some_inj.mp (hheld'.symm.trans hheld)
  obtain ⟨before, rest, hsplit, hrest, -⟩ := (h.event e).walked t status group (some p) hposition
  cases rest with
  | nil => cases hrest
  | cons entry rest =>
    obtain ⟨g, q⟩ := entry
    obtain ⟨hhead, node, hnode, -, -⟩ := hrest
    cases hhead
    have hentry : (g, p) ∈ entries e := by
      rw [hsplit]
      exact List.mem_append_right before List.mem_cons_self
    obtain ⟨t₀, rfl, call, hcall₀, hholds, hat, -⟩ := (h.event e).owner hentry
    obtain ⟨event, hevent⟩ := Option.isSome_iff_exists.mp ((h.thread t₀).group call hcall₀)
    refine ⟨t₀, event, node, rfl, hevent, hnode, ?_⟩
    constructor
    · intro t'
      by_cases ht : t' = t
      · subst ht
        refine .of_no_call (by simp [visited, Position.call]) ?_
        rw [visited, goto_position, Function.update_self]
        exact ⟨hstatus, this, by simpa using hthis, hsignaled, hheld⟩
      · refine (h.thread t').kept ⟨by simp [visited, ht], ?_, ?_, fun _ _ hp => hp, fun _ _ => rfl, ?_⟩
        · exact fun e' found hfound => ⟨found, by simpa [visited] using hfound, id, id⟩
        · intro _ hgroup
          by_cases ht₀ : t' = t₀
          · simp [visited, ht₀]
          · simpa [visited, ht₀] using hgroup
        · intro call' hcall' hs
          by_cases ht₀ : t' = t₀
          · subst ht₀
            obtain rfl : call = call' := Option.some_inj.mp (hcall₀.symm.trans hcall')
            exact .inr ⟨p.index, e, hholds, hat, this, hthis, hsignaled⟩
          · exact .inl ((signaled_write (by simpa using ht₀) _).mp hs)
    · intro e'
      by_cases he : e' = e
      · subst he
        have hself : ∀ t' status group link, s.position t' = .broadcasting e' status group link → t' = t :=
          fun _ _ _ _ hposition' => (hothers hposition').mpr rfl
        exact (h.event e').visit hposition hstatus hthis hheld hnode hself
      · refine (h.event e').kept ⟨by simp [visited], fun _ _ => rfl, registered_visited hcall e', ?_, ?_⟩
        · intro t' status' group' link'
          by_cases ht : t' = t
          · subst ht
            rw [visited, goto_position, Function.update_self]
            refine iff_of_false ?_ fun hposition' => he ((hothers hposition').mp rfl)
            rintro ⟨⟩
            exact he rfl
          · simp [visited, ht]
        · exact fun _ _ hs => signaled_visited hstatus hs
    · exact own_goto h.own fun p howns => absurd howns (not_owns_of_no_call rfl p)
    · exact h.reports

end Visits

end Broadcasts

end HailoDsp.Xrp.WaitAny
