import HailoDsp.Foundations.Ownership

/-!
# How the tokens of one object change

What an operation does to the tokens of the object it works on, said for the slot of that object
alone.
-/

namespace CountedHeap

open ThreadPool

variable {Obj Env Kind Private Fact Asset : Type} {d : Discipline Obj Env Kind Private Fact Asset}

open Classical

variable {a n : ℕ} {object object' : Obj} {status : ServiceStatus}

/-- One more reference. -/
theorem Exchange.retain (hpos : 0 < n) (h : Slot.Sound d ⟨some ⟨n, object⟩, false, status⟩) :
    Exchange d a ⟨some ⟨n, object⟩, false, status⟩ ⟨some ⟨n + 1, object⟩, false, status⟩ 0
      {.ref a (d.kind object)} where
  count tok haddress := by
    cases tok <;> cases haddress <;> simp [Slot.expects, Multiset.count_singleton, eq_comm]
    · split <;> rfl
    · omega
  gave := by simp
  got := by simp [Token.address]
  keeps := by simp
  sound := by
    have hopen : ¬ d.Closing object := fun hc => absurd (h.closing _ rfl hc) (by simpa using hpos.ne')
    exact ⟨by simp, by simpa using h.started rfl, by simpa using h.unserved, by simpa using hopen,
      by simpa using h.drained⟩

/-- One reference less, but not the last. -/
theorem Exchange.release (hn : 1 < n) (h : Slot.Sound d ⟨some ⟨n, object⟩, false, status⟩) :
    Exchange d a ⟨some ⟨n, object⟩, false, status⟩ ⟨some ⟨n - 1, object⟩, false, status⟩
      {.ref a (d.kind object)} 0 where
  count tok haddress := by
    cases tok <;> cases haddress <;> simp [Slot.expects, Multiset.count_singleton, eq_comm]
    · split <;> omega
    · simp [show ¬ 0 = n - 1 by omega, show ¬ n = 0 by omega]
  gave := by simp [Token.address]
  got := by simp
  keeps := by simp
  sound := by
    have hopen : ¬ d.Closing object := fun hc => absurd (h.closing _ rfl hc) (by simp; omega)
    exact ⟨by simp, by simpa using h.started rfl, by simpa using h.unserved, by simpa using hopen.elim,
      by simpa using h.drained⟩

/-- The last reference to an object without a service thread. -/
theorem Exchange.release_last (hserved : ¬ d.Served (d.kind object))
    (h : Slot.Sound d ⟨some ⟨1, object⟩, false, status⟩) :
    Exchange d a ⟨some ⟨1, object⟩, false, status⟩ ⟨some ⟨0, object⟩, true, status⟩
      {.ref a (d.kind object)} {.own a ⟨0, object⟩} where
  count tok haddress := by
    cases tok <;> cases haddress <;> simp [Slot.expects, Multiset.count_singleton, eq_comm]
  gave := by simp [Token.address]
  got := by simp [Token.address]
  keeps := by simp
  sound := by
    have hidle : status = .idle := h.unserved _ rfl hserved
    exact ⟨by simp [hidle], by simp, by simpa using h.unserved, by simp, by simp [hidle]⟩

/-- The last reference to an object with a service thread. -/
theorem Exchange.release_served (h : Slot.Sound d ⟨some ⟨1, object⟩, false, status⟩) :
    Exchange d a ⟨some ⟨1, object⟩, false, status⟩ ⟨some ⟨0, object⟩, false, status⟩
      {.ref a (d.kind object)} {.dying a (d.kind object)} where
  count tok haddress := by
    cases tok <;> cases haddress <;> simp [Slot.expects, Multiset.count_singleton, eq_comm]
  gave := by simp [Token.address]
  got := by simp [Token.address]
  keeps := by simp
  sound := ⟨by simp, by simpa using h.started rfl, by simpa using h.unserved, by simp,
    by simpa using h.drained⟩

/-- An owned object is written by its owner. -/
theorem Exchange.write_own (hserved : ∀ p, d.Served (d.kind object') ∧ d.priv object' = p ↔
      d.Served (d.kind object) ∧ d.priv object = p) (hclosing : d.Closing object' → d.Closing object)
    (hkeeps : ∀ φ, d.Holds φ object → d.Holds φ object')
    (h : Slot.Sound d ⟨some ⟨n, object⟩, true, status⟩) :
    Exchange d a ⟨some ⟨n, object⟩, true, status⟩ ⟨some ⟨n, object'⟩, true, status⟩
      {.own a ⟨n, object⟩} {.own a ⟨n, object'⟩} where
  count tok haddress := by
    cases tok <;> cases haddress <;> simp [Slot.expects, Multiset.count_singleton, eq_comm]
    · omega
    · rename_i phase p
      have := hserved p
      grind
  gave := by simp [Token.address]
  got := by simp [Token.address]
  keeps := by simpa using hkeeps
  sound := by
    refine ⟨by simpa using h.owned rfl, by simp, fun c hc hnot => h.unserved _ rfl fun hyes => hnot ?_,
      fun c hc hclosed => ?_, fun hfinished => absurd hfinished (h.owned rfl).2.2⟩
    · cases hc
      exact ((hserved _).mpr ⟨hyes, rfl⟩).1
    · cases hc
      exact h.closing ⟨n, object⟩ rfl (hclosing hclosed)

/-- A shared object is written, except for the part of its service thread. -/
theorem Exchange.write_shared (hkind : d.kind object' = d.kind object)
    (hpriv : d.priv object' = d.priv object) (hclosing : d.Closing object' → n = 0)
    (hkeeps : ∀ φ, d.Holds φ object → d.Holds φ object')
    (h : Slot.Sound d ⟨some ⟨n, object⟩, false, status⟩) :
    Exchange d a ⟨some ⟨n, object⟩, false, status⟩ ⟨some ⟨n, object'⟩, false, status⟩ 0 0 where
  count tok haddress := by
    cases tok <;> cases haddress <;> simp [Slot.expects, hkind, hpriv]
  gave := by simp
  got := by simp
  keeps := by simpa using hkeeps
  sound := ⟨by simp, by simpa [hkind] using h.started rfl, by simpa [hkind] using h.unserved,
    by simpa using hclosing, by simpa using fun hfinished => hkeeps _ (h.drained hfinished _ rfl)⟩

/-- A shared object is written by its service thread. -/
theorem Exchange.write_service (hkind : d.kind object' = d.kind object) (hserved : d.Served (d.kind object))
    (hclosing : d.Closing object' → d.Closing object) (hkeeps : ∀ φ, d.Holds φ object → d.Holds φ object')
    (hrunning : status = .running) (h : Slot.Sound d ⟨some ⟨n, object⟩, false, status⟩) :
    Exchange d a ⟨some ⟨n, object⟩, false, status⟩ ⟨some ⟨n, object'⟩, false, status⟩
      {.service a .active (d.priv object)} {.service a .active (d.priv object')} where
  count tok haddress := by
    subst hrunning
    cases tok <;> cases haddress <;>
      simp [Slot.expects, Multiset.count_singleton, ServiceStatus.phase, hkind, hserved, eq_comm]
    grind
  gave := by simp [Token.address]
  got := by simp [Token.address]
  keeps := by simpa using hkeeps
  sound := ⟨by simp, by simp [hrunning], by simp [hkind, hserved],
    by simpa using fun hc => h.closing _ rfl (hclosing hc), by simp [hrunning]⟩

/-- The knowledge of what stays true of an object. -/
theorem Exchange.learn {slot : Slot Obj} {φ : Fact} (hcell : slot.cell = some ⟨n, object⟩)
    (hφ : d.Holds φ object) (h : slot.Sound d) : Exchange d a slot slot 0 {.fact a φ} where
  count tok haddress := by
    have hne : tok ≠ .fact a φ := by
      rintro rfl
      cases haddress
    simp [hne]
  gave := by simp
  got := by simp [hcell, hφ]
  keeps := fun c hc => ⟨c, hc, fun _ => id⟩
  sound := h

/-- The service thread of an object without references has been waited for. -/
theorem Exchange.join (hserved : d.Served (d.kind object)) :
    Exchange d a ⟨some ⟨0, object⟩, false, .finished⟩ ⟨some ⟨0, object⟩, true, .joined⟩
      {.dying a (d.kind object)} ({.own a ⟨0, object⟩} + {.service a .settled (d.priv object)}) where
  count tok haddress := by
    cases tok <;> cases haddress <;>
      simp [Slot.expects, Multiset.count_singleton, Multiset.count_cons, ServiceStatus.phase,
        hserved, eq_comm]
  gave := by simp [Token.address]
  got := by simp [Token.address]
  keeps := by simp
  sound := ⟨by simp, by simp, by simp [hserved], by simp, by simp⟩

/-- The service thread of an object without references takes the object over. -/
theorem Exchange.detach (hserved : d.Served (d.kind object)) :
    Exchange d a ⟨some ⟨0, object⟩, false, .running⟩ ⟨some ⟨0, object⟩, true, .detached⟩
      ({.dying a (d.kind object)} + {.service a .active (d.priv object)})
      ({.own a ⟨0, object⟩} + {.service a .settled (d.priv object)}) where
  count tok haddress := by
    cases tok <;> cases haddress <;>
      simp [Slot.expects, Multiset.count_singleton, Multiset.count_cons, ServiceStatus.phase,
        hserved, eq_comm]
    grind
  gave := by simp [Token.address]
  got := by simp [Token.address]
  keeps := by simp
  sound := ⟨by simp, by simp, by simp [hserved], by simp, by simp⟩

/-- A new object is shared. -/
theorem Exchange.share (hserved : ¬ d.Served (d.kind object))
    (h : Slot.Sound d ⟨some ⟨1, object⟩, true, status⟩) :
    Exchange d a ⟨some ⟨1, object⟩, true, status⟩ ⟨some ⟨1, object⟩, false, status⟩
      {.own a ⟨1, object⟩} {.ref a (d.kind object)} where
  count tok haddress := by
    cases tok <;> cases haddress <;> simp [Slot.expects, Multiset.count_singleton, eq_comm]
  gave := by simp [Token.address]
  got := by simp [Token.address]
  keeps := by simp
  sound := by
    have hidle : status = .idle := h.unserved _ rfl hserved
    exact ⟨by simp, by simp [hserved], by simpa using h.unserved, by simpa using h.closing, by simp [hidle]⟩

/-- A new object is shared with its service thread. -/
theorem Exchange.spawn (hserved : d.Served (d.kind object))
    (h : Slot.Sound d ⟨some ⟨1, object⟩, true, .idle⟩) :
    Exchange d a ⟨some ⟨1, object⟩, true, .idle⟩ ⟨some ⟨1, object⟩, false, .running⟩
      ({.own a ⟨1, object⟩} + {.service a .fresh (d.priv object)})
      ({.ref a (d.kind object)} + {.service a .active (d.priv object)}) where
  count tok haddress := by
    cases tok <;> cases haddress <;>
      simp [Slot.expects, Multiset.count_singleton, Multiset.count_cons, ServiceStatus.phase,
        hserved, eq_comm]
    grind
  gave := by simp [Token.address]
  got := by simp [Token.address]
  keeps := by simp
  sound := ⟨by simp, by simp, by simp [hserved], by simpa using h.closing, by simp⟩

/-- An object without a service thread is freed. -/
theorem Exchange.free (hserved : ¬ d.Served (d.kind object)) :
    Exchange d a ⟨some ⟨n, object⟩, true, status⟩ ⟨none, false, status⟩ {.own a ⟨n, object⟩} 0 where
  count tok haddress := by
    cases tok <;> cases haddress <;> simp [Slot.expects, Multiset.count_singleton, hserved, eq_comm]
  gave := by simp [Token.address]
  got := by simp
  keeps := by simp
  sound := ⟨by simp, by simp, by simp, by simp, by simp⟩

/-- An object is freed whose service thread uses it no more. -/
theorem Exchange.free_served {phase : Phase} (hserved : d.Served (d.kind object))
    (hphase : status.phase = some phase) :
    Exchange d a ⟨some ⟨n, object⟩, true, status⟩ ⟨none, false, status⟩
      ({.own a ⟨n, object⟩} + {.service a phase (d.priv object)}) {.gone a} where
  count tok haddress := by
    cases tok <;> cases haddress <;>
      simp [Slot.expects, Multiset.count_singleton, Multiset.count_cons, hserved, hphase, eq_comm]
  gave := by simp [Token.address]
  got := by simp
  keeps := by simp
  sound := ⟨by simp, by simp, by simp, by simp, by simp⟩

/-- The service thread of a drained object ends. -/
theorem Exchange.finish (hserved : d.Served (d.kind object)) (hdrained : d.Holds d.drained object)
    (h : Slot.Sound d ⟨some ⟨n, object⟩, false, .running⟩) :
    Exchange d a ⟨some ⟨n, object⟩, false, .running⟩ ⟨some ⟨n, object⟩, false, .finished⟩
      {.service a .active (d.priv object)} 0 where
  count tok haddress := by
    cases tok <;> cases haddress <;>
      simp [Slot.expects, Multiset.count_singleton, ServiceStatus.phase, hserved, eq_comm]
  gave := by simp [Token.address]
  got := by simp
  keeps := by simp
  sound := ⟨by simp, by simp, by simp [hserved], by simpa using h.closing, by simpa using hdrained⟩

end CountedHeap
