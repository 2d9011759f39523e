import HailoDsp.Foundations.OwnershipExchange

/-!
# The rules of the operations

For each operation on the heap, the tokens it needs and the tokens it leaves.
-/

namespace CountedHeap

open ThreadPool

variable {Obj Env Kind Private Fact Asset α : Type} {Cmd : Type → Type}
  {d : Discipline Obj Env Kind Private Fact Asset} {environment : Environment Env Cmd}

/-- The verified programs on a heap. -/
abbrev Verifies (environment : Environment Env Cmd) (d : Discipline Obj Env Kind Private Fact Asset)
    (t : Thread) (prog : Prog (Op Obj Cmd) α)
    (post : α → Multiset (Token Obj Kind Private Fact Asset) → Prop)
    (m : Multiset (Token Obj Kind Private Fact Asset)) : Prop :=
  Verified (machine environment) (assertions d) t prog post m

variable {s s' : State Obj Env} {x : Finset ℕ} {t : Thread} {a n : ℕ} {k : Kind} {c : Cell Obj}
  {object object' : Obj}
  {m : Multiset (Token Obj Kind Private Fact Asset)}
  {post : α → Multiset (Token Obj Kind Private Fact Asset) → Prop}

section Slots

variable {tokens : Multiset (Token Obj Kind Private Fact Asset)}

/-- The slot of a shared object. -/
theorem Balanced.sound_shared (h : Balanced d s x tokens) (hcell : s.cells a = some ⟨n, object⟩)
    (hx : a ∉ x) :
    Slot.Sound d ⟨some ⟨n, object⟩, false, s.service a⟩ := by
  simpa [slotAt, hcell, hx] using h.sound a

/-- The slot of an owned object. -/
theorem Balanced.sound_owned (h : Balanced d s x tokens) (hcell : s.cells a = some ⟨n, object⟩)
    (hx : a ∈ x) :
    Slot.Sound d ⟨some ⟨n, object⟩, true, s.service a⟩ := by
  simpa [slotAt, hcell, hx] using h.sound a

/-- One cell is written. -/
theorem Balanced.write (x' : Finset ℕ) {owned owned' : Bool} {cell : Option (Cell Obj)}
    {m' frame gave got : Multiset (Token Obj Kind Private Fact Asset)}
    (h : Balanced d s x (m + frame + (contents d s x + d.shared s.env))) (hcell : s.cells a = some c)
    (howned : decide (a ∈ x) = owned) (howned' : decide (a ∈ x') = owned')
    (hother : ∀ b ≠ a, b ∈ x' ↔ b ∈ x)
    (hexchange : Exchange d a ⟨some c, owned, s.service a⟩ ⟨cell, owned', s.service a⟩ gave got)
    (hbalance : m' + gave + Slot.owns d ⟨cell, owned', s.service a⟩ a =
      m + got + Slot.owns d ⟨some c, owned, s.service a⟩ a) :
    Inv d (m' + frame) (s.setCell a cell) := by
  refine h.change x' hexchange (by simp [slotAt, hcell, howned]) (by simp [slotAt, State.setCell, howned'])
    (by simp [hcell]) (fun b hb => ?_) rfl rfl hbalance
  simp [slotAt, State.setCell, hb, hother b hb]

end Slots

/-- An operation that starts no thread. -/
theorem verified_perform {op : Op Obj Cmd α} (hstarts : starts op = none)
    (h : ∀ frame s x, Balanced d s x (m + frame + (contents d s x + d.shared s.env)) → Running s t →
      ¬ Fault environment t op s ∧
        ∀ r s', Step environment t op s r s' → ∃ m', Inv d (m' + frame) s' ∧ post r m') :
    Verifies environment d t (perform op) post m := by
  intro frame s hinv hrun
  obtain ⟨x, hb⟩ := hinv
  obtain ⟨hfault, hsteps⟩ := h frame s x hb hrun
  refine ⟨hfault, fun r s' hstep => ?_⟩
  obtain ⟨m', hinv', hpost⟩ := hsteps r s' hstep
  have hnone : (machine environment).starts op = none := hstarts
  refine ⟨m', 0, ?_, ?_, verified_pure hpost⟩
  · rwa [add_zero]
  · rw [hnone]
    rfl

section Counting

/-- `++count` -/
theorem verified_retain :
    Verifies environment d t (perform (.retain a)) (fun _ m => m = {.ref a k} + {.ref a k}) {.ref a k} := by
  refine verified_perform rfl fun frame s x hb _ => ?_
  obtain ⟨⟨n, object⟩, hcell, hx, rfl, hpos⟩ := hb.of_ref (a := a) (k := k) (by simp)
  refine ⟨by simp [Fault, hcell], ?_⟩
  rintro r s' ⟨c, hc, rfl⟩
  obtain rfl : ⟨n, object⟩ = c := by simpa [hcell] using hc
  refine ⟨_, hb.write x hcell (decide_eq_false hx) (decide_eq_false hx) (fun _ _ => Iff.rfl)
    (.retain hpos (hb.sound_shared hcell hx)) ?_, rfl⟩
  simp [Slot.owns]

/-- One reference less, but not the last. -/
theorem Balanced.release {frame : Multiset (Token Obj Kind Private Fact Asset)}
    (hb : Balanced d s x ({.ref a (d.kind object)} + frame + (contents d s x + d.shared s.env)))
    (hcell : s.cells a = some ⟨n, object⟩) (hx : a ∉ x) (hn : 1 < n) :
    Inv d (0 + frame) (s.setCell a (some ⟨n - 1, object⟩)) := by
  refine hb.write x hcell (decide_eq_false hx) (decide_eq_false hx) (fun _ _ => Iff.rfl)
    (.release hn (hb.sound_shared hcell hx)) ?_
  simp [Slot.owns]

/-- `--count == 0` on an object without a service thread. -/
theorem verified_release (hk : ¬ d.Served k) :
    Verifies environment d t (perform (.release a))
      (fun last m => if last = true then ∃ object, d.kind object = k ∧
        m = {.own a ⟨0, object⟩} + d.owns a object
        else m = 0) {.ref a k} := by
  refine verified_perform rfl fun frame s x hb _ => ?_
  obtain ⟨⟨n, object⟩, hcell, hx, rfl, hpos⟩ := hb.of_ref (a := a) (k := k) (by simp)
  refine ⟨by simpa [Fault, hcell] using hpos.ne', ?_⟩
  rintro r s' ⟨c, hc, rfl, rfl⟩
  obtain rfl : ⟨n, object⟩ = c := by simpa [hcell] using hc
  have hpos : 0 < n := hpos
  by_cases hone : n = 1
  · subst hone
    refine ⟨{.own a ⟨0, object⟩} + d.owns a object, hb.write (insert a x) hcell (decide_eq_false hx)
      (decide_eq_true (Finset.mem_insert_self a x)) (fun b hb => by simp [hb])
      (.release_last hk (hb.sound_shared hcell hx)) ?_, ?_⟩
    · simp only [Slot.owns, if_true, Bool.false_eq_true, if_false, Option.elim_some]
      abel
    · rw [if_pos (decide_eq_true rfl)]
      exact ⟨object, rfl, rfl⟩
  · have hn : 1 < n := by omega
    refine ⟨0, hb.release hcell hx hn, ?_⟩
    rw [if_neg (by simpa using hone)]

/-- `--count == 0` on an object with a service thread. -/
theorem verified_release_served :
    Verifies environment d t (perform (.release a))
      (fun last m => m = if last = true then {.dying a k} else 0)
      {.ref a k} := by
  refine verified_perform rfl fun frame s x hb _ => ?_
  obtain ⟨⟨n, object⟩, hcell, hx, rfl, hpos⟩ := hb.of_ref (a := a) (k := k) (by simp)
  refine ⟨by simpa [Fault, hcell] using hpos.ne', ?_⟩
  rintro r s' ⟨c, hc, rfl, rfl⟩
  obtain rfl : ⟨n, object⟩ = c := by simpa [hcell] using hc
  have hpos : 0 < n := hpos
  by_cases hone : n = 1
  · subst hone
    refine ⟨{.dying a (d.kind object)}, hb.write x hcell (decide_eq_false hx) (decide_eq_false hx)
      (fun _ _ => Iff.rfl) (.release_served (hb.sound_shared hcell hx)) ?_, by simp⟩
    simp only [Slot.owns, Bool.false_eq_true, if_false, Option.elim_some]
    abel
  · have hn : 1 < n := by omega
    exact ⟨0, hb.release hcell hx hn, by simp [hone]⟩

end Counting

section Access

variable {f : Obj → Reply Obj α}

/-- A critical section of the owner of an object. -/
theorem verified_access_own {r : α} (hf : f object = .done r object')
    (hserved : ∀ p, d.Served (d.kind object') ∧ d.priv object' = p ↔ d.Served (d.kind object) ∧
      d.priv object = p)
    (hclosing : d.Closing object' → d.Closing object) (hkeeps : ∀ φ, d.Holds φ object → d.Holds φ object') :
    Verifies environment d t (perform (.access a f)) (fun r' m => r' = r ∧ m = {.own a ⟨n, object'⟩})
      {.own a ⟨n, object⟩} := by
  refine verified_perform rfl fun frame s x hb _ => ?_
  obtain ⟨hcell, hx⟩ := hb.of_own (a := a) (c := ⟨n, object⟩) (by simp)
  refine ⟨by simp [Fault, hcell, hf], ?_⟩
  rintro r' s' ⟨c, object'', hc, hdone, rfl⟩
  obtain rfl : ⟨n, object⟩ = c := by simpa [hcell] using hc
  rw [hf] at hdone
  cases hdone
  refine ⟨_, hb.write x hcell (decide_eq_true hx) (decide_eq_true hx) (fun _ _ => Iff.rfl)
    (.write_own hserved hclosing hkeeps (hb.sound_owned hcell hx)) ?_, rfl, rfl⟩
  simp only [Slot.owns, if_true]
  abel

/-- A critical section of a thread with a reference. -/
theorem verified_access_ref
    (h : ∀ object, d.kind object = k → ¬ d.Closing object → f object ≠ .fault ∧
      ∀ r object', f object = .done r object' →
      d.kind object' = k ∧ d.priv object' = d.priv object ∧ ¬ d.Closing object' ∧
        (∀ φ, d.Holds φ object → d.Holds φ object') ∧
          ∃ m', m' + d.owns a object' = m + d.owns a object ∧ post r (m' + {.ref a k})) :
    Verifies environment d t (perform (.access a f)) post (m + {.ref a k}) := by
  refine verified_perform rfl fun frame s x hb _ => ?_
  obtain ⟨⟨n, object⟩, hcell, hx, rfl, hpos⟩ := hb.of_ref (a := a) (k := k) (by simp)
  have hsound := hb.sound_shared hcell hx
  obtain ⟨hfault, hdone⟩ := h object rfl fun hc => hpos.ne' (hsound.closing _ rfl hc)
  refine ⟨by simpa [Fault, hcell] using hfault, ?_⟩
  rintro r s' ⟨c, object', hc, hf, rfl⟩
  obtain rfl : ⟨n, object⟩ = c := by simpa [hcell] using hc
  obtain ⟨hkind, hpriv, hclosing, hkeeps, m', hbalance, hpost⟩ := hdone r object' hf
  refine ⟨_, hb.write x hcell (decide_eq_false hx) (decide_eq_false hx) (fun _ _ => Iff.rfl)
    (.write_shared hkind hpriv (fun hc => absurd hc hclosing) hkeeps hsound) ?_, hpost⟩
  simp only [Slot.owns, Bool.false_eq_true, if_false, Option.elim_some, add_zero]
  rw [add_right_comm, hbalance, add_right_comm]

/-- A critical section of the thread that has dropped the last reference. -/
theorem verified_access_dying
    (h : ∀ object, d.kind object = k → f object ≠ .fault ∧ ∀ r object', f object = .done r object' →
      d.kind object' = k ∧ d.priv object' = d.priv object ∧ (∀ φ, d.Holds φ object → d.Holds φ object') ∧
        ∃ m', m' + d.owns a object' = m + d.owns a object ∧ post r (m' + {.dying a k})) :
    Verifies environment d t (perform (.access a f)) post (m + {.dying a k}) := by
  refine verified_perform rfl fun frame s x hb _ => ?_
  obtain ⟨⟨n, object⟩, hcell, hx, rfl, hzero⟩ := hb.of_dying (a := a) (k := k) (by simp)
  obtain ⟨hfault, hdone⟩ := h object rfl
  refine ⟨by simpa [Fault, hcell] using hfault, ?_⟩
  rintro r s' ⟨c, object', hc, hf, rfl⟩
  obtain rfl : ⟨n, object⟩ = c := by simpa [hcell] using hc
  obtain ⟨hkind, hpriv, hkeeps, m', hbalance, hpost⟩ := hdone r object' hf
  refine ⟨_, hb.write x hcell (decide_eq_false hx) (decide_eq_false hx) (fun _ _ => Iff.rfl)
    (.write_shared hkind hpriv (fun _ => hzero) hkeeps (hb.sound_shared hcell hx)) ?_, hpost⟩
  simp only [Slot.owns, Bool.false_eq_true, if_false, Option.elim_some, add_zero]
  rw [add_right_comm, hbalance, add_right_comm]

/-- What is known of an object can be noted down. -/
theorem Inv.learn {φ : Fact} {rest : Multiset (Token Obj Kind Private Fact Asset)} (h : Inv d rest s)
    (hcell : s.cells a = some ⟨n, object⟩) (hφ : d.Holds φ object) : Inv d ({.fact a φ} + rest) s := by
  obtain ⟨x, hb⟩ := h
  have hexchange : Exchange d a (slotAt s x a) (slotAt s x a) 0 {.fact a φ} := .learn hcell hφ (hb.sound a)
  refine ⟨x, hb.exchange hexchange rfl rfl (by simp [hcell]) (fun _ _ => rfl) rfl rfl ?_⟩
  abel

/-- A critical section of a service thread, which may find that the object is drained. -/
theorem verified_access_service {p : Private} (found : α → Bool)
    (h : ∀ object, d.priv object = p → d.Served (d.kind object) → f object ≠ .fault ∧
      ∀ r object', f object = .done r object' →
        d.kind object' = d.kind object ∧ (d.Closing object' → d.Closing object) ∧
          (∀ φ, d.Holds φ object → d.Holds φ object') ∧ (found r = true → d.Holds d.drained object') ∧
            ∃ m', m' + d.owns a object' = m + d.owns a object ∧
              post r ((if found r = true then {.fact a d.drained} else 0) +
                (m' + {.service a .active (d.priv object')}))) :
    Verifies environment d t (perform (.access a f)) post (m + {.service a .active p}) := by
  refine verified_perform rfl fun frame s x hb _ => ?_
  obtain ⟨⟨n, object⟩, hcell, hx, hserved, hrunning, rfl⟩ := hb.of_active (a := a) (p := p) (by simp)
  obtain ⟨hfault, hdone⟩ := h object rfl hserved
  refine ⟨by simpa [Fault, hcell] using hfault, ?_⟩
  rintro r s' ⟨c, object', hc, hf, rfl⟩
  obtain rfl : ⟨n, object⟩ = c := by simpa [hcell] using hc
  obtain ⟨hkind, hclosing, hkeeps, hdrained, m', hbalance, hpost⟩ := hdone r object' hf
  have hwritten : Inv d (m' + {.service a .active (d.priv object')} + frame)
      (s.setCell a (some ⟨n, object'⟩)) := by
    refine hb.write x hcell (decide_eq_false hx) (decide_eq_false hx) (fun _ _ => Iff.rfl)
      (.write_service hkind hserved hclosing hkeeps hrunning (hb.sound_shared hcell hx)) ?_
    simp only [Slot.owns, Bool.false_eq_true, if_false, Option.elim_some]
    calc _ = m' + d.owns a object' + {.service a .active (d.priv object')} +
          {.service a .active (d.priv object)} := by abel
      _ = _ := by
        rw [hbalance]
        abel
  refine ⟨_, ?_, hpost⟩
  split
  · rename_i hfound
    rw [add_assoc]
    exact hwritten.learn (n := n) (by simp [State.setCell]) (hdrained hfound)
  · rwa [zero_add]

end Access

/-- One reference more to an object that somebody has a reference to. -/
theorem Balanced.retain {frame : Multiset (Token Obj Kind Private Fact Asset)}
    (hb : Balanced d s x (m + frame + (contents d s x + d.shared s.env)))
    (hmem : .ref a k ∈ m + frame + (contents d s x + d.shared s.env)) (hcell : s.cells a = some c) :
    Inv d (m + {.ref a k} + frame) (s.setCell a (some ⟨c.count + 1, c.object⟩)) := by
  obtain ⟨⟨n, object⟩, hc, hx, rfl, hpos⟩ := hb.of_ref hmem
  obtain rfl : ⟨n, object⟩ = c := by simpa [hcell] using hc.symm
  refine hb.write x hcell (decide_eq_false hx) (decide_eq_false hx) (fun _ _ => Iff.rfl)
    (.retain hpos (hb.sound_shared hcell hx)) ?_
  simp [Slot.owns]

/-- A critical section of a thread with a reference, in which another object is retained. -/
theorem verified_access_retaining {f : Obj → α × Obj × Option ℕ}
    (h : ∀ object, d.kind object = k → ¬ d.Closing object → d.kind (f object).2.1 = k ∧
      d.priv (f object).2.1 = d.priv object ∧ ¬ d.Closing (f object).2.1 ∧
        (∀ φ, d.Holds φ object → d.Holds φ (f object).2.1) ∧
        ∃ m', m' + d.owns a (f object).2.1 = m + d.owns a object ∧
          match (f object).2.2 with
          | none => post (f object).1 (m' + {.ref a k})
          | some b => ∃ k' ≠ k, .ref b k' ∈ m' + d.owns a (f object).2.1 ∧
            post (f object).1 (m' + {.ref a k} + {.ref b k'})) :
    Verifies environment d t (perform (.accessRetaining a f)) post (m + {.ref a k}) := by
  refine verified_perform rfl fun frame s x hb _ => ?_
  obtain ⟨⟨n, object⟩, hcell, hx, rfl, hpos⟩ := hb.of_ref (a := a) (k := k) (by simp)
  have hsound := hb.sound_shared hcell hx
  obtain ⟨hkind, hpriv, hclosing, hkeeps, m', hbalance, htarget⟩ :=
    h object rfl fun hc => hpos.ne' (hsound.closing _ rfl hc)
  have hwritten : Inv d (m' + {.ref a (d.kind object)} + frame)
      (s.setCell a (some ⟨n, (f object).2.1⟩)) := by
    refine hb.write x hcell (decide_eq_false hx) (decide_eq_false hx) (fun _ _ => Iff.rfl)
      (.write_shared hkind hpriv (fun hc => absurd hc hclosing) hkeeps hsound) ?_
    simp only [Slot.owns, Bool.false_eq_true, if_false, Option.elim_some, add_zero]
    rw [add_right_comm, hbalance, add_right_comm]
  have hself : (s.setCell a (some ⟨n, (f object).2.1⟩)).cells a = some ⟨n, (f object).2.1⟩ := by
    simp [State.setCell]
  cases hf : (f object).2.2 with
  | none =>
    rw [hf] at htarget
    refine ⟨by simp [Fault, hcell, hf], ?_⟩
    rintro r s' ⟨c, object', hc, ⟨hr, rfl⟩ | ⟨b, c', hr, -, -⟩⟩
    · obtain rfl : ⟨n, object⟩ = c := by simpa [hcell] using hc
      simp only [hr] at hwritten htarget ⊢
      exact ⟨_, hwritten, htarget⟩
    · obtain rfl : ⟨n, object⟩ = c := by simpa [hcell] using hc
      simp [hr] at hf
  | some b =>
    rw [hf] at htarget
    obtain ⟨k', hne, hmem, hpost⟩ := htarget
    obtain ⟨x', hb'⟩ := hwritten
    obtain ⟨-, -, hx', -⟩ := hb'.of_ref (a := a) (k := d.kind object) (by simp)
    have htoken : .ref b k' ∈ m' + {.ref a (d.kind object)} + frame +
        (contents d (s.setCell a (some ⟨n, (f object).2.1⟩)) x' +
        d.shared s.env) := by
      rcases Multiset.mem_add.mp hmem with hin | hin
      · simp [hin]
      · have := hb'.mem_contents hself hx' hin
        simp only [Multiset.mem_add]
        exact .inr (.inl this)
    have hba : b ≠ a := by
      rintro rfl
      obtain ⟨c, hc, -, hk, -⟩ := hb'.of_ref htoken
      rw [hself] at hc
      cases hc
      exact hne (hk.symm.trans hkind)
    obtain ⟨c', hc', -⟩ := hb'.of_ref htoken
    refine ⟨?_, ?_⟩
    · have hsome : s.cells b = some c' := by simpa [State.setCell, hba] using hc'
      simp [Fault, hcell, hf, hsome]
    · rintro r s' ⟨c, object', hc, ⟨hr, -⟩ | ⟨b', c'', hr, hc'', rfl⟩⟩
      · obtain rfl : ⟨n, object⟩ = c := by simpa [hcell] using hc
        simp [hr] at hf
      · obtain rfl : ⟨n, object⟩ = c := by simpa [hcell] using hc
        obtain rfl : b' = b := by simpa [hr] using hf
        simp only [hr] at hb' htoken hpost hc'' ⊢
        exact ⟨_, hb'.retain htoken hc'', hpost⟩

/-- A look at several objects. -/
theorem verified_inspect {f : (ℕ → Option Obj) → Option α}
    (h : ∀ frame s x, Balanced d s x (m + frame + (contents d s x + d.shared s.env)) →
      ∃ r, f s.objects = some r ∧ post r m) :
    Verifies environment d t (perform (.inspect f)) post m := by
  refine verified_perform rfl fun frame s x hb _ => ?_
  obtain ⟨r, hf, hpost⟩ := h frame s x hb
  refine ⟨by simp [Fault, hf], ?_⟩
  rintro r' s' ⟨hr, rfl⟩
  obtain rfl : r = r' := by simpa [hf] using hr
  exact ⟨m, ⟨x, hb⟩, hpost⟩

open Classical in
/-- The environment changes. -/
theorem Balanced.answer {env : Env} {tokens tokens' : Multiset (Token Obj Kind Private Fact Asset)}
    (h : Balanced d s x tokens)
    (htotal : tokens' + (d.outstanding s.env).map .asset = tokens + (d.outstanding env).map .asset) :
    Balanced d { s with env := env } x tokens' := by
  have hcount (tok : Token Obj Kind Private Fact Asset) :
      tokens'.count tok + ((d.outstanding s.env).map .asset).count tok =
      tokens.count tok + ((d.outstanding env).map .asset).count tok := by
    rw [← Multiset.count_add, htotal, Multiset.count_add]
  have hother {tok : Token Obj Kind Private Fact Asset} (hne : ∀ y, tok ≠ .asset y) :
      tokens'.count tok = tokens.count tok := by
    have hzero (assets : Multiset Asset) : (assets.map .asset).count tok = 0 := by
      refine Multiset.count_eq_zero.mpr fun hin => ?_
      obtain ⟨y, -, rfl⟩ := Multiset.mem_map.mp hin
      exact hne y rfl
    have := hcount tok
    rwa [hzero, hzero, add_zero, add_zero] at this
  have hmem {tok : Token Obj Kind Private Fact Asset} (hne : ∀ y, tok ≠ .asset y) (hin : tok ∈ tokens') :
      tok ∈ tokens := by
    rwa [← Multiset.count_pos, ← hother hne, Multiset.count_pos]
  refine ⟨h.unused, h.sound, fun tok a haddress => ?_, fun y => ?_, fun a hin => ?_, fun a φ hin => ?_⟩
  · rw [hother (by rintro y rfl; cases haddress)]
    exact h.count tok a haddress
  · have := hcount (.asset y)
    rw [h.assets y, Multiset.count_map_eq_count' _ _ (fun _ _ heq => by cases heq; rfl),
      Multiset.count_map_eq_count' _ _ (fun _ _ heq => by cases heq; rfl)] at this
    simp only
    omega
  · exact h.gone a (hmem (by simp) hin)
  · exact h.facts a φ (hmem (by simp) hin)

/-- A command to the environment. -/
theorem verified_command {c : (ℕ → Option Obj) → Option (Cmd α)}
    (h : ∀ frame s x, Balanced d s x (m + frame + (contents d s x + d.shared s.env)) →
      ∃ cmd, c s.objects = some cmd ∧ environment.Allowed t cmd s.env ∧
        ∀ r env, environment.Answers cmd s.env r env → ∃ m', post r m' ∧
          m' + d.shared env + (d.outstanding s.env).map .asset = m + d.shared s.env +
          (d.outstanding env).map .asset) :
    Verifies environment d t (perform (.command c)) post m := by
  refine verified_perform rfl fun frame s x hb _ => ?_
  obtain ⟨cmd, hcmd, hallowed, hanswers⟩ := h frame s x hb
  refine ⟨by simpa [Fault, hcmd] using hallowed, ?_⟩
  rintro r s' ⟨cmd', env, hcmd', hanswer, rfl⟩
  obtain rfl : cmd = cmd' := by simpa [hcmd] using hcmd'
  obtain ⟨m', hpost, hbalance⟩ := hanswers r env hanswer
  refine ⟨m', ⟨x, hb.answer ?_⟩, hpost⟩
  have hcontents : contents d { s with env := env } x = contents d s x := rfl
  rw [hcontents]
  calc m' + frame + (contents d s x + d.shared env) + (d.outstanding s.env).map .asset
      = frame + contents d s x + (m' + d.shared env + (d.outstanding s.env).map .asset) := by abel
    _ = frame + contents d s x + (m + d.shared s.env + (d.outstanding env).map .asset) := by rw [hbalance]
    _ = m + frame + (contents d s x + d.shared s.env) + (d.outstanding env).map .asset := by abel

section NewObjects

open Classical

/-- The tokens of a new object. -/
noncomputable def newTokens (d : Discipline Obj Env Kind Private Fact Asset) (a : ℕ) (object : Obj) :
    Multiset (Token Obj Kind Private Fact Asset) :=
  {.own a ⟨1, object⟩} + if d.Served (d.kind object) then {.service a .fresh (d.priv object)} else 0

/-- A new object is owned by the thread that allocates it. -/
theorem Balanced.allocate {tokens : Multiset (Token Obj Kind Private Fact Asset)}
    (h : Balanced d s x tokens) (hclosing : ¬ d.Closing object) :
    Balanced d (s.allocate object) (insert s.next x) (tokens + newTokens d s.next object) := by
  obtain ⟨hnone, hidle⟩ := h.unused s.next le_rfl
  have hnew : slotAt (s.allocate object) (insert s.next x) s.next = ⟨some ⟨1, object⟩, true, .idle⟩ := by
    simp [slotAt, State.allocate, hidle]
  have hother (b : ℕ) (hb : b ≠ s.next) : slotAt (s.allocate object) (insert s.next x) b =
      slotAt s x b := by
    simp [slotAt, State.allocate, hb]
  have hzero {tok : Token Obj Kind Private Fact Asset} (hne : tok.address ≠ some s.next) :
      (newTokens d s.next object).count tok = 0 := by
    refine Multiset.count_eq_zero.mpr fun hin => ?_
    rcases Multiset.mem_add.mp hin with hin | hin
    · exact hne (Multiset.mem_singleton.mp hin ▸ rfl)
    · split at hin
      · exact hne (Multiset.mem_singleton.mp hin ▸ rfl)
      · simp at hin
  have hmem {tok : Token Obj Kind Private Fact Asset} (hne : tok.address ≠ some s.next)
      (hin : tok ∈ tokens + newTokens d s.next object) : tok ∈ tokens := by
    rcases Multiset.mem_add.mp hin with hin | hin
    · exact hin
    · exact absurd hin (Multiset.count_eq_zero.mp (hzero hne))
  refine ⟨fun b hb => ?_, fun b => ?_, fun tok b haddress => ?_, fun y => ?_, fun b hin => ?_,
    fun b φ hin => ?_⟩
  · have hlt : s.next < b := hb
    have hne : b ≠ s.next := by omega
    obtain ⟨hcell, hstatus⟩ := h.unused b (by omega)
    exact ⟨by simp [State.allocate, hne, hcell], hstatus⟩
  · by_cases hb : b = s.next
    · subst hb
      rw [hnew]
      exact ⟨by simp, by simp, by simp, by simp [hclosing], by simp⟩
    · exact hother b hb ▸ h.sound b
  · rw [Multiset.count_add, h.count tok b haddress]
    by_cases hb : b = s.next
    · subst hb
      rw [hnew]
      have hempty : (slotAt s x s.next).expects d tok = 0 := by
        cases tok <;> simp [Slot.expects, slotAt, hnone]
      rw [hempty, zero_add, newTokens]
      by_cases hserved : d.Served (d.kind object) <;> cases tok <;> cases haddress <;>
        simp [Slot.expects, Multiset.count_singleton, Multiset.count_cons, ServiceStatus.phase,
          hserved, eq_comm]
    · rw [hother b hb, hzero (haddress ▸ fun heq => hb (Option.some_inj.mp heq)), add_zero]
  · rw [Multiset.count_add, hzero (by simp [Token.address]), add_zero]
    exact h.assets y
  · obtain ⟨hcell, hlt⟩ := h.gone b (hmem (by simp [Token.address]) hin)
    have hne : b ≠ s.next := by omega
    exact ⟨by simp [State.allocate, hne, hcell], Nat.lt_succ_of_lt hlt⟩
  · obtain ⟨hlt, hholds⟩ := h.facts b φ (hmem (by simp [Token.address]) hin)
    have hne : b ≠ s.next := by omega
    exact ⟨Nat.lt_succ_of_lt hlt, fun c hc => hholds c (by simpa [State.allocate, hne] using hc)⟩

/-- What all objects own does not change with a new one. -/
theorem contents_allocate :
    contents d (s.allocate object) (insert s.next x) = contents d s x := by
  have hlast : (slotAt (s.allocate object) (insert s.next x) s.next).owns d s.next = 0 := by
    simp [Slot.owns, slotAt]
  have hrange : (s.allocate object).next = s.next + 1 := rfl
  rw [contents, contents, hrange, Finset.sum_range_succ, hlast, add_zero]
  refine Finset.sum_congr rfl fun b hb => ?_
  have hne : b ≠ s.next := (Finset.mem_range.mp hb).ne
  simp [slotAt, State.allocate, hne]

/-- A new object is owned by the thread that allocates it. -/
theorem Balanced.new {frame : Multiset (Token Obj Kind Private Fact Asset)}
    (hb : Balanced d s x (m + frame + (contents d s x + d.shared s.env))) (hclosing : ¬ d.Closing object) :
    Inv d (newTokens d s.next object + m + frame) (s.allocate object) := by
  refine ⟨insert s.next x, ?_⟩
  rw [contents_allocate]
  have := hb.allocate hclosing
  convert this using 1
  rw [show d.shared (s.allocate object).env = d.shared s.env from rfl]
  abel

/-- Allocate an object, or get NULL. -/
theorem verified_alloc (hclosing : ¬ d.Closing object) :
    Verifies environment d t (perform (.alloc object))
      (fun r m => m = r.elim 0 fun a => newTokens d a object) 0 := by
  refine verified_perform rfl fun frame s x hb _ => ⟨by simp [Fault], ?_⟩
  rintro r s' (⟨rfl, rfl⟩ | ⟨rfl, rfl⟩)
  · exact ⟨0, ⟨x, hb⟩, rfl⟩
  · exact ⟨_, hb.new hclosing, by simp⟩

/-- Put a variable on the stack. -/
theorem verified_place (hclosing : ¬ d.Closing object) :
    Verifies environment d t (perform (.place object)) (fun a m => m = newTokens d a object) 0 := by
  refine verified_perform rfl fun frame s x hb _ => ⟨by simp [Fault], ?_⟩
  rintro r s' ⟨rfl, rfl⟩
  exact ⟨_, hb.new hclosing, by simp⟩

/-- The tokens of a new object without a service thread. -/
theorem newTokens_unserved (hserved : ¬ d.Served (d.kind object)) :
    newTokens d a object = {.own a ⟨1, object⟩} := by
  rw [newTokens, if_neg hserved, add_zero]

/-- The tokens of a new object with a service thread. -/
theorem newTokens_served (hserved : d.Served (d.kind object)) :
    newTokens d a object = {.own a ⟨1, object⟩} + {.service a .fresh (d.priv object)} := by
  rw [newTokens, if_pos hserved]

/-- Allocate an object without a service thread, or get NULL. -/
theorem verified_alloc_unserved (hserved : ¬ d.Served (d.kind object)) (hclosing : ¬ d.Closing object) :
    Verifies environment d t (perform (.alloc object))
      (fun r m => m = r.elim 0 fun a => {.own a ⟨1, object⟩}) 0 := by
  refine (verified_alloc hclosing).mono fun r m hm => ?_
  cases r with
  | none => exact hm
  | some a => exact hm.trans (newTokens_unserved hserved)

/-- Put a variable without a service thread on the stack. -/
theorem verified_place_unserved (hserved : ¬ d.Served (d.kind object)) (hclosing : ¬ d.Closing object) :
    Verifies environment d t (perform (.place object)) (fun a m => m = {.own a ⟨1, object⟩}) 0 :=
  (verified_place hclosing).mono fun _ _ hm => hm.trans (newTokens_unserved hserved)

/-- Allocate an object with a service thread, or get NULL. -/
theorem verified_alloc_served (hserved : d.Served (d.kind object)) (hclosing : ¬ d.Closing object) :
    Verifies environment d t (perform (.alloc object))
      (fun r m => m = r.elim 0 fun a => {.own a ⟨1, object⟩} + {.service a .fresh (d.priv object)}) 0 := by
  refine (verified_alloc hclosing).mono fun r m hm => ?_
  cases r with
  | none => exact hm
  | some a => exact hm.trans (newTokens_served hserved)

/-- A new object is shared. -/
theorem updates_share (object : Obj) (hserved : ¬ d.Served (d.kind object)) :
    (assertions d).Updates ({.own a ⟨1, object⟩} + d.owns a object) {.ref a (d.kind object)} := by
  rintro frame s ⟨x, hb⟩
  obtain ⟨hcell, hx⟩ := hb.of_own (a := a) (c := ⟨1, object⟩) (by simp)
  have hinv : Inv d ({.ref a (d.kind object)} + frame) (s.setCell a (some ⟨1, object⟩)) := by
    refine hb.write (x.erase a) hcell (decide_eq_true hx) (decide_eq_false (by simp))
      (fun b hb => by simp [hb])
      (.share hserved (hb.sound_owned hcell hx)) ?_
    simp only [Slot.owns, if_true, Bool.false_eq_true, if_false, Option.elim_some]
    abel
  rwa [show s.setCell a (some ⟨1, object⟩) = s by simp [State.setCell, ← hcell]] at hinv

/-- What is known of an object is noted down by its owner. -/
theorem updates_learn {φ : Fact} (hφ : d.Holds φ object) :
    (assertions d).Updates {.own a ⟨n, object⟩} ({.fact a φ} + {.own a ⟨n, object⟩}) := by
  intro frame s hinv
  obtain ⟨x, hb⟩ := id hinv
  obtain ⟨hcell, -⟩ := hb.of_own (a := a) (c := ⟨n, object⟩) (by simp)
  have := Inv.learn hinv hcell hφ
  rwa [add_assoc]

end NewObjects

section Disposal

/-- `free` of an object without a service thread. -/
theorem verified_free (hk : ¬ d.Served (d.kind object)) :
    Verifies environment d t (perform (.free a)) (fun _ m => m = 0) {.own a ⟨n, object⟩} := by
  refine verified_perform rfl fun frame s x hb _ => ?_
  obtain ⟨hcell, hx⟩ := hb.of_own (a := a) (c := ⟨n, object⟩) (by simp)
  refine ⟨by simp [Fault, hcell], ?_⟩
  rintro r s' ⟨-, rfl⟩
  refine ⟨0, hb.write (x.erase a) hcell (decide_eq_true hx) (decide_eq_false (by simp))
    (fun b hb => by simp [hb]) (.free hk) ?_, rfl⟩
  simp [Slot.owns]

/-- `free` of an object that its service thread uses no more. -/
theorem verified_free_served (hk : d.Served (d.kind object)) :
    Verifies environment d t (perform (.free a)) (fun _ m => m = {.gone a})
      ({.own a ⟨n, object⟩} + {.service a .settled (d.priv object)}) := by
  refine verified_perform rfl fun frame s x hb _ => ?_
  obtain ⟨hcell, hx⟩ := hb.of_own (a := a) (c := ⟨n, object⟩) (by simp)
  obtain ⟨c, -, -, hphase, -⟩ := hb.of_service .settled (a := a) (p := d.priv object) (by simp)
  refine ⟨by simp [Fault, hcell], ?_⟩
  rintro r s' ⟨-, rfl⟩
  refine ⟨_, hb.write (x.erase a) hcell (decide_eq_true hx) (decide_eq_false (by simp))
    (fun b hb => by simp [hb]) (.free_served hk hphase) ?_, rfl⟩
  simp only [Slot.owns, if_true, Bool.false_eq_true, if_false, Option.elim_none]
  abel

/-- The service thread of an object changes. -/
theorem Balanced.serve (x' : Finset ℕ) {owned owned' : Bool} {status status' : ServiceStatus}
    {m' frame gave got : Multiset (Token Obj Kind Private Fact Asset)}
    (h : Balanced d s x (m + frame + (contents d s x + d.shared s.env))) (hcell : s.cells a = some c)
    (hstatus : s.service a = status) (howned : decide (a ∈ x) = owned) (howned' : decide (a ∈ x') = owned')
    (hother : ∀ b ≠ a, b ∈ x' ↔ b ∈ x)
    (hexchange : Exchange d a ⟨some c, owned, status⟩ ⟨some c, owned', status'⟩ gave got)
    (hbalance : m' + gave + Slot.owns d ⟨some c, owned', status'⟩ a =
      m + got + Slot.owns d ⟨some c, owned, status⟩ a) :
    Inv d (m' + frame) (s.setService a status') := by
  refine h.change x' hexchange (by simp [slotAt, hcell, howned, hstatus])
    (by simp [slotAt, State.setService, hcell, howned'])
    (by simp [hcell]) (fun b hb => ?_) rfl rfl hbalance
  simp [slotAt, State.setService, hb, hother b hb]

/-- Create the service thread of an object. -/
theorem verified_spawn (hk : d.Served (d.kind object)) :
    Verifies environment d t (perform (.spawn a)) (fun _ m => m = {.ref a (d.kind object)})
      ({.own a ⟨1, object⟩} + {.service a .fresh (d.priv object)} + d.owns a object) := by
  rintro frame s ⟨x, hb⟩ -
  obtain ⟨hcell, hx⟩ := hb.of_own (a := a) (c := ⟨1, object⟩) (by simp)
  obtain ⟨c, -, -, hphase, -⟩ := hb.of_service .fresh (a := a) (p := d.priv object) (by simp)
  have hidle : s.service a = .idle := by
    cases hstatus : s.service a <;> simp [hstatus, ServiceStatus.phase] at hphase ⊢
  refine ⟨by simp [machine, Fault, hcell, hidle], ?_⟩
  rintro r s' ⟨-, rfl⟩
  refine ⟨{.ref a (d.kind object)}, {.service a .active (d.priv object)}, ?_, ⟨_, rfl⟩, verified_pure rfl⟩
  refine hb.serve (x.erase a) hcell hidle (decide_eq_true hx) (decide_eq_false (by simp))
    (fun b hb => by simp [hb]) (.spawn hk (hidle ▸ hb.sound_owned hcell hx)) ?_
  simp only [Slot.owns, if_true, Bool.false_eq_true, if_false, Option.elim_some]
  abel

/-- Wait for the service thread of an object without references. -/
theorem verified_join (hk : d.Served k) (ht : t ≠ .service a) :
    Verifies environment d t (perform (.join a))
      (fun r m => r = true ∧ ∃ object, d.kind object = k ∧ d.Holds d.drained object ∧
        m = {.own a ⟨0, object⟩} + {.service a .settled (d.priv object)} + d.owns a object)
          {.dying a k} := by
  refine verified_perform rfl fun frame s x hb _ => ?_
  obtain ⟨⟨n, object⟩, hcell, hx, rfl, hzero⟩ := hb.of_dying (a := a) (k := k) (by simp)
  obtain rfl : n = 0 := hzero
  have hsound := hb.sound_shared hcell hx
  refine ⟨?_, ?_⟩
  · rcases hsound.started rfl _ rfl hk with hstatus | hstatus <;> simp_all [Fault]
  · rintro r s' (⟨hself, -, -⟩ | ⟨-, rfl, hfinished, rfl⟩)
    · exact absurd hself ht
    · refine ⟨{.own a ⟨0, object⟩} + {.service a .settled (d.priv object)} + d.owns a object,
        hb.serve (insert a x) hcell hfinished (decide_eq_false hx)
          (decide_eq_true (Finset.mem_insert_self a x))
          (fun b hb => by simp [hb]) (.join hk) ?_, rfl, object, rfl, hsound.drained hfinished _ rfl, rfl⟩
      simp only [Slot.owns, if_true, Bool.false_eq_true, if_false, Option.elim_some]
      abel

/-- A service thread does not wait for itself. -/
theorem verified_join_self (hk : d.Served k) :
    Verifies environment d (.service a) (perform (.join a)) (fun r m => r = false ∧ m = {.dying a k})
      {.dying a k} := by
  refine verified_perform rfl fun frame s x hb _ => ?_
  obtain ⟨⟨n, object⟩, hcell, hx, rfl, -⟩ := hb.of_dying (a := a) (k := k) (by simp)
  refine ⟨?_, ?_⟩
  · rcases (hb.sound_shared hcell hx).started rfl _ rfl hk with hstatus | hstatus <;> simp_all [Fault]
  · rintro r s' (⟨-, rfl, rfl⟩ | ⟨hne, -, -, -⟩)
    · exact ⟨_, ⟨x, hb⟩, rfl, rfl⟩
    · exact absurd rfl hne

/-- A service thread takes over its object, which has no references any more. -/
theorem verified_detach {p : Private} :
    Verifies environment d t (perform (.detach a))
      (fun _ m => ∃ object, d.kind object = k ∧ d.priv object = p ∧
        m = {.own a ⟨0, object⟩} + {.service a .settled p} + d.owns a object)
      ({.dying a k} + {.service a .active p}) := by
  refine verified_perform rfl fun frame s x hb _ => ?_
  obtain ⟨⟨n, object⟩, hcell, hx, rfl, hzero⟩ := hb.of_dying (a := a) (k := k) (by simp)
  obtain rfl : n = 0 := hzero
  obtain ⟨c, hc, -, hserved, hrunning, rfl⟩ := hb.of_active (a := a) (p := p) (by simp)
  obtain rfl : ⟨0, object⟩ = c := by simpa [hcell] using hc
  refine ⟨by simp [Fault, hcell, hrunning], ?_⟩
  rintro r s' ⟨-, rfl⟩
  refine ⟨_, hb.serve (insert a x) hcell hrunning (decide_eq_false hx)
    (decide_eq_true (Finset.mem_insert_self a x))
    (fun b hb => by simp [hb]) (.detach hserved) ?_, object, rfl, rfl, rfl⟩
  simp only [Slot.owns, if_true, Bool.false_eq_true, if_false, Option.elim_some]
  abel

open Classical in
/-- Knowledge is not counted. -/
theorem Balanced.congr {tokens tokens' : Multiset (Token Obj Kind Private Fact Asset)}
    (hb : Balanced d s x tokens)
    (hcount : ∀ tok : Token Obj Kind Private Fact Asset, (∃ a, tok.address = some a) ∨
      (∃ y, tok = .asset y) →
      tokens'.count tok = tokens.count tok) (hmem : ∀ tok ∈ tokens', tok ∈ tokens) : Balanced d s x
        tokens' := by
  refine ⟨hb.unused, hb.sound, fun tok a haddress => ?_, fun y => ?_, fun a hin => hb.gone a (hmem _ hin),
    fun a φ hin => hb.facts a φ (hmem _ hin)⟩
  · rw [hcount tok (.inl ⟨a, haddress⟩)]
    exact hb.count tok a haddress
  · rw [hcount _ (.inr ⟨y, rfl⟩)]
    exact hb.assets y

/-- What is known can be forgotten. -/
theorem updates_forget (tok : Token Obj Kind Private Fact Asset) (h : tok.address = none)
    (hasset : ∀ y, tok ≠ .asset y) :
    (assertions d).Updates {tok} 0 := by
  classical
  rintro frame s ⟨x, hb⟩
  refine ⟨x, hb.congr (fun tok' hcounted => ?_) fun tok' hin => ?_⟩
  · have hne : tok' ≠ tok := by
      rintro rfl
      rcases hcounted with ⟨a, ha⟩ | ⟨y, rfl⟩
      · simp [h] at ha
      · exact hasset y rfl
    simp [hne]
  · rw [zero_add] at hin
    rw [add_assoc]
    exact Multiset.mem_add.mpr (.inr hin)

/-- What is known can be passed on. -/
theorem updates_duplicate (tok : Token Obj Kind Private Fact Asset) (h : tok.address = none)
    (hasset : ∀ y, tok ≠ .asset y) : (assertions d).Updates {tok} ({tok} + {tok}) := by
  classical
  rintro frame s ⟨x, hb⟩
  refine ⟨x, hb.congr (fun tok' hcounted => ?_) fun tok' hin => ?_⟩
  · have hne : tok' ≠ tok := by
      rintro rfl
      rcases hcounted with ⟨a, ha⟩ | ⟨y, rfl⟩
      · simp [h] at ha
      · exact hasset y rfl
    simp [hne]
  · simpa [or_assoc] using hin

end Disposal

end CountedHeap
