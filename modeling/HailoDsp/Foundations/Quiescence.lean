import HailoDsp.Foundations.OwnershipRules
import Mathlib.Data.Finset.Max

/-!
# The beginning and the end of a run

An empty heap is balanced, and so is a heap after a thread has ended. When all threads have ended
there is nothing left on it. What every allowed command preserves holds throughout a run.
-/

namespace CountedHeap

open ThreadPool

variable {Obj Env Kind Private Fact Asset : Type} {d : Discipline Obj Env Kind Private Fact Asset}
  {s : State Obj Env} {x : Finset ℕ} {t : Thread} {a : ℕ} {m : Multiset (Token Obj Kind Private Fact Asset)}

/-- The service thread of an object that has been freed ends. -/
theorem Balanced.finish_freed {tokens : Multiset (Token Obj Kind Private Fact Asset)}
    (hb : Balanced d s x tokens) (hnone : s.cells a = none) (hlt : a < s.next) :
    Balanced d (s.setService a .finished) x tokens := by
  have hx : a ∉ x := fun hin => ((hb.sound a).owned (by simpa [slotAt] using hin)).1
    (by simpa [slotAt] using hnone)
  have hself : slotAt (s.setService a .finished) x a = ⟨none, false, .finished⟩ := by
    simp [slotAt, State.setService, hnone, hx]
  have hother (b : ℕ) (hne : b ≠ a) : slotAt (s.setService a .finished) x b = slotAt s x b := by
    simp [slotAt, State.setService, hne]
  refine ⟨fun b hnext => ?_, fun b => ?_, fun tok b haddress => ?_, hb.assets, hb.gone, hb.facts⟩
  · have hge : s.next ≤ b := hnext
    have hne : b ≠ a := by omega
    obtain ⟨hcell, hidle⟩ := hb.unused b hge
    exact ⟨hcell, by simpa [State.setService, hne] using hidle⟩
  · by_cases hne : b = a
    · subst hne
      rw [hself]
      exact ⟨by simp, by simp, by simp, by simp, by simp⟩
    · rw [hother b hne]
      exact hb.sound b
  · rw [hb.count tok b haddress]
    by_cases hne : b = a
    · subst hne
      rw [hself]
      cases tok <;> simp [Slot.expects, slotAt, hnone]
    · rw [hother b hne]

/-- A thread that ends leaves the invariant behind. -/
theorem Inv.stop {frame : Multiset (Token Obj Kind Private Fact Asset)} (hends : Ends d t m)
    (hinv : Inv d (m + frame) s) : Inv d frame (stop t s) := by
  obtain ⟨x, hb⟩ := id hinv
  cases t with
  | client i =>
    obtain rfl : m = 0 := hends
    rw [zero_add] at hb
    exact ⟨x, hb.unused, hb.sound, hb.count, hb.assets, hb.gone, hb.facts⟩
  | service a =>
    rcases hends with rfl | ⟨p, rfl⟩
    · obtain ⟨hnone, hlt⟩ := hb.gone a (by simp)
      obtain ⟨x', hb'⟩ := updates_forget (.gone a) rfl (by simp) frame s hinv
      rw [zero_add] at hb'
      exact ⟨x', hb'.finish_freed hnone hlt⟩
    · have hdrained := (hb.facts a d.drained (by simp)).2
      rw [add_assoc, add_left_comm] at hinv
      obtain ⟨x', hb'⟩ := updates_forget (.fact a d.drained) rfl (by simp) _ s hinv
      rw [zero_add] at hb'
      obtain ⟨⟨n, object⟩, hcell, hx, hserved, hrunning, rfl⟩ := hb'.of_active (a := a) (p := p) (by simp)
      have hsound := hrunning ▸ hb'.sound_shared hcell hx
      have hend : Inv d (0 + frame) (s.setService a .finished) :=
        hb'.serve x' hcell hrunning (decide_eq_false hx) (decide_eq_false hx) (fun _ _ => Iff.rfl)
          (.finish hserved (hdrained _ hcell) hsound) (by simp [Slot.owns])
      rwa [zero_add] at hend

/-- An empty heap. -/
theorem Inv.initial (hcells : ∀ a, s.cells a = none) (hservice : ∀ a, s.service a = .idle)
    (hshared : d.shared s.env = 0) (houtstanding : d.outstanding s.env = 0) : Inv d 0 s := by
  have hcontents : contents d s ∅ = 0 := by
    refine Finset.sum_eq_zero fun a _ => ?_
    simp [Slot.owns, slotAt, hcells]
  refine ⟨∅, fun a _ => ⟨hcells a, hservice a⟩, fun a => ?_, fun tok a haddress => ?_, fun y => ?_, ?_, ?_⟩
  · simp only [slotAt, hcells, hservice]
    exact ⟨by simp, by simp, by simp, by simp, by simp⟩
  · rw [hcontents, hshared]
    cases tok <;> simp [Slot.expects, slotAt, hcells]
  · simp [hcontents, hshared, houtstanding]
  · simp [hcontents, hshared]
  · simp [hcontents, hshared]

open Classical in
/-- When all threads have ended, every object has been freed and the assets that are left are those
that the environment keeps: a reference that is left over would have to be owned by an object of a
higher rank. -/
theorem Inv.quiescent {left : Multiset Asset} (h : Inv d 0 s) (hstopped : ∀ a, ¬ Running s (.service a))
    (hshared : d.shared s.env = left.map .asset)
    (howns : ∀ a object, ∀ tok ∈ d.owns a object, (∃ b k, tok = .ref b k) ∨ ∃ y, tok = .asset y)
    (rank : Kind → ℕ)
    (hrank : ∀ a object b k, .ref b k ∈ d.owns a object → ¬ d.Served (d.kind object) → ¬ d.Served k →
      rank k < rank (d.kind object)) : (∀ a, s.cells a = none) ∧ d.outstanding s.env = left := by
  obtain ⟨x, hb⟩ := h
  rw [hshared, zero_add] at hb
  -- tokens are behind the objects that nobody owns
  have hmem {tok : Token Obj Kind Private Fact Asset} (hin : tok ∈ contents d s x) :
      ∃ a c, s.cells a = some c ∧ a ∉ x ∧ tok ∈ d.owns a c.object := by
    obtain ⟨a, -, ha⟩ := Multiset.mem_sum.mp hin
    by_cases hx : a ∈ x
    · simp [Slot.owns, slotAt, hx] at ha
    · cases hcell : s.cells a with
      | none => simp [Slot.owns, slotAt, hcell] at ha
      | some c => exact ⟨a, c, hcell, hx, by simpa [Slot.owns, slotAt, hx, hcell] using ha⟩
  have hcontents {tok : Token Obj Kind Private Fact Asset} (hasset : ∀ y, tok ≠ .asset y)
      (hin : tok ∈ contents d s x + left.map .asset) : tok ∈ contents d s x := by
    rcases Multiset.mem_add.mp hin with hin | hin
    · exact hin
    · obtain ⟨y, -, rfl⟩ := Multiset.mem_map.mp hin
      exact absurd rfl (hasset y)
  have hnot (tok : Token Obj Kind Private Fact Asset) (href : ∀ b k, tok ≠ .ref b k)
      (hasset : ∀ y, tok ≠ .asset y) :
      tok ∉ contents d s x + left.map .asset := by
    intro hin
    replace hin := hcontents hasset hin
    obtain ⟨a, c, -, -, hown⟩ := hmem hin
    rcases howns a c.object tok hown with ⟨b, k, rfl⟩ | ⟨y, rfl⟩
    · exact href b k rfl
    · exact hasset y rfl
  have hunowned (a : ℕ) (c : Cell Obj) (hcell : s.cells a = some c) : a ∉ x := by
    intro hx
    refine hnot (.own a c) (by simp) (by simp) ?_
    rw [← Multiset.count_pos, hb.count _ a rfl]
    simp [Slot.expects, slotAt, hcell, hx]
  have hpositive (a : ℕ) (c : Cell Obj) (hcell : s.cells a = some c) : 0 < c.count := by
    by_contra hzero
    refine hnot (.dying a (d.kind c.object)) (by simp) (by simp) ?_
    rw [← Multiset.count_pos, hb.count _ a rfl]
    simp [Slot.expects, slotAt, hcell, hunowned a c hcell, Nat.eq_zero_of_not_pos hzero]
  have hunserved (a : ℕ) (c : Cell Obj) (hcell : s.cells a = some c) : ¬ d.Served (d.kind c.object) := by
    intro hserved
    have hsound := hb.sound_shared hcell (hunowned a c hcell)
    rcases hsound.started rfl c rfl hserved with hstatus | hstatus
    · exact hstopped a (.inl hstatus)
    · exact (hpositive a c hcell).ne'
        (hsound.closing c rfl (d.closing_of_drained _ (hsound.drained hstatus c rfl)))
  have hhigher (a : ℕ) (c : Cell Obj) (hcell : s.cells a = some c) :
      ∃ b c', s.cells b = some c' ∧ rank (d.kind c.object) < rank (d.kind c'.object) := by
    have href : .ref a (d.kind c.object) ∈ contents d s x := by
      refine hcontents (by simp) ?_
      rw [← Multiset.count_pos, hb.count _ a rfl]
      simpa [Slot.expects, slotAt, hcell, hunowned a c hcell] using hpositive a c hcell
    obtain ⟨b, c', hcell', -, hown⟩ := hmem href
    exact ⟨b, c', hcell', hrank b c'.object a _ hown (hunserved b c' hcell') (hunserved a c hcell)⟩
  -- so there is no object of the highest rank
  have hnone : ∀ a, s.cells a = none := by
    by_contra hsome
    obtain ⟨a₀, ha₀⟩ := not_forall.mp hsome
    obtain ⟨a, ha, hmax⟩ := ((Finset.range s.next).filter fun a => s.cells a ≠ none).exists_max_image
      (fun a => (s.cells a).elim 0 fun c => rank (d.kind c.object))
      ⟨a₀, Finset.mem_filter.mpr ⟨Finset.mem_range.mpr (hb.lt_next ha₀), ha₀⟩⟩
    obtain ⟨c, hcell⟩ := Option.ne_none_iff_exists'.mp (Finset.mem_filter.mp ha).2
    obtain ⟨b, c', hcell', hlt⟩ := hhigher a c hcell
    have hle := hmax b (Finset.mem_filter.mpr
      ⟨Finset.mem_range.mpr (hb.lt_next (hcell' ▸ Option.some_ne_none c')),
        hcell' ▸ Option.some_ne_none c'⟩)
    rw [hcell, hcell'] at hle
    exact absurd hlt (Nat.not_lt.mpr hle)
  refine ⟨hnone, Multiset.ext.mpr fun y => ?_⟩
  have hempty : contents d s x = 0 := by
    refine Finset.sum_eq_zero fun a _ => ?_
    simp [Slot.owns, slotAt, hnone a]
  rw [← hb.assets y, hempty, zero_add]
  exact Multiset.count_map_eq_count' _ _ (fun _ _ heq => by cases heq; rfl) y

section Environment

variable {Cmd : Type → Type} {environment : Environment Env Cmd}

/-- Only a command changes the environment. -/
theorem step_env {β : Type} {op : Op Obj Cmd β} {s s' : State Obj Env} {r : β}
    (h : Step environment t op s r s') :
    s'.env = s.env ∨ ∃ c cmd, op = .command c ∧ c s.objects = some cmd ∧
    environment.Answers cmd s.env r s'.env := by
  cases op with
  | command c =>
    obtain ⟨cmd, env, hcmd, hanswers, rfl⟩ := h
    exact .inr ⟨c, cmd, rfl, hcmd, hanswers⟩
  | alloc object => rcases h with ⟨-, rfl⟩ | ⟨-, rfl⟩ <;> exact .inl rfl
  | place object => exact .inl (h.2 ▸ rfl)
  | retain a =>
    obtain ⟨c, -, rfl⟩ := h
    exact .inl rfl
  | release a =>
    obtain ⟨c, -, -, rfl⟩ := h
    exact .inl rfl
  | access a f =>
    obtain ⟨c, object, -, -, rfl⟩ := h
    exact .inl rfl
  | accessRetaining a f => rcases h with ⟨c, object, -, ⟨-, rfl⟩ | ⟨b, c', -, -, rfl⟩⟩ <;> exact .inl rfl
  | inspect f => exact .inl (h.2 ▸ rfl)
  | free a => exact .inl (h.2 ▸ rfl)
  | spawn a => exact .inl (h.2 ▸ rfl)
  | join a => rcases h with ⟨-, -, rfl⟩ | ⟨-, -, -, rfl⟩ <;> exact .inl rfl
  | detach a => exact .inl (h.2 ▸ rfl)

variable {body : Thread → Prog (Op Obj Cmd) Bool} {pool : Pool (Op Obj Cmd) Thread (State Obj Env)}
  {P : Env → Prop}

/-- What every allowed command preserves is preserved by the steps of verified threads. -/
theorem environment_step {pool' : Pool (Op Obj Cmd) Thread (State Obj Env)}
    (hcommand : ∀ {t : Thread} {β : Type} {cmd : Cmd β} {env env' : Env} {r : β},
      environment.Allowed t cmd env →
      environment.Answers cmd env r env' → P env → P env')
    (hok : pool.Ok (machine environment) (assertions d) body)
    (hstep : Pool.Step (machine environment) body pool pool') (hP : P pool.state.env) :
    P pool'.state.env := by
  cases hstep with
  | @op t β op next r s' hrun hcode hs =>
    rcases step_env hs with henv | ⟨c, cmd, rfl, hcmd, hanswers⟩
    · exact henv ▸ hP
    · have hallowed : environment.Allowed t cmd pool.state.env := by
        by_contra hnot
        refine hok.no_fault hrun hcode fun cmd' hcmd' => ?_
        obtain rfl := Option.some_inj.mp (hcmd.symm.trans hcmd')
        exact hnot
      exact hcommand hallowed hanswers hP
  | again hrun hcode => exact hP
  | @stop t hrun hcode => cases t <;> exact hP

/-- What holds of the environment at the beginning and is preserved by every allowed command holds in
every pool that verified threads can get to. -/
theorem environment_invariant
    (hcommand : ∀ {t : Thread} {β : Type} {cmd : Cmd β} {env env' : Env} {r : β},
      environment.Allowed t cmd env →
      environment.Answers cmd env r env' → P env → P env')
    (hv : BodiesVerified (machine environment) (assertions d) body)
    (hinitial : Pool.Ok (machine environment) (assertions d) body ⟨s, body⟩)
    (hreach : pool.Reachable (machine environment) body s) (hP : P s.env) : P pool.state.env := by
  induction hreach with
  | refl => exact hP
  | tail hbefore hstep ih =>
    exact environment_step hcommand (Pool.Reachable.ok hv hinitial hbefore) hstep ih

end Environment

end CountedHeap
