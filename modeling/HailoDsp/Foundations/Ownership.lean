import HailoDsp.Foundations.CountedHeap
import Mathlib.Tactic.Abel

/-!
# Who owns what on a heap of counted references

The resources of the program logic for a heap of reference-counted objects are tokens: a counted
reference, the exclusive right to an object that nobody refers to, the part of a service thread, or
an asset of the environment. An object that is shared owns tokens too, those behind the pointers
and handles it contains, and its count is the number of references to it that are held by threads
and by other objects. When the last reference is dropped, what the object owned passes to the
thread that dropped it, which has to dispose of it: in a balanced state nothing is ever lost.
-/

namespace CountedHeap

open ThreadPool

variable {Obj Env Kind Private Fact Asset : Type}

/-- Whether a service thread has been started, and whether it has been seen to use its object no more. -/
inductive Phase
  | fresh
  | active
  | settled

/-- What a thread or an object can hold. -/
inductive Token (Obj Kind Private Fact Asset : Type)
  /-- A counted reference to an object of the given kind. -/
  | ref (a : ℕ) (k : Kind)
  /-- The exclusive right to an object. -/
  | own (a : ℕ) (cell : Cell Obj)
  /-- The right to an object without references that its service thread may still be using. -/
  | dying (a : ℕ) (k : Kind)
  /-- The right of the service thread of an object, with the part of the object that only it changes. -/
  | service (a : ℕ) (phase : Phase) (p : Private)
  /-- Something that the environment has given out. -/
  | asset (x : Asset)
  /-- The knowledge that an object has been freed. -/
  | gone (a : ℕ)
  /-- The knowledge of something that stays true of an object. -/
  | fact (a : ℕ) (φ : Fact)

/-- The object that a token is a right to. -/
def Token.address : Token Obj Kind Private Fact Asset → Option ℕ
  | ref a _ => some a
  | own a _ => some a
  | dying a _ => some a
  | service a _ _ => some a
  | asset _ => none
  | gone _ => none
  | fact _ _ => none

/-- How objects are used: their kinds, the kinds with a service thread, the part of an object that
is written by its service thread, when it is being closed, what else can be known of it, the tokens
that it owns, the tokens and assets that are with the environment. A drained object is not used by
its service thread again. -/
structure Discipline (Obj Env Kind Private Fact Asset : Type) where
  kind : Obj → Kind
  Served : Kind → Prop
  priv : Obj → Private
  Closing : Obj → Prop
  Holds : Fact → Obj → Prop
  drained : Fact
  owns : ℕ → Obj → Multiset (Token Obj Kind Private Fact Asset)
  shared : Env → Multiset (Token Obj Kind Private Fact Asset)
  outstanding : Env → Multiset Asset
  closing_of_drained : ∀ object, Holds drained object → Closing object

/-- What matters about an address: its cell, whether some thread owns it, and its service thread. -/
structure Slot (Obj : Type) where
  cell : Option (Cell Obj)
  owned : Bool
  status : ServiceStatus

/-- The slot of an address, when the objects at the addresses `x` are owned. -/
def slotAt (s : State Obj Env) (x : Finset ℕ) (a : ℕ) : Slot Obj := ⟨s.cells a, decide (a ∈ x), s.service a⟩

/-- The phase of a service thread: none while the thread has ended and nobody has waited for it. -/
def ServiceStatus.phase : ServiceStatus → Option Phase
  | idle => some .fresh
  | running => some .active
  | detached => some .settled
  | finished => none
  | joined => some .settled

variable (d : Discipline Obj Env Kind Private Fact Asset)

open Classical in
/-- The number of tokens of one sort that there are for the object in a slot. -/
noncomputable def Slot.expects (slot : Slot Obj) : Token Obj Kind Private Fact Asset → ℕ
  | .ref _ k => slot.cell.elim 0 fun c => if slot.owned = false ∧ d.kind c.object = k then c.count else 0
  | .own _ cell => slot.cell.elim 0 fun c => if slot.owned = true ∧ c = cell then 1 else 0
  | .dying _ k => slot.cell.elim 0 fun c => if slot.owned = false ∧ d.kind c.object = k ∧
      c.count = 0 then 1 else 0
  | .service _ phase p => slot.cell.elim 0 fun c =>
      if d.Served (d.kind c.object) ∧ slot.status.phase = some phase ∧ d.priv c.object = p then 1 else 0
  | _ => 0

/-- What the object in a slot owns; the tokens of an owned object are with its owner. -/
def Slot.owns (slot : Slot Obj) (a : ℕ) : Multiset (Token Obj Kind Private Fact Asset) :=
  if slot.owned then 0 else slot.cell.elim 0 fun c => d.owns a c.object

/-- An owned object exists and is not used by a service thread; one that is shared and has a service
thread has started it and not waited for it. Only an object without references is closed, and a
service thread that has ended leaves it drained. -/
structure Slot.Sound (slot : Slot Obj) : Prop where
  owned : slot.owned = true → slot.cell ≠ none ∧ slot.status ≠ .running ∧ slot.status ≠ .finished
  started : slot.owned = false → ∀ c, slot.cell = some c → d.Served (d.kind c.object) →
    slot.status = .running ∨ slot.status = .finished
  unserved : ∀ c, slot.cell = some c → ¬ d.Served (d.kind c.object) → slot.status = .idle
  closing : ∀ c, slot.cell = some c → d.Closing c.object → c.count = 0
  drained : slot.status = .finished → ∀ c, slot.cell = some c → d.Holds d.drained c.object

/-- What all objects own. -/
def contents (s : State Obj Env) (x : Finset ℕ) : Multiset (Token Obj Kind Private Fact Asset) :=
  ∑ a ∈ Finset.range s.next, (slotAt s x a).owns d a

open Classical in
/-- The tokens are as many as the objects and the environment say. -/
structure Balanced (s : State Obj Env) (x : Finset ℕ)
    (tokens : Multiset (Token Obj Kind Private Fact Asset)) :
    Prop where
  unused : ∀ a, s.next ≤ a → s.cells a = none ∧ s.service a = .idle
  sound : ∀ a, (slotAt s x a).Sound d
  count : ∀ tok a, tok.address = some a → tokens.count tok = (slotAt s x a).expects d tok
  assets : ∀ y, tokens.count (.asset y) = (d.outstanding s.env).count y
  gone : ∀ a, .gone a ∈ tokens → s.cells a = none ∧ a < s.next
  facts : ∀ a φ, .fact a φ ∈ tokens → a < s.next ∧ ∀ c, s.cells a = some c → d.Holds φ c.object

/-- The invariant: the tokens of the threads, of the objects and of the environment are balanced. -/
def Inv (m : Multiset (Token Obj Kind Private Fact Asset)) (s : State Obj Env) : Prop :=
  ∃ x : Finset ℕ, Balanced d s x (m + (contents d s x + d.shared s.env))

/-- What a thread holds when it starts. -/
def Starts : Thread → Multiset (Token Obj Kind Private Fact Asset) → Prop
  | .client _, m => m = 0
  | .service a, m => ∃ p, m = {.service a .active p}

/-- What a thread holds when it has ended. -/
def Ends : Thread → Multiset (Token Obj Kind Private Fact Asset) → Prop
  | .client _, m => m = 0
  | .service a, m => m = {.gone a} ∨ ∃ p, m = {.service a .active p} + {.fact a d.drained}

/-- The assertions of the program logic. -/
def assertions : Assertions (Multiset (Token Obj Kind Private Fact Asset)) (State Obj Env) Thread where
  Inv := Inv d
  Start := Starts
  Done := Ends d

open Classical in
/-- A slot can change when the tokens `gave` are given up for the tokens `got`. -/
structure Exchange (a : ℕ) (old new : Slot Obj) (gave got : Multiset (Token Obj Kind Private Fact Asset)) :
    Prop where
  count : ∀ tok : Token Obj Kind Private Fact Asset, tok.address = some a →
    new.expects d tok + gave.count tok = old.expects d tok + got.count tok
  gave : ∀ tok ∈ gave, tok.address = some a
  got : ∀ tok ∈ got, tok.address = some a ∨ (tok = .gone a ∧ new.cell = none) ∨
    ∃ φ, tok = .fact a φ ∧ ∀ c, new.cell = some c → d.Holds φ c.object
  keeps : ∀ c', new.cell = some c' → ∃ c, old.cell = some c ∧ ∀ φ, d.Holds φ c.object → d.Holds φ c'.object
  sound : new.Sound d

section Balanced

open Classical

variable {d} {s s' : State Obj Env} {x x' : Finset ℕ}
  {tokens : Multiset (Token Obj Kind Private Fact Asset)}

/-- A token is there only if its object allows it. -/
theorem Balanced.expects_pos (h : Balanced d s x tokens) {tok : Token Obj Kind Private Fact Asset} {a : ℕ}
    (haddress : tok.address = some a) (hmem : tok ∈ tokens) : 0 < (slotAt s x a).expects d tok := by
  rw [← h.count tok a haddress]
  exact Multiset.count_pos.mpr hmem

/-- The object behind a reference. -/
theorem Balanced.of_ref (h : Balanced d s x tokens) {a : ℕ} {k : Kind} (hmem : .ref a k ∈ tokens) :
    ∃ c, s.cells a = some c ∧ a ∉ x ∧ d.kind c.object = k ∧ 0 < c.count := by
  have hpos := h.expects_pos rfl hmem
  cases hcell : s.cells a with
  | none => simp [Slot.expects, slotAt, hcell] at hpos
  | some c =>
    simp only [Slot.expects, slotAt, hcell, Option.elim_some, decide_eq_false_iff_not] at hpos
    split at hpos
    · rename_i hkind
      exact ⟨c, rfl, hkind.1, hkind.2, hpos⟩
    · omega

/-- An owned object. -/
theorem Balanced.of_own (h : Balanced d s x tokens) {a : ℕ} {c : Cell Obj} (hmem : .own a c ∈ tokens) :
    s.cells a = some c ∧ a ∈ x := by
  have hpos := h.expects_pos rfl hmem
  cases hcell : s.cells a with
  | none => simp [Slot.expects, slotAt, hcell] at hpos
  | some c' =>
    simp only [Slot.expects, slotAt, hcell, Option.elim_some, decide_eq_true_eq] at hpos
    split at hpos
    · rename_i hcond
      exact ⟨congrArg some hcond.2, hcond.1⟩
    · omega

/-- An object without references. -/
theorem Balanced.of_dying (h : Balanced d s x tokens) {a : ℕ} {k : Kind} (hmem : .dying a k ∈ tokens) :
    ∃ c, s.cells a = some c ∧ a ∉ x ∧ d.kind c.object = k ∧ c.count = 0 := by
  have hpos := h.expects_pos rfl hmem
  cases hcell : s.cells a with
  | none => simp [Slot.expects, slotAt, hcell] at hpos
  | some c =>
    simp only [Slot.expects, slotAt, hcell, Option.elim_some, decide_eq_false_iff_not] at hpos
    split at hpos
    · rename_i hcond
      exact ⟨c, rfl, hcond.1, hcond.2.1, hcond.2.2⟩
    · omega

/-- The object of a service thread. -/
theorem Balanced.of_service (h : Balanced d s x tokens) (phase : Phase) {a : ℕ} {p : Private}
    (hmem : .service a phase p ∈ tokens) :
    ∃ c, s.cells a = some c ∧ d.Served (d.kind c.object) ∧ (s.service a).phase = some phase ∧
      d.priv c.object = p := by
  have hpos := h.expects_pos rfl hmem
  cases hcell : s.cells a with
  | none => simp [Slot.expects, slotAt, hcell] at hpos
  | some c =>
    simp only [Slot.expects, slotAt, hcell, Option.elim_some] at hpos
    split at hpos
    · rename_i hcond
      exact ⟨c, rfl, hcond⟩
    · omega

/-- What has been given out is outstanding. -/
theorem Balanced.of_asset (h : Balanced d s x tokens) {y : Asset} (hmem : .asset y ∈ tokens) :
    y ∈ d.outstanding s.env := by
  rw [← Multiset.count_pos, ← h.assets y]
  exact Multiset.count_pos.mpr hmem

/-- A thread in the active phase is running. -/
theorem ServiceStatus.phase_eq_active {status : ServiceStatus} :
    status.phase = some .active ↔ status = .running := by
  cases status <;> simp [ServiceStatus.phase]

/-- The object of an active service thread is shared. -/
theorem Balanced.of_active (h : Balanced d s x tokens) {a : ℕ} {p : Private}
    (hmem : .service a .active p ∈ tokens) :
    ∃ c, s.cells a = some c ∧ a ∉ x ∧ d.Served (d.kind c.object) ∧ s.service a = .running ∧
    d.priv c.object = p := by
  obtain ⟨c, hcell, hserved, hphase, hpriv⟩ := h.of_service .active hmem
  have hrunning := ServiceStatus.phase_eq_active.mp hphase
  refine ⟨c, hcell, fun hx => ?_, hserved, hrunning, hpriv⟩
  exact ((h.sound a).owned (by simpa [slotAt] using hx)).2.1 (by simpa [slotAt] using hrunning)

/-- An address in use has been given out. -/
theorem Balanced.lt_next (h : Balanced d s x tokens) {a : ℕ} (hcell : s.cells a ≠ none) : a < s.next := by
  by_contra hge
  exact hcell (h.unused a (Nat.le_of_not_lt hge)).1

/-- What a shared object owns is among the tokens. -/
theorem Balanced.mem_contents (h : Balanced d s x tokens) {a : ℕ} {c : Cell Obj}
    (hcell : s.cells a = some c) (hx : a ∉ x) {tok : Token Obj Kind Private Fact Asset}
    (hin : tok ∈ d.owns a c.object) :
    tok ∈ contents d s x := by
  have ha := Finset.mem_range.mpr (h.lt_next (hcell ▸ Option.some_ne_none c))
  rw [contents, ← Finset.add_sum_erase _ _ ha]
  refine Multiset.mem_add.mpr (.inl ?_)
  simpa [Slot.owns, slotAt, hx, hcell] using hin

/-- A token for an address that has not changed is counted as before. -/
theorem Exchange.count_other {a b : ℕ} {old new : Slot Obj}
    {gave got : Multiset (Token Obj Kind Private Fact Asset)} (h : Exchange d a old new gave got)
    {tok : Token Obj Kind Private Fact Asset} (haddress : tok.address ≠ some a)
    (hpersistent : (tok.address = some b) ∨ ∃ y, tok = .asset y) : gave.count tok = 0 ∧
    got.count tok = 0 := by
  refine ⟨Multiset.count_eq_zero.mpr fun hin => haddress (h.gave tok hin),
    Multiset.count_eq_zero.mpr fun hin => ?_⟩
  rcases h.got tok hin with heq | ⟨rfl, -⟩ | ⟨φ, rfl, -⟩
  · exact haddress heq
  · simp [Token.address] at hpersistent
  · simp [Token.address] at hpersistent

/-- One slot changes. -/
theorem Balanced.exchange {a : ℕ} {tokens' gave got : Multiset (Token Obj Kind Private Fact Asset)}
    {old new : Slot Obj} (h : Balanced d s x tokens) (hexchange : Exchange d a old new gave got)
    (hold : slotAt s x a = old) (hnew : slotAt s' x' a = new) (hcell : s.cells a ≠ none)
    (hother : ∀ b ≠ a, slotAt s' x' b = slotAt s x b) (henv : s'.env = s.env)
    (hnext : s'.next = s.next) (htotal : tokens' + gave = tokens + got) :
    Balanced d s' x' tokens' := by
  subst hold hnew
  have hlt := h.lt_next hcell
  have hcells (b : ℕ) (hb : b ≠ a) : s'.cells b = s.cells b := congrArg Slot.cell (hother b hb)
  have hservice (b : ℕ) (hb : b ≠ a) : s'.service b = s.service b := congrArg Slot.status (hother b hb)
  have hmem {tok : Token Obj Kind Private Fact Asset} (hin : tok ∈ tokens') : tok ∈ tokens ∨ tok ∈ got :=
    Multiset.mem_add.mp (htotal ▸ Multiset.mem_add.mpr (.inl hin))
  have hcount (tok : Token Obj Kind Private Fact Asset) :
      tokens'.count tok + gave.count tok = tokens.count tok + got.count tok := by
    rw [← Multiset.count_add, htotal, Multiset.count_add]
  refine ⟨fun b hb => ?_, fun b => ?_, fun tok b haddress => ?_, fun y => ?_, fun b hb => ?_,
    fun b φ hb => ?_⟩
  · have hne : b ≠ a := fun heq => absurd (heq ▸ hb) (by omega)
    rw [hcells b hne, hservice b hne]
    exact h.unused b (hnext ▸ hb)
  · by_cases hba : b = a
    · exact hba ▸ hexchange.sound
    · exact hother b hba ▸ h.sound b
  · have htok := hcount tok
    rw [h.count tok b haddress] at htok
    by_cases hba : b = a
    · subst hba
      have := hexchange.count tok haddress
      omega
    · have hne : tok.address ≠ some a := fun heq => hba (Option.some_inj.mp (haddress.symm.trans heq))
      obtain ⟨hgave, hgot⟩ := hexchange.count_other hne (.inl haddress)
      rw [hother b hba]
      omega
  · have htok := hcount (.asset y)
    have hasset : (Token.asset y : Token Obj Kind Private Fact Asset).address ≠ some a := by
      simp [Token.address]
    obtain ⟨hgave, hgot⟩ := hexchange.count_other (b := a) hasset (.inr ⟨y, rfl⟩)
    rw [h.assets y] at htok
    rw [henv]
    omega
  · rcases hmem hb with hin | hin
    · obtain ⟨hnone, hbn⟩ := h.gone b hin
      exact ⟨hcells b (fun heq => hcell (heq ▸ hnone)) ▸ hnone, hnext ▸ hbn⟩
    · rcases hexchange.got _ hin with haddress | ⟨heq, hnone⟩ | ⟨φ, heq, -⟩
      · cases haddress
      · cases heq
        exact ⟨hnone, hnext ▸ hlt⟩
      · cases heq
  · rcases hmem hb with hin | hin
    · obtain ⟨hbn, hholds⟩ := h.facts b φ hin
      refine ⟨hnext ▸ hbn, fun c' hc' => ?_⟩
      by_cases hba : b = a
      · subst hba
        obtain ⟨c, hc, hkeeps⟩ := hexchange.keeps c' hc'
        exact hkeeps φ (hholds c hc)
      · exact hholds c' (hcells b hba ▸ hc')
    · rcases hexchange.got _ hin with haddress | ⟨heq, -⟩ | ⟨ψ, heq, hholds⟩
      · cases haddress
      · cases heq
      · cases heq
        exact ⟨hnext ▸ hlt, hholds⟩

/-- What all objects own changes with one of them. -/
theorem contents_update {a : ℕ} (hnext : s'.next = s.next) (ha : a < s.next)
    (hother : ∀ b ≠ a, slotAt s' x' b = slotAt s x b) :
    contents d s' x' + (slotAt s x a).owns d a = contents d s x + (slotAt s' x' a).owns d a := by
  have hmem : a ∈ Finset.range s.next := Finset.mem_range.mpr ha
  have hrest : ∑ b ∈ (Finset.range s.next).erase a, (slotAt s' x' b).owns d b =
      ∑ b ∈ (Finset.range s.next).erase a, (slotAt s x b).owns d b :=
    Finset.sum_congr rfl fun b hb => by rw [hother b (Finset.ne_of_mem_erase hb)]
  rw [contents, contents, hnext, ← Finset.add_sum_erase _ _ hmem, ← Finset.add_sum_erase _ _ hmem, hrest]
  abel

/-- One slot changes: a thread exchanges `m` for `m'`, the others keep `frame`. -/
theorem Balanced.change (x' : Finset ℕ) {a : ℕ}
    {m m' frame gave got : Multiset (Token Obj Kind Private Fact Asset)}
    {old new : Slot Obj} (h : Balanced d s x (m + frame + (contents d s x + d.shared s.env)))
    (hexchange : Exchange d a old new gave got) (hold : slotAt s x a = old)
    (hnew : slotAt s' x' a = new) (hcell : s.cells a ≠ none)
    (hother : ∀ b ≠ a, slotAt s' x' b = slotAt s x b) (henv : s'.env = s.env) (hnext : s'.next = s.next)
    (hbalance : m' + gave + new.owns d a = m + got + old.owns d a) : Inv d (m' + frame) s' := by
  have hcontents := contents_update (d := d) hnext (h.lt_next hcell) hother
  refine ⟨x', h.exchange hexchange hold hnew hcell hother henv hnext ?_⟩
  rw [henv]
  subst hold hnew
  refine add_right_cancel (b := (slotAt s x a).owns d a) ?_
  calc m' + frame + (contents d s' x' + d.shared s.env) + gave + (slotAt s x a).owns d a
      = frame + d.shared s.env + (m' + gave) + (contents d s' x' + (slotAt s x a).owns d a) := by abel
    _ = frame + d.shared s.env + contents d s x + (m' + gave + (slotAt s' x' a).owns d a) := by
      rw [hcontents]
      abel
    _ = frame + d.shared s.env + contents d s x + (m + got + (slotAt s x a).owns d a) := by rw [hbalance]
    _ = m + frame + (contents d s x + d.shared s.env) + got + (slotAt s x a).owns d a := by abel

end Balanced

end CountedHeap
