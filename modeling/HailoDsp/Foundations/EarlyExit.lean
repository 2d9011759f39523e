import Mathlib.Data.Nat.Notation
import Mathlib.Logic.Basic

/-!
# Programs that may stop early

A computation in `Except ε` either finishes with a value or stops early with a reason of
type `ε`, and a caller that stops as soon as its callee does is a plain bind. The file has
the inversion lemmas for such programs, the counting loop with its rules, and the
predicate that every early stop has one given reason.
-/

namespace EarlyExit

variable {ε α β σ : Type}

/-- Stop with the given reason when the condition holds. -/
def exitIf (reason : ε) (c : Prop) [Decidable c] : Except ε Unit :=
  if c then .error reason else .ok ()

/-- Read through a pointer that may be null. -/
def readThrough (reason : ε) : Option α → Except ε α
  | none => .error reason
  | some a => .ok a

/-- The counting loop: run the body for `0, 1, ..., n - 1`, in this order. -/
def forRange : ℕ → (ℕ → σ → Except ε σ) → σ → Except ε σ
  | 0, _, s => .ok s
  | n + 1, body, s => do
    let s ← forRange n body s
    body n s

/-- A bind finishes exactly when both of its parts do. -/
theorem bind_eq_ok {x : Except ε α} {f : α → Except ε β} {b : β} :
    (x >>= f) = .ok b ↔ ∃ a, x = .ok a ∧ f a = .ok b := by
  cases x with
  | error e => simp [bind, Except.bind]
  | ok a => simp [bind, Except.bind]

/-- A check followed by the rest finishes exactly when the check is passed and the rest finishes. -/
theorem unit_bind_eq_ok {x : Except ε Unit} {f : Unit → Except ε β} {b : β} :
    (x >>= f) = .ok b ↔ x = .ok () ∧ f () = .ok b := by
  rw [bind_eq_ok]
  exact ⟨fun ⟨_, h⟩ => h, fun h => ⟨(), h⟩⟩

/-- A finished first part is replaced by its value. -/
@[simp] theorem ok_bind (a : α) (f : α → Except ε β) : (Except.ok a >>= f) = f a := rfl

/-- A stopped first part stops the whole. -/
@[simp] theorem error_bind (e : ε) (f : α → Except ε β) :
    ((Except.error e : Except ε α) >>= f) = .error e := rfl

/-- A check finishes exactly when its condition fails. -/
@[simp] theorem exitIf_eq_ok {reason : ε} {c : Prop} [Decidable c] {u : Unit} :
    exitIf reason c = .ok u ↔ ¬ c := by
  unfold exitIf
  split <;> simp_all

/-- A check whose condition fails is passed. -/
theorem exitIf_of_not {reason : ε} {c : Prop} [Decidable c] (h : ¬ c) :
    exitIf reason c = .ok () := if_neg h

/-- Reading through a pointer finishes exactly when the pointer is not null. -/
@[simp] theorem readThrough_eq_ok {reason : ε} {p : Option α} {a : α} :
    readThrough reason p = .ok a ↔ p = some a := by
  cases p <;> simp [readThrough]

/-- Reading through a pointer that is not null gives what it points to. -/
@[simp] theorem readThrough_some (reason : ε) (a : α) : readThrough reason (some a) = .ok a := rfl

/-- Whenever the computation stops early, it is for the given reason. -/
def StopsOnlyWith (reason : ε) (x : Except ε α) : Prop :=
  ∀ e, x = .error e → e = reason

/-- A finished computation has not stopped. -/
theorem StopsOnlyWith.of_ok {reason : ε} {x : Except ε α} {a : α} (h : x = .ok a) :
    StopsOnlyWith reason x := by
  intro e he
  rw [h] at he
  cases he

/-- The rule for a sequence; the second part may assume that the first one has finished. -/
theorem StopsOnlyWith.bind {reason : ε} {x : Except ε α} {f : α → Except ε β}
    (hx : StopsOnlyWith reason x) (hf : ∀ a, x = .ok a → StopsOnlyWith reason (f a)) :
    StopsOnlyWith reason (x >>= f) := by
  cases x with
  | error e =>
    intro e' he
    cases he
    exact hx e rfl
  | ok a => exact hf a rfl

/-- The rule for a check that stops for the given reason. -/
theorem StopsOnlyWith.exitIf (reason : ε) (c : Prop) [Decidable c] :
    StopsOnlyWith reason (exitIf reason c) := by
  intro e he
  unfold EarlyExit.exitIf at he
  split at he
  · cases he
    rfl
  · cases he

/-- A check followed by the rest: the rest may assume that the condition fails. -/
theorem StopsOnlyWith.exitIf_bind {reason : ε} {c : Prop} [Decidable c] {f : Unit → Except ε β}
    (hf : ¬ c → StopsOnlyWith reason (f ())) :
    StopsOnlyWith reason (EarlyExit.exitIf reason c >>= f) :=
  (StopsOnlyWith.exitIf reason c).bind fun _ h => hf (exitIf_eq_ok.mp h)

/-- A computation that can only stop for one reason either stops for it or finishes. -/
theorem StopsOnlyWith.cases {reason : ε} {x : Except ε α} (h : StopsOnlyWith reason x) :
    x = .error reason ∨ ∃ a, x = .ok a := by
  cases x with
  | error e => exact Or.inl (congrArg _ (h e rfl))
  | ok a => exact Or.inr ⟨a, rfl⟩

/-- If a finishing computation is excluded, the given reason is all that is left. -/
theorem StopsOnlyWith.eq_error {reason : ε} {x : Except ε α} (h : StopsOnlyWith reason x)
    (hno : ∀ a, x ≠ .ok a) : x = .error reason := by
  rcases h.cases with he | ⟨a, ha⟩
  · exact he
  · exact absurd ha (hno a)

section Loop

variable {n : ℕ} {body : ℕ → σ → Except ε σ}

/-- The invariant rule: a loop all of whose rounds finish and hand the invariant on finishes in it. -/
theorem forRange_finishes (body : ℕ → σ → Except ε σ) (s : σ) (Inv : ℕ → σ → Prop) (hstart : Inv 0 s)
    (hstep : ∀ i < n, ∀ t, Inv i t → ∃ t', body i t = .ok t' ∧ Inv (i + 1) t') :
    ∃ s', forRange n body s = .ok s' ∧ Inv n s' := by
  induction n with
  | zero => exact ⟨s, rfl, hstart⟩
  | succ n ih =>
    obtain ⟨t, ht, hinv⟩ := ih fun i hi => hstep i (by omega)
    obtain ⟨t', ht', hinv'⟩ := hstep n (by omega) t hinv
    exact ⟨t', bind_eq_ok.mpr ⟨t, ht, ht'⟩, hinv'⟩

/-- In a loop that has finished, every round has finished. -/
theorem forRange_round {s s' : σ} (hrun : forRange n body s = .ok s') {i : ℕ} (hi : i < n) :
    ∃ t t', body i t = .ok t' := by
  induction n generalizing s' with
  | zero => omega
  | succ n ih =>
    obtain ⟨t, ht, hlast⟩ := bind_eq_ok.mp hrun
    rcases Nat.lt_succ_iff_lt_or_eq.mp hi with hlt | rfl
    · exact ih ht hlt
    · exact ⟨t, s', hlast⟩

/-- A loop stops only for the reasons for which its rounds stop. -/
theorem StopsOnlyWith.forRange {reason : ε} {s : σ}
    (hbody : ∀ i < n, ∀ t, StopsOnlyWith reason (body i t)) :
    StopsOnlyWith reason (forRange n body s) := by
  induction n with
  | zero => exact .of_ok rfl
  | succ n ih => exact (ih fun i hi => hbody i (by omega)).bind fun t _ => hbody n (by omega) t

end Loop

end EarlyExit
