import Mathlib.Algebra.Order.Field.Power
import Mathlib.Data.Int.Log
import Mathlib.Data.Rat.Floor
import Mathlib.Tactic.FieldSimp
import Mathlib.Tactic.Linarith
import Mathlib.Tactic.Positivity

/-!
# Rounding to a fixed number of significant bits

Binary floating point with an unbounded exponent range, on nonnegative rationals: a result
is rounded to `p` significant bits, to the nearest such value, and ties go to the value
whose last bit is zero. Division and conversion round once; taking a ceiling is exact.

The exponent range is not bounded, so the model agrees with a machine format wherever the
format neither overflows nor falls into its subnormal range.
-/

namespace BinaryRounding

/-- The integer nearest to `x`, with ties going to the even neighbour. -/
def nearestEven (x : ℚ) : ℤ :=
  if x - ⌊x⌋ < 1 / 2 then ⌊x⌋
  else if 1 / 2 < x - ⌊x⌋ then ⌊x⌋ + 1
  else ⌊x⌋ + ⌊x⌋ % 2

/-- The exponent of the last of the `p` significant bits of a positive `x`. -/
def unitExponent (p : ℕ) (x : ℚ) : ℤ := Int.log 2 x + 1 - p

/-- Round a nonnegative rational to `p` significant bits, to nearest with ties to even. -/
def roundTo (p : ℕ) (x : ℚ) : ℚ :=
  nearestEven (x / 2 ^ unitExponent p x) * 2 ^ unitExponent p x

/-- The nonnegative values with at most `p` significant bits. -/
def Representable (p : ℕ) (x : ℚ) : Prop :=
  ∃ (m : ℕ) (k : ℤ), m < 2 ^ p ∧ x = m * 2 ^ k

/-- An integer is its own nearest integer. -/
@[simp] theorem nearestEven_intCast (n : ℤ) : nearestEven (n : ℚ) = n := by
  simp [nearestEven]

/-- The nearest integer is one of the two neighbours. -/
theorem nearestEven_mem (x : ℚ) : ⌊x⌋ ≤ nearestEven x ∧ nearestEven x ≤ ⌊x⌋ + 1 := by
  unfold nearestEven
  split_ifs <;> omega

/-- Rounding to the nearest integer respects the order. -/
theorem nearestEven_mono {x y : ℚ} (hxy : x ≤ y) : nearestEven x ≤ nearestEven y := by
  rcases (Int.floor_mono hxy).lt_or_eq with hlt | heq
  · have hx := (nearestEven_mem x).2
    have hy := (nearestEven_mem y).1
    omega
  · unfold nearestEven
    rw [heq]
    have hfrac : x - ⌊y⌋ ≤ y - ⌊y⌋ := by linarith
    split_ifs <;> first | omega | (exfalso; linarith)

/-- An integer below `x` is below the integer nearest to `x`. -/
theorem le_nearestEven {n : ℤ} {x : ℚ} (h : (n : ℚ) ≤ x) : n ≤ nearestEven x := by
  simpa only [nearestEven_intCast] using nearestEven_mono h

/-- An integer above `x` is above the integer nearest to `x`. -/
theorem nearestEven_le {n : ℤ} {x : ℚ} (h : x ≤ (n : ℚ)) : nearestEven x ≤ n := by
  simpa only [nearestEven_intCast] using nearestEven_mono h

/-- A positive rational lies between consecutive powers of two. -/
theorem two_zpow_log_bounds {x : ℚ} (hx : 0 < x) :
    (2 : ℚ) ^ Int.log 2 x ≤ x ∧ x < 2 ^ (Int.log 2 x + 1) := by
  have hlow := Int.zpow_log_le_self (b := 2) (by norm_num) hx
  have hhigh := Int.lt_zpow_succ_log_self (b := 2) (by norm_num) x
  simp only [Nat.cast_ofNat] at hlow hhigh
  exact ⟨hlow, hhigh⟩

/-- Zero has no bits to lose. -/
@[simp] theorem roundTo_zero (p : ℕ) : roundTo p 0 = 0 := by
  simp [roundTo, nearestEven]

/-- Scaling by a power of two moves the unit exponent by that power. -/
theorem unitExponent_mul_zpow (p : ℕ) {x : ℚ} (hx : 0 < x) (k : ℤ) :
    unitExponent p (x * 2 ^ k) = unitExponent p x + k := by
  have hpos : 0 < x * (2 : ℚ) ^ k := by positivity
  obtain ⟨hlow, hhigh⟩ := two_zpow_log_bounds hx
  have hlog : Int.log 2 (x * 2 ^ k) = Int.log 2 x + k := by
    apply le_antisymm
    · have hlt : x * (2 : ℚ) ^ k < ((2 : ℕ) : ℚ) ^ (Int.log 2 x + k + 1) := by
        rw [Nat.cast_ofNat, show Int.log 2 x + k + 1 = (Int.log 2 x + 1) + k by ring,
          zpow_add₀ (by norm_num)]
        exact mul_lt_mul_of_pos_right hhigh (by positivity)
      have := (Int.lt_zpow_iff_log_lt (by norm_num) hpos).mp hlt
      omega
    · apply (Int.zpow_le_iff_le_log (by norm_num) hpos).mp
      rw [Nat.cast_ofNat, zpow_add₀ (by norm_num)]
      exact mul_le_mul_of_nonneg_right hlow (by positivity)
  unfold unitExponent
  omega

/-- Rounding commutes with scaling by a power of two. -/
theorem roundTo_mul_zpow (p : ℕ) {x : ℚ} (hx : 0 ≤ x) (k : ℤ) :
    roundTo p (x * 2 ^ k) = roundTo p x * 2 ^ k := by
  rcases hx.eq_or_lt with rfl | hpos
  · simp
  · unfold roundTo
    rw [unitExponent_mul_zpow p hpos, zpow_add₀ (by norm_num : (2 : ℚ) ≠ 0)]
    have hk : (2 : ℚ) ^ k ≠ 0 := by positivity
    rw [mul_div_mul_right _ _ hk]
    ring

/-- A value that fits the format is not changed. -/
theorem roundTo_of_representable {p : ℕ} {x : ℚ} (h : Representable p x) : roundTo p x = x := by
  obtain ⟨m, k, hm, rfl⟩ := h
  rcases Nat.eq_zero_or_pos m with rfl | hmpos
  · simp
  have hm0 : (0 : ℚ) < m := by exact_mod_cast hmpos
  -- the last significant bit of `m * 2 ^ k` is not below the last bit of `m`
  have hunit : unitExponent p (m : ℚ) ≤ 0 := by
    have hlt : (m : ℚ) < ((2 : ℕ) : ℚ) ^ (p : ℤ) := by
      rw [zpow_natCast]
      exact_mod_cast hm
    have := (Int.lt_zpow_iff_log_lt (by norm_num) hm0).mp hlt
    unfold unitExponent
    omega
  rw [roundTo_mul_zpow p hm0.le]
  congr 1
  obtain ⟨j, hj⟩ := Int.eq_ofNat_of_zero_le (show 0 ≤ -unitExponent p (m : ℚ) by omega)
  have hdiv : (m : ℚ) / 2 ^ unitExponent p (m : ℚ) = ((m * 2 ^ j : ℤ) : ℚ) := by
    rw [div_eq_mul_inv, ← zpow_neg, hj, zpow_natCast]
    push_cast
    ring
  unfold roundTo
  rw [hdiv, nearestEven_intCast, ← hdiv, div_mul_cancel₀]
  positivity

/-- A natural number of at most `p` bits is exact. -/
theorem roundTo_natCast_of_le {p n : ℕ} (hp : 0 < p) (h : n ≤ 2 ^ p) :
    roundTo p (n : ℚ) = n := by
  apply roundTo_of_representable
  rcases h.lt_or_eq with hlt | rfl
  · exact ⟨n, 0, hlt, by simp⟩
  · exact ⟨1, p, Nat.one_lt_two_pow hp.ne', by simp⟩

/-- The rounded value stays in the closed binade of the exact one. -/
theorem roundTo_binade {p : ℕ} (hp : 0 < p) {x : ℚ} (hx : 0 < x) :
    (2 : ℚ) ^ Int.log 2 x ≤ roundTo p x ∧ roundTo p x ≤ 2 ^ (Int.log 2 x + 1) := by
  obtain ⟨hlow, hhigh⟩ := two_zpow_log_bounds hx
  have hunit : (0 : ℚ) < 2 ^ unitExponent p x := by positivity
  have htop : ((2 ^ p : ℕ) : ℚ) * 2 ^ unitExponent p x = 2 ^ (Int.log 2 x + 1) := by
    rw [Nat.cast_pow, Nat.cast_ofNat, ← zpow_natCast, ← zpow_add₀ (by norm_num)]
    congr 1
    unfold unitExponent
    ring
  have hbottom : ((2 ^ (p - 1) : ℕ) : ℚ) * 2 ^ unitExponent p x = 2 ^ Int.log 2 x := by
    rw [Nat.cast_pow, Nat.cast_ofNat, ← zpow_natCast, ← zpow_add₀ (by norm_num)]
    congr 1
    unfold unitExponent
    omega
  unfold roundTo
  constructor
  · rw [← hbottom]
    have : ((2 ^ (p - 1) : ℕ) : ℤ) ≤ nearestEven (x / 2 ^ unitExponent p x) := by
      apply le_nearestEven
      rw [Int.cast_natCast, le_div_iff₀ hunit, hbottom]
      exact hlow
    exact mul_le_mul_of_nonneg_right (by exact_mod_cast this) hunit.le
  · rw [← htop]
    have : nearestEven (x / 2 ^ unitExponent p x) ≤ ((2 ^ p : ℕ) : ℤ) := by
      apply nearestEven_le
      rw [Int.cast_natCast, div_le_iff₀ hunit, htop]
      exact hhigh.le
    exact mul_le_mul_of_nonneg_right (by exact_mod_cast this) hunit.le

/-- Rounding keeps nonnegative values nonnegative. -/
theorem roundTo_nonneg {p : ℕ} (hp : 0 < p) {x : ℚ} (hx : 0 ≤ x) : 0 ≤ roundTo p x := by
  rcases hx.eq_or_lt with rfl | hpos
  · simp
  · exact le_trans (by positivity) (roundTo_binade hp hpos).1

/-- Rounding respects the order, within a binade and across binades. -/
theorem roundTo_mono {p : ℕ} (hp : 0 < p) {x y : ℚ} (hx : 0 ≤ x) (hxy : x ≤ y) :
    roundTo p x ≤ roundTo p y := by
  rcases hx.eq_or_lt with rfl | hpos
  · rw [roundTo_zero]
    exact roundTo_nonneg hp hxy
  rcases (Int.log_mono_right (b := 2) hpos hxy).lt_or_eq with hlt | heq
  · calc roundTo p x ≤ 2 ^ (Int.log 2 x + 1) := (roundTo_binade hp hpos).2
      _ ≤ 2 ^ Int.log 2 y := zpow_le_zpow_right₀ (by norm_num) (by omega)
      _ ≤ roundTo p y := (roundTo_binade hp (hpos.trans_le hxy)).1
  · have hunit : unitExponent p x = unitExponent p y := by
      unfold unitExponent
      rw [heq]
    unfold roundTo
    rw [hunit]
    apply mul_le_mul_of_nonneg_right _ (by positivity)
    exact_mod_cast nearestEven_mono (div_le_div_of_nonneg_right hxy (by positivity))

/-- The result of a rounding has at most `p` significant bits. -/
theorem roundTo_representable {p : ℕ} (hp : 0 < p) {x : ℚ} (hx : 0 ≤ x) :
    Representable p (roundTo p x) := by
  rcases hx.eq_or_lt with rfl | hpos
  · exact ⟨0, 0, by positivity, by simp⟩
  have hunit : (0 : ℚ) < 2 ^ unitExponent p x := by positivity
  have hnonneg : 0 ≤ nearestEven (x / 2 ^ unitExponent p x) :=
    le_nearestEven (by simpa using div_nonneg hx hunit.le)
  have hle : nearestEven (x / 2 ^ unitExponent p x) ≤ ((2 ^ p : ℕ) : ℤ) := by
    apply nearestEven_le
    rw [Int.cast_natCast, div_le_iff₀ hunit, Nat.cast_pow, Nat.cast_ofNat, ← zpow_natCast,
      ← zpow_add₀ (by norm_num)]
    refine (two_zpow_log_bounds hpos).2.le.trans_eq ?_
    congr 1
    unfold unitExponent
    ring
  obtain ⟨m, hm⟩ := Int.eq_ofNat_of_zero_le hnonneg
  have hmle : m ≤ 2 ^ p := by
    rw [hm] at hle
    exact_mod_cast hle
  unfold roundTo
  rw [hm]
  rcases hmle.lt_or_eq with hlt | rfl
  · exact ⟨m, unitExponent p x, hlt, by simp⟩
  · refine ⟨1, p + unitExponent p x, Nat.one_lt_two_pow hp.ne', ?_⟩
    rw [zpow_add₀ (by norm_num), zpow_natCast]
    simp

/-- Scaling by a power of two keeps a value in the format. -/
theorem Representable.mul_zpow {p : ℕ} {x : ℚ} (h : Representable p x) (k : ℤ) :
    Representable p (x * 2 ^ k) := by
  obtain ⟨m, j, hm, rfl⟩ := h
  exact ⟨m, j + k, hm, by rw [zpow_add₀ (by norm_num)]; ring⟩

/-- Dividing a rounded value by a power of two is exact. -/
theorem roundTo_div_two_pow {p : ℕ} (hp : 0 < p) {x : ℚ} (hx : 0 ≤ x) (k : ℕ) :
    roundTo p (roundTo p x / 2 ^ k) = roundTo p x / 2 ^ k := by
  have h := (roundTo_representable hp hx).mul_zpow (-k)
  rw [zpow_neg, zpow_natCast, ← div_eq_mul_inv] at h
  exact roundTo_of_representable h

/-- Below `2 ^ p` a rounded natural number is exact, and it never rounds down below `2 ^ p`. -/
theorem two_pow_le_roundTo {p n : ℕ} (hp : 0 < p) (h : 2 ^ p ≤ n) : (2 : ℚ) ^ p ≤ roundTo p n := by
  have hexact := roundTo_natCast_of_le (n := 2 ^ p) hp le_rfl
  have hmono := roundTo_mono hp (x := ((2 ^ p : ℕ) : ℚ)) (y := n) (by positivity) (by exact_mod_cast h)
  rw [hexact] at hmono
  simpa using hmono

example : roundTo 53 (2 ^ 53 + 3) = 2 ^ 53 + 4 := by decide +kernel

/-- A natural number rounds to a natural number. -/
theorem exists_natCast_eq_roundTo {p : ℕ} (hp : 0 < p) (n : ℕ) : ∃ m : ℕ, roundTo p n = m := by
  rcases le_total n (2 ^ p) with hle | hge
  · exact ⟨n, roundTo_natCast_of_le hp hle⟩
  have hpos : (0 : ℚ) < n := by exact_mod_cast (Nat.two_pow_pos p).trans_le hge
  -- from `2 ^ p` on the last significant bit is a whole number
  have hunit : 0 ≤ unitExponent p n := by
    have hlog : (p : ℤ) ≤ Int.log 2 (n : ℚ) := by
      apply (Int.zpow_le_iff_le_log (by norm_num) hpos).mp
      rw [zpow_natCast]
      exact_mod_cast hge
    unfold unitExponent
    omega
  obtain ⟨k, hk⟩ := Int.eq_ofNat_of_zero_le hunit
  have hnonneg : 0 ≤ nearestEven ((n : ℚ) / 2 ^ unitExponent p n) :=
    le_nearestEven (by simpa using div_nonneg hpos.le (by positivity))
  obtain ⟨m, hm⟩ := Int.eq_ofNat_of_zero_le hnonneg
  refine ⟨m * 2 ^ k, ?_⟩
  rw [roundTo, hm, hk]
  simp

/-- Comparing rounded values differs from comparing the values only where both round alike. -/
theorem roundTo_le_roundTo_iff {p : ℕ} (hp : 0 < p) {x y : ℚ} (hx : 0 ≤ x) (hy : 0 ≤ y) :
    roundTo p x ≤ roundTo p y ↔ x ≤ y ∨ roundTo p x = roundTo p y := by
  constructor
  · intro h
    rcases le_total x y with hxy | hyx
    · exact .inl hxy
    · exact .inr (h.antisymm (roundTo_mono hp hy hyx))
  · rintro (hxy | heq)
    · exact roundTo_mono hp hx hxy
    · exact heq.le

/-- Rounded natural numbers compare like the exact ones when the larger one is exact. -/
theorem le_of_roundTo_le {p m n : ℕ} (hp : 0 < p) (hn : n < 2 ^ p) (h : roundTo p m ≤ roundTo p n) :
    m ≤ n := by
  rw [roundTo_natCast_of_le hp hn.le] at h
  have hm : m < 2 ^ p := by
    by_contra hlarge
    have hlow := (two_pow_le_roundTo hp (Nat.le_of_not_lt hlarge)).trans h
    exact absurd hn (not_lt.mpr (by exact_mod_cast hlow))
  rw [roundTo_natCast_of_le hp hm.le] at h
  exact_mod_cast h

/-- A rounded number divided by a power of two and rounded up is below a rounded number exactly
when it is below that number scaled by the power, rounded. -/
theorem ceil_roundTo_div_le_iff {p : ℕ} (hp : 0 < p) (m n k : ℕ) :
    (⌈roundTo p m / 2 ^ k⌉ : ℚ) ≤ roundTo p n ↔ roundTo p m ≤ roundTo p (n * 2 ^ k : ℕ) := by
  have hscale : roundTo p (n * 2 ^ k : ℕ) = roundTo p n * 2 ^ k := by
    have h := roundTo_mul_zpow p (Nat.cast_nonneg (α := ℚ) n) k
    rw [zpow_natCast] at h
    exact_mod_cast h
  obtain ⟨N, hN⟩ := exists_natCast_eq_roundTo hp n
  rw [hscale, hN, ← Int.cast_natCast N, Int.cast_le, Int.ceil_le, div_le_iff₀ (by positivity)]

end BinaryRounding
