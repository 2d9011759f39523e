import HailoDsp.Foundations.BinaryRounding
import HailoDsp.Foundations.EarlyExit
import HailoDsp.Api

/-!
# What the library's functions compute with

A function of the library that returns a status is a `Call`: it finishes where the C++
function returns `DSP_SUCCESS`, and stops where it returns any other status, which its
callers in the library all pass on. Following a pointer that is NULL or dangling and indexing
past the end of an array of the request block have no defined result, and a `Call` that does so
stops with a fault. Log messages are not modelled.

Sizes are 64-bit words with wrapping arithmetic. Where the code converts them to `double` or
`float`, the value is rounded to 53 or 24 significant bits; no value it converts comes near
the ends of the exponent range of either format.
-/

namespace HailoDsp

open BinaryRounding EarlyExit

/-- What the C++ language leaves undefined and the model makes visible. -/
inductive Fault
  | nullPointer
  | danglingPointer
  | wireIndex
  deriving DecidableEq, Repr

/-- Why a function stops before its end. -/
inductive Stop
  | status (s : DspStatus)
  | fault (f : Fault)
  deriving DecidableEq, Repr

/-- A function of the library that returns a `dsp_status`. -/
abbrev Call (α : Type) := Except Stop α

/-- The reason of `return DSP_INVALID_ARGUMENT`. -/
def invalidArgument : Stop := .status .invalidArgument

/-- `if (c) { return DSP_INVALID_ARGUMENT; }` -/
abbrev rejectIf (c : Prop) [Decidable c] : Call Unit := exitIf invalidArgument c

/-- `*p` -/
abbrev deref {α : Type} (p : Ptr α) : Call α := readThrough (.fault .nullPointer) p

/-- Assign to element `i` of an array of the request block. -/
def writeAt {α : Type} {n : ℕ} (array : Vector α n) (i : ℕ) (update : α → α) : Call (Vector α n) :=
  if h : i < n then .ok (array.set i (update array[i])) else .error (.fault .wireIndex)

/-- `(double)n` -/
def toDouble (n : UInt64) : ℚ := roundTo 53 n.toNat

/-- `x / y` in `double` -/
def divDouble (x y : ℚ) : ℚ := roundTo 53 (x / y)

/-- `(float)n` -/
def toFloat (n : UInt64) : ℚ := roundTo 24 n.toNat

/-- `x / y` in `float` -/
def divFloat (x y : ℚ) : ℚ := roundTo 24 (x / y)

/-- `ceil(x)`, which is exact. -/
def ceilOf (x : ℚ) : ℚ := ⌈x⌉

/-- `(size_t)x` for a nonnegative `x` without a fractional part. -/
def toSize (x : ℚ) : UInt64 := UInt64.ofNat ⌊x⌋.toNat

/-- `ROUND_UP(N, S)` -/
def roundUp (n s : UInt64) : UInt64 := (n + s - 1) / s * s

/-- Reading through a pointer that is not NULL. -/
theorem deref_some {α : Type} (a : α) : deref (some a) = .ok a := rfl

/-- A check whose condition fails is passed. -/
theorem rejectIf_of_not {c : Prop} [Decidable c] (h : ¬ c) : rejectIf c = .ok () := exitIf_of_not h

/-- A check is passed exactly when its condition fails. -/
theorem rejectIf_eq_ok {c : Prop} [Decidable c] {u : Unit} : rejectIf c = .ok u ↔ ¬ c := exitIf_eq_ok

/-- Comparing a count with the length of an array of the request block. -/
theorem not_gt_ofNat_iff {n : UInt64} {k : ℕ} (hk : k < 2 ^ 64) : ¬ n > UInt64.ofNat k ↔ n.toNat ≤ k := by
  rw [gt_iff_lt, UInt64.lt_iff_toNat_lt, UInt64.toNat_ofNat', Nat.mod_eq_of_lt hk, not_lt]

/-- An array whose first `n` elements have been updated one after the other. -/
def updatePrefix {α : Type} {m : ℕ} (array : Vector α m) (n : ℕ) (update : ℕ → α → α) : Vector α m :=
  Vector.ofFn fun j => if j.val < n then update j array[j] else array[j]

/-- An element of the updated prefix, or one behind it. -/
theorem getElem_updatePrefix {α : Type} {m : ℕ} (array : Vector α m) (n : ℕ) (update : ℕ → α → α)
    {j : ℕ} (hj : j < m) :
    (updatePrefix array n update)[j] = if j < n then update j array[j] else array[j] := by
  simp [updatePrefix]

/-- Before the first update nothing has changed. -/
theorem updatePrefix_zero {α : Type} {m : ℕ} (array : Vector α m) (update : ℕ → α → α) :
    updatePrefix array 0 update = array := by
  ext j hj
  simp [updatePrefix]

/-- Assigning to the first element behind the prefix extends the prefix by one. -/
theorem writeAt_updatePrefix {α : Type} {m : ℕ} (array : Vector α m) {n : ℕ} (hn : n < m)
    (update : ℕ → α → α) :
    writeAt (updatePrefix array n update) n (update n) = .ok (updatePrefix array (n + 1) update) := by
  unfold writeAt
  rw [dif_pos hn]
  congr 1
  ext j hj
  rw [Vector.getElem_set, getElem_updatePrefix _ _ _ hj, getElem_updatePrefix _ _ _ hn,
    getElem_updatePrefix _ _ _ hj]
  rcases Nat.lt_trichotomy j n with hlt | rfl | hgt
  · simp [hlt, hlt.ne', Nat.lt_succ_of_lt hlt]
  · simp
  · simp [hgt.ne, Nat.not_lt.mpr hgt.le, show ¬ j < n + 1 by omega]

/-- Assigning to an element of the array. -/
theorem writeAt_of_lt {α : Type} {n : ℕ} {array : Vector α n} {i : ℕ} (h : i < n) (update : α → α) :
    writeAt array i update = .ok (array.set i (update array[i])) := dif_pos h

/-- A 64-bit word below `2 ^ 53` converts exactly. -/
theorem toDouble_of_le {n : UInt64} (h : n.toNat ≤ 2 ^ 53) : toDouble n = n.toNat :=
  roundTo_natCast_of_le (by norm_num) h

/-- A 64-bit word that fits 32 bits keeps its value when it is narrowed. -/
theorem toNat_toUInt32_of_lt {n : UInt64} (h : n.toNat < 2 ^ 32) : n.toUInt32.toNat = n.toNat := by
  rw [UInt64.toNat_toUInt32]
  exact Nat.mod_eq_of_lt h

/-- Narrowing a product keeps the low 32 bits of the exact one. -/
theorem toNat_toUInt32_mul (a b : UInt64) : (a * b).toUInt32.toNat = a.toNat * b.toNat % 2 ^ 32 := by
  rw [UInt64.toNat_toUInt32, UInt64.toNat_mul, Nat.mod_mod_of_dvd _ (by decide)]

/-- The sum of two words, when it fits. -/
theorem toNat_add_of_lt {a b : UInt64} (h : a.toNat + b.toNat < 2 ^ 64) :
    (a + b).toNat = a.toNat + b.toNat := by
  rw [UInt64.toNat_add, Nat.mod_eq_of_lt h]

/-- The product of two words, when it fits. -/
theorem toNat_mul_of_lt {a b : UInt64} (h : a.toNat * b.toNat < 2 ^ 64) :
    (a * b).toNat = a.toNat * b.toNat := by
  rw [UInt64.toNat_mul, Nat.mod_eq_of_lt h]

/-- Dividing a converted word by a power of two is exact. -/
theorem divDouble_two_pow (n : UInt64) (k : ℕ) : divDouble (toDouble n) (2 ^ k) = toDouble n / 2 ^ k :=
  roundTo_div_two_pow (by norm_num) (by positivity) k

end HailoDsp
