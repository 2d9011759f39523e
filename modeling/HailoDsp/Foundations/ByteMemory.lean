import Mathlib.Data.Nat.Digits.Defs
import Mathlib.Data.Set.Function
import Mathlib.Order.CompletePartialOrder
import Mathlib.Order.Interval.Set.Disjoint

/-!
# Numbers in a byte-addressed memory

A memory has a byte at every natural number. A number is stored in little-endian order over a
span of addresses, and is read back as long as nothing writes into that span: a store changes
its own span only, and a load depends on its own span only.
-/

namespace ByteMemory

/-- A byte at every address. -/
abbrev Memory := ℕ → UInt8

/-- The addresses of `size` bytes from `start` on. -/
def span (start size : ℕ) : Set ℕ := Set.Ico start (start + size)

/-- The addresses of a span. -/
theorem mem_span {start size a : ℕ} : a ∈ span start size ↔ start ≤ a ∧ a < start + size := Set.mem_Ico

/-- A span is inside another one when its ends are. -/
theorem span_subset {start size start' size' : ℕ} (hstart : start' ≤ start)
    (hend : start + size ≤ start' + size') :
    span start size ⊆ span start' size' := Set.Ico_subset_Ico hstart hend

/-- A span that follows another one is disjoint from it. -/
theorem disjoint_span {start size start' size' : ℕ} (h : start + size ≤ start') :
    Disjoint (span start size) (span start' size') := by
  rw [Set.disjoint_left]
  intro a ha ha'
  rw [mem_span] at ha ha'
  omega

/-- The given number of little-endian bytes of a number. -/
def encode : ℕ → ℕ → List UInt8
  | 0, _ => []
  | width + 1, n => UInt8.ofNat n :: encode width (n / 256)

/-- As many bytes as asked for. -/
@[simp] theorem length_encode (width n : ℕ) : (encode width n).length = width := by
  induction width generalizing n with
  | zero => rfl
  | succ width ih => simp [encode, ih]

/-- The bytes of a number that fits are its digits. -/
theorem ofDigits_encode {width n : ℕ} (h : n < 256 ^ width) :
    Nat.ofDigits 256 ((encode width n).map UInt8.toNat) = n := by
  induction width generalizing n with
  | zero => simpa [encode, eq_comm] using h
  | succ width ih =>
    have hrest : n / 256 < 256 ^ width := Nat.div_lt_of_lt_mul (by rwa [← Nat.pow_succ'])
    rw [encode, List.map_cons, Nat.ofDigits_cons, ih hrest, UInt8.toNat_ofNat']
    exact Nat.mod_add_div n 256

/-- The bytes of a span. -/
def load (memory : Memory) (start size : ℕ) : List UInt8 :=
  (List.range size).map fun i => memory (start + i)

/-- The memory after writing a list of bytes. -/
def store (memory : Memory) (start : ℕ) (bytes : List UInt8) : Memory := fun a =>
  if start ≤ a then bytes.getD (a - start) (memory a) else memory a

/-- What was stored is loaded. -/
theorem load_store (memory : Memory) (start : ℕ) (bytes : List UInt8) :
    load (store memory start bytes) start bytes.length = bytes := by
  apply List.ext_getElem
  · simp [load]
  · intro i hi hi'
    simp [load, store, hi']

/-- A store changes its own span only. -/
theorem store_eqOn (memory : Memory) (start : ℕ) (bytes : List UInt8) :
    Set.EqOn (store memory start bytes) memory (Set.compl (span start bytes.length)) := by
  intro a ha
  have hout : ¬ (start ≤ a ∧ a < start + bytes.length) := fun h => ha (mem_span.mpr h)
  by_cases hstart : start ≤ a
  · have hlength : bytes.length ≤ a - start := by omega
    simp [store, hstart, List.getElem?_eq_none hlength]
  · simp [store, hstart]

/-- A load depends on its own span only. -/
theorem load_congr {memory memory' : Memory} {start size : ℕ}
    (h : Set.EqOn memory memory' (span start size)) :
    load memory start size = load memory' start size := by
  apply List.map_congr_left
  intro i hi
  exact h (mem_span.mpr ⟨Nat.le_add_right _ _, Nat.add_lt_add_left (List.mem_range.mp hi) _⟩)

/-- Store the given number of little-endian bytes of a number. -/
def storeWord (width : ℕ) (memory : Memory) (start n : ℕ) : Memory := store memory start (encode width n)

/-- Load a little-endian number. -/
def loadWord (width : ℕ) (memory : Memory) (start : ℕ) : ℕ :=
  Nat.ofDigits 256 ((load memory start width).map UInt8.toNat)

/-- A number that fits is loaded as it was stored. -/
theorem loadWord_storeWord {width n : ℕ} (h : n < 256 ^ width) (memory : Memory) (start : ℕ) :
    loadWord width (storeWord width memory start n) start = n := by
  have hload := load_store memory start (encode width n)
  rw [length_encode] at hload
  rw [loadWord, storeWord, hload, ofDigits_encode h]

/-- Storing a number changes its own span only. -/
theorem storeWord_eqOn (width : ℕ) (memory : Memory) (start n : ℕ) :
    Set.EqOn (storeWord width memory start n) memory (Set.compl (span start width)) := by
  have h := store_eqOn memory start (encode width n)
  rwa [length_encode] at h

/-- A number is loaded alike from memories that agree on its span. -/
theorem loadWord_congr {width : ℕ} {memory memory' : Memory} {start : ℕ}
    (h : Set.EqOn memory memory' (span start width)) :
    loadWord width memory start = loadWord width memory' start := by
  rw [loadWord, loadWord, load_congr h]

/-- Storing a number elsewhere does not matter. -/
theorem loadWord_storeWord_of_disjoint {width width' start start' : ℕ}
    (h : Disjoint (span start width) (span start' width')) (memory : Memory) (n : ℕ) :
    loadWord width (storeWord width' memory start' n) start = loadWord width memory start :=
  loadWord_congr ((storeWord_eqOn width' memory start' n).mono (Set.disjoint_left.mp h))

end ByteMemory
