import Mathlib.Data.List.Nodup
import Mathlib.Logic.Function.Basic

/-!
# A queue of linked items

A singly linked list with a pointer to its first and to its last item, which is put in at the end
and taken out at the front. The items outside of the list may point anywhere.
-/

/-- Where the items point to, and the first and the last item of the list. -/
structure LinkedQueue (P : Type) where
  next : P → Option P
  head : Option P
  tail : Option P

namespace LinkedQueue

variable {P : Type}

section Operations

variable [DecidableEq P]

/-- Put an item in at the end. -/
def push (q : LinkedQueue P) (p : P) : LinkedQueue P :=
  let next := Function.update q.next p none
  match q.tail with
  | some last => { next := Function.update next last (some p), head := q.head, tail := some p }
  | none => { next, head := some p, tail := some p }

/-- Take the first item out, if there is one. -/
def pop (q : LinkedQueue P) : Option P × LinkedQueue P :=
  match q.head with
  | none => (none, q)
  | some p => (some p, { q with head := q.next p, tail := if q.tail = some p then none else q.tail })

end Operations

/-- The items from a pointer on. -/
def Linked (next : P → Option P) : Option P → List P → Prop
  | head, [] => head = none
  | head, p :: rest => head = some p ∧ Linked next (next p) rest

/-- The items of the queue, first to last. -/
structure Holds (q : LinkedQueue P) (items : List P) : Prop where
  linked : Linked q.next q.head items
  last : q.tail = items.getLast?
  nodup : items.Nodup

variable {q : LinkedQueue P} {items items' : List P} {p : P} {next next' : P → Option P} {head : Option P}

/-- The pointers determine the items. -/
theorem Linked.unique (h : Linked next head items) (h' : Linked next head items') : items = items' := by
  induction items generalizing head items' with
  | nil =>
    cases items' with
    | nil => rfl
    | cons p rest => exact absurd (h.symm.trans h'.1) (Option.some_ne_none p).symm
  | cons p rest ih =>
    cases items' with
    | nil => exact absurd (h'.symm.trans h.1) (Option.some_ne_none p).symm
    | cons p' rest' =>
      obtain rfl : p = p' := Option.some_inj.mp (h.1.symm.trans h'.1)
      rw [ih h.2 h'.2]

/-- The pointers determine the items of a queue. -/
theorem Holds.unique (h : q.Holds items) (h' : q.Holds items') : items = items' := h.linked.unique h'.linked

/-- There is a first item if there are any. -/
theorem Holds.head_eq (h : q.Holds items) : q.head = items.head? := by
  cases items with
  | nil => exact h.linked
  | cons p rest => exact h.linked.1

variable [DecidableEq P]

/-- An item behind the last one. -/
theorem Linked.snoc {last : P} (h : Linked next head (items ++ [last])) (hlast : last ∉ items)
    (hp : p ∉ items) (hne : p ≠ last) :
    Linked (Function.update (Function.update next p none) last (some p)) head (items ++ [last, p]) := by
  induction items generalizing head with
  | nil =>
    refine ⟨h.1, ?_⟩
    rw [Function.update_self]
    refine ⟨rfl, ?_⟩
    rw [Function.update_of_ne hne, Function.update_self]
    rfl
  | cons q rest ih =>
    obtain ⟨hhead, hrest⟩ := h
    refine ⟨hhead, ?_⟩
    have hq : q ≠ last := fun heq => hlast (heq ▸ List.mem_cons_self)
    have hq' : q ≠ p := fun heq => hp (heq ▸ List.mem_cons_self)
    rw [Function.update_of_ne hq, Function.update_of_ne hq']
    exact ih hrest (fun hmem => hlast (List.mem_cons_of_mem q hmem)) fun hmem =>
      hp (List.mem_cons_of_mem q hmem)

/-- An item that is put in stands at the end. -/
theorem Holds.push (h : q.Holds items) (hp : p ∉ items) : (q.push p).Holds (items ++ [p]) := by
  have hnodup : (items ++ [p]).Nodup := by
    rw [List.nodup_append]
    exact ⟨h.nodup, List.nodup_singleton p, fun a ha b hb heq => hp (List.mem_singleton.mp hb ▸ heq ▸ ha)⟩
  rcases List.eq_nil_or_concat' items with rfl | ⟨first, last, rfl⟩
  · have htail : q.tail = none := h.last
    refine ⟨?_, ?_, hnodup⟩
    · simp [LinkedQueue.push, htail, Linked]
    · simp [LinkedQueue.push, htail]
  · have htail : q.tail = some last := by simpa using h.last
    have hfirst : last ∉ first := fun hmem =>
      (List.nodup_append.mp h.nodup).2.2 last hmem last List.mem_cons_self rfl
    rw [List.mem_append, List.mem_singleton, not_or] at hp
    refine ⟨?_, ?_, hnodup⟩
    · simpa [LinkedQueue.push, htail] using h.linked.snoc hfirst hp.1 hp.2
    · simp [LinkedQueue.push, htail]

/-- Nothing is taken out of an empty queue. -/
theorem Holds.pop_nil (h : q.Holds []) : q.pop = (none, q) := by
  have hhead : q.head = none := h.linked
  simp [pop, hhead]

/-- The first item is taken out. -/
theorem Holds.pop_cons (h : q.Holds (p :: items)) : q.pop.1 = some p ∧ q.pop.2.Holds items := by
  have hhead : q.head = some p := h.linked.1
  have hpop : q.pop = (some p,
      { q with head := q.next p, tail := if q.tail = some p then none else q.tail }) := by
    simp [pop, hhead]
  rw [hpop]
  refine ⟨rfl, h.linked.2, ?_, h.nodup.of_cons⟩
  rcases List.eq_nil_or_concat' items with rfl | ⟨first, last, rfl⟩
  · simp [show q.tail = some p from h.last]
  · have htail : q.tail = some last := by
      rw [h.last, ← List.cons_append, List.getLast?_concat]
    have hne : last ≠ p := by
      rintro rfl
      exact (List.nodup_cons.mp h.nodup).1 (List.mem_append_right first List.mem_cons_self)
    simp [htail, hne]

end LinkedQueue
