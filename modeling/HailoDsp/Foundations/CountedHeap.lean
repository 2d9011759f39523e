import HailoDsp.Foundations.ThreadPool
import Mathlib.Algebra.BigOperators.Group.Finset.Basic
import Mathlib.Algebra.Order.BigOperators.Group.Finset
import Mathlib.Data.Multiset.Count

/-!
# Reference-counted objects

Threads share objects that carry a reference count and are freed by the thread that drops the last
reference. An object may have a service thread, which uses it without a reference of its own and
is waited for before the object is freed. The operations are atomic: counting, a critical section
on one object, a look at several, a command to the environment. An address is given out once, so
that following a stale pointer is always a fault.
-/

namespace CountedHeap

open ThreadPool

/-- An object with its reference count. -/
structure Cell (Obj : Type) where
  count : ℕ
  object : Obj

/-- How far the service thread of an object has come. -/
inductive ServiceStatus
  | idle
  | running
  | detached
  | finished
  | joined
  deriving DecidableEq

/-- The threads: clients, and one service thread for each object. -/
inductive Thread
  | client (i : ℕ)
  | service (a : ℕ)
  deriving DecidableEq

/-- What the threads share: the objects, the first address not given out so far, the threads that
are running and the environment. -/
structure State (Obj Env : Type) where
  cells : ℕ → Option (Cell Obj)
  next : ℕ
  service : ℕ → ServiceStatus
  active : ℕ → Bool
  env : Env

variable {Obj Env : Type} {Cmd : Type → Type}

/-- The objects without their counts. -/
def State.objects (s : State Obj Env) (a : ℕ) : Option Obj := (s.cells a).map Cell.object

/-- Write one cell. -/
def State.setCell (s : State Obj Env) (a : ℕ) (cell : Option (Cell Obj)) : State Obj Env :=
  { s with cells := Function.update s.cells a cell }

/-- A new object with one reference. -/
def State.allocate (s : State Obj Env) (object : Obj) : State Obj Env :=
  { s with cells := Function.update s.cells s.next (some ⟨1, object⟩), next := s.next + 1 }

/-- Set the status of a service thread. -/
def State.setService (s : State Obj Env) (a : ℕ) (status : ServiceStatus) : State Obj Env :=
  { s with service := Function.update s.service a status }

/-- What a critical section does with an object: it has no defined result, it waits for the object
to change, or it ends with a result and a new content. -/
inductive Reply (Obj β : Type)
  | fault
  | wait
  | done (result : β) (object : Obj)

/-- The atomic operations. -/
inductive Op (Obj : Type) (Cmd : Type → Type) : Type → Type 1
  /-- Allocate an object, or get NULL. -/
  | alloc (object : Obj) : Op Obj Cmd (Option ℕ)
  /-- Put a variable on the stack. -/
  | place (object : Obj) : Op Obj Cmd ℕ
  /-- `++count` -/
  | retain (a : ℕ) : Op Obj Cmd Unit
  /-- `--count == 0` -/
  | release (a : ℕ) : Op Obj Cmd Bool
  /-- A critical section on one object. -/
  | access {β : Type} (a : ℕ) (f : Obj → Reply Obj β) : Op Obj Cmd β
  /-- A critical section on one object in which another one is retained. -/
  | accessRetaining {β : Type} (a : ℕ) (f : Obj → β × Obj × Option ℕ) : Op Obj Cmd β
  /-- A look at several objects. -/
  | inspect {β : Type} (f : (ℕ → Option Obj) → Option β) : Op Obj Cmd β
  /-- `free` -/
  | free (a : ℕ) : Op Obj Cmd Unit
  /-- A command to the environment, with arguments that are read from the objects. -/
  | command {β : Type} (c : (ℕ → Option Obj) → Option (Cmd β)) : Op Obj Cmd β
  /-- Create the service thread of an object. -/
  | spawn (a : ℕ) : Op Obj Cmd Unit
  /-- Wait for the service thread of an object to end; it cannot wait for itself. -/
  | join (a : ℕ) : Op Obj Cmd Bool
  /-- Let the service thread of an object end on its own. -/
  | detach (a : ℕ) : Op Obj Cmd Unit

/-- An environment: the commands that a thread is allowed to give, and how they are answered. -/
structure Environment (Env : Type) (Cmd : Type → Type) where
  Allowed : Thread → {β : Type} → Cmd β → Env → Prop
  Answers : {β : Type} → Cmd β → Env → β → Env → Prop

variable (environment : Environment Env Cmd)

/-- An operation that has no defined result. -/
def Fault (t : Thread) {β : Type} (op : Op Obj Cmd β) (s : State Obj Env) : Prop :=
  match op with
  | .alloc _ => False
  | .place _ => False
  | .retain a => s.cells a = none
  | .release a => ∀ c, s.cells a = some c → c.count = 0
  | .access a f => ∀ c, s.cells a = some c → f c.object = .fault
  | .accessRetaining a f => ∀ c, s.cells a = some c → ∃ b, (f c.object).2.2 = some b ∧ s.cells b = none
  | .inspect f => f s.objects = none
  | .free a => s.cells a = none
  | .command c => ∀ cmd, c s.objects = some cmd → ¬ environment.Allowed t cmd s.env
  | .spawn a => s.cells a = none ∨ s.service a ≠ .idle
  | .join a => s.cells a = none ∨ s.service a = .idle ∨ s.service a = .detached ∨ s.service a = .joined
  | .detach a => s.cells a = none ∨ s.service a ≠ .running

/-- What an operation does. -/
def Step (t : Thread) {β : Type} (op : Op Obj Cmd β) (s : State Obj Env) (r : β)
    (s' : State Obj Env) : Prop :=
  match op with
  | .alloc object => (r = none ∧ s' = s) ∨ (r = some s.next ∧ s' = s.allocate object)
  | .place object => r = s.next ∧ s' = s.allocate object
  | .retain a => ∃ c, s.cells a = some c ∧ s' = s.setCell a (some ⟨c.count + 1, c.object⟩)
  | .release a => ∃ c, s.cells a = some c ∧ r = decide (c.count = 1) ∧
      s' = s.setCell a (some ⟨c.count - 1, c.object⟩)
  | .access a f => ∃ c object, s.cells a = some c ∧ f c.object = .done r object ∧
      s' = s.setCell a (some ⟨c.count, object⟩)
  | .accessRetaining a f => ∃ c object, s.cells a = some c ∧
      ((f c.object = (r, object, none) ∧ s' = s.setCell a (some ⟨c.count, object⟩)) ∨
        ∃ b c', f c.object = (r, object, some b) ∧
        (s.setCell a (some ⟨c.count, object⟩)).cells b = some c' ∧
          s' = (s.setCell a (some ⟨c.count, object⟩)).setCell b (some ⟨c'.count + 1, c'.object⟩))
  | .inspect f => f s.objects = some r ∧ s' = s
  | .free a => s.cells a ≠ none ∧ s' = s.setCell a none
  | .command c => ∃ cmd env, c s.objects = some cmd ∧ environment.Answers cmd s.env r env ∧
      s' = { s with env }
  | .spawn a => s.service a = .idle ∧ s' = s.setService a .running
  | .join a => (t = .service a ∧ r = false ∧ s' = s) ∨
      (t ≠ .service a ∧ r = true ∧ s.service a = .finished ∧ s' = s.setService a .joined)
  | .detach a => s.service a = .running ∧ s' = s.setService a .detached

/-- A thread that has something to run. -/
def Running (s : State Obj Env) : Thread → Prop
  | .client i => s.active i = true
  | .service a => s.service a = .running ∨ s.service a = .detached

/-- The thread that an operation creates. -/
def starts {β : Type} : Op Obj Cmd β → Option Thread
  | .spawn a => some (.service a)
  | _ => none

/-- A thread ends. -/
def stop (t : Thread) (s : State Obj Env) : State Obj Env :=
  match t with
  | .client i => { s with active := Function.update s.active i false }
  | .service a => s.setService a .finished

/-- Only `spawn` creates a thread, and no operation ends one. -/
theorem running_step {t : Thread} {β : Type} {op : Op Obj Cmd β} {s s' : State Obj Env} {r : β}
    (h : Step environment t op s r s') (t' : Thread) : Running s' t' ↔ Running s t' ∨
    starts op = some t' := by
  cases op with
  | spawn a =>
    obtain ⟨hidle, rfl⟩ := h
    cases t' with
    | client i => simp [Running, starts, State.setService]
    | service b =>
      by_cases hb : b = a
      · subst hb
        simp [Running, starts, State.setService]
      · simp [Running, starts, State.setService, hb, Ne.symm hb]
  | join a =>
    obtain ⟨-, -, rfl⟩ | ⟨-, -, hfinished, rfl⟩ := h
    · simp [starts]
    · cases t' with
      | client i => simp [Running, starts, State.setService]
      | service b =>
        by_cases hb : b = a
        · subst hb
          simp [Running, starts, State.setService, hfinished]
        · simp [Running, starts, State.setService, hb]
  | detach a =>
    obtain ⟨hrunning, rfl⟩ := h
    cases t' with
    | client i => simp [Running, starts, State.setService]
    | service b =>
      by_cases hb : b = a
      · subst hb
        simp [Running, starts, State.setService, hrunning]
      · simp [Running, starts, State.setService, hb]
  | alloc object => obtain ⟨-, rfl⟩ | ⟨-, rfl⟩ := h <;> cases t' <;> simp [Running, starts, State.allocate]
  | place object =>
    obtain ⟨-, rfl⟩ := h
    cases t' <;> simp [Running, starts, State.allocate]
  | retain a =>
    obtain ⟨c, -, rfl⟩ := h
    cases t' <;> simp [Running, starts, State.setCell]
  | release a =>
    obtain ⟨c, -, -, rfl⟩ := h
    cases t' <;> simp [Running, starts, State.setCell]
  | access a f =>
    obtain ⟨c, object, -, -, rfl⟩ := h
    cases t' <;> simp [Running, starts, State.setCell]
  | accessRetaining a f =>
    obtain ⟨c, object, -, ⟨-, rfl⟩ | ⟨b, c', -, -, rfl⟩⟩ := h <;> cases t' <;> simp [Running, starts,
      State.setCell]
  | inspect f =>
    obtain ⟨-, rfl⟩ := h
    simp [starts]
  | free a =>
    obtain ⟨-, rfl⟩ := h
    cases t' <;> simp [Running, starts, State.setCell]
  | command c =>
    obtain ⟨cmd, env, -, -, rfl⟩ := h
    cases t' <;> simp [Running, starts]

/-- The machine of the operations. -/
def machine : Machine (Op Obj Cmd) Thread (State Obj Env) where
  Step := fun t {_} op s r s' => Step environment t op s r s'
  Fault := fun t {_} op s => Fault environment t op s
  Running := Running
  starts := starts
  stop := stop
  running_step := running_step environment
  not_running := by
    intro t β op s s' r h t' hstarts
    cases op with
    | spawn a =>
      obtain ⟨hidle, -⟩ := h
      cases hstarts
      simp [Running, hidle]
    | _ => cases hstarts
  running_stop := by
    intro t t' s
    cases t with
    | client i => cases t' with
      | client j => by_cases hj : j = i <;> simp [Running, stop, hj]
      | service b => simp [Running, stop]
    | service a => cases t' with
      | client j => simp [Running, stop, State.setService]
      | service b => by_cases hb : b = a <;> simp [Running, stop, State.setService, hb]

end CountedHeap
