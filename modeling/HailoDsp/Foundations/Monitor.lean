import HailoDsp.Foundations.CountedHeap
import Mathlib.Logic.Function.Basic

/-!
# Critical sections with a mutex and a condition variable

Threads share an object. What they mean is that a critical section is one step, and that a section
which has to wait is not entered before it need not (`Atomic`). What they do is to lock a mutex, look
at the object, sleep on a condition variable if they have to wait, and look again when they are
woken, by a broadcast or for no reason (`Locked`).

A section may leave the broadcast out when it finds the object in a state in which nobody sleeps
who could go on afterwards (`Economical`). Then no wake-up is lost: a thread that sleeps has to wait.
Every run with a mutex is a run of atomic sections.
-/

namespace Monitor

open CountedHeap (Reply)

/-- Threads that share an object: their critical sections, which of these broadcast, the section that
a thread enters next, how it goes on with the result, and what it does outside. -/
structure Program (Thread Local Op Obj Res : Type) where
  region : Op → Obj → Reply Obj Res
  broadcasts : Op → Obj → Bool
  op : Thread → Local → Option Op
  resume : Thread → Local → Res → Local
  outside : Thread → Obj → (Thread → Local) → Local → Prop

/-- The object, and where the threads are. -/
structure Atomic (Thread Local Obj : Type) where
  object : Obj
  locals : Thread → Local

/-- Where a thread is with its next section: it has not begun, it holds the mutex and has still to
look at the object, it holds the mutex and is done, it sleeps, or it has been woken. -/
inductive Phase
  | outside
  | inside
  | leaving
  | asleep
  | woken
  deriving DecidableEq

/-- The object with its mutex. -/
structure Locked (Thread Local Obj : Type) extends Atomic Thread Local Obj where
  mutex : Option Thread
  phase : Thread → Phase

/-- `pthread_cond_broadcast` -/
def wake : Phase → Phase
  | .asleep => .woken
  | phase => phase

variable {Thread Local Op Obj Res : Type}

/-- `if (signal) pthread_cond_broadcast` -/
def broadcast (signal : Bool) (phase : Thread → Phase) (t : Thread) : Phase :=
  if signal then wake (phase t) else phase t

/-- A broadcast does not touch those who do not sleep. -/
theorem broadcast_eq_iff {signal : Bool} {phase : Thread → Phase} {t : Thread} {phase' : Phase}
    (hasleep : phase' ≠ .asleep) (hwoken : phase' ≠ .woken) : broadcast signal phase t = phase' ↔
    phase t = phase' := by
  unfold broadcast
  cases signal with
  | false => rfl
  | true => cases phase t <;> simp [wake, hasleep.symm, hwoken.symm]

/-- Who is asleep or woken after a broadcast has been asleep or woken before. -/
theorem broadcast_sleeps {signal : Bool} {phase : Thread → Phase} {t : Thread}
    (h : broadcast signal phase t = .asleep ∨ broadcast signal phase t = .woken) :
    phase t = .asleep ∨ phase t = .woken := by
  unfold broadcast at h
  cases signal with
  | false => exact h
  | true =>
    cases hphase : phase t with
    | asleep => exact .inl rfl
    | woken => exact .inr rfl
    | _ => simp [hphase, wake] at h

/-- Who sleeps after a section has slept before, and was not woken. -/
theorem broadcast_asleep {signal : Bool} {phase : Thread → Phase} {t : Thread}
    (h : broadcast signal phase t = .asleep) : signal = false ∧ phase t = .asleep := by
  unfold broadcast at h
  cases signal with
  | false => exact ⟨rfl, h⟩
  | true => cases hphase : phase t <;> simp [hphase, wake] at h

/-- The phases fit the mutex: who is inside or leaving holds it, alone, and who sleeps is about to
enter a section. -/
structure Locked.Fits (program : Program Thread Local Op Obj Res) (s : Locked Thread Local Obj) : Prop where
  holds : ∀ t, s.mutex = some t ↔ s.phase t = .inside ∨ s.phase t = .leaving
  enters : ∀ t, s.phase t = .inside ∨ s.phase t = .asleep ∨ s.phase t = .woken →
    program.op t (s.locals t) ≠ none

/-- The thread that holds the mutex is the only one that is inside or leaving. -/
theorem Locked.Fits.alone {program : Program Thread Local Op Obj Res} {s : Locked Thread Local Obj}
    (h : s.Fits program) {t t' : Thread} (hphase : s.phase t = .inside ∨ s.phase t = .leaving)
    (hphase' : s.phase t' = .inside ∨ s.phase t' = .leaving) : t' = t :=
  Option.some_inj.mp (((h.holds t').mpr hphase').symm.trans ((h.holds t).mpr hphase))

variable [DecidableEq Thread] (program : Program Thread Local Op Obj Res)

/-- A thread takes a section, or a step outside of its sections. -/
inductive Atomic.Step : Atomic Thread Local Obj → Atomic Thread Local Obj → Prop
  | region {s : Atomic Thread Local Obj} {t : Thread} {op : Op} {r : Res} {object : Obj}
      (hop : program.op t (s.locals t) = some op) (hdone : program.region op s.object = .done r object) :
    Step s ⟨object, Function.update s.locals t (program.resume t (s.locals t) r)⟩
  | outside {s : Atomic Thread Local Obj} {t : Thread} {l : Local} (hop : program.op t (s.locals t) = none)
      (houtside : program.outside t s.object s.locals l) : Step s ⟨s.object, Function.update s.locals t l⟩

/-- A thread takes the mutex, looks at the object, gives the mutex back, is woken for no reason, or
takes a step outside of its sections. -/
inductive Locked.Step (t : Thread) : Locked Thread Local Obj → Locked Thread Local Obj → Prop
  | lock {s : Locked Thread Local Obj} {op : Op} (hop : program.op t (s.locals t) = some op)
      (hphase : s.phase t = .outside ∨ s.phase t = .woken) (hfree : s.mutex = none) :
    Step t s { s with mutex := some t, phase := Function.update s.phase t .inside }
  | wait {s : Locked Thread Local Obj} {op : Op} (hop : program.op t (s.locals t) = some op)
      (hphase : s.phase t = .inside) (hwait : program.region op s.object = .wait) :
    Step t s { s with mutex := none, phase := Function.update s.phase t .asleep }
  | done {s : Locked Thread Local Obj} {op : Op} {r : Res} {object : Obj}
      (hop : program.op t (s.locals t) = some op) (hphase : s.phase t = .inside)
      (hdone : program.region op s.object = .done r object) :
    Step t s
      { object, locals := Function.update s.locals t (program.resume t (s.locals t) r), mutex := s.mutex
        phase := Function.update (broadcast (program.broadcasts op s.object) s.phase) t .leaving }
  | unlock {s : Locked Thread Local Obj} (hphase : s.phase t = .leaving) :
    Step t s { s with mutex := none, phase := Function.update s.phase t .outside }
  | spurious {s : Locked Thread Local Obj} (hphase : s.phase t = .asleep) :
    Step t s { s with phase := Function.update s.phase t .woken }
  | outside {s : Locked Thread Local Obj} {l : Local} (hop : program.op t (s.locals t) = none)
      (hphase : s.phase t = .outside) (houtside : program.outside t s.object s.locals l) :
    Step t s { s with locals := Function.update s.locals t l }

/-- A thread finds the object in a state in which its section has no defined result. -/
def Locked.Fault (t : Thread) (s : Locked Thread Local Obj) : Prop :=
  s.phase t = .inside ∧ ∃ op, program.op t (s.locals t) = some op ∧ program.region op s.object = .fault

/-- The start: nobody holds the mutex. -/
def Atomic.locked (s : Atomic Thread Local Obj) : Locked Thread Local Obj :=
  { s with mutex := none, phase := fun _ => .outside }

/-- A state that atomic sections can get to. -/
def Atomic.Reachable (start : Atomic Thread Local Obj) : Atomic Thread Local Obj → Prop :=
  Relation.ReflTransGen (Atomic.Step program) start

/-- A state that the threads can get to with the mutex. -/
def Locked.Reachable (start : Atomic Thread Local Obj) : Locked Thread Local Obj → Prop :=
  Relation.ReflTransGen (fun s s' => ∃ t, Locked.Step program t s s') start.locked

section Runs

variable {program} {start : Atomic Thread Local Obj} {s s' : Locked Thread Local Obj} {t : Thread}

/-- A step with the mutex is a section, a step outside of the sections, or none of the threads' business. -/
theorem Locked.Step.atomic (h : Locked.Step program t s s') :
    s'.toAtomic = s.toAtomic ∨ Atomic.Step program s.toAtomic s'.toAtomic := by
  cases h with
  | done hop _ hdone => exact .inr (.region hop hdone)
  | outside hop _ houtside => exact .inr (.outside hop houtside)
  | _ => exact .inl rfl

/-- Every run with the mutex is a run of atomic sections. -/
theorem Locked.Reachable.atomic (h : Locked.Reachable program start s) :
    Atomic.Reachable program start s.toAtomic := by
  induction h with
  | refl => exact .refl
  | tail _ hstep ih =>
    obtain ⟨t, hstep⟩ := hstep
    rcases hstep.atomic with hsame | hatomic
    · rwa [hsame]
    · exact ih.tail hatomic

/-- The mutex after a step of a thread, if nobody else is inside or leaving. -/
theorem holds_update {phase : Thread → Phase} {position : Phase} {mutex : Option Thread}
    (hnone : ∀ t', t' ≠ t → ¬ (phase t' = .inside ∨ phase t' = .leaving))
    (hmutex : mutex = if position = .inside ∨ position = .leaving then some t else none) (t' : Thread) :
    mutex = some t' ↔ Function.update phase t position t' = .inside ∨
    Function.update phase t position t' = .leaving := by
  by_cases ht : t' = t
  · subst ht
    rw [Function.update_self, hmutex]
    split <;> simp_all
  · rw [Function.update_of_ne ht, iff_false_right (hnone t' ht), hmutex]
    split
    · exact fun heq => ht (Option.some_inj.mp heq).symm
    · exact (Option.some_ne_none t').symm

/-- Every step leaves the phases in keeping with the mutex. -/
theorem Locked.Fits.step (h : s.Fits program) (hstep : Locked.Step program t s s') : s'.Fits program := by
  cases hstep with
  | lock hop hphase hfree =>
    constructor
    · refine holds_update (fun t' _ hheld => ?_) rfl
      exact Option.some_ne_none t' (((h.holds t').mpr hheld).symm.trans hfree)
    · intro t'
      by_cases ht : t' = t
      · subst ht
        exact fun _ => hop ▸ Option.some_ne_none _
      · simpa [ht] using h.enters t'
  | wait hop hphase hwait =>
    constructor
    · exact holds_update (fun t' ht hheld => ht (h.alone (.inl hphase) hheld)) rfl
    · intro t'
      by_cases ht : t' = t
      · subst ht
        exact fun _ => hop ▸ Option.some_ne_none _
      · simpa [ht] using h.enters t'
  | done hop hphase hdone =>
    constructor
    · refine holds_update (fun t' ht hheld => ht (h.alone (.inl hphase) ?_)) ((h.holds t).mpr (.inl hphase))
      simpa [broadcast_eq_iff] using hheld
    · intro t'
      by_cases ht : t' = t
      · subst ht
        simp
      · simp only [Function.update_of_ne ht]
        rintro (hinside | hsleeps)
        · exact h.enters t' (.inl ((broadcast_eq_iff (by simp) (by simp)).mp hinside))
        · exact h.enters t' (.inr (broadcast_sleeps hsleeps))
  | unlock hphase =>
    constructor
    · exact holds_update (fun t' ht hheld => ht (h.alone (.inr hphase) hheld)) rfl
    · intro t'
      by_cases ht : t' = t
      · subst ht
        simp
      · simpa [ht] using h.enters t'
  | spurious hphase =>
    constructor
    · intro t'
      by_cases ht : t' = t
      · subst ht
        simp [h.holds, hphase]
      · simp [ht, h.holds]
    · intro t'
      by_cases ht : t' = t
      · subst ht
        exact fun _ => h.enters t' (.inr (.inl hphase))
      · simpa [ht] using h.enters t'
  | outside hop hphase houtside =>
    refine ⟨h.holds, fun t' => ?_⟩
    by_cases ht : t' = t
    · subst ht
      simp [hphase]
    · simpa [ht] using h.enters t'

/-- In every state the phases are in keeping with the mutex. -/
theorem Locked.Reachable.fits (h : Locked.Reachable program start s) : s.Fits program := by
  induction h with
  | refl => exact ⟨by simp [Atomic.locked], by simp [Atomic.locked]⟩
  | tail _ hstep ih =>
    obtain ⟨t, hstep⟩ := hstep
    exact ih.step hstep

/-- A section that does not broadcast leaves those waiting who have to wait. -/
def Program.Economical (program : Program Thread Local Op Obj Res) : Prop :=
  ∀ op op' r object object', program.region op object = .done r object' →
    program.broadcasts op object = false →
    program.region op' object = .wait → program.region op' object' = .wait

/-- Who sleeps has to wait. -/
def Locked.SleepersWait (program : Program Thread Local Op Obj Res) (s : Locked Thread Local Obj) : Prop :=
  ∀ t op, s.phase t = .asleep → program.op t (s.locals t) = some op → program.region op s.object = .wait

/-- No step lets a thread sleep that could go on. -/
theorem Locked.SleepersWait.step (h : s.SleepersWait program) (heconomical : program.Economical)
    (hstep : Locked.Step program t s s') : s'.SleepersWait program := by
  intro t' op' hasleep hop'
  by_cases ht : t' = t
  · subst ht
    cases hstep with
    | wait hop hphase hwait =>
      cases hop.symm.trans hop'
      exact hwait
    | outside hop hphase houtside => cases hphase.symm.trans hasleep
    | _ => simp at hasleep
  · cases hstep with
    | done hop hphase hdone =>
      simp only [Function.update_of_ne ht] at hasleep hop'
      obtain ⟨hsilent, hslept⟩ := broadcast_asleep hasleep
      exact heconomical _ _ _ _ _ hdone hsilent (h t' op' hslept hop')
    | _ => exact h t' op' (by simpa [ht] using hasleep) (by simpa [ht] using hop')

end Runs

end Monitor
