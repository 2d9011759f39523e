import Mathlib.Algebra.BigOperators.Finsupp.Basic
import Mathlib.Logic.Relation

/-!
# A program logic for threads that share a state

A program is a tree of atomic operations, and a machine says what an operation of a thread does to
the state that all threads share. Threads hold resources, from any commutative monoid, and an
invariant relates the resources of all threads together to the state. `Verified` is the weakest
precondition: with the resources it holds, a thread meets no fault, whatever the other threads
hold, and each of its operations leaves the invariant true for them. The soundness theorem says
that a pool of verified threads keeps the invariant in every interleaving of their operations.
-/

namespace ThreadPool

/-- A program of atomic operations; an operation is indexed by the type of its result. -/
inductive Prog (Op : Type → Type 1) (α : Type) : Type 1
  | pure (a : α)
  | step {β : Type} (op : Op β) (next : β → Prog Op α)

variable {Op : Type → Type 1} {Thread State : Type} {α β : Type}

/-- One program after the other. -/
def Prog.bind : Prog Op α → (α → Prog Op β) → Prog Op β
  | .pure a, next => next a
  | .step op rest, next => .step op fun r => (rest r).bind next

instance : Monad (Prog Op) where
  pure := .pure
  bind := Prog.bind

/-- A single operation. -/
def perform (op : Op α) : Prog Op α := .step op .pure

/-- A program that runs a program of another kind for each of its operations. -/
def Prog.interpret {Op' : Type → Type 1} (run : {β : Type} → Op β → Prog Op' β) : Prog Op α → Prog Op' α
  | .pure a => .pure a
  | .step op next => (run op).bind fun r => (next r).interpret run

/-- What the operations of a thread do. An operation without a step has to wait. -/
structure Machine (Op : Type → Type 1) (Thread State : Type) where
  Step : Thread → {β : Type} → Op β → State → β → State → Prop
  Fault : Thread → {β : Type} → Op β → State → Prop
  Running : State → Thread → Prop
  starts : {β : Type} → Op β → Option Thread
  stop : Thread → State → State
  running_step : ∀ {t : Thread} {β : Type} {op : Op β} {s s' : State} {r : β}, Step t op s r s' →
    ∀ t', Running s' t' ↔ Running s t' ∨ starts op = some t'
  not_running : ∀ {t : Thread} {β : Type} {op : Op β} {s s' : State} {r : β}, Step t op s r s' →
    ∀ t', starts op = some t' → ¬ Running s t'
  running_stop : ∀ {t t' : Thread} {s : State}, Running (stop t s) t' ↔ Running s t' ∧ t' ≠ t

/-- The assertions about a machine: the invariant, and what a thread holds when it starts and when
it has ended. -/
structure Assertions (M State Thread : Type) where
  Inv : M → State → Prop
  Start : Thread → M → Prop
  Done : Thread → M → Prop

variable {M : Type} [AddCommMonoid M] (machine : Machine Op Thread State)
  (logic : Assertions M State Thread)

/-- The resources can be exchanged without touching the state. -/
def Assertions.Updates (m m' : M) : Prop := ∀ frame s, logic.Inv (m + frame) s → logic.Inv (m' + frame) s

/-- Holding `m`, the thread runs the program without a fault, and ends it with a result and
resources that satisfy `post`. A thread that is started is handed its resources. -/
def Verified (t : Thread) : Prog Op α → (α → M → Prop) → M → Prop
  | .pure a, post, m => ∃ m', logic.Updates m m' ∧ post a m'
  | .step op next, post, m => ∀ frame s, logic.Inv (m + frame) s → machine.Running s t →
    ¬ machine.Fault t op s ∧
      ∀ r s', machine.Step t op s r s' → ∃ m' given,
        logic.Inv (m' + given + frame) s' ∧ (machine.starts op).elim (given = 0) (logic.Start · given) ∧
          Verified t (next r) post m'

section Rules

variable {machine : Machine Op Thread State} {logic : Assertions M State Thread}

/-- Resources can be left as they are. -/
theorem Assertions.Updates.refl (m : M) : logic.Updates m m := fun _ _ h => h

/-- Exchanges compose. -/
theorem Assertions.Updates.trans {m m' m'' : M} (h : logic.Updates m m') (h' : logic.Updates m' m'') :
    logic.Updates m m'' := fun frame s hinv => h' frame s (h frame s hinv)

/-- An exchange does not touch what else the thread holds. -/
theorem Assertions.Updates.frame {m m' : M} (h : logic.Updates m m') (rest : M) :
    logic.Updates (m + rest) (m' + rest) := by
  intro frame s hinv
  rw [add_assoc] at hinv ⊢
  exact h _ s hinv

variable {t : Thread}

/-- A program that has ended. -/
theorem verified_pure {a : α} {post : α → M → Prop} {m : M} (h : post a m) :
    Verified machine logic t (.pure a) post m := ⟨m, .refl m, h⟩

/-- Resources can be exchanged before a program is run. -/
theorem Verified.update {prog : Prog Op α} {post : α → M → Prop} {m m' : M}
    (h : Verified machine logic t prog post m') (hupdate : logic.Updates m m') :
    Verified machine logic t prog post m := by
  cases prog with
  | pure a =>
    obtain ⟨m'', hrest, hpost⟩ := h
    exact ⟨m'', hupdate.trans hrest, hpost⟩
  | step op next => exact fun frame s hinv hrun => h frame s (hupdate frame s hinv) hrun

/-- Resources can be exchanged after a program has been run. -/
theorem Verified.updatePost {prog : Prog Op α} {post post' : α → M → Prop} {m : M}
    (h : Verified machine logic t prog post m)
    (hpost : ∀ a m, post a m → ∃ m', logic.Updates m m' ∧ post' a m') :
    Verified machine logic t prog post' m := by
  induction prog generalizing m with
  | pure a =>
    obtain ⟨m', hupdate, ha⟩ := h
    obtain ⟨m'', hupdate', ha'⟩ := hpost a m' ha
    exact ⟨m'', hupdate.trans hupdate', ha'⟩
  | step op next ih =>
    intro frame s hinv hrun
    obtain ⟨hfault, hstep⟩ := h frame s hinv hrun
    refine ⟨hfault, fun r s' hs => ?_⟩
    obtain ⟨m', given, hinv', hgiven, hnext⟩ := hstep r s' hs
    exact ⟨m', given, hinv', hgiven, ih r hnext⟩

/-- A weaker postcondition. -/
theorem Verified.mono {prog : Prog Op α} {post post' : α → M → Prop} {m : M}
    (h : Verified machine logic t prog post m) (hpost : ∀ a m, post a m → post' a m) :
    Verified machine logic t prog post' m := h.updatePost fun a m ha => ⟨m, .refl m, hpost a m ha⟩

/-- What a program does not need it does not touch. -/
theorem Verified.frame {prog : Prog Op α} {post : α → M → Prop} {m : M}
    (h : Verified machine logic t prog post m) (rest : M) :
    Verified machine logic t prog (fun a m => ∃ m₀, m = m₀ + rest ∧ post a m₀) (m + rest) := by
  induction prog generalizing m with
  | pure a =>
    obtain ⟨m', hupdate, ha⟩ := h
    exact ⟨m' + rest, hupdate.frame rest, m', rfl, ha⟩
  | step op next ih =>
    intro frame s hinv hrun
    rw [add_assoc] at hinv
    obtain ⟨hfault, hstep⟩ := h _ s hinv hrun
    refine ⟨hfault, fun r s' hs => ?_⟩
    obtain ⟨m', given, hinv', hgiven, hnext⟩ := hstep r s' hs
    refine ⟨m' + rest, given, ?_, hgiven, ih r hnext⟩
    rwa [add_right_comm m' rest given, add_assoc _ rest frame]

/-- One program after the other. -/
theorem Verified.bind {prog : Prog Op α} {next : α → Prog Op β} {post : β → M → Prop} {m : M}
    (h : Verified machine logic t prog (fun a => Verified machine logic t (next a) post) m) :
    Verified machine logic t (prog >>= next) post m := by
  induction prog generalizing m with
  | pure a =>
    obtain ⟨m', hupdate, ha⟩ := h
    exact ha.update hupdate
  | step op rest ih =>
    intro frame s hinv hrun
    obtain ⟨hfault, hstep⟩ := h frame s hinv hrun
    refine ⟨hfault, fun r s' hs => ?_⟩
    obtain ⟨m', given, hinv', hgiven, hnext⟩ := hstep r s' hs
    exact ⟨m', given, hinv', hgiven, ih r hnext⟩

/-- A program with a specification of its own, and what follows it. -/
theorem Verified.andThen {prog : Prog Op α} {next : α → Prog Op β} {mid : α → M → Prop}
    {post : β → M → Prop} {m : M} (h : Verified machine logic t prog mid m)
    (hnext : ∀ a m', mid a m' → Verified machine logic t (next a) post m') :
    Verified machine logic t (prog >>= next) post m := Verified.bind (h.mono hnext)

/-- A program with a specification of its own, run while holding more, and what follows it. -/
theorem Verified.seq {prog : Prog Op α} {next : α → Prog Op β} {mid : α → M → Prop} {post : β → M → Prop}
    {m total : M} (h : Verified machine logic t prog mid m) (rest : M) (htotal : total = m + rest)
    (hnext : ∀ a m', mid a m' → Verified machine logic t (next a) post (m' + rest)) :
    Verified machine logic t (prog >>= next) post total := by
  subst htotal
  refine Verified.bind ((h.frame rest).mono ?_)
  rintro a m' ⟨m₀, rfl, hmid⟩
  exact hnext a m₀ hmid

/-- A program with a specification of its own, run while holding more. -/
theorem Verified.keep {prog : Prog Op α} {mid post : α → M → Prop} {m total : M}
    (h : Verified machine logic t prog mid m) (rest : M) (htotal : total = m + rest)
    (hpost : ∀ a m', mid a m' → post a (m' + rest)) : Verified machine logic t prog post total := by
  subst htotal
  refine (h.frame rest).mono ?_
  rintro a m' ⟨m₀, rfl, hmid⟩
  exact hpost a m₀ hmid

end Rules

/-- The shares of all threads are the share of one and those of the others. -/
theorem sum_eq_add_erase (share : Thread →₀ M) (t : Thread) :
    (share.sum fun _ m => m) = share t + (share.erase t).sum fun _ m => m :=
  (Finsupp.add_sum_erase' share t (fun _ m => m) fun _ => rfl).symm

open Classical in
/-- The shares of all threads when one of them has changed. -/
theorem sum_update (share : Thread →₀ M) (t : Thread) (m : M) :
    ((share.update t m).sum fun _ m => m) = m + (share.erase t).sum fun _ m => m := by
  rw [sum_eq_add_erase _ t, Finsupp.erase_update_eq_erase, Finsupp.update_apply, if_pos rfl]

/-- The state of a pool, and the program that each thread has still to run. -/
structure Pool (Op : Type → Type 1) (Thread State : Type) where
  state : State
  code : Thread → Prog Op Bool

section Runs

variable (body : Thread → Prog Op Bool)

/-- What a thread holds at the end of its body. -/
def Assertions.AtEnd (t : Thread) (again : Bool) (m : M) : Prop :=
  if again then logic.Start t m else logic.Done t m

/-- The bodies of all threads are verified, and a thread that stops leaves the invariant behind. -/
structure BodiesVerified : Prop where
  body : ∀ t m, logic.Start t m → Verified machine logic t (body t) (logic.AtEnd t) m
  stop : ∀ t m frame s, logic.Done t m → machine.Running s t → logic.Inv (m + frame) s →
    logic.Inv frame (machine.stop t s)

/-- The resources of a thread that is still to run the given program. -/
structure ThreadOk (s : State) (code : Prog Op Bool) (t : Thread) (m : M) : Prop where
  verified : machine.Running s t → Verified machine logic t code (logic.AtEnd t) m
  idle : ¬ machine.Running s t → m = 0 ∧ code = body t

/-- The resources can be divided among the threads. -/
def Pool.Ok (pool : Pool Op Thread State) : Prop :=
  ∃ share : Thread →₀ M, logic.Inv (share.sum fun _ m => m) pool.state ∧
    ∀ t, ThreadOk machine logic body pool.state (pool.code t) t (share t)

section Ok

variable {machine logic body} {pool : Pool Op Thread State}

/-- What another thread holds and has to run is not touched by a thread that goes on. -/
theorem ThreadOk.congr {s s' : State} {code code' : Prog Op Bool} {t : Thread} {m m' : M}
    (h : ThreadOk machine logic body s code t m) (hrun : machine.Running s' t ↔ machine.Running s t)
    (hcode : code' = code) (hm : m' = m) : ThreadOk machine logic body s' code' t m' := by
  subst hcode hm
  exact ⟨fun hrun' => h.verified (hrun.mp hrun'), fun hidle => h.idle fun hrun' => hidle (hrun.mpr hrun')⟩

/-- A pool whose running threads have what they start with. -/
theorem Pool.Ok.initial {s : State} (share : Thread →₀ M) (hv : BodiesVerified machine logic body)
    (hinv : logic.Inv (share.sum fun _ m => m) s)
    (hstart : ∀ t, machine.Running s t → logic.Start t (share t))
    (hidle : ∀ t, ¬ machine.Running s t → share t = 0) : Pool.Ok machine logic body ⟨s, body⟩ :=
  ⟨share, hinv, fun t => ⟨fun hrun => hv.body t _ (hstart t hrun), fun hnot => ⟨hidle t hnot, rfl⟩⟩⟩

/-- A thread whose body has ended. -/
theorem Pool.Ok.atEnd {t : Thread} {again : Bool} (hok : pool.Ok machine logic body)
    (hrun : machine.Running pool.state t) (hcode : pool.code t = .pure again) :
    ∃ (share : Thread →₀ M) (m : M), logic.AtEnd t again m ∧
      logic.Inv (m + (share.erase t).sum fun _ m => m) pool.state ∧
        ∀ t', ThreadOk machine logic body pool.state (pool.code t') t' (share t') := by
  obtain ⟨share, hinv, hthreads⟩ := hok
  rw [sum_eq_add_erase share t] at hinv
  have hverified := (hthreads t).verified hrun
  rw [hcode] at hverified
  obtain ⟨m, hupdate, hend⟩ := hverified
  exact ⟨share, m, hend, hupdate _ _ hinv, hthreads⟩

/-- A running thread of a pool of verified threads meets no fault. -/
theorem Pool.Ok.no_fault {t : Thread} {op : Op β} {next : β → Prog Op Bool}
    (hok : pool.Ok machine logic body) (hrun : machine.Running pool.state t)
    (hcode : pool.code t = .step op next) :
    ¬ machine.Fault t op pool.state := by
  obtain ⟨share, hinv, hthreads⟩ := hok
  rw [sum_eq_add_erase share t] at hinv
  have hverified := (hthreads t).verified hrun
  rw [hcode] at hverified
  exact (hverified _ _ hinv hrun).1

end Ok

variable [DecidableEq Thread]

/-- One step of a pool: an operation of a running thread, or the end of its body, which it runs
again if the result is `true`. -/
inductive Pool.Step : Pool Op Thread State → Pool Op Thread State → Prop
  | op {pool : Pool Op Thread State} {t : Thread} {β : Type} {op : Op β} {next : β → Prog Op Bool} {r : β}
      {s : State} (hrun : machine.Running pool.state t) (hcode : pool.code t = .step op next)
      (hstep : machine.Step t op pool.state r s) :
    Step pool ⟨s, Function.update pool.code t (next r)⟩
  | again {pool : Pool Op Thread State} {t : Thread} (hrun : machine.Running pool.state t)
      (hcode : pool.code t = .pure true) :
    Step pool ⟨pool.state, Function.update pool.code t (body t)⟩
  | stop {pool : Pool Op Thread State} {t : Thread} (hrun : machine.Running pool.state t)
      (hcode : pool.code t = .pure false) :
    Step pool ⟨machine.stop t pool.state, Function.update pool.code t (body t)⟩

/-- A pool that a run can get to from the given state. -/
def Pool.Reachable (s : State) (pool : Pool Op Thread State) : Prop :=
  Relation.ReflTransGen (Pool.Step machine body) ⟨s, body⟩ pool

variable {machine logic body} {pool : Pool Op Thread State}

/-- A thread that performs an operation, which may start another one. -/
theorem Pool.Ok.op_step {t : Thread} {op : Op β} {next : β → Prog Op Bool} {r : β} {s : State}
    (hv : BodiesVerified machine logic body) (hok : pool.Ok machine logic body)
    (hrun : machine.Running pool.state t) (hcode : pool.code t = .step op next)
    (hstep : machine.Step t op pool.state r s) :
    Pool.Ok machine logic body ⟨s, Function.update pool.code t (next r)⟩ := by
  obtain ⟨share, hinv, hthreads⟩ := hok
  rw [sum_eq_add_erase share t] at hinv
  have hverified := (hthreads t).verified hrun
  rw [hcode] at hverified
  obtain ⟨-, hsteps⟩ := hverified _ _ hinv hrun
  obtain ⟨m', given, hinv', hgiven, hnext⟩ := hsteps r s hstep
  have hrunning := machine.running_step hstep
  cases hstarts : machine.starts op with
  | none =>
    rw [hstarts] at hgiven hrunning
    have hsame (t' : Thread) : machine.Running s t' ↔ machine.Running pool.state t' := by
      simpa using hrunning t'
    refine ⟨share.update t m', ?_, fun t' => ?_⟩
    · rw [sum_update]
      rwa [show given = 0 from hgiven, add_zero] at hinv'
    · by_cases ht : t' = t
      · subst ht
        simp only [Function.update_self, Finsupp.coe_update]
        exact ⟨fun _ => hnext, fun hidle => absurd ((hsame t').mpr hrun) hidle⟩
      · exact (hthreads t').congr (hsame t') (by simp [ht]) (by simp [ht])
  | some t₀ =>
    rw [hstarts] at hgiven hrunning
    have hidle := machine.not_running hstep t₀ hstarts
    have hne : t₀ ≠ t := fun heq => hidle (heq ▸ hrun)
    obtain ⟨hnone, hbody⟩ := (hthreads t₀).idle hidle
    have hrest : ((share.update t m').erase t₀).sum (fun _ m => m) = m' + (share.erase t).sum
        fun _ m => m := by
      have hzero : (share.update t m') t₀ = 0 := by simp [hne, hnone]
      rw [← sum_update, sum_eq_add_erase (share.update t m') t₀, hzero, zero_add]
    refine ⟨(share.update t m').update t₀ given, ?_, fun t' => ?_⟩
    · rw [sum_update, hrest, ← add_assoc, add_comm given]
      exact hinv'
    · by_cases ht₀ : t' = t₀
      · subst ht₀
        simp only [Function.update_of_ne hne, hbody, Finsupp.coe_update, Function.update_self]
        exact ⟨fun _ => hv.body t' given hgiven, fun hidle' => absurd ((hrunning t').mpr (.inr rfl)) hidle'⟩
      · by_cases ht : t' = t
        · subst ht
          simp only [Function.update_self, Finsupp.coe_update, Function.update_of_ne ht₀]
          exact ⟨fun _ => hnext, fun hidle' => absurd ((hrunning t').mpr (.inl hrun)) hidle'⟩
        · refine (hthreads t').congr ?_ (by simp [ht]) (by simp [ht, ht₀])
          rw [hrunning t', or_iff_left fun heq => ht₀ (Option.some_inj.mp heq).symm]

/-- A thread that runs its body again. -/
theorem Pool.Ok.again_step {t : Thread} (hv : BodiesVerified machine logic body)
    (hok : pool.Ok machine logic body) (hrun : machine.Running pool.state t)
    (hcode : pool.code t = .pure true) :
    Pool.Ok machine logic body ⟨pool.state, Function.update pool.code t (body t)⟩ := by
  obtain ⟨share, m, hend, hinv, hthreads⟩ := hok.atEnd hrun hcode
  refine ⟨share.update t m, by rwa [sum_update], fun t' => ?_⟩
  by_cases ht : t' = t
  · subst ht
    simp only [Function.update_self, Finsupp.coe_update]
    exact ⟨fun _ => hv.body t' m hend, fun hidle => absurd hrun hidle⟩
  · exact (hthreads t').congr Iff.rfl (by simp [ht]) (by simp [ht])

/-- A thread that stops. -/
theorem Pool.Ok.stop_step {t : Thread} (hv : BodiesVerified machine logic body)
    (hok : pool.Ok machine logic body) (hrun : machine.Running pool.state t)
    (hcode : pool.code t = .pure false) :
    Pool.Ok machine logic body ⟨machine.stop t pool.state, Function.update pool.code t (body t)⟩ := by
  obtain ⟨share, m, hend, hinv, hthreads⟩ := hok.atEnd hrun hcode
  have hrunning {t' : Thread} : machine.Running (machine.stop t pool.state) t' ↔
      machine.Running pool.state t' ∧ t' ≠ t := machine.running_stop
  refine ⟨share.erase t, hv.stop t m _ _ hend hrun hinv, fun t' => ?_⟩
  by_cases ht : t' = t
  · subst ht
    simp only [Function.update_self, Finsupp.erase_same]
    exact ⟨fun hrun' => absurd rfl (hrunning.mp hrun').2, fun _ => ⟨rfl, rfl⟩⟩
  · refine (hthreads t').congr ?_ (by simp [ht]) (by simp [ht])
    rw [hrunning, and_iff_left ht]

/-- Every step of a pool leaves a division of the resources. -/
theorem Pool.Ok.step {pool' : Pool Op Thread State} (hv : BodiesVerified machine logic body)
    (hok : pool.Ok machine logic body) (hstep : Pool.Step machine body pool pool') :
    pool'.Ok machine logic body := by
  cases hstep with
  | op hrun hcode hs => exact hok.op_step hv hrun hcode hs
  | again hrun hcode => exact hok.again_step hv hrun hcode
  | stop hrun hcode => exact hok.stop_step hv hrun hcode

/-- In every interleaving the resources remain divided among the threads. -/
theorem Pool.Reachable.ok {s : State} (hv : BodiesVerified machine logic body)
    (hinitial : Pool.Ok machine logic body ⟨s, body⟩) (hreach : pool.Reachable machine body s) :
    pool.Ok machine logic body := by
  induction hreach with
  | refl => exact hinitial
  | tail _ hstep ih => exact ih.step hv hstep

end Runs

end ThreadPool
