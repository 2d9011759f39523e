import HailoDsp.Foundations.CountedHeap

/-!
# Running threads by a schedule

An executable scheduler: it performs the operations of the threads in a given order, with an oracle
that answers the commands to the environment, and stops when a thread cannot go on. Every pool that
it gets to is one that the threads can get to.
-/

namespace CountedHeap

open ThreadPool

variable {Obj Env : Type} {Cmd : Type → Type} {environment : Environment Env Cmd}

/-- One way for the environment to answer commands. -/
structure Oracle (environment : Environment Env Cmd) where
  answer : {β : Type} → Cmd β → Env → Option (β × Env)
  sound : ∀ {β : Type} {cmd : Cmd β} {env env' : Env} {r : β}, answer cmd env = some (r, env') →
    environment.Answers cmd env r env'

variable (oracle : Oracle environment)

/-- Perform an operation, if it is defined and does not have to wait. There is memory for every object. -/
def exec (t : Thread) {β : Type} (op : Op Obj Cmd β) (s : State Obj Env) : Option (β × State Obj Env) :=
  match op with
  | .alloc object => some (some s.next, s.allocate object)
  | .place object => some (s.next, s.allocate object)
  | .retain a => (s.cells a).map fun c => ((), s.setCell a (some ⟨c.count + 1, c.object⟩))
  | .release a => (s.cells a).map fun c => (decide (c.count = 1),
      s.setCell a (some ⟨c.count - 1, c.object⟩))
  | .access a f => do
    let c ← s.cells a
    match f c.object with
    | .done r object => some (r, s.setCell a (some ⟨c.count, object⟩))
    | _ => none
  | .accessRetaining a f => do
    let c ← s.cells a
    let s' := s.setCell a (some ⟨c.count, (f c.object).2.1⟩)
    match (f c.object).2.2 with
    | none => some ((f c.object).1, s')
    | some b => (s'.cells b).map fun c' => ((f c.object).1, s'.setCell b (some ⟨c'.count + 1, c'.object⟩))
  | .inspect f => (f s.objects).map fun r => (r, s)
  | .free a => (s.cells a).map fun _ => ((), s.setCell a none)
  | .command c => do
    let cmd ← c s.objects
    (oracle.answer cmd s.env).map fun answer => (answer.1, { s with env := answer.2 })
  | .spawn a => if s.service a = .idle then some ((), s.setService a .running) else none
  | .join a =>
    if t = .service a then some (false, s)
    else if s.service a = .finished then some (true, s.setService a .joined) else none
  | .detach a => if s.service a = .running then some ((), s.setService a .detached) else none

/-- What is performed is a step of the machine. -/
theorem exec_sound {t : Thread} {β : Type} {op : Op Obj Cmd β} {s s' : State Obj Env} {r : β}
    (h : exec oracle t op s = some (r, s')) : Step environment t op s r s' := by
  cases op with
  | alloc object =>
    obtain ⟨rfl, rfl⟩ := Prod.mk.inj (Option.some_inj.mp h)
    exact .inr ⟨rfl, rfl⟩
  | place object =>
    obtain ⟨rfl, rfl⟩ := Prod.mk.inj (Option.some_inj.mp h)
    exact ⟨rfl, rfl⟩
  | retain a =>
    obtain ⟨c, hcell, heq⟩ := Option.map_eq_some_iff.mp h
    obtain ⟨-, rfl⟩ := Prod.mk.inj heq
    exact ⟨c, hcell, rfl⟩
  | release a =>
    obtain ⟨c, hcell, heq⟩ := Option.map_eq_some_iff.mp h
    obtain ⟨rfl, rfl⟩ := Prod.mk.inj heq
    exact ⟨c, hcell, rfl, rfl⟩
  | access a f =>
    obtain ⟨c, hcell, hdone⟩ := Option.bind_eq_some_iff.mp h
    cases hf : f c.object with
    | done r' object =>
      rw [hf] at hdone
      obtain ⟨rfl, rfl⟩ := Prod.mk.inj (Option.some_inj.mp hdone)
      exact ⟨c, object, hcell, hf, rfl⟩
    | _ => simp [hf] at hdone
  | accessRetaining a f =>
    obtain ⟨c, hcell, hdone⟩ := Option.bind_eq_some_iff.mp h
    refine ⟨c, (f c.object).2.1, hcell, ?_⟩
    cases hf : (f c.object).2.2 with
    | none =>
      simp only [hf] at hdone
      obtain ⟨rfl, rfl⟩ := Prod.mk.inj (Option.some_inj.mp hdone)
      exact .inl ⟨Prod.ext rfl (Prod.ext rfl hf), rfl⟩
    | some b =>
      simp only [hf] at hdone
      obtain ⟨c', hcell', heq⟩ := Option.map_eq_some_iff.mp hdone
      obtain ⟨rfl, rfl⟩ := Prod.mk.inj heq
      exact .inr ⟨b, c', Prod.ext rfl (Prod.ext rfl hf), hcell', rfl⟩
  | inspect f =>
    obtain ⟨r', hf, heq⟩ := Option.map_eq_some_iff.mp h
    obtain ⟨rfl, rfl⟩ := Prod.mk.inj heq
    exact ⟨hf, rfl⟩
  | free a =>
    obtain ⟨c, hcell, heq⟩ := Option.map_eq_some_iff.mp h
    obtain ⟨-, rfl⟩ := Prod.mk.inj heq
    exact ⟨by simp [hcell], rfl⟩
  | command c =>
    obtain ⟨cmd, hcmd, hanswer⟩ := Option.bind_eq_some_iff.mp h
    obtain ⟨answer, hanswers, heq⟩ := Option.map_eq_some_iff.mp hanswer
    obtain ⟨rfl, rfl⟩ := Prod.mk.inj heq
    exact ⟨cmd, answer.2, hcmd, oracle.sound hanswers, rfl⟩
  | spawn a =>
    obtain ⟨hidle, heq⟩ := Option.ite_none_right_eq_some.mp h
    exact ⟨hidle, (Prod.mk.inj (Option.some_inj.mp heq)).2.symm⟩
  | join a =>
    rw [exec] at h
    split at h
    · rename_i ht
      obtain ⟨rfl, rfl⟩ := Prod.mk.inj (Option.some_inj.mp h)
      exact .inl ⟨ht, rfl, rfl⟩
    · rename_i ht
      obtain ⟨hfinished, heq⟩ := Option.ite_none_right_eq_some.mp h
      obtain ⟨rfl, rfl⟩ := Prod.mk.inj (Option.some_inj.mp heq)
      exact .inr ⟨ht, rfl, hfinished, rfl⟩
  | detach a =>
    obtain ⟨hrunning, heq⟩ := Option.ite_none_right_eq_some.mp h
    exact ⟨hrunning, (Prod.mk.inj (Option.some_inj.mp heq)).2.symm⟩

instance (s : State Obj Env) (t : Thread) : Decidable (Running s t) :=
  match t with
  | .client i => inferInstanceAs (Decidable (s.active i = true))
  | .service a => inferInstanceAs (Decidable (s.service a = .running ∨ s.service a = .detached))

variable (body : Thread → Prog (Op Obj Cmd) Bool)

/-- Let a thread go on by one step. -/
def advance (t : Thread) (pool : Pool (Op Obj Cmd) Thread (State Obj Env)) :
    Option (Pool (Op Obj Cmd) Thread (State Obj Env)) :=
  if Running pool.state t then
    match pool.code t with
    | .pure true => some ⟨pool.state, Function.update pool.code t (body t)⟩
    | .pure false => some ⟨stop t pool.state, Function.update pool.code t (body t)⟩
    | .step op next =>
      (exec oracle t op pool.state).map fun result =>
        ⟨result.2, Function.update pool.code t (next result.1)⟩
  else none

/-- Let threads go on in the given order, until one of them cannot. -/
def play : List Thread → Pool (Op Obj Cmd) Thread (State Obj Env) → Pool (Op Obj Cmd) Thread (State Obj Env)
  | [], pool => pool
  | t :: rest, pool =>
    match advance oracle body t pool with
    | some pool' => play rest pool'
    | none => pool

variable {body} {pool : Pool (Op Obj Cmd) Thread (State Obj Env)}

/-- A thread goes on by a step of the pool. -/
theorem advance_sound {t : Thread} {pool' : Pool (Op Obj Cmd) Thread (State Obj Env)}
    (h : advance oracle body t pool = some pool') : Pool.Step (machine environment) body pool pool' := by
  obtain ⟨hrun, hadvance⟩ := Option.ite_none_right_eq_some.mp h
  cases hcode : pool.code t with
  | pure again =>
    cases again with
    | true =>
      simp only [hcode, Option.some_inj] at hadvance
      exact hadvance ▸ .again hrun hcode
    | false =>
      simp only [hcode, Option.some_inj] at hadvance
      exact hadvance ▸ .stop hrun hcode
  | step op next =>
    simp only [hcode] at hadvance
    obtain ⟨result, hexec, rfl⟩ := Option.map_eq_some_iff.mp hadvance
    exact .op hrun hcode (exec_sound oracle hexec)

/-- Every schedule gets to a pool that the threads can get to. -/
theorem play_sound {s : State Obj Env} (schedule : List Thread)
    (h : pool.Reachable (machine environment) body s) :
    (play oracle body schedule pool).Reachable (machine environment) body s := by
  induction schedule generalizing pool with
  | nil => exact h
  | cons t rest ih =>
    rw [play]
    cases hadvance : advance oracle body t pool with
    | none => exact h
    | some pool' => exact ih (h.tail (advance_sound oracle hadvance))

end CountedHeap
