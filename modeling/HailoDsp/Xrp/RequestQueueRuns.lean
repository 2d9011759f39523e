import HailoDsp.Xrp.Calls
import HailoDsp.Xrp.RequestQueue

/-!
# Runs of a request queue

Requests are executed once and in the order in which they were put in, no wake-up is lost although
`xrp_queue_push` broadcasts only to an empty list, and a client that destroys the queue leaves no
request behind.
-/

namespace HailoDsp.Xrp.RequestQueue

open CountedHeap (Reply)
open Monitor

variable {Item : Type}

section Sections

variable [DecidableEq Item] {queue queue' : XrpRequestQueue Item} {items : List Item}

/-- The loop of `xrp_queue_process` waits while the list is empty and `exit` is not set. -/
theorem xrpQueueProcess_eq_wait :
    xrpQueueProcess queue = .wait ↔ queue.requestQueue.head = none ∧ queue.exit = false := by
  unfold xrpQueueProcess LinkedQueue.pop
  cases queue.requestQueue.head with
  | none => cases queue.exit <;> simp
  | some rq => simp

/-- What comes out of the loop of `xrp_queue_process`. -/
theorem xrpQueueProcess_done {r : Option Item} (hholds : queue.requestQueue.Holds items)
    (h : xrpQueueProcess queue = .done r queue') :
    (∃ rq rest, items = rq :: rest ∧ r = some rq ∧ queue'.requestQueue.Holds rest ∧
      queue'.exit = queue.exit ∧
      queue'.pushed = queue.pushed) ∨ (items = [] ∧ r = none ∧ queue' = queue ∧ queue.exit = true) := by
  unfold xrpQueueProcess at h
  cases items with
  | nil =>
    rw [hholds.pop_nil] at h
    cases hexit : queue.exit with
    | true =>
      rw [if_pos hexit] at h
      cases h
      exact .inr ⟨rfl, rfl, rfl, rfl⟩
    | false =>
      rw [if_neg (by simp [hexit])] at h
      cases h
  | cons rq rest =>
    obtain ⟨hfirst, hrest⟩ := hholds.pop_cons
    cases hpop : queue.requestQueue.pop with
    | mk first remaining =>
      rw [hpop] at hfirst hrest h
      cases hfirst
      cases h
      exact .inl ⟨rq, rest, rfl, rfl, hrest, rfl, rfl⟩

end Sections

section Invariant

/-- The request that the worker has taken, but not executed yet. -/
def Place.inFlight : Place Item → List Item
  | .taken (some rq) => [rq]
  | _ => []

/-- What is true of the worker at a place, if `last` says that no client holds a reference. -/
def WorkerFits (exit : Bool) (items : List Item) (last : Prop) : Place Item → Prop
  | .awaiting => True
  | .taken (some _) => True
  | .taken none => exit = true ∧ items = []
  | .calling => True
  | .returned false => True
  | .returned true => exit = true ∧ last
  | .ended => exit = true ∧ (items = [] ∨ last)
  | .destroying => last
  | .joining => exit = true ∧ last
  | .checking => exit = true ∧ last
  | _ => False

/-- What is true of a client at a place, if `last` says that no other client holds a reference, and
`ended` that the worker has ended. -/
def ClientFits (exit : Bool) (last ended : Prop) : Place Item → Prop
  | .idle => exit = false
  | .pushing _ => exit = false
  | .gone => True
  | .destroying => exit = false ∧ last
  | .joining => exit = true ∧ last
  | .checking => exit = true ∧ last ∧ ended
  | .destroyed nonEmpty => exit = true ∧ last ∧ ended ∧ nonEmpty = false
  | _ => False

/-- The invariant: the requests that were put in are those that were executed, the one in between, and
those on the list; a request that is about to be put in is on nobody's list. -/
structure QueueOk (s : Atomic QueueThread (Local Item) (XrpRequestQueue Item)) (items : List Item) :
    Prop where
  holds : s.object.requestQueue.Holds items
  order : s.object.pushed = (s.locals .worker).executed ++ (s.locals .worker).place.inFlight ++ items
  unused : ∀ t rq, (s.locals t).place = .pushing rq → rq ∉ items
  distinct : ∀ t t' rq, (s.locals t).place = .pushing rq → (s.locals t').place = .pushing rq → t = t'
  worker : WorkerFits s.object.exit items (LastReference s.locals .worker) (s.locals .worker).place
  client : ∀ i, ClientFits s.object.exit (LastReference s.locals (.client i))
    ((s.locals .worker).place = .ended) (s.locals (.client i)).place

variable {s s' : Atomic QueueThread (Local Item) (XrpRequestQueue Item)} {items : List Item}
  {t : QueueThread}

/-- The worker remains where it fits. -/
theorem WorkerFits.mono {exit : Bool} {last last' : Prop} {place : Place Item}
    (h : WorkerFits exit items last place) (hlast : last → last') :
    WorkerFits exit items last' place := by
  cases place with
  | taken r =>
    cases r with
    | none => exact h
    | some rq => trivial
  | returned exit =>
    cases exit with
    | false => trivial
    | true => exact ⟨h.1, hlast h.2⟩
  | ended => exact ⟨h.1, h.2.imp_right hlast⟩
  | destroying => exact hlast h
  | joining => exact ⟨h.1, hlast h.2⟩
  | checking => exact ⟨h.1, hlast h.2⟩
  | _ => exact h

/-- The worker fits any list as long as `exit` is not set. -/
theorem WorkerFits.of_open {items' : List Item} {last : Prop} {place : Place Item}
    (h : WorkerFits false items last place) (exit : Bool) : WorkerFits exit items' last place := by
  cases place with
  | taken r =>
    cases r with
    | none => cases h.1
    | some rq => trivial
  | returned exit =>
    cases exit with
    | false => trivial
    | true => cases h.1
  | ended => cases h.1
  | joining => cases h.1
  | checking => cases h.1
  | _ => exact h

/-- A client remains where it fits. -/
theorem ClientFits.mono {exit : Bool} {last last' ended ended' : Prop} {place : Place Item}
    (h : ClientFits exit last ended place) (hlast : last → last') (hended : ended → ended') :
    ClientFits exit last' ended' place := by
  cases place with
  | destroying => exact ⟨h.1, hlast h.2⟩
  | joining => exact ⟨h.1, hlast h.2⟩
  | checking => exact ⟨h.1, hlast h.2.1, hended h.2.2⟩
  | destroyed nonEmpty => exact ⟨h.1, hlast h.2.1, hended h.2.2.1, h.2.2.2⟩
  | _ => exact h

/-- Clients that have dropped their references do nothing any more. -/
theorem LastReference.update {locals : QueueThread → Local Item} {t' : QueueThread}
    (h : LastReference locals t') (hplace : (locals t).place ≠ .gone) (l : Local Item) :
    LastReference (Function.update locals t l) t' := by
  intro i hi
  by_cases ht : QueueThread.client i = t
  · subst ht
    exact absurd (h i hi) hplace
  · rw [Function.update_of_ne ht]
    exact h i hi

/-- The worker has not dropped a reference. -/
theorem WorkerFits.not_gone {exit : Bool} {last : Prop}
    (h : WorkerFits exit items last (s.locals .worker).place) :
    (s.locals .worker).place ≠ .gone := by
  intro hplace
  rw [hplace] at h
  exact h

/-- The worker goes on, and takes a request off the list or leaves it. -/
theorem QueueOk.workerStep (h : QueueOk s items) {object : XrpRequestQueue Item} {l : Local Item}
    {items' : List Item} (hholds : object.requestQueue.Holds items')
    (horder : object.pushed = l.executed ++ l.place.inFlight ++ items')
    (hsubset : ∀ rq ∈ items', rq ∈ items) (hpushing : ∀ rq, l.place ≠ .pushing rq)
    (hfits : WorkerFits object.exit items' (LastReference s.locals .worker) l.place)
    (hexit : object.exit = s.object.exit ∨ LastReference s.locals .worker)
    (hended : (s.locals .worker).place = .ended → l.place = .ended) :
    QueueOk ⟨object, Function.update s.locals .worker l⟩ items' := by
  have hother {t' : QueueThread} {rq : Item}
      (hplace : (Function.update s.locals .worker l t').place = .pushing rq) :
      t' ≠ .worker ∧ (s.locals t').place = .pushing rq := by
    by_cases ht : t' = .worker
    · subst ht
      rw [Function.update_self] at hplace
      exact absurd hplace (hpushing rq)
    · rw [Function.update_of_ne ht] at hplace
      exact ⟨ht, hplace⟩
  have hlast {t' : QueueThread} (hlast : LastReference s.locals t') :
      LastReference (Function.update s.locals .worker l) t' := hlast.update h.worker.not_gone l
  constructor
  · exact hholds
  · simpa using horder
  · exact fun t' rq hplace hmem => h.unused t' rq (hother hplace).2 (hsubset rq hmem)
  · exact fun t' t'' rq hplace hplace' => h.distinct t' t'' rq (hother hplace).2 (hother hplace').2
  · simpa using hfits.mono hlast
  · intro i
    simp only [Function.update_self, Function.update_of_ne (show QueueThread.client i ≠ .worker by simp)]
    rcases hexit with hexit | hgone
    · rw [hexit]
      exact (h.client i).mono hlast hended
    · rw [hgone i (by simp)]
      trivial

/-- A client goes on, and puts a request on the list or leaves it. -/
theorem QueueOk.clientStep (h : QueueOk s items) {i : ℕ} {object : XrpRequestQueue Item} {l : Local Item}
    {items' : List Item} (hholds : object.requestQueue.Holds items')
    (horder : object.pushed = (s.locals .worker).executed ++ (s.locals .worker).place.inFlight ++ items')
    (hgone : (s.locals (.client i)).place ≠ .gone)
    (hothers : ∀ t rq, t ≠ .client i → (s.locals t).place = .pushing rq → rq ∉ items')
    (hpushing : ∀ rq, l.place = .pushing rq → rq ∉ items' ∧ ∀ t, (s.locals t).place ≠ .pushing rq)
    (hworker : WorkerFits object.exit items' (LastReference s.locals .worker) (s.locals .worker).place)
    (hfits : ClientFits object.exit (LastReference s.locals (.client i))
      ((s.locals .worker).place = .ended) l.place)
    (hexit : object.exit = s.object.exit ∨ LastReference s.locals (.client i)) :
    QueueOk ⟨object, Function.update s.locals (.client i) l⟩ items' := by
  have hlast {t' : QueueThread} (hlast : LastReference s.locals t') :
      LastReference (Function.update s.locals (.client i) l) t' := hlast.update hgone l
  have hself : Function.update s.locals (.client i) l .worker = s.locals .worker :=
    Function.update_of_ne (by simp) _ _
  have hmine {rq : Item} (hplace : (Function.update s.locals (.client i) l (.client i)).place =
      .pushing rq) :
      rq ∉ items' ∧ ∀ t, (s.locals t).place ≠ .pushing rq := by
    rw [Function.update_self] at hplace
    exact hpushing rq hplace
  have hother {t' : QueueThread} {rq : Item} (ht : t' ≠ .client i)
      (hplace : (Function.update s.locals (.client i) l t').place = .pushing rq) :
      (s.locals t').place = .pushing rq := by
    rwa [Function.update_of_ne ht] at hplace
  constructor
  · exact hholds
  · simpa only [hself] using horder
  · intro t' rq hplace
    by_cases ht : t' = .client i
    · subst ht
      exact (hmine hplace).1
    · exact hothers t' rq ht (hother ht hplace)
  · intro t' t'' rq hplace hplace'
    by_cases ht : t' = .client i <;> by_cases ht' : t'' = .client i
    · rw [ht, ht']
    · subst ht
      exact absurd (hother ht' hplace') ((hmine hplace).2 t'')
    · subst ht'
      exact absurd (hother ht hplace) ((hmine hplace').2 t')
    · exact h.distinct t' t'' rq (hother ht hplace) (hother ht' hplace')
  · simp only [hself]
    exact hworker.mono hlast
  · intro j
    simp only [hself]
    by_cases hj : j = i
    · subst hj
      rw [Function.update_self]
      exact hfits.mono hlast id
    · rw [Function.update_of_ne (by simpa using hj)]
      rcases hexit with hexit | hgone
      · rw [hexit]
        exact (h.client j).mono hlast id
      · rw [hgone j (by simpa using Ne.symm hj)]
        trivial

end Invariant

section Steps

variable {s s' : Atomic QueueThread (Local Item) (XrpRequestQueue Item)} {items : List Item}

/-- A thread that destroys the queue sets `exit`. -/
theorem QueueOk.exits (h : QueueOk s items) {t : QueueThread} (hplace : (s.locals t).place = .destroying) :
    QueueOk ⟨{ s.object with exit := true },
      Function.update s.locals t { s.locals t with place := .joining }⟩ items := by
  cases t with
  | worker =>
    have hlast := h.worker
    have horder := h.order
    rw [hplace] at hlast horder
    refine h.workerStep h.holds horder (fun _ => id) (by simp) ⟨rfl, hlast⟩ (.inr hlast) ?_
    rw [hplace]
    rintro ⟨⟩
  | client i =>
    have hfits := h.client i
    rw [hplace] at hfits
    obtain ⟨hexit, hlast⟩ := hfits
    refine h.clientStep h.holds h.order (by simp [hplace]) (fun t rq _ => h.unused t rq) (by simp)
      ?_ ⟨rfl, hlast⟩
      (.inr hlast)
    have hworker := h.worker
    rw [hexit] at hworker
    exact hworker.of_open true

/-- A thread that destroys the queue looks for requests that are left. -/
theorem QueueOk.checks (h : QueueOk s items) {t : QueueThread} (hplace : (s.locals t).place = .checking) :
    QueueOk ⟨s.object, Function.update s.locals t (resume t (s.locals t) s.object.requestQueue.head)⟩
      items := by
  cases t with
  | worker =>
    have hfits := h.worker
    have horder := h.order
    rw [hplace] at hfits horder
    have hresume : resume .worker (s.locals .worker) s.object.requestQueue.head =
        { s.locals .worker with place := .returned true } := by simp [resume, hplace]
    rw [hresume]
    refine h.workerStep h.holds horder (fun _ => id) (by simp) hfits (.inl rfl) ?_
    rw [hplace]
    rintro ⟨⟩
  | client i =>
    have hfits := h.client i
    rw [hplace] at hfits
    obtain ⟨hexit, hlast, hended⟩ := hfits
    have hresume : resume (.client i) (s.locals (.client i)) s.object.requestQueue.head =
        { s.locals (.client i) with place := .destroyed s.object.requestQueue.head.isSome } := by
          simp [resume, hplace]
    rw [hresume]
    refine h.clientStep h.holds h.order (by simp [hplace]) (fun t rq _ => h.unused t rq) (by simp) h.worker
      ⟨hexit, hlast, hended, ?_⟩ (.inl rfl)
    have hworker := h.worker
    rw [hended] at hworker
    rcases hworker.2 with hempty | hgone
    · rw [h.holds.head_eq, hempty]
      rfl
    · exact absurd (hgone i (by simp)) (by simp [hplace])

/-- The worker goes on outside of its sections. -/
theorem QueueOk.workerGoes (h : QueueOk s items) {place : Place Item} {calls : List Item}
    (hinFlight : (s.locals .worker).place.inFlight = calls ++ place.inFlight)
    (hpushing : ∀ rq, place ≠ .pushing rq)
    (hfits : WorkerFits s.object.exit items (LastReference s.locals .worker) place)
    (hended : (s.locals .worker).place ≠ .ended) :
    QueueOk ⟨s.object, Function.update s.locals .worker ⟨place, (s.locals .worker).executed ++ calls⟩⟩
      items := by
  refine h.workerStep h.holds ?_ (fun _ => id) hpushing hfits (.inl rfl) fun heq => absurd heq hended
  simp only [h.order, hinFlight, List.append_assoc]

/-- A client goes on outside of its sections. -/
theorem QueueOk.clientGoes (h : QueueOk s items) {i : ℕ} {place : Place Item} {calls : List Item}
    (hgone : (s.locals (.client i)).place ≠ .gone)
    (hpushing : ∀ rq, place = .pushing rq → Unused s.object s.locals rq)
    (hfits : ClientFits s.object.exit (LastReference s.locals (.client i))
      ((s.locals .worker).place = .ended) place) :
    QueueOk ⟨s.object, Function.update s.locals (.client i) ⟨place,
      (s.locals (.client i)).executed ++ calls⟩⟩
      items := by
  refine h.clientStep h.holds h.order hgone (fun t rq _ => h.unused t rq) (fun rq heq => ?_) h.worker
    hfits (.inl rfl)
  exact ⟨(hpushing rq heq).1 items h.holds, (hpushing rq heq).2⟩

/-- A thread goes on outside of its sections. -/
theorem QueueOk.outside (h : QueueOk s items) {t : QueueThread} {place : Place Item} {calls : List Item}
    (houtside : Outside s.object s.locals t (s.locals t).place place calls) :
    QueueOk ⟨s.object, Function.update s.locals t ⟨place, (s.locals t).executed ++ calls⟩⟩ items := by
  have hworker := h.worker
  have hclient := h.client
  generalize hbefore : (s.locals t).place = before at houtside
  cases houtside with
  | stop =>
    rw [hbefore] at hworker
    exact h.workerGoes (by simp [hbefore, Place.inFlight]) (by simp) ⟨hworker.1, .inl hworker.2⟩
      (by simp [hbefore])
  | call rq => exact h.workerGoes (by simp [hbefore, Place.inFlight]) (by simp) trivial (by simp [hbefore])
  | finish => exact h.workerGoes (by simp [hbefore, Place.inFlight]) (by simp) trivial (by simp [hbefore])
  | again => exact h.workerGoes (by simp [hbefore, Place.inFlight]) (by simp) trivial (by simp [hbefore])
  | exit =>
    rw [hbefore] at hworker
    exact h.workerGoes (by simp [hbefore, Place.inFlight]) (by simp) ⟨hworker.1, .inr hworker.2⟩
      (by simp [hbefore])
  | malloc i rq hunused =>
    have hfits := hclient i
    rw [hbefore] at hfits
    refine h.clientGoes (by simp [hbefore]) (fun rq' heq => ?_) hfits
    cases heq
    exact hunused
  | release i => exact h.clientGoes (by simp [hbefore]) (by simp) trivial
  | destroyClient i hlast =>
    have hfits := hclient i
    rw [hbefore] at hfits
    exact h.clientGoes (by simp [hbefore]) (by simp) ⟨hfits, hlast⟩
  | destroyWorker hlast =>
    exact h.workerGoes (by simp [hbefore, Place.inFlight]) (by simp) hlast (by simp [hbefore])
  | join i hended =>
    have hfits := hclient i
    rw [hbefore] at hfits
    exact h.clientGoes (by simp [hbefore]) (by simp) ⟨hfits.1, hfits.2, hended⟩
  | detach =>
    rw [hbefore] at hworker
    exact h.workerGoes (by simp [hbefore, Place.inFlight]) (by simp) hworker (by simp [hbefore])

/-- The places from which a thread enters a section. -/
theorem nextSection_cases {l : Local Item} {op : Section Item} (h : nextSection l = some op) :
    (l.place = .awaiting ∧ op = .process) ∨ (∃ rq, l.place = .pushing rq ∧ op = .push rq) ∨
      (l.place = .destroying ∧ op = .exit) ∨ (l.place = .checking ∧ op = .check) := by
  unfold nextSection at h
  cases hplace : l.place with
  | awaiting =>
    rw [hplace] at h
    exact .inl ⟨rfl, (Option.some_inj.mp h).symm⟩
  | pushing rq =>
    rw [hplace] at h
    exact .inr (.inl ⟨rq, rfl, (Option.some_inj.mp h).symm⟩)
  | destroying =>
    rw [hplace] at h
    exact .inr (.inr (.inl ⟨rfl, (Option.some_inj.mp h).symm⟩))
  | checking =>
    rw [hplace] at h
    exact .inr (.inr (.inr ⟨rfl, (Option.some_inj.mp h).symm⟩))
  | _ => simp [hplace] at h

/-- The invariant holds at the start. -/
theorem start_ok (clients : ℕ) : QueueOk (@start Item clients) [] where
  holds := ⟨rfl, rfl, List.nodup_nil⟩
  order := rfl
  unused := by simp
  distinct := by
    intro t t' rq hplace
    cases t with
    | worker => cases hplace
    | client i =>
      simp only [start] at hplace
      split at hplace <;> cases hplace
  worker := trivial
  client := by
    intro i
    simp only [start]
    split
    · rfl
    · trivial

variable [DecidableEq Item]

/-- The worker takes a request, or is told to end. -/
theorem QueueOk.takes (h : QueueOk s items) {r : Option Item} {object : XrpRequestQueue Item}
    (hplace : (s.locals .worker).place = .awaiting) (hdone : xrpQueueProcess s.object = .done r object) :
    ∃ items', QueueOk ⟨object,
      Function.update s.locals .worker { s.locals .worker with place := .taken r }⟩ items' := by
  have horder := h.order
  rw [hplace] at horder
  rcases xrpQueueProcess_done h.holds hdone with ⟨rq, rest, rfl, rfl, hrest, hexit, hpushed⟩ |
    ⟨rfl, rfl, rfl, hexit⟩
  · refine ⟨rest, h.workerStep hrest ?_ (fun _ => List.mem_cons_of_mem rq) (by simp) trivial
      (.inl hexit) ?_⟩
    · rw [hpushed, horder]
      simp [Place.inFlight]
    · rw [hplace]
      rintro ⟨⟩
  · refine ⟨[], h.workerStep h.holds ?_ (fun _ => id) (by simp) ⟨hexit, rfl⟩ (.inl rfl) ?_⟩
    · rw [horder]
      simp [Place.inFlight]
    · rw [hplace]
      rintro ⟨⟩

/-- A client puts a request in. -/
theorem QueueOk.pushes (h : QueueOk s items) {i : ℕ} {rq : Item}
    (hplace : (s.locals (.client i)).place = .pushing rq) :
    QueueOk
      ⟨{ s.object with
          requestQueue := s.object.requestQueue.push rq
          pushed := s.object.pushed ++ [rq] },
        Function.update s.locals (.client i) { s.locals (.client i) with place := .idle }⟩
      (items ++ [rq]) := by
  have hexit : s.object.exit = false := by
    have hfits := h.client i
    rwa [hplace] at hfits
  refine h.clientStep (h.holds.push (h.unused _ rq hplace)) ?_ ?_ ?_ ?_ ?_ hexit (.inl rfl)
  · simp [h.order]
  · simp [hplace]
  · intro t' rq' ht hplace' hmem
    rcases List.mem_append.mp hmem with hmem | hmem
    · exact h.unused t' rq' hplace' hmem
    · rw [List.mem_singleton.mp hmem] at hplace'
      exact ht (h.distinct t' _ rq hplace' hplace)
  · rintro _ ⟨⟩
  · have hworker := h.worker
    rw [hexit] at hworker
    exact hworker.of_open _

/-- A thread goes through a section. -/
theorem QueueOk.region (h : QueueOk s items) {t : QueueThread} {op : Section Item} {r : Option Item}
    {object : XrpRequestQueue Item} (hop : nextSection (s.locals t) = some op)
    (hdone : RequestQueue.region op s.object = .done r object) :
    ∃ items', QueueOk ⟨object, Function.update s.locals t (resume t (s.locals t) r)⟩ items' := by
  rcases nextSection_cases hop with ⟨hplace, rfl⟩ | ⟨rq, hplace, rfl⟩ | ⟨hplace, rfl⟩ | ⟨hplace, rfl⟩
  · cases t with
    | worker =>
      have hresume : resume .worker (s.locals .worker) r = { s.locals .worker with place := .taken r } := by
        simp [resume, hplace]
      rw [hresume]
      exact h.takes hplace hdone
    | client i =>
      have hfits := h.client i
      rw [hplace] at hfits
      exact hfits.elim
  · cases t with
    | worker =>
      have hfits := h.worker
      rw [hplace] at hfits
      exact hfits.elim
    | client i =>
      cases hdone
      have hresume : resume (.client i) (s.locals (.client i)) none =
          { s.locals (.client i) with place := .idle } := by
        simp [resume, hplace]
      rw [hresume]
      exact ⟨_, h.pushes hplace⟩
  · cases hdone
    have hresume : resume t (s.locals t) none = { s.locals t with place := .joining } := by
      simp [resume, hplace]
    rw [hresume]
    exact ⟨items, h.exits hplace⟩
  · cases hdone
    exact ⟨items, h.checks hplace⟩

/-- Every step keeps the invariant. -/
theorem QueueOk.step (h : QueueOk s items) (hstep : Atomic.Step queueProgram s s') :
    ∃ items', QueueOk s' items' := by
  cases hstep with
  | region hop hdone => exact h.region hop hdone
  | outside hop houtside =>
    obtain ⟨place, calls, hmoves, rfl⟩ := houtside
    exact ⟨items, h.outside hmoves⟩

/-- No section lacks a defined result. -/
theorem region_ne_fault (op : Section Item) (queue : XrpRequestQueue Item) : region op queue ≠ .fault := by
  cases op with
  | process =>
    simp only [region, xrpQueueProcess]
    split
    · simp
    · split <;> simp
  | _ => simp [region]

end Steps

section Samples

/-- A thread goes through its next section, and nobody interferes. -/
def through (s : Locked QueueThread (Local ℕ) (XrpRequestQueue ℕ)) (t : QueueThread) :
    Locked QueueThread (Local ℕ) (XrpRequestQueue ℕ) :=
  match nextSection (s.locals t) with
  | none => s
  | some op =>
    match region op s.object with
    | .done r object =>
      { object, locals := Function.update s.locals t (resume t (s.locals t) r), mutex := none
        phase := Function.update (broadcast (broadcasts op s.object) s.phase) t .outside }
    | _ => { s with mutex := none, phase := Function.update s.phase t .asleep }

/-- A thread goes on outside of its sections. -/
def moves (s : Locked QueueThread (Local ℕ) (XrpRequestQueue ℕ)) (t : QueueThread) (place : Place ℕ)
    (calls : List ℕ) : Locked QueueThread (Local ℕ) (XrpRequestQueue ℕ) :=
  { s with locals := Function.update s.locals t ⟨place, (s.locals t).executed ++ calls⟩ }

variable {s : Locked QueueThread (Local ℕ) (XrpRequestQueue ℕ)} {t : QueueThread} {clients : ℕ}

/-- A thread can go through its next section when nobody holds the mutex. -/
theorem reachable_through (h : Locked.Reachable queueProgram (start clients) s) (hfree : s.mutex = none)
    (hphase : s.phase t = .outside ∨ s.phase t = .woken) :
    Locked.Reachable queueProgram (start clients) (through s t) := by
  unfold through
  cases hop : nextSection (s.locals t) with
  | none => exact h
  | some op =>
    have hinside := h.tail ⟨t, .lock hop hphase hfree⟩
    simp only
    cases hregion : region op s.object with
    | fault => exact absurd hregion (region_ne_fault op s.object)
    | wait =>
      have hasleep := hinside.tail ⟨t, .wait hop (by simp) hregion⟩
      rw [Function.update_idem] at hasleep
      exact hasleep
    | done r object =>
      have hleaving := hinside.tail ⟨t, .done hop (by simp) hregion⟩
      have houtside := hleaving.tail ⟨t, .unlock (by simp)⟩
      have hbroadcast : Function.update (broadcast (queueProgram.broadcasts op s.object)
          (Function.update s.phase t .inside)) t .outside =
          Function.update (broadcast (broadcasts op s.object) s.phase) t .outside := by
        funext t'
        by_cases ht : t' = t
        · simp [ht]
        · simp [ht, broadcast, queueProgram]
      rw [Function.update_idem, hbroadcast] at houtside
      exact houtside

/-- A thread can go on outside of its sections. -/
theorem reachable_moves (h : Locked.Reachable queueProgram (start clients) s) {place : Place ℕ}
    {calls : List ℕ} (hop : nextSection (s.locals t) = none) (hphase : s.phase t = .outside)
    (houtside : Outside s.object s.locals t (s.locals t).place place calls) :
    Locked.Reachable queueProgram (start clients) (moves s t place calls) :=
  h.tail ⟨t, .outside hop hphase ⟨place, calls, houtside, rfl⟩⟩

/-- The thread of the queue sleeps, since there is no request yet. -/
def sampleAsleep : Locked QueueThread (Local ℕ) (XrpRequestQueue ℕ) := through (start 2).locked .worker

/-- The thread of the queue can get to sleep. -/
theorem sampleAsleep_reachable : Locked.Reachable queueProgram (start 2) sampleAsleep :=
  reachable_through .refl rfl (.inl rfl)

/-- A client has put a request in. -/
def sampleFirst : Locked QueueThread (Local ℕ) (XrpRequestQueue ℕ) :=
  through (moves sampleAsleep (.client 0) (.pushing 7) []) (.client 0)

/-- There are two clients. -/
theorem start_gone (i : ℕ) : ((@start ℕ 2).locals (.client (i + 2))).place = .gone := by
  simp [start]

/-- The first client can put a request in. -/
theorem sampleFirst_reachable : Locked.Reachable queueProgram (start 2) sampleFirst := by
  have hunused : Unused sampleAsleep.object sampleAsleep.locals 7 := by
    constructor
    · intro items hholds
      have hempty : sampleAsleep.object.requestQueue.Holds [] := ⟨rfl, rfl, List.nodup_nil⟩
      rw [hholds.unique hempty]
      exact List.not_mem_nil
    · intro t hplace
      match t with
      | .worker => cases hplace
      | .client 0 => cases hplace
      | .client 1 => cases hplace
      | .client (i + 2) => cases (start_gone i).symm.trans hplace
  have hmalloc := reachable_moves sampleAsleep_reachable (t := .client 0) rfl rfl (.malloc 0 7 hunused)
  exact reachable_through hmalloc rfl (.inl rfl)

/-- Both clients have put a request in, and one of them has dropped its reference. -/
def samplePushed : Locked QueueThread (Local ℕ) (XrpRequestQueue ℕ) :=
  moves (through (moves sampleFirst (.client 1) (.pushing 8) []) (.client 1)) (.client 1) .gone []

/-- Both clients can put a request in. -/
theorem samplePushed_reachable : Locked.Reachable queueProgram (start 2) samplePushed := by
  have hunused : Unused sampleFirst.object sampleFirst.locals 8 := by
    constructor
    · intro items hholds
      have hsingle : sampleFirst.object.requestQueue.Holds [7] := ⟨⟨rfl, rfl⟩, rfl, List.nodup_singleton 7⟩
      rw [hholds.unique hsingle]
      simp
    · intro t hplace
      match t with
      | .worker => cases hplace
      | .client 0 => cases hplace
      | .client 1 => cases hplace
      | .client (i + 2) => cases (start_gone i).symm.trans hplace
  have hmalloc := reachable_moves sampleFirst_reachable (t := .client 1) rfl rfl (.malloc 1 8 hunused)
  exact reachable_moves (reachable_through hmalloc rfl (.inl rfl)) rfl rfl (.release 1)

/-- The worker takes a request, executes it, and looks for the next one. -/
def executes (s : Locked QueueThread (Local ℕ) (XrpRequestQueue ℕ)) (rq : ℕ) :
    Locked QueueThread (Local ℕ) (XrpRequestQueue ℕ) :=
  moves (moves (moves (through s .worker) .worker .calling [rq]) .worker (.returned false) [])
    .worker .awaiting []

/-- The worker can execute a request that it can take. -/
theorem reachable_executes (h : Locked.Reachable queueProgram (start clients) s) (rq : ℕ)
    (hfree : s.mutex = none) (hphase : s.phase .worker = .outside ∨ s.phase .worker = .woken)
    (hafter : (through s .worker).phase .worker = .outside)
    (htaken : ((through s .worker).locals .worker).place = .taken (some rq)) :
    Locked.Reachable queueProgram (start clients) (executes s rq) := by
  have hcall : Outside (through s .worker).object (through s .worker).locals .worker
      ((through s .worker).locals .worker).place .calling [rq] := by
    rw [htaken]
    exact .call rq
  have htakes := reachable_through h hfree hphase
  have hcalls := reachable_moves htakes (by simp [nextSection, htaken]) hafter hcall
  have hfinish := reachable_moves (t := .worker) hcalls (by simp [moves, nextSection]) hafter
    (by simpa [moves] using Outside.finish)
  exact reachable_moves hfinish (by simp [moves, nextSection]) hafter (by simpa [moves] using Outside.again)

/-- The remaining client has destroyed the queue, after its thread has executed both requests. -/
def sampleDestroyed : Locked QueueThread (Local ℕ) (XrpRequestQueue ℕ) :=
  let exits := through (moves (executes (executes samplePushed 7) 8) (.client 0) .destroying []) (.client 0)
  let ended := moves (through exits .worker) .worker .ended []
  through (moves ended (.client 0) .checking []) (.client 0)

/-- The remaining client can destroy the queue. -/
theorem sampleDestroyed_reachable : Locked.Reachable queueProgram (start 2) sampleDestroyed := by
  have hfirst := reachable_executes samplePushed_reachable 7 rfl (.inr rfl) rfl rfl
  have hsecond := reachable_executes hfirst 8 rfl (.inl rfl) rfl rfl
  have hlast : LastReference (executes (executes samplePushed 7) 8).locals (.client 0) := by
    intro i hi
    match i with
    | 0 => exact absurd rfl hi
    | 1 => rfl
    | i + 2 => exact start_gone i
  have hdestroying := reachable_moves hsecond (t := .client 0) rfl rfl (.destroyClient 0 hlast)
  have hexits := reachable_through hdestroying (t := .client 0) rfl (.inl rfl)
  have hstops := reachable_through hexits (t := .worker) rfl (.inl rfl)
  have hended := reachable_moves hstops (t := .worker) rfl rfl .stop
  have hjoined := reachable_moves hended (t := .client 0) rfl rfl (.join 0 rfl)
  exact reachable_through hjoined (t := .client 0) rfl (.inl rfl)

end Samples

section Results

variable {clients : ℕ}

variable [DecidableEq Item] {s : Locked QueueThread (Local Item) (XrpRequestQueue Item)} {t : QueueThread}

/-- The invariant holds in every state that the threads can get to. -/
theorem queueOk_of_reachable (h : Locked.Reachable queueProgram (start clients) s) :
    ∃ items, QueueOk s.toAtomic items := by
  have hatomic := h.atomic
  generalize s.toAtomic = a at hatomic
  induction hatomic with
  | refl => exact ⟨[], start_ok clients⟩
  | tail _ hstep ih =>
    obtain ⟨items, hok⟩ := ih
    exact hok.step hstep

/-- Every request is executed once, in the order in which the requests were put in: those that have been
executed, the one that the worker has taken, and those that are on the list make up all of them. When a
client has destroyed the queue, all of them have been executed. -/
theorem requests_in_order (h : Locked.Reachable queueProgram (start clients) s) :
    (∃ items, s.object.requestQueue.Holds items ∧
      s.object.pushed = (s.locals .worker).executed ++ (s.locals .worker).place.inFlight ++ items) ∧
    ∀ i nonEmpty, (s.locals (.client i)).place = .destroyed nonEmpty →
      nonEmpty = false ∧ (s.locals .worker).executed = s.object.pushed := by
  obtain ⟨items, hok⟩ := queueOk_of_reachable h
  refine ⟨⟨items, hok.holds, hok.order⟩, fun i nonEmpty hplace => ?_⟩
  have hclient := hok.client i
  rw [hplace] at hclient
  obtain ⟨-, -, hended, hnonEmpty⟩ := hclient
  have hworker := hok.worker
  rw [hended] at hworker
  refine ⟨hnonEmpty, ?_⟩
  rcases hworker.2 with hempty | hgone
  · rw [hok.order, hended, hempty]
    simp [Place.inFlight]
  · exact absurd (hgone i (by simp)) (by simp [hplace])

/-- Two requests, which two clients have put in, have been executed when the queue is destroyed. -/
theorem requests_in_order_sample :
    (∃ items, sampleDestroyed.object.requestQueue.Holds items ∧ sampleDestroyed.object.pushed =
      (sampleDestroyed.locals .worker).executed ++ (sampleDestroyed.locals .worker).place.inFlight ++
      items) ∧
    (sampleDestroyed.locals .worker).executed = sampleDestroyed.object.pushed ∧
    sampleDestroyed.object.pushed = [7, 8] := by
  obtain ⟨horder, hall⟩ := requests_in_order sampleDestroyed_reachable
  exact ⟨horder, (hall 0 false rfl).2, rfl⟩

end Results

section Refinement

variable {queue : XrpRequestQueue ℕ} {q : XrpQueue}

/-- The linked list holds the requests of a queue as the programs of the library see it. -/
structure Refines (queue : XrpRequestQueue ℕ) (q : XrpQueue) : Prop where
  holds : queue.requestQueue.Holds (q.requestQueue.map XrpRequest.item)
  exit : queue.exit = q.exit

/-- A request that is put in stands at the end of the list. -/
theorem Refines.push (h : Refines queue q) {rq : XrpRequest}
    (hnew : rq.item ∉ q.requestQueue.map XrpRequest.item) :
    ∃ queue', region (.push rq.item) queue = .done none queue' ∧ Refines queue' (q.push rq) := by
  refine ⟨_, rfl, ?_, h.exit⟩
  simpa [XrpQueue.push] using h.holds.push hnew

/-- The loop of `xrp_queue_process` waits for both. -/
theorem Refines.process_eq_wait (h : Refines queue q) : region .process queue = .wait ↔ q.next = .wait := by
  rw [region, xrpQueueProcess_eq_wait, h.holds.head_eq, h.exit, XrpQueue.next]
  cases q.requestQueue with
  | nil => cases q.exit <;> simp
  | cons rq rest => simp

/-- What comes out of the loop of `xrp_queue_process` is the same request. -/
theorem Refines.process (h : Refines queue q) {r : Option XrpRequest} {object : XrpObject}
    (hnext : q.next = .done r object) :
    ∃ queue' q', object = .queue q' ∧ region .process queue = .done (r.map XrpRequest.item) queue' ∧
      Refines queue' q' := by
  have hholds := h.holds
  unfold XrpQueue.next at hnext
  cases hlist : q.requestQueue with
  | nil =>
    rw [hlist] at hnext hholds
    cases hexit : q.exit with
    | false => simp [hexit] at hnext
    | true =>
      rw [if_pos hexit] at hnext
      cases hnext
      refine ⟨queue, q, rfl, ?_, h⟩
      rw [region, xrpQueueProcess, hholds.pop_nil]
      exact if_pos (h.exit.trans hexit)
  | cons rq rest =>
    rw [hlist] at hnext hholds
    cases hnext
    obtain ⟨hfirst, hrest⟩ := hholds.pop_cons
    refine ⟨{ queue with requestQueue := queue.requestQueue.pop.2 }, _, rfl, ?_, hrest, h.exit⟩
    rw [region, xrpQueueProcess]
    split
    · next p remaining hpop =>
      rw [hpop] at hfirst
      cases hfirst
      rw [hpop]
      rfl
    · next remaining hpop =>
      rw [hpop] at hfirst
      cases hfirst

/-- The critical sections on the linked list do what the programs of the library do with a list: they
put a request in, wait, take the first request out or find `exit` set, set `exit`, and see whether
there are requests left. -/
theorem refines_list_queue (h : Refines queue q) :
    (∀ rq, rq.item ∉ q.requestQueue.map XrpRequest.item →
      ∃ queue', region (.push rq.item) queue = .done none queue' ∧ Refines queue' (q.push rq)) ∧
    (region .process queue = .wait ↔ q.next = .wait) ∧
    (∀ r object, q.next = .done r object → ∃ queue' q', object = .queue q' ∧
      region .process queue = .done (r.map XrpRequest.item) queue' ∧ Refines queue' q') ∧
    (∃ queue', region .exit queue = .done none queue' ∧ Refines queue' { q with exit := true }) ∧
    ∃ r, region .check queue = .done r queue ∧ (r = none ↔ q.requestQueue = []) := by
  refine ⟨fun rq => h.push, h.process_eq_wait, fun r object => h.process,
    ⟨_, rfl, h.holds, rfl⟩, _, rfl, ?_⟩
  rw [h.holds.head_eq]
  simp

/-- A queue with one request, as the programs of the library see it. -/
def sampleQueue : XrpQueue :=
  ⟨1, false, 0, .replicate 16 0, [⟨7, none, [], 0, 0, none, none⟩], false, 0⟩

/-- A second request is put in behind the first one, which is taken out. -/
theorem refines_list_queue_sample :
    (∃ queue', region (.push 8) sampleFirst.object = .done none queue' ∧
      Refines queue' (sampleQueue.push ⟨8, none, [], 0, 0, none, none⟩)) ∧
    ∃ queue' q', XrpObject.queue { sampleQueue with requestQueue := [] } = .queue q' ∧
      region .process sampleFirst.object = .done (some 7) queue' ∧ Refines queue' q' := by
  have hrefines : Refines sampleFirst.object sampleQueue :=
    ⟨⟨⟨rfl, rfl⟩, rfl, List.nodup_singleton 7⟩, rfl⟩
  obtain ⟨hpush, -, hprocess, -⟩ := refines_list_queue hrefines
  exact ⟨hpush ⟨8, none, [], 0, 0, none, none⟩ (by decide),
    hprocess (some ⟨7, none, [], 0, 0, none, none⟩) _ rfl⟩

end Refinement

end HailoDsp.Xrp.RequestQueue
