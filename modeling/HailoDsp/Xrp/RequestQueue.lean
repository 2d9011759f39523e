import HailoDsp.Foundations.LinkedQueue
import HailoDsp.Foundations.Monitor

/-!
# The request queue and its thread

`xrp_queue_push`, `xrp_queue_process`, `xrp_queue_thread` and `xrp_queue_destroy` of
`xrp_threaded_queue.c`, down to the mutex, the condition variable and the pointers of the list. The
clients of a queue hold references to it; whoever drops the last one destroys the queue, and this can
be the thread of the queue itself, while it executes a request.

A client that is given a reference later, by another one or by an event, is taken to hold it from the
start. One that drops its reference need not destroy the queue, since a request may still hold one
through its event.
-/

namespace HailoDsp.Xrp.RequestQueue

open CountedHeap (Reply)
open Monitor

variable {Item : Type} [DecidableEq Item]

/-- `struct xrp_request_queue`, and all requests that have been put in so far, in this order. -/
structure XrpRequestQueue (Item : Type) where
  requestQueue : LinkedQueue Item
  exit : Bool
  pushed : List Item

/-- The critical sections: `xrp_queue_push`, the loop of `xrp_queue_process`, and the first and the
last one of `xrp_queue_destroy`. -/
inductive Section (Item : Type)
  | push (rq : Item)
  | process
  | exit
  | check

/-- The thread of the queue, and the clients. -/
inductive QueueThread
  | worker
  | client (i : ℕ)
  deriving DecidableEq

/-- Where a thread is. The worker waits for a request, has come out of the loop of `xrp_queue_process`,
runs `queue->fn`, is about to return `!exit`, or has ended. A client runs code of its own, puts a
request in, or has dropped its reference. In `xrp_queue_destroy` a thread sets `exit`, joins the
worker, looks for requests that are left; the worker comes back to `queue->fn` from there. -/
inductive Place (Item : Type)
  | awaiting
  | taken (rq : Option Item)
  | calling
  | returned (exit : Bool)
  | ended
  | idle
  | pushing (rq : Item)
  | gone
  | destroying
  | joining
  | checking
  | destroyed (nonEmpty : Bool)

/-- Where a thread is, and the requests it has called `queue->fn` for. -/
structure Local (Item : Type) where
  place : Place Item
  executed : List Item

/-- The loop of `xrp_queue_process` around `_xrp_dequeue_request`. -/
def xrpQueueProcess (queue : XrpRequestQueue Item) : Reply (XrpRequestQueue Item) (Option Item) :=
  match queue.requestQueue.pop with
  | (some rq, requestQueue) => .done (some rq) { queue with requestQueue }
  | (none, _) => if queue.exit then .done none queue else .wait

/-- What is done while the mutex is held. The last section looks whether the list is empty. -/
def region (s : Section Item) (queue : XrpRequestQueue Item) : Reply (XrpRequestQueue Item) (Option Item) :=
  match s with
  | .push rq => .done none
      { queue with requestQueue := queue.requestQueue.push rq, pushed := queue.pushed ++ [rq] }
  | .process => xrpQueueProcess queue
  | .exit => .done none { queue with exit := true }
  | .check => .done queue.requestQueue.head queue

/-- Which sections broadcast: `xrp_queue_push` only if the list is empty. -/
def broadcasts (s : Section Item) (queue : XrpRequestQueue Item) : Bool :=
  match s with
  | .push _ => queue.requestQueue.tail.isNone
  | .process => false
  | .exit => true
  | .check => false

/-- The section that a thread enters next. -/
def nextSection (l : Local Item) : Option (Section Item) :=
  match l.place with
  | .awaiting => some .process
  | .pushing rq => some (.push rq)
  | .destroying => some .exit
  | .checking => some .check
  | _ => none

/-- How a thread goes on after a section. -/
def resume (t : QueueThread) (l : Local Item) (r : Option Item) : Local Item :=
  match l.place, t with
  | .awaiting, _ => { l with place := .taken r }
  | .pushing _, _ => { l with place := .idle }
  | .destroying, _ => { l with place := .joining }
  | .checking, .worker => { l with place := .returned true }
  | .checking, .client _ => { l with place := .destroyed r.isSome }
  | _, _ => l

/-- The address of a request that `malloc` can return: one that is not on the list, or about to be. -/
def Unused (queue : XrpRequestQueue Item) (locals : QueueThread → Local Item) (rq : Item) : Prop :=
  (∀ items, queue.requestQueue.Holds items → rq ∉ items) ∧ ∀ t, (locals t).place ≠ .pushing rq

/-- Nobody but the thread holds a reference to the queue. -/
def LastReference (locals : QueueThread → Local Item) (t : QueueThread) : Prop :=
  ∀ i, t ≠ .client i → (locals (.client i)).place = .gone

/-- What a thread does outside of the critical sections. A thread joins another one that has ended;
when the worker joins itself, this fails, and `*queue->sync_exit` is set. -/
inductive Outside (queue : XrpRequestQueue Item) (locals : QueueThread → Local Item) :
    QueueThread → Place Item → Place Item → List Item → Prop
  | stop : Outside queue locals .worker (.taken none) .ended []
  | call (rq : Item) : Outside queue locals .worker (.taken (some rq)) .calling [rq]
  | finish : Outside queue locals .worker .calling (.returned false) []
  | again : Outside queue locals .worker (.returned false) .awaiting []
  | exit : Outside queue locals .worker (.returned true) .ended []
  | malloc (i : ℕ) (rq : Item) (hunused : Unused queue locals rq) :
    Outside queue locals (.client i) .idle (.pushing rq) []
  | release (i : ℕ) : Outside queue locals (.client i) .idle .gone []
  | destroyClient (i : ℕ) (hlast : LastReference locals (.client i)) :
    Outside queue locals (.client i) .idle .destroying []
  | destroyWorker (hlast : LastReference locals .worker) :
      Outside queue locals .worker .calling .destroying []
  | join (i : ℕ) (hended : (locals .worker).place = .ended) :
    Outside queue locals (.client i) .joining .checking []
  | detach : Outside queue locals .worker .joining .checking []

/-- The threads of a queue. -/
def queueProgram : Program QueueThread (Local Item) (Section Item) (XrpRequestQueue Item)
    (Option Item) where
  region := region
  broadcasts := broadcasts
  op := fun _ => nextSection
  resume := resume
  outside := fun t queue locals l => ∃ place calls, Outside queue locals t (locals t).place place calls ∧
    l = ⟨place, (locals t).executed ++ calls⟩

/-- `xrp_queue_init`: the list is empty, and some clients hold references. -/
def start (clients : ℕ) : Atomic QueueThread (Local Item) (XrpRequestQueue Item) where
  object := ⟨⟨fun _ => none, none, none⟩, false, []⟩
  locals := fun t =>
    match t with
    | .worker => ⟨.awaiting, []⟩
    | .client i => ⟨if i < clients then .idle else .gone, []⟩

end HailoDsp.Xrp.RequestQueue
