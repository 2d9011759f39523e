import HailoDsp.Foundations.OwnedChain
import HailoDsp.Xrp.Objects

/-!
# Waiting for one of several events

`xrp_wait_any` of `xrp_threaded_queue.c`, and the part of `xrp_impl_broadcast_event` that serves it.
A thread makes an event of its own, the group, and puts it on a list of every event it waits for; the
list of an event is in the links, and the group of a link stands one place earlier, the first one in
the event. A broadcast signals the event and then every group on its list.

What is done while a mutex is held is one step, except for a broadcast: it holds the mutex of its
event from group to group, and other threads run in between. The condition variable of an event is
abstracted: writing the status is the wake-up, and a thread waits as long as the status is pending.
Events are not freed here: those that are waited for are kept by the references of the threads that
wait.
-/

namespace HailoDsp.Xrp.WaitAny

open OwnedChain

/-- A pointer to an event: one that was created, or the variable `group` on the stack of a thread. -/
inductive EventPtr
  | event (e : ℕ)
  | group (t : ℕ)
  deriving DecidableEq

/-- A pointer `link + i` into an array of links. -/
structure LinkPtr where
  link : ℕ
  index : ℕ
  deriving DecidableEq

/-- `struct xrp_event_link` -/
abbrev XrpEventLink := Node EventPtr LinkPtr

/-- `struct xrp_event`, as far as it serves `xrp_wait_any`, and the thread that holds its mutex. -/
structure XrpEvent where
  status : XrpStatus
  group : Option EventPtr
  link : Option LinkPtr
  holder : Option ℕ
  deriving DecidableEq

/-- The argument of `xrp_wait_any`, and what `calloc` has returned for the links. -/
structure WaitCall where
  event : List ℕ
  link : Option ℕ
  deriving DecidableEq

/-- How far a thread has come: in the first loop of `xrp_wait_any`, in `xrp_wait`, in the second
loop, behind it, or in the loop of `xrp_impl_broadcast_event`. -/
inductive Position
  | outside
  | registering (call : WaitCall) (i : ℕ)
  | waiting (call : WaitCall)
  | unregistering (call : WaitCall) (nEvents i rv : ℕ)
  | returned (event : List ℕ) (status : XrpStatus) (rv : ℕ)
  | broadcasting (event : ℕ) (status : XrpStatus) (group : Option EventPtr) (link : Option LinkPtr)
  deriving DecidableEq

/-- What the threads share, where they are, and how often `inconsistent link state` was reported. -/
structure WaitState where
  events : EventPtr → Option XrpEvent
  links : LinkPtr → Option XrpEventLink
  position : ℕ → Position
  reports : ℕ

/-- A step of a thread has no defined result, has to wait, or leads to a state. -/
inductive Outcome
  | fault
  | wait
  | next (s : WaitState)

section Updates

/-- Write an event. -/
def WaitState.setEvent (s : WaitState) (e : EventPtr) (event : Option XrpEvent) : WaitState :=
  { s with events := Function.update s.events e event }

/-- Write the links. -/
def WaitState.setLinks (s : WaitState) (links : LinkPtr → Option XrpEventLink) : WaitState :=
  { s with links }

/-- Let a thread go on. -/
def WaitState.goto (s : WaitState) (t : ℕ) (position : Position) : WaitState :=
  { s with position := Function.update s.position t position }

/-- A step that follows a pointer to an event. -/
def WaitState.deref (s : WaitState) (e : EventPtr) (f : XrpEvent → Outcome) : Outcome :=
  match s.events e with
  | some event => f event
  | none => .fault

/-- A step that takes the mutex of an event that was created. -/
def WaitState.lock (s : WaitState) (e : ℕ) (f : XrpEvent → Outcome) : Outcome :=
  s.deref (.event e) fun event => if event.holder = none then f event else .wait

/-- A step with a result that may be missing. -/
def Outcome.ofOption (s : Option WaitState) : Outcome := s.elim .fault .next

end Updates

section Steps

/-- The links that `calloc` returns for a call, all of them zero. -/
def WaitState.calloc (s : WaitState) (link : Option ℕ) (nEvents : ℕ) : WaitState :=
  s.setLinks fun p => if some p.link = link ∧ p.index < nEvents then some ⟨none, none, none⟩ else s.links p

/-- `free(link)` -/
def WaitState.freeLinks (s : WaitState) (link : Option ℕ) : WaitState :=
  s.setLinks fun p => if some p.link = link then none else s.links p

/-- The start of `xrp_wait_any`, which initialises two fields of the variable `group`. -/
def xrpWaitAny (s : WaitState) (t : ℕ) (event : List ℕ) (link : Option ℕ) (group : XrpEvent) : WaitState :=
  if event = [] then
    s.goto t (.returned event .failure 0)
  else
    ((s.calloc link event.length).setEvent (.group t)
      (some { group with status := .pending, holder := none })).goto t
      (.registering ⟨event, link⟩ 0)

/-- `link[i].group = event[i]->group; ...; event[i]->link = link + i` -/
def registerLink (s : WaitState) (t e i : ℕ) (event : XrpEvent) (link : ℕ) : Option WaitState := do
  let (links, head) ← push s.links (event.group, event.link) (.group t) ⟨link, i⟩
  return (s.setLinks links).setEvent (.event e) (some { event with group := head.1, link := head.2 })

/-- One round of the first loop of `xrp_wait_any`, or its end. Without memory for the links the
first one is at the address NULL. -/
def registerEvent (s : WaitState) (t : ℕ) (call : WaitCall) (i : ℕ) : Outcome :=
  match call.event[i]? with
  | none => .next (s.goto t (.waiting call))
  | some e => s.lock e fun event =>
      if event.status = .pending then
        .ofOption do
          let link ← call.link
          let s ← registerLink s t e i event link
          return s.goto t (.registering call (i + 1))
      else
        .next (s.goto t (.unregistering call i 0 i))

/-- `xrp_wait(&group, NULL)`: the mutex of a group is held by no thread between steps. -/
def waitGroup (s : WaitState) (t : ℕ) (call : WaitCall) : Outcome :=
  s.deref (.group t) fun group =>
    if group.status = .pending then
      .wait
    else
      .next (s.goto t (.unregistering call call.event.length 0 call.event.length))

/-- `if (event[i]->group == &group) ...; if (link[i].next) ...; if (link[i].prev) ...` -/
def unregisterLink (s : WaitState) (t e i : ℕ) (event : XrpEvent) (link : ℕ) : Option WaitState := do
  let (links, head, consistent) ← remove s.links (event.group, event.link) (.group t) ⟨link, i⟩
  let s := if consistent then s else { s with reports := s.reports + 1 }
  return (s.setLinks links).setEvent (.event e) (some { event with group := head.1, link := head.2 })

/-- One round of the second loop of `xrp_wait_any`, or what is done after the loop. -/
def unregisterEvent (s : WaitState) (t : ℕ) (call : WaitCall) (nEvents i rv : ℕ) : Outcome :=
  if i < nEvents then
    match call.event[i]? with
    | none => .fault
    | some e => s.lock e fun event =>
        .ofOption do
          let link ← call.link
          let s ← unregisterLink s t e i event link
          return s.goto t (.unregistering call nEvents (i + 1) (if event.status ≠ .pending then i else rv))
  else
    .next (((s.setEvent (.group t) none).freeLinks call.link).goto t (.returned call.event .success rv))

/-- The start of `xrp_impl_broadcast_event`. -/
def xrpImplBroadcastEvent (s : WaitState) (t e : ℕ) (status : XrpStatus) : Outcome :=
  s.lock e fun event =>
    .next ((s.setEvent (.event e) (some { event with status, holder := some t })).goto t
      (.broadcasting e status event.group event.link))

/-- One round of the loop of `xrp_impl_broadcast_event`, or what is done after the loop. -/
def broadcastGroup (s : WaitState) (t e : ℕ) (status : XrpStatus) (group : Option EventPtr)
    (link : Option LinkPtr) :
    Outcome :=
  match link with
  | none => s.deref (.event e) fun event =>
      .next ((s.setEvent (.event e) (some { event with holder := none })).goto t .outside)
  | some p => .ofOption do
      let group ← group
      let event ← s.events group
      let node ← s.links p
      return (s.setEvent group (some { event with status })).goto t
        (.broadcasting e status node.owner node.next)

/-- The next step of a thread that is inside of a function. -/
def advance (s : WaitState) (t : ℕ) : Outcome :=
  match s.position t with
  | .outside => .wait
  | .registering call i => registerEvent s t call i
  | .waiting call => waitGroup s t call
  | .unregistering call nEvents i rv => unregisterEvent s t call nEvents i rv
  | .returned _ _ _ => .wait
  | .broadcasting e status group link => broadcastGroup s t e status group link

end Steps

section Runs

/-- A thread that is not inside of a function. -/
def Position.Idle : Position → Prop
  | .outside => True
  | .returned _ _ _ => True
  | _ => False

instance : DecidablePred Position.Idle := fun position =>
  match position with
  | .outside => inferInstanceAs (Decidable True)
  | .returned _ _ _ => inferInstanceAs (Decidable True)
  | .registering _ _ => inferInstanceAs (Decidable False)
  | .waiting _ => inferInstanceAs (Decidable False)
  | .unregistering _ _ _ _ => inferInstanceAs (Decidable False)
  | .broadcasting _ _ _ _ => inferInstanceAs (Decidable False)

/-- One step of some thread. Events that are given to the functions exist, `calloc` returns an array
that is not in use, the events of a call differ from one another, and a broadcast does not make an
event pending. -/
inductive Step : WaitState → WaitState → Prop
  | create {s : WaitState} (e : ℕ) (hfresh : s.events (.event e) = none) :
    Step s (s.setEvent (.event e) (some ⟨.pending, none, none, none⟩))
  | call {s : WaitState} (t : ℕ) (event : List ℕ) (link : Option ℕ) (group : XrpEvent)
      (hidle : (s.position t).Idle) (hlive : ∀ e ∈ event, s.events (.event e) ≠ none)
      (hunused : ∀ p : LinkPtr, some p.link = link → s.links p = none) (hdistinct : event.Nodup) :
    Step s (xrpWaitAny s t event link group)
  | broadcast {s s' : WaitState} (t e : ℕ) (status : XrpStatus) (hidle : (s.position t).Idle)
      (hstatus : status ≠ .pending) (hnext : xrpImplBroadcastEvent s t e status = .next s') : Step s s'
  | advance {s s' : WaitState} (t : ℕ) (hnext : advance s t = .next s') : Step s s'

/-- No event, no link, and no thread inside of a function. -/
def WaitState.start : WaitState := ⟨fun _ => none, fun _ => none, fun _ => .outside, 0⟩

/-- A state that the threads can get to. -/
def Reachable (s : WaitState) : Prop := Relation.ReflTransGen Step .start s

end Runs

end HailoDsp.Xrp.WaitAny
