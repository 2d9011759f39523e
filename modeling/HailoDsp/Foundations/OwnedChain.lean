import Mathlib.Data.List.Nodup
import Mathlib.Logic.Function.Basic

/-!
# Linked lists whose owners stand one place earlier

A doubly linked list of nodes that belong to owners. The owner and the address of a node are held
by what stands before it: the node before, or the head of the list. An owner takes its own node out
without a walk along the list, by asking what stands before whether it names this owner.

`Represents` says which list of owners and nodes the memory holds. `push` and `remove` are the
operations as a program does them, with every address they follow checked.
-/

namespace OwnedChain

variable {G P : Type}

/-- A node: the owner and the address of the next node, and the address of the node before. -/
structure Node (G P : Type) where
  owner : Option G
  next : Option P
  prev : Option P

/-- What names the first node of a list: its owner and its address. -/
abbrev Head (G P : Type) := Option G × Option P

/-- The node as the head of the rest of the list. -/
def Node.head (node : Node G P) : Head G P := (node.owner, node.next)

/-- The nodes that stand in memory. -/
abbrev Nodes (G P : Type) := P → Option (Node G P)

/-- The nodes from a head up to another one, and the node that stands before the first of them. -/
def Chained (nodes : Nodes G P) (last : Head G P) : Option P → Head G P → List (G × P) → Prop
  | _, head, [] => head = last
  | prev, head, (g, p) :: rest => head = (some g, some p) ∧
      ∃ node, nodes p = some node ∧ node.prev = prev ∧ Chained nodes last (some p) node.head rest

/-- The memory holds the list. -/
def Represents (nodes : Nodes G P) (head : Head G P) (entries : List (G × P)) : Prop :=
  Chained nodes (none, none) none head entries

/-- The last node of a list, which stands before what follows it. -/
def lastNode : Option P → List (G × P) → Option P
  | prev, [] => prev
  | _, (_, p) :: rest => lastNode (some p) rest

section Operations

variable [DecidableEq P]

/-- `if (p) p->prev = prev`, which needs a node at the address. -/
def setPrev (nodes : Nodes G P) (p prev : Option P) : Option (Nodes G P) :=
  match p with
  | none => some nodes
  | some p => (nodes p).map fun node => Function.update nodes p (some { node with prev := prev })

/-- Put a node in front. The node before it is not written, and is NULL in a new node. -/
def push (nodes : Nodes G P) (head : Head G P) (g : G) (p : P) : Option (Nodes G P × Head G P) := do
  let node ← nodes p
  let nodes := Function.update nodes p (some { node with owner := head.1, next := head.2 })
  let nodes ← setPrev nodes head.2 (some p)
  return (nodes, (some g, some p))

/-- `if (node->prev && node->prev->owner == g)`: let what stands before a node name what follows it.
If the node before names another owner, nothing is written, and this is reported. -/
def setNext [DecidableEq G] (nodes : Nodes G P) (g : G) (node : Node G P) : Option (Nodes G P × Bool) :=
  match node.prev with
  | none => some (nodes, true)
  | some r => (nodes r).map fun before =>
      if before.owner = some g then
        (Function.update nodes r (some { before with owner := node.owner, next := node.next }), true)
      else
        (nodes, false)

/-- Take the node of an owner out. -/
def remove [DecidableEq G] (nodes : Nodes G P) (head : Head G P) (g : G) (p : P) :
    Option (Nodes G P × Head G P × Bool) := do
  let node ← nodes p
  let head := if head.1 = some g then node.head else head
  let nodes ← setPrev nodes node.next node.prev
  let node ← nodes p
  (setNext nodes g node).map fun written => (written.1, head, written.2)

end Operations

section Chains

variable {nodes nodes' : Nodes G P} {head last : Head G P} {prev : Option P} {entries : List (G × P)}

/-- Two lists, one behind the other. -/
theorem chained_append {first second : List (G × P)} : Chained nodes last prev head (first ++ second) ↔
    ∃ mid, Chained nodes mid prev head first ∧ Chained nodes last (lastNode prev first) mid second := by
  induction first generalizing prev head with
  | nil => exact ⟨fun h => ⟨head, rfl, h⟩, fun ⟨_, hmid, h⟩ => hmid ▸ h⟩
  | cons entry rest ih =>
    obtain ⟨g, p⟩ := entry
    constructor
    · rintro ⟨hhead, node, hnode, hprev, hrest⟩
      obtain ⟨mid, hfirst, hsecond⟩ := ih.mp hrest
      exact ⟨mid, ⟨hhead, node, hnode, hprev, hfirst⟩, hsecond⟩
    · rintro ⟨mid, ⟨hhead, node, hnode, hprev, hfirst⟩, hsecond⟩
      exact ⟨hhead, node, hnode, hprev, ih.mpr ⟨mid, hfirst, hsecond⟩⟩

/-- The last node of two lists, one behind the other. -/
theorem lastNode_append (first second : List (G × P)) :
    lastNode prev (first ++ second) = lastNode (lastNode prev first) second := by
  induction first generalizing prev with
  | nil => rfl
  | cons entry rest ih => exact ih

/-- Only the nodes of a list matter for it. -/
theorem Chained.congr (h : Chained nodes last prev head entries)
    (hsame : ∀ entry ∈ entries, nodes' entry.2 = nodes entry.2) :
    Chained nodes' last prev head entries := by
  induction entries generalizing prev head with
  | nil => exact h
  | cons entry rest ih =>
    obtain ⟨g, p⟩ := entry
    obtain ⟨hhead, node, hnode, hprev, hrest⟩ := h
    have hp : nodes' p = nodes p := hsame (g, p) List.mem_cons_self
    have hrest' := ih hrest fun entry hentry => hsame entry (List.mem_cons_of_mem _ hentry)
    exact ⟨hhead, node, hp.trans hnode, hprev, hrest'⟩

/-- A node outside a list is none of its nodes. -/
theorem ne_of_notMem {p : P} (hp : p ∉ entries.map Prod.snd) {entry : G × P} (hentry : entry ∈ entries) :
    entry.2 ≠ p := by
  intro heq
  subst heq
  exact hp (List.mem_map_of_mem hentry)

/-- The owner at the head of a list that is not empty. -/
theorem Chained.head_owner (h : Chained nodes last prev head entries) (hne : entries ≠ []) :
    ∃ entry ∈ entries, head.1 = some entry.1 := by
  cases entries with
  | nil => exact absurd rfl hne
  | cons entry rest => exact ⟨entry, List.mem_cons_self, congrArg Prod.fst h.1⟩

/-- The last node of a list names what follows. -/
theorem Chained.names_last {g : G} {r : P} (h : Chained nodes last prev head (entries ++ [(g, r)])) :
    ∃ node, nodes r = some node ∧ node.head = last := by
  obtain ⟨mid, -, -, node, hnode, -, hlast⟩ := chained_append.mp h
  exact ⟨node, hnode, hlast⟩

variable [DecidableEq P]

/-- What a change of nodes leaves alone: the nodes outside a list, and which addresses have a node. -/
structure Keeps (nodes nodes' : Nodes G P) (touched : List P) : Prop where
  outside : ∀ p, p ∉ touched → nodes' p = nodes p
  isSome : ∀ p, (nodes' p).isSome = (nodes p).isSome

/-- Writing the node before the first node of a list. -/
theorem Chained.setPrev (h : Chained nodes last prev head entries) (hlast : last.2 = none)
    (hnodup : (entries.map Prod.snd).Nodup) (prev' : Option P) :
    ∃ nodes', setPrev nodes head.2 prev' = some nodes' ∧ Chained nodes' last prev' head entries ∧
      Keeps nodes nodes' (entries.map Prod.snd) := by
  cases entries with
  | nil =>
    obtain rfl : head = last := h
    exact ⟨nodes, by simp [OwnedChain.setPrev, hlast], rfl, fun _ _ => rfl, fun _ => rfl⟩
  | cons entry rest =>
    obtain ⟨g, p⟩ := entry
    obtain ⟨rfl, node, hnode, -, hrest⟩ := h
    have hp : p ∉ rest.map Prod.snd := (List.nodup_cons.mp hnodup).1
    refine ⟨Function.update nodes p (some { node with prev := prev' }), ?_, ?_, ?_, ?_⟩
    · simp [OwnedChain.setPrev, hnode]
    · refine ⟨rfl, _, Function.update_self .., rfl, hrest.congr fun entry hentry => ?_⟩
      exact Function.update_of_ne (ne_of_notMem hp hentry) _ _
    · intro q hq
      rw [List.map_cons, List.mem_cons, not_or] at hq
      exact Function.update_of_ne hq.1 _ _
    · intro q
      by_cases hq : q = p
      · subst hq
        simp [hnode]
      · rw [Function.update_of_ne hq]

/-- Writing what follows the last node of a list. -/
theorem Chained.setLast {g : G} {r : P} {before : Node G P} (last' : Head G P)
    (h : Chained nodes last prev head (entries ++ [(g, r)])) (hbefore : nodes r = some before)
    (hr : r ∉ entries.map Prod.snd) :
    Chained (Function.update nodes r (some { before with owner := last'.1, next := last'.2 }))
      last' prev head
      (entries ++ [(g, r)]) := by
  obtain ⟨mid, hfirst, hmid, node, hnode, hprev, -⟩ := chained_append.mp h
  obtain rfl : node = before := Option.some_inj.mp (hnode.symm.trans hbefore)
  refine chained_append.mpr ⟨mid, hfirst.congr fun entry hentry => ?_, hmid, _,
    Function.update_self .., hprev, rfl⟩
  exact Function.update_of_ne (ne_of_notMem hr hentry) _ _

end Chains

section Lists

variable {nodes : Nodes G P} {head : Head G P} {entries : List (G × P)} [DecidableEq P] {g : G} {p : P}

/-- A node is put in front of the list. -/
theorem Represents.push {node : Node G P} (h : Represents nodes head entries)
    (hnodup : (entries.map Prod.snd).Nodup) (hnode : nodes p = some node) (hprev : node.prev = none)
    (hp : p ∉ entries.map Prod.snd) :
    ∃ nodes', push nodes head g p = some (nodes', (some g, some p)) ∧
      Represents nodes' (some g, some p) ((g, p) :: entries) ∧ Keeps nodes nodes'
      (p :: entries.map Prod.snd) := by
  let pushed : Node G P := { node with owner := head.1, next := head.2 }
  have hlinked : Represents (Function.update nodes p (some pushed)) head entries :=
    h.congr fun entry hentry => Function.update_of_ne (ne_of_notMem hp hentry) _ _
  obtain ⟨nodes', hset, hrest, hkeeps⟩ := hlinked.setPrev rfl hnodup (some p)
  refine ⟨nodes', ?_, ⟨rfl, pushed, ?_, hprev, hrest⟩, ?_, ?_⟩
  · simp [OwnedChain.push, hnode, hset, pushed]
  · rw [hkeeps.outside p hp, Function.update_self]
  · intro q hq
    obtain ⟨hqp, hq⟩ := not_or.mp (List.mem_cons.not.mp hq)
    rw [hkeeps.outside q hq, Function.update_of_ne hqp]
  · intro q
    rw [hkeeps.isSome]
    by_cases hq : q = p
    · subst hq
      simp [hnode]
    · rw [Function.update_of_ne hq]

variable [DecidableEq G]

/-- What is done to take a node out, once the node after it is known not to be the node itself. -/
theorem remove_eq {node : Node G P} {nodes' : Nodes G P} (hnode : nodes p = some node)
    (hset : setPrev nodes node.next node.prev = some nodes') (hsame : nodes' p = some node) :
    OwnedChain.remove nodes head g p = (setNext nodes' g node).map fun written =>
      (written.1, if head.1 = some g then node.head else head, written.2) := by
  simp only [OwnedChain.remove, hnode, hset, hsame, Option.bind_eq_bind, Option.bind_some]

/-- The first node is taken out of the list. -/
theorem Represents.removeFirst (h : Represents nodes head ((g, p) :: entries))
    (hnodup : (((g, p) :: entries).map Prod.snd).Nodup) :
    ∃ nodes' head', remove nodes head g p = some (nodes', head', true) ∧
      Represents nodes' head' entries ∧ Keeps nodes nodes' (entries.map Prod.snd) := by
  obtain ⟨rfl, node, hnode, hprev, hrest⟩ := h
  obtain ⟨hp, hnodup⟩ := List.nodup_cons.mp hnodup
  obtain ⟨nodes', hset, hrest', hkeeps⟩ := hrest.setPrev rfl hnodup node.prev
  have hsame : nodes' p = some node := (hkeeps.outside p hp).trans hnode
  refine ⟨nodes', node.head, ?_, ?_, hkeeps⟩
  · rw [remove_eq hnode hset hsame]
    simp [setNext, hprev]
  · rwa [hprev] at hrest'

/-- A node that is not the first is taken out of the list. -/
theorem Represents.removeInner {first : List (G × P)} {g' : G} {r : P}
    (h : Represents nodes head ((first ++ [(g', r)]) ++ (g, p) :: entries))
    (hnodup : (((first ++ [(g', r)]) ++ (g, p) :: entries).map Prod.snd).Nodup)
    (howner : g ∉ (first ++ [(g', r)]).map Prod.fst) :
    ∃ nodes', remove nodes head g p = some (nodes', head, true) ∧
      Represents nodes' head ((first ++ [(g', r)]) ++ entries) ∧
      Keeps nodes nodes' (((first ++ [(g', r)]) ++ entries).map Prod.snd) := by
  obtain ⟨mid, hfirst, rfl, node, hnode, hprev, hrest⟩ := chained_append.mp h
  rw [lastNode_append] at hprev
  change node.prev = some r at hprev
  rw [List.map_append, List.nodup_append] at hnodup
  obtain ⟨hnodupFirst, hnodupRest, hdisjoint⟩ := hnodup
  obtain ⟨hp, hnodupRest⟩ := List.nodup_cons.mp hnodupRest
  have hr : r ∈ (first ++ [(g', r)]).map Prod.snd := by simp
  have hrp : r ≠ p := hdisjoint r hr p List.mem_cons_self
  obtain ⟨nodes', hset, hrest', hkeeps⟩ := hrest.setPrev rfl hnodupRest node.prev
  have hsame : nodes' p = some node := (hkeeps.outside p hp).trans hnode
  have hkept : Chained nodes' (some g, some p) none head (first ++ [(g', r)]) :=
    hfirst.congr fun entry hentry => hkeeps.outside _ fun hmem =>
      hdisjoint _ (List.mem_map_of_mem hentry) _ (List.mem_cons_of_mem _ hmem) rfl
  obtain ⟨before, hbefore, hnames⟩ := hkept.names_last
  have hrFirst : r ∉ first.map Prod.snd := by
    rw [List.map_append, List.nodup_append] at hnodupFirst
    exact fun hmem => hnodupFirst.2.2 r hmem r List.mem_cons_self rfl
  have hrRest : r ∉ entries.map Prod.snd := fun hmem => hdisjoint r hr r (List.mem_cons_of_mem _ hmem) rfl
  have hhead : head.1 ≠ some g := by
    obtain ⟨entry, hentry, hhead⟩ := hfirst.head_owner (by simp)
    rw [hhead]
    exact fun heq => howner (Option.some_inj.mp heq ▸ List.mem_map_of_mem hentry)
  have howned : before.owner = some g := congrArg Prod.fst hnames
  refine ⟨Function.update nodes' r (some { before with owner := node.owner, next := node.next }),
    ?_, ?_, ?_, ?_⟩
  · rw [remove_eq hnode hset hsame]
    simp [setNext, hprev, hbefore, howned, hhead]
  · refine chained_append.mpr ⟨node.head, hkept.setLast node.head hbefore hrFirst, ?_⟩
    rw [lastNode_append]
    rw [hprev] at hrest'
    exact hrest'.congr fun entry hentry => Function.update_of_ne (ne_of_notMem hrRest hentry) _ _
  · intro q hq
    rw [List.map_append, List.mem_append, not_or] at hq
    have hqr : q ≠ r := fun heq => hq.1 (heq ▸ hr)
    rw [Function.update_of_ne hqr, hkeeps.outside q hq.2]
  · intro q
    rw [← hkeeps.isSome]
    by_cases hq : q = r
    · subst hq
      simp [hbefore]
    · rw [Function.update_of_ne hq]

/-- The node of an owner is taken out of the list, wherever it stands. -/
theorem Represents.remove {first : List (G × P)} (h : Represents nodes head (first ++ (g, p) :: entries))
    (hnodup : ((first ++ (g, p) :: entries).map Prod.snd).Nodup) (howner : g ∉ first.map Prod.fst) :
    ∃ nodes' head', remove nodes head g p = some (nodes', head', true) ∧
      Represents nodes' head' (first ++ entries) ∧
      Keeps nodes nodes' ((first ++ entries).map Prod.snd) := by
  rcases List.eq_nil_or_concat' first with rfl | ⟨first, ⟨g', r⟩, rfl⟩
  · exact h.removeFirst hnodup
  · obtain ⟨nodes', hremove, hrest⟩ := h.removeInner hnodup howner
    exact ⟨nodes', head, hremove, hrest⟩

end Lists

end OwnedChain
