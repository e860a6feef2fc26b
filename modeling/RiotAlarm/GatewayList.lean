import RiotAlarm.Types
import RiotAlarm.LinkedHeap

/-! The gateway's actuator list: insertion at the head, deletion by name, the two
searches and the traversals, on linked cells, and what they do to the list of
(name, remote) pairs that the cells stand for. -/
namespace RiotAlarm.Gateway

open LinkedHeap

structure ActuatorEntry where
  name : CString
  remote : SockUdpEp
  next : Pointer

instance : Linked ActuatorEntry := ⟨ActuatorEntry.next⟩

namespace Actuators

/-- The list head together with the heap its entries live on. -/
structure Cells where
  heap : Heap ActuatorEntry
  head : Pointer

/-- `insert_node`. The block allocated first is lost when `link` is overwritten. -/
def insertNode (l : Cells) (node : Nat) : Option Cells := do
  let entry ← l.heap.cells node
  let heap ← (l.heap.malloc entry).modify node fun entry => { entry with next := l.head }
  return { heap, head := some node }

/-- Where the loop of `delete_node` leaves `current` and `previous`, or `none` when
the last node is passed. -/
def deleteLoop (cells : Nat → Option ActuatorEntry) (name : CString) :
    Nat → Nat → Pointer → Option (Option (Nat × Pointer))
  | 0, _, _ => none
  | fuel + 1, current, previous =>
    match cells current with
    | none => none
    | some entry =>
      if strcmp entry.name name ≠ 0 then
        match entry.next with
        | none => some none
        | some next => deleteLoop cells name fuel next (some current)
      else some (some (current,previous))

/-- Result code, and the endpoints that a deregister message was sent to. The node
itself is never released. -/
def deleteNode (l : Cells) (name : CString) : Option (Cells × Nat × List SockUdpEp) := do
  match l.head with
  | none => return (l,1,[])
  | some first =>
    match ← deleteLoop l.heap.cells name (l.heap.limit + 1) first none with
    | none => return (l,1,[])
    | some (current,previous) =>
      let entry ← l.heap.cells current
      if current = first then
        return ({ l with head := entry.next },0,[entry.remote])
      let p ← previous
      let heap ← l.heap.modify p fun before => { before with next := entry.next }
      return ({ l with heap },0,[entry.remote])

def matchingNode (name : CString) (entry : ActuatorEntry) : Bool := strcmp entry.name name == 0

/-- The node found, or NULL. -/
def getNode (l : Cells) (name : CString) : Option Pointer := do
  let found ← seek l.heap.cells (matchingNode name) (l.heap.limit + 1) ⟨l.head,none,0⟩
  return found.entry

/-- 0 when the name is in the list, 1 when it is not. -/
def nodeExists (l : Cells) (name : CString) : Option Nat := do
  let found ← seek l.heap.cells (matchingNode name) (l.heap.limit + 1) ⟨l.head,none,0⟩
  return if found.entry = none then 1 else 0

/-- The loop of `traverse_and_fire`, `traverse_and_off` and `display_actuators`, with
what each of them does at a node. -/
def traverse (l : Cells) (act : ActuatorEntry → β) : Option (List β) :=
  each (fun _ => l.heap.cells)
    (fun acted ptr => (l.heap.cells ptr).map fun entry => acted ++ [act entry])
    (l.heap.limit + 1) [] l.head

def malloc (l : Cells) (entry : ActuatorEntry) : Cells := { l with heap := l.heap.malloc entry }

/-- The allocation and initialisation of `add_actuator_entry`, then its `insert_node`. -/
def insertNew (l : Cells) (name : CString) (remote : SockUdpEp) : Option Cells :=
  insertNode (malloc l { name, remote, next := none }) l.heap.limit

/-! The list that the cells stand for. -/

def pair (cells : Nat → Option ActuatorEntry) (a : Nat) : Option (CString × SockUdpEp) :=
  (cells a).map fun entry => (entry.name,entry.remote)

def chain (l : Cells) : List Nat := follow l.heap.cells l.heap.limit l.head

def toList (l : Cells) : List (CString × SockUdpEp) := (chain l).filterMap (pair l.heap.cells)

def Sound (l : Cells) : Prop := Chain l.heap.cells l.head (chain l)

/-- A node with nothing behind it. -/
def Ends (cells : Nat → Option ActuatorEntry) (a : Nat) : Prop := ∃ entry, cells a = some entry ∧ entry.next = none

theorem sound_of {l : Cells} (linked : Chain l.heap.cells l.head nodes) :
    Sound l ∧ chain l = nodes := by
  have same : chain l = nodes := linked.follow_eq (linked.length_le l.heap)
  exact ⟨by rw [Sound, same]; exact linked, same⟩

theorem pair_cell {cells : Nat → Option ActuatorEntry} (here : cells a = some entry) :
    pair cells a = some (entry.name,entry.remote) := by simp [pair, here]

theorem below {l : Cells} (sound : Sound l) (inChain : a ∈ chain l) : a < l.heap.limit := by
  obtain ⟨entry, here⟩ := Chain.cell sound inChain
  exact l.heap.lt_limit here

/-- The new node stands in front of the chain, and the cells that were there keep what
they say. Two blocks are taken, one of them for the link that is overwritten. -/
theorem insertNew_frame {l : Cells} (sound : Sound l) (name : CString) (remote : SockUdpEp) :
    ∃ l', insertNew l name remote = some l' ∧ Sound l' ∧ chain l' = l.heap.limit :: chain l ∧
      l'.heap.cells l.heap.limit = some { name, remote, next := l.head } ∧
      (∀ a entry, l.heap.cells a = some entry → l'.heap.cells a = some entry) ∧
      l'.heap.limit = l.heap.limit + 2 ∧ l'.heap.released = l.heap.released := by
  let node : ActuatorEntry := { name, remote, next := none }
  let l₁ := malloc l node
  have here : (l₁.heap.malloc node).cells l.heap.limit = some node := by simp [l₁, malloc]
  obtain ⟨heap, written, cells, limit, released⟩ :=
    (l₁.heap.malloc node).modify_eq (fun entry => { entry with next := l.head }) here
  let l' : Cells := { heap, head := some l.heap.limit }
  have kept : ∀ a entry, l.heap.cells a = some entry → heap.cells a = some entry := by
    intro a entry present
    have low := l.heap.lt_limit present
    have apart : a ≠ l.heap.limit := by omega
    have apart' : a ≠ l.heap.limit + 1 := by omega
    simpa [cells, apart, apart', l₁, malloc, Heap.malloc] using present
  have old : ∀ a ∈ chain l, heap.cells a = l.heap.cells a := by
    intro a member
    obtain ⟨entry, present⟩ := Chain.cell sound member
    rw [kept a entry present, present]
  have link : heap.cells l.heap.limit = some { node with next := l.head } := by simp [cells]
  have tail : Chain heap.cells l.head (chain l) := Chain.frame sound old
  have linked : Chain l'.heap.cells l'.head (l.heap.limit :: chain l) := ⟨rfl, _, link, tail⟩
  obtain ⟨sound', nodes⟩ := sound_of linked
  have first : (malloc l node).heap.cells l.heap.limit = some node := by simp [malloc]
  have run : insertNode l₁ l.heap.limit = some l' := by
    simp only [insertNode, l₁, first, Option.bind_eq_bind, Option.bind_some]
    rw [show (malloc l node).head = l.head from rfl, written]
    rfl
  exact ⟨l', run, sound', nodes, link, kept, limit, released⟩

theorem insertNew_spec {l : Cells} (sound : Sound l) (name : CString) (remote : SockUdpEp) :
    ∃ l', insertNew l name remote = some l' ∧ Sound l' ∧ toList l' = (name,remote) :: toList l ∧
      ∀ a, Ends l.heap.cells a → Ends l'.heap.cells a := by
  obtain ⟨l', run, sound', nodes, first, kept, -⟩ := insertNew_frame sound name remote
  refine ⟨l', run, sound', ?_, fun a ⟨entry, present, last⟩ => ⟨entry, kept a entry present, last⟩⟩
  have same : (chain l).filterMap (pair l'.heap.cells) = (chain l).filterMap (pair l.heap.cells) := by
    apply List.filterMap_congr
    intro a member
    obtain ⟨entry, present⟩ := Chain.cell sound member
    rw [pair_cell present, pair_cell (kept a entry present)]
  rw [toList, nodes, List.filterMap_cons, pair_cell first, same, toList]

/-- The loop of `delete_node` stops at the first node with the name, behind its predecessor. -/
theorem deleteLoop_chain {cells : Nat → Option ActuatorEntry} (name : CString)
    (chained : Chain cells (some a) l) (enough : l.length < fuel) (previous : Pointer) :
    (∃ before c entry after, l = before ++ c :: after ∧ Misses cells (matchingNode name) before ∧
      cells c = some entry ∧ entry.name = name ∧
      deleteLoop cells name fuel a previous = some (some (c,before.getLast?.or previous))) ∨
    (Misses cells (matchingNode name) l ∧ deleteLoop cells name fuel a previous = some none) := by
  induction l generalizing a fuel previous with
  | nil => exact absurd (show some a = none from chained) (by simp)
  | cons b rest ih =>
    obtain ⟨same, entry, here, tail⟩ := chained
    obtain rfl : a = b := Option.some.inj same
    obtain ⟨fuel, rfl⟩ := Nat.exists_eq_succ_of_ne_zero (Nat.ne_of_gt (Nat.zero_lt_of_lt enough))
    by_cases found : entry.name = name
    · exact .inl ⟨[], a, entry, rest, rfl, by simp [Misses], here, found, by simp [deleteLoop, here, found]⟩
    have missHere : ∀ y, cells a = some y → matchingNode name y = false := by
      intro y there
      have same : entry = y := Option.some.inj (here.symm.trans there)
      simpa [matchingNode, ← same] using found
    cases rest with
    | nil =>
      have last : entry.next = none := tail
      exact .inr ⟨.cons missHere (by simp [Misses]), by simp [deleteLoop, here, found, last]⟩
    | cons c after =>
      have next : entry.next = some c := tail.1
      have advance : deleteLoop cells name (fuel + 1) a previous = deleteLoop cells name fuel c (some a) := by
        simp [deleteLoop, here, found, next]
      have tail' : Chain cells (some c) (c :: after) := next ▸ tail
      rcases ih tail' (by simpa using enough) (some a) with
        ⟨before, d, x, last, split, missed, there, named, run⟩ | ⟨missed, run⟩
      · refine .inl ⟨a :: before, d, x, last, by simp [split], .cons missHere missed, there, named, ?_⟩
        rw [advance, run]
        cases before <;> simp [List.getLast?_cons]
      · exact .inr ⟨.cons missHere missed, advance.trans run⟩

/-- Nodes that a search by name passes over stand for pairs with other names. -/
theorem misses_pairs {cells : Nat → Option ActuatorEntry} {l : List Nat}
    (missed : Misses cells (matchingNode name) l) : ∀ r ∈ l.filterMap (pair cells), r.1 ≠ name := by
  intro r member same
  obtain ⟨a, inChain, read⟩ := List.mem_filterMap.mp member
  obtain ⟨entry, here, rfl⟩ := Option.map_eq_some_iff.mp read
  have miss := missed a inChain entry here
  simp [matchingNode] at miss
  exact miss same

theorem find_pair {before after : List (CString × SockUdpEp)} (other : ∀ r ∈ before, r.1 ≠ name) :
    (before ++ (name,remote) :: after).find? (·.1 = name) = some (name,remote) := by
  rw [List.find?_append, List.find?_eq_none.mpr (by simpa using other)]
  simp

/-- `previous->next = current->next` takes `current` out of the chain and leaves what
the other nodes say as it was. -/
theorem unlink {l : Cells} (linked : Chain l.heap.cells l.head (front ++ p :: c :: after))
    (here : l.heap.cells c = some entry) :
    ∃ heap, l.heap.modify p (fun before => { before with next := entry.next }) = some heap ∧
      Chain heap.cells l.head (front ++ p :: after) ∧ (∀ b, pair heap.cells b = pair l.heap.cells b) ∧
      ∀ a, Ends l.heap.cells a → Ends heap.cells a := by
  obtain ⟨previous, there, behind⟩ := linked.suffix
  obtain ⟨next, x, present, tail⟩ := behind
  obtain rfl : entry = x := Option.some.inj (here.symm.trans present)
  obtain ⟨heap, written, cells, _⟩ :=
    l.heap.modify_eq (fun before => { before with next := entry.next }) there
  have link : heap.cells p = some { previous with next := entry.next } := by simp [cells]
  have distinct := linked.nodup
  obtain ⟨_, tailDistinct, apart⟩ := List.nodup_append.mp distinct
  have beforeApart : ∀ b ∈ front, heap.cells b = l.heap.cells b := by
    intro b member
    have differ : b ≠ p := apart b member p (by simp)
    simp [cells, differ]
  have afterApart : ∀ b ∈ after, heap.cells b = l.heap.cells b := by
    intro b member
    have differ : b ≠ p := by
      rintro rfl
      exact (List.nodup_cons.mp tailDistinct).1 (by simp [member])
    simp [cells, differ]
  refine ⟨heap, written, linked.relink beforeApart link (tail.frame afterApart), ?_, ?_⟩
  · intro b
    by_cases same : b = p
    · subst same
      simp [pair, link, there]
    · simp [pair, cells, same]
  · intro a ⟨last, present, stops⟩
    have differ : a ≠ p := by
      rintro rfl
      obtain rfl : previous = last := Option.some.inj (there.symm.trans present)
      exact absurd (stops.symm.trans next) (by simp)
    exact ⟨last, by simp [cells, differ, present], stops⟩

/-- What taking `c` out of the list leaves: the nodes say what they said, and the only
link that moved, if any did, is the one that led to `c`. -/
structure Unlinked (l : Cells) (c : Nat) (entry : ActuatorEntry) (l' : Cells) : Prop where
  pairs : ∀ b, pair l'.heap.cells b = pair l.heap.cells b
  ends : ∀ a, Ends l.heap.cells a → Ends l'.heap.cells a
  links : l'.heap = l.heap ∨ ∃ p x, l.heap.cells p = some x ∧ x.next = some c ∧
    ∀ b, l'.heap.cells b = if b = p then some { x with next := entry.next } else l.heap.cells b

/-- The two ways `delete_node` ends: no node has the name, or the first that has it is
told and taken out of the chain. -/
theorem deleteNode_cases {l : Cells} (sound : Sound l) (name : CString) :
    (deleteNode l name = some (l,1,[]) ∧ Misses l.heap.cells (matchingNode name) (chain l)) ∨
    ∃ before c entry after l', chain l = before ++ c :: after ∧ Misses l.heap.cells (matchingNode name) before ∧
      l.heap.cells c = some entry ∧ entry.name = name ∧ deleteNode l name = some (l',0,[entry.remote]) ∧
      Chain l'.heap.cells l'.head (before ++ after) ∧ Unlinked l c entry l' := by
  cases head : l.head with
  | none =>
    have nil : chain l = [] := (sound_of (show Chain _ l.head [] from head)).2
    exact .inl ⟨by simp [deleteNode, head], by simp [nil, Misses]⟩
  | some first =>
  have linked : Chain l.heap.cells (some first) (chain l) := head ▸ sound
  have enough : (chain l).length < l.heap.limit + 1 := Nat.lt_succ_of_le (Chain.length_le l.heap sound)
  rcases deleteLoop_chain name linked enough none with
    ⟨before, c, entry, after, split, missed, here, named, run⟩ | ⟨missed, run⟩
  · rw [split] at linked
    rcases List.eq_nil_or_concat before with rfl | ⟨front, p, rfl⟩
    · obtain rfl : first = c := Option.some.inj linked.1
      obtain ⟨x, present, tail⟩ := linked.2
      obtain rfl : entry = x := Option.some.inj (here.symm.trans present)
      let l' : Cells := ⟨l.heap,entry.next⟩
      have unlinked : Unlinked l first entry l' := ⟨fun _ => rfl, fun _ ends => ends, .inl rfl⟩
      refine .inr ⟨[], first, entry, after, l', split, missed, here, named, ?_, tail, unlinked⟩
      simp [deleteNode, head, run, here, l']
    · rw [List.concat_eq_append] at split linked run missed
      have behind : Chain l.heap.cells l.head (front ++ p :: c :: after) := by
        rw [head]
        simpa using linked
      obtain ⟨x, there, reaches, -⟩ := behind.suffix
      obtain ⟨heap, written, linked', pairs, ends⟩ := unlink behind here
      obtain ⟨heap', written', cells, -⟩ :=
        l.heap.modify_eq (fun before => { before with next := entry.next }) there
      obtain rfl : heap = heap' := Option.some.inj (written.symm.trans written')
      have differ : c ≠ first := by
        rintro rfl
        have distinct := linked.nodup
        cases front with
        | nil =>
          obtain rfl : c = p := Option.some.inj linked.1
          simp at distinct
        | cons b front =>
          obtain rfl : c = b := Option.some.inj linked.1
          simp at distinct
      let l' : Cells := ⟨heap,l.head⟩
      have unlinked : Unlinked l c entry l' := ⟨pairs, ends, .inr ⟨p, x, there, reaches, cells⟩⟩
      refine .inr ⟨front ++ [p], c, entry, after, l', split, missed, here, named, ?_, ?_, unlinked⟩
      · simp [deleteNode, head, run, here, differ, written, l']
      · simpa [l'] using linked'
  · exact .inl ⟨by simp [deleteNode, head, run], missed⟩

/-- Passed over to the end, no node of the list has the name. -/
theorem misses_absent {l : Cells} (missed : Misses l.heap.cells (matchingNode name) (chain l)) :
    ∀ r ∈ toList l, ¬ decide (r.1 = name) = true := by
  intro r member
  have other := misses_pairs missed r member
  simpa using other

/-- `delete_node` unlinks the first node with the name and tells its remote. -/
theorem deleteNode_spec {l : Cells} (sound : Sound l) (name : CString) :
    ∃ l', deleteNode l name = some (l',if (toList l).any (·.1 = name) then 0 else 1,
        (((toList l).find? (·.1 = name)).map Prod.snd).toList) ∧ Sound l' ∧
      toList l' = (toList l).eraseP (·.1 = name) ∧ ∀ a, Ends l.heap.cells a → Ends l'.heap.cells a := by
  rcases deleteNode_cases sound name with
    ⟨run, missed⟩ | ⟨before, c, entry, after, l', split, missed, here, named, run, linked, unlinked⟩
  · have absent := misses_absent missed
    have found : (toList l).find? (·.1 = name) = none := List.find?_eq_none.mpr absent
    have missing : (toList l).any (·.1 = name) = false := List.any_eq_false.mpr absent
    refine ⟨l, by simp [run, found, missing], sound, ?_, fun _ ends => ends⟩
    exact (List.eraseP_of_forall_not absent).symm
  · have other := misses_pairs missed
    have pairs : toList l = before.filterMap (pair l.heap.cells) ++
        (name,entry.remote) :: after.filterMap (pair l.heap.cells) := by
      simp [toList, split, pair_cell here, named]
    have erased : (toList l).eraseP (·.1 = name) = (before ++ after).filterMap (pair l.heap.cells) := by
      rw [pairs, List.eraseP_append_right _ (by simpa using other)]
      simp
    have found : (toList l).find? (·.1 = name) = some (name,entry.remote) := by rw [pairs, find_pair other]
    have stored : (toList l).any (·.1 = name) = true := by simp [pairs]
    obtain ⟨sound', nodes⟩ := sound_of linked
    refine ⟨l', by simp [run, found, stored], sound', ?_, unlinked.ends⟩
    rw [erased, toList, nodes]
    exact List.filterMap_congr fun b _ => unlinked.pairs b

theorem deleteNode_absent {l : Cells} (sound : Sound l) (absent : (toList l).any (·.1 = name) = false) :
    deleteNode l name = some (l,1,[]) := by
  rcases deleteNode_cases sound name with ⟨run, -⟩ | ⟨before, c, entry, after, -, split, -, here, named, -⟩
  · exact run
  · have stored : (toList l).any (·.1 = name) = true := by simp [toList, split, pair_cell here, named]
    simp [absent] at stored

/-- Whatever node a pointer stands on, in the list or out of it, a deletion leaves it the
way to the end, and the way misses no node that is still in the list. -/
theorem deleteNode_skips {l : Cells} (sound : Sound l) (name : CString) :
    ∃ l' outcome, deleteNode l name = some (l',outcome) ∧ Sound l' ∧ (chain l').Sublist (chain l) ∧
      (∀ b, pair l'.heap.cells b = pair l.heap.cells b) ∧
      ∀ p nodes, Chain l.heap.cells p nodes → ∃ nodes', Chain l'.heap.cells p nodes' ∧ nodes'.Sublist nodes ∧
        ∀ a ∈ nodes, a ∈ chain l' → a ∈ nodes' := by
  rcases deleteNode_cases sound name with
    ⟨run, -⟩ | ⟨before, c, entry, after, l', split, -, here, -, run, linked, unlinked⟩
  · exact ⟨l, _, run, sound, List.Sublist.refl _, fun _ => rfl, fun p nodes way =>
      ⟨nodes, way, List.Sublist.refl _, fun a inside _ => inside⟩⟩
  obtain ⟨sound', nodes'⟩ := sound_of linked
  have gone : c ∉ chain l' := by
    have distinct := Chain.nodup sound
    rw [split] at distinct
    rw [nodes']
    exact (List.nodup_middle.mp distinct).notMem
  refine ⟨l', _, run, sound', ?_, unlinked.pairs, ?_⟩
  · rw [split, nodes']
    exact (List.Sublist.refl before).append (List.sublist_cons_self c after)
  · intro p nodes way
    rcases unlinked.links with same | ⟨q, x, there, reaches, cells⟩
    · exact ⟨nodes, by rw [same]; exact way, List.Sublist.refl _, fun a inside _ => inside⟩
    · have written : l'.heap.cells q = some { x with next := entry.next } := by simp [cells]
      obtain ⟨rest, way', shorter, kept⟩ :=
        way.skip there reaches here written rfl fun b differ => by simp [cells, differ]
      refine ⟨rest, way', shorter, fun a inside listed => kept a inside ?_⟩
      rintro rfl
      exact gone listed

/-- Nothing is released. -/
theorem deleteNode_heap {l l' : Cells} (run : deleteNode l name = some (l',outcome)) :
    l'.heap.limit = l.heap.limit ∧ l'.heap.released = l.heap.released := by
  simp only [deleteNode, Option.bind_eq_bind] at run
  split at run
  next =>
    cases run
    exact ⟨rfl, rfl⟩
  next =>
    obtain ⟨found, -, run⟩ := Option.bind_eq_some_iff.mp run
    split at run
    next =>
      cases run
      exact ⟨rfl, rfl⟩
    next =>
      obtain ⟨entry, -, run⟩ := Option.bind_eq_some_iff.mp run
      split at run
      next =>
        cases run
        exact ⟨rfl, rfl⟩
      next =>
        obtain ⟨p, -, run⟩ := Option.bind_eq_some_iff.mp run
        obtain ⟨heap, written, run⟩ := Option.bind_eq_some_iff.mp run
        cases run
        exact Heap.modify_frame written

/-- The search of `get_node` and `node_exists`. -/
theorem search_spec {l : Cells} (sound : Sound l) (name : CString) :
    ∃ found, seek l.heap.cells (matchingNode name) (l.heap.limit + 1) ⟨l.head,none,0⟩ = some found ∧
      found.entry.bind (pair l.heap.cells) = (toList l).find? (·.1 = name) ∧
      (found.entry = none ↔ (toList l).any (·.1 = name) = false) := by
  have enough : (chain l).length < l.heap.limit + 1 := Nat.lt_succ_of_le (Chain.length_le l.heap sound)
  rcases seek_chain (matchingNode name) sound enough none 0 with
    ⟨before, a, entry, after, split, missed, here, hit, run⟩ | ⟨missed, run⟩
  · have named : entry.name = name := by simpa [matchingNode] using hit
    have other := misses_pairs missed
    have pairs : toList l = before.filterMap (pair l.heap.cells) ++
        (name,entry.remote) :: after.filterMap (pair l.heap.cells) := by
      simp [toList, split, pair_cell here, named]
    refine ⟨_, run, ?_, ?_⟩
    · rw [pairs, find_pair other]
      simp [pair_cell here, named]
    · simp [pairs]
  · have absent : ∀ r ∈ toList l, ¬ decide (r.1 = name) = true := by
      intro r member
      have other := misses_pairs missed r member
      simpa using other
    refine ⟨_, run, ?_, ?_⟩
    · exact (List.find?_eq_none.mpr absent).symm
    · simpa using List.any_eq_false.mpr absent

theorem visits {cells : Nat → Option ActuatorEntry} {l : List Nat}
    (present : ∀ a ∈ l, ∃ entry, cells a = some entry) (act : CString × SockUdpEp → β) (acted : List β) :
    l.foldlM (fun acted ptr => (cells ptr).map fun entry => acted ++ [act (entry.name,entry.remote)]) acted =
      some (acted ++ (l.filterMap (pair cells)).map act) := by
  induction l generalizing acted with
  | nil => simp
  | cons a rest ih =>
    obtain ⟨entry, here⟩ := present a (by simp)
    have later := ih (fun b member => present b (by simp [member])) (acted ++ [act (entry.name,entry.remote)])
    simp [here, later, pair_cell here]

/-- A traversal acts on every node once, from the head on. -/
theorem traverse_spec {l : Cells} (sound : Sound l) (act : CString × SockUdpEp → β) :
    traverse l (fun entry => act (entry.name,entry.remote)) = some ((toList l).map act) := by
  have enough : (chain l).length < l.heap.limit + 1 := Nat.lt_succ_of_le (Chain.length_le l.heap sound)
  have run := each_chain (fun _ => l.heap.cells)
    (fun acted ptr => (l.heap.cells ptr).map fun entry => acted ++ [act (entry.name,entry.remote)])
    (fun _ _ _ _ _ => rfl) (s := []) sound enough
  have acted := visits (fun a member => Chain.cell sound member) act []
  rw [traverse, run, acted]
  rfl

end Actuators

/-- An actuator list whose nodes form a chain by construction. -/
structure ActuatorList where
  cells : Actuators.Cells
  sound : Actuators.Sound cells

namespace ActuatorList

open Actuators

theorem empty_spec : Sound ⟨.empty,none⟩ ∧ chain ⟨.empty,none⟩ = [] := by
  apply sound_of
  rfl

def empty : ActuatorList := ⟨⟨.empty,none⟩,empty_spec.1⟩

/-- The names and remotes in the list, from the head on. -/
def toList (l : ActuatorList) : List (CString × SockUdpEp) := Actuators.toList l.cells

/-- A call that is known to succeed, as a total operation. -/
def total (call : Option (Cells × β)) (succeeds : ∃ l b, call = some (l,b) ∧ Sound l) : ActuatorList × β :=
  match call, succeeds with
  | some (l,b), succeeds => (⟨l, by
      obtain ⟨l', b', same, sound⟩ := succeeds
      cases same
      exact sound⟩,b)
  | none, succeeds => absurd succeeds (by simp)

theorem total_eq {call : Option (Cells × β)} (run : call = some (l,b)) (sound : Sound l)
    (succeeds : ∃ l b, call = some (l,b) ∧ Sound l) : total call succeeds = (⟨l,sound⟩,b) := by
  subst run
  rfl

/-- `insert_node` of a new node. -/
def insertNode (l : ActuatorList) (name : CString) (remote : SockUdpEp) : ActuatorList :=
  (total ((insertNew l.cells name remote).map fun l => (l,())) (by
    obtain ⟨l', run, sound, _⟩ := insertNew_spec l.sound name remote
    exact ⟨l', (), by simp [run], sound⟩)).1

/-- `delete_node`: result code and the endpoints that were sent a deregister message. -/
def deleteNode (l : ActuatorList) (name : CString) : ActuatorList × Nat × List SockUdpEp :=
  total (Actuators.deleteNode l.cells name) (by
    obtain ⟨l', run, sound, _⟩ := deleteNode_spec l.sound name
    exact ⟨l', _, run, sound⟩)

/-- The name and remote under the pointer that `get_node` returns, `none` when it is NULL. -/
def getNode (l : ActuatorList) (name : CString) : Option (CString × SockUdpEp) :=
  (Actuators.getNode l.cells name).join.bind (pair l.cells.heap.cells)

/-- `node_exists`: 0 when the name is in the list. -/
def nodeExists (l : ActuatorList) (name : CString) : Nat := (Actuators.nodeExists l.cells name).getD 1

/-- What a traversal does at each node, in order. -/
def traverse (l : ActuatorList) (act : CString × SockUdpEp → β) : List β :=
  (Actuators.traverse l.cells fun entry => act (entry.name,entry.remote)).getD []

@[simp] theorem toList_empty : empty.toList = [] := by
  rw [toList, Actuators.toList, empty, empty_spec.2]
  rfl

theorem insertNode_cells (l : ActuatorList) (name : CString) (remote : SockUdpEp) :
    insertNew l.cells name remote = some (l.insertNode name remote).cells := by
  obtain ⟨l', run, sound, _⟩ := insertNew_spec l.sound name remote
  have ran : (insertNew l.cells name remote).map (fun l => (l,())) = some (l',()) := by simp [run]
  rw [run, insertNode, total_eq ran sound]

@[simp] theorem toList_insertNode (l : ActuatorList) (name : CString) (remote : SockUdpEp) :
    (l.insertNode name remote).toList = (name,remote) :: l.toList := by
  obtain ⟨l', run, sound, cons, _⟩ := insertNew_spec l.sound name remote
  have ran : (insertNew l.cells name remote).map (fun l => (l,())) = some (l',()) := by simp [run]
  rw [insertNode, total_eq ran sound]
  exact cons

theorem deleteNode_spec (l : ActuatorList) (name : CString) :
    (l.deleteNode name).2 = (if l.toList.any (·.1 = name) then 0 else 1,
        ((l.toList.find? (·.1 = name)).map Prod.snd).toList) ∧
      (l.deleteNode name).1.toList = l.toList.eraseP (·.1 = name) := by
  obtain ⟨l', run, sound, erased, _⟩ := Actuators.deleteNode_spec l.sound name
  rw [deleteNode, total_eq run sound]
  exact ⟨rfl, erased⟩

/-- What an insertion takes from the heap, and where the new node is. -/
theorem insertNode_frame (l : ActuatorList) (name : CString) (remote : SockUdpEp) :
    chain (l.insertNode name remote).cells = l.cells.heap.limit :: chain l.cells ∧
      (l.insertNode name remote).cells.heap.limit = l.cells.heap.limit + 2 ∧
      (l.insertNode name remote).cells.heap.released = l.cells.heap.released := by
  obtain ⟨l', run, _, nodes, _, _, limit, released⟩ := insertNew_frame l.sound name remote
  obtain rfl : l' = (l.insertNode name remote).cells :=
    Option.some.inj (run.symm.trans (insertNode_cells l name remote))
  exact ⟨nodes, limit, released⟩

theorem deleteNode_frame (l : ActuatorList) (name : CString) :
    (l.deleteNode name).1.cells.heap.limit = l.cells.heap.limit ∧
      (l.deleteNode name).1.cells.heap.released = l.cells.heap.released := by
  obtain ⟨l', run, sound, _⟩ := Actuators.deleteNode_spec l.sound name
  rw [deleteNode, total_eq run sound]
  exact deleteNode_heap run

/-- An insertion leaves every pointer into the heap the way it had. -/
theorem insertNode_kept (l : ActuatorList) (name : CString) (remote : SockUdpEp) (here : l.cells.heap.cells a = some entry) :
    (l.insertNode name remote).cells.heap.cells a = some entry := by
  obtain ⟨l', run, _, _, _, kept, _⟩ := insertNew_frame l.sound name remote
  obtain rfl : l' = (l.insertNode name remote).cells :=
    Option.some.inj (run.symm.trans (insertNode_cells l name remote))
  exact kept a entry here

theorem deleteNode_skips (l : ActuatorList) (name : CString) :
    (chain (l.deleteNode name).1.cells).Sublist (chain l.cells) ∧
      (∀ b, pair (l.deleteNode name).1.cells.heap.cells b = pair l.cells.heap.cells b) ∧
      ∀ p nodes, LinkedHeap.Chain l.cells.heap.cells p nodes →
        ∃ nodes', LinkedHeap.Chain (l.deleteNode name).1.cells.heap.cells p nodes' ∧ nodes'.Sublist nodes ∧
          ∀ a ∈ nodes, a ∈ chain (l.deleteNode name).1.cells → a ∈ nodes' := by
  obtain ⟨l', outcome, run, sound, skips⟩ := Actuators.deleteNode_skips l.sound name
  rw [deleteNode, total_eq run sound]
  exact skips

theorem deleteNode_absent (l : ActuatorList) (absent : l.toList.any (·.1 = name) = false) :
    (l.deleteNode name).1 = l := by
  rw [deleteNode, total_eq (Actuators.deleteNode_absent l.sound absent) l.sound]

theorem length_chain (l : ActuatorList) : (chain l.cells).length = l.toList.length := by
  have present : ∀ a ∈ chain l.cells, (pair l.cells.heap.cells a).isSome = true := by
    intro a member
    obtain ⟨entry, here⟩ := LinkedHeap.Chain.cell l.sound member
    simp [pair_cell here]
  rw [toList, Actuators.toList, List.length_filterMap_eq_countP]
  exact (List.countP_eq_length.mpr present).symm

def head (l : ActuatorList) : LinkedHeap.Pointer := l.cells.head

theorem head_insertNode (l : ActuatorList) (name : CString) (remote : SockUdpEp) :
    (l.insertNode name remote).head = some l.cells.heap.limit := by
  have linked := (l.insertNode name remote).sound
  rw [Actuators.Sound, (l.insertNode_frame name remote).1] at linked
  exact linked.1

/-- The node under a pointer that a traversal holds. -/
def node (l : ActuatorList) (a : Nat) : Option ActuatorEntry := l.cells.heap.cells a

/-- The node is there and has nothing behind it. -/
def Ends (l : ActuatorList) (a : Nat) : Prop := Actuators.Ends l.cells.heap.cells a

theorem ends_insertNode {l : ActuatorList} (name : CString) (remote : SockUdpEp) (ends : l.Ends a) :
    (l.insertNode name remote).Ends a := by
  obtain ⟨l', run, sound, _, kept⟩ := insertNew_spec l.sound name remote
  have ran : (insertNew l.cells name remote).map (fun l => (l,())) = some (l',()) := by simp [run]
  rw [insertNode, total_eq ran sound]
  exact kept a ends

theorem ends_deleteNode {l : ActuatorList} (name : CString) (ends : l.Ends a) : (l.deleteNode name).1.Ends a := by
  obtain ⟨l', run, sound, _, kept⟩ := Actuators.deleteNode_spec l.sound name
  rw [deleteNode, total_eq run sound]
  exact kept a ends

theorem getNode_eq (l : ActuatorList) (name : CString) : l.getNode name = l.toList.find? (·.1 = name) := by
  obtain ⟨found, run, entry, _⟩ := search_spec l.sound name
  simpa [getNode, Actuators.getNode, run, toList] using entry

theorem nodeExists_eq (l : ActuatorList) (name : CString) :
    l.nodeExists name = if l.toList.any (·.1 = name) then 0 else 1 := by
  obtain ⟨found, run, _, missing⟩ := search_spec l.sound name
  by_cases absent : found.entry = none
  · have off := missing.mp absent
    simp [nodeExists, Actuators.nodeExists, run, absent, toList, off]
  · have on : (Actuators.toList l.cells).any (·.1 = name) = true := by
      simpa using mt missing.mpr absent
    simp [nodeExists, Actuators.nodeExists, run, absent, toList, on]

theorem traverse_eq (l : ActuatorList) (act : CString × SockUdpEp → β) :
    l.traverse act = l.toList.map act := by
  rw [traverse, traverse_spec l.sound]
  rfl

end ActuatorList

end RiotAlarm.Gateway
