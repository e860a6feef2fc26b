import RiotAlarm.GatewayShell

/-! The actuator commands with the loops of `node_exists`, `get_node` and `delete_node`
taken apart: every access to the list is a step of its own on the bare cells, and a
register request can be handled before each of them. The list stays a set of names, and
a deletion removes what it was asked to, unless a request comes in between the two
times that `delete_node` reads the head of an empty list. -/
namespace RiotAlarm.Gateway

open Transition LinkedHeap Actuators

/-- Statements of `node_exists` and `get_node`, which share their loop. -/
inductive SearchPoint where
  | read
  | test (ptr : Pointer)
  | compare (ptr : Nat)
  | advance (ptr : Nat)
  | result (ptr : Pointer)
  deriving DecidableEq

/-- Statements of `delete_node`. The initialiser of `current` and the test for an empty
list both read `head`. -/
inductive DeletePoint where
  | read
  | empty (current : Pointer)
  | compare (current previous : Pointer)
  | last (current : Nat) (previous : Pointer)
  | store (current : Nat)
  | move (current : Nat) (previous : Pointer)
  | found (current : Nat) (previous : Pointer)
  | sendHead (current : Nat)
  | unlinkHead
  | sendBehind (current : Nat) (previous : Pointer)
  | unlinkBehind (current : Nat) (previous : Pointer)
  | clear
  | returned (code : Nat)
  deriving DecidableEq

/-- Where the shell thread is. In an auth command `check` and `respond` are the calls of
`node_exists` and `get_node`, in a deauth command `remove` is that of `delete_node`. -/
inductive ActuatorShell where
  | idle
  | auth (name : CString) (point : AuthPoint)
  | nodeExists (name : CString) (point : SearchPoint)
  | getNode (name : CString) (point : SearchPoint)
  | deauth (name : CString) (point : DeauthPoint)
  | deleteNode (name : CString) (point : DeletePoint)
  | crashed
  deriving DecidableEq

structure ActuatorSide where
  list : Cells
  actuatorId : Option CString
  isRegistered : Bool
  shell : ActuatorShell

inductive ListEvent where
  | accepted (name : CString) (remote : SockUdpEp)
  | searching (name : CString)
  | deleting (name : CString)
  | told (remote : SockUdpEp)
  | unlinked (name : CString)
  | answered (remote : SockUdpEp)
  deriving DecidableEq

inductive ListAction where
  | authActuator (name : CString)
  | deauthActuator (name : CString)
  | shell
  | request (payload : Option NodeIdentity)

/-- `_actuator_register_handler`, on the bare cells. -/
def registerRequest (gnrc : Gnrc) (s : ActuatorSide) (payload : Option NodeIdentity) :
    Option (ActuatorSide × List ListEvent × Code) :=
  match s.actuatorId with
  | none => some (s,[],.badRequest)
  | some pending =>
    match payload with
    | none => some ({ s with actuatorId := none },[],.badRequest)
    | some actuatorId => do
      let ipv6Addr := gnrc.addrToStr actuatorId.ipAddr
      if (← Actuators.nodeExists s.list pending) = 0 then return (s,[],.badRequest)
      else if strcmp pending actuatorId.name = 0 then
        let remote := entryRemote gnrc actuatorId.ipAddr ipv6Addr
        if remote.port = 0 then return ({ s with isRegistered := true },[],.changed)
        else
          let list ← insertNew s.list actuatorId.name remote
          return ({ s with list, isRegistered := true },[.accepted actuatorId.name remote],.changed)
      else return ({ s with actuatorId := none },[],.badRequest)

/-- The next statement of `node_exists` or `get_node`; no result when it faults. -/
def searchStep (l : Cells) (name : CString) : SearchPoint → Option (List ListEvent × SearchPoint)
  | .read => some ([.searching name],.test l.head)
  | .test none => some ([],.result none)
  | .test (some a) => some ([],.compare a)
  | .compare a => (l.heap.cells a).map fun entry =>
    ([],if strcmp entry.name name = 0 then .result (some a) else .advance a)
  | .advance a => (l.heap.cells a).map fun entry => ([],.test entry.next)
  | .result ptr => some ([],.result ptr)

/-- The next statement of `delete_node`; no result when it faults. -/
def deleteStep (l : Cells) (name : CString) : DeletePoint → Option (Cells × List ListEvent × DeletePoint)
  | .read => some (l,[.deleting name],.empty l.head)
  | .empty current => some (l,[],if l.head = none then .returned 1 else .compare current none)
  | .compare current previous => do
    let a ← current
    let entry ← l.heap.cells a
    return (l,[],if strcmp entry.name name ≠ 0 then .last a previous else .found a previous)
  | .last a _ => do
    let entry ← l.heap.cells a
    return (l,[],if entry.next = none then .returned 1 else .store a)
  | .store a => some (l,[],.move a (some a))
  | .move a previous => do
    let entry ← l.heap.cells a
    return (l,[],.compare entry.next previous)
  | .found a previous => some (l,[],if some a = l.head then .sendHead a else .sendBehind a previous)
  | .sendHead a => do
    let entry ← l.heap.cells a
    return (l,[.told entry.remote],.unlinkHead)
  | .unlinkHead => do
    let first ← l.head
    let entry ← l.heap.cells first
    return ({ l with head := entry.next },[.unlinked entry.name],.clear)
  | .sendBehind a previous => do
    let entry ← l.heap.cells a
    return (l,[.told entry.remote],.unlinkBehind a previous)
  | .unlinkBehind a previous => do
    let entry ← l.heap.cells a
    let p ← previous
    let heap ← l.heap.modify p fun before => { before with next := entry.next }
    return ({ l with heap },[.unlinked entry.name],.clear)
  | .clear => some (l,[],.returned 0)
  | .returned code => some (l,[],.returned code)

namespace ActuatorSide

/-- The next statement of an auth command outside the two searches. -/
def authStep (s : ActuatorSide) (name : CString) : AuthPoint → ActuatorSide
  | .start => { s with actuatorId := some name, shell := .auth name .check }
  | .check => { s with shell := .nodeExists name .read }
  | .prompt => { s with shell := .auth name (.timeout 0) }
  | .timeout count => { s with shell := .auth name (if count > 50 then .done 1 else .flag count) }
  | .flag count => { s with shell := .auth name (if s.isRegistered then .clear else .sleep count) }
  | .sleep count => { s with shell := .auth name (.timeout (count + 1)) }
  | .clear => { s with isRegistered := false, shell := .auth name .log }
  | .log => { s with shell := .auth name .respond }
  | .respond => { s with shell := .getNode name .read }
  | .done _ => { s with actuatorId := none, shell := .idle }

def deauthStep (s : ActuatorSide) (name : CString) : DeauthPoint → ActuatorSide
  | .start => { s with actuatorId := some name, shell := .deauth name .remove }
  | .remove => { s with shell := .deleteNode name .read }
  | .log => { s with shell := .deauth name (.done 0) }
  | .done _ => { s with actuatorId := none, shell := .idle }

/-- The next statement of the command that runs. A node or a list head that is not there
stops the board where it is followed. -/
def shellStep (s : ActuatorSide) : Option (ActuatorSide × List ListEvent) :=
  match s.shell with
  | .idle => none
  | .crashed => none
  | .auth name point => some (s.authStep name point,[])
  | .nodeExists name (.result ptr) =>
    some ({ s with shell := .auth name (if ptr = none then .prompt else .done 1) },[])
  | .nodeExists name point =>
    match searchStep s.list name point with
    | none => some ({ s with shell := .crashed },[])
    | some (events,point) => some ({ s with shell := .nodeExists name point },events)
  | .getNode name (.result ptr) =>
    match ptr.bind s.list.heap.cells with
    | none => some ({ s with shell := .crashed },[])
    | some entry => some ({ s with shell := .auth name (.done 0) },[.answered entry.remote])
  | .getNode name point =>
    match searchStep s.list name point with
    | none => some ({ s with shell := .crashed },[])
    | some (events,point) => some ({ s with shell := .getNode name point },events)
  | .deauth name point => some (s.deauthStep name point,[])
  | .deleteNode name (.returned code) =>
    some ({ s with shell := .deauth name (if code = 0 then .log else .done 1) },[])
  | .deleteNode name point =>
    match deleteStep s.list name point with
    | none => some ({ s with shell := .crashed },[])
    | some (list,events,point) => some ({ s with list, shell := .deleteNode name point },events)

def start : ActuatorSide := ⟨⟨.empty,none⟩,none,false,.idle⟩

def step (gnrc : Gnrc) : Step ActuatorSide ListAction ListEvent
  | s,.authActuator name =>
    if s.shell = .idle then some ({ s with shell := .auth name .start },[]) else none
  | s,.deauthActuator name =>
    if s.shell = .idle then some ({ s with shell := .deauth name .start },[]) else none
  | s,.shell => s.shellStep
  | s,.request payload =>
    if s.shell = .crashed then none
    else (registerRequest gnrc s payload).map fun (s,events,_) => (s,events)

/-- A request with the awaited name comes in after `delete_node` has read the head of an
empty list and before it reads the head again to see that the list is empty. -/
def overtakes (s : ActuatorSide) : ListAction → Bool
  | .request (some id) =>
    match s.shell with
    | .deleteNode _ (.empty none) => s.actuatorId = some id.name
    | _ => false
  | _ => false

def timely (s : ActuatorSide) (a : ListAction) : Prop := s.overtakes a = false

instance (s : ActuatorSide) (a : ListAction) : Decidable (s.timely a) := inferInstanceAs (Decidable (_ = _))

end ActuatorSide

/-! What a run says about the list. -/

def listed (nodes : List (CString × SockUdpEp)) (name : CString) : Bool := nodes.any (·.1 = name)

namespace ListEvent

def apply (nodes : List (CString × SockUdpEp)) : ListEvent → List (CString × SockUdpEp)
  | .accepted name remote => (name,remote) :: nodes
  | .unlinked name => nodes.eraseP (·.1 = name)
  | _ => nodes

def removes : ListEvent → Bool
  | .unlinked _ => true
  | _ => false

def changes : ListEvent → Bool
  | .accepted _ _ => true
  | .unlinked _ => true
  | _ => false

theorem apply_quiet {event : ListEvent} (quiet : event.changes = false) (nodes : List (CString × SockUdpEp)) :
    apply nodes event = nodes := by
  cases event with
  | accepted | unlinked => contradiction
  | searching | deleting | told | answered => rfl

theorem removes_quiet {event : ListEvent} (quiet : event.changes = false) : event.removes = false := by
  cases event with
  | unlinked => contradiction
  | accepted | searching | deleting | told | answered => rfl

end ListEvent

/-- Accepted and not unlinked since, newest first. -/
def contents (trace : List ListEvent) : List (CString × SockUdpEp) := trace.foldl ListEvent.apply []

theorem contents_append (trace events : List ListEvent) :
    contents (trace ++ events) = events.foldl ListEvent.apply (contents trace) := by
  simp [contents, List.foldl_append]

theorem contents_quiet {trace events : List ListEvent} (quiet : ∀ event ∈ events, event.changes = false) :
    contents (trace ++ events) = contents trace := by
  induction events generalizing trace with
  | nil => simp
  | cons event rest ih =>
    have first := quiet event (by simp)
    rw [List.append_cons, ih fun other member => quiet other (by simp [member]), contents_append]
    exact ListEvent.apply_quiet first _

/-- The node with the name is taken out, after and before events that take nothing out. -/
def Unlinked (name : CString) (later : List ListEvent) : Prop :=
  ∃ during after, later = during ++ .unlinked name :: after ∧ (∀ event ∈ during, event.changes = false) ∧
    ∀ event ∈ after, event.removes = false

/-! Where the loops stand on the chain. -/

/-- A loop for `name` has passed the nodes `before` and is at the first of `after`. The
node is ahead if it was in the list when the loop began (`stored`), and is not ahead
otherwise; a request can then have put it in front of the list meanwhile. -/
structure WalkAlong (l : Cells) (name : CString) (stored : Bool) (before after : List Nat)
    (ptr previous : Pointer) : Prop where
  split : chain l = before ++ after
  chain : Chain l.heap.cells ptr after
  passed : stored = true → Misses l.heap.cells (matchingNode name) before ∧ previous = before.getLast?
  ahead : stored = false → Misses l.heap.cells (matchingNode name) after
  listed : stored = true → listed (toList l) name = true

def Walk (l : Cells) (name : CString) (stored : Bool) (ptr previous : Pointer) : Prop :=
  ∃ before after, WalkAlong l name stored before after ptr previous

theorem matchingNode_eq (name : CString) (entry : ActuatorEntry) :
    matchingNode name entry = decide (entry.name = name) := by
  simp [matchingNode, beq_eq_decide]

theorem listed_eq_false (l : Cells) (name : CString) :
    listed (toList l) name = false ↔ Misses l.heap.cells (matchingNode name) (chain l) := by
  constructor
  · intro absent a member entry here
    rw [matchingNode_eq]
    apply decide_eq_false
    intro same
    have inList : (entry.name,entry.remote) ∈ toList l :=
      List.mem_filterMap.mpr ⟨a, member, pair_cell here⟩
    exact absurd same (by simpa using List.any_eq_false.mp absent _ inList)
  · intro missed
    apply List.any_eq_false.mpr
    intro r member
    simpa using misses_pairs missed r member

namespace Walk
variable {l : Cells} {name : CString} {stored : Bool}

theorem start (sound : Sound l) (name : CString) : Walk l name (listed (toList l) name) l.head none :=
  ⟨[], chain l, rfl, sound, fun _ => ⟨by simp [Misses], rfl⟩, (listed_eq_false l name).mp, id⟩

theorem cell (walk : Walk l name stored (some a) previous) : ∃ entry, l.heap.cells a = some entry := by
  obtain ⟨before, after, along⟩ := walk
  cases after with
  | nil => exact absurd along.chain (by simp [Chain])
  | cons b rest =>
    obtain ⟨same, entry, here, _⟩ := along.chain
    obtain rfl : a = b := Option.some.inj same
    exact ⟨entry, here⟩

theorem next (walk : Walk l name stored (some a) previous) (here : l.heap.cells a = some entry)
    (differ : entry.name ≠ name) : Walk l name stored entry.next (some a) := by
  obtain ⟨before, after, split, chained, passed, ahead, inList⟩ := walk
  cases after with
  | nil => exact absurd chained (by simp [Chain])
  | cons b rest =>
    obtain ⟨same, x, there, tail⟩ := chained
    obtain rfl : a = b := Option.some.inj same
    obtain rfl : entry = x := Option.some.inj (here.symm.trans there)
    refine ⟨before ++ [a], rest, by simp [split], tail, ?_, ?_, inList⟩
    · intro was
      refine ⟨?_, by simp⟩
      intro b member y present
      rcases List.mem_append.mp member with early | this
      · exact (passed was).1 b early y present
      · obtain rfl : b = a := by simpa using this
        obtain rfl : entry = y := Option.some.inj (here.symm.trans present)
        simpa [matchingNode_eq] using differ
    · intro wasNot b member
      exact ahead wasNot b (List.mem_cons_of_mem a member)

/-- Whoever comes to the end has looked for a name that was not there. -/
theorem at_end (walk : Walk l name stored none previous) : stored = false := by
  obtain ⟨before, after, along⟩ := walk
  cases after with
  | cons b rest => exact absurd along.chain (by simp [Chain])
  | nil =>
    cases stored with
    | false => rfl
    | true =>
      have all : chain l = before := by simpa using along.split
      have missed := (along.passed rfl).1
      rw [← all] at missed
      have absent := (listed_eq_false l name).mpr missed
      exact absurd (along.listed rfl) (by simp [absent])

theorem hit (walk : Walk l name stored (some a) previous) (here : l.heap.cells a = some entry)
    (named : entry.name = name) : stored = true := by
  obtain ⟨before, after, along⟩ := walk
  cases after with
  | nil => exact absurd along.chain (by simp [Chain])
  | cons b rest =>
    obtain ⟨same, x, there, _⟩ := along.chain
    obtain rfl : a = b := Option.some.inj same
    cases stored with
    | true => rfl
    | false =>
      have missed := along.ahead rfl a (by simp) entry here
      simp [matchingNode_eq, named] at missed

/-- A node that is put in front of the list is behind the loop. -/
theorem insert {l l' : Cells} (walk : Walk l name false ptr previous)
    (nodes : Actuators.chain l' = b :: Actuators.chain l)
    (kept : ∀ a entry, l.heap.cells a = some entry → l'.heap.cells a = some entry) :
    Walk l' name false ptr previous := by
  obtain ⟨before, after, along⟩ := walk
  have same : ∀ a ∈ after, l'.heap.cells a = l.heap.cells a := by
    intro a member
    obtain ⟨entry, here⟩ := along.chain.cell member
    rw [kept a entry here, here]
  refine ⟨b :: before, after, by simp [nodes, along.split], along.chain.frame same, by simp, ?_, by simp⟩
  intro _ a member entry here
  rw [same a member] at here
  exact along.ahead rfl a member entry here

end Walk

/-- What the loop of `node_exists` and `get_node` knows at each of its statements. -/
def SearchPoint.At (l : Cells) (name : CString) (stored : Bool) : SearchPoint → Prop
  | .read => True
  | .test ptr => ∃ previous, Walk l name stored ptr previous
  | .compare a => ∃ previous, Walk l name stored (some a) previous
  | .advance a => ∃ entry, l.heap.cells a = some entry ∧ ∃ previous, Walk l name stored entry.next previous
  | .result ptr => ptr.isSome = stored ∧ ∀ a, ptr = some a → ∃ entry, l.heap.cells a = some entry

/-- The node that `delete_node` looks for is at hand. -/
structure Hit (l : Cells) (name : CString) (stored : Bool) (a : Nat) (previous : Pointer) : Prop where
  was : stored = true
  named : ∃ entry, l.heap.cells a = some entry ∧ entry.name = name
  walk : Walk l name stored (some a) previous

namespace DeletePoint

/-- What `delete_node` knows at each of its statements. -/
def At (l : Cells) (name : CString) (stored : Bool) : DeletePoint → Prop
  | .read => True
  | .empty current => Walk l name stored current none ∧ (current = none → l.head = none)
  | .compare current previous => current ≠ none ∧ Walk l name stored current previous
  | .last a _ => ∃ entry, l.heap.cells a = some entry ∧ Walk l name stored entry.next (some a)
  | .store a => ∃ entry, l.heap.cells a = some entry ∧ entry.next ≠ none ∧ Walk l name stored entry.next (some a)
  | .move a previous => ∃ entry, l.heap.cells a = some entry ∧ entry.next ≠ none ∧
    Walk l name stored entry.next previous
  | .found a previous => Hit l name stored a previous
  | .sendHead a => some a = l.head ∧ ∃ previous, Hit l name stored a previous
  | .unlinkHead => ∃ a previous, some a = l.head ∧ Hit l name stored a previous
  | .sendBehind a previous => some a ≠ l.head ∧ Hit l name stored a previous
  | .unlinkBehind a previous => some a ≠ l.head ∧ Hit l name stored a previous
  | .clear => stored = true
  | .returned code => code = if stored then 0 else 1

/-- The node is out of the list. -/
def gone : DeletePoint → Bool
  | .clear => true
  | .returned _ => true
  | _ => false

/-- How many nodes there are from a pointer on. -/
def ahead (l : Cells) (ptr : Pointer) : Nat := (follow l.heap.cells l.heap.limit ptr).length

/-- Falls with every statement of `delete_node`. -/
def rank (l : Cells) : DeletePoint → Nat
  | .read => 0
  | .empty current => 4 * ahead l current + 4
  | .compare current _ => 4 * ahead l current + 3
  | .last a _ => 4 * ahead l (some a) + 2
  | .store a => 4 * ahead l (some a) + 1
  | .move a _ => 4 * ahead l (some a)
  | .found _ _ => 4
  | .sendHead _ => 3
  | .unlinkHead => 2
  | .sendBehind _ _ => 3
  | .unlinkBehind _ _ => 2
  | .clear => 1
  | .returned _ => 0

theorem ahead_eq {l : Cells} (chained : Chain l.heap.cells ptr nodes) : ahead l ptr = nodes.length := by
  rw [ahead, chained.follow_eq (chained.length_le l.heap)]

end DeletePoint

theorem Walk.ahead_cons {l : Cells} (walk : Walk l name stored entry.next previous)
    (here : l.heap.cells a = some entry) :
    DeletePoint.ahead l (some a) = DeletePoint.ahead l entry.next + 1 := by
  obtain ⟨before, after, along⟩ := walk
  have longer : Chain l.heap.cells (some a) (a :: after) := ⟨rfl, entry, here, along.chain⟩
  rw [DeletePoint.ahead_eq longer, DeletePoint.ahead_eq along.chain]
  rfl

/-- The node at hand splits the list of names. -/
theorem Hit.split {l : Cells} (hit : Hit l name stored a previous) :
    ∃ before after entry, chain l = before ++ a :: after ∧ previous = before.getLast? ∧
      l.heap.cells a = some entry ∧ entry.name = name ∧
      (toList l).eraseP (·.1 = name) = (before ++ after).filterMap (pair l.heap.cells) := by
  obtain ⟨was, ⟨entry, here, named⟩, before, after, along⟩ := hit
  cases after with
  | nil => exact absurd along.chain (by simp [Chain])
  | cons b rest =>
    obtain rfl : a = b := Option.some.inj along.chain.1
    obtain ⟨missed, trailing⟩ := along.passed was
    refine ⟨before, rest, entry, along.split, trailing, here, named, ?_⟩
    have other := misses_pairs missed
    have pairs : toList l = before.filterMap (pair l.heap.cells) ++
        (name,entry.remote) :: rest.filterMap (pair l.heap.cells) := by
      simp [toList, along.split, pair_cell here, named]
    rw [pairs, List.eraseP_append_right _ (by simpa using other)]
    simp

/-- `head = head->next` takes out the node at hand. -/
theorem Hit.unlinkHead {l : Cells} (sound : Sound l) (hit : Hit l name stored a previous)
    (first : some a = l.head) :
    ∃ entry, l.heap.cells a = some entry ∧ entry.name = name ∧ Sound { l with head := entry.next } ∧
      toList { l with head := entry.next } = (toList l).eraseP (·.1 = name) := by
  obtain ⟨before, after, entry, split, _, here, named, erased⟩ := hit.split
  have linked : Chain l.heap.cells (some a) (before ++ a :: after) := by
    rw [first, ← split]
    exact sound
  cases before with
  | cons b front =>
    obtain rfl : a = b := Option.some.inj linked.1
    have distinct := linked.nodup
    simp at distinct
  | nil =>
    obtain ⟨_, x, there, tail⟩ := linked
    obtain rfl : entry = x := Option.some.inj (here.symm.trans there)
    obtain ⟨sound', nodes⟩ := Actuators.sound_of (l := { l with head := entry.next }) tail
    refine ⟨entry, here, named, sound', ?_⟩
    rw [erased, toList, nodes]
    rfl

/-- `previous->next = current->next` takes out the node at hand. -/
theorem Hit.unlinkBehind {l : Cells} (sound : Sound l) (hit : Hit l name stored a previous)
    (behind : some a ≠ l.head) :
    ∃ entry p heap, l.heap.cells a = some entry ∧ entry.name = name ∧ previous = some p ∧
      l.heap.modify p (fun before => { before with next := entry.next }) = some heap ∧
      Sound { l with heap } ∧ toList { l with heap } = (toList l).eraseP (·.1 = name) := by
  obtain ⟨before, after, entry, split, trailing, here, named, erased⟩ := hit.split
  have linked : Chain l.heap.cells l.head (before ++ a :: after) := by
    rw [← split]
    exact sound
  rcases List.eq_nil_or_concat before with rfl | ⟨front, p, rfl⟩
  · exact absurd linked.1.symm behind
  · rw [List.concat_eq_append] at linked trailing erased
    obtain ⟨heap, written, linked', kept, _⟩ := unlink (by simpa using linked) here
    obtain ⟨sound', nodes⟩ := Actuators.sound_of (l := { l with heap }) linked'
    refine ⟨entry, p, heap, here, named, by simpa using trailing, written, sound', ?_⟩
    rw [erased, toList, nodes, List.append_assoc]
    exact List.filterMap_congr fun b _ => kept b

/-- What one statement of the loop of `node_exists` and `get_node` does. -/
theorem searchStep_spec {l : Cells} {point : SearchPoint} (knows : point.At l name stored) (begun : point ≠ .read) :
    ∃ point', searchStep l name point = some ([],point') ∧ point'.At l name stored ∧ point' ≠ .read := by
  cases point with
  | read => exact absurd rfl begun
  | test ptr =>
    cases ptr with
    | none =>
      obtain ⟨previous, walk⟩ := knows
      exact ⟨_, rfl, ⟨by simp [walk.at_end], by simp⟩, by simp⟩
    | some a => exact ⟨_, rfl, knows, by simp⟩
  | compare a =>
    obtain ⟨previous, walk⟩ := knows
    obtain ⟨entry, here⟩ := walk.cell
    by_cases named : entry.name = name
    · refine ⟨.result (some a), by simp [searchStep, here, named], ⟨by simp [walk.hit here named], ?_⟩, by simp⟩
      intro b same
      obtain rfl : a = b := Option.some.inj same
      exact ⟨entry, here⟩
    · exact ⟨.advance a, by simp [searchStep, here, named], ⟨entry, here, _, walk.next here named⟩, by simp⟩
  | advance a =>
    obtain ⟨entry, here, walk⟩ := knows
    exact ⟨.test entry.next, by simp [searchStep, here], walk, by simp⟩
  | result ptr => exact ⟨_, rfl, knows, by simp⟩

/-- What one statement of `delete_node` does to the list. -/
inductive Deletes (l : Cells) (name : CString) (stored : Bool) (point : DeletePoint) :
    Cells → List ListEvent → DeletePoint → Prop where
  | keeps : (stored = true → point'.gone = point.gone) → Deletes l name stored point l [] point'
  | tells : point'.gone = point.gone → Deletes l name stored point l [.told remote] point'
  | unlinks : stored = true → point.gone = false → Sound l' → toList l' = (toList l).eraseP (·.1 = name) →
      Deletes l name stored point l' [.unlinked name] .clear

theorem deleteStep_spec {l : Cells} {point : DeletePoint} (sound : Sound l) (knows : point.At l name stored)
    (begun : point ≠ .read) (running : ∀ code, point ≠ .returned code) :
    ∃ l' events point', deleteStep l name point = some (l',events,point') ∧ point'.At l' name stored ∧
      point' ≠ .read ∧ point'.rank l' < point.rank l ∧ Deletes l name stored point l' events point' := by
  cases point with
  | read => exact absurd rfl begun
  | returned code => exact absurd rfl (running code)
  | empty current =>
    obtain ⟨walk, nothing⟩ := knows
    by_cases empty : l.head = none
    · have missing : stored = false := by
        cases stored with
        | false => rfl
        | true =>
          obtain ⟨before, after, along⟩ := walk
          have none : chain l = [] := (Actuators.sound_of (show Chain l.heap.cells l.head [] from empty)).2
          simpa [toList, none, listed] using along.listed rfl
      refine ⟨l, [], .returned 1, by simp [deleteStep, empty], by simp [DeletePoint.At, missing], by simp, ?_, ?_⟩
      · simp [DeletePoint.rank]
      · exact .keeps (by simp [missing])
    · refine ⟨l, [], .compare current none, by simp [deleteStep, empty], ⟨mt nothing empty, walk⟩, by simp, ?_, ?_⟩
      · simp [DeletePoint.rank]
      · exact .keeps fun _ => rfl
  | compare current previous =>
    obtain ⟨there, walk⟩ := knows
    obtain ⟨a, rfl⟩ := Option.ne_none_iff_exists'.mp there
    obtain ⟨entry, here⟩ := walk.cell
    by_cases named : entry.name = name
    · have was := walk.hit here named
      refine ⟨l, [], .found a previous, by simp [deleteStep, here, named], ⟨was, ⟨entry, here, named⟩, walk⟩,
        by simp, ?_, .keeps fun _ => rfl⟩
      obtain ⟨before, after, along⟩ := walk
      have some : 0 < after.length := by
        cases after with
        | nil => exact absurd along.chain (by simp [Chain])
        | cons b rest => simp
      have length := DeletePoint.ahead_eq along.chain
      simp only [DeletePoint.rank]
      omega
    · refine ⟨l, [], .last a previous, by simp [deleteStep, here, named], ⟨entry, here, walk.next here named⟩,
        by simp, ?_, .keeps fun _ => rfl⟩
      simp [DeletePoint.rank]
  | last a previous =>
    obtain ⟨entry, here, walk⟩ := knows
    by_cases stops : entry.next = none
    · have missing := Walk.at_end (stops ▸ walk)
      refine ⟨l, [], .returned 1, by simp [deleteStep, here, stops], by simp [DeletePoint.At, missing], by simp, ?_, ?_⟩
      · simp [DeletePoint.rank]
      · exact .keeps (by simp [missing])
    · refine ⟨l, [], .store a, by simp [deleteStep, here, stops], ⟨entry, here, stops, walk⟩, by simp, ?_, ?_⟩
      · simp [DeletePoint.rank]
      · exact .keeps fun _ => rfl
  | store a =>
    refine ⟨l, [], .move a (some a), rfl, knows, by simp, ?_, .keeps fun _ => rfl⟩
    simp [DeletePoint.rank]
  | move a previous =>
    obtain ⟨entry, here, goes, walk⟩ := knows
    refine ⟨l, [], .compare entry.next previous, by simp [deleteStep, here], ⟨goes, walk⟩, by simp, ?_,
      .keeps fun _ => rfl⟩
    have fewer := walk.ahead_cons here
    simp only [DeletePoint.rank]
    omega
  | found a previous =>
    by_cases first : some a = l.head
    · refine ⟨l, [], .sendHead a, by simp [deleteStep, first], ⟨first, previous, knows⟩, by simp, ?_,
        .keeps fun _ => rfl⟩
      simp [DeletePoint.rank]
    · refine ⟨l, [], .sendBehind a previous, by simp [deleteStep, first], ⟨first, knows⟩, by simp, ?_,
        .keeps fun _ => rfl⟩
      simp [DeletePoint.rank]
  | sendHead a =>
    obtain ⟨first, previous, hit⟩ := knows
    obtain ⟨entry, here, _⟩ := hit.named
    refine ⟨l, [.told entry.remote], .unlinkHead, by simp [deleteStep, here], ⟨a, previous, first, hit⟩,
      by simp, ?_, .tells rfl⟩
    simp [DeletePoint.rank]
  | unlinkHead =>
    obtain ⟨a, previous, first, hit⟩ := knows
    obtain ⟨entry, here, named, sound', erased⟩ := hit.unlinkHead sound first
    refine ⟨_, [.unlinked name], .clear, by simp [deleteStep, ← first, here, named], hit.was, by simp, ?_,
      .unlinks hit.was rfl sound' erased⟩
    simp [DeletePoint.rank]
  | sendBehind a previous =>
    obtain ⟨entry, here, _⟩ := knows.2.named
    refine ⟨l, [.told entry.remote], .unlinkBehind a previous, by simp [deleteStep, here], knows, by simp, ?_,
      .tells rfl⟩
    simp [DeletePoint.rank]
  | unlinkBehind a previous =>
    obtain ⟨behind, hit⟩ := knows
    obtain ⟨entry, p, heap, here, named, rfl, written, sound', erased⟩ := hit.unlinkBehind sound behind
    refine ⟨{ l with heap }, [.unlinked name], .clear, by simp [deleteStep, here, named, written], hit.was,
      by simp, ?_, .unlinks hit.was rfl sound' erased⟩
    simp [DeletePoint.rank]
  | clear =>
    refine ⟨l, [], .returned 0, rfl, by simpa [DeletePoint.At] using knows, by simp, ?_, .keeps fun _ => rfl⟩
    simp [DeletePoint.rank]

/-- A new node stands in front of the list. -/
structure Fronted (l : Cells) (name : CString) (remote : SockUdpEp) (l' : Cells) : Prop where
  sound : Sound l'
  nodes : chain l' = l.heap.limit :: chain l
  pairs : toList l' = (name,remote) :: toList l
  kept : ∀ a entry, l.heap.cells a = some entry → l'.heap.cells a = some entry

/-- A request puts a node with the pending name in front of the list, which has no such
node yet, or leaves the list as it is. -/
inductive Requested (s : ActuatorSide) (payload : Option NodeIdentity) : ActuatorSide → List ListEvent → Prop where
  | accepted {id : NodeIdentity} : payload = some id → s.actuatorId = some id.name → listed (toList s.list) id.name = false →
      Fronted s.list id.name remote list →
      Requested s payload { s with list, isRegistered := true } [.accepted id.name remote]
  | refused : (actuatorId = s.actuatorId ∨ actuatorId = none) → Requested s payload { s with actuatorId } []

theorem nodeExists_listed {l : Cells} (sound : Sound l) (name : CString) :
    Actuators.nodeExists l name = some (if listed (toList l) name then 0 else 1) := by
  obtain ⟨found, run, _, missing⟩ := search_spec sound name
  by_cases absent : found.entry = none
  · have off := missing.mp absent
    simp [Actuators.nodeExists, run, absent, listed, off]
  · have on : (toList l).any (·.1 = name) = true := by simpa using mt missing.mpr absent
    simp [Actuators.nodeExists, run, absent, listed, on]

theorem getNode_listed {l : Cells} (sound : Sound l) (name : CString) :
    ∃ ptr, Actuators.getNode l name = some ptr ∧ (ptr ≠ none ↔ listed (toList l) name = true) := by
  obtain ⟨found, run, _, missing⟩ := search_spec sound name
  refine ⟨found.entry, by simp [Actuators.getNode, run], ?_⟩
  rw [ne_eq, missing, listed, Bool.not_eq_false]

theorem registerRequest_spec (gnrc : Gnrc) {s : ActuatorSide} (sound : Sound s.list) (payload : Option NodeIdentity) :
    ∃ s' events code, registerRequest gnrc s payload = some (s',events,code) ∧ Requested s payload s' events := by
  cases waiting : s.actuatorId with
  | none => exact ⟨s, [], .badRequest, by simp [registerRequest, waiting], .refused (.inl rfl)⟩
  | some pending =>
  cases payload with
  | none => exact ⟨_, [], .badRequest, by simp [registerRequest, waiting], .refused (.inr rfl)⟩
  | some id =>
  have search := nodeExists_listed sound pending
  by_cases known : listed (toList s.list) pending = true
  · exact ⟨s, [], .badRequest, by simp [registerRequest, waiting, search, known], .refused (.inl rfl)⟩
  · have absent : listed (toList s.list) pending = false := by simpa using known
    by_cases same : pending = id.name
    · subst same
      let remote := entryRemote gnrc id.ipAddr (gnrc.addrToStr id.ipAddr)
      obtain ⟨list, run, sound', nodes, first, kept, -⟩ := insertNew_frame sound id.name remote
      obtain ⟨list', run', _, pairs, _⟩ := insertNew_spec sound id.name remote
      obtain rfl : list = list' := Option.some.inj (run.symm.trans run')
      refine ⟨_, _, .changed, ?_, .accepted rfl waiting absent ⟨sound', nodes, pairs, kept⟩⟩
      simp [registerRequest, waiting, search, absent, entryRemote_port, remote, run]
    · exact ⟨_, [], .badRequest, by simp [registerRequest, waiting, search, absent, same], .refused (.inr rfl)⟩

/-- On a list that is sound the request does what the gateway's handler does. -/
theorem registerRequest_handler (gnrc : Gnrc) (g : Globals) (shell : ActuatorShell) (payload : Option NodeIdentity) :
    (registerRequest gnrc ⟨g.actuators.cells,g.actuatorId,g.isRegistered,shell⟩ payload).map
        (fun (s,_,code) => (s.list,s.actuatorId,s.isRegistered,code)) =
      some ((actuatorRegisterHandler gnrc g payload).1.actuators.cells,
        (actuatorRegisterHandler gnrc g payload).1.actuatorId,
        (actuatorRegisterHandler gnrc g payload).1.isRegistered,(actuatorRegisterHandler gnrc g payload).2.2) := by
  cases waiting : g.actuatorId with
  | none => simp [registerRequest, actuatorRegisterHandler, waiting]
  | some pending =>
  cases payload with
  | none => simp [registerRequest, actuatorRegisterHandler, waiting]
  | some id =>
  have search := nodeExists_listed g.actuators.sound pending
  have same : listed (toList g.actuators.cells) pending = g.actuators.toList.any (·.1 = pending) := rfl
  by_cases known : g.actuators.toList.any (·.1 = pending) = true
  · simp [registerRequest, actuatorRegisterHandler, waiting, search, same, ActuatorList.nodeExists_eq, known]
  · by_cases named : pending = id.name
    · subst named
      simp [registerRequest, actuatorRegisterHandler, waiting, search, same, ActuatorList.nodeExists_eq, known,
        addActuatorEntry, entryRemote_port, ActuatorList.insertNode_cells]
    · simp [registerRequest, actuatorRegisterHandler, waiting, search, same, ActuatorList.nodeExists_eq, known, named]

namespace Fronted
variable {l l' : Cells} {name : CString} {remote : SockUdpEp}

theorem walk (front : Fronted l name remote l') (absent : listed (toList l) name = false)
    (walk : Walk l name stored ptr previous) : Walk l' name stored ptr previous := by
  cases stored with
  | false => exact walk.insert front.nodes front.kept
  | true =>
    obtain ⟨before, after, along⟩ := walk
    exact absurd (along.listed rfl) (by simp [absent])

/-- The rest of the walk is as long as before. -/
theorem ahead (front : Fronted l name remote l') (walk : Walk l name stored ptr previous) :
    DeletePoint.ahead l' ptr = DeletePoint.ahead l ptr := by
  obtain ⟨before, after, along⟩ := walk
  have same : ∀ a ∈ after, l'.heap.cells a = l.heap.cells a := by
    intro a member
    obtain ⟨entry, here⟩ := along.chain.cell member
    rw [front.kept a entry here, here]
  rw [DeletePoint.ahead_eq along.chain, DeletePoint.ahead_eq (along.chain.frame same)]

theorem passed (front : Fronted l name remote l') (absent : listed (toList l) name = false)
    (here : l.heap.cells a = some entry) (walk : Walk l name stored entry.next previous) :
    l'.heap.cells a = some entry ∧ Walk l' name stored entry.next previous ∧
      DeletePoint.ahead l' (some a) = DeletePoint.ahead l (some a) := by
  have here' := front.kept a entry here
  have walk' := front.walk absent walk
  refine ⟨here', walk', ?_⟩
  rw [walk.ahead_cons here, walk'.ahead_cons here', front.ahead walk]

theorem search (front : Fronted l name remote l') (absent : listed (toList l) name = false)
    {point : SearchPoint} (knows : point.At l name stored) : point.At l' name stored := by
  cases point with
  | read => trivial
  | test ptr =>
    obtain ⟨previous, walk⟩ := knows
    exact ⟨previous, front.walk absent walk⟩
  | compare a =>
    obtain ⟨previous, walk⟩ := knows
    exact ⟨previous, front.walk absent walk⟩
  | advance a =>
    obtain ⟨entry, here, previous, walk⟩ := knows
    exact ⟨entry, front.kept a entry here, previous, front.walk absent walk⟩
  | result ptr =>
    refine ⟨knows.1, fun a same => ?_⟩
    obtain ⟨entry, here⟩ := knows.2 a same
    exact ⟨entry, front.kept a entry here⟩

end Fronted

theorem Walk.listed {l : Cells} (walk : Walk l name true ptr previous) : listed (toList l) name = true := by
  obtain ⟨before, after, along⟩ := walk
  exact along.listed rfl

/-- Until the node is taken out, a deletion that will find it sees it in the list. -/
theorem DeletePoint.At.listed {l : Cells} {point : DeletePoint} (knows : point.At l name true) (begun : point ≠ .read)
    (notYet : point.gone = false) : listed (toList l) name = true := by
  cases point with
  | read => exact absurd rfl begun
  | empty current => exact knows.1.listed
  | compare current previous => exact knows.2.listed
  | last a previous => obtain ⟨_, _, walk⟩ := knows; exact walk.listed
  | store a => obtain ⟨_, _, _, walk⟩ := knows; exact walk.listed
  | move a previous => obtain ⟨_, _, _, walk⟩ := knows; exact walk.listed
  | found a previous => exact knows.walk.listed
  | sendHead a => obtain ⟨_, _, hit⟩ := knows; exact hit.walk.listed
  | unlinkHead => obtain ⟨_, _, _, hit⟩ := knows; exact hit.walk.listed
  | sendBehind a previous => exact knows.2.walk.listed
  | unlinkBehind a previous => exact knows.2.walk.listed
  | clear => simp [DeletePoint.gone] at notYet
  | returned code => simp [DeletePoint.gone] at notYet

/-- Only between its two readings of the head of an empty list does a new node in front
disturb a deletion. -/
theorem Fronted.delete {l l' : Cells} (front : Fronted l name remote l') (absent : listed (toList l) name = false)
    {point : DeletePoint} (knows : point.At l name stored) (begun : point ≠ .read) (timely : point ≠ .empty none) :
    point.At l' name stored ∧ point.rank l' = point.rank l := by
  cases stored with
  | true =>
    have done : point.gone = true := by
      by_contra notYet
      have inList := knows.listed begun (by simpa using notYet)
      simp [absent] at inList
    cases point <;> simp_all [DeletePoint.gone, DeletePoint.At, DeletePoint.rank]
  | false =>
    cases point with
    | read => exact absurd rfl begun
    | empty current =>
      have there : current ≠ none := by
        rintro rfl
        exact timely rfl
      exact ⟨⟨front.walk absent knows.1, fun none => absurd none there⟩,
        by simp only [DeletePoint.rank, front.ahead knows.1]⟩
    | compare current previous =>
      exact ⟨⟨knows.1, front.walk absent knows.2⟩, by simp only [DeletePoint.rank, front.ahead knows.2]⟩
    | last a previous =>
      obtain ⟨entry, here, walk⟩ := knows
      obtain ⟨here', walk', same⟩ := front.passed absent here walk
      exact ⟨⟨entry, here', walk'⟩, by simp only [DeletePoint.rank, same]⟩
    | store a =>
      obtain ⟨entry, here, goes, walk⟩ := knows
      obtain ⟨here', walk', same⟩ := front.passed absent here walk
      exact ⟨⟨entry, here', goes, walk'⟩, by simp only [DeletePoint.rank, same]⟩
    | move a previous =>
      obtain ⟨entry, here, goes, walk⟩ := knows
      obtain ⟨here', walk', same⟩ := front.passed absent here walk
      exact ⟨⟨entry, here', goes, walk'⟩, by simp only [DeletePoint.rank, same]⟩
    | found a previous => exact absurd knows.was (by simp)
    | sendHead a => obtain ⟨_, _, hit⟩ := knows; exact absurd hit.was (by simp)
    | unlinkHead => obtain ⟨_, _, _, hit⟩ := knows; exact absurd hit.was (by simp)
    | sendBehind a previous => exact absurd knows.2.was (by simp)
    | unlinkBehind a previous => exact absurd knows.2.was (by simp)
    | clear => exact absurd knows (by simp [DeletePoint.At])
    | returned code => exact ⟨knows, rfl⟩

/-! What holds at every moment of a run. -/

/-- The name that the running command has put into `ACTUATOR_ID`. -/
def ActuatorShell.target : ActuatorShell → Option CString
  | .idle => none
  | .auth _ .start => none
  | .auth name _ => some name
  | .nodeExists name _ => some name
  | .getNode name _ => some name
  | .deauth _ .start => none
  | .deauth name _ => some name
  | .deleteNode name _ => some name
  | .crashed => none

/-- How the events since the head was read reflect the progress of a deletion. -/
structure Reported (name : CString) (stored gone : Bool) (later : List ListEvent) : Prop where
  quiet : stored = true → gone = false → ∀ event ∈ later, event.changes = false
  unlinked : stored = true → gone = true → Unlinked name later
  leaves : stored = false → ∀ event ∈ later, event.removes = false

def Searching (trace : List ListEvent) (l : Cells) (name : CString) (point : SearchPoint) : Prop :=
  point ≠ .read → ∃ earlier later, SplitAt (.searching name) trace earlier later ∧
    point.At l name (listed (contents earlier) name)

def Deleting (trace : List ListEvent) (l : Cells) (name : CString) (point : DeletePoint) : Prop :=
  point ≠ .read → ∃ earlier later, SplitAt (.deleting name) trace earlier later ∧
    point.At l name (listed (contents earlier) name) ∧
    Reported name (listed (contents earlier) name) point.gone later

def ActuatorShell.At (trace : List ListEvent) (l : Cells) : ActuatorShell → Prop
  | .nodeExists name point => Searching trace l name point
  | .getNode name point => Searching trace l name point
  | .deleteNode name point => Deleting trace l name point
  | _ => True

structure Kept (trace : List ListEvent) (s : ActuatorSide) : Prop where
  sound : Sound s.list
  distinct : ((toList s.list).map Prod.fst).Nodup
  exact : toList s.list = contents trace
  owned : s.shell ≠ .crashed → ∀ name, s.actuatorId = some name → s.shell.target = some name
  knows : s.shell.At trace s.list

theorem kept_start : Kept [] .start where
  sound := ActuatorList.empty_spec.1
  distinct := by
    rw [show toList ActuatorSide.start.list = [] from ActuatorList.toList_empty]
    exact List.nodup_nil
  exact := ActuatorList.toList_empty
  owned := by simp [ActuatorSide.start]
  knows := trivial

namespace Reported
variable {name : CString} {stored gone : Bool} {later events : List ListEvent}

theorem begin (name : CString) (stored : Bool) : Reported name stored false [] :=
  ⟨by simp, by simp, by simp⟩

/-- Events that take nothing out, and change nothing while the node is still to be found. -/
theorem append (reported : Reported name stored gone later) (leaves : ∀ event ∈ events, event.removes = false)
    (quiet : stored = true → gone = false → ∀ event ∈ events, event.changes = false)
    (same : stored = true → gone' = gone) : Reported name stored gone' (later ++ events) := by
  have both : ∀ {test : ListEvent → Bool}, (∀ event ∈ later, test event = false) →
      (∀ event ∈ events, test event = false) → ∀ event ∈ later ++ events, test event = false := by
    intro test first second event member
    exact (List.mem_append.mp member).elim (first event) (second event)
  refine ⟨fun was notYet => ?_, fun was done => ?_, fun wasNot => both (reported.leaves wasNot) leaves⟩
  · obtain rfl := same was
    exact both (reported.quiet was notYet) (quiet was notYet)
  · obtain rfl := same was
    obtain ⟨during, after, split, before, behind⟩ := reported.unlinked was done
    refine ⟨during, after ++ events, by simp [split], before, ?_⟩
    intro event member
    exact (List.mem_append.mp member).elim (behind event) (leaves event)

theorem unlink (reported : Reported name true false later) :
    Reported name true true (later ++ [.unlinked name]) :=
  ⟨by simp, fun _ _ => ⟨later, [], rfl, reported.quiet rfl rfl, by simp⟩, by simp⟩

end Reported

theorem Fronted.searching {l l' : Cells} {trace : List ListEvent} (front : Fronted l name remote l')
    (absent : listed (toList l) name = false) (knows : Searching trace l name point) :
    Searching (trace ++ [.accepted name remote]) l' name point := by
  intro begun
  obtain ⟨earlier, later, split, here⟩ := knows begun
  exact ⟨earlier, later ++ [.accepted name remote], split.append _ (by simp), front.search absent here⟩

theorem Fronted.deleting {l l' : Cells} {trace : List ListEvent} (front : Fronted l name remote l')
    (absent : listed (toList l) name = false) (timely : point ≠ .empty none) (knows : Deleting trace l name point) :
    Deleting (trace ++ [.accepted name remote]) l' name point := by
  intro begun
  obtain ⟨earlier, later, split, here, reported⟩ := knows begun
  refine ⟨earlier, later ++ [.accepted name remote], split.append _ (by simp),
    (front.delete absent here begun timely).1, reported.append (by simp [ListEvent.removes]) ?_ fun _ => rfl⟩
  intro was notYet
  rw [was] at here
  have inList := here.listed begun notYet
  simp [absent] at inList

/-- A request keeps what the shell thread knows. -/
theorem Kept.request {s s' : ActuatorSide} {trace events : List ListEvent} (kept : Kept trace s)
    (requested : Requested s payload s' events) (alive : s.shell ≠ .crashed)
    (timely : s.timely (.request payload)) : Kept (trace ++ events) s' := by
  cases requested with
  | refused either =>
    refine ⟨kept.sound, kept.distinct, by simpa using kept.exact, ?_, by simpa using kept.knows⟩
    intro alive name waiting
    rcases either with rfl | rfl
    · exact kept.owned alive name waiting
    · simp at waiting
  | @accepted remote list id same waiting absent front =>
    subst same
    have target := kept.owned alive id.name waiting
    have knows := kept.knows
    refine ⟨front.sound, ?_, ?_, kept.owned, ?_⟩
    · rw [front.pairs, List.map_cons]
      refine List.nodup_cons.mpr ⟨?_, kept.distinct⟩
      intro again
      obtain ⟨node, member, same⟩ := List.mem_map.mp again
      exact absurd same (by simpa using List.any_eq_false.mp absent node member)
    · rw [front.pairs, kept.exact, contents_append]
      rfl
    · revert knows target
      cases shell : s.shell with
      | nodeExists name point =>
        intro target knows
        obtain rfl : name = id.name := Option.some.inj target
        exact front.searching absent knows
      | getNode name point =>
        intro target knows
        obtain rfl : name = id.name := Option.some.inj target
        exact front.searching absent knows
      | deleteNode name point =>
        intro target knows
        obtain rfl : name = id.name := Option.some.inj target
        refine front.deleting absent ?_ knows
        rintro rfl
        simp [ActuatorSide.timely, ActuatorSide.overtakes, waiting, shell] at timely
      | _ => intros; trivial

namespace Kept
variable {s s' : ActuatorSide} {trace events : List ListEvent}

/-- A statement that leaves the list alone. -/
theorem turn (kept : Kept trace s) (quiet : ∀ event ∈ events, event.changes = false) (same : s'.list = s.list)
    (owned : s'.shell ≠ .crashed → ∀ name, s'.actuatorId = some name → s'.shell.target = some name)
    (knows : s'.shell.At (trace ++ events) s.list) : Kept (trace ++ events) s' where
  sound := same ▸ kept.sound
  distinct := same ▸ kept.distinct
  exact := by rw [same, kept.exact, contents_quiet quiet]
  owned := owned
  knows := same ▸ knows

theorem search (kept : Kept trace s) (knows : Searching trace s.list name point) :
    ∃ events point', searchStep s.list name point = some (events,point') ∧
      (∀ event ∈ events, event.changes = false) ∧ Searching (trace ++ events) s.list name point' := by
  by_cases begins : point = .read
  · subst begins
    refine ⟨_, _, rfl, by simp [ListEvent.changes], fun _ => ⟨trace, [], .last _ _, ?_⟩⟩
    rw [← kept.exact]
    exact ⟨none, .start kept.sound name⟩
  · obtain ⟨earlier, later, split, here⟩ := knows begins
    obtain ⟨point', run, here', _⟩ := searchStep_spec here begins
    exact ⟨[], point', run, by simp, fun _ => ⟨earlier, later, by simpa using split, here'⟩⟩

theorem auth (kept : Kept trace s) (shell : s.shell = .auth name point) :
    Kept (trace ++ []) (s.authStep name point) := by
  have owned := kept.owned (by simp [shell])
  rw [shell] at owned
  cases point with
  | start => exact kept.turn (by simp) rfl (fun _ _ waiting => waiting) trivial
  | check => exact kept.turn (by simp) rfl (fun _ => owned) fun begun => absurd rfl begun
  | prompt => exact kept.turn (by simp) rfl (fun _ => owned) trivial
  | timeout count =>
    by_cases late : count > 50
    · exact kept.turn (by simp) rfl (by simpa [ActuatorSide.authStep, ActuatorShell.target, late] using owned) trivial
    · exact kept.turn (by simp) rfl (by simpa [ActuatorSide.authStep, ActuatorShell.target, late] using owned) trivial
  | flag count =>
    cases registered : s.isRegistered with
    | true => exact kept.turn (by simp) rfl (by simpa [ActuatorSide.authStep, ActuatorShell.target, registered] using owned) trivial
    | false => exact kept.turn (by simp) rfl (by simpa [ActuatorSide.authStep, ActuatorShell.target, registered] using owned) trivial
  | sleep count => exact kept.turn (by simp) rfl (fun _ => owned) trivial
  | clear => exact kept.turn (by simp) rfl (fun _ => owned) trivial
  | log => exact kept.turn (by simp) rfl (fun _ => owned) trivial
  | respond => exact kept.turn (by simp) rfl (fun _ => owned) fun begun => absurd rfl begun
  | done code => exact kept.turn (by simp) rfl (by simp [ActuatorSide.authStep]) trivial

theorem deauth (kept : Kept trace s) (shell : s.shell = .deauth name point) :
    Kept (trace ++ []) (s.deauthStep name point) := by
  have owned := kept.owned (by simp [shell])
  rw [shell] at owned
  cases point with
  | start => exact kept.turn (by simp) rfl (fun _ _ waiting => waiting) trivial
  | remove => exact kept.turn (by simp) rfl (fun _ => owned) fun begun => absurd rfl begun
  | log => exact kept.turn (by simp) rfl (fun _ => owned) trivial
  | done code => exact kept.turn (by simp) rfl (by simp [ActuatorSide.deauthStep]) trivial

/-- One statement of `delete_node`, of which there is always a next one. -/
theorem delete (kept : Kept trace s) (shell : s.shell = .deleteNode name point)
    (running : ∀ code, point ≠ .returned code) :
    ∃ list events point', deleteStep s.list name point = some (list,events,point') ∧
      Kept (trace ++ events) { s with list, shell := .deleteNode name point' } ∧
      point' ≠ .read ∧ (point ≠ .read → point'.rank list < point.rank s.list) := by
  have owned := kept.owned (by simp [shell])
  have knows := kept.knows
  rw [shell] at owned knows
  by_cases begins : point = .read
  · subst begins
    have here : (DeletePoint.empty s.list.head).At s.list name (listed (contents trace) name) := by
      rw [← kept.exact]
      exact ⟨.start kept.sound name, id⟩
    refine ⟨s.list, [.deleting name], .empty s.list.head, rfl, ?_, by simp, fun begun => absurd rfl begun⟩
    exact kept.turn (by simp [ListEvent.changes]) rfl (fun _ => owned)
      fun _ => ⟨trace, [], .last _ _, here, .begin name _⟩
  · obtain ⟨earlier, later, split, here, reported⟩ := knows begins
    obtain ⟨list, events, point', run, here', begun, less, deletes⟩ := deleteStep_spec kept.sound here begins running
    refine ⟨list, events, point', run, ?_, begun, fun _ => less⟩
    cases deletes with
    | keeps same =>
      refine kept.turn (by simp) rfl (fun _ => owned) fun _ => ⟨earlier, later ++ [], split.append _ (by simp), here',
        reported.append (by simp) (by simp) same⟩
    | tells same =>
      refine kept.turn (by simp [ListEvent.changes]) rfl (fun _ => owned) fun _ => ⟨earlier, later ++ [_], split.append _ (by simp), here',
        reported.append (by simp [ListEvent.removes]) (by simp [ListEvent.changes]) fun _ => same⟩
    | unlinks was notYet sound' erased =>
      refine ⟨sound', ?_, ?_, fun _ => owned, fun _ => ⟨earlier, _, split.append _ (by simp), here', ?_⟩⟩
      · rw [erased]
        exact kept.distinct.sublist (List.eraseP_sublist.map Prod.fst)
      · rw [erased, kept.exact, contents_append]
        rfl
      · rw [was, notYet] at reported
        rw [was]
        exact reported.unlink

theorem shellStep_delete (shell : s.shell = .deleteNode name point) (running : ∀ code, point ≠ .returned code)
    (run : deleteStep s.list name point = some (list,events,point')) :
    s.shellStep = some ({ s with list, shell := .deleteNode name point' },events) := by
  cases point with
  | returned code => exact absurd rfl (running code)
  | _ => simp [ActuatorSide.shellStep, shell, run]

theorem shellStep (kept : Kept trace s) (taken : s.shellStep = some (s',events)) : Kept (trace ++ events) s' := by
  have owned := kept.owned
  have knows := kept.knows
  cases shell : s.shell with
  | idle => simp [ActuatorSide.shellStep, shell] at taken
  | crashed => simp [ActuatorSide.shellStep, shell] at taken
  | auth name point =>
    simp only [ActuatorSide.shellStep, shell, Option.some.injEq, Prod.mk.injEq] at taken
    obtain ⟨rfl, rfl⟩ := taken
    exact kept.auth shell
  | deauth name point =>
    simp only [ActuatorSide.shellStep, shell, Option.some.injEq, Prod.mk.injEq] at taken
    obtain ⟨rfl, rfl⟩ := taken
    exact kept.deauth shell
  | nodeExists name point =>
    rw [shell] at owned knows
    cases point with
    | result ptr =>
      simp only [ActuatorSide.shellStep, shell, Option.some.injEq, Prod.mk.injEq] at taken
      obtain ⟨rfl, rfl⟩ := taken
      refine kept.turn (by simp) rfl ?_ trivial
      by_cases nothing : ptr = none
      · simpa [nothing, ActuatorShell.target] using owned
      · simpa [nothing, ActuatorShell.target] using owned
    | _ =>
      obtain ⟨events', point', run, quiet, knows'⟩ := kept.search knows
      simp only [ActuatorSide.shellStep, shell, run, Option.some.injEq, Prod.mk.injEq] at taken
      obtain ⟨rfl, rfl⟩ := taken
      exact kept.turn quiet rfl (fun _ => owned (by simp)) knows'
  | getNode name point =>
    rw [shell] at owned knows
    cases point with
    | result ptr =>
      simp only [ActuatorSide.shellStep, shell] at taken
      split at taken <;> (obtain ⟨rfl, rfl⟩ := taken)
      · exact kept.turn (by simp) rfl (fun alive => absurd rfl alive) trivial
      · exact kept.turn (by simp [ListEvent.changes]) rfl (fun _ => owned (by simp)) trivial
    | _ =>
      obtain ⟨events', point', run, quiet, knows'⟩ := kept.search knows
      simp only [ActuatorSide.shellStep, shell, run, Option.some.injEq, Prod.mk.injEq] at taken
      obtain ⟨rfl, rfl⟩ := taken
      exact kept.turn quiet rfl (fun _ => owned (by simp)) knows'
  | deleteNode name point =>
    rw [shell] at owned
    by_cases running : ∀ code, point ≠ .returned code
    · obtain ⟨list, events', point', run, kept', _⟩ := kept.delete shell running
      rw [shellStep_delete shell running run] at taken
      obtain ⟨rfl, rfl⟩ := taken
      exact kept'
    · obtain ⟨code, returned⟩ := not_forall_not.mp running
      simp only [ActuatorSide.shellStep, shell, returned, Option.some.injEq, Prod.mk.injEq] at taken
      obtain ⟨rfl, rfl⟩ := taken
      refine kept.turn (by simp) rfl ?_ trivial
      by_cases found : code = 0
      · simpa [found, ActuatorShell.target] using owned
      · simpa [found, ActuatorShell.target] using owned

/-- One step of the system, if no request overtakes the reading of an empty list. -/
theorem step {gnrc : Gnrc} (kept : Kept trace s) (timely : s.timely a)
    (taken : ActuatorSide.step gnrc s a = some (s',events)) : Kept (trace ++ events) s' := by
  cases a with
  | authActuator name =>
    simp only [ActuatorSide.step] at taken
    split at taken
    next idle =>
      obtain ⟨rfl, rfl⟩ := taken
      have owned := kept.owned (by simp [idle])
      rw [idle] at owned
      exact kept.turn (by simp) rfl (fun _ => owned) trivial
    next => contradiction
  | deauthActuator name =>
    simp only [ActuatorSide.step] at taken
    split at taken
    next idle =>
      obtain ⟨rfl, rfl⟩ := taken
      have owned := kept.owned (by simp [idle])
      rw [idle] at owned
      exact kept.turn (by simp) rfl (fun _ => owned) trivial
    next => contradiction
  | shell => exact kept.shellStep taken
  | request payload =>
    simp only [ActuatorSide.step] at taken
    split at taken
    next => contradiction
    next alive =>
      obtain ⟨s₁, events₁, code, run, requested⟩ := registerRequest_spec gnrc kept.sound payload
      rw [run] at taken
      obtain ⟨rfl, rfl⟩ := taken
      exact kept.request requested alive timely

end Kept

/-- Everything but the shell thread, with requests that do not overtake. -/
def ActuatorSide.beside (s : ActuatorSide) (a : ListAction) : Prop := a ≠ .shell ∧ s.timely a

/-- What is claimed of the list after a run. -/
structure SetOfNames (gnrc : Gnrc) (trace : List ListEvent) (s : ActuatorSide) : Prop where
  acyclic : Chain s.list.heap.cells s.list.head (chain s.list) ∧ (chain s.list).Nodup
  distinct : ((toList s.list).map Prod.fst).Nodup
  exact : toList s.list = contents trace
  present : ∀ earlier name remote later, trace = earlier ++ .accepted name remote :: later →
    .unlinked name ∉ later → (name,remote) ∈ toList s.list
  nodeExists : ∀ name, Actuators.nodeExists s.list name = some (if listed (toList s.list) name then 0 else 1)
  getNode : ∀ name, ∃ ptr, Actuators.getNode s.list name = some ptr ∧ (ptr ≠ none ↔ listed (toList s.list) name = true)
  searched : ∀ name ptr, s.shell = .nodeExists name (.result ptr) ∨ s.shell = .getNode name (.result ptr) →
    ∃ earlier later, SplitAt (.searching name) trace earlier later ∧
      (ptr ≠ none ↔ listed (contents earlier) name = true)
  deleted : ∀ name code, s.shell = .deleteNode name (.returned code) →
    ∃ earlier later, SplitAt (.deleting name) trace earlier later ∧
      code = (if listed (contents earlier) name then 0 else 1) ∧
      (code = 0 → ∃ during after, later = during ++ .unlinked name :: after ∧
        contents (earlier ++ .deleting name :: during ++ [.unlinked name]) =
          (contents earlier).eraseP (·.1 = name) ∧
        ∀ event ∈ during ++ after, event.removes = false) ∧
      (code = 1 → ∀ event ∈ later, event.removes = false)
  returns : ∀ name point, s.shell = .deleteNode name point →
    Finishes (ActuatorSide.step gnrc) ActuatorSide.beside .shell
      (fun t => ∃ code, t.shell = .deleteNode name (.returned code)) s

namespace Kept
variable {gnrc : Gnrc} {s t : ActuatorSide} {trace events : List ListEvent}

/-- Nobody else moves the shell thread or makes its deletion longer. -/
theorem beside (kept : Kept trace s) (shell : s.shell = .deleteNode name point) (ok : s.beside a)
    (taken : ActuatorSide.step gnrc s a = some (t,events)) :
    t.shell = .deleteNode name point ∧ (point ≠ .read → point.rank t.list = point.rank s.list) := by
  cases a with
  | authActuator name => simp [ActuatorSide.step, shell] at taken
  | deauthActuator name => simp [ActuatorSide.step, shell] at taken
  | shell => exact absurd rfl ok.1
  | request payload =>
    obtain ⟨s', events', code, run, requested⟩ := registerRequest_spec gnrc kept.sound payload
    simp only [ActuatorSide.step, shell, run, Option.map_some, reduceCtorEq, ↓reduceIte, Option.some.injEq,
      Prod.mk.injEq] at taken
    obtain ⟨rfl, rfl⟩ := taken
    cases requested with
    | refused either => exact ⟨shell, fun _ => rfl⟩
    | @accepted remote list id same waiting absent front =>
      subst same
      refine ⟨shell, fun begun => ?_⟩
      have target := kept.owned (by simp [shell]) id.name waiting
      rw [shell] at target
      obtain rfl : name = id.name := Option.some.inj target
      have knows := kept.knows
      rw [shell] at knows
      obtain ⟨earlier, later, -, here, -⟩ := knows begun
      apply (front.delete absent here begun _).2
      rintro rfl
      simp [ActuatorSide.beside, ActuatorSide.timely, ActuatorSide.overtakes, shell, waiting] at ok

/-- From its second statement on a deletion runs to its return. -/
theorem returns_begun (kept : Kept trace s) (shell : s.shell = .deleteNode name point) (begun : point ≠ .read) :
    Finishes (ActuatorSide.step gnrc) ActuatorSide.beside .shell
      (fun t => ∃ code, t.shell = .deleteNode name (.returned code)) s := by
  let runs (t : ActuatorSide) : Prop :=
    ∃ trace point, Kept trace t ∧ t.shell = .deleteNode name point ∧ point ≠ .read
  let rank (t : ActuatorSide) : Nat :=
    match t.shell with
    | .deleteNode _ point => point.rank t.list
    | _ => 0
  apply finishes runs rank
  · rintro t a u events ⟨trace, point, kept, shell, begun⟩ notYet ok taken
    obtain ⟨shell', same⟩ := kept.beside shell ok taken
    refine ⟨⟨_, point, kept.step ok.2 taken, shell', begun⟩, ?_, ?_⟩
    · simp only [rank, shell, shell']
      exact (same begun).le
    · rintro ⟨code, done⟩
      exact notYet ⟨code, shell.trans (shell'.symm.trans done)⟩
  · rintro t ⟨trace, point, kept, shell, begun⟩ notYet
    have running : ∀ code, point ≠ .returned code := by
      rintro code rfl
      exact notYet ⟨code, shell⟩
    obtain ⟨list, events, point', run, kept', begun', less⟩ := kept.delete shell running
    refine ⟨_, events, shellStep_delete shell running run, ⟨_, point', kept', rfl, begun'⟩, ?_⟩
    simp only [rank, shell]
    exact less begun
  · exact ⟨trace, point, kept, shell, begun⟩

theorem returns (kept : Kept trace s) (shell : s.shell = .deleteNode name point) :
    Finishes (ActuatorSide.step gnrc) ActuatorSide.beside .shell
      (fun t => ∃ code, t.shell = .deleteNode name (.returned code)) s := by
  by_cases begins : point = .read
  · subst begins
    have between : ∀ later t, Path (ActuatorSide.step gnrc) ActuatorSide.beside s later t →
        ∃ trace, Kept trace t ∧ t.shell = .deleteNode name .read := by
      intro later t path
      apply path.state_invariant fun t => ∃ trace, Kept trace t ∧ t.shell = .deleteNode name .read
      · rintro t a u events ⟨trace, kept, shell⟩ ok taken
        exact ⟨_, kept.step ok.2 taken, (kept.beside shell ok taken).1⟩
      · exact ⟨trace, kept, shell⟩
    apply Finishes.next
    · intro later t path
      obtain ⟨_, kept, shell⟩ := between later t path
      obtain ⟨_, events, _, run, _⟩ := kept.delete shell (by simp)
      exact ⟨_, events, shellStep_delete shell (by simp) run⟩
    · intro later t u events path taken
      obtain ⟨_, kept, shell⟩ := between later t path
      obtain ⟨list, events', point', run, kept', begun, _⟩ := kept.delete shell (by simp)
      have next := shellStep_delete shell (by simp) run
      obtain rfl := congrArg Prod.fst (Option.some.inj (taken.symm.trans next))
      exact kept'.returns_begun rfl begun
  · exact kept.returns_begun shell begins

theorem searched (kept : Kept trace s)
    (at_ : s.shell = .nodeExists name (.result ptr) ∨ s.shell = .getNode name (.result ptr)) :
    ∃ earlier later, SplitAt (.searching name) trace earlier later ∧
      (ptr ≠ none ↔ listed (contents earlier) name = true) := by
  have knows : Searching trace s.list name (.result ptr) := by
    have here := kept.knows
    rcases at_ with shell | shell <;> (rw [shell] at here; exact here)
  obtain ⟨earlier, later, split, found, _⟩ := knows (by simp)
  refine ⟨earlier, later, split, ?_⟩
  rw [← found, Option.isSome_iff_ne_none]

theorem deleted (kept : Kept trace s) (shell : s.shell = .deleteNode name (.returned code)) :
    ∃ earlier later, SplitAt (.deleting name) trace earlier later ∧
      code = (if listed (contents earlier) name then 0 else 1) ∧
      (code = 0 → ∃ during after, later = during ++ .unlinked name :: after ∧
        contents (earlier ++ .deleting name :: during ++ [.unlinked name]) =
          (contents earlier).eraseP (·.1 = name) ∧
        ∀ event ∈ during ++ after, event.removes = false) ∧
      (code = 1 → ∀ event ∈ later, event.removes = false) := by
  have knows := kept.knows
  rw [shell] at knows
  obtain ⟨earlier, later, split, here, reported⟩ := knows (by simp)
  refine ⟨earlier, later, split, here, fun zero => ?_, fun one => ?_⟩
  · have was : listed (contents earlier) name = true := by
      by_contra wasNot
      simp [DeletePoint.At, zero, wasNot] at here
    obtain ⟨during, after, rfl, before, behind⟩ := reported.unlinked was rfl
    refine ⟨during, after, rfl, ?_, ?_⟩
    · rw [contents_append, List.append_cons, contents_quiet before, contents_append]
      rfl
    · intro event member
      rcases List.mem_append.mp member with early | late
      · exact ListEvent.removes_quiet (before event early)
      · exact behind event late
  · have wasNot : listed (contents earlier) name = false := by
      by_contra was
      simp [DeletePoint.At, one, was] at here
    exact reported.leaves wasNot

end Kept

/-- Whatever is inserted stays until it is unlinked. -/
theorem contents_present {node : CString × SockUdpEp} {later : List ListEvent} (node_in : node ∈ nodes)
    (kept : .unlinked node.1 ∉ later) : node ∈ later.foldl ListEvent.apply nodes := by
  induction later generalizing nodes with
  | nil => exact node_in
  | cons event rest ih =>
    obtain ⟨first, others⟩ := not_or.mp (mt List.mem_cons.mpr kept)
    apply ih _ others
    cases event with
    | accepted name remote => exact List.mem_cons_of_mem _ node_in
    | unlinked name =>
      have differ : ¬ node.1 = name := by
        rintro rfl
        exact first rfl
      exact (List.mem_eraseP_of_neg (by simpa using differ)).mpr node_in
    | _ => exact node_in

theorem Kept.set {gnrc : Gnrc} {s : ActuatorSide} (kept : Kept trace s) : SetOfNames gnrc trace s where
  acyclic := ⟨kept.sound, kept.sound.nodup⟩
  distinct := kept.distinct
  exact := kept.exact
  present := by
    rintro earlier name remote later rfl stays
    rw [kept.exact, contents_append, List.foldl_cons]
    exact contents_present List.mem_cons_self stays
  nodeExists := nodeExists_listed kept.sound
  getNode := getNode_listed kept.sound
  searched _ _ := kept.searched
  deleted _ _ := kept.deleted
  returns _ _ := kept.returns

/-- Where nothing overtakes, the list is a set of names whatever is preempted. -/
theorem actuators_stay_a_set (gnrc : Gnrc)
    (path : Path (ActuatorSide.step gnrc) ActuatorSide.timely .start trace s) : SetOfNames gnrc trace s := by
  have kept : Kept trace s :=
    path.invariant Kept (fun kept timely taken => kept.step timely taken) kept_start
  exact kept.set

/-- A node is authorized and taken out again, and registers a second time in between. -/
def authThenDeauth : List ListAction :=
  [.authActuator act2.name] ++ List.replicate 5 .shell ++ [.request (some act2)] ++ List.replicate 11 .shell ++
    [.deauthActuator act2.name] ++ List.replicate 7 .shell ++ [.request (some act2)] ++ List.replicate 2 .shell

theorem actuators_stay_a_set_run :
    ∃ s trace, s.shell = .deleteNode act2.name (.returned 0) ∧ SetOfNames board trace s := by
  have run : ∃ s trace, Path (ActuatorSide.step board) ActuatorSide.timely .start trace s ∧
      s.shell = .deleteNode act2.name (.returned 0) :=
    replay_reaches authThenDeauth (fun (s : ActuatorSide) _ => s.shell = .deleteNode act2.name (.returned 0))
      (by decide)
  obtain ⟨s, trace, path, returned⟩ := run
  exact ⟨s, trace, returned, actuators_stay_a_set board path⟩

/-- With `current` NULL and a list that is no longer empty, `delete_node` compares the
name of no node. -/
theorem overtaken_not_returning {gnrc : Gnrc} {s : ActuatorSide} (shell : s.shell = .deleteNode name (.empty none))
    (filled : s.list.head ≠ none) : ¬ SetOfNames gnrc trace s := by
  intro set
  have finish := set.returns name (.empty none) shell
  have toCompare : ActuatorSide.step gnrc s .shell =
      some ({ s with shell := .deleteNode name (.compare none none) },[]) := by
    simp [ActuatorSide.step, ActuatorSide.shellStep, shell, deleteStep, filled]
  have atCompare := finish.rest (by simp [shell]) toCompare
  have toCrash : ActuatorSide.step gnrc { s with shell := .deleteNode name (.compare none none) } .shell =
      some ({ s with shell := .crashed },[]) := rfl
  obtain ⟨t, events, onward⟩ := (atCompare.rest (by simp) toCrash).possible (by simp)
  simp [ActuatorSide.step, ActuatorSide.shellStep] at onward

/-- A request that overtakes is accepted, so that the deletion does not return. -/
theorem Kept.overtaken {gnrc : Gnrc} {s t : ActuatorSide} (kept : Kept trace s) (late : s.overtakes a = true)
    (taken : ActuatorSide.step gnrc s a = some (t,events)) : ¬ SetOfNames gnrc later t := by
  cases a with
  | request payload =>
    cases payload with
    | none => simp [ActuatorSide.overtakes] at late
    | some id =>
      simp only [ActuatorSide.overtakes] at late
      split at late
      next name shell =>
        have waiting : s.actuatorId = some id.name := of_decide_eq_true late
        have knows := kept.knows
        rw [shell] at knows
        obtain ⟨_, _, _, ⟨_, empty⟩, _⟩ := knows (by simp)
        have nodes : chain s.list = [] := (Actuators.sound_of (show Chain s.list.heap.cells s.list.head [] from empty rfl)).2
        have absent : listed (toList s.list) id.name = false := by simp [toList, nodes, listed]
        obtain ⟨list, run, sound', nodes', _⟩ := insertNew_frame kept.sound id.name
          (entryRemote gnrc id.ipAddr (gnrc.addrToStr id.ipAddr))
        have filled : list.head = some s.list.heap.limit := by
          rw [Actuators.Sound, nodes'] at sound'
          exact sound'.1
        have accepts : ActuatorSide.step gnrc s (.request (some id)) = some ({ s with list, isRegistered := true },
            [.accepted id.name (entryRemote gnrc id.ipAddr (gnrc.addrToStr id.ipAddr))]) := by
          simp [ActuatorSide.step, shell, registerRequest, waiting, nodeExists_listed kept.sound, absent,
            entryRemote_port, run]
        obtain rfl := congrArg Prod.fst (Option.some.inj (taken.symm.trans accepts))
        exact overtaken_not_returning shell (by simp [filled])
      next => contradiction
  | _ => simp [ActuatorSide.overtakes] at late

/-- A node registers in the middle of the deauth command for it. -/
def overtakenDeauth : List ListAction := [.deauthActuator act2.name] ++ List.replicate 3 .shell

theorem registration_stops_deletion :
    ¬ ∀ gnrc trace s, Path (ActuatorSide.step gnrc) anything .start trace s → SetOfNames gnrc trace s := by
  intro claim
  have run : ∃ s trace, Path (ActuatorSide.step board) ActuatorSide.timely .start trace s ∧
      s.shell = .deleteNode act2.name (.empty none) ∧ s.actuatorId = some act2.name :=
    replay_reaches overtakenDeauth (fun (s : ActuatorSide) _ =>
      s.shell = .deleteNode act2.name (.empty none) ∧ s.actuatorId = some act2.name) (by decide)
  obtain ⟨s, trace, path, shell, waiting⟩ := run
  have kept : Kept trace s :=
    path.invariant Kept (fun kept timely taken => kept.step timely taken) kept_start
  obtain ⟨t, events, code, run, _⟩ := registerRequest_spec board kept.sound (some act2)
  have taken : ActuatorSide.step board s (.request (some act2)) = some (t,events) := by
    simp [ActuatorSide.step, shell, run]
  have late : s.overtakes (.request (some act2)) = true := by simp [ActuatorSide.overtakes, shell, waiting]
  have free : Path (ActuatorSide.step board) anything .start trace s :=
    path.mono fun _ => trivial
  exact kept.overtaken late taken (claim board _ t (free.snoc trivial taken))

end RiotAlarm.Gateway
