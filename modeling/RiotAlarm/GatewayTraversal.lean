import RiotAlarm.GatewayPreemption

/-! One `traverse_and_fire` while the actuator list changes under it: between any two of
its statements completed calls of `insert_node` and `delete_node` can come in. -/
namespace RiotAlarm.Gateway

open Transition LinkedHeap
open Actuators (chain pair)

/-- `traverse_and_fire`, by what is executed next: the test of `ptr` and the send behind
it, or the step to the next node. -/
inductive FirePoint where
  | fire (ptr : Pointer)
  | advance (ptr : Nat)
  deriving DecidableEq

structure Traversal where
  actuators : ActuatorList
  point : FirePoint

inductive Call where
  | traverse
  | insertNode (name : CString) (remote : SockUdpEp)
  | deleteNode (name : CString)

/-- The call of `coap_put` for ON, whose result the loop ignores, with the node whose remote it
goes to; the node that an insertion leaves at the head, and the endpoints that a deletion sends
a deregister message to. -/
inductive FireEvent where
  | on (node : Nat) (remote : SockUdpEp)
  | inserted (node : Pointer)
  | told (remotes : List SockUdpEp)
  deriving DecidableEq

def traverseStep (l : ActuatorList) : FirePoint → Option (List FireEvent × FirePoint)
  | .fire none => none
  | .fire (some ptr) => do
    let node ← l.node ptr
    return ([.on ptr node.remote],.advance ptr)
  | .advance ptr => do
    let node ← l.node ptr
    return ([],.fire node.next)

def traversalStep : Step Traversal Call FireEvent
  | t,.traverse => (traverseStep t.actuators t.point).map fun (events,point) => ({ t with point },events)
  | t,.insertNode name remote =>
    let actuators := t.actuators.insertNode name remote
    some ({ t with actuators },[.inserted actuators.head])
  | t,.deleteNode name =>
    let (actuators,_,remotes) := t.actuators.deleteNode name
    some ({ t with actuators },[.told remotes])

/-- `ptr = head`. -/
def Traversal.begin (l : ActuatorList) : Traversal := ⟨l,.fire l.head⟩

/-! These are the alarm thread's own statements. -/

def FirePoint.alarm : FirePoint → AlarmPoint
  | .fire ptr => .fire ptr
  | .advance ptr => .advance ptr

def FireEvent.shown : FireEvent → Option Event
  | .on _ remote => some (.sent .on .beeper remote)
  | _ => none

theorem alarmStep_traverse (g : Globals) (point : FirePoint) (running : point ≠ .fire none) :
    alarmStep g point.alarm = (traverseStep g.actuators point).map fun (events,next) =>
      (g,events.filterMap FireEvent.shown,next.alarm) := by
  cases point with
  | fire ptr =>
    cases ptr with
    | none => exact absurd rfl running
    | some a => cases here : g.actuators.node a <;> simp [FirePoint.alarm, alarmStep, traverseStep, here, FireEvent.shown]
  | advance a => cases here : g.actuators.node a <;> simp [FirePoint.alarm, alarmStep, traverseStep, here]

def nodesSent (trace : List FireEvent) : List Nat :=
  trace.filterMap fun event => match event with | .on node _ => some node | _ => none

theorem nodesSent_append (trace events : List FireEvent) :
    nodesSent (trace ++ events) = nodesSent trace ++ nodesSent events := List.filterMap_append ..

theorem mem_nodesSent : a ∈ nodesSent trace ↔ ∃ remote, .on a remote ∈ trace := by
  simp only [nodesSent, List.mem_filterMap]
  constructor
  · rintro ⟨event, member, same⟩
    cases event with
    | on node remote =>
      obtain rfl : node = a := Option.some.inj same
      exact ⟨remote, member⟩
    | inserted | told => contradiction
  · rintro ⟨remote, member⟩
    exact ⟨_, member, rfl⟩

def FirePoint.ptr : FirePoint → Pointer
  | .fire ptr => ptr
  | .advance ptr => some ptr

/-- The node under the pointer once it was sent its message. -/
def FirePoint.sent : FirePoint → List Nat
  | .fire _ => []
  | .advance ptr => [ptr]

theorem FirePoint.split {cells : Nat → Option ActuatorEntry} (point : FirePoint) (way : Chain cells point.ptr nodes) :
    ∃ ahead, nodes = point.sent ++ ahead := by
  cases point with
  | fire ptr => exact ⟨nodes, rfl⟩
  | advance a =>
    cases nodes with
    | nil => exact absurd (show some a = none from way) (by simp)
    | cons b rest =>
      obtain rfl : a = b := Option.some.inj way.1
      exact ⟨rest, rfl⟩

/-- What holds throughout a traversal of `start`, with the nodes still `ahead` of it. They
can have left the list, but none that is in the list was missed. -/
structure Sweep (start : ActuatorList) (trace : List FireEvent) (t : Traversal) (ahead : List Nat) : Prop where
  way : Chain t.actuators.cells.heap.cells t.point.ptr (t.point.sent ++ ahead)
  old : ∀ a ∈ ahead, a ∈ chain start.cells
  unsent : ∀ a ∈ ahead, a ∉ nodesSent trace
  once : (nodesSent trace).Nodup
  sent : ∀ a remote, .on a remote ∈ trace →
    a ∈ chain start.cells ∧ (pair start.cells.heap.cells a).map Prod.snd = some remote
  pairs : ∀ a ∈ chain start.cells, pair t.actuators.cells.heap.cells a = pair start.cells.heap.cells a
  left : ∀ a ∈ chain start.cells, a ∈ chain t.actuators.cells → a ∈ nodesSent trace ∨ a ∈ ahead
  limit : start.cells.heap.limit ≤ t.actuators.cells.heap.limit
  fresh : ∀ a, .inserted (some a) ∈ trace → start.cells.heap.limit ≤ a

variable {start : ActuatorList} {trace events : List FireEvent} {t u : Traversal} {ahead : List Nat} {call : Call}

namespace Sweep

theorem begin (start : ActuatorList) : Sweep start [] (.begin start) (chain start.cells) where
  way := start.sound
  old _ listed := listed
  unsent := by simp [nodesSent]
  once := by simp [nodesSent]
  sent := by simp
  pairs _ _ := rfl
  left _ listed _ := .inr listed
  limit := Nat.le_refl _
  fresh := by simp

theorem insertNode (sweep : Sweep start trace t ahead) (name : CString) (remote : SockUdpEp) :
    Sweep start (trace ++ [.inserted (t.actuators.insertNode name remote).head])
      { t with actuators := t.actuators.insertNode name remote } ahead := by
  obtain ⟨nodes, limit, -⟩ := t.actuators.insertNode_frame name remote
  have quiet : nodesSent (trace ++ [.inserted (t.actuators.insertNode name remote).head]) = nodesSent trace := by
    simp [nodesSent]
  refine ⟨?_, sweep.old, by rw [quiet]; exact sweep.unsent, by rw [quiet]; exact sweep.once, ?_, ?_, ?_, ?_, ?_⟩
  · apply sweep.way.frame
    intro a member
    obtain ⟨entry, here⟩ := sweep.way.cell member
    rw [t.actuators.insertNode_kept name remote here, here]
  · intro a r member
    exact sweep.sent a r (by simpa using member)
  · intro a listed
    rw [← sweep.pairs a listed]
    obtain ⟨entry, present⟩ := Chain.cell start.sound listed
    have there := (sweep.pairs a listed).trans (Actuators.pair_cell present)
    obtain ⟨entry', here, -⟩ := Option.map_eq_some_iff.mp there
    rw [Actuators.pair_cell here, Actuators.pair_cell (t.actuators.insertNode_kept name remote here)]
  · intro a listed now
    rw [quiet]
    apply sweep.left a listed
    rw [nodes] at now
    rcases List.mem_cons.mp now with new | old
    · have low := Actuators.below start.sound listed
      have := sweep.limit
      omega
    · exact old
  · rw [limit]
    exact Nat.le_trans sweep.limit (Nat.le_add_right _ _)
  · intro a member
    rcases List.mem_append.mp member with before | new
    · exact sweep.fresh a before
    · rw [t.actuators.head_insertNode] at new
      obtain rfl : a = t.actuators.cells.heap.limit := by simpa using new
      exact sweep.limit

theorem deleteNode (sweep : Sweep start trace t ahead) (name : CString) :
    ∃ ahead', Sweep start (trace ++ [.told (t.actuators.deleteNode name).2.2])
      { t with actuators := (t.actuators.deleteNode name).1 } ahead' ∧ ahead'.length ≤ ahead.length := by
  obtain ⟨shorter, pairs, skips⟩ := t.actuators.deleteNode_skips name
  obtain ⟨limit, -⟩ := t.actuators.deleteNode_frame name
  obtain ⟨nodes, way, fewer, kept⟩ := skips _ _ sweep.way
  obtain ⟨ahead', rfl⟩ := t.point.split way
  have subset : ahead'.Sublist ahead := (List.append_sublist_append_left _).mp fewer
  have quiet : nodesSent (trace ++ [.told (t.actuators.deleteNode name).2.2]) = nodesSent trace := by
    simp [nodesSent]
  refine ⟨ahead', ⟨way, ?_, ?_, by rw [quiet]; exact sweep.once, ?_, ?_, ?_, ?_, ?_⟩, subset.length_le⟩
  · exact fun a member => sweep.old a (subset.subset member)
  · rw [quiet]
    exact fun a member => sweep.unsent a (subset.subset member)
  · intro a r member
    exact sweep.sent a r (by simpa using member)
  · exact fun a listed => (pairs a).trans (sweep.pairs a listed)
  · intro a listed now
    rw [quiet]
    refine (sweep.left a listed (shorter.subset now)).imp_right fun later => ?_
    have apart := (List.nodup_append.mp sweep.way.nodup).2.2
    rcases List.mem_append.mp (kept a (List.mem_append_right _ later) now) with here | there
    · exact absurd rfl (apart a here a later)
    · exact there
  · rw [limit]
    exact sweep.limit
  · intro a member
    exact sweep.fresh a (by simpa using member)

/-- The traversal is at its end, or its next statement can be taken. -/
theorem traverse (sweep : Sweep start trace t ahead) : t.point = .fire none ∨
    ∃ events point ahead', traverseStep t.actuators t.point = some (events,point) ∧
      Sweep start (trace ++ events) { t with point } ahead' ∧
      2 * ahead'.length + point.sent.length < 2 * ahead.length + t.point.sent.length := by
  obtain ⟨actuators, point⟩ := t
  cases point with
  | fire ptr =>
    cases ptr with
    | none => exact .inl rfl
    | some a =>
      have way : Chain actuators.cells.heap.cells (some a) ahead := sweep.way
      cases ahead with
      | nil => exact absurd (show some a = none from way) (by simp)
      | cons b rest =>
        have distinct := List.nodup_cons.mp way.nodup
        obtain ⟨first, entry, here, -⟩ := way
        obtain rfl : a = b := Option.some.inj first
        have listed := sweep.old a (by simp)
        have node : actuators.node a = some entry := here
        have sends : nodesSent (trace ++ [.on a entry.remote]) = nodesSent trace ++ [a] := nodesSent_append ..
        refine .inr ⟨[.on a entry.remote], .advance a, rest, by simp [traverseStep, node], ?_, ?_⟩
        · refine ⟨sweep.way, fun c later => sweep.old c (by simp [later]), ?_, ?_, ?_, sweep.pairs, ?_,
            sweep.limit, ?_⟩
          · intro c later
            have differ : c ≠ a := by
              rintro rfl
              exact distinct.1 later
            simpa [sends, differ] using sweep.unsent c (by simp [later])
          · rw [sends]
            exact List.nodup_append.mpr ⟨sweep.once, by simp, fun c sent d member => by
              obtain rfl : d = a := by simpa using member
              rintro rfl
              exact sweep.unsent c (by simp) sent⟩
          · intro c r member
            rcases List.mem_append.mp member with before | now
            · exact sweep.sent c r before
            · obtain ⟨rfl, rfl⟩ : c = a ∧ r = entry.remote := by simpa using now
              rw [← sweep.pairs c listed, Actuators.pair_cell here]
              exact ⟨listed, rfl⟩
          · intro c inStart now
            rw [sends]
            rcases sweep.left c inStart now with sent | later
            · exact .inl (List.mem_append_left _ sent)
            · rcases List.mem_cons.mp later with rfl | later
              · exact .inl (by simp)
              · exact .inr later
          · intro c member
            exact sweep.fresh c (by simpa using member)
        · simp only [FirePoint.sent, List.length_cons, List.length_nil]
          omega
  | advance a =>
    obtain ⟨-, entry, here, tail⟩ : Chain actuators.cells.heap.cells (some a) (a :: ahead) := sweep.way
    have node : actuators.node a = some entry := here
    refine .inr ⟨[], .fire entry.next, ahead, by simp [traverseStep, node], ?_, by simp [FirePoint.sent]⟩
    rw [List.append_nil]
    exact { sweep with way := tail }

theorem step (sweep : Sweep start trace t ahead) (taken : traversalStep t call = some (u,events)) :
    ∃ ahead', Sweep start (trace ++ events) u ahead' := by
  cases call with
  | traverse =>
    obtain ⟨⟨shown, point⟩, run, same⟩ := Option.map_eq_some_iff.mp taken
    cases same
    rcases sweep.traverse with ended | ⟨shown', point', ahead', run', sweep', -⟩
    · rw [ended] at run
      contradiction
    · cases run.symm.trans run'
      exact ⟨ahead', sweep'⟩
  | insertNode name remote =>
    cases taken
    exact ⟨ahead, sweep.insertNode name remote⟩
  | deleteNode name =>
    cases taken
    obtain ⟨ahead', sweep', -⟩ := sweep.deleteNode name
    exact ⟨ahead', sweep'⟩

end Sweep

/-- Two statements for each node ahead, and one when the node under the pointer was sent
its message. -/
def Traversal.rank (t : Traversal) : Nat :=
  2 * (follow t.actuators.cells.heap.cells t.actuators.cells.heap.limit t.point.ptr).length - t.point.sent.length

theorem Sweep.rank_eq (sweep : Sweep start trace t ahead) :
    t.rank = 2 * ahead.length + t.point.sent.length := by
  rw [Traversal.rank, sweep.way.follow_eq (sweep.way.length_le t.actuators.cells.heap), List.length_append]
  omega

/-- The traversal ends, whatever is inserted and deleted meanwhile. -/
theorem Sweep.finishes (sweep : Sweep start trace t ahead) :
    Finishes traversalStep (fun _ call => call ≠ .traverse) .traverse (fun t => t.point = .fire none) t := by
  apply Transition.finishes (fun t => ∃ trace ahead, Sweep start trace t ahead) Traversal.rank
  · rintro t call u events ⟨trace, ahead, sweep⟩ running other taken
    cases call with
    | traverse => exact absurd rfl other
    | insertNode name remote =>
      cases taken
      have sweep' := sweep.insertNode name remote
      exact ⟨⟨_, _, sweep'⟩, by rw [sweep.rank_eq, sweep'.rank_eq], running⟩
    | deleteNode name =>
      cases taken
      obtain ⟨ahead', sweep', shorter⟩ := sweep.deleteNode name
      have lower : Traversal.rank { t with actuators := (t.actuators.deleteNode name).1 } ≤ t.rank := by
        rw [sweep.rank_eq, sweep'.rank_eq]
        exact Nat.add_le_add_right (Nat.mul_le_mul_left 2 shorter) _
      exact ⟨⟨_, _, sweep'⟩, lower, running⟩
  · rintro t ⟨trace, ahead, sweep⟩ running
    rcases sweep.traverse with ended | ⟨events, point, ahead', run, sweep', less⟩
    · exact absurd ended running
    · refine ⟨{ t with point }, events, by simp [traversalStep, run], ⟨_, _, sweep'⟩, ?_⟩
      rw [sweep.rank_eq, sweep'.rank_eq]
      exact less
  · exact ⟨trace, ahead, sweep⟩

/-- What a traversal of `start` has sent when it stands at `t`. -/
structure Swept (start : ActuatorList) (trace : List FireEvent) (t : Traversal) : Prop where
  once : ∀ a, (nodesSent trace).count a ≤ 1
  listed : ∀ a remote, .on a remote ∈ trace →
    a ∈ chain start.cells ∧ (start.node a).map ActuatorEntry.remote = some remote
  inserted : ∀ a, .inserted (some a) ∈ trace → (nodesSent trace).count a = 0
  complete : t.point = .fire none → ∀ a ∈ chain start.cells, a ∈ chain t.actuators.cells →
    (nodesSent trace).count a = 1

theorem Sweep.swept (sweep : Sweep start trace t ahead) : Swept start trace t where
  once := List.nodup_iff_count_le_one.mp sweep.once
  listed a remote member := by
    obtain ⟨listed, own⟩ := sweep.sent a remote member
    refine ⟨listed, ?_⟩
    obtain ⟨entry, here⟩ := Chain.cell start.sound listed
    have node : start.node a = some entry := here
    rw [Actuators.pair_cell here] at own
    simpa [node] using own
  inserted a member := by
    apply List.count_eq_zero.mpr
    intro sent
    obtain ⟨remote, shown⟩ := mem_nodesSent.mp sent
    have low := Actuators.below start.sound (sweep.sent a remote shown).1
    have high := sweep.fresh a member
    omega
  complete ended a inStart now := by
    have way := sweep.way
    rw [ended] at way
    have nil : ahead = [] := Chain.unique way (show Chain _ none [] from rfl)
    rcases sweep.left a inStart now with sent | later
    · exact List.count_eq_one_of_mem sweep.once sent
    · simp [nil] at later

/-- A traversal that is begun on `start` ends, with ON sent once to every node that is
still in the list, at most once to any other, and never to a node that was not in the
list when it began, whatever insertions and deletions come in between its statements. -/
theorem traversal_survives_changes (start : ActuatorList) :
    Finishes traversalStep (fun _ call => call ≠ .traverse) .traverse (fun t => t.point = .fire none) (.begin start) ∧
    ∀ trace t, Path traversalStep anything (.begin start) trace t → Swept start trace t := by
  refine ⟨(Sweep.begin start).finishes, ?_⟩
  intro trace t path
  have swept : ∃ ahead, Sweep start trace t ahead := by
    apply path.invariant (fun trace t => ∃ ahead, Sweep start trace t ahead)
    · rintro trace t call u events ⟨ahead, sweep⟩ - taken
      exact sweep.step taken
    · exact ⟨_, Sweep.begin start⟩
  obtain ⟨ahead, sweep⟩ := swept
  exact sweep.swept

/-- Two actuators: "tapsense" at the head, "act2" behind it. -/
def twoActuators : ActuatorList :=
  (ActuatorList.empty.insertNode act2.name (entryRemote board act2.ipAddr act2.name)).insertNode tapsense.name
    (entryRemote board tapsense.ipAddr tapsense.name)

/-- The node that the traversal stands on is deleted and another inserted before it goes on. -/
def deletedUnderneath : List Call :=
  [.traverse,.deleteNode tapsense.name,.insertNode tapsense.name (entryRemote board tapsense.ipAddr tapsense.name),
    .traverse,.traverse,.traverse]

theorem traversal_survives_changes_run : ∃ t trace, Path traversalStep anything (.begin twoActuators) trace t ∧
    (t.point = .fire none ∧ nodesSent trace = [2,0] ∧ chain t.actuators.cells = [4,0]) ∧
    Swept twoActuators trace t := by
  have run : ∃ t trace, Path traversalStep anything (.begin twoActuators) trace t ∧
      t.point = .fire none ∧ nodesSent trace = [2,0] ∧ chain t.actuators.cells = [4,0] :=
    replay_reaches deletedUnderneath (fun (t : Traversal) trace =>
      t.point = .fire none ∧ nodesSent trace = [2,0] ∧ chain t.actuators.cells = [4,0]) (by decide +kernel)
  obtain ⟨t, trace, path, reached⟩ := run
  exact ⟨t, trace, path, reached, (traversal_survives_changes twoActuators).2 trace t path⟩

end RiotAlarm.Gateway
