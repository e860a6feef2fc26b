import RiotAlarm.SensorFilter
import Mathlib.Data.List.Induction

/-! Orientation events over a whole run of the detection loop: what the loop keeps of the
sides that it has seen is the last one, `NO_CHANGE` included. -/
namespace RiotAlarm.Sensor

open Transition

/-- What a pass of the loop makes of the filtered vector: whether it comes to the orientation
branch, and the new `side_prev`. -/
def orient (sidePrev : Side) (acclSide : Accel) : Bool × Side :=
  let side := getSide acclSide
  (side ≠ sidePrev ∧ side ≠ .noChange,side)

/-- `side_prev` after the passes. -/
def sidePrev (vectors : List Accel) : Side := vectors.foldl (fun side a => (orient side a).2) .noChange

/-- The pass that sees `a` after those that saw `before` comes to the orientation branch. -/
def turnsAt (before : List Accel) (a : Accel) : Bool := (orient (sidePrev before) a).1

/-- The most recent side that is not `NO_CHANGE`. -/
def lastSide (before : List Accel) : Option Side := ((before.map getSide).filter (· ≠ .noChange)).getLast?

/-- The board lies on a side, and did not lie on it when it last lay on any. -/
def Changes (before : List Accel) (a : Accel) : Prop :=
  getSide a ≠ .noChange ∧ lastSide before ≠ some (getSide a)

/-- At every step of the run there is an event exactly for a change of side. -/
def EventsAreChanges (vectors : List Accel) : Prop :=
  ∀ before a, before ++ [a] <+: vectors → (turnsAt before a = true ↔ Changes before a)

/-- The board comes back from `NO_CHANGE` to the side that it lay on before. -/
def Returns (before : List Accel) (a : Accel) : Prop :=
  (before.map getSide).getLast? = some .noChange ∧ lastSide before = some (getSide a)

theorem sidePrev_eq (before : List Accel) : sidePrev before = (before.map getSide).getLast?.getD .noChange := by
  induction before using List.reverseRecOn with
  | nil => rfl
  | append_singleton rest a _ => simp [sidePrev, List.foldl_append, orient]

theorem lastSide_ne (before : List Accel) : lastSide before ≠ some .noChange := by
  intro last
  have member := List.mem_of_getLast? last
  simp at member

/-- A side that was seen in the last pass is the most recent one. -/
theorem lastSide_of_getLast {before : List Accel} (last : (before.map getSide).getLast? = some side)
    (lies : side ≠ .noChange) : lastSide before = some side := by
  obtain ⟨front, whole⟩ := List.getLast?_eq_some_iff.mp last
  rw [lastSide, whole]
  simp [lies]

/-- A step tells a change from its absence except where the board returns. -/
theorem turnsAt_iff (before : List Accel) (a : Accel) :
    (turnsAt before a = true ↔ Changes before a) ↔ ¬ Returns before a := by
  have turns : turnsAt before a = true ↔ getSide a ≠ sidePrev before ∧ getSide a ≠ .noChange := by
    simp [turnsAt, orient]
  rw [turns, sidePrev_eq, Changes, Returns]
  cases last : (before.map getSide).getLast? with
  | none =>
    have nothing : before = [] := by simpa using last
    subst nothing
    simp [lastSide]
  | some side =>
    by_cases lies : side = .noChange
    · subst lies
      by_cases same : lastSide before = some (getSide a)
      · have known : getSide a ≠ .noChange := fun nothing => lastSide_ne before (nothing ▸ same)
        simp [same, known]
      · simp [same]
    · rw [lastSide_of_getLast last lies]
      simp [lies, and_comm, eq_comm]

/-! The vectors and branches of a node's run. -/

/-- Whether each pass came to the orientation branch. -/
def turnsOf (vectors : List Accel) : List Bool := vectors.mapIdx fun i a => turnsAt (vectors.take i) a

theorem turnsOf_snoc (before : List Accel) (a : Accel) : turnsOf (before ++ [a]) = turnsOf before ++ [turnsAt before a] := by
  rw [turnsOf, List.mapIdx_concat, List.take_left' rfl]
  congr 1
  apply List.mapIdx_eq_mapIdx_iff.mpr
  intro i inside
  rw [List.take_append_of_le_length (Nat.le_of_lt inside)]

theorem sidePrev_snoc (before : List Accel) (a : Accel) : sidePrev (before ++ [a]) = getSide a := by
  simp [sidePrev, List.foldl_append, orient]

variable {smooth : Int16 → Int16 → Int16}

/-- A node with a record of the vectors that `_get_side` was called with, and of the passes
that came to the orientation branch. The record decides nothing. -/
structure Watch (smooth : Int16 → Int16 → Int16) where
  node : Node (mpuDetector smooth)
  seen : List Accel
  turns : List Bool

namespace Watch

def boot (smooth : Int16 → Int16 → Int16) : Watch smooth := ⟨Sensor.boot (mpuDetector smooth),[],[]⟩

/-- The record after a statement of the loop body. -/
def note (w : Watch smooth) (reading : Accel) (body : MpuBody) (node : Node (mpuDetector smooth)) : Watch smooth where
  node := node
  seen := if body = .side then w.seen ++ [w.node.memory.acclSide] else w.seen
  turns :=
    if body = .compare then
      w.turns ++ [decide ((mpuStep smooth reading body w.node.count w.node.memory).next = some .beepLong)]
    else w.turns

/-- The record after a step. -/
def follow (w : Watch smooth) (m : Move (mpuDetector smooth)) (node : Node (mpuDetector smooth)) : Watch smooth :=
  match m, w.node.loop with
  | .loop reading, .body body => w.note reading body node
  | _, _ => { w with node := node }

def step : Step (Watch smooth) (Move (mpuDetector smooth)) Event
  | w,m => (Sensor.step w.node m).map fun (node,events) => (w.follow m node,events)

/-- At every pass of the run that has come to the comparison there is an event exactly for a
change of side. -/
def EventsAreChanges (w : Watch smooth) : Prop :=
  ∀ before a turned, before ++ [a] <+: w.seen → w.turns[before.length]? = some turned →
    (turned = true ↔ Changes before a)

end Watch

/-- Only the statements of the loop body are noted. -/
theorem Watch.follow_cases (w : Watch smooth) (m : Move (mpuDetector smooth)) (node : Node (mpuDetector smooth)) :
    (∃ (reading : Accel) (body : MpuBody), m = .loop reading ∧ w.node.loop = .body body ∧
      w.follow m node = w.note reading body node) ∨
    (∀ (reading : Accel) (body : MpuBody), m = .loop reading → w.node.loop ≠ .body body) ∧
      w.follow m node = { w with node := node } := by
  unfold follow
  split
  next reading body at_ => exact .inl ⟨reading, body, rfl, at_, rfl⟩
  next other => exact .inr ⟨fun reading body move at_ => other reading body move at_, rfl⟩

/-- The record takes part in every run of the node and changes none. -/
theorem watch_follows {n : Node (mpuDetector smooth)} (path : Path Sensor.step anything (boot (mpuDetector smooth)) trace n) :
    ∃ w shown, Path Watch.step anything (.boot smooth) shown w ∧ w.node = n := by
  have start : Watch.node (.boot smooth) = boot (mpuDetector smooth) := rfl
  rw [← start] at path
  apply path.follow Watch.node
  intro w m node events taken
  refine ⟨w.follow m node, events, by simp only [Watch.step, taken, Option.map_some], ?_⟩
  rcases w.follow_cases m node with ⟨reading, body, -, -, noted⟩ | ⟨-, unnoted⟩
  · rw [noted]
    rfl
  · rw [unnoted]

/-- Where the loop is with `side_prev`: it is up to date, or a side is still to be compared
with it, or it is still to be replaced by that side. -/
inductive Phase where
  | settled
  | comparing
  | compared

def MpuBody.phase : MpuBody → Phase
  | .compare => .comparing
  | .beepLong | .printf | .fireSide | .sidePrev => .compared
  | _ => .settled

def LoopPoint.phase : LoopPoint MpuBody → Phase
  | .body next => next.phase
  | _ => .settled

/-- The loop's variables in accordance with the record. -/
def Agree (m : MpuMemory) (seen : List Accel) (turned : List Bool) : Phase → Prop
  | .settled => turned = turnsOf seen ∧ m.sidePrev = sidePrev seen
  | .comparing => ∃ before a, seen = before ++ [a] ∧ turned = turnsOf before ∧ m.side = getSide a ∧
    m.sidePrev = sidePrev before
  | .compared => turned = turnsOf seen ∧ m.side = sidePrev seen

theorem compare_next (m : MpuMemory) (reading : Accel) (count : Nat) :
    (mpuStep smooth reading .compare count m).next =
      some (if m.side ≠ m.sidePrev ∧ m.side ≠ .noChange then .beepLong else .sidePrev) := rfl

theorem Agree.body {m : MpuMemory} {body : MpuBody} (agree : Agree m seen turned body.phase)
    (smooth : Int16 → Int16 → Int16) (reading : Accel) (count : Nat) :
    let outcome := mpuStep smooth reading body count m
    Agree outcome.memory (if body = .side then seen ++ [m.acclSide] else seen)
      (if body = .compare then turned ++ [decide (outcome.next = some .beepLong)] else turned)
      (match outcome.next with | none => .settled | some next => next.phase) := by
  cases body with
  | side => exact ⟨seen, m.acclSide, rfl, agree.1, rfl, agree.2⟩
  | compare =>
    obtain ⟨before, a, rfl, rfl, side, prev⟩ := agree
    have turn : turnsAt before a = decide (m.side ≠ m.sidePrev ∧ m.side ≠ .noChange) := by
      rw [turnsAt, orient, side, prev]
    have same : m.side = sidePrev (before ++ [a]) := side.trans (sidePrev_snoc before a).symm
    by_cases turns : m.side ≠ m.sidePrev ∧ m.side ≠ .noChange
    · simp only [compare_next, if_pos turns]
      refine ⟨?_, same⟩
      simp [turnsOf_snoc, turn, turns]
    · simp only [compare_next, if_neg turns]
      refine ⟨?_, same⟩
      simp [turnsOf_snoc, turn, turns]
  | detectTap =>
    by_cases tap : detectTap m.acclPrev m.accl = true
    · simpa [mpuStep, tap, MpuBody.phase] using agree
    · simpa [mpuStep, tap, MpuBody.phase] using agree
  | _ => exact agree

structure Watched (w : Watch smooth) : Prop where
  born : w.node.main ≠ .shell → w.node.loop = .unborn
  agree : Agree w.node.memory w.seen w.turns (LoopPoint.phase w.node.loop)

theorem phase_outside {loop : LoopPoint MpuBody} (entered : ∀ b, loop = .body b → b = .readAccel) :
    loop.phase = .settled := by
  cases loop with
  | body b =>
    rw [entered b rfl]
    rfl
  | _ => rfl

theorem Watched.step {w w' : Watch smooth} {m : Move (mpuDetector smooth)} (watched : Watched w)
    (taken : w.step m = some (w',events)) : Watched w' := by
  obtain ⟨⟨node, events⟩, ran, same⟩ := Option.map_eq_some_iff.mp taken
  cases same
  have born := born_step watched.born ran
  rcases w.follow_cases m node with ⟨reading, body, rfl, at_, noted⟩ | ⟨outside, unnoted⟩
  · have agree := watched.agree
    rw [at_] at agree
    have after := agree.body smooth reading w.node.count
    have outcome : node = (bodyStep (d := mpuDetector smooth) w.node reading body).1 := by
      simp only [Sensor.step, loopStep, at_, Option.some.injEq] at ran
      rw [ran]
    have phase : LoopPoint.phase node.loop =
        match (mpuStep smooth reading body w.node.count w.node.memory).next with
        | none => .settled
        | some next => next.phase := by
      rw [outcome]
      cases next : (mpuStep smooth reading body w.node.count w.node.memory).next with
      | none =>
        have ends : ((mpuDetector smooth).step reading body w.node.count w.node.memory).next = none := next
        simp only [bodyStep, ends]
        rfl
      | some b =>
        have goes : ((mpuDetector smooth).step reading body w.node.count w.node.memory).next = some b := next
        simp only [bodyStep, goes]
        rfl
    rw [noted]
    refine ⟨born, ?_⟩
    change Agree node.memory _ _ (LoopPoint.phase node.loop)
    rw [phase, outcome]
    exact after
  · obtain ⟨memory, loop⟩ := besides_body watched.born outside ran
    have phase : LoopPoint.phase node.loop = LoopPoint.phase w.node.loop := by
      rcases loop with same | ⟨outside, entered⟩
      · rw [same]
      · rw [phase_outside entered, phase_outside fun b at_ => absurd at_ (outside b)]
    rw [unnoted]
    refine ⟨born, ?_⟩
    rw [memory, phase]
    exact watched.agree

theorem watched {w : Watch smooth} (path : Path Watch.step anything (.boot smooth) trace w) : Watched w :=
  path.state_invariant Watched (fun watched _ taken => watched.step taken) ⟨fun _ => rfl, rfl, rfl⟩

theorem turnsOf_length (vectors : List Accel) : (turnsOf vectors).length = vectors.length := List.length_mapIdx

theorem turnsOf_at (before later : List Accel) (a : Accel) :
    (turnsOf (before ++ a :: later))[before.length]? = some (turnsAt before a) := by
  simp [turnsOf]

/-- The branches noted are those of the vectors seen, the last one perhaps not compared yet. -/
theorem Watched.passed {w : Watch smooth} (watched : Watched w) :
    ∃ passed rest, w.seen = passed ++ rest ∧ w.turns = turnsOf passed := by
  have agree := watched.agree
  cases phase : LoopPoint.phase w.node.loop with
  | settled | compared =>
    rw [phase] at agree
    exact ⟨w.seen, [], (List.append_nil _).symm, agree.1⟩
  | comparing =>
    rw [phase] at agree
    obtain ⟨before, a, seen, turned, -⟩ := agree
    exact ⟨before, [a], seen, turned⟩

theorem Watched.turn {w : Watch smooth} (watched : Watched w) (front : before ++ [a] <+: w.seen)
    (decided : before.length < w.turns.length) : w.turns[before.length]? = some (turnsAt before a) := by
  obtain ⟨passed, rest, seen, turned⟩ := watched.passed
  rw [turned, turnsOf_length] at decided
  have inside : before ++ [a] <+: passed := by
    apply List.prefix_of_prefix_length_le front
    · rw [seen]
      exact List.prefix_append passed rest
    · rw [List.length_append, List.length_singleton]
      exact decided
  obtain ⟨later, rfl⟩ := inside
  rw [turned, List.append_assoc]
  exact turnsOf_at before later a

/-- Over every run the orientation events are the changes of side exactly if the board never
comes back through `NO_CHANGE` to the side that it lay on. -/
theorem events_are_changes_iff (smooth : Int16 → Int16 → Int16) (vectors : List Accel) :
    (EventsAreChanges vectors ↔ ∀ before a, before ++ [a] <+: vectors → ¬ Returns before a) ∧
    ∀ trace (w : Watch smooth), Path Watch.step anything (.boot smooth) trace w →
      (w.EventsAreChanges ↔ ∀ before a, before ++ [a] <+: w.seen → before.length < w.turns.length →
        ¬ Returns before a) := by
  refine ⟨forall₃_congr fun before a _ => turnsAt_iff before a, ?_⟩
  intro trace w path
  have watched := watched path
  constructor
  · intro changes before a front decided
    exact (turnsAt_iff before a).mp (changes before a _ front (watched.turn front decided))
  · intro never before a turned front shown
    obtain ⟨decided, -⟩ := List.getElem?_eq_some_iff.mp shown
    obtain rfl : turnsAt before a = turned := Option.some.inj ((watched.turn front decided).symm.trans shown)
    exact (turnsAt_iff before a).mpr (never before a front decided)

/-- Passes that read the same acceleration along the first axis, by the number of statements. -/
def passes (statements : Nat) (xAxis : Int16) : List (Move mpu) := List.replicate statements (.loop (⟨xAxis,0,0⟩ : Accel))

/-- The loop is started and the node authorized; then the board is shaken along one axis. -/
def wavering : List (Move mpu) :=
  [.main,.main,.main,.main,.message (some REGISTER_RESPONSE),.gcoap,.gcoap,.loop Accel.zero] ++
    passes 23 32767 ++ passes 10 (-32768) ++ passes 5 32767

/-- The board comes back to the left side after it has lain on none, and there is an event. -/
theorem wavering_repeats_event :
    ¬ ∀ trace (w : Watch exactSmooth), Path Watch.step anything (.boot exactSmooth) trace w → w.EventsAreChanges := by
  intro claim
  have run : ∃ (w : Watch exactSmooth) (trace : List Event), Path Watch.step anything (.boot exactSmooth) trace w ∧
      w.seen = [⟨327,0,0⟩,⟨651,0,0⟩,⟨316,0,0⟩,⟨640,0,0⟩] ∧ w.turns = [false,true,false,true] :=
    replay_reaches wavering (fun (w : Watch exactSmooth) (_ : List Event) =>
      w.seen = [⟨327,0,0⟩,⟨651,0,0⟩,⟨316,0,0⟩,⟨640,0,0⟩] ∧ w.turns = [false,true,false,true]) (by decide +kernel)
  obtain ⟨w, trace, path, seen, turns⟩ := run
  have changes := claim trace w path [⟨327,0,0⟩,⟨651,0,0⟩,⟨316,0,0⟩] ⟨640,0,0⟩ true
    (by rw [seen]; exact List.prefix_refl _) (by rw [turns]; rfl)
  exact absurd (changes.mp rfl).2 (by decide)

end RiotAlarm.Sensor
