import RiotAlarm.SensorFreshness

/-! Warm-up. The counter of the detection loop tells how many passes were completed since
the last authorization only if it told of none at that moment, and the loop resets it only
where its own test finds the node unauthorized. -/
namespace RiotAlarm.Sensor

open Transition

/-- A body that counts each of its passes once, and sets `sensor_fired` only above 100 and
before it counts. `counted` are the statements behind the count. -/
structure Counts (d : Detector) where
  counted : d.Body → Bool
  entry : counted d.entry = false
  fires : ∀ reading body count memory, (d.step reading body count memory).fired = true →
    100 < count ∧ counted body = false
  moves : ∀ reading body count memory,
    ((d.step reading body count memory).next = none ∧ counted body = true ∧
      (d.step reading body count memory).count = count) ∨
    ∃ body', (d.step reading body count memory).next = some body' ∧
      (counted body' = counted body ∧ (d.step reading body count memory).count = count ∨
        counted body = false ∧ counted body' = true ∧ (d.step reading body count memory).count = countStep count)

/-! Both loop bodies count in this way. -/

def IrBody.counted : IrBody → Bool
  | .usleep => true
  | _ => false

def MpuBody.counted : MpuBody → Bool
  | .acclPrev => true
  | .usleep => true
  | _ => false

theorem irStep_fires (level : Int) (body : IrBody) (count : Nat) (memory : Unit)
    (fired : (irStep level body count memory).fired = true) : 100 < count ∧ body.counted = false := by
  cases body with
  | fire =>
    simp only [irStep] at fired
    split at fired
    next above => exact ⟨above, rfl⟩
    next => contradiction
  | read | beepShort | puts | count | usleep => contradiction

theorem irStep_moves (level : Int) (body : IrBody) (count : Nat) (memory : Unit) :
    ((irStep level body count memory).next = none ∧ body.counted = true ∧
      (irStep level body count memory).count = count) ∨
    ∃ body', (irStep level body count memory).next = some body' ∧
      (body'.counted = body.counted ∧ (irStep level body count memory).count = count ∨
        body.counted = false ∧ body'.counted = true ∧ (irStep level body count memory).count = countStep count) := by
  cases body with
  | usleep => exact .inl ⟨rfl, rfl, rfl⟩
  | count => exact .inr ⟨_, rfl, .inr ⟨rfl, rfl, rfl⟩⟩
  | beepShort | puts => exact .inr ⟨_, rfl, .inl ⟨rfl, rfl⟩⟩
  | read =>
    refine .inr ⟨_, rfl, .inl ⟨?_, rfl⟩⟩
    split <;> rfl
  | fire =>
    simp only [irStep]
    split <;> exact .inr ⟨_, rfl, .inl ⟨rfl, rfl⟩⟩

theorem mpuStep_fires (smooth : Int16 → Int16 → Int16) (reading : Accel) (body : MpuBody) (count : Nat)
    (memory : MpuMemory) (fired : (mpuStep smooth reading body count memory).fired = true) :
    100 < count ∧ body.counted = false := by
  cases body with
  | fireTap | fireSide => exact ⟨of_decide_eq_true fired, rfl⟩
  | _ => contradiction

theorem mpuStep_moves (smooth : Int16 → Int16 → Int16) (reading : Accel) (body : MpuBody) (count : Nat)
    (memory : MpuMemory) :
    ((mpuStep smooth reading body count memory).next = none ∧ body.counted = true ∧
      (mpuStep smooth reading body count memory).count = count) ∨
    ∃ body', (mpuStep smooth reading body count memory).next = some body' ∧
      (body'.counted = body.counted ∧ (mpuStep smooth reading body count memory).count = count ∨
        body.counted = false ∧ body'.counted = true ∧
          (mpuStep smooth reading body count memory).count = countStep count) := by
  cases body with
  | usleep => exact .inl ⟨rfl, rfl, rfl⟩
  | count => exact .inr ⟨_, rfl, .inr ⟨rfl, rfl, rfl⟩⟩
  | detectTap | compare =>
    refine .inr ⟨_, rfl, .inl ⟨?_, rfl⟩⟩
    split <;> rfl
  | _ => exact .inr ⟨_, rfl, .inl ⟨rfl, rfl⟩⟩

/-- The two kinds of boards. -/
inductive Hardware where
  | ir
  | mpu (smooth : Int16 → Int16 → Int16)

def Hardware.detector : Hardware → Detector
  | .ir => irDetector
  | .mpu smooth => mpuDetector smooth

def irCounts : Counts irDetector := ⟨IrBody.counted,rfl,irStep_fires,irStep_moves⟩

def mpuCounts (smooth : Int16 → Int16 → Int16) : Counts (mpuDetector smooth) :=
  ⟨MpuBody.counted,rfl,mpuStep_fires smooth,mpuStep_moves smooth⟩

def Hardware.counts : (hardware : Hardware) → Counts hardware.detector
  | .ir => irCounts
  | .mpu smooth => mpuCounts smooth

variable {d : Detector} {counts : Counts d} {n n' : Node d} {m : Move d} {trace events : List Event}

/-- The passes that the loop will find counted when it comes to its test the next time: the
one that it is in counts once it is at its end, and a reset throws all of them away. -/
def Node.passes (counts : Counts d) (n : Node d) : Nat :=
  match n.loop with
  | .puts => 0
  | .reset => 0
  | .body body => if counts.counted body then n.count - 1 else n.count
  | _ => n.count

/-- The handler of the gateway's messages is about to authorize the node. -/
def Node.authorizes (n : Node d) : Move d → Bool
  | .gcoap => n.gcoap = .connect && !n.connectionStatus
  | _ => false

/-- No authorization while the counter tells of passes from before. -/
def fromZero (counts : Counts d) (n : Node d) (m : Move d) : Prop := n.authorizes m = true → n.passes counts = 0

instance (counts : Counts d) (n : Node d) (m : Move d) : Decidable (fromZero counts n m) :=
  inferInstanceAs (Decidable (_ → _))

def isConnected : Event → Bool
  | .connected => true
  | _ => false

/-- Where the loop sets `sensor_fired`, the node was authorized before, and 101 passes were
completed since it was last. -/
def WarmedUp (trace : List Event) (n : Node d) : Prop :=
  ∀ reading n' events, step n (.loop reading) = some (n',events) → .fired ∈ events →
    .connected ∈ trace ∧ 101 ≤ (since isConnected trace).count .iterated

/-- The counter tells of no more passes than were completed since the last authorization,
and before the first the loop is not entered. -/
structure Tally (counts : Counts d) (trace : List Event) (n : Node d) : Prop where
  born : n.main ≠ .shell → n.loop = .unborn
  outside : .connected ∉ trace →
    n.connectionStatus = false ∧ n.gcoap ≠ .wakeup ∧ (n.loop = .unborn ∨ n.loop = .created)
  passes : n.passes counts ≤ (since isConnected trace).count .iterated

theorem count_since (plain : .connected ∉ events) : (since isConnected (trace ++ events)).count .iterated =
    (since isConnected trace).count .iterated + events.count .iterated := by
  rw [since_append, List.count_append]
  intro event member
  cases event with
  | connected => exact absurd member plain
  | _ => rfl

namespace Tally

theorem boot (counts : Counts d) : Tally counts [] (boot d) where
  born _ := rfl
  outside _ := ⟨rfl, by simp [Sensor.boot], .inl rfl⟩
  passes := Nat.zero_le _

/-- A step that leaves the loop and its counter alone, and does not authorize. -/
theorem keep (tally : Tally counts trace n) (main : n'.main ≠ .shell → n.main ≠ .shell) (loop : n'.loop = n.loop)
    (count : n'.count = n.count) (connection : n.connectionStatus = false → n'.connectionStatus = false)
    (gcoap : n'.gcoap = .wakeup → n.gcoap = .wakeup) (quiet : .connected ∉ events) :
    Tally counts (trace ++ events) n' where
  born early := loop.trans (tally.born (main early))
  outside never := by
    obtain ⟨off, awake, out⟩ := tally.outside fun shown => never (List.mem_append_left _ shown)
    exact ⟨connection off, fun waking => awake (gcoap waking), loop ▸ out⟩
  passes := by
    have same : n'.passes counts = n.passes counts := by simp only [Node.passes, loop, count]
    rw [same, count_since quiet]
    exact Nat.le_trans tally.passes (Nat.le_add_right _ _)

/-- The node was authorized before, if one of the signs of it shows. -/
theorem connected (tally : Tally counts trace n)
    (sign : n.connectionStatus = true ∨ n.gcoap = .wakeup ∨ n.loop ≠ .unborn ∧ n.loop ≠ .created) :
    .connected ∈ trace := by
  by_contra never
  obtain ⟨off, awake, out⟩ := tally.outside never
  rcases sign with on | waking | ⟨begun, woken⟩
  · simp [off] at on
  · exact awake waking
  · exact out.elim begun woken

theorem main (tally : Tally counts trace n) (taken : mainStep n = some (n',events)) :
    Tally counts (trace ++ events) n' := by
  simp only [mainStep] at taken
  split at taken
  case h_5 => contradiction
  case h_4 at_ =>
    cases taken
    have unborn := tally.born (by simp [at_])
    refine ⟨by simp, ?_, ?_⟩
    · intro never
      obtain ⟨off, awake, -⟩ := tally.outside (by simpa using never)
      exact ⟨off, awake, .inr rfl⟩
    · have passes := tally.passes
      simp only [Node.passes, unborn] at passes
      simpa [Node.passes] using passes
  all_goals
    next at_ =>
      cases taken
      exact tally.keep (by simp [at_]) rfl rfl id id (by simp)

theorem wakeup_passes (n : Node d) (counts : Counts d) :
    Node.passes counts { n with loop := n.loop.wakeup d.entry, gcoap := .idle } = n.passes counts := by
  cases at_ : n.loop <;> simp [Node.passes, LoopPoint.wakeup, at_, counts.entry]

/-- An authorization starts the count of passes anew, which is only right if the counter
stands for none. -/
theorem gcoap (tally : Tally counts trace n) (ok : fromZero counts n .gcoap) (taken : gcoapStep n = some (n',events)) :
    Tally counts (trace ++ events) n' := by
  simp only [gcoapStep] at taken
  split at taken
  next => contradiction
  next at_ =>
    cases taken
    by_cases on : n.connectionStatus = true
    · have before := tally.connected (.inl on)
      exact ⟨tally.born, by simp [on, before], by simpa [on, Node.passes] using tally.passes⟩
    · have off : n.connectionStatus = false := by simpa using on
      have zero : n.passes counts = 0 := ok (by simp [Node.authorizes, at_, off])
      refine ⟨tally.born, by simp [off], ?_⟩
      simp only [Node.passes] at zero
      simp [Node.passes, zero]
  next at_ =>
    cases taken
    have before := tally.connected (.inr (.inl at_))
    refine ⟨?_, by simp [before], ?_⟩
    · intro early
      have unborn := tally.born early
      simp [unborn, LoopPoint.wakeup]
    · rw [wakeup_passes, List.append_nil]
      exact tally.passes
  next at_ =>
    cases taken
    exact tally.keep id rfl rfl (fun _ => rfl) (by simp) (by split <;> simp)
  next at_ =>
    cases taken
    exact tally.keep id rfl rfl id (by simp) (by simp)

/-- A pass is over or goes on; it is counted at most once, and shown when it is over. -/
theorem body (tally : Tally counts trace n) (at_ : n.loop = .body b) (reading : d.Reading) :
    Tally counts (trace ++ (bodyStep n reading b).2) (bodyStep n reading b).1 := by
  have before := tally.connected (.inr (.inr (by simp [at_])))
  have quiet : .connected ∉ (bodyStep n reading b).2 := by simp [bodyStep]
  refine ⟨?_, fun never => absurd (List.mem_append_left _ before) never, ?_⟩
  · intro early
    simp [tally.born early] at at_
  · rw [count_since quiet]
    have passes := tally.passes
    simp only [Node.passes, at_] at passes
    rcases counts.moves reading b n.count n.memory with
      ⟨ends, counted, same⟩ | ⟨b', next, ⟨alike, same⟩ | ⟨uncounted, counted, counts⟩⟩
    · simp only [counted, if_true] at passes
      simp only [bodyStep, Node.passes, ends, same, Option.isNone_none, if_true, List.count_append,
        List.count_singleton_self]
      omega
    · simp only [bodyStep, Node.passes, next, same, alike]
      omega
    · simp only [uncounted, Bool.false_eq_true, if_false] at passes
      simp only [bodyStep, Node.passes, next, counted, counts, countStep, if_true]
      split <;> omega

theorem loop (tally : Tally counts trace n) (taken : loopStep n reading = some (n',events)) :
    Tally counts (trace ++ events) n' := by
  simp only [loopStep] at taken
  split at taken
  case h_1 | h_2 | h_7 => contradiction
  case h_8 b at_ =>
    cases taken
    exact tally.body at_ reading
  all_goals
    next at_ =>
      cases taken
      have before := tally.connected (.inr (.inr (by simp [at_])))
      have passes := tally.passes
      simp only [Node.passes, at_] at passes
      refine ⟨?_, by simp [before], ?_⟩
      · intro early
        simp [tally.born early] at at_
      · by_cases on : n.connectionStatus = true <;> simp [Node.passes, counts.entry, on] <;> omega

theorem step (tally : Tally counts trace n) (ok : fromZero counts n m) (taken : Sensor.step n m = some (n',events)) :
    Tally counts (trace ++ events) n' := by
  cases m with
  | main => exact tally.main taken
  | gcoap => exact tally.gcoap ok taken
  | loop reading => exact tally.loop taken
  | message payload =>
    simp only [Sensor.step] at taken
    split at taken <;> cases taken
    refine tally.keep id rfl rfl id ?_ (by simp)
    simp only [dispatch]
    split <;> try split <;> try split
    all_goals simp
  | registerButton | testButton =>
    cases taken
    exact tally.keep id rfl rfl id id (by simp)
  | registerThread | statusThread | detectionThread =>
    simp only [Sensor.step, registerThreadStep, statusThreadStep, detectionThreadStep] at taken
    split at taken <;> cases taken <;> exact tally.keep id rfl rfl id id (by simp)
  | unsent uri =>
    obtain ⟨rfl, ⟨-, -, rfl⟩ | ⟨-, -, rfl⟩ | ⟨-, -, rfl⟩⟩ := unsent_cases taken <;>
      exact tally.keep id rfl rfl id id (by simp)

end Tally

/-- The loop fires in a pass that is not counted yet, above 100. -/
theorem Tally.warmedUp (tally : Tally counts trace n) : WarmedUp trace n := by
  intro reading n' events taken fired
  have taken : loopStep n reading = some (n',events) := taken
  simp only [loopStep] at taken
  split at taken
  case h_8 b at_ =>
    obtain ⟨rfl, rfl⟩ := Prod.mk.inj (Option.some.inj taken)
    have fires : (d.step reading b n.count n.memory).fired = true := by
      by_contra quiet
      simp [quiet] at fired
    obtain ⟨above, uncounted⟩ := counts.fires reading b n.count n.memory fires
    have passes := tally.passes
    simp only [Node.passes, at_, uncounted] at passes
    exact ⟨tally.connected (.inr (.inr (by simp [at_]))), Nat.le_trans above passes⟩
  all_goals
    cases taken
    try simp at fired

/-- On either kind of board, in every run in which no authorization comes while the counter
tells of passes from before, the loop sets `sensor_fired` only after 101 passes since the
node was last authorized. -/
theorem warms_up (hardware : Hardware) {n : Node hardware.detector}
    (path : Path step (fromZero hardware.counts) (boot hardware.detector) trace n) : WarmedUp trace n := by
  have tally : Tally hardware.counts trace n :=
    path.invariant (Tally hardware.counts) (fun tally ok taken => tally.step ok taken) (.boot hardware.counts)
  exact tally.warmedUp

/-- Passes of the loop from its test, with the pin high. -/
def quietPasses (k : Nat) : List (Move irDetector) := List.replicate (4 * k) (.loop (1 : Int))

/-- 101 passes after the authorization, then an object. -/
def objectAfterWarmUp : List (Move irDetector) := started ++ auth ++ quietPasses 101 ++ turns 3

theorem warms_up_run : ∃ n trace, Path step (fromZero irCounts) (boot irDetector) trace n ∧
    (loopStep n (0 : Int)).any (fun next => .fired ∈ next.2) = true ∧ WarmedUp trace n := by
  have run : ∃ n trace, Path step (fromZero irCounts) (boot irDetector) trace n ∧
      (loopStep n (0 : Int)).any (fun next => .fired ∈ next.2) = true :=
    replay_reaches objectAfterWarmUp (fun (n : Node irDetector) (_ : List Event) =>
      (loopStep n (0 : Int)).any (fun next => .fired ∈ next.2) = true) (by decide +kernel)
  obtain ⟨n, trace, path, fires⟩ := run
  exact ⟨n, trace, path, fires, warms_up .ir path⟩

/-- The node is deauthorized and authorized again while the loop beeps. -/
def reauthorizedInABeep : List (Move irDetector) :=
  started ++ auth ++ quietPasses 101 ++ turns 2 ++ deau ++ auth ++ turns 1

theorem fires_cold : ¬ ∀ (hardware : Hardware) trace (n : Node hardware.detector),
    Path step anything (boot hardware.detector) trace n → WarmedUp trace n := by
  intro claim
  have run : ∃ n trace, Path step anything (boot irDetector) trace n ∧
      (loopStep n (0 : Int)).any (fun next => .fired ∈ next.2) = true ∧
      (since isConnected trace).count .iterated = 0 :=
    replay_reaches reauthorizedInABeep (fun (n : Node irDetector) (trace : List Event) =>
      (loopStep n (0 : Int)).any (fun next => .fired ∈ next.2) = true ∧
        (since isConnected trace).count .iterated = 0) (by decide +kernel)
  obtain ⟨n, trace, path, fires, none⟩ := run
  obtain ⟨⟨n', events⟩, taken, fired⟩ := (Option.any_eq_true _ _).mp fires
  have warm := (claim .ir trace n path (0 : Int) n' events taken (of_decide_eq_true fired)).2
  omega

end RiotAlarm.Sensor
