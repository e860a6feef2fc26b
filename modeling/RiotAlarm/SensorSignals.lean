import RiotAlarm.SensorNode

/-! The one-shot flags of a node. A detection or the test button sets `sensor_fired` for
`detection_thread`, the register button sets `send_id` for `register_thread`; each thread
clears its flag after it has sent. -/
namespace RiotAlarm.Sensor

open Transition

inductive Signal where
  | event
  | press
  deriving DecidableEq

namespace Signal

/-- The events of its setting and of the message that answers it. -/
def set : Signal → Event
  | .event => .fired
  | .press => .pressed

def sent : Signal → Event
  | .event => .sent .fire
  | .press => .sent .register

end Signal

variable {d : Detector} {n n' : Node d} {m : Move d} {events : List Event} {signal : Signal}

def Node.flag (n : Node d) : Signal → Bool
  | .event => n.sensorFired
  | .press => n.sendId

/-- The sender has sent and is about to clear the flag. -/
def Node.clearing (n : Node d) : Signal → Bool
  | .event => n.detectionThread = .clear
  | .press => n.registerThread = .clear

/-- An event counts while the node is connected. -/
def Node.counts (n : Node d) : Signal → Bool
  | .event => n.connectionStatus
  | .press => true

/-- A setting that counts is taken back only after a message that was sent after it, as
long as the connection lasts if it is that of an event. -/
def Kept (allowed : Node d → Move d → Prop) (signal : Signal) (n : Node d) : Prop :=
  ∀ m set events, allowed n m → step n m = some (set,events) → signal.set ∈ events → n.counts signal = true →
    ∀ later n', Path step allowed set later n' → (signal = .event → .disconnected ∉ later) →
      n'.flag signal = false → signal.sent ∈ later

/-- The move sets the flag. -/
def Node.sets (n : Node d) : Signal → Move d → Bool
  | .event, .testButton => true
  | .event, .loop reading =>
    match n.loop with
    | .body next => (d.step reading next n.count n.memory).fired
    | _ => false
  | .press, .registerButton => true
  | _, _ => false

/-- The put of the signal's message is the one that fails. -/
def Signal.fails : Signal → Move d → Bool
  | .event, .unsent uri => uri = .fire
  | .press, .unsent uri => uri = .register
  | _, _ => false

/-- No setting that counts between the send that answers an earlier one and the clearing
of the flag, and no send that fails. -/
def apart (n : Node d) (m : Move d) : Prop :=
  ∀ signal : Signal, signal.fails m = false ∧
    (n.sets signal m = true → n.counts signal = true → n.clearing signal = false)

instance (n : Node d) (m : Move d) : Decidable (apart n m) :=
  decidable_of_iff (∀ signal ∈ [Signal.event,.press], signal.fails m = false ∧
      (n.sets signal m = true → n.counts signal = true → n.clearing signal = false))
    ⟨fun held signal => held signal (by cases signal <;> simp), fun held signal _ => held signal⟩

/-! One step of each party that is not the sender. -/

theorem mainStep_signals (run : mainStep n = some (n',events)) (signal : Signal) :
    n'.flag signal = n.flag signal ∧ (n.clearing signal = false → n'.clearing signal = false) ∧ events = [] := by
  simp only [mainStep] at run
  split at run <;> cases run <;> cases signal <;> simp [Node.flag, Node.clearing]

theorem gcoapStep_signals (run : gcoapStep n = some (n',events)) (signal : Signal) :
    n'.flag signal = n.flag signal ∧ n'.clearing signal = n.clearing signal ∧ signal.set ∉ events := by
  simp only [gcoapStep] at run
  split at run <;> cases run
  case h_2 | h_4 => cases signal <;> refine ⟨rfl, rfl, ?_⟩ <;> split <;> simp [Signal.set]
  all_goals cases signal <;> exact ⟨rfl, rfl, by simp⟩

/-- The detection loop sets `sensor_fired`, if anything. -/
theorem loopStep_signals (run : loopStep n reading = some (n',events)) (signal : Signal) :
    (n'.flag signal = true ↔ n.flag signal = true ∨ signal.set ∈ events) ∧
      n'.clearing signal = n.clearing signal ∧ (signal.set ∈ events → n.sets signal (.loop reading) = true) := by
  cases at_ : n.loop with
  | unborn | created | asleep => simp [loopStep, at_] at run
  | check | puts | reset | sleep =>
    simp only [loopStep, at_, Option.some.injEq, Prod.mk.injEq] at run
    obtain ⟨rfl, rfl⟩ := run
    cases signal <;> simp [Node.flag, Node.clearing]
  | body next =>
    simp only [loopStep, at_, Option.some.injEq, bodyStep, Prod.mk.injEq] at run
    obtain ⟨rfl, rfl⟩ := run
    by_cases fired : (d.step reading next n.count n.memory).fired = true <;>
      by_cases ends : (d.step reading next n.count n.memory).next = none <;>
      cases signal <;> simp [fired, ends, Node.flag, Node.clearing, Node.sets, Signal.set, at_]

/-- The flag stays set, and its sender away from the clearing, unless the message is
sent. -/
theorem flag_keep (set : n.flag signal = true) (away : n.clearing signal = false) (sent : signal.fails m = false)
    (taken : step n m = some (n',events)) :
    (n'.flag signal = true ∧ n'.clearing signal = false) ∨ signal.sent ∈ events := by
  cases m with
  | main =>
    obtain ⟨flag, clearing, -⟩ := mainStep_signals taken signal
    exact .inl ⟨flag.trans set, clearing away⟩
  | message payload =>
    simp only [step] at taken
    split at taken <;> cases taken
    exact .inl (by cases signal <;> exact ⟨set, away⟩)
  | gcoap =>
    obtain ⟨flag, clearing, -⟩ := gcoapStep_signals taken signal
    exact .inl ⟨flag.trans set, clearing.trans away⟩
  | loop reading =>
    obtain ⟨flag, clearing, -⟩ := loopStep_signals taken signal
    exact .inl ⟨flag.mpr (.inl set), clearing.trans away⟩
  | registerButton | testButton =>
    cases taken
    exact .inl (by cases signal <;> first | exact ⟨set, away⟩ | exact ⟨rfl, away⟩)
  | statusThread =>
    simp only [step, statusThreadStep] at taken
    split at taken <;> cases taken <;> exact .inl (by cases signal <;> exact ⟨set, away⟩)
  | registerThread =>
    simp only [step, registerThreadStep] at taken
    cases signal with
    | event => split at taken <;> cases taken <;> exact .inl ⟨set, away⟩
    | press =>
      split at taken
      next => contradiction
      next =>
        cases taken
        exact .inl ⟨set, by simp only [Node.clearing]; split <;> rfl⟩
      next =>
        cases taken
        exact .inr (by simp [Signal.sent])
      next at_ => simp [Node.clearing, at_] at away
      next =>
        cases taken
        exact .inl ⟨set, rfl⟩
  | detectionThread =>
    simp only [step, detectionThreadStep] at taken
    cases signal with
    | press => split at taken <;> cases taken <;> exact .inl ⟨set, away⟩
    | event =>
      split at taken
      case h_1 => contradiction
      case h_2 =>
        cases taken
        exact .inl ⟨set, by simp only [Node.clearing]; split <;> rfl⟩
      case h_5 =>
        cases taken
        exact .inr (by simp [Signal.sent])
      case h_6 at_ => simp [Node.clearing, at_] at away
      all_goals
        cases taken
        exact .inl ⟨set, rfl⟩
  | unsent uri =>
    obtain ⟨-, ⟨rfl, -, rfl⟩ | ⟨rfl, -, rfl⟩ | ⟨rfl, -, rfl⟩⟩ := unsent_cases taken
    · cases signal with
      | event => exact .inl ⟨set, away⟩
      | press => simp [Signal.fails] at sent
    · exact .inl (by cases signal <;> exact ⟨set, away⟩)
    · cases signal with
      | event => simp [Signal.fails] at sent
      | press => exact .inl ⟨set, away⟩

/-- A step that shows a setting is one that sets, and leaves the sender where it is. -/
theorem flag_set (taken : step n m = some (n',events)) (shown : signal.set ∈ events) :
    n.sets signal m = true ∧ n'.flag signal = true ∧ n'.clearing signal = n.clearing signal := by
  cases m with
  | registerButton | testButton =>
    cases taken
    cases signal <;> simp only [Signal.set, List.mem_singleton, reduceCtorEq] at shown
    exact ⟨rfl, rfl, rfl⟩
  | loop reading =>
    obtain ⟨flag, clearing, sets⟩ := loopStep_signals taken signal
    exact ⟨sets shown, flag.mpr (.inr shown), clearing⟩
  | gcoap => exact absurd shown (gcoapStep_signals taken signal).2.2
  | main =>
    obtain ⟨-, -, rfl⟩ := mainStep_signals taken signal
    simp at shown
  | message payload =>
    simp only [step] at taken
    split at taken <;> cases taken
    simp at shown
  | registerThread | statusThread | detectionThread =>
    simp only [step, registerThreadStep, statusThreadStep, detectionThreadStep] at taken
    split at taken <;> cases taken <;> cases signal <;> simp [Signal.set] at shown
  | unsent uri =>
    obtain ⟨rfl, -⟩ := unsent_cases taken
    simp at shown

/-- With either detector and from every state, as long as no setting comes between a send
and the clearing that belongs to it and no send fails, no event and no press is lost. -/
theorem no_signal_lost (n : Node d) (signal : Signal) : Kept apart signal n := by
  intro m set events ok taken shown counts later n' path _ cleared
  obtain ⟨sets, up, same⟩ := flag_set taken shown
  have away : set.clearing signal = false := same.trans ((ok signal).2 sets counts)
  rcases path.unless (fun n => n.flag signal = true ∧ n.clearing signal = false) signal.sent
    (fun held ok taken => flag_keep held.1 held.2 (ok signal).1 taken) ⟨up, away⟩ with ⟨still, -⟩ | sent
  · simp [still] at cleared
  · exact sent

/-- Connected, with `detection_thread` at the test of `sensor_fired`. -/
def waiting : Node irDetector :=
  { boot irDetector with main := .shell, connectionStatus := true, detectionThread := .check, loop := .check }

theorem no_signal_lost_run :
    ∃ n later, Path step apart { waiting with sensorFired := true } later n ∧ n.sensorFired = false ∧
      .sent .fire ∈ later := by
  have run : ∃ n later, Path step apart { waiting with sensorFired := true } later n ∧
      n.sensorFired = false ∧ .disconnected ∉ later :=
    replay_reaches (List.replicate 5 Move.detectionThread)
      (fun (n : Node irDetector) (later : List Event) => n.sensorFired = false ∧ .disconnected ∉ later) (by decide)
  obtain ⟨n, later, path, cleared, connected⟩ := run
  have ok : apart waiting .testButton := by decide
  exact ⟨n, later, path, cleared, no_signal_lost waiting .event .testButton _ _ ok rfl (by simp [Signal.set]) rfl
    later n path (fun _ => connected) cleared⟩

/-- The test button is pressed after FIRE was sent and before the flag is cleared. -/
def clearOverrun : List (Move irDetector) :=
  started ++ auth ++ [.testButton] ++ List.replicate 4 .detectionThread

theorem signal_is_lost :
    ¬ ∀ (d : Detector) trace (n : Node d), Path step anything (boot d) trace n → ∀ signal, Kept anything signal n := by
  intro claim
  have run : ∃ n trace, Path step anything (boot irDetector) trace n ∧
      n.detectionThread = .clear ∧ n.connectionStatus = true :=
    replay_reaches clearOverrun (fun (n : Node irDetector) _ =>
      n.detectionThread = .clear ∧ n.connectionStatus = true) (by decide)
  obtain ⟨n, trace, path, clears, connected⟩ := run
  have cleared : step { n with sensorFired := true } .detectionThread =
      some ({ n with sensorFired := false, detectionThread := .wakeup },[]) := by
    simp [step, detectionThreadStep, clears]
  have sent := claim irDetector trace n path .event .testButton _ _ trivial rfl (by simp [Signal.set]) connected
    _ _ (.single trivial cleared) (by simp) rfl
  simp at sent

end RiotAlarm.Sensor
