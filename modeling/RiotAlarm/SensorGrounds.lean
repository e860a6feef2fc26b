import RiotAlarm.SensorNode

/-! Why a sensor node does what it does: its register thread sends after a press of the
button, and its detection thread after an event on a node that AUTH has connected. -/
namespace RiotAlarm.Sensor

open Transition

variable {d : Detector} {n n' : Node d} {m : Move d} {events : List Event}

/-- What is known about a node's past: that its register button was pressed, that AUTH was
sent to it, that it has connected since, and that it has set `sensor_fired`. -/
structure Grounds where
  pressed : Prop
  authorized : Prop
  connected : Prop
  fired : Prop

/-- What a step adds to the grounds. -/
structure Grounds.Grow (r r' : Grounds) (events : List Event) : Prop where
  pressed : r.pressed ∨ .pressed ∈ events → r'.pressed
  authorized : r.authorized → r'.authorized
  connected : r.connected ∨ r.authorized ∧ .connected ∈ events → r'.connected
  fired : r.fired ∨ .fired ∈ events → r'.fired

/-- `detection_thread` has found `sensor_fired` set and the node connected. -/
def Node.sending (n : Node d) : Bool :=
  match n.detectionThread with
  | .lastFire | .fireStatus | .put => true
  | _ => false

/-- The node's flags and threads stand where its past has brought them. -/
structure Grounded (r : Grounds) (n : Node d) : Prop where
  pressed : n.sendId = true ∨ n.registerThread = .put → r.pressed
  authorized : n.gcoap = .connect → r.authorized
  connected : n.connectionStatus = true → r.connected
  fired : n.sensorFired = true → r.fired
  sending : n.sending = true → r.fired ∧ r.connected

namespace Grounded
variable {r r' : Grounds}

theorem boot (r : Grounds) (d : Detector) : Grounded r (Sensor.boot d) := by
  constructor <;> simp [Sensor.boot, Node.sending]

theorem dispatch_connect (payload : Option CString) :
    dispatch payload = .connect ↔ ∃ read, payload = some read ∧ read = REGISTER_RESPONSE := by
  cases payload with
  | none => simp [dispatch]
  | some read =>
    simp only [dispatch, strcmp_eq_zero]
    split
    next same => simp [same]
    next other => split <;> simp [other]

/-- Where nothing else changes, the grounds hold on. -/
theorem keep (held : Grounded r n) (grow : r.Grow r' events) (sendId : n'.sendId = true → n.sendId = true ∨ .pressed ∈ events)
    (registerThread : n'.registerThread = .put → n.registerThread = .put ∨ n.sendId = true)
    (gcoap : n'.gcoap = .connect → n.gcoap = .connect ∨ r'.authorized)
    (connectionStatus : n'.connectionStatus = true → n.connectionStatus = true ∨ n.gcoap = .connect ∧ .connected ∈ events)
    (sensorFired : n'.sensorFired = true → n.sensorFired = true ∨ .fired ∈ events)
    (sending : n'.sending = true → n.sending = true ∨ n.sensorFired = true ∧ n.connectionStatus = true) :
    Grounded r' n' := by
  constructor
  · rintro (up | put)
    · rcases sendId up with before | shown
      · exact grow.pressed (.inl (held.pressed (.inl before)))
      · exact grow.pressed (.inr shown)
    · exact grow.pressed (.inl (held.pressed (registerThread put).symm))
  · intro at_
    exact (gcoap at_).elim (fun before => grow.authorized (held.authorized before)) id
  · intro on
    rcases connectionStatus on with before | ⟨here, shown⟩
    · exact grow.connected (.inl (held.connected before))
    · exact grow.connected (.inr ⟨held.authorized here, shown⟩)
  · intro up
    exact grow.fired ((sensorFired up).imp_left held.fired)
  · intro at_
    have before : r.fired ∧ r.connected :=
      (sending at_).elim held.sending fun ⟨up, on⟩ => ⟨held.fired up, held.connected on⟩
    exact ⟨grow.fired (.inl before.1), grow.connected (.inl before.2)⟩

theorem later (held : Grounded r n) (grow : r.Grow r' []) : Grounded r' n :=
  held.keep grow .inl .inl .inl .inl .inl .inl

/-- One step of a node: the grounds hold on, and what it sends has grounds. -/
theorem step (held : Grounded r n) (grow : r.Grow r' events) (taken : step n m = some (n',events))
    (told : m = .message (some REGISTER_RESPONSE) → r'.authorized) :
    Grounded r' n' ∧ (.sent .register ∈ events → r.pressed) ∧ (.sent .fire ∈ events → r.fired ∧ r.connected) := by
  cases m with
  | main =>
    simp only [Sensor.step, mainStep] at taken
    split at taken <;> cases taken
    case h_3 => exact ⟨held.keep grow .inl .inl .inl .inl .inl (by simp [Node.sending]), by simp, by simp⟩
    case h_1 => exact ⟨held.keep grow .inl (by simp) .inl .inl .inl .inl, by simp, by simp⟩
    all_goals exact ⟨held.keep grow .inl .inl .inl .inl .inl .inl, by simp, by simp⟩
  | message payload =>
    simp only [Sensor.step] at taken
    split at taken <;> cases taken
    refine ⟨held.keep grow .inl .inl (fun at_ => .inr ?_) .inl .inl .inl, by simp, by simp⟩
    obtain ⟨_, rfl, rfl⟩ := (dispatch_connect payload).mp at_
    exact told rfl
  | gcoap =>
    simp only [Sensor.step, gcoapStep] at taken
    split at taken <;> cases taken
    case h_2 at_ =>
      refine ⟨held.keep grow .inl .inl (by simp) (fun _ => ?_) .inl .inl, ?_, ?_⟩
      · by_cases on : n.connectionStatus = true
        · exact .inl on
        · exact .inr ⟨at_, by simp [on]⟩
      · split <;> simp
      · split <;> simp
    case h_4 =>
      refine ⟨held.keep grow .inl .inl (by simp) (by simp) .inl .inl, ?_, ?_⟩ <;> split <;> simp
    all_goals exact ⟨held.keep grow .inl .inl (by simp) .inl .inl .inl, by simp, by simp⟩
  | registerButton =>
    cases taken
    exact ⟨held.keep grow (fun _ => .inr (by simp)) .inl .inl .inl .inl .inl, by simp, by simp⟩
  | testButton =>
    cases taken
    exact ⟨held.keep grow .inl .inl .inl .inl (fun _ => .inr (by simp)) .inl, by simp, by simp⟩
  | registerThread =>
    simp only [Sensor.step, registerThreadStep] at taken
    split at taken <;> cases taken
    case h_2 =>
      refine ⟨held.keep grow .inl (fun at_ => .inr ?_) .inl .inl .inl .inl, by simp, by simp⟩
      by_contra down
      simp [down] at at_
    case h_3 at_ => exact ⟨held.keep grow .inl (by simp) .inl .inl .inl .inl, fun _ => held.pressed (.inr at_), by simp⟩
    case h_4 => exact ⟨held.keep grow (by simp) (by simp) .inl .inl .inl .inl, by simp, by simp⟩
    case h_5 => exact ⟨held.keep grow .inl (by simp) .inl .inl .inl .inl, by simp, by simp⟩
  | statusThread =>
    simp only [Sensor.step, statusThreadStep] at taken
    split at taken <;> cases taken
    all_goals exact ⟨held.keep grow .inl .inl .inl .inl .inl .inl, by simp, by simp⟩
  | detectionThread =>
    simp only [Sensor.step, detectionThreadStep] at taken
    split at taken <;> cases taken
    case h_2 =>
      refine ⟨held.keep grow .inl .inl .inl .inl .inl (fun at_ => .inr ?_), by simp, by simp⟩
      by_contra apart
      simp [Node.sending, apart] at at_
    case h_3 at_ | h_4 at_ =>
      exact ⟨held.keep grow .inl .inl .inl .inl .inl (fun _ => .inl (by simp [Node.sending, at_])), by simp, by simp⟩
    case h_5 at_ =>
      refine ⟨held.keep grow .inl .inl .inl .inl .inl (by simp [Node.sending]), by simp, fun _ => ?_⟩
      exact held.sending (by simp [Node.sending, at_])
    case h_6 => exact ⟨held.keep grow .inl .inl .inl .inl (by simp) (by simp [Node.sending]), by simp, by simp⟩
    case h_7 => exact ⟨held.keep grow .inl .inl .inl .inl .inl (by simp [Node.sending]), by simp, by simp⟩
  | unsent uri =>
    obtain ⟨rfl, ⟨-, -, rfl⟩ | ⟨-, -, rfl⟩ | ⟨-, -, rfl⟩⟩ := unsent_cases taken
    · exact ⟨held.keep grow .inl (by simp) .inl .inl .inl .inl, by simp, by simp⟩
    · exact ⟨held.keep grow .inl .inl .inl .inl .inl .inl, by simp, by simp⟩
    · exact ⟨held.keep grow .inl .inl .inl .inl .inl (by simp [Node.sending]), by simp, by simp⟩
  | loop reading =>
    simp only [Sensor.step, loopStep] at taken
    split at taken <;> cases taken
    case h_8 next at_ =>
      refine ⟨held.keep grow .inl .inl .inl .inl (fun up => ?_) .inl, ?_, ?_⟩
      · rcases (Bool.or_eq_true _ _).mp up with fires | before
        · exact .inr (by simp [fires])
        · exact .inl before
      all_goals
        intro sent
        rcases List.mem_append.mp sent with first | last <;> split at * <;> simp_all
    all_goals exact ⟨held.keep grow .inl .inl .inl .inl .inl .inl, by simp, by simp⟩

end Grounded

/-! A FIRE uses up an event. -/

/-- The thread is not there before `main` has created it. -/
def Node.Fresh (n : Node d) : Prop :=
  n.main = .registerThread ∨ n.main = .statusThread ∨ n.main = .detectionThread → n.detectionThread = .unborn

/-- A FIRE that the node may still send for the events so far. -/
def Node.charge (n : Node d) : Nat :=
  match n.detectionThread with
  | .lastFire | .fireStatus | .put => 1
  | .clear => 0
  | .unborn | .check | .wakeup => if n.sensorFired then 1 else 0

/-- Nothing that concerns the detection thread has happened, but for an event. -/
theorem charge_aside (fresh : n.Fresh) (main : n'.main = n.main) (thread : n'.detectionThread = n.detectionThread)
    (unsent : .sent .fire ∉ events) (fired : n'.sensorFired = n.sensorFired ∨ n'.sensorFired = true ∧ .fired ∈ events) :
    n'.Fresh ∧ events.count (.sent .fire) + n'.charge ≤ n.charge + events.count .fired := by
  refine ⟨by simpa only [Node.Fresh, main, thread] using fresh, ?_⟩
  rw [List.count_eq_zero.mpr unsent]
  rcases fired with same | ⟨up, shown⟩
  · simp [Node.charge, thread, same]
  · have one := List.count_pos_iff.mpr shown
    have most : n'.charge ≤ n.charge + 1 := by
      simp only [Node.charge, thread, up]
      cases n.detectionThread <;> simp
    omega

theorem charge_step (fresh : n.Fresh) (taken : step n m = some (n',events)) :
    n'.Fresh ∧ events.count (.sent .fire) + n'.charge ≤ n.charge + events.count .fired := by
  cases m with
  | main =>
    simp only [step, mainStep] at taken
    split at taken <;> cases taken
    case h_1 at_ => exact ⟨fun _ => fresh (.inl at_), by simp [Node.charge]⟩
    case h_2 at_ => exact ⟨fun _ => fresh (.inr (.inl at_)), by simp [Node.charge]⟩
    case h_3 at_ => exact ⟨by simp [Node.Fresh], by simp [Node.charge, fresh (.inr (.inr at_))]⟩
    case h_4 => exact ⟨by simp [Node.Fresh], by simp [Node.charge]⟩
  | message payload =>
    simp only [step] at taken
    split at taken <;> cases taken
    exact charge_aside fresh rfl rfl (by simp) (.inl rfl)
  | gcoap =>
    simp only [step, gcoapStep] at taken
    split at taken <;> cases taken
    case h_2 | h_4 =>
      apply charge_aside fresh rfl rfl _ (.inl rfl)
      split <;> simp
    all_goals exact charge_aside fresh rfl rfl (by simp) (.inl rfl)
  | registerButton =>
    cases taken
    exact charge_aside fresh rfl rfl (by simp) (.inl rfl)
  | testButton =>
    cases taken
    exact charge_aside fresh rfl rfl (by simp) (.inr ⟨rfl, by simp⟩)
  | registerThread =>
    simp only [step, registerThreadStep] at taken
    split at taken <;> cases taken <;> exact charge_aside fresh rfl rfl (by simp) (.inl rfl)
  | statusThread =>
    simp only [step, statusThreadStep] at taken
    split at taken <;> cases taken <;> exact charge_aside fresh rfl rfl (by simp) (.inl rfl)
  | detectionThread =>
    simp only [step, detectionThreadStep] at taken
    split at taken <;> cases taken
    all_goals
      next at_ =>
        have there : ¬ (n.main = .registerThread ∨ n.main = .statusThread ∨ n.main = .detectionThread) := by
          intro early
          simp [fresh early] at at_
        refine ⟨fun early => absurd early there, ?_⟩
        cases up : n.sensorFired <;> cases on : n.connectionStatus <;> simp [Node.charge, at_, up]
  | unsent uri =>
    obtain ⟨rfl, ⟨-, -, rfl⟩ | ⟨-, -, rfl⟩ | ⟨-, at_, rfl⟩⟩ := unsent_cases taken
    · exact charge_aside fresh rfl rfl (by simp) (.inl rfl)
    · exact charge_aside fresh rfl rfl (by simp) (.inl rfl)
    · refine ⟨fun early => absurd (at_.symm.trans (fresh early)) (by simp), ?_⟩
      simp [Node.charge, at_]
  | loop reading =>
    simp only [step, loopStep] at taken
    split at taken <;> cases taken
    case h_8 next at_ =>
      refine charge_aside fresh ?_ ?_ ?_ ?_
      · rfl
      · rfl
      · simp only [List.mem_append, not_or]
        constructor <;> split <;> simp
      · cases (d.step reading next n.count n.memory).fired
        · exact .inl (by simp)
        · exact .inr (by simp)
    all_goals exact charge_aside fresh rfl rfl (by simp) (.inl rfl)

end RiotAlarm.Sensor
