import RiotAlarm.SensorNode

/-! Which detections and presses of the test button a FIRE message reports. A node is
run together with a record of the raisings that `sensor_fired` stands for, each with the
authorization period it happened in; the record decides nothing. -/
namespace RiotAlarm.Sensor

open Transition

/-- A detection or a press: how many authorizations there had been, and whether the node
was authorized at that moment. -/
structure Cause where
  period : Nat
  authorized : Bool
  deriving DecidableEq

/-- A FIRE message: what it reports, and the period in which it is sent. -/
structure Report where
  causes : List Cause
  period : Nat
  deriving DecidableEq

/-- `pending` are the raisings since `sensor_fired` was last cleared, `taken` those that
`detection_thread` found behind the flag when its test last succeeded. -/
structure Record (d : Detector) where
  node : Node d
  period : Nat
  pending : List Cause
  taken : List Cause

variable {d : Detector}

namespace Record

def boot (d : Detector) : Record d := ⟨Sensor.boot d,0,[],[]⟩

/-- The raising that a step shows. -/
def raised (r : Record d) (events : List Event) : List Cause :=
  if .fired ∈ events then [⟨r.period,r.node.connectionStatus⟩] else []

/-- `detection_thread` clears the flag. -/
def clears (r : Record d) : Move d → Bool
  | .detectionThread => r.node.detectionThread = .clear
  | _ => false

/-- The test of `detection_thread` succeeds. -/
def takes (r : Record d) : Move d → Bool
  | .detectionThread =>
    r.node.detectionThread = .check && r.node.sensorFired && r.node.connectionStatus
  | _ => false

/-- The record after a step of the node. -/
def note (r : Record d) (m : Move d) (node : Node d) (events : List Event) : Record d where
  node := node
  period := if .connected ∈ events then r.period + 1 else r.period
  pending := if r.clears m then [] else r.pending ++ r.raised events
  taken := if r.takes m then r.pending else r.taken

def step : Step (Record d) (Move d) Report
  | r,m => (Sensor.step r.node m).map fun (node,events) =>
    (r.note m node events,if .sent .fire ∈ events then [⟨r.taken,r.period⟩] else [])

/-- The handler of the gateway's messages is about to authorize the node. -/
def authorizes (r : Record d) : Move d → Bool
  | .gcoap => r.node.gcoap = .connect && !r.node.connectionStatus
  | _ => false

/-- No authorization while an event is pending that `detection_thread` will still read. -/
def clean (r : Record d) (m : Move d) : Prop :=
  r.authorizes m = true → r.node.sensorFired = false ∨ r.node.detectionThread = .clear

instance (r : Record d) (m : Move d) : Decidable (r.clean m) :=
  inferInstanceAs (Decidable (_ → _))

end Record

/-- The message reports something, and nothing from before the authorization in force. -/
def Report.Fresh (report : Report) : Prop :=
  report.causes ≠ [] ∧ ∀ cause ∈ report.causes, cause = ⟨report.period,true⟩

/-- The record takes part in every run of the node and changes none. -/
theorem record_follows (path : Path Sensor.step anything (boot d) trace n) :
    ∃ r reports, Path Record.step anything (.boot d) reports r ∧ r.node = n := by
  have start : Record.node (.boot d) = boot d := rfl
  rw [← start] at path
  apply path.follow Record.node
  intro r m node events taken
  have noted : r.step m = some (r.note m node events,if .sent .fire ∈ events then [⟨r.taken,r.period⟩] else []) := by
    simp [Record.step, taken]
  exact ⟨_, _, noted, rfl⟩

/-- What the parties other than `detection_thread` can do to the flag, the connection and
that thread. -/
structure Besides (n n' : Node d) (events : List Event) : Prop where
  fired : n'.sensorFired = (n.sensorFired || .fired ∈ events)
  thread : n'.detectionThread = n.detectionThread ∨
    n.detectionThread = .unborn ∧ n'.detectionThread = .check
  silent : .sent .fire ∉ events
  connection : .connected ∈ events ∧ .fired ∉ events ∨
    .connected ∉ events ∧ (n'.connectionStatus = true → n.connectionStatus = true)

/-- `detection_thread` is created once. -/
def Born (n : Node d) : Prop :=
  n.main = .registerThread ∨ n.main = .statusThread ∨ n.main = .detectionThread → n.detectionThread = .unborn

theorem bodyStep_besides (n : Node d) (reading : d.Reading) (body : d.Body) :
    Besides n (bodyStep n reading body).1 (bodyStep n reading body).2 := by
  refine ⟨?_, .inl rfl, ?_, .inr ⟨?_, id⟩⟩
  · by_cases fired : (d.step reading body n.count n.memory).fired = true <;>
      by_cases ends : (d.step reading body n.count n.memory).next = none <;> simp [bodyStep, fired, ends]
  · simp [bodyStep]
  · simp [bodyStep]

/-- Flag, connection and thread as they were, and no event about them. -/
theorem Besides.same {n n' : Node d} (fired : n'.sensorFired = n.sensorFired)
    (thread : n'.detectionThread = n.detectionThread) (connection : n'.connectionStatus = n.connectionStatus)
    (quiet : ∀ event ∈ events, event ≠ .fired ∧ event ≠ .connected ∧ event ≠ .sent .fire) : Besides n n' events where
  fired := by
    have none : .fired ∉ events := fun shown => (quiet _ shown).1 rfl
    simp [fired, none]
  thread := .inl thread
  silent shown := (quiet _ shown).2.2 rfl
  connection := .inr ⟨fun shown => (quiet _ shown).2.1 rfl, fun on => connection ▸ on⟩

theorem besides {n n' : Node d} {m : Move d} (born : Born n) (other : m ≠ .detectionThread) (away : m ≠ .unsent .fire)
    (taken : Sensor.step n m = some (n',events)) : Besides n n' events ∧ Born n' := by
  cases m with
  | main =>
    simp only [Sensor.step, mainStep] at taken
    split at taken
    next at_ =>
      cases taken
      exact ⟨.same rfl rfl rfl (by simp), fun _ => born (.inl at_)⟩
    next at_ =>
      cases taken
      exact ⟨.same rfl rfl rfl (by simp), fun _ => born (.inr (.inl at_))⟩
    next at_ =>
      cases taken
      have unborn := born (.inr (.inr at_))
      exact ⟨⟨by simp, .inr ⟨unborn, rfl⟩, by simp, .inr ⟨by simp, id⟩⟩, by simp [Born]⟩
    next =>
      cases taken
      exact ⟨.same rfl rfl rfl (by simp), by simp [Born]⟩
    next => contradiction
  | message payload =>
    simp only [Sensor.step] at taken
    split at taken <;> cases taken
    exact ⟨.same rfl rfl rfl (by simp), born⟩
  | gcoap =>
    simp only [Sensor.step, gcoapStep] at taken
    split at taken <;> cases taken
    · by_cases on : n.connectionStatus = true
      · exact ⟨⟨by simp [on], .inl rfl, by simp [on], .inr ⟨by simp [on], fun _ => on⟩⟩, born⟩
      · exact ⟨⟨by simp [on], .inl rfl, by simp [on], .inl ⟨by simp [on], by simp [on]⟩⟩, born⟩
    · exact ⟨.same rfl rfl rfl (by simp), born⟩
    · by_cases on : n.connectionStatus = true
      · exact ⟨⟨by simp [on], .inl rfl, by simp [on], .inr ⟨by simp [on], by simp⟩⟩, born⟩
      · exact ⟨⟨by simp [on], .inl rfl, by simp [on], .inr ⟨by simp [on], by simp⟩⟩, born⟩
    · exact ⟨.same rfl rfl rfl (by simp), born⟩
  | registerButton =>
    cases taken
    exact ⟨.same rfl rfl rfl (by simp), born⟩
  | testButton =>
    cases taken
    exact ⟨⟨by simp, .inl rfl, by simp, .inr ⟨by simp, id⟩⟩, born⟩
  | registerThread =>
    simp only [Sensor.step, registerThreadStep] at taken
    split at taken <;> cases taken <;> exact ⟨.same rfl rfl rfl (by simp), born⟩
  | statusThread =>
    simp only [Sensor.step, statusThreadStep] at taken
    split at taken <;> cases taken <;> exact ⟨.same rfl rfl rfl (by simp), born⟩
  | detectionThread => exact absurd rfl other
  | unsent uri =>
    obtain ⟨rfl, ⟨-, -, rfl⟩ | ⟨-, -, rfl⟩ | ⟨rfl, -⟩⟩ := unsent_cases taken
    · exact ⟨.same rfl rfl rfl (by simp), born⟩
    · exact ⟨.same rfl rfl rfl (by simp), born⟩
    · exact absurd rfl away
  | loop reading =>
    simp only [Sensor.step, loopStep] at taken
    split at taken
    case h_8 body _ =>
      cases taken
      exact ⟨bodyStep_besides n reading body, born⟩
    all_goals
      cases taken
      try exact ⟨.same rfl rfl rfl (by simp), born⟩

/-- Only the handler of the gateway's messages authorizes. -/
theorem connects {n n' : Node d} {m : Move d} (taken : Sensor.step n m = some (n',events))
    (shown : .connected ∈ events) : m = .gcoap ∧ n.gcoap = .connect ∧ n.connectionStatus = false := by
  cases m with
  | gcoap =>
    simp only [Sensor.step, gcoapStep] at taken
    split at taken <;> cases taken
    · next at_ =>
      by_cases on : n.connectionStatus = true
      · simp [on] at shown
      · exact ⟨rfl, at_, by simpa using on⟩
    · simp at shown
    · split at shown <;> simp at shown
    · simp at shown
  | main =>
    simp only [Sensor.step, mainStep] at taken
    split at taken <;> cases taken <;> simp at shown
  | message payload =>
    simp only [Sensor.step] at taken
    split at taken <;> cases taken
    simp at shown
  | registerButton | testButton =>
    cases taken
    simp at shown
  | registerThread | statusThread | detectionThread =>
    simp only [Sensor.step, registerThreadStep, statusThreadStep, detectionThreadStep] at taken
    split at taken <;> cases taken <;> simp at shown
  | unsent uri =>
    obtain ⟨rfl, -⟩ := unsent_cases taken
    simp at shown
  | loop reading =>
    simp only [Sensor.step, loopStep] at taken
    split at taken <;> cases taken <;> simp at shown

namespace Record

/-- On its way from the test to the message `detection_thread` holds what it found. -/
def carrying (r : Record d) : Bool :=
  match r.node.detectionThread with
  | .lastFire => true
  | .fireStatus => true
  | .put => true
  | _ => false

def Current (r : Record d) (causes : List Cause) : Prop := ∀ cause ∈ causes, cause = ⟨r.period,true⟩

/-- What is pending while the node is authorized, and what is on its way to the gateway,
was raised in this period of authorization. -/
structure Settled (r : Record d) : Prop where
  born : Born r.node
  flag : r.node.sensorFired = true ↔ r.pending ≠ []
  current : r.node.connectionStatus = true → r.node.detectionThread ≠ .clear → r.Current r.pending
  carried : r.carrying = true → r.node.sensorFired = true ∧ r.taken ≠ [] ∧ r.Current r.taken

theorem settled_boot : (boot d).Settled where
  born := by simp [Born, boot, Sensor.boot]
  flag := by simp [boot, Sensor.boot]
  current := by simp [boot, Sensor.boot]
  carried := by simp [carrying, boot, Sensor.boot]

variable {r : Record d} {n : Node d} {m : Move d} {events : List Event}

/-- The node is authorized while nothing is pending, or what is pending is about to be
thrown away. -/
theorem Settled.connects (settled : r.Settled) (clean : r.clean m) (taken : Sensor.step r.node m = some (n,events))
    (shown : .connected ∈ events) : r.pending = [] ∧ r.carrying = false ∨ r.node.detectionThread = .clear := by
  obtain ⟨rfl, at_, off⟩ := Sensor.connects taken shown
  rcases clean (by simp [authorizes, at_, off]) with unset | clearing
  · refine .inl ⟨?_, ?_⟩
    · by_contra something
      have set := settled.flag.mpr something
      simp [unset] at set
    · by_contra carrying
      have set := (settled.carried (by simpa using carrying)).1
      simp [unset] at set
  · exact .inr clearing

/-- Another party's step. -/
theorem Settled.besides (settled : r.Settled) (clean : r.clean m) (other : m ≠ .detectionThread) (away : m ≠ .unsent .fire)
    (taken : Sensor.step r.node m = some (n,events)) : (r.note m n events).Settled ∧ .sent .fire ∉ events := by
  obtain ⟨besides, born⟩ := Sensor.besides settled.born other away taken
  have kept : r.clears m = false := by
    cases m with
    | detectionThread => exact absurd rfl other
    | _ => rfl
  have still : r.takes m = false := by
    cases m with
    | detectionThread => exact absurd rfl other
    | _ => rfl
  refine ⟨⟨born, ?_, ?_, ?_⟩, besides.silent⟩
  · by_cases shown : .fired ∈ events
    · simp [note, kept, besides.fired, shown, raised]
    · simp [note, kept, besides.fired, shown, raised, settled.flag]
  · intro on away
    have before : r.node.detectionThread ≠ .clear := by
      rcases besides.thread with same | ⟨unborn, _⟩
      · rw [← same]
        exact away
      · simp [unborn]
    rcases besides.connection with ⟨connected, plain⟩ | ⟨plain, was⟩
    · rcases settled.connects clean taken connected with ⟨nothing, _⟩ | clearing
      · simp [Current, note, kept, nothing, raised, plain]
      · exact absurd clearing before
    · have old := settled.current (was on) before
      intro cause member
      simp only [note, kept, plain, Bool.false_eq_true, if_false, List.mem_append] at member ⊢
      rcases member with earlier | now
      · exact old cause earlier
      · simp only [raised, was on] at now
        split at now <;> simp at now
        exact now
  · intro carrying
    have moved : r.node.detectionThread = n.detectionThread := by
      rcases besides.thread with same | ⟨_, fresh⟩
      · exact same.symm
      · simp [Record.carrying, note, fresh] at carrying
    have before : r.carrying = true := by
      simp only [Record.carrying, moved]
      exact carrying
    obtain ⟨set, something, current⟩ := settled.carried before
    have plain : .connected ∉ events := by
      intro connected
      rcases settled.connects clean taken connected with ⟨_, none⟩ | clearing
      · simp [before] at none
      · simp [Record.carrying, clearing] at before
    refine ⟨by simp [note, besides.fired, set], by simpa [note, still] using something, ?_⟩
    simpa [Current, note, still, plain] using current

/-- `detection_thread` goes on and neither takes nor clears. -/
theorem Settled.moves (settled : r.Settled) (at_ : r.node.detectionThread = point) (there : point ≠ .unborn ∧ point ≠ .clear)
    (kept : r.clears m = false) (still : r.takes m = false) (main : n.main = r.node.main) (flag : n.sensorFired = r.node.sensorFired)
    (connection : n.connectionStatus = r.node.connectionStatus) (quiet : .fired ∉ events ∧ .connected ∉ events)
    (carries : (r.note m n events).carrying = true → r.carrying = true) :
    (r.note m n events).Settled := by
  have pending : (r.note m n events).pending = r.pending := by simp [note, kept, raised, quiet.1]
  have period : (r.note m n events).period = r.period := by simp [note, quiet.2]
  have taken : (r.note m n events).taken = r.taken := by simp [note, still]
  refine ⟨?_, ?_, ?_, ?_⟩
  · intro early
    have unborn := settled.born (by simpa [note, main] using early)
    exact absurd (at_.symm.trans unborn) there.1
  · rw [pending, ← settled.flag, ← flag]
    rfl
  · intro on _
    rw [pending, Current, period]
    exact settled.current (connection.symm.trans on) (by simp [at_, there.2])
  · intro carrying
    obtain ⟨set, something, current⟩ := settled.carried (carries carrying)
    rw [taken, Current, period]
    exact ⟨flag.trans set, something, current⟩

/-- A statement of `detection_thread`. -/
theorem Settled.detects (settled : r.Settled) (taken : Sensor.step r.node .detectionThread = some (n,events)) :
    (r.note .detectionThread n events).Settled ∧
      (.sent .fire ∈ events → (⟨r.taken,r.period⟩ : Report).Fresh) := by
  simp only [Sensor.step, detectionThreadStep] at taken
  split at taken
  next => contradiction
  next at_ =>
    cases taken
    refine ⟨?_, by simp⟩
    by_cases both : (r.node.sensorFired && r.node.connectionStatus) = true
    · obtain ⟨set, on⟩ := Bool.and_eq_true_iff.mp both
      have something := settled.flag.mp set
      have current := settled.current on (by simp [at_])
      refine ⟨?_, ?_, ?_, ?_⟩
      · intro early
        exact absurd (at_.symm.trans (settled.born early)) (by simp)
      · simpa [note, clears, raised, at_] using settled.flag
      · intro _ _
        simpa [Current, note, clears, raised, at_] using current
      · intro _
        refine ⟨by simpa [note] using set, by simpa [note, takes, at_, set, on] using something, ?_⟩
        simpa [Current, note, takes, at_, set, on] using current
    · refine settled.moves at_ (by simp) (by simp [clears, at_]) (by simpa [takes, at_] using both) rfl rfl rfl (by simp) ?_
      simp [carrying, note, both]
  next at_ =>
    cases taken
    refine ⟨settled.moves at_ (by simp) (by simp [clears, at_]) (by simp [takes, at_]) rfl rfl rfl (by simp) ?_, by simp⟩
    simp [carrying, at_]
  next at_ =>
    cases taken
    refine ⟨settled.moves at_ (by simp) (by simp [clears, at_]) (by simp [takes, at_]) rfl rfl rfl (by simp) ?_, by simp⟩
    simp [carrying, at_]
  next at_ =>
    cases taken
    obtain ⟨_, something, current⟩ := settled.carried (by simp [carrying, at_])
    refine ⟨settled.moves at_ (by simp) (by simp [clears, at_]) (by simp [takes, at_]) rfl rfl rfl (by simp) ?_, fun _ => ⟨something, current⟩⟩
    simp [carrying, note]
  next at_ =>
    cases taken
    refine ⟨⟨?_, by simp [note, clears, at_], by simp [Current, note, clears, at_], by simp [carrying, note]⟩, by simp⟩
    intro early
    exact absurd (at_.symm.trans (settled.born early)) (by simp)
  next at_ =>
    cases taken
    refine ⟨settled.moves at_ (by simp) (by simp [clears, at_]) (by simp [takes, at_]) rfl rfl rfl (by simp) ?_, by simp⟩
    simp [carrying, note]

/-- FIRE was to be sent and is not. -/
theorem Settled.fails (settled : r.Settled) (taken : Sensor.step r.node (.unsent .fire) = some (n,events)) :
    (r.note (.unsent .fire) n events).Settled ∧ .sent .fire ∉ events := by
  obtain ⟨rfl, ⟨uri, -⟩ | ⟨uri, -⟩ | ⟨-, at_, rfl⟩⟩ := unsent_cases taken
  · cases uri
  · cases uri
  · refine ⟨settled.moves at_ (by simp) rfl rfl rfl rfl rfl (by simp) ?_, by simp⟩
    simp [carrying, note]

theorem Settled.step {r' : Record d} {reports : List Report} (settled : r.Settled) (clean : r.clean m)
    (taken : Record.step r m = some (r',reports)) : r'.Settled ∧ ∀ report ∈ reports, report.Fresh := by
  obtain ⟨⟨n, events⟩, run, same⟩ := Option.map_eq_some_iff.mp taken
  obtain ⟨rfl, rfl⟩ := Prod.mk.inj same
  by_cases other : m = .detectionThread
  · subst other
    obtain ⟨settled', fresh⟩ := settled.detects run
    refine ⟨settled', ?_⟩
    intro report member
    by_cases fires : .sent .fire ∈ events
    · obtain rfl : report = ⟨r.taken,r.period⟩ := by simpa [fires] using member
      exact fresh fires
    · simp [fires] at member
  · have quiet : (r.note m n events).Settled ∧ .sent .fire ∉ events := by
      by_cases unsent : m = .unsent .fire
      · subst unsent
        exact settled.fails run
      · exact settled.besides clean other unsent run
    exact ⟨quiet.1, by simp [quiet.2]⟩

end Record

/-- With either detector, in every run in which no authorization comes while an event is
pending, each FIRE message reports events of the authorization in force and nothing else. -/
theorem no_stale_event (d : Detector) {r : Record d} (path : Path Record.step Record.clean (.boot d) reports r) :
    ∀ report ∈ reports, report.Fresh := by
  have kept : r.Settled ∧ ∀ report ∈ reports, report.Fresh := by
    apply path.invariant fun reports (r : Record d) => r.Settled ∧ ∀ report ∈ reports, report.Fresh
    · rintro reports r m r' new ⟨settled, fresh⟩ clean taken
      obtain ⟨settled', fresh'⟩ := settled.step clean taken
      exact ⟨settled', List.forall_mem_append.mpr ⟨fresh, fresh'⟩⟩
    · exact ⟨Record.settled_boot, by simp⟩
  exact kept.2

/-- From the test of the flag to the message. -/
def firing : List (Move irDetector) := List.replicate 4 .detectionThread

/-- The test button is pressed once the node is authorized. -/
def pressedAfterAuth : List (Move irDetector) := started ++ auth ++ [.testButton] ++ firing

theorem no_stale_event_run :
    ∃ reports : List Report, reports = [⟨[⟨1,true⟩],1⟩] ∧ ∀ report ∈ reports, report.Fresh := by
  have run : ∃ (r : Record irDetector) (reports : List Report),
      Path Record.step Record.clean (.boot irDetector) reports r ∧ reports = [⟨[⟨1,true⟩],1⟩] :=
    replay_reaches pressedAfterAuth
      (fun (_ : Record irDetector) (reports : List Report) => reports = [⟨[⟨1,true⟩],1⟩]) (by decide)
  obtain ⟨r, reports, path, sent⟩ := run
  exact ⟨reports, sent, no_stale_event irDetector path⟩

/-- The test button is pressed before the node is authorized. -/
def pressedBeforeAuth : List (Move irDetector) := started ++ [.testButton] ++ auth ++ firing

theorem stale_event_is_sent :
    ¬ ∀ (d : Detector) reports (r : Record d), Path Record.step anything (.boot d) reports r →
      ∀ report ∈ reports, report.Fresh := by
  intro claim
  have run : ∃ (r : Record irDetector) (reports : List Report),
      Path Record.step anything (.boot irDetector) reports r ∧ reports = [⟨[⟨0,false⟩],1⟩] :=
    replay_reaches pressedBeforeAuth
      (fun (_ : Record irDetector) (reports : List Report) => reports = [⟨[⟨0,false⟩],1⟩]) (by decide)
  obtain ⟨r, reports, path, sent⟩ := run
  have fresh := claim irDetector reports r path ⟨[⟨0,false⟩],1⟩ (by simp [sent])
  simp [Report.Fresh] at fresh

end RiotAlarm.Sensor
