import RiotAlarm.InstallationResponse

/-! What a disconnected sensor still does: a thread that had found the node connected sends its
one message, and the loop finishes its pass. After that the gateway hears of the sensor only
what was under way. -/
namespace RiotAlarm

namespace Sensor

variable {d : Detector} {n n' : Node d} {m : Move d} {events : List Event}

/-- A report that `status_thread` has decided to send. -/
def StatusPoint.reporting : StatusPoint → Nat
  | .put => 1
  | _ => 0

/-- A FIRE that `detection_thread` has decided to send. -/
def DetectionPoint.tapping : DetectionPoint → Nat
  | .lastFire | .fireStatus | .put => 1
  | _ => 0

/-- The pass of the loop that is not finished. -/
def LoopPoint.passing : LoopPoint Body → Nat
  | .body _ => 1
  | _ => 0

def Node.reporting (n : Node d) : Nat := n.statusThread.reporting
def Node.tapping (n : Node d) : Nat := n.detectionThread.tapping
def Node.passing (n : Node d) : Nat := n.loop.passing

/-- Only a connected node is about to be woken. -/
def Woken (n : Node d) : Prop := n.gcoap = .wakeup → n.connectionStatus = true

theorem Woken.step (woken : Woken n) (taken : step n m = some (n',events)) : Woken n' := by
  cases m with
  | gcoap =>
    simp only [Sensor.step, gcoapStep] at taken
    split at taken <;> cases taken <;> simp [Woken]
  | message payload =>
    simp only [Sensor.step] at taken
    split at taken <;> cases taken
    intro at_
    cases payload with
    | none => cases at_
    | some read =>
      simp only [dispatch] at at_
      split at at_ <;> (try split at at_) <;> cases at_
  | main =>
    simp only [Sensor.step, mainStep] at taken
    split at taken <;> cases taken <;> exact woken
  | registerButton | testButton =>
    cases taken
    exact woken
  | registerThread | statusThread | detectionThread | unsent =>
    obtain ⟨-, gcoap, connectionStatus, -⟩ := sends_frame rfl taken
    simpa only [Woken, gcoap, connectionStatus] using woken
  | loop reading =>
    simp only [Sensor.step, loopStep] at taken
    split at taken <;> cases taken <;> exact woken

/-- What a step of a disconnected node does against what it had decided before. -/
structure Fades (n n' : Node d) (events : List Event) : Prop where
  disconnected : n'.connectionStatus = false
  status : events.count (.sent .status) + n'.reporting ≤ n.reporting
  fire : events.count (.sent .fire) + n'.tapping ≤ n.tapping
  passes : events.count .iterated + n'.passing ≤ n.passing

/-- Nothing that has to do with it has happened. -/
theorem Fades.aside (off : n.connectionStatus = false) (connectionStatus : n'.connectionStatus = n.connectionStatus)
    (statusThread : n'.statusThread = n.statusThread) (detectionThread : n'.detectionThread = n.detectionThread)
    (loop : n'.passing ≤ n.passing) (unsent : ∀ uri, uri = .status ∨ uri = .fire → .sent uri ∉ events)
    (unfinished : .iterated ∉ events) : Fades n n' events where
  disconnected := connectionStatus.trans off
  status := by
    rw [List.count_eq_zero.mpr (unsent .status (.inl rfl))]
    simp [Node.reporting, statusThread]
  fire := by
    rw [List.count_eq_zero.mpr (unsent .fire (.inr rfl))]
    simp [Node.tapping, detectionThread]
  passes := by
    rw [List.count_eq_zero.mpr unfinished]
    omega

theorem fades_step (woken : Woken n) (off : n.connectionStatus = false) (taken : step n m = some (n',events))
    (still : .connected ∉ events) : Fades n n' events := by
  have asleep : n.gcoap ≠ .wakeup := fun at_ => absurd (off.symm.trans (woken at_)) (by simp)
  cases m with
  | main =>
    simp only [step, mainStep] at taken
    split at taken <;> cases taken
    all_goals
      exact ⟨off, by simp [Node.reporting, StatusPoint.reporting], by simp [Node.tapping, DetectionPoint.tapping],
        by simp [Node.passing, LoopPoint.passing]⟩
  | message payload =>
    simp only [step] at taken
    split at taken <;> cases taken
    exact .aside off rfl rfl rfl (Nat.le_refl _) (by simp) (by simp)
  | gcoap =>
    simp only [step, gcoapStep] at taken
    split at taken <;> cases taken
    case h_2 => simp [off] at still
    case h_3 at_ => exact absurd at_ asleep
    all_goals exact .aside off (by simp [off]) rfl rfl (Nat.le_refl _) (by simp [off]) (by simp [off])
  | registerButton | testButton =>
    cases taken
    exact .aside off rfl rfl rfl (Nat.le_refl _) (by simp) (by simp)
  | registerThread =>
    simp only [step, registerThreadStep] at taken
    split at taken <;> cases taken
    all_goals exact .aside off rfl rfl rfl (Nat.le_refl _) (by simp) (by simp)
  | statusThread =>
    simp only [step, statusThreadStep] at taken
    split at taken <;> cases taken
    all_goals
      next at_ =>
        exact ⟨off, by simp [Node.reporting, StatusPoint.reporting, at_, off], by simp [Node.tapping], by simp [Node.passing]⟩
  | detectionThread =>
    simp only [step, detectionThreadStep] at taken
    split at taken <;> cases taken
    all_goals
      next at_ =>
        exact ⟨off, by simp [Node.reporting], by simp [Node.tapping, DetectionPoint.tapping, at_, off], by simp [Node.passing]⟩
  | unsent uri =>
    obtain ⟨rfl, ⟨-, -, rfl⟩ | ⟨-, -, rfl⟩ | ⟨-, -, rfl⟩⟩ := unsent_cases taken
    · exact .aside off rfl rfl rfl (Nat.le_refl _) (by simp) (by simp)
    · exact ⟨off, by simp [Node.reporting, StatusPoint.reporting], by simp [Node.tapping], by simp [Node.passing]⟩
    · exact ⟨off, by simp [Node.reporting], by simp [Node.tapping, DetectionPoint.tapping], by simp [Node.passing]⟩
  | loop reading =>
    simp only [step, loopStep] at taken
    split at taken <;> cases taken
    case h_8 next at_ =>
      generalize d.step reading next n.count n.memory = outcome
      obtain ⟨count, memory, fired, after⟩ := outcome
      cases fired <;> cases after <;>
        exact ⟨off, by simp [Node.reporting], by simp [Node.tapping], by simp [Node.passing, LoopPoint.passing, at_]⟩
    all_goals
      next at_ => exact .aside off rfl rfl rfl (by simp [Node.passing, LoopPoint.passing, at_, off]) (by simp) (by simp)

end Sensor

namespace Installation

open Transition

variable {site : Site} {gnrc : Gnrc} {es : List (Event site)} {w w' : State site} {action : Action site} {s : site.Sensors}

/-- What a disconnected sensor sends and finishes, and what it may send still, it may have sent
and finished before. -/
structure Faded (s : site.Sensors) (w : State site) (trace : List (Event site)) (w' : State site) : Prop where
  disconnected : (w'.sensor s).connectionStatus = false
  woken : Sensor.Woken (w'.sensor s)
  status : trace.count (.sensor s (.sent .status)) + (w'.sensor s).reporting ≤ (w.sensor s).reporting
  fire : trace.count (.sensor s (.sent .fire)) + (w'.sensor s).tapping ≤ (w.sensor s).tapping
  passes : trace.count (.sensor s .iterated) + (w'.sensor s).passing ≤ (w.sensor s).passing

theorem Faded.step {t t' : State site} (faded : Faded s w trace t) (taken : step gnrc t action = some (t',es))
    (still : .sensor s .connected ∉ es) : Faded s w (trace ++ es) t' := by
  obtain ⟨disconnected, woken, status, fire, passes⟩ := faded
  rcases sensor_own taken s with ⟨move, events, ran, shown⟩ | ⟨same, unshown⟩
  · have quiet : .connected ∉ events := by
      rw [← List.count_eq_zero, ← shown, List.count_eq_zero]
      exact still
    have fades := Sensor.fades_step woken disconnected ran quiet
    have status' := fades.status
    have fire' := fades.fire
    have passes' := fades.passes
    rw [← shown] at status' fire' passes'
    refine ⟨fades.disconnected, woken.step ran, ?_, ?_, ?_⟩ <;> rw [List.count_append] <;> omega
  · have none : ∀ event, es.count (.sensor s event) = 0 := fun event => List.count_eq_zero.mpr (unshown event)
    rw [← same] at disconnected woken status fire passes
    refine ⟨disconnected, woken, ?_, ?_, ?_⟩ <;> rw [List.count_append, none] <;> omega

theorem woken_path (path : Path (step gnrc) anything (boot site) trace w) (s : site.Sensors) : Sensor.Woken (w.sensor s) := by
  refine path.state_invariant (fun w => Sensor.Woken (w.sensor s)) (fun {t a u es} woken _ taken => ?_) ?_
  · rcases sensor_own taken s with ⟨move, events, ran, -⟩ | ⟨same, -⟩
    · exact woken.step ran
    · exact same ▸ woken
  · simp [Sensor.Woken, boot, Sensor.boot]

/-- A disconnected sensor falls silent. From any state that a run comes to with the sensor
disconnected, and until it is connected again, it sends the status report and the FIRE that its
threads had decided to send before, one of each at most, and finishes at most the pass of the
loop that it was in. Where nothing is doubled the gateway hears no more of it than these and
what was under way, and the alarm is given no more causes by it. -/
theorem a_disconnected_sensor_falls_silent (gnrc : Gnrc) (site : Site) (s : site.Sensors) (past trace : List (Event site))
    (w w' : State site) (reached : Path (step gnrc) anything (boot site) past w)
    (off : (w.sensor s).connectionStatus = false) (still : .sensor s .connected ∉ trace) :
    (Path (step gnrc) anything w trace w' → (w'.sensor s).connectionStatus = false ∧
      trace.count (.sensor s (.sent .status)) ≤ (w.sensor s).reporting ∧ (w.sensor s).reporting ≤ 1 ∧
      trace.count (.sensor s (.sent .fire)) ≤ (w.sensor s).tapping ∧ (w.sensor s).tapping ≤ 1 ∧
      trace.count (.sensor s .iterated) ≤ (w.sensor s).passing ∧ (w.sensor s).passing ≤ 1) ∧
    (Path (step gnrc) (fun _ action => copies action = false) w trace w' →
      trace.count (.heard (.inl s) .status) ≤ (w.uplink (.inl s)).count .status + (w.sensor s).reporting ∧
      trace.count (.heard (.inl s) .fire) ≤ (w.uplink (.inl s)).count .fire + (w.sensor s).tapping ∧
      trace.count (.roused (.tap s)) ≤ (w.uplink (.inl s)).count .fire + (w.sensor s).tapping) := by
  have faded : Path (step gnrc) anything w trace w' → Faded s w trace w' := by
    intro path
    refine path.invariant (fun trace t => .sensor s .connected ∉ trace → Faded s w trace t)
      (fun {trace t a u es} held _ taken still => ?_) (fun _ => ?_) still
    · rw [List.mem_append, not_or] at still
      exact (held still.1).step taken still.2
    · exact ⟨off, woken_path reached s, by simp, by simp, by simp⟩
  constructor
  · intro path
    obtain ⟨disconnected, -, status, fire, passes⟩ := faded path
    have one : (w.sensor s).reporting ≤ 1 ∧ (w.sensor s).tapping ≤ 1 ∧ (w.sensor s).passing ≤ 1 := by
      refine ⟨?_, ?_, ?_⟩
      · cases at_ : (w.sensor s).statusThread <;> simp [Sensor.Node.reporting, Sensor.StatusPoint.reporting, at_]
      · cases at_ : (w.sensor s).detectionThread <;> simp [Sensor.Node.tapping, Sensor.DetectionPoint.tapping, at_]
      · cases at_ : (w.sensor s).loop <;> simp [Sensor.Node.passing, Sensor.LoopPoint.passing, at_]
    exact ⟨disconnected, by omega, one.1, by omega, one.2.1, by omega, one.2.2⟩
  · intro path
    obtain ⟨-, -, status, fire, -⟩ := faded (path.mono fun _ => trivial)
    have taps := tap_path path s
    have statuses := heard_path path s .status
    have fires := heard_path path s .fire
    exact ⟨by omega, by omega, by omega⟩

/-- The status thread of a furnished house has found its node connected when DEAU arrives. -/
def deauthorized : List (Action house) :=
  furnished ++ sensorMoves [.statusThread] ++ typed (.deauth .sensor [tapsense.name]) 3 ++
  [delivered (.inl ()) .deau] ++ sensorMoves [.gcoap]

/-- The sensor reports once more, and turns its threads in vain. -/
def lastReport : List (Action house) :=
  sensorMoves (.testButton :: List.replicate 4 .statusThread ++ List.replicate 4 .detectionThread) ++ [heard (.inl ())]

theorem a_disconnected_sensor_falls_silent_run :
    ∃ (w w' : State house) (trace : List (Event house)), Path (step board) anything w trace w' ∧
      trace.count (.sensor () (.sent .status)) = 1 ∧ (w.sensor ()).reporting = 1 ∧ trace.count (.roused (.tap ())) = 0 := by
  have run : ∃ (w : State house) (trace : List (Event house)), Path (step board) anything (boot house) trace w ∧
      ((w.sensor ()).connectionStatus = false ∧ (w.sensor ()).tapping = 0 ∧ w.uplink (.inl ()) = []) ∧
      (replay (step board) (fun _ action => copies action = false) w lastReport).any (fun r =>
        .sensor () .connected ∉ r.2 ∧ r.2.count (.sensor () (.sent .status)) = 1) = true :=
    replay_reaches deauthorized (fun (w : State house) (_ : List (Event house)) =>
      ((w.sensor ()).connectionStatus = false ∧ (w.sensor ()).tapping = 0 ∧ w.uplink (.inl ()) = []) ∧
      (replay (step board) (fun _ action => copies action = false) w lastReport).any (fun r =>
        .sensor () .connected ∉ r.2 ∧ r.2.count (.sensor () (.sent .status)) = 1) = true) (by decide +kernel)
  obtain ⟨w, past, reached, ⟨off, untapped, none⟩, rerun⟩ := run
  obtain ⟨⟨w', trace⟩, replayed, after⟩ := (Option.any_eq_true _ _).mp rerun
  obtain ⟨still, one⟩ := of_decide_eq_true after
  have path := replay_path lastReport replayed
  obtain ⟨silent, unheard⟩ := a_disconnected_sensor_falls_silent board house () past trace w w' reached off still
  obtain ⟨-, reports, most, -⟩ := silent (path.mono fun _ => trivial)
  obtain ⟨-, -, taps⟩ := unheard path
  have unroused : trace.count (.roused (.tap ())) = 0 := by simpa [none, untapped] using taps
  have decided : 1 ≤ (w.sensor ()).reporting := one.symm.le.trans reports
  exact ⟨w, w', trace, path.mono fun _ => trivial, one, Nat.le_antisymm most decided, unroused⟩

/-! ## A sensor that is not stored -/

/-- The table has no entry of the name. -/
def Absent (name : CString) (w : State site) : Prop := w.server.globals.htSensor.view name = none

/-- The event stores an entry of the name. -/
def stores (name : CString) : Event site → Bool
  | .gateway (.stored .sensor name' _) => name' = name
  | _ => false

theorem Absent.step (absent : Absent name w) (taken : step gnrc w action = some (w',es))
    (unstored : ∀ e ∈ es, stores name e = false) : Absent name w' := by
  rcases server_step taken with ⟨act, events, notes, cause, ran, rfl, plain, -⟩ | ⟨same, -⟩
  · by_contra entered
    obtain ⟨value, found⟩ := Option.ne_none_iff_exists'.mp entered
    cases Gateway.step_entry ran found with
    | registered id _ named _ shown =>
      have stored := unstored _ ((gateway_shown plain _).mpr (shown ▸ List.mem_singleton_self _))
      simp [stores, named] at stored
    | kept before was =>
      rw [Absent, was] at absent
      cases absent
  · rwa [Absent, same]

theorem absent_path (absent : Absent name w) (path : Path (step gnrc) anything w trace w')
    (unstored : ∀ e ∈ trace, stores name e = false) : Absent name w' := by
  induction path with
  | nil => exact absent
  | snoc _ _ taken ih =>
    exact (ih fun e before => unstored e (List.mem_append_left _ before)).step taken
      fun e shown => unstored e (List.mem_append_right _ shown)

theorem Absent.unheld (absent : Absent name w) : w.server.globals.holds .sensor name = false :=
  congrArg Option.isSome absent

/-- A cause other than the test button's has to do with an entry of the table. -/
theorem roused_held {c : Cause site} (taken : step gnrc w action = some (w',es)) (shown : .roused c ∈ es) :
    c = .test ∨ (∃ name, w.server.globals.holds .sensor name = true) ∧
      ∀ s, c = .tap s → w.server.globals.holds .sensor (site.sensorId s).name = true := by
  rcases server_step taken with ⟨act, events, notes, cause, ran, rfl, plain, -, -, test, tap⟩ | ⟨-, others⟩
  · rcases served_cases shown with noted | ⟨c', same, given, rose⟩ | ⟨event, -, same⟩
    · simpa [note] using plain _ noted
    · cases same
      obtain ⟨rouses, -⟩ := (Gateway.step_alarm ran).rouses rose
      have own : ∀ s, c = .tap s → w.server.globals.holds .sensor (site.sensorId s).name = true := by
        rintro s rfl
        exact (tap s given rouses).2
      cases rouses with
      | tap id known => exact .inr ⟨⟨id.name, known⟩, own⟩
      | test => exact .inl (Option.some.inj (given.symm.trans (test rfl)))
      | silence name value found =>
        exact .inr ⟨⟨name, by simp [Gateway.Globals.holds, found]⟩, own⟩
    · cases same
  · simpa [Desk.aside] using others _ shown

/-- The statement of a deauthorization that removes a sensor leaves no entry of its name. -/
theorem absent_removed {word : CString} (at_ : w.server.shell = .deauth .sensor word .remove) (named : w.server.globals.sensorId = some name)
    (taken : step gnrc w (.gateway .shell) = some (w',es)) : Absent name w' := by
  cases step_taken taken with
  | gateway own run =>
    obtain ⟨⟨server, events⟩, ran, same⟩ := Option.map_eq_some_iff.mp run
    cases same
    simp only [Gateway.step, at_, Gateway.shellStep, Gateway.deauthStep, Gateway.removePending, named] at ran
    cases ran
    have view := (w.server.globals.htSensor.del_spec name).2
    simp [Absent, Gateway.removeSensor, view]

/-- A sensor that is not stored raises nothing. The statement of a deauthorization that removes
the sensor leaves no entry of its name; and from any state without one, until one is stored, the
sensor's taps give the alarm no cause, whatever is under way or doubled. Where no sensor at all
is stored, the test button alone gives the alarm a cause. -/
theorem an_unknown_sensor_raises_nothing (gnrc : Gnrc) (site : Site) (w w' : State site) (trace : List (Event site))
    (path : Path (step gnrc) anything w trace w') :
    (∀ s w₀ es word, w₀.server.shell = .deauth .sensor word .remove →
      w₀.server.globals.sensorId = some (site.sensorId s).name → step gnrc w₀ (.gateway .shell) = some (w,es) →
      Absent (site.sensorId s).name w) ∧
    (∀ s, Absent (site.sensorId s).name w → (∀ e ∈ trace, stores (site.sensorId s).name e = false) →
      Absent (site.sensorId s).name w' ∧ .roused (.tap s) ∉ trace) ∧
    ((∀ name, Absent name w) → (∀ name, ∀ e ∈ trace, stores name e = false) →
      (∀ name, Absent name w') ∧ ∀ c, .roused c ∈ trace → c = .test) := by
  refine ⟨fun s w₀ es word at_ named taken => absent_removed at_ named taken,
    fun s absent unstored => ⟨absent_path absent path unstored, fun shown => ?_⟩,
    fun absent unstored => ⟨fun name => absent_path (absent name) path (unstored name), fun c shown => ?_⟩⟩
  · obtain ⟨past, t, a, u, es, later, before, taken, now, rfl⟩ := path.moment shown
    have unheld := (absent_path absent before fun e earlier => unstored e (List.mem_append_left _ earlier)).unheld
    rcases roused_held taken now with test | ⟨-, own⟩
    · cases test
    · exact absurd (unheld.symm.trans (own s rfl)) (by simp)
  · obtain ⟨past, t, a, u, es, later, before, taken, now, rfl⟩ := path.moment shown
    have unheld : ∀ name, t.server.globals.holds .sensor name = false := fun name =>
      (absent_path (absent name) before fun e earlier => unstored name e (List.mem_append_left _ earlier)).unheld
    refine (roused_held taken now).resolve_right ?_
    rintro ⟨⟨name, there⟩, -⟩
    exact absurd ((unheld name).symm.trans there) (by simp)

/-- A FIRE is under way when the sensor is deauthorized. -/
def deauthorizing : List (Action house) := furnished ++ touched.take 5 ++ typed (.deauth .sensor [tapsense.name]) 1

/-- The command ends, and the FIRE is heard. -/
def lastFire : List (Action house) := gatewayActions [.shell,.shell] ++ [heard (.inl ())]

theorem an_unknown_sensor_raises_nothing_run :
    ∃ (w w' : State house) (trace : List (Event house)), Path (step board) anything w trace w' ∧
      w.server.globals.isEngaged = true ∧ .heard (.inl ()) .fire ∈ trace ∧ .roused (.tap ()) ∉ trace := by
  have run : ∃ (w : State house) (trace : List (Event house)), Path (step board) anything (boot house) trace w ∧
      (w.server.shell = .deauth .sensor tapsense.name .remove ∧
        w.server.globals.sensorId = some (house.sensorId ()).name) ∧
      (step board w (.gateway .shell)).any (fun next => next.1.server.globals.isEngaged = true ∧
        (replay (step board) anything next.1 lastFire).any (fun r =>
          .heard (.inl ()) .fire ∈ r.2 ∧ ∀ e ∈ r.2, stores (house.sensorId ()).name e = false) = true) = true :=
    replay_reaches deauthorizing (fun (w : State house) (_ : List (Event house)) =>
      (w.server.shell = .deauth .sensor tapsense.name .remove ∧
        w.server.globals.sensorId = some (house.sensorId ()).name) ∧
      (step board w (.gateway .shell)).any (fun next => next.1.server.globals.isEngaged = true ∧
        (replay (step board) anything next.1 lastFire).any (fun r =>
          .heard (.inl ()) .fire ∈ r.2 ∧ ∀ e ∈ r.2, stores (house.sensorId ()).name e = false) = true) = true)
      (by decide +kernel)
  obtain ⟨w₀, _, -, ⟨at_, named⟩, next⟩ := run
  obtain ⟨⟨w, es⟩, taken, after⟩ := (Option.any_eq_true _ _).mp next
  obtain ⟨engaged, rerun⟩ := of_decide_eq_true after
  obtain ⟨⟨w', trace⟩, replayed, last⟩ := (Option.any_eq_true _ _).mp rerun
  obtain ⟨fire, unstored⟩ := of_decide_eq_true last
  have path := replay_path lastFire replayed
  obtain ⟨removed, silent, -⟩ := an_unknown_sensor_raises_nothing board house w w' trace path
  obtain ⟨-, unroused⟩ := silent () (removed () w₀ es _ at_ named taken) unstored
  exact ⟨w, w', trace, path, engaged, fire, unroused⟩

end Installation

end RiotAlarm
