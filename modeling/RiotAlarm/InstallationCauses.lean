import RiotAlarm.Installation
import RiotAlarm.SensorGrounds

/-! Why an actuator beeps. In every run of an installation, whatever its channels lose, double
or reorder, a beep goes back to the registration of the actuator and to a cause that the
gateway was given while the alarm was engaged, and a tap back to the sensor's own event. -/
namespace RiotAlarm.Installation

open Transition

variable {site : Site} {gnrc : Gnrc} {past es : List (Event site)} {w w' : State site}

section
variable (gnrc : Gnrc)

/-- From the press of a sensor's button to the gateway's table. -/
def enrolled (s : site.Sensors) : List (Event site) :=
  [.sensor s .pressed,.sensor s (.sent .register),.heard (.inl s) .register,
    .gateway (.stored .sensor (site.sensorId s).name (Gateway.endpoint gnrc (site.sensorId s)))]

def greeted (s : site.Sensors) : List (Event site) :=
  enrolled gnrc s ++ [.gateway (.sent .auth .register (Gateway.endpoint gnrc (site.sensorId s)))]

def connected (s : site.Sensors) : List (Event site) := greeted gnrc s ++ [.sensor s .connected]

/-- From the press of an actuator's button to the gateway's list. -/
def listed (a : site.Actuators) : List (Event site) :=
  [.actuator a .pressed,.actuator a .sentRegister,.heard (.inr a) .register,
    .gateway (.stored .actuator (site.actuatorId a).name (Gateway.endpoint gnrc (site.actuatorId a)))]

/-- The event sets the sensor's counter back to zero. -/
def restarts (s : site.Sensors) : Event site → Bool
  | .gateway (.stored .sensor name _) => name = (site.sensorId s).name
  | .heard (.inl s') .status => s' = s
  | _ => false

/-- The cause is not made up: a tap was sent by a sensor that AUTH had connected, for an event
of its own, and a silence is that of a stored sensor, over four turns of the watchdog. -/
def Founded (past : List (Event site)) : Cause site → Prop
  | .tap s => (connected gnrc s ++ [Event.sensor s (.sent .fire),.heard (.inl s) .fire]).Sublist past ∧
      [Event.sensor s .fired,.sensor s (.sent .fire),.heard (.inl s) .fire].Sublist past
  | .test => True
  | .silence => ∃ s, (enrolled gnrc s).Sublist past ∧ 4 ≤ (since (restarts s) past).count .ticked

/-- The alarm was engaged, and not disengaged since. -/
def Engaged (past : List (Event site)) : Prop :=
  ∃ before after, past = before ++ .gateway .engaged :: after ∧ .gateway .deactivated ∉ after

/-- The alarm was engaged, then given a cause, and not disengaged since. -/
def Alarmed (past : List (Event site)) : Prop :=
  ∃ before between cause after, past = (before ++ .gateway .engaged :: between) ++ .roused cause :: after ∧
    .gateway .deactivated ∉ between ++ after ∧ Founded gnrc (before ++ .gateway .engaged :: between) cause

/-- ON was sent to the actuator, when it was listed and the alarm had a cause. -/
def Rung (past : List (Event site)) (a : site.Actuators) : Prop :=
  ∃ before after, past = before ++ .gateway (.sent .on .beeper (Gateway.endpoint gnrc (site.actuatorId a))) :: after ∧
    (listed gnrc a).Sublist before ∧ Alarmed gnrc before

/-- What a request under way goes back to. -/
def Asked (past : List (Event site)) : site.Node → Sensor.Uri → Prop
  | .inl s,.register => [Event.sensor s .pressed,.sensor s (.sent .register)].Sublist past
  | .inl s,.fire => (connected gnrc s ++ [Event.sensor s (.sent .fire)]).Sublist past ∧
      [Event.sensor s .fired,.sensor s (.sent .fire)].Sublist past
  | .inl _,.status => True
  | .inr a,uri => uri = .register ∧ [Event.actuator a .pressed,.actuator a .sentRegister].Sublist past

/-- What a message under way goes back to. -/
def Told (past : List (Event site)) : site.Node → Gateway.Message × Gateway.Uri → Prop
  | .inl s,(.auth,.register) => (greeted gnrc s).Sublist past
  | .inr a,(.on,.beeper) => Rung gnrc past a
  | _,_ => True

end

/-! Nothing of this is taken back, except by a disengagement. -/

theorem sublist_snoc {l xs ys : List α} (before : l.Sublist xs) (shown : e ∈ ys) : (l ++ [e]).Sublist (xs ++ ys) :=
  before.append (List.singleton_sublist.mpr shown)

theorem sublist_later {l xs : List α} (before : l.Sublist xs) (ys : List α) : l.Sublist (xs ++ ys) :=
  before.trans (List.sublist_append_left xs ys)

theorem Engaged.append (held : Engaged past) (calm : .gateway .deactivated ∉ es) : Engaged (past ++ es) := by
  obtain ⟨before, after, rfl, on⟩ := held
  refine ⟨before, after ++ es, by simp, ?_⟩
  simp [on, calm]

theorem Alarmed.append (held : Alarmed gnrc past) (calm : .gateway .deactivated ∉ es) : Alarmed gnrc (past ++ es) := by
  obtain ⟨before, between, cause, after, rfl, on, founded⟩ := held
  refine ⟨before, between, cause, after ++ es, by simp, ?_, founded⟩
  rw [← List.append_assoc, List.mem_append, not_or]
  exact ⟨on, calm⟩

theorem Engaged.rouse (held : Engaged past) (founded : Founded gnrc past cause) : Alarmed gnrc (past ++ [.roused cause]) := by
  obtain ⟨before, after, rfl, on⟩ := held
  exact ⟨before, after, cause, [], rfl, by simpa using on, founded⟩

theorem Rung.append {a : site.Actuators} (held : Rung gnrc past a) (es : List (Event site)) : Rung gnrc (past ++ es) a := by
  obtain ⟨before, after, rfl, there, alarmed⟩ := held
  exact ⟨before, after ++ es, by simp, there, alarmed⟩

theorem Asked.append (held : Asked gnrc past n uri) (es : List (Event site)) : Asked gnrc (past ++ es) n uri := by
  cases n with
  | inr a => exact ⟨held.1, sublist_later held.2 es⟩
  | inl s =>
    cases uri with
    | register => exact sublist_later held es
    | status => trivial
    | fire => exact ⟨sublist_later held.1 es, sublist_later held.2 es⟩

theorem Told.append (held : Told gnrc past n message) (es : List (Event site)) : Told gnrc (past ++ es) n message := by
  obtain ⟨text, uri⟩ := message
  cases n <;> cases text <;> cases uri <;> first | exact sublist_later held es | exact Rung.append held es | trivial

/-! ## The gateway -/

/-- What the gateway holds goes back to the nodes. -/
structure Desk (gnrc : Gnrc) (past : List (Event site)) (g : Gateway.Globals) : Prop where
  entries : ∀ name value, g.htSensor.view name = some value →
    ∃ s, (site.sensorId s).name = name ∧ value.remote = Gateway.endpoint gnrc (site.sensorId s) ∧
      (enrolled gnrc s).Sublist past ∧ value.wdt.toNat ≤ (since (restarts s) past).count .ticked
  nodes : ∀ node ∈ g.actuators.toList,
    ∃ a, node.2 = Gateway.endpoint gnrc (site.actuatorId a) ∧ (listed gnrc a).Sublist past
  engaged : g.isEngaged = true → Engaged past
  cause : g.isSensorFired = true ∨ g.isTimeout = true → Alarmed gnrc past

/-- What is shown with an action of the gateway and what gave rise to it. -/
structure Fits (gnrc : Gnrc) (past : List (Event site)) (action : Gateway.Action) (notes : List (Event site))
    (cause : Option (Cause site)) : Prop where
  plain : ∀ e ∈ notes, note e = true
  ticks : notes.count .ticked = action.ticks
  status : ∀ s, .heard (.inl s) .status ∈ notes → ∃ id, action = .run (.status (some id)) ∧ id.name = (site.sensorId s).name
  sensor : ∀ id, action = .run (.register .sensor (some id)) → ∃ s, id = site.sensorId s ∧
    [Event.sensor s .pressed,.sensor s (.sent .register),.heard (.inl s) .register].Sublist (past ++ notes)
  actuator : ∀ id, action = .run (.register .actuator (some id)) → ∃ a, id = site.actuatorId a ∧
    [Event.actuator a .pressed,.actuator a .sentRegister,.heard (.inr a) .register].Sublist (past ++ notes)
  tap : ∀ id, action = .run (.tap (some id)) → ∃ s, cause = some (.tap s) ∧ Founded gnrc (past ++ notes) (.tap s)
  test : action = .run .testButton → cause = some .test
  wdt : action = .run .wdt → cause = some .silence ∧ notes = [.ticked]

namespace Desk
variable {s t : Gateway.Server} {action : Gateway.Action} {events : List Gateway.Event} {notes : List (Event site)}
  {cause : Option (Cause site)}

/-- A counter is at most the number of turns since it was set back. -/
theorem entry (held : Desk gnrc past s.globals) (fits : Fits gnrc past action notes cause)
    (taken : Gateway.step gnrc s action = some (t,events)) (found : t.globals.htSensor.view name = some value) :
    ∃ m, (site.sensorId m).name = name ∧ value.remote = Gateway.endpoint gnrc (site.sensorId m) ∧
      (enrolled gnrc m).Sublist (past ++ served s t events notes cause) ∧
      value.wdt.toNat ≤ (since (restarts m) (past ++ served s t events notes cause)).count .ticked := by
  cases Gateway.step_entry taken found with
  | registered id action_ named stored shown =>
    obtain ⟨m, rfl, asked⟩ := fits.sensor id action_
    refine ⟨m, named, by rw [stored], ?_, by simp [stored]⟩
    rw [served, ← List.append_assoc]
    apply sublist_snoc asked
    simp [shown]
  | kept before was remote counted reset unstored =>
    obtain ⟨m, named, known, chain, bound⟩ := held.entries name before was
    refine ⟨m, named, remote.trans known, sublist_later chain _, ?_⟩
    by_cases fresh : ∀ e ∈ served s t events notes cause, restarts m e = false
    · rw [since_append _ _ _ fresh, List.count_append]
      rw [served, List.count_append, fits.ticks]
      omega
    · -- the event that set the counter back is a status report, for a new entry is not kept
      push Not at fresh
      obtain ⟨e, shown, marks⟩ := fresh
      have zero : value.wdt = 0 := by
        cases e with
        | gateway event =>
          have member := (gateway_shown fits.plain event).mp shown
          cases event with
          | stored kind name' remote' =>
            cases kind with
            | sensor =>
              obtain rfl : name' = (site.sensorId m).name := by simpa [restarts] using marks
              exact absurd member (named ▸ unstored remote')
            | actuator => simp [restarts] at marks
          | _ => simp [restarts] at marks
        | heard n uri =>
          cases n with
          | inl m' =>
            cases uri with
            | status =>
              obtain rfl : m' = m := by simpa [restarts] using marks
              have noted := (served_cases shown).resolve_right (by simp)
              obtain ⟨id, action_, same⟩ := fits.status m' noted
              exact reset id action_ (same.trans named)
            | _ => simp [restarts] at marks
          | inr a => simp [restarts] at marks
        | _ => simp [restarts] at marks
      simp [zero]

theorem listing (held : Desk gnrc past s.globals) (fits : Fits gnrc past action notes cause)
    (taken : Gateway.step gnrc s action = some (t,events)) (there : node ∈ t.globals.actuators.toList) :
    ∃ a, node.2 = Gateway.endpoint gnrc (site.actuatorId a) ∧ (listed gnrc a).Sublist (past ++ served s t events notes cause) := by
  rcases Gateway.step_node taken there with ⟨id, action_, rfl, shown⟩ | before
  · obtain ⟨a, rfl, asked⟩ := fits.actuator id action_
    refine ⟨a, rfl, ?_⟩
    rw [served, ← List.append_assoc]
    apply sublist_snoc asked
    simp [shown]
  · obtain ⟨a, remote, chain⟩ := held.nodes node before
    exact ⟨a, remote, sublist_later chain _⟩

/-- The cause that a step gives the alarm is founded. -/
theorem founded (held : Desk gnrc past s.globals) (fits : Fits gnrc past action notes cause)
    (rouses : Gateway.Rouses s.globals action) : ∃ c, cause = some c ∧ Founded gnrc (past ++ notes) c := by
  cases rouses with
  | tap id known =>
    obtain ⟨m, same, founded⟩ := fits.tap id rfl
    exact ⟨_, same, founded⟩
  | test => exact ⟨_, fits.test rfl, trivial⟩
  | silence name value found late =>
    obtain ⟨same, rfl⟩ := fits.wdt rfl
    obtain ⟨m, -, -, chain, bound⟩ := held.entries name value found
    refine ⟨_, same, m, sublist_later chain _, ?_⟩
    rw [since_append _ _ _ (by simp [restarts]), List.count_append]
    have three : 2 < value.wdt.toNat := late
    simp only [List.count_singleton_self]
    omega

theorem step (held : Desk gnrc past s.globals) (fits : Fits gnrc past action notes cause)
    (taken : Gateway.step gnrc s action = some (t,events)) : Desk gnrc (past ++ served s t events notes cause) t.globals := by
  have flags := Gateway.step_alarm taken
  have calm : .deactivated ∉ events → .gateway .deactivated ∉ served s t events notes cause :=
    fun on => mt (gateway_shown fits.plain .deactivated).mp on
  constructor
  · exact fun name value found => held.entry fits taken found
  · exact fun node there => held.listing fits taken there
  · intro up
    rcases flags.engaged up with shown | ⟨before, on⟩
    · refine ⟨past ++ (notes ++ if Gateway.roused s.globals t.globals events then (cause.map Event.roused).toList else []), [], ?_, by simp⟩
      rw [served, shown]
      simp
    · exact (held.engaged before).append (calm on)
  · intro up
    rcases flags.cause up with ⟨before, on⟩ | rose
    · exact (held.cause before).append (calm on)
    · obtain ⟨rouses, engaged, on⟩ := flags.rouses rose
      obtain ⟨c, rfl, founded⟩ := held.founded fits rouses
      have noted : Engaged (past ++ notes) := (held.engaged engaged).append fun noted => by simpa [note] using fits.plain _ noted
      have given := noted.rouse founded
      have rest : (.gateway .deactivated : Event site) ∉ events.map .gateway := by simpa using on
      simpa [served, rose] using given.append rest

/-- What the nodes do does not concern it. -/
def aside : Event site → Bool
  | .sensor _ _ => true
  | .actuator _ _ => true
  | _ => false

theorem append {g : Gateway.Globals} (held : Desk gnrc past g) (others : ∀ e ∈ es, aside e = true) : Desk gnrc (past ++ es) g := by
  have calm : .gateway .deactivated ∉ es := fun member => by simpa [aside] using others _ member
  constructor
  · intro name value found
    obtain ⟨m, named, remote, chain, bound⟩ := held.entries name value found
    have plain : ∀ e ∈ es, restarts m e = false := by
      intro e member
      have other := others e member
      cases e <;> first | rfl | simp [aside] at other
    refine ⟨m, named, remote, sublist_later chain es, ?_⟩
    rw [since_append _ _ _ plain, List.count_append]
    omega
  · intro node there
    obtain ⟨a, remote, chain⟩ := held.nodes node there
    exact ⟨a, remote, sublist_later chain es⟩
  · exact fun up => (held.engaged up).append calm
  · exact fun up => (held.cause up).append calm

end Desk

/-! ## The installation -/

section
variable (gnrc : Gnrc)

def grounds (past : List (Event site)) (s : site.Sensors) : Sensor.Grounds where
  pressed := [Event.sensor s .pressed].Sublist past
  authorized := (greeted gnrc s).Sublist past
  connected := (connected gnrc s).Sublist past
  fired := [Event.sensor s .fired].Sublist past

/-- Everything in the installation goes back to what was shown. -/
structure Explained (past : List (Event site)) (w : State site) : Prop where
  desk : Desk gnrc past w.server.globals
  sensors : ∀ s, Sensor.Grounded (grounds gnrc past s) (w.sensor s)
  actuators : ∀ a, Actuator.Asked ([Event.actuator a .pressed].Sublist past) (w.actuator a)
  requests : ∀ n, ∀ uri ∈ w.uplink n, Asked gnrc past n uri
  messages : ∀ n, ∀ message ∈ w.downlink n, Told gnrc past n message
  beeping : ∀ a, (w.actuator a).gcoap = .pwmOn → Rung gnrc past a

/-- A beep is backed by an ON. -/
def because (past : List (Event site)) (e : Event site) : Prop := ∀ a, e = .actuator a .beeped → Rung gnrc past a

end

theorem grounds_grow {events : List Sensor.Event} (s : site.Sensors) (shown : ∀ event ∈ events, .sensor s event ∈ es) :
    (grounds gnrc past s).Grow (grounds gnrc (past ++ es) s) events := by
  constructor
  · rintro (before | now)
    · exact sublist_later before es
    · exact List.singleton_sublist.mpr (List.mem_append_right _ (shown _ now))
  · exact fun before => sublist_later before es
  · rintro (before | ⟨before, now⟩)
    · exact sublist_later before es
    · exact sublist_snoc before (shown _ now)
  · rintro (before | now)
    · exact sublist_later before es
    · exact List.singleton_sublist.mpr (List.mem_append_right _ (shown _ now))

/-- The endpoint of a node has its address. -/
theorem sensor_of_addr {s s' : site.Sensors} (same : (Gateway.endpoint gnrc (site.sensorId s')).addr = site.address (.inl s)) : s' = s :=
  Sum.inl.inj (site.addresses same)

theorem actuator_of_addr {a a' : site.Actuators} (same : (Gateway.endpoint gnrc (site.actuatorId a')).addr = site.address (.inr a)) : a' = a :=
  Sum.inr.inj (site.addresses same)

theorem not_both_addr {s : site.Sensors} {a : site.Actuators} (same : (Gateway.endpoint gnrc (site.actuatorId a)).addr = site.address (.inl s)) : False := by
  have apart := site.addresses (show Sum.elim _ _ (Sum.inr a) = Sum.elim _ _ (Sum.inl s) from same)
  cases apart

namespace Explained

/-- The message under way was sent by the step. -/
theorem sent_of_addressed {events : List Gateway.Event} (arrives : (text,uri) ∈ events.filterMap (addressed ipAddr)) :
    ∃ remote, .sent text uri remote ∈ events ∧ remote.addr = ipAddr := by
  obtain ⟨event, member, is⟩ := List.mem_filterMap.mp arrives
  unfold addressed at is
  split at is
  next remote =>
    split at is
    next here =>
      cases is
      exact ⟨remote, member, here⟩
    next => contradiction
  next => contradiction

/-- AUTH is under way to a sensor that is in the table. -/
theorem auth {s t : Gateway.Server} {events : List Gateway.Event} (desk : Desk gnrc past s.globals)
    (fits : Fits gnrc past action notes cause) (taken : Gateway.step gnrc s action = some (t,events)) (m : site.Sensors)
    (arrives : (.auth,.register) ∈ events.filterMap (addressed (site.address (.inl m)))) :
    (greeted gnrc m).Sublist (past ++ served s t events notes cause) := by
  obtain ⟨remote, sent, here⟩ := sent_of_addressed arrives
  rcases Gateway.step_auth taken sent with ⟨name, value, found, rfl⟩ | ⟨node, there, rfl⟩
  · obtain ⟨m', -, known, chain, -⟩ := desk.entries name value found
    rw [known] at sent here
    obtain rfl := sensor_of_addr here
    exact sublist_snoc chain ((gateway_shown fits.plain _).mpr sent)
  · obtain ⟨a, known, -⟩ := desk.nodes node there
    rw [known] at here
    exact (not_both_addr here).elim

/-- ON is under way to an actuator that is listed. -/
theorem on {s t : Gateway.Server} {events : List Gateway.Event} (desk : Desk gnrc past s.globals)
    (fits : Fits gnrc past action notes cause) (taken : Gateway.step gnrc s action = some (t,events)) (a : site.Actuators)
    (arrives : (.on,.beeper) ∈ events.filterMap (addressed (site.address (.inr a)))) :
    Rung gnrc (past ++ served s t events notes cause) a := by
  obtain ⟨remote, sent, here⟩ := sent_of_addressed arrives
  obtain ⟨-, given, -, rings⟩ := Gateway.step_on taken sent
  obtain ⟨node, there, same⟩ : ∃ node ∈ s.globals.actuators.toList, Gateway.Event.sent .on .beeper node.2 = .sent .on .beeper remote := by
    rw [rings] at sent
    exact List.mem_map.mp sent
  cases same
  obtain ⟨a', known, chain⟩ := desk.nodes node there
  rw [known] at sent here
  obtain rfl := actuator_of_addr here
  have shown : .gateway (.sent .on .beeper _) ∈ served s t events notes cause := (gateway_shown fits.plain _).mpr sent
  obtain ⟨front, rest, split_⟩ := List.append_of_mem shown
  have calm : .gateway .deactivated ∉ front := by
    intro off
    have among : .gateway .deactivated ∈ served s t events notes cause := split_ ▸ List.mem_append_left _ off
    have shown := (gateway_shown fits.plain _).mp among
    rw [rings] at shown
    simp [Gateway.rings] at shown
  refine ⟨past ++ front, rest, by rw [split_, List.append_assoc], sublist_later chain front, ?_⟩
  exact (desk.cause given).append calm

theorem told {s t : Gateway.Server} {events : List Gateway.Event} (desk : Desk gnrc past s.globals)
    (fits : Fits gnrc past action notes cause) (taken : Gateway.step gnrc s action = some (t,events)) (n : site.Node)
    (arrives : (text,uri) ∈ events.filterMap (addressed (site.address n))) :
    Told gnrc (past ++ served s t events notes cause) n (text,uri) := by
  cases n with
  | inl m =>
    cases text <;> cases uri
    case auth.register => exact auth desk fits taken m arrives
    all_goals trivial
  | inr a =>
    cases text <;> cases uri
    case on.beeper => exact on desk fits taken a arrives
    all_goals trivial

/-- What a step of the gateway leaves behind. -/
theorem serve (held : Explained gnrc past w) (fits : Fits gnrc past action notes cause)
    (run : serve gnrc w action notes cause = some (w',es)) : Explained gnrc (past ++ es) w' := by
  obtain ⟨⟨server, events⟩, taken, same⟩ := Option.map_eq_some_iff.mp run
  cases same
  constructor
  · exact held.desk.step fits taken
  · exact fun s => (held.sensors s).later (grounds_grow s (by simp))
  · exact fun a => (held.actuators a).later fun pressed => sublist_later pressed _
  · exact fun n uri asked => (held.requests n uri asked).append _
  · intro n (text,uri) underWay
    rcases List.mem_append.mp underWay with before | sent
    · exact (held.messages n _ before).append _
    · exact told held.desk fits taken n sent
  · exact fun a at_ => (held.beeping a at_).append _

/-- A step of a sensor. -/
theorem sensor (held : Explained gnrc past w) (run : sensorStep w s move = some (w',es))
    (heard : move = .message (some REGISTER_RESPONSE) → (greeted gnrc s).Sublist past) : Explained gnrc (past ++ es) w' := by
  obtain ⟨⟨node, events⟩, taken, same⟩ := Option.map_eq_some_iff.mp run
  cases same
  have grow : (grounds gnrc past s).Grow (grounds gnrc (past ++ events.map (.sensor s)) s) events :=
    grounds_grow s fun event member => List.mem_map.mpr ⟨event, member, rfl⟩
  obtain ⟨grounded, register, fire⟩ := (held.sensors s).step grow taken fun told => sublist_later (heard told) _
  constructor
  · exact held.desk.append (by simp [Desk.aside])
  · intro s'
    by_cases here : s' = s
    · subst here
      simpa using grounded
    · simp only [Function.update_of_ne here]
      exact (held.sensors s').later (grounds_grow s' (by simp))
  · exact fun a => (held.actuators a).later fun pressed => sublist_later pressed _
  · intro n uri asked
    by_cases here : n = .inl s
    · subst here
      simp only [Function.update_self] at asked
      rcases List.mem_append.mp asked with before | sent
      · exact (held.requests _ uri before).append _
      · obtain ⟨event, member, is⟩ := List.mem_filterMap.mp sent
        have shown : (.sensor s (.sent uri) : Event site) ∈ events.map (.sensor s) := by
          cases event <;> simp only [sentUri, reduceCtorEq, Option.some.injEq] at is
          subst is
          exact List.mem_map.mpr ⟨_, member, rfl⟩
        have member : Sensor.Event.sent uri ∈ events := by simpa using shown
        cases uri with
        | register => exact sublist_snoc (register member) shown
        | status => trivial
        | fire =>
          obtain ⟨fired, connected⟩ := fire member
          exact ⟨sublist_snoc connected shown, sublist_snoc fired shown⟩
    · simp only [Function.update_of_ne here] at asked
      exact (held.requests n uri asked).append _
  · exact fun n message underWay => (held.messages n message underWay).append _
  · exact fun a at_ => (held.beeping a at_).append _

/-- A step of an actuator, and its beep. -/
theorem actuator (held : Explained gnrc past w) (run : actuatorStep w a move = some (w',es))
    (heard : ∀ uri payload, move = .message uri payload → Actuator.dispatch uri payload = .pwmOn → Rung gnrc past a) :
    Explained gnrc (past ++ es) w' ∧ ∀ front e later, es = front ++ e :: later → because gnrc (past ++ front) e := by
  obtain ⟨⟨node, events⟩, taken, same⟩ := Option.map_eq_some_iff.mp run
  cases same
  obtain ⟨asked, register⟩ := (held.actuators a).step (fun pressed => sublist_later pressed (events.map (.actuator a)))
    (fun member => List.singleton_sublist.mpr (List.mem_append_right _ (List.mem_map.mpr ⟨_, member, rfl⟩))) taken
  -- the handler comes to the beep by a message, and the beep is its next statement
  have handler : (node.gcoap = .pwmOn → Rung gnrc past a) ∧ (.beeped ∈ events → Rung gnrc past a) := by
    rcases Actuator.step_gcoap taken with ⟨-, ran⟩ | ⟨uri, payload, rfl, -, rfl, rfl⟩ | ⟨stays, -, -, silent, -⟩
    · simp only [Actuator.gcoapStep] at ran
      split at ran <;> cases ran
      case h_4 at_ => exact ⟨by simp, fun _ => held.beeping a at_⟩
      case h_2 | h_3 => exact ⟨by simp, fun beep => by split at beep <;> simp at beep⟩
      all_goals exact ⟨by simp, by simp⟩
    · exact ⟨heard uri payload rfl, by simp⟩
    · exact ⟨fun at_ => held.beeping a (stays ▸ at_), fun beep => absurd beep silent⟩
  refine ⟨?_, ?_⟩
  · constructor
    · exact held.desk.append (by simp [Desk.aside])
    · exact fun s => (held.sensors s).later (grounds_grow s (by simp))
    · intro a'
      by_cases here : a' = a
      · subst here
        simpa using asked
      · simp only [Function.update_of_ne here]
        exact (held.actuators a').later fun pressed => sublist_later pressed _
    · intro n uri under
      by_cases here : n = .inr a
      · subst here
        simp only [Function.update_self] at under
        rcases List.mem_append.mp under with before | sent
        · exact (held.requests _ uri before).append _
        · obtain ⟨event, member, is⟩ := List.mem_filterMap.mp sent
          cases event <;> simp only [sentRegister, reduceCtorEq, Option.some.injEq] at is
          exact ⟨is.symm, sublist_snoc (register member) (List.mem_map.mpr ⟨_, member, rfl⟩)⟩
      · simp only [Function.update_of_ne here] at under
        exact (held.requests n uri under).append _
    · exact fun n message under => (held.messages n message under).append _
    · intro a' at_
      by_cases here : a' = a
      · subst here
        exact (handler.1 (by simpa using at_)).append _
      · exact (held.beeping a' (by simpa [here] using at_)).append _
  · rintro front e later split_ a' rfl
    have member : (.actuator a' .beeped : Event site) ∈ events.map (.actuator a) := by
      rw [split_]
      simp
    obtain ⟨event, shown, same⟩ := List.mem_map.mp member
    cases same
    exact (handler.2 shown).append front

/-! What each action fits. -/

theorem fits_own (action : Gateway.Action) (own : asks action = false) :
    Fits gnrc past action (ownNotes action) (ownCause action : Option (Cause site)) := by
  cases action with
  | type command => constructor <;> simp [ownNotes, Gateway.Action.ticks, note]
  | shell => constructor <;> simp [ownNotes, Gateway.Action.ticks, note]
  | run handler =>
    cases handler <;> simp [asks] at own <;> constructor <;> simp [ownNotes, ownCause, Gateway.Action.ticks, note]

theorem fits_request (held : Explained gnrc past w) (n : site.Node) (uri : Sensor.Uri) (underWay : uri ∈ w.uplink n)
    (leftover : Stream' UInt8) (behind : CString) :
    Fits gnrc past (.run (request site leftover behind n uri)) [.heard n uri] (tapCause n) := by
  have origin := held.requests n uri underWay
  cases n with
  | inr a =>
    obtain ⟨rfl, sent⟩ := origin
    have decoded := decode_register (site.actuator a) (site.actuatorEnds a) leftover behind
    constructor <;> simp [request, decoded, Gateway.Action.ticks, note]
    exact ⟨a, rfl, sublist_snoc sent (by simp)⟩
  | inl s =>
    cases uri with
    | register =>
      have decoded := decode_register (site.sensor s) (site.sensorEnds s) leftover behind
      constructor <;> simp [request, decoded, Gateway.Action.ticks, note]
      exact ⟨s, rfl, sublist_snoc origin (by simp)⟩
    | status =>
      obtain ⟨ipAddr, decoded⟩ := decode_status (site.sensor s) (site.sensorEnds s) leftover behind
      constructor <;> simp [request, decoded, Gateway.Action.ticks, note]
      rfl
    | fire =>
      obtain ⟨ipAddr, decoded⟩ := decode_status (site.sensor s) (site.sensorEnds s) leftover behind
      constructor <;> simp [request, decoded, Gateway.Action.ticks, note, tapCause]
      have heard : (.heard (.inl s) .fire : Event site) ∈ [.heard (.inl s) .fire] := by simp
      refine ⟨?_, sublist_snoc origin.2 heard⟩
      simpa using sublist_snoc origin.1 heard

/-- Fewer things under way. -/
theorem fewer (held : Explained gnrc past w) (uplink : site.Node → List Sensor.Uri)
    (downlink : site.Node → List (Gateway.Message × Gateway.Uri)) (requests : ∀ n, ∀ uri ∈ uplink n, uri ∈ w.uplink n)
    (messages : ∀ n, ∀ message ∈ downlink n, message ∈ w.downlink n) : Explained gnrc past { w with uplink, downlink } where
  desk := held.desk
  sensors := held.sensors
  actuators := held.actuators
  requests n uri underWay := held.requests n uri (requests n uri underWay)
  messages n message underWay := held.messages n message (messages n message underWay)
  beeping := held.beeping

theorem update_sublist {channel : site.Node → List α} {rest : List α} (n : site.Node) (fewer : ∀ x ∈ rest, x ∈ channel n) :
    ∀ m, ∀ x ∈ Function.update channel n rest m, x ∈ channel m := by
  intro m x member
  by_cases here : m = n
  · subst here
    exact fewer x (by simpa using member)
  · simpa [here] using member

theorem because_of_mute (mute : ∀ a, .actuator a .beeped ∉ es) :
    ∀ front e later, es = front ++ e :: later → because gnrc (past ++ front) e := by
  rintro front e later rfl a rfl
  exact absurd (by simp) (mute a)

theorem served_mute {s t : Gateway.Server} {events : List Gateway.Event} (plain : ∀ e ∈ notes, note e = true) (a : site.Actuators) :
    .actuator a .beeped ∉ served s t events notes cause := by
  intro shown
  rcases served_cases shown with noted | ⟨c, same, -⟩ | ⟨event, -, same⟩
  · simpa [note] using plain _ noted
  · cases same
  · cases same

/-- What a step does, and that it shows no beep, or one that an ON has brought about. -/
def Accounts (gnrc : Gnrc) (past es : List (Event site)) (w' : State site) : Prop :=
  Explained gnrc (past ++ es) w' ∧ ∀ front e later, es = front ++ e :: later → because gnrc (past ++ front) e

theorem serve_accounts (held : Explained gnrc past w) (fits : Fits gnrc past action notes cause)
    (run : Installation.serve gnrc w action notes cause = some (w',es)) : Accounts gnrc past es w' := by
  refine ⟨held.serve fits run, because_of_mute ?_⟩
  obtain ⟨⟨server, events⟩, -, same⟩ := Option.map_eq_some_iff.mp run
  cases same
  exact served_mute fits.plain

theorem sensor_accounts (held : Explained gnrc past w) (run : sensorStep w s move = some (w',es))
    (heard : move = .message (some REGISTER_RESPONSE) → (greeted gnrc s).Sublist past) : Accounts gnrc past es w' := by
  refine ⟨held.sensor run heard, because_of_mute ?_⟩
  obtain ⟨⟨node, events⟩, -, same⟩ := Option.map_eq_some_iff.mp run
  cases same
  simp

/-- A message that arrives. -/
theorem arrival {read : CString} (held : Explained gnrc past w) (n : site.Node) (origin : Told gnrc past n (text,uri))
    (heard : reads text read = true) (run : arrive w uri read n = some (w',es)) : Accounts gnrc past es w' := by
  cases n with
  | inl s =>
    cases uri with
    | beeper =>
      cases run
      exact ⟨by simpa using held, because_of_mute (by simp)⟩
    | register =>
      apply held.sensor_accounts run
      intro same
      cases same
      obtain rfl : text = .auth := read_command heard rfl
      exact origin
  | inr a =>
    apply held.actuator run
    intro uri' payload same beep
    cases same
    cases uri with
    | register =>
      simp only [Actuator.dispatch] at beep
      split at beep <;> (try split at beep) <;> cases beep
    | beeper =>
      simp only [Actuator.dispatch, strcmp_eq_zero] at beep
      split at beep
      next on =>
        obtain rfl : text = .on := read_command heard on
        exact origin
      next => cases beep

/-- One step of the installation, and the beep that it may show. -/
theorem step (held : Explained gnrc past w) (taken : step gnrc w action = some (w',es)) : Accounts gnrc past es w' := by
  cases step_taken taken with
  | gateway own run => exact held.serve_accounts (fits_own _ own) run
  | hear picked run =>
    obtain ⟨underWay, fewer⟩ := pick_mem picked
    have left := held.fewer _ w.downlink (update_sublist _ fewer) fun _ _ same => same
    exact left.serve_accounts (held.fits_request _ _ underWay _ _) run
  | deliver picked heard run =>
    obtain ⟨underWay, fewer⟩ := pick_mem picked
    have left := held.fewer w.uplink _ (fun _ _ same => same) (update_sublist _ fewer)
    exact left.arrival _ (held.messages _ _ underWay) heard run
  | @loseRequest n place =>
    have left := held.fewer (Function.update w.uplink n ((w.uplink n).eraseIdx place)) w.downlink
      (update_sublist n fun _ => List.mem_of_mem_eraseIdx) fun _ _ same => same
    exact ⟨by simpa using left, because_of_mute (by simp)⟩
  | @loseMessage n place =>
    have left := held.fewer w.uplink (Function.update w.downlink n ((w.downlink n).eraseIdx place)) (fun _ _ same => same)
      (update_sublist n fun _ => List.mem_of_mem_eraseIdx)
    exact ⟨by simpa using left, because_of_mute (by simp)⟩
  | sensor own run =>
    apply held.sensor_accounts run
    rintro rfl
    simp [sensorIsMessage] at own
  | actuator own run =>
    apply held.actuator run
    rintro uri payload rfl
    simp [isMessage] at own

theorem boot (gnrc : Gnrc) (site : Site) : Explained gnrc [] (boot site) := by
  constructor
  · constructor <;> simp [Installation.boot, Gateway.start, Gateway.init]
  · exact fun s => .boot _ _
  · exact fun a => ⟨by simp [Installation.boot, Actuator.boot], by simp [Installation.boot, Actuator.boot]⟩
  · simp [Installation.boot]
  · simp [Installation.boot]
  · simp [Installation.boot, Actuator.boot]

end Explained

theorem explained (path : Path (step gnrc) anything (boot site) trace w) : Explained gnrc trace w ∧ Backed (because gnrc) trace := by
  apply path.invariant (fun trace w => Explained gnrc trace w ∧ Backed (because gnrc) trace)
  · intro trace w action w' es ⟨held, backed⟩ _ taken
    obtain ⟨after, beeps⟩ := held.step taken
    exact ⟨after, backed.append beeps⟩
  · exact ⟨.boot gnrc site, .nil _⟩

/-- Whatever the channels lose, double and reorder, and whatever is left in the buffers: before
every beep of an actuator lies an ON that the gateway sent to it, after the actuator had been
registered by a press of its button, and after the alarm had been engaged and then given a
cause, without a disengagement from then to the ON; and the cause is a press of the test
button, a stored sensor silent over four turns of the watchdog, or a tap that a sensor,
registered and connected by AUTH, sent for an event of its own. -/
theorem every_beep_has_a_cause (gnrc : Gnrc) (site : Site) (trace : List (Event site)) (w : State site)
    (path : Path (step gnrc) anything (boot site) trace w) (past later : List (Event site)) (a : site.Actuators)
    (beep : trace = past ++ .actuator a .beeped :: later) : Rung gnrc past a :=
  (explained path).2 past _ later beep a rfl

/-- A sensor that was named on its shell, and an actuator. -/
def house : Site where
  Sensors := Unit
  Actuators := Unit
  decSensors := inferInstance
  decActuators := inferInstance
  sensor _ := (Gateway.unnamed.setSensorName tapsense.name).1
  actuator _ := ⟨[97, 99, 116, 50] ++ List.replicate 6 0 ++ 254 :: 128 :: List.replicate 14 2,by decide⟩
  detector _ := Sensor.irDetector
  sensorEnds _ := by decide
  actuatorEnds _ := by decide
  addresses := by
    rintro (_ | _) (_ | _) same <;> first | rfl | exact absurd same (by decide +revert)

def gatewayActions (actions : List Gateway.Action) : List (Action house) := actions.map .gateway
def sensorMoves (moves : List (Sensor.Move Sensor.irDetector)) : List (Action house) := moves.map (.sensor ())
def actuatorMoves (moves : List Actuator.Move) : List (Action house) := moves.map (.actuator ())

/-- The first request under way is heard, the first message read. -/
def heard (n : house.Node) : Action house := .hear n 0 false (Stream'.const 0) nothing
def delivered (n : house.Node) (message : Gateway.Message) : Action house := .deliver n 0 false message.payload

def typed (command : Gateway.Command) (statements : Nat) : List (Action house) :=
  gatewayActions (.type command :: List.replicate statements .shell)

/-- Both nodes are registered and told so, and the alarm is engaged. -/
def furnished : List (Action house) :=
  sensorMoves (Sensor.started ++ [.registerButton,.registerThread,.registerThread]) ++
  typed (.auth .sensor [tapsense.name]) 3 ++ [heard (.inl ())] ++ gatewayActions (List.replicate 6 .shell) ++
  [delivered (.inl ()) .auth] ++ sensorMoves [.gcoap,.gcoap] ++
  actuatorMoves [.main,.registerButton,.registerThread,.registerThread] ++
  typed (.auth .actuator [act2.name]) 3 ++ [heard (.inr ())] ++ gatewayActions (List.replicate 6 .shell) ++
  [delivered (.inr ()) .auth] ++ actuatorMoves [.gcoap] ++ typed (.engage []) 2

/-- The sensor is touched, and the actuator beeps. -/
def touched : List (Action house) :=
  sensorMoves (.testButton :: List.replicate 4 .detectionThread) ++ [heard (.inl ())] ++
  gatewayActions [.run .alarm] ++ [delivered (.inr ()) .on] ++ actuatorMoves [.gcoap]

theorem every_beep_has_a_cause_run :
    ∃ past w, Path (step board) anything (boot house) (past ++ [.actuator () .beeped]) w ∧ Rung board past () := by
  have run : ∃ (w : State house) (trace : List (Event house)), Path (step board) anything (boot house) trace w ∧
      trace.getLast? = some (.actuator () .beeped) :=
    replay_reaches (furnished ++ touched) (fun (_ : State house) (trace : List (Event house)) =>
      trace.getLast? = some (.actuator () .beeped)) (by decide +kernel)
  obtain ⟨w, trace, path, last⟩ := run
  obtain ⟨past, rfl⟩ : ∃ past, trace = past ++ [.actuator () .beeped] := List.getLast?_eq_some_iff.mp last
  exact ⟨past, w, path, every_beep_has_a_cause board house _ w path past [] () rfl⟩

end RiotAlarm.Installation
