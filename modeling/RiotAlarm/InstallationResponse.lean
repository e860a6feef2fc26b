import RiotAlarm.InstallationCauses

/-! What comes of an event. Channels that lose nothing bring every FIRE to the gateway and
every ON to its beep, channels that double nothing bring it there once; and between the cause
of an alarm and the beep of every listed actuator lies one turn of the alarm thread. -/
namespace RiotAlarm.Installation

open Transition

variable {site : Site} {gnrc : Gnrc} {es : List (Event site)} {w w' : State site} {action : Action site}

/-- A datagram is lost. A put of the gateway that sends nothing is the loss of its datagram; one
of a sensor emits no `.sent`. -/
def loses : Action site → Bool
  | .loseRequest _ _ => true
  | .loseMessage _ _ => true
  | _ => false

def copies : Action site → Bool
  | .hear _ _ copy _ _ => copy
  | .deliver _ _ copy _ => copy
  | _ => false

/-- Nothing is lost and nothing doubled. -/
def faithful (_ : State site) (action : Action site) : Prop := loses action = false ∧ copies action = false

instance (w : State site) (action : Action site) : Decidable (faithful w action) := inferInstanceAs (Decidable (_ ∧ _))

/-- The step sends the actuator an ON. -/
def onTo (a : site.Actuators) : Event site → Bool
  | .gateway event => addressed (site.address (.inr a)) event = some (.on,.beeper)
  | _ => false

/-- The ONs that have not yet been followed by a beep. -/
def owed (w : State site) (a : site.Actuators) : Nat :=
  (w.downlink (.inr a)).count (.on,.beeper) + (w.actuator a).due

/-! ## From the gateway to a beep -/

theorem owed_serve (run : serve gnrc w act notes cause = some (w',es)) (plain : ∀ e ∈ notes, note e = true) (a : site.Actuators) :
    es.count (.actuator a .beeped) = 0 ∧ owed w' a = owed w a + es.countP (onTo a) := by
  obtain ⟨⟨server, events⟩, -, same⟩ := Option.map_eq_some_iff.mp run
  cases same
  refine ⟨List.count_eq_zero.mpr (Explained.served_mute plain a), ?_⟩
  have noted : notes.countP (onTo a) = 0 := by
    apply List.countP_eq_zero.mpr
    intro e member sent
    have other := plain e member
    cases e <;> simp [note, onTo] at other sent
  have given : (if Gateway.roused w.server.globals server.globals events then (cause.map Event.roused).toList else []).countP
      (onTo a) = 0 := by
    apply List.countP_eq_zero.mpr
    intro e member sent
    split at member
    next =>
      obtain ⟨c, -, rfl⟩ : ∃ c, cause = some c ∧ Event.roused c = e := by simpa using member
      simp [onTo] at sent
    next => simp at member
  have own : (events.map (Event.gateway : _ → Event site)).countP (onTo a) =
      (events.filterMap (addressed (site.address (.inr a)))).count (.on,.beeper) := by
    rw [List.countP_map, List.count_filterMap]
    apply List.countP_congr
    intro event _
    simp [onTo]
  simp only [owed, served, List.countP_append, noted, given, own, List.count_append]
  omega

theorem owed_sensor (run : sensorStep w s move = some (w',es)) (a : site.Actuators) :
    es.count (.actuator a .beeped) = 0 ∧ es.countP (onTo a) = 0 ∧ owed w' a = owed w a := by
  obtain ⟨⟨node, events⟩, -, same⟩ := Option.map_eq_some_iff.mp run
  cases same
  refine ⟨by simp [List.count_eq_zero], ?_, rfl⟩
  simp [List.countP_eq_zero, onTo]

theorem owed_actuator (run : actuatorStep w a' move = some (w',es)) (a : site.Actuators) :
    es.countP (onTo a) = 0 ∧ es.count (.actuator a .beeped) + owed w' a = owed w a + if a' = a then move.orders else 0 := by
  obtain ⟨⟨node, events⟩, taken, same⟩ := Option.map_eq_some_iff.mp run
  cases same
  refine ⟨by simp [List.countP_eq_zero, onTo], ?_⟩
  by_cases here : a' = a
  · subst here
    have due := Actuator.due_step taken
    have beeps : (events.map (Event.actuator a' : _ → Event site)).count (.actuator a' .beeped) = events.count .beeped := by
      apply List.count_map_of_injective
      intro e e' same
      exact (Event.actuator.inj same).2
    simp only [owed, beeps, Function.update_self, if_true]
    omega
  · have beeps : (events.map (Event.actuator a' : _ → Event site)).count (.actuator a .beeped) = 0 := by
      simp [List.count_eq_zero, here]
    simp [owed, beeps, here, Function.update_of_ne (Ne.symm here)]

/-- A message is taken for an order to beep exactly if it is an ON. -/
theorem orders_message {read : CString} (heard : reads message read = true) :
    (Actuator.Move.message uri (some read)).orders = if (message,uri) = (.on,.beeper) then 1 else 0 := by
  cases uri with
  | register =>
    simp only [Actuator.Move.orders, Actuator.dispatch]
    repeat' split
    all_goals simp_all
  | beeper =>
    simp only [Actuator.Move.orders, Actuator.dispatch, strcmp_eq_zero]
    by_cases on : read = Actuator.TURN_ON_ALARM
    · obtain rfl : message = .on := read_command heard on
      simp [on]
    · have other : message ≠ .on := by
        rintro rfl
        have short : strlen Gateway.Message.on.payload < Wire.MESSAGE_SIZE := by decide
        simp only [reads, short, if_true, decide_eq_true_eq] at heard
        exact on heard
      simp [on, other]

theorem owed_arrive {read : CString} (heard : reads message read = true) (run : arrive w uri read n = some (w',es))
    (a : site.Actuators) :
    es.countP (onTo a) = 0 ∧
      es.count (.actuator a .beeped) + owed w' a = owed w a + if n = .inr a ∧ (message,uri) = (.on,.beeper) then 1 else 0 := by
  cases n with
  | inl s =>
    cases uri with
    | register =>
      obtain ⟨silent, unsent, same⟩ := owed_sensor run a
      simp [silent, unsent, same]
    | beeper =>
      cases run
      simp
  | inr a' =>
    obtain ⟨unsent, flow⟩ := owed_actuator run a
    refine ⟨unsent, ?_⟩
    rw [flow, orders_message heard]
    by_cases here : a' = a <;> simp [here]

/-- The ONs to an actuator over one step: what is lost is owed no more, and what is doubled
is owed once more. -/
theorem owed_step (taken : step gnrc w action = some (w',es)) (a : site.Actuators) :
    (loses action = false → owed w a + es.countP (onTo a) ≤ es.count (.actuator a .beeped) + owed w' a) ∧
    (copies action = false → es.count (.actuator a .beeped) + owed w' a ≤ owed w a + es.countP (onTo a)) := by
  cases step_taken taken with
  | gateway own run =>
    obtain ⟨silent, flow⟩ := owed_serve run (plain_own _) a
    omega
  | hear picked run =>
    obtain ⟨silent, flow⟩ := owed_serve run (by simp [note]) a
    have same : owed w' a = owed w a + es.countP (onTo a) := flow
    omega
  | @deliver n place copy message uri rest _ _ read picked heard run =>
    obtain ⟨unsent, flow⟩ := owed_arrive heard run a
    obtain ⟨most, exact_⟩ := pick_count picked (.on,.beeper)
    simp only [beq_iff_eq] at most exact_
    by_cases here : n = .inr a
    · subst here
      simp only [owed, Function.update_self, true_and] at flow ⊢
      constructor
      · intro _
        omega
      · intro single
        have one := exact_ single
        omega
    · have same : owed { w with downlink := Function.update w.downlink n rest } a = owed w a := by
        simp [owed, Function.update_of_ne (Ne.symm here)]
      simp only [here, false_and, if_false] at flow
      omega
  | loseRequest =>
    simp [loses, owed]
  | @loseMessage n place =>
    refine ⟨by simp [loses], fun _ => ?_⟩
    by_cases here : n = .inr a
    · subst here
      have fewer := (List.eraseIdx_sublist (w.downlink (.inr a)) place).count_le (Gateway.Message.on,Gateway.Uri.beeper)
      simpa [owed] using fewer
    · simp [owed, Function.update_of_ne (Ne.symm here)]
  | sensor own run =>
    obtain ⟨silent, unsent, same⟩ := owed_sensor run a
    omega
  | @actuator move a' _ _ own run =>
    obtain ⟨unsent, flow⟩ := owed_actuator run a
    have none : move.orders = 0 := by cases move <;> first | rfl | simp [isMessage] at own
    simp only [none, ite_self] at flow
    omega

/-! ## From a sensor to the gateway -/

theorem heard_serve (run : serve gnrc w act notes cause = some (w',es)) (plain : ∀ e ∈ notes, note e = true)
    (s : site.Sensors) (uri : Sensor.Uri) :
    w'.uplink = w.uplink ∧ es.count (.heard (.inl s) uri) = notes.count (.heard (.inl s) uri) ∧
      es.count (.sensor s (.sent uri)) = 0 := by
  obtain ⟨⟨server, events⟩, -, same⟩ := Option.map_eq_some_iff.mp run
  cases same
  refine ⟨rfl, served_count _ (by simp) (by simp), ?_⟩
  rw [served_count _ (by simp) (by simp)]
  exact List.count_eq_zero.mpr fun noted => by simpa [note] using plain _ noted

/-- A sensor's own step sends what it shows. -/
theorem heard_sensor (run : sensorStep w s' move = some (w',es)) (s : site.Sensors) (uri : Sensor.Uri) :
    es.count (.heard (.inl s) uri) = 0 ∧
      (w'.uplink (.inl s)).count uri = (w.uplink (.inl s)).count uri + es.count (.sensor s (.sent uri)) := by
  obtain ⟨⟨node, events⟩, -, same⟩ := Option.map_eq_some_iff.mp run
  cases same
  refine ⟨by simp [List.count_eq_zero], ?_⟩
  by_cases here : s' = s
  · subst here
    have sent : (events.filterMap sentUri).count uri =
        (events.map (Event.sensor s' : _ → Event site)).count (.sensor s' (.sent uri)) := by
      rw [List.count_filterMap, List.count, List.countP_map]
      apply List.countP_congr
      intro event _
      cases event <;> simp [sentUri]
    simp only [Function.update_self, List.count_append, sent]
  · have unsent : (.sensor s (.sent uri) : Event site) ∉ events.map (.sensor s') := by simp [here]
    simp [Function.update_of_ne, Ne.symm here, List.count_eq_zero.mpr unsent]

theorem heard_actuator (run : actuatorStep w a move = some (w',es)) (s : site.Sensors) (uri : Sensor.Uri) :
    es.count (.heard (.inl s) uri) = 0 ∧ es.count (.sensor s (.sent uri)) = 0 ∧ w'.uplink (.inl s) = w.uplink (.inl s) := by
  obtain ⟨⟨node, events⟩, -, same⟩ := Option.map_eq_some_iff.mp run
  cases same
  simp [List.count_eq_zero]

theorem heard_arrive {read : CString} (run : arrive w uri' read n = some (w',es)) (s : site.Sensors) (uri : Sensor.Uri) :
    es.count (.heard (.inl s) uri) = 0 ∧
      (w'.uplink (.inl s)).count uri = (w.uplink (.inl s)).count uri + es.count (.sensor s (.sent uri)) := by
  cases n with
  | inl s' =>
    cases uri' with
    | register => exact heard_sensor run s uri
    | beeper =>
      cases run
      simp
  | inr a =>
    obtain ⟨unheard, unsent, same⟩ := heard_actuator run s uri
    simp [unheard, unsent, same]

/-- The requests of a sensor over one step. -/
theorem heard_step (taken : step gnrc w action = some (w',es)) (s : site.Sensors) (uri : Sensor.Uri) :
    (loses action = false → (w.uplink (.inl s)).count uri + es.count (.sensor s (.sent uri)) ≤
      es.count (.heard (.inl s) uri) + (w'.uplink (.inl s)).count uri) ∧
    (copies action = false → es.count (.heard (.inl s) uri) + (w'.uplink (.inl s)).count uri ≤
      (w.uplink (.inl s)).count uri + es.count (.sensor s (.sent uri))) := by
  cases step_taken taken with
  | @gateway act _ _ own run =>
    obtain ⟨same, heard, unsent⟩ := heard_serve run (plain_own _) s uri
    have unnoted : (ownNotes act : List (Event site)).count (.heard (.inl s) uri) = 0 := by
      apply List.count_eq_zero.mpr
      cases act with
      | run handler => cases handler <;> simp [ownNotes]
      | _ => simp [ownNotes]
    rw [same, heard, unsent, unnoted]
    omega
  | @hear n place copy uri' rest _ _ _ _ picked run =>
    obtain ⟨same, heard, unsent⟩ := heard_serve run (by simp [note]) s uri
    obtain ⟨most, exact_⟩ := pick_count picked uri
    simp only [beq_iff_eq] at most exact_
    rw [same, heard, unsent]
    by_cases here : n = .inl s
    · subst here
      have noted : [(.heard (.inl s) uri' : Event site)].count (.heard (.inl s) uri) = if uri' = uri then 1 else 0 := by
        simp [List.count_singleton]
      simp only [Function.update_self, noted]
      constructor
      · intro _
        omega
      · intro single
        have one := exact_ single
        omega
    · have unnoted : (.heard (.inl s) uri : Event site) ∉ [.heard n uri'] := by simp [Ne.symm here]
      simp [Function.update_of_ne (Ne.symm here), List.count_eq_zero.mpr unnoted]
  | deliver picked heard run =>
    obtain ⟨unheard, flow⟩ := heard_arrive run s uri
    have same : (w'.uplink (.inl s)).count uri = (w.uplink (.inl s)).count uri + es.count (.sensor s (.sent uri)) := flow
    omega
  | @loseRequest n place =>
    refine ⟨by simp [loses], fun _ => ?_⟩
    by_cases here : n = .inl s
    · subst here
      have fewer := (List.eraseIdx_sublist (w.uplink (.inl s)) place).count_le uri
      simpa using fewer
    · simp [Function.update_of_ne (Ne.symm here)]
  | loseMessage =>
    simp [loses]
  | sensor own run =>
    obtain ⟨unheard, flow⟩ := heard_sensor run s uri
    omega
  | actuator own run =>
    obtain ⟨unheard, unsent, same⟩ := heard_actuator run s uri
    rw [same]
    omega

/-! ## From a cause to the alarm -/

theorem roused_once {s t : Gateway.Server} {events : List Gateway.Event} (plain : ∀ e ∈ notes, note e = true) (c : Cause site) :
    (served s t events notes cause).count (.roused c) ≤ 1 := by
  have unnoted : (.roused c : Event site) ∉ notes := fun noted => by simpa [note] using plain _ noted
  have own : (.roused c : Event site) ∉ events.map .gateway := by simp
  have one : (if Gateway.roused s.globals t.globals events then (cause.map Event.roused).toList else []).count
      (.roused c : Event site) ≤ 1 := by
    apply List.count_le_length.trans
    split
    next => cases cause <;> simp
    next => simp
  simpa only [served, List.count_append, List.count_eq_zero.mpr unnoted, List.count_eq_zero.mpr own, Nat.zero_add, Nat.add_zero]
    using one

/-! What the nodes do does not concern the gateway. -/

theorem aside_sensor (run : sensorStep w s move = some (w',es)) : w'.server = w.server ∧ ∀ e ∈ es, Desk.aside e = true := by
  obtain ⟨⟨node, events⟩, -, same⟩ := Option.map_eq_some_iff.mp run
  cases same
  simp [Desk.aside]

theorem aside_actuator (run : actuatorStep w a move = some (w',es)) : w'.server = w.server ∧ ∀ e ∈ es, Desk.aside e = true := by
  obtain ⟨⟨node, events⟩, -, same⟩ := Option.map_eq_some_iff.mp run
  cases same
  simp [Desk.aside]

theorem aside_arrive {read : CString} (run : arrive w uri read n = some (w',es)) :
    w'.server = w.server ∧ ∀ e ∈ es, Desk.aside e = true := by
  cases n with
  | inl s =>
    cases uri with
    | register => exact aside_sensor run
    | beeper =>
      cases run
      simp
  | inr a => exact aside_actuator run

/-- A step is one of the gateway, with what it notes and may name as the cause, or it leaves
the gateway alone. -/
theorem server_step (taken : step gnrc w action = some (w',es)) :
    (∃ act events notes cause, Gateway.step gnrc w.server act = some (w'.server,events) ∧
      es = served w.server w'.server events notes cause ∧ (∀ e ∈ notes, note e = true) ∧
      (act = .run .wdt → cause = some .silence) ∧ (act = .run .alarm → action = .gateway (.run .alarm)) ∧
      (act = .run .testButton → cause = some .test) ∧
      ∀ s, cause = some (.tap s) → Gateway.Rouses w.server.globals act → .heard (.inl s) .fire ∈ notes ∧
        w.server.globals.holds .sensor (site.sensorId s).name = true) ∨
    w'.server = w.server ∧ ∀ e ∈ es, Desk.aside e = true := by
  cases step_taken taken with
  | @gateway act _ _ own run =>
    obtain ⟨⟨server, events⟩, ran, same⟩ := Option.map_eq_some_iff.mp run
    cases same
    refine .inl ⟨act, events, _, _, ran, rfl, plain_own act, by rintro rfl; rfl, by rintro rfl; rfl, by rintro rfl; rfl, ?_⟩
    intro s is
    cases act with
    | run handler => cases handler <;> cases is
    | _ => cases is
  | @hear n place copy uri rest leftover behind _ _ picked run =>
    obtain ⟨⟨server, events⟩, ran, same⟩ := Option.map_eq_some_iff.mp run
    cases same
    refine .inl ⟨_, events, _, _, ran, rfl, by simp [note], ?_, ?_, ?_, ?_⟩
    · cases n <;> cases uri <;> simp [request]
    · cases n <;> cases uri <;> simp [request]
    · cases n <;> cases uri <;> simp [request]
    · intro s is rouses
      cases n with
      | inr a => cases is
      | inl s' =>
        cases is
        cases uri with
        | fire =>
          obtain ⟨ipAddr, decoded⟩ := decode_status (site.sensor s) (site.sensorEnds s) leftover behind
          simp only [request, decoded] at rouses
          cases rouses with
          | tap id known => exact ⟨by simp, known⟩
        | register | status =>
          simp only [request] at rouses
          cases rouses
  | deliver picked heard run =>
    obtain ⟨same, others⟩ := aside_arrive run
    exact .inr ⟨same, others⟩
  | loseRequest | loseMessage => exact .inr ⟨rfl, by simp⟩
  | sensor own run => exact .inr (aside_sensor run)
  | actuator own run => exact .inr (aside_actuator run)

/-- The alarm is engaged and has a cause that only a disengagement takes back, or, if the
cause is a silence, a turn of the alarm thread. -/
def Latched (c : Cause site) (g : Gateway.Globals) : Prop :=
  g.isEngaged = true ∧ (g.isSensorFired = true ∨ c = .silence ∧ g.isTimeout = true)

theorem Latched.cause {g : Gateway.Globals} (held : Latched c g) : g.isTimeout = true ∨ g.isSensorFired = true :=
  held.2.symm.imp_left And.right

/-- The step that gives the alarm a cause latches it, and a tap is one that was heard. -/
theorem roused_step (taken : step gnrc w action = some (w',es)) (shown : .roused c ∈ es) :
    Latched c w'.server.globals ∧ es.count (.roused c) ≤ 1 ∧ ∀ s, c = .tap s → .heard (.inl s) .fire ∈ es := by
  rcases server_step taken with ⟨act, events, notes, cause, ran, rfl, plain, silence, -, -, tap⟩ | ⟨-, others⟩
  · rcases served_cases shown with noted | ⟨c', same, given, rose⟩ | ⟨event, -, same⟩
    · simpa [note] using plain _ noted
    · cases same
      obtain ⟨rouses, engaged, calm⟩ := (Gateway.step_alarm ran).rouses rose
      refine ⟨?_, roused_once plain c, ?_⟩
      · cases rouses with
        | tap id known =>
          have trips : Gateway.Trips w.server (.run (.tap (some id))) := ⟨known, engaged⟩
          exact (trips.fires ran).imp_right .inl
        | test =>
          have trips : Gateway.Trips w.server (.run .testButton) := engaged
          exact (trips.fires ran).imp_right .inl
        | silence name value found late =>
          have timeout := Gateway.walk_timeout ran engaged found late
          have kept := (Gateway.step_flags ran calm).1 engaged
          exact ⟨kept, .inr ⟨Option.some.inj (given.symm.trans (silence rfl)), timeout⟩⟩
      · rintro s rfl
        exact List.mem_append_left _ (tap s given rouses).1
    · cases same
  · simpa [Desk.aside] using others _ shown

theorem Latched.step (held : Latched c w.server.globals) (taken : step gnrc w action = some (w',es))
    (turn : c = .silence → action ≠ .gateway (.run .alarm)) : Latched c w'.server.globals ∨ .gateway .deactivated ∈ es := by
  rcases server_step taken with ⟨act, events, notes, cause, ran, rfl, plain, -, alarm, -⟩ | ⟨same, -⟩
  · by_cases calm : .deactivated ∈ events
    · exact .inr ((gateway_shown plain _).mpr calm)
    · obtain ⟨engaged, fired, timeout⟩ := Gateway.step_flags ran calm
      refine .inl ⟨engaged held.1, held.2.imp fired ?_⟩
      rintro ⟨quiet, up⟩
      exact ⟨quiet, timeout (fun thread => turn quiet (alarm thread)) up⟩
  · exact .inl (same ▸ held)

theorem tap_step (taken : step gnrc w action = some (w',es)) (s : site.Sensors) :
    es.count (.roused (.tap s)) ≤ es.count (.heard (.inl s) .fire) := by
  by_cases shown : (.roused (.tap s) : Event site) ∈ es
  · obtain ⟨-, once, tap⟩ := roused_step taken shown
    exact once.trans (List.count_pos_iff.mpr (tap s rfl))
  · simp [List.count_eq_zero.mpr shown]

/-- A turn of the alarm thread with a cause owes every listed actuator a beep. -/
theorem alarm_rings (latched : Latched c w.server.globals) (alive : w.server.shell ≠ .crashed) :
    ∃ w' rung, step gnrc w (.gateway (.run .alarm)) = some (w',rung) ∧
      ∀ a, ∀ node ∈ w.server.globals.actuators.toList, node.2.addr = site.address (.inr a) → 0 < owed w' a := by
  obtain ⟨t, turn⟩ : ∃ t, Gateway.step gnrc w.server (.run .alarm) = some (t,Gateway.rings w.server.globals) :=
    Gateway.alarm_step latched.cause latched.1 alive
  have taken : ∃ w' rung, step gnrc w (.gateway (.run .alarm)) = some (w',rung) ∧
      rung = served w.server t (Gateway.rings w.server.globals) [] none := by
    simp [step, asks, serve, turn, ownNotes, ownCause]
  obtain ⟨w', rung, taken, is⟩ := taken
  refine ⟨w', rung, taken, fun a node listed here => ?_⟩
  have flow := (owed_step taken a).1 rfl
  have silent : rung.count (.actuator a .beeped) = 0 := by
    rw [is]
    exact List.count_eq_zero.mpr (Explained.served_mute (by simp) a)
  have one : 0 < rung.countP (onTo a) := by
    apply List.countP_pos_iff.mpr
    refine ⟨.gateway (.sent .on .beeper node.2), ?_, by simp [onTo, addressed, here]⟩
    rw [is]
    exact (gateway_shown (by simp) _).mpr (List.mem_map.mpr ⟨node, listed, rfl⟩)
  omega

/-! ## Counts over a run -/

/-- Without loss: what is owed is beeped, or owed still. -/
theorem owed_path (path : Path (step gnrc) (fun _ action => loses action = false) w trace w') (a : site.Actuators) :
    owed w a + trace.countP (onTo a) ≤ trace.count (.actuator a .beeped) + owed w' a :=
  path.at_least (onTo a) (· == .actuator a .beeped) (owed · a) fun ok taken => (owed_step taken a).1 ok

/-! A sensor's events over a step. -/

theorem sensorStep_own (run : sensorStep w s' move = some (w',es)) (s : site.Sensors) :
    (∃ move events, Sensor.step (w.sensor s) move = some (w'.sensor s,events) ∧
      ∀ event, es.count (.sensor s event) = events.count event) ∨
    w'.sensor s = w.sensor s ∧ ∀ event, .sensor s event ∉ es := by
  obtain ⟨⟨node, events⟩, taken, same⟩ := Option.map_eq_some_iff.mp run
  cases same
  by_cases here : s' = s
  · subst here
    refine .inl ⟨move, events, by simpa using taken, fun event => ?_⟩
    exact List.count_map_of_injective events _ (fun _ _ same => (Event.sensor.inj same).2) event
  · exact .inr ⟨by simp [Ne.symm here], by simp [here]⟩

/-- A step is one of the sensor's own, or it leaves the sensor alone. -/
theorem sensor_own (taken : step gnrc w action = some (w',es)) (s : site.Sensors) :
    (∃ move events, Sensor.step (w.sensor s) move = some (w'.sensor s,events) ∧
      ∀ event, es.count (.sensor s event) = events.count event) ∨
    w'.sensor s = w.sensor s ∧ ∀ event, .sensor s event ∉ es := by
  have served_other : ∀ {t t' : Gateway.Server} {events notes cause}, (∀ e ∈ notes, note e = true) →
      ∀ event, (.sensor s event : Event site) ∉ served t t' events notes cause := by
    intro t t' events notes cause plain event shown
    rcases served_cases shown with noted | ⟨c, same, -⟩ | ⟨_, -, same⟩
    · simpa [note] using plain _ noted
    · cases same
    · cases same
  cases step_taken taken with
  | @gateway act _ _ own run =>
    obtain ⟨⟨server, events⟩, -, same⟩ := Option.map_eq_some_iff.mp run
    cases same
    exact .inr ⟨rfl, served_other (plain_own act)⟩
  | hear picked run =>
    obtain ⟨⟨server, events⟩, -, same⟩ := Option.map_eq_some_iff.mp run
    cases same
    exact .inr ⟨rfl, served_other (by simp [note])⟩
  | @deliver n place copy message uri rest _ _ read picked heard run =>
    cases n with
    | inl s' =>
      cases uri with
      | register => exact sensorStep_own run s
      | beeper =>
        cases run
        exact .inr ⟨rfl, by simp⟩
    | inr a =>
      obtain ⟨⟨node, events⟩, -, same⟩ := Option.map_eq_some_iff.mp run
      cases same
      exact .inr ⟨rfl, by simp⟩
  | loseRequest | loseMessage => exact .inr ⟨rfl, by simp⟩
  | sensor own run => exact sensorStep_own run s
  | actuator own run =>
    obtain ⟨⟨node, events⟩, -, same⟩ := Option.map_eq_some_iff.mp run
    cases same
    exact .inr ⟨rfl, by simp⟩

theorem charge_step (fresh : ∀ s, (w.sensor s).Fresh) (taken : step gnrc w action = some (w',es)) (s : site.Sensors) :
    (w'.sensor s).Fresh ∧
      es.count (.sensor s (.sent .fire)) + (w'.sensor s).charge ≤ (w.sensor s).charge + es.count (.sensor s .fired) := by
  rcases sensor_own taken s with ⟨move, events, ran, shown⟩ | ⟨same, unshown⟩
  · rw [shown, shown]
    exact Sensor.charge_step (fresh s) ran
  · rw [same, List.count_eq_zero.mpr (unshown _), List.count_eq_zero.mpr (unshown _)]
    exact ⟨fresh s, by omega⟩

/-- Over a run a sensor gives the alarm no more causes than FIREs are heard of it. -/
theorem tap_path {allowed : State site → Action site → Prop} (path : Path (step gnrc) allowed w trace w') (s : site.Sensors) :
    trace.count (.roused (.tap s)) ≤ trace.count (.heard (.inl s) .fire) := by
  have taps := path.at_most (fun _ => True) (· == (.heard (.inl s) .fire : Event site)) (· == (.roused (.tap s) : Event site))
    (fun _ => 0) (fun _ _ taken => ⟨trivial, (tap_step taken s).trans (Nat.zero_add _).ge⟩) trivial
  exact taps.2.trans (Nat.zero_add _).le

/-- Where nothing is doubled, what is heard of a sensor and what is left under way was under
way or has been sent. -/
theorem heard_path (path : Path (step gnrc) (fun _ action => copies action = false) w trace w') (s : site.Sensors)
    (uri : Sensor.Uri) : trace.count (.heard (.inl s) uri) + (w'.uplink (.inl s)).count uri ≤
      (w.uplink (.inl s)).count uri + trace.count (.sensor s (.sent uri)) :=
  (path.at_most (fun _ => True) (· == (.sensor s (.sent uri) : Event site)) (· == .heard (.inl s) uri)
    (fun w => (w.uplink (.inl s)).count uri) (fun _ single taken => ⟨trivial, (heard_step taken s uri).2 single⟩) trivial).2

/-- The events of a run keep step with each other: where nothing is doubled, a sensor's taps
number at most the FIREs that were heard of it, these with the ones under way at most the FIREs
that it sent, and these at most its events; and an actuator's beeps with the ones it owes number
at most the ONs sent to it. Where nothing is lost, no FIRE and no ON stays without effect. -/
theorem events_are_counted (gnrc : Gnrc) (site : Site) (trace : List (Event site)) (w : State site) :
    (Path (step gnrc) (fun _ action => copies action = false) (boot site) trace w →
      (∀ s, trace.count (.roused (.tap s)) ≤ trace.count (.heard (.inl s) .fire) ∧
        trace.count (.heard (.inl s) .fire) + (w.uplink (.inl s)).count .fire ≤ trace.count (.sensor s (.sent .fire)) ∧
        trace.count (.sensor s (.sent .fire)) ≤ trace.count (.sensor s .fired)) ∧
      ∀ a, trace.count (.actuator a .beeped) + owed w a ≤ trace.countP (onTo a)) ∧
    (Path (step gnrc) (fun _ action => loses action = false) (boot site) trace w →
      (∀ s, trace.count (.sensor s (.sent .fire)) ≤
        trace.count (.heard (.inl s) .fire) + (w.uplink (.inl s)).count .fire) ∧
      ∀ a, trace.countP (onTo a) ≤ trace.count (.actuator a .beeped) + owed w a) := by
  constructor
  · intro path
    refine ⟨fun s => ⟨?_, ?_, ?_⟩, fun a => ?_⟩
    · exact tap_path path s
    · exact (heard_path path s .fire).trans (Nat.zero_add _).le
    · have events := path.at_most (fun w => ∀ s, (w.sensor s).Fresh) (· == (.sensor s .fired : Event site)) (· == .sensor s (.sent .fire))
        (fun w => (w.sensor s).charge)
        (fun fresh _ taken => ⟨fun s => (charge_step fresh taken s).1, (charge_step fresh taken s).2⟩)
        (fun s => by simp [boot, Sensor.Node.Fresh, Sensor.boot])
      exact (Nat.le_add_right _ _).trans (events.2.trans (Nat.zero_add _).le)
    · have beeps := path.at_most (fun _ => True) (onTo a) (· == (.actuator a .beeped : Event site)) (owed · a)
        (fun _ single taken => ⟨trivial, (owed_step taken a).2 single⟩) trivial
      exact beeps.2.trans (Nat.zero_add _).le
  · intro path
    refine ⟨fun s => ?_, fun a => ?_⟩
    · have requests := path.at_least (· == (.sensor s (.sent .fire) : Event site)) (· == .heard (.inl s) .fire)
        (fun w => (w.uplink (.inl s)).count .fire) fun ok taken => (heard_step taken s .fire).1 ok
      exact (Nat.zero_add _).ge.trans requests
    · exact (Nat.zero_add _).ge.trans (owed_path path a)

theorem events_are_counted_run :
    ∃ trace w, Path (step board) faithful (boot house) trace w ∧ trace.count (.actuator () .beeped) = 1 ∧
      1 ≤ trace.countP (onTo ()) ∧ trace.count (.roused (.tap ())) = 1 ∧ 1 ≤ trace.count (.sensor () .fired) := by
  have run : ∃ (w : State house) (trace : List (Event house)), Path (step board) faithful (boot house) trace w ∧
      trace.count (.actuator () .beeped) = 1 ∧ trace.count (.roused (.tap ())) = 1 :=
    replay_reaches (furnished ++ touched) (fun (_ : State house) (trace : List (Event house)) =>
      trace.count (.actuator () .beeped) = 1 ∧ trace.count (.roused (.tap ())) = 1) (by decide +kernel)
  obtain ⟨w, trace, path, beep, tap⟩ := run
  obtain ⟨sensors, actuators⟩ := (events_are_counted board house trace w).1 (path.mono And.right)
  obtain ⟨taps, requests, events⟩ := sensors ()
  have beeps := actuators ()
  exact ⟨trace, w, path, beep, by omega, tap, by omega⟩

/-! ## The channel of an actuator can be emptied -/

theorem settles (w : State site) (a : site.Actuators) :
    ∃ us w', Path (step gnrc) faithful w us w' ∧ (w'.actuator a).gcoap = .idle ∧ w'.downlink = w.downlink := by
  induction rank : (w.actuator a).gcoap.rest using Nat.strong_induction_on generalizing w with
  | _ k ih =>
    by_cases idle : (w.actuator a).gcoap = .idle
    · exact ⟨[], w, .nil, idle, rfl⟩
    · obtain ⟨n', events, ran, less⟩ := Actuator.gcoap_goes_on idle
      obtain ⟨v, es, taken, after, same⟩ : ∃ v es, step gnrc w (.actuator a .gcoap) = some (v,es) ∧
          v.actuator a = n' ∧ v.downlink = w.downlink := by
        simp [step, isMessage, actuatorStep, ran]
      obtain ⟨us, w', path, rested, same'⟩ := ih n'.gcoap.rest (rank ▸ less) v (by rw [after])
      exact ⟨_, w', (Path.single ⟨rfl, rfl⟩ taken).trans path, rested, same'.trans same⟩

theorem drains (w : State site) (a : site.Actuators) : ∃ us w', Path (step gnrc) faithful w us w' ∧ owed w' a = 0 := by
  induction long : (w.downlink (.inr a)).length generalizing w with
  | zero =>
    obtain ⟨us, w', path, idle, same⟩ := settles w a
    exact ⟨us, w', path, by simp [owed, same, List.length_eq_zero_iff.mp long, Actuator.Node.due, idle]⟩
  | succ k ih =>
    obtain ⟨us, v, path, idle, same⟩ := settles w a
    rw [← same] at long
    cases channel : v.downlink (.inr a) with
    | nil => simp [channel] at long
    | cons head rest =>
      obtain ⟨message, uri⟩ := head
      have heard : reads message message.payload = true := by cases message <;> decide
      obtain ⟨u, taken, left⟩ : ∃ u, step gnrc v (.deliver (.inr a) 0 false message.payload) = some (u,[]) ∧
          u.downlink (.inr a) = rest := by
        simp [step, pick, channel, heard, arrive, actuatorStep, Actuator.step, idle]
      have fewer : (u.downlink (.inr a)).length = k := by simpa [left, channel] using long
      obtain ⟨vs, w', after, none⟩ := ih u fewer
      exact ⟨_, w', (path.snoc ⟨rfl, rfl⟩ taken).trans after, none⟩

/-- Once the alarm has been given a cause, and as long as nobody disengages it, a turn of the
alarm thread (the first one, if the cause is a silence) rings every listed actuator: where
nothing is lost afterwards, each has beeped when its channel is empty and its handler has come
past the beep, and what is under way to it can be brought to that. -/
theorem every_cause_is_answered (gnrc : Gnrc) (site : Site) (w w₁ w₂ : State site) (action : Action site) (c : Cause site)
    (es ts : List (Event site)) (taken : step gnrc w action = some (w₁,es)) (given : .roused c ∈ es)
    (path : Path (step gnrc) (fun _ action => c = .silence → action ≠ .gateway (.run .alarm)) w₁ ts w₂)
    (calm : .gateway .deactivated ∉ ts) (alive : w₂.server.shell ≠ .crashed) :
    ∃ w₃ rung, step gnrc w₂ (.gateway (.run .alarm)) = some (w₃,rung) ∧
      ∀ a, ∀ node ∈ w₂.server.globals.actuators.toList, node.2.addr = site.address (.inr a) →
        (∀ us w₄, Path (step gnrc) (fun _ action => loses action = false) w₃ us w₄ → owed w₄ a = 0 → .actuator a .beeped ∈ us) ∧
        ∃ us w₄, Path (step gnrc) faithful w₃ us w₄ ∧ owed w₄ a = 0 := by
  obtain ⟨latched, -⟩ := roused_step taken given
  have still := path.unless (fun w => Latched c w.server.globals) (.gateway .deactivated)
    (fun held turn taken => held.step taken turn) latched
  obtain ⟨w₃, rung, turn, owes⟩ := alarm_rings (still.resolve_right calm) alive
  refine ⟨w₃, rung, turn, fun a node listed here => ⟨fun us w₄ onward empty => ?_, drains w₃ a⟩⟩
  have one := owes a node listed here
  have flow := owed_path onward a
  apply List.count_pos_iff.mp
  omega

/-- No turn of the alarm thread. -/
def waits : Action site → Bool
  | .gateway (.run .alarm) => false
  | _ => true

/-- What may come between the cause and the alarm thread's turn: another touch, of which the
FIRE is lost, a walk of the watchdog, and an engage. -/
def meanwhile : List (Action house) :=
  touched.take 5 ++ [.loseRequest (.inl ()) 0] ++ gatewayActions [.run .wdt] ++ typed (.engage []) 2

/-- The cause was given and not taken back, and the actuator is still listed at the end. -/
def CameThrough (c : Cause house) (es : List (Event house)) (w : State house) (ts : List (Event house)) : Prop :=
  .roused c ∈ es ∧ .gateway .deactivated ∉ ts ∧ w.server.shell ≠ .crashed ∧ .gateway (.invoked (.engage [])) ∈ ts ∧
    ∃ node ∈ w.server.globals.actuators.toList, node.2.addr = house.address (.inr ())

instance (c : Cause house) (es : List (Event house)) (w : State house) (ts : List (Event house)) : Decidable (CameThrough c es w ts) :=
  inferInstanceAs (Decidable (_ ∧ _ ∧ _ ∧ _ ∧ _))

/-- After the step `meanwhile` runs through. -/
def comesThrough (w : State house) (action : Action house) (c : Cause house) : Bool :=
  (step board w action).any fun (w₁,es) =>
    (replay (step board) (fun _ action => waits action = true) w₁ meanwhile).any fun (w₂,ts) => decide (CameThrough c es w₂ ts)

/-- The alarm thread's turn comes next, and then, without loss, the actuator's beep. -/
def AnsweredNext (w : State house) : Prop :=
  ∃ w' rung us v, step board w (.gateway (.run .alarm)) = some (w',rung) ∧ Path (step board) faithful w' us v ∧
    .actuator () .beeped ∈ us

/-- A touch of the sensor that is heard, and the fourth walk of the watchdog without a report. -/
theorem every_cause_is_answered_run :
    (∃ (w w₁ w₂ : State house) (es ts : List (Event house)), step board w (heard (.inl ())) = some (w₁,es) ∧
      .roused (.tap ()) ∈ es ∧ Path (step board) anything w₁ ts w₂ ∧ .gateway (.invoked (.engage [])) ∈ ts ∧ AnsweredNext w₂) ∧
    (∃ (w w₁ w₂ : State house) (es ts : List (Event house)), step board w (.gateway (.run .wdt)) = some (w₁,es) ∧
      .roused .silence ∈ es ∧ Path (step board) anything w₁ ts w₂ ∧ .gateway (.invoked (.engage [])) ∈ ts ∧ AnsweredNext w₂) := by
  constructor
  · obtain ⟨w, _, -, through⟩ : ∃ (w : State house) (trace : List (Event house)), Path (step board) anything (boot house) trace w ∧
        comesThrough w (heard (.inl ())) (.tap ()) = true :=
      replay_reaches (furnished ++ touched.take 5) (fun (w : State house) (_ : List (Event house)) =>
        comesThrough w (heard (.inl ())) (.tap ()) = true) (by decide +kernel)
    obtain ⟨w₁, es, w₂, ts, taken, path, given, calm, alive, engaged, node, listed, here⟩ :=
      step_replay_reaches meanwhile (CameThrough _) through
    obtain ⟨w₃, rung, turn, answered⟩ :=
      every_cause_is_answered board house w w₁ w₂ _ _ es ts taken given (path.mono fun _ silence => by cases silence) calm alive
    obtain ⟨beeps, us, w₄, onward, empty⟩ := answered () node listed here
    exact ⟨w, w₁, w₂, es, ts, taken, given, path.mono fun _ => trivial, engaged, w₃, rung, us, w₄, turn, onward,
      beeps us w₄ (onward.mono And.left) empty⟩
  · obtain ⟨w, _, -, through⟩ : ∃ (w : State house) (trace : List (Event house)), Path (step board) anything (boot house) trace w ∧
        comesThrough w (.gateway (.run .wdt)) .silence = true :=
      replay_reaches (furnished ++ gatewayActions (List.replicate 3 (.run .wdt))) (fun (w : State house) (_ : List (Event house)) =>
        comesThrough w (.gateway (.run .wdt)) .silence = true) (by decide +kernel)
    obtain ⟨w₁, es, w₂, ts, taken, path, given, calm, alive, engaged, node, listed, here⟩ :=
      step_replay_reaches meanwhile (CameThrough _) through
    obtain ⟨w₃, rung, turn, answered⟩ :=
      every_cause_is_answered board house w w₁ w₂ _ _ es ts taken given
        (path.mono fun other _ => by rintro rfl; cases other) calm alive
    obtain ⟨beeps, us, w₄, onward, empty⟩ := answered () node listed here
    exact ⟨w, w₁, w₂, es, ts, taken, given, path.mono fun _ => trivial, engaged, w₃, rung, us, w₄, turn, onward,
      beeps us w₄ (onward.mono And.left) empty⟩

end RiotAlarm.Installation
