import RiotAlarm.GatewayShell

/-! The latched alarm: between a cause and the next disengagement every turn of the
alarm thread rings every listed actuator. -/
namespace RiotAlarm.Gateway

open Transition

variable {gnrc : Gnrc} {s t u : Server}

/-- One ON for each listed actuator, in list order. -/
def rings (g : Globals) : List Event := g.actuators.toList.map fun node => .sent .on .beeper node.2

/-! The calls of `coap_put` and what goes out for them. -/

/-- A message with its resource and its receiver. -/
abbrev Put := Message × Uri × SockUdpEp

/-- `coap_put` behind `gcoap_req_send`: 0 bytes sent is a failure that it reports and nobody
looks at. -/
def coapPut (bytesSent : Nat) (put : Put) : Nat × List Put := if bytesSent = 0 then (1,[]) else (0,[put])

/-- What goes out for the events of a step when `gcoap_req_send` answers so to its n-th
request and those after it. -/
def transmit (gcoapReqSend : Nat → Put → Nat) : Nat → List Event → List Put
  | n, .sent message uri remote :: rest =>
    (coapPut (gcoapReqSend n (message,uri,remote)) (message,uri,remote)).2 ++ transmit gcoapReqSend (n + 1) rest
  | n, _ :: rest => transmit gcoapReqSend n rest
  | _, [] => []

/-- `gcoap_req_send` returns the length of the request that it sent, and 0 only if it cannot
send it, for want of a free slot or because the socket refuses. -/
def Accepts (gcoapReqSend : Nat → Put → Nat) : Prop := ∀ n put, gcoapReqSend n put ≠ 0

theorem transmit_rings (accepts : Accepts gcoapReqSend) (n : Nat) (nodes : List (CString × SockUdpEp)) :
    transmit gcoapReqSend n (nodes.map fun node => .sent .on .beeper node.2) =
      nodes.map fun node => (.on,.beeper,node.2) := by
  induction nodes generalizing n with
  | nil => rfl
  | cons node rest ih => simp [transmit, coapPut, accepts n, ih]

/-- The next turn of the alarm thread calls `coap_put` once for each listed actuator, in list
order, and each of the messages goes out. -/
def RingsNext (gnrc : Gnrc) (gcoapReqSend : Nat → Put → Nat) (s : Server) : Prop :=
  ∃ t, step gnrc s (.run .alarm) = some (t,rings s.globals) ∧
    ∀ n, transmit gcoapReqSend n (rings s.globals) = s.globals.actuators.toList.map fun node => (.on,.beeper,node.2)

/-- A tap of a stored sensor or a press of the test button, while the alarm is engaged. -/
def Trips (s : Server) : Action → Prop
  | .run (.tap (some id)) => s.globals.holds .sensor id.name = true ∧ s.globals.isEngaged = true
  | .run .testButton => s.globals.isEngaged = true
  | _ => False

theorem sensorTap_stored (g : Globals) (id : NodeIdentity) (known : g.holds .sensor id.name = true) (engaged : g.isEngaged = true) :
    (sensorTapHandler g (some id)).1.isEngaged = true ∧ (sensorTapHandler g (some id)).1.isSensorFired = true := by
  simp [sensorTapHandler, (lookup_eq_zero g id.name).mpr known, engaged, activateAlarm]

theorem Trips.fires (trips : Trips s a) (taken : step gnrc s a = some (t,events)) :
    t.globals.isEngaged = true ∧ t.globals.isSensorFired = true := by
  rcases step_cases taken with ⟨command, rfl, -⟩ | ⟨rfl, -⟩ | ⟨handler, rfl, -, -, run⟩
  · exact trips.elim
  · exact trips.elim
  have after : (handle gnrc s.globals handler).1 = t.globals := congrArg Prod.fst run
  rw [← after]
  cases handler with
  | tap payload =>
    cases payload with
    | none => exact trips.elim
    | some id => exact sensorTap_stored s.globals id trips.1 trips.2
  | testButton =>
    have engaged : s.globals.isEngaged = true := trips
    simp [handle, testIntrp, activateAlarm, engaged]
  | _ => exact trips.elim

/-- Without a disengagement, a step keeps the alarm engaged and its cause latched; only
the alarm thread itself takes a timeout back. -/
theorem step_flags (taken : step gnrc s a = some (t,events)) (calm : .deactivated ∉ events) :
    (s.globals.isEngaged = true → t.globals.isEngaged = true) ∧
      (s.globals.isSensorFired = true → t.globals.isSensorFired = true) ∧
      (a ≠ .run .alarm → s.globals.isTimeout = true → t.globals.isTimeout = true) := by
  rcases step_cases taken with ⟨command, -, -, rfl, -⟩ | ⟨-, run⟩ | ⟨handler, rfl, -, -, run⟩
  · exact ⟨id, id, fun _ => id⟩
  · rcases shellStep_flags run with ⟨-, off⟩ | ⟨-, on, -⟩ | ⟨same, -⟩
    · have shown : events = (deactivateAlarm s.globals).2 := congrArg Prod.snd off
      simp [shown, deactivateAlarm] at calm
    · rw [on]
      exact ⟨fun _ => rfl, id, fun _ => id⟩
    · exact ⟨same.isEngaged.trans, same.isSensorFired.trans, fun _ => same.isTimeout.trans⟩
  have after : (handle gnrc s.globals handler).1 = t.globals := congrArg Prod.fst run
  have shown : (handle gnrc s.globals handler).2 = events := congrArg Prod.snd run
  rw [← shown] at calm
  rw [← after]
  cases handler with
  | register kind payload =>
    simp only [handle]
    rcases register_cases gnrc kind s.globals payload with
      ⟨id, g', -, -, -, -, ran, registered⟩ | ⟨-, ran⟩ | ran <;> rw [ran]
    · simp [registered.isEngaged, registered.isSensorFired, registered.isTimeout]
    · simp
    · simp
  | status payload =>
    rcases status_cases s.globals payload with ⟨id, -, -, ran⟩ | ⟨-, ran⟩ <;> simp [handle, ran]
  | tap payload =>
    cases payload with
    | none => simp [handle, sensorTapHandler]
    | some id =>
      simp only [handle, sensorTapHandler, activateAlarm]
      split <;> try split
      all_goals simp
  | disEngageButton => simp [handle, disEngageIntrp, deactivateAlarm] at calm
  | testButton =>
    simp only [handle, testIntrp, activateAlarm]
    split <;> simp
  | wdt =>
    refine ⟨id, id, fun _ up => ?_⟩
    exact (s.globals.htSensor.wdt_spec s.globals.isEngaged s.globals.isTimeout).1.mpr (.inl up)
  | alarm =>
    simp only [handle, alarmThread]
    split <;> simp

/-- A calm path keeps the alarm engaged and the fired flag up. -/
theorem latched (path : Path (step gnrc) anything s trace t) (calm : .deactivated ∉ trace)
    (engaged : s.globals.isEngaged = true) (fired : s.globals.isSensorFired = true) :
    t.globals.isEngaged = true ∧ t.globals.isSensorFired = true := by
  induction path with
  | nil => exact ⟨engaged, fired⟩
  | snoc _ _ taken ih =>
    have before := ih (fun member => calm (by simp [member]))
    have step := step_flags taken (fun member => calm (by simp [member]))
    exact ⟨step.1 before.1, step.2.1 before.2⟩

/-- No turn of the alarm thread. -/
def notAlarm (_ : Server) : Action → Prop
  | .run .alarm => False
  | _ => True

instance (s : Server) (a : Action) : Decidable (notAlarm s a) := by
  unfold notAlarm
  split <;> infer_instance

/-- A calm path without a turn of the alarm thread keeps a timeout. -/
theorem timeout_waits (path : Path (step gnrc) notAlarm s trace t)
    (calm : .deactivated ∉ trace) (engaged : s.globals.isEngaged = true) (timeout : s.globals.isTimeout = true) :
    t.globals.isEngaged = true ∧ t.globals.isTimeout = true := by
  induction path with
  | nil => exact ⟨engaged, timeout⟩
  | snoc _ other taken ih =>
    have before := ih (fun member => calm (by simp [member]))
    have step := step_flags taken (fun member => calm (by simp [member]))
    exact ⟨step.1 before.1, step.2.2 (by rintro rfl; exact other) before.2⟩

/-- With a cause and the alarm engaged, a turn of the alarm thread rings. -/
theorem alarm_step (cause : s.globals.isTimeout = true ∨ s.globals.isSensorFired = true)
    (engaged : s.globals.isEngaged = true) (alive : s.shell ≠ .crashed) :
    ∃ t, step gnrc s (.run .alarm) = some (t,rings s.globals) := by
  have turn := alarmThread_sends s.globals cause engaged
  exact ⟨⟨(alarmThread s.globals).1,s.shell⟩, by simp [step, alive, handle, turn, rings]⟩

/-- Once tripped, the alarm rings at every turn of its thread until it is disengaged;
a timeout rings at the next turn. -/
theorem alarm_is_latched (gnrc : Gnrc) (accepts : Accepts gcoapReqSend) :
    (∀ s a s' events trace t, Trips s a → step gnrc s a = some (s',events) →
      Path (step gnrc) anything s' trace t → .deactivated ∉ trace → t.shell ≠ .crashed → RingsNext gnrc gcoapReqSend t) ∧
    (∀ s s' events trace t, s.globals.isEngaged = true → step gnrc s (.run .wdt) = some (s',events) →
      s'.globals.isTimeout = true → Path (step gnrc) notAlarm s' trace t →
      .deactivated ∉ trace → t.shell ≠ .crashed → RingsNext gnrc gcoapReqSend t) := by
  constructor
  · intro s a s' events trace t trips taken path calm alive
    obtain ⟨engaged, fired⟩ := trips.fires taken
    obtain ⟨engaged', fired'⟩ := latched path calm engaged fired
    obtain ⟨u, rung⟩ := alarm_step (.inr fired') engaged' alive
    exact ⟨u, rung, fun n => transmit_rings accepts n _⟩
  · intro s s' events trace t engaged taken timeout path calm alive
    have still : s'.globals.isEngaged = true := by
      rcases step_cases taken with ⟨command, same, -⟩ | ⟨same, -⟩ | ⟨handler, same, -, -, run⟩
      · contradiction
      · contradiction
      · cases same
        exact (congrArg (fun r => r.1.isEngaged) run).symm.trans engaged
    obtain ⟨engaged', timeout'⟩ := timeout_waits path calm still timeout
    obtain ⟨u, rung⟩ := alarm_step (.inl timeout') engaged' alive
    exact ⟨u, rung, fun n => transmit_rings accepts n _⟩

/-- A sensor and an actuator are registered and the alarm is engaged. -/
def armed : List Action :=
  (List.map (fun (kind,id) => [.type (.auth kind [id.name]),.shell,.shell,.shell,.run (.register kind (some id))] ++
    List.replicate 6 .shell) [(Kind.sensor,tapsense),(.actuator,act2)]).flatten ++
    [.type (.engage []),.shell,.shell]

/-- What may come between the cause and the alarm thread's turn. -/
def meanwhile : List Action := [.run (.status (some tapsense)),.run .wdt,.type (.engage []),.shell,.shell]

/-- Without a disengagement, and with an actuator still listed at the end. -/
def CameThrough (_ : List Event) (t : Server) (trace : List Event) : Prop :=
  .deactivated ∉ trace ∧ t.shell ≠ .crashed ∧ t.globals.actuators.toList ≠ [] ∧ .invoked (.engage []) ∈ trace

instance (events : List Event) (t : Server) (trace : List Event) : Decidable (CameThrough events t trace) :=
  inferInstanceAs (Decidable (_ ∧ _ ∧ _ ∧ _))

/-- After the step `meanwhile` runs through. -/
def comesThrough (s : Server) (a : Action) : Bool :=
  (step board s a).any fun (s',events) =>
    (replay (step board) notAlarm s' meanwhile).any fun (t,trace) => decide (CameThrough events t trace)

/-- Every request is sent, and a put of ON is 26 bytes long. -/
def takesAll (_ : Nat) (_ : Put) : Nat := 26

theorem alarm_is_latched_run :
    (∃ s s' events trace t, Trips s (.run (.tap (some tapsense))) ∧
      step board s (.run (.tap (some tapsense))) = some (s',events) ∧ Path (step board) anything s' trace t ∧
      .invoked (.engage []) ∈ trace ∧ t.globals.actuators.toList ≠ [] ∧ RingsNext board takesAll t) ∧
    (∃ s s' events trace t, s.globals.isTimeout = false ∧ s.globals.isSensorFired = false ∧
      step board s (.run .wdt) = some (s',events) ∧ s'.globals.isTimeout = true ∧
      Path (step board) notAlarm s' trace t ∧
      .invoked (.engage []) ∈ trace ∧ t.globals.actuators.toList ≠ [] ∧ RingsNext board takesAll t) := by
  have accepts : Accepts takesAll := by simp [Accepts, takesAll]
  constructor
  · obtain ⟨s, before, -, trips, through⟩ : ∃ s before, Path (step board) anything start before s ∧
        (s.globals.holds .sensor tapsense.name = true ∧ s.globals.isEngaged = true) ∧
        comesThrough s (.run (.tap (some tapsense))) = true :=
      replay_reaches armed (fun (s : Server) _ => (s.globals.holds .sensor tapsense.name = true ∧
        s.globals.isEngaged = true) ∧ comesThrough s (.run (.tap (some tapsense))) = true) (by decide +kernel)
    obtain ⟨s', events, t, trace, taken, path, calm, alive, listed, again⟩ :=
      step_replay_reaches meanwhile CameThrough through
    have path : Path (step board) anything s' trace t := path.mono fun _ => trivial
    exact ⟨s, s', events, trace, t, trips, taken, path, again, listed,
      (alarm_is_latched board accepts).1 s (.run (.tap (some tapsense))) s' events trace t trips taken path calm alive⟩
  · obtain ⟨s, before, -, engaged, quiet, raised, through⟩ : ∃ s before, Path (step board) anything start before s ∧
        s.globals.isEngaged = true ∧ (s.globals.isTimeout = false ∧ s.globals.isSensorFired = false) ∧
        (step board s (.run .wdt)).all (fun next => next.1.globals.isTimeout) = true ∧
        comesThrough s (.run .wdt) = true :=
      replay_reaches (armed ++ List.replicate 3 (.run .wdt)) (fun (s : Server) _ => s.globals.isEngaged = true ∧
        (s.globals.isTimeout = false ∧ s.globals.isSensorFired = false) ∧
        (step board s (.run .wdt)).all (fun next => next.1.globals.isTimeout) = true ∧
        comesThrough s (.run .wdt) = true) (by decide +kernel)
    obtain ⟨s', events, t, trace, taken, path, calm, alive, listed, again⟩ :=
      step_replay_reaches meanwhile CameThrough through
    have timeout : s'.globals.isTimeout = true := by simpa [taken] using raised
    exact ⟨s, s', events, trace, t, quiet.1, quiet.2, taken, timeout, path, again, listed,
      (alarm_is_latched board accepts).2 s s' events trace t engaged taken timeout path calm alive⟩

end RiotAlarm.Gateway
