import RiotAlarm.GatewayCoap
import RiotAlarm.Transition

/-! The shell thread statement by statement, and the gateway as a system in which
requests, interrupts and the turns of the timer threads are handled between any two
of its statements. A null pointer passed to `hash` or `strcmp`, or the remote of an
entry that was not found, stops the board. -/
namespace RiotAlarm.Gateway

open Transition

/-- Statements of `auth_sensor_node` and `auth_actuator_node` and of the
`register_node` that they call, by what is executed next. -/
inductive AuthPoint where
  | start
  | check
  | prompt
  | timeout (count : Nat)
  | flag (count : Nat)
  | sleep (count : Nat)
  | clear
  | log
  | respond
  | done (code : Nat)
  deriving DecidableEq

/-- Statements of `de_auth_sensor_node` and `de_auth_actuator_node`. -/
inductive DeauthPoint where
  | start
  | remove
  | log
  | done (code : Nat)
  deriving DecidableEq

/-- Where the shell thread is. -/
inductive Shell where
  | idle
  | returned (command : Command) (code : Nat)
  | auth (kind : Kind) (name : CString) (point : AuthPoint)
  | deauth (kind : Kind) (name : CString) (point : DeauthPoint)
  | engage
  | engageLog
  | disengage
  | showActuators
  | showLog (args : List CString)
  | crashed
  deriving DecidableEq

/-- Dispatch of a line. A wrong number of arguments only prints the usage. -/
def invoke : Command → Shell
  | .auth kind [name] => .auth kind name .start
  | .deauth kind [name] => .deauth kind name .start
  | .engage [] => .engage
  | .disengage [] => .disengage
  | .showActuators [] => .showActuators
  | .showLog args => .showLog args
  | command => .returned command 0

/-- The test that an auth command starts with; no result when it faults. -/
def alreadyAuthorized (g : Globals) : Kind → Option Bool
  | .sensor => g.sensorId.map fun id => strcmpResult (g.htSensor.get id) id == 0
  | .actuator =>
    match g.actuatorId with
    | none => if g.actuators.toList = [] then some false else none
    | some id => some (g.actuators.nodeExists id == 0)

/-- `&ht_get_node(ht_sensor, SENSOR_ID)->remote` and `&get_node(ACTUATOR_ID)->remote`. -/
def pendingRemote (g : Globals) : Kind → Option SockUdpEp
  | .sensor => (g.sensorId.bind g.htSensor.getNode).map fun node => node.2.remote
  | .actuator => (g.actuatorId.bind g.actuators.getNode).map fun node => node.2

/-- `remove_sensor(SENSOR_ID)` and `remove_actuator(ACTUATOR_ID)`; no result when it faults. -/
def removePending (g : Globals) : Kind → Option (Globals × Nat × List Event)
  | .sensor => g.sensorId.map (removeSensor g)
  | .actuator =>
    match g.actuatorId with
    | none => if g.actuators.toList = [] then some (g,1,[]) else none
    | some id => some (removeActuator g id)

def authorized : Kind → LogMessage
  | .sensor => .sensorAuthorized
  | .actuator => .actuatorAuthorized

def deauthorized : Kind → LogMessage
  | .sensor => .sensorDeauthorized
  | .actuator => .actuatorDeauthorized

def authStep (g : Globals) (kind : Kind) (name : CString) : AuthPoint → Globals × List Event × Shell
  | .start => (g.setPending (some name) kind,[],.auth kind name .check)
  | .check =>
    match alreadyAuthorized g kind with
    | none => (g,[],.crashed)
    | some true => (g,[],.auth kind name (.done 1))
    | some false => (g,[],.auth kind name .prompt)
  | .prompt => (g,[],.auth kind name (.timeout 0))
  | .timeout count =>
    if count > 50 then (g,[],.auth kind name (.done 1)) else (g,[],.auth kind name (.flag count))
  | .flag count =>
    if g.isRegistered then (g,[],.auth kind name .clear) else (g,[],.auth kind name (.sleep count))
  | .sleep count => (g,[],.auth kind name (.timeout (count + 1)))
  | .clear => ({ g with isRegistered := false },[],.auth kind name .log)
  | .log => (g,[.logged (authorized kind) (g.pending kind)],.auth kind name .respond)
  | .respond =>
    match pendingRemote g kind with
    | none => (g,[],.crashed)
    | some remote => (g,[sendRegisterResponse remote],.auth kind name (.done 0))
  | .done code => (g.setPending none kind,[],.returned (.auth kind [name]) code)

def deauthStep (g : Globals) (kind : Kind) (name : CString) : DeauthPoint → Globals × List Event × Shell
  | .start => (g.setPending (some name) kind,[],.deauth kind name .remove)
  | .remove =>
    match removePending g kind with
    | none => (g,[],.crashed)
    | some (g,code,sent) => (g,sent,.deauth kind name (if code = 0 then .log else .done 1))
  | .log => (g,[.logged (deauthorized kind) (g.pending kind)],.deauth kind name (.done 0))
  | .done code => (g.setPending none kind,[],.returned (.deauth kind [name]) code)

/-- The next statement of the command that runs. -/
def shellStep (g : Globals) : Shell → Option (Globals × List Event × Shell)
  | .idle => none
  | .returned _ _ => none
  | .crashed => none
  | .auth kind name point => some (authStep g kind name point)
  | .deauth kind name point => some (deauthStep g kind name point)
  | .engage => some ({ g with isEngaged := true },[.engaged],.engageLog)
  | .engageLog => some (g,[.logged .alarmEngaged none],.returned (.engage []) 0)
  | .disengage =>
    let (g,events) := deactivateAlarm g
    some (g,events,.returned (.disengage []) 0)
  | .showActuators => some (g,[],.returned (.showActuators []) 0)
  | .showLog args => some (g,[],.returned (.showLog args) 0)

structure Server where
  globals : Globals
  shell : Shell

/-- What can come between two statements of the shell thread: a request, a button, a
turn of a timer thread. -/
inductive Handler where
  | register (kind : Kind) (payload : Option NodeIdentity)
  | status (payload : Option NodeIdentity)
  | tap (payload : Option NodeIdentity)
  | disEngageButton
  | testButton
  | wdt
  | alarm

inductive Action where
  | type (command : Command)
  | shell
  | run (handler : Handler)

def start : Server := ⟨init,.idle⟩

def Shell.ready : Shell → Bool
  | .idle => true
  | .returned _ _ => true
  | _ => false

def handle (gnrc : Gnrc) (g : Globals) : Handler → Globals × List Event
  | .register kind payload =>
    let (g,events,_) := registerHandler gnrc kind g payload
    (g,events)
  | .status payload => ((sensorStatusHandler g payload).1,[])
  | .tap payload =>
    let (g,events,_) := sensorTapHandler g payload
    (g,events)
  | .disEngageButton => disEngageIntrp g
  | .testButton => testIntrp g
  | .wdt => (wdtThread g,[])
  | .alarm => alarmThread g

def step (gnrc : Gnrc) : Step Server Action Event
  | s,.type command =>
    if s.shell.ready then some (⟨s.globals,invoke command⟩,[.invoked command]) else none
  | s,.shell => (shellStep s.globals s.shell).map fun (g,events,shell) => (⟨g,shell⟩,events)
  | s,.run handler =>
    if s.shell = .crashed then none
    else
      let (g,events) := handle gnrc s.globals handler
      some (⟨g,s.shell⟩,events)

/-- The three kinds of steps. -/
theorem step_cases {gnrc : Gnrc} (taken : step gnrc s a = some (t,events)) :
    (∃ command, a = .type command ∧ s.shell.ready = true ∧ t = ⟨s.globals,invoke command⟩ ∧
      events = [.invoked command]) ∨
    (a = .shell ∧ shellStep s.globals s.shell = some (t.globals,events,t.shell)) ∨
    (∃ handler, a = .run handler ∧ s.shell ≠ .crashed ∧ t.shell = s.shell ∧
      handle gnrc s.globals handler = (t.globals,events)) := by
  cases a with
  | type command =>
    simp only [step] at taken
    split at taken
    next ready =>
      cases taken
      exact .inl ⟨command, rfl, ready, rfl, rfl⟩
    next => contradiction
  | shell =>
    obtain ⟨⟨g, ev, shell⟩, run, same⟩ := Option.map_eq_some_iff.mp taken
    cases same
    exact .inr (.inl ⟨rfl, run⟩)
  | run handler =>
    simp only [step] at taken
    split at taken
    next => contradiction
    next alive =>
      cases taken
      exact .inr (.inr ⟨handler, rfl, alive, rfl, rfl⟩)

/-- An event that neither starts a command nor reports an insertion. -/
def Event.plain : Event → Bool
  | .invoked _ => false
  | .stored _ _ _ => false
  | _ => true

/-- An event that is neither an alarm cause nor a change of `is_engaged`. -/
def Event.calm : Event → Bool
  | .raised => false
  | .engaged => false
  | .deactivated => false
  | _ => true

/-- Nothing is registered, removed or forgotten. -/
structure SameStores (g g' : Globals) : Prop where
  pending : ∀ kind, g'.pending kind = g.pending kind
  remotes : ∀ name, (g'.htSensor.view name).map SensorValue.remote = (g.htSensor.view name).map SensorValue.remote
  isRegistered : g'.isRegistered = g.isRegistered
  actuators : g'.actuators = g.actuators

theorem SameStores.of_eq {g g' : Globals} (sensorId : g'.sensorId = g.sensorId)
    (actuatorId : g'.actuatorId = g.actuatorId) (actuators : g'.actuators = g.actuators)
    (isRegistered : g'.isRegistered = g.isRegistered)
    (remotes : ∀ name, (g'.htSensor.view name).map SensorValue.remote =
      (g.htSensor.view name).map SensorValue.remote) : SameStores g g' where
  pending kind := by cases kind <;> assumption
  remotes := remotes
  isRegistered := isRegistered
  actuators := actuators

theorem SameStores.holds {g g' : Globals} (stores : SameStores g g') (kind : Kind) (name : CString) :
    g'.holds kind name = g.holds kind name := by
  cases kind with
  | sensor => simpa [Globals.holds] using congrArg Option.isSome (stores.remotes name)
  | actuator => simp [Globals.holds, stores.actuators]

theorem SameStores.refl (g : Globals) : SameStores g g :=
  .of_eq rfl rfl rfl rfl fun _ => rfl

/-- Whatever it answers, rings or counts, a handler other than a registration leaves the
stores alone. -/
theorem handle_frame (gnrc : Gnrc) (g : Globals) (handler : Handler)
    (other : ∀ kind payload, handler ≠ .register kind payload) :
    SameStores g (handle gnrc g handler).1 ∧ ∀ event ∈ (handle gnrc g handler).2, event.plain = true := by
  cases handler with
  | register kind payload => exact absurd rfl (other kind payload)
  | status payload =>
    refine ⟨?_, by simp [handle]⟩
    rcases status_cases g payload with ⟨id, _, _, run⟩ | ⟨_, run⟩
    · apply SameStores.of_eq <;> try simp [handle, run]
      intro name
      have kept : SensorValue.remote ∘ refresh id.name name = SensorValue.remote := by
        funext value
        simp only [Function.comp, refresh]
        split <;> rfl
      simp [SensorTable.view_updateTime, kept]
    · apply SameStores.of_eq <;> simp [handle, run]
  | tap payload =>
    cases payload with
    | none => exact ⟨.refl g, by simp [handle, sensorTapHandler]⟩
    | some id =>
      simp only [handle, sensorTapHandler, activateAlarm]
      split <;> try split
      all_goals exact ⟨.of_eq rfl rfl rfl rfl fun _ => rfl, by simp [Event.plain]⟩
  | disEngageButton =>
    exact ⟨.of_eq rfl rfl rfl rfl fun _ => rfl, by simp [handle, disEngageIntrp, deactivateAlarm, Event.plain]⟩
  | testButton =>
    simp only [handle, testIntrp, activateAlarm]
    split
    all_goals exact ⟨.of_eq rfl rfl rfl rfl fun _ => rfl, by simp [Event.plain]⟩
  | wdt =>
    refine ⟨.of_eq rfl rfl rfl rfl fun name => ?_, by simp [handle]⟩
    have kept : SensorValue.remote ∘ aged = SensorValue.remote := rfl
    simp [handle, wdtThread, (g.htSensor.wdt_spec g.isEngaged g.isTimeout).2, kept]
  | alarm =>
    simp only [handle, alarmThread, traverseAndFire, ActuatorList.traverse_eq]
    split
    · refine ⟨.of_eq rfl rfl rfl rfl fun _ => rfl, ?_⟩
      intro event member
      obtain ⟨node, _, rfl⟩ := List.mem_map.mp member
      rfl
    · exact ⟨.refl g, by simp⟩

/-- What can happen to the stores and the pending names between two statements of the
shell thread. -/
theorem handle_cases (gnrc : Gnrc) (g : Globals) (handler : Handler) :
    (∃ kind id remote, handler = .register kind (some id) ∧ g.accepts kind (some id) = true ∧
      g.pending kind = some id.name ∧ g.holds kind id.name = false ∧
      g.Registered gnrc kind id (handle gnrc g handler).1 ∧
      (handle gnrc g handler).2 = [.stored kind id.name remote]) ∨
    (∃ kind payload, handler = .register kind payload ∧ g.forgets kind payload = true ∧
      (handle gnrc g handler).1 = g.setPending none kind ∧ (handle gnrc g handler).2 = []) ∨
    (SameStores g (handle gnrc g handler).1 ∧ ∀ event ∈ (handle gnrc g handler).2, event.plain = true) := by
  by_cases registers : ∃ kind payload, handler = .register kind payload
  · obtain ⟨kind, payload, rfl⟩ := registers
    simp only [handle]
    rcases register_cases gnrc kind g payload with
      ⟨id, g', rfl, accepted, waiting, absent, run, registered⟩ | ⟨forgets, run⟩ | run <;> rw [run]
    · exact .inl ⟨kind, id, _, rfl, accepted, waiting, absent, registered, rfl⟩
    · exact .inr (.inl ⟨kind, payload, rfl, forgets, rfl, rfl⟩)
    · exact .inr (.inr ⟨.refl g, by simp⟩)
  · exact .inr (.inr (handle_frame gnrc g handler fun kind payload same => registers ⟨kind, payload, same⟩))

/-- A message to a node's "/register". -/
def Event.replies : Event → Bool
  | .sent _ .register _ => true
  | _ => false

/-- Only the shell thread answers a registration. -/
theorem handle_replies (gnrc : Gnrc) (g : Globals) (handler : Handler) :
    ∀ event ∈ (handle gnrc g handler).2, event.replies = false := by
  cases handler with
  | register kind payload =>
    simp only [handle]
    rcases register_cases gnrc kind g payload with ⟨id, g', -, -, -, -, run, -⟩ | ⟨-, run⟩ | run <;> rw [run] <;>
      simp [Event.replies]
  | status payload => simp [handle]
  | tap payload =>
    cases payload with
    | none => simp [handle, sensorTapHandler]
    | some id =>
      simp only [handle, sensorTapHandler, activateAlarm]
      split <;> try split
      all_goals simp [Event.replies]
  | disEngageButton => simp [handle, disEngageIntrp, deactivateAlarm, Event.replies]
  | testButton =>
    simp only [handle, testIntrp, activateAlarm]
    split <;> simp [Event.replies]
  | wdt => simp [handle]
  | alarm =>
    simp only [handle, alarmThread, traverseAndFire, ActuatorList.traverse_eq]
    split
    · intro event member
      obtain ⟨node, _, rfl⟩ := List.mem_map.mp member
      rfl
    · simp

/-- No actuator name twice. -/
def Distinct (g : Globals) : Prop := (g.actuators.toList.map Prod.fst).Nodup

/-- Without duplicates, deleting the first node with a name deletes the name. -/
theorem any_eraseP {l : List (CString × β)} (distinct : (l.map Prod.fst).Nodup) (name name' : CString) :
    (l.eraseP (·.1 = name)).any (·.1 = name') = (l.any (·.1 = name') && !decide (name' = name)) := by
  induction l with
  | nil => simp
  | cons node rest ih =>
    obtain ⟨absent, tail⟩ := List.nodup_cons.mp distinct
    by_cases same : node.1 = name
    · have gone : rest.any (·.1 = name) = false := by
        simp only [List.any_eq_false, decide_eq_true_eq]
        intro other member again
        exact absent (List.mem_map.mpr ⟨other, member, again.trans same.symm⟩)
      by_cases wanted : name' = name
      · subst wanted
        simp [same, gone]
      · have differ : ¬ name = name' := fun h => wanted h.symm
        simp [same, wanted, differ]
    · by_cases wanted : name' = name
      · subst wanted
        simpa [List.eraseP_cons, same] using ih tail
      · have later := ih tail
        simp only [wanted, decide_false, Bool.not_false, Bool.and_true] at later ⊢
        simp [same, later]

/-- A removal runs for a pending name, unless the actuator list is empty and nothing is done. -/
theorem removePending_cases (run : removePending g kind = some (g',code,sent)) :
    (∃ name, g.pending kind = some name ∧
      (g',code,sent) = match kind with | .sensor => removeSensor g name | .actuator => removeActuator g name) ∨
    (g.pending kind = none ∧ g' = g ∧ code = 1 ∧ sent = []) := by
  cases kind with
  | sensor =>
    obtain ⟨name, waiting, same⟩ := Option.map_eq_some_iff.mp run
    exact .inl ⟨name, waiting, same.symm⟩
  | actuator =>
    simp only [removePending] at run
    split at run
    next waiting =>
      split at run
      next =>
        cases run
        exact .inr ⟨waiting, rfl, rfl, rfl⟩
      next => contradiction
    next name waiting => exact .inl ⟨name, waiting, (Option.some.inj run).symm⟩

theorem removePending_sent (run : removePending g kind = some (g',code,sent)) :
    ∃ remotes : List SockUdpEp, sent = remotes.map sendDeregisterResponse := by
  rcases removePending_cases run with ⟨name, -, same⟩ | ⟨-, -, -, rfl⟩
  · cases kind <;> exact ⟨_, congrArg (·.2.2) same⟩
  · exact ⟨[], rfl⟩

theorem removePending_frame (run : removePending g kind = some (g',code,sent)) :
    (∀ other, g'.pending other = g.pending other) ∧ g'.isRegistered = g.isRegistered := by
  rcases removePending_cases run with ⟨name, -, same⟩ | ⟨-, rfl, -, -⟩
  · cases kind <;> simp only [removeSensor, removeActuator, Prod.mk.injEq] at same <;>
      obtain ⟨rfl, -, -⟩ := same <;> exact ⟨fun other => by cases other <;> rfl, rfl⟩
  · exact ⟨fun _ => rfl, rfl⟩

theorem removePending_flags (run : removePending g kind = some (g',code,sent)) :
    g'.isEngaged = g.isEngaged ∧ g'.isSensorFired = g.isSensorFired ∧ g'.isTimeout = g.isTimeout := by
  rcases removePending_cases run with ⟨name, -, same⟩ | ⟨-, rfl, -, -⟩
  · cases kind <;> simp only [removeSensor, removeActuator, Prod.mk.injEq] at same <;>
      obtain ⟨rfl, -, -⟩ := same <;> exact ⟨rfl, rfl, rfl⟩
  · exact ⟨rfl, rfl, rfl⟩

theorem removePending_ends (run : removePending g kind = some (g',code,sent)) (ends : g.actuators.Ends a) :
    g'.actuators.Ends a := by
  rcases removePending_cases run with ⟨name, -, same⟩ | ⟨-, rfl, -, -⟩
  · cases kind <;> simp only [removeSensor, removeActuator, Prod.mk.injEq] at same <;> obtain ⟨rfl, -, -⟩ := same
    · exact ends
    · exact ActuatorList.ends_deleteNode name ends
  · exact ends

/-- What `remove_sensor` and `remove_actuator` do to the stores. -/
theorem removePending_spec (distinct : Distinct g) (run : removePending g kind = some (g',code,sent)) :
    Distinct g' ∧ (code = 0 ↔ ∃ name, g.pending kind = some name ∧ g.holds kind name = true) ∧
      ∀ name, g.pending kind = some name → ∀ other name',
        g'.holds other name' = (g.holds other name' && !(other = kind && name' = name)) := by
  rcases removePending_cases run with ⟨id, waiting, same⟩ | ⟨waiting, rfl, rfl, -⟩
  · rw [waiting]
    cases kind with
    | sensor =>
      obtain ⟨result, view⟩ := g.htSensor.del_spec id
      simp only [removeSensor, Prod.mk.injEq] at same
      obtain ⟨rfl, rfl, rfl⟩ := same
      refine ⟨distinct, by simp [result, Globals.holds, Option.isSome_iff_ne_none], ?_⟩
      intro name same other name'
      obtain rfl : id = name := Option.some.inj same
      cases other with
      | sensor => by_cases same : name' = id <;> simp [Globals.holds, view, Function.update, same]
      | actuator => simp [Globals.holds]
    | actuator =>
      obtain ⟨result, erased⟩ := g.actuators.deleteNode_spec id
      simp only [removeActuator, Prod.mk.injEq] at same
      obtain ⟨rfl, rfl, rfl⟩ := same
      have kept : ((g.actuators.toList.eraseP (·.1 = id)).map Prod.fst).Nodup :=
        distinct.sublist ((List.eraseP_sublist ..).map _)
      refine ⟨by simpa only [Distinct, erased] using kept, by simp [result, Globals.holds], ?_⟩
      intro name same other name'
      obtain rfl : id = name := Option.some.inj same
      cases other with
      | sensor => simp [Globals.holds]
      | actuator => simp [Globals.holds, erased, any_eraseP distinct id name']
  · simp [distinct, waiting]

/-- What a statement of the shell thread does to the globals: it sets or clears a pending
name, takes `is_registered` back, removes a node, switches the alarm, or only reports. -/
theorem shellStep_cases (run : shellStep g shell = some (g',events,shell')) :
    (∃ id kind, g' = g.setPending id kind ∧ events = []) ∨
    (g' = { g with isRegistered := false } ∧ events = []) ∨
    (∃ kind name code, shell = .deauth kind name .remove ∧ removePending g kind = some (g',code,events)) ∨
    (shell = .engage ∧ g' = { g with isEngaged := true } ∧ events = [.engaged]) ∨
    (shell = .disengage ∧ (g',events) = deactivateAlarm g) ∨
    (g' = g ∧
      (events = [] ∨ (∃ message name, events = [.logged message name]) ∨
        ∃ remote, events = [sendRegisterResponse remote])) := by
  cases shell with
  | idle | returned | crashed => simp [shellStep] at run
  | engage =>
    cases run
    exact .inr (.inr (.inr (.inl ⟨rfl, rfl, rfl⟩)))
  | disengage =>
    cases run
    exact .inr (.inr (.inr (.inr (.inl ⟨rfl, rfl⟩))))
  | engageLog =>
    cases run
    exact .inr (.inr (.inr (.inr (.inr ⟨rfl, .inr (.inl ⟨_, _, rfl⟩)⟩))))
  | showActuators | showLog =>
    cases run
    exact .inr (.inr (.inr (.inr (.inr ⟨rfl, .inl rfl⟩))))
  | auth kind name point =>
    simp only [shellStep, Option.some.injEq] at run
    cases point <;> simp only [authStep] at run
    case start | done =>
      cases run
      exact .inl ⟨_, _, rfl, rfl⟩
    case clear =>
      cases run
      exact .inr (.inl ⟨rfl, rfl⟩)
    case log =>
      cases run
      exact .inr (.inr (.inr (.inr (.inr ⟨rfl, .inr (.inl ⟨_, _, rfl⟩)⟩))))
    case respond =>
      split at run <;> cases run
      next => exact .inr (.inr (.inr (.inr (.inr ⟨rfl, .inl rfl⟩))))
      next remote _ => exact .inr (.inr (.inr (.inr (.inr ⟨rfl, .inr (.inr ⟨remote, rfl⟩)⟩))))
    case prompt | sleep =>
      cases run
      exact .inr (.inr (.inr (.inr (.inr ⟨rfl, .inl rfl⟩))))
    case check | timeout | flag =>
      split at run <;> cases run <;> exact .inr (.inr (.inr (.inr (.inr ⟨rfl, .inl rfl⟩))))
  | deauth kind name point =>
    simp only [shellStep, Option.some.injEq] at run
    cases point <;> simp only [deauthStep] at run
    case start | done =>
      cases run
      exact .inl ⟨_, _, rfl, rfl⟩
    case log =>
      cases run
      exact .inr (.inr (.inr (.inr (.inr ⟨rfl, .inr (.inl ⟨_, _, rfl⟩)⟩))))
    case remove =>
      split at run
      next =>
        cases run
        exact .inr (.inr (.inr (.inr (.inr ⟨rfl, .inl rfl⟩))))
      next removed =>
        cases run
        exact .inr (.inr (.inl ⟨kind, name, _, rfl, removed⟩))

/-- What the shell thread's statements show: AUTH and DEAU, log entries, and that the
alarm is engaged or disengaged. -/
def Event.spoken : Event → Bool
  | .sent .auth .register _ => true
  | .sent .deau .register _ => true
  | .logged _ _ => true
  | .engaged => true
  | .deactivated => true
  | _ => false

theorem shellStep_spoken (run : shellStep g shell = some (g',events,shell')) :
    ∀ event ∈ events, event.spoken = true := by
  rcases shellStep_cases run with
    ⟨_, _, -, rfl⟩ | ⟨-, rfl⟩ | ⟨_, _, _, -, removed⟩ | ⟨-, -, rfl⟩ | ⟨-, off⟩ | ⟨-, rfl | ⟨_, _, rfl⟩ | ⟨_, rfl⟩⟩
  · simp
  · simp
  · obtain ⟨remotes, rfl⟩ := removePending_sent removed
    simp [sendDeregisterResponse, Event.spoken]
  · simp [Event.spoken]
  · have shown : events = (deactivateAlarm g).2 := congrArg Prod.snd off
    simp [shown, deactivateAlarm, Event.spoken]
  · simp
  · simp [Event.spoken]
  · simp [sendRegisterResponse, Event.spoken]

theorem shellStep_plain (run : shellStep g shell = some (g',events,shell')) :
    ∀ event ∈ events, event.plain = true := by
  intro event member
  have spoken := shellStep_spoken run event member
  cases event <;> simp_all [Event.spoken, Event.plain]

structure SameFlags (g g' : Globals) : Prop where
  isEngaged : g'.isEngaged = g.isEngaged
  isSensorFired : g'.isSensorFired = g.isSensorFired
  isTimeout : g'.isTimeout = g.isTimeout

/-- What the shell thread does to the alarm flags. -/
theorem shellStep_flags (run : shellStep g shell = some (g',events,shell')) :
    (shell = .disengage ∧ (g',events) = deactivateAlarm g) ∨
    (shell = .engage ∧ g' = { g with isEngaged := true } ∧ events = [.engaged]) ∨
    (SameFlags g g' ∧ ∀ event ∈ events, event.calm = true) := by
  rcases shellStep_cases run with
    ⟨_, _, rfl, rfl⟩ | ⟨rfl, rfl⟩ | ⟨_, _, _, -, removed⟩ | engage | disengage |
    ⟨rfl, rfl | ⟨_, _, rfl⟩ | ⟨_, rfl⟩⟩
  · exact .inr (.inr ⟨⟨by simp, by simp, by simp⟩, by simp⟩)
  · exact .inr (.inr ⟨⟨rfl, rfl, rfl⟩, by simp⟩)
  · obtain ⟨engaged, fired, timeout⟩ := removePending_flags removed
    obtain ⟨remotes, rfl⟩ := removePending_sent removed
    exact .inr (.inr ⟨⟨engaged, fired, timeout⟩, by simp [sendDeregisterResponse, Event.calm]⟩)
  · exact .inr (.inl engage)
  · exact .inl disengage
  · exact .inr (.inr ⟨⟨rfl, rfl, rfl⟩, by simp⟩)
  · exact .inr (.inr ⟨⟨rfl, rfl, rfl⟩, by simp [Event.calm]⟩)
  · exact .inr (.inr ⟨⟨rfl, rfl, rfl⟩, by simp [sendRegisterResponse, Event.calm]⟩)

theorem shellStep_ends (run : shellStep g shell = some (g',events,shell')) (ends : g.actuators.Ends a) :
    g'.actuators.Ends a := by
  rcases shellStep_cases run with
    ⟨_, _, rfl, -⟩ | ⟨rfl, -⟩ | ⟨_, _, _, -, removed⟩ | ⟨-, rfl, -⟩ | ⟨-, off⟩ | ⟨rfl, -⟩
  · simpa using ends
  · exact ends
  · exact removePending_ends removed ends
  · exact ends
  · have after : g' = (deactivateAlarm g).1 := congrArg Prod.fst off
    rw [after]
    exact ends
  · exact ends

/-- A node with nothing behind it stays so, in the list or taken out of it: insertion is
at the head and deletion rewrites links that lead somewhere. -/
theorem step_ends {gnrc : Gnrc} (taken : step gnrc s a = some (t,events)) (ends : s.globals.actuators.Ends x) :
    t.globals.actuators.Ends x := by
  rcases step_cases taken with ⟨command, -, -, rfl, -⟩ | ⟨-, run⟩ | ⟨handler, rfl, -, -, run⟩
  · exact ends
  · exact shellStep_ends run ends
  · have after : (handle gnrc s.globals handler).1 = t.globals := congrArg Prod.fst run
    rw [← after]
    rcases handle_cases gnrc s.globals handler with
      ⟨kind, id, remote, -, -, -, -, registered, -⟩ | ⟨kind, payload, -, -, forgot, -⟩ | ⟨stores, -⟩
    · exact registered.ends x ends
    · rw [forgot]
      simpa using ends
    · rw [stores.actuators]
      exact ends

end RiotAlarm.Gateway
