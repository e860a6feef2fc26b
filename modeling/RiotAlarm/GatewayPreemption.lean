import RiotAlarm.GatewayShell

/-! The alarm flags under preemption. The tap handler, the test button's interrupt, a
walk of the watchdog and a turn of the alarm thread are taken statement by statement;
a disengagement, and everything else that the gateway does, can come in between. -/
namespace RiotAlarm.Gateway

open Transition

/-- `_sensor_tap_handler`, by what is executed next. -/
inductive TapPoint where
  | idle
  | lookup (id : NodeIdentity)
  | engaged (id : NodeIdentity)
  | puts (id : NodeIdentity)
  | activate (id : NodeIdentity)
  | log (id : NodeIdentity)
  deriving DecidableEq

/-- `test_intrp`. -/
inductive TestPoint where
  | idle
  | engaged
  | puts
  | activate
  | log
  deriving DecidableEq

/-- `ht_wdt`: the slot, and the entry under the pointer. -/
inductive WdtPoint where
  | idle
  | slot (i : Nat)
  | entry (i a : Nat)
  | engaged (i a : Nat)
  | raise (i a : Nat)
  | age (i a : Nat)
  | next (i a : Nat)
  deriving DecidableEq

/-- `alarm_thread` with its `traverse_and_fire`. -/
inductive AlarmPoint where
  | idle
  | enter
  | fire (ptr : LinkedHeap.Pointer)
  | advance (ptr : Nat)
  | clear
  deriving DecidableEq

structure Board where
  server : Server
  tap : TapPoint
  test : TestPoint
  wdt : WdtPoint
  alarm : AlarmPoint

inductive Move where
  | server (action : Action)
  | tapRequest (payload : Option NodeIdentity)
  | tap
  | testButton
  | test
  | wdt
  | alarm

def boot : Board := ⟨start,.idle,.idle,.idle,.idle⟩

/-- A name that is not stored is answered at once. -/
def tapStep (g : Globals) : TapPoint → Option (Globals × List Event × TapPoint)
  | .idle => none
  | .lookup id =>
    if strcmpResult (g.htSensor.get id.name) id.name = 0 then some (g,[],.engaged id) else some (g,[],.idle)
  | .engaged id => if g.isEngaged then some (g,[],.puts id) else some (g,[],.log id)
  | .puts id => some (g,[],.activate id)
  | .activate id =>
    let (g,events) := activateAlarm g
    some (g,events,.log id)
  | .log id => some (g,[.logged .sensorFired (some id.name)],.idle)

def testStep (g : Globals) : TestPoint → Option (Globals × List Event × TestPoint)
  | .idle => none
  | .engaged => if g.isEngaged then some (g,[],.puts) else some (g,[],.idle)
  | .puts => some (g,[],.activate)
  | .activate =>
    let (g,events) := activateAlarm g
    some (g,events,.log)
  | .log => some (g,[.logged .testAlarm none],.idle)

/-- The mutex is held from the first slot to the last. -/
def wdtStep (g : Globals) : WdtPoint → Option (Globals × List Event × WdtPoint)
  | .idle => some (g,[],.slot 0)
  | .slot i =>
    if inside : i < TABLE_SIZE then
      match g.htSensor.head ⟨i,inside⟩ with
      | none => some (g,[],.slot (i + 1))
      | some a => some (g,[],.entry i a)
    else some (g,[],.idle)
  | .entry i a => do
    let entry ← g.htSensor.entry a
    return (g,[],if entry.wdt > 2 then .engaged i a else .age i a)
  | .engaged i a => some (g,[],if g.isEngaged then .raise i a else .next i a)
  | .raise i a => some ({ g with isTimeout := true },[.raised],.next i a)
  | .age i a => do
    let htSensor ← g.htSensor.age a
    return ({ g with htSensor },[],.next i a)
  | .next i a => do
    let entry ← g.htSensor.entry a
    match entry.next with
    | none => return (g,[],.slot (i + 1))
    | some b => return (g,[],.entry i b)

def alarmStep (g : Globals) : AlarmPoint → Option (Globals × List Event × AlarmPoint)
  | .idle => some (g,[],if (g.isTimeout || g.isSensorFired) && g.isEngaged then .enter else .idle)
  | .enter => some (g,[],.fire g.actuators.head)
  | .fire none => some (g,[],.clear)
  | .fire (some ptr) => do
    let node ← g.actuators.node ptr
    return (g,[.sent .on .beeper node.remote],.advance ptr)
  | .advance ptr => do
    let node ← g.actuators.node ptr
    return (g,[],.fire node.next)
  | .clear => some ({ g with isTimeout := false },[],.idle)

/-- Handlers that are taken statement by statement do not run as a whole. -/
def Action.whole : Action → Bool
  | .run (.tap _) => false
  | .run .testButton => false
  | .run .wdt => false
  | .run .alarm => false
  | _ => true

/-- The steps that take the mutex of the sensor table. -/
def locks (shell : Shell) : Action → Bool
  | .shell =>
    match shell with
    | .auth .sensor _ .check => true
    | .auth .sensor _ .respond => true
    | .deauth .sensor _ .remove => true
    | _ => false
  | .run (.register .sensor (some _)) => true
  | .run (.status (some _)) => true
  | _ => false

def TapPoint.locks : TapPoint → Bool
  | .lookup _ => true
  | _ => false

/-- One thread handles the requests one after the other. -/
def requests : Action → Bool
  | .run (.register _ _) => true
  | .run (.status _) => true
  | _ => false

/-- Whether the action can start now: it is not one of those taken apart, the request
thread is free for it, and the watchdog does not hold the mutex that it needs. -/
def Board.admits (b : Board) (action : Action) : Bool :=
  action.whole && (!requests action || b.tap = .idle) && (!locks b.server.shell action || b.wdt = .idle)

def Board.globals (b : Board) : Globals := b.server.globals

def Board.setGlobals (b : Board) (globals : Globals) : Board := { b with server := { b.server with globals } }

/-- The moves of the board while it has not crashed. -/
def move (gnrc : Gnrc) (b : Board) : Move → Option (Board × List Event)
  | .server action =>
    if b.admits action then (step gnrc b.server action).map fun (server,events) => ({ b with server },events)
    else none
  | .tapRequest payload =>
    if b.tap = .idle then some ({ b with tap := match payload with | none => .idle | some id => .lookup id },[])
    else none
  | .tap =>
    if b.tap.locks && b.wdt ≠ .idle then none
    else (tapStep b.globals b.tap).map fun (g,events,tap) => ({ b.setGlobals g with tap },events)
  | .testButton => if b.test = .idle then some ({ b with test := .engaged },[]) else none
  | .test => (testStep b.globals b.test).map fun (g,events,test) => ({ b.setGlobals g with test },events)
  | .wdt => (wdtStep b.globals b.wdt).map fun (g,events,wdt) => ({ b.setGlobals g with wdt },events)
  | .alarm => (alarmStep b.globals b.alarm).map fun (g,events,alarm) => ({ b.setGlobals g with alarm },events)

def boardStep (gnrc : Gnrc) : Step Board Move Event :=
  fun b m => if b.server.shell = .crashed then none else move gnrc b m

/-- The action is a disengagement: the button's interrupt, or the shell command at its
call of `deactivate_alarm`. -/
def Server.deactivates (s : Server) : Action → Bool
  | .run .disEngageButton => true
  | .shell => s.shell = .disengage
  | _ => false

theorem boardStep_cases {gnrc : Gnrc} (taken : boardStep gnrc b m = some (c,events)) :
    (∃ action, m = .server action ∧ action.whole = true ∧ step gnrc b.server action = some (c.server,events) ∧
      c = { b with server := c.server }) ∨
    (∃ tap, c = { b with tap } ∧ events = [] ∧ (tap = .idle ∨ ∃ id, tap = .lookup id) ∧ ∃ payload, m = .tapRequest payload) ∨
    (m = .testButton ∧ c = { b with test := .engaged } ∧ events = []) ∨
    (m = .tap ∧ ∃ g tap, tapStep b.globals b.tap = some (g,events,tap) ∧ c = { b.setGlobals g with tap }) ∨
    (m = .test ∧ ∃ g test, testStep b.globals b.test = some (g,events,test) ∧ c = { b.setGlobals g with test }) ∨
    (m = .wdt ∧ ∃ g wdt, wdtStep b.globals b.wdt = some (g,events,wdt) ∧ c = { b.setGlobals g with wdt }) ∨
    (m = .alarm ∧ ∃ g alarm, alarmStep b.globals b.alarm = some (g,events,alarm) ∧
      c = { b.setGlobals g with alarm }) := by
  simp only [boardStep] at taken
  split at taken
  next => contradiction
  cases m with
  | server action =>
    simp only [move] at taken
    split at taken
    next admitted =>
      obtain ⟨⟨server, shown⟩, run, same⟩ := Option.map_eq_some_iff.mp taken
      cases same
      have whole : action.whole = true := by
        simp only [Board.admits, Bool.and_eq_true] at admitted
        exact admitted.1.1
      exact .inl ⟨action, rfl, whole, run, rfl⟩
    next => contradiction
  | tapRequest payload =>
    simp only [move] at taken
    split at taken
    next =>
      cases taken
      refine .inr (.inl ⟨_, rfl, rfl, ?_, payload, rfl⟩)
      cases payload with
      | none => exact .inl rfl
      | some id => exact .inr ⟨id, rfl⟩
    next => contradiction
  | testButton =>
    simp only [move] at taken
    split at taken
    next =>
      cases taken
      exact .inr (.inr (.inl ⟨rfl, rfl, rfl⟩))
    next => contradiction
  | tap =>
    simp only [move] at taken
    split at taken
    next => contradiction
    next =>
      obtain ⟨⟨g, shown, tap⟩, run, same⟩ := Option.map_eq_some_iff.mp taken
      cases same
      exact .inr (.inr (.inr (.inl ⟨rfl, g, tap, run, rfl⟩)))
  | test =>
    obtain ⟨⟨g, shown, test⟩, run, same⟩ := Option.map_eq_some_iff.mp taken
    cases same
    exact .inr (.inr (.inr (.inr (.inl ⟨rfl, g, test, run, rfl⟩))))
  | wdt =>
    obtain ⟨⟨g, shown, wdt⟩, run, same⟩ := Option.map_eq_some_iff.mp taken
    cases same
    exact .inr (.inr (.inr (.inr (.inr (.inl ⟨rfl, g, wdt, run, rfl⟩)))))
  | alarm =>
    obtain ⟨⟨g, shown, alarm⟩, run, same⟩ := Option.map_eq_some_iff.mp taken
    cases same
    exact .inr (.inr (.inr (.inr (.inr (.inr ⟨rfl, g, alarm, run, rfl⟩)))))

/-- What an action that runs as a whole does to the alarm flags. -/
theorem whole_flags {gnrc : Gnrc} (taken : step gnrc s a = some (t,events)) (whole : a.whole = true) :
    (s.deactivates a = true ∧ (t.globals,events) = deactivateAlarm s.globals) ∨
    (t.globals = { s.globals with isEngaged := true } ∧ events = [.engaged]) ∨
    (SameFlags s.globals t.globals ∧ ∀ event ∈ events, event.calm = true) := by
  rcases step_cases taken with ⟨command, -, -, rfl, rfl⟩ | ⟨rfl, run⟩ | ⟨handler, rfl, -, -, run⟩
  · exact .inr (.inr ⟨⟨rfl, rfl, rfl⟩, by simp [Event.calm]⟩)
  · rcases shellStep_flags run with ⟨at_, off⟩ | ⟨-, on, shown⟩ | ⟨same, calm⟩
    · exact .inl ⟨by simp [Server.deactivates, at_], off⟩
    · exact .inr (.inl ⟨on, shown⟩)
    · exact .inr (.inr ⟨same, calm⟩)
  · cases handler with
    | disEngageButton => exact .inl ⟨rfl, run.symm⟩
    | tap | testButton | wdt | alarm => simp [Action.whole] at whole
    | register kind payload =>
      right; right
      simp only [handle] at run
      rcases register_cases gnrc kind s.globals payload with
        ⟨id, g', -, -, -, -, ran, registered⟩ | ⟨-, ran⟩ | ran <;>
        rw [ran] at run <;> obtain ⟨after, shown⟩ := Prod.mk.inj run <;> rw [← after, ← shown]
      · exact ⟨⟨registered.isEngaged, registered.isSensorFired, registered.isTimeout⟩, by simp [Event.calm]⟩
      · exact ⟨⟨by simp, by simp, by simp⟩, by simp⟩
      · exact ⟨⟨rfl, rfl, rfl⟩, by simp⟩
    | status payload =>
      right; right
      obtain ⟨after, shown⟩ := Prod.mk.inj run
      rw [← after, ← shown]
      rcases status_cases s.globals payload with ⟨id, -, -, ran⟩ | ⟨-, ran⟩ <;> rw [ran] <;>
        exact ⟨⟨rfl, rfl, rfl⟩, by simp⟩

/-! No alarm cause survives a disengagement. -/

def isDeactivated : Event → Bool
  | .deactivated => true
  | _ => false

/-! Where a test of `is_engaged` has read true and the flag that it guards is still to
be set. -/

def TapPoint.raises : TapPoint → Bool
  | .puts _ => true
  | .activate _ => true
  | _ => false

def TestPoint.raises : TestPoint → Bool
  | .puts => true
  | .activate => true
  | _ => false

def WdtPoint.raises : WdtPoint → Bool
  | .raise _ _ => true
  | _ => false

def Board.raising (b : Board) : Bool := b.tap.raises || b.test.raises || b.wdt.raises

/-! A thread that is moved to a place where it raises nothing leaves the raising to the
others. -/

theorem raising_tap {b : Board} {point : TapPoint} (other : point.raises = false)
    (up : Board.raising { b with tap := point } = true) : b.raising = true := by
  simp only [Board.raising, other, Bool.or_eq_true, Bool.false_eq_true] at up ⊢
  grind

theorem raising_test {b : Board} {point : TestPoint} (other : point.raises = false)
    (up : Board.raising { b with test := point } = true) : b.raising = true := by
  simp only [Board.raising, other, Bool.or_eq_true, Bool.false_eq_true] at up ⊢
  grind

theorem raising_wdt {b : Board} {point : WdtPoint} (other : point.raises = false)
    (up : Board.raising { b with wdt := point } = true) : b.raising = true := by
  simp only [Board.raising, other, Bool.or_eq_true, Bool.false_eq_true] at up ⊢
  grind

def Board.deactivates (b : Board) : Move → Bool
  | .server action => b.server.deactivates action
  | _ => false

/-- No disengagement between a test of `is_engaged` and the flag that it guards. -/
def guarded (b : Board) (m : Move) : Prop := b.deactivates m = true → b.raising = false

instance (b : Board) (m : Move) : Decidable (guarded b m) := by
  unfold guarded
  infer_instance

/-- An alarm cause or a log entry. -/
def Event.aside : Event → Bool
  | .raised => true
  | .logged _ _ => true
  | _ => false

/-- What the interrupted threads have in common: none of them engages or disengages, none
touches the actuator list, and only the alarm thread sends. -/
structure Bystander (g g' : Globals) (events : List Event) : Prop where
  isEngaged : g'.isEngaged = g.isEngaged
  actuators : g'.actuators = g.actuators
  aside : ∀ event ∈ events, event.aside = true

theorem tapStep_aside (run : tapStep g point = some (g',events,point')) : Bystander g g' events := by
  cases point with
  | idle => simp [tapStep] at run
  | lookup | engaged =>
    simp only [tapStep] at run
    split at run <;> cases run <;> exact ⟨rfl, rfl, by simp⟩
  | puts | activate | log =>
    cases run
    exact ⟨rfl, rfl, by simp [Event.aside]⟩

theorem testStep_aside (run : testStep g point = some (g',events,point')) : Bystander g g' events := by
  cases point with
  | idle => simp [testStep] at run
  | engaged =>
    simp only [testStep] at run
    split at run <;> cases run <;> exact ⟨rfl, rfl, by simp⟩
  | puts | activate | log =>
    cases run
    exact ⟨rfl, rfl, by simp [Event.aside]⟩

theorem wdtStep_aside (run : wdtStep g point = some (g',events,point')) : Bystander g g' events := by
  cases point with
  | idle | engaged | raise =>
    cases run
    exact ⟨rfl, rfl, by simp [Event.aside]⟩
  | slot =>
    simp only [wdtStep] at run
    split at run <;> try split at run
    all_goals
      cases run
      exact ⟨rfl, rfl, by simp⟩
  | entry | age =>
    obtain ⟨_, _, same⟩ := Option.bind_eq_some_iff.mp run
    cases same
    exact ⟨rfl, rfl, by simp⟩
  | next =>
    obtain ⟨_, _, same⟩ := Option.bind_eq_some_iff.mp run
    split at same <;> cases same <;> exact ⟨rfl, rfl, by simp⟩

/-- A turn of the alarm thread: it is decided by the flags, it sends where the traversal
stands at a node, and it takes a timeout back at its end. -/
theorem alarmStep_cases (run : alarmStep g point = some (g',events,point')) :
    (∃ a node, point = .fire (some a) ∧ g.actuators.node a = some node ∧ g' = g ∧
      events = [.sent .on .beeper node.remote] ∧ point' = .advance a) ∨
    (point = .clear ∧ g' = { g with isTimeout := false } ∧ events = [] ∧ point' = .idle) ∨
    (g' = g ∧ events = [] ∧
      (point = .idle ∧ (point' = .idle ∨ point' = .enter ∧ g.isEngaged = true) ∨
        point = .enter ∧ point' = .fire g.actuators.head ∨
        point = .fire none ∧ point' = .clear ∨
        ∃ a node, point = .advance a ∧ g.actuators.node a = some node ∧ point' = .fire node.next)) := by
  cases point with
  | idle =>
    cases run
    refine .inr (.inr ⟨rfl, rfl, .inl ⟨rfl, ?_⟩⟩)
    split
    next rings =>
      have engaged : g.isEngaged = true := (Bool.and_eq_true_iff.mp rings).2
      exact .inr ⟨rfl, engaged⟩
    next => exact .inl rfl
  | enter =>
    cases run
    exact .inr (.inr ⟨rfl, rfl, .inr (.inl ⟨rfl, rfl⟩)⟩)
  | fire ptr =>
    cases ptr with
    | none =>
      cases run
      exact .inr (.inr ⟨rfl, rfl, .inr (.inr (.inl ⟨rfl, rfl⟩))⟩)
    | some a =>
      obtain ⟨node, here, same⟩ := Option.bind_eq_some_iff.mp run
      cases same
      exact .inl ⟨a, node, rfl, here, rfl, rfl, rfl⟩
  | advance a =>
    obtain ⟨node, here, same⟩ := Option.bind_eq_some_iff.mp run
    cases same
    exact .inr (.inr ⟨rfl, rfl, .inr (.inr (.inr ⟨a, node, rfl, here, rfl⟩))⟩)
  | clear =>
    cases run
    exact .inr (.inl ⟨rfl, rfl, rfl, rfl⟩)

theorem aside_not_deactivated {events : List Event} (aside : ∀ event ∈ events, event.aside = true) :
    ∀ event ∈ events, isDeactivated event = false := by
  intro event member
  have := aside event member
  cases event <;> simp_all [Event.aside, isDeactivated]

theorem alarmStep_not_deactivated (run : alarmStep g point = some (g',events,point')) :
    ∀ event ∈ events, isDeactivated event = false := by
  rcases alarmStep_cases run with ⟨a, node, -, -, -, rfl, -⟩ | ⟨-, -, rfl, -⟩ | ⟨-, rfl, -⟩ <;>
    simp [isDeactivated]

/-- A cause was raised after the alarm was engaged. -/
def Caused (during : List Event) : Prop := ∃ before after, during = before ++ .engaged :: after ∧ .raised ∈ after

/-- None of the four threads and interrupts is in the middle of something. -/
def Board.resting (b : Board) : Bool := b.tap = .idle && b.test = .idle && b.wdt = .idle && b.alarm = .idle

/-- At rest and disengaged no cause is pending; and whatever makes the alarm thread ring
was raised after an engage command that came after the last disengagement. -/
structure Disarmed (during : List Event) (b : Board) : Prop where
  flags : b.resting = true → b.globals.isEngaged = false →
    b.globals.isSensorFired = false ∧ b.globals.isTimeout = false
  cause : b.globals.isTimeout = true ∨ b.globals.isSensorFired = true → b.globals.isEngaged = true → Caused during

/-- What guarded runs keep, at rest or not. -/
structure Armed (during : List Event) (b : Board) : Prop where
  raising : b.raising = true → b.globals.isEngaged = true
  engaged : b.globals.isEngaged = true → .engaged ∈ during
  cause : b.globals.isTimeout = true ∨ b.globals.isSensorFired = true →
    b.globals.isEngaged = true ∧ Caused during

theorem Caused.append (caused : Caused during) (events : List Event) : Caused (during ++ events) := by
  obtain ⟨before, after, rfl, raised⟩ := caused
  exact ⟨before, after ++ events, by simp, by simp [raised]⟩

theorem calm_not_deactivated {events : List Event} (calm : ∀ event ∈ events, event.calm = true) :
    ∀ event ∈ events, isDeactivated event = false := by
  intro event member
  have := calm event member
  cases event <;> simp_all [Event.calm, isDeactivated]

namespace Armed
variable {during : List Event} {b c : Board}

/-- Where the flags stay as they are. -/
theorem keep (held : Armed during b) (same : SameFlags b.globals c.globals)
    (raising : c.raising = true → b.raising = true ∨ b.globals.isEngaged = true) (events : List Event) :
    Armed (during ++ events) c := by
  constructor
  · intro up
    rw [same.isEngaged]
    exact (raising up).elim held.raising id
  · intro on
    rw [same.isEngaged] at on
    exact List.mem_append_left _ (held.engaged on)
  · intro cause
    rw [same.isTimeout, same.isSensorFired] at cause
    obtain ⟨on, caused⟩ := held.cause cause
    exact ⟨same.isEngaged.trans on, caused.append events⟩

/-- A cause that is raised under a test that still holds. -/
theorem raise (held : Armed during b) (on : b.globals.isEngaged = true) (same : c.globals.isEngaged = true) :
    Armed (during ++ [.raised]) c := by
  obtain ⟨before, after, split⟩ := List.append_of_mem (held.engaged on)
  have caused : Caused (during ++ [.raised]) := ⟨before, after ++ [.raised], by simp [split], by simp⟩
  exact ⟨fun _ => same, fun _ => by simp [split], fun _ => ⟨same, caused⟩⟩

theorem tap (held : Armed during b) (run : tapStep b.globals b.tap = some (g,events,point)) :
    Armed (during ++ events) { b.setGlobals g with tap := point } := by
  have elsewhere : ∀ (point : TapPoint) (events : List Event), point.raises = false →
      Armed (during ++ events) { b.setGlobals b.globals with tap := point } := by
    intro point events other
    apply held.keep
    · exact ⟨rfl, rfl, rfl⟩
    · exact fun up => .inl (raising_tap other up)
  cases at_ : b.tap with
  | idle => simp [at_, tapStep] at run
  | lookup id =>
    simp only [at_, tapStep] at run
    split at run <;> cases run <;> exact elsewhere _ _ rfl
  | engaged id =>
    simp only [at_, tapStep] at run
    split at run <;> cases run
    next on =>
      apply held.keep
      · exact ⟨rfl, rfl, rfl⟩
      · exact fun _ => .inr on
    next => exact elsewhere _ _ rfl
  | puts id =>
    cases at_ ▸ run
    apply held.keep
    · exact ⟨rfl, rfl, rfl⟩
    · exact fun _ => .inl (by simp [Board.raising, at_, TapPoint.raises])
  | activate id =>
    cases at_ ▸ run
    have on := held.raising (by simp [Board.raising, at_, TapPoint.raises])
    exact held.raise on on
  | log id =>
    cases at_ ▸ run
    exact elsewhere _ _ rfl

theorem test (held : Armed during b) (run : testStep b.globals b.test = some (g,events,point)) :
    Armed (during ++ events) { b.setGlobals g with test := point } := by
  have elsewhere : ∀ (point : TestPoint) (events : List Event), point.raises = false →
      Armed (during ++ events) { b.setGlobals b.globals with test := point } := by
    intro point events other
    apply held.keep
    · exact ⟨rfl, rfl, rfl⟩
    · exact fun up => .inl (raising_test other up)
  cases at_ : b.test with
  | idle => simp [at_, testStep] at run
  | engaged =>
    simp only [at_, testStep] at run
    split at run <;> cases run
    next on =>
      apply held.keep
      · exact ⟨rfl, rfl, rfl⟩
      · exact fun _ => .inr on
    next => exact elsewhere _ _ rfl
  | puts =>
    cases at_ ▸ run
    apply held.keep
    · exact ⟨rfl, rfl, rfl⟩
    · exact fun _ => .inl (by simp [Board.raising, at_, TestPoint.raises])
  | activate =>
    cases at_ ▸ run
    have on := held.raising (by simp [Board.raising, at_, TestPoint.raises])
    exact held.raise on on
  | log =>
    cases at_ ▸ run
    exact elsewhere _ _ rfl

theorem wdt (held : Armed during b) (run : wdtStep b.globals b.wdt = some (g,events,point)) :
    Armed (during ++ events) { b.setGlobals g with wdt := point } := by
  have elsewhere : ∀ (point : WdtPoint) (g : Globals) (events : List Event), point.raises = false →
      SameFlags b.globals g → Armed (during ++ events) { b.setGlobals g with wdt := point } := by
    intro point g events other same
    apply held.keep
    · exact same
    · exact fun up => .inl (raising_wdt other up)
  cases at_ : b.wdt with
  | idle =>
    cases at_ ▸ run
    exact elsewhere _ _ _ rfl ⟨rfl, rfl, rfl⟩
  | slot i =>
    simp only [at_, wdtStep] at run
    split at run <;> try split at run
    all_goals
      cases run
      exact elsewhere _ _ _ rfl ⟨rfl, rfl, rfl⟩
  | entry i a =>
    simp only [at_, wdtStep] at run
    obtain ⟨entry, _, same⟩ := Option.bind_eq_some_iff.mp run
    cases same
    exact elsewhere _ _ _ (by split <;> rfl) ⟨rfl, rfl, rfl⟩
  | engaged i a =>
    cases at_ ▸ run
    split
    next on =>
      apply held.keep
      · exact ⟨rfl, rfl, rfl⟩
      · exact fun _ => .inr on
    next => exact elsewhere _ _ _ rfl ⟨rfl, rfl, rfl⟩
  | raise i a =>
    cases at_ ▸ run
    have on := held.raising (by simp [Board.raising, at_, WdtPoint.raises])
    exact held.raise on on
  | age i a =>
    simp only [at_, wdtStep] at run
    obtain ⟨htSensor, _, same⟩ := Option.bind_eq_some_iff.mp run
    cases same
    exact elsewhere _ _ _ rfl ⟨rfl, rfl, rfl⟩
  | next i a =>
    simp only [at_, wdtStep] at run
    obtain ⟨entry, _, same⟩ := Option.bind_eq_some_iff.mp run
    split at same
    all_goals
      cases same
      exact elsewhere _ _ _ rfl ⟨rfl, rfl, rfl⟩

/-- The alarm thread raises nothing. -/
theorem alarm (held : Armed during b) (run : alarmStep b.globals b.alarm = some (g,events,point)) :
    Armed (during ++ events) { b.setGlobals g with alarm := point } := by
  rcases alarmStep_cases run with ⟨a, node, -, -, rfl, -, -⟩ | ⟨-, rfl, -, -⟩ | ⟨rfl, -, -⟩
  · apply held.keep
    · exact ⟨rfl, rfl, rfl⟩
    · exact .inl
  · refine ⟨held.raising, fun on => List.mem_append_left _ (held.engaged on), ?_⟩
    intro cause
    have fired : b.globals.isSensorFired = true := by simpa [Board.globals, Board.setGlobals] using cause
    obtain ⟨on, caused⟩ := held.cause (.inr fired)
    exact ⟨on, caused.append _⟩
  · apply held.keep
    · exact ⟨rfl, rfl, rfl⟩
    · exact .inl

end Armed

theorem Armed.step {gnrc : Gnrc} (held : Armed (since isDeactivated trace) b) (ok : guarded b m)
    (taken : boardStep gnrc b m = some (c,events)) : Armed (since isDeactivated (trace ++ events)) c := by
  rcases boardStep_cases taken with
    ⟨action, rfl, whole, run, same⟩ | ⟨tap, rfl, rfl, start, -⟩ | ⟨-, rfl, rfl⟩ |
    ⟨-, g, point, run, rfl⟩ | ⟨-, g, point, run, rfl⟩ | ⟨-, g, point, run, rfl⟩ | ⟨-, g, point, run, rfl⟩
  · have raising : c.raising = b.raising := by rw [same]; rfl
    rcases whole_flags run whole with ⟨off, did⟩ | ⟨on, shown⟩ | ⟨flags, calm⟩
    · -- the disengagement itself: no flag is left up, and none is about to be raised
      have after : c.globals = (deactivateAlarm b.globals).1 := congrArg Prod.fst did
      have quiet : c.raising = false := raising.trans (ok off)
      constructor <;> simp [quiet, after, deactivateAlarm]
    · subst shown
      have after : c.globals = { b.globals with isEngaged := true } := on
      rw [since_append _ _ _ (by simp [isDeactivated])]
      constructor
      · simp [after]
      · simp
      · intro cause
        rw [after] at cause
        exact ⟨by rw [after], (held.cause cause).2.append _⟩
    · rw [since_append _ _ _ (calm_not_deactivated calm)]
      exact held.keep flags (fun up => .inl (raising ▸ up)) events
  · rw [since_append _ _ _ (by simp)]
    have other : tap.raises = false := by rcases start with rfl | ⟨id, rfl⟩ <;> rfl
    apply held.keep
    · exact ⟨rfl, rfl, rfl⟩
    · exact fun up => .inl (raising_tap other up)
  · rw [since_append _ _ _ (by simp)]
    apply held.keep
    · exact ⟨rfl, rfl, rfl⟩
    · exact fun up => .inl (raising_test rfl up)
  · rw [since_append _ _ _ (aside_not_deactivated (tapStep_aside run).aside)]
    exact held.tap run
  · rw [since_append _ _ _ (aside_not_deactivated (testStep_aside run).aside)]
    exact held.test run
  · rw [since_append _ _ _ (aside_not_deactivated (wdtStep_aside run).aside)]
    exact held.wdt run
  · rw [since_append _ _ _ (alarmStep_not_deactivated run)]
    exact held.alarm run

theorem Armed.disarmed (held : Armed during b) : Disarmed during b := by
  constructor
  · intro _ off
    have down : ¬ (b.globals.isTimeout = true ∨ b.globals.isSensorFired = true) := by
      intro cause
      have on := (held.cause cause).1
      simp [off] at on
    simpa [and_comm] using down
  · intro cause _
    exact (held.cause cause).2

theorem armed_path {gnrc : Gnrc} (path : Path (boardStep gnrc) guarded boot trace b) :
    Armed (since isDeactivated trace) b := by
  have initial : Armed (since isDeactivated []) boot := by
    constructor <;> simp [boot, Board.raising, TapPoint.raises, TestPoint.raises, WdtPoint.raises,
      Board.globals, start, init]
  exact path.invariant (fun trace b => Armed (since isDeactivated trace) b) (fun held ok taken => held.step ok taken) initial

/-- As long as no disengagement comes between a test of `is_engaged` and the flag it
guards, a disengaged board at rest has no alarm cause pending, and the alarm never rings
for something that was raised before it was engaged. -/
theorem no_cause_survives {gnrc : Gnrc} (path : Path (boardStep gnrc) guarded boot trace b) :
    Disarmed (since isDeactivated trace) b :=
  (armed_path path).disarmed

/-- The steps in which a disengagement meets a tap handler that has read `is_engaged`. -/
def authorizeNode (kind : Kind) (id : NodeIdentity) : List Move :=
  [.server (.type (.auth kind [id.name])),.server .shell,.server .shell,.server .shell,
    .server (.run (.register kind (some id)))] ++ List.replicate 6 (.server .shell)

def engageBoard : List Move := [.server (.type (.engage [])),.server .shell,.server .shell]

def tapOverrun : List Move :=
  authorizeNode .sensor tapsense ++ engageBoard ++
    [.tapRequest (some tapsense),.tap,.tap,.server (.run .disEngageButton),.tap,.tap,.tap]

theorem cause_survives_disengagement :
    ¬ ∀ gnrc trace b, Path (boardStep gnrc) anything boot trace b → Disarmed (since isDeactivated trace) b := by
  intro claim
  have run : ∃ b trace, Path (boardStep board) anything boot trace b ∧
      b.resting = true ∧ b.globals.isEngaged = false ∧ b.globals.isSensorFired = true :=
    replay_reaches tapOverrun (fun (b : Board) _ => b.resting = true ∧ b.globals.isEngaged = false ∧
      b.globals.isSensorFired = true) (by decide)
  obtain ⟨b, trace, path, resting, off, fired⟩ := run
  have down := ((claim board trace b path).flags resting off).1
  simp [fired] at down

def tapThenDisengage : List Move :=
  authorizeNode .sensor tapsense ++ engageBoard ++
    [.tapRequest (some tapsense),.tap,.tap,.tap,.tap,.tap,.server (.run .disEngageButton)]

theorem no_cause_survives_run :
    ∃ b trace, Path (boardStep board) guarded boot trace b ∧ b.resting = true ∧
      b.globals.isEngaged = false ∧ Disarmed (since isDeactivated trace) b := by
  have run : ∃ b trace, Path (boardStep board) guarded boot trace b ∧
      b.resting = true ∧ b.globals.isEngaged = false :=
    replay_reaches tapThenDisengage (fun (b : Board) _ => b.resting = true ∧ b.globals.isEngaged = false) (by decide)
  obtain ⟨b, trace, path, resting, off⟩ := run
  exact ⟨b, trace, path, resting, off, no_cause_survives path⟩

end RiotAlarm.Gateway
