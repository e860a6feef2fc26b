import RiotAlarm.SensorDetector
import RiotAlarm.Transition

/-! A sensor node: its threads statement by statement, the handler of the gateway's
messages, and the two buttons, whose interrupts no thread can divide. The parties take
their steps in any order; `init` has run before the first. -/
namespace RiotAlarm.Sensor

open Transition

/-- The calls of `thread_create` in `main`. -/
inductive MainPoint where
  | registerThread
  | statusThread
  | detectionThread
  | sensorRunThread
  | shell
  deriving DecidableEq

/-- `_gateway_connection_handler`, by what is executed next. -/
inductive GcoapPoint where
  | idle
  | connect
  | wakeup
  | disconnect
  | puts
  deriving DecidableEq

inductive RegisterPoint where
  | unborn
  | check
  | put
  | clear
  | yield
  deriving DecidableEq

inductive StatusPoint where
  | unborn
  | check
  | put
  | wakeup
  deriving DecidableEq

inductive DetectionPoint where
  | unborn
  | check
  | lastFire
  | fireStatus
  | put
  | clear
  | wakeup
  deriving DecidableEq

/-- `sensor_detection_loop`. The thread is created sleeping, before its first statement. -/
inductive LoopPoint (Body : Type) where
  | unborn
  | created
  | check
  | puts
  | reset
  | sleep
  | asleep
  | body (next : Body)

/-- `REGISTER_URI`, `STATUS_URI` and `FIRE_URI`. -/
inductive Uri where
  | register
  | status
  | fire
  deriving DecidableEq, Repr

/-- Messages sent, settings of the one-shot flags, changes of `connection_status`, and
the ends of the loop body. -/
inductive Event where
  | sent (uri : Uri)
  | fired
  | pressed
  | connected
  | disconnected
  | iterated
  deriving DecidableEq

structure Node (d : Detector) where
  connectionStatus : Bool
  sendId : Bool
  sensorFired : Bool
  fireStatus : Bool
  main : MainPoint
  gcoap : GcoapPoint
  registerThread : RegisterPoint
  statusThread : StatusPoint
  detectionThread : DetectionPoint
  loop : LoopPoint d.Body
  count : Nat
  memory : d.Memory

variable {d : Detector}

def boot (d : Detector) : Node d where
  connectionStatus := false
  sendId := false
  sensorFired := false
  fireStatus := false
  main := .registerThread
  gcoap := .idle
  registerThread := .unborn
  statusThread := .unborn
  detectionThread := .unborn
  loop := .unborn
  count := 0
  memory := d.initial

inductive Move (d : Detector) where
  | main
  | message (payload : Option CString)
  | gcoap
  | registerButton
  | testButton
  | registerThread
  | statusThread
  | detectionThread
  /-- The put that a thread is about to make fails. -/
  | unsent (uri : Uri)
  | loop (reading : d.Reading)

def mainStep (n : Node d) : Option (Node d × List Event) :=
  match n.main with
  | .registerThread => some ({ n with registerThread := .check, main := .statusThread },[])
  | .statusThread => some ({ n with statusThread := .check, main := .detectionThread },[])
  | .detectionThread => some ({ n with detectionThread := .check, main := .sensorRunThread },[])
  | .sensorRunThread => some ({ n with loop := .created, main := .shell },[])
  | .shell => none

/-- What the handler does with a payload; an empty one is answered at once, and one that
is not known only returns. -/
def dispatch : Option CString → GcoapPoint
  | none => .idle
  | some payload =>
    if strcmp payload REGISTER_RESPONSE = 0 then .connect
    else if strcmp payload DEREGISTER_RESPONSE = 0 then .disconnect
    else .idle

/-- `thread_wakeup`: nothing happens to a thread that is not asleep, or not there. -/
def LoopPoint.wakeup (entry : Body) : LoopPoint Body → LoopPoint Body
  | .created => .check
  | .asleep => .body entry
  | point => point

def gcoapStep (n : Node d) : Option (Node d × List Event) :=
  match n.gcoap with
  | .idle => none
  | .connect =>
    some ({ n with connectionStatus := true, gcoap := .wakeup },if n.connectionStatus then [] else [.connected])
  | .wakeup => some ({ n with loop := n.loop.wakeup d.entry, gcoap := .idle },[])
  | .disconnect =>
    some ({ n with connectionStatus := false, gcoap := .puts },if n.connectionStatus then [.disconnected] else [])
  | .puts => some ({ n with gcoap := .idle },[])

/-- The result of `coap_register_put` is ignored; here `_send` took the message, as in the
other threads. -/
def registerThreadStep (n : Node d) : Option (Node d × List Event) :=
  match n.registerThread with
  | .unborn => none
  | .check => some ({ n with registerThread := if n.sendId then .put else .yield },[])
  | .put => some ({ n with registerThread := .clear },[.sent .register])
  | .clear => some ({ n with sendId := false, registerThread := .check },[])
  | .yield => some ({ n with registerThread := .check },[])

/-- `send_status` is never cleared. -/
def statusThreadStep (n : Node d) : Option (Node d × List Event) :=
  match n.statusThread with
  | .unborn => none
  | .check => some ({ n with statusThread := if n.connectionStatus then .put else .wakeup },[])
  | .put => some ({ n with statusThread := .wakeup },[.sent .status])
  | .wakeup => some ({ n with statusThread := .check },[])

def detectionThreadStep (n : Node d) : Option (Node d × List Event) :=
  match n.detectionThread with
  | .unborn => none
  | .check =>
    some ({ n with detectionThread := if n.sensorFired && n.connectionStatus then .lastFire else .wakeup },[])
  | .lastFire => some ({ n with detectionThread := .fireStatus },[])
  | .fireStatus => some ({ n with fireStatus := true, detectionThread := .put },[])
  | .put => some ({ n with detectionThread := .clear },[.sent .fire])
  | .clear => some ({ n with sensorFired := false, detectionThread := .wakeup },[])
  | .wakeup => some ({ n with detectionThread := .check },[])

/-- `_send` answers 0, so `coap_register_put` or `coap_status_put` returns 1 and nothing goes
out; the thread goes on as behind a put that succeeds. -/
def unsentStep (n : Node d) : Uri → Option (Node d × List Event)
  | .register => if n.registerThread = .put then some ({ n with registerThread := .clear },[]) else none
  | .status => if n.statusThread = .put then some ({ n with statusThread := .wakeup },[]) else none
  | .fire => if n.detectionThread = .put then some ({ n with detectionThread := .clear },[]) else none

/-- The statement of the loop body, and with the last of them back to the test of
`connection_status`. -/
def bodyStep (n : Node d) (reading : d.Reading) (body : d.Body) : Node d × List Event :=
  let outcome := d.step reading body n.count n.memory
  ({ n with
      count := outcome.count
      memory := outcome.memory
      sensorFired := outcome.fired || n.sensorFired
      loop := match outcome.next with | none => .check | some next => .body next },
    (if outcome.fired then [.fired] else []) ++ if outcome.next.isNone then [.iterated] else [])

def loopStep (n : Node d) (reading : d.Reading) : Option (Node d × List Event) :=
  match n.loop with
  | .unborn => none
  | .created => none
  | .check => some ({ n with loop := if n.connectionStatus then .body d.entry else .puts },[])
  | .puts => some ({ n with loop := .reset },[])
  | .reset => some ({ n with count := 0, loop := .sleep },[])
  | .sleep => some ({ n with loop := .asleep },[])
  | .asleep => none
  | .body next => some (bodyStep n reading next)

def step : Step (Node d) (Move d) Event
  | n,.main => mainStep n
  | n,.message payload => if n.gcoap = .idle then some ({ n with gcoap := dispatch payload },[]) else none
  | n,.gcoap => gcoapStep n
  | n,.registerButton => some ({ n with sendId := true },[.pressed])
  | n,.testButton => some ({ n with sensorFired := true },[.fired])
  | n,.registerThread => registerThreadStep n
  | n,.statusThread => statusThreadStep n
  | n,.detectionThread => detectionThreadStep n
  | n,.unsent uri => unsentStep n uri
  | n,.loop reading => loopStep n reading

/-- Nothing that a wake-up depends on has changed. -/
structure SameConnection (n n' : Node d) : Prop where
  main : n'.main = n.main
  gcoap : n'.gcoap = n.gcoap
  connectionStatus : n'.connectionStatus = n.connectionStatus
  loop : n'.loop = n.loop

/-- The threads that only send. -/
def Move.sends : Move d → Bool
  | .registerThread => true
  | .statusThread => true
  | .detectionThread => true
  | .unsent _ => true
  | _ => false

/-- A put that fails leaves its thread behind the put and shows nothing. -/
theorem unsent_cases {n n' : Node d} {uri : Uri} (taken : step n (.unsent uri) = some (n',events)) :
    events = [] ∧ (uri = .register ∧ n.registerThread = .put ∧ n' = { n with registerThread := .clear } ∨
      uri = .status ∧ n.statusThread = .put ∧ n' = { n with statusThread := .wakeup } ∨
      uri = .fire ∧ n.detectionThread = .put ∧ n' = { n with detectionThread := .clear }) := by
  cases uri <;> simp only [step, unsentStep] at taken <;> split at taken <;> cases taken <;> simp_all

theorem sends_frame {n n' : Node d} {m : Move d} (sends : m.sends = true) (taken : step n m = some (n',events)) :
    SameConnection n n' := by
  cases m with
  | registerThread =>
    simp only [step, registerThreadStep] at taken
    split at taken <;> cases taken <;> exact ⟨rfl, rfl, rfl, rfl⟩
  | statusThread =>
    simp only [step, statusThreadStep] at taken
    split at taken <;> cases taken <;> exact ⟨rfl, rfl, rfl, rfl⟩
  | detectionThread =>
    simp only [step, detectionThreadStep] at taken
    split at taken <;> cases taken <;> exact ⟨rfl, rfl, rfl, rfl⟩
  | unsent uri => obtain ⟨-, ⟨-, -, rfl⟩ | ⟨-, -, rfl⟩ | ⟨-, -, rfl⟩⟩ := unsent_cases taken <;> exact ⟨rfl, rfl, rfl, rfl⟩
  | _ => simp [Move.sends] at sends

/-- The other parties leave the loop's variables alone, and the loop where it is, unless
they create it or wake it up. -/
theorem aside_loop {n n' : Node d} {m : Move d} (aside : ∀ reading, m ≠ .loop reading) (taken : step n m = some (n',events)) :
    n'.count = n.count ∧ n'.memory = n.memory ∧
      (n'.loop = n.loop ∨ n'.loop = n.loop.wakeup d.entry ∨ n.main ≠ .shell ∧ n'.loop = .created) := by
  cases m with
  | loop reading => exact absurd rfl (aside reading)
  | main =>
    simp only [step, mainStep] at taken
    split at taken <;> cases taken
    case h_4 at_ => exact ⟨rfl, rfl, .inr (.inr ⟨by simp [at_], rfl⟩)⟩
    all_goals exact ⟨rfl, rfl, .inl rfl⟩
  | message payload =>
    simp only [step] at taken
    split at taken <;> cases taken
    exact ⟨rfl, rfl, .inl rfl⟩
  | gcoap =>
    simp only [step, gcoapStep] at taken
    split at taken <;> cases taken
    case h_3 => exact ⟨rfl, rfl, .inr (.inl rfl)⟩
    all_goals exact ⟨rfl, rfl, .inl rfl⟩
  | registerButton | testButton =>
    cases taken
    exact ⟨rfl, rfl, .inl rfl⟩
  | registerThread | statusThread | detectionThread =>
    simp only [step, registerThreadStep, statusThreadStep, detectionThreadStep] at taken
    split at taken <;> cases taken <;> exact ⟨rfl, rfl, .inl rfl⟩
  | unsent uri => obtain ⟨-, ⟨-, -, rfl⟩ | ⟨-, -, rfl⟩ | ⟨-, -, rfl⟩⟩ := unsent_cases taken <;> exact ⟨rfl, rfl, .inl rfl⟩

/-- The loop is not there before `main` has created its thread. -/
theorem born_step {n n' : Node d} {m : Move d} (born : n.main ≠ .shell → n.loop = .unborn)
    (taken : step n m = some (n',events)) : n'.main ≠ .shell → n'.loop = .unborn := by
  cases m with
  | main =>
    simp only [step, mainStep] at taken
    split at taken <;> cases taken
    case h_4 => exact fun early => absurd rfl early
    all_goals next at_ => exact fun _ => born (by simp [at_])
  | message payload =>
    simp only [step] at taken
    split at taken <;> cases taken
    exact born
  | gcoap =>
    simp only [step, gcoapStep] at taken
    split at taken <;> cases taken
    case h_3 =>
      intro early
      simp [born early, LoopPoint.wakeup]
    all_goals exact born
  | registerButton | testButton =>
    cases taken
    exact born
  | registerThread | statusThread | detectionThread | unsent =>
    obtain ⟨main, _, _, loop⟩ := sends_frame rfl taken
    rw [main, loop]
    exact born
  | loop reading =>
    have main : n'.main = n.main ∧ n.loop ≠ .unborn := by
      simp only [step, loopStep] at taken
      split at taken <;> cases taken
      all_goals
        next at_ => exact ⟨rfl, by simp [at_]⟩
    intro early
    exact absurd (born (main.1 ▸ early)) main.2

/-- A step that is not a statement of the loop body leaves the loop's memory alone, and the
loop where it is unless that is outside the body; the body is entered at its beginning. -/
theorem besides_body {n n' : Node d} {m : Move d} (born : n.main ≠ .shell → n.loop = .unborn)
    (outside : ∀ reading b, m = .loop reading → n.loop ≠ .body b) (taken : step n m = some (n',events)) :
    n'.memory = n.memory ∧
      (n'.loop = n.loop ∨ (∀ b, n.loop ≠ .body b) ∧ ∀ b, n'.loop = .body b → b = d.entry) := by
  by_cases aside : ∀ reading, m ≠ .loop reading
  · obtain ⟨-, memory, loop⟩ := aside_loop aside taken
    refine ⟨memory, ?_⟩
    rcases loop with same | woken | ⟨early, created⟩
    · exact .inl same
    · cases at_ : n.loop with
      | created | asleep => exact .inr ⟨by simp, by simp [woken, at_, LoopPoint.wakeup, eq_comm]⟩
      | _ => exact .inl (by simp [woken, at_, LoopPoint.wakeup])
    · exact .inr ⟨by simp [born early], by simp [created]⟩
  · obtain ⟨reading, rfl⟩ := Classical.not_forall_not.mp aside
    simp only [step, loopStep] at taken
    split at taken
    case h_8 b at_ => exact absurd at_ (outside reading b rfl)
    case h_3 at_ =>
      cases taken
      refine ⟨rfl, .inr ⟨by simp [at_], ?_⟩⟩
      intro b entered
      by_cases on : n.connectionStatus = true
      · simp only [on, if_true] at entered
        exact (LoopPoint.body.inj entered).symm
      · simp [on] at entered
    case h_4 at_ | h_5 at_ | h_6 at_ =>
      cases taken
      exact ⟨rfl, .inr ⟨by simp [at_], by simp⟩⟩
    case h_1 | h_2 | h_7 => contradiction

/-! Schedules that the sample runs are put together from. -/

def started : List (Move irDetector) := [.main,.main,.main,.main]
def auth : List (Move irDetector) := [.message (some REGISTER_RESPONSE),.gcoap,.gcoap]
def deau : List (Move irDetector) := [.message (some DEREGISTER_RESPONSE),.gcoap,.gcoap]

/-- Statements of the detection loop, with the pin low. -/
def turns (n : Nat) : List (Move irDetector) := List.replicate n (.loop (0 : Int))

end RiotAlarm.Sensor
