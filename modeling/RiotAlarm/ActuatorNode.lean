import RiotAlarm.GatewayNode
import RiotAlarm.Transition

/-! An actuator node: its register thread statement by statement, the handlers of the
gateway's two kinds of messages, of which one keeps the beeper sounding, and the two
buttons. `init` has run before the first step. -/
namespace RiotAlarm.Actuator

open Transition

inductive MainPoint where
  | registerThread
  | shell
  deriving DecidableEq

/-- `_gateway_connection_handler`, and `_gateway_handler` with the `_beep_long` that it
calls, by what is executed next. -/
inductive GcoapPoint where
  | idle
  | connect
  | disconnect
  | pwmOn
  | sounding
  | pwmOff
  | pause
  deriving DecidableEq

/-- The register thread of an actuator never yields. -/
inductive RegisterPoint where
  | unborn
  | check
  | put
  | clear
  deriving DecidableEq

inductive Event where
  | sentRegister
  | pressed
  | connected
  | disconnected
  | beeped
  deriving DecidableEq

/-- `duty` is the value that `pwm_set` was last called with. -/
structure Node where
  connectionStatus : Bool
  sendId : Bool
  duty : Nat
  main : MainPoint
  gcoap : GcoapPoint
  registerThread : RegisterPoint

def boot : Node where
  connectionStatus := false
  sendId := false
  duty := 0
  main := .registerThread
  gcoap := .idle
  registerThread := .unborn

/-- The uri of a message is its resource, "/register" or "/actuator/beep". -/
inductive Move where
  | main
  | message (uri : Gateway.Uri) (payload : Option CString)
  | gcoap
  | registerButton
  | testButton
  | registerThread
  /-- The put that `register_thread` is about to make fails. -/
  | unsent

def mainStep (n : Node) : Option (Node × List Event) :=
  match n.main with
  | .registerThread => some ({ n with registerThread := .check, main := .shell },[])
  | .shell => none

/-- "ON"; no handler knows "OFF". -/
def TURN_ON_ALARM : CString := Gateway.Message.on.payload

def dispatch : Gateway.Uri → Option CString → GcoapPoint
  | _, none => .idle
  | .register, some payload =>
    if strcmp payload REGISTER_RESPONSE = 0 then .connect
    else if strcmp payload DEREGISTER_RESPONSE = 0 then .disconnect
    else .idle
  | .beeper, some payload => if strcmp payload TURN_ON_ALARM = 0 then .pwmOn else .idle

def gcoapStep (n : Node) : Option (Node × List Event) :=
  match n.gcoap with
  | .idle => none
  | .connect =>
    some ({ n with connectionStatus := true, gcoap := .idle },if n.connectionStatus then [] else [.connected])
  | .disconnect =>
    some ({ n with connectionStatus := false, gcoap := .idle },if n.connectionStatus then [.disconnected] else [])
  | .pwmOn => some ({ n with duty := 50, gcoap := .sounding },[.beeped])
  | .sounding => some ({ n with gcoap := .pwmOff },[])
  | .pwmOff => some ({ n with duty := 0, gcoap := .pause },[])
  | .pause => some ({ n with gcoap := .idle },[])

def registerThreadStep (n : Node) : Option (Node × List Event) :=
  match n.registerThread with
  | .unborn => none
  | .check => some ({ n with registerThread := if n.sendId then .put else .check },[])
  | .put => some ({ n with registerThread := .clear },[.sentRegister])
  | .clear => some ({ n with sendId := false, registerThread := .check },[])

/-- `coap_register_put` returns 1 and nothing goes out; its result is ignored. -/
def unsentStep (n : Node) : Option (Node × List Event) :=
  if n.registerThread = .put then some ({ n with registerThread := .clear },[]) else none

/-- The test button only prints. -/
def step : Step Node Move Event
  | n,.main => mainStep n
  | n,.message uri payload => if n.gcoap = .idle then some ({ n with gcoap := dispatch uri payload },[]) else none
  | n,.gcoap => gcoapStep n
  | n,.registerButton => some ({ n with sendId := true },[.pressed])
  | n,.testButton => some (n,[])
  | n,.registerThread => registerThreadStep n
  | n,.unsent => unsentStep n

variable {n n' : Node} {m : Move} {events : List Event}

/-- What a step does to the handler: it goes on with its statements, takes in a message,
or stays where it is while nothing it shows is the handler's. -/
theorem step_gcoap (taken : step n m = some (n',events)) :
    (m = .gcoap ∧ gcoapStep n = some (n',events)) ∨
    (∃ uri payload, m = .message uri payload ∧ n.gcoap = .idle ∧ n' = { n with gcoap := dispatch uri payload } ∧ events = []) ∨
    (n'.gcoap = n.gcoap ∧ n'.duty = n.duty ∧ n'.connectionStatus = n.connectionStatus ∧
      .beeped ∉ events ∧ .connected ∉ events) := by
  cases m with
  | gcoap => exact .inl ⟨rfl, taken⟩
  | message uri payload =>
    simp only [step] at taken
    split at taken <;> cases taken
    next idle => exact .inr (.inl ⟨uri, payload, rfl, idle, rfl, rfl⟩)
  | main =>
    simp only [step, mainStep] at taken
    split at taken <;> cases taken
    exact .inr (.inr ⟨rfl, rfl, rfl, by simp, by simp⟩)
  | registerButton | testButton =>
    cases taken
    exact .inr (.inr ⟨rfl, rfl, rfl, by simp, by simp⟩)
  | registerThread =>
    simp only [step, registerThreadStep] at taken
    split at taken <;> cases taken <;> exact .inr (.inr ⟨rfl, rfl, rfl, by simp, by simp⟩)
  | unsent =>
    simp only [step, unsentStep] at taken
    split at taken <;> cases taken
    exact .inr (.inr ⟨rfl, rfl, rfl, by simp, by simp⟩)

/-- The beep that the handler has come to. -/
def Node.due (n : Node) : Nat := if n.gcoap = .pwmOn then 1 else 0

def Move.orders : Move → Nat
  | .message uri payload => if dispatch uri payload = .pwmOn then 1 else 0
  | _ => 0

/-- Every ON that is taken in beeps once. -/
theorem due_step (taken : step n m = some (n',events)) : events.count .beeped + n'.due = n.due + m.orders := by
  rcases step_gcoap taken with ⟨rfl, run⟩ | ⟨uri, payload, rfl, idle, rfl, rfl⟩ | ⟨gcoap, -, -, silent, -⟩
  · simp only [gcoapStep] at run
    split at run <;> cases run
    case h_2 at_ | h_3 at_ => cases on : n.connectionStatus <;> simp [Node.due, Move.orders, at_]
    all_goals
      next at_ => simp [Node.due, Move.orders, at_]
  · simp [Node.due, Move.orders, idle]
  · have none : m.orders = 0 := by
      cases m with
      | message uri payload =>
        simp only [step] at taken
        split at taken <;> cases taken
        next idle =>
          have stays : dispatch uri payload = n.gcoap := gcoap
          simp [Move.orders, stays, idle]
      | _ => rfl
    simp [Node.due, gcoap, none, List.count_eq_zero.mpr silent]

/-- The statements that the handler has before it. -/
def GcoapPoint.rest : GcoapPoint → Nat
  | .idle => 0
  | .connect | .disconnect | .pause => 1
  | .pwmOff => 2
  | .sounding => 3
  | .pwmOn => 4

theorem gcoap_goes_on (busy : n.gcoap ≠ .idle) : ∃ n' events, step n .gcoap = some (n',events) ∧ n'.gcoap.rest < n.gcoap.rest := by
  cases at_ : n.gcoap with
  | idle => exact absurd at_ busy
  | _ => simp [step, gcoapStep, at_, GcoapPoint.rest]

/-- A registration is sent for a press. -/
structure Asked (pressed : Prop) (n : Node) : Prop where
  flag : n.sendId = true → pressed
  put : n.registerThread = .put → pressed

theorem Asked.later {pressed pressed' : Prop} (held : Asked pressed n) (later : pressed → pressed') : Asked pressed' n :=
  ⟨fun up => later (held.flag up), fun at_ => later (held.put at_)⟩

theorem Asked.step {pressed pressed' : Prop} (held : Asked pressed n) (later : pressed → pressed')
    (shown : .pressed ∈ events → pressed') (taken : step n m = some (n',events)) :
    Asked pressed' n' ∧ (.sentRegister ∈ events → pressed) := by
  cases m with
  | registerButton =>
    cases taken
    exact ⟨⟨fun _ => shown (by simp), fun at_ => later (held.put at_)⟩, by simp⟩
  | testButton =>
    cases taken
    exact ⟨⟨fun up => later (held.flag up), fun at_ => later (held.put at_)⟩, by simp⟩
  | message uri payload =>
    simp only [Actuator.step] at taken
    split at taken <;> cases taken
    exact ⟨⟨fun up => later (held.flag up), fun at_ => later (held.put at_)⟩, by simp⟩
  | main =>
    simp only [Actuator.step, mainStep] at taken
    split at taken <;> cases taken
    exact ⟨⟨fun up => later (held.flag up), by simp⟩, by simp⟩
  | gcoap =>
    simp only [Actuator.step, gcoapStep] at taken
    split at taken <;> cases taken
    all_goals exact ⟨⟨fun up => later (held.flag up), fun at_ => later (held.put at_)⟩, by simp⟩
  | registerThread =>
    simp only [Actuator.step, registerThreadStep] at taken
    split at taken <;> cases taken
    case h_2 =>
      refine ⟨⟨fun up => later (held.flag up), fun at_ => ?_⟩, by simp⟩
      by_cases up : n.sendId = true
      · exact later (held.flag up)
      · simp [up] at at_
    case h_3 at_ => exact ⟨⟨fun up => later (held.flag up), by simp⟩, fun _ => held.put at_⟩
    case h_4 => exact ⟨⟨by simp, by simp⟩, by simp⟩
  | unsent =>
    simp only [Actuator.step, unsentStep] at taken
    split at taken <;> cases taken
    exact ⟨⟨fun up => later (held.flag up), by simp⟩, by simp⟩

/-- The beeper sounds from the first `pwm_set` of `_beep_long` to the second. -/
def Sounds (n : Node) : Prop := n.duty = if n.gcoap = .sounding ∨ n.gcoap = .pwmOff then 50 else 0

theorem dispatch_silent (uri : Gateway.Uri) (payload : Option CString) :
    ¬ (dispatch uri payload = .sounding ∨ dispatch uri payload = .pwmOff) := by
  cases payload <;> cases uri <;> simp only [dispatch] <;> (repeat' split) <;> simp

theorem Sounds.step (held : Sounds n) (taken : step n m = some (n',events)) : Sounds n' := by
  rcases step_gcoap taken with ⟨-, run⟩ | ⟨uri, payload, -, idle, rfl, -⟩ | ⟨gcoap, duty, -⟩
  · simp only [gcoapStep] at run
    split at run <;> cases run
    case h_4 | h_6 => simp [Sounds]
    all_goals
      next at_ => simpa [Sounds, at_] using held
  · have silent : n.duty = 0 := by simpa [Sounds, idle] using held
    simp [Sounds, dispatch_silent, silent]
  · simpa only [Sounds, gcoap, duty] using held

/-- A node that handles no message makes no sound. -/
theorem silent_at_rest (path : Path step anything boot trace n) (idle : n.gcoap = .idle) : n.duty = 0 := by
  have sounds : Sounds n := path.state_invariant Sounds (fun held _ taken => held.step taken) rfl
  simpa [Sounds, idle] using sounds

end RiotAlarm.Actuator
