import RiotAlarm.GatewayAdmission
import RiotAlarm.SensorNode

/-! The gateway and any number of sensors, with a channel in each direction between the
gateway and every sensor. Channels lose nothing and keep the order. -/
namespace RiotAlarm.Network

open Transition

/-- The sensors of an installation. No two share a name or an address. -/
structure Fleet where
  Member : Type
  decEq : DecidableEq Member
  identity : Member → NodeIdentity
  detector : Member → Sensor.Detector
  names : Function.Injective fun s => (identity s).name
  addresses : Function.Injective fun s => (identity s).ipAddr

instance (fleet : Fleet) : DecidableEq fleet.Member := fleet.decEq

/-- `requests` counts the registrations on their way to the gateway; a sensor always
sends its own identity. -/
structure State (fleet : Fleet) where
  server : Gateway.Server
  node : ∀ s, Sensor.Node (fleet.detector s)
  requests : fleet.Member → Nat
  messages : fleet.Member → List Gateway.Message

variable {fleet : Fleet} {gnrc : Gnrc}

def boot (fleet : Fleet) : State fleet where
  server := Gateway.start
  node s := Sensor.boot (fleet.detector s)
  requests _ := 0
  messages _ := []

/-- What the gateway does other than registering, where status and tap requests come at
any time with any payload; the registration of a node that is no sensor; a sensor's
registration or the gateway's message that arrives; and a sensor's own move. -/
inductive Action (fleet : Fleet) where
  | gateway (action : Gateway.Action)
  | actuator (payload : Option NodeIdentity) (foreign : ∀ id, payload = some id → ∀ s, id.ipAddr ≠ (fleet.identity s).ipAddr)
  | request (s : fleet.Member)
  | deliver (s : fleet.Member)
  | node (s : fleet.Member) (move : Sensor.Move (fleet.detector s))

/-- The message that an event sends to "/register" at the address. -/
def addressed (ipAddr : Ipv6Addr) : Gateway.Event → Option Gateway.Message
  | .sent message .register remote => if remote.addr = ipAddr then some message else none
  | _ => none

def posted (fleet : Fleet) (events : List Gateway.Event) (s : fleet.Member) : List Gateway.Message :=
  events.filterMap (addressed (fleet.identity s).ipAddr)

/-- A step of the gateway, whose messages go into the channels. -/
def gatewayStep (gnrc : Gnrc) (w : State fleet) (action : Gateway.Action) :
    Option (State fleet × List Gateway.Event) :=
  (Gateway.step gnrc w.server action).map fun (server,events) =>
    ({ w with server, messages := fun s => w.messages s ++ posted fleet events s },events)

/-- A step of a sensor, whose registrations go into its channel. -/
def nodeStep (w : State fleet) (s : fleet.Member) (move : Sensor.Move (fleet.detector s)) : Option (State fleet) :=
  (Sensor.step (w.node s) move).map fun (node,events) =>
    { w with
      node := Function.update w.node s node
      requests := Function.update w.requests s (w.requests s + events.count (.sent .register)) }

def registers : Gateway.Action → Bool
  | .run (.register _ _) => true
  | _ => false

def isMessage : Sensor.Move d → Bool
  | .message _ => true
  | _ => false

def step (gnrc : Gnrc) : Step (State fleet) (Action fleet) Gateway.Event
  | w,.gateway action => if registers action then none else gatewayStep gnrc w action
  | w,.actuator payload _ => gatewayStep gnrc w (.run (.register .actuator payload))
  | w,.request s =>
    match w.requests s with
    | 0 => none
    | rest + 1 =>
      gatewayStep gnrc { w with requests := Function.update w.requests s rest }
        (.run (.register .sensor (some (fleet.identity s))))
  | w,.deliver s =>
    match w.messages s with
    | [] => none
    | message :: rest =>
      (nodeStep { w with messages := Function.update w.messages s rest } s (.message (some message.payload))).map
        fun w => (w,[])
  | w,.node s move => if isMessage move then none else (nodeStep w s move).map fun w => (w,[])

/-! What a sensor will know once it has handled what was sent to it. -/

/-- `connection_status` when the handler is through. -/
def settle (status : Bool) : Sensor.GcoapPoint → Bool
  | .connect => true
  | .disconnect => false
  | _ => status

def told (status : Bool) (message : Gateway.Message) : Bool := settle status (Sensor.dispatch (some message.payload))

@[simp] theorem told_auth (status : Bool) : told status .auth = true := rfl
@[simp] theorem told_deau (status : Bool) : told status .deau = false := rfl

def State.settled (w : State fleet) (s : fleet.Member) : Bool :=
  (w.messages s).foldl told (settle (w.node s).connectionStatus (w.node s).gcoap)

/-- No auth or deauth command is in progress, and nothing is under way in either
direction. A command that has faulted is not in progress any more. -/
structure State.Rests (w : State fleet) : Prop where
  shell : w.server.shell.target = none
  requests : ∀ s, w.requests s = 0
  messages : ∀ s, w.messages s = [] ∧ (w.node s).gcoap = .idle

theorem State.Rests.settled {w : State fleet} (rests : w.Rests) (s : fleet.Member) :
    w.settled s = (w.node s).connectionStatus := by
  obtain ⟨empty, idle⟩ := rests.messages s
  simp [State.settled, empty, idle, settle]

/-- A move of the node itself only brings its handler forward. -/
theorem node_settle {n n' : Sensor.Node d} {m : Sensor.Move d} (own : isMessage m = false)
    (taken : Sensor.step n m = some (n',events)) :
    settle n'.connectionStatus n'.gcoap = settle n.connectionStatus n.gcoap := by
  cases m with
  | message => simp [isMessage] at own
  | main =>
    simp only [Sensor.step, Sensor.mainStep] at taken
    split at taken <;> cases taken <;> rfl
  | gcoap =>
    simp only [Sensor.step, Sensor.gcoapStep] at taken
    split at taken
    next => contradiction
    all_goals
      next at_ =>
        cases taken
        rw [at_]
        rfl
  | registerButton | testButton =>
    cases taken
    rfl
  | registerThread | statusThread | detectionThread | unsent =>
    have same := Sensor.sends_frame rfl taken
    rw [same.gcoap, same.connectionStatus]
  | loop reading =>
    simp only [Sensor.step, Sensor.loopStep] at taken
    split at taken <;> cases taken <;> rfl

/-- An arriving message is handled from here on. -/
theorem message_settle {n n' : Sensor.Node d} (message : Gateway.Message)
    (taken : Sensor.step n (.message (some message.payload)) = some (n',events)) :
    settle n'.connectionStatus n'.gcoap = told (settle n.connectionStatus n.gcoap) message := by
  simp only [Sensor.step] at taken
  split at taken
  next idle =>
    cases taken
    rw [idle]
    rfl
  next => contradiction

/-- What a step can be: the gateway's, whose messages the sensors have still to hear, or
a sensor's, by which nothing settled changes. -/
theorem step_cases {w w' : State fleet} {action : Action fleet} (taken : step gnrc w action = some (w',events)) :
    (∃ move, Gateway.step gnrc w.server move = some (w'.server,events) ∧
      (registers move = false ∧ action = .gateway move ∨
        (∃ payload foreign, move = .run (.register .actuator payload) ∧ action = .actuator payload foreign) ∨
        ∃ s, move = .run (.register .sensor (some (fleet.identity s))) ∧ action = .request s) ∧
      ∀ s, w'.settled s = (posted fleet events s).foldl told (w.settled s)) ∨
    (w'.server = w.server ∧ events = [] ∧ ∀ s, w'.settled s = w.settled s) := by
  have post : ∀ (requests : fleet.Member → Nat) (move : Gateway.Action),
      gatewayStep gnrc { w with requests } move = some (w',events) →
      Gateway.step gnrc w.server move = some (w'.server,events) ∧
        ∀ s, w'.settled s = (posted fleet events s).foldl told (w.settled s) := by
    intro requests move run
    obtain ⟨⟨server, shown⟩, ran, same⟩ := Option.map_eq_some_iff.mp run
    cases same
    exact ⟨ran, fun s => by simp [State.settled, List.foldl_append]⟩
  cases action with
  | gateway move =>
    simp only [step] at taken
    split at taken
    next => contradiction
    next own =>
      obtain ⟨ran, settled⟩ := post w.requests move taken
      exact .inl ⟨move, ran, .inl ⟨by simpa using own, rfl⟩, settled⟩
  | actuator payload foreign =>
    obtain ⟨ran, settled⟩ := post w.requests _ taken
    exact .inl ⟨_, ran, .inr (.inl ⟨payload, foreign, rfl, rfl⟩), settled⟩
  | request s =>
    simp only [step] at taken
    split at taken
    next => contradiction
    next =>
      obtain ⟨ran, settled⟩ := post _ _ taken
      exact .inl ⟨_, ran, .inr (.inr ⟨s, rfl, rfl⟩), settled⟩
  | deliver s =>
    simp only [step] at taken
    split at taken
    next => contradiction
    next message rest waiting =>
      obtain ⟨w₁, run, same⟩ := Option.map_eq_some_iff.mp taken
      obtain ⟨⟨node, shown⟩, ran, rfl⟩ := Option.map_eq_some_iff.mp run
      cases same
      refine .inr ⟨rfl, rfl, fun t => ?_⟩
      by_cases here : t = s
      · subst here
        simp [State.settled, waiting, message_settle message ran]
      · simp [State.settled, here]
  | node s move =>
    simp only [step] at taken
    split at taken
    next => contradiction
    next own =>
      obtain ⟨w₁, run, same⟩ := Option.map_eq_some_iff.mp taken
      obtain ⟨⟨node, shown⟩, ran, rfl⟩ := Option.map_eq_some_iff.mp run
      cases same
      refine .inr ⟨rfl, rfl, fun t => ?_⟩
      by_cases here : t = s
      · subst here
        simp [State.settled, node_settle (by simpa using own) ran]
      · simp [State.settled, here]

end RiotAlarm.Network
