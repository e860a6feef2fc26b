import RiotAlarm.ActuatorNode
import RiotAlarm.GatewayEffects
import RiotAlarm.GatewayRequest
import RiotAlarm.SensorNode
import RiotAlarm.Wire

/-! The gateway with its sensors and actuators, and with what lies between them: datagrams
that may be lost, doubled and overtaken, and receive buffers that hold the bytes of earlier
ones. Only these nodes talk to the gateway, whose handlers and timer threads run their turns
to the end. -/
namespace RiotAlarm.Installation

open Transition CMemory

/-- The nodes of an installation, with the records they send. A node keeps its record: `set_*_name`
is not called while the installation runs. A name ends within its field, so that it has nine
characters at most; `set_*_name` accepts ten, whose record is read on into the address. No two
nodes share an address. -/
structure Site where
  Sensors : Type
  Actuators : Type
  decSensors : DecidableEq Sensors
  decActuators : DecidableEq Actuators
  sensor : Sensors → IdentityBytes
  actuator : Actuators → IdentityBytes
  detector : Sensors → Sensor.Detector
  sensorEnds : ∀ s, 0 ∈ (sensor s).bytes.take 10
  actuatorEnds : ∀ a, 0 ∈ (actuator a).bytes.take 10
  addresses : Function.Injective (Sum.elim (fun s => (sensor s).ipAddr) fun a => (actuator a).ipAddr)

instance (site : Site) : DecidableEq site.Sensors := site.decSensors
instance (site : Site) : DecidableEq site.Actuators := site.decActuators

theorem nil_terminated : (0 : UInt8) ∉ [] := List.not_mem_nil

def nothing : CString := ⟨[],nil_terminated⟩

/-- What a record says when nothing stands behind it. -/
def said (r : IdentityBytes) : NodeIdentity := r.read nothing

namespace Site

abbrev Node (site : Site) : Type := site.Sensors ⊕ site.Actuators

def sensorId (site : Site) (s : site.Sensors) : NodeIdentity := said (site.sensor s)
def actuatorId (site : Site) (a : site.Actuators) : NodeIdentity := said (site.actuator a)

def address (site : Site) : site.Node → Ipv6Addr := Sum.elim (fun s => (site.sensor s).ipAddr) fun a => (site.actuator a).ipAddr

end Site

/-- `uplink` holds the requests on their way to the gateway, of which an actuator makes
registrations only; `downlink` the gateway's messages. -/
structure State (site : Site) where
  server : Gateway.Server
  sensor : ∀ s, Sensor.Node (site.detector s)
  actuator : site.Actuators → Actuator.Node
  uplink : site.Node → List Sensor.Uri
  downlink : site.Node → List (Gateway.Message × Gateway.Uri)

variable {site : Site} {gnrc : Gnrc}

def boot (site : Site) : State site where
  server := Gateway.start
  sensor s := Sensor.boot (site.detector s)
  actuator _ := Actuator.boot
  uplink _ := []
  downlink _ := []

/-- What gave the alarm a cause. -/
inductive Cause (site : Site) where
  | tap (s : site.Sensors)
  | test
  | silence
  deriving DecidableEq

inductive Event (site : Site) where
  | gateway (event : Gateway.Event)
  | heard (n : site.Node) (uri : Sensor.Uri)
  | ticked
  | roused (cause : Cause site)
  | sensor (s : site.Sensors) (event : Sensor.Event)
  | actuator (a : site.Actuators) (event : Actuator.Event)
  deriving DecidableEq

/-- What the gateway does of its own; a request or a message that arrives, from any place
among those under way, and possibly once more later; one that is lost; and a node's own
move. `leftover`, `behind` and `read` are what the receiver's memory adds to a payload. -/
inductive Action (site : Site) where
  | gateway (action : Gateway.Action)
  | hear (n : site.Node) (place : Nat) (copy : Bool) (leftover : Stream' UInt8) (behind : CString)
  | deliver (n : site.Node) (place : Nat) (copy : Bool) (read : CString)
  | loseRequest (n : site.Node) (place : Nat)
  | loseMessage (n : site.Node) (place : Nat)
  | sensor (s : site.Sensors) (move : Sensor.Move (site.detector s))
  | actuator (a : site.Actuators) (move : Actuator.Move)

/-- What is under way at the place, and what is left under way. -/
def pick (channel : List α) (place : Nat) (copy : Bool) : Option (α × List α) :=
  channel[place]?.map fun message => (message,if copy then channel else channel.eraseIdx place)

/-- The strings that a node can read where the message was put: the payload is cut to four
bytes, and a longer string goes on in the buffer. -/
def reads (message : Gateway.Message) (read : CString) : Bool :=
  if strlen message.payload < Wire.MESSAGE_SIZE then read = message.payload
  else message.payload.chars.isPrefixOf read.chars

/-- The handler that a request is given to. -/
def request (site : Site) (leftover : Stream' UInt8) (behind : CString) : site.Node → Sensor.Uri → Gateway.Handler
  | .inl s, .register => .register .sensor (Gateway.decode (site.sensor s).coapRegisterPut leftover behind)
  | .inl s, .status => .status (Gateway.decode (site.sensor s).coapStatusPut leftover behind)
  | .inl s, .fire => .tap (Gateway.decode (site.sensor s).coapStatusPut leftover behind)
  | .inr a, _ => .register .actuator (Gateway.decode (site.actuator a).coapRegisterPut leftover behind)

/-- The message that an event sends to the address. -/
def addressed (ipAddr : Ipv6Addr) : Gateway.Event → Option (Gateway.Message × Gateway.Uri)
  | .sent message uri remote => if remote.addr = ipAddr then some (message,uri) else none
  | _ => none

/-- What a step of the gateway shows: what it answers to, the cause that it gives the alarm,
and the gateway's own events. -/
def served (s t : Gateway.Server) (events : List Gateway.Event) (notes : List (Event site)) (cause : Option (Cause site)) :
    List (Event site) :=
  notes ++ ((if Gateway.roused s.globals t.globals events then (cause.map Event.roused).toList else []) ++
    events.map .gateway)

/-- A step of the gateway, whose messages are under way from here on. -/
def serve (gnrc : Gnrc) (w : State site) (action : Gateway.Action) (notes : List (Event site)) (cause : Option (Cause site)) :
    Option (State site × List (Event site)) :=
  (Gateway.step gnrc w.server action).map fun (server,events) =>
    ({ w with server, downlink := fun n => w.downlink n ++ events.filterMap (addressed (site.address n)) },
      served w.server server events notes cause)

/-- Requests come from the nodes. -/
def asks : Gateway.Action → Bool
  | .run (.register _ _) => true
  | .run (.status _) => true
  | .run (.tap _) => true
  | _ => false

def ownNotes : Gateway.Action → List (Event site)
  | .run .wdt => [.ticked]
  | _ => []

def ownCause : Gateway.Action → Option (Cause site)
  | .run .testButton => some .test
  | .run .wdt => some .silence
  | _ => none

def tapCause : site.Node → Option (Cause site)
  | .inl s => some (.tap s)
  | .inr _ => none

def sentUri : Sensor.Event → Option Sensor.Uri
  | .sent uri => some uri
  | _ => none

def sentRegister : Actuator.Event → Option Sensor.Uri
  | .sentRegister => some .register
  | _ => none

/-- A step of a sensor, whose requests are under way from here on. -/
def sensorStep (w : State site) (s : site.Sensors) (move : Sensor.Move (site.detector s)) :
    Option (State site × List (Event site)) :=
  (Sensor.step (w.sensor s) move).map fun (node,events) =>
    ({ w with
        sensor := Function.update w.sensor s node
        uplink := Function.update w.uplink (.inl s) (w.uplink (.inl s) ++ events.filterMap sentUri) },
      events.map (.sensor s))

def actuatorStep (w : State site) (a : site.Actuators) (move : Actuator.Move) : Option (State site × List (Event site)) :=
  (Actuator.step (w.actuator a) move).map fun (node,events) =>
    ({ w with
        actuator := Function.update w.actuator a node
        uplink := Function.update w.uplink (.inr a) (w.uplink (.inr a) ++ events.filterMap sentRegister) },
      events.map (.actuator a))

/-- A sensor has no "/actuator/beep". -/
def arrive (w : State site) (uri : Gateway.Uri) (read : CString) : site.Node → Option (State site × List (Event site))
  | .inl s =>
    match uri with
    | .register => sensorStep w s (.message (some read))
    | .beeper => some (w,[])
  | .inr a => actuatorStep w a (.message uri (some read))

def isMessage : Actuator.Move → Bool
  | .message _ _ => true
  | _ => false

def sensorIsMessage : Sensor.Move d → Bool
  | .message _ => true
  | _ => false

def step (gnrc : Gnrc) : Step (State site) (Action site) (Event site)
  | w,.gateway action => if asks action then none else serve gnrc w action (ownNotes action) (ownCause action)
  | w,.hear n place copy leftover behind =>
    match pick (w.uplink n) place copy with
    | none => none
    | some (uri,rest) =>
      serve gnrc { w with uplink := Function.update w.uplink n rest } (.run (request site leftover behind n uri))
        [.heard n uri] (tapCause n)
  | w,.deliver n place copy read =>
    match pick (w.downlink n) place copy with
    | none => none
    | some ((message,uri),rest) =>
      if reads message read then arrive { w with downlink := Function.update w.downlink n rest } uri read n else none
  | w,.loseRequest n place => some ({ w with uplink := Function.update w.uplink n ((w.uplink n).eraseIdx place) },[])
  | w,.loseMessage n place => some ({ w with downlink := Function.update w.downlink n ((w.downlink n).eraseIdx place) },[])
  | w,.sensor s move => if sensorIsMessage move then none else sensorStep w s move
  | w,.actuator a move => if isMessage move then none else actuatorStep w a move

/-- The ways in which a step is taken. -/
inductive Taken (gnrc : Gnrc) (w : State site) : Action site → State site → List (Event site) → Prop where
  | gateway : asks action = false → serve gnrc w action (ownNotes action) (ownCause action) = some (w',es) →
      Taken gnrc w (.gateway action) w' es
  | hear : pick (w.uplink n) place copy = some (uri,rest) →
      serve gnrc { w with uplink := Function.update w.uplink n rest } (.run (request site leftover behind n uri))
        [.heard n uri] (tapCause n) = some (w',es) →
      Taken gnrc w (.hear n place copy leftover behind) w' es
  | deliver {read : CString} : pick (w.downlink n) place copy = some ((message,uri),rest) → reads message read = true →
      arrive { w with downlink := Function.update w.downlink n rest } uri read n = some (w',es) →
      Taken gnrc w (.deliver n place copy read) w' es
  | loseRequest : Taken gnrc w (.loseRequest n place)
      { w with uplink := Function.update w.uplink n ((w.uplink n).eraseIdx place) } []
  | loseMessage : Taken gnrc w (.loseMessage n place)
      { w with downlink := Function.update w.downlink n ((w.downlink n).eraseIdx place) } []
  | sensor {move : Sensor.Move (site.detector s)} : sensorIsMessage move = false → sensorStep w s move = some (w',es) → Taken gnrc w (.sensor s move) w' es
  | actuator : isMessage move = false → actuatorStep w a move = some (w',es) → Taken gnrc w (.actuator a move) w' es

theorem step_taken {w w' : State site} {es : List (Event site)} (taken : step gnrc w action = some (w',es)) :
    Taken gnrc w action w' es := by
  cases action with
  | gateway action =>
    simp only [step] at taken
    split at taken
    next => contradiction
    next own => exact .gateway (by simpa using own) taken
  | hear n place copy leftover behind =>
    simp only [step] at taken
    split at taken
    next => contradiction
    next picked => exact .hear picked taken
  | deliver n place copy read =>
    simp only [step] at taken
    split at taken
    next => contradiction
    next picked =>
      split at taken
      next heard => exact .deliver picked heard taken
      next => contradiction
  | loseRequest n place =>
    cases taken
    exact .loseRequest
  | loseMessage n place =>
    cases taken
    exact .loseMessage
  | sensor s move =>
    simp only [step] at taken
    split at taken
    next => contradiction
    next own => exact .sensor (by simpa using own) taken
  | actuator a move =>
    simp only [step] at taken
    split at taken
    next => contradiction
    next own => exact .actuator (by simpa using own) taken

/-! What is under way when one message has been picked. -/

theorem pick_mem {channel rest : List α} (picked : pick channel place copy = some (message,rest)) :
    message ∈ channel ∧ ∀ x ∈ rest, x ∈ channel := by
  obtain ⟨here, found, same⟩ := Option.map_eq_some_iff.mp picked
  cases same
  refine ⟨List.mem_of_getElem? found, fun x member => ?_⟩
  split at member
  · exact member
  · exact List.mem_of_mem_eraseIdx member

theorem pick_count [BEq α] [LawfulBEq α] {channel rest : List α} (picked : pick channel place copy = some (message,rest))
    (x : α) :
    channel.count x ≤ rest.count x + (if message == x then 1 else 0) ∧
      (copy = false → channel.count x = rest.count x + if message == x then 1 else 0) := by
  obtain ⟨here, found, same⟩ := Option.map_eq_some_iff.mp picked
  cases same
  obtain ⟨inside, rfl⟩ := List.getElem?_eq_some_iff.mp found
  cases copy with
  | true => simp
  | false =>
    have same := (List.getElem_cons_eraseIdx_perm inside).count_eq x
    rw [List.count_cons] at same
    simp [same]

/-! What a step of the gateway shows. -/

/-- What the gateway answers to. -/
def note : Event site → Bool
  | .heard _ _ => true
  | .ticked => true
  | _ => false

theorem plain_own (action : Gateway.Action) : ∀ e ∈ (ownNotes action : List (Event site)), note e = true := by
  cases action with
  | run handler => cases handler <;> simp [ownNotes, note]
  | _ => simp [ownNotes]

section
variable {s t : Gateway.Server} {events : List Gateway.Event} {notes : List (Event site)} {cause : Option (Cause site)}

theorem served_cases {e : Event site} (shown : e ∈ served s t events notes cause) :
    e ∈ notes ∨ (∃ c, e = .roused c ∧ cause = some c ∧ Gateway.roused s.globals t.globals events = true) ∨
      ∃ event ∈ events, e = .gateway event := by
  rcases List.mem_append.mp shown with noted | rest
  · exact .inl noted
  rcases List.mem_append.mp rest with given | own
  · split at given
    next rose =>
      obtain ⟨c, same, is⟩ : ∃ c, cause = some c ∧ Event.roused c = e := by simpa using given
      exact .inr (.inl ⟨c, is.symm, same, rose⟩)
    next => simp at given
  · obtain ⟨event, member, same⟩ := List.mem_map.mp own
    exact .inr (.inr ⟨event, member, same.symm⟩)

/-- Anything else is only noted. -/
theorem served_count (e : Event site) (unroused : ∀ c, e ≠ .roused c) (foreign : ∀ event, e ≠ .gateway event) :
    (served s t events notes cause).count e = notes.count e := by
  have given : e ∉ (if Gateway.roused s.globals t.globals events then (cause.map Event.roused).toList else []) := by
    intro member
    split at member
    next =>
      obtain ⟨c, -, same⟩ : ∃ c, cause = some c ∧ Event.roused c = e := by simpa using member
      exact unroused c same.symm
    next => simp at member
  have own : e ∉ events.map .gateway := by
    intro member
    obtain ⟨event, -, same⟩ := List.mem_map.mp member
    exact foreign event same.symm
  simp only [served, List.count_append, List.count_eq_zero.mpr given, List.count_eq_zero.mpr own, Nat.add_zero]

/-- Of the gateway's own events it shows these and no others. -/
theorem gateway_shown (plain : ∀ e ∈ notes, note e = true) (event : Gateway.Event) :
    .gateway event ∈ served s t events notes cause ↔ event ∈ events := by
  constructor
  · intro shown
    rcases served_cases shown with noted | ⟨c, same, -⟩ | ⟨event', member, same⟩
    · exact absurd (plain _ noted) (by simp [note])
    · cases same
    · cases same
      exact member
  · intro member
    exact List.mem_append_right _ (List.mem_append_right _ (List.mem_map.mpr ⟨event, member, rfl⟩))

end

/-! What the bytes of a request and of a message can be read as. -/

theorem eq_of_chars {s t : CString} (same : s.chars = t.chars) : s = t := by
  cases s; cases t
  simpa using same

/-- The reading of a message is that of some buffer. -/
theorem reads_iff (message : Gateway.Message) (read : CString) :
    reads message read = true ↔
      ∃ beyond leftover, Spells (Wire.received (Wire.coapPut message.payload beyond) leftover).payload read.chars := by
  by_cases short : strlen message.payload < 4
  · have spelled : ∀ beyond leftover,
        Spells (Wire.received (Wire.coapPut message.payload beyond) leftover).payload message.payload.chars :=
      fun beyond leftover => (Wire.coapPut_readBack_iff message.payload beyond leftover).mpr (.inl short)
    simp only [reads, Wire.MESSAGE_SIZE, short, if_true, decide_eq_true_eq]
    constructor
    · rintro rfl
      exact ⟨Stream'.const 0, Stream'.const 0, spelled _ _⟩
    · rintro ⟨beyond, leftover, here⟩
      exact eq_of_chars (here.unique (spelled beyond leftover) read.terminated message.payload.terminated)
  · have four : message.payload.chars.length = Wire.MESSAGE_SIZE := by
      cases message <;> first | rfl | exact absurd (by decide) short
    have whole : ∀ beyond, Wire.coapPut message.payload beyond = message.payload.chars := by
      intro beyond
      rw [Wire.coapPut, Stream'.take_append_of_le_length _ _ _ (Nat.le_of_eq four.symm), ← four]
      exact List.take_length
    simp only [reads, Wire.MESSAGE_SIZE, short, if_false, List.isPrefixOf_iff_prefix, whole, Wire.received]
    constructor
    · rintro ⟨more, longer⟩
      refine ⟨Stream'.const 0, more ++ₛ Stream'.cons 0 (Stream'.const 0), ?_⟩
      rw [← longer, spells_append]
      exact ⟨Stream'.const 0, rfl⟩
    · rintro ⟨-, leftover, here⟩
      exact here.prefix_of_plain message.payload.terminated

/-- A command that a handler acts on is the one that was sent. -/
theorem read_command {message command : Gateway.Message} {read : CString} (heard : reads message read = true)
    (known : read = command.payload) : message = command := by
  subst known
  cases message <;> cases command <;> first | rfl | exact absurd heard (by decide)

/-- Behind its name field a record is not read for its name. -/
theorem read_name (r : IdentityBytes) (ends : 0 ∈ r.bytes.take 10) (more : List UInt8) :
    text (r.bytes.take 10 ++ more) = (said r).name.chars := by
  have whole : r.bytes ++ [] = r.bytes.take 10 ++ r.bytes.drop 10 := by rw [List.append_nil, List.take_append_drop]
  rw [text_append_of_mem _ _ ends]
  change _ = text (r.bytes ++ [])
  rw [whole, text_append_of_mem _ _ ends]

/-- A registration says the node's name and address. -/
theorem decode_register (r : IdentityBytes) (ends : 0 ∈ r.bytes.take 10) (leftover : Stream' UInt8) (behind : CString) :
    Gateway.decode r.coapRegisterPut leftover behind = some (said r) := by
  have filled : r.coapRegisterPut.length ≠ 0 := by simp [IdentityBytes.coapRegisterPut, r.size]
  have whole : r.bytes ++ behind.chars = r.bytes.take 10 ++ (r.bytes.drop 10 ++ behind.chars) := by
    rw [← List.append_assoc, List.take_append_drop]
  have name : (r.read behind).name = (said r).name := by
    apply eq_of_chars
    change text (r.bytes ++ behind.chars) = _
    rw [whole, read_name r ends]
  rw [Gateway.decode, if_pos filled, IdentityBytes.copied_register]
  exact congrArg some (congrArg (fun name => (⟨name,r.ipAddr⟩ : NodeIdentity)) name)

/-- A status report says the node's name, and some address. -/
theorem decode_status (r : IdentityBytes) (ends : 0 ∈ r.bytes.take 10) (leftover : Stream' UInt8) (behind : CString) :
    ∃ ipAddr, Gateway.decode r.coapStatusPut leftover behind = some ⟨(said r).name,ipAddr⟩ := by
  have size : r.coapStatusPut.length = 10 := by simp [IdentityBytes.coapStatusPut, r.size]
  have copied := Gateway.copied_short r.coapStatusPut leftover (by omega)
  have name : ((IdentityBytes.copied r.coapStatusPut leftover).read behind).name = (said r).name := by
    apply eq_of_chars
    change text ((IdentityBytes.copied r.coapStatusPut leftover).bytes ++ behind.chars) = _
    rw [copied, List.append_assoc]
    exact read_name r ends _
  refine ⟨(IdentityBytes.copied r.coapStatusPut leftover).ipAddr, ?_⟩
  rw [Gateway.decode, if_pos (by omega)]
  exact congrArg some (congrArg (fun name => (⟨name,_⟩ : NodeIdentity)) name)

end RiotAlarm.Installation
