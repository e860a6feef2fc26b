import RiotAlarm.GatewayMap
import RiotAlarm.GatewayList

/-! The gateway's shared state and the functions that work on it. Each of them runs
to completion here; where the code can be preempted in between is said by the
modules that schedule them. -/
namespace RiotAlarm.Gateway

/-- Which of the two stores, pending names and request paths is meant. -/
inductive Kind where
  | sensor
  | actuator
  deriving DecidableEq, Repr

/-- `REGISTER_RESPONSE`, `DEREGISTER_RESPONSE`, `TURN_ON_ALARM` and `TURN_OFF_ALARM`. -/
inductive Message where
  | auth
  | deau
  | on
  | off
  deriving DecidableEq, Repr

/-- The payload that `coap_put` is called with. -/
def Message.payload : Message → CString
  | .auth => REGISTER_RESPONSE
  | .deau => DEREGISTER_RESPONSE
  | .on => ⟨[79, 78], by decide⟩
  | .off => ⟨[79, 70, 70], by decide⟩

/-- `REGISTER_RESPONSE_URI` and `BEEPER_URI`. -/
inductive Uri where
  | register
  | beeper
  deriving DecidableEq, Repr

inductive LogMessage where
  | sensorAuthorized
  | sensorDeauthorized
  | actuatorAuthorized
  | actuatorDeauthorized
  | alarmEngaged
  | alarmDisengaged
  | testAlarm
  | sensorFired
  deriving DecidableEq, Repr

inductive Code where
  | changed
  | badRequest
  deriving DecidableEq, Repr

/-- A shell line: the function it names and its arguments, `argc - 1` of them. -/
inductive Command where
  | auth (kind : Kind) (args : List CString)
  | deauth (kind : Kind) (args : List CString)
  | engage (args : List CString)
  | disengage (args : List CString)
  | showActuators (args : List CString)
  | showLog (args : List CString)
  deriving DecidableEq

/-- What a run shows: messages sent, log entries, and the moments that the
properties speak of. A message is sent when `coap_put` is called for it; whether it went
out is the call's result, which none of the callers looks at. -/
inductive Event where
  | sent (message : Message) (uri : Uri) (remote : SockUdpEp)
  | logged (message : LogMessage) (name : Option CString)
  | invoked (command : Command)
  | stored (kind : Kind) (name : CString) (remote : SockUdpEp)
  | raised
  | engaged
  | deactivated
  deriving DecidableEq

/-- The global variables. A pending name is `none` while the pointer is NULL. -/
structure Globals where
  htSensor : SensorTable
  actuators : ActuatorList
  sensorId : Option CString
  actuatorId : Option CString
  isRegistered : Bool
  isEngaged : Bool
  isSensorFired : Bool
  isTimeout : Bool

def init : Globals where
  htSensor := .empty
  actuators := .empty
  sensorId := none
  actuatorId := none
  isRegistered := false
  isEngaged := false
  isSensorFired := false
  isTimeout := false

namespace Globals

def pending (g : Globals) : Kind → Option CString
  | .sensor => g.sensorId
  | .actuator => g.actuatorId

def setPending (g : Globals) (id : Option CString) : Kind → Globals
  | .sensor => { g with sensorId := id }
  | .actuator => { g with actuatorId := id }

/-- Whether the store has an entry with the name. -/
def holds (g : Globals) : Kind → CString → Bool
  | .sensor, name => (g.htSensor.view name).isSome
  | .actuator, name => g.actuators.toList.any (·.1 = name)

end Globals

def sendRegisterResponse (remote : SockUdpEp) : Event := .sent .auth .register remote
def sendDeregisterResponse (remote : SockUdpEp) : Event := .sent .deau .register remote

/-- The bytes of an entry in front of its `remote`: `char name[10]` and the padding behind. -/
def NAME_SPACE : Nat := 12

/-- The copied name and its terminator end before `remote.family`, which is written after
them. A longer name is stored with that field over its thirteenth character. -/
def fits (payload : Option NodeIdentity) : Bool := payload.all fun id => strlen id.name < NAME_SPACE

/-- `ht_set` may find the name in the table already; then nothing is linked in. The name is
kept as it is told, which is what the entry holds if it fits. -/
def addSensorEntry (gnrc : Gnrc) (g : Globals) (sensorId : NodeIdentity) (ipv6Addr : CString) :
    Globals × List Event :=
  let remote := entryRemote gnrc sensorId.ipAddr ipv6Addr
  if remote.port = 0 then (g,[])
  else
    let (htSensor,linked) := g.htSensor.set sensorId.name remote
    ({ g with htSensor },if linked then [.stored .sensor sensorId.name remote] else [])

/-- As for a sensor, the name is kept as it is told. -/
def addActuatorEntry (gnrc : Gnrc) (g : Globals) (actuatorId : NodeIdentity) (ipv6Addr : CString) :
    Globals × List Event :=
  let remote := entryRemote gnrc actuatorId.ipAddr ipv6Addr
  if remote.port = 0 then (g,[])
  else ({ g with actuators := g.actuators.insertNode actuatorId.name remote },
    [.stored .actuator actuatorId.name remote])

def removeSensor (g : Globals) (name : CString) : Globals × Nat × List Event :=
  let (htSensor,code,sent) := g.htSensor.del name
  ({ g with htSensor },code,sent.map sendDeregisterResponse)

def removeActuator (g : Globals) (name : CString) : Globals × Nat × List Event :=
  let (actuators,code,sent) := g.actuators.deleteNode name
  ({ g with actuators },code,sent.map sendDeregisterResponse)

def activateAlarm (g : Globals) : Globals × List Event :=
  ({ g with isSensorFired := true },[.raised])

def deactivateAlarm (g : Globals) : Globals × List Event :=
  ({ g with isEngaged := false, isSensorFired := false, isTimeout := false },
    [.deactivated,.logged .alarmDisengaged none])

def disEngageIntrp (g : Globals) : Globals × List Event := deactivateAlarm g

def testIntrp (g : Globals) : Globals × List Event :=
  if g.isEngaged then
    let (g,events) := activateAlarm g
    (g,events ++ [.logged .testAlarm none])
  else (g,[])

/-- One turn of `wdt_thread`. -/
def wdtThread (g : Globals) : Globals :=
  let (htSensor,isTimeout) := g.htSensor.wdt g.isEngaged g.isTimeout
  { g with htSensor, isTimeout }

/-- One call of `coap_put` for each node; the loop goes on whatever it returns. -/
def traverseAndFire (g : Globals) : List Event :=
  g.actuators.traverse fun node => .sent .on .beeper node.2

/-- One turn of `alarm_thread`. -/
def alarmThread (g : Globals) : Globals × List Event :=
  if (g.isTimeout || g.isSensorFired) && g.isEngaged then
    ({ g with isTimeout := false },traverseAndFire g)
  else (g,[])

/-! What the stores hold after each of these. -/

namespace Globals
variable (g : Globals)

@[simp] theorem pending_setPending (id : Option CString) (kind other : Kind) :
    (g.setPending id kind).pending other = if other = kind then id else g.pending other := by
  cases kind <;> cases other <;> rfl

@[simp] theorem holds_setPending (id : Option CString) (kind other : Kind) (name : CString) :
    (g.setPending id kind).holds other name = g.holds other name := by
  cases kind <;> cases other <;> rfl

@[simp] theorem isRegistered_setPending (id : Option CString) (kind : Kind) :
    (g.setPending id kind).isRegistered = g.isRegistered := by cases kind <;> rfl

@[simp] theorem isEngaged_setPending (id : Option CString) (kind : Kind) :
    (g.setPending id kind).isEngaged = g.isEngaged := by cases kind <;> rfl

@[simp] theorem isSensorFired_setPending (id : Option CString) (kind : Kind) :
    (g.setPending id kind).isSensorFired = g.isSensorFired := by cases kind <;> rfl

@[simp] theorem isTimeout_setPending (id : Option CString) (kind : Kind) :
    (g.setPending id kind).isTimeout = g.isTimeout := by cases kind <;> rfl

@[simp] theorem htSensor_setPending (id : Option CString) (kind : Kind) :
    (g.setPending id kind).htSensor = g.htSensor := by cases kind <;> rfl

@[simp] theorem actuators_setPending (id : Option CString) (kind : Kind) :
    (g.setPending id kind).actuators = g.actuators := by cases kind <;> rfl

end Globals

/-- The name is new to the table, so the entry is linked in and reported. -/
theorem addSensorEntry_spec (gnrc : Gnrc) (g : Globals) (id : NodeIdentity) (ipv6Addr : CString)
    (absent : g.holds .sensor id.name = false) :
    ∃ htSensor, addSensorEntry gnrc g id ipv6Addr =
        ({ g with htSensor },[.stored .sensor id.name (entryRemote gnrc id.ipAddr ipv6Addr)]) ∧
      htSensor.view = Function.update g.htSensor.view id.name
        (some ⟨entryRemote gnrc id.ipAddr ipv6Addr,0⟩) := by
  have fresh : g.htSensor.view id.name = none := by simpa [Globals.holds] using absent
  obtain ⟨linked, view⟩ := g.htSensor.set_spec id.name (entryRemote gnrc id.ipAddr ipv6Addr)
  rw [fresh] at linked
  rw [if_pos fresh] at view
  refine ⟨_, ?_, view⟩
  simp [addSensorEntry, entryRemote_port, linked]

theorem addActuatorEntry_spec (gnrc : Gnrc) (g : Globals) (id : NodeIdentity) (ipv6Addr : CString) :
    ∃ actuators, addActuatorEntry gnrc g id ipv6Addr =
        ({ g with actuators },[.stored .actuator id.name (entryRemote gnrc id.ipAddr ipv6Addr)]) ∧
      actuators.toList = (id.name,entryRemote gnrc id.ipAddr ipv6Addr) :: g.actuators.toList ∧
      ∀ a, g.actuators.Ends a → actuators.Ends a := by
  refine ⟨_, ?_, ActuatorList.toList_insertNode _ _ _, fun _ => ActuatorList.ends_insertNode _ _⟩
  simp [addActuatorEntry, entryRemote_port]

theorem alarmThread_sends (g : Globals) (cause : g.isTimeout = true ∨ g.isSensorFired = true)
    (engaged : g.isEngaged = true) :
    alarmThread g = ({ g with isTimeout := false },
      g.actuators.toList.map fun node => .sent .on .beeper node.2) := by
  have test : ((g.isTimeout || g.isSensorFired) && g.isEngaged) = true := by simpa [engaged] using cause
  simp [alarmThread, test, traverseAndFire, ActuatorList.traverse_eq]

end RiotAlarm.Gateway
