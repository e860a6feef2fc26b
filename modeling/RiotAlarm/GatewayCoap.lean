import RiotAlarm.GatewayNode

/-! The gateway's four request handlers. A request without payload is `none`. The
two registration handlers are then described together: a request is accepted, makes
the gateway forget the pending name, or changes nothing. -/
namespace RiotAlarm.Gateway

def sensorRegisterHandler (gnrc : Gnrc) (g : Globals) (payload : Option NodeIdentity) :
    Globals × List Event × Code :=
  match g.sensorId with
  | none => (g,[],.badRequest)
  | some pending =>
    match payload with
    | none => (g,[],.badRequest)
    | some sensorId =>
      let ipv6Addr := gnrc.addrToStr sensorId.ipAddr
      if strcmpResult (g.htSensor.get sensorId.name) sensorId.name = 0 then (g,[],.badRequest)
      else if strcmp pending sensorId.name = 0 then
        let (g,events) := addSensorEntry gnrc { g with isRegistered := true } sensorId ipv6Addr
        (g,events,.changed)
      else ({ g with sensorId := none },[],.badRequest)

/-- Unlike the sensor's handler this one asks for the pending name, not the received
one, and forgets the pending name on an empty payload too. -/
def actuatorRegisterHandler (gnrc : Gnrc) (g : Globals) (payload : Option NodeIdentity) :
    Globals × List Event × Code :=
  match g.actuatorId with
  | none => (g,[],.badRequest)
  | some pending =>
    match payload with
    | none => ({ g with actuatorId := none },[],.badRequest)
    | some actuatorId =>
      let ipv6Addr := gnrc.addrToStr actuatorId.ipAddr
      if g.actuators.nodeExists pending = 0 then (g,[],.badRequest)
      else if strcmp pending actuatorId.name = 0 then
        let (g,events) := addActuatorEntry gnrc { g with isRegistered := true } actuatorId ipv6Addr
        (g,events,.changed)
      else ({ g with actuatorId := none },[],.badRequest)

def sensorStatusHandler (g : Globals) (payload : Option NodeIdentity) : Globals × Code :=
  match payload with
  | none => (g,.badRequest)
  | some sensorId =>
    if strcmpResult (g.htSensor.get sensorId.name) sensorId.name = 0 then
      ({ g with htSensor := g.htSensor.updateTime sensorId.name },.changed)
    else (g,.badRequest)

def sensorTapHandler (g : Globals) (payload : Option NodeIdentity) : Globals × List Event × Code :=
  match payload with
  | none => (g,[],.badRequest)
  | some sensorId =>
    if strcmpResult (g.htSensor.get sensorId.name) sensorId.name = 0 then
      if g.isEngaged then
        let (g,events) := activateAlarm g
        (g,events ++ [.logged .sensorFired (some sensorId.name)],.changed)
      else (g,[.logged .sensorFired (some sensorId.name)],.changed)
    else (g,[],.badRequest)

def registerHandler (gnrc : Gnrc) (kind : Kind) (g : Globals) (payload : Option NodeIdentity) :
    Globals × List Event × Code :=
  match kind with
  | .sensor => sensorRegisterHandler gnrc g payload
  | .actuator => actuatorRegisterHandler gnrc g payload

/-- The lookup that every sensor handler makes before it believes a name. -/
theorem lookup_eq_zero (g : Globals) (name : CString) :
    strcmpResult (g.htSensor.get name) name = 0 ↔ g.holds .sensor name = true := by
  rw [strcmpResult_eq_zero, SensorTable.get_spec, Globals.holds]
  cases (g.htSensor.view name) <;> simp

theorem nodeExists_eq_zero (g : Globals) (name : CString) :
    g.actuators.nodeExists name = 0 ↔ g.holds .actuator name = true := by
  rw [ActuatorList.nodeExists_eq, Globals.holds]
  cases g.actuators.toList.any (·.1 = name) <;> simp

namespace Globals

/-- The request carries the pending name, which is not stored yet. -/
def accepts (g : Globals) (kind : Kind) : Option NodeIdentity → Bool
  | none => false
  | some id => g.pending kind = some id.name && !g.holds kind id.name

/-- The request makes the gateway forget the name that the shell waits for. -/
def forgets (g : Globals) : Kind → Option NodeIdentity → Bool
  | .sensor,none => false
  | .sensor,some id => g.sensorId.isSome && g.sensorId ≠ some id.name && !g.holds .sensor id.name
  | .actuator,none => g.actuatorId.isSome
  | .actuator,some id =>
    g.actuatorId.isSome && g.actuatorId ≠ some id.name && !g.actuatorId.any (g.holds .actuator)

/-- What an accepted request leaves behind. -/
structure Registered (gnrc : Gnrc) (g : Globals) (kind : Kind) (id : NodeIdentity) (g' : Globals) : Prop where
  pending : ∀ other, g'.pending other = g.pending other
  holds : ∀ other name, g'.holds other name = (g.holds other name || (other = kind && name = id.name))
  isRegistered : g'.isRegistered = true
  isEngaged : g'.isEngaged = g.isEngaged
  isSensorFired : g'.isSensorFired = g.isSensorFired
  isTimeout : g'.isTimeout = g.isTimeout
  actuators : kind = .sensor → g'.actuators = g.actuators
  nodes : kind = .actuator → g'.actuators.toList =
    (id.name,entryRemote gnrc id.ipAddr (gnrc.addrToStr id.ipAddr)) :: g.actuators.toList
  ends : ∀ a, g.actuators.Ends a → g'.actuators.Ends a
  sensors : kind = .actuator → g'.htSensor = g.htSensor
  view : kind = .sensor → g'.htSensor.view = Function.update g.htSensor.view id.name
    (some ⟨entryRemote gnrc id.ipAddr (gnrc.addrToStr id.ipAddr),0⟩)

end Globals

theorem sensorRegister_accepts (gnrc : Gnrc) (g : Globals) (id : NodeIdentity)
    (pending : g.sensorId = some id.name) (absent : g.holds .sensor id.name = false) :
    ∃ g', sensorRegisterHandler gnrc g (some id) = (g',
        [.stored .sensor id.name (entryRemote gnrc id.ipAddr (gnrc.addrToStr id.ipAddr))],.changed) ∧
      g.Registered gnrc .sensor id g' := by
  have unknown : ¬ strcmpResult (g.htSensor.get id.name) id.name = 0 := by
    rw [lookup_eq_zero, absent]
    simp
  obtain ⟨htSensor, added, view⟩ := addSensorEntry_spec gnrc { g with isRegistered := true } id
    (gnrc.addrToStr id.ipAddr) absent
  refine ⟨{ g with isRegistered := true, htSensor }, ?_, ?_⟩
  · unfold sensorRegisterHandler
    split
    next missing => simp [pending] at missing
    next name waiting =>
      obtain rfl : id.name = name := Option.some.inj (pending.symm.trans waiting)
      simp only [unknown, ↓reduceIte, strcmp_eq_zero, added]
  · constructor <;> intros <;> try rfl
    case holds other name =>
      cases other with
      | sensor =>
        by_cases same : name = id.name <;> simp [Globals.holds, view, Function.update, same]
      | actuator => simp [Globals.holds]
    case nodes => contradiction
    case ends held => exact held
    case sensors => contradiction
    case view => exact view

theorem actuatorRegister_accepts (gnrc : Gnrc) (g : Globals) (id : NodeIdentity)
    (pending : g.actuatorId = some id.name) (absent : g.holds .actuator id.name = false) :
    ∃ g', actuatorRegisterHandler gnrc g (some id) = (g',
        [.stored .actuator id.name (entryRemote gnrc id.ipAddr (gnrc.addrToStr id.ipAddr))],.changed) ∧
      g.Registered gnrc .actuator id g' := by
  have unknown : ¬ g.actuators.nodeExists id.name = 0 := by
    rw [nodeExists_eq_zero, absent]
    simp
  obtain ⟨actuators, added, nodes, ends⟩ := addActuatorEntry_spec gnrc { g with isRegistered := true } id
    (gnrc.addrToStr id.ipAddr)
  refine ⟨{ g with isRegistered := true, actuators }, ?_, ?_⟩
  · unfold actuatorRegisterHandler
    split
    next missing => simp [pending] at missing
    next name waiting =>
      obtain rfl : id.name = name := Option.some.inj (pending.symm.trans waiting)
      simp only [unknown, ↓reduceIte, strcmp_eq_zero, added]
  · constructor <;> intros <;> try rfl
    case holds other name =>
      cases other with
      | sensor => simp [Globals.holds]
      | actuator => simp [Globals.holds, nodes, Bool.or_comm, eq_comm]
    case actuators => contradiction
    case nodes => exact nodes
    case ends held => exact ends _ held
    case view => contradiction

/-- Everything a registration request can do. -/
theorem register_cases (gnrc : Gnrc) (kind : Kind) (g : Globals) (payload : Option NodeIdentity) :
    (∃ id g', payload = some id ∧ g.accepts kind payload = true ∧ g.pending kind = some id.name ∧
      g.holds kind id.name = false ∧
      registerHandler gnrc kind g payload = (g',
        [.stored kind id.name (entryRemote gnrc id.ipAddr (gnrc.addrToStr id.ipAddr))],.changed) ∧
      g.Registered gnrc kind id g') ∨
    (g.forgets kind payload = true ∧
      registerHandler gnrc kind g payload = (g.setPending none kind,[],.badRequest)) ∨
    registerHandler gnrc kind g payload = (g,[],.badRequest) := by
  cases kind with
  | sensor =>
    cases waiting : g.sensorId with
    | none => exact .inr (.inr (by simp [registerHandler, sensorRegisterHandler, waiting]))
    | some pending =>
    cases payload with
    | none => exact .inr (.inr (by simp [registerHandler, sensorRegisterHandler, waiting]))
    | some id =>
    by_cases known : g.holds .sensor id.name = true
    · have zero := (lookup_eq_zero g id.name).mpr known
      exact .inr (.inr (by simp [registerHandler, sensorRegisterHandler, waiting, zero]))
    have absent : g.holds .sensor id.name = false := by simpa using known
    by_cases same : pending = id.name
    · subst same
      obtain ⟨g', run, registered⟩ := sensorRegister_accepts gnrc g id waiting absent
      exact .inl ⟨id, g', rfl, by simp [Globals.accepts, Globals.pending, waiting, absent], waiting, absent,
        run, registered⟩
    · have unknown := mt (lookup_eq_zero g id.name).mp known
      refine .inr (.inl ⟨by simp [Globals.forgets, waiting, same, absent], ?_⟩)
      simp [registerHandler, sensorRegisterHandler, waiting, unknown, same, Globals.setPending]
  | actuator =>
    cases waiting : g.actuatorId with
    | none => exact .inr (.inr (by simp [registerHandler, actuatorRegisterHandler, waiting]))
    | some pending =>
    cases payload with
    | none =>
      exact .inr (.inl ⟨by simp [Globals.forgets, waiting],
        by simp [registerHandler, actuatorRegisterHandler, waiting, Globals.setPending]⟩)
    | some id =>
    by_cases known : g.holds .actuator pending = true
    · have zero := (nodeExists_eq_zero g pending).mpr known
      exact .inr (.inr (by simp [registerHandler, actuatorRegisterHandler, waiting, zero]))
    have absent : g.holds .actuator pending = false := by simpa using known
    by_cases same : pending = id.name
    · subst same
      obtain ⟨g', run, registered⟩ := actuatorRegister_accepts gnrc g id waiting absent
      exact .inl ⟨id, g', rfl, by simp [Globals.accepts, Globals.pending, waiting, absent], waiting, absent,
        run, registered⟩
    · have unknown := mt (nodeExists_eq_zero g pending).mp known
      refine .inr (.inl ⟨by simp [Globals.forgets, waiting, same, absent], ?_⟩)
      simp [registerHandler, actuatorRegisterHandler, waiting, unknown, same, Globals.setPending]

/-- A status request touches one counter and nothing else. -/
theorem status_cases (g : Globals) (payload : Option NodeIdentity) :
    (∃ id, payload = some id ∧ g.holds .sensor id.name = true ∧
      sensorStatusHandler g payload = ({ g with htSensor := g.htSensor.updateTime id.name },.changed)) ∨
    ((∀ id, payload = some id → g.holds .sensor id.name = false) ∧
      sensorStatusHandler g payload = (g,.badRequest)) := by
  cases payload with
  | none => exact .inr ⟨by simp, rfl⟩
  | some id =>
    by_cases known : g.holds .sensor id.name = true
    · exact .inl ⟨id, rfl, known, by simp [sensorStatusHandler, (lookup_eq_zero g id.name).mpr known]⟩
    · have unknown := mt (lookup_eq_zero g id.name).mp known
      exact .inr ⟨by simpa using known, by simp [sensorStatusHandler, unknown]⟩

end RiotAlarm.Gateway
