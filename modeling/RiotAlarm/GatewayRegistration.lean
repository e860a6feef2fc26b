import RiotAlarm.GatewayShell

/-! Registration as it looks from outside: a pending name, a flag and a set of names,
and one rule for a request with what differs between the two handlers as parameters.
Each handler computes its rule; what a refused request changes and where the two kinds
part is then decided on the rules. -/
namespace RiotAlarm.Gateway

open Transition

/-- One kind's share of the gateway: the name that the shell waits for, the flag that
answers it, and the names stored. -/
@[ext] structure Registry where
  pending : Option CString
  isRegistered : Bool
  names : CString → Bool

namespace Registry

/-- A request with the name it carries, or with an empty payload. `asked` is the name
that the duplicate check asks for, and `closes` says whether an empty payload makes the
gateway forget the pending name. -/
def request (asked : (pending received : CString) → CString) (closes : Bool) (r : Registry) :
    Option CString → Registry × Code
  | received =>
    match r.pending,received with
    | none,_ => (r,.badRequest)
    | some _,none => (if closes then { r with pending := none } else r,.badRequest)
    | some pending,some name =>
      if r.names (asked pending name) then (r,.badRequest)
      else if pending = name then
        ({ r with isRegistered := true, names := fun other => r.names other || other = name },.changed)
      else ({ r with pending := none },.badRequest)

/-- The sensors' rule asks for the received name, the actuators' for the pending one. -/
def rule (r : Registry) : Kind → Option CString → Registry × Code
  | .sensor => r.request (fun _ received => received) false
  | .actuator => r.request (fun pending _ => pending) true

/-- Requests one after another, and the answers to them. -/
def serve (kind : Kind) : Registry → List (Option CString) → Registry × List Code
  | r,[] => (r,[])
  | r,received :: rest =>
    let (r,code) := r.rule kind received
    let (r,codes) := r.serve kind rest
    (r,code :: codes)

end Registry

def Globals.registry (g : Globals) (kind : Kind) : Registry := ⟨g.pending kind,g.isRegistered,g.holds kind⟩

theorem Globals.Registered.registry {g g' : Globals} {id : NodeIdentity}
    (registered : g.Registered gnrc kind id g') :
    g'.registry kind =
      ⟨g.pending kind,true,fun name => (g.registry kind).names name || decide (name = id.name)⟩ := by
  ext name
  · simp [Globals.registry, registered.pending]
  · exact registered.isRegistered
  · simp [Globals.registry, registered.holds]

/-- The handlers compute the rules. -/
theorem registerHandler_rule (gnrc : Gnrc) (kind : Kind) (g : Globals) (payload : Option NodeIdentity) :
    ((registerHandler gnrc kind g payload).1.registry kind,(registerHandler gnrc kind g payload).2.2) =
      (g.registry kind).rule kind (payload.map NodeIdentity.name) := by
  cases kind with
  | sensor =>
    cases waiting : g.sensorId with
    | none =>
      simp [registerHandler, sensorRegisterHandler, Registry.rule, Registry.request, Globals.registry,
        Globals.pending, waiting]
    | some pending =>
    cases payload with
    | none =>
      simp [registerHandler, sensorRegisterHandler, Registry.rule, Registry.request, Globals.registry,
        Globals.pending, waiting]
    | some id =>
    by_cases known : g.holds .sensor id.name = true
    · have zero := (lookup_eq_zero g id.name).mpr known
      simp [registerHandler, sensorRegisterHandler, Registry.rule, Registry.request, Globals.registry,
        Globals.pending, waiting, zero, known]
    have absent : g.holds .sensor id.name = false := by simpa using known
    by_cases same : pending = id.name
    · subst same
      obtain ⟨g', run, registered⟩ := sensorRegister_accepts gnrc g id waiting absent
      have after := registered.registry
      simp only [registerHandler, run, after]
      simp [Registry.rule, Registry.request, Globals.registry, Globals.pending, waiting, absent]
    · have unknown := mt (lookup_eq_zero g id.name).mp known
      simp [registerHandler, sensorRegisterHandler, Registry.rule, Registry.request, Globals.registry,
        Globals.pending, waiting, unknown, absent, same]
      rfl
  | actuator =>
    cases waiting : g.actuatorId with
    | none =>
      simp [registerHandler, actuatorRegisterHandler, Registry.rule, Registry.request, Globals.registry,
        Globals.pending, waiting]
    | some pending =>
    cases payload with
    | none =>
      simp [registerHandler, actuatorRegisterHandler, Registry.rule, Registry.request, Globals.registry,
        Globals.pending, waiting]
      rfl
    | some id =>
    by_cases known : g.holds .actuator pending = true
    · have zero := (nodeExists_eq_zero g pending).mpr known
      simp [registerHandler, actuatorRegisterHandler, Registry.rule, Registry.request, Globals.registry,
        Globals.pending, waiting, zero, known]
    have absent : g.holds .actuator pending = false := by simpa using known
    by_cases same : pending = id.name
    · subst same
      obtain ⟨g', run, registered⟩ := actuatorRegister_accepts gnrc g id waiting absent
      have after := registered.registry
      simp only [registerHandler, run, after]
      simp [Registry.rule, Registry.request, Globals.registry, Globals.pending, waiting, absent]
    · have unknown := mt (nodeExists_eq_zero g pending).mp known
      simp [registerHandler, actuatorRegisterHandler, Registry.rule, Registry.request, Globals.registry,
        Globals.pending, waiting, unknown, absent, same]
      rfl

/-- A request that makes the gateway forget the pending name is refused, and what it was
refused for is forgotten. -/
theorem forgets_spec (gnrc : Gnrc) (g : Globals) (forgets : g.forgets kind payload = true) :
    (registerHandler gnrc kind g payload).2.2 = .badRequest ∧ (g.pending kind).isSome = true ∧
      (registerHandler gnrc kind g payload).1.pending kind = none := by
  have rule := registerHandler_rule gnrc kind g payload
  obtain ⟨registry, code⟩ := Prod.mk.inj rule
  have pending := congrArg Registry.pending registry
  simp only [Globals.registry] at pending code
  rw [pending, code]
  cases kind with
  | sensor =>
    cases payload with
    | none => simp [Globals.forgets] at forgets
    | some id =>
      simp only [Globals.forgets, Bool.and_eq_true, Option.isSome_iff_exists, decide_eq_true_eq,
        Bool.not_eq_true', ne_eq] at forgets
      obtain ⟨⟨⟨name, waiting⟩, differ⟩, absent⟩ := forgets
      have other : name ≠ id.name := fun same => differ (by rw [waiting, same])
      simp [Registry.request, Globals.pending, waiting, absent, other]
  | actuator =>
    cases payload with
    | none =>
      obtain ⟨name, waiting⟩ := Option.isSome_iff_exists.mp forgets
      simp [Registry.request, Globals.pending, waiting]
    | some id =>
      simp only [Globals.forgets, Bool.and_eq_true, Option.isSome_iff_exists, decide_eq_true_eq,
        Bool.not_eq_true', ne_eq] at forgets
      obtain ⟨⟨⟨name, waiting⟩, differ⟩, absent⟩ := forgets
      have other : name ≠ id.name := fun same => differ (by rw [waiting, same])
      simp only [waiting, Option.any_some] at absent
      simp [Registry.request, Globals.pending, waiting, absent, other]

/-- A refused request leaves all of the gateway's state as it is, exactly when it is not
one of those that make the gateway forget the pending name. -/
theorem rejection_changes_nothing (gnrc : Gnrc) (kind : Kind) (g : Globals) (payload : Option NodeIdentity) :
    ((registerHandler gnrc kind g payload).2.2 = .badRequest → (registerHandler gnrc kind g payload).1 = g) ↔
      g.forgets kind payload = false := by
  constructor
  · intro unchanged
    by_contra loses
    have forgets : g.forgets kind payload = true := by simpa using loses
    obtain ⟨refused, waiting, forgotten⟩ := forgets_spec gnrc g forgets
    rw [unchanged refused] at forgotten
    simp [forgotten] at waiting
  · intro keeps refused
    rcases register_cases gnrc kind g payload with ⟨id, g', -, -, -, -, run, -⟩ | ⟨forgets, -⟩ | run
    · simp [run] at refused
    · simp [forgets] at keeps
    · rw [run]

/-- The sensor's request is accepted while it is waited for; then an actuator's name comes
in at the sensors' path. -/
def strayRequest : List Action :=
  [.type (.auth .sensor [tapsense.name]),.shell,.shell,.shell,.run (.register .sensor (some tapsense)),
    .shell,.shell]

/-- A refused request takes away the pending name that the auth command goes on to use,
and the command faults. -/
theorem rejection_stops_the_board :
    ∃ s trace, Path (step board) anything start trace s ∧
      (registerHandler board .sensor s.globals (some act2)).2.2 = .badRequest ∧
      (registerHandler board .sensor s.globals (some act2)).1.pending .sensor ≠ s.globals.pending .sensor ∧
      ∃ t later, Path (step board) anything ⟨(registerHandler board .sensor s.globals (some act2)).1,s.shell⟩ later t ∧
        t.shell = .crashed := by
  have run : ∃ s trace, Path (step board) anything start trace s ∧
      ((registerHandler board .sensor s.globals (some act2)).2.2 = .badRequest ∧
        (registerHandler board .sensor s.globals (some act2)).1.pending .sensor ≠ s.globals.pending .sensor) ∧
      (replay (step board) anything ⟨(registerHandler board .sensor s.globals (some act2)).1,s.shell⟩
        (List.replicate 3 .shell)).any (fun r => decide (r.1.shell = .crashed)) = true :=
    replay_reaches strayRequest (fun (s : Server) _ => ((registerHandler board .sensor s.globals (some act2)).2.2 =
        .badRequest ∧ (registerHandler board .sensor s.globals (some act2)).1.pending .sensor ≠
          s.globals.pending .sensor) ∧
      (replay (step board) anything ⟨(registerHandler board .sensor s.globals (some act2)).1,s.shell⟩
        (List.replicate 3 .shell)).any (fun r => decide (r.1.shell = .crashed)) = true) (by decide)
  obtain ⟨s, trace, path, ⟨refused, lost⟩, stops⟩ := run
  have crash := replay_reaches (List.replicate 3 Action.shell) (fun (t : Server) _ => t.shell = .crashed) stops
  exact ⟨s, trace, path, refused, lost, crash⟩

/-! Sensors against actuators. -/

namespace Registry
variable (r : Registry)

/-- Both rules do the same with the request: no name is pending, or it carries the pending
name or one that is stored if and only if the pending one is. -/
def alike (received : Option CString) : Bool :=
  match r.pending,received with
  | none,_ => true
  | some _,none => false
  | some pending,some name => decide (pending = name) || r.names name == r.names pending

theorem rules_agree_iff (received : Option CString) :
    r.rule .sensor received = r.rule .actuator received ↔ r.alike received = true := by
  obtain ⟨pending, isRegistered, names⟩ := r
  cases pending with
  | none => simp [rule, request, alike]
  | some pending =>
  cases received with
  | none => simp [rule, request, alike]
  | some name =>
  by_cases same : pending = name
  · subst same
    simp [rule, request, alike]
  · cases known : names name <;> cases waited : names pending <;> simp [rule, request, alike, known, waited, same]

/-- Every request of the sequence is treated alike in the state that it meets. -/
def AllAlike : Registry → List (Option CString) → Prop
  | _,[] => True
  | r,received :: rest => r.alike received = true ∧ AllAlike (r.rule .sensor received).1 rest

theorem serve_agrees_iff (requests : List (Option CString)) :
    (∀ before, before <+: requests → r.serve .sensor before = r.serve .actuator before) ↔
      r.AllAlike requests := by
  induction requests generalizing r with
  | nil => simp [AllAlike, serve]
  | cons received rest ih =>
    simp only [AllAlike, ← rules_agree_iff, ← ih]
    constructor
    · intro agree
      have first := agree [received] (by simp)
      simp only [serve, Prod.mk.injEq, List.cons.injEq, and_true] at first
      have same : r.rule .sensor received = r.rule .actuator received := Prod.ext first.1 first.2
      refine ⟨same, fun before inRest => ?_⟩
      have both := agree (received :: before) (by simpa using inRest)
      simp only [serve, Prod.mk.injEq, List.cons.injEq] at both
      rw [← same] at both
      exact Prod.ext both.1 both.2.2
    · rintro ⟨same, agree⟩ before inAll
      cases before with
      | nil => rfl
      | cons other before =>
        obtain ⟨rfl, inRest⟩ := List.cons_prefix_cons.mp inAll
        simp only [serve]
        rw [← same, agree before inRest]

end Registry

/-- Requests handled one after another, and the answers to them. -/
def serve (gnrc : Gnrc) (kind : Kind) : Globals → List (Option NodeIdentity) → Globals × List Code
  | g,[] => (g,[])
  | g,payload :: rest =>
    let (g,_,code) := registerHandler gnrc kind g payload
    let (g,codes) := serve gnrc kind g rest
    (g,code :: codes)

/-- What a sequence of requests leaves in the registry, and the answers. -/
def outcome (gnrc : Gnrc) (kind : Kind) (g : Globals) (payloads : List (Option NodeIdentity)) :
    Registry × List Code :=
  ((serve gnrc kind g payloads).1.registry kind,(serve gnrc kind g payloads).2)

theorem outcome_eq (gnrc : Gnrc) (kind : Kind) (g : Globals) (payloads : List (Option NodeIdentity)) :
    outcome gnrc kind g payloads = (g.registry kind).serve kind (payloads.map (Option.map NodeIdentity.name)) := by
  induction payloads generalizing g with
  | nil => rfl
  | cons payload rest ih =>
    have first := registerHandler_rule gnrc kind g payload
    have later := ih (registerHandler gnrc kind g payload).1
    have registries := congrArg Prod.fst later
    have codes := congrArg Prod.snd later
    simp only [outcome] at registries codes
    simp only [outcome, serve, List.map_cons, Registry.serve, ← first, registries, codes]

/-- Where the two kinds have the same pending name, flag and names, their handlers agree on
a request exactly when the rules treat it alike, and on every part of a sequence exactly
when each of its requests is. -/
theorem kinds_register_alike (gnrc : Gnrc) (g₁ g₂ : Globals)
    (same : g₁.registry .sensor = g₂.registry .actuator) :
    (∀ payload, outcome gnrc .sensor g₁ [payload] = outcome gnrc .actuator g₂ [payload] ↔
      (g₁.registry .sensor).alike (payload.map NodeIdentity.name) = true) ∧
    ∀ payloads, (∀ before, before <+: payloads →
        outcome gnrc .sensor g₁ before = outcome gnrc .actuator g₂ before) ↔
      (g₁.registry .sensor).AllAlike (payloads.map (Option.map NodeIdentity.name)) := by
  constructor
  · intro payload
    rw [← Registry.rules_agree_iff, outcome_eq, outcome_eq, ← same]
    simp [Registry.serve, Prod.ext_iff]
  · intro payloads
    rw [← Registry.serve_agrees_iff]
    constructor
    · intro agree before inMap
      obtain ⟨some_, inAll, rfl⟩ := List.prefix_map_iff.mp inMap
      have both := agree some_ inAll
      rwa [outcome_eq, outcome_eq, ← same] at both
    · intro agree before inAll
      have both := agree _ (inAll.map (Option.map NodeIdentity.name))
      rwa [outcome_eq, outcome_eq, ← same]

/-- Both kinds wait for "tapsense", and nothing is stored. -/
def awaiting : Globals := { init with sensorId := some tapsense.name, actuatorId := some tapsense.name }

/-- The same with "act2" in both stores. -/
def awaitingBeside : Globals where
  __ := awaiting
  htSensor := (SensorTable.empty.set act2.name (entryRemote board act2.ipAddr act2.name)).1
  actuators := ActuatorList.empty.insertNode act2.name (entryRemote board act2.ipAddr act2.name)

theorem awaitingBeside_same : awaitingBeside.registry .sensor = awaitingBeside.registry .actuator := by
  obtain ⟨-, view⟩ := SensorTable.empty.set_spec act2.name (entryRemote board act2.ipAddr act2.name)
  ext name
  · rfl
  · rfl
  · by_cases same : name = act2.name
    · simp [Globals.registry, Globals.holds, awaitingBeside, view, Function.update, same]
    · have differ : ¬ act2.name = name := fun equal => same equal.symm
      simp [Globals.registry, Globals.holds, awaitingBeside, view, Function.update, same, differ]

/-- The awaited node may ask, then the stored one, then the awaited one again; the kinds part
where the stored one asks first. -/
theorem kinds_register_alike_awaiting :
    outcome board .sensor awaitingBeside [some tapsense] = outcome board .actuator awaitingBeside [some tapsense] ∧
    (∀ before, before <+: [some tapsense,some act2,some tapsense] →
      outcome board .sensor awaitingBeside before = outcome board .actuator awaitingBeside before) ∧
    ¬ ∀ before, before <+: [some act2,some tapsense] →
      outcome board .sensor awaitingBeside before = outcome board .actuator awaitingBeside before := by
  obtain ⟨single, sequences⟩ := kinds_register_alike board awaitingBeside awaitingBeside awaitingBeside_same
  refine ⟨(single (some tapsense)).mpr (by decide), (sequences _).mpr ?_, fun agree => ?_⟩
  · exact ⟨by decide, by decide, by decide, trivial⟩
  · obtain ⟨first, -⟩ := (sequences _).mp agree
    revert first
    decide

/-- The node that is stored already asks again while another one is waited for: only the
actuators' handler stops waiting. -/
theorem kinds_differ :
    ¬ ∀ gnrc g₁ g₂ payload, g₁.registry .sensor = g₂.registry .actuator →
      outcome gnrc .sensor g₁ [payload] = outcome gnrc .actuator g₂ [payload] := by
  intro claim
  have both := claim board awaitingBeside awaitingBeside (some act2) awaitingBeside_same
  have pending := congrArg (fun o => o.1.pending) both
  revert pending
  decide

end RiotAlarm.Gateway
