import RiotAlarm.GatewayAdmission
import RiotAlarm.GatewayRequest

/-! The places that use a lookup result or a pending name, with an absent one as what it
is: no string to compare and no entry to take a remote from. What the handlers and the
commands compute there is compared with the model that goes on after such a use. -/
namespace RiotAlarm.Gateway

open Transition

/-- `strcmp` with the result of a lookup; NULL is no string. -/
def strcmpFound (found : Option CString) (name : CString) : Option Int :=
  found.map fun present => strcmp present name

namespace Checked

def sensorRegisterHandler (gnrc : Gnrc) (g : Globals) (payload : Option NodeIdentity) :
    Option (Globals × List Event × Code) :=
  match g.sensorId with
  | none => some (g,[],.badRequest)
  | some pending =>
    match payload with
    | none => some (g,[],.badRequest)
    | some sensorId => do
      let ipv6Addr := gnrc.addrToStr sensorId.ipAddr
      if (← strcmpFound (g.htSensor.get sensorId.name) sensorId.name) = 0 then return (g,[],.badRequest)
      else if strcmp pending sensorId.name = 0 then
        let (g,events) := addSensorEntry gnrc { g with isRegistered := true } sensorId ipv6Addr
        return (g,events,.changed)
      else return ({ g with sensorId := none },[],.badRequest)

def sensorStatusHandler (g : Globals) (payload : Option NodeIdentity) : Option (Globals × List Event × Code) :=
  match payload with
  | none => some (g,[],.badRequest)
  | some sensorId => do
    if (← strcmpFound (g.htSensor.get sensorId.name) sensorId.name) = 0 then
      return ({ g with htSensor := g.htSensor.updateTime sensorId.name },[],.changed)
    else return (g,[],.badRequest)

def sensorTapHandler (g : Globals) (payload : Option NodeIdentity) : Option (Globals × List Event × Code) :=
  match payload with
  | none => some (g,[],.badRequest)
  | some sensorId => do
    if (← strcmpFound (g.htSensor.get sensorId.name) sensorId.name) = 0 then
      if g.isEngaged then
        let (g,events) := activateAlarm g
        return (g,events ++ [.logged .sensorFired (some sensorId.name)],.changed)
      else return (g,[.logged .sensorFired (some sensorId.name)],.changed)
    else return (g,[],.badRequest)

/-- The actuators' handler compares the pending name only, after its test for NULL. -/
def handler (gnrc : Gnrc) (g : Globals) : Resource → Option NodeIdentity → Option (Globals × List Event × Code)
  | .actuatorRegister => fun payload => some (actuatorRegisterHandler gnrc g payload)
  | .sensorRegister => sensorRegisterHandler gnrc g
  | .sensorStatus => sensorStatusHandler g
  | .sensorTap => sensorTapHandler g

/-- The test that an auth command starts with. -/
def alreadyAuthorized (g : Globals) : Kind → Option Bool
  | .sensor => do
    let id ← g.sensorId
    let differs ← strcmpFound (g.htSensor.get id) id
    return differs == 0
  | .actuator => Gateway.alreadyAuthorized g .actuator

/-- The next statement of the command that runs. Everywhere else the board stops where a
command uses an absent name or entry. -/
def shellStep (g : Globals) : Shell → Option (Globals × List Event × Shell)
  | .auth kind name .check => (alreadyAuthorized g kind).map fun authorized =>
    (g,[],.auth kind name (if authorized then .done 1 else .prompt))
  | shell => (Gateway.shellStep g shell).filter fun (_,_,shell) => shell ≠ .crashed

end Checked

/-- No request and no statement of a command uses something absent: it has an outcome,
and a command that runs comes to its return. -/
structure LookupsHold (gnrc : Gnrc) (s : Server) : Prop where
  requests : s.shell ≠ .crashed → ∀ resource id,
    (Checked.handler gnrc s.globals resource (some id)).isSome = true
  statements : 0 < s.shell.remaining → (Checked.shellStep s.globals s.shell).isSome = true
  alive : s.shell ≠ .crashed

/-- The name that the request looks up is that of a stored sensor, if it looks one up. -/
def Globals.finds (g : Globals) : Resource → NodeIdentity → Bool
  | .actuatorRegister, _ => true
  | .sensorRegister, id => g.sensorId = none || g.holds .sensor id.name
  | .sensorStatus, id => g.holds .sensor id.name
  | .sensorTap, id => g.holds .sensor id.name

/-- `auth_sensor` is about to look up a name that is not stored. -/
def Server.asksUnknown (s : Server) : Bool :=
  match s.shell with
  | .auth .sensor name .check => !s.globals.holds .sensor name
  | _ => false

/-- The command is about to pass the pending name on to a search. -/
def Server.uses (s : Server) (kind : Kind) : Bool :=
  match s.shell with
  | .auth other _ .check => other = kind && (kind = .sensor || s.globals.actuators.toList ≠ [])
  | .deauth other _ .remove => other = kind && (kind = .sensor || s.globals.actuators.toList ≠ [])
  | _ => false

/-- A request does not make the gateway forget a name that the command is about to search
for. -/
def spares (s : Server) : Action → Prop
  | .run (.register kind payload) => s.globals.forgets kind payload = true → s.uses kind = false
  | _ => True

instance (s : Server) (a : Action) : Decidable (spares s a) :=
  match a with
  | .run (.register kind payload) =>
    inferInstanceAs (Decidable (s.globals.forgets kind payload = true → s.uses kind = false))
  | .run (.status _) | .run (.tap _) | .run .disEngageButton | .run .testButton | .run .wdt | .run .alarm =>
    .isTrue trivial
  | .type _ | .shell => .isTrue trivial

def orderly (s : Server) (a : Action) : Prop := timely s a ∧ spares s a

instance (s : Server) (a : Action) : Decidable (orderly s a) := inferInstanceAs (Decidable (_ ∧ _))

theorem strcmpFound_get (g : Globals) (name : CString) :
    strcmpFound (g.htSensor.get name) name = if g.holds .sensor name then some 0 else none := by
  have same : strcmp name name = 0 := (strcmp_eq_zero name name).mpr rfl
  rw [SensorTable.get_spec, Globals.holds]
  cases (g.htSensor.view name).isSome <;> simp [strcmpFound, same]

/-- A request has an outcome exactly when the name it looks up is stored, and then the
outcome that the model of the handlers gives. -/
theorem checked_handler (gnrc : Gnrc) (g : Globals) (resource : Resource) (id : NodeIdentity) :
    Checked.handler gnrc g resource (some id) =
      if g.finds resource id then some (resource.handler gnrc g (some id)) else none := by
  have lookup := lookup_eq_zero g id.name
  cases resource with
  | actuatorRegister => rfl
  | sensorRegister =>
    cases waiting : g.sensorId with
    | none =>
      simp [Checked.handler, Checked.sensorRegisterHandler, Resource.handler, sensorRegisterHandler, Globals.finds,
        waiting]
    | some pending =>
      by_cases known : g.holds .sensor id.name = true <;>
        simp [Checked.handler, Checked.sensorRegisterHandler, Resource.handler, sensorRegisterHandler,
          Globals.finds, waiting, strcmpFound_get, known, lookup]
  | sensorStatus =>
    by_cases known : g.holds .sensor id.name = true <;>
      simp [Checked.handler, Checked.sensorStatusHandler, Resource.handler, sensorStatusHandler, Globals.finds,
        strcmpFound_get, known, lookup]
  | sensorTap =>
    by_cases known : g.holds .sensor id.name = true <;> by_cases engaged : g.isEngaged = true <;>
      simp [Checked.handler, Checked.sensorTapHandler, Resource.handler, sensorTapHandler, Globals.finds,
        strcmpFound_get, known, engaged, lookup]

/-- The pending name is there to be searched for, or the search is over an empty list. -/
def Globals.Supplies (g : Globals) (kind : Kind) (name : CString) : Prop :=
  g.pending kind = some name ∨ kind = .actuator ∧ g.actuatorId = none ∧ g.actuators.toList = []

/-- The commands find what they search for where they search, and the board has not stopped. -/
def Supplied (g : Globals) : Shell → Prop
  | .auth kind name .check => g.Supplies kind name
  | .deauth kind name .remove => g.Supplies kind name
  | .crashed => False
  | _ => True

variable {gnrc : Gnrc} {g g' : Globals} {s t : Server} {during events : List Event}

theorem alreadyAuthorized_supplied (supplied : g.Supplies kind name) :
    ∃ authorized, alreadyAuthorized g kind = some authorized := by
  rcases supplied with waiting | ⟨rfl, none, empty⟩
  · cases kind with
    | sensor =>
      have waiting : g.sensorId = some name := waiting
      exact ⟨_, by simp only [alreadyAuthorized, waiting]; rfl⟩
    | actuator =>
      have waiting : g.actuatorId = some name := waiting
      exact ⟨_, by simp only [alreadyAuthorized, waiting]; rfl⟩
  · exact ⟨false, by simp [alreadyAuthorized, none, empty]⟩

theorem removePending_supplied (supplied : g.Supplies kind name) :
    ∃ g' code sent, removePending g kind = some (g',code,sent) := by
  rcases supplied with waiting | ⟨rfl, none, empty⟩
  · cases kind with
    | sensor =>
      have waiting : g.sensorId = some name := waiting
      exact ⟨_, _, _, by simp only [removePending, waiting]; rfl⟩
    | actuator =>
      have waiting : g.actuatorId = some name := waiting
      exact ⟨_, _, _, by simp only [removePending, waiting]; rfl⟩
  · exact ⟨g, 1, [], by simp [removePending, none, empty]⟩

theorem Supplied.shellStep (held : Invariant during g shell) (supplied : Supplied g shell)
    (run : shellStep g shell = some (g',events,shell')) : Supplied g' shell' := by
  cases shell with
  | idle | returned | crashed => simp [Gateway.shellStep] at run
  | engage | engageLog | disengage | showActuators | showLog =>
    simp only [Gateway.shellStep, deactivateAlarm, Option.some.injEq, Prod.mk.injEq] at run
    obtain ⟨-, -, rfl⟩ := run
    trivial
  | auth kind name point =>
    simp only [Gateway.shellStep, Option.some.injEq] at run
    cases point with
    | start =>
      cases run
      exact .inl (by simp)
    | check =>
      obtain ⟨authorized, found⟩ := alreadyAuthorized_supplied supplied
      simp only [authStep, found] at run
      cases authorized <;> cases run <;> trivial
    | respond =>
      obtain ⟨_, _, waiting, present⟩ := held
      obtain ⟨remote, found⟩ := pendingRemote_of_holds waiting present
      simp only [authStep, found] at run
      cases run
      trivial
    | timeout | flag =>
      simp only [authStep] at run
      split at run <;> cases run <;> trivial
    | prompt | sleep | clear | log | done =>
      cases run
      trivial
  | deauth kind name point =>
    simp only [Gateway.shellStep, Option.some.injEq] at run
    cases point with
    | start =>
      cases run
      exact .inl (by simp)
    | remove =>
      obtain ⟨g₁, code, sent, removed⟩ := removePending_supplied supplied
      simp only [deauthStep, removed] at run
      cases run
      split <;> trivial
    | log | done =>
      cases run
      trivial

theorem Supplied.keep (supplied : Supplied g shell)
    (kept : ∀ kind name, g.Supplies kind name → g'.Supplies kind name) : Supplied g' shell := by
  unfold Supplied at *
  split at supplied
  next => exact kept _ _ supplied
  next => exact kept _ _ supplied
  next => exact supplied
  next => trivial

/-- An accepted request leaves the pending names, and goes into the list only under one. -/
theorem Globals.Supplies.registered {id : NodeIdentity} (supplied : g.Supplies kind name)
    (waiting : g.pending other = some id.name)
    (registered : g.Registered gnrc other id g') : g'.Supplies kind name := by
  rcases supplied with pending | ⟨same, none, empty⟩
  · exact .inl ((registered.pending kind).trans pending)
  · cases other with
    | actuator =>
      have there : g.actuatorId = some id.name := waiting
      simp [none] at there
    | sensor =>
      refine .inr ⟨same, (registered.pending .actuator).trans none, ?_⟩
      rw [registered.actuators rfl]
      exact empty

theorem Globals.Supplies.forget (supplied : g.Supplies kind name)
    (idle : other = kind → kind ≠ .sensor ∧ g.actuators.toList = []) :
    (g.setPending none other).Supplies kind name := by
  by_cases same : other = kind
  · subst same
    obtain ⟨notSensor, empty⟩ := idle rfl
    cases other with
    | sensor => exact absurd rfl notSensor
    | actuator => exact .inr ⟨rfl, rfl, empty⟩
  · rcases supplied with pending | ⟨rfl, none, empty⟩
    · have differ : kind ≠ other := fun h => same h.symm
      exact .inl (by simpa [differ] using pending)
    · cases other with
      | sensor => exact .inr ⟨rfl, none, empty⟩
      | actuator => exact absurd rfl same

/-- A request that makes the gateway forget a name leaves it to a command that searches
for it. -/
theorem Supplied.forget (supplied : Supplied s.globals s.shell) (unused : s.uses other = false) :
    Supplied (s.globals.setPending none other) s.shell := by
  cases at_ : s.shell with
  | crashed =>
    rw [at_] at supplied
    exact supplied
  | auth kind name point =>
    rw [at_] at supplied
    cases point with
    | check =>
      apply Globals.Supplies.forget supplied
      rintro rfl
      simpa [Server.uses, at_] using unused
    | _ => trivial
  | deauth kind name point =>
    rw [at_] at supplied
    cases point with
    | remove =>
      apply Globals.Supplies.forget supplied
      rintro rfl
      simpa [Server.uses, at_] using unused
    | _ => trivial
  | _ => trivial

theorem Supplied.step (held : Invariant during s.globals s.shell) (supplied : Supplied s.globals s.shell)
    (ok : orderly s a) (taken : step gnrc s a = some (t,events)) : Supplied t.globals t.shell := by
  rcases step_cases taken with ⟨command, -, -, rfl, -⟩ | ⟨-, run⟩ | ⟨handler, rfl, -, same, run⟩
  · cases command with
    | auth kind args | deauth kind args => rcases args with _ | ⟨name, _ | _⟩ <;> trivial
    | engage args | disengage args | showActuators args => cases args <;> trivial
    | showLog args => trivial
  · exact supplied.shellStep held run
  · rw [same]
    have after : (handle gnrc s.globals handler).1 = t.globals := congrArg Prod.fst run
    rw [← after]
    rcases handle_cases gnrc s.globals handler with
      ⟨kind, id, remote, rfl, -, waiting, -, registered, -⟩ | ⟨kind, payload, rfl, forgets, forgot, -⟩ | ⟨stores, -⟩
    · exact supplied.keep fun _ _ here => here.registered waiting registered
    · rw [forgot]
      exact supplied.forget (ok.2 forgets)
    · refine supplied.keep fun kind name here => ?_
      rcases here with pending | ⟨same, none, empty⟩
      · exact .inl ((stores.pending kind).trans pending)
      · refine .inr ⟨same, (stores.pending .actuator).trans none, ?_⟩
        rw [stores.actuators]
        exact empty

/-- The statement of a command has an outcome, which the model of the commands gives,
unless `auth_sensor` looks up a name that is not stored. -/
theorem checked_shellStep (held : Invariant during s.globals s.shell) (supplied : Supplied s.globals s.shell) :
    Checked.shellStep s.globals s.shell = if s.asksUnknown then none else shellStep s.globals s.shell := by
  by_cases checks : ∃ kind name, s.shell = .auth kind name .check
  · obtain ⟨kind, name, at_⟩ := checks
    rw [at_] at supplied
    cases kind with
    | sensor =>
      have waiting : s.globals.sensorId = some name := by
        rcases supplied with pending | ⟨differ, -⟩
        · exact pending
        · contradiction
      have lookup := lookup_eq_zero s.globals name
      by_cases known : s.globals.holds .sensor name = true
      · have found : alreadyAuthorized s.globals .sensor = some true := by
          simp [alreadyAuthorized, waiting, lookup.mpr known]
        simp [Checked.shellStep, Checked.alreadyAuthorized, shellStep, authStep, Server.asksUnknown, at_, waiting,
          strcmpFound_get, known, found]
      · simp [Checked.shellStep, Checked.alreadyAuthorized, Server.asksUnknown, at_, waiting, strcmpFound_get, known]
    | actuator =>
      obtain ⟨authorized, found⟩ := alreadyAuthorized_supplied supplied
      cases authorized <;>
        simp [Checked.shellStep, Checked.alreadyAuthorized, shellStep, authStep, Server.asksUnknown, at_, found]
  · have unasked : s.asksUnknown = false := by
      unfold Server.asksUnknown
      split
      next name at_ => exact absurd ⟨_, _, at_⟩ checks
      next => rfl
    have filtered : Checked.shellStep s.globals s.shell =
        (shellStep s.globals s.shell).filter fun (_,_,shell) => shell ≠ .crashed := by
      unfold Checked.shellStep
      split
      next kind name at_ => exact absurd ⟨kind, name, at_⟩ checks
      next => rfl
    rw [filtered, unasked]
    cases run : shellStep s.globals s.shell with
    | none => rfl
    | some after =>
      obtain ⟨g', events, shell'⟩ := after
      have alive : shell' ≠ .crashed := by
        rintro rfl
        exact supplied.shellStep held run
      simp [alive]

/-- What the requests and commands make of their lookups after a run. -/
structure LookupsDecided (gnrc : Gnrc) (s : Server) : Prop where
  requests : ∀ resource id, Checked.handler gnrc s.globals resource (some id) =
    if s.globals.finds resource id then some (resource.handler gnrc s.globals (some id)) else none
  statements : 0 < s.shell.remaining →
    ((Checked.shellStep s.globals s.shell).isSome = true ↔ s.asksUnknown = false) ∧
      ∀ outcome, Checked.shellStep s.globals s.shell = some outcome → shellStep s.globals s.shell = some outcome
  alive : s.shell ≠ .crashed
  returns : Finishes (step gnrc) (fun s a => a ≠ .shell ∧ orderly s a) .shell (fun t => t.shell.ready = true) s

/-- Everything known of a state that orderly requests lead to. -/
def Known (trace : List Event) (s : Server) : Prop :=
  Pending s.globals s.shell ∧ Invariant (since isInvoked trace) s.globals s.shell ∧ Supplied s.globals s.shell

theorem Known.step (known : Known trace s) (ok : orderly s a) (taken : step gnrc s a = some (t,events)) :
    Known (trace ++ events) t :=
  ⟨known.1.step taken, known.2.1.step known.1 ok.1 taken, known.2.2.step known.2.1 ok taken⟩

theorem Known.alive (known : Known trace s) : s.shell ≠ .crashed := by
  intro crashed
  have supplied := known.2.2
  rw [crashed] at supplied
  exact supplied

theorem Shell.remaining_pos (shell : Shell) (busy : ¬ shell.ready = true) (alive : shell ≠ .crashed) :
    0 < shell.remaining := by
  cases shell with
  | idle | returned => simp [Shell.ready] at busy
  | crashed => exact absurd rfl alive
  | auth kind name point =>
    cases point <;> simp only [Shell.remaining, AuthPoint.remaining] <;> omega
  | deauth kind name point =>
    cases point <;> simp only [Shell.remaining, DeauthPoint.remaining] <;> omega
  | _ => simp [Shell.remaining]

/-- A command that runs returns, whatever is handled in between. -/
theorem Known.returns (known : Known trace s) :
    Finishes (Gateway.step gnrc) (fun s a => a ≠ .shell ∧ orderly s a) .shell (fun t => t.shell.ready = true) s := by
  apply finishes (fun t => ∃ trace, Known trace t) (fun t => t.shell.remaining)
  · rintro t a u events ⟨trace, known⟩ busy ⟨other, ok⟩ taken
    refine ⟨⟨_, known.step ok taken⟩, ?_⟩
    rcases step_cases taken with ⟨command, -, ready, -⟩ | ⟨rfl, -⟩ | ⟨handler, -, -, same, -⟩
    · exact absurd ready busy
    · exact absurd rfl other
    · rw [same]
      exact ⟨Nat.le_refl _, busy⟩
  · rintro t ⟨trace, known⟩ busy
    have running := t.shell.remaining_pos busy known.alive
    obtain ⟨g, events, shell, run, less⟩ := known.2.1.ends running
    have taken : Gateway.step gnrc t .shell = some (⟨g,shell⟩,events) := by simp [Gateway.step, run]
    have ok : orderly t .shell := ⟨trivial, trivial⟩
    exact ⟨_, events, taken, ⟨_, known.step ok taken⟩, less⟩
  · exact ⟨trace, known⟩

/-- In every run with orderly requests, a request is dealt with exactly when the name it
looks up is stored, a statement of a command exactly when it is not the first lookup of
`auth_sensor` for a new name, and every command returns. -/
theorem lookups_decided (path : Path (step gnrc) orderly start trace s) : LookupsDecided gnrc s := by
  have initial : Known [] Gateway.start := ⟨.start, rfl, trivial⟩
  have known : Known trace s :=
    path.invariant Known (fun known ok taken => known.step ok taken) initial
  have statement := checked_shellStep known.2.1 known.2.2
  refine ⟨checked_handler gnrc s.globals, fun running => ?_, known.alive, known.returns⟩
  obtain ⟨g, events, shell, run, -⟩ := known.2.1.ends running
  rw [statement, run]
  cases s.asksUnknown <;> simp

theorem lookups_decided_run :
    ∃ s : Server, s.shell = .returned (.auth .sensor [tapsense.name]) 0 ∧ LookupsDecided board s := by
  have run : ∃ s trace, Path (step board) orderly start trace s ∧
      s.shell = .returned (.auth .sensor [tapsense.name]) 0 :=
    replay_reaches (deauthAfterAuth.take 11)
      (fun (s : Server) _ => s.shell = .returned (.auth .sensor [tapsense.name]) 0) (by decide)
  obtain ⟨s, trace, path, returned⟩ := run
  exact ⟨s, returned, lookups_decided path⟩

/-- The first `auth_sensor` of a gateway looks its name up in an empty table. -/
theorem first_lookup_is_absent : ¬ ∀ gnrc trace s, Path (step gnrc) anything start trace s → LookupsHold gnrc s := by
  intro claim
  have run : ∃ s trace, Path (step board) anything start trace s ∧ 0 < s.shell.remaining ∧
      (Checked.shellStep s.globals s.shell).isSome = false :=
    replay_reaches [.type (.auth .sensor [tapsense.name]),.shell]
      (fun (s : Server) _ => 0 < s.shell.remaining ∧ (Checked.shellStep s.globals s.shell).isSome = false) (by decide)
  obtain ⟨s, trace, path, running, absent⟩ := run
  have outcome := (claim board trace s path).statements running
  simp [absent] at outcome

end RiotAlarm.Gateway
