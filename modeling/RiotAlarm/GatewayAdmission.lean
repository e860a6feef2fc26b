import RiotAlarm.GatewayShell

/-! Who may register, and what an authorization command knows about it. The pending
names and `is_registered` are shared with the request handlers; the results hold for
every run whose requests keep out of the places where the commands do not look. -/
namespace RiotAlarm.Gateway

open Transition

variable {gnrc : Gnrc} {g g' : Globals} {s t : Server} {id : NodeIdentity} {during events : List Event}

def isInvoked : Event → Bool
  | .invoked _ => true
  | _ => false

/-- An entry with the name was inserted during these events. -/
def Stored (kind : Kind) (name : CString) (during : List Event) : Prop :=
  ∃ remote, .stored kind name remote ∈ during

/-- No entry was inserted during these events. -/
def Quiet (during : List Event) : Prop := ∀ kind name remote, .stored kind name remote ∉ during

theorem plain_not_invoked (plain : ∀ event ∈ events, event.plain = true) :
    ∀ event ∈ events, isInvoked event = false := by
  intro event member
  have := plain event member
  cases event <;> simp_all [Event.plain, isInvoked]

theorem Quiet.append (quiet : Quiet during) (plain : ∀ event ∈ events, event.plain = true) :
    Quiet (during ++ events) := by
  intro kind name remote member
  rcases List.mem_append.mp member with old | new
  · exact quiet kind name remote old
  · exact absurd (plain _ new) (by simp [Event.plain])

theorem Stored.append (stored : Stored kind name during) : Stored kind name (during ++ events) := by
  obtain ⟨remote, member⟩ := stored
  exact ⟨remote, by simp [member]⟩

theorem Quiet.not_stored (quiet : Quiet during) : ¬ Stored kind name during :=
  fun ⟨remote, member⟩ => quiet kind name remote member

/-- The store and the name that the running command works for. -/
def Shell.target : Shell → Option (Kind × CString)
  | .auth kind name _ => some (kind,name)
  | .deauth kind name _ => some (kind,name)
  | _ => none

/-- A pending name belongs to the command that runs, and the actuator list has no
duplicates: true of every run. -/
structure Pending (g : Globals) (shell : Shell) : Prop where
  target : shell ≠ .crashed → ∀ kind name, g.pending kind = some name → shell.target = some (kind,name)
  distinct : Distinct g

theorem Pending.start : Pending start.globals start.shell :=
  ⟨fun _ kind name pending => by cases kind <;> simp [Globals.pending, Gateway.start, init] at pending,
    by simp [Distinct, Gateway.start, init]⟩

/-- Where neither the pending names nor the list change, nor the command's target. -/
theorem Pending.keep (held : Pending g shell) (pending : ∀ kind, g'.pending kind = g.pending kind)
    (distinct : Distinct g') (alive : shell ≠ .crashed) (target : shell' ≠ .crashed → shell'.target = shell.target) :
    Pending g' shell' :=
  ⟨fun running kind name waiting => (target running).trans (held.target alive kind name (pending kind ▸ waiting)),
    distinct⟩

/-- The first and the last statement of a command set and clear the pending name of its kind. -/
theorem Pending.setPending (held : Pending g shell) (alive : shell ≠ .crashed)
    (target : shell.target = some (kind,name)) (id : Option CString)
    (next : ∀ n, id = some n → shell'.target = some (kind,n)) : Pending (g.setPending id kind) shell' := by
  refine ⟨fun _ other n waiting => ?_, by simpa [Distinct] using held.distinct⟩
  rw [Globals.pending_setPending] at waiting
  split at waiting
  next same => exact same ▸ next n waiting
  next differ =>
    have wrong := held.target alive other n waiting
    rw [target] at wrong
    cases wrong
    contradiction

theorem Pending.forget (held : Pending g shell) : Pending (g.setPending none kind) shell := by
  refine ⟨fun alive other name waiting => ?_, by simpa [Distinct] using held.distinct⟩
  rw [Globals.pending_setPending] at waiting
  split at waiting
  next => contradiction
  next => exact held.target alive other name waiting

theorem Pending.registered (held : Pending g shell) (absent : g.holds kind id.name = false)
    (registered : g.Registered gnrc kind id g') : Pending g' shell := by
  refine ⟨fun alive other name waiting => held.target alive other name (registered.pending other ▸ waiting), ?_⟩
  cases kind with
  | sensor =>
    rw [Distinct, registered.actuators rfl]
    exact held.distinct
  | actuator =>
    rw [Distinct, registered.nodes rfl]
    refine List.nodup_cons.mpr ⟨?_, held.distinct⟩
    intro member
    obtain ⟨node, inList, named⟩ := List.mem_map.mp member
    have present : g.holds .actuator id.name = true := by
      simp only [Globals.holds, List.any_eq_true, decide_eq_true_eq]
      exact ⟨node, inList, named⟩
    simp [absent] at present

theorem Pending.shellStep (held : Pending g shell)
    (run : shellStep g shell = some (g',events,shell')) : Pending g' shell' := by
  cases shell with
  | idle | returned | crashed => simp [Gateway.shellStep] at run
  | engage | engageLog | disengage | showActuators | showLog =>
    simp only [Gateway.shellStep, deactivateAlarm, Option.some.injEq, Prod.mk.injEq] at run
    obtain ⟨rfl, rfl, rfl⟩ := run
    exact held.keep (fun kind => by cases kind <;> rfl) held.distinct (by simp) (fun _ => rfl)
  | auth kind name point =>
    simp only [Gateway.shellStep, Option.some.injEq] at run
    cases point with
    | start =>
      cases run
      exact held.setPending (by simp) rfl _ (fun n same => by cases same; rfl)
    | done code =>
      cases run
      exact held.setPending (by simp) rfl _ (fun n same => by cases same)
    | clear =>
      cases run
      exact held.keep (fun kind => by cases kind <;> rfl) held.distinct (by simp) (fun _ => rfl)
    | prompt | sleep | log =>
      cases run
      exact held.keep (fun _ => rfl) held.distinct (by simp) (fun _ => rfl)
    | check | timeout | flag | respond =>
      simp only [authStep] at run
      split at run <;> cases run
      all_goals exact held.keep (fun _ => rfl) held.distinct (by simp) (by simp [Shell.target])
  | deauth kind name point =>
    simp only [Gateway.shellStep, Option.some.injEq] at run
    cases point with
    | start =>
      cases run
      exact held.setPending (by simp) rfl _ (fun n same => by cases same; rfl)
    | done code =>
      cases run
      exact held.setPending (by simp) rfl _ (fun n same => by cases same)
    | log =>
      cases run
      exact held.keep (fun _ => rfl) held.distinct (by simp) (fun _ => rfl)
    | remove =>
      simp only [deauthStep] at run
      split at run
      next =>
        cases run
        exact held.keep (fun _ => rfl) held.distinct (by simp) (by simp)
      next _ after code sent removed =>
        cases run
        obtain ⟨distinct, _⟩ := removePending_spec held.distinct removed
        exact held.keep (removePending_frame removed).1 distinct (by simp) (fun _ => rfl)

theorem Pending.step (held : Pending s.globals s.shell) (taken : step gnrc s a = some (t,events)) :
    Pending t.globals t.shell := by
  rcases step_cases taken with ⟨command, -, ready, rfl, -⟩ | ⟨-, run⟩ | ⟨handler, -, alive, same, run⟩
  · refine ⟨fun _ kind name waiting => ?_, held.distinct⟩
    have target := held.target (by rintro crashed; simp [crashed, Shell.ready] at ready) kind name waiting
    cases at_ : s.shell <;> simp_all [Shell.ready, Shell.target]
  · exact held.shellStep run
  · rw [same]
    have after : (handle gnrc s.globals handler).1 = t.globals := congrArg Prod.fst run
    rw [← after]
    rcases handle_cases gnrc s.globals handler with
      ⟨kind, id, remote, -, -, -, absent, registered, -⟩ | ⟨kind, payload, -, -, forgot, -⟩ | ⟨stores, -⟩
    · exact held.registered absent registered
    · exact forgot ▸ held.forget
    · exact held.keep stores.pending (by rw [Distinct, stores.actuators]; exact held.distinct) alive (fun _ => rfl)

/-! Admission control. -/

/-- A deauth command uses the pending name too, so a request of the node that it
removes must not come in before the name is cleared. -/
def Shell.deauthorizes : Shell → Kind → Bool
  | .deauth kind _ _,other => kind = other
  | _,_ => false

def admitted (s : Server) : Action → Prop
  | .run (.register kind payload) =>
    s.globals.accepts kind payload = true → s.shell.deauthorizes kind = false ∧ fits payload = true
  | _ => True

/-- An entry is inserted only while the auth command for its name is in progress. -/
def OnlyAuthorized (allowed : Server → Action → Prop) (gnrc : Gnrc) (s : Server) : Prop :=
  ∀ a t events kind name remote, allowed s a → step gnrc s a = some (t,events) →
    .stored kind name remote ∈ events → ∃ point, s.shell = .auth kind name point

/-- When a deauth command has returned 0, the name is not in the store. -/
def Deauthorized (s : Server) : Prop :=
  ∀ kind name, s.shell = .returned (.deauth kind [name]) 0 → s.globals.holds kind name = false

/-- From the removal on, the name stays out of the store. -/
def Removed (g : Globals) : Shell → Prop
  | .deauth kind name .log => g.holds kind name = false
  | .deauth kind name (.done code) => code = 0 → g.holds kind name = false
  | .returned (.deauth kind [name]) code => code = 0 → g.holds kind name = false
  | _ => True

theorem Removed.keep (held : Removed g shell) (same : ∀ kind name, g'.holds kind name = g.holds kind name) :
    Removed g' shell := by
  unfold Removed at *
  split at held <;> simp_all

/-- A step inserts only by accepting a request. -/
theorem stored_by_request (taken : step gnrc s a = some (t,events)) (member : .stored kind name remote ∈ events) :
    ∃ payload, a = .run (.register kind payload) ∧ s.globals.accepts kind payload = true ∧
      s.globals.pending kind = some name ∧ s.shell ≠ .crashed := by
  rcases step_cases taken with ⟨command, -, -, -, rfl⟩ | ⟨-, run⟩ | ⟨handler, rfl, alive, -, run⟩
  · simp at member
  · exact absurd (shellStep_plain run _ member) (by simp [Event.plain])
  have shown : (handle gnrc s.globals handler).2 = events := congrArg Prod.snd run
  rw [← shown] at member
  rcases handle_cases gnrc s.globals handler with
    ⟨other, id, told, rfl, accepted, pending, -, -, one⟩ | ⟨_, _, -, -, -, none⟩ | ⟨-, plain⟩
  · rw [one, List.mem_singleton] at member
    cases member
    exact ⟨some id, rfl, accepted, pending, alive⟩
  · simp [none] at member
  · exact absurd (plain _ member) (by simp [Event.plain])

theorem Removed.shellStep (pending : Pending g shell) (held : Removed g shell)
    (run : shellStep g shell = some (g',events,shell')) : Removed g' shell' := by
  cases shell with
  | idle | returned | crashed => simp [Gateway.shellStep] at run
  | engage | engageLog | disengage | showActuators | showLog =>
    simp only [Gateway.shellStep, Option.some.injEq, Prod.mk.injEq] at run
    obtain ⟨-, -, rfl⟩ := run
    simp [Removed]
  | auth kind name point =>
    simp only [Gateway.shellStep, Option.some.injEq] at run
    cases point <;> simp only [authStep] at run
    case check | timeout | flag | respond =>
      split at run
      all_goals
        obtain ⟨-, -, rfl⟩ := run
        simp [Removed]
    all_goals
      obtain ⟨-, -, rfl⟩ := run
      simp [Removed]
  | deauth kind name point =>
    simp only [Gateway.shellStep, Option.some.injEq] at run
    cases point with
    | start =>
      cases run
      trivial
    | log =>
      cases run
      exact fun _ => held
    | done code =>
      cases run
      exact fun zero => by simpa using held zero
    | remove =>
      simp only [deauthStep] at run
      split at run
      next =>
        cases run
        trivial
      next _ after code sent removed =>
        cases run
        obtain ⟨_, zero, spec⟩ := removePending_spec pending.distinct removed
        by_cases removal : code = 0
        · obtain ⟨n, waiting, _⟩ := zero.mp removal
          obtain ⟨-, rfl⟩ := Prod.mk.inj (Option.some.inj (pending.target (by simp) kind n waiting))
          simpa [Removed, removal] using spec name waiting kind name
        · simp [Removed, removal]

theorem Removed.step (pending : Pending s.globals s.shell) (held : Removed s.globals s.shell)
    (ok : admitted s a) (taken : step gnrc s a = some (t,events)) : Removed t.globals t.shell := by
  rcases step_cases taken with ⟨command, -, -, rfl, -⟩ | ⟨-, run⟩ | ⟨handler, rfl, alive, same, run⟩
  · cases command with
    | auth kind args | deauth kind args => rcases args with _ | ⟨name, _ | _⟩ <;> trivial
    | engage args | disengage args | showActuators args => cases args <;> trivial
    | showLog args => trivial
  · exact held.shellStep pending run
  · rw [same]
    have after : (handle gnrc s.globals handler).1 = t.globals := congrArg Prod.fst run
    rw [← after]
    rcases handle_cases gnrc s.globals handler with
      ⟨kind, id, remote, rfl, accepted, waiting, absent, registered, -⟩ | ⟨kind, payload, -, -, forgot, -⟩ | ⟨stores, -⟩
    · have target := pending.target alive kind id.name waiting
      have elsewhere := (ok accepted).1
      cases at_ : s.shell <;> simp_all [Shell.target, Shell.deauthorizes, Removed]
    · exact forgot ▸ held.keep (by simp)
    · exact held.keep stores.holds

/-- Provided no registration is accepted during a deauth command of its kind, nor under a name
that does not fit into an entry, entries are inserted under an auth command for their name
only, and after a deauth command that succeeded the name is gone. -/
theorem insertions_are_authorized (path : Path (step gnrc) admitted start trace t) :
    OnlyAuthorized admitted gnrc t ∧ Deauthorized t := by
  have removed₀ : Removed Gateway.start.globals Gateway.start.shell := trivial
  obtain ⟨pending, removed⟩ := path.state_invariant
    (fun s => Pending s.globals s.shell ∧ Removed s.globals s.shell)
    (fun held ok taken => ⟨held.1.step taken, held.2.step held.1 ok taken⟩) ⟨.start, removed₀⟩
  constructor
  · intro a u events kind name remote ok taken member
    obtain ⟨payload, rfl, accepted, waiting, alive⟩ := stored_by_request taken member
    have target := pending.target alive kind name waiting
    have elsewhere := (ok accepted).1
    cases at_ : t.shell <;> simp_all [Shell.target, Shell.deauthorizes]
  · intro kind name returned
    rw [returned] at removed
    exact removed rfl

instance (s : Server) (a : Action) : Decidable (admitted s a) := by
  unfold admitted
  split <;> infer_instance

/-- The sensor is registered ahead of the check and removed again; it asks once more
between the removal and the end of the deauth command. -/
def deauthOverrun : List Action :=
  [.type (.auth .sensor [tapsense.name]),.shell,.run (.register .sensor (some tapsense)),.shell,.shell,
    .type (.deauth .sensor [tapsense.name]),.shell,.shell,.run (.register .sensor (some tapsense)),.shell,.shell]

theorem deauth_admits_a_request :
    ¬ ∀ gnrc trace t, Path (step gnrc) anything start trace t →
      OnlyAuthorized anything gnrc t ∧ Deauthorized t := by
  intro claim
  have run : ∃ t trace, Path (step board) anything start trace t ∧
      t.shell = .returned (.deauth .sensor [tapsense.name]) 0 ∧ t.globals.holds .sensor tapsense.name = true :=
    replay_reaches deauthOverrun (fun (t : Server) _ => t.shell = .returned (.deauth .sensor [tapsense.name]) 0 ∧
      t.globals.holds .sensor tapsense.name = true) (by decide)
  obtain ⟨t, trace, path, returned, present⟩ := run
  have absent := (claim board trace t path).2 .sensor tapsense.name returned
  simp [present] at absent

/-- Registered while it was waited for, then removed. -/
def deauthAfterAuth : List Action :=
  [.type (.auth .sensor [tapsense.name]),.shell,.shell,.shell,.run (.register .sensor (some tapsense)),
    .shell,.shell,.shell,.shell,.shell,.shell,.type (.deauth .sensor [tapsense.name]),.shell,.shell,.shell,.shell]

theorem insertions_are_authorized_run :
    ∃ t trace, Path (step board) admitted start trace t ∧
      t.shell = .returned (.deauth .sensor [tapsense.name]) 0 ∧ OnlyAuthorized admitted board t ∧ Deauthorized t := by
  have run : ∃ t trace, Path (step board) admitted start trace t ∧
      t.shell = .returned (.deauth .sensor [tapsense.name]) 0 :=
    replay_reaches deauthAfterAuth (fun (t : Server) _ => t.shell = .returned (.deauth .sensor [tapsense.name]) 0)
      (by decide)
  obtain ⟨t, trace, path, returned⟩ := run
  exact ⟨t, trace, path, returned, insertions_are_authorized path⟩

/-! What an auth command returns. -/

/-- Places of an auth command from which `is_registered` is still tested before the
command gives up. -/
def AuthPoint.polls : AuthPoint → Bool
  | .prompt => true
  | .timeout count => count ≤ 50
  | .flag _ => true
  | .sleep count => count < 50
  | _ => false

/-- Places behind the test of `is_registered` at which the pending name is used. -/
def AuthPoint.answers : AuthPoint → Bool
  | .clear => true
  | .log => true
  | .respond => true
  | _ => false

def Shell.polls : Shell → Bool
  | .auth _ _ point => point.polls
  | _ => false

def Shell.answers : Shell → Bool
  | .auth _ _ point => point.answers
  | _ => false

/-- A registration is accepted only while the command still polls for it and under a name that
fits into an entry, and from then on no request makes the gateway forget the name before
AUTH is sent. -/
def timely (s : Server) : Action → Prop
  | .run (.register kind payload) =>
    (s.globals.accepts kind payload = true → s.shell.polls = true ∧ fits payload = true) ∧
      (s.globals.forgets kind payload = true → s.globals.isRegistered = false ∧ s.shell.answers = false)
  | _ => True

instance (s : Server) (a : Action) : Decidable (timely s a) := by
  unfold timely
  split <;> infer_instance

/-- How many statements the command can still execute. -/
def AuthPoint.remaining : AuthPoint → Nat
  | .start => 162
  | .check => 161
  | .prompt => 160
  | .timeout count => 3 * (51 - count) + 6
  | .flag count => 3 * (51 - count) + 5
  | .sleep count => 3 * (51 - count) + 4
  | .clear => 4
  | .log => 3
  | .respond => 2
  | .done _ => 1

def DeauthPoint.remaining : DeauthPoint → Nat
  | .start => 4
  | .remove => 3
  | .log => 2
  | .done _ => 1

def Shell.remaining : Shell → Nat
  | .auth _ _ point => point.remaining
  | .deauth _ _ point => point.remaining
  | .engage => 2
  | .engageLog | .disengage | .showActuators | .showLog _ => 1
  | .idle | .returned _ _ | .crashed => 0

/-- A command always has a next statement and comes to its end. An auth command then
returns 0 exactly when it saw its entry inserted, it has seen no insertion when it
returns something else, and `is_registered` is left false; a command that faults has
seen no insertion. -/
structure Agreement (during : List Event) (s : Server) : Prop where
  ends : 0 < s.shell.remaining → ∃ g events shell,
    shellStep s.globals s.shell = some (g,events,shell) ∧ shell.remaining < s.shell.remaining
  code : ∀ kind name code, s.shell = .returned (.auth kind [name]) code →
    (code = 0 ↔ Stored kind name during)
  quiet : ∀ kind name code, s.shell = .returned (.auth kind [name]) code → code ≠ 0 → Quiet during
  flag : ∀ kind name code, s.shell = .returned (.auth kind [name]) code → s.globals.isRegistered = false
  fault : s.shell = .crashed → Quiet during

/-- Nothing was inserted yet and the flag is down. -/
def Waiting (during : List Event) (g : Globals) : Prop := g.isRegistered = false ∧ Quiet during

/-- The node that the command waits for is stored and still pending. -/
def Answered (during : List Event) (g : Globals) (kind : Kind) (name : CString) : Prop :=
  Stored kind name during ∧ g.pending kind = some name ∧ g.holds kind name = true

def AuthInvariant (during : List Event) (g : Globals) (kind : Kind) (name : CString) : AuthPoint → Prop
  | .start | .check => Waiting during g
  | .prompt => Waiting during g ∨ g.isRegistered = true ∧ Answered during g kind name
  | .timeout count => count ≤ 51 ∧
    (Waiting during g ∨ count ≤ 50 ∧ g.isRegistered = true ∧ Answered during g kind name)
  | .flag count => count ≤ 50 ∧ (Waiting during g ∨ g.isRegistered = true ∧ Answered during g kind name)
  | .sleep count => count ≤ 50 ∧
    (Waiting during g ∨ count < 50 ∧ g.isRegistered = true ∧ Answered during g kind name)
  | .clear => g.isRegistered = true ∧ Answered during g kind name
  | .log | .respond => g.isRegistered = false ∧ Answered during g kind name
  | .done code => g.isRegistered = false ∧ (code = 0 ∧ Stored kind name during ∨ code ≠ 0 ∧ Quiet during)

def Invariant (during : List Event) (g : Globals) : Shell → Prop
  | .auth kind name point => AuthInvariant during g kind name point
  | .returned (.auth kind [name]) code =>
    g.isRegistered = false ∧ (code = 0 ∧ Stored kind name during ∨ code ≠ 0 ∧ Quiet during)
  | .idle | .returned _ _ => g.isRegistered = false
  | .crashed => Quiet during
  | _ => Waiting during g

theorem Waiting.keep (held : Waiting during g) (flag : g'.isRegistered = g.isRegistered)
    (plain : ∀ event ∈ events, event.plain = true) : Waiting (during ++ events) g' :=
  ⟨flag.trans held.1, held.2.append plain⟩

theorem Answered.keep (held : Answered during g kind name) (pending : ∀ kind, g'.pending kind = g.pending kind)
    (holds : ∀ kind name, g'.holds kind name = g.holds kind name) : Answered (during ++ events) g' kind name :=
  ⟨held.1.append, (pending kind).trans held.2.1, (holds kind name).trans held.2.2⟩

/-- What an invariant needs of a step that leaves the stores alone. -/
theorem Invariant.keep (held : Invariant during g shell) (stores : SameStores g g')
    (plain : ∀ event ∈ events, event.plain = true) : Invariant (during ++ events) g' shell := by
  have flag := stores.isRegistered
  have waiting : Waiting during g → Waiting (during ++ events) g' := fun held => held.keep flag plain
  have answered : ∀ kind name, Answered during g kind name → Answered (during ++ events) g' kind name :=
    fun _ _ held => held.keep stores.pending stores.holds
  have result : ∀ kind name code, (code = 0 ∧ Stored kind name during ∨ code ≠ 0 ∧ Quiet during) →
      (code = 0 ∧ Stored kind name (during ++ events) ∨ code ≠ 0 ∧ Quiet (during ++ events)) := by
    intro kind name code held
    rcases held with ⟨zero, stored⟩ | ⟨nonzero, quiet⟩
    · exact .inl ⟨zero, stored.append⟩
    · exact .inr ⟨nonzero, quiet.append plain⟩
  unfold Invariant at *
  split at held
  next kind name point =>
    cases point with
    | start | check => exact waiting held
    | prompt => exact held.imp waiting fun ⟨up, h⟩ => ⟨flag.trans up, answered _ _ h⟩
    | timeout count =>
      exact ⟨held.1, held.2.imp waiting fun ⟨bound, up, h⟩ => ⟨bound, flag.trans up, answered _ _ h⟩⟩
    | flag count => exact ⟨held.1, held.2.imp waiting fun ⟨up, h⟩ => ⟨flag.trans up, answered _ _ h⟩⟩
    | sleep count =>
      exact ⟨held.1, held.2.imp waiting fun ⟨bound, up, h⟩ => ⟨bound, flag.trans up, answered _ _ h⟩⟩
    | clear | log | respond => exact ⟨flag.trans held.1, answered _ _ held.2⟩
    | done code => exact ⟨flag.trans held.1, result _ _ _ held.2⟩
  next kind name code => exact ⟨flag.trans held.1, result _ _ _ held.2⟩
  next => exact flag.trans held
  next => exact flag.trans held
  next => exact held.append plain
  next => exact waiting held

/-- A pending name that is stored has a remote to answer to. -/
theorem pendingRemote_of_holds (pending : g.pending kind = some name) (present : g.holds kind name = true) :
    ∃ remote, pendingRemote g kind = some remote := by
  cases kind with
  | sensor =>
    have waiting : g.sensorId = some name := pending
    obtain ⟨value, found⟩ := Option.isSome_iff_exists.mp (show (g.htSensor.view name).isSome = true from present)
    exact ⟨value.remote, by simp [pendingRemote, waiting, SensorTable.getNode_spec, found]⟩
  | actuator =>
    have waiting : g.actuatorId = some name := pending
    obtain ⟨node, found⟩ := Option.isSome_iff_exists.mp (List.find?_isSome.mpr (List.any_eq_true.mp present))
    exact ⟨node.2, by simp [pendingRemote, waiting, ActuatorList.getNode_eq, found]⟩

theorem Invariant.shellStep (held : Invariant during g shell)
    (run : shellStep g shell = some (g',events,shell')) : Invariant (during ++ events) g' shell' := by
  have plain := shellStep_plain run
  cases shell with
  | idle | returned | crashed => simp [Gateway.shellStep] at run
  | engage | engageLog | disengage | showActuators | showLog =>
    simp only [Gateway.shellStep, deactivateAlarm, Option.some.injEq, Prod.mk.injEq] at run
    obtain ⟨rfl, rfl, rfl⟩ := run
    first | exact held.1 | exact Waiting.keep held rfl plain
  | auth kind name point =>
    simp only [Gateway.shellStep, Option.some.injEq] at run
    cases point with
    | start =>
      cases run
      exact Waiting.keep held (by simp) plain
    | prompt =>
      cases run
      refine ⟨by omega, ?_⟩
      rcases held with waiting | ⟨up, answered⟩
      · exact .inl (waiting.keep rfl plain)
      · exact .inr ⟨by omega, up, answered.keep (fun _ => rfl) fun _ _ => rfl⟩
    | check =>
      simp only [authStep] at run
      split at run <;> cases run
      · exact held.2.append plain
      · exact ⟨held.1, .inr ⟨by simp, held.2.append plain⟩⟩
      · exact .inl (Waiting.keep held rfl plain)
    | timeout count =>
      simp only [authStep] at run
      obtain ⟨bound, at_⟩ := held
      split at run <;> cases run
      next late =>
        rcases at_ with waiting | ⟨early, -⟩
        · exact ⟨waiting.1, .inr ⟨by simp, waiting.2.append plain⟩⟩
        · omega
      next early =>
        refine ⟨by omega, ?_⟩
        rcases at_ with waiting | ⟨-, up, answered⟩
        · exact .inl (waiting.keep rfl plain)
        · exact .inr ⟨up, answered.keep (fun _ => rfl) fun _ _ => rfl⟩
    | flag count =>
      simp only [authStep] at run
      obtain ⟨bound, at_⟩ := held
      split at run <;> cases run
      next up =>
        rcases at_ with waiting | ⟨-, answered⟩
        · simp [waiting.1] at up
        · exact ⟨up, answered.keep (fun _ => rfl) fun _ _ => rfl⟩
      next down =>
        rcases at_ with waiting | ⟨up, -⟩
        · exact ⟨bound, .inl (waiting.keep rfl plain)⟩
        · exact absurd up down
    | sleep count =>
      cases run
      obtain ⟨bound, at_⟩ := held
      refine ⟨by omega, ?_⟩
      rcases at_ with waiting | ⟨early, up, answered⟩
      · exact .inl (waiting.keep rfl plain)
      · exact .inr ⟨by omega, up, answered.keep (fun _ => rfl) fun _ _ => rfl⟩
    | clear =>
      cases run
      exact ⟨rfl, Answered.keep held.2 (fun kind => by cases kind <;> rfl) fun kind _ => by cases kind <;> rfl⟩
    | log =>
      cases run
      exact ⟨held.1, Answered.keep held.2 (fun _ => rfl) fun _ _ => rfl⟩
    | respond =>
      obtain ⟨down, stored, pending, present⟩ := held
      simp only [authStep] at run
      obtain ⟨remote, found⟩ := pendingRemote_of_holds pending present
      rw [found] at run
      cases run
      exact ⟨down, .inl ⟨rfl, stored.append⟩⟩
    | done code =>
      cases run
      refine ⟨by simpa using held.1, ?_⟩
      rcases held.2 with ⟨zero, stored⟩ | ⟨nonzero, quiet⟩
      · exact .inl ⟨zero, stored.append⟩
      · exact .inr ⟨nonzero, quiet.append plain⟩
  | deauth kind name point =>
    simp only [Gateway.shellStep, Option.some.injEq] at run
    cases point with
    | start =>
      cases run
      exact Waiting.keep held (by simp) plain
    | log =>
      cases run
      exact Waiting.keep held rfl plain
    | done code =>
      cases run
      have down : (g.setPending none kind).isRegistered = false := by simpa using held.1
      exact down
    | remove =>
      simp only [deauthStep] at run
      split at run
      next =>
        cases run
        exact held.2.append plain
      next _ after code sent removed =>
        cases run
        exact Waiting.keep held (removePending_frame removed).2 plain

/-- An accepted request answers the command that polls for it. -/
theorem Invariant.registered (pending : Pending g shell) (held : Invariant during g shell)
    (alive : shell ≠ .crashed) (polls : shell.polls = true) (waiting : g.pending kind = some id.name)
    (registered : g.Registered gnrc kind id g') :
    Invariant (during ++ [.stored kind id.name remote]) g' shell := by
  have target := pending.target alive kind id.name waiting
  have answered : Answered (during ++ [.stored kind id.name remote]) g' kind id.name :=
    ⟨⟨remote, by simp⟩, (registered.pending kind).trans waiting, by simp [registered.holds]⟩
  cases shell with
  | auth other name point =>
    cases target
    have up := registered.isRegistered
    cases point with
    | prompt => exact .inr ⟨up, answered⟩
    | timeout count =>
      have early : count ≤ 50 := by simpa [Shell.polls, AuthPoint.polls] using polls
      exact ⟨held.1, .inr ⟨early, up, answered⟩⟩
    | flag count => exact ⟨held.1, .inr ⟨up, answered⟩⟩
    | sleep count =>
      have early : count < 50 := by simpa [Shell.polls, AuthPoint.polls] using polls
      exact ⟨held.1, .inr ⟨early, up, answered⟩⟩
    | _ => simp [Shell.polls, AuthPoint.polls] at polls
  | _ => simp [Shell.polls] at polls

/-- A forgotten name is harmless as long as nothing was stored under it. -/
theorem Invariant.forget (held : Invariant during g shell) (down : g.isRegistered = false)
    (answers : shell.answers = false) : Invariant during (g.setPending none kind) shell := by
  have waiting : Waiting during g → Waiting during (g.setPending none kind) :=
    fun held => ⟨by simpa using held.1, held.2⟩
  unfold Invariant at *
  split at held
  next _ name point =>
    cases point with
    | start | check => exact waiting held
    | prompt => exact held.imp waiting fun ⟨up, _⟩ => absurd up (by simp [down])
    | timeout count => exact ⟨held.1, held.2.imp waiting fun ⟨_, up, _⟩ => absurd up (by simp [down])⟩
    | flag count => exact ⟨held.1, held.2.imp waiting fun ⟨up, _⟩ => absurd up (by simp [down])⟩
    | sleep count => exact ⟨held.1, held.2.imp waiting fun ⟨_, up, _⟩ => absurd up (by simp [down])⟩
    | clear | log | respond => simp [Shell.answers, AuthPoint.answers] at answers
    | done code => exact ⟨by simpa using held.1, held.2⟩
  next => exact ⟨by simpa using held.1, held.2⟩
  next => exact (g.isRegistered_setPending none kind).trans held
  next => exact (g.isRegistered_setPending none kind).trans held
  next => exact held
  next => exact waiting held

theorem Invariant.step (pending : Pending s.globals s.shell)
    (held : Invariant (since isInvoked trace) s.globals s.shell) (ok : timely s a)
    (taken : step gnrc s a = some (t,events)) :
    Invariant (since isInvoked (trace ++ events)) t.globals t.shell := by
  rcases step_cases taken with ⟨command, -, ready, rfl, rfl⟩ | ⟨-, run⟩ | ⟨handler, rfl, alive, same, run⟩
  · have down : s.globals.isRegistered = false := by
      cases at_ : s.shell <;> simp only [at_, Shell.ready] at ready <;> try contradiction
      · rw [at_] at held
        exact held
      · rw [at_] at held
        unfold Invariant at held
        split at held <;> simp_all
    have waiting : Waiting [] s.globals := ⟨down, by simp [Quiet]⟩
    rw [since_snoc, isInvoked, if_pos rfl]
    cases command with
    | auth kind args | deauth kind args => rcases args with _ | ⟨name, _ | _⟩ <;> first | exact waiting | exact down
    | engage args | disengage args | showActuators args => cases args <;> first | exact waiting | exact down
    | showLog args => exact waiting
  · rw [since_append _ _ _ (plain_not_invoked (shellStep_plain run))]
    exact held.shellStep run
  · rw [same]
    have after : (handle gnrc s.globals handler).1 = t.globals := congrArg Prod.fst run
    have shown : (handle gnrc s.globals handler).2 = events := congrArg Prod.snd run
    rw [← after, ← shown]
    rcases handle_cases gnrc s.globals handler with
      ⟨kind, id, remote, rfl, accepted, waiting, -, registered, one⟩ |
      ⟨kind, payload, rfl, forgets, forgot, none⟩ | ⟨stores, plain⟩
    · rw [one, since_append _ _ _ (by simp [isInvoked])]
      exact held.registered pending alive (ok.1 accepted).1 waiting registered
    · obtain ⟨down, answers⟩ := ok.2 forgets
      rw [none, forgot, List.append_nil]
      exact held.forget down answers
    · rw [since_append _ _ _ (plain_not_invoked plain)]
      exact held.keep stores plain

theorem Invariant.ends (held : Invariant during g shell) (running : 0 < shell.remaining) :
    ∃ g' events shell', Gateway.shellStep g shell = some (g',events,shell') ∧ shell'.remaining < shell.remaining := by
  cases shell with
  | idle | returned | crashed => simp [Shell.remaining] at running
  | engage | engageLog | disengage | showActuators | showLog =>
    exact ⟨_, _, _, rfl, by simp [Shell.remaining]⟩
  | auth kind name point =>
    refine ⟨_, _, _, rfl, ?_⟩
    cases point with
    | start | prompt | clear | log | done => simp [Shell.remaining, AuthPoint.remaining]
    | check | timeout | flag | respond =>
      simp only
      split <;> simp [Shell.remaining, AuthPoint.remaining]
    | sleep count =>
      have bound : count ≤ 50 := held.1
      simp only [Shell.remaining, AuthPoint.remaining]
      omega
  | deauth kind name point =>
    refine ⟨_, _, _, rfl, ?_⟩
    cases point with
    | start | log | done => simp [Shell.remaining, DeauthPoint.remaining]
    | remove =>
      simp only
      split
      · simp [Shell.remaining, DeauthPoint.remaining]
      · simp only [Shell.remaining]
        split <;> simp [DeauthPoint.remaining]

/-- As long as requests are timely, what an auth command returns tells whether its node
was registered meanwhile. -/
theorem auth_agrees_with_store (path : Path (step gnrc) timely start trace t) :
    Agreement (since isInvoked trace) t := by
  have initial : Invariant (since isInvoked []) Gateway.start.globals Gateway.start.shell := rfl
  obtain ⟨-, held⟩ := path.invariant
    (fun trace s => Pending s.globals s.shell ∧ Invariant (since isInvoked trace) s.globals s.shell)
    (fun held ok taken => ⟨held.1.step taken, held.2.step held.1 ok taken⟩) ⟨.start, initial⟩
  have result : ∀ kind name code, t.shell = .returned (.auth kind [name]) code →
      t.globals.isRegistered = false ∧ (code = 0 ∧ Stored kind name (since isInvoked trace) ∨
        code ≠ 0 ∧ Quiet (since isInvoked trace)) := by
    intro kind name code returned
    rw [returned] at held
    exact held
  constructor
  case ends => exact held.ends
  case code =>
    intro kind name code returned
    rcases (result kind name code returned).2 with ⟨zero, stored⟩ | ⟨nonzero, quiet⟩
    · exact iff_of_true zero stored
    · exact iff_of_false nonzero quiet.not_stored
  case quiet =>
    intro kind name code returned nonzero
    rcases (result kind name code returned).2 with ⟨zero, -⟩ | ⟨-, quiet⟩
    · exact absurd zero nonzero
    · exact quiet
  case flag => exact fun kind name code returned => (result kind name code returned).1
  case fault =>
    intro crashed
    rw [crashed] at held
    exact held

theorem auth_agrees_with_store_run :
    ∃ t trace, Path (step board) timely start trace t ∧
      t.shell = .returned (.auth .sensor [tapsense.name]) 0 ∧ Agreement (since isInvoked trace) t := by
  have run : ∃ t trace, Path (step board) timely start trace t ∧
      t.shell = .returned (.auth .sensor [tapsense.name]) 0 :=
    replay_reaches (deauthAfterAuth.take 11)
      (fun (t : Server) _ => t.shell = .returned (.auth .sensor [tapsense.name]) 0) (by decide)
  obtain ⟨t, trace, path, returned⟩ := run
  exact ⟨t, trace, path, returned, auth_agrees_with_store path⟩

/-- The request comes in while the command sleeps for the last time: the sleep is
followed by the test of `count`, not of `is_registered`. -/
def lastSleep : List Action :=
  [.type (.auth .sensor [tapsense.name]),.shell,.shell,.shell] ++
    (List.replicate 50 [.shell,.shell,.shell]).flatten ++
    [.shell,.shell,.run (.register .sensor (some tapsense)),.shell,.shell,.shell]

theorem auth_fails_after_registration :
    ¬ ∀ gnrc trace t, Path (step gnrc) anything start trace t → Agreement (since isInvoked trace) t := by
  intro claim
  have run : ∃ t trace, Path (step board) anything start trace t ∧
      t.shell = .returned (.auth .sensor [tapsense.name]) 1 ∧ t.globals.isRegistered = true :=
    replay_reaches lastSleep (fun (t : Server) _ => t.shell = .returned (.auth .sensor [tapsense.name]) 1 ∧
      t.globals.isRegistered = true) (by decide +kernel)
  obtain ⟨t, trace, path, returned, up⟩ := run
  have down := (claim board trace t path).flag .sensor tapsense.name 1 returned
  simp [up] at down

end RiotAlarm.Gateway
