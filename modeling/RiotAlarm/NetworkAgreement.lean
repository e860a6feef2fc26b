import RiotAlarm.Network

/-! When the gateway's table and the sensors' `connection_status` agree. -/
namespace RiotAlarm.Network

open Transition Gateway

variable {fleet : Fleet} {gnrc : Gnrc}

/-- An entry with the sensor's name and address is in the table. -/
def Entered (w : State fleet) (s : fleet.Member) : Prop :=
  ∃ value, w.server.globals.htSensor.view (fleet.identity s).name = some value ∧
    value.remote.addr = (fleet.identity s).ipAddr

/-- At rest a sensor is connected exactly when it is in the table. -/
def Agrees (w : State fleet) : Prop :=
  w.Rests → ∀ s, (w.node s).connectionStatus = true ↔ Entered w s

/-- Between the test whether the sensor is stored already and the end of the command. -/
def awaits : AuthPoint → Bool
  | .start => false
  | .check => false
  | .done _ => false
  | _ => true

/-- `auth_sensor` runs for the name and has not answered it. -/
def awaited (name : CString) : Shell → Bool
  | .auth .sensor other point => other = name && awaits point
  | _ => false

/-- The command will still answer: it tests `is_registered` at least once more, or has
found it set. -/
def binds : Shell → Bool
  | .auth .sensor _ point => point.polls || point.answers
  | _ => false

/-- `auth_sensor` has an entry to answer for. -/
def owes (s : Server) : Bool :=
  match s.shell with
  | .auth .sensor name point => awaits point && s.globals.holds .sensor name
  | _ => false

/-- A sensor is registered only while `auth_sensor` will still answer it, and from then
on no request makes the gateway forget the name before AUTH is sent. -/
def answerable (w : State fleet) : Action fleet → Prop
  | .request s =>
    (w.server.globals.accepts .sensor (some (fleet.identity s)) = true → binds w.server.shell = true) ∧
      (w.server.globals.forgets .sensor (some (fleet.identity s)) = true → owes w.server = false)
  | _ => True

instance (w : State fleet) (action : Action fleet) : Decidable (answerable w action) := by
  cases action <;> unfold answerable <;> infer_instance

/-- From this point the command still answers an entry that is there. -/
def Bound (g : Globals) (point : AuthPoint) : Prop := point.answers = true ∨ point.polls = true ∧ g.isRegistered = true

theorem Bound.keep {g g' : Globals} (bound : Bound g point) (flag : g.isRegistered = true → g'.isRegistered = true) :
    Bound g' point :=
  bound.imp_right fun ⟨polls, up⟩ => ⟨polls, flag up⟩

/-- The gateway's side of the agreement: entries belong to sensors, listed actuators are
no sensors, an entry that has still to be answered will be, and what each sensor will know
when it has heard everything is whether it is stored and answered. -/
structure Consistent (fleet : Fleet) (g : Globals) (shell : Shell) (settled : fleet.Member → Bool) : Prop where
  placed : ∀ name value, g.htSensor.view name = some value →
    ∃ s, (fleet.identity s).name = name ∧ value.remote.addr = (fleet.identity s).ipAddr
  foreign : ∀ node ∈ g.actuators.toList, ∀ s, node.2.addr ≠ (fleet.identity s).ipAddr
  bound : ∀ name point, shell = .auth .sensor name point → awaits point = true → g.holds .sensor name = true →
    g.sensorId = some name ∧ Bound g point
  settled : ∀ s, settled s = true ↔
    g.holds .sensor (fleet.identity s).name = true ∧ awaited (fleet.identity s).name shell = false

theorem posted_silent {events : List Event} (silent : ∀ event ∈ events, event.replies = false) (s : fleet.Member) :
    posted fleet events s = [] := by
  apply List.filterMap_eq_nil_iff.mpr
  intro event member
  have := silent event member
  unfold addressed
  split <;> simp_all [Event.replies]

namespace Consistent
variable {g g' : Globals} {shell shell' : Shell} {settled : fleet.Member → Bool} {events : List Event}

theorem placed_of_remotes (held : Consistent fleet g shell settled)
    (remotes : ∀ name, (g'.htSensor.view name).map SensorValue.remote = (g.htSensor.view name).map SensorValue.remote)
    (name : CString) (value : SensorValue) (found : g'.htSensor.view name = some value) :
    ∃ s, (fleet.identity s).name = name ∧ value.remote.addr = (fleet.identity s).ipAddr := by
  have same := remotes name
  rw [found] at same
  obtain ⟨before, was, remote⟩ := Option.map_eq_some_iff.mp same.symm
  obtain ⟨s, named, addr⟩ := held.placed name before was
  exact ⟨s, named, remote ▸ addr⟩

/-- Where the stores stay as they are and no sensor is told anything, no command may
begin or cease to answer for a stored sensor. -/
theorem keep (held : Consistent fleet g shell settled)
    (remotes : ∀ name, (g'.htSensor.view name).map SensorValue.remote = (g.htSensor.view name).map SensorValue.remote)
    (actuators : g'.actuators = g.actuators) (unheard : ∀ s : fleet.Member, posted fleet events s = [])
    (bound : ∀ name point, shell' = .auth .sensor name point → awaits point = true → g.holds .sensor name = true →
      g'.sensorId = some name ∧ Bound g' point)
    (same : ∀ name, g.holds .sensor name = true → awaited name shell' = awaited name shell) :
    Consistent fleet g' shell' fun s => (posted fleet events s).foldl told (settled s) := by
  have holds : ∀ name, g'.holds .sensor name = g.holds .sensor name := by
    intro name
    simpa [Globals.holds] using congrArg Option.isSome (remotes name)
  constructor
  · exact held.placed_of_remotes remotes
  · rw [actuators]
    exact held.foreign
  · intro name point at_ waits present
    exact bound name point at_ waits (holds name ▸ present)
  · intro s
    rw [unheard s, holds]
    refine (held.settled s).trans (and_congr_right fun present => ?_)
    rw [same _ present]

/-- A statement of a command other than `auth_sensor` and `deauth_sensor` leaves the
sensors alone. -/
theorem elsewhere (held : Consistent fleet g shell settled)
    (remotes : ∀ name, (g'.htSensor.view name).map SensorValue.remote = (g.htSensor.view name).map SensorValue.remote)
    (actuators : g'.actuators = g.actuators) (unheard : ∀ s : fleet.Member, posted fleet events s = [])
    (before : ∀ name, awaited name shell = false) (after : ∀ name, awaited name shell' = false) :
    Consistent fleet g' shell' fun s => (posted fleet events s).foldl told (settled s) := by
  apply held.keep remotes actuators unheard
  · intro name point at_ waits _
    have := after name
    simp [at_, awaited, waits] at this
  · intro name _
    rw [before, after]

/-- AUTH for a stored sensor. -/
theorem respond (held : Consistent fleet g shell settled) (found : g.htSensor.view name = some value)
    (before : ∀ other, awaited other shell = decide (name = other)) (after : ∀ other, awaited other shell' = false) :
    Consistent fleet g shell'
      fun s => (posted fleet [sendRegisterResponse value.remote] s).foldl told (settled s) := by
  obtain ⟨s₀, named, addr⟩ := held.placed name value found
  refine ⟨held.placed, held.foreign, ?_, ?_⟩
  · intro other point at_ waits _
    have := after other
    simp [at_, awaited, waits] at this
  · intro s
    rw [after]
    by_cases same : s = s₀
    · subst same
      have present : g.holds .sensor (fleet.identity s).name = true := by simp [Globals.holds, named, found]
      simp [posted, sendRegisterResponse, addressed, addr, present]
    · have apart : (fleet.identity s₀).ipAddr ≠ (fleet.identity s).ipAddr :=
        fun h => same (fleet.addresses h).symm
      have other : name ≠ (fleet.identity s).name :=
        fun h => same (fleet.names (named.trans h)).symm
      have unheard : posted fleet [sendRegisterResponse value.remote] s = [] := by
        simp [posted, sendRegisterResponse, addressed, addr, apart]
      rw [unheard]
      refine (held.settled s).trans ?_
      simp [before, other]

/-- `ht_del` with the DEAU that it sends. -/
theorem removed (held : Consistent fleet g shell settled) (name : CString)
    (before : ∀ other, awaited other shell = false) (after : ∀ other, awaited other shell' = false) :
    Consistent fleet (removeSensor g name).1 shell'
      fun s => (posted fleet (removeSensor g name).2.2 s).foldl told (settled s) := by
  obtain ⟨result, view⟩ := g.htSensor.del_spec name
  have view' : (removeSensor g name).1.htSensor.view = Function.update g.htSensor.view name none := view
  have sent : (removeSensor g name).2.2 =
      (((g.htSensor.view name).map SensorValue.remote).toList).map sendDeregisterResponse := by
    change (g.htSensor.del name).2.2.map sendDeregisterResponse = _
    rw [result]
  constructor
  · intro other value found
    rw [view'] at found
    by_cases same : other = name
    · simp [same] at found
    · exact held.placed other value (by simpa [same] using found)
  · exact held.foreign
  · intro other point at_ waits _
    have := after other
    simp [at_, awaited, waits] at this
  · intro s
    rw [after]
    have was := held.settled s
    rw [before] at was
    by_cases same : (fleet.identity s).name = name
    · -- the sensor itself: stored or not, it is not any more
      have gone : (removeSensor g name).1.holds .sensor (fleet.identity s).name = false := by
        simp [Globals.holds, view', same]
      cases found : g.htSensor.view name with
      | none =>
        have absent : settled s = false := by
          simpa [Globals.holds, same, found] using was
        simp [sent, found, gone, posted, absent]
      | some value =>
        obtain ⟨s₀, named, addr⟩ := held.placed name value found
        obtain rfl : s₀ = s := fleet.names (named.trans same.symm)
        simp [sent, found, gone, posted, sendDeregisterResponse, addressed, addr]
    · have kept : (removeSensor g name).1.holds .sensor (fleet.identity s).name = g.holds .sensor (fleet.identity s).name := by
        simp [Globals.holds, view', same]
      have unheard : posted fleet (removeSensor g name).2.2 s = [] := by
        rw [sent]
        cases found : g.htSensor.view name with
        | none => rfl
        | some value =>
          obtain ⟨s₀, named, addr⟩ := held.placed name value found
          have apart : (fleet.identity s₀).ipAddr ≠ (fleet.identity s).ipAddr := by
            intro h
            exact same (fleet.addresses h ▸ named)
          simp [posted, sendDeregisterResponse, addressed, addr, apart]
      rw [unheard, kept]
      exact was

/-- `delete_node` with the DEAU that it sends, which goes to no sensor. -/
theorem removed_actuator (held : Consistent fleet g shell settled) (name : CString)
    (before : ∀ other, awaited other shell = false) (after : ∀ other, awaited other shell' = false) :
    Consistent fleet (removeActuator g name).1 shell'
      fun s => (posted fleet (removeActuator g name).2.2 s).foldl told (settled s) := by
  obtain ⟨result, erased⟩ := g.actuators.deleteNode_spec name
  have nodes : (removeActuator g name).1.actuators.toList = g.actuators.toList.eraseP (·.1 = name) := erased
  have sent : (removeActuator g name).2.2 =
      (((g.actuators.toList.find? (·.1 = name)).map Prod.snd).toList).map sendDeregisterResponse := by
    change (g.actuators.deleteNode name).2.2.map sendDeregisterResponse = _
    rw [result]
  have unheard : ∀ s : fleet.Member, posted fleet (removeActuator g name).2.2 s = [] := by
    intro s
    rw [sent]
    cases found : g.actuators.toList.find? (·.1 = name) with
    | none => rfl
    | some node =>
      have other := held.foreign node (List.mem_of_find?_eq_some found) s
      simp [posted, sendDeregisterResponse, addressed, other]
  constructor
  · exact held.placed
  · intro node member
    rw [nodes] at member
    exact held.foreign node (List.mem_of_mem_eraseP member)
  · intro other point at_ waits _
    have := after other
    simp [at_, awaited, waits] at this
  · intro s
    rw [unheard, after]
    have was := held.settled s
    rw [before] at was
    exact was

/-- AUTH for an actuator goes to no sensor. -/
theorem respond_actuator (held : Consistent fleet g shell settled) (found : pendingRemote g .actuator = some remote)
    (s : fleet.Member) : posted fleet [sendRegisterResponse remote] s = [] := by
  obtain ⟨node, there, rfl⟩ := Option.map_eq_some_iff.mp found
  obtain ⟨name, -, listed⟩ := Option.bind_eq_some_iff.mp there
  rw [ActuatorList.getNode_eq] at listed
  have other := held.foreign node (List.mem_of_find?_eq_some listed) s
  simp [posted, sendRegisterResponse, addressed, other]

/-- From one waiting point of `auth_sensor` to another. -/
theorem advance (held : Consistent fleet g (.auth .sensor name point) settled) (waits : awaits point = true)
    (waits' : awaits point' = true) (htSensor : g'.htSensor = g.htSensor) (actuators : g'.actuators = g.actuators)
    (sensorId : g'.sensorId = g.sensorId) (silent : ∀ event ∈ events, event.replies = false)
    (bound : Bound g point → Bound g' point') :
    Consistent fleet g' (.auth .sensor name point') fun s => (posted fleet events s).foldl told (settled s) := by
  apply held.keep (fun _ => by rw [htSensor]) actuators (posted_silent silent)
  · intro other point'' at_ _ present
    cases at_
    obtain ⟨waiting, before⟩ := held.bound name point rfl waits present
    exact ⟨sensorId.trans waiting, bound before⟩
  · intro other _
    simp [awaited, waits, waits']

/-- `auth_sensor` begins to wait, or gives up, for a name that is not stored. -/
theorem unstored (held : Consistent fleet g (.auth .sensor name point) settled) (absent : g.holds .sensor name = false)
    (after : ∀ other, name ≠ other → awaited other shell' = false)
    (own : ∀ other point', shell' = .auth .sensor other point' → other = name) :
    Consistent fleet g shell' fun s => (posted fleet [] s).foldl told (settled s) := by
  apply held.keep (fun _ => rfl) rfl (fun _ => rfl)
  · intro other point' at_ _ present
    rw [own other point' at_, absent] at present
    contradiction
  · intro other present
    have differ : name ≠ other := by
      rintro rfl
      simp [absent] at present
    rw [after other differ]
    simp [awaited, differ]

theorem authSensor (held : Consistent fleet g (.auth .sensor name point) settled)
    (pending : Pending g (.auth .sensor name point)) (run : authStep g .sensor name point = (g',events,shell')) :
    Consistent fleet g' shell' fun s => (posted fleet events s).foldl told (settled s) := by
  have target : ∀ id, g.sensorId = some id → id = name := by
    intro id waiting
    have := pending.target (by simp) .sensor id waiting
    simp_all [Shell.target]
  -- an entry that is there is bound to be answered, so a command that is not has none
  have unbound : awaits point = true → ¬ Bound g point → g.holds .sensor name = false := by
    intro waits free
    by_contra present
    exact free (held.bound name point rfl waits (by simpa using present)).2
  cases point with
  | start | done =>
    cases run
    exact held.elsewhere (fun _ => rfl) rfl (fun _ => rfl) (fun _ => by simp [awaited, awaits])
      (fun _ => by simp [awaited, awaits])
  | check =>
    simp only [authStep] at run
    split at run <;> cases run
    case h_3 unknown =>
      obtain ⟨id, waiting, missing⟩ := Option.map_eq_some_iff.mp unknown
      obtain rfl := target id waiting
      have absent : g.holds .sensor id = false := by
        by_contra present
        have zero := (lookup_eq_zero g id).mpr (by simpa using present)
        simp [zero] at missing
      apply held.unstored absent
      · intro other differ
        simp [awaited, differ]
      · rintro other point' ⟨⟩
        rfl
    all_goals
      exact held.elsewhere (fun _ => rfl) rfl (fun _ => rfl) (fun _ => by simp [awaited, awaits])
        (fun _ => by simp [awaited, awaits])
  | prompt =>
    cases run
    apply held.advance rfl rfl rfl rfl rfl (by simp)
    rintro (answers | ⟨-, up⟩)
    · contradiction
    · exact .inr ⟨rfl, up⟩
  | timeout count =>
    simp only [authStep] at run
    split at run <;> cases run
    next late =>
      have free : ¬ Bound g (.timeout count) := by
        rintro (answers | ⟨early, -⟩)
        · contradiction
        · have : count ≤ 50 := by simpa [AuthPoint.polls] using early
          omega
      apply held.unstored (unbound rfl free)
      · intro other differ
        simp [awaited, differ]
      · rintro other point' ⟨⟩
        rfl
    next =>
      apply held.advance rfl rfl rfl rfl rfl (by simp)
      rintro (answers | ⟨-, up⟩)
      · contradiction
      · exact .inr ⟨rfl, up⟩
  | flag count =>
    simp only [authStep] at run
    split at run <;> cases run
    next => exact held.advance rfl rfl rfl rfl rfl (by simp) fun _ => .inl rfl
    next down =>
      apply held.advance rfl rfl rfl rfl rfl (by simp)
      rintro (answers | ⟨-, up⟩)
      · contradiction
      · exact absurd up down
  | sleep count =>
    cases run
    apply held.advance rfl rfl rfl rfl rfl (by simp)
    rintro (answers | ⟨early, up⟩)
    · contradiction
    · have before : count < 50 := by simpa [AuthPoint.polls] using early
      have still : count + 1 ≤ 50 := by omega
      exact .inr ⟨by simpa [AuthPoint.polls] using still, up⟩
  | clear | log =>
    cases run
    apply held.advance
    · rfl
    · rfl
    · rfl
    · rfl
    · rfl
    · simp [Event.replies]
    · exact fun _ => .inl rfl
  | respond =>
    simp only [authStep] at run
    split at run <;> cases run
    next missing =>
      have absent : g.holds .sensor name = false := by
        by_contra present
        have stored : g.holds .sensor name = true := by simpa using present
        have waiting : g.pending .sensor = some name := (held.bound name _ rfl rfl stored).1
        obtain ⟨remote, found⟩ := pendingRemote_of_holds waiting stored
        simp [found] at missing
      apply held.unstored absent
      · exact fun _ _ => rfl
      · simp
    next remote found =>
      obtain ⟨node, there, rfl⟩ := Option.map_eq_some_iff.mp found
      obtain ⟨id, waiting, stored⟩ := Option.bind_eq_some_iff.mp there
      obtain rfl := target id waiting
      rw [SensorTable.getNode_spec] at stored
      obtain ⟨value, present, rfl⟩ := Option.map_eq_some_iff.mp stored
      exact held.respond present (fun other => by simp [awaited, awaits]) (fun other => by simp [awaited, awaits])

theorem authActuator (held : Consistent fleet g (.auth .actuator name point) settled)
    (run : authStep g .actuator name point = (g',events,shell')) :
    Consistent fleet g' shell' fun s => (posted fleet events s).foldl told (settled s) := by
  cases point <;> simp only [authStep] at run
  case respond =>
    split at run <;> cases run
    next => exact held.elsewhere (fun _ => rfl) rfl (fun _ => rfl) (fun _ => rfl) (fun _ => rfl)
    next remote found =>
      exact held.elsewhere (fun _ => rfl) rfl (held.respond_actuator found) (fun _ => rfl) (fun _ => rfl)
  case check | timeout | flag =>
    split at run <;> cases run <;>
      exact held.elsewhere (fun _ => rfl) rfl (fun _ => rfl) (fun _ => rfl) (fun _ => rfl)
  all_goals
    cases run
    exact held.elsewhere (fun _ => rfl) rfl (fun _ => rfl) (fun _ => rfl) (fun _ => rfl)

theorem deauth (held : Consistent fleet g (.deauth kind name point) settled)
    (run : deauthStep g kind name point = (g',events,shell')) :
    Consistent fleet g' shell' fun s => (posted fleet events s).foldl told (settled s) := by
  cases point with
  | remove =>
    simp only [deauthStep] at run
    split at run <;> cases run
    next => exact held.elsewhere (fun _ => rfl) rfl (fun _ => rfl) (fun _ => rfl) (fun _ => rfl)
    next removed =>
      have after : ∀ code other, awaited other (.deauth kind name (if code = 0 then .log else .done 1)) = false :=
        fun _ _ => rfl
      rcases removePending_cases removed with ⟨id, -, same⟩ | ⟨-, rfl, -, rfl⟩
      · cases kind with
        | sensor =>
          cases same
          exact held.removed id (fun _ => rfl) (after _)
        | actuator =>
          cases same
          exact held.removed_actuator id (fun _ => rfl) (after _)
      · exact held.elsewhere (fun _ => rfl) rfl (fun _ => rfl) (fun _ => rfl) (fun _ => rfl)
  | start | log | done =>
    cases run
    apply held.elsewhere
    · exact fun _ => by simp
    · simp
    · exact fun _ => rfl
    · exact fun _ => rfl
    · exact fun _ => rfl

theorem shellStep (held : Consistent fleet g shell settled) (pending : Pending g shell)
    (run : Gateway.shellStep g shell = some (g',events,shell')) :
    Consistent fleet g' shell' fun s => (posted fleet events s).foldl told (settled s) := by
  cases shell with
  | idle | returned | crashed => simp [Gateway.shellStep] at run
  | engage | engageLog | disengage | showActuators | showLog =>
    cases run
    exact held.elsewhere (fun _ => rfl) rfl (fun _ => rfl) (fun _ => rfl) (fun _ => rfl)
  | auth kind name point =>
    have stepped := Option.some.inj run
    cases kind with
    | sensor => exact held.authSensor pending stepped
    | actuator => exact held.authActuator stepped
  | deauth kind name point => exact held.deauth (Option.some.inj run)

/-- A sensor's registration that the running command will answer. -/
theorem registered (held : Consistent fleet g shell settled) (pending : Pending g shell) (alive : shell ≠ .crashed)
    (s₀ : fleet.Member) (waiting : g.sensorId = some (fleet.identity s₀).name)
    (absent : g.holds .sensor (fleet.identity s₀).name = false) (bound : binds shell = true)
    (registered : g.Registered gnrc .sensor (fleet.identity s₀) g') : Consistent fleet g' shell settled := by
  have target := pending.target alive .sensor _ waiting
  have view := registered.view rfl
  cases shell with
  | auth kind name point =>
    cases target
    constructor
    · intro other value found
      rw [view] at found
      by_cases same : other = (fleet.identity s₀).name
      · subst same
        simp only [Function.update_self, Option.some.injEq] at found
        exact ⟨s₀, rfl, by rw [← found]; rfl⟩
      · exact held.placed other value (by simpa [same] using found)
    · rw [registered.actuators rfl]
      exact held.foreign
    · intro other point' at_ _ _
      cases at_
      refine ⟨(registered.pending .sensor).trans waiting, ?_⟩
      rcases Bool.or_eq_true_iff.mp bound with polls | answers
      · exact .inr ⟨polls, registered.isRegistered⟩
      · exact .inl answers
    · intro s
      rw [registered.holds]
      by_cases same : s = s₀
      · subst same
        have unsettled : settled s = false := by
          simpa [absent] using held.settled s
        have waits : awaits point = true := by
          cases point <;> simp [binds, AuthPoint.polls, AuthPoint.answers] at bound <;> rfl
        simp [unsettled, awaited, waits]
      · have other : (fleet.identity s).name ≠ (fleet.identity s₀).name := fun h => same (fleet.names h)
        simpa [other] using held.settled s
  | _ => simp [binds] at bound

/-- An actuator's registration. -/
theorem registered_actuator {id : NodeIdentity} (held : Consistent fleet g shell settled)
    (foreign : ∀ s, id.ipAddr ≠ (fleet.identity s).ipAddr) (registered : g.Registered gnrc .actuator id g') :
    Consistent fleet g' shell settled := by
  have table := registered.sensors rfl
  have holds : ∀ name, g'.holds .sensor name = g.holds .sensor name := by simp [registered.holds]
  constructor
  · rw [table]
    exact held.placed
  · rw [registered.nodes rfl]
    intro node member
    rcases List.mem_cons.mp member with rfl | old
    · exact foreign
    · exact held.foreign node old
  · intro name point at_ waits present
    obtain ⟨waiting, bound⟩ := held.bound name point at_ waits (holds name ▸ present)
    exact ⟨(registered.pending .sensor).trans waiting, bound.keep fun _ => registered.isRegistered⟩
  · intro s
    rw [holds]
    exact held.settled s

/-- A pending name is forgotten while there is no entry to answer for. -/
theorem forget (held : Consistent fleet g shell settled) (free : kind = .sensor → owes ⟨g,shell⟩ = false) :
    Consistent fleet (g.setPending none kind) shell settled := by
  constructor
  · simpa using held.placed
  · simpa using held.foreign
  · intro name point at_ waits present
    have present' : g.holds .sensor name = true := by simpa using present
    cases kind with
    | sensor =>
      have := free rfl
      simp [owes, at_, waits, present'] at this
    | actuator => simpa [Globals.setPending, Bound] using held.bound name point at_ waits present'
  · intro s
    simpa using held.settled s

end Consistent

/-- What the gateway may be asked for: sensors register as themselves and while they can
be answered, and what registers as an actuator is no sensor. -/
def Proper (fleet : Fleet) (server : Server) : Gateway.Action → Prop
  | .run (.register .sensor payload) => ∃ s : fleet.Member, payload = some (fleet.identity s) ∧
    (server.globals.accepts .sensor payload = true → binds server.shell = true) ∧
    (server.globals.forgets .sensor payload = true → owes server = false)
  | .run (.register .actuator payload) => ∀ id, payload = some id → ∀ s, id.ipAddr ≠ (fleet.identity s).ipAddr
  | _ => True

theorem Consistent.step {server server' : Server} {action : Gateway.Action} {settled : fleet.Member → Bool}
    (held : Consistent fleet server.globals server.shell settled) (pending : Pending server.globals server.shell)
    (proper : Proper fleet server action) (taken : Gateway.step gnrc server action = some (server',events)) :
    Consistent fleet server'.globals server'.shell fun s => (posted fleet events s).foldl told (settled s) := by
  rcases Gateway.step_cases taken with ⟨command, -, ready, rfl, rfl⟩ | ⟨-, run⟩ | ⟨handler, rfl, alive, same, run⟩
  · apply held.elsewhere
    · exact fun _ => rfl
    · rfl
    · exact fun _ => rfl
    · intro name
      cases at_ : server.shell <;> simp_all [Shell.ready, awaited]
    · intro name
      cases command with
      | auth kind args => rcases args with _ | ⟨name, _ | _⟩ <;> cases kind <;> simp [invoke, awaited, awaits]
      | deauth kind args => rcases args with _ | ⟨name, _ | _⟩ <;> rfl
      | engage args | disengage args | showActuators args => cases args <;> rfl
      | showLog args => rfl
  · exact held.shellStep pending run
  have after : (handle gnrc server.globals handler).1 = server'.globals := congrArg Prod.fst run
  have shown : (handle gnrc server.globals handler).2 = events := congrArg Prod.snd run
  have unheard : ∀ s : fleet.Member, posted fleet events s = [] := by
    rw [← shown]
    exact posted_silent (handle_replies gnrc server.globals handler)
  simp only [unheard, List.foldl_nil]
  rw [same, ← after]
  rcases handle_cases gnrc server.globals handler with
    ⟨kind, id, remote, rfl, accepted, waiting, absent, registered, -⟩ | ⟨kind, payload, rfl, forgets, forgot, -⟩ |
    ⟨stores, -⟩
  · cases kind with
    | sensor =>
      obtain ⟨s₀, payload, bound, -⟩ := proper
      obtain rfl := Option.some.inj payload
      exact held.registered pending alive s₀ waiting absent (bound accepted) registered
    | actuator => exact held.registered_actuator (proper id rfl) registered
  · rw [forgot]
    apply held.forget
    rintro rfl
    obtain ⟨s₀, -, -, free⟩ := proper
    exact free forgets
  · have kept : Consistent fleet (handle gnrc server.globals handler).1 server.shell
        fun s => (posted fleet [] s).foldl told (settled s) := by
      apply held.keep stores.remotes stores.actuators (fun _ => rfl)
      · intro name point at_ waits present
        obtain ⟨pending, rest⟩ := held.bound name point at_ waits present
        exact ⟨(stores.pending .sensor).trans pending, rest.keep stores.isRegistered.trans⟩
      · exact fun _ _ => rfl
    exact kept

/-- What every run of the network keeps. -/
structure Invariant (w : State fleet) : Prop where
  pending : Pending w.server.globals w.server.shell
  consistent : Consistent fleet w.server.globals w.server.shell w.settled

theorem Invariant.boot (fleet : Fleet) : Invariant (boot fleet) where
  pending := .start
  consistent := by
    constructor
    · simp [Network.boot, start, init]
    · simp [Network.boot, start, init]
    · simp [Network.boot, start]
    · simp [Network.boot, State.settled, Sensor.boot, settle, start, init, Globals.holds]

theorem Invariant.step {w w' : State fleet} {action : Action fleet} (held : Invariant w) (ok : answerable w action)
    (taken : step gnrc w action = some (w',events)) : Invariant w' := by
  rcases step_cases taken with ⟨move, run, source, settled⟩ | ⟨server, -, settled⟩
  · have proper : Proper fleet w.server move := by
      rcases source with ⟨own, -⟩ | ⟨payload, foreign, rfl, -⟩ | ⟨s, rfl, rfl⟩
      · cases move with
        | run handler => cases handler <;> trivial
        | _ => trivial
      · exact foreign
      · exact ⟨s, rfl, ok⟩
    refine ⟨held.pending.step run, ?_⟩
    rw [funext settled]
    exact held.consistent.step held.pending proper run
  · constructor
    · rw [server]
      exact held.pending
    · rw [server, funext settled]
      exact held.consistent

/-- As long as no sensor is registered that `auth_sensor` will not answer, and the name
it waits for is not forgotten before it has answered, gateway and sensors agree at rest. -/
theorem agreement_at_rest {w : State fleet} (path : Path (step gnrc) answerable (boot fleet) trace w) : Agrees w := by
  have held : Invariant w := path.state_invariant Invariant (fun held ok taken => held.step ok taken) (.boot fleet)
  intro rests s
  have consistent := held.consistent
  have idle : awaited (fleet.identity s).name w.server.shell = false := by
    have := rests.shell
    cases at_ : w.server.shell <;> simp_all [Shell.target, awaited]
  rw [← rests.settled s]
  refine (consistent.settled s).trans ?_
  constructor
  · rintro ⟨present, -⟩
    obtain ⟨value, found⟩ := Option.isSome_iff_exists.mp (show (w.server.globals.htSensor.view _).isSome = true from present)
    obtain ⟨s', named, addr⟩ := consistent.placed _ value found
    obtain rfl := fleet.names named
    exact ⟨value, found, addr⟩
  · rintro ⟨value, found, -⟩
    exact ⟨by simp [Globals.holds, found], idle⟩

/-- One sensor. -/
def lone : Fleet where
  Member := Unit
  decEq := inferInstance
  identity _ := tapsense
  detector _ := Sensor.irDetector
  names _ _ _ := rfl
  addresses _ _ _ := rfl

def own (moves : List (Sensor.Move Sensor.irDetector)) : List (Action lone) := moves.map (.node ())

def shell (n : Nat) : List (Action lone) := List.replicate n (.gateway .shell)

/-- The sensor is up and its register button has been pressed. -/
def pressed : List (Action lone) := own (Sensor.started ++ [.registerButton,.registerThread,.registerThread])

/-- The registration comes in before `auth_sensor` looks the name up, which then counts
as authorized already. -/
def earlyRequest : List (Action lone) :=
  pressed ++ [.gateway (.type (.auth .sensor [tapsense.name]))] ++ shell 1 ++ [.request ()] ++ shell 2

theorem stored_without_auth :
    ¬ ∀ (fleet : Fleet) gnrc trace (w : State fleet), Path (step gnrc) anything (boot fleet) trace w → Agrees w := by
  intro claim
  have run : ∃ (w : State lone) (trace : List Event), Path (step board) anything (boot lone) trace w ∧
      w.server.shell.target = none ∧ w.requests () = 0 ∧ (w.messages () = [] ∧ (w.node ()).gcoap = .idle) ∧
      (w.node ()).connectionStatus = false ∧
      (w.server.globals.htSensor.view tapsense.name).any (fun value => value.remote.addr = tapsense.ipAddr) = true :=
    replay_reaches earlyRequest (fun (w : State lone) _ =>
      w.server.shell.target = none ∧ w.requests () = 0 ∧ (w.messages () = [] ∧ (w.node ()).gcoap = .idle) ∧
      (w.node ()).connectionStatus = false ∧
      (w.server.globals.htSensor.view tapsense.name).any (fun value => value.remote.addr = tapsense.ipAddr) = true)
      (by decide)
  obtain ⟨w, trace, path, idle, none, quiet, off, stored⟩ := run
  have entered : Entered w () := by
    obtain ⟨value, found, addr⟩ := (Option.any_eq_true _ _).mp stored
    exact ⟨value, found, of_decide_eq_true addr⟩
  have agrees := claim lone board trace w path ⟨idle, fun _ => none, fun _ => quiet⟩ ()
  simp [off, entered] at agrees

/-- "tapsense" and "door", at two addresses. -/
def pair : Fleet where
  Member := Bool
  decEq := inferInstance
  identity s := if s then tapsense else ⟨⟨[100, 111, 111, 114],by decide⟩,Vector.replicate 16 1⟩
  detector _ := Sensor.irDetector
  names := by
    rintro (_ | _) (_ | _) same <;> first | rfl | exact absurd same (by decide)
  addresses := by
    rintro (_ | _) (_ | _) same <;> first | rfl | exact absurd same (by decide)

def moves (s : Bool) (moves : List (Sensor.Move Sensor.irDetector)) : List (Action pair) := moves.map (.node s)

/-- The command and its statements before the sensor's move, and those after it. -/
def commanded (command : Gateway.Command) (before : Nat) (between : List (Action pair)) (after : Nat) : List (Action pair) :=
  .gateway (.type command) :: List.replicate before (.gateway .shell) ++ between ++ List.replicate after (.gateway .shell)

/-- The button, authorization, registration, AUTH. -/
def handshake (s : Bool) : List (Action pair) :=
  moves s (Sensor.started ++ [.registerButton,.registerThread,.registerThread]) ++
    commanded (.auth .sensor [(pair.identity s).name]) 3 [.request s] 6 ++ [.deliver s] ++ moves s [.gcoap,.gcoap]

/-- Deauthorization, DEAU. -/
def farewell (s : Bool) : List (Action pair) :=
  commanded (.deauth .sensor [(pair.identity s).name]) 4 [] 0 ++ [.deliver s] ++ moves s [.gcoap,.gcoap]

def Quiet (w : State pair) (s : Bool) : Prop := w.requests s = 0 ∧ w.messages s = [] ∧ (w.node s).gcoap = .idle

instance (w : State pair) (s : Bool) : Decidable (Quiet w s) := inferInstanceAs (Decidable (_ ∧ _ ∧ _))

/-- Both sensors are connected, and then one is told to leave. -/
theorem agreement_at_rest_run :
    ∃ (w : State pair) (trace : List Event), Path (step board) answerable (boot pair) trace w ∧
      ((w.node true).connectionStatus = true ∧ (w.node false).connectionStatus = false) ∧ w.Rests ∧
      (Entered w true ∧ ¬ Entered w false) := by
  have run : ∃ (w : State pair) (trace : List Event), Path (step board) answerable (boot pair) trace w ∧
      w.server.shell.target = none ∧ (Quiet w true ∧ Quiet w false) ∧
      (w.node true).connectionStatus = true ∧ (w.node false).connectionStatus = false :=
    replay_reaches (handshake true ++ handshake false ++ farewell false) (fun (w : State pair) _ =>
      w.server.shell.target = none ∧ (Quiet w true ∧ Quiet w false) ∧
      (w.node true).connectionStatus = true ∧ (w.node false).connectionStatus = false) (by decide +kernel)
  obtain ⟨w, trace, path, idle, both, on, off⟩ := run
  have quiet : ∀ s, Quiet w s := by
    rintro (_ | _)
    · exact both.2
    · exact both.1
  have rests : w.Rests := ⟨idle, fun s => (quiet s).1, fun s => (quiet s).2⟩
  have agrees := agreement_at_rest path rests
  exact ⟨w, trace, path, ⟨on, off⟩, rests, (agrees true).mp on, fun entered => by simp [(agrees false).mpr entered] at off⟩

end RiotAlarm.Network
