import RiotAlarm.GatewayAlarm

/-! What a step of the gateway can have brought about: where an entry, a listed actuator, a
flag or a message comes from, as a fact about the step and the state before it. -/
namespace RiotAlarm.Gateway

open Transition

variable {gnrc : Gnrc} {s t : Server} {a : Action} {events : List Event} {g g' : Globals}

/-- The endpoint that a node is stored with. -/
def endpoint (gnrc : Gnrc) (id : NodeIdentity) : SockUdpEp := entryRemote gnrc id.ipAddr (gnrc.addrToStr id.ipAddr)

/-- A walk of the watchdog raises every counter by one at most. -/
def Action.ticks : Action → Nat
  | .run .wdt => 1
  | _ => 0

theorem bump_le (wdt : UInt8) : (bump wdt).toNat ≤ wdt.toNat + 1 := by
  unfold bump
  split
  · omega
  · rw [UInt8.toNat_add]
    exact Nat.mod_le _ _

/-! ## Entries -/

/-- An entry after a step was stored by it, or was there before, with the same remote and a
counter that only the watchdog has raised. -/
inductive Entry (gnrc : Gnrc) (g : Globals) (a : Action) (events : List Event) (name : CString) (value : SensorValue) : Prop where
  | registered (id : NodeIdentity) : a = .run (.register .sensor (some id)) → id.name = name →
      value = ⟨endpoint gnrc id,0⟩ → events = [.stored .sensor id.name (endpoint gnrc id)] →
      Entry gnrc g a events name value
  | kept (before : SensorValue) : g.htSensor.view name = some before → value.remote = before.remote →
      value.wdt.toNat ≤ before.wdt.toNat + a.ticks →
      (∀ id, a = .run (.status (some id)) → id.name = name → value.wdt = 0) →
      (∀ remote, .stored .sensor name remote ∉ events) → Entry gnrc g a events name value

theorem Entry.same (found : g.htSensor.view name = some value) (other : ∀ payload, a ≠ .run (.status payload))
    (unstored : ∀ remote, .stored .sensor name remote ∉ events) : Entry gnrc g a events name value :=
  .kept value found rfl (Nat.le_add_right _ _) (fun _ status => absurd status (other _)) unstored

theorem unstored_of_plain (plain : ∀ event ∈ events, event.plain = true) (remote : SockUdpEp) :
    .stored .sensor name remote ∉ events := by
  intro member
  simpa [Event.plain] using plain _ member

theorem shellStep_view (run : shellStep g shell = some (g',events,shell'))
    (found : g'.htSensor.view name = some value) : g.htSensor.view name = some value := by
  rcases shellStep_cases run with
    ⟨_, _, rfl, -⟩ | ⟨rfl, -⟩ | ⟨kind, _, _, -, removed⟩ | ⟨-, rfl, -⟩ | ⟨-, off⟩ | ⟨rfl, -⟩
  · simpa using found
  · exact found
  · rcases removePending_cases removed with ⟨id, -, same⟩ | ⟨-, rfl, -⟩
    · cases kind with
      | sensor =>
        have after : g' = (removeSensor g id).1 := congrArg Prod.fst same
        have view : g'.htSensor.view = Function.update g.htSensor.view id none := by
          rw [after]
          exact (g.htSensor.del_spec id).2
        rw [view] at found
        by_cases here : name = id
        · simp [here] at found
        · simpa [here] using found
      | actuator =>
        have after : g' = (removeActuator g id).1 := congrArg Prod.fst same
        rw [after] at found
        exact found
    · exact found
  · exact found
  · have after : g' = (deactivateAlarm g).1 := congrArg Prod.fst off
    rw [after] at found
    exact found
  · exact found

theorem handle_entry (handler : Handler) (found : (handle gnrc g handler).1.htSensor.view name = some value) :
    Entry gnrc g (.run handler) (handle gnrc g handler).2 name value := by
  have plain : (∀ kind payload, handler ≠ .register kind payload) →
      ∀ remote, .stored .sensor name remote ∉ (handle gnrc g handler).2 :=
    fun other => unstored_of_plain (handle_frame gnrc g handler other).2
  cases handler with
  | register kind payload =>
    simp only [handle] at found ⊢
    rcases register_cases gnrc kind g payload with
      ⟨id, g', rfl, -, -, -, ran, registered⟩ | ⟨-, ran⟩ | ran <;> rw [ran] at found ⊢
    · cases kind with
      | sensor =>
        rw [registered.view rfl] at found
        by_cases here : name = id.name
        · subst here
          exact .registered id rfl rfl (by simpa [endpoint, eq_comm] using found) rfl
        · exact .same (by simpa [here] using found) (by simp) (by simp [here])
      | actuator =>
        rw [registered.sensors rfl] at found
        exact .same found (by simp) (by simp)
    · exact .same (by simpa using found) (by simp) (by simp)
    · exact .same found (by simp) (by simp)
  | status payload =>
    rcases status_cases g payload with ⟨id, rfl, known, ran⟩ | ⟨unknown, ran⟩
    · simp only [handle, ran, SensorTable.view_updateTime] at found
      obtain ⟨before, was, rfl⟩ := Option.map_eq_some_iff.mp found
      refine .kept before was ?_ ?_ ?_ (by simp [handle])
      · simp only [refresh]
        split <;> rfl
      · simp only [refresh]
        split <;> simp
      · rintro id' same named
        cases same
        simp [refresh, named]
    · simp only [handle, ran] at found
      refine .kept value found rfl (Nat.le_add_right _ _) ?_ (by simp [handle])
      intro id same named
      cases same
      have absent := unknown id rfl
      simp [Globals.holds, named, found] at absent
  | tap payload =>
    have kept : (handle gnrc g (.tap payload)).1.htSensor = g.htSensor := by
      cases payload with
      | none => rfl
      | some id =>
        simp only [handle, sensorTapHandler, activateAlarm]
        split <;> try split
        all_goals rfl
    exact .same (kept ▸ found) (by simp) (plain (by simp))
  | disEngageButton => exact .same found (by simp) (plain (by simp))
  | testButton =>
    have kept : (handle gnrc g .testButton).1.htSensor = g.htSensor := by
      simp only [handle, testIntrp, activateAlarm]
      split <;> rfl
    exact .same (kept ▸ found) (by simp) (plain (by simp))
  | wdt =>
    have view := (g.htSensor.wdt_spec g.isEngaged g.isTimeout).2
    simp only [handle, wdtThread, view] at found
    obtain ⟨before, was, rfl⟩ := Option.map_eq_some_iff.mp found
    exact .kept before was rfl (bump_le before.wdt) (by simp) (plain (by simp))
  | alarm =>
    have kept : (handle gnrc g .alarm).1.htSensor = g.htSensor := by
      simp only [handle, alarmThread]
      split <;> rfl
    exact .same (kept ▸ found) (by simp) (plain (by simp))

theorem step_entry (taken : step gnrc s a = some (t,events)) (found : t.globals.htSensor.view name = some value) :
    Entry gnrc s.globals a events name value := by
  rcases step_cases taken with ⟨command, rfl, -, rfl, rfl⟩ | ⟨rfl, run⟩ | ⟨handler, rfl, -, -, run⟩
  · exact .same found (by simp) (by simp)
  · exact .same (shellStep_view run found) (by simp) (unstored_of_plain (shellStep_plain run))
  · have entry := @handle_entry gnrc s.globals name value handler
    rw [run] at entry
    exact entry found

theorem le_bump (wdt : UInt8) : min 3 (wdt.toNat + 1) ≤ (bump wdt).toNat := by
  unfold bump
  split
  next late =>
    have above : 2 < wdt.toNat := UInt8.lt_iff_toNat_lt.mp late
    omega
  next early =>
    have below : ¬ 2 < wdt.toNat := fun above => early (UInt8.lt_iff_toNat_lt.mpr above)
    rw [UInt8.toNat_add]
    change _ ≤ (wdt.toNat + 1) % 256
    omega

/-- Where only the watchdog touches the counters. -/
theorem counter_same {value' : SensorValue} (same : g'.htSensor.view name = g.htSensor.view name)
    (found : g.htSensor.view name = some value) (found' : g'.htSensor.view name = some value') (other : a.ticks = 0) :
    min 3 (value.wdt.toNat + a.ticks) ≤ value'.wdt.toNat := by
  obtain rfl : value = value' := Option.some.inj (found.symm.trans (same.symm.trans found'))
  omega

/-- A counter that no status report sets back is raised by every walk of the watchdog. -/
theorem step_counter {value' : SensorValue} (taken : step gnrc s a = some (t,events))
    (found : s.globals.htSensor.view name = some value) (found' : t.globals.htSensor.view name = some value')
    (unheard : ∀ id, a = .run (.status (some id)) → id.name ≠ name) :
    min 3 (value.wdt.toNat + a.ticks) ≤ value'.wdt.toNat := by
  rcases step_cases taken with ⟨command, rfl, -, rfl, -⟩ | ⟨rfl, run⟩ | ⟨handler, rfl, -, -, run⟩
  · exact counter_same rfl found found' rfl
  · exact counter_same (found'.trans (shellStep_view run found').symm) found found' rfl
  have after : (handle gnrc s.globals handler).1 = t.globals := congrArg Prod.fst run
  rw [← after] at found'
  cases handler with
  | register kind payload =>
    apply counter_same _ found found' rfl
    simp only [handle]
    rcases register_cases gnrc kind s.globals payload with
      ⟨id, g', -, -, -, fresh, ran, registered⟩ | ⟨-, ran⟩ | ran <;> rw [ran]
    · cases kind with
      | sensor =>
        have apart : name ≠ id.name := by
          rintro rfl
          simp [Globals.holds, found] at fresh
        simp [registered.view rfl, apart]
      | actuator => exact congrArg (·.view name) (registered.sensors rfl)
    · simp
  | status payload =>
    apply counter_same _ found found' rfl
    rcases status_cases s.globals payload with ⟨id, rfl, -, ran⟩ | ⟨-, ran⟩
    · have apart : name ≠ id.name := fun same => unheard id rfl same.symm
      simp [handle, ran, SensorTable.view_updateTime, found, refresh, apart]
    · simp [handle, ran]
  | tap payload =>
    apply counter_same _ found found' rfl
    cases payload with
    | none => rfl
    | some id =>
      simp only [handle, sensorTapHandler, activateAlarm]
      split <;> try split
      all_goals rfl
  | testButton =>
    apply counter_same _ found found' rfl
    simp only [handle, testIntrp, activateAlarm]
    split <;> rfl
  | alarm =>
    apply counter_same _ found found' rfl
    simp only [handle, alarmThread]
    split <;> rfl
  | disEngageButton => exact counter_same rfl found found' rfl
  | wdt =>
    have view := (s.globals.htSensor.wdt_spec s.globals.isEngaged s.globals.isTimeout).2
    simp only [handle, wdtThread, view, found, Option.map_some, Option.some.injEq] at found'
    subst found'
    exact le_bump value.wdt

/-! ## Listed actuators -/

theorem shellStep_nodes (run : shellStep g shell = some (g',events,shell'))
    (listed : node ∈ g'.actuators.toList) : node ∈ g.actuators.toList := by
  rcases shellStep_cases run with
    ⟨_, _, rfl, -⟩ | ⟨rfl, -⟩ | ⟨kind, _, _, -, removed⟩ | ⟨-, rfl, -⟩ | ⟨-, off⟩ | ⟨rfl, -⟩
  · simpa using listed
  · exact listed
  · rcases removePending_cases removed with ⟨id, -, same⟩ | ⟨-, rfl, -⟩
    · cases kind with
      | sensor =>
        have after : g' = (removeSensor g id).1 := congrArg Prod.fst same
        rw [after] at listed
        exact listed
      | actuator =>
        have after : g' = (removeActuator g id).1 := congrArg Prod.fst same
        have erased : g'.actuators.toList = g.actuators.toList.eraseP (·.1 = id) := by
          rw [after]
          exact (g.actuators.deleteNode_spec id).2
        rw [erased] at listed
        exact List.mem_of_mem_eraseP listed
    · exact listed
  · exact listed
  · have after : g' = (deactivateAlarm g).1 := congrArg Prod.fst off
    rw [after] at listed
    exact listed
  · exact listed

/-- A listed actuator was registered by the step or listed before it. -/
theorem step_node (taken : step gnrc s a = some (t,events)) (listed : node ∈ t.globals.actuators.toList) :
    (∃ id, a = .run (.register .actuator (some id)) ∧ node = (id.name,endpoint gnrc id) ∧
      events = [.stored .actuator id.name (endpoint gnrc id)]) ∨
    node ∈ s.globals.actuators.toList := by
  rcases step_cases taken with ⟨command, rfl, -, rfl, -⟩ | ⟨rfl, run⟩ | ⟨handler, rfl, -, -, run⟩
  · exact .inr listed
  · exact .inr (shellStep_nodes run listed)
  by_cases registers : ∃ kind payload, handler = .register kind payload
  · obtain ⟨kind, payload, rfl⟩ := registers
    simp only [handle] at run
    rcases register_cases gnrc kind s.globals payload with
      ⟨id, g', rfl, -, -, -, ran, registered⟩ | ⟨-, ran⟩ | ran <;> rw [ran, Prod.mk.injEq] at run <;>
      obtain ⟨after, rfl⟩ := run <;> rw [← after] at listed
    · cases kind with
      | sensor => exact .inr (registered.actuators rfl ▸ listed)
      | actuator =>
        rw [registered.nodes rfl] at listed
        rcases List.mem_cons.mp listed with rfl | before
        · exact .inl ⟨id, rfl, rfl, rfl⟩
        · exact .inr before
    · exact .inr (by simpa using listed)
    · exact .inr listed
  · have stores := (handle_frame gnrc s.globals handler fun kind payload same => registers ⟨kind, payload, same⟩).1
    rw [run] at stores
    exact .inr (stores.actuators ▸ listed)

/-! ## The alarm flags -/

/-- The step has given the alarm a cause: it raised the fired flag or the timeout. -/
def roused (g g' : Globals) (events : List Event) : Bool := events.contains .raised || (g'.isTimeout && !g.isTimeout)

/-- What can rouse the gateway: a tap of a stored sensor, the test button, or a walk of the
watchdog that meets an entry that has been silent. -/
inductive Rouses (g : Globals) : Action → Prop where
  | tap (id : NodeIdentity) : g.holds .sensor id.name = true → Rouses g (.run (.tap (some id)))
  | test : Rouses g (.run .testButton)
  | silence (name : CString) (value : SensorValue) : g.htSensor.view name = some value → 2 < value.wdt →
      Rouses g (.run .wdt)

/-- The flags after a step: the alarm is engaged by it or was before, and a cause is given
by it or was latched before; a disengagement leaves neither. -/
structure Flags (g : Globals) (a : Action) (g' : Globals) (events : List Event) : Prop where
  engaged : g'.isEngaged = true → events = [.engaged] ∨ g.isEngaged = true ∧ .deactivated ∉ events
  cause : g'.isSensorFired = true ∨ g'.isTimeout = true →
    (g.isSensorFired = true ∨ g.isTimeout = true) ∧ .deactivated ∉ events ∨ roused g g' events = true
  rouses : roused g g' events = true → Rouses g a ∧ g.isEngaged = true ∧ .deactivated ∉ events

namespace Flags

/-- Nothing is raised and nothing is disengaged. -/
theorem calm (engaged : g'.isEngaged = g.isEngaged) (fired : g'.isSensorFired = g.isSensorFired)
    (timeout : g'.isTimeout = true → g.isTimeout = true) (calm : ∀ event ∈ events, event.calm = true) :
    Flags g a g' events := by
  have on : .deactivated ∉ events := fun member => by simpa [Event.calm] using calm _ member
  have unraised : .raised ∉ events := fun member => by simpa [Event.calm] using calm _ member
  constructor
  · exact fun up => .inr ⟨engaged.symm.trans up, on⟩
  · rw [fired]
    exact fun up => .inl ⟨up.imp_right timeout, on⟩
  · intro rose
    obtain ⟨late, fresh⟩ : g'.isTimeout = true ∧ g.isTimeout = false := by simpa [roused, unraised] using rose
    simp [timeout late] at fresh

theorem off : Flags g a (deactivateAlarm g).1 (deactivateAlarm g).2 := by
  constructor <;> simp [deactivateAlarm, roused]

/-- A handler that raises the fired flag. -/
theorem raised (rouses : Rouses g a) (engaged : g.isEngaged = true) (logged : List Event) (on : .deactivated ∉ logged) :
    Flags g a { g with isEngaged := true, isSensorFired := true } (.raised :: logged) := by
  constructor
  · exact fun _ => .inr ⟨engaged, by simpa using on⟩
  · exact fun _ => .inr (by simp [roused])
  · exact fun _ => ⟨rouses, engaged, by simpa using on⟩

theorem tap (payload : Option NodeIdentity) :
    Flags g (.run (.tap payload)) (handle gnrc g (.tap payload)).1 (handle gnrc g (.tap payload)).2 := by
  cases payload with
  | none => exact .calm rfl rfl id (by simp [handle, sensorTapHandler])
  | some id =>
    by_cases known : g.holds .sensor id.name = true
    · have zero := (lookup_eq_zero g id.name).mpr known
      by_cases engaged : g.isEngaged = true
      · simp only [handle, sensorTapHandler, zero, engaged, if_true, activateAlarm, List.cons_append, List.nil_append]
        apply Flags.raised (.tap id known) engaged
        simp
      · simp only [handle, sensorTapHandler, zero, engaged, if_true, if_false, Bool.false_eq_true]
        exact .calm rfl rfl (fun up => up) (by simp [Event.calm])
    · have unknown := mt (lookup_eq_zero g id.name).mp known
      simp only [handle, sensorTapHandler, unknown, if_false]
      exact .calm rfl rfl (fun up => up) (by simp)

theorem test : Flags g (.run .testButton) (handle gnrc g .testButton).1 (handle gnrc g .testButton).2 := by
  by_cases engaged : g.isEngaged = true
  · simp only [handle, testIntrp, engaged, if_true, activateAlarm, List.cons_append, List.nil_append]
    apply Flags.raised .test engaged
    simp
  · simp only [handle, testIntrp, engaged, if_false, Bool.false_eq_true]
    exact .calm rfl rfl id (by simp)

theorem wdt : Flags g (.run .wdt) (handle gnrc g .wdt).1 (handle gnrc g .wdt).2 := by
  have up := (g.htSensor.wdt_spec g.isEngaged g.isTimeout).1
  constructor
  · exact fun on => .inr ⟨on, by simp [handle]⟩
  · rintro (fired | timeout)
    · exact .inl ⟨.inl fired, by simp [handle]⟩
    · by_cases before : g.isTimeout = true
      · exact .inl ⟨.inr before, by simp [handle]⟩
      · exact .inr (by simp [roused, timeout, before])
  · intro rose
    obtain ⟨timeout, fresh⟩ : (handle gnrc g .wdt).1.isTimeout = true ∧ g.isTimeout = false := by
      simpa [roused, handle] using rose
    rcases up.mp timeout with before | ⟨engaged, name, value, found, late⟩
    · simp [fresh] at before
    · exact ⟨.silence name value found late, engaged, by simp [handle]⟩

theorem alarm : Flags g (.run .alarm) (handle gnrc g .alarm).1 (handle gnrc g .alarm).2 := by
  simp only [handle, alarmThread, traverseAndFire, ActuatorList.traverse_eq]
  split
  · apply Flags.calm
    · rfl
    · rfl
    · simp
    · intro event member
      obtain ⟨node, -, rfl⟩ := List.mem_map.mp member
      rfl
  · exact .calm rfl rfl (fun up => up) (by simp)

theorem handle (handler : Handler) : Flags g (.run handler) (handle gnrc g handler).1 (handle gnrc g handler).2 := by
  cases handler with
  | register kind payload =>
    simp only [Gateway.handle]
    rcases register_cases gnrc kind g payload with
      ⟨id, g', -, -, -, -, ran, registered⟩ | ⟨-, ran⟩ | ran <;> rw [ran]
    · exact .calm registered.isEngaged registered.isSensorFired (registered.isTimeout ▸ ·) (by simp [Event.calm])
    · exact .calm (by simp) (by simp) (by simp) (by simp)
    · exact .calm rfl rfl id (by simp)
  | status payload =>
    rcases status_cases g payload with ⟨_, -, -, ran⟩ | ⟨-, ran⟩ <;> simp only [Gateway.handle, ran] <;>
      exact .calm rfl rfl id (by simp)
  | tap payload => exact .tap payload
  | disEngageButton => exact .off
  | testButton => exact .test
  | wdt => exact .wdt
  | alarm => exact .alarm

end Flags

theorem step_alarm (taken : step gnrc s a = some (t,events)) : Flags s.globals a t.globals events := by
  rcases step_cases taken with ⟨command, rfl, -, rfl, rfl⟩ | ⟨rfl, run⟩ | ⟨handler, rfl, -, -, run⟩
  · exact .calm rfl rfl id (by simp [Event.calm])
  · rcases shellStep_flags run with ⟨-, off⟩ | ⟨-, on, rfl⟩ | ⟨same, calm⟩
    · obtain ⟨after, rfl⟩ := Prod.mk.inj off
      rw [after]
      exact .off
    · constructor <;> simp [on, roused]
    · exact .calm same.isEngaged same.isSensorFired (same.isTimeout ▸ ·) calm
  · have flags := @Flags.handle gnrc s.globals handler
    rw [run] at flags
    exact flags

/-- Only the watchdog raises the timeout. -/
theorem step_timeout (taken : step gnrc s a = some (t,events)) (down : s.globals.isTimeout = false)
    (up : t.globals.isTimeout = true) : a = .run .wdt := by
  have rose : roused s.globals t.globals events = true := by simp [roused, up, down]
  obtain ⟨rouses, -⟩ := (step_alarm taken).rouses rose
  rcases step_cases taken with ⟨command, rfl, -⟩ | ⟨rfl, -⟩ | ⟨handler, rfl, -, -, run⟩
  · cases rouses
  · cases rouses
  have after : (handle gnrc s.globals handler).1 = t.globals := congrArg Prod.fst run
  rw [← after] at up
  cases rouses with
  | silence => rfl
  | test =>
    simp only [handle, testIntrp, activateAlarm] at up
    split at up <;> simp [down] at up
  | tap id known =>
    simp only [handle, sensorTapHandler, activateAlarm] at up
    split at up <;> (try split at up) <;> simp [down] at up

/-- A walk that meets an entry that has been silent raises it. -/
theorem walk_timeout (taken : step gnrc s (.run .wdt) = some (t,events)) (engaged : s.globals.isEngaged = true)
    (found : s.globals.htSensor.view name = some value) (late : 2 < value.wdt) : t.globals.isTimeout = true := by
  rcases step_cases taken with ⟨_, no, -⟩ | ⟨no, -⟩ | ⟨handler, is, -, -, run⟩
  · cases no
  · cases no
  cases is
  have after : (handle gnrc s.globals .wdt).1 = t.globals := congrArg Prod.fst run
  rw [← after]
  exact (s.globals.htSensor.wdt_spec s.globals.isEngaged s.globals.isTimeout).1.mpr (.inr ⟨engaged, name, value, found, late⟩)

/-! ## Messages -/

/-- The remote of an entry or of a listed actuator. -/
def Globals.Knows (g : Globals) (remote : SockUdpEp) : Prop :=
  (∃ name value, g.htSensor.view name = some value ∧ value.remote = remote) ∨
    ∃ node ∈ g.actuators.toList, node.2 = remote

theorem pendingRemote_known (found : pendingRemote g kind = some remote) : g.Knows remote := by
  cases kind with
  | sensor =>
    obtain ⟨node, there, rfl⟩ := Option.map_eq_some_iff.mp found
    obtain ⟨name, -, stored⟩ := Option.bind_eq_some_iff.mp there
    rw [SensorTable.getNode_spec] at stored
    obtain ⟨value, view, rfl⟩ := Option.map_eq_some_iff.mp stored
    exact .inl ⟨name, value, view, rfl⟩
  | actuator =>
    obtain ⟨node, there, rfl⟩ := Option.map_eq_some_iff.mp found
    obtain ⟨name, -, listed⟩ := Option.bind_eq_some_iff.mp there
    rw [ActuatorList.getNode_eq] at listed
    exact .inr ⟨node, List.mem_of_find?_eq_some listed, rfl⟩

theorem shellStep_auth (run : shellStep g shell = some (g',events,shell'))
    (sent : .sent .auth .register remote ∈ events) : g.Knows remote := by
  cases shell with
  | idle | returned | crashed => simp [shellStep] at run
  | engage | engageLog | disengage | showActuators | showLog =>
    cases run
    simp at sent
  | auth kind name point =>
    simp only [shellStep, Option.some.injEq] at run
    cases point <;> simp only [authStep] at run
    case respond =>
      split at run <;> cases run
      next => simp at sent
      next found =>
        obtain ⟨rfl⟩ : remote = _ := by simpa [sendRegisterResponse] using sent
        exact pendingRemote_known found
    case check | timeout | flag => split at run <;> cases run <;> simp at sent
    all_goals
      cases run
      simp at sent
  | deauth kind name point =>
    simp only [shellStep, Option.some.injEq] at run
    cases point <;> simp only [deauthStep] at run
    case remove =>
      split at run <;> cases run
      next => simp at sent
      next removed =>
        obtain ⟨remotes, rfl⟩ := removePending_sent removed
        simp [sendDeregisterResponse] at sent
    all_goals
      cases run
      simp at sent

/-- AUTH goes to a node that is stored. -/
theorem step_auth (taken : step gnrc s a = some (t,events)) (sent : .sent .auth .register remote ∈ events) :
    s.globals.Knows remote := by
  rcases step_cases taken with ⟨command, -, -, -, rfl⟩ | ⟨-, run⟩ | ⟨handler, -, -, -, run⟩
  · simp at sent
  · exact shellStep_auth run sent
  · have silent := handle_replies gnrc s.globals handler
    rw [run] at silent
    simpa [Event.replies] using silent _ sent

theorem handle_on (handler : Handler) (sent : .sent .on uri remote ∈ (handle gnrc g handler).2) :
    handler = .alarm ∧ (g.isSensorFired = true ∨ g.isTimeout = true) ∧ g.isEngaged = true ∧
      (handle gnrc g handler).2 = rings g := by
  cases handler with
  | alarm =>
    simp only [handle, alarmThread, traverseAndFire, ActuatorList.traverse_eq] at sent ⊢
    split at sent
    next test =>
      obtain ⟨cause, engaged⟩ := (Bool.and_eq_true _ _).mp test
      exact ⟨trivial, ((Bool.or_eq_true _ _).mp cause).symm, engaged, by rw [if_pos test]; rfl⟩
    next => simp at sent
  | register kind payload =>
    simp only [handle] at sent
    rcases register_cases gnrc kind g payload with
      ⟨id, g', -, -, -, -, ran, -⟩ | ⟨-, ran⟩ | ran <;> simp [ran] at sent
  | tap payload =>
    cases payload with
    | none => simp [handle, sensorTapHandler] at sent
    | some id =>
      simp only [handle, sensorTapHandler, activateAlarm] at sent
      split at sent <;> (try split at sent) <;> simp at sent
  | testButton =>
    simp only [handle, testIntrp, activateAlarm] at sent
    split at sent <;> simp at sent
  | disEngageButton => simp [handle, disEngageIntrp, deactivateAlarm] at sent
  | status | wdt => simp [handle] at sent

/-- ON is sent by a turn of the alarm thread, with a cause and the alarm engaged, and then to
every listed actuator. -/
theorem step_on (taken : step gnrc s a = some (t,events)) (sent : .sent .on uri remote ∈ events) :
    a = .run .alarm ∧ (s.globals.isSensorFired = true ∨ s.globals.isTimeout = true) ∧ s.globals.isEngaged = true ∧
      events = rings s.globals := by
  rcases step_cases taken with ⟨command, -, -, -, rfl⟩ | ⟨-, run⟩ | ⟨handler, rfl, -, -, run⟩
  · simp at sent
  · simpa [Event.spoken] using shellStep_spoken run _ sent
  · have rang := @handle_on gnrc s.globals uri remote handler
    rw [run] at rang
    obtain ⟨rfl, rest⟩ := rang sent
    exact ⟨rfl, rest⟩

end RiotAlarm.Gateway
