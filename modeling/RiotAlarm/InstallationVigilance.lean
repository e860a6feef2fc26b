import RiotAlarm.InstallationResponse

/-! A sensor that is lost. While the alarm is engaged, a stored sensor of which no status is
heard is noticed by the fourth walk of the watchdog at the latest, whatever else the gateway
hears and its operator does. -/
namespace RiotAlarm.Installation

open Transition

variable {site : Site} {gnrc : Gnrc} {es : List (Event site)} {w w' : State site} {action : Action site} {name : CString}

/-- The sensor is in the gateway's table. -/
def Stored (name : CString) (w : State site) (_ : Action site) : Prop := w.server.globals.holds .sensor name = true

instance (name : CString) (w : State site) (action : Action site) : Decidable (Stored name w action) :=
  inferInstanceAs (Decidable (_ = true))

/-- The status of a sensor of this name is heard. -/
def hears (name : CString) : Event site → Bool
  | .heard (.inl s) .status => (site.sensorId s).name = name
  | _ => false

/-- After so many walks of the watchdog nothing has been noticed yet, and the counter tells
of them all. -/
structure Unnoticed (name : CString) (g : Gateway.Globals) (walks : Nat) : Prop where
  engaged : g.isEngaged = true
  timeout : g.isTimeout = false
  few : walks ≤ 3
  counter : ∀ value, g.htSensor.view name = some value → walks ≤ value.wdt.toNat

/-- A step of the gateway: at the fourth walk the silence is a cause for the alarm. -/
theorem unnoticed_serve {notes : List (Event site)} (run : serve gnrc w act notes cause = some (w',es))
    (held : Unnoticed name w.server.globals walks) (stored : w.server.globals.holds .sensor name = true)
    (plain : ∀ e ∈ notes, note e = true) (ticks : notes.count .ticked = act.ticks)
    (silence : act = .run .wdt → cause = some .silence)
    (unheard : ∀ id, act = .run (.status (some id)) → id.name ≠ name) (calm : .gateway .deactivated ∉ es) :
    .roused .silence ∈ es ∨ Unnoticed name w'.server.globals (walks + es.count .ticked) := by
  obtain ⟨⟨server, events⟩, ran, same⟩ := Option.map_eq_some_iff.mp run
  cases same
  obtain ⟨value, found⟩ := Option.isSome_iff_exists.mp stored
  have on : .deactivated ∉ events := mt (gateway_shown plain .deactivated).mpr calm
  cases timeout : server.globals.isTimeout with
  | true =>
    have walk := Gateway.step_timeout ran held.timeout timeout
    have rose : Gateway.roused w.server.globals server.globals events = true := by simp [Gateway.roused, timeout, held.timeout]
    left
    simp [served, rose, silence walk]
  | false =>
    right
    have raised : ∀ value', server.globals.htSensor.view name = some value' →
        min 3 (value.wdt.toNat + act.ticks) ≤ value'.wdt.toNat :=
      fun value' found' => Gateway.step_counter ran found found' unheard
    have known := held.counter value found
    have fewer : walks + act.ticks ≤ 3 := by
      by_cases walk : act = .run .wdt
      · subst walk
        have early : ¬ 2 < value.wdt := fun late => by
          simpa [timeout] using Gateway.walk_timeout ran held.engaged found late
        have below : ¬ 2 < value.wdt.toNat := fun above => early (UInt8.lt_iff_toNat_lt.mpr above)
        simp only [Gateway.Action.ticks]
        omega
      · have none : act.ticks = 0 := by
          unfold Gateway.Action.ticks
          split
          next => exact absurd rfl walk
          next => rfl
        simpa [none] using held.few
    rw [served_count _ (by simp) (by simp), ticks]
    refine ⟨(Gateway.step_flags ran on).1 held.engaged, timeout, fewer, fun value' found' => ?_⟩
    have bound := raised value' found'
    omega

theorem Unnoticed.aside (held : Unnoticed name w.server.globals walks) (same : w'.server = w.server)
    (others : ∀ e ∈ es, Desk.aside e = true) : Unnoticed name w'.server.globals (walks + es.count .ticked) := by
  have none : es.count .ticked = 0 := List.count_eq_zero.mpr fun member => by simpa [Desk.aside] using others _ member
  rw [same, none]
  exact held

theorem Unnoticed.step (held : Unnoticed name w.server.globals walks) (stored : Stored name w action)
    (taken : step gnrc w action = some (w',es)) (unheard : ∀ e ∈ es, hears name e = false)
    (calm : .gateway .deactivated ∉ es) :
    .roused .silence ∈ es ∨ Unnoticed name w'.server.globals (walks + es.count .ticked) := by
  cases step_taken taken with
  | @gateway act _ _ own run =>
    refine unnoticed_serve run held stored (plain_own act) ?_ ?_ ?_ calm
    · cases act with
      | run handler => cases handler <;> rfl
      | _ => rfl
    · rintro rfl
      rfl
    · rintro id rfl
      simp [asks] at own
  | @hear n place copy uri rest leftover behind _ _ picked run =>
    have shown : .heard n uri ∈ es := by
      obtain ⟨⟨server, events⟩, -, same⟩ := Option.map_eq_some_iff.mp run
      cases same
      exact List.mem_append_left _ (List.mem_singleton_self _)
    have kept := unnoticed_serve run held stored (by simp [note]) ?_ ?_ ?_ calm
    · exact kept
    · cases n <;> cases uri <;> simp [request, Gateway.Action.ticks]
    · cases n <;> cases uri <;> simp [request]
    · intro id status same
      cases n with
      | inr a => simp [request] at status
      | inl m =>
        cases uri with
        | register | fire => simp [request] at status
        | status =>
          obtain ⟨ipAddr, decoded⟩ := decode_status (site.sensor m) (site.sensorEnds m) leftover behind
          simp only [request, decoded, Gateway.Action.run.injEq, Gateway.Handler.status.injEq, Option.some.injEq] at status
          subst status
          have marked : hears name (.heard (.inl m) .status : Event site) = true := decide_eq_true same
          simp [unheard _ shown] at marked
  | deliver picked heard run =>
    obtain ⟨same, others⟩ := aside_arrive run
    exact .inr (held.aside same others)
  | loseRequest | loseMessage => exact .inr held
  | sensor own run =>
    obtain ⟨same, others⟩ := aside_sensor run
    exact .inr (held.aside same others)
  | actuator own run =>
    obtain ⟨same, others⟩ := aside_actuator run
    exact .inr (held.aside same others)

/-- From a state in which the alarm is engaged and a sensor is stored: as long as it stays
stored, none of its name reports a status and nobody disengages the alarm, the watchdog gives
the alarm a cause by its fourth walk. -/
theorem a_lost_sensor_is_noticed (gnrc : Gnrc) (site : Site) (name : CString) (w w' : State site) (trace : List (Event site))
    (engaged : w.server.globals.isEngaged = true) (fresh : w.server.globals.isTimeout = false)
    (path : Path (step gnrc) (Stored name) w trace w') (unheard : ∀ e ∈ trace, hears name e = false)
    (calm : .gateway .deactivated ∉ trace) (walks : 4 ≤ trace.count .ticked) : .roused .silence ∈ trace := by
  have noticed : .roused .silence ∈ trace ∨ Unnoticed name w'.server.globals (trace.count .ticked) := by
    clear walks
    induction path with
    | nil => exact .inr ⟨engaged, fresh, by simp, by simp⟩
    | snoc _ stored taken ih =>
      rcases ih (fun e member => unheard e (List.mem_append_left _ member)) (fun member => calm (List.mem_append_left _ member)) with
        before | held
      · exact .inl (List.mem_append_left _ before)
      · rw [List.count_append]
        have last := held.step stored taken (fun e member => unheard e (List.mem_append_right _ member))
          (fun member => calm (List.mem_append_right _ member))
        exact last.imp_left (List.mem_append_right _)
  rcases noticed with shown | held
  · exact shown
  · have few := held.few
    omega

/-- The sensor of a furnished house says nothing any more. -/
theorem a_lost_sensor_is_noticed_run :
    ∃ (w w' : State house) (trace : List (Event house)), Path (step board) (Stored tapsense.name) w trace w' ∧
      trace.count .ticked = 4 ∧ .roused .silence ∈ trace := by
  let later : List (Action house) := gatewayActions (List.replicate 4 (.run .wdt))
  have run : ∃ (w : State house) (trace : List (Event house)), Path (step board) anything (boot house) trace w ∧
      (w.server.globals.isEngaged = true ∧ w.server.globals.isTimeout = false) ∧
      (replay (step board) (Stored tapsense.name) w later).any (fun r => (∀ e ∈ r.2, hears tapsense.name e = false) ∧
        .gateway .deactivated ∉ r.2 ∧ r.2.count .ticked = 4) = true :=
    replay_reaches furnished (fun (w : State house) (_ : List (Event house)) =>
      (w.server.globals.isEngaged = true ∧ w.server.globals.isTimeout = false) ∧
      (replay (step board) (Stored tapsense.name) w later).any (fun r => (∀ e ∈ r.2, hears tapsense.name e = false) ∧
        .gateway .deactivated ∉ r.2 ∧ r.2.count .ticked = 4) = true) (by decide +kernel)
  obtain ⟨w, _, -, ⟨engaged, fresh⟩, rerun⟩ := run
  obtain ⟨⟨w', trace⟩, replayed, after⟩ := (Option.any_eq_true _ _).mp rerun
  obtain ⟨unheard, calm, walks⟩ := of_decide_eq_true after
  have path := replay_path later replayed
  exact ⟨w, w', trace, path, walks,
    a_lost_sensor_is_noticed board house tapsense.name w w' trace engaged fresh path unheard calm (Nat.le_of_eq walks.symm)⟩

end RiotAlarm.Installation
