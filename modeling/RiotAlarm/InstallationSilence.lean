import RiotAlarm.InstallationResponse

/-! When an actuator is silent. While the alarm is disengaged, or the actuator is not listed,
no ON is sent to it, so that it beeps for the ONs that were already under way and no more. -/
namespace RiotAlarm.Installation

open Transition

variable {site : Site} {gnrc : Gnrc} {es : List (Event site)} {w w' : State site} {action : Action site} {a : site.Actuators}

/-- An ON is sent while the alarm is engaged, to an actuator that is listed. -/
theorem onTo_step (taken : step gnrc w action = some (w',es)) (sent : es.countP (onTo a) ≠ 0) :
    w.server.globals.isEngaged = true ∧ ∃ node ∈ w.server.globals.actuators.toList, node.2.addr = site.address (.inr a) := by
  obtain ⟨e, shown, on⟩ := List.countP_pos_iff.mp (Nat.pos_of_ne_zero sent)
  rcases server_step taken with ⟨act, events, notes, cause, ran, rfl, plain, -⟩ | ⟨-, others⟩
  · cases e with
    | gateway event =>
      have member := (gateway_shown plain event).mp shown
      have arrives : (.on,.beeper) ∈ events.filterMap (addressed (site.address (.inr a))) :=
        List.mem_filterMap.mpr ⟨event, member, by simpa [onTo] using on⟩
      obtain ⟨remote, sent, here⟩ := Explained.sent_of_addressed arrives
      obtain ⟨-, -, engaged, rings⟩ := Gateway.step_on ran sent
      rw [rings] at sent
      obtain ⟨node, listed, same⟩ := List.mem_map.mp sent
      cases same
      exact ⟨engaged, node, listed, here⟩
    | _ => simp [onTo] at on
  · have other := others e shown
    cases e <;> simp [onTo, Desk.aside] at on other

def Off (w : State site) : Prop := w.server.globals.isEngaged = false

def Unlisted (a : site.Actuators) (w : State site) : Prop :=
  ∀ node ∈ w.server.globals.actuators.toList, node.2.addr ≠ site.address (.inr a)

theorem mute_step (still : Off w ∨ Unlisted a w) (taken : step gnrc w action = some (w',es)) : es.countP (onTo a) = 0 := by
  by_contra sent
  obtain ⟨engaged, node, listed, here⟩ := onTo_step taken sent
  rcases still with off | unlisted
  · exact absurd (off.symm.trans engaged) (by simp)
  · exact unlisted node listed here

/-- The alarm stays off until it is engaged. -/
theorem Off.step (off : Off w) (taken : step gnrc w action = some (w',es)) : Off w' ∨ .gateway .engaged ∈ es := by
  rcases server_step taken with ⟨act, events, notes, cause, ran, rfl, plain, -⟩ | ⟨same, -⟩
  · cases up : w'.server.globals.isEngaged with
    | false => exact .inl up
    | true =>
      rcases (Gateway.step_alarm ran).engaged up with shown | ⟨before, -⟩
      · exact .inr ((gateway_shown plain _).mpr (by simp [shown]))
      · exact absurd (off.symm.trans before) (by simp)
  · exact .inl ((congrArg (fun server : Gateway.Server => server.globals.isEngaged) same).trans off)

/-- The event lists an actuator at the address. -/
def lists (a : site.Actuators) : Event site → Bool
  | .gateway (.stored .actuator _ remote) => remote.addr = site.address (.inr a)
  | _ => false

theorem Unlisted.step (unlisted : Unlisted a w) (taken : step gnrc w action = some (w',es)) :
    Unlisted a w' ∨ ∃ e ∈ es, lists a e = true := by
  rcases server_step taken with ⟨act, events, notes, cause, ran, rfl, plain, -⟩ | ⟨same, -⟩
  · by_cases listed : ∃ node ∈ w'.server.globals.actuators.toList, node.2.addr = site.address (.inr a)
    · obtain ⟨node, there, here⟩ := listed
      rcases Gateway.step_node ran there with ⟨id, -, rfl, stored⟩ | before
      · refine .inr ⟨.gateway (.stored .actuator id.name (Gateway.endpoint gnrc id)), ?_, by simpa [lists] using here⟩
        exact (gateway_shown plain _).mpr (by simp [stored])
      · exact absurd here (unlisted node before)
    · push Not at listed
      exact .inl listed
  · refine .inl fun node there => unlisted node ?_
    rwa [← same]

/-- Nothing comes of nothing, whatever the channels do. -/
theorem owed_none (taken : step gnrc w action = some (w',es)) (empty : owed w a = 0) (mute : es.countP (onTo a) = 0) :
    es.count (.actuator a .beeped) = 0 ∧ owed w' a = 0 := by
  cases copied : copies action with
  | false =>
    have flow := (owed_step taken a).2 copied
    omega
  | true =>
    cases step_taken taken with
    | hear picked run =>
      obtain ⟨silent, flow⟩ := owed_serve run (by simp [note]) a
      have same : owed w' a = owed w a + es.countP (onTo a) := flow
      omega
    | @deliver n place copy message uri rest _ _ read picked heard run =>
      obtain ⟨-, flow⟩ := owed_arrive heard run a
      obtain ⟨underWay, fewer⟩ := pick_mem picked
      have none : (.on,.beeper) ∉ w.downlink (.inr a) := by
        apply List.count_eq_zero.mp
        simp only [owed] at empty
        omega
      have other : ¬ (n = .inr a ∧ (message,uri) = (.on,.beeper)) := by
        rintro ⟨rfl, same⟩
        exact none (same ▸ underWay)
      have left : owed { w with downlink := Function.update w.downlink n rest } a = 0 := by
        by_cases here : n = .inr a
        · subst here
          have gone := List.count_eq_zero.mpr fun member => none (fewer _ member)
          simp only [owed] at empty
          simp only [owed, Function.update_self]
          omega
        · simpa only [owed, Function.update_of_ne (Ne.symm here)] using empty
      simp only [left, if_neg other] at flow
      omega
    | _ => simp [copies] at copied

/-- What keeps an actuator still, unless a marked event is shown, keeps it silent. -/
theorem mute_path {quiet : State site → Prop} {mark : Event site → Prop} (mute : ∀ t, quiet t → Off t ∨ Unlisted a t)
    (kept : ∀ {t action u es}, quiet t → step gnrc t action = some (u,es) → quiet u ∨ ∃ e ∈ es, mark e)
    (path : Path (step gnrc) anything w trace w') (start : quiet w) (calm : ∀ e ∈ trace, ¬ mark e) :
    quiet w' ∧ trace.countP (onTo a) = 0 ∧ (owed w a = 0 → trace.count (.actuator a .beeped) = 0 ∧ owed w' a = 0) := by
  induction path with
  | nil => exact ⟨start, by simp, fun empty => ⟨by simp, empty⟩⟩
  | snoc _ _ taken ih =>
    obtain ⟨held, unsent, silent⟩ := ih fun e member => calm e (List.mem_append_left _ member)
    have after := (kept held taken).resolve_right fun ⟨e, shown, marked⟩ => calm e (List.mem_append_right _ shown) marked
    have last := mute_step (mute _ held) taken
    refine ⟨after, by rw [List.countP_append, unsent, last], fun empty => ?_⟩
    obtain ⟨none, left⟩ := silent empty
    obtain ⟨none', left'⟩ := owed_none taken left last
    exact ⟨by rw [List.count_append, none, none'], left'⟩

/-- With each handler and each turn of a thread run to its end: from a state in which the
alarm is off, until it is engaged, and from one in which the actuator is not listed, until it
is, no ON is sent to the actuator. It beeps at most for the ONs that it is owed, if nothing is
doubled, and not at all if it is owed none, whatever is doubled. -/
theorem silence_reaches_the_actuators (gnrc : Gnrc) (site : Site) (w w' : State site) (trace : List (Event site))
    (a : site.Actuators) (path : Path (step gnrc) anything w trace w')
    (calm : Off w ∧ .gateway .engaged ∉ trace ∨ Unlisted a w ∧ ∀ e ∈ trace, lists a e = false) :
    trace.countP (onTo a) = 0 ∧
      (Path (step gnrc) (fun _ action => copies action = false) w trace w' →
        trace.count (.actuator a .beeped) + owed w' a ≤ owed w a) ∧
      (owed w a = 0 → .actuator a .beeped ∉ trace) := by
  obtain ⟨unsent, silent⟩ : trace.countP (onTo a) = 0 ∧
      (owed w a = 0 → trace.count (.actuator a .beeped) = 0 ∧ owed w' a = 0) := by
    rcases calm with ⟨off, unengaged⟩ | ⟨unlisted, unstored⟩
    · have still : ∀ t : State site, Off t → Off t ∨ Unlisted a t := fun _ => .inl
      have mute := mute_path still (fun off taken => (off.step taken).imp_right fun shown => ⟨_, shown, rfl⟩) path off
        (fun e member same => unengaged (same ▸ member))
      exact mute.2
    · have still : ∀ t : State site, Unlisted a t → Off t ∨ Unlisted a t := fun _ => .inr
      have mute := mute_path still (fun unlisted taken => unlisted.step taken) path unlisted
        (fun e member => by simp [unstored e member])
      exact mute.2
  refine ⟨unsent, fun single => ?_, fun empty => List.count_eq_zero.mp (silent empty).1⟩
  have beeps := single.at_most (fun _ => True) (onTo a) (· == (.actuator a .beeped : Event site)) (owed · a)
    (fun _ ok taken => ⟨trivial, (owed_step taken a).2 ok⟩) trivial
  rw [unsent, Nat.add_zero] at beeps
  exact beeps.2

/-- The alarm is disengaged, the sensor touched, and the alarm thread takes its turn. -/
theorem silence_reaches_the_actuators_run :
    ∃ (w w' : State house) (trace : List (Event house)), Path (step board) anything w trace w' ∧
      .heard (.inl ()) .fire ∈ trace ∧ .actuator () .beeped ∉ trace := by
  let later : List (Action house) := touched.take 6 ++ gatewayActions [.run .alarm]
  have run : ∃ (w : State house) (trace : List (Event house)), Path (step board) anything (boot house) trace w ∧
      (w.server.globals.isEngaged = false ∧ owed w () = 0) ∧ (replay (step board) anything w later).any
        (fun r => .gateway .engaged ∉ r.2 ∧ .heard (.inl ()) .fire ∈ r.2) = true :=
    replay_reaches (furnished ++ typed (.disengage []) 1) (fun (w : State house) (_ : List (Event house)) =>
      (w.server.globals.isEngaged = false ∧ owed w () = 0) ∧ (replay (step board) anything w later).any
        (fun r => .gateway .engaged ∉ r.2 ∧ .heard (.inl ()) .fire ∈ r.2) = true) (by decide +kernel)
  obtain ⟨w, _, -, ⟨off, empty⟩, rerun⟩ := run
  obtain ⟨⟨w', trace⟩, replayed, after⟩ := (Option.any_eq_true _ _).mp rerun
  obtain ⟨unengaged, fire⟩ := of_decide_eq_true after
  have path := replay_path later replayed
  obtain ⟨-, -, silent⟩ := silence_reaches_the_actuators board house w w' trace () path (.inl ⟨off, unengaged⟩)
  exact ⟨w, w', trace, path, fire, silent empty⟩

end RiotAlarm.Installation
