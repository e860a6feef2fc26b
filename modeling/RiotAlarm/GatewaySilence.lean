import RiotAlarm.GatewayPreemption

/-! Silence after a disengagement, with the sends of a traversal taken one by one. -/
namespace RiotAlarm.Gateway

open Transition

variable {gnrc : Gnrc} {during trace events : List Event} {b c : Board} {m : Move}

def isEngaged : Event → Bool
  | .engaged => true
  | _ => false

def Event.ringsOn : Event → Bool
  | .sent .on _ _ => true
  | _ => false

/-- The alarm thread has read that it must ring and has a node left to ring, or does
not know yet. -/
def Board.ringing (b : Board) : Bool :=
  match b.alarm with
  | .enter => true
  | .fire ptr => ptr.isSome
  | .advance ptr =>
    match b.globals.actuators.node ptr with
    | none => true
    | some node => node.next.isSome
  | _ => false

/-- No disengagement while a traversal has a node left to ring. -/
def unhurried (b : Board) (m : Move) : Prop := b.deactivates m = true → b.ringing = false

instance (b : Board) (m : Move) : Decidable (unhurried b m) := by
  unfold unhurried
  infer_instance

/-- No step sends ON when the alarm was disengaged since it was last engaged. -/
def Silent (gnrc : Gnrc) (during : List Event) (b : Board) : Prop :=
  ∀ m c events, boardStep gnrc b m = some (c,events) → events.any Event.ringsOn = true → .deactivated ∉ during

/-- After a disengagement the alarm is off and no traversal goes on. -/
def Hushed (during : List Event) (b : Board) : Prop :=
  .deactivated ∈ during → b.globals.isEngaged = false ∧ b.ringing = false

/-- Neither a handler that runs as a whole nor a statement of the shell thread rings. -/
theorem whole_mute (taken : step gnrc s a = some (t,events)) (whole : a.whole = true) :
    events.any Event.ringsOn = false := by
  rcases step_cases taken with ⟨command, -, -, -, rfl⟩ | ⟨-, run⟩ | ⟨handler, rfl, -, -, run⟩
  · rfl
  · simp only [List.any_eq_false]
    intro event member
    have spoken := shellStep_spoken run event member
    cases event <;> simp_all [Event.spoken, Event.ringsOn]
    split at spoken <;> simp_all
  · have shown : (handle gnrc s.globals handler).2 = events := congrArg Prod.snd run
    rw [← shown]
    cases handler with
    | tap | testButton | wdt | alarm => simp [Action.whole] at whole
    | disEngageButton => rfl
    | status payload => rfl
    | register kind payload =>
      simp only [handle]
      rcases register_cases gnrc kind s.globals payload with ⟨id, g, -, -, -, -, ran, -⟩ | ⟨-, ran⟩ | ran <;>
        rw [ran] <;> rfl

theorem aside_mute (aside : ∀ event ∈ events, event.aside = true) : events.any Event.ringsOn = false := by
  simp only [List.any_eq_false]
  intro event member
  have := aside event member
  cases event <;> simp_all [Event.aside, Event.ringsOn]

/-- ON is sent by the alarm thread alone, where it stands at a node. -/
theorem ringsOn_ringing (taken : boardStep gnrc b m = some (c,events)) (rang : events.any Event.ringsOn = true) :
    b.ringing = true := by
  rcases boardStep_cases taken with
    ⟨action, -, whole, run, -⟩ | ⟨tap, -, rfl, -⟩ | ⟨-, -, rfl⟩ |
    ⟨-, g, point, run, -⟩ | ⟨-, g, point, run, -⟩ | ⟨-, g, point, run, -⟩ | ⟨-, g, point, run, -⟩
  · simp [whole_mute run whole] at rang
  · simp at rang
  · simp at rang
  · simp [aside_mute (tapStep_aside run).aside] at rang
  · simp [aside_mute (testStep_aside run).aside] at rang
  · simp [aside_mute (wdtStep_aside run).aside] at rang
  · rcases alarmStep_cases run with ⟨a, node, at_, -⟩ | ⟨-, -, rfl, -⟩ | ⟨-, rfl, -⟩
    · simp [Board.ringing, at_]
    · simp at rang
    · simp at rang

/-! What an ON is sent for. -/

/-- The alarm thread's turn that is under way began at a moment of the run, for a cause that was
raised after the alarm had been engaged. -/
def Begun (gnrc : Gnrc) (trace : List Event) : Prop :=
  ∃ past later u, trace = past ++ later ∧ Path (boardStep gnrc) guarded boot past u ∧ u.alarm = .idle ∧
    (u.globals.isTimeout = true ∨ u.globals.isSensorFired = true) ∧ u.globals.isEngaged = true ∧
    Caused (since isDeactivated past)

theorem Begun.append {gnrc : Gnrc} (begun : Begun gnrc trace) (events : List Event) : Begun gnrc (trace ++ events) := by
  obtain ⟨past, later, u, rfl, path, idle, cause, engaged, caused⟩ := begun
  exact ⟨past, later ++ events, u, by simp, path, idle, cause, engaged, caused⟩

/-- The thread leaves its pause only for a cause, while the alarm is engaged. -/
theorem alarmStep_enters (run : alarmStep g .idle = some (g',events,point)) (enters : point ≠ .idle) :
    (g.isTimeout = true ∨ g.isSensorFired = true) ∧ g.isEngaged = true := by
  cases run
  split at enters
  next rings => simpa using rings
  next => exact absurd rfl enters

theorem begun_path {gnrc : Gnrc} (path : Path (boardStep gnrc) guarded boot trace b) :
    b.alarm ≠ .idle → Begun gnrc trace := by
  induction path with
  | nil => simp [boot]
  | @snoc trace b m c events before ok taken ih =>
    intro busy
    by_cases idle : b.alarm = .idle
    · rcases boardStep_cases taken with
        ⟨action, -, -, -, same⟩ | ⟨tap, rfl, -⟩ | ⟨-, rfl, -⟩ |
        ⟨-, g, point, -, rfl⟩ | ⟨-, g, point, -, rfl⟩ | ⟨-, g, point, -, rfl⟩ | ⟨-, g, point, run, rfl⟩
      · rw [same] at busy
        exact absurd idle busy
      · exact absurd idle busy
      · exact absurd idle busy
      · exact absurd idle busy
      · exact absurd idle busy
      · exact absurd idle busy
      · rw [idle] at run
        obtain ⟨cause, engaged⟩ := alarmStep_enters run busy
        exact ⟨trace, events, b, rfl, before, idle, cause, engaged, ((armed_path before).cause cause).2⟩
    · exact (ih idle).append events

/-- As long as no disengagement comes between a test of `is_engaged` and the flag it guards, an
ON is sent only in a turn of the alarm thread that began for a cause, and this cause was raised
after the engage command that came after the last disengagement before the turn: what happened
before the alarm was engaged again never rings. -/
theorem rings_for_a_cause {gnrc : Gnrc} (path : Path (boardStep gnrc) guarded boot trace b)
    (taken : boardStep gnrc b m = some (c,events)) (rang : events.any Event.ringsOn = true) : Begun gnrc trace := by
  refine begun_path path fun idle => ?_
  have ringing := ringsOn_ringing taken rang
  simp [Board.ringing, idle] at ringing

namespace Hushed

/-- A traversal behind its last node stays there, whatever happens to the list. -/
theorem ringing_keep (quiet : b.ringing = false) (same : c.alarm = b.alarm)
    (ends : ∀ a, b.globals.actuators.Ends a → c.globals.actuators.Ends a) : c.ringing = false := by
  cases at_ : b.alarm with
  | advance ptr =>
    simp only [Board.ringing, at_] at quiet
    split at quiet
    next => contradiction
    next node here =>
      have behind : node.next = none := by simpa using quiet
      obtain ⟨node', here', behind'⟩ := ends ptr ⟨node, here, behind⟩
      have found : c.globals.actuators.node ptr = some node' := here'
      simp [Board.ringing, same, at_, found, behind']
  | enter => simp [Board.ringing, at_] at quiet
  | fire ptr => simpa [Board.ringing, same, at_] using quiet
  | idle | clear => simp [Board.ringing, same, at_]

theorem keep (held : Hushed during b) (same : c.alarm = b.alarm)
    (isEngaged : c.globals.isEngaged = b.globals.isEngaged)
    (ends : ∀ a, b.globals.actuators.Ends a → c.globals.actuators.Ends a)
    (plain : .deactivated ∉ events) : Hushed (during ++ events) c := by
  intro off
  obtain ⟨disengaged, quiet⟩ := held ((List.mem_append.mp off).resolve_right plain)
  exact ⟨isEngaged.trans disengaged, ringing_keep quiet same ends⟩

/-- A turn of the alarm thread does not start to ring when the alarm is off. -/
theorem alarm (held : Hushed during b) (run : alarmStep b.globals b.alarm = some (g,events,point)) :
    Hushed (during ++ events) { b.setGlobals g with alarm := point } := by
  intro off
  have plain : .deactivated ∉ events := by
    intro member
    have := alarmStep_not_deactivated run _ member
    simp [isDeactivated] at this
  obtain ⟨disengaged, quiet⟩ := held ((List.mem_append.mp off).resolve_right plain)
  rcases alarmStep_cases run with ⟨a, node, at_, -⟩ | ⟨-, rfl, -, rfl⟩ | ⟨rfl, -, turn⟩
  · simp [Board.ringing, at_] at quiet
  · exact ⟨disengaged, rfl⟩
  refine ⟨disengaged, ?_⟩
  rcases turn with ⟨-, rfl | ⟨-, on⟩⟩ | ⟨at_, -⟩ | ⟨-, rfl⟩ | ⟨a, node, at_, here, rfl⟩
  · rfl
  · simp [disengaged] at on
  · simp [Board.ringing, at_] at quiet
  · rfl
  · -- behind the last node the traversal is over
    simpa [Board.ringing, at_, here] using quiet

end Hushed

theorem calm_not_engaged (calm : ∀ event ∈ events, event.calm = true) : ∀ event ∈ events, isEngaged event = false := by
  intro event member
  have := calm event member
  cases event <;> simp_all [Event.calm, isEngaged]

theorem aside_not_engaged (aside : ∀ event ∈ events, event.aside = true) :
    ∀ event ∈ events, isEngaged event = false := by
  intro event member
  have := aside event member
  cases event <;> simp_all [Event.aside, isEngaged]

theorem Hushed.bystander (held : Hushed (since isEngaged trace) b) (same : c.alarm = b.alarm)
    (run : Bystander b.globals c.globals events) : Hushed (since isEngaged (trace ++ events)) c := by
  rw [since_append _ _ _ (aside_not_engaged run.aside)]
  apply held.keep same run.isEngaged
  · intro a ends
    rw [run.actuators]
    exact ends
  · intro member
    have := run.aside _ member
    simp [Event.aside] at this

theorem Hushed.step (held : Hushed (since isEngaged trace) b) (ok : unhurried b m)
    (taken : boardStep gnrc b m = some (c,events)) : Hushed (since isEngaged (trace ++ events)) c := by
  rcases boardStep_cases taken with
    ⟨action, rfl, whole, run, same⟩ | ⟨tap, rfl, rfl, -⟩ | ⟨-, rfl, rfl⟩ |
    ⟨-, g, point, run, rfl⟩ | ⟨-, g, point, run, rfl⟩ | ⟨-, g, point, run, rfl⟩ | ⟨-, g, point, run, rfl⟩
  · have ends : ∀ a, b.globals.actuators.Ends a → c.globals.actuators.Ends a := fun a => step_ends run
    have alarm : c.alarm = b.alarm := by rw [same]
    rcases whole_flags run whole with ⟨off, did⟩ | ⟨-, rfl⟩ | ⟨flags, calm⟩
    · -- the disengagement itself: no traversal has a node left
      intro _
      have after : c.globals = (deactivateAlarm b.globals).1 := congrArg Prod.fst did
      exact ⟨by simp [after, deactivateAlarm], ringing_keep (ok off) alarm ends⟩
    · rw [since_snoc]
      simp [Hushed, isEngaged]
    · rw [since_append _ _ _ (calm_not_engaged calm)]
      apply held.keep alarm flags.isEngaged ends
      intro member
      have := calm _ member
      simp [Event.calm] at this
  · exact held.bystander rfl ⟨rfl, rfl, by simp⟩
  · exact held.bystander rfl ⟨rfl, rfl, by simp⟩
  · exact held.bystander rfl (tapStep_aside run)
  · exact held.bystander rfl (testStep_aside run)
  · exact held.bystander rfl (wdtStep_aside run)
  · have plain : ∀ event ∈ events, isEngaged event = false := by
      rcases alarmStep_cases run with ⟨a, node, -, -, -, rfl, -⟩ | ⟨-, -, rfl, -⟩ | ⟨-, rfl, -⟩ <;> simp [isEngaged]
    rw [since_append _ _ _ plain]
    exact held.alarm run

/-- As long as no disengagement meets a traversal that has a node left to ring, no ON is
sent from a disengagement until the alarm is engaged again. -/
theorem silence_after_disengagement (path : Path (boardStep gnrc) unhurried boot trace b) :
    Silent gnrc (since isEngaged trace) b := by
  have initial : Hushed (since isEngaged []) boot := by simp [Hushed]
  have held := path.invariant (fun trace b => Hushed (since isEngaged trace) b)
    (fun held ok taken => held.step ok taken) initial
  intro m c events taken rang off
  have quiet := (held off).2
  simp [ringsOn_ringing taken rang] at quiet

/-- A second actuator. -/
def lamp : NodeIdentity := { act2 with name := tapsense.name }

def ring : List Move :=
  authorizeNode .actuator act2 ++ authorizeNode .actuator lamp ++ engageBoard ++
    [.testButton,.test,.test,.test,.test,.alarm,.alarm]

def traverseOverrun : List Move := ring ++ [.alarm,.server (.run .disEngageButton),.alarm]

/-- The second of two actuators is rung after the disengagement. -/
theorem rings_after_disengagement :
    ¬ ∀ gnrc trace b, Path (boardStep gnrc) anything boot trace b → Silent gnrc (since isEngaged trace) b := by
  intro claim
  have run : ∃ b trace, Path (boardStep board) anything boot trace b ∧
      (.deactivated ∈ since isEngaged trace) ∧
      (boardStep board b .alarm).any (fun next => next.2.any Event.ringsOn) = true :=
    replay_reaches traverseOverrun (fun (b : Board) trace => .deactivated ∈ since isEngaged trace ∧
      (boardStep board b .alarm).any (fun next => next.2.any Event.ringsOn) = true) (by decide)
  obtain ⟨b, trace, path, off, rings⟩ := run
  obtain ⟨⟨c, events⟩, taken, rang⟩ := (Option.any_eq_true _ _).mp rings
  exact claim board trace b path .alarm c events taken rang off

def traverseThenDisengage : List Move := ring ++ [.alarm,.alarm,.alarm,.server (.run .disEngageButton),.alarm,.alarm,.alarm]

theorem silence_after_disengagement_run :
    ∃ b trace, Path (boardStep board) unhurried boot trace b ∧ .deactivated ∈ since isEngaged trace ∧
      Silent board (since isEngaged trace) b := by
  have run : ∃ b trace, Path (boardStep board) unhurried boot trace b ∧ .deactivated ∈ since isEngaged trace :=
    replay_reaches traverseThenDisengage (fun (_ : Board) trace => .deactivated ∈ since isEngaged trace) (by decide)
  obtain ⟨b, trace, path, off⟩ := run
  exact ⟨b, trace, path, off, silence_after_disengagement path⟩

end RiotAlarm.Gateway
