import RiotAlarm.GatewayShell

/-! Every command ends. `register_node` polls at most 51 times for the node's registration, so
that the prompt comes back after a bounded number of the shell thread's own statements, whatever
requests, buttons and timers come between them. -/
namespace RiotAlarm.Gateway

open Transition

variable {gnrc : Gnrc} {s t : Server} {a : Action} {g g' : Globals} {shell shell' : Shell}

/-- The statements that an auth command has before it at most. -/
def AuthPoint.rest : AuthPoint → Nat
  | .start => 161
  | .check => 160
  | .prompt => 159
  | .timeout count => 3 * (51 - count) + 5
  | .flag count => 3 * (51 - count) + 4
  | .sleep count => 3 * (51 - count) + 3
  | .clear => 4
  | .log => 3
  | .respond => 2
  | .done _ => 1

def DeauthPoint.rest : DeauthPoint → Nat
  | .start => 4
  | .remove => 3
  | .log => 2
  | .done _ => 1

def Shell.rest : Shell → Nat
  | .auth _ _ point => point.rest
  | .deauth _ _ point => point.rest
  | .engage => 2
  | .engageLog | .disengage | .showActuators | .showLog _ => 1
  | .idle | .returned _ _ | .crashed => 0

theorem rest_le (shell : Shell) : shell.rest ≤ 161 := by
  cases shell with
  | auth kind name point => cases point <;> simp only [Shell.rest, AuthPoint.rest] <;> omega
  | deauth kind name point => cases point <;> simp [Shell.rest, DeauthPoint.rest]
  | _ => simp [Shell.rest]

/-- A poll comes after the test of the count. -/
def AuthPoint.Counted : AuthPoint → Prop
  | .flag count | .sleep count => count ≤ 50
  | _ => True

def Shell.Counted : Shell → Prop
  | .auth _ _ point => point.Counted
  | _ => True

/-- The prompt is back, or the board has stopped. -/
def Shell.Over (shell : Shell) : Prop := shell.ready = true ∨ shell = .crashed

theorem invoke_counted (command : Command) : (invoke command).Counted := by
  unfold invoke
  split <;> trivial

theorem authStep_rest (kind : Kind) (name : CString) {point : AuthPoint} (counted : point.Counted) :
    (authStep g kind name point).2.2.Counted ∧ (authStep g kind name point).2.2.rest < point.rest := by
  cases point with
  | start | prompt | clear | log | done => exact ⟨trivial, Nat.lt_succ_self _⟩
  | check | respond =>
    simp only [authStep]
    split <;> simp [Shell.Counted, AuthPoint.Counted, Shell.rest, AuthPoint.rest]
  | timeout count =>
    simp only [authStep]
    split
    next => exact ⟨trivial, by simp [Shell.rest, AuthPoint.rest]⟩
    next few => exact ⟨Nat.le_of_not_lt few, Nat.lt_succ_self _⟩
  | flag count =>
    have few : count ≤ 50 := counted
    simp only [authStep]
    split
    next => exact ⟨trivial, by simp only [Shell.rest, AuthPoint.rest]; omega⟩
    next => exact ⟨few, Nat.lt_succ_self _⟩
  | sleep count =>
    have few : count ≤ 50 := counted
    exact ⟨trivial, by simp only [authStep, Shell.rest, AuthPoint.rest]; omega⟩

theorem deauthStep_rest (kind : Kind) (name : CString) (point : DeauthPoint) :
    (deauthStep g kind name point).2.2.Counted ∧ (deauthStep g kind name point).2.2.rest < point.rest := by
  cases point with
  | start | log | done => exact ⟨trivial, Nat.lt_succ_self _⟩
  | remove =>
    simp only [deauthStep]
    split
    next => exact ⟨trivial, by simp [Shell.rest, DeauthPoint.rest]⟩
    next => exact ⟨trivial, by split <;> simp [Shell.rest, DeauthPoint.rest]⟩

/-- A statement of the shell thread brings the end of the command nearer. -/
theorem shellStep_rest (counted : shell.Counted) (running : ¬ shell.Over) :
    ∃ g' events shell', shellStep g shell = some (g',events,shell') ∧ shell'.Counted ∧ shell'.rest < shell.rest := by
  cases shell with
  | idle => exact absurd (.inl rfl) running
  | returned command code => exact absurd (.inl rfl) running
  | crashed => exact absurd (.inr rfl) running
  | auth kind name point => exact ⟨_, _, _, rfl, authStep_rest kind name counted⟩
  | deauth kind name point => exact ⟨_, _, _, rfl, deauthStep_rest kind name point⟩
  | engage | engageLog | disengage | showActuators | showLog => exact ⟨_, _, _, rfl, trivial, Nat.lt_succ_self _⟩

/-- The others leave the shell thread where it is. -/
theorem step_counted (counted : s.shell.Counted) (taken : step gnrc s a = some (t,events)) : t.shell.Counted := by
  rcases step_cases taken with ⟨command, -, -, rfl, -⟩ | ⟨-, run⟩ | ⟨handler, -, -, same, -⟩
  · exact invoke_counted command
  · by_cases ended : s.shell.Over
    · rcases ended with ready | crashed
      · cases at_ : s.shell <;> simp [at_, Shell.ready] at ready <;> simp [at_, shellStep] at run
      · simp [crashed, shellStep] at run
    · obtain ⟨g', events', shell', run', counted', -⟩ := @shellStep_rest s.globals s.shell counted ended
      cases run.symm.trans run'
      exact counted'
  · exact same ▸ counted

/-- A command that has been typed is over after at most 161 statements of the shell thread,
each of which can be executed when its turn comes, whatever requests, buttons and timers are
handled between them. -/
theorem every_command_ends (gnrc : Gnrc) (trace : List Event) (s : Server) (path : Path (step gnrc) anything start trace s) :
    FinishesIn (step gnrc) (fun _ a => a ≠ .shell) .shell (fun s => s.shell.Over) 161 s := by
  have counted := path.state_invariant (fun s => s.shell.Counted) (fun held _ taken => step_counted held taken) trivial
  apply finishes_in (fun s => s.shell.Counted) (fun s => s.shell.rest)
  · intro t a u events held running other taken
    rcases step_cases taken with ⟨command, -, ready, -⟩ | ⟨is, -⟩ | ⟨handler, -, -, same, -⟩
    · exact absurd (.inl ready) running
    · exact absurd is other
    · rw [same]
      exact ⟨held, Nat.le_refl _, running⟩
  · intro t held running
    obtain ⟨g', events, shell', run, held', less⟩ := @shellStep_rest t.globals t.shell held running
    exact ⟨⟨g',shell'⟩, events, by simp [step, run], held', less⟩
  · exact counted
  · exact rest_le s.shell

/-- An auth command whose node is not heard. -/
theorem every_command_ends_run :
    ∃ s trace, Path (step board) anything start trace s ∧ ¬ s.shell.Over ∧
      FinishesIn (step board) (fun _ a => a ≠ .shell) .shell (fun s => s.shell.Over) 161 s := by
  have run : ∃ s trace, Path (step board) anything start trace s ∧ (s.shell.ready = false ∧ s.shell ≠ .crashed) :=
    replay_reaches [.type (.auth .sensor [tapsense.name]),.shell] (fun (s : Server) _ =>
      s.shell.ready = false ∧ s.shell ≠ .crashed) (by decide)
  obtain ⟨s, trace, path, waiting, alive⟩ := run
  refine ⟨s, trace, path, ?_, every_command_ends board trace s path⟩
  rintro (ready | crashed)
  · simp [waiting] at ready
  · exact alive crashed

end RiotAlarm.Gateway
