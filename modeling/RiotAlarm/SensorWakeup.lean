import RiotAlarm.SensorNode

/-! The sensor's wake-up: which orders of AUTH and DEAU against the detection loop leave
the loop awake while the node is connected. -/
namespace RiotAlarm.Sensor

open Transition

variable {d : Detector} {n n' : Node d} {m : Move d} {events trace : List Event}

def LoopPoint.sleeping : LoopPoint Body → Bool
  | .created => true
  | .asleep => true
  | _ => false

/-- A wake-up is lost on a thread that is not there yet, and on one that has found the
node disconnected and not gone to sleep. -/
def LoopPoint.deaf : LoopPoint Body → Bool
  | .unborn => true
  | .puts => true
  | .reset => true
  | .sleep => true
  | _ => false

/-- The handler of an AUTH is being executed. -/
def GcoapPoint.authorizing : GcoapPoint → Bool
  | .connect => true
  | .wakeup => true
  | _ => false

/-- The detection thread does not sleep while the node is connected. -/
def Awake (n : Node d) : Prop :=
  n.gcoap.authorizing = false → n.connectionStatus = true → n.loop.sleeping = false

/-- No `thread_wakeup` on a thread that cannot hear it. -/
def audible (n : Node d) : Move d → Prop
  | .gcoap => n.gcoap = .wakeup → n.loop.deaf = false
  | _ => True

instance (n : Node d) (m : Move d) : Decidable (audible n m) := by
  cases m <;> unfold audible <;> infer_instance

/-- Of a connected node either the loop is past the test of `connection_status` or its
wake-up is still to come. -/
structure Wakeful (n : Node d) : Prop where
  awake : n.connectionStatus = true → n.gcoap ≠ .wakeup → n.loop.deaf = false ∧ n.loop.sleeping = false
  unborn : n.main ≠ .shell → n.loop = .unborn

namespace Wakeful

/-- Where the handler, the loop and the flag are left alone. -/
theorem keep (held : Wakeful n) (same : SameConnection n n') : Wakeful n' := by
  constructor
  · rw [same.connectionStatus, same.gcoap, same.loop]
    exact held.awake
  · rw [same.main, same.loop]
    exact held.unborn

theorem main (held : Wakeful n) (run : mainStep n = some (n',events)) : Wakeful n' := by
  cases at_ : n.main with
  | registerThread | statusThread | detectionThread =>
    have unborn := held.unborn (by simp [at_])
    simp only [mainStep, at_, Option.some.injEq, Prod.mk.injEq] at run
    rw [← run.1]
    exact ⟨held.awake, fun _ => unborn⟩
  | sensorRunThread =>
    have unborn := held.unborn (by simp [at_])
    simp only [mainStep, at_, Option.some.injEq, Prod.mk.injEq] at run
    rw [← run.1]
    refine ⟨?_, fun other => absurd rfl other⟩
    -- a node that is connected before the thread exists has its wake-up before it
    intro connected waiting
    have hears := (held.awake connected waiting).1
    simp [unborn, LoopPoint.deaf] at hears
  | shell => simp [mainStep, at_] at run

theorem message (held : Wakeful n) (idle : n.gcoap = .idle) (payload : Option CString) :
    Wakeful { n with gcoap := dispatch payload } := by
  refine ⟨?_, held.unborn⟩
  intro connected _
  exact held.awake connected (by simp [idle])

theorem gcoap (held : Wakeful n) (ok : n.gcoap = .wakeup → n.loop.deaf = false)
    (run : gcoapStep n = some (n',events)) : Wakeful n' := by
  cases at_ : n.gcoap with
  | idle => simp [gcoapStep, at_] at run
  | connect | disconnect =>
    simp only [gcoapStep, at_, Option.some.injEq, Prod.mk.injEq] at run
    rw [← run.1]
    exact ⟨by simp, held.unborn⟩
  | wakeup =>
    have hears := ok at_
    simp only [gcoapStep, at_, Option.some.injEq, Prod.mk.injEq] at run
    rw [← run.1]
    constructor
    · intro _ _
      cases loop : n.loop with
      | unborn | puts | reset | sleep => simp [loop, LoopPoint.deaf] at hears
      | created | check | asleep | body => simp [LoopPoint.wakeup, LoopPoint.deaf, LoopPoint.sleeping]
    · intro early
      have unborn := held.unborn early
      simp [unborn, LoopPoint.deaf] at hears
  | puts =>
    have apart := held.awake
    simp only [gcoapStep, at_, Option.some.injEq, Prod.mk.injEq] at run
    rw [← run.1]
    refine ⟨?_, held.unborn⟩
    intro connected _
    exact apart connected (by simp [at_])

theorem loop (held : Wakeful n) (run : loopStep n reading = some (n',events)) : Wakeful n' := by
  have born : n.loop ≠ .unborn → n.main = .shell := by
    intro other
    by_contra early
    exact other (held.unborn early)
  cases at_ : n.loop with
  | unborn | created | asleep => simp [loopStep, at_] at run
  | check =>
    simp only [loopStep, at_, Option.some.injEq, Prod.mk.injEq] at run
    rw [← run.1]
    refine ⟨?_, fun early => absurd (born (by simp [at_])) early⟩
    intro connected _
    simp only at connected
    simp [connected, LoopPoint.deaf, LoopPoint.sleeping]
  | puts | reset | sleep =>
    -- the thread is deaf, so a connected node has its wake-up still before it
    have before := held.awake
    simp only [at_, LoopPoint.deaf, Bool.true_eq_false, false_and] at before
    simp only [loopStep, at_, Option.some.injEq, Prod.mk.injEq] at run
    rw [← run.1]
    refine ⟨?_, fun early => absurd (born (by simp [at_])) early⟩
    intro connected waiting
    exact (before connected waiting).elim
  | body next =>
    simp only [loopStep, at_, Option.some.injEq] at run
    have after : (bodyStep n reading next).1 = n' := congrArg Prod.fst run
    rw [← after]
    refine ⟨?_, fun early => absurd (born (by simp [at_])) early⟩
    intro _ _
    simp only [bodyStep]
    split <;> exact ⟨rfl, rfl⟩

theorem step (held : Wakeful n) (ok : audible n m) (taken : Sensor.step n m = some (n',events)) : Wakeful n' := by
  cases m with
  | main => exact held.main taken
  | message payload =>
    simp only [Sensor.step] at taken
    split at taken
    next idle =>
      cases taken
      exact held.message idle payload
    next => contradiction
  | gcoap => exact held.gcoap ok taken
  | registerButton | testButton =>
    cases taken
    exact held.keep ⟨rfl, rfl, rfl, rfl⟩
  | registerThread | statusThread | detectionThread | unsent => exact held.keep (sends_frame rfl taken)
  | loop reading => exact held.loop taken

end Wakeful

/-- With either detector: as long as every `thread_wakeup` meets a thread that can hear
it, the detection thread is not left asleep while the node is connected. -/
theorem no_lost_wakeup (path : Path step audible (boot d) trace n) : Awake n := by
  have initial : Wakeful (boot d) := ⟨by simp [boot], fun _ => rfl⟩
  have held : Wakeful n := path.state_invariant Wakeful (fun held ok taken => held.step ok taken) initial
  intro settled connected
  have done : n.gcoap ≠ .wakeup := by
    intro at_
    simp [at_, GcoapPoint.authorizing] at settled
  exact (held.awake connected done).2

/-- The second AUTH comes between the test of `connection_status` and `thread_sleep`. -/
def wakeupOverrun : List (Move irDetector) :=
  started ++ auth ++ deau ++ turns 1 ++ auth ++ turns 3

theorem wakeup_is_lost :
    ¬ ∀ (d : Detector) trace (n : Node d), Path step anything (boot d) trace n → Awake n := by
  intro claim
  have run : ∃ n trace, Path step anything (boot irDetector) trace n ∧
      n.gcoap.authorizing = false ∧ n.connectionStatus = true ∧ n.loop.sleeping = true :=
    replay_reaches wakeupOverrun (fun (n : Node irDetector) _ =>
      n.gcoap.authorizing = false ∧ n.connectionStatus = true ∧ n.loop.sleeping = true) (by decide)
  obtain ⟨n, trace, path, settled, connected, sleeps⟩ := run
  have awake := claim irDetector trace n path settled connected
  simp [sleeps] at awake

/-- The second AUTH finds the thread asleep. -/
theorem no_lost_wakeup_run :
    ∃ (n : Node irDetector) (trace : List Event), Path step audible (boot irDetector) trace n ∧
      n.gcoap.authorizing = false ∧ n.connectionStatus = true ∧ Awake n := by
  have run : ∃ n trace, Path step audible (boot irDetector) trace n ∧
      n.gcoap.authorizing = false ∧ n.connectionStatus = true :=
    replay_reaches (started ++ auth ++ deau ++ turns 4 ++ auth)
      (fun (n : Node irDetector) _ => n.gcoap.authorizing = false ∧ n.connectionStatus = true) (by decide)
  obtain ⟨n, trace, path, settled, connected⟩ := run
  exact ⟨n, trace, path, settled, connected, no_lost_wakeup path⟩

end RiotAlarm.Sensor
