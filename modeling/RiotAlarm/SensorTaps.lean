import RiotAlarm.SensorFilter

/-! Taps. The loop of an accelerometer compares each sample with the one before, and takes it
for a tap where the board pulls harder along the axis that it lay on. -/
namespace RiotAlarm.Sensor

open Transition

def size (value : Int16) : Nat := value.toInt.natAbs

/-- The axis that the board lies along, of which the first counts before the third and the
third before the second, and the acceleration along it grows by more than 200. -/
def Jumps (prev a : Accel) : Prop :=
  500 < size prev.xAxis ∧ size prev.xAxis + 200 < size a.xAxis ∨
  size prev.xAxis ≤ 500 ∧ 500 < size prev.zAxis ∧ size prev.zAxis + 200 < size a.zAxis ∨
  size prev.xAxis ≤ 500 ∧ size prev.zAxis ≤ 500 ∧ 500 < size prev.yAxis ∧ size prev.yAxis + 200 < size a.yAxis

/-- The axis that the side goes by. -/
theorem getSide_cases (a : Accel) :
    500 < size a.xAxis ∧ (getSide a = .left ∨ getSide a = .right) ∨
    size a.xAxis ≤ 500 ∧ 500 < size a.zAxis ∧ (getSide a = .bottom ∨ getSide a = .top) ∨
    size a.xAxis ≤ 500 ∧ size a.zAxis ≤ 500 ∧ 500 < size a.yAxis ∧ (getSide a = .down ∨ getSide a = .up) ∨
    size a.xAxis ≤ 500 ∧ size a.zAxis ≤ 500 ∧ size a.yAxis ≤ 500 ∧ getSide a = .noChange := by
  have thresh : LAY_THRESH = 500 := rfl
  unfold getSide size
  repeat' split
  all_goals
    simp only [reduceCtorEq, or_false, false_or, and_true, and_false, or_true]
    omega

theorem detectTap_iff (prev a : Accel) : detectTap prev a = true ↔ Jumps prev a := by
  have grows : ∀ b c : Int16, exceeds b c = true ↔ size c + 200 < size b := by
    intro b c
    have thresh : TAP_THRESH = 200 := rfl
    unfold exceeds size
    rw [decide_eq_true_eq]
    omega
  unfold Jumps detectTap
  rcases getSide_cases prev with ⟨x, side | side⟩ | ⟨x, z, side | side⟩ | ⟨x, z, y, side | side⟩ | ⟨x, z, y, side⟩
  all_goals
    simp only [side, grows, Bool.false_eq_true, false_iff]
    omega

variable {smooth : Int16 → Int16 → Int16}

/-- The samples that `mpu9x50_read_accel` gave, and whether the loop took them for taps. -/
structure Samples where
  taken : List Accel
  taps : List Bool

/-- What a statement of the loop body adds to the record. -/
def Samples.note (n : Node (mpuDetector smooth)) (m : Move (mpuDetector smooth)) (r : Samples) : Samples :=
  match m, n.loop with
  | .loop (reading : Accel), .body .readAccel => { r with taken := r.taken ++ [reading] }
  | .loop reading, .body .detectTap =>
    { r with taps := r.taps ++ [decide ((mpuStep smooth reading .detectTap n.count n.memory).next = some .beepShort)] }
  | _, _ => r

namespace Samples

/-- Each sample that was judged was taken for a tap exactly if it jumps from the one before. -/
def Judged (r : Samples) : Prop :=
  ∀ i a tapped, r.taken[i]? = some a → r.taps[i]? = some tapped →
    (tapped = true ↔ ∃ j prev, i = j + 1 ∧ r.taken[j]? = some prev ∧ Jumps prev a)

/-- What `accl_prev` holds when the next sample is judged. -/
def last (taken : List Accel) : Accel := taken.getLast?.getD .zero

theorem last_snoc (taken : List Accel) (a : Accel) : last (taken ++ [a]) = a := by simp [last]

theorem Judged.take {r : Samples} (judged : r.Judged) (few : r.taps.length ≤ r.taken.length) (a : Accel) :
    Judged { r with taken := r.taken ++ [a] } := by
  intro i b tapped there flag
  have inside : i < r.taken.length := Nat.lt_of_lt_of_le (List.getElem?_eq_some_iff.mp flag).1 few
  rw [List.getElem?_append_left inside] at there
  rw [judged i b tapped there flag]
  constructor
  · rintro ⟨j, prev, rfl, before, jumps⟩
    exact ⟨j, prev, rfl, by rwa [List.getElem?_append_left (by omega)], jumps⟩
  · rintro ⟨j, prev, rfl, before, jumps⟩
    exact ⟨j, prev, rfl, by rwa [List.getElem?_append_left (by omega)] at before, jumps⟩

/-- The first sample is compared with zero, which lies on no side. -/
theorem first_no_tap (a : Accel) : detectTap .zero a = false := rfl

theorem Judged.judge {before : List Accel} {taps : List Bool} {a : Accel} (judged : Judged ⟨before ++ [a],taps⟩)
    (level : taps.length = before.length) : Judged ⟨before ++ [a],taps ++ [detectTap (last before) a]⟩ := by
  intro i b tapped there flag
  by_cases earlier : i < taps.length
  · rw [List.getElem?_append_left earlier] at flag
    exact judged i b tapped there flag
  · have bound : i < taps.length + 1 := by
      simpa using (List.getElem?_eq_some_iff.mp flag).1
    obtain rfl : i = taps.length := by omega
    obtain rfl : detectTap (last before) a = tapped := by simpa using flag
    obtain rfl : a = b := by simpa [level] using there
    rcases List.eq_nil_or_concat before with rfl | ⟨front, prev, rfl⟩
    · have none : ¬ ∃ j prev, taps.length = j + 1 ∧ [a][j]? = some prev ∧ Jumps prev a := by
        rintro ⟨j, prev, late, -⟩
        simp [level] at late
      simpa [last, first_no_tap] using none
    · simp only [List.concat_eq_append, List.length_append, List.length_singleton] at level ⊢
      rw [last_snoc, detectTap_iff]
      have here : (front ++ [prev] ++ [a])[front.length]? = some prev := by simp
      constructor
      · exact fun jumps => ⟨front.length, prev, level, here, jumps⟩
      · rintro ⟨j, prev', late, before, jumps⟩
        obtain rfl : j = front.length := by omega
        obtain rfl : prev = prev' := Option.some.inj (here.symm.trans before)
        exact jumps

end Samples

/-- Where the loop is with a sample: the last one has been judged and kept in `accl_prev`, or
one is still to be judged, or it is still to be kept. -/
inductive TapPhase where
  | kept
  | sampled
  | judged

def MpuBody.tapPhase : MpuBody → TapPhase
  | .readAccel | .usleep => .kept
  | .detectTap => .sampled
  | _ => .judged

def LoopPoint.tapPhase : LoopPoint MpuBody → TapPhase
  | .body next => next.tapPhase
  | _ => .kept

/-- The loop's variables in accordance with the samples. -/
def Samples.Agree (r : Samples) (m : MpuMemory) : TapPhase → Prop
  | .kept => r.taps.length = r.taken.length ∧ m.acclPrev = last r.taken
  | .sampled => ∃ before, r.taken = before ++ [m.accl] ∧ r.taps.length = before.length ∧ m.acclPrev = last before
  | .judged => r.taps.length = r.taken.length ∧ m.accl = last r.taken

/-- All samples have been judged but for the last one. -/
theorem Samples.Agree.few {r : Samples} {m : MpuMemory} {phase : TapPhase} (agree : r.Agree m phase) :
    r.taps.length ≤ r.taken.length ∧ r.taken.length ≤ r.taps.length + 1 := by
  cases phase with
  | kept | judged =>
    have level := agree.1
    omega
  | sampled =>
    obtain ⟨before, taken, level, -⟩ := agree
    simp [taken, level]

/-- The record of a statement of the loop body. -/
theorem Samples.Agree.body {n : Node (mpuDetector smooth)} {r : Samples} {body : MpuBody} (at_ : n.loop = .body body)
    (reading : Accel) (agree : r.Agree n.memory body.tapPhase) (judged : r.Judged) :
    let outcome := mpuStep smooth reading body n.count n.memory
    (Samples.note n (.loop reading) r).Agree outcome.memory
      (match outcome.next with | none => .kept | some next => next.tapPhase) ∧
    (Samples.note n (.loop reading) r).Judged := by
  cases body with
  | readAccel =>
    simp only [note, at_]
    exact ⟨⟨r.taken, rfl, agree.1, agree.2⟩, judged.take agree.few.1 reading⟩
  | detectTap =>
    obtain ⟨before, taken, level, prev⟩ := agree
    obtain ⟨front, taps⟩ := r
    obtain rfl : front = before ++ [n.memory.accl] := taken
    have flag : decide ((mpuStep smooth reading .detectTap n.count n.memory).next = some .beepShort) =
        detectTap (last before) n.memory.accl := by
      rw [← prev]
      cases tap : detectTap n.memory.acclPrev n.memory.accl <;> simp [mpuStep, tap]
    simp only [note, at_, flag]
    refine ⟨?_, judged.judge level⟩
    have after : ∀ next : MpuBody, next.tapPhase = .judged →
        Samples.Agree ⟨before ++ [n.memory.accl],taps ++ [detectTap (last before) n.memory.accl]⟩ n.memory next.tapPhase := by
      intro next phase
      rw [phase]
      exact ⟨by simpa using level, (last_snoc before n.memory.accl).symm⟩
    cases tap : detectTap n.memory.acclPrev n.memory.accl <;> simpa only [mpuStep, tap] using after _ rfl
  | compare =>
    simp only [note, at_, mpuStep]
    refine ⟨?_, judged⟩
    split <;> exact agree
  | _ =>
    simp only [note, at_]
    exact ⟨agree, judged⟩

/-- A node and its samples. -/
structure Tapped (w : Node (mpuDetector smooth) × Samples) : Prop where
  born : w.1.main ≠ .shell → w.1.loop = .unborn
  agree : w.2.Agree w.1.memory (LoopPoint.tapPhase w.1.loop)
  judged : w.2.Judged

theorem tapPhase_outside {loop : LoopPoint MpuBody} (entered : ∀ b, loop = .body b → b = .readAccel) : loop.tapPhase = .kept := by
  cases loop with
  | body b =>
    rw [entered b rfl]
    rfl
  | _ => rfl

theorem note_outside {n : Node (mpuDetector smooth)} {m : Move (mpuDetector smooth)}
    (outside : ∀ reading b, m = .loop reading → n.loop ≠ .body b) (r : Samples) : r.note n m = r := by
  unfold Samples.note
  split
  next reading at_ => exact absurd at_ (outside reading _ rfl)
  next reading at_ => exact absurd at_ (outside reading _ rfl)
  next => rfl

theorem Tapped.step {w w' : Node (mpuDetector smooth) × Samples} {m : Move (mpuDetector smooth)} (held : Tapped w)
    (taken : recorded Sensor.step Samples.note w m = some (w',events)) : Tapped w' := by
  obtain ⟨n, r⟩ := w
  obtain ⟨⟨n', events⟩, ran, same⟩ := Option.map_eq_some_iff.mp taken
  cases same
  have born := born_step held.born ran
  by_cases inside : ∃ (reading : Accel) (b : MpuBody), m = .loop reading ∧ n.loop = .body b
  · obtain ⟨reading, b, rfl, at_⟩ := inside
    have agree : r.Agree n.memory b.tapPhase := by
      have before := held.agree
      simp only [at_] at before
      exact before
    obtain ⟨after, judged⟩ := agree.body at_ reading held.judged
    have outcome : n' = (bodyStep (d := mpuDetector smooth) n reading b).1 := by
      simp only [Sensor.step, loopStep, at_, Option.some.injEq] at ran
      rw [ran]
    have memory : n'.memory = (mpuStep smooth reading b n.count n.memory).memory := by
      rw [outcome]
      rfl
    have phase : LoopPoint.tapPhase n'.loop =
        match (mpuStep smooth reading b n.count n.memory).next with
        | none => .kept
        | some next => next.tapPhase := by
      rw [outcome]
      cases next : (mpuStep smooth reading b n.count n.memory).next with
      | none =>
        have ends : ((mpuDetector smooth).step reading b n.count n.memory).next = none := next
        simp only [bodyStep, ends]
        rfl
      | some b' =>
        have goes : ((mpuDetector smooth).step reading b n.count n.memory).next = some b' := next
        simp only [bodyStep, goes]
        rfl
    refine ⟨born, ?_, judged⟩
    change (Samples.note n (.loop reading) r).Agree n'.memory (LoopPoint.tapPhase n'.loop)
    rw [memory, phase]
    exact after
  · have outside : ∀ reading b, m = .loop reading → n.loop ≠ .body b :=
      fun reading b move at_ => inside ⟨reading, b, move, at_⟩
    obtain ⟨memory, loop⟩ := besides_body held.born outside ran
    rw [note_outside outside]
    refine ⟨born, ?_, held.judged⟩
    have phase : LoopPoint.tapPhase n'.loop = LoopPoint.tapPhase n.loop := by
      rcases loop with same | ⟨apart, entered⟩
      · rw [same]
      · rw [tapPhase_outside entered, tapPhase_outside fun b at_ => absurd at_ (apart b)]
    change r.Agree n'.memory (LoopPoint.tapPhase n'.loop)
    rw [memory, phase]
    exact held.agree

/-- Every run of the node has such a record, and in every one of them, however often the node
is told to stop and to start again, the loop takes a sample for a tap exactly if it jumps from
the one that the loop had read before. -/
theorem taps_are_jumps (smooth : Int16 → Int16 → Int16) :
    (∀ trace n, Path step anything (boot (mpuDetector smooth)) trace n →
      ∃ r, Path (recorded step Samples.note) anything (boot (mpuDetector smooth),⟨[],[]⟩) trace (n,r)) ∧
    ∀ trace n r, Path (recorded step Samples.note) anything (boot (mpuDetector smooth),⟨[],[]⟩) trace (n,r) →
      r.taps.length ≤ r.taken.length ∧ r.taken.length ≤ r.taps.length + 1 ∧ r.Judged := by
  refine ⟨fun trace n path => path.record Samples.note _, fun trace n r path => ?_⟩
  have start : Tapped (boot (mpuDetector smooth),⟨[],[]⟩) := ⟨fun _ => rfl, ⟨rfl, rfl⟩, by simp [Samples.Judged]⟩
  have held := path.state_invariant Tapped (fun held _ taken => held.step taken) start
  exact ⟨held.agree.few.1, held.agree.few.2, held.judged⟩

/-- A knock on a board that lies on its left side. -/
def knocked : List (Move mpu) :=
  [.main,.main,.main,.main,.message (some REGISTER_RESPONSE),.gcoap,.gcoap] ++
    List.replicate 10 (.loop (⟨600,0,0⟩ : Accel)) ++ List.replicate 3 (.loop (⟨900,0,0⟩ : Accel))

theorem taps_are_jumps_run : ∃ n trace r, Path (recorded step Samples.note) anything (boot mpu,⟨[],[]⟩) trace (n,r) ∧
    r.taken = [⟨600,0,0⟩,⟨900,0,0⟩] ∧ Jumps ⟨600,0,0⟩ ⟨900,0,0⟩ := by
  have run : ∃ (w : Node mpu × Samples) (trace : List Event),
      Path (recorded step Samples.note) anything (boot mpu,⟨[],[]⟩) trace w ∧
        w.2.taken = [⟨600,0,0⟩,⟨900,0,0⟩] ∧ w.2.taps = [false,true] :=
    replay_reaches knocked (fun (w : Node mpu × Samples) (_ : List Event) =>
      w.2.taken = [⟨600,0,0⟩,⟨900,0,0⟩] ∧ w.2.taps = [false,true]) (by decide +kernel)
  obtain ⟨⟨n, r⟩, trace, path, taken, taps⟩ := run
  obtain ⟨-, -, judged⟩ := (taps_are_jumps exactSmooth).2 trace n r path
  obtain ⟨j, prev, late, before, jumps⟩ := (judged 1 ⟨900,0,0⟩ true (by rw [taken]; rfl) (by rw [taps]; rfl)).mp rfl
  obtain rfl : j = 0 := by omega
  have first : r.taken[0]? = some ⟨600,0,0⟩ := by
    change r.taken = _ at taken
    rw [taken]
    rfl
  obtain rfl : (⟨600,0,0⟩ : Accel) = prev := Option.some.inj (first.symm.trans before)
  exact ⟨n, trace, r, path, taken, jumps⟩

end RiotAlarm.Sensor
