import RiotAlarm.SensorNode
import RiotAlarm.Smoothing

/-! The orientation filter of the accelerometer board in exact arithmetic: where it comes
to rest under a sample that is held, and what it makes of samples that are not beyond
`LAY_THRESH`. -/
namespace RiotAlarm.Sensor

open Filter Smoothing Transition

/-- `(s * 0.99) + (c * 0.01)` in exact arithmetic, truncated toward zero. -/
def exactSmooth (s c : Int16) : Int16 := .ofInt (smooth 99 s.toInt c.toInt)

/-- The result fits its 16 bits. -/
theorem toInt_exactSmooth (s c : Int16) : (exactSmooth s c).toInt = smooth 99 s.toInt c.toInt := by
  have between := smooth_between 99 s.toInt c.toInt
  have := s.toInt_lt
  have := s.le_toInt
  have := c.toInt_lt
  have := c.le_toInt
  exact Int16.toInt_ofInt_of_le (by omega) (by omega)

/-- The three assignments to `accl_side`. -/
def Accel.filter (acclSide accl : Accel) : Accel :=
  ⟨exactSmooth acclSide.xAxis accl.xAxis,exactSmooth acclSide.yAxis accl.yAxis,exactSmooth acclSide.zAxis accl.zAxis⟩

theorem mpuStep_filter (reading : Accel) (count : Nat) (m : MpuMemory) :
    (mpuStep exactSmooth reading .filter count m).memory = { m with acclSide := m.acclSide.filter m.accl } := rfl

/-! A sample that is held. -/

/-- The filtered value after so many passes with the same sample. -/
def heldAxis (s c : Int16) (n : Nat) : Int16 := (fun v => exactSmooth v c)^[n] s

def heldSample (start sample : Accel) (n : Nat) : Accel := (fun v => v.filter sample)^[n] start

theorem toInt_heldAxis (s c : Int16) (n : Nat) : (heldAxis s c n).toInt = (fun v => smooth 99 v c.toInt)^[n] s.toInt := by
  induction n generalizing s with
  | zero => rfl
  | succ n ih =>
    rw [Function.iterate_succ_apply, ← toInt_exactSmooth]
    exact ih (exactSmooth s c)

theorem heldSample_axes (start sample : Accel) (n : Nat) : heldSample start sample n =
    ⟨heldAxis start.xAxis sample.xAxis n,heldAxis start.yAxis sample.yAxis n,heldAxis start.zAxis sample.zAxis n⟩ := by
  induction n generalizing start with
  | zero => rfl
  | succ n ih =>
    rw [heldSample, Function.iterate_succ_apply]
    exact ih (start.filter sample)

/-- Beyond `LAY_THRESH`, to either side. -/
def Lies (v : Int16) : Prop := LAY_THRESH < v.toInt ∨ v.toInt < -LAY_THRESH

/-- Beyond `LAY_THRESH` with the sign of `c`. -/
def LiesWith (c v : Int16) : Prop := 0 < c.toInt ∧ LAY_THRESH < v.toInt ∨ c.toInt < 0 ∧ v.toInt < -LAY_THRESH

/-- The sample is beyond the threshold by as much as the truncation takes, or the filter
starts on its side. -/
def Reaches (s c : Int16) : Prop := LAY_THRESH + 100 ≤ c.toInt ∨ c.toInt ≤ -(LAY_THRESH + 100) ∨ LiesWith c s

/-- Where the filter comes to rest, in terms of the threshold. -/
theorem settled_lies_iff (s : Int16) {c : Int16} (beyond : Lies c) :
    (0 < c.toInt ∧ LAY_THRESH < settled 99 c.toInt s.toInt ∨
      c.toInt < 0 ∧ settled 99 c.toInt s.toInt < -LAY_THRESH) ↔ Reaches s c := by
  simp only [Lies, Reaches, LiesWith, LAY_THRESH, settled, low, high] at beyond ⊢
  split <;> omega

def Small (v : Int) : Prop := -LAY_THRESH ≤ v ∧ v ≤ LAY_THRESH

theorem settled_small (s : Int16) {c : Int16} (within : ¬ Lies c) : Small c.toInt ∧ Small (settled 99 c.toInt s.toInt) := by
  simp only [Lies, Small, LAY_THRESH, settled, low, high] at within ⊢
  split <;> omega

/-- The filtered value of one axis. -/
theorem axis_reaches_iff (s : Int16) {c : Int16} (beyond : Lies c) :
    (∀ᶠ n in atTop, LiesWith c (heldAxis s c n)) ↔ Reaches s c := by
  have rests : ∀ᶠ n in atTop, LiesWith c (heldAxis s c n) ↔ Reaches s c := by
    filter_upwards [settles 99 c.toInt s.toInt] with n rest
    rw [LiesWith, toInt_heldAxis, rest]
    exact settled_lies_iff s beyond
  rw [eventually_congr rests, eventually_const]

/-- `_get_side` on the values of the axes. -/
def sideOf (x y z : Int) : Side :=
  if x > LAY_THRESH then .left
  else if x < -LAY_THRESH then .right
  else if z > LAY_THRESH then .bottom
  else if z < -LAY_THRESH then .top
  else if y > LAY_THRESH then .down
  else if y < -LAY_THRESH then .up
  else .noChange

theorem getSide_eq (a : Accel) : getSide a = sideOf a.xAxis.toInt a.yAxis.toInt a.zAxis.toInt := rfl

/-- The side depends on the value as it does on the only axis that lies. -/
def Tells (side : Int → Side) (plus minus : Side) : Prop :=
  ∀ v, (side v = plus ↔ LAY_THRESH < v) ∧ (side v = minus ↔ v < -LAY_THRESH)

theorem tells_x {y z : Int} (hy : Small y) (hz : Small z) : Tells (fun x => sideOf x y z) .left .right := by
  simp only [Tells, Small, sideOf, LAY_THRESH] at *
  grind

theorem tells_y {x z : Int} (hx : Small x) (hz : Small z) : Tells (fun y => sideOf x y z) .down .up := by
  simp only [Tells, Small, sideOf, LAY_THRESH] at *
  grind

theorem tells_z {x y : Int} (hx : Small x) (hy : Small y) : Tells (fun z => sideOf x y z) .bottom .top := by
  simp only [Tells, Small, sideOf, LAY_THRESH] at *
  grind

theorem tells_settled_iff (s : Int16) {c : Int16} (beyond : Lies c) (rest : Tells side plus minus)
    (sample : Tells side' plus minus) : side (settled 99 c.toInt s.toInt) = side' c.toInt ↔ Reaches s c := by
  have iff := settled_lies_iff s beyond
  rcases beyond with up | down
  · have positive : 0 < c.toInt := by
      rw [LAY_THRESH] at up
      omega
    rw [(sample c.toInt).1.mpr up, (rest _).1, ← iff]
    simp [positive, positive.le]
  · have negative : c.toInt < 0 := by
      rw [LAY_THRESH] at down
      omega
    rw [(sample c.toInt).2.mpr down, (rest _).2, ← iff]
    simp [negative, negative.le]

/-- Exactly one axis is beyond `LAY_THRESH`. -/
def Accel.LiesOnce (a : Accel) : Prop :=
  Lies a.xAxis ∧ ¬ Lies a.yAxis ∧ ¬ Lies a.zAxis ∨ ¬ Lies a.xAxis ∧ Lies a.yAxis ∧ ¬ Lies a.zAxis ∨
    ¬ Lies a.xAxis ∧ ¬ Lies a.yAxis ∧ Lies a.zAxis

/-- The filter reaches the sample on every axis that lies. -/
def Accel.Reaches (start sample : Accel) : Prop :=
  (Lies sample.xAxis → Sensor.Reaches start.xAxis sample.xAxis) ∧
    (Lies sample.yAxis → Sensor.Reaches start.yAxis sample.yAxis) ∧
    (Lies sample.zAxis → Sensor.Reaches start.zAxis sample.zAxis)

theorem side_reaches_iff (start : Accel) {sample : Accel} (once : sample.LiesOnce) :
    (∀ᶠ n in atTop, getSide (heldSample start sample n) = getSide sample) ↔ start.Reaches sample := by
  have rests : ∀ᶠ n in atTop, getSide (heldSample start sample n) = getSide sample ↔ start.Reaches sample := by
    filter_upwards [settles 99 sample.xAxis.toInt start.xAxis.toInt, settles 99 sample.yAxis.toInt start.yAxis.toInt,
      settles 99 sample.zAxis.toInt start.zAxis.toInt] with n x y z
    rw [heldSample_axes, getSide_eq, getSide_eq, toInt_heldAxis, toInt_heldAxis, toInt_heldAxis, x, y, z]
    rcases once with ⟨lies, hy, hz⟩ | ⟨hx, lies, hz⟩ | ⟨hx, hy, lies⟩
    · obtain ⟨sy, ry⟩ := settled_small start.yAxis hy
      obtain ⟨sz, rz⟩ := settled_small start.zAxis hz
      simpa [Accel.Reaches, lies, hy, hz] using tells_settled_iff start.xAxis lies (tells_x ry rz) (tells_x sy sz)
    · obtain ⟨sx, rx⟩ := settled_small start.xAxis hx
      obtain ⟨sz, rz⟩ := settled_small start.zAxis hz
      simpa [Accel.Reaches, lies, hx, hz] using tells_settled_iff start.yAxis lies (tells_y rx rz) (tells_y sx sz)
    · obtain ⟨sx, rx⟩ := settled_small start.xAxis hx
      obtain ⟨sy, ry⟩ := settled_small start.yAxis hy
      simpa [Accel.Reaches, lies, hx, hy] using tells_settled_iff start.zAxis lies (tells_z rx ry) (tells_z sx sy)
  rw [eventually_congr rests, eventually_const]

/-- The orientation of a sample that is held is reached on an axis, and by the vector, exactly
if the sample is beyond the threshold by at least 100 or the filter starts beyond it on the
sample's side. -/
theorem held_orientation_iff (s c : Int16) (start sample : Accel) :
    (Lies c → ((∀ᶠ n in atTop, LiesWith c (heldAxis s c n)) ↔ Reaches s c)) ∧
      (sample.LiesOnce →
        ((∀ᶠ n in atTop, getSide (heldSample start sample n) = getSide sample) ↔ start.Reaches sample)) :=
  ⟨axis_reaches_iff s, side_reaches_iff start⟩

/-- A board that is laid down on its face, from the filter's initial value. -/
def faceDown : Accel := ⟨0,0,16384⟩

theorem held_orientation_run : (∀ᶠ n in atTop, LiesWith 16384 (heldAxis 0 16384 n)) ∧
    ∀ᶠ n in atTop, getSide (heldSample .zero faceDown n) = .bottom := by
  have axis : Reaches 0 16384 := by simp [Reaches, LAY_THRESH]
  have beyond : Lies 16384 := by simp [Lies, LAY_THRESH]
  have once : faceDown.LiesOnce := by simp [Accel.LiesOnce, Lies, faceDown, LAY_THRESH]
  have reaches : Accel.zero.Reaches faceDown := by simp [Accel.Reaches, Reaches, Lies, faceDown, LAY_THRESH]
  obtain ⟨ofAxis, ofVector⟩ := held_orientation_iff 0 16384 .zero faceDown
  exact ⟨(ofAxis beyond).mpr axis, (ofVector once).mpr reaches⟩

/-- A sample of 501 leaves the filter where it starts from, at 402 at the most. -/
theorem orientation_is_not_reached :
    ¬ ((∀ s c : Int16, Lies c → ∀ᶠ n in atTop, LiesWith c (heldAxis s c n)) ∧
      ∀ start sample : Accel, sample.LiesOnce →
        ∀ᶠ n in atTop, getSide (heldSample start sample n) = getSide sample) := by
  rintro ⟨claim, -⟩
  have beyond : Lies 501 := by simp [Lies, LAY_THRESH]
  have reaches := (axis_reaches_iff 0 beyond).mp (claim 0 501 beyond)
  simp [Reaches, LiesWith, LAY_THRESH] at reaches

/-! Samples as they come. -/

/-- The filtered vector after the samples, from the value that `_mpu_init` gives it. -/
def filtered (samples : List Accel) : Accel := samples.foldl Accel.filter .zero

/-- An axis of the filtered vector follows the exact filter, between the smallest and the
largest of its samples and zero. -/
structure Follows (axis : Accel → Int16) (samples : List Accel) : Prop where
  exact : (axis (filtered samples)).toInt = (samples.map fun a => (axis a).toInt).foldl (smooth 99) 0
  least : (samples.map fun a => (axis a).toInt).foldl min 0 ≤ (axis (filtered samples)).toInt
  most : (axis (filtered samples)).toInt ≤ (samples.map fun a => (axis a).toInt).foldl max 0

theorem follows {axis : Accel → Int16} (separate : ∀ s a, axis (s.filter a) = exactSmooth (axis s) (axis a))
    (zero : axis .zero = 0) (samples : List Accel) : Follows axis samples := by
  have exact : (axis (filtered samples)).toInt = (samples.map fun a => (axis a).toInt).foldl (smooth 99) 0 := by
    induction samples using List.reverseRecOn with
    | nil => simp [filtered, zero]
    | append_singleton rest a ih =>
      simp only [filtered, List.foldl_append, List.foldl_cons, List.foldl_nil, List.map_append, List.map_cons,
        List.map_nil] at ih ⊢
      rw [separate, toInt_exactSmooth, ih]
  have between := foldl_between 99 0 (samples.map fun a => (axis a).toInt)
  exact ⟨exact, exact ▸ between.1, exact ▸ between.2⟩

/-- No axis is beyond `LAY_THRESH`. -/
def Accel.Level (a : Accel) : Prop := Small a.xAxis.toInt ∧ Small a.yAxis.toInt ∧ Small a.zAxis.toInt

theorem Accel.Level.filter {s a : Accel} (level : s.Level) (sample : a.Level) : (s.filter a).Level := by
  have small : ∀ {v c : Int16}, Small v.toInt → Small c.toInt → Small (exactSmooth v c).toInt := by
    intro v c hv hc
    have between := smooth_between 99 v.toInt c.toInt
    rw [toInt_exactSmooth]
    simp only [Small] at hv hc ⊢
    omega
  exact ⟨small level.1 sample.1, small level.2.1 sample.2.1, small level.2.2 sample.2.2⟩

theorem level_filtered {samples : List Accel} (level : ∀ a ∈ samples, a.Level) : (filtered samples).Level := by
  induction samples using List.reverseRecOn with
  | nil => simp [filtered, Accel.Level, Accel.zero, Small, LAY_THRESH]
  | append_singleton rest a ih =>
    rw [filtered, List.foldl_append]
    exact (ih fun b member => level b (by simp [member])).filter (level a (by simp))

theorem Accel.Level.side {a : Accel} (level : a.Level) : getSide a = .noChange := by
  obtain ⟨x, y, z⟩ := level
  rw [getSide_eq]
  simp only [Small, sideOf, LAY_THRESH] at *
  grind

/-! The loop of a node that reads such samples. -/

abbrev mpu : Detector := mpuDetector exactSmooth

/-- Every sample that the loop reads has the property. -/
def reads (property : Accel → Prop) (_ : Node mpu) : Move mpu → Prop
  | .loop reading => property reading
  | _ => True

/-- The loop filters what it has read. -/
structure Filters (property : Accel → Prop) (m : MpuMemory) : Prop where
  accl : property m.accl
  acclSide : ∃ samples, (∀ a ∈ samples, property a) ∧ m.acclSide = filtered samples

theorem Filters.body {property : Accel → Prop} {m : MpuMemory} {reading : Accel} (filters : Filters property m)
    (read : property reading) (body : MpuBody) (count : Nat) :
    Filters property (mpuStep exactSmooth reading body count m).memory := by
  cases body with
  | readAccel => exact ⟨read, filters.acclSide⟩
  | filter =>
    obtain ⟨samples, held, same⟩ := filters.acclSide
    refine ⟨filters.accl, samples ++ [m.accl], ?_, ?_⟩
    · intro a member
      rcases List.mem_append.mp member with earlier | last
      · exact held a earlier
      · obtain rfl : a = m.accl := by simpa using last
        exact filters.accl
    · rw [mpuStep_filter, same, filtered, filtered, List.foldl_append]
      rfl
  | _ => exact ⟨filters.accl, filters.acclSide⟩

theorem Filters.step {property : Accel → Prop} {n n' : Node mpu} {m : Move mpu} (filters : Filters property n.memory)
    (ok : reads property n m) (taken : step n m = some (n',events)) : Filters property n'.memory := by
  by_cases aside : ∀ reading, m ≠ .loop reading
  · rw [(aside_loop aside taken).2.1]
    exact filters
  · obtain ⟨reading, rfl⟩ := not_forall_not.mp aside
    simp only [Sensor.step, loopStep] at taken
    split at taken
    case h_8 body _ =>
      cases taken
      exact filters.body ok body n.count
    case h_1 | h_2 | h_7 => contradiction
    all_goals
      cases taken
      exact filters

/-- In every run the loop holds the filtered vector of samples that it has read. -/
theorem run_filters {property : Accel → Prop} {n : Node mpu} (still : property .zero)
    (path : Path step (reads property) (boot mpu) trace n) : Filters property n.memory :=
  path.state_invariant (fun n => Filters property n.memory) (fun filters ok taken => filters.step ok taken)
    ⟨still, [], by simp, rfl⟩

/-- The statements of the orientation branch. -/
def MpuBody.orientation : MpuBody → Bool
  | .beepLong => true
  | .printf => true
  | .fireSide => true
  | _ => false

/-- The loop has seen no side and is not in its orientation branch. -/
structure Unturned (n : Node mpu) : Prop where
  side : n.memory.side = .noChange
  away : ∀ body : MpuBody, n.loop = .body body → body.orientation = false

theorem mpuStep_unturned {m : MpuMemory} {b : MpuBody} (side : m.side = .noChange) (away : b.orientation = false)
    (level : getSide m.acclSide = .noChange) (reading : Accel) (count : Nat) :
    (mpuStep exactSmooth reading b count m).memory.side = .noChange ∧
      ∀ body, (mpuStep exactSmooth reading b count m).next = some body → body.orientation = false := by
  cases b with
  | beepLong | printf | fireSide => contradiction
  | side => exact ⟨level, by simp [mpuStep, MpuBody.orientation]⟩
  | compare => exact ⟨side, by simp [mpuStep, side, MpuBody.orientation]⟩
  | detectTap =>
    refine ⟨side, ?_⟩
    intro body next
    simp only [mpuStep, Option.some.injEq] at next
    rw [← next]
    split <;> rfl
  | _ => exact ⟨side, by simp [mpuStep, MpuBody.orientation]⟩

theorem Unturned.step {n n' : Node mpu} {m : Move mpu} (unturned : Unturned n)
    (born : n.main ≠ .shell → n.loop = .unborn) (level : getSide n.memory.acclSide = .noChange)
    (taken : step n m = some (n',events)) : Unturned n' := by
  obtain ⟨side, away⟩ := unturned
  by_cases outside : ∀ (reading : Accel) (b : MpuBody), m = .loop reading → n.loop ≠ .body b
  · obtain ⟨memory, same | ⟨-, entered⟩⟩ := besides_body born outside taken
    · exact ⟨memory ▸ side, fun b at_ => away b (same.symm.trans at_)⟩
    · refine ⟨memory ▸ side, ?_⟩
      intro b at_
      rw [entered b at_]
      rfl
  · obtain ⟨reading, b, rfl, at_⟩ : ∃ (reading : Accel) (b : MpuBody), m = .loop reading ∧ n.loop = .body b := by
      simpa using outside
    simp only [Sensor.step, loopStep, at_, Option.some.injEq] at taken
    cases taken
    obtain ⟨side', away'⟩ := mpuStep_unturned side (away b at_) level reading n.count
    refine ⟨side', ?_⟩
    intro body at_'
    apply away' body
    simp only at at_'
    split at at_'
    next => contradiction
    next next_ => exact next_.trans (congrArg some (LoopPoint.body.inj at_'))

/-- In exact arithmetic the filter follows each axis between its extremes and zero, and of
samples that are all within `LAY_THRESH` it makes no side, so that the loop does not come
to its orientation branch. -/
theorem filter_invents_no_side :
    (∀ samples, Follows Accel.xAxis samples ∧ Follows Accel.yAxis samples ∧ Follows Accel.zAxis samples) ∧
      (∀ samples : List Accel, (∀ a ∈ samples, a.Level) → getSide (filtered samples) = .noChange) ∧
      ∀ trace (n : Node mpu), Path step (reads Accel.Level) (boot mpu) trace n →
        getSide n.memory.acclSide = .noChange ∧ Unturned n := by
  refine ⟨?_, fun samples level => (level_filtered level).side, ?_⟩
  · intro samples
    exact ⟨follows (fun _ _ => rfl) rfl samples, follows (fun _ _ => rfl) rfl samples,
      follows (fun _ _ => rfl) rfl samples⟩
  · intro trace n path
    have still : Accel.zero.Level := by simp [Accel.Level, Accel.zero, Small, LAY_THRESH]
    have sides : ∀ m, Filters Accel.Level m → getSide m.acclSide = .noChange := by
      intro m filters
      obtain ⟨samples, level, same⟩ := filters.acclSide
      rw [same]
      exact (level_filtered level).side
    have held : Filters Accel.Level n.memory ∧ Unturned n ∧ (n.main ≠ .shell → n.loop = .unborn) := by
      apply path.state_invariant fun n =>
        Filters Accel.Level n.memory ∧ Unturned n ∧ (n.main ≠ .shell → n.loop = .unborn)
      · rintro n m n' events ⟨filters, unturned, born⟩ ok taken
        exact ⟨filters.step ok taken, unturned.step born (sides _ filters) taken, born_step born taken⟩
      · exact ⟨⟨still, [], by simp, rfl⟩, ⟨rfl, by simp [boot]⟩, fun _ => rfl⟩
    exact ⟨sides _ held.1, held.2.1⟩

instance (v : Int) : Decidable (Small v) := inferInstanceAs (Decidable (_ ∧ _))

instance Accel.decidableLevel (a : Accel) : Decidable a.Level := inferInstanceAs (Decidable (_ ∧ _ ∧ _))

instance (n : Node mpu) : (m : Move mpu) → Decidable (reads Accel.Level n m)
  | .loop reading => Accel.decidableLevel reading
  | .main | .message _ | .gcoap | .registerButton | .testButton | .registerThread | .statusThread
  | .detectionThread | .unsent _ => .isTrue trivial

/-- At the threshold on every axis. -/
def atThreshold : Accel := ⟨500,-500,500⟩

/-- The loop is started, the node authorized, and one sample filtered. -/
def filteredOnce : List (Move mpu) :=
  [.main,.main,.main,.main,.message (some REGISTER_RESPONSE),.gcoap,.gcoap] ++ List.replicate 5 (.loop atThreshold)

theorem filter_invents_no_side_run : getSide (filtered [atThreshold,atThreshold]) = .noChange ∧
    ∃ n trace, Path step (reads Accel.Level) (boot mpu) trace n ∧ n.memory.acclSide = ⟨5,-5,5⟩ ∧ Unturned n := by
  have run : ∃ n trace, Path step (reads Accel.Level) (boot mpu) trace n ∧ n.memory.acclSide = ⟨5,-5,5⟩ :=
    replay_reaches filteredOnce (fun (n : Node mpu) (_ : List Event) => n.memory.acclSide = ⟨5,-5,5⟩) (by decide +kernel)
  obtain ⟨n, trace, path, same⟩ := run
  exact ⟨filter_invents_no_side.2.1 [atThreshold,atThreshold] (by decide), n, trace, path, same,
    (filter_invents_no_side.2.2 trace n path).2⟩

end RiotAlarm.Sensor
