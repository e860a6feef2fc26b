import Mathlib.Data.Int.Order.Basic
import Mathlib.Algebra.Order.Group.Int
import Mathlib.Data.List.Induction
import Mathlib.Logic.Function.Iterate
import Mathlib.Order.Filter.AtTopBot.Basic
import Mathlib.Tactic.Linarith
import Mathlib.Tactic.Ring

/-! A weighted average in integers: the old value counts `k` times, the sample once, and
the quotient is truncated toward zero. The truncation stops the average before it has
reached a sample that is held; where it comes to rest is a clamp of where it started. -/
namespace Smoothing

def smooth (k : Nat) (s c : Int) : Int := (k * s + c).tdiv (k + 1)

/-- Negation commutes with a division that truncates toward zero. -/
theorem smooth_neg (k : Nat) (s c : Int) : smooth k (-s) (-c) = -smooth k s c := by
  have sum : (k : Int) * -s + -c = -(k * s + c) := by rw [Int.mul_neg, Int.neg_add]
  rw [smooth, sum, Int.neg_tdiv, smooth]

/-- Above zero the value moves by the rounded-down part of the distance. -/
theorem smooth_nonneg (k : Nat) {s c : Int} (nonneg : 0 ≤ k * s + c) : smooth k s c = s + (c - s) / (k + 1) := by
  have sum : (k : Int) * s + c = c - s + s * (k + 1) := by ring
  have positive : (k : Int) + 1 ≠ 0 := by omega
  rw [smooth, Int.tdiv_eq_ediv_of_nonneg nonneg, sum, Int.add_mul_ediv_right _ _ positive]
  omega

theorem smooth_nonpos (k : Nat) {s c : Int} (nonpos : k * s + c ≤ 0) : smooth k s c = s - (s - c) / (k + 1) := by
  have mirrored : 0 ≤ (k : Int) * -s + -c := by
    rw [Int.mul_neg]
    omega
  have same := smooth_neg k s c
  rw [smooth_nonneg k mirrored] at same
  have distance : -c - -s = s - c := by omega
  rw [distance] at same
  omega

/-- A quotient that is rounded down lies between the dividend and zero. -/
theorem ediv_between (x : Int) (k : Nat) : min 0 x ≤ x / (k + 1) ∧ x / (k + 1) ≤ max 0 x := by
  have positive : (0 : Int) < k + 1 := by omega
  rcases Int.le_total 0 x with up | down
  · have least := Int.ediv_nonneg up positive.le
    have most := Int.ediv_le_self (k + 1) up
    omega
  · have most := Int.ediv_nonpos_of_nonpos_of_neg down positive
    have least : x ≤ x / (k + 1) := by
      rw [Int.le_ediv_iff_mul_le positive]
      nlinarith
    omega

/-- The average lies between the old value and the sample. -/
theorem smooth_between (k : Nat) (s c : Int) : min s c ≤ smooth k s c ∧ smooth k s c ≤ max s c := by
  rcases Int.le_total 0 (k * s + c) with nonneg | nonpos
  · have moved := ediv_between (c - s) k
    rw [smooth_nonneg k nonneg]
    omega
  · have moved := ediv_between (s - c) k
    rw [smooth_nonpos k nonpos]
    omega

/-- Over any samples, what the average has come to lies between the smallest and the
largest of them and the value that it started from. -/
theorem foldl_between (k : Nat) (s : Int) (samples : List Int) :
    samples.foldl min s ≤ samples.foldl (smooth k) s ∧ samples.foldl (smooth k) s ≤ samples.foldl max s := by
  induction samples using List.reverseRecOn with
  | nil => exact ⟨Int.le_refl s, Int.le_refl s⟩
  | append_singleton rest c ih =>
    have between := smooth_between k (rest.foldl (smooth k) s) c
    simp only [List.foldl_append, List.foldl_cons, List.foldl_nil]
    omega

/-! Where the average of a held sample comes to rest. -/

/-- Between these bounds a step is too short to be seen. -/
def low (k : Nat) (c : Int) : Int := if 0 ≤ c then max 0 (c - k) else c
def high (k : Nat) (c : Int) : Int := if 0 ≤ c then c else min 0 (c + k)

/-- The nearest value from `s` on that a held sample does not move. -/
def settled (k : Nat) (c s : Int) : Int := max (low k c) (min s (high k c))

theorem settled_neg (k : Nat) (c s : Int) : settled k (-c) (-s) = -settled k c s := by
  simp only [settled, low, high]
  grind

/-- A step does not pass the value where the average comes to rest, and it is seen until
that value is reached. -/
structure Nears (k : Nat) (c s s' : Int) : Prop where
  same : settled k c s' = settled k c s
  nearer : s ≠ settled k c s → (s' - settled k c s).natAbs < (s - settled k c s).natAbs
  rests : s = settled k c s → s' = s

theorem Nears.neg (nears : Nears k (-c) (-s) (-s')) : Nears k c s s' := by
  obtain ⟨same, nearer, rests⟩ := nears
  rw [settled_neg] at nearer rests same
  rw [settled_neg] at same
  exact ⟨by omega, fun moving => by have := nearer (by omega); omega, fun resting => by have := rests (by omega); omega⟩

/-- A distance above `k` is shortened, and not below `k`. -/
theorem ediv_far (k : Nat) {x : Int} (far : k < x) : 1 ≤ x / (k + 1) ∧ k ≤ x - x / (k + 1) := by
  have positive : (0 : Int) < k + 1 := by omega
  have seen : 1 ≤ x / (k + 1) := by
    rw [Int.le_ediv_iff_mul_le positive]
    omega
  have whole : x / (k + 1) * (k + 1) ≤ x := Int.ediv_mul_le x positive.ne'
  have often : (k : Int) ≤ x / (k + 1) * k := by nlinarith
  have parts : x / (k + 1) * (k + 1) = x / (k + 1) * k + x / (k + 1) := by ring
  exact ⟨seen, by omega⟩

theorem ediv_negative (k : Nat) {x : Int} (negative : x < 0) : x / (k + 1) < 0 :=
  Int.ediv_neg_of_neg_of_pos negative (by omega)

/-- A sample that is not negative draws a larger value down to itself, and a smaller one up
to `k` below it. -/
theorem nears_nonneg (k : Nat) {c : Int} (held : 0 ≤ c) (s : Int) : Nears k c s (smooth k s c) := by
  have lower : low k c = max 0 (c - k) := if_pos held
  have upper : high k c = c := if_pos held
  rcases lt_or_ge c s with above | notAbove
  · -- down, by at least one
    have nonneg : 0 ≤ k * s + c := by
      have := Int.mul_nonneg (Int.natCast_nonneg k) (Int.le_trans held above.le)
      omega
    have between := smooth_between k s c
    have down : smooth k s c < s := by
      have moved := ediv_negative k (show c - s < 0 by omega)
      rw [smooth_nonneg k nonneg]
      omega
    constructor <;> simp only [settled, lower, upper] <;> omega
  rcases lt_or_ge s (low k c) with below | within
  · -- up, by at least one and to the lower bound at most
    have up : s < smooth k s c ∧ smooth k s c ≤ low k c := by
      rcases lt_or_ge (k * s + c) 0 with negative | nonneg
      · have moved := ediv_negative k (show s - c < 0 by omega)
        have most : smooth k s c ≤ 0 := by
          have mirrored : 0 ≤ (-(k * s + c)).tdiv (k + 1) := Int.tdiv_nonneg (by omega) (by omega)
          rw [Int.neg_tdiv] at mirrored
          rw [smooth]
          omega
        rw [smooth_nonpos k negative.le] at most ⊢
        omega
      · have least : 0 ≤ smooth k s c := Int.tdiv_nonneg nonneg (by omega)
        rw [smooth_nonneg k nonneg] at least ⊢
        rcases lt_or_ge (k : Int) (c - s) with far | near
        · have moved := ediv_far k far
          omega
        · rw [Int.ediv_eq_zero_of_lt (by omega) (by omega)] at least
          omega
    rw [lower] at below up
    constructor <;> simp only [settled, lower, upper] <;> omega
  · -- too near to be seen
    have still : smooth k s c = s := by
      rw [lower] at within
      have nonneg : 0 ≤ k * s + c := by
        have := Int.mul_nonneg (Int.natCast_nonneg k) (show 0 ≤ s by omega)
        omega
      rw [smooth_nonneg k nonneg, Int.ediv_eq_zero_of_lt (by omega) (by omega)]
      omega
    rw [still]
    rw [lower] at within
    exact ⟨rfl, fun moving => absurd (by simp only [settled, lower, upper]; omega) moving, fun _ => rfl⟩

theorem nears (k : Nat) (c s : Int) : Nears k c s (smooth k s c) := by
  rcases Int.le_total 0 c with up | down
  · exact nears_nonneg k up s
  · apply Nears.neg
    rw [← smooth_neg]
    exact nears_nonneg k (by omega) (-s)

/-- Under a held sample the average comes to rest. -/
theorem settles (k : Nat) (c s : Int) : ∀ᶠ n in Filter.atTop, (fun v => smooth k v c)^[n] s = settled k c s := by
  rw [Filter.eventually_atTop]
  induction distance : (s - settled k c s).natAbs using Nat.strongRecOn generalizing s with
  | ind _ ih =>
    obtain ⟨same, nearer, rests⟩ := nears k c s
    by_cases resting : s = settled k c s
    · refine ⟨0, fun m _ => ?_⟩
      rw [Function.iterate_fixed (rests resting)]
      exact resting
    · obtain ⟨n, later⟩ := ih _ (distance ▸ same ▸ nearer resting) (smooth k s c) rfl
      refine ⟨n + 1, fun m enough => ?_⟩
      obtain ⟨m, rfl⟩ := Nat.exists_eq_add_of_le' (Nat.le_trans (Nat.le_add_left 1 n) enough)
      rw [Function.iterate_add_apply, ← same]
      exact later m (by omega)

end Smoothing
