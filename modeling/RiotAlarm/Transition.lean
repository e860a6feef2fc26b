import Mathlib.Data.List.Basic

/-! Labelled transition machines. A step consumes an action and emits events; a
path records the events of all its steps, newest last. Nothing here depends on
the system that is modelled with it. -/
namespace Transition

/-- A deterministic step function: which action is taken next is the scheduler's
and the environment's choice, what the action does is not. -/
abbrev Step (S A E : Type) := S → A → Option (S × List E)

/-- Paths whose every step satisfies `allowed` in the state it leaves. -/
inductive Path (step : Step S A E) (allowed : S → A → Prop) (s : S) : List E → S → Prop where
  | nil : Path step allowed s [] s
  | snoc : Path step allowed s trace t → allowed t a → step t a = some (u, events) →
      Path step allowed s (trace ++ events) u

/-- No restriction on the schedule. -/
def anything (_ : S) (_ : A) : Prop := True

instance : Decidable (anything s a) := .isTrue trivial

variable {step : Step S A E} {allowed : S → A → Prop}

theorem Path.trans (first : Path step allowed s xs t) (second : Path step allowed t ys u) :
    Path step allowed s (xs ++ ys) u := by
  induction second with
  | nil => simpa using first
  | snoc _ ok taken ih => simpa only [List.append_assoc] using ih.snoc ok taken

theorem Path.single (ok : allowed s a) (taken : step s a = some (t, events)) :
    Path step allowed s events t := by
  simpa using Path.nil.snoc ok taken

theorem Path.mono {allowed' : S → A → Prop} (weaker : ∀ {s a}, allowed s a → allowed' s a)
    (path : Path step allowed s trace t) : Path step allowed' s trace t := by
  induction path with
  | nil => exact .nil
  | snoc _ ok taken ih => exact ih.snoc (weaker ok) taken

/-- The one induction over runs: an invariant of trace and state that every
allowed step keeps holds wherever a path leads. -/
theorem Path.invariant (property : List E → S → Prop)
    (preserved : ∀ {trace t a u events}, property trace t → allowed t a →
      step t a = some (u, events) → property (trace ++ events) u)
    (path : Path step allowed s trace t) (initial : property [] s) : property trace t := by
  induction path with
  | nil => exact initial
  | snoc _ ok taken ih => exact preserved ih ok taken

theorem Path.state_invariant (property : S → Prop)
    (preserved : ∀ {t a u events}, property t → allowed t a →
      step t a = some (u, events) → property u)
    (path : Path step allowed s trace t) (initial : property s) : property t :=
  path.invariant (fun _ => property) (fun held ok taken => preserved held ok taken) initial

/-- What every step keeps unless it shows a certain event holds at the end of the path,
or the event was shown on it. -/
theorem Path.unless (property : S → Prop) (event : E)
    (preserved : ∀ {t a u events}, property t → allowed t a → step t a = some (u, events) →
      property u ∨ event ∈ events)
    (path : Path step allowed s trace t) (initial : property s) : property t ∨ event ∈ trace := by
  induction path with
  | nil => exact .inl initial
  | snoc _ ok taken ih =>
    rcases ih with held | shown
    · exact (preserved held ok taken).imp_right (List.mem_append_right _)
    · exact .inr (List.mem_append_left _ shown)

/-- What is shown on a path is shown by one of its steps. -/
theorem Path.moment (path : Path step allowed s trace t) (shown : e ∈ trace) :
    ∃ past u a v events later, Path step allowed s past u ∧ step u a = some (v,events) ∧ e ∈ events ∧
      trace = past ++ (events ++ later) := by
  induction path with
  | nil => cases shown
  | @snoc past u a v events before _ taken ih =>
    rcases List.mem_append.mp shown with earlier | now
    · obtain ⟨past', u', a', v', events', later, before', taken', here, rfl⟩ := ih earlier
      exact ⟨past', u', a', v', events', later ++ events, before', taken', here, by simp⟩
    · exact ⟨past, u, a, v, events, [], before, taken, now, by simp⟩

/-! Accounts of a run: events that come in, events that go out, and a stock between them. -/

/-- No more goes out than has come in. -/
theorem Path.at_most (kept : S → Prop) (into out : E → Bool) (stock : S → Nat)
    (one : ∀ {t a u events}, kept t → allowed t a → step t a = some (u,events) →
      kept u ∧ events.countP out + stock u ≤ stock t + events.countP into)
    (path : Path step allowed s trace t) (initial : kept s) :
    kept t ∧ trace.countP out + stock t ≤ stock s + trace.countP into := by
  induction path with
  | nil => exact ⟨initial, by simp⟩
  | snoc _ ok taken ih =>
    obtain ⟨after, last⟩ := one ih.1 ok taken
    refine ⟨after, ?_⟩
    simp only [List.countP_append]
    omega

/-- What has come in has gone out or is still in stock. -/
theorem Path.at_least (into out : E → Bool) (stock : S → Nat)
    (one : ∀ {t a u events}, allowed t a → step t a = some (u,events) →
      stock t + events.countP into ≤ events.countP out + stock u)
    (path : Path step allowed s trace t) : stock s + trace.countP into ≤ trace.countP out + stock t := by
  induction path with
  | nil => simp
  | snoc _ ok taken ih =>
    have last := one ok taken
    simp only [List.countP_append]
    omega

/-- A machine that can follow every step of another one follows all of its paths. -/
theorem Path.follow {step' : Step T A F} (view : T → S)
    (follows : ∀ {t a u events}, step (view t) a = some (u, events) →
      ∃ t' events', step' t a = some (t', events') ∧ view t' = u)
    {t₀ : T} (path : Path step allowed (view t₀) trace s) :
    ∃ t trace', Path step' (fun t a => allowed (view t) a) t₀ trace' t ∧ view t = s := by
  induction path with
  | nil => exact ⟨t₀, [], .nil, rfl⟩
  | snoc _ ok taken ih =>
    obtain ⟨t, trace', path, rfl⟩ := ih
    obtain ⟨t', events', taken', same⟩ := follows taken
    exact ⟨t', _, path.snoc ok taken', same⟩

/-- A record beside the state, which takes part in every step and decides none. -/
def recorded (step : Step S A E) (note : S → A → R → R) : Step (S × R) A E
  | (s,r),a => (step s a).map fun (t,events) => ((t,note s a r),events)

theorem Path.record (note : S → A → R → R) (r : R) (path : Path step anything s trace t) :
    ∃ r', Path (recorded step note) anything (s,r) trace (t,r') := by
  induction path with
  | nil => exact ⟨r, .nil⟩
  | @snoc trace t a u events _ _ taken ih =>
    obtain ⟨r', path⟩ := ih
    have noted : recorded step note (t,r') a = some ((u,note t a r'),events) := by simp [recorded, taken]
    exact ⟨note t a r', path.snoc trivial noted⟩

/-- Executes a schedule, refusing a step that is not allowed. -/
def replay (step : Step S A E) (allowed : S → A → Prop) [∀ s a, Decidable (allowed s a)] :
    S → List A → Option (S × List E)
  | s, [] => some (s, [])
  | s, a :: rest =>
    if allowed s a then
      match step s a with
      | none => none
      | some (t, events) => (replay step allowed t rest).map fun (u, later) => (u, events ++ later)
    else none

theorem replay_path [∀ s a, Decidable (allowed s a)] (schedule : List A)
    (run : replay step allowed s schedule = some (t, trace)) : Path step allowed s trace t := by
  induction schedule generalizing s trace with
  | nil =>
    simp only [replay, Option.some.injEq, Prod.mk.injEq] at run
    obtain ⟨rfl, rfl⟩ := run
    exact .nil
  | cons a rest ih =>
    simp only [replay] at run
    split at run
    next ok =>
      split at run
      next => contradiction
      next middle events taken =>
        obtain ⟨⟨final, later⟩, rerun, same⟩ := Option.map_eq_some_iff.mp run
        cases same
        exact (Path.single ok taken).trans (ih rerun)
    next => contradiction

/-- A schedule that can be executed up to a goal is a path to it. -/
theorem replay_reaches [∀ s a, Decidable (allowed s a)] (schedule : List A) (goal : S → List E → Prop)
    [∀ t trace, Decidable (goal t trace)]
    (run : (replay step allowed s schedule).any (fun r => decide (goal r.1 r.2)) = true) :
    ∃ t trace, Path step allowed s trace t ∧ goal t trace := by
  obtain ⟨⟨t, trace⟩, ran, reached⟩ := (Option.any_eq_true _ _).mp run
  exact ⟨t, trace, replay_path schedule ran, of_decide_eq_true reached⟩

/-- A step after which a schedule can be executed up to a goal. -/
theorem step_replay_reaches [∀ s a, Decidable (allowed s a)] (schedule : List A) (goal : List E → S → List E → Prop)
    [∀ events u trace, Decidable (goal events u trace)]
    (run : (step s a).any (fun (t,events) =>
      (replay step allowed t schedule).any fun (u,trace) => decide (goal events u trace)) = true) :
    ∃ t events u trace, step s a = some (t,events) ∧ Path step allowed t trace u ∧ goal events u trace := by
  obtain ⟨⟨t, events⟩, taken, after⟩ := (Option.any_eq_true _ _).mp run
  obtain ⟨u, trace, path, reached⟩ := replay_reaches schedule (goal events) after
  exact ⟨t, events, u, trace, taken, path, reached⟩

/-- The events after the last one that satisfies `mark`. -/
def since (mark : E → Bool) (trace : List E) : List E :=
  trace.foldl (fun kept event => if mark event then [] else kept ++ [event]) []

@[simp] theorem since_nil (mark : E → Bool) : since mark [] = [] := rfl

theorem since_snoc (mark : E → Bool) (trace : List E) (event : E) :
    since mark (trace ++ [event]) = if mark event then [] else since mark trace ++ [event] := by
  simp [since, List.foldl_append]

theorem since_append (mark : E → Bool) (trace events : List E)
    (plain : ∀ event ∈ events, mark event = false) :
    since mark (trace ++ events) = since mark trace ++ events := by
  induction events generalizing trace with
  | nil => simp
  | cons event rest ih =>
    rw [List.append_cons, ih _ fun other member => plain other (by simp [member]),
      since_snoc, plain event (by simp)]
    simp

/-- The trace splits at the last time that `mark` shows. -/
def SplitAt (mark : E) (trace earlier later : List E) : Prop :=
  trace = earlier ++ mark :: later ∧ mark ∉ later

theorem SplitAt.last (mark : E) (trace : List E) : SplitAt mark (trace ++ [mark]) trace [] :=
  ⟨rfl, List.not_mem_nil⟩

theorem SplitAt.append {mark : E} (split : SplitAt mark trace earlier later) (events : List E)
    (other : mark ∉ events) : SplitAt mark (trace ++ events) earlier (later ++ events) := by
  obtain ⟨rfl, once⟩ := split
  refine ⟨by simp, ?_⟩
  rw [List.mem_append]
  exact not_or.mpr ⟨once, other⟩

/-- Every event on the trace is backed by what was shown before it. -/
def Backed (because : List E → E → Prop) (trace : List E) : Prop :=
  ∀ past event later, trace = past ++ event :: later → because past event

theorem Backed.nil (because : List E → E → Prop) : Backed because [] := by
  intro past event later split
  simp at split

theorem Backed.append {because : List E → E → Prop} (held : Backed because trace)
    (fresh : ∀ past event later, events = past ++ event :: later → because (trace ++ past) event) :
    Backed because (trace ++ events) := by
  intro past event later split
  rcases List.append_eq_append_iff.mp split with ⟨front, rfl, new⟩ | ⟨rest, old, new⟩
  · exact fresh front event later new
  · cases rest with
    | nil =>
      rw [List.append_nil] at old
      have now := fresh [] event later (by simpa using new.symm)
      rwa [List.append_nil, old] at now
    | cons first rest =>
      obtain ⟨rfl, -⟩ : event = first ∧ later = rest ++ events := by simpa using new
      exact held past event rest old

theorem Backed.snoc {because : List E → E → Prop} (held : Backed because trace) (now : because trace event) :
    Backed because (trace ++ [event]) := by
  refine held.append fun past event' later split => ?_
  cases past with
  | nil =>
    obtain ⟨rfl, -⟩ : event = event' ∧ later = [] := by simpa [eq_comm] using split
    simpa using now
  | cons _ _ => simp at split

/-- Whatever the others do in between, `mine` can be taken again and again until `goal` is
reached. -/
inductive Finishes (step : Step S A E) (others : S → A → Prop) (mine : A) (goal : S → Prop) : S → Prop where
  | done : goal s → Finishes step others mine goal s
  | next : (∀ trace t, Path step others s trace t → ∃ u events, step t mine = some (u, events)) →
      (∀ trace t u events, Path step others s trace t → step t mine = some (u, events) →
        Finishes step others mine goal u) → Finishes step others mine goal s

theorem Finishes.possible {others : S → A → Prop} {mine : A} {goal : S → Prop}
    (finish : Finishes step others mine goal s) (notYet : ¬ goal s) : ∃ t events, step s mine = some (t, events) := by
  cases finish with
  | done reached => exact absurd reached notYet
  | next possible _ => exact possible [] s .nil

theorem Finishes.rest {others : S → A → Prop} {mine : A} {goal : S → Prop}
    (finish : Finishes step others mine goal s) (notYet : ¬ goal s) (taken : step s mine = some (t, events)) :
    Finishes step others mine goal t := by
  cases finish with
  | done reached => exact absurd reached notYet
  | next _ rest => exact rest [] s t events .nil taken

theorem Finishes.mono {others : S → A → Prop} {mine : A} {goal goal' : S → Prop}
    (finish : Finishes step others mine goal s) (weaker : ∀ {s}, goal s → goal' s) : Finishes step others mine goal' s := by
  induction finish with
  | done reached => exact .done (weaker reached)
  | next possible _ ih => exact .next possible ih

/-- What the others keep without raising its rank, and `mine` lowers the rank of until the
goal is reached, finishes. -/
theorem finishes {others : S → A → Prop} {mine : A} {goal : S → Prop} (holds : S → Prop) (rank : S → Nat)
    (kept : ∀ {t a u events}, holds t → ¬ goal t → others t a → step t a = some (u, events) →
      holds u ∧ rank u ≤ rank t ∧ ¬ goal u)
    (lowered : ∀ {t}, holds t → ¬ goal t → ∃ u events, step t mine = some (u, events) ∧ holds u ∧ rank u < rank t)
    (initial : holds s) : Finishes step others mine goal s := by
  induction bound : rank s using Nat.strongRecOn generalizing s with
  | ind n ih =>
    by_cases reached : goal s
    · exact .done reached
    have between : ∀ trace t, Path step others s trace t → holds t ∧ rank t ≤ n ∧ ¬ goal t := by
      intro trace t path
      apply path.state_invariant (fun t => holds t ∧ rank t ≤ n ∧ ¬ goal t)
      · intro t a u events ⟨held, lower, notYet⟩ ok taken
        obtain ⟨held', lower', still⟩ := kept held notYet ok taken
        exact ⟨held', Nat.le_trans lower' lower, still⟩
      · exact ⟨initial, Nat.le_of_eq bound, reached⟩
    apply Finishes.next
    · intro trace t path
      obtain ⟨held, _, notYet⟩ := between trace t path
      obtain ⟨u, events, taken, _⟩ := lowered held notYet
      exact ⟨u, events, taken⟩
    · intro trace t u events path taken
      obtain ⟨held, lower, notYet⟩ := between trace t path
      obtain ⟨v, events', taken', held', less⟩ := lowered held notYet
      obtain rfl : u = v := congrArg Prod.fst (Option.some.inj (taken.symm.trans taken'))
      exact ih (rank u) (Nat.lt_of_lt_of_le less lower) held' rfl

/-- As `Finishes`, after at most so many steps of `mine`. -/
inductive FinishesIn (step : Step S A E) (others : S → A → Prop) (mine : A) (goal : S → Prop) : Nat → S → Prop where
  | done : goal s → FinishesIn step others mine goal n s
  | next : (∀ trace t, Path step others s trace t → ∃ u events, step t mine = some (u, events)) →
      (∀ trace t u events, Path step others s trace t → step t mine = some (u, events) →
        FinishesIn step others mine goal n u) → FinishesIn step others mine goal (n + 1) s

/-- The rank bounds the steps that `mine` needs. -/
theorem finishes_in {others : S → A → Prop} {mine : A} {goal : S → Prop} (holds : S → Prop) (rank : S → Nat)
    (kept : ∀ {t a u events}, holds t → ¬ goal t → others t a → step t a = some (u, events) →
      holds u ∧ rank u ≤ rank t ∧ ¬ goal u)
    (lowered : ∀ {t}, holds t → ¬ goal t → ∃ u events, step t mine = some (u, events) ∧ holds u ∧ rank u < rank t)
    (initial : holds s) (bound : rank s ≤ n) : FinishesIn step others mine goal n s := by
  induction n generalizing s with
  | zero =>
    by_cases reached : goal s
    · exact .done reached
    · obtain ⟨u, events, -, -, less⟩ := lowered initial reached
      omega
  | succ n ih =>
    by_cases reached : goal s
    · exact .done reached
    have between : ∀ trace t, Path step others s trace t → holds t ∧ rank t ≤ rank s ∧ ¬ goal t := by
      intro trace t path
      apply path.state_invariant (fun t => holds t ∧ rank t ≤ rank s ∧ ¬ goal t)
      · intro t a u events ⟨held, lower, notYet⟩ ok taken
        obtain ⟨held', lower', still⟩ := kept held notYet ok taken
        exact ⟨held', Nat.le_trans lower' lower, still⟩
      · exact ⟨initial, Nat.le_refl _, reached⟩
    apply FinishesIn.next
    · intro trace t path
      obtain ⟨held, -, notYet⟩ := between trace t path
      obtain ⟨u, events, taken, -⟩ := lowered held notYet
      exact ⟨u, events, taken⟩
    · intro trace t u events path taken
      obtain ⟨held, lower, notYet⟩ := between trace t path
      obtain ⟨v, events', taken', held', less⟩ := lowered held notYet
      obtain rfl : u = v := congrArg Prod.fst (Option.some.inj (taken.symm.trans taken'))
      exact ih held' (by omega)

end Transition
