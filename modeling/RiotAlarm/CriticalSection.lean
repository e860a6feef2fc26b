import RiotAlarm.Transition
import Mathlib.Logic.Function.Basic

/-! Threads that share a value behind one mutex. What a thread does under the lock is a
program of small turns that anybody may interrupt; before it asks for the lock it may only
add to the value. Every run has the answers of a run in which a critical section is one
step, and nobody keeps the thread that holds the lock from what its section does alone. -/
namespace CriticalSection

open Transition

/-- `prepare` is done before the lock is asked for. `turn` is one statement under the lock:
it sees the value and a register that anybody may write, and goes on or returns. -/
structure Program (V C L I R : Type) where
  prepare : V → C → V × L
  turn : V → L → I → Option (V × (L ⊕ R))

inductive Phase (C L I : Type) where
  | idle
  | asking (call : C) (here : L)
  /-- What the register held at each turn so far is kept. -/
  | inside (call : C) (here : L) (seen : List I)

structure State (V C L I : Type) where
  shared : V
  register : I
  owner : Option Nat
  phase : Nat → Phase C L I

inductive Action (C I : Type) where
  | write (value : I)
  | call (thread : Nat) (call : C)
  | lock (thread : Nat)
  | turn (thread : Nat)

inductive Event (C I R : Type) where
  | called (thread : Nat) (call : C)
  | returned (thread : Nat) (call : C) (seen : List I) (result : R)

variable {V C L I R : Type}

def start (v : V) (register : I) : State V C L I := ⟨v,register,none,fun _ => .idle⟩

def State.enter (s : State V C L I) (thread : Nat) (phase : Phase C L I) : State V C L I :=
  { s with phase := Function.update s.phase thread phase }

/-- A turn does not look at the owner: that the others keep out is a theorem. -/
def step (p : Program V C L I R) (s : State V C L I) : Action C I → Option (State V C L I × List (Event C I R))
  | .write value => some ({ s with register := value },[])
  | .call t call =>
    match s.phase t with
    | .idle =>
      let (shared,here) := p.prepare s.shared call
      some ({ s.enter t (.asking call here) with shared },[.called t call])
    | _ => none
  | .lock t =>
    match s.phase t,s.owner with
    | .asking call here,none => some ({ s.enter t (.inside call here []) with owner := some t },[])
    | _,_ => none
  | .turn t =>
    match s.phase t with
    | .inside call here seen =>
      match p.turn s.shared here s.register with
      | none => none
      | some (shared,.inl next) =>
        some ({ s.enter t (.inside call next (seen ++ [s.register])) with shared },[])
      | some (shared,.inr result) =>
        some ({ s.enter t .idle with shared, owner := none },[.returned t call (seen ++ [s.register]) result])
    | _ => none

/-- The turns of one section without anybody in between. -/
def Program.runs (p : Program V C L I R) : V → L → List I → Option (V × (L ⊕ R))
  | v, here, [] => some (v,.inl here)
  | v, here, i :: rest =>
    match p.turn v here i with
    | none => none
    | some (v',.inl next) => p.runs v' next rest
    | some (v',.inr result) => if rest = [] then some (v',.inr result) else none

theorem Program.runs_snoc (p : Program V C L I R) (ran : p.runs v here seen = some (v',.inl next)) (i : I) :
    p.runs v here (seen ++ [i]) = p.turn v' next i := by
  induction seen generalizing v here with
  | nil =>
    simp only [runs, Option.some.injEq, Prod.mk.injEq, Sum.inl.injEq] at ran
    obtain ⟨rfl, rfl⟩ := ran
    simp only [List.nil_append, runs]
    split <;> simp_all
  | cons j rest ih =>
    simp only [runs] at ran
    simp only [List.cons_append, runs]
    split at ran
    next => contradiction
    next v₁ next₁ taken => exact ih ran
    next v₁ result taken => split at ran <;> simp at ran

/-! The machine whose critical sections are one step. -/

structure Whole (V C L : Type) where
  shared : V
  waiting : Nat → Option (C × L)

inductive WholeAction (C I : Type) where
  | call (thread : Nat) (call : C)
  | execute (thread : Nat) (seen : List I)

def whole (p : Program V C L I R) (w : Whole V C L) : WholeAction C I → Option (Whole V C L × List (Event C I R))
  | .call t call =>
    match w.waiting t with
    | none =>
      let (shared,here) := p.prepare w.shared call
      some (⟨shared,Function.update w.waiting t (some (call,here))⟩,[.called t call])
    | some _ => none
  | .execute t seen =>
    match w.waiting t with
    | none => none
    | some (call,here) =>
      match p.runs w.shared here seen with
      | some (shared,.inr result) =>
        some (⟨shared,Function.update w.waiting t none⟩,[.returned t call seen result])
      | _ => none

/-- What is done before asking for the lock could as well have been done before a turn. -/
def Moves (p : Program V C L I R) : Prop :=
  ∀ {v here i v' out} call, p.turn v here i = some (v',out) →
    p.turn (p.prepare v call).1 here i = some ((p.prepare v' call).1,out) ∧
      (p.prepare v' call).2 = (p.prepare v call).2

def outside : Option (C × L) → Phase C L I
  | none => .idle
  | some (call,here) => .asking call here

/-- Where the sections in one step stand while a section of small turns is under way:
before it. -/
structure Agrees (p : Program V C L I R) (s : State V C L I) (w : Whole V C L) : Prop where
  others : ∀ t, s.owner ≠ some t → s.phase t = outside (w.waiting t)
  free : s.owner = none → w.shared = s.shared
  held : ∀ t, s.owner = some t → ∃ call before here seen, s.phase t = .inside call here seen ∧
    w.waiting t = some (call,before) ∧ p.runs w.shared before seen = some (s.shared,.inl here)

theorem outside_idle {w : Option (C × L)} (idle : (outside w : Phase C L I) = .idle) : w = none := by
  cases w with
  | none => rfl
  | some _ => simp [outside] at idle

theorem outside_asking {w : Option (C × L)} (asking : (outside w : Phase C L I) = .asking call here) :
    w = some (call,here) := by
  cases w with
  | none => simp [outside] at asking
  | some _ =>
    simp only [outside, Phase.asking.injEq] at asking
    obtain ⟨rfl, rfl⟩ := asking
    rfl

section reduction
variable {p : Program V C L I R} {s s' : State V C L I} {w : Whole V C L}

theorem agrees_start (p : Program V C L I R) (v : V) (register : I) :
    Agrees p (start v register) ⟨v,fun _ => none⟩ where
  others _ _ := rfl
  free _ := rfl
  held _ owner := by simp [start] at owner

/-- Only the thread that has the lock is between two turns. -/
theorem Agrees.exclusive (agrees : Agrees p s w) (inside : s.phase t = .inside call here seen) : s.owner = some t := by
  by_contra other
  have same := agrees.others t other
  rw [inside] at same
  cases waits : w.waiting t <;> simp [waits, outside] at same

theorem Program.runs_prepare (moves : Moves p) (other : C) (ran : p.runs v here seen = some (v',.inl next)) :
    p.runs (p.prepare v other).1 here seen = some ((p.prepare v' other).1,.inl next) ∧
      (p.prepare v' other).2 = (p.prepare v other).2 := by
  induction seen generalizing v here with
  | nil =>
    simp only [runs, Option.some.injEq, Prod.mk.injEq, Sum.inl.injEq] at ran
    obtain ⟨rfl, rfl⟩ := ran
    exact ⟨rfl, rfl⟩
  | cons i rest ih =>
    simp only [runs] at ran
    split at ran
    next => contradiction
    next v₁ next₁ taken =>
      obtain ⟨taken', same⟩ := moves other taken
      obtain ⟨ran', same'⟩ := ih ran
      refine ⟨?_, same'.trans same⟩
      simp only [runs, taken']
      exact ran'
    next v₁ result taken => split at ran <;> simp at ran

/-- A new call: the value may already be in the middle of somebody's section. -/
theorem Agrees.calls (moves : Moves p) (agrees : Agrees p s w) (idle : s.phase t = .idle) (call : C) :
    ∃ w', whole p w (.call t call) = some (w',[Event.called t call]) ∧
      Agrees p { s.enter t (.asking call (p.prepare s.shared call).2) with shared := (p.prepare s.shared call).1 } w' := by
  have apart : s.owner ≠ some t := by
    intro owner
    obtain ⟨_, _, _, _, inside, _⟩ := agrees.held t owner
    simp [idle] at inside
  have waits : w.waiting t = none := outside_idle ((agrees.others t apart).symm.trans idle)
  have told : (p.prepare s.shared call).2 = (p.prepare w.shared call).2 := by
    cases owner : s.owner with
    | none => rw [agrees.free owner]
    | some u =>
      obtain ⟨_, _, _, _, _, _, ran⟩ := agrees.held u owner
      exact (p.runs_prepare moves call ran).2
  refine ⟨_, by simp only [whole, waits]; rfl, ?_, ?_, ?_⟩
  · intro u other
    by_cases same : u = t
    · subst same
      simp [State.enter, outside, told]
    · simpa [State.enter, same] using agrees.others u other
  · intro owner
    rw [agrees.free owner]
  · intro u owner
    obtain ⟨call', before, here, seen, inside, waits', ran⟩ := agrees.held u owner
    have differ : u ≠ t := by
      rintro rfl
      exact apart owner
    exact ⟨call', before, here, seen, by simpa [State.enter, differ] using inside,
      by simpa [differ] using waits', (p.runs_prepare moves call ran).1⟩

theorem Agrees.locks (agrees : Agrees p s w) (asking : s.phase t = .asking call here) (owner : s.owner = none) :
    Agrees p { s.enter t (.inside call here []) with owner := some t } w := by
  refine ⟨?_, by simp, ?_⟩
  · intro u other
    have differ : u ≠ t := by
      rintro rfl
      exact other rfl
    simpa [State.enter, differ] using agrees.others u (by simp [owner])
  · intro u taken
    obtain rfl : t = u := Option.some.inj taken
    have waits := outside_asking ((agrees.others t (by simp [owner])).symm.trans asking)
    refine ⟨call, here, here, [], by simp [State.enter], waits, ?_⟩
    rw [agrees.free owner]
    rfl

/-- A turn that goes on belongs to a section that the other machine has yet to execute. -/
theorem Agrees.goes_on (agrees : Agrees p s w) (inside : s.phase t = .inside call here seen)
    (taken : p.turn s.shared here s.register = some (shared,.inl next)) :
    Agrees p { s.enter t (.inside call next (seen ++ [s.register])) with shared } w := by
  have owner := agrees.exclusive inside
  obtain ⟨call', before, here', seen', inside', waits, ran⟩ := agrees.held t owner
  rw [inside] at inside'
  cases inside'
  refine ⟨?_, by simp [State.enter, owner], ?_⟩
  · intro u other
    have differ : u ≠ t := by
      rintro rfl
      exact other owner
    simpa [State.enter, differ] using agrees.others u other
  · intro u holds
    obtain rfl : t = u := Option.some.inj (owner.symm.trans holds)
    exact ⟨call, before, next, _, by simp [State.enter], waits, (p.runs_snoc ran _).trans taken⟩

/-- The turn that returns is the whole section of the other machine. -/
theorem Agrees.returns (agrees : Agrees p s w) (inside : s.phase t = .inside call here seen)
    (taken : p.turn s.shared here s.register = some (shared,.inr result)) :
    ∃ w', whole p w (.execute t (seen ++ [s.register])) =
        some (w',[Event.returned t call (seen ++ [s.register]) result]) ∧
      Agrees p { s.enter t .idle with shared, owner := none } w' := by
  have owner := agrees.exclusive inside
  obtain ⟨call', before, here', seen', inside', waits, ran⟩ := agrees.held t owner
  rw [inside] at inside'
  cases inside'
  have executed := (p.runs_snoc ran s.register).trans taken
  refine ⟨_, by simp only [whole, waits, executed]; rfl, ?_, fun _ => rfl, by simp⟩
  intro u _
  by_cases same : u = t
  · subst same
    simp [State.enter, outside]
  · have other : s.owner ≠ some u := by
      intro holds
      exact same (Option.some.inj (holds.symm.trans owner))
    simpa [State.enter, same] using agrees.others u other

theorem Agrees.step (moves : Moves p) (agrees : Agrees p s w) (taken : step p s a = some (s',events)) :
    ∃ w', (w' = w ∧ events = [] ∨ ∃ b, whole p w b = some (w',events)) ∧ Agrees p s' w' := by
  cases a with
  | write value =>
    simp only [CriticalSection.step, Option.some.injEq, Prod.mk.injEq] at taken
    obtain ⟨rfl, rfl⟩ := taken
    exact ⟨w, .inl ⟨rfl, rfl⟩, agrees.others, agrees.free, agrees.held⟩
  | call t call =>
    simp only [CriticalSection.step] at taken
    split at taken
    next idle =>
      simp only [Option.some.injEq, Prod.mk.injEq] at taken
      obtain ⟨rfl, rfl⟩ := taken
      obtain ⟨w', called, agrees'⟩ := agrees.calls moves idle call
      exact ⟨w', .inr ⟨_, called⟩, agrees'⟩
    next => contradiction
  | lock t =>
    simp only [CriticalSection.step] at taken
    split at taken
    next call here asking owner =>
      simp only [Option.some.injEq, Prod.mk.injEq] at taken
      obtain ⟨rfl, rfl⟩ := taken
      exact ⟨w, .inl ⟨rfl, rfl⟩, agrees.locks asking owner⟩
    next => contradiction
  | turn t =>
    simp only [CriticalSection.step] at taken
    split at taken
    next call here seen inside =>
      split at taken
      next => contradiction
      next shared next turned =>
        simp only [Option.some.injEq, Prod.mk.injEq] at taken
        obtain ⟨rfl, rfl⟩ := taken
        exact ⟨w, .inl ⟨rfl, rfl⟩, agrees.goes_on inside turned⟩
      next shared result turned =>
        simp only [Option.some.injEq, Prod.mk.injEq] at taken
        obtain ⟨rfl, rfl⟩ := taken
        obtain ⟨w', executed, agrees'⟩ := agrees.returns inside turned
        exact ⟨w', .inr ⟨_, executed⟩, agrees'⟩
    next => contradiction

/-- However the threads interleave, they are told what they would have been told had every
section been one step, in the same order. -/
theorem reduction (moves : Moves p) (path : Path (step p) anything (start v register) trace s) :
    ∃ w, Path (whole p) anything ⟨v,fun _ => none⟩ trace w ∧ Agrees p s w := by
  refine path.invariant (fun trace s => ∃ w, Path (whole p) anything ⟨v,fun _ => none⟩ trace w ∧ Agrees p s w)
    ?_ ⟨_, .nil, agrees_start p v register⟩
  intro trace s a s' events ⟨w, reached, agrees⟩ _ taken
  obtain ⟨w', same | ⟨b, moved⟩, agrees'⟩ := agrees.step moves taken
  · obtain ⟨rfl, rfl⟩ := same
    exact ⟨w', by simpa using reached, agrees'⟩
  · exact ⟨w', reached.snoc trivial moved, agrees'⟩

end reduction

/-! What a section does on its own, and that nobody can keep it from doing so. -/

/-- Points without a next statement, whatever the register shows and whatever is prepared
meanwhile. -/
structure Halts (p : Program V C L I R) (stuck : V → L → Prop) : Prop where
  none : stuck v here → ∀ i, p.turn v here i = none
  kept : stuck v here → ∀ call, stuck (p.prepare v call).1 here

/-- Whatever the register shows, the section returns, and the goal holds of all that it
showed, the value and the result; or the section comes to a point where it is stuck. -/
inductive Returns (p : Program V C L I R) (goal : List I → V → R → Prop) (stuck : V → L → Prop) :
    List I → V → L → Prop where
  | stop : stuck v here → Returns p goal stuck seen v here
  | turn : (∀ i, ∃ v' out, p.turn v here i = some (v',out)) →
      (∀ i v' next, p.turn v here i = some (v',.inl next) → Returns p goal stuck (seen ++ [i]) v' next) →
      (∀ i v' result, p.turn v here i = some (v',.inr result) → goal (seen ++ [i]) v' result) →
      Returns p goal stuck seen v here

section returns
variable {p : Program V C L I R} {goal : List I → V → R → Prop} {stuck : V → L → Prop} {s s' : State V C L I}

theorem Returns.go (taken : ∀ i, p.turn v here i = some (v',.inl next))
    (later : ∀ i, Returns p goal stuck (seen ++ [i]) v' next) : Returns p goal stuck seen v here := by
  refine .turn (fun i => ⟨_, _, taken i⟩) ?_ ?_
  · intro i v₁ next₁ turned
    cases (taken i).symm.trans turned
    exact later i
  · intro i v₁ result turned
    cases (taken i).symm.trans turned

theorem Returns.done (taken : ∀ i, p.turn v here i = some (v',.inr result))
    (reached : ∀ i, goal (seen ++ [i]) v' result) : Returns p goal stuck seen v here := by
  refine .turn (fun i => ⟨_, _, taken i⟩) ?_ ?_
  · intro i v₁ next₁ turned
    cases (taken i).symm.trans turned
  · intro i v₁ result₁ turned
    cases (taken i).symm.trans turned
    exact reached i

/-- Something was seen by the time that a section returns. -/
theorem Returns.imp {goal' : List I → V → R → Prop} (returns : Returns p goal stuck seen v here)
    (weaker : ∀ seen v result, seen ≠ [] → goal seen v result → goal' seen v result) :
    Returns p goal' stuck seen v here := by
  induction returns with
  | stop stops => exact .stop stops
  | turn possible _ reached ih =>
    exact .turn possible ih fun i v' result taken => weaker _ _ _ (by simp) (reached i v' result taken)

/-- The goal holds of every section that was executed. -/
theorem Returns.executed (halts : Halts p stuck) (returns : Returns p goal stuck seen v here)
    (ran : p.runs v here more = some (v',.inr result)) : goal (seen ++ more) v' result := by
  induction returns generalizing more with
  | stop stops => cases more <;> simp [Program.runs, halts.none stops] at ran
  | turn possible _ reached ih =>
    cases more with
    | nil => simp [Program.runs] at ran
    | cons i rest =>
      simp only [Program.runs] at ran
      split at ran
      next => contradiction
      next v₁ next taken => simpa using ih i v₁ next taken ran
      next v₁ result₁ taken =>
        split at ran
        next ended =>
          cases ran
          subst ended
          exact reached i _ _ taken
        next => contradiction

theorem Returns.rest (halts : Halts p stuck) (returns : Returns p goal stuck seen v here)
    (ran : p.runs v here more = some (v',.inl next)) : Returns p goal stuck (seen ++ more) v' next := by
  induction returns generalizing more with
  | stop stops =>
    cases more with
    | nil =>
      cases ran
      exact .stop stops
    | cons i rest => simp [Program.runs, halts.none stops] at ran
  | turn possible later reached ih =>
    cases more with
    | nil =>
      cases ran
      simpa using Returns.turn possible later reached
    | cons i rest =>
      simp only [Program.runs] at ran
      split at ran
      next => contradiction
      next v₁ next₁ taken => simpa using ih i v₁ next₁ taken ran
      next => split at ran <;> simp at ran

/-- The value after some calls that did not get the lock yet. -/
def Program.prepares (p : Program V C L I R) (v : V) (calls : List C) : V :=
  calls.foldl (fun v call => (p.prepare v call).1) v

theorem Program.prepares_snoc (p : Program V C L I R) (v : V) (calls : List C) (call : C) :
    p.prepares v (calls ++ [call]) = (p.prepare (p.prepares v calls) call).1 := by
  simp [prepares]

theorem turn_prepares (moves : Moves p) (taken : p.turn v here i = some (v',out)) (calls : List C) :
    p.turn (p.prepares v calls) here i = some (p.prepares v' calls,out) := by
  induction calls generalizing v v' with
  | nil => exact taken
  | cons call rest ih => exact ih (moves call taken).1

theorem Halts.prepares (halts : Halts p stuck) (stops : stuck v here) (calls : List C) :
    stuck (p.prepares v calls) here := by
  induction calls generalizing v with
  | nil => exact stops
  | cons call rest ih => exact ih (halts.kept stops call)

/-- One thread is in its section, the others are not in theirs, and all that happened since
its last turn is that calls were made. -/
structure Holds (p : Program V C L I R) (t : Nat) (call : C) (here : L) (seen : List I) (v : V) (s : State V C L I) :
    Prop where
  owner : s.owner = some t
  inside : s.phase t = .inside call here seen
  alone : ∀ u, u ≠ t → ∀ call here seen, s.phase u ≠ .inside call here seen
  prepared : ∃ calls, s.shared = p.prepares v calls

theorem Holds.others (holds : Holds p t call here seen v s) (other : a ≠ .turn t)
    (taken : step p s a = some (s',events)) : Holds p t call here seen v s' := by
  obtain ⟨owner, inside, alone, calls, prepared⟩ := holds
  cases a with
  | write value =>
    simp only [step, Option.some.injEq, Prod.mk.injEq] at taken
    obtain ⟨rfl, -⟩ := taken
    exact ⟨owner, inside, alone, calls, prepared⟩
  | call u new =>
    simp only [step] at taken
    split at taken
    next idle =>
      simp only [Option.some.injEq, Prod.mk.injEq] at taken
      obtain ⟨rfl, -⟩ := taken
      have differ : t ≠ u := by
        rintro rfl
        simp [inside] at idle
      refine ⟨owner, by simpa [State.enter, differ] using inside, ?_, calls ++ [new], ?_⟩
      · intro b apart
        by_cases same : b = u
        · subst same
          simp [State.enter]
        · simpa [State.enter, same] using alone b apart
      · rw [p.prepares_snoc, ← prepared]
    next => contradiction
  | lock u => simp [step, owner] at taken
  | turn u =>
    have differ : u ≠ t := by
      rintro rfl
      exact other rfl
    simp only [step] at taken
    split at taken
    next between => exact absurd between (alone u differ _ _ _)
    next => contradiction

/-- The thread has given the lock back, with its goal reached, or it is stuck. -/
def Over (goal : List I → V → R → Prop) (stuck : V → L → Prop) (t : Nat) (call : C) (s : State V C L I) : Prop :=
  (s.owner ≠ some t ∧ ∃ seen v result, goal seen v result) ∨
    ∃ here seen, s.phase t = .inside call here seen ∧ stuck s.shared here

/-- Nothing that the others do keeps the thread that has the lock from its next turn, and
after finitely many of them the lock is free, unless the section is stuck before. -/
theorem Returns.finishes (moves : Moves p) (halts : Halts p stuck) (returns : Returns p goal stuck seen v here)
    (holds : Holds p t call here seen v s) :
    Finishes (step p) (fun _ a => a ≠ .turn t) (.turn t) (Over goal stuck t call) s := by
  induction returns generalizing s with
  | stop stops =>
    obtain ⟨calls, prepared⟩ := holds.prepared
    exact .done (.inr ⟨_, _, holds.inside, prepared ▸ halts.prepares stops calls⟩)
  | @turn v here seen possible later reached ih =>
    have between : ∀ trace u, Path (step p) (fun _ a => a ≠ .turn t) s trace u → Holds p t call here seen v u :=
      fun trace u path => path.state_invariant _ (fun holds other taken => holds.others other taken) holds
    have turned : ∀ u, Holds p t call here seen v u → ∃ v' out calls, p.turn v here u.register = some (v',out) ∧
        p.turn u.shared here u.register = some (p.prepares v' calls,out) := by
      intro u holds
      obtain ⟨calls, prepared⟩ := holds.prepared
      obtain ⟨v', out, taken⟩ := possible u.register
      exact ⟨v', out, calls, taken, prepared ▸ turn_prepares moves taken calls⟩
    apply Finishes.next
    · intro trace u path
      have holds := between trace u path
      obtain ⟨v', out, calls, -, taken⟩ := turned u holds
      cases out <;> simp [step, holds.inside, taken]
    · intro trace u w events path stepped
      have holds := between trace u path
      obtain ⟨v', out, calls, alone, taken⟩ := turned u holds
      simp only [step, holds.inside, taken] at stepped
      cases out with
      | inl next =>
        simp only [Option.some.injEq, Prod.mk.injEq] at stepped
        obtain ⟨rfl, -⟩ := stepped
        refine ih u.register v' next alone ⟨holds.owner, by simp [State.enter], ?_, calls, rfl⟩
        intro b apart
        simpa [State.enter, apart] using holds.alone b apart
      | inr result =>
        simp only [Option.some.injEq, Prod.mk.injEq] at stepped
        obtain ⟨rfl, -⟩ := stepped
        exact .done (.inl ⟨by simp, _, _, _, reached u.register v' result alone⟩)

/-- In every run the thread inside its section has the lock, and what the section does when it
is executed in one step it also does among the others. -/
theorem holder_finishes (moves : Moves p) (path : Path (step p) anything (start v register) trace s) :
    ∃ w, Path (whole p) anything ⟨v,fun _ => none⟩ trace w ∧ ∀ {t call here seen}, s.phase t = .inside call here seen →
      s.owner = some t ∧ ∃ before, w.waiting t = some (call,before) ∧
        ∀ {goal : List I → V → R → Prop} {stuck}, Halts p stuck → Returns p goal stuck [] w.shared before →
          Finishes (step p) (fun _ a => a ≠ .turn t) (.turn t) (Over goal stuck t call) s := by
  obtain ⟨w, reached, agrees⟩ := reduction moves path
  refine ⟨w, reached, fun {t call here seen} inside => ?_⟩
  have owner := agrees.exclusive inside
  obtain ⟨call', before, here', seen', inside', waits, ran⟩ := agrees.held t owner
  rw [inside] at inside'
  cases inside'
  refine ⟨owner, before, waits, fun halts returns => ?_⟩
  have holds : Holds p t call here ([] ++ seen) s.shared s := by
    refine ⟨owner, by simpa using inside, ?_, [], rfl⟩
    intro u other call' here' seen' between
    exact other (Option.some.inj ((agrees.exclusive between).symm.trans owner))
  exact (returns.rest halts ran).finishes moves halts holds

end returns

end CriticalSection
