import RiotAlarm.GatewaySections

/-! The sensor table under any number of concurrent threads: it answers as a finite map does,
and the lock around it is always given back. -/
namespace RiotAlarm.Gateway.Locking

open LinkedHeap ChainedMap CriticalSection LockPoint

variable {h h' : Ht}

/-- The call as the map knows it, with `is_engaged` as it was at one moment. -/
def TableCall.when (isEngaged : Bool) : TableCall → HtCall
  | .set name remote => .set name remote
  | .get key => .get key
  | .getNode key => .getNode key
  | .del key => .del key
  | .updateTime key => .updateTime key
  | .wdt => .wdt isEngaged false

/-- Where a thread that waits for the lock will start. -/
def Started (h : Ht) (here : LockPoint) : TableCall → Prop
  | .set name remote => ∃ node, here = slotOf node ∧ Private h node ∧
      h.heap.cells node = some { name, remote, wdt := 0, next := none }
  | .get key => here = enter .get key
  | .getNode key => here = enter .getNode key
  | .del key => here = enter .del key
  | .updateTime key => here = enter .updateTime key
  | .wdt => here = row 0 false

theorem Private.fresh (held : Private h node) (linked : Chain h.heap.cells p l) (other : p ≠ some node) : node ∉ l := by
  induction l generalizing p with
  | nil => simp
  | cons a rest ih =>
    obtain ⟨rfl, entry, here, tail⟩ := linked
    intro member
    rcases List.mem_cons.mp member with rfl | later
    · exact other rfl
    · exact ih tail (held.links a entry here) later

/-- A section that returns, executed on its own, answers as the map and leaves the table to
stand for the map's next state. -/
def Refines (call : TableCall) (h : Ht) (seen : List Bool) (h' : Ht) (result : HtResult) : Prop :=
  ∃ isEngaged ∈ seen, h'.Sound ∧ ¬ DeletesStored h.view (TableCall.when isEngaged call) ∧
    (h'.view,result) = mapCall h.view (TableCall.when isEngaged call)

/-- A section that does not return was to delete a stored name and stops at the second
release of its entry. -/
def Stops (call : TableCall) (h h' : Ht) (point : LockPoint) : Prop :=
  (∃ key, call = .del key ∧ h.view key ≠ none) ∧ Released h' point

theorem stops_halt (call : TableCall) (h : Ht) : Halts program (Stops call h) where
  none stops := stops.2.stops
  kept := by
    rintro h' point ⟨stored, released⟩ other
    refine ⟨stored, ?_⟩
    cases other with
    | set name remote => exact released.malloc _
    | _ => exact released

theorem refines_of_answers (sound : h.Sound) (call : TableCall) (answers : Answers h (TableCall.when isEngaged call) seen h' result)
    (member : isEngaged ∈ seen) : Refines call h seen h' result := by
  have ran : htCall h (TableCall.when isEngaged call) = some (h',result) := answers
  have spared : ¬ DeletesStored h.view (TableCall.when isEngaged call) := by
    intro stored
    simp [htCall_stored sound stored] at ran
  obtain ⟨h₁, result₁, run, sound', same⟩ := htCall_refines sound (TableCall.when isEngaged call) spared
  cases run.symm.trans ran
  exact ⟨isEngaged, member, sound', spared, same⟩

theorem section_returns (sound : h.Sound) (started : Started h here call) :
    Returns program (Refines call h) (Stops call h) [] h here := by
  have plain : ∀ {seen : List Bool} {h' result}, (∀ isEngaged, TableCall.when isEngaged call = TableCall.when true call) →
      seen ≠ [] → Answers h (TableCall.when true call) seen h' result → Refines call h seen h' result := by
    intro seen h' result independent nonempty answers
    obtain ⟨isEngaged, member⟩ := List.exists_mem_of_ne_nil seen nonempty
    exact refines_of_answers sound call (by rw [independent]; exact answers) member
  cases call with
  | set name remote =>
    obtain ⟨node, rfl, held, cell⟩ := started
    have fresh : ∀ i, node ∉ h.chain i := fun i => held.fresh (sound.linked i) (held.slots i)
    refine (set_returns sound cell rfl fresh []).imp ?_
    rintro seen h' result nonempty ⟨⟨linked, run⟩, rfl⟩
    obtain ⟨isEngaged, member⟩ := List.exists_mem_of_ne_nil seen nonempty
    obtain ⟨h₁, run₁, sound', bucket⟩ := htSet_spec sound cell rfl fresh
    obtain rfl : h₁ = h' := congrArg Prod.fst (Option.some.inj (run₁.symm.trans run))
    have view := view_of_bucket bucket
    refine ⟨isEngaged, member, sound', by simp [TableCall.when, DeletesStored], ?_⟩
    by_cases absent : h.view name = none
    · rw [if_pos absent] at view
      have view : h₁.view = Function.update h.view name (some ⟨remote,0⟩) := view.trans (lookup_append name _ absent)
      simp [TableCall.when, mapCall, absent, view]
    · rw [if_neg absent] at view
      have view : h₁.view = h.view := view
      simp [TableCall.when, mapCall, absent, view]
  | get key =>
    subst started
    exact (get_returns sound key []).imp fun _ _ _ => plain fun _ => rfl
  | getNode key =>
    subst started
    exact (getNode_returns sound key []).imp fun _ _ _ => plain fun _ => rfl
  | del key =>
    subst started
    by_cases absent : h.view key = none
    · exact (del_returns sound absent []).imp fun _ _ _ => plain fun _ => rfl
    · exact del_stops sound absent (fun h' point released => ⟨⟨key, rfl, absent⟩, released⟩) []
  | updateTime key =>
    subst started
    exact (updateTime_returns sound key []).imp fun _ _ _ => plain fun _ => rfl
  | wdt =>
    subst started
    refine (wdt_returns sound).imp ?_
    rintro seen h' result - ⟨isEngaged, member, answers⟩
    exact refines_of_answers sound .wdt answers member

theorem runs_spares (held : Private h node) (apart : some node ∉ pointers here)
    (ran : program.runs h here seen = some (h',out)) :
    Private h' node ∧ h'.heap.cells node = h.heap.cells node ∧ h'.heap.limit = h.heap.limit := by
  induction seen generalizing h here with
  | nil =>
    cases ran
    exact ⟨held, rfl, rfl⟩
  | cons i rest ih =>
    simp only [Program.runs] at ran
    cases taken : turn h here i with
    | none => simp [program, taken] at ran
    | some after =>
      obtain ⟨h₁, goes⟩ := after
      have spares := turn_spares held apart taken
      have limit := turn_limit taken
      cases goes with
      | inl next =>
        simp only [program, taken] at ran
        obtain ⟨held', cell, limit'⟩ := ih spares.kept (spares.next next rfl) ran
        exact ⟨held', cell.trans spares.cell, limit'.trans limit⟩
      | inr result =>
        simp only [program, taken] at ran
        split at ran
        next =>
          cases ran
          exact ⟨spares.kept, spares.cell, limit⟩
        next => contradiction

/-- Between sections the table is sound and nothing leads to the entries that callers have
allocated and not handed over, or to addresses that are still to be allocated. -/
structure Ready (w : Whole Ht TableCall LockPoint) : Prop where
  sound : w.shared.Sound
  beyond : ∀ node, w.shared.heap.limit ≤ node → Private w.shared node
  started : ∀ t call here, w.waiting t = some (call,here) → Started w.shared here call
  apart : ∀ t u call call' node, w.waiting t = some (call,slotOf node) → w.waiting u = some (call',slotOf node) → t = u

theorem private_malloc (held : Private h node) (x : SensorEntry) (last : x.next = none) : Private (h.malloc x) node where
  slots := held.slots
  links := by
    intro a entry there
    simp only [Ht.malloc, Heap.malloc_cells] at there
    split at there
    next =>
      cases there
      simp [last]
    next => exact held.links a entry there

theorem started_malloc (started : Started h here call) (x : SensorEntry) (last : x.next = none) :
    Started (h.malloc x) here call := by
  cases call with
  | set name remote =>
    obtain ⟨node, same, held, cell⟩ := started
    exact ⟨node, same, private_malloc held x last, h.heap.malloc_kept x cell⟩
  | _ => exact started

/-- A thread that waits for the lock has no pointer but that to its own entry. -/
theorem started_apart (started : Started h here call) (other : here ≠ slotOf node) : some node ∉ pointers here := by
  cases call with
  | set name remote =>
    obtain ⟨own, rfl, -, -⟩ := started
    have differ : node ≠ own := by
      rintro rfl
      exact other rfl
    simpa [pointers] using differ
  | _ =>
    subst started
    simp [pointers, Seeker.node]

theorem Ready.calls (ready : Ready w) (moved : whole program w (.call t call) = some (w',events)) :
    Ready w' ∧ w'.shared.view = w.shared.view ∧ events = [.called t call] := by
  simp only [whole] at moved
  split at moved
  next =>
    simp only [Option.some.injEq, Prod.mk.injEq] at moved
    obtain ⟨rfl, rfl⟩ := moved
    have others : ∀ {u : Nat} {call' : TableCall} {here' here : LockPoint}, u ≠ t →
        Function.update w.waiting t (some (call,here)) u = some (call',here') → w.waiting u = some (call',here') := by
      intro u call' here' here apart waits
      simpa [apart] using waits
    cases call with
    | set name remote =>
      let x : SensorEntry := { name, remote, wdt := 0, next := none }
      obtain ⟨sound, bucket, -⟩ := malloc_sound ready.sound x
      have unused : ∀ u call', w.waiting u ≠ some (call',slotOf w.shared.heap.limit) := by
        intro u call' waits
        have started := ready.started u call' _ waits
        cases call' with
        | set name' remote' =>
          obtain ⟨node, same, -, cell⟩ := started
          cases same
          exact Nat.lt_irrefl _ (w.shared.heap.lt_limit cell)
        | _ => simp [Started] at started
      refine ⟨⟨sound, ?_, ?_, ?_⟩, view_of_bucket bucket, rfl⟩
      · intro node above
        exact private_malloc (ready.beyond node (Nat.le_of_succ_le above)) x rfl
      · intro u call' here' waits
        by_cases same : u = t
        · subst same
          obtain ⟨rfl, rfl⟩ : TableCall.set name remote = call' ∧ slotOf w.shared.heap.limit = here' := by
            simpa [program, prepare] using waits
          exact ⟨_, rfl, private_malloc (ready.beyond _ (Nat.le_refl _)) x rfl, by simp [program, prepare, Ht.malloc]⟩
        · exact started_malloc (ready.started u call' here' (others same waits)) x rfl
      · intro u v call₁ call₂ node waits waits'
        by_cases first : u = t
        · by_cases second : v = t
          · exact first.trans second.symm
          · subst first
            obtain ⟨-, rfl⟩ : TableCall.set name remote = call₁ ∧ w.shared.heap.limit = node := by
              simpa [program, prepare] using waits
            exact absurd (others second waits') (unused v call₂)
        · by_cases second : v = t
          · subst second
            obtain ⟨-, rfl⟩ : TableCall.set name remote = call₂ ∧ w.shared.heap.limit = node := by
              simpa [program, prepare] using waits'
            exact absurd (others first waits) (unused u call₁)
          · exact ready.apart u v call₁ call₂ node (others first waits) (others second waits')
    | _ =>
      refine ⟨⟨ready.sound, ready.beyond, ?_, ?_⟩, rfl, rfl⟩
      · intro u call' here' waits
        by_cases same : u = t
        · subst same
          simp only [program, prepare, Function.update_self, Option.some.injEq, Prod.mk.injEq] at waits
          obtain ⟨rfl, rfl⟩ := waits
          rfl
        · exact ready.started u call' here' (others same waits)
      · intro u v call₁ call₂ node waits waits'
        have first : u ≠ t := by
          rintro rfl
          simp [program, prepare] at waits
        have second : v ≠ t := by
          rintro rfl
          simp [program, prepare] at waits'
        exact ready.apart u v call₁ call₂ node (others first waits) (others second waits')
  next => contradiction

theorem Ready.executes (ready : Ready w) (moved : whole program w (.execute t seen) = some (w',events)) :
    Ready w' ∧ ∃ call result, events = [.returned t call seen result] ∧
      Refines call w.shared seen w'.shared result := by
  simp only [whole] at moved
  split at moved
  next => contradiction
  next call here waits =>
    split at moved
    next shared result ran =>
      simp only [Option.some.injEq, Prod.mk.injEq] at moved
      obtain ⟨rfl, rfl⟩ := moved
      have started := ready.started t call here waits
      obtain ⟨isEngaged, member, sound, refines⟩ :=
        (section_returns ready.sound started).executed (stops_halt call w.shared) ran
      have member : isEngaged ∈ seen := by simpa using member
      have spared : ∀ node, Private w.shared node → here ≠ slotOf node → Private shared node ∧
          shared.heap.cells node = w.shared.heap.cells node ∧ shared.heap.limit = w.shared.heap.limit :=
        fun node held other => runs_spares held (started_apart started other) ran
      have others : ∀ {u : Nat} {call' : TableCall} {here' : LockPoint},
          Function.update w.waiting t none u = some (call',here') → u ≠ t ∧ w.waiting u = some (call',here') := by
        intro u call' here' waits'
        by_cases same : u = t
        · subst same
          simp at waits'
        · exact ⟨same, by simpa [same] using waits'⟩
      have new : ∀ node, w.shared.heap.limit ≤ node → here ≠ slotOf node := by
        rintro node above rfl
        cases call with
        | set name remote =>
          obtain ⟨own, same, -, cell⟩ := started
          cases same
          exact Nat.not_le_of_lt (w.shared.heap.lt_limit cell) above
        | _ => simp [Started] at started
      have limit := (spared _ (ready.beyond _ (Nat.le_refl _)) (new _ (Nat.le_refl _))).2.2
      refine ⟨⟨sound, ?_, ?_, ?_⟩, call, result, rfl, isEngaged, member, sound, refines⟩
      · intro node above
        have above : w.shared.heap.limit ≤ node := limit ▸ above
        exact (spared node (ready.beyond node above) (new node above)).1
      · intro u call' here' waits'
        obtain ⟨apart, waits'⟩ := others waits'
        have started' := ready.started u call' here' waits'
        cases call' with
        | set name remote =>
          obtain ⟨node, rfl, held, cell⟩ := started'
          have other : here ≠ slotOf node := by
            rintro rfl
            exact apart (ready.apart u t _ _ node waits' waits)
          obtain ⟨held', cell', -⟩ := spared node held other
          exact ⟨node, rfl, held', cell'.trans cell⟩
        | _ => exact started'
      · intro u v call₁ call₂ node waits₁ waits₂
        exact ready.apart u v call₁ call₂ node (others waits₁).2 (others waits₂).2
    next => contradiction

theorem ready_start : Ready ⟨htCreate,fun _ => none⟩ where
  sound := htCreate_sound.1
  beyond node _ := ⟨fun i => by simp [htCreate], fun a entry here => by simp [htCreate, Heap.empty] at here⟩
  started := by simp
  apart := by simp

/-- What a thread was told: the call, what it saw of `is_engaged`, and the result. -/
structure Answer where
  call : TableCall
  seen : List Bool
  result : HtResult

/-- The answers of a run, in the order in which they were given. -/
def answers (trace : List (CriticalSection.Event TableCall Bool HtResult)) : List Answer :=
  trace.filterMap fun
    | .called _ _ => none
    | .returned _ call seen result => some ⟨call,seen,result⟩

/-- The call that the map is asked: a tick reads `is_engaged` at one moment of its section. -/
def Asks (answer : Answer) (call : HtCall) : Prop :=
  ∃ isEngaged ∈ answer.seen, call = TableCall.when isEngaged answer.call

theorem mapCalls_snoc (m : SensorMap) (calls : List HtCall) (call : HtCall) :
    mapCalls m (calls ++ [call]) = ((mapCall (mapCalls m calls).1 call).1,
      (mapCalls m calls).2 ++ [(mapCall (mapCalls m calls).1 call).2]) := by
  induction calls generalizing m with
  | nil => rfl
  | cons first rest ih => simp [mapCalls, ih]

theorem deletesNothing_snoc (m : SensorMap) (calls : List HtCall) (call : HtCall) :
    DeletesNothing m (calls ++ [call]) ↔ DeletesNothing m calls ∧ ¬ DeletesStored (mapCalls m calls).1 call := by
  induction calls generalizing m with
  | nil => simp [DeletesNothing, mapCalls]
  | cons first rest ih => simp [DeletesNothing, mapCalls, ih, and_assoc]

/-- The answers of a run are those of a finite map that starts empty and is asked these calls. -/
structure Linearized (trace : List (CriticalSection.Event TableCall Bool HtResult)) (calls : List HtCall) : Prop where
  asked : List.Forall₂ Asks (answers trace) calls
  spared : DeletesNothing (fun _ => none) calls
  results : (answers trace).map Answer.result = (mapCalls (fun _ => none) calls).2

/-- Sections in one step are calls on the map one after the other. -/
theorem whole_is_a_map (path : Transition.Path (whole program) Transition.anything ⟨htCreate,fun _ => none⟩ trace w) :
    Ready w ∧ ∃ calls, Linearized trace calls ∧ w.shared.view = (mapCalls (fun _ => none) calls).1 := by
  refine path.invariant
    (fun trace w => Ready w ∧ ∃ calls, Linearized trace calls ∧ w.shared.view = (mapCalls (fun _ => none) calls).1)
    ?_ ⟨ready_start, [], ⟨.nil, trivial, rfl⟩, view_htCreate⟩
  intro trace w a w' events ⟨ready, calls, linear, view⟩ _ moved
  cases a with
  | call t call =>
    obtain ⟨ready', same, rfl⟩ := ready.calls moved
    have told : answers (trace ++ [.called t call]) = answers trace := by simp [answers]
    exact ⟨ready', calls, ⟨told ▸ linear.asked, linear.spared, told ▸ linear.results⟩, same.trans view⟩
  | execute t seen =>
    obtain ⟨ready', call, result, rfl, isEngaged, member, -, spared, refines⟩ := ready.executes moved
    have told : answers (trace ++ [.returned t call seen result]) = answers trace ++ [⟨call,seen,result⟩] := by
      simp [answers]
    rw [view] at spared refines
    have view' := congrArg Prod.fst refines
    have result' := congrArg Prod.snd refines
    refine ⟨ready', calls ++ [TableCall.when isEngaged call], ⟨?_, ?_, ?_⟩, ?_⟩
    · rw [told]
      exact List.rel_append linear.asked (.cons ⟨isEngaged, member, rfl⟩ .nil)
    · exact (deletesNothing_snoc _ _ _).mpr ⟨linear.spared, spared⟩
    · simp [told, mapCalls_snoc, linear.results, ← result']
    · rw [mapCalls_snoc]
      exact view'

/-- However many threads call the functions of the table and however their statements
interleave, also with writes of `is_engaged`, the answers are those of a finite map that is
asked the same calls in the order of the answers, none of which deletes a stored name, and
whenever nobody has the lock the linked entries stand for that map. -/
theorem threads_share_a_map
    (path : Transition.Path (CriticalSection.step program) Transition.anything (CriticalSection.start htCreate isEngaged) trace s) :
    ∃ calls, Linearized trace calls ∧
      (s.owner = none → s.shared.Invariant ∧ s.shared.Represents (mapCalls (fun _ => none) calls).1) := by
  obtain ⟨w, reached, agrees⟩ := reduction moves path
  obtain ⟨ready, calls, linear, view⟩ := whole_is_a_map reached
  refine ⟨calls, linear, fun free => ?_⟩
  rw [← agrees.free free, ← view]
  exact ⟨ready.sound.invariant, ready.sound.represents⟩

/-- The thread stands before the second release of an entry, which is gone already. -/
def ReleasesAgain (t : Nat) (call : TableCall) (s : CriticalSection.State Ht TableCall LockPoint Bool) : Prop :=
  ∃ here seen, s.phase t = .inside call here seen ∧ Released s.shared here

theorem ReleasesAgain.stands (again : ReleasesAgain t call s) : CriticalSection.step program s (.turn t) = none := by
  obtain ⟨here, seen, inside, released⟩ := again
  simp only [CriticalSection.step, inside]
  rw [show program.turn s.shared here s.register = none from released.stops _]

/-- Only the thread that has `ht_lock` is inside a function of the table, and whatever the
others do meanwhile it gives the lock back after finitely many of its own statements, unless
it deletes a stored name: then it comes to release the entry again and has no next statement. -/
theorem lock_is_given_back
    (path : Transition.Path (CriticalSection.step program) Transition.anything (CriticalSection.start htCreate isEngaged) trace s) :
    ∃ calls, Linearized trace calls ∧ ∀ t call here seen, s.phase t = .inside call here seen → s.owner = some t ∧
      ((∀ key, call = .del key → (mapCalls (fun _ => none) calls).1 key = none) →
        Transition.Finishes (CriticalSection.step program) (fun _ a => a ≠ .turn t) (.turn t) (fun s => s.owner ≠ some t) s) ∧
      ((∃ key, call = .del key ∧ (mapCalls (fun _ => none) calls).1 key ≠ none) →
        Transition.Finishes (CriticalSection.step program) (fun _ a => a ≠ .turn t) (.turn t)
          (fun s => ReleasesAgain t call s ∧ CriticalSection.step program s (.turn t) = none) s) := by
  obtain ⟨w, reached, finishes⟩ := holder_finishes moves path
  obtain ⟨ready, calls, linear, view⟩ := whole_is_a_map reached
  refine ⟨calls, linear, fun t call here seen inside => ?_⟩
  obtain ⟨owner, before, waits, finishes⟩ := finishes inside
  have ends := finishes (stops_halt call w.shared) (section_returns ready.sound (ready.started t call before waits))
  rw [← view]
  refine ⟨owner, fun absent => ends.mono ?_, fun stored => ends.mono ?_⟩
  · rintro s (⟨free, -⟩ | ⟨_, _, -, ⟨key, deletes, stored⟩, -⟩)
    · exact free
    · exact absurd (absent key deletes) stored
  · rintro s (⟨-, _, _, _, isEngaged, -, -, spared, -⟩ | ⟨here, seen, inside, -, released⟩)
    · obtain ⟨key, rfl, stored⟩ := stored
      exact absurd stored spared
    · have again : ReleasesAgain t call s := ⟨here, seen, inside, released⟩
      exact ⟨again, again.stands⟩

/-- Two threads store a sensor each, the second one allocates its entry while the first one is
inside, and a third thread runs a tick during which `is_engaged` is written. -/
def crossing : List (CriticalSection.Action TableCall Bool) :=
  [.call 0 (.set tapsense.name (entryRemote board tapsense.ipAddr REGISTER_RESPONSE)), .lock 0, .turn 0,
    .call 1 (.set act2.name (entryRemote board act2.ipAddr REGISTER_RESPONSE)), .turn 0, .call 2 .wdt, .turn 0,
    .lock 1, .turn 1, .turn 1, .turn 1, .lock 2] ++ List.replicate 6 (.turn 2) ++ [.write true] ++ List.replicate 11 (.turn 2)

def Crossed (s : CriticalSection.State Ht TableCall LockPoint Bool)
    (trace : List (CriticalSection.Event TableCall Bool HtResult)) : Prop :=
  s.owner = none ∧ (answers trace).map Answer.call =
    [.set tapsense.name (entryRemote board tapsense.ipAddr REGISTER_RESPONSE),
      .set act2.name (entryRemote board act2.ipAddr REGISTER_RESPONSE),.wdt]

instance : DecidableRel Crossed := fun s trace =>
  inferInstanceAs (Decidable (s.owner = none ∧ (answers trace).map Answer.call = _))

theorem crossing_runs : ∃ s trace,
    Transition.Path (CriticalSection.step program) Transition.anything (CriticalSection.start htCreate false) trace s ∧ Crossed s trace :=
  Transition.replay_reaches crossing Crossed (by decide +kernel)

theorem crossing_shares_a_map : ∃ s trace,
    Transition.Path (CriticalSection.step program) Transition.anything (CriticalSection.start htCreate false) trace s ∧
      Crossed s trace ∧
      ∃ calls, Linearized trace calls ∧ s.shared.Invariant ∧ s.shared.Represents (mapCalls (fun _ => none) calls).1 := by
  obtain ⟨s, trace, path, crossed⟩ := crossing_runs
  obtain ⟨calls, linear, represents⟩ := threads_share_a_map path
  exact ⟨s, trace, path, crossed, calls, linear, represents crossed.1⟩

/-- A sensor is stored by one thread, and another one is in the first statement of a call. -/
def afterStoring (call : TableCall) : List (CriticalSection.Action TableCall Bool) :=
  [.call 0 (.set tapsense.name (entryRemote board tapsense.ipAddr REGISTER_RESPONSE)), .lock 0, .turn 0,
    .call 1 call, .turn 0, .turn 0, .lock 1, .turn 1]

def Inside (call : TableCall) (s : CriticalSection.State Ht TableCall LockPoint Bool)
    (trace : List (CriticalSection.Event TableCall Bool HtResult)) : Prop :=
  (match s.phase 1 with
    | .inside call' _ _ => call' = call
    | _ => False) ∧
  (answers trace).map Answer.call = [.set tapsense.name (entryRemote board tapsense.ipAddr REGISTER_RESPONSE)]

instance : DecidableRel (Inside call) := fun s trace => by
  unfold Inside
  cases s.phase 1 <;> infer_instance

theorem Inside.inside (holds : Inside call s trace) : ∃ here seen, s.phase 1 = .inside call here seen := by
  unfold Inside at holds
  split at holds
  next call' here seen inside => exact ⟨here, seen, by rw [inside, holds.1]⟩
  next => exact holds.1.elim

theorem Inside.stored (holds : Inside call s trace) (linear : Linearized trace calls) :
    (mapCalls (fun _ => none) calls).1 tapsense.name ≠ none := by
  obtain ⟨answer, told, stores⟩ := List.map_eq_singleton_iff.mp holds.2
  have asked := linear.asked
  rw [told] at asked
  cases asked with
  | cons asks more =>
    cases more
    obtain ⟨isEngaged, -, rfl⟩ := asks
    simp [stores, TableCall.when, mapCalls, mapCall]

theorem afterStoring_gives_lock_back :
    (∃ s trace, Transition.Path (CriticalSection.step program) Transition.anything (CriticalSection.start htCreate false) trace s ∧
      Inside (.get tapsense.name) s trace ∧
      Transition.Finishes (CriticalSection.step program) (fun _ a => a ≠ .turn 1) (.turn 1) (fun s => s.owner ≠ some 1) s) ∧
    (∃ s trace, Transition.Path (CriticalSection.step program) Transition.anything (CriticalSection.start htCreate false) trace s ∧
      Inside (.del tapsense.name) s trace ∧
      Transition.Finishes (CriticalSection.step program) (fun _ a => a ≠ .turn 1) (.turn 1)
        (fun s => ReleasesAgain 1 (.del tapsense.name) s ∧ CriticalSection.step program s (.turn 1) = none) s) := by
  constructor
  · obtain ⟨s, trace, path, holds⟩ : ∃ s trace, Transition.Path (CriticalSection.step program) Transition.anything
        (CriticalSection.start htCreate false) trace s ∧ Inside (.get tapsense.name) s trace :=
      Transition.replay_reaches (afterStoring (.get tapsense.name)) _ (by decide +kernel)
    obtain ⟨here, seen, inside⟩ := holds.inside
    obtain ⟨calls, -, ends⟩ := lock_is_given_back path
    exact ⟨s, trace, path, holds, (ends 1 _ here seen inside).2.1 (by simp)⟩
  · obtain ⟨s, trace, path, holds⟩ : ∃ s trace, Transition.Path (CriticalSection.step program) Transition.anything
        (CriticalSection.start htCreate false) trace s ∧ Inside (.del tapsense.name) s trace :=
      Transition.replay_reaches (afterStoring (.del tapsense.name)) _ (by decide +kernel)
    obtain ⟨here, seen, inside⟩ := holds.inside
    obtain ⟨calls, linear, ends⟩ := lock_is_given_back path
    exact ⟨s, trace, path, holds, (ends 1 _ here seen inside).2.2 ⟨_, rfl, holds.stored linear⟩⟩

end RiotAlarm.Gateway.Locking
