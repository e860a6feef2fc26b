import RiotAlarm.GatewayLocking

/-! Every section of the sensor table, when nobody else comes in between, does what its
function does in one step; a watchdog tick also when `is_engaged` is written meanwhile. -/
namespace RiotAlarm.Gateway.Locking

open LinkedHeap CriticalSection LockPoint

variable {goal : List Bool → Ht → HtResult → Prop} {stuck : Ht → LockPoint → Prop} {h h' : Ht}

/-- The statement after the lookup loop has stopped. -/
def afterLoop (seeker : Seeker) (key : CString) : Cursor → LockPoint
  | ⟨none,prev,idx⟩ => test seeker key ⟨none,prev,idx⟩
  | ⟨some a,prev,idx⟩ => hit seeker key a prev idx

/-- The loop stops where `seek` says. -/
theorem seek_returns (sought : seek h.heap.cells (matching key) fuel cursor = some last)
    (rest : ∀ seen, Returns program goal stuck seen h (afterLoop seeker key last)) :
    ∀ seen, Returns program goal stuck seen h (test seeker key cursor) := by
  induction fuel generalizing cursor with
  | zero => simp [seek] at sought
  | succ fuel ih =>
    intro seen
    obtain ⟨first, before, n⟩ := cursor
    cases first with
    | none =>
      cases sought
      exact rest seen
    | some a =>
      cases here : h.heap.cells a with
      | none => simp [seek, here] at sought
      | some x =>
        by_cases found : matching key x = true
        · simp only [seek, here, found, if_true, Option.some.injEq] at sought
          subst sought
          have stops : ∀ i, turn h (test seeker key ⟨some a,before,n⟩) i = some (h,.inl (hit seeker key a before n)) := by
            simp [turn, here, found]
          exact .go stops fun i => rest _
        · simp only [seek, here, found] at sought
          have goes : ∀ i, turn h (test seeker key ⟨some a,before,n⟩) i = some (h,.inl (advance seeker key a n)) := by
            simp [turn, here, found]
          have advances : ∀ i, turn h (advance seeker key a n) i =
              some (h,.inl (test seeker key ⟨x.next,some a,n + 1⟩)) := by
            simp [turn, here]
          exact .go goes fun i => .go advances fun j => ih sought _

/-- A function whose slot is empty has nothing to search. -/
theorem enter_returns (sound : h.Sound) (seeker : Seeker) (key : CString)
    (empty : h.entries (slot key) = none → ∀ seen, Returns program goal stuck seen h (enter seeker key))
    (found : ∀ a prev idx, h.entries (slot key) ≠ none → h.search key = some ⟨some a,prev,idx⟩ →
      ∀ seen, Returns program goal stuck seen h (hit seeker key a prev idx))
    (lost : ∀ prev idx, h.entries (slot key) ≠ none → h.search key = some ⟨none,prev,idx⟩ →
      ∀ seen, Returns program goal stuck seen h (test seeker key ⟨none,prev,idx⟩)) :
    ∀ seen, Returns program goal stuck seen h (enter seeker key) := by
  intro seen
  cases first : h.entries (slot key) with
  | none => exact empty first seen
  | some b =>
    have filled : h.entries (slot key) ≠ none := by simp [first]
    have enters : ∀ i, turn h (enter seeker key) i = some (h,.inl (test seeker key ⟨some b,none,0⟩)) := by
      simp [turn, first]
    refine .go enters fun i => ?_
    obtain ⟨⟨p,prev,idx⟩, sought⟩ : ∃ c, h.search key = some c := by
      rcases sound.search key with ⟨_, _, _, _, _, _, _, _, run⟩ | ⟨_, run⟩ <;> exact ⟨_, run⟩
    have sought' := sought
    rw [Ht.search, first] at sought'
    refine seek_returns sought' ?_ _
    cases p with
    | none => exact lost prev idx filled sought
    | some a => exact found a prev idx filled sought

/-- The answer that the function gives when it runs in one step. -/
def Answers (h : Ht) (call : HtCall) (_ : List Bool) (h' : Ht) (result : HtResult) : Prop :=
  htCall h call = some (h',result)

theorem get_returns (sound : h.Sound) (key : CString) :
    ∀ seen, Returns program (Answers h (.get key)) stuck seen h (enter .get key) := by
  refine enter_returns sound .get key ?_ ?_ ?_
  · intro empty seen
    have ends : ∀ i, turn h (enter .get key) i = some (h,.inr (.name none)) := by simp [turn, empty, missing]
    exact .done ends fun i => by simp [Answers, htCall, htGet, empty]
  · intro a prev idx filled sought seen
    rcases sound.search key with ⟨_, b, entry, _, _, here, _, _, run⟩ | ⟨_, run⟩
    · obtain ⟨rfl, -, -⟩ : a = b ∧ _ ∧ _ := by simpa using sought.symm.trans run
      have ends : ∀ i, turn h (hit .get key a prev idx) i = some (h,.inr (.name (some entry.name))) := by
        simp [turn, found, here]
      exact .done ends fun i => by simp [Answers, htCall, htGet, filled, sought, here]
    · simp [sought] at run
  · intro prev idx filled sought seen
    have ends : ∀ i, turn h (test .get key ⟨none,prev,idx⟩) i = some (h,.inr (.name none)) := by simp [turn, missing]
    exact .done ends fun i => by simp [Answers, htCall, htGet, filled, sought]

theorem getNode_returns (sound : h.Sound) (key : CString) :
    ∀ seen, Returns program (Answers h (.getNode key)) stuck seen h (enter .getNode key) := by
  refine enter_returns sound .getNode key ?_ ?_ ?_
  · intro empty seen
    have ends : ∀ i, turn h (enter .getNode key) i = some (h,.inr (.node none)) := by simp [turn, empty, missing]
    exact .done ends fun i => by simp [Answers, htCall, htGetNode, empty]
  · intro a prev idx filled sought seen
    rcases sound.search key with ⟨_, b, entry, _, _, here, _, _, run⟩ | ⟨_, run⟩
    · obtain ⟨rfl, -, -⟩ : a = b ∧ _ ∧ _ := by simpa using sought.symm.trans run
      have ends : ∀ i, turn h (hit .getNode key a prev idx) i =
          some (h,.inr (.node (some (entry.name,entry.value)))) := by
        simp [turn, found, record_cell here]
      exact .done ends fun i => by simp [Answers, htCall, htGetNode, filled, sought, record_cell here]
    · simp [sought] at run
  · intro prev idx filled sought seen
    have ends : ∀ i, turn h (test .getNode key ⟨none,prev,idx⟩) i = some (h,.inr (.node none)) := by
      simp [turn, missing]
    exact .done ends fun i => by simp [Answers, htCall, htGetNode, filled, sought]

theorem updateTime_returns (sound : h.Sound) (key : CString) :
    ∀ seen, Returns program (Answers h (.updateTime key)) stuck seen h (enter .updateTime key) := by
  refine enter_returns sound .updateTime key ?_ ?_ ?_
  · intro empty seen
    have ends : ∀ i, turn h (enter .updateTime key) i = some (h,.inr .done) := by simp [turn, empty, missing]
    exact .done ends fun i => by simp [Answers, htCall, htUpdateTime, empty]
  · intro a prev idx filled sought seen
    rcases sound.search key with ⟨_, b, entry, _, _, here, _, _, run⟩ | ⟨_, run⟩
    · obtain ⟨rfl, -, -⟩ : a = b ∧ _ ∧ _ := by simpa using sought.symm.trans run
      obtain ⟨heap, written, -⟩ := h.heap.modify_eq (fun entry => { entry with wdt := 0 }) here
      have ends : ∀ i, turn h (hit .updateTime key a prev idx) i = some ({ h with heap },.inr .done) := by
        simp [turn, found, written]
      exact .done ends fun i => by simp [Answers, htCall, htUpdateTime, filled, sought, written]
    · simp [sought] at run
  · intro prev idx filled sought seen
    have ends : ∀ i, turn h (test .updateTime key ⟨none,prev,idx⟩) i = some (h,.inr .done) := by simp [turn, missing]
    exact .done ends fun i => by simp [Answers, htCall, htUpdateTime, filled, sought]

/-- `ht_set` of a node that its caller has filled in. -/
theorem set_returns (sound : h.Sound) (here : h.heap.cells node = some entry) (last : entry.next = none)
    (fresh : ∀ i, node ∉ h.chain i) :
    ∀ seen, Returns program (fun _ h' result => (∃ linked, htSet h node = some (h',linked)) ∧ result = .done) stuck seen h
      (slotOf node) := by
  intro seen
  have starts : ∀ i, turn h (slotOf node) i = some (h,.inl (enter (.set node) entry.name)) := by simp [turn, here]
  refine .go starts fun i => ?_
  obtain ⟨final, run, -⟩ := htSet_spec sound here last fresh
  refine enter_returns sound (.set node) entry.name ?_ ?_ ?_ _
  · intro empty seen
    have enters : ∀ i, turn h (enter (.set node) entry.name) i = some (h,.inl (putFirst entry.name node)) := by
      simp [turn, empty]
    have ends : ∀ i, turn h (putFirst entry.name node) i =
        some ({ h with entries := setSlot h.entries (slot entry.name) (some node) },.inr .done) := by simp [turn]
    exact .go enters fun i => .done ends fun j => ⟨⟨true, by simp [htSet, here, empty]⟩, rfl⟩
  · intro a prev idx filled sought seen
    have ends : ∀ i, turn h (hit (.set node) entry.name a prev idx) i = some (h,.inr .done) := by simp [turn, found]
    exact .done ends fun i => ⟨⟨false, by simp [htSet, here, filled, sought]⟩, rfl⟩
  · intro prev idx filled sought seen
    obtain ⟨linked, written⟩ : ∃ linked, h.setNext prev (some node) = some linked := by
      cases written : h.setNext prev (some node) with
      | none => simp [htSet, here, filled, sought, written] at run
      | some linked => exact ⟨linked, rfl⟩
    have goes : ∀ i, turn h (test (.set node) entry.name ⟨none,prev,idx⟩) i = some (h,.inl (link prev node)) := by
      simp [turn, missing]
    have ends : ∀ i, turn h (link prev node) i = some (linked,.inr .done) := by simp [turn, written]
    exact .go goes fun i => .done ends fun j => ⟨⟨true, by simp [htSet, here, filled, sought, written]⟩, rfl⟩

/-! `ht_del` writes, tests and reads the entry again and again; the four tests leave it as
it is. -/

theorem unlinkStep_cell (here : h.heap.cells a = some entry) (apart : prev ≠ some a) (which : Unlink)
    (done : unlinkStep h key entry prev idx which = some h') :
    h'.heap.cells a = some entry := by
  have linked : ∀ next h', h.setNext prev next = some h' → h'.heap.cells a = some entry := by
    intro next h' written
    cases prev with
    | none => simp [Ht.setNext] at written
    | some p =>
      cases there : h.heap.cells p with
      | none =>
        simp only [Ht.setNext, Option.bind_eq_bind, Option.bind_some, Option.bind_eq_some_iff] at written
        obtain ⟨heap, modified, -⟩ := written
        unfold Heap.modify at modified
        split at modified <;> simp_all
      | some before =>
        obtain ⟨h₁, written', -, cells, -⟩ := setNext_eq there next
        obtain rfl : h₁ = h' := Option.some.inj (written'.symm.trans written)
        have other : a ≠ p := by
          rintro rfl
          exact apart rfl
        simp [cells, other, here]
  cases which <;> simp only [unlinkStep] at done <;> split at done
  · cases done
    exact here
  · cases done
    exact here
  · cases done
    exact here
  · cases done
    exact here
  · exact linked _ _ done
  · cases done
    exact here
  · exact linked _ _ done
  · cases done
    exact here

theorem htUnlink_steps (filled : h.entries (slot key) ≠ none) (sought : h.search key = some ⟨some a,prev,idx⟩)
    (here : h.heap.cells a = some entry) :
    htUnlink h key = (unlinkStep h key entry prev idx .only).bind fun h₁ =>
      (unlinkStep h₁ key entry prev idx .first).bind fun h₂ =>
      (unlinkStep h₂ key entry prev idx .last).bind fun h₃ =>
      (unlinkStep h₃ key entry prev idx .middle).map fun h₄ => (h₄,some (a,entry.remote)) := by
  by_cases last : entry.next = none <;> by_cases first : idx = 0 <;>
    simp [htUnlink, filled, sought, here, unlinkStep, last, first, Option.map_eq_bind]

/-- A test of `ht_del` when it is its turn. -/
theorem unlink_goes (which : Unlink) (here : h.heap.cells a = some entry)
    (done : unlinkStep h key entry prev idx which = some h') :
    ∀ i, turn h (unlink which key a prev idx) i = some (h',.inl (which.following key a prev idx)) := by
  simp [turn, here, done]

/-- `ht_del` of a name that is not stored gives the lock back. -/
theorem del_returns (sound : h.Sound) (absent : h.view key = none) :
    ∀ seen, Returns program (Answers h (.del key)) stuck seen h (enter .del key) := by
  have run : htDel h key = some (h,1,[]) := by rw [htDel_eq sound, if_pos absent]
  refine enter_returns sound .del key ?_ ?_ ?_
  · intro empty seen
    have ends : ∀ i, turn h (enter .del key) i = some (h,.inr (.deleted 1 [])) := by simp [turn, empty, missing]
    exact .done ends fun i => by simp [Answers, htCall, run]
  · intro a prev idx filled sought seen
    rcases sound.search key with ⟨_, _, _, _, _, _, _, stored, _⟩ | ⟨_, missed⟩
    · simp [absent] at stored
    · simp [sought] at missed
  · intro prev idx filled sought seen
    have ends : ∀ i, turn h (test .del key ⟨none,prev,idx⟩) i = some (h,.inr (.deleted 1 [])) := by simp [turn, missing]
    exact .done ends fun i => by simp [Answers, htCall, run]

/-- `ht_del` of a stored name unlinks the entry, sends the message and stops at the second
release. -/
theorem del_stops (sound : h.Sound) (stored : h.view key ≠ none)
    (released : ∀ h' point, Released h' point → stuck h' point) :
    ∀ seen, Returns program goal stuck seen h (enter .del key) := by
  refine enter_returns sound .del key ?_ ?_ ?_
  · exact fun empty => absurd (view_empty_slot empty) stored
  · intro a prev idx filled sought seen
    rcases sound.search key with ⟨before, b, entry, after, split, here, _, _, run⟩ | ⟨missing, _⟩
    · obtain ⟨rfl, rfl, -⟩ : a = b ∧ prev = before.getLast? ∧ _ := by simpa using sought.symm.trans run
      have apart : before.getLast? ≠ some a := by
        intro clash
        have distinct := (sound.linked (slot key)).nodup
        rw [split] at distinct
        exact (List.nodup_append.mp distinct).2.2 a (List.mem_of_getLast? clash) a (by simp) rfl
      obtain ⟨final, unnoticed, -⟩ := htDelUnnoticed_spec sound key
      obtain ⟨out, unlinked⟩ : ∃ out, htUnlink h key = some out := by
        cases unlinked : htUnlink h key with
        | none => simp [htDelUnnoticed, unlinked] at unnoticed
        | some out => exact ⟨out, rfl⟩
      rw [htUnlink_steps filled sought here] at unlinked
      obtain ⟨h₁, only, steps⟩ := Option.bind_eq_some_iff.mp unlinked
      obtain ⟨h₂, first, steps⟩ := Option.bind_eq_some_iff.mp steps
      obtain ⟨h₃, last, steps⟩ := Option.bind_eq_some_iff.mp steps
      obtain ⟨h₄, middle, -⟩ := Option.map_eq_some_iff.mp steps
      have here₁ := unlinkStep_cell here apart .only only
      have here₂ := unlinkStep_cell here₁ apart .first first
      have here₃ := unlinkStep_cell here₂ apart .last last
      have here₄ := unlinkStep_cell here₃ apart .middle middle
      have finds : ∀ i, turn h (hit .del key a before.getLast? idx) i =
          some (h,.inl (unlink .only key a before.getLast? idx)) := by simp [turn, found]
      have sends : ∀ i, turn h₄ (send a) i = some (h₄,.inl (freeName a [entry.remote])) := by simp [turn, here₄]
      have frees : ∀ i, turn h₄ (freeName a [entry.remote]) i =
          some ({ h₄ with heap := h₄.heap.discard a },.inl (freeEntry a [entry.remote])) := by
        simp [turn, h₄.heap.free_eq here₄]
      refine .go finds fun i => .go (unlink_goes .only here only) fun i => .go (unlink_goes .first here₁ first) fun i =>
        .go (unlink_goes .last here₂ last) fun i => .go (unlink_goes .middle here₃ middle) fun i =>
        .go sends fun i => .go frees fun i => .stop (released _ _ (released_after (frees i)))
    · exact absurd missing stored
  · intro prev idx filled sought
    rcases sound.search key with ⟨_, _, _, _, _, _, _, _, run⟩ | ⟨missing, _⟩
    · simp [sought] at run
    · exact absurd missing stored

/-! The watchdog tick. Others may write `is_engaged` between two of its statements. -/

/-- What a tick may have noted of the entries that had run out so far. -/
structure Told (seen : List Bool) (isTimeout past : Bool) : Prop where
  raised : isTimeout = true → past = true ∧ true ∈ seen
  kept : isTimeout = false → past = false ∨ false ∈ seen

theorem Told.later (told : Told seen isTimeout past) (more : List Bool) : Told (seen ++ more) isTimeout past where
  raised up := ⟨(told.raised up).1, List.mem_append_left _ (told.raised up).2⟩
  kept down := (told.kept down).imp_right (List.mem_append_left _)

theorem Told.expired (told : Told seen isTimeout past) (isEngaged : Bool) :
    Told (seen ++ [isEngaged]) (if isEngaged then true else isTimeout) true := by
  cases isEngaged with
  | true => exact ⟨fun _ => ⟨rfl, by simp⟩, by simp⟩
  | false => exact ⟨fun up => ⟨rfl, List.mem_append_left _ (told.raised up).2⟩, fun _ => .inr (by simp)⟩

/-- The inner loop from one entry of a chain to the chain's end. -/
theorem visit_returns (linked : Chain h.heap.cells (some a) l)
    (run : l.foldlM (wdtVisit true) (h,past) = some (h',past'))
    (rest : ∀ isTimeout seen, Told seen isTimeout past' → Returns program goal stuck seen h' (row (i + 1) isTimeout)) :
    ∀ isTimeout seen, Told seen isTimeout past → Returns program goal stuck seen h (visit i a isTimeout) := by
  induction l generalizing h past a with
  | nil => exact absurd linked (by simp [Chain])
  | cons b l ih =>
    intro isTimeout seen told
    obtain ⟨same, entry, here, tail⟩ := linked
    obtain rfl : a = b := Option.some.inj same
    obtain ⟨⟨h₁,past₁⟩, visited, run⟩ := Option.bind_eq_some_iff.mp run
    have link := (wdtVisit_links true (h,past) a (h₁,past₁) visited).2.2.2
    have onwards : ∀ isTimeout seen, Told seen isTimeout past₁ → Returns program goal stuck seen h₁ (onward i a isTimeout) := by
      intro isTimeout seen told
      obtain ⟨entry₁, here₁, next⟩ : ∃ entry₁, h₁.heap.cells a = some entry₁ ∧ Linked.next entry₁ = Linked.next entry := by
        have linkHere := link a
        rw [here] at linkHere
        exact Option.map_eq_some_iff.mp linkHere
      have tail₁ : Chain h₁.heap.cells entry₁.next l := by
        change Chain h₁.heap.cells (Linked.next entry₁) l
        rw [next]
        exact tail.same_links fun c _ => link c
      cases goes : entry₁.next with
      | none =>
        have ended : ∀ j, turn h₁ (onward i a isTimeout) j = some (h₁,.inl (row (i + 1) isTimeout)) := by
          simp [turn, here₁, goes]
        cases l with
        | nil =>
          cases run
          exact .go ended fun j => rest isTimeout _ (told.later [j])
        | cons c l => simp [goes, Chain] at tail₁
      | some c =>
        have continued : ∀ j, turn h₁ (onward i a isTimeout) j = some (h₁,.inl (visit i c isTimeout)) := by
          simp [turn, here₁, goes]
        exact .go continued fun j => ih (goes ▸ tail₁) run isTimeout _ (told.later [j])
    by_cases late : entry.wdt > 2
    · have looks : ∀ j, turn h (visit i a isTimeout) j = some (h,.inl (expired i a isTimeout)) := by
        simp [turn, here, late]
      simp only [wdtVisit, here, late, if_true, Option.bind_eq_bind, Option.bind_some, Option.pure_def,
        Option.some.injEq, Prod.mk.injEq] at visited
      obtain ⟨rfl, rfl⟩ := visited
      refine .go looks fun j => .turn (fun k => ⟨_, _, rfl⟩) ?_ ?_
      · intro k v next taken
        cases taken
        exact onwards _ _ ((told.later [j]).expired k)
      · intro k v result taken
        cases taken
    · have looks : ∀ j, turn h (visit i a isTimeout) j = some (h,.inl (age i a isTimeout)) := by
        simp [turn, here, late]
      simp only [wdtVisit, here, late, if_false, Option.bind_eq_bind, Option.bind_some, Option.pure_def,
        Option.bind_eq_some_iff] at visited
      obtain ⟨heap, written, same⟩ := visited
      cases same
      have ages : ∀ j, turn h (age i a isTimeout) j = some ({ h with heap },.inl (onward i a isTimeout)) := by
        simp [turn, written]
      exact .go looks fun j => .go ages fun k => onwards _ _ ((told.later [j]).later [k])

/-- The outer loop from one slot on. -/
theorem row_returns {h : Ht} (chains : Fin TABLE_SIZE → List Nat) (linked : ∀ j, Chain h.heap.cells (h.entries j) (chains j))
    (left : i + k = TABLE_SIZE)
    (run : ((List.finRange TABLE_SIZE).drop i).foldlM (wdtSlot true) (h,past) = some (h',past'))
    (ends : ∀ isTimeout seen, seen ≠ [] → Told seen isTimeout past' → goal seen h' (.timeout isTimeout)) :
    ∀ isTimeout seen, Told seen isTimeout past → Returns program goal stuck seen h (row i isTimeout) := by
  induction k generalizing h past i with
  | zero =>
    intro isTimeout seen told
    have outside : ¬ i < TABLE_SIZE := by omega
    rw [List.drop_eq_nil_of_le (by simp; omega)] at run
    obtain ⟨rfl, rfl⟩ : h = h' ∧ past = past' := by simpa using run
    have ended : ∀ j, turn h (row i isTimeout) j = some (h,.inr (.timeout isTimeout)) := by simp [turn, outside]
    exact .done ended fun j => ends isTimeout _ (by simp) (told.later [j])
  | succ k ih =>
    intro isTimeout seen told
    have inside : i < TABLE_SIZE := by omega
    have first : (List.finRange TABLE_SIZE).drop i = ⟨i,inside⟩ :: (List.finRange TABLE_SIZE).drop (i + 1) := by
      rw [List.drop_eq_getElem_cons (by simpa using inside)]
      simp
    rw [first, List.foldlM_cons] at run
    obtain ⟨⟨h₁,past₁⟩, visited, run⟩ := Option.bind_eq_some_iff.mp run
    have here := linked ⟨i,inside⟩
    have fold : wdtSlot true (h,past) ⟨i,inside⟩ = (chains ⟨i,inside⟩).foldlM (wdtVisit true) (h,past) :=
      each_chain _ _ (fun s a s' visited => (wdtVisit_links true s a s' visited).2.2.2) here
        (Nat.lt_succ_of_le (here.length_le h.heap))
    rw [fold] at visited
    obtain ⟨entries, -, -, links⟩ := wdtFold_links true _ (h,past) (h₁,past₁) visited
    have linked₁ : ∀ j, Chain h₁.heap.cells (h₁.entries j) (chains j) := by
      intro j
      rw [show h₁.entries = h.entries from entries]
      exact (linked j).same_links fun b _ => links b
    have later := ih linked₁ (by omega) run
    cases slot : h.entries ⟨i,inside⟩ with
    | none =>
      have skips : ∀ j, turn h (row i isTimeout) j = some (h,.inl (row (i + 1) isTimeout)) := by
        simp [turn, inside, slot]
      have nothing : chains ⟨i,inside⟩ = [] := by
        rw [slot] at here
        exact here.unique (show Chain h.heap.cells none [] from rfl)
      rw [nothing] at visited
      cases visited
      exact .go skips fun j => later isTimeout _ (told.later [j])
    | some a =>
      have starts : ∀ j, turn h (row i isTimeout) j = some (h,.inl (visit i a isTimeout)) := by
        simp [turn, inside, slot]
      exact .go starts fun j => visit_returns (slot ▸ here) visited later isTimeout _ (told.later [j])

/-- Whether the alarm is engaged decides about the flag only. -/
theorem wdtFold_table (isEngaged isEngaged' : Bool) (l : List Nat) (h : Ht) (flag flag' : Bool) :
    (l.foldlM (wdtVisit isEngaged) (h,flag)).map Prod.fst = (l.foldlM (wdtVisit isEngaged') (h,flag')).map Prod.fst := by
  induction l generalizing h flag flag' with
  | nil => rfl
  | cons a rest ih =>
    simp only [List.foldlM_cons, Option.bind_eq_bind]
    cases here : h.heap.cells a with
    | none => simp [wdtVisit, here]
    | some entry =>
      by_cases late : entry.wdt > 2
      · simpa [wdtVisit, here, late] using ih h _ _
      · cases written : h.heap.modify a fun entry => { entry with wdt := entry.wdt + 1 } with
        | none => simp [wdtVisit, here, late, written]
        | some heap => simpa [wdtVisit, here, late, written] using ih { h with heap } _ _

theorem htWdt_table (sound : h.Sound) (run : htWdt h isEngaged isTimeout = some (h',flag)) (isEngaged' isTimeout' : Bool) :
    htWdt h isEngaged' isTimeout' = some (h',isTimeout' || (isEngaged' && h.expired)) := by
  obtain ⟨h₁, run', -⟩ := htWdt_spec sound isEngaged' isTimeout'
  have same : (htWdt h isEngaged isTimeout).map Prod.fst = (htWdt h isEngaged' isTimeout').map Prod.fst := by
    rw [htWdt, htWdt, wdtSlots_eq isEngaged h.chain _ (h,isTimeout) sound.linked,
      wdtSlots_eq isEngaged' h.chain _ (h,isTimeout') sound.linked]
    exact wdtFold_table _ _ _ _ _ _
  rw [run, run'] at same
  obtain rfl : h' = h₁ := Option.some.inj same
  exact run'

/-- A tick during which `is_engaged` is written answers as one that reads it at some moment of
the tick. -/
theorem wdt_returns (sound : h.Sound) :
    Returns program (fun seen h' result => ∃ isEngaged ∈ seen, Answers h (.wdt isEngaged false) seen h' result) stuck [] h
      (row 0 false) := by
  obtain ⟨h', run, -⟩ := htWdt_spec sound true false
  have spec := htWdt_table sound run
  have whole : ((List.finRange TABLE_SIZE).drop 0).foldlM (wdtSlot true) (h,false) = some (h',h.expired) := by
    simpa [htWdt] using run
  refine row_returns h.chain sound.linked (Nat.zero_add TABLE_SIZE) whole ?_ false [] ⟨by simp, by simp⟩
  intro isTimeout seen nonempty told
  cases isTimeout with
  | true =>
    obtain ⟨past, engaged⟩ := told.raised rfl
    exact ⟨true, engaged, by simp [Answers, htCall, spec, past]⟩
  | false =>
    rcases told.kept rfl with none | idle
    · obtain ⟨isEngaged, member⟩ := List.exists_mem_of_ne_nil seen nonempty
      exact ⟨isEngaged, member, by simp [Answers, htCall, spec, none]⟩
    · exact ⟨false, idle, by simp [Answers, htCall, spec]⟩

end RiotAlarm.Gateway.Locking
