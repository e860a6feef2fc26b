import RiotAlarm.GatewayCoap
import RiotAlarm.Transition

/-! The watchdog against the history of a run: an entry's counter is the number of
ticks since it was last heard of, cut off at three. -/
namespace RiotAlarm.Gateway.Watchdog

open Transition

inductive Operation where
  | insert (id : NodeIdentity)
  | delete (name : CString)
  | status (payload : Option NodeIdentity)
  | engage
  | disengage
  | tick

/-- The operation, run to completion, and whether it was accepted: an entry was added or found
to delete, the request answered with 2.04. -/
def operate (gnrc : Gnrc) (g : Globals) : Operation → Globals × Bool
  | .insert id =>
    let (g,events) := addSensorEntry gnrc g id (gnrc.addrToStr id.ipAddr)
    (g,!events.isEmpty)
  | .delete name =>
    let (g,code,_) := removeSensor g name
    (g,code = 0)
  | .status payload =>
    let (g,code) := sensorStatusHandler g payload
    (g,code = .changed)
  | .engage => ({ g with isEngaged := true },true)
  | .disengage => ((deactivateAlarm g).1,true)
  | .tick => (wdtThread g,true)

/-- The variables after a run, and its operations with their answers. -/
structure Watched where
  globals : Globals
  log : List (Operation × Bool)

def Watched.next (w : Watched) (gnrc : Gnrc) (operation : Operation) : Watched :=
  let (g,accepted) := operate gnrc w.globals operation
  ⟨g,w.log ++ [(operation,accepted)]⟩

def run (gnrc : Gnrc) (operations : List Operation) : Watched :=
  operations.foldl (·.next gnrc) ⟨init,[]⟩

/-- An entry was inserted or its status request accepted; a tick went by. -/
inductive Mark where
  | fresh (name : CString)
  | ticked
  deriving DecidableEq

def mark : Operation × Bool → Option Mark
  | (.insert id,true) => some (.fresh id.name)
  | (.status (some id),true) => some (.fresh id.name)
  | (.tick,_) => some .ticked
  | _ => none

def Watched.history (w : Watched) : List Mark := w.log.filterMap mark

theorem history_next (w : Watched) (gnrc : Gnrc) (operation : Operation) :
    (w.next gnrc operation).history = w.history ++ (mark (operation,(operate gnrc w.globals operation).2)).toList := by
  cases marked : mark (operation,(operate gnrc w.globals operation).2) <;>
    simp [Watched.history, Watched.next, List.filterMap_append, marked]

def inserts (name : CString) : Operation → Bool
  | .insert id => id.name = name
  | _ => false

def deletes (name : CString) : Operation → Bool
  | .delete key => key = name
  | _ => false

/-- Ticks since the entry was inserted or its last status request was accepted,
whichever came later. -/
def ticksSince (name : CString) (history : List Mark) : Nat :=
  (since (· == .fresh name) history).count .ticked

@[simp] theorem ticksSince_ticked (name : CString) (history : List Mark) :
    ticksSince name (history ++ [.ticked]) = ticksSince name history + 1 := by
  simp [ticksSince, since_snoc]

theorem ticksSince_fresh (name other : CString) (history : List Mark) :
    ticksSince name (history ++ [.fresh other]) = if name = other then 0 else ticksSince name history := by
  by_cases same : name = other
  · simp [ticksSince, since_snoc, same]
  · have differ : ¬ other = name := fun h => same h.symm
    simp [ticksSince, since_snoc, same, differ]

theorem bump_toNat (wdt : UInt8) (small : wdt.toNat ≤ 3) : (bump wdt).toNat = min 3 (wdt.toNat + 1) := by
  unfold bump
  split
  next late =>
    have above : 2 < wdt.toNat := UInt8.lt_iff_toNat_lt.mp late
    omega
  next early =>
    have below : ¬ 2 < wdt.toNat := fun h => early (UInt8.lt_iff_toNat_lt.mpr h)
    have next : (wdt + 1).toNat = wdt.toNat + 1 := by
      rw [UInt8.toNat_add]
      exact Nat.mod_eq_of_lt (show wdt.toNat + 1 < 256 by omega)
    omega

/-- Every stored counter says how long ago its entry was heard of. -/
def Exact (w : Watched) : Prop :=
  ∀ name value, w.globals.htSensor.view name = some value → value.wdt.toNat = min 3 (ticksSince name w.history)

theorem insert_present (gnrc : Gnrc) (g : Globals) (id : NodeIdentity) (ipv6Addr : CString)
    (present : g.holds .sensor id.name = true) :
    (addSensorEntry gnrc g id ipv6Addr).1.htSensor.view = g.htSensor.view ∧
      (addSensorEntry gnrc g id ipv6Addr).2 = [] := by
  obtain ⟨linked, view⟩ := g.htSensor.set_spec id.name (entryRemote gnrc id.ipAddr ipv6Addr)
  have known : g.htSensor.view id.name ≠ none := Option.isSome_iff_ne_none.mp present
  have old : (g.htSensor.view id.name).isNone = false := Option.isNone_eq_false_iff.mpr present
  rw [if_neg known] at view
  rw [old] at linked
  simp [addSensorEntry, entryRemote_port, linked, view]

theorem Exact.next (held : Exact w) (gnrc : Gnrc) (operation : Operation) : Exact (w.next gnrc operation) := by
  intro name value found
  rw [history_next]
  cases operation with
  | insert id =>
    by_cases present : w.globals.holds .sensor id.name = true
    · obtain ⟨view, none⟩ := insert_present gnrc w.globals id (gnrc.addrToStr id.ipAddr) present
      simp only [Watched.next, operate, view] at found
      simp only [operate, none, List.isEmpty_nil, Bool.not_true, mark, Option.toList_none, List.append_nil]
      exact held name value found
    · have absent : w.globals.holds .sensor id.name = false := by simpa using present
      obtain ⟨htSensor, added, view⟩ := addSensorEntry_spec gnrc w.globals id (gnrc.addrToStr id.ipAddr) absent
      simp only [Watched.next, operate, added, view, Function.update_apply] at found
      simp only [operate, added, List.isEmpty_cons, Bool.not_false, mark, Option.toList_some, ticksSince_fresh]
      split at found
      next same =>
        cases found
        simp [same]
      next differ =>
        rw [if_neg differ]
        exact held name value found
  | delete key =>
    simp only [Watched.next, operate, removeSensor, (w.globals.htSensor.del_spec key).2, Function.update_apply] at found
    simp only [mark, Option.toList_none, List.append_nil]
    split at found
    next => contradiction
    next => exact held name value found
  | status payload =>
    rcases status_cases w.globals payload with ⟨id, rfl, known, answered⟩ | ⟨-, refused⟩
    · simp only [Watched.next, operate, answered, SensorTable.view_updateTime] at found
      simp only [operate, answered, decide_true, mark, Option.toList_some, ticksSince_fresh]
      obtain ⟨old, present, rfl⟩ := Option.map_eq_some_iff.mp found
      by_cases same : name = id.name
      · simp [refresh, same]
      · simp only [refresh, if_neg same]
        exact held name old present
    · simp only [Watched.next, operate, refused] at found
      have unmarked : mark (.status payload,false) = none := by cases payload <;> rfl
      simp only [operate, refused, reduceCtorEq, decide_false, unmarked, Option.toList_none, List.append_nil]
      exact held name value found
  | engage | disengage =>
    simp only [mark, Option.toList_none, List.append_nil]
    exact held name value found
  | tick =>
    simp only [Watched.next, operate, wdtThread, (w.globals.htSensor.wdt_spec _ _).2] at found
    simp only [mark, Option.toList_some, ticksSince_ticked]
    obtain ⟨old, present, rfl⟩ := Option.map_eq_some_iff.mp found
    have exact_ := held name old present
    have next := bump_toNat old.wdt (by omega)
    simp only [aged]
    omega

theorem run_snoc (gnrc : Gnrc) (operations : List Operation) (operation : Operation) :
    run gnrc (operations ++ [operation]) = (run gnrc operations).next gnrc operation := by
  simp [run, List.foldl_append]

/-- The log has the operations of the run, in their order. -/
theorem run_log (gnrc : Gnrc) (operations : List Operation) : (run gnrc operations).log.map Prod.fst = operations := by
  induction operations using List.reverseRecOn with
  | nil => rfl
  | append_singleton operations operation ih =>
    rw [run_snoc]
    simp [Watched.next, ih]

/-- The sensor was inserted, and not deleted since. -/
def Kept (name : CString) (operations : List Operation) : Prop :=
  (since (deletes name) operations).any (inserts name) = true

theorem operate_holds (gnrc : Gnrc) (g : Globals) (operation : Operation) (name : CString) :
    (operate gnrc g operation).1.holds .sensor name =
      (inserts name operation || g.holds .sensor name && !deletes name operation) := by
  cases operation with
  | insert id =>
    by_cases present : g.holds .sensor id.name = true
    · obtain ⟨view, -⟩ := insert_present gnrc g id (gnrc.addrToStr id.ipAddr) present
      by_cases same : id.name = name
      · subst same
        simpa [operate, inserts, Globals.holds, view] using present
      · simp [operate, inserts, deletes, Globals.holds, view, same]
    · have absent : g.holds .sensor id.name = false := by simpa using present
      obtain ⟨htSensor, added, view⟩ := addSensorEntry_spec gnrc g id (gnrc.addrToStr id.ipAddr) absent
      by_cases same : id.name = name
      · simp [operate, inserts, Globals.holds, added, view, same]
      · simp [operate, inserts, deletes, Globals.holds, added, view, same, Function.update_of_ne (Ne.symm same)]
  | delete key =>
    have view := (g.htSensor.del_spec key).2
    by_cases same : key = name
    · subst same
      simp [operate, removeSensor, Globals.holds, view, inserts, deletes]
    · simp [operate, removeSensor, Globals.holds, view, inserts, deletes, same, Function.update_of_ne (Ne.symm same)]
  | status payload =>
    rcases status_cases g payload with ⟨id, -, -, answered⟩ | ⟨-, refused⟩
    · simp [operate, answered, inserts, deletes, Globals.holds, SensorTable.view_updateTime]
    · simp [operate, refused, inserts, deletes]
  | engage | disengage => simp [operate, inserts, deletes, Globals.holds, deactivateAlarm]
  | tick => simp [operate, wdtThread, inserts, deletes, Globals.holds, (g.htSensor.wdt_spec _ _).2]

/-- A run stores the sensors that were inserted and not deleted since. -/
theorem run_holds (gnrc : Gnrc) (operations : List Operation) (name : CString) :
    (run gnrc operations).globals.holds .sensor name = true ↔ Kept name operations := by
  induction operations using List.reverseRecOn with
  | nil => simp [run, init, Kept, Globals.holds]
  | append_singleton operations operation ih =>
    have stored : (run gnrc (operations ++ [operation])).globals = (operate gnrc (run gnrc operations).globals operation).1 := by
      rw [run_snoc]
      rfl
    rw [stored, operate_holds]
    cases operation with
    | delete key => by_cases same : key = name <;> simp_all [Kept, since_snoc, deletes, inserts]
    | insert id => simp_all [Kept, since_snoc, deletes, inserts, or_comm]
    | status | engage | disengage | tick => simp_all [Kept, since_snoc, deletes, inserts]

theorem run_exact (gnrc : Gnrc) (operations : List Operation) : Exact (run gnrc operations) := by
  induction operations using List.reverseRecOn with
  | nil => simp [Exact, run, init]
  | append_singleton operations operation ih =>
    rw [run_snoc]
    exact ih.next gnrc operation

/-- A tick raises the timeout for an entry that has been silent for three ticks before. -/
theorem Exact.timeout (held : Exact w) (gnrc : Gnrc) :
    (w.next gnrc .tick).globals.isTimeout = true ↔
      w.globals.isTimeout = true ∨ w.globals.isEngaged = true ∧
        ∃ name, w.globals.holds .sensor name = true ∧ 3 ≤ ticksSince name w.history := by
  have tick := (w.globals.htSensor.wdt_spec w.globals.isEngaged w.globals.isTimeout).1
  have silent : (∃ name value, w.globals.htSensor.view name = some value ∧ 2 < value.wdt) ↔
      ∃ name, w.globals.holds .sensor name = true ∧ 3 ≤ ticksSince name w.history := by
    constructor
    · rintro ⟨name, value, found, late⟩
      have exact_ := held name value found
      have above : 2 < value.wdt.toNat := UInt8.lt_iff_toNat_lt.mp late
      exact ⟨name, by simp [Globals.holds, found], by omega⟩
    · rintro ⟨name, present, late⟩
      obtain ⟨value, found⟩ := Option.isSome_iff_exists.mp present
      have exact_ := held name value found
      have above : 2 < value.wdt.toNat := by omega
      exact ⟨name, value, found, UInt8.lt_iff_toNat_lt.mpr above⟩
  rw [← silent]
  exact tick

/-- No other operation raises the timeout. -/
theorem operate_timeout (gnrc : Gnrc) (w : Watched) (operation : Operation) (other : operation ≠ .tick)
    (down : w.globals.isTimeout = false) : (w.next gnrc operation).globals.isTimeout = false := by
  cases operation with
  | insert id =>
    simp only [Watched.next, operate, addSensorEntry]
    split <;> exact down
  | delete name => exact down
  | status payload =>
    rcases status_cases w.globals payload with ⟨id, -, -, answered⟩ | ⟨-, refused⟩
    · simpa [Watched.next, operate, answered] using down
    · simpa [Watched.next, operate, refused] using down
  | engage => exact down
  | disengage => rfl
  | tick => contradiction

/-- Before every tick of the run, every stored sensor was heard of within the last three ticks. -/
def Attended (gnrc : Gnrc) (operations : List Operation) : Prop :=
  ∀ before after, operations = before ++ .tick :: after → ∀ name,
    (run gnrc before).globals.holds .sensor name = true → ticksSince name (run gnrc before).history < 3

theorem attended_no_timeout (gnrc : Gnrc) (operations : List Operation) (attended : Attended gnrc operations) :
    (run gnrc operations).globals.isTimeout = false := by
  induction operations using List.reverseRecOn with
  | nil => rfl
  | append_singleton operations operation ih =>
    have earlier : Attended gnrc operations := by
      intro before after split
      exact attended before (after ++ [operation]) (by simp [split])
    have down := ih earlier
    rw [run_snoc]
    by_cases tick : operation = .tick
    · subst tick
      rw [Bool.eq_false_iff]
      intro up
      rcases ((run_exact gnrc operations).timeout gnrc).mp up with old | ⟨-, name, present, late⟩
      · simp [down] at old
      · have heard := attended operations [] rfl name present
        omega
    · exact operate_timeout gnrc _ operation tick down

/-- The watchdog is exact in every run. -/
theorem watchdog_exact (gnrc : Gnrc) (operations : List Operation) :
    let w := run gnrc operations
    w.log.map Prod.fst = operations ∧
    (∀ name, w.globals.holds .sensor name = true ↔ Kept name operations) ∧
    (∀ name value, w.globals.htSensor.view name = some value →
      value.wdt.toNat = min 3 (ticksSince name w.history)) ∧
    ((run gnrc (operations ++ [.tick])).globals.isTimeout = true ↔
      w.globals.isTimeout = true ∨ w.globals.isEngaged = true ∧
        ∃ name, w.globals.holds .sensor name = true ∧ 3 ≤ ticksSince name w.history) ∧
    (Attended gnrc operations → w.globals.isTimeout = false) := by
  refine ⟨run_log gnrc operations, run_holds gnrc operations, run_exact gnrc operations, ?_, attended_no_timeout gnrc operations⟩
  rw [run_snoc]
  exact (run_exact gnrc operations).timeout gnrc

/-- The fourth tick after the report finds the counter at three. -/
def neglected : List Operation :=
  [.insert tapsense,.engage,.tick,.tick,.status (some tapsense),.tick,.tick,.tick]

example :
    let w := run board neglected
    (w.globals.htSensor.view tapsense.name).map SensorValue.wdt = some 3 ∧ ticksSince tapsense.name w.history = 3 ∧
      w.globals.isTimeout = false ∧ (run board (neglected ++ [.tick])).globals.isTimeout = true := by decide +kernel

end RiotAlarm.Gateway.Watchdog
