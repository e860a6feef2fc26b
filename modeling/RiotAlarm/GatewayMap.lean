import RiotAlarm.GatewayTable

/-! Call sequences on the sensor table against the map they implement, and the table
as a value that cannot be malformed: its operations are total and are known to later
modules only through the map. -/
namespace RiotAlarm.Gateway

open LinkedHeap ChainedMap

abbrev SensorMap := CString → Option SensorValue

/-- The effect of a watchdog tick on one entry. -/
def aged (value : SensorValue) : SensorValue := { value with wdt := bump value.wdt }

inductive HtCall where
  | set (name : CString) (remote : SockUdpEp)
  | get (key : CString)
  | getNode (key : CString)
  | del (key : CString)
  | updateTime (key : CString)
  | wdt (isEngaged isTimeout : Bool)

inductive HtResult where
  | done
  | name (found : Option CString)
  | node (found : Option (CString × SensorValue))
  | deleted (code : Nat) (deregistered : List SockUdpEp)
  | timeout (isTimeout : Bool)

/-- One call on the linked table. The node that `ht_get_node` returns is read at once. -/
def htCall (h : Ht) : HtCall → Option (Ht × HtResult)
  | .set name remote => do
    let (h',_) ← htSetNew h name remote
    return (h',.done)
  | .get key => do
    let found ← htGet h key
    return (h,.name found)
  | .getNode key => do
    let found ← htGetNode h key
    match found with
    | none => return (h,.node none)
    | some a => return (h,.node (some (← record h.heap.cells a)))
  | .del key => do
    let (h',code,sent) ← htDel h key
    return (h',.deleted code sent)
  | .updateTime key => do
    let h' ← htUpdateTime h key
    return (h',.done)
  | .wdt isEngaged isTimeout => do
    let (h',flag) ← htWdt h isEngaged isTimeout
    return (h',.timeout flag)

def htCalls (h : Ht) : List HtCall → Option (Ht × List HtResult)
  | [] => some (h,[])
  | call :: rest => do
    let (h₁,result) ← htCall h call
    let (h₂,results) ← htCalls h₁ rest
    return (h₂,result :: results)

open scoped Classical in
/-- The same call on a partial function from names to remote and counter. -/
noncomputable def mapCall (m : SensorMap) : HtCall → SensorMap × HtResult
  | .set name remote =>
    (if m name = none then Function.update m name (some ⟨remote,0⟩) else m,.done)
  | .get key => (m,.name (if m key = none then none else some key))
  | .getNode key => (m,.node ((m key).map fun value => (key,value)))
  | .del key =>
    (Function.update m key none,
      .deleted (if m key = none then 1 else 0) ((m key).map SensorValue.remote).toList)
  | .updateTime key => (fun name => (m name).map (refresh key name),.done)
  | .wdt isEngaged isTimeout =>
    (fun name => (m name).map aged,
      .timeout (isTimeout || (isEngaged && decide (∃ name value, m name = some value ∧ 2 < value.wdt))))

noncomputable def mapCalls (m : SensorMap) : List HtCall → SensorMap × List HtResult
  | [] => (m,[])
  | call :: rest =>
    let (m₁,result) := mapCall m call
    let (m₂,results) := mapCalls m₁ rest
    (m₂,result :: results)

/-- The linked representation: ten finite chains without a common cell, every entry
in the chain of its own hash, no name twice. -/
structure Ht.Invariant (h : Ht) : Prop where
  finite : ∀ i, Chain h.heap.cells (h.entries i) (h.chain i)
  hashed : ∀ i a entry, a ∈ h.chain i → h.heap.cells a = some entry → (hash entry.name).toNat = i.val
  disjoint : ∀ i j, i ≠ j → (h.chain i).Disjoint (h.chain j)
  distinct : ∀ i j a b x y, a ∈ h.chain i → b ∈ h.chain j → h.heap.cells a = some x →
    h.heap.cells b = some y → x.name = y.name → a = b

/-- The map holds exactly what the chained entries say. -/
def Ht.Represents (h : Ht) (m : SensorMap) : Prop :=
  ∀ name value, m name = some value ↔
    ∃ i a entry, a ∈ h.chain i ∧ h.heap.cells a = some entry ∧ entry.name = name ∧ entry.value = value

theorem Ht.Sound.invariant {h : Ht} (sound : h.Sound) : h.Invariant where
  finite := sound.linked
  hashed _ _ _ inChain here := congrArg Fin.val (sound.slot_of inChain here)
  disjoint _ _ differ _ first second := differ (sound.apart first second)
  distinct _ _ _ _ _ _ first second hereA hereB same := sound.injective first second hereA hereB same

theorem Ht.Sound.represents {h : Ht} (sound : h.Sound) : h.Represents h.view := by
  intro name value
  constructor
  · intro found
    have member : (name,value) ∈ h.bucket (slot name) := sound.placed.mem_iff.mpr ⟨rfl, found⟩
    obtain ⟨a, inChain, read⟩ := List.mem_filterMap.mp member
    obtain ⟨entry, here, same⟩ := Option.map_eq_some_iff.mp read
    cases same
    exact ⟨_, a, entry, inChain, here, rfl, rfl⟩
  · intro ⟨i, a, entry, inChain, here, named, valued⟩
    have member := Ht.bucket_mem inChain here
    rw [named, valued] at member
    exact (sound.placed.mem_iff.mp member).2

theorem view_of_bucket {h : Ht} (bucket : h.bucket = B) : h.view = lookup slot B := by
  rw [Ht.view, bucket]

/-! What the writing calls do to the map. -/

theorem htSetNew_view {h : Ht} (sound : h.Sound) (name : CString) (remote : SockUdpEp) :
    ∃ h', htSetNew h name remote = some (h',(h.view name).isNone) ∧ h'.Sound ∧
      h'.view = if h.view name = none then Function.update h.view name (some ⟨remote,0⟩) else h.view := by
  obtain ⟨h', run, sound', bucket⟩ := htSetNew_spec sound name remote
  have view := view_of_bucket bucket
  by_cases absent : h.view name = none
  · rw [if_pos absent] at view ⊢
    exact ⟨h', run, sound', view.trans (lookup_append name ⟨remote,0⟩ absent)⟩
  · rw [if_neg absent] at view ⊢
    exact ⟨h', run, sound', view⟩

theorem htDelUnnoticed_view {h : Ht} (sound : h.Sound) (key : CString) :
    ∃ h', htDelUnnoticed h key = some (h',if (h.view key).isSome then 0 else 1,
        ((h.view key).map SensorValue.remote).toList) ∧
      h'.Sound ∧ h'.view = Function.update h.view key none := by
  obtain ⟨h', run, sound', bucket⟩ := htDelUnnoticed_spec sound key
  exact ⟨h', run, sound', (view_of_bucket bucket).trans (lookup_erase h.bucket key)⟩

theorem htUpdateTime_view {h : Ht} (sound : h.Sound) (key : CString) :
    ∃ h', htUpdateTime h key = some h' ∧ h'.Sound ∧
      h'.view = fun name => (h.view name).map (refresh key name) := by
  obtain ⟨h', run, sound', bucket⟩ := htUpdateTime_spec sound key
  exact ⟨h', run, sound', (view_of_bucket bucket).trans (funext fun name => lookup_adjust _ _ name)⟩

theorem htWdt_view {h : Ht} (sound : h.Sound) (isEngaged isTimeout : Bool) :
    ∃ h', htWdt h isEngaged isTimeout = some (h',isTimeout || (isEngaged && h.expired)) ∧ h'.Sound ∧
      h'.view = fun name => (h.view name).map aged := by
  obtain ⟨h', run, sound', bucket⟩ := htWdt_spec sound isEngaged isTimeout
  exact ⟨h', run, sound', (view_of_bucket bucket).trans (funext fun name => lookup_adjust _ _ name)⟩

/-- The call that `ht_del` does not come back from. -/
def DeletesStored (m : SensorMap) : HtCall → Prop
  | .del key => m key ≠ none
  | _ => False

/-- A call succeeds on a sound table and does to the map what it says, unless it is to delete
a name that is stored. -/
theorem htCall_refines {h : Ht} (sound : h.Sound) (call : HtCall) (spared : ¬ DeletesStored h.view call) :
    ∃ h' result, htCall h call = some (h',result) ∧ h'.Sound ∧ (h'.view,result) = mapCall h.view call := by
  cases call with
  | set name remote =>
    obtain ⟨h', run, sound', view⟩ := htSetNew_view sound name remote
    exact ⟨h', .done, by simp [htCall, run], sound', by simp [mapCall, view]⟩
  | get key =>
    have run := htGet_spec sound key
    cases found : h.view key with
    | none => exact ⟨h, .name none, by simp [htCall, run, found], sound, by simp [mapCall, found]⟩
    | some value => exact ⟨h, .name (some key), by simp [htCall, run, found], sound, by simp [mapCall, found]⟩
  | getNode key =>
    obtain ⟨p, run, spec⟩ := htGetNode_spec sound key
    cases found : h.view key with
    | none =>
      rw [found] at spec
      exact ⟨h, .node none, by simp [htCall, run, spec], sound, by simp [mapCall, found]⟩
    | some value =>
      rw [found] at spec
      obtain ⟨a, same, _, read⟩ := spec
      exact ⟨h, .node (some (key,value)), by simp [htCall, run, same, read], sound, by simp [mapCall, found]⟩
  | del key =>
    have absent : h.view key = none := by simpa [DeletesStored] using spared
    have run : htDel h key = some (h,1,[]) := by rw [htDel_eq sound, if_pos absent]
    have same : Function.update h.view key none = h.view := by
      rw [← absent]
      exact Function.update_eq_self key h.view
    exact ⟨h, .deleted 1 [], by simp [htCall, run], sound, by simp [mapCall, absent, same]⟩
  | updateTime key =>
    obtain ⟨h', run, sound', view⟩ := htUpdateTime_view sound key
    exact ⟨h', .done, by simp [htCall, run], sound', by simp [mapCall, view]⟩
  | wdt isEngaged isTimeout =>
    obtain ⟨h', run, sound', view⟩ := htWdt_view sound isEngaged isTimeout
    refine ⟨h', .timeout (isTimeout || (isEngaged && h.expired)), by simp [htCall, run], sound', ?_⟩
    classical
    have flag := Bool.eq_iff_iff.mpr (sound.expired_iff.trans decide_eq_true_iff.symm)
    simp [mapCall, view, flag]

theorem htCall_stored {h : Ht} (sound : h.Sound) (stored : DeletesStored h.view call) : htCall h call = none := by
  cases call with
  | del key =>
    have present : h.view key ≠ none := stored
    simp [htCall, htDel_eq sound, present]
  | _ => exact stored.elim

/-- No call of the sequence deletes a name that is stored when its turn comes. -/
def DeletesNothing (m : SensorMap) : List HtCall → Prop
  | [] => True
  | call :: rest => ¬ DeletesStored m call ∧ DeletesNothing (mapCall m call).1 rest

theorem htCalls_refine {h : Ht} (sound : h.Sound) (calls : List HtCall) (spared : DeletesNothing h.view calls) :
    ∃ h' results, htCalls h calls = some (h',results) ∧ h'.Sound ∧
      (h'.view,results) = mapCalls h.view calls := by
  induction calls generalizing h with
  | nil => exact ⟨h, [], rfl, sound, rfl⟩
  | cons call rest ih =>
    obtain ⟨first, later⟩ := spared
    obtain ⟨h₁, result, run, sound₁, same⟩ := htCall_refines sound call first
    rw [← same] at later
    obtain ⟨h₂, results, run', sound₂, same'⟩ := ih sound₁ later
    refine ⟨h₂, result :: results, by simp [htCalls, run, run'], sound₂, ?_⟩
    rw [mapCalls, ← same]
    simp only [← same']

/-- A sequence that comes to its end did not delete what was stored. -/
theorem htCalls_spared {h : Ht} (sound : h.Sound) (ran : htCalls h calls = some out) : DeletesNothing h.view calls := by
  induction calls generalizing h out with
  | nil => trivial
  | cons call rest ih =>
    have first : ¬ DeletesStored h.view call := by
      intro stored
      simp [htCalls, htCall_stored sound stored] at ran
    obtain ⟨h₁, result, run, sound₁, same⟩ := htCall_refines sound call first
    simp only [htCalls, run, Option.bind_eq_bind, Option.bind_some, Option.bind_eq_some_iff] at ran
    obtain ⟨later, ran, -⟩ := ran
    refine ⟨first, ?_⟩
    rw [← same]
    exact ih sound₁ ran

theorem view_htCreate : htCreate.view = fun _ => none := by
  rw [view_of_bucket htCreate_sound.2.1]
  rfl

/-- Made on a fresh table, none of the calls fails, the linked representation is intact, and
all results are those of a finite map that starts empty and that the chained entries
represent at the end. -/
def RefinesMap (calls : List HtCall) : Prop :=
  ∃ h results, htCalls htCreate calls = some (h,results) ∧ h.Invariant ∧
    h.Represents (mapCalls (fun _ => none) calls).1 ∧ results = (mapCalls (fun _ => none) calls).2

/-- The table is a finite map for exactly those sequences of calls that never delete a name
that is stored: the entry of such a name is released twice. -/
theorem sensor_table_refines_map (calls : List HtCall) :
    RefinesMap calls ↔ DeletesNothing (fun _ => none) calls := by
  constructor
  · rintro ⟨h, results, run, -⟩
    exact view_htCreate ▸ htCalls_spared htCreate_sound.1 run
  · intro spared
    rw [← view_htCreate] at spared
    obtain ⟨h, results, run, sound, same⟩ := htCalls_refine htCreate_sound.1 calls spared
    rw [view_htCreate] at same
    obtain ⟨view, values⟩ := Prod.mk.inj same
    exact ⟨h, results, run, sound.invariant, view ▸ sound.represents, values⟩

/-- The sensor that was just stored cannot be deleted. -/
theorem stored_sensor_is_released_twice :
    ¬ RefinesMap [.set tapsense.name (entryRemote board tapsense.ipAddr REGISTER_RESPONSE),.del tapsense.name] := by
  rintro ⟨h, results, run, -⟩
  have stuck : (htCalls htCreate
      [.set tapsense.name (entryRemote board tapsense.ipAddr REGISTER_RESPONSE),.del tapsense.name]).isNone = true := by
    decide +kernel
  simp [run] at stuck

/-- Writing fields of entries other than name and link keeps a table sound. -/
theorem Ht.Sound.same_names {h h' : Ht} (sound : h.Sound) (entries : h'.entries = h.entries)
    (links : ∀ a, (h'.heap.cells a).map Linked.next = (h.heap.cells a).map Linked.next)
    (names : ∀ a, (h'.heap.cells a).map SensorEntry.name = (h.heap.cells a).map SensorEntry.name) :
    h'.Sound := by
  have named : ∀ (cells : Nat → Option SensorEntry) (l : List Nat),
      (l.filterMap (record cells)).map Prod.fst = l.filterMap fun a => (cells a).map SensorEntry.name := by
    intro cells l
    rw [List.map_filterMap]
    apply List.filterMap_congr
    intro a _
    simp only [record]
    cases cells a <;> rfl
  have same : ∀ i, ((h.chain i).filterMap (record h'.heap.cells)).map Prod.fst = (h.bucket i).map Prod.fst := by
    intro i
    rw [Ht.bucket, named, named]
    exact List.filterMap_congr fun a _ => names a
  have placed : Placed slot fun i => (h.chain i).filterMap (record h'.heap.cells) := by
    constructor
    · intro i r member
      have key : r.1 ∈ (h.bucket i).map Prod.fst := same i ▸ List.mem_map_of_mem member
      obtain ⟨old, inBucket, named⟩ := List.mem_map.mp key
      exact named ▸ sound.placed.hashed i old inBucket
    · intro i
      rw [same]
      exact sound.placed.distinct i
  exact (sound_of h.chain _ (fun i => by rw [entries]; exact (sound.linked i).same_links fun a _ => links a)
    (fun _ => rfl) placed).1

/-- `entry->wdt = (entry->wdt + 1)` -/
def ageEntry (h : Ht) (a : Nat) : Option Ht :=
  (h.heap.modify a fun entry => { entry with wdt := entry.wdt + 1 }).map fun heap => { h with heap }

theorem ageEntry_sound {h h' : Ht} (sound : h.Sound) (run : ageEntry h a = some h') : h'.Sound := by
  obtain ⟨heap, written, rfl⟩ := Option.map_eq_some_iff.mp run
  cases here : h.heap.cells a with
  | none =>
    have nothing : h.heap.modify a (fun entry => { entry with wdt := entry.wdt + 1 }) = none := by
      unfold Heap.modify
      split <;> simp_all
    simp [nothing] at written
  | some entry =>
    obtain ⟨heap', written', cells, _⟩ :=
      h.heap.modify_eq (fun entry => { entry with wdt := entry.wdt + 1 }) here
    obtain rfl : heap' = heap := Option.some.inj (written'.symm.trans written)
    have written : ∀ b, (heap'.cells b).map Linked.next = (h.heap.cells b).map Linked.next ∧
        (heap'.cells b).map SensorEntry.name = (h.heap.cells b).map SensorEntry.name := by
      intro b
      by_cases same : b = a
      · subst same
        simp [cells, here, Linked.next]
      · simp [cells, same]
    have entries : (Ht.mk heap' h.entries).entries = h.entries := rfl
    exact sound.same_names entries (fun b => (written b).1) (fun b => (written b).2)

/-- A sensor table that is sound by construction. -/
structure SensorTable where
  ht : Ht
  sound : ht.Sound

namespace SensorTable

/-- A call that is known to succeed, as a total operation. -/
def total (call : Option (Ht × β)) (succeeds : ∃ h b, call = some (h,b) ∧ h.Sound) : SensorTable × β :=
  match call, succeeds with
  | some (h,b), succeeds => (⟨h, by
      obtain ⟨h', b', same, sound⟩ := succeeds
      cases same
      exact sound⟩,b)
  | none, succeeds => absurd succeeds (by simp)

theorem total_eq {call : Option (Ht × β)} (run : call = some (h,b)) (sound : h.Sound)
    (succeeds : ∃ h b, call = some (h,b) ∧ h.Sound) : total call succeeds = (⟨h,sound⟩,b) := by
  subst run
  rfl

def empty : SensorTable := ⟨htCreate,htCreate_sound.1⟩

def view (t : SensorTable) : SensorMap := t.ht.view

/-- `ht_set` of a new node, and whether it was linked in. -/
def set (t : SensorTable) (name : CString) (remote : SockUdpEp) : SensorTable × Bool :=
  total (htSetNew t.ht name remote) (by
    obtain ⟨h', run, sound, _⟩ := htSetNew_view t.sound name remote
    exact ⟨h', _, run, sound⟩)

/-- `ht_get`. -/
def get (t : SensorTable) (key : CString) : Option CString := (htGet t.ht key).join

/-- The record under the pointer that `ht_get_node` returns, `none` when it is NULL. -/
def getNode (t : SensorTable) (key : CString) : Option (CString × SensorValue) :=
  (htGetNode t.ht key).join.bind (record t.ht.heap.cells)

/-- `ht_del`: result code and the endpoints that were sent a deregister message. The gateway
around the table goes on behind the second release, as if the allocator took no notice. -/
def del (t : SensorTable) (key : CString) : SensorTable × Nat × List SockUdpEp :=
  total (htDelUnnoticed t.ht key) (by
    obtain ⟨h', run, sound, _⟩ := htDelUnnoticed_view t.sound key
    exact ⟨h', _, run, sound⟩)

/-- `ht_update_time`. -/
def updateTime (t : SensorTable) (key : CString) : SensorTable :=
  (total ((htUpdateTime t.ht key).map fun h => (h,())) (by
    obtain ⟨h', run, sound, _⟩ := htUpdateTime_view t.sound key
    exact ⟨h', (), by simp [run], sound⟩)).1

/-- `ht_wdt`: the table and `is_timeout` after the tick. -/
def wdt (t : SensorTable) (isEngaged isTimeout : Bool) : SensorTable × Bool :=
  total (htWdt t.ht isEngaged isTimeout) (by
    obtain ⟨h', run, sound, _⟩ := htWdt_view t.sound isEngaged isTimeout
    exact ⟨h', _, run, sound⟩)

/-- `hashtable->entries[i]` -/
def head (t : SensorTable) (i : Fin TABLE_SIZE) : Pointer := t.ht.entries i

/-- The entry under a pointer. -/
def entry (t : SensorTable) (a : Nat) : Option SensorEntry := t.ht.heap.cells a

/-- One counter of a `ht_wdt` that is still under way. -/
def age (t : SensorTable) (a : Nat) : Option SensorTable :=
  match run : ageEntry t.ht a with
  | none => none
  | some ht => some ⟨ht,ageEntry_sound t.sound run⟩

@[simp] theorem view_empty : empty.view = fun _ => none := by
  exact view_htCreate

theorem set_spec (t : SensorTable) (name : CString) (remote : SockUdpEp) :
    (t.set name remote).2 = (t.view name).isNone ∧
      (t.set name remote).1.view =
        if t.view name = none then Function.update t.view name (some ⟨remote,0⟩) else t.view := by
  obtain ⟨h', run, sound, view⟩ := htSetNew_view t.sound name remote
  rw [set, total_eq run sound]
  exact ⟨rfl, view⟩

theorem get_spec (t : SensorTable) (key : CString) :
    t.get key = if (t.view key).isSome then some key else none := by
  rw [get, htGet_spec t.sound]
  rfl

theorem getNode_spec (t : SensorTable) (key : CString) :
    t.getNode key = (t.view key).map fun value => (key,value) := by
  obtain ⟨p, run, spec⟩ := htGetNode_spec t.sound key
  cases found : t.view key with
  | none =>
    rw [show t.ht.view key = none from found] at spec
    simp [getNode, run, spec]
  | some value =>
    rw [show t.ht.view key = some value from found] at spec
    obtain ⟨a, same, _, read⟩ := spec
    simp [getNode, run, same, read]

theorem del_spec (t : SensorTable) (key : CString) :
    (t.del key).2 = (if (t.view key).isSome then 0 else 1, ((t.view key).map SensorValue.remote).toList) ∧
      (t.del key).1.view = Function.update t.view key none := by
  obtain ⟨h', run, sound, view⟩ := htDelUnnoticed_view t.sound key
  rw [del, total_eq run sound]
  exact ⟨rfl, view⟩

/-- A name that is new takes one more entry, in the chain of its slot. -/
theorem set_frame (t : SensorTable) (remote : SockUdpEp) (absent : t.view name = none) :
    (∀ i, (t.set name remote).1.ht.chain i =
        if i = slot name then t.ht.chain i ++ [t.ht.heap.limit] else t.ht.chain i) ∧
      (t.set name remote).1.ht.heap.limit = t.ht.heap.limit + 1 ∧
      (t.set name remote).1.ht.heap.released = t.ht.heap.released := by
  obtain ⟨h', run, chains, limit, released⟩ := htSetNew_frame t.sound name remote absent
  obtain ⟨h₁, run₁, sound, _⟩ := htSetNew_view t.sound name remote
  obtain rfl : h' = h₁ := congrArg Prod.fst (Option.some.inj (run.symm.trans run₁))
  rw [set, total_eq run sound]
  exact ⟨chains, limit, released⟩

theorem del_absent (t : SensorTable) (absent : t.view key = none) : (t.del key).1 = t := by
  rw [del, total_eq (htDelUnnoticed_absent t.sound absent) t.sound]

theorem del_released (t : SensorTable) (stored : t.view key = some value) :
    ∃ a, (t.del key).1.ht.heap.released = a :: a :: t.ht.heap.released := by
  obtain ⟨h', run, sound, _⟩ := htDelUnnoticed_view t.sound key
  rw [del, total_eq run sound]
  exact htDelUnnoticed_released t.sound stored run

theorem view_updateTime (t : SensorTable) (key : CString) :
    (t.updateTime key).view = fun name => (t.view name).map (refresh key name) := by
  obtain ⟨h', run, sound, view⟩ := htUpdateTime_view t.sound key
  have ran : (htUpdateTime t.ht key).map (fun h => (h,())) = some (h',()) := by simp [run]
  rw [updateTime, total_eq ran sound]
  exact view

theorem wdt_spec (t : SensorTable) (isEngaged isTimeout : Bool) :
    ((t.wdt isEngaged isTimeout).2 = true ↔
      isTimeout = true ∨ isEngaged = true ∧ ∃ name value, t.view name = some value ∧ 2 < value.wdt) ∧
      (t.wdt isEngaged isTimeout).1.view = fun name => (t.view name).map aged := by
  obtain ⟨h', run, sound, view⟩ := htWdt_view t.sound isEngaged isTimeout
  rw [wdt, total_eq run sound]
  refine ⟨?_, view⟩
  rw [Bool.or_eq_true, Bool.and_eq_true, t.sound.expired_iff]
  rfl

theorem wdt_frame (t : SensorTable) (isEngaged isTimeout : Bool) :
    (∀ i, (t.wdt isEngaged isTimeout).1.ht.chain i = t.ht.chain i) ∧
      (t.wdt isEngaged isTimeout).1.ht.heap.limit = t.ht.heap.limit ∧
      (t.wdt isEngaged isTimeout).1.ht.heap.released = t.ht.heap.released := by
  obtain ⟨h', run, sound, _⟩ := htWdt_view t.sound isEngaged isTimeout
  rw [wdt, total_eq run sound]
  exact htWdt_frame t.sound run

end SensorTable

end RiotAlarm.Gateway
