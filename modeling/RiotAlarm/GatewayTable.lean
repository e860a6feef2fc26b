import RiotAlarm.GatewayHashtable
import RiotAlarm.ChainedMap
import Mathlib.Data.List.Nodup
import Mathlib.Data.List.FinRange

/-! The sensor table refines a finite map. Chains of cells are read as association
lists, these as a partial function from names to remote and watchdog counter. -/
namespace RiotAlarm.Gateway

open LinkedHeap ChainedMap

/-- What the table keeps for a name. -/
structure SensorValue where
  remote : SockUdpEp
  wdt : UInt8
  deriving DecidableEq

def SensorEntry.value (entry : SensorEntry) : SensorValue := ⟨entry.remote,entry.wdt⟩

def record (cells : Nat → Option SensorEntry) (a : Nat) : Option (CString × SensorValue) :=
  (cells a).map fun entry => (entry.name,entry.value)

def Ht.chain (h : Ht) (i : Fin TABLE_SIZE) : List Nat := follow h.heap.cells h.heap.limit (h.entries i)

def Ht.bucket (h : Ht) : Buckets CString SensorValue (Fin TABLE_SIZE) :=
  fun i => (h.chain i).filterMap (record h.heap.cells)

/-- The finite map that the table stands for. -/
def Ht.view (h : Ht) : CString → Option SensorValue := lookup slot h.bucket

/-- Every slot's pointer leads through a finite chain to NULL, and every name sits in
the chain of its own slot, once. -/
structure Ht.Sound (h : Ht) : Prop where
  linked : ∀ i, Chain h.heap.cells (h.entries i) (h.chain i)
  placed : Placed slot h.bucket

theorem Ht.chain_eq {h : Ht} (linked : Chain h.heap.cells (h.entries i) l) : h.chain i = l :=
  linked.follow_eq (linked.length_le h.heap)

/-- Soundness is shown by naming the chains and what is recorded along them. -/
theorem sound_of {h : Ht} (chains : Fin TABLE_SIZE → List Nat)
    (B : Buckets CString SensorValue (Fin TABLE_SIZE))
    (linked : ∀ i, Chain h.heap.cells (h.entries i) (chains i))
    (records : ∀ i, (chains i).filterMap (record h.heap.cells) = B i)
    (placed : Placed slot B) : h.Sound ∧ h.bucket = B ∧ ∀ i, h.chain i = chains i := by
  have same : ∀ i, h.chain i = chains i := fun i => Ht.chain_eq (linked i)
  have bucket : h.bucket = B := funext fun i => by rw [Ht.bucket, same, records]
  exact ⟨⟨fun i => by rw [same]; exact linked i, bucket ▸ placed⟩, bucket, same⟩

theorem records_frame {cells cells' : Nat → Option SensorEntry} {l : List Nat}
    (same : ∀ a ∈ l, record cells' a = record cells a) :
    l.filterMap (record cells') = l.filterMap (record cells) :=
  List.filterMap_congr same

theorem record_cell {cells : Nat → Option SensorEntry} (here : cells a = some entry) :
    record cells a = some (entry.name,entry.value) := by simp [record, here]

theorem Ht.bucket_mem {h : Ht} (inChain : a ∈ h.chain i) (here : h.heap.cells a = some entry) :
    (entry.name,entry.value) ∈ h.bucket i :=
  List.mem_filterMap.mpr ⟨a, inChain, record_cell here⟩

namespace Ht.Sound
variable {h : Ht}

theorem slot_of (sound : h.Sound) (inChain : a ∈ h.chain i)
    (here : h.heap.cells a = some entry) : slot entry.name = i :=
  sound.placed.hashed i (entry.name,entry.value) (bucket_mem inChain here)

theorem apart (sound : h.Sound) (first : a ∈ h.chain i) (second : a ∈ h.chain j) : i = j := by
  obtain ⟨entry, here⟩ := (sound.linked i).cell first
  exact (sound.slot_of first here).symm.trans (sound.slot_of second here)

theorem below (sound : h.Sound) (inChain : a ∈ h.chain i) : a < h.heap.limit := by
  obtain ⟨entry, here⟩ := (sound.linked i).cell inChain
  exact h.heap.lt_limit here

/-- Two cells of the table never carry the same name. -/
theorem injective (sound : h.Sound) (first : a ∈ h.chain i) (second : b ∈ h.chain j)
    (hereA : h.heap.cells a = some x) (hereB : h.heap.cells b = some y) (same : x.name = y.name) :
    a = b := by
  have slots : j = i := (sound.slot_of second hereB).symm.trans (same ▸ sound.slot_of first hereA)
  subst slots
  by_contra differ
  obtain ⟨before, after, split⟩ := List.append_of_mem first
  have distinct := sound.placed.distinct j
  simp only [Ht.bucket, split, List.filterMap_append, List.filterMap_cons, record_cell hereA,
    List.map_append, List.map_cons] at distinct
  obtain ⟨_, tail, apart⟩ := List.nodup_append.mp distinct
  have named : ∀ l : List Nat, b ∈ l → x.name ∈ (l.filterMap (record h.heap.cells)).map Prod.fst := by
    intro l member
    exact List.mem_map.mpr ⟨(y.name,y.value), List.mem_filterMap.mpr ⟨b, member, record_cell hereB⟩, same.symm⟩
  rw [split] at second
  rcases List.mem_append.mp second with front | back
  · exact apart x.name (named before front) x.name (by simp) rfl
  · rcases List.mem_cons.mp back with rfl | later
    · exact differ rfl
    · exact (List.nodup_cons.mp tail).1 (named after later)

end Ht.Sound

/-- A search misses along a chain exactly where the association list has no such key. -/
theorem misses_absent {cells : Nat → Option SensorEntry} {l : List Nat}
    (missed : Misses cells (matching key) l) : key ∉ (l.filterMap (record cells)).map Prod.fst := by
  intro present
  obtain ⟨⟨name,value⟩, inRecords, rfl⟩ := List.mem_map.mp present
  obtain ⟨a, inChain, read⟩ := List.mem_filterMap.mp inRecords
  obtain ⟨entry, here, same⟩ := Option.map_eq_some_iff.mp read
  cases same
  have miss := missed a inChain entry here
  simp [matching] at miss

/-- The lookup loop of every table function: it stops at the one entry with the key,
behind which the trailing pointer stands, or at the end of the chain. -/
theorem Ht.Sound.search {h : Ht} (sound : h.Sound) (key : CString) :
    (∃ before a entry after, h.chain (slot key) = before ++ a :: after ∧
      h.heap.cells a = some entry ∧ entry.name = key ∧ h.view key = some entry.value ∧
      h.search key = some ⟨some a, before.getLast?, before.length⟩) ∨
    (h.view key = none ∧
      h.search key = some ⟨none, (h.chain (slot key)).getLast?, (h.chain (slot key)).length⟩) := by
  have linked := sound.linked (slot key)
  have enough : (h.chain (slot key)).length < h.heap.limit + 1 :=
    Nat.lt_succ_of_le (linked.length_le h.heap)
  rcases seek_chain (matching key) linked enough none 0 with
    ⟨before, a, entry, after, split, missed, here, hit, run⟩ | ⟨missed, run⟩
  · have name : entry.name = key := by simpa [matching] using hit
    have inChain : a ∈ h.chain (slot key) := by simp [split]
    refine .inl ⟨before, a, entry, after, split, here, name, ?_, by simpa [Ht.search] using run⟩
    exact (sound.placed.mem_iff.mp (name ▸ Ht.bucket_mem inChain here)).2
  · exact .inr ⟨lookup_eq_none.mpr (misses_absent missed), by simpa [Ht.search] using run⟩

/-- An empty slot needs no separate treatment: the loop finds nothing in it either. -/
theorem view_empty_slot {h : Ht} (empty : h.entries (slot key) = none) :
    h.view key = none := by
  have nil : h.chain (slot key) = [] := Ht.chain_eq (show h.entries (slot key) = none from empty)
  exact lookup_eq_none.mpr (by simp [Ht.bucket, nil])

theorem htCreate_sound : htCreate.Sound ∧ htCreate.bucket = (fun _ => []) ∧ ∀ i, htCreate.chain i = [] :=
  sound_of (fun _ => []) _ (fun _ => rfl) (fun _ => rfl) ⟨by simp, by simp⟩

/-- A cell linked in behind the chain of its name's slot. -/
theorem appended {h h' : Ht} (sound : h.Sound) (absent : h.view name = none)
    (chained : Chain h'.heap.cells (h'.entries (slot name)) (h.chain (slot name) ++ [node]))
    (others : ∀ i, i ≠ slot name → Chain h'.heap.cells (h'.entries i) (h.chain i))
    (kept : ∀ i, ∀ a ∈ h.chain i, record h'.heap.cells a = record h.heap.cells a)
    (new : record h'.heap.cells node = some (name,value)) :
    h'.Sound ∧ h'.bucket = append slot h.bucket name value ∧
      ∀ i, h'.chain i = if i = slot name then h.chain i ++ [node] else h.chain i := by
  let chains := fun i => if i = slot name then h.chain i ++ [node] else h.chain i
  exact sound_of (h := h') chains (append slot h.bucket name value)
    (by
      intro i
      by_cases here : i = slot name
      · subst here; simpa [chains] using chained
      · simpa [chains, here] using others i here)
    (by
      intro i
      by_cases here : i = slot name
      · subst here
        simp only [chains, if_true, List.filterMap_append, List.filterMap_cons, new, List.filterMap_nil,
          append, Function.update_self]
        rw [records_frame (kept _)]
        rfl
      · simp only [chains, here, if_false, append, Function.update_of_ne here]
        exact records_frame (kept i))
    (sound.placed.append name value absent)

theorem setNext_eq {h : Ht} (here : h.heap.cells p = some entry) (next : Pointer) :
    ∃ h', h.setNext (some p) next = some h' ∧ h'.entries = h.entries ∧
      (∀ b, h'.heap.cells b = if b = p then some { entry with next } else h.heap.cells b) ∧
      h'.heap.limit = h.heap.limit ∧ h'.heap.released = h.heap.released := by
  obtain ⟨heap, run, cells, limit, released⟩ := h.heap.modify_eq (fun entry => { entry with next }) here
  exact ⟨{ h with heap }, by simp [Ht.setNext, run], rfl, cells, limit, released⟩

theorem record_setNext {cells cells' : Nat → Option SensorEntry} {entry : SensorEntry} {next : Pointer}
    (here : cells p = some entry)
    (written : ∀ b, cells' b = if b = p then some { entry with next } else cells b) (a : Nat) :
    record cells' a = record cells a := by
  by_cases same : a = p
  · subst same; simp [record, written, here, SensorEntry.value]
  · simp [record, written, same]

/-- A node with a new name goes behind the last one of its slot. -/
theorem htSet_frame {h : Ht} (sound : h.Sound) (here : h.heap.cells node = some entry) (last : entry.next = none)
    (fresh : ∀ i, node ∉ h.chain i) (absent : h.view entry.name = none) :
    ∃ h', htSet h node = some (h',true) ∧ h'.Sound ∧ h'.bucket = append slot h.bucket entry.name entry.value ∧
      (∀ i, h'.chain i = if i = slot entry.name then h.chain i ++ [node] else h.chain i) ∧
      h'.heap.limit = h.heap.limit ∧ h'.heap.released = h.heap.released := by
  by_cases empty : h.entries (slot entry.name) = none
  · have nil : h.chain (slot entry.name) = [] := Ht.chain_eq (show _ = none from empty)
    let h' : Ht := { h with entries := setSlot h.entries (slot entry.name) (some node) }
    have chained : Chain h'.heap.cells (h'.entries (slot entry.name)) (h.chain (slot entry.name) ++ [node]) := by
      rw [nil]
      exact ⟨by simp [h', setSlot], entry, here, last⟩
    have others : ∀ i, i ≠ slot entry.name → Chain h'.heap.cells (h'.entries i) (h.chain i) := by
      intro i differ
      simpa [h', setSlot, differ] using sound.linked i
    obtain ⟨sound', bucket, chains⟩ :=
      appended sound absent chained others (fun _ _ _ => rfl) (record_cell here)
    exact ⟨h', by simp [htSet, here, empty, h'], sound', bucket, chains, rfl, rfl⟩
  · rcases sound.search entry.name with ⟨_, _, _, _, _, _, _, found, _⟩ | ⟨_, run⟩
    · simp [absent] at found
    · obtain ⟨front, p, split⟩ : ∃ front p, h.chain (slot entry.name) = front ++ [p] := by
        rcases List.eq_nil_or_concat (h.chain (slot entry.name)) with nil | ⟨front, p, split⟩
        · have linked := sound.linked (slot entry.name)
          rw [nil] at linked
          exact absurd linked empty
        · exact ⟨front, p, by simpa using split⟩
      have inChain : p ∈ h.chain (slot entry.name) := by simp [split]
      obtain ⟨tail, there⟩ := (sound.linked _).cell inChain
      obtain ⟨h', written, entries, cells, limit, released⟩ := setNext_eq there (some node)
      have apart : node ≠ p := by rintro rfl; exact fresh _ inChain
      have outside : p ∉ front := by
        have distinct := (sound.linked (slot entry.name)).nodup
        rw [split] at distinct
        intro again
        exact (List.nodup_append.mp distinct).2.2 p again p (by simp) rfl
      have chained : Chain h'.heap.cells (h'.entries (slot entry.name)) (h.chain (slot entry.name) ++ [node]) := by
        have old := sound.linked (slot entry.name)
        rw [split, List.append_assoc, entries]
        rw [split] at old
        have link : h'.heap.cells p = some { tail with next := some node } := by simp [cells]
        refine Chain.relink old ?_ link ⟨rfl, entry, by simp [cells, apart, here], last⟩
        intro a member
        have differ : a ≠ p := by rintro rfl; exact outside member
        simp [cells, differ]
      have others : ∀ i, i ≠ slot entry.name → Chain h'.heap.cells (h'.entries i) (h.chain i) := by
        intro i differ
        rw [entries]
        refine (sound.linked i).frame fun a member => ?_
        have other : a ≠ p := by rintro rfl; exact differ (sound.apart member inChain)
        simp [cells, other]
      obtain ⟨sound', bucket, chains⟩ := appended sound absent chained others
        (fun _ a _ => record_setNext there cells a)
        ((record_setNext there cells node).trans (record_cell here))
      refine ⟨h', ?_, sound', bucket, chains, limit, released⟩
      simp [htSet, here, empty, run, split, written]

theorem htSet_spec {h : Ht} (sound : h.Sound) (here : h.heap.cells node = some entry)
    (last : entry.next = none) (fresh : ∀ i, node ∉ h.chain i) :
    ∃ h', htSet h node = some (h',(h.view entry.name).isNone) ∧ h'.Sound ∧
      h'.bucket = if h.view entry.name = none then append slot h.bucket entry.name entry.value
        else h.bucket := by
  by_cases absent : h.view entry.name = none
  · obtain ⟨h', run, sound', bucket, _⟩ := htSet_frame sound here last fresh absent
    exact ⟨h', by simp [run, absent], sound', by simp [bucket, absent]⟩
  · have filled : ¬ h.entries (slot entry.name) = none := mt view_empty_slot absent
    rcases sound.search entry.name with ⟨_, _, _, _, _, _, _, found, run⟩ | ⟨missing, _⟩
    · exact ⟨h, by simp [htSet, here, filled, run, found], sound, by simp [found]⟩
    · exact absurd missing absent

theorem malloc_sound {h : Ht} (sound : h.Sound) (x : SensorEntry) :
    (h.malloc x).Sound ∧ (h.malloc x).bucket = h.bucket ∧ ∀ i, (h.malloc x).chain i = h.chain i := by
  have old : ∀ i, ∀ a ∈ h.chain i, (h.malloc x).heap.cells a = h.heap.cells a := by
    intro i a member
    have differ : a ≠ h.heap.limit := Nat.ne_of_lt (sound.below member)
    simp [Ht.malloc, differ]
  exact sound_of h.chain h.bucket (fun i => (sound.linked i).frame (old i))
    (fun i => records_frame fun a member => by rw [record, old i a member, record]) sound.placed

/-- A new node enters the map exactly when its name is not there yet. -/
theorem htSetNew_spec {h : Ht} (sound : h.Sound) (name : CString) (remote : SockUdpEp) :
    ∃ h', htSetNew h name remote = some (h',(h.view name).isNone) ∧ h'.Sound ∧
      h'.bucket = if h.view name = none then append slot h.bucket name ⟨remote,0⟩ else h.bucket := by
  let node : SensorEntry := { name, remote, wdt := 0, next := none }
  obtain ⟨sound', bucket, chains⟩ := malloc_sound sound node
  have view : (h.malloc node).view = h.view := by rw [Ht.view, bucket]; rfl
  have fresh : ∀ i, h.heap.limit ∉ (h.malloc node).chain i := by
    intro i member
    rw [chains] at member
    exact Nat.lt_irrefl _ (sound.below member)
  have here : (h.malloc node).heap.cells h.heap.limit = some node := by simp [Ht.malloc]
  obtain ⟨h', run, sound'', bucket'⟩ := htSet_spec sound' here rfl fresh
  rw [view] at run bucket'
  exact ⟨h', run, sound'', bucket ▸ bucket'⟩

theorem htSetNew_frame {h : Ht} (sound : h.Sound) (name : CString) (remote : SockUdpEp) (absent : h.view name = none) :
    ∃ h', htSetNew h name remote = some (h',true) ∧
      (∀ i, h'.chain i = if i = slot name then h.chain i ++ [h.heap.limit] else h.chain i) ∧
      h'.heap.limit = h.heap.limit + 1 ∧ h'.heap.released = h.heap.released := by
  let node : SensorEntry := { name, remote, wdt := 0, next := none }
  obtain ⟨sound', bucket, chains⟩ := malloc_sound sound node
  have view : (h.malloc node).view = h.view := by rw [Ht.view, bucket]; rfl
  have fresh : ∀ i, h.heap.limit ∉ (h.malloc node).chain i := by
    intro i member
    rw [chains] at member
    exact Nat.lt_irrefl _ (sound.below member)
  have here : (h.malloc node).heap.cells h.heap.limit = some node := by simp [Ht.malloc]
  obtain ⟨h', run, -, -, nodes, limit, released⟩ := htSet_frame sound' here rfl fresh (view ▸ absent)
  simp only [chains] at nodes
  exact ⟨h', run, nodes, limit, released⟩

theorem htGet_spec {h : Ht} (sound : h.Sound) (key : CString) :
    htGet h key = some (if (h.view key).isSome then some key else none) := by
  by_cases empty : h.entries (slot key) = none
  · simp [htGet, empty, view_empty_slot empty]
  · rcases sound.search key with ⟨_, a, entry, _, _, here, name, found, run⟩ | ⟨absent, run⟩
    · simp [htGet, empty, run, here, name, found]
    · simp [htGet, empty, run, absent]

/-- `ht_get_node` returns the entry itself: its record is the map's value at the key. -/
theorem htGetNode_spec {h : Ht} (sound : h.Sound) (key : CString) :
    ∃ p, htGetNode h key = some p ∧
      match h.view key with
      | none => p = none
      | some value => ∃ a, p = some a ∧ a ∈ h.chain (slot key) ∧ record h.heap.cells a = some (key,value) := by
  by_cases empty : h.entries (slot key) = none
  · exact ⟨none, by simp [htGetNode, empty], by simp [view_empty_slot empty]⟩
  · rcases sound.search key with ⟨before, a, entry, after, split, here, name, found, run⟩ | ⟨absent, run⟩
    · refine ⟨some a, by simp [htGetNode, empty, run], ?_⟩
      simp only [found]
      exact ⟨a, rfl, by simp [split], by rw [record_cell here, name]⟩
    · exact ⟨none, by simp [htGetNode, empty, run], by simp [absent]⟩

/-- Writing fields of cells, links apart, keeps every chain. -/
theorem updated {h h' : Ht} (sound : h.Sound) (f : CString → SensorValue → SensorValue)
    (entries : h'.entries = h.entries)
    (links : ∀ i, ∀ a ∈ h.chain i,
      (h'.heap.cells a).map Linked.next = (h.heap.cells a).map Linked.next)
    (records : ∀ i, ∀ a ∈ h.chain i,
      record h'.heap.cells a = (record h.heap.cells a).map fun r => (r.1,f r.1 r.2)) :
    h'.Sound ∧ h'.bucket = adjust h.bucket f := by
  obtain ⟨sound', bucket, _⟩ := sound_of (h := h') h.chain (adjust h.bucket f)
    (fun i => by rw [entries]; exact (sound.linked i).same_links (links i))
    (by
      intro i
      simp only [adjust, Ht.bucket, List.map_filterMap]
      exact List.filterMap_congr (records i))
    (sound.placed.adjust f)
  exact ⟨sound', bucket⟩

/-- The effect of an accepted status request on one entry. -/
def refresh (key : CString) (name : CString) (value : SensorValue) : SensorValue :=
  if name = key then { value with wdt := 0 } else value

theorem adjust_absent {B : Buckets CString SensorValue (Fin TABLE_SIZE)}
    (placed : Placed slot B) (absent : lookup slot B key = none) : adjust B (refresh key) = B := by
  funext i
  refine (List.map_congr_left fun entry member => ?_).trans (List.map_id _)
  obtain ⟨name,value⟩ := entry
  have differ : name ≠ key := by
    rintro rfl
    rw [(placed.mem_iff.mp member).2] at absent
    contradiction
  simp [refresh, differ]

theorem htUpdateTime_spec {h : Ht} (sound : h.Sound) (key : CString) :
    ∃ h', htUpdateTime h key = some h' ∧ h'.Sound ∧ h'.bucket = adjust h.bucket (refresh key) := by
  by_cases empty : h.entries (slot key) = none
  · exact ⟨h, by simp [htUpdateTime, empty], sound,
      (adjust_absent sound.placed (view_empty_slot empty)).symm⟩
  · rcases sound.search key with ⟨before, a, entry, after, split, here, name, _, run⟩ | ⟨absent, run⟩
    · obtain ⟨heap, written, cells, _⟩ := h.heap.modify_eq (fun entry => { entry with wdt := 0 }) here
      have inChain : a ∈ h.chain (slot key) := by simp [split]
      refine ⟨{ h with heap }, by simp [htUpdateTime, empty, run, written], ?_⟩
      refine updated sound (refresh key) rfl ?_ ?_
      · intro i b _
        by_cases same : b = a
        · subst same; simp [cells, here, Linked.next]
        · simp [cells, same]
      · intro i b member
        by_cases same : b = a
        · subst same; simp [record, cells, here, name, SensorEntry.value, refresh]
        · obtain ⟨other, there⟩ := (sound.linked i).cell member
          have differ : other.name ≠ key := by
            intro clash
            exact same (sound.injective member inChain there here (clash.trans name.symm))
          simp [record, cells, same, there, refresh, differ]
    · exact ⟨h, by simp [htUpdateTime, empty, run], sound, (adjust_absent sound.placed absent).symm⟩

/-- A cell taken out of the chain of its name's slot. -/
theorem unlinked {h h' : Ht} (sound : h.Sound) (split : h.chain (slot key) = before ++ a :: after)
    (here : h.heap.cells a = some entry) (name : entry.name = key)
    (chained : Chain h'.heap.cells (h'.entries (slot key)) (before ++ after))
    (others : ∀ i, i ≠ slot key → Chain h'.heap.cells (h'.entries i) (h.chain i))
    (kept : ∀ b, b ≠ a → record h'.heap.cells b = record h.heap.cells b) :
    h'.Sound ∧ h'.bucket = erase slot h.bucket key := by
  have distinct := (sound.linked (slot key)).nodup
  rw [split] at distinct
  obtain ⟨_, tail, apart⟩ := List.nodup_append.mp distinct
  let chains := fun i => if i = slot key then before ++ after else h.chain i
  obtain ⟨sound', bucket, _⟩ := sound_of (h := h') chains (erase slot h.bucket key)
    (by
      intro i
      by_cases same : i = slot key
      · subst same; simpa [chains] using chained
      · simpa [chains, same] using others i same)
    (by
      intro i
      by_cases same : i = slot key
      · subst same
        have old : h.bucket (slot key) = before.filterMap (record h.heap.cells) ++
            (key,entry.value) :: after.filterMap (record h.heap.cells) := by
          simp [Ht.bucket, split, record_cell here, name]
        have once := sound.placed.distinct (slot key)
        rw [old] at once
        simp only [chains, if_true, erase, Function.update_self, old, filter_ne_once once,
          List.filterMap_append]
        rw [records_frame fun b member => kept b fun clash => apart b member a (by simp) clash,
          records_frame fun b member => kept b fun clash => (List.nodup_cons.mp tail).1 (clash ▸ member)]
      · simp only [chains, same, if_false, erase, Function.update_of_ne same]
        refine records_frame fun b member => kept b fun clash => ?_
        subst clash
        exact same (sound.apart member (by simp [split])))
    (sound.placed.erase key)
  exact ⟨sound', bucket⟩

/-- If nobody notices the second release, `ht_del` returns 0 exactly for a stored name, and
then a deregister message went to that entry's remote and only that entry is gone. -/
theorem htDelUnnoticed_spec {h : Ht} (sound : h.Sound) (key : CString) :
    ∃ h', htDelUnnoticed h key = some (h',if (h.view key).isSome then 0 else 1,
        ((h.view key).map SensorValue.remote).toList) ∧
      h'.Sound ∧ h'.bucket = erase slot h.bucket key := by
  by_cases empty : h.entries (slot key) = none
  · have absent := view_empty_slot empty
    exact ⟨h, by simp [htDelUnnoticed, htUnlink, empty, absent], sound, (erase_absent absent).symm⟩
  rcases sound.search key with ⟨before, a, entry, after, split, here, name, found, run⟩ | ⟨absent, run⟩
  · have inChain : a ∈ h.chain (slot key) := by simp [split]
    have old := sound.linked (slot key)
    have distinct := old.nodup
    rw [split] at old distinct
    obtain ⟨_, tailDistinct, apart⟩ := List.nodup_append.mp distinct
    have notAfter : a ∉ after := (List.nodup_cons.mp tailDistinct).1
    have tail : Chain h.heap.cells entry.next after := by
      obtain ⟨x, present, tail⟩ := old.suffix
      cases here.symm.trans present
      exact tail
    rcases List.eq_nil_or_concat before with rfl | ⟨front, p, rfl⟩
    · -- sole or first item: the slot now points behind it
      let h' : Ht := ⟨(h.heap.discard a).discard a, setSlot h.entries (slot key) entry.next⟩
      have cells : ∀ b, b ≠ a → h'.heap.cells b = h.heap.cells b := by
        intro b differ; simp [h', differ]
      refine ⟨h', ?_, unlinked sound split here name ?_ ?_ ?_⟩
      · cases link : entry.next <;>
          simp [htDelUnnoticed, htUnlink, empty, run, here, found, link, h', SensorEntry.value]
      · have pointer : h'.entries (slot key) = entry.next := by simp [h', setSlot]
        rw [pointer]
        refine tail.frame fun b member => cells b ?_
        rintro rfl
        exact notAfter member
      · intro i differ
        have pointer : h'.entries i = h.entries i := by simp [h', setSlot, differ]
        rw [pointer]
        refine (sound.linked i).frame fun b member => cells b ?_
        rintro rfl
        exact differ (sound.apart member inChain)
      · intro b differ
        rw [record, cells b differ, record]
    · -- last or middle item: the previous entry now points behind it
      rw [List.concat_eq_append] at split old apart distinct run
      have pInChain : p ∈ h.chain (slot key) := by simp [split]
      obtain ⟨previous, there⟩ := (sound.linked _).cell pInChain
      obtain ⟨h₁, written, entries, cells₁, -⟩ := setNext_eq there entry.next
      let h' : Ht := { h₁ with heap := (h₁.heap.discard a).discard a }
      have pa : p ≠ a := fun clash => apart p (by simp) a (by simp) clash
      have cells : ∀ b, b ≠ a → h'.heap.cells b =
          if b = p then some { previous with next := entry.next } else h.heap.cells b := by
        intro b differ; simp [h', differ, cells₁]
      refine ⟨h', ?_, unlinked sound split here name ?_ ?_ ?_⟩
      · cases link : entry.next <;> rw [link] at written <;>
          simp [htDelUnnoticed, htUnlink, empty, run, here, found, link, written, h', SensorEntry.value]
      · have pointer : h'.entries (slot key) = h.entries (slot key) := by simp [h', entries]
        have link : h'.heap.cells p = some { previous with next := entry.next } := by simp [cells p pa]
        have frontApart : ∀ b ∈ front, b ≠ a ∧ b ≠ p := by
          intro b member
          refine ⟨fun clash => apart b (by simp [member]) a (by simp) clash, ?_⟩
          rintro rfl
          have twice := (List.nodup_append.mp distinct).1
          exact (List.nodup_append.mp twice).2.2 b member b (by simp) rfl
        have afterApart : ∀ b ∈ after, b ≠ a ∧ b ≠ p := by
          intro b member
          refine ⟨fun clash => notAfter (clash ▸ member), ?_⟩
          rintro rfl
          exact apart b (by simp) b (by simp [member]) rfl
        rw [pointer, List.append_assoc]
        rw [List.append_assoc] at old
        refine Chain.relink old ?_ link (tail.frame ?_)
        · intro b member
          obtain ⟨ba, bp⟩ := frontApart b member
          simp [cells b ba, bp]
        · intro b member
          obtain ⟨ba, bp⟩ := afterApart b member
          simp [cells b ba, bp]
      · intro i differ
        have pointer : h'.entries i = h.entries i := by simp [h', entries]
        rw [pointer]
        refine (sound.linked i).frame fun b member => ?_
        have ba : b ≠ a := by rintro rfl; exact differ (sound.apart member inChain)
        have bp : b ≠ p := by rintro rfl; exact differ (sound.apart member pInChain)
        simp [cells b ba, bp]
      · intro b differ
        have read : record h₁.heap.cells b = record h.heap.cells b := record_setNext there cells₁ b
        rw [← read]
        simp [record, h', differ]
  · exact ⟨h, by simp [htDelUnnoticed, htUnlink, empty, run, absent], sound, (erase_absent absent).symm⟩

theorem htDelUnnoticed_absent {h : Ht} (sound : h.Sound) (absent : h.view key = none) : htDelUnnoticed h key = some (h,1,[]) := by
  by_cases empty : h.entries (slot key) = none
  · simp [htDelUnnoticed, htUnlink, empty]
  · rcases sound.search key with ⟨_, _, _, _, _, _, _, found, _⟩ | ⟨_, run⟩
    · simp [absent] at found
    · simp [htDelUnnoticed, htUnlink, empty, run]

/-- The entry that is removed is released twice. -/
theorem htDelUnnoticed_released {h h' : Ht} (sound : h.Sound) (stored : h.view key = some value)
    (run : htDelUnnoticed h key = some (h',outcome)) : ∃ a, h'.heap.released = a :: a :: h.heap.released := by
  have filled : ¬ h.entries (slot key) = none := by
    intro empty
    simp [view_empty_slot empty] at stored
  rcases sound.search key with ⟨before, a, entry, after, split, here, _, _, found⟩ | ⟨missing, _⟩
  · refine ⟨a, ?_⟩
    rcases List.eq_nil_or_concat before with rfl | ⟨front, p, rfl⟩
    · cases link : entry.next <;> simp [htDelUnnoticed, htUnlink, filled, found, here, link] at run <;> obtain ⟨rfl, -⟩ := run <;> rfl
    · obtain ⟨previous, there⟩ := (sound.linked (slot key)).cell (show p ∈ h.chain (slot key) by simp [split])
      obtain ⟨h₁, written, -, -, -, released⟩ := setNext_eq there entry.next
      cases link : entry.next <;> rw [link] at written <;> simp [htDelUnnoticed, htUnlink, filled, found, here, link, written] at run <;>
        obtain ⟨rfl, -⟩ := run <;> simp [Heap.discard, released]
  · simp [missing] at stored

/-- `ht_del` has a result only where there is nothing to delete. -/
theorem htDel_eq {h : Ht} (sound : h.Sound) (key : CString) :
    htDel h key = if h.view key = none then some (h,1,[]) else none := by
  obtain ⟨h', unnoticed, -⟩ := htDelUnnoticed_spec sound key
  cases taken : htUnlink h key with
  | none => simp [htDelUnnoticed, taken] at unnoticed
  | some out =>
    obtain ⟨h₁, _ | ⟨a, remote⟩⟩ := out
    · by_cases absent : h.view key = none
      · have same := htDelUnnoticed_absent sound absent
        simp only [htDelUnnoticed, taken, Option.bind_eq_bind, Option.bind_some, Option.pure_def] at same
        simp [htDel, taken, absent, same]
      · simp [htDelUnnoticed, taken, Option.isSome_iff_ne_none.mpr absent] at unnoticed
    · have present : h.view key ≠ none := by
        intro absent
        simp [htDelUnnoticed, taken, absent] at unnoticed
      rw [if_neg present]
      cases freed : h₁.heap.free a with
      | none => simp [htDel, taken, freed]
      | some heap => simp [htDel, taken, freed, Heap.free_once freed]

/-- The effect of a watchdog tick on one counter. -/
def bump (wdt : UInt8) : UInt8 := if wdt > 2 then wdt else wdt + 1

def bumpEntry (entry : SensorEntry) : SensorEntry := { entry with wdt := bump entry.wdt }

def late (r : CString × SensorValue) : Bool := r.2.wdt > 2

/-- Some entry has been silent for more ticks than the watchdog tolerates. -/
def Ht.expired (h : Ht) : Bool := (List.finRange TABLE_SIZE).any fun i => (h.bucket i).any late

theorem wdtVisit_eq (isEngaged : Bool) {s : Ht × Bool} (here : s.1.heap.cells a = some entry) :
    ∃ s', wdtVisit isEngaged s a = some s' ∧ s'.1.entries = s.1.entries ∧
      s'.1.heap.limit = s.1.heap.limit ∧ s'.1.heap.released = s.1.heap.released ∧
      (∀ b, s'.1.heap.cells b = if b = a then some (bumpEntry entry) else s.1.heap.cells b) ∧
      s'.2 = (s.2 || (isEngaged && late (entry.name,entry.value))) := by
  by_cases past : entry.wdt > 2
  · refine ⟨(s.1,if isEngaged then true else s.2), by simp [wdtVisit, here, past], rfl, rfl, rfl, ?_, ?_⟩
    · intro b
      by_cases same : b = a
      · subst same; simp [here, bumpEntry, bump, past]
      · simp [same]
    · cases isEngaged <;> simp [late, SensorEntry.value, past]
  · obtain ⟨heap, written, cells, limit, released⟩ :=
      s.1.heap.modify_eq (fun entry => { entry with wdt := entry.wdt + 1 }) here
    refine ⟨({ s.1 with heap },s.2), by simp [wdtVisit, here, past, written], rfl, limit, released, ?_, ?_⟩
    · intro b
      simp [cells, bumpEntry, bump, past]
    · simp [late, SensorEntry.value, past]

theorem wdtVisit_links (isEngaged : Bool) (s : Ht × Bool) (a : Nat) (s' : Ht × Bool)
    (visited : wdtVisit isEngaged s a = some s') :
    s'.1.entries = s.1.entries ∧ s'.1.heap.limit = s.1.heap.limit ∧
      s'.1.heap.released = s.1.heap.released ∧
      ∀ b, (s'.1.heap.cells b).map Linked.next = (s.1.heap.cells b).map Linked.next := by
  cases here : s.1.heap.cells a with
  | none => simp [wdtVisit, here] at visited
  | some entry =>
    obtain ⟨s₁, run, entries, limit, released, cells, _⟩ := wdtVisit_eq isEngaged here
    cases run.symm.trans visited
    refine ⟨entries, limit, released, fun b => ?_⟩
    by_cases same : b = a
    · subst same; simp [cells, here, bumpEntry, Linked.next]
    · simp [cells, same]

theorem wdtFold_links (isEngaged : Bool) (l : List Nat) (s s' : Ht × Bool)
    (run : l.foldlM (wdtVisit isEngaged) s = some s') :
    s'.1.entries = s.1.entries ∧ s'.1.heap.limit = s.1.heap.limit ∧
      s'.1.heap.released = s.1.heap.released ∧
      ∀ b, (s'.1.heap.cells b).map Linked.next = (s.1.heap.cells b).map Linked.next := by
  induction l generalizing s with
  | nil => cases run; exact ⟨rfl, rfl, rfl, fun _ => rfl⟩
  | cons a rest ih =>
    obtain ⟨s₁, first, later⟩ := Option.bind_eq_some_iff.mp run
    obtain ⟨entries, limit, released, links⟩ := wdtVisit_links isEngaged s a s₁ first
    obtain ⟨entries', limit', released', links'⟩ := ih s₁ later
    exact ⟨entries'.trans entries, limit'.trans limit, released'.trans released, fun b => (links' b).trans (links b)⟩

/-- Visiting distinct cells ages each of them once. -/
theorem wdtFold_eq (isEngaged : Bool) (l : List Nat) (distinct : l.Nodup) (s : Ht × Bool)
    (present : ∀ a ∈ l, ∃ entry, s.1.heap.cells a = some entry) :
    ∃ s', l.foldlM (wdtVisit isEngaged) s = some s' ∧
      (∀ b, s'.1.heap.cells b =
        if b ∈ l then (s.1.heap.cells b).map bumpEntry else s.1.heap.cells b) ∧
      s'.2 = (s.2 || (isEngaged && (l.filterMap (record s.1.heap.cells)).any late)) := by
  induction l generalizing s with
  | nil => exact ⟨s, rfl, by simp, by simp⟩
  | cons a rest ih =>
    obtain ⟨outside, distinct⟩ := List.nodup_cons.mp distinct
    obtain ⟨entry, here⟩ := present a (by simp)
    obtain ⟨s₁, run, _, _, _, cells, flag⟩ := wdtVisit_eq isEngaged here
    have same : ∀ b ∈ rest, s₁.1.heap.cells b = s.1.heap.cells b := by
      intro b member
      have differ : b ≠ a := by rintro rfl; exact outside member
      simp [cells, differ]
    obtain ⟨s', run', cells', flag'⟩ := ih distinct s₁ fun b member => by
      rw [same b member]; exact present b (by simp [member])
    refine ⟨s', by simp [run, run'], fun b => ?_, ?_⟩
    · by_cases first : b = a
      · subst first; simp [cells', outside, cells, here]
      · simp [cells', cells, first]
    · have records : rest.filterMap (record s₁.1.heap.cells) = rest.filterMap (record s.1.heap.cells) :=
        records_frame fun b member => by simp only [record, same b member]
      rw [flag', flag, List.filterMap_cons, record_cell here, records, List.any_cons]
      cases isEngaged <;> simp only [Bool.true_and, Bool.false_and, Bool.or_false, Bool.or_assoc]

/-- The ten inner loops are one pass over all chains. -/
theorem wdtSlots_eq (isEngaged : Bool) (chains : Fin TABLE_SIZE → List Nat)
    (slots : List (Fin TABLE_SIZE)) (s : Ht × Bool)
    (linked : ∀ i, Chain s.1.heap.cells (s.1.entries i) (chains i)) :
    slots.foldlM (wdtSlot isEngaged) s = (slots.flatMap chains).foldlM (wdtVisit isEngaged) s := by
  induction slots generalizing s with
  | nil => rfl
  | cons i rest ih =>
    have first : wdtSlot isEngaged s i = (chains i).foldlM (wdtVisit isEngaged) s :=
      each_chain _ _ (fun s a s' visited => (wdtVisit_links isEngaged s a s' visited).2.2.2) (linked i)
        (Nat.lt_succ_of_le ((linked i).length_le s.1.heap))
    rw [List.foldlM_cons, first, List.flatMap_cons, List.foldlM_append]
    cases run : (chains i).foldlM (wdtVisit isEngaged) s with
    | none => rfl
    | some s₁ =>
      obtain ⟨entries, _, _, links⟩ := wdtFold_links isEngaged (chains i) s s₁ run
      refine ih s₁ fun j => ?_
      rw [entries]
      exact (linked j).same_links fun b _ => links b

theorem Ht.Sound.cells_nodup {h : Ht} (sound : h.Sound) :
    ((List.finRange TABLE_SIZE).flatMap h.chain).Nodup := by
  refine List.nodup_flatMap.mpr ⟨fun i _ => (sound.linked i).nodup, ?_⟩
  refine (List.nodup_finRange TABLE_SIZE).imp fun {i j} differ => ?_
  intro a first second
  exact differ (sound.apart first second)

/-- A tick ages every counter that is not saturated, and raises the timeout exactly
when the alarm is engaged and some counter was saturated before it. -/
theorem htWdt_spec {h : Ht} (sound : h.Sound) (isEngaged isTimeout : Bool) :
    ∃ h', htWdt h isEngaged isTimeout = some (h',isTimeout || (isEngaged && h.expired)) ∧ h'.Sound ∧
      h'.bucket = adjust h.bucket fun _ value => { value with wdt := bump value.wdt } := by
  have present : ∀ a ∈ (List.finRange TABLE_SIZE).flatMap h.chain, ∃ entry, h.heap.cells a = some entry := by
    intro a member
    obtain ⟨i, _, inChain⟩ := List.mem_flatMap.mp member
    exact (sound.linked i).cell inChain
  obtain ⟨⟨h',flag⟩, run, cells, flagEq⟩ :=
    wdtFold_eq isEngaged _ sound.cells_nodup (h,isTimeout) present
  obtain ⟨entries, _, _, links⟩ := wdtFold_links isEngaged _ _ _ run
  have visited : ∀ i, ∀ a ∈ h.chain i, h'.heap.cells a = (h.heap.cells a).map bumpEntry := by
    intro i a member
    rw [cells, if_pos (List.mem_flatMap.mpr ⟨i, List.mem_finRange i, member⟩)]
  refine ⟨h', ?_, updated sound _ entries (fun i a _ => links a) fun i a member => ?_⟩
  · rw [htWdt, wdtSlots_eq isEngaged h.chain _ (h,isTimeout) sound.linked, run]
    have expired : (((List.finRange TABLE_SIZE).flatMap h.chain).filterMap
        (record h.heap.cells)).any late = h.expired := by
      simp [Ht.expired, Ht.bucket, List.filterMap_flatMap, List.any_flatMap]
    simp only at flagEq
    rw [flagEq, expired]
  · rw [record, visited i a member, record]
    cases h.heap.cells a <;> simp [bumpEntry, SensorEntry.value]

/-- A tick neither links nor releases an entry. -/
theorem htWdt_frame {h h' : Ht} (sound : h.Sound) (run : htWdt h isEngaged isTimeout = some (h',flag)) :
    (∀ i, h'.chain i = h.chain i) ∧ h'.heap.limit = h.heap.limit ∧ h'.heap.released = h.heap.released := by
  rw [htWdt, wdtSlots_eq isEngaged h.chain _ (h,isTimeout) sound.linked] at run
  obtain ⟨entries, limit, released, links⟩ := wdtFold_links isEngaged _ _ _ run
  refine ⟨fun i => Ht.chain_eq ?_, limit, released⟩
  rw [entries]
  exact (sound.linked i).same_links fun b _ => links b

theorem Ht.Sound.expired_iff {h : Ht} (sound : h.Sound) :
    h.expired = true ↔ ∃ name value, h.view name = some value ∧ 2 < value.wdt := by
  simp only [Ht.expired, List.any_eq_true, List.mem_finRange, true_and]
  constructor
  · rintro ⟨i, ⟨name,value⟩, member, past⟩
    exact ⟨name, value, (sound.placed.mem_iff.mp member).2, by simpa [late] using past⟩
  · rintro ⟨name, value, found, past⟩
    exact ⟨slot name, (name,value), sound.placed.mem_iff.mpr ⟨rfl, found⟩, by simpa [late] using past⟩

end RiotAlarm.Gateway
