import RiotAlarm.Types
import RiotAlarm.LinkedHeap

/-! The gateway's sensor table, pointer by pointer. A function has no result when it
follows a dangling or null pointer, releases a block that is not allocated or does not
leave a loop; the mutex around the table is taken and released inside every function, so
each one is a single step. -/
namespace RiotAlarm.Gateway

open LinkedHeap

def TABLE_SIZE : Nat := 10

structure SensorEntry where
  name : CString
  remote : SockUdpEp
  wdt : UInt8
  next : Pointer

instance : Linked SensorEntry := ⟨SensorEntry.next⟩

/-- `strlen` is stored in a `uint32_t`, and the polynomial wraps at 32 bits. -/
def hash (key : CString) : UInt32 :=
  let keyLen := UInt32.ofNat (strlen key)
  let value := (key.chars.take keyLen.toNat).foldl (fun value c => value * 37 + c.toUInt32) 0
  value % .ofNat TABLE_SIZE

theorem hash_lt (key : CString) : (hash key).toNat < TABLE_SIZE := by
  simp only [hash, UInt32.toNat_mod]
  exact Nat.mod_lt _ (by decide)

def slot (key : CString) : Fin TABLE_SIZE := ⟨(hash key).toNat, hash_lt key⟩

/-- The table together with the heap its entries live on. -/
structure Ht where
  heap : Heap SensorEntry
  entries : Fin TABLE_SIZE → Pointer

def htCreate : Ht := ⟨.empty, fun _ => none⟩

def setSlot (entries : Fin TABLE_SIZE → Pointer) (i : Fin TABLE_SIZE) (p : Pointer) :
    Fin TABLE_SIZE → Pointer :=
  fun j => if j = i then p else entries j

/-- `strcmp(entry->name, key) == 0` -/
def matching (key : CString) (entry : SensorEntry) : Bool := strcmp entry.name key == 0

/-- The lookup loop that `ht_set`, `ht_get`, `ht_get_node`, `ht_del` and
`ht_update_time` each write out. -/
def Ht.search (h : Ht) (key : CString) : Option Cursor :=
  seek h.heap.cells (matching key) (h.heap.limit + 1) ⟨h.entries (slot key), none, 0⟩

/-- `prev->next = next` -/
def Ht.setNext (h : Ht) (prev next : Pointer) : Option Ht := do
  let p ← prev
  let heap ← h.heap.modify p fun entry => { entry with next }
  return { h with heap }

/-- Also tells whether the node was linked in; otherwise its name was reported as
already in the authorized list. -/
def htSet (h : Ht) (node : Nat) : Option (Ht × Bool) := do
  let entry ← h.heap.cells node
  let slot := slot entry.name
  if h.entries slot = none then
    return ({ h with entries := setSlot h.entries slot (some node) }, true)
  let found ← h.search entry.name
  if found.entry = none then
    return (← h.setNext found.prev (some node), true)
  return (h, false)

/-- The name of the entry found, or NULL. -/
def htGet (h : Ht) (key : CString) : Option (Option CString) := do
  if h.entries (slot key) = none then
    return none
  let found ← h.search key
  match found.entry with
  | none => return none
  | some a => return some (← h.heap.cells a).name

/-- The entry found, or NULL. -/
def htGetNode (h : Ht) (key : CString) : Option Pointer := do
  if h.entries (slot key) = none then
    return none
  let found ← h.search key
  return found.entry

/-- `ht_del` up to the releases: the entry that it took out of its chain, and the endpoint
that a deregister message was sent to. The four pointer cases are tested one after the
other; the entry's own link is not among the pointers they change. -/
def htUnlink (h : Ht) (key : CString) : Option (Ht × Option (Nat × SockUdpEp)) := do
  let bucket := slot key
  if h.entries bucket = none then
    return (h, none)
  let found ← h.search key
  match found.entry with
  | none => return (h, none)
  | some a =>
    let entry ← h.heap.cells a
    let h :=
      if entry.next = none ∧ found.idx = 0 then { h with entries := setSlot h.entries bucket none }
      else h
    let h :=
      if entry.next ≠ none ∧ found.idx = 0 then
        { h with entries := setSlot h.entries bucket entry.next }
      else h
    let h ← if entry.next = none ∧ found.idx ≠ 0 then h.setNext found.prev none else some h
    let h ← if entry.next ≠ none ∧ found.idx ≠ 0 then h.setNext found.prev entry.next else some h
    return (h, some (a,entry.remote))

/-- Result code, and the endpoints that a deregister message was sent to. -/
def htDel (h : Ht) (key : CString) : Option (Ht × Nat × List SockUdpEp) := do
  let (h,taken) ← htUnlink h key
  match taken with
  | none => return (h, 1, [])
  | some (a,remote) =>
    -- `name` is the entry's first member, so `free(entry->name)` releases the entry itself
    let heap ← h.heap.free a
    let heap ← heap.free a
    return ({ h with heap }, 0, [remote])

/-- `ht_del` where the allocator takes no notice of the second release, so that the thread
goes on behind it. -/
def htDelUnnoticed (h : Ht) (key : CString) : Option (Ht × Nat × List SockUdpEp) := do
  let (h,taken) ← htUnlink h key
  match taken with
  | none => return (h, 1, [])
  | some (a,remote) => return ({ h with heap := (h.heap.discard a).discard a }, 0, [remote])

def htUpdateTime (h : Ht) (key : CString) : Option Ht := do
  if h.entries (slot key) = none then
    return h
  let found ← h.search key
  match found.entry with
  | none => return h
  | some a =>
    let heap ← h.heap.modify a fun entry => { entry with wdt := 0 }
    return { h with heap }

/-- One turn of the inner loop of `ht_wdt`, over the table and `is_timeout`. -/
def wdtVisit (isEngaged : Bool) (s : Ht × Bool) (a : Nat) : Option (Ht × Bool) := do
  let entry ← s.1.heap.cells a
  if entry.wdt > 2 then
    return (s.1, if isEngaged then true else s.2)
  let heap ← s.1.heap.modify a fun entry => { entry with wdt := entry.wdt + 1 }
  return ({ s.1 with heap }, s.2)

/-- The chain of one slot; an empty slot is skipped. -/
def wdtSlot (isEngaged : Bool) (s : Ht × Bool) (i : Fin TABLE_SIZE) : Option (Ht × Bool) :=
  each (fun s => s.1.heap.cells) (wdtVisit isEngaged) (s.1.heap.limit + 1) s (s.1.entries i)

def htWdt (h : Ht) (isEngaged isTimeout : Bool) : Option (Ht × Bool) :=
  (List.finRange TABLE_SIZE).foldlM (wdtSlot isEngaged) (h, isTimeout)

def Ht.malloc (h : Ht) (entry : SensorEntry) : Ht := { h with heap := h.heap.malloc entry }

/-- The allocation and initialisation of `add_sensor_entry`, then its `ht_set`. -/
def htSetNew (h : Ht) (name : CString) (remote : SockUdpEp) : Option (Ht × Bool) :=
  htSet (h.malloc { name, remote, wdt := 0, next := none }) h.heap.limit

end RiotAlarm.Gateway
