import RiotAlarm.CriticalSection
import RiotAlarm.GatewayMap

/-! The functions of the sensor table statement by statement, as the threads of the gateway
interleave them: what each does before it takes `ht_lock` and between taking it and giving
it back. On their own they do what the functions of the table do in one step. -/
namespace RiotAlarm.Gateway

open LinkedHeap

/-- A call of one of the table's functions; `ht_set` gets the name and the remote of the
entry that its caller allocates. -/
inductive TableCall where
  | set (name : CString) (remote : SockUdpEp)
  | get (key : CString)
  | getNode (key : CString)
  | del (key : CString)
  | updateTime (key : CString)
  | wdt
  deriving DecidableEq

/-- Which function runs the lookup loop. -/
inductive Seeker where
  | set (node : Nat)
  | get
  | getNode
  | del
  | updateTime

/-- The entry that the loop is run for, if any. -/
def Seeker.node : Seeker → Pointer
  | .set node => some node
  | _ => none

/-- The four tests of `ht_del`, in their order. -/
inductive Unlink where
  | only
  | first
  | last
  | middle

/-- The next statement of a thread that has the lock, with the local variables it uses. -/
inductive LockPoint where
  /-- `slot = hash(node->name)` -/
  | slotOf (node : Nat)
  /-- `entry = hashtable->entries[slot]` -/
  | enter (seeker : Seeker) (key : CString)
  /-- `hashtable->entries[slot] = node` -/
  | putFirst (key : CString) (node : Nat)
  /-- `while (entry != NULL)` and the comparison -/
  | test (seeker : Seeker) (key : CString) (cursor : Cursor)
  /-- `prev = entry; entry = prev->next; ++idx` -/
  | advance (seeker : Seeker) (key : CString) (a idx : Nat)
  /-- `prev->next = node` -/
  | link (prev : Pointer) (node : Nat)
  /-- a comparison that found the key -/
  | hit (seeker : Seeker) (key : CString) (a : Nat) (prev : Pointer) (idx : Nat)
  | unlink (which : Unlink) (key : CString) (a : Nat) (prev : Pointer) (idx : Nat)
  /-- `send_deregister_response(&entry->remote)` -/
  | send (a : Nat)
  /-- `free(entry->name)` -/
  | freeName (a : Nat) (sent : List SockUdpEp)
  /-- `free(entry)` -/
  | freeEntry (a : Nat) (sent : List SockUdpEp)
  /-- `i < TABLE_SIZE` and `entry = hashtable->entries[i]` -/
  | row (i : Nat) (isTimeout : Bool)
  /-- `entry->wdt > 2` -/
  | visit (i a : Nat) (isTimeout : Bool)
  /-- `if (is_engaged) is_timeout = true` -/
  | expired (i a : Nat) (isTimeout : Bool)
  /-- `entry->wdt = entry->wdt + 1` -/
  | age (i a : Nat) (isTimeout : Bool)
  /-- `entry->next == NULL`, `entry = entry->next` -/
  | onward (i a : Nat) (isTimeout : Bool)

/-- What follows a test of `ht_del`. -/
def Unlink.following (key : CString) (a : Nat) (prev : Pointer) (idx : Nat) : Unlink → LockPoint
  | .only => .unlink .first key a prev idx
  | .first => .unlink .last key a prev idx
  | .last => .unlink .middle key a prev idx
  | .middle => .send a

namespace Locking
open LockPoint

/-- The entry of `ht_set` is allocated and filled in before the lock is asked for. -/
def prepare (h : Ht) : TableCall → Ht × LockPoint
  | .set name remote => (h.malloc { name, remote, wdt := 0, next := none },slotOf h.heap.limit)
  | .get key => (h,enter .get key)
  | .getNode key => (h,enter .getNode key)
  | .del key => (h,enter .del key)
  | .updateTime key => (h,enter .updateTime key)
  | .wdt => (h,row 0 false)

/-- The loop ran off the chain, or the slot is empty. -/
def missing (prev : Pointer) : Seeker → LockPoint ⊕ HtResult
  | .set node => .inl (link prev node)
  | .get => .inr (.name none)
  | .getNode => .inr (.node none)
  | .del => .inr (.deleted 1 [])
  | .updateTime => .inr .done

/-- What a function does at the entry it looked for. The answer is what the entry says when
the lock is given back. -/
def found (h : Ht) (key : CString) (a : Nat) (prev : Pointer) (idx : Nat) : Seeker → Option (Ht × (LockPoint ⊕ HtResult))
  | .set _ => some (h,.inr .done)
  | .get => (h.heap.cells a).map fun entry => (h,.inr (.name (some entry.name)))
  | .getNode => (record h.heap.cells a).map fun r => (h,.inr (.node (some r)))
  | .del => some (h,.inl (unlink .only key a prev idx))
  | .updateTime => (h.heap.modify a fun entry => { entry with wdt := 0 }).map fun heap => ({ h with heap },.inr .done)

/-- One of the four tests of `ht_del` and what it guards. -/
def unlinkStep (h : Ht) (key : CString) (entry : SensorEntry) (prev : Pointer) (idx : Nat) : Unlink → Option Ht
  | .only => if entry.next = none ∧ idx = 0 then some { h with entries := setSlot h.entries (slot key) none } else some h
  | .first => if entry.next ≠ none ∧ idx = 0 then some { h with entries := setSlot h.entries (slot key) entry.next } else some h
  | .last => if entry.next = none ∧ idx ≠ 0 then h.setNext prev none else some h
  | .middle => if entry.next ≠ none ∧ idx ≠ 0 then h.setNext prev entry.next else some h

/-- One statement under the lock. `is_engaged` is read by one of them only. A statement that
follows a dangling or null pointer, or releases a block that is not allocated, has no result. -/
def turn (h : Ht) (point : LockPoint) (isEngaged : Bool) : Option (Ht × (LockPoint ⊕ HtResult)) :=
  match point with
  | slotOf node => (h.heap.cells node).map fun entry => (h,.inl (enter (.set node) entry.name))
  | enter seeker key =>
    match h.entries (slot key),seeker with
    | none,.set node => some (h,.inl (putFirst key node))
    | none,_ => some (h,missing none seeker)
    | some a,_ => some (h,.inl (test seeker key ⟨some a,none,0⟩))
  | putFirst key node => some ({ h with entries := setSlot h.entries (slot key) (some node) },.inr .done)
  | test seeker _ ⟨none,prev,_⟩ => some (h,missing prev seeker)
  | test seeker key ⟨some a,prev,idx⟩ =>
    (h.heap.cells a).map fun entry =>
      (h,.inl (if matching key entry then hit seeker key a prev idx else advance seeker key a idx))
  | advance seeker key a idx =>
    (h.heap.cells a).map fun entry => (h,.inl (test seeker key ⟨entry.next,some a,idx + 1⟩))
  | link prev node => (h.setNext prev (some node)).map fun h => (h,.inr .done)
  | hit seeker key a prev idx => found h key a prev idx seeker
  | unlink which key a prev idx =>
    (h.heap.cells a).bind fun entry =>
      (unlinkStep h key entry prev idx which).map fun h => (h,.inl (which.following key a prev idx))
  | send a => (h.heap.cells a).map fun entry => (h,.inl (freeName a [entry.remote]))
  -- `name` is the entry's first member, so `free(entry->name)` releases the entry itself
  | freeName a sent => (h.heap.free a).map fun heap => ({ h with heap },.inl (freeEntry a sent))
  | freeEntry a sent => (h.heap.free a).map fun heap => ({ h with heap },.inr (.deleted 0 sent))
  | row i isTimeout =>
    if inside : i < TABLE_SIZE then
      match h.entries ⟨i,inside⟩ with
      | none => some (h,.inl (row (i + 1) isTimeout))
      | some a => some (h,.inl (visit i a isTimeout))
    else some (h,.inr (.timeout isTimeout))
  | visit i a isTimeout =>
    (h.heap.cells a).map fun entry =>
      (h,.inl (if entry.wdt > 2 then expired i a isTimeout else age i a isTimeout))
  | expired i a isTimeout => some (h,.inl (onward i a (if isEngaged then true else isTimeout)))
  | age i a isTimeout =>
    (h.heap.modify a fun entry => { entry with wdt := entry.wdt + 1 }).map fun heap =>
      ({ h with heap },.inl (onward i a isTimeout))
  | onward i a isTimeout =>
    (h.heap.cells a).map fun entry =>
      (h,match entry.next with
        | none => .inl (row (i + 1) isTimeout)
        | some b => .inl (visit i b isTimeout))

def program : CriticalSection.Program Ht TableCall LockPoint Bool HtResult := ⟨prepare,turn⟩

/-! Allocating an entry and a statement under the lock can be done in either order. -/

theorem malloc_setNext {h h' : Ht} (x : SensorEntry) (written : h.setNext prev next = some h') :
    (h.malloc x).setNext prev next = some (h'.malloc x) ∧ h'.heap.limit = h.heap.limit := by
  cases prev with
  | none => simp [Ht.setNext] at written
  | some p =>
    simp only [Ht.setNext, Option.bind_eq_bind, Option.bind_some, Option.pure_def, Option.bind_eq_some_iff] at written
    obtain ⟨heap, modified, same⟩ := written
    cases same
    have limit := (Heap.modify_frame modified).1
    exact ⟨by simp [Ht.setNext, Ht.malloc, Heap.malloc_modify x modified], limit⟩

theorem malloc_unlinkStep {h h' : Ht} (x : SensorEntry) (which : Unlink)
    (done : unlinkStep h key entry prev idx which = some h') :
    unlinkStep (h.malloc x) key entry prev idx which = some (h'.malloc x) ∧ h'.heap.limit = h.heap.limit := by
  cases which <;> simp only [unlinkStep] at done ⊢ <;> split at done
  all_goals first
    | (cases done; simp_all [Ht.malloc])
    | simpa [*] using malloc_setNext x done

theorem malloc_found {h h' : Ht} (x : SensorEntry) (seeker : Seeker)
    (taken : found h key a prev idx seeker = some (h',out)) :
    found (h.malloc x) key a prev idx seeker = some (h'.malloc x,out) ∧ h'.heap.limit = h.heap.limit := by
  cases seeker with
  | set node =>
    cases taken
    exact ⟨rfl, rfl⟩
  | get =>
    obtain ⟨entry, here, same⟩ := Option.map_eq_some_iff.mp taken
    cases same
    exact ⟨by simp [found, Ht.malloc, h.heap.malloc_kept x here, -Heap.malloc_cells], rfl⟩
  | getNode =>
    obtain ⟨r, read, same⟩ := Option.map_eq_some_iff.mp taken
    cases same
    obtain ⟨entry, here, same⟩ := Option.map_eq_some_iff.mp read
    cases same
    exact ⟨by simp [found, record, Ht.malloc, h.heap.malloc_kept x here, -Heap.malloc_cells], rfl⟩
  | del =>
    cases taken
    exact ⟨rfl, rfl⟩
  | updateTime =>
    obtain ⟨heap, written, same⟩ := Option.map_eq_some_iff.mp taken
    cases same
    exact ⟨by simp [found, Ht.malloc, Heap.malloc_modify x written], (Heap.modify_frame written).1⟩

/-- A statement that reads one cell. -/
theorem malloc_read {h h' : Ht} (x : SensorEntry) (g : SensorEntry → LockPoint ⊕ HtResult)
    (taken : (h.heap.cells a).map (fun entry => (h,g entry)) = some (h',out)) :
    ((h.malloc x).heap.cells a).map (fun entry => (h.malloc x,g entry)) = some (h'.malloc x,out) ∧
      h'.heap.limit = h.heap.limit := by
  obtain ⟨entry, here, same⟩ := Option.map_eq_some_iff.mp taken
  cases same
  have kept : (h.malloc x).heap.cells a = some entry := h.heap.malloc_kept x here
  exact ⟨by simp [kept], rfl⟩

theorem turn_malloc {h h' : Ht} (x : SensorEntry) (taken : turn h point isEngaged = some (h',out)) :
    turn (h.malloc x) point isEngaged = some (h'.malloc x,out) ∧ h'.heap.limit = h.heap.limit := by
  have entries : (h.malloc x).entries = h.entries := rfl
  cases point with
  | slotOf node => exact malloc_read x _ taken
  | enter seeker key =>
    simp only [turn, entries] at taken ⊢
    split at taken <;> cases taken <;> simp_all
  | putFirst key node =>
    cases taken
    exact ⟨rfl, rfl⟩
  | test seeker key cursor =>
    obtain ⟨entry, prev, idx⟩ := cursor
    cases entry with
    | none =>
      cases taken
      exact ⟨rfl, rfl⟩
    | some a => exact malloc_read x _ taken
  | advance seeker key a idx => exact malloc_read x _ taken
  | link prev node =>
    obtain ⟨h₁, written, same⟩ := Option.map_eq_some_iff.mp taken
    cases same
    obtain ⟨written', limit⟩ := malloc_setNext x written
    exact ⟨by simp [turn, written'], limit⟩
  | hit seeker key a prev idx => exact malloc_found x seeker taken
  | unlink which key a prev idx =>
    obtain ⟨entry, here, rest⟩ := Option.bind_eq_some_iff.mp taken
    obtain ⟨h₁, done, same⟩ := Option.map_eq_some_iff.mp rest
    cases same
    obtain ⟨done', limit⟩ := malloc_unlinkStep x which done
    have kept : (h.malloc x).heap.cells a = some entry := h.heap.malloc_kept x here
    exact ⟨by simp [turn, kept, done'], limit⟩
  | send a => exact malloc_read x _ taken
  | freeName a sent =>
    obtain ⟨heap, freed, same⟩ := Option.map_eq_some_iff.mp taken
    cases same
    exact ⟨by simp [turn, Ht.malloc, Heap.malloc_free x freed], Heap.free_limit freed⟩
  | freeEntry a sent =>
    obtain ⟨heap, freed, same⟩ := Option.map_eq_some_iff.mp taken
    cases same
    exact ⟨by simp [turn, Ht.malloc, Heap.malloc_free x freed], Heap.free_limit freed⟩
  | row i isTimeout =>
    simp only [turn, entries] at taken ⊢
    split at taken
    next => split at taken <;> cases taken <;> simp_all
    next => cases taken; simp_all
  | visit i a isTimeout => exact malloc_read x _ taken
  | expired i a isTimeout =>
    cases taken
    exact ⟨rfl, rfl⟩
  | age i a isTimeout =>
    obtain ⟨heap, written, same⟩ := Option.map_eq_some_iff.mp taken
    cases same
    exact ⟨by simp [turn, Ht.malloc, Heap.malloc_modify x written], (Heap.modify_frame written).1⟩
  | onward i a isTimeout => exact malloc_read x _ taken

theorem turn_limit {h h' : Ht} (taken : turn h point isEngaged = some (h',out)) : h'.heap.limit = h.heap.limit :=
  (turn_malloc ⟨tapsense.name,⟨.unspec,tapsense.ipAddr,0,0⟩,0,none⟩ taken).2

/-- The entry that `free(entry)` is to release has been released by the statement before. -/
def Released (h : Ht) (point : LockPoint) : Prop :=
  ∃ a sent, point = freeEntry a sent ∧ a < h.heap.limit ∧ h.heap.cells a = none

theorem Released.malloc {h : Ht} (released : Released h point) (x : SensorEntry) : Released (h.malloc x) point := by
  obtain ⟨a, sent, rfl, old, absent⟩ := released
  exact ⟨a, sent, rfl, Nat.lt_succ_of_lt old, by simp [Ht.malloc, Nat.ne_of_lt old, absent]⟩

theorem Released.stops {h : Ht} (released : Released h point) (isEngaged : Bool) : turn h point isEngaged = none := by
  obtain ⟨a, sent, rfl, -, absent⟩ := released
  simp [turn, Heap.free_absent _ absent]

/-- Whoever gets past `free(entry->name)` stands before a block that is gone. -/
theorem released_after {h h' : Ht} (taken : turn h (freeName a sent) isEngaged = some (h',.inl next)) : Released h' next := by
  obtain ⟨heap, freed, same⟩ := Option.map_eq_some_iff.mp taken
  cases same
  obtain ⟨⟨x, present⟩, rfl⟩ := Heap.free_cases freed
  exact ⟨a, sent, rfl, h.heap.lt_limit present, by simp⟩

theorem moves : CriticalSection.Moves program := by
  intro h point isEngaged h' out call taken
  have taken : turn h point isEngaged = some (h',out) := taken
  cases call with
  | set name remote =>
    obtain ⟨taken', limit⟩ := turn_malloc { name, remote, wdt := 0, next := none } taken
    exact ⟨taken', by simp [program, prepare, limit]⟩
  | _ => exact ⟨taken, rfl⟩

/-! An entry that its caller has allocated and not yet handed over is out of the reach of
whoever has the lock. -/

/-- No slot and no entry leads to the node. -/
structure Private (h : Ht) (node : Nat) : Prop where
  slots : ∀ i, h.entries i ≠ some node
  links : ∀ a entry, h.heap.cells a = some entry → entry.next ≠ some node

/-- The pointers that a thread has in its local variables. -/
def pointers : LockPoint → List Pointer
  | slotOf node => [some node]
  | enter seeker _ => [seeker.node]
  | putFirst _ node => [some node]
  | test seeker _ ⟨entry,prev,_⟩ => [seeker.node,entry,prev]
  | advance seeker _ a _ => [seeker.node,some a]
  | link prev node => [prev,some node]
  | hit seeker _ a prev _ => [seeker.node,some a,prev]
  | unlink _ _ a prev _ => [some a,prev]
  | send a => [some a]
  | freeName a _ => [some a]
  | freeEntry a _ => [some a]
  | row _ _ => []
  | visit _ a _ => [some a]
  | expired _ a _ => [some a]
  | age _ a _ => [some a]
  | onward _ a _ => [some a]

/-- A statement leaves the node alone and does not get hold of it. -/
structure Spares (node : Nat) (h h' : Ht) (out : LockPoint ⊕ HtResult) : Prop where
  kept : Private h' node
  cell : h'.heap.cells node = h.heap.cells node
  next : ∀ point, out = .inl point → some node ∉ pointers point

theorem Spares.same {h : Ht} (held : Private h node) (next : ∀ point, out = .inl point → some node ∉ pointers point) :
    Spares node h h out :=
  ⟨held, rfl, next⟩

theorem private_setSlot {h : Ht} (held : Private h node) (other : p ≠ some node) (i : Fin TABLE_SIZE) :
    Private { h with entries := setSlot h.entries i p } node where
  slots j := by
    by_cases same : j = i <;> simp [setSlot, same, other, held.slots]
  links := held.links

theorem private_modify {h : Ht} {heap : Heap SensorEntry} (held : Private h node) (apart : a ≠ node)
    (f : SensorEntry → SensorEntry) (written : h.heap.modify a f = some heap)
    (link : ∀ entry, h.heap.cells a = some entry → (f entry).next ≠ some node) :
    Private { h with heap } node ∧ heap.cells node = h.heap.cells node := by
  cases here : h.heap.cells a with
  | none =>
    unfold Heap.modify at written
    split at written <;> simp_all
  | some entry =>
    obtain ⟨heap', run, cells, -, -⟩ := h.heap.modify_eq f here
    obtain rfl : heap' = heap := Option.some.inj (run.symm.trans written)
    refine ⟨⟨held.slots, ?_⟩, by simp [cells, Ne.symm apart]⟩
    intro b x there
    simp only [cells] at there
    split at there
    next =>
      cases there
      exact link entry here
    next => exact held.links b x there

theorem private_setNext {h h' : Ht} (held : Private h node) (apart : prev ≠ some node) (other : next ≠ some node)
    (written : h.setNext prev next = some h') : Private h' node ∧ h'.heap.cells node = h.heap.cells node := by
  cases prev with
  | none => simp [Ht.setNext] at written
  | some p =>
    simp only [Ht.setNext, Option.bind_eq_bind, Option.bind_some, Option.pure_def, Option.bind_eq_some_iff] at written
    obtain ⟨heap, modified, same⟩ := written
    cases same
    exact private_modify held (fun clash => apart (clash ▸ rfl)) _ modified fun _ _ => other

theorem private_free {h : Ht} {heap : Heap SensorEntry} (held : Private h node) (apart : a ≠ node)
    (freed : h.heap.free a = some heap) : Private { h with heap } node ∧ heap.cells node = h.heap.cells node := by
  obtain ⟨-, rfl⟩ := Heap.free_cases freed
  refine ⟨⟨held.slots, ?_⟩, by simp [Ne.symm apart]⟩
  intro b entry there
  simp only [Heap.discard_cells] at there
  split at there
  next => contradiction
  next => exact held.links b entry there

theorem spares_read {h h' : Ht} (held : Private h node) (g : SensorEntry → LockPoint ⊕ HtResult)
    (taken : (h.heap.cells a).map (fun entry => (h,g entry)) = some (h',out))
    (next : ∀ entry point, h.heap.cells a = some entry → g entry = .inl point → some node ∉ pointers point) :
    Spares node h h' out := by
  obtain ⟨entry, here, same⟩ := Option.map_eq_some_iff.mp taken
  cases same
  exact .same held fun point went => next entry point here went

theorem missing_spares (apart : some node ∉ [seeker.node,prev]) (went : missing prev seeker = .inl point) :
    some node ∉ pointers point := by
  cases seeker <;> simp_all [missing, Seeker.node]
  subst went
  simpa [pointers, and_comm] using apart

theorem found_spares {h h' : Ht} (held : Private h node) (apart : some node ∉ [seeker.node,some a,prev])
    (taken : found h key a prev idx seeker = some (h',out)) : Spares node h h' out := by
  cases seeker with
  | set own =>
    cases taken
    exact .same held (by simp)
  | get => exact spares_read held (fun entry => .inr (.name (some entry.name))) taken (by simp)
  | getNode =>
    obtain ⟨r, -, same⟩ := Option.map_eq_some_iff.mp taken
    cases same
    exact .same held (by simp)
  | del =>
    cases taken
    refine .same held ?_
    rintro point ⟨rfl⟩
    simp_all [pointers]
  | updateTime =>
    obtain ⟨heap, written, same⟩ := Option.map_eq_some_iff.mp taken
    cases same
    have other : a ≠ node := by
      rintro rfl
      simp at apart
    obtain ⟨kept, cell⟩ := private_modify held other _ written fun entry here => held.links a entry here
    exact ⟨kept, cell, by simp⟩

theorem unlinkStep_spares {h h' : Ht} (held : Private h node) (apart : prev ≠ some node) (here : h.heap.cells a = some entry)
    (which : Unlink) (done : unlinkStep h key entry prev idx which = some h') :
    Private h' node ∧ h'.heap.cells node = h.heap.cells node := by
  have link := held.links a entry here
  cases which <;> simp only [unlinkStep] at done <;> split at done
  · cases done
    exact ⟨private_setSlot held (by simp) _, rfl⟩
  · cases done
    exact ⟨held, rfl⟩
  · cases done
    exact ⟨private_setSlot held link _, rfl⟩
  · cases done
    exact ⟨held, rfl⟩
  · exact private_setNext held apart (by simp) done
  · cases done
    exact ⟨held, rfl⟩
  · exact private_setNext held apart link done
  · cases done
    exact ⟨held, rfl⟩

/-- Whoever has the lock neither writes an entry that is still its caller's own nor gets hold
of it. -/
theorem turn_spares {h h' : Ht} (held : Private h node) (apart : some node ∉ pointers point)
    (taken : turn h point isEngaged = some (h',out)) : Spares node h h' out := by
  cases point with
  | slotOf own =>
    refine spares_read held _ taken ?_
    rintro entry point - ⟨rfl⟩
    simpa [pointers, Seeker.node] using apart
  | enter seeker key =>
    simp only [turn] at taken
    split at taken
    next own _ =>
      cases taken
      refine .same held ?_
      rintro point ⟨rfl⟩
      simpa [pointers, Seeker.node] using apart
    next =>
      cases taken
      refine .same held fun point went => missing_spares ?_ went
      simpa [pointers] using apart
    next a slot =>
      cases taken
      refine .same held ?_
      rintro point ⟨rfl⟩
      have other : node ≠ a := by
        rintro rfl
        exact held.slots _ slot
      simpa [pointers, other] using apart
  | putFirst key own =>
    cases taken
    exact ⟨private_setSlot held (by simpa [pointers, eq_comm] using apart) _, rfl, by simp⟩
  | test seeker key cursor =>
    obtain ⟨entry, prev, idx⟩ := cursor
    cases entry with
    | none =>
      cases taken
      refine .same held fun point went => missing_spares ?_ went
      simpa [pointers] using apart
    | some a =>
      refine spares_read held _ taken ?_
      intro entry point _ went
      split at went <;> cases went <;> simp_all [pointers]
  | advance seeker key a idx =>
    refine spares_read held _ taken ?_
    rintro entry point here ⟨rfl⟩
    have link := held.links a entry here
    simp_all [pointers, eq_comm]
  | link prev own =>
    obtain ⟨h₁, written, same⟩ := Option.map_eq_some_iff.mp taken
    cases same
    have other : prev ≠ some node ∧ some own ≠ some node := by simp_all [pointers, eq_comm]
    obtain ⟨kept, cell⟩ := private_setNext held other.1 other.2 written
    exact ⟨kept, cell, by simp⟩
  | hit seeker key a prev idx => exact found_spares held apart taken
  | unlink which key a prev idx =>
    obtain ⟨entry, here, rest⟩ := Option.bind_eq_some_iff.mp taken
    obtain ⟨h₁, done, same⟩ := Option.map_eq_some_iff.mp rest
    cases same
    have other : prev ≠ some node := by simp_all [pointers, eq_comm]
    obtain ⟨kept, cell⟩ := unlinkStep_spares held other here which done
    refine ⟨kept, cell, ?_⟩
    rintro point ⟨rfl⟩
    cases which <;> simp_all [pointers, Unlink.following]
  | send a =>
    refine spares_read held _ taken ?_
    rintro entry point - ⟨rfl⟩
    simpa [pointers] using apart
  | freeName a sent =>
    obtain ⟨heap, freed, same⟩ := Option.map_eq_some_iff.mp taken
    cases same
    have other : a ≠ node := by simp_all [pointers, eq_comm]
    obtain ⟨kept, cell⟩ := private_free held other freed
    refine ⟨kept, cell, ?_⟩
    rintro point ⟨rfl⟩
    simpa [pointers] using apart
  | freeEntry a sent =>
    obtain ⟨heap, freed, same⟩ := Option.map_eq_some_iff.mp taken
    cases same
    have other : a ≠ node := by simp_all [pointers, eq_comm]
    obtain ⟨kept, cell⟩ := private_free held other freed
    exact ⟨kept, cell, by simp⟩
  | row i isTimeout =>
    simp only [turn] at taken
    split at taken
    next inside =>
      split at taken
      next =>
        cases taken
        refine .same held ?_
        rintro point ⟨rfl⟩
        simp [pointers]
      next a slot =>
        cases taken
        refine .same held ?_
        rintro point ⟨rfl⟩
        have other : node ≠ a := by
          rintro rfl
          exact held.slots _ slot
        simpa [pointers] using other
    next =>
      cases taken
      exact .same held (by simp)
  | visit i a isTimeout =>
    refine spares_read held _ taken ?_
    intro entry point _ went
    split at went <;> cases went <;> simpa [pointers] using apart
  | expired i a isTimeout =>
    cases taken
    refine .same held ?_
    rintro point ⟨rfl⟩
    simpa [pointers] using apart
  | age i a isTimeout =>
    obtain ⟨heap, written, same⟩ := Option.map_eq_some_iff.mp taken
    cases same
    have other : a ≠ node := by simp_all [pointers, eq_comm]
    obtain ⟨kept, cell⟩ := private_modify held other _ written fun entry here => held.links a entry here
    refine ⟨kept, cell, ?_⟩
    rintro point ⟨rfl⟩
    simpa [pointers] using apart
  | onward i a isTimeout =>
    refine spares_read held _ taken ?_
    intro entry point here went
    have link := held.links a entry here
    split at went <;> cases went <;> simp_all [pointers, eq_comm]

end Locking

end RiotAlarm.Gateway
