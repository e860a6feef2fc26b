import Mathlib.Data.List.Nodup
import Mathlib.Data.List.Perm.Subperm
import Mathlib.Data.List.Range

/-! Singly linked cells on an allocation heap: `malloc`, a checked write, `free`,
the two pointer loops of list code (search with a trailing pointer, visit every
cell), and the chain predicate their specifications are stated with. -/
namespace LinkedHeap

/-- Addresses are allocation identities, never reused; NULL is `none`. -/
abbrev Pointer := Option Nat

/-- A record with a link field. -/
class Linked (α : Type) where
  next : α → Pointer

/-- `limit` addresses have been handed out so far and none is handed out twice.
`released` keeps every block that was released, newest first. -/
structure Heap (α : Type) where
  cells : Nat → Option α
  limit : Nat
  released : List Nat
  bounded : ∀ a, limit ≤ a → cells a = none

namespace Heap
variable {α : Type}

def empty : Heap α := ⟨fun _ => none, 0, [], fun _ _ => rfl⟩

/-- The new block's address is the old `limit`. -/
def malloc (h : Heap α) (x : α) : Heap α where
  cells b := if b = h.limit then some x else h.cells b
  limit := h.limit + 1
  released := h.released
  bounded b above := by
    have other : b ≠ h.limit := by omega
    simpa [other] using h.bounded b (by omega)

/-- Writes fields of an allocated cell; a write through a dangling pointer has no result. -/
def modify (h : Heap α) (a : Nat) (f : α → α) : Option (Heap α) :=
  match present : h.cells a with
  | none => none
  | some x => some {
      cells := fun b => if b = a then some (f x) else h.cells b
      limit := h.limit
      released := h.released
      bounded := by
        intro b above
        have other : b ≠ a := by rintro rfl; simp [h.bounded b above] at present
        simpa [other] using h.bounded b above }

/-- The block is gone. Nobody asks whether it was there. -/
def discard (h : Heap α) (a : Nat) : Heap α where
  cells b := if b = a then none else h.cells b
  limit := h.limit
  released := a :: h.released
  bounded b above := by simp [h.bounded b above]

/-- Releasing what is not allocated, or not any more, has no result. -/
def free (h : Heap α) (a : Nat) : Option (Heap α) :=
  if (h.cells a).isSome then some (h.discard a) else none

@[simp] theorem malloc_cells (h : Heap α) (x : α) (b : Nat) :
    (h.malloc x).cells b = if b = h.limit then some x else h.cells b := rfl

@[simp] theorem discard_cells (h : Heap α) (a b : Nat) :
    (h.discard a).cells b = if b = a then none else h.cells b := rfl

theorem free_eq (h : Heap α) (present : h.cells a = some x) : h.free a = some (h.discard a) := by
  simp [free, present]

theorem free_absent (h : Heap α) (absent : h.cells a = none) : h.free a = none := by
  simp [free, absent]

theorem free_cases {h h' : Heap α} (freed : h.free a = some h') : (∃ x, h.cells a = some x) ∧ h' = h.discard a := by
  unfold free at freed
  split at freed
  next present =>
    cases freed
    exact ⟨Option.isSome_iff_exists.mp present, rfl⟩
  next => contradiction

theorem free_limit {h h' : Heap α} (freed : h.free a = some h') : h'.limit = h.limit := by
  obtain ⟨-, rfl⟩ := free_cases freed
  rfl

/-- A block that was released is not released again. -/
theorem free_once {h h' : Heap α} (freed : h.free a = some h') : h'.free a = none := by
  obtain ⟨-, rfl⟩ := free_cases freed
  exact free_absent _ (by simp)

theorem lt_limit (h : Heap α) (present : h.cells a = some x) : a < h.limit := by
  by_contra above
  simp [h.bounded a (by omega)] at present

theorem modify_eq (h : Heap α) (f : α → α) (present : h.cells a = some x) :
    ∃ h', h.modify a f = some h' ∧ (∀ b, h'.cells b = if b = a then some (f x) else h.cells b) ∧
      h'.limit = h.limit ∧ h'.released = h.released := by
  unfold modify
  split
  next absent => simp [present] at absent
  next y found =>
    cases present.symm.trans found
    exact ⟨_, rfl, fun _ => rfl, rfl, rfl⟩

theorem modify_frame {h h' : Heap α} (written : h.modify a f = some h') :
    h'.limit = h.limit ∧ h'.released = h.released := by
  unfold modify at written
  split at written
  next => contradiction
  next =>
    cases written
    exact ⟨rfl, rfl⟩

theorem eq_of {h h' : Heap α} (cells : ∀ b, h.cells b = h'.cells b) (limit : h.limit = h'.limit)
    (released : h.released = h'.released) : h = h' := by
  cases h
  cases h'
  simp only [mk.injEq] at *
  exact ⟨funext cells, limit, released⟩

theorem malloc_kept (h : Heap α) (x : α) (present : h.cells a = some y) : (h.malloc x).cells a = some y := by
  simp [Nat.ne_of_lt (h.lt_limit present), present]

/-- Allocating and writing an older block can be done in either order. -/
theorem malloc_modify {h h' : Heap α} (x : α) (written : h.modify a f = some h') :
    (h.malloc x).modify a f = some (h'.malloc x) := by
  cases present : h.cells a with
  | none =>
    unfold modify at written
    split at written <;> simp_all
  | some y =>
    obtain ⟨h₁, run, cells, limit, released⟩ := h.modify_eq f present
    obtain rfl : h₁ = h' := Option.some.inj (run.symm.trans written)
    obtain ⟨h₂, run', cells', limit', released'⟩ := (h.malloc x).modify_eq f (h.malloc_kept x present)
    rw [run']
    refine congrArg some (eq_of ?_ ?_ ?_)
    · intro b
      have apart := Nat.ne_of_lt (h.lt_limit present)
      by_cases same : b = a
      · subst same
        simp [cells', cells, limit, apart]
      · simp [cells', cells, limit, same]
    · simp [limit', malloc, limit]
    · simp [released', malloc, released]

theorem malloc_free {h h' : Heap α} (x : α) (freed : h.free a = some h') :
    (h.malloc x).free a = some (h'.malloc x) := by
  obtain ⟨⟨y, present⟩, rfl⟩ := free_cases freed
  rw [free_eq _ (h.malloc_kept x present)]
  refine congrArg some (eq_of ?_ rfl rfl)
  intro b
  have apart := Nat.ne_of_gt (h.lt_limit present)
  by_cases new : b = h.limit
  · simp [new, apart, discard]
  · simp [new, discard]

end Heap

variable {α : Type} [Linked α] {cells cells' : Nat → Option α}

/-- The pointer leads through exactly these cells to NULL. -/
def Chain (cells : Nat → Option α) : Pointer → List Nat → Prop
  | p, [] => p = none
  | p, a :: rest => p = some a ∧ ∃ x, cells a = some x ∧ Chain cells (Linked.next x) rest

/-- The addresses met by following links for at most the given number of cells. -/
def follow (cells : Nat → Option α) : Nat → Pointer → List Nat
  | 0, _ => []
  | _ + 1, none => []
  | n + 1, some a =>
    match cells a with
    | none => []
    | some x => a :: follow cells n (Linked.next x)

namespace Chain

theorem unique {l l' : List Nat} (first : Chain cells p l) (second : Chain cells p l') :
    l = l' := by
  induction l generalizing p l' with
  | nil =>
    cases l' with
    | nil => rfl
    | cons b rest => exact absurd (second.1.symm.trans first) (by simp)
  | cons a rest ih =>
    obtain ⟨rfl, x, here, tail⟩ := first
    cases l' with
    | nil => exact absurd (show some a = none from second) (by simp)
    | cons b rest' =>
      obtain ⟨same, y, there, tail'⟩ := second
      cases same
      cases here.symm.trans there
      rw [ih tail tail']

theorem cell (chain : Chain cells p l) (member : a ∈ l) : ∃ x, cells a = some x := by
  induction l generalizing p with
  | nil => simp at member
  | cons b rest ih =>
    obtain ⟨_, x, here, tail⟩ := chain
    rcases List.mem_cons.mp member with rfl | later
    · exact ⟨x, here⟩
    · exact ih tail later

/-- From any of its cells a chain continues as its own suffix. -/
theorem suffix (chain : Chain cells p (before ++ a :: after)) :
    ∃ x, cells a = some x ∧ Chain cells (Linked.next x) after := by
  induction before generalizing p with
  | nil => exact chain.2
  | cons b before ih =>
    obtain ⟨_, x, _, tail⟩ := chain
    exact ih tail

/-- A chain that returned to a cell would be as long as its own proper suffix. -/
theorem nodup (chain : Chain cells p l) : l.Nodup := by
  induction l generalizing p with
  | nil => exact List.nodup_nil
  | cons a rest ih =>
    obtain ⟨_, x, here, tail⟩ := chain
    refine List.nodup_cons.mpr ⟨?_, ih tail⟩
    intro again
    obtain ⟨before, after, rfl⟩ := List.append_of_mem again
    obtain ⟨y, there, tail'⟩ := suffix tail
    cases here.symm.trans there
    have same := congrArg List.length (unique tail tail')
    simp at same
    omega

theorem length_le (h : Heap α) (chain : Chain h.cells p l) : l.length ≤ h.limit := by
  have inside : l ⊆ List.range h.limit := by
    intro a member
    obtain ⟨x, present⟩ := chain.cell member
    exact List.mem_range.mpr (h.lt_limit present)
  simpa using (List.subperm_of_subset chain.nodup inside).length_le

theorem follow_eq (chain : Chain cells p l) (enough : l.length ≤ n) : follow cells n p = l := by
  induction l generalizing p n with
  | nil =>
    rw [show p = none from chain]
    cases n <;> rfl
  | cons a rest ih =>
    obtain ⟨rfl, x, here, tail⟩ := chain
    cases n with
    | zero => simp at enough
    | succ n => simp [follow, here, ih tail (by simpa using enough)]

/-- A chain depends on the links of its own cells only. -/
theorem same_links (chain : Chain cells p l)
    (links : ∀ a ∈ l, (cells' a).map Linked.next = (cells a).map Linked.next) :
    Chain cells' p l := by
  induction l generalizing p with
  | nil => exact chain
  | cons a rest ih =>
    obtain ⟨rfl, x, here, tail⟩ := chain
    have link := links a (by simp)
    rw [here] at link
    obtain ⟨y, there, same⟩ := Option.map_eq_some_iff.mp link
    exact ⟨rfl, y, there, same ▸ ih tail fun b member => links b (by simp [member])⟩

theorem frame (chain : Chain cells p l) (same : ∀ a ∈ l, cells' a = cells a) :
    Chain cells' p l :=
  chain.same_links fun a member => by rw [same a member]

/-- Rewriting the link of one cell replaces what follows it. -/
theorem relink (chain : Chain cells p (before ++ b :: after))
    (same : ∀ a ∈ before, cells' a = cells a) (link : cells' b = some y)
    (tail : Chain cells' (Linked.next y) rest) : Chain cells' p (before ++ b :: rest) := by
  induction before generalizing p with
  | nil => exact ⟨chain.1, y, link, tail⟩
  | cons a before ih =>
    obtain ⟨rfl, x, here, later⟩ := chain
    exact ⟨rfl, x, (same a (by simp)).trans here, ih later fun c member => same c (by simp [member])⟩

/-- When the link of one cell is moved past the cell `c` behind it, a chain from any
pointer goes on to NULL and misses `c` at most. -/
theorem skip (chain : Chain cells q l) (before : cells p = some x) (link : Linked.next x = some c)
    (skipped : cells c = some y) (written : cells' p = some x') (link' : Linked.next x' = Linked.next y)
    (same : ∀ b, b ≠ p → cells' b = cells b) :
    ∃ l', Chain cells' q l' ∧ l'.Sublist l ∧ ∀ a ∈ l, a ≠ c → a ∈ l' := by
  by_cases member : p ∈ l
  · obtain ⟨front, rest, rfl⟩ := List.append_of_mem member
    obtain ⟨z, there, behind⟩ := chain.suffix
    obtain rfl : x = z := Option.some.inj (before.symm.trans there)
    rw [link] at behind
    have distinct := chain.nodup
    obtain ⟨-, tailDistinct, apart⟩ := List.nodup_append.mp distinct
    cases rest with
    | nil => exact absurd (show some c = none from behind) (by simp)
    | cons d after =>
      obtain ⟨first, w, present, tail⟩ := behind
      obtain rfl : c = d := Option.some.inj first
      obtain rfl : y = w := Option.some.inj (skipped.symm.trans present)
      have later : p ∉ c :: after := (List.nodup_cons.mp tailDistinct).1
      have frontSame : ∀ b ∈ front, cells' b = cells b := fun b inFront => same b (apart b inFront p (by simp))
      have tailSame : ∀ b ∈ after, cells' b = cells b := by
        intro b inAfter
        apply same b
        rintro rfl
        exact later (by simp [inAfter])
      have tail' : Chain cells' (Linked.next x') after := link' ▸ tail.frame tailSame
      refine ⟨front ++ p :: after, chain.relink frontSame written tail', ?_, ?_⟩
      · exact (List.Sublist.refl front).append ((List.sublist_cons_self c after).cons_cons p)
      · intro a inside other
        simp only [List.mem_append, List.mem_cons] at inside ⊢
        rcases inside with early | here | here | late
        · exact .inl early
        · exact .inr (.inl here)
        · exact absurd here other
        · exact .inr (.inr late)
  · refine ⟨l, chain.frame fun b inside => same b ?_, List.Sublist.refl l, fun a inside _ => inside⟩
    rintro rfl
    exact member inside

end Chain

/-- Where a search loop stands: the cell under the pointer, the trailing pointer,
and how many cells were passed. -/
structure Cursor where
  entry : Pointer
  prev : Pointer
  idx : Nat
  deriving DecidableEq, Repr

/-- `while (entry != NULL) { if (hit) stop; prev = entry; entry = prev->next; ++idx; }`.
No result when a link dangles or the fuel runs out. -/
def seek (cells : Nat → Option α) (hit : α → Bool) : Nat → Cursor → Option Cursor
  | 0, _ => none
  | _ + 1, ⟨none, prev, idx⟩ => some ⟨none, prev, idx⟩
  | fuel + 1, ⟨some a, prev, idx⟩ =>
    match cells a with
    | none => none
    | some x =>
      if hit x then some ⟨some a, prev, idx⟩
      else seek cells hit fuel ⟨Linked.next x, some a, idx + 1⟩

def Misses (cells : Nat → Option α) (hit : α → Bool) (l : List Nat) : Prop :=
  ∀ a ∈ l, ∀ x, cells a = some x → hit x = false

omit [Linked α] in
theorem Misses.cons {hit : α → Bool} (first : ∀ x, cells a = some x → hit x = false)
    (rest : Misses cells hit l) : Misses cells hit (a :: l) := by
  intro b member x there
  rcases List.mem_cons.mp member with rfl | later
  · exact first x there
  · exact rest b later x there

/-- The search stops at the first hit, or after the last cell. -/
theorem seek_chain (hit : α → Bool) (chain : Chain cells p l) (enough : l.length < fuel)
    (prev : Pointer) (idx : Nat) :
    (∃ before a x after, l = before ++ a :: after ∧ Misses cells hit before ∧
      cells a = some x ∧ hit x = true ∧
      seek cells hit fuel ⟨p, prev, idx⟩ =
        some ⟨some a, before.getLast?.or prev, idx + before.length⟩) ∨
    (Misses cells hit l ∧
      seek cells hit fuel ⟨p, prev, idx⟩ = some ⟨none, l.getLast?.or prev, idx + l.length⟩) := by
  induction l generalizing p fuel prev idx with
  | nil =>
    obtain ⟨fuel, rfl⟩ := Nat.exists_eq_succ_of_ne_zero (Nat.ne_of_gt enough)
    rw [show p = none from chain]
    exact .inr ⟨by simp [Misses], by simp [seek]⟩
  | cons a rest ih =>
    obtain ⟨rfl, x, here, tail⟩ := chain
    obtain ⟨fuel, rfl⟩ := Nat.exists_eq_succ_of_ne_zero (Nat.ne_of_gt (Nat.zero_lt_of_lt enough))
    by_cases found : hit x = true
    · exact .inl ⟨[], a, x, rest, rfl, by simp [Misses], here, found, by simp [seek, here, found]⟩
    · have miss : hit x = false := by simpa using found
      have missHere : ∀ y, cells a = some y → hit y = false := by
        intro y there
        cases here.symm.trans there
        exact miss
      have advance : seek cells hit (fuel + 1) ⟨some a, prev, idx⟩ =
          seek cells hit fuel ⟨Linked.next x, some a, idx + 1⟩ := by simp [seek, here, miss]
      rcases ih tail (by simpa using enough) (some a) (idx + 1) with
        ⟨before, b, y, after, split, missed, there, hitHere, run⟩ | ⟨missed, run⟩
      · refine .inl ⟨a :: before, b, y, after, by simp [split], .cons missHere missed, there, hitHere, ?_⟩
        rw [advance, run]
        cases before <;> simp [List.getLast?_cons]; omega
      · refine .inr ⟨.cons missHere missed, ?_⟩
        rw [advance, run]
        cases rest <;> simp [List.getLast?_cons]; omega

/-- `while (ptr != NULL) { visit; ptr = ptr->next; }` over a state that holds the cells. -/
def each (cells : σ → Nat → Option α) (visit : σ → Nat → Option σ) :
    Nat → σ → Pointer → Option σ
  | 0, _, _ => none
  | _ + 1, s, none => some s
  | fuel + 1, s, some a =>
    match visit s a with
    | none => none
    | some s' =>
      match cells s' a with
      | none => none
      | some x => each cells visit fuel s' (Linked.next x)

/-- Along a chain whose links the visits leave alone, the loop is a fold over the
chain's addresses. -/
theorem each_chain (cells : σ → Nat → Option α) (visit : σ → Nat → Option σ)
    (links : ∀ s a s', visit s a = some s' →
      ∀ b, (cells s' b).map Linked.next = (cells s b).map Linked.next)
    (chain : Chain (cells s) p l) (enough : l.length < fuel) :
    each cells visit fuel s p = l.foldlM visit s := by
  induction l generalizing p fuel s with
  | nil =>
    obtain ⟨fuel, rfl⟩ := Nat.exists_eq_succ_of_ne_zero (Nat.ne_of_gt enough)
    rw [show p = none from chain]
    rfl
  | cons a rest ih =>
    obtain ⟨rfl, x, here, tail⟩ := chain
    obtain ⟨fuel, rfl⟩ := Nat.exists_eq_succ_of_ne_zero (Nat.ne_of_gt (Nat.zero_lt_of_lt enough))
    cases visited : visit s a with
    | none => simp [each, visited]
    | some s' =>
      have link := links s a s' visited a
      rw [here] at link
      obtain ⟨y, there, same⟩ := Option.map_eq_some_iff.mp link
      have rest' : Chain (cells s') (Linked.next y) rest :=
        same ▸ tail.same_links fun b _ => links s a s' visited b
      simp [each, visited, there, ih rest' (by simpa using enough)]

end LinkedHeap
