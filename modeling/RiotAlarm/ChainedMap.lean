import Mathlib.Logic.Function.Basic
import Mathlib.Data.List.Nodup

/-! Separate chaining in the abstract: a family of association lists indexed by
slots refines a partial function from keys to values, for any slot function. -/
namespace ChainedMap

abbrev Buckets (κ ν ι : Type) := ι → List (κ × ν)

variable {κ ν ι : Type} [DecidableEq κ] {slot : κ → ι} {B : Buckets κ ν ι}

/-- The partial function that the buckets stand for. -/
def lookup (slot : κ → ι) (B : Buckets κ ν ι) (k : κ) : Option ν := (B (slot k)).lookup k

def append [DecidableEq ι] (slot : κ → ι) (B : Buckets κ ν ι) (k : κ) (v : ν) : Buckets κ ν ι :=
  Function.update B (slot k) (B (slot k) ++ [(k,v)])

def erase [DecidableEq ι] (slot : κ → ι) (B : Buckets κ ν ι) (k : κ) : Buckets κ ν ι :=
  Function.update B (slot k) ((B (slot k)).filter fun entry => entry.1 ≠ k)

/-- Changes values in place, in every bucket. -/
def adjust (B : Buckets κ ν ι) (f : κ → ν → ν) : Buckets κ ν ι :=
  fun i => (B i).map fun entry => (entry.1, f entry.1 entry.2)

/-- Every key sits in the bucket of its own slot, once. -/
structure Placed (slot : κ → ι) (B : Buckets κ ν ι) : Prop where
  hashed : ∀ i, ∀ entry ∈ B i, slot entry.1 = i
  distinct : ∀ i, ((B i).map Prod.fst).Nodup

theorem lookup_eq_none : lookup slot B k = none ↔ k ∉ (B (slot k)).map Prod.fst := by
  simp only [lookup, List.lookup_eq_none_iff, List.mem_map, not_exists, not_and, bne_iff_ne]
  exact ⟨fun h entry member same => h entry member same.symm,
    fun h entry member same => h entry member same.symm⟩

theorem lookup_cons_ne {entry : κ × ν} {l : List (κ × ν)} (differ : k ≠ entry.1) :
    (entry :: l).lookup k = l.lookup k := by
  rw [List.lookup_cons, beq_eq_false_iff_ne.mpr differ]

theorem lookup_of_mem {l : List (κ × ν)} (distinct : (l.map Prod.fst).Nodup) (member : (k,v) ∈ l) :
    l.lookup k = some v := by
  induction l with
  | nil => simp at member
  | cons entry rest ih =>
    obtain ⟨k',v'⟩ := entry
    obtain ⟨absent, distinct⟩ := List.nodup_cons.mp distinct
    rcases List.mem_cons.mp member with same | later
    · cases same; simp
    · have differ : k ≠ k' := by
        rintro rfl
        exact absent (List.mem_map.mpr ⟨_, later, rfl⟩)
      rw [lookup_cons_ne differ, ih distinct later]

theorem mem_of_lookup {l : List (κ × ν)} (found : l.lookup k = some v) : (k,v) ∈ l := by
  induction l with
  | nil => simp at found
  | cons entry rest ih =>
    rw [List.lookup_cons] at found
    split at found
    next same => cases found; simp [beq_iff_eq.mp same]
    next => exact List.mem_cons_of_mem _ (ih found)

/-- Membership in a bucket is membership in the map's graph. -/
theorem Placed.mem_iff (placed : Placed slot B) :
    (k,v) ∈ B i ↔ i = slot k ∧ lookup slot B k = some v := by
  constructor
  · intro member
    have here := placed.hashed i _ member
    subst here
    exact ⟨rfl, lookup_of_mem (placed.distinct _) member⟩
  · rintro ⟨rfl, found⟩
    exact mem_of_lookup found

section ops
variable [DecidableEq ι]

theorem lookup_append (k : κ) (v : ν) (absent : lookup slot B k = none) :
    lookup slot (append slot B k v) = Function.update (lookup slot B) k (some v) := by
  funext other
  by_cases same : other = k
  · subst same
    have none : (B (slot other)).lookup other = none := absent
    simp [lookup, append, List.lookup_append, none]
  · rw [Function.update_of_ne same]
    by_cases slots : slot other = slot k
    · have skip : List.lookup other [(k,v)] = none := lookup_cons_ne same
      simp [lookup, append, slots, List.lookup_append, skip]
    · simp [lookup, append, Function.update_of_ne slots]

omit [DecidableEq ι] in
theorem lookup_filter_ne {l : List (κ × ν)} (k other : κ) :
    (l.filter fun entry => entry.1 ≠ k).lookup other = if other = k then none else l.lookup other := by
  induction l with
  | nil => simp
  | cons entry rest ih =>
    by_cases drop : entry.1 = k
    · rw [List.filter_cons_of_neg (by simpa using drop), ih]
      by_cases same : other = k
      · simp [same]
      · rw [lookup_cons_ne (drop ▸ same)]
    · rw [List.filter_cons_of_pos (by simpa using drop)]
      by_cases here : other = entry.1
      · obtain ⟨k',v'⟩ := entry
        subst here
        simp only [List.lookup_cons_self, if_neg drop]
      · rw [lookup_cons_ne here, lookup_cons_ne here, ih]

theorem lookup_erase (B : Buckets κ ν ι) (k : κ) :
    lookup slot (erase slot B k) = Function.update (lookup slot B) k none := by
  funext other
  by_cases slots : slot other = slot k
  · rw [lookup, erase, slots, Function.update_self, lookup_filter_ne]
    by_cases same : other = k
    · simp [same]
    · simp [same, lookup, slots]
  · have differ : other ≠ k := fun same => slots (congrArg slot same)
    simp [lookup, erase, Function.update_of_ne slots, Function.update_of_ne differ]

omit [DecidableEq ι] in
theorem filter_ne_absent {l : List (κ × ν)} (absent : k ∉ l.map Prod.fst) :
    (l.filter fun entry => entry.1 ≠ k) = l := by
  apply List.filter_eq_self.mpr
  intro entry member
  have differ : entry.1 ≠ k := fun same => absent (same ▸ List.mem_map_of_mem member)
  simpa using differ

/-- Erasing a key that occurs once takes out that one entry. -/
theorem filter_ne_once {before after : List (κ × ν)}
    (distinct : ((before ++ (k,v) :: after).map Prod.fst).Nodup) :
    ((before ++ (k,v) :: after).filter fun entry => entry.1 ≠ k) = before ++ after := by
  rw [List.map_append, List.map_cons] at distinct
  obtain ⟨_, tail, apart⟩ := List.nodup_append.mp distinct
  have front : k ∉ before.map Prod.fst := fun member => apart k member k (by simp) rfl
  have back : k ∉ after.map Prod.fst := (List.nodup_cons.mp tail).1
  rw [List.filter_append, filter_ne_absent front, List.filter_cons_of_neg (by simp),
    filter_ne_absent back]

theorem erase_absent (absent : lookup slot B k = none) : erase slot B k = B := by
  rw [erase, filter_ne_absent (lookup_eq_none.mp absent), Function.update_eq_self]

omit [DecidableEq ι] in
theorem lookup_adjust (B : Buckets κ ν ι) (f : κ → ν → ν) (k : κ) :
    lookup slot (adjust B f) k = (lookup slot B k).map (f k) := by
  simp only [lookup, adjust]
  induction B (slot k) with
  | nil => simp
  | cons entry rest ih =>
    obtain ⟨k',v⟩ := entry
    rw [List.map_cons, List.lookup_cons, List.lookup_cons, ih]
    cases hit : k == k' with
    | true => rw [beq_iff_eq.mp hit]; rfl
    | false => rfl

theorem Placed.append (placed : Placed slot B) (k : κ) (v : ν) (absent : lookup slot B k = none) :
    Placed slot (append slot B k v) where
  hashed i entry member := by
    by_cases here : i = slot k
    · subst here
      simp only [ChainedMap.append, Function.update_self, List.mem_append, List.mem_singleton] at member
      rcases member with old | rfl
      · exact placed.hashed _ _ old
      · rfl
    · exact placed.hashed i entry (by simpa [ChainedMap.append, Function.update_of_ne here] using member)
  distinct i := by
    by_cases here : i = slot k
    · subst here
      have fresh := lookup_eq_none.mp absent
      simp only [ChainedMap.append, Function.update_self, List.map_append, List.map_cons, List.map_nil]
      exact List.nodup_append.mpr ⟨placed.distinct _, by simp,
        by
          intro a old b new same
          rw [List.mem_singleton.mp new] at same
          exact fresh (same ▸ old)⟩
    · simpa [ChainedMap.append, Function.update_of_ne here] using placed.distinct i

theorem Placed.erase (placed : Placed slot B) (k : κ) : Placed slot (erase slot B k) where
  hashed i entry member := by
    by_cases here : i = slot k
    · subst here
      simp only [ChainedMap.erase, Function.update_self, List.mem_filter] at member
      exact placed.hashed _ _ member.1
    · exact placed.hashed i entry (by simpa [ChainedMap.erase, Function.update_of_ne here] using member)
  distinct i := by
    by_cases here : i = slot k
    · subst here
      simp only [ChainedMap.erase, Function.update_self]
      exact (placed.distinct _).sublist (List.filter_sublist.map _)
    · simpa [ChainedMap.erase, Function.update_of_ne here] using placed.distinct i

end ops

omit [DecidableEq κ] in
theorem Placed.adjust (placed : Placed slot B) (f : κ → ν → ν) : Placed slot (adjust B f) where
  hashed i entry member := by
    obtain ⟨old, there, rfl⟩ := List.mem_map.mp member
    exact placed.hashed i old there
  distinct i := by
    have keys : (ChainedMap.adjust B f i).map Prod.fst = (B i).map Prod.fst := by
      simp [ChainedMap.adjust, Function.comp_def]
    rw [keys]
    exact placed.distinct i

end ChainedMap
