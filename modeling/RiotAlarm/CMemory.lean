import Mathlib.Data.List.TakeWhile
import Mathlib.Data.Stream.Init

/-! Bytes of C memory. A string is what stands before the terminator: in memory without
an end, where reading always comes to some byte, and in a block of known size, where the
terminator may be missing. With the string functions that write such blocks. -/
namespace CMemory

/-- The string starts here: its characters, then the terminator. -/
def Spells (memory : Stream' UInt8) (s : List UInt8) : Prop := ∃ rest, memory = s ++ₛ Stream'.cons 0 rest

/-- `strcmp` of what stands in memory with a terminated string: the first difference, with
the terminator as the last byte to compare. -/
def compareAt : Stream' UInt8 → List UInt8 → Int
  | memory, [] => memory.head.toNat
  | memory, b :: bs => if memory.head = b then compareAt memory.tail bs else memory.head.toNat - b.toNat

theorem spells_nil (memory : Stream' UInt8) : Spells memory [] ↔ memory.head = 0 := by
  constructor
  · rintro ⟨rest, rfl⟩
    rfl
  · intro zero
    exact ⟨memory.tail, by rw [Stream'.nil_append_stream, ← zero, Stream'.eta]⟩

theorem spells_cons (memory : Stream' UInt8) (b : UInt8) (bs : List UInt8) :
    Spells memory (b :: bs) ↔ memory.head = b ∧ Spells memory.tail bs := by
  constructor
  · rintro ⟨rest, rfl⟩
    exact ⟨rfl, rest, rfl⟩
  · rintro ⟨same, rest, tail⟩
    exact ⟨rest, by rw [Stream'.cons_append_stream, ← tail, ← same, Stream'.eta]⟩

theorem compareAt_eq_zero (memory : Stream' UInt8) (s : List UInt8) :
    compareAt memory s = 0 ↔ Spells memory s := by
  induction s generalizing memory with
  | nil =>
    rw [spells_nil, compareAt, ← UInt8.toNat_inj]
    simp
  | cons b bs ih =>
    rw [spells_cons, compareAt]
    split
    next same => simp [same, ih]
    next differ =>
      have apart : memory.head.toNat ≠ b.toNat := fun equal => differ (UInt8.toNat_inj.mp equal)
      simp only [differ, false_and, iff_false]
      omega

theorem Spells.unique (first : Spells memory s) (second : Spells memory t) (hs : 0 ∉ s) (ht : 0 ∉ t) :
    s = t := by
  induction s generalizing memory t with
  | nil =>
    cases t with
    | nil => rfl
    | cons b bs =>
      have zero := (spells_nil memory).mp first
      have head := ((spells_cons memory b bs).mp second).1
      simp [← head, zero] at ht
  | cons a as ih =>
    obtain ⟨head, tail⟩ := (spells_cons memory a as).mp first
    cases t with
    | nil =>
      have zero := (spells_nil memory).mp second
      simp [← head, zero] at hs
    | cons b bs =>
      obtain ⟨head', tail'⟩ := (spells_cons memory b bs).mp second
      obtain rfl : a = b := head.symm.trans head'
      rw [ih tail tail' (by simp at hs; exact hs.2) (by simp at ht; exact ht.2)]

theorem spells_append (s t : List UInt8) (memory : Stream' UInt8) :
    Spells (s ++ₛ memory) (s ++ t) ↔ Spells memory t := by
  induction s with
  | nil => rfl
  | cons b bs ih =>
    rw [Stream'.cons_append_stream, List.cons_append, spells_cons]
    simpa using ih

/-- What is read where a piece of a string stands begins with the piece. -/
theorem Spells.prefix_of_plain (spelled : Spells (s ++ₛ memory) t) (plain : 0 ∉ s) : s <+: t := by
  induction s generalizing t with
  | nil => exact List.nil_prefix
  | cons b bs ih =>
    rw [Stream'.cons_append_stream] at spelled
    cases t with
    | nil =>
      have zero : b = 0 := (spells_nil _).mp spelled
      simp [zero] at plain
    | cons c cs =>
      obtain ⟨head, tail⟩ := (spells_cons _ c cs).mp spelled
      have same : b = c := head
      rw [same]
      exact List.cons_prefix_cons.mpr ⟨rfl, ih tail fun member => plain (List.mem_cons_of_mem b member)⟩

/-- The first bytes of a string and its terminator, with other memory behind them: the
string is still there if the terminator is among them, or what follows completes it. -/
theorem cut_spells (s : List UInt8) (n : Nat) (beyond rest : Stream' UInt8) :
    Spells ((s ++ₛ Stream'.cons 0 beyond).take n ++ₛ rest) s ↔ s.length < n ∨ n ≤ s.length ∧ Spells rest (s.drop n) := by
  by_cases short : s.length < n
  · have whole : Spells ((s ++ₛ Stream'.cons 0 beyond).take n ++ₛ rest) s := by
      obtain ⟨k, rfl⟩ := Nat.exists_eq_add_of_lt short
      have cut : (s ++ₛ Stream'.cons 0 beyond).take (s.length + k + 1) = s ++ 0 :: beyond.take k := by
        rw [Nat.add_assoc, ← Stream'.append_take, Stream'.take_succ, Stream'.head_cons, Stream'.tail_cons]
      exact ⟨beyond.take k ++ₛ rest, by rw [cut, Stream'.append_append_stream, Stream'.cons_append_stream]⟩
    simp [short, whole]
  · have long : n ≤ s.length := by omega
    have cut : (s ++ₛ Stream'.cons 0 beyond).take n = s.take n := Stream'.take_append_of_le_length _ _ _ long
    have split := spells_append (s.take n) (s.drop n) rest
    rw [List.take_append_drop] at split
    rw [cut, split]
    simp [short, long]

/-! Blocks of known size. -/

/-- What stands in the block before the first terminator, or all of it. -/
def text (block : List UInt8) : List UInt8 := block.takeWhile (· ≠ 0)

/-- The block after `strcpy` to its beginning. A string that does not fit makes it longer:
these bytes have been written behind it. -/
def strcpy (block s : List UInt8) : List UInt8 := s ++ 0 :: block.drop (s.length + 1)

/-- The `n` bytes that `strncpy` writes: padded with zeros, or cut without a terminator. -/
def strncpy (s : List UInt8) (n : Nat) : List UInt8 := (s ++ List.replicate n 0).take n

theorem zero_notMem_text (block : List UInt8) : 0 ∉ text block := by
  intro member
  have nonzero := List.mem_takeWhile_imp member
  simp at nonzero

theorem text_append (s block : List UInt8) (plain : 0 ∉ s) : text (s ++ block) = s ++ text block := by
  apply List.takeWhile_append_of_pos
  intro b member
  have nonzero : b ≠ 0 := fun zero => plain (zero ▸ member)
  simpa using nonzero

theorem text_terminated (s block : List UInt8) (plain : 0 ∉ s) : text (s ++ 0 :: block) = s := by
  rw [text_append s _ plain]
  simp [text]

theorem text_of_plain (s : List UInt8) (plain : 0 ∉ s) : text s = s := by
  have whole := text_append s [] plain
  simpa [text] using whole

theorem text_append_of_mem (block other : List UInt8) (ended : 0 ∈ block) : text (block ++ other) = text block := by
  obtain ⟨s, rest, rfl, plain⟩ := List.eq_append_cons_of_mem ended
  rw [List.append_assoc, List.cons_append, text_terminated s _ plain, text_terminated s _ plain]

theorem length_strcpy (block s : List UInt8) (fits : s.length < block.length) :
    (strcpy block s).length = block.length := by
  simp only [strcpy, List.length_append, List.length_cons, List.length_drop]
  omega

/-- The bytes behind the terminator stay what they were. -/
theorem drop_strcpy (block s : List UInt8) (behind : s.length < n) : (strcpy block s).drop n = block.drop n := by
  obtain ⟨k, rfl⟩ := Nat.exists_eq_add_of_lt behind
  have past : s.length + k + 1 - s.length = k + 1 := by omega
  have index : s.length + 1 + k = s.length + k + 1 := by omega
  rw [strcpy, List.drop_append, List.drop_of_length_le (by omega), past, List.drop_succ_cons, List.drop_drop, index,
    List.nil_append]

/-- A field at the beginning of the block keeps the terminator if it is larger than the string. -/
theorem zero_mem_field (block s : List UInt8) (plain : 0 ∉ s) : 0 ∈ (strcpy block s).take n ↔ s.length < n := by
  rw [strcpy, List.take_append]
  constructor
  · intro member
    rcases List.mem_append.mp member with inside | behind
    · exact absurd (List.mem_of_mem_take inside) plain
    · by_contra large
      have none : n - s.length = 0 := by omega
      simp [none] at behind
  · intro fits
    obtain ⟨k, rfl⟩ := Nat.exists_eq_add_of_lt fits
    have past : s.length + k + 1 - s.length = k + 1 := by omega
    simp [past]

theorem text_field (block s : List UInt8) (plain : 0 ∉ s) (fits : s.length < n) :
    text ((strcpy block s).take n) = s := by
  obtain ⟨k, rfl⟩ := Nat.exists_eq_add_of_lt fits
  have past : s.length + k + 1 - s.length = k + 1 := by omega
  rw [strcpy, List.take_append, List.take_of_length_le (by omega), past, List.take_succ_cons]
  exact text_terminated s _ plain

theorem length_strncpy (s : List UInt8) (n : Nat) : (strncpy s n).length = n := by
  simp [strncpy]

/-- A string that leaves room in the field is padded with at least one terminator. -/
theorem strncpy_short (s : List UInt8) (fits : s.length < n) :
    ∃ k, strncpy s n = s ++ 0 :: List.replicate k 0 := by
  obtain ⟨k, rfl⟩ := Nat.exists_eq_add_of_lt fits
  have past : s.length + k + 1 - s.length = k + 1 := by omega
  refine ⟨k, ?_⟩
  rw [strncpy, List.take_append, List.take_of_length_le (by omega), past, List.take_replicate,
    Nat.min_eq_left (by omega), List.replicate_succ]

/-- A string that fills the field is cut to it. -/
theorem strncpy_long (s : List UInt8) (full : n ≤ s.length) : strncpy s n = s.take n := by
  rw [strncpy, List.take_append, Nat.sub_eq_zero_of_le full, List.take_zero, List.append_nil]

theorem zero_mem_strncpy (s : List UInt8) (plain : 0 ∉ s) : 0 ∈ strncpy s n ↔ s.length < n := by
  constructor
  · intro member
    by_contra large
    rw [strncpy_long s (by omega)] at member
    exact plain (List.mem_of_mem_take member)
  · intro fits
    obtain ⟨k, padded⟩ := strncpy_short s fits
    simp [padded]

theorem text_strncpy (s other : List UInt8) (plain : 0 ∉ s) (fits : s.length < n) :
    text (strncpy s n ++ other) = s := by
  obtain ⟨k, padded⟩ := strncpy_short s fits
  rw [padded, List.append_assoc, List.cons_append, text_terminated s _ plain]

/-- What is read of a cut string goes on in the memory behind the field. -/
theorem text_strncpy_long (s other : List UInt8) (plain : 0 ∉ s) (full : n ≤ s.length) :
    text (strncpy s n ++ other) = s.take n ++ text other := by
  rw [strncpy_long s full, text_append _ _ fun member => plain (List.mem_of_mem_take member)]

/-- The block after `memcpy` to a position in it, if the bytes stay in the block. -/
def memcpy (block : List UInt8) (position : Nat) (bytes : List UInt8) : Option (List UInt8) :=
  if position + bytes.length ≤ block.length then
    some (block.take position ++ bytes ++ block.drop (position + bytes.length))
  else none

/-- Outside the bytes written the block stays what it was. -/
theorem memcpy_frame (copied : memcpy block position bytes = some out)
    (outside : i < position ∨ position + bytes.length ≤ i) : out[i]? = block[i]? := by
  simp only [memcpy, Option.ite_none_right_eq_some, Option.some.injEq] at copied
  obtain ⟨inside, rfl⟩ := copied
  have front : (block.take position).length = position := by
    rw [List.length_take]
    omega
  rcases outside with before | behind
  · rw [List.append_assoc, List.getElem?_append_left (by omega), List.getElem?_take_of_lt before]
  · rw [List.getElem?_append_right (by simp only [List.length_append, front]; omega), List.getElem?_drop]
    congr 1
    simp only [List.length_append, front]
    omega

end CMemory
