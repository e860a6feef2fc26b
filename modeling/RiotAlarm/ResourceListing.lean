import Mathlib
import RiotAlarm.CMemory
import RiotAlarm.Types

/-! The listing of a program's resources: `_encode_link` with its table of link parameters,
which is the same in the three programs, beside tables of resources that are not. -/
namespace RiotAlarm.Listing

open CMemory

/-- The programs with a CoAP listener. Both sensors have the same. -/
inductive Program where
  | gateway
  | actuator
  | sensor
  deriving DecidableEq

/-- "/actuator/register" -/
def ACTUATOR_REGISTER : CString :=
  ⟨[47, 97, 99, 116, 117, 97, 116, 111, 114, 47, 114, 101, 103, 105, 115, 116, 101, 114], by decide⟩

/-- "/sensor/register" -/
def SENSOR_REGISTER : CString :=
  ⟨[47, 115, 101, 110, 115, 111, 114, 47, 114, 101, 103, 105, 115, 116, 101, 114], by decide⟩

/-- "/sensor/status" -/
def SENSOR_STATUS : CString := ⟨[47, 115, 101, 110, 115, 111, 114, 47, 115, 116, 97, 116, 117, 115], by decide⟩

/-- "/sensor/tap" -/
def SENSOR_TAP : CString := ⟨[47, 115, 101, 110, 115, 111, 114, 47, 116, 97, 112], by decide⟩

/-- "/actuator/beep" -/
def ACTUATOR_BEEP : CString := ⟨[47, 97, 99, 116, 117, 97, 116, 111, 114, 47, 98, 101, 101, 112], by decide⟩

/-- "/register" -/
def REGISTER : CString := ⟨[47, 114, 101, 103, 105, 115, 116, 101, 114], by decide⟩

/-- `_resources`, by their paths. -/
def Program.resources : Program → List CString
  | .gateway => [ACTUATOR_REGISTER,SENSOR_REGISTER,SENSOR_STATUS,SENSOR_TAP]
  | .actuator => [ACTUATOR_BEEP,REGISTER]
  | .sensor => [REGISTER]

/-- ";ct=0;rt=\"count\";obs" -/
def COUNT_PARAMS : CString :=
  ⟨[59, 99, 116, 61, 48, 59, 114, 116, 61, 34, 99, 111, 117, 110, 116, 34, 59, 111, 98, 115], by decide⟩

/-- `_link_params`. -/
def Program.linkParams : Program → List (Option CString)
  | .gateway | .actuator | .sensor => [some COUNT_PARAMS,none]

/-- `gcoap_encode_link`: the length it returns and the block behind `buf` as it leaves it. -/
abbrev Encoder := CString → Option (List UInt8) → UInt32 → Int32 × Option (List UInt8)

/-- `_encode_link` with a table of link parameters: undefined where it reads behind the table
or writes behind the block. `maxlen - res` and the sum are those of `size_t`. -/
def encodeLink (linkParams : List (Option CString)) (gcoapEncodeLink : Encoder) (resource : CString)
    (buf : Option (List UInt8)) (maxlen : UInt32) (linkPos : Nat) : Option (Int32 × Option (List UInt8)) :=
  let (res,buf) := gcoapEncodeLink resource buf maxlen
  if res > 0 then
    match linkParams[linkPos]? with
    | none => none
    | some none => some (res,buf)
    | some (some params) =>
      if .ofNat (strlen params) < maxlen - res.toUInt32 then
        let length := (res.toUInt32 + .ofNat (strlen params)).toInt32
        match buf with
        | none => some (length,none)
        | some block => (memcpy block res.toUInt32.toNat params.chars).map fun block => (length,some block)
      else some (res,buf)
  else some (res,buf)

/-- Both passes of the stack's encoder over one resource: the sizing pass returns the same
length, the other leaves the block as `out`, and the link is within `maxlen`. -/
structure Encoded (gcoapEncodeLink : Encoder) (resource : CString) (block out : List UInt8)
    (maxlen : UInt32) (res : Int32) : Prop where
  sized : gcoapEncodeLink resource none maxlen = (res,none)
  written : gcoapEncodeLink resource (some block) maxlen = (res,some out)
  positive : 0 < res
  fits : res.toInt ≤ maxlen.toNat
  room : maxlen.toNat ≤ out.length

/-- What a listing may do: it stays within its table and its buffer, appends the parameters
whole or not at all, and takes as much room as the sizing pass has found. -/
structure Listed (linkParams : List (Option CString)) (gcoapEncodeLink : Encoder) (resource : CString)
    (block out : List UInt8) (maxlen : UInt32) (linkPos : Nat) (res length : Int32) (listing : List UInt8) :
    Prop where
  inTable : linkPos < linkParams.length
  sizing : encodeLink linkParams gcoapEncodeLink resource none maxlen linkPos = some (length,none)
  writing : encodeLink linkParams gcoapEncodeLink resource (some block) maxlen linkPos = some (length,some listing)
  nonneg : 0 ≤ length
  bounded : length.toInt ≤ maxlen.toNat
  outside : ∀ i : Nat, i < res.toInt ∨ length.toInt ≤ i → listing[i]? = out[i]?
  whole : (length = res ∧ listing = out) ∨ ∃ params, linkParams[linkPos]? = some (some params) ∧
    length.toInt = res.toInt + strlen params ∧
    listing = out.take res.toInt.toNat ++ params.chars ++ out.drop (res.toInt.toNat + strlen params)

/-! Conversions between the two kinds of length. -/

theorem toNat_toUInt32 (res : Int32) (positive : 0 < res) : (res.toUInt32.toNat : Int) = res.toInt := by
  have nonneg : 0 ≤ res.toInt := Int.le_of_lt (by simpa [Int32.lt_iff_toInt_lt] using positive)
  rw [Int32.toNat_toUInt32_of_le (by simpa [Int32.le_iff_toInt_le] using nonneg), Int32.toNatClampNeg,
    Int.toNat_of_nonneg nonneg]

theorem toInt_toInt32 (length : UInt32) :
    length.toInt32.toInt = if length.toNat < 2 ^ 31 then (length.toNat : Int) else length.toNat - 2 ^ 32 := by
  change length.toBitVec.toInt = _
  rw [BitVec.toInt_eq_toNat_cond]
  change (if 2 * length.toNat < 2 ^ 32 then (length.toNat : Int) else length.toNat - 2 ^ 32) = _
  split <;> split <;> omega

/-- The comparison in `size_t` is the exact one as long as the link is within `maxlen`. -/
theorem append_lt_iff {res : Int32} {maxlen : UInt32} (positive : 0 < res) (fits : res.toInt ≤ maxlen.toNat)
    (small : n < 2 ^ 32) : UInt32.ofNat n < maxlen - res.toUInt32 ↔ res.toInt + n < maxlen.toNat := by
  have converted := toNat_toUInt32 res positive
  have within : res.toUInt32 ≤ maxlen := UInt32.le_iff_toNat_le.mpr (by omega)
  rw [UInt32.lt_iff_toNat_lt, UInt32.toNat_sub_of_le _ _ within, UInt32.toNat_ofNat', Nat.mod_eq_of_lt small]
  omega

/-- The sum is exact as long as it fits into an `ssize_t`, else it is negative. -/
theorem toInt_appended {res : Int32} {maxlen : UInt32} {n : Nat} (positive : 0 < res)
    (append : res.toInt + n < maxlen.toNat) :
    (res.toUInt32 + .ofNat n).toInt32.toInt =
      if res.toInt + n < 2 ^ 31 then res.toInt + n else res.toInt + n - 2 ^ 32 := by
  have converted := toNat_toUInt32 res positive
  have bounded := maxlen.toNat_lt
  have sum : (res.toUInt32 + .ofNat n).toNat = res.toUInt32.toNat + n := by
    rw [UInt32.toNat_add, UInt32.toNat_ofNat', Nat.mod_eq_of_lt (by omega : n < 2 ^ 32), Nat.mod_eq_of_lt (by omega)]
  rw [toInt_toInt32, sum]
  split <;> split <;> omega

section

variable {linkParams : List (Option CString)} {gcoapEncodeLink : Encoder} {resource : CString}
  {buf buf' : Option (List UInt8)} {block out : List UInt8} {maxlen : UInt32} {linkPos : Nat} {res : Int32}

theorem encodeLink_bare (encoded : gcoapEncodeLink resource buf maxlen = (res,buf')) (positive : 0 < res)
    (bare : linkParams[linkPos]? = some none) :
    encodeLink linkParams gcoapEncodeLink resource buf maxlen linkPos = some (res,buf') := by
  simp [encodeLink, encoded, positive, bare]

theorem encodeLink_full (encoded : gcoapEncodeLink resource buf maxlen = (res,buf')) (positive : 0 < res)
    (entry : linkParams[linkPos]? = some (some params))
    (full : ¬ UInt32.ofNat (strlen params) < maxlen - res.toUInt32) :
    encodeLink linkParams gcoapEncodeLink resource buf maxlen linkPos = some (res,buf') := by
  simp only [encodeLink, encoded, entry, if_neg full, if_pos positive]

theorem encodeLink_sizing (encoded : gcoapEncodeLink resource buf maxlen = (res,none)) (positive : 0 < res)
    (entry : linkParams[linkPos]? = some (some params))
    (append : UInt32.ofNat (strlen params) < maxlen - res.toUInt32) :
    encodeLink linkParams gcoapEncodeLink resource buf maxlen linkPos =
      some ((res.toUInt32 + .ofNat (strlen params)).toInt32,none) := by
  simp only [encodeLink, encoded, entry, if_pos append, if_pos positive]

theorem encodeLink_writing (encoded : gcoapEncodeLink resource buf maxlen = (res,some out)) (positive : 0 < res)
    (entry : linkParams[linkPos]? = some (some params))
    (append : UInt32.ofNat (strlen params) < maxlen - res.toUInt32)
    (copied : memcpy out res.toUInt32.toNat params.chars = some listing) :
    encodeLink linkParams gcoapEncodeLink resource buf maxlen linkPos =
      some ((res.toUInt32 + .ofNat (strlen params)).toInt32,some listing) := by
  simp only [encodeLink, encoded, entry, if_pos append, if_pos positive, copied, Option.map_some]

/-- Nothing is appended: both passes return what the stack's encoder has returned. -/
theorem Encoded.listed_bare (encoded : Encoded gcoapEncodeLink resource block out maxlen res)
    (inTable : linkPos < linkParams.length)
    (bare : ∀ buf buf', gcoapEncodeLink resource buf maxlen = (res,buf') →
      encodeLink linkParams gcoapEncodeLink resource buf maxlen linkPos = some (res,buf')) :
    Listed linkParams gcoapEncodeLink resource block out maxlen linkPos res res out where
  inTable := inTable
  sizing := bare none none encoded.sized
  writing := bare (some block) (some out) encoded.written
  nonneg := Int32.le_of_lt encoded.positive
  bounded := encoded.fits
  outside _ _ := rfl
  whole := .inl ⟨rfl,rfl⟩

end

/-- The parameters are appended: both passes return the sum, which has to be a length. -/
theorem Encoded.listed_append {linkParams : List (Option CString)} {gcoapEncodeLink : Encoder}
    {resource params : CString} {block out : List UInt8} {maxlen : UInt32} {linkPos : Nat} {res : Int32}
    (encoded : Encoded gcoapEncodeLink resource block out maxlen res)
    (entry : linkParams[linkPos]? = some (some params)) (small : strlen params < 2 ^ 32)
    (append : res.toInt + strlen params < maxlen.toNat) (sum : res.toInt + strlen params < 2 ^ 31) :
    ∃ length listing, Listed linkParams gcoapEncodeLink resource block out maxlen linkPos res length listing := by
  have positive := encoded.positive
  have converted := toNat_toUInt32 res positive
  have room := encoded.room
  have appends := (append_lt_iff positive encoded.fits small).mpr append
  have inside : res.toUInt32.toNat + params.chars.length ≤ out.length := by
    change (res.toUInt32.toNat + strlen params : Nat) ≤ out.length
    omega
  obtain ⟨listing, copied, shape⟩ : ∃ listing, memcpy out res.toUInt32.toNat params.chars = some listing ∧
      listing = out.take res.toUInt32.toNat ++ params.chars ++ out.drop (res.toUInt32.toNat + params.chars.length) :=
    ⟨_,if_pos inside,rfl⟩
  have length := toInt_appended positive append
  rw [if_pos sum] at length
  refine ⟨(res.toUInt32 + .ofNat (strlen params)).toInt32, listing, ?_⟩
  constructor
  case inTable => exact (List.getElem?_eq_some_iff.mp entry).1
  case sizing => exact encodeLink_sizing encoded.sized positive entry appends
  case writing => exact encodeLink_writing encoded.written positive entry appends copied
  case nonneg =>
    rw [Int32.le_iff_toInt_le, length, Int32.toInt_zero]
    omega
  case bounded => omega
  case outside =>
    intro i beyond
    apply memcpy_frame copied
    change i < res.toUInt32.toNat ∨ res.toUInt32.toNat + strlen params ≤ i
    omega
  case whole =>
    have position : res.toUInt32.toNat = res.toInt.toNat := by omega
    rw [position] at shape
    exact .inr ⟨params,entry,length,shape⟩

/-- The exact condition for one table: its position is in it, and the sum of the lengths is a
length if anything is appended. -/
theorem listed_iff {linkParams : List (Option CString)} {gcoapEncodeLink : Encoder} {resource : CString}
    {block out : List UInt8} {maxlen : UInt32} {linkPos : Nat} {res : Int32}
    (small : ∀ params, some params ∈ linkParams → strlen params < 2 ^ 32)
    (encoded : Encoded gcoapEncodeLink resource block out maxlen res) :
    (∃ length listing, Listed linkParams gcoapEncodeLink resource block out maxlen linkPos res length listing) ↔
      linkPos < linkParams.length ∧ ∀ params, linkParams[linkPos]? = some (some params) →
        maxlen.toNat ≤ res.toInt + strlen params ∨ res.toInt + strlen params < 2 ^ 31 := by
  have positive := encoded.positive
  have compared (params : CString) (entry : linkParams[linkPos]? = some (some params)) :=
    append_lt_iff positive encoded.fits (small params (List.mem_of_getElem? entry))
  constructor
  · rintro ⟨length, listing, listed⟩
    refine ⟨listed.inTable, fun params entry => ?_⟩
    by_cases append : res.toInt + strlen params < maxlen.toNat
    · right
      by_contra large
      have sizing := listed.sizing
      rw [encodeLink_sizing encoded.sized positive entry ((compared params entry).mpr append)] at sizing
      obtain ⟨rfl, -⟩ := Prod.mk.inj (Option.some.inj sizing)
      have nonneg := Int32.le_iff_toInt_le.mp listed.nonneg
      rw [toInt_appended positive append, if_neg large, Int32.toInt_zero] at nonneg
      have bounded := maxlen.toNat_lt
      omega
    · exact .inl (Int.not_lt.mp append)
  · rintro ⟨inTable, sums⟩
    cases entry : linkParams[linkPos]? with
    | none => exact absurd inTable (by simpa using entry)
    | some params =>
      cases params with
      | none => exact ⟨res,out,encoded.listed_bare inTable fun _ _ ran => encodeLink_bare ran positive entry⟩
      | some params =>
        by_cases append : res.toInt + strlen params < maxlen.toNat
        · have sum := (sums params entry).resolve_left (Int.not_le.mpr append)
          exact encoded.listed_append entry (small params (List.mem_of_getElem? entry)) append sum
        · exact ⟨res,out,encoded.listed_bare inTable fun _ _ ran =>
            encodeLink_full ran positive entry (mt (compared params entry).mp append)⟩

theorem resources_short (program : Program) : program.resources.length ≤ 4 ∧
    (program ≠ .gateway → program.resources.length ≤ 2) := by
  cases program <;> decide

/-- A resource is listed within the tables and the buffer exactly if it is not one of the
gateway's last two, which have no entry in the table of parameters, and a sum of lengths that
is written is below 2 GiB. -/
theorem resource_listed_iff (program : Program) (gcoapEncodeLink : Encoder) (resource : CString)
    (block out : List UInt8) (maxlen : UInt32) (linkPos : Nat) (res : Int32)
    (registered : program.resources[linkPos]? = some resource)
    (encoded : Encoded gcoapEncodeLink resource block out maxlen res) :
    (∃ length listing,
      Listed program.linkParams gcoapEncodeLink resource block out maxlen linkPos res length listing) ↔
      (program = .gateway → linkPos < 2) ∧
      (linkPos = 0 → maxlen.toNat ≤ res.toInt + 20 ∨ res.toInt + 20 < 2 ^ 31) := by
  have table : program.linkParams = [some COUNT_PARAMS,none] := by cases program <;> rfl
  have small : ∀ params, some params ∈ program.linkParams → strlen params < 2 ^ 32 := by
    rw [table]
    intro params member
    obtain rfl : params = COUNT_PARAMS := by simpa using member
    decide
  have position := (List.getElem?_eq_some_iff.mp registered).1
  have size : strlen COUNT_PARAMS = 20 := rfl
  rw [listed_iff small encoded, table]
  constructor
  · rintro ⟨inTable, sums⟩
    refine ⟨fun _ => inTable, ?_⟩
    rintro rfl
    exact sums COUNT_PARAMS rfl
  · rintro ⟨few, sums⟩
    have inTable : linkPos < 2 := by
      by_cases gateway : program = .gateway
      · exact few gateway
      · exact Nat.lt_of_lt_of_le position ((resources_short program).2 gateway)
    refine ⟨inTable, fun params entry => ?_⟩
    match linkPos, inTable with
    | 0, _ =>
      cases entry
      exact sums rfl
    | 1, _ => cases entry

/-- What the stack writes for a resource, behind a comma if it is not the first. -/
def separated (separator : List UInt8) : Encoder := fun resource buf maxlen =>
  let link := separator ++ 60 :: resource.chars ++ [62]
  match buf with
  | none => (.ofNat link.length,none)
  | some block =>
    if link.length ≤ maxlen.toNat then (.ofNat link.length,some (link ++ block.drop link.length))
    else (-1,some block)

theorem actuator_beep_encoded : Encoded (separated []) ACTUATOR_BEEP (List.replicate 64 0)
    (60 :: ACTUATOR_BEEP.chars ++ 62 :: List.replicate 48 0) 64 16 := by
  constructor <;> decide

/-- The actuator's first resource in a buffer of 64 bytes. -/
theorem actuator_beep_listed : ∃ length listing,
    Listed Program.actuator.linkParams (separated []) ACTUATOR_BEEP (List.replicate 64 0)
      (60 :: ACTUATOR_BEEP.chars ++ 62 :: List.replicate 48 0) 64 0 16 length listing :=
  (resource_listed_iff .actuator (separated []) ACTUATOR_BEEP (List.replicate 64 0)
    (60 :: ACTUATOR_BEEP.chars ++ 62 :: List.replicate 48 0) 64 0 16 rfl actuator_beep_encoded).mpr
    ⟨by decide, by decide⟩

theorem sensor_status_encoded : Encoded (separated [44]) SENSOR_STATUS (List.replicate 64 0)
    (44 :: 60 :: SENSOR_STATUS.chars ++ 62 :: List.replicate 47 0) 64 17 := by
  constructor <;> decide

/-- The gateway's third resource in a buffer of 64 bytes: its parameters are read behind the table. -/
theorem sensor_status_is_not_listed :
    ¬ ∀ (program : Program) (gcoapEncodeLink : Encoder) (resource : CString) (block out : List UInt8)
      (maxlen : UInt32) (linkPos : Nat) (res : Int32), program.resources[linkPos]? = some resource →
      Encoded gcoapEncodeLink resource block out maxlen res → ∃ length listing,
        Listed program.linkParams gcoapEncodeLink resource block out maxlen linkPos res length listing := by
  intro always
  obtain ⟨length, listing, listed⟩ := always .gateway (separated [44]) SENSOR_STATUS _ _ 64 2 17 rfl
    sensor_status_encoded
  exact absurd listed.inTable (by decide)

end RiotAlarm.Listing
