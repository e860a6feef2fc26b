import Mathlib
import RiotAlarm.CMemory
import RiotAlarm.GatewayCoap

/-! A node's identity as the 26 packed bytes of `struct node_identity`: named on the
node's shell, sent as it stands, copied by the gateway, read there as a string and an
address, and copied once more into the fields of a stored entry. -/
namespace RiotAlarm

open CMemory

/-- `struct node_identity`: ten bytes of name, then sixteen of address, without padding. -/
structure IdentityBytes where
  bytes : List UInt8
  size : bytes.length = 26
  deriving DecidableEq

namespace IdentityBytes

def ipAddr (r : IdentityBytes) : Ipv6Addr := ⟨(r.bytes.drop 10).toArray,by simp [r.size]⟩

/-- The body of `set_sensor_name` and `set_actuator_name`: the record and the result. The
name field is passed to `strcpy`, which knows nothing of its size. -/
def setName (r : IdentityBytes) (name : CString) : IdentityBytes × Nat :=
  if long : strlen name > 10 then (r,1)
  else (⟨strcpy r.bytes name.chars,by
    have fits : name.chars.length < r.bytes.length := by
      have := r.size
      simp only [strlen] at long
      omega
    rw [length_strcpy _ _ fits, r.size]⟩,0)

def setSensorName : IdentityBytes → CString → IdentityBytes × Nat := setName
def setActuatorName : IdentityBytes → CString → IdentityBytes × Nat := setName

/-- The payload of `coap_register_put`. -/
def coapRegisterPut (r : IdentityBytes) : List UInt8 := r.bytes

/-- The payload of `coap_status_put`, which sends the name field only. -/
def coapStatusPut (r : IdentityBytes) : List UInt8 := r.bytes.take 10

/-- `memcpy(sensor_id, pdu->payload, sizeof(struct node_identity))`: 26 bytes from where the
payload starts, however long it is. -/
def copied (payload : List UInt8) (leftover : Stream' UInt8) : IdentityBytes :=
  ⟨(payload ++ₛ leftover).take 26,Stream'.length_take 26 _⟩

/-- What the copy says: the string at its first byte, which runs on into the memory behind
the block if it is not terminated, and the address. -/
def read (r : IdentityBytes) (behind : CString) : NodeIdentity where
  name := ⟨text (r.bytes ++ behind.chars),zero_notMem_text _⟩
  ipAddr := r.ipAddr

theorem copied_register (r : IdentityBytes) (leftover : Stream' UInt8) :
    copied r.coapRegisterPut leftover = r := by
  obtain ⟨bytes, size⟩ := r
  simp only [copied, coapRegisterPut, mk.injEq]
  rw [Stream'.take_append_of_le_length _ _ _ (by omega), List.take_of_length_le (by omega)]

end IdentityBytes

/-- The name field and the remote of a `struct sensor_entry` or `struct actuator_entry`. -/
structure EntryBytes where
  name : List UInt8
  size : name.length = 10
  remote : SockUdpEp

theorem length_entryName (fresh : Vector UInt8 10) (name : List UInt8) :
    ((strcpy fresh.toList name).take 10).length = 10 := by
  simp only [strcpy, List.length_take, List.length_append, List.length_cons, List.length_drop,
    Vector.length_toList]
  omega

/-- What `add_sensor_entry` and `add_actuator_entry` write into a new block. `fresh` is what
`malloc` left in the name field; a longer string goes on behind the field. -/
def entryBytes (gnrc : Gnrc) (fresh : Vector UInt8 10) (id : NodeIdentity) : EntryBytes where
  name := (strcpy fresh.toList id.name.chars).take 10
  size := length_entryName fresh id.name.chars
  remote := entryRemote gnrc id.ipAddr (gnrc.addrToStr id.ipAddr)

namespace Gateway

/-- The command that names a node of either kind. -/
def rename : Kind → IdentityBytes → CString → IdentityBytes × Nat
  | .sensor => IdentityBytes.setSensorName
  | .actuator => IdentityBytes.setActuatorName

theorem rename_eq (kind : Kind) : rename kind = IdentityBytes.setName := by cases kind <;> rfl

/-- The name given on the node's shell and the node's address arrive in the gateway's store. -/
structure Identified (gnrc : Gnrc) (kind : Kind) (r : IdentityBytes) (name : CString) : Prop where
  address : (rename kind r name).1.ipAddr = r.ipAddr
  stored : ∀ g leftover behind fresh, g.pending kind = some name →
    let id := (IdentityBytes.copied (rename kind r name).1.coapRegisterPut leftover).read behind
    (registerHandler gnrc kind g (some id)).2.2 = .changed →
    0 ∈ (entryBytes gnrc fresh id).name ∧ text (entryBytes gnrc fresh id).name = name.chars ∧
      (entryBytes gnrc fresh id).remote.addr = r.ipAddr ∧
      (registerHandler gnrc kind g (some id)).2.1 = [.stored kind name (entryBytes gnrc fresh id).remote]

theorem setName_bytes (r : IdentityBytes) (name : CString) (accepted : (r.setName name).2 = 0) :
    strlen name ≤ 10 ∧ (r.setName name).1.bytes = strcpy r.bytes name.chars := by
  simp only [IdentityBytes.setName] at accepted ⊢
  split at accepted
  next => simp at accepted
  next long => exact ⟨by omega, by simp [long]⟩

/-- The record as the gateway reads it says the name that was set, terminated or not. -/
theorem read_renamed (kind : Kind) (r : IdentityBytes) (name : CString) (accepted : (rename kind r name).2 = 0)
    (leftover : Stream' UInt8) (behind : CString) :
    ((IdentityBytes.copied (rename kind r name).1.coapRegisterPut leftover).read behind).name = name := by
  rw [rename_eq] at accepted ⊢
  obtain ⟨-, bytes⟩ := setName_bytes r name accepted
  have read : text (strcpy r.bytes name.chars ++ behind.chars) = name.chars := by
    rw [strcpy, List.append_assoc, List.cons_append]
    exact text_terminated _ _ name.terminated
  simp only [IdentityBytes.copied_register, IdentityBytes.read, bytes, read]

theorem rename_ipAddr (kind : Kind) (r : IdentityBytes) (name : CString) (accepted : (rename kind r name).2 = 0)
    (short : strlen name ≤ 9) : (rename kind r name).1.ipAddr = r.ipAddr := by
  rw [rename_eq] at accepted ⊢
  obtain ⟨-, bytes⟩ := setName_bytes r name accepted
  have kept := drop_strcpy r.bytes name.chars (n := 10) (by simp only [strlen] at short; omega)
  simp only [IdentityBytes.ipAddr, bytes, kept]

/-- A gateway that waits for the name and has stored nothing. -/
def waitingFor (kind : Kind) (name : CString) : Globals := init.setPending (some name) kind

theorem waitingFor_accepts (gnrc : Gnrc) (kind : Kind) (id : NodeIdentity) :
    (registerHandler gnrc kind (waitingFor kind id.name) (some id)).2.2 = .changed := by
  have absent : ∀ kind, init.holds kind id.name = false := by
    intro kind
    cases kind <;> simp [Globals.holds, init]
  cases kind with
  | sensor =>
    obtain ⟨g', run, -⟩ := sensorRegister_accepts gnrc (waitingFor .sensor id.name) id rfl
      ((Globals.holds_setPending _ _ _ _ _).trans (absent .sensor))
    simp [registerHandler, run]
  | actuator =>
    obtain ⟨g', run, -⟩ := actuatorRegister_accepts gnrc (waitingFor .actuator id.name) id rfl
      ((Globals.holds_setPending _ _ _ _ _).trans (absent .actuator))
    simp [registerHandler, run]

/-- Of the names that a node takes, those with at most nine characters arrive in the store
with the node's address; a tenth overwrites the first byte of the address, and leaves the
entry's name field without a terminator. -/
theorem identity_survives_iff (gnrc : Gnrc) (kind : Kind) (r : IdentityBytes) (name : CString)
    (accepted : (rename kind r name).2 = 0) : Identified gnrc kind r name ↔ strlen name ≤ 9 := by
  have read := read_renamed kind r name accepted
  constructor
  · intro identified
    let id := (IdentityBytes.copied (rename kind r name).1.coapRegisterPut (Stream'.const 0)).read name
    have named : id.name = name := read _ _
    have changed := waitingFor_accepts gnrc kind id
    rw [named] at changed
    obtain ⟨ended, -⟩ := identified.stored (waitingFor kind name) (Stream'.const 0) name (Vector.replicate 10 0)
      (by simp [waitingFor]) changed
    have fits := (zero_mem_field _ _ id.name.terminated).mp ended
    rw [named] at fits
    exact Nat.le_of_lt_succ fits
  · intro short
    have address := rename_ipAddr kind r name accepted short
    refine ⟨address, ?_⟩
    intro g leftover behind fresh waiting id changed
    have named : id.name = name := read _ _
    have fits : id.name.chars.length < 10 := by
      rw [named]
      exact Nat.lt_succ_of_le short
    have told : id.ipAddr = r.ipAddr := by
      simp only [id, IdentityBytes.copied_register, IdentityBytes.read, address]
    refine ⟨(zero_mem_field _ _ id.name.terminated).mpr fits, ?_, told, ?_⟩
    · rw [← named]
      exact text_field _ _ id.name.terminated fits
    · rcases register_cases gnrc kind g (some id) with ⟨id', g', same, -, -, -, run, -⟩ | ⟨-, run⟩ | run
      · cases same
        rw [run, named]
        rfl
      · simp [run] at changed
      · simp [run] at changed

/-- A record without a name, and a link-local address. -/
def unnamed : IdentityBytes := ⟨List.replicate 10 0 ++ 254 :: 128 :: List.replicate 14 1,by decide⟩

theorem identity_survives_tapsense : Identified board .sensor unnamed tapsense.name :=
  (identity_survives_iff board .sensor unnamed tapsense.name (by decide)).mpr (by decide)

/-- "tapsense01" -/
def tenCharacters : CString := ⟨[116, 97, 112, 115, 101, 110, 115, 101, 48, 49], by decide⟩

theorem tenth_character_hits_the_address :
    ¬ ∀ gnrc kind r name, (rename kind r name).2 = 0 → Identified gnrc kind r name := by
  intro claim
  have identified := claim board .sensor unnamed tenCharacters (by decide)
  have address := identified.address
  revert address
  decide

end Gateway

end RiotAlarm
