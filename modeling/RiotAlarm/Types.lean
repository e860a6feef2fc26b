/-! C strings, node identities and socket endpoints: the data shared by the gateway
and the nodes. -/
namespace RiotAlarm

/-- What a `char *` denotes when it is read as a string: the bytes before the
terminator. Plain `char` is unsigned on the target board. -/
structure CString where
  chars : List UInt8
  terminated : 0 ∉ chars
  deriving DecidableEq

def strlen (s : CString) : Nat := s.chars.length

/-- Difference of the first bytes that differ, a missing byte counting as zero. -/
def compareBytes : List UInt8 → List UInt8 → Int
  | [], [] => 0
  | [], b :: _ => -b.toNat
  | a :: _, [] => a.toNat
  | a :: as, b :: bs => if a = b then compareBytes as bs else a.toNat - b.toNat

def strcmp (a b : CString) : Int := compareBytes a.chars b.chars

theorem compareBytes_self (as : List UInt8) : compareBytes as as = 0 := by
  induction as with
  | nil => rfl
  | cons a as ih => simpa [compareBytes] using ih

theorem toNat_pos {a : UInt8} (nonzero : 0 ≠ a) : 0 < a.toNat := by
  apply Nat.pos_of_ne_zero
  intro zero
  exact nonzero (UInt8.toNat_inj.mp zero.symm)

theorem compareBytes_zero (as bs : List UInt8) (ha : 0 ∉ as) (hb : 0 ∉ bs)
    (zero : compareBytes as bs = 0) : as = bs := by
  induction as generalizing bs with
  | nil =>
    cases bs with
    | nil => rfl
    | cons b bs =>
      have := toNat_pos (a := b) (by simp at hb; exact hb.1)
      simp only [compareBytes] at zero
      omega
  | cons a as ih =>
    cases bs with
    | nil =>
      have := toNat_pos (a := a) (by simp at ha; exact ha.1)
      simp only [compareBytes] at zero
      omega
    | cons b bs =>
      simp only [compareBytes] at zero
      split at zero
      next same =>
        subst same
        rw [ih bs (by simp at ha; exact ha.2) (by simp at hb; exact hb.2) zero]
      next differ =>
        exact absurd (UInt8.toNat_inj.mp (by omega)) differ

@[simp] theorem strcmp_eq_zero (a b : CString) : strcmp a b = 0 ↔ a = b := by
  constructor
  · intro zero
    have same := compareBytes_zero a.chars b.chars a.terminated b.terminated zero
    cases a; cases b
    simpa using same
  · rintro rfl
    exact compareBytes_self _

/-- `strcmp` on a lookup result: comparing NULL counts as different. -/
def strcmpResult : Option CString → CString → Int
  | none, _ => 1
  | some a, b => strcmp a b

@[simp] theorem strcmpResult_eq_zero (found : Option CString) (b : CString) :
    strcmpResult found b = 0 ↔ found = some b := by
  cases found <;> simp [strcmpResult]

def isSpace (c : UInt8) : Bool := c == 32 || (9 ≤ c && c ≤ 13)
def isDigit (c : UInt8) : Bool := 48 ≤ c && c ≤ 57

def digits (s : List UInt8) : Int :=
  (s.takeWhile isDigit).foldl (fun value c => value * 10 + (c.toNat - 48)) 0

def atoi (s : CString) : Int :=
  match s.chars.dropWhile isSpace with
  | 45 :: rest => -digits rest
  | 43 :: rest => digits rest
  | rest => digits rest

/-- "AUTH" -/
def REGISTER_RESPONSE : CString := ⟨[65, 85, 84, 72], by decide⟩

/-- "DEAU" -/
def DEREGISTER_RESPONSE : CString := ⟨[68, 69, 65, 85], by decide⟩

/-- `ipv6_addr_t`. -/
abbrev Ipv6Addr := Vector UInt8 16

/-- `struct node_identity` as its fields are read: `name` is the string that starts
at the record's first byte. -/
structure NodeIdentity where
  name : CString
  ipAddr : Ipv6Addr
  deriving DecidableEq

inductive AddressFamily where
  | unspec
  | inet6
  deriving DecidableEq, Repr

/-- `sock_udp_ep_t`. -/
structure SockUdpEp where
  family : AddressFamily
  addr : Ipv6Addr
  netif : UInt16
  port : UInt16
  deriving DecidableEq

/-- "5683" -/
def COAP_PORT_S : CString := ⟨[53, 54, 56, 51], by decide⟩
def SOCK_ADDR_ANY_NETIF : UInt16 := 0

/-- What the network stack answers: how many interfaces there are, the pid of the
first, how an address prints, and the interface part of an address string. -/
structure Gnrc where
  netifNumof : Nat
  firstPid : UInt16
  addrToStr : Ipv6Addr → CString
  splitIface : CString → Option CString

/-- The endpoint that `add_sensor_entry` and `add_actuator_entry` fill in. An
interface that `gnrc_netif_get_by_pid` does not know is only reported. -/
def entryRemote (gnrc : Gnrc) (ipAddr : Ipv6Addr) (ipv6Addr : CString) : SockUdpEp where
  family := .inet6
  netif :=
    match gnrc.splitIface ipv6Addr with
    | none => if gnrc.netifNumof = 1 then gnrc.firstPid else SOCK_ADDR_ANY_NETIF
    | some iface => .ofInt (atoi iface)
  addr := ipAddr
  port := .ofInt (atoi COAP_PORT_S)

theorem entryRemote_port (gnrc : Gnrc) (ipAddr : Ipv6Addr) (ipv6Addr : CString) :
    (entryRemote gnrc ipAddr ipv6Addr).port = 5683 := by
  change UInt16.ofInt (atoi COAP_PORT_S) = 5683
  decide

/-! The nodes and the board that sample runs use. -/

/-- "tapsense", the name a sensor is started with, and the unspecified address. -/
def tapsense : NodeIdentity where
  name := ⟨[116, 97, 112, 115, 101, 110, 115, 101], by decide⟩
  ipAddr := Vector.replicate 16 0

/-- "act2", the name an actuator is started with. -/
def act2 : NodeIdentity where
  name := ⟨[97, 99, 116, 50], by decide⟩
  ipAddr := Vector.replicate 16 0

/-- One interface; the unspecified address prints as "::", which names no interface. -/
def board : Gnrc where
  netifNumof := 1
  firstPid := 6
  addrToStr _ := ⟨[58, 58], by decide⟩
  splitIface _ := none

end RiotAlarm
