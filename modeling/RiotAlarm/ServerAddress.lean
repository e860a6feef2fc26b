import RiotAlarm.Types

/-! The server address of a node: `set_remote`, which writes the endpoint as it goes, and
the two `set-server-ip` commands, which keep the address as a string beside it. -/
namespace RiotAlarm.Node

/-- What the network stack answers beside `Gnrc`: what `ipv6_addr_split_iface` leaves of a
string, whether `gnrc_netif_get_by_pid` finds an interface, how an address string parses,
and which addresses are link-local. -/
structure NetStack extends Gnrc where
  withoutIface : CString → CString
  netifKnown : Int16 → Bool
  addrFromStr : CString → Option Ipv6Addr
  isLinkLocal : Ipv6Addr → Bool

/-- Why `set_remote` returns false. -/
inductive Refusal where
  -- "coap_client: interface not valid"
  | interface
  -- "coap_client: unable to parse destination address"
  | address
  -- "coap_client: must specify interface for link local target"
  | linkLocal
  -- "coap_client: unable to parse destination port"
  | port
  deriving DecidableEq, Repr

/-- The interface that a destination string chooses, none if it names one that there is not. -/
def NetStack.chosenNetif (net : NetStack) (addrStr : CString) : Option UInt16 :=
  match net.splitIface addrStr with
  | none => some (if net.netifNumof = 1 then net.firstPid else SOCK_ADDR_ANY_NETIF)
  | some iface =>
    let pid := atoi iface
    if net.netifKnown (.ofInt pid) then some (.ofInt pid) else none

/-- The endpoint as it is left, and the refusal if `set_remote` returns false. -/
def setRemote (net : NetStack) (remote : SockUdpEp) (addrStr : CString) : SockUdpEp × Option Refusal :=
  let remote := { remote with family := .inet6 }
  match net.chosenNetif addrStr with
  | none => (remote,some .interface)
  | some netif =>
    let remote := { remote with netif }
    match net.addrFromStr (net.withoutIface addrStr) with
    | none => (remote,some .address)
    | some addr =>
      if remote.netif = SOCK_ADDR_ANY_NETIF ∧ net.isLinkLocal addr = true then (remote,some .linkLocal)
      else
        let remote := { remote with addr, port := .ofInt (atoi COAP_PORT_S) }
        if remote.port = 0 then (remote,some .port) else (remote,none)

/-- `server` and the string that is displayed for it. -/
structure Addressed where
  server : SockUdpEp
  serverIp : CString
  deriving DecidableEq

inductive Party where
  | sensor
  | actuator
  deriving DecidableEq

/-- The bytes that the sensor allocates for `server_ip`. -/
def IPV6_ADDR_MAX_STR_LEN : Nat := 46

/-- The sensor's `set_server_ip`: the whole argument has to parse, the answer of `set_remote`
is not looked at, and the argument is copied into `server_ip`. A `strcpy` past its end has no
result. -/
def sensorSetServerIp (net : NetStack) (n : Addressed) (argv : List CString) : Option (Addressed × Int) :=
  match argv with
  | [_,arg] =>
    if net.addrFromStr arg = none then some (n,1)
    else if strlen arg < IPV6_ADDR_MAX_STR_LEN then
      some ({ server := (setRemote net n.server arg).1, serverIp := arg },0)
    else none
  | _ => some (n,0)

/-- The actuator's `set_server_ip`, which keeps a duplicate of the argument. -/
def actuatorSetServerIp (net : NetStack) (n : Addressed) (argv : List CString) : Option (Addressed × Int) :=
  match argv with
  | [_,arg] => some ({ serverIp := arg, server := (setRemote net n.server arg).1 },0)
  | _ => some (n,0)

def Party.setServerIp : Party → NetStack → Addressed → List CString → Option (Addressed × Int)
  | .sensor => sensorSetServerIp
  | .actuator => actuatorSetServerIp

/-! What the commands are for. -/

/-- The endpoint that an address string denotes, if it denotes one. -/
def destination (net : NetStack) (addrStr : CString) : Option SockUdpEp := do
  let netif ← net.chosenNetif addrStr
  let addr ← net.addrFromStr (net.withoutIface addrStr)
  if netif = SOCK_ADDR_ANY_NETIF ∧ net.isLinkLocal addr = true then none
  else some { family := .inet6, addr, netif, port := 5683 }

/-- The command was given no argument or too many, it answered that the format is wrong, or
`set_remote` returned false. -/
def Refused (net : NetStack) (n : Addressed) (argv : List CString) (result : Int) : Prop :=
  argv.length ≠ 2 ∨ result = 1 ∨ ∃ name arg, argv = [name,arg] ∧ (setRemote net n.server arg).2 ≠ none

/-- After the command endpoint and string both denote its argument, or the argument was refused
and nothing has changed. -/
def AllOrNothing (net : NetStack) (n : Addressed) (argv : List CString) : Option (Addressed × Int) → Prop
  | none => False
  | some (n',result) =>
    (∃ name arg, argv = [name,arg] ∧ destination net arg = some n'.server ∧ n'.serverIp = arg) ∨
      Refused net n argv result ∧ n' = n

/-- What holds at every command of a sequence, of the state before it and its arguments. -/
def Party.Throughout (party : Party) (net : NetStack) (holds : Addressed → List CString → Prop) :
    Addressed → List (List CString) → Prop
  | _, [] => True
  | n, argv :: commands =>
    holds n argv ∧ ∀ n' result, party.setServerIp net n argv = some (n',result) →
      party.Throughout net holds n' commands

/-- What `set_remote` writes before it refuses the string is what the endpoint says already. -/
def Agrees (net : NetStack) (remote : SockUdpEp) (addrStr : CString) : Prop :=
  remote.family = .inet6 ∧ ∀ netif, net.chosenNetif addrStr = some netif → remote.netif = netif

/-- `set_remote` makes the endpoint that the string denotes, or refuses a string that denotes
none and leaves what it has written by then. -/
theorem setRemote_spec (net : NetStack) (remote : SockUdpEp) (addrStr : CString) :
    (∃ ep, destination net addrStr = some ep ∧ setRemote net remote addrStr = (ep,none)) ∨
    destination net addrStr = none ∧ ∃ refusal, setRemote net remote addrStr =
      ({ remote with family := .inet6, netif := (net.chosenNetif addrStr).getD remote.netif },some refusal) := by
  cases chosen : net.chosenNetif addrStr with
  | none => exact .inr ⟨by simp [destination, chosen], .interface, by simp [setRemote, chosen]⟩
  | some netif =>
    cases parsed : net.addrFromStr (net.withoutIface addrStr) with
    | none => exact .inr ⟨by simp [destination, chosen, parsed], .address, by simp [setRemote, chosen, parsed]⟩
    | some addr =>
      by_cases unreachable : netif = SOCK_ADDR_ANY_NETIF ∧ net.isLinkLocal addr = true
      · exact .inr ⟨by simp [destination, chosen, parsed, unreachable], .linkLocal, by
          simp [setRemote, chosen, parsed, unreachable]⟩
      · have port : UInt16.ofInt (atoi COAP_PORT_S) = 5683 := by decide
        refine .inl ⟨{ family := .inet6, addr, netif, port := 5683 },
          by simp [destination, chosen, parsed, unreachable], ?_⟩
        simp [setRemote, chosen, parsed, unreachable, port]

theorem agrees_iff (net : NetStack) (remote : SockUdpEp) (addrStr : CString) :
    { remote with family := .inet6, netif := (net.chosenNetif addrStr).getD remote.netif } = remote ↔
      Agrees net remote addrStr := by
  obtain ⟨family, addr, netif, port⟩ := remote
  cases chosen : net.chosenNetif addrStr <;> simp [Agrees, chosen, eq_comm]

/-- A refused call leaves the endpoint alone exactly if it writes nothing new. -/
theorem refused_unchanged_iff (net : NetStack) (remote : SockUdpEp) (addrStr : CString) :
    ((setRemote net remote addrStr).2 ≠ none → (setRemote net remote addrStr).1 = remote) ↔
      (destination net addrStr = none → Agrees net remote addrStr) := by
  rcases setRemote_spec net remote addrStr with ⟨ep, denoted, ran⟩ | ⟨refused, refusal, ran⟩
  · simp [ran, denoted]
  · simp [ran, refused, agrees_iff]

/-- The argument gets as far as `set_remote`. -/
def Party.Passes (party : Party) (net : NetStack) (arg : CString) : Prop :=
  party = .sensor → net.addrFromStr arg ≠ none

/-- The argument fits into the string that is displayed. -/
def Party.Fits (party : Party) (arg : CString) : Prop := party = .sensor → strlen arg < IPV6_ADDR_MAX_STR_LEN

/-- The command has no argument or the wrong number of them, or the argument is refused at once,
or it fits and denotes an endpoint or all that is written is there already. -/
def Meets (party : Party) (net : NetStack) (n : Addressed) (argv : List CString) : Prop :=
  ∀ name arg, argv = [name,arg] → party.Passes net arg →
    party.Fits arg ∧ (destination net arg = none → n.serverIp = arg ∧ Agrees net n.server arg)

theorem set_iff (net : NetStack) (n : Addressed) (name arg : CString) :
    AllOrNothing net n [name,arg] (some ({ server := (setRemote net n.server arg).1, serverIp := arg },0)) ↔
      (destination net arg = none → n.serverIp = arg ∧ Agrees net n.server arg) := by
  rcases setRemote_spec net n.server arg with ⟨ep, denoted, ran⟩ | ⟨refused, refusal, ran⟩
  · simp [AllOrNothing, ran, denoted]
  · have undenoted : ¬ ∃ name' arg', [name,arg] = [name',arg'] ∧ destination net arg' =
        some { n.server with family := .inet6, netif := (net.chosenNetif arg).getD n.server.netif } ∧
        arg = arg' := by
      rintro ⟨_, arg', _, denoted, rfl⟩
      rw [refused] at denoted
      contradiction
    have told : Refused net n [name,arg] 0 := .inr (.inr ⟨name, arg, rfl, by simp [ran]⟩)
    have unchanged (server : SockUdpEp) :
        (⟨server,arg⟩ : Addressed) = n ↔ n.serverIp = arg ∧ server = n.server := by
      obtain ⟨server', serverIp⟩ := n
      simp only [Addressed.mk.injEq]
      exact ⟨fun same => ⟨same.2.symm,same.1⟩, fun same => ⟨same.2,same.1.symm⟩⟩
    rw [ran, AllOrNothing, or_iff_right undenoted, and_iff_right told, unchanged, agrees_iff]
    exact ⟨fun same _ => same, fun same => same refused⟩

/-- The wrong number of arguments changes nothing. -/
theorem setServerIp_usage (party : Party) (net : NetStack) (n : Addressed) (argv : List CString)
    (count : ∀ name arg, argv ≠ [name,arg]) : party.setServerIp net n argv = some (n,0) := by
  match argv with
  | [] | [_] | _ :: _ :: _ :: _ => cases party <;> rfl
  | [name,arg] => exact absurd rfl (count name arg)

theorem setServerIp_passes (party : Party) (net : NetStack) (n : Addressed) (name arg : CString)
    (passes : party.Passes net arg) (fits : party.Fits arg) : party.setServerIp net n [name,arg] =
      some ({ server := (setRemote net n.server arg).1, serverIp := arg },0) := by
  cases party with
  | sensor => simp [Party.setServerIp, sensorSetServerIp, passes rfl, fits rfl]
  | actuator => rfl

theorem setServerIp_overruns (party : Party) (net : NetStack) (n : Addressed) (name arg : CString)
    (passes : party.Passes net arg) (long : ¬ party.Fits arg) : party.setServerIp net n [name,arg] = none := by
  cases party with
  | sensor =>
    have past : ¬ strlen arg < IPV6_ADDR_MAX_STR_LEN := by simpa [Party.Fits] using long
    simp [Party.setServerIp, sensorSetServerIp, passes rfl, past]
  | actuator => exact absurd (fun sensor => nomatch sensor) long

theorem setServerIp_refuses (party : Party) (net : NetStack) (n : Addressed) (name arg : CString)
    (refused : ¬ party.Passes net arg) : party.setServerIp net n [name,arg] = some (n,1) := by
  cases party with
  | sensor =>
    have unparsed : net.addrFromStr arg = none := by simpa [Party.Passes] using refused
    simp [Party.setServerIp, sensorSetServerIp, unparsed]
  | actuator => exact absurd (fun sensor => nomatch sensor) refused

theorem setServerIp_iff (party : Party) (net : NetStack) (n : Addressed) (argv : List CString) :
    AllOrNothing net n argv (party.setServerIp net n argv) ↔ Meets party net n argv := by
  by_cases count : ∃ name arg, argv = [name,arg]
  · obtain ⟨name, arg, rfl⟩ := count
    have meets : Meets party net n [name,arg] ↔ (party.Passes net arg → party.Fits arg ∧
        (destination net arg = none → n.serverIp = arg ∧ Agrees net n.server arg)) := by
      constructor
      · exact fun meets => meets name arg rfl
      · rintro meets _ _ ⟨⟩
        exact meets
    rw [meets]
    by_cases passes : party.Passes net arg
    · by_cases fits : party.Fits arg
      · rw [setServerIp_passes party net n name arg passes fits, set_iff]
        exact ⟨fun agree _ => ⟨fits, agree⟩, fun agree => (agree passes).2⟩
      · rw [setServerIp_overruns party net n name arg passes fits]
        exact iff_of_false id fun agree => fits (agree passes).1
    · rw [setServerIp_refuses party net n name arg passes]
      exact iff_of_true (.inr ⟨.inr (.inl rfl), rfl⟩) fun passed => absurd passed passes
  · have count (name arg : CString) : argv ≠ [name,arg] := fun same => count ⟨name,arg,same⟩
    have wrong : argv.length ≠ 2 := by
      intro two
      match argv, two with
      | [name,arg], _ => exact count name arg rfl
    rw [setServerIp_usage party net n argv count]
    exact iff_of_true (.inr ⟨.inl wrong, rfl⟩) fun name arg same => absurd same (count name arg)

theorem throughout_congr (party : Party) (net : NetStack) {holds holds' : Addressed → List CString → Prop}
    (same : ∀ n argv, holds n argv ↔ holds' n argv) (n : Addressed) (commands : List (List CString)) :
    party.Throughout net holds n commands ↔ party.Throughout net holds' n commands := by
  induction commands generalizing n with
  | nil => rfl
  | cons argv commands ih =>
    exact and_congr (same n argv) (forall_congr' fun n' => forall_congr' fun _ => imp_congr_right fun _ => ih n')

/-- A sequence of commands is all or nothing exactly if each is given a good argument, one that
is refused at once, or one that leaves nothing to write, and none that overruns the displayed
string; and a refused `set_remote` leaves the endpoint alone exactly if family and interface are
what it would write. -/
theorem server_address_iff (party : Party) (net : NetStack) (n : Addressed)
    (commands : List (List CString)) (remote : SockUdpEp) (addrStr : CString) :
    (party.Throughout net (fun n argv => AllOrNothing net n argv (party.setServerIp net n argv)) n commands ↔
      party.Throughout net (Meets party net) n commands) ∧
    (((setRemote net remote addrStr).2 ≠ none → (setRemote net remote addrStr).1 = remote) ↔
      (destination net addrStr = none → Agrees net remote addrStr)) :=
  ⟨throughout_congr party net (setServerIp_iff party net) n commands,
    refused_unchanged_iff net remote addrStr⟩

/-- "fe80::1" -/
def linkLocal : CString := ⟨[102, 101, 56, 48, 58, 58, 49], by decide⟩

/-- "fe80" -/
def unfinished : CString := ⟨[102, 101, 56, 48], by decide⟩

/-- Two interfaces, and of the strings only `linkLocal` parses. -/
def twoInterfaces : NetStack where
  netifNumof := 2
  firstPid := 6
  addrToStr _ := linkLocal
  splitIface _ := none
  withoutIface addrStr := addrStr
  netifKnown pid := pid = 6 ∨ pid = 7
  addrFromStr addrStr :=
    if addrStr = linkLocal then some #v[0xfe, 0x80, 0, 0, 0, 0, 0, 0, 0, 0, 0, 0, 0, 0, 0, 1] else none
  isLinkLocal addr := addr[0] = 0xfe ∧ addr[1] &&& 0xc0 = 0x80

/-- A node that talks to "::" by its sixth interface. -/
def addressed : Addressed where
  server := { family := .inet6, addr := Vector.replicate 16 0, netif := 6, port := 5683 }
  serverIp := board.addrToStr (Vector.replicate 16 0)

/-- The sensor displays an address that `set_remote` has refused, and its endpoint has lost
the interface; the actuator displays what is no address at all. -/
theorem half_an_address :
    (¬ ∀ (net : NetStack) (n : Addressed) (commands : List (List CString)),
      Party.sensor.Throughout net (fun n argv => AllOrNothing net n argv (sensorSetServerIp net n argv)) n commands) ∧
    (¬ ∀ (net : NetStack) (n : Addressed) (commands : List (List CString)),
      Party.actuator.Throughout net (fun n argv => AllOrNothing net n argv (actuatorSetServerIp net n argv)) n commands) ∧
    ¬ ∀ (net : NetStack) (remote : SockUdpEp) (addrStr : CString),
      (setRemote net remote addrStr).2 ≠ none → (setRemote net remote addrStr).1 = remote := by
  refine ⟨fun always => ?_, fun always => ?_, fun always => ?_⟩
  · obtain ⟨⟨_, arg, same, denoted, -⟩ | ⟨-, same⟩, -⟩ := always twoInterfaces addressed [[linkLocal,linkLocal]]
    · cases same
      exact absurd denoted (by decide)
    · exact absurd same (by decide)
  · obtain ⟨⟨_, arg, same, denoted, -⟩ | ⟨-, same⟩, -⟩ := always twoInterfaces addressed [[unfinished,unfinished]]
    · cases same
      exact absurd denoted (by decide)
    · exact absurd same (by decide)
  · exact absurd (always twoInterfaces addressed.server linkLocal (by decide)) (by decide)

end RiotAlarm.Node
