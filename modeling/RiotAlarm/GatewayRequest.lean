import RiotAlarm.GatewayLog
import RiotAlarm.GatewayRegistration
import RiotAlarm.Identity

/-! Requests as bytes in the receive buffer. The handlers copy 26 bytes whatever the
payload's length and read a string from the copy, so what an earlier packet left in the
buffer can take part in the verdict; it is said exactly when it does. -/
namespace RiotAlarm.Gateway

open CMemory

/-- The entries of `_resources`. -/
inductive Resource where
  | actuatorRegister
  | sensorRegister
  | sensorStatus
  | sensorTap
  deriving DecidableEq, Repr

def Resource.handler (gnrc : Gnrc) (g : Globals) : Resource → Option NodeIdentity → Globals × List Event × Code
  | .actuatorRegister => actuatorRegisterHandler gnrc g
  | .sensorRegister => sensorRegisterHandler gnrc g
  | .sensorStatus => fun payload =>
    let (g,code) := sensorStatusHandler g payload
    (g,[],code)
  | .sensorTap => sensorTapHandler g

/-- What a handler reads: nothing of an empty payload, else the copy and what follows it. -/
def decode (payload : List UInt8) (leftover : Stream' UInt8) (behind : CString) : Option NodeIdentity :=
  if payload.length ≠ 0 then some ((IdentityBytes.copied payload leftover).read behind) else none

/-- The gateway's state up to where its records lie in memory. -/
@[ext] structure Visible where
  sensors : SensorMap
  actuators : List (CString × SockUdpEp)
  pending : Kind → Option CString
  isRegistered : Bool
  isEngaged : Bool
  isSensorFired : Bool
  isTimeout : Bool

def Globals.visible (g : Globals) : Visible where
  sensors := g.htSensor.view
  actuators := g.actuators.toList
  pending := g.pending
  isRegistered := g.isRegistered
  isEngaged := g.isEngaged
  isSensorFired := g.isSensorFired
  isTimeout := g.isTimeout

/-- The blocks that are posted to the log. -/
def logged (fresh : Vector UInt8 10) (events : List Event) : List LogMsg :=
  events.filterMap fun
    | .logged message name => some (sendLogMsg fresh message.text name)
    | _ => none

/-- Response code, state and log of one request. -/
def verdict (gnrc : Gnrc) (fresh : Vector UInt8 10) (resource : Resource) (g : Globals)
    (payload : Option NodeIdentity) : Code × Visible × List LogMsg :=
  let (g',events,code) := resource.handler gnrc g payload
  (code,g'.visible,logged fresh events)

/-- The names that the copy can be read as, given the payload and what follows the copy. -/
def Spelled (payload : List UInt8) (behind name : CString) : Prop :=
  if 0 ∈ payload then name.chars = text payload
  else payload <+: name.chars ∧ (strlen name < 26 ∨ name.chars.drop 26 = behind.chars)

theorem copied_short (payload : List UInt8) (leftover : Stream' UInt8) (short : payload.length < 26) :
    (IdentityBytes.copied payload leftover).bytes = payload ++ leftover.take (26 - payload.length) := by
  have size : 26 = payload.length + (26 - payload.length) := by omega
  simp only [IdentityBytes.copied]
  rw [Stream'.append_take]
  exact congrArg (fun n => (payload ++ₛ leftover).take n) size

theorem copied_long (payload : List UInt8) (leftover leftover' : Stream' UInt8) (long : 26 ≤ payload.length) :
    IdentityBytes.copied payload leftover = IdentityBytes.copied payload leftover' := by
  simp only [IdentityBytes.copied, Stream'.take_append_of_le_length _ _ _ long]

/-- Every copy spells such a name, and every such name is spelled by some copy. -/
theorem read_spelled (payload : List UInt8) (short : payload.length < 26) (leftover : Stream' UInt8)
    (behind : CString) : Spelled payload behind ((IdentityBytes.copied payload leftover).read behind).name := by
  have rest := Stream'.length_take (26 - payload.length) leftover
  rw [Spelled]
  simp only [IdentityBytes.read, copied_short payload leftover short, List.append_assoc, strlen]
  split
  next ended => exact text_append_of_mem _ _ ended
  next plain =>
    rw [text_append _ _ plain]
    refine ⟨List.prefix_append _ _, ?_⟩
    by_cases ended : 0 ∈ leftover.take (26 - payload.length)
    · obtain ⟨s, after, split_, unended⟩ := List.eq_append_cons_of_mem ended
      have lengths := congrArg List.length split_
      simp only [rest, List.length_append, List.length_cons] at lengths
      rw [text_append_of_mem _ _ ended, split_, text_terminated s after unended, List.length_append]
      exact .inl (by omega)
    · rw [text_append _ _ ended, text_of_plain _ behind.terminated, ← List.append_assoc]
      have size : (payload ++ leftover.take (26 - payload.length)).length = 26 := by
        rw [List.length_append, rest]
        omega
      exact .inr (List.drop_left' size)

theorem spelled_read (payload : List UInt8) (short : payload.length < 26) (behind name : CString)
    (spelled : Spelled payload behind name) :
    ∃ leftover, ((IdentityBytes.copied payload leftover).read behind).name = name := by
  rw [Spelled] at spelled
  refine ⟨name.chars.drop payload.length ++ₛ Stream'.const 0, ?_⟩
  have read : text (payload ++ ((name.chars.drop payload.length ++ₛ Stream'.const 0).take (26 - payload.length) ++
      behind.chars)) = name.chars := by
    split at spelled
    next ended => rw [text_append_of_mem _ _ ended, spelled]
    next plain =>
      obtain ⟨⟨rest, whole⟩, fits⟩ := spelled
      have unended : 0 ∉ rest := fun member => name.terminated (whole ▸ List.mem_append_right payload member)
      have length := congrArg List.length whole
      rw [List.length_append] at length
      rw [text_append _ _ plain, ← whole, List.drop_left]
      congr 1
      by_cases small : rest.length < 26 - payload.length
      · obtain ⟨k, size⟩ := Nat.exists_eq_add_of_lt small
        rw [size, Nat.add_assoc, ← Stream'.append_take, Stream'.take_succ, List.append_assoc]
        exact text_terminated rest _ unended
      · have large : 26 ≤ name.chars.length := by omega
        have tail : rest.drop (26 - payload.length) = behind.chars := by
          have after := fits.resolve_left (by simp only [strlen]; omega)
          rw [← whole, List.drop_append, List.drop_of_length_le (by omega), List.nil_append] at after
          exact after
        rw [Stream'.take_append_of_le_length _ _ _ (by omega), ← tail, List.take_append_drop]
        exact text_of_plain rest unended
  simp only [IdentityBytes.read, copied_short _ _ short, List.append_assoc, read]

/-! What each request shows, by the name and the address that were read. -/

theorem verdict_status (gnrc : Gnrc) (fresh : Vector UInt8 10) (g : Globals) (id : NodeIdentity) :
    verdict gnrc fresh .sensorStatus g (some id) =
      if g.holds .sensor id.name = true then
        (.changed,{ g.visible with sensors := fun name => (g.htSensor.view name).map (refresh id.name name) },[])
      else (.badRequest,g.visible,[]) := by
  rcases status_cases g (some id) with ⟨id', same, known, run⟩ | ⟨unknown, run⟩
  · cases same
    rw [if_pos known]
    simp only [verdict, Resource.handler, run, Globals.visible, SensorTable.view_updateTime]
    rfl
  · rw [if_neg (by simp [unknown id rfl])]
    simp only [verdict, Resource.handler, run]
    rfl

theorem verdict_tap (gnrc : Gnrc) (fresh : Vector UInt8 10) (g : Globals) (id : NodeIdentity) :
    verdict gnrc fresh .sensorTap g (some id) =
      if g.holds .sensor id.name = true then
        (.changed,{ g.visible with isSensorFired := g.isEngaged || g.isSensorFired },
          [sendLogMsg fresh LogMessage.sensorFired.text (some id.name)])
      else (.badRequest,g.visible,[]) := by
  by_cases known : g.holds .sensor id.name = true
  · have zero := (lookup_eq_zero g id.name).mpr known
    rw [if_pos known]
    cases engaged : g.isEngaged with
    | true =>
      simp [verdict, Resource.handler, sensorTapHandler, zero, engaged, activateAlarm, logged, Globals.visible]
      rfl
    | false =>
      simp [verdict, Resource.handler, sensorTapHandler, zero, engaged, logged, Globals.visible]
  · have unknown := mt (lookup_eq_zero g id.name).mp known
    rw [if_neg known]
    simp [verdict, Resource.handler, sensorTapHandler, unknown, logged]

def Resource.register : Kind → Resource
  | .sensor => .sensorRegister
  | .actuator => .actuatorRegister

theorem verdict_register (gnrc : Gnrc) (fresh : Vector UInt8 10) (kind : Kind) (g : Globals)
    (payload : Option NodeIdentity) :
    verdict gnrc fresh (.register kind) g payload =
      ((registerHandler gnrc kind g payload).2.2,(registerHandler gnrc kind g payload).1.visible,[]) := by
  have silent : logged fresh (registerHandler gnrc kind g payload).2.1 = [] := by
    rcases register_cases gnrc kind g payload with ⟨_, _, -, -, -, -, run, -⟩ | ⟨-, run⟩ | run <;> simp [run, logged]
  rw [← silent]
  cases kind <;> rfl

/-- Codes and pending names are those of the rule. -/
theorem verdict_rule (gnrc : Gnrc) (fresh : Vector UInt8 10) (kind : Kind) (g : Globals) (id : NodeIdentity) :
    (verdict gnrc fresh (.register kind) g (some id)).1 = ((g.registry kind).rule kind (some id.name)).2 ∧
      (verdict gnrc fresh (.register kind) g (some id)).2.1.pending kind =
        ((g.registry kind).rule kind (some id.name)).1.pending := by
  have rule := registerHandler_rule gnrc kind g (some id)
  rw [Option.map_some] at rule
  rw [← rule, verdict_register]
  exact ⟨rfl, rfl⟩

/-- A request that is not accepted shows whether it makes the gateway forget the pending name. -/
theorem verdict_unaccepted (gnrc : Gnrc) (fresh : Vector UInt8 10) (kind : Kind) (g : Globals) (id : NodeIdentity)
    (refused : g.accepts kind (some id) = false) :
    verdict gnrc fresh (.register kind) g (some id) =
      (.badRequest,(if g.forgets kind (some id) = true then g.setPending none kind else g).visible,[]) := by
  rw [verdict_register]
  rcases register_cases gnrc kind g (some id) with ⟨_, _, -, accepted, -⟩ | ⟨forgets, run⟩ | run
  · simp [accepted] at refused
  · rw [run, if_pos forgets]
  · rw [run]
    by_cases forgets : g.forgets kind (some id) = true
    · obtain ⟨-, waiting, forgotten⟩ := forgets_spec gnrc g forgets
      rw [run] at forgotten
      simp [forgotten] at waiting
    · rw [if_neg forgets]

/-- The address under which a name was registered last. -/
def Visible.address (v : Visible) (name : CString) : Kind → Option Ipv6Addr
  | .sensor => (v.sensors name).map (·.remote.addr)
  | .actuator => v.actuators.head?.map (·.2.addr)

/-- An accepted request stores the address that was read. -/
theorem verdict_accepted (gnrc : Gnrc) (fresh : Vector UInt8 10) (kind : Kind) (g : Globals) (id : NodeIdentity)
    (pending : g.pending kind = some id.name) (absent : g.holds kind id.name = false) :
    (verdict gnrc fresh (.register kind) g (some id)).2.1.address id.name kind = some id.ipAddr := by
  rw [verdict_register]
  cases kind with
  | sensor =>
    obtain ⟨g', run, registered⟩ := sensorRegister_accepts gnrc g id pending absent
    simp [registerHandler, run, Visible.address, Globals.visible, registered.view rfl, entryRemote]
  | actuator =>
    obtain ⟨g', run, registered⟩ := actuatorRegister_accepts gnrc g id pending absent
    simp [registerHandler, run, Visible.address, Globals.visible, registered.nodes rfl, entryRemote]

/-! Requests that are judged by their payload. -/

/-- Whatever follows the payload in the buffer, the verdict is the same. -/
def Independent (gnrc : Gnrc) (fresh : Vector UInt8 10) (behind : CString) (resource : Resource) (g : Globals)
    (payload : List UInt8) : Prop :=
  ∀ leftover leftover', verdict gnrc fresh resource g (decode payload leftover behind) =
    verdict gnrc fresh resource g (decode payload leftover' behind)

/-- The payload is empty or complete; or all names that it can be read as are treated alike,
and none of them makes the gateway store the address. -/
def JudgedByPayload (behind : CString) (resource : Resource) (g : Globals) (payload : List UInt8) : Prop :=
  payload.length = 0 ∨ 26 ≤ payload.length ∨
  match resource with
  | .sensorStatus =>
    0 ∈ payload ∨ (∀ name, Spelled payload behind name → g.holds .sensor name = false) ∨
      ∀ name, Spelled payload behind name → ∃ value, g.htSensor.view name = some value ∧ value.wdt = 0
  | .sensorTap =>
    0 ∈ payload ∨ (∀ name, Spelled payload behind name → g.holds .sensor name = false) ∨
      10 ≤ payload.length ∧ ∀ name, Spelled payload behind name → g.holds .sensor name = true
  | .sensorRegister =>
    ∀ pending, g.sensorId = some pending →
      (∀ name, Spelled payload behind name → g.holds .sensor name = true) ∨
        ∀ name, Spelled payload behind name → g.holds .sensor name = false ∧ pending ≠ name
  | .actuatorRegister =>
    ∀ pending, g.actuatorId = some pending →
      g.holds .actuator pending = true ∨ ∀ name, Spelled payload behind name → pending ≠ name

section
variable {gnrc : Gnrc} {fresh : Vector UInt8 10} {behind : CString} {resource : Resource} {g : Globals}
variable {payload : List UInt8}

theorem decode_some (filled : payload.length ≠ 0) (leftover : Stream' UInt8) :
    decode payload leftover behind = some ((IdentityBytes.copied payload leftover).read behind) := if_pos filled

/-- The verdicts on any two names that the payload can be read as. -/
theorem Independent.same (independent : Independent gnrc fresh behind resource g payload)
    (filled : payload.length ≠ 0) (short : payload.length < 26) {a b : CString}
    (spellsA : Spelled payload behind a) (spellsB : Spelled payload behind b) :
    ∃ x y : NodeIdentity, x.name = a ∧ y.name = b ∧
      verdict gnrc fresh resource g (some x) = verdict gnrc fresh resource g (some y) := by
  obtain ⟨leftover, readA⟩ := spelled_read payload short behind a spellsA
  obtain ⟨leftover', readB⟩ := spelled_read payload short behind b spellsB
  have equal := independent leftover leftover'
  rw [decode_some filled, decode_some filled] at equal
  exact ⟨_, _, readA, readB, equal⟩

theorem Spelled.unique {a b : CString} (first : Spelled payload behind a) (ended : 0 ∈ payload)
    (second : Spelled payload behind b) : a = b := by
  rw [Spelled, if_pos ended] at first second
  cases a; cases b
  simpa using first.trans second.symm

/-- Without a terminator the payload can be read as two names, at least one character apart. -/
theorem two_spelled (plain : 0 ∉ payload) (short : payload.length < 26) (behind : CString) :
    ∃ a b : CString, Spelled payload behind a ∧ Spelled payload behind b ∧ a ≠ b ∧
      (payload.length < 10 → strncpy a.chars 10 ≠ strncpy b.chars 10) := by
  have first : Spelled payload behind ⟨payload,plain⟩ := by
    rw [Spelled, if_neg plain]
    exact ⟨List.prefix_refl _, .inl short⟩
  let tail := if payload.length < 25 then [1] else 1 :: behind.chars
  have unended : 0 ∉ payload ++ tail := by
    have := behind.terminated
    simp only [tail]
    split <;> simp_all
  have second : Spelled payload behind ⟨payload ++ tail,unended⟩ := by
    rw [Spelled, if_neg plain]
    refine ⟨List.prefix_append _ _, ?_⟩
    simp only [strlen, tail]
    split
    next room => exact .inl (by simp; omega)
    next full =>
      have size : payload.length = 25 := by omega
      exact .inr (by simp [List.drop_append, size])
  refine ⟨_, _, first, second, ?_, ?_⟩
  · intro same
    have lengths := congrArg strlen same
    simp only [strlen, List.length_append, tail] at lengths
    split at lengths <;> simp at lengths
  · intro small same
    obtain ⟨k, size⟩ := Nat.exists_eq_add_of_lt small
    have tails : tail = [1] := if_pos (by omega)
    simp only [strncpy, tails, size, List.append_assoc] at same
    rw [List.take_append, List.take_append] at same
    have past : payload.length + k + 1 - payload.length = k + 1 := by omega
    simp [past, List.replicate_succ] at same

theorem other_spelled (plain : 0 ∉ payload) (short : payload.length < 26) (behind name : CString) :
    ∃ other, Spelled payload behind other ∧ other ≠ name := by
  obtain ⟨a, b, spellsA, spellsB, differ, -⟩ := two_spelled plain short behind
  by_cases first : a = name
  · exact ⟨b, spellsB, fun second => differ (first.trans second.symm)⟩
  · exact ⟨a, spellsA, first⟩

/-- Where the answer tells whether the name is stored, all names that the payload can be read
as are stored, or none is. -/
theorem Independent.all_or_none (independent : Independent gnrc fresh behind resource g payload)
    (filled : payload.length ≠ 0) (short : payload.length < 26)
    (answers : ∀ id, (verdict gnrc fresh resource g (some id)).1 =
      if g.holds .sensor id.name = true then .changed else .badRequest) :
    (∀ name, Spelled payload behind name → g.holds .sensor name = false) ∨
      ∀ name, Spelled payload behind name → g.holds .sensor name = true := by
  by_cases none : ∀ name, Spelled payload behind name → g.holds .sensor name = false
  · exact .inl none
  push Not at none
  obtain ⟨a, spellsA, storedA⟩ := none
  refine .inr fun name spells => ?_
  obtain ⟨x, y, rfl, rfl, same⟩ := independent.same filled short spellsA spells
  have codes := congrArg Prod.fst same
  by_contra unknown
  rw [answers, answers, if_pos (by simpa using storedA), if_neg unknown] at codes
  contradiction

/-- Two buffers that differ behind a short payload hold different addresses. -/
theorem address_differs (short : payload.length < 26) :
    (IdentityBytes.copied payload (Stream'.const 0)).ipAddr ≠ (IdentityBytes.copied payload (Stream'.const 1)).ipAddr := by
  intro same
  have last : ∀ c, ((IdentityBytes.copied payload (Stream'.const c)).bytes.drop 10).getLast? = some c := by
    intro c
    obtain ⟨k, size⟩ := Nat.exists_eq_add_of_lt short
    have past : 26 - payload.length = k + 1 := by omega
    rw [List.getLast?_drop, if_neg (by rw [IdentityBytes.size]; omega), copied_short _ _ short, past,
      Stream'.take_succ', ← List.append_assoc, List.getLast?_concat, Stream'.get_const]
  have bytes := congrArg (fun addr : Ipv6Addr => addr.toList.getLast?) same
  simp only [IdentityBytes.ipAddr, Vector.toList_mk] at bytes
  rw [last, last] at bytes
  simp at bytes

theorem judged_status (filled : payload.length ≠ 0) (short : payload.length < 26) :
    Independent gnrc fresh behind .sensorStatus g payload ↔ JudgedByPayload behind .sensorStatus g payload := by
  have incomplete : ¬ 26 ≤ payload.length := by omega
  simp only [JudgedByPayload, filled, incomplete, false_or]
  constructor
  · intro independent
    by_cases ended : 0 ∈ payload
    · exact .inl ended
    rcases independent.all_or_none filled short (fun id => by rw [verdict_status, apply_ite Prod.fst]) with
      none | known
    · exact .inr (.inl none)
    refine .inr (.inr fun b spellsB => ?_)
    obtain ⟨value, found⟩ := Option.isSome_iff_exists.mp (show (g.htSensor.view b).isSome = true from known b spellsB)
    refine ⟨value, found, ?_⟩
    -- another name resets another counter
    obtain ⟨e, spellsE, other⟩ := other_spelled ended short behind b
    obtain ⟨x, y, rfl, rfl, same⟩ := independent.same filled short spellsB spellsE
    rw [verdict_status, verdict_status, if_pos (known _ spellsB), if_pos (known _ spellsE)] at same
    have counters := congrArg (fun v => (v.2.1.sensors x.name).map SensorValue.wdt) same
    have kept : x.name ≠ y.name := fun equal => other equal.symm
    simpa [found, refresh, kept, eq_comm] using counters
  · intro judged leftover leftover'
    have spells := read_spelled payload short leftover behind
    have spells' := read_spelled payload short leftover' behind
    rw [decode_some filled, decode_some filled, verdict_status, verdict_status]
    rcases judged with ended | none | rested
    · rw [spells.unique ended spells']
    · rw [if_neg (by simp [none _ spells]), if_neg (by simp [none _ spells'])]
    · have still : ∀ name, Spelled payload behind name → g.holds .sensor name = true ∧
          (fun other => (g.htSensor.view other).map (refresh name other)) = g.htSensor.view := by
        intro name spelled
        obtain ⟨value, found, zero⟩ := rested name spelled
        refine ⟨by simp [Globals.holds, found], ?_⟩
        funext other
        by_cases same : other = name
        · subst same
          cases value
          simp_all [refresh]
        · have kept : refresh name other = id := by
            funext value
            simp [refresh, same]
          simp [kept]
      obtain ⟨known, unchanged⟩ := still _ spells
      obtain ⟨known', unchanged'⟩ := still _ spells'
      rw [if_pos known, if_pos known', unchanged, unchanged']

theorem judged_tap (filled : payload.length ≠ 0) (short : payload.length < 26) :
    Independent gnrc fresh behind .sensorTap g payload ↔ JudgedByPayload behind .sensorTap g payload := by
  have incomplete : ¬ 26 ≤ payload.length := by omega
  simp only [JudgedByPayload, filled, incomplete, false_or]
  constructor
  · intro independent
    by_cases ended : 0 ∈ payload
    · exact .inl ended
    rcases independent.all_or_none filled short (fun id => by rw [verdict_tap, apply_ite Prod.fst]) with
      none | known
    · exact .inr (.inl none)
    refine .inr (.inr ⟨?_, known⟩)
    -- a name that ends inside the log's field tells its length
    by_contra small
    obtain ⟨c, d, spellsC, spellsD, -, apart⟩ := two_spelled ended short behind
    obtain ⟨x, y, rfl, rfl, same⟩ := independent.same filled short spellsC spellsD
    rw [verdict_tap, verdict_tap, if_pos (known _ spellsC), if_pos (known _ spellsD)] at same
    have names : strncpy x.name.chars 10 = strncpy y.name.chars 10 := by simpa [sendLogMsg] using same
    exact apart (by omega) names
  · intro judged leftover leftover'
    have spells := read_spelled payload short leftover behind
    have spells' := read_spelled payload short leftover' behind
    rw [decode_some filled, decode_some filled, verdict_tap, verdict_tap]
    by_cases ended : 0 ∈ payload
    · rw [spells.unique ended spells']
    rcases judged with terminated | none | ⟨long, known⟩
    · exact absurd terminated ended
    · rw [if_neg (by simp [none _ spells]), if_neg (by simp [none _ spells'])]
    · have cut : ∀ name, Spelled payload behind name → strncpy name.chars 10 = payload.take 10 := by
        intro name spelled
        rw [Spelled, if_neg ended] at spelled
        obtain ⟨rest, whole⟩ := spelled.1
        rw [strncpy, ← whole, List.append_assoc, List.take_append_of_le_length long]
      rw [if_pos (known _ spells), if_pos (known _ spells')]
      simp only [sendLogMsg, cut _ spells, cut _ spells']

/-- An accepted name does not stand for the payload alone: the address, or another name that
the payload can be read as, changes the verdict. -/
theorem Independent.not_accepted {kind : Kind} {pending : CString}
    (independent : Independent gnrc fresh behind (.register kind) g payload) (filled : payload.length ≠ 0)
    (short : payload.length < 26) (waiting : g.pending kind = some pending) (absent : g.holds kind pending = false)
    (others : ∀ name, Spelled payload behind name → name ≠ pending →
      ((g.registry kind).rule kind (some name)).2 = .badRequest) :
    ¬ Spelled payload behind pending := by
  intro spells
  by_cases ended : 0 ∈ payload
  · have accepted : ∀ c, (verdict gnrc fresh (.register kind) g (decode payload (Stream'.const c) behind)).2.1.address
        pending kind = some (IdentityBytes.copied payload (Stream'.const c)).ipAddr := by
      intro c
      obtain rfl := (read_spelled payload short (Stream'.const c) behind).unique ended spells
      rw [decode_some filled]
      exact verdict_accepted gnrc fresh kind g _ waiting absent
    have first := accepted 0
    rw [independent (Stream'.const 0) (Stream'.const 1), accepted 1] at first
    exact address_differs short (Option.some.inj first).symm
  · obtain ⟨e, spellsE, other⟩ := other_spelled ended short behind pending
    obtain ⟨x, y, rfl, rfl, same⟩ := independent.same filled short spells spellsE
    have codes := congrArg Prod.fst same
    rw [(verdict_rule ..).1, (verdict_rule ..).1, others _ spellsE other] at codes
    cases kind <;>
      simp [Registry.rule, Registry.request, Globals.registry, waiting, absent] at codes

/-- Names that are all refused in the same way are judged alike. -/
theorem Independent.of_refused {kind : Kind} (filled : payload.length ≠ 0) (short : payload.length < 26) (forgets : Bool)
    (refused : ∀ id : NodeIdentity, Spelled payload behind id.name →
      g.accepts kind (some id) = false ∧ g.forgets kind (some id) = forgets) :
    Independent gnrc fresh behind (.register kind) g payload := by
  intro leftover leftover'
  obtain ⟨closed, lost⟩ := refused _ (read_spelled payload short leftover behind)
  obtain ⟨closed', lost'⟩ := refused _ (read_spelled payload short leftover' behind)
  rw [decode_some filled, decode_some filled, verdict_unaccepted gnrc fresh kind g _ closed,
    verdict_unaccepted gnrc fresh kind g _ closed', lost, lost']

theorem judged_sensorRegister (filled : payload.length ≠ 0) (short : payload.length < 26) :
    Independent gnrc fresh behind .sensorRegister g payload ↔ JudgedByPayload behind .sensorRegister g payload := by
  have incomplete : ¬ 26 ≤ payload.length := by omega
  simp only [JudgedByPayload, filled, incomplete, false_or]
  constructor
  · intro independent pending waiting
    by_cases known : ∀ name, Spelled payload behind name → g.holds .sensor name = true
    · exact .inl known
    push Not at known
    obtain ⟨a, spellsA, unknownA⟩ := known
    have waits : g.pending .sensor = some pending := waiting
    have registers : Independent gnrc fresh behind (.register .sensor) g payload := independent
    -- a stored name leaves the pending one alone, this name does not
    have unknown : ∀ name, Spelled payload behind name → g.holds .sensor name = false := by
      intro name spells
      by_contra stored
      have stored : g.holds .sensor name = true := by simpa using stored
      obtain ⟨x, y, rfl, rfl, same⟩ := registers.same filled short spellsA spells
      have codes := congrArg Prod.fst same
      have names := congrArg (fun v => v.2.1.pending .sensor) same
      simp only [(verdict_rule ..).1, (verdict_rule ..).2, Registry.rule, Registry.request, Globals.registry, waits,
        stored, unknownA] at codes names
      by_cases own : pending = x.name <;> simp [own] at codes names
    have differ : ¬ Spelled payload behind pending := by
      intro spells
      apply registers.not_accepted filled short waits (unknown _ spells) _ spells
      intro name spelled other
      have apart : pending ≠ name := fun equal => other equal.symm
      simp [Registry.rule, Registry.request, Globals.registry, waits, unknown _ spelled, apart]
    exact .inr fun name spells => ⟨unknown name spells, fun own => differ (own ▸ spells)⟩
  · intro judged
    change Independent gnrc fresh behind (.register .sensor) g payload
    cases waiting : g.sensorId with
    | none =>
      refine .of_refused filled short false fun id _ => ?_
      simp [Globals.accepts, Globals.forgets, Globals.pending, waiting]
    | some pending =>
      rcases judged pending waiting with known | unknown
      · refine .of_refused filled short false fun id spells => ?_
        simp [Globals.accepts, Globals.forgets, known _ spells]
      · refine .of_refused filled short true fun id spells => ?_
        obtain ⟨absent, differ⟩ := unknown _ spells
        simp [Globals.accepts, Globals.forgets, Globals.pending, waiting, absent, differ]

theorem judged_actuatorRegister (filled : payload.length ≠ 0) (short : payload.length < 26) :
    Independent gnrc fresh behind .actuatorRegister g payload ↔ JudgedByPayload behind .actuatorRegister g payload := by
  have incomplete : ¬ 26 ≤ payload.length := by omega
  simp only [JudgedByPayload, filled, incomplete, false_or]
  constructor
  · intro independent pending waiting
    by_cases known : g.holds .actuator pending = true
    · exact .inl known
    have waits : g.pending .actuator = some pending := waiting
    have registers : Independent gnrc fresh behind (.register .actuator) g payload := independent
    have absent : g.holds .actuator pending = false := by simpa using known
    have differ : ¬ Spelled payload behind pending := by
      apply registers.not_accepted filled short waits absent
      intro name spelled other
      have apart : pending ≠ name := fun equal => other equal.symm
      simp [Registry.rule, Registry.request, Globals.registry, waits, absent, apart]
    exact .inr fun name spells own => differ (own ▸ spells)
  · intro judged
    change Independent gnrc fresh behind (.register .actuator) g payload
    cases waiting : g.actuatorId with
    | none =>
      refine .of_refused filled short false fun id _ => ?_
      simp [Globals.accepts, Globals.forgets, Globals.pending, waiting]
    | some pending =>
      by_cases known : g.holds .actuator pending = true
      · refine .of_refused filled short false fun id _ => ?_
        by_cases own : pending = id.name
        · simp [Globals.accepts, Globals.forgets, Globals.pending, waiting, ← own, known]
        · simp [Globals.accepts, Globals.forgets, Globals.pending, waiting, own, known]
      · have differ := (judged pending waiting).resolve_left known
        refine .of_refused filled short true fun id spells => ?_
        simp [Globals.accepts, Globals.forgets, Globals.pending, waiting, differ _ spells, known]

end

/-- A request is judged by its payload only, in the given state and with the given memory
behind the copy, exactly under these conditions. The ten bytes of a status request are, if
they contain a terminator, or no name that they can be read as is stored, or all of those
are and their counters are zero. -/
theorem judged_by_payload_iff (gnrc : Gnrc) (fresh : Vector UInt8 10) (behind : CString) (resource : Resource)
    (g : Globals) (payload : List UInt8) :
    Independent gnrc fresh behind resource g payload ↔ JudgedByPayload behind resource g payload := by
  by_cases empty : payload.length = 0
  · refine iff_of_true (fun leftover leftover' => ?_) (.inl empty)
    simp [decode, empty]
  by_cases long : 26 ≤ payload.length
  · refine iff_of_true (fun leftover leftover' => ?_) (.inr (.inl long))
    rw [decode_some empty, decode_some empty, copied_long payload leftover leftover' long]
  have short : payload.length < 26 := by omega
  cases resource with
  | actuatorRegister => exact judged_actuatorRegister empty short
  | sensorRegister => exact judged_sensorRegister empty short
  | sensorStatus => exact judged_status empty short
  | sensorTap => exact judged_tap empty short

/-- Ten characters are stored, and a node of that name sends its status. -/
def tenStored : Globals := (registerHandler board .sensor (waitingFor .sensor tenCharacters)
  (some { tapsense with name := tenCharacters })).1

/-- The node's ten bytes have no terminator, so its status request is believed or not as the
buffer's next byte has it. -/
theorem status_depends_on_leftover :
    ¬ ∀ gnrc fresh behind resource g payload, Independent gnrc fresh behind resource g payload := by
  intro claim
  have same := claim board (Vector.replicate 10 0) ⟨[],by decide⟩ .sensorStatus tenStored
    (unnamed.setName tenCharacters).1.coapStatusPut (Stream'.const 0) (Stream'.const 1)
  have codes := congrArg Prod.fst same
  revert codes
  decide

end RiotAlarm.Gateway
