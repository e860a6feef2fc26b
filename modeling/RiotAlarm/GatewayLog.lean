import Mathlib
import RiotAlarm.CMemory
import RiotAlarm.GatewayShell

/-! The log: the message block that `send_log_msg` fills and posts, the entry that
`log_thread` formats from it, and the one string that all entries are appended to. -/
namespace RiotAlarm.Gateway

open CMemory Transition

/-- The text that `send_log_msg` is called with. -/
def LogMessage.text : LogMessage → CString
  -- "Sensor authorized: "
  | .sensorAuthorized =>
    ⟨[83, 101, 110, 115, 111, 114, 32, 97, 117, 116, 104, 111, 114, 105, 122, 101, 100, 58, 32], by decide⟩
  -- "Sensor deauthorized"
  | .sensorDeauthorized =>
    ⟨[83, 101, 110, 115, 111, 114, 32, 100, 101, 97, 117, 116, 104, 111, 114, 105, 122, 101, 100], by
      decide⟩
  -- "Actuator authorized: "
  | .actuatorAuthorized =>
    ⟨[65, 99, 116, 117, 97, 116, 111, 114, 32, 97, 117, 116, 104, 111, 114, 105, 122, 101, 100, 58, 32], by
      decide⟩
  -- "Actuator deauthorized: "
  | .actuatorDeauthorized =>
    ⟨[65, 99, 116, 117, 97, 116, 111, 114, 32, 100, 101, 97, 117, 116, 104, 111, 114, 105, 122, 101, 100,
      58, 32], by decide⟩
  -- "Alarm Engaged!"
  | .alarmEngaged => ⟨[65, 108, 97, 114, 109, 32, 69, 110, 103, 97, 103, 101, 100, 33], by decide⟩
  -- "Alarm Disengaged!"
  | .alarmDisengaged =>
    ⟨[65, 108, 97, 114, 109, 32, 68, 105, 115, 101, 110, 103, 97, 103, 101, 100, 33], by decide⟩
  -- "Test Alarm"
  | .testAlarm => ⟨[84, 101, 115, 116, 32, 65, 108, 97, 114, 109], by decide⟩
  -- "Sensor fired: "
  | .sensorFired => ⟨[83, 101, 110, 115, 111, 114, 32, 102, 105, 114, 101, 100, 58, 32], by decide⟩

/-- "Server Started" -/
def serverStarted : CString :=
  ⟨[83, 101, 114, 118, 101, 114, 32, 83, 116, 97, 114, 116, 101, 100], by decide⟩

/-- `struct log_msg`. -/
structure LogMsg where
  message : List UInt8
  name : List UInt8
  messageSize : message.length = 30
  nameSize : name.length = 10

/-- The block that `send_log_msg` posts. `fresh` is what `malloc` left in the name field: for
a NULL name only the first byte of it is written. -/
def sendLogMsg (fresh : Vector UInt8 10) (message : CString) (name : Option CString) : LogMsg where
  message := strncpy message.chars 30
  name := match name with
    | some name => strncpy name.chars 10
    | none => 0 :: fresh.toList.drop 1
  messageSize := length_strncpy _ _
  nameSize := by cases name <;> simp [length_strncpy]

/-- "%ld" of a number that is not negative. -/
def decimal (n : Nat) : List UInt8 := (Nat.toDigits 10 n).map fun c => c.toNat.toUInt8

/-- The entry of `log_thread`, as far as it is a string: "%ldS: %s %s\n". The test
`logmsg->name != NULL` is about an array, so the other format is never used. `behind` is what
follows the block in memory. -/
def logEntry (usec : UInt32) (msg : LogMsg) (behind : CString) : List UInt8 :=
  decimal (usec.toNat / 1000000) ++ [83, 58, 32] ++ text (msg.message ++ msg.name ++ behind.chars) ++ [32] ++
    text (msg.name ++ behind.chars) ++ [10]

/-- A call of `send_log_msg` and the circumstances of its delivery: what was in the new
block, what follows the block, and the clock when the message is received. -/
structure Delivery where
  message : CString
  name : Option CString
  fresh : Vector UInt8 10
  usec : UInt32
  behind : CString

namespace Delivery
variable (d : Delivery)

def msg : LogMsg := sendLogMsg d.fresh d.message d.name
def entry : List UInt8 := logEntry d.usec d.msg d.behind
def nameLen : Nat := (d.name.map strlen).getD 0

/-- Digits of the seconds; a 32-bit microsecond clock shows at most 4294 of them. -/
def digits : Nat :=
  let seconds := d.usec.toNat / 1000000
  if seconds < 10 then 1 else if seconds < 100 then 2 else if seconds < 1000 then 3 else 4

/-- Characters of the entry, if its fields are terminated. -/
def width : Nat := d.digits + strlen d.message + d.nameLen + 5

end Delivery

/-- `strcat` of one entry after the other. -/
def logAfter (deliveries : List Delivery) : List UInt8 := deliveries.foldl (fun log d => log ++ d.entry) []

/-- Both fields of the block are terminated, and the entry fits `char entry[30]`. -/
structure Legible (d : Delivery) : Prop where
  message : 0 ∈ d.msg.message
  name : 0 ∈ d.msg.name
  entry : d.entry.length + 1 ≤ 30

/-- All entries are legible, and the log never outgrows `char log[4096]`. -/
structure LogSound (deliveries : List Delivery) : Prop where
  legible : ∀ d ∈ deliveries, Legible d
  bounded : ∀ before, before <+: deliveries → (logAfter before).length + 1 ≤ 4096

theorem length_decimal (n : Nat) (bound : n < 10000) :
    (decimal n).length = if n < 10 then 1 else if n < 100 then 2 else if n < 1000 then 3 else 4 := by
  have length : ∀ m, (Nat.toDigits 10 m).length = if m < 10 then 1 else (Nat.toDigits 10 (m / 10)).length + 1 := by
    intro m
    rw [Nat.toDigits_eq_if (by omega)]
    split <;> simp
  have last : n / 10 / 10 / 10 < 10 := by omega
  rw [decimal, List.length_map, length n, length (n / 10), length (n / 10 / 10), length (n / 10 / 10 / 10), if_pos last]
  grind

theorem zero_mem_name (d : Delivery) : 0 ∈ d.msg.name ↔ d.nameLen < 10 := by
  cases named : d.name with
  | none => simp [Delivery.msg, sendLogMsg, Delivery.nameLen, named]
  | some name =>
    simpa [Delivery.msg, sendLogMsg, Delivery.nameLen, named, strlen] using zero_mem_strncpy _ name.terminated

theorem text_name (d : Delivery) (short : d.nameLen < 10) (other : List UInt8) :
    (text (d.msg.name ++ other)).length = d.nameLen := by
  cases named : d.name with
  | none => simp [Delivery.msg, sendLogMsg, Delivery.nameLen, named, text]
  | some name =>
    have fits : name.chars.length < 10 := by simpa [Delivery.nameLen, named, strlen] using short
    have read := text_strncpy name.chars other name.terminated fits
    simp [Delivery.msg, sendLogMsg, Delivery.nameLen, named, read, strlen]

theorem length_entry (d : Delivery) (message : strlen d.message < 30) (name : d.nameLen < 10) :
    d.entry.length = d.width := by
  have clock : d.usec.toNat / 1000000 < 10000 := by
    have := d.usec.toNat_lt
    omega
  have read : text (d.msg.message ++ d.msg.name ++ d.behind.chars) = d.message.chars := by
    rw [List.append_assoc]
    exact text_strncpy _ _ d.message.terminated message
  simp only [Delivery.entry, logEntry, List.length_append, length_decimal _ clock, read,
    text_name d name d.behind.chars, Delivery.width, Delivery.digits, strlen, List.length_cons, List.length_nil]
  omega

/-- An entry is legible exactly if its name has a byte to spare and its three parts leave
room for the six characters of the format. -/
theorem legible_iff (d : Delivery) : Legible d ↔ d.nameLen ≤ 9 ∧ d.digits + strlen d.message + d.nameLen ≤ 24 := by
  constructor
  · intro legible
    have message := (zero_mem_strncpy _ d.message.terminated).mp legible.message
    have name := (zero_mem_name d).mp legible.name
    have entry := legible.entry
    rw [length_entry d message name, Delivery.width] at entry
    omega
  · rintro ⟨short, fits⟩
    have message : strlen d.message < 30 := by omega
    have name : d.nameLen < 10 := by omega
    constructor
    case message => exact (zero_mem_strncpy _ d.message.terminated).mpr message
    case name => exact (zero_mem_name d).mpr name
    case entry =>
      rw [length_entry d message name, Delivery.width]
      omega

theorem logAfter_eq (deliveries : List Delivery) : logAfter deliveries = deliveries.flatMap Delivery.entry := by
  induction deliveries using List.reverseRecOn with
  | nil => rfl
  | append_singleton rest d ih =>
    rw [logAfter, List.foldl_append, List.flatMap_append]
    simpa [logAfter] using ih

theorem length_logAfter (deliveries : List Delivery) :
    (logAfter deliveries).length = (deliveries.map fun d => d.entry.length).sum := by
  rw [logAfter_eq, List.length_flatMap]

theorem length_logAfter_legible {deliveries : List Delivery} (legible : ∀ d ∈ deliveries, Legible d) :
    (logAfter deliveries).length = (deliveries.map Delivery.width).sum := by
  rw [length_logAfter]
  congr 1
  apply List.map_congr_left
  intro d member
  obtain ⟨short, fits⟩ := (legible_iff d).mp (legible d member)
  exact length_entry d (by omega) (by omega)

/-- The calls of `send_log_msg` in a run: the one in `init`, and one for each log event. -/
def postings (trace : List Event) : List (CString × Option CString) :=
  (serverStarted,none) :: trace.filterMap fun
    | .logged message name => some (message.text,name)
    | _ => none

/-- What surrounds one delivery. -/
structure Surroundings where
  fresh : Vector UInt8 10
  usec : UInt32
  behind : CString

/-- The deliveries of a run, as many of them as there are surroundings for. -/
def deliver (trace : List Event) (surroundings : List Surroundings) : List Delivery :=
  (postings trace).zipWith (fun posted at_ => ⟨posted.1,posted.2,at_.fresh,at_.usec,at_.behind⟩) surroundings

/-- The log keeps within its three buffers exactly if every name, together with its text and
the digits of the clock, is short enough, and all entries together leave room for the
terminator. -/
theorem log_sound_iff (trace : List Event) (surroundings : List Surroundings) :
    LogSound (deliver trace surroundings) ↔
      (∀ d ∈ deliver trace surroundings, d.nameLen ≤ 9 ∧ d.digits + strlen d.message + d.nameLen ≤ 24) ∧
        ((deliver trace surroundings).map Delivery.width).sum ≤ 4095 := by
  constructor
  · intro sound
    refine ⟨fun d member => (legible_iff d).mp (sound.legible d member), ?_⟩
    have whole := sound.bounded _ (List.prefix_refl _)
    rw [length_logAfter_legible sound.legible] at whole
    omega
  · rintro ⟨short, total⟩
    have legible : ∀ d ∈ deliver trace surroundings, Legible d := fun d member => (legible_iff d).mpr (short d member)
    refine ⟨legible, fun before isPrefix => ?_⟩
    rw [length_logAfter_legible fun d member => legible d (isPrefix.subset member)]
    obtain ⟨rest, whole⟩ := isPrefix
    rw [← whole, List.map_append, List.sum_append_nat] at total
    omega

/-- The actuator that every board is started as is authorized. -/
def authAct2 : List Action :=
  [.type (.auth .actuator [act2.name]),.shell,.shell,.shell,.run (.register .actuator (some act2)),
    .shell,.shell,.shell,.shell]

/-- In the first second, with cleared blocks. -/
def quietly : Surroundings := ⟨Vector.replicate 10 0,0,⟨[],by decide⟩⟩

theorem log_entry_overflows :
    ¬ ∀ gnrc trace s, Path (step gnrc) anything start trace s →
      ∀ surroundings, LogSound (deliver trace surroundings) := by
  intro claim
  have run : ∃ s trace, Path (step board) anything start trace s ∧
      (deliver trace [quietly,quietly]).any (fun d => decide (30 < d.entry.length + 1)) = true :=
    replay_reaches authAct2 (fun (_ : Server) trace =>
      (deliver trace [quietly,quietly]).any (fun d => decide (30 < d.entry.length + 1)) = true) (by decide)
  obtain ⟨s, trace, path, overflow⟩ := run
  obtain ⟨d, member, long⟩ := List.any_eq_true.mp overflow
  have fits := ((claim board trace s path _).legible d member).entry
  have long : 30 < d.entry.length + 1 := of_decide_eq_true long
  omega

/-! What the log tells, and when it says that it happened. -/

theorem digit_byte {c : Char} (digit : c.isDigit = true) :
    c.toNat.toUInt8.toNat = c.toNat ∧ 48 ≤ c.toNat ∧ c.toNat ≤ 57 := by
  obtain ⟨least, most⟩ : 48 ≤ c.toNat ∧ c.toNat ≤ 57 := Char.isDigit_iff_toNat.mp digit
  refine ⟨?_, least, most⟩
  simp only [Nat.toUInt8_eq, UInt8.toNat_ofNat']
  omega

theorem isDigit_byte {c : Char} (digit : c.isDigit = true) : isDigit c.toNat.toUInt8 = true := by
  obtain ⟨same, least, most⟩ := digit_byte digit
  simp only [isDigit, Bool.and_eq_true, decide_eq_true_eq, UInt8.le_iff_toNat_le, same]
  exact ⟨least, most⟩

theorem digits_of_digits {l : List Char} (isDigits : ∀ c ∈ l, c.isDigit = true) (init : Nat) :
    (l.map fun c => c.toNat.toUInt8).foldl (fun (value : Int) c => value * 10 + (c.toNat - 48)) init =
      Nat.ofDigitChars 10 l init := by
  induction l generalizing init with
  | nil => simp
  | cons c rest ih =>
    obtain ⟨same, least, -⟩ := digit_byte (isDigits c (by simp))
    have value : (init : Int) * 10 + (c.toNat.toUInt8.toNat - 48) = (10 * init + (c.toNat - '0'.toNat) : Nat) := by
      rw [same]
      have zero : '0'.toNat = 48 := rfl
      omega
    rw [List.map_cons, List.foldl_cons, value, ih (fun d member => isDigits d (by simp [member])),
      Nat.ofDigitChars_cons]

/-- A printed number is read back, whatever follows that is no digit. -/
theorem digits_decimal (n : Nat) {b : UInt8} (rest : List UInt8) (stops : isDigit b = false) :
    digits (decimal n ++ b :: rest) = n := by
  have isDigits : ∀ c ∈ Nat.toDigits 10 n, c.isDigit = true :=
    fun c member => Nat.isDigit_of_mem_toDigits (by omega) (by omega) member
  have printed : (decimal n ++ b :: rest).takeWhile isDigit = decimal n := by
    rw [List.takeWhile_append_of_pos]
    · simp [stops]
    · intro c member
      obtain ⟨ch, inDigits, rfl⟩ := List.mem_map.mp member
      exact isDigit_byte (isDigits ch inDigits)
  rw [digits, printed, decimal]
  exact (digits_of_digits isDigits 0).trans (congrArg Nat.cast Nat.ofDigitChars_ten_toDigits)

/-- A call of `send_log_msg` that is delivered at a real time, in microseconds since boot,
however long ago that was. -/
structure Happening where
  message : CString
  name : Option CString
  micros : Nat
  fresh : Vector UInt8 10
  behind : CString

namespace Happening
variable (h : Happening)

/-- `xtimer_now_usec` has 32 bits. -/
def delivery : Delivery := ⟨h.message,h.name,h.fresh,.ofNat h.micros,h.behind⟩

def nameChars : List UInt8 := (h.name.map CString.chars).getD []

/-- The line that tells it: whole seconds since boot, the message and the name, which is
empty when none was given. -/
def line : List UInt8 :=
  decimal (h.micros / 1000000) ++ 83 :: 58 :: 32 :: (h.message.chars ++ 32 :: (h.nameChars ++ [10]))

/-- The seconds that the entry begins with. -/
def loggedSeconds : Int := digits h.delivery.entry

end Happening

/-- The lines fit `char entry[30]`, and all of them `char log[4096]`. -/
structure Suffices (history : List Happening) : Prop where
  entry : ∀ h ∈ history, h.line.length + 1 ≤ 30
  log : (history.flatMap Happening.line).length + 1 ≤ 4096

/-- After every delivery the log consists of the lines of all deliveries so far, and its
times never decrease. -/
structure Tells (history : List Happening) : Prop where
  log : ∀ before, before <+: history → logAfter (before.map Happening.delivery) = before.flatMap Happening.line
  times : (history.map Happening.loggedSeconds).Pairwise (· ≤ ·)

/-- The clock has not wrapped yet, and a name that fills its field is completed by what
happens to stand behind the block. -/
def Happening.Faithful (h : Happening) : Prop :=
  h.micros < 2 ^ 32 ∧ (h.nameChars.length < 10 ∨ h.nameChars.drop 10 = h.behind.chars)

theorem entry_eq (h : Happening) (short : strlen h.message < 30) :
    h.delivery.entry = decimal (h.micros % 2 ^ 32 / 1000000) ++
      83 :: 58 :: 32 :: (h.message.chars ++ 32 :: (text (h.delivery.msg.name ++ h.behind.chars) ++ [10])) := by
  have read : text (h.delivery.msg.message ++ h.delivery.msg.name ++ h.behind.chars) = h.message.chars := by
    rw [List.append_assoc]
    exact text_strncpy _ _ h.message.terminated short
  have clock : h.delivery.usec.toNat = h.micros % 2 ^ 32 := UInt32.toNat_ofNat'
  simp only [Delivery.entry, logEntry, clock]
  rw [show h.delivery.behind = h.behind from rfl, read]
  simp

theorem text_name_iff (h : Happening) : text (h.delivery.msg.name ++ h.behind.chars) = h.nameChars ↔
    h.nameChars.length < 10 ∨ h.nameChars.drop 10 = h.behind.chars := by
  cases named : h.name with
  | none => simp [Happening.delivery, Happening.nameChars, Delivery.msg, sendLogMsg, named, text]
  | some name =>
    have chars : h.nameChars = name.chars := by simp [Happening.nameChars, named]
    have field : h.delivery.msg.name = strncpy name.chars 10 := by
      simp [Happening.delivery, Delivery.msg, sendLogMsg, named]
    rw [chars, field]
    by_cases short : name.chars.length < 10
    · simp [text_strncpy _ _ name.terminated short, short]
    · rw [text_strncpy_long _ _ name.terminated (by omega), text_of_plain _ h.behind.terminated]
      constructor
      · intro whole
        have parts := whole.trans (List.take_append_drop 10 name.chars).symm
        exact .inr (List.append_cancel_left parts).symm
      · rintro (less | rest)
        · exact absurd less short
        · rw [← rest, List.take_append_drop]

/-- A 32-bit clock shows the real seconds exactly until it wraps for the first time. -/
theorem clock_iff (micros : Nat) : micros % 2 ^ 32 / 1000000 = micros / 1000000 ↔ micros < 2 ^ 32 := by
  constructor
  · intro same
    by_contra wrapped
    have less : micros % 2 ^ 32 + 2 ^ 32 ≤ micros := by omega
    omega
  · intro early
    rw [Nat.mod_eq_of_lt early]

theorem loggedSeconds_eq (h : Happening) (short : strlen h.message < 30) :
    h.loggedSeconds = (h.micros % 2 ^ 32 / 1000000 : Nat) := by
  rw [Happening.loggedSeconds, entry_eq h short, digits_decimal _ _ (by decide)]

/-- One entry is the line that the delivery calls for. -/
theorem entry_eq_line_iff (h : Happening) (short : strlen h.message < 30) :
    h.delivery.entry = h.line ↔ h.Faithful := by
  rw [Happening.Faithful, ← clock_iff, ← text_name_iff, entry_eq h short, Happening.line]
  constructor
  · intro same
    have seconds := congrArg digits same
    rw [digits_decimal _ _ (by decide), digits_decimal _ _ (by decide)] at seconds
    have clock := Int.ofNat_inj.mp seconds
    rw [clock] at same
    have behind := (List.cons.inj (List.append_cancel_left same)).2
    simp only [List.cons.injEq, List.append_cancel_left_eq, true_and] at behind
    exact ⟨clock, List.append_cancel_right behind⟩
  · rintro ⟨clock, name⟩
    rw [clock, name]

theorem Suffices.message {history : List Happening} (suffices_ : Suffices history) (member : h ∈ history) :
    strlen h.message < 30 := by
  have fits := suffices_.entry h member
  simp only [Happening.line, List.length_append, List.length_cons] at fits
  rw [strlen]
  omega

/-- The log tells what happened and when exactly if every delivery comes before the clock
wraps and every name leaves room in its field, or is completed by what stands behind it. -/
theorem log_tells_iff (history : List Happening) (enough : Suffices history)
    (ordered : (history.map Happening.micros).Pairwise (· ≤ ·)) :
    Tells history ↔ ∀ h ∈ history, h.Faithful := by
  constructor
  · intro tells h member
    obtain ⟨before, after, rfl⟩ := List.append_of_mem member
    have here := tells.log (before ++ [h]) ⟨after, by simp⟩
    have earlier := tells.log before ⟨h :: after, rfl⟩
    rw [logAfter_eq] at here earlier
    rw [List.map_append, List.flatMap_append, List.flatMap_append, earlier] at here
    have entry := List.append_cancel_left here
    apply (entry_eq_line_iff h (enough.message member)).mp
    simpa using entry
  · intro faithful
    have entries : ∀ h ∈ history, h.delivery.entry = h.line :=
      fun h member => (entry_eq_line_iff h (enough.message member)).mpr (faithful h member)
    constructor
    case log =>
      intro before isPrefix
      rw [logAfter_eq, List.flatMap_map]
      exact List.flatMap_congr fun h member => entries h (isPrefix.subset member)
    case times =>
      rw [List.pairwise_map] at ordered ⊢
      refine ordered.imp_of_mem fun {a b} first second order => ?_
      rw [loggedSeconds_eq a (enough.message first), loggedSeconds_eq b (enough.message second),
        (clock_iff _).mpr (faithful a first).1, (clock_iff _).mpr (faithful b second).1]
      exact Int.ofNat_le.mpr (Nat.div_le_div_right order)

/-- The alarm is engaged, a sensor fires, and another one just before the clock wraps. -/
def withinTheHour : List Happening :=
  [⟨LogMessage.alarmEngaged.text,none,3000000,Vector.replicate 10 0,quietly.behind⟩,
    ⟨LogMessage.sensorFired.text,some tapsense.name,9999999,Vector.replicate 10 0,quietly.behind⟩,
    ⟨LogMessage.sensorFired.text,some ⟨[116, 97, 112],by decide⟩,2 ^ 32 - 1,Vector.replicate 10 0,quietly.behind⟩]

theorem log_tells_run : Tells withinTheHour := by
  have enough : Suffices withinTheHour := ⟨by decide +kernel, by decide +kernel⟩
  have ordered : (withinTheHour.map Happening.micros).Pairwise (· ≤ ·) := by decide +kernel
  refine (log_tells_iff withinTheHour enough ordered).mpr fun h member => ?_
  simp only [withinTheHour, List.mem_cons, List.not_mem_nil, or_false] at member
  rcases member with rfl | rfl | rfl <;> exact ⟨by decide, .inl (by decide)⟩

/-- The alarm is engaged just before the clock wraps, and disengaged as it wraps. -/
def aroundTheWrap : List Happening :=
  [⟨LogMessage.alarmEngaged.text,none,2 ^ 32 - 1,Vector.replicate 10 0,quietly.behind⟩,
    ⟨LogMessage.alarmDisengaged.text,none,2 ^ 32,Vector.replicate 10 0,quietly.behind⟩]

theorem aroundTheWrap_suffices : Suffices aroundTheWrap := ⟨by decide +kernel, by decide +kernel⟩

/-- The second line says that it happened in second 0, after second 4294. -/
theorem log_goes_back :
    ¬ ∀ history, Suffices history → (history.map Happening.micros).Pairwise (· ≤ ·) → Tells history := by
  intro claim
  have times := (claim aroundTheWrap aroundTheWrap_suffices (by decide)).times
  have engaged : strlen LogMessage.alarmEngaged.text < 30 := by decide
  have disengaged : strlen LogMessage.alarmDisengaged.text < 30 := by decide
  simp [aroundTheWrap, loggedSeconds_eq, engaged, disengaged] at times

end RiotAlarm.Gateway
