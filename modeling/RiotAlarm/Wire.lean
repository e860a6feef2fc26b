import Mathlib
import RiotAlarm.CMemory
import RiotAlarm.GatewayNode
import RiotAlarm.SensorNode

/-! A gateway command as bytes: what `coap_put` copies from behind the message pointer,
and what the nodes' handlers read in the receive buffer, which is not cleared between
two requests. -/
namespace RiotAlarm.Wire

open CMemory

/-- `sizeof(message)` in `coap_put`: `message` is a pointer, and those of the board have
four bytes. -/
def MESSAGE_SIZE : Nat := 4

/-- The payload that `coap_put` emits. `beyond` is what stands in memory behind the
message's terminator. -/
def coapPut (message : CString) (beyond : Stream' UInt8) : List UInt8 :=
  (message.chars ++ₛ Stream'.cons 0 beyond).take MESSAGE_SIZE

/-- `coap_pkt_t` as a handler sees it: the payload's length, and the memory it starts in. -/
structure Pdu where
  payloadLen : Nat
  payload : Stream' UInt8

/-- The payload in a buffer that held other bytes before. -/
def received (payload : List UInt8) (leftover : Stream' UInt8) : Pdu := ⟨payload.length,payload ++ₛ leftover⟩

theorem on_terminated : (0 : UInt8) ∉ [79, 78] := by decide

/-- "ON" -/
def TURN_ON_ALARM : CString := ⟨[79, 78], on_terminated⟩

example : Gateway.Message.on.payload = TURN_ON_ALARM := rfl

inductive Answer where
  | response (code : Gateway.Code)
  | returned (value : Nat)
  deriving DecidableEq

/-- What a node's handler leaves behind: the flag, whether the detection thread was woken,
and the answer. -/
structure Connection where
  connectionStatus : Bool
  woken : Bool
  answer : Answer

/-- `_gateway_connection_handler`, with what the nodes differ in: only a sensor has a thread
to wake up. -/
def connectionHandler (wakes : Bool) (pdu : Pdu) (connectionStatus : Bool) : Connection :=
  if pdu.payloadLen ≠ 0 then
    if compareAt pdu.payload REGISTER_RESPONSE.chars = 0 then ⟨true,wakes,.response .changed⟩
    else if compareAt pdu.payload DEREGISTER_RESPONSE.chars = 0 then ⟨false,false,.response .changed⟩
    else ⟨connectionStatus,false,.returned 1⟩
  else ⟨connectionStatus,false,.response .badRequest⟩

def sensorConnectionHandler : Pdu → Bool → Connection := connectionHandler true
def actuatorConnectionHandler : Pdu → Bool → Connection := connectionHandler false

/-- The actuator's `_gateway_handler`: whether `actuator_fire` is called, and the answer. -/
def gatewayHandler (pdu : Pdu) : Bool × Answer :=
  if pdu.payloadLen ≠ 0 then
    if compareAt pdu.payload TURN_ON_ALARM.chars = 0 then (true,.response .changed)
    else (false,.returned 0)
  else (false,.response .badRequest)

theorem compareAt_eq_zero_iff {memory : Stream' UInt8} {s : CString} (spelled : Spells memory s.chars) (t : CString) :
    compareAt memory t.chars = 0 ↔ s = t := by
  rw [compareAt_eq_zero]
  constructor
  · intro also
    have same := spelled.unique also s.terminated t.terminated
    cases s; cases t
    simpa using same
  · rintro rfl
    exact spelled

/-- The handlers on a payload that reads as a string. -/
theorem connectionHandler_eq {pdu : Pdu} {s : CString} (wakes : Bool) (spelled : Spells pdu.payload s.chars)
    (filled : pdu.payloadLen ≠ 0) (connectionStatus : Bool) :
    connectionHandler wakes pdu connectionStatus =
      if s = REGISTER_RESPONSE then ⟨true,wakes,.response .changed⟩
      else if s = DEREGISTER_RESPONSE then ⟨false,false,.response .changed⟩
      else ⟨connectionStatus,false,.returned 1⟩ := by
  rw [connectionHandler, if_pos filled]
  simp only [compareAt_eq_zero_iff spelled]

/-- A sensor that reads a string in the buffer goes where the node's machine goes. -/
theorem sensorConnectionHandler_dispatch {pdu : Pdu} {s : CString} (spelled : Spells pdu.payload s.chars)
    (filled : pdu.payloadLen ≠ 0) (connectionStatus : Bool) :
    sensorConnectionHandler pdu connectionStatus =
      match Sensor.dispatch (some s) with
      | .connect => ⟨true,true,.response .changed⟩
      | .disconnect => ⟨false,false,.response .changed⟩
      | _ => ⟨connectionStatus,false,.returned 1⟩ := by
  rw [sensorConnectionHandler, connectionHandler_eq true spelled filled]
  simp only [Sensor.dispatch, strcmp_eq_zero]
  split
  · rfl
  · split <;> rfl

/-- What the command asks of a node's `connection_status`. -/
def commanded (message : CString) (connectionStatus : Bool) : Bool :=
  if message = REGISTER_RESPONSE then true
  else if message = DEREGISTER_RESPONSE then false
  else connectionStatus

/-- The message arrives: the payload says nothing else, the receiver reads it, and every
handler does what was sent. -/
structure Delivered (message : CString) (beyond leftover : Stream' UInt8) : Prop where
  determined : ∀ other, coapPut message other = coapPut message beyond
  readBack : Spells (received (coapPut message beyond) leftover).payload message.chars
  sensor : ∀ connectionStatus, (sensorConnectionHandler (received (coapPut message beyond) leftover)
    connectionStatus).connectionStatus = commanded message connectionStatus
  actuator : ∀ connectionStatus, (actuatorConnectionHandler (received (coapPut message beyond) leftover)
    connectionStatus).connectionStatus = commanded message connectionStatus
  fires : (gatewayHandler (received (coapPut message beyond) leftover)).1 = decide (message = TURN_ON_ALARM)

theorem payloadLen_coapPut (message : CString) (beyond leftover : Stream' UInt8) :
    (received (coapPut message beyond) leftover).payloadLen = 4 := by
  simp [received, coapPut, MESSAGE_SIZE]

/-- A handler that reads the message does what was sent. -/
theorem connectionHandler_commanded (wakes : Bool) {pdu : Pdu} {message : CString}
    (spelled : Spells pdu.payload message.chars) (filled : pdu.payloadLen ≠ 0) (connectionStatus : Bool) :
    (connectionHandler wakes pdu connectionStatus).connectionStatus = commanded message connectionStatus := by
  rw [connectionHandler_eq wakes spelled filled, commanded]
  split
  · rfl
  · split <;> rfl

theorem coapPut_short (message : CString) (short : strlen message < 4) (beyond : Stream' UInt8) :
    coapPut message beyond = message.chars ++ 0 :: beyond.take (3 - strlen message) := by
  have size : MESSAGE_SIZE = message.chars.length + (3 - strlen message + 1) := by
    simp only [MESSAGE_SIZE, strlen] at short ⊢
    omega
  rw [coapPut, size, ← Stream'.append_take, Stream'.take_succ, Stream'.head_cons, Stream'.tail_cons]

/-- The payload is a function of the message from three characters on: a shorter one takes
bytes along that stand behind it. -/
theorem coapPut_determined_iff (message : CString) (beyond : Stream' UInt8) :
    (∀ other, coapPut message other = coapPut message beyond) ↔ 3 ≤ strlen message := by
  constructor
  · intro determined
    by_contra few
    have short : strlen message < 4 := by omega
    have same := determined (Stream'.cons (beyond.head + 1) beyond.tail)
    obtain ⟨k, behind⟩ : ∃ k, 3 - strlen message = k + 1 := ⟨2 - strlen message, by omega⟩
    rw [coapPut_short message short, coapPut_short message short, behind] at same
    simp [Stream'.take_succ] at same
  · intro enough other
    by_cases short : strlen message < 4
    · have none : 3 - strlen message = 0 := by omega
      simp [coapPut_short message short, none]
    · have long : MESSAGE_SIZE ≤ message.chars.length := by
        simp only [MESSAGE_SIZE, strlen] at short ⊢
        omega
      rw [coapPut, coapPut, Stream'.take_append_of_le_length _ _ _ long,
        Stream'.take_append_of_le_length _ _ _ long]

theorem coapPut_readBack_iff (message : CString) (beyond leftover : Stream' UInt8) :
    Spells (received (coapPut message beyond) leftover).payload message.chars ↔
      strlen message < 4 ∨ 4 ≤ strlen message ∧ Spells leftover (message.chars.drop 4) :=
  cut_spells message.chars MESSAGE_SIZE beyond leftover

theorem exists_not_spelled (s : List UInt8) : ∃ memory, ¬ Spells memory s := by
  cases s with
  | nil => exact ⟨Stream'.const 1, by simp [spells_nil, Stream'.head]⟩
  | cons b bs => exact ⟨Stream'.const (b + 1), by simp [spells_cons, Stream'.head]⟩

/-- A command arrives exactly if it has three characters, or four or more and the buffer
already holds the rest of it behind the payload; whatever was in the buffers, it arrives
exactly if it has three. -/
theorem commands_survive_iff (message : CString) :
    (∀ beyond leftover, Delivered message beyond leftover ↔
      strlen message = 3 ∨ 4 ≤ strlen message ∧ Spells leftover (message.chars.drop 4)) ∧
    ((∀ beyond leftover, Delivered message beyond leftover) ↔ strlen message = 3) := by
  have exact_ : ∀ beyond leftover, Delivered message beyond leftover ↔
      strlen message = 3 ∨ 4 ≤ strlen message ∧ Spells leftover (message.chars.drop 4) := by
    intro beyond leftover
    constructor
    · intro delivered
      have enough := (coapPut_determined_iff message beyond).mp delivered.determined
      rcases (coapPut_readBack_iff message beyond leftover).mp delivered.readBack with short | completed
      · exact .inl (by omega)
      · exact .inr completed
    · intro size
      have enough : 3 ≤ strlen message := by rcases size with three | ⟨more, -⟩ <;> omega
      have readBack := (coapPut_readBack_iff message beyond leftover).mpr
        (size.imp_left fun three => by omega)
      have filled : (received (coapPut message beyond) leftover).payloadLen ≠ 0 := by
        rw [payloadLen_coapPut]
        omega
      constructor
      case determined => exact (coapPut_determined_iff message beyond).mpr enough
      case readBack => exact readBack
      case sensor => exact connectionHandler_commanded true readBack filled
      case actuator => exact connectionHandler_commanded false readBack filled
      case fires =>
        rw [gatewayHandler, if_pos filled]
        simp only [compareAt_eq_zero_iff readBack]
        by_cases on : message = TURN_ON_ALARM <;> simp [on]
  refine ⟨exact_, ?_⟩
  constructor
  · intro always
    obtain ⟨leftover, misses⟩ := exists_not_spelled (message.chars.drop 4)
    rcases (exact_ leftover leftover).mp (always leftover leftover) with three | ⟨-, spelled⟩
    · exact three
    · exact absurd spelled misses
  · intro three beyond leftover
    exact (exact_ beyond leftover).mpr (.inl three)

/-- AUTH in a buffer whose next byte is not zero. -/
theorem auth_is_not_read_back :
    ¬ ∀ message beyond leftover, Delivered message beyond leftover := by
  intro claim
  have delivered := claim REGISTER_RESPONSE (Stream'.const 0) (Stream'.const 65)
  have connected := delivered.sensor false
  revert connected
  decide

end RiotAlarm.Wire
