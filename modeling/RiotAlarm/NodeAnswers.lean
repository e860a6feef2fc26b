import RiotAlarm.Wire

/-! What the three handlers of a node that take the gateway's commands answer: a response
only to an empty payload and to the words they know. -/
namespace RiotAlarm.Wire

open CMemory

/-- The handlers behind "/register" on the two kinds of node, and the one behind
"/actuator/beep". -/
inductive Handler where
  | sensorConnection
  | actuatorConnection
  | beeper
  deriving DecidableEq

/-- A request's effect on the node: its flag, whether the detection thread is woken and
whether the alarm fires. -/
structure Effect where
  connectionStatus : Bool
  woken : Bool
  fired : Bool
  deriving DecidableEq

def idle (connectionStatus : Bool) : Effect := ⟨connectionStatus,false,false⟩

structure Handled where
  effect : Effect
  answer : Answer
  deriving DecidableEq

def Connection.handled (connection : Connection) : Handled :=
  ⟨⟨connection.connectionStatus,connection.woken,false⟩,connection.answer⟩

def Handler.handle (handler : Handler) (pdu : Pdu) (connectionStatus : Bool) : Handled :=
  match handler with
  | .sensorConnection => (sensorConnectionHandler pdu connectionStatus).handled
  | .actuatorConnection => (actuatorConnectionHandler pdu connectionStatus).handled
  | .beeper => ⟨⟨connectionStatus,false,(gatewayHandler pdu).1⟩,(gatewayHandler pdu).2⟩

/-! What a command is for. -/

/-- The words a handler knows. -/
def Handler.vocabulary : Handler → List CString
  | .sensorConnection | .actuatorConnection => [REGISTER_RESPONSE,DEREGISTER_RESPONSE]
  | .beeper => [TURN_ON_ALARM]

/-- What a word asks a node to do. -/
def Handler.asked (handler : Handler) (word : CString) (connectionStatus : Bool) : Effect where
  connectionStatus := commanded word connectionStatus
  woken := handler = .sensorConnection ∧ word = REGISTER_RESPONSE
  fired := word = TURN_ON_ALARM

def Handler.Recognised (handler : Handler) (pdu : Pdu) : Prop :=
  ∃ word ∈ handler.vocabulary, Spells pdu.payload word.chars

/-- A word that the handler knows is applied and answered CHANGED, and any other payload
answered BAD_REQUEST, with no effect. -/
def Handler.Answers (handler : Handler) (pdu : Pdu) (connectionStatus : Bool) : Prop :=
  (∃ word ∈ handler.vocabulary, pdu.payloadLen ≠ 0 ∧ Spells pdu.payload word.chars ∧
    handler.handle pdu connectionStatus = ⟨handler.asked word connectionStatus,.response .changed⟩) ∨
  (pdu.payloadLen = 0 ∨ ¬ handler.Recognised pdu) ∧
    handler.handle pdu connectionStatus = ⟨idle connectionStatus,.response .badRequest⟩

/-- The ways through a handler: the last is its end without a response. -/
inductive Handler.Outcome (handler : Handler) (pdu : Pdu) (connectionStatus : Bool) : Prop where
  | empty (no : pdu.payloadLen = 0)
      (handled : handler.handle pdu connectionStatus = ⟨idle connectionStatus,.response .badRequest⟩)
  | applied (word : CString) (known : word ∈ handler.vocabulary) (filled : pdu.payloadLen ≠ 0)
      (spelled : Spells pdu.payload word.chars)
      (handled : handler.handle pdu connectionStatus =
        ⟨handler.asked word connectionStatus,.response .changed⟩)
  | fallsThrough (filled : pdu.payloadLen ≠ 0) (unrecognised : ¬ handler.Recognised pdu) (value : Nat)
      (handled : handler.handle pdu connectionStatus = ⟨idle connectionStatus,.returned value⟩)

theorem connectionHandler_unknown (wakes : Bool) {pdu : Pdu} (filled : pdu.payloadLen ≠ 0)
    (unknown : ∀ word ∈ [REGISTER_RESPONSE,DEREGISTER_RESPONSE], ¬ Spells pdu.payload word.chars)
    (connectionStatus : Bool) :
    connectionHandler wakes pdu connectionStatus = ⟨connectionStatus,false,.returned 1⟩ := by
  have unregistered : compareAt pdu.payload REGISTER_RESPONSE.chars ≠ 0 :=
    fun same => unknown _ (.head _) ((compareAt_eq_zero _ _).mp same)
  have underegistered : compareAt pdu.payload DEREGISTER_RESPONSE.chars ≠ 0 :=
    fun same => unknown _ (.tail _ (.head _)) ((compareAt_eq_zero _ _).mp same)
  rw [connectionHandler, if_pos filled, if_neg unregistered, if_neg underegistered]

theorem connectionHandler_known (wakes : Bool) {pdu : Pdu} (filled : pdu.payloadLen ≠ 0) {word : CString}
    (known : word ∈ [REGISTER_RESPONSE,DEREGISTER_RESPONSE]) (spelled : Spells pdu.payload word.chars)
    (connectionStatus : Bool) : connectionHandler wakes pdu connectionStatus =
      ⟨commanded word connectionStatus,wakes && decide (word = REGISTER_RESPONSE),.response .changed⟩ := by
  rw [connectionHandler_eq wakes spelled filled, commanded]
  simp only [List.mem_cons, List.not_mem_nil, or_false] at known
  rcases known with rfl | rfl
  · simp
  · have differ : DEREGISTER_RESPONSE ≠ REGISTER_RESPONSE := by decide
    simp [differ]

theorem known_ne_on {word : CString} (known : word ∈ [REGISTER_RESPONSE,DEREGISTER_RESPONSE]) :
    word ≠ TURN_ON_ALARM := by
  simp only [List.mem_cons, List.not_mem_nil, or_false] at known
  rcases known with rfl | rfl <;> decide

theorem Handler.outcome (handler : Handler) (pdu : Pdu) (connectionStatus : Bool) :
    handler.Outcome pdu connectionStatus := by
  by_cases no : pdu.payloadLen = 0
  · refine .empty no ?_
    cases handler <;> simp [handle, Connection.handled, sensorConnectionHandler, actuatorConnectionHandler,
      connectionHandler, gatewayHandler, idle, no]
  by_cases recognised : handler.Recognised pdu
  · obtain ⟨word, known, spelled⟩ := recognised
    refine .applied word known no spelled ?_
    cases handler with
    | sensorConnection =>
      simp only [handle, sensorConnectionHandler, connectionHandler_known true no known spelled]
      simp [Connection.handled, asked, known_ne_on known]
    | actuatorConnection =>
      simp only [handle, actuatorConnectionHandler, connectionHandler_known false no known spelled]
      simp [Connection.handled, asked, known_ne_on known]
    | beeper =>
      obtain rfl : word = TURN_ON_ALARM := List.mem_singleton.mp known
      have same : compareAt pdu.payload TURN_ON_ALARM.chars = 0 := (compareAt_eq_zero _ _).mpr spelled
      have keeps : commanded TURN_ON_ALARM connectionStatus = connectionStatus := rfl
      simp [handle, gatewayHandler, asked, keeps, no, same]
  · have unknown : ∀ word ∈ handler.vocabulary, ¬ Spells pdu.payload word.chars :=
      fun word known spelled => recognised ⟨word,known,spelled⟩
    cases handler with
    | sensorConnection =>
      refine .fallsThrough no recognised 1 ?_
      simp only [handle, sensorConnectionHandler, connectionHandler_unknown true no unknown]
      rfl
    | actuatorConnection =>
      refine .fallsThrough no recognised 1 ?_
      simp only [handle, actuatorConnectionHandler, connectionHandler_unknown false no unknown]
      rfl
    | beeper =>
      refine .fallsThrough no recognised 0 ?_
      have differ : compareAt pdu.payload TURN_ON_ALARM.chars ≠ 0 :=
        fun same => unknown _ (.head _) ((compareAt_eq_zero _ _).mp same)
      simp [handle, gatewayHandler, idle, no, differ]

theorem Handler.answers_iff (handler : Handler) (pdu : Pdu) (connectionStatus : Bool) :
    handler.Answers pdu connectionStatus ↔ pdu.payloadLen = 0 ∨ handler.Recognised pdu := by
  cases handler.outcome pdu connectionStatus with
  | empty no handled => exact ⟨fun _ => .inl no, fun _ => .inr ⟨.inl no,handled⟩⟩
  | applied word known filled spelled handled =>
    exact ⟨fun _ => .inr ⟨word,known,spelled⟩, fun _ => .inl ⟨word,known,filled,spelled,handled⟩⟩
  | fallsThrough filled unrecognised value handled =>
    constructor
    · rintro (⟨word, -, -, -, applied⟩ | ⟨-, rejected⟩)
      · rw [handled] at applied
        cases congrArg Handled.answer applied
      · rw [handled] at rejected
        cases congrArg Handled.answer rejected
    · rintro (no | recognised)
      · exact absurd no filled
      · exact absurd recognised unrecognised

theorem Handler.rejected_idle (handler : Handler) (pdu : Pdu) (connectionStatus : Bool)
    (rejected : (handler.handle pdu connectionStatus).answer = .response .badRequest) :
    (handler.handle pdu connectionStatus).effect = idle connectionStatus := by
  cases handler.outcome pdu connectionStatus with
  | empty _ handled => rw [handled]
  | applied word _ _ _ handled =>
    rw [handled] at rejected
    cases rejected
  | fallsThrough _ _ value handled => rw [handled]

/-- No word of the beeper begins like OFF. -/
theorem off_unrecognised (beyond leftover : Stream' UInt8) :
    ¬ Handler.beeper.Recognised (received (coapPut Gateway.Message.off.payload beyond) leftover) := by
  rintro ⟨word, known, spelled⟩
  obtain rfl : word = TURN_ON_ALARM := List.mem_singleton.mp known
  have off := (coapPut_readBack_iff Gateway.Message.off.payload beyond leftover).mpr (.inl (by decide))
  have same := spelled.unique off TURN_ON_ALARM.terminated Gateway.Message.off.payload.terminated
  revert same
  decide

/-- A request is answered exactly if it has no payload or one that reads as a word of the
handler; BAD_REQUEST is idle, and the gateway's OFF is not answered. -/
theorem request_answered_iff (handler : Handler) (pdu : Pdu) (connectionStatus : Bool)
    (beyond leftover : Stream' UInt8) :
    (handler.Answers pdu connectionStatus ↔ pdu.payloadLen = 0 ∨ handler.Recognised pdu) ∧
    ((handler.handle pdu connectionStatus).answer = .response .badRequest →
      (handler.handle pdu connectionStatus).effect = idle connectionStatus) ∧
    ¬ Handler.beeper.Answers (received (coapPut Gateway.Message.off.payload beyond) leftover) connectionStatus := by
  refine ⟨handler.answers_iff pdu connectionStatus, handler.rejected_idle pdu connectionStatus, ?_⟩
  rw [Handler.answers_iff, payloadLen_coapPut]
  rintro (no | recognised)
  · contradiction
  · exact off_unrecognised beyond leftover recognised

/-- The OFF that `traverse_and_off` sends to a beeper. -/
theorem off_is_not_answered :
    ¬ ∀ (handler : Handler) (pdu : Pdu) (connectionStatus : Bool), handler.Answers pdu connectionStatus := by
  intro always
  have off := always .beeper (received (coapPut Gateway.Message.off.payload (Stream'.const 0)) (Stream'.const 0)) true
  rw [Handler.answers_iff, payloadLen_coapPut] at off
  rcases off with no | recognised
  · contradiction
  · exact off_unrecognised _ _ recognised

end RiotAlarm.Wire
