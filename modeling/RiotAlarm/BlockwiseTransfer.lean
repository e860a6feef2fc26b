import Mathlib
import RiotAlarm.Transition
import RiotAlarm.CMemory
import RiotAlarm.Types

/-! The client half of the three programs: `_resp_handler` takes the answer to a PUT or a GET,
shows it, and asks for the next block of a payload that came in blocks. One such chain of
requests is a transfer. `_proxied` is never set, so the requests go to the path of the last PUT. -/
namespace RiotAlarm.Client

open CMemory Transition

def LAST_REQ_PATH_MAX : Nat := 64

/-- `_last_req_path` once a PUT has been prepared: cleared, and the URI written into it if that
leaves a terminator. -/
def lastReqPath (uri : CString) : List UInt8 :=
  let cleared := List.replicate LAST_REQ_PATH_MAX (0 : UInt8)
  if strlen uri < LAST_REQ_PATH_MAX then uri.chars ++ cleared.drop (strlen uri) else cleared

inductive MsgType where
  | con
  | non
  | ack
  | rst
  deriving DecidableEq

/-- The states of a memo in which gcoap calls the handler. -/
inductive MemoState where
  | resp
  | timeout
  | err
  deriving DecidableEq

/-- `coap_block1_t`, as far as the handler reads it. -/
structure Block where
  blknum : UInt32
  szx : UInt8
  more : Bool
  deriving DecidableEq

/-- What the handler reads of a response. `block2` is what `coap_get_block2` finds. -/
structure Response where
  id : UInt16
  type : MsgType
  codeClass : UInt8
  codeDetail : UInt8
  contentType : UInt16
  payload : List UInt8
  block2 : Option Block
  deriving DecidableEq

def COAP_CLASS_SUCCESS : UInt8 := 2
def COAP_CLASS_CLIENT_FAILURE : UInt8 := 4
def COAP_CLASS_SERVER_FAILURE : UInt8 := 5
def COAP_FORMAT_TEXT : UInt16 := 0
def COAP_FORMAT_LINK : UInt16 := 40

/-- The lines of the handler. `text` ends where the payload has a zero byte. -/
inductive Line where
  | timeoutForMsg (id : UInt16)
  | errorInResponse
  | blockwiseStart
  | response (success : Bool) (codeClass codeDetail : UInt8)
  | text (payloadLen : Nat) (payload : List UInt8)
  | bytes (payloadLen : Nat)
  | emptyPayload
  | pathTooLong
  | blockwiseComplete
  deriving DecidableEq

inductive Shown where
  | line (line : Line)
  | hexDump (payload : List UInt8)
  deriving DecidableEq

/-- The next GET: its path and type, and the block that it asks for. -/
structure Get where
  path : List UInt8
  type : MsgType
  blknum : UInt32
  szx : UInt8
  deriving DecidableEq

/-- The actuator prints; on the gateway and the sensors the lines are `DEBUG`, which is off. -/
def say (prints : Bool) (line : Line) : List Shown := if prints then [.line line] else []

def isText (r : Response) : Bool :=
  r.contentType = COAP_FORMAT_TEXT || r.contentType = COAP_FORMAT_LINK ||
    r.codeClass = COAP_CLASS_CLIENT_FAILURE || r.codeClass = COAP_CLASS_SERVER_FAILURE

def showPayload (prints : Bool) (r : Response) : List Shown :=
  if r.payload.length ≠ 0 then
    if isText r then say prints (.text r.payload.length (text r.payload))
    else say prints (.bytes r.payload.length) ++ [.hexDump r.payload]
  else say prints .emptyPayload

def showResponse (prints : Bool) (r : Response) : List Shown :=
  (if r.block2.any (·.blknum = 0) then say prints .blockwiseStart else []) ++
    say prints (.response (r.codeClass = COAP_CLASS_SUCCESS) r.codeClass r.codeDetail) ++ showPayload prints r

/-- `_resp_handler`: what it shows, and the request that it makes. -/
def respHandler (prints : Bool) (lastReqPath : List UInt8) (state : MemoState) (r : Response) :
    List Shown × Option Get :=
  match state with
  | .timeout => (say prints (.timeoutForMsg r.id),none)
  | .err => (say prints .errorInResponse,none)
  | .resp =>
    match r.block2 with
    | none => (showResponse prints r,none)
    | some block =>
      if block.more then
        if block.blknum = 0 ∧ text lastReqPath = [] then (showResponse prints r ++ say prints .pathTooLong,none)
        else (showResponse prints r,some ⟨text lastReqPath,if r.type = .ack then .con else .non,block.blknum + 1,block.szx⟩)
      else (showResponse prints r ++ say prints .blockwiseComplete,none)

def gatewayRespHandler : List UInt8 → MemoState → Response → List Shown × Option Get := respHandler false
def sensorRespHandler : List UInt8 → MemoState → Response → List Shown × Option Get := respHandler false
def actuatorRespHandler : List UInt8 → MemoState → Response → List Shown × Option Get := respHandler true

/-- The path that follows a PUT, or none where the URI was too long to be kept. -/
def kept (uri : CString) : List UInt8 := if strlen uri < LAST_REQ_PATH_MAX then uri.chars else []

theorem text_zeros (n : Nat) : text (List.replicate n 0) = [] := by
  cases n with
  | zero => rfl
  | succ n => simp [text, List.replicate_succ]

@[simp] theorem text_lastReqPath (uri : CString) : text (lastReqPath uri) = kept uri := by
  unfold lastReqPath kept
  split
  · rw [text_append _ _ uri.terminated, List.drop_replicate, text_zeros, List.append_nil]
  · exact text_zeros LAST_REQ_PATH_MAX

/-- A GET is made exactly for a response that announces another block. -/
theorem respHandler_some (prints : Bool) (path : List UInt8) (state : MemoState) (r : Response) (get : Get) :
    (respHandler prints path state r).2 = some get ↔
      ∃ block, state = .resp ∧ r.block2 = some block ∧ block.more = true ∧ ¬ (block.blknum = 0 ∧ text path = []) ∧
        get = ⟨text path,if r.type = .ack then .con else .non,block.blknum + 1,block.szx⟩ := by
  cases state with
  | timeout | err => simp [respHandler]
  | resp =>
    cases announced : r.block2 with
    | none => simp [respHandler, announced]
    | some block =>
      simp only [respHandler, announced, true_and, Option.some.injEq, exists_eq_left']
      split
      next more =>
        split
        next lost =>
          simp only [reduceCtorEq, false_iff]
          exact fun ⟨_, known, _⟩ => known lost
        next known => simp only [Option.some.injEq, known, not_false_eq_true, true_and, more, eq_comm]
      next last => simp only [reduceCtorEq, last, Bool.false_eq_true, false_and]

/-- A request that gcoap waits for the answer to. `transfer` counts the PUTs before the one
that it goes back to, and `asks` is the block option of a GET. -/
structure Memo where
  transfer : Nat
  remote : SockUdpEp
  path : List UInt8
  asks : Option (UInt32 × UInt8)
  deriving DecidableEq

def Memo.next (memo : Memo) (request : Get) : Memo where
  transfer := memo.transfer
  remote := memo.remote
  path := request.path
  asks := some (request.blknum,request.szx)

/-- The open memos and the path. `puts` counts the PUTs; the program does not. -/
structure State where
  lastReqPath : List UInt8
  memos : List Memo
  puts : Nat

/-- `sent` is whether `gcoap_req_send` finds room for a memo; the handler does not look at it. -/
inductive Action where
  | put (uri : CString) (remote : SockUdpEp) (sent : Bool)
  | answer (memo : Memo) (state : MemoState) (response : Response) (sent : Bool)

inductive Event where
  | put (transfer : Nat) (uri : CString) (remote : SockUdpEp) (sent : Bool)
  | answered (transfer : Nat) (state : MemoState) (response : Response)
  | shown (transfer : Nat) (what : Shown)
  | get (transfer : Nat) (remote : SockUdpEp) (request : Get) (sent : Bool)
  deriving DecidableEq

def boot : State := ⟨List.replicate LAST_REQ_PATH_MAX 0,[],0⟩

def enlist (memos : List Memo) (sent : Bool) (memo : Memo) : List Memo := if sent then memos ++ [memo] else memos

/-- A PUT, from its `memset` and `memcpy` of `_last_req_path` to `gcoap_req_send`, and a call
of the handler run to the end, each before the next begins. -/
def step (prints : Bool) : Step State Action Event
  | s, .put uri remote sent =>
    some (⟨lastReqPath uri,enlist s.memos sent ⟨s.puts,remote,uri.chars,none⟩,s.puts + 1⟩,[.put s.puts uri remote sent])
  | s, .answer memo state response sent =>
    if memo ∈ s.memos then
      let others := s.memos.erase memo
      let seen := Event.answered memo.transfer state response ::
        (respHandler prints s.lastReqPath state response).1.map (.shown memo.transfer)
      match (respHandler prints s.lastReqPath state response).2 with
      | none => some ({ s with memos := others },seen)
      | some request =>
        some ({ s with memos := enlist others sent (memo.next request) },seen ++ [.get memo.transfer memo.remote request sent])
    else none

variable {prints : Bool}

/-- What answering a request does. -/
inductive Answered (prints : Bool) (s : State) (memo : Memo) (state : MemoState) (response : Response) :
    State → List Event → Prop where
  | last (ends : (respHandler prints s.lastReqPath state response).2 = none) :
    Answered prints s memo state response { s with memos := s.memos.erase memo }
      (.answered memo.transfer state response ::
        (respHandler prints s.lastReqPath state response).1.map (.shown memo.transfer))
  | asks (sent : Bool) (request : Get) (block : Block) (arrived : state = .resp) (announced : response.block2 = some block)
    (more : block.more = true) (known : ¬ (block.blknum = 0 ∧ text s.lastReqPath = []))
    (made : request = ⟨text s.lastReqPath,if response.type = .ack then .con else .non,block.blknum + 1,block.szx⟩) :
    Answered prints s memo state response
      { s with memos := enlist (s.memos.erase memo) sent (memo.next request) }
      (.answered memo.transfer state response ::
        (respHandler prints s.lastReqPath state response).1.map (.shown memo.transfer) ++
        [.get memo.transfer memo.remote request sent])

theorem step_put (s : State) (uri : CString) (remote : SockUdpEp) (sent : Bool) :
    step prints s (.put uri remote sent) =
      some (⟨lastReqPath uri,enlist s.memos sent ⟨s.puts,remote,uri.chars,none⟩,s.puts + 1⟩,
        [.put s.puts uri remote sent]) := rfl

theorem step_answer {s s' : State} (taken : step prints s (.answer memo state response sent) = some (s',events)) :
    memo ∈ s.memos ∧ Answered prints s memo state response s' events := by
  simp only [step] at taken
  split at taken
  next member =>
    refine ⟨member, ?_⟩
    split at taken
    next ends =>
      cases taken
      exact .last ends
    next request asks =>
      obtain ⟨block, arrived, announced, more, known, made⟩ := (respHandler_some ..).mp asks
      cases taken
      exact .asks sent request block arrived announced more known made
  next => contradiction

/-! The order of requests and answers, whatever the servers send. -/

def Event.follow (path : List UInt8) : Event → List UInt8
  | .put _ uri _ _ => kept uri
  | _ => path

/-- The path after the PUTs on the trace. -/
def pathAfter (trace : List Event) : List UInt8 := trace.foldl Event.follow []

def opens (transfer : Nat) : Event → Bool
  | .put number _ _ sent | .get number _ _ sent => number = transfer && sent
  | _ => false

def closes (transfer : Nat) : Event → Bool
  | .answered number _ _ => number = transfer
  | _ => false

/-- A GET comes right after the response that announces its block, of a request to the same
server, and goes to the path of the last PUT. -/
def Continues (past : List Event) : Event → Prop
  | .get transfer remote request _ =>
    (∃ before response block, ∃ shown : List Shown, past = before ++ .answered transfer .resp response :: shown.map (.shown transfer) ∧
      response.block2 = some block ∧ block.more = true ∧ request.blknum = block.blknum + 1 ∧ request.szx = block.szx ∧
      request.type = if response.type = .ack then .con else .non) ∧
    (∃ uri, .put transfer uri remote true ∈ past) ∧
    request.path = pathAfter past ∧ (request.path = [] → request.blknum ≠ 1)
  | _ => True

theorem mem_enlist {memos : List Memo} {memo other : Memo} :
    other ∈ enlist memos sent memo ↔ other ∈ memos ∨ sent = true ∧ other = memo := by
  cases sent <;> simp [enlist]

/-- Without the answered request the others stay, in any transfer but its own. -/
theorem mem_others {memos : List Memo} {memo other : Memo} (alone : (memos.map Memo.transfer).Nodup)
    (member : memo ∈ memos) : other ∈ memos.erase memo ↔ other ∈ memos ∧ other.transfer ≠ memo.transfer := by
  rw [(alone.of_map Memo.transfer).mem_erase_iff, and_comm]
  refine and_congr_right fun also => not_congr ⟨fun same => by rw [same], fun same => ?_⟩
  exact List.inj_on_of_nodup_map alone also member same

theorem others_alone {memos : List Memo} (alone : (memos.map Memo.transfer).Nodup) (memo : Memo) :
    ((memos.erase memo).map Memo.transfer).Nodup :=
  alone.sublist (List.Sublist.map _ List.erase_sublist)

theorem enlist_alone {memos : List Memo} {memo : Memo} (alone : (memos.map Memo.transfer).Nodup)
    (apart : ∀ other ∈ memos, other.transfer ≠ memo.transfer) (sent : Bool) :
    ((enlist memos sent memo).map Memo.transfer).Nodup := by
  cases sent with
  | false => exact alone
  | true =>
    simp only [enlist, if_true, List.map_append, List.map_cons, List.map_nil]
    refine List.nodup_append.mpr ⟨alone, List.nodup_singleton _, ?_⟩
    intro transfer before number last
    obtain ⟨other, member, rfl⟩ := List.mem_map.mp before
    rw [List.mem_singleton.mp last]
    exact apart other member

def State.waiting (s : State) (transfer : Nat) : Nat := s.memos.countP (·.transfer = transfer)

theorem waiting_enlist (memos : List Memo) (sent : Bool) (memo : Memo) (transfer : Nat) :
    (enlist memos sent memo).countP (·.transfer = transfer) =
      memos.countP (·.transfer = transfer) + if memo.transfer = transfer ∧ sent = true then 1 else 0 := by
  cases sent <;> simp [enlist, List.countP_append, List.countP_cons]

theorem waiting_erase {memos : List Memo} {memo : Memo} (member : memo ∈ memos) (transfer : Nat) :
    memos.countP (·.transfer = transfer) =
      (memos.erase memo).countP (·.transfer = transfer) + if memo.transfer = transfer then 1 else 0 := by
  rw [(List.perm_cons_erase member).countP_eq, List.countP_cons]
  simp

/-- The lines that a response is shown with neither open nor close a request. -/
theorem shown_plain (transfer number : Nat) (shown : List Shown) :
    (shown.map (Event.shown number)).countP (opens transfer) = 0 ∧
      (shown.map (Event.shown number)).countP (closes transfer) = 0 := by
  simp [List.countP_map, Function.comp_def, opens, closes]

theorem follow_shown (path : List UInt8) (number : Nat) (shown : List Shown) :
    (shown.map (Event.shown number)).foldl Event.follow path = path := by
  induction shown with
  | nil => rfl
  | cons _ _ ih => exact ih

/-- What a run keeps: the path is that of the last PUT, a transfer has at most one request
open, to the server that its PUT went to. -/
structure Ordered (trace : List Event) (s : State) : Prop where
  path : text s.lastReqPath = pathAfter trace
  continues : Backed Continues trace
  paired : ∀ transfer, trace.countP (opens transfer) = trace.countP (closes transfer) + s.waiting transfer
  alone : (s.memos.map Memo.transfer).Nodup
  origin : ∀ memo ∈ s.memos, memo.transfer < s.puts ∧ ∃ uri, .put memo.transfer uri memo.remote true ∈ trace

theorem ordered_boot : Ordered [] boot where
  path := text_zeros LAST_REQ_PATH_MAX
  continues := .nil Continues
  paired _ := rfl
  alone := List.nodup_nil
  origin _ member := by cases member

namespace Ordered

variable {trace events : List Event} {s s' : State}

theorem put (ordered : Ordered trace s) (uri : CString) (remote : SockUdpEp) (sent : Bool) :
    Ordered (trace ++ [.put s.puts uri remote sent])
      ⟨lastReqPath uri,enlist s.memos sent ⟨s.puts,remote,uri.chars,none⟩,s.puts + 1⟩ where
  path := by simp [pathAfter, Event.follow]
  continues := ordered.continues.snoc trivial
  paired transfer := by
    have before := ordered.paired transfer
    simp only [State.waiting, waiting_enlist, List.countP_append, List.countP_singleton, opens, closes] at before ⊢
    simp only [Bool.and_eq_true, decide_eq_true_eq, Bool.false_eq_true, if_false]
    omega
  alone := by
    refine enlist_alone ordered.alone (fun other member same => ?_) sent
    exact Nat.ne_of_lt (ordered.origin other member).1 same
  origin memo member := by
    rcases mem_enlist.mp member with old | ⟨rfl, rfl⟩
    · obtain ⟨young, uri', member⟩ := ordered.origin memo old
      exact ⟨Nat.lt_succ_of_lt young, uri', List.mem_append_left _ member⟩
    · exact ⟨Nat.lt_succ_self _, uri, by simp⟩

/-- The answer closes its request. -/
theorem close (ordered : Ordered trace s) (member : memo ∈ s.memos) (state : MemoState) (response : Response)
    (shown : List Shown) :
    Ordered (trace ++ .answered memo.transfer state response :: shown.map (.shown memo.transfer))
      { s with memos := s.memos.erase memo } where
  path := by
    rw [ordered.path]
    simp only [pathAfter, List.foldl_append, List.foldl_cons, follow_shown]
    rfl
  continues := by
    refine ordered.continues.append fun past event later split => ?_
    have mine : event ∈ Event.answered memo.transfer state response :: shown.map (.shown memo.transfer) := by
      rw [split]
      simp
    rcases List.mem_cons.mp mine with rfl | line
    · trivial
    · obtain ⟨_, _, rfl⟩ := List.mem_map.mp line
      trivial
  paired transfer := by
    have before := ordered.paired transfer
    obtain ⟨noneOpen, noneClosed⟩ := shown_plain transfer memo.transfer shown
    simp only [State.waiting] at before ⊢
    rw [waiting_erase member] at before
    rw [List.countP_append, List.countP_append, List.countP_cons, List.countP_cons, noneOpen, noneClosed, before]
    simp only [opens, closes, Bool.false_eq_true, if_false, decide_eq_true_eq]
    omega
  alone := others_alone ordered.alone memo
  origin other still := by
    obtain ⟨young, uri, member⟩ := ordered.origin other (List.mem_of_mem_erase still)
    exact ⟨young, uri, List.mem_append_left _ member⟩

/-- A transfer that has no request open goes on with a GET. -/
theorem get (ordered : Ordered trace s) (memo : Memo) (request : Get) (sent : Bool)
    (apart : ∀ other ∈ s.memos, other.transfer ≠ memo.transfer) (young : memo.transfer < s.puts)
    (origin : ∃ uri, .put memo.transfer uri memo.remote true ∈ trace)
    (continues : Continues trace (.get memo.transfer memo.remote request sent)) :
    Ordered (trace ++ [.get memo.transfer memo.remote request sent])
      { s with memos := enlist s.memos sent (memo.next request) } where
  path := by simp [ordered.path, pathAfter, Event.follow]
  continues := ordered.continues.snoc continues
  paired transfer := by
    have before := ordered.paired transfer
    have added : (enlist s.memos sent (memo.next request)).countP (·.transfer = transfer) =
      s.memos.countP (·.transfer = transfer) + if memo.transfer = transfer ∧ sent = true then 1 else 0 :=
      waiting_enlist s.memos sent (memo.next request) transfer
    simp only [State.waiting, added, List.countP_append, List.countP_singleton, opens, closes] at before ⊢
    simp only [Bool.and_eq_true, decide_eq_true_eq, Bool.false_eq_true, if_false]
    omega
  alone := by
    have apart' : ∀ other ∈ s.memos, other.transfer ≠ (memo.next request).transfer := apart
    exact enlist_alone ordered.alone apart' sent
  origin other member := by
    rcases mem_enlist.mp member with old | ⟨-, rfl⟩
    · obtain ⟨young, uri, member⟩ := ordered.origin other old
      exact ⟨young, uri, List.mem_append_left _ member⟩
    · obtain ⟨uri, member⟩ := origin
      exact ⟨young, uri, List.mem_append_left _ member⟩

theorem answer (ordered : Ordered trace s) (member : memo ∈ s.memos)
    (answered : Answered prints s memo state response s' events) : Ordered (trace ++ events) s' := by
  cases answered with
  | last => exact ordered.close member state response _
  | asks sent request block arrived announced more known made =>
    have closed := ordered.close member state response (respHandler prints s.lastReqPath state response).1
    obtain ⟨young, uri, origin⟩ := ordered.origin memo member
    have asked : Continues (trace ++ .answered memo.transfer state response ::
        (respHandler prints s.lastReqPath state response).1.map (.shown memo.transfer))
        (.get memo.transfer memo.remote request sent) := by
      subst arrived made
      refine ⟨⟨trace, response, block, _, rfl, announced, more, rfl, rfl, rfl⟩,
        ⟨uri, List.mem_append_left _ origin⟩, closed.path, fun pathless first => known ⟨?_, pathless⟩⟩
      simpa using first
    rw [← List.append_assoc]
    exact closed.get memo request sent (fun other still => ((mem_others ordered.alone member).mp still).2) young
      ⟨uri, List.mem_append_left _ origin⟩ asked

theorem step (ordered : Ordered trace s) (taken : Client.step prints s a = some (s',events)) :
    Ordered (trace ++ events) s' := by
  cases a with
  | put uri remote sent =>
    rw [step_put] at taken
    cases taken
    exact ordered.put uri remote sent
  | answer memo state response sent =>
    obtain ⟨member, answered⟩ := step_answer taken
    exact ordered.answer member answered

end Ordered

/-- Whatever the servers answer, and however the PUTs and the answers come, a GET is made only
for a block that the last answer announced, and a transfer has one request open at most. -/
theorem requests_follow_answers (path : Path (step prints) anything boot trace s) :
    Backed Continues trace ∧ ∀ transfer, trace.countP (opens transfer) =
      trace.countP (closes transfer) + if transfer ∈ s.memos.map Memo.transfer then 1 else 0 := by
  have ordered : Ordered trace s :=
    path.invariant Ordered (fun ordered _ taken => ordered.step taken) ordered_boot
  refine ⟨ordered.continues, fun transfer => ?_⟩
  have one := ordered.alone.count (a := transfer)
  rw [ordered.paired transfer, ← one, List.count, List.countP_map]
  rfl

theorem registerUri_plain : (0 : UInt8) ∉ [47, 114, 101, 103, 105, 115, 116, 101, 114] := by decide

/-- "/register" -/
def registerUri : CString := ⟨[47, 114, 101, 103, 105, 115, 116, 101, 114],registerUri_plain⟩

def server : SockUdpEp := ⟨.inet6,Vector.replicate 16 0,6,5683⟩

/-- A PUT, an answer that announces a second block, and the answer to the request for it. -/
def announced : List Action :=
  [.put registerUri server true,
    .answer ⟨0,server,registerUri.chars,none⟩ .resp ⟨1,.ack,2,4,42,[7],some ⟨0,0,true⟩⟩ true,
    .answer ⟨0,server,registerUri.chars,some (1,0)⟩ .timeout ⟨2,.con,0,0,0,[],none⟩ true]

theorem requests_follow_answers_run :
    ∃ s trace, Path (step true) anything boot trace s ∧ s.memos = [] ∧ trace.countP (closes 0) = 2 ∧
      trace.countP (opens 0) = 2 := by
  have run : ∃ s trace, Path (step true) anything boot trace s ∧ s.memos = [] ∧ trace.countP (closes 0) = 2 :=
    replay_reaches announced (fun (s : State) (trace : List Event) => s.memos = [] ∧ trace.countP (closes 0) = 2)
      (by decide +kernel)
  obtain ⟨s, trace, path, done, two⟩ := run
  have same := (requests_follow_answers path).2 0
  rw [two, done] at same
  exact ⟨s, trace, path, done, two, same⟩

/-! Transfers from servers that answer with the blocks of a resource. -/

def blockSize (szx : UInt8) : Nat := 2 ^ (szx.toNat + 4)

/-- The payload is block `n` of the resource, and the option says so. -/
structure Carries (resource : List UInt8) (n : Nat) (block : Block) (payload : List UInt8) : Prop where
  number : block.blknum.toNat = n
  part : payload = (resource.drop (n * blockSize block.szx)).take (blockSize block.szx)
  more : block.more = decide ((n + 1) * blockSize block.szx < resource.length)

/-- The server answers a PUT with the resource or the first block of it, in blocks of a size
that it chooses, and a GET with the block that was asked for. -/
def Serves (resource : List UInt8) (asks : Option (UInt32 × UInt8)) (r : Response) : Prop :=
  match asks,r.block2 with
  | none,none => r.payload = resource
  | none,some block => Carries resource 0 block r.payload
  | some _,none => False
  | some (blknum,szx),some block => block.szx = szx ∧ Carries resource blknum.toNat block r.payload

/-- The handler shows the payload whole: as a dump, or as a text that nothing cuts. -/
def Readable (prints : Bool) (r : Response) : Prop := isText r = true → prints = true ∧ 0 ∉ r.payload

/-- No PUT changes the path while a request is open, and the answers that arrive come from
what the servers have at the path. -/
def served (prints : Bool) (resource : SockUdpEp → List UInt8 → List UInt8) (s : State) : Action → Prop
  | .put uri _ _ => uri.chars ≠ [] ∧ strlen uri < LAST_REQ_PATH_MAX ∧ ∀ memo ∈ s.memos, memo.path = uri.chars
  | .answer memo state response _ =>
    state = .resp → Serves (resource memo.remote memo.path) memo.asks response ∧ Readable prints response

def Event.transfer : Event → Nat
  | .put transfer _ _ _ | .answered transfer _ _ | .shown transfer _ | .get transfer _ _ _ => transfer

def Shown.payload : Shown → List UInt8
  | .line (.text _ payload) | .hexDump payload => payload
  | _ => []

/-- The payloads shown in a transfer, one behind the other. -/
def received (transfer : Nat) (trace : List Event) : List UInt8 :=
  trace.flatMap fun
    | .shown number what => if number = transfer then what.payload else []
    | _ => []

/-- The numbers of the blocks asked for in a transfer. -/
def asked (transfer : Nat) (trace : List Event) : List Nat :=
  trace.filterMap fun
    | .get number _ request _ => if number = transfer then some request.blknum.toNat else none
    | _ => none

/-- A request that was not sent, or that no response came to. -/
def loses (transfer : Nat) : Event → Bool
  | .put number _ _ sent | .get number _ _ sent => number = transfer && !sent
  | .answered number state _ => number = transfer && state ≠ .resp
  | _ => false

/-- Where a request is in a resource: the blocks asked for before it and the bytes they had. -/
def Memo.At (memo : Memo) (length blocks taken : Nat) : Prop :=
  match memo.asks with
  | none => blocks = 0 ∧ taken = 0
  | some (blknum,szx) => blknum.toNat = blocks ∧ taken = blocks * blockSize szx ∧ taken < length

/-- A transfer waits for a block, or it was lost, or it has come to the end. -/
inductive Stage (resource : List UInt8) (trace : List Event) (s : State) (transfer : Nat) (remote : SockUdpEp)
    (path : List UInt8) (blocks taken : Nat) : Prop where
  | waits (memo : Memo) (member : memo ∈ s.memos) (number : memo.transfer = transfer) (server : memo.remote = remote)
    (there : memo.path = path) (position : memo.At resource.length blocks taken)
  | lost (closed : ∀ memo ∈ s.memos, memo.transfer ≠ transfer) (why : trace.any (loses transfer) = true)
  | whole (closed : ∀ memo ∈ s.memos, memo.transfer ≠ transfer) (all : resource.length ≤ taken)

def Progress (resource : List UInt8) (trace : List Event) (s : State) (transfer : Nat) (remote : SockUdpEp)
    (path : List UInt8) : Prop :=
  ∃ blocks taken, received transfer trace = resource.take taken ∧ asked transfer trace = List.range' 1 blocks ∧
    Stage resource trace s transfer remote path blocks taken

theorem payload_say (prints : Bool) (line : Line) (silent : (Shown.line line).payload = []) :
    (say prints line).flatMap Shown.payload = [] := by
  cases prints <;> simp [say, silent]

/-- What the handler shows of a response is its payload. -/
theorem payload_showResponse {r : Response} (readable : Readable prints r) :
    (showResponse prints r).flatMap Shown.payload = r.payload := by
  have start : (if r.block2.any (·.blknum = 0) then say prints .blockwiseStart else []).flatMap Shown.payload = [] := by
    split
    · exact payload_say prints _ rfl
    · rfl
  have shown : (showPayload prints r).flatMap Shown.payload = r.payload := by
    unfold showPayload
    split
    next filled =>
      split
      next isText =>
        obtain ⟨rfl, plain⟩ := readable isText
        simp [say, Shown.payload, text_of_plain _ plain]
      next => simp [payload_say prints (.bytes r.payload.length) rfl, Shown.payload]
    next empty =>
      rw [payload_say prints .emptyPayload rfl]
      simpa [eq_comm] using empty
  rw [showResponse, List.flatMap_append, List.flatMap_append, start, payload_say prints _ rfl, shown]
  rfl

/-- Whatever else it does with a response, the handler shows its payload; without one it
shows none. -/
theorem payload_respHandler (path : List UInt8) {r : Response} (readable : Readable prints r) :
    (respHandler prints path .resp r).1.flatMap Shown.payload = r.payload := by
  have whole := payload_showResponse readable
  unfold respHandler
  cases r.block2 with
  | none => exact whole
  | some block =>
    dsimp only
    split
    · split
      · rw [List.flatMap_append, whole, payload_say prints _ rfl, List.append_nil]
      · exact whole
    · rw [List.flatMap_append, whole, payload_say prints _ rfl, List.append_nil]

theorem payload_unanswered (path : List UInt8) (r : Response) (unanswered : state ≠ .resp) :
    (respHandler prints path state r).1.flatMap Shown.payload = [] ∧ (respHandler prints path state r).2 = none := by
  cases state with
  | resp => exact absurd rfl unanswered
  | timeout | err => exact ⟨payload_say prints _ rfl, rfl⟩

theorem blockSize_pos (szx : UInt8) : 16 ≤ blockSize szx := by
  rw [blockSize, Nat.pow_add]
  have one := Nat.one_le_two_pow (n := szx.toNat)
  omega

/-- The answer to a request that is at some place in the resource: all of the resource, or
the block of it that stands there. -/
theorem Serves.block {resource : List UInt8} {memo : Memo} (serves : Serves resource memo.asks r)
    (position : memo.At resource.length blocks taken) :
    r.block2 = none ∧ taken = 0 ∧ r.payload = resource ∨
      ∃ block, r.block2 = some block ∧ block.blknum.toNat = blocks ∧ taken = blocks * blockSize block.szx ∧
        r.payload = (resource.drop taken).take (blockSize block.szx) ∧
        block.more = decide ((blocks + 1) * blockSize block.szx < resource.length) := by
  unfold Serves at serves
  unfold Memo.At at position
  cases option : memo.asks with
  | none =>
    simp only [option] at serves position
    obtain ⟨rfl, rfl⟩ := position
    cases announced : r.block2 with
    | none =>
      rw [announced] at serves
      exact .inl ⟨rfl, rfl, serves⟩
    | some block =>
      rw [announced] at serves
      refine .inr ⟨block, rfl, serves.number, by omega, ?_, serves.more⟩
      simpa using serves.part
  | some control =>
    obtain ⟨blknum, szx⟩ := control
    simp only [option] at serves position
    obtain ⟨rfl, rfl, -⟩ := position
    cases announced : r.block2 with
    | none =>
      rw [announced] at serves
      exact serves.elim
    | some block =>
      rw [announced] at serves
      obtain ⟨rfl, carries⟩ := serves
      exact .inr ⟨block, rfl, carries.number, rfl, carries.part, carries.more⟩

/-- Events of other transfers add nothing. -/
theorem received_other (trace events : List Event) (others : ∀ event ∈ events, event.transfer ≠ transfer) :
    received transfer (trace ++ events) = received transfer trace := by
  rw [received, List.flatMap_append, ← received, List.append_right_eq_self, List.flatMap_eq_nil_iff]
  intro event member
  have other := others event member
  cases event <;> simp_all [Event.transfer]

theorem asked_other (trace events : List Event) (others : ∀ event ∈ events, event.transfer ≠ transfer) :
    asked transfer (trace ++ events) = asked transfer trace := by
  rw [asked, List.filterMap_append, ← asked, List.append_right_eq_self, List.filterMap_eq_nil_iff]
  intro event member
  have other := others event member
  cases event <;> simp_all [Event.transfer]

theorem answered_own {number : Nat} {state : MemoState} {response : Response} {shown : List Shown} (event : Event)
    (member : event ∈ Event.answered number state response :: shown.map (.shown number)) : event.transfer = number := by
  rcases List.mem_cons.mp member with rfl | line
  · rfl
  · obtain ⟨_, _, rfl⟩ := List.mem_map.mp line
    rfl

/-- The payloads and block numbers that an answer adds to its own transfer. -/
theorem received_answered (trace : List Event) (transfer : Nat) (state : MemoState) (response : Response)
    (shown : List Shown) :
    received transfer (trace ++ .answered transfer state response :: shown.map (.shown transfer)) =
      received transfer trace ++ shown.flatMap Shown.payload := by
  simp [received, List.flatMap_append, List.flatMap_map]

theorem asked_answered (trace : List Event) (transfer : Nat) (state : MemoState) (response : Response)
    (shown : List Shown) :
    asked transfer (trace ++ .answered transfer state response :: shown.map (.shown transfer)) =
      asked transfer trace := by
  simp [asked, List.filterMap_append, List.filterMap_map]

/-- A GET shows nothing, and adds its block to the numbers. -/
theorem received_get (trace : List Event) (transfer : Nat) (remote : SockUdpEp) (request : Get) (sent : Bool) :
    received transfer (trace ++ [.get transfer remote request sent]) = received transfer trace := by
  simp [received]

theorem asked_get (trace : List Event) (transfer : Nat) (remote : SockUdpEp) (request : Get) (sent : Bool) :
    asked transfer (trace ++ [.get transfer remote request sent]) = asked transfer trace ++ [request.blknum.toNat] := by
  simp [asked]

/-- The transfers that an action is not about go on as before. -/
theorem Progress.aside {resource : List UInt8} {s s' : State}
    (progress : Progress resource trace s transfer remote path)
    (others : ∀ event ∈ events, event.transfer ≠ transfer)
    (same : ∀ memo : Memo, memo.transfer = transfer → (memo ∈ s'.memos ↔ memo ∈ s.memos)) :
    Progress resource (trace ++ events) s' transfer remote path := by
  obtain ⟨blocks, taken, shown, numbers, stage⟩ := progress
  refine ⟨blocks, taken, by rw [received_other _ _ others, shown], by rw [asked_other _ _ others, numbers], ?_⟩
  have closed' : (∀ memo ∈ s.memos, memo.transfer ≠ transfer) → ∀ memo ∈ s'.memos, memo.transfer ≠ transfer :=
    fun closed memo member number => closed memo ((same memo number).mp member) number
  cases stage with
  | waits memo member number server there position =>
    exact .waits memo ((same memo number).mpr member) number server there position
  | lost closed why => exact .lost (closed' closed) (by rw [List.any_append, why, Bool.true_or])
  | whole closed all => exact .whole (closed' closed) all

/-- An open request is where its transfer is. -/
theorem Progress.position {resource : List UInt8} {s : State} (alone : (s.memos.map Memo.transfer).Nodup)
    (member : memo ∈ s.memos) (progress : Progress resource trace s memo.transfer remote path) :
    memo.remote = remote ∧ memo.path = path ∧ ∃ blocks taken, received memo.transfer trace = resource.take taken ∧
      asked memo.transfer trace = List.range' 1 blocks ∧ memo.At resource.length blocks taken := by
  obtain ⟨blocks, taken, shown, numbers, stage⟩ := progress
  cases stage with
  | waits other also number server there position =>
    obtain rfl : other = memo := List.inj_on_of_nodup_map alone also member number
    exact ⟨server, there, blocks, taken, shown, numbers, position⟩
  | lost closed | whole closed => exact absurd rfl (closed memo member)

/-- The last answer of a transfer: a block that no other follows, or none. -/
theorem Progress.last {resource : List UInt8} {s : State} {memo : Memo} {response : Response}
    (alone : (s.memos.map Memo.transfer).Nodup) (member : memo ∈ s.memos)
    (serves : state = .resp → Serves resource memo.asks response ∧ Readable prints response)
    (here : text s.lastReqPath ≠ []) (ends : (respHandler prints s.lastReqPath state response).2 = none)
    (progress : Progress resource trace s memo.transfer remote path) :
    Progress resource (trace ++ .answered memo.transfer state response ::
        (respHandler prints s.lastReqPath state response).1.map (.shown memo.transfer))
      { s with memos := s.memos.erase memo } memo.transfer remote path := by
  obtain ⟨-, -, blocks, taken, shown, numbers, position⟩ := progress.position alone member
  have closed : ∀ other ∈ s.memos.erase memo, other.transfer ≠ memo.transfer :=
    fun other still => ((mem_others alone member).mp still).2
  rw [Progress, received_answered, asked_answered, shown, numbers]
  by_cases arrived : state = .resp
  · subst arrived
    obtain ⟨serves, readable⟩ := serves rfl
    rw [payload_respHandler s.lastReqPath readable]
    rcases serves.block position with ⟨-, rfl, whole⟩ | ⟨block, announced, -, at_, part, more⟩
    · exact ⟨blocks, resource.length, by simp [whole], rfl, .whole closed (Nat.le_refl _)⟩
    · refine ⟨blocks, taken + blockSize block.szx, by rw [part, List.take_add], rfl, .whole closed ?_⟩
      have final : ¬ block.more = true := by
        intro further
        have made := (respHandler_some prints s.lastReqPath .resp response _).mpr
          ⟨block, rfl, announced, further, fun lost => here lost.2, rfl⟩
        rw [ends] at made
        cases made
      simp only [more, decide_eq_true_eq, Nat.add_mul, Nat.one_mul, ← at_] at final
      omega
  · rw [(payload_unanswered s.lastReqPath response arrived).1]
    exact ⟨blocks, taken, by simp, rfl, .lost closed (by simp [loses, arrived])⟩

/-- The next request of a transfer asks for the block behind the one that came. -/
theorem Progress.next {resource : List UInt8} {s : State} {memo : Memo} {response : Response}
    (small : resource.length ≤ 2 ^ 24) (alone : (s.memos.map Memo.transfer).Nodup) (member : memo ∈ s.memos)
    (serves : Serves resource memo.asks response) (readable : Readable prints response)
    (announced : response.block2 = some block) (more : block.more = true)
    (request : Get) (number : request.blknum = block.blknum + 1) (size : request.szx = block.szx)
    (progress : Progress resource trace s memo.transfer remote path) (sent : Bool) :
    Progress resource (trace ++ (.answered memo.transfer .resp response ::
        (respHandler prints s.lastReqPath .resp response).1.map (.shown memo.transfer) ++
        [.get memo.transfer memo.remote request sent]))
      { s with memos := enlist (s.memos.erase memo) sent (memo.next request) } memo.transfer memo.remote request.path := by
  obtain ⟨-, -, blocks, taken, shown, numbers, position⟩ := progress.position alone member
  rcases serves.block position with ⟨none, -⟩ | ⟨block', announced', counted, at_, part, more'⟩
  · rw [announced] at none
    cases none
  obtain rfl : block = block' := Option.some.inj (announced.symm.trans announced')
  rw [more, eq_comm, decide_eq_true_eq, Nat.add_mul, Nat.one_mul, ← at_] at more'
  -- the block numbers of so small a resource do not overflow
  have room : blocks * 16 ≤ taken := at_ ▸ Nat.mul_le_mul_left blocks (blockSize_pos block.szx)
  have following : request.blknum.toNat = blocks + 1 := by
    rw [number, UInt32.toNat_add, counted]
    simp only [UInt32.toNat_one]
    omega
  refine ⟨blocks + 1, taken + blockSize block.szx, ?_, ?_, ?_⟩
  · rw [← List.append_assoc, received_get, received_answered, payload_respHandler s.lastReqPath readable, shown, part,
      List.take_add]
  · rw [← List.append_assoc, asked_get, asked_answered, numbers, following, List.range'_1_concat, Nat.add_comm 1]
  · cases sent with
    | false =>
      refine .lost (fun other still => ((mem_others alone member).mp still).2) ?_
      simp [loses]
    | true =>
      refine .waits (memo.next request) (mem_enlist.mpr (.inr ⟨rfl, rfl⟩)) rfl rfl rfl ?_
      refine ⟨following, ?_, more'⟩
      rw [size, Nat.add_mul, Nat.one_mul, ← at_]

/-- What holds as long as the servers answer from their resources. -/
structure Transferring (resource : SockUdpEp → List UInt8 → List UInt8) (trace : List Event) (s : State) : Prop where
  ordered : Ordered trace s
  numbered : ∀ event ∈ trace, event.transfer < s.puts
  here : ∀ memo ∈ s.memos, memo.path = text s.lastReqPath ∧ memo.path ≠ []
  progress : ∀ transfer uri remote sent, .put transfer uri remote sent ∈ trace →
    Progress (resource remote uri.chars) trace s transfer remote uri.chars

namespace Transferring

variable {resource : SockUdpEp → List UInt8 → List UInt8} {trace events : List Event} {s s' : State}

theorem put (transferring : Transferring resource trace s) (uri : CString) (remote : SockUdpEp) (sent : Bool)
    (named : uri.chars ≠ []) (short : strlen uri < LAST_REQ_PATH_MAX) (same : ∀ memo ∈ s.memos, memo.path = uri.chars) :
    Transferring resource (trace ++ [.put s.puts uri remote sent])
      ⟨lastReqPath uri,enlist s.memos sent ⟨s.puts,remote,uri.chars,none⟩,s.puts + 1⟩ where
  ordered := transferring.ordered.put uri remote sent
  numbered event member := by
    rcases List.mem_append.mp member with old | new
    · exact Nat.lt_succ_of_lt (transferring.numbered event old)
    · rw [List.mem_singleton.mp new]
      exact Nat.lt_succ_self _
  here memo member := by
    have path : text (lastReqPath uri) = uri.chars := by rw [text_lastReqPath, kept, if_pos short]
    rw [path]
    rcases mem_enlist.mp member with old | ⟨-, rfl⟩
    · exact ⟨same memo old, same memo old ▸ named⟩
    · exact ⟨rfl, named⟩
  progress transfer uri' remote' sent' member := by
    rcases List.mem_append.mp member with old | new
    · have before : transfer < s.puts := transferring.numbered _ old
      refine (transferring.progress transfer uri' remote' sent' old).aside (fun event new => ?_) fun memo number => ?_
      · rw [List.mem_singleton.mp new]
        exact (Nat.ne_of_lt before).symm
      · refine mem_enlist.trans (or_iff_left fun ⟨_, young⟩ => ?_)
        rw [young] at number
        exact Nat.ne_of_lt before number.symm
    · obtain ⟨rfl, rfl, rfl, rfl⟩ := by simpa using new
      have silent : ∀ event ∈ trace, event.transfer ≠ s.puts :=
        fun event member => Nat.ne_of_lt (transferring.numbered event member)
      refine ⟨0, 0, ?_, ?_, ?_⟩
      · have none := received_other [] trace silent
        simpa [received] using none
      · have none := asked_other [] trace silent
        simpa [asked] using none
      · cases sent' with
        | true => exact .waits _ (mem_enlist.mpr (.inr ⟨rfl, rfl⟩)) rfl rfl rfl ⟨rfl, rfl⟩
        | false =>
          refine .lost (fun memo member number => ?_) (by simp [loses])
          exact Nat.ne_of_lt (transferring.ordered.origin memo member).1 number

/-- The events of an answer are about one transfer; the others go on as before. -/
theorem extend (transferring : Transferring resource trace s) (member : memo ∈ s.memos)
    (ordered : Ordered (trace ++ events) s') (counted : s'.puts = s.puts)
    (own : ∀ event ∈ events, event.transfer = memo.transfer)
    (noPut : ∀ transfer uri remote sent, .put transfer uri remote sent ∉ events)
    (here : ∀ other ∈ s'.memos, other.path = text s'.lastReqPath ∧ other.path ≠ [])
    (others : ∀ other : Memo, other.transfer ≠ memo.transfer → (other ∈ s'.memos ↔ other ∈ s.memos))
    (mine : ∀ uri : CString, memo.path = uri.chars →
      Progress (resource memo.remote uri.chars) trace s memo.transfer memo.remote uri.chars →
      Progress (resource memo.remote uri.chars) (trace ++ events) s' memo.transfer memo.remote uri.chars) :
    Transferring resource (trace ++ events) s' where
  ordered := ordered
  numbered event also := by
    rw [counted]
    rcases List.mem_append.mp also with old | new
    · exact transferring.numbered event old
    · exact own event new ▸ (transferring.ordered.origin memo member).1
  here := here
  progress transfer uri remote sent began := by
    have old := (List.mem_append.mp began).resolve_right (noPut transfer uri remote sent)
    have progress := transferring.progress transfer uri remote sent old
    by_cases same : transfer = memo.transfer
    · subst same
      obtain ⟨rfl, there, -⟩ := progress.position transferring.ordered.alone member
      exact mine uri there progress
    · refine progress.aside (fun event new number => same (number.symm.trans (own event new))) fun other number => ?_
      exact others other fun also => same (number.symm.trans also)

theorem answer (small : ∀ remote path, (resource remote path).length ≤ 2 ^ 24)
    (transferring : Transferring resource trace s) (member : memo ∈ s.memos)
    (serves : state = .resp → Serves (resource memo.remote memo.path) memo.asks response ∧ Readable prints response)
    (answered : Answered prints s memo state response s' events) : Transferring resource (trace ++ events) s' := by
  have alone := transferring.ordered.alone
  obtain ⟨path, named⟩ := transferring.here memo member
  have ordered := transferring.ordered.answer member answered
  cases answered with
  | last ends =>
    apply transferring.extend member ordered rfl
    case own => exact fun event new => answered_own event new
    case noPut => simp
    case here => exact fun other still => transferring.here other (List.mem_of_mem_erase still)
    case others => exact fun other apart => (mem_others alone member).trans (and_iff_left apart)
    case mine =>
      intro uri there progress
      exact progress.last alone member (there ▸ serves) (path ▸ named) ends
  | asks sent request block arrived announced more known made =>
    have same : request.path = memo.path := by rw [made, path]
    apply transferring.extend member ordered rfl
    case own =>
      intro event new
      rcases List.mem_append.mp new with answer | asked
      · exact answered_own event answer
      · rw [List.mem_singleton.mp asked]
        rfl
    case noPut => simp
    case here =>
      intro other still
      rcases mem_enlist.mp still with old | ⟨-, rfl⟩
      · exact transferring.here other (List.mem_of_mem_erase old)
      · exact ⟨same.trans path, fun nameless => named (same.symm.trans nameless)⟩
    case others =>
      intro other apart
      refine mem_enlist.trans ?_
      rw [mem_others alone member, and_iff_left apart]
      refine or_iff_left fun ⟨_, next⟩ => apart ?_
      rw [next]
      rfl
    case mine =>
      intro uri there progress
      subst arrived
      obtain ⟨serves, readable⟩ := serves rfl
      rw [there] at serves same
      have goesOn := progress.next (small _ _) alone member serves readable announced more request
        (by rw [made]) (by rw [made]) sent
      rwa [same] at goesOn

theorem step (small : ∀ remote path, (resource remote path).length ≤ 2 ^ 24)
    (transferring : Transferring resource trace s) (ok : served prints resource s a)
    (taken : Client.step prints s a = some (s',events)) : Transferring resource (trace ++ events) s' := by
  cases a with
  | put uri remote sent =>
    obtain ⟨named, short, same⟩ := ok
    rw [step_put] at taken
    cases taken
    exact transferring.put uri remote sent named short same
  | answer memo state response sent =>
    obtain ⟨member, answered⟩ := step_answer taken
    exact transferring.answer small member ok answered

end Transferring

/-- Where the servers answer with the blocks of what they have, in a form that the program
shows whole, and no PUT changes the path under an open request, a transfer shows the resource
from its beginning, asks for the blocks in order, and ends before the resource does only where
a request or its answer is lost. The length is what block numbers of 20 bits reach with the
smallest blocks. -/
theorem transfers_come_whole (resource : SockUdpEp → List UInt8 → List UInt8)
    (small : ∀ remote path, (resource remote path).length ≤ 2 ^ 24)
    (path : Path (step prints) (served prints resource) boot trace s)
    (began : .put transfer uri remote sent ∈ trace) :
    received transfer trace <+: resource remote uri.chars ∧
      (∃ blocks, asked transfer trace = List.range' 1 blocks) ∧
      (transfer ∉ s.memos.map Memo.transfer → trace.any (loses transfer) = false →
        received transfer trace = resource remote uri.chars) := by
  have initial : Transferring resource [] boot :=
    ⟨ordered_boot, fun _ member => absurd member List.not_mem_nil, fun _ member => absurd member List.not_mem_nil,
      fun _ _ _ _ member => absurd member List.not_mem_nil⟩
  have transferring : Transferring resource trace s :=
    path.invariant (Transferring resource) (fun held ok taken => held.step small ok taken) initial
  obtain ⟨blocks, taken, shown, numbers, stage⟩ := transferring.progress transfer uri remote sent began
  refine ⟨shown ▸ List.take_prefix taken _, ⟨blocks, numbers⟩, fun closed kept => ?_⟩
  cases stage with
  | waits memo member number => exact absurd (number ▸ List.mem_map_of_mem member) closed
  | lost _ why =>
    rw [kept] at why
    cases why
  | whole _ all => rw [shown, List.take_of_length_le all]

instance : Decidable (Carries resource n block payload) :=
  decidable_of_iff (block.blknum.toNat = n ∧
      payload = (resource.drop (n * blockSize block.szx)).take (blockSize block.szx) ∧
      block.more = decide ((n + 1) * blockSize block.szx < resource.length))
    ⟨fun ⟨number, part, more⟩ => ⟨number, part, more⟩, fun carries => ⟨carries.number, carries.part, carries.more⟩⟩

instance (resource : List UInt8) (asks : Option (UInt32 × UInt8)) (r : Response) : Decidable (Serves resource asks r) :=
  match asks,r with
  | none,⟨_,_,_,_,_,payload,none⟩ => inferInstanceAs (Decidable (payload = resource))
  | none,⟨_,_,_,_,_,payload,some block⟩ => inferInstanceAs (Decidable (Carries resource 0 block payload))
  | some _,⟨_,_,_,_,_,_,none⟩ => inferInstanceAs (Decidable False)
  | some (blknum,szx),⟨_,_,_,_,_,payload,some block⟩ =>
    inferInstanceAs (Decidable (block.szx = szx ∧ Carries resource blknum.toNat block payload))

instance (prints : Bool) (r : Response) : Decidable (Readable prints r) := inferInstanceAs (Decidable (_ → _))

instance (prints : Bool) (resource : SockUdpEp → List UInt8 → List UInt8) (s : State) :
    (a : Action) → Decidable (served prints resource s a)
  | .put _ _ _ => inferInstanceAs (Decidable (_ ∧ _ ∧ _))
  | .answer _ _ _ _ => inferInstanceAs (Decidable (_ → _))

/-- Twenty bytes, which need two of the smallest blocks. -/
def twenty (_ : SockUdpEp) (_ : List UInt8) : List UInt8 := List.replicate 20 7

/-- A PUT, the first block in the answer to it, and the second one. -/
def inTwoBlocks : List Action :=
  [.put registerUri server true,
    .answer ⟨0,server,registerUri.chars,none⟩ .resp ⟨1,.ack,2,4,42,List.replicate 16 7,some ⟨0,0,true⟩⟩ true,
    .answer ⟨0,server,registerUri.chars,some (1,0)⟩ .resp ⟨2,.ack,2,5,42,List.replicate 4 7,some ⟨1,0,false⟩⟩ true]

/-- The transfer that the run makes, in a trace that ends with it. -/
def Transferred (s : State) (trace : List Event) : Prop :=
  .put 0 registerUri server true ∈ trace ∧ s.memos = [] ∧ trace.any (loses 0) = false ∧ asked 0 trace = [1]

instance (s : State) (trace : List Event) : Decidable (Transferred s trace) := inferInstanceAs (Decidable (_ ∧ _))

theorem transfers_come_whole_run :
    ∃ s trace, Path (step false) (served false twenty) boot trace s ∧ asked 0 trace = [1] ∧
      received 0 trace = List.replicate 20 7 := by
  have run : ∃ s trace, Path (step false) (served false twenty) boot trace s ∧ Transferred s trace :=
    replay_reaches inTwoBlocks Transferred (by decide +kernel)
  obtain ⟨s, trace, path, began, done, kept, numbers⟩ := run
  have small : ∀ remote path, (twenty remote path).length ≤ 2 ^ 24 := by
    intro remote path
    simp [twenty]
  obtain ⟨-, -, whole⟩ := transfers_come_whole twenty small path began
  exact ⟨s, trace, path, numbers, whole (by simp [done]) kept⟩

end RiotAlarm.Client
