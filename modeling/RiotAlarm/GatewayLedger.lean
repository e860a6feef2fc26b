import Mathlib
import RiotAlarm.Ledger
import RiotAlarm.GatewayAdmission

/-! Who owns the gateway's blocks: the table and the entries, the names that the commands
duplicate, the copies that the request handlers make, and the log messages on their way.
Every `malloc`, `strdup` and `free` of the code is entered into an account; the account
of the entries is the heap that they live on. -/
namespace RiotAlarm.Gateway

open Transition Ledger

def LOG_QUEUE_SIZE : Nat := 2

/-- Where a block comes from: `ht_create` (the header and the array of slots),
`add_sensor_entry`, `add_actuator_entry` and `insert_node`, `strdup` in the commands,
the request handlers, `send_log_msg`. -/
inductive Site where
  | table
  | sensor
  | actuator
  | name
  | copy
  | message
  deriving DecidableEq

/-- What becomes of `sensor_id` or `actuator_id`, the copy of a request's payload. -/
inductive Copy where
  | notTaken
  | freed
  | dropped
  deriving DecidableEq

/-- `add_sensor_entry` and `add_actuator_entry` return early when the port does not parse. -/
def entryCopy (gnrc : Gnrc) (id : NodeIdentity) : Copy :=
  if (entryRemote gnrc id.ipAddr (gnrc.addrToStr id.ipAddr)).port = 0 then .dropped else .freed

def sensorRegisterCopy (gnrc : Gnrc) (g : Globals) (payload : Option NodeIdentity) : Copy :=
  match g.sensorId with
  | none => .notTaken
  | some pending =>
    match payload with
    | none => .notTaken
    | some sensorId =>
      if strcmpResult (g.htSensor.get sensorId.name) sensorId.name = 0 then .dropped
      else if strcmp pending sensorId.name = 0 then entryCopy gnrc sensorId
      else .freed

def actuatorRegisterCopy (gnrc : Gnrc) (g : Globals) (payload : Option NodeIdentity) : Copy :=
  match g.actuatorId with
  | none => .notTaken
  | some pending =>
    match payload with
    | none => .notTaken
    | some actuatorId =>
      if g.actuators.nodeExists pending = 0 then .dropped
      else if strcmp pending actuatorId.name = 0 then entryCopy gnrc actuatorId
      else .freed

/-- The status and the tap handler keep the copy on none of their exits. -/
def sensorCopy : Option NodeIdentity → Copy
  | none => .notTaken
  | some _ => .dropped

def handlerCopy (gnrc : Gnrc) (g : Globals) : Handler → Copy
  | .register .sensor payload => sensorRegisterCopy gnrc g payload
  | .register .actuator payload => actuatorRegisterCopy gnrc g payload
  | .status payload => sensorCopy payload
  | .tap payload => sensorCopy payload
  | _ => .notTaken

def actionCopy (gnrc : Gnrc) (g : Globals) : Action → Copy
  | .run handler => handlerCopy gnrc g handler
  | _ => .notTaken

def Copy.enter (acc : Account) : Copy → Account
  | .notTaken => acc
  | .freed => acc.malloc.free acc.limit
  | .dropped => acc.malloc

/-- The names that `SENSOR_ID` and `ACTUATOR_ID` are set to, and the block under each pointer. -/
structure Names where
  account : Account
  pointee : Kind → Option Nat

/-- The kind whose name the next statement duplicates. -/
def Shell.strdups : Shell → Option Kind
  | .auth kind _ .start => some kind
  | .deauth kind _ .start => some kind
  | _ => none

def actionStrdup (s : Server) : Action → Option Kind
  | .shell => s.shell.strdups
  | _ => none

/-- `SENSOR_ID = strdup(argv[1])`. What the pointer pointed to before is not looked at. -/
def Names.strdup (names : Names) : Option Kind → Names
  | none => names
  | some kind =>
    ⟨names.account.malloc, fun other => if other = kind then some names.account.limit else names.pointee other⟩

/-- A pointer that the step has set to NULL points to no block. -/
def Names.follow (names : Names) (g : Globals) : Names :=
  { names with pointee := fun kind => if (g.pending kind).isSome then names.pointee kind else none }

def Names.reachable (names : Names) : List Nat := [Kind.sensor, .actuator].filterMap names.pointee

/-- The log messages that are allocated, and those that `log_thread` will receive. -/
structure Mailbox where
  account : Account
  queue : List Nat

/-- `send_log_msg`. A thread waits until the queue takes the message; from an interrupt
`msg_send` gives up on a full queue. -/
def Mailbox.sendLogMsg (box : Mailbox) (interrupt : Bool) : Mailbox where
  account := box.account.malloc
  queue := if interrupt ∧ LOG_QUEUE_SIZE ≤ box.queue.length then box.queue else box.queue ++ [box.account.limit]

def Event.isLogged : Event → Bool
  | .logged _ _ => true
  | _ => false

def Mailbox.sendAll (box : Mailbox) (interrupt : Bool) : List Event → Mailbox
  | [] => box
  | event :: rest => (if event.isLogged then box.sendLogMsg interrupt else box).sendAll interrupt rest

def Action.interrupts : Action → Bool
  | .run .disEngageButton => true
  | .run .testButton => true
  | _ => false

structure Books where
  server : Server
  names : Names
  copies : Account
  box : Mailbox

inductive BookAction where
  | gateway (action : Action)
  | deliver

/-- A step of the gateway with what it allocates and releases, or one turn of `log_thread`. -/
def bookStep (gnrc : Gnrc) : Step Books BookAction Event
  | b,.gateway action =>
    (step gnrc b.server action).map fun (server,events) =>
      ({ server
         names := (b.names.strdup (actionStrdup b.server action)).follow server.globals
         copies := (actionCopy gnrc b.server.globals action).enter b.copies
         box := b.box.sendAll action.interrupts events },events)
  | b,.deliver =>
    match b.box.queue with
    | [] => none
    | message :: queue => some ({ b with box := ⟨b.box.account.free message,queue⟩ },[])

/-- After `init`: "Server Started" has been sent. -/
def opening : Books := ⟨start,⟨⟨0,[]⟩,fun _ => none⟩,⟨0,[]⟩,⟨⟨1,[]⟩,[0]⟩⟩

/-- A heap keeps the account of its own cells. -/
def heapAccount (heap : LinkedHeap.Heap α) : Account := ⟨heap.limit,heap.released⟩

def sensorBlocks (table : SensorTable) : List Nat := (List.finRange TABLE_SIZE).flatMap table.ht.chain

namespace Books
variable (b : Books)

def account : Site → Account
  | .table => ⟨2,[]⟩
  | .sensor => heapAccount b.server.globals.htSensor.ht.heap
  | .actuator => heapAccount b.server.globals.actuators.cells.heap
  | .name => b.names.account
  | .copy => b.copies
  | .message => b.box.account

/-- The blocks that the globals lead to, or that wait in the log's queue. -/
def reachable : Site → List Nat
  | .table => [0,1]
  | .sensor => sensorBlocks b.server.globals.htSensor
  | .actuator => Actuators.chain b.server.globals.actuators.cells
  | .name => b.names.reachable
  | .copy => []
  | .message => b.box.queue

/-- No command and no log delivery is in progress; a handler is one step. -/
def atRest : Bool := b.server.shell.ready && b.box.queue.isEmpty

def unreleased : Nat :=
  ([Site.table, .sensor, .actuator, .name, .copy, .message].map fun site => (b.account site).unreleased.length).sum

/-- Entries in the table and in the list. -/
def storedNodes : Nat :=
  ((List.finRange TABLE_SIZE).map fun i => (b.server.globals.htSensor.ht.bucket i).length).sum +
    b.server.globals.actuators.toList.length

/-- Nothing is released twice; at rest everything else is reachable, and there is no more of
it than the stored nodes account for, up to a constant. -/
structure Balanced : Prop where
  once : ∀ site, (b.account site).released.Nodup
  held : b.atRest = true → ∀ site, ∀ a ∈ (b.account site).unreleased, a ∈ b.reachable site
  bounded : b.atRest = true → b.unreleased ≤ b.storedNodes + 4

/-- The same while commands and deliveries are in progress. -/
def Accounted : Prop := ∀ site, (b.account site).Balanced (b.reachable site)

end Books

/-- A request that neither loses its copy nor a pending name, and a button whose message the
log takes. -/
def Handler.thrifty (g : Globals) (queue : List Nat) : Handler → Prop
  | .register .sensor payload => g.sensorId = none ∨ payload = none ∨ g.accepts .sensor payload = true
  | .register .actuator _ => g.actuatorId = none
  | .status payload => payload = none
  | .tap payload => payload = none
  | .disEngageButton => queue.length < LOG_QUEUE_SIZE
  | .testButton => g.isEngaged = true → queue.length < LOG_QUEUE_SIZE
  | .wdt => True
  | .alarm => True

/-- A command does not return while its name is pending, and removes nothing. -/
def Shell.thrifty (g : Globals) : Shell → Prop
  | .auth kind _ (.done _) => g.pending kind = none
  | .deauth kind _ (.done _) => g.pending kind = none
  | .deauth kind _ .remove => (g.pending kind).any (g.holds kind) = false
  | _ => True

def thrifty (b : Books) : BookAction → Prop
  | .gateway (.run handler) => handler.thrifty b.server.globals b.box.queue
  | .gateway .shell => b.server.shell.thrifty b.server.globals
  | .gateway (.type _) => True
  | .deliver => True

variable {gnrc : Gnrc} {g g' : Globals} {s t : Server} {b c : Books} {id : NodeIdentity} {events : List Event}

/-! The pending names and the blocks under them. -/

/-- The first statement of a command sets its pointer, the last one clears it, and no other
touches the two. -/
theorem shellStep_names (run : shellStep g shell = some (g',events,shell')) : shell'.strdups = none ∧
    ((∃ kind name, shell.strdups = some kind ∧ g' = g.setPending (some name) kind) ∨
    (∃ kind name code, (shell = .auth kind name (.done code) ∨ shell = .deauth kind name (.done code)) ∧
      g' = g.setPending none kind) ∨
    (shell.strdups = none ∧ ∀ kind, g'.pending kind = g.pending kind)) := by
  cases shell with
  | idle | returned | crashed => simp [shellStep] at run
  | engage | engageLog | disengage | showActuators | showLog =>
    cases run
    exact ⟨rfl, .inr (.inr ⟨rfl, fun kind => by cases kind <;> rfl⟩)⟩
  | auth kind name point =>
    simp only [shellStep, Option.some.injEq] at run
    cases point with
    | start =>
      cases run
      exact ⟨rfl, .inl ⟨kind, name, rfl, rfl⟩⟩
    | done code =>
      cases run
      exact ⟨rfl, .inr (.inl ⟨kind, name, code, .inl rfl, rfl⟩)⟩
    | prompt | sleep | clear | log =>
      cases run
      exact ⟨rfl, .inr (.inr ⟨rfl, fun kind => by cases kind <;> rfl⟩)⟩
    | check | timeout | flag | respond =>
      simp only [authStep] at run
      split at run <;> cases run <;> exact ⟨rfl, .inr (.inr ⟨rfl, fun _ => rfl⟩)⟩
  | deauth kind name point =>
    simp only [shellStep, Option.some.injEq] at run
    cases point with
    | start =>
      cases run
      exact ⟨rfl, .inl ⟨kind, name, rfl, rfl⟩⟩
    | done code =>
      cases run
      exact ⟨rfl, .inr (.inl ⟨kind, name, code, .inr rfl, rfl⟩)⟩
    | log =>
      cases run
      exact ⟨rfl, .inr (.inr ⟨rfl, fun _ => rfl⟩)⟩
    | remove =>
      simp only [deauthStep] at run
      split at run
      next =>
        cases run
        exact ⟨rfl, .inr (.inr ⟨rfl, fun _ => rfl⟩)⟩
      next removed =>
        cases run
        exact ⟨by split <;> rfl, .inr (.inr ⟨rfl, (removePending_frame removed).1⟩)⟩

theorem handle_pending (gnrc : Gnrc) (g : Globals) (handler : Handler)
    (waiting : (handle gnrc g handler).1.pending kind = some name) : g.pending kind = some name := by
  rcases handle_cases gnrc g handler with
    ⟨_, _, _, -, -, -, -, registered, -⟩ | ⟨_, _, -, -, forgot, -⟩ | ⟨stores, -⟩
  · exact registered.pending kind ▸ waiting
  · rw [forgot, Globals.pending_setPending] at waiting
    split at waiting
    next => contradiction
    next => exact waiting
  · exact stores.pending kind ▸ waiting

/-- Only `strdup` makes a pointer point to something. -/
theorem step_pending (taken : step gnrc s a = some (t,events)) (waiting : t.globals.pending kind = some name) :
    s.globals.pending kind = some name ∨ actionStrdup s a = some kind := by
  rcases step_cases taken with ⟨command, rfl, -, rfl, -⟩ | ⟨rfl, run⟩ | ⟨handler, rfl, -, -, run⟩
  · exact .inl waiting
  · rcases (shellStep_names run).2 with ⟨other, id, started, same⟩ | ⟨other, id, code, -, same⟩ | ⟨-, same⟩
    · rw [same, Globals.pending_setPending] at waiting
      split at waiting
      next own => exact .inr (own ▸ started)
      next => exact .inl waiting
    · rw [same, Globals.pending_setPending] at waiting
      split at waiting
      next => contradiction
      next => exact .inl waiting
    · exact .inl (same kind ▸ waiting)
  · have after : (handle gnrc s.globals handler).1 = t.globals := congrArg Prod.fst run
    exact .inl (handle_pending gnrc s.globals handler (after ▸ waiting))

theorem Pending.ready (held : Pending g shell) (ready : shell.ready = true) (kind : Kind) : g.pending kind = none := by
  cases waiting : g.pending kind with
  | none => rfl
  | some name =>
    have target := held.target (by rintro rfl; contradiction) kind name waiting
    cases shell <;> contradiction

/-- Each pending name has its block, and a command starts with no name pending. -/
structure Named (b : Books) : Prop where
  pending : Pending b.server.globals b.server.shell
  clear : b.server.shell.strdups ≠ none → ∀ kind, b.server.globals.pending kind = none
  block : ∀ kind, (b.names.pointee kind).isSome = (b.server.globals.pending kind).isSome

theorem Named.opening : Named opening where
  pending := .start
  clear started := absurd rfl started
  block kind := by cases kind <;> rfl

theorem Named.step (named : Named b) (taken : bookStep gnrc b a = some (c,events)) : Named c := by
  cases a with
  | deliver =>
    simp only [bookStep] at taken
    split at taken
    next => contradiction
    next =>
      cases taken
      exact ⟨named.pending, named.clear, named.block⟩
  | gateway action =>
    obtain ⟨⟨server, shown⟩, moved, same⟩ := Option.map_eq_some_iff.mp taken
    cases same
    refine ⟨named.pending.step moved, ?_, fun kind => ?_⟩
    · intro started kind
      rcases step_cases moved with ⟨command, -, ready, rfl, -⟩ | ⟨-, run⟩ | ⟨handler, -, -, same, run⟩
      · exact named.pending.ready ready kind
      · exact absurd (shellStep_names run).1 started
      · have before := named.clear (same ▸ started) kind
        by_contra waiting
        obtain ⟨name, waiting⟩ := Option.ne_none_iff_exists'.mp waiting
        have after : (handle gnrc b.server.globals handler).1 = server.globals := congrArg Prod.fst run
        have waited := handle_pending gnrc b.server.globals handler (after ▸ waiting)
        simp [before] at waited
    · cases waiting : server.globals.pending kind with
      | none => simp [Names.follow, waiting]
      | some name =>
        have held := named.block kind
        rcases step_pending moved waiting with before | started
        · rw [before] at held
          cases started : actionStrdup b.server action with
          | none => simp [Names.follow, Names.strdup, waiting, held]
          | some other =>
            simp only [Names.follow, Names.strdup, waiting, Option.isSome_some, ↓reduceIte]
            split
            next => rfl
            next => exact held
        · simp [Names.follow, Names.strdup, waiting, started]

/-! The accounts one by one: first the entries. -/

theorem sensorBlocks_set (table : SensorTable) (remote : SockUdpEp) (absent : table.view name = none) :
    (sensorBlocks (table.set name remote).1).Perm (table.ht.heap.limit :: sensorBlocks table) := by
  obtain ⟨chains, -, -⟩ := table.set_frame remote absent
  have fresh : table.ht.heap.limit ∉ sensorBlocks table := by
    intro member
    obtain ⟨i, -, inChain⟩ := List.mem_flatMap.mp member
    exact Nat.lt_irrefl _ (table.sound.below inChain)
  refine (List.perm_ext_iff_of_nodup (table.set name remote).1.sound.cells_nodup
    (List.nodup_cons.mpr ⟨fresh, table.sound.cells_nodup⟩)).mpr fun a => ?_
  simp only [sensorBlocks, List.mem_flatMap, List.mem_finRange, true_and, List.mem_cons, chains]
  constructor
  · rintro ⟨i, member⟩
    split at member
    next =>
      rcases List.mem_append.mp member with old | new
      · exact .inr ⟨i, old⟩
      · exact .inl (List.mem_singleton.mp new)
    next => exact .inr ⟨i, member⟩
  · rintro (rfl | ⟨i, member⟩)
    · exact ⟨slot name, by simp⟩
    · refine ⟨i, ?_⟩
      split
      next => exact List.mem_append_left _ member
      next => exact member

/-- All entries that were allocated are in the table and in the list. -/
structure Entries (g : Globals) : Prop where
  sensors : (heapAccount g.htSensor.ht.heap).Exact (sensorBlocks g.htSensor)
  actuators : (heapAccount g.actuators.cells.heap).Exact (Actuators.chain g.actuators.cells)

theorem Entries.keep (held : Entries g) (sensors : g'.htSensor = g.htSensor) (actuators : g'.actuators = g.actuators) :
    Entries g' :=
  ⟨sensors ▸ held.sensors, actuators ▸ held.actuators⟩

theorem Entries.set (held : Entries g) (absent : g.htSensor.view name = none)
    (sensors : g'.htSensor = (g.htSensor.set name remote).1) (actuators : g'.actuators = g.actuators) : Entries g' := by
  obtain ⟨-, limit, released⟩ := g.htSensor.set_frame remote absent
  have account : heapAccount (g.htSensor.set name remote).1.ht.heap = (heapAccount g.htSensor.ht.heap).malloc := by
    rw [heapAccount, limit, released]
    rfl
  refine ⟨?_, actuators ▸ held.actuators⟩
  rw [sensors, account]
  exact held.sensors.malloc.reorder (sensorBlocks_set g.htSensor remote absent).symm

theorem Entries.wdt (held : Entries g) : Entries (wdtThread g) := by
  obtain ⟨chains, limit, released⟩ := g.htSensor.wdt_frame g.isEngaged g.isTimeout
  have account : heapAccount (wdtThread g).htSensor.ht.heap = heapAccount g.htSensor.ht.heap := by
    rw [heapAccount, wdtThread, limit, released]
    rfl
  have blocks : sensorBlocks (wdtThread g).htSensor = sensorBlocks g.htSensor :=
    congrArg (List.finRange TABLE_SIZE).flatMap (funext chains)
  exact ⟨by rw [account, blocks]; exact held.sensors, held.actuators⟩

/-- A removal that finds nothing leaves the stores as they are. -/
theorem removePending_absent (run : removePending g kind = some (g',code,sent))
    (absent : (g.pending kind).any (g.holds kind) = false) :
    g'.htSensor = g.htSensor ∧ g'.actuators = g.actuators := by
  rcases removePending_cases run with ⟨name, waiting, same⟩ | ⟨-, rfl, -, -⟩
  · rw [waiting, Option.any_some] at absent
    cases kind with
    | sensor =>
      simp only [removeSensor, Prod.mk.injEq] at same
      obtain ⟨rfl, -, -⟩ := same
      have missing : g.htSensor.view name = none := by simpa [Globals.holds] using absent
      exact ⟨g.htSensor.del_absent missing, rfl⟩
    | actuator =>
      simp only [removeActuator, Prod.mk.injEq] at same
      obtain ⟨rfl, -, -⟩ := same
      exact ⟨rfl, g.actuators.deleteNode_absent absent⟩
  · exact ⟨rfl, rfl⟩

theorem Entries.shellStep (held : Entries g) (run : shellStep g shell = some (g',events,shell'))
    (ok : shell.thrifty g) : Entries g' := by
  rcases shellStep_cases run with
    ⟨_, _, rfl, -⟩ | ⟨rfl, -⟩ | ⟨kind, name, code, rfl, removed⟩ | ⟨-, rfl, -⟩ | ⟨-, off⟩ | ⟨rfl, -⟩
  · exact held.keep (by simp) (by simp)
  · exact held.keep rfl rfl
  · obtain ⟨sensors, actuators⟩ := removePending_absent removed ok
    exact held.keep sensors actuators
  · exact held.keep rfl rfl
  · obtain rfl : g' = (deactivateAlarm g).1 := congrArg Prod.fst off
    exact held.keep rfl rfl
  · exact held

theorem accepts_some :
    g.accepts kind (some id) = true ↔ g.pending kind = some id.name ∧ g.holds kind id.name = false := by
  rw [Globals.accepts, Bool.and_eq_true, decide_eq_true_eq, Bool.not_eq_true']

/-- A thrifty registration is a sensor's that is accepted: `ht_set` links it in and its copy is
freed. Or it is turned away before anything is copied. -/
theorem register_thrifty (gnrc : Gnrc) (ok : (Handler.register kind payload).thrifty g queue) :
    (∃ name remote, g.htSensor.view name = none ∧ (handle gnrc g (.register kind payload)).1 =
        { g with isRegistered := true, htSensor := (g.htSensor.set name remote).1 } ∧
      handlerCopy gnrc g (.register kind payload) = .freed) ∨
    ((handle gnrc g (.register kind payload)).1 = g ∧ handlerCopy gnrc g (.register kind payload) = .notTaken) := by
  cases kind with
  | sensor =>
    rcases ok with missing | rfl | accepted
    · right
      simp [handle, registerHandler, sensorRegisterHandler, handlerCopy, sensorRegisterCopy, missing]
    · right
      cases waiting : g.sensorId <;>
        simp [handle, registerHandler, sensorRegisterHandler, handlerCopy, sensorRegisterCopy, waiting]
    · cases payload with
      | none => simp [Globals.accepts] at accepted
      | some id =>
        obtain ⟨waiting, absent⟩ := accepts_some.mp accepted
        have unknown : ¬ strcmpResult (g.htSensor.get id.name) id.name = 0 := by
          rw [lookup_eq_zero, absent]
          simp
        rw [Globals.pending] at waiting
        refine .inl ⟨id.name, entryRemote gnrc id.ipAddr (gnrc.addrToStr id.ipAddr), ?_, ?_, ?_⟩
        · simpa [Globals.holds] using absent
        · simp [handle, registerHandler, sensorRegisterHandler, waiting, unknown, addSensorEntry, entryRemote_port]
        · simp [handlerCopy, sensorRegisterCopy, waiting, unknown, entryCopy, entryRemote_port]
  | actuator =>
    have missing : g.actuatorId = none := ok
    right
    simp [handle, registerHandler, actuatorRegisterHandler, handlerCopy, actuatorRegisterCopy, missing]

theorem Entries.handle (held : Entries g) (handler : Handler) (ok : handler.thrifty g queue) :
    Entries (handle gnrc g handler).1 := by
  cases handler with
  | register kind payload =>
    rcases register_thrifty gnrc ok with ⟨name, remote, absent, stored, -⟩ | ⟨unchanged, -⟩
    · rw [stored]
      exact held.set absent rfl rfl
    · rw [unchanged]
      exact held
  | status payload =>
    obtain rfl : payload = none := ok
    exact held
  | tap payload =>
    obtain rfl : payload = none := ok
    exact held
  | disEngageButton => exact held.keep rfl rfl
  | testButton =>
    simp only [Gateway.handle, testIntrp]
    split <;> exact held.keep rfl rfl
  | wdt => exact held.wdt
  | alarm =>
    simp only [Gateway.handle, alarmThread]
    split <;> exact held.keep rfl rfl

/-! The names. -/

theorem Names.follow_eq {names : Names} (block : ∀ kind, (names.pointee kind).isSome = (g.pending kind).isSome) :
    names.follow g = names := by
  have same : (fun kind => if (g.pending kind).isSome then names.pointee kind else none) = names.pointee := by
    funext kind
    rw [← block kind]
    cases names.pointee kind <;> rfl
  rw [Names.follow, same]

theorem thrifty_pending (taken : step gnrc b.server a = some (t,events)) (ok : thrifty b (.gateway a))
    (other : actionStrdup b.server a = none) (kind : Kind) : t.globals.pending kind = b.server.globals.pending kind := by
  rcases step_cases taken with ⟨command, rfl, -, rfl, -⟩ | ⟨rfl, run⟩ | ⟨handler, rfl, -, -, run⟩
  · rfl
  · rcases (shellStep_names run).2 with ⟨started, _, begun, -⟩ | ⟨own, _, code, at_, same⟩ | ⟨-, same⟩
    · exact absurd begun (by rw [show b.server.shell.strdups = none from other]; simp)
    · have gone : b.server.globals.pending own = none := by
        rcases at_ with at_ | at_ <;> simpa [thrifty, Shell.thrifty, at_] using ok
      rw [same, Globals.pending_setPending]
      split
      next mine => rw [mine, gone]
      next => rfl
    · exact same kind
  · have after : (handle gnrc b.server.globals handler).1 = t.globals := congrArg Prod.fst run
    rw [← after]
    rcases handle_cases gnrc b.server.globals handler with
      ⟨_, _, _, -, -, -, -, registered, -⟩ | ⟨_, _, rfl, -, -, -⟩ | ⟨stores, -⟩
    · exact registered.pending kind
    · rcases register_thrifty gnrc ok with ⟨name, remote, -, stored, -⟩ | ⟨unchanged, -⟩
      · rw [stored]
        cases kind <;> rfl
      · rw [unchanged]
    · exact stores.pending kind

/-! The copies and the messages. -/

theorem thrifty_copy (ok : handler.thrifty g queue) : handlerCopy gnrc g handler ≠ .dropped := by
  cases handler with
  | register kind payload =>
    rcases register_thrifty gnrc ok with ⟨_, _, -, -, freed⟩ | ⟨-, notTaken⟩
    · simp [freed]
    · simp [notTaken]
  | status payload | tap payload =>
    obtain rfl : payload = none := ok
    simp [handlerCopy, sensorCopy]
  | disEngageButton | testButton | wdt | alarm => simp [handlerCopy]

theorem Copy.enter_law (law : acc.Exact []) (copy : Copy) (kept : copy ≠ .dropped) : (copy.enter acc).Exact [] := by
  cases copy with
  | notTaken => exact law
  | freed => exact law.malloc.free
  | dropped => contradiction

/-- Messages that the queue takes are delivered later. -/
theorem Mailbox.sendAll_law {box : Mailbox} (law : box.account.Exact box.queue)
    (room : interrupt = true → events.any Event.isLogged = true →
      box.queue.length + events.countP Event.isLogged ≤ LOG_QUEUE_SIZE) :
    (box.sendAll interrupt events).account.Exact (box.sendAll interrupt events).queue := by
  induction events generalizing box with
  | nil => exact law
  | cons event rest ih =>
    rw [Mailbox.sendAll]
    split
    next logged =>
      rw [List.countP_cons_of_pos logged] at room
      have taken : ¬ (interrupt = true ∧ LOG_QUEUE_SIZE ≤ box.queue.length) := by
        rintro ⟨inside, full⟩
        have fits := room inside (by simp [logged])
        omega
      apply ih
      · simp only [Mailbox.sendLogMsg, taken, ↓reduceIte]
        exact law.malloc.reorder (List.perm_append_singleton _ _).symm
      · intro inside _
        have fits := room inside (by simp [logged])
        simp only [Mailbox.sendLogMsg, taken, ↓reduceIte, List.length_append, List.length_singleton]
        omega
    next silent =>
      rw [List.countP_cons_of_neg silent] at room
      exact ih law fun inside later => room inside (by simp [later])

/-- No interrupt logs more than one message, and thrift leaves room for it. -/
theorem thrifty_room (taken : step gnrc b.server a = some (t,events)) (ok : thrifty b (.gateway a))
    (inside : a.interrupts = true) (logs : events.any Event.isLogged = true) :
    b.box.queue.length + events.countP Event.isLogged ≤ LOG_QUEUE_SIZE := by
  rcases step_cases taken with ⟨command, rfl, -, -, -⟩ | ⟨rfl, -⟩ | ⟨handler, rfl, -, -, run⟩
  · contradiction
  · contradiction
  · obtain rfl : (handle gnrc b.server.globals handler).2 = events := congrArg Prod.snd run
    cases handler with
    | disEngageButton =>
      have room : b.box.queue.length < LOG_QUEUE_SIZE := ok
      simpa [handle, disEngageIntrp, deactivateAlarm, Event.isLogged, Nat.succ_le_iff] using room
    | testButton =>
      cases engaged : b.server.globals.isEngaged with
      | false => simp [handle, testIntrp, engaged] at logs
      | true =>
        have room : b.box.queue.length < LOG_QUEUE_SIZE := ok engaged
        simpa [handle, testIntrp, activateAlarm, engaged, Event.isLogged, Nat.succ_le_iff] using room
    | register | status | tap | wdt | alarm => contradiction

/-- The names have their blocks and every account is exact. -/
structure Reconciled (b : Books) : Prop where
  named : Named b
  law : ∀ site, (b.account site).Exact (b.reachable site)

theorem Reconciled.opening : Reconciled opening where
  named := .opening
  law site := by
    cases site with
    | table | name | copy | message => exact List.Perm.refl _
    | sensor =>
      have none : sensorBlocks SensorTable.empty = [] :=
        List.flatMap_eq_nil_iff.mpr fun i _ => htCreate_sound.2.2 i
      show (heapAccount _).Exact (sensorBlocks SensorTable.empty)
      rw [none]
      exact List.Perm.refl _
    | actuator =>
      show (heapAccount _).Exact (Actuators.chain ⟨.empty,none⟩)
      rw [ActuatorList.empty_spec.2]
      exact List.Perm.refl _

theorem Reconciled.entries (kept : Reconciled b) : Entries b.server.globals := ⟨kept.law .sensor, kept.law .actuator⟩

theorem Entries.step (held : Entries b.server.globals) (taken : step gnrc b.server a = some (t,events))
    (ok : thrifty b (.gateway a)) : Entries t.globals := by
  rcases step_cases taken with ⟨command, rfl, -, rfl, -⟩ | ⟨rfl, run⟩ | ⟨handler, rfl, -, -, run⟩
  · exact held
  · exact held.shellStep run ok
  · have after : (Gateway.handle gnrc b.server.globals handler).1 = t.globals := congrArg Prod.fst run
    exact after ▸ held.handle handler ok

theorem Reconciled.names (kept : Reconciled b) (taken : Gateway.step gnrc b.server a = some (t,events))
    (ok : thrifty b (.gateway a)) :
    ((b.names.strdup (actionStrdup b.server a)).follow t.globals).account.Exact
      ((b.names.strdup (actionStrdup b.server a)).follow t.globals).reachable := by
  cases begun : actionStrdup b.server a with
  | none =>
    have same : b.names.follow t.globals = b.names := by
      apply Names.follow_eq
      intro kind
      rw [thrifty_pending taken ok begun, kept.named.block]
    rw [Names.strdup, same]
    exact kept.law .name
  | some kind =>
    obtain ⟨rfl, started⟩ : a = .shell ∧ b.server.shell.strdups = some kind := by
      cases a with
      | shell => exact ⟨rfl, begun⟩
      | type | run => contradiction
    have clear := kept.named.clear (by simp [started])
    have unused : ∀ other, b.names.pointee other = none := by
      intro other
      have held := kept.named.block other
      rw [clear other] at held
      simpa using held
    have run : shellStep b.server.globals b.server.shell = some (t.globals,events,t.shell) := by
      rcases step_cases taken with ⟨_, wrong, -⟩ | ⟨-, run⟩ | ⟨_, wrong, -⟩
      · contradiction
      · exact run
      · contradiction
    obtain ⟨name, same⟩ : ∃ name, t.globals = b.server.globals.setPending (some name) kind := by
      rcases (shellStep_names run).2 with ⟨other, name, own, same⟩ | ⟨_, _, _, at_ | at_, -⟩ | ⟨other, -⟩
      · obtain rfl : kind = other := Option.some.inj (started.symm.trans own)
        exact ⟨name, same⟩
      · simp [at_, Shell.strdups] at started
      · simp [at_, Shell.strdups] at started
      · simp [started] at other
    have law : b.names.account.Exact [] := by
      have law : b.names.account.Exact b.names.reachable := kept.law .name
      simpa [Names.reachable, unused] using law
    have reach : ((b.names.strdup (some kind)).follow t.globals).reachable = [b.names.account.limit] := by
      cases kind <;> simp [Names.reachable, Names.follow, Names.strdup, same, clear, unused]
    rw [reach]
    exact law.malloc

theorem Reconciled.step (kept : Reconciled b) (ok : thrifty b a) (taken : bookStep gnrc b a = some (c,events)) :
    Reconciled c := by
  refine ⟨kept.named.step taken, fun site => ?_⟩
  cases a with
  | deliver =>
    simp only [bookStep] at taken
    split at taken
    next => contradiction
    next message queue waiting =>
      cases taken
      cases site with
      | table => exact kept.law .table
      | sensor => exact kept.law .sensor
      | actuator => exact kept.law .actuator
      | name => exact kept.law .name
      | copy => exact kept.law .copy
      | message =>
        have law : b.box.account.Exact (message :: queue) := waiting ▸ kept.law .message
        exact law.free
  | gateway action =>
    obtain ⟨⟨server, shown⟩, moved, same⟩ := Option.map_eq_some_iff.mp taken
    cases same
    have entries := kept.entries.step moved ok
    cases site with
    | table => exact kept.law .table
    | sensor => exact entries.sensors
    | actuator => exact entries.actuators
    | name => exact kept.names moved ok
    | copy =>
      apply Copy.enter_law (kept.law .copy)
      cases action with
      | run handler => exact thrifty_copy ok
      | type | shell => simp [actionCopy]
    | message => exact Mailbox.sendAll_law (kept.law .message) (thrifty_room moved ok)

theorem Reconciled.accounted (kept : Reconciled b) : b.Accounted := fun site => (kept.law site).balanced

theorem bucket_length (table : SensorTable) (i : Fin TABLE_SIZE) :
    (table.ht.bucket i).length = (table.ht.chain i).length := by
  rw [Ht.bucket, List.length_filterMap_eq_countP]
  refine List.countP_eq_length.mpr fun a member => ?_
  obtain ⟨entry, here⟩ := (table.sound.linked i).cell member
  simp [record_cell here]

/-- What is unreleased is no more than what is reachable. -/
theorem Books.Accounted.bounded (accounted : b.Accounted) (rest : b.atRest = true) :
    b.unreleased ≤ b.storedNodes + 4 := by
  have table := (accounted .table).length_le
  have sensor := (accounted .sensor).length_le
  have actuator := (accounted .actuator).length_le
  have name := (accounted .name).length_le
  have copy := (accounted .copy).length_le
  have message := (accounted .message).length_le
  have empty : b.box.queue = [] := by simpa using (Bool.and_eq_true_iff.mp rest).2
  have names : b.names.reachable.length ≤ 2 := List.length_filterMap_le _ _
  have nodes : (sensorBlocks b.server.globals.htSensor).length =
      ((List.finRange TABLE_SIZE).map fun i => (b.server.globals.htSensor.ht.bucket i).length).sum := by
    rw [sensorBlocks, List.length_flatMap]
    simp only [bucket_length]
  have listed := b.server.globals.actuators.length_chain
  simp only [Books.reachable, nodes, listed, List.length_nil, List.length_cons] at table sensor actuator
  simp only [Books.reachable, empty, List.length_nil] at name copy message
  simp only [Books.unreleased, Books.storedNodes, List.map_cons, List.map_nil, List.sum_cons, List.sum_nil]
  omega

theorem Books.Accounted.balanced (accounted : b.Accounted) : b.Balanced where
  once site := (accounted site).once
  held _ site := (accounted site).held
  bounded := accounted.bounded

/-! What a step that is not thrifty loses. -/

theorem Reconciled.name_lost (kept : Reconciled b) (waiting : b.server.globals.pending kind = some name)
    (gone : g.pending kind = none) : ¬ b.names.account.Balanced (b.names.follow g).reachable := by
  have held := kept.named.block kind
  rw [waiting] at held
  obtain ⟨block, here⟩ := Option.isSome_iff_exists.mp held
  have law : b.names.account.Exact b.names.reachable := kept.law .name
  apply law.shrunk
  cases kind with
  | sensor =>
    cases other : b.names.pointee .actuator <;> cases still : g.pending .actuator <;>
      simp [Names.reachable, Names.follow, gone, here, other, still]
  | actuator =>
    cases other : b.names.pointee .sensor <;> cases still : g.pending .sensor <;>
      simp [Names.reachable, Names.follow, gone, here, other, still]

theorem Entries.insert_lost (held : Entries g) (name : CString) (remote : SockUdpEp) :
    ¬ (heapAccount (g.actuators.insertNode name remote).cells.heap).Balanced
      (Actuators.chain (g.actuators.insertNode name remote).cells) := by
  obtain ⟨chain, limit, released⟩ := g.actuators.insertNode_frame name remote
  rw [heapAccount, chain, limit, released]
  exact held.actuators.malloc.malloc_lost

/-- The entries' share of balanced books. -/
structure EntriesBalanced (g : Globals) : Prop where
  sensors : (heapAccount g.htSensor.ht.heap).Balanced (sensorBlocks g.htSensor)
  actuators : (heapAccount g.actuators.cells.heap).Balanced (Actuators.chain g.actuators.cells)

theorem removePending_runs (stored : (g.pending kind).any (g.holds kind) = true) : removePending g kind ≠ none := by
  cases kind with
  | sensor => cases waiting : g.sensorId <;> simp_all [removePending, Globals.pending]
  | actuator => cases waiting : g.actuatorId <;> simp_all [removePending, Globals.pending]

/-- The table's entry is released twice, and the list's entry is not released at all. -/
theorem Entries.remove_lost (held : Entries g) (run : removePending g kind = some (g',code,sent))
    (stored : (g.pending kind).any (g.holds kind) = true) : ¬ EntriesBalanced g' := by
  intro balanced
  rcases removePending_cases run with ⟨name, waiting, same⟩ | ⟨waiting, -, -, -⟩
  · rw [waiting, Option.any_some] at stored
    cases kind with
    | sensor =>
      simp only [removeSensor, Prod.mk.injEq] at same
      obtain ⟨rfl, -, -⟩ := same
      obtain ⟨value, found⟩ := Option.isSome_iff_exists.mp stored
      obtain ⟨a, twice⟩ := g.htSensor.del_released found
      exact Account.not_balanced_twice twice balanced.sensors
    | actuator =>
      simp only [removeActuator, Prod.mk.injEq] at same
      obtain ⟨rfl, -, -⟩ := same
      obtain ⟨limit, released⟩ := g.actuators.deleteNode_frame name
      have account : heapAccount (g.actuators.deleteNode name).1.cells.heap = heapAccount g.actuators.cells.heap := by
        rw [heapAccount, limit, released]
        rfl
      have shorter : (Actuators.chain (g.actuators.deleteNode name).1.cells).length <
          (Actuators.chain g.actuators.cells).length := by
        obtain ⟨node, member, named⟩ := List.any_eq_true.mp stored
        have erased := List.length_eraseP_of_mem (p := fun node => decide (node.1 = name)) member named
        have some : 0 < g.actuators.toList.length := List.length_pos_of_mem member
        rw [ActuatorList.length_chain, ActuatorList.length_chain, (g.actuators.deleteNode_spec name).2, erased]
        omega
      exact held.actuators.shrunk shorter (account ▸ balanced.actuators)
  · simp [waiting] at stored

theorem Mailbox.full_lost {box : Mailbox} (law : box.account.Exact box.queue) (full : LOG_QUEUE_SIZE ≤ box.queue.length) :
    ¬ (box.sendLogMsg true).account.Balanced (box.sendLogMsg true).queue := by
  simp only [Mailbox.sendLogMsg, full, and_self, ↓reduceIte]
  exact law.malloc_lost

theorem Reconciled.shell_lost (kept : Reconciled b) (wasteful : ¬ b.server.shell.thrifty b.server.globals)
    (run : shellStep b.server.globals b.server.shell = some (g',events,shell')) (balanced : EntriesBalanced g') :
    ¬ ((b.names.strdup b.server.shell.strdups).follow g').account.Balanced
      ((b.names.strdup b.server.shell.strdups).follow g').reachable := by
  unfold Shell.thrifty at wasteful
  split at wasteful
  next at_ =>
    rw [at_] at run ⊢
    cases run
    obtain ⟨name, waiting⟩ := Option.ne_none_iff_exists'.mp wasteful
    exact kept.name_lost waiting (by simp)
  next at_ =>
    rw [at_] at run ⊢
    cases run
    obtain ⟨name, waiting⟩ := Option.ne_none_iff_exists'.mp wasteful
    exact kept.name_lost waiting (by simp)
  next at_ =>
    rw [at_] at run
    simp only [shellStep, deauthStep, Option.some.injEq] at run
    split at run
    next missing => exact absurd missing (removePending_runs (by simpa using wasteful))
    next removed =>
      cases run
      exact absurd balanced (kept.entries.remove_lost removed (by simpa using wasteful))
  next => exact absurd trivial wasteful

/-- Each request that is not thrifty loses its copy, the pending name, or the block that
`insert_node` allocates. -/
theorem Reconciled.handler_lost (kept : Reconciled b) (wasteful : ¬ handler.thrifty b.server.globals b.box.queue)
    (balanced : EntriesBalanced (handle gnrc b.server.globals handler).1)
    (names : (b.names.follow (handle gnrc b.server.globals handler).1).account.Balanced
      (b.names.follow (handle gnrc b.server.globals handler).1).reachable)
    (copies : ((handlerCopy gnrc b.server.globals handler).enter b.copies).Balanced [])
    (messages : (b.box.sendAll (Action.run handler).interrupts (handle gnrc b.server.globals handler).2).account.Balanced
      (b.box.sendAll (Action.run handler).interrupts (handle gnrc b.server.globals handler).2).queue) : False := by
  have dropped : handlerCopy gnrc b.server.globals handler ≠ .dropped := by
    intro lost
    rw [lost] at copies
    exact (kept.law .copy).malloc_lost copies
  cases handler with
  | wdt | alarm => exact wasteful trivial
  | status payload | tap payload =>
    cases payload with
    | none => exact wasteful rfl
    | some id => exact dropped rfl
  | disEngageButton =>
    have full : LOG_QUEUE_SIZE ≤ b.box.queue.length := Nat.not_lt.mp wasteful
    exact Mailbox.full_lost (kept.law .message) full messages
  | testButton =>
    obtain ⟨engaged, full⟩ : b.server.globals.isEngaged = true ∧ LOG_QUEUE_SIZE ≤ b.box.queue.length := by
      simpa [Handler.thrifty] using wasteful
    simp only [handle, testIntrp, engaged] at messages
    exact Mailbox.full_lost (kept.law .message) full messages
  | register kind payload =>
    cases kind with
    | sensor =>
      simp only [Handler.thrifty, not_or] at wasteful
      obtain ⟨pending, waiting⟩ := Option.ne_none_iff_exists'.mp wasteful.1
      have named : b.server.globals.pending .sensor = some pending := waiting
      obtain ⟨id, rfl⟩ := Option.ne_none_iff_exists'.mp wasteful.2.1
      have unknown : ¬ strcmpResult (b.server.globals.htSensor.get id.name) id.name = 0 := by
        intro known
        exact dropped (by simp only [handlerCopy, sensorRegisterCopy, waiting, known, ↓reduceIte])
      have differ : ¬ pending = id.name := by
        rintro rfl
        have absent := mt (lookup_eq_zero b.server.globals id.name).mpr unknown
        exact wasteful.2.2 (accepts_some.mpr ⟨waiting, by simpa using absent⟩)
      have gone : (handle gnrc b.server.globals (.register .sensor (some id))).1.pending .sensor = none := by
        simp only [handle, registerHandler, sensorRegisterHandler, waiting, unknown, strcmp_eq_zero, differ, ↓reduceIte]
        rfl
      exact kept.name_lost named gone names
    | actuator =>
      obtain ⟨pending, waiting⟩ := Option.ne_none_iff_exists'.mp wasteful
      have named : b.server.globals.pending .actuator = some pending := waiting
      cases payload with
      | none =>
        have gone : (handle gnrc b.server.globals (.register .actuator none)).1.pending .actuator = none := by
          simp only [handle, registerHandler, actuatorRegisterHandler, waiting]
          rfl
        exact kept.name_lost named gone names
      | some id =>
        have unknown : ¬ b.server.globals.actuators.nodeExists pending = 0 := by
          intro known
          exact dropped (by simp only [handlerCopy, actuatorRegisterCopy, waiting, known, ↓reduceIte])
        by_cases same : pending = id.name
        · subst same
          have inserted : (handle gnrc b.server.globals (.register .actuator (some id))).1.actuators =
              b.server.globals.actuators.insertNode id.name (entryRemote gnrc id.ipAddr (gnrc.addrToStr id.ipAddr)) := by
            simp [handle, registerHandler, actuatorRegisterHandler, waiting, unknown, addActuatorEntry,
              entryRemote_port]
          exact kept.entries.insert_lost _ _ (inserted ▸ balanced.actuators)
        · have gone : (handle gnrc b.server.globals (.register .actuator (some id))).1.pending .actuator = none := by
            simp only [handle, registerHandler, actuatorRegisterHandler, waiting, unknown, strcmp_eq_zero, same,
              ↓reduceIte]
            rfl
          exact kept.name_lost named gone names

/-- Every step that is not thrifty unbalances the books. -/
theorem Reconciled.lost (kept : Reconciled b) (wasteful : ¬ thrifty b a) (taken : bookStep gnrc b a = some (c,events)) :
    ¬ c.Accounted := by
  intro accounted
  cases a with
  | deliver => exact wasteful trivial
  | gateway action =>
    obtain ⟨⟨server, shown⟩, moved, same⟩ := Option.map_eq_some_iff.mp taken
    cases same
    have balanced : EntriesBalanced server.globals := ⟨accounted .sensor, accounted .actuator⟩
    rcases step_cases moved with ⟨command, rfl, -⟩ | ⟨rfl, run⟩ | ⟨handler, rfl, -, -, run⟩
    · exact wasteful trivial
    · exact kept.shell_lost wasteful run balanced (accounted .name)
    · have globals : (handle gnrc b.server.globals handler).1 = server.globals := congrArg Prod.fst run
      have names : (b.names.follow server.globals).account.Balanced (b.names.follow server.globals).reachable :=
        accounted .name
      obtain rfl : (handle gnrc b.server.globals handler).2 = events := congrArg Prod.snd run
      rw [← globals] at balanced names
      exact kept.handler_lost wasteful balanced names (accounted .copy) (accounted .message)

/-- In a run whose steps are all thrifty every block is released at most once, and at rest the
blocks that are not released are reachable and bounded by the stored nodes. Any other step
loses a block or releases one twice. -/
theorem allocations_balance (path : Path (bookStep gnrc) thrifty opening trace b) :
    b.Balanced ∧ ∀ a c events, bookStep gnrc b a = some (c,events) → (c.Accounted ↔ thrifty b a) := by
  have kept : Reconciled b := path.state_invariant Reconciled (fun held ok taken => held.step ok taken) .opening
  refine ⟨kept.accounted.balanced, fun a c events taken => ?_⟩
  refine ⟨fun accounted => ?_, fun ok => (kept.step ok taken).accounted⟩
  by_contra wasteful
  exact kept.lost wasteful taken accounted

instance (g : Globals) (queue : List Nat) (handler : Handler) : Decidable (handler.thrifty g queue) := by
  unfold Handler.thrifty
  split <;> infer_instance

instance (g : Globals) (shell : Shell) : Decidable (shell.thrifty g) := by
  unfold Shell.thrifty
  split <;> infer_instance

instance (b : Books) (a : BookAction) : Decidable (thrifty b a) := by
  unfold thrifty
  split <;> infer_instance

/-- The alarm is engaged and tested, and the three messages are delivered. -/
def engagedAndTested : List BookAction :=
  [.deliver,.gateway (.type (.engage [])),.gateway .shell,.gateway .shell,.deliver,.gateway (.run (.status none)),
    .gateway (.run .testButton),.deliver]

/-- `auth_sensor` waits, its sensor's request is accepted, and the command goes on to its last
statement. -/
def authorizing : List BookAction :=
  [.deliver,.gateway (.type (.auth .sensor [tapsense.name])),.gateway .shell,.gateway .shell,.gateway .shell,
    .gateway (.run (.register .sensor (some tapsense))),.gateway .shell,.gateway .shell,.gateway .shell,
    .gateway .shell,.gateway .shell,.deliver]

/-- Three messages are come and gone; a copy is, and the entry and the name are held. The next
statement of the command loses the name, a turn of the watchdog nothing. -/
theorem allocations_balance_run :
    (∃ b : Books, b.atRest = true ∧ b.box.account.limit = 3 ∧ b.Balanced) ∧
    ∃ b : Books, (b.copies.released = [0] ∧ (b.account .sensor).unreleased = [0] ∧ b.names.account.unreleased = [0]) ∧
      b.Balanced ∧
      (∃ c events, bookStep board b (.gateway (.run .wdt)) = some (c,events) ∧ c.Accounted) ∧
      ∃ c events, bookStep board b (.gateway .shell) = some (c,events) ∧ ¬ c.Accounted := by
  constructor
  · have run : ∃ b trace, Path (bookStep board) thrifty opening trace b ∧ b.atRest = true ∧ b.box.account.limit = 3 :=
      replay_reaches engagedAndTested (fun (b : Books) (_ : List Event) => b.atRest = true ∧ b.box.account.limit = 3)
        (by decide)
    obtain ⟨b, trace, path, rest, three⟩ := run
    exact ⟨b, rest, three, (allocations_balance path).1⟩
  · have run : ∃ b trace, Path (bookStep board) thrifty opening trace b ∧
        (b.copies.released = [0] ∧ (b.account .sensor).unreleased = [0] ∧ b.names.account.unreleased = [0]) ∧
        (bookStep board b (.gateway (.run .wdt))).isSome = true ∧ (bookStep board b (.gateway .shell)).isSome = true ∧
        ¬ thrifty b (.gateway .shell) :=
      replay_reaches authorizing (fun (b : Books) (_ : List Event) =>
        (b.copies.released = [0] ∧ (b.account .sensor).unreleased = [0] ∧ b.names.account.unreleased = [0]) ∧
        (bookStep board b (.gateway (.run .wdt))).isSome = true ∧ (bookStep board b (.gateway .shell)).isSome = true ∧
        ¬ thrifty b (.gateway .shell)) (by decide +kernel)
    obtain ⟨b, trace, path, blocks, walks, ends, wasteful⟩ := run
    obtain ⟨balanced, exactly⟩ := allocations_balance path
    obtain ⟨⟨c, events⟩, walked⟩ := Option.isSome_iff_exists.mp walks
    obtain ⟨⟨d, shown⟩, ended⟩ := Option.isSome_iff_exists.mp ends
    exact ⟨b, blocks, balanced, ⟨c, events, walked, (exactly _ _ _ walked).mpr trivial⟩,
      ⟨d, shown, ended, mt (exactly _ _ _ ended).mp wasteful⟩⟩

/-- A sensor registers and sends one heartbeat. -/
def oneHeartbeat : List BookAction :=
  [.deliver,.gateway (.type (.auth .sensor [tapsense.name])),.gateway .shell,.gateway .shell,.gateway .shell,
    .gateway (.run (.register .sensor (some tapsense))),.gateway .shell,.gateway .shell,.gateway .shell,
    .gateway .shell,.gateway .shell,.gateway .shell,.deliver,.gateway (.run (.status (some tapsense)))]

theorem heartbeat_loses_a_copy :
    ¬ ∀ gnrc trace b, Path (bookStep gnrc) anything opening trace b → b.Balanced := by
  intro claim
  have run : ∃ b trace, Path (bookStep board) anything opening trace b ∧ b.atRest = true ∧ b.copies.unreleased = [1] :=
    replay_reaches oneHeartbeat (fun (b : Books) (_ : List Event) => b.atRest = true ∧ b.copies.unreleased = [1])
      (by decide)
  obtain ⟨b, trace, path, rest, lost⟩ := run
  have reached : 1 ∈ b.reachable .copy := (claim board trace b path).held rest .copy 1 (by simp [Books.account, lost])
  simp [Books.reachable] at reached

end RiotAlarm.Gateway
