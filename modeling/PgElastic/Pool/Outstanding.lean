import Mathlib.Data.List.DropRight
import PgElastic.Wire.Message

/-!
# The outstanding-request queue

`OutstandingQueue` of `pgelastic-pool`: every frontend message that draws a response is
recorded before it goes to the backend, and every backend message is matched against the
head of the queue.

Entries carry a tag of an arbitrary type `I` that the operations copy and never read, so
that statements can say *which* request an entry stands for.  The source's queue is the
one with `I = Unit`.
-/

namespace PgElastic.Pool

open Wire

/-- What to do with the response a queued request will draw. -/
inductive Disposition
  | forward
  | skip
  | fake
  deriving DecidableEq, Repr

def Disposition.forwards : Disposition → Bool
  | .forward => true
  | _ => false

/-- How a request is being relayed; a faked one carries the pool's own answer. -/
inductive Relay
  | forward
  | skip
  | fake (response : BackendMessage)
  deriving DecidableEq, Repr

def Relay.disposition : Relay → Disposition
  | .forward => .forward
  | .skip => .skip
  | .fake _ => .fake

/-- The frontend messages that draw a response. -/
inductive RequestKind
  | parse
  | bind
  | describe
  | execute
  | close
  | sync
  | query
  | functionCall
  deriving DecidableEq, Repr

namespace RequestKind

/-- Whether `ReadyForQuery` is the message that retires this request. -/
def terminatesBatch : RequestKind → Bool
  | sync => true
  | query => true
  | functionCall => true
  | _ => false

/-- The request kind of a frame too large to decode, from its tag byte. -/
def fromTag (tag : UInt8) : Option RequestKind :=
  if tag = 80 then some parse
  else if tag = 66 then some bind
  else if tag = 68 then some describe
  else if tag = 69 then some execute
  else if tag = 67 then some close
  else if tag = 83 then some sync
  else if tag = 81 then some query
  else if tag = 70 then some functionCall
  else none

def fromFrontend {N : Type} : FrontendMessage N → Option RequestKind
  | .parse _ _ _ => some parse
  | .bind _ _ => some bind
  | .describe _ _ => some describe
  | .execute _ => some execute
  | .close _ _ => some close
  | .sync => some sync
  | .query _ => some query
  | .functionCall => some functionCall
  | _ => none

end RequestKind

inductive OutstandingError
  | underflow (message : String)
  | mismatch (expected : RequestKind) (message : String)
  deriving DecidableEq, Repr

/-- A request sent to the backend, or answered by the pool, and not retired yet. -/
structure Entry (I : Type) where
  tag : I
  kind : RequestKind
  disposition : Disposition
  fake : Option BackendMessage
  deriving DecidableEq, Repr

namespace Entry

variable {I : Type}

def isFake (entry : Entry I) : Bool := entry.disposition == .fake

def terminates (entry : Entry I) : Bool := entry.kind.terminatesBatch

end Entry

/-- The result of matching one backend message against the queue. -/
structure Reaction where
  disposition : Disposition
  popped : Option RequestKind
  batchEnded : Bool
  deriving DecidableEq, Repr

/-- Requests sent to a backend and not yet answered, oldest first. -/
structure OutstandingQueue (I : Type) where
  entries : List (Entry I)
  queryFailed : Bool
  deriving DecidableEq, Repr

/-- Messages the backend may send at any moment, unrelated to any request. -/
def isAsynchronous : BackendMessage → Bool
  | .notificationResponse => true
  | .noticeResponse => true
  | .parameterStatus => true
  | _ => false

namespace OutstandingQueue

variable {I : Type}

def new : OutstandingQueue I := ⟨[], false⟩

def len (queue : OutstandingQueue I) : Nat := queue.entries.length

def isEmpty (queue : OutstandingQueue I) : Bool := queue.entries.isEmpty

def push (queue : OutstandingQueue I) (tag : I) (kind : RequestKind)
    (disposition : Disposition) (fake : Option BackendMessage) : OutstandingQueue I :=
  { queue with entries := queue.entries ++ [⟨tag, kind, disposition, fake⟩] }

/-- Records a request however it is being relayed. -/
def record (queue : OutstandingQueue I) (tag : I) (kind : RequestKind) :
    Relay → OutstandingQueue I
  | .forward => queue.push tag kind .forward none
  | .skip => queue.push tag kind .skip none
  | .fake response => queue.push tag kind .fake (some response)

/-- Withdraws the `Sync` requests at the back of the queue. -/
def discardTrailingSyncs (queue : OutstandingQueue I) : OutstandingQueue I :=
  { queue with entries := queue.entries.rdropWhile fun entry => entry.kind == .sync }

/-- Removes and returns the synthesised responses that have reached the head. -/
def takeReadyFakes (queue : OutstandingQueue I) :
    List BackendMessage × OutstandingQueue I :=
  ((queue.entries.takeWhile Entry.isFake).filterMap Entry.fake,
    { queue with entries := queue.entries.dropWhile Entry.isFake })

def headDisposition (queue : OutstandingQueue I) : Disposition :=
  match queue.entries with
  | [] => .forward
  | entry :: _ => entry.disposition

/-- A message that retires nothing belongs to the request at the head. -/
def passthrough (queue : OutstandingQueue I) : Reaction :=
  ⟨queue.headDisposition, none, false⟩

/-- Retires the head; `entry` and `rest` are what the caller has just observed. -/
def popHead (queue : OutstandingQueue I) (entry : Entry I) (rest : List (Entry I)) :
    Reaction × OutstandingQueue I :=
  (⟨entry.disposition, some entry.kind, rest.isEmpty⟩, { queue with entries := rest })

def popExpecting (queue : OutstandingQueue I) (expected : RequestKind) (message : String) :
    Except OutstandingError Reaction × OutstandingQueue I :=
  match queue.entries with
  | [] => (.error (.underflow message), queue)
  | entry :: rest =>
    if entry.kind ≠ expected then (.error (.mismatch entry.kind message), queue)
    else
      let popped := queue.popHead entry rest
      (.ok popped.1, popped.2)

/-- Pops the head only if it is the expected kind: in the simple protocol the same
messages belong to a `Query` that only `ReadyForQuery` retires. -/
def popIfHead (queue : OutstandingQueue I) (expected : RequestKind) :
    Except OutstandingError Reaction × OutstandingQueue I :=
  match queue.entries with
  | [] => (.ok queue.passthrough, queue)
  | entry :: rest =>
    if entry.kind = expected then
      let popped := queue.popHead entry rest
      (.ok popped.1, popped.2)
    else (.ok queue.passthrough, queue)

def popBatchTerminator (queue : OutstandingQueue I) :
    Except OutstandingError Reaction × OutstandingQueue I :=
  let cleared := { queue with queryFailed := false }
  match queue.entries with
  | [] => (.error (.underflow "ReadyForQuery"), cleared)
  | entry :: rest =>
    if !entry.terminates then (.error (.mismatch entry.kind "ReadyForQuery"), cleared)
    else
      let popped := cleared.popHead entry rest
      (.ok popped.1, popped.2)

/-- Discards everything up to the next batch terminator, which stays in place for its
`ReadyForQuery`. -/
def failUntilTerminator (queue : OutstandingQueue I) : Reaction × OutstandingQueue I :=
  (⟨queue.headDisposition, none, false⟩,
    { entries := queue.entries.dropWhile fun entry => !entry.terminates
      queryFailed := true })

/-- Matches a backend message against the queue. -/
def apply (queue : OutstandingQueue I) (message : BackendMessage) :
    Except OutstandingError Reaction × OutstandingQueue I :=
  if isAsynchronous message then (.ok ⟨.forward, none, false⟩, queue)
  else
    match message with
    | .parseComplete => queue.popExpecting .parse "ParseComplete"
    | .bindComplete => queue.popExpecting .bind "BindComplete"
    | .closeComplete => queue.popExpecting .close "CloseComplete"
    | .rowDescription => queue.popIfHead .describe
    | .noData => queue.popIfHead .describe
    | .commandComplete => queue.popIfHead .execute
    | .emptyQueryResponse => queue.popIfHead .execute
    | .portalSuspended => queue.popIfHead .execute
    | .readyForQuery _ => queue.popBatchTerminator
    | .errorResponse =>
      let failed := queue.failUntilTerminator
      (.ok failed.1, failed.2)
    | _ => (.ok queue.passthrough, queue)

/-! ### What the operations do to the queue -/

/-- Recording appends one entry and changes nothing else. -/
lemma record_eq (queue : OutstandingQueue I) (tag : I) (kind : RequestKind) (relay : Relay) :
    ∃ entry : Entry I,
      queue.record tag kind relay = { queue with entries := queue.entries ++ [entry] } ∧
        entry.tag = tag ∧ entry.kind = kind ∧ entry.disposition = relay.disposition := by
  cases relay with
  | _ => exact ⟨_, rfl, rfl, rfl, rfl⟩

/-- What a message that is not asynchronous does to the request at the head. -/
inductive Verdict
  | refuses (error : OutstandingError)
  | keeps
  | pops
  | drains
  deriving DecidableEq, Repr

/-- `apply`, as a table over the kind at the head. -/
def verdict (kind : RequestKind) : BackendMessage → Verdict
  | .parseComplete =>
    if kind = .parse then .pops else .refuses (.mismatch kind "ParseComplete")
  | .bindComplete =>
    if kind = .bind then .pops else .refuses (.mismatch kind "BindComplete")
  | .closeComplete =>
    if kind = .close then .pops else .refuses (.mismatch kind "CloseComplete")
  | .rowDescription => if kind = .describe then .pops else .keeps
  | .noData => if kind = .describe then .pops else .keeps
  | .commandComplete => if kind = .execute then .pops else .keeps
  | .emptyQueryResponse => if kind = .execute then .pops else .keeps
  | .portalSuspended => if kind = .execute then .pops else .keeps
  | .readyForQuery _ =>
    if kind.terminatesBatch then .pops else .refuses (.mismatch kind "ReadyForQuery")
  | .errorResponse => .drains
  | _ => .keeps

/-- `ReadyForQuery` ends the failure of a batch. -/
def stillFailed (message : BackendMessage) (failed : Bool) : Bool :=
  match message with
  | .readyForQuery _ => false
  | _ => failed

variable {message : BackendMessage} {queue : OutstandingQueue I}

/-- Only `ReadyForQuery` retires a batch terminator. -/
lemma extended_of_pops {kind : RequestKind} (h : verdict kind message = .pops) :
    (∃ status, message = .readyForQuery status) ∨ kind.terminatesBatch = false := by
  cases message with
  | readyForQuery status => exact .inl ⟨status, rfl⟩
  | parseComplete | bindComplete | closeComplete | rowDescription | noData |
    commandComplete | emptyQueryResponse | portalSuspended =>
      simp only [verdict] at h
      split at h
      · rename_i hkind
        rw [hkind]
        exact .inr rfl
      · cases h
  | _ => cases h

/-- The queue's side of a verdict. -/
def settle (queue : OutstandingQueue I) (entry : Entry I) (rest : List (Entry I))
    (message : BackendMessage) : Verdict → Except OutstandingError Reaction × OutstandingQueue I
  | .refuses error =>
    (.error error, { queue with queryFailed := stillFailed message queue.queryFailed })
  | .keeps => (.ok ⟨entry.disposition, none, false⟩, queue)
  | .pops =>
    (.ok ⟨entry.disposition, some entry.kind, rest.isEmpty⟩,
      ⟨rest, stillFailed message queue.queryFailed⟩)
  | .drains =>
    (.ok ⟨entry.disposition, none, false⟩,
      ⟨(entry :: rest).dropWhile fun entry => !entry.terminates, true⟩)

/-- Matching against a queue that is not empty reads nothing but its head. -/
lemma apply_cons {entry : Entry I} {rest : List (Entry I)}
    (hentries : queue.entries = entry :: rest) (hanswer : isAsynchronous message = false) :
    queue.apply message = queue.settle entry rest message (verdict entry.kind message) := by
  obtain ⟨entries, failed⟩ := queue
  obtain rfl : entries = entry :: rest := hentries
  cases message with
  | notificationResponse | noticeResponse | parameterStatus => cases hanswer
  | parseComplete =>
    by_cases hkind : entry.kind = .parse <;>
      simp [apply, isAsynchronous, popExpecting, popHead, verdict, settle, stillFailed, hkind]
  | bindComplete =>
    by_cases hkind : entry.kind = .bind <;>
      simp [apply, isAsynchronous, popExpecting, popHead, verdict, settle, stillFailed, hkind]
  | closeComplete =>
    by_cases hkind : entry.kind = .close <;>
      simp [apply, isAsynchronous, popExpecting, popHead, verdict, settle, stillFailed, hkind]
  | rowDescription | noData =>
    by_cases hkind : entry.kind = .describe <;>
      simp [apply, isAsynchronous, popIfHead, popHead, passthrough, headDisposition, verdict,
        settle, stillFailed, hkind]
  | commandComplete | emptyQueryResponse | portalSuspended =>
    by_cases hkind : entry.kind = .execute <;>
      simp [apply, isAsynchronous, popIfHead, popHead, passthrough, headDisposition, verdict,
        settle, stillFailed, hkind]
  | readyForQuery status =>
    cases hkind : entry.kind.terminatesBatch <;>
      simp [apply, isAsynchronous, popBatchTerminator, popHead, verdict, settle, stillFailed,
        Entry.terminates, hkind]
  | _ => rfl

lemma apply_asynchronous (h : isAsynchronous message) :
    queue.apply message = (.ok ⟨.forward, none, false⟩, queue) := by
  simp [apply, h]

/-- Matching only ever takes requests off the queue. -/
lemma apply_sublist (queue : OutstandingQueue I) (message : BackendMessage) :
    (queue.apply message).2.entries.Sublist queue.entries := by
  cases hasync : isAsynchronous message with
  | true =>
    rw [apply_asynchronous hasync]
  | false =>
    cases hentries : queue.entries with
    | nil =>
      obtain ⟨entries, failed⟩ := queue
      obtain rfl : entries = [] := hentries
      cases message with
      | notificationResponse | noticeResponse | parameterStatus => cases hasync
      | _ => exact .refl _
    | cons entry rest =>
      rw [apply_cons hentries hasync]
      cases verdict entry.kind message with
      | refuses error | keeps =>
        change queue.entries.Sublist _
        rw [hentries]
      | pops => exact List.sublist_cons_self entry rest
      | drains => exact List.dropWhile_sublist _

/-- A backend message is matched, and then the faked answers it uncovered are taken. -/
def receive (queue : OutstandingQueue I) (message : BackendMessage) : OutstandingQueue I :=
  (queue.apply message).2.takeReadyFakes.2

lemma receive_sublist (queue : OutstandingQueue I) (message : BackendMessage) :
    (queue.receive message).entries.Sublist queue.entries :=
  (List.dropWhile_sublist _).trans (queue.apply_sublist message)

end OutstandingQueue

end PgElastic.Pool
