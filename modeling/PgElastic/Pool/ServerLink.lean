import PgElastic.Pool.Outstanding

/-!
# Backend links and the release gate

`ServerLink` of `pgelastic-pool`: everything about a backend connection that decides
whether it may be handed to another client, the two observers that keep it up to date
while messages pass in either direction, and `can_check_in`, the one predicate every
release goes through.

A link's identity, its pool key and its deadline are left out; passing the deadline is one
more way to set a release flag.  The queue keeps its tags, so the link is generic in them.
-/

namespace PgElastic.Pool

open Wire

inductive ServerState
  | login
  | idle
  | active
  | used
  | tested
  | beingCanceled
  | closed
  deriving DecidableEq, Repr

inductive ServerEvent
  | loginSucceeded
  | loginFailed
  | assigned
  | released
  | resetStarted
  | resetSucceeded
  | resetFailed
  | cancelStarted
  | cancelFinished
  | close
  deriving DecidableEq, Repr

/-- Session state a reset can remove. -/
inductive Taint
  | sessionParameter
  | preparedStatement
  | cursor
  | sequence
  | planCache
  deriving DecidableEq, Repr

def Taint.bit : Taint → UInt8
  | .sessionParameter => 1
  | .preparedStatement => 2
  | .cursor => 4
  | .sequence => 8
  | .planCache => 16

structure TaintSet where
  bits : UInt8
  deriving DecidableEq, Repr

namespace TaintSet

def new : TaintSet := ⟨0⟩

def insert (set : TaintSet) (taint : Taint) : TaintSet := ⟨set.bits ||| taint.bit⟩

def union (set other : TaintSet) : TaintSet := ⟨set.bits ||| other.bits⟩

def isClean (set : TaintSet) : Bool := set.bits == 0

end TaintSet

/-- Session state no reset can remove. -/
inductive PinReason
  | listen
  | holdCursor
  | tempTable
  | sessionAdvisoryLock
  | load
  | setSeed
  | preparedTransaction
  | dblink
  | desyncedPipeline
  | openCopy
  | unattributableError
  deriving DecidableEq, Repr

/-- Conditions that disqualify a link from being reused, as a bit set. -/
structure ReleaseFlags where
  bits : UInt8
  deriving DecidableEq, Repr

namespace ReleaseFlags

def closeNeeded : ReleaseFlags := ⟨1⟩

def lifetimeExpired : ReleaseFlags := ⟨2⟩

def credentialsStale : ReleaseFlags := ⟨4⟩

def empty : ReleaseFlags := ⟨0⟩

def insert (flags flag : ReleaseFlags) : ReleaseFlags := ⟨flags.bits ||| flag.bits⟩

def isEmpty (flags : ReleaseFlags) : Bool := flags.bits == 0

end ReleaseFlags

/-- Which COPY subprotocol is open on the link. -/
inductive CopyState
  | none
  | copyIn
  | copyOut
  | copyBoth
  deriving DecidableEq, Repr

def CopyState.isOpen (copy : CopyState) : Bool := copy != .none

/-- Who wrote a frontend message. -/
inductive Origin
  | client
  | pool
  deriving DecidableEq, Repr

/-- Everything the release gate reads. -/
structure ServerLink (I : Type) where
  state : ServerState
  /-- What the last `ReadyForQuery` reported. -/
  txStatus : Option TransactionStatus
  /-- A batch the client ended with something other than `Sync` is still open. -/
  batchOpen : Bool
  outstanding : OutstandingQueue I
  copy : CopyState
  taint : TaintSet
  pin : Option PinReason
  flags : ReleaseFlags
  cancelsInFlight : Nat
  deriving DecidableEq, Repr

inductive CheckInBlock
  | state (state : ServerState)
  | noReadyForQuery
  | notIdle (status : TransactionStatus)
  | outstandingRequests (count : Nat)
  | copyOpen (copy : CopyState)
  | cancelInFlight (count : Nat)
  | disqualified (flags : ReleaseFlags)
  | pinned (reason : PinReason)
  | resetRequired
  deriving DecidableEq, Repr

namespace ServerLink

variable {I : Type}

def new : ServerLink I where
  state := .login
  txStatus := none
  batchOpen := false
  outstanding := OutstandingQueue.new
  copy := .none
  taint := TaintSet.new
  pin := none
  flags := ReleaseFlags.empty
  cancelsInFlight := 0

def addTaints (link : ServerLink I) (taints : TaintSet) : ServerLink I :=
  { link with taint := link.taint.union taints }

/-- The first reason wins. -/
def setPin (link : ServerLink I) (reason : PinReason) : ServerLink I :=
  { link with pin := link.pin.or (some reason) }

def clearPin (link : ServerLink I) : ServerLink I := { link with pin := none }

def setFlag (link : ServerLink I) (flag : ReleaseFlags) : ServerLink I :=
  { link with flags := link.flags.insert flag }

def resetCompleted (link : ServerLink I) : ServerLink I := { link with taint := TaintSet.new }

def cancelDispatched (link : ServerLink I) : ServerLink I :=
  { link with cancelsInFlight := link.cancelsInFlight + 1 }

def cancelResolved (link : ServerLink I) : ServerLink I :=
  { link with cancelsInFlight := link.cancelsInFlight - 1 }

def next : ServerState → ServerEvent → Option ServerState
  | .closed, _ => none
  | _, .close => some .closed
  | .login, .loginFailed => some .closed
  | .tested, .resetFailed => some .closed
  | .login, .loginSucceeded => some .idle
  | .tested, .resetSucceeded => some .idle
  | .idle, .assigned => some .active
  | .used, .assigned => some .active
  | .beingCanceled, .cancelFinished => some .active
  | .active, .released => some .used
  | .active, .resetStarted => some .tested
  | .used, .resetStarted => some .tested
  | .active, .cancelStarted => some .beingCanceled
  | _, _ => none

def apply (link : ServerLink I) (event : ServerEvent) : Option (ServerLink I) :=
  (next link.state event).map fun state => { link with state := state }

def takeReadyFakes (link : ServerLink I) : List BackendMessage × ServerLink I :=
  (link.outstanding.takeReadyFakes.1,
    { link with outstanding := link.outstanding.takeReadyFakes.2 })

/-- What a frontend message says about COPY and about session state. -/
def noteFrontend (link : ServerLink I) (message : FrontendMessage Bytes) (relay : Relay)
    (origin : Origin) : ServerLink I :=
  match message with
  | .copyDone | .copyFail =>
    { link with
      -- Only for a copy-in the link knows is open.
      outstanding :=
        if link.copy = .copyIn then link.outstanding.discardTrailingSyncs
        else link.outstanding
      copy := .none }
  | .parse name _ _ =>
    if !name.isEmpty && origin == .client && relay.disposition != .fake then
      { link with taint := link.taint.insert .preparedStatement }
    else link
  | _ => link

/-- Records a request; only the client's own messages open or close a batch. -/
def record (link : ServerLink I) (tag : I) (kind : RequestKind) (relay : Relay)
    (origin : Origin) : ServerLink I :=
  { link with
    batchOpen := if origin = .client then !kind.terminatesBatch else link.batchOpen
    outstanding := link.outstanding.record tag kind relay }

/-- Records a frontend message on its way to the backend. -/
def observeFrontend (link : ServerLink I) (tag : I) (message : FrontendMessage Bytes)
    (relay : Relay) (origin : Origin) : ServerLink I :=
  let noted := link.noteFrontend message relay origin
  match RequestKind.fromFrontend message with
  | some kind => noted.record tag kind relay origin
  | none => noted

/-- Records a client request whose frame was too large to decode. -/
def observeFrontendOpaque (link : ServerLink I) (tag : I) (kind : RequestKind) :
    ServerLink I :=
  let noted :=
    if kind = .parse then { link with taint := link.taint.insert .preparedStatement } else link
  noted.record tag kind .forward .client

/-- What a backend message says about the transaction, COPY and session state. -/
def noteBackend (link : ServerLink I) : BackendMessage → ServerLink I
  | .readyForQuery status =>
    { link with
      txStatus := some status
      batchOpen := if link.outstanding.isEmpty then false else link.batchOpen }
  | .copyInResponse => { link with copy := .copyIn }
  | .copyOutResponse => { link with copy := .copyOut }
  | .copyBothResponse => { link with copy := .copyBoth }
  | .copyDone => if link.copy = .copyIn then link else { link with copy := .none }
  | .errorResponse => { link with copy := .none }
  | .parameterStatus => { link with taint := link.taint.insert .sessionParameter }
  | _ => link

/-- Records a backend message on its way to the client. -/
def observeBackend (link : ServerLink I) (message : BackendMessage) :
    Except OutstandingError Reaction × ServerLink I :=
  if link.state = .login then
    let reaction : Reaction := ⟨.forward, none, false⟩
    match message with
    | .readyForQuery status => (.ok reaction, { link with txStatus := some status })
    | _ => (.ok reaction, link)
  else
    let noted := link.noteBackend message
    let matched := noted.outstanding.apply message
    (matched.1, { noted with outstanding := matched.2 })

/-- Whether a link may go back to the pool, with the conditions in the order they are
checked. -/
def canCheckIn (link : ServerLink I) : Except CheckInBlock Unit :=
  if link.state ≠ .active ∧ link.state ≠ .used ∧ link.state ≠ .tested then
    .error (.state link.state)
  else
    match link.txStatus with
    | none => .error .noReadyForQuery
    | some status =>
      if status ≠ .idle then .error (.notIdle status)
      else if !link.outstanding.isEmpty then
        .error (.outstandingRequests link.outstanding.len)
      else if link.batchOpen then .error .noReadyForQuery
      else if link.copy.isOpen then .error (.copyOpen link.copy)
      else if 0 < link.cancelsInFlight then .error (.cancelInFlight link.cancelsInFlight)
      else if !link.flags.isEmpty then .error (.disqualified link.flags)
      else
        match link.pin with
        | some reason => .error (.pinned reason)
        | none => if !link.taint.isClean then .error .resetRequired else .ok ()

/-! ### What the gate and the observers come to -/

/-- What the gate establishes about the protocol state. -/
lemma canCheckIn_ok {link : ServerLink I} (h : link.canCheckIn = .ok ()) :
    link.txStatus = some .idle ∧ link.outstanding.entries = [] ∧ link.batchOpen = false ∧
      link.copy = .none ∧ link.pin = none := by
  unfold canCheckIn at h
  split at h
  · cases h
  split at h
  · cases h
  rename_i status hstatus
  split at h
  · cases h
  rename_i hidle
  split at h
  · cases h
  rename_i hempty
  split at h
  · cases h
  rename_i hbatch
  split at h
  · cases h
  rename_i hcopy
  split at h
  · cases h
  split at h
  · cases h
  split at h
  · cases h
  rename_i hpin
  have hnone : link.outstanding.entries = [] := by
    simpa [OutstandingQueue.isEmpty] using hempty
  have hclosed : link.copy = .none := by
    simpa [CopyState.isOpen] using hcopy
  have hstill : status = .idle := not_not.mp hidle
  rw [hstatus, hstill]
  exact ⟨rfl, hnone, by simpa using hbatch, hclosed, hpin⟩

lemma noteBackend_outstanding (link : ServerLink I) (message : BackendMessage) :
    (link.noteBackend message).outstanding = link.outstanding := by
  cases message with
  | copyDone =>
    unfold noteBackend
    by_cases hcopy : link.copy = .copyIn
    · rw [if_pos hcopy]
    · rw [if_neg hcopy]
  | _ => rfl

end ServerLink

end PgElastic.Pool
