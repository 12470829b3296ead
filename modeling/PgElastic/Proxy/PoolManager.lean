import PgElastic.Capacity.Calls
import PgElastic.Pool.Ledger
import PgElastic.Pool.WaitQueue

/-!
# The pool manager

One instance's pool: the allocator that decides who may have a server, the links that are
parked between two clients, the queues of the clients that wait, and the ledger of open links.
The manager's lock is taken once per section of the code, so a step of the model is one such
section; between two sections of one client any section of another may run.

A client's task is somewhere along `acquire`, or holds what `acquire` gave it; `Phase` says
where.  What the network answers (a probe, a connect) and the order in which a hash map is
walked are arguments of the steps.
-/

namespace PgElastic.Proxy

open Library Capacity Pool Option List

/-- The identity a link may be reused under: the tenant, and every other axis. -/
structure PoolKey (T F : Type) where
  tenant : T
  axes : F
  deriving DecidableEq, Repr

/-- What the manager reads of a physical connection. -/
structure Link where
  epoch : Nat
  pin : Option PinReason
  deriving DecidableEq, Repr

structure Parked (T F : Type) where
  key : PoolKey T F
  link : Link
  since : Timestamp
  deriving DecidableEq, Repr

/-- Where a client's task is.  -/
inductive Phase (T : Type)
  /-- It has no lease and asks for none. -/
  | resting
  /-- It waits for the grant of its ticket. -/
  | queued (ticket : TicketId)
  /-- Its deadline has passed: nothing was delivered and the channel is closed. -/
  | closing (ticket : TicketId)
  /-- The waiter is dropped, the ticket guard not yet. -/
  | leaving (ticket : TicketId)
  /-- It has its lease, and no link yet. -/
  | granted (lease : Capacity.Lease T)
  /-- It has claimed a parked link, which is not verified yet. -/
  | reusing (lease : Capacity.Lease T) (link : Link)
  /-- It is about to open a link. -/
  | opening (lease : Capacity.Lease T)
  /-- The link is on the ledger, the connect under way. -/
  | connecting (lease : Capacity.Lease T)
  /-- The link is open, and not verified yet. -/
  | checking (lease : Capacity.Lease T) (link : Link)
  /-- No link could be had; the server is still to be reported dead. -/
  | refused (lease : Capacity.Lease T)
  /-- It has its checkout. -/
  | holding (lease : Capacity.Lease T) (link : Link)
  deriving DecidableEq, Repr

namespace Phase

variable {T : Type}

/-- The ticket the task's guard stands for. -/
def ticket : Phase T → Option TicketId
  | .queued ticket | .closing ticket | .leaving ticket => some ticket
  | _ => none

/-- The lease the task has. -/
def lease : Phase T → Option (Capacity.Lease T)
  | .granted lease | .reusing lease _ | .opening lease | .connecting lease
  | .checking lease _ | .refused lease | .holding lease _ => some lease
  | _ => none

/-- The task receives what is handed to its waiter. -/
def listens : Phase T → Bool
  | .queued _ => true
  | _ => false

/-- The task is between two of the steps that take it out of the queues. -/
def halfOut : Phase T → Bool
  | .closing _ | .leaving _ => true
  | _ => false

/-- The waiter is out of its queue and the ticket is not. -/
def isLeaving : Phase T → Bool
  | .leaving _ => true
  | _ => false

/-- The task has a lease whose server it has not claimed a link for. -/
def isGranted : Phase T → Bool
  | .granted _ => true
  | _ => false

/-- What the ledger counts for the task: a link with its pin. -/
def account : Phase T → Option (Option PinReason)
  | .reusing _ link | .checking _ link | .holding _ link => some link.pin
  | .connecting _ => some none
  | _ => none

/-- The task is inside `acquire`, past the queue. -/
def attaching : Phase T → Bool
  | .granted _ | .reusing _ _ | .opening _ | .connecting _ | .checking _ _ | .refused _ => true
  | _ => false

end Phase

structure Session (T F : Type) where
  key : PoolKey T F
  phase : Phase T
  deriving DecidableEq, Repr

/-- A grant that reached a waiter, with the ticket that waiter had drawn. -/
structure Delivery (T : Type) where
  waiter : ClientId
  drawn : TicketId
  grant : Grant T
  deriving DecidableEq, Repr

/-- The manager behind its lock, the tasks around it, and a record of what `dispatch` did. -/
structure PoolManager (T F : Type) [LinearOrder T] where
  allocator : Allocator T
  parked : OrderedMap ServerId (Parked T F)
  waits : OrderedMap T (WaitQueue ClientId)
  ledger : BudgetLedger
  tenants : OrderedSet T
  sessions : OrderedMap ClientId (Session T F)
  cancels : List (Capacity.Lease T)
  deliveries : List (Delivery T)
  orphans : List (Grant T)

namespace PoolManager

variable {T F : Type} [LinearOrder T]

def new (pool : PoolSpec) (admission : AdmissionSpec) :
    Except (ConfigError T) (PoolManager T F) := do
  let allocator ← Allocator.withClock pool admission
  .ok { allocator := allocator
        parked := OrderedMap.empty
        waits := OrderedMap.empty
        ledger := BudgetLedger.new pool.backendConnections
        tenants := OrderedSet.empty
        sessions := OrderedMap.empty
        cancels := []
        deliveries := []
        orphans := [] }

/-! ## Tasks -/

def phaseOf (s : PoolManager T F) (client : ClientId) : Phase T :=
  match s.sessions.get? client with
  | some session => session.phase
  | none => .resting

/-- Moves a client's task. -/
def setPhase (s : PoolManager T F) (client : ClientId) (phase : Phase T) : PoolManager T F :=
  match s.sessions.get? client with
  | some session =>
    { s with sessions := s.sessions.insert client { session with phase := phase } }
  | none => s

/-! ## The manager's own bookkeeping -/

def waitQueue (s : PoolManager T F) (tenant : T) : WaitQueue ClientId :=
  (s.waits.get? tenant).getD WaitQueue.new

/-- A hand-off arrived. -/
def deliver (s : PoolManager T F) (client : ClientId) (grant : Grant T) : PoolManager T F :=
  { s.setPhase client (.granted grant.lease) with
    deliveries := s.deliveries ++
      ((s.phaseOf client).ticket.map fun ticket => ⟨client, ticket, grant⟩).toList }

/-- `dispatch`: each grant to the head of its tenant's wait queue; one that nobody waits for
is released again, and what that grants comes last. -/
def dispatchLoop : Nat → PoolManager T F → List (Grant T) → Option (PoolManager T F)
  | _, s, [] => some s
  | 0, _, _ :: _ => none
  | fuel + 1, s, grant :: pending =>
    match (s.waitQueue grant.tenant).handOff fun client => (s.phaseOf client).listens with
    | (some client, queue) =>
      dispatchLoop fuel
        (deliver { s with waits := s.waits.insert grant.tenant queue } client grant) pending
    | (none, queue) => do
        let (outcome, allocator) ← s.allocator.release grant.lease
        dispatchLoop fuel { s with
            waits := s.waits.insert grant.tenant queue
            allocator := allocator
            orphans := s.orphans ++ [grant] }
          (pending ++ outcome.grants)

/-- Each turn of the loop ends one grant, and a new one costs a queued ticket. -/
def dispatch (s : PoolManager T F) (grants : List (Grant T)) : Option (PoolManager T F) :=
  dispatchLoop (grants.length + s.allocator.queuedTotal) s grants

def park (s : PoolManager T F) (server : ServerId) (key : PoolKey T F) (link : Link)
    (now : Timestamp) : PoolManager T F :=
  { s with parked := s.parked.insert server ⟨key, link, now⟩ }

def unpark (s : PoolManager T F) (server : ServerId) : PoolManager T F :=
  match s.parked.get? server with
  | none => s
  | some parked =>
    { s with
      parked := s.parked.erase server
      ledger := s.ledger.recordUnpin parked.link.pin }

/-- Takes the link parked in a server's slot if it may be reused under the key; one opened
under another key is closed. -/
def claim [DecidableEq F] (s : PoolManager T F) (server : ServerId) (key : PoolKey T F) :
    Option Link × PoolManager T F :=
  match s.parked.get? server with
  | none => (none, s)
  | some parked =>
    if parked.key = key then (some parked.link, { s with parked := s.parked.erase server })
    else (none, { s with
      parked := s.parked.erase server
      ledger := s.ledger.orSame s.ledger.close })

/-- A server is reported dead, and what that grants is handed out. -/
def reportDead (s : PoolManager T F) (server : ServerId) : Option (PoolManager T F) := do
  let (grants, allocator) ← s.allocator.backendDied server
  dispatch { s with allocator := allocator } grants

/-- One turn of an eviction loop: the link is unparked and its server reported dead. -/
def evict (s : PoolManager T F) (server : ServerId) : Option (PoolManager T F) :=
  match s.parked.get? server with
  | none => some s
  | some _ => (s.unpark server).reportDead server

/-- The parked links a test picks, in the order in which the map is walked. -/
def stale (s : PoolManager T F) (order : List ServerId) (test : Parked T F → Bool) :
    List ServerId :=
  order.filter fun server => (s.parked.get? server).any test

/-- Removes every parked link below the current epoch. -/
def takeSuperseded (s : PoolManager T F) (order : List ServerId) (current : Nat) :
    Option (PoolManager T F) :=
  (s.stale order fun parked => decide (parked.link.epoch < current)).foldlM evict s

/-- How many links a tenant has parked. -/
def parkedCount (s : PoolManager T F) (tenant : T) : Nat :=
  s.parked.values.countP fun parked => decide (parked.key.tenant = tenant)

/-- One turn of the reaper, with the count of parked links per tenant it keeps. -/
def reapOne (state : (T → Nat) × PoolManager T F) (server : ServerId) :
    Option ((T → Nat) × PoolManager T F) :=
  match state.2.parked.get? server with
  | none => some state
  | some parked =>
    let tenant := parked.key.tenant
    let guaranteed := ((state.2.allocator.budget.tenant tenant).map (·.guaranteed)).getD 0
    if state.1 tenant ≤ guaranteed then some state
    else do
      let s ← state.2.evict server
      some (fun other => if other = tenant then state.1 tenant - 1 else state.1 other, s)

/-- Removes every link parked too long that its tenant's guarantee does not need. -/
def takeIdle (s : PoolManager T F) (order : List ServerId) (now idleFor : Timestamp) :
    Option (PoolManager T F) := do
  let stale := s.stale order fun parked => decide (idleFor ≤ now - parked.since)
  let (_, s) ← stale.foldlM reapOne (s.parkedCount, s)
  some s

/-! ## Tenants -/

/-- The claim of a tenant nobody has configured. -/
def defaultSpec : TenantSpec where
  guaranteed := 0
  burstable := 2 ^ 32 - 1
  weight := 100
  priority := 1000
  maxClientConnections := 2 ^ 32 - 1
  storageBytes := 2 ^ 64 - 1

def addTenant (s : PoolManager T F) (tenant : T) (spec : TenantSpec) : PoolManager T F :=
  match s.allocator.addTenant tenant spec with
  | (.ok _, allocator) =>
    { s with allocator := allocator, tenants := s.tenants.insert tenant }
  | (.error _, allocator) => { s with allocator := allocator }

def ensureTenant (s : PoolManager T F) (tenant : T) : PoolManager T F :=
  if tenant ∈ s.tenants.toList then s else s.addTenant tenant defaultSpec

/-- One published claim. -/
def adoptClaim (s : PoolManager T F) (claim : T × TenantSpec) : Option (PoolManager T F) :=
  if claim.1 ∈ s.tenants.toList then do
    match ← s.allocator.setTenantSpec claim.1 claim.2 with
    | (.ok grants, allocator) =>
      dispatch { s with allocator := allocator, tenants := s.tenants.insert claim.1 } grants
    | (.error _, allocator) => some { s with allocator := allocator }
  else some (s.addTenant claim.1 claim.2)

/-- The tenants that are not published any more and have no server counted as live. -/
def departed (s : PoolManager T F) (published : List (T × TenantSpec)) : List T :=
  s.tenants.toList.filter fun tenant =>
    decide (tenant ∉ published.map Prod.fst) &&
      (s.allocator.budget.tenant tenant).all fun entry => decide (entry.live = 0)

def forget (s : PoolManager T F) (tenant : T) : Option (PoolManager T F) := do
  match ← s.allocator.removeTenant tenant with
  | (.ok grants, allocator) =>
    dispatch { s with allocator := allocator, tenants := s.tenants.erase tenant } grants
  | (.error _, allocator) => some { s with allocator := allocator }

def applyTenants (s : PoolManager T F) (published : List (T × TenantSpec)) :
    Option (PoolManager T F) := do
  let s ← published.foldlM adoptClaim s
  (s.departed published).foldlM forget s

/-! ## Clients -/

def connectClient (s : PoolManager T F) (key : PoolKey T F) : Option (PoolManager T F) := do
  match ← s.allocator.connectClient key.tenant with
  | (.ok client, allocator) =>
    some { s with
      allocator := allocator
      sessions := s.sessions.insert client ⟨key, .resting⟩ }
  | (.error _, allocator) => some { s with allocator := allocator }

def disconnectClient (s : PoolManager T F) (client : ClientId) : Option (PoolManager T F) := do
  let (grants, allocator) ← s.allocator.disconnectClient client
  dispatch { s with allocator := allocator, sessions := s.sessions.erase client } grants

/-- The first section of `acquire`. -/
def acquire (s : PoolManager T F) (client : ClientId) (tenant : T) (now : Timestamp) :
    Option (PoolManager T F) := do
  match ← s.allocator.tryLease client .normal now with
  | (.queued ticket _ _, allocator) =>
    match (s.waitQueue tenant).enqueue .normal client with
    | .ok queue =>
      some ({ s with
        allocator := allocator
        waits := s.waits.insert tenant queue }.setPhase client (.queued ticket))
    | .error _ => some { s with allocator := allocator }
  | (.granted lease, allocator) =>
    some ({ s with allocator := allocator }.setPhase client (.granted lease))
  | (.denied _, allocator) | (.stale, allocator) => some { s with allocator := allocator }

def leaseCancel (s : PoolManager T F) (client : ClientId) (now : Timestamp) :
    Option (PoolManager T F) := do
  match ← s.allocator.tryLease client .cancel now with
  | (.granted lease, allocator) =>
    some { s with allocator := allocator, cancels := lease :: s.cancels }
  | (_, allocator) => some { s with allocator := allocator }

/-- A lease is released, and what that grants is handed out. -/
def releaseLease (s : PoolManager T F) (lease : Capacity.Lease T) : Option (PoolManager T F) := do
  let (outcome, allocator) ← s.allocator.release lease
  dispatch { s with allocator := allocator } outcome.grants

def releaseCancel (s : PoolManager T F) (lease : Capacity.Lease T) : Option (PoolManager T F) :=
  releaseLease { s with cancels := s.cancels.erase lease } lease

/-- The section of `attach` that evicts and claims. -/
def attach [DecidableEq F] (s : PoolManager T F) (client : ClientId) (key : PoolKey T F)
    (lease : Capacity.Lease T) (order : List ServerId) (current : Nat) : Option (PoolManager T F) := do
  let s ← s.takeSuperseded order current
  match s.claim lease.server key with
  | (some link, s) => some (s.setPhase client (.reusing lease link))
  | (none, s) => some (s.setPhase client (.opening lease))

/-- A link that is on the ledger without a pin is given up. -/
def closeLink (s : PoolManager T F) : PoolManager T F :=
  { s with ledger := s.ledger.orSame s.ledger.close }

def checkIn (s : PoolManager T F) (client : ClientId) (key : PoolKey T F) (lease : Capacity.Lease T)
    (link : Link) (now : Timestamp) : Option (PoolManager T F) := do
  let s := (s.setPhase client .resting).park lease.server key link now
  let (outcome, allocator) ← s.allocator.release lease
  let s := match outcome.disposition with
    | .idle _ => { s with allocator := allocator }
    | .closed _ | .stale | .pinned _ => unpark { s with allocator := allocator } lease.server
  s.dispatch outcome.grants

/-- What `discard` and `sever` do under the lock. -/
def giveBack (s : PoolManager T F) (client : ClientId) (lease : Capacity.Lease T) (link : Link) :
    Option (PoolManager T F) :=
  releaseLease { s.setPhase client .resting with ledger := s.ledger.recordUnpin link.pin } lease

/-- How a checked-out link is dropped: asked to go away, or cut. -/
inductive Dropping
  | discard
  | sever
  deriving DecidableEq, Repr

/-! ## Steps -/

inductive Step (T F : Type)
  | ensureTenant (tenant : T)
  | connectClient (key : PoolKey T F)
  | disconnectClient (client : ClientId)
  | acquire (client : ClientId) (now : Timestamp)
  /-- The deadline passes and nothing was delivered. -/
  | closeWaiter (client : ClientId)
  | dropWaiter (client : ClientId)
  | dropTicket (client : ClientId)
  /-- The future of `acquire` is dropped after the grant. -/
  | abandon (client : ClientId)
  | attach (client : ClientId) (order : List ServerId) (current : Nat)
  /-- A claimed link is verified under an epoch, or found unusable. -/
  | verifyParked (client : ClientId) (epoch : Option Nat)
  | openLink (client : ClientId)
  /-- The connect gate refuses, or the attempts are over. -/
  | gateRefused (client : ClientId)
  /-- The connect succeeds under an epoch, or fails. -/
  | connected (client : ClientId) (epoch : Option Nat)
  | verifyOpened (client : ClientId) (epoch : Option Nat)
  | giveUp (client : ClientId)
  | pin (client : ClientId) (percent : Option Nat) (reason : PinReason)
  | releasePin (client : ClientId)
  | checkIn (client : ClientId) (now : Timestamp)
  | drop (how : Dropping) (client : ClientId)
  | leaseCancel (client : ClientId) (now : Timestamp)
  | releaseCancel (lease : Capacity.Lease T)
  | severSuperseded (order : List ServerId) (current : Nat)
  | reapIdle (order : List ServerId) (now idleFor : Timestamp)
  | applyTenants (published : List (T × TenantSpec))

/-- The steps that need the task in a certain phase. -/
def taskStep [DecidableEq F] (s : PoolManager T F) (client : ClientId) (session : Session T F) :
    Step T F → Option (PoolManager T F)
  | .disconnectClient _ =>
    match session.phase with
    | .resting => s.disconnectClient client
    | _ => none
  | .acquire _ now =>
    match session.phase with
    | .resting => s.acquire client session.key.tenant now
    | _ => none
  | .closeWaiter _ =>
    match session.phase with
    | .queued ticket => some (s.setPhase client (.closing ticket))
    | _ => none
  | .dropWaiter _ =>
    match session.phase with
    | .queued ticket | .closing ticket =>
      some ({ s with
        waits := s.waits.insert session.key.tenant
          ((s.waitQueue session.key.tenant).deregister client) }.setPhase client (.leaving ticket))
    | _ => none
  | .dropTicket _ =>
    match session.phase with
    | .leaving ticket => do
        let (_, allocator) ← s.allocator.cancelTicket session.key.tenant ticket
        some ({ s with allocator := allocator }.setPhase client .resting)
    | _ => none
  | .abandon _ =>
    match session.phase with
    | .granted _ | .reusing _ _ | .opening _ | .connecting _ | .checking _ _ =>
      some (s.setPhase client .resting)
    | _ => none
  | .attach _ order current =>
    match session.phase with
    | .granted lease => s.attach client session.key lease order current
    | _ => none
  | .verifyParked _ epoch =>
    match session.phase, epoch with
    | .reusing lease link, some epoch =>
      some (s.setPhase client (.holding lease { link with epoch := epoch }))
    | .reusing lease _, none => some (s.closeLink.setPhase client (.opening lease))
    | _, _ => none
  | .openLink _ =>
    match session.phase with
    | .opening lease =>
      match s.ledger.openLink with
      | .ok ledger => some ({ s with ledger := ledger }.setPhase client (.connecting lease))
      | .error _ => some (s.setPhase client (.refused lease))
    | _ => none
  | .gateRefused _ =>
    match session.phase with
    | .opening lease => some (s.setPhase client (.refused lease))
    | _ => none
  | .connected _ epoch =>
    match session.phase, epoch with
    | .connecting lease, some epoch =>
      some (s.setPhase client (.checking lease ⟨epoch, none⟩))
    | .connecting lease, none => some (s.closeLink.setPhase client (.opening lease))
    | _, _ => none
  | .verifyOpened _ epoch =>
    match session.phase, epoch with
    | .checking lease link, some epoch =>
      some (s.setPhase client (.holding lease { link with epoch := epoch }))
    | .checking lease _, none => some (s.closeLink.setPhase client (.refused lease))
    | _, _ => none
  | .giveUp _ =>
    match session.phase with
    | .refused lease => (s.setPhase client .resting).reportDead lease.server
    | _ => none
  | .pin _ percent reason =>
    match session.phase with
    | .holding lease ⟨epoch, none⟩ =>
      match s.ledger.recordPin percent reason with
      | some ledger => some ({ s with ledger := ledger }.setPhase client
          (.holding lease ⟨epoch, some reason⟩))
      | none => some s
    | _ => none
  | .releasePin _ =>
    match session.phase with
    | .holding lease ⟨epoch, some reason⟩ =>
      some ({ s with ledger := s.ledger.orSame (s.ledger.unpin reason) }.setPhase client
        (.holding lease ⟨epoch, none⟩))
    | _ => none
  | .checkIn _ now =>
    -- the caller has had `Ok` from the release gate, which refuses a pinned link
    match session.phase with
    | .holding lease ⟨epoch, none⟩ =>
      s.checkIn client session.key lease ⟨epoch, none⟩ now
    | _ => none
  | .drop _ _ =>
    match session.phase with
    | .holding lease link => s.giveBack client lease link
    | _ => none
  | _ => none

/-- The client whose task takes the step. -/
def Step.actor : Step T F → Option ClientId
  | .disconnectClient client | .acquire client _ | .closeWaiter client | .dropWaiter client
  | .dropTicket client | .abandon client | .attach client _ _ | .verifyParked client _
  | .openLink client | .gateRefused client | .connected client _ | .verifyOpened client _
  | .giveUp client | .pin client _ _ | .releasePin client | .checkIn client _
  | .drop _ client => some client
  | _ => none

/-- One section under the lock. -/
def next [DecidableEq F] (s : PoolManager T F) (step : Step T F) : Option (PoolManager T F) :=
  match step with
  | .ensureTenant tenant => some (s.ensureTenant tenant)
  | .connectClient key => s.connectClient key
  | .leaseCancel client now => s.leaseCancel client now
  | .releaseCancel lease => if lease ∈ s.cancels then s.releaseCancel lease else none
  | .severSuperseded order current => s.takeSuperseded order current
  | .reapIdle order now idleFor => s.takeIdle order now idleFor
  | .applyTenants published => s.applyTenants published
  | step => do
      let client ← step.actor
      let session ← s.sessions.get? client
      s.taskStep client session step

/-- The interleavings of a manager's sections. -/
def system [DecidableEq F] (pool : PoolSpec) (admission : AdmissionSpec) :
    System (PoolManager T F) (Step T F) where
  init := fun s => new pool admission = .ok s
  step := fun s step s' => s.next step = some s'

/-! ## What a task can do -/

/-- The steps of a task that call no allocator: where the task was, the ledger, and where the
task is afterwards. -/
inductive Advance (ledger : BudgetLedger) :
    Step T F → Phase T → BudgetLedger → Phase T → Prop
  | closeWaiter (client : ClientId) (ticket : TicketId) :
      Advance ledger (.closeWaiter client) (.queued ticket) ledger (.closing ticket)
  | abandon (client : ClientId) (phase : Phase T) :
      phase.attaching = true → Advance ledger (.abandon client) phase ledger .resting
  | verified (client : ClientId) (lease : Capacity.Lease T) (link : Link) (epoch : Nat) :
      Advance ledger (.verifyParked client (some epoch)) (.reusing lease link) ledger
        (.holding lease { link with epoch := epoch })
  | spoiled (client : ClientId) (lease : Capacity.Lease T) (link : Link) :
      Advance ledger (.verifyParked client none) (.reusing lease link)
        (ledger.orSame ledger.close) (.opening lease)
  | counted (client : ClientId) (lease : Capacity.Lease T) (ledger' : BudgetLedger) :
      ledger.openLink = .ok ledger' →
      Advance ledger (.openLink client) (.opening lease) ledger' (.connecting lease)
  | full (client : ClientId) (lease : Capacity.Lease T) :
      Advance ledger (.openLink client) (.opening lease) ledger (.refused lease)
  | gateRefused (client : ClientId) (lease : Capacity.Lease T) :
      Advance ledger (.gateRefused client) (.opening lease) ledger (.refused lease)
  | connected (client : ClientId) (lease : Capacity.Lease T) (epoch : Nat) :
      Advance ledger (.connected client (some epoch)) (.connecting lease) ledger
        (.checking lease ⟨epoch, none⟩)
  | connectFailed (client : ClientId) (lease : Capacity.Lease T) :
      Advance ledger (.connected client none) (.connecting lease)
        (ledger.orSame ledger.close) (.opening lease)
  | checked (client : ClientId) (lease : Capacity.Lease T) (link : Link) (epoch : Nat) :
      Advance ledger (.verifyOpened client (some epoch)) (.checking lease link) ledger
        (.holding lease { link with epoch := epoch })
  | rejected (client : ClientId) (lease : Capacity.Lease T) (link : Link) :
      Advance ledger (.verifyOpened client none) (.checking lease link)
        (ledger.orSame ledger.close) (.refused lease)
  | pinned (client : ClientId) (percent : Option Nat) (reason : PinReason) (lease : Capacity.Lease T)
      (epoch : Nat) (ledger' : BudgetLedger) :
      ledger.recordPin percent reason = some ledger' →
      Advance ledger (.pin client percent reason) (.holding lease ⟨epoch, none⟩) ledger'
        (.holding lease ⟨epoch, some reason⟩)
  | unpinned (client : ClientId) (reason : PinReason) (lease : Capacity.Lease T) (epoch : Nat) :
      Advance ledger (.releasePin client) (.holding lease ⟨epoch, some reason⟩)
        (ledger.orSame (ledger.unpin reason)) (.holding lease ⟨epoch, none⟩)

/-- The sections of a task. -/
inductive Task [DecidableEq F] (s : PoolManager T F) (client : ClientId)
    (session : Session T F) : Step T F → PoolManager T F → Prop
  | advance {step : Step T F} {ledger : BudgetLedger} {phase : Phase T} {s' : PoolManager T F} :
      Advance s.ledger step session.phase ledger phase →
      { s with ledger := ledger }.setPhase client phase = s' → Task s client session step s'
  | notPinned (percent : Option Nat) (reason : PinReason) :
      Task s client session (.pin client percent reason) s
  | disconnectClient {s' : PoolManager T F} :
      session.phase = .resting → s.disconnectClient client = some s' →
      Task s client session (.disconnectClient client) s'
  | acquire {now : Timestamp} {s' : PoolManager T F} :
      session.phase = .resting → s.acquire client session.key.tenant now = some s' →
      Task s client session (.acquire client now) s'
  | dropWaiter {ticket : TicketId} {s' : PoolManager T F} :
      session.phase = .queued ticket ∨ session.phase = .closing ticket →
      { s with
        waits := s.waits.insert session.key.tenant
          ((s.waitQueue session.key.tenant).deregister client) }.setPhase client
            (.leaving ticket) = s' →
      Task s client session (.dropWaiter client) s'
  | dropTicket {ticket : TicketId} {removed : Bool} {a' : Allocator T} {s' : PoolManager T F} :
      session.phase = .leaving ticket →
      s.allocator.cancelTicket session.key.tenant ticket = some (removed, a') →
      { s with allocator := a' }.setPhase client .resting = s' →
      Task s client session (.dropTicket client) s'
  | attach {lease : Capacity.Lease T} {order : List ServerId} {current : Nat} {s' : PoolManager T F} :
      session.phase = .granted lease →
      s.attach client session.key lease order current = some s' →
      Task s client session (.attach client order current) s'
  | giveUp {lease : Capacity.Lease T} {s' : PoolManager T F} :
      session.phase = .refused lease →
      (s.setPhase client .resting).reportDead lease.server = some s' →
      Task s client session (.giveUp client) s'
  | checkIn {lease : Capacity.Lease T} {epoch : Nat} {now : Timestamp} {s' : PoolManager T F} :
      session.phase = .holding lease ⟨epoch, none⟩ →
      s.checkIn client session.key lease ⟨epoch, none⟩ now = some s' →
      Task s client session (.checkIn client now) s'
  | drop {lease : Capacity.Lease T} {link : Link} (how : Dropping) {s' : PoolManager T F} :
      session.phase = .holding lease link → s.giveBack client lease link = some s' →
      Task s client session (.drop how client) s'

variable {s s' : PoolManager T F} {order : List ServerId} {step : Step T F} {client : ClientId}

lemma task_of_taskStep [DecidableEq F] {session : Session T F} (hactor : step.actor = some client)
    (hrun : s.taskStep client session step = some s') : Task s client session step s' := by
  cases step <;> cases hactor <;> simp only [taskStep] at hrun
  case disconnectClient =>
    split at hrun
    · exact .disconnectClient ‹_› hrun
    · cases hrun
  case acquire =>
    split at hrun
    · exact .acquire ‹_› hrun
    · cases hrun
  case closeWaiter =>
    split at hrun
    · rename_i ticket hphase
      exact .advance (hphase ▸ .closeWaiter _ ticket) (some.inj hrun)
    · cases hrun
  case dropWaiter =>
    split at hrun
    · exact .dropWaiter (.inl ‹_›) (some.inj hrun)
    · exact .dropWaiter (.inr ‹_›) (some.inj hrun)
    · cases hrun
  case dropTicket =>
    split at hrun
    · rename_i ticket hphase
      obtain ⟨⟨removed, a'⟩, hcall, hrest⟩ := bind_eq_some_iff.mp hrun
      exact .dropTicket hphase hcall (some.inj hrest)
    · cases hrun
  case abandon =>
    have hinside : session.phase.attaching := by
      cases hphase : session.phase with
      | granted | reusing | opening | connecting | checking | refused => rfl
      | _ =>
        simp only [hphase, reduceCtorEq] at hrun
    refine .advance (.abandon _ _ hinside) ?_
    split at hrun
    iterate 5
      · exact some.inj hrun
    · cases hrun
  case attach =>
    split at hrun
    · exact .attach ‹_› hrun
    · cases hrun
  case verifyParked =>
    split at hrun
    · rename_i lease link epoch hphase
      exact .advance (hphase ▸ .verified _ lease link epoch) (some.inj hrun)
    · rename_i lease link hphase
      exact .advance (hphase ▸ .spoiled _ lease link) (some.inj hrun)
    · cases hrun
  case openLink =>
    split at hrun
    · rename_i lease hphase
      split at hrun
      · rename_i ledger hledger
        exact .advance (hphase ▸ .counted _ lease ledger hledger) (some.inj hrun)
      · exact .advance (hphase ▸ .full _ lease) (some.inj hrun)
    · cases hrun
  case gateRefused =>
    split at hrun
    · rename_i lease hphase
      exact .advance (hphase ▸ .gateRefused _ lease) (some.inj hrun)
    · cases hrun
  case connected =>
    split at hrun
    · rename_i lease epoch hphase
      exact .advance (hphase ▸ .connected _ lease epoch) (some.inj hrun)
    · rename_i lease hphase
      exact .advance (hphase ▸ .connectFailed _ lease) (some.inj hrun)
    · cases hrun
  case verifyOpened =>
    split at hrun
    · rename_i lease link epoch hphase
      exact .advance (hphase ▸ .checked _ lease link epoch) (some.inj hrun)
    · rename_i lease link hphase
      exact .advance (hphase ▸ .rejected _ lease link) (some.inj hrun)
    · cases hrun
  case giveUp =>
    split at hrun
    · exact .giveUp ‹_› hrun
    · cases hrun
  case pin percent reason =>
    split at hrun
    · rename_i lease epoch hphase
      split at hrun
      · rename_i ledger hledger
        exact .advance (hphase ▸ .pinned _ percent reason lease epoch ledger hledger)
          (some.inj hrun)
      · obtain rfl := some.inj hrun
        exact .notPinned percent reason
    · cases hrun
  case releasePin =>
    split at hrun
    · rename_i lease epoch reason hphase
      exact .advance (hphase ▸ .unpinned _ reason lease epoch) (some.inj hrun)
    · cases hrun
  case checkIn =>
    split at hrun
    · exact .checkIn ‹_› hrun
    · cases hrun
  case drop how =>
    split at hrun
    · exact .drop how ‹_› hrun
    · cases hrun

/-- A step somebody's task takes is a section of that task. -/
lemma task_of_next [DecidableEq F]
    (hactor : step.actor = some client) (hrun : s.next step = some s') :
    ∃ session, s.sessions.get? client = some session ∧ Task s client session step s' := by
  have hsome : (do
      let client ← step.actor
      let session ← s.sessions.get? client
      s.taskStep client session step) = some s' := by
    cases step with
    | ensureTenant | connectClient | leaseCancel | releaseCancel | severSuperseded | reapIdle
    | applyTenants => cases hactor
    | _ => exact hrun
  simp only [hactor, bind_eq_bind, bind_some, bind_eq_some_iff] at hsome
  obtain ⟨session, hsession, htask⟩ := hsome
  exact ⟨session, hsession, task_of_taskStep hactor htask⟩

/-! ## Walks over the parked links -/

lemma mem_stale {test : Parked T F → Bool} {server : ServerId} (h : server ∈ s.stale order test) :
    ∃ parked, s.parked.get? server = some parked ∧ test parked := by
  obtain ⟨-, htest⟩ := mem_filter.mp h
  cases hparked : s.parked.get? server with
  | none =>
    rw [hparked] at htest
    cases htest
  | some parked =>
    rw [hparked] at htest
    exact ⟨parked, rfl, htest⟩

variable {P : PoolManager T F → Prop}

/-- What every eviction of a superseded link keeps, the walk keeps. -/
lemma takeSuperseded_keeps {current : Nat}
    (hevict : ∀ server parked b b', s.parked.get? server = some parked →
      parked.link.epoch < current → P b → b.evict server = some b' → P b') (hstart : P s)
    (hrun : s.takeSuperseded order current = some s') : P s' := by
  have hdone : ([] : List ServerId) ⊆
      s.stale order (fun parked => decide (parked.link.epoch < current)) ∧ P s' := by
    refine foldlM_keeps (motive := fun rest b => rest ⊆ s.stale order
      (fun parked => decide (parked.link.epoch < current)) ∧ P b) ?_
      ⟨fun _ => id, hstart⟩ hrun
    rintro server rest b b' ⟨hsub, hkept⟩ hstep
    obtain ⟨parked, hparked, htest⟩ := mem_stale (hsub mem_cons_self)
    exact ⟨fun _ hmem => hsub (mem_cons_of_mem _ hmem),
      hevict server parked b b' hparked (of_decide_eq_true htest) hkept hstep⟩
  exact hdone.2

/-- What every eviction of a parked link keeps, the reaper keeps. -/
lemma takeIdle_keeps {now idleFor : Timestamp}
    (hevict : ∀ server parked b b', s.parked.get? server = some parked →
      P b → b.evict server = some b' → P b') (hstart : P s)
    (hrun : s.takeIdle order now idleFor = some s') : P s' := by
  obtain ⟨⟨counts, s₁⟩, hloop, hend⟩ := bind_eq_some_iff.mp hrun
  rw [some.injEq] at hend
  subst hend
  have hdone : ([] : List ServerId) ⊆
      s.stale order (fun parked => decide (idleFor ≤ now - parked.since)) ∧ P (counts, s₁).2 := by
    refine foldlM_keeps (motive := fun rest state => rest ⊆ s.stale order
      (fun parked => decide (idleFor ≤ now - parked.since)) ∧ P state.2) ?_
      ⟨fun _ => id, hstart⟩ hloop
    rintro server rest state state' ⟨hsub, hkept⟩ hstep
    obtain ⟨parked, hparked, -⟩ := mem_stale (hsub mem_cons_self)
    refine ⟨fun _ hmem => hsub (mem_cons_of_mem _ hmem), ?_⟩
    unfold reapOne at hstep
    split at hstep
    · rw [some.injEq] at hstep
      exact hstep ▸ hkept
    dsimp only at hstep
    split at hstep
    · rw [some.injEq] at hstep
      exact hstep ▸ hkept
    obtain ⟨b', hevicted, hstate⟩ := bind_eq_some_iff.mp hstep
    rw [some.injEq] at hstate
    rw [← hstate]
    exact hevict server parked _ b' hparked hkept hevicted
  exact hdone.2

/-! ## Tenants on the list -/

lemma dispatch_nil (s : PoolManager T F) : s.dispatch [] = some s := by
  rw [dispatch, dispatchLoop]

/-- A refused claim hands out nothing and leaves the list alone. -/
lemma adoptClaim_cases {claim : T × TenantSpec} (hrun : s.adoptClaim claim = some s') :
    (∃ result a' tenants, s.allocator.setTenantSpec claim.1 claim.2 = some (result, a') ∧
      (∀ t ∈ tenants, t = claim.1 ∨ t ∈ s.tenants) ∧
      dispatch { s with allocator := a', tenants := tenants } (result.toOption.getD []) = some s') ∨
    s' = s.addTenant claim.1 claim.2 := by
  unfold adoptClaim at hrun
  split at hrun
  · obtain ⟨⟨result, a'⟩, hcall, hrest⟩ := bind_eq_some_iff.mp hrun
    cases result with
    | ok grants =>
      exact .inl ⟨_, a', _, hcall, fun _ ht => (OrderedSet.mem_insert ..).mp ht, hrest⟩
    | error e =>
      exact .inl ⟨_, a', s.tenants, hcall, fun _ ht => .inr ht, (dispatch_nil _).trans hrest⟩
  · exact .inr (some.inj hrun).symm

lemma forget_cases {tenant : T} (hrun : s.forget tenant = some s') :
    ∃ result a' tenants, s.allocator.removeTenant tenant = some (result, a') ∧
      dispatch { s with allocator := a', tenants := tenants } (result.toOption.getD []) = some s' := by
  obtain ⟨⟨result, a'⟩, hcall, hrest⟩ := bind_eq_some_iff.mp hrun
  cases result with
  | ok grants => exact ⟨_, a', _, hcall, hrest⟩
  | error e => exact ⟨_, a', s.tenants, hcall, (dispatch_nil _).trans hrest⟩

variable {admission : AdmissionSpec} {pool : PoolSpec}

/-- A new manager is empty around its allocator. -/
lemma new_ok (h : new pool admission = .ok s) :
    ∃ allocator : Allocator T, Allocator.withClock pool admission = .ok allocator ∧
      s = ⟨allocator, OrderedMap.empty, OrderedMap.empty,
        BudgetLedger.new pool.backendConnections, OrderedSet.empty, OrderedMap.empty,
        [], [], []⟩ := by
  unfold new at h
  obtain ⟨allocator, hclock, ⟨⟩⟩ := ok_of_bind h
  exact ⟨allocator, hclock, rfl⟩

/-- Replays the steps that pass a test, from a manager's first state. -/
def replay [DecidableEq F] (pool : PoolSpec) (admission : AdmissionSpec)
    (test : PoolManager T F → Step T F → Bool) (steps : List (Step T F)) :
    Option (PoolManager T F) :=
  (new pool admission).toOption.bind fun s => System.run (System.guarded next test) s steps

lemma reachable_of_replay [DecidableEq F]
    {test : PoolManager T F → Step T F → Bool} {steps : List (Step T F)}
    (h : replay pool admission test steps = some s) :
    ((system pool admission).restrict fun s step => test s step).Reachable s := by
  obtain ⟨start, hstart, hrun⟩ := bind_eq_some_iff.mp h
  exact System.reachable_of_guarded_run (fun _ _ _ => id) (ok_of_toOption hstart) hrun

end PoolManager
end PgElastic.Proxy
