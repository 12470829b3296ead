import PgElastic.Capacity.Budget

/-!
# The capacity allocator

The pure capacity state machine of one pool: the admission ladder, revocation,
the two-level scheduler and the client-connection currency.  Each method of the
source is a function of the same name that takes the state and returns the
result together with the next state.

As in `CapacityBudget`, the outer `Option` is the panic of the source: `none`
stands for an unsigned underflow, a failed `expect` or an index into a map that
has no such key.  The loops that the source bounds only by progress (`drainQueue`,
`drainTo`) run on fuel and also answer `none` when it runs out, so a proof that
an operation does not answer `none` covers their termination.

Clock readings are arguments of the operations that take them.
-/

namespace PgElastic.Capacity

open Library

abbrev ServerId := Nat

abbrev ClientId := Nat

abbrev TicketId := Nat

/-- Nanoseconds on the clock's own scale. -/
abbrev Timestamp := Nat

/-- What a client asks a backend connection for. -/
inductive RequestKind
  | normal
  | cancel
  deriving DecidableEq, Repr

/-- Which credit a lease was drawn from. -/
inductive CreditKind
  | cancel
  | reserved
  | burst
  deriving DecidableEq, Repr

/-- Why admission refused, naming the limit that blocked it. -/
inductive DenialReason (T : Type)
  | tenantCap (tenant : T) (live burstable : Nat)
  | tenantClientCap (tenant : T) (live max : Nat)
  | poolCapacity (live total : Nat)
  | poolClientCap (live max : Nat)
  | queueFull (tenant : T) (queued limit : Nat)
  | cancelCredit (tenant : T) (inFlight limit : Nat)
  | storageQuota (tenant : T) (used quota : Nat)
  | admissionTimeout (tenant : T) (waited : Nat)
  | migrationCutover (tenant : T)
  deriving DecidableEq, Repr

/-- Why a client connection was refused before it reached the ladder. -/
inductive ConnectRejection (T : Type)
  | unknownTenant (tenant : T)
  | denied (reason : DenialReason T)
  deriving DecidableEq, Repr

/-- A granted unit of work in progress. -/
structure Lease (T : Type) where
  server : ServerId
  tenant : T
  client : ClientId
  credit : CreditKind
  epoch : Nat
  deriving DecidableEq, Repr

/-- What the fourth step of the ladder did to make room. -/
inductive Revocation (T : Type)
  | closedIdle (tenant : T) (server : ServerId)
  | markedActive (tenant : T) (server : ServerId)
  deriving DecidableEq, Repr

/-- What the ladder decided. -/
inductive Admission (T : Type)
  | granted (lease : Lease T)
  | queued (ticket : TicketId) (blockedBy : DenialReason T) (revoked : Option (Revocation T))
  | denied (reason : DenialReason T)
  | stale
  deriving DecidableEq, Repr

/-- Records the revocation in the answer of a request that was queued for it. -/
def Admission.withRevocation {T : Type} (revoked : Option (Revocation T)) :
    Admission T → Admission T
  | .queued ticket blockedBy _ => .queued ticket blockedBy revoked
  | other => other

inductive ServerState
  | idle
  | active
  deriving DecidableEq, Repr

/-- A backend connection, from the budget's point of view. -/
structure ServerConn (T : Type) where
  id : ServerId
  tenant : T
  credit : CreditKind
  state : ServerState
  closeNeeded : Bool
  client : Option ClientId
  seq : Nat
  epoch : Nat
  deriving DecidableEq, Repr

namespace ServerConn

variable {T : Type}

/-- A connection just opened for a client. -/
def new (id : ServerId) (tenant : T) (credit : CreditKind) (client : ClientId) (seq : Nat) :
    ServerConn T :=
  { id := id
    tenant := tenant
    credit := credit
    state := .active
    closeNeeded := false
    client := some client
    seq := seq
    epoch := seq }

/-- The connection handed to a client under a new sequence number. -/
def checkOut (conn : ServerConn T) (client : ClientId) (seq : Nat) : ServerConn T :=
  { conn with state := .active, client := some client, seq := seq, epoch := seq }

/-- The connection parked for reuse under a new sequence number. -/
def checkIn (conn : ServerConn T) (seq : Nat) : ServerConn T :=
  { conn with state := .idle, client := none, seq := seq, epoch := seq }

/-- The lease of a connection to a client of a tenant. -/
def leaseTo (conn : ServerConn T) (tenant : T) (client : ClientId) (epoch : Nat) : Lease T :=
  { server := conn.id
    tenant := tenant
    client := client
    credit := conn.credit
    epoch := epoch }

end ServerConn

/-- A client waiting in a tenant's queue. -/
structure Ticket (T : Type) where
  id : TicketId
  client : ClientId
  enqueuedAt : Timestamp
  blockedBy : DenialReason T
  seq : Nat
  deriving DecidableEq, Repr

/-- A queued client that has just been given a lease. -/
structure Grant (T : Type) where
  ticket : TicketId
  client : ClientId
  tenant : T
  lease : Lease T
  deriving DecidableEq, Repr

/-- A queued client whose admission deadline passed. -/
structure Expired (T : Type) where
  ticket : TicketId
  client : ClientId
  tenant : T
  reason : DenialReason T
  blockedBy : DenialReason T
  deriving DecidableEq, Repr

/-- What happened to a released server. -/
inductive Disposition (T : Type)
  | idle (server : ServerId)
  | closed (server : ServerId)
  | pinned (lease : Lease T)
  | stale
  deriving DecidableEq, Repr

structure ReleaseOutcome (T : Type) where
  disposition : Disposition T
  grants : List (Grant T)
  deriving DecidableEq, Repr

/-- Index entry of a server: its sequence number first, so that the order of the
index is the order of last use. -/
abbrev ServerKey := Nat ×ₗ Nat

def serverKey (seq : Nat) (server : ServerId) : ServerKey := toLex (seq, server)

def ServerKey.server (key : ServerKey) : ServerId := (ofLex key).2

/-- The allocator's own bookkeeping for one tenant. -/
structure TenantRuntime (T : Type) where
  idle : OrderedSet ServerKey
  active : OrderedSet ServerKey
  queue : List (Ticket T)
  clients : Nat
  cancelLive : Nat
  marked : Nat
  storageUsed : Nat
  migrating : Bool

namespace TenantRuntime

variable {T : Type}

def default : TenantRuntime T where
  idle := OrderedSet.empty
  active := OrderedSet.empty
  queue := []
  clients := 0
  cancelLive := 0
  marked := 0
  storageUsed := 0
  migrating := false

/-- An idle server becomes active under a new sequence number. -/
def checkOut (rt : TenantRuntime T) (key : ServerKey) (seq : Nat) : TenantRuntime T :=
  { rt with
    idle := rt.idle.erase key
    active := rt.active.insert (serverKey seq key.server) }

/-- An active server becomes idle under a new sequence number. -/
def checkIn (rt : TenantRuntime T) (key : ServerKey) (seq : Nat) : TenantRuntime T :=
  { rt with
    active := rt.active.erase key
    idle := rt.idle.insert (serverKey seq key.server) }

/-- A new server is indexed as active. -/
def enter (rt : TenantRuntime T) (key : ServerKey) (credit : CreditKind) : TenantRuntime T :=
  { rt with
    active := rt.active.insert key
    cancelLive := if credit = .cancel then rt.cancelLive + 1 else rt.cancelLive }

/-- A closed server leaves the index of its state and the counters it was part
of. -/
def leave (rt : TenantRuntime T) (server : ServerId) (conn : ServerConn T) :
    Option (TenantRuntime T) := do
  let key := serverKey conn.seq server
  let cancelLive ← decrementIf (conn.credit = .cancel) rt.cancelLive
  let marked ← decrementIf conn.closeNeeded rt.marked
  some { rt with
    idle := if conn.state = .idle then rt.idle.erase key else rt.idle
    active := if conn.state = .active then rt.active.erase key else rt.active
    cancelLive := cancelLive
    marked := marked }

end TenantRuntime

inductive Classification
  | reserved
  | burst
  | revokeAndQueue
  | queue
  deriving DecidableEq, Repr

/-- The pure capacity state machine for one pool. -/
structure Allocator (T : Type) [LinearOrder T] where
  budget : CapacityBudget T
  admission : AdmissionSpec
  tenants : OrderedMap T (TenantRuntime T)
  servers : OrderedMap ServerId (ServerConn T)
  clients : OrderedMap ClientId T
  seq : Nat
  nextServer : Nat
  nextClient : Nat
  nextTicket : Nat
  created : Nat
  closed : Nat
  clientsLive : Nat
  queuedTotal : Nat
  quorumLost : Bool

namespace Allocator

variable {T : Type} [LinearOrder T]

def withClock (pool : PoolSpec) (admission : AdmissionSpec) :
    Except (ConfigError T) (Allocator T) := do
  let budget ← CapacityBudget.new pool
  .ok { budget := budget
        admission := admission
        tenants := OrderedMap.empty
        servers := OrderedMap.empty
        clients := OrderedMap.empty
        seq := 0
        nextServer := 0
        nextClient := 0
        nextTicket := 0
        created := 0
        closed := 0
        clientsLive := 0
        queuedTotal := 0
        quorumLost := false }

/-- Server lifecycle counters. -/
structure Accounting where
  created : Nat
  active : Nat
  idle : Nat
  closed : Nat
  deriving DecidableEq, Repr

def Accounting.conserved (accounting : Accounting) : Bool :=
  accounting.created = accounting.active + accounting.idle + accounting.closed

def accounting (a : Allocator T) : Accounting where
  created := a.created
  active := a.servers.values.countP fun conn => conn.state = .active
  idle := a.servers.values.countP fun conn => conn.state = .idle
  closed := a.closed

/-- The per-tenant cancel credit pool: `min(8, burstable)`. -/
def cancelCredit (a : Allocator T) (tenant : T) : Nat :=
  match a.budget.tenant tenant with
  | some entry => min cancelCreditCap entry.burstable
  | none => 0

/-! ## Server bookkeeping -/

def nextSeq (a : Allocator T) : Nat × Allocator T :=
  (a.seq + 1, { a with seq := a.seq + 1 })

/-- Hands the tenant's most recently used idle server to a client.  The sequence
number is drawn before the lookup, so it advances even when nothing is idle. -/
def reuseIdle (a : Allocator T) (tenant : T) (client : ClientId) :
    Option (Option (Lease T) × Allocator T) :=
  let (seq, a) := a.nextSeq
  match a.tenants.get? tenant with
  | none => some (none, a)
  | some rt =>
    match rt.idle.last? with
    | none => some (none, a)
    | some key => do
        let conn ← a.servers.get? key.server
        some (some (conn.leaseTo tenant client seq), { a with
            tenants := a.tenants.insert tenant (rt.checkOut key seq)
            servers := a.servers.insert key.server (conn.checkOut client seq) })

def openServer (a : Allocator T) (tenant : T) (credit : CreditKind) (client : ClientId) :
    Option (Lease T × Allocator T) := do
  let (seq, a) := a.nextSeq
  let id := a.nextServer
  let conn := ServerConn.new id tenant credit client seq
  let rt ← a.tenants.get? tenant
  let budget ← if credit = .cancel then some a.budget else a.budget.incLive tenant
  some (conn.leaseTo tenant client seq, { a with
      budget := budget
      tenants := a.tenants.insert tenant (rt.enter (serverKey seq id) credit)
      servers := a.servers.insert id conn
      nextServer := a.nextServer + 1
      created := a.created + 1 })

/-- Closes a server.  A runtime that is already gone is skipped, as in the
source; a missing budget row is not. -/
def closeServer (a : Allocator T) (server : ServerId) :
    Option (Option (ServerConn T) × Allocator T) :=
  match a.servers.get? server with
  | none => some (none, a)
  | some conn => do
      let tenants ← match a.tenants.get? conn.tenant with
        | none => some a.tenants
        | some rt => (rt.leave server conn).map (a.tenants.insert conn.tenant)
      let budget ← if conn.credit = .cancel then some a.budget else a.budget.decLive conn.tenant
      some (some conn, { a with
        budget := budget
        tenants := tenants
        servers := a.servers.erase server
        closed := a.closed + 1 })

def markCloseNeeded (a : Allocator T) (server : ServerId) : Option (Bool × Allocator T) :=
  match a.servers.get? server with
  | none => some (false, a)
  | some conn =>
    if conn.closeNeeded then some (false, a)
    else do
      let rt ← a.tenants.get? conn.tenant
      some (true, { a with
        servers := a.servers.insert server { conn with closeNeeded := true }
        tenants := a.tenants.insert conn.tenant { rt with marked := rt.marked + 1 } })

def retireActive (a : Allocator T) (server : ServerId) :
    Option (Disposition T × Allocator T) :=
  match a.servers.get? server with
  | none => some (.stale, a)
  | some conn =>
    if conn.closeNeeded ∨ conn.credit = .cancel then do
      let (_, a) ← a.closeServer server
      some (.closed server, a)
    else do
      let (seq, a) := a.nextSeq
      let rt ← a.tenants.get? conn.tenant
      some (.idle server, { a with
        servers := a.servers.insert server (conn.checkIn seq)
        tenants := a.tenants.insert conn.tenant (rt.checkIn (serverKey conn.seq server) seq) })

/-! ## The admission ladder -/

/-- The ladder from its first step: reserved credit, the burst ceiling, burst
credit, revocation, the queue. -/
def classify (a : Allocator T) (tenant : T) :
    Option (Except (DenialReason T) Classification) := do
  let entry ← a.budget.tenant tenant
  if entry.live < entry.guaranteed then
    some (.ok (if a.budget.liveTotal < a.budget.total then .reserved else .revokeAndQueue))
  else if entry.burstable ≤ entry.live then
    some (.error (.tenantCap tenant entry.live entry.burstable))
  else if 0 < a.budget.free then some (.ok .burst)
  else some (.ok .queue)

/-- Order of revocation: the largest takeable surplus first, then the lowest
priority, the lowest weight and the smallest name. -/
def revocationCmp (left right : T × TenantEntry × Nat) : Ordering :=
  (compare right.2.2 left.2.2).then
    ((compare left.2.1.priority right.2.1.priority).then
      ((compare left.2.1.weight right.2.1.weight).then (compare left.1 right.1)))

/-- Tenants with surplus left to take, net of the servers already marked. -/
def revocationCandidates (a : Allocator T) : List T :=
  let candidates := a.budget.tenants.entries.filterMap fun (id, entry) =>
    let marked := ((a.tenants.get? id).map (·.marked)).getD 0
    if marked < entry.surplus then some (id, entry, entry.surplus - marked) else none
  (candidates.insertionSort fun left right => (revocationCmp left right).isLE = true).map (·.1)

/-- First indexed server that satisfies a test; every inspected key is looked up. -/
def findServer (a : Allocator T) (test : ServerConn T → Bool) :
    List ServerKey → Option (Option ServerId)
  | [] => some none
  | key :: rest => do
      let conn ← a.servers.get? key.server
      if test conn then some (some key.server) else findServer a test rest

/-- The loop of `revoke` over its candidates. -/
def revokeFrom (a : Allocator T) : List T → Option (Option (Revocation T) × Allocator T)
  | [] => some (none, a)
  | tenant :: rest => do
      let rt ← a.tenants.get? tenant
      match ← a.findServer (fun conn => conn.credit ≠ .cancel) rt.idle.toList with
      | some server =>
        let (_, a) ← a.closeServer server
        some (some (.closedIdle tenant server), a)
      | none =>
        match ← a.findServer (fun conn => conn.credit ≠ .cancel && !conn.closeNeeded)
            rt.active.toList with
        | some server =>
          let (_, a) ← a.markCloseNeeded server
          some (some (.markedActive tenant server), a)
        | none => revokeFrom a rest

def revoke (a : Allocator T) : Option (Option (Revocation T) × Allocator T) :=
  a.revokeFrom a.revocationCandidates

def enqueue (a : Allocator T) (tenant : T) (client : ClientId) (now : Timestamp) :
    Option (Admission T × Allocator T) := do
  let rt ← a.tenants.get? tenant
  let limit := a.admission.queueDepthPerTenant
  if limit ≤ rt.queue.length then
    some (.denied (.queueFull tenant rt.queue.length limit), a)
  else
    let blockedBy := DenialReason.poolCapacity a.budget.liveTotal a.budget.total
    let (seq, a) := a.nextSeq
    let id := a.nextTicket
    let ticket : Ticket T :=
      { id := id, client := client, enqueuedAt := now, blockedBy := blockedBy, seq := seq }
    some (.queued id blockedBy none, { a with
      nextTicket := a.nextTicket + 1
      tenants := a.tenants.insert tenant { rt with queue := rt.queue ++ [ticket] }
      queuedTotal := a.queuedTotal + 1 })

/-- Step 0 of the ladder: the cancel credit pool outside the total. -/
def cancelBurst (a : Allocator T) (tenant : T) (client : ClientId) :
    Option (Admission T × Allocator T) := do
  let limit := a.cancelCredit tenant
  let rt ← a.tenants.get? tenant
  if limit ≤ rt.cancelLive then
    some (.denied (.cancelCredit tenant rt.cancelLive limit), a)
  else
    let (lease, a) ← a.openServer tenant .cancel client
    some (.granted lease, a)

/-- The steps of the ladder after an idle server was not found. -/
def climb (a : Allocator T) (tenant : T) (client : ClientId) (now : Timestamp) :
    Option (Admission T × Allocator T) := do
  match ← a.classify tenant with
  | .error reason => some (.denied reason, a)
  | .ok .reserved =>
    let (lease, a) ← a.openServer tenant .reserved client
    some (.granted lease, a)
  | .ok .burst =>
    let (lease, a) ← a.openServer tenant .burst client
    some (.granted lease, a)
  | .ok .revokeAndQueue =>
    match ← a.revoke with
    | (some (.closedIdle _ _), a) =>
      let (lease, a) ← a.openServer tenant .reserved client
      some (.granted lease, a)
    | (revoked, a) =>
      let (admission, a) ← a.enqueue tenant client now
      some (admission.withRevocation revoked, a)
  | .ok .queue => a.enqueue tenant client now

def tryLease (a : Allocator T) (client : ClientId) (kind : RequestKind) (now : Timestamp) :
    Option (Admission T × Allocator T) :=
  match a.clients.get? client with
  | none => some (.stale, a)
  | some tenant =>
    match kind with
    | .cancel => a.cancelBurst tenant client
    | .normal => do
        let rt ← a.tenants.get? tenant
        if rt.migrating then some (.denied (.migrationCutover tenant), a)
        else
          match ← a.reuseIdle tenant client with
          | (some lease, a) => some (.granted lease, a)
          | (none, a) => a.climb tenant client now

/-! ## The two-level scheduler -/

/-- A tenant with a queued client, as the scheduler sees it. -/
structure Waiting (T : Type) where
  id : T
  entry : TenantEntry
  seq : Nat

/-- Weighted burst fraction, ascending; a tenant without burst range sorts last. -/
def weightedFractionCmp (left right : TenantEntry) : Ordering :=
  let leftD := (left.burstable - left.guaranteed) * left.weight
  let rightD := (right.burstable - right.guaranteed) * right.weight
  match decide (leftD = 0), decide (rightD = 0) with
  | true, true => .eq
  | true, false => .gt
  | false, true => .lt
  | false, false => compare (left.surplus * rightD) (right.surplus * leftD)

def weightedDeficitCmp (left right : Waiting T) : Ordering :=
  (compare right.entry.deficit left.entry.deficit).then
    ((weightedFractionCmp left.entry right.entry).then
      ((compare right.entry.priority left.entry.priority).then
        ((compare left.seq right.seq).then (compare left.id right.id))))

def waiting (a : Allocator T) : List (Waiting T) :=
  a.tenants.entries.filterMap fun (id, rt) => do
    let head ← rt.queue.head?
    let entry ← a.budget.tenant id
    some { id := id, entry := entry, seq := head.seq }

/-- Tenants with a queued client, in the order the scheduler serves them. -/
def schedulerOrder (a : Allocator T) : Option (List T) :=
  if a.budget.free = 0 ∧ a.admission.strategy = .weightedDeficit then
    -- the comparator subtracts `burstable − guaranteed` on unsigned numbers
    if a.waiting.all fun w => w.entry.guaranteed ≤ w.entry.burstable then
      some ((a.waiting.insertionSort fun left right =>
        (weightedDeficitCmp left right).isLE = true).map (·.id))
    else none
  else some ((a.waiting.insertionSort fun left right => left.seq ≤ right.seq).map (·.id))

/-- Takes the granted ticket off the head of the tenant's queue. -/
def popTicket (a : Allocator T) (tenant : T) (lease : Lease T) :
    Option (Grant T × Allocator T) := do
  let rt ← a.tenants.get? tenant
  match rt.queue with
  | [] => none
  | ticket :: rest =>
    let queuedTotal ← checkedSub a.queuedTotal 1
    some ({ ticket := ticket.id, client := ticket.client, tenant := tenant, lease := lease },
      { a with
        tenants := a.tenants.insert tenant { rt with queue := rest }
        queuedTotal := queuedTotal })

/-- What the scheduler can give the head of a tenant's queue without revoking. -/
def serveHead (a : Allocator T) (tenant : T) (client : ClientId) :
    Option (Option (Lease T) × Allocator T) := do
  match ← a.reuseIdle tenant client with
  | (some lease, a) => some (some lease, a)
  | (none, a) =>
    match ← a.classify tenant with
    | .ok .reserved =>
      let (lease, a) ← a.openServer tenant .reserved client
      some (some lease, a)
    | .ok .burst =>
      let (lease, a) ← a.openServer tenant .burst client
      some (some lease, a)
    | _ => some (none, a)

/-- One pass of the drain loop over the scheduler's order: the first grant ends
it. -/
def drainRound : List T → Allocator T → Option (Option (Grant T) × Allocator T)
  | [], a => some (none, a)
  | tenant :: rest, a => do
      let rt ← a.tenants.get? tenant
      if rt.migrating then drainRound rest a
      else
        let head ← rt.queue.head?
        match ← a.serveHead tenant head.client with
        | (some lease, a) =>
          let (grant, a) ← a.popTicket tenant lease
          some (some grant, a)
        | (none, a) => drainRound rest a

def drainLoop : Nat → Allocator T → Option (List (Grant T) × Allocator T)
  | 0, _ => none
  | fuel + 1, a =>
    if a.queuedTotal = 0 then some ([], a)
    else do
      let order ← a.schedulerOrder
      match ← drainRound order a with
      | (none, a) => some ([], a)
      | (some grant, a) =>
        let (grants, a) ← drainLoop fuel a
        some (grant :: grants, a)

/-- Every pass but the last grants one ticket, so one pass more than there are
tickets is enough. -/
def drainQueue (a : Allocator T) : Option (List (Grant T) × Allocator T) :=
  drainLoop (a.queuedTotal + 1) a

/-! ## Release -/

def release (a : Allocator T) (lease : Lease T) : Option (ReleaseOutcome T × Allocator T) :=
  match a.servers.get? lease.server with
  | none => some ({ disposition := .stale, grants := [] }, a)
  | some conn =>
    if conn.epoch ≠ lease.epoch ∨ conn.state ≠ .active then
      some ({ disposition := .stale, grants := [] }, a)
    else if a.quorumLost ∧ conn.credit ≠ .cancel then
      some ({ disposition := .pinned lease, grants := [] }, a)
    else do
      let (disposition, a) ← a.retireActive lease.server
      let (grants, a) ← a.drainQueue
      some ({ disposition := disposition, grants := grants }, a)

def backendDied (a : Allocator T) (server : ServerId) :
    Option (List (Grant T) × Allocator T) := do
  let (_, a) ← a.closeServer server
  a.drainQueue

def setMaxWait (a : Allocator T) (maxWait : Nat) : Allocator T :=
  { a with admission := { a.admission with maxWait := maxWait } }

/-- A ticket whose wait has reached the limit. -/
def overdue (now maxWait : Nat) (ticket : Ticket T) : Bool :=
  !decide (now - ticket.enqueuedAt < maxWait)

def expireTicket (now : Timestamp) (tenant : T) (ticket : Ticket T) : Expired T :=
  { ticket := ticket.id
    client := ticket.client
    tenant := tenant
    reason := .admissionTimeout tenant (now - ticket.enqueuedAt)
    blockedBy := ticket.blockedBy }

/-- Takes the overdue tickets off the front of every queue. -/
def expireQueued (a : Allocator T) (now : Timestamp) :
    Option (List (Expired T) × Allocator T) := do
  let late := overdue now a.admission.maxWait
  let expired := a.tenants.entries.flatMap fun (tenant, rt) =>
    (rt.queue.takeWhile late).map (expireTicket now tenant)
  let queuedTotal ← checkedSub a.queuedTotal expired.length
  some (expired, { a with
    tenants := a.tenants.mapValues fun _ rt => { rt with queue := rt.queue.dropWhile late }
    queuedTotal := queuedTotal })

/-- Drops the tickets of a tenant's queue that fail a test and counts them out of
the total. -/
def retainTickets (a : Allocator T) (tenant : T) (rt : TenantRuntime T)
    (keep : Ticket T → Bool) : Option (Nat × Allocator T) := do
  let queue := rt.queue.filter keep
  let removed ← checkedSub rt.queue.length queue.length
  let queuedTotal ← checkedSub a.queuedTotal removed
  some (removed, { a with
    tenants := a.tenants.insert tenant { rt with queue := queue }
    queuedTotal := queuedTotal })

def cancelTicket (a : Allocator T) (tenant : T) (ticket : TicketId) :
    Option (Bool × Allocator T) :=
  match a.tenants.get? tenant with
  | none => some (false, a)
  | some rt => do
      let (removed, a) ← a.retainTickets tenant rt fun queued => queued.id ≠ ticket
      some (0 < removed, a)

def setQuorumLost (a : Allocator T) (lost : Bool) : Allocator T := { a with quorumLost := lost }

/-! ## Configuration, migration and storage -/

/-- Identifiers of the servers that satisfy a test, in key order. -/
def serversWhere (a : Allocator T) (test : ServerConn T → Bool) : List ServerId :=
  (a.servers.values.filter test).map (·.id)

def addTenant (a : Allocator T) (id : T) (spec : TenantSpec) :
    Except (ConfigError T) Unit × Allocator T :=
  match a.budget.insertTenant id spec with
  | .error e => (.error e, a)
  | .ok budget =>
    (.ok (), { a with budget := budget, tenants := a.tenants.insert id .default })

def setTenantSpec (a : Allocator T) (id : T) (spec : TenantSpec) :
    Option (Except (ConfigError T) (List (Grant T)) × Allocator T) := do
  match ← a.budget.updateTenant id spec with
  | .error e => some (.error e, a)
  | .ok budget =>
    let (grants, a) ← drainQueue { a with budget := budget }
    some (.ok grants, a)

def closeAll (a : Allocator T) (servers : List ServerId) : Option (Allocator T) :=
  servers.foldlM (fun a server => (a.closeServer server).map (·.2)) a

/-- Drops a tenant's clients and runtime; its servers are closed before. -/
def forgetTenant (a : Allocator T) (id : T) : Option (Allocator T) :=
  let clients := a.clients.filter fun _ tenant => tenant ≠ id
  match a.tenants.get? id with
  | none => some { a with clients := clients }
  | some rt => do
      let clientsLive ← checkedSub a.clientsLive rt.clients
      let queuedTotal ← checkedSub a.queuedTotal rt.queue.length
      some { a with
        clients := clients
        tenants := a.tenants.erase id
        clientsLive := clientsLive
        queuedTotal := queuedTotal }

def removeTenant (a : Allocator T) (id : T) :
    Option (Except (ConfigError T) (List (Grant T)) × Allocator T) :=
  if !a.budget.contains id then some (.error (.unknownTenant id), a)
  else do
    let a ← a.closeAll (a.serversWhere fun conn => conn.tenant = id)
    let a ← a.forgetTenant id
    match ← a.budget.removeTenant id with
    | .error e => some (.error e, a)
    | .ok (_, budget) =>
      let (grants, a) ← drainQueue { a with budget := budget }
      some (.ok grants, a)

def setPoolSpec (a : Allocator T) (spec : PoolSpec) :
    Option (Except (ConfigError T) (List (Grant T)) × Allocator T) :=
  match a.budget.setPoolSpec spec with
  | .error e => some (.error e, a)
  | .ok budget => do
      let (grants, a) ← drainQueue { a with budget := budget }
      some (.ok grants, a)

/-- First element with the least key. -/
def minByKey (key : ServerConn T → Nat) : List (ServerConn T) → Option (ServerConn T)
  | [] => none
  | conn :: rest =>
    match minByKey key rest with
    | none => some conn
    | some best => if key best < key conn then some best else some conn

/-- The closing loop of `drain_to`: idle servers, least recently used first. -/
def closeIdle (target : Nat) : Nat → Allocator T → Option (Allocator T)
  | 0, _ => none
  | fuel + 1, a =>
    if a.budget.liveTotal ≤ target then some a
    else
      match minByKey (·.seq) (a.servers.values.filter fun conn => conn.state = .idle) with
      | none => some a
      | some conn => do
          let (_, a) ← a.closeServer conn.id
          closeIdle target fuel a

def markAll (a : Allocator T) (servers : List ServerId) : Option (Allocator T) :=
  servers.foldlM (fun a server => (a.markCloseNeeded server).map (·.2)) a

/-- The servers `drain_to` marks: active, not yet marked, not a cancel, least
recently used first. -/
def unmarked (a : Allocator T) : List ServerKey :=
  ((a.servers.values.filter fun conn =>
      conn.credit ≠ .cancel && conn.state = .active && !conn.closeNeeded).map
    fun conn => serverKey conn.seq conn.id).insertionSort (· ≤ ·)

/-- Prepares a scale-down: closes idle servers and marks the rest, and reports
how many are still above the target. -/
def drainTo (a : Allocator T) (target : Nat) : Option (Nat × Allocator T) := do
  let a ← closeIdle target (a.servers.entries.length + 1) a
  let excess := a.budget.liveTotal - target
  let a ← a.markAll ((a.unmarked.take excess).map ServerKey.server)
  some (excess, a)

def beginMigration (a : Allocator T) (tenant : T) :
    Option (Except (ConfigError T) Unit × Allocator T) :=
  match a.tenants.get? tenant with
  | none => some (.error (.unknownTenant tenant), a)
  | some rt => do
      let a := { a with tenants := a.tenants.insert tenant { rt with migrating := true } }
      let a ← a.markAll (a.serversWhere fun conn => conn.tenant = tenant)
      some (.ok (), a)

def finishMigration (a : Allocator T) (tenant : T) :
    Option (Except (ConfigError T) (List (Grant T)) × Allocator T) :=
  match a.tenants.get? tenant with
  | none => some (.error (.unknownTenant tenant), a)
  | some rt => do
      let (grants, a) ←
        drainQueue { a with tenants := a.tenants.insert tenant { rt with migrating := false } }
      some (.ok grants, a)

def setStorageUsed (a : Allocator T) (tenant : T) (bytes : Nat) :
    Except (ConfigError T) Unit × Allocator T :=
  match a.tenants.get? tenant with
  | none => (.error (.unknownTenant tenant), a)
  | some rt =>
    (.ok (), { a with tenants := a.tenants.insert tenant { rt with storageUsed := bytes } })

/-- The write path's gate. -/
def checkStorage (a : Allocator T) (tenant : T) (additional : Nat) :
    Option (Except (DenialReason T) Unit) :=
  match a.budget.tenant tenant with
  | none => some (.ok ())
  | some entry => do
      let rt ← a.tenants.get? tenant
      let used := min (rt.storageUsed + additional) (2 ^ 64 - 1)
      let quota := entry.spec.storageBytes
      if quota < used then some (.error (.storageQuota tenant used quota))
      else some (.ok ())

/-! ## Client connections -/

def connectClient (a : Allocator T) (tenant : T) :
    Option (Except (ConnectRejection T) ClientId × Allocator T) :=
  match a.budget.tenant tenant with
  | none => some (.error (.unknownTenant tenant), a)
  | some entry =>
    let tenantMax := entry.spec.effectiveMaxClientConnections a.budget.spec.mode
    let poolMax := a.budget.spec.effectiveMaxClientConnections
    if poolMax ≤ a.clientsLive then
      some (.error (.denied (.poolClientCap a.clientsLive poolMax)), a)
    else do
      let rt ← a.tenants.get? tenant
      if tenantMax ≤ rt.clients then
        some (.error (.denied (.tenantClientCap tenant rt.clients tenantMax)), a)
      else
        some (.ok a.nextClient, { a with
          tenants := a.tenants.insert tenant { rt with clients := rt.clients + 1 }
          clientsLive := a.clientsLive + 1
          nextClient := a.nextClient + 1
          clients := a.clients.insert a.nextClient tenant })

def retireAll (a : Allocator T) (servers : List ServerId) : Option (Allocator T) :=
  servers.foldlM (fun a server => (a.retireActive server).map (·.2)) a

/-- Forgets a client: its place in the tables and its tickets. -/
def dropClient (a : Allocator T) (client : ClientId) (tenant : T) : Option (Allocator T) := do
  let a := { a with clients := a.clients.erase client }
  let a ← match a.tenants.get? tenant with
    | none => some a
    | some rt => do
        let clients ← checkedSub rt.clients 1
        let (_, a) ← a.retainTickets tenant { rt with clients := clients }
          fun ticket => ticket.client ≠ client
        some a
  let clientsLive ← checkedSub a.clientsLive 1
  some { a with clientsLive := clientsLive }

def disconnectClient (a : Allocator T) (client : ClientId) :
    Option (List (Grant T) × Allocator T) :=
  match a.clients.get? client with
  | none => some ([], a)
  | some tenant => do
      let a ← a.dropClient client tenant
      let a ← a.retireAll
        (a.serversWhere fun conn => conn.client = some client && conn.state = .active)
      a.drainQueue

/-! ## Public operations -/

/-- The public operations that can change or interrogate the allocator, with
their arguments and the clock reading they take. -/
inductive Op (T : Type)
  | addTenant (id : T) (spec : TenantSpec)
  | setTenantSpec (id : T) (spec : TenantSpec)
  | removeTenant (id : T)
  | setPoolSpec (spec : PoolSpec)
  | drainTo (target : Nat)
  | connectClient (tenant : T)
  | disconnectClient (client : ClientId)
  | tryLease (client : ClientId) (kind : RequestKind) (now : Timestamp)
  | release (lease : Lease T)
  | backendDied (server : ServerId)
  | setMaxWait (maxWait : Nat)
  | expireQueued (now : Timestamp)
  | cancelTicket (tenant : T) (ticket : TicketId)
  | setQuorumLost (lost : Bool)
  | beginMigration (tenant : T)
  | finishMigration (tenant : T)
  | setStorageUsed (tenant : T) (bytes : Nat)
  | checkStorage (tenant : T) (additional : Nat)
  deriving DecidableEq, Repr

/-- What an operation returns. -/
inductive Outcome (T : Type)
  | configured (result : Except (ConfigError T) Unit)
  | reconfigured (result : Except (ConfigError T) (List (Grant T)))
  | drained (excess : Nat)
  | connected (result : Except (ConnectRejection T) ClientId)
  | admitted (admission : Admission T)
  | released (outcome : ReleaseOutcome T)
  | granted (grants : List (Grant T))
  | expired (tickets : List (Expired T))
  | cancelled (removed : Bool)
  | storage (result : Except (DenialReason T) Unit)
  | done

/-- Files the result of an operation under its outcome. -/
def report {R : Type} (wrap : R → Outcome T) (result : Option (R × Allocator T)) :
    Option (Outcome T × Allocator T) :=
  result.map fun answer => (wrap answer.1, answer.2)

lemma report_eq {R : Type} {wrap : R → Outcome T} {result : Option (R × Allocator T)} {r : R}
    {a : Allocator T} (h : result = some (r, a)) : report wrap result = some (wrap r, a) := by
  rw [h, report, Option.map_some]

/-- One public operation; `none` is a panic. -/
def apply (a : Allocator T) : Op T → Option (Outcome T × Allocator T)
  | .addTenant id spec => report .configured (some (a.addTenant id spec))
  | .setTenantSpec id spec => report .reconfigured (a.setTenantSpec id spec)
  | .removeTenant id => report .reconfigured (a.removeTenant id)
  | .setPoolSpec spec => report .reconfigured (a.setPoolSpec spec)
  | .drainTo target => report .drained (a.drainTo target)
  | .connectClient tenant => report .connected (a.connectClient tenant)
  | .disconnectClient client => report .granted (a.disconnectClient client)
  | .tryLease client kind now => report .admitted (a.tryLease client kind now)
  | .release lease => report .released (a.release lease)
  | .backendDied server => report .granted (a.backendDied server)
  | .setMaxWait maxWait => some (.done, a.setMaxWait maxWait)
  | .expireQueued now => report .expired (a.expireQueued now)
  | .cancelTicket tenant ticket => report .cancelled (a.cancelTicket tenant ticket)
  | .setQuorumLost lost => some (.done, a.setQuorumLost lost)
  | .beginMigration tenant => report .configured (a.beginMigration tenant)
  | .finishMigration tenant => report .reconfigured (a.finishMigration tenant)
  | .setStorageUsed tenant bytes => report .configured (some (a.setStorageUsed tenant bytes))
  | .checkStorage tenant additional =>
    (a.checkStorage tenant additional).map fun result => (.storage result, a)

/-- The state after one public operation. -/
def next (a : Allocator T) (op : Op T) : Option (Allocator T) := (a.apply op).map (·.2)

/-- The runs of an allocator: a fresh one for a valid envelope, then public
operations with any arguments. -/
def system (pool : PoolSpec) (admission : AdmissionSpec) :
    System (Allocator T) (Op T) where
  init := fun a => withClock pool admission = .ok a
  step := fun a op a' => a.next op = some a'

end Allocator
end PgElastic.Capacity
