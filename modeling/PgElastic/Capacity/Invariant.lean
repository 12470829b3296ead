import PgElastic.Capacity.Allocator

/-!
# The allocator's ledger

`Allocator.Consistent` says that every incrementally maintained number and index
of the allocator is what it summarises.  Two lemmas carry almost all the
bookkeeping of this development:

* `Consistent.touchServer`: one server is created, changed or closed, together
  with the row of the tenant that owns it;
* `Consistent.touchRow`: one tenant's queue or flags change and no server does.

Each primitive of the source (`reuse_idle`, `open_server`, `close_server`,
`mark_close_needed`, `retire_active` and the queue edits) has one specification
lemma here, which says that it does not panic, what it changes, and that it keeps
the ledger.
-/

namespace PgElastic.Capacity

open Library Option OrderedMap OrderedSet CapacityBudget TenantRuntime ServerConn

variable {T : Type} [LinearOrder T]

@[simp] lemma serverKey_inj {seq seq' : Nat} {server server' : ServerId} :
    serverKey seq server = serverKey seq' server' ↔ seq = seq' ∧ server = server' := by
  simp [serverKey]

@[simp] lemma server_serverKey (seq : Nat) (server : ServerId) :
    (serverKey seq server).server = server := rfl

lemma exists_serverKey (key : ServerKey) : ∃ seq, key = serverKey seq key.server :=
  ⟨(ofLex key).1, rfl⟩

/-- Number of servers that satisfy a test. -/
def countServers (servers : OrderedMap ServerId (ServerConn T)) (test : ServerConn T → Bool) :
    Nat :=
  sumOf (fun _ conn => if test conn then 1 else 0) servers

/-- A server counted in its tenant's `live`. -/
def ServerConn.liveOf (tenant : T) (conn : ServerConn T) : Bool :=
  conn.tenant = tenant && conn.credit ≠ .cancel

/-- A server counted in its tenant's `cancel_live`. -/
def ServerConn.cancelOf (tenant : T) (conn : ServerConn T) : Bool :=
  conn.tenant = tenant && conn.credit = .cancel

/-- A server counted in its tenant's `marked`. -/
def ServerConn.markedOf (tenant : T) (conn : ServerConn T) : Bool :=
  conn.tenant = tenant && conn.closeNeeded

variable {tenant : T} {conn : ServerConn T} {servers : OrderedMap ServerId (ServerConn T)}
  {rt : TenantRuntime T} {id : ServerId} {new : Option (ServerConn T)}
  {index : OrderedSet ServerKey} {state : ServerState}

lemma ServerConn.liveOf_iff :
    conn.liveOf tenant ↔ conn.tenant = tenant ∧ conn.credit ≠ .cancel := by
  simp [liveOf]

lemma ServerConn.cancelOf_iff :
    conn.cancelOf tenant ↔ conn.tenant = tenant ∧ conn.credit = .cancel := by
  simp [cancelOf]

lemma ServerConn.markedOf_iff : conn.markedOf tenant ↔ conn.tenant = tenant ∧ conn.closeNeeded := by
  simp [markedOf]

/-- The contribution of an optional server to a count. -/
def indicator (test : ServerConn T → Bool) (conn : Option (ServerConn T)) : Nat :=
  conn.elim 0 fun conn => if test conn then 1 else 0

omit [LinearOrder T] in
lemma countServers_assign (servers : OrderedMap ServerId (ServerConn T))
    (test : ServerConn T → Bool) (id : ServerId) (new : Option (ServerConn T)) :
    countServers (servers.assign id new) test + indicator test (servers.get? id) =
      countServers servers test + indicator test new :=
  sumOf_assign _ servers id new

/-- Number of client connections of a tenant. -/
def ownerCount (clients : OrderedMap ClientId T) (tenant : T) : Nat :=
  sumOf (fun _ owner => if owner = tenant then 1 else 0) clients

/-- An index holds exactly the servers of a tenant in one state, under their
sequence numbers. -/
def Indexes (index : OrderedSet ServerKey) (servers : OrderedMap ServerId (ServerConn T))
    (tenant : T) (state : ServerState) : Prop :=
  ∀ seq server, serverKey seq server ∈ index ↔
    ∃ conn, servers.get? server = some conn ∧ conn.tenant = tenant ∧ conn.state = state ∧
      conn.seq = seq

/-- One tenant's counters and indexes agree with the server and client tables. -/
structure RowConsistent (servers : OrderedMap ServerId (ServerConn T))
    (clients : OrderedMap ClientId T) (tenant : T) (live : Nat) (rt : TenantRuntime T) :
    Prop where
  live : live = countServers servers (ServerConn.liveOf tenant)
  cancelLive : rt.cancelLive = countServers servers (ServerConn.cancelOf tenant)
  marked : rt.marked = countServers servers (ServerConn.markedOf tenant)
  idle : Indexes rt.idle servers tenant .idle
  active : Indexes rt.active servers tenant .active
  clients : rt.clients = ownerCount clients tenant

variable {clients : OrderedMap ClientId T}

/-- A server of another tenant does not matter to a row. -/
lemma RowConsistent.other {live : Nat} (h : RowConsistent servers clients tenant live rt)
    (hold : ∀ conn, servers.get? id = some conn → conn.tenant ≠ tenant)
    (hnew : ∀ conn, new = some conn → conn.tenant ≠ tenant) :
    RowConsistent (servers.assign id new) clients tenant live rt := by
  have hcount (test : ServerConn T → Bool) : (∀ conn, test conn → conn.tenant = tenant) →
      countServers (servers.assign id new) test = countServers servers test := by
    intro htest
    have hbalance := countServers_assign servers test id new
    have hzero : ∀ conn : Option (ServerConn T),
        (∀ c, conn = some c → c.tenant ≠ tenant) → indicator test conn = 0 := by
      intro conn hconn
      cases conn with
      | none => rfl
      | some c =>
        have hfalse : test c = false := by
          cases hc : test c with
          | false => rfl
          | true => exact absurd (htest c hc) (hconn c rfl)
        simp [indicator, hfalse]
    rw [hzero _ hold, hzero _ hnew] at hbalance
    exact hbalance
  have hindex {index : OrderedSet ServerKey} {state : ServerState} :
      Indexes index servers tenant state → Indexes index (servers.assign id new) tenant state := by
    intro hindexed seq server
    rw [hindexed seq server, get?_assign]
    by_cases hserver : server = id
    · subst hserver
      simp only [if_true]
      constructor
      · rintro ⟨conn, hconn, htenant, -⟩
        exact absurd htenant (hold conn hconn)
      · rintro ⟨conn, hconn, htenant, -⟩
        exact absurd htenant (hnew conn hconn)
    · simp only [if_neg hserver]
  refine ⟨?_, ?_, ?_, hindex h.idle, hindex h.active, h.clients⟩
  · rw [hcount _ fun conn hconn => (liveOf_iff.mp hconn).1, h.live]
  · rw [hcount _ fun conn hconn => (cancelOf_iff.mp hconn).1, h.cancelLive]
  · rw [hcount _ fun conn hconn => (markedOf_iff.mp hconn).1, h.marked]

omit [LinearOrder T] in
/-- The new content of an index after one server changed. -/
lemma Indexes.assign {index' : OrderedSet ServerKey} (h : Indexes index servers tenant state)
    (hother : ∀ seq server, server ≠ id →
      (serverKey seq server ∈ index' ↔ serverKey seq server ∈ index))
    (hself : ∀ seq, serverKey seq id ∈ index' ↔
      ∃ conn, new = some conn ∧ conn.tenant = tenant ∧ conn.state = state ∧ conn.seq = seq) :
    Indexes index' (servers.assign id new) tenant state := by
  intro seq server
  rw [get?_assign]
  by_cases hserver : server = id
  · subst hserver
    simpa only [if_true] using hself seq
  · simp only [if_neg hserver]
    rw [hother seq server hserver]
    exact h seq server

omit [LinearOrder T] in
/-- Erasing a server's own key leaves no trace of the server in an index. -/
lemma Indexes.not_mem_unindexed (h : Indexes index servers tenant state)
    (hconn : servers.get? id = some conn) (seq : Nat) :
    serverKey seq id ∉
      (if conn.state = state then index.erase (serverKey conn.seq id) else index) := by
  intro hmem
  split at hmem
  · rw [mem_erase] at hmem
    obtain ⟨hne, hmem⟩ := hmem
    obtain ⟨other, hother, -, -, hseq⟩ := (h seq id).mp hmem
    rw [hconn] at hother
    cases hother
    exact hne (by rw [hseq])
  · rename_i hstate
    obtain ⟨other, hother, -, hother', -⟩ := (h seq id).mp hmem
    rw [hconn] at hother
    cases hother
    exact hstate hother'

omit [LinearOrder T] in
/-- A server leaves the index of a state with its own key. -/
lemma Indexes.leave (h : Indexes index servers tenant state)
    (hconn : servers.get? id = some conn) (new : Option (ServerConn T))
    (hnew : ∀ found, new = some found → found.state ≠ state) :
    Indexes (if conn.state = state then index.erase (serverKey conn.seq id) else index)
      (servers.assign id new) tenant state := by
  apply h.assign
  · intro seq server hne
    split
    · rw [mem_erase, ne_eq, serverKey_inj]
      exact ⟨fun h => h.2, fun h => ⟨fun heq => hne heq.2, h⟩⟩
    · exact Iff.rfl
  · intro seq
    simp only [h.not_mem_unindexed hconn seq, false_iff]
    rintro ⟨found, hfound, -, hstate, -⟩
    exact hnew found hfound hstate

omit [LinearOrder T] in
/-- A server that was not in a state joins the index of that state under its new key. -/
lemma Indexes.join (h : Indexes index servers tenant state) (new : ServerConn T)
    (hnot : ∀ conn, servers.get? id = some conn → conn.state ≠ state)
    (htenant : new.tenant = tenant) (hstate : new.state = state) :
    Indexes (index.insert (serverKey new.seq id)) (servers.assign id (some new)) tenant
      state := by
  apply h.assign
  · intro seq server hne
    rw [mem_insert, serverKey_inj]
    exact ⟨fun h => h.resolve_left fun heq => hne heq.2, .inr⟩
  intro seq
  rw [mem_insert, serverKey_inj]
  constructor
  · rintro (⟨hseq, -⟩ | hmem)
    · exact ⟨new, rfl, htenant, hstate, hseq.symm⟩
    · obtain ⟨conn, hconn, -, hstate, -⟩ := (h seq id).mp hmem
      exact absurd hstate (hnot conn hconn)
  · rintro ⟨found, hfound, -, -, hseq⟩
    cases hfound
    exact .inl ⟨hseq.symm, rfl⟩

/-- The owner's row after one of its servers changed: each counter moves by the
server's own contribution. -/
lemma RowConsistent.change {live live' : Nat}
    {rt' : TenantRuntime T} (h : RowConsistent servers clients tenant live rt)
    (hlive : live' + indicator (ServerConn.liveOf tenant) (servers.get? id) =
      live + indicator (ServerConn.liveOf tenant) new)
    (hcancel : rt'.cancelLive + indicator (ServerConn.cancelOf tenant) (servers.get? id) =
      rt.cancelLive + indicator (ServerConn.cancelOf tenant) new)
    (hmarked : rt'.marked + indicator (ServerConn.markedOf tenant) (servers.get? id) =
      rt.marked + indicator (ServerConn.markedOf tenant) new)
    (hidle : Indexes rt'.idle (servers.assign id new) tenant .idle)
    (hactive : Indexes rt'.active (servers.assign id new) tenant .active)
    (hclients : rt'.clients = rt.clients) :
    RowConsistent (servers.assign id new) clients tenant live' rt' := by
  have h1 := countServers_assign servers (ServerConn.liveOf tenant) id new
  have h2 := countServers_assign servers (ServerConn.cancelOf tenant) id new
  have h3 := countServers_assign servers (ServerConn.markedOf tenant) id new
  rw [← h.live] at h1
  rw [← h.cancelLive] at h2
  rw [← h.marked] at h3
  refine ⟨?_, ?_, ?_, hidle, hactive, hclients ▸ h.clients⟩
  · omega
  · omega
  · omega

omit [LinearOrder T] in
/-- Where neither the state nor the key of a server changes, the indexes stay as
they are. -/
lemma Indexes.assign_same (h : Indexes index servers tenant state) {new : ServerConn T}
    (hconn : servers.get? id = some conn) (htenant : new.tenant = conn.tenant)
    (hstate : new.state = conn.state) (hseq : new.seq = conn.seq) :
    Indexes index (servers.assign id (some new)) tenant state := by
  apply h.assign
  · intro seq server _
    exact Iff.rfl
  · intro seq
    rw [h seq id, hconn]
    simp [htenant, hstate, hseq]

omit [LinearOrder T] in
/-- What a server that leaves takes out of its owner's row. -/
lemma TenantRuntime.leave_eq_some {rt' : TenantRuntime T} (h : rt.leave id conn = some rt') :
    rt'.cancelLive + (if conn.credit = .cancel then 1 else 0) = rt.cancelLive ∧
      rt'.marked + (if conn.closeNeeded then 1 else 0) = rt.marked ∧
      rt'.idle = (if conn.state = .idle then rt.idle.erase (serverKey conn.seq id) else rt.idle) ∧
      rt'.active =
        (if conn.state = .active then rt.active.erase (serverKey conn.seq id) else rt.active) ∧
      rt'.queue = rt.queue ∧ rt'.clients = rt.clients ∧ rt'.migrating = rt.migrating := by
  simp only [TenantRuntime.leave, bind_eq_bind, bind_eq_some_iff,
    decrementIf_eq_some, decide_eq_true_eq] at h
  obtain ⟨cancelLive, hcancel, marked, hmarked, h⟩ := h
  cases h
  exact ⟨hcancel, hmarked, rfl, rfl, rfl, rfl, rfl⟩

omit [LinearOrder T] in
/-- A server that is counted in its owner's row can leave it. -/
lemma TenantRuntime.exists_leave (hcancel : conn.credit = .cancel → 1 ≤ rt.cancelLive)
    (hmarked : conn.closeNeeded → 1 ≤ rt.marked) : ∃ rt', rt.leave id conn = some rt' := by
  have hfirst : decrementIf (conn.credit = .cancel) rt.cancelLive =
      some (rt.cancelLive - (if conn.credit = .cancel then 1 else 0)) := by
    rw [decrementIf_eq_some]
    simp only [decide_eq_true_eq]
    split
    · rename_i hcredit
      have := hcancel hcredit
      omega
    · rfl
  have hsecond : decrementIf conn.closeNeeded rt.marked =
      some (rt.marked - (if conn.closeNeeded then 1 else 0)) := by
    rw [decrementIf_eq_some]
    split
    · rename_i hneeded
      have := hmarked hneeded
      omega
    · rfl
  unfold TenantRuntime.leave
  rw [hfirst, hsecond]
  exact ⟨_, rfl⟩

namespace Allocator

/-- The state after `reuse_idle` handed out an idle server. -/
def checkedOut (a : Allocator T) (t : T) (rt : TenantRuntime T) (key : ServerKey)
    (conn : ServerConn T) (client : ClientId) : Allocator T :=
  { a with
    seq := a.seq + 1
    tenants := a.tenants.insert t (rt.checkOut key (a.seq + 1))
    servers := a.servers.insert key.server (conn.checkOut client (a.seq + 1)) }

/-- The state after `open_server`, given the new ledger. -/
def opened (a : Allocator T) (t : T) (rt : TenantRuntime T) (credit : CreditKind)
    (client : ClientId) (budget : CapacityBudget T) : Allocator T :=
  { a with
    seq := a.seq + 1
    budget := budget
    tenants := a.tenants.insert t (rt.enter (serverKey (a.seq + 1) a.nextServer) credit)
    servers := a.servers.insert a.nextServer
      (ServerConn.new a.nextServer t credit client (a.seq + 1))
    nextServer := a.nextServer + 1
    created := a.created + 1 }

/-- The state after `close_server`, given the owner's new row and the new ledger. -/
def shut (a : Allocator T) (id : ServerId) (t : T) (rt : TenantRuntime T)
    (budget : CapacityBudget T) : Allocator T :=
  { a with
    budget := budget
    tenants := a.tenants.insert t rt
    servers := a.servers.erase id
    closed := a.closed + 1 }

/-- The state after `mark_close_needed` flagged a server. -/
def flagged (a : Allocator T) (id : ServerId) (conn : ServerConn T) (rt : TenantRuntime T) :
    Allocator T :=
  { a with
    servers := a.servers.insert id { conn with closeNeeded := true }
    tenants := a.tenants.insert conn.tenant { rt with marked := rt.marked + 1 } }

/-- The state after `retire_active` parked a server. -/
def checkedIn (a : Allocator T) (id : ServerId) (conn : ServerConn T) (rt : TenantRuntime T) :
    Allocator T :=
  { a with
    seq := a.seq + 1
    servers := a.servers.insert id (conn.checkIn (a.seq + 1))
    tenants := a.tenants.insert conn.tenant (rt.checkIn (serverKey conn.seq id) (a.seq + 1)) }

/-- Every incrementally maintained count and index is what it summarises. -/
structure Consistent (a : Allocator T) : Prop where
  budget : a.budget.Consistent
  bound : ∀ t, (a.tenants.get? t).isSome = (a.budget.tenants.get? t).isSome
  row : ∀ t rt entry, a.tenants.get? t = some rt → a.budget.tenants.get? t = some entry →
    RowConsistent a.servers a.clients t entry.live rt
  server : ∀ id conn, a.servers.get? id = some conn →
    conn.id = id ∧ id < a.nextServer ∧ (a.tenants.get? conn.tenant).isSome ∧
      (conn.credit = .cancel → conn.state = .active)
  client : ∀ c t, a.clients.get? c = some t → c < a.nextClient ∧ (a.tenants.get? t).isSome
  clientsLive : a.clientsLive = sumOf (fun _ rt => rt.clients) a.tenants
  queuedTotal : a.queuedTotal = sumOf (fun _ rt => rt.queue.length) a.tenants
  created : a.created = a.closed + sumOf (fun _ _ => 1) a.servers

variable {a a' : Allocator T} {t : T} {rt rt' : TenantRuntime T} {entry : TenantEntry}
  {id : ServerId} {conn : ServerConn T}

section

variable (hc : a.Consistent)
include hc

/-- Both rows of a bound tenant. -/
lemma Consistent.rows (h : a.tenants.get? t = some rt) :
    ∃ entry, a.budget.tenants.get? t = some entry ∧
      RowConsistent a.servers a.clients t entry.live rt := by
  have hbound := hc.bound t
  rw [h, isSome_some] at hbound
  obtain ⟨entry, hentry⟩ := isSome_iff_exists.mp hbound.symm
  exact ⟨entry, hentry, hc.row t rt entry h hentry⟩

lemma Consistent.runtime (h : a.budget.tenants.get? t = some entry) :
    ∃ rt, a.tenants.get? t = some rt := by
  have hbound := hc.bound t
  rw [h, isSome_some] at hbound
  exact isSome_iff_exists.mp hbound

/-- The rows of the tenant that owns a server. -/
lemma Consistent.owner (h : a.servers.get? id = some conn) :
    ∃ rt entry, a.tenants.get? conn.tenant = some rt ∧
      a.budget.tenants.get? conn.tenant = some entry ∧
      RowConsistent a.servers a.clients conn.tenant entry.live rt := by
  obtain ⟨rt, hrt⟩ := isSome_iff_exists.mp (hc.server id conn h).2.2.1
  obtain ⟨entry, hentry, hrow⟩ := hc.rows hrt
  exact ⟨rt, entry, hrt, hentry, hrow⟩

/-- One server is created, changed or closed, together with its owner's row. -/
lemma Consistent.touchServer (entry' : TenantEntry) (id : ServerId) (new : Option (ServerConn T))
    (hrt : a.tenants.get? t = some rt) (htenants : a'.tenants = a.tenants.insert t rt')
    (hservers : a'.servers = a.servers.assign id new)
    (hclients : a'.clients = a.clients ∧ a'.nextClient = a.nextClient ∧
      a'.clientsLive = a.clientsLive ∧ rt'.clients = rt.clients)
    (hqueue : a'.queuedTotal = a.queuedTotal ∧ rt'.queue = rt.queue)
    (hbudget : a'.budget.Consistent) (hentries : ∀ t', a'.budget.tenants.get? t' =
      if t' = t then some entry' else a.budget.tenants.get? t')
    (hold : ∀ conn, a.servers.get? id = some conn → conn.tenant = t)
    (hnew : ∀ conn, new = some conn → conn.id = id ∧ conn.tenant = t ∧ id < a'.nextServer ∧
      (conn.credit = .cancel → conn.state = .active)) (hnext : a.nextServer ≤ a'.nextServer)
    (hrow : RowConsistent (a.servers.assign id new) a.clients t entry'.live rt')
    (hcreated : a'.created + a.closed + (a.servers.get? id).elim 0 (fun _ => 1) =
      a.created + a'.closed + new.elim 0 (fun _ => 1)) :
    a'.Consistent := by
  have hsome t' : (a'.tenants.get? t').isSome = (a.tenants.get? t').isSome := by
    rw [htenants, get?_insert]
    by_cases ht' : t' = t
    · simp [ht', hrt]
    · simp [ht']
  refine ⟨hbudget, ?_, ?_, ?_, ?_, ?_, ?_, ?_⟩
  · intro t'
    rw [hsome, hc.bound t', hentries t']
    by_cases ht' : t' = t
    · subst ht'
      rw [← hc.bound t', hrt]
      simp
    · simp [ht']
  · intro t' rt1 entry1 hrt1 hentry1
    rw [htenants, get?_insert] at hrt1
    rw [hentries] at hentry1
    rw [hservers, hclients.1]
    by_cases ht' : t' = t
    · subst ht'
      simp only [if_true, some.injEq] at hrt1 hentry1
      subst hrt1 hentry1
      exact hrow
    simp only [if_neg ht'] at hrt1 hentry1
    apply (hc.row t' rt1 entry1 hrt1 hentry1).other
    · intro conn hconn
      rw [hold conn hconn]
      exact Ne.symm ht'
    · intro conn hconn
      rw [(hnew conn hconn).2.1]
      exact Ne.symm ht'
  · intro id' conn hconn
    rw [hservers, get?_assign] at hconn
    rw [hsome]
    by_cases hid : id' = id
    · subst hid
      simp only [if_true] at hconn
      obtain ⟨h1, h2, h3, h4⟩ := hnew conn hconn
      refine ⟨h1, h3, ?_, h4⟩
      rw [h2, hrt, isSome_some]
    · simp only [if_neg hid] at hconn
      obtain ⟨h1, h2, h3, h4⟩ := hc.server id' conn hconn
      exact ⟨h1, lt_of_lt_of_le h2 hnext, h3, h4⟩
  · intro c t' hclient
    rw [hclients.1] at hclient
    rw [hclients.2.1, hsome]
    exact hc.client c t' hclient
  · have hsum := sumOf_insert (fun _ row => TenantRuntime.clients row) a.tenants t rt'
    simp only [hrt, elim_some] at hsum
    have hlive := hc.clientsLive
    rw [htenants, hclients.2.2.1]
    omega
  · have hsum := sumOf_insert (fun _ row => (TenantRuntime.queue row).length) a.tenants t rt'
    simp only [hrt, elim_some, hqueue.2] at hsum
    have hqueued := hc.queuedTotal
    rw [htenants, hqueue.1]
    omega
  · have hsum := sumOf_assign (fun _ _ => 1) a.servers id new
    have hcount := hc.created
    rw [hservers]
    omega

/-- One server is changed in place, together with its owner's row; the budget is not. -/
lemma Consistent.changeServer (seq : Nat) {new : ServerConn T}
    (hconn : a.servers.get? id = some conn) (hrt : a.tenants.get? conn.tenant = some rt)
    (hnew : new.id = conn.id ∧ new.tenant = conn.tenant ∧ new.credit = conn.credit)
    (hcancel : new.credit = .cancel → new.state = .active)
    (hsame : rt'.cancelLive = rt.cancelLive ∧ rt'.clients = rt.clients ∧ rt'.queue = rt.queue)
    (hmarked : rt'.marked + (if conn.closeNeeded then 1 else 0) =
      rt.marked + if new.closeNeeded then 1 else 0)
    (hidle : Indexes rt'.idle (a.servers.assign id (some new)) conn.tenant .idle)
    (hactive : Indexes rt'.active (a.servers.assign id (some new)) conn.tenant .active) :
    Consistent { a with
      seq := seq
      tenants := a.tenants.insert conn.tenant rt'
      servers := a.servers.insert id new } := by
  obtain ⟨entry, hentry, hrow⟩ := hc.rows hrt
  obtain ⟨hid, hlt, -, -⟩ := hc.server _ _ hconn
  obtain ⟨hnewId, htenant, hcredit⟩ := hnew
  obtain ⟨hcancelLive, hclients, hqueue⟩ := hsame
  refine hc.touchServer entry id (some new) hrt rfl rfl ⟨rfl, rfl, rfl, hclients⟩ ⟨rfl, hqueue⟩
    hc.budget ?_ ?_ ?_ le_rfl ?_ ?_
  · intro t'
    by_cases ht' : t' = conn.tenant
    · simp [ht', hentry]
    · simp [ht']
  · intro other hother
    rw [hconn, some.injEq] at hother
    rw [← hother]
  · intro other hother
    cases hother
    exact ⟨hnewId.trans hid, htenant, hlt, hcancel⟩
  · apply hrow.change
    · simp [hconn, indicator, ServerConn.liveOf, htenant, hcredit]
    · simp [hconn, indicator, ServerConn.cancelOf, htenant, hcredit, hcancelLive]
    · simpa [hconn, indicator, ServerConn.markedOf, htenant] using hmarked
    · exact hidle
    · exact hactive
    · exact hclients
  · simp [hconn]

/-- One tenant's queue, flags or clients change; its servers do not. -/
lemma Consistent.touchRow (hrt : a.tenants.get? t = some rt)
    (htenants : a'.tenants = a.tenants.insert t rt')
    (hsame : rt'.idle = rt.idle ∧ rt'.active = rt.active ∧ rt'.cancelLive = rt.cancelLive ∧
      rt'.marked = rt.marked)
    (hqueue : a'.queuedTotal + rt.queue.length = a.queuedTotal + rt'.queue.length)
    (hclients : rt'.clients = ownerCount a'.clients t ∧
      ∀ t', t' ≠ t → ownerCount a'.clients t' = ownerCount a.clients t')
    (hclient : ∀ c t', a'.clients.get? c = some t' → c < a'.nextClient ∧ (a.tenants.get? t').isSome)
    (hlive : a'.clientsLive + rt.clients = a.clientsLive + rt'.clients)
    (hrest : a'.budget = a.budget ∧ a'.servers = a.servers ∧
      a'.nextServer = a.nextServer ∧ a'.created = a.created ∧ a'.closed = a.closed) :
    a'.Consistent := by
  obtain ⟨hbudget, hservers, hnextServer, hcreated, hclosed⟩ := hrest
  obtain ⟨hidle, hactive, hcancel, hmarked⟩ := hsame
  have hsome t' : (a'.tenants.get? t').isSome = (a.tenants.get? t').isSome := by
    rw [htenants, get?_insert]
    by_cases ht' : t' = t
    · simp [ht', hrt]
    · simp [ht']
  constructor
  · rw [hbudget]
    exact hc.budget
  · intro t'
    rw [hsome, hbudget]
    exact hc.bound t'
  · intro t' rt1 entry1 hrt1 hentry1
    rw [htenants, get?_insert] at hrt1
    rw [hbudget] at hentry1
    rw [hservers]
    by_cases ht' : t' = t
    · subst ht'
      simp only [if_true] at hrt1
      cases hrt1
      have hrow := hc.row t' rt entry1 hrt hentry1
      exact ⟨hrow.live, hcancel ▸ hrow.cancelLive, hmarked ▸ hrow.marked, hidle ▸ hrow.idle,
        hactive ▸ hrow.active, hclients.1⟩
    · simp only [if_neg ht'] at hrt1
      have hrow := hc.row t' rt1 entry1 hrt1 hentry1
      refine ⟨hrow.live, hrow.cancelLive, hrow.marked, hrow.idle, hrow.active, ?_⟩
      rw [hclients.2 t' ht']
      exact hrow.clients
  · intro id conn hconn
    rw [hservers] at hconn
    rw [hsome, hnextServer]
    exact hc.server id conn hconn
  · intro c t' hc'
    rw [hsome]
    exact hclient c t' hc'
  · have hsum := sumOf_insert (fun _ row => TenantRuntime.clients row) a.tenants t rt'
    simp only [hrt, elim_some] at hsum
    have hcount := hc.clientsLive
    rw [htenants]
    omega
  · have hsum := sumOf_insert (fun _ row => (TenantRuntime.queue row).length) a.tenants t rt'
    simp only [hrt, elim_some] at hsum
    have hcount := hc.queuedTotal
    rw [htenants]
    omega
  · rw [hcreated, hclosed, hservers]
    exact hc.created

/-- One tenant's queue or flags change and nothing else. -/
lemma Consistent.touchQueue (hrt : a.tenants.get? t = some rt)
    (htenants : a'.tenants = a.tenants.insert t rt')
    (hsame : rt'.idle = rt.idle ∧ rt'.active = rt.active ∧ rt'.cancelLive = rt.cancelLive ∧
      rt'.marked = rt.marked)
    (hqueue : a'.queuedTotal + rt.queue.length = a.queuedTotal + rt'.queue.length)
    (hclients : rt'.clients = rt.clients ∧ a'.clients = a.clients ∧
      a'.nextClient = a.nextClient ∧ a'.clientsLive = a.clientsLive)
    (hrest : a'.budget = a.budget ∧ a'.servers = a.servers ∧
      a'.nextServer = a.nextServer ∧ a'.created = a.created ∧ a'.closed = a.closed) :
    a'.Consistent := by
  obtain ⟨hrtClients, hclients, hnextClient, hlive⟩ := hclients
  obtain ⟨entry, -, hrow⟩ := hc.rows hrt
  refine hc.touchRow hrt htenants hsame hqueue ⟨?_, ?_⟩ ?_ ?_ hrest
  · rw [hrtClients, hclients]
    exact hrow.clients
  · intro t' _
    rw [hclients]
  · intro c t' h
    rw [hclients] at h
    rw [hnextClient]
    exact hc.client c t' h
  · rw [hrtClients, hlive]

/-- Drawing a sequence number changes nothing the ledger speaks about. -/
lemma Consistent.tick (seq : Nat) : Consistent { a with seq := seq } :=
  ⟨hc.budget, hc.bound, hc.row, hc.server, hc.client, hc.clientsLive, hc.queuedTotal, hc.created⟩

/-- What the tenant's most recently used idle server is. -/
lemma Consistent.idle_last {key : ServerKey} (hrt : a.tenants.get? t = some rt)
    (hlast : rt.idle.last? = some key) :
    ∃ conn, a.servers.get? key.server = some conn ∧ conn.tenant = t ∧ conn.state = .idle ∧
      key = serverKey conn.seq key.server := by
  obtain ⟨entry, -, hrow⟩ := hc.rows hrt
  obtain ⟨seq, hkey⟩ := exists_serverKey key
  have hmem := mem_of_last? hlast
  rw [hkey] at hmem
  obtain ⟨conn, hconn, htenant, hstate, hseq⟩ := (hrow.idle seq key.server).mp hmem
  exact ⟨conn, hconn, htenant, hstate, by rw [hseq]; exact hkey⟩

/-- `reuse_idle` either finds nothing idle, or turns the most recently used idle
server active. -/
lemma reuseIdle_spec (t : T) (client : ClientId) :
    (a.reuseIdle t client = some (none, { a with seq := a.seq + 1 }) ∧
      ∀ rt, a.tenants.get? t = some rt → rt.idle.last? = none) ∨
    ∃ rt key conn, a.tenants.get? t = some rt ∧ rt.idle.last? = some key ∧
      a.servers.get? key.server = some conn ∧
      a.reuseIdle t client =
        some (some (conn.leaseTo t client (a.seq + 1)), a.checkedOut t rt key conn client) := by
  cases hrt : a.tenants.get? t with
  | none =>
    refine .inl ⟨?_, ?_⟩
    · simp only [reuseIdle, nextSeq, hrt]
    · intro rt h
      cases h
  | some rt =>
    cases hlast : rt.idle.last? with
    | none =>
      refine .inl ⟨?_, ?_⟩
      · simp only [reuseIdle, nextSeq, hrt, hlast]
      · intro rt' h
        cases h
        exact hlast
    | some key =>
      obtain ⟨conn, hconn, -, -, -⟩ := hc.idle_last hrt hlast
      refine .inr ⟨rt, key, conn, rfl, hlast, hconn, ?_⟩
      simp only [reuseIdle, nextSeq, hrt, hlast, hconn, bind_eq_bind, bind_some]
      rfl

lemma Consistent.checkedOut {key : ServerKey} (client : ClientId) (hrt : a.tenants.get? t = some rt)
    (hlast : rt.idle.last? = some key) (hconn : a.servers.get? key.server = some conn) :
    (a.checkedOut t rt key conn client).Consistent := by
  obtain ⟨found, hfound, rfl, hstate, hkey⟩ := hc.idle_last hrt hlast
  obtain rfl : found = conn := by
    rw [hconn, some.injEq] at hfound
    exact hfound.symm
  obtain ⟨entry, -, hrow⟩ := hc.rows hrt
  refine hc.changeServer (a.seq + 1) hconn hrt ⟨rfl, rfl, rfl⟩ (fun _ => rfl) ⟨rfl, rfl, rfl⟩
    rfl ?_ (hrow.active.join (found.checkOut client (a.seq + 1)) ?_ rfl rfl)
  · have hleft := hrow.idle.leave hconn (some (found.checkOut client (a.seq + 1)))
      (by simp [ServerConn.checkOut])
    rwa [if_pos hstate, ← hkey] at hleft
  intro other hother
  rw [hconn, some.injEq] at hother
  rw [← hother, hstate]
  decide

end

/-- A credit counts in `live` unless it is a cancel. -/
def liveDelta (credit : CreditKind) : Nat := if credit = .cancel then 0 else 1

/-- `open_server` for a bound tenant does not panic and recounts its row. -/
lemma openServer_spec (hc : a.Consistent) (hrt : a.tenants.get? t = some rt)
    (hentry : a.budget.tenants.get? t = some entry) (credit : CreditKind) (client : ClientId) :
    ∃ budget, a.budget.Recounts t entry (entry.live + liveDelta credit) budget ∧
      a.openServer t credit client =
        some ((ServerConn.new a.nextServer t credit client (a.seq + 1)).leaseTo t client
          (a.seq + 1), a.opened t rt credit client budget) := by
  by_cases hcredit : credit = .cancel
  · refine ⟨a.budget, ?_, ?_⟩
    · rw [liveDelta, if_pos hcredit, add_zero]
      exact hc.budget.recounts_self hentry
    · simp only [openServer, nextSeq, hrt, if_pos hcredit, bind_eq_bind, bind_some]
      rfl
  obtain ⟨budget, hinc, hrecount⟩ := incLive_spec hc.budget hentry
  refine ⟨budget, ?_, ?_⟩
  · simpa only [liveDelta, if_neg hcredit] using hrecount
  · simp only [openServer, nextSeq, hrt, if_neg hcredit, hinc, bind_eq_bind, bind_some]
    rfl

lemma Consistent.opened (hc : a.Consistent) (hrt : a.tenants.get? t = some rt)
    (hentry : a.budget.tenants.get? t = some entry) (credit : CreditKind) (client : ClientId)
    {budget : CapacityBudget T}
    (hbudget : a.budget.Recounts t entry (entry.live + liveDelta credit) budget) :
    (a.opened t rt credit client budget).Consistent := by
  have hrow := hc.row t rt entry hrt hentry
  -- identifiers are drawn from a counter that no server has reached
  have hfresh : a.servers.get? a.nextServer = none := by
    cases hconn : a.servers.get? a.nextServer with
    | none => rfl
    | some conn => exact absurd (hc.server _ _ hconn).2.1 (lt_irrefl _)
  refine hc.touchServer { entry with live := entry.live + liveDelta credit } a.nextServer
    (some (ServerConn.new a.nextServer t credit client (a.seq + 1)))
    hrt rfl rfl ⟨rfl, rfl, rfl, rfl⟩ ⟨rfl, rfl⟩ hbudget.consistent hbudget.tenants ?_ ?_
    (Nat.le_succ _) ?_ ?_
  · intro conn hconn
    rw [hfresh] at hconn
    cases hconn
  · intro conn hconn
    cases hconn
    exact ⟨rfl, rfl, Nat.lt_succ_self _, fun _ => rfl⟩
  · apply hrow.change
    · by_cases hcredit : credit = .cancel
      all_goals simp [hfresh, indicator, ServerConn.liveOf, ServerConn.new, liveDelta, hcredit]
    · by_cases hcredit : credit = .cancel
      all_goals simp [hfresh, indicator, ServerConn.cancelOf, ServerConn.new, enter, hcredit]
    · simp [hfresh, indicator, ServerConn.markedOf, ServerConn.new, enter]
    · apply hrow.idle.assign
      · intro seq server _
        exact Iff.rfl
      intro seq
      change serverKey seq a.nextServer ∈ rt.idle ↔ _
      rw [hrow.idle seq a.nextServer, hfresh]
      constructor
      · rintro ⟨conn, hconn, -⟩
        cases hconn
      · rintro ⟨conn, hconn, -, hstate, -⟩
        cases hconn
        cases hstate
    · refine hrow.active.join (.new a.nextServer t credit client (a.seq + 1)) ?_ rfl rfl
      intro conn hconn
      rw [hfresh] at hconn
      cases hconn
    · rfl
  · change a.created + 1 + a.closed + _ = a.created + a.closed + 1
    rw [hfresh, elim_none]
    omega

/-- A server of a tenant is counted in its row. -/
lemma indicator_le (hconn : a.servers.get? id = some conn) {test : ServerConn T → Bool}
    (h : test conn) : 1 ≤ countServers a.servers test := by
  have hle := le_sumOf (f := fun _ c => if test c then 1 else 0) hconn
  simp only [h, if_true] at hle
  exact hle

section

variable (hc : a.Consistent)
include hc

/-- `close_server` of a present server does not panic: the server was counted in
every counter it leaves. -/
lemma closeServer_spec (hconn : a.servers.get? id = some conn) :
    ∃ rt entry rt' budget, a.tenants.get? conn.tenant = some rt ∧
      a.budget.tenants.get? conn.tenant = some entry ∧
      rt.leave id conn = some rt' ∧ liveDelta conn.credit ≤ entry.live ∧
      a.budget.Recounts conn.tenant entry (entry.live - liveDelta conn.credit) budget ∧
      a.closeServer id = some (some conn, a.shut id conn.tenant rt' budget) := by
  obtain ⟨rt, entry, hrt, hentry, hrow⟩ := hc.owner hconn
  obtain ⟨rt', hrt'⟩ : ∃ rt', rt.leave id conn = some rt' := by
    apply exists_leave
    · intro hcredit
      rw [hrow.cancelLive]
      exact indicator_le hconn (cancelOf_iff.mpr ⟨rfl, hcredit⟩)
    · intro hneeded
      rw [hrow.marked]
      exact indicator_le hconn (markedOf_iff.mpr ⟨rfl, hneeded⟩)
  have hdelta : liveDelta conn.credit ≤ entry.live := by
    by_cases hcredit : conn.credit = .cancel
    · simp [liveDelta, hcredit]
    · have hlive := indicator_le hconn (liveOf_iff.mpr ⟨rfl, hcredit⟩)
      rw [← hrow.live] at hlive
      simpa [liveDelta, hcredit] using hlive
  by_cases hcredit : conn.credit = .cancel
  · refine ⟨rt, entry, rt', a.budget, hrt, hentry, hrt', hdelta, ?_, ?_⟩
    · rw [liveDelta, if_pos hcredit, Nat.sub_zero]
      exact hc.budget.recounts_self hentry
    · simp only [closeServer, hconn, hrt, hrt', if_pos hcredit, map_some, bind_eq_bind, bind_some]
      rfl
  rw [liveDelta, if_neg hcredit] at hdelta
  obtain ⟨budget, hdec, hrecount⟩ := decLive_spec hc.budget hentry hdelta
  refine ⟨rt, entry, rt', budget, hrt, hentry, hrt', ?_, ?_, ?_⟩
  · simpa only [liveDelta, if_neg hcredit] using hdelta
  · simpa only [liveDelta, if_neg hcredit] using hrecount
  · simp only [closeServer, hconn, hrt, hrt', if_neg hcredit, hdec, map_some,
      bind_eq_bind, bind_some]
    rfl

lemma Consistent.shut {budget : CapacityBudget T} (hconn : a.servers.get? id = some conn)
    (hrt : a.tenants.get? conn.tenant = some rt)
    (hentry : a.budget.tenants.get? conn.tenant = some entry) (hleave : rt.leave id conn = some rt')
    (hdelta : liveDelta conn.credit ≤ entry.live)
    (hbudget : a.budget.Recounts conn.tenant entry (entry.live - liveDelta conn.credit) budget) :
    (a.shut id conn.tenant rt' budget).Consistent := by
  have hrow := hc.row conn.tenant rt entry hrt hentry
  obtain ⟨hcancel, hmarked, hidle, hactive, hqueue, hclients, -⟩ :=
    leave_eq_some hleave
  refine hc.touchServer { entry with live := entry.live - liveDelta conn.credit } id none
    hrt rfl rfl ⟨rfl, rfl, rfl, hclients⟩ ⟨rfl, hqueue⟩ hbudget.consistent hbudget.tenants
    ?_ ?_ le_rfl ?_ ?_
  · intro other hother
    rw [hconn, some.injEq] at hother
    rw [← hother]
  · intro other hother
    cases hother
  · apply hrow.change
    · by_cases hcredit : conn.credit = .cancel
      · simp [hconn, indicator, ServerConn.liveOf, liveDelta, hcredit]
      simp only [liveDelta, if_neg hcredit] at hdelta
      simp only [hconn, indicator, ServerConn.liveOf, liveDelta, hcredit, if_false,
        elim_some, elim_none, decide_true, ne_eq, not_false_eq_true,
        Bool.and_self, if_true]
      omega
    · simpa [hconn, indicator, ServerConn.cancelOf] using hcancel
    · simpa [hconn, indicator, ServerConn.markedOf] using hmarked
    · rw [hidle]
      exact hrow.idle.leave hconn none (by simp)
    · rw [hactive]
      exact hrow.active.leave hconn none (by simp)
    · exact hclients
  · change a.created + a.closed + _ = a.created + (a.closed + 1) + _
    rw [hconn, elim_some, elim_none]
    omega

/-- `mark_close_needed` flags an unmarked server and counts the flag. -/
lemma markCloseNeeded_spec (id : ServerId) : a.markCloseNeeded id = some (false, a) ∨
    ∃ conn rt, a.servers.get? id = some conn ∧ conn.closeNeeded = false ∧
      a.tenants.get? conn.tenant = some rt ∧
      a.markCloseNeeded id = some (true, a.flagged id conn rt) := by
  cases hconn : a.servers.get? id with
  | none =>
    left
    simp [markCloseNeeded, hconn]
  | some conn =>
    cases hneeded : conn.closeNeeded with
    | true =>
      left
      simp [markCloseNeeded, hconn, hneeded]
    | false =>
      obtain ⟨rt, entry, hrt, -, -⟩ := hc.owner hconn
      refine .inr ⟨conn, rt, rfl, hneeded, hrt, ?_⟩
      simp [markCloseNeeded, hconn, hneeded, hrt, flagged]

lemma Consistent.flagged (hconn : a.servers.get? id = some conn)
    (hneeded : conn.closeNeeded = false) (hrt : a.tenants.get? conn.tenant = some rt) :
    (a.flagged id conn rt).Consistent := by
  obtain ⟨entry, -, hrow⟩ := hc.rows hrt
  obtain ⟨-, -, -, hcancel⟩ := hc.server _ _ hconn
  refine hc.changeServer a.seq hconn hrt ⟨rfl, rfl, rfl⟩ hcancel ⟨rfl, rfl, rfl⟩ ?_
    (Indexes.assign_same hrow.idle hconn rfl rfl rfl)
    (Indexes.assign_same hrow.active hconn rfl rfl rfl)
  simp [hneeded]

lemma Consistent.checkedIn (hconn : a.servers.get? id = some conn) (hstate : conn.state = .active)
    (hcredit : conn.credit ≠ .cancel) (hrt : a.tenants.get? conn.tenant = some rt) :
    (a.checkedIn id conn rt).Consistent := by
  obtain ⟨entry, -, hrow⟩ := hc.rows hrt
  refine hc.changeServer (a.seq + 1) hconn hrt ⟨rfl, rfl, rfl⟩ (fun h => absurd h hcredit)
    ⟨rfl, rfl, rfl⟩ rfl (hrow.idle.join (conn.checkIn (a.seq + 1)) ?_ rfl rfl) ?_
  · intro other hother
    rw [server_serverKey, hconn, some.injEq] at hother
    rw [← hother, hstate]
    decide
  · have hleft := hrow.active.leave hconn (some (conn.checkIn (a.seq + 1)))
      (by simp [ServerConn.checkIn])
    rwa [if_pos hstate] at hleft

end

end Allocator
end PgElastic.Capacity
