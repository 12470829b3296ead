import PgElastic.Capacity.Handover

/-!
# What an operation may do to a server

One table for all public operations: which servers an operation may close, park or mark
before it hands any out.  `apply_fates` says that every operation keeps to its row and that
the leases it answers with are handed out afterwards.

The table is what the pool built on top of the allocator has to live with: a server it does
not list stays as it is.
-/

namespace PgElastic.Capacity

open Library Option OrderedMap List

variable {T : Type} [LinearOrder T]

namespace Allocator

/-- The leases an operation answers with. -/
def Outcome.leases : Outcome T → List (Lease T)
  | .admitted (.granted lease) => [lease]
  | outcome => outcome.grants.map (·.lease)

/-- The servers an operation may close. -/
def Op.Closes (op : Op T) (id : ServerId) (conn : ServerConn T) : Prop :=
  match op with
  | .tryLease _ _ _ => conn.state = .idle
  | .release lease => id = lease.server ∧ conn.state = .active ∧ conn.epoch = lease.epoch
  | .backendDied server => id = server
  | .removeTenant tenant => conn.tenant = tenant
  | .disconnectClient client => conn.client = some client ∧ conn.state = .active
  | .drainTo _ => conn.state = .idle
  | _ => False

/-- The servers an operation may park. -/
def Op.Parks (op : Op T) (id : ServerId) (conn : ServerConn T) : Prop :=
  match op with
  | .release lease => id = lease.server ∧ conn.epoch = lease.epoch
  | .disconnectClient client => conn.client = some client
  | _ => False

/-- The servers an operation may mark for closing. -/
def Op.Marks (op : Op T) (conn : ServerConn T) : Prop :=
  match op with
  | .tryLease _ _ _ => conn.state = .active
  | .drainTo _ => conn.state = .active
  | .beginMigration tenant => conn.tenant = tenant
  | _ => False

/-- The clients an operation may forget. -/
def Op.Drops (op : Op T) (client : ClientId) (t : T) : Prop :=
  match op with
  | .disconnectClient other => client = other
  | .removeTenant tenant => t = tenant
  | _ => False

/-- Every client stays known, or is one the operation may forget. -/
def Retains (op : Op T) (a m : Allocator T) : Prop :=
  ∀ client t, a.clients.get? client = some t → op.Drops client t ∨ m.clients.get? client = some t

/-- What becomes of one server while an operation prepares. -/
inductive Kept (op : Op T) (id : ServerId) (conn : ServerConn T) :
    Option (ServerConn T) → Prop
  | same : Kept op id conn (some conn)
  | parked (seq : Nat) : op.Parks id conn → conn.state = .active →
      conn.closeNeeded = false → conn.credit ≠ .cancel →
      Kept op id conn (some (conn.checkIn seq))
  | marked : op.Marks conn → Kept op id conn (some { conn with closeNeeded := true })
  | closed : op.Closes id conn → Kept op id conn none

/-- The table before any server is handed out. -/
structure Prepared (op : Op T) (a m : Allocator T) : Prop where
  fate : ∀ id conn, a.servers.get? id = some conn → Kept op id conn (m.servers.get? id)
  absent : ∀ id, a.servers.get? id = none → m.servers.get? id = none
  retains : Retains op a m
  later : Later a m

variable {a m b a' : Allocator T} {op : Op T} {id : ServerId} {conn : ServerConn T}
  {rt : TenantRuntime T} {t : T} {client : ClientId} {now : Timestamp} {admission : Admission T}
  {lease : Lease T} {kind : RequestKind} {disposition : Disposition T} {grants : List (Grant T)}
  {servers : List ServerId} {result : Except (ConfigError T) (List (Grant T))} {outcome : Outcome T}
  {owner : T}

lemma Retains.of_clients (op : Op T) (hclients : m.clients = a.clients) : Retains op a m :=
  fun _ _ h => .inr (hclients ▸ h)

lemma Prepared.of_servers (hservers : m.servers = a.servers) (hretains : Retains op a m)
    (hlater : Later a m) : Prepared op a m where
  fate := by
    intro id conn hconn
    rw [hservers, hconn]
    exact .same
  absent := by
    intro id hnone
    rw [hservers]
    exact hnone
  retains := hretains
  later := hlater

lemma Prepared.refl (op : Op T) (a : Allocator T) : Prepared op a a :=
  .of_servers rfl (.of_clients op rfl) (.refl a)

/-- One more server of the table has met its fate. -/
lemma Prepared.step {b' : Allocator T} (h : Prepared op a b) (hconn : a.servers.get? id = some conn)
    (hfate : Kept op id conn (b'.servers.get? id))
    (hothers : ∀ other, other ≠ id → b'.servers.get? other = b.servers.get? other)
    (hclients : b'.clients = b.clients) (hlater : Later b b') : Prepared op a b' where
  fate := by
    intro other entry hentry
    by_cases hother : other = id
    · subst hother
      rw [hconn, some.injEq] at hentry
      exact hentry ▸ hfate
    · rw [hothers other hother]
      exact h.fate other entry hentry
  absent := by
    intro other hnone
    have hother : other ≠ id := by
      rintro rfl
      rw [hconn] at hnone
      cases hnone
    rw [hothers other hother]
    exact h.absent other hnone
  retains := fun other t hother => hclients ▸ h.retains other t hother
  later := h.later.trans hlater

/-- One server meets its fate, and nothing else changes. -/
structure Fated (op : Op T) (id : ServerId) (conn : ServerConn T) (b b' : Allocator T) : Prop where
  sound : b'.Sound
  fate : Kept op id conn (b'.servers.get? id)
  others : ∀ other, other ≠ id → b'.servers.get? other = b.servers.get? other
  clients : b'.clients = b.clients
  later : Later b b'
  waiters : ∀ t, b'.waitersOf t = b.waitersOf t

/-- The operation has prepared a table with these waiters, and dealt the grants out of it. -/
def Dealt (op : Op T) (a : Allocator T) (kept : T → List (TicketId × ClientId))
    (grants : List (Grant T)) (a' : Allocator T) : Prop :=
  ∃ m, m.Sound ∧ Prepared op a m ∧ (∀ t, m.waitersOf t = kept t) ∧ Deals m grants a'

lemma Dealt.refl (hs : a.Sound) (op : Op T) : Dealt op a a.waitersOf [] a :=
  ⟨a, hs, .refl op a, fun _ => rfl, .refl a⟩

lemma Dealt.handover {kept : T → List (TicketId × ClientId)} (h : Dealt op a kept grants a') :
    ∃ m, m.Sound ∧ Prepared op a m ∧ Handover m (grants.map (·.lease)) a' := by
  obtain ⟨m, hsm, hprepared, -, hdeals⟩ := h
  exact ⟨m, hsm, hprepared, hdeals.handover⟩

section

variable (hconn : a.servers.get? id = some conn)
include hconn

/-- One server is given a new entry, or none. -/
lemma Prepared.of_assign (hfate : Kept op id conn (m.servers.get? id))
    (hothers : ∀ other, other ≠ id → m.servers.get? other = a.servers.get? other)
    (hclients : m.clients = a.clients) (hlater : Later a m) : Prepared op a m :=
  (Prepared.refl op a).step hconn hfate hothers hclients hlater

lemma shut_prepared (hcloses : op.Closes id conn) (rt : TenantRuntime T)
    (budget : CapacityBudget T) : Prepared op a (a.shut id conn.tenant rt budget) := by
  refine .of_assign hconn ?_ ?_ rfl ⟨le_rfl, le_rfl⟩
  · change Kept op id conn ((a.servers.erase id).get? id)
    rw [get?_erase, if_pos rfl]
    exact .closed hcloses
  · intro other hother
    change (a.servers.erase id).get? other = _
    rw [get?_erase, if_neg hother]

lemma flagged_prepared (hmarks : op.Marks conn) (rt : TenantRuntime T) :
    Prepared op a (a.flagged id conn rt) := by
  refine .of_assign hconn ?_ ?_ rfl ⟨le_rfl, le_rfl⟩
  · change Kept op id conn ((a.servers.insert id _).get? id)
    rw [get?_insert_self]
    exact .marked hmarks
  · intro other hother
    exact get?_insert_of_ne _ _ hother

end

/-! ### The admission ladder -/

/-- One row is replaced by one with the same queue. -/
lemma waitersOf_of_insert {rt' : TenantRuntime T}
    (htenants : b.tenants = a.tenants.insert owner rt') (hrt : a.tenants.get? owner = some rt)
    (hqueue : rt'.queue = rt.queue) (t : T) : b.waitersOf t = a.waitersOf t := by
  apply waitersOf_congr
  rw [queueOf_insert a rt' htenants]
  split
  · rename_i heq
    rw [heq, queueOf_eq hrt, hqueue]
  · rfl

lemma bound_of_insert (htenants : b.tenants = a.tenants.insert owner rt)
    (hbound : (a.tenants.get? t).isSome) : (b.tenants.get? t).isSome := by
  rw [htenants, get?_insert]
  split
  · rfl
  · exact hbound

/-- Queueing a request changes one queue and no server. -/
lemma enqueue_table (h : a.enqueue t client now = some (admission, a')) :
    a'.servers = a.servers ∧ a'.clients = a.clients ∧ Later a a' ∧
      ((a' = a ∧ ∃ reason, admission = .denied reason) ∨
        (∃ blockedBy, admission = .queued a.nextTicket blockedBy none) ∧
          a'.nextTicket = a.nextTicket + 1 ∧
          ∀ t', a'.waitersOf t' =
            if t' = t then a.waitersOf t ++ [(a.nextTicket, client)] else a.waitersOf t') := by
  simp only [enqueue, bind_eq_bind, bind_eq_some_iff] at h
  obtain ⟨rt, hrt, h⟩ := h
  split at h
  · cases h
    exact ⟨rfl, rfl, .refl a, .inl ⟨rfl, _, rfl⟩⟩
  simp only [nextSeq] at h
  cases h
  refine ⟨rfl, rfl, ⟨Nat.le_succ _, le_rfl⟩, .inr ⟨⟨_, rfl⟩, rfl, ?_⟩⟩
  intro t'
  rw [waitersOf, queueOf_insert a _ rfl]
  split
  · rw [waitersOf, queueOf_eq hrt, map_append]
    rfl
  · rfl

/-- What the ladder's decision comes to once it has prepared: a server is handed out, a
ticket is added at the end of the tenant's queue, or nothing happens. -/
inductive Decided (m : Allocator T) (t : T) (client : ClientId) (kind : RequestKind) :
    Admission T → Allocator T → Prop
  | granted (lease : Lease T) (a' : Allocator T) :
      Handover m [lease] a' → lease.client = client → lease.tenant = t →
      (lease.credit = .cancel ↔ kind = .cancel) →
      (∀ t', a'.waitersOf t' = m.waitersOf t') → Decided m t client kind (.granted lease) a'
  | queued (ticket : TicketId) (blockedBy : DenialReason T) (revoked : Option (Revocation T))
      (a' : Allocator T) :
      kind = .normal → Handover m [] a' →
      (∀ t', a'.waitersOf t' =
        if t' = t then m.waitersOf t ++ [(ticket, client)] else m.waitersOf t') →
      Decided m t client kind (.queued ticket blockedBy revoked) a'
  | denied (reason : DenialReason T) (a' : Allocator T) :
      Handover m [] a' → (∀ t', a'.waitersOf t' = m.waitersOf t') →
      Decided m t client kind (.denied reason) a'

lemma Decided.handover (h : Decided m t client kind admission a') :
    Handover m (Outcome.admitted admission).leases a' := by
  cases h with
  | granted lease _ hhandover | queued ticket blockedBy revoked _ hkind hhandover
  | denied reason _ hhandover => exact hhandover

lemma Decided.of_open (hc : a.Consistent) (hrt : a.tenants.get? t = some rt) {credit : CreditKind}
    (hkind : credit = .cancel ↔ kind = .cancel)
    (h : a.openServer t credit client = some (lease, a')) :
    Decided a t client kind (.granted lease) a' := by
  obtain ⟨entry, hentry, -⟩ := hc.rows hrt
  obtain ⟨budget, -, heq⟩ := openServer_spec hc hrt hentry credit client
  rw [heq] at h
  cases h
  exact .granted _ _ (opened_handover a t rt credit client budget) rfl rfl hkind
    (waitersOf_of_insert rfl hrt rfl)

lemma Decided.of_enqueue (revoked : Option (Revocation T))
    (h : a.enqueue t client now = some (admission, a')) :
    Decided a t client .normal (admission.withRevocation revoked) a' := by
  obtain ⟨hservers, hclients, hlater, hcases⟩ := enqueue_table h
  rcases hcases with ⟨rfl, reason, rfl⟩ | ⟨⟨blockedBy, rfl⟩, -, hwaiters⟩
  · exact .denied reason a' (.refl a') fun _ => rfl
  · exact .queued _ blockedBy revoked a' rfl (Handover.idle hservers hclients hlater) hwaiters

/-- The servers a request of the tenant may close: idle ones of a tenant above its guarantee,
when the budget is spent and the tenant below its own. -/
def yields (a : Allocator T) (t : T) (conn : ServerConn T) : Bool :=
  decide (conn.state = .idle) && decide (a.budget.total ≤ a.budget.liveTotal) &&
    (a.budget.tenants.get? t).any (fun entry => decide (entry.live < entry.guaranteed)) &&
    (a.budget.tenants.get? conn.tenant).any fun entry => decide (0 < entry.surplus)

variable {revoked : Option (Revocation T)} {tenant : T}

/-- Revocation closes an idle server of a tenant above its guarantee, or none. -/
lemma Revoked.yielded (h : Revoked a revoked m)
    (hconn : a.servers.get? id = some conn) (hgone : m.servers.get? id = none) :
    conn.state = .idle ∧
      ∃ entry, a.budget.tenants.get? conn.tenant = some entry ∧ 0 < entry.surplus := by
  cases h with
  | nothing =>
    rw [hconn] at hgone
    cases hgone
  | @marked flagged found rt hfound hstate hneeded hrt =>
    change (a.servers.insert flagged _).get? id = none at hgone
    rw [get?_insert] at hgone
    split at hgone
    · cases hgone
    · rw [hconn] at hgone
      cases hgone
  | @closed shut found rt rt' entry budget hfound hstate hcredit hrt hentry hleave hdelta
      hbudget hsurplus =>
      change (a.servers.erase shut).get? id = none at hgone
      rw [get?_erase] at hgone
      split at hgone
      · rename_i hsame
        rw [hsame, hfound] at hconn
        cases hconn
        exact ⟨hstate, entry, hentry, hsurplus⟩
      · rw [hconn] at hgone
        cases hgone

/-- The ladder revokes for a tenant below its guarantee when the budget is spent. -/
lemma yields_of_classify (hc : a.Consistent) (hrt : a.tenants.get? t = some rt)
    (hclass : a.classify t = some (.ok .revokeAndQueue)) (hidle : conn.state = .idle)
    {owner : TenantEntry} (howner : a.budget.tenants.get? conn.tenant = some owner)
    (hsurplus : 0 < owner.surplus) : a.yields t conn := by
  obtain ⟨entry, hentry, -⟩ := hc.rows hrt
  rw [classify_eq hentry] at hclass
  have hpressed : entry.live < entry.guaranteed ∧ a.budget.total ≤ a.budget.liveTotal := by
    by_cases hlow : entry.live < entry.guaranteed
    · rw [if_pos hlow] at hclass
      by_cases hroom : a.budget.liveTotal < a.budget.total
      · rw [if_pos hroom] at hclass
        cases hclass
      · exact ⟨hlow, Nat.not_lt.mp hroom⟩
    · rw [if_neg hlow] at hclass
      split at hclass
      · cases hclass
      · split at hclass <;> cases hclass
  simp [yields, hidle, hentry, howner, hpressed.1, hpressed.2, hsurplus]

/-- What revocation prepares: it closes an idle server, marks an active one or leaves
everything as it is. -/
lemma Revoked.prepared (h : Revoked a revoked m) (hs : a.Sound)
    (client : ClientId) (kind : RequestKind) (now : Timestamp) :
    m.Sound ∧ Prepared (.tryLease client kind now) a m ∧ (∀ t, m.waitersOf t = a.waitersOf t) ∧
      ∀ t, (a.tenants.get? t).isSome → (m.tenants.get? t).isSome := by
  cases h with
  | nothing =>
    exact ⟨hs, .refl _ a, fun _ => rfl, fun _ => id⟩
  | marked hconn hstate hneeded hrt =>
    refine ⟨(Move.flag hconn hneeded hrt).sound hs, ?_, waitersOf_of_insert rfl hrt rfl,
      fun _ => bound_of_insert rfl⟩
    apply flagged_prepared hconn
    exact hstate
  | closed hconn hstate hcredit hrt hentry hleave hdelta hbudget hsurplus =>
    obtain ⟨-, -, -, -, hqueue, -, -⟩ := TenantRuntime.leave_eq_some hleave
    refine ⟨(Move.closeServer hconn hrt hentry hleave hdelta hbudget).sound hs, ?_,
      waitersOf_of_insert rfl hrt hqueue, fun _ => bound_of_insert rfl⟩
    apply shut_prepared hconn
    exact hstate

/-- Every server that is gone had to yield to the tenant. -/
def Yielded (a : Allocator T) (t : T) (m : Allocator T) : Prop :=
  ∀ id conn, a.servers.get? id = some conn → m.servers.get? id = none → a.yields t conn = true

lemma Yielded.refl (a : Allocator T) (t : T) : Yielded a t a := by
  intro id conn hconn hgone
  rw [hconn] at hgone
  cases hgone

lemma climb_fates (hs : a.Sound) (hrt : a.tenants.get? t = some rt)
    (h : a.climb t client now = some (admission, a')) :
    ∃ m, m.Sound ∧ Prepared (.tryLease client .normal now) a m ∧ Yielded a t m ∧
      (∀ t', m.waitersOf t' = a.waitersOf t') ∧ Decided m t client .normal admission a' := by
  have hnothing : Prepared (.tryLease client .normal now) a a := .refl _ a
  simp only [climb, bind_eq_bind, bind_eq_some_iff] at h
  obtain ⟨decision, hclassify, h⟩ := h
  split at h
  · cases h
    exact ⟨a, hs, hnothing, .refl a t, fun _ => rfl, .denied _ a (.refl a) fun _ => rfl⟩
  iterate 2
    · obtain ⟨⟨lease, b⟩, hopen, hanswer⟩ := bind_eq_some_iff.mp h
      cases hanswer
      exact ⟨a, hs, hnothing, .refl a t, fun _ => rfl,
        Decided.of_open hs.consistent hrt (by decide) hopen⟩
  · obtain ⟨⟨revoked, m⟩, hrevoke, h⟩ := bind_eq_some_iff.mp h
    obtain ⟨revoked', m', hrevoke', hrevoked⟩ := revoke_spec hs.consistent
    rw [hrevoke, some.injEq, Prod.mk.injEq] at hrevoke'
    obtain ⟨rfl, rfl⟩ := hrevoke'
    obtain ⟨hsm, hprepared, hwaiters, hbound⟩ := hrevoked.prepared hs client .normal now
    obtain ⟨rt', hrt'⟩ := isSome_iff_exists.mp (hbound t (by rw [hrt]; rfl))
    have hyielded : Yielded a t m := by
      intro id conn hconn hgone
      obtain ⟨hidle, owner, howner, hsurplus⟩ := hrevoked.yielded hconn hgone
      exact yields_of_classify hs.consistent hrt hclassify hidle howner hsurplus
    refine ⟨m, hsm, hprepared, hyielded, hwaiters, ?_⟩
    split at h
    · rename_i hclosed
      cases hclosed
      obtain ⟨⟨lease, b⟩, hopen, hanswer⟩ := bind_eq_some_iff.mp h
      cases hanswer
      exact .of_open hsm.consistent hrt' (by decide) hopen
    rename_i hother
    cases hother
    obtain ⟨⟨queued, b⟩, henqueue, hanswer⟩ := bind_eq_some_iff.mp h
    cases hanswer
    exact .of_enqueue _ henqueue
  · refine ⟨a, hs, hnothing, .refl a t, fun _ => rfl, ?_⟩
    obtain ⟨hservers, hclients, hlater, hcases⟩ := enqueue_table h
    rcases hcases with ⟨rfl, reason, rfl⟩ | ⟨⟨blockedBy, rfl⟩, -, hwaiters⟩
    · exact .denied reason a' (.refl a') fun _ => rfl
    · exact .queued _ blockedBy none a' rfl (.idle hservers hclients hlater) hwaiters

/-- `try_lease` for a connected client; an unknown client changes nothing. -/
lemma tryLease_fates (hs : a.Sound) (h : a.tryLease client kind now = some (admission, a')) :
    (admission = .stale ∧ a' = a ∧ a.clients.get? client = none) ∨
      ∃ t m, a.clients.get? client = some t ∧ m.Sound ∧ Prepared (.tryLease client kind now) a m ∧
        (kind = .cancel → m.servers = a.servers) ∧ Yielded a t m ∧
        (∀ t', m.waitersOf t' = a.waitersOf t') ∧ Decided m t client kind admission a' := by
  cases hclient : a.clients.get? client with
  | none =>
    simp only [tryLease, hclient, some.injEq, Prod.mk.injEq] at h
    exact .inl ⟨h.1.symm, h.2.symm, rfl⟩
  | some t =>
    right
    have hnothing : Prepared (.tryLease client kind now) a a := .refl _ a
    have hrefused : ∀ reason, Decided a t client kind (.denied reason) a := fun reason =>
      .denied reason a (.refl a) fun _ => rfl
    obtain ⟨rt, hrt⟩ := isSome_iff_exists.mp (hs.consistent.client client t hclient).2
    cases kind with
    | cancel =>
      refine ⟨t, a, rfl, hs, hnothing, fun _ => rfl, .refl a t, fun _ => rfl, ?_⟩
      simp only [tryLease, hclient, cancelBurst, hrt, bind_eq_bind, bind_some] at h
      split at h
      · cases h
        exact hrefused _
      · obtain ⟨⟨lease, b⟩, hopen, hanswer⟩ := bind_eq_some_iff.mp h
        cases hanswer
        exact .of_open hs.consistent hrt (by decide) hopen
    | normal =>
      simp only [tryLease, hclient, hrt, bind_eq_bind, bind_some] at h
      split at h
      · cases h
        exact ⟨t, a, rfl, hs, hnothing, fun _ => rfl, .refl a t, fun _ => rfl, hrefused _⟩
      rcases reuseIdle_spec hs.consistent t client with
        ⟨hreuse, hempty⟩ | ⟨rt1, key, conn, hrt1, hlast, hconn, hreuse⟩
      · -- nothing idle: the ladder goes on from a ticked state
        simp only [hreuse, bind_some] at h
        have hticked : Sound { a with seq := a.seq + 1 } := (Move.tick a).sound hs
        obtain ⟨m, hsm, hprepared, hyielded, hwaiters, hdecided⟩ := climb_fates hticked hrt h
        refine ⟨t, m, rfl, hsm, ?_, (fun h => by cases h), hyielded, hwaiters, hdecided⟩
        exact ⟨hprepared.fate, hprepared.absent, hprepared.retains,
          (Move.tick a).later.trans hprepared.later⟩
      simp only [hreuse, bind_some, some.injEq, Prod.mk.injEq] at h
      obtain ⟨rfl, rfl⟩ := h
      refine ⟨t, a, rfl, hs, hnothing, fun _ => rfl, .refl a t, fun _ => rfl, ?_⟩
      obtain ⟨found, hfound, -, hidle, -⟩ := hs.consistent.idle_last hrt1 hlast
      rw [hconn] at hfound
      cases hfound
      have hcredit := hs.consistent.credit_of_idle hconn hidle
      refine .granted _ _ (checkedOut_handover hs.consistent client hrt1 hlast hconn) rfl rfl ?_ ?_
      · exact ⟨fun hcancel => absurd hcancel hcredit, fun h => by cases h⟩
      · exact waitersOf_of_insert rfl hrt1 rfl

/-! ### Releasing and closing -/

/-- What becomes of a server its client has given back. -/
inductive Retired (a : Allocator T) (id : ServerId) (conn : ServerConn T) :
    Disposition T → Allocator T → Prop
  | closed (m : Allocator T) : conn.closeNeeded = true ∨ conn.credit = .cancel →
      m.servers = a.servers.erase id → m.clients = a.clients → Retired a id conn (.closed id) m
  | parked (seq : Nat) (m : Allocator T) : conn.closeNeeded = false → conn.credit ≠ .cancel →
      m.servers = a.servers.insert id (conn.checkIn seq) → m.clients = a.clients →
      Retired a id conn (.idle id) m

lemma Retired.others (h : Retired a id conn disposition m) {other : ServerId}
    (hother : other ≠ id) : m.servers.get? other = a.servers.get? other := by
  cases h with
  | closed _ hclose hservers => rw [hservers, get?_erase, if_neg hother]
  | parked seq _ hneeded hcredit hservers =>
    rw [hservers]
    exact get?_insert_of_ne _ _ hother

lemma Retired.clients (h : Retired a id conn disposition m) : m.clients = a.clients := by
  cases h with
  | closed _ hclose hservers hclients | parked seq _ hneeded hcredit hservers hclients =>
    exact hclients

lemma Retired.kept (h : Retired a id conn disposition m) (hcloses : op.Closes id conn)
    (hparks : op.Parks id conn) (hstate : conn.state = .active) :
    Kept op id conn (m.servers.get? id) := by
  cases h with
  | closed _ hclose hservers =>
    rw [hservers, get?_erase, if_pos rfl]
    exact .closed hcloses
  | parked seq _ hneeded hcredit hservers =>
    rw [hservers, get?_insert_self]
    exact .parked seq hparks hstate hneeded hcredit

section

variable (hs : a.Sound) {outcome : ReleaseOutcome T} {server : ServerId}
include hs

lemma closeServer_table {found : Option (ServerConn T)} (h : a.closeServer id = some (found, m)) :
    m.Sound ∧ m.servers = a.servers.erase id ∧ Later a m ∧
      (∀ t, m.waitersOf t = a.waitersOf t) ∧ (∀ t, m.migrates t = a.migrates t) ∧
      m.clients = a.clients := by
  cases hconn : a.servers.get? id with
  | none =>
    simp only [closeServer, hconn] at h
    cases h
    exact ⟨hs, (erase_of_get?_eq_none hconn).symm, .refl a, fun _ => rfl, fun _ => rfl, rfl⟩
  | some conn =>
    obtain ⟨rt, entry, rt', budget, hrt, hentry, hleave, hdelta, hbudget, heq⟩ :=
      closeServer_spec hs.consistent hconn
    obtain ⟨-, -, -, -, hqueue, -, hflag⟩ := TenantRuntime.leave_eq_some hleave
    rw [heq] at h
    cases h
    have hmove := Move.closeServer hconn hrt hentry hleave hdelta hbudget
    exact ⟨hmove.sound hs, rfl, hmove.later, waitersOf_of_insert rfl hrt hqueue,
      migrates_of_insert rfl hrt hflag, rfl⟩

lemma retireActive_table (hconn : a.servers.get? id = some conn) (hstate : conn.state = .active)
    (h : a.retireActive id = some (disposition, m)) :
    m.Sound ∧ Retired a id conn disposition m ∧ Later a m ∧ ∀ t, m.waitersOf t = a.waitersOf t := by
  simp only [retireActive, hconn, nextSeq] at h
  split at h
  · rename_i hclose
    simp only [bind_eq_bind, bind_eq_some_iff, some.injEq, Prod.mk.injEq] at h
    obtain ⟨⟨found, b⟩, hclosed, rfl, rfl⟩ := h
    obtain ⟨hsm, hservers, hlater, hwaiters, -, hclients⟩ := closeServer_table hs hclosed
    exact ⟨hsm, .closed b hclose hservers hclients, hlater, hwaiters⟩
  rename_i hclose
  rw [not_or] at hclose
  have hneeded : conn.closeNeeded = false := by simpa using hclose.1
  simp only [bind_eq_bind, bind_eq_some_iff, some.injEq, Prod.mk.injEq] at h
  obtain ⟨rt, hrt, rfl, rfl⟩ := h
  have hmove := Move.checkIn hconn hstate hneeded hclose.2 hrt
  exact ⟨hmove.sound hs, .parked (a.seq + 1) _ hneeded hclose.2 rfl rfl, hmove.later,
    waitersOf_of_insert rfl hrt rfl⟩

/-- A lease that no longer refers to a live checkout, or one held fast by a lost quorum,
changes nothing; any other is retired and the queue is drained. -/
lemma release_fates (h : a.release lease = some (outcome, a')) : (outcome.grants = [] ∧ a' = a ∧
      ((outcome.disposition = .stale ∧ ∀ conn, a.servers.get? lease.server = some conn →
          ¬ (conn.state = .active ∧ conn.epoch = lease.epoch)) ∨
        outcome.disposition = .pinned lease ∧ a.quorumLost ∧
          ∀ conn, a.servers.get? lease.server = some conn → conn.credit ≠ .cancel)) ∨
    ∃ conn m, a.servers.get? lease.server = some conn ∧ conn.state = .active ∧
      conn.epoch = lease.epoch ∧ Retired a lease.server conn outcome.disposition m ∧
      Later a m ∧ m.Sound ∧ (∀ t, m.waitersOf t = a.waitersOf t) ∧ Deals m outcome.grants a' := by
  cases hconn : a.servers.get? lease.server with
  | none =>
    simp only [release, hconn] at h
    cases h
    refine .inl ⟨rfl, rfl, .inl ⟨rfl, ?_⟩⟩
    intro conn hother
    cases hother
  | some conn =>
    simp only [release, hconn] at h
    split at h
    · rename_i hstale
      cases h
      refine .inl ⟨rfl, rfl, .inl ⟨rfl, ?_⟩⟩
      rintro other hother ⟨hactive, hepoch⟩
      cases hother
      rcases hstale with hdiffers | hdiffers
      · exact hdiffers hepoch
      · exact hdiffers hactive
    rename_i hlive
    rw [not_or, not_not, not_not] at hlive
    split at h
    · rename_i hlost
      cases h
      refine .inl ⟨rfl, rfl, .inr ⟨rfl, hlost.1, ?_⟩⟩
      intro other hother
      cases hother
      exact hlost.2
    · simp only [bind_eq_bind, bind_eq_some_iff, some.injEq, Prod.mk.injEq] at h
      obtain ⟨⟨disposition, m⟩, hretire, ⟨grants, b⟩, hdrain, rfl, rfl⟩ := h
      obtain ⟨hsm, hretired, hlater, hwaiters⟩ := retireActive_table hs hconn hlive.2 hretire
      exact .inr ⟨conn, m, rfl, hlive.2, hlive.1, hretired, hlater, hsm, hwaiters,
        drainQueue_deals hsm hdrain⟩

lemma backendDied_fates (h : a.backendDied server = some (grants, a')) :
    ∃ m, m.Sound ∧ m.servers = a.servers.erase server ∧ Later a m ∧
      (∀ t, m.waitersOf t = a.waitersOf t) ∧ (∀ t, m.migrates t = a.migrates t) ∧
      m.clients = a.clients ∧ Deals m grants a' := by
  simp only [backendDied, bind_eq_bind, bind_eq_some_iff] at h
  obtain ⟨⟨found, m⟩, hclosed, hdrain⟩ := h
  obtain ⟨hsm, hservers, hlater, hwaiters, hflags, hclients⟩ := closeServer_table hs hclosed
  exact ⟨m, hsm, hservers, hlater, hwaiters, hflags, hclients, drainQueue_deals hsm hdrain⟩

lemma release_deals (h : a.release lease = some (outcome, a')) :
    Dealt (.release lease) a a.waitersOf outcome.grants a' := by
  rcases release_fates hs h with
    ⟨hgrants, rfl, -⟩ | ⟨conn, m, hconn, hstate, hepoch, hretired, hlater, hsm, hwaiters, hdeals⟩
  · rw [hgrants]
    exact .refl hs _
  · refine ⟨m, hsm, .of_assign hconn ?_ (fun _ => hretired.others) hretired.clients hlater,
      hwaiters, hdeals⟩
    exact hretired.kept ⟨rfl, hstate, hepoch⟩ ⟨rfl, hepoch⟩ hstate

lemma backendDied_deals (h : a.backendDied server = some (grants, a')) :
    Dealt (.backendDied server) a a.waitersOf grants a' := by
  obtain ⟨m, hsm, hservers, hlater, hwaiters, -, hclients, hdeals⟩ := backendDied_fates hs h
  refine ⟨m, hsm, ⟨?_, ?_, .of_clients _ hclients, hlater⟩, hwaiters, hdeals⟩
  · intro id conn hconn
    rw [hservers, get?_erase]
    split
    · rename_i hid
      exact .closed hid
    · rw [hconn]
      exact .same
  · intro id hnone
    rw [hservers, get?_erase, hnone, ite_self]

/-! ### Loops over servers -/

omit hs in
/-- Distinct servers of the table meet their fates one after the other. -/
lemma foldlM_fates {f : Allocator T → ServerId → Option (Allocator T)}
    {P : ServerId → ServerConn T → Prop}
    (hone : ∀ {id conn b b'}, b.Sound → b.servers.get? id = some conn → P id conn →
      f b id = some b' → Fated op id conn b b')
    (hs : a.Sound) (hnodup : servers.Nodup)
    (hall : ∀ id ∈ servers, ∃ conn, a.servers.get? id = some conn ∧ P id conn)
    (h : servers.foldlM f a = some a') :
    a'.Sound ∧ Prepared op a a' ∧ ∀ t, a'.waitersOf t = a.waitersOf t := by
  obtain ⟨hsound, hprepared, -, -, hwaiters⟩ := foldlM_keeps
    (motive := fun rest b => b.Sound ∧ Prepared op a b ∧ rest.Nodup ∧
      (∀ id ∈ rest, id ∈ servers ∧ b.servers.get? id = a.servers.get? id) ∧
      ∀ t, b.waitersOf t = a.waitersOf t)
    (by
      rintro id rest b b' ⟨hsound, hprepared, hdistinct, hsame, hwaiters⟩ hstep
      obtain ⟨hmem, hget⟩ := hsame id mem_cons_self
      obtain ⟨conn, hconn, hmeets⟩ := hall id hmem
      have hfated := hone hsound (hget.trans hconn) hmeets hstep
      obtain ⟨hnotin, hrest⟩ := nodup_cons.mp hdistinct
      refine ⟨hfated.sound, hprepared.step hconn hfated.fate hfated.others hfated.clients
        hfated.later, hrest, ?_, fun t => (hfated.waiters t).trans (hwaiters t)⟩
      intro other hother
      obtain ⟨hin, hold⟩ := hsame other (mem_cons_of_mem _ hother)
      refine ⟨hin, ?_⟩
      rw [hfated.others other fun heq => hnotin (heq ▸ hother)]
      exact hold)
    (show a.Sound ∧ Prepared op a a ∧ servers.Nodup ∧ _ ∧ _ from
      ⟨hs, .refl op a, hnodup, fun id hid => ⟨hid, rfl⟩, fun _ => rfl⟩)
    h
  exact ⟨hsound, hprepared, hwaiters⟩

lemma retireAll_fates (hnodup : servers.Nodup)
    (hall : ∀ id ∈ servers, ∃ conn, a.servers.get? id = some conn ∧ conn.state = .active ∧
      op.Closes id conn ∧ op.Parks id conn) (h : a.retireAll servers = some a') :
    a'.Sound ∧ Prepared op a a' ∧ ∀ t, a'.waitersOf t = a.waitersOf t := by
  refine foldlM_fates ?_ hs hnodup hall h
  rintro id conn b b' hsound hconn ⟨hstate, hcloses, hparks⟩ hstep
  obtain ⟨⟨disposition, m⟩, hretire, rfl⟩ := map_eq_some_iff.mp hstep
  obtain ⟨hsm, hretired, hlater, hwaiters⟩ := retireActive_table hsound hconn hstate hretire
  exact ⟨hsm, hretired.kept hcloses hparks hstate, fun _ => hretired.others, hretired.clients,
    hlater, hwaiters⟩

lemma closeAll_fates (hnodup : servers.Nodup)
    (hall : ∀ id ∈ servers, ∃ conn, a.servers.get? id = some conn ∧ op.Closes id conn)
    (h : a.closeAll servers = some a') :
    a'.Sound ∧ Prepared op a a' ∧ ∀ t, a'.waitersOf t = a.waitersOf t := by
  refine foldlM_fates ?_ hs hnodup hall h
  intro id conn b b' hsound hconn hcloses hstep
  obtain ⟨⟨found, m⟩, hclosed, rfl⟩ := map_eq_some_iff.mp hstep
  obtain ⟨hsm, hservers, hlater, hwaiters, -, hclients⟩ := closeServer_table hsound hclosed
  refine ⟨hsm, ?_, ?_, hclients, hlater, hwaiters⟩
  · rw [hservers, get?_erase, if_pos rfl]
    exact .closed hcloses
  · intro other hother
    rw [hservers, get?_erase, if_neg hother]

lemma markAll_fates (hnodup : servers.Nodup)
    (hall : ∀ id ∈ servers, ∃ conn, a.servers.get? id = some conn ∧ op.Marks conn)
    (h : a.markAll servers = some a') : a'.Sound ∧ Prepared op a a' := by
  refine (foldlM_fates ?_ hs hnodup hall h).imp_right And.left
  intro id conn b b' hsound hconn hmarks hstep
  obtain ⟨⟨marked, m⟩, hmark, rfl⟩ := map_eq_some_iff.mp hstep
  rcases markCloseNeeded_spec hsound.consistent id with
    hnone | ⟨entry, rt, hentry, hneeded, hrt, hsome⟩
  · rw [hnone] at hmark
    cases hmark
    exact ⟨hsound, hconn ▸ .same, fun _ _ => rfl, rfl, .refl b, fun _ => rfl⟩
  rw [hsome] at hmark
  cases hmark
  cases hconn.symm.trans hentry
  have hmove := Move.flag hentry hneeded hrt
  exact ⟨hmove.sound hsound, (flagged_prepared hentry hmarks rt).fate id conn hentry,
    fun other hother => get?_insert_of_ne _ _ hother, rfl, hmove.later,
    waitersOf_of_insert rfl hrt rfl⟩

end

/-- What is prepared from a state with the same servers is prepared from this one. -/
lemma Prepared.of_same (h : Prepared op b m) (hservers : b.servers = a.servers)
    (hretains : Retains op a b) (hlater : Later a b) : Prepared op a m where
  fate := by
    intro id conn hconn
    rw [← hservers] at hconn
    exact h.fate id conn hconn
  absent := by
    intro id hnone
    rw [← hservers] at hnone
    exact h.absent id hnone
  retains := fun client t hclient =>
    (hretains client t hclient).elim .inl (h.retains client t)
  later := hlater.trans h.later

/-- The closing loop of `drain_to` takes idle servers out of the table. -/
lemma closeIdle_table {target : Nat} {fuel : Nat} {a a' : Allocator T} :
    a.Sound → closeIdle target fuel a = some a' → a'.Sound ∧ Later a a' ∧ a'.clients = a.clients ∧
      ∀ id, a'.servers.get? id = a.servers.get? id ∨ (a'.servers.get? id = none ∧
          ∃ conn, a.servers.get? id = some conn ∧ conn.state = .idle) := by
  induction fuel generalizing a a' with
  | zero =>
    intro _ h
    cases h
  | succ fuel ih =>
    intro hs h
    rw [closeIdle] at h
    split at h
    · cases h
      exact ⟨hs, .refl a, rfl, fun _ => .inl rfl⟩
    split at h
    · cases h
      exact ⟨hs, .refl a, rfl, fun _ => .inl rfl⟩
    rename_i conn hmin
    simp only [bind_eq_bind, bind_eq_some_iff] at h
    obtain ⟨⟨found, m⟩, hclosed, hloop⟩ := h
    obtain ⟨hconn, hidle⟩ := leastIdle_spec hs.consistent hmin
    obtain ⟨hsm, hservers, hlater, -, -, hclients⟩ := closeServer_table hs hclosed
    obtain ⟨hsound, hlater', hclients', hrest⟩ := ih hsm hloop
    refine ⟨hsound, hlater.trans hlater', hclients'.trans hclients, ?_⟩
    intro id
    by_cases hid : id = conn.id
    · subst hid
      right
      have hgone : m.servers.get? conn.id = none := by
        rw [hservers, get?_erase, if_pos rfl]
      refine ⟨?_, conn, hconn, hidle⟩
      rcases hrest conn.id with hsame | ⟨hnone, -⟩
      · rw [hsame, hgone]
      · exact hnone
    · have hsame : m.servers.get? id = a.servers.get? id := by
        rw [hservers, get?_erase, if_neg hid]
      rw [← hsame]
      exact hrest id

lemma mem_unmarked (hc : a.Consistent) {key : ServerKey} (h : key ∈ a.unmarked) :
    ∃ conn, a.servers.get? key.server = some conn ∧ conn.state = .active := by
  unfold unmarked at h
  rw [mem_insertionSort, List.mem_map] at h
  obtain ⟨conn, hmem, rfl⟩ := h
  obtain ⟨hvalue, htest⟩ := mem_filter.mp hmem
  obtain ⟨id, hid⟩ := (mem_values_iff _ _).mp hvalue
  simp only [Bool.and_eq_true, decide_eq_true_eq] at htest
  rw [server_serverKey, (hc.server id conn hid).1]
  exact ⟨conn, hid, htest.1.2⟩

lemma nodup_unmarked (hc : a.Consistent) : (a.unmarked.map ServerKey.server).Nodup := by
  refine ((perm_insertionSort _ _).map _).nodup_iff.mpr ?_
  rw [List.map_map]
  exact nodup_serversWhere hc _

lemma drainTo_fates (hs : a.Sound) {target excess : Nat}
    (h : a.drainTo target = some (excess, a')) : a'.Sound ∧ Prepared (.drainTo target) a a' := by
  simp only [drainTo, bind_eq_bind, bind_eq_some_iff, some.injEq, Prod.mk.injEq] at h
  obtain ⟨m, hclose, b, hmark, -, rfl⟩ := h
  obtain ⟨hsm, hlater, hclients, hclosed⟩ := closeIdle_table hs hclose
  have hall : ∀ id ∈ (m.unmarked.take (m.budget.liveTotal - target)).map ServerKey.server,
      ∃ conn, m.servers.get? id = some conn ∧ (Op.drainTo target : Op T).Marks conn := by
    intro id hid
    obtain ⟨key, hkey, rfl⟩ := List.mem_map.mp hid
    exact mem_unmarked hsm.consistent (mem_of_mem_take hkey)
  obtain ⟨hsound, hprepared⟩ := markAll_fates hsm
    ((nodup_unmarked hsm.consistent).sublist ((take_sublist _ _).map _)) hall hmark
  refine ⟨hsound, ?_, ?_, ?_, hlater.trans hprepared.later⟩
  · intro id conn hconn
    rcases hclosed id with hsame | ⟨hnone, idle, hidle, hstate⟩
    · exact hprepared.fate id conn (hsame.trans hconn)
    · rw [hconn, some.injEq] at hidle
      rw [hprepared.absent id hnone]
      exact .closed (hidle ▸ hstate)
  · intro id hnone
    rcases hclosed id with hsame | ⟨hgone, -⟩
    · exact hprepared.absent id (hsame.trans hnone)
    · exact hprepared.absent id hgone
  · intro client t hclient
    rw [← hclients] at hclient
    exact hprepared.retains client t hclient

/-! ### Clients and tenants -/

lemma connectClient_table {result : Except (ConnectRejection T) ClientId}
    (h : a.connectClient tenant = some (result, a')) :
    a'.servers = a.servers ∧ (∀ t, a'.waitersOf t = a.waitersOf t) ∧
      ((∃ rejection, result = .error rejection ∧ a'.clients = a.clients) ∨
        result = .ok a.nextClient ∧ a'.clients = a.clients.insert a.nextClient tenant) := by
  simp only [connectClient] at h
  split at h
  · cases h
    exact ⟨rfl, fun _ => rfl, .inl ⟨_, rfl, rfl⟩⟩
  split at h
  · cases h
    exact ⟨rfl, fun _ => rfl, .inl ⟨_, rfl, rfl⟩⟩
  simp only [bind_eq_bind, bind_eq_some_iff] at h
  obtain ⟨rt, hrt, h⟩ := h
  split at h
  · cases h
    exact ⟨rfl, fun _ => rfl, .inl ⟨_, rfl, rfl⟩⟩
  · cases h
    exact ⟨rfl, waitersOf_of_insert rfl hrt rfl, .inr ⟨rfl, rfl⟩⟩

/-- Cancelling a ticket takes it out of its queue. -/
lemma cancelTicket_table {ticket : TicketId} {removed : Bool}
    (h : a.cancelTicket tenant ticket = some (removed, a')) :
    a'.servers = a.servers ∧ a'.clients = a.clients ∧ ∀ t, a'.waitersOf t =
      if t = tenant then (a.waitersOf t).filter fun waiter => waiter.1 ≠ ticket
      else a.waitersOf t := by
  unfold cancelTicket at h
  split at h
  · rename_i hunbound
    cases h
    refine ⟨rfl, rfl, ?_⟩
    intro t
    split
    · rename_i heq
      simp [waitersOf, queueOf, heq, hunbound]
    · rfl
  rename_i rt hrt
  simp only [retainTickets, bind_eq_bind, bind_eq_some_iff, some.injEq] at h
  obtain ⟨_, ⟨left, -, total, -, rfl⟩, heq⟩ := h
  cases heq
  refine ⟨rfl, rfl, ?_⟩
  intro t
  rw [waitersOf, queueOf_insert a _ rfl]
  split
  · rename_i howner
    rw [waitersOf, howner, queueOf_eq hrt, List.filter_map]
    rfl
  · rfl

lemma dropClient_table (hs : a.Sound) (hclient : a.clients.get? client = some t)
    (h : a.dropClient client t = some m) :
    m.Sound ∧ m.servers = a.servers ∧ m.clients = a.clients.erase client ∧ Later a m ∧
      ∀ t', m.waitersOf t' = if t' = t then (a.waitersOf t).filter fun waiter => waiter.2 ≠ client
        else a.waitersOf t' := by
  obtain ⟨rt, hrt⟩ := isSome_iff_exists.mp (hs.consistent.client client t hclient).2
  obtain ⟨m', heq, hquiet⟩ := dropClient_quiet hs hclient
  rw [h] at heq
  cases heq
  have hlater := Moves.later hquiet.moves
  simp only [dropClient, hrt, retainTickets, bind_eq_bind, bind_eq_some_iff, some.injEq] at h
  obtain ⟨clients, -, _, ⟨removed, -, total, -, rfl⟩, _, rfl, live, -, rfl⟩ := h
  refine ⟨hquiet.sound hs, rfl, rfl, hlater, ?_⟩
  intro t'
  rw [waitersOf, queueOf_insert a _ rfl]
  split
  · rw [waitersOf, queueOf_eq hrt, List.filter_map]
    rfl
  · rfl

lemma disconnectClient_fates (hs : a.Sound) (h : a.disconnectClient client = some (grants, a')) :
    Dealt (.disconnectClient client) a (fun t =>
      if a.clients.get? client = some t then (a.waitersOf t).filter fun waiter => waiter.2 ≠ client
      else a.waitersOf t) grants a' := by
  cases hclient : a.clients.get? client with
  | none =>
    simp only [disconnectClient, hclient] at h
    cases h
    simpa using Dealt.refl hs _
  | some owner =>
    simp only [disconnectClient, hclient, bind_eq_bind, bind_eq_some_iff] at h
    obtain ⟨b, hdrop, m, hretire, hdrain⟩ := h
    obtain ⟨hsb, hservers, hclients, hlater, hdropped⟩ := dropClient_table hs hclient hdrop
    have hretains : Retains (.disconnectClient client) a b := by
      intro other t hother
      rw [hclients, get?_erase]
      by_cases hsame : other = client
      · exact .inl hsame
      · exact .inr (by rw [if_neg hsame, hother])
    have hall : ∀ id ∈ b.serversWhere
        (fun conn => conn.client = some client && conn.state = .active),
        ∃ conn, b.servers.get? id = some conn ∧ conn.state = .active ∧
          (Op.disconnectClient client : Op T).Closes id conn ∧
          (Op.disconnectClient client : Op T).Parks id conn := by
      intro id hid
      obtain ⟨conn, hconn, htest⟩ := (mem_serversWhere hsb.consistent).mp hid
      simp only [Bool.and_eq_true, decide_eq_true_eq] at htest
      exact ⟨conn, hconn, htest.2, htest, htest.1⟩
    obtain ⟨hsm, hprepared, hwaiters⟩ := retireAll_fates hsb
      (nodup_serversWhere hsb.consistent _) hall hretire
    refine ⟨m, hsm, hprepared.of_same hservers hretains hlater, ?_, drainQueue_deals hsm hdrain⟩
    intro t
    beta_reduce
    rw [hwaiters t, hdropped t]
    by_cases ht : t = owner
    · rw [if_pos ht, if_pos (by rw [ht]), ht]
    · rw [if_neg ht, if_neg (by simpa using Ne.symm ht)]

lemma eq_sub_of_checkedSub {n k r : Nat} (h : checkedSub n k = some r) : r + k = n := by
  unfold checkedSub at h
  split at h
  · cases h
    omega
  · cases h

/-- Removing a tenant closes its servers and drops its tickets. -/
lemma removeTenant_fates (hs : a.Sound) {id : T} (h : a.removeTenant id = some (result, a')) :
    Dealt (.removeTenant id) a (fun t => if t = id then [] else a.waitersOf t)
      (result.toOption.getD []) a' := by
  cases hentry : a.budget.tenants.get? id with
  | none =>
    simp only [removeTenant, CapacityBudget.contains, hentry, isSome_none,
      Bool.not_false, if_true, some.injEq, Prod.mk.injEq] at h
    obtain ⟨rfl, rfl⟩ := h
    have hunbound : a.tenants.get? id = none := by
      have hbound := hs.consistent.bound id
      rw [hentry, isSome_none] at hbound
      exact not_isSome_iff_eq_none.mp (by simp [hbound])
    refine ⟨a, hs, .refl _ a, ?_, .refl a⟩
    intro t
    by_cases ht : t = id <;> simp [waitersOf, queueOf, ht, hunbound]
  | some entry =>
    have hcontains : a.budget.contains id := by
      simp [CapacityBudget.contains, hentry]
    simp only [removeTenant, hcontains, Bool.not_true, Bool.false_eq_true, if_false,
      bind_eq_bind, bind_eq_some_iff] at h
    obtain ⟨b, hclose, c, hforget, answer, hbudget, h⟩ := h
    obtain ⟨rt, hrt⟩ := hs.consistent.runtime hentry
    obtain ⟨b', hclose', -, -, hnone, hbound⟩ := closeAll_spec hs hrt
    rw [hclose, some.injEq] at hclose'
    subst hclose'
    have hall : ∀ server ∈ a.serversWhere (fun conn => conn.tenant = id),
        ∃ conn, a.servers.get? server = some conn ∧
          (Op.removeTenant id : Op T).Closes server conn := by
      intro server hserver
      simpa [Op.Closes] using (mem_serversWhere hs.consistent).mp hserver
    obtain ⟨hsb, hprepared, hwaiters⟩ := closeAll_fates hs
      (nodup_serversWhere hs.consistent _) hall hclose
    obtain ⟨rt', hrt'⟩ := isSome_iff_exists.mp hbound
    simp only [forgetTenant, hrt', bind_eq_bind, bind_eq_some_iff, some.injEq] at hforget
    obtain ⟨live, hlive, total, htotal, rfl⟩ := hforget
    obtain ⟨entry', hentry', -⟩ := hsb.consistent.rows hrt'
    obtain ⟨budget, hremoved, -⟩ := CapacityBudget.removeTenant_spec hsb.consistent.budget hentry'
    rw [hremoved] at hbudget
    cases hbudget
    simp only [bind_eq_some_iff, some.injEq, Prod.mk.injEq] at h
    obtain ⟨⟨grants, d⟩, hdrain, rfl, rfl⟩ := h
    have hmove := Move.forget hrt' hentry' hnone hremoved (eq_sub_of_checkedSub hlive)
      (eq_sub_of_checkedSub htotal)
    have hsound := hmove.sound hsb
    refine ⟨_, hsound, ⟨hprepared.fate, hprepared.absent, ?_,
      hprepared.later.trans hmove.later⟩, ?_, drainQueue_deals hsound hdrain⟩
    · intro client t hclient
      refine or_iff_not_imp_left.mpr fun hother => ?_
      have hkept := (hprepared.retains client t hclient).resolve_left hother
      exact (get?_filter _ _ _).trans (by simp [hkept, show t ≠ id from hother])
    intro t
    beta_reduce
    rw [← hwaiters t]
    unfold waitersOf queueOf
    rw [get?_erase]
    split <;> rfl

/-! ### All operations -/

lemma Reconfigure.later (h : Reconfigure a m) : Later a m := by
  cases h with
  | _ => exact ⟨le_rfl, le_rfl⟩

/-- An accepted change of configuration, and the drain behind it. -/
lemma Reconfigure.fates (h : Reconfigure a m) (hs : a.Sound) (op : Op T)
    (hservers : m.servers = a.servers) (hwaiters : ∀ t, m.waitersOf t = a.waitersOf t)
    (hdrain : m.drainQueue = some (grants, a')) : Dealt op a a.waitersOf grants a' :=
  ⟨m, h.sound hs, .of_servers hservers (.of_clients op (by cases h <;> rfl)) h.later, hwaiters,
    drainQueue_deals (h.sound hs) hdrain⟩

lemma setTenantSpec_fates (hs : a.Sound) {id : T} {spec : TenantSpec}
    (h : a.setTenantSpec id spec = some (result, a')) :
    Dealt (.setTenantSpec id spec) a a.waitersOf (result.toOption.getD []) a' := by
  simp only [setTenantSpec, bind_eq_bind, bind_eq_some_iff] at h
  obtain ⟨answer, hanswer, h⟩ := h
  split at h
  · cases h
    exact .refl hs _
  rename_i budget
  simp only [bind_eq_some_iff, some.injEq, Prod.mk.injEq] at h
  obtain ⟨⟨grants, b⟩, hdrain, rfl, rfl⟩ := h
  exact (Reconfigure.setTenantSpec hanswer).fates hs _ rfl (fun _ => rfl) hdrain

lemma setPoolSpec_fates (hs : a.Sound) {spec : PoolSpec}
    (h : a.setPoolSpec spec = some (result, a')) :
    Dealt (.setPoolSpec spec) a a.waitersOf (result.toOption.getD []) a' := by
  unfold setPoolSpec at h
  split at h
  · cases h
    exact .refl hs _
  rename_i budget hanswer
  simp only [bind_eq_bind, bind_eq_some_iff, some.injEq, Prod.mk.injEq] at h
  obtain ⟨⟨grants, b⟩, hdrain, rfl, rfl⟩ := h
  exact (Reconfigure.setPoolSpec hanswer).fates hs _ rfl (fun _ => rfl) hdrain

lemma beginMigration_fates (hs : a.Sound) {result : Except (ConfigError T) Unit}
    (h : a.beginMigration t = some (result, a')) :
    a'.Sound ∧ Prepared (.beginMigration t) a a' := by
  cases hrt : a.tenants.get? t with
  | none =>
    simp only [beginMigration, hrt] at h
    cases h
    exact ⟨hs, .refl _ a⟩
  | some rt =>
    simp only [beginMigration, hrt, bind_eq_bind, bind_eq_some_iff, some.injEq, Prod.mk.injEq] at h
    obtain ⟨b, hmark, rfl, rfl⟩ := h
    have hmove := Move.setFlags hrt true rt.storageUsed
    have hsm := hmove.sound hs
    have hall : ∀ id ∈ a.serversWhere (fun conn => conn.tenant = t),
        ∃ conn, a.servers.get? id = some conn ∧ (Op.beginMigration t : Op T).Marks conn := by
      intro id hid
      simpa [Op.Marks] using (mem_serversWhere hs.consistent).mp hid
    obtain ⟨hsound, hprepared⟩ := markAll_fates hsm (nodup_serversWhere hs.consistent _) hall hmark
    exact ⟨hsound, hprepared.of_same rfl (.of_clients _ rfl) hmove.later⟩

lemma finishMigration_fates (hs : a.Sound) (h : a.finishMigration t = some (result, a')) :
    Dealt (.finishMigration t) a a.waitersOf (result.toOption.getD []) a' := by
  cases hrt : a.tenants.get? t with
  | none =>
    simp only [finishMigration, hrt] at h
    cases h
    exact .refl hs _
  | some rt =>
    simp only [finishMigration, hrt, bind_eq_bind, bind_eq_some_iff, some.injEq, Prod.mk.injEq] at h
    obtain ⟨⟨grants, b⟩, hdrain, rfl, rfl⟩ := h
    have hmove := Move.setFlags hrt false rt.storageUsed
    have hsm := hmove.sound hs
    exact ⟨_, hsm, .of_servers rfl (.of_clients _ rfl) hmove.later, waitersOf_of_insert rfl hrt rfl,
      drainQueue_deals hsm hdrain⟩

/-! ### Who is connected -/

/-- Clients appear only by connecting, under an identifier nobody had before. -/
structure Admits (a a' : Allocator T) : Prop where
  nextClient : a.nextClient ≤ a'.nextClient
  known : ∀ c t, a'.clients.get? c = some t → a.clients.get? c = some t ∨ a.nextClient ≤ c

lemma Admits.of_same (hnext : a'.nextClient = a.nextClient) (hclients : a'.clients = a.clients) :
    Admits a a' :=
  ⟨hnext.ge, fun _ _ h => .inl (hclients ▸ h)⟩

lemma Admits.trans {c : Allocator T} (hab : Admits a b) (hbc : Admits b c) : Admits a c where
  nextClient := hab.nextClient.trans hbc.nextClient
  known := by
    intro client t hclient
    rcases hbc.known client t hclient with hmiddle | hnew
    · exact hab.known client t hmiddle
    · exact .inr (hab.nextClient.trans hnew)

lemma Move.admits (h : Move a a') : Admits a a' := by
  cases h with
  | @connect t rt hrt =>
    refine ⟨Nat.le_succ _, ?_⟩
    intro client t' hclient
    by_cases hsame : client = a.nextClient
    · exact .inr hsame.ge
    · exact .inl ((get?_insert_of_ne _ _ hsame).symm.trans hclient)
  | dropClient =>
    refine ⟨le_rfl, ?_⟩
    intro client t' hclient
    exact .inl (get?_of_erase hclient).2
  | forget =>
    refine ⟨le_rfl, ?_⟩
    intro client t' hclient
    rw [get?_filter] at hclient
    exact .inl (filter_eq_some_iff.mp hclient).1
  | _ => exact .of_same rfl rfl

lemma Moves.admits (h : Moves a a') : Admits a a' := by
  induction h with
  | refl => exact .of_same rfl rfl
  | tail _ hmove ih => exact ih.trans hmove.admits

lemma Reconfigure.admits (h : Reconfigure a m) : Admits a m := by
  cases h with
  | _ => exact .of_same rfl rfl

lemma Effect.admits (h : Effect a op outcome a') : Admits a a' := by
  obtain ⟨m, hfirst, hmoves⟩ := h.steps
  rcases hfirst with rfl | hreconfigure | ⟨lost, rfl⟩
  · exact Moves.admits hmoves
  · exact hreconfigure.admits.trans (Moves.admits hmoves)
  · exact .trans (b := a.setQuorumLost lost) (.of_same rfl rfl) (Moves.admits hmoves)

/-- What an operation answers is what it did; the counters have not gone back. -/
lemma effect_of_apply (hs : a.Sound) (h : a.apply op = some (outcome, a')) :
    Effect a op outcome a' ∧ Later a a' := by
  obtain ⟨outcome', b, heq, heffect⟩ := apply_spec hs op
  rw [h] at heq
  cases heq
  refine ⟨heffect, ?_⟩
  obtain ⟨m, hfirst, hmoves⟩ := heffect.steps
  rcases hfirst with rfl | hreconfigure | ⟨lost, rfl⟩
  · exact Moves.later hmoves
  · exact hreconfigure.later.trans (Moves.later hmoves)
  · exact Later.trans (b := a.setQuorumLost lost) ⟨le_rfl, le_rfl⟩ (Moves.later hmoves)

omit [LinearOrder T] in
lemma leases_reconfigured (result : Except (ConfigError T) (List (Grant T))) :
    (Outcome.reconfigured result).leases = (result.toOption.getD []).map (·.lease) := by
  rw [← grants_reconfigured]
  rfl

/-- Every operation keeps to its row of the table, and hands out what it answers with. -/
lemma apply_fates (hs : a.Sound) (h : a.apply op = some (outcome, a')) :
    ∃ m, m.Sound ∧ Prepared op a m ∧ Handover m outcome.leases a' := by
  obtain ⟨heffect, hlater⟩ := effect_of_apply hs h
  -- The operations that touch no server and answer with no lease.
  have hquiet : a'.servers = a.servers → Retains op a a' → outcome.leases = [] →
      ∃ m, m.Sound ∧ Prepared op a m ∧ Handover m outcome.leases a' := by
    intro hservers hretains hleases
    rw [hleases]
    exact ⟨a', heffect.sound, .of_servers hservers hretains hlater, .refl a'⟩
  cases op
  case addTenant =>
    simp only [apply, report, addTenant, map_some, some.injEq, Prod.mk.injEq] at h
    obtain ⟨rfl, rfl⟩ := h
    refine hquiet ?_ (.of_clients _ ?_) rfl
    all_goals split <;> rfl
  case setMaxWait | setQuorumLost =>
    simp only [apply] at h
    cases h
    exact hquiet rfl (.of_clients _ rfl) rfl
  case setStorageUsed =>
    simp only [apply, report, setStorageUsed, map_some, some.injEq, Prod.mk.injEq] at h
    obtain ⟨rfl, rfl⟩ := h
    refine hquiet ?_ (.of_clients _ ?_) rfl
    all_goals split <;> rfl
  case checkStorage =>
    obtain ⟨result, -, heq⟩ := map_eq_some_iff.mp h
    cases heq
    exact hquiet rfl (.of_clients _ rfl) rfl
  all_goals
    obtain ⟨⟨result, a'⟩, hcall, heq⟩ := map_eq_some_iff.mp h
    cases heq
  case setTenantSpec => exact leases_reconfigured result ▸ (setTenantSpec_fates hs hcall).handover
  case removeTenant => exact leases_reconfigured result ▸ (removeTenant_fates hs hcall).handover
  case setPoolSpec => exact leases_reconfigured result ▸ (setPoolSpec_fates hs hcall).handover
  case drainTo =>
    obtain ⟨hsound, hprepared⟩ := drainTo_fates hs hcall
    exact ⟨a', hsound, hprepared, .refl a'⟩
  case connectClient =>
    obtain ⟨hservers, -, ⟨-, -, hclients⟩ | ⟨-, hclients⟩⟩ := connectClient_table hcall
    · exact hquiet hservers (.of_clients _ hclients) rfl
    refine hquiet hservers ?_ rfl
    intro client t hclient
    have hne := (hs.consistent.client client t hclient).1.ne
    exact .inr (by rw [hclients, get?_insert_of_ne _ _ hne, hclient])
  case disconnectClient => exact (disconnectClient_fates hs hcall).handover
  case tryLease =>
    rcases tryLease_fates hs hcall with
      ⟨rfl, rfl, -⟩ | ⟨t, m, -, hsm, hprepared, -, -, -, hdecided⟩
    · exact hquiet rfl (.of_clients _ rfl) rfl
    · exact ⟨m, hsm, hprepared, hdecided.handover⟩
  case release => exact (release_deals hs hcall).handover
  case backendDied => exact (backendDied_deals hs hcall).handover
  case expireQueued =>
    simp only [expireQueued, bind_eq_bind, bind_eq_some_iff, some.injEq, Prod.mk.injEq] at hcall
    obtain ⟨total, -, -, rfl⟩ := hcall
    exact hquiet rfl (.of_clients _ rfl) rfl
  case cancelTicket =>
    obtain ⟨hservers, hclients, -⟩ := cancelTicket_table hcall
    exact hquiet hservers (.of_clients _ hclients) rfl
  case beginMigration =>
    obtain ⟨hsound, hprepared⟩ := beginMigration_fates hs hcall
    exact ⟨a', hsound, hprepared, .refl a'⟩
  case finishMigration =>
    exact leases_reconfigured result ▸ (finishMigration_fates hs hcall).handover

/-! ### Which clients the allocator knows -/

/-- A client stays known through every operation that may not forget it. -/
lemma known_of_apply (hs : a.Sound) (h : a.apply op = some (outcome, a'))
    (hclient : a.clients.get? client = some t) (hstays : ¬ op.Drops client t) :
    a'.clients.get? client = some t := by
  obtain ⟨m, -, hprepared, hhandover⟩ := apply_fates hs h
  rw [hhandover.clients]
  exact (hprepared.retains client t hclient).resolve_left hstays

/-- A client that is known is answered, and not with `Stale`. -/
lemma answer_of_known (hs : a.Sound) (hclient : a.clients.get? client = some t)
    (kind : RequestKind) (now : Timestamp) :
    ∃ admission a', a.tryLease client kind now = some (admission, a') ∧ admission ≠ .stale := by
  obtain ⟨outcome, a', happly, -⟩ := apply_spec hs (.tryLease client kind now)
  obtain ⟨⟨admission, b⟩, hcall, -⟩ := Option.map_eq_some_iff.mp happly
  refine ⟨admission, b, hcall, ?_⟩
  rintro rfl
  rcases tryLease_fates hs hcall with ⟨-, -, hunknown⟩ | ⟨t, m, -, -, -, -, -, -, hdecided⟩
  · rw [hclient] at hunknown
    cases hunknown
  · cases hdecided

end Allocator
end PgElastic.Capacity
