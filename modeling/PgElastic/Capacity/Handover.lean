import PgElastic.Capacity.Guarantees

/-!
# Who is handed which server

An operation changes the server table in two phases.  First it may park, mark or close
servers (`Prepared`); then it hands servers to clients, each lease on a server that was
idle or that is opened for it (`Handover`).  Every later result about leases, marks and
links reads the table through these two relations and not through the code.

`begin_migration` is the one operation outside the first phase's rules: it marks servers
that are idle.
-/

namespace PgElastic.Capacity

open Library Option OrderedMap List Nat

variable {T : Type} [LinearOrder T]

omit [LinearOrder T] in
/-- The lease is the one the server table records. -/
def ServerConn.Holds (conn : ServerConn T) (lease : Lease T) : Prop :=
  conn.state = .active ∧ conn.epoch = lease.epoch ∧ conn.tenant = lease.tenant ∧
    conn.client = some lease.client ∧ conn.credit = lease.credit

namespace Allocator

/-! ### The counters only grow -/

structure Later (a a' : Allocator T) : Prop where
  seq : a.seq ≤ a'.seq
  nextServer : a.nextServer ≤ a'.nextServer

lemma Later.refl (a : Allocator T) : Later a a := ⟨le_rfl, le_rfl⟩

variable {a b c a' : Allocator T} {lease : Lease T} {t : T} {rt : TenantRuntime T}

lemma Later.trans (hab : Later a b) (hbc : Later b c) : Later a c :=
  ⟨hab.seq.trans hbc.seq, hab.nextServer.trans hbc.nextServer⟩

lemma Move.later (h : Move a a') : Later a a' := by
  cases h with
  | tick | checkOut | checkIn => exact ⟨le_succ _, le_rfl⟩
  | openServer => exact ⟨le_succ _, le_succ _⟩
  | _ => exact ⟨le_rfl, le_rfl⟩

lemma Moves.later (h : Moves a a') : Later a a' := by
  induction h with
  | refl => exact .refl a
  | tail _ hmove ih => exact ih.trans hmove.later

/-! ### Handing servers out -/

/-- How a server came into the hands of a client between two states. -/
inductive Given (a : Allocator T) (lease : Lease T) (a' : Allocator T) : Prop
  | reused (conn : ServerConn T) :
      a.servers.get? lease.server = some conn → conn.state = .idle →
      conn.tenant = lease.tenant → conn.credit = lease.credit → a.seq < lease.epoch →
      a'.servers.get? lease.server = some (conn.checkOut lease.client lease.epoch) →
      Given a lease a'
  | opened :
      a.nextServer ≤ lease.server → a.seq < lease.epoch →
      a'.servers.get? lease.server = some
        (ServerConn.new lease.server lease.tenant lease.credit lease.client lease.epoch) →
      Given a lease a'

/-- Servers are handed out, each once and each under a later epoch than the one before, and the
others stay as they are. -/
structure Handover (a : Allocator T) (leases : List (Lease T)) (a' : Allocator T) : Prop where
  given : ∀ lease ∈ leases, Given a lease a'
  once : (leases.map (·.server)).Nodup
  rising : (leases.map (·.epoch)).Pairwise (· < ·)
  recent : ∀ lease ∈ leases, lease.epoch ≤ a'.seq
  others : ∀ id, id ∉ leases.map (·.server) → a'.servers.get? id = a.servers.get? id
  clients : a'.clients = a.clients
  later : Later a a'

lemma Given.epoch_gt (h : Given a lease a') : a.seq < lease.epoch := by
  cases h with
  | reused conn hconn hidle howner hcredit hepoch hnew => exact hepoch
  | opened hid hepoch hnew => exact hepoch

lemma Given.holds (h : Given a lease a') :
    ∃ conn, a'.servers.get? lease.server = some conn ∧ conn.Holds lease := by
  cases h with
  | reused conn hconn hidle howner hcredit hepoch hnew =>
    exact ⟨_, hnew, rfl, rfl, howner, rfl, hcredit⟩
  | opened hid hepoch hnew => exact ⟨_, hnew, rfl, rfl, rfl, rfl, rfl⟩

/-- Nothing is handed out, and no server changes. -/
lemma Handover.idle (hservers : a'.servers = a.servers) (hclients : a'.clients = a.clients)
    (hlater : Later a a') : Handover a [] a' where
  given := by
    intro lease hmem
    cases hmem
  once := nodup_nil
  rising := List.Pairwise.nil
  recent := by
    intro lease hmem
    cases hmem
  others := by
    intro id _
    rw [hservers]
  clients := hclients
  later := hlater

lemma Handover.refl (a : Allocator T) : Handover a [] a :=
  .idle rfl rfl (.refl a)

lemma Handover.single (hgiven : Given a lease a') (hrecent : lease.epoch ≤ a'.seq)
    (hothers : ∀ id, id ≠ lease.server → a'.servers.get? id = a.servers.get? id)
    (hclients : a'.clients = a.clients) (hlater : Later a a') : Handover a [lease] a' where
  given := by
    intro other hmem
    obtain rfl := mem_singleton.mp hmem
    exact hgiven
  once := nodup_singleton _
  rising := pairwise_singleton _ _
  recent := by
    intro other hmem
    obtain rfl := mem_singleton.mp hmem
    exact hrecent
  others := by
    intro id hid
    exact hothers id fun heq => hid (by simp [heq])
  clients := hclients
  later := hlater

variable {first second : List (Lease T)}

/-- A server handed out in the second part was not handed out in the first: there it has
become active. -/
lemma Handover.disjoint (hc : b.Consistent)
    (hab : Handover a first b) (hbc : Handover b second c) {other : Lease T}
    (hlease : lease ∈ first) (hother : other ∈ second) : lease.server ≠ other.server := by
  obtain ⟨conn, hconn, hactive, -⟩ := (hab.given lease hlease).holds
  intro hsame
  cases hbc.given other hother with
  | reused idle hidle hstate howner hcredit hepoch hnew =>
    rw [← hsame, hconn, some.injEq] at hidle
    rw [← hidle, hactive] at hstate
    cases hstate
  | opened hid hepoch hnew =>
    have hlt := (hc.server lease.server conn hconn).2.1
    rw [← hsame] at hid
    exact absurd hlt (not_lt.mpr hid)

lemma Handover.trans (hc : b.Consistent)
    (hab : Handover a first b) (hbc : Handover b second c) : Handover a (first ++ second) c where
  given := by
    intro lease hmem
    rcases mem_append.mp hmem with hfirst | hsecond
    · -- handed out before: the second part leaves it alone
      have hkept : c.servers.get? lease.server = b.servers.get? lease.server := by
        apply hbc.others
        intro hagain
        obtain ⟨other, hother, hsame⟩ := List.mem_map.mp hagain
        exact Handover.disjoint hc hab hbc hfirst hother hsame.symm
      cases hab.given lease hfirst with
      | reused conn hconn hstate howner hcredit hepoch hnew =>
        exact .reused conn hconn hstate howner hcredit hepoch (hkept.trans hnew)
      | opened hid hepoch hnew => exact .opened hid hepoch (hkept.trans hnew)
    -- handed out after: the first part has not touched it
    have hkept : b.servers.get? lease.server = a.servers.get? lease.server := by
      apply hab.others
      intro hagain
      obtain ⟨other, hother, hsame⟩ := List.mem_map.mp hagain
      exact Handover.disjoint hc hab hbc hother hsecond hsame
    have hseq := hab.later.seq
    cases hbc.given lease hsecond with
    | reused conn hconn hstate howner hcredit hepoch hnew =>
      exact .reused conn (hkept ▸ hconn) hstate howner hcredit (by omega) hnew
    | opened hid hepoch hnew =>
      exact .opened (hab.later.nextServer.trans hid) (by omega) hnew
  once := by
    rw [map_append, nodup_append]
    refine ⟨hab.once, hbc.once, ?_⟩
    intro id hfirst id' hsecond
    obtain ⟨lease, hlease, rfl⟩ := List.mem_map.mp hfirst
    obtain ⟨other, hother, rfl⟩ := List.mem_map.mp hsecond
    exact Handover.disjoint hc hab hbc hlease hother
  rising := by
    rw [map_append, pairwise_append]
    refine ⟨hab.rising, hbc.rising, ?_⟩
    intro epoch hfirst epoch' hsecond
    obtain ⟨lease, hlease, rfl⟩ := List.mem_map.mp hfirst
    obtain ⟨other, hother, rfl⟩ := List.mem_map.mp hsecond
    exact lt_of_le_of_lt (hab.recent lease hlease) (hbc.given other hother).epoch_gt
  recent := by
    intro lease hmem
    rcases mem_append.mp hmem with hfirst | hsecond
    · exact (hab.recent lease hfirst).trans hbc.later.seq
    · exact hbc.recent lease hsecond
  others := by
    intro id hid
    rw [map_append, mem_append, not_or] at hid
    rw [hbc.others id hid.2, hab.others id hid.1]
  clients := hbc.clients.trans hab.clients
  later := hab.later.trans hbc.later

/-- Only the server table and the counters matter to what was handed out. -/
lemma Handover.of_servers {b' : Allocator T} {leases : List (Lease T)} (h : Handover a leases b)
    (hservers : b'.servers = b.servers) (hclients : b'.clients = b.clients) (hlater : Later b b') :
    Handover a leases b' where
  __ := h
  given := by
    intro lease hmem
    cases h.given lease hmem with
    | reused conn hconn hstate howner hcredit hepoch hnew =>
      exact .reused conn hconn hstate howner hcredit hepoch (hservers ▸ hnew)
    | opened hid hepoch hnew => exact .opened hid hepoch (hservers ▸ hnew)
  recent := fun lease hmem => (h.recent lease hmem).trans hlater.seq
  others := by
    intro id hid
    rw [hservers]
    exact h.others id hid
  clients := hclients.trans h.clients
  later := h.later.trans hlater

variable {conn : ServerConn T}

/-- Reusing an idle server hands it out. -/
lemma checkedOut_handover (hc : a.Consistent) {key : ServerKey}
    (client : ClientId) (hrt : a.tenants.get? t = some rt) (hlast : rt.idle.last? = some key)
    (hconn : a.servers.get? key.server = some conn) :
    Handover a [conn.leaseTo t client (a.seq + 1)] (a.checkedOut t rt key conn client) := by
  obtain ⟨found, hfound, howner, hidle, -⟩ := hc.idle_last hrt hlast
  rw [hconn] at hfound
  cases hfound
  have hid : conn.id = key.server := (hc.server _ _ hconn).1
  refine .single (.reused conn ?_ hidle howner rfl (lt_succ_self _) ?_) le_rfl ?_ rfl
    (Move.checkOut client hrt hlast hconn).later
  · change a.servers.get? conn.id = some conn
    rw [hid]
    exact hconn
  · change (a.servers.insert key.server _).get? conn.id = _
    rw [hid]
    exact get?_insert_self _ _ _
  intro id hne
  change (a.servers.insert key.server _).get? id = _
  refine get?_insert_of_ne _ _ ?_
  rw [← hid]
  exact hne

/-- Opening a server hands it out. -/
lemma opened_handover (a : Allocator T) (t : T) (rt : TenantRuntime T) (credit : CreditKind)
    (client : ClientId) (budget : CapacityBudget T) :
    Handover a [(ServerConn.new a.nextServer t credit client (a.seq + 1)).leaseTo t client
      (a.seq + 1)] (a.opened t rt credit client budget) := by
  refine .single (.opened le_rfl (lt_succ_self _) ?_) le_rfl ?_ rfl ⟨le_succ _, le_succ _⟩
  · exact get?_insert_self _ _ _
  · intro id hne
    exact get?_insert_of_ne _ _ hne

/-! ### The queue drain -/

/-- The lease of a grant is drawn for the client whose ticket it serves, and not from the
cancel credit. -/
def Grant.Fits (grant : Grant T) : Prop :=
  grant.lease.client = grant.client ∧ grant.lease.tenant = grant.tenant ∧
    grant.lease.credit ≠ .cancel

lemma tick_handover (a : Allocator T) : Handover a [] { a with seq := a.seq + 1 } :=
  Handover.idle rfl rfl (Move.tick a).later

lemma serveHead_handover (hc : a.Consistent) (hrt : a.tenants.get? t = some rt)
    {client : ClientId} (h : a.serveHead t client = some (some lease, a')) :
    Handover a [lease] a' ∧ lease.client = client ∧ lease.tenant = t ∧ lease.credit ≠ .cancel := by
  obtain ⟨entry, hentry, -⟩ := hc.rows hrt
  rcases reuseIdle_spec hc t client with
    ⟨hreuse, -⟩ | ⟨rt1, key, conn, hrt1, hlast, hconn, hreuse⟩
  · have hticked : Consistent { a with seq := a.seq + 1 } := hc.tick _
    have hopen : ∀ credit, credit ≠ .cancel →
        openServer { a with seq := a.seq + 1 } t credit client = some (lease, a') →
        Handover a [lease] a' ∧ lease.client = client ∧ lease.tenant = t ∧
          lease.credit ≠ .cancel := by
      intro credit hcredit hopened
      obtain ⟨budget, -, heq⟩ := openServer_spec hticked hrt hentry credit client
      rw [heq] at hopened
      cases hopened
      exact ⟨(tick_handover a).trans hticked (opened_handover _ t rt credit client budget),
        rfl, rfl, hcredit⟩
    simp only [serveHead, hreuse, bind_eq_bind, bind_some, bind_eq_some_iff] at h
    obtain ⟨decision, -, hserved⟩ := h
    split at hserved
    iterate 2
      · obtain ⟨⟨granted, b⟩, hopened, hanswer⟩ := bind_eq_some_iff.mp hserved
        cases hanswer
        exact hopen _ (by decide) hopened
    · simp only [some.injEq, Prod.mk.injEq] at hserved
      cases hserved.1
  · simp only [serveHead, hreuse, bind_eq_bind, bind_some, some.injEq, Prod.mk.injEq] at h
    obtain ⟨rfl, rfl⟩ := h
    obtain ⟨found, hfound, -, hidle, -⟩ := hc.idle_last hrt1 hlast
    rw [hconn] at hfound
    cases hfound
    exact ⟨checkedOut_handover hc client hrt1 hlast hconn, rfl, rfl, hc.credit_of_idle hconn hidle⟩

/-- Who waits for a tenant, by ticket and client. -/
def waitersOf (a : Allocator T) (t : T) : List (TicketId × ClientId) :=
  (a.queueOf t).map fun ticket => (ticket.id, ticket.client)

/-- Who is served for a tenant, in grant order. -/
def servedFor (grants : List (Grant T)) (t : T) : List (TicketId × ClientId) :=
  (grants.filter fun grant => grant.tenant = t).map fun grant => (grant.ticket, grant.client)

lemma waitersOf_congr (h : a'.queueOf t = a.queueOf t) : a'.waitersOf t = a.waitersOf t := by
  rw [waitersOf, h, waitersOf]

/-- The tenant is bound and migrates. -/
def migrates (a : Allocator T) (t : T) : Bool :=
  (a.tenants.get? t).any (·.migrating)

variable {rt' : TenantRuntime T}

lemma migrates_of_insert {owner : T}
    (htenants : b.tenants = a.tenants.insert owner rt') (hrt : a.tenants.get? owner = some rt)
    (hsame : rt'.migrating = rt.migrating) (t : T) : b.migrates t = a.migrates t := by
  rw [migrates, htenants, get?_insert]
  by_cases ht : t = owner
  · rw [if_pos ht, migrates, ht, hrt, any_some, any_some, hsame]
  · rw [if_neg ht, migrates]

/-- Tickets are served: each with a lease drawn for its client, from the head of the queue of
a tenant that does not migrate, on servers that are handed out for it. -/
structure Deals (a : Allocator T) (grants : List (Grant T)) (a' : Allocator T) : Prop where
  handover : Handover a (grants.map (·.lease)) a'
  fits : ∀ grant ∈ grants, Grant.Fits grant
  waiters : ∀ t, a.waitersOf t = servedFor grants t ++ a'.waitersOf t
  settled : ∀ grant ∈ grants, a.migrates grant.tenant = false
  flags : ∀ t, a'.migrates t = a.migrates t

/-- Nothing is dealt, and neither the servers nor the tenants change. -/
lemma Deals.nothing (hservers : a'.servers = a.servers) (htenants : a'.tenants = a.tenants)
    (hclients : a'.clients = a.clients) (hlater : Later a a') : Deals a [] a' where
  handover := .idle hservers hclients hlater
  fits := by
    intro grant hmem
    cases hmem
  waiters := by
    intro t
    rw [waitersOf, waitersOf, queueOf, queueOf, htenants]
    rfl
  settled := by
    intro grant hmem
    cases hmem
  flags := by
    intro t
    rw [migrates, htenants, migrates]

lemma Deals.refl (a : Allocator T) : Deals a [] a :=
  .nothing rfl rfl rfl (.refl a)

lemma Deals.trans (hc : b.Consistent) {first second : List (Grant T)} (hab : Deals a first b)
    (hbc : Deals b second c) : Deals a (first ++ second) c where
  handover := by
    rw [map_append]
    exact hab.handover.trans hc hbc.handover
  fits := by
    intro grant hmem
    rcases mem_append.mp hmem with hfirst | hsecond
    · exact hab.fits grant hfirst
    · exact hbc.fits grant hsecond
  waiters := by
    intro t
    simp [hab.waiters t, hbc.waiters t, servedFor]
  settled := by
    intro grant hmem
    rcases mem_append.mp hmem with hfirst | hsecond
    · exact hab.settled grant hfirst
    · rw [← hab.flags]
      exact hbc.settled grant hsecond
  flags := fun t => (hbc.flags t).trans (hab.flags t)

lemma tick_deals (a : Allocator T) : Deals a [] { a with seq := a.seq + 1 } :=
  Deals.nothing rfl rfl rfl (Move.tick a).later

/-- Serving the head of a queue and taking its ticket off. -/
lemma popTicket_deals {ticket : Ticket T} {rest : List (Ticket T)}
    {grant : Grant T} (hrt : a.tenants.get? t = some rt) (hqueue : rt.queue = ticket :: rest)
    (hhandover : Handover a [lease] b) (htenants : b.tenants = a.tenants.insert t rt')
    (hsame : rt'.queue = rt.queue) (hclient : lease.client = ticket.client)
    (howner : lease.tenant = t) (hcredit : lease.credit ≠ .cancel) (hsettled : rt.migrating = false)
    (hflag : rt'.migrating = rt.migrating) (h : b.popTicket t lease = some (grant, a')) :
    Deals a [grant] a' := by
  have hrt' : b.tenants.get? t = some rt' := by
    rw [htenants]
    exact get?_insert_self _ _ _
  simp only [popTicket, hrt', hsame, hqueue, bind_eq_bind, bind_some,
    bind_eq_some_iff, some.injEq, Prod.mk.injEq] at h
  obtain ⟨total, -, rfl, rfl⟩ := h
  refine ⟨hhandover.of_servers rfl rfl ⟨le_rfl, le_rfl⟩, ?_, ?_, ?_, ?_⟩
  · intro grant hmem
    obtain rfl := mem_singleton.mp hmem
    exact ⟨hclient, howner, hcredit⟩
  · intro t'
    have hpopped : queueOf { b with
        tenants := b.tenants.insert t { rt' with queue := rest }
        queuedTotal := total } t' = if t' = t then rest else b.queueOf t' :=
      queueOf_insert b { rt' with queue := rest } rfl t'
    rw [waitersOf, waitersOf, hpopped, queueOf_insert a rt' htenants]
    by_cases ht' : t' = t
    · subst ht'
      rw [if_pos rfl, queueOf_eq hrt, hqueue]
      simp [servedFor]
    · rw [if_neg ht', if_neg ht']
      simp [servedFor, Ne.symm ht']
  · intro grant hmem
    obtain rfl := mem_singleton.mp hmem
    rw [migrates, hrt, any_some]
    exact hsettled
  · intro t'
    rw [← migrates_of_insert htenants hrt hflag t']
    exact migrates_of_insert (b := { b with
      tenants := b.tenants.insert t { rt' with queue := rest }
      queuedTotal := total }) rfl hrt' rfl t'

variable {a a' : Allocator T}

lemma drainRound_deals {order : List T} {granted : Option (Grant T)} :
    a.Sound → drainRound order a = some (granted, a') → Deals a granted.toList a' := by
  induction order generalizing a a' granted with
  | nil =>
    intro _ h
    simp only [drainRound] at h
    cases h
    exact .refl a
  | cons t rest ih =>
    intro hs h
    simp only [drainRound, bind_eq_bind, bind_eq_some_iff] at h
    obtain ⟨rt, hrt, h⟩ := h
    split at h
    · exact ih hs h
    rename_i hmigrating
    simp only [bind_eq_some_iff] at h
    obtain ⟨ticket, hhead, ⟨served, b⟩, hserve, h⟩ := h
    obtain ⟨tickets, hqueue⟩ := head?_eq_some_iff.mp hhead
    rcases serveHead_spec hs.consistent hrt ticket.client with
      ⟨hnone, -, -⟩ | ⟨lease, b', rt', hsome, hmoves, htenants, hsame, -, hflag, -⟩
    · -- nobody served: the rest of the order goes on from a ticked state
      rw [hnone] at hserve
      cases hserve
      have hticked : Sound { a with seq := a.seq + 1 } := (Move.tick a).sound hs
      exact (tick_deals a).trans hticked.consistent (ih hticked h)
    obtain ⟨hhandover, hclient, howner, hcredit⟩ := serveHead_handover hs.consistent hrt hsome
    rw [hsome] at hserve
    cases hserve
    obtain ⟨⟨grant, c⟩, hpop, hanswer⟩ := bind_eq_some_iff.mp h
    cases hanswer
    exact popTicket_deals hrt hqueue hhandover htenants hsame hclient howner hcredit
      (Bool.eq_false_iff.mpr hmigrating) hflag hpop

variable {grants : List (Grant T)}

lemma drainLoop_deals {fuel : Nat} :
    a.Sound → drainLoop fuel a = some (grants, a') → Deals a grants a' := by
  induction fuel generalizing a a' grants with
  | zero =>
    intro _ h
    cases h
  | succ fuel ih =>
    intro hs h
    rw [drainLoop] at h
    split at h
    · cases h
      exact .refl a
    simp only [bind_eq_bind, bind_eq_some_iff] at h
    obtain ⟨order, horder, ⟨granted, b⟩, hround, h⟩ := h
    have hdeals := drainRound_deals hs hround
    obtain ⟨order', horder', hmem⟩ := schedulerOrder_spec hs
    rw [horder, some.injEq] at horder'
    subst horder'
    have hsound : b.Sound := by
      rcases drainRound_spec hs fun t ht => (hmem t).mp ht with
        ⟨seq, heq, hmoves, -⟩ | ⟨grant, b', heq, hmoves, -⟩
      all_goals
        rw [heq, some.injEq, Prod.mk.injEq] at hround
        exact hround.2 ▸ (Moves.sound hmoves hs).1
    cases granted with
    | none =>
      cases h
      exact hdeals
    | some grant =>
      obtain ⟨⟨rest, c⟩, hloop, hanswer⟩ := bind_eq_some_iff.mp h
      cases hanswer
      exact hdeals.trans hsound.consistent (ih hsound hloop)

lemma drainQueue_deals (hs : a.Sound) (h : a.drainQueue = some (grants, a')) : Deals a grants a' :=
  drainLoop_deals hs h

end Allocator
end PgElastic.Capacity
