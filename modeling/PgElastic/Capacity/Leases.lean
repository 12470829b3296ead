import PgElastic.Capacity.Calls

/-!
# Leases that are out

A lease is out while the server table records it.  A call changes the table in two phases
(`Turnover`): it retires servers, then it hands servers out.  A lease stays out unless the
first phase retires its server, because the second phase only touches servers that are idle or
new; and what is out after a call was out before or was handed out by it.
-/

namespace PgElastic.Capacity

open Library Option OrderedMap List

variable {T : Type} [LinearOrder T]

omit [LinearOrder T] in
/-- A server is recorded for one lease at a time. -/
lemma ServerConn.Holds.unique {conn : ServerConn T} {lease other : Lease T} (h : conn.Holds lease)
    (h' : conn.Holds other) (hserver : lease.server = other.server) : lease = other := by
  obtain ⟨-, hepoch, htenant, hclient, hcredit⟩ := h
  obtain ⟨-, hepoch', htenant', hclient', hcredit'⟩ := h'
  rw [hclient, some.injEq] at hclient'
  cases lease with
  | mk server tenant client credit epoch =>
    cases other with
    | mk server' tenant' client' credit' epoch' =>
      simp only at hserver hepoch htenant hcredit hepoch' htenant' hclient' hcredit'
      rw [hserver, ← htenant, htenant', hclient', ← hcredit, hcredit', ← hepoch, hepoch']

namespace Allocator

/-- The server table records the lease. -/
def Leased (a : Allocator T) (lease : Lease T) : Prop :=
  ∃ conn, a.servers.get? lease.server = some conn ∧ conn.Holds lease

/-- A client has the server. -/
def InUse (a : Allocator T) (id : ServerId) : Prop :=
  ∃ conn, a.servers.get? id = some conn ∧ conn.state = .active

variable {a a' : Allocator T} {lease : Lease T} {id : ServerId} {op : Op T} {conn : ServerConn T}
  {leases : List (Lease T)} {grants : List (Grant T)} {client : ClientId} {kind : RequestKind}
  {now : Timestamp} {admission : Admission T} {outcome : ReleaseOutcome T} {m : Allocator T} {t : T}

lemma Leased.inUse (h : a.Leased lease) : a.InUse lease.server := by
  obtain ⟨conn, hconn, hholds⟩ := h
  exact ⟨conn, hconn, hholds.1⟩

lemma Leased.unique {other : Lease T} (h : a.Leased lease) (h' : a.Leased other)
    (hserver : lease.server = other.server) : lease = other := by
  obtain ⟨conn, hconn, hholds⟩ := h
  obtain ⟨conn', hconn', hholds'⟩ := h'
  rw [← hserver, hconn, some.injEq] at hconn'
  subst hconn'
  exact hholds.unique hholds' hserver

lemma Leased.congr (hservers : a'.servers = a.servers) (h : a.Leased lease) : a'.Leased lease := by
  rw [Leased, hservers]
  exact h

lemma InUse.known (hc : a.Consistent) (h : a.InUse id) : id < a.nextServer := by
  obtain ⟨conn, hconn, -⟩ := h
  exact (hc.server id conn hconn).2.1

/-! ### The two phases -/

/-- The servers an operation may take from their clients. -/
def Op.Retires (op : Op T) (id : ServerId) (conn : ServerConn T) : Prop :=
  op.Closes id conn ∨ op.Parks id conn

lemma Prepared.leased (h : Prepared op a m) (hlease : a.Leased lease)
    (hspared : ∀ conn, a.servers.get? lease.server = some conn → conn.Holds lease →
      ¬ op.Retires lease.server conn) : m.Leased lease := by
  obtain ⟨conn, hconn, hholds⟩ := hlease
  have hspare := hspared conn hconn hholds
  have hfate := h.fate _ _ hconn
  generalize hnow : m.servers.get? lease.server = now at hfate
  cases hfate with
  | same => exact ⟨conn, hnow, hholds⟩
  | parked seq hparks hstate hneeded hcredit => exact absurd (.inr hparks) hspare
  | marked hmarks => exact ⟨_, hnow, hholds⟩
  | closed hcloses => exact absurd (.inl hcloses) hspare

/-- A server that is there after the first phase was there before, and is not newly in use. -/
lemma Prepared.was (h : Prepared op a m) (hconn : m.servers.get? id = some conn) :
    ∃ old, a.servers.get? id = some old ∧ old.tenant = conn.tenant ∧
      old.credit = conn.credit ∧ (conn.state = .active →
        old.state = .active ∧ old.epoch = conn.epoch ∧ old.client = conn.client) := by
  obtain ⟨old, hold, hkept⟩ := h.origin hconn
  refine ⟨old, hold, ?_⟩
  cases hkept with
  | same => exact ⟨rfl, rfl, fun hstate => ⟨hstate, rfl, rfl⟩⟩
  | parked seq hparks hstate hneeded hcredit => exact ⟨rfl, rfl, nofun⟩
  | marked hmarks => exact ⟨rfl, rfl, fun hstate => ⟨hstate, rfl, rfl⟩⟩

section

variable (h : Handover a leases a')
include h

/-- No server is handed out that a client has. -/
lemma Handover.fresh (hc : a.Consistent) (hlease : lease ∈ leases) : ¬ a.InUse lease.server := by
  rintro ⟨conn, hconn, hstate⟩
  cases h.given lease hlease with
  | reused found hfound hidle howner hcredit hepoch hnew =>
    rw [hconn, some.injEq] at hfound
    rw [← hfound, hstate] at hidle
    cases hidle
  | opened hid hepoch hnew =>
    exact absurd (hc.server lease.server conn hconn).2.1 (not_lt.mpr hid)

lemma Handover.leased (hc : a.Consistent) (hlease : a.Leased lease) : a'.Leased lease := by
  have hothers : lease.server ∉ leases.map (·.server) := by
    intro hagain
    obtain ⟨other, hother, hserver⟩ := List.mem_map.mp hagain
    exact h.fresh hc hother (hserver ▸ hlease.inUse)
  obtain ⟨conn, hconn, hholds⟩ := hlease
  exact ⟨conn, (h.others _ hothers).trans hconn, hholds⟩

lemma Handover.origin (hconn : a'.servers.get? id = some conn) :
    a.servers.get? id = some conn ∨ ∃ lease ∈ leases, lease.server = id ∧ conn.Holds lease := by
  by_cases hgiven : id ∈ leases.map (·.server)
  · right
    obtain ⟨lease, hlease, rfl⟩ := List.mem_map.mp hgiven
    obtain ⟨found, hfound, hholds⟩ := (h.given lease hlease).holds
    rw [hconn, some.injEq] at hfound
    exact ⟨lease, hlease, rfl, hfound ▸ hholds⟩
  · left
    rw [← h.others id hgiven]
    exact hconn

/-- Handing servers out closes none. -/
lemma Handover.present (hthere : (a.servers.get? id).isSome) : (a'.servers.get? id).isSome := by
  by_cases hgiven : id ∈ leases.map (·.server)
  · obtain ⟨lease, hlease, rfl⟩ := List.mem_map.mp hgiven
    obtain ⟨conn, hconn, -⟩ := (h.given lease hlease).holds
    rw [hconn]
    rfl
  · rw [h.others id hgiven]
    exact hthere

end

/-- What one call does to the servers. -/
def Turnover (op : Op T) (a : Allocator T) (leases : List (Lease T)) (a' : Allocator T) :
    Prop :=
  ∃ m, m.Sound ∧ Prepared op a m ∧ Handover m leases a'

section Turnover

variable {op : Op T} {a a' : Allocator T} {leases : List (Lease T)}

variable {lease : Lease T} {id : ServerId}

section

variable (h : Turnover op a leases a')
include h

lemma Turnover.leased (hlease : a.Leased lease)
    (hspared : ∀ conn, a.servers.get? lease.server = some conn → conn.Holds lease →
      ¬ op.Retires lease.server conn) : a'.Leased lease := by
  obtain ⟨m, hsm, hprepared, hhandover⟩ := h
  exact hhandover.leased hsm.consistent (hprepared.leased hlease hspared)

lemma Turnover.given (hlease : lease ∈ leases) : a'.Leased lease := by
  obtain ⟨m, -, -, hhandover⟩ := h
  exact (hhandover.given lease hlease).holds

lemma Turnover.known : a.nextServer ≤ a'.nextServer := by
  obtain ⟨m, -, hprepared, hhandover⟩ := h
  exact hprepared.later.nextServer.trans hhandover.later.nextServer

/-- A server is there until the first phase closes it. -/
lemma Turnover.present (hconn : a.servers.get? id = some conn) (hspared : ¬ op.Closes id conn) :
    (a'.servers.get? id).isSome := by
  obtain ⟨m, -, hprepared, hhandover⟩ := h
  apply hhandover.present
  have hfate := hprepared.fate id conn hconn
  generalize m.servers.get? id = now at hfate
  cases hfate with
  | same => rfl
  | parked seq hparks hstate hneeded hcredit => rfl
  | marked hmarks => rfl
  | closed hcloses => exact absurd hcloses hspared

/-- What is in use afterwards was in use before, or was handed out. -/
lemma Turnover.inUse_origin (huse : a'.InUse id) :
    a.InUse id ∨ ∃ lease ∈ leases, lease.server = id := by
  obtain ⟨m, -, hprepared, hhandover⟩ := h
  obtain ⟨conn, hconn, hstate⟩ := huse
  rcases hhandover.origin hconn with hbefore | ⟨lease, hlease, hserver, -⟩
  · obtain ⟨old, hold, -, -, hactive⟩ := hprepared.was hbefore
    exact .inl ⟨old, hold, (hactive hstate).1⟩
  · exact .inr ⟨lease, hlease, hserver⟩

/-- A lease that is out afterwards was out before, or was handed out. -/
lemma Turnover.leased_origin (hlease : a'.Leased lease) : a.Leased lease ∨ lease ∈ leases := by
  obtain ⟨m, -, hprepared, hhandover⟩ := h
  obtain ⟨conn, hconn, hholds⟩ := hlease
  rcases hhandover.origin hconn with hbefore | ⟨other, hother, hserver, hthere⟩
  · obtain ⟨old, hold, htenant, hcredit, hactive⟩ := hprepared.was hbefore
    obtain ⟨hstate, hepoch, howner, hclient, hkind⟩ := hholds
    obtain ⟨hwas, hsame, hfor⟩ := hactive hstate
    exact .inl ⟨old, hold, hwas, hsame.trans hepoch, htenant.trans howner, hfor.trans hclient,
      hcredit.trans hkind⟩
  · right
    rw [hholds.unique hthere hserver.symm]
    exact hother

/-- A server that is idle afterwards was idle before, unless the call parks servers. -/
lemma Turnover.idle_origin (hparks : ∀ id conn, ¬ op.Parks id conn)
    (hconn : a'.servers.get? id = some conn) (hidle : conn.state = .idle) :
    ∃ old, a.servers.get? id = some old ∧ old.tenant = conn.tenant ∧ old.state = .idle := by
  obtain ⟨m, -, hprepared, hhandover⟩ := h
  rcases hhandover.origin hconn with hbefore | ⟨lease, -, -, hholds⟩
  · obtain ⟨old, hold, hkept⟩ := hprepared.origin hbefore
    refine ⟨old, hold, ?_⟩
    cases hkept with
    | same => exact ⟨rfl, hidle⟩
    | parked seq hpark hstate hneeded hcredit => exact absurd hpark (hparks id old)
    | marked hmarks => exact ⟨rfl, hidle⟩
  · rw [hholds.1] at hidle
    cases hidle

end

end Turnover

/-- A tenant has no lease out and no server idle. -/
structure Deserted (a : Allocator T) (t : T) : Prop where
  unleased : ∀ lease, a.Leased lease → lease.tenant ≠ t
  busy : ∀ id conn, a.servers.get? id = some conn → conn.tenant = t → conn.state ≠ .idle

lemma Gives.turnover (h : Gives op a grants a') : Turnover op a (grants.map (·.lease)) a' := by
  obtain ⟨m, hsm, hprepared, -, hdeals⟩ := h.dealt
  exact ⟨m, hsm, hprepared, hdeals.handover⟩

/-- Only a tenant somebody waits for is granted anything. -/
lemma Gives.waited (h : Gives op a grants a') {grant : Grant T} (hgrant : grant ∈ grants) :
    a.waitersOf grant.tenant ≠ [] := by
  rw [h.waiters]
  intro hnil
  have hserved : (grant.ticket, grant.client) ∈ servedFor grants grant.tenant :=
    List.mem_map.mpr ⟨grant, mem_filter.mpr ⟨hgrant, decide_eq_true rfl⟩, rfl⟩
  rw [(append_eq_nil_iff.mp hnil).1] at hserved
  cases hserved

/-- A tenant nobody waits for stays deserted. -/
lemma Gives.deserted (h : Gives op a grants a') (hparks : ∀ id conn, ¬ op.Parks id conn)
    (hnobody : a.waitersOf t = []) (hdeserted : a.Deserted t) : a'.Deserted t where
  unleased := by
    rintro lease hlease rfl
    rcases h.turnover.leased_origin hlease with hbefore | hgiven
    · exact hdeserted.unleased lease hbefore rfl
    · obtain ⟨grant, hgrant, rfl⟩ := List.mem_map.mp hgiven
      have howner := (h.fits grant hgrant).2.1
      exact h.waited hgrant (howner ▸ hnobody)
  busy := by
    intro id conn hconn howner hidle
    obtain ⟨old, hold, htenant, hwas⟩ := h.turnover.idle_origin hparks hconn hidle
    exact hdeserted.busy id old hold (htenant.trans howner) hwas

/-! ### Single calls -/

omit [LinearOrder T] in
/-- A request for a server takes none from anybody. -/
lemma tryLease_retires_none (hholds : conn.Holds lease) :
    ¬ (Op.tryLease client kind now : Op T).Retires lease.server conn := by
  rintro (hidle | hparks)
  · have hstate : conn.state = .idle := hidle
    rw [hholds.1] at hstate
    cases hstate
  · exact hparks

lemma tryLease_turnover (hs : a.Sound) (hcall : a.tryLease client kind now = some (admission, a')) :
    Turnover (.tryLease client kind now) a (Outcome.admitted admission).leases a' := by
  have happly : a.apply (.tryLease client kind now) = _ := report_eq hcall
  exact apply_fates hs happly

/-- A request closes only servers that have to yield to its tenant; one for a cancel closes
none. -/
lemma tryLease_present (hs : a.Sound) (hcall : a.tryLease client kind now = some (admission, a'))
    (hconn : a.servers.get? id = some conn)
    (hspared : kind = .cancel ∨ ∀ t, a.clients.get? client = some t → a.yields t conn = false) :
    (a'.servers.get? id).isSome := by
  rcases tryLease_fates hs hcall with
    ⟨-, rfl, -⟩ | ⟨t, m, hclient, -, -, hcancel, hyielded, -, hdecided⟩
  · rw [hconn]
    rfl
  apply hdecided.handover.present
  rcases hspared with hkind | hkeeps
  · rw [hcancel hkind, hconn]
    rfl
  cases hnow : m.servers.get? id with
  | some now => rfl
  | none =>
    have hmust := hyielded id conn hconn hnow
    rw [hkeeps t hclient] at hmust
    cases hmust

/-- A normal request is not answered with a cancel credit. -/
lemma tryLease_normal (hs : a.Sound)
    (hcall : a.tryLease client .normal now = some (admission, a')) :
    ∀ lease ∈ (Outcome.admitted admission).leases, lease.credit ≠ .cancel := by
  rcases tryLease_fates hs hcall with ⟨rfl, -⟩ | ⟨t, m, -, -, -, -, -, -, hdecided⟩
  · intro lease hlease
    cases hlease
  cases hdecided with
  | granted lease _ hhandover hfor htenant hcredit hqueues =>
    intro other hother
    obtain rfl := mem_singleton.mp hother
    exact fun hcancel => by cases hcredit.mp hcancel
  | _ =>
    intro lease hlease
    cases hlease

/-- A cancel request is granted a server of its own. -/
lemma tryLease_cancel (hs : a.Sound)
    (hcall : a.tryLease client .cancel now = some (.granted lease, a')) :
    lease.credit = .cancel ∧ a.nextServer ≤ lease.server ∧ ¬ a.Leased lease := by
  rcases tryLease_fates hs hcall with ⟨hstale, -⟩ | ⟨t, m, -, hsm, hprepared, -, -, -, hdecided⟩
  · cases hstale
  cases hdecided with
  | granted _ _ hhandover hfor htenant hcredit hqueues =>
    have hcancel : lease.credit = .cancel := hcredit.mpr rfl
    have hnew : a.nextServer ≤ lease.server := by
      cases hhandover.given lease (mem_singleton_self _) with
      | opened hid hepoch hthere => exact hprepared.later.nextServer.trans hid
      | reused conn hconn hidle howner hkind hepoch hthere =>
        exact absurd (hkind.trans hcancel) (hsm.consistent.credit_of_idle hconn hidle)
    refine ⟨hcancel, hnew, ?_⟩
    intro hlease
    exact absurd (hlease.inUse.known hs.consistent) (not_lt.mpr hnew)

omit [LinearOrder T] in
/-- Releasing a lease retires its server at most. -/
lemma release_retires (h : (Op.release lease).Retires id conn) : id = lease.server := by
  rcases h with hcloses | hparks
  · exact hcloses.1
  · exact hparks.1

/-- While nothing grantable waits, the death of a server is answered with new servers only. -/
lemma backendDied_opens (h : a.Live) {server : ServerId}
    (hcall : a.backendDied server = some (grants, a')) :
    ∀ grant ∈ grants, a.nextServer ≤ grant.lease.server := by
  intro grant hgrant
  obtain ⟨m, hsm, hservers, hlater, -, hflags, -, hdeals⟩ := backendDied_fates h.sound hcall
  cases hdeals.handover.given grant.lease (List.mem_map_of_mem hgrant) with
  | opened hid hepoch hnew => exact hlater.nextServer.trans hid
  | reused conn hconn hidle howner hcredit hepoch hnew =>
    exfalso
    have hold : a.servers.get? grant.lease.server = some conn := by
      rw [hservers] at hconn
      exact (get?_of_erase hconn).2
    have htenant : conn.tenant = grant.tenant := howner.trans (hdeals.fits grant hgrant).2.1
    obtain ⟨rt, hrt⟩ := isSome_iff_exists.mp (h.sound.consistent.server _ conn hold).2.2.1
    rw [htenant] at hrt
    rcases h.drained grant.tenant rt hrt with hmigrating | hempty | ⟨hnone, -⟩
    · have hsettled := hdeals.settled grant hgrant
      rw [hflags, migrates, hrt, any_some, hmigrating] at hsettled
      cases hsettled
    · have hnobody : a.waitersOf grant.tenant = [] := by
        rw [waitersOf, queueOf_eq hrt, hempty, map_nil]
      exact absurd hnobody ((backendDied_gives h hcall).waited hgrant)
    · have hactive := h.sound.consistent.all_active hrt hnone hold htenant
      rw [hidle] at hactive
      cases hactive

/-- A cancel request's lease ends with its release. -/
lemma release_ends (hs : a.Sound) (hcall : a.release lease = some (outcome, a'))
    (hlease : a.Leased lease) (hcredit : lease.credit = .cancel) : ¬ a'.Leased lease := by
  rintro ⟨now, hnow, hnowHolds⟩
  obtain ⟨conn, hconn, hholds⟩ := hlease
  rcases release_fates hs hcall with ⟨-, -, hstale | hpinned⟩ |
    ⟨found, m, hfound, hstate, hepoch, hretired, hlater, hsm, hwaiters, hdeals⟩
  · exact hstale.2 conn hconn ⟨hholds.1, hholds.2.1⟩
  · exact hpinned.2.2 conn hconn (hholds.2.2.2.2.trans hcredit)
  rw [hconn] at hfound
  cases hfound
  generalize outcome.disposition = disposition at hretired
  cases hretired with
  | parked seq _ hneeded hnormal hservers =>
    exact hnormal (hholds.2.2.2.2.trans hcredit)
  | closed _ hclose hservers =>
    rcases hdeals.handover.origin hnow with hbefore | ⟨other, hother, hserver, hthere⟩
    · rw [hservers, get?_erase, if_pos rfl] at hbefore
      cases hbefore
    -- handed out again: the new lease is the one of a queued request
    obtain ⟨grant, hgrant, rfl⟩ := List.mem_map.mp hother
    have hsame := hnowHolds.unique hthere hserver.symm
    exact (hdeals.fits grant hgrant).2.2 (hsame ▸ hcredit)

/-- A server that was released into the pool is in use again only if it was handed out. -/
lemma release_idle (hs : a.Sound)
    (hcall : a.release lease = some (outcome, a')) (hidle : outcome.disposition = .idle id) :
    (a'.servers.get? lease.server).isSome ∧ (a'.InUse lease.server →
      ∃ other ∈ outcome.grants.map (·.lease), other.server = lease.server) := by
  rcases release_fates hs hcall with ⟨-, -, hstale | hpinned⟩ |
    ⟨found, m, hfound, hstate, hepoch, hretired, hlater, hsm, hwaiters, hdeals⟩
  · rw [hidle] at hstale
    cases hstale.1
  · rw [hidle] at hpinned
    cases hpinned.1
  rw [hidle] at hretired
  cases hretired with
  | parked seq _ hneeded hnormal hservers =>
    have hthere : m.servers.get? lease.server = some (found.checkIn seq) := by
      rw [hservers, get?_insert_self]
    constructor
    · exact hdeals.handover.present (by rw [hthere]; rfl)
    rintro ⟨conn, hconn, huse⟩
    rcases hdeals.handover.origin hconn with hbefore | ⟨other, hother, hserver, -⟩
    · rw [hthere, some.injEq] at hbefore
      rw [← hbefore] at huse
      cases huse
    · exact ⟨other, hother, hserver⟩

/-- A tenant without live servers has servers of cancel requests only. -/
lemma Consistent.cancel_of_row (hc : a.Consistent)
    (hrow : ∀ entry, a.budget.tenants.get? t = some entry → entry.live = 0)
    (hconn : a.servers.get? id = some conn) (howner : conn.tenant = t) : conn.credit = .cancel := by
  by_contra hcredit
  obtain ⟨rt, entry, -, hentry, hcounts⟩ := hc.owner hconn
  have hzero := hrow entry (howner ▸ hentry)
  have hone := indicator_le hconn (ServerConn.liveOf_iff.mpr ⟨rfl, hcredit⟩)
  rw [← hcounts.live, hzero] at hone
  omega

end Allocator
end PgElastic.Capacity
