import PgElastic.Proxy.PoolManager

/-!
# Grants and waiters: dispatch

A ticket waits in the allocator, its waiter in the manager's wait queue, and a grant is handed
to whoever is first in the wait queue.  `Paired` says that the two queues name the same clients
in the same order, `pending` standing for the grants `dispatch` has not handed out yet.

With nobody half-way out of the queues, `dispatch` hands every grant to the client whose ticket
it serves (`dispatchLoop_paired`); from there the sweeps and the changes of tenants, which
dispatch again and again under one lock, keep the pairing.
-/

namespace PgElastic.Proxy.PoolManager

open Library Capacity Capacity.Allocator Pool Option OrderedMap List

variable {T F : Type} [LinearOrder T]

/-! ### Moving a task -/

section SetPhase

variable (s : PoolManager T F) (client : ClientId) (phase : Phase T)

lemma setPhase_eq : s.setPhase client phase =
    { s with sessions := (s.setPhase client phase).sessions } := by
  unfold setPhase
  cases s.sessions.get? client with
  | none => rfl
  | some session => rfl

@[simp] lemma setPhase_allocator : (s.setPhase client phase).allocator = s.allocator := by
  rw [setPhase_eq]

@[simp] lemma setPhase_parked : (s.setPhase client phase).parked = s.parked := by
  rw [setPhase_eq]

@[simp] lemma setPhase_waits : (s.setPhase client phase).waits = s.waits := by
  rw [setPhase_eq]

@[simp] lemma setPhase_ledger : (s.setPhase client phase).ledger = s.ledger := by
  rw [setPhase_eq]

@[simp] lemma setPhase_tenants : (s.setPhase client phase).tenants = s.tenants := by
  rw [setPhase_eq]

@[simp] lemma setPhase_cancels : (s.setPhase client phase).cancels = s.cancels := by
  rw [setPhase_eq]

@[simp] lemma setPhase_deliveries : (s.setPhase client phase).deliveries = s.deliveries := by
  rw [setPhase_eq]

@[simp] lemma setPhase_orphans : (s.setPhase client phase).orphans = s.orphans := by
  rw [setPhase_eq]

end SetPhase

/-! ### The fuel of a dispatch -/

lemma dispatchLoop_total {fuel : Nat} {s : PoolManager T F} {grants : List (Grant T)} :
    s.allocator.Sound → grants.length + s.allocator.queuedTotal ≤ fuel →
      ∃ s', dispatchLoop fuel s grants = some s' := by
  induction fuel generalizing s grants with
  | zero =>
    intro _ hfuel
    obtain rfl : grants = [] := length_eq_zero_iff.mp (by omega)
    exact ⟨s, by rw [dispatchLoop]⟩
  | succ fuel ih =>
    intro hs hfuel
    cases grants with
    | nil => exact ⟨s, by rw [dispatchLoop]⟩
    | cons grant pending =>
      rw [length_cons] at hfuel
      rw [dispatchLoop]
      split
      · refine ih ?_ ?_ <;> simp only [deliver, setPhase_allocator]
        · exact hs
        · omega
      · -- a grant nobody waits for is paid for by the tickets its release serves
        obtain ⟨outcome, a', hrelease, hprogress⟩ := release_spec hs grant.lease
        have hlength := length_release hs hrelease
        rw [hrelease]
        refine ih (Moves.sound hprogress.moves hs).1 ?_
        dsimp only
        rw [length_append]
        omega

/-- A dispatch comes to its end, whatever it is given to hand out. -/
theorem dispatch_total {s : PoolManager T F} (hs : s.allocator.Sound) (grants : List (Grant T)) :
    ∃ s', s.dispatch grants = some s' :=
  dispatchLoop_total hs le_rfl

variable {s s' s₁ s₀ : PoolManager T F} {client : ClientId} {session : Session T F}
  {pending grants : List (Grant T)} {t : T} {phase : Phase T} {grant : Grant T}
  {published : List (T × TenantSpec)} {pending' : List (Grant T)} {actor : Option ClientId}
  {order : List ServerId} {server : ServerId} {c : ClientId} {op : Op T}

lemma sessions_setPhase (h : s.sessions.get? client = some session) (phase : Phase T)
    (other : ClientId) :
    (s.setPhase client phase).sessions.get? other =
      if other = client then some { session with phase := phase } else s.sessions.get? other := by
  simp only [setPhase, h]
  exact get?_insert _ _ _ _

lemma phaseOf_eq (h : s.sessions.get? client = some session) :
    s.phaseOf client = session.phase := by
  rw [phaseOf, h]

lemma phaseOf_congr (h : s'.sessions.get? client = s.sessions.get? client) :
    s'.phaseOf client = s.phaseOf client := by
  rw [phaseOf, h, phaseOf]

lemma phaseOf_setPhase (h : s.sessions.get? client = some session) (phase : Phase T)
    (other : ClientId) :
    (s.setPhase client phase).phaseOf other =
      if other = client then phase else s.phaseOf other := by
  simp only [phaseOf, sessions_setPhase h]
  by_cases hsame : other = client
  · rw [if_pos hsame, if_pos hsame]
  · rw [if_neg hsame, if_neg hsame]

/-! ### The pairing -/

/-- Who waits for a tenant: those whose grant is still to be handed out, then the queue. -/
def due (s : PoolManager T F) (pending : List (Grant T)) (t : T) :
    List (TicketId × ClientId) :=
  servedFor pending t ++ s.allocator.waitersOf t

/-- A delivery that reached the client whose ticket was served. -/
def Delivery.Right (delivery : Delivery T) : Prop :=
  delivery.drawn = delivery.grant.ticket ∧ delivery.waiter = delivery.grant.client ∧
    delivery.grant.lease.client = delivery.waiter

/-- Tickets and waiters name the same clients in the same order. -/
structure Paired (s : PoolManager T F) (pending : List (Grant T)) : Prop where
  live : s.allocator.Live
  clients : ∀ c session, s.sessions.get? c = some session → c < s.allocator.nextClient ∧
    ∀ t, s.allocator.clients.get? c = some t → t = session.key.tenant
  unclosed : ∀ t, (s.waitQueue t).closed = false
  slots : ∀ t, (s.waitQueue t).waiters =
    ((s.due pending t).filter fun waiter => !(s.phaseOf waiter.2).isLeaving).map Prod.snd
  tickets : ∀ t k c, (k, c) ∈ s.due pending t ↔ ∃ session, s.sessions.get? c = some session ∧
    session.key.tenant = t ∧ session.phase.ticket = some k
  nodup : ∀ t, (s.due pending t).Nodup
  fits : ∀ grant ∈ pending, Grant.Fits grant
  owned : ∀ c session lease, s.sessions.get? c = some session →
    session.phase.lease = some lease → lease.client = c
  delivered : ∀ delivery ∈ s.deliveries, Delivery.Right delivery
  orphans : s.orphans = []

/-- Nobody is half-way out of the queues. -/
def Quiet (s : PoolManager T F) : Prop :=
  ∀ c session, s.sessions.get? c = some session → session.phase.halfOut = false

/-- A change of the manager that moves no task and keeps who waits. -/
lemma Paired.of_due (h : s.Paired pending) (hlive : s'.allocator.Live)
    (hadmits : Admits s.allocator s'.allocator) (hwaits : s'.waits = s.waits)
    (hsessions : s'.sessions = s.sessions) (hdeliveries : s'.deliveries = s.deliveries)
    (horphans : s'.orphans = s.orphans) (hdue : ∀ t, s'.due pending' t = s.due pending t)
    (hfits : ∀ grant ∈ pending', Grant.Fits grant) : s'.Paired pending' where
  live := hlive
  clients := by
    intro c session hsession
    rw [hsessions] at hsession
    obtain ⟨hknown, htenant⟩ := h.clients c session hsession
    refine ⟨hknown.trans_le hadmits.nextClient, ?_⟩
    intro t hclient
    rcases hadmits.known c t hclient with hold | hnew
    · exact htenant t hold
    · exact absurd hknown (not_lt.mpr hnew)
  unclosed := by
    intro t
    rw [waitQueue, hwaits]
    exact h.unclosed t
  slots := by
    intro t
    have hphase : s'.phaseOf = s.phaseOf := by
      funext c
      exact phaseOf_congr (by rw [hsessions])
    rw [hdue, hphase, waitQueue, hwaits]
    exact h.slots t
  tickets := by
    intro t k c
    rw [hdue, hsessions]
    exact h.tickets t k c
  nodup := by
    intro t
    rw [hdue]
    exact h.nodup t
  fits := hfits
  owned := by
    rw [hsessions]
    exact h.owned
  delivered := by
    rw [hdeliveries]
    exact h.delivered
  orphans := horphans.trans h.orphans

lemma Quiet.of_sessions (h : s.Quiet) (hsessions : s'.sessions = s.sessions) : s'.Quiet := by
  intro c session hsession
  exact h c session (hsessions ▸ hsession)

/-- A client waits for one tenant, with one ticket. -/
lemma Paired.ticket_unique (h : s.Paired pending) {k : TicketId}
    (hsession : s.sessions.get? c = some session) (hmem : (k, c) ∈ s.due pending t) :
    session.key.tenant = t ∧ session.phase.ticket = some k := by
  obtain ⟨found, hfound, htenant, hticket⟩ := (h.tickets t k c).mp hmem
  rw [hsession] at hfound
  cases hfound
  exact ⟨htenant, hticket⟩

lemma Paired.clients_nodup (h : s.Paired pending) (t : T) :
    ((s.due pending t).map Prod.snd).Nodup := by
  apply List.Nodup.map_on _ (h.nodup t)
  rintro ⟨k, c⟩ hfirst ⟨k', c'⟩ hsecond hsame
  obtain rfl : c = c' := hsame
  obtain ⟨session, hsession, -, hticket⟩ := (h.tickets t k c).mp hfirst
  have hother := (h.ticket_unique hsession hsecond).2
  rw [hticket, some.injEq] at hother
  rw [hother]

/-- One task moves.  What is left to show is that the queues still name the same clients. -/
lemma Paired.move (h : s.Paired pending) (hsession : s.sessions.get? client = some session)
    (hsessions : ∀ c, s'.sessions.get? c =
      if c = client then some { session with phase := phase } else s.sessions.get? c)
    (hlive : s'.allocator.Live) (hadmits : Admits s.allocator s'.allocator)
    (hlease : ∀ lease, phase.lease = some lease → lease.client = client)
    (hfits : ∀ grant ∈ pending', Grant.Fits grant) (horphans : s'.orphans = s.orphans)
    (hdelivered : ∀ delivery ∈ s'.deliveries, delivery ∈ s.deliveries ∨ Delivery.Right delivery)
    (hunclosed : ∀ t, (s'.waitQueue t).closed = false)
    (hslots : ∀ t, (s'.waitQueue t).waiters =
      ((s'.due pending' t).filter fun waiter => !(s'.phaseOf waiter.2).isLeaving).map Prod.snd)
    (hown : ∀ t k, (k, client) ∈ s'.due pending' t ↔ session.key.tenant = t ∧ phase.ticket = some k)
    (hothers : ∀ t k c, c ≠ client → ((k, c) ∈ s'.due pending' t ↔ (k, c) ∈ s.due pending t))
    (hnodup : ∀ t, (s'.due pending' t).Nodup) : s'.Paired pending' where
  live := hlive
  clients := by
    intro c found hfound
    obtain ⟨known, hknown, hkey⟩ : ∃ known, s.sessions.get? c = some known ∧
        known.key = found.key := by
      rw [hsessions] at hfound
      split at hfound
      · rename_i hsame
        rw [some.injEq] at hfound
        exact ⟨session, hsame ▸ hsession, by rw [← hfound]⟩
      · exact ⟨found, hfound, rfl⟩
    obtain ⟨hlt, htenant⟩ := h.clients c known hknown
    refine ⟨hlt.trans_le hadmits.nextClient, ?_⟩
    intro t hclient
    rw [← hkey]
    rcases hadmits.known c t hclient with hold | hnew
    · exact htenant t hold
    · exact absurd hlt (not_lt.mpr hnew)
  unclosed := hunclosed
  slots := hslots
  tickets := by
    intro t k c
    rw [hsessions]
    by_cases hsame : c = client
    · rw [if_pos hsame, hsame, hown]
      simp only [some.injEq, exists_eq_left']
    · rw [if_neg hsame, hothers t k c hsame, h.tickets]
  nodup := hnodup
  fits := hfits
  owned := by
    intro c found lease hfound hheld
    rw [hsessions] at hfound
    split at hfound
    · rename_i hsame
      cases hfound
      rw [hsame]
      exact hlease lease hheld
    · exact h.owned c found lease hfound hheld
  delivered := by
    intro delivery hmem
    rcases hdelivered delivery hmem with hold | hnew
    · exact h.delivered delivery hold
    · exact hnew
  orphans := horphans.trans h.orphans

section

variable (hsession : s.sessions.get? client = some session)
include hsession

/-- The ticket of a task is the one it waits with. -/
lemma Paired.mem_due_iff (h : s.Paired pending) (t : T) (k : TicketId) :
    (k, client) ∈ s.due pending t ↔ session.key.tenant = t ∧ session.phase.ticket = some k := by
  rw [h.tickets, hsession]
  simp only [some.injEq, exists_eq_left']

/-- Whether a task that moved is leaving matters only to its own entry. -/
lemma isLeaving_of_move (hleaving : phase.isLeaving = session.phase.isLeaving) :
    (fun waiter : TicketId × ClientId =>
      !(if waiter.2 = client then phase else s.phaseOf waiter.2).isLeaving) =
      fun waiter => !(s.phaseOf waiter.2).isLeaving := by
  funext waiter
  by_cases hsame : waiter.2 = client
  · rw [if_pos hsame, hleaving, hsame, phaseOf_eq hsession]
  · rw [if_neg hsame]

/-- A task moves while the queues change.  What is left to show is that they still name the same
clients. -/
lemma Paired.requeue (h : s.Paired pending)
    (hs' : s' = { s with allocator := s'.allocator, waits := s'.waits })
    (hlive : s'.allocator.Live) (hadmits : Admits s.allocator s'.allocator)
    (hlease : ∀ lease, phase.lease = some lease → lease.client = client)
    (hunclosed : ∀ t, (s'.waitQueue t).closed = false)
    (hslots : ∀ t, (s'.waitQueue t).waiters = ((s'.due pending t).filter fun waiter =>
      !(if waiter.2 = client then phase else s.phaseOf waiter.2).isLeaving).map Prod.snd)
    (hown : ∀ t k, (k, client) ∈ s'.due pending t ↔ session.key.tenant = t ∧ phase.ticket = some k)
    (hothers : ∀ t k c, c ≠ client → ((k, c) ∈ s'.due pending t ↔ (k, c) ∈ s.due pending t))
    (hnodup : ∀ t, (s'.due pending t).Nodup) : (s'.setPhase client phase).Paired pending := by
  have hsessions : s'.sessions = s.sessions := by rw [hs']
  have hdue t : (s'.setPhase client phase).due pending t = s'.due pending t := by
    rw [due, due, setPhase_allocator]
  have hwait t : (s'.setPhase client phase).waitQueue t = s'.waitQueue t := by
    rw [waitQueue, setPhase_waits, waitQueue]
  have hphase c : (s'.setPhase client phase).phaseOf c =
      if c = client then phase else s.phaseOf c := by
    have hsame : s'.phaseOf c = s.phaseOf c := phaseOf_congr (by rw [hsessions])
    rw [phaseOf_setPhase (hsessions ▸ hsession), hsame]
  refine h.move hsession ?_ ?_ ?_ hlease h.fits ?_ ?_ ?_ ?_ ?_ ?_ ?_
  · intro c
    rw [sessions_setPhase (hsessions ▸ hsession), hsessions]
  · rw [setPhase_allocator]
    exact hlive
  · rw [setPhase_allocator]
    exact hadmits
  · rw [setPhase_orphans, hs']
  · intro delivery hmem
    rw [setPhase_deliveries, hs'] at hmem
    exact .inl hmem
  · simpa only [hwait] using hunclosed
  · simpa only [hwait, hdue, hphase] using hslots
  · simpa only [hdue] using hown
  · simpa only [hdue] using hothers
  · simpa only [hdue] using hnodup

/-- A task moves on without a change of its ticket. -/
lemma Paired.setPhase (h : s.Paired pending) (hticket : phase.ticket = session.phase.ticket)
    (hleaving : phase.isLeaving = session.phase.isLeaving)
    (hlease : ∀ lease, phase.lease = some lease → lease.client = client) :
    (s.setPhase client phase).Paired pending := by
  refine h.requeue hsession rfl h.live (.of_same rfl rfl) hlease h.unclosed ?_ ?_
    (fun _ _ _ _ => Iff.rfl) h.nodup
  · intro t
    rw [isLeaving_of_move hsession hleaving]
    exact h.slots t
  · intro t k
    rw [h.mem_due_iff hsession, hticket]

lemma Quiet.setPhase (h : s.Quiet) (hphase : phase.halfOut = false) :
    (s.setPhase client phase).Quiet := by
  intro c found hfound
  rw [sessions_setPhase hsession] at hfound
  split at hfound
  · cases hfound
    exact hphase
  · exact h c found hfound

end

/-! ### Dispatch -/

lemma servedFor_cons (grant : Grant T) (pending : List (Grant T)) (t : T) :
    servedFor (grant :: pending) t =
      if grant.tenant = t then (grant.ticket, grant.client) :: servedFor pending t
      else servedFor pending t := by
  by_cases hsame : grant.tenant = t <;> simp [servedFor, hsame]

/-- The manager once a grant has reached its client. -/
def handed (s : PoolManager T F) (grant : Grant T) (queue : WaitQueue ClientId) :
    PoolManager T F :=
  deliver { s with waits := s.waits.insert grant.tenant queue } grant.client grant

lemma waitQueue_insert (s : PoolManager T F) (tenant : T) (queue : WaitQueue ClientId)
    (t : T) : ((s.waits.insert tenant queue).get? t).getD WaitQueue.new =
      if t = tenant then queue else s.waitQueue t := by
  rw [get?_insert, waitQueue]
  by_cases hsame : t = tenant
  · rw [if_pos hsame, if_pos hsame, getD_some]
  · rw [if_neg hsame, if_neg hsame]

lemma sessions_handed (h : s.sessions.get? grant.client = some session)
    (queue : WaitQueue ClientId) (c : ClientId) : (s.handed grant queue).sessions.get? c =
      if c = grant.client then some { session with phase := .granted grant.lease }
      else s.sessions.get? c := by
  have hbase : ({ s with waits := s.waits.insert grant.tenant queue } :
      PoolManager T F).sessions.get? grant.client = some session := h
  exact sessions_setPhase hbase _ c

lemma phaseOf_handed (h : s.sessions.get? grant.client = some session)
    (queue : WaitQueue ClientId) (c : ClientId) : (s.handed grant queue).phaseOf c =
      if c = grant.client then .granted grant.lease else s.phaseOf c := by
  rw [phaseOf, sessions_handed h]
  by_cases hsame : c = grant.client
  · rw [if_pos hsame, if_pos hsame]
  · rw [if_neg hsame, if_neg hsame, phaseOf]

lemma deliveries_handed (hsession : s.sessions.get? grant.client = some session)
    (hphase : session.phase = .queued grant.ticket) (queue : WaitQueue ClientId) :
    (s.handed grant queue).deliveries = s.deliveries ++ [⟨grant.client, grant.ticket, grant⟩] := by
  have hbefore : ({ s with waits := s.waits.insert grant.tenant queue } :
      PoolManager T F).phaseOf grant.client = .queued grant.ticket := by
    rw [← hphase]
    exact phaseOf_eq hsession
  simp only [handed, deliver, hbefore, Phase.ticket, map_some, toList_some]

/-- The grants that were handed out, each to the task that waited for it. -/
inductive Delivered : PoolManager T F → List (Grant T) → PoolManager T F → Prop
  | nil (s : PoolManager T F) : Delivered s [] s
  | cons {s s' : PoolManager T F} {grant : Grant T} {pending : List (Grant T)}
      {session : Session T F} (queue : WaitQueue ClientId)
      (hsession : s.sessions.get? grant.client = some session)
      (hphase : session.phase = .queued grant.ticket)
      (hrest : Delivered (s.handed grant queue) pending s') :
      Delivered s (grant :: pending) s'

/-- The first grant is for the first waiter, who still listens. -/
lemma Paired.head (h : s.Paired (grant :: pending)) (hquiet : s.Quiet) :
    ∃ session, s.sessions.get? grant.client = some session ∧
      session.phase = .queued grant.ticket ∧ session.key.tenant = grant.tenant ∧
      (s.waitQueue grant.tenant).waiters = grant.client :: ((s.due pending grant.tenant).filter
          fun waiter => !(s.phaseOf waiter.2).isLeaving).map Prod.snd := by
  have hdue : s.due (grant :: pending) grant.tenant =
      (grant.ticket, grant.client) :: s.due pending grant.tenant := by
    rw [due, servedFor_cons, if_pos rfl, cons_append, due]
  have hmem : (grant.ticket, grant.client) ∈ s.due (grant :: pending) grant.tenant := by
    rw [hdue]
    exact mem_cons_self
  obtain ⟨session, hsession, htenant, hticket⟩ := (h.tickets _ _ _).mp hmem
  have hawake := hquiet _ _ hsession
  have hphase : session.phase = .queued grant.ticket := by
    cases hcase : session.phase with
    | queued ticket =>
      rw [hcase, Phase.ticket, some.injEq] at hticket
      rw [hticket]
    | closing ticket | leaving ticket =>
      rw [hcase] at hawake
      cases hawake
    | _ =>
      rw [hcase] at hticket
      cases hticket
  refine ⟨session, hsession, hphase, htenant, ?_⟩
  rw [h.slots, hdue, filter_cons, phaseOf_eq hsession, hphase]
  rfl

lemma Paired.handed {queue : WaitQueue ClientId} (h : s.Paired (grant :: pending))
    (hsession : s.sessions.get? grant.client = some session)
    (hphase : session.phase = .queued grant.ticket) (htenant : session.key.tenant = grant.tenant)
    (hopen : queue.closed = false)
    (hqueue : queue.waiters = ((s.due pending grant.tenant).filter
      fun waiter => !(s.phaseOf waiter.2).isLeaving).map Prod.snd) :
    (s.handed grant queue).Paired pending := by
  have hfits : Grant.Fits grant := h.fits grant mem_cons_self
  have halloc : (s.handed grant queue).allocator = s.allocator := setPhase_allocator _ _ _
  have hadmits : Admits s.allocator (s.handed grant queue).allocator := by
    rw [halloc]
    exact .of_same rfl rfl
  have hdue t : (s.handed grant queue).due pending t = s.due pending t := by
    rw [due, due, halloc]
  have hwait t : (s.handed grant queue).waitQueue t =
      if t = grant.tenant then queue else s.waitQueue t := by
    have hwaits : (s.handed grant queue).waits = s.waits.insert grant.tenant queue :=
      setPhase_waits _ _ _
    rw [waitQueue, hwaits]
    exact waitQueue_insert s grant.tenant queue t
  have hfull t : s.due (grant :: pending) t = if grant.tenant = t then
      (grant.ticket, grant.client) :: s.due pending t else s.due pending t := by
    rw [due, servedFor_cons]
    split <;> rfl
  have hgone : (fun waiter : TicketId × ClientId =>
      !((s.handed grant queue).phaseOf waiter.2).isLeaving) =
      fun waiter => !(s.phaseOf waiter.2).isLeaving := by
    simp only [phaseOf_handed hsession queue]
    exact isLeaving_of_move hsession (by rw [hphase]; rfl)
  refine h.move hsession (sessions_handed hsession queue) ?_ hadmits ?_
    (fun other hmem => h.fits other (mem_cons_of_mem _ hmem)) (setPhase_orphans _ _ _)
    ?_ ?_ ?_ ?_ ?_ ?_
  · rw [halloc]
    exact h.live
  · intro lease hheld
    rw [Phase.lease, some.injEq] at hheld
    rw [← hheld]
    exact hfits.1
  · intro delivery hmem
    rw [deliveries_handed hsession hphase, mem_append, mem_singleton] at hmem
    rcases hmem with hold | rfl
    · exact .inl hold
    · exact .inr ⟨rfl, rfl, hfits.1⟩
  · intro t
    rw [hwait]
    split
    · exact hopen
    · exact h.unclosed t
  · intro t
    rw [hdue, hgone, hwait]
    split
    · rename_i hsame
      rw [hsame]
      exact hqueue
    · rename_i hother
      rw [h.slots t, hfull t, if_neg fun heq => hother heq.symm]
  · -- the client served waits no more: its one ticket was the head
    intro t k
    rw [hdue]
    constructor
    · intro hmem
      exfalso
      have hbefore : (k, grant.client) ∈ s.due (grant :: pending) t := by
        rw [hfull]
        split
        · exact mem_cons_of_mem _ hmem
        · exact hmem
      obtain ⟨howner, hticket⟩ := (h.mem_due_iff hsession t k).mp hbefore
      rw [hphase, Phase.ticket, some.injEq] at hticket
      have hnodup := h.nodup t
      rw [hfull, if_pos (htenant.symm.trans howner)] at hnodup
      rw [← hticket] at hmem
      exact (nodup_cons.mp hnodup).1 hmem
    · rintro ⟨-, hticket⟩
      cases hticket
  · intro t k c hother
    rw [hdue, hfull]
    split
    · rw [mem_cons]
      constructor
      · exact .inr
      · rintro (heq | hmem)
        · exact absurd (Prod.mk.inj heq).2 hother
        · exact hmem
    · exact Iff.rfl
  · intro t
    rw [hdue]
    have hnodup := h.nodup t
    rw [hfull] at hnodup
    split at hnodup
    · exact (nodup_cons.mp hnodup).2
    · exact hnodup

lemma Quiet.handed (h : s.Quiet) (hsession : s.sessions.get? grant.client = some session)
    (queue : WaitQueue ClientId) : (s.handed grant queue).Quiet := by
  intro c found hfound
  rw [sessions_handed hsession] at hfound
  split at hfound
  · cases hfound
    rfl
  · exact h c found hfound

/-- With nobody half-way out, every grant reaches the client it was made for. -/
lemma dispatchLoop_paired {pending : List (Grant T)} {fuel : Nat} {s s' : PoolManager T F} :
    s.Paired pending → s.Quiet → dispatchLoop fuel s pending = some s' →
      s'.Paired [] ∧ s'.Quiet ∧ Delivered s pending s' := by
  induction pending generalizing fuel s s' with
  | nil =>
    intro hpaired hquiet hrun
    rw [dispatchLoop] at hrun
    cases hrun
    exact ⟨hpaired, hquiet, .nil s⟩
  | cons grant pending ih =>
    intro hpaired hquiet hrun
    cases fuel with
    | zero => cases hrun
    | succ fuel =>
      obtain ⟨session, hsession, hphase, htenant, hwaiters⟩ := hpaired.head hquiet
      have hlistens : (s.phaseOf grant.client).listens := by
        rw [phaseOf_eq hsession, hphase]
        rfl
      let offer := (s.waitQueue grant.tenant).handOff fun client => (s.phaseOf client).listens
      have hoff : offer.1 = some grant.client ∧ offer.2.waiters = _ :=
        WaitQueue.handOff_head hwaiters hlistens
      have hpair : ((s.waitQueue grant.tenant).handOff
          fun client => (s.phaseOf client).listens) = (some grant.client, offer.2) :=
        Prod.ext hoff.1 rfl
      rw [dispatchLoop, hpair] at hrun
      have hopen : offer.2.closed = false := hpaired.unclosed grant.tenant
      have hnext := hpaired.handed hsession hphase htenant hopen hoff.2
      obtain ⟨hdone, hstill, hdelivered⟩ := ih hnext (hquiet.handed hsession _) hrun
      exact ⟨hdone, hstill, .cons offer.2 hsession hphase hdelivered⟩

/-- What `dispatch` leaves alone. -/
lemma Delivered.frame (h : Delivered s grants s') :
    s'.allocator = s.allocator ∧ s'.parked = s.parked ∧ s'.ledger = s.ledger ∧
      s'.tenants = s.tenants ∧ s'.cancels = s.cancels := by
  induction h with
  | nil => exact ⟨rfl, rfl, rfl, rfl, rfl⟩
  | cons queue hsession hphase hrest ih =>
    obtain ⟨hallocator, hparked, hledger, htenants, hcancels⟩ := ih
    refine ⟨hallocator.trans ?_, hparked.trans ?_, hledger.trans ?_, htenants.trans ?_,
      hcancels.trans ?_⟩
    · exact setPhase_allocator _ _ _
    · exact setPhase_parked _ _ _
    · exact setPhase_ledger _ _ _
    · exact setPhase_tenants _ _ _
    · exact setPhase_cancels _ _ _

/-- A task that waited has its lease, and the hand-over is on record. -/
def Served (s' : PoolManager T F) (c : ClientId) (session : Session T F) : Prop :=
  ∃ grant : Grant T, session.phase = .queued grant.ticket ∧
    s'.sessions.get? c = some { session with phase := .granted grant.lease } ∧
    ⟨c, grant.ticket, grant⟩ ∈ s'.deliveries

/-- What becomes of the tasks that do not act: they stay where they are, or are served. -/
structure Onward (actor : Option ClientId) (s s' : PoolManager T F) : Prop where
  tasks : ∀ c session, actor ≠ some c → s.sessions.get? c = some session →
    s'.sessions.get? c = some session ∨ Served s' c session
  log : s.deliveries ⊆ s'.deliveries

lemma Onward.of_same (actor : Option ClientId) (hsessions : s'.sessions = s.sessions)
    (hdeliveries : s'.deliveries = s.deliveries) : Onward actor s s' where
  tasks := by
    intro c session _ hsession
    rw [hsessions]
    exact .inl hsession
  log := by
    rw [hdeliveries]
    exact fun _ => id

lemma Onward.refl (actor : Option ClientId) (s : PoolManager T F) : Onward actor s s :=
  .of_same actor rfl rfl

lemma Onward.trans {s2 : PoolManager T F} (h : Onward actor s s₁)
    (h' : Onward actor s₁ s2) : Onward actor s s2 where
  tasks := by
    intro c session hactor hsession
    rcases h.tasks c session hactor hsession with hsame | ⟨grant, hphase, hserved, hlog⟩
    · exact h'.tasks c session hactor hsame
    · rcases h'.tasks c _ hactor hserved with hstill | ⟨other, hqueued, -, -⟩
      · exact .inr ⟨grant, hphase, hstill, h'.log hlog⟩
      · cases hqueued
  log := fun _ hmem => h'.log (h.log hmem)

/-- What holds with nobody acting holds whoever acts. -/
lemma Onward.by_anyone (h : Onward none s s') (actor : Option ClientId) : Onward actor s s' where
  tasks := fun c session _ hsession => h.tasks c session nofun hsession
  log := h.log

lemma Onward.setPhase (s : PoolManager T F) (client : ClientId) (phase : Phase T) :
    Onward (some client) s (s.setPhase client phase) where
  tasks := by
    intro c session hactor hsession
    have hother : c ≠ client := fun hsame => hactor (by rw [hsame])
    left
    unfold PoolManager.setPhase
    split
    · exact (get?_insert_of_ne _ _ hother).trans hsession
    · exact hsession
  log := by
    rw [setPhase_deliveries]
    exact fun _ => id

/-- A task moves on after a change that touched no task. -/
lemma Onward.moved (hs' : s₁.setPhase client phase = s') (hsessions : s₁.sessions = s.sessions)
    (hdeliveries : s₁.deliveries = s.deliveries) : Onward (some client) s s' := by
  rw [← hs']
  exact (Onward.of_same _ hsessions hdeliveries).trans (.setPhase s₁ client phase)

/-- A task that does not wait stays where it is. -/
lemma Onward.steady (h : Onward actor s s')
    (hactor : actor ≠ some c) (hsession : s.sessions.get? c = some session)
    (hdeaf : session.phase.listens = false) : s'.sessions.get? c = some session := by
  rcases h.tasks c session hactor hsession with hsame | ⟨grant, hphase, -, -⟩
  · exact hsame
  · rw [hphase] at hdeaf
    cases hdeaf

lemma Delivered.onward (h : Delivered s grants s') : Onward none s s' := by
  induction h with
  | nil s => exact .refl none s
  | @cons s s' grant pending session queue hsession hphase hrest ih =>
    refine .trans ⟨?_, ?_⟩ ih
    · intro c found _ hfound
      by_cases hsame : c = grant.client
      · subst hsame
        rw [hsession] at hfound
        cases hfound
        refine .inr ⟨grant, hphase, ?_, ?_⟩
        · rw [sessions_handed hsession, if_pos rfl]
        · rw [deliveries_handed hsession hphase]
          exact mem_append_right _ (mem_singleton_self _)
      · left
        rw [sessions_handed hsession, if_neg hsame]
        exact hfound
    · rw [deliveries_handed hsession hphase]
      exact subset_append_left _ _

/-- What holds after grants were dispatched, and from one eviction of a sweep to the next. -/
structure Sweeps (s₀ s : PoolManager T F) : Prop where
  paired : s.Paired []
  quiet : s.Quiet
  onward : Onward none s₀ s

lemma Sweeps.trans (h : Sweeps s₀ s) (h' : Sweeps s s') : Sweeps s₀ s' :=
  ⟨h'.paired, h'.quiet, h.onward.trans h'.onward⟩

/-- A call of the allocator whose grants are dispatched. -/
lemma Paired.call (h : s.Paired []) (hquiet : s.Quiet) {a' : Allocator T}
    (hgives : Gives op s.allocator grants a') (hrun : s₁.dispatch grants = some s')
    (hallocator : s₁.allocator = a') (hwaits : s₁.waits = s.waits)
    (hsessions : s₁.sessions = s.sessions) (hdeliveries : s₁.deliveries = s.deliveries)
    (horphans : s₁.orphans = s.orphans) : Sweeps s s' ∧ Delivered s₁ grants s' := by
  have hready : s₁.Paired grants := by
    refine h.of_due (hallocator ▸ hgives.live) (hallocator ▸ hgives.admits) hwaits hsessions
      hdeliveries horphans ?_ hgives.fits
    intro t
    rw [due, due, hgives.waiters t, hallocator]
    rfl
  obtain ⟨hpaired, hstill, hdelivered⟩ :=
    dispatchLoop_paired hready (hquiet.of_sessions hsessions) hrun
  have honward : Onward none s s₁ := .of_same none hsessions hdeliveries
  exact ⟨⟨hpaired, hstill, honward.trans hdelivered.onward⟩, hdelivered⟩

/-! ### Sweeps -/

lemma unpark_eq (s : PoolManager T F) (server : ServerId) : s.unpark server =
      { s with parked := (s.unpark server).parked, ledger := (s.unpark server).ledger } := by
  unfold unpark
  cases s.parked.get? server with
  | none => rfl
  | some parked => rfl

lemma unpark_allocator (s : PoolManager T F) (a' : Allocator T) (server : ServerId) :
    unpark { s with allocator := a' } server = { s.unpark server with allocator := a' } := by
  unfold unpark
  cases s.parked.get? server with
  | none => rfl
  | some parked => rfl

lemma Paired.reportDead (h : s.Paired []) (hquiet : s.Quiet)
    (hallocator : s₁.allocator = s.allocator) (hwaits : s₁.waits = s.waits)
    (hsessions : s₁.sessions = s.sessions) (hdeliveries : s₁.deliveries = s.deliveries)
    (horphans : s₁.orphans = s.orphans) (hrun : s₁.reportDead server = some s') :
    ∃ grants a', s.allocator.backendDied server = some (grants, a') ∧
      Delivered { s₁ with allocator := a' } grants s' ∧ Sweeps s s' := by
  simp only [PoolManager.reportDead, hallocator, bind_eq_bind, bind_eq_some_iff] at hrun
  obtain ⟨⟨grants, a'⟩, hcall, hdispatch⟩ := hrun
  obtain ⟨hsweeps, hdelivered⟩ := h.call hquiet (backendDied_gives h.live hcall) hdispatch rfl
    hwaits hsessions hdeliveries horphans
  exact ⟨grants, a', hcall, hdelivered, hsweeps⟩

lemma Sweeps.evict (h : Sweeps s₀ s) (hrun : s.evict server = some s') : Sweeps s₀ s' := by
  unfold PoolManager.evict at hrun
  split at hrun
  · rw [some.injEq] at hrun
    exact hrun ▸ h
  have heq := unpark_eq s server
  obtain ⟨grants, a', -, -, hsweeps⟩ := h.paired.reportDead h.quiet
    (by rw [heq]) (by rw [heq]) (by rw [heq]) (by rw [heq]) (by rw [heq]) hrun
  exact h.trans hsweeps

lemma Sweeps.takeSuperseded (hpaired : s.Paired []) (hquiet : s.Quiet)
    {current : Nat} (hrun : s.takeSuperseded order current = some s') : Sweeps s s' :=
  takeSuperseded_keeps (fun _ _ _ _ _ _ hsweeps hevict => Sweeps.evict hsweeps hevict)
    ⟨hpaired, hquiet, .refl none s⟩ hrun

lemma Sweeps.takeIdle (hpaired : s.Paired []) (hquiet : s.Quiet)
    {now idleFor : Timestamp} (hrun : s.takeIdle order now idleFor = some s') : Sweeps s s' :=
  takeIdle_keeps (fun _ _ _ _ _ hsweeps hevict => Sweeps.evict hsweeps hevict)
    ⟨hpaired, hquiet, .refl none s⟩ hrun

/-! ### Tenants -/

lemma addTenant_eq (s : PoolManager T F) (tenant : T) (spec : TenantSpec) :
    s.addTenant tenant spec = { s with
        allocator := (s.allocator.addTenant tenant spec).2
        tenants := (s.addTenant tenant spec).tenants } := by
  unfold addTenant
  split
  · rename_i hcall
    rw [hcall]
  · rename_i hcall
    rw [hcall]

lemma Paired.addTenant (h : s.Paired []) (tenant : T) (spec : TenantSpec) :
    (s.addTenant tenant spec).Paired [] := by
  obtain ⟨hlive, hadmits, hwaiters⟩ := addTenant_table h.live tenant spec
  have heq := addTenant_eq s tenant spec
  refine h.of_due (by rw [heq]; exact hlive) (by rw [heq]; exact hadmits) (by rw [heq])
    (by rw [heq]) (by rw [heq]) (by rw [heq]) ?_ h.fits
  intro t
  rw [due, heq, due]
  exact congrArg _ (hwaiters t)

lemma Paired.ensureTenant (h : s.Paired []) (tenant : T) : (s.ensureTenant tenant).Paired [] := by
  unfold PoolManager.ensureTenant
  split
  · exact h
  · exact h.addTenant tenant defaultSpec

/-- A call leaves an empty queue empty. -/
lemma waitersOf_nil_of_gives {a a' : Allocator T} (h : Gives op a grants a')
    (hempty : a.waitersOf t = []) : a'.waitersOf t = [] := by
  have hsplit := h.waiters t
  rw [hempty] at hsplit
  exact (append_eq_nil_iff.mp hsplit.symm).2

/-- What the loop over the published claims keeps: who is to go has nobody waiting. -/
structure Adopts (published : List (T × TenantSpec)) (s₀ s : PoolManager T F) : Prop
    extends Sweeps s₀ s where
  spared : ∀ t ∈ s.tenants, t ∉ published.map Prod.fst → s.allocator.waitersOf t = []

lemma Adopts.adoptClaim (h : Adopts published s₀ s) {claim : T × TenantSpec}
    (hclaim : claim ∈ published) (hrun : s.adoptClaim claim = some s') :
    Adopts published s₀ s' := by
  have hnamed : claim.1 ∈ published.map Prod.fst := List.mem_map_of_mem hclaim
  rcases adoptClaim_cases hrun with ⟨result, a', tenants, hcall, hlisted, hdispatch⟩ | rfl
  · have hgives := setTenantSpec_gives h.paired.live hcall
    obtain ⟨hsweeps, hdelivered⟩ := h.paired.call h.quiet hgives hdispatch rfl rfl rfl rfl rfl
    obtain ⟨hallocator, -, -, htenants, -⟩ := hdelivered.frame
    refine ⟨h.toSweeps.trans hsweeps, ?_⟩
    intro t ht hgone
    rw [hallocator]
    rw [htenants] at ht
    rcases hlisted t ht with rfl | hold
    · exact absurd hnamed hgone
    · exact waitersOf_nil_of_gives hgives (h.spared t hold hgone)
  obtain ⟨-, -, hwaiters⟩ := addTenant_table h.paired.live claim.1 claim.2
  have heq := addTenant_eq s claim.1 claim.2
  refine ⟨⟨h.paired.addTenant _ _, h.quiet.of_sessions (by rw [heq]), ?_⟩, ?_⟩
  · exact h.onward.trans (.of_same none (by rw [heq]) (by rw [heq]))
  intro t ht hgone
  have hold : t ∈ s.tenants := by
    unfold PoolManager.addTenant at ht
    split at ht
    · rw [OrderedSet.mem_insert] at ht
      rcases ht with rfl | hold
      · exact absurd hnamed hgone
      · exact hold
    · exact ht
  rw [heq]
  exact (hwaiters t).trans (h.spared t hold hgone)

lemma Sweeps.forget (h : Sweeps s₀ s) {tenant : T} (hempty : s.allocator.waitersOf tenant = [])
    (hrun : s.forget tenant = some s') :
    Sweeps s₀ s' ∧ ∀ t, s.allocator.waitersOf t = [] → s'.allocator.waitersOf t = [] := by
  obtain ⟨result, a', tenants, hcall, hdispatch⟩ := forget_cases hrun
  have hgives := removeTenant_gives h.paired.live hempty hcall
  obtain ⟨hsweeps, hdelivered⟩ := h.paired.call h.quiet hgives hdispatch rfl rfl rfl rfl rfl
  refine ⟨h.trans hsweeps, ?_⟩
  intro t hnone
  rw [hdelivered.frame.1]
  exact waitersOf_nil_of_gives hgives hnone

lemma mem_of_departed (h : t ∈ s.departed published) :
    t ∈ s.tenants ∧ t ∉ published.map Prod.fst := by
  obtain ⟨hmem, htest⟩ := mem_filter.mp h
  rw [Bool.and_eq_true] at htest
  exact ⟨OrderedSet.mem_toList.mp hmem, of_decide_eq_true htest.1⟩

lemma Sweeps.applyTenants (hpaired : s.Paired []) (hquiet : s.Quiet)
    (hspared : ∀ t ∈ s.tenants, t ∉ published.map Prod.fst → s.allocator.waitersOf t = [])
    (hrun : s.applyTenants published = some s') : Sweeps s s' := by
  obtain ⟨s₁, hadopt, hforget⟩ := bind_eq_some_iff.mp hrun
  have hadopted : ([] : List (T × TenantSpec)) ⊆ published ∧ Adopts published s s₁ := by
    refine foldlM_keeps (motive := fun rest b => rest ⊆ published ∧ Adopts published s b) ?_
      ⟨fun _ => id, ⟨hpaired, hquiet, .refl none s⟩, hspared⟩ hadopt
    rintro claim rest b b' ⟨hsub, hkept⟩ hstep
    exact ⟨fun _ hmem => hsub (mem_cons_of_mem _ hmem), hkept.adoptClaim (hsub mem_cons_self) hstep⟩
  have hforgotten : Sweeps s s' ∧ ∀ t ∈ ([] : List T), s'.allocator.waitersOf t = [] := by
    refine foldlM_keeps
      (motive := fun rest b => Sweeps s b ∧ ∀ t ∈ rest, b.allocator.waitersOf t = []) ?_
      ⟨hadopted.2.toSweeps, ?_⟩ hforget
    · rintro tenant rest b b' ⟨hsweeps, hnone⟩ hstep
      obtain ⟨hnext, hkept⟩ := hsweeps.forget (hnone tenant mem_cons_self) hstep
      exact ⟨hnext, fun t ht => hkept t (hnone t (mem_cons_of_mem _ ht))⟩
    · intro t ht
      obtain ⟨hmem, hgone⟩ := mem_of_departed ht
      exact hadopted.2.spared t hmem hgone
  exact hforgotten.1

end PgElastic.Proxy.PoolManager
