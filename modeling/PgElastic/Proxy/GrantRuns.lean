import PgElastic.Proxy.GrantPairing

/-!
# Grants and waiters: runs

Which runs keep tickets and waiters paired.  The pairing breaks in two ways.  A waiter and its
ticket leave their queues in two sections, the waiter first, and a grant made in between belongs
to a client that no longer listens: the next waiter gets it
(`grant_reaches_another_client`).  And a tenant that is forgotten takes its tickets along but
leaves its waiters.  `inStep` excludes the two; `grants_reach_their_waiters` is about every run
of such steps.
-/

namespace PgElastic.Proxy.PoolManager

open Library Capacity Capacity.Allocator Pool Option OrderedMap List

variable {T F : Type} [LinearOrder T]

/-! ### Clients come and go -/

variable {s s' : PoolManager T F} {client : ClientId} {session : Session T F} {now : Timestamp}
  {lease : Capacity.Lease T}

variable {phase : Phase T} {key : PoolKey T F} {ticket : TicketId} {a' : Allocator T}
  {admission : AdmissionSpec} {pending : List (Grant T)} {pool : PoolSpec}

lemma Paired.not_due (h : s.Paired pending)
    (hsession : s.sessions.get? client = some session) (hticket : session.phase.ticket = none)
    (t : T) (k : TicketId) : (k, client) ∉ s.due pending t := by
  intro hmem
  have hdrawn := (h.ticket_unique hsession hmem).2
  rw [hticket] at hdrawn
  cases hdrawn

/-- A client connects; its task rests. -/
lemma Paired.connect (h : s.Paired []) (hlive : a'.Live) (hadmits : Admits s.allocator a')
    (hwaiters : ∀ t, a'.waitersOf t = s.allocator.waitersOf t)
    (hnew : s.sessions.get? client = none) (hknown : client < a'.nextClient)
    (hclient : a'.clients.get? client = some key.tenant) :
    Paired { s with
      allocator := a'
      sessions := s.sessions.insert client ⟨key, .resting⟩ } [] := by
  let s' : PoolManager T F := { s with
    allocator := a'
    sessions := s.sessions.insert client ⟨key, .resting⟩ }
  have hdue : ∀ t, s'.due [] t = s.due [] t := fun t => congrArg _ (hwaiters t)
  have hsessions : ∀ c, s'.sessions.get? c =
      if c = client then some ⟨key, .resting⟩ else s.sessions.get? c :=
    fun c => get?_insert _ _ _ _
  have hphases : s'.phaseOf = s.phaseOf := by
    funext c
    rw [phaseOf, hsessions, phaseOf]
    by_cases hsame : c = client
    · rw [if_pos hsame, hsame, hnew]
    · rw [if_neg hsame]
  have hbase : Paired { s with allocator := a' } [] :=
    h.of_due hlive hadmits rfl rfl rfl rfl (fun t => congrArg _ (hwaiters t)) h.fits
  refine
    { live := hlive
      clients := ?_
      unclosed := h.unclosed
      slots := ?_
      tickets := ?_
      nodup := hbase.nodup
      fits := h.fits
      owned := ?_
      delivered := h.delivered
      orphans := h.orphans }
  · intro c session hsession
    rw [hsessions] at hsession
    split at hsession
    · rename_i hsame
      cases hsession
      refine ⟨hsame ▸ hknown, ?_⟩
      intro t ht
      rw [hsame, hclient, some.injEq] at ht
      exact ht.symm
    · exact hbase.clients c session hsession
  · intro t
    have hslots := h.slots t
    rw [← hdue t, ← hphases] at hslots
    exact hslots
  · intro t k c
    have htickets := h.tickets t k c
    rw [← hdue t] at htickets
    rw [htickets, hsessions]
    by_cases hsame : c = client
    · rw [if_pos hsame, hsame, hnew]
      constructor
      · rintro ⟨session, hsession, -⟩
        cases hsession
      · rintro ⟨session, hsession, -, hticket⟩
        cases hsession
        cases hticket
    · rw [if_neg hsame]
  · intro c session lease hsession hheld
    rw [hsessions] at hsession
    split at hsession
    · cases hsession
      cases hheld
    · exact h.owned c session lease hsession hheld

/-- A client that has no ticket goes. -/
lemma Paired.erase (h : s.Paired []) (hsession : s.sessions.get? client = some session)
    (hticket : session.phase.ticket = none) :
    Paired { s with sessions := s.sessions.erase client } [] := by
  let s' : PoolManager T F := { s with sessions := s.sessions.erase client }
  have hsessions : ∀ c, s'.sessions.get? c =
      if c = client then none else s.sessions.get? c := fun c => get?_erase _ _ _
  have hkept : ∀ {c found}, s'.sessions.get? c = some found → s.sessions.get? c = some found := by
    intro c found hfound
    rw [hsessions] at hfound
    split at hfound
    · cases hfound
    · exact hfound
  have hslots : ∀ t waiter, waiter ∈ s.due [] t →
      (!(s'.phaseOf waiter.2).isLeaving) = !(s.phaseOf waiter.2).isLeaving := by
    rintro t ⟨k, c⟩ hmem
    have hother : c ≠ client := by
      rintro rfl
      exact h.not_due hsession hticket t k hmem
    have hsame : s'.phaseOf c = s.phaseOf c := phaseOf_congr (by rw [hsessions, if_neg hother])
    rw [hsame]
  refine
    { live := h.live
      clients := fun c found hfound => h.clients c found (hkept hfound)
      unclosed := h.unclosed
      slots := ?_
      tickets := ?_
      nodup := h.nodup
      fits := h.fits
      owned := fun c found lease hfound => h.owned c found lease (hkept hfound)
      delivered := h.delivered
      orphans := h.orphans }
  · intro t
    have hold := h.slots t
    rw [← filter_congr (hslots t)] at hold
    exact hold
  intro t k c
  have htickets := h.tickets t k c
  change (k, c) ∈ s.due [] t ↔ _
  rw [hsessions]
  by_cases hsame : c = client
  · rw [if_pos hsame]
    constructor
    · intro hmem
      rw [hsame] at hmem
      exact absurd hmem (h.not_due hsession hticket t k)
    · rintro ⟨found, hfound, -⟩
      cases hfound
  · rw [if_neg hsame]
    exact htickets

lemma Quiet.erase (h : s.Quiet) (client : ClientId) :
    Quiet { s with sessions := s.sessions.erase client } := by
  intro c found hfound
  have hsessions : (s.sessions.erase client).get? c = some found := hfound
  exact h c found (get?_of_erase hsessions).2

/-! ### Tickets are drawn and given back -/

/-- A client joins both queues at their ends. -/
lemma Paired.enqueue (h : s.Paired []) (hsession : s.sessions.get? client = some session)
    (hresting : session.phase = .resting) {queue : WaitQueue ClientId} (hlive : a'.Live)
    (hadmits : Admits s.allocator a') (hwaiters : ∀ t, a'.waitersOf t =
      if t = session.key.tenant then s.allocator.waitersOf session.key.tenant ++ [(ticket, client)]
      else s.allocator.waitersOf t) (hopen : queue.closed = false)
    (hqueue : queue.waiters = (s.waitQueue session.key.tenant).waiters ++ [client])
    (hs' : s' = { s with
      allocator := a'
      waits := s.waits.insert session.key.tenant queue }.setPhase client (.queued ticket)) :
    s'.Paired [] := by
  subst hs'
  have hwait : ∀ t, waitQueue { s with
      allocator := a'
      waits := s.waits.insert session.key.tenant queue } t =
      if t = session.key.tenant then queue else s.waitQueue t := waitQueue_insert s _ queue
  have hdue : ∀ t, due { s with
      allocator := a'
      waits := s.waits.insert session.key.tenant queue } [] t =
      if t = session.key.tenant then s.due [] t ++ [(ticket, client)] else s.due [] t := by
    intro t
    by_cases hsame : t = session.key.tenant
    · rw [due, hwaiters t, if_pos hsame, if_pos hsame, hsame]
      rfl
    · rw [due, hwaiters t, if_neg hsame, if_neg hsame]
      rfl
  have hfree : ∀ t k, (k, client) ∉ s.due [] t := h.not_due hsession (by rw [hresting]; rfl)
  refine h.requeue hsession rfl hlive hadmits ?_ ?_ ?_ ?_ ?_ ?_
  · intro lease hheld
    cases hheld
  · intro t
    rw [hwait]
    split
    · exact hopen
    · exact h.unclosed t
  · intro t
    rw [isLeaving_of_move hsession (by rw [hresting]; rfl), hdue, hwait]
    split
    · rename_i hsame
      have hstays : (!(s.phaseOf client).isLeaving) := by
        rw [phaseOf_eq hsession, hresting]
        rfl
      rw [hqueue, hsame, h.slots, filter_append, map_append]
      simp [hstays]
    · exact h.slots t
  · intro t k
    rw [hdue]
    by_cases htenant : t = session.key.tenant
    · rw [if_pos htenant, mem_append, mem_singleton, Prod.mk.injEq]
      constructor
      · rintro (hmem | ⟨hk, -⟩)
        · exact absurd hmem (hfree t k)
        · exact ⟨htenant.symm, congrArg some hk.symm⟩
      · rintro ⟨-, hk⟩
        rw [Phase.ticket, some.injEq] at hk
        exact .inr ⟨hk.symm, rfl⟩
    · rw [if_neg htenant]
      constructor
      · intro hmem
        exact absurd hmem (hfree t k)
      · rintro ⟨howner, -⟩
        exact absurd howner.symm htenant
  · intro t k c hother
    rw [hdue]
    split
    · rw [mem_append, mem_singleton, Prod.mk.injEq]
      constructor
      · rintro (hmem | ⟨-, hc⟩)
        · exact hmem
        · exact absurd hc hother
      · exact .inl
    · exact Iff.rfl
  · intro t
    rw [hdue]
    split
    · rw [nodup_append]
      refine ⟨h.nodup t, nodup_singleton _, ?_⟩
      rintro ⟨k, c⟩ hmem other hlast
      rw [mem_singleton] at hlast
      rintro rfl
      rw [Prod.mk.injEq] at hlast
      rw [hlast.2] at hmem
      exact hfree t k hmem
    · exact h.nodup t

/-- A waiter leaves its queue; its ticket stays. -/
lemma Paired.dropWaiter (h : s.Paired []) (hsession : s.sessions.get? client = some session)
    (hticket : session.phase.ticket = some ticket) (hs' : s' = { s with
      waits := s.waits.insert session.key.tenant
        ((s.waitQueue session.key.tenant).deregister client) }.setPhase client
          (.leaving ticket)) : s'.Paired [] := by
  subst hs'
  have hwait : ∀ t, waitQueue { s with
      waits := s.waits.insert session.key.tenant
        ((s.waitQueue session.key.tenant).deregister client) } t =
      if t = session.key.tenant then (s.waitQueue session.key.tenant).deregister client
      else s.waitQueue t := waitQueue_insert s _ _
  refine h.requeue hsession rfl h.live (Admits.of_same rfl rfl) ?_ ?_ ?_ ?_
    (fun _ _ _ _ => Iff.rfl) h.nodup
  · intro lease hheld
    cases hheld
  · intro t
    rw [hwait]
    split
    · exact h.unclosed _
    · exact h.unclosed t
  · intro t
    rw [hwait]
    change _ = ((s.due [] t).filter _).map _
    split
    · -- its own queue: the client was there once, and is filtered out from now on
      rename_i hsame
      have hnodup : (s.waitQueue session.key.tenant).waiters.Nodup := by
        rw [h.slots]
        exact (h.clients_nodup session.key.tenant).sublist (filter_sublist.map _)
      rw [WaitQueue.waiters_deregister, hnodup.erase_eq_filter, h.slots, hsame,
        List.filter_map, List.filter_filter]
      congr 1
      apply filter_congr
      rintro ⟨k, c⟩ -
      by_cases hc : c = client
      · simp [hc, Phase.isLeaving]
      · simp [hc]
    · rename_i hother
      rw [h.slots t]
      congr 1
      apply filter_congr
      rintro ⟨k, c⟩ hmem
      rw [if_neg]
      rintro rfl
      exact hother (h.ticket_unique hsession hmem).1.symm
  · intro t k
    change (k, client) ∈ s.due [] t ↔ _
    rw [h.mem_due_iff hsession, hticket]
    rfl

/-- A ticket leaves its queue after its waiter. -/
lemma Paired.dropTicket (h : s.Paired []) (hsession : s.sessions.get? client = some session)
    (hleaving : session.phase = .leaving ticket) (hlive : a'.Live) (hadmits : Admits s.allocator a')
    (hwaiters : ∀ t, a'.waitersOf t = if t = session.key.tenant then
        (s.allocator.waitersOf t).filter fun waiter => waiter.1 ≠ ticket
      else s.allocator.waitersOf t)
    (hs' : s' = { s with allocator := a' }.setPhase client .resting) : s'.Paired [] := by
  subst hs'
  have hdue : ∀ t, due { s with allocator := a' } [] t =
      if t = session.key.tenant then (s.due [] t).filter fun waiter => waiter.1 ≠ ticket
      else s.due [] t := hwaiters
  have hticket : session.phase.ticket = some ticket := by
    rw [hleaving]
    rfl
  have hqueued : (ticket, client) ∈ s.due [] session.key.tenant :=
    (h.mem_due_iff hsession _ _).mpr ⟨rfl, hticket⟩
  -- no other client has drawn this ticket
  have hsole : ∀ k c, (k, c) ∈ s.due [] session.key.tenant → (k = ticket ↔ c = client) := by
    intro k c hmem
    constructor
    · intro hk
      have heq := h.live.ticketsOrdered.unique hmem hqueued hk
      exact (Prod.mk.inj heq).2
    rintro rfl
    have hdrawn := (h.ticket_unique hsession hmem).2
    rw [hticket, some.injEq] at hdrawn
    exact hdrawn.symm
  refine h.requeue hsession rfl hlive hadmits ?_ h.unclosed ?_ ?_ ?_ ?_
  · intro lease hheld
    cases hheld
  · intro t
    rw [hdue]
    refine (h.slots t).trans ?_
    split
    · rename_i hsame
      rw [List.filter_filter]
      congr 1
      apply filter_congr
      rintro ⟨k, c⟩ hmem
      rw [hsame] at hmem
      have hwho := hsole k c hmem
      by_cases hc : c = client
      · simp [hc, hwho.mpr hc, phaseOf_eq hsession, hleaving, Phase.isLeaving]
      · have hk : k ≠ ticket := fun heq => hc (hwho.mp heq)
        simp [hc, hk]
    · rename_i hother
      congr 1
      apply filter_congr
      rintro ⟨k, c⟩ hmem
      rw [if_neg]
      rintro rfl
      exact hother (h.ticket_unique hsession hmem).1.symm
  · intro t k
    rw [hdue]
    constructor
    · intro hmem
      exfalso
      split at hmem
      · rename_i hsame
        obtain ⟨hbefore, hkept⟩ := mem_filter.mp hmem
        rw [hsame] at hbefore
        exact of_decide_eq_true hkept ((hsole k client hbefore).mpr rfl)
      · rename_i hother
        exact hother (h.ticket_unique hsession hmem).1.symm
    · rintro ⟨-, hnone⟩
      cases hnone
  · intro t k c hc
    rw [hdue]
    split
    · rename_i hsame
      rw [mem_filter]
      constructor
      · exact And.left
      intro hmem
      refine ⟨hmem, decide_eq_true ?_⟩
      intro hk
      rw [hsame] at hmem
      exact hc ((hsole k c hmem).mp hk)
    · exact Iff.rfl
  · intro t
    rw [hdue]
    split
    · exact (h.nodup t).filter _
    · exact h.nodup t

/-! ### Steps -/

/-- Nobody is half-way out of the queues, as a test. -/
def quiet (s : PoolManager T F) : Bool :=
  s.sessions.values.all fun session => !session.phase.halfOut

lemma Quiet.of_test (h : s.quiet) : s.Quiet := by
  intro c session hsession
  have hall := List.all_eq_true.mp h session ((mem_values_iff _ _).mpr ⟨c, hsession⟩)
  simpa using hall

/-- The steps that keep the two queues in step: what may grant a queued ticket runs only while
nobody is half-way out, and no tenant is dropped that clients wait for. -/
def inStep (s : PoolManager T F) : Step T F → Bool
  | .disconnectClient _ | .attach _ _ _ | .giveUp _ | .checkIn _ _ | .drop _ _
  | .releaseCancel _ | .severSuperseded _ _ | .reapIdle _ _ _ => s.quiet
  | .applyTenants published => s.quiet && s.tenants.toList.all fun tenant =>
    decide (tenant ∈ published.map Prod.fst) || (s.allocator.waitersOf tenant).isEmpty
  | _ => true

lemma quiet_of_inStep {published : List (T × TenantSpec)}
    (h : s.inStep (.applyTenants published : Step T F)) :
    s.Quiet ∧ ∀ t ∈ s.tenants, t ∉ published.map Prod.fst → s.allocator.waitersOf t = [] := by
  rw [inStep, Bool.and_eq_true] at h
  refine ⟨.of_test h.1, ?_⟩
  intro t ht hgone
  have htest := List.all_eq_true.mp h.2 t (OrderedSet.mem_toList.mpr ht)
  rw [Bool.or_eq_true] at htest
  rcases htest with hnamed | hempty
  · exact absurd (of_decide_eq_true hnamed) hgone
  · exact List.isEmpty_iff.mp hempty

/-- What a step leaves behind: the pairing, and the tasks that did not take it. -/
structure Taken (actor : Option ClientId) (s s' : PoolManager T F) : Prop where
  paired : s'.Paired []
  onward : Onward actor s s'

lemma Sweeps.taken (h : Sweeps s s') (actor : Option ClientId) : Taken actor s s' :=
  ⟨h.paired, h.onward.by_anyone actor⟩

/-- A change of the manager that moves no task and keeps the queues. -/
lemma Paired.taken_of_same (h : s.Paired []) (actor : Option ClientId) (hlive : s'.allocator.Live)
    (hadmits : Admits s.allocator s'.allocator)
    (hwaiters : ∀ t, s'.allocator.waitersOf t = s.allocator.waitersOf t)
    (hwaits : s'.waits = s.waits) (hsessions : s'.sessions = s.sessions)
    (hdeliveries : s'.deliveries = s.deliveries) (horphans : s'.orphans = s.orphans) :
    Taken actor s s' := by
  refine ⟨h.of_due hlive hadmits hwaits hsessions hdeliveries horphans ?_ h.fits,
    .of_same actor hsessions hdeliveries⟩
  intro t
  exact congrArg _ (hwaiters t)

/-- A task past the queue moves on, with its lease or without one. -/
lemma Paired.past (h : s.Paired []) (hsession : s.sessions.get? client = some session)
    (hticket : session.phase.ticket = none) (hnone : phase.ticket = none)
    (hlease : phase.lease = session.phase.lease ∨ phase.lease = none) :
    Taken (some client) s (s.setPhase client phase) := by
  have hstays : ∀ {p : Phase T}, p.ticket = none → p.isLeaving = false := by
    intro p hp
    cases p with
    | leaving ticket => cases hp
    | _ => rfl
  refine ⟨h.setPhase hsession (hnone.trans hticket.symm)
    ((hstays hnone).trans (hstays hticket).symm) ?_, .setPhase s client phase⟩
  intro lease hheld
  rcases hlease with hsame | hgone
  · exact h.owned client session lease hsession (hsame ▸ hheld)
  · rw [hgone] at hheld
    cases hheld

/-- A task has given its lease up in a call whose grants have been handed out. -/
structure Rests (op : Op T) (s : PoolManager T F) (client : ClientId) (grants : List (Grant T))
    (s₁ s' : PoolManager T F) : Prop where
  gives : Gives op s.allocator grants s₁.allocator
  taken : Taken (some client) s s'
  delivered : Delivered s₁ grants s'
  sessions : s₁.sessions = (s.setPhase client .resting).sessions
  cancels : s₁.cancels = s.cancels

/-- A task gives its lease up; then the allocator is called and its grants dispatched. -/
lemma Paired.rest_call {s₁ : PoolManager T F} (h : s.Paired []) (hquiet : s.Quiet)
    (hsession : s.sessions.get? client = some session) (hticket : session.phase.ticket = none)
    {op : Op T} {grants : List (Grant T)}
    (hgives : Gives op s.allocator grants s₁.allocator) (hrun : s₁.dispatch grants = some s')
    (hsame : s₁ = { s.setPhase client .resting with
      allocator := s₁.allocator, parked := s₁.parked, ledger := s₁.ledger }) :
    Rests op s client grants s₁ s' := by
  have hrested : Taken (some client) s (s.setPhase client .resting) :=
    h.past hsession hticket rfl (.inr rfl)
  have hstill : (s.setPhase client .resting).Quiet := hquiet.setPhase hsession rfl
  have hgives' : Gives op (s.setPhase client .resting).allocator grants s₁.allocator := by
    rw [setPhase_allocator]
    exact hgives
  obtain ⟨hsweeps, hdelivered⟩ := hrested.paired.call hstill hgives' hrun rfl
    (by rw [hsame]) (by rw [hsame]) (by rw [hsame]) (by rw [hsame])
  refine ⟨hgives, ⟨hsweeps.paired, hrested.onward.trans (hsweeps.onward.by_anyone _)⟩, hdelivered,
    by rw [hsame], ?_⟩
  rw [hsame]
  exact setPhase_cancels _ _ _

lemma Paired.acquire (h : s.Paired []) (hsession : s.sessions.get? client = some session)
    (hresting : session.phase = .resting) (hrun : s.acquire client session.key.tenant now = some s') :
    Taken (some client) s s' := by
  obtain ⟨⟨admission, a'⟩, hcall, hrest⟩ := bind_eq_some_iff.mp hrun
  have happly : s.allocator.apply (.tryLease client .normal now) = _ := report_eq hcall
  obtain ⟨hlive, hadmits⟩ := h.live.apply rfl happly
  -- an answer that queues nobody leaves the queues as they are
  have hsame : (∀ t, a'.waitersOf t = s.allocator.waitersOf t) →
      Taken (some client) s { s with allocator := a' } :=
    fun hwaiters => h.taken_of_same _ hlive hadmits hwaiters rfl rfl rfl rfl
  rcases tryLease_fates h.live.sound hcall with
    ⟨rfl, rfl, -⟩ | ⟨t, m, hclient, -, -, -, -, hkept, hdecided⟩
  · cases hrest
    exact hsame fun _ => rfl
  have howner : t = session.key.tenant := (h.clients client session hsession).2 t hclient
  cases hdecided with
  | granted lease _ hhandover hfor htenant hcredit hqueues =>
    cases hrest
    have hbase := hsame fun t' => (hqueues t').trans (hkept t')
    have hbefore : ({ s with allocator := a' } : PoolManager T F).sessions.get? client =
        some session := hsession
    refine ⟨hbase.paired.setPhase hbefore (by rw [hresting]; rfl) (by rw [hresting]; rfl) ?_,
      hbase.onward.trans (.setPhase _ client _)⟩
    intro held hheld
    rw [Phase.lease, some.injEq] at hheld
    rw [← hheld]
    exact hfor
  | queued ticket blockedBy revoked _ hkind hhandover hqueues =>
    obtain ⟨queue, henqueue, hopen, hjoined⟩ :=
      WaitQueue.enqueue_normal (h.unclosed session.key.tenant) client
    simp only [henqueue, some.injEq] at hrest
    refine ⟨h.enqueue hsession hresting hlive hadmits ?_ hopen hjoined hrest.symm,
      .moved hrest rfl rfl⟩
    intro t'
    rw [hqueues t', howner, hkept, hkept]
  | denied reason _ hhandover hqueues =>
    cases hrest
    exact hsame fun t' => (hqueues t').trans (hkept t')

/-- A cancel request is answered at once; nobody is queued for it. -/
lemma tryLease_cancel_waiters {a : Allocator T} (h : a.Live) {admission : Admission T}
    (hcall : a.tryLease client .cancel now = some (admission, a')) (t : T) :
    a'.waitersOf t = a.waitersOf t := by
  rcases tryLease_fates h.sound hcall with
    ⟨-, rfl, -⟩ | ⟨t', m, -, -, -, -, -, hkept, hdecided⟩
  · rfl
  cases hdecided with
  | granted lease _ hhandover hfor htenant hcredit hqueues =>
    exact (hqueues t).trans (hkept t)
  | queued ticket blockedBy revoked _ hkind => cases hkind
  | denied reason _ hhandover hqueues => exact (hqueues t).trans (hkept t)

lemma Paired.leaseCancel (h : s.Paired []) (hrun : s.leaseCancel client now = some s') :
    Taken none s s' := by
  obtain ⟨⟨admission, a'⟩, hcall, hrest⟩ := bind_eq_some_iff.mp hrun
  have happly : s.allocator.apply (.tryLease client .cancel now) = _ := report_eq hcall
  obtain ⟨hlive, hadmits⟩ := h.live.apply rfl happly
  have hwaiters := tryLease_cancel_waiters h.live hcall
  cases admission with
  | _ =>
    cases hrest
    exact h.taken_of_same none hlive hadmits hwaiters rfl rfl rfl rfl

lemma Paired.releaseCancel (h : s.Paired []) (hquiet : s.Quiet)
    (hrun : s.releaseCancel lease = some s') : Taken none s s' := by
  obtain ⟨⟨outcome, a'⟩, hcall, hdispatch⟩ := bind_eq_some_iff.mp hrun
  exact (h.call hquiet (release_gives h.live hcall) hdispatch rfl rfl rfl rfl rfl).1.taken none

/-- The identifier a client is given names no task yet. -/
lemma Paired.next_is_new (h : s.Paired pending) :
    s.sessions.get? s.allocator.nextClient = none := by
  cases hsession : s.sessions.get? s.allocator.nextClient with
  | none => rfl
  | some session => exact absurd (h.clients _ session hsession).1 (lt_irrefl _)

lemma Paired.connectClient (h : s.Paired [])
    (hrun : s.connectClient key = some s') : Taken none s s' := by
  obtain ⟨⟨result, a'⟩, hcall, hrest⟩ := bind_eq_some_iff.mp hrun
  have happly : s.allocator.apply (.connectClient key.tenant) = _ := report_eq hcall
  obtain ⟨hlive, hadmits⟩ := h.live.apply rfl happly
  obtain ⟨-, hwaiters, -⟩ := connectClient_table hcall
  cases result with
  | ok client =>
    cases hrest
    obtain ⟨rfl, hknown, hclient⟩ := connectClient_ok hcall
    refine ⟨h.connect hlive hadmits hwaiters h.next_is_new hknown hclient, ?_, ?_⟩
    · intro c session _ hsession
      left
      refine (get?_insert_of_ne _ _ ?_).trans hsession
      rintro rfl
      rw [h.next_is_new] at hsession
      cases hsession
    · exact fun _ => id
  | error rejection =>
    cases hrest
    exact h.taken_of_same none hlive hadmits hwaiters rfl rfl rfl rfl

lemma claim_eq [DecidableEq F] (s : PoolManager T F) (server : ServerId)
    (key : PoolKey T F) : (s.claim server key).2 = { s with
        parked := (s.claim server key).2.parked
        ledger := (s.claim server key).2.ledger } := by
  unfold claim
  split
  · rfl
  · split <;> rfl

section

variable (h : s.Paired []) (hquiet : s.Quiet) (hsession : s.sessions.get? client = some session)
include h hquiet hsession

lemma Paired.attach [DecidableEq F] (hgranted : session.phase = .granted lease)
    {order : List ServerId} {current : Nat}
    (hrun : s.attach client session.key lease order current = some s') :
    Taken (some client) s s' := by
  obtain ⟨s₁, hsweep, hrest⟩ := bind_eq_some_iff.mp hrun
  have hsweeps := Sweeps.takeSuperseded h hquiet hsweep
  have hstill : s₁.sessions.get? client = some session :=
    hsweeps.onward.steady nofun hsession (by rw [hgranted]; rfl)
  have heq := claim_eq s₁ lease.server session.key
  have hclaimed : Taken (some client) s₁ (s₁.claim lease.server session.key).2 := by
    rw [heq]
    exact hsweeps.paired.taken_of_same _ hsweeps.paired.live (Admits.of_same rfl rfl)
      (fun _ => rfl) rfl rfl rfl rfl
  have hthere : (s₁.claim lease.server session.key).2.sessions.get? client = some session := by
    rw [heq]
    exact hstill
  have hreached : Taken (some client) s (s₁.claim lease.server session.key).2 :=
    ⟨hclaimed.paired, (hsweeps.onward.by_anyone _).trans hclaimed.onward⟩
  have hmoved : ∀ phase : Phase T, phase.ticket = none → phase.lease = some lease →
      Taken (some client) s ((s₁.claim lease.server session.key).2.setPhase client phase) := by
    intro phase hnone hheld
    have hadvanced := hreached.paired.past hthere (by rw [hgranted]; rfl) hnone
      (.inl (by rw [hheld, hgranted]; rfl))
    exact ⟨hadvanced.paired, hreached.onward.trans hadvanced.onward⟩
  cases hclaim : s₁.claim lease.server session.key with
  | mk link s2 =>
    rw [hclaim] at hmoved hrest
    cases link with
    | some link | none =>
      cases hrest
      exact hmoved _ rfl rfl

variable (hticket : session.phase.ticket = none) {link : Link}
include hticket

lemma Paired.disconnectClient (hrun : s.disconnectClient client = some s') :
    Taken (some client) s s' := by
  obtain ⟨⟨grants, a'⟩, hcall, hdispatch⟩ := bind_eq_some_iff.mp hrun
  have hgives := disconnectClient_gives h.live (h.not_due hsession hticket) hcall
  have herased := h.erase hsession hticket
  obtain ⟨hsweeps, -⟩ := herased.call (hquiet.erase client) hgives hdispatch rfl rfl rfl rfl rfl
  refine ⟨hsweeps.paired, Onward.trans ⟨?_, ?_⟩ (hsweeps.onward.by_anyone _)⟩
  · intro c found hactor hfound
    left
    change (s.sessions.erase client).get? c = some found
    rw [get?_erase, if_neg]
    · exact hfound
    · rintro rfl
      exact hactor rfl
  · exact fun _ => id

lemma Paired.checkIn (hrun : s.checkIn client key lease link now = some s') :
    ∃ outcome a' s₁, s.allocator.release lease = some (outcome, a') ∧ s₁.allocator = a' ∧
      Rests (.release lease) s client outcome.grants s₁ s' ∧
      ((∃ server, outcome.disposition = .idle server) ∧ s₁ =
          { (s.setPhase client .resting).park lease.server key link now with allocator := a' } ∨
        s₁ = { ((s.setPhase client .resting).park lease.server key link now).unpark lease.server with
          allocator := a' }) := by
  obtain ⟨⟨outcome, a'⟩, hcall, hdispatch⟩ := bind_eq_some_iff.mp hrun
  have hrelease : s.allocator.release lease = some (outcome, a') := by
    rw [← setPhase_allocator s client .resting]
    exact hcall
  have hgives := release_gives h.live hrelease
  dsimp only at hdispatch
  cases hdisposition : outcome.disposition with
  | idle server =>
    rw [hdisposition] at hdispatch
    exact ⟨outcome, a', _, hrelease, rfl, h.rest_call hquiet hsession hticket hgives hdispatch rfl,
      .inl ⟨⟨server, hdisposition⟩, rfl⟩⟩
  | _ =>
    rw [hdisposition] at hdispatch
    change dispatch (PoolManager.unpark { PoolManager.park _ _ _ _ _ with allocator := a' } _) _ =
      some s' at hdispatch
    rw [unpark_allocator] at hdispatch
    refine ⟨outcome, a', _, hrelease, rfl, h.rest_call hquiet hsession hticket hgives hdispatch ?_,
      .inr rfl⟩
    rw [unpark_eq]
    rfl

lemma Paired.giveBack (hrun : s.giveBack client lease link = some s') :
    ∃ (outcome : ReleaseOutcome T) (a' : Allocator T), Rests (.release lease) s client outcome.grants
      { s.setPhase client .resting with
        allocator := a', ledger := s.ledger.recordUnpin link.pin } s' := by
  obtain ⟨⟨outcome, a'⟩, hcall, hdispatch⟩ := bind_eq_some_iff.mp hrun
  have hrelease : s.allocator.release lease = some (outcome, a') := by
    rw [← setPhase_allocator s client .resting]
    exact hcall
  exact ⟨outcome, a',
    h.rest_call hquiet hsession hticket (release_gives h.live hrelease) hdispatch rfl⟩

lemma Paired.giveUp {server : ServerId}
    (hrun : (s.setPhase client .resting).reportDead server = some s') :
    ∃ grants a', Rests (.backendDied server) s client grants
      { s.setPhase client .resting with allocator := a' } s' := by
  obtain ⟨⟨grants, a'⟩, hcall, hdispatch⟩ := bind_eq_some_iff.mp hrun
  have hdied : s.allocator.backendDied server = some (grants, a') := by
    rw [← setPhase_allocator s client .resting]
    exact hcall
  exact ⟨grants, a',
    h.rest_call hquiet hsession hticket (backendDied_gives h.live hdied) hdispatch rfl⟩

end

omit [LinearOrder T] in
/-- A section that calls no allocator keeps the ticket, and the lease or gives it up. -/
lemma Advance.phases {ledger ledger' : BudgetLedger} {step : Step T F} {phase' : Phase T}
    (h : Advance ledger step phase ledger' phase') :
    phase'.ticket = phase.ticket ∧ phase'.isLeaving = phase.isLeaving ∧
      (phase'.lease = phase.lease ∨ phase'.lease = none) := by
  cases h with
  | abandon client phase hinside =>
    refine ⟨?_, ?_, .inr rfl⟩
    · cases phase with
      | queued | closing | leaving => cases hinside
      | _ => rfl
    · cases phase with
      | leaving => cases hinside
      | _ => rfl
  | _ => exact ⟨rfl, rfl, .inl rfl⟩

lemma Paired.advance (h : s.Paired []) (hsession : s.sessions.get? client = some session)
    {step : Step T F} {ledger : BudgetLedger}
    (hadvance : Advance s.ledger step session.phase ledger phase)
    (hrun : { s with ledger := ledger }.setPhase client phase = s') : Taken (some client) s s' := by
  obtain ⟨hticket, hleaving, hlease⟩ := hadvance.phases
  have hcounted : Taken none s { s with ledger := ledger } :=
    h.taken_of_same none h.live (.of_same rfl rfl) (fun _ => rfl) rfl rfl rfl rfl
  have hthere : ({ s with ledger := ledger } : PoolManager T F).sessions.get? client =
      some session := hsession
  refine ⟨hrun ▸ hcounted.paired.setPhase hthere hticket hleaving ?_, .moved hrun rfl rfl⟩
  intro lease hheld
  rcases hlease with hsame | hgone
  · exact h.owned client session lease hsession (hsame ▸ hheld)
  · rw [hgone] at hheld
    cases hheld

lemma Paired.task [DecidableEq F] (h : s.Paired []) {step : Step T F}
    (hstep : s.inStep step) (hsession : s.sessions.get? client = some session)
    (htask : Task s client session step s') : Taken (some client) s s' := by
  cases htask with
  | advance hadvance hrun => exact h.advance hsession hadvance hrun
  | notPinned percent reason => exact ⟨h, .refl _ s⟩
  | disconnectClient hphase hrun =>
    exact h.disconnectClient (.of_test hstep) hsession (by rw [hphase]; rfl) hrun
  | acquire hphase hrun => exact h.acquire hsession hphase hrun
  | dropWaiter hphase hrun =>
    refine ⟨h.dropWaiter hsession ?_ hrun.symm, .moved hrun rfl rfl⟩
    rcases hphase with hqueued | hclosing
    · rw [hqueued]
      rfl
    · rw [hclosing]
      rfl
  | @dropTicket ticket removed a' _ hphase hcall hrun =>
    have happly : s.allocator.apply (.cancelTicket session.key.tenant ticket) = _ := report_eq hcall
    obtain ⟨hlive, hadmits⟩ := h.live.apply rfl happly
    exact ⟨h.dropTicket hsession hphase hlive hadmits (cancelTicket_table hcall).2.2 hrun.symm,
      .moved hrun rfl rfl⟩
  | attach hphase hrun => exact h.attach (.of_test hstep) hsession hphase hrun
  | giveUp hphase hrun =>
    obtain ⟨_, _, hrests⟩ := h.giveUp (.of_test hstep) hsession (by rw [hphase]; rfl) hrun
    exact hrests.taken
  | checkIn hphase hrun =>
    obtain ⟨_, _, _, -, -, hrests, -⟩ :=
      h.checkIn (.of_test hstep) hsession (by rw [hphase]; rfl) hrun
    exact hrests.taken
  | drop how hphase hrun =>
    obtain ⟨_, _, hrests⟩ := h.giveBack (.of_test hstep) hsession (by rw [hphase]; rfl) hrun
    exact hrests.taken

/-- No step that is in step breaks the pairing. -/
lemma Paired.step [DecidableEq F] (h : s.Paired []) {step : Step T F}
    (hstep : s.inStep step) (hrun : s.next step = some s') : Taken step.actor s s' := by
  cases hactor : step.actor with
  | some client =>
    obtain ⟨session, hsession, htask⟩ := task_of_next hactor hrun
    exact h.task hstep hsession htask
  | none =>
    cases step with
    | ensureTenant tenant =>
      rw [next] at hrun
      cases hrun
      refine ⟨h.ensureTenant tenant, ?_⟩
      unfold PoolManager.ensureTenant
      split
      · exact .refl _ s
      · rw [addTenant_eq]
        exact .of_same _ rfl rfl
    | connectClient key => exact h.connectClient hrun
    | leaseCancel client now => exact h.leaseCancel hrun
    | releaseCancel lease =>
      rw [next] at hrun
      split at hrun
      · exact h.releaseCancel (.of_test hstep) hrun
      · cases hrun
    | severSuperseded order current =>
      exact (Sweeps.takeSuperseded h (Quiet.of_test hstep) hrun).taken none
    | reapIdle order now idleFor =>
      exact (Sweeps.takeIdle h (Quiet.of_test hstep) hrun).taken none
    | applyTenants published =>
      obtain ⟨hquiet, hspared⟩ := quiet_of_inStep hstep
      exact (Sweeps.applyTenants h hquiet hspared hrun).taken none
    | _ => cases hactor

/-! ### Runs -/

/-- The runs whose steps keep the two queues in step. -/
def inStepSystem [DecidableEq F] (pool : PoolSpec) (admission : AdmissionSpec) :
    System (PoolManager T F) (Step T F) :=
  (system pool admission).restrict fun s step => s.inStep step = true

lemma paired_new (h : new pool admission = .ok s) : s.Paired [] := by
  obtain ⟨allocator, hclock, rfl⟩ := new_ok h
  have hlive : allocator.Live := ⟨pool, admission, System.Reachable.init hclock⟩
  have hnobody t : allocator.waitersOf t = [] := by
    rw [waitersOf, queueOf, (withClock_sound hclock).2.1]
    rfl
  refine
    { live := hlive
      clients := ?_
      unclosed := fun _ => rfl
      slots := ?_
      tickets := ?_
      nodup := ?_
      fits := by simp
      owned := ?_
      delivered := by simp
      orphans := rfl }
  · intro c session hsession
    cases hsession
  · intro t
    change [] = ((servedFor [] t ++ allocator.waitersOf t).filter _).map _
    rw [hnobody t]
    rfl
  · intro t k c
    change (k, c) ∈ servedFor [] t ++ allocator.waitersOf t ↔ _
    rw [hnobody t]
    constructor
    · intro hmem
      cases hmem
    · rintro ⟨session, hsession, -⟩
      cases hsession
  · intro t
    change (servedFor [] t ++ allocator.waitersOf t).Nodup
    rw [hnobody t]
    exact nodup_nil
  · intro c session lease hsession
    cases hsession

lemma paired_of_reachable [DecidableEq F]
    (h : (inStepSystem pool admission).Reachable s) : s.Paired [] := by
  refine h.invariant (I := fun s => Paired s []) ?_ ?_
  · intro s hinit
    exact paired_new hinit
  · intro s step s' _ hpaired hstep
    exact (hpaired.step hstep.1 hstep.2).paired

/-- A task with a ticket gives it up in one section only. -/
lemma Task.waiting [DecidableEq F] {step : Step T F} (h : Task s client session step s')
    {k : TicketId} (hticket : session.phase.ticket = some k) :
    step = .dropTicket client ∨ s'.allocator = s.allocator := by
  have hpast : session.phase.ticket = none → False := by
    intro hnone
    rw [hnone] at hticket
    cases hticket
  cases h with
  | advance hadvance hrun =>
    right
    rw [← hrun, setPhase_allocator]
  | notPinned percent reason => exact .inr rfl
  | dropWaiter hphase hrun =>
    right
    rw [← hrun, setPhase_allocator]
  | dropTicket hphase hcall hrun => exact .inl rfl
  | disconnectClient hphase hrun | acquire hphase hrun | attach hphase hrun
  | giveUp hphase hrun | checkIn hphase hrun | drop how hphase hrun =>
    exact (hpast (by rw [hphase]; rfl)).elim

/-- A ticket that leaves the allocator's queue was dropped by its client, or its grant is in
its client's hands. -/
lemma Paired.ticket_leaves [DecidableEq F] (h : s.Paired []) {step : Step T F}
    (hstep : s.inStep step) (hrun : s.next step = some s') {t : T} {k : TicketId}
    {c : ClientId} (hwaits : (k, c) ∈ s.allocator.waitersOf t)
    (hgone : (k, c) ∉ s'.allocator.waitersOf t) :
    step = .dropTicket c ∨ ∃ grant : Grant T, grant.ticket = k ∧ grant.client = c ∧
      ⟨c, k, grant⟩ ∈ s'.deliveries ∧
      ∃ session, s'.sessions.get? c = some session ∧ session.phase = .granted grant.lease := by
  obtain ⟨session, hsession, htenant, hticket⟩ := (h.tickets t k c).mp hwaits
  have htaken := h.step hstep hrun
  by_cases hactor : step.actor = some c
  · obtain ⟨found, hfound, htask⟩ := task_of_next hactor hrun
    rw [hsession] at hfound
    cases hfound
    rcases htask.waiting hticket with hdrop | hsame
    · exact .inl hdrop
    · exact absurd (hsame ▸ hwaits) hgone
  right
  rcases htaken.onward.tasks c session hactor hsession with hstill | ⟨grant, hphase, hnow, hlog⟩
  · exact absurd ((htaken.paired.tickets t k c).mpr ⟨session, hstill, htenant, hticket⟩) hgone
  obtain rfl : grant.ticket = k := by
    rw [hphase, Phase.ticket, some.injEq] at hticket
    exact hticket
  obtain ⟨-, hclient, -⟩ := htaken.paired.delivered _ hlog
  exact ⟨grant, rfl, hclient.symm, hlog, _, hnow, rfl⟩

/-- In every run that keeps the queues in step, grants and waiters belong together: each grant
that was handed over went to the client whose ticket it serves, none found nobody waiting, a
client's lease is recorded against that client, and a client that waits is in both queues.  And
no step loses a ticket: one that leaves the queue was dropped by its client, or its client has
the lease. -/
theorem grants_reach_their_waiters [DecidableEq F] (pool : PoolSpec) (admission : AdmissionSpec)
    {s : PoolManager T F} (hreach : (inStepSystem pool admission).Reachable s) :
    (∀ delivery ∈ s.deliveries, delivery.drawn = delivery.grant.ticket ∧
      delivery.waiter = delivery.grant.client ∧ delivery.grant.lease.client = delivery.waiter) ∧
    s.orphans = [] ∧
    (∀ c session lease, s.sessions.get? c = some session → session.phase.lease = some lease →
      lease.client = c) ∧
    (∀ c session k, s.sessions.get? c = some session → session.phase = .queued k →
      (k, c) ∈ s.allocator.waitersOf session.key.tenant ∧
        c ∈ (s.waitQueue session.key.tenant).waiters) ∧
    ∀ step s', s.inStep step = true → s.next step = some s' →
      ∀ t k c, (k, c) ∈ s.allocator.waitersOf t → (k, c) ∉ s'.allocator.waitersOf t →
        step = .dropTicket c ∨ ∃ grant : Grant T, grant.ticket = k ∧ grant.client = c ∧
          ⟨c, k, grant⟩ ∈ s'.deliveries ∧
          ∃ session, s'.sessions.get? c = some session ∧ session.phase = .granted grant.lease := by
  have h := paired_of_reachable hreach
  refine ⟨h.delivered, h.orphans, h.owned, ?_, ?_⟩
  · intro c session k hsession hphase
    have hwaits : (k, c) ∈ s.due [] session.key.tenant :=
      (h.tickets _ k c).mpr ⟨session, hsession, rfl, by rw [hphase]; rfl⟩
    refine ⟨hwaits, ?_⟩
    rw [h.slots]
    refine List.mem_map.mpr ⟨(k, c), mem_filter.mpr ⟨hwaits, ?_⟩, rfl⟩
    rw [phaseOf_eq hsession, hphase]
    rfl
  · intro step s' hstep hrun t k c hwaits hgone
    exact h.ticket_leaves hstep hrun hwaits hgone

/-- Three clients of one tenant and one server: the first has it, the others wait. -/
def waitingRun : List (Step Nat Nat) :=
  [.ensureTenant 0, .connectClient ⟨0, 0⟩, .connectClient ⟨0, 0⟩, .connectClient ⟨0, 0⟩,
    .acquire 0 0, .attach 0 [] 0, .openLink 0, .connected 0 (some 0), .verifyOpened 0 (some 0),
    .acquire 1 0, .acquire 2 0]

/-- The second client gives up waiting, all the way, before the first drops its server: the
third gets a lease of its own. -/
theorem grants_reach_their_waiters_waitingRun :
    ∃ s : PoolManager Nat Nat, replay (plainPool 1) plainAdmission inStep
        (waitingRun ++ [.closeWaiter 1, .dropWaiter 1, .dropTicket 1, .drop .discard 0]) = some s ∧
      s.deliveries.map Delivery.waiter = [2] ∧ s.orphans = [] ∧
      ∀ session lease, s.sessions.get? 2 = some session → session.phase.lease = some lease →
        lease.client = 2 := by
  obtain ⟨s, hs, hserved⟩ : ∃ s : PoolManager Nat Nat, replay (plainPool 1) plainAdmission inStep
        (waitingRun ++ [.closeWaiter 1, .dropWaiter 1, .dropTicket 1, .drop .discard 0]) =
          some s ∧ s.deliveries.map Delivery.waiter = [2] :=
    exists_of_any (by decide)
  obtain ⟨-, hnone, howned, -⟩ := grants_reach_their_waiters (plainPool 1) plainAdmission
    (reachable_of_replay hs)
  exact ⟨s, hs, hserved, hnone, fun session lease => howned 2 session lease⟩

/-- The first client drops its server while the second, whose deadline has passed, still has its
ticket: the grant of that ticket goes to the third client, which then holds a lease recorded
against the second. -/
theorem grant_reaches_another_client : ∃ (s : PoolManager Nat Nat) (lease : Capacity.Lease Nat),
      replay (plainPool 1) plainAdmission (fun _ _ => true)
        (waitingRun ++ [.closeWaiter 1, .dropWaiter 1, .drop .discard 0]) = some s ∧
      s.phaseOf 2 = .granted lease ∧ lease.client = 1 ∧
      ∃ delivery ∈ s.deliveries, delivery.waiter = 2 ∧ delivery.grant.client = 1 ∧
        delivery.drawn ≠ delivery.grant.ticket := by
  let s := (replay (F := Nat) (plainPool 1) plainAdmission (fun _ _ => true)
    (waitingRun ++ [.closeWaiter 1, .dropWaiter 1, .drop .discard 0])).get (by decide)
  let lease := (s.phaseOf 2).lease.get (by decide)
  exact ⟨s, lease, (some_get _).symm, by decide, by decide, by decide⟩

end PgElastic.Proxy.PoolManager
