import PgElastic.Capacity.Guarantees

/-!
# First in, first out within a tenant

Tickets are numbered in the order in which they are queued.  Along every run the
queue of a tenant is increasing in ticket number, and the grants of an operation
to a tenant, followed by what is left in its queue, are increasing as well: the
drain serves each queue from its head.

A newly arriving request, however, is not always behind the queue.  When the
tenant is below its guarantee and the pool is full, `try_lease` may close an idle
server of another tenant and grant the lease on the spot, although an earlier
request of the same tenant is still queued; the drain that left that request
waiting never revokes.  `overtakes_queued_request` replays such a run.  The other
way past the queue is `drain_to`, which frees capacity without draining.  Without
drains, a request is granted ahead of a queued one exactly when an idle server is
revoked for it.

Across tenants the scheduler sorts by `weighted_deficit_cmp` when nothing is free.  Its
laws come key by key from the library's lexicographic comparators; only the weighted
fraction, with tenants without burst range last, has to be checked by hand.
-/

namespace PgElastic.Capacity

open Library Option OrderedMap List

variable {T : Type} [LinearOrder T]

namespace Allocator

/-- Every queue is increasing in ticket number, below the next number. -/
def TicketsOrdered (a : Allocator T) : Prop :=
  ∀ t, ((a.queueOf t).map (·.id) ++ [a.nextTicket]).Pairwise (· < ·)

variable {a a' : Allocator T} {admission : AdmissionSpec} {pool : PoolSpec} {t : T}

/-- Shortening queues keeps them ordered. -/
lemma TicketsOrdered.of_sublist (h : a.TicketsOrdered)
    (hqueues : ∀ t, (a'.queueOf t).Sublist (a.queueOf t)) (hnext : a'.nextTicket = a.nextTicket) :
    a'.TicketsOrdered := by
  intro t
  have hsub : ((a'.queueOf t).map (·.id) ++ [a'.nextTicket]).Sublist
      ((a.queueOf t).map (·.id) ++ [a.nextTicket]) := by
    rw [hnext]
    exact ((hqueues t).map _).append (.refl _)
  exact (h t).sublist hsub

/-- One row is replaced by one with a shorter queue. -/
lemma TicketsOrdered.of_insert (h : a.TicketsOrdered) {rt rt' : TenantRuntime T}
    (hrt : a.tenants.get? t = some rt) (htenants : a'.tenants = a.tenants.insert t rt')
    (hqueue : rt'.queue.Sublist rt.queue) (hnext : a'.nextTicket = a.nextTicket) :
    a'.TicketsOrdered := by
  apply h.of_sublist ?_ hnext
  intro t'
  rw [queueOf_insert a rt' htenants]
  split
  · rename_i heq
    rw [heq, queueOf_eq hrt]
    exact hqueue
  · exact .refl _

lemma Move.ticketsOrdered (h : Move a a') (ho : a.TicketsOrdered) : a'.TicketsOrdered := by
  cases h with
  | tick => exact ho
  | checkOut client hrt hlast hconn | openServer client hrt hentry hcredit hbudget
  | flag hconn hneeded hrt | checkIn hconn hstate hneeded hcredit hrt
  | setFlags hrt migrating storageUsed | connect hrt =>
    exact ho.of_insert hrt rfl (.refl _) rfl
  | closeServer hconn hrt hentry hleave hdelta hbudget =>
    obtain ⟨-, -, -, -, hqueue, -, -⟩ := TenantRuntime.leave_eq_some hleave
    exact ho.of_insert hrt rfl (by rw [hqueue]) rfl
  | dequeue hrt hqueue htotal | dropClient hclient hrt hqueue hclients hlive htotal =>
    exact ho.of_insert hrt rfl hqueue rfl
  | @enqueue t rt ticket hrt hid =>
    intro t'
    have hqueues : queueOf { a with
        nextTicket := a.nextTicket + 1
        tenants := a.tenants.insert t { rt with queue := rt.queue ++ [ticket] }
        queuedTotal := a.queuedTotal + 1 } t' =
          if t' = t then rt.queue ++ [ticket] else a.queueOf t' :=
      queueOf_insert a { rt with queue := rt.queue ++ [ticket] } rfl t'
    rw [hqueues]
    have hold := ho t'
    rw [pairwise_append] at hold
    obtain ⟨hordered, -, hbelow⟩ := hold
    by_cases ht' : t' = t
    · -- the new ticket carries the number every older one is below
      subst ht'
      rw [if_pos rfl, map_append, map_singleton, hid, ← queueOf_eq hrt]
      rw [pairwise_append]
      refine ⟨ho t', pairwise_singleton _ _, ?_⟩
      intro n hn m hm
      rw [mem_singleton] at hm
      subst hm
      rcases mem_append.mp hn with hn | hn
      · exact Nat.lt_succ_of_lt (hbelow n hn _ (mem_singleton_self _))
      · rw [mem_singleton] at hn
        subst hn
        exact Nat.lt_succ_self _
    · rw [if_neg ht', pairwise_append]
      refine ⟨hordered, pairwise_singleton _ _, ?_⟩
      intro n hn m hm
      rw [mem_singleton] at hm
      subst hm
      exact Nat.lt_succ_of_lt (hbelow n hn _ (mem_singleton_self _))
  | expire late htotal =>
    refine ho.of_sublist ?_ rfl
    intro t
    unfold queueOf
    rw [get?_mapValues, Option.map_map]
    cases a.tenants.get? t with
    | none => exact .refl _
    | some rt => exact dropWhile_sublist _
  | forget hrt hentry hservers hbudget hlive htotal =>
    refine ho.of_sublist ?_ rfl
    intro t
    unfold queueOf
    rw [get?_erase]
    split
    · exact nil_sublist _
    · exact .refl _
  | setAdmission admission => exact ho

lemma Moves.ticketsOrdered (h : Moves a a') (ho : a.TicketsOrdered) : a'.TicketsOrdered := by
  induction h with
  | refl => exact ho
  | tail _ hmove ih => exact hmove.ticketsOrdered ih

lemma Reconfigure.ticketsOrdered (h : Reconfigure a a') (ho : a.TicketsOrdered) :
    a'.TicketsOrdered := by
  cases h with
  | addTenant h =>
    refine ho.of_sublist ?_ rfl
    intro t
    unfold queueOf
    rw [get?_insert]
    split
    · exact nil_sublist _
    · exact .refl _
  | setTenantSpec h => exact ho
  | setPoolSpec h => exact ho

lemma Effect.ticketsOrdered {op : Op T} {outcome : Outcome T} (h : Effect a op outcome a')
    (ho : a.TicketsOrdered) : a'.TicketsOrdered := by
  obtain ⟨m, hfirst, hmoves⟩ := h.steps
  rcases hfirst with rfl | hreconfigure | ⟨lost, rfl⟩
  · exact Moves.ticketsOrdered hmoves ho
  · exact Moves.ticketsOrdered hmoves (hreconfigure.ticketsOrdered ho)
  · exact Moves.ticketsOrdered hmoves ho

lemma reachable_ticketsOrdered (h : (system pool admission).Reachable a) : a.TicketsOrdered := by
  apply h.invariant
  · intro s hs t
    have hempty : s.queueOf t = [] := by
      rw [queueOf, (withClock_sound hs).2.1]
      rfl
    rw [hempty]
    exact pairwise_singleton _ _
  · intro s op t hreach ho hstep
    obtain ⟨outcome, heffect⟩ := effect_of_next (reachable_sound hreach) hstep
    exact heffect.ticketsOrdered ho

/-- `drain_to` is only used while nothing is queued. -/
def DrainsWhenEmpty (a : Allocator T) (op : Op T) : Prop :=
  ∀ target, op = .drainTo target → a.queuedTotal = 0

lemma reachable_drained
    (h : ((system pool admission).restrict DrainsWhenEmpty).Reachable a) : a.Drained := by
  apply h.invariant
  · intro s hs
    obtain ⟨hsound, -, hempty⟩ := withClock_sound hs
    exact hsound.consistent.drained_of_empty hempty
  · intro s op t hreach hd hstep
    obtain ⟨outcome, heffect⟩ := effect_of_next (reachable_sound hreach.of_restrict) hstep.2
    exact heffect.drained hstep.1 hd

/-- The tenant that revocation turns to first has an idle server. -/
def RevokesIdle (a : Allocator T) : Prop :=
  ∃ victim rt, a.revocationCandidates.head? = some victim ∧ a.tenants.get? victim = some rt ∧
    rt.idle.last? ≠ none

/-- A candidate for revocation has a live server that is not marked. -/
lemma exists_unmarked_of_candidate (hc : a.Consistent) {rt : TenantRuntime T}
    (h : t ∈ a.revocationCandidates) (hrt : a.tenants.get? t = some rt) :
    ∃ id conn, a.servers.get? id = some conn ∧ conn.tenant = t ∧ conn.credit ≠ .cancel ∧
      conn.closeNeeded = false := by
  obtain ⟨entry, hentry, hmarked⟩ := revocationCandidates_spec h
  rw [hrt, map_some, getD_some] at hmarked
  have hrow := hc.row t rt entry hrt hentry
  by_contra hnone
  push Not at hnone
  -- were all its live servers marked, the marks would be as many as the servers
  have hle : entry.live ≤ rt.marked := by
    rw [hrow.live, hrow.marked]
    refine sumOf_mono fun id conn hconn => ?_
    by_cases hlive : conn.liveOf t
    · obtain ⟨htenant, hcredit⟩ := ServerConn.liveOf_iff.mp hlive
      rw [if_pos (ServerConn.markedOf_iff.mpr
        ⟨htenant, by simpa using hnone id conn hconn htenant hcredit⟩)]
      split <;> simp
    · rw [if_neg hlive]
      exact Nat.zero_le _
  have hsurplus : entry.surplus ≤ entry.live := Nat.sub_le ..
  omega

/-- Revocation closes an idle server exactly when its first candidate has one: a candidate that has
none has a server in use to mark. -/
lemma revoke_closedIdle_iff (hc : a.Consistent) {revoked : Option (Revocation T)}
    (h : a.revoke = some (revoked, a')) :
    (∃ victim server, revoked = some (.closedIdle victim server)) ↔ a.RevokesIdle := by
  unfold revoke at h
  unfold RevokesIdle
  cases hcandidates : a.revocationCandidates with
  | nil =>
    rw [hcandidates] at h
    cases h
    simp
  | cons victim rest =>
    have hmem : victim ∈ a.revocationCandidates := hcandidates ▸ mem_cons_self
    obtain ⟨entry, hentry, -⟩ := revocationCandidates_spec hmem
    obtain ⟨rt, hrt⟩ := hc.runtime hentry
    have hrow := hc.row victim rt entry hrt hentry
    simp only [head?_cons, some.injEq, exists_and_left, exists_eq_left', hrt]
    rw [hcandidates] at h
    cases hidle : rt.idle.toList with
    | cons key keys =>
      -- an idle server is not a cancel, so the first one is closed
      obtain ⟨conn, hconn, -, hstate⟩ := Indexes.lookup hrow.idle
        (show key ∈ rt.idle.toList by rw [hidle]; exact mem_cons_self)
      have hfirst : a.findServer (fun conn => conn.credit ≠ .cancel) rt.idle.toList =
          some (some key.server) := by
        simp [hidle, findServer, hconn, hc.credit_of_idle hconn hstate]
      simp only [revokeFrom, hrt, hfirst, bind_eq_bind, bind_some, bind_eq_some_iff, some.injEq,
        Prod.mk.injEq] at h
      obtain ⟨-, -, rfl, -⟩ := h
      simp [OrderedSet.last?, hidle]
    | nil =>
      have hnone : a.findServer (fun conn => conn.credit ≠ .cancel) rt.idle.toList = some none := by
        rw [hidle]
        rfl
      obtain ⟨id, conn, hconn, htenant, hcredit, hneeded⟩ := exists_unmarked_of_candidate hc hmem hrt
      have hactive : conn.state = .active := by
        cases hstate : conn.state with
        | active => rfl
        | idle =>
          have := OrderedSet.mem_toList.mpr ((hrow.idle conn.seq id).mpr
            ⟨conn, hconn, htenant, hstate, rfl⟩)
          rw [hidle] at this
          cases this
      have hkey := OrderedSet.mem_toList.mpr ((hrow.active conn.seq id).mpr
        ⟨conn, hconn, htenant, hactive, rfl⟩)
      obtain ⟨server, hfound⟩ := findServer_finds
        (fun conn => conn.credit ≠ .cancel && !conn.closeNeeded)
        (fun key hkey => (Indexes.lookup hrow.active hkey).imp fun _ h => h.1) hkey hconn
        (by simp [hcredit, hneeded])
      simp only [revokeFrom, hrt, hnone, hfound, bind_eq_bind, bind_some, bind_eq_some_iff,
        some.injEq, Prod.mk.injEq] at h
      obtain ⟨-, -, rfl, -⟩ := h
      simp [OrderedSet.last?, hidle]

/-- Where no tenant that can be served waits, a new request of a tenant with a queue is granted
exactly when the tenant is not migrating, is below its guarantee in a full pool, and revocation
closes an idle server. -/
lemma tryLease_granted_iff (hs : a.Sound) (hd : a.Drained) {client : ClientId}
    (hclient : a.clients.get? client = some t) (hqueue : a.queueOf t ≠ []) (now : Timestamp) :
    (∃ lease a', a.tryLease client .normal now = some (.granted lease, a')) ↔
      (a.tenants.get? t).map (·.migrating) = some false ∧
        (∃ entry, a.budget.tenants.get? t = some entry ∧ entry.live < entry.guaranteed) ∧
        a.budget.total ≤ a.budget.liveTotal ∧ a.RevokesIdle := by
  obtain ⟨rt, hrt⟩ := isSome_iff_exists.mp (hs.consistent.client client t hclient).2
  obtain ⟨entry, hentry, -⟩ := hs.consistent.rows hrt
  rw [queueOf_eq hrt] at hqueue
  simp only [hrt, hentry, map_some, some.injEq, exists_eq_left']
  cases hmigrating : rt.migrating with
  | true => simp [tryLease, hclient, hrt, hmigrating]
  | false =>
    obtain ⟨hidle, hnot⟩ := ((hd t rt hrt).resolve_left (by simp [hmigrating])).resolve_left hqueue
    rw [servable_iff hentry, not_or] at hnot
    obtain ⟨hreuse, -⟩ | ⟨rt1, key, conn, hrt1, hlast, -, -⟩ :=
      reuseIdle_spec hs.consistent t client
    case inr =>
      cases hrt.symm.trans hrt1
      cases hidle.symm.trans hlast
    have hticked : ({ a with seq := a.seq + 1 } : Allocator T).Sound := (tick_quiet a).sound hs
    have hclassify : classify { a with seq := a.seq + 1 } t = _ := classify_eq hentry
    have hlease : a.tryLease client .normal now =
        climb { a with seq := a.seq + 1 } t client now := by
      simp [tryLease, hclient, hrt, hmigrating, hreuse]
    rw [hlease, climb, hclassify]
    by_cases hlow : entry.live < entry.guaranteed
    · have hfull : ¬ a.budget.liveTotal < a.budget.total := fun hroom => hnot.1 ⟨hlow, hroom⟩
      obtain ⟨revoked, m, hrevoke, hrevoked⟩ := revoke_spec hticked.consistent
      have hcloses : _ ↔ a.RevokesIdle := revoke_closedIdle_iff hticked.consistent hrevoke
      have hrest : entry.live < entry.guaranteed ∧ a.budget.total ≤ a.budget.liveTotal :=
        ⟨hlow, Nat.le_of_not_lt hfull⟩
      rw [← hcloses]
      simp only [if_neg hfull, hrevoke, hrest, true_and, bind_eq_bind, bind_some]
      cases hrevoked with
      | nothing =>
        obtain ⟨admission, m, hqueued, hkind, -⟩ :=
          enqueue_spec (a := { a with seq := a.seq + 1 }) hrt client now
        cases admission <;> simp_all [Admission.withRevocation]
      | @marked id conn victim hconn hstate hneeded hvictim =>
        obtain ⟨rt1, hrt1⟩ : ∃ rt1, (Allocator.flagged { a with seq := a.seq + 1 } id conn
            victim).tenants.get? t = some rt1 := by
          change ∃ rt1, (a.tenants.insert conn.tenant _).get? t = some rt1
          rw [get?_insert]
          split
          · exact ⟨_, rfl⟩
          · exact ⟨rt, hrt⟩
        obtain ⟨admission, m, hqueued, hkind, -⟩ := enqueue_spec hrt1 client now
        cases admission <;> simp_all [Admission.withRevocation]
      | closed hconn hstate hcredit hvictim hloser hleave hdelta hbudget hsurplus =>
        obtain ⟨lease, m, heq, -⟩ := revokeAndOpen_progress hticked hrt hentry hlow
          (Nat.le_of_not_lt hfull) hconn hcredit hvictim hloser hleave hdelta hbudget hsurplus client
        simp [heq]
    · by_cases hcap : entry.burstable ≤ entry.live
      · simp [hlow, hcap]
      have hfree : ¬ 0 < a.budget.free := fun hpositive => hnot.2 ⟨by omega, by omega, hpositive⟩
      obtain ⟨admission, m, hqueued, hkind, -⟩ :=
        enqueue_spec (a := { a with seq := a.seq + 1 }) hrt client now
      simp only [hlow, if_neg hcap, if_neg hfree, hqueued, bind_eq_bind, false_and, and_false,
        iff_false, not_exists]
      intro lease a' heq
      cases heq
      exact hkind lease rfl

/-- A burst tenant fills the pool; a tenant bound later has a request queued; the
burst tenant parks the server that was not marked. -/
def overtakingRun : List (Op Nat) :=
  [.addTenant 0 (plainTenant 0 2), .connectClient 0, .connectClient 0,
    .tryLease 0 .normal 0, .tryLease 1 .normal 0,
    .addTenant 1 (plainTenant 1 1), .connectClient 1, .connectClient 1,
    .tryLease 2 .normal 0,
    .release { server := 1, tenant := 0, client := 1, credit := .burst, epoch := 4 }]

/-- A new request is granted while an older one of the same tenant is queued. -/
theorem overtakes_queued_request : ∃ (a : Allocator Nat) (client : ClientId) (t : Nat),
      (system (plainPool 2) plainAdmission).Reachable a ∧ a.clients.get? client = some t ∧
        (a.queueOf t).length = 1 ∧
        ∃ lease a', a.tryLease client .normal 1 = some (.granted lease, a') := by
  let a := (replay (plainPool 2) plainAdmission overtakingRun).get (by decide)
  have ha : _ = some a := (some_get _).symm
  refine ⟨a, 3, 1, reachable_of_replay ha, by decide, by decide, ?_⟩
  let answer := (a.tryLease 3 .normal 1).get (by decide)
  have hanswer : _ = some answer := (some_get _).symm
  have hgranted : ∃ lease, answer.1 = .granted lease :=
    ⟨{ server := 2, tenant := 1, client := 3, credit := .reserved, epoch := 10 }, by decide⟩
  obtain ⟨lease, hlease⟩ := hgranted
  exact ⟨lease, answer.2, by rw [hanswer, ← hlease]⟩

/-- In every run in which `drain_to` is only used while nothing is queued, a new request is granted
ahead of a queued one of the same tenant exactly when the tenant is not migrating, is below its
guarantee in a full pool, and there is an idle server to revoke; and every operation serves the
tickets of a tenant in the order in which they were queued. -/
theorem queued_requests_are_first (pool : PoolSpec) (admission : AdmissionSpec) {a : Allocator T}
    (h : ((system pool admission).restrict DrainsWhenEmpty).Reachable a) :
    (∀ client t now, a.clients.get? client = some t → a.queueOf t ≠ [] →
      ((∃ lease a', a.tryLease client .normal now = some (.granted lease, a')) ↔
        (a.tenants.get? t).map (·.migrating) = some false ∧
          (∃ entry, a.budget.tenants.get? t = some entry ∧ entry.live < entry.guaranteed) ∧
          a.budget.total ≤ a.budget.liveTotal ∧ a.RevokesIdle)) ∧
    (∀ op outcome a', a.apply op = some (outcome, a') → ∀ t,
      (ticketsFor outcome.grants t ++ (a'.queueOf t).map (·.id)).Pairwise (· < ·)) := by
  have hs := reachable_sound h.of_restrict
  constructor
  · intro client t now hclient hqueue
    exact tryLease_granted_iff hs (reachable_drained h) hclient hqueue now
  intro op outcome a' heq t
  obtain ⟨outcome', a₁, heq', heffect⟩ := apply_spec hs op
  rw [heq, some.injEq, Prod.mk.injEq] at heq'
  obtain ⟨rfl, rfl⟩ := heq'
  exact (reachable_ticketsOrdered h.of_restrict t).sublist (heffect.order t)

/-- Two burst tenants share a full pool; the second has a request queued. -/
def waitingRun : List (Op Nat) :=
  [.addTenant 0 (plainTenant 0 2), .addTenant 1 (plainTenant 0 2), .connectClient 0,
    .connectClient 1, .tryLease 0 .normal 0, .tryLease 0 .normal 0, .tryLease 1 .normal 0]

theorem queued_requests_are_first_waitingRun :
    ∃ a : Allocator Nat, replay (plainPool 2) plainAdmission waitingRun = some a ∧
      (a.queueOf 1).length = 1 ∧
      (∀ now lease a', a.tryLease 1 .normal now ≠ some (.granted lease, a')) ∧
      (∀ op outcome a', a.apply op = some (outcome, a') → ∀ t,
        (ticketsFor outcome.grants t ++ (a'.queueOf t).map (·.id)).Pairwise (· < ·)) := by
  let a := (replay (plainPool 2) plainAdmission waitingRun).get (by decide)
  have ha : _ = some a := (some_get _).symm
  have hcalm : ∀ op ∈ waitingRun, ∀ s : Allocator Nat, DrainsWhenEmpty s op := by
    intro op hop s target heq
    subst heq
    exact absurd hop (by simp [waitingRun])
  have hreach := restricted_of_replay hcalm ha
  obtain ⟨hfirst, horder⟩ := queued_requests_are_first _ _ hreach
  have hlength : (a.queueOf 1).length = 1 := by decide
  refine ⟨a, ha, hlength, ?_, horder⟩
  intro now lease a' hgranted
  obtain ⟨-, ⟨entry, hentry, hlow⟩, -⟩ :=
    (hfirst 1 1 now (by decide) (ne_nil_of_length_pos (by omega))).mp ⟨lease, a', hgranted⟩
  have hguarantee : (a.budget.tenants.get? 1).map (·.guaranteed) = some 0 := by decide
  rw [hentry, map_some, some.injEq] at hguarantee
  omega

/-! ## The order of the scheduler -/

open Std (OrientedCmp OrientedOrd TransCmp)

instance : TransCmp weightedFractionCmp where
  eq_swap {l r} := by
    unfold weightedFractionCmp
    dsimp only
    split <;> simp_all [OrientedOrd.eq_swap (a := r.surplus * _)]
  isLE_trans {l m r} := by
    unfold weightedFractionCmp
    generalize (l.burstable - l.guaranteed) * l.weight = lD,
      (m.burstable - m.guaranteed) * m.weight = mD, (r.burstable - r.guaranteed) * r.weight = rD
    by_cases hl : lD = 0 <;> by_cases hm : mD = 0 <;> by_cases hr : rD = 0 <;>
      simp only [hl, hm, hr, decide_true, decide_false, Ordering.isLE_gt, Nat.isLE_compare]
    all_goals try simp
    -- three burst ranges: multiply by the denominator in the middle
    intro hlm hmr
    refine Nat.le_of_mul_le_mul_right ?_ (Nat.pos_of_ne_zero hm)
    calc l.surplus * rD * mD = l.surplus * mD * rD := Nat.mul_right_comm ..
      _ ≤ m.surplus * lD * rD := Nat.mul_le_mul_right rD hlm
      _ = m.surplus * rD * lD := Nat.mul_right_comm ..
      _ ≤ r.surplus * mD * lD := Nat.mul_le_mul_right lD hmr
      _ = r.surplus * lD * mD := Nat.mul_right_comm ..

instance : TransCmp (weightedDeficitCmp (T := T)) :=
  have : TransCmp fun l r : Waiting T => compare r.entry.deficit l.entry.deficit :=
    @TransCmp.opposite _ (compareOn _) _
  have : TransCmp fun l r : Waiting T => weightedFractionCmp l.entry r.entry :=
    { eq_swap := OrientedCmp.eq_swap, isLE_trans := TransCmp.isLE_trans }
  have : TransCmp fun l r : Waiting T => compare r.entry.priority l.entry.priority :=
    @TransCmp.opposite _ (compareOn _) _
  inferInstanceAs (TransCmp (compareLex _ (compareLex _ (compareLex _
    (compareLex (compareOn Waiting.seq) (compareOn Waiting.id))))))

end Allocator
end PgElastic.Capacity
