import PgElastic.Capacity.Moves

/-!
# The queue drain

What `drain_queue` does to a sound allocator: it does not panic, its fuel is
enough, it is a sequence of elementary moves, it hands out the tickets of each
tenant from the head of the queue in order, and when it stops no waiting tenant
can be served from idle or free capacity (`Drained`).
-/

namespace PgElastic.Capacity

open Library Option OrderedMap List Relation ReflTransGen

variable {T : Type} [LinearOrder T]

namespace Allocator

/-- A tenant's wait queue; empty for an unknown tenant. -/
def queueOf (a : Allocator T) (t : T) : List (Ticket T) :=
  ((a.tenants.get? t).map (·.queue)).getD []

/-- The tickets of a tenant among some grants, in grant order. -/
def ticketsFor (grants : List (Grant T)) (t : T) : List TicketId :=
  (grants.filter fun grant => grant.tenant = t).map (·.ticket)

/-- The granted tickets of every tenant, followed by its queue afterwards, are its
queue before. -/
def Serves (a : Allocator T) (grants : List (Grant T)) (a' : Allocator T) : Prop :=
  ∀ t, (a.queueOf t).map (·.id) = ticketsFor grants t ++ (a'.queueOf t).map (·.id)

/-- The ladder has reserved or burst credit for the tenant. -/
def Servable (a : Allocator T) (t : T) : Prop :=
  a.classify t = some (.ok .reserved) ∨ a.classify t = some (.ok .burst)

/-- The head of the tenant's queue, if there is one, cannot be served without
revoking. -/
def Stuck (a : Allocator T) (t : T) : Prop :=
  ∀ rt, a.tenants.get? t = some rt → rt.migrating = true ∨ rt.queue = [] ∨
    (rt.idle.last? = none ∧ ¬ a.Servable t)

/-- No waiting tenant can be served from idle or free capacity. -/
def Drained (a : Allocator T) : Prop := ∀ t, a.Stuck t

variable {a : Allocator T} {t : T} {rt : TenantRuntime T} {a' : Allocator T}

lemma queueOf_eq (h : a.tenants.get? t = some rt) : a.queueOf t = rt.queue := by
  simp [queueOf, h]

lemma queueOf_insert (a : Allocator T) (rt : TenantRuntime T)
    (h : a'.tenants = a.tenants.insert t rt) (t' : T) :
    a'.queueOf t' = if t' = t then rt.queue else a.queueOf t' := by
  unfold queueOf
  rw [h, get?_insert]
  split <;> rfl

lemma Serves.refl_of_queues (h : ∀ t, a'.queueOf t = a.queueOf t) : a.Serves [] a' := by
  intro t
  rw [h t]
  rfl

lemma Serves.trans {b c : Allocator T} {first second : List (Grant T)} (hab : a.Serves first b)
    (hbc : b.Serves second c) : a.Serves (first ++ second) c := by
  intro t
  simp [hab t, hbc t, ticketsFor]

/-- Reserved or burst credit, in terms of the ledger. -/
lemma servable_iff {entry : TenantEntry} (hentry : a.budget.tenants.get? t = some entry) :
    a.Servable t ↔ (entry.live < entry.guaranteed ∧ a.budget.liveTotal < a.budget.total) ∨
      (entry.guaranteed ≤ entry.live ∧ entry.live < entry.burstable ∧ 0 < a.budget.free) := by
  unfold Servable
  rw [classify_reserved_iff hentry, classify_burst_iff hentry]

/-- Serving the head of a queue either fails and only draws a sequence number, or
gives a lease and leaves every queue as it was. -/
lemma serveHead_spec (hc : a.Consistent) (hrt : a.tenants.get? t = some rt) (client : ClientId) :
    (a.serveHead t client = some (none, { a with seq := a.seq + 1 }) ∧
      rt.idle.last? = none ∧ ¬ a.Servable t) ∨
    ∃ lease a' rt', a.serveHead t client = some (some lease, a') ∧ Moves a a' ∧
      a'.tenants = a.tenants.insert t rt' ∧ rt'.queue = rt.queue ∧
      a'.queuedTotal = a.queuedTotal ∧ rt'.migrating = rt.migrating ∧
      (rt.idle.last? = none → a.Servable t) := by
  obtain ⟨entry, hentry, -⟩ := hc.rows hrt
  rcases reuseIdle_spec hc t client with ⟨hreuse, hnone⟩ | ⟨rt1, key, conn, hrt1, hlast, hconn, hreuse⟩
  · have hticked : Consistent { a with seq := a.seq + 1 } := hc.tick _
    have hopen : ∀ credit, Affords { a with seq := a.seq + 1 } t credit →
        ∃ lease a' rt', openServer { a with seq := a.seq + 1 } t credit client =
            some (lease, a') ∧ Moves a a' ∧
          a'.tenants = a.tenants.insert t rt' ∧ rt'.queue = rt.queue ∧
          a'.queuedTotal = a.queuedTotal ∧ rt'.migrating = rt.migrating := by
      intro credit hcredit
      obtain ⟨budget, hbudget, heq⟩ := openServer_spec hticked hrt hentry credit client
      refine ⟨_, _, _, heq, ?_, rfl, rfl, rfl, rfl⟩
      exact .tail (single (.tick a)) (.openServer client hrt hentry hcredit hbudget)
    have hclassify : classify { a with seq := a.seq + 1 } t = a.classify t := rfl
    by_cases hreserved : a.classify t = some (.ok .reserved)
    · obtain ⟨lease, a', rt', heq, hmoves, htenants, hqueue, htotal, hmigrating⟩ :=
        hopen .reserved hreserved
      refine .inr ⟨lease, a', rt', ?_, hmoves, htenants, hqueue, htotal, hmigrating,
        fun _ => .inl hreserved⟩
      simp only [serveHead, hreuse, hclassify, hreserved, heq, bind_eq_bind, bind_some]
    by_cases hburst : a.classify t = some (.ok .burst)
    · obtain ⟨lease, a', rt', heq, hmoves, htenants, hqueue, htotal, hmigrating⟩ :=
        hopen .burst hburst
      refine .inr ⟨lease, a', rt', ?_, hmoves, htenants, hqueue, htotal, hmigrating,
        fun _ => .inr hburst⟩
      simp only [serveHead, hreuse, hclassify, hburst, heq, bind_eq_bind, bind_some]
    refine .inl ⟨?_, hnone rt hrt, ?_⟩
    · cases hcls : a.classify t with
      | none =>
        rw [classify_eq hentry] at hcls
        split at hcls
        · cases hcls
        · split at hcls
          · cases hcls
          · split at hcls <;> cases hcls
      | some decision =>
        simp only [serveHead, hreuse, hclassify, hcls, bind_eq_bind, bind_some]
        split
        · rw [hcls] at hreserved
          exact absurd rfl hreserved
        · rw [hcls] at hburst
          exact absurd rfl hburst
        · rfl
    · rintro (h | h)
      · exact hreserved h
      · exact hburst h
  · rw [hrt] at hrt1
    cases hrt1
    refine .inr ⟨conn.leaseTo t client (a.seq + 1), _, _, ?_, single
      (.checkOut client hrt hlast hconn), rfl, rfl, rfl, rfl, by simp [hlast]⟩
    simp only [serveHead, hreuse, bind_eq_bind, bind_some]

/-- Taking the granted ticket off its queue. -/
lemma popTicket_spec (hc : a.Consistent) {ticket : Ticket T} {rest : List (Ticket T)}
    (hrt : a.tenants.get? t = some rt) (hqueue : rt.queue = ticket :: rest) (lease : Lease T) :
    ∃ grant a', a.popTicket t lease = some (grant, a') ∧ Move a a' ∧
      a'.queuedTotal + 1 = a.queuedTotal ∧ a.Serves [grant] a' ∧ grant.tenant = t := by
  have hle : 1 ≤ a.queuedTotal := by
    have hlen := le_sumOf (f := fun _ row => (TenantRuntime.queue row).length) hrt
    rw [← hc.queuedTotal, hqueue, length_cons] at hlen
    omega
  have hqueues : ∀ t', queueOf { a with
      tenants := a.tenants.insert t { rt with queue := rest }
      queuedTotal := a.queuedTotal - 1 } t' = if t' = t then rest else a.queueOf t' :=
    queueOf_insert a { rt with queue := rest } rfl
  refine ⟨{ ticket := ticket.id, client := ticket.client, tenant := t, lease := lease }, { a with
      tenants := a.tenants.insert t { rt with queue := rest }
      queuedTotal := a.queuedTotal - 1 }, ?_, ?_, Nat.sub_add_cancel hle, ?_, rfl⟩
  · simp only [popTicket, hrt, hqueue, checkedSub_of_le hle, bind_eq_bind, bind_some]
  · apply Move.dequeue hrt
    · rw [hqueue]
      exact sublist_cons_self ticket rest
    · rw [hqueue, length_cons]
      omega
  intro t'
  rw [hqueues t']
  by_cases ht' : t' = t
  · subst ht'
    rw [if_pos rfl, queueOf_eq hrt, hqueue]
    simp [ticketsFor]
  · rw [if_neg ht']
    simp [ticketsFor, Ne.symm ht']

/-- One pass over tenants with waiting clients: either it grants exactly one
ticket, of the first tenant that is not stuck, or every tenant of the pass is stuck
and only sequence numbers were drawn. -/
lemma drainRound_spec {order : List T} : a.Sound →
      (∀ t ∈ order, ∃ rt, a.tenants.get? t = some rt ∧ rt.queue ≠ []) →
      (∃ seq, drainRound order a = some (none, { a with seq := seq }) ∧
        Moves a { a with seq := seq } ∧ ∀ t ∈ order, a.Stuck t) ∨
      ∃ grant a', drainRound order a = some (some grant, a') ∧ Moves a a' ∧
        a'.queuedTotal + 1 = a.queuedTotal ∧ a.Serves [grant] a' ∧
        ∃ earlier later, order = earlier ++ grant.tenant :: later ∧ (∀ t ∈ earlier, a.Stuck t) ∧
          ¬ a.Stuck grant.tenant := by
  induction order generalizing a with
  | nil =>
    intro _ _
    refine .inl ⟨a.seq, rfl, refl, ?_⟩
    intro t ht
    cases ht
  | cons t rest ih =>
    intro hs horder
    obtain ⟨rt, hrt, hne⟩ := horder t mem_cons_self
    have hrest : ∀ t' ∈ rest, ∃ rt, a.tenants.get? t' = some rt ∧ rt.queue ≠ [] :=
      fun t' ht' => horder t' (mem_cons_of_mem _ ht')
    by_cases hmigrating : rt.migrating
    · have hskip : drainRound (t :: rest) a = drainRound rest a := by
        simp only [drainRound, hrt, bind_eq_bind, bind_some, if_pos hmigrating]
      rw [hskip]
      have hfirst : a.Stuck t := by
        intro rt' hrt'
        rw [hrt, some.injEq] at hrt'
        exact .inl (hrt' ▸ hmigrating)
      rcases ih hs hrest with ⟨seq, heq, hmoves, hstuck⟩ |
        ⟨grant, a', heq, hmoves, hlen, hserves, earlier, later, rfl, hstuck⟩
      · exact .inl ⟨seq, heq, hmoves, forall_mem_cons.mpr ⟨hfirst, hstuck⟩⟩
      · exact .inr ⟨grant, a', heq, hmoves, hlen, hserves, t :: earlier, later, rfl,
          forall_mem_cons.mpr ⟨hfirst, hstuck.1⟩, hstuck.2⟩
    obtain ⟨ticket, tickets, hqueue⟩ := exists_cons_of_ne_nil hne
    have hhead : rt.queue.head? = some ticket := by rw [hqueue]; rfl
    rcases serveHead_spec hs.consistent hrt ticket.client with
      ⟨hserve, hidle, hcredit⟩ | ⟨lease, a1, rt1, hserve, hmoves, htenants, hsame, htotal, -, hserved⟩
    · -- nothing for this tenant: go on from a state that differs in `seq` only
      have hskip : drainRound (t :: rest) a = drainRound rest { a with seq := a.seq + 1 } := by
        simp only [drainRound, hrt, bind_eq_bind, bind_some, if_neg hmigrating, hhead, hserve]
      rw [hskip]
      have hs1 : Sound { a with seq := a.seq + 1 } := (Move.tick a).sound hs
      have hfirst : a.Stuck t := by
        intro rt' hrt'
        rw [hrt, some.injEq] at hrt'
        subst hrt'
        exact .inr (.inr ⟨hidle, hcredit⟩)
      rcases ih hs1 hrest with ⟨seq, heq, hmoves, hstuck⟩ |
        ⟨grant, a', heq, hmoves, hlen, hserves, earlier, later, rfl, hstuck⟩
      · exact .inl ⟨seq, heq, head (.tick a) hmoves, forall_mem_cons.mpr ⟨hfirst, hstuck⟩⟩
      · exact .inr ⟨grant, a', heq, .head (.tick a) hmoves, hlen, hserves, t :: earlier, later, rfl,
          forall_mem_cons.mpr ⟨hfirst, hstuck.1⟩, hstuck.2⟩
    · have hs1 := (Moves.sound hmoves hs).1
      have hrt1 : a1.tenants.get? t = some rt1 := by
        rw [htenants]
        exact get?_insert_self _ _ _
      have hqueue1 : rt1.queue = ticket :: tickets := hsame.trans hqueue
      obtain ⟨grant, a', hpop, hmove, hlen, hserves, rfl⟩ :=
        popTicket_spec hs1.consistent hrt1 hqueue1 lease
      refine .inr ⟨grant, a', ?_, tail hmoves hmove, ?_, ?_, [], rest, rfl, by simp, ?_⟩
      · simp only [drainRound, hrt, bind_eq_bind, bind_some, if_neg hmigrating, hhead, hserve, hpop]
      · rw [hlen, htotal]
      · have hqueues t' : a1.queueOf t' = a.queueOf t' := by
          rw [queueOf_insert a rt1 htenants]
          split
          · rename_i heq
            rw [heq, queueOf_eq hrt, hsame]
          · rfl
        exact (Serves.refl_of_queues hqueues).trans hserves
      · intro hstuck
        obtain hmoving | hempty | ⟨hidle, hnot⟩ := hstuck rt hrt
        · exact hmigrating hmoving
        · exact hne hempty
        · exact hnot (hserved hidle)

lemma mem_waiting (w : Waiting T) : w ∈ a.waiting ↔ ∃ rt ticket, a.tenants.get? w.id = some rt ∧
      rt.queue.head? = some ticket ∧ a.budget.tenants.get? w.id = some w.entry ∧
      w.seq = ticket.seq := by
  unfold waiting
  rw [mem_filterMap]
  constructor
  · rintro ⟨⟨id, rt⟩, hentry, hw⟩
    simp only [bind_eq_bind, bind_eq_some_iff, some.injEq] at hw
    obtain ⟨ticket, hticket, entry, hrow, rfl⟩ := hw
    exact ⟨rt, ticket, (a.tenants.mem_entries_iff id rt).mp hentry, hticket, hrow, rfl⟩
  · rintro ⟨rt, ticket, hrt, hticket, hrow, hseq⟩
    refine ⟨(w.id, rt), (a.tenants.mem_entries_iff _ _).mpr hrt, ?_⟩
    simp only [bind_eq_bind, hticket, bind_some, CapacityBudget.tenant, hrow, ← hseq]

/-- The scheduler lists exactly the tenants with a waiting client. -/
lemma schedulerOrder_spec (hs : a.Sound) : ∃ order, a.schedulerOrder = some order ∧
      ∀ t, t ∈ order ↔ ∃ rt, a.tenants.get? t = some rt ∧ rt.queue ≠ [] := by
  have hmem t : t ∈ a.waiting.map (·.id) ↔ ∃ rt, a.tenants.get? t = some rt ∧ rt.queue ≠ [] := by
    rw [List.mem_map]
    constructor
    · rintro ⟨w, hw, rfl⟩
      obtain ⟨rt, ticket, hrt, hticket, -, -⟩ := (mem_waiting w).mp hw
      refine ⟨rt, hrt, ?_⟩
      intro hnil
      rw [hnil] at hticket
      cases hticket
    · rintro ⟨rt, hrt, hne⟩
      obtain ⟨entry, hentry, -⟩ := hs.consistent.rows hrt
      obtain ⟨ticket, tickets, hqueue⟩ := exists_cons_of_ne_nil hne
      refine ⟨{ id := t, entry := entry, seq := ticket.seq }, ?_, rfl⟩
      exact (mem_waiting _).mpr ⟨rt, ticket, hrt, by rw [hqueue]; rfl, hentry, rfl⟩
  have hvalid : (a.waiting.all fun w => w.entry.guaranteed ≤ w.entry.burstable) := by
    rw [List.all_eq_true]
    intro w hw
    obtain ⟨rt, ticket, -, -, hrow, -⟩ := (mem_waiting w).mp hw
    exact decide_eq_true (hs.bounded.budget.guaranteed_le_burstable _ _ hrow)
  have hsorted (r : Waiting T → Waiting T → Prop) [DecidableRel r] t :
      t ∈ (a.waiting.insertionSort r).map (·.id) ↔
        ∃ rt, a.tenants.get? t = some rt ∧ rt.queue ≠ [] := by
    rw [← hmem t, List.mem_map, List.mem_map]
    simp only [mem_insertionSort]
  unfold schedulerOrder
  rw [if_pos hvalid]
  split <;> exact ⟨_, rfl, hsorted _⟩

/-- With no ticket left nothing waits. -/
lemma Consistent.drained_of_empty (hc : a.Consistent) (h : a.queuedTotal = 0) : a.Drained := by
  intro t rt hrt
  rw [hc.queuedTotal] at h
  have hlen := sumOf_eq_zero_iff.mp h t rt hrt
  exact .inr (.inl (length_eq_zero_iff.mp hlen))

/-- The drain loop: enough fuel, elementary moves only, tickets in queue order,
and nothing servable is left waiting. -/
lemma drainLoop_spec (fuel : Nat) : a.Sound → a.queuedTotal < fuel →
      ∃ grants a', drainLoop fuel a = some (grants, a') ∧ Moves a a' ∧ a'.Drained ∧
        a.Serves grants a' := by
  induction fuel generalizing a with
  | zero =>
    intro _ hfuel
    exact absurd hfuel (Nat.not_lt_zero _)
  | succ fuel ih =>
    intro hs hfuel
    by_cases hempty : a.queuedTotal = 0
    · refine ⟨[], a, ?_, refl, hs.consistent.drained_of_empty hempty, ?_⟩
      · simp only [drainLoop, if_pos hempty]
      · exact Serves.refl_of_queues fun _ => rfl
    obtain ⟨order, horder, hmem⟩ := schedulerOrder_spec hs
    rcases drainRound_spec hs fun t ht => (hmem t).mp ht with
      ⟨seq, hround, hmoves, hstuck⟩ | ⟨grant, a1, hround, hmoves, hlen, hserves, -⟩
    · refine ⟨[], { a with seq := seq }, ?_, hmoves, ?_, ?_⟩
      · simp only [drainLoop, if_neg hempty, horder, hround, bind_eq_bind, bind_some]
      · -- a tenant outside the order has an empty queue
        intro t rt hrt
        by_cases hqueue : rt.queue = []
        · exact .inr (.inl hqueue)
        · exact hstuck t ((hmem t).mpr ⟨rt, hrt, hqueue⟩) rt hrt
      · exact Serves.refl_of_queues fun _ => rfl
    · have hs1 := (Moves.sound hmoves hs).1
      obtain ⟨grants, a', hloop, hmoves', hdrained, hserves'⟩ := ih hs1 (by omega)
      refine ⟨grant :: grants, a', ?_, hmoves.trans hmoves', hdrained, ?_⟩
      · simp only [drainLoop, if_neg hempty, horder, hround, hloop, bind_eq_bind, bind_some]
      · exact hserves.trans hserves'

lemma drainQueue_spec (hs : a.Sound) :
    ∃ grants a', a.drainQueue = some (grants, a') ∧ Moves a a' ∧ a'.Drained ∧ a.Serves grants a' :=
  drainLoop_spec _ hs (Nat.lt_succ_self _)

/-- Every grant of a drain takes one ticket off the queues. -/
lemma length_drainLoop {fuel : Nat} {grants : List (Grant T)} :
    a.Sound → drainLoop fuel a = some (grants, a') →
      grants.length + a'.queuedTotal = a.queuedTotal := by
  induction fuel generalizing a grants with
  | zero =>
    intro _ h
    cases h
  | succ fuel ih =>
    intro hs h
    simp only [drainLoop] at h
    split at h
    · cases h
      exact Nat.zero_add _
    obtain ⟨order, horder, hmem⟩ := schedulerOrder_spec hs
    rcases drainRound_spec hs fun t ht => (hmem t).mp ht with
      ⟨seq, hround, -⟩ | ⟨grant, a1, hround, hmoves, hlen, -⟩
    · simp only [horder, hround, bind_eq_bind, bind_some] at h
      cases h
      exact Nat.zero_add _
    · simp only [horder, hround, bind_eq_bind, bind_some] at h
      obtain ⟨⟨later, b⟩, hloop, h⟩ := bind_eq_some_iff.mp h
      cases h
      have hlater : later.length + b.queuedTotal = a1.queuedTotal :=
        ih (Moves.sound hmoves hs).1 hloop
      change (grant :: later).length + b.queuedTotal = a.queuedTotal
      rw [length_cons]
      omega

end Allocator
end PgElastic.Capacity
