import PgElastic.Capacity.Operations

/-!
# The admission ladder

`try_lease` from a sound state: it does not panic, it is a sequence of elementary
moves, and it leaves no servable tenant waiting that was not waiting before.  The
interesting step is revocation.  It only runs when the pool is full and the
claims exceed it, so after one idle server of a victim was closed and one was
opened for the tenant below its guarantee, the pool is full again and still
without free credit.
-/

namespace PgElastic.Capacity

open Library Option List Relation TenantEntry

variable {T : Type} [LinearOrder T]

namespace Allocator

/-- Looking for a server among indexed keys. -/
lemma findServer_spec (a : Allocator T) (test : ServerConn T → Bool) (keys : List ServerKey) :
    (∀ key ∈ keys, ∃ conn, a.servers.get? key.server = some conn) →
      ∃ found, a.findServer test keys = some found ∧
        ∀ id, found = some id → ∃ key ∈ keys, key.server = id ∧
          ∃ conn, a.servers.get? id = some conn ∧ test conn := by
  induction keys with
  | nil =>
    intro _
    refine ⟨none, rfl, ?_⟩
    intro id h
    cases h
  | cons key rest ih =>
    intro hkeys
    obtain ⟨conn, hconn⟩ := hkeys key mem_cons_self
    by_cases htest : test conn
    · refine ⟨some key.server, ?_, ?_⟩
      · simp only [findServer, hconn, bind_eq_bind, bind_some, if_pos htest]
      · intro id h
        cases h
        exact ⟨key, mem_cons_self, rfl, conn, hconn, htest⟩
    obtain ⟨found, heq, hfound⟩ := ih fun k hk => hkeys k (mem_cons_of_mem _ hk)
    refine ⟨found, ?_, ?_⟩
    · simp only [findServer, hconn, bind_eq_bind, bind_some, if_neg htest, heq]
    · intro id h
      obtain ⟨k, hk, hid, hrest⟩ := hfound id h
      exact ⟨k, mem_cons_of_mem _ hk, hid, hrest⟩

/-- A server that satisfies the test is found, or one before it. -/
lemma findServer_finds {a : Allocator T} (test : ServerConn T → Bool) {keys : List ServerKey}
    {key : ServerKey} {conn : ServerConn T}
    (hkeys : ∀ key ∈ keys, ∃ conn, a.servers.get? key.server = some conn) (hkey : key ∈ keys)
    (hconn : a.servers.get? key.server = some conn) (htest : test conn) :
    ∃ id, a.findServer test keys = some (some id) := by
  induction keys with
  | nil => cases hkey
  | cons head rest ih =>
    obtain ⟨found, hfound⟩ := hkeys head mem_cons_self
    simp only [findServer, hfound, bind_eq_bind, bind_some]
    split
    · exact ⟨_, rfl⟩
    · rename_i hfails
      rcases mem_cons.mp hkey with rfl | hkey
      · cases hconn.symm.trans hfound
        exact absurd htest hfails
      · exact ih (fun k hk => hkeys k (mem_cons_of_mem _ hk)) hkey

omit [LinearOrder T] in
/-- The keys of an index of a bound tenant lead to servers of that tenant in that
state. -/
lemma Indexes.lookup {index : OrderedSet ServerKey}
    {servers : OrderedMap ServerId (ServerConn T)} {tenant : T} {state : ServerState}
    (h : Indexes index servers tenant state) {key : ServerKey} (hkey : key ∈ index.toList) :
    ∃ conn, servers.get? key.server = some conn ∧ conn.tenant = tenant ∧ conn.state = state := by
  obtain ⟨seq, hseq⟩ := exists_serverKey key
  rw [OrderedSet.mem_toList, hseq] at hkey
  obtain ⟨conn, hconn, htenant, hstate, -⟩ := (h seq key.server).mp hkey
  exact ⟨conn, hconn, htenant, hstate⟩

/-- What a successful revocation takes from its victim. -/
inductive Revoked (a : Allocator T) : Option (Revocation T) → Allocator T → Prop
  | nothing : Revoked a none a
  | marked {id : ServerId} {conn : ServerConn T} {rt : TenantRuntime T}
      (hconn : a.servers.get? id = some conn) (hstate : conn.state = .active)
      (hneeded : conn.closeNeeded = false)
      (hrt : a.tenants.get? conn.tenant = some rt) :
      Revoked a (some (.markedActive conn.tenant id)) (a.flagged id conn rt)
  | closed {id : ServerId} {conn : ServerConn T} {rt rt' : TenantRuntime T}
      {entry : TenantEntry} {budget : CapacityBudget T}
      (hconn : a.servers.get? id = some conn) (hstate : conn.state = .idle)
      (hcredit : conn.credit ≠ .cancel)
      (hrt : a.tenants.get? conn.tenant = some rt)
      (hentry : a.budget.tenants.get? conn.tenant = some entry)
      (hleave : rt.leave id conn = some rt') (hdelta : liveDelta conn.credit ≤ entry.live)
      (hbudget : a.budget.Recounts conn.tenant entry (entry.live - liveDelta conn.credit) budget)
      (hsurplus : 0 < entry.surplus) :
      Revoked a (some (.closedIdle conn.tenant id)) (a.shut id conn.tenant rt' budget)

variable {a : Allocator T} {t : T} {rt : TenantRuntime T} {entry : TenantEntry}

/-- A server that can be reused was not opened for a cancel request. -/
lemma Consistent.credit_of_idle (hc : a.Consistent) {id : ServerId} {conn : ServerConn T}
    (hconn : a.servers.get? id = some conn) (hidle : conn.state = .idle) :
    conn.credit ≠ .cancel := by
  intro hcancel
  have hactive := (hc.server id conn hconn).2.2.2 hcancel
  rw [hidle] at hactive
  cases hactive

lemma revokeFrom_spec (hc : a.Consistent) {candidates : List T} :
    (∀ t ∈ candidates, ∃ entry, a.budget.tenants.get? t = some entry ∧ 0 < entry.surplus) →
    ∃ revoked a', a.revokeFrom candidates = some (revoked, a') ∧ Revoked a revoked a' := by
  induction candidates with
  | nil =>
    intro _
    exact ⟨none, a, rfl, Revoked.nothing⟩
  | cons t rest ih =>
    intro hcandidates
    obtain ⟨entry, hentry, hsurplus⟩ := hcandidates t mem_cons_self
    obtain ⟨rt, hrt⟩ := hc.runtime hentry
    have hrow := hc.row t rt entry hrt hentry
    obtain ⟨idle, hidle, hidleSpec⟩ := findServer_spec a
      (fun conn => conn.credit ≠ .cancel) rt.idle.toList (by
        intro key hkey
        obtain ⟨conn, hconn, -⟩ := Indexes.lookup hrow.idle hkey
        exact ⟨conn, hconn⟩)
    cases idle with
    | some id =>
      obtain ⟨key, hkey, hid, conn, hconn, htest⟩ := hidleSpec id rfl
      obtain ⟨conn', hconn', htenant, hstate⟩ := Indexes.lookup hrow.idle hkey
      rw [hid, hconn, some.injEq] at hconn'
      subst hconn'
      subst htenant
      obtain ⟨rt1, entry1, rt', budget, hrt1, hentry1, hleave, hdelta, hbudget, heq⟩ :=
        closeServer_spec hc hconn
      rw [hentry] at hentry1
      cases hentry1
      refine ⟨some (.closedIdle conn.tenant id), a.shut id conn.tenant rt' budget, ?_, ?_⟩
      · simp only [revokeFrom, hrt, hidle, heq, bind_eq_bind, bind_some]
      · exact Revoked.closed hconn hstate (of_decide_eq_true htest) hrt1 hentry hleave hdelta
          hbudget hsurplus
    | none =>
      obtain ⟨active, hactive, hactiveSpec⟩ := findServer_spec a
        (fun conn => conn.credit ≠ .cancel && !conn.closeNeeded) rt.active.toList (by
          intro key hkey
          obtain ⟨conn, hconn, -⟩ := Indexes.lookup hrow.active hkey
          exact ⟨conn, hconn⟩)
      cases active with
      | some id =>
        obtain ⟨key, hkey, hid, conn, hconn, htest⟩ := hactiveSpec id rfl
        obtain ⟨conn', hconn', htenant, hstate⟩ := Indexes.lookup hrow.active hkey
        rw [hid, hconn, some.injEq] at hconn'
        subst hconn'
        subst htenant
        have hneeded : conn.closeNeeded = false := by
          rw [Bool.and_eq_true] at htest
          simpa using htest.2
        have hmark : a.markCloseNeeded id = some (true, a.flagged id conn rt) := by
          simp [markCloseNeeded, hconn, hneeded, hrt, flagged]
        refine ⟨some (.markedActive conn.tenant id), a.flagged id conn rt, ?_,
          Revoked.marked hconn hstate hneeded hrt⟩
        simp only [revokeFrom, hrt, hidle, hactive, hmark, bind_eq_bind, bind_some]
      | none =>
        obtain ⟨revoked, a', heq, hrevoked⟩ :=
          ih fun t' ht' => hcandidates t' (mem_cons_of_mem _ ht')
        refine ⟨revoked, a', ?_, hrevoked⟩
        simp only [revokeFrom, hrt, hidle, hactive, heq, bind_eq_bind, bind_some]

/-- Every candidate for revocation holds more than its guarantee, net of its marks. -/
lemma revocationCandidates_spec (h : t ∈ a.revocationCandidates) :
    ∃ entry, a.budget.tenants.get? t = some entry ∧
      ((a.tenants.get? t).map (·.marked)).getD 0 < entry.surplus := by
  unfold revocationCandidates at h
  obtain ⟨⟨id, entry, takeable⟩, hsorted, rfl⟩ := List.mem_map.mp h
  rw [mem_insertionSort, mem_filterMap] at hsorted
  obtain ⟨⟨id', entry'⟩, hmem, hsome⟩ := hsorted
  have hentry := (a.budget.tenants.mem_entries_iff id' entry').mp hmem
  simp only at hsome
  split at hsome
  · rename_i hmarked
    rw [some.injEq, Prod.mk.injEq, Prod.mk.injEq] at hsome
    obtain ⟨rfl, rfl, -⟩ := hsome
    exact ⟨entry', hentry, hmarked⟩
  · cases hsome

lemma revoke_spec (hc : a.Consistent) :
    ∃ revoked a', a.revoke = some (revoked, a') ∧ Revoked a revoked a' :=
  revokeFrom_spec hc fun _ ht => by
    obtain ⟨entry, hentry, hmarked⟩ := revocationCandidates_spec ht
    exact ⟨entry, hentry, Nat.zero_lt_of_lt hmarked⟩

/-- Queueing a request appends one ticket with a fresh identifier. -/
lemma enqueue_spec (hrt : a.tenants.get? t = some rt) (client : ClientId) (now : Timestamp) :
    ∃ admission a', a.enqueue t client now = some (admission, a') ∧
      (∀ lease, admission ≠ .granted lease) ∧ Moves a a' ∧ a'.budget = a.budget ∧
      (a' = a ∨ ∃ ticket, ticket.id = a.nextTicket ∧
        a'.tenants = a.tenants.insert t { rt with queue := rt.queue ++ [ticket] }) := by
  unfold enqueue
  rw [hrt]
  simp only [bind_eq_bind, bind_some]
  split
  · refine ⟨_, a, rfl, ?_, .refl, rfl, .inl rfl⟩
    intro lease h
    cases h
  refine ⟨_, _, rfl, ?_, ?_, rfl, .inr ⟨_, ?_, rfl⟩⟩
  · intro lease h
    cases h
  · exact .tail (.single (.tick a)) (.enqueue hrt rfl)
  · rfl

/-- Queueing keeps the order of tickets and makes nobody servable. -/
lemma enqueue_progress (hrt : a.tenants.get? t = some rt) (hidle : rt.idle.last? = none)
    (hnot : ¬ a.Servable t) (client : ClientId) (now : Timestamp) :
    ∃ admission a', a.enqueue t client now = some (admission, a') ∧ Progress a [] a' := by
  obtain ⟨admission, a', heq, -, hmoves, hbudget, hshape⟩ := enqueue_spec hrt client now
  refine ⟨admission, a', heq, hmoves, ?_, ?_⟩
  · intro hd
    rcases hshape with rfl | ⟨ticket, -, htenants⟩
    · exact hd
    have hservable : ∀ t', a'.Servable t' → a.Servable t' := by
      intro t' h
      unfold Servable classify at h ⊢
      rw [hbudget] at h
      exact h
    exact hd.row htenants (.inr (.inr ⟨hidle, mt (hservable t) hnot⟩)) fun t' _ => hservable t'
  intro t'
  change ((a'.queueOf t').map (·.id)).Sublist _
  rcases hshape with rfl | ⟨ticket, hid, htenants⟩
  · exact sublist_append_left _ _
  rw [queueOf_insert a _ htenants]
  split
  · rename_i heq'
    rw [heq', queueOf_eq hrt, map_append, map_singleton, hid]
  · exact sublist_append_left _ _

/-- Quiet moves first, then an operation. -/
lemma Quiet.progress {m a' : Allocator T} {grants : List (Grant T)} (h : Quiet a m)
    (hdrained : a.Drained → m.Drained) (hrest : Progress m grants a') : Progress a grants a' := by
  refine ⟨h.moves.trans hrest.moves, fun hd => hrest.drained (hdrained hd), ?_⟩
  intro t
  have hsub := hrest.order t
  rw [h.nextTicket] at hsub
  exact hsub.trans (((h.queues t).map _).append (.refl _))

lemma tick_quiet (a : Allocator T) : Quiet a { a with seq := a.seq + 1 } :=
  ⟨.single (.tick a), fun _ => .refl _, rfl⟩

/-- Opening a server with credit the ladder gives. -/
lemma openServer_quiet (hc : a.Consistent) {credit : CreditKind}
    (hrt : a.tenants.get? t = some rt) (hentry : a.budget.tenants.get? t = some entry)
    (hcredit : a.Affords t credit) (client : ClientId) :
    ∃ lease budget, a.openServer t credit client =
        some (lease, a.opened t rt credit client budget) ∧
      a.budget.Recounts t entry (entry.live + liveDelta credit) budget ∧
      Quiet a (a.opened t rt credit client budget) := by
  obtain ⟨budget, hbudget, heq⟩ := openServer_spec hc hrt hentry credit client
  refine ⟨_, budget, heq, hbudget, ?_⟩
  exact .of_move (.openServer client hrt hentry hcredit hbudget) hrt rfl (.refl _) rfl

/-- A tenant that can be served, and is not, has an empty queue. -/
lemma Drained.queue_eq_nil (hd : a.Drained) (hrt : a.tenants.get? t = some rt)
    (hmigrating : rt.migrating = false) (hservable : a.Servable t) : rt.queue = [] := by
  rcases hd t rt hrt with h | hempty | ⟨-, hnot⟩
  · rw [hmigrating] at h
    cases h
  · exact hempty
  · exact absurd hservable hnot

/-- The step of the ladder that may grant from the tenant's own claim. -/
lemma openServer_progress (hs : a.Sound) (credit : CreditKind) (hrt : a.tenants.get? t = some rt)
    (hcredit : a.Affords t credit) (hidle : a.Drained → credit = .cancel ∨ rt.queue = [])
    (client : ClientId) :
    ∃ lease a', a.openServer t credit client = some (lease, a') ∧ Progress a [] a' := by
  obtain ⟨entry, hentry, -⟩ := hs.consistent.rows hrt
  obtain ⟨lease, budget, heq, hbudget, hquiet⟩ :=
    openServer_quiet hs.consistent hrt hentry hcredit client
  refine ⟨lease, _, heq, .of_quiet hquiet ?_⟩
  intro hd
  exact hd.opened hs.consistent client hrt hentry hbudget (hidle hd)

/-- Closing a victim's idle server and opening one for a tenant below its
guarantee, in a pool that was full. -/
lemma revokeAndOpen_progress (hs : a.Sound)
    (hrt : a.tenants.get? t = some rt) (hentry : a.budget.tenants.get? t = some entry)
    (hlow : entry.live < entry.guaranteed) (hfull : a.budget.total ≤ a.budget.liveTotal)
    {id : ServerId} {conn : ServerConn T} {victim victim' : TenantRuntime T} {loser : TenantEntry}
    {budget : CapacityBudget T} (hconn : a.servers.get? id = some conn)
    (hcancel : conn.credit ≠ .cancel) (hvictim : a.tenants.get? conn.tenant = some victim)
    (hloser : a.budget.tenants.get? conn.tenant = some loser)
    (hleave : victim.leave id conn = some victim') (hdelta : liveDelta conn.credit ≤ loser.live)
    (hbudget : a.budget.Recounts conn.tenant loser (loser.live - liveDelta conn.credit) budget)
    (hsurplus : 0 < loser.surplus) (client : ClientId) :
    ∃ lease a', (a.shut id conn.tenant victim' budget).openServer t .reserved client =
        some (lease, a') ∧ Progress a [] a' := by
  -- the victim is above its guarantee, so it is another tenant
  have hne : t ≠ conn.tenant := by
    rintro rfl
    rw [hentry] at hloser
    cases hloser
    simp only [surplus, guaranteed] at hsurplus hlow
    omega
  have hone : liveDelta conn.credit = 1 := by simp [liveDelta, hcancel]
  rw [hone] at hdelta hbudget
  have hbudget' : a.budget.Recounts conn.tenant loser
      (loser.live - liveDelta conn.credit) budget := hone.symm ▸ hbudget
  have hclose : Move a (a.shut id conn.tenant victim' budget) :=
    .closeServer hconn hvictim hloser hleave (hone.symm ▸ hdelta) hbudget'
  have hs1 := hclose.sound hs
  obtain ⟨-, -, hidleLeft, -, hqueueLeft, -, hmigratingLeft⟩ := TenantRuntime.leave_eq_some hleave
  have hrt1 : (a.shut id conn.tenant victim' budget).tenants.get? t = some rt := by
    change (a.tenants.insert conn.tenant victim').get? t = some rt
    rw [OrderedMap.get?_insert_of_ne _ _ hne]
    exact hrt
  have hentry1 : (a.shut id conn.tenant victim' budget).budget.tenants.get? t = some entry := by
    change budget.tenants.get? t = some entry
    rw [hbudget.tenants t, if_neg hne]
    exact hentry
  have htotal : budget.total = a.budget.total := by
    rw [CapacityBudget.total, hbudget.spec]
    rfl
  have hliveTotal := hbudget.liveTotal
  have hcap := hs.bounded.budget.live_le_total
  have hclaimed := hbudget.claimed hs.consistent.budget
  have hover := hs.consistent.budget.liveTotal_lt_claimed hentry hlow
  have hcredit : (a.shut id conn.tenant victim' budget).Affords t .reserved := by
    refine (classify_reserved_iff hentry1).mpr ⟨hlow, ?_⟩
    change budget.liveTotal < budget.total
    omega
  obtain ⟨lease, budget2, heq, hbudget2, hquiet2⟩ :=
    openServer_quiet hs1.consistent hrt1 hentry1 hcredit client
  have hquiet1 : Quiet a (a.shut id conn.tenant victim' budget) :=
    .of_move hclose hvictim rfl (by rw [hqueueLeft]) rfl
  refine ⟨lease, _, heq, .of_quiet (hquiet1.trans hquiet2) ?_⟩
  -- afterwards the pool is full again and the claims still cover it
  have hnobody : ∀ t', ¬ ((a.shut id conn.tenant victim' budget).opened t rt .reserved client
      budget2).Servable t' := by
    have htotal2 : budget2.total = budget.total := by
      rw [CapacityBudget.total, hbudget2.spec]
      rfl
    have hliveTotal2 := hbudget2.liveTotal
    have hclaimed2 := hbudget2.claimed hbudget.consistent
    have hdelta2 : liveDelta .reserved = 1 := rfl
    rw [hdelta2] at hliveTotal2 hclaimed2
    change budget2.liveTotal + entry.live = budget.liveTotal + (entry.live + 1) at hliveTotal2
    simp only [surplus, guaranteed] at hclaimed hclaimed2 hsurplus hlow
    apply not_servable_of_full
    · change budget2.total ≤ budget2.liveTotal
      omega
    change budget2.free = 0
    rw [hbudget2.consistent.free_eq]
    change budget2.claimed + (entry.live - entry.spec.guaranteed) =
      budget.claimed + (entry.live + 1 - entry.spec.guaranteed) at hclaimed2
    omega
  intro hd
  have hidle : victim.idle.last? = none → victim'.idle.last? = none := by
    intro hnone
    rw [OrderedSet.last?_eq_none_iff] at hnone ⊢
    intro key hkey
    rw [hidleLeft] at hkey
    split at hkey
    · exact hnone key (OrderedSet.mem_erase.mp hkey).2
    · exact hnone key hkey
  -- the victim's row changes first, under the budget that is left in the end
  have hshut : Drained { (a.shut id conn.tenant victim' budget).opened t rt .reserved client budget2
      with tenants := a.tenants.insert conn.tenant victim' } := by
    refine hd.row rfl ?_ fun t' _ h => absurd h (hnobody t')
    exact (hd _ victim hvictim).imp hmigratingLeft.trans
      (Or.imp hqueueLeft.trans (And.imp hidle fun _ => hnobody _))
  refine hshut.row rfl ?_ fun _ _ h => h
  exact (hd t rt hrt).imp_right (Or.imp_right (And.imp_right fun _ => hnobody t))

/-- The ladder for a tenant without idle server. -/
lemma climb_spec (hs : a.Sound) (hrt : a.tenants.get? t = some rt) (hidle : rt.idle.last? = none)
    (hmigrating : rt.migrating = false) (client : ClientId) (now : Timestamp) :
    ∃ admission a', a.climb t client now = some (admission, a') ∧ Progress a [] a' := by
  obtain ⟨entry, hentry, -⟩ := hs.consistent.rows hrt
  have hclassify := classify_eq hentry
  by_cases hlow : entry.live < entry.guaranteed
  · rw [if_pos hlow] at hclassify
    by_cases hroom : a.budget.liveTotal < a.budget.total
    · rw [if_pos hroom] at hclassify
      obtain ⟨lease, a', heq, hprogress⟩ := openServer_progress hs .reserved hrt
        hclassify (fun hd => .inr (hd.queue_eq_nil hrt hmigrating (.inl hclassify))) client
      refine ⟨.granted lease, a', ?_, hprogress⟩
      simp only [climb, hclassify, heq, bind_eq_bind, bind_some]
    rw [if_neg hroom] at hclassify
    have hnot : ¬ a.Servable t := by
      rw [servable_iff hentry]
      omega
    obtain ⟨revoked, m, hrevoke, hrevoked⟩ := revoke_spec hs.consistent
    cases hrevoked with
    | nothing =>
      obtain ⟨admission, a', heq, hprogress⟩ := enqueue_progress hrt hidle hnot client now
      refine ⟨admission.withRevocation none, a', ?_, hprogress⟩
      simp only [climb, hclassify, hrevoke, heq, bind_eq_bind, bind_some]
    | @marked id conn victim hconn hstate hneeded hvictim =>
      have hmove := Move.flag hconn hneeded hvictim
      have hquiet : Quiet a (a.flagged id conn victim) :=
        .of_move hmove hvictim rfl (.refl _) rfl
      obtain ⟨rt1, hrt1, hidle1⟩ : ∃ rt1,
          (a.flagged id conn victim).tenants.get? t = some rt1 ∧ rt1.idle.last? = none := by
        change ∃ rt1, (a.tenants.insert conn.tenant _).get? t = some rt1 ∧ _
        rw [OrderedMap.get?_insert]
        split
        · rename_i htenant
          rw [← htenant, hrt] at hvictim
          cases hvictim
          exact ⟨_, rfl, hidle⟩
        · exact ⟨rt, hrt, hidle⟩
      obtain ⟨admission, a', heq, hprogress⟩ := enqueue_progress hrt1 hidle1 hnot client now
      refine ⟨admission.withRevocation (some (.markedActive conn.tenant id)), a', ?_, ?_⟩
      · simp only [climb, hclassify, hrevoke, heq, bind_eq_bind, bind_some]
      · exact hquiet.progress (fun hd => hd.insert hvictim rfl rfl (fun h => h) (fun h => h) fun h => h)
          hprogress
    | closed hconn hstate hcredit hvictim hloser hleave hdelta hbudget hsurplus =>
      obtain ⟨lease, a', heq, hprogress⟩ := revokeAndOpen_progress hs hrt hentry hlow
        (Nat.le_of_not_lt hroom) hconn hcredit hvictim hloser hleave hdelta hbudget hsurplus
        client
      refine ⟨.granted lease, a', ?_, hprogress⟩
      simp only [climb, hclassify, hrevoke, heq, bind_eq_bind, bind_some]
  · rw [if_neg hlow] at hclassify
    by_cases hcap : entry.burstable ≤ entry.live
    · rw [if_pos hcap] at hclassify
      refine ⟨.denied (.tenantCap t entry.live entry.burstable), a, ?_, .refl a⟩
      simp only [climb, hclassify, bind_eq_bind, bind_some]
    rw [if_neg hcap] at hclassify
    by_cases hfree : 0 < a.budget.free
    · rw [if_pos hfree] at hclassify
      obtain ⟨lease, a', heq, hprogress⟩ := openServer_progress hs .burst hrt
        hclassify (fun hd => .inr (hd.queue_eq_nil hrt hmigrating (.inr hclassify))) client
      refine ⟨.granted lease, a', ?_, hprogress⟩
      simp only [climb, hclassify, heq, bind_eq_bind, bind_some]
    rw [if_neg hfree] at hclassify
    have hnot : ¬ a.Servable t := by
      rw [servable_iff hentry]
      omega
    obtain ⟨admission, a', heq, hprogress⟩ := enqueue_progress hrt hidle hnot client now
    refine ⟨admission, a', ?_, hprogress⟩
    simp only [climb, hclassify, heq, bind_eq_bind, bind_some]

/-- `try_lease` with arbitrary arguments. -/
lemma tryLease_spec (hs : a.Sound) (client : ClientId) (kind : RequestKind) (now : Timestamp) :
    ∃ admission a', a.tryLease client kind now = some (admission, a') ∧ Progress a [] a' := by
  cases hclient : a.clients.get? client with
  | none =>
    refine ⟨.stale, a, ?_, .refl a⟩
    simp only [tryLease, hclient]
  | some t =>
    obtain ⟨rt, hrt⟩ := isSome_iff_exists.mp (hs.consistent.client client t hclient).2
    cases kind with
    | cancel =>
      by_cases hlimit : a.cancelCredit t ≤ rt.cancelLive
      · refine ⟨.denied (.cancelCredit t rt.cancelLive (a.cancelCredit t)), a, ?_, .refl a⟩
        simp only [tryLease, hclient, cancelBurst, hrt, bind_eq_bind, bind_some, if_pos hlimit]
      have hcredit : a.Affords t .cancel := by
        intro rt' hrt'
        rw [hrt, some.injEq] at hrt'
        subst hrt'
        omega
      obtain ⟨lease, a', heq, hprogress⟩ :=
        openServer_progress hs .cancel hrt hcredit (fun _ => .inl rfl) client
      refine ⟨.granted lease, a', ?_, hprogress⟩
      simp only [tryLease, hclient, cancelBurst, hrt, heq, bind_eq_bind, bind_some, if_neg hlimit]
    | normal =>
      cases hmigrating : rt.migrating with
      | true =>
        refine ⟨.denied (.migrationCutover t), a, ?_, .refl a⟩
        simp only [tryLease, hclient, hrt, hmigrating, bind_eq_bind, bind_some, if_true]
      | false =>
        rcases reuseIdle_spec hs.consistent t client with
          ⟨hreuse, hnone⟩ | ⟨rt1, key, conn, hrt1, hlast, hconn, hreuse⟩
        · have hticked := (tick_quiet a).sound hs
          obtain ⟨admission, a', heq, hprogress⟩ :=
            climb_spec hticked hrt (hnone rt hrt) hmigrating client now
          refine ⟨admission, a', ?_, (tick_quiet a).progress (fun h => h) hprogress⟩
          simp only [tryLease, hclient, hrt, hmigrating, hreuse, heq, bind_eq_bind,
            bind_some, Bool.false_eq_true, if_false]
        rw [hrt] at hrt1
        cases hrt1
        have hquiet := Quiet.of_move (Move.checkOut client hrt hlast hconn) hrt rfl (.refl _) rfl
        refine ⟨.granted (conn.leaseTo t client (a.seq + 1)), _, ?_, .of_quiet hquiet ?_⟩
        · simp only [tryLease, hclient, hrt, hmigrating, hreuse, bind_eq_bind,
            bind_some, Bool.false_eq_true, if_false]
        intro hd
        refine hd.insert hrt rfl rfl id id (fun hnone => ?_)
        rw [hlast] at hnone
        cases hnone

end Allocator
end PgElastic.Capacity
