import PgElastic.Capacity.Ladder

/-!
# What holds in every run of the allocator

`apply_spec` collects the operations: from a sound state each of them answers,
and the next state is sound.  By induction over runs this gives the main results:

* the ledger is exact and no operation panics;
* what is reserved is what `check_reservations` gives for the whole table;
* the hard limits hold and `free()` is what it is documented to be;
* no operation but a configuration change raises the excess of the claims over
  the pool, and without excess a guarantee is honoured at once.
-/

namespace PgElastic.Capacity

open Library Option OrderedMap List ServerConn CapacityBudget

variable {T : Type} [LinearOrder T]

namespace Allocator

/-- The operations that change a configured guarantee, ceiling or total. -/
def Op.reconfigures : Op T → Bool
  | .addTenant _ _ => true
  | .setTenantSpec _ _ => true
  | .setPoolSpec _ => true
  | _ => false

/-- The grants an operation hands to queued clients. -/
def Outcome.grants : Outcome T → List (Grant T)
  | .reconfigured (.ok grants) => grants
  | .released outcome => outcome.grants
  | .granted grants => grants
  | _ => []

/-- Everything the later results use about one operation. -/
structure Effect (a : Allocator T) (op : Op T) (outcome : Outcome T) (a' : Allocator T) :
    Prop where
  sound : a'.Sound
  excess : op.reconfigures = false → a'.excess ≤ a.excess
  drained : (∀ target, op = .drainTo target → a.queuedTotal = 0) → a.Drained → a'.Drained
  order : ∀ t, (ticketsFor outcome.grants t ++ (a'.queueOf t).map (·.id)).Sublist
    ((a.queueOf t).map (·.id) ++ [a.nextTicket])
  quorum : (∀ lost, op ≠ .setQuorumLost lost) → a'.quorumLost = a.quorumLost
  steps : ∃ m, (m = a ∨ Reconfigure a m ∨ ∃ lost, m = a.setQuorumLost lost) ∧ Moves m a'

variable {a a' : Allocator T} {pool : PoolSpec} {admission : AdmissionSpec}
  {grants : List (Grant T)} {outcome : Outcome T} {ops : List (Op T)} {op : Op T}

lemma Progress.effect (h : Progress a grants a') (hs : a.Sound) (op : Op T)
    (hgrants : outcome.grants = grants) : Effect a op outcome a' := by
  obtain ⟨hsound, hexcess⟩ := Moves.sound h.moves hs
  exact ⟨hsound, fun _ => hexcess, fun _ => h.drained, hgrants ▸ h.order,
    fun _ => Moves.quorumLost_eq h.moves, a, .inl rfl, h.moves⟩

lemma Reconfigured.effect (h : Reconfigured a grants a') (hop : op.reconfigures)
    (hgrants : outcome.grants = grants) : Effect a op outcome a' := by
  refine ⟨h.sound, ?_, fun _ => h.drained, ?_, ?_, ?_⟩
  · intro hfalse
    rw [hop] at hfalse
    cases hfalse
  · intro t
    rw [hgrants]
    rcases h.steps with ⟨rfl, rfl⟩ | ⟨m, -, hqueues, -, -, hserves⟩
    · exact sublist_append_left _ _
    · rw [← hserves t, hqueues t]
      exact sublist_append_left _ _
  · intro _
    rcases h.steps with ⟨-, rfl⟩ | ⟨m, hreconfigure, -, -, hmoves, -⟩
    · rfl
    · exact (Moves.quorumLost_eq hmoves).trans hreconfigure.quorumLost_eq
  · rcases h.steps with ⟨-, rfl⟩ | ⟨m, hreconfigure, -, -, hmoves, -⟩
    · exact ⟨a', .inl rfl, Relation.ReflTransGen.refl⟩
    · exact ⟨m, .inr (.inl hreconfigure), hmoves⟩

omit [LinearOrder T] in
/-- The grants of an answer that may be a rejection. -/
lemma grants_reconfigured (result : Except (ConfigError T) (List (Grant T))) :
    (Outcome.reconfigured result).grants = result.toOption.getD [] := by
  cases result with
  | error e => rfl
  | ok grants => rfl

lemma drainTo_effect {target excess : Nat} (hs : a.Sound) (h : Quiet a a') :
    Effect a (.drainTo target) (.drained excess) a' := by
  obtain ⟨hsound, hexcess⟩ := Moves.sound h.moves hs
  refine ⟨hsound, fun _ => hexcess, ?_, h.order, fun _ => Moves.quorumLost_eq h.moves, a,
    .inl rfl, h.moves⟩
  intro hempty _ t rt hrt
  -- with nothing queued before, nothing is queued after
  have hqueue := h.queues t
  have hnil : a.queueOf t = [] := by
    unfold queueOf
    cases hold : a.tenants.get? t with
    | none => rfl
    | some old =>
      have hzero := hempty target rfl
      rw [hs.consistent.queuedTotal] at hzero
      exact length_eq_zero_iff.mp (sumOf_eq_zero_iff.mp hzero t old hold)
  rw [hnil, queueOf_eq hrt] at hqueue
  exact .inr (.inl (sublist_nil.mp hqueue))

lemma setQuorumLost_effect (hs : a.Sound) (lost : Bool) :
    Effect a (.setQuorumLost lost) .done (a.setQuorumLost lost) where
  sound := hs.setQuorumLost lost
  excess := fun _ => le_rfl
  drained := fun _ => id
  order := fun _ => sublist_append_left _ _
  quorum := fun hop => absurd rfl (hop lost)
  steps := ⟨_, .inr (.inr ⟨lost, rfl⟩), Relation.ReflTransGen.refl⟩

/-- Every public operation answers from every sound state. -/
lemma apply_spec (hs : a.Sound) (op : Op T) :
    ∃ outcome a', a.apply op = some (outcome, a') ∧ Effect a op outcome a' := by
  cases op with
  | addTenant id spec =>
    exact ⟨_, _, rfl, (addTenant_spec hs id spec).effect rfl rfl⟩
  | setTenantSpec id spec =>
    obtain ⟨result, a', heq, hsteps⟩ := setTenantSpec_spec hs id spec
    exact ⟨.reconfigured result, a', report_eq heq, hsteps.effect rfl (grants_reconfigured result)⟩
  | removeTenant id =>
    obtain ⟨result, a', heq, hprogress, -⟩ := removeTenant_spec hs id
    exact ⟨.reconfigured result, a', report_eq heq,
      hprogress.effect hs _ (grants_reconfigured result)⟩
  | setPoolSpec spec =>
    obtain ⟨result, a', heq, hsteps⟩ := setPoolSpec_spec hs spec
    exact ⟨.reconfigured result, a', report_eq heq, hsteps.effect rfl (grants_reconfigured result)⟩
  | drainTo target =>
    obtain ⟨excess, a', heq, hquiet⟩ := drainTo_spec hs target
    exact ⟨.drained excess, a', report_eq heq, drainTo_effect hs hquiet⟩
  | connectClient tenant =>
    obtain ⟨result, a', heq, hprogress⟩ := connectClient_spec hs tenant
    exact ⟨.connected result, a', report_eq heq, hprogress.effect hs _ rfl⟩
  | disconnectClient client =>
    obtain ⟨grants, a', heq, hprogress⟩ := disconnectClient_spec hs client
    exact ⟨.granted grants, a', report_eq heq, hprogress.effect hs _ rfl⟩
  | tryLease client kind now =>
    obtain ⟨admission, a', heq, hprogress⟩ := tryLease_spec hs client kind now
    exact ⟨.admitted admission, a', report_eq heq, hprogress.effect hs _ rfl⟩
  | release lease =>
    obtain ⟨outcome, a', heq, hprogress⟩ := release_spec hs lease
    exact ⟨.released outcome, a', report_eq heq, hprogress.effect hs _ rfl⟩
  | backendDied server =>
    obtain ⟨grants, a', heq, hprogress⟩ := backendDied_spec hs server
    exact ⟨.granted grants, a', report_eq heq, hprogress.effect hs _ rfl⟩
  | setMaxWait maxWait =>
    exact ⟨.done, _, rfl,
      (setAdmission_progress a { a.admission with maxWait := maxWait }).effect hs _ rfl⟩
  | expireQueued now =>
    obtain ⟨expired, a', heq, hprogress⟩ := expireQueued_spec hs now
    exact ⟨.expired expired, a', report_eq heq, hprogress.effect hs _ rfl⟩
  | cancelTicket tenant ticket =>
    obtain ⟨removed, a', heq, hprogress⟩ := cancelTicket_spec hs tenant ticket
    exact ⟨.cancelled removed, a', report_eq heq, hprogress.effect hs _ rfl⟩
  | setQuorumLost lost =>
    exact ⟨.done, _, rfl, setQuorumLost_effect hs lost⟩
  | beginMigration tenant =>
    obtain ⟨result, a', heq, hprogress⟩ := beginMigration_spec hs tenant
    exact ⟨.configured result, a', report_eq heq, hprogress.effect hs _ rfl⟩
  | finishMigration tenant =>
    obtain ⟨result, a', heq, hprogress⟩ := finishMigration_spec hs tenant
    exact ⟨.reconfigured result, a', report_eq heq,
      hprogress.effect hs _ (grants_reconfigured result)⟩
  | setStorageUsed tenant bytes =>
    exact ⟨_, _, rfl, (setStorageUsed_spec a tenant bytes).effect hs _ rfl⟩
  | checkStorage tenant additional =>
    obtain ⟨result, heq⟩ := checkStorage_spec hs.consistent tenant additional
    exact ⟨.storage result, a, by simp only [apply, heq, map_some],
      (Progress.refl a).effect hs _ rfl⟩

/-- The effect of an operation that was taken. -/
lemma effect_of_next (hs : a.Sound) (h : a.next op = some a') :
    ∃ outcome, Effect a op outcome a' := by
  obtain ⟨outcome, a1, heq, heffect⟩ := apply_spec hs op
  rw [next, heq, map_some, some.injEq] at h
  exact ⟨outcome, h ▸ heffect⟩

lemma withClock_sound (h : withClock pool admission = .ok a) :
    a.Sound ∧ a.tenants = OrderedMap.empty ∧ a.queuedTotal = 0 := by
  unfold withClock at h
  obtain ⟨budget, hbudget, ⟨⟩⟩ := ok_of_bind h
  obtain ⟨hconsistent, hbounded, hempty⟩ := new_ok hbudget
  refine ⟨⟨⟨hconsistent, ?_, ?_, ?_, ?_, rfl, rfl, rfl⟩, ⟨hbounded, ?_⟩⟩, rfl, rfl⟩
  · intro t
    change (none : Option (TenantRuntime T)).isSome = (budget.tenants.get? t).isSome
    rw [hempty]
    rfl
  · intro t rt entry hrt
    cases hrt
  · intro id conn hconn
    cases hconn
  · intro c t hclient
    cases hclient
  · intro t rt hrt
    cases hrt

/-- Both invariants hold in every state of every run. -/
lemma reachable_sound (h : (system pool admission).Reachable a) : a.Sound := by
  apply h.invariant
  · intro s hs
    exact (withClock_sound hs).1
  · intro s op t _ hs hstep
    obtain ⟨outcome, heffect⟩ := effect_of_next hs hstep
    exact heffect.sound

/-- The lifecycle counters balance. -/
lemma Consistent.conserved (hc : a.Consistent) : a.accounting.conserved := by
  have hsplit : sumOf (fun _ _ => 1) a.servers =
      a.servers.values.countP (fun conn => conn.state = .active) +
        a.servers.values.countP (fun conn => conn.state = .idle) := by
    rw [countP_values, countP_values, ← sumOf_add]
    apply sumOf_congr
    intro id conn _
    cases hstate : conn.state with
    | idle => rfl
    | active => rfl
  have hcreated := hc.created
  refine decide_eq_true ?_
  change a.created = a.servers.values.countP (fun conn => conn.state = .active) +
    a.servers.values.countP (fun conn => conn.state = .idle) + a.closed
  omega

/-- In every run each incrementally maintained count and index of the allocator is
exactly what it summarises, the lifecycle counters balance, and no public
operation panics, whatever its arguments. -/
theorem ledger_exact_and_no_panic (pool : PoolSpec) (admission : AdmissionSpec)
    {a : Allocator T} (h : (system pool admission).Reachable a) :
    a.Consistent ∧ a.accounting.conserved = true ∧ ∀ op, (a.apply op).isSome = true := by
  have hs := reachable_sound h
  refine ⟨hs.consistent, hs.consistent.conserved, ?_⟩
  intro op
  obtain ⟨outcome, a', heq, -⟩ := apply_spec hs op
  rw [heq]
  rfl

/-- Replays public operations on a fresh allocator. -/
def replay (pool : PoolSpec) (admission : AdmissionSpec) (ops : List (Op T)) :
    Option (Allocator T) :=
  (withClock pool admission).toOption.bind fun a => System.run next a ops

/-- A replay whose operations all meet a condition is a run of the restricted
system. -/
lemma restricted_of_replay {allowed : Allocator T → Op T → Prop}
    (hops : ∀ op ∈ ops, ∀ s, allowed s op) (h : replay pool admission ops = some a) :
    ((system pool admission).restrict allowed).Reachable a := by
  obtain ⟨start, hstart, hrun⟩ := bind_eq_some_iff.mp h
  exact System.reachable_of_run (fun op hop s _ hstep => ⟨hops op hop s, hstep⟩)
    (.init (ok_of_toOption hstart)) hrun

lemma reachable_of_replay (h : replay pool admission ops = some a) :
    (system pool admission).Reachable a :=
  (restricted_of_replay (fun _ _ _ => trivial) h :
    ((system pool admission).restrict fun _ _ => True).Reachable a).of_restrict

/-- A pool of `total` connections without headroom or oversubscription limit. -/
def plainPool (total : Nat) : PoolSpec where
  backendConnections := total
  headroomPercent := 0
  maxClientConnections := 10
  maxOversubscription := none
  mode := .transaction
  fdBudget := none

/-- A tenant with the given guarantee and ceiling. -/
def plainTenant (guaranteed burstable : Nat) : TenantSpec where
  guaranteed := guaranteed
  burstable := burstable
  weight := 1
  priority := 0
  maxClientConnections := 10
  storageBytes := 0

def plainAdmission : AdmissionSpec where
  strategy := .weightedDeficit
  queueDepthPerTenant := 4
  maxWait := 100

/-- A run that opens, cancels, queues, releases and migrates. -/
def busyRun : List (Op Nat) :=
  [.addTenant 0 (plainTenant 1 2), .addTenant 1 (plainTenant 0 2), .connectClient 0,
    .connectClient 1, .tryLease 1 .normal 0, .tryLease 0 .normal 0, .tryLease 0 .cancel 0,
    .tryLease 1 .normal 1, .backendDied 1, .beginMigration 1, .finishMigration 1]

theorem ledger_exact_and_no_panic_busyRun :
    ∃ a : Allocator Nat, replay (plainPool 2) plainAdmission busyRun = some a ∧
      a.Consistent ∧ a.accounting.conserved = true ∧ ∀ op, (a.apply op).isSome = true := by
  obtain ⟨a, ha⟩ := isSome_iff_exists.mp
    (show (replay (plainPool 2) plainAdmission busyRun).isSome = true by decide)
  exact ⟨a, ha, ledger_exact_and_no_panic _ _ (reachable_of_replay ha)⟩

/-- The hard limits of the pool hold in every run, and `free()` is the total less
what the tenants hold or may claim. -/
theorem capacity_limits_hold (pool : PoolSpec) (admission : AdmissionSpec) {a : Allocator T}
    (h : (system pool admission).Reachable a) :
    a.budget.liveTotal ≤ a.budget.total ∧
      (∀ t entry, a.budget.tenants.get? t = some entry → entry.live ≤ entry.burstable) ∧
      sumOf (fun _ entry => TenantEntry.guaranteed entry) a.budget.tenants ≤ a.budget.allocatable ∧
      (∀ t, countServers a.servers (cancelOf t) ≤ 8) ∧
      a.budget.free = a.budget.total -
        sumOf (fun _ entry => max (TenantEntry.guaranteed entry) entry.live) a.budget.tenants := by
  have hs := reachable_sound h
  refine ⟨hs.bounded.budget.live_le_total, hs.bounded.budget.live_le_burstable, ?_, ?_,
    hs.consistent.budget.free_eq⟩
  · rw [← sum_specRows]
    exact hs.bounded.budget.accepted.fits
  intro t
  cases hrt : a.tenants.get? t with
  | some rt =>
    obtain ⟨entry, -, hrow⟩ := hs.consistent.rows hrt
    rw [← hrow.cancelLive]
    exact hs.bounded.cancelLive t rt hrt
  | none =>
    -- no server belongs to an unbound tenant
    have hzero : countServers a.servers (cancelOf t) = 0 := by
      apply sumOf_eq_zero_iff.mpr
      intro id conn hconn
      rw [if_neg]
      intro htest
      have hbound := (hs.consistent.server id conn hconn).2.2.1
      rw [(cancelOf_iff.mp htest).1, hrt] at hbound
      cases hbound
    omega

theorem capacity_limits_hold_busyRun :
    ∃ a : Allocator Nat, replay (plainPool 2) plainAdmission busyRun = some a ∧
      a.budget.liveTotal ≤ a.budget.total ∧
      (∀ t entry, a.budget.tenants.get? t = some entry → entry.live ≤ entry.burstable) ∧
      sumOf (fun _ entry => TenantEntry.guaranteed entry) a.budget.tenants ≤ a.budget.allocatable ∧
      (∀ t, countServers a.servers (cancelOf t) ≤ 8) ∧
      a.budget.free = a.budget.total -
        sumOf (fun _ entry => max (TenantEntry.guaranteed entry) entry.live) a.budget.tenants := by
  obtain ⟨a, ha⟩ := isSome_iff_exists.mp
    (show (replay (plainPool 2) plainAdmission busyRun).isSome = true by decide)
  exact ⟨a, ha, capacity_limits_hold _ _ (reachable_of_replay ha)⟩

/-- Without excess, a tenant below its guarantee is granted a lease at once. -/
lemma tryLease_granted_of_guarantee (hs : a.Sound) {client : ClientId} {t : T}
    {rt : TenantRuntime T} {entry : TenantEntry} (hexcess : a.excess = 0)
    (hclient : a.clients.get? client = some t) (hrt : a.tenants.get? t = some rt)
    (hmigrating : rt.migrating = false) (hentry : a.budget.tenants.get? t = some entry)
    (hlow : entry.live < entry.guaranteed) (now : Timestamp) :
    ∃ lease a', a.tryLease client .normal now = some (.granted lease, a') := by
  rcases reuseIdle_spec hs.consistent t client with
    ⟨hreuse, -⟩ | ⟨rt1, key, conn, -, -, -, hreuse⟩
  · have hroom : a.budget.liveTotal < a.budget.total := by
      have hover := hs.consistent.budget.liveTotal_lt_claimed hentry hlow
      have hfit : a.budget.claimed - a.budget.total = 0 := hexcess
      omega
    have hclassify : a.classify t = some (.ok .reserved) :=
      (classify_reserved_iff hentry).mpr ⟨hlow, hroom⟩
    have hticked : Consistent { a with seq := a.seq + 1 } := hs.consistent.tick _
    obtain ⟨lease, a', hopen⟩ : ∃ lease a',
        openServer { a with seq := a.seq + 1 } t .reserved client = some (lease, a') := by
      obtain ⟨budget, -, hopen⟩ := openServer_spec hticked hrt hentry .reserved client
      exact ⟨_, _, hopen⟩
    have hsame : classify { a with seq := a.seq + 1 } t = some (.ok .reserved) := hclassify
    refine ⟨lease, a', ?_⟩
    simp only [tryLease, hclient, hrt, hmigrating, hreuse, climb, hsame, hopen,
      bind_eq_bind, bind_some, Bool.false_eq_true, if_false]
  · refine ⟨conn.leaseTo t client (a.seq + 1), a.checkedOut t rt1 key conn client, ?_⟩
    simp only [tryLease, hclient, hrt, hmigrating, hreuse, bind_eq_bind,
      bind_some, Bool.false_eq_true, if_false]

/-- Only a configuration change can make the claims exceed the pool further, and
while they do not exceed it every guarantee is honoured at once, whatever the
other tenants hold. -/
theorem guarantees_are_protected (pool : PoolSpec) (admission : AdmissionSpec)
    {a : Allocator T} (h : (system pool admission).Reachable a) :
    (∀ op outcome a', op.reconfigures = false → a.apply op = some (outcome, a') →
      a'.excess ≤ a.excess) ∧
    (a.excess = 0 → ∀ client t rt entry now, a.clients.get? client = some t →
      a.tenants.get? t = some rt → rt.migrating = false →
      a.budget.tenants.get? t = some entry → entry.live < entry.guaranteed →
      ∃ lease a', a.tryLease client .normal now = some (.granted lease, a')) := by
  have hs := reachable_sound h
  constructor
  · intro op outcome a' hop heq
    have hnext : a.next op = some a' := by
      rw [next, heq]
      rfl
    obtain ⟨outcome', heffect⟩ := effect_of_next hs hnext
    exact heffect.excess hop
  · intro hexcess client t rt entry now hclient hrt hmigrating hentry hlow
    exact tryLease_granted_of_guarantee hs hexcess hclient hrt hmigrating hentry hlow now

/-- Tenant `0` holds nothing of its guarantee of one; tenant `1` bursts. -/
def burstBesideGuarantee : List (Op Nat) :=
  [.addTenant 0 (plainTenant 1 2), .addTenant 1 (plainTenant 0 2), .connectClient 0,
    .connectClient 1, .tryLease 1 .normal 0, .tryLease 1 .normal 0]

theorem guarantees_are_protected_burstBesideGuarantee :
    ∃ a : Allocator Nat, replay (plainPool 2) plainAdmission burstBesideGuarantee = some a ∧
      (∀ op outcome a', op.reconfigures = false → a.apply op = some (outcome, a') →
        a'.excess ≤ a.excess) ∧
      a.excess = 0 ∧ ∃ lease a', a.tryLease 0 .normal 0 = some (.granted lease, a') := by
  let a := (replay (plainPool 2) plainAdmission burstBesideGuarantee).get (by decide)
  have ha : _ = some a := (some_get _).symm
  obtain ⟨hmono, hgrant⟩ := guarantees_are_protected _ _ (reachable_of_replay ha)
  have hexcess : a.excess = 0 := by decide
  let rt := (a.tenants.get? 0).get (by decide)
  let entry := (a.budget.tenants.get? 0).get (by decide)
  refine ⟨a, ha, hmono, hexcess, ?_⟩
  exact hgrant hexcess 0 0 rt entry 0 (by decide) (some_get _).symm (by decide)
    (some_get _).symm (by decide)

/-- A configuration call that fails changes nothing, the running totals are at all times
what the check of the whole table gives, and a specification is accepted exactly when that
check of the table it leads to succeeds and its ceiling holds what is live. -/
theorem configuration_is_checked_whole (pool : PoolSpec) (admission : AdmissionSpec)
    {a : Allocator T} (h : (system pool admission).Reachable a) :
    (∀ id spec e a', a.addTenant id spec = (.error e, a') → a' = a) ∧
    (∀ id spec e a', a.setTenantSpec id spec = some (.error e, a') → a' = a) ∧
    (∀ spec e a', a.setPoolSpec spec = some (.error e, a') → a' = a) ∧
    (∀ id e a', a.removeTenant id = some (.error e, a') → a' = a) ∧
    (∀ op a', a.next op = some a' →
      a'.budget.checked a'.budget.tenants = .ok a'.budget.reservations) ∧
    (∀ id spec, (∃ a', a.addTenant id spec = (.ok (), a')) ↔ a.budget.tenants.get? id = none ∧
      ∃ ledger, a.budget.checked (a.budget.tenants.insert id ⟨spec, 0⟩) = .ok ledger) ∧
    ∀ id spec, (∃ grants a', a.setTenantSpec id spec = some (.ok grants, a')) ↔
      ∃ entry, a.budget.tenants.get? id = some entry ∧ entry.live ≤ spec.burstable ∧
        ∃ ledger, a.budget.checked (a.budget.tenants.insert id { entry with spec := spec }) =
          .ok ledger := by
  have hs := reachable_sound h
  refine ⟨?_, ?_, ?_, ?_, ?_, ?_, ?_⟩
  · intro id spec e a' hcall
    unfold addTenant at hcall
    split at hcall <;> cases hcall
    rfl
  · intro id spec e a' hcall
    obtain ⟨_ | budget, -, hcall⟩ := bind_eq_some_iff.mp hcall
    · cases hcall
      rfl
    · obtain ⟨answer, -, hcall⟩ := bind_eq_some_iff.mp hcall
      cases hcall
  · intro spec e a' hcall
    unfold setPoolSpec at hcall
    split at hcall
    · cases hcall
      rfl
    · obtain ⟨answer, -, hcall⟩ := bind_eq_some_iff.mp hcall
      cases hcall
  · intro id e a' hcall
    obtain ⟨result, b, hremove, -, hfailed⟩ := removeTenant_spec hs id
    cases hcall.symm.trans hremove
    exact hfailed e rfl
  · intro op a' hnext
    have hs' := reachable_sound (h.step hnext)
    exact checked_eq hs'.consistent.budget hs'.bounded.budget
  · intro id spec
    rw [← insertTenant_iff]
    cases hinsert : a.budget.insertTenant id spec <;> simp [addTenant, hinsert]
  intro id spec
  rw [← updateTenant_iff hs.consistent.budget]
  obtain ⟨answer, hanswer, -⟩ := updateTenant_spec hs.consistent.budget id spec
  cases answer with
  | error e => simp [setTenantSpec, hanswer]
  | ok budget =>
    obtain ⟨result, a', hcall, -⟩ := setTenantSpec_spec hs id spec
    simp only [setTenantSpec, hanswer, bind_eq_bind, bind_some, bind_eq_some_iff] at hcall
    obtain ⟨⟨grants, m⟩, hdrain, -⟩ := hcall
    simp [setTenantSpec, hanswer, hdrain]

theorem configuration_is_checked_whole_busyRun :
    ∃ a : Allocator Nat, replay (plainPool 2) plainAdmission busyRun = some a ∧
      ∀ op a', a.next op = some a' →
        a'.budget.checked a'.budget.tenants = .ok a'.budget.reservations := by
  obtain ⟨a, ha⟩ := isSome_iff_exists.mp
    (show (replay (plainPool 2) plainAdmission busyRun).isSome = true by decide)
  obtain ⟨-, -, -, -, hchecked, -, -⟩ :=
    configuration_is_checked_whole _ _ (reachable_of_replay ha)
  exact ⟨a, ha, hchecked⟩

end Allocator
end PgElastic.Capacity
