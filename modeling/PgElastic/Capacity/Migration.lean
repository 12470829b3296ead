import PgElastic.Capacity.ServerFates

/-!
# Servers left behind by a migration

`begin_migration` marks the servers of the tenant for closing, and a marked server is
closed when its client gives it back.  That keeps it out of every later client's hands only
if it *is* in a client's hands: a server that is idle when it is marked stays in the index of
idle servers, and `reuse_idle` does not look at the mark.  `marked_idle_server_is_reused`
replays such a run.

Where no tenant migrates while it has an idle server, marked servers are never idle, and
then no marked server and no server from before the migration is handed out again.
-/

namespace PgElastic.Capacity

open Library Option OrderedMap List

variable {T : Type} [LinearOrder T]

namespace Allocator

/-- A tenant begins to migrate only while all its servers are in use. -/
def migratesBusy (a : Allocator T) : Op T → Bool
  | .beginMigration t => a.servers.values.all fun conn => conn.tenant ≠ t || conn.state = .active
  | _ => true

/-- No idle server is marked. -/
def IdleUnmarked (a : Allocator T) : Prop :=
  ∀ id conn, a.servers.get? id = some conn → conn.state = .idle → conn.closeNeeded = false

/-- Servers that are still to be closed: all of them are marked, and none is to come. -/
structure Barred (p : ServerId → T → Prop) (a : Allocator T) : Prop where
  known : ∀ id t, p id t → id < a.nextServer
  marked : ∀ id conn, a.servers.get? id = some conn → p id conn.tenant → conn.closeNeeded = true

variable {a m a' : Allocator T} {op : Op T} {id : ServerId} {conn : ServerConn T}
  {p : ServerId → T → Prop} {admission : AdmissionSpec} {leases : List (Lease T)} {pool : PoolSpec}

/-- In a busy migration only active servers are marked. -/
lemma active_of_marks (hop : a.migratesBusy op) (hconn : a.servers.get? id = some conn)
    (hmarks : op.Marks conn) : conn.state = .active := by
  cases op with
  | tryLease client kind now => exact hmarks
  | drainTo target => exact hmarks
  | beginMigration t =>
    have htest := List.all_eq_true.mp hop conn ((mem_values_iff _ _).mpr ⟨id, hconn⟩)
    have howner : conn.tenant = t := hmarks
    simpa [howner] using htest
  | _ => exact hmarks.elim

/-- What is in the table after the preparation was there before. -/
lemma Prepared.origin (h : Prepared op a m) (hconn : m.servers.get? id = some conn) :
    ∃ old, a.servers.get? id = some old ∧ Kept op id old (some conn) := by
  cases hold : a.servers.get? id with
  | none =>
    rw [h.absent id hold] at hconn
    cases hconn
  | some old => exact ⟨old, rfl, hconn ▸ h.fate id old hold⟩

lemma IdleUnmarked.prepared (h : a.IdleUnmarked) (hop : a.migratesBusy op)
    (hprepared : Prepared op a m) : m.IdleUnmarked := by
  intro id conn hconn hidle
  obtain ⟨old, hold, hkept⟩ := hprepared.origin hconn
  cases hkept with
  | same => exact h id _ hold hidle
  | parked seq hparks hstate hneeded hcredit => exact hneeded
  | marked hmarks =>
    have hactive := active_of_marks hop hold hmarks
    change old.state = .idle at hidle
    rw [hactive] at hidle
    cases hidle

lemma IdleUnmarked.handover (h : m.IdleUnmarked)
    (hhandover : Handover m leases a') : a'.IdleUnmarked := by
  intro id conn hconn hidle
  by_cases hmem : id ∈ leases.map (·.server)
  · obtain ⟨lease, hlease, rfl⟩ := List.mem_map.mp hmem
    obtain ⟨held, hheld, hactive, -⟩ := (hhandover.given lease hlease).holds
    rw [hheld, some.injEq] at hconn
    rw [← hconn, hactive] at hidle
    cases hidle
  · rw [hhandover.others id hmem] at hconn
    exact h id conn hconn hidle

lemma Barred.prepared (h : a.Barred p) (hprepared : Prepared op a m) : m.Barred p where
  known := fun id t hp => lt_of_lt_of_le (h.known id t hp) hprepared.later.nextServer
  marked := by
    intro id conn hconn hp
    obtain ⟨old, hold, hkept⟩ := hprepared.origin hconn
    cases hkept with
    | same => exact h.marked id _ hold hp
    | parked seq hparks hstate hneeded hcredit =>
      have hmarked := h.marked id old hold hp
      rw [hneeded] at hmarked
      cases hmarked
    | marked hmarks => rfl

/-- A server that is to be closed is not handed out. -/
lemma Barred.not_given (h : m.Barred p) (hidle : m.IdleUnmarked) {lease : Lease T}
    (hgiven : Given m lease a') : ¬ p lease.server lease.tenant := by
  intro hp
  cases hgiven with
  | reused conn hconn hstate howner hcredit hepoch hnew =>
    have hmarked := h.marked lease.server conn hconn (howner ▸ hp)
    rw [hidle lease.server conn hconn hstate] at hmarked
    cases hmarked
  | opened hid hepoch hnew =>
    exact absurd (h.known lease.server lease.tenant hp) (not_lt.mpr hid)

lemma Barred.handover (h : m.Barred p) (hidle : m.IdleUnmarked)
    (hhandover : Handover m leases a') : a'.Barred p where
  known := fun id t hp => lt_of_lt_of_le (h.known id t hp) hhandover.later.nextServer
  marked := by
    intro id conn hconn hp
    by_cases hmem : id ∈ leases.map (·.server)
    · obtain ⟨lease, hlease, rfl⟩ := List.mem_map.mp hmem
      have hgiven := hhandover.given lease hlease
      obtain ⟨held, hheld, -, -, howner, -⟩ := hgiven.holds
      rw [hheld, some.injEq] at hconn
      rw [← hconn, howner] at hp
      exact absurd hp (h.not_given hidle hgiven)
    · rw [hhandover.others id hmem] at hconn
      exact h.marked id conn hconn hp

/-! ### Along a run -/

/-- What one operation of a busy run keeps, and whom it does not serve. -/
lemma Barred.apply (h : a.Barred p) (hs : a.Sound) (hidle : a.IdleUnmarked)
    (hop : a.migratesBusy op) {outcome : Outcome T} (happly : a.apply op = some (outcome, a')) :
    a'.Barred p ∧ ∀ lease ∈ outcome.leases, ¬ p lease.server lease.tenant := by
  obtain ⟨m, -, hprepared, hhandover⟩ := apply_fates hs happly
  have hunmarked := hidle.prepared hop hprepared
  have hbarred := h.prepared hprepared
  exact ⟨hbarred.handover hunmarked hhandover,
    fun lease hlease => hbarred.not_given hunmarked (hhandover.given lease hlease)⟩

/-- The runs in which a tenant migrates only while all its servers are in use. -/
def busySystem (pool : PoolSpec) (admission : AdmissionSpec) : System (Allocator T) (Op T) :=
  (system pool admission).restrict fun a op => a.migratesBusy op = true

lemma idleUnmarked_of_reachable (h : (busySystem pool admission).Reachable a) : a.IdleUnmarked := by
  refine h.invariant (I := IdleUnmarked) ?_ ?_
  · intro s hs id conn hconn
    obtain ⟨hsound, hempty, -⟩ := withClock_sound hs
    have howner := (hsound.consistent.server id conn hconn).2.2.1
    rw [hempty] at howner
    cases howner
  · rintro s op t hreach hidle ⟨hop, hstep⟩
    obtain ⟨⟨outcome, b⟩, happly, rfl⟩ := map_eq_some_iff.mp hstep
    obtain ⟨m, -, hprepared, hhandover⟩ := apply_fates (reachable_sound hreach.of_restrict) happly
    exact (hidle.prepared hop hprepared).handover hhandover

lemma barred_of_path {c : Allocator T}
    {ops : List (Op T)} (hreach : (busySystem pool admission).Reachable a) (hbarred : a.Barred p)
    (hpath : (busySystem pool admission).Path a ops c) : c.Barred p := by
  induction hpath with
  | nil => exact hbarred
  | snoc hprefix hstep ih =>
    have hmiddle := hprefix.reachable hreach
    obtain ⟨hop, hnext⟩ := hstep
    obtain ⟨⟨outcome, b⟩, happly, rfl⟩ := map_eq_some_iff.mp hnext
    exact (ih.apply (reachable_sound hmiddle.of_restrict)
      (idleUnmarked_of_reachable hmiddle) hop happly).1

/-! ### Where a migration begins -/

/-- Marking a server leaves it marked, and takes no mark away. -/
lemma markCloseNeeded_marks {marked : Bool} (h : a.markCloseNeeded id = some (marked, a')) :
    (∀ conn, a'.servers.get? id = some conn → conn.closeNeeded) ∧
      ∀ other, other ≠ id → a'.servers.get? other = a.servers.get? other := by
  unfold markCloseNeeded at h
  split at h
  · rename_i hnone
    cases h
    refine ⟨?_, fun _ _ => rfl⟩
    intro conn hconn
    rw [hnone] at hconn
    cases hconn
  rename_i found hfound
  split at h
  · rename_i hneeded
    cases h
    refine ⟨?_, fun _ _ => rfl⟩
    intro conn hconn
    rw [hfound, some.injEq] at hconn
    rw [← hconn]
    exact hneeded
  simp only [bind_eq_bind, bind_eq_some_iff, some.injEq, Prod.mk.injEq] at h
  obtain ⟨rt, -, -, rfl⟩ := h
  constructor
  · intro conn hconn
    rw [get?_insert_self, some.injEq] at hconn
    rw [← hconn]
  · intro other hother
    exact get?_insert_of_ne _ _ hother

lemma markAll_marks {servers : List ServerId} (h : a.markAll servers = some a')
    (hid : id ∈ servers) (hconn : a'.servers.get? id = some conn) : conn.closeNeeded := by
  have hrun : servers.foldlM
      (fun (b : Allocator T) server => (b.markCloseNeeded server).map (·.2)) a = some a' := h
  have hmarked : ∀ other ∈ servers, other ∈ ([] : List ServerId) ∨
      ∀ found, a'.servers.get? other = some found → found.closeNeeded := by
    refine foldlM_keeps (motive := fun rest b => ∀ other ∈ servers, other ∈ rest ∨
      ∀ found, b.servers.get? other = some found → found.closeNeeded = true) ?_
      (fun other hother => .inl hother) hrun
    rintro item rest b b' hkept hstep other hother
    obtain ⟨⟨marked, m⟩, hmark, rfl⟩ := map_eq_some_iff.mp hstep
    obtain ⟨hself, hothers⟩ := markCloseNeeded_marks hmark
    by_cases heq : other = item
    · subst heq
      exact .inr hself
    rcases hkept other hother with hwaiting | hdone
    · exact .inl ((mem_cons.mp hwaiting).resolve_left heq)
    right
    intro found hfound
    change m.servers.get? other = some found at hfound
    rw [hothers other heq] at hfound
    exact hdone found hfound
  rcases hmarked id hid with hnever | hdone
  · cases hnever
  · exact hdone conn hconn

/-- Once a tenant has begun to migrate, all its servers so far are to be closed. -/
lemma beginMigration_barred (hs : a.Sound) {t : T} {result : Except (ConfigError T) Unit}
    (h : a.beginMigration t = some (result, a')) :
    a'.Barred fun id owner => id < a.nextServer ∧ owner = t := by
  obtain ⟨-, hprepared⟩ := beginMigration_fates hs h
  refine ⟨fun id owner hp => lt_of_lt_of_le hp.1 hprepared.later.nextServer, ?_⟩
  rintro id conn hconn ⟨-, howner⟩
  obtain ⟨old, hold, hkept⟩ := hprepared.origin hconn
  have hsame : old.tenant = t := by
    cases hkept with
    | same => exact howner
    | parked seq hparks => exact hparks.elim
    | marked hmarks => exact hmarks
  cases hrt : a.tenants.get? t with
  | none =>
    have hbound := (hs.consistent.server id old hold).2.2.1
    rw [hsame, hrt] at hbound
    cases hbound
  | some rt =>
    simp only [beginMigration, hrt, bind_eq_bind, bind_eq_some_iff, some.injEq, Prod.mk.injEq] at h
    obtain ⟨b, hmark, -, rfl⟩ := h
    refine markAll_marks hmark ?_ hconn
    exact (mem_serversWhere hs.consistent).mpr ⟨old, hold, decide_eq_true hsame⟩

/-- In every busy run: once a tenant has begun to migrate, every lease of it is on a server
opened afterwards, also when the migration is over; and a server that is marked is not handed
to a client again. -/
theorem servers_are_left_behind (pool : PoolSpec) (admission : AdmissionSpec) :
    (∀ (a b c d : Allocator T) (t : T) (ops : List (Op T)) (op : Op T) (outcome : Outcome T),
      (busySystem pool admission).Reachable a →
      (busySystem pool admission).step a (.beginMigration t) b →
      (busySystem pool admission).Path b ops c → c.migratesBusy op = true →
      c.apply op = some (outcome, d) → ∀ lease ∈ outcome.leases, lease.tenant = t →
        a.nextServer ≤ lease.server ∧ a.servers.get? lease.server = none) ∧
    ∀ (a c d : Allocator T) (ops : List (Op T)) (op : Op T) (outcome : Outcome T)
      (id : ServerId) (conn : ServerConn T),
      (busySystem pool admission).Reachable a → a.servers.get? id = some conn →
      conn.closeNeeded = true → (busySystem pool admission).Path a ops c →
      c.migratesBusy op = true → c.apply op = some (outcome, d) →
      ∀ lease ∈ outcome.leases, lease.server ≠ id := by
  constructor
  · intro a b c d t ops op outcome hreach hbegin hpath hop happly lease hlease howner
    have hsa := reachable_sound hreach.of_restrict
    have hafter := hreach.step hbegin
    obtain ⟨⟨answer, b'⟩, hcall, hb⟩ := map_eq_some_iff.mp hbegin.2
    obtain ⟨⟨result, b''⟩, hmigration, heq⟩ := map_eq_some_iff.mp hcall
    simp only [Prod.mk.injEq] at heq
    obtain rfl : b'' = b := heq.2.trans hb
    have hbarred := barred_of_path hafter (beginMigration_barred hsa hmigration) hpath
    have hmiddle := hpath.reachable hafter
    obtain ⟨-, hnot⟩ := hbarred.apply (reachable_sound hmiddle.of_restrict)
      (idleUnmarked_of_reachable hmiddle) hop happly
    have hnew : a.nextServer ≤ lease.server := by
      by_contra hold
      exact hnot lease hlease ⟨Nat.lt_of_not_le hold, howner⟩
    refine ⟨hnew, ?_⟩
    cases hget : a.servers.get? lease.server with
    | none => rfl
    | some old =>
      exact absurd (hsa.consistent.server lease.server old hget).2.1 (not_lt.mpr hnew)
  · intro a c d ops op outcome id conn hreach hconn hmarked hpath hop happly lease hlease hsame
    have hsa := reachable_sound hreach.of_restrict
    have hbarred : a.Barred fun server _ => server = id := by
      constructor
      · rintro server t rfl
        exact (hsa.consistent.server server conn hconn).2.1
      · rintro server found hfound rfl
        rw [hconn, some.injEq] at hfound
        exact hfound ▸ hmarked
    have hmiddle := hpath.reachable hreach
    obtain ⟨-, hnot⟩ := (barred_of_path hreach hbarred hpath).apply
      (reachable_sound hmiddle.of_restrict) (idleUnmarked_of_reachable hmiddle) hop happly
    exact hnot lease hlease hsame

/-- A tenant has one server, in use. -/
def inUseRun : List (Op Nat) :=
  [.addTenant 0 (plainTenant 0 2), .connectClient 0, .tryLease 0 .normal 0]

/-- The lease `inUseRun` ends with. -/
def inUseLease : Lease Nat :=
  { server := 0, tenant := 0, client := 0, credit := .burst, epoch := 2 }

lemma inUseRun_is_busy (op : Op Nat) (hop : op ∈ inUseRun) (s : Allocator Nat) :
    s.migratesBusy op := by
  simp only [inUseRun, mem_cons, not_mem_nil, or_false] at hop
  rcases hop with rfl | rfl | rfl <;> rfl

/-- The tenant migrates while its server is in use: the server is closed on its release, and
the next lease is on a new one. -/
theorem servers_are_left_behind_inUseRun : ∃ (a b c d : Allocator Nat) (lease : Lease Nat),
      replay (plainPool 2) plainAdmission inUseRun = some a ∧ a.next (.beginMigration 0) = some b ∧
      System.run next b [.release inUseLease, .finishMigration 0] = some c ∧
      c.tryLease 0 .normal 0 = some (.granted lease, d) ∧
      a.nextServer ≤ lease.server ∧ a.servers.get? lease.server = none := by
  let a := (replay (plainPool 2) plainAdmission inUseRun).get (by decide)
  have ha : _ = some a := (some_get _).symm
  let b := (a.next (.beginMigration 0)).get (by decide)
  have hb : _ = some b := (some_get _).symm
  let c := (System.run next b [.release inUseLease, .finishMigration 0]).get (by decide)
  have hc : _ = some c := (some_get _).symm
  let lease : Lease Nat := { server := 1, tenant := 0, client := 0, credit := .burst, epoch := 4 }
  obtain ⟨d, hanswer⟩ : ∃ d, c.tryLease 0 .normal 0 = some (.granted lease, d) := by
    let answer := (c.tryLease 0 .normal 0).get (by decide)
    have hanswer : _ = some answer := (some_get _).symm
    have hlease : answer.1 = .granted lease := by decide
    exact ⟨answer.2, by rw [hanswer, ← hlease]⟩
  have happly : c.apply (.tryLease 0 .normal 0) = _ := report_eq hanswer
  have hpath : (busySystem (plainPool 2) plainAdmission).Path b
      [.release inUseLease, .finishMigration 0] c := by
    refine System.path_of_run ?_ hc
    intro op hop s t hstep
    simp only [mem_cons, not_mem_nil, or_false] at hop
    rcases hop with rfl | rfl <;> exact ⟨rfl, hstep⟩
  have hbegin : (busySystem (plainPool 2) plainAdmission).step a (.beginMigration 0) b :=
    ⟨by decide, hb⟩
  obtain ⟨hnew, hgone⟩ := (servers_are_left_behind (plainPool 2) plainAdmission).1
    a b c d 0 _ (.tryLease 0 .normal 0) (.admitted (.granted lease))
    (restricted_of_replay inUseRun_is_busy ha) hbegin hpath rfl happly lease
    (mem_singleton_self _) rfl
  exact ⟨a, b, c, d, lease, ha, hb, hc, hanswer, hnew, hgone⟩

/-- A tenant's server is idle while the tenant migrates: it is marked, and handed to the
next client all the same. -/
theorem marked_idle_server_is_reused :
    ∃ (a b c d : Allocator Nat) (conn : ServerConn Nat) (lease : Lease Nat),
      replay (plainPool 2) plainAdmission (inUseRun ++ [.release inUseLease]) = some a ∧
      a.next (.beginMigration 0) = some b ∧ b.next (.finishMigration 0) = some c ∧
      c.tryLease 0 .normal 0 = some (.granted lease, d) ∧
      (a.servers.get? lease.server).isSome = true ∧
      c.servers.get? lease.server = some conn ∧ conn.closeNeeded = true := by
  let a := (replay (plainPool 2) plainAdmission (inUseRun ++ [.release inUseLease])).get (by decide)
  let b := (a.next (.beginMigration 0)).get (by decide)
  let c := (b.next (.finishMigration 0)).get (by decide)
  let answer := (c.tryLease 0 .normal 0).get (by decide)
  let lease : Lease Nat := { server := 0, tenant := 0, client := 0, credit := .burst, epoch := 4 }
  have hanswer : _ = some answer := (some_get _).symm
  have hlease : answer.1 = .granted lease := by decide
  let conn := (c.servers.get? 0).get (by decide)
  refine ⟨a, b, c, answer.2, conn, lease, (some_get _).symm, (some_get _).symm,
    (some_get _).symm, ?_, by decide, (some_get _).symm, by decide⟩
  rw [hanswer, ← hlease]

end Allocator
end PgElastic.Capacity
