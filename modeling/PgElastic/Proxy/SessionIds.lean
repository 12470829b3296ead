import PgElastic.Proxy.PoolManager

/-!
# The identifiers of connected sessions

A session keeps the `ClientId` it was given when it connected, and asks the allocator under it
for every lease.  Sections of the manager leave the allocator's table of clients alone (`Kept`),
except that `connect_client` and `disconnect_client` change one entry and that a reload forgets
the departed tenants together with their clients.

A departed tenant is one that has no live server, and a tenant between two transactions has none
once its idle links are reaped, however many clients are connected
(`reload_expels_a_connected_client`).  When no reload drops a tenant that has connected clients,
each of these keeps its identifier (`connected_client_is_never_stale`).
-/

namespace PgElastic.Proxy

open Library Capacity Pool Option OrderedMap Allocator
open Capacity.Allocator (Op Outcome report_eq)

namespace PoolManager

variable {T F : Type} [LinearOrder T]

/-- The allocator is in order, and every connected session is known to it under its tenant. -/
structure Enrolled (s : PoolManager T F) : Prop where
  sound : s.allocator.Sound
  known : ∀ client session, s.sessions.get? client = some session →
    s.allocator.clients.get? client = some session.key.tenant

/-- A section that lets nobody in or out. -/
structure Kept (s s' : PoolManager T F) : Prop where
  sound : s'.allocator.Sound
  known : ∀ client t, s.allocator.clients.get? client = some t →
    s'.allocator.clients.get? client = some t
  keys : ∀ client session', s'.sessions.get? client = some session' →
    ∃ session, s.sessions.get? client = some session ∧ session.key = session'.key

namespace Kept

variable {s s' : PoolManager T F} {order : List ServerId} {now : Timestamp}
  {lease : Capacity.Lease T} {client : ClientId} {grants : List (Grant T)}

lemma refl (h : s.allocator.Sound) : Kept s s :=
  ⟨h, fun _ _ => id, fun _ session hsession => ⟨session, hsession, rfl⟩⟩

lemma trans {t u : PoolManager T F} (hst : Kept s t) (htu : Kept t u) : Kept s u := by
  refine ⟨htu.sound, fun _ _ hknown => htu.known _ _ (hst.known _ _ hknown), ?_⟩
  intro client last hlast
  obtain ⟨middle, hmiddle, hkey⟩ := htu.keys client last hlast
  obtain ⟨first, hfirst, hkey'⟩ := hst.keys client middle hmiddle
  exact ⟨first, hfirst, hkey'.trans hkey⟩

/-- A call of the allocator that may forget nobody. -/
lemma call (hs : s.allocator.Sound) {op : Op T} {outcome : Outcome T}
    (happly : s.allocator.apply op = some (outcome, s'.allocator))
    (hstays : ∀ client t, ¬ op.Drops client t) (hsessions : s'.sessions = s.sessions) :
    Kept s s' := by
  refine ⟨(effect_of_apply hs happly).1.sound,
    fun client t hknown => known_of_apply hs happly hknown (hstays client t), ?_⟩
  intro client session hsession
  rw [hsessions] at hsession
  exact ⟨session, hsession, rfl⟩

/-- A section that leaves the allocator alone. -/
lemma aside (hs : s.allocator.Sound) (hallocator : s'.allocator = s.allocator)
    (hsessions : s'.sessions = s.sessions) : Kept s s' := by
  refine ⟨hallocator ▸ hs, fun _ _ hknown => hallocator ▸ hknown, ?_⟩
  intro client session hsession
  rw [hsessions] at hsession
  exact ⟨session, hsession, rfl⟩

lemma setPhase (hs : s.allocator.Sound) (client : ClientId) (phase : Phase T) :
    Kept s (s.setPhase client phase) := by
  unfold PoolManager.setPhase
  split
  · rename_i session hsession
    refine ⟨hs, fun _ _ => id, ?_⟩
    intro other session' hother
    rcases get?_insert_cases hother with ⟨rfl, rfl⟩ | ⟨-, hold⟩
    · exact ⟨session, hsession, rfl⟩
    · exact ⟨session', hold, rfl⟩
  · exact refl hs

lemma dispatchLoop {fuel : Nat} {s : PoolManager T F} :
    s.allocator.Sound → PoolManager.dispatchLoop fuel s grants = some s' → Kept s s' := by
  induction fuel generalizing s grants with
  | zero =>
    intro hs hrun
    cases grants with
    | nil =>
      cases hrun
      exact refl hs
    | cons grant pending => cases hrun
  | succ fuel ih =>
    intro hs hrun
    cases grants with
    | nil =>
      cases hrun
      exact refl hs
    | cons grant pending =>
      unfold PoolManager.dispatchLoop at hrun
      split at hrun
      · rename_i client queue hhand
        have hqueued : Kept s { s with waits := s.waits.insert grant.tenant queue } :=
          aside hs rfl rfl
        have hmoved : Kept s (deliver { s with waits := s.waits.insert grant.tenant queue }
            client grant) := by
          have hphase := hqueued.trans (setPhase hqueued.sound client (.granted grant.lease))
          exact ⟨hphase.sound, hphase.known, hphase.keys⟩
        exact hmoved.trans (ih hmoved.sound hrun)
      rename_i queue hhand
      obtain ⟨⟨outcome, a'⟩, hrelease, hrest⟩ := bind_eq_some_iff.mp hrun
      have happly : s.allocator.apply (.release grant.lease) = _ := report_eq hrelease
      have hreleased : Kept s { s with
          waits := s.waits.insert grant.tenant queue
          allocator := a'
          orphans := s.orphans ++ [grant] } :=
        call hs happly (fun _ _ => id) rfl
      exact hreleased.trans (ih hreleased.sound hrest)

section

variable (hs : s.allocator.Sound) {server : ServerId} {key : PoolKey T F} {current : Nat}
include hs

lemma dispatch (hrun : s.dispatch grants = some s') : Kept s s' :=
  dispatchLoop hs hrun

lemma reportDead (hrun : s.reportDead server = some s') : Kept s s' := by
  obtain ⟨⟨grants, a'⟩, hcall, hrest⟩ := bind_eq_some_iff.mp hrun
  have happly : s.allocator.apply (.backendDied server) = _ := report_eq hcall
  have hdied : Kept s { s with allocator := a' } :=
    call hs happly (fun _ _ => id) rfl
  exact hdied.trans (dispatch hdied.sound hrest)

lemma unpark (server : ServerId) : Kept s (s.unpark server) := by
  unfold PoolManager.unpark
  split
  · exact refl hs
  · exact aside hs rfl rfl

lemma evict (hrun : s.evict server = some s') : Kept s s' := by
  unfold PoolManager.evict at hrun
  split at hrun
  · cases hrun
    exact refl hs
  · have hunparked := unpark hs server
    exact hunparked.trans (reportDead hunparked.sound hrun)

lemma takeSuperseded (hrun : s.takeSuperseded order current = some s') : Kept s s' :=
  takeSuperseded_keeps (P := Kept s)
    (fun _ _ _ _ _ _ hkept hevict => hkept.trans (evict hkept.sound hevict)) (refl hs) hrun

lemma takeIdle {idleFor : Timestamp} (hrun : s.takeIdle order now idleFor = some s') : Kept s s' :=
  takeIdle_keeps (P := Kept s)
    (fun _ _ _ _ _ hkept hevict => hkept.trans (evict hkept.sound hevict)) (refl hs) hrun

lemma releaseLease (hrun : s.releaseLease lease = some s') : Kept s s' := by
  obtain ⟨⟨outcome, a'⟩, hcall, hrest⟩ := bind_eq_some_iff.mp hrun
  have happly : s.allocator.apply (.release lease) = _ := report_eq hcall
  have hreleased : Kept s { s with allocator := a' } :=
    call hs happly (fun _ _ => id) rfl
  exact hreleased.trans (dispatch hreleased.sound hrest)

lemma addTenant (tenant : T) (spec : TenantSpec) : Kept s (s.addTenant tenant spec) := by
  have happly : s.allocator.apply (.addTenant tenant spec) =
      some (.configured (s.allocator.addTenant tenant spec).1,
        (s.allocator.addTenant tenant spec).2) := rfl
  unfold PoolManager.addTenant
  generalize s.allocator.addTenant tenant spec = answer at happly
  obtain ⟨result, a'⟩ := answer
  cases result with
  | ok u | error e => exact call hs happly (fun _ _ => id) rfl

lemma ensureTenant (tenant : T) : Kept s (s.ensureTenant tenant) := by
  unfold PoolManager.ensureTenant
  split
  · exact refl hs
  · exact addTenant hs tenant defaultSpec

lemma adoptClaim {claim : T × TenantSpec} (hrun : s.adoptClaim claim = some s') : Kept s s' := by
  rcases adoptClaim_cases hrun with ⟨result, a', tenants, hcall, -, hdispatch⟩ | rfl
  · have happly : s.allocator.apply (.setTenantSpec claim.1 claim.2) = _ := report_eq hcall
    have hadopted : Kept s { s with allocator := a', tenants := tenants } :=
      call hs happly (fun _ _ => id) rfl
    exact hadopted.trans (dispatch hadopted.sound hdispatch)
  · exact addTenant hs claim.1 claim.2

lemma acquire {tenant : T} (hrun : s.acquire client tenant now = some s') : Kept s s' := by
  obtain ⟨⟨admission, a'⟩, hcall, hrest⟩ := bind_eq_some_iff.mp hrun
  have happly : s.allocator.apply (.tryLease client .normal now) = _ := report_eq hcall
  have hanswered : Kept s { s with allocator := a' } := call hs happly (fun _ _ => id) rfl
  cases admission with
  | queued ticket blockedBy revoked =>
    dsimp only at hrest
    split at hrest
    · rename_i queue hqueue
      cases hrest
      have hqueued : Kept s { s with
          allocator := a', waits := s.waits.insert tenant queue } :=
        call hs happly (fun _ _ => id) rfl
      exact hqueued.trans (setPhase hqueued.sound client (.queued ticket))
    · cases hrest
      exact hanswered
  | granted lease =>
    cases hrest
    exact hanswered.trans (setPhase hanswered.sound client (.granted lease))
  | denied reason | stale =>
    cases hrest
    exact hanswered

lemma leaseCancel (hrun : s.leaseCancel client now = some s') : Kept s s' := by
  obtain ⟨⟨admission, a'⟩, hcall, hrest⟩ := bind_eq_some_iff.mp hrun
  have happly : s.allocator.apply (.tryLease client .cancel now) = _ := report_eq hcall
  cases admission with
  | _ =>
    cases hrest
    exact call hs happly (fun _ _ => id) rfl

lemma attach [DecidableEq F]
    (hrun : s.attach client key lease order current = some s') : Kept s s' := by
  obtain ⟨m, hsuperseded, hrest⟩ := bind_eq_some_iff.mp hrun
  have hm := takeSuperseded hs hsuperseded
  have hclaim : Kept m (m.claim lease.server key).2 := by
    unfold PoolManager.claim
    split
    · exact refl hm.sound
    · split <;> exact aside hm.sound rfl rfl
  generalize m.claim lease.server key = claimed at hclaim hrest
  obtain ⟨link, b⟩ := claimed
  cases link with
  | some link | none =>
    cases hrest
    exact (hm.trans hclaim).trans (setPhase hclaim.sound client _)

lemma checkIn {link : Link} (hrun : s.checkIn client key lease link now = some s') : Kept s s' := by
  have hrested := setPhase hs client (.resting : Phase T)
  have hparked : Kept s ((s.setPhase client .resting).park lease.server key link now) :=
    hrested.trans (aside hrested.sound rfl rfl)
  obtain ⟨⟨outcome, a'⟩, hcall, hrest⟩ := bind_eq_some_iff.mp hrun
  have happly : ((s.setPhase client .resting).park lease.server key link now).allocator.apply
      (.release lease) = _ := report_eq hcall
  have hreleased : Kept s { (s.setPhase client .resting).park lease.server key link now with
      allocator := a' } :=
    hparked.trans (call hparked.sound happly (fun _ _ => id) rfl)
  dsimp only at hrest
  split at hrest
  · exact hreleased.trans (dispatch hreleased.sound hrest)
  all_goals
    have hunparked := hreleased.trans (unpark hreleased.sound lease.server)
    exact hunparked.trans (dispatch hunparked.sound hrest)

end

end Kept

variable {s s' : PoolManager T F} {step : Step T F}
  {published : List (T × TenantSpec)} {client : ClientId}

lemma Enrolled.kept (h : s.Enrolled) (hkept : Kept s s') : s'.Enrolled := by
  refine ⟨hkept.sound, ?_⟩
  intro client session' hsession'
  obtain ⟨session, hsession, hkey⟩ := hkept.keys client session' hsession'
  rw [← hkey]
  exact hkept.known _ _ (h.known client session hsession)

/-- A section of a task, `disconnect_client` apart. -/
lemma kept_of_task [DecidableEq F] {session : Session T F}
    (hs : s.allocator.Sound) (htask : Task s client session step s')
    (hstays : step ≠ .disconnectClient client) : Kept s s' := by
  cases htask with
  | @advance step ledger phase _ hadvance hmoved =>
    rw [← hmoved]
    have hledger : Kept s { s with ledger := ledger } := .aside hs rfl rfl
    exact hledger.trans (.setPhase hledger.sound client phase)
  | notPinned percent reason => exact .refl hs
  | disconnectClient hphase hrun => exact absurd rfl hstays
  | acquire hphase hrun => exact .acquire hs hrun
  | @dropWaiter ticket _ hphase hmoved =>
    rw [← hmoved]
    have hwaits : Kept s { s with
        waits := s.waits.insert session.key.tenant
          ((s.waitQueue session.key.tenant).deregister client) } := .aside hs rfl rfl
    exact hwaits.trans (.setPhase hwaits.sound client (.leaving ticket))
  | @dropTicket ticket removed a' _ hphase hcall hmoved =>
    rw [← hmoved]
    have happly : s.allocator.apply (.cancelTicket session.key.tenant ticket) = _ := report_eq hcall
    have hcancelled : Kept s { s with allocator := a' } :=
      .call hs happly (fun _ _ => id) rfl
    exact hcancelled.trans (.setPhase hcancelled.sound client .resting)
  | attach hphase hrun => exact .attach hs hrun
  | giveUp hphase hrun =>
    have hrested := Kept.setPhase hs client (.resting : Phase T)
    exact hrested.trans (.reportDead hrested.sound hrun)
  | checkIn hphase hrun => exact .checkIn hs hrun
  | @drop lease link how _ hphase hrun =>
    have hrested := Kept.setPhase hs client (.resting : Phase T)
    have hunpinned : Kept s { s.setPhase client .resting with
        ledger := s.ledger.recordUnpin link.pin } :=
      hrested.trans (.aside hrested.sound rfl rfl)
    exact hunpinned.trans (.releaseLease hunpinned.sound hrun)

lemma Enrolled.connectClient {key : PoolKey T F} (h : s.Enrolled)
    (hrun : s.connectClient key = some s') : s'.Enrolled := by
  obtain ⟨⟨result, a'⟩, hcall, hrest⟩ := bind_eq_some_iff.mp hrun
  have happly : s.allocator.apply (.connectClient key.tenant) = _ := report_eq hcall
  have hsound := (effect_of_apply h.sound happly).1.sound
  obtain ⟨-, -, ⟨rejection, rfl, hclients⟩ | ⟨rfl, hclients⟩⟩ := connectClient_table hcall
  all_goals
    cases hrest
    refine ⟨hsound, ?_⟩
    intro other session hsession
    change a'.clients.get? other = _
    rw [hclients]
  · exact h.known other session hsession
  rcases get?_insert_cases hsession with ⟨rfl, rfl⟩ | ⟨hne, hold⟩
  · exact get?_insert_self ..
  · rw [get?_insert_of_ne _ _ hne]
    exact h.known other session hold

lemma Enrolled.disconnectClient (h : s.Enrolled)
    (hrun : s.disconnectClient client = some s') : s'.Enrolled := by
  obtain ⟨⟨grants, a'⟩, hcall, hrest⟩ := bind_eq_some_iff.mp hrun
  have happly : s.allocator.apply (.disconnectClient client) = _ := report_eq hcall
  have hgone : Enrolled { s with
      allocator := a', sessions := s.sessions.erase client } := by
    refine ⟨(effect_of_apply h.sound happly).1.sound, ?_⟩
    intro other session hsession
    change (s.sessions.erase client).get? other = some session at hsession
    change a'.clients.get? other = _
    obtain ⟨hne, hsession⟩ := get?_of_erase hsession
    exact known_of_apply h.sound happly (h.known other session hsession) hne
  exact hgone.kept (Kept.dispatch hgone.sound hrest)

/-- No connected session is of a tenant on the list. -/
def NoneConnected (s : PoolManager T F) (dropped : List T) : Prop :=
  ∀ client session, s.sessions.get? client = some session → session.key.tenant ∉ dropped

lemma NoneConnected.kept {dropped : List T} (h : s.NoneConnected dropped) (hkept : Kept s s') :
    s'.NoneConnected dropped := by
  intro client session' hsession'
  obtain ⟨session, hsession, hkey⟩ := hkept.keys client session' hsession'
  rw [← hkey]
  exact h client session hsession

/-- Forgetting a tenant nobody is connected as. -/
lemma Enrolled.forget {tenant : T} {dropped : List T} (h : s.Enrolled)
    (hnone : s.NoneConnected dropped) (hdropped : tenant ∈ dropped)
    (hrun : s.forget tenant = some s') : s'.Enrolled ∧ s'.NoneConnected dropped := by
  obtain ⟨result, a', tenants, hcall, hdispatch⟩ := forget_cases hrun
  have happly : s.allocator.apply (.removeTenant tenant) = _ := report_eq hcall
  have hsound := (effect_of_apply h.sound happly).1.sound
  have hknown client session :
      s.sessions.get? client = some session → a'.clients.get? client = some session.key.tenant := by
    intro hsession
    refine known_of_apply h.sound happly (h.known client session hsession) ?_
    rintro (heq : session.key.tenant = tenant)
    exact hnone client session hsession (heq ▸ hdropped)
  have hforgotten : Enrolled { s with allocator := a', tenants := tenants } := ⟨hsound, hknown⟩
  have hstill : NoneConnected { s with allocator := a', tenants := tenants } dropped := hnone
  have hkept := Kept.dispatch hforgotten.sound hdispatch
  exact ⟨hforgotten.kept hkept, hstill.kept hkept⟩

/-- A reload drops no tenant that has a connected client: it names the tenant, or it finds servers
of the tenant that are counted as live and leaves the tenant for a later one. -/
def SparesConnected (s : PoolManager T F) (step : Step T F) : Prop :=
  ∀ published m, step = .applyTenants published → published.foldlM adoptClaim s = some m →
    s.NoneConnected (m.departed published)

lemma Enrolled.applyTenants (h : s.Enrolled) (hspares : s.SparesConnected (.applyTenants published))
    (hrun : s.applyTenants published = some s') : s'.Enrolled := by
  obtain ⟨m, hadopt, hforget⟩ := bind_eq_some_iff.mp hrun
  have hadopted : Kept s m := by
    refine foldlM_keeps (motive := fun _ b => Kept s b) ?_ (Kept.refl h.sound) hadopt
    intro claim rest b b' hkept hstep
    exact hkept.trans (Kept.adoptClaim hkept.sound hstep)
  have hnone := (hspares published m rfl hadopt).kept hadopted
  have hdone : ([] : List T) ⊆ m.departed published ∧
      s'.Enrolled ∧ s'.NoneConnected (m.departed published) := by
    refine foldlM_keeps (motive := fun rest b => rest ⊆ m.departed published ∧
      b.Enrolled ∧ b.NoneConnected (m.departed published)) ?_
      ⟨fun _ => id, h.kept hadopted, hnone⟩ hforget
    rintro tenant rest b b' ⟨hsub, henrolled, hspared⟩ hstep
    exact ⟨fun _ hmem => hsub (List.mem_cons_of_mem _ hmem),
      henrolled.forget hspared (hsub List.mem_cons_self) hstep⟩
  exact hdone.2.1

lemma Enrolled.next [DecidableEq F] (h : s.Enrolled) (hspares : s.SparesConnected step)
    (hrun : s.next step = some s') : s'.Enrolled := by
  cases hactor : step.actor with
  | some client =>
    obtain ⟨session, hsession, htask⟩ := task_of_next hactor hrun
    by_cases hleaves : step = .disconnectClient client
    · subst hleaves
      cases htask with
      | advance hadvance hmoved => cases hadvance
      | disconnectClient hphase hgone => exact h.disconnectClient hgone
    · exact h.kept (kept_of_task h.sound htask hleaves)
  | none =>
    cases step with
    | ensureTenant tenant =>
      cases hrun
      exact h.kept (.ensureTenant h.sound tenant)
    | connectClient key => exact h.connectClient hrun
    | leaseCancel client now => exact h.kept (.leaseCancel h.sound hrun)
    | releaseCancel lease =>
      simp only [PoolManager.next] at hrun
      split at hrun
      · have hdropped : Kept s { s with cancels := s.cancels.erase lease } :=
          .aside h.sound rfl rfl
        exact h.kept (hdropped.trans (.releaseLease hdropped.sound hrun))
      · cases hrun
    | severSuperseded order current => exact h.kept (.takeSuperseded h.sound hrun)
    | reapIdle order now idleFor => exact h.kept (.takeIdle h.sound hrun)
    | applyTenants published => exact h.applyTenants hspares hrun
    | _ => cases hactor

lemma enrolled_of_reachable [DecidableEq F] {pool : PoolSpec} {admission : AdmissionSpec}
    (h : ((system pool admission).restrict SparesConnected).Reachable s) : s.Enrolled := by
  refine h.invariant (I := Enrolled) ?_ ?_
  · intro s hnew
    obtain ⟨allocator, hclock, rfl⟩ := new_ok hnew
    refine ⟨(withClock_sound hclock).1, ?_⟩
    intro client session hsession
    cases hsession
  · intro s step s' _ hs hstep
    exact hs.next hstep.1 hstep.2

/-- In every run whose reloads drop no tenant that has connected clients, whatever else they add,
change and drop, a connected session's identifier stands for its tenant in the
allocator, and no request under it is answered `Stale`. -/
theorem connected_client_is_never_stale [DecidableEq F] {pool : PoolSpec}
    {admission : AdmissionSpec} {s : PoolManager T F}
    (h : ((system pool admission).restrict SparesConnected).Reachable s) {client : ClientId}
    {session : Session T F} (hconnected : s.sessions.get? client = some session) :
    s.allocator.clients.get? client = some session.key.tenant ∧
      ∀ kind now, ∃ answer a', s.allocator.tryLease client kind now = some (answer, a') ∧
        answer ≠ .stale := by
  have henrolled := enrolled_of_reachable h
  have hknown := henrolled.known client session hconnected
  exact ⟨hknown, fun kind now => answer_of_known henrolled.sound hknown kind now⟩

/-- The condition of `connected_client_is_never_stale`, as a test. -/
def sparesTest (s : PoolManager T F) : Step T F → Bool
  | .applyTenants published => (published.foldlM adoptClaim s).all fun m =>
    s.sessions.values.all fun session => decide (session.key.tenant ∉ m.departed published)
  | _ => true

lemma sparesConnected_of_test (h : s.sparesTest step) : s.SparesConnected step := by
  rintro published m rfl hadopt client session hsession
  simp only [sparesTest, hadopt, Option.all_some, List.all_eq_true, decide_eq_true_eq] at h
  exact h session ((mem_values_iff _ _).mpr ⟨client, hsession⟩)

/-- Tenant 1 is missing from one table while a client of it is connected and has a server, and
tenant 2 leaves and returns. -/
def absentTenant : List (Step Nat Nat) :=
  [.applyTenants [(0, defaultSpec), (1, defaultSpec), (2, defaultSpec)], .connectClient ⟨1, 0⟩,
    .acquire 0 0, .applyTenants [(0, defaultSpec)],
    .applyTenants [(0, defaultSpec), (1, defaultSpec), (2, defaultSpec)]]

theorem connected_client_is_never_stale_absentTenant : ∃ s : PoolManager Nat Nat,
      replay (plainPool 2) plainAdmission sparesTest absentTenant = some s ∧
      (s.sessions.get? 0).map (fun session => session.key) = some ⟨1, 0⟩ ∧
      s.allocator.clients.get? 0 = some 1 := by
  obtain ⟨s, hs, hkey⟩ : ∃ s : PoolManager Nat Nat,
      replay (plainPool 2) plainAdmission sparesTest absentTenant = some s ∧
      (s.sessions.get? 0).map (fun session => session.key) = some ⟨1, 0⟩ :=
    exists_of_any (by decide)
  have hreach :=
    (reachable_of_replay hs).restrict_mono fun _ _ htest => sparesConnected_of_test htest
  obtain ⟨session, hsession, hsame⟩ := Option.map_eq_some_iff.mp hkey
  have hknown := (connected_client_is_never_stale hreach hsession).1
  exact ⟨s, hs, hkey, by rw [hknown, hsame]⟩

/-- A client is connected and between two transactions when its tenant is missing from one
published table.  The tenant is back with the next table, and the client is not: every request
it makes is answered `Stale`. -/
theorem reload_expels_a_connected_client : ∃ s : PoolManager Nat Nat,
      (system (plainPool 2) plainAdmission).Reachable s ∧
      s.sessions.get? 0 = some ⟨⟨0, 0⟩, .resting⟩ ∧ 0 ∈ s.tenants.toList ∧
      (s.allocator.tryLease 0 .normal 0).map Prod.fst = some .stale := by
  exact (exists_of_any (x := replay (plainPool 2) plainAdmission (fun _ _ => true)
    [.applyTenants [(0, defaultSpec)], .connectClient ⟨0, 0⟩, .applyTenants [],
      .applyTenants [(0, defaultSpec)]]) (by decide)).imp
    fun s hs => ⟨(reachable_of_replay hs.1).of_restrict, hs.2⟩

end PoolManager
end PgElastic.Proxy
