import PgElastic.Proxy.Control

/-!
# What a lease restores when it ends

In a run of control-plane calls, one closed period of a tenant's gate reaches from
the `quiesce` that closes it to the call that opens it again.  A lease that ends
unresumed is to leave the route as it was when the period began.

The rollback target is captured when a lease is taken.  A `quiesce` that finds an
expired lease not yet swept takes the lease anew and captures the route of that
moment, which a cutover may already have moved; so the result holds for runs in
which a lease is taken over only while the route still is the one that lease
would restore.  No gate stays closed for good (`sweep_reopens`).
-/

namespace PgElastic.Proxy.Control

open Library System.Path

variable {T H I W : Type} [LinearOrder T] [LinearOrder I] [DecidableEq H]

/-- Between closed periods no rollback is armed, and a closed gate has a lease. -/
structure Settled (v : View H I W) : Prop where
  disarmed : v.gate.isOpen = true → ∀ live, v.gate.lease = some live → live.source = none
  leased : v.gate.isOpen = false → ∃ live, v.gate.lease = some live

/-- In a closed period every armed rollback leads to `home`. -/
def Armed (home : I) (v : View H I W) : Prop :=
  v.gate.isOpen = false → ∀ live source, v.gate.lease = some live →
    live.source = some source → source = home

/-- A lease that has expired unswept is taken over only while the tenant is routed
where that lease would put it back. -/
def Orderly (t : T) (c : Control T H I W) : Op T H I W → Prop
  | .quiesce tenant _ _ now =>
    tenant = t → (c.gate t).isOpen = false →
      ∀ live, (c.gate t).lease = some live → live.expired now = true →
        live.source = some (c.fleet.route t)
  | _ => True

variable {t : T} {op : Op T H I W} {instances : List I}

omit [LinearOrder T] [LinearOrder I] [DecidableEq H] in
lemma Settled.change {v v' : View H I W} (h : Settled v)
    (hchange : Change instances t op v v') : Settled v' := by
  cases hchange with
  | keep hopen hlease hroute =>
    constructor
    · rw [hopen, hlease]
      exact h.disarmed
    · rw [hopen, hlease]
      exact h.leased
  | renew hlive hexpired hsource hclosed hlease hroute
  | take hexpired hsource hclosed hlease hroute =>
    exact ⟨by simp [hclosed], fun _ => ⟨_, hlease⟩⟩
  | move hclosed hgate hroute =>
    constructor
    · rw [hgate]
      exact h.disarmed
    · rw [hgate]
      exact h.leased
  | resume hlive hopen hlease hroute =>
    refine ⟨?_, by simp [hopen]⟩
    intro _ live' hlive'
    rw [hlease] at hlive'
    cases hlive'
    rfl
  | finish hlive hopen hlease hback hkeep =>
    exact ⟨by simp [hlease], by simp [hopen]⟩

variable {c : Control T H I W} {home : I}

lemma settled_of_reachable (h : (system T H I W).Reachable c) (t : T) : Settled (c.view t) := by
  refine h.invariant (I := fun c => Settled (c.view t)) ?_ ?_
  · rintro c ⟨hgates, -⟩
    have hgate : (c.view t).gate = TenantGate.new := by
      simp only [view, gate, hgates, OrderedMap.get?_empty, Option.getD_none]
    constructor
    · rw [hgate]
      intro _ live hlive
      cases hlive
    · rw [hgate]
      intro hclosed
      cases hclosed
  · rintro c op c' - hsettled rfl
    exact hsettled.change (change c t op)

omit [LinearOrder T] [LinearOrder I] [DecidableEq H] in
/-- The call that closes the gate arms the rollback with the route of that moment,
or with none if it renews a lease already resumed. -/
lemma Armed.of_closing {v v' : View H I W} (h : Settled v)
    (hopen : v.gate.isOpen) (hchange : Change instances t op v v') : Armed v.route v' := by
  intro hclosed live source hlive hsource
  cases hchange with
  | keep hsame hlease hroute =>
    rw [hsame, hopen] at hclosed
    cases hclosed
  | renew hold hexpired hkept hclosed' hlease hroute =>
    rw [hlease] at hlive
    cases hlive
    rw [hkept, h.disarmed hopen _ hold] at hsource
    cases hsource
  | take hexpired htaken hclosed' hlease hroute =>
    rw [hlease] at hlive
    cases hlive
    rw [htaken] at hsource
    cases hsource
    rfl
  | move hclosed' hgate hroute =>
    rw [hopen] at hclosed'
    cases hclosed'
  | resume hold hopen' hlease hroute | finish hold hopen' hlease hback hkeep =>
    rw [hopen'] at hclosed
    cases hclosed

/-- Within a closed period an orderly call leaves every armed rollback leading to
the same instance. -/
lemma Armed.step (h : Armed home (c.view t))
    (hsettled : Settled (c.view t)) (hclosed : (c.gate t).isOpen = false)
    (horderly : Orderly t c op) : Armed home ((c.apply op).view t) := by
  have hchange := change c t op
  intro hclosed' live source hlive hsource
  generalize hv : c.view t = v at hchange
  generalize hv' : (c.apply op).view t = v' at hchange hclosed' hlive
  cases hchange with
  | keep hsame hlease hroute =>
    rw [hlease, ← hv] at hlive
    exact h hclosed live source hlive hsource
  | renew hold hexpired hkept hclosed'' hlease hroute =>
    rw [hlease] at hlive
    cases hlive
    rw [hkept] at hsource
    rw [← hv] at hold
    exact h hclosed _ source hold hsource
  | take hexpired htaken hclosed'' hlease hroute =>
    rw [hlease] at hlive
    cases hlive
    rw [htaken] at hsource
    cases hsource
    obtain ⟨old, hold⟩ := hsettled.leased hclosed
    -- the lease taken over is expired, so the run has kept its route
    have hexp := hexpired old (hv ▸ hold)
    have hroute' := horderly rfl hclosed old hold hexp
    rw [← hv]
    exact h hclosed old _ hold hroute'
  | move hclosed'' hgate hroute =>
    rw [hgate, ← hv] at hlive
    exact h hclosed live source hlive hsource
  | resume hold hopen hlease hroute | finish hold hopen hlease hback hkeep =>
    rw [hopen] at hclosed'
    cases hclosed'

/-- The call that opens the gate again without resuming puts the route back. -/
lemma Armed.route_of_opening (h : Armed home (c.view t)) (hclosed : (c.gate t).isOpen = false)
    {live : Lease H I} (hlive : (c.gate t).lease = some live) (hreversible : live.reversible)
    (hhome : home ∈ c.fleet.instances) (hopen : ((c.apply op).gate t).isOpen)
    (hresume : ∀ holder now delivers, op ≠ .resume t holder now delivers) :
    (c.apply op).fleet.route t = home := by
  have hchange := change c t op
  obtain ⟨source, hsource⟩ := Option.isSome_iff_exists.mp hreversible
  have hsourceHome : source = home := h hclosed live source hlive hsource
  change ((c.apply op).view t).route = home
  change ((c.apply op).view t).gate.isOpen = true at hopen
  change (c.view t).gate.isOpen = false at hclosed
  change (c.view t).gate.lease = some live at hlive
  generalize c.view t = v at hchange hclosed hlive
  generalize (c.apply op).view t = v' at hchange hopen ⊢
  cases hchange with
  | keep hsame hlease hroute =>
    rw [hsame, hclosed] at hopen
    cases hopen
  | renew hold hexpired hkept hclosed' hlease hroute
  | take hexpired htaken hclosed' hlease hroute =>
    rw [hclosed'] at hopen
    cases hopen
  | move hclosed' hgate hroute =>
    rw [hgate, hclosed] at hopen
    cases hopen
  | resume hold hopen' hlease hroute => exact absurd rfl (hresume _ _ _)
  | finish hold hopen' hlease hback hkeep =>
    rw [hlive] at hold
    cases hold
    exact hback home hhome (hsourceHome ▸ hsource)

/-- In every run that takes over expired leases in an orderly way, a closed period
that ends with its lease unresumed leaves the route it began with. -/
theorem unresumed_lease_restores_route (t : T) {q s₁ s e : Control T H I W}
    {first last : Op T H I W} {calls : List (Op T H I W)}
    (hq : ((system T H I W).restrict (Orderly t)).Reachable q) (hopen : (q.gate t).isOpen = true)
    (hclose : ((system T H I W).restrict (Orderly t)).step q first s₁)
    (hpath : (((system T H I W).restrict (Orderly t)).restrict
      fun c _ => (c.gate t).isOpen = false).Path s₁ calls s) (hclosed : (s.gate t).isOpen = false)
    (hunresumed : ∃ live, (s.gate t).lease = some live ∧ live.reversible = true)
    (hend : ((system T H I W).restrict (Orderly t)).step s last e)
    (hreopened : (e.gate t).isOpen = true)
    (hresume : ∀ holder now delivers, last ≠ .resume t holder now delivers) :
    e.fleet.route t = q.fleet.route t := by
  obtain ⟨-, rfl⟩ := hclose
  obtain ⟨-, rfl⟩ := hend
  obtain ⟨live, hlive, hreversible⟩ := hunresumed
  have hfirst : Armed (q.fleet.route t) ((q.apply first).view t) :=
    .of_closing (settled_of_reachable hq.of_restrict t) hopen (change q t first)
  -- the period's invariant: armed for the route at its start, and settled
  have hperiod : Armed (q.fleet.route t) (s.view t) ∧ Settled (s.view t) ∧
      s.fleet.instances = q.fleet.instances := by
    refine invariant (I := fun c => Armed (q.fleet.route t) (c.view t) ∧
      Settled (c.view t) ∧ c.fleet.instances = q.fleet.instances) ?_ hpath ?_
    · rintro c op c' ⟨harmed, hsettled, hinstances⟩ ⟨hshut, horderly, rfl⟩
      exact ⟨harmed.step hsettled hshut horderly, hsettled.change (change c t op),
        (instances_apply c op).trans hinstances⟩
    · exact ⟨hfirst, (settled_of_reachable hq.of_restrict t).change (change q t first),
        instances_apply q first⟩
  obtain ⟨harmed, -, hinstances⟩ := hperiod
  have hhome : q.fleet.route t ∈ s.fleet.instances := by
    rw [hinstances]
    exact q.fleet.route_mem t
  exact harmed.route_of_opening hclosed hlive hreversible hhome hreopened hresume

/-- **No gate stays closed for good.**  However the calls went, a closed gate has a lease, and
every sweep from its expiry on opens the gate and takes the route back. -/
theorem sweep_reopens (h : (system T H I W).Reachable c) (t : T)
    (hclosed : (c.gate t).isOpen = false) :
    ∃ live, (c.gate t).lease = some live ∧ ∀ now delivers, live.expires ≤ now →
      ((c.apply (.reap now delivers)).gate t).isOpen = true ∧
      ∀ source ∈ c.fleet.instances, live.source = some source →
        (c.apply (.reap now delivers)).fleet.route t = source := by
  obtain ⟨live, hlive⟩ := (settled_of_reachable h t).leased hclosed
  change (c.gate t).lease = some live at hlive
  refine ⟨live, hlive, fun now delivers hnow => ?_⟩
  have hlease : (c.gate t).reapLease now = some (live, { c.gate t with lease := none }) := by
    simp only [TenantGate.reapLease, hlive]
    exact if_pos (decide_eq_true hnow)
  constructor
  · rw [apply, gate_reapExpiredLeases, reaped, TenantGate.reap, hlease]
    exact (TenantGate.openGate_spec delivers _).1
  · intro source hmem hsource
    rw [apply, route_reapExpiredLeases, TenantGate.reap, hlease, ← route_rollBack hmem t,
      ← hsource]
    rfl

/-- Two instances, tenants on the first unless routed elsewhere. -/
def twoInstances : Control Nat Nat Nat Nat where
  fleet := ⟨[1, 2], 1, OrderedMap.empty, by decide⟩
  gates := OrderedMap.empty
  instanceGates := OrderedMap.empty
  config := ⟨10, 60⟩

/-- Holder 7 moves tenant 0 to instance 2 and gives up. -/
theorem unresumed_lease_restores_route_twoInstances :
    ((((twoInstances.apply (.quiesce 0 7 none 0)).apply (.setRoute 0 7 2 1)).apply
      (.unquiesce 0 7 2 fun _ => true)).fleet.route 0 = 1) ∧
    ((twoInstances.apply (.quiesce 0 7 none 0)).apply (.setRoute 0 7 2 1)).fleet.route 0 = 2 := by
  let closed := twoInstances.apply (.quiesce 0 7 none 0)
  let moved := closed.apply (.setRoute 0 7 2 1)
  have hclose : ((system Nat Nat Nat Nat).restrict (Orderly 0)).step twoInstances
      (.quiesce 0 7 none 0) closed := by
    refine ⟨?_, rfl⟩
    intro _ hclosed
    cases hclosed
  have hmove : (((system Nat Nat Nat Nat).restrict (Orderly 0)).restrict
      fun c _ => (c.gate 0).isOpen = false).Path closed ([] ++ [.setRoute 0 7 2 1]) moved :=
    snoc (.nil _) ⟨by decide, trivial, rfl⟩
  have hend : ((system Nat Nat Nat Nat).restrict (Orderly 0)).step moved
      (.unquiesce 0 7 2 fun _ => true) (moved.apply (.unquiesce 0 7 2 fun _ => true)) :=
    ⟨trivial, rfl⟩
  refine ⟨?_, by decide⟩
  exact unresumed_lease_restores_route 0 (.init ⟨rfl, rfl⟩) (by decide) hclose hmove
    (by decide) ⟨⟨7, 10, 10, some 1⟩, by decide, by decide⟩ hend (by decide) (by simp)

/-- Holder 7 closes tenant 0's gate and dies. -/
theorem sweep_reopens_twoInstances :
    let closed := twoInstances.apply (.quiesce 0 7 none 0)
    (closed.gate 0).isOpen = false ∧
      ((closed.apply (.reap 10 fun _ => true)).gate 0).isOpen = true := by
  intro closed
  have hclosed : (system Nat Nat Nat Nat).Reachable closed := .step (.init ⟨rfl, rfl⟩) rfl
  obtain ⟨live, hlive, hsweep⟩ := sweep_reopens hclosed 0 (by decide)
  cases hlive.symm.trans (by decide : _ = some (⟨7, 10, 10, some 1⟩ : Lease Nat Nat))
  exact ⟨by decide, (hsweep 10 _ (Nat.le_refl 10)).1⟩

/-- Holder 7 moves tenant 0 and dies; before the sweep comes round, holder 8 takes
the expired lease over and gives up.  The tenant stays on instance 2. -/
theorem taken_over_lease_keeps_moved_route :
    ∃ (s₁ s e : Control Nat Nat Nat Nat) (calls : List (Op Nat Nat Nat Nat)),
      (system Nat Nat Nat Nat).Reachable twoInstances ∧ (twoInstances.gate 0).isOpen = true ∧
      (system Nat Nat Nat Nat).step twoInstances (.quiesce 0 7 none 0) s₁ ∧
      ((system Nat Nat Nat Nat).restrict fun c _ => (c.gate 0).isOpen = false).Path s₁ calls s ∧
      (s.gate 0).isOpen = false ∧ (∃ live, (s.gate 0).lease = some live ∧ live.reversible = true) ∧
      (system Nat Nat Nat Nat).step s (.unquiesce 0 8 21 fun _ => true) e ∧
      (e.gate 0).isOpen = true ∧ e.fleet.route 0 ≠ twoInstances.fleet.route 0 := by
  refine ⟨_, _, _, [.setRoute 0 7 2 1] ++ [.quiesce 0 8 none 20],
    System.Reachable.init ⟨rfl, rfl⟩, by decide, rfl,
    snoc (snoc (.nil _) ⟨by decide, rfl⟩) ⟨by decide, rfl⟩,
    by decide, ⟨⟨8, 10, 30, some 2⟩, by decide, by decide⟩, rfl, by decide, by decide⟩

end PgElastic.Proxy.Control
