import PgElastic.Proxy.Gate

/-!
# The control plane: leases and routes

The routing table (`Fleet`) and the control API (`Control`) of `pgelastic-proxy`,
call by call.  A cutover quiesces a tenant, moves its route while its clients are
held, and either resumes (the move is committed) or ends its lease unresumed, by
`unquiesce` or by expiry, in which case the route is to go back.

`View` is what one tenant sees of the control plane: its gate and its route.
`Control.change` says once what each call can do to it.
-/

namespace PgElastic.Proxy

open Library Option OrderedMap TenantGate List

/-- The instances the proxy fronts and the tenant routing table.  The default
instance is validated at start-up. -/
structure Fleet (T I : Type) [LinearOrder T] where
  instances : List I
  defaultInstance : I
  routes : OrderedMap T I
  default_mem : defaultInstance ∈ instances

namespace Fleet

variable {T I : Type} [LinearOrder T] [DecidableEq I]

/-- Which instance a tenant's next transaction goes to. -/
def route (fleet : Fleet T I) (tenant : T) : I :=
  let id := (fleet.routes.get? tenant).getD fleet.defaultInstance
  if id ∈ fleet.instances then id else fleet.defaultInstance

/-- Points a tenant at another instance, returning the entry it replaces. -/
def setRoute (fleet : Fleet T I) (tenant : T) (target : I) : Option (I × Fleet T I) :=
  if target ∈ fleet.instances then
    some ((fleet.routes.get? tenant).getD fleet.defaultInstance,
      { fleet with routes := fleet.routes.insert tenant target })
  else none

/-- Which of `known` the proxy would route to an instance. -/
def tenantsOn (fleet : Fleet T I) (target : I) (known : List T) : List T :=
  if target ∈ fleet.instances then
    known.filter fun tenant =>
      match fleet.routes.get? tenant with
      | some id =>
        if id ∈ fleet.instances then decide (id = target)
        else decide (fleet.defaultInstance = target)
      | none => decide (fleet.defaultInstance = target)
  else []

/-- The published routes the proxy can follow: those that name an instance it fronts. -/
def wantedRoutes (fleet : Fleet T I) (table : OrderedMap T I) : OrderedMap T I :=
  table.filter fun _ id => decide (id ∈ fleet.instances)

/-- A tenant is always routed to an instance the proxy fronts. -/
lemma route_mem (fleet : Fleet T I) (tenant : T) : fleet.route tenant ∈ fleet.instances := by
  simp only [route]
  split
  · assumption
  · exact fleet.default_mem

variable {fleet fleet' : Fleet T I} {tenant : T} {target previous : I}

lemma setRoute_some (h : fleet.setRoute tenant target = some (previous, fleet')) :
    target ∈ fleet.instances ∧
      fleet' = { fleet with routes := fleet.routes.insert tenant target } := by
  unfold setRoute at h
  split at h
  · cases h
    exact ⟨‹_›, rfl⟩
  · cases h

/-- Moving one tenant moves that tenant and no other. -/
lemma route_setRoute (h : fleet.setRoute tenant target = some (previous, fleet')) (other : T) :
    fleet'.route other = if other = tenant then target else fleet.route other := by
  obtain ⟨hmem, rfl⟩ := setRoute_some h
  unfold route
  by_cases hother : other = tenant
  · simp [hother, hmem]
  · simp [get?_insert_of_ne _ _ hother, hother]

end Fleet

/-- Lease lengths of the control API. -/
structure ControlConfig where
  defaultLeaseTtl : Nat
  maxLeaseTtl : Nat
  deriving DecidableEq, Repr

/-- What `drainStatus` answers. -/
structure DrainStatus (T H I : Type) where
  tenant : T
  routed : I
  quiesced : Bool
  inFlight : Nat
  queued : Nat
  drained : Bool
  holder : Option H
  leaseExpiresIn : Option Nat
  deriving DecidableEq, Repr

/-- What `instanceDrainStatus` answers. -/
structure InstanceDrainStatus (T H I : Type) where
  name : I
  quiesced : Bool
  tenants : List T
  inFlight : Nat
  queued : Nat
  drained : Bool
  holder : Option H
  leaseExpiresIn : Option Nat
  deriving DecidableEq, Repr

/-- Everything the control API mutates: the fleet and the gates created so far. -/
structure Control (T H I W : Type) [LinearOrder T] [LinearOrder I] where
  fleet : Fleet T I
  gates : OrderedMap T (TenantGate H I W)
  instanceGates : OrderedMap I (TenantGate H I W)
  config : ControlConfig

namespace Control

variable {T H I W : Type} [LinearOrder T] [LinearOrder I] [DecidableEq H]

/-- The tenant's gate, created on first use. -/
def gate (c : Control T H I W) (tenant : T) : TenantGate H I W :=
  (c.gates.get? tenant).getD TenantGate.new

def instanceGate (c : Control T H I W) (name : I) : TenantGate H I W :=
  (c.instanceGates.get? name).getD TenantGate.new

def putGate (c : Control T H I W) (tenant : T) (gate : TenantGate H I W) : Control T H I W :=
  { c with gates := c.gates.insert tenant gate }

def putInstanceGate (c : Control T H I W) (name : I) (gate : TenantGate H I W) :
    Control T H I W :=
  { c with instanceGates := c.instanceGates.insert name gate }

def drainStatus (c : Control T H I W) (tenant : T) (now : Nat) : DrainStatus T H I :=
  match c.gates.get? tenant with
  | none => ⟨tenant, c.fleet.route tenant, false, 0, 0, false, none, none⟩
  | some gate =>
    { tenant := tenant
      routed := c.fleet.route tenant
      quiesced := !gate.isOpen
      inFlight := gate.inFlight
      queued := gate.queued
      drained := gate.drained
      holder := gate.lease.map (·.holder)
      leaseExpiresIn := gate.lease.map (·.expiresIn now) }

/-- Closes a tenant's gate under a lease. -/
def quiesce (c : Control T H I W) (tenant : T) (holder : H) (ttl : Option Nat) (now : Nat) :
    Except (QuiesceError H I) (DrainStatus T H I) × Control T H I W :=
  let ttl := ttl.getD c.config.defaultLeaseTtl
  let gate := c.gate tenant
  match gate.quiesce holder ttl c.config.maxLeaseTtl (c.fleet.route tenant) now with
  | .error e => (.error e, c.putGate tenant gate)
  | .ok (_, closed) =>
    let c := c.putGate tenant closed
    (.ok (c.drainStatus tenant now), c)

/-- Moves a held tenant to another instance. -/
def setRoute (c : Control T H I W) (tenant : T) (holder : H) (target : I) (now : Nat) :
    Except (QuiesceError H I) I × Control T H I W :=
  let gate := c.gate tenant
  let c := c.putGate tenant gate
  match gate.assertHeld holder now with
  | .error e => (.error e, c)
  | .ok () =>
    match c.fleet.setRoute tenant target with
    | none => (.error (.noSuchInstance target), c)
    | some (_, fleet) => (.ok target, { c with fleet := fleet })

/-- Opens the gate and commits the current route. -/
def resume (c : Control T H I W) (tenant : T) (holder : H) (now : Nat) (delivers : W → Bool) :
    Except (QuiesceError H I) Nat × Control T H I W :=
  let gate := c.gate tenant
  match gate.resume delivers holder now with
  | .error e => (.error e, c.putGate tenant gate)
  | .ok (released, _, opened) => (.ok released, c.putGate tenant opened)

/-- `fleet.set_route(tenant, source)` for a rollback; its refusal is ignored. -/
def rollBack (fleet : Fleet T I) (tenant : T) (rollback : Option I) : Fleet T I :=
  match rollback with
  | none => fleet
  | some source => ((fleet.setRoute tenant source).map (·.2)).getD fleet

/-- Releases the lease, rolling the route back if nothing was committed. -/
def unquiesce (c : Control T H I W) (tenant : T) (holder : H) (now : Nat)
    (delivers : W → Bool) : Except (QuiesceError H I) I × Control T H I W :=
  let gate := c.gate tenant
  match gate.unquiesce delivers holder now with
  | .error e => (.error e, c.putGate tenant gate)
  | .ok (rollback, _, opened) =>
    let c := { c.putGate tenant opened with fleet := rollBack c.fleet tenant rollback }
    (.ok (c.fleet.route tenant), c)

/-- Sums the drain over every tenant the instance serves. -/
def instanceDrainStatus (c : Control T H I W) (name : I) (now : Nat) :
    InstanceDrainStatus T H I :=
  let tenants := c.fleet.tenantsOn name (c.gates.entries.map (·.1))
  let gate := c.instanceGate name
  let served := tenants.filterMap c.gates.get?
  let inFlight := (served.map (·.inFlight)).sum
  { name := name
    quiesced := !gate.isOpen
    tenants := tenants
    inFlight := inFlight
    queued := gate.queued + (served.map (·.queued)).sum
    drained := !gate.isOpen && inFlight == 0
    holder := gate.lease.map (·.holder)
    leaseExpiresIn := gate.lease.map (·.expiresIn now) }

/-- Closes an instance's gate under a lease of its own. -/
def quiesceInstance (c : Control T H I W) (name : I) (holder : H) (ttl : Option Nat)
    (now : Nat) : Except (QuiesceError H I) (InstanceDrainStatus T H I) × Control T H I W :=
  if name ∈ c.fleet.instances then
    let ttl := ttl.getD c.config.defaultLeaseTtl
    let gate := c.instanceGate name
    match gate.quiesce holder ttl c.config.maxLeaseTtl name now with
    | .error e => (.error e, c.putInstanceGate name gate)
    | .ok (_, closed) =>
      let c := c.putInstanceGate name closed
      (.ok (c.instanceDrainStatus name now), c)
  else (.error (.noSuchInstance name), c)

/-- Opens the instance's gate. -/
def resumeInstance (c : Control T H I W) (name : I) (holder : H) (now : Nat)
    (delivers : W → Bool) : Except (QuiesceError H I) Nat × Control T H I W :=
  let gate := c.instanceGate name
  match gate.resume delivers holder now with
  | .error e => (.error e, c.putInstanceGate name gate)
  | .ok (released, _, opened) => (.ok released, c.putInstanceGate name opened)

/-- Releases the instance lease.  The rollback is discarded: no tenant was moved. -/
def unquiesceInstance (c : Control T H I W) (name : I) (holder : H) (now : Nat)
    (delivers : W → Bool) : Except (QuiesceError H I) Unit × Control T H I W :=
  let gate := c.instanceGate name
  match gate.unquiesce delivers holder now with
  | .error e => (.error e, c.putInstanceGate name gate)
  | .ok (_, _, opened) => (.ok (), c.putInstanceGate name opened)

/-- One gate after a sweep. -/
def reaped (now : Nat) (delivers : W → Bool) (gate : TenantGate H I W) : TenantGate H I W :=
  ((gate.reap delivers now).map (·.2.2)).getD gate

/-- What a sweep reports: the leases that had expired. -/
def reapExpired (c : Control T H I W) (now : Nat) (delivers : W → Bool) :
    List (T × Expired H I) :=
  c.gates.entries.filterMap fun entry =>
    (entry.2.reap delivers now).map fun result => (entry.1, result.1)

/-- Applies whatever lease expiry implies, for every tenant and instance. -/
def reapExpiredLeases (c : Control T H I W) (now : Nat) (delivers : W → Bool) :
    Control T H I W :=
  { c with
    gates := c.gates.mapValues fun _ gate => reaped now delivers gate
    instanceGates := c.instanceGates.mapValues fun _ gate => reaped now delivers gate
    fleet := (c.reapExpired now delivers).foldl
      (fun fleet expiry => rollBack fleet expiry.1 expiry.2.rollback) c.fleet }

/-- One control-plane call with its clock reading. -/
inductive Op (T H I W : Type)
  | quiesce (tenant : T) (holder : H) (ttl : Option Nat) (now : Nat)
  | setRoute (tenant : T) (holder : H) (target : I) (now : Nat)
  | resume (tenant : T) (holder : H) (now : Nat) (delivers : W → Bool)
  | unquiesce (tenant : T) (holder : H) (now : Nat) (delivers : W → Bool)
  | quiesceInstance (name : I) (holder : H) (ttl : Option Nat) (now : Nat)
  | resumeInstance (name : I) (holder : H) (now : Nat) (delivers : W → Bool)
  | unquiesceInstance (name : I) (holder : H) (now : Nat) (delivers : W → Bool)
  | reap (now : Nat) (delivers : W → Bool)

/-- The state a call leaves. -/
def apply (c : Control T H I W) : Op T H I W → Control T H I W
  | .quiesce tenant holder ttl now => (c.quiesce tenant holder ttl now).2
  | .setRoute tenant holder target now => (c.setRoute tenant holder target now).2
  | .resume tenant holder now delivers => (c.resume tenant holder now delivers).2
  | .unquiesce tenant holder now delivers => (c.unquiesce tenant holder now delivers).2
  | .quiesceInstance name holder ttl now => (c.quiesceInstance name holder ttl now).2
  | .resumeInstance name holder now delivers => (c.resumeInstance name holder now delivers).2
  | .unquiesceInstance name holder now delivers =>
    (c.unquiesceInstance name holder now delivers).2
  | .reap now delivers => c.reapExpiredLeases now delivers

/-- The control plane as a transition system: no gate exists at the start, and any
call with any arguments may come next. -/
def system (T H I W : Type) [LinearOrder T] [LinearOrder I] [DecidableEq H] :
    System (Control T H I W) (Op T H I W) where
  init := fun c => c.gates = OrderedMap.empty ∧ c.instanceGates = OrderedMap.empty
  step := fun c op c' => c.apply op = c'

/-! ### What a call can do to one tenant -/

/-- The part of the control plane one tenant depends on. -/
structure View (H I W : Type) where
  gate : TenantGate H I W
  route : I

/-- What tenant `t` sees. -/
def view (c : Control T H I W) (t : T) : View H I W := ⟨c.gate t, c.fleet.route t⟩

/-- The tenant's view changes in one of six ways. -/
inductive Change (instances : List I) (t : T) : Op T H I W → View H I W → View H I W → Prop
  | keep {op : Op T H I W} {v v' : View H I W} :
      v'.gate.isOpen = v.gate.isOpen → v'.gate.lease = v.gate.lease → v'.route = v.route →
      Change instances t op v v'
  | renew {v v' : View H I W} {live taken : Lease H I} {ttl : Option Nat} {now : Nat} :
      v.gate.lease = some live → live.expired now = false → taken.source = live.source →
      v'.gate.isOpen = false → v'.gate.lease = some taken → v'.route = v.route →
      Change instances t (.quiesce t live.holder ttl now) v v'
  | take {v v' : View H I W} {taken : Lease H I} {ttl : Option Nat} {now : Nat} :
      (∀ live, v.gate.lease = some live → live.expired now = true) →
      taken.source = some v.route →
      v'.gate.isOpen = false → v'.gate.lease = some taken → v'.route = v.route →
      Change instances t (.quiesce t taken.holder ttl now) v v'
  | move {v v' : View H I W} {holder : H} {target : I} {now : Nat} :
      v.gate.isOpen = false → v'.gate = v.gate → v'.route = target →
      Change instances t (.setRoute t holder target now) v v'
  | resume {v v' : View H I W} {live : Lease H I} {now : Nat} {delivers : W → Bool} :
      v.gate.lease = some live → v'.gate.isOpen = true →
      v'.gate.lease = some { live with source := none } → v'.route = v.route →
      Change instances t (.resume t live.holder now delivers) v v'
  | finish {op : Op T H I W} {v v' : View H I W} {live : Lease H I} :
      v.gate.lease = some live → v'.gate.isOpen = true → v'.gate.lease = none →
      (∀ source ∈ instances, live.source = some source → v'.route = source) →
      (live.source = none → v'.route = v.route) →
      Change instances t op v v'

section Frame

omit [DecidableEq H]

lemma gate_putGate (c : Control T H I W) (tenant t : T) (g : TenantGate H I W) :
    (c.putGate tenant g).gate t = if t = tenant then g else c.gate t := by
  unfold gate putGate
  rw [get?_insert]
  split <;> rfl

lemma gate_putGate_self (c : Control T H I W) (t : T) (g : TenantGate H I W) :
    (c.putGate t g).gate t = g := by
  rw [gate_putGate, if_pos rfl]

/-- Creating a gate on first use is not observable. -/
lemma gate_putGate_gate (c : Control T H I W) (tenant t : T) :
    (c.putGate tenant (c.gate tenant)).gate t = c.gate t := by
  rw [gate_putGate]
  split
  · rename_i h
    rw [h]
  · rfl

lemma instances_rollBack (fleet : Fleet T I) (tenant : T) (rollback : Option I) :
    (rollBack fleet tenant rollback).instances = fleet.instances := by
  cases rollback with
  | none => rfl
  | some source =>
    simp only [rollBack]
    cases h : fleet.setRoute tenant source with
    | none => rfl
    | some result =>
      obtain ⟨-, heq⟩ := Fleet.setRoute_some h
      simp [heq]

variable {t : T}

lemma route_rollBack_of_ne (fleet : Fleet T I) {tenant : T} (h : t ≠ tenant) (rollback : Option I) :
    (rollBack fleet tenant rollback).route t = fleet.route t := by
  cases rollback with
  | none => rfl
  | some source =>
    simp only [rollBack]
    cases hset : fleet.setRoute tenant source with
    | none => rfl
    | some result =>
      have hroute := Fleet.route_setRoute hset t
      rw [if_neg h] at hroute
      exact hroute

/-- A rollback to an instance the proxy fronts takes effect. -/
lemma route_rollBack {fleet : Fleet T I} {source : I} (h : source ∈ fleet.instances) (t : T) :
    (rollBack fleet t (some source)).route t = source := by
  have hset : fleet.setRoute t source = some ((fleet.routes.get? t).getD fleet.defaultInstance,
      { fleet with routes := fleet.routes.insert t source }) := by
    simp only [Fleet.setRoute, if_pos h]
  simp only [rollBack, hset]
  have hroute := Fleet.route_setRoute hset t
  rw [if_pos rfl] at hroute
  exact hroute

lemma instances_rollBacks (list : List (T × Expired H I)) : ∀ fleet : Fleet T I,
      (list.foldl (fun fleet expiry => rollBack fleet expiry.1 expiry.2.rollback)
        fleet).instances = fleet.instances := by
  induction list with
  | nil => intro fleet; rfl
  | cons expiry rest ih =>
    intro fleet
    rw [foldl_cons, ih, instances_rollBack]

variable {list : List (T × Expired H I)}

/-- The rollbacks of other tenants leave what each of them leaves. -/
lemma rollBacks_of_not_mem {A : Type} (view : Fleet T I → A)
    (hview : ∀ fleet {tenant}, t ≠ tenant → ∀ rollback,
      view (rollBack fleet tenant rollback) = view fleet) :
    ∀ fleet : Fleet T I, (∀ expiry ∈ list, expiry.1 ≠ t) →
      view (list.foldl (fun fleet expiry => rollBack fleet expiry.1 expiry.2.rollback) fleet) =
        view fleet := by
  induction list with
  | nil => intro fleet _; rfl
  | cons expiry rest ih =>
    intro fleet h
    have hhead : t ≠ expiry.1 := Ne.symm (h expiry mem_cons_self)
    rw [foldl_cons, ih _ fun other hother => h other (mem_cons_of_mem _ hother)]
    exact hview fleet hhead expiry.2.rollback

variable {expiry : Expired H I}

/-- A sweep that reports a tenant once moves its route by that report alone. -/
lemma route_rollBacks_of_mem :
    ∀ fleet : Fleet T I, list.Pairwise (fun first second => first.1 < second.1) →
      (t, expiry) ∈ list →
      (list.foldl (fun fleet expiry => rollBack fleet expiry.1 expiry.2.rollback)
        fleet).route t = (rollBack fleet t expiry.rollback).route t := by
  induction list with
  | nil => intro fleet _ h; cases h
  | cons head rest ih =>
    intro fleet hsorted hmem
    obtain ⟨hhead, hrest⟩ := pairwise_cons.mp hsorted
    rw [foldl_cons]
    rcases mem_cons.mp hmem with rfl | hmem
    · exact rollBacks_of_not_mem (·.route _) route_rollBack_of_ne _ fun other hother => ne_of_gt (hhead other hother)
    have hne : t ≠ head.1 := ne_of_gt (hhead _ hmem)
    rw [ih _ hrest hmem]
    cases hroll : expiry.rollback with
    | none => exact route_rollBack_of_ne fleet hne head.2.rollback
    | some source =>
      by_cases hsource : source ∈ fleet.instances
      · rw [route_rollBack hsource]
        exact route_rollBack (by rwa [instances_rollBack]) t
      have hrefused : ∀ other : Fleet T I, other.instances = fleet.instances →
          rollBack other t (some source) = other := by
        intro other hother
        simp [rollBack, Fleet.setRoute, hother, hsource]
      rw [hrefused _ (instances_rollBack _ _ _), hrefused fleet rfl]
      exact route_rollBack_of_ne fleet hne head.2.rollback

lemma gate_reapExpiredLeases (c : Control T H I W) (now : Nat) (delivers : W → Bool) (t : T) :
    (c.reapExpiredLeases now delivers).gate t = reaped now delivers (c.gate t) := by
  unfold gate reapExpiredLeases
  simp only [get?_mapValues]
  cases c.gates.get? t with
  | none => rfl
  | some g => rfl

variable {c : Control T H I W}

/-- A sweep reports exactly the gates whose lease has expired. -/
lemma mem_reapExpired {now : Nat} {delivers : W → Bool} : (t, expiry) ∈ c.reapExpired now delivers ↔
      ∃ result, (c.gate t).reap delivers now = some result ∧ result.1 = expiry := by
  unfold reapExpired gate
  simp only [mem_filterMap, map_eq_some_iff, Prod.mk.injEq, Prod.exists]
  constructor
  · rintro ⟨k, g, hentry, e, woken, opened, hreap, rfl, rfl⟩
    rw [(c.gates.mem_entries_iff k g).mp hentry]
    exact ⟨e, woken, opened, hreap, rfl⟩
  rintro ⟨e, woken, opened, hreap, rfl⟩
  cases hget : c.gates.get? t with
  | none => rw [hget] at hreap; cases hreap
  | some g =>
    rw [hget] at hreap
    exact ⟨t, g, (c.gates.mem_entries_iff t g).mpr hget, e, woken, opened, hreap, rfl, rfl⟩

lemma reapExpired_sorted (c : Control T H I W) (now : Nat) (delivers : W → Bool) :
    (c.reapExpired now delivers).Pairwise fun first second => first.1 < second.1 := by
  unfold reapExpired
  refine List.Pairwise.filterMap _ ?_ c.gates.sorted
  intro first second hlt a ha b hb
  simp only [map_eq_some_iff] at ha hb
  obtain ⟨_, -, rfl⟩ := ha
  obtain ⟨_, -, rfl⟩ := hb
  exact hlt

/-- A sweep rolls a tenant's route back if, and as, its own lease says. -/
lemma route_reapExpiredLeases (c : Control T H I W) (now : Nat) (delivers : W → Bool) (t : T) :
    (c.reapExpiredLeases now delivers).fleet.route t =
      ((c.gate t).reap delivers now).elim (c.fleet.route t)
        fun result => (rollBack c.fleet t result.1.rollback).route t := by
  cases hreap : (c.gate t).reap delivers now with
  | none =>
    refine rollBacks_of_not_mem (·.route t) route_rollBack_of_ne c.fleet ?_
    rintro ⟨tenant, expiry⟩ hmem rfl
    obtain ⟨result, hresult, -⟩ := mem_reapExpired.mp hmem
    rw [hreap] at hresult
    cases hresult
  | some result =>
    exact route_rollBacks_of_mem c.fleet (reapExpired_sorted c now delivers)
      (mem_reapExpired.mpr ⟨result, hreap, rfl⟩)

variable {op : Op T H I W}

/-- A lease that ends unresumed rolls the route back. -/
lemma Change.rolledBack {v' : View H I W} {live : Lease H I}
    (hlive : (c.gate t).lease = some live) (hopen : v'.gate.isOpen)
    (hlease : v'.gate.lease = none) (hroute : v'.route = (rollBack c.fleet t live.source).route t) :
    Change c.fleet.instances t op (c.view t) v' := by
  refine .finish hlive hopen hlease ?_ ?_
  · intro source hmem hsource
    rw [hroute, hsource]
    exact route_rollBack hmem t
  · intro hsource
    rw [hroute, hsource]
    rfl

/-- A sweep ends the tenant's lease or leaves the tenant alone. -/
lemma reap_change (c : Control T H I W) (t : T) (now : Nat) (delivers : W → Bool) :
    Change c.fleet.instances t (.reap now delivers) (c.view t)
      ((c.reapExpiredLeases now delivers).view t) := by
  have hgate : ((c.reapExpiredLeases now delivers).view t).gate =
      reaped now delivers (c.gate t) := gate_reapExpiredLeases c now delivers t
  have hroute : ((c.reapExpiredLeases now delivers).view t).route = _ :=
    route_reapExpiredLeases c now delivers t
  cases hreap : (c.gate t).reap delivers now with
  | none =>
    have hsame : reaped now delivers (c.gate t) = c.gate t := by simp [reaped, hreap]
    rw [hsame] at hgate
    rw [hreap] at hroute
    exact .keep (by rw [hgate]; rfl) (by rw [hgate]; rfl) hroute
  | some result =>
    obtain ⟨expiry, woken, opened⟩ := result
    have hopened : reaped now delivers (c.gate t) = opened := by simp [reaped, hreap]
    rw [hopened] at hgate
    rw [hreap, elim_some] at hroute
    obtain ⟨⟨live, dropped⟩, hlease, hresult⟩ := map_eq_some_iff.mp hreap
    cases hresult
    obtain ⟨hlive, -, rfl⟩ := reapLease_some hlease
    obtain ⟨hopen, hnone⟩ := openGate_spec delivers
      { c.gate t with lease := (none : Option (Lease H I)) }
    exact .rolledBack hlive (hgate ▸ hopen) (hgate ▸ hnone) hroute

variable {c c' : Control T H I W}

/-- A call that leaves the tenant's gate and route alone. -/
lemma Change.of_same (hgate : c'.gate t = c.gate t) (hroute : c'.fleet.route t = c.fleet.route t) :
    Change c.fleet.instances t op (c.view t) (c'.view t) :=
  Change.keep (congrArg TenantGate.isOpen hgate) (congrArg TenantGate.lease hgate) hroute

/-- A refused call creates the gate of its tenant at most. -/
lemma Change.refused (tenant : T) (hstate : c' = c.putGate tenant (c.gate tenant)) :
    Change c.fleet.instances t op (c.view t) (c'.view t) := by
  rw [hstate]
  exact .of_same (gate_putGate_gate c tenant t) rfl

end Frame

section

variable (c : Control T H I W)
include c

lemma quiesce_change (t tenant : T) (holder : H) (ttl : Option Nat) (now : Nat) :
    Change c.fleet.instances t (.quiesce tenant holder ttl now) (c.view t)
      ((c.quiesce tenant holder ttl now).2.view t) := by
  cases hquiesce : (c.gate tenant).quiesce holder (ttl.getD c.config.defaultLeaseTtl)
      c.config.maxLeaseTtl (c.fleet.route tenant) now with
  | error e => exact .refused tenant (by simp only [quiesce, hquiesce])
  | ok result =>
    obtain ⟨taken, closed⟩ := result
    have hstate : (c.quiesce tenant holder ttl now).2 = c.putGate tenant closed := by
      simp only [quiesce, hquiesce]
    rw [hstate]
    have hgate := gate_putGate c tenant t closed
    by_cases ht : t = tenant
    · subst ht
      rw [if_pos rfl] at hgate
      obtain ⟨htaken, hclosed, hlease⟩ := quiesce_ok hquiesce
      rw [← hgate] at hclosed hlease
      obtain ⟨rfl, ⟨live, hlive, hholder, hexpired, hsource⟩ | ⟨hexpired, hsource⟩⟩ :=
        takenLease_cases htaken
      · rw [← hholder]
        exact .renew hlive hexpired hsource hclosed hlease rfl
      · exact .take hexpired hsource hclosed hlease rfl
    · rw [if_neg ht] at hgate
      exact .of_same hgate rfl

lemma setRoute_change (t tenant : T) (holder : H) (target : I) (now : Nat) :
    Change c.fleet.instances t (.setRoute tenant holder target now) (c.view t)
      ((c.setRoute tenant holder target now).2.view t) := by
  have hgate := gate_putGate_gate c tenant t
  cases hheld : (c.gate tenant).assertHeld holder now with
  | error e => exact .refused tenant (by simp only [setRoute, hheld])
  | ok u =>
    cases hset : (c.putGate tenant (c.gate tenant)).fleet.setRoute tenant target with
    | none => exact .refused tenant (by simp only [setRoute, hheld, hset])
    | some result =>
      have hstate : (c.setRoute tenant holder target now).2 =
          { c.putGate tenant (c.gate tenant) with fleet := result.2 } := by
        simp only [setRoute, hheld, hset]
      rw [hstate]
      have hroute := Fleet.route_setRoute hset t
      by_cases ht : t = tenant
      · subst ht
        rw [if_pos rfl] at hroute
        exact .move (assertHeld_ok hheld).1 hgate hroute
      · rw [if_neg ht] at hroute
        exact .of_same hgate hroute

lemma resume_change (t tenant : T) (holder : H) (now : Nat) (delivers : W → Bool) :
    Change c.fleet.instances t (.resume tenant holder now delivers) (c.view t)
      ((c.resume tenant holder now delivers).2.view t) := by
  cases hcommit : (c.gate tenant).commitLease holder now with
  | error e =>
    exact .refused tenant (by simp only [resume, TenantGate.resume, hcommit, Except.map])
  | ok committed =>
    have hstate : (c.resume tenant holder now delivers).2 =
        c.putGate tenant (committed.openGate delivers).2.2 := by
      simp only [resume, TenantGate.resume, hcommit, Except.map]
    rw [hstate]
    have hgate := gate_putGate c tenant t (committed.openGate delivers).2.2
    by_cases ht : t = tenant
    · subst ht
      rw [if_pos rfl] at hgate
      obtain ⟨live, hlive, rfl, rfl⟩ := commitLease_ok hcommit
      obtain ⟨hopen, hlease⟩ := openGate_spec delivers
        { c.gate t with lease := some { live with source := none } }
      rw [← hgate] at hopen hlease
      exact .resume hlive hopen hlease rfl
    · rw [if_neg ht] at hgate
      exact .of_same hgate rfl

lemma unquiesce_of_dropLease {tenant : T} {holder : H} {now : Nat} {rollback : Option I}
    {dropped : TenantGate H I W} (h : (c.gate tenant).dropLease holder now = .ok (rollback, dropped))
    (delivers : W → Bool) :
    (c.unquiesce tenant holder now delivers).2 =
      { c.putGate tenant (dropped.openGate delivers).2.2 with
        fleet := rollBack c.fleet tenant rollback } := by
  simp only [unquiesce, TenantGate.unquiesce, h, Except.map]

lemma unquiesce_change (t tenant : T) (holder : H) (now : Nat) (delivers : W → Bool) :
    Change c.fleet.instances t (.unquiesce tenant holder now delivers) (c.view t)
      ((c.unquiesce tenant holder now delivers).2.view t) := by
  cases hdrop : (c.gate tenant).dropLease holder now with
  | error e =>
    exact .refused tenant (by simp only [unquiesce, TenantGate.unquiesce, hdrop, Except.map])
  | ok result =>
    obtain ⟨rollback, dropped⟩ := result
    rw [unquiesce_of_dropLease c hdrop]
    have hgate := gate_putGate c tenant t (dropped.openGate delivers).2.2
    by_cases ht : t = tenant
    · subst ht
      rw [if_pos rfl] at hgate
      obtain ⟨live, hlive, -, rfl, rfl⟩ := dropLease_ok hdrop
      obtain ⟨hopen, hlease⟩ := openGate_spec delivers
        { c.gate t with lease := (none : Option (Lease H I)) }
      rw [← hgate] at hopen hlease
      exact .rolledBack hlive hopen hlease rfl
    · rw [if_neg ht] at hgate
      exact .of_same hgate (route_rollBack_of_ne c.fleet ht rollback)

/-- What a call can do to a tenant. -/
lemma change (t : T) (op : Op T H I W) :
    Change c.fleet.instances t op (c.view t) ((c.apply op).view t) := by
  have keep : ∀ {op : Op T H I W} {v : View H I W}, v = c.view t →
      Change c.fleet.instances t op (c.view t) v := by
    rintro op v rfl
    exact .keep rfl rfl rfl
  cases op with
  | quiesce tenant holder ttl now => exact quiesce_change c t tenant holder ttl now
  | setRoute tenant holder target now => exact setRoute_change c t tenant holder target now
  | resume tenant holder now delivers => exact resume_change c t tenant holder now delivers
  | unquiesce tenant holder now delivers =>
    exact unquiesce_change c t tenant holder now delivers
  -- calls on an instance's gate reach no tenant's gate or route
  | quiesceInstance name holder ttl now =>
    refine keep ?_
    simp only [apply, quiesceInstance]
    split
    · split <;> rfl
    · rfl
  | resumeInstance name holder now delivers =>
    refine keep ?_
    simp only [apply, resumeInstance]
    split <;> rfl
  | unquiesceInstance name holder now delivers =>
    refine keep ?_
    simp only [apply, unquiesceInstance]
    split <;> rfl
  | reap now delivers => exact reap_change c t now delivers

/-- No call changes which instances are fronted. -/
lemma instances_apply (op : Op T H I W) : (c.apply op).fleet.instances = c.fleet.instances := by
  cases op with
  | quiesce tenant holder ttl now =>
    simp only [apply, quiesce]
    split <;> rfl
  | setRoute tenant holder target now =>
    simp only [apply, setRoute]
    split
    · rfl
    split
    · rfl
    · rename_i hset
      obtain ⟨-, rfl⟩ := Fleet.setRoute_some hset
      rfl
  | resume tenant holder now delivers =>
    simp only [apply, resume]
    split <;> rfl
  | unquiesce tenant holder now delivers =>
    simp only [apply, unquiesce]
    split
    · rfl
    · exact instances_rollBack _ _ _
  | quiesceInstance name holder ttl now =>
    simp only [apply, quiesceInstance]
    split
    · split <;> rfl
    · rfl
  | resumeInstance name holder now delivers =>
    simp only [apply, resumeInstance]
    split <;> rfl
  | unquiesceInstance name holder now delivers =>
    simp only [apply, unquiesceInstance]
    split <;> rfl
  | reap now delivers => exact instances_rollBacks _ c.fleet

end

end Control
end PgElastic.Proxy
