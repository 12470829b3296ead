import PgElastic.Library.OrderedMap
import PgElastic.Library.Transition

/-!
# Pool and tenant configuration

The capacity configuration of `pgelastic-capacity`: tenant and pool
specifications, their validation, and `checkReservations`, the admission-time
check that the sum of the guarantees fits below the pool's headroom.

Tenant names are an arbitrary linearly ordered type `T`: the source only compares
them.  Machine counters are natural numbers.  Ratios keep the source's clamped
denominator and are compared by cross multiplication.
-/

namespace PgElastic.Capacity

open Library List

/-- How a pooled backend is shared between clients. -/
inductive PoolMode
  | session
  | transaction
  | statement
  deriving DecidableEq, Repr

/-- Cross-tenant queue ordering. -/
inductive AdmissionStrategy
  | weightedDeficit
  | fifo
  deriving DecidableEq, Repr

/-- An exact non-negative rational; `Ratio.new` clamps a zero denominator. -/
structure Ratio where
  numerator : Nat
  denominator : Nat
  deriving DecidableEq, Repr

namespace Ratio

def new (numerator denominator : Nat) : Ratio :=
  ⟨numerator, if denominator = 0 then 1 else denominator⟩

/-- `left > right`, by cross multiplication. -/
def gt (left right : Ratio) : Bool :=
  decide (right.numerator * left.denominator < left.numerator * right.denominator)

end Ratio

def maxWeight : Nat := 10000

def maxPriority : Nat := 1000000

def maxHeadroomPercent : Nat := 50

/-- Ceiling on the per-tenant cancel credit pool, before the `burstable` clamp. -/
def cancelCreditCap : Nat := 8

/-- A tenant's effective capacity claim. -/
structure TenantSpec where
  guaranteed : Nat
  burstable : Nat
  weight : Nat
  priority : Nat
  maxClientConnections : Nat
  storageBytes : Nat
  deriving DecidableEq, Repr

/-- The pool's capacity envelope. -/
structure PoolSpec where
  backendConnections : Nat
  headroomPercent : Nat
  maxClientConnections : Nat
  maxOversubscription : Option Ratio
  mode : PoolMode
  fdBudget : Option Nat
  deriving DecidableEq, Repr

/-- Queue shape and admission deadlines; `maxWait` is in clock units. -/
structure AdmissionSpec where
  strategy : AdmissionStrategy
  queueDepthPerTenant : Nat
  maxWait : Nat
  deriving DecidableEq, Repr

/-- Which ceiling a rejected shrink was trying to lower. -/
inductive ShrinkScope
  | poolCapacity
  | tenantBurstable
  deriving DecidableEq, Repr

/-- Why a configuration was rejected. -/
inductive ConfigError (T : Type)
  | overCommitted (reserved allocatable : Nat)
  | burstBelowGuarantee (tenant : T) (guaranteed burstable : Nat)
  | oversubscribed (observed max : Ratio)
  | headroomOutOfRange (headroomPercent : Nat)
  | weightOutOfRange (tenant : T) (weight : Nat)
  | priorityOutOfRange (tenant : T) (priority : Nat)
  | zeroCapacity
  | duplicateTenant (tenant : T)
  | unknownTenant (tenant : T)
  | shrinkBelowLive (scope : ShrinkScope) (target live : Nat)
  deriving DecidableEq, Repr

/-- The pool ledger a successful check reports. -/
structure Reservations where
  total : Nat
  allocatable : Nat
  reserved : Nat
  available : Nat
  committedBurst : Nat
  oversubscription : Ratio
  deriving DecidableEq, Repr

namespace TenantSpec

/-- In session mode a client pins a backend for its whole session, so the client
limit cannot exceed the burst ceiling. -/
def effectiveMaxClientConnections (spec : TenantSpec) (mode : PoolMode) : Nat :=
  match mode with
  | .session =>
    if spec.maxClientConnections > spec.burstable then spec.burstable
    else spec.maxClientConnections
  | _ => spec.maxClientConnections

def validate {T : Type} (spec : TenantSpec) (tenant : T) : Except (ConfigError T) Unit :=
  if spec.burstable < spec.guaranteed then
    .error (.burstBelowGuarantee tenant spec.guaranteed spec.burstable)
  else if spec.weight = 0 ∨ spec.weight > maxWeight then
    .error (.weightOutOfRange tenant spec.weight)
  else if spec.priority > maxPriority then
    .error (.priorityOutOfRange tenant spec.priority)
  else .ok ()

end TenantSpec

namespace PoolSpec

/-- `total × (1 − headroomPercent/100)`, floored. -/
def allocatable (spec : PoolSpec) : Nat :=
  spec.backendConnections * (100 - spec.headroomPercent) / 100

def effectiveMaxClientConnections (spec : PoolSpec) : Nat :=
  match spec.fdBudget with
  | some fds => min spec.maxClientConnections fds
  | none => spec.maxClientConnections

def validate (T : Type) (spec : PoolSpec) : Except (ConfigError T) Unit :=
  if spec.backendConnections = 0 then .error .zeroCapacity
  else if spec.headroomPercent > maxHeadroomPercent then
    .error (.headroomOutOfRange spec.headroomPercent)
  else .ok ()

end PoolSpec

/-- The loop of `check_reservations`: validates every tenant in turn and sums
guarantees and burst ceilings. -/
def sumReservations {T : Type} :
    List (T × TenantSpec) → Nat → Nat → Except (ConfigError T) (Nat × Nat)
  | [], reserved, committedBurst => .ok (reserved, committedBurst)
  | (id, spec) :: rest, reserved, committedBurst => do
      spec.validate id
      sumReservations rest (reserved + spec.guaranteed) (committedBurst + spec.burstable)

/-- The admission-time invariant `Σ guaranteed ≤ total × (1 − headroom)`. -/
def checkReservations {T : Type} (pool : PoolSpec) (tenants : List (T × TenantSpec)) :
    Except (ConfigError T) Reservations := do
  pool.validate T
  let (reserved, committedBurst) ← sumReservations tenants 0 0
  let allocatable := pool.allocatable
  if reserved > allocatable then
    .error (.overCommitted reserved allocatable)
  else
    let oversubscription := Ratio.new committedBurst allocatable
    let ledger : Reservations :=
      { total := pool.backendConnections
        allocatable := allocatable
        reserved := reserved
        available := allocatable - reserved
        committedBurst := committedBurst
        oversubscription := oversubscription }
    match pool.maxOversubscription with
    | some max =>
      if oversubscription.gt max then .error (.oversubscribed oversubscription max)
      else .ok ledger
    | none => .ok ledger

/-- What `check_reservations` checks. -/
structure Accepts {T : Type} (pool : PoolSpec) (tenants : List (T × TenantSpec)) : Prop where
  envelope : pool.validate T = .ok ()
  row : ∀ entry ∈ tenants, entry.2.validate entry.1 = .ok ()
  fits : (tenants.map fun entry => entry.2.guaranteed).sum ≤ pool.allocatable
  ratio : ∀ max, pool.maxOversubscription = some max →
    (Ratio.new (tenants.map fun entry => entry.2.burstable).sum pool.allocatable).gt max = false

variable {T : Type} {pool : PoolSpec} {tenants others : List (T × TenantSpec)}

lemma Accepts.perm (h : Accepts pool tenants) (hperm : tenants ~ others) : Accepts pool others where
  envelope := h.envelope
  row := fun entry hentry => h.row entry (hperm.mem_iff.mpr hentry)
  fits := (hperm.map fun entry => entry.2.guaranteed).sum_eq ▸ h.fits
  ratio := (hperm.map fun entry => entry.2.burstable).sum_eq ▸ h.ratio

/-- Fewer tenants are accepted where more are. -/
lemma Accepts.sublist
    (h : Accepts pool tenants) (hsub : others.Sublist tenants) : Accepts pool others where
  envelope := h.envelope
  row := fun entry hentry => h.row entry (hsub.subset hentry)
  fits := ((hsub.map _).sum_le_sum fun _ _ => Nat.zero_le _).trans h.fits
  ratio := by
    intro max hmax
    have hless := (hsub.map fun entry => entry.2.burstable).sum_le_sum fun _ _ => Nat.zero_le _
    have hratio := Nat.not_lt.mp (of_decide_eq_false (h.ratio max hmax))
    exact decide_eq_false (Nat.not_lt.mpr ((Nat.mul_le_mul_right _ hless).trans hratio))

/-- The ledger of a pool with the given sums. -/
def PoolSpec.reservations (pool : PoolSpec) (reserved committedBurst : Nat) : Reservations where
  total := pool.backendConnections
  allocatable := pool.allocatable
  reserved := reserved
  available := pool.allocatable - reserved
  committedBurst := committedBurst
  oversubscription := Ratio.new committedBurst pool.allocatable

/-- The loop completes when it has validated every tenant, and sums both columns. -/
lemma sumReservations_iff :
    ∀ {tenants : List (T × TenantSpec)} {reserved burst : Nat} {sums : Nat × Nat},
      sumReservations tenants reserved burst = .ok sums ↔
        (∀ entry ∈ tenants, entry.2.validate entry.1 = .ok ()) ∧
        sums = (reserved + (tenants.map fun entry => entry.2.guaranteed).sum,
          burst + (tenants.map fun entry => entry.2.burstable).sum) := by
  intro tenants
  induction tenants with
  | nil => simp [sumReservations, eq_comm]
  | cons entry rest ih =>
    obtain ⟨id, spec⟩ := entry
    intro reserved burst sums
    cases hvalid : spec.validate id with
    | error e => simp [sumReservations, hvalid, bind, Except.bind]
    | ok u => simp [sumReservations, hvalid, bind, Except.bind, ih, add_assoc]

/-- A configuration is accepted exactly when every check passes, and the ledger is that of
the sums. -/
lemma checkReservations_iff {ledger : Reservations} :
    checkReservations pool tenants = .ok ledger ↔ Accepts pool tenants ∧
      ledger = pool.reservations (tenants.map fun entry => entry.2.guaranteed).sum
        (tenants.map fun entry => entry.2.burstable).sum := by
  constructor
  · intro h
    unfold checkReservations at h
    obtain ⟨u, hpool, h⟩ := ok_of_bind h
    obtain ⟨sums, hsum, h⟩ := ok_of_bind h
    obtain ⟨hrow, rfl⟩ := sumReservations_iff.mp hsum
    simp only [zero_add] at h
    grind [PoolSpec.reservations, Accepts]
  · rintro ⟨⟨hpool, hrow, hfits, hratio⟩, rfl⟩
    have hsum : sumReservations tenants 0 0 = .ok _ := sumReservations_iff.mpr ⟨hrow, rfl⟩
    simp only [checkReservations, hpool, hsum, bind, Except.bind, zero_add]
    grind [PoolSpec.reservations]

end PgElastic.Capacity
