import PgElastic.Capacity.Config

/-!
# The per-pool capacity budget

`CapacityBudget` holds the pool envelope, one entry for each tenant and four
incrementally maintained totals.  Every operation of the source that subtracts
from an unsigned total or unwraps a table entry is modelled in `Option`: the
value `none` stands for the underflow, or for the failed `expect`, that would
stop the program there.

`CapacityBudget.Consistent` says that the four totals are the sums they
summarise.  The lemmas of this module show that each operation keeps it and that
none of them can end in `none` while it holds.
-/

namespace PgElastic.Capacity

open Library Option OrderedMap List

/-- Unsigned subtraction: `none` where the source would underflow. -/
def checkedSub (a b : Nat) : Option Nat := if b ≤ a then some (a - b) else none

lemma checkedSub_of_le {a b : Nat} (h : b ≤ a) : checkedSub a b = some (a - b) := by
  simp [checkedSub, h]

/-- Takes one off a counter when a condition holds. -/
def decrementIf (condition : Bool) (n : Nat) : Option Nat :=
  if condition then checkedSub n 1 else some n

lemma decrementIf_eq_some {condition : Bool} {n m : Nat} :
    decrementIf condition n = some m ↔ m + (if condition then 1 else 0) = n := by
  unfold decrementIf checkedSub
  cases condition with
  | false => simp [eq_comm]
  | true =>
    by_cases h : 1 ≤ n
    · simp only [if_true, if_pos h, some.injEq]
      omega
    · simp only [if_true, if_neg h, reduceCtorEq, false_iff]
      omega

/-- One row of the budget's per-tenant table. -/
structure TenantEntry where
  spec : TenantSpec
  live : Nat
  deriving DecidableEq, Repr

namespace TenantEntry

def guaranteed (entry : TenantEntry) : Nat := entry.spec.guaranteed

def burstable (entry : TenantEntry) : Nat := entry.spec.burstable

def weight (entry : TenantEntry) : Nat := entry.spec.weight

def priority (entry : TenantEntry) : Nat := entry.spec.priority

/-- How far the tenant is above its guarantee: what revocation may take. -/
def surplus (entry : TenantEntry) : Nat := entry.live - entry.spec.guaranteed

/-- How far the tenant is below its guarantee: the primary fairness key. -/
def deficit (entry : TenantEntry) : Nat := entry.spec.guaranteed - entry.live

end TenantEntry

open TenantEntry

/-- Total, headroom and the per-tenant table. -/
structure CapacityBudget (T : Type) [LinearOrder T] where
  spec : PoolSpec
  tenants : OrderedMap T TenantEntry
  reserved : Nat
  committedBurst : Nat
  liveTotal : Nat
  surplusTotal : Nat

namespace CapacityBudget

variable {T : Type} [LinearOrder T]

def new (spec : PoolSpec) : Except (ConfigError T) (CapacityBudget T) := do
  spec.validate T
  .ok { spec := spec
        tenants := OrderedMap.empty
        reserved := 0
        committedBurst := 0
        liveTotal := 0
        surplusTotal := 0 }

def total (b : CapacityBudget T) : Nat := b.spec.backendConnections

def allocatable (b : CapacityBudget T) : Nat := b.spec.allocatable

/-- `total − reserved − surplusTotal`, both subtractions saturating. -/
def free (b : CapacityBudget T) : Nat := b.total - b.reserved - b.surplusTotal

def tenant (b : CapacityBudget T) (id : T) : Option TenantEntry := b.tenants.get? id

def contains (b : CapacityBudget T) (id : T) : Bool := (b.tenants.get? id).isSome

/-- `check_reservations` over the present tenants, with one replaced or one
added. -/
def checkWith (b : CapacityBudget T) (added replaced : Option (T × TenantSpec)) :
    Except (ConfigError T) Reservations :=
  let existing := b.tenants.entries.map fun entry =>
    match replaced with
    | some (target, spec) => if target = entry.1 then (entry.1, spec) else (entry.1, entry.2.spec)
    | none => (entry.1, entry.2.spec)
  checkReservations b.spec (existing ++ added.toList)

def insertTenant (b : CapacityBudget T) (id : T) (spec : TenantSpec) :
    Except (ConfigError T) (CapacityBudget T) :=
  if b.contains id then .error (.duplicateTenant id)
  else do
    let _ ← b.checkWith (some (id, spec)) none
    .ok { b with
          tenants := b.tenants.insert id { spec := spec, live := 0 }
          reserved := b.reserved + spec.guaranteed
          committedBurst := b.committedBurst + spec.burstable }

def updateTenant (b : CapacityBudget T) (id : T) (spec : TenantSpec) :
    Option (Except (ConfigError T) (CapacityBudget T)) :=
  match b.tenants.get? id with
  | none => some (.error (.unknownTenant id))
  | some entry =>
    if spec.burstable < entry.live then
      some (.error (.shrinkBelowLive .tenantBurstable spec.burstable entry.live))
    else
      match b.checkWith none (some (id, spec)) with
      | .error e => some (.error e)
      | .ok _ => do
          let reserved ← checkedSub b.reserved entry.spec.guaranteed
          let committedBurst ← checkedSub b.committedBurst entry.spec.burstable
          let surplusTotal ← checkedSub b.surplusTotal entry.surplus
          let updated : TenantEntry := { entry with spec := spec }
          some (.ok { b with
                      tenants := b.tenants.insert id updated
                      reserved := reserved + spec.guaranteed
                      committedBurst := committedBurst + spec.burstable
                      surplusTotal := surplusTotal + updated.surplus })

def removeTenant (b : CapacityBudget T) (id : T) :
    Option (Except (ConfigError T) (TenantEntry × CapacityBudget T)) :=
  match b.tenants.get? id with
  | none => some (.error (.unknownTenant id))
  | some entry => do
      let reserved ← checkedSub b.reserved entry.spec.guaranteed
      let committedBurst ← checkedSub b.committedBurst entry.spec.burstable
      let surplusTotal ← checkedSub b.surplusTotal entry.surplus
      let liveTotal ← checkedSub b.liveTotal entry.live
      some (.ok (entry, { b with
                          tenants := b.tenants.erase id
                          reserved := reserved
                          committedBurst := committedBurst
                          liveTotal := liveTotal
                          surplusTotal := surplusTotal }))

def setPoolSpec (b : CapacityBudget T) (spec : PoolSpec) :
    Except (ConfigError T) (CapacityBudget T) := do
  spec.validate T
  if spec.backendConnections < b.liveTotal then
    .error (.shrinkBelowLive .poolCapacity spec.backendConnections b.liveTotal)
  else
    let _ ← checkReservations spec (b.tenants.entries.map fun entry => (entry.1, entry.2.spec))
    .ok { b with spec := spec }

def incLive (b : CapacityBudget T) (id : T) : Option (CapacityBudget T) := do
  let entry ← b.tenants.get? id
  let updated : TenantEntry := { entry with live := entry.live + 1 }
  let gained ← checkedSub updated.surplus entry.surplus
  some { b with
         tenants := b.tenants.insert id updated
         surplusTotal := b.surplusTotal + gained
         liveTotal := b.liveTotal + 1 }

def decLive (b : CapacityBudget T) (id : T) : Option (CapacityBudget T) := do
  let entry ← b.tenants.get? id
  let live ← checkedSub entry.live 1
  let updated : TenantEntry := { entry with live := live }
  let lost ← checkedSub entry.surplus updated.surplus
  let surplusTotal ← checkedSub b.surplusTotal lost
  let liveTotal ← checkedSub b.liveTotal 1
  some { b with
         tenants := b.tenants.insert id updated
         surplusTotal := surplusTotal
         liveTotal := liveTotal }

/-- The four running totals are the sums over the tenant table. -/
structure Consistent (b : CapacityBudget T) : Prop where
  reserved : b.reserved = sumOf (fun _ entry => entry.guaranteed) b.tenants
  committedBurst : b.committedBurst = sumOf (fun _ entry => entry.burstable) b.tenants
  liveTotal : b.liveTotal = sumOf (fun _ entry => entry.live) b.tenants
  surplusTotal : b.surplusTotal = sumOf (fun _ entry => entry.surplus) b.tenants

/-- The tenants as `check_reservations` reads them. -/
def specRows (m : OrderedMap T TenantEntry) : List (T × TenantSpec) :=
  m.entries.map fun entry => (entry.1, entry.2.spec)

/-- The limits the configuration checks and the admission ladder enforce. -/
structure Bounded (b : CapacityBudget T) : Prop where
  live_le_total : b.liveTotal ≤ b.total
  live_le_burstable : ∀ id entry, b.tenants.get? id = some entry → entry.live ≤ entry.burstable
  accepted : Accepts b.spec (specRows b.tenants)

variable {id : T} {entry : TenantEntry} {b b' : CapacityBudget T} {live : Nat}

/-- Replacing one present row moves a sum by exactly the change of that row. -/
lemma sumOf_insert_present (f : T → TenantEntry → Nat) (m : OrderedMap T TenantEntry)
    (updated : TenantEntry) (h : m.get? id = some entry) :
    sumOf f (m.insert id updated) + f id entry = sumOf f m + f id updated := by
  have hbalance := sumOf_insert f m id updated
  simpa only [h, elim_some] using hbalance

/-- A row is replaced consistently when each total moves by the row's own
change. -/
lemma Consistent.replace (hc : b.Consistent) (updated : TenantEntry)
    (h : b.tenants.get? id = some entry) (ht : b'.tenants = b.tenants.insert id updated)
    (hr : b'.reserved + entry.guaranteed = b.reserved + updated.guaranteed)
    (hb : b'.committedBurst + entry.burstable = b.committedBurst + updated.burstable)
    (hl : b'.liveTotal + entry.live = b.liveTotal + updated.live)
    (hs : b'.surplusTotal + entry.surplus = b.surplusTotal + updated.surplus) : b'.Consistent := by
  have hreserved := sumOf_insert_present (fun _ e => e.guaranteed) b.tenants updated h
  have hburst := sumOf_insert_present (fun _ e => e.burstable) b.tenants updated h
  have hlive := sumOf_insert_present (fun _ e => e.live) b.tenants updated h
  have hsurplus := sumOf_insert_present (fun _ e => e.surplus) b.tenants updated h
  rw [← ht] at hreserved hburst hlive hsurplus
  rw [← hc.reserved] at hreserved
  rw [← hc.committedBurst] at hburst
  rw [← hc.liveTotal] at hlive
  rw [← hc.surplusTotal] at hsurplus
  constructor
  · omega
  · omega
  · omega
  · omega

/-- A present row contributes to every total. -/
lemma Consistent.row_le (hc : b.Consistent) (h : b.tenants.get? id = some entry) :
    entry.guaranteed ≤ b.reserved ∧ entry.burstable ≤ b.committedBurst ∧
      entry.live ≤ b.liveTotal ∧ entry.surplus ≤ b.surplusTotal := by
  rw [hc.reserved, hc.committedBurst, hc.liveTotal, hc.surplusTotal]
  exact ⟨le_sumOf (f := fun _ e => guaranteed e) h, le_sumOf (f := fun _ e => burstable e) h,
    le_sumOf (f := fun _ e => live e) h,
    le_sumOf (f := fun _ e => surplus e) h⟩

lemma new_ok {spec : PoolSpec} (h : new spec = .ok b) :
    b.Consistent ∧ b.Bounded ∧ b.tenants = OrderedMap.empty := by
  unfold new at h
  obtain ⟨u, hvalid, ⟨⟩⟩ := ok_of_bind h
  refine ⟨⟨rfl, rfl, rfl, rfl⟩, ⟨Nat.zero_le _, ?_, hvalid, ?_, Nat.zero_le _, ?_⟩, rfl⟩
  · intro id entry hentry
    simp at hentry
  · intro entry hentry
    cases hentry
  · intro max _
    simp [specRows, OrderedMap.empty, Ratio.gt, Ratio.new]

/-- `b'` is the ledger `b` after the live count of one present row was set. -/
structure Recounts (b : CapacityBudget T) (id : T) (entry : TenantEntry) (live : Nat)
    (b' : CapacityBudget T) : Prop where
  consistent : b'.Consistent
  spec : b'.spec = b.spec
  tenants : ∀ key, b'.tenants.get? key =
    if key = id then some { entry with live := live } else b.tenants.get? key
  liveTotal : b'.liveTotal + entry.live = b.liveTotal + live
  reserved : b'.reserved = b.reserved
  surplusTotal : b'.surplusTotal + entry.surplus =
    b.surplusTotal + ({ entry with live := live } : TenantEntry).surplus

/-- A ledger recounts every present row as it is. -/
lemma Consistent.recounts_self (hc : b.Consistent) (h : b.tenants.get? id = some entry) :
    b.Recounts id entry entry.live b := by
  refine ⟨hc, rfl, ?_, rfl, rfl, rfl⟩
  intro key
  by_cases hkey : key = id
  · rw [if_pos hkey, hkey]
    exact h
  · rw [if_neg hkey]

/-- Counting one more live connection needs only the tenant's row. -/
lemma incLive_spec (hc : b.Consistent) (h : b.tenants.get? id = some entry) :
    ∃ b', b.incLive id = some b' ∧ b.Recounts id entry (entry.live + 1) b' := by
  let updated : TenantEntry := { entry with live := entry.live + 1 }
  have hgain : entry.surplus ≤ updated.surplus := by
    change entry.live - entry.spec.guaranteed ≤ entry.live + 1 - entry.spec.guaranteed
    omega
  have heq : b.incLive id = some { b with
      tenants := b.tenants.insert id updated
      surplusTotal := b.surplusTotal + (updated.surplus - entry.surplus)
      liveTotal := b.liveTotal + 1 } := by
    simp only [incLive, h, bind_eq_bind, bind_some]
    rw [show checkedSub _ entry.surplus = _ from checkedSub_of_le hgain]
    rfl
  have hlive : b.liveTotal + 1 + entry.live = b.liveTotal + (entry.live + 1) := by omega
  have hsurplus : b.surplusTotal + (updated.surplus - entry.surplus) + entry.surplus =
      b.surplusTotal + updated.surplus := by omega
  refine ⟨_, heq, ?_, rfl, ?_, hlive, rfl, hsurplus⟩
  · exact hc.replace updated h rfl rfl rfl hlive hsurplus
  · intro key
    exact get?_insert b.tenants id key updated

/-- Counting one fewer live connection needs the row to count at least one. -/
lemma decLive_spec (hc : b.Consistent) (h : b.tenants.get? id = some entry)
    (hone : 1 ≤ entry.live) :
    ∃ b', b.decLive id = some b' ∧ b.Recounts id entry (entry.live - 1) b' := by
  let updated : TenantEntry := { entry with live := entry.live - 1 }
  obtain ⟨-, -, hliveTotal, hsurplusTotal⟩ := hc.row_le h
  have hlost : updated.surplus ≤ entry.surplus := by
    change entry.live - 1 - entry.spec.guaranteed ≤ entry.live - entry.spec.guaranteed
    omega
  have htaken : entry.surplus - updated.surplus ≤ b.surplusTotal := by omega
  have htotal : 1 ≤ b.liveTotal := by omega
  have heq : b.decLive id = some { b with
      tenants := b.tenants.insert id updated
      surplusTotal := b.surplusTotal - (entry.surplus - updated.surplus)
      liveTotal := b.liveTotal - 1 } := by
    simp only [decLive, h, checkedSub_of_le hone, bind_eq_bind, bind_some]
    rw [show checkedSub entry.surplus _ = _ from checkedSub_of_le hlost]
    simp only [bind_some]
    rw [show checkedSub b.surplusTotal _ = _ from checkedSub_of_le htaken]
    simp only [checkedSub_of_le htotal, bind_some]
    rfl
  have hlive : b.liveTotal - 1 + entry.live = b.liveTotal + (entry.live - 1) := by omega
  have hsurplus : b.surplusTotal - (entry.surplus - updated.surplus) + entry.surplus =
      b.surplusTotal + updated.surplus := by omega
  refine ⟨_, heq, ?_, rfl, ?_, hlive, rfl, hsurplus⟩
  · exact hc.replace updated h rfl rfl rfl hlive hsurplus
  · intro key
    exact get?_insert b.tenants id key updated

/-- The guarantees listed for `check_reservations` are the table's own column. -/
lemma sum_specRows (m : OrderedMap T TenantEntry) :
    ((specRows m).map fun entry => entry.2.guaranteed).sum =
      sumOf (fun _ entry => entry.guaranteed) m := by
  rw [specRows, List.map_map]
  rfl

lemma Bounded.guaranteed_le_burstable (hb : b.Bounded) (id : T) (entry : TenantEntry)
    (h : b.tenants.get? id = some entry) : entry.guaranteed ≤ entry.burstable := by
  have hrow := hb.accepted.row (id, entry.spec)
    (List.mem_map.mpr ⟨(id, entry), (b.tenants.mem_entries_iff id entry).mpr h, rfl⟩)
  unfold TenantSpec.validate at hrow
  split at hrow
  · cases hrow
  · exact Nat.le_of_not_lt ‹_›

/-- Replacing one tenant's specification in the listing is replacing its row in
the table. -/
lemma specRows_insert_present (m : OrderedMap T TenantEntry) (spec : TenantSpec)
    (h : m.get? id = some entry) :
    specRows (m.insert id { entry with spec := spec }) =
      m.entries.map fun row => if id = row.1 then (row.1, spec) else (row.1, row.2.spec) := by
  have hmap : m.insert id { entry with spec := spec } =
      m.mapValues fun key row => if id = key then { row with spec := spec } else row := by
    refine ext_get? fun other => ?_
    rw [get?_insert, get?_mapValues]
    by_cases hother : other = id
    · simp [hother, h]
    · simp [hother, Ne.symm hother]
  rw [hmap, specRows, mapValues, List.map_map]
  refine map_congr_left fun row _ => ?_
  simp only [Function.comp_apply]
  split <;> rfl

/-- A recount within the tenant's ceiling and the pool's total keeps the limits. -/
lemma Recounts.bounded (h : b.Recounts id entry live b') (hb : b.Bounded)
    (hentry : b.tenants.get? id = some entry) (hceiling : live ≤ entry.burstable)
    (htotal : b'.liveTotal ≤ b.total) : b'.Bounded := by
  have hmap : b'.tenants =
      b.tenants.mapValues fun key row => if key = id then { row with live := live } else row := by
    refine ext_get? fun key => ?_
    rw [h.tenants, get?_mapValues]
    by_cases hkey : key = id
    · simp [hkey, hentry]
    · simp [hkey]
  have hrows : specRows b'.tenants = specRows b.tenants := by
    rw [hmap, specRows, mapValues, List.map_map]
    refine map_congr_left fun row _ => ?_
    simp only [Function.comp_apply]
    split <;> rfl
  refine ⟨?_, ?_, ?_⟩
  · rw [total, h.spec]
    exact htotal
  · intro key row hrow
    rw [h.tenants key] at hrow
    split at hrow
    · cases hrow
      exact hceiling
    · exact hb.live_le_burstable key row hrow
  · rw [h.spec, hrows]
    exact hb.accepted

/-- A new tenant adds its row. -/
lemma specRows_insert_absent {m : OrderedMap T TenantEntry} (spec : TenantSpec)
    (h : m.get? id = none) : specRows (m.insert id ⟨spec, 0⟩) ~ specRows m ++ [(id, spec)] := by
  have hperm := (perm_erase (m.get?_insert_self id ⟨spec, 0⟩)).map fun row => (row.1, row.2.spec)
  rw [erase_insert, erase_of_get?_eq_none h, map_cons] at hperm
  exact hperm.trans (perm_append_singleton _ _).symm

variable {spec : TenantSpec}

/-- An accepted new tenant starts without connections, and its guarantee still
fits. -/
lemma insertTenant_ok (hc : b.Consistent) (h : b.insertTenant id spec = .ok b') :
    b.tenants.get? id = none ∧ b'.spec = b.spec ∧
      b'.tenants = b.tenants.insert id { spec := spec, live := 0 } ∧
      b'.liveTotal = b.liveTotal ∧ b'.Consistent ∧ (b.Bounded → b'.Bounded) := by
  unfold insertTenant at h
  split at h
  · cases h
  rename_i hnew
  have hnone : b.tenants.get? id = none := by
    simpa [contains] using hnew
  obtain ⟨ledger, hcheck, ⟨⟩⟩ := ok_of_bind h
  have haccepts : Accepts b.spec (specRows b.tenants ++ [(id, spec)]) :=
    (checkReservations_iff.mp hcheck).1
  have hreserved := sumOf_insert (fun _ e => guaranteed e) b.tenants id { spec := spec, live := 0 }
  have hburst := sumOf_insert (fun _ e => burstable e) b.tenants id { spec := spec, live := 0 }
  have hlive := sumOf_insert (fun _ e => live e) b.tenants id { spec := spec, live := 0 }
  have hsurplus := sumOf_insert (fun _ e => surplus e) b.tenants id { spec := spec, live := 0 }
  simp only [hnone, elim_none, add_zero] at hreserved hburst hlive hsurplus
  refine ⟨hnone, rfl, rfl, rfl, ⟨?_, ?_, ?_, ?_⟩, ?_⟩
  · rw [hreserved, ← hc.reserved]
    rfl
  · rw [hburst, ← hc.committedBurst]
    rfl
  · rw [hlive, ← hc.liveTotal]
  · rw [hsurplus, ← hc.surplusTotal]
    simp [surplus]
  intro hb
  refine ⟨hb.live_le_total, ?_, haccepts.perm (specRows_insert_absent spec hnone).symm⟩
  intro key row hrow
  simp only [get?_insert] at hrow
  split at hrow
  · cases hrow
    exact Nat.zero_le _
  · exact hb.live_le_burstable key row hrow

/-- Re-specifying a tenant never underflows, and what is accepted keeps the
ledger and its limits. -/
lemma updateTenant_spec (hc : b.Consistent) (id : T) (spec : TenantSpec) :
    ∃ result, b.updateTenant id spec = some result ∧
      ∀ b', result = .ok b' → ∃ entry, b.tenants.get? id = some entry ∧
        b'.spec = b.spec ∧ b'.tenants = b.tenants.insert id { entry with spec := spec } ∧
        b'.liveTotal = b.liveTotal ∧ b'.Consistent ∧ (b.Bounded → b'.Bounded) := by
  unfold updateTenant
  cases hrow : b.tenants.get? id with
  | none =>
    refine ⟨_, rfl, ?_⟩
    intro b' hb'
    cases hb'
  | some entry =>
    simp only
    split
    · refine ⟨_, rfl, ?_⟩
      intro b' hb'
      cases hb'
    rename_i hshrink
    cases hcheck : b.checkWith none (some (id, spec)) with
    | error e =>
      refine ⟨_, rfl, ?_⟩
      intro b' hb'
      cases hb'
    | ok ledger =>
      obtain ⟨hg, hbu, hl, hs⟩ := hc.row_le hrow
      have hreserved : checkedSub b.reserved entry.spec.guaranteed =
          some (b.reserved - entry.spec.guaranteed) := checkedSub_of_le hg
      have hburst : checkedSub b.committedBurst entry.spec.burstable =
          some (b.committedBurst - entry.spec.burstable) := checkedSub_of_le hbu
      simp only [hreserved, hburst, checkedSub_of_le hs, bind_eq_bind, bind_some]
      refine ⟨_, rfl, ?_⟩
      intro b' hb'
      cases hb'
      have hconsistent : CapacityBudget.Consistent { b with
          tenants := b.tenants.insert id { entry with spec := spec }
          reserved := b.reserved - entry.spec.guaranteed + spec.guaranteed
          committedBurst := b.committedBurst - entry.spec.burstable + spec.burstable
          surplusTotal := b.surplusTotal - entry.surplus +
            ({ entry with spec := spec } : TenantEntry).surplus } := by
        simp only [guaranteed] at hg
        simp only [burstable] at hbu
        refine hc.replace { entry with spec := spec } hrow rfl ?_ ?_ rfl ?_
        · simp only [guaranteed]
          omega
        · simp only [burstable]
          omega
        · simp only
          omega
      refine ⟨entry, rfl, rfl, rfl, rfl, hconsistent, ?_⟩
      intro hb
      refine ⟨hb.live_le_total, ?_, ?_⟩
      · intro key row hkey
        simp only [get?_insert] at hkey
        split at hkey
        · cases hkey
          exact Nat.le_of_not_lt hshrink
        · exact hb.live_le_burstable key row hkey
      · simp only [checkWith, toList_none, append_nil] at hcheck
        rw [← specRows_insert_present b.tenants spec hrow] at hcheck
        exact (checkReservations_iff.mp hcheck).1

/-- Removing a tenant never underflows: its row was part of every total. -/
lemma removeTenant_spec (hc : b.Consistent) (h : b.tenants.get? id = some entry) :
    ∃ b', b.removeTenant id = some (.ok (entry, b')) ∧ b'.spec = b.spec ∧
      b'.tenants = b.tenants.erase id ∧ b'.liveTotal + entry.live = b.liveTotal ∧
      b'.Consistent ∧ (b.Bounded → b'.Bounded) := by
  obtain ⟨hg, hbu, hl, hs⟩ := hc.row_le h
  have hreserved := sumOf_erase (fun _ e => guaranteed e) b.tenants id
  have hburst := sumOf_erase (fun _ e => burstable e) b.tenants id
  have hlive := sumOf_erase (fun _ e => live e) b.tenants id
  have hsurplus := sumOf_erase (fun _ e => surplus e) b.tenants id
  simp only [h, elim_some] at hreserved hburst hlive hsurplus
  rw [← hc.reserved] at hreserved
  rw [← hc.committedBurst] at hburst
  rw [← hc.liveTotal] at hlive
  rw [← hc.surplusTotal] at hsurplus
  have heq : b.removeTenant id = some (.ok (entry, { b with
      tenants := b.tenants.erase id
      reserved := b.reserved - entry.guaranteed
      committedBurst := b.committedBurst - entry.burstable
      liveTotal := b.liveTotal - entry.live
      surplusTotal := b.surplusTotal - entry.surplus })) := by
    unfold removeTenant
    rw [h]
    change (do
      let reserved ← checkedSub b.reserved entry.guaranteed
      let committedBurst ← checkedSub b.committedBurst entry.burstable
      let surplusTotal ← checkedSub b.surplusTotal entry.surplus
      let liveTotal ← checkedSub b.liveTotal entry.live
      some (Except.ok (entry, { b with
                          tenants := b.tenants.erase id
                          reserved := reserved
                          committedBurst := committedBurst
                          liveTotal := liveTotal
                          surplusTotal := surplusTotal }))) = _
    simp only [checkedSub_of_le hg, checkedSub_of_le hbu, checkedSub_of_le hs,
      checkedSub_of_le hl, bind_eq_bind, bind_some]
  refine ⟨_, heq, rfl, rfl, ?_, ⟨?_, ?_, ?_, ?_⟩, ?_⟩
  · simp only
    omega
  · simp only
    omega
  · simp only
    omega
  · simp only
    omega
  · simp only
    omega
  intro hb
  have hcap := hb.live_le_total
  refine ⟨?_, ?_, hb.accepted.sublist (filter_sublist.map _)⟩
  · change b.liveTotal - entry.live ≤ b.total
    omega
  · intro key row hkey
    exact hb.live_le_burstable key row (get?_of_erase hkey).2

/-- An accepted envelope holds what is live and what is guaranteed. -/
lemma setPoolSpec_ok {spec : PoolSpec} (hc : b.Consistent) (h : b.setPoolSpec spec = .ok b') :
    b' = { b with spec := spec } ∧ b'.Consistent ∧ (b.Bounded → b'.Bounded) := by
  unfold setPoolSpec at h
  obtain ⟨u, -, h⟩ := ok_of_bind h
  split at h
  · cases h
  rename_i hlive
  obtain ⟨ledger, hcheck, ⟨⟩⟩ := ok_of_bind h
  refine ⟨rfl, ⟨hc.reserved, hc.committedBurst, hc.liveTotal, hc.surplusTotal⟩, ?_⟩
  intro hb
  exact ⟨Nat.le_of_not_lt hlive, hb.live_le_burstable, (checkReservations_iff.mp hcheck).1⟩

/-- The ledger as the running totals give it. -/
def reservations (b : CapacityBudget T) : Reservations :=
  b.spec.reservations b.reserved b.committedBurst

/-- `check_reservations` over a whole tenant table. -/
def checked (b : CapacityBudget T) (tenants : OrderedMap T TenantEntry) :
    Except (ConfigError T) Reservations :=
  checkReservations b.spec (specRows tenants)

/-- The running totals are what the whole table gives. -/
lemma checked_eq (hc : b.Consistent) (hb : b.Bounded) :
    b.checked b.tenants = .ok b.reservations := by
  refine checkReservations_iff.mpr ⟨hb.accepted, ?_⟩
  rw [sum_specRows, ← hc.reserved, specRows, List.map_map, reservations, hc.committedBurst]
  rfl

/-- A new tenant is accepted exactly when it is new and the table with it passes the check. -/
lemma insertTenant_iff : (∃ b', b.insertTenant id spec = .ok b') ↔ b.tenants.get? id = none ∧
      ∃ ledger, b.checked (b.tenants.insert id ⟨spec, 0⟩) = .ok ledger := by
  cases hrow : b.tenants.get? id with
  | some entry => simp [insertTenant, contains, hrow]
  | none =>
    have hcheck : (∃ ledger, b.checkWith (some (id, spec)) none = .ok ledger) ↔
        ∃ ledger, b.checked (b.tenants.insert id ⟨spec, 0⟩) = .ok ledger := by
      have hperm := specRows_insert_absent spec hrow
      simp only [checkWith, checked, checkReservations_iff, exists_and_left, exists_eq, and_true]
      exact ⟨(·.perm hperm.symm), (·.perm hperm)⟩
    rw [← hcheck]
    cases h : b.checkWith (some (id, spec)) none <;>
      simp [insertTenant, contains, hrow, h, bind, Except.bind]

lemma updateTenant_iff (hc : b.Consistent) : (∃ b', b.updateTenant id spec = some (.ok b')) ↔
    ∃ entry, b.tenants.get? id = some entry ∧ entry.live ≤ spec.burstable ∧
      ∃ ledger, b.checked (b.tenants.insert id { entry with spec := spec }) = .ok ledger := by
  cases hrow : b.tenants.get? id with
  | none => simp [updateTenant, hrow]
  | some entry =>
    obtain ⟨hg, hbu, -, hs⟩ := hc.row_le hrow
    simp only [guaranteed] at hg
    simp only [burstable] at hbu
    have hcheck : b.checkWith none (some (id, spec)) =
        b.checked (b.tenants.insert id { entry with spec := spec }) := by
      simp [checked, specRows_insert_present b.tenants spec hrow, checkWith]
    by_cases hlive : spec.burstable < entry.live
    · simp [updateTenant, hrow, hlive]
    · cases h : b.checked (b.tenants.insert id { entry with spec := spec }) <;>
        simp [updateTenant, hrow, hlive, Nat.le_of_not_lt hlive, hcheck, h, checkedSub_of_le hg,
          checkedSub_of_le hbu, checkedSub_of_le hs]

/-- What the tenants occupy or may claim at once: `Σ max(guaranteed, live)`. -/
def claimed (b : CapacityBudget T) : Nat :=
  sumOf (fun _ entry => max entry.guaranteed entry.live) b.tenants

/-- The part of the claims that the pool cannot hold. -/
def excess (b : CapacityBudget T) : Nat := b.claimed - b.total

lemma excess_of_spec (h : b'.spec = b.spec) : b'.excess = b'.claimed - b.total := by
  rw [excess, total, total, h]

/-- The two running totals together are the claims. -/
lemma Consistent.claimed_eq (hc : b.Consistent) : b.claimed = b.reserved + b.surplusTotal := by
  rw [hc.reserved, hc.surplusTotal, ← sumOf_add]
  apply sumOf_congr
  intro id entry _
  simp only [surplus, guaranteed]
  omega

lemma Consistent.free_eq (hc : b.Consistent) : b.free = b.total - b.claimed := by
  rw [hc.claimed_eq, free, Nat.sub_sub]

/-- A recount moves the claims by the change of the row's surplus. -/
lemma Recounts.claimed (h : b.Recounts id entry live b') (hc : b.Consistent) :
    b'.claimed + entry.surplus =
      b.claimed + ({ entry with live := live } : TenantEntry).surplus := by
  have hsurplus := h.surplusTotal
  rw [h.consistent.claimed_eq, hc.claimed_eq, h.reserved]
  omega

/-- No more is live than claimed. -/
lemma Consistent.liveTotal_le_claimed (hc : b.Consistent) : b.liveTotal ≤ b.claimed := by
  rw [hc.liveTotal]
  apply sumOf_mono
  intro id entry _
  exact Nat.le_max_right _ _

/-- A tenant below its guarantee claims more than it holds. -/
lemma Consistent.liveTotal_lt_claimed (hc : b.Consistent) (h : b.tenants.get? id = some entry)
    (hlow : entry.live < entry.guaranteed) : b.liveTotal < b.claimed := by
  have hlive := sumOf_erase (fun _ e => live e) b.tenants id
  have hclaim := sumOf_erase (fun _ e => max (guaranteed e) e.live) b.tenants id
  have hrest : sumOf (fun _ e => live e) (b.tenants.erase id) ≤
      sumOf (fun _ e => max (guaranteed e) e.live) (b.tenants.erase id) := by
    apply sumOf_mono
    intro key row _
    exact Nat.le_max_right _ _
  simp only [h, elim_some] at hlive hclaim
  have hmax : max entry.guaranteed entry.live = entry.guaranteed := by omega
  rw [hmax] at hclaim
  rw [hc.liveTotal, claimed]
  omega

end CapacityBudget
end PgElastic.Capacity
