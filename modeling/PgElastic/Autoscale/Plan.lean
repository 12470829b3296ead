import Mathlib.Algebra.Order.Ring.Int
import Mathlib.Tactic.Linarith
import Mathlib.Tactic.Set

/-!
# How many instances the autoscaler recommends

The part of the plan that sizes the fleet, from the connections its members report.  Percentages and
instance counts are 32-bit integers of the source, and the conversions to them wrap; the 64-bit sums
stay far inside their type.  The packing, the actions and the guards of the plan are left out.

The percentage is truncated before it is scaled, so the recommended fleet carries the measured load
exactly where what the truncation drops is made up by rounding the number of instances up.
-/

namespace PgElastic.Autoscale

structure InstanceSignal where
  ready : Bool
  schedulable : Bool
  allocatableConnections : Nat
  inUseConnections : Nat

/-- Whether the pool may spend this instance's capacity. -/
def InstanceSignal.measurable (i : InstanceSignal) : Bool := i.ready && i.schedulable

structure Policy where
  targetUtilizationPercent : Int
  tolerancePercent : Int
  minInstances : Int
  maxInstances : Int

/-- The conversion to 32 bits. -/
def int32 (n : Int) : Int := n.bmod (2 ^ 32)

lemma int32_eq {n : Int} (hlow : 0 ≤ n) (hhigh : n < 2 ^ 31) : int32 n = n :=
  Int.bmod_eq_of_le (by omega) (by omega)

variable (instances : List InstanceSignal)

def servingInstances : Nat := instances.countP fun i => !(i.ready && !i.schedulable)

def measured : List InstanceSignal := instances.filter (·.measurable)

def inUse : Nat := ((measured instances).map (·.inUseConnections)).sum

def allocatable : Nat := ((measured instances).map (·.allocatableConnections)).sum

def observedUtilizationPercent : Int :=
  if 0 < allocatable instances then int32 (inUse instances * 100 / allocatable instances : Nat)
  else 0

def clamp (value low high : Int) : Int := min (max value low) (if high < low then low else high)

/-- The measured members, scaled by the observed over the target utilization and rounded up. -/
def desired (policy : Policy) : Int :=
  int32 (((measured instances).length * observedUtilizationPercent instances +
    policy.targetUtilizationPercent - 1).tdiv policy.targetUtilizationPercent)

def deviation (policy : Policy) : Int :=
  let deviation := int32 (observedUtilizationPercent instances - policy.targetUtilizationPercent)
  if deviation < 0 then int32 (-deviation) else deviation

def recommendedInstances (policy : Policy) : Int :=
  if (measured instances).length = 0 ∨ policy.targetUtilizationPercent ≤ 0 then
    max (servingInstances instances) policy.minInstances
  else if deviation instances policy ≤ policy.tolerancePercent then
    clamp (servingInstances instances) policy.minInstances policy.maxInstances
  else clamp (desired instances policy) policy.minInstances policy.maxInstances

/-- Neither conversion wraps. -/
structure Fits (policy : Policy) : Prop where
  percent : inUse instances * 100 / allocatable instances < 2 ^ 31
  count : ((measured instances).length * (inUse instances * 100 / allocatable instances : Nat) +
    policy.targetUtilizationPercent - 1) / policy.targetUtilizationPercent < 2 ^ 31

variable {instances} {policy : Policy}

/-- The number of instances, times the target, is the scaled percentage and what is missing from it
to the next multiple of the target. -/
lemma desired_mul (h : Fits instances policy) (hpositive : 0 < allocatable instances)
    (htarget : 0 < policy.targetUtilizationPercent) :
    desired instances policy * policy.targetUtilizationPercent =
      (measured instances).length * (inUse instances * 100 / allocatable instances : Nat) +
        -((measured instances).length * (inUse instances * 100 / allocatable instances : Nat)) %
          policy.targetUtilizationPercent := by
  have hobserved : observedUtilizationPercent instances =
      (inUse instances * 100 / allocatable instances : Nat) := by
    rw [observedUtilizationPercent, if_pos hpositive]
    exact int32_eq (Int.natCast_nonneg _) (by exact_mod_cast h.percent)
  have hcount := h.count
  rw [desired, hobserved]
  set target := policy.targetUtilizationPercent
  set scaled : Int :=
    (measured instances).length * (inUse instances * 100 / allocatable instances : Nat)
  have hscaled : 0 ≤ scaled := Int.mul_nonneg (Int.natCast_nonneg _) (Int.natCast_nonneg _)
  have hfloor := Int.mul_ediv_add_emod (scaled + target - 1) target
  have hmissing := Int.mul_ediv_add_emod (-scaled) target
  have hrest := Int.emod_nonneg (-scaled) htarget.ne'
  have hless := Int.emod_lt_of_pos (-scaled) htarget
  have hlast := Int.emod_nonneg (scaled + target - 1) htarget.ne'
  have hbound := Int.emod_lt_of_pos (scaled + target - 1) htarget
  rw [Int.tdiv_eq_ediv_of_nonneg (by omega), int32_eq (Int.ediv_nonneg (by omega) htarget.le) hcount]
  -- both are the only multiple of the target within one target above the scaled percentage
  have hsame : (scaled + target - 1) / target = -(-scaled / target) := by
    have hsum : target * ((scaled + target - 1) / target + -scaled / target) =
        target - 1 - (scaled + target - 1) % target - -scaled % target := by
      rw [mul_add]
      omega
    have hupper : (scaled + target - 1) / target + -scaled / target < 1 := by
      by_contra hge
      nlinarith
    have hlower : -1 < (scaled + target - 1) / target + -scaled / target := by
      by_contra hle
      nlinarith
    omega
  rw [hsame, mul_comm]
  linarith

/-- **The recommended fleet carries the measured load** at or below the target exactly where the
least number of instances does, or where the connections that the truncated percentage leaves out
fit in what rounding up to whole instances adds. -/
theorem recommended_carries_load (policy : Policy) (c : Nat)
    (hsame : ∀ i ∈ measured instances, i.allocatableConnections = c) (hc : 0 < c)
    (htarget : 0 < policy.targetUtilizationPercent) (hfits : Fits instances policy)
    (houtside : policy.tolerancePercent < deviation instances policy)
    (hmax : desired instances policy ≤ policy.maxInstances) :
    100 * (inUse instances : Int) ≤
        recommendedInstances instances policy * c * policy.targetUtilizationPercent ↔
      100 * (inUse instances : Int) ≤ policy.minInstances * c * policy.targetUtilizationPercent ∨
      (inUse instances * 100 % allocatable instances : Nat) ≤
        c * (-((measured instances).length *
          (inUse instances * 100 / allocatable instances : Nat) : Int) %
            policy.targetUtilizationPercent) := by
  have hsum : allocatable instances = (measured instances).length * c := by
    rw [allocatable, List.map_congr_left hsame, List.map_const', List.sum_replicate_nat]
  have hunit : (0 : Int) < c * policy.targetUtilizationPercent := Int.mul_pos (by omega) htarget
  by_cases hnone : (measured instances).length = 0
  · have hidle : inUse instances = 0 := by simp [inUse, List.length_eq_zero_iff.mp hnone]
    have hserving : 0 ≤ max (servingInstances instances : Int) policy.minInstances := by omega
    rw [recommendedInstances, if_pos (.inl hnone), mul_assoc]
    simpa [hidle, hnone] using Int.mul_nonneg hserving hunit.le
  have hpositive : 0 < allocatable instances :=
    hsum ▸ Nat.mul_pos (Nat.pos_of_ne_zero hnone) hc
  -- the load is what the truncated percentage accounts for, and the rest
  have hload : 100 * (inUse instances : Int) = (measured instances).length *
      (inUse instances * 100 / allocatable instances : Nat) * c +
        (inUse instances * 100 % allocatable instances : Nat) := by
    have hdiv := Nat.div_add_mod (inUse instances * 100) (allocatable instances)
    rw [mul_comm 100, mul_right_comm]
    nth_rewrite 1 [hsum] at hdiv
    exact_mod_cast hdiv.symm
  have hrecommended : recommendedInstances instances policy =
      max (desired instances policy) policy.minInstances := by
    rw [recommendedInstances, if_neg (by omega), if_neg (by omega), clamp]
    split <;> omega
  rw [hrecommended, mul_assoc, mul_assoc, max_mul_of_nonneg _ _ hunit.le, le_max_iff, or_comm]
  refine or_congr Iff.rfl ?_
  have hdesired := congrArg ((c : Int) * ·) (desired_mul hfits hpositive htarget)
  simp only [mul_add] at hdesired
  constructor <;> intro h <;> linarith

theorem recommended_carries_load_rounded :
    100 * (808 : Int) ≤ recommendedInstances [⟨true, true, 1000, 808⟩] ⟨37, 10, 1, 9⟩ * 1000 * 37 :=
  (@recommended_carries_load [⟨true, true, 1000, 808⟩] ⟨37, 10, 1, 9⟩ 1000 (by decide) (by decide)
    (by decide) ⟨by decide, by decide⟩ (by decide) (by decide)).mpr (.inr (by decide))

/-- At 80.9 percent in use and a target of 40 the fleet is doubled, which is too few. -/
theorem recommended_is_overloaded : let fleet : List InstanceSignal := [⟨true, true, 1000, 809⟩]
    let policy : Policy := ⟨40, 10, 1, 9⟩
    policy.tolerancePercent < deviation fleet policy ∧
      recommendedInstances fleet policy < policy.maxInstances ∧
      recommendedInstances fleet policy * 1000 * policy.targetUtilizationPercent <
        100 * inUse fleet := by
  decide

end PgElastic.Autoscale
