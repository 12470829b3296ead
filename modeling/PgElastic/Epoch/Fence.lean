import Mathlib.Order.Lattice

/-!
# The primary-epoch fence

The proxy's single view of the primary epoch, and what a checkout does about it.  Three paths
report epochs; all of them go through `observe`, which raises the epoch and never lowers it.  A
checkout asks the link which epoch it serves and refuses a link below the fence.

The watch channel of the source counts its own changes.  It changes exactly when the fence
advances, so one `generation` stands for both counters.
-/

namespace PgElastic.Epoch

/-- Which delivery path an observation arrived on. -/
inductive EpochSource
  | watch
  | push
  | verify
  deriving DecidableEq, Repr

/-- What one observation meant for the fence. -/
inductive Observation
  | unchanged
  | advanced (before after : Nat)
  | regressed (observed current : Nat)
  deriving DecidableEq, Repr

structure EpochFence where
  current : Nat
  /-- The count of advances. -/
  generation : Nat
  deriving DecidableEq, Repr

namespace EpochFence

/-- The epoch of a proxy that has not yet learned one. -/
def new : EpochFence := ⟨0, 0⟩

/-- Folds one observation into the fence; the source only matters to the log. -/
def observe (fence : EpochFence) (_source : EpochSource) (observed : Nat) :
    Observation × EpochFence :=
  if fence.current < observed then
    (.advanced fence.current observed, ⟨observed, fence.generation + 1⟩)
  else if observed < fence.current then (.regressed observed fence.current, fence)
  else (.unchanged, fence)

/-- An observation that is not higher leaves the fence alone, a regression included. -/
lemma observe_of_le {fence : EpochFence} {observed : Nat} (source : EpochSource)
    (h : observed ≤ fence.current) : (fence.observe source observed).2 = fence := by
  rw [observe, if_neg (not_lt.mpr h)]
  split <;> rfl

lemma current_le_observe (fence : EpochFence) (source : EpochSource) (observed : Nat) :
    fence.current ≤ (fence.observe source observed).2.current := by
  rcases Nat.lt_or_ge fence.current observed with h | h
  · rw [observe, if_pos h]
    exact le_of_lt h
  · rw [observe_of_le source h]

end EpochFence

/-- The decisions the data path has to make about the fence. -/
structure FenceRuntime where
  verifyAtCheckout : Bool
  requireEpoch : Bool
  deriving DecidableEq, Repr

namespace FenceRuntime

/-- The first half of `verify_epoch`, once the probe is answered: the fence, and the epoch the
link is tagged with.  A link that has to publish an epoch and does not is refused. -/
def tagEpoch (runtime : FenceRuntime) (fence : EpochFence) (answer : Option Nat) :
    EpochFence × Option Nat :=
  if runtime.verifyAtCheckout then
    match answer with
    | some observed => ((fence.observe .verify observed).2, some observed)
    | none => (fence, if runtime.requireEpoch then none else some fence.current)
  else (fence, some fence.current)

/-- The second half: whether a link of this epoch may be handed over. -/
def admits (fence : EpochFence) (epoch : Nat) : Bool := !decide (epoch < fence.current)

lemma le_of_admits {fence : EpochFence} {epoch : Nat} (h : admits fence epoch) :
    fence.current ≤ epoch := by
  rw [admits, Bool.not_eq_true', decide_eq_false_iff_not] at h
  exact Nat.le_of_not_lt h

end FenceRuntime
end PgElastic.Epoch
