import Mathlib.Data.Int.Init
import Mathlib.Tactic.Linarith
import Mathlib.Tactic.Ring

/-!
# Carrying sequences to the target

Logical replication carries no sequence state, so a cutover sets every target sequence past the
source's next value.  Bounds and cycling of a sequence and the failures of SQL are left out.
-/

namespace PgElastic.Migration

/-- A sequence of the source: how many of its values its recorded position covers, and how many
more a backend has handed out of its cache. -/
structure SourceSequence where
  startValue : Int
  incrementBy : Int
  recorded : Nat
  cached : Nat
  deriving DecidableEq

namespace SourceSequence

def value (s : SourceSequence) (k : Nat) : Int := s.startValue + k * s.incrementBy

/-- `last_value`, which is null until the sequence has been read from. -/
def lastValue (s : SourceSequence) : Option Int :=
  if s.recorded = 0 then none else some (s.value (s.recorded - 1))

/-- The position that `sequenceQuery` derives. -/
def next (s : SourceSequence) : Int :=
  match s.lastValue with
  | none => s.startValue
  | some last => last + s.incrementBy

lemma next_eq (s : SourceSequence) : s.next = s.value s.recorded := by
  unfold next lastValue value
  cases s.recorded with
  | zero => simp
  | succ n =>
    simp only [Nat.succ_ne_zero, if_false, Nat.add_sub_cancel]
    push_cast
    linarith

end SourceSequence

inductive SequenceHandlingMode
  | setvalWithGap
  | skip
  deriving DecidableEq

structure SequencePlan where
  mode : SequenceHandlingMode
  safetyGap : Int

namespace SequencePlan

def gap (p : SequencePlan) : Int := if p.safetyGap < 0 then 1000 else p.safetyGap

/-- The `setval`s on the target, each with the value its sequence issues next; `none` is the refusal
to skip a sequence.  The sum is one of 64-bit integers. -/
def reconcile (p : SequencePlan) (sequences : List SourceSequence) :
    Option (List (SourceSequence × Int)) :=
  if p.mode = .skip then
    if sequences.length > 0 then none else some []
  else some (sequences.map fun s => (s, (s.next + p.gap).bmod (2 ^ 64)))

lemma position_of_reconcile {p : SequencePlan} {sequences : List SourceSequence}
    {applied : List (SourceSequence × Int)} (h : p.reconcile sequences = some applied)
    {s : SourceSequence} {position : Int} (hmem : (s, position) ∈ applied)
    (hrange : -2 ^ 63 ≤ s.next + p.gap ∧ s.next + p.gap < 2 ^ 63) :
    position = s.startValue + s.recorded * s.incrementBy + p.gap := by
  change position = s.value s.recorded + p.gap
  rw [← s.next_eq]
  unfold reconcile at h
  split_ifs at h
  · cases h
    cases hmem
  · cases h
    obtain ⟨_, _, hpair⟩ := List.mem_map.mp hmem
    cases hpair
    exact Int.bmod_eq_of_le (by omega) (by omega)

/-- **The target issues no value of the source's again** exactly where the source has issued none,
or the gap is no multiple of the increment, or it is a multiple that goes past the cached values in
the direction of the sequence. -/
theorem target_issues_new_values {p : SequencePlan} {sequences : List SourceSequence}
    {applied : List (SourceSequence × Int)} (h : p.reconcile sequences = some applied)
    {s : SourceSequence} {position : Int} (hmem : (s, position) ∈ applied)
    (hmoves : s.incrementBy ≠ 0)
    (hrange : -2 ^ 63 ≤ s.next + p.gap ∧ s.next + p.gap < 2 ^ 63) :
    (∀ k < s.recorded + s.cached, ∀ j : Nat, position + j * s.incrementBy ≠ s.value k) ↔
      s.recorded + s.cached = 0 ∨ ¬s.incrementBy ∣ p.gap ∨ s.cached ≤ p.gap / s.incrementBy := by
  rw [position_of_reconcile h hmem hrange]
  unfold SourceSequence.value
  constructor
  · intro hnew
    by_contra hissued
    rw [not_or, not_or, not_not, not_le] at hissued
    obtain ⟨hsome, ⟨steps, hsteps⟩, hshort⟩ := hissued
    rw [hsteps, Int.mul_ediv_cancel_left _ hmoves] at hshort
    -- the last value that was issued is one the target still has before it
    refine hnew (s.recorded + s.cached - 1) (by omega) (s.cached - 1 - steps).toNat ?_
    have hk : ((s.recorded + s.cached - 1 : Nat) : Int) = s.recorded + s.cached - 1 := by omega
    rw [hsteps, hk, Int.toNat_of_nonneg (by omega)]
    ring
  · intro hcondition k hk j hequal
    have hgap : p.gap = s.incrementBy * (k - s.recorded - j) := by linarith
    rcases hcondition with hnone | hprime | hpast
    · omega
    · exact hprime ⟨_, hgap⟩
    · rw [hgap, Int.mul_ediv_cancel_left _ hmoves] at hpast
      omega

theorem target_issues_new_values_falling : let s : SourceSequence := ⟨500, -3, 5, 3⟩
    reconcile ⟨.setvalWithGap, -1⟩ [s] = some [(s, 1485)] ∧
      ∀ k < 8, ∀ j : Nat, 1485 + j * -3 ≠ s.value k := by
  have h : reconcile ⟨.setvalWithGap, -1⟩ [⟨500, -3, 5, 3⟩] = some [(⟨500, -3, 5, 3⟩, 1485)] := by
    decide
  exact ⟨h, (target_issues_new_values h (List.mem_singleton_self _) (by decide) (by decide)).mpr
    (.inr (.inl (by decide)))⟩

/-- A sequence that falls is set back behind what it has issued. -/
theorem falling_sequence_issues_again : let s : SourceSequence := ⟨500, -1, 5, 0⟩
    reconcile ⟨.setvalWithGap, -1⟩ [s] = some [(s, 1495)] ∧
      1495 + (995 : Nat) * s.incrementBy = s.value 0 := by
  decide

end SequencePlan
end PgElastic.Migration
