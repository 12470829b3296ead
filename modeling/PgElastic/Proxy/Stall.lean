import Mathlib.Data.List.Basic

/-!
# The write-stall monitor of an instance

The probe samples an instance again and again, and the monitor publishes a verdict once enough
samples in a row agree on it.  The reading of the samples themselves, the backoff between them and
the counters the monitor keeps for its metrics are left out.
-/

namespace PgElastic.Proxy

open List

inductive UnknownReason
  | statsHidden
  | unparsableClause
  | unreachable
  deriving DecidableEq

/-- What the proxy believes about an instance's ability to complete a commit. -/
inductive WriteHealth
  | writable
  | stalled (required streaming : Nat)
  | unknown (reason : UnknownReason)
  deriving DecidableEq

/-- One turn of `probe_loop`. -/
inductive ProbeOutcome
  | reached (verdict : WriteHealth)
  | unreachable
  deriving DecidableEq

def ProbeOutcome.verdict : ProbeOutcome → WriteHealth
  | .reached verdict => verdict
  | .unreachable => .unknown .unreachable

structure Pending where
  verdict : WriteHealth
  agreeing : Nat
  deriving DecidableEq

structure StallMonitor where
  health : WriteHealth := .writable
  pending : Pending := ⟨.writable, 0⟩
  confirmations : Nat
  deriving DecidableEq

namespace StallMonitor

def new (confirmations : Nat) : StallMonitor := { confirmations := max confirmations 1 }

/-- Folds one sample in, publishing only once `confirmations` samples agree.  The count saturates at
the largest value `confirmations` can have, which no comparison notices. -/
def observe (m : StallMonitor) (verdict : WriteHealth) : StallMonitor :=
  let pending : Pending :=
    if m.pending.verdict = verdict then { m.pending with agreeing := m.pending.agreeing + 1 }
    else ⟨verdict, 1⟩
  { m with
    pending
    health := if m.confirmations ≤ pending.agreeing then verdict else m.health }

/-- What the loop feeds to the monitor: an instance that cannot be sampled is one more verdict. -/
def probeLoop (m : StallMonitor) (outcomes : List ProbeOutcome) : StallMonitor :=
  (outcomes.map ProbeOutcome.verdict).foldl observe m

lemma foldl_observe_confirmations (m : StallMonitor) (verdicts : List WriteHealth) :
    (verdicts.foldl observe m).confirmations = m.confirmations := by
  induction verdicts generalizing m with
  | nil => rfl
  | cons verdict rest ih => exact ih _

/-- What a run of equal verdicts leaves behind. -/
lemma foldl_observe_replicate (m : StallMonitor) (verdict : WriteHealth) (n : Nat) :
    ∃ agreeing, n < agreeing ∧ (m.pending.verdict ≠ verdict → agreeing = n + 1) ∧
      (replicate (n + 1) verdict).foldl observe m =
        { m with
          pending := ⟨verdict, agreeing⟩
          health := if m.confirmations ≤ agreeing then verdict else m.health } := by
  induction n with
  | zero =>
    by_cases h : m.pending.verdict = verdict
    · exact ⟨m.pending.agreeing + 1, by omega, absurd h, by simp [observe, h]⟩
    · exact ⟨1, by omega, fun _ => rfl, by simp [observe, h]⟩
  | succ n ih =>
    obtain ⟨agreeing, hlt, hother, hrun⟩ := ih
    refine ⟨agreeing + 1, by omega, fun h => by rw [hother h], ?_⟩
    rw [replicate_succ', foldl_append, hrun]
    simp only [foldl_cons, foldl_nil, observe, if_true]
    congr 1
    split_ifs <;> first | rfl | omega

/-- When the last outcomes, as many as the confirmations, are one and the same stall, it is
published; and fewer unreachable probes in a row than that leave the health as it was. -/
theorem health_of_last_outcomes (n : Nat) (hn : 0 < n) (earlier : List ProbeOutcome) :
    (∀ required streaming k, n ≤ k →
      ((new n).probeLoop (earlier ++ replicate k (.reached (.stalled required streaming)))).health =
        .stalled required streaming) ∧
    ∀ k < n, (∀ last ∈ earlier.getLast?, last.verdict ≠ .unknown .unreachable) →
      ((new n).probeLoop (earlier ++ replicate k .unreachable)).health =
        ((new n).probeLoop earlier).health := by
  have hconf : ((new n).probeLoop earlier).confirmations = n := by
    rw [probeLoop, foldl_observe_confirmations]
    exact Nat.max_eq_left hn
  have hrepeat (outcome : ProbeOutcome) (k : Nat) := foldl_observe_replicate
    ((new n).probeLoop earlier) outcome.verdict k
  simp only [hconf] at hrepeat
  constructor
  · intro required streaming k hk
    obtain ⟨k, rfl⟩ := Nat.exists_eq_add_one_of_ne_zero (by omega : k ≠ 0)
    obtain ⟨agreeing, hlt, -, hrun⟩ := hrepeat (.reached (.stalled required streaming)) k
    rw [probeLoop, map_append, foldl_append, map_replicate]
    exact (congrArg health hrun).trans (if_pos (by omega))
  · rintro (- | k) hk hlast
    · simp
    obtain ⟨agreeing, -, hcount, hrun⟩ := hrepeat .unreachable k
    -- the verdict of the last outcome is pending, so the unreachable probes count from one
    have hother : ((new n).probeLoop earlier).pending.verdict ≠ .unknown .unreachable := by
      rcases eq_nil_or_concat earlier with rfl | ⟨outcomes, outcome, rfl⟩
      · simp [probeLoop, new]
      · have hverdict := hlast outcome (by simp)
        simp only [probeLoop, concat_eq_append, map_append, foldl_append, map_cons, foldl_cons]
        rw [map_nil, foldl_nil, observe]
        split_ifs with h <;> simpa [h] using hverdict
    rw [probeLoop, map_append, foldl_append, map_replicate]
    exact (congrArg health hrun).trans (if_neg (by rw [hcount hother]; omega))

/-- A stall that is seen twice is published, and one unreachable probe behind it changes nothing. -/
theorem health_of_last_outcomes_twice :
    ((new 2).probeLoop (replicate 2 (.reached (.stalled 2 1)))).health = .stalled 2 1 ∧
      ((new 2).probeLoop (replicate 2 (.reached (.stalled 2 1)) ++ replicate 1 .unreachable)).health =
        .stalled 2 1 := by
  have hstalled := (health_of_last_outcomes 2 (by decide) []).1 2 1 2 (by decide)
  have hunreachable := (health_of_last_outcomes 2 (by decide)
    (replicate 2 (.reached (.stalled 2 1)))).2 1 (by decide) (by decide)
  exact ⟨hstalled, hunreachable.trans hstalled⟩

/-- Two stalls with different counts are not published, and two unreachable probes replace a
published verdict. -/
theorem changing_stall_is_not_published :
    ((new 2).probeLoop [.reached (.stalled 2 1), .reached (.stalled 2 0)]).health = .writable ∧
    ((new 2).probeLoop [.unreachable, .unreachable]).health = .unknown .unreachable := by
  decide

end StallMonitor
end PgElastic.Proxy
