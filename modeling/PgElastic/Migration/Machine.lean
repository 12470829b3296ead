import PgElastic.Library.OrderedMap

/-!
# The phases of a tenant's migration

What a reconcile pass of a migration publishes, and which effects it calls for, is a function of
the phase it read and of what it observed.  An abort and a fault are answered before any progress
is considered, and every answer but that of a finished cutover serves the tenant from the source.
-/

namespace PgElastic.Migration

inductive Phase
  | preflight | provisioning | preWarm | copying | catchup | quiescing | cutover
  | completed | failed | aborted | rolledBack
  deriving DecidableEq, Repr

inductive Strategy
  | online | offline
  deriving DecidableEq, Repr

inductive Serving
  | source | target
  deriving DecidableEq, Repr

inductive Reason
  | progressing | waiting | cutoverComplete | abortRequested | faulted | retrying | drainTimedOut
  | cutoverTimedOut | rolledBack | sourceRetained | sourceDropped
  deriving DecidableEq, Repr

def phaseOrder : Strategy → List Phase
  | .online =>
      [.preflight, .provisioning, .preWarm, .copying, .catchup, .quiescing, .cutover, .completed]
  | .offline => [.preflight, .provisioning, .preWarm, .quiescing, .copying, .cutover, .completed]

def terminal : Phase → Bool
  | .completed | .failed | .aborted | .rolledBack => true
  | _ => false

/-- The tenant's clients are queued in this phase. -/
def quiesced (phase : Phase) (strategy : Strategy) : Bool :=
  let order := phaseOrder strategy
  decide (order.idxOf .quiescing ≤ order.idxOf phase ∧ order.idxOf phase < order.length - 1)

/-- A phase that is not in the order is not advanced from. -/
def nextPhase (current : Phase) (strategy : Strategy) : Phase :=
  let order := phaseOrder strategy
  (order.drop (order.idxOf current + 1)).headD current

/-- Whether each phase may be left. -/
structure Signals where
  preflightPassed : Bool := false
  provisioned : Bool := false
  preWarmed : Bool := false
  copyComplete : Bool := false
  caughtUp : Bool := false
  drained : Bool := false
  cutoverComplete : Bool := false
  deriving DecidableEq, Repr

structure Observation where
  strategy : Strategy
  abortRequested : Bool
  rollbackRequested : Bool
  rollbackWindowClosed : Bool
  sourceDropped : Bool
  fault : Bool
  faultBudgetExceeded : Bool
  signals : Signals
  drainDeadlineExceeded : Bool
  cutoverDeadlineExceeded : Bool
  deriving DecidableEq, Repr

/-- The phase to publish and the effects to apply before it is. -/
structure Decision where
  phase : Phase
  reason : Reason
  serving : Serving
  cleanup : Bool := false
  releaseQuiesce : Bool := false
  dropSource : Bool := false
  settled : Bool := false
  discardTarget : Bool := false
  deriving DecidableEq, Repr

def reasonFor : Phase → Reason
  | .aborted => .abortRequested
  | .rolledBack => .rolledBack
  | _ => .faulted

/-- The departures from the happy path. -/
def abort (phase : Phase) (reason : Reason) («from» : Phase) (o : Observation) : Decision where
  phase := phase
  reason := reason
  serving := .source
  cleanup := true
  discardTarget := true
  releaseQuiesce := quiesced «from» o.strategy

def ready (phase : Phase) (s : Signals) : Bool :=
  match phase with
  | .preflight => s.preflightPassed
  | .provisioning => s.provisioned
  | .preWarm => s.preWarmed
  | .copying => s.copyComplete
  | .catchup => s.caughtUp
  | .quiescing => s.drained
  | .cutover => s.cutoverComplete
  | _ => false

def decideCompleted (o : Observation) : Decision :=
  if o.rollbackRequested && !o.rollbackWindowClosed then
    { phase := .rolledBack, reason := .rolledBack, serving := .source, cleanup := true,
      discardTarget := true, releaseQuiesce := true }
  else if o.rollbackWindowClosed && o.sourceDropped then
    { phase := .completed, reason := .sourceDropped, serving := .target, settled := true }
  else if o.rollbackWindowClosed then
    { phase := .completed, reason := .sourceDropped, serving := .target, dropSource := true }
  else { phase := .completed, reason := .sourceRetained, serving := .target }

/-- A phase that has not ended: an abort and a fault come before any progress. -/
def decideActive (current : Phase) (o : Observation) : Decision :=
  if o.abortRequested then abort .aborted .abortRequested current o
  else if o.fault then
    if o.faultBudgetExceeded then abort .failed .faulted current o
    else { phase := current, reason := .retrying, serving := .source }
  else if decide (current = .quiescing) && o.drainDeadlineExceeded then
    abort .failed .drainTimedOut current o
  else if quiesced current o.strategy && o.cutoverDeadlineExceeded then
    abort .failed .cutoverTimedOut current o
  else if !ready current o.signals then
    { phase := current, reason := .waiting, serving := .source }
  else
    let next := nextPhase current o.strategy
    if next = .completed then
      { phase := next, reason := .cutoverComplete, serving := .target, releaseQuiesce := true,
        cleanup := true }
    else { phase := next, reason := .progressing, serving := .source }

/-- The whole state machine; the source calls it `Decide`. -/
def decidePhase (current : Phase) (o : Observation) : Decision :=
  match current with
  | .failed | .aborted | .rolledBack =>
      { phase := current, reason := reasonFor current, serving := .source, settled := true }
  | .completed => decideCompleted o
  | _ => decideActive current o

/-! ### What a decision can be -/

variable {phase : Phase} {strategy : Strategy} {o : Observation}

lemma nextPhase_eq_completed (hphase : terminal phase = false)
    (h : nextPhase phase strategy = .completed) : phase = .cutover := by
  cases phase <;> cases strategy <;> revert hphase h <;> decide

lemma terminal_nextPhase (hphase : terminal phase = false)
    (h : nextPhase phase strategy ≠ .completed) : terminal (nextPhase phase strategy) = false := by
  cases phase <;> cases strategy <;> revert hphase h <;> decide

/-- Every way a pass can be decided. -/
inductive Decided (o : Observation) : Phase → Decision → Prop
  | ended {phase : Phase} : phase = .failed ∨ phase = .aborted ∨ phase = .rolledBack →
      Decided o phase
        { phase := phase, reason := reasonFor phase, serving := .source, settled := true }
  | abandoned {phase : Phase} {d : Decision} : terminal phase = false →
      d.phase = .aborted ∨ d.phase = .failed → d.serving = .source → d.dropSource = false →
      Decided o phase d
  | continued {phase : Phase} {d : Decision} : terminal phase = false → terminal d.phase = false →
      d.serving = .source → d.dropSource = false → d.discardTarget = false → Decided o phase d
  | cutOver : o.abortRequested = false → o.fault = false → o.signals.cutoverComplete = true →
      Decided o .cutover
        { phase := .completed, reason := .cutoverComplete, serving := .target,
          releaseQuiesce := true, cleanup := true }
  | rolledBack : o.rollbackRequested = true → o.rollbackWindowClosed = false →
      Decided o .completed
        { phase := .rolledBack, reason := .rolledBack, serving := .source, cleanup := true,
          discardTarget := true, releaseQuiesce := true }
  | final : o.rollbackWindowClosed = true → o.sourceDropped = true →
      Decided o .completed
        { phase := .completed, reason := .sourceDropped, serving := .target, settled := true }
  | dropping : o.rollbackWindowClosed = true → o.sourceDropped = false →
      Decided o .completed
        { phase := .completed, reason := .sourceDropped, serving := .target, dropSource := true }
  | retained : o.rollbackWindowClosed = false →
      Decided o .completed { phase := .completed, reason := .sourceRetained, serving := .target }

lemma decided_active (hphase : terminal phase = false) :
    Decided o phase (decideActive phase o) := by
  have habandoned : ∀ {ending : Phase} {reason : Reason}, ending = .aborted ∨ ending = .failed →
      Decided o phase (abort ending reason phase o) := fun hending =>
    .abandoned hphase hending rfl rfl
  unfold decideActive
  dsimp only
  split_ifs with habort hfault hbudget hdrain hcutover hready hnext
  · exact habandoned (.inl rfl)
  · exact habandoned (.inr rfl)
  · exact .continued hphase hphase rfl rfl rfl
  · exact habandoned (.inr rfl)
  · exact habandoned (.inr rfl)
  · exact .continued hphase hphase rfl rfl rfl
  · obtain rfl := nextPhase_eq_completed hphase hnext
    rw [hnext]
    exact .cutOver (by simpa using habort) (by simpa using hfault) (by simpa [ready] using hready)
  · exact .continued hphase (terminal_nextPhase hphase hnext) rfl rfl rfl

lemma decided_completed : Decided o .completed (decideCompleted o) := by
  unfold decideCompleted
  split_ifs with hrollback hfinal hclosed
  · simp only [Bool.and_eq_true, Bool.not_eq_true'] at hrollback
    exact .rolledBack hrollback.1 hrollback.2
  · exact .final (by simp_all) (by simp_all)
  · exact .dropping hclosed (by simp_all)
  · exact .retained (by simpa using hclosed)

lemma decided (phase : Phase) (o : Observation) : Decided o phase (decidePhase phase o) := by
  cases phase with
  | failed => exact .ended (.inl rfl)
  | aborted => exact .ended (.inr (.inl rfl))
  | rolledBack => exact .ended (.inr (.inr rfl))
  | completed => exact decided_completed
  | _ => exact decided_active rfl

end PgElastic.Migration
