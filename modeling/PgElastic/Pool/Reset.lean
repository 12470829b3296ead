import PgElastic.Pool.ServerLink

/-!
# The reset ladder

Which statements scrub a link before it goes back to the pool, and what becomes of the link
afterwards.  Every plan closes an open transaction first.
-/

namespace PgElastic.Pool

open Wire

/-- How hard to scrub a link before it goes back to the pool. -/
inductive ResetPolicy
  | none
  | dirtyTracked
  | smartDiscard
  | discardAll
  | verified
  deriving DecidableEq, Repr

/-- One statement of a reset plan. -/
inductive ResetStep
  | rollback
  | closeAll
  | deallocateAll
  | discardPlans
  | discardSequences
  | discardAll
  | verify
  deriving DecidableEq, Repr

namespace ResetStep

/-- The statement text. -/
def sql : ResetStep → String
  | .rollback => "ROLLBACK"
  | .closeAll => "CLOSE ALL"
  | .deallocateAll => "DEALLOCATE ALL"
  | .discardPlans => "DISCARD PLANS"
  | .discardSequences => "DISCARD SEQUENCES"
  | .discardAll => "DISCARD ALL"
  | .verify => "SELECT pg_catalog.pg_backend_pid()"

end ResetStep

/-- Whether the pinned state outlives `DISCARD ALL`. -/
def PinReason.forcesClose : PinReason → Bool
  | .listen | .holdCursor | .tempTable | .sessionAdvisoryLock => false
  | _ => true

def TaintSet.contains (set : TaintSet) (taint : Taint) : Bool := set.bits &&& taint.bit != 0

/-- Why a link is closed instead of returned. -/
inductive CloseReason
  | unscrubbable (reason : PinReason)
  | resetDisabled
  deriving DecidableEq, Repr

/-- What happens to the link once the plan has run. -/
inductive ResetDisposition
  | reuse
  | pin (reason : PinReason)
  | close (reason : CloseReason)
  deriving DecidableEq, Repr

/-- The state a link is released from. -/
structure ReleaseContext where
  txStatus : TransactionStatus
  clientGone : Bool
  deriving DecidableEq, Repr

structure ResetPlan where
  steps : List ResetStep
  disposition : ResetDisposition
  deriving DecidableEq, Repr

def withRollback (status : TransactionStatus) (rest : List ResetStep) : List ResetStep :=
  if status = .idle then rest else .rollback :: rest

/-- A session parameter cannot be undone piecemeal, so it takes the full scrub. -/
def smartSteps (taint : TaintSet) : List ResetStep :=
  if taint.contains .sessionParameter then [.discardAll]
  else
    (if taint.contains .cursor then [.closeAll] else []) ++
    (if taint.contains .preparedStatement then [.deallocateAll] else []) ++
    (if taint.contains .planCache then [.discardPlans] else []) ++
    (if taint.contains .sequence then [.discardSequences] else [])

/-- Builds the reset plan for a release.  A pin outranks everything while its client is still
connected. -/
def plan (policy : ResetPolicy) (taint : TaintSet) (pin : Option PinReason)
    (context : ReleaseContext) : ResetPlan :=
  match pin with
  | some reason =>
    if !context.clientGone then ⟨[], .pin reason⟩
    else if reason.forcesClose then ⟨[], .close (.unscrubbable reason)⟩
    else ⟨withRollback context.txStatus [.discardAll], .reuse⟩
  | none =>
    match policy with
    | .none =>
      if taint.isClean then ⟨withRollback context.txStatus [], .reuse⟩
      else ⟨[], .close .resetDisabled⟩
    | .dirtyTracked =>
      ⟨withRollback context.txStatus (if taint.isClean then [] else [.discardAll]), .reuse⟩
    | .smartDiscard => ⟨withRollback context.txStatus (smartSteps taint), .reuse⟩
    | .discardAll => ⟨withRollback context.txStatus [.discardAll], .reuse⟩
    | .verified => ⟨withRollback context.txStatus [.discardAll, .verify], .reuse⟩

end PgElastic.Pool
