import PgElastic.Migration.Safety

/-!
# The pause a cutover may cost

The clock of a migration's hold starts in the pass that enters the quiescing phase, and every pass
compares it with `cutoverTimeout`.  The comparison comes after the answer to a fault: while the
phase's effect fails and the retry budget lasts, the clients stay queued past their budget.
-/

namespace PgElastic.Migration

open Library Option

variable {I : Type} [DecidableEq I] {w w' : World I} {m : PgTenantMigration I} {source : I}
  {p : Pass} {o : Observation} {phase : Phase}

/-! ### The clock of the hold -/

/-- The decision comes to the deadline: an abort is asked for, the phase's effect has not failed, or
it has been failing for longer than the retry budget. -/
def Answered (w : World I) (m : PgTenantMigration I) (source : I) (p : Pass) : Prop :=
  m.abort = true ∨ (work w m source p).2.1 = false ∨
    exceeded m.faultingSince migrationRetryBudget p.now = true

end PgElastic.Migration
