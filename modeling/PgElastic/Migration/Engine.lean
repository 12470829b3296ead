import PgElastic.Library.Transition
import PgElastic.Migration.Machine

/-!
# Reconcile passes over one tenant

A tenant has one binding, which names the instance it is routed to, and on every instance at most
one database of its own, which may refuse connections.  Any number of migrations of the tenant
are reconciled, one pass at a time: a pass reads its migration's status, runs the phase's effect,
decides, applies the decision's effects and publishes the new status.

Every effect may fail, without having acted or after it has, and the status write may be lost.  A
crash is a pass whose effects all fail from some point on and whose status is lost.  What a pass
reads besides the tenant's state (copy progress, positions, verification, the clock) is an input
of the pass; the clean-up ladder and the proxies' gates touch nothing modelled here.
-/

namespace PgElastic.Migration

open Library

/-- How an effect went; `halfway` has acted and reports a failure. -/
inductive Outcome
  | done | failed | halfway
  deriving DecidableEq, Repr

/-- An effect on the tenant. -/
inductive Effect (I : Type)
  | fence (place : I)
  | unfence (place : I)
  | route (place : I)
  | create (place : I)
  | drop (place : I)
  | resume
  | release
  deriving DecidableEq, Repr

/-- The effect, unless it failed before it acted. -/
def Outcome.effects {I : Type} (outcome : Outcome) (effect : Effect I) : List (Effect I) :=
  if outcome = .failed then [] else [effect]

/-- A migration: what it asks for, and its published status. -/
structure PgTenantMigration (I : Type) where
  target : I
  strategy : Strategy
  drainTimeout : Nat
  cutoverTimeout : Nat
  rollbackWindow : Nat
  abort : Bool := false
  rollback : Bool := false
  phase : Phase := .preflight
  source : Option I := none
  quiescedAt : Option Nat := none
  faultingSince : Option Nat := none
  rollbackDeadline : Option Nat := none
  sourceDropped : Bool := false
  deriving DecidableEq, Repr

/-- The tenant's binding, its database on every instance, and its migrations. -/
structure World (I : Type) where
  routing : Option I
  fenced : I → Bool
  hosted : I → Bool
  migrations : OrderedMap Nat (PgTenantMigration I)

/-- What one pass meets. -/
structure Pass where
  now : Nat
  resolves : Bool := true
  /-- A reading or working effect of the phase fails. -/
  fault : Bool := false
  /-- The phase's signal; in the cutover, the subscriber has confirmed the final position. -/
  ready : Bool := true
  provision : Outcome := .done
  fence : Outcome := .done
  flip : Outcome := .done
  unfence : Outcome := .done
  reads : Bool := true
  restore : Outcome := .done
  finish : Outcome := .done
  discard : Outcome := .done
  dropSource : Outcome := .done
  published : Bool := true
  deriving DecidableEq, Repr

/-- How long one phase may go on failing, in milliseconds. -/
def migrationRetryBudget : Nat := 120000

section Model

variable {I : Type} [DecidableEq I]

def World.perform (w : World I) : Effect I → World I
  | .fence i => { w with fenced := Function.update w.fenced i true }
  | .unfence i => { w with fenced := Function.update w.fenced i false }
  | .route i => { w with routing := some i }
  | .create i => { w with hosted := Function.update w.hosted i true }
  | .drop i => { w with hosted := Function.update w.hosted i false }
  | .resume | .release => w

def World.performAll (w : World I) (effects : List (Effect I)) : World I :=
  effects.foldl World.perform w

/-- The binding is absent, or names one of the migration's own instances. -/
def ownsRouting (source target : I) (routed : Option I) : Bool :=
  routed = none || routed = some source || routed = some target

/-- The effects of the cutover, whether it failed and whether it is complete. -/
def cutover (w : World I) (m : PgTenantMigration I) (source : I) (p : Pass) :
    List (Effect I) × Bool × Bool :=
  if p.fault then ([], true, false)
  else if m.strategy = .online && !p.ready then ([], false, false)
  else if !ownsRouting source m.target w.routing then ([], true, false)
  else if p.fence ≠ .done then (p.fence.effects (.fence source), true, false)
  else if p.flip ≠ .done then (.fence source :: p.flip.effects (.route m.target), true, false)
  else ([.fence source, .route m.target], false, true)

/-- The effect of the current phase: what it does, whether it failed, and its signal. -/
def work (w : World I) (m : PgTenantMigration I) (source : I) (p : Pass) :
    List (Effect I) × Bool × Signals :=
  match m.phase with
  | .preflight => ([], false, { preflightPassed := p.ready })
  | .provisioning =>
      if p.fault then ([], true, {})
      else (p.provision.effects (.create m.target), p.provision ≠ .done,
        { provisioned := p.provision = .done })
  | .preWarm => ([], p.fault, { preWarmed := !p.fault })
  | .copying => ([], p.fault, { copyComplete := !p.fault && p.ready })
  | .catchup => ([], p.fault, { caughtUp := !p.fault && p.ready })
  | .quiescing => ([], p.fault, { drained := !p.fault && p.ready })
  | .cutover =>
      let (effects, fault, complete) := cutover w m source p
      (effects, fault, { cutoverComplete := complete })
  | _ => ([], true, {})

/-- More than `budget` has passed since `start`. -/
def exceeded (start : Option Nat) (budget now : Nat) : Bool :=
  match start with
  | none => false
  | some start => start + budget < now

def rollbackWindowClosed (m : PgTenantMigration I) (now : Nat) : Bool :=
  match m.rollbackDeadline with
  | none => false
  | some deadline => deadline ≤ now

/-- Runs the current phase's effect; an aborted or finished migration has none. -/
def step (w : World I) (m : PgTenantMigration I) (source : I) (p : Pass) :
    List (Effect I) × Observation :=
  let (effects, fault, signals) :=
    if m.abort || terminal m.phase then ([], false, {}) else work w m source p
  (effects,
    { strategy := m.strategy
      abortRequested := m.abort
      rollbackRequested := m.rollback
      rollbackWindowClosed := rollbackWindowClosed m p.now
      sourceDropped := m.sourceDropped
      fault := fault
      faultBudgetExceeded := fault && exceeded m.faultingSince migrationRetryBudget p.now
      signals := signals
      drainDeadlineExceeded := m.phase = .quiescing && 0 < m.drainTimeout &&
        exceeded m.quiescedAt m.drainTimeout p.now && !signals.drained
      cutoverDeadlineExceeded := 0 < m.cutoverTimeout &&
        exceeded m.quiescedAt m.cutoverTimeout p.now && !signals.cutoverComplete })

/-- Readmits connections to the source and routes the tenant back to it. -/
def restoreSource (w : World I) (source target : I) (p : Pass) : List (Effect I) :=
  if p.unfence ≠ .done then p.unfence.effects (.unfence source)
  else .unfence source ::
    if !p.reads || w.routing = some source || !ownsRouting source target w.routing then []
    else p.restore.effects (.route source)

/-- Drops the tenant's database, where the instance has it. -/
def dropOwnedDatabase (w : World I) (place : I) (outcome : Outcome) : List (Effect I) :=
  if w.hosted place then outcome.effects (.drop place) else []

/-- Ends the hold: `Resume` commits the flip, `Release` abandons it. -/
def finish (d : Decision) (p : Pass) : List (Effect I) :=
  if d.releaseQuiesce then
    p.finish.effects (if d.serving = .target then .resume else .release)
  else []

def apply (w : World I) (m : PgTenantMigration I) (source : I) (d : Decision) (p : Pass) :
    List (Effect I) :=
  (if d.serving = .source then restoreSource w source m.target p else []) ++ finish d p ++
    (if d.discardTarget then dropOwnedDatabase w m.target p.discard else []) ++
    if d.dropSource then dropOwnedDatabase w source p.dropSource else []

/-- The status to publish. -/
def record (m : PgTenantMigration I) (o : Observation) (d : Decision) (now : Nat) :
    PgTenantMigration I :=
  { m with
    phase := d.phase
    faultingSince := if o.fault then m.faultingSince.or (some now) else none
    quiescedAt := if d.phase = .quiescing then m.quiescedAt.or (some now) else m.quiescedAt
    rollbackDeadline :=
      if d.phase = .completed then m.rollbackDeadline.or (some (now + m.rollbackWindow))
      else m.rollbackDeadline
    sourceDropped := if d.settled then m.sourceDropped else d.reason = .sourceDropped }

/-- What a pass did: the effects of its phase and those of its decision. -/
structure Report (I : Type) where
  worked : List (Effect I) := []
  applied : List (Effect I) := []

def Report.effects (r : Report I) : List (Effect I) := r.worked ++ r.applied

def World.publish (w : World I) (id : Nat) (m : PgTenantMigration I) (p : Pass) : World I :=
  if p.published then { w with migrations := w.migrations.insert id m } else w

/-- One pass of one migration.  Its source is the instance the tenant is bound to when the
migration is first resolved. -/
def World.reconcile (w : World I) (id : Nat) (p : Pass) : Option (Report I × World I) := do
  let m ← w.migrations.get? id
  match m.source.or w.routing with
  | none => some ({}, w)
  | some source =>
      let m := { m with source := some source }
      if source = m.target || !p.resolves then some ({}, w.publish id m p)
      else
        let (worked, o) := step w m source p
        let stepped := w.performAll worked
        let d := decidePhase m.phase o
        let applied := apply stepped m source d p
        some (⟨worked, applied⟩, (stepped.performAll applied).publish id (record m o d p.now) p)

inductive Action (I : Type)
  | create (id : Nat) (m : PgTenantMigration I)
  | annotate (id : Nat) (abort rollback : Bool)
  | reconcile (id : Nat) (p : Pass)

/-- A migration nobody has reconciled yet. -/
def PgTenantMigration.fresh (m : PgTenantMigration I) : PgTenantMigration I :=
  { target := m.target, strategy := m.strategy, drainTimeout := m.drainTimeout,
    cutoverTimeout := m.cutoverTimeout, rollbackWindow := m.rollbackWindow, abort := m.abort,
    rollback := m.rollback }

def World.next (w : World I) : Action I → Option (World I)
  | .create id m =>
      if w.migrations.get? id = none then
        some { w with migrations := w.migrations.insert id m.fresh }
      else none
  | .annotate id abort rollback =>
      (w.migrations.get? id).map fun m =>
        { w with migrations := w.migrations.insert id { m with abort := abort, rollback := rollback } }
  | .reconcile id p => (w.reconcile id p).map Prod.snd

def system (I : Type) [DecidableEq I] : System (World I) (Action I) where
  init w := w.migrations = OrderedMap.empty
  step w action w' := w.next action = some w'

end Model

end PgElastic.Migration
