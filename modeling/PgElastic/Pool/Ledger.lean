import PgElastic.Capacity.Budget
import PgElastic.Pool.ServerLink

/-!
# The budget ledger

The physical account of a pool: how many backend links are open and reusable (`elastic`), and
how many are bound to one client, by the reason that binds them (`pinned`).  A link is counted
in exactly one of the two.
-/

namespace PgElastic.Pool

open Capacity

namespace PinReason

/-- Every reason, in declaration order. -/
def all : List PinReason :=
  [.listen, .holdCursor, .tempTable, .sessionAdvisoryLock, .load, .setSeed,
    .preparedTransaction, .dblink, .desyncedPipeline, .openCopy, .unattributableError]

end PinReason

/-- The split between reusable and pinned backend connections under one limit. -/
structure BudgetLedger where
  limit : Nat
  elastic : Nat
  pinnedFor : PinReason → Nat

inductive BudgetError
  | exhausted
  | nothingCheckedOut
  | notPinned (reason : PinReason)
  deriving DecidableEq, Repr

namespace BudgetLedger

def new (limit : Nat) : BudgetLedger where
  limit := limit
  elastic := 0
  pinnedFor := fun _ => 0

def pinned (ledger : BudgetLedger) : Nat := (PinReason.all.map ledger.pinnedFor).sum

def total (ledger : BudgetLedger) : Nat := ledger.elastic + ledger.pinned

/-- The ceiling the reusable pool can actually reach. -/
def elasticLimit (ledger : BudgetLedger) : Nat := ledger.limit - ledger.pinned

def available (ledger : BudgetLedger) : Nat := ledger.elasticLimit - ledger.elastic

/-- `open`. -/
def openLink (ledger : BudgetLedger) : Except BudgetError BudgetLedger :=
  if ledger.available = 0 then .error .exhausted
  else .ok { ledger with elastic := ledger.elastic + 1 }

def close (ledger : BudgetLedger) : Except BudgetError BudgetLedger :=
  match checkedSub ledger.elastic 1 with
  | none => .error .nothingCheckedOut
  | some elastic => .ok { ledger with elastic := elastic }

/-- Moves an open connection out of the elastic pool. -/
def pin (ledger : BudgetLedger) (reason : PinReason) : Except BudgetError BudgetLedger :=
  match checkedSub ledger.elastic 1 with
  | none => .error .nothingCheckedOut
  | some elastic => .ok { ledger with
      elastic := elastic
      pinnedFor := fun other =>
        if other = reason then ledger.pinnedFor other + 1 else ledger.pinnedFor other }

/-- Takes one connection off a reason's count. -/
def takePinned (ledger : BudgetLedger) (reason : PinReason) :
    Except BudgetError (PinReason → Nat) :=
  match checkedSub (ledger.pinnedFor reason) 1 with
  | none => .error (.notPinned reason)
  | some count =>
    .ok fun other => if other = reason then count else ledger.pinnedFor other

/-- Returns a pinned connection to the elastic pool. -/
def unpin (ledger : BudgetLedger) (reason : PinReason) : Except BudgetError BudgetLedger := do
  let counts ← ledger.takePinned reason
  .ok { ledger with pinnedFor := counts, elastic := ledger.elastic + 1 }

/-- Drops a pinned connection entirely. -/
def closePinned (ledger : BudgetLedger) (reason : PinReason) :
    Except BudgetError BudgetLedger := do
  let counts ← ledger.takePinned reason
  .ok { ledger with pinnedFor := counts }

/-- An answer whose error the pool manager only logs. -/
def orSame (ledger : BudgetLedger) : Except BudgetError BudgetLedger → BudgetLedger
  | .ok changed => changed
  | .error _ => ledger

/-- `record_unpin`: a link is gone, pinned or not. -/
def recordUnpin (ledger : BudgetLedger) : Option PinReason → BudgetLedger
  | none => ledger.orSame ledger.close
  | some reason =>
    match ledger.closePinned reason with
    | .ok changed => changed
    | .error _ => ledger.orSame ledger.close

/-- How many links of a budget may be pinned at once. -/
def pinCeiling (limit : Nat) : Option Nat → Option Nat
  | none => none
  | some percent => some (max ((limit * min percent 100 + 99) / 100) 1)

/-- `record_pin`: `none` when the pinned account is at its share of the budget. -/
def recordPin (ledger : BudgetLedger) (percent : Option Nat) (reason : PinReason) :
    Option BudgetLedger :=
  match pinCeiling ledger.limit percent with
  | some ceiling =>
    if ceiling ≤ ledger.pinned then none else some (ledger.orSame (ledger.pin reason))
  | none => some (ledger.orSame (ledger.pin reason))

/-! ### What the ledger counts

A ledger is `Exact` for a count of links when it has each of them under the right heading.
Every change of a link then has one change of the ledger that keeps it exact. -/

/-- The links of a pool, counted by what pins them. -/
abbrev Census := Option PinReason → Nat

/-- The ledger counts the links of the census. -/
structure Exact (ledger : BudgetLedger) (census : Census) : Prop where
  elastic : ledger.elastic = census none
  pinned : ∀ reason, ledger.pinnedFor reason = census (some reason)

/-- One link more under a heading. -/
def Census.add (census : Census) (pin : Option PinReason) : Census := fun other =>
  if other = pin then census other + 1 else census other

lemma exact_new (limit : Nat) : (new limit).Exact fun _ => 0 :=
  ⟨rfl, fun _ => rfl⟩

lemma checkedSub_succ (n : Nat) : checkedSub (n + 1) 1 = some n := by
  simp [checkedSub]

variable {ledger : BudgetLedger} {census : Census} {reason : PinReason} {ledger' : BudgetLedger}

lemma Exact.openLink (h : ledger.Exact census)
    (hopen : ledger.openLink = .ok ledger') : ledger'.Exact (census.add none) := by
  unfold BudgetLedger.openLink at hopen
  split at hopen
  · cases hopen
  cases hopen
  constructor
  · simp [Census.add, h.elastic]
  · intro reason
    simp [Census.add, h.pinned reason]

lemma Exact.close (h : ledger.Exact (census.add none)) :
    (ledger.orSame ledger.close).Exact census := by
  have helastic : ledger.elastic = census none + 1 := by
    rw [h.elastic]
    simp [Census.add]
  constructor
  · simp [BudgetLedger.close, helastic, checkedSub_succ, orSame]
  intro reason
  have hreason := h.pinned reason
  simp only [Census.add, reduceCtorEq, if_false] at hreason
  simp [BudgetLedger.close, helastic, checkedSub_succ, orSame, hreason]

lemma Exact.takePinned (h : ledger.Exact (census.add (some reason))) :
    ∃ counts, ledger.takePinned reason = .ok counts ∧ ∀ other, counts other = census other := by
  have hcount : ledger.pinnedFor reason = census (some reason) + 1 := by
    rw [h.pinned]
    simp [Census.add]
  refine ⟨fun other => if other = reason then census (some reason) else ledger.pinnedFor other,
    by simp only [BudgetLedger.takePinned, hcount, checkedSub_succ], ?_⟩
  intro other
  by_cases hsame : other = reason
  · simp [hsame]
  · have hother := h.pinned other
    simp only [Census.add, Option.some.injEq, if_neg hsame] at hother
    simp [hsame, hother]

lemma Exact.recordUnpin {pin : Option PinReason} (h : ledger.Exact (census.add pin)) :
    (ledger.recordUnpin pin).Exact census := by
  cases pin with
  | none => exact h.close
  | some reason =>
    obtain ⟨counts, htake, hcounts⟩ := h.takePinned
    have helastic := h.elastic
    simp only [Census.add, reduceCtorEq, if_false] at helastic
    simp only [BudgetLedger.recordUnpin, closePinned, htake, bind, Except.bind]
    exact ⟨helastic, hcounts⟩

lemma Exact.pin (h : ledger.Exact (census.add none)) :
    (ledger.orSame (ledger.pin reason)).Exact (census.add (some reason)) := by
  have helastic : ledger.elastic = census none + 1 := by
    rw [h.elastic]
    simp [Census.add]
  constructor
  · simp [BudgetLedger.pin, helastic, checkedSub_succ, orSame, Census.add]
  intro other
  have hother := h.pinned other
  simp only [Census.add, reduceCtorEq, if_false] at hother
  by_cases hsame : other = reason
  · subst hsame
    simp [BudgetLedger.pin, helastic, checkedSub_succ, orSame, Census.add, hother]
  · simp [BudgetLedger.pin, helastic, checkedSub_succ, orSame, Census.add, hother, hsame]

lemma Exact.recordPin {percent : Option Nat}
    (h : ledger.Exact (census.add none)) (hpin : ledger.recordPin percent reason = some ledger') :
    ledger'.Exact (census.add (some reason)) := by
  unfold BudgetLedger.recordPin at hpin
  split at hpin
  · split at hpin
    · cases hpin
    · cases hpin
      exact h.pin
  · cases hpin
    exact h.pin

lemma Exact.unpin (h : ledger.Exact (census.add (some reason))) :
    (ledger.orSame (ledger.unpin reason)).Exact (census.add none) := by
  obtain ⟨counts, htake, hcounts⟩ := h.takePinned
  have helastic := h.elastic
  simp only [Census.add, reduceCtorEq, if_false] at helastic
  simp only [BudgetLedger.unpin, htake, bind, Except.bind, orSame]
  constructor
  · simp [Census.add, helastic]
  · intro other
    simp [Census.add, hcounts other]

/-- The total of an exact ledger is the number of links. -/
lemma Exact.total (h : ledger.Exact census) :
    ledger.total = census none + (PinReason.all.map fun reason => census (some reason)).sum := by
  have hsum : ledger.pinned = (PinReason.all.map fun reason => census (some reason)).sum := by
    unfold BudgetLedger.pinned
    congr 1
    exact List.map_congr_left fun reason _ => h.pinned reason
  rw [BudgetLedger.total, h.elastic, hsum]

end BudgetLedger
end PgElastic.Pool
