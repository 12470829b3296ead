import Mathlib.Data.Nat.Basic

/-!
# Backend connect admission

The connect gate of `pgelastic-pool`: one attempt at a time, and a cached failure the clients
that arrive during the backoff are refused with.  A permit shares the gate it was given by, so
settling one is an operation of the gate.  The gate never looks into a failure, and is generic
in it; instants and durations are numbers.
-/

namespace PgElastic.Pool

structure ConnectGate (F : Type) where
  inFlight : Bool
  retryInterval : Nat
  blockedUntil : Option Nat
  lastFailure : Option F
  deriving DecidableEq, Repr

/-- What a client that asks for a new connection should do. -/
inductive ConnectDecision (F : Type)
  | start
  | alreadyInFlight
  | backingOff (failure : F)
  deriving DecidableEq, Repr

namespace ConnectGate

variable {F : Type}

def new (retryInterval : Nat) : ConnectGate F where
  inFlight := false
  retryInterval := retryInterval
  blockedUntil := none
  lastFailure := none

/-- Whether the backoff window is still open. -/
def isBlocked (gate : ConnectGate F) (now : Nat) : Bool :=
  gate.blockedUntil.any fun limit => decide (now < limit)

/-- The error a newly arrived client should be failed with, if any. -/
def cachedFailure (gate : ConnectGate F) (now : Nat) : Option F :=
  if gate.isBlocked now then gate.lastFailure else none

def tryStart (gate : ConnectGate F) (now : Nat) : ConnectDecision F × ConnectGate F :=
  match gate.cachedFailure now with
  | some failure => (.backingOff failure, gate)
  | none =>
    if gate.inFlight then (.alreadyInFlight, gate)
    else (.start, { gate with inFlight := true })

/-- The connection is up; clears any backoff. -/
def succeeded (gate : ConnectGate F) : ConnectGate F :=
  { gate with inFlight := false, blockedUntil := none, lastFailure := none }

/-- The connection failed; starts the backoff window. -/
def failed (gate : ConnectGate F) (failure : F) (now : Nat) : ConnectGate F :=
  { gate with
    inFlight := false
    blockedUntil := some (now + gate.retryInterval)
    lastFailure := some failure }

/-- A permit is dropped without having settled: the slot is free, and nothing is recorded. -/
def dropped (gate : ConnectGate F) : ConnectGate F := { gate with inFlight := false }

/-- The gate starts an attempt only when none is running and no failure is cached, and marks
it as running. -/
lemma tryStart_cases (gate : ConnectGate F) (now : Nat) :
    (gate.tryStart now = (.start, { gate with inFlight := true }) ∧
        gate.inFlight = false ∧ gate.cachedFailure now = none) ∨
      ((gate.tryStart now).1 ≠ .start ∧ (gate.tryStart now).2 = gate) := by
  unfold tryStart
  cases hcached : gate.cachedFailure now with
  | some failure =>
    refine .inr ⟨?_, rfl⟩
    intro hstart
    cases hstart
  | none =>
    cases hflight : gate.inFlight with
    | true =>
      refine .inr ⟨?_, rfl⟩
      intro hstart
      cases hstart
    | false => exact .inl ⟨rfl, rfl, rfl⟩

/-- While the backoff window is open, a recorded failure is a cached one. -/
lemma cachedFailure_of_blocked {gate : ConnectGate F} {limit now : Nat} {failure : F}
    (hlimit : gate.blockedUntil = some limit) (hfailure : gate.lastFailure = some failure)
    (hnow : now < limit) : gate.cachedFailure now = some failure := by
  have hblocked : gate.isBlocked now := by
    rw [isBlocked, hlimit, Option.any_some, decide_eq_true hnow]
  rw [cachedFailure, if_pos hblocked, hfailure]

end ConnectGate
end PgElastic.Pool
