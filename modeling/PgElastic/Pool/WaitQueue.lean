import Mathlib.Data.List.Basic

/-!
# The wait queue

A strictly ordered queue of the clients that wait for a backend link.  A slot stands for the
sending half of a waiter's channel; whether the receiving half is still there is known only to
the waiter, so `handOff` is given it as a test.
-/

namespace PgElastic.Pool

/-- Where a waiter joins: a cancel goes ahead of every normal waiter. -/
inductive Priority
  | cancel
  | normal
  deriving DecidableEq, Repr

structure Slot (W : Type) where
  waiter : W
  priority : Priority
  deriving DecidableEq, Repr

inductive WaitError
  | closed
  deriving DecidableEq, Repr

structure WaitQueue (W : Type) where
  slots : List (Slot W)
  closed : Bool
  deriving DecidableEq, Repr

namespace WaitQueue

variable {W : Type} {queue : WaitQueue W}

def new : WaitQueue W := ⟨[], false⟩

/-- The waiters, first come first. -/
def waiters (queue : WaitQueue W) : List W := queue.slots.map (·.waiter)

/-- Where a slot of the given priority goes. -/
def position (slots : List (Slot W)) : Priority → Nat
  | .cancel => slots.findIdx fun existing => decide (existing.priority = .normal)
  | .normal => slots.length

def enqueue (queue : WaitQueue W) (priority : Priority) (waiter : W) :
    Except WaitError (WaitQueue W) :=
  if queue.closed then .error .closed
  else .ok { queue with
    slots := queue.slots.insertIdx (position queue.slots priority) ⟨waiter, priority⟩ }

/-- Pops slots until one has a waiter that still listens. -/
def popLive (listening : W → Bool) : List (Slot W) → Option W × List (Slot W)
  | [] => (none, [])
  | slot :: rest =>
    if listening slot.waiter then (some slot.waiter, rest) else popLive listening rest

/-- `hand_off`: who gets the value, if anybody. -/
def handOff (queue : WaitQueue W) (listening : W → Bool) : Option W × WaitQueue W :=
  ((popLive listening queue.slots).1, { queue with slots := (popLive listening queue.slots).2 })

/-- `Drop` of a waiter: its slot is removed if it is still there. -/
def deregister [DecidableEq W] (queue : WaitQueue W) (waiter : W) : WaitQueue W :=
  { queue with slots := queue.slots.eraseP fun slot => decide (slot.waiter = waiter) }

lemma enqueue_normal (hopen : queue.closed = false) (waiter : W) :
    ∃ queue', queue.enqueue .normal waiter = .ok queue' ∧ queue'.closed = false ∧
      queue'.waiters = queue.waiters ++ [waiter] := by
  obtain ⟨slots, closed⟩ := queue
  subst hopen
  refine ⟨⟨slots ++ [⟨waiter, .normal⟩], false⟩, ?_, rfl, ?_⟩
  · simp [enqueue, position, List.insertIdx_length_self]
  · simp [waiters]

/-- With a listener at its head, a queue loses exactly its head. -/
lemma handOff_head {listening : W → Bool} {waiter : W} {rest : List W}
    (hwaiters : queue.waiters = waiter :: rest) (hlistening : listening waiter) :
    (queue.handOff listening).1 = some waiter ∧ (queue.handOff listening).2.waiters = rest := by
  obtain ⟨slots, closed⟩ := queue
  cases slots with
  | nil => cases hwaiters
  | cons slot others =>
    simp only [waiters, List.map_cons, List.cons.injEq] at hwaiters
    obtain ⟨rfl, hrest⟩ := hwaiters
    simp only [handOff, popLive, hlistening, if_true, waiters]
    exact ⟨trivial, hrest⟩

lemma waiters_deregister [DecidableEq W] (queue : WaitQueue W) (waiter : W) :
    (queue.deregister waiter).waiters = queue.waiters.erase waiter := by
  obtain ⟨slots, closed⟩ := queue
  simp only [deregister, waiters]
  induction slots with
  | nil => rfl
  | cons slot rest ih =>
    by_cases hsame : slot.waiter = waiter
    · simp [hsame]
    · simp [hsame, ih]

end WaitQueue
end PgElastic.Pool
