import PgElastic.Library.OrderedMap
import PgElastic.Library.Transition

/-!
# A tenant's admission gate

`TenantGate` of `pgelastic-proxy`: the gate a cutover closes to hold a tenant's
clients still, the first-in-first-out queue behind it, and the lease that entitles
one holder to keep it closed.

The source keeps the parts of a gate under separate locks and atomics.  Each
section that runs under one of them is a function here, and the calls
(`quiesce`, `resume`, `unquiesce`, `reap`, `pass`) are compositions of sections.
The interleaved model of a cutover runs the same sections one at a time.

Holders `H`, instances `I` and waiting clients `W` are arbitrary types.  Clock
readings and durations are natural numbers, and a call takes its reading as an
argument.
-/

namespace PgElastic.Proxy

open Library

/-- Why a control-plane call was refused. -/
inductive QuiesceError (H I : Type)
  | leaseHeld (holder : H) (expiresIn : Nat)
  | notQuiesced
  | ttlTooLong (requested max : Nat)
  | noSuchInstance (name : I)
  | notHeld
  deriving DecidableEq, Repr

/-- The lease that entitles one holder to keep a gate closed.  `source` is the
route to go back to; it is given up when the holder resumes. -/
structure Lease (H I : Type) where
  holder : H
  ttl : Nat
  expires : Nat
  source : Option I
  deriving DecidableEq, Repr

namespace Lease

variable {H I : Type}

def expiresIn (lease : Lease H I) (now : Nat) : Nat := lease.expires - now

def expired (lease : Lease H I) (now : Nat) : Bool := decide (lease.expires ≤ now)

/-- Whether a rollback to the source is still available. -/
def reversible (lease : Lease H I) : Bool := lease.source.isSome

/-- `check_holder`: only the lease's own holder may use it. -/
def checkHolder [DecidableEq H] (lease : Lease H I) (holder : H) (now : Nat) :
    Except (QuiesceError H I) Unit :=
  if lease.holder = holder then .ok ()
  else .error (.leaseHeld lease.holder (lease.expiresIn now))

end Lease

/-- What dropping an expired lease implied. -/
structure Expired (H I : Type) where
  holder : H
  rollback : Option I
  held : Option Nat
  deriving DecidableEq, Repr

/-- The clients waiting behind a gate, by ticket.  `running` is set between a
waiter being woken and it releasing its baton. -/
structure Queue (W : Type) where
  nextTicket : Nat
  waiting : OrderedMap Nat W
  running : Bool

/-- A gate.  `fast` is the lock-free admission hint. -/
structure TenantGate (H I W : Type) where
  isOpen : Bool
  queue : Queue W
  lease : Option (Lease H I)
  inFlight : Nat
  fast : Bool
  admittedWhileQueued : Nat
  closedAt : Option Nat

namespace TenantGate

variable {H I W : Type}

def new : TenantGate H I W where
  isOpen := true
  queue := ⟨0, OrderedMap.empty, false⟩
  lease := none
  inFlight := 0
  fast := true
  admittedWhileQueued := 0
  closedAt := none

/-- Whether the gate lets a newcomer through without queueing. -/
def admits (g : TenantGate H I W) : Bool :=
  g.isOpen && g.queue.waiting.entries.isEmpty && !g.queue.running

/-- Closed with nothing registered as holding a backend: what `drainStatus` reports
as the instant a cutover may proceed. -/
def drained (g : TenantGate H I W) : Bool := !g.isOpen && g.inFlight == 0

def queued (g : TenantGate H I W) : Nat := g.queue.waiting.entries.length

/-- `hold`: a backend is held for as long as the guard lives. -/
def hold (g : TenantGate H I W) : TenantGate H I W := { g with inFlight := g.inFlight + 1 }

/-- The guard of `hold` is dropped. -/
def unhold (g : TenantGate H I W) : TenantGate H I W := { g with inFlight := g.inFlight - 1 }

/-- Recomputes the lock-free admission hint. -/
def refreshFast (g : TenantGate H I W) : TenantGate H I W := { g with fast := g.admits }

/-- The locked section of `admit`: through at once, or queued under a ticket. -/
def enterQueue (g : TenantGate H I W) (client : W) : Option Nat × TenantGate H I W :=
  if g.admits then (none, g.refreshFast)
  else
    let ticket := g.queue.nextTicket
    (some ticket, refreshFast { g with
        queue :=
          { g.queue with
            nextTicket := ticket + 1
            waiting := g.queue.waiting.insert ticket client } })

/-- The waiter's `admit` returns. -/
def countResumed (g : TenantGate H I W) : TenantGate H I W :=
  { g with admittedWhileQueued := g.admittedWhileQueued + 1 }

/-- The loop of `pass`: tickets are removed in order until one of the wake-ups is
delivered. -/
def wakeFirst (delivers : W → Bool) :
    List (Nat × W) → OrderedMap Nat W → Option W × OrderedMap Nat W
  | [], waiting => (none, waiting)
  | (ticket, client) :: rest, waiting =>
    if delivers client then (some client, waiting.erase ticket)
    else wakeFirst delivers rest (waiting.erase ticket)

/-- Wakes the client at the head of the queue, if the gate is open.  `delivers`
says which waiting clients are still there to be woken. -/
def pass (delivers : W → Bool) (g : TenantGate H I W) : Option W × TenantGate H I W :=
  let stopped := { g with queue := { g.queue with running := false } }
  if g.isOpen then
    let (woken, waiting) := wakeFirst delivers g.queue.waiting.entries g.queue.waiting
    (woken, refreshFast
      { g with queue := { g.queue with waiting := waiting, running := woken.isSome } })
  else (none, stopped.refreshFast)

/-- A waiting client goes away. -/
def withdraw (g : TenantGate H I W) (ticket : Nat) : TenantGate H I W :=
  refreshFast { g with queue := { g.queue with waiting := g.queue.waiting.erase ticket } }

section Lease

variable [DecidableEq H]

/-- The lease a `quiesce` takes.  A renewal by the live holder keeps the rollback
as it is; every other lease is armed with the route read by the caller. -/
def takenLease (g : TenantGate H I W) (holder : H) (ttl : Nat) (source : I) (now : Nat) :
    Except (QuiesceError H I) (Lease H I) :=
  match g.lease with
  | none => .ok ⟨holder, ttl, now + ttl, some source⟩
  | some live =>
    if live.expired now then .ok ⟨holder, ttl, now + ttl, some source⟩
    else if live.holder = holder then .ok ⟨holder, ttl, now + ttl, live.source⟩
    else .error (.leaseHeld live.holder (live.expiresIn now))

/-- The lease section of `quiesce`, after the check of the requested length. -/
def takeLease (g : TenantGate H I W) (holder : H) (ttl maxTtl : Nat) (source : I) (now : Nat) :
    Except (QuiesceError H I) (Lease H I × TenantGate H I W) :=
  if maxTtl < ttl then .error (.ttlTooLong ttl maxTtl)
  else (g.takenLease holder ttl source now).map fun taken =>
    (taken, { g with lease := some taken })

/-- `open.send_replace(false)`. -/
def shut (g : TenantGate H I W) : TenantGate H I W := { g with isOpen := false }

/-- The clock starts with the `quiesce` that actually closed the gate. -/
def startClock (g : TenantGate H I W) (wasOpen : Bool) (now : Nat) : TenantGate H I W :=
  if wasOpen then { g with closedAt := some now } else g

/-- Closes the gate under a lease. -/
def quiesce (g : TenantGate H I W) (holder : H) (ttl maxTtl : Nat) (source : I) (now : Nat) :
    Except (QuiesceError H I) (Lease H I × TenantGate H I W) :=
  (g.takeLease holder ttl maxTtl source now).map fun (taken, leased) =>
    (taken, leased.shut.refreshFast.startClock leased.isOpen now)

/-- How long the gate has been closed. -/
def heldFor (g : TenantGate H I W) (now : Nat) : Option Nat :=
  g.closedAt.map fun closed => now - closed

/-- `open.send_replace(true)`. -/
def unbar (g : TenantGate H I W) : TenantGate H I W := { g with isOpen := true }

def stopClock (g : TenantGate H I W) : TenantGate H I W := { g with closedAt := none }

/-- Opens the gate and wakes the head of the queue.  The count is the number of
clients that were queued. -/
def openGate (delivers : W → Bool) (g : TenantGate H I W) : Nat × Option W × TenantGate H I W :=
  (g.queued, pass delivers g.unbar.refreshFast.stopClock)

/-- The lease section of `resume`: the rollback is given up. -/
def commitLease (g : TenantGate H I W) (holder : H) (now : Nat) :
    Except (QuiesceError H I) (TenantGate H I W) :=
  match g.lease with
  | none => .error .notQuiesced
  | some live =>
    (live.checkHolder holder now).map fun _ =>
      { g with lease := some { live with source := none } }

/-- Opens the gate and commits whatever route is current. -/
def resume (delivers : W → Bool) (g : TenantGate H I W) (holder : H) (now : Nat) :
    Except (QuiesceError H I) (Nat × Option W × TenantGate H I W) :=
  (g.commitLease holder now).map (openGate delivers)

/-- The lease section of `unquiesce`: the lease is dropped, and the rollback it
implies returned. -/
def dropLease (g : TenantGate H I W) (holder : H) (now : Nat) :
    Except (QuiesceError H I) (Option I × TenantGate H I W) :=
  match g.lease with
  | none => .error .notQuiesced
  | some live =>
    (live.checkHolder holder now).map fun _ => (live.source, { g with lease := none })

/-- Releases the lease and opens the gate. -/
def unquiesce (delivers : W → Bool) (g : TenantGate H I W) (holder : H) (now : Nat) :
    Except (QuiesceError H I) (Option I × Option W × TenantGate H I W) :=
  (g.dropLease holder now).map fun (rollback, dropped) =>
    (rollback, (openGate delivers dropped).2)

/-- The lease section of `reap`: an expired lease is dropped. -/
def reapLease (g : TenantGate H I W) (now : Nat) : Option (Lease H I × TenantGate H I W) :=
  match g.lease with
  | none => none
  | some live => if live.expired now then some (live, { g with lease := none }) else none

/-- Drops an expired lease, reporting the rollback it implies. -/
def reap (delivers : W → Bool) (g : TenantGate H I W) (now : Nat) :
    Option (Expired H I × Option W × TenantGate H I W) :=
  (g.reapLease now).map fun (live, dropped) =>
    (⟨live.holder, live.source, dropped.heldFor now⟩, (openGate delivers dropped).2)

/-- Checks that `holder` owns the lease of a closed gate. -/
def assertHeld (g : TenantGate H I W) (holder : H) (now : Nat) :
    Except (QuiesceError H I) Unit :=
  match g.lease with
  | none => .error .notQuiesced
  | some live => do
      live.checkHolder holder now
      if g.isOpen then .error .notHeld else .ok ()

end Lease

/-! ### What the sections change -/

@[simp] lemma isOpen_refreshFast (g : TenantGate H I W) : g.refreshFast.isOpen = g.isOpen := rfl

@[simp] lemma lease_refreshFast (g : TenantGate H I W) : g.refreshFast.lease = g.lease := rfl

@[simp] lemma inFlight_refreshFast (g : TenantGate H I W) :
    g.refreshFast.inFlight = g.inFlight := rfl

variable {g : TenantGate H I W}

/-- A refreshed hint admits nobody through a closed gate. -/
lemma fast_refreshFast_of_closed (h : g.isOpen = false) : g.refreshFast.fast = false := by
  simp [refreshFast, admits, h]

lemma isOpen_of_fast_refreshFast (h : g.refreshFast.fast) : g.isOpen := by
  cases hopen : g.isOpen with
  | true => rfl
  | false => rw [fast_refreshFast_of_closed hopen] at h; cases h

lemma isOpen_of_fast_withdraw {ticket : Nat} (h : (g.withdraw ticket).fast) : g.isOpen := by
  have hopen := isOpen_of_fast_refreshFast h
  exact hopen

/-- `pass` touches the queue and the hint only. -/
lemma pass_frame (delivers : W → Bool) (g : TenantGate H I W) :
    (g.pass delivers).2.isOpen = g.isOpen ∧ (g.pass delivers).2.lease = g.lease ∧
      (g.pass delivers).2.inFlight = g.inFlight := by
  unfold pass
  split <;> exact ⟨rfl, rfl, rfl⟩

/-- A closed gate wakes nobody, and its hint is refreshed. -/
lemma pass_of_closed (delivers : W → Bool) (h : g.isOpen = false) :
    (g.pass delivers).1 = none ∧ (g.pass delivers).2.fast = false := by
  unfold pass
  rw [if_neg (by simp [h])]
  exact ⟨rfl, fast_refreshFast_of_closed h⟩

/-- The hint a `pass` leaves is never ahead of the gate. -/
lemma isOpen_of_fast_pass (delivers : W → Bool) (h : (g.pass delivers).2.fast) : g.isOpen := by
  cases hopen : g.isOpen with
  | true => rfl
  | false => rw [(pass_of_closed delivers hopen).2] at h; cases h

/-- The locked section of `admit` lets nobody through a closed gate. -/
lemma enterQueue_refused (h : g.admits = false) (client : W) :
    g.enterQueue client = (some g.queue.nextTicket, refreshFast { g with
        queue :=
          { g.queue with
            nextTicket := g.queue.nextTicket + 1
            waiting := g.queue.waiting.insert g.queue.nextTicket client } }) :=
  if_neg (by simp [h])

lemma enterQueue_of_closed (h : g.isOpen = false) (client : W) :
    (g.enterQueue client).1 = some g.queue.nextTicket ∧ (g.enterQueue client).2.fast = false := by
  rw [enterQueue_refused (by simp [admits, h])]
  exact ⟨rfl, fast_refreshFast_of_closed h⟩

lemma enterQueue_frame (g : TenantGate H I W) (client : W) :
    (g.enterQueue client).2.isOpen = g.isOpen ∧ (g.enterQueue client).2.lease = g.lease ∧
      (g.enterQueue client).2.inFlight = g.inFlight := by
  unfold enterQueue
  split <;> exact ⟨rfl, rfl, rfl⟩

lemma openGate_spec (delivers : W → Bool) (g : TenantGate H I W) :
    (g.openGate delivers).2.2.isOpen ∧ (g.openGate delivers).2.2.lease = g.lease := by
  obtain ⟨hopen, hlease, -⟩ := pass_frame delivers g.unbar.refreshFast.stopClock
  exact ⟨hopen, hlease⟩

section LeaseSpecs

variable [DecidableEq H]

variable {g g' : TenantGate H I W} {holder : H} {ttl now : Nat} {source : I} {taken : Lease H I}
  {live : Lease H I} {maxTtl : Nat}

/-- A lease is either a renewal by its live holder, which keeps the rollback, or
taken anew, over nothing or over an expired lease. -/
lemma takenLease_cases (h : g.takenLease holder ttl source now = .ok taken) :
    taken.holder = holder ∧
      ((∃ live, g.lease = some live ∧ live.holder = holder ∧ live.expired now = false ∧
          taken.source = live.source) ∨
        (∀ live, g.lease = some live → live.expired now) ∧ taken.source = some source) := by
  unfold takenLease at h
  cases hlease : g.lease with
  | none =>
    rw [hlease] at h
    cases h
    exact ⟨rfl, .inr ⟨by simp, rfl⟩⟩
  | some live =>
    simp only [hlease] at h
    split at h
    · rename_i hexpired
      cases h
      refine ⟨rfl, .inr ⟨?_, rfl⟩⟩
      intro other hother
      cases hother
      exact hexpired
    rename_i hexpired
    split at h
    · rename_i hholder
      cases h
      exact ⟨rfl, .inl ⟨live, rfl, hholder, by simpa using hexpired, rfl⟩⟩
    · cases h

lemma takeLease_ok (h : g.takeLease holder ttl maxTtl source now = .ok (taken, g')) :
    g.takenLease holder ttl source now = .ok taken ∧ g' = { g with lease := some taken } := by
  unfold takeLease at h
  split at h
  · cases h
  obtain ⟨lease, htaken, ⟨⟩⟩ := ok_of_map h
  exact ⟨htaken, rfl⟩

lemma quiesce_ok (h : g.quiesce holder ttl maxTtl source now = .ok (taken, g')) :
    g.takenLease holder ttl source now = .ok taken ∧ g'.isOpen = false ∧ g'.lease = some taken := by
  unfold quiesce at h
  obtain ⟨⟨lease, leased⟩, hlease, ⟨⟩⟩ := ok_of_map h
  obtain ⟨htaken, rfl⟩ := takeLease_ok hlease
  refine ⟨htaken, ?_, ?_⟩
  · simp only [startClock]
    split <;> rfl
  · simp only [startClock]
    split <;> rfl

lemma holder_of_checkHolder (h : live.checkHolder holder now = .ok ()) : live.holder = holder := by
  unfold Lease.checkHolder at h
  split at h
  · assumption
  · cases h

lemma commitLease_ok (h : g.commitLease holder now = .ok g') :
    ∃ live, g.lease = some live ∧ live.holder = holder ∧
      g' = { g with lease := some { live with source := none } } := by
  unfold commitLease at h
  cases hlease : g.lease with
  | none => rw [hlease] at h; cases h
  | some live =>
    simp only [hlease] at h
    obtain ⟨u, hcheck, rfl⟩ := ok_of_map h
    exact ⟨live, rfl, holder_of_checkHolder hcheck, rfl⟩

lemma dropLease_ok {rollback : Option I} (h : g.dropLease holder now = .ok (rollback, g')) :
    ∃ live, g.lease = some live ∧ live.holder = holder ∧ rollback = live.source ∧
      g' = { g with lease := none } := by
  unfold dropLease at h
  cases hlease : g.lease with
  | none => rw [hlease] at h; cases h
  | some live =>
    simp only [hlease] at h
    obtain ⟨u, hcheck, ⟨⟩⟩ := ok_of_map h
    exact ⟨live, rfl, holder_of_checkHolder hcheck, rfl, rfl⟩

omit [DecidableEq H] in
lemma reapLease_some (h : g.reapLease now = some (live, g')) :
    g.lease = some live ∧ live.expired now ∧ g' = { g with lease := none } := by
  unfold reapLease at h
  cases hlease : g.lease with
  | none => rw [hlease] at h; cases h
  | some lease =>
    simp only [hlease] at h
    split at h
    · cases h
      exact ⟨rfl, by assumption, rfl⟩
    · cases h

lemma assertHeld_ok (h : g.assertHeld holder now = .ok ()) :
    g.isOpen = false ∧ ∃ live, g.lease = some live ∧ live.holder = holder := by
  unfold assertHeld at h
  cases hlease : g.lease with
  | none => rw [hlease] at h; cases h
  | some live =>
    simp only [hlease] at h
    cases hcheck : live.checkHolder holder now with
    | error e => simp [hcheck, bind, Except.bind] at h
    | ok u =>
      simp only [hcheck, bind, Except.bind] at h
      split at h
      · cases h
      · rename_i hopen
        exact ⟨by simpa using hopen, live, rfl, holder_of_checkHolder hcheck⟩

end LeaseSpecs

end TenantGate
end PgElastic.Proxy
