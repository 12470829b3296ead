import PgElastic.Proxy.Control

/-!
# A cutover, step by step

One tenant's gate and route, its client sessions and the control-plane calls in
progress, interleaved at the grain of the source: a step is one locked section, one
atomic load or store, or one read or write of the routing table.  Control-plane
requests are served concurrently and the sweep runs beside them, so any number of
calls may be in progress.

A transaction-mode session goes through `ensure_backend`: the gate (`admit`), the
route (`follow_route`), the checkout (`acquire`), the baton, and only then the
in-flight count (`hold`).  A session that still needs its greeting registers its
hold before the checkout.  A session-mode client reads the route, registers its
hold and dials, and never meets the gate.

The instance gate and the write-stall refusal of `ensure_backend` only delay or end
a session between its route and its checkout; a step may always be taken late, and
`abandon` ends a session anywhere.
-/

namespace PgElastic.Proxy.Cutover

open Library Option TenantGate

/-- What a session passes the gate for: a transaction, bound to the instance of its
last binding until it follows the route, or the first checkout of its pool. -/
inductive Purpose (I : Type)
  | transaction (bound : I)
  | greeting (bound : I)
  deriving DecidableEq, Repr

/-- Where a session is.  `baton` says whether it owes the next waiter a `pass`. -/
inductive Phase (I : Type)
  /-- about to call `admit` -/
  | ready (purpose : Purpose I)
  /-- in `admit`, past the hint, before the queue lock -/
  | entering (purpose : Purpose I)
  | queued (purpose : Purpose I) (ticket : Nat)
  /-- its turn was signalled, `admit` has not returned -/
  | woken (purpose : Purpose I) (ticket : Nat)
  | admitted (purpose : Purpose I) (baton : Bool)
  /-- in `follow_route`, having seen another instance than its own -/
  | rebinding (baton : Bool)
  | routed (target : I) (baton : Bool)
  /-- has a backend, its hold is not registered -/
  | checkedOut (target : I) (baton : Bool)
  | holding (target : I)
  /-- greeting: hold registered, no backend yet -/
  | counted (target : I) (baton : Bool)
  | greeting (target : I) (baton : Bool)
  | greeted (target : I) (baton : Bool)
  /-- session mode: the route has been read -/
  | arriving (target : I)
  | reserved (target : I)
  | dialled (target : I)
  deriving DecidableEq, Repr

namespace Phase

variable {I : Type}

/-- The session is registered as holding a backend. -/
@[simp] def inFlight : Phase I → Bool
  | holding _ => true
  | counted _ _ => true
  | greeting _ _ => true
  | reserved _ => true
  | dialled _ => true
  | _ => false

/-- The session owes the next waiter a `pass`. -/
@[simp] def baton : Phase I → Bool
  | admitted _ b => b
  | rebinding b => b
  | routed _ b => b
  | checkedOut _ b => b
  | counted _ b => b
  | greeting _ b => b
  | greeted _ b => b
  | _ => false

/-- The queue entry the session withdraws when it goes away. -/
@[simp] def ticket : Phase I → Option Nat
  | queued _ t => some t
  | woken _ t => some t
  | _ => none

/-- The session has passed the gate and has not begun work on a backend. -/
@[simp] def pastGate : Phase I → Bool
  | woken _ _ => true
  | admitted _ _ => true
  | rebinding _ => true
  | routed _ _ => true
  | counted _ _ => true
  | _ => false

/-- A session's contribution to the in-flight count. -/
@[simp] def weight (phase : Phase I) : Nat := if phase.inFlight then 1 else 0

end Phase

/-- What is left to do in a control-plane call. -/
inductive Stage (H I : Type)
  /-- `quiesce`: the route has been read, the lease is to be taken -/
  | take (holder : H) (ttl : Nat) (source : I)
  | shut
  | hint (wasOpen : Bool)
  | startClock (wasOpen : Bool)
  /-- `set_route`: the holder has been checked -/
  | move (target : I)
  /-- `open_gate` of a `resume`, `unquiesce` or sweep, with the rollback to follow -/
  | unbar (rollback : Option I)
  | unbarHint (rollback : Option I)
  | stopClock (rollback : Option I)
  | pass (rollback : Option I)
  | rollBack (source : I)
  deriving DecidableEq, Repr

/-- A control-plane request for the tenant. -/
inductive Request (H I : Type)
  | quiesce (holder : H) (ttl : Nat)
  | setRoute (holder : H) (target : I)
  | resume (holder : H)
  | unquiesce (holder : H)
  | reap
  deriving DecidableEq, Repr

/-- The steps of a client session. -/
inductive ClientStep
  | connect (greeted : Bool)
  | arrive
  | load
  | lock
  | wake
  | follow
  | rebind
  | acquire
  | pass
  | hold
  | release
  | abandon
  deriving DecidableEq, Repr

/-- One step of the system: a request comes in, a call goes on, or a client does. -/
inductive Action (H I : Type)
  | request (call : Nat) (ask : Request H I) (now : Nat)
  | advance (call : Nat) (now : Nat)
  | client (id : Nat) (step : ClientStep)
  deriving DecidableEq, Repr

/-- The tenant's gate and route, its sessions and the calls in progress. -/
structure World (H I : Type) where
  gate : TenantGate H I Nat
  route : I
  sessions : OrderedMap Nat (Phase I)
  calls : OrderedMap Nat (Stage H I)

namespace World

variable {H I : Type} [DecidableEq H] [DecidableEq I]

/-- A wake-up reaches a client that is still waiting. -/
def delivers (w : World H I) (client : Nat) : Bool :=
  match w.sessions.get? client with
  | some (.queued _ _) => true
  | _ => false

/-- The woken client's turn. -/
def wakeUp (w : World H I) (client : Nat) : World H I :=
  match w.sessions.get? client with
  | some (.queued purpose ticket) =>
    { w with sessions := w.sessions.insert client (.woken purpose ticket) }
  | _ => w

/-- `pass`: the head of the queue is woken, if the gate is open. -/
def passBaton (w : World H I) : World H I :=
  let (woken, gate) := w.gate.pass w.delivers
  match woken with
  | none => { w with gate := gate }
  | some client => { w with gate := gate }.wakeUp client

def passIf (w : World H I) (owed : Bool) : World H I := if owed then w.passBaton else w

/-- What a client's step does to the gate and to its own phase, and whether it
drops a baton. -/
def clientNext (w : World H I) (client : Nat) :
    ClientStep → Option (Phase I) → Option (TenantGate H I Nat × Option (Phase I) × Bool)
  | .connect true, none => some (w.gate, some (.ready (.transaction w.route)), false)
  | .connect false, none => some (w.gate, some (.ready (.greeting w.route)), false)
  | .arrive, none => some (w.gate, some (.arriving w.route), false)
  | .load, some (.ready purpose) =>
    some (w.gate, some (if w.gate.fast then .admitted purpose false else .entering purpose), false)
  | .lock, some (.entering purpose) =>
    let entered := w.gate.enterQueue client
    some (entered.2, some (entered.1.elim (.admitted purpose false) (.queued purpose)), false)
  | .wake, some (.woken purpose ticket) =>
    some ((w.gate.withdraw ticket).countResumed, some (.admitted purpose true), false)
  | .follow, some (.admitted (.transaction bound) baton) =>
    some (w.gate, some (if w.route = bound then .routed bound baton else .rebinding baton), false)
  | .rebind, some (.rebinding baton) => some (w.gate, some (.routed w.route baton), false)
  | .acquire, some (.routed target baton) =>
    some (w.gate, some (.checkedOut target baton), false)
  | .acquire, some (.counted target baton) => some (w.gate, some (.greeting target baton), false)
  | .acquire, some (.reserved target) => some (w.gate, some (.dialled target), false)
  | .pass, some (.checkedOut target true) =>
    some (w.gate, some (.checkedOut target false), true)
  | .pass, some (.greeted target baton) =>
    some (w.gate, some (.ready (.transaction target)), baton)
  | .hold, some (.checkedOut target false) => some (w.gate.hold, some (.holding target), false)
  | .hold, some (.admitted (.greeting bound) baton) =>
    some (w.gate.hold, some (.counted bound baton), false)
  | .hold, some (.arriving target) => some (w.gate.hold, some (.reserved target), false)
  | .release, some (.holding target) =>
    some (w.gate.unhold, some (.ready (.transaction target)), false)
  | .release, some (.greeting target baton) =>
    some (w.gate.unhold, some (.greeted target baton), false)
  | .abandon, some phase =>
    let left := phase.ticket.elim w.gate w.gate.withdraw
    some (if phase.inFlight then left.unhold else left, none, phase.baton)
  | _, _ => none

variable (instances : List I) (maxTtl : Nat)

/-- The section a request runs at once: the gate it leaves and what is left to do.
`none` is a refusal. -/
def requestNext (w : World H I) (now : Nat) :
    Request H I → Option (TenantGate H I Nat × Stage H I)
  | .quiesce holder ttl => some (w.gate, .take holder ttl w.route)
  | .setRoute holder target =>
    (w.gate.assertHeld holder now).toOption.map fun _ => (w.gate, .move target)
  | .resume holder =>
    (w.gate.commitLease holder now).toOption.map fun gate => (gate, .unbar none)
  | .unquiesce holder =>
    (w.gate.dropLease holder now).toOption.map fun (rollback, gate) => (gate, .unbar rollback)
  | .reap => (w.gate.reapLease now).map fun (live, gate) => (gate, .unbar live.source)

/-- `fleet.set_route`, refused for an instance the proxy does not front. -/
def rerouted (w : World H I) (target : I) : I := if target ∈ instances then target else w.route

/-- The next section of a call: the gate and the route it leaves, what is then left
to do, and whether the section was the `pass`. -/
def stageNext (w : World H I) (now : Nat) :
    Stage H I → TenantGate H I Nat × I × Option (Stage H I) × Bool
  | .take holder ttl source =>
    match w.gate.takeLease holder ttl maxTtl source now with
    | .error _ => (w.gate, w.route, none, false)
    | .ok (_, gate) => (gate, w.route, some .shut, false)
  | .shut => (w.gate.shut, w.route, some (.hint w.gate.isOpen), false)
  | .hint wasOpen => (w.gate.refreshFast, w.route, some (.startClock wasOpen), false)
  | .startClock wasOpen => (w.gate.startClock wasOpen now, w.route, none, false)
  | .move target => (w.gate, w.rerouted instances target, none, false)
  | .unbar rollback => (w.gate.unbar, w.route, some (.unbarHint rollback), false)
  | .unbarHint rollback => (w.gate.refreshFast, w.route, some (.stopClock rollback), false)
  | .stopClock rollback => (w.gate.stopClock, w.route, some (.pass rollback), false)
  | .pass rollback => (w.gate, w.route, rollback.map .rollBack, true)
  | .rollBack source => (w.gate, w.rerouted instances source, none, false)

/-- The state after a client's step. -/
def clientMoved (w : World H I) (client : Nat) (gate : TenantGate H I Nat)
    (phase : Option (Phase I)) (owed : Bool) : World H I :=
  { w with gate := gate, sessions := w.sessions.assign client phase }.passIf owed

/-- The state after a section of a call. -/
def callMoved (w : World H I) (call : Nat) (gate : TenantGate H I Nat) (route : I)
    (stage : Option (Stage H I)) (owed : Bool) : World H I :=
  { w with gate := gate, route := route, calls := w.calls.assign call stage }.passIf owed

/-- One step; `none` is a step that is not there to be taken. -/
def next (w : World H I) : Action H I → Option (World H I)
  | .request call ask now =>
    match w.calls.get? call with
    | some _ => none
    | none =>
      match w.requestNext now ask with
      | none => some w
      | some (gate, stage) => some (w.callMoved call gate w.route (some stage) false)
  | .advance call now =>
    (w.calls.get? call).map fun stage =>
      let (gate, route, stage, owed) := w.stageNext instances maxTtl now stage
      w.callMoved call gate route stage owed
  | .client id step =>
    (w.clientNext id step (w.sessions.get? id)).map fun (gate, phase, owed) =>
      w.clientMoved id gate phase owed

/-- A tenant nobody has connected as, with an open gate. -/
def start (route : I) : World H I := ⟨TenantGate.new, route, OrderedMap.empty, OrderedMap.empty⟩

/-- The transition system of one tenant's cutover. -/
def system : System (World H I) (Action H I) where
  init := fun w => ∃ route, w = start route
  step := fun w a w' => w.next instances maxTtl a = some w'

/-! ### What a step changes -/

section Frame

omit [DecidableEq H] [DecidableEq I]

/-- A `pass` leaves the gate's position, the lease, the count, the route and the
calls as they are. -/
lemma passIf_frame (w : World H I) (owed : Bool) :
    (w.passIf owed).gate.isOpen = w.gate.isOpen ∧ (w.passIf owed).gate.lease = w.gate.lease ∧
      (w.passIf owed).gate.inFlight = w.gate.inFlight ∧
      (w.passIf owed).route = w.route ∧ (w.passIf owed).calls = w.calls := by
  cases owed with
  | false => exact ⟨rfl, rfl, rfl, rfl, rfl⟩
  | true =>
    obtain ⟨hopen, hlease, hcount⟩ := w.gate.pass_frame w.delivers
    simp only [passIf, passBaton, if_true]
    split
    · exact ⟨hopen, hlease, hcount, rfl, rfl⟩
    · unfold wakeUp
      split <;> exact ⟨hopen, hlease, hcount, rfl, rfl⟩

/-- The hint a `pass` leaves is the old one or no further than the gate. -/
lemma fast_passIf {w : World H I} {owed : Bool} (h : (w.passIf owed).gate.fast) :
    w.gate.fast ∨ owed ∧ w.gate.isOpen := by
  cases owed with
  | false => exact .inl h
  | true =>
    have hfast : (w.gate.pass w.delivers).2.fast := by
      simp only [passIf, passBaton, if_true] at h
      split at h
      · exact h
      · unfold wakeUp at h
        split at h <;> exact h
    exact .inr ⟨rfl, isOpen_of_fast_pass w.delivers hfast⟩

/-- A `pass` moves at most one session, from the queue to its turn, and only
through an open gate. -/
lemma passIf_sessions (w : World H I) (owed : Bool) : (w.passIf owed).sessions = w.sessions ∨
      owed ∧ w.gate.isOpen ∧ ∃ client purpose ticket,
        w.sessions.get? client = some (.queued purpose ticket) ∧
        (w.passIf owed).sessions = w.sessions.insert client (.woken purpose ticket) := by
  cases owed with
  | false => exact .inl rfl
  | true =>
    simp only [passIf, passBaton, if_true]
    split
    · exact .inl rfl
    rename_i client hwoken
    unfold wakeUp
    split
    · rename_i purpose ticket hqueued
      refine .inr ⟨trivial, ?_, client, purpose, ticket, hqueued, rfl⟩
      cases hopen : w.gate.isOpen with
      | true => rfl
      | false =>
        rw [(pass_of_closed w.delivers hopen).1] at hwoken
        cases hwoken
    · exact .inl rfl

end Frame

omit [DecidableEq H] [DecidableEq I] in
/-- What a client's own section may do to the gate. -/
structure Touches (g g' : TenantGate H I Nat) : Prop where
  isOpen : g'.isOpen = g.isOpen
  lease : g'.lease = g.lease
  fast : g'.fast = true → g.fast = true ∨ g.isOpen = true

/-- Everything the later results use about one client step. -/
structure ClientEffect (w : World H I) (step : ClientStep) (phase : Option (Phase I))
    (g : TenantGate H I Nat) (phase' : Option (Phase I)) : Prop where
  touches : Touches w.gate g
  count : phase.elim 0 Phase.weight ≤ w.gate.inFlight →
    g.inFlight + phase.elim 0 Phase.weight = w.gate.inFlight + phase'.elim 0 Phase.weight
  entry : phase'.any Phase.pastGate = true →
    (phase.any Phase.pastGate = true ∧ step ≠ .acquire) ∨ w.gate.fast = true ∨ w.gate.isOpen = true

variable {w : World H I} {g : TenantGate H I Nat}

omit [DecidableEq H] in
lemma clientNext_effect {client : Nat} {step : ClientStep} {phase phase' : Option (Phase I)} {owed : Bool}
    (h : w.clientNext client step phase = some (g, phase', owed)) :
    ClientEffect w step phase g phase' := by
  unfold clientNext at h
  split at h
  case h_4 purpose =>
    cases h
    cases hfast : w.gate.fast with
    | true => exact ⟨⟨rfl, rfl, .inl⟩, by simp, by simp [hfast]⟩
    | false => exact ⟨⟨rfl, rfl, .inl⟩, by simp, by simp⟩
  case h_5 purpose =>
    cases h
    obtain ⟨hopen, hlease, hcount⟩ := w.gate.enterQueue_frame client
    cases hgate : w.gate.isOpen with
    | true =>
      refine ⟨⟨hopen, hlease, fun _ => .inr hgate⟩, ?_, by simp [hgate]⟩
      cases (w.gate.enterQueue client).1 with
      | none => simp [hcount]
      | some ticket => simp [hcount]
    | false =>
      obtain ⟨hticket, hfast⟩ := enterQueue_of_closed hgate client
      refine ⟨⟨hopen, hlease, by simp [hfast]⟩, ?_, ?_⟩
      all_goals simp [hticket, hcount]
  case h_6 purpose ticket =>
    cases h
    exact ⟨⟨rfl, rfl, fun hfast => .inr (isOpen_of_fast_withdraw hfast)⟩,
      by simp [TenantGate.withdraw, countResumed], by simp⟩
  case h_7 bound baton =>
    cases h
    by_cases hroute : w.route = bound
    all_goals exact ⟨⟨rfl, rfl, .inl⟩, by simp [hroute], by simp⟩
  case h_17 target | h_18 target baton =>
    cases h
    refine ⟨⟨rfl, rfl, .inl⟩, ?_, by simp⟩
    intro hpos
    simp only [unhold, elim_some, Phase.weight, Phase.inFlight, if_true] at hpos ⊢
    simp only [Bool.false_eq_true, if_false]
    omega
  case h_19 phase =>
    cases h
    have hleft : Touches w.gate (phase.ticket.elim w.gate w.gate.withdraw) ∧
        (phase.ticket.elim w.gate w.gate.withdraw).inFlight = w.gate.inFlight := by
      cases phase.ticket with
      | none => exact ⟨⟨rfl, rfl, .inl⟩, rfl⟩
      | some ticket =>
        exact ⟨⟨rfl, rfl, fun hfast => .inr (isOpen_of_fast_withdraw hfast)⟩, rfl⟩
    obtain ⟨⟨hopen, hlease, hfast⟩, hcount⟩ := hleft
    cases hphase : phase.inFlight with
    | true =>
      refine ⟨⟨hopen, hlease, hfast⟩, ?_, by simp⟩
      intro hpos
      simp only [elim_some, elim_none, Phase.weight, hphase, if_true, unhold, hcount] at hpos ⊢
      omega
    | false =>
      refine ⟨⟨hopen, hlease, hfast⟩, ?_, by simp⟩
      simp only [elim_some, elim_none, Phase.weight, hphase, Bool.false_eq_true,
        if_false, hcount, implies_true]
  case h_20 => cases h
  -- the gate is as it was, or its count follows the phase
  all_goals
    cases h
    exact ⟨⟨rfl, rfl, .inl⟩, by simp [TenantGate.hold], by simp⟩

omit [DecidableEq I] in
/-- The section a request runs at once is about the lease. -/
lemma requestNext_frame {now : Nat} {ask : Request H I}
    {stage : Stage H I} (h : w.requestNext now ask = some (g, stage)) :
    ∃ lease, g = { w.gate with lease := lease } := by
  cases ask with
  | quiesce holder ttl =>
    cases h
    exact ⟨_, rfl⟩
  | setRoute holder target =>
    obtain ⟨_, -, hresult⟩ := map_eq_some_iff.mp h
    cases hresult
    exact ⟨_, rfl⟩
  | resume holder =>
    obtain ⟨gate, hcommit, hresult⟩ := map_eq_some_iff.mp h
    cases hresult
    obtain ⟨live, -, -, rfl⟩ := commitLease_ok (ok_of_toOption hcommit)
    exact ⟨_, rfl⟩
  | unquiesce holder =>
    obtain ⟨⟨rollback, gate⟩, hdrop, hresult⟩ := map_eq_some_iff.mp h
    cases hresult
    obtain ⟨live, -, -, -, rfl⟩ := dropLease_ok (ok_of_toOption hdrop)
    exact ⟨_, rfl⟩
  | reap =>
    obtain ⟨⟨live, gate⟩, hreap, hresult⟩ := map_eq_some_iff.mp h
    cases hresult
    obtain ⟨-, -, rfl⟩ := reapLease_some hreap
    exact ⟨_, rfl⟩

/-- Everything the later results use about one section of a call, but for leases
and routes. -/
structure StageEffect (w : World H I) (stage : Stage H I) (g : TenantGate H I Nat)
    (stage' : Option (Stage H I)) (owed : Bool) : Prop where
  passes : owed = true → g = w.gate
  count : g.inFlight = w.gate.inFlight
  fast : g.fast = true → w.gate.fast = true ∨ w.gate.isOpen = true
  hint : (g.fast = true → g.isOpen = true) ∨ (∃ wasOpen, stage' = some (.hint wasOpen)) ∨
    g.fast = w.gate.fast ∧ g.isOpen = w.gate.isOpen ∧ ∀ wasOpen, stage ≠ .hint wasOpen

lemma stageNext_effect (w : World H I) (now : Nat) (stage : Stage H I) :
    StageEffect w stage (w.stageNext instances maxTtl now stage).1
      (w.stageNext instances maxTtl now stage).2.2.1
      (w.stageNext instances maxTtl now stage).2.2.2 := by
  cases stage with
  | take holder ttl source =>
    simp only [stageNext]
    split
    · exact ⟨by simp, rfl, .inl, .inr (.inr ⟨rfl, rfl, by simp⟩)⟩
    · rename_i taken gate htake
      obtain ⟨-, rfl⟩ := takeLease_ok htake
      exact ⟨by simp, rfl, .inl, .inr (.inr ⟨rfl, rfl, by simp⟩)⟩
  | shut => exact ⟨by simp [stageNext], rfl, .inl, .inr (.inl ⟨w.gate.isOpen, rfl⟩)⟩
  | hint wasOpen | unbarHint rollback =>
    have hopen : (w.gate.refreshFast).fast → w.gate.isOpen :=
      isOpen_of_fast_refreshFast
    exact ⟨by simp [stageNext], rfl, fun h => .inr (hopen h), .inl hopen⟩
  | startClock wasOpen =>
    cases wasOpen with
    | true | false => exact ⟨by simp [stageNext], rfl, .inl, .inr (.inr ⟨rfl, rfl, by simp⟩)⟩
  | unbar rollback => exact ⟨by simp [stageNext], rfl, .inl, .inl fun _ => rfl⟩
  | _ =>
    exact ⟨by simp [stageNext], rfl, .inl, .inr (.inr ⟨rfl, rfl, by simp⟩)⟩

/-- A step is a refused request, an accepted one, a section of a call, or a client's
step. -/
lemma next_cases {w' : World H I} {a : Action H I} (h : w.next instances maxTtl a = some w') :
    (∃ call ask now, a = .request call ask now ∧ w' = w) ∨
    (∃ call ask now g stage, a = .request call ask now ∧ w.calls.get? call = none ∧
      w.requestNext now ask = some (g, stage) ∧
      w' = w.callMoved call g w.route (some stage) false) ∨
    (∃ call now stage, a = .advance call now ∧ w.calls.get? call = some stage ∧
      w' = w.callMoved call (w.stageNext instances maxTtl now stage).1
        (w.stageNext instances maxTtl now stage).2.1 (w.stageNext instances maxTtl now stage).2.2.1
        (w.stageNext instances maxTtl now stage).2.2.2) ∨
    (∃ id step g phase owed, a = .client id step ∧
      w.clientNext id step (w.sessions.get? id) = some (g, phase, owed) ∧
      w' = w.clientMoved id g phase owed) := by
  cases a with
  | request call ask now =>
    simp only [next] at h
    split at h
    · cases h
    rename_i hfree
    split at h
    · cases h
      exact .inl ⟨call, ask, now, rfl, rfl⟩
    · rename_i g stage hrequest
      cases h
      exact .inr (.inl ⟨call, ask, now, g, stage, rfl, hfree, hrequest, rfl⟩)
  | advance call now =>
    obtain ⟨stage, hstage, rfl⟩ := map_eq_some_iff.mp h
    exact .inr (.inr (.inl ⟨call, now, stage, rfl, hstage, rfl⟩))
  | client id step =>
    obtain ⟨⟨g, phase, owed⟩, hnext, rfl⟩ := map_eq_some_iff.mp h
    exact .inr (.inr (.inr ⟨id, step, g, phase, owed, rfl, hnext, rfl⟩))

end World
end PgElastic.Proxy.Cutover
