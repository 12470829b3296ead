import PgElastic.Proxy.Cutover

/-!
# What a drained tenant promises

`drainStatus` reports a tenant drained when its gate is closed and its in-flight
count is zero.  The count follows the sessions that have registered a hold
(`counted_of_reachable`), and a closed gate whose hint has been lowered lets nobody
through (`nobody_enters`).  What may still begin work on a backend is what was past
the gate before, because admission registers nothing, and session-mode clients,
which never meet the gate.
-/

namespace PgElastic.Proxy.Cutover.World

open Library Option OrderedMap System Phase

variable {H I : Type} [DecidableEq H] [DecidableEq I] {instances : List I} {maxTtl : Nat}

/-- The in-flight count is the number of sessions with a registered hold. -/
def Counted (w : World H I) : Prop :=
  w.gate.inFlight = w.sessions.sumOf fun _ => Phase.weight

/-- The hint is ahead of the gate only while a `quiesce` has yet to lower it. -/
def Hinted (w : World H I) : Prop :=
  w.gate.fast = true →
    w.gate.isOpen = true ∨ ∃ call wasOpen, w.calls.get? call = some (.hint wasOpen)

variable {w w' : World H I} {a : Action H I} {as : List (Action H I)} {x : Nat}

omit [DecidableEq H] [DecidableEq I] in
lemma Counted.passIf (h : w.Counted) (owed : Bool) : (w.passIf owed).Counted := by
  obtain ⟨-, -, hcount, -, -⟩ := w.passIf_frame owed
  unfold Counted
  rw [hcount, h]
  rcases w.passIf_sessions owed with hsame | ⟨-, -, client, purpose, ticket, hqueued, hwoken⟩
  · rw [hsame]
  rw [hwoken]
  have hsum := w.sessions.sumOf_insert (fun _ => weight) client (.woken purpose ticket)
  simp only [hqueued, elim_some, weight, inFlight, Bool.false_eq_true, if_false] at hsum
  exact hsum.symm

omit [DecidableEq H] [DecidableEq I] in
lemma Hinted.passIf (h : w.Hinted) (owed : Bool) : (w.passIf owed).Hinted := by
  obtain ⟨hopen, -, -, -, hcalls⟩ := w.passIf_frame owed
  intro hfast
  rw [hopen, hcalls]
  rcases fast_passIf hfast with hfast | ⟨-, hgate⟩
  · exact h hfast
  · exact .inl hgate

lemma Counted.next (h : w.Counted) (hnext : w.next instances maxTtl a = some w') : w'.Counted := by
  rcases next_cases instances maxTtl hnext with ⟨call, ask, now, -, rfl⟩ |
    ⟨call, ask, now, g, stage, -, -, hrequest, rfl⟩ | ⟨call, now, stage, -, -, rfl⟩ |
    ⟨id, step, g, phase, owed, -, hclient, rfl⟩
  · exact h
  · refine Counted.passIf ?_ _
    obtain ⟨lease, rfl⟩ := requestNext_frame hrequest
    exact h
  · refine Counted.passIf ?_ _
    exact (stageNext_effect instances maxTtl w now stage).count.trans h
  refine Counted.passIf ?_ _
  have hle : (w.sessions.get? id).elim 0 weight ≤ w.gate.inFlight := by
    rw [h]
    cases hold : w.sessions.get? id with
    | none => exact Nat.zero_le _
    | some old => exact le_sumOf (f := fun _ => weight) hold
  have hcount := (clientNext_effect hclient).count hle
  have hsum : (w.sessions.assign id phase).sumOf (fun _ => weight) +
      (w.sessions.get? id).elim 0 weight =
        w.sessions.sumOf (fun _ => weight) + phase.elim 0 weight :=
    w.sessions.sumOf_assign _ id phase
  unfold Counted at h ⊢
  simp only
  omega

lemma Hinted.next (h : w.Hinted) (hnext : w.next instances maxTtl a = some w') : w'.Hinted := by
  rcases next_cases instances maxTtl hnext with ⟨call, ask, now, -, rfl⟩ |
    ⟨call, ask, now, g, stage, -, hfree, hrequest, rfl⟩ | ⟨call, now, stage, -, hstage, rfl⟩ |
    ⟨id, step, g, phase, owed, -, hclient, rfl⟩
  · exact h
  · refine Hinted.passIf ?_ _
    obtain ⟨lease, rfl⟩ := requestNext_frame hrequest
    intro hset
    rcases h hset with hgate | ⟨other, wasOpen, hother⟩
    · exact .inl hgate
    refine .inr ⟨other, wasOpen, ?_⟩
    have hne : other ≠ call := by
      rintro rfl
      rw [hfree] at hother
      cases hother
    rw [get?_assign, if_neg hne, hother]
  · refine Hinted.passIf ?_ _
    intro hset
    rcases (stageNext_effect instances maxTtl w now stage).hint with
      hopen | ⟨wasOpen, hhint⟩ | ⟨hfast, hopen, hnot⟩
    · exact .inl (hopen hset)
    · exact .inr ⟨call, wasOpen, by rw [get?_assign, if_pos rfl, hhint]⟩
    rw [hfast] at hset
    rw [hopen]
    rcases h hset with hgate | ⟨other, wasOpen, hother⟩
    · exact .inl hgate
    refine .inr ⟨other, wasOpen, ?_⟩
    have hne : other ≠ call := by
      rintro rfl
      rw [hstage] at hother
      cases hother
      exact hnot wasOpen rfl
    rw [get?_assign, if_neg hne, hother]
  · refine Hinted.passIf ?_ _
    obtain ⟨hopen, -, hfast⟩ := (clientNext_effect hclient).touches
    intro hset
    rw [hopen]
    rcases hfast hset with hset | hgate
    · exact h hset
    · exact .inl hgate

lemma counted_of_reachable (h : (system instances maxTtl).Reachable w) : w.Counted := by
  refine h.invariant (I := Counted) ?_ ?_
  · rintro w ⟨route, rfl⟩
    rfl
  · intro w a w' _ hcounted hnext
    exact hcounted.next hnext

lemma hinted_of_reachable (h : (system instances maxTtl).Reachable w) : w.Hinted := by
  refine h.invariant (I := Hinted) ?_ ?_
  · rintro w ⟨route, rfl⟩ _
    exact .inl rfl
  · intro w a w' _ hhinted hnext
    exact hhinted.next hnext

/-- A closed gate with a lowered hint: a step leaves the hint lowered and lets no
session through, and what begins work is past the gate no more. -/
lemma nobody_enters (hclosed : w.gate.isOpen = false) (hfast : w.gate.fast = false)
    (hnext : w.next instances maxTtl a = some w') :
    w'.gate.fast = false ∧ ∀ x phase, w'.sessions.get? x = some phase → phase.pastGate →
        ∃ old, w.sessions.get? x = some old ∧ old.pastGate ∧ a ≠ .client x .acquire := by
  have hnot : ¬(w.gate.fast ∨ w.gate.isOpen) := by simp [hclosed, hfast]
  -- a `pass` of the step changes nothing, since the gate it finds is closed
  have hpass {m : World H I} {owed : Bool} : (owed → m.gate.isOpen = false) →
      m.gate.fast = false → (m.passIf owed).gate.fast = false ∧ (m.passIf owed).sessions = m.sessions := by
    intro hshut hlow
    constructor
    · cases hset : (m.passIf owed).gate.fast with
      | false => rfl
      | true =>
        rcases fast_passIf hset with hhigh | ⟨howed, hopen⟩
        · rw [hlow] at hhigh
          cases hhigh
        · rw [hshut howed] at hopen
          cases hopen
    · rcases m.passIf_sessions owed with hsame | ⟨howed, hopen, -⟩
      · exact hsame
      · rw [hshut howed] at hopen
        cases hopen
  rcases next_cases instances maxTtl hnext with ⟨call, ask, now, rfl, rfl⟩ |
    ⟨call, ask, now, g, stage, rfl, -, hrequest, rfl⟩ | ⟨call, now, stage, rfl, -, rfl⟩ |
    ⟨id, step, g, phase', owed, rfl, hclient, rfl⟩
  · exact ⟨hfast, fun x phase hphase hpast => ⟨phase, hphase, hpast, by simp⟩⟩
  · obtain ⟨lease, rfl⟩ := requestNext_frame hrequest
    exact ⟨hfast, fun x phase hphase hpast => ⟨phase, hphase, hpast, by simp⟩⟩
  · have heffect := stageNext_effect instances maxTtl w now stage
    have hlow : (w.stageNext instances maxTtl now stage).1.fast = false := by
      cases hset : (w.stageNext instances maxTtl now stage).1.fast with
      | false => rfl
      | true => exact absurd (heffect.fast hset) hnot
    obtain ⟨hfast', hsame⟩ := hpass (m := { w with
      gate := (w.stageNext instances maxTtl now stage).1
      route := (w.stageNext instances maxTtl now stage).2.1
      calls := w.calls.assign call (w.stageNext instances maxTtl now stage).2.2.1 })
      (fun howed => by rw [heffect.passes howed]; exact hclosed) hlow
    refine ⟨hfast', fun x phase hphase hpast => ?_⟩
    rw [callMoved, hsame] at hphase
    exact ⟨phase, hphase, hpast, by simp⟩
  · have heffect := clientNext_effect hclient
    have hlow : g.fast = false := by
      cases hset : g.fast with
      | false => rfl
      | true => exact absurd (heffect.touches.fast hset) hnot
    obtain ⟨hfast', hsame⟩ := hpass (m := { w with
      gate := g
      sessions := w.sessions.assign id phase' })
      (fun _ => heffect.touches.isOpen.trans hclosed) hlow
    refine ⟨hfast', fun x phase hphase hpast => ?_⟩
    rw [clientMoved, hsame, get?_assign] at hphase
    split at hphase
    · rename_i hx
      subst hx
      have hentry := heffect.entry (by rw [hphase]; exact hpast)
      rcases hentry with ⟨hold, hstep⟩ | hopen
      · obtain ⟨old, hget, hpast'⟩ := (any_eq_true _ _).mp hold
        exact ⟨old, hget, hpast', by simpa using hstep⟩
      · exact absurd hopen hnot
    · rename_i hx
      exact ⟨phase, hphase, hpast, by simp [Ne.symm hx]⟩

/-- Along a run with the gate closed, a session past the gate was past it at the
start and has not begun work since. -/
lemma past_since {q u : World H I} {steps : List (Action H I)} (hfast : q.gate.fast = false)
    (hpath : ((system instances maxTtl).restrict fun w _ => w.gate.isOpen = false).Path q steps u) :
    u.gate.fast = false ∧ ∀ x phase, u.sessions.get? x = some phase → phase.pastGate →
        (∃ old, q.sessions.get? x = some old ∧ old.pastGate) ∧
          Action.client x .acquire ∉ steps := by
  induction hpath with
  | nil => exact ⟨hfast, fun x phase hphase hpast => ⟨⟨phase, hphase, hpast⟩, by simp⟩⟩
  | snoc _ hstep ih =>
    obtain ⟨hlow, hpastAll⟩ := ih
    obtain ⟨hclosed, hnext⟩ := hstep
    obtain ⟨hlow', hstepPast⟩ := nobody_enters hclosed hlow hnext
    refine ⟨hlow', fun x phase hphase hpast => ?_⟩
    obtain ⟨mid, hmid, hmidPast, hne⟩ := hstepPast x phase hphase hpast
    obtain ⟨hold, hnotin⟩ := hpastAll x mid hmid hmidPast
    refine ⟨hold, ?_⟩
    simp only [List.mem_append, List.mem_singleton, not_or]
    exact ⟨hnotin, Ne.symm hne⟩

/-- Work on a backend begins from past the gate, or in session mode. -/
lemma acquire_phase (hnext : w.next instances maxTtl (.client x .acquire) = some w') :
    ∃ phase, w.sessions.get? x = some phase ∧
      (phase.pastGate ∨ ∃ target, phase = .reserved target) := by
  obtain ⟨⟨g, phase', owed⟩, hclient, -⟩ := map_eq_some_iff.mp hnext
  cases hphase : w.sessions.get? x with
  | none =>
    rw [hphase] at hclient
    cases hclient
  | some phase =>
    rw [hphase] at hclient
    cases phase with
    | routed target baton | counted target baton => exact ⟨_, rfl, .inl rfl⟩
    | reserved target => exact ⟨_, rfl, .inr ⟨target, rfl⟩⟩
    | _ => cases hclient

/-- A session that comes to a closed gate is queued. -/
lemma lock_queues (hclosed : w.gate.isOpen = false)
    (hnext : w.next instances maxTtl (.client x .lock) = some w') :
    ∃ purpose ticket, w'.sessions.get? x = some (.queued purpose ticket) := by
  obtain ⟨⟨g, phase', owed⟩, hclient, rfl⟩ := map_eq_some_iff.mp hnext
  cases hphase : w.sessions.get? x with
  | none =>
    rw [hphase] at hclient
    cases hclient
  | some phase =>
    rw [hphase] at hclient
    cases phase with
    | entering purpose =>
      simp only [clientNext] at hclient
      cases hclient
      refine ⟨purpose, w.gate.queue.nextTicket, ?_⟩
      change (w.sessions.assign x _).get? x = _
      rw [get?_assign, if_pos rfl, (TenantGate.enterQueue_of_closed hclosed x).1]
      rfl
    | _ => cases hclient

/-- When the tenant is reported drained in an uninterrupted quiesce, no session has a
registered hold.  Until the gate is opened again every session that comes to it is
queued, and only two kinds of session begin work on a backend: session-mode clients,
and those that were past the gate when the closing `quiesce` had returned, each of
them once. -/
theorem drained_gate_admits_nobody_new {q d : World H I} {before : List (Action H I)}
    (hq : (system instances maxTtl).Reachable q) (hclosed : q.gate.isOpen = false)
    (hreturned : ∀ call wasOpen, q.calls.get? call ≠ some (.hint wasOpen))
    (hdrain : ((system instances maxTtl).restrict fun w _ => w.gate.isOpen = false).Path q before d)
    (hdrained : d.gate.drained = true) :
    (∀ x phase, d.sessions.get? x = some phase → phase.inFlight = false) ∧
    ∀ after u x v,
      ((system instances maxTtl).restrict fun w _ => w.gate.isOpen = false).Path d after u →
      u.gate.isOpen = false →
      ((system instances maxTtl).step u (.client x .lock) v →
        ∃ purpose ticket, v.sessions.get? x = some (.queued purpose ticket)) ∧
      ((system instances maxTtl).step u (.client x .acquire) v →
        (∃ target, u.sessions.get? x = some (.reserved target)) ∨
        (∃ old, q.sessions.get? x = some old ∧ old.pastGate = true) ∧
          Action.client x .acquire ∉ before ++ after) := by
  have hfast : q.gate.fast = false := by
    cases hset : q.gate.fast with
    | false => rfl
    | true =>
      rcases hinted_of_reachable hq hset with hopen | ⟨call, wasOpen, hcall⟩
      · rw [hclosed] at hopen
        cases hopen
      · exact absurd hcall (hreturned call wasOpen)
  constructor
  · intro x phase hphase
    have hreach : (system instances maxTtl).Reachable d := by
      refine System.Path.invariant (I := (system instances maxTtl).Reachable) ?_ hdrain hq
      exact fun s a t hs hstep => System.Reachable.step hs hstep.2
    have hzero : d.sessions.sumOf (fun _ => weight) = 0 := by
      rw [← counted_of_reachable hreach]
      simp only [TenantGate.drained, Bool.and_eq_true, beq_iff_eq] at hdrained
      exact hdrained.2
    have hweight : phase.weight = 0 := sumOf_eq_zero_iff.mp hzero x phase hphase
    unfold weight at hweight
    cases hflight : phase.inFlight with
    | false => rfl
    | true =>
      rw [hflight] at hweight
      cases hweight
  · intro after u x v hafter hshut
    refine ⟨lock_queues hshut, ?_⟩
    intro hstep
    obtain ⟨phase, hphase, hpast | ⟨target, rfl⟩⟩ := acquire_phase hstep
    · obtain ⟨-, hsince⟩ := past_since hfast (hdrain.append hafter)
      exact .inr (hsince x phase hphase hpast)
    · exact .inl ⟨target, hphase⟩

/-- A closed gate, as a test. -/
def shutTest (w : World H I) (_ : Action H I) : Bool := !w.gate.isOpen

lemma closed_path_of_run
    (h : System.run (guarded (next instances maxTtl) shutTest) w as = some w') :
    ((system instances maxTtl).restrict fun w _ => w.gate.isOpen = false).Path w as w' := by
  refine path_of_guarded_run (fun _ _ _ => id) ?_ h
  intro w a htest
  simpa [shutTest] using htest

lemma reachable_of_replay {route : I}
    (h : System.run (next instances maxTtl) (start route) as = some w) :
    (system instances maxTtl).Reachable w :=
  reachable_of_run (fun _ _ _ _ => id) (.init ⟨route, rfl⟩) h

/-- Client 0 passes the gate just before holder 7 quiesces the tenant. -/
def lateQuiesce : List (Action Nat Nat) :=
  [.client 0 (.connect true), .client 0 .load, .request 0 (.quiesce 7 10) 0, .advance 0 0,
    .advance 0 0, .advance 0 0, .advance 0 0]

theorem drained_gate_admits_nobody_new_lateQuiesce :
    ∃ q : World Nat Nat, System.run (next [1, 2] 60) (start 1) lateQuiesce = some q ∧
      q.gate.drained = true ∧
      (∀ x phase, q.sessions.get? x = some phase → phase.inFlight = false) := by
  let q := (System.run (next [1, 2] 60) (start 1) lateQuiesce).get (by decide)
  have hq : _ = some q := (some_get _).symm
  have hcalls : q.calls.entries = [] := by decide
  refine ⟨q, hq, by decide, ?_⟩
  refine (drained_gate_admits_nobody_new (reachable_of_replay hq) (by decide) ?_
    (.nil q) (by decide)).1
  intro call wasOpen hcall
  have hmem := (q.calls.mem_entries_iff call _).mpr hcall
  rw [hcalls] at hmem
  cases hmem

/-- After the tenant is reported drained, client 0, past the gate and not yet counted,
checks out a backend of the source, and the session-mode client 1 dials one. -/
theorem drained_tenant_begins_work : ∃ q u v u' v' : World Nat Nat,
      (system [1, 2] 60).Reachable q ∧ q.calls.entries = [] ∧ q.gate.drained = true ∧
      ((system [1, 2] 60).restrict fun w _ => w.gate.isOpen = false).Path q [.client 0 .follow] u ∧
      ((system [1, 2] 60).restrict fun w _ => w.gate.isOpen = false).step u (.client 0 .acquire) v ∧
      v.sessions.get? 0 = some (.checkedOut q.route false) ∧
      ((system [1, 2] 60).restrict fun w _ => w.gate.isOpen = false).Path v
        [.client 1 .arrive, .client 1 .hold] u' ∧
      ((system [1, 2] 60).restrict fun w _ => w.gate.isOpen = false).step u'
        (.client 1 .acquire) v' ∧
      v'.sessions.get? 1 = some (.dialled q.route) ∧ v'.gate.isOpen = false := by
  let q := (System.run (next [1, 2] 60) (start 1) lateQuiesce).get (by decide)
  let shutNext : World Nat Nat → Action Nat Nat → Option (World Nat Nat) :=
    guarded (next [1, 2] 60) shutTest
  let u := (System.run shutNext q [.client 0 .follow]).get (by decide)
  let v := (next [1, 2] 60 u (.client 0 .acquire)).get (by decide)
  let u' := (System.run shutNext v [.client 1 .arrive, .client 1 .hold]).get (by decide)
  let v' := (next [1, 2] 60 u' (.client 1 .acquire)).get (by decide)
  refine ⟨q, u, v, u', v', reachable_of_replay (some_get _).symm, by decide, by decide,
    closed_path_of_run (some_get _).symm, ⟨by decide, (some_get _).symm⟩,
    by decide, closed_path_of_run (some_get _).symm,
    ⟨by decide, (some_get _).symm⟩, by decide, by decide⟩

end PgElastic.Proxy.Cutover.World
