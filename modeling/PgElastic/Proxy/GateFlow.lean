import PgElastic.Proxy.BatonQueue

/-!
# Nobody waits for nothing

`Flowing` says that a session waiting at an open gate waits for a turn that somebody
has, or for a call that is about to wake it, and that the hint is right once every
section has run.  It holds as long as no client goes away between its wake-up and its
baton, because such a client withdraws a ticket that has left the queue and hands
nothing back (`open_gate_never_wedges`, `woken_client_takes_the_turn_along`).
-/

namespace PgElastic.Proxy.Cutover.World

open Library Option OrderedMap TenantGate List System

variable {H I : Type} [DecidableEq H] [DecidableEq I] {instances : List I} {maxTtl : Nat}

/-- A turn that is out is somebody's; whoever waits at an open gate waits for a turn to
come back or for a call to wake it; and the hint is right unless a call has it still to
recompute. -/
structure Flowing (w : World H I) : Prop where
  turn : w.gate.queue.running = true →
    ∃ client phase, w.sessions.get? client = some phase ∧ phase.hasTurn = true
  served : w.gate.isOpen = true → w.gate.queue.running = false →
    (∀ call stage, w.calls.get? call = some stage → stage.owesPass = false) →
    w.gate.queue.waiting.entries = []
  hint : (∀ call stage, w.calls.get? call = some stage → stage.owesHint = false) →
    w.gate.fast = w.gate.admits

section Flowing

omit [DecidableEq H] [DecidableEq I]

variable {w : World H I} {g : TenantGate H I Nat} {phase' : Option (Phase I)} {client : Nat}

/-- A `pass` sets the queue right whatever was wrong with it. -/
lemma flowing_of_pass {w' : World H I} (hpass : PassMove w w') : w'.Flowing := by
  cases hpass with
  | idle unserved => exact ⟨by simp [refreshFast], fun hopen _ _ => unserved hopen,
      fun _ => rfl⟩
  | @wakes ticket client purpose isOpen entry least queued =>
    exact ⟨fun _ => ⟨client, _, get?_insert_self .., rfl⟩, by simp [refreshFast], fun _ => rfl⟩

/-- A session moves on and keeps the turn it has. -/
lemma Flowing.reseat (h : w.Flowing)
    (hopen : g.isOpen = w.gate.isOpen) (hrunning : g.queue.running = w.gate.queue.running)
    (hwaiting : w.gate.queue.waiting.entries = [] → g.isOpen →
      g.queue.running = false → g.queue.waiting.entries = [])
    (hfast : Alike w.gate g ∨ g.fast = g.admits)
    (hturn : (w.sessions.get? client).any Phase.hasTurn → phase'.any Phase.hasTurn) :
    Flowing { w with gate := g, sessions := w.sessions.assign client phase' } := by
  refine ⟨?_, ?_, ?_⟩
  · intro hrun
    change g.queue.running = true at hrun
    obtain ⟨c, phase, hphase, hhas⟩ := h.turn (hrunning ▸ hrun)
    by_cases heq : c = client
    · have hkept : phase'.any Phase.hasTurn := by
        apply hturn
        rw [← heq, hphase]
        exact hhas
      obtain ⟨phase'', rfl, hhas'⟩ := (Option.any_eq_true _ _).mp hkept
      refine ⟨client, phase'', ?_, hhas'⟩
      change (w.sessions.assign client (some phase'')).get? client = _
      rw [get?_assign, if_pos rfl]
    · refine ⟨c, phase, ?_, hhas⟩
      change (w.sessions.assign client phase').get? c = _
      rw [get?_assign, if_neg heq]
      exact hphase
  · intro hgate hrun hcalls
    change g.isOpen = true at hgate
    change g.queue.running = false at hrun
    exact hwaiting (h.served (hopen ▸ hgate) (hrunning ▸ hrun) hcalls) hgate hrun
  · intro hcalls
    rcases hfast with halike | hfresh
    · have hadmits : g.admits = w.gate.admits := by
        unfold TenantGate.admits
        rw [halike.isOpen, halike.queue]
      change g.fast = g.admits
      rw [halike.fast, hadmits]
      exact h.hint hcalls
    · exact hfresh

lemma Flowing.ripple (h : w.Flowing) (hlined : w.Lined)
    {owed : Bool} (hripple : Ripple w client (w.sessions.get? client) g phase' owed)
    (hstays : phase' = none → ∀ purpose ticket,
      w.sessions.get? client ≠ some (.woken purpose ticket)) :
    (w.clientMoved client g phase' owed).Flowing := by
  have hafter := hlined.ripple hripple
  generalize hphase : w.sessions.get? client = phase at hripple hstays
  cases hripple with
  | aside alike unticketed unticketed' baton owes elsewhere =>
    cases owed with
    | false =>
      refine h.reseat alike.isOpen (by rw [alike.queue]) ?_ (.inl alike) ?_
      · rw [alike.queue]
        exact fun hnone _ _ => hnone
      · rw [hphase, hasTurn_of_unticketed unticketed, hasTurn_of_unticketed unticketed', baton]
        simp
    | true => exact flowing_of_pass hafter.passBaton
  | @through phase g purpose isOpen queue hint unticketed baton =>
    have hturn : (some phase).any Phase.hasTurn = (some phase).any Phase.baton :=
      hasTurn_of_unticketed unticketed
    refine h.reseat isOpen (by rw [queue]) ?_ ?_ ?_
    · rw [queue]
      exact fun hnone _ _ => hnone
    · rcases hint with ⟨-, hold⟩ | ⟨-, hnew⟩
      · exact .inl ⟨isOpen, queue, hold⟩
      · exact .inr hnew
    · rw [hphase, hturn, any_some, baton]
      intro hfalse
      cases hfalse
  | enqueue purpose refused =>
    rw [enterQueue_refused refused] at hafter ⊢
    refine h.reseat rfl rfl ?_ (.inr rfl) (by rw [hphase]; simp)
    -- an open gate with nobody in line would not have refused
    intro hnone hopen hrun
    have hadmits : w.gate.admits := by
      simp only [TenantGate.admits, hnone, isEmpty_nil, Bool.and_true, Bool.and_eq_true,
        Bool.not_eq_true']
      exact ⟨hopen, hrun⟩
    rw [refused] at hadmits
    cases hadmits
  | turn purpose ticket =>
    refine h.reseat rfl rfl ?_ (.inr rfl) (by simp)
    intro hnone _ _
    change (w.gate.queue.waiting.erase ticket).entries = []
    simp only [OrderedMap.erase, hnone]
    rfl
  | @leave phase ticket ticketed =>
    refine h.reseat rfl rfl ?_ (.inr rfl) ?_
    · intro hnone _ _
      change (w.gate.queue.waiting.erase ticket).entries = []
      simp only [OrderedMap.erase, hnone]
      rfl
    rw [hphase]
    cases phase with
    | queued purpose t => simp
    | woken purpose t => exact absurd rfl (hstays rfl purpose t)
    | _ => cases ticketed

/-- A section of a call, before the `pass` it may be. -/
lemma Flowing.stage (h : w.Flowing) {call : Nat} {stage : Stage H I} {stage' : Option (Stage H I)}
    (hcall : w.calls.get? call = some stage) (hstage : StageRipple w stage g stage' false)
    {route : I} :
    Flowing { w with gate := g, route := route, calls := w.calls.assign call stage' } := by
  -- what is owed by nobody after the section was owed by this call at most before it
  have hothers (owes : Stage H I → Bool) :
      (∀ c s, (w.calls.assign call stage').get? c = some s → owes s = false) →
        stage'.any owes = false ∧
          (owes stage = false → ∀ c s, w.calls.get? c = some s → owes s = false) := by
    intro hnone
    constructor
    · cases stage' with
      | none => rfl
      | some next =>
        apply hnone call next
        rw [get?_assign, if_pos rfl]
    intro hmine c s hget
    by_cases heq : c = call
    · rw [heq, hcall] at hget
      cases hget
      exact hmine
    · apply hnone c s
      rw [get?_assign, if_neg heq]
      exact hget
  refine ⟨?_, ?_, ?_⟩
  · intro hrun
    change g.queue.running = true at hrun
    rw [hstage.queue] at hrun
    exact h.turn hrun
  · intro hopen hrun hnone
    change g.queue.running = false at hrun
    change g.queue.waiting.entries = []
    obtain ⟨hnew, hold⟩ := hothers Stage.owesPass hnone
    rw [hstage.queue] at hrun ⊢
    rcases hstage.opened hopen with howes | howed | ⟨hwas, hmine⟩
    · rw [hnew] at howes
      cases howes
    · cases howed
    · exact h.served hwas hrun (hold hmine)
  intro hnone
  obtain ⟨hnew, hold⟩ := hothers Stage.owesHint hnone
  rcases hstage.hinted with howes | hfresh | ⟨hfast, hopen, hmine⟩
  · rw [hnew] at howes
    cases howes
  · exact hfresh
  have hadmits : g.admits = w.gate.admits := by
    unfold TenantGate.admits
    rw [hopen, hstage.queue]
  change g.fast = g.admits
  rw [hfast, hadmits]
  exact h.hint (hold hmine)

end Flowing

/-- A client that has been woken stays until it has its baton. -/
def StaysForBaton (w : World H I) (a : Action H I) : Prop :=
  ∀ client purpose ticket, a = .client client .abandon →
    w.sessions.get? client ≠ some (.woken purpose ticket)

variable {w : World H I} {a : Action H I}

lemma Flowing.next {w' : World H I} (h : w.Flowing) (hlined : w.Lined)
    (hstays : w.StaysForBaton a) (hnext : w.next instances maxTtl a = some w') : w'.Flowing := by
  rcases next_cases instances maxTtl hnext with ⟨call, ask, now, -, rfl⟩ |
    ⟨call, ask, now, g, stage, -, hfree, hrequest, rfl⟩ | ⟨call, now, stage, -, hcall, rfl⟩ |
    ⟨id, step, g, phase, owed, ha, hclient, rfl⟩
  · exact h
  · have halike := requestNext_alike hrequest
    have hbefore (owes : Stage H I → Bool) :
        (∀ c s, (w.calls.insert call stage).get? c = some s → owes s = false) →
        ∀ c s, w.calls.get? c = some s → owes s = false := by
      intro hnone c s hget
      apply hnone c s
      rw [get?_insert_of_ne, hget]
      rintro rfl
      rw [hfree] at hget
      cases hget
    refine ⟨?_, ?_, ?_⟩
    · intro hrun
      change g.queue.running = true at hrun
      rw [halike.queue] at hrun
      exact h.turn hrun
    · intro hopen hrun hnone
      change g.isOpen = true at hopen
      change g.queue.running = false at hrun
      change g.queue.waiting.entries = []
      rw [halike.queue] at hrun ⊢
      rw [halike.isOpen] at hopen
      exact h.served hopen hrun (hbefore _ hnone)
    intro hnone
    have hadmits : g.admits = w.gate.admits := by
      unfold TenantGate.admits
      rw [halike.isOpen, halike.queue]
    change g.fast = g.admits
    rw [halike.fast, hadmits]
    exact h.hint (hbefore _ hnone)
  · have hstage : StageRipple w stage (w.stageNext instances maxTtl now stage).1 _ _ :=
      stageNext_ripple w now stage
    unfold callMoved
    cases howed : (w.stageNext instances maxTtl now stage).2.2.2 with
    | false =>
      rw [howed] at hstage
      exact h.stage hcall hstage
    | true => exact flowing_of_pass (hlined.stage hstage).passBaton
  · refine h.ripple hlined (clientNext_ripple hclient) ?_
    intro hgone purpose ticket hwoken
    have habandon : step = .abandon := by
      rw [hwoken, hgone] at hclient
      cases step with
      | abandon => rfl
      | connect greeted =>
        cases greeted with
        | true => cases hclient
        | false => cases hclient
      | _ => cases hclient
    exact hstays id purpose ticket (by rw [ha, habandon]) hwoken

lemma flowing_of_reachable (h : ((system instances maxTtl).restrict StaysForBaton).Reachable w) :
    w.Flowing := by
  refine h.invariant (I := Flowing) ?_ ?_
  · rintro w ⟨route, rfl⟩
    exact ⟨by simp [start, TenantGate.new], fun _ _ _ => rfl, fun _ => rfl⟩
  · intro s a t hreach hs hstep
    exact hs.next (lined_of_reachable hreach.of_restrict) hstep.1 hstep.2

/-- No step is in progress: no call has a section left, and no client is between the
hint and the queue or between its wake-up and its baton. -/
def Quiescent (w : World H I) : Prop :=
  w.calls.entries = [] ∧ ∀ client phase, w.sessions.get? client = some phase →
    (∀ purpose, phase ≠ .entering purpose) ∧ ∀ purpose ticket, phase ≠ .woken purpose ticket

/-- In every run in which a woken client stays until it has its baton, an open gate
with no baton out and no step in progress has an empty queue with the turn back and the
hint up, and the next client is let through at once. -/
theorem open_gate_never_wedges {w : World H I}
    (h : ((system instances maxTtl).restrict StaysForBaton).Reachable w) (hquiet : w.Quiescent)
    (hopen : w.gate.isOpen = true)
    (hbaton : ∀ client phase, w.sessions.get? client = some phase → phase.baton = false) :
    (∀ client phase, w.sessions.get? client = some phase → phase.ticket = none) ∧
      w.gate.queue.waiting.entries = [] ∧ w.gate.queue.running = false ∧ w.gate.fast = true ∧
      ∀ client purpose, w.sessions.get? client = some (.ready purpose) →
        ∃ w', w.next instances maxTtl (.client client .load) = some w' ∧
          w'.sessions.get? client = some (.admitted purpose false) := by
  have hflowing := flowing_of_reachable h
  have hlined := lined_of_reachable h.of_restrict
  have hcalls call stage : w.calls.get? call ≠ some stage := by
    intro hcall
    rw [← mem_entries_iff, hquiet.1] at hcall
    cases hcall
  have hrunning : w.gate.queue.running = false := by
    cases hrun : w.gate.queue.running with
    | false => rfl
    | true =>
      obtain ⟨client, phase, hphase, hturn⟩ := hflowing.turn hrun
      cases phase with
      | woken purpose ticket =>
        exact absurd rfl ((hquiet.2 client _ hphase).2 purpose ticket)
      | _ =>
        have hnone := hbaton client _ hphase
        rw [← hnone]
        exact hturn.symm
  have hwaiting : w.gate.queue.waiting.entries = [] :=
    hflowing.served hopen hrunning fun call stage hcall => absurd hcall (hcalls call stage)
  have hfast : w.gate.fast = true := by
    rw [hflowing.hint fun call stage hcall => absurd hcall (hcalls call stage)]
    simp [TenantGate.admits, hopen, hwaiting, hrunning]
  refine ⟨?_, hwaiting, hrunning, hfast, ?_⟩
  · intro client phase hphase
    cases phase with
    | queued purpose ticket =>
      have hentry := hlined.queued client purpose ticket hphase
      rw [← mem_entries_iff, hwaiting] at hentry
      cases hentry
    | woken purpose ticket => exact absurd rfl ((hquiet.2 client _ hphase).2 purpose ticket)
    | _ => rfl
  · intro client purpose hready
    refine ⟨w.clientMoved client w.gate (some (.admitted purpose false)) false, ?_, ?_⟩
    · simp only [World.next, hready, clientNext, hfast, if_true, map_some]
    · exact get?_insert_self ..

/-- The condition of `open_gate_never_wedges`, as a test. -/
def staysTest (w : World H I) (a : Action H I) : Bool :=
  match a with
  | .client client .abandon =>
    match w.sessions.get? client with
    | some (.woken _ _) => false
    | _ => true
  | _ => true

omit [DecidableEq H] [DecidableEq I] in
lemma staysForBaton_of_test (h : w.staysTest a) : w.StaysForBaton a := by
  rintro client purpose ticket rfl hwoken
  simp only [staysTest, hwoken, Bool.false_eq_true] at h

/-- The first client binds itself and hands its turn to the second, which gives up
before it has a backend; a third then comes to the gate. -/
def turnsTaken : List (Action Nat Nat) :=
  firstTurn ++ [.client 1 .wake, .client 1 .follow, .client 1 .acquire, .client 1 .pass,
    .client 2 .wake, .client 2 .abandon, .client 3 (.connect true)]

theorem open_gate_never_wedges_turnsTaken : ∃ w : World Nat Nat,
      System.run (guarded (next [1, 2] 60) staysTest) (start 1) turnsTaken = some w ∧
      w.gate.isOpen = true ∧ w.gate.fast = true ∧
      ∃ w', w.next [1, 2] 60 (.client 3 .load) = some w' ∧
        w'.sessions.get? 3 = some (.admitted (.transaction 1) false) := by
  let w := (System.run (guarded (next [1, 2] 60) staysTest) (start 1) turnsTaken).get (by decide)
  have hrun : _ = some w := (some_get _).symm
  have hpath : ((system [1, 2] 60).restrict StaysForBaton).Path (start 1) turnsTaken w :=
    path_of_guarded_run (fun _ _ _ => id) (fun _ _ htest => staysForBaton_of_test htest) hrun
  have hreach : ((system [1, 2] 60).restrict StaysForBaton).Reachable w :=
    hpath.reachable (.init ⟨1, rfl⟩)
  have hsessions : w.sessions.entries =
      [(1, .checkedOut 1 false), (3, .ready (.transaction 1))] := by decide
  have hphases client phase : w.sessions.get? client = some phase → phase = .checkedOut 1 false ∨
      phase = .ready (.transaction 1) := by
    intro hphase
    rw [← mem_entries_iff, hsessions] at hphase
    simp only [mem_cons, Prod.mk.injEq, not_mem_nil, or_false] at hphase
    rcases hphase with ⟨-, hphase⟩ | ⟨-, hphase⟩
    · exact .inl hphase
    · exact .inr hphase
  have hquiet : w.Quiescent := by
    refine ⟨by decide, ?_⟩
    intro client phase hphase
    rcases hphases client phase hphase with rfl | rfl <;> exact ⟨by simp, by simp⟩
  obtain ⟨-, -, -, hfast, hadmit⟩ := open_gate_never_wedges hreach hquiet (by decide) (by
    intro client phase hphase
    rcases hphases client phase hphase with rfl | rfl
    · rfl
    · rfl)
  exact ⟨w, hrun, by decide, hfast, hadmit 3 (.transaction 1) (by decide)⟩

/-- The first client goes away between its wake-up and its baton.  The gate is open, no
baton is out and no step is in progress, and the second client stays in the queue. -/
theorem woken_client_takes_the_turn_along :
    ∃ w : World Nat Nat, (system [1, 2] 60).Reachable w ∧ w.Quiescent ∧ w.gate.isOpen = true ∧
      (∀ client phase, w.sessions.get? client = some phase → phase.baton = false) ∧
      w.sessions.get? 2 = some (.queued (.transaction 1) 1) ∧
      w.gate.queue.running = true ∧ w.gate.fast = false := by
  let w := (System.run (next [1, 2] 60) (start 1) (firstTurn ++ [.client 1 .abandon])).get
    (by decide)
  have hsessions : w.sessions.entries = [(2, .queued (.transaction 1) 1)] := by decide
  have hphases client phase : w.sessions.get? client = some phase →
      phase = .queued (.transaction 1) 1 := by
    intro hphase
    rw [← mem_entries_iff, hsessions] at hphase
    simp only [mem_cons, Prod.mk.injEq, not_mem_nil, or_false] at hphase
    exact hphase.2
  refine ⟨w, ?_, ⟨by decide, ?_⟩, by decide, ?_, by decide, by decide, by decide⟩
  · exact reachable_of_run (fun _ _ _ _ => id) (.init ⟨1, rfl⟩) (some_get _).symm
  · intro client phase hphase
    rw [hphases client phase hphase]
    exact ⟨by simp, by simp⟩
  · intro client phase hphase
    rw [hphases client phase hphase]
    rfl

end PgElastic.Proxy.Cutover.World
