import PgElastic.Proxy.Cutover

/-!
# The queue behind a gate

A client that comes to a closed gate takes a ticket and waits.  Opening the gate wakes
the lowest ticket, and the woken client passes a baton on when it has bound itself to a
backend: `running` says that a turn has been given out and not been handed back.

`Lined` is the correspondence between the queue and the sessions that wait in it; it
holds in every run.  `Single` says that one session at most has the turn.  It holds as
long as the gate is opened between turns only, because `open_gate` gives out a turn
whether or not one is out (`one_turn_in_ticket_order`,
`reopening_gives_out_a_second_baton`).
-/

namespace PgElastic.Proxy.Cutover

open Library Option OrderedMap TenantGate System

/-- The session was woken and has not handed its turn back. -/
@[simp] def Phase.hasTurn {I : Type} : Phase I → Bool
  | .woken _ _ => true
  | phase => phase.baton

/-- A call that has opened the gate and has the head of the queue still to wake. -/
@[simp] def Stage.owesPass {H I : Type} : Stage H I → Bool
  | .unbarHint _ => true
  | .stopClock _ => true
  | .pass _ => true
  | _ => false

/-- A call that has moved the gate and has the hint still to recompute. -/
@[simp] def Stage.owesHint {H I : Type} : Stage H I → Bool
  | .hint _ => true
  | .unbarHint _ => true
  | _ => false

namespace World

variable {H I : Type} [DecidableEq H] [DecidableEq I] {instances : List I} {maxTtl : Nat}

/-! ### What a step does to the queue -/

section Queue

omit [DecidableEq H] [DecidableEq I]

/-- The two gates agree on their position, their queue and their hint. -/
structure Alike (g g' : TenantGate H I Nat) : Prop where
  isOpen : g'.isOpen = g.isOpen
  queue : g'.queue = g.queue
  fast : g'.fast = g.fast

/-- What a client's step does to the queue and to its own place in it. -/
inductive Ripple (w : World H I) (client : Nat) :
    Option (Phase I) → TenantGate H I Nat → Option (Phase I) → Bool → Prop
  /-- Away from the gate; a baton is kept, or dropped and then owed. -/
  | aside {phase phase' : Option (Phase I)} {g : TenantGate H I Nat} {owed : Bool}
      (alike : Alike w.gate g)
      (unticketed : phase.bind Phase.ticket = none)
      (unticketed' : phase'.bind Phase.ticket = none)
      (baton : phase'.any Phase.baton = (phase.any Phase.baton && !owed))
      (owes : owed = true → phase.any Phase.baton = true)
      (elsewhere : ∀ purpose baton, phase' ≠ some (.admitted purpose baton)) :
      Ripple w client phase g phase' owed
  /-- Through at once, by the hint or by the locked check. -/
  | through {phase : Phase I} {g : TenantGate H I Nat} {purpose : Purpose I}
      (isOpen : g.isOpen = w.gate.isOpen) (queue : g.queue = w.gate.queue)
      (hint : w.gate.fast = true ∧ g.fast = w.gate.fast ∨ w.gate.admits = true ∧ g.fast = g.admits)
      (unticketed : phase.ticket = none) (baton : phase.baton = false) :
      Ripple w client (some phase) g (some (.admitted purpose false)) false
  | enqueue (purpose : Purpose I) (refused : w.gate.admits = false) :
      Ripple w client (some (.entering purpose)) (w.gate.enterQueue client).2
        (some (.queued purpose w.gate.queue.nextTicket)) false
  /-- A woken client's `admit` returns with the baton. -/
  | turn (purpose : Purpose I) (ticket : Nat) :
      Ripple w client (some (.woken purpose ticket)) (w.gate.withdraw ticket).countResumed
        (some (.admitted purpose true)) false
  /-- A waiting or woken client goes away. -/
  | leave {phase : Phase I} {ticket : Nat} (ticketed : phase.ticket = some ticket) :
      Ripple w client (some phase) (w.gate.withdraw ticket) none false

end Queue

variable {w w' : World H I} {client : Nat} {g : TenantGate H I Nat} {owed : Bool} {a : Action H I}

omit [DecidableEq H] in
lemma clientNext_ripple {step : ClientStep} {phase phase' : Option (Phase I)}
    (h : w.clientNext client step phase = some (g, phase', owed)) :
    Ripple w client phase g phase' owed := by
  unfold clientNext at h
  split at h
  case h_4 purpose =>
    cases h
    cases hfast : w.gate.fast with
    | true => exact .through rfl rfl (.inl ⟨hfast, rfl⟩) rfl rfl
    | false => exact .aside ⟨rfl, rfl, rfl⟩ rfl rfl rfl (by simp) (by simp)
  case h_5 purpose =>
    cases h
    cases hadmits : w.gate.admits with
    | true =>
      have henter : w.gate.enterQueue client = (none, w.gate.refreshFast) := by
        simp only [enterQueue, hadmits, if_true]
      rw [henter]
      exact .through rfl rfl (.inr ⟨hadmits, rfl⟩) rfl rfl
    | false =>
      rw [show (w.gate.enterQueue client).1 = some _ by rw [enterQueue_refused hadmits]]
      exact .enqueue purpose hadmits
  case h_6 purpose ticket =>
    cases h
    exact .turn purpose ticket
  case h_7 bound baton =>
    cases h
    by_cases hroute : w.route = bound
    · rw [if_pos hroute]
      exact .aside ⟨rfl, rfl, rfl⟩ rfl rfl (by simp) (by simp) (by simp)
    · rw [if_neg hroute]
      exact .aside ⟨rfl, rfl, rfl⟩ rfl rfl (by simp) (by simp) (by simp)
  case h_19 phase =>
    cases h
    cases hticket : phase.ticket with
    | none =>
      refine .aside ?_ hticket rfl (by simp) (by simp) (by simp)
      cases phase.inFlight with
      | true | false => exact ⟨rfl, rfl, rfl⟩
    | some ticket =>
      have hwaits : phase.inFlight = false ∧ phase.baton = false := by
        cases phase with
        | queued purpose t | woken purpose t => exact ⟨rfl, rfl⟩
        | _ => cases hticket
      rw [hwaits.1, hwaits.2]
      exact .leave hticket
  case h_20 => cases h
  all_goals
    cases h
    exact .aside ⟨rfl, rfl, rfl⟩ rfl rfl (by simp) (by simp) (by simp)

omit [DecidableEq H] [DecidableEq I] in
/-- A recomputed hint lets clients past an empty queue only. -/
lemma clear_of_admits (h : g.admits) : g.queue.waiting.entries = [] ∧ g.queue.running = false := by
  simp only [TenantGate.admits, Bool.and_eq_true, Bool.not_eq_true', List.isEmpty_iff] at h
  exact ⟨h.1.2, h.2⟩

/-! ### The queue and the sessions that wait in it -/

/-- The queue holds the tickets of the sessions that wait, tickets are given out in
order and called up in order, and the hint admits past an empty queue only. -/
structure Lined (w : World H I) : Prop where
  entry : ∀ ticket client, w.gate.queue.waiting.get? ticket = some client →
    ∃ purpose, w.sessions.get? client = some (.queued purpose ticket)
  queued : ∀ client purpose ticket, w.sessions.get? client = some (.queued purpose ticket) →
    w.gate.queue.waiting.get? ticket = some client
  issued : ∀ client phase ticket, w.sessions.get? client = some phase →
    phase.ticket = some ticket → ticket < w.gate.queue.nextTicket
  ahead : ∀ first purpose early second purpose' late,
    w.sessions.get? first = some (.woken purpose early) →
    w.sessions.get? second = some (.queued purpose' late) → early < late
  clear : w.gate.fast = true → w.gate.queue.waiting.entries = [] ∧ w.gate.queue.running = false

section Lined

omit [DecidableEq H] [DecidableEq I]

/-- What a `pass` does: it takes the turn back, and gives it to the lowest ticket if
the gate is open. -/
inductive PassMove (w : World H I) : World H I → Prop
  | idle (unserved : w.gate.isOpen = true → w.gate.queue.waiting.entries = []) :
      PassMove w { w with
          gate := refreshFast { w.gate with queue := { w.gate.queue with running := false } } }
  | wakes {ticket client : Nat} {purpose : Purpose I} (isOpen : w.gate.isOpen = true)
      (entry : w.gate.queue.waiting.get? ticket = some client)
      (least : ∀ other c, w.gate.queue.waiting.get? other = some c → ticket ≤ other)
      (queued : w.sessions.get? client = some (.queued purpose ticket)) :
      PassMove w { w with
          gate := refreshFast { w.gate with
              queue :=
                { w.gate.queue with
                  waiting := w.gate.queue.waiting.erase ticket, running := true } }
          sessions := w.sessions.insert client (.woken purpose ticket) }

variable {w : World H I} {g : TenantGate H I Nat} {client : Nat} {phase' : Option (Phase I)}
  {phase : Phase I} {ticket : Nat}

/-- When a session loses its ticket, those that have one are others. -/
lemma waiting_of_assign (hnew : phase'.bind Phase.ticket = none) {c : Nat}
    (hget : (w.sessions.assign client phase').get? c = some phase)
    (hticket : phase.ticket = some ticket) : c ≠ client ∧ w.sessions.get? c = some phase := by
  rw [get?_assign] at hget
  split at hget
  · rw [hget, bind_some, hticket] at hnew
    cases hnew
  · exact ⟨‹_›, hget⟩

section

variable (h : w.Lined) {purpose : Purpose I}
include h

/-- Everyone in the queue is there to be woken, so the loop of `pass` stops at the
first ticket. -/
lemma Lined.passBaton : PassMove w w.passBaton := by
  by_cases hidle : w.gate.isOpen → w.gate.queue.waiting.entries = []
  · have hpass : w.passBaton = { w with
          gate := refreshFast
            { w.gate with queue := { w.gate.queue with running := false } } } := by
      cases hopen : w.gate.isOpen with
      | false => simp only [World.passBaton, TenantGate.pass, hopen, Bool.false_eq_true, if_false]
      | true =>
        simp only [World.passBaton, TenantGate.pass, hopen, if_true, hidle hopen, wakeFirst,
          isSome_none]
    rw [hpass]
    exact .idle hidle
  obtain ⟨hopen, hne⟩ := Classical.not_imp.mp hidle
  obtain ⟨⟨ticket, client⟩, rest, hentries⟩ := List.exists_cons_of_ne_nil hne
  have hmem : (ticket, client) ∈ w.gate.queue.waiting.entries := by
    rw [hentries]
    exact List.mem_cons_self ..
  have hentry := (mem_entries_iff _ _ _).mp hmem
  obtain ⟨purpose, hqueued⟩ := h.entry ticket client hentry
  have hdelivers : w.delivers client := by
    simp only [delivers, hqueued]
  have hpass : w.passBaton = { w with
        gate := refreshFast { w.gate with
            queue :=
              { w.gate.queue with
                waiting := w.gate.queue.waiting.erase ticket, running := true } }
        sessions := w.sessions.insert client (.woken purpose ticket) } := by
    simp only [World.passBaton, TenantGate.pass, hopen, if_true, hentries,
      wakeFirst, hdelivers, isSome_some, wakeUp, hqueued]
  rw [hpass]
  refine .wakes hopen hentry ?_ hqueued
  intro other c hother
  have hmem' : (other, c) ∈ (ticket, client) :: rest := by
    rw [← hentries]
    exact (mem_entries_iff _ _ _).mpr hother
  rcases List.mem_cons.mp hmem' with heq | hrest
  · cases heq
    exact le_refl _
  · have hsorted := w.gate.queue.waiting.sorted
    rw [hentries] at hsorted
    exact le_of_lt (List.rel_of_pairwise_cons hsorted hrest)

/-- A section that leaves the queue alone, and the hint as it was or recomputed. -/
lemma Lined.regate (hqueue : g.queue = w.gate.queue)
    (hfast : g.fast → w.gate.fast ∨ g.admits) {route : I}
    {calls : OrderedMap Nat (Stage H I)} :
    Lined { w with gate := g, route := route, calls := calls } := by
  refine ⟨?_, ?_, ?_, h.ahead, ?_⟩
  · intro ticket client hentry
    rw [show ({ w with gate := g, route := route, calls := calls } : World H I).gate.queue =
      w.gate.queue from hqueue] at hentry
    exact h.entry ticket client hentry
  · intro client purpose ticket hphase
    change g.queue.waiting.get? ticket = some client
    rw [hqueue]
    exact h.queued client purpose ticket hphase
  · intro client phase ticket hphase hticket
    change ticket < g.queue.nextTicket
    rw [hqueue]
    exact h.issued client phase ticket hphase hticket
  intro hset
  rcases hfast hset with hold | hnew
  · change g.queue.waiting.entries = [] ∧ g.queue.running = false
    rw [hqueue]
    exact h.clear hold
  · exact clear_of_admits hnew

/-- A session without a ticket moves on without one. -/
lemma Lined.reseat (hold : (w.sessions.get? client).bind Phase.ticket = none)
    (hnew : phase'.bind Phase.ticket = none) :
    Lined { w with sessions := w.sessions.assign client phase' } := by
  refine ⟨?_, ?_, ?_, ?_, h.clear⟩
  · intro ticket c hentry
    obtain ⟨purpose, hphase⟩ := h.entry ticket c hentry
    refine ⟨purpose, ?_⟩
    change (w.sessions.assign client phase').get? c = _
    rw [get?_assign, if_neg, hphase]
    rintro rfl
    rw [hphase] at hold
    cases hold
  · intro c purpose ticket hphase
    exact h.queued c purpose ticket (waiting_of_assign hnew hphase rfl).2
  · intro c phase ticket hphase hticket
    exact h.issued c phase ticket (waiting_of_assign hnew hphase hticket).2 hticket
  · intro first purpose early second purpose' late hfirst hsecond
    exact h.ahead first purpose early second purpose' late (waiting_of_assign hnew hfirst rfl).2
      (waiting_of_assign hnew hsecond rfl).2

/-- A session takes the next ticket. -/
lemma Lined.enqueue
    (hphase : w.sessions.get? client = some (.entering purpose)) (hrefused : w.gate.admits = false) :
    Lined { w with
        gate := (w.gate.enterQueue client).2
        sessions := w.sessions.insert client (.queued purpose w.gate.queue.nextTicket) } := by
  rw [enterQueue_refused hrefused]
  refine ⟨?_, ?_, ?_, ?_, ?_⟩
  · intro ticket c hentry
    change (w.gate.queue.waiting.insert _ client).get? ticket = some c at hentry
    change ∃ purpose', (w.sessions.insert client _).get? c = some (.queued purpose' ticket)
    rcases get?_insert_cases hentry with ⟨rfl, rfl⟩ | ⟨-, hentry⟩
    · exact ⟨purpose, get?_insert_self ..⟩
    obtain ⟨purpose', hqueued⟩ := h.entry ticket c hentry
    refine ⟨purpose', ?_⟩
    rw [get?_insert_of_ne, hqueued]
    rintro rfl
    rw [hphase] at hqueued
    cases hqueued
  · intro c purpose' ticket hget
    change (w.gate.queue.waiting.insert _ client).get? ticket = some c
    rcases get?_insert_cases hget with ⟨rfl, hqueued⟩ | ⟨-, hqueued⟩
    · cases hqueued
      exact get?_insert_self ..
    · have hlt : ticket < w.gate.queue.nextTicket := h.issued c _ ticket hqueued rfl
      rw [get?_insert_of_ne _ _ (ne_of_lt hlt)]
      exact h.queued c purpose' ticket hqueued
  · intro c phase ticket hget hticket
    change ticket < w.gate.queue.nextTicket + 1
    rcases get?_insert_cases hget with ⟨-, rfl⟩ | ⟨-, hold⟩
    · cases hticket
      exact Nat.lt_succ_self _
    · exact Nat.lt_succ_of_lt (h.issued c phase ticket hold hticket)
  · intro first purpose1 early second purpose2 late hfirst hsecond
    rcases get?_insert_cases hfirst with ⟨-, hwoken⟩ | ⟨-, hwoken⟩
    · cases hwoken
    rcases get?_insert_cases hsecond with ⟨-, hqueued⟩ | ⟨-, hqueued⟩
    · cases hqueued
      exact h.issued first _ early hwoken rfl
    · exact h.ahead first purpose1 early second purpose2 late hwoken hqueued
  · exact clear_of_admits

/-- The ticket of a waiting session is not the ticket of a woken one, nor of another
session that waits. -/
lemma Lined.ticket_ne {other ticket' : Nat}
    (hphase : w.sessions.get? client = some phase) (hticket : phase.ticket = some ticket)
    (hne : other ≠ client) (hqueued : w.sessions.get? other = some (.queued purpose ticket')) : ticket' ≠ ticket := by
  rintro rfl
  cases phase with
  | queued purpose' t =>
    cases hticket
    have hmine := h.queued client purpose' ticket' hphase
    rw [h.queued other purpose ticket' hqueued] at hmine
    cases hmine
    exact hne rfl
  | woken purpose' t =>
    cases hticket
    exact absurd (h.ahead client purpose' ticket' other purpose ticket' hphase hqueued)
      (lt_irrefl _)
  | _ => cases hticket

/-- A session gives its ticket back. -/
lemma Lined.withdraw
    (hphase : w.sessions.get? client = some phase) (hticket : phase.ticket = some ticket)
    (hnew : phase'.bind Phase.ticket = none) (hqueue : g.queue = (w.gate.withdraw ticket).queue)
    (hfast : g.fast = (w.gate.withdraw ticket).fast) :
    Lined { w with gate := g, sessions := w.sessions.assign client phase' } := by
  have hwaiting : g.queue.waiting = w.gate.queue.waiting.erase ticket := by
    rw [hqueue]
    rfl
  refine ⟨?_, ?_, ?_, ?_, ?_⟩
  · intro t c hentry
    change g.queue.waiting.get? t = some c at hentry
    rw [hwaiting] at hentry
    obtain ⟨hne, hentry⟩ := get?_of_erase hentry
    obtain ⟨purpose, hqueued⟩ := h.entry t c hentry
    refine ⟨purpose, ?_⟩
    change (w.sessions.assign client phase').get? c = _
    rw [get?_assign, if_neg, hqueued]
    rintro rfl
    rw [hphase] at hqueued
    cases hqueued
    cases hticket
    exact hne rfl
  · intro c purpose t hget
    obtain ⟨hne, hqueued⟩ := waiting_of_assign hnew hget rfl
    change g.queue.waiting.get? t = some c
    rw [hwaiting, get?_erase, if_neg (h.ticket_ne hphase hticket hne hqueued)]
    exact h.queued c purpose t hqueued
  · intro c phase t hget ht
    change t < g.queue.nextTicket
    rw [hqueue]
    exact h.issued c phase t (waiting_of_assign hnew hget ht).2 ht
  · intro first purpose early second purpose' late hfirst hsecond
    exact h.ahead first purpose early second purpose' late (waiting_of_assign hnew hfirst rfl).2
      (waiting_of_assign hnew hsecond rfl).2
  · intro hset
    change g.queue.waiting.entries = [] ∧ g.queue.running = false
    rw [hqueue]
    change g.fast = true at hset
    rw [hfast] at hset
    exact clear_of_admits hset

/-- The first in the queue is woken. -/
lemma Lined.pass (hpass : PassMove w w') : w'.Lined := by
  cases hpass with
  | idle unserved => exact ⟨h.entry, h.queued, h.issued, h.ahead, clear_of_admits⟩
  | @wakes ticket client purpose isOpen entry least queued =>
    refine ⟨?_, ?_, ?_, ?_, clear_of_admits⟩
    · intro t c hentry
      change (w.gate.queue.waiting.erase ticket).get? t = some c at hentry
      change ∃ purpose', (w.sessions.insert client _).get? c = some (.queued purpose' t)
      obtain ⟨hne, hentry⟩ := get?_of_erase hentry
      obtain ⟨purpose', hqueued⟩ := h.entry t c hentry
      refine ⟨purpose', ?_⟩
      rw [get?_insert_of_ne, hqueued]
      rintro rfl
      rw [queued] at hqueued
      cases hqueued
      exact hne rfl
    · intro c purpose' t hget
      change (w.gate.queue.waiting.erase ticket).get? t = some c
      rcases get?_insert_cases hget with ⟨-, hwoken⟩ | ⟨hne, hqueued⟩
      · cases hwoken
      · rw [get?_erase, if_neg (h.ticket_ne queued rfl hne hqueued)]
        exact h.queued c purpose' t hqueued
    · intro c phase t hget ht
      change t < w.gate.queue.nextTicket
      rcases get?_insert_cases hget with ⟨-, rfl⟩ | ⟨-, hold⟩
      · cases ht
        exact h.issued client _ ticket queued rfl
      · exact h.issued c phase t hold ht
    · intro first purpose1 early second purpose2 late hfirst hsecond
      rcases get?_insert_cases hsecond with ⟨-, hwoken⟩ | ⟨hne, hqueued⟩
      · cases hwoken
      rcases get?_insert_cases hfirst with ⟨-, hwoken⟩ | ⟨-, hwoken⟩
      · cases hwoken
        have hle : ticket ≤ late := least late second (h.queued second purpose2 late hqueued)
        exact lt_of_le_of_ne hle (h.ticket_ne queued rfl hne hqueued).symm
      · exact h.ahead first purpose1 early second purpose2 late hwoken hqueued

lemma Lined.passIf (owed : Bool) : (w.passIf owed).Lined := by
  cases owed with
  | false => exact h
  | true => exact h.pass h.passBaton

/-- A client's step, before the `pass` it may owe. -/
lemma Lined.ripple (hripple : Ripple w client (w.sessions.get? client) g phase' owed) :
    Lined { w with gate := g, sessions := w.sessions.assign client phase' } := by
  generalize hphase : w.sessions.get? client = phase at hripple
  cases hripple with
  | aside alike unticketed unticketed' baton owes elsewhere =>
    have hreseated := h.reseat (by rw [hphase]; exact unticketed) unticketed'
    exact hreseated.regate alike.queue fun hset => .inl (alike.fast ▸ hset)
  | @through phase g purpose isOpen queue hint unticketed baton =>
    have hreseated : Lined
        { w with sessions := w.sessions.assign client (some (.admitted purpose false)) } :=
      h.reseat (by rw [hphase]; exact unticketed) rfl
    refine hreseated.regate queue ?_
    intro hset
    rcases hint with ⟨hold, -⟩ | ⟨-, hnew⟩
    · exact .inl hold
    · exact .inr (hnew ▸ hset)
  | enqueue purpose refused => exact h.enqueue hphase refused
  | turn purpose ticket => exact h.withdraw hphase rfl rfl rfl rfl
  | leave ticketed => exact h.withdraw hphase ticketed rfl rfl rfl

end

end Lined

omit [DecidableEq I] in
lemma requestNext_alike {now : Nat} {ask : Request H I} {stage : Stage H I}
    (h : w.requestNext now ask = some (g, stage)) : Alike w.gate g := by
  obtain ⟨lease, rfl⟩ := requestNext_frame h
  exact ⟨rfl, rfl, rfl⟩

/-- What a section of a call does to the queue, before the `pass` it may be. -/
structure StageRipple (w : World H I) (stage : Stage H I) (g : TenantGate H I Nat)
    (stage' : Option (Stage H I)) (owed : Bool) : Prop where
  queue : g.queue = w.gate.queue
  fast : g.fast = w.gate.fast ∨ g.fast = g.admits
  /-- Whoever opens the gate goes on to a `pass`. -/
  opened : g.isOpen = true → stage'.any Stage.owesPass = true ∨ owed = true ∨
    w.gate.isOpen = true ∧ stage.owesPass = false
  /-- Whoever moves the gate goes on to recompute the hint. -/
  hinted : stage'.any Stage.owesHint = true ∨ g.fast = g.admits ∨
    g.fast = w.gate.fast ∧ g.isOpen = w.gate.isOpen ∧ stage.owesHint = false
  passing : owed = true → ∃ rollback, stage = .pass rollback

lemma stageNext_ripple (w : World H I) (now : Nat) (stage : Stage H I) :
    StageRipple w stage (w.stageNext instances maxTtl now stage).1
      (w.stageNext instances maxTtl now stage).2.2.1
      (w.stageNext instances maxTtl now stage).2.2.2 := by
  cases stage with
  | take holder ttl source =>
    simp only [stageNext]
    split
    · exact ⟨rfl, .inl rfl, by simp, by simp, by simp⟩
    · rename_i taken gate htake
      obtain ⟨-, rfl⟩ := takeLease_ok htake
      exact ⟨rfl, .inl rfl, by simp, by simp, by simp⟩
  | shut => exact ⟨rfl, .inl rfl, by simp [stageNext, TenantGate.shut], .inl rfl, by simp [stageNext]⟩
  | hint wasOpen =>
    exact ⟨rfl, .inr rfl, by simp [stageNext], .inr (.inl rfl), by simp [stageNext]⟩
  | startClock wasOpen =>
    cases wasOpen with
    | true | false =>
      exact ⟨rfl, .inl rfl, by simp [stageNext, TenantGate.startClock],
        .inr (.inr ⟨rfl, rfl, rfl⟩), by simp [stageNext]⟩
  | move target | rollBack source =>
    exact ⟨rfl, .inl rfl, by simp [stageNext], .inr (.inr ⟨rfl, rfl, rfl⟩), by simp [stageNext]⟩
  | unbar rollback =>
    exact ⟨rfl, .inl rfl, fun _ => .inl rfl, .inl rfl, by simp [stageNext]⟩
  | unbarHint rollback =>
    exact ⟨rfl, .inr rfl, fun _ => .inl rfl, .inr (.inl rfl), by simp [stageNext]⟩
  | stopClock rollback =>
    exact ⟨rfl, .inl rfl, fun _ => .inl rfl, .inr (.inr ⟨rfl, rfl, rfl⟩), by simp [stageNext]⟩
  | pass rollback =>
    exact ⟨rfl, .inl rfl, fun _ => .inr (.inl rfl), .inr (.inr ⟨rfl, rfl, rfl⟩),
      fun _ => ⟨rollback, rfl⟩⟩

omit [DecidableEq H] [DecidableEq I] in
lemma lined_start (route : I) : (start route : World H I).Lined where
  entry := by
    intro ticket client h
    cases h
  queued := by
    intro client purpose ticket h
    cases h
  issued := by
    intro client phase ticket h
    cases h
  ahead := by
    intro first purpose early second purpose' late h
    cases h
  clear := fun _ => ⟨rfl, rfl⟩

omit [DecidableEq H] [DecidableEq I] in
/-- A section of a call, before the `pass` it may be. -/
lemma Lined.stage (h : w.Lined) {stage : Stage H I} {stage' : Option (Stage H I)}
    (hstage : StageRipple w stage g stage' owed) {route : I} {calls : OrderedMap Nat (Stage H I)} :
    Lined { w with gate := g, route := route, calls := calls } := by
  refine h.regate hstage.queue ?_
  intro hset
  rcases hstage.fast with hold | hnew
  · exact .inl (hold ▸ hset)
  · exact .inr (hnew ▸ hset)

lemma Lined.next (h : w.Lined) (hnext : w.next instances maxTtl a = some w') : w'.Lined := by
  rcases next_cases instances maxTtl hnext with ⟨call, ask, now, -, rfl⟩ |
    ⟨call, ask, now, g, stage, -, -, hrequest, rfl⟩ | ⟨call, now, stage, -, -, rfl⟩ |
    ⟨id, step, g, phase, owed, -, hclient, rfl⟩
  · exact h
  · have halike := requestNext_alike hrequest
    exact h.regate halike.queue fun hset => .inl (halike.fast ▸ hset)
  · have hstage : StageRipple w stage (w.stageNext instances maxTtl now stage).1 _ _ :=
      stageNext_ripple w now stage
    exact (h.stage hstage).passIf _
  · exact (h.ripple (clientNext_ripple hclient)).passIf owed

lemma lined_of_reachable (h : (system instances maxTtl).Reachable w) : w.Lined := by
  refine h.invariant (I := Lined) ?_ ?_
  · rintro w ⟨route, rfl⟩
    exact lined_start route
  · intro s a t _ hs hstep
    exact hs.next hstep

/-! ### One turn at a time -/

/-- One session at most has the turn, and then the queue knows it. -/
structure Single (w : World H I) : Prop where
  one : ∀ first phase second phase', w.sessions.get? first = some phase →
    w.sessions.get? second = some phase' → phase.hasTurn = true → phase'.hasTurn = true →
    first = second
  running : ∀ client phase, w.sessions.get? client = some phase → phase.hasTurn = true →
    w.gate.queue.running = true

/-- Nobody has the turn. -/
def Unturned (w : World H I) : Prop :=
  ∀ client phase, w.sessions.get? client = some phase → phase.hasTurn = false

section Single

omit [DecidableEq H] [DecidableEq I]

variable {w : World H I} {client : Nat} {g : TenantGate H I Nat} {phase' : Option (Phase I)}

/-- A `pass` gives out one turn where none is out. -/
lemma Unturned.pass (h : w.Unturned) (hpass : PassMove w w') : w'.Single := by
  cases hpass with
  | idle unserved =>
    constructor
    · intro first phase second phase' hfirst _ hturn
      rw [h first phase hfirst] at hturn
      cases hturn
    · intro client phase hphase hturn
      rw [h client phase hphase] at hturn
      cases hturn
  | @wakes ticket client purpose isOpen entry least queued =>
    have honly c phase : (w.sessions.insert client (.woken purpose ticket)).get? c = some phase →
        phase.hasTurn → c = client := by
      intro hget hturn
      rcases get?_insert_cases hget with ⟨heq, -⟩ | ⟨-, hold⟩
      · exact heq
      · rw [h c phase hold] at hturn
        cases hturn
    constructor
    · intro first phase second phase' hfirst hsecond hturn hturn'
      rw [honly first phase hfirst hturn, honly second phase' hsecond hturn']
    · intro _ _ _ _
      rfl

/-- A session's new phase has the turn only if its old one had it. -/
lemma Single.reseat (h : w.Single) (hrunning : g.queue.running = w.gate.queue.running)
    (hturn : phase'.any Phase.hasTurn → (w.sessions.get? client).any Phase.hasTurn) :
    Single { w with gate := g, sessions := w.sessions.assign client phase' } := by
  have hold c phase : (w.sessions.assign client phase').get? c = some phase → phase.hasTurn →
      ∃ old, w.sessions.get? c = some old ∧ old.hasTurn = true := by
    intro hget hhas
    rw [get?_assign] at hget
    split at hget
    · rename_i heq
      rw [heq]
      rw [hget] at hturn
      exact (any_eq_true _ _).mp (hturn hhas)
    · exact ⟨phase, hget, hhas⟩
  constructor
  · intro first phase second phase'' hfirst hsecond hhas hhas'
    obtain ⟨old, hget, hturned⟩ := hold first phase hfirst hhas
    obtain ⟨old', hget', hturned'⟩ := hold second phase'' hsecond hhas'
    exact h.one first old second old' hget hget' hturned hturned'
  intro c phase hget hhas
  obtain ⟨old, hget', hturned⟩ := hold c phase hget hhas
  change g.queue.running = true
  rw [hrunning]
  exact h.running c old hget' hturned

/-- A session that drops its baton leaves nobody with the turn. -/
lemma Single.unturned (h : w.Single) (hhad : (w.sessions.get? client).any Phase.hasTurn)
    (hturn : phase'.any Phase.hasTurn = false) :
    Unturned { w with gate := g, sessions := w.sessions.assign client phase' } := by
  intro c phase hget
  change (w.sessions.assign client phase').get? c = some phase at hget
  rw [get?_assign] at hget
  split at hget
  · rw [hget] at hturn
    exact hturn
  rename_i hne
  obtain ⟨old, hold, hturned⟩ := (any_eq_true _ _).mp hhad
  cases hhas : phase.hasTurn with
  | false => rfl
  | true => exact absurd (h.one c phase client old hget hold hhas hturned) hne

/-- Without a ticket, the turn is the baton. -/
lemma hasTurn_of_unticketed {phase : Option (Phase I)} (h : phase.bind Phase.ticket = none) :
    phase.any Phase.hasTurn = phase.any Phase.baton := by
  cases phase with
  | none => rfl
  | some phase =>
    cases phase with
    | woken purpose ticket => cases h
    | _ => rfl

lemma Single.ripple (h : w.Single) (hlined : w.Lined)
    (hripple : Ripple w client (w.sessions.get? client) g phase' owed) :
    (w.clientMoved client g phase' owed).Single := by
  have hafter := hlined.ripple hripple
  generalize hphase : w.sessions.get? client = phase at hripple
  cases hripple with
  | aside alike unticketed unticketed' baton owes elsewhere =>
    have hturn := hasTurn_of_unticketed unticketed
    have hturn' := hasTurn_of_unticketed unticketed'
    cases owed with
    | false =>
      refine h.reseat (by rw [alike.queue]) ?_
      rw [hphase, hturn, hturn', baton]
      simp
    | true =>
      have hdropped : phase'.any Phase.hasTurn = false := by
        rw [hturn', baton]
        simp
      refine (h.unturned ?_ hdropped).pass hafter.passBaton
      rw [hphase, hturn]
      exact owes rfl
  | through isOpen queue hint unticketed baton =>
    exact h.reseat (by rw [queue]) (by simp)
  | enqueue purpose refused =>
    have hqueue : (w.gate.enterQueue client).2.queue.running = w.gate.queue.running := by
      rw [enterQueue_refused refused]
      rfl
    exact h.reseat hqueue (by simp)
  | turn purpose ticket => exact h.reseat rfl (by rw [hphase]; simp)
  | leave ticketed => exact h.reseat rfl (by simp)

end Single

/-- The gate is opened between turns: when a call comes to wake the head of the queue,
no session is between its wake-up and the drop of its baton. -/
def OpensBetweenTurns (w : World H I) (a : Action H I) : Prop :=
  ∀ call now rollback, a = .advance call now → w.calls.get? call = some (.pass rollback) →
    w.Unturned

lemma Single.next (h : w.Single) (hlined : w.Lined) (hbetween : w.OpensBetweenTurns a)
    (hnext : w.next instances maxTtl a = some w') : w'.Single := by
  rcases next_cases instances maxTtl hnext with ⟨call, ask, now, -, rfl⟩ |
    ⟨call, ask, now, g, stage, -, -, hrequest, rfl⟩ | ⟨call, now, stage, ha, hcall, rfl⟩ |
    ⟨id, step, g, phase, owed, -, hclient, rfl⟩
  · exact h
  · have halike := requestNext_alike hrequest
    refine ⟨h.one, ?_⟩
    intro client phase hphase hturn
    change g.queue.running = true
    rw [halike.queue]
    exact h.running client phase hphase hturn
  · have hstage : StageRipple w stage (w.stageNext instances maxTtl now stage).1 _ _ :=
      stageNext_ripple w now stage
    unfold callMoved
    cases howed : (w.stageNext instances maxTtl now stage).2.2.2 with
    | false =>
      refine ⟨h.one, ?_⟩
      intro client phase hphase hturn
      change (w.stageNext instances maxTtl now stage).1.queue.running = true
      rw [hstage.queue]
      exact h.running client phase hphase hturn
    | true =>
      obtain ⟨rollback, rfl⟩ := hstage.passing howed
      have hunturned : w.Unturned := hbetween call now rollback ha hcall
      refine Unturned.pass ?_ (hlined.stage hstage).passBaton
      exact hunturned
  · exact h.ripple hlined (clientNext_ripple hclient)

lemma single_of_reachable (h : ((system instances maxTtl).restrict OpensBetweenTurns).Reachable w) :
    w.Single := by
  refine h.invariant (I := Single) ?_ ?_
  · rintro w ⟨route, rfl⟩
    constructor
    · intro first phase second phase' hfirst
      cases hfirst
    · intro client phase hphase
      cases hphase
  · intro s a t hreach hs hstep
    exact hs.next (lined_of_reachable hreach.of_restrict) hstep.1 hstep.2

/-- The step lets a client past the gate: its `admit` returns. -/
def Admits (w w' : World H I) (client : Nat) : Prop :=
  (∃ purpose baton, w'.sessions.get? client = some (.admitted purpose baton)) ∧
    ∀ purpose baton, w.sessions.get? client ≠ some (.admitted purpose baton)

omit [DecidableEq H] [DecidableEq I] in
/-- A `pass` lets nobody past the gate: the woken client's `admit` has yet to return. -/
lemma admitted_of_passIf {purpose : Purpose I} {baton : Bool}
    (h : (w.passIf owed).sessions.get? client = some (.admitted purpose baton)) :
    w.sessions.get? client = some (.admitted purpose baton) := by
  rcases w.passIf_sessions owed with hsame | ⟨-, -, woken, purpose', ticket, -, hwoken⟩
  · rw [hsame] at h
    exact h
  rw [hwoken] at h
  rcases get?_insert_cases h with ⟨-, hphase⟩ | ⟨-, hold⟩
  · cases hphase
  · exact hold

/-- Only a client's own step takes it past the gate. -/
lemma ripple_of_admits (hnext : w.next instances maxTtl a = some w') (h : Admits w w' client) :
    ∃ g purpose baton owed,
      Ripple w client (w.sessions.get? client) g (some (.admitted purpose baton)) owed := by
  obtain ⟨⟨purpose, baton, hadmitted⟩, hbefore⟩ := h
  rcases next_cases instances maxTtl hnext with ⟨call, ask, now, -, rfl⟩ |
    ⟨call, ask, now, g, stage, -, -, hrequest, rfl⟩ | ⟨call, now, stage, -, -, rfl⟩ |
    ⟨id, step, g, phase, owed, -, hclient, rfl⟩
  · exact absurd hadmitted (hbefore purpose baton)
  · exact absurd hadmitted (hbefore purpose baton)
  · exact absurd (admitted_of_passIf hadmitted) (hbefore purpose baton)
  have hmoved := admitted_of_passIf hadmitted
  change (w.sessions.assign id phase).get? client = _ at hmoved
  rw [get?_assign] at hmoved
  split at hmoved
  · rename_i heq
    rw [heq]
    rw [hmoved] at hclient
    exact ⟨g, purpose, baton, owed, clientNext_ripple hclient⟩
  · exact absurd hmoved (hbefore purpose baton)

/-- In every run in which the gate is opened between turns only, whatever the calls and
sessions do besides, one queued session at most holds a baton, and a session is let
past the gate only when every session still queued has a later ticket than its own: a
session without a ticket only when nobody is queued. -/
theorem one_turn_in_ticket_order {w : World H I}
    (h : ((system instances maxTtl).restrict OpensBetweenTurns).Reachable w) :
    (∀ first phase second phase', w.sessions.get? first = some phase →
      w.sessions.get? second = some phase' → phase.baton = true → phase'.baton = true →
      first = second) ∧
    ∀ a w' client other phase late, w.next instances maxTtl a = some w' → Admits w w' client →
      w.sessions.get? other = some phase → phase.ticket = some late → other ≠ client →
      ∃ mine early, w.sessions.get? client = some mine ∧ mine.ticket = some early ∧
        early < late := by
  have hsingle := single_of_reachable h
  have hlined := lined_of_reachable h.of_restrict
  have hturn : ∀ phase : Phase I, phase.baton → phase.hasTurn := by
    intro phase hbaton
    cases phase with
    | woken purpose ticket => rfl
    | _ => exact hbaton
  constructor
  · intro first phase second phase' hfirst hsecond hbaton hbaton'
    exact hsingle.one first phase second phase' hfirst hsecond (hturn phase hbaton)
      (hturn phase' hbaton')
  intro a w' client other phase late hnext hadmits hother hlate hne
  obtain ⟨g, purpose, baton, owed, hripple⟩ := ripple_of_admits hnext hadmits
  generalize hphase : w.sessions.get? client = mine at hripple
  cases hripple with
  | aside alike unticketed unticketed' hbaton owes elsewhere =>
    exact absurd rfl (elsewhere purpose baton)
  | through isOpen queue hint unticketed hbaton =>
    have hclear : w.gate.queue.waiting.entries = [] ∧ w.gate.queue.running = false := by
      rcases hint with ⟨hfast, -⟩ | ⟨hgate, -⟩
      · exact hlined.clear hfast
      · exact clear_of_admits hgate
    -- nobody waits at a gate that lets a newcomer through
    cases phase with
    | queued purpose ticket =>
      have hentry := hlined.queued other purpose ticket hother
      rw [← mem_entries_iff, hclear.1] at hentry
      cases hentry
    | woken purpose ticket =>
      have hrunning := hsingle.running other _ hother rfl
      rw [hclear.2] at hrunning
      cases hrunning
    | _ => cases hlate
  | turn purpose early =>
    refine ⟨_, early, rfl, rfl, ?_⟩
    cases phase with
    | queued purpose' ticket =>
      cases hlate
      exact hlined.ahead client _ early other _ late hphase hother
    | woken purpose' ticket =>
      exact absurd (hsingle.one other _ client _ hother hphase rfl rfl) hne
    | _ => cases hlate

/-- The condition of `one_turn_in_ticket_order`, as a test. -/
def betweenTurnsTest (w : World H I) (a : Action H I) : Bool :=
  match a with
  | .advance call _ =>
    match w.calls.get? call with
    | some (.pass _) => w.sessions.values.all fun phase => !phase.hasTurn
    | _ => true
  | _ => true

omit [DecidableEq H] [DecidableEq I] in
lemma opensBetweenTurns_of_test (h : w.betweenTurnsTest a) : w.OpensBetweenTurns a := by
  rintro call now rollback rfl hcall client phase hphase
  simp only [betweenTurnsTest, hcall, List.all_eq_true] at h
  have hturn := h phase ((mem_values_iff _ _).mpr ⟨client, hphase⟩)
  simpa using hturn

/-- The holder closes the gate. -/
def closing (call holder now : Nat) : List (Action Nat Nat) :=
  .request call (.quiesce holder 30) now :: List.replicate 4 (.advance call now)

/-- The holder opens the gate. -/
def opening (call holder now : Nat) : List (Action Nat Nat) :=
  .request call (.resume holder) now :: List.replicate 4 (.advance call now)

/-- A client comes to the gate and finds it closed. -/
def joining (client : Nat) : List (Action Nat Nat) :=
  [.client client (.connect true), .client client .load, .client client .lock]

/-- Two clients queue behind a closed gate, and the gate is opened. -/
def firstTurn : List (Action Nat Nat) :=
  closing 0 7 0 ++ joining 1 ++ joining 2 ++ opening 0 7 1

/-- The first client's `admit` returns while the second is still queued. -/
theorem one_turn_in_ticket_order_firstTurn : ∃ w w' : World Nat Nat,
      System.run (guarded (next [1, 2] 60) betweenTurnsTest) (start 1) firstTurn = some w ∧
      w.next [1, 2] 60 (.client 1 .wake) = some w' ∧
      ∃ mine early, w.sessions.get? 1 = some mine ∧ mine.ticket = some early ∧ early < 1 := by
  let w := (System.run (guarded (next [1, 2] 60) betweenTurnsTest) (start 1)
    firstTurn).get (by decide)
  let w' := (w.next [1, 2] 60 (.client 1 .wake)).get (by decide)
  have hrun : _ = some w := (some_get _).symm
  have hpath : ((system [1, 2] 60).restrict OpensBetweenTurns).Path (start 1) firstTurn w :=
    path_of_guarded_run (fun _ _ _ => id) (fun _ _ htest => opensBetweenTurns_of_test htest) hrun
  have hreach : ((system [1, 2] 60).restrict OpensBetweenTurns).Reachable w :=
    hpath.reachable (.init ⟨1, rfl⟩)
  have hnext : _ = some w' := (some_get _).symm
  refine ⟨w, w', hrun, hnext, ?_⟩
  refine (one_turn_in_ticket_order hreach).2 _ w' 1 2
    (.queued (.transaction 1) 1) 1 hnext ⟨⟨.transaction 1, true, by decide⟩, ?_⟩
    (by decide) rfl (by decide)
  have hwoken : w.sessions.get? 1 = some (.woken (.transaction 1) 0) := by decide
  intro purpose baton hadmitted
  rw [hwoken] at hadmitted
  cases hadmitted

/-- The first client is on its way to a backend, baton in hand, when the holder closes
and opens the gate again: the second client gets a baton too. -/
theorem reopening_gives_out_a_second_baton : ∃ w : World Nat Nat, (system [1, 2] 60).Reachable w ∧
      w.sessions.get? 1 = some (.admitted (.transaction 1) true) ∧
      w.sessions.get? 2 = some (.admitted (.transaction 1) true) := by
  exact (exists_of_any (x := System.run (next [1, 2] 60) (start 1) (firstTurn ++ [.client 1 .wake] ++
    closing 0 7 2 ++ opening 0 7 3 ++ [.client 2 .wake])) (by decide)).imp fun w hw =>
    ⟨reachable_of_run (fun _ _ _ _ => id) (.init ⟨1, rfl⟩) hw.1, hw.2⟩

end World
end PgElastic.Proxy.Cutover
