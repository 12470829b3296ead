import PgElastic.Library.Along
import PgElastic.Library.OrderedMap
import PgElastic.Library.Queues
import PgElastic.Library.Transition
import PgElastic.Pool.Backend

/-!
# Responses and the requests that drew them

The outstanding-request queue against the reference backend, for pipelined requests
without COPY.  Requests are numbered as they are recorded; a faked one is answered by the
pool and never sent.  Recording, the backend's reading and the receipt of responses
interleave freely.

The simulation is a weakest precondition: reading the responses still in flight, in order,
matches each of them against the request that drew it and leaves exactly the requests the
backend still owes an answer.  It holds in every run in which nothing the backend is going
to discard is recorded once its error has been received, and in which no discarded batch
holds a `Query` or a `FunctionCall`.
-/

namespace PgElastic.Pool.Correlation

open Library Wire Option OutstandingQueue List Entry Backend OutstandingQueue

/-- The queue, the backend and the responses in flight between them. -/
structure World where
  queue : OutstandingQueue Nat
  recorded : Nat
  backend : Backend Nat
  wire : List (Reply Nat)
  deriving DecidableEq, Repr

inductive Action
  | record (kind : RequestKind) (relay : Relay)
  | flush
  | serve (outcome : Outcome)
  | notify (message : BackendMessage)
  | receive
  deriving DecidableEq, Repr

/-- The requests the pool answers itself, with its answers. -/
def fakeable : RequestKind → BackendMessage → Bool
  | .parse, .parseComplete => true
  | .close, .closeComplete => true
  | _, _ => false

def relayable (kind : RequestKind) : Relay → Bool
  | .fake response => fakeable kind response
  | _ => true

def startsCopy : Outcome → Bool
  | .beginsCopy _ => true
  | _ => false

namespace World

def start : World := ⟨new, 0, Backend.fresh, []⟩

/-- Records a request and, unless the pool answers it, sends it. -/
def record (world : World) (kind : RequestKind) (relay : Relay) : World :=
  { world with
    queue := (world.queue.record world.recorded kind relay).takeReadyFakes.2
    recorded := world.recorded + 1
    backend :=
      if relay.disposition = .fake then world.backend
      else world.backend.enqueue (.request ⟨world.recorded, kind⟩) }

/-- The backend has moved and sent these replies. -/
def reply (world : World) (effect : Backend Nat × List (Reply Nat)) : World :=
  { world with backend := effect.1, wire := world.wire ++ effect.2 }

def next (world : World) : Action → Option World
  | .record kind relay =>
    if relayable kind relay then some (world.record kind relay) else none
  | .flush => some world
  | .serve outcome =>
    if startsCopy outcome then none else (world.backend.serve outcome).map world.reply
  | .notify message => (world.backend.notify message).map world.reply
  | .receive =>
    match world.wire with
    | [] => none
    | reply :: rest =>
      match (world.queue.apply reply.message).1 with
      | .ok _ =>
        some { world with queue := world.queue.receive reply.message, wire := rest }
      | .error _ => none

def system : System World Action where
  init := fun world => world = start
  step := fun world action after => world.next action = some after

end World

/-! ### The condition -/

/-- The backend discards everything it is sent until a `Sync` it has not been sent. -/
def awaitsSync (backend : Backend Nat) : Bool :=
  backend.mode == .skipping && (requestsIn backend.unread).all fun request => request.kind != .sync

/-- A failing extended-query message takes no `Query` and no `FunctionCall` with it: the
next batch terminator behind it is a `Sync`, or has not been sent. -/
def failsAlone (backend : Backend Nat) : Bool :=
  match backend.unread, backend.mode with
  | .request request :: rest, .normal =>
    request.kind.terminatesBatch ||
      (((requestsIn rest).find? fun other => other.kind.terminatesBatch).all
        fun other => other.kind == .sync)
  | _, _ => true

/-- While the backend waits for a `Sync`, only that `Sync` is sent, or, as long as the
error has not been received, further messages of the failed batch; and a batch that fails
holds no request the queue would stop at. -/
def orderly (world : World) : Action → Bool
  | .record kind relay =>
    relay.disposition == .fake || !awaitsSync world.backend || kind == .sync ||
      (!kind.terminatesBatch && !world.queue.queryFailed)
  | .serve (.fails _ _) => failsAlone world.backend
  | _ => true

/-! ### What the responses in flight will do -/

/-- No answer of the pool waits at the head, and the pool fakes no batch terminator. -/
structure Tidy (queue : OutstandingQueue Nat) : Prop where
  head : ∀ entry ∈ queue.entries.head?, entry.isFake = false
  extended : ∀ entry ∈ queue.entries, entry.isFake = true → entry.terminates = false

/-- A reply meets the request that drew it at the head of the queue, and is no surprise
there. -/
def Matched (queue : OutstandingQueue Nat) (reply : Reply Nat) : Prop :=
  Tidy queue ∧ match reply.drawer with
    | none => isAsynchronous reply.message = true
    | some drawer =>
      isAsynchronous reply.message = false ∧
        ∃ entry rest, queue.entries = entry :: rest ∧ entry.request = drawer ∧
          ∀ error, verdict entry.kind reply.message ≠ .refuses error

/-- The requests the backend is still going to answer. -/
def owed (backend : Backend Nat) : List (Request Nat) :=
  match backend.mode with
  | .skipping => (requestsIn backend.unread).dropWhile fun request => request.kind != .sync
  | _ => requestsIn backend.unread

/-- The queue once nothing is in flight: it holds what the backend owes, and it knows that
a batch failed exactly as long as the backend is discarding it. -/
structure Settled (backend : Backend Nat) (queue : OutstandingQueue Nat) : Prop where
  tidy : Tidy queue
  requests : (queue.entries.filter fun entry => !entry.isFake).map Entry.request = owed backend
  failed : queue.queryFailed = (backend.mode == .skipping)

/-- Every reply in flight will meet its request, and leave what the backend owes. -/
def Awaits (backend : Backend Nat) (wire : List (Reply Nat)) (queue : OutstandingQueue Nat) :
    Prop :=
  Along Matched (fun queue reply => queue.receive reply.message) (Settled backend) wire queue

/-! ### Receiving one reply -/

variable {queue : OutstandingQueue Nat} {message : BackendMessage} {entry : Entry Nat}
  {rest : List (Entry Nat)} {reply : Reply Nat} {backend : Backend Nat} {world after : World}

lemma takeReadyFakes_of_tidy (h : Tidy queue) : queue.takeReadyFakes.2 = queue := by
  obtain ⟨entries, failed⟩ := queue
  cases entries with
  | nil => rfl
  | cons entry rest =>
    have hreal : entry.isFake = false := h.head entry rfl
    simp [takeReadyFakes, hreal]

lemma tidy_takeReadyFakes (h : ∀ entry ∈ queue.entries, entry.isFake → entry.terminates = false) :
    Tidy queue.takeReadyFakes.2 where
  head := by
    intro entry hentry
    have hnot := head?_dropWhile_not isFake queue.entries
    change (queue.entries.dropWhile isFake).head? = some entry at hentry
    rw [hentry] at hnot
    exact hnot
  extended := by
    intro entry hentry
    exact h entry ((dropWhile_suffix _).subset hentry)

lemma receive_asynchronous (htidy : Tidy queue) (h : isAsynchronous message) :
    queue.receive message = queue := by
  unfold receive
  rw [apply_asynchronous h]
  exact takeReadyFakes_of_tidy htidy

lemma receive_keeps (htidy : Tidy queue) (hentries : queue.entries = entry :: rest)
    (hanswer : isAsynchronous message = false) (h : verdict entry.kind message = .keeps) :
    queue.receive message = queue := by
  unfold receive
  rw [apply_cons hentries hanswer, h]
  exact takeReadyFakes_of_tidy htidy

lemma receive_pops (hentries : queue.entries = entry :: rest)
    (hanswer : isAsynchronous message = false) (h : verdict entry.kind message = .pops) :
    queue.receive message = ⟨rest.dropWhile isFake, stillFailed message queue.queryFailed⟩ := by
  unfold receive
  rw [apply_cons hentries hanswer, h]
  rfl

lemma receive_drains (hentries : queue.entries = entry :: rest)
    (hanswer : isAsynchronous message = false) (h : verdict entry.kind message = .drains) :
    queue.receive message =
      ⟨(queue.entries.dropWhile fun entry => !entry.terminates).dropWhile isFake, true⟩ := by
  unfold receive
  rw [apply_cons hentries hanswer, h, hentries]
  rfl

/-! ### Recording while replies are in flight -/

/-- The queue with one more entry at its back. -/
def withEntry (queue : OutstandingQueue Nat) (entry : Entry Nat) : OutstandingQueue Nat :=
  { queue with entries := queue.entries ++ [entry] }

/-- An error has emptied the queue of everything a `ReadyForQuery` could retire. -/
def Drained (queue : OutstandingQueue Nat) : Prop :=
  queue.queryFailed = true ∧ ∀ entry ∈ queue.entries, entry.terminates = false

instance (queue : OutstandingQueue Nat) : Decidable (Drained queue) := by
  unfold Drained
  infer_instance

lemma Tidy.withEntry (h : Tidy queue)
    (hentry : entry.isFake → entry.terminates = false ∧ queue.entries ≠ []) :
    Tidy (withEntry queue entry) where
  head := by
    intro first hfirst
    change (queue.entries ++ [entry]).head? = some first at hfirst
    cases hentries : queue.entries with
    | nil =>
      rw [hentries] at hfirst hentry
      obtain rfl : entry = first := by simpa using hfirst
      cases hfake : entry.isFake with
      | false => rfl
      | true => exact absurd rfl (hentry hfake).2
    | cons other rest =>
      rw [hentries] at hfirst
      obtain rfl : other = first := by simpa using hfirst
      exact h.head other (by rw [hentries]; rfl)
  extended := by
    intro other hother hfake
    rcases mem_append.mp hother with hold | hnew
    · exact h.extended other hold hfake
    · obtain rfl := mem_singleton.mp hnew
      exact (hentry hfake).1

lemma Matched.withEntry (h : Matched queue reply)
    (hentry : entry.isFake → entry.terminates = false ∧ queue.entries ≠ []) :
    Matched (withEntry queue entry) reply := by
  obtain ⟨htidy, hreply⟩ := h
  refine ⟨htidy.withEntry hentry, ?_⟩
  cases hdrawer : reply.drawer with
  | none =>
    rw [hdrawer] at hreply
    exact hreply
  | some drawer =>
    rw [hdrawer] at hreply
    obtain ⟨hanswer, first, rest, hentries, hrequest, haccepted⟩ := hreply
    refine ⟨hanswer, first, rest ++ [entry], ?_, hrequest, haccepted⟩
    change queue.entries ++ [entry] = _
    rw [hentries]
    rfl

variable {first : Entry Nat}

lemma entries_withEntry (hentries : queue.entries = first :: rest)
    (entry : Entry Nat) : (withEntry queue entry).entries = first :: (rest ++ [entry]) := by
  change queue.entries ++ [entry] = _
  rw [hentries]
  rfl

/-- What receiving a reply does, for the proofs that follow the head of the queue. -/
lemma receive_cases (h : Matched queue reply) : (queue.receive reply.message = queue ∧
        ∀ entry, (entry.isFake → entry.terminates = false ∧ queue.entries ≠ []) →
          (withEntry queue entry).receive reply.message = withEntry queue entry) ∨
      (∃ first rest, queue.entries = first :: rest ∧ isAsynchronous reply.message = false ∧
        verdict first.kind reply.message = .pops) ∨
      ∃ first rest, queue.entries = first :: rest ∧ isAsynchronous reply.message = false ∧
        verdict first.kind reply.message = .drains := by
  obtain ⟨htidy, hreply⟩ := h
  cases hdrawer : reply.drawer with
  | none =>
    rw [hdrawer] at hreply
    refine .inl ⟨receive_asynchronous htidy hreply, ?_⟩
    intro entry hentry
    exact receive_asynchronous (htidy.withEntry hentry) hreply
  | some drawer =>
    rw [hdrawer] at hreply
    obtain ⟨hanswer, first, rest, hentries, -, haccepted⟩ := hreply
    cases hverdict : verdict first.kind reply.message with
    | refuses error => exact absurd hverdict (haccepted error)
    | keeps =>
      refine .inl ⟨receive_keeps htidy hentries hanswer hverdict, ?_⟩
      intro entry hentry
      exact receive_keeps (htidy.withEntry hentry) (entries_withEntry hentries entry)
        hanswer hverdict
    | pops => exact .inr (.inl ⟨first, rest, hentries, hanswer, hverdict⟩)
    | drains => exact .inr (.inr ⟨first, rest, hentries, hanswer, hverdict⟩)

/-- A batch terminator recorded while replies are in flight waits behind all of them. -/
lemma receive_withEntry_terminator (h : Matched queue reply) (hreal : entry.isFake = false)
    (hterm : entry.terminates) :
    (withEntry queue entry).receive reply.message =
      withEntry (queue.receive reply.message) entry := by
  rcases receive_cases h with ⟨hkeep, hlonger⟩ | ⟨first, rest, hentries, hanswer, hpops⟩ |
    ⟨first, rest, hentries, hanswer, hdrains⟩
  · rw [hkeep, hlonger entry (by simp [hreal])]
  · rw [receive_pops hentries hanswer hpops,
      receive_pops (entries_withEntry hentries entry) hanswer hpops,
      dropWhile_append_singleton hreal]
    rfl
  rw [receive_drains hentries hanswer hdrains,
    receive_drains (entries_withEntry hentries entry) hanswer hdrains]
  change (⟨((queue.entries ++ [entry]).dropWhile _).dropWhile _, true⟩ : OutstandingQueue Nat) = _
  rw [dropWhile_append_singleton (by simp [hterm]), dropWhile_append_singleton hreal]
  rfl

/-- An answer of the pool recorded behind a request that is still in flight: it goes out
with the last request ahead of it. -/
def withFake (queue : OutstandingQueue Nat) (entry : Entry Nat) : OutstandingQueue Nat :=
  if queue.entries = [] then queue else withEntry queue entry

lemma dropWhile_fake_append {list : List (Entry Nat)} (hfake : entry.isFake) (failed : Bool) :
    (⟨(list ++ [entry]).dropWhile isFake, failed⟩ : OutstandingQueue Nat) =
      withFake ⟨list.dropWhile isFake, failed⟩ entry := by
  unfold withFake
  rw [dropWhile_append]
  split
  · rename_i hempty
    have hnil := List.isEmpty_iff.mp hempty
    rw [if_pos hnil, hnil, dropWhile_cons_of_pos hfake]
    rfl
  · rename_i hempty
    rw [if_neg (by simpa using hempty)]
    rfl

lemma receive_withFake (h : Matched queue reply) (hfake : entry.isFake)
    (hterm : entry.terminates = false) :
    (withFake queue entry).receive reply.message =
      withFake (queue.receive reply.message) entry := by
  by_cases hempty : queue.entries = []
  · have hkeep : queue.receive reply.message = queue := by
      rcases receive_cases h with ⟨hkeep, -⟩ | ⟨_, _, hentries, -⟩ | ⟨_, _, hentries, -⟩
      · exact hkeep
      · rw [hempty] at hentries
        cases hentries
      · rw [hempty] at hentries
        cases hentries
    rw [hkeep, withFake, if_pos hempty, hkeep]
  have hwith : withFake queue entry = withEntry queue entry := if_neg hempty
  rw [hwith]
  rcases receive_cases h with ⟨hkeep, hlonger⟩ | ⟨first, rest, hentries, hanswer, hpops⟩ |
    ⟨first, rest, hentries, hanswer, hdrains⟩
  · rw [hkeep, hwith, hlonger entry (fun _ => ⟨hterm, hempty⟩)]
  · rw [receive_pops hentries hanswer hpops,
      receive_pops (entries_withEntry hentries entry) hanswer hpops]
    exact dropWhile_fake_append hfake _
  rw [receive_drains hentries hanswer hdrains,
    receive_drains (entries_withEntry hentries entry) hanswer hdrains]
  change (⟨((queue.entries ++ [entry]).dropWhile _).dropWhile _, true⟩ : OutstandingQueue Nat) = _
  rw [dropWhile_append]
  split
  · -- Nothing survives the error, and a faked answer does not either.
    rename_i hnone
    rw [List.isEmpty_iff.mp hnone, dropWhile_cons_of_pos (by simp [hterm])]
    rfl
  · exact dropWhile_fake_append hfake _

/-- A further message of a batch: lost when the error that discards it has already
emptied the queue, and at the back otherwise. -/
def withExtended (queue : OutstandingQueue Nat) (entry : Entry Nat) : OutstandingQueue Nat :=
  if Drained queue then queue else withEntry queue entry

/-- A queue that is drained stays so until its `Sync` is recorded. -/
lemma Drained.receive (h : Matched queue reply) (hdrained : Drained queue) :
    Drained (queue.receive reply.message) := by
  obtain ⟨hfailed, hextended⟩ := hdrained
  rcases receive_cases h with ⟨hkeep, -⟩ | ⟨first, rest, hentries, hanswer, hpops⟩ |
    ⟨first, rest, hentries, hanswer, hdrains⟩
  · rw [hkeep]
    exact ⟨hfailed, hextended⟩
  · rw [receive_pops hentries hanswer hpops]
    have hfirst : first.kind.terminatesBatch = false :=
      hextended first (by rw [hentries]; exact mem_cons_self ..)
    constructor
    · cases hmessage : reply.message with
      | readyForQuery status =>
        rw [hmessage] at hpops
        simp [verdict, hfirst] at hpops
      | _ => exact hfailed
    · intro entry hentry
      apply hextended
      rw [hentries]
      exact mem_cons_of_mem _ ((dropWhile_suffix _).subset hentry)
  · rw [receive_drains hentries hanswer hdrains]
    refine ⟨rfl, ?_⟩
    intro entry hentry
    exact hextended entry ((dropWhile_suffix _).subset ((dropWhile_suffix _).subset hentry))

lemma not_drained_of_pops (htidy : Tidy queue) (hentries : queue.entries = first :: rest)
    (hpops : verdict first.kind message = .pops) (hnot : ¬Drained queue) :
    ¬Drained ⟨rest.dropWhile isFake, stillFailed message queue.queryFailed⟩ := by
  rintro ⟨hfailed, hextended⟩
  apply hnot
  rcases extended_of_pops hpops with ⟨status, rfl⟩ | hfirst
  · cases hfailed
  have hstill : queue.queryFailed := by
    unfold stillFailed at hfailed
    split at hfailed
    · cases hfailed
    · exact hfailed
  refine ⟨hstill, ?_⟩
  intro entry hentry
  have hmem := hentry
  rw [hentries] at hmem
  rcases mem_cons.mp hmem with rfl | hrest
  · exact hfirst
  · cases hfake : entry.isFake with
    | true => exact htidy.extended entry hentry hfake
    | false => exact hextended entry (mem_dropWhile_of_not hrest hfake)

lemma receive_withExtended (h : Matched queue reply) (hreal : entry.isFake = false)
    (hext : entry.terminates = false) :
    (withExtended queue entry).receive reply.message =
      withExtended (queue.receive reply.message) entry := by
  by_cases hdrained : Drained queue
  · rw [withExtended, if_pos hdrained, withExtended, if_pos (Drained.receive h hdrained)]
  have hwith : withExtended queue entry = withEntry queue entry := if_neg hdrained
  rw [hwith]
  rcases receive_cases h with ⟨hkeep, hlonger⟩ | ⟨first, rest, hentries, hanswer, hpops⟩ |
    ⟨first, rest, hentries, hanswer, hdrains⟩
  · rw [hkeep, hwith, hlonger entry (by simp [hreal])]
  · rw [receive_pops hentries hanswer hpops,
      receive_pops (entries_withEntry hentries entry) hanswer hpops,
      dropWhile_append_singleton hreal, withExtended,
      if_neg (not_drained_of_pops h.1 hentries hpops hdrained)]
    rfl
  rw [receive_drains hentries hanswer hdrains,
    receive_drains (entries_withEntry hentries entry) hanswer hdrains]
  change (⟨((queue.entries ++ [entry]).dropWhile _).dropWhile _, true⟩ : OutstandingQueue Nat) = _
  by_cases hall : ∀ other ∈ queue.entries, other.terminates = false
  · -- The error takes the whole queue, the new entry included.
    have hdropped : queue.entries.dropWhile (fun entry => !entry.terminates) = [] :=
      dropWhile_eq_nil_iff.mpr (fun other hother => by simp [hall other hother])
    have hlonger : (queue.entries ++ [entry]).dropWhile (fun entry => !entry.terminates) = [] := by
      rw [dropWhile_append, hdropped]
      simp [hext]
    rw [hdropped, hlonger, withExtended, if_pos]
    exact ⟨rfl, by simp⟩
  push Not at hall
  obtain ⟨other, hother, hterm⟩ := hall
  have hstops : (!other.terminates) = false := by simpa using hterm
  have hotherReal : other.isFake = false := by
    cases hfake : other.isFake with
    | false => rfl
    | true => exact absurd (h.1.extended other hother hfake) hterm
  rw [dropWhile_append_of_mem hother hstops, dropWhile_append_singleton hreal, withExtended, if_neg]
  · rfl
  rintro ⟨-, hextended⟩
  have hsurvives : other ∈ queue.entries.dropWhile fun entry => !entry.terminates :=
    mem_dropWhile_of_not hother hstops
  exact hterm (hextended other (mem_dropWhile_of_not hsurvives hotherReal))

/-! ### Reading what is in flight -/

/-- Each reply in flight meets its request, and what is left in the end has `P`. -/
def Meets (P : OutstandingQueue Nat → Prop) (wire : List (Reply Nat))
    (queue : OutstandingQueue Nat) : Prop :=
  Along Matched (fun queue reply => queue.receive reply.message) P wire queue

/-- The queue holds these requests, answers of the pool apart, and knows whether their batch has
failed. -/
structure Holds (expected : List (Request Nat)) (failed : Bool)
    (queue : OutstandingQueue Nat) : Prop where
  tidy : Tidy queue
  requests : (queue.entries.filter fun entry => !entry.isFake).map Entry.request = expected
  failed : queue.queryFailed = failed

lemma settled_iff_holds :
    Settled backend queue ↔ Holds (owed backend) (backend.mode == .skipping) queue :=
  ⟨fun h => ⟨h.tidy, h.requests, h.failed⟩, fun h => ⟨h.tidy, h.requests, h.failed⟩⟩

section

variable {P P' : OutstandingQueue Nat → Prop} {wire : List (Reply Nat)}
  {queue : OutstandingQueue Nat} {expected expected' : List (Request Nat)} {failed : Bool}
  {entry : Entry Nat}

lemma Meets.tidy (h : Meets P wire queue) (hpost : ∀ queue, P queue → Tidy queue) : Tidy queue := by
  cases wire with
  | nil => exact hpost queue h
  | cons reply rest => exact h.1.1

/-- What recording an entry makes of a queue that is read to its end. -/
def recorded (queue : OutstandingQueue Nat) (entry : Entry Nat) : OutstandingQueue Nat :=
  if entry.isFake then withFake queue entry
  else if entry.terminates then withEntry queue entry
  else withExtended queue entry

lemma recorded_of_fake (hfake : entry.isFake) :
    recorded queue entry = withFake queue entry := if_pos hfake

lemma recorded_of_real (hreal : entry.isFake = false) : recorded queue entry =
      if entry.terminates then withEntry queue entry else withExtended queue entry := by
  rw [recorded, hreal, if_neg Bool.false_ne_true]

/-- Recording commutes with reading a reply. -/
lemma Matched.recorded (h : Matched queue reply) (hext : entry.isFake → entry.terminates = false) :
    Matched (Correlation.recorded queue entry) reply ∧
      (Correlation.recorded queue entry).receive reply.message =
        Correlation.recorded (queue.receive reply.message) entry := by
  cases hfake : entry.isFake with
  | true =>
    rw [recorded_of_fake hfake, recorded_of_fake hfake]
    refine ⟨?_, receive_withFake h hfake (hext hfake)⟩
    unfold withFake
    split
    · exact h
    · rename_i hnonempty
      exact h.withEntry (fun _ => ⟨hext hfake, hnonempty⟩)
  | false =>
    have hlonger : Matched (Correlation.withEntry queue entry) reply :=
      h.withEntry (by simp [hfake])
    rw [recorded_of_real hfake, recorded_of_real hfake]
    cases hterm : entry.terminates with
    | true => exact ⟨hlonger, receive_withEntry_terminator h hfake hterm⟩
    | false =>
      refine ⟨?_, receive_withExtended h hfake hterm⟩
      change Matched (withExtended queue entry) reply
      unfold withExtended
      split
      · exact h
      · exact hlonger

lemma Meets.recorded (h : Meets P wire queue) (hext : entry.isFake → entry.terminates = false)
    (hpost : ∀ queue, P queue → P' (Correlation.recorded queue entry)) :
    Meets P' wire (Correlation.recorded queue entry) := by
  refine .map (f := fun queue => Correlation.recorded queue entry) ?_ hpost h
  intro queue reply hmatched
  exact hmatched.recorded hext

/-- What is recorded on a queue in use is `recorded`, unless an error has emptied it. -/
lemma takeReadyFakes_withEntry (htidy : Tidy queue) (hext : entry.isFake → entry.terminates = false)
    (hkept : entry.isFake = false → entry.terminates = false → ¬Drained queue) :
    (withEntry queue entry).takeReadyFakes.2 = recorded queue entry := by
  cases hfake : entry.isFake with
  | true =>
    rw [recorded_of_fake hfake]
    by_cases hempty : queue.entries = []
    · rw [withFake, if_pos hempty]
      obtain ⟨entries, failed⟩ := queue
      obtain rfl : entries = [] := hempty
      simp [withEntry, takeReadyFakes, hfake]
    · rw [withFake, if_neg hempty]
      exact takeReadyFakes_of_tidy (htidy.withEntry (fun _ => ⟨hext hfake, hempty⟩))
  | false =>
    rw [recorded_of_real hfake, takeReadyFakes_of_tidy (htidy.withEntry (by simp [hfake]))]
    cases hterm : entry.terminates with
    | true => rfl
    | false => exact (if_neg (hkept hfake hterm)).symm

section

variable (h : Holds expected failed queue)
include h

/-- A queue is drained if what it holds has failed and no batch terminator is in it. -/
lemma Holds.drained_iff :
    Drained queue ↔ failed ∧ ∀ request ∈ expected, request.kind.terminatesBatch = false := by
  rw [← h.requests, ← h.failed]
  constructor
  · rintro ⟨hfailed, hextended⟩
    refine ⟨hfailed, ?_⟩
    intro request hrequest
    obtain ⟨other, hother, rfl⟩ := List.mem_map.mp hrequest
    exact hextended other (mem_filter.mp hother).1
  rintro ⟨hfailed, hextended⟩
  refine ⟨hfailed, ?_⟩
  intro other hother
  cases hfake : other.isFake with
  | true => exact h.tidy.extended other hother hfake
  | false =>
    exact hextended other.request (List.mem_map_of_mem (mem_filter.mpr ⟨hother, by simp [hfake]⟩))

lemma Holds.withEntry (hreal : entry.isFake = false) :
    Holds (expected ++ [entry.request]) failed (withEntry queue entry) where
  tidy := h.tidy.withEntry (by simp [hreal])
  requests := by
    change ((queue.entries ++ [entry]).filter _).map _ = _
    rw [filter_append, map_append, h.requests]
    simp [hreal]
  failed := h.failed

lemma Holds.withFake (hfake : entry.isFake) (hext : entry.terminates = false) : Holds expected failed (withFake queue entry) := by
  by_cases hempty : queue.entries = []
  · rw [Correlation.withFake, if_pos hempty]
    exact h
  rw [Correlation.withFake, if_neg hempty]
  refine ⟨h.tidy.withEntry (fun _ => ⟨hext, hempty⟩), ?_, h.failed⟩
  change ((queue.entries ++ [entry]).filter _).map _ = _
  rw [← h.requests, filter_append]
  simp [hfake]

/-- A request is lost if its batch has failed and nothing ends it, and kept otherwise. -/
lemma Holds.recorded (hext : entry.isFake → entry.terminates = false)
    (hfaked : entry.isFake → expected' = expected)
    (hlost : entry.terminates = false → failed →
      (∀ request ∈ expected, request.kind.terminatesBatch = false) → expected' = expected)
    (hkept : entry.isFake = false → (entry.terminates = false → ¬(failed ∧
      ∀ request ∈ expected, request.kind.terminatesBatch = false)) →
      expected' = expected ++ [entry.request]) :
    Holds expected' failed (Correlation.recorded queue entry) := by
  cases hfake : entry.isFake with
  | true =>
    rw [recorded_of_fake hfake, hfaked hfake]
    exact h.withFake hfake (hext hfake)
  | false =>
    rw [recorded_of_real hfake]
    cases hterm : entry.terminates with
    | true =>
      rw [hkept hfake (by simp [hterm])]
      exact h.withEntry hfake
    | false =>
      change Holds _ _ (withExtended queue entry)
      by_cases hdrained : Drained queue
      · obtain ⟨hfailed, hextended⟩ := h.drained_iff.mp hdrained
        rw [withExtended, if_pos hdrained, hlost hterm hfailed hextended]
        exact h
      · rw [withExtended, if_neg hdrained, hkept hfake (fun _ => mt h.drained_iff.mpr hdrained)]
        exact h.withEntry hfake

end

/-- A drained queue stays drained whatever is in flight. -/
lemma Meets.drained (h : Meets (Holds expected failed) wire queue) (hdrained : Drained queue) :
    failed ∧ ∀ request ∈ expected, request.kind.terminatesBatch = false := by
  have hstep : ∀ (queue : OutstandingQueue Nat) (reply : Reply Nat), Matched queue reply →
      Drained queue → Drained (queue.receive reply.message) :=
    fun _ _ => Drained.receive
  obtain ⟨final, hfinal, hholds⟩ := Along.reaches hstep h hdrained
  exact hholds.drained_iff.mp hfinal

end

/-! ### What an answer leaves -/

lemma filter_dropWhile_isFake (entries : List (Entry Nat)) :
    (entries.dropWhile isFake).filter (fun entry => !entry.isFake) =
      entries.filter fun entry => !entry.isFake := by
  induction entries with
  | nil => rfl
  | cons entry rest ih =>
    cases hfake : entry.isFake with
    | true => rw [dropWhile_cons_of_pos hfake, ih, filter_cons_of_neg (by simp [hfake])]
    | false => rw [dropWhile_cons_of_neg (by simp [hfake])]

section

variable {P : OutstandingQueue Nat → Prop} {queue : OutstandingQueue Nat}
  {request : Request Nat} {behind : List (Request Nat)} {failed : Bool}
  {more : List (Reply Nat)}

section

variable (h : Holds (request :: behind) failed queue)
include h

/-- The request that is answered next is at the head of the queue. -/
lemma Holds.head : ∃ entry entries, queue.entries = entry :: entries ∧ entry.isFake = false ∧
      entry.request = request ∧
      (entries.filter fun entry => !entry.isFake).map Entry.request = behind := by
  have hrequests := h.requests
  cases hentries : queue.entries with
  | nil =>
    rw [hentries] at hrequests
    cases hrequests
  | cons entry entries =>
    have hreal : entry.isFake = false := h.tidy.head entry (by rw [hentries]; rfl)
    rw [hentries, filter_cons_of_pos (by simp [hreal]), map_cons] at hrequests
    obtain ⟨hhead, htail⟩ := List.cons.inj hrequests
    exact ⟨entry, entries, rfl, hreal, hhead, htail⟩

/-- A message that retires nothing passes by the request at the head. -/
lemma Holds.keeps (hanswer : isAsynchronous message = false)
    (hkeeps : verdict request.kind message = .keeps) (hmore : Meets P more queue) :
    Meets P (⟨message, some request⟩ :: more) queue := by
  obtain ⟨entry, entries, hentries, -, rfl, -⟩ := h.head
  have hsame : verdict entry.kind message = .keeps := hkeeps
  refine ⟨⟨h.tidy, hanswer, entry, entries, hentries, rfl, by simp [hsame]⟩, ?_⟩
  change Meets P more (queue.receive message)
  rw [receive_keeps h.tidy hentries hanswer hsame]
  exact hmore

lemma Holds.rows (hmore : Meets P more queue) {rows : List BackendMessage} :
    (∀ row ∈ rows, mayCarry request.kind row) → Meets P (drawn request rows ++ more) queue := by
  induction rows with
  | nil =>
    intro _
    exact hmore
  | cons row rows ih =>
    intro hrows
    obtain ⟨hanswer, hkeeps⟩ := verdict_of_mayCarry (hrows row mem_cons_self)
    exact h.keeps hanswer hkeeps (ih fun other hother => hrows other (mem_cons_of_mem _ hother))

/-- The message that ends an answer retires the request. -/
lemma Holds.final (hretires : request.kind ∈ retirees message) :
    Meets (Holds behind (stillFailed message failed)) (drawn request [message]) queue := by
  obtain ⟨entry, entries, hentries, -, rfl, hbehind⟩ := h.head
  obtain ⟨hanswer, hpops⟩ := verdict_of_mem_retirees hretires
  have hsame : verdict entry.kind message = .pops := hpops
  refine ⟨⟨h.tidy, hanswer, entry, entries, hentries, rfl, by simp [hsame]⟩, ?_⟩
  change Holds _ _ (queue.receive message)
  rw [receive_pops hentries hanswer hsame, h.failed]
  have hextended : ∀ other ∈ entries, other.isFake → other.terminates = false := by
    intro other hother
    exact h.tidy.extended other (by rw [hentries]; exact mem_cons_of_mem _ hother)
  have htidy : Tidy (takeReadyFakes
      ⟨entries, stillFailed message failed⟩).2 := tidy_takeReadyFakes hextended
  refine ⟨htidy, ?_, rfl⟩
  change ((entries.dropWhile isFake).filter _).map _ = _
  rw [filter_dropWhile_isFake]
  exact hbehind

/-- An error discards everything up to the next batch terminator. -/
lemma Holds.error :
    Meets (Holds ((request :: behind).dropWhile fun other => !other.kind.terminatesBatch) true)
      (drawn request [.errorResponse]) queue := by
  obtain ⟨entry, entries, hentries, -, rfl, -⟩ := h.head
  refine ⟨⟨h.tidy, rfl, entry, entries, hentries, rfl, by simp [verdict]⟩, ?_⟩
  change Holds _ _ (queue.receive .errorResponse)
  rw [receive_drains hentries rfl rfl]
  have hextended : ∀ other ∈ queue.entries.dropWhile (fun entry => !entry.terminates),
      other.isFake → other.terminates = false := by
    intro other hother
    exact h.tidy.extended other ((dropWhile_suffix _).subset hother)
  have htidy : Tidy (takeReadyFakes
      ⟨queue.entries.dropWhile (fun entry => !entry.terminates), true⟩).2 :=
    tidy_takeReadyFakes hextended
  refine ⟨htidy, ?_, rfl⟩
  change (((queue.entries.dropWhile _).dropWhile isFake).filter _).map _ = _
  rw [filter_dropWhile_isFake, filter_dropWhile, ← h.requests, dropWhile_map]
  · rfl
  · intro other hother hfake
    have hterm := h.tidy.extended other hother (by simpa using hfake)
    simp [hterm]

end

/-- What is left of the requests behind one that has been answered. -/
def leftBy (mode : Mode Nat) (request : Request Nat) (behind : List (Request Nat)) :
    List (Request Nat) :=
  match mode with
  | .normal => behind
  | .skipping => behind.dropWhile fun other => !other.kind.terminatesBatch
  | .copyIn _ => request :: behind

/-- Whatever a request ends in, its answer meets it. -/
lemma Holds.executed (h : Holds (request :: behind) false queue) {after : Backend Nat}
    {outcome : Outcome} {replies : List (Reply Nat)}
    (hexec : Backend.Executed backend request outcome after replies) :
    Meets (Holds (leftBy after.mode request behind) (after.mode == .skipping)) replies queue := by
  cases hexec with
  | answered rows final status hext hrows hretires =>
    rw [drawn_append]
    refine h.rows (.mono ?_ (h.final hretires)) hrows
    intro queue hfinal
    refine ⟨hfinal.tidy, hfinal.requests, hfinal.failed.trans ?_⟩
    cases final <;> rfl
  | failed rows status hext hrows =>
    rw [drawn_append]
    refine h.rows (.mono ?_ h.error) hrows
    intro queue hfinal
    rw [dropWhile_cons_of_pos (by simp [hext])] at hfinal
    exact hfinal
  | ready _ rows errors status hterm hrows herrors =>
    rw [drawn_append, drawn_append, append_assoc]
    have hready := mem_retirees_readyForQuery hterm status
    refine h.rows ?_ hrows
    rcases herrors with rfl | rfl
    · exact h.final hready
    refine .append (.mono ?_ h.error)
    intro queue hfailed
    rw [dropWhile_cons_of_neg (by simp [hterm])] at hfailed
    exact hfailed.final hready
  | copying rows hkind hrows =>
    rw [drawn_append]
    refine h.rows (h.keeps rfl rfl ?_) hrows
    exact ⟨h.tidy, h.requests, h.failed⟩

end

/-! ### Recording keeps the correspondence -/

lemma requestsIn_enqueue (backend : Backend Nat) (request : Request Nat) :
    requestsIn (backend.enqueue (.request request)).unread =
      requestsIn backend.unread ++ [request] := by
  simp [requestsIn, Backend.enqueue]

variable {request : Request Nat}

/-- What a request adds to what the backend owes, unless it is discarded. -/
lemma owed_enqueue (h : awaitsSync backend = false ∨ request.kind = .sync) :
    owed (backend.enqueue (.request request)) = owed backend ++ [request] := by
  unfold owed
  rw [requestsIn_enqueue]
  change (match backend.mode with | .skipping => _ | _ => _) = _
  cases hmode : backend.mode with
  | normal => rfl
  | copyIn current => rfl
  | skipping =>
    rcases h with hawaits | hsync
    · have hexists : ∃ other ∈ requestsIn backend.unread, other.kind = .sync := by
        simpa [awaitsSync, hmode] using hawaits
      obtain ⟨other, hother, hkind⟩ := hexists
      exact dropWhile_append_of_mem hother (by simp [hkind])
    · exact dropWhile_append_singleton (by simp [hsync]) _

lemma owed_eq_nil_of_awaitsSync (h : awaitsSync backend) :
    backend.mode = .skipping ∧ owed backend = [] := by
  simp only [awaitsSync, Bool.and_eq_true, beq_iff_eq, List.all_eq_true] at h
  refine ⟨h.1, ?_⟩
  unfold owed
  rw [h.1]
  exact dropWhile_eq_nil_iff.mpr h.2

/-- A discarded request adds nothing. -/
lemma owed_enqueue_discarded (h : awaitsSync backend)
    (hkind : request.kind ≠ .sync) : owed (backend.enqueue (.request request)) = owed backend := by
  obtain ⟨hmode, hnil⟩ := owed_eq_nil_of_awaitsSync h
  rw [hnil]
  simp only [awaitsSync, Bool.and_eq_true, List.all_eq_true] at h
  unfold owed
  change (match backend.mode with | .skipping => _ | _ => _) = _
  rw [hmode, requestsIn_enqueue]
  apply dropWhile_eq_nil_iff.mpr
  intro other hother
  rcases mem_append.mp hother with hold | hnew
  · exact h.2 other hold
  · obtain rfl := mem_singleton.mp hnew
    simpa using hkind

/-- A failed batch that nothing ends is one whose `Sync` has not been sent. -/
lemma awaitsSync_iff : awaitsSync backend ↔ (backend.mode == .skipping) ∧
      ∀ request ∈ owed backend, request.kind.terminatesBatch = false := by
  constructor
  · intro h
    obtain ⟨hmode, hnil⟩ := owed_eq_nil_of_awaitsSync h
    rw [hnil]
    exact ⟨beq_iff_eq.mpr hmode, by simp⟩
  rintro ⟨hskips, hextended⟩
  have hmode := eq_of_beq hskips
  have hnone : ∀ request ∈ requestsIn backend.unread, request.kind ≠ .sync := by
    intro request hrequest hsync
    have hmem : request ∈ owed backend := by
      unfold owed
      rw [hmode]
      exact mem_dropWhile_of_not hrequest (by simp [hsync])
    have hterm := hextended request hmem
    rw [hsync] at hterm
    cases hterm
  simpa [awaitsSync, hmode] using hnone

variable {kind : RequestKind} {relay : Relay}

lemma extended_of_fakeable {response : BackendMessage}
    (h : fakeable kind response) : kind.terminatesBatch = false := by
  cases kind with
  | sync | query | functionCall => cases response <;> cases h
  | _ => rfl

/-- Recording a request, faked or sent, keeps what is in flight, whichever way the requests that
are due are counted. -/
lemma Meets.record (due : Backend Nat → List (Request Nat)) {wire : List (Reply Nat)} {tag : Nat}
    (h : Meets (Holds (due backend) (backend.mode == .skipping)) wire queue)
    (hawaits : awaitsSync backend ↔ (backend.mode == .skipping) ∧
      ∀ request ∈ due backend, request.kind.terminatesBatch = false)
    (hlost : ∀ {request}, awaitsSync backend → request.kind ≠ .sync →
      due (backend.enqueue (.request request)) = due backend)
    (hkept : ∀ {request}, awaitsSync backend = false ∨ request.kind = .sync →
      due (backend.enqueue (.request request)) = due backend ++ [request])
    (hfakeable : ∀ response, relay = .fake response → fakeable kind response)
    (hturn : relay.disposition = .fake ∨ awaitsSync backend = false ∨ kind = .sync ∨
      kind.terminatesBatch = false ∧ queue.queryFailed = false) :
    Meets (Holds (due (if relay.disposition = .fake then backend
      else backend.enqueue (.request ⟨tag, kind⟩))) (backend.mode == .skipping)) wire
      (queue.record tag kind relay).takeReadyFakes.2 := by
  obtain ⟨entry, hrecord, rfl, rfl, hdisposition⟩ := queue.record_eq tag kind relay
  have hisFake : entry.isFake ↔ relay.disposition = .fake := by
    rw [isFake, hdisposition, beq_iff_eq]
  have hext : entry.isFake → entry.terminates = false := by
    intro hfake
    cases relay with
    | forward | skip => cases hisFake.mp hfake
    | fake response => exact extended_of_fakeable (hfakeable response rfl)
  have hlive : entry.isFake = false → entry.terminates = false → ¬Drained queue := by
    intro hreal hterm hdrained
    rcases hturn with hfake | hawake | hsync | ⟨-, hunfailed⟩
    · rw [hisFake.mpr hfake] at hreal
      cases hreal
    · rw [hawaits.mpr (h.drained hdrained)] at hawake
      cases hawake
    · rw [terminates, hsync] at hterm
      cases hterm
    · rw [hdrained.1] at hunfailed
      cases hunfailed
  rw [hrecord]
  change Meets _ _ (withEntry queue entry).takeReadyFakes.2
  rw [takeReadyFakes_withEntry (h.tidy fun _ hholds => hholds.tidy) hext hlive]
  refine h.recorded hext ?_
  intro queue hholds
  by_cases hfake : relay.disposition = .fake
  · rw [if_pos hfake, recorded_of_fake (hisFake.mpr hfake)]
    exact hholds.withFake (hisFake.mpr hfake) (hext (hisFake.mpr hfake))
  have hreal : entry.isFake = false := Bool.eq_false_iff.mpr (mt hisFake.mp hfake)
  rw [if_neg hfake]
  refine hholds.recorded hext (by simp [hreal]) ?_ ?_
  · intro hterm hfailed hextended
    refine hlost (hawaits.mpr ⟨hfailed, hextended⟩) ?_
    intro hsync
    rw [terminates, show entry.kind = .sync from hsync] at hterm
    cases hterm
  intro _ hnot
  refine hkept ?_
  cases hterm : entry.terminates with
  | false =>
    refine .inl (Bool.eq_false_iff.mpr ?_)
    exact fun hawaiting => hnot hterm (hawaits.mp hawaiting)
  | true =>
    rw [terminates] at hterm
    rcases hturn with hcontra | hawake | hsync | ⟨hextended, -⟩
    · exact absurd hcontra hfake
    · exact .inl hawake
    · exact .inr hsync
    · rw [hextended] at hterm
      cases hterm

lemma Awaits.record (h : Awaits world.backend world.wire world.queue)
    (hrelay : relayable kind relay) (horderly : orderly world (.record kind relay)) :
    Awaits (world.record kind relay).backend world.wire (world.record kind relay).queue := by
  simp only [orderly, Bool.or_eq_true, beq_iff_eq, Bool.not_eq_true', Bool.and_eq_true,
    Bool.or_assoc] at horderly
  have hmeets : Meets (Holds (owed world.backend) (world.backend.mode == .skipping)) world.wire
      world.queue := .mono (fun _ hsettled => settled_iff_holds.mp hsettled) h
  refine .mono ?_ (hmeets.record owed awaitsSync_iff owed_enqueue_discarded owed_enqueue
    (fun response hfake => by rw [hfake] at hrelay; exact hrelay) horderly)
  intro queue hholds
  refine ⟨hholds.tidy, hholds.requests, hholds.failed.trans ?_⟩
  simp only [World.record]
  split <;> rfl

/-! ### What the backend sends keeps the correspondence -/

/-- Discarding up to the next batch terminator is discarding up to the next `Sync`. -/
lemma dropWhile_of_failsAlone {requests : List (Request Nat)} :
    ((requests.find? fun other => other.kind.terminatesBatch).all
      fun other => other.kind == .sync) →
    (requests.dropWhile fun other => !other.kind.terminatesBatch) =
      requests.dropWhile fun other => other.kind != .sync := by
  induction requests with
  | nil =>
    intro _
    rfl
  | cons request rest ih =>
    intro h
    cases hterm : request.kind.terminatesBatch with
    | true =>
      have hsync : request.kind = .sync := by simpa [find?_cons, hterm] using h
      rw [dropWhile_cons_of_neg (by simp [hterm]), dropWhile_cons_of_neg (by simp [hsync])]
    | false =>
      simp only [find?_cons, hterm] at h
      have hother : request.kind ≠ .sync := by
        intro hsync
        rw [hsync] at hterm
        cases hterm
      rw [dropWhile_cons_of_pos (by simp [hterm]), dropWhile_cons_of_pos (by simp [hother])]
      exact ih h

variable {after : Backend Nat} {outcome : Outcome} {replies : List (Reply Nat)}

/-- Whatever a request ends in, its answer meets it and leaves what is owed then. -/
lemma Settled.executed (h : Settled backend queue) {rest : List (Input Nat)}
    (hunread : backend.unread = .request request :: rest) (hmode : backend.mode = .normal)
    (hexec : Backend.Executed { backend with unread := rest } request outcome after replies)
    (hcopy : startsCopy outcome = false)
    (halone : ∀ rows status, outcome = .fails rows status → failsAlone backend) :
    Awaits after replies queue := by
  rw [settled_iff_holds] at h
  have howed : owed backend = request :: requestsIn rest := by
    unfold owed
    rw [hmode, hunread]
    rfl
  rw [howed, hmode] at h
  refine .mono ?_ (h.executed hexec)
  intro queue hholds
  rw [settled_iff_holds]
  cases hexec with
  | answered rows final status hext hrows hretires => exact hholds
  | ready _ rows errors status hterm hrows herrors => exact hholds
  | copying rows hkind hrows => cases hcopy
  | failed rows status hext hrows =>
    have hsync := halone rows status rfl
    simp only [failsAlone, hunread, hmode, hext, Bool.false_or] at hsync
    refine ⟨hholds.tidy, hholds.requests.trans ?_, hholds.failed⟩
    exact dropWhile_of_failsAlone hsync

/-- The backend's next move keeps the correspondence. -/
lemma Settled.served (h : Settled backend queue)
    (hserved : Backend.Served backend outcome after replies)
    (hmode : ∀ current, backend.mode ≠ .copyIn current) (hcopy : startsCopy outcome = false)
    (halone : ∀ rows status, outcome = .fails rows status → failsAlone backend) :
    Awaits after replies queue := by
  cases hserved with
  | ran request rest _ _ hunread hnormal hexec =>
    exact h.executed hunread hnormal hexec hcopy halone
  | resumed request rest hunread hskipping hsync =>
    have howed : owed backend = request :: requestsIn rest := by
      unfold owed
      rw [hskipping, hunread]
      exact dropWhile_cons_of_neg (by simp [hsync])
    rw [settled_iff_holds, howed] at h
    have hready : request.kind ∈ retirees (.readyForQuery backend.status) := by
      rw [hsync]
      exact mem_retirees_readyForQuery rfl _
    exact .mono (fun _ hholds => settled_iff_holds.mpr hholds) (h.final hready)
  | dropped input rest hunread hrequest hend =>
    have howed : owed { backend with unread := rest } = owed backend := by
      unfold owed
      rw [hunread]
      cases input with
      | copyData | copyDone | copyFail => rfl
      | request request =>
        rcases hrequest request rfl with ⟨hskipping, hother⟩ | ⟨⟨current, hcopying⟩, -⟩
        · simp only [hskipping]
          exact (dropWhile_cons_of_pos (by simpa using hother)).symm
        · exact absurd hcopying (hmode current)
    exact ⟨h.tidy, h.requests.trans howed.symm, h.failed⟩
  | ended current input rest ending _ _ hunread hcopying hinput hexec
  | interrupted current request rest ending _ _ hunread hcopying hother hexec =>
    exact absurd hcopying (hmode current)

lemma mode_of_served (hserved : Backend.Served backend outcome after replies)
    (hmode : ∀ current, backend.mode ≠ .copyIn current) (hcopy : startsCopy outcome = false) :
    ∀ current, after.mode ≠ .copyIn current := by
  cases hserved with
  | ran request rest _ _ hunread hnormal hexec =>
    cases hexec with
    | answered | failed | ready =>
      intro current hcontra
      cases hcontra
    | copying => cases hcopy
  | resumed request rest hunread hskipping hsync =>
    intro current hcontra
    cases hcontra
  | dropped input rest hunread hrequest hend => exact hmode
  | ended current input rest ending _ _ hunread hcopying hinput hexec
  | interrupted current request rest ending _ _ hunread hcopying hother hexec =>
    exact absurd hcopying (hmode current)

/-! ### Every orderly run -/

/-- The queue and the backend correspond, whatever is in flight between them. -/
structure Corresponds (world : World) : Prop where
  mode : ∀ current, world.backend.mode ≠ .copyIn current
  awaits : Awaits world.backend world.wire world.queue

variable {after : World} {action : Action}

lemma Corresponds.next (h : Corresponds world) (horderly : orderly world action)
    (hnext : world.next action = some after) : Corresponds after := by
  cases action with
  | record kind relay =>
    simp only [World.next] at hnext
    split at hnext
    · rename_i hrelay
      obtain rfl := some.inj hnext
      refine ⟨?_, h.awaits.record hrelay horderly⟩
      intro current
      simp only [World.record]
      split <;> exact h.mode current
    · cases hnext
  | flush =>
    obtain rfl := some.inj hnext
    exact h
  | serve outcome =>
    simp only [World.next] at hnext
    split at hnext
    · cases hnext
    rename_i hcopy
    obtain ⟨⟨backend, replies⟩, heffect, rfl⟩ := map_eq_some_iff.mp hnext
    have hserved := serve_cases heffect
    have hnocopy : startsCopy outcome = false := by simpa using hcopy
    refine ⟨mode_of_served hserved h.mode hnocopy, ?_⟩
    refine .append (.mono ?_ h.awaits)
    intro queue hsettled
    refine hsettled.served hserved h.mode hnocopy ?_
    intro rows status houtcome
    rw [houtcome] at horderly
    exact horderly
  | notify message =>
    simp only [World.next, Backend.notify] at hnext
    split at hnext
    · rename_i hasync
      obtain rfl := some.inj hnext
      refine ⟨h.mode, .append (.mono ?_ h.awaits)⟩
      intro queue hsettled
      refine ⟨⟨hsettled.tidy, hasync⟩, ?_⟩
      change Settled world.backend (queue.receive message)
      rw [receive_asynchronous hsettled.tidy hasync]
      exact hsettled
    · cases hnext
  | receive =>
    simp only [World.next] at hnext
    split at hnext
    · cases hnext
    rename_i reply rest hwire
    split at hnext
    · obtain rfl := some.inj hnext
      have hawaits := h.awaits
      rw [hwire] at hawaits
      exact ⟨h.mode, hawaits.2⟩
    · cases hnext

lemma corresponds_of_reachable
    (h : (World.system.restrict fun world action => orderly world action).Reachable
      world) : Corresponds world := by
  refine h.invariant ?_ ?_
  · rintro _ rfl
    refine ⟨by simp [World.start, Backend.fresh], ?_⟩
    exact ⟨⟨by simp [World.start, new], by simp [World.start, new]⟩, rfl, rfl⟩
  · intro s action t _ hs hstep
    exact hs.next hstep.1 hstep.2

/-- Requests keep the numbers they were recorded under. -/
structure Numbered (world : World) : Prop where
  increasing : world.queue.entries.Pairwise fun earlier later => earlier.tag < later.tag
  recorded : ∀ entry ∈ world.queue.entries, entry.tag < world.recorded

lemma Numbered.of_sublist (h : Numbered world)
    (hsub : after.queue.entries.Sublist world.queue.entries)
    (hrecorded : after.recorded = world.recorded) : Numbered after where
  increasing := h.increasing.sublist hsub
  recorded := by
    intro entry hentry
    rw [hrecorded]
    exact h.recorded entry (hsub.subset hentry)

lemma Numbered.record (h : Numbered world) (kind : RequestKind) (relay : Relay) :
    Numbered (world.record kind relay) := by
  obtain ⟨entry, hrecord, htag, -, -⟩ := world.queue.record_eq world.recorded kind relay
  have hsub : (world.record kind relay).queue.entries.Sublist (world.queue.entries ++ [entry]) := by
    simp only [World.record]
    rw [hrecord]
    exact dropWhile_sublist _
  constructor
  · refine List.Pairwise.sublist hsub (pairwise_append.mpr ⟨h.increasing, by simp, ?_⟩)
    intro earlier hearlier later hlater
    obtain rfl := mem_singleton.mp hlater
    rw [htag]
    exact h.recorded earlier hearlier
  intro other hother
  change other.tag < world.recorded + 1
  rcases mem_append.mp (hsub.subset hother) with hold | hnew
  · have hlt := h.recorded other hold
    omega
  · obtain rfl := mem_singleton.mp hnew
    omega

lemma Numbered.next (h : Numbered world)
    (hnext : world.next action = some after) : Numbered after := by
  cases action with
  | record kind relay =>
    simp only [World.next] at hnext
    split at hnext
    · obtain rfl := some.inj hnext
      exact h.record kind relay
    · cases hnext
  | flush =>
    obtain rfl := some.inj hnext
    exact h
  | serve outcome =>
    simp only [World.next] at hnext
    split at hnext
    · cases hnext
    · obtain ⟨effect, -, rfl⟩ := map_eq_some_iff.mp hnext
      exact ⟨h.increasing, h.recorded⟩
  | notify message =>
    obtain ⟨effect, -, rfl⟩ := map_eq_some_iff.mp hnext
    exact ⟨h.increasing, h.recorded⟩
  | receive =>
    simp only [World.next] at hnext
    split at hnext
    · cases hnext
    split at hnext
    · obtain rfl := some.inj hnext
      exact h.of_sublist (world.queue.receive_sublist _) rfl
    · cases hnext

lemma numbered_of_reachable (h : World.system.Reachable world) : Numbered world := by
  refine h.invariant ?_ ?_
  · rintro _ rfl
    exact ⟨List.Pairwise.nil, by simp [World.start, new]⟩
  · intro s action t _ hs hstep
    exact hs.next hstep

/-- In every orderly run each response is accepted and attributed to the one request that
drew it, which it retires exactly if it ends that request's answer. -/
theorem responses_meet_their_requests {world : World}
    (h : (World.system.restrict fun world action => orderly world action = true).Reachable
      world) {reply : Reply Nat} {rest : List (Reply Nat)}
    (hwire : world.wire = reply :: rest) :
    ∃ reaction, (world.queue.apply reply.message).1 = .ok reaction ∧ match reply.drawer with
      | none =>
        reaction = ⟨.forward, none, false⟩ ∧ (world.queue.apply reply.message).2 = world.queue
      | some drawer =>
        ∃ entry entries, world.queue.entries = entry :: entries ∧
          entry.request = drawer ∧ (∀ other ∈ entries, other.tag ≠ drawer.tag) ∧
          reaction.disposition = entry.disposition ∧
          reaction.popped =
            if drawer.kind ∈ retirees reply.message then some drawer.kind else none := by
  have hawaits := (corresponds_of_reachable h).awaits
  rw [hwire] at hawaits
  obtain ⟨⟨-, hmatched⟩, -⟩ := hawaits
  cases hdrawer : reply.drawer with
  | none =>
    rw [hdrawer] at hmatched
    rw [apply_asynchronous hmatched]
    exact ⟨_, rfl, rfl, rfl⟩
  | some drawer =>
    rw [hdrawer] at hmatched
    obtain ⟨hanswer, entry, entries, hentries, rfl, haccepted⟩ := hmatched
    have hothers : ∀ other ∈ entries, other.tag ≠ entry.request.tag := by
      have hordered := (numbered_of_reachable h.of_restrict).increasing
      rw [hentries, pairwise_cons] at hordered
      intro other hother
      exact ne_of_gt (hordered.1 other hother)
    rw [apply_cons hentries hanswer]
    cases hverdict : verdict entry.kind reply.message with
    | refuses error => exact absurd hverdict (haccepted error)
    | keeps | drains =>
      have hnot : entry.request.kind ∉ retirees reply.message := by
        intro hretires
        have hpops := verdict_pops_iff.mpr hretires
        cases hverdict.symm.trans hpops
      exact ⟨_, rfl, entry, entries, hentries, rfl, hothers, rfl, (if_neg hnot).symm⟩
    | pops =>
      have hretires : entry.request.kind ∈ retirees reply.message :=
        verdict_pops_iff.mp hverdict
      exact ⟨_, rfl, entry, entries, hentries, rfl, hothers, rfl, (if_pos hretires).symm⟩

/-- A `Parse` that fails, with the rest of its batch recorded while the error is still in
flight. -/
def failedBatch : List Action :=
  [.record .parse .forward, .serve (.fails [] .idle), .record .bind .forward,
    .record .sync .forward, .serve (.fails [] .idle), .serve (.fails [] .idle)]

theorem responses_meet_their_requests_failedBatch :
    ∃ world reaction, System.run World.next World.start failedBatch = some world ∧
      world.wire.map Reply.message = [.errorResponse, .readyForQuery .idle] ∧
      (world.queue.apply .errorResponse).1 = .ok reaction ∧ reaction.popped = none := by
  let world := (System.run World.next World.start failedBatch).get (by decide)
  have hrun : _ = some world := (some_get _).symm
  have hpath : (World.system.restrict fun world action => orderly world action = true).Path
      World.start failedBatch world :=
    System.path_of_guarded_run (fun _ _ _ => id) (fun _ _ => id) (by decide)
  have hwire : world.wire = [⟨.errorResponse, some ⟨0, .parse⟩⟩,
      ⟨.readyForQuery .idle, some ⟨2, .sync⟩⟩] := by decide
  obtain ⟨reaction, hok, _, _, -, -, -, -, hpopped⟩ :=
    responses_meet_their_requests (hpath.reachable (.init rfl)) hwire
  exact ⟨world, reaction, hrun, by rw [hwire]; rfl, hok, hpopped⟩

/-- The same batch, with the `Bind` recorded after the error has been received: the queue
expects an answer to it, and takes the `ReadyForQuery` of the `Sync` for a mismatch. -/
theorem late_bind_mismatches : ∃ (world : World) (reply : Reply Nat) (rest : List (Reply Nat)),
      World.system.Reachable world ∧ world.wire = reply :: rest ∧ reply.drawer = some ⟨2, .sync⟩ ∧
        (world.queue.apply reply.message).1 = .error (.mismatch .bind "ReadyForQuery") := by
  let run := System.run World.next World.start
    [.record .parse .forward, .serve (.fails [] .idle), .receive, .record .bind .forward,
      .record .sync .forward, .serve (.fails [] .idle), .serve (.fails [] .idle)]
  let world := run.get (by decide)
  have hrun : _ = some world := (some_get _).symm
  refine ⟨world, ⟨.readyForQuery .idle, some ⟨2, .sync⟩⟩, [], ?_, by decide, rfl, by decide⟩
  exact System.reachable_of_run (fun _ _ _ _ => id) (.init rfl) hrun

end PgElastic.Pool.Correlation
