import PgElastic.Proxy.Streams

/-!
# Rows copied from the client

The outstanding queue and the link's copy state while a client runs COPY FROM STDIN, through the
extended or the simple protocol.  The backend ignores a `Sync` it reads among the rows, and the link
takes the `Sync`s at the back of its queue off again when the client ends the rows.

The two agree in every run in which the client ends the rows only once the `CopyInResponse` has been
received and sends nothing but rows and `Sync`s until then, and in which no `Sync` that the backend
has ignored is still on the queue when the error of the COPY is received.
-/

namespace PgElastic.Proxy.Streams

open Library Wire Option List
open PgElastic.Pool OutstandingQueue Correlation RequestKind ServerLink

/-- A row of a COPY, or a `Sync` among the rows. -/
def rowOrSync : Input Nat → Bool
  | .copyData => true
  | .request request => request.kind == .sync
  | _ => false

/-- The backend is in copy-in mode. -/
def copies (backend : Backend Nat) : Bool :=
  match backend.mode with
  | .copyIn _ => true
  | _ => false

/-- The backend reads rows, and no end of them has been sent. -/
def reading (backend : Backend Nat) : Bool :=
  copies backend && !backend.unread.any Input.isCopyEnd

/-- What stands behind the end of the rows. -/
def behindEnd : List (Input Nat) → List (Input Nat)
  | [] => []
  | input :: rest => if input.isCopyEnd then rest else behindEnd rest

/-- The next batch terminator, if there is one, is a `Sync`. -/
def syncNext (unread : List (Input Nat)) : Bool :=
  ((requestsIn unread).find? fun other => other.kind.terminatesBatch).all
    fun other => other.kind == .sync

/-! ### The condition -/

/-- The request the backend is about to end takes no `Query` and no `FunctionCall` with it. -/
def failsInOrder (backend : Backend Nat) : Bool :=
  match backend.unread, backend.mode with
  | .request request :: rest, .normal => request.kind.terminatesBatch || syncNext rest
  | .copyDone :: rest, .copyIn current => current.kind.terminatesBatch || syncNext rest
  | .copyFail :: rest, .copyIn current => current.kind.terminatesBatch || syncNext rest
  | _, _ => true

/-- The next message is one whose request fails. -/
def failing (backend : Backend Nat) (outcome : Outcome) : Bool :=
  (match outcome with
    | .fails _ _ => true
    | _ => false) ||
  match backend.unread with
  | .copyFail :: _ => true
  | _ => false

namespace World

/-- Only rows and `Sync`s stand behind the request that begins a COPY. -/
def beginsAlone (w : World) : Bool :=
  let alone (request : Request Nat) (rest : List (Input Nat)) :=
    rest.all rowOrSync && w.queue.entries.all fun entry =>
      decide (entry.tag ≤ request.tag) || entry.kind == .sync
  match w.backend.unread, w.backend.mode with
  | .request request :: rest, .normal => alone request rest
  | .copyDone :: rest, .copyIn current => alone current rest
  | _, _ => true

/-- A COPY has failed after it ignored a `Sync`, and the client has not ended its rows. -/
def indebted (w : World) : Bool := !w.ignored.isEmpty && !copies w.backend

/-- The client ends the rows of a COPY it has been told of; if that COPY has failed meanwhile, no
`Sync` stands at the back of the queue but those it has ignored. -/
def endsInOrder (w : World) : Bool :=
  (w.wire.all fun reply => reply.message != .copyInResponse) &&
    (w.link.copy != .copyIn || reading w.backend || w.indebted ||
      w.queue.entries.getLast?.all fun entry => entry.kind != .sync)

/-- A COPY fails before it has read the end of its rows: either no `Sync` is ignored, or the queue
holds nothing else behind the request and nothing is in flight; and a `Sync` the client has taken
back is not unread. -/
def abortsInOrder (w : World) : Bool :=
  match w.backend.mode with
  | .copyIn current =>
    if reading w.backend then
      w.ignored.isEmpty ||
        (w.link.copy == .copyIn && (w.wire.all fun reply => isAsynchronous reply.message) &&
          (requestsIn w.backend.unread).isEmpty)
    else
      !syncBeforeEnd w.backend.unread &&
        (current.kind.terminatesBatch || syncNext (behindEnd w.backend.unread))
  | _ => true

def orderly (w : World) : Action → Bool
  | .dispatch dispatch =>
    match fromFrontend dispatch.message with
    | some kind =>
      (dispatch.relay.disposition == .fake || !awaitsSync w.backend || kind == .sync ||
          (!kind.terminatesBatch && !w.queue.queryFailed)) &&
        (!reading w.backend || kind == .sync) && !w.indebted
    | none => !endsRows dispatch.message || w.endsInOrder
  | .serve outcome =>
    (!failing w.backend outcome || failsInOrder w.backend) && (!startsCopy outcome || w.beginsAlone)
  | .abortCopy _ => w.abortsInOrder
  | .notify _ => true
  | .receive => !w.indebted || w.wire.head?.all fun reply => reply.message != .errorResponse

end World

/-! ### What the backend will answer -/

/-- The requests a queue holds once everything in flight has been read. -/
def awaited (backend : Backend Nat) (ignored : List (Request Nat)) : List (Request Nat) :=
  match backend.mode with
  | .copyIn current =>
    current :: if backend.unread.any Input.isCopyEnd then requestsIn (behindEnd backend.unread)
      else ignored ++ requestsIn backend.unread
  | _ => owed backend

/-- The copy state of a link once everything in flight has been read. -/
def openCopy (backend : Backend Nat) : CopyState :=
  if reading backend then .copyIn else .none

section

variable {backend : Backend Nat} {current request : Request Nat}
  {unread rest : List (Input Nat)} {ignored : List (Request Nat)} {input : Input Nat}

lemma awaited_of_not_copies (h : copies backend = false) :
    awaited backend ignored = owed backend := by
  unfold awaited
  split
  · rename_i current hmode
    rw [copies, hmode] at h
    cases h
  · rfl

/-- A failed batch that nothing ends is one whose `Sync` has not been sent. -/
lemma awaitsSync_iff : awaitsSync backend ↔ (backend.mode == .skipping) ∧
    ∀ request ∈ awaited backend ignored, request.kind.terminatesBatch = false := by
  rw [Correlation.awaitsSync_iff]
  refine and_congr_right ?_
  intro hskips
  rw [awaited_of_not_copies (by rw [copies, eq_of_beq hskips])]

lemma copies_of_mode (hmode : backend.mode = .copyIn current) : copies backend := by
  rw [copies, hmode]

lemma mode_of_copies (h : copies backend) : ∃ current, backend.mode = .copyIn current := by
  unfold copies at h
  split at h
  · rename_i current hmode
    exact ⟨current, hmode⟩
  · cases h

lemma awaited_of_reading (hmode : backend.mode = .copyIn current) (hreading : reading backend) :
    awaited backend ignored = current :: (ignored ++ requestsIn backend.unread) := by
  rw [reading, Bool.and_eq_true, Bool.not_eq_true'] at hreading
  rw [awaited, hmode]
  dsimp only
  rw [hreading.2, if_neg Bool.false_ne_true]

lemma awaited_of_ended (hmode : backend.mode = .copyIn current)
    (hreading : reading backend = false) :
    awaited backend ignored = current :: requestsIn (behindEnd backend.unread) := by
  rw [reading, copies_of_mode hmode, Bool.true_and, Bool.not_eq_false'] at hreading
  rw [awaited, hmode]
  dsimp only
  rw [hreading, if_pos rfl]

lemma behindEnd_append (h : unread.any Input.isCopyEnd) (more : List (Input Nat)) :
    behindEnd (unread ++ more) = behindEnd unread ++ more := by
  induction unread with
  | nil => cases h
  | cons input rest ih =>
    rw [cons_append, behindEnd, behindEnd]
    split
    · rfl
    · rename_i hnot
      rw [any_cons, Bool.eq_false_iff.mpr hnot, Bool.false_or] at h
      exact ih h

lemma behindEnd_concat (h : unread.any Input.isCopyEnd = false) (hend : input.isCopyEnd) :
    behindEnd (unread ++ [input]) = [] := by
  induction unread with
  | nil => exact if_pos hend
  | cons first rest ih =>
    rw [any_cons, Bool.or_eq_false_iff] at h
    rw [cons_append, behindEnd, if_neg (by simp [h.1])]
    exact ih h.2

/-- No `Sync` in front of the end of the rows: nothing in front of it is a request. -/
lemma requestsIn_behindEnd (hend : unread.any Input.isCopyEnd)
    (hfront : ∀ input ∈ unread.takeWhile (fun input => !input.isCopyEnd), rowOrSync input)
    (hsync : syncBeforeEnd unread = false) : requestsIn unread = requestsIn (behindEnd unread) := by
  induction unread with
  | nil => cases hend
  | cons input rest ih =>
    cases input with
    | copyDone | copyFail => rfl
    | copyData =>
      refine ih hend ?_ hsync
      intro other hother
      exact hfront other (mem_cons_of_mem _ hother)
    | request request =>
      have hkind : (request.kind == .sync) := hfront (.request request) mem_cons_self
      have hlater : rest.any Input.isCopyEnd := hend
      rw [syncBeforeEnd, hkind, hlater] at hsync
      cases hsync

/-- Among rows the next batch terminator is a `Sync`. -/
lemma syncNext_of_rows (h : ∀ input ∈ unread, rowOrSync input) : syncNext unread := by
  unfold syncNext
  rw [all_eq_true_iff_get]
  intro hsome
  have hfound := mem_of_find?_eq_some (some_get hsome).symm
  obtain ⟨input, hinput, hrequest⟩ := mem_filterMap.mp hfound
  cases input with
  | request other =>
    cases hrequest
    exact h _ hinput
  | _ => cases hrequest

lemma any_isCopyEnd_of_rows (h : ∀ input ∈ unread, rowOrSync input) :
    unread.any Input.isCopyEnd = false := by
  rw [List.any_eq_false]
  intro input hinput
  have hrow := h input hinput
  cases input with
  | copyData | request request => exact Bool.false_ne_true
  | copyDone | copyFail => cases hrow

end

/-! ### The copy state along the wire -/

/-- The copy state of a link once these replies have been read. -/
def copyRead (copy : CopyState) (wire : List (Reply Nat)) : CopyState :=
  wire.foldl (fun copy reply => copyAfter copy reply.message) copy

lemma copyRead_append (copy : CopyState) (wire more : List (Reply Nat)) :
    copyRead copy (wire ++ more) = copyRead (copyRead copy wire) more :=
  foldl_append

lemma copyRead_drawn (copy : CopyState) (request : Request Nat) (messages : List BackendMessage) :
    copyRead copy (drawn request messages) = messages.foldl copyAfter copy := by
  unfold copyRead drawn
  rw [foldl_map]

variable {message : BackendMessage}

lemma copyAfter_asynchronous (copy : CopyState)
    (h : isAsynchronous message) : copyAfter copy message = copy := by
  cases message with
  | notificationResponse | noticeResponse | parameterStatus => rfl
  | _ => cases h

variable {wire : List (Reply Nat)} {w : World} {w' : World}

lemma copyRead_asynchronous (copy : CopyState)
    (h : ∀ reply ∈ wire, isAsynchronous reply.message) : copyRead copy wire = copy := by
  induction wire with
  | nil => rfl
  | cons reply rest ih =>
    change copyRead (copyAfter copy reply.message) rest = copy
    rw [copyAfter_asynchronous copy (h reply mem_cons_self)]
    exact ih fun other hother => h other (mem_cons_of_mem _ hother)

/-- A link that starts without a COPY ends without one if any other does. -/
lemma copyRead_none :
    ∀ {copy : CopyState}, copyRead copy wire = .none → copyRead .none wire = .none := by
  induction wire with
  | nil => exact fun _ => rfl
  | cons reply rest ih =>
    intro copy h
    change copyRead (copyAfter copy reply.message) rest = .none at h
    change copyRead (copyAfter .none reply.message) rest = .none
    cases hmessage : reply.message with
    | copyInResponse | copyOutResponse | copyBothResponse | errorResponse =>
      rw [hmessage] at h
      exact h
    | _ => exact ih h

/-- An answer leaves a COPY open exactly if it begins one. -/
lemma copyRead_execute {backend after : Backend Nat} {request : Request Nat} {outcome : Outcome}
    {replies : List (Reply Nat)} {copy : CopyState}
    (h : backend.execute request outcome = some (after, replies))
    (hclosed : ∀ rows final status, outcome = .completes rows final status →
      copy = .none ∧ rows.foldl copyAfter .none = .none) :
    copyRead copy replies = if copies after then .copyIn else .none := by
  cases outcome with
  | completes rows final status =>
    obtain ⟨rfl, hrows⟩ := hclosed rows final status rfl
    simp only [Backend.execute] at h
    split at h
    · rename_i hallowed
      cases h
      rw [copyRead_drawn, foldl_append, hrows]
      rw [Bool.and_eq_true, mayEnd, Bool.and_eq_true] at hallowed
      have hretires := hallowed.2.1
      change copyAfter .none final = .none
      cases final with
      | copyInResponse | copyOutResponse | copyBothResponse => cases hretires
      | _ => rfl
    · cases h
  | fails rows status =>
    simp only [Backend.execute] at h
    split at h
    · split at h
      · cases h
        rw [copyRead_drawn, foldl_append]
        rfl
      · cases h
        rw [copyRead_drawn, foldl_append]
        rfl
    · cases h
  | beginsCopy rows =>
    simp only [Backend.execute] at h
    split at h
    · cases h
      rw [copyRead_drawn, foldl_append]
      rfl
    · cases h

/-! ### What the observers do to the queue and to the copy state -/

section

variable {link : ServerLink Nat} {message : FrontendMessage Bytes} {tag : Nat} {relay : Relay}
  {origin : Origin}

lemma observeFrontend_request {kind : RequestKind} (h : fromFrontend message = some kind) :
    (link.observeFrontend tag message relay origin).outstanding =
        link.outstanding.record tag kind relay ∧
      (link.observeFrontend tag message relay origin).copy = link.copy ∧
      (link.observeFrontend tag message relay origin).state = link.state := by
  cases message with
  | parse name query paramTypes =>
    cases h
    unfold ServerLink.observeFrontend noteFrontend
    dsimp only [fromFrontend]
    split <;> exact ⟨rfl, rfl, rfl⟩
  | query _ | bind _ _ | describe _ _ | execute _ | close _ _ | sync | functionCall =>
    cases h
    exact ⟨rfl, rfl, rfl⟩
  | _ => cases h

lemma observeFrontend_end (h : endsRows message) : link.observeFrontend tag message relay origin =
      { link with
        outstanding :=
          if link.copy = .copyIn then link.outstanding.discardTrailingSyncs else link.outstanding
        copy := .none } := by
  cases message with
  | copyDone | copyFail => rfl
  | _ => cases h

lemma observeFrontend_other (hkind : fromFrontend message = none)
    (hend : endsRows message = false) : link.observeFrontend tag message relay origin = link := by
  cases message with
  | copyDone | copyFail => cases hend
  | query _ | parse _ _ _ | bind _ _ | describe _ _ | execute _ | close _ _ | sync
  | functionCall => cases hkind
  | _ => rfl

lemma noteBackend_copy (link : ServerLink Nat) (message : BackendMessage) :
    (link.noteBackend message).copy = copyAfter link.copy message := by
  cases message with
  | copyDone =>
    unfold noteBackend copyAfter
    dsimp only
    split <;> rfl
  | _ => rfl

lemma noteBackend_state (link : ServerLink Nat) (message : BackendMessage) :
    (link.noteBackend message).state = link.state := by
  cases message with
  | copyDone =>
    unfold noteBackend
    dsimp only
    split <;> rfl
  | _ => rfl

lemma observeBackend_eq (h : link.state ≠ .login) (message : BackendMessage) :
    link.observeBackend message = ((link.outstanding.apply message).1,
        { link.noteBackend message with outstanding := (link.outstanding.apply message).2 }) := by
  unfold ServerLink.observeBackend
  rw [if_neg h]
  dsimp only
  rw [noteBackend_outstanding]

end

/-- What reading one reply does to the link. -/
lemma pumpBackend_link {loop after : Loop Nat}
    {passed : List BackendMessage} (hlogged : loop.link.state ≠ .login)
    (h : loop.pumpBackend message = .ok (passed, after)) :
    after.link.outstanding = loop.link.outstanding.receive message ∧
      after.link.copy = copyAfter loop.link.copy message ∧ after.link.state = loop.link.state := by
  unfold Loop.pumpBackend at h
  dsimp only at h
  rw [observeBackend_eq hlogged] at h
  split at h
  · cases h
  · cases h
    exact ⟨rfl, noteBackend_copy _ _, noteBackend_state _ _⟩

/-- A reply that meets its request is accepted. -/
lemma accepted_of_matched {queue : OutstandingQueue Nat} {reply : Reply Nat}
    (h : Matched queue reply) : ∃ reaction, (queue.apply reply.message).1 = .ok reaction := by
  obtain ⟨-, hreply⟩ := h
  cases hdrawer : reply.drawer with
  | none =>
    rw [hdrawer] at hreply
    rw [apply_asynchronous hreply]
    exact ⟨_, rfl⟩
  | some drawer =>
    rw [hdrawer] at hreply
    obtain ⟨hanswer, entry, entries, hentries, -, haccepted⟩ := hreply
    rw [apply_cons hentries hanswer]
    cases hverdict : verdict entry.kind reply.message with
    | refuses error => exact absurd hverdict (haccepted error)
    | keeps | pops | drains => exact ⟨_, rfl⟩

/-! ### Messages on their way to the backend -/

section

variable {backend : Backend Nat} {request : Request Nat} {ignored : List (Request Nat)}
  {input : Input Nat}

lemma any_enqueue (backend : Backend Nat) (input : Input Nat) :
    (backend.enqueue input).unread.any Input.isCopyEnd =
      (backend.unread.any Input.isCopyEnd || input.isCopyEnd) := by
  change (backend.unread ++ [input]).any _ = _
  rw [any_append]
  simp

lemma reading_enqueue (backend : Backend Nat) (input : Input Nat) :
    reading (backend.enqueue input) = (reading backend && !input.isCopyEnd) := by
  unfold reading
  rw [any_enqueue, Bool.not_or, Bool.and_assoc]
  rfl

/-- A request the backend is going to answer is awaited behind the others. -/
lemma awaited_enqueue (h : awaitsSync backend = false ∨ request.kind = .sync) :
    awaited (backend.enqueue (.request request)) ignored = awaited backend ignored ++ [request] := by
  unfold awaited
  rw [any_enqueue]
  change (match backend.mode with | .copyIn _ => _ | _ => _) = _
  cases hmode : backend.mode with
  | normal | skipping => exact owed_enqueue h
  | copyIn current =>
    dsimp only
    cases hend : backend.unread.any Input.isCopyEnd with
    | true =>
      change current :: requestsIn (behindEnd (backend.unread ++ [.request request])) = _
      rw [behindEnd_append hend, requestsIn_append]
      rfl
    | false =>
      change current :: (ignored ++ requestsIn (backend.unread ++ [.request request])) = _
      rw [requestsIn_append, ← append_assoc]
      rfl

lemma awaited_enqueue_discarded (h : awaitsSync backend) (hkind : request.kind ≠ .sync) :
    awaited (backend.enqueue (.request request)) ignored = awaited backend ignored := by
  have hnot : copies backend = false := by
    rw [copies, (owed_eq_nil_of_awaitsSync h).1]
  have hafter : copies (backend.enqueue (.request request)) = false := hnot
  rw [awaited_of_not_copies hnot, awaited_of_not_copies hafter]
  exact owed_enqueue_discarded h hkind

/-- What is no request and ends no rows changes nothing. -/
lemma awaited_enqueue_other (hinput : ∀ request, input ≠ .request request)
    (h : input.isCopyEnd = false ∨ reading backend = false) :
    awaited (backend.enqueue input) ignored = awaited backend ignored := by
  have hrequests unread : requestsIn (unread ++ [input]) = requestsIn unread := by
    rw [requestsIn_append]
    cases input with
    | request request => exact absurd rfl (hinput request)
    | _ => exact append_nil _
  unfold awaited
  rw [any_enqueue]
  change (match backend.mode with | .copyIn _ => _ | _ => _) = _
  cases hmode : backend.mode with
  | normal =>
    change owed (backend.enqueue input) = owed backend
    unfold owed
    rw [show (backend.enqueue input).mode = .normal from hmode, hmode]
    exact hrequests backend.unread
  | skipping =>
    change owed (backend.enqueue input) = owed backend
    unfold owed
    rw [show (backend.enqueue input).mode = .skipping from hmode, hmode]
    exact congrArg _ (hrequests backend.unread)
  | copyIn current =>
    dsimp only
    cases hend : backend.unread.any Input.isCopyEnd with
    | true =>
      change current :: requestsIn (behindEnd (backend.unread ++ [input])) = _
      rw [behindEnd_append hend, hrequests]
      rfl
    | false =>
      have hrow : input.isCopyEnd = false := by
        rcases h with hrow | hended
        · exact hrow
        · rw [reading, copies_of_mode hmode, hend] at hended
          cases hended
      rw [hrow]
      change current :: (ignored ++ requestsIn (backend.unread ++ [input])) = _
      rw [hrequests]
      rfl

lemma openCopy_enqueue (h : input.isCopyEnd = false ∨ reading backend = false) :
    openCopy (backend.enqueue input) = openCopy backend := by
  unfold openCopy
  rw [reading_enqueue]
  rcases h with hrow | hended
  · rw [hrow, Bool.not_false, Bool.and_true]
  · rw [hended, Bool.false_and]

end

/-! ### The correspondence -/

/-- The `CopyInResponse` of an open COPY is the last answer in flight, or has been received. -/
def Announced (wire : List (Reply Nat)) : Prop :=
  (∃ before announcement notes, wire = before ++ announcement :: notes ∧
      announcement.message = .copyInResponse ∧
      ∀ reply ∈ notes, isAsynchronous reply.message = true) ∨
    ∀ reply ∈ wire, isAsynchronous reply.message = true

/-- What stands around an open COPY: only rows and `Sync`s in front of their end. -/
structure InCopy (w : World) (current : Request Nat) : Prop where
  kind : current.kind ≠ .sync
  front : ∀ input ∈ w.backend.unread.takeWhile (fun input => !input.isCopyEnd),
    rowOrSync input = true
  behind : reading w.backend = true →
    ∀ entry ∈ w.queue.entries, entry.tag ≤ current.tag ∨ entry.kind = .sync
  announced : reading w.backend = true → Announced w.wire

/-- The queue, the backend and the copy state correspond. -/
structure Steady (w : World) : Prop where
  loggedIn : w.link.state ≠ .login
  queue : Meets (Holds (awaited w.backend w.ignored) (w.backend.mode == .skipping)) w.wire w.queue
  copy : copyRead w.link.copy w.wire = openCopy w.backend
  ignored : w.ignored = [] ∨ reading w.backend = true
  copying : ∀ current, w.backend.mode = .copyIn current → InCopy w current

/-- The link still holds `Sync`s of a COPY whose error is in flight: without them the queue and the
backend would correspond. -/
structure Indebted (w : World) : Prop where
  loggedIn : w.link.state ≠ .login
  owes : w.ignored ≠ []
  mode : copies w.backend = false
  unread : requestsIn w.backend.unread = []
  copy : w.link.copy = .copyIn
  wire : ∃ notes error rest, w.wire = notes ++ error :: rest ∧
    (∀ reply ∈ notes, isAsynchronous reply.message = true) ∧ error.message = .errorResponse ∧
    copyRead .none rest = .none
  queue : ∃ entry syncs, w.queue.entries = entry :: syncs ∧ entry.isFake = false ∧
    entry.kind ≠ .sync ∧ (∀ sync ∈ syncs, sync.kind = .sync ∧ sync.isFake = false) ∧
    Meets (Holds (owed w.backend) (w.backend.mode == .skipping)) w.wire
      ⟨[entry], w.queue.queryFailed⟩

lemma Steady.tidy (h : Steady w) : Tidy w.queue := h.queue.tidy fun _ h => h.tidy

/-- With nothing but notifications in flight, what will hold holds. -/
lemma holds_now {P : OutstandingQueue Nat → Prop}
    (hwire : ∀ reply ∈ wire, isAsynchronous reply.message) :
    ∀ {queue : OutstandingQueue Nat}, Meets P wire queue → P queue := by
  induction wire with
  | nil => exact id
  | cons reply rest ih =>
    intro queue h
    have hkept := receive_asynchronous h.1.1 (hwire reply mem_cons_self)
    have hrest : Meets P rest (queue.receive reply.message) := h.2
    rw [hkept] at hrest
    exact ih (fun other hother => hwire other (mem_cons_of_mem _ hother)) hrest

/-- Notifications in flight say nothing about the queue. -/
lemma meets_instead {P P' : OutstandingQueue Nat → Prop} {queue' : OutstandingQueue Nat}
    (htidy : Tidy queue') (hpost : P' queue')
    (hwire : ∀ reply ∈ wire, isAsynchronous reply.message) :
    ∀ {queue : OutstandingQueue Nat}, Meets P wire queue → Meets P' wire queue' := by
  induction wire with
  | nil => exact fun _ => hpost
  | cons reply rest ih =>
    intro queue h
    have hnote := hwire reply mem_cons_self
    have hmatched : Matched queue' reply := by
      refine ⟨htidy, ?_⟩
      cases hdrawer : reply.drawer with
      | none => exact hnote
      | some drawer =>
        have hreply := h.1.2
        rw [hdrawer] at hreply
        rw [hnote] at hreply
        cases hreply.1
    refine ⟨hmatched, ?_⟩
    change Meets P' rest (queue'.receive reply.message)
    rw [receive_asynchronous htidy hnote]
    exact ih (fun other hother => hwire other (mem_cons_of_mem _ hother)) h.2

/-! ### Requests are numbered -/

/-- Requests keep the numbers they were dispatched under. -/
structure Numbered (w : World) : Prop where
  increasing : w.queue.entries.Pairwise fun earlier later => earlier.tag < later.tag
  recorded : ∀ entry ∈ w.queue.entries, entry.tag < w.recorded

lemma Numbered.of_sublist (h : Numbered w) (hsub : w'.queue.entries.Sublist w.queue.entries)
    (hrecorded : w.recorded ≤ w'.recorded) : Numbered w' where
  increasing := h.increasing.sublist hsub
  recorded := fun entry hentry => lt_of_lt_of_le (h.recorded entry (hsub.subset hentry)) hrecorded

lemma send_queue {dispatch : Dispatch} {kind : RequestKind}
    (hkind : fromFrontend dispatch.message = some kind) :
    (w.send dispatch).queue = (w.queue.record w.recorded kind dispatch.relay).takeReadyFakes.2 := by
  change (w.link.observeFrontend w.recorded dispatch.message dispatch.relay
    dispatch.origin).outstanding.takeReadyFakes.2 = _
  rw [(observeFrontend_request hkind).1]
  rfl

lemma Numbered.send (h : Numbered w) (dispatch : Dispatch) : Numbered (w.send dispatch) := by
  cases hkind : fromFrontend dispatch.message with
  | none =>
    refine h.of_sublist ((dropWhile_sublist _).trans ?_) (Nat.le_succ _)
    cases hend : endsRows dispatch.message with
    | false =>
      rw [observeFrontend_other hkind hend]
      exact .refl _
    | true =>
      rw [observeFrontend_end hend]
      dsimp only
      split
      · exact ( rdropWhile_prefix _ _).sublist
      · exact .refl _
  | some kind =>
    -- the queue numbers its requests whatever link it belongs to
    obtain ⟨hincreasing, hrecorded⟩ := @Correlation.Numbered.record
      ⟨w.queue, w.recorded, w.backend, w.wire⟩ ⟨h.increasing, h.recorded⟩ kind dispatch.relay
    rw [World.record, ← send_queue hkind] at hincreasing hrecorded
    exact ⟨hincreasing, hrecorded⟩

lemma Numbered.next {action : Action} (h : Numbered w)
    (hlogged : w.link.state ≠ .login) (hnext : w.next action = some w') : Numbered w' := by
  cases action with
  | dispatch dispatch =>
    simp only [World.next] at hnext
    split at hnext
    · cases hnext
      exact h.send dispatch
    · cases hnext
  | serve outcome =>
    simp only [World.next] at hnext
    split at hnext
    · obtain ⟨effect, -, rfl⟩ := map_eq_some_iff.mp hnext
      exact ⟨h.increasing, h.recorded⟩
    · cases hnext
  | abortCopy status | notify message =>
    obtain ⟨effect, -, rfl⟩ := map_eq_some_iff.mp hnext
    exact ⟨h.increasing, h.recorded⟩
  | receive =>
    simp only [World.next] at hnext
    split at hnext
    · cases hnext
    split at hnext
    · cases hnext
    rename_i hpump
    cases hnext
    refine h.of_sublist ?_ (le_refl _)
    change (Loop.link _).outstanding.entries.Sublist w.queue.entries
    rw [(pumpBackend_link hlogged hpump).1]
    exact receive_sublist _ _

end PgElastic.Proxy.Streams
