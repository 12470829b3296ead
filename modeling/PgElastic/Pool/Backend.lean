import PgElastic.Pool.Outstanding

/-!
# The reference backend

What a PostgreSQL backend does with the messages it is sent, as far as the protocol goes:
which messages answer which request, that an error in an extended-query message discards
everything up to the next `Sync`, that an extended-query message opens a transaction which
ends at the next `ReadyForQuery`, and the copy-in mode, in which `Sync` is ignored and any
other request aborts the COPY.

What the statements do is left open: every step takes an `Outcome` that says how the
request ends, which rows it sends and which transaction status it leaves.  Replies name
the request that drew them.
-/

namespace PgElastic.Pool

open Wire OutstandingQueue List

/-- A request on its way through the backend. -/
structure Request (I : Type) where
  tag : I
  kind : RequestKind
  deriving DecidableEq, Repr

/-- The request an entry of the queue stands for. -/
def Entry.request {I : Type} (entry : Entry I) : Request I := ⟨entry.tag, entry.kind⟩

/-- What the backend reads.  `Flush` changes nothing here and is left out. -/
inductive Input (I : Type)
  | request (request : Request I)
  | copyData
  | copyDone
  | copyFail
  deriving DecidableEq, Repr

/-- The requests among the messages a backend has not read. -/
def requestsIn {I : Type} (unread : List (Input I)) : List (Request I) :=
  unread.filterMap fun input =>
    match input with
    | .request request => some request
    | _ => none

/-- A message on its way to the proxy and the request that drew it; asynchronous messages
are drawn by none. -/
structure Reply (I : Type) where
  message : BackendMessage
  drawer : Option (Request I)
  deriving DecidableEq, Repr

/-- What the backend does with its input. -/
inductive Mode (I : Type)
  | normal
  /-- An extended-query message failed: everything up to the next `Sync` is discarded. -/
  | skipping
  /-- Rows are being read for the COPY of this request. -/
  | copyIn (current : Request I)
  deriving DecidableEq, Repr

/-- How a request ends, with the messages sent on the way. -/
inductive Outcome
  | completes (rows : List BackendMessage) (final : BackendMessage)
      (status : TransactionStatus)
  | fails (rows : List BackendMessage) (status : TransactionStatus)
  | beginsCopy (rows : List BackendMessage)
  deriving DecidableEq, Repr

/-- The requests whose answer can hold a message without ending in it. -/
def carriers : BackendMessage → List RequestKind
  | .parameterDescription => [.describe]
  | .rowDescription => [.query]
  | .dataRow => [.execute, .query]
  | .commandComplete => [.query]
  | .emptyQueryResponse => [.query]
  | .copyOutResponse => [.execute, .query]
  | .copyData => [.execute, .query]
  | .copyDone => [.execute, .query]
  | .functionCallResponse => [.functionCall]
  | _ => []

/-- The requests whose answer ends in a message. -/
def retirees : BackendMessage → List RequestKind
  | .parseComplete => [.parse]
  | .bindComplete => [.bind]
  | .closeComplete => [.close]
  | .rowDescription => [.describe]
  | .noData => [.describe]
  | .commandComplete => [.execute]
  | .emptyQueryResponse => [.execute]
  | .portalSuspended => [.execute]
  | .readyForQuery _ => [.sync, .query, .functionCall]
  | _ => []

def mayCarry (kind : RequestKind) (message : BackendMessage) : Bool :=
  (carriers message).contains kind

/-- A batch terminator ends in the `ReadyForQuery` that reports the new status. -/
def mayEnd (kind : RequestKind) (status : TransactionStatus) (message : BackendMessage) :
    Bool :=
  (retirees message).contains kind && (!kind.terminatesBatch || message == .readyForQuery status)

/-- Replies drawn by one request. -/
def drawn {I : Type} (request : Request I) (messages : List BackendMessage) :
    List (Reply I) :=
  messages.map fun message => ⟨message, some request⟩

lemma drawn_append {I : Type} (request : Request I) (first second : List BackendMessage) :
    drawn request (first ++ second) = drawn request first ++ drawn request second :=
  map_append

/-- A backend process. -/
structure Backend (I : Type) where
  /-- Messages received and not read, oldest first. -/
  unread : List (Input I)
  mode : Mode I
  /-- Whether a transaction block is open. -/
  status : TransactionStatus
  /-- An extended-query message has been read since the last `ReadyForQuery`: outside a
  block, an implicit transaction is open. -/
  batch : Bool
  deriving DecidableEq, Repr

namespace Backend

variable {I : Type}

def fresh : Backend I := ⟨[], .normal, .idle, false⟩

/-- A message reaches the backend's socket. -/
def enqueue (backend : Backend I) (input : Input I) : Backend I :=
  { backend with unread := backend.unread ++ [input] }

/-- Runs a request to the end of its answer, or into its COPY. -/
def execute (backend : Backend I) (request : Request I) :
    Outcome → Option (Backend I × List (Reply I))
  | .completes rows final status =>
    if rows.all (mayCarry request.kind) && mayEnd request.kind status final then
      some ({ backend with
          mode := .normal, status := status, batch := !request.kind.terminatesBatch },
        drawn request (rows ++ [final]))
    else none
  | .fails rows status =>
    if rows.all (mayCarry request.kind) then
      if request.kind.terminatesBatch then
        some ({ backend with mode := .normal, status := status, batch := false },
          drawn request (rows ++ [.errorResponse, .readyForQuery status]))
      else
        some ({ backend with mode := .skipping, status := status, batch := true },
          drawn request (rows ++ [.errorResponse]))
    else none
  | .beginsCopy rows =>
    if (request.kind == .execute || request.kind == .query) && rows.all (mayCarry request.kind) then
      some ({ backend with
          mode := .copyIn request
          batch := backend.batch || !request.kind.terminatesBatch },
        drawn request (rows ++ [.copyInResponse]))
    else none

/-- Reads the oldest message. -/
def serve (backend : Backend I) (outcome : Outcome) :
    Option (Backend I × List (Reply I)) :=
  match backend.unread with
  | [] => none
  | input :: rest =>
    let reading := { backend with unread := rest }
    match input, backend.mode with
    | .request request, .normal => reading.execute request outcome
    | .request request, .skipping =>
      if request.kind = .sync then
        some ({ reading with mode := .normal, batch := false },
          drawn request [.readyForQuery backend.status])
      else some (reading, [])
    | .request request, .copyIn current =>
      if request.kind = .sync then some (reading, [])
      -- Any other request aborts the COPY and is itself lost.
      else reading.execute current (.fails [] backend.status)
    | .copyDone, .copyIn current => reading.execute current outcome
    | .copyFail, .copyIn current => reading.execute current (.fails [] backend.status)
    -- Outside copy-in mode, COPY messages are dropped.
    | _, _ => some (reading, [])

/-- A COPY can also fail between two messages. -/
def abortCopy (backend : Backend I) (status : TransactionStatus) :
    Option (Backend I × List (Reply I)) :=
  match backend.mode with
  | .copyIn current => backend.execute current (.fails [] status)
  | _ => none

def notify (backend : Backend I) (message : BackendMessage) :
    Option (Backend I × List (Reply I)) :=
  if isAsynchronous message then some (backend, [⟨message, none⟩]) else none

/-! ### What running a request can do -/

/-- The ways a request ends. -/
inductive Executed (backend : Backend I) (request : Request I) :
    Outcome → Backend I → List (Reply I) → Prop
  | answered (rows : List BackendMessage) (final : BackendMessage)
      (status : TransactionStatus) :
      request.kind.terminatesBatch = false →
      (∀ row ∈ rows, mayCarry request.kind row = true) →
      request.kind ∈ retirees final →
      Executed backend request (.completes rows final status)
        { backend with mode := .normal, status := status, batch := true }
        (drawn request (rows ++ [final]))
  | failed (rows : List BackendMessage) (status : TransactionStatus) :
      request.kind.terminatesBatch = false →
      (∀ row ∈ rows, mayCarry request.kind row = true) →
      Executed backend request (.fails rows status)
        { backend with mode := .skipping, status := status, batch := true }
        (drawn request (rows ++ [.errorResponse]))
  | ready (outcome : Outcome) (rows errors : List BackendMessage)
      (status : TransactionStatus) :
      request.kind.terminatesBatch = true →
      (∀ row ∈ rows, mayCarry request.kind row = true) →
      (errors = [] ∨ errors = [.errorResponse]) →
      Executed backend request outcome
        { backend with mode := .normal, status := status, batch := false }
        (drawn request (rows ++ errors ++ [.readyForQuery status]))
  | copying (rows : List BackendMessage) :
      (request.kind = .execute ∨ request.kind = .query) →
      (∀ row ∈ rows, mayCarry request.kind row = true) →
      Executed backend request (.beginsCopy rows) { backend with
          mode := .copyIn request
          batch := backend.batch || !request.kind.terminatesBatch }
        (drawn request (rows ++ [.copyInResponse]))

variable {backend after : Backend I} {replies : List (Reply I)} {kind : RequestKind}
  {message : BackendMessage} {outcome : Outcome}

lemma execute_cases {request : Request I}
    (h : backend.execute request outcome = some (after, replies)) :
    Executed backend request outcome after replies := by
  cases outcome with
  | completes rows final status =>
    simp only [execute] at h
    split at h
    · rename_i hallowed
      cases h
      simp only [Bool.and_eq_true, List.all_eq_true, mayEnd, contains_iff_mem,
        Bool.or_eq_true, Bool.not_eq_true', beq_iff_eq] at hallowed
      obtain ⟨hrows, hends, hready⟩ := hallowed
      cases hterm : request.kind.terminatesBatch with
      | false => exact .answered rows final status hterm hrows hends
      | true =>
        rw [hterm] at hready
        have hfinal : final = .readyForQuery status := by simpa using hready
        subst hfinal
        have hexec : Executed backend request (.completes rows (.readyForQuery status) status) _
            (drawn request (rows ++ [] ++ [.readyForQuery status])) :=
          .ready _ rows [] status hterm hrows (.inl rfl)
        rw [append_nil] at hexec
        exact hexec
    · cases h
  | fails rows status =>
    simp only [execute] at h
    split at h
    · rename_i hrows
      have hcarried := List.all_eq_true.mp hrows
      split at h
      · rename_i hterm
        cases h
        have hexec : Executed backend request (.fails rows status) _
            (drawn request (rows ++ [.errorResponse] ++ [.readyForQuery status])) :=
          .ready _ rows [.errorResponse] status hterm hcarried (.inr rfl)
        rw [append_assoc] at hexec
        exact hexec
      · rename_i hterm
        cases h
        exact .failed rows status (by simpa using hterm) hcarried
    · cases h
  | beginsCopy rows =>
    simp only [execute] at h
    split at h
    · rename_i hallowed
      cases h
      simp only [Bool.and_eq_true, Bool.or_eq_true, beq_iff_eq, List.all_eq_true] at hallowed
      exact .copying rows hallowed.1 hallowed.2
    · cases h

/-- What reading one message can do. -/
inductive Served (backend : Backend I) (outcome : Outcome) :
    Backend I → List (Reply I) → Prop
  /-- A request is run. -/
  | ran (request : Request I) (rest : List (Input I)) (after : Backend I)
      (replies : List (Reply I)) :
      backend.unread = .request request :: rest → backend.mode = .normal →
      Executed { backend with unread := rest } request outcome after replies →
      Served backend outcome after replies
  /-- The `Sync` that ends a discarded batch. -/
  | resumed (request : Request I) (rest : List (Input I)) :
      backend.unread = .request request :: rest → backend.mode = .skipping →
      request.kind = .sync →
      Served backend outcome { backend with unread := rest, mode := .normal, batch := false }
        (drawn request [.readyForQuery backend.status])
  /-- A message discarded after an error, ignored in copy-in mode or dropped outside it. -/
  | dropped (input : Input I) (rest : List (Input I)) :
      backend.unread = input :: rest →
      (∀ request, input = .request request → (backend.mode = .skipping ∧ request.kind ≠ .sync) ∨
          (∃ current, backend.mode = .copyIn current) ∧ request.kind = .sync) →
      (∀ current, backend.mode = .copyIn current → input ≠ .copyDone ∧ input ≠ .copyFail) →
      Served backend outcome { backend with unread := rest } []
  /-- The end of the rows of a COPY. -/
  | ended (current : Request I) (input : Input I) (rest : List (Input I))
      (ending : Outcome) (after : Backend I) (replies : List (Reply I)) :
      backend.unread = input :: rest → backend.mode = .copyIn current →
      (input = .copyDone ∨ input = .copyFail) →
      Executed { backend with unread := rest } current ending after replies →
      Served backend outcome after replies
  /-- A request that aborts the COPY it interrupts. -/
  | interrupted (current request : Request I) (rest : List (Input I))
      (ending : Outcome) (after : Backend I) (replies : List (Reply I)) :
      backend.unread = .request request :: rest → backend.mode = .copyIn current →
      request.kind ≠ .sync →
      Executed { backend with unread := rest } current ending after replies →
      Served backend outcome after replies

lemma serve_cases (h : backend.serve outcome = some (after, replies)) :
    Served backend outcome after replies := by
  obtain ⟨unread, mode, status, batch⟩ := backend
  cases unread with
  | nil => cases h
  | cons input rest =>
    cases mode with
    | normal =>
      cases input with
      | request request =>
        exact .ran request rest after replies rfl rfl (execute_cases h)
      | _ =>
        simp only [serve] at h
        cases h
        exact .dropped _ rest rfl (by simp) (by simp)
    | skipping =>
      cases input with
      | request request =>
        simp only [serve] at h
        split at h
        · rename_i hsync
          cases h
          exact .resumed request rest rfl rfl hsync
        · rename_i hsync
          cases h
          exact .dropped _ rest rfl (by simpa using hsync) (by simp)
      | _ =>
        simp only [serve] at h
        cases h
        exact .dropped _ rest rfl (by simp) (by simp)
    | copyIn current =>
      cases input with
      | request request =>
        simp only [serve] at h
        split at h
        · rename_i hsync
          cases h
          exact .dropped _ rest rfl (by simpa using hsync) (by simp)
        · rename_i hsync
          exact .interrupted current request rest _ after replies rfl rfl hsync (execute_cases h)
      | copyData =>
        simp only [serve] at h
        cases h
        exact .dropped _ rest rfl (by simp) (by simp)
      | copyDone =>
        exact .ended current .copyDone rest _ after replies rfl rfl (.inl rfl) (execute_cases h)
      | copyFail =>
        simp only [serve] at h
        exact .ended current .copyFail rest _ after replies rfl rfl (.inr rfl) (execute_cases h)

lemma abortCopy_cases {status : TransactionStatus}
    (h : backend.abortCopy status = some (after, replies)) :
    ∃ current, backend.mode = .copyIn current ∧
      Executed backend current (.fails [] status) after replies := by
  unfold abortCopy at h
  split at h
  · rename_i current hmode
    exact ⟨current, hmode, execute_cases h⟩
  · cases h

/-! ### How the queue meets an answer -/

lemma verdict_of_mayCarry (h : mayCarry kind message) :
    isAsynchronous message = false ∧ verdict kind message = .keeps := by
  cases message with
  | parameterDescription | rowDescription | dataRow | commandComplete |
    emptyQueryResponse | copyOutResponse | copyData | copyDone | functionCallResponse =>
      cases kind <;> first | exact ⟨rfl, rfl⟩ | cases h
  | _ => cases h

lemma mem_retirees_readyForQuery (h : kind.terminatesBatch) (status : TransactionStatus) :
    kind ∈ retirees (.readyForQuery status) := by
  cases kind with
  | sync | query | functionCall => simp [retirees]
  | _ => cases h

/-- The queue retires a request with exactly the messages that end its answer. -/
lemma verdict_pops_iff : verdict kind message = .pops ↔ kind ∈ retirees message := by
  cases message with
  | readyForQuery status => cases kind <;> simp [verdict, retirees, RequestKind.terminatesBatch]
  | parseComplete | bindComplete | closeComplete | rowDescription | noData |
    commandComplete | emptyQueryResponse | portalSuspended =>
      simp only [verdict, retirees, mem_singleton]
      split <;> simp_all
  | _ => simp [verdict, retirees]

lemma verdict_of_mem_retirees (h : kind ∈ retirees message) :
    isAsynchronous message = false ∧ verdict kind message = .pops := by
  refine ⟨?_, verdict_pops_iff.mpr h⟩
  cases message with
  | notificationResponse | noticeResponse | parameterStatus => cases h
  | _ => rfl

end Backend

end PgElastic.Pool
