import PgElastic.Pool.Readiness

/-!
# The account of a held link

What a release depends on, without the machinery that keeps it: the batch terminators the
link still waits for, what it believes about batches and the transaction, the backend, the
responses in flight, and what the loop last wrote and read.  `Account.Step` says what one
step of the loop or of the backend can do to it; `Account.Sound` is the invariant that
makes an empty account mean a clean backend.
-/

namespace PgElastic.Proxy

open Library Pool Wire Option List Sublist

structure Account where
  /-- What the last `ReadyForQuery` received has reported. -/
  status : Option TransactionStatus
  /-- The last message the client wrote itself leaves a batch open. -/
  batchOpen : Bool
  /-- The batch terminators recorded and not retired. -/
  terminators : List RequestKind
  backend : Backend Unit
  wire : List (Reply Unit)
  /-- A `ReadyForQuery` was received in the current pass, and nothing written since. -/
  sawReady : Bool
  /-- The last request written to the backend. -/
  lastSent : Option RequestKind
  deriving DecidableEq, Repr

/-- A request kind that ends no batch. -/
def isExtended (kind : Option RequestKind) : Bool := kind.any fun kind => !kind.terminatesBatch

namespace Account

/-- The client ends the rows of the COPY the backend is reading: the announcement of that
COPY is not in flight, and only rows and `Sync`s stand unread. -/
structure EndsOwnCopy (account : Account) : Prop where
  copying : ∃ current, account.backend.mode = .copyIn current
  rows : ∀ item ∈ account.backend.unread, item = .copyData ∨ ∃ request,
    item = .request request ∧ request.kind = .sync
  announced : ∀ reply ∈ account.wire, reply.message ≠ .copyInResponse

/-- The terminators left when `Sync`s at the back have been withdrawn. -/
structure Withdrawn (account : Account) (terminators : List RequestKind) : Prop where
  own : account.EndsOwnCopy
  kept : ∀ kind ∈ account.terminators, kind ≠ .sync → kind ∈ terminators

/-- What one step can do. -/
inductive Step (account : Account) : Account → Prop
  /-- The client writes a request of its own. -/
  | requested (kind : RequestKind) :
      Step account { account with
        batchOpen := !kind.terminatesBatch
        terminators := account.terminators ++ terminatorsIn [(⟨(), kind⟩ : Request Unit)]
        backend := account.backend.enqueue (.request ⟨(), kind⟩)
        sawReady := false
        lastSent := some kind }
  /-- The pool writes an extended-query message. -/
  | injected (kind : RequestKind) :
      kind.terminatesBatch = false →
      Step account { account with
        backend := account.backend.enqueue (.request ⟨(), kind⟩)
        sawReady := false
        lastSent := some kind }
  /-- The pool answers an extended-query message itself. -/
  | faked : Step account { account with batchOpen := true, sawReady := false }
  /-- Something is written that draws no response, or a pass of reading ends. -/
  | paused : Step account { account with sawReady := false }
  | rows : Step account { account with
      backend := account.backend.enqueue .copyData, sawReady := false }
  /-- The end of the rows of a COPY is written. -/
  | ended (input : Input Unit) (terminators : List RequestKind) :
      input.isCopyEnd = true →
      (terminators = account.terminators ∨ account.Withdrawn terminators) →
      Step account { account with
        terminators := terminators
        backend := account.backend.enqueue input
        sawReady := false }
  | served (outcome : Outcome) (after : Backend Unit) (replies : List (Reply Unit)) :
      Backend.Served account.backend outcome after replies →
      (interrupts account.backend = true → syncBeforeEnd account.backend.unread = false) →
      Step account { account with backend := after, wire := account.wire ++ replies }
  | aborted (status : TransactionStatus) (after : Backend Unit) (replies : List (Reply Unit)) :
      account.backend.abortCopy status = some (after, replies) →
      syncBeforeEnd account.backend.unread = false →
      Step account { account with backend := after, wire := account.wire ++ replies }
  | notified (message : BackendMessage) :
      isAsynchronous message = true →
      Step account { account with wire := account.wire ++ [⟨message, none⟩] }
  /-- A `ReadyForQuery` retires the oldest terminator. -/
  | ready (status : TransactionStatus) (drawer : Option (Request Unit))
      (rest : List (Reply Unit)) (oldest : RequestKind) (later : List RequestKind) :
      account.wire = ⟨.readyForQuery status, drawer⟩ :: rest →
      account.terminators = oldest :: later →
      (account.batchOpen = true ∨ isExtended account.lastSent = false) →
      Step account { account with
        status := some status, terminators := later, wire := rest, sawReady := true }
  | received (reply : Reply Unit) (rest : List (Reply Unit)) :
      account.wire = reply :: rest → isReady reply.message = false →
      Step account { account with wire := rest }

/-! ### The invariant -/

def announcesReady (reply : Reply Unit) : Bool := isReady reply.message

def announcesCopy (reply : Reply Unit) : Bool := reply.message == .copyInResponse

def isDrawn (reply : Reply Unit) : Bool := reply.drawer.isSome

/-- The transaction status reported once everything in flight has been received. -/
def reportedBy : Option TransactionStatus → List (Reply Unit) → Option TransactionStatus
  | status, [] => status
  | _, ⟨.readyForQuery status, _⟩ :: rest => reportedBy (some status) rest
  | status, _ :: rest => reportedBy status rest

structure Sound (account : Account) : Prop where
  /-- Only asynchronous messages answer no request. -/
  drawn : ∀ reply ∈ account.wire, reply.drawer = none → isAsynchronous reply.message = true
  /-- Every terminator the backend has answered or is going to answer is on the account. -/
  owed : (readyKinds account.wire ++ owedBy account.backend).Sublist account.terminators
  /-- The last request written is the last one unread, if any is. -/
  last : ∀ request ∈ (requestsIn account.backend.unread).getLast?,
    account.lastSent = some request.kind
  asked : account.sawReady = true → account.batchOpen = true ∨ isExtended account.lastSent = false
  /-- A batch open on the backend that the link does not know of ends with a terminator
  still on the account, or no answer has been received since. -/
  batch : account.batchOpen = false → isExtended account.lastSent = false →
    account.backend.batch = true →
    (readyKinds account.wire).length < account.terminators.length ∨
      readyKinds account.wire = [] ∧ account.sawReady = false
  skipping : account.backend.mode = .skipping → account.backend.batch = true
  copying : ∀ current, account.backend.mode = .copyIn current → current.kind ≠ .sync ∧
    (current.kind.terminatesBatch = false → account.backend.batch = true)
  /-- While rows are read, every `ReadyForQuery` in flight comes before their request. -/
  announced : ∀ current, account.backend.mode = .copyIn current →
    Covered announcesReady announcesCopy account.wire
  /-- Between batches every answer in flight is closed by a `ReadyForQuery`. -/
  answered : account.backend.batch = false → account.backend.mode = .normal →
    Covered isDrawn announcesReady account.wire
  reported : account.backend.batch = false →
    reportedBy account.status account.wire = some account.backend.status

/-- A backend another client could take over: nothing unread but stray COPY messages, no
transaction, no error to recover from, no COPY, and no answer in flight. -/
structure Clean (backend : Backend Unit) (wire : List (Reply Unit)) : Prop where
  read : requestsIn backend.unread = []
  mode : backend.mode = .normal
  idle : backend.status = .idle
  batch : backend.batch = false
  wire : ∀ reply ∈ wire, isAsynchronous reply.message = true

/-! ### What the projections do along a step -/

lemma reportedBy_of_not_ready {more : List (Reply Unit)}
    (h : ∀ reply ∈ more, isReady reply.message = false) :
    ∀ (status : Option TransactionStatus), reportedBy status more = status := by
  induction more with
  | nil =>
    intro status
    rfl
  | cons reply rest ih =>
    intro status
    obtain ⟨message, drawer⟩ := reply
    have hhead : isReady message = false := h _ mem_cons_self
    have hrest := ih (fun other hother => h other (mem_cons_of_mem _ hother)) status
    cases message with
    | readyForQuery reported => cases hhead
    | _ => exact hrest

lemma reportedBy_append (wire more : List (Reply Unit)) : ∀ (status : Option TransactionStatus),
      reportedBy status (wire ++ more) = reportedBy (reportedBy status wire) more := by
  induction wire with
  | nil =>
    intro status
    rfl
  | cons reply rest ih =>
    intro status
    obtain ⟨message, drawer⟩ := reply
    cases message with
    | readyForQuery reported => exact ih (some reported)
    | _ => exact ih status

variable {account : Account} {input : Input Unit}

/-- Unread requests that close with a terminator are owed an answer. -/
lemma owedBy_ne_nil (h : account.Sound) (hunread : requestsIn account.backend.unread ≠ [])
    (hmode : account.backend.mode = .normal) (hlast : isExtended account.lastSent = false) :
    owedBy account.backend ≠ [] := by
  have hfinal := h.last _ (getLast?_eq_some_getLast hunread)
  have hterminates :
      ((requestsIn account.backend.unread).getLast hunread).kind.terminatesBatch = true := by
    rw [hfinal] at hlast
    simpa [isExtended] using hlast
  simp only [owedBy, hmode]
  intro hnil
  have hnone := map_eq_nil_iff.mp hnil
  exact filter_eq_nil_iff.mp hnone _ (getLast_mem hunread) hterminates

/-! ### Every step keeps the account sound -/

/-- What a message written to the backend keeps. -/
lemma Sound.last_enqueue (h : account.Sound) (hinput : requestsIn [input] = []) :
    ∀ request ∈ (requestsIn (account.backend.enqueue input).unread).getLast?,
      account.lastSent = some request.kind := by
  have hsame : requestsIn (account.backend.enqueue input).unread =
      requestsIn account.backend.unread := by
    change requestsIn (account.backend.unread ++ [input]) = _
    rw [requestsIn_append, hinput, append_nil]
  rw [hsame]
  exact h.last

lemma last_enqueue_request (backend : Backend Unit) (kind : RequestKind) :
    ∀ request ∈ (requestsIn (backend.enqueue (.request ⟨(), kind⟩)).unread).getLast?,
      some kind = some request.kind := by
  intro request hrequest
  change request ∈ (requestsIn (backend.unread ++ [.request ⟨(), kind⟩])).getLast? at hrequest
  rw [requestsIn_append] at hrequest
  simp only [requestsIn_request, requestsIn_nil, getLast?_append, getLast?_singleton,
    some_or, mem_some_iff] at hrequest
  rw [← hrequest]

section

variable (h : account.Sound)
include h

lemma Sound.ready_le : (readyKinds account.wire).length ≤ account.terminators.length := by
  have hlength := h.owed.length_le
  rw [length_append] at hlength
  omega

lemma Sound.requested (kind : RequestKind) : Sound { account with
      batchOpen := !kind.terminatesBatch
      terminators := account.terminators ++ terminatorsIn [(⟨(), kind⟩ : Request Unit)]
      backend := account.backend.enqueue (.request ⟨(), kind⟩)
      sawReady := false
      lastSent := some kind } where
  __ := h
  owed := by
    have hinput := owedBy_enqueue account.backend (.request ⟨(), kind⟩)
    refine (append (.refl _) hinput).trans ?_
    rw [← append_assoc]
    exact .append h.owed (.refl _)
  last := last_enqueue_request account.backend kind
  asked := by
    intro hsaw
    cases hsaw
  batch := by
    intro hopen hlast hbatch
    have hterminates : kind.terminatesBatch := by simpa using hopen
    -- The new terminator stands behind every answer in flight.
    left
    rw [terminatorsIn_of_terminates hterminates, length_append]
    have hle := h.ready_le
    simp only [length_singleton]
    omega

lemma Sound.injected {kind : RequestKind} (hextended : kind.terminatesBatch = false) :
    Sound { account with
      backend := account.backend.enqueue (.request ⟨(), kind⟩)
      sawReady := false
      lastSent := some kind } where
  __ := h
  owed := by
    have hinput := owedBy_enqueue account.backend (.request ⟨(), kind⟩)
    rw [inputTerminators, terminatorsIn_of_extended hextended, append_nil] at hinput
    exact (append (.refl _) hinput).trans h.owed
  last := last_enqueue_request account.backend kind
  asked := by
    intro hsaw
    cases hsaw
  batch := by
    intro hopen hlast
    simp [isExtended, hextended] at hlast

/-- The disjuncts of `batch` survive whatever leaves the account and the wire alone. -/
lemma Sound.paused : Sound { account with sawReady := false } where
  __ := h
  asked := by
    intro hsaw
    cases hsaw
  batch := by
    intro hopen hlast hbatch
    rcases h.batch hopen hlast hbatch with hless | ⟨hnone, -⟩
    · exact .inl hless
    · exact .inr ⟨hnone, rfl⟩

lemma Sound.faked : Sound { account with batchOpen := true, sawReady := false } where
  __ := h
  asked := fun _ => .inl rfl
  batch := by
    intro hopen
    cases hopen

lemma Sound.rows :
    Sound { account with backend := account.backend.enqueue .copyData, sawReady := false } where
  __ := h
  owed := by
    have hinput := owedBy_enqueue account.backend .copyData
    change List.Sublist _ (owedBy account.backend ++ []) at hinput
    rw [append_nil] at hinput
    exact (append (.refl _) hinput).trans h.owed
  last := h.last_enqueue rfl
  asked := by
    intro hsaw
    cases hsaw
  batch := h.paused.batch

/-- Nothing in flight announces a batch's end when the announcement of the COPY that is
being read has been received. -/
lemma Sound.readyKinds_of_own (hown : account.EndsOwnCopy) : readyKinds account.wire = [] := by
  obtain ⟨current, hmode⟩ := hown.copying
  apply readyKinds_eq_nil
  apply (h.announced current hmode).forall_not
  intro reply hreply
  simpa [announcesCopy] using hown.announced reply hreply

end

lemma requestsIn_of_copyEnd (h : input.isCopyEnd) :
    requestsIn [input] = [] ∧ inputTerminators input = [] := by
  cases input with
  | copyDone | copyFail => exact ⟨rfl, rfl⟩
  | _ => cases h

lemma Sound.ended (h : account.Sound) {terminators : List RequestKind} (hinput : input.isCopyEnd)
    (hterminators : terminators = account.terminators ∨ account.Withdrawn terminators) :
    Sound { account with
      terminators := terminators
      backend := account.backend.enqueue input
      sawReady := false } where
  __ := h
  owed := by
    rcases hterminators with rfl | hwithdrawn
    · have hless := owedBy_enqueue account.backend input
      rw [(requestsIn_of_copyEnd hinput).2, append_nil] at hless
      exact (append (.refl _) hless).trans h.owed
    -- All that is owed is the request whose rows end here, and it is no `Sync`.
    obtain ⟨current, hmode⟩ := hwithdrawn.own.copying
    have hstill : (account.backend.enqueue input).mode = .copyIn current := hmode
    have howed : owedBy (account.backend.enqueue input) = terminatorsIn [current] := by
      rw [owedBy_copyIn hstill]
      change _ ++ owedInCopy (account.backend.unread ++ [input]) = _
      rw [owedInCopy_concat_copyEnd hinput hwithdrawn.own.rows, append_nil]
    change (readyKinds account.wire ++ owedBy (account.backend.enqueue input)).Sublist _
    rw [h.readyKinds_of_own hwithdrawn.own, howed, nil_append]
    cases hterminates : current.kind.terminatesBatch with
    | false =>
      rw [terminatorsIn_of_extended hterminates]
      exact nil_sublist _
    | true =>
      rw [terminatorsIn_of_terminates hterminates, singleton_sublist]
      refine hwithdrawn.kept current.kind ?_ (h.copying current hmode).1
      have hmem : current.kind ∈ owedBy account.backend := by
        rw [owedBy_copyIn hmode, terminatorsIn_of_terminates hterminates]
        exact mem_cons_self
      exact h.owed.subset (mem_append_right _ hmem)
  last := h.last_enqueue (requestsIn_of_copyEnd hinput).1
  asked := by
    intro hsaw
    cases hsaw
  batch := by
    intro hopen hlast hbatch
    rcases hterminators with rfl | hwithdrawn
    · exact h.paused.batch hopen hlast hbatch
    · exact .inr ⟨h.readyKinds_of_own hwithdrawn.own, rfl⟩

/-- The backend moves. -/
lemma Sound.moved (h : account.Sound) {after : Backend Unit} {replies : List (Reply Unit)}
    (hmoved : Moved account.backend after replies)
    (howed : (readyKinds replies ++ owedBy after).Sublist (owedBy account.backend)) :
    Sound { account with backend := after, wire := account.wire ++ replies } where
  drawn := by
    intro reply hreply hnone
    rcases mem_append.mp hreply with hold | hnew
    · exact h.drawn reply hold hnone
    · have hsome := hmoved.drawn reply hnew
      rw [hnone] at hsome
      cases hsome
  owed := by
    rw [readyKinds_append, append_assoc]
    exact (append (.refl _) howed).trans h.owed
  last := by
    intro request hrequest
    obtain ⟨read, hread⟩ := hmoved.unread
    apply h.last
    rw [← hread, requestsIn_append, getLast?_append]
    rw [mem_def] at hrequest ⊢
    rw [hrequest]
    rfl
  asked := h.asked
  batch := by
    intro hopen hlast hbatch
    obtain ⟨hquiet, hsource⟩ := hmoved.batch hbatch
    rw [readyKinds_append, readyKinds_eq_nil hquiet, append_nil]
    rcases hsource with hold | ⟨request, rest, hunread, hmode, hextended⟩
    · exact h.batch hopen hlast hold
    -- The batch opens under a terminator that is still unread.
    left
    have hsome : requestsIn account.backend.unread ≠ [] := by
      rw [hunread]
      simp
    have hne := owedBy_ne_nil h hsome hmode hlast
    have hlength := h.owed.length_le
    have hpos := length_pos_iff.mpr hne
    rw [length_append] at hlength
    change (readyKinds account.wire).length < account.terminators.length
    omega
  skipping := hmoved.skipping
  copying := hmoved.copying
  announced := by
    intro current hmode
    rcases hmoved.announced current hmode with ⟨rfl, hold⟩ | ⟨before, request, rfl⟩
    · rw [append_nil]
      exact h.announced current hold
    · rw [← append_assoc]
      exact Covered.of_concat rfl _
  answered := by
    intro hbatch hmode
    rcases hmoved.ended hbatch with ⟨before, request, rfl⟩ | ⟨hold, -, -, hsame⟩
    · rw [← append_assoc]
      exact Covered.of_concat rfl _
    · obtain ⟨hnormal, rfl⟩ := hsame hmode
      rw [append_nil]
      exact h.answered hold hnormal
  reported := by
    intro hbatch
    rcases hmoved.ended hbatch with ⟨before, request, rfl⟩ | ⟨hold, hstatus, hquiet, -⟩
    · rw [← append_assoc, reportedBy_append]
      rfl
    · rw [reportedBy_append, reportedBy_of_not_ready hquiet]
      exact (h.reported hold).trans (congrArg some hstatus.symm)

lemma Sound.notified (h : account.Sound) {message : BackendMessage}
    (hasync : isAsynchronous message) :
    Sound { account with wire := account.wire ++ [⟨message, none⟩] } := by
  have hquiet : isReady message = false := by
    cases message with
    | readyForQuery status => cases hasync
    | _ => rfl
  have hready : ∀ reply ∈ [(⟨message, none⟩ : Reply Unit)], isReady reply.message = false := by
    intro reply hreply
    rw [mem_singleton.mp hreply]
    exact hquiet
  have hkinds : readyKinds (account.wire ++ [⟨message, none⟩]) = readyKinds account.wire := by
    rw [readyKinds_append, readyKinds_eq_nil hready, append_nil]
  exact { h with
    drawn := by
      intro reply hreply hnone
      rcases mem_append.mp hreply with hold | hnew
      · exact h.drawn reply hold hnone
      · rw [mem_singleton.mp hnew]
        exact hasync
    owed := by
      change (readyKinds (account.wire ++ [⟨message, none⟩]) ++ _).Sublist _
      rw [hkinds]
      exact h.owed
    batch := by
      change _ → _ → _ → (readyKinds (account.wire ++ [⟨message, none⟩])).length < _ ∨
        readyKinds (account.wire ++ [⟨message, none⟩]) = [] ∧ _
      rw [hkinds]
      exact h.batch
    announced := fun current hmode => (h.announced current hmode).append hready
    answered := by
      intro hbatch hmode
      refine (h.answered hbatch hmode).append ?_
      intro reply hreply
      rw [mem_singleton.mp hreply]
      rfl
    reported := by
      intro hbatch
      rw [reportedBy_append, reportedBy_of_not_ready hready]
      exact h.reported hbatch }

section

variable (h : account.Sound) {rest : List (Reply Unit)}
include h

lemma Sound.received {reply : Reply Unit}
    (hwire : account.wire = reply :: rest) (hquiet : isReady reply.message = false) :
    Sound { account with wire := rest } := by
  have hkinds : readyKinds account.wire = readyKinds rest := by
    simp [hwire, readyKinds, hquiet]
  have hreported : reportedBy account.status account.wire = reportedBy account.status rest := by
    have hhead : reportedBy account.status [reply] = account.status := by
      apply reportedBy_of_not_ready
      intro other hother
      rw [mem_singleton.mp hother]
      exact hquiet
    rw [hwire, ← singleton_append, reportedBy_append, hhead]
  exact { h with
    drawn := by
      intro other hother
      apply h.drawn other
      rw [hwire]
      exact mem_cons_of_mem _ hother
    owed := by
      rw [← hkinds]
      exact h.owed
    batch := by
      change _ → _ → _ → (readyKinds rest).length < _ ∨ readyKinds rest = [] ∧ _
      rw [← hkinds]
      exact h.batch
    announced := by
      intro current hmode
      have hcovered := h.announced current hmode
      rw [hwire] at hcovered
      exact hcovered.tail
    answered := by
      intro hbatch hmode
      have hcovered := h.answered hbatch hmode
      rw [hwire] at hcovered
      exact hcovered.tail
    reported := by
      intro hbatch
      exact hreported.symm.trans (h.reported hbatch) }

lemma Sound.ready {status : TransactionStatus} {drawer : Option (Request Unit)} {oldest : RequestKind} {later : List RequestKind}
    (hwire : account.wire = ⟨.readyForQuery status, drawer⟩ :: rest)
    (hterminators : account.terminators = oldest :: later)
    (hasked : account.batchOpen ∨ isExtended account.lastSent = false) :
    Sound { account with
      status := some status, terminators := later, wire := rest, sawReady := true } := by
  obtain ⟨request, rfl⟩ : ∃ request, drawer = some request := by
    cases hdrawer : drawer with
    | some request => exact ⟨request, rfl⟩
    | none =>
      have hasync := h.drawn ⟨.readyForQuery status, drawer⟩ (by simp [hwire]) hdrawer
      cases hasync
  have hkinds : readyKinds account.wire = request.kind :: readyKinds rest := by
    rw [hwire]
    rfl
  exact { h with
    drawn := by
      intro other hother
      apply h.drawn other
      rw [hwire]
      exact mem_cons_of_mem _ hother
    owed := by
      have howed := h.owed
      rw [hkinds, hterminators] at howed
      exact howed.of_cons_cons
    asked := fun _ => hasked
    batch := by
      intro hopen hlast hbatch
      left
      rcases h.batch hopen hlast hbatch with hless | ⟨hnone, -⟩
      · rw [hkinds, hterminators, length_cons, length_cons] at hless
        change (readyKinds rest).length < later.length
        omega
      · rw [hkinds] at hnone
        cases hnone
    announced := by
      intro current hmode
      have hcovered := h.announced current hmode
      rw [hwire] at hcovered
      exact hcovered.tail
    answered := by
      intro hbatch hmode
      have hcovered := h.answered hbatch hmode
      rw [hwire] at hcovered
      exact hcovered.tail
    reported := by
      intro hbatch
      have hreported := h.reported hbatch
      rw [hwire] at hreported
      exact hreported }

/-- Every step keeps the account sound. -/
lemma Sound.step {after : Account} (hstep : account.Step after) : after.Sound := by
  cases hstep with
  | requested kind => exact h.requested kind
  | injected kind hextended => exact h.injected hextended
  | faked => exact h.faked
  | paused => exact h.paused
  | rows => exact h.rows
  | ended input terminators hinput hterminators => exact h.ended hinput hterminators
  | served outcome after replies hserved hclean =>
    exact h.moved (.of_served hserved h.skipping h.copying) (owed_of_served hserved hclean)
  | aborted status after replies haborted hclean =>
    obtain ⟨current, hmode, hexecuted⟩ := Backend.abortCopy_cases haborted
    refine h.moved (.of_executed hexecuted (suffix_refl _)
      fun hextended => .inl ((h.copying current hmode).2 hextended)) ?_
    rw [owedBy_copyIn hmode, owedInCopy_of_not_syncBeforeEnd hclean]
    exact owed_of_executed hexecuted
  | notified message hasync => exact h.notified hasync
  | ready status drawer rest oldest later hwire hterminators hasked =>
    exact h.ready hwire hterminators hasked
  | received reply rest hwire hquiet => exact h.received hwire hquiet

/-! ### What an empty account means -/

/-- Every `ReadyForQuery` in flight was drawn by a request. -/
lemma Sound.not_ready (hnone : readyKinds account.wire = []) :
    ∀ reply ∈ account.wire, isReady reply.message = false := by
  intro reply hreply
  cases hready : isReady reply.message with
  | false => rfl
  | true =>
    cases hdrawer : reply.drawer with
    | none =>
      have hasync := h.drawn reply hreply hdrawer
      cases hmessage : reply.message with
      | readyForQuery status =>
        rw [hmessage] at hasync
        cases hasync
      | _ =>
        rw [hmessage] at hready
        cases hready
    | some request =>
      have hmem : request.kind ∈ readyKinds account.wire := by
        apply mem_filterMap.mpr
        exact ⟨reply, mem_filter.mpr ⟨hreply, hready⟩, by rw [hdrawer]; rfl⟩
      rw [hnone] at hmem
      cases hmem

/-- An empty account, asked after a `ReadyForQuery` and with no batch open, stands for a
clean backend. -/
lemma Sound.clean (hsaw : account.sawReady) (hterminators : account.terminators = [])
    (hopen : account.batchOpen = false) (hstatus : account.status = some .idle) : Clean account.backend account.wire := by
  have howed := h.owed
  rw [hterminators, sublist_nil, append_eq_nil_iff] at howed
  obtain ⟨hready, hnothing⟩ := howed
  have hlast : isExtended account.lastSent = false := by
    rcases h.asked hsaw with hbatch | hterminator
    · rw [hopen] at hbatch
      cases hbatch
    · exact hterminator
  have hbatch : account.backend.batch = false := by
    cases hb : account.backend.batch with
    | false => rfl
    | true =>
      rcases h.batch hopen hlast hb with hless | ⟨-, hunseen⟩
      · rw [hterminators] at hless
        cases hless
      · rw [hsaw] at hunseen
        cases hunseen
  have hmode : account.backend.mode = .normal := by
    cases hm : account.backend.mode with
    | normal => rfl
    | skipping =>
      have hskipping := h.skipping hm
      rw [hbatch] at hskipping
      cases hskipping
    | copyIn current =>
      cases hterminates : current.kind.terminatesBatch with
      | false =>
        have hcopying := (h.copying current hm).2 hterminates
        rw [hbatch] at hcopying
        cases hcopying
      | true =>
        rw [owedBy_copyIn hm, terminatorsIn_of_terminates hterminates] at hnothing
        cases hnothing
  exact {
    read := by
      by_contra hunread
      exact owedBy_ne_nil h hunread hmode hlast hnothing
    mode := hmode
    idle := by
      have hreported := h.reported hbatch
      rw [reportedBy_of_not_ready (h.not_ready hready), hstatus] at hreported
      exact (some.inj hreported).symm
    batch := hbatch
    wire := by
      intro reply hreply
      have hnone := (h.answered hbatch hmode).forall_not (h.not_ready hready) reply hreply
      apply h.drawn reply hreply
      simpa [isDrawn] using hnone }

end

end Account

end PgElastic.Proxy
