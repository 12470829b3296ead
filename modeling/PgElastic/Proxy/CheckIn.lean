import PgElastic.Pool.StatementTables
import PgElastic.Proxy.ReleaseAccount
import PgElastic.Proxy.TxnLoop

/-!
# A released link is clean

The transaction loop over one backend link, against the reference backend.  The client's
messages, the statements the pool writes around them, frames too large to decode, the
pool's own queries, the backend's work and the receipt of its responses interleave freely;
tainting, pinning, flags and cancels act on the link at any moment, and the link may pass
from one client to the next.

The loop asks the gate only behind a `ReadyForQuery` of the pass that is still going on
(`try_release`), or behind the one that ends a statement of its own (`reset_and_release`,
`finish`); `sawReady` is that moment.  It does not look at `client_streaming`: a frame too large to
decode is recorded at its header and passed on piece by piece, and the link may be asked for in the
middle of one (`streamed_rows_escape_the_gate`).
-/

namespace PgElastic.Proxy.CheckIn

open Library Pool Wire Option OutstandingQueue RequestKind List Entry ServerLink

structure World where
  loop : Loop Unit
  backend : Backend Unit
  wire : List (Reply Unit)
  sawReady : Bool
  lastSent : Option RequestKind
  /-- The tag of a frame too large to decode whose last piece is still to come. -/
  streaming : Option UInt8
  deriving DecidableEq, Repr

/-- What else happens to a held link. -/
inductive Control
  | taint (taints : TaintSet)
  | pin (reason : PinReason)
  | unpin
  | flag (flag : ReleaseFlags)
  | scrubbed
  | cancelDispatched
  | cancelResolved
  | event (event : ServerEvent)
  /-- The next client starts without a batch of its own. -/
  | newSession
  deriving DecidableEq, Repr

inductive Action
  | client (message : FrontendMessage Bytes)
      (found : Option (PreparedStatement × ServerAction))
  /-- The header of a frame too large to decode. -/
  | oversized (tag : UInt8)
  /-- The last piece of such a frame. -/
  | lastPiece
  | internal (sql : Bytes)
  | serve (outcome : Outcome)
  | abortCopy (status : TransactionStatus)
  | notify (message : BackendMessage)
  | receive
  | absorb
  | endPass
  | control (control : Control)

/-- `Terminate` ends the session, and so does an authentication message. -/
def endsSession : FrontendMessage Bytes → Bool
  | .terminate | .passwordMessage | .saslInitialResponse | .saslResponse | .gssResponse => true
  | _ => false

def Control.run (loop : Loop Unit) : Control → Option (Loop Unit)
  | .taint taints => some { loop with link := loop.link.addTaints taints }
  | .pin reason => some { loop with link := loop.link.setPin reason }
  | .unpin => some { loop with link := loop.link.clearPin }
  | .flag raised => some { loop with link := loop.link.setFlag raised }
  | .scrubbed => some { loop with link := loop.link.resetCompleted }
  | .cancelDispatched => some { loop with link := loop.link.cancelDispatched }
  | .cancelResolved => some { loop with link := loop.link.cancelResolved }
  | .event occurred => (loop.link.apply occurred).map fun link => { loop with link := link }
  | .newSession => some { loop with unsyncedBatch := false }

/-- What a frame too large to decode is to the backend. -/
def oversizedInput (tag : UInt8) : Option (Input Unit) :=
  match fromTag tag with
  | some kind => some (.request ⟨(), kind⟩)
  | none =>
    if tag = 100 then some .copyData
    else if tag = 99 then some .copyDone
    else if tag = 102 then some .copyFail
    else none

namespace World

/-- A link that has logged in and been assigned. -/
def start : World where
  loop := ⟨{ ServerLink.new with state := .active, txStatus := some .idle }, false⟩
  backend := Backend.fresh
  wire := []
  sawReady := false
  lastSent := none
  streaming := none

/-- Something is written to the backend, and the loop remembers it. -/
def write (world : World) (loop : Loop Unit) (input : Option (Input Unit)) : World :=
  { world with
    loop := loop
    backend :=
      match input with
      | some input => world.backend.enqueue input
      | none => world.backend
    sawReady := false
    lastSent :=
      match input with
      | some (.request request) => some request.kind
      | _ => world.lastSent }

def send (world : World) (dispatch : Dispatch) : World :=
  world.write (world.loop.dispatchFrom () dispatch).2 (dispatch.input ())

/-- A frame too large to decode pins the link, unless it is COPY data, and is recorded from
its tag alone, when its header is passed on. -/
def sendHeader (world : World) (tag : UInt8) : World :=
  let pinned :=
    if tag = 100 then world.loop.link else world.loop.link.setPin .desyncedPipeline
  let observed :=
    match fromTag tag with
    | some kind => pinned.observeFrontendOpaque () kind
    | none => pinned
  { world with
    loop := { world.loop with link := observed }, sawReady := false, streaming := some tag }

/-- With its last piece the frame is a message to the backend. -/
def sendLastPiece (world : World) : Option World :=
  world.streaming.map fun tag =>
    { world.write world.loop (oversizedInput tag) with streaming := none }

/-- A statement of the pool's own; in the middle of a frame its bytes are the frame's. -/
def sendInternal (world : World) (sql : Bytes) : World :=
  match world.streaming with
  | none => world.send ⟨.query sql, .skip, .client⟩
  | some _ =>
    world.write (world.loop.dispatchFrom () ⟨.query sql, .skip, .client⟩).2 none

/-- The backend has moved and sent these replies. -/
def reply (world : World) (effect : Backend Unit × List (Reply Unit)) : World :=
  { world with backend := effect.1, wire := world.wire ++ effect.2 }

/-- The oldest response in flight is read; a session the queue cannot follow is over. -/
def receive (world : World)
    (pump : Loop Unit → BackendMessage →
      Except OutstandingError (List BackendMessage × Loop Unit)) : Option World :=
  match world.wire with
  | [] => none
  | reply :: rest =>
    match pump world.loop reply.message with
    | .error _ => none
    | .ok (_, loop) =>
      some { world with
        loop := loop
        wire := rest
        sawReady := world.sawReady || isReady reply.message }

def next (world : World) : Action → Option World
  | .client message found =>
    if endsSession message || world.streaming.isSome then none
    else some ((onFrontend message found).foldl send world)
  | .oversized tag => if world.streaming.isSome then none else some (world.sendHeader tag)
  | .lastPiece => world.sendLastPiece
  | .internal sql => some (world.sendInternal sql)
  | .serve outcome => (world.backend.serve outcome).map world.reply
  | .abortCopy status => (world.backend.abortCopy status).map world.reply
  | .notify message => (world.backend.notify message).map world.reply
  | .receive => world.receive Loop.pumpBackend
  | .absorb => world.receive Loop.absorbBackend
  | .endPass => some { world with sawReady := false }
  | .control control => (control.run world.loop).map fun loop => { world with loop := loop }

def system : System World Action where
  init := fun world => world = start
  step := fun world action after => world.next action = some after

/-! ### The condition -/

/-- A `ReadyForQuery` is not received in the middle of a frame, nor while the last request written
is a `Parse` or a `Close` of the pool's with no message of the client's behind it. -/
def readsInTurn (world : World) : Bool :=
  match world.wire with
  | reply :: _ => !isReady reply.message ||
    (world.streaming.isNone && (world.loop.link.batchOpen || !isExtended world.lastSent))
  | [] => true

/-- Where `Sync`s would be withdrawn, the client ends the rows of the COPY the backend is
reading, and only rows and `Sync`s stand unread. -/
def endsOwnCopy (world : World) : Bool :=
  world.loop.link.copy != .copyIn ||
    (world.loop.link.outstanding.entries.getLast?.all fun entry => entry.kind != .sync) ||
    ((match world.backend.mode with
      | .copyIn _ => true
      | _ => false) &&
      (world.backend.unread.all fun input =>
        match input with
        | .copyData => true
        | .request request => request.kind == .sync
        | _ => false) &&
      world.wire.all fun reply => reply.message != .copyInResponse)

/-- The client follows a `Parse` the pool renames with a message of its own before an
earlier answer arrives, ends only the COPY the backend is reading, and no COPY fails while
a `Sync` written before the end of its rows is still unread.  In the middle of a frame too large to
decode no `ReadyForQuery` arrives and the pool writes nothing of its own. -/
def orderly (world : World) : Action → Bool
  | .client .copyDone _ => world.endsOwnCopy
  | .client .copyFail _ => world.endsOwnCopy
  | .serve _ => !interrupts world.backend || !syncBeforeEnd world.backend.unread
  | .abortCopy _ => !syncBeforeEnd world.backend.unread
  | .internal _ => world.streaming.isNone
  | .receive => world.readsInTurn
  | .absorb => world.readsInTurn
  | _ => true

/-! ### The account of a world -/

def account (world : World) : Account where
  status := world.loop.link.txStatus
  batchOpen := world.loop.link.batchOpen
  terminators := terminatorsOf world.loop.link.outstanding.entries
  backend := world.backend
  wire := world.wire
  sawReady := world.sawReady
  lastSent := world.lastSent

end World

/-- What the link has recorded of a frame when its header is passed on. -/
def recorded (tag : UInt8) (account : Account) : Account :=
  { account with
    batchOpen := (fromTag tag).elim account.batchOpen (!·.terminatesBatch)
    terminators := account.terminators ++
      (fromTag tag).elim [] fun kind => terminatorsIn [(⟨(), kind⟩ : Request Unit)] }

/-- The link is logged in, and the pool answers no batch terminator itself. -/
structure Ordered (link : ServerLink Unit) : Prop where
  loggedIn : link.state ≠ .login
  fakes : ∀ entry ∈ link.outstanding.entries, entry.isFake = true → entry.terminates = false

variable {link : ServerLink Unit} {message : FrontendMessage Bytes} {relay : Relay}
  {origin : Origin} {kind : RequestKind} {world : World} {batchOpen : Bool}

lemma Ordered.takeReadyFakes (h : Ordered link) : Ordered link.takeReadyFakes.2 where
  loggedIn := h.loggedIn
  fakes := by
    intro entry hentry
    exact h.fakes entry ((dropWhile_suffix _).subset hentry)

/-! ### The loop's steps are steps of the account -/

/-- What recording a request leaves alone, and what it adds. -/
lemma Ordered.record (h : Ordered link) (kind : RequestKind) (relay : Relay) (origin : Origin)
    (hfake : relay.disposition = .fake → kind.terminatesBatch = false) :
    Ordered (link.record () kind relay origin) ∧
      terminatorsOf (link.record () kind relay origin).outstanding.entries =
        terminatorsOf link.outstanding.entries ++ terminatorsIn [(⟨(), kind⟩ : Request Unit)] := by
  obtain ⟨entry, hrecord, -, hkind, hdisposition⟩ := link.outstanding.record_eq () kind relay
  have hentries : (link.record () kind relay origin).outstanding.entries =
      link.outstanding.entries ++ [entry] := by
    change (link.outstanding.record () kind relay).entries = _
    rw [hrecord]
  constructor
  · refine ⟨h.loggedIn, ?_⟩
    rw [hentries]
    intro other hother hisFake
    rcases mem_append.mp hother with hold | hnew
    · exact h.fakes other hold hisFake
    rw [mem_singleton.mp hnew] at hisFake ⊢
    rw [terminates, hkind]
    apply hfake
    rw [← hdisposition]
    simpa [isFake] using hisFake
  rw [hentries, terminatorsOf, filter_append, map_append]
  congr 1
  cases hterminates : kind.terminatesBatch with
  | false =>
    rw [terminatorsIn_of_extended hterminates]
    simp [terminates, hkind, hterminates]
  | true =>
    rw [terminatorsIn_of_terminates hterminates]
    simp [terminates, hkind, hterminates]

/-- What is left of the link once a request has been observed and the ready answers have
been taken. -/
structure Observed (link after : ServerLink Unit) (batchOpen : Bool)
    (terminators : List RequestKind) : Prop where
  ordered : Ordered after
  status : after.txStatus = link.txStatus
  batch : after.batchOpen = batchOpen
  terminators : terminatorsOf after.outstanding.entries = terminators

lemma Observed.takeReadyFakes {after : ServerLink Unit}
    {terminators : List RequestKind} (h : Observed link after batchOpen terminators) :
    Observed link after.takeReadyFakes.2 batchOpen terminators where
  __ := h
  ordered := h.ordered.takeReadyFakes
  terminators := (terminatorsOf_dropWhile h.ordered.fakes).trans h.terminators

lemma observed_request (h : Ordered link) (hkind : fromFrontend message = some kind)
    (hfake : relay.disposition = .fake → kind.terminatesBatch = false) :
    Observed link (link.observeFrontend () message relay origin)
      (if origin = .client then !kind.terminatesBatch else link.batchOpen)
      (terminatorsOf link.outstanding.entries ++ terminatorsIn [(⟨(), kind⟩ : Request Unit)]) := by
  -- a request says nothing about COPY, so only taints can change before it is recorded
  obtain ⟨taint, hnoted⟩ : ∃ taint, link.noteFrontend message relay origin =
      { link with taint := taint } := by
    cases message with
    | parse name query paramTypes =>
      unfold noteFrontend
      dsimp only
      split
      · exact ⟨_, rfl⟩
      · exact ⟨link.taint, rfl⟩
    | copyDone | copyFail => cases hkind
    | _ => exact ⟨link.taint, rfl⟩
  have hordered : Ordered { link with taint := taint } := ⟨h.loggedIn, h.fakes⟩
  obtain ⟨hafter, hterminators⟩ := hordered.record kind relay origin hfake
  have hobserved : link.observeFrontend () message relay origin =
      ServerLink.record { link with taint := taint } () kind relay origin := by
    unfold ServerLink.observeFrontend
    rw [hkind, hnoted]
  rw [hobserved]
  exact ⟨hafter, rfl, rfl, hterminators⟩

lemma observed_silent (h : Ordered link) : Observed link link.takeReadyFakes.2 link.batchOpen
      (terminatorsOf link.outstanding.entries) where
  ordered := h.takeReadyFakes
  status := rfl
  batch := rfl
  terminators := terminatorsOf_dropWhile h.fakes

variable {queue : OutstandingQueue Unit}

namespace World

variable {world : World} {loop : Loop Unit}

lemma endsOwnCopy_cases (h : world.endsOwnCopy) : world.loop.link.copy ≠ .copyIn ∨
      world.loop.link.outstanding.discardTrailingSyncs = world.loop.link.outstanding ∨
      world.account.EndsOwnCopy := by
  unfold endsOwnCopy at h
  rw [Bool.or_eq_true, Bool.or_eq_true] at h
  rcases h with (hclosed | hlast) | hown
  · left
    simpa using hclosed
  · right; left
    generalize world.loop.link.outstanding = queue at hlast ⊢
    obtain ⟨entries, failed⟩ := queue
    have hkept : entries.rdropWhile (fun entry => entry.kind == .sync) = entries := by
      apply rdropWhile_eq_self_iff.mpr
      intro hne
      change entries.getLast?.all _ = true at hlast
      rw [getLast?_eq_some_getLast hne] at hlast
      simpa using hlast
    rw [discardTrailingSyncs, hkept]
  right; right
  rw [Bool.and_eq_true, Bool.and_eq_true] at hown
  obtain ⟨⟨hmode, hrows⟩, hannounced⟩ := hown
  exact {
    copying := by
      change ∃ current, world.backend.mode = .copyIn current
      cases hm : world.backend.mode with
      | copyIn current => exact ⟨current, rfl⟩
      | normal | skipping =>
        rw [hm] at hmode
        cases hmode
    rows := by
      intro item hitem
      have hrow := List.all_eq_true.mp hrows item hitem
      cases item with
      | copyData => exact .inl rfl
      | request request => exact .inr ⟨request, rfl, by simpa using hrow⟩
      | copyDone | copyFail => cases hrow
    announced := by
      intro reply hreply
      have hother := List.all_eq_true.mp hannounced reply hreply
      simpa using hother }

variable {input : Option (Input Unit)} {terminators : List RequestKind}

/-- The account after something has been written. -/
lemma account_write (h : Observed world.loop.link loop.link batchOpen terminators) :
    (world.write loop input).account = { world.account with
      batchOpen := batchOpen
      terminators := terminators
      backend :=
        match input with
        | some input => world.backend.enqueue input
        | none => world.backend
      sawReady := false
      lastSent :=
        match input with
        | some (.request request) => some request.kind
        | _ => world.lastSent } := by
  simp only [account, write, h.status, h.batch, h.terminators]

/-- A request of the client's own, sent to the backend. -/
lemma write_requested (h : Observed world.loop.link loop.link (!kind.terminatesBatch)
      (terminatorsOf world.loop.link.outstanding.entries ++
        terminatorsIn [(⟨(), kind⟩ : Request Unit)])) :
    world.account.Step (world.write loop (some (.request ⟨(), kind⟩))).account := by
  rw [account_write h]
  exact .requested kind

/-- What is written outside the queue: rows, or nothing that draws a response. -/
lemma write_paused (h : Observed world.loop.link loop.link world.loop.link.batchOpen
      (terminatorsOf world.loop.link.outstanding.entries))
    (hinput : input = none ∨ input = some .copyData) :
    world.account.Step (world.write loop input).account := by
  rw [account_write h]
  rcases hinput with rfl | rfl
  · exact .paused
  · exact .rows

/-- The end of the rows is written, and `Sync`s are withdrawn only where they may be. -/
lemma write_ended {input : Input Unit} (hend : input.isCopyEnd)
    (h : Observed world.loop.link loop.link world.loop.link.batchOpen terminators)
    (hterminators : terminators = terminatorsOf world.loop.link.outstanding.entries ∨
      world.account.Withdrawn terminators) :
    world.account.Step (world.write loop (some input)).account := by
  have hstep : world.account.Step _ := .ended input terminators hend hterminators
  rw [account_write h]
  cases input with
  | copyDone | copyFail => exact hstep
  | _ => cases hend

/-- `CopyDone` and `CopyFail` close the COPY the link knows of. -/
lemma observed_copyEnd (relay : Relay) (origin : Origin) (hordered : Ordered world.loop.link)
    (hmessage : message = .copyDone ∨ message = .copyFail) (hown : world.endsOwnCopy) :
    ∃ terminators,
      Observed world.loop.link (world.loop.link.observeFrontend () message relay origin)
        world.loop.link.batchOpen terminators ∧
      (terminators = terminatorsOf world.loop.link.outstanding.entries ∨
        world.account.Withdrawn terminators) := by
  have hobserved : world.loop.link.observeFrontend () message relay origin = { world.loop.link with
        outstanding :=
          if world.loop.link.copy = .copyIn then
            world.loop.link.outstanding.discardTrailingSyncs
          else world.loop.link.outstanding
        copy := .none } := by
    rcases hmessage with rfl | rfl <;> rfl
  have hkept : ∀ entry ∈ (if world.loop.link.copy = .copyIn then
      world.loop.link.outstanding.discardTrailingSyncs
      else world.loop.link.outstanding).entries,
      entry ∈ world.loop.link.outstanding.entries := by
    intro entry hentry
    split at hentry
    · exact ( rdropWhile_prefix _ _).subset hentry
    · exact hentry
  refine ⟨_, ⟨?_, ?_, ?_, rfl⟩, ?_⟩
  · rw [hobserved]
    exact ⟨hordered.loggedIn, fun entry hentry => hordered.fakes entry (hkept entry hentry)⟩
  · rw [hobserved]
  · rw [hobserved]
  rw [hobserved]
  dsimp only
  rcases endsOwnCopy_cases hown with hclosed | hlast | hcopy
  · left
    rw [if_neg hclosed]
  · left
    rw [hlast, ite_self]
  right
  refine ⟨hcopy, ?_⟩
  intro kind hkind hother
  split
  · obtain ⟨entry, hentry, rfl⟩ := List.mem_map.mp hkind
    obtain ⟨hentries, hterminates⟩ := mem_filter.mp hentry
    refine List.mem_map_of_mem (mem_filter.mpr ⟨mem_reverse.mpr ?_, hterminates⟩)
    exact mem_dropWhile_of_not (mem_reverse.mpr hentries) (by simpa using hother)
  · exact hkind

/-- Sending one message of the loop is one step of the account. -/
lemma send_step {dispatch : Dispatch} (hordered : Ordered world.loop.link) (hsound : dispatch.Sound)
    (hcopy : dispatch.message = .copyDone ∨ dispatch.message = .copyFail → world.endsOwnCopy) :
    world.account.Step (world.send dispatch).account ∧ Ordered (world.send dispatch).loop.link := by
  obtain ⟨message, relay, origin⟩ := dispatch
  cases hkind : fromFrontend message with
  | some kind =>
    have hfake : relay.disposition = .fake → kind.terminatesBatch = false := by
      intro hdisposition
      obtain ⟨-, other, hother, hextended⟩ := hsound.faked hdisposition
      rw [hkind] at hother
      rw [some.inj hother]
      exact hextended
    have hobserved : Observed world.loop.link
        (world.loop.dispatchFrom () ⟨message, relay, origin⟩).2.link
        (if origin = .client then !kind.terminatesBatch else world.loop.link.batchOpen)
        (terminatorsOf world.loop.link.outstanding.entries ++
          terminatorsIn [(⟨(), kind⟩ : Request Unit)]) :=
      (observed_request hordered hkind hfake).takeReadyFakes
    refine ⟨?_, hobserved.ordered⟩
    by_cases hdisposition : relay.disposition = .fake
    · -- Answered by the pool: nothing is sent, and only the client's own are answered.
      have hextended := hfake hdisposition
      have horigin : origin = .client := (hsound.faked hdisposition).1
      have hinput : (Dispatch.mk message relay origin).input () = none := by
        simp [Dispatch.input, hdisposition]
      rw [if_pos horigin, hextended, terminatorsIn_of_extended hextended, append_nil] at hobserved
      unfold send
      rw [hinput, account_write hobserved]
      exact .faked
    have hinput : (Dispatch.mk message relay origin).input () = some (.request ⟨(), kind⟩) := by
      simp [Dispatch.input, hdisposition, hkind]
    unfold send
    rw [hinput]
    cases origin with
    | client => exact write_requested hobserved
    | pool =>
      obtain ⟨other, hother, hextended⟩ := hsound.pooled rfl
      obtain rfl : kind = other := some.inj (hkind.symm.trans hother)
      rw [terminatorsIn_of_extended hextended, append_nil] at hobserved
      rw [account_write hobserved]
      exact .injected kind hextended
  | none =>
    have hdisposition : relay.disposition ≠ .fake := by
      intro hfaked
      obtain ⟨-, kind, hother, -⟩ := hsound.faked hfaked
      rw [hkind] at hother
      cases hother
    by_cases hend : message = .copyDone ∨ message = .copyFail
    · obtain ⟨terminators, hobserved, hterminators⟩ :=
        observed_copyEnd relay origin hordered hend (hcopy hend)
      refine ⟨?_, hobserved.takeReadyFakes.ordered⟩
      obtain ⟨input, hinput, hisEnd⟩ : ∃ input,
          (Dispatch.mk message relay origin).input () = some input ∧ input.isCopyEnd = true := by
        rcases hend with rfl | rfl <;>
          simp [Dispatch.input, hdisposition, fromFrontend, Input.isCopyEnd]
      rw [send, hinput]
      exact write_ended hisEnd hobserved.takeReadyFakes hterminators
    obtain ⟨hdone, hfail⟩ := not_or.mp hend
    have hlink : (world.loop.dispatchFrom () ⟨message, relay, origin⟩).2.link =
        world.loop.link.takeReadyFakes.2 := by
      refine congrArg (fun link => (ServerLink.takeReadyFakes link).2) ?_
      rw [ServerLink.observeFrontend, hkind]
      cases message with
      | copyDone => exact absurd rfl hdone
      | copyFail => exact absurd rfl hfail
      | parse name query paramTypes => cases hkind
      | _ => rfl
    have hobserved : Observed world.loop.link
        (world.loop.dispatchFrom () ⟨message, relay, origin⟩).2.link
        world.loop.link.batchOpen (terminatorsOf world.loop.link.outstanding.entries) := by
      rw [hlink]
      exact observed_silent hordered
    refine ⟨write_paused hobserved ?_, hobserved.ordered⟩
    unfold Dispatch.input
    rw [if_neg hdisposition, hkind]
    cases message with
    | copyData => exact .inr rfl
    | copyDone => exact absurd rfl hdone
    | copyFail => exact absurd rfl hfail
    | _ => exact .inl rfl

/-- A header is recorded like a message of the client's own. -/
lemma sendHeader_observed (tag : UInt8) (hordered : Ordered world.loop.link) :
    Ordered (world.sendHeader tag).loop.link ∧
      (world.sendHeader tag).account =
        recorded tag { world.account with sawReady := false } := by
  obtain ⟨pin, hpinned⟩ : ∃ pin, (if tag = 100 then world.loop.link
      else world.loop.link.setPin .desyncedPipeline) = { world.loop.link with pin := pin } := by
    split
    · exact ⟨world.loop.link.pin, rfl⟩
    · exact ⟨_, rfl⟩
  unfold sendHeader
  rw [hpinned]
  cases hkind : fromTag tag with
  | some kind =>
    obtain ⟨taint, hnoted⟩ : ∃ taint,
        observeFrontendOpaque { world.loop.link with pin := pin } () kind =
          ServerLink.record { world.loop.link with pin := pin, taint := taint } () kind
            .forward .client := by
      unfold observeFrontendOpaque
      by_cases hparse : kind = .parse
      · exact ⟨_, by rw [if_pos hparse]⟩
      · exact ⟨world.loop.link.taint, by rw [if_neg hparse]⟩
    have hlink : Ordered { world.loop.link with pin := pin, taint := taint } :=
      ⟨hordered.loggedIn, hordered.fakes⟩
    obtain ⟨hafter, hterminators⟩ := hlink.record kind .forward .client nofun
    dsimp only
    rw [hnoted]
    refine ⟨hafter, ?_⟩
    simp only [account, recorded, hkind, hterminators, elim_some]
    rfl
  | none =>
    refine ⟨⟨hordered.loggedIn, hordered.fakes⟩, ?_⟩
    simp only [account, recorded, hkind, elim_none, append_nil]

/-- With the last piece of a frame the account takes the step of a message of the client's own. -/
lemma sendLastPiece_step {before : Account} {tag : UInt8}
    (h : world.account = recorded tag before) :
    before.Step (World.account { world.write world.loop (oversizedInput tag) with
      streaming := none }) := by
  have hafter : World.account { world.write world.loop (oversizedInput tag) with streaming := none } =
      { recorded tag before with
        backend :=
          match oversizedInput tag with
          | some input => before.backend.enqueue input
          | none => before.backend
        sawReady := false
        lastSent :=
          match oversizedInput tag with
          | some (.request request) => some request.kind
          | _ => before.lastSent } := by
    rw [show before.backend = world.backend from (congrArg Account.backend h).symm,
      show before.lastSent = world.lastSent from (congrArg Account.lastSent h).symm, ← h]
    rfl
  rw [hafter]
  unfold recorded oversizedInput
  cases hkind : fromTag tag with
  | some kind => exact .requested kind
  | none =>
    simp only [elim_none, append_nil]
    by_cases hrows : tag = 100
    · simp only [if_pos hrows]
      exact .rows
    by_cases hdone : tag = 99
    · simp only [if_neg hrows, if_pos hdone]
      exact .ended .copyDone before.terminators rfl (.inl rfl)
    by_cases hfail : tag = 102
    · simp only [if_neg hrows, if_neg hdone, if_pos hfail]
      exact .ended .copyFail before.terminators rfl (.inl rfl)
    · simp only [if_neg hrows, if_neg hdone, if_neg hfail]
      exact .paused

end World

/-- What a `ReadyForQuery` does to the link. -/
lemma observeBackend_ready (h : Ordered link) {status : TransactionStatus} {reaction : Reaction}
    (hok : (link.observeBackend (.readyForQuery status)).1 = .ok reaction) :
    ∃ oldest later, terminatorsOf link.outstanding.entries = oldest :: later ∧
      (link.observeBackend (.readyForQuery status)).2.txStatus = some status ∧
      (link.observeBackend (.readyForQuery status)).2.batchOpen = link.batchOpen ∧
      terminatorsOf (link.observeBackend (.readyForQuery status)).2.outstanding.entries = later ∧
      Ordered (link.observeBackend (.readyForQuery status)).2 := by
  unfold ServerLink.observeBackend at hok ⊢
  rw [if_neg h.loggedIn] at hok
  rw [if_neg h.loggedIn]
  obtain ⟨entry, rest, hentries, hterminates, hafter⟩ := apply_readyForQuery hok
  have hqueue : link.outstanding.entries = entry :: rest := hentries
  refine ⟨entry.kind, terminatorsOf rest, ?_, rfl, ?_, congrArg terminatorsOf hafter,
    h.loggedIn, ?_⟩
  · rw [hqueue]
    simp [terminatorsOf, hterminates]
  · -- The queue held the request this message answers, so it was not empty.
    have hsome : link.outstanding.isEmpty = false := by
      rw [OutstandingQueue.isEmpty, hqueue]
      rfl
    simp [noteBackend, hsome]
  intro other hother
  apply h.fakes other
  rw [hqueue]
  change other ∈ (OutstandingQueue.apply _ _).2.entries at hother
  rw [hafter] at hother
  exact mem_cons_of_mem _ hother

variable {message : BackendMessage}

/-- What any other message does to the link. -/
lemma observed_backend (h : Ordered link) (hquiet : isReady message = false) :
    Observed link (link.observeBackend message).2 link.batchOpen
      (terminatorsOf link.outstanding.entries) := by
  unfold ServerLink.observeBackend
  rw [if_neg h.loggedIn]
  have hqueue := link.noteBackend_outstanding message
  have hsame : (link.noteBackend message).state = link.state ∧
      (link.noteBackend message).txStatus = link.txStatus ∧
      (link.noteBackend message).batchOpen = link.batchOpen := by
    cases message with
    | readyForQuery status => cases hquiet
    | copyDone =>
      unfold noteBackend
      dsimp only
      split <;> exact ⟨rfl, rfl, rfl⟩
    | _ => exact ⟨rfl, rfl, rfl⟩
  constructor
  · constructor
    · change (link.noteBackend message).state ≠ .login
      rw [hsame.1]
      exact h.loggedIn
    intro entry hentry
    change entry ∈ ((link.noteBackend message).outstanding.apply message).2.entries at hentry
    rw [hqueue] at hentry
    exact h.fakes entry ((link.outstanding.apply_sublist message).subset hentry)
  · exact hsame.2.1
  · exact hsame.2.2
  · change terminatorsOf ((link.noteBackend message).outstanding.apply message).2.entries = _
    rw [hqueue]
    exact terminatorsOf_apply hquiet

variable {loop after : Loop Unit} {relayed : List BackendMessage}

/-- Either way of reading observes the message and keeps the link ordered. -/
lemma pump_cases (h : loop.pumpBackend message = .ok (relayed, after) ∨
      loop.absorbBackend message = .ok (relayed, after)) :
    ∃ reaction, (loop.link.observeBackend message).1 = .ok reaction ∧
      ∀ {before batchOpen terminators},
        Observed before (loop.link.observeBackend message).2 batchOpen terminators →
          Observed before after.link batchOpen terminators := by
  rcases h with hpump | habsorb
  · unfold Loop.pumpBackend at hpump
    dsimp only at hpump
    split at hpump
    · cases hpump
    · rename_i reaction hok
      cases hpump
      exact ⟨reaction, hok, fun hobserved => hobserved.takeReadyFakes⟩
  unfold Loop.absorbBackend at habsorb
  dsimp only at habsorb
  split at habsorb
  · cases habsorb
  · rename_i reaction hok
    cases habsorb
    exact ⟨reaction, hok, id⟩

namespace World

lemma receive_cases {after : World} {pump : Loop Unit → BackendMessage →
      Except OutstandingError (List BackendMessage × Loop Unit)}
    (h : world.receive pump = some after) :
    ∃ reply rest relayed loop, world.wire = reply :: rest ∧
      pump world.loop reply.message = .ok (relayed, loop) ∧
      after = { world with
        loop := loop
        wire := rest
        sawReady := world.sawReady || isReady reply.message } := by
  unfold receive at h
  split at h
  · cases h
  rename_i reply rest hwire
  split at h
  · cases h
  · rename_i relayed loop hpump
    exact ⟨reply, rest, relayed, loop, hwire, hpump, (some.inj h).symm⟩

variable {reply : Reply Unit} {rest : List (Reply Unit)} {loop : Loop Unit}

/-- A `ReadyForQuery` received is a step of the account. -/
lemma receive_ready (hordered : Ordered world.loop.link) (hturn : world.readsInTurn)
    (hwire : world.wire = reply :: rest) (hready : isReady reply.message)
    (hpump : world.loop.pumpBackend reply.message = .ok (relayed, loop) ∨
      world.loop.absorbBackend reply.message = .ok (relayed, loop)) :
    world.account.Step (World.account { world with
      loop := loop
      wire := rest
      sawReady := world.sawReady || isReady reply.message }) ∧ Ordered loop.link := by
  obtain ⟨reaction, hok, hlink⟩ := pump_cases hpump
  obtain ⟨message, drawer⟩ := reply
  cases message with
  | readyForQuery status =>
    obtain ⟨oldest, later, hterminators, hstatus, hbatch, hlater, hafter⟩ :=
      observeBackend_ready hordered hok
    have hobserved := hlink ⟨hafter, rfl, hbatch, hlater⟩
    have hasked : world.loop.link.batchOpen ∨ isExtended world.lastSent = false := by
      unfold readsInTurn at hturn
      rw [hwire] at hturn
      simp only [isReady, Bool.not_true, Bool.false_or, Bool.and_eq_true, Bool.or_eq_true,
        Bool.not_eq_true'] at hturn
      exact hturn.2
    have hstep : world.account.Step _ :=
      .ready status drawer rest oldest later hwire hterminators hasked
    refine ⟨?_, hobserved.ordered⟩
    simp only [account, hobserved.status, hobserved.batch, hobserved.terminators, hstatus, isReady,
      Bool.or_true]
    exact hstep
  | _ => cases hready

/-- Any other message only leaves the wire. -/
lemma receive_other (rest : List (Reply Unit)) (hordered : Ordered world.loop.link) (hready : isReady reply.message = false)
    (hpump : world.loop.pumpBackend reply.message = .ok (relayed, loop) ∨
      world.loop.absorbBackend reply.message = .ok (relayed, loop)) :
    World.account { world with
      loop := loop
      wire := rest
      sawReady := world.sawReady || isReady reply.message } = { world.account with wire := rest } ∧
    Ordered loop.link := by
  obtain ⟨reaction, hok, hlink⟩ := pump_cases hpump
  have hobserved := hlink (observed_backend hordered hready)
  refine ⟨?_, hobserved.ordered⟩
  simp only [account, hobserved.status, hobserved.batch, hobserved.terminators, hready,
    Bool.or_false]

end World

/-- Nothing else that happens to a link touches the account. -/
lemma Control.run_observed {control : Control}
    (hordered : Ordered loop.link) (h : control.run loop = some after) :
    Observed loop.link after.link loop.link.batchOpen
      (terminatorsOf loop.link.outstanding.entries) := by
  cases control with
  | event occurred =>
    obtain ⟨link, hlink, rfl⟩ := map_eq_some_iff.mp h
    obtain ⟨state, hstate, rfl⟩ := map_eq_some_iff.mp hlink
    refine ⟨⟨?_, hordered.fakes⟩, rfl, rfl, rfl⟩
    change state ≠ .login
    intro hlogin
    rw [hlogin] at hstate
    revert hstate
    cases loop.link.state <;> cases occurred <;> decide
  | _ =>
    obtain rfl := some.inj h
    exact ⟨⟨hordered.loggedIn, hordered.fakes⟩, rfl, rfl, rfl⟩

/-! ### Every run -/

/-- What holds between frames in every state of an orderly run. -/
structure Accounted (world : World) : Prop where
  ordered : Ordered world.loop.link
  sound : world.account.Sound

lemma Accounted.step {after : World} (h : Accounted world)
    (hstep : world.account.Step after.account ∧ Ordered after.loop.link) : Accounted after :=
  ⟨hstep.2, h.sound.step hstep.1⟩

lemma Accounted.sends {dispatches : List Dispatch} :
    ∀ {world : World}, Accounted world → (∀ dispatch ∈ dispatches, dispatch.Sound ∧
      dispatch.message ≠ .copyDone ∧ dispatch.message ≠ .copyFail) →
      Accounted (dispatches.foldl World.send world) := by
  induction dispatches with
  | nil =>
    intro world h _
    exact h
  | cons dispatch rest ih =>
    intro world h hall
    obtain ⟨hsound, hdone, hfail⟩ := hall dispatch mem_cons_self
    have hfirst : Accounted (world.send dispatch) :=
      h.step (World.send_step h.ordered hsound fun hend => by
        rcases hend with hend | hend
        · exact absurd hend hdone
        · exact absurd hend hfail)
    exact ih hfirst fun other hother => hall other (mem_cons_of_mem _ hother)

lemma Accounted.client (h : Accounted world) (message : FrontendMessage Bytes)
    (found : Option (PreparedStatement × ServerAction))
    (horderly : world.orderly (.client message found)) :
    Accounted ((onFrontend message found).foldl World.send world) := by
  by_cases hend : message = .copyDone ∨ message = .copyFail
  · have hown : world.endsOwnCopy := by
      rcases hend with rfl | rfl <;> exact horderly
    have halone : onFrontend message found = [.client message] := by
      rcases hend with rfl | rfl <;> rfl
    rw [halone]
    exact h.step (World.send_step h.ordered (.client message) fun _ => hown)
  obtain ⟨hdone, hfail⟩ := not_or.mp hend
  apply h.sends
  intro dispatch hdispatch
  refine ⟨sound_of_onFrontend hdispatch, ?_, ?_⟩
  all_goals
    intro hmessage
    rcases request_or_own_of_onFrontend hdispatch with ⟨kind, hkind⟩ | hown
    · rw [hmessage] at hkind
      cases hkind
  · exact hdone (hown.symm.trans hmessage)
  · exact hfail (hown.symm.trans hmessage)

/-- What holds in every state of an orderly run: in the middle of a frame the account was sound
before its header, and the link has recorded it since. -/
inductive Followed (world : World) : Prop
  | between (hnone : world.streaming = none) (h : Accounted world)
  | inside {tag : UInt8} (hsome : world.streaming = some tag) (ordered : Ordered world.loop.link)
      (quiet : world.sawReady = false) (before : Account) (sound : before.Sound)
      (haccount : world.account = recorded tag before)

lemma Followed.ordered (h : Followed world) : Ordered world.loop.link := by
  cases h with
  | between _ h => exact h.ordered
  | inside _ hordered _ _ _ _ => exact hordered

lemma Followed.accounted (h : Followed world) (hnone : world.streaming = none) : Accounted world := by
  cases h with
  | between _ h => exact h
  | inside hsome _ _ _ _ _ => cases hnone.symm.trans hsome

/-- A step that does not look at what the link has recorded keeps the account sound, between frames
and inside one. -/
lemma Followed.move (h : Followed world) {after : World} {f : Account → Account}
    (hstreaming : after.streaming = world.streaming) (hordered : Ordered after.loop.link)
    (hquiet : world.sawReady = false → after.sawReady = false)
    (haccount : after.account = f world.account)
    (hrecorded : ∀ tag account, f (recorded tag account) = recorded tag (f account))
    (hsound : ∀ account : Account, account.backend = world.backend → account.wire = world.wire →
      account.Sound → (f account).Sound) : Followed after := by
  cases h with
  | between hnone h =>
    exact .between (hstreaming.trans hnone) ⟨hordered, haccount ▸ hsound _ rfl rfl h.sound⟩
  | inside hsome _ hsilent before hbefore hstreamed =>
    have hbackend : before.backend = world.backend := (congrArg Account.backend hstreamed).symm
    have hwire : before.wire = world.wire := (congrArg Account.wire hstreamed).symm
    refine .inside (hstreaming.trans hsome) hordered (hquiet hsilent) (f before)
      (hsound before hbackend hwire hbefore) ?_
    rw [haccount, hstreamed, hrecorded]

lemma World.streaming_sends {dispatches : List Dispatch} : ∀ {world : World},
    (dispatches.foldl World.send world).streaming = world.streaming := by
  induction dispatches with
  | nil => exact rfl
  | cons dispatch rest ih => exact ih

lemma Followed.received (h : Followed world) {after : World}
    (hturn : world.readsInTurn) (hnext : world.receive Loop.pumpBackend = some after ∨
      world.receive Loop.absorbBackend = some after) : Followed after := by
  obtain ⟨reply, rest, relayed, loop, hwire, hpump, rfl⟩ :
      ∃ reply rest relayed loop, world.wire = reply :: rest ∧
        (world.loop.pumpBackend reply.message = .ok (relayed, loop) ∨
          world.loop.absorbBackend reply.message = .ok (relayed, loop)) ∧
        after = { world with
          loop := loop
          wire := rest
          sawReady := world.sawReady || isReady reply.message } := by
    rcases hnext with hnext | hnext
    · obtain ⟨reply, rest, relayed, loop, hwire, hpump, hafter⟩ := World.receive_cases hnext
      exact ⟨reply, rest, relayed, loop, hwire, .inl hpump, hafter⟩
    · obtain ⟨reply, rest, relayed, loop, hwire, hpump, hafter⟩ := World.receive_cases hnext
      exact ⟨reply, rest, relayed, loop, hwire, .inr hpump, hafter⟩
  cases hready : isReady reply.message with
  | true =>
    have hnone : world.streaming = none := by
      unfold World.readsInTurn at hturn
      rw [hwire] at hturn
      simp only [hready, Bool.not_true, Bool.false_or, Bool.and_eq_true,
        isNone_iff_eq_none] at hturn
      exact hturn.1
    have haccounted := (h.accounted hnone).step
      (World.receive_ready h.ordered hturn hwire hready hpump)
    rw [hready] at haccounted
    exact .between hnone haccounted
  | false =>
    obtain ⟨haccount, hordered⟩ := World.receive_other rest h.ordered hready hpump
    rw [hready] at haccount
    refine h.move (f := fun account => { account with wire := rest }) rfl hordered ?_ haccount
      (fun _ _ => rfl) fun account _ hsame hsound => ?_
    · intro hquiet
      simp [hquiet]
    · exact hsound.step (.received reply rest (hsame.trans hwire) hready)

lemma Followed.next {after : World} {action : Action} (h : Followed world)
    (horderly : world.orderly action) (hnext : world.next action = some after) :
    Followed after := by
  cases action with
  | client message found =>
    simp only [World.next, Option.ite_none_left_eq_some, Bool.or_eq_true, not_or,
      not_isSome_iff_eq_none, some.injEq] at hnext
    obtain ⟨⟨-, hnone⟩, rfl⟩ := hnext
    exact .between (World.streaming_sends.trans hnone)
      ((h.accounted hnone).client message found horderly)
  | oversized tag =>
    simp only [World.next, Option.ite_none_left_eq_some, not_isSome_iff_eq_none,
      some.injEq] at hnext
    obtain ⟨hnone, rfl⟩ := hnext
    obtain ⟨hordered, haccount⟩ := World.sendHeader_observed tag h.ordered
    exact .inside rfl hordered rfl _ ((h.accounted hnone).sound.step .paused) haccount
  | lastPiece =>
    obtain ⟨tag, hsome, rfl⟩ := map_eq_some_iff.mp hnext
    cases h with
    | between hnone _ => cases hnone.symm.trans hsome
    | inside hsome' hordered _ before hbefore haccount =>
      cases hsome.symm.trans hsome'
      exact .between rfl ⟨hordered, hbefore.step (World.sendLastPiece_step haccount)⟩
  | internal sql =>
    have hnone : world.streaming = none := isNone_iff_eq_none.mp horderly
    obtain rfl : world.send ⟨.query sql, .skip, .client⟩ = after := by
      simpa [World.next, World.sendInternal, hnone] using hnext
    refine .between hnone ((h.accounted hnone).step (World.send_step h.ordered ?_ ?_))
    · constructor
      · intro hfake
        cases hfake
      · intro hpool
        cases hpool
    · intro hend
      rcases hend with hend | hend <;> cases hend
  | serve outcome =>
    obtain ⟨effect, heffect, rfl⟩ := map_eq_some_iff.mp hnext
    refine h.move (f := fun account => { account with
      backend := effect.1, wire := account.wire ++ effect.2 }) rfl h.ordered id rfl
      (fun _ _ => rfl) fun account hbackend _ hsound => ?_
    refine hsound.step (.served outcome effect.1 effect.2 ?_ ?_)
    · rw [hbackend]
      exact Backend.serve_cases heffect
    intro hinterrupts
    rw [hbackend] at hinterrupts ⊢
    change (!interrupts world.backend || !syncBeforeEnd world.backend.unread) = true at horderly
    rw [hinterrupts] at horderly
    simpa using horderly
  | abortCopy status =>
    obtain ⟨effect, heffect, rfl⟩ := map_eq_some_iff.mp hnext
    refine h.move (f := fun account => { account with
      backend := effect.1, wire := account.wire ++ effect.2 }) rfl h.ordered id rfl
      (fun _ _ => rfl) fun account hbackend _ hsound => ?_
    change (!syncBeforeEnd world.backend.unread) = true at horderly
    refine hsound.step (.aborted status effect.1 effect.2 (hbackend ▸ heffect) ?_)
    rw [hbackend]
    simpa using horderly
  | notify message =>
    obtain ⟨effect, heffect, rfl⟩ := map_eq_some_iff.mp hnext
    unfold Backend.notify at heffect
    split at heffect
    · rename_i hasync
      obtain rfl := some.inj heffect
      exact h.move (f := fun account => { account with
        wire := account.wire ++ [⟨message, none⟩] }) rfl h.ordered id rfl (fun _ _ => rfl)
        fun account _ _ hsound => hsound.step (.notified message hasync)
    · cases heffect
  | receive => exact h.received horderly (.inl hnext)
  | absorb => exact h.received horderly (.inr hnext)
  | endPass =>
    obtain rfl := some.inj hnext
    exact h.move (f := fun account => { account with sawReady := false }) rfl h.ordered
      (fun _ => rfl) rfl (fun _ _ => rfl) fun account _ _ hsound => hsound.step .paused
  | control control =>
    obtain ⟨loop, hloop, rfl⟩ := map_eq_some_iff.mp hnext
    have hobserved := Control.run_observed h.ordered hloop
    have hsame : World.account { world with loop := loop } = world.account := by
      simp only [World.account, hobserved.status, hobserved.batch, hobserved.terminators]
    exact h.move (f := id) rfl hobserved.ordered id hsame (fun _ _ => rfl) fun _ _ _ => id

lemma followed_of_reachable
    (h : (World.system.restrict fun world action => world.orderly action).Reachable
      world) : Followed world := by
  refine h.invariant ?_ ?_
  · rintro _ rfl
    refine .between rfl
      ⟨⟨by decide, by simp [World.start, ServerLink.new, OutstandingQueue.new]⟩, ?_⟩
    exact {
      drawn := by simp [World.account, World.start]
      owed := .refl _
      last := by simp [World.account, World.start, Backend.fresh]
      asked := nofun
      batch := nofun
      skipping := nofun
      copying := nofun
      announced := nofun
      answered := fun _ _ => trivial
      reported := fun _ => rfl }
  · intro world action after _ hworld hstep
    exact hworld.next hstep.1 hstep.2

/-- In every orderly run, a link the gate passes where the loop asks it stands for a backend
that has answered everything it was sent, is idle outside any transaction, discards nothing,
reads no rows and waits for no rest of a frame. -/
theorem released_links_are_clean {world : World}
    (h : (World.system.restrict fun world action => world.orderly action = true).Reachable
      world) (hready : world.sawReady = true) (hgate : world.loop.link.canCheckIn = .ok ()) :
    Account.Clean world.backend world.wire ∧ world.streaming = none := by
  obtain ⟨hstatus, hentries, hbatch, -, -⟩ := canCheckIn_ok hgate
  have hterminators : world.account.terminators = [] := by
    change terminatorsOf world.loop.link.outstanding.entries = []
    rw [hentries]
    rfl
  cases followed_of_reachable h with
  | between hnone haccounted =>
    exact ⟨haccounted.sound.clean hready hterminators hbatch hstatus, hnone⟩
  | inside _ _ hquiet _ _ _ => cases hquiet.symm.trans hready

/-- A client prepares under a name of its own, binds, executes and ends its batch. -/
def preparedBatch : List Action :=
  [.client (.parse [115] [49] [])
      (some (LinkTables.firstStatement, .parse (StatementName.generated 0))),
    .client (.bind [] [115]) (some (LinkTables.firstStatement, .ready)),
    .client (.execute []) none, .client .sync none,
    .serve (.completes [] .parseComplete .idle), .serve (.completes [] .bindComplete .idle),
    .serve (.completes [.dataRow] .commandComplete .idle),
    .serve (.completes [] (.readyForQuery .idle) .idle),
    .receive, .receive, .receive, .receive, .receive]

theorem released_links_are_clean_preparedBatch :
    ∃ world, System.run World.next World.start preparedBatch = some world ∧
      world.loop.link.canCheckIn = .ok () ∧ Account.Clean world.backend world.wire ∧
      world.streaming = none := by
  let world := (System.run World.next World.start preparedBatch).get (by decide)
  have hrun : _ = some world := (some_get _).symm
  have hpath : (World.system.restrict fun world action => world.orderly action = true).Path
      World.start preparedBatch world :=
    System.path_of_guarded_run (fun _ _ _ => id) (fun _ _ => id) (by decide)
  have hgate : world.loop.link.canCheckIn = .ok () := by decide
  exact ⟨world, hrun, hgate, released_links_are_clean
    (hpath.reachable (.init rfl)) (by decide) hgate⟩

/-- A `Query`, a named `Parse` and a `Flush`, written together and answered together: the
`Parse` goes out as the pool's own, no batch counts as open, and the gate lets the link go
while the backend is inside the implicit transaction the `Parse` began. -/
theorem renamed_parse_escapes_the_gate :
    ∃ world, World.system.Reachable world ∧ world.sawReady = true ∧
      world.loop.unsyncedBatch = false ∧ world.wire = [] ∧
      world.loop.link.canCheckIn = .ok () ∧ world.backend.batch = true := by
  let run := System.run World.next World.start [.client (.query [49]) none,
      .client (.parse [115] [49] [])
        (some (⟨0, _, ⟨[49], []⟩, rfl⟩, .parse (StatementName.generated 0))),
      .client .flush none,
      .serve (.completes [.rowDescription, .commandComplete] (.readyForQuery .idle) .idle),
      .serve (.completes [] .parseComplete .idle),
      .receive, .receive, .receive, .receive]
  exact (exists_of_any (x := run) (by decide)).imp fun world hrun =>
    ⟨System.reachable_of_run (fun _ _ _ _ => id) (.init rfl) hrun.1, hrun.2⟩

/-- A COPY whose row is passed on in pieces fails while the rest of the row is still to come: the
gate lets the link go although the backend waits for the rest. -/
theorem streamed_rows_escape_the_gate :
    ∃ world, World.system.Reachable world ∧ world.sawReady = true ∧
      world.loop.link.canCheckIn = .ok () ∧ world.streaming = some 100 := by
  let run := System.run World.next World.start [.client (.query [49]) none, .serve (.beginsCopy []),
      .receive, .oversized 100, .abortCopy .idle, .receive, .receive]
  exact (exists_of_any (x := run) (by decide)).imp fun world hrun =>
    ⟨System.reachable_of_run (fun _ _ _ _ => id) (.init rfl) hrun.1, hrun.2⟩

end PgElastic.Proxy.CheckIn
