import PgElastic.Pool.Correlation
import PgElastic.Pool.Readiness
import PgElastic.Proxy.TxnLoop

/-!
# One client and one link, message by message

The two legs of the transaction loop against the reference backend, with the COPY of rows from the
client: what is dispatched, what the backend reads and when, what is in flight and what reaches the
client, in any interleaving.  Requests are numbered as they are dispatched, so that replies can be
traced back to them.

Of the backend two things are asked that `Backend` leaves open: an answer that completes leaves no
COPY to the client open, and a `Parse` or a `Close` does not change the transaction status.

`ignored`, `asked` and `log` are not read by the loop.  They say which `Sync`s the backend has
ignored since the client last ended the rows of a COPY, what the client has asked for, and what has
become of it.  Frames too large to decode and the pool's own queries are left out.
-/

namespace PgElastic.Proxy.Streams

open Library Wire List
open PgElastic.Pool

/-- What happens on the client's side of the loop. -/
inductive Event
  /-- A message of the backend is passed on. -/
  | relayed (message : BackendMessage)
  /-- An answer of the pool's own. -/
  | synthesised (message : BackendMessage)
  /-- A request of the client's is taken off the queue unanswered. -/
  | dropped (request : Request Nat)
  deriving DecidableEq, Repr

structure World where
  loop : Loop Nat
  recorded : Nat
  backend : Backend Nat
  wire : List (Reply Nat)
  ignored : List (Request Nat)
  asked : List (Input Nat)
  log : List Event
  deriving DecidableEq, Repr

inductive Action
  | dispatch (dispatch : Dispatch)
  | serve (outcome : Outcome)
  | abortCopy (status : TransactionStatus)
  | notify (message : BackendMessage)
  | receive
  deriving DecidableEq, Repr

/-- What the loop ever dispatches: the client's own messages, a `Parse` or a `Close` whose answer is
swallowed, and one that the pool answers. -/
def dispatchable (dispatch : Dispatch) : Bool :=
  match dispatch.relay with
  | .forward => (dispatch.input ()).isSome || dispatch.message == .flush
  | .skip =>
    match RequestKind.fromFrontend dispatch.message with
    | some .parse | some .close => true
    | _ => false
  | .fake response =>
    match RequestKind.fromFrontend dispatch.message with
    | some kind => Correlation.fakeable kind response
    | none => false

/-- What a dispatch says that the client wants. -/
def asks (tag : Nat) (dispatch : Dispatch) : Option (Input Nat) :=
  if dispatch.relay.disposition = .skip then none
  else Dispatch.input tag { dispatch with relay := .forward }

/-- The client has no more rows. -/
def endsRows : FrontendMessage Bytes → Bool
  | .copyDone | .copyFail => true
  | _ => false

/-- The copy state behind a message of the backend. -/
def copyAfter (copy : CopyState) : BackendMessage → CopyState
  | .copyInResponse => .copyIn
  | .copyOutResponse => .copyOut
  | .copyBothResponse => .copyBoth
  | .copyDone => if copy = .copyIn then copy else .none
  | .errorResponse => .none
  | _ => copy

/-- What PostgreSQL promises about an answer beyond `Backend`. -/
def sensible (backend : Backend Nat) : Outcome → Bool
  | .completes rows _ status =>
    rows.foldl copyAfter .none == .none && match backend.unread with
      | .request request :: _ =>
        (request.kind != .parse && request.kind != .close) || status == backend.status
      | _ => true
  | _ => true

/-- The `Sync` the backend ignores when it reads its next message, if no end of the rows is unread
behind it. -/
def ignores (backend : Backend Nat) : List (Request Nat) :=
  match backend.unread, backend.mode with
  | .request request :: rest, .copyIn _ =>
    if request.kind = .sync ∧ rest.any Input.isCopyEnd = false then [request] else []
  | _, _ => []

/-- The client's requests an error takes off the queue, the failed one apart. -/
def lost (queue : OutstandingQueue Nat) (message : BackendMessage) : List (Request Nat) :=
  if message = .errorResponse then
    (((queue.entries.takeWhile fun entry => !entry.terminates).tail).filter fun entry =>
      entry.disposition != .skip).map Entry.request
  else []

/-- What a message of the backend means for the client. -/
def events (link : ServerLink Nat) (message : BackendMessage) : List Event :=
  let observed := link.observeBackend message
  match observed.1 with
  | .error _ => []
  | .ok reaction =>
    (if reaction.disposition.forwards then [.relayed message] else []) ++
      (lost link.outstanding message).map .dropped ++
      observed.2.takeReadyFakes.1.map .synthesised

/-- The messages a client gets to see. -/
def visible (log : List Event) : List BackendMessage :=
  log.filterMap fun event =>
    match event with
    | .relayed message => some message
    | .synthesised message => some message
    | .dropped _ => none

namespace World

/-- A link that has logged in and been assigned. -/
def start : World where
  loop := ⟨{ ServerLink.new with state := .active, txStatus := some .idle }, false⟩
  recorded := 0
  backend := Backend.fresh
  wire := []
  ignored := []
  asked := []
  log := []

def link (w : World) : ServerLink Nat := w.loop.link

def queue (w : World) : OutstandingQueue Nat := w.loop.link.outstanding

def send (w : World) (dispatch : Dispatch) : World :=
  let dispatched := w.loop.dispatchFrom w.recorded dispatch
  { w with
    loop := dispatched.2
    recorded := w.recorded + 1
    backend :=
      match dispatch.input w.recorded with
      | some input => w.backend.enqueue input
      | none => w.backend
    ignored := if endsRows dispatch.message && w.link.copy == .copyIn then [] else w.ignored
    asked := w.asked ++ (asks w.recorded dispatch).toList
    log := w.log ++ dispatched.1.map .synthesised }

/-- The backend has moved and sent these replies. -/
def reply (w : World) (effect : Backend Nat × List (Reply Nat)) : World :=
  { w with backend := effect.1, wire := w.wire ++ effect.2 }

def next (w : World) : Action → Option World
  | .dispatch dispatch => if dispatchable dispatch then some (w.send dispatch) else none
  | .serve outcome =>
    if sensible w.backend outcome then
      (w.backend.serve outcome).map fun effect =>
        { w.reply effect with ignored := w.ignored ++ ignores w.backend }
    else none
  | .abortCopy status => (w.backend.abortCopy status).map w.reply
  | .notify message => (w.backend.notify message).map w.reply
  | .receive =>
    match w.wire with
    | [] => none
    | reply :: rest =>
      match w.loop.pumpBackend reply.message with
      | .error _ => none
      | .ok (_, loop) =>
        some { w with
          loop := loop
          wire := rest
          log := w.log ++ events w.link reply.message }

def system : System World Action where
  init := fun w => w = start
  step := fun w action after => w.next action = some after

end World

/-! ### What the loop writes -/

lemma dispatchable_of_ensureParsed (prepared : PreparedStatement) (action : ServerAction) :
    (ensureParsed prepared action).all dispatchable := by
  cases action <;> rfl

/-- Everything the loop dispatches for a message of the client is in the system. -/
theorem dispatchable_of_onFrontend {message : FrontendMessage Bytes}
    {found : Option (PreparedStatement × ServerAction)} {dispatch : Dispatch}
    (h : dispatch ∈ onFrontend message found)
    (hmessage : dispatchable (Dispatch.client message)) : dispatchable dispatch := by
  suffices hall : (onFrontend message found).all dispatchable from all_eq_true.mp hall dispatch h
  unfold onFrontend
  split
  · split
    · rfl
    split
    · rename_i action
      cases action <;> rfl
    · rfl
  · split
    · rw [all_append, dispatchable_of_ensureParsed]
      rfl
    · rfl
  · split
    · rw [all_append, dispatchable_of_ensureParsed]
      rfl
    · rfl
  · rfl
  · rw [all_cons, hmessage]
    rfl

/-- The log shows what the loop passes to the client. -/
theorem visible_events {loop after : Loop Nat} {message : BackendMessage}
    {passed : List BackendMessage} (h : loop.pumpBackend message = .ok (passed, after)) :
    visible (events loop.link message) = passed := by
  cases hreaction : (loop.link.observeBackend message).1 with
  | error e =>
    simp only [Loop.pumpBackend, hreaction] at h
    cases h
  | ok reaction =>
    simp only [Loop.pumpBackend, hreaction] at h
    cases h
    simp only [events, hreaction]
    split <;> simp [visible, filterMap_map]

end PgElastic.Proxy.Streams
