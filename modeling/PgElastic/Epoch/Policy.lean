import PgElastic.Library.OrderedMap
import PgElastic.Wire.Message
import PgElastic.Epoch.Sql
import PgElastic.Pool.StartupKey

/-!
# The in-flight transaction policy

What the primary-epoch fence does with a session that holds a backend of the superseded
epoch.  A `TransactionWitness` follows the frames the relay decodes in both directions,
`state` classifies the session, `action` is the policy matrix, and `applyFence` is the
verdict the client gets.

The reference the witness is checked against is the history of observed messages
itself, most recent first: which statements a request runs, whether the open
transaction has written, and which status the link last reported are read back from
the history, with no state.
-/

namespace PgElastic.Epoch

open Library Wire

/-- What a session was doing on the superseded epoch when the fence fired. -/
inductive InFlight
  | idle
  | readOnlyTransaction
  | idleInTransaction
  | writeUncommitted
  | commitInDoubt
  deriving DecidableEq, Repr

/-- What the fence does about it. -/
inductive FenceAction
  | close
  | drainThenClose
  | resetNow
  | reportUnknown
  | holdForResume
  deriving DecidableEq, Repr

/-- Whether an action ends the client's session as well as the backend's. -/
def FenceAction.severs : FenceAction → Bool
  | .holdForResume => false
  | _ => true

/-- Whether somebody is deliberately keeping this tenant's clients still. -/
inductive Held
  | no
  | byHolder
  deriving DecidableEq, Repr

/-- The policy matrix. -/
def action : InFlight → Held → FenceAction
  | .idle, .byHolder => .holdForResume
  | .idle, .no => .close
  | .readOnlyTransaction, _ => .drainThenClose
  | .idleInTransaction, _ => .resetNow
  | .writeUncommitted, _ => .resetNow
  | .commitInDoubt, _ => .reportUnknown

/-- A character of several bytes that is not complete: its bits so far, how many bytes are
missing, and the range of the next one. -/
structure Unfinished where
  bits : Nat
  missing : Nat
  least : UInt8
  greatest : UInt8

/-- The first byte of a character. -/
def leadByte (byte : UInt8) : List Char × Option Unfinished :=
  if byte < 0x80 then ([Char.ofNat byte.toNat], none)
  else if 0xC2 ≤ byte ∧ byte ≤ 0xDF then ([], some ⟨byte.toNat % 32, 1, 0x80, 0xBF⟩)
  else if 0xE0 ≤ byte ∧ byte ≤ 0xEF then
    ([], some ⟨byte.toNat % 16, 2, if byte = 0xE0 then 0xA0 else 0x80,
      if byte = 0xED then 0x9F else 0xBF⟩)
  else if 0xF0 ≤ byte ∧ byte ≤ 0xF4 then
    ([], some ⟨byte.toNat % 8, 3, if byte = 0xF0 then 0x90 else 0x80,
      if byte = 0xF4 then 0x8F else 0xBF⟩)
  else ([Char.ofNat 0xFFFD], none)

/-- A later byte; one that is out of range breaks the character off and begins the next. -/
def nextByte (char : Unfinished) (byte : UInt8) : List Char × Option Unfinished :=
  if char.least ≤ byte ∧ byte ≤ char.greatest then
    let bits := char.bits * 64 + byte.toNat % 64
    if char.missing = 1 then ([Char.ofNat bits], none)
    else ([], some ⟨bits, char.missing - 1, 0x80, 0xBF⟩)
  else
    let (chars, unfinished) := leadByte byte
    (Char.ofNat 0xFFFD :: chars, unfinished)

/-- `String::from_utf8_lossy`: what is not UTF-8 becomes U+FFFD, once for each broken character. -/
def fromUtf8Lossy : Option Unfinished → List UInt8 → List Char
  | none, [] => []
  | some _, [] => [Char.ofNat 0xFFFD]
  | unfinished, byte :: rest =>
    let (chars, after) := unfinished.elim (leadByte byte) (nextByte · byte)
    chars ++ fromUtf8Lossy after rest

/-- A statement's text as the in-doubt log has it. -/
def text (sql : List UInt8) : List Char := Pool.Text.trim (fromUtf8Lossy none sql)

/-- What the in-doubt log records for a request: the text that was sent, or the stated
placeholder for a text this session never saw. -/
inductive Text
  | none
  | sent (sql : List Char)
  | unknownStatement
  | functionCall
  deriving DecidableEq, Repr

variable {N : Type} [LinearOrder N]

/-- Everything the fence needs to classify a session.  One map of texts serves
statement and portal names alike. -/
structure TransactionWitness (N : Type) [LinearOrder N] where
  wrote : Bool
  pending : Option Kind
  pendingSql : Text
  pendingBatch : Bool
  statements : OrderedMap N Kind
  portals : OrderedMap N Kind
  texts : OrderedMap N Text

namespace TransactionWitness

def new : TransactionWitness N where
  wrote := false
  pending := Option.none
  pendingSql := .none
  pendingBatch := false
  statements := OrderedMap.empty
  portals := OrderedMap.empty
  texts := OrderedMap.empty

/-- A `COMMIT` of a transaction that wrote nothing has nothing to make durable, so it is
treated as the read it is. -/
def pendingKind (kind : Kind) (wrote : Bool) : Kind :=
  match kind with
  | .commit => if wrote then .commit else .read
  | other => other

def beginRequest (witness : TransactionWitness N) (kind : Kind) (sql : Text) :
    TransactionWitness N :=
  let wrote := witness.wrote || kind == .write
  { witness with wrote := wrote, pendingSql := sql, pending := some (pendingKind kind wrote) }

/-- One iteration of the loop over a simple query's statements: the running flag and the
running maximum. -/
def foldStatement (progress : Bool × Kind) (statement : List UInt8) : Bool × Kind :=
  let classified := classify statement
  (progress.1 || classified == .write, progress.2.max classified)

/-- Records a message on its way to the backend. -/
def observeFrontend (witness : TransactionWitness N) :
    FrontendMessage N → TransactionWitness N
  | .query sql =>
    let batch := splitStatements sql
    let folded := batch.foldl foldStatement (witness.wrote, Kind.read)
    { witness with
      pendingBatch := decide (batch.length > 1)
      wrote := folded.1 }.beginRequest folded.2 (.sent (text sql))
  | .parse name query _ =>
    { witness with
      statements := witness.statements.insert name (classify query)
      texts := witness.texts.insert name (.sent (text query)) }
  | .bind portal statement =>
    let kind := (witness.statements.get? statement).getD .write
    let sql := (witness.texts.get? statement).getD .unknownStatement
    { witness with
      portals := witness.portals.insert portal kind
      texts := witness.texts.insert portal sql }
  | .execute portal =>
    let kind := (witness.portals.get? portal).getD .write
    let sql := (witness.texts.get? portal).getD .unknownStatement
    witness.beginRequest kind sql
  | .functionCall => witness.beginRequest .write .functionCall
  | _ => witness

/-- The text of the request whose answer has not arrived. -/
def pendingText (witness : TransactionWitness N) : Text :=
  if witness.pending.isNone then .none else witness.pendingSql

/-- The outstanding request has been answered. -/
def retire (witness : TransactionWitness N) : TransactionWitness N :=
  { witness with pending := none, pendingBatch := false }

/-- Records a message on its way back to the client.  A query of several statements
draws one completion per statement, so only an error or `ReadyForQuery` retires it. -/
def observeBackend (witness : TransactionWitness N) :
    BackendMessage → TransactionWitness N
  | .commandComplete => if witness.pendingBatch then witness else witness.retire
  | .emptyQueryResponse => if witness.pendingBatch then witness else witness.retire
  | .portalSuspended => if witness.pendingBatch then witness else witness.retire
  | .errorResponse => witness.retire
  | .readyForQuery status =>
    match status with
    | .idle => { witness.retire with wrote := false, portals := OrderedMap.empty }
    | _ => witness.retire
  | _ => witness

/-- The session's state, given the transaction status the link last reported. -/
def state (witness : TransactionWitness N) (txStatus : TransactionStatus) : InFlight :=
  match witness.pending, txStatus with
  | some .commit, _ => .commitInDoubt
  | some .write, .idle => .commitInDoubt
  | some .write, _ => .writeUncommitted
  | some .read, _ => .readOnlyTransaction
  | none, .idle => .idle
  | none, _ => .idleInTransaction

end TransactionWitness

/-! ### The verdict -/

/-- The held backend as the fence sees it. -/
structure Checkout where
  epoch : Nat
  txStatus : Option TransactionStatus
  pinned : Bool
  deriving DecidableEq, Repr

/-- What the session and its client get out of the fence. -/
inductive Verdict
  /-- Nothing is held, or the link was given back without loss. -/
  | goesOn
  /-- The outstanding read is allowed to finish. -/
  | draining
  /-- The client is told that its session did not survive the promotion. -/
  | superseded (openedUnder current : Nat)
  /-- The client is told that the outcome is unknown, and the in-doubt log has it. -/
  | outcomeUnknown (openedUnder current : Nat) (recorded : Text)
  deriving DecidableEq, Repr

/-- Applies the policy to the held link; the second component is what the session still
holds afterwards. -/
def applyFence (checkout : Option Checkout) (current : Nat) (witness : TransactionWitness N)
    (held : Held) : Verdict × Option Checkout :=
  match checkout with
  | none => (.goesOn, none)
  | some link =>
    match action (witness.state (link.txStatus.getD .idle)) held with
    | .close => (if link.pinned then .superseded link.epoch current else .goesOn, none)
    | .drainThenClose => (.draining, some link)
    | .holdForResume =>
      (if link.pinned then .superseded link.epoch current else .goesOn, none)
    | .resetNow => (.superseded link.epoch current, none)
    | .reportUnknown => (.outcomeUnknown link.epoch current witness.pendingText, none)

/-! ### Histories -/

/-- A message the witness observes. -/
inductive Event (N : Type)
  | front (message : FrontendMessage N)
  | back (message : BackendMessage)
  deriving DecidableEq, Repr

namespace TransactionWitness

def observe (witness : TransactionWitness N) : Event N → TransactionWitness N
  | .front message => witness.observeFrontend message
  | .back message => witness.observeBackend message

/-- The witness of a session after everything observed so far. -/
def after : List (Event N) → TransactionWitness N
  | [] => new
  | event :: past => (after past).observe event

end TransactionWitness

namespace History

/-- The kind of the statement last parsed under a name. -/
def statementKind (statement : N) : List (Event N) → Option Kind
  | [] => none
  | .front (.parse name query _) :: past =>
    if statement = name then some (classify query) else statementKind statement past
  | _ :: past => statementKind statement past

/-- The kind of the statement bound to a portal in the open transaction; a statement
never seen is a write. -/
def portalKind (portal : N) : List (Event N) → Option Kind
  | [] => none
  | .front (.bind name statement) :: past =>
    if portal = name then some ((statementKind statement past).getD .write)
    else portalKind portal past
  | .back (.readyForQuery .idle) :: _ => none
  | _ :: past => portalKind portal past

/-- The kinds of the statements a message has the backend run. -/
def requestKinds (past : List (Event N)) : FrontendMessage N → List Kind
  | .query sql => (splitStatements sql).map classify
  | .execute portal => [(portalKind portal past).getD .write]
  | .functionCall => [.write]
  | _ => []

/-- Whether a statement that may write has been forwarded since the link last reported
`Idle`. -/
def wroteSinceIdle : List (Event N) → Bool
  | [] => false
  | .front message :: past =>
    wroteSinceIdle past || (requestKinds past message).contains .write
  | .back (.readyForQuery .idle) :: _ => false
  | .back _ :: past => wroteSinceIdle past

/-- The status the link last reported. -/
def reported : List (Event N) → Option TransactionStatus
  | [] => none
  | .back (.readyForQuery status) :: _ => some status
  | _ :: past => reported past

end History

end PgElastic.Epoch
