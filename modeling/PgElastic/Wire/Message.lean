import Mathlib.Order.Defs.LinearOrder

/-!
# Wire messages

The frontend and backend messages of `pgelastic-wire`, as far as the relay's state
machines look into them.  Statement and portal names are an arbitrary type `N`: the
relay only compares and copies them.  SQL text is the list of bytes that was sent, and
parameter types are object ids.  Row, COPY, authentication and parameter payloads are
relayed without being read and are left out.
-/

namespace PgElastic.Wire

/-- A byte string as it stands on the wire. -/
abbrev Bytes := List UInt8

/-- What the backend reports at the end of a request. -/
inductive TransactionStatus
  | idle
  | transaction
  | failed
  deriving DecidableEq, Repr

/-- What a `Describe` or a `Close` names. -/
inductive Target
  | statement
  | portal
  deriving DecidableEq, Repr

/-- Messages a client sends to a backend. -/
inductive FrontendMessage (N : Type)
  | query (sql : List UInt8)
  | parse (name : N) (query : List UInt8) (paramTypes : List UInt32)
  | bind (portal statement : N)
  | describe (target : Target) (name : N)
  | execute (portal : N)
  | close (target : Target) (name : N)
  | flush
  | sync
  | terminate
  | copyData
  | copyDone
  | copyFail
  | functionCall
  | passwordMessage
  | saslInitialResponse
  | saslResponse
  | gssResponse
  deriving DecidableEq, Repr

/-- Messages a backend sends to a client. -/
inductive BackendMessage
  | authentication
  | backendKeyData
  | parameterStatus
  | readyForQuery (status : TransactionStatus)
  | rowDescription
  | dataRow
  | commandComplete
  | emptyQueryResponse
  | errorResponse
  | noticeResponse
  | notificationResponse
  | parseComplete
  | bindComplete
  | closeComplete
  | portalSuspended
  | noData
  | parameterDescription
  | copyInResponse
  | copyOutResponse
  | copyBothResponse
  | copyData
  | copyDone
  | negotiateProtocolVersion
  | functionCallResponse
  deriving DecidableEq, Repr

end PgElastic.Wire
