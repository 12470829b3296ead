import PgElastic.Library.Transition
import PgElastic.Pool.Reset
import PgElastic.Proxy.TxnLoop

/-!
# Clients that share the links of a pool

What becomes of the names clients give to their prepared statements.  A client's names stand for
statements of the instance's cache, a statement goes to a link under the name minted for it, and a
link is passed from client to client with whatever its backend holds.  The unnamed statement is no
statement of the cache: it is sent as it comes and stays on the link.

The backend keeps the unnamed statement until the next unnamed `Parse` or simple `Query`, and a
named one until it is closed, deallocated or discarded.  It works through what it is sent in order,
so what it makes of a message is decided here when the message is sent; when the proxy learns of an
error is a step of its own.  Which statements a text drops, and the order in which a hash map is
walked, are arguments.  Statements that SQL prepares by itself are left out.

For every name a client is remembered with what it last parsed under it, and every `Bind` or
`Describe` that reaches a backend is recorded with the statement it reached.
-/

namespace PgElastic.Proxy

open Library Wire
open PgElastic.Pool

namespace Sharing

abbrev ClientId := Nat

abbrev InstanceId := Nat

abbrev LinkId := Nat

/-- A statement as a backend holds it, with the client whose message prepared it. -/
structure Prepared where
  key : StatementKey
  owner : ClientId
  deriving DecidableEq, Repr

/-- What a backend makes of a message. -/
inductive Reception
  /-- An earlier message of the batch has failed. -/
  | skipped
  | failed
  | accepted
  deriving DecidableEq, Repr

/-- The statements a backend holds. -/
structure Tables where
  named : AList fun _ : Bytes => Prepared
  unnamed : Option Prepared
  deriving DecidableEq

/-- The statement a `Bind` or a `Describe` names. -/
def statementNamed : FrontendMessage Bytes → Option Bytes
  | .bind _ statement => some statement
  | .describe .statement name => some name
  | _ => none

namespace Tables

def empty : Tables := ⟨∅, none⟩

/-- The statement a name stands for. -/
def find (tables : Tables) (name : Bytes) : Option Prepared :=
  if name.isEmpty then tables.unnamed else tables.named.lookup name

def drop (tables : Tables) (dropped : List Bytes) : Tables :=
  { tables with named := dropped.foldl (fun named name => named.erase name) tables.named }

/-- A `Parse` replaces the unnamed statement whether it succeeds or not, and never a named one. -/
def parse (tables : Tables) (name : Bytes) (prepared : Prepared) (accepted : Bool) : Tables :=
  if name.isEmpty then { tables with unnamed := if accepted then some prepared else none }
  else if accepted && (tables.named.lookup name).isNone then
    { tables with named := tables.named.insert name prepared }
  else tables

def close (tables : Tables) (name : Bytes) : Tables :=
  if name.isEmpty then { tables with unnamed := none }
  else { tables with named := tables.named.erase name }

/-- What a message leaves of the statements; `dropped` are those its text drops. -/
def receive (owner : ClientId) (dropped : List Bytes) (tables : Tables)
    (message : FrontendMessage Bytes) (reception : Reception) : Tables :=
  if reception = .skipped then tables
  else
    match message with
    | .parse name query paramTypes =>
      tables.parse name ⟨⟨query, paramTypes⟩, owner⟩ (decide (reception = .accepted))
    | .query _ => { tables.drop dropped with unnamed := none }
    | .execute _ => tables.drop dropped
    | .close .statement name => tables.close name
    | _ => tables

/-- A batch of messages: what is left, and what each `Bind` and `Describe` reached. -/
def receiveAll (owner : ClientId) (dropped : List Bytes) :
    Tables → List (FrontendMessage Bytes) → List Reception → Tables × List (Option Prepared)
  | tables, [], _ => (tables, [])
  | tables, message :: rest, receptions =>
    let reception := receptions.headD .accepted
    let reached :=
      if reception = .skipped then [] else ((statementNamed message).map tables.find).toList
    let later := receiveAll owner dropped (tables.receive owner dropped message reception) rest
      receptions.tail
    (later.1, reached ++ later.2)

end Tables

/-- A link: what the pool believes is parsed on it, and what its backend holds. -/
structure Link where
  home : InstanceId
  view : ServerStatements
  tables : Tables

/-- A link a client holds. -/
structure Held where
  link : Link
  /-- The client's last unnamed `Parse` was sent on this link since its checkout and was not
  skipped. -/
  fresh : Bool
  /-- An oversized message, copied data apart, keeps the link from being given back. -/
  pinned : Bool

structure Client where
  home : InstanceId
  statements : ClientStatements
  /-- What the client last parsed under each name it has not closed since. -/
  parsed : AList fun _ : Bytes => StatementKey
  held : Option Held

/-- A `Bind` or a `Describe` that reached a backend: what the client has parsed under the name it
used, and the statement that was reached. -/
structure Reach where
  client : ClientId
  asked : Option StatementKey
  statement : Option Prepared
  deriving DecidableEq, Repr

/-- What the loop does with the three tables before it dispatches a message. -/
structure Preparation where
  found : Option (PreparedStatement × ServerAction)
  statements : ClientStatements
  view : ServerStatements
  cache : GlobalStatementCache

def invalidate (view : ServerStatements) (sql : Bytes) : ServerStatements :=
  if (detectCacheInvalidation sql).isSome then view.clear else view

def prepare (cache : GlobalStatementCache) (statements : ClientStatements)
    (view : ServerStatements) (message : FrontendMessage Bytes) : Preparation :=
  match message with
  | .query sql => ⟨none, statements, invalidate view sql, cache⟩
  | .parse name query paramTypes =>
    let view := invalidate view query
    if name.isEmpty then ⟨none, statements, view, cache⟩
    else
      let interned := cache.intern ⟨query, paramTypes⟩
      let ensured := view.ensure interned.1
      ⟨some (interned.1, ensured.1), statements.insert name interned.1, ensured.2, interned.2⟩
  | .close .statement name =>
    ⟨none, if name.isEmpty then statements else statements.remove name, view, cache⟩
  | _ =>
    match (statementNamed message).bind fun name =>
        if name.isEmpty then none else statements.resolve name with
    | some statement =>
      let ensured := view.ensure statement
      ⟨some (statement, ensured.1), statements, ensured.2, cache⟩
    | none => ⟨none, statements, view, cache⟩

/-- The messages that reach the backend for one message of the client. -/
def sent (message : FrontendMessage Bytes) (found : Option (PreparedStatement × ServerAction)) :
    List (FrontendMessage Bytes) :=
  ((onFrontend message found).filter fun dispatch =>
    dispatch.relay.disposition != .fake).map Dispatch.message

/-- What a client has parsed after a message. -/
def remember (parsed : AList fun _ : Bytes => StatementKey) :
    FrontendMessage Bytes → AList fun _ : Bytes => StatementKey
  | .parse name query paramTypes => parsed.insert name ⟨query, paramTypes⟩
  | .close .statement name => parsed.erase name
  | _ => parsed

/-- Whether the last unnamed `Parse` was made on the held link. -/
def staysFresh (fresh : Bool) (message : FrontendMessage Bytes) (reception : Reception) : Bool :=
  match message with
  | .parse name _ _ => if name.isEmpty then decide (reception ≠ .skipped) else fresh
  | _ => fresh

/-- Re-interns a client's statements, name by name, against another cache. -/
def rebind (cache : GlobalStatementCache) (statements : ClientStatements) :
    List Bytes → ClientStatements × GlobalStatementCache
  | [] => (statements, cache)
  | name :: rest =>
    match statements.byName.lookup name with
    | some statement =>
      let interned := cache.intern statement.key
      rebind interned.2 ⟨statements.byName.insert name interned.1⟩ rest
    | none => rebind cache statements rest

structure World where
  caches : InstanceId → GlobalStatementCache
  clients : OrderedMap ClientId Client
  parked : OrderedMap LinkId Link
  reached : List Reach

inductive Step
  | connect (client : ClientId) (home : InstanceId)
  /-- The client is gone, and so is a link it holds. -/
  | disconnect (client : ClientId)
  /-- A parked link of the client's instance, or a new one with room for so many statements. -/
  | checkout (client : ClientId) (link : Option LinkId) (capacity : Nat)
  | checkIn (client : ClientId) (link : LinkId)
  | discard (client : ClientId)
  | closeParked (link : LinkId)
  /-- The client's tenant has moved to another instance. -/
  | follow (client : ClientId) (home : InstanceId) (order : List Bytes)
  | message (client : ClientId) (message : FrontendMessage Bytes) (receptions : List Reception)
      (dropped : List Bytes)
  /-- A message too large to be rewritten is passed on as it is. -/
  | oversized (client : ClientId) (message : FrontendMessage Bytes) (reception : Reception)
      (dropped : List Bytes)
  /-- A statement of the pool's own: a step of the reset ladder, or the `SET` of a checkout. -/
  | internal (client : ClientId) (step : Option ResetStep)
  /-- An `ErrorResponse` is read. -/
  | error (client : ClientId)

namespace World

def initial (capacity : Nat) : World :=
  ⟨fun _ => GlobalStatementCache.withCapacity capacity, OrderedMap.empty, OrderedMap.empty, []⟩

def put (w : World) (id : ClientId) (client : Client) : World :=
  { w with clients := w.clients.insert id client }

/-- A client that holds a link does something with it. -/
def withHeld (w : World) (id : ClientId) (act : Client → Held → World) : Option World :=
  (w.clients.get? id).bind fun client => client.held.map fun held => act client held

/-- `on_frontend`, with a link held. -/
def onMessage (w : World) (id : ClientId) (message : FrontendMessage Bytes)
    (receptions : List Reception) (dropped : List Bytes) (client : Client) (held : Held) : World :=
  let prepared := prepare (w.caches client.home) client.statements held.link.view message
  let received := held.link.tables.receiveAll id dropped (sent message prepared.found) receptions
  { w.put id { client with
        statements := prepared.statements
        parsed := remember client.parsed message
        held := some { held with
            link := { held.link with view := prepared.view, tables := received.1 }
            fresh := staysFresh held.fresh message (receptions.headD .accepted) } } with
    caches := Function.update w.caches client.home prepared.cache
    reached := w.reached ++ received.2.map fun statement =>
      ⟨id, (statementNamed message).bind client.parsed.lookup, statement⟩ }

/-- `on_client_opaque`, with a link held: nothing is rewritten. -/
def onOversized (w : World) (id : ClientId) (message : FrontendMessage Bytes)
    (reception : Reception) (dropped : List Bytes) (client : Client) (held : Held) : World :=
  let received := held.link.tables.receiveAll id dropped [message] [reception]
  { w.put id { client with
        parsed := remember client.parsed message
        held := some { held with
            link := { held.link with tables := received.1 }
            fresh := staysFresh held.fresh message reception
            pinned := held.pinned || decide (message ≠ .copyData) } } with
    reached := w.reached ++ received.2.map fun statement =>
      ⟨id, (statementNamed message).bind client.parsed.lookup, statement⟩ }

/-- A statement of the pool's own is a simple query; two of them drop every statement. -/
def onInternal (link : Link) : Option ResetStep → Link
  | some .discardAll | some .deallocateAll =>
    { link with view := link.view.clear, tables := Tables.empty }
  | _ => { link with tables := { link.tables with unnamed := none } }

def next (w : World) : Step → Option World
  | .connect id home =>
    match w.clients.get? id with
    | none => some (w.put id ⟨home, ClientStatements.new, ∅, none⟩)
    | some _ => none
  | .disconnect id => some { w with clients := w.clients.erase id }
  | .checkout id link capacity =>
    (w.clients.get? id).bind fun client =>
      match client.held with
      | some _ => none
      | none =>
        match link with
        | none =>
          some (w.put id { client with
            held := some ⟨⟨client.home, ServerStatements.new capacity, Tables.empty⟩,
              false, false⟩ })
        | some link =>
          (w.parked.get? link).bind fun found =>
            if found.home = client.home then
              some { w.put id { client with held := some ⟨found, false, false⟩ } with
                parked := w.parked.erase link }
            else none
  | .checkIn id link =>
    (w.clients.get? id).bind fun client => client.held.bind fun held =>
      if held.pinned = false ∧ w.parked.get? link = none then
        some { w.put id { client with held := none } with
          parked := w.parked.insert link held.link }
      else none
  | .discard id => w.withHeld id fun client _ => w.put id { client with held := none }
  | .closeParked link => some { w with parked := w.parked.erase link }
  | .follow id home order =>
    (w.clients.get? id).bind fun client =>
      if client.held.isNone ∧ home ≠ client.home ∧ order.Perm client.statements.byName.keys then
        let rebound := rebind (w.caches home) client.statements order
        some { w.put id { client with home := home, statements := rebound.1 } with
          caches := Function.update w.caches home rebound.2 }
      else none
  | .message id message receptions dropped =>
    w.withHeld id (w.onMessage id message receptions dropped)
  | .oversized id message reception dropped =>
    w.withHeld id (w.onOversized id message reception dropped)
  | .internal id step => w.withHeld id fun client held =>
    w.put id { client with held := some { held with link := onInternal held.link step } }
  | .error id => w.withHeld id fun client held =>
    w.put id { client with
      held := some { held with link := { held.link with view := held.link.view.forget } } }

/-- Runs of any number of clients over the links of any number of instances. -/
def system (capacity : Nat) : System World Step where
  init := fun w => w = initial capacity
  step := fun w step w' => w.next step = some w'

end World
end Sharing
end PgElastic.Proxy
