import PgElastic.Epoch.Fence
import PgElastic.Epoch.Policy
import PgElastic.Library.Transition
import PgElastic.Pool.Reset
import PgElastic.Proxy.TxnLoop

/-!
# Sessions under the epoch fence

A pool manager, its fence and its transaction-mode sessions.  An epoch may be observed at any
moment, so a session is cut wherever another task can run between a look at the fence and a write
to the backend: a phase says how far its code has come.  The event loop is a biased `select!`: with
an unseen epoch change it takes that event before it reads a socket.

Every write that goes through a session's backend buffer is recorded with the epoch of its link and
the epoch of the fence at that moment.  The probe of a checkout and the `Terminate` of a closed link
are written to the socket itself and are not part of that buffer.

Left to the run: what the statement cache and the statement scan answer, the text of the `SET`
synchronisation, whether the pin ceiling has room, whether a link has outlived its lifetime, the
gates that hold a tenant, and what the allocator does with a slot.
-/

namespace PgElastic.Proxy

open Library Wire Epoch
open PgElastic.Pool

namespace Fencing

/-- Byte strings are compared byte by byte. -/
instance byteOrder : LinearOrder UInt8 where
  le_refl := UInt8.le_refl
  le_trans := fun _ _ _ => UInt8.le_trans
  le_antisymm := fun _ _ => UInt8.le_antisymm
  le_total := UInt8.le_total
  lt_iff_le_not_ge := fun a b => by
    rw [UInt8.not_le]
    exact ⟨fun h => ⟨UInt8.le_of_lt h, h⟩, fun h => h.2⟩
  toDecidableLE := inferInstance

abbrev LinkId := Nat

abbrev SessionId := Nat

/-- A backend link as the fence and the release gate see it. -/
structure Conn where
  id : LinkId
  /-- The epoch the link was opened or last verified under. -/
  epoch : Nat
  link : ServerLink Unit
  deriving DecidableEq, Repr

namespace Conn

/-- The link `open` returns: logged in, idle and assigned. -/
def opened (id : LinkId) (epoch : Nat) : Option Conn :=
  let observed := (ServerLink.new (I := Unit)).observeBackend (.readyForQuery .idle)
  ((observed.2.apply .loginSucceeded).bind fun link => link.apply .assigned).map
    fun link => ⟨id, epoch, link⟩

/-- What `apply_fence` reads of the held link. -/
def checkout (conn : Conn) : Checkout := ⟨conn.epoch, conn.link.txStatus, conn.link.pin.isSome⟩

/-- The link state `check_in` parks. -/
def checkedIn (conn : Conn) : Conn :=
  let moved :=
    match conn.link.state with
    | .active => conn.link.apply .released
    | .tested => conn.link.apply .resetSucceeded
    | _ => none
  { conn with link := moved.getD conn.link }

end Conn

/-- A piece of a frame too large to buffer whole.  The first piece is the header; `tag` and
`declared` are read from it, `size` is the number of bytes of the piece. -/
structure Chunk where
  tag : UInt8
  declared : Int
  size : Nat
  deriving DecidableEq, Repr

/-- Which request a tag byte announces. -/
def requestKindFromTag (tag : UInt8) : Option RequestKind :=
  if tag = 80 then some .parse
  else if tag = 66 then some .bind
  else if tag = 68 then some .describe
  else if tag = 69 then some .execute
  else if tag = 67 then some .close
  else if tag = 83 then some .sync
  else if tag = 81 then some .query
  else if tag = 70 then some .functionCall
  else none

/-- What the client sent and the session is about to pass on. -/
inductive Outgoing
  | message (message : FrontendMessage Bytes)
  | chunk (chunk : Chunk)
  deriving DecidableEq, Repr

/-- What an internal statement is part of. -/
inductive Purpose
  /-- The synchronisation that ends a checkout. -/
  | sync (out : Outgoing)
  /-- The reset ladder with the steps still to come, at a release or at the session's end. -/
  | reset (rest : List ResetStep) (ending : Bool)
  deriving DecidableEq, Repr

/-- How far a session's code has come. -/
inductive Phase
  /-- At the `select!`. -/
  | waiting
  /-- In `pump_client`, between two frames. -/
  | client
  /-- In `pump_backend`, between two frames. -/
  | backend (sawReady : Bool)
  /-- In `ensure_backend`, with nothing held. -/
  | acquiring (out : Outgoing)
  | opening (out : Outgoing)
  /-- In `verify_epoch`, before the probe is answered. -/
  | verifying (out : Outgoing) (conn : Conn) (fresh : Bool)
  /-- In `verify_epoch`, before the second look at the fence. -/
  | judging (out : Outgoing) (conn : Conn) (fresh : Bool)
  /-- The link is handed over, `sync_variables` has not run. -/
  | synchronising (out : Outgoing)
  /-- A link is held and the fence has been asked. -/
  | dispatching (out : Outgoing)
  /-- In `run_internal`; `failed` once an error was read. -/
  | internal (purpose : Purpose) (failed : Bool)
  /-- At `try_release`. -/
  | releasing
  /-- Between two statements of the reset ladder. -/
  | ladder (steps : List ResetStep) (ending : Bool)
  /-- The loop has returned, `finish` has not run. -/
  | finishing
  | ended
  deriving DecidableEq, Repr

structure Session where
  held : Option Conn
  witness : TransactionWitness Bytes
  unsyncedBatch : Bool
  /-- Bytes still to come of an oversized frame. -/
  clientStreaming : Nat
  drainingFence : Bool
  /-- The generation of the fence the session has seen. -/
  seen : Nat
  phase : Phase

/-- What a turn of a session does outside the session. -/
structure Effects where
  /-- An epoch is observed on the verify path. -/
  observed : Option Nat := none
  /-- For everything appended to the output of the held link, the epoch of that link. -/
  appended : List Nat := []
  /-- The epoch a link was verified under that is handed over. -/
  handed : Option Nat := none
  parked : Option Conn := none
  deriving DecidableEq, Repr

structure Config where
  runtime : FenceRuntime
  resetPolicy : ResetPolicy
  deriving DecidableEq, Repr

namespace Session

/-- A session that has subscribed to the fence; what the client pipelined behind its start-up is
pumped before the first read. -/
def new (fence : EpochFence) : Session :=
  ⟨none, TransactionWitness.new, false, 0, false, fence.generation, .client⟩

def superseded (session : Session) (fence : EpochFence) : Bool :=
  session.held.any fun conn => decide (conn.epoch < fence.current)

/-- `apply_fence`; the flag says whether the session goes on. -/
def applyFence (session : Session) (fence : EpochFence) (gate : Held) : Session × Bool :=
  let held := session.held.map Conn.checkout
  match (Epoch.applyFence held fence.current session.witness gate).1 with
  | .goesOn => ({ session with held := none }, true)
  | .draining => ({ session with drainingFence := true }, true)
  | .superseded _ _ | .outcomeUnknown _ _ _ => ({ session with held := none }, false)

/-- `finish_fence_drain`; the flag says whether the client keeps its socket. -/
def finishFenceDrain (session : Session) (gate : Held) : Session × Bool :=
  let pinned := session.held.any fun conn => conn.link.pin.isSome
  ({ session with drainingFence := false, held := none },
    !pinned && decide (action .idle gate = .holdForResume))

/-- What `on_frontend` does before it looks at the message. -/
def admission (session : Session) (fence : EpochFence) (gate : Held) : Session × Bool :=
  let fenced := if session.superseded fence then session.applyFence fence gate else (session, true)
  if fenced.2 && fenced.1.drainingFence then fenced.1.finishFenceDrain gate else fenced

/-- What `on_client_opaque` does before it looks at the chunk: a drain is not finished here. -/
def admitOpaque (session : Session) (fence : EpochFence) (gate : Held) : Session × Bool :=
  if session.superseded fence then session.applyFence fence gate else (session, true)

/-- On to `ensure_backend`, which returns at once with a link held. -/
def passOn (admitted : Session × Bool) (out : Outgoing) : Session :=
  if admitted.2 then
    { admitted.1 with
      phase := if admitted.1.held.isSome then .dispatching out else .acquiring out }
  else { admitted.1 with phase := .finishing }

/-- Whether a dispatch reaches the backend; a faked request is answered by the pool. -/
def sends (dispatch : Dispatch) : Bool := dispatch.relay.disposition != .fake

/-- `dispatch_from`, without the bytes. -/
def dispatchFrom (session : Session) (conn : Conn) (dispatch : Dispatch) : Session × Conn :=
  let loop := ((⟨conn.link, session.unsyncedBatch⟩ : Loop Unit).dispatchFrom () dispatch).2
  ({ session with
      unsyncedBatch := loop.unsyncedBatch
      witness :=
        if sends dispatch then session.witness.observeFrontend dispatch.message
        else session.witness },
    { conn with link := loop.link })

def dispatchAll (session : Session) (conn : Conn) : List Dispatch → Session × Conn
  | [] => (session, conn)
  | dispatch :: rest =>
    let dispatched := session.dispatchFrom conn dispatch
    dispatchAll dispatched.1 dispatched.2 rest

/-- The messages that reach the backend. -/
def appends (conn : Conn) (dispatches : List Dispatch) : Effects :=
  { appended := (dispatches.filter sends).map fun _ => conn.epoch }

/-- What the statement scan of `on_sql` does to the link. -/
def onSql (link : ServerLink Unit) (message : FrontendMessage Bytes) (pin : Option PinReason)
    (taints : TaintSet) : ServerLink Unit :=
  match message with
  | .query _ | .parse _ _ _ =>
    ((pin.map fun reason => link.setPin reason).getD link).addTaints taints
  | _ => link

/-- An oversized frame's piece is recorded; a header with an impossible length ends the session. -/
def noteChunk (session : Session) (conn : Conn) (chunk : Chunk) (mayPin : Bool) :
    Option (Session × Conn) :=
  if session.clientStreaming = 0 then
    if chunk.declared < 4 then none
    else
      let pinned :=
        if chunk.tag ≠ 100 ∧ mayPin then conn.link.setPin .desyncedPipeline else conn.link
      let recorded :=
        match requestKindFromTag chunk.tag with
        | some kind => pinned.observeFrontendOpaque () kind
        | none => pinned
      some ({ session with clientStreaming := (chunk.declared - 4).toNat },
        { conn with link := recorded })
  else some ({ session with clientStreaming := session.clientStreaming - chunk.size }, conn)

/-- `run_internal` sends its statement. -/
def runInternal (session : Session) (conn : Conn) (sql : Bytes) (purpose : Purpose) :
    Session × Effects :=
  let dispatched := session.dispatchFrom conn ⟨.query sql, .skip, .client⟩
  ({ dispatched.1 with held := some dispatched.2, phase := .internal purpose false },
    { appended := [conn.epoch] })

/-- `run_internal` has returned. -/
def internalReturned (session : Session) (purpose : Purpose) (failed : Bool) : Session :=
  match purpose, failed with
  | .sync out, false => { session with phase := .dispatching out }
  | .sync _, true => { session with phase := .finishing }
  | .reset rest ending, false => { session with phase := .ladder rest ending }
  | .reset _ ending, true =>
    { session with held := none, phase := if ending then .ended else .waiting }

/-- The next link is opened unless this one was fresh already. -/
def refused (session : Session) (out : Outgoing) (fresh : Bool) : Session :=
  { session with phase := if fresh then .finishing else .opening out }

/-- `reset_and_release`, up to the first statement of the ladder. -/
def resetAndRelease (policy : ResetPolicy) (session : Session) (conn : Conn) :
    Session × Effects :=
  let plan := plan policy conn.link.taint conn.link.pin ⟨conn.link.txStatus.getD .idle, false⟩
  match plan.disposition, plan.steps with
  | .close _, _ => ({ session with held := none, phase := .waiting }, {})
  | _, [] => ({ session with held := none, phase := .waiting }, { parked := some conn.checkedIn })
  | _, steps =>
    match conn.link.apply .resetStarted with
    | some link =>
      ({ session with held := some { conn with link := link }, phase := .ladder steps false }, {})
    | none => ({ session with held := some conn, phase := .finishing }, {})

/-- `try_release`, with the lifetime looked at. -/
def tryRelease (policy : ResetPolicy) (session : Session) (expired : Bool) :
    Session × Effects :=
  let kept : Session := { session with phase := .waiting }
  if session.unsyncedBatch then (kept, {})
  else
    match session.held with
    | none => (kept, {})
    | some conn =>
      let conn :=
        if expired then { conn with link := conn.link.setFlag .lifetimeExpired } else conn
      match conn.link.canCheckIn with
      | .ok () | .error .resetRequired => resetAndRelease policy session conn
      | .error (.disqualified _) => ({ session with held := none, phase := .waiting }, {})
      | .error _ => ({ session with held := some conn, phase := .waiting }, {})

/-- The end of the reset ladder: the scrubbed link is checked in if the gate lets it. -/
def ladderDone (session : Session) (conn : Conn) (ending : Bool) : Session × Effects :=
  let scrubbed := conn.link.resetCompleted
  let link := if ending then scrubbed.clearPin else scrubbed
  ({ session with held := none, phase := if ending then .ended else .waiting },
    match link.canCheckIn with
    | .ok () => { parked := some { conn with link := link }.checkedIn }
    | .error _ => {})

/-- `finish`, up to the first statement of the ladder. -/
def finish (policy : ResetPolicy) (session : Session) : Session :=
  let gone : Session := { session with held := none, phase := .ended }
  match session.held with
  | none => gone
  | some conn =>
    match conn.link.pin with
    | none => gone
    | some reason =>
      let plan := plan policy conn.link.taint (some reason) ⟨conn.link.txStatus.getD .idle, true⟩
      if plan.disposition ≠ .reuse then gone
      else
        match conn.link.apply .resetStarted with
        | some link =>
          { session with
            held := some { conn with link := link }
            phase := .ladder plan.steps true }
        | none => gone

end Session

/-- What a session's task does next. -/
inductive Turn
  /-- The `select!` takes an epoch change. -/
  | epochChanged (gate : Held)
  | fromClient
  | fromBackend
  | frame (message : FrontendMessage Bytes) (gate : Held)
  | opaqueChunk (chunk : Chunk) (gate : Held)
  | clientPumped
  /-- A fresh link is open; its start-up may have reported an epoch. -/
  | opened (id : LinkId) (reported : Option Nat)
  | probed (answer : Option Nat)
  | probeFailed
  | judge
  /-- The statement that brings the link in line with the client, if they differ. -/
  | sync (sql : Option Bytes)
  | internalFrame (message : BackendMessage)
  /-- The backend is gone during an internal statement. -/
  | internalLost
  | dispatch (found : Option (PreparedStatement × ServerAction)) (pin : Option PinReason)
      (taints : TaintSet)
  | dispatchChunk (mayPin : Bool)
  | backendFrame (message : BackendMessage)
  | backendPumped (boundary : Bool) (gate : Held)
  | release (expired : Bool)
  | ladderStep
  | ladderDone
  /-- A deadline, a refused pin or a vanished backend: the link is closed and the loop returns. -/
  | abandon
  /-- The client is gone, the process stops, or a handler returns an error. -/
  | fail
  | finish

namespace Session

/-- The messages `pump_client` does not pass on. -/
def leaves : FrontendMessage Bytes → Bool
  | .terminate | .passwordMessage | .saslInitialResponse | .saslResponse | .gssResponse => true
  | _ => false

/-- Whether a session's loop can return here with its link still held. -/
def mayFail (session : Session) (fence : EpochFence) : Bool :=
  match session.phase with
  | .waiting => session.held.isNone || decide (session.seen = fence.generation)
  | .client | .backend _ | .acquiring _ | .opening _ | .verifying _ _ _ | .judging _ _ _
  | .synchronising _ | .dispatching _ | .releasing => true
  | .internal _ _ | .ladder _ _ | .finishing | .ended => false

def turn (config : Config) (fence : EpochFence) (session : Session) :
    Turn → Option (Session × Effects)
  | .epochChanged gate =>
    if session.phase = .waiting ∧ session.seen ≠ fence.generation then
      let noticed := { session with seen := fence.generation }
      let fenced :=
        if noticed.superseded fence then noticed.applyFence fence gate else (noticed, true)
      some ({ fenced.1 with phase := if fenced.2 then .waiting else .finishing }, {})
    else none
  | .fromClient =>
    if session.phase = .waiting ∧ session.seen = fence.generation then
      some ({ session with phase := .client }, {})
    else none
  | .fromBackend =>
    if session.phase = .waiting ∧ session.seen = fence.generation ∧ session.held.isSome then
      some ({ session with phase := .backend false }, {})
    else none
  | .frame message gate =>
    match session.phase with
    | .client =>
      -- A `Terminate` ends the loop, an authentication message is an error.
      if leaves message then some ({ session with phase := .finishing }, {})
      else some (passOn (session.admission fence gate) (.message message), {})
    | _ => none
  | .opaqueChunk chunk gate =>
    match session.phase with
    | .client => some (passOn (session.admitOpaque fence gate) (.chunk chunk), {})
    | _ => none
  | .clientPumped =>
    match session.phase with
    | .client => some ({ session with phase := .waiting }, {})
    | _ => none
  | .opened id reported =>
    match session.phase with
    | .opening out =>
      let after := reported.elim fence fun epoch => (fence.observe .verify epoch).2
      (Conn.opened id (reported.getD after.current)).map fun conn =>
        ({ session with phase := .verifying out conn true }, { observed := reported })
    | _ => none
  | .probed answer =>
    match session.phase with
    | .verifying out conn fresh =>
      let asked := if config.runtime.verifyAtCheckout then answer else none
      match (config.runtime.tagEpoch fence asked).2 with
      | some epoch =>
        some ({ session with phase := .judging out { conn with epoch := epoch } fresh },
          { observed := asked })
      | none => some (session.refused out fresh, {})
    | _ => none
  | .probeFailed =>
    match session.phase with
    | .verifying out _ fresh =>
      if config.runtime.verifyAtCheckout then some (session.refused out fresh, {}) else none
    | _ => none
  | .judge =>
    match session.phase with
    | .judging out conn fresh =>
      if FenceRuntime.admits fence conn.epoch then
        some ({ session with held := some conn, phase := .synchronising out },
          { handed := some conn.epoch })
      else some (session.refused out fresh, {})
    | _ => none
  | .sync sql =>
    match session.phase, session.held with
    | .synchronising out, some conn =>
      match sql with
      | none => some ({ session with phase := .dispatching out }, {})
      | some sql => some (session.runInternal conn sql (.sync out))
    | _, _ => none
  | .internalFrame message =>
    match session.phase, session.held with
    | .internal purpose failed, some conn =>
      match (⟨conn.link, session.unsyncedBatch⟩ : Loop Unit).absorbBackend message with
      | .error _ => some (session.internalReturned purpose true, {})
      | .ok (_, loop) =>
        let failed := failed || decide (message = .errorResponse)
        let heard := { session with held := some { conn with link := loop.link } }
        match message with
        | .readyForQuery _ => some (heard.internalReturned purpose failed, {})
        | _ => some ({ heard with phase := .internal purpose failed }, {})
    | _, _ => none
  | .internalLost =>
    match session.phase with
    | .internal purpose _ => some (session.internalReturned purpose true, {})
    | _ => none
  | .dispatch found pin taints =>
    match session.phase, session.held with
    | .dispatching (.message message), some conn =>
      let scanned := { conn with link := onSql conn.link message pin taints }
      let dispatched := session.dispatchAll scanned (onFrontend message found)
      some ({ dispatched.1 with held := some dispatched.2, phase := .client },
        appends conn (onFrontend message found))
    | _, _ => none
  | .dispatchChunk mayPin =>
    match session.phase, session.held with
    | .dispatching (.chunk chunk), some conn =>
      match session.noteChunk conn chunk mayPin with
      | some (noted, conn') =>
        some ({ noted with held := some conn', phase := .client }, { appended := [conn.epoch] })
      | none => some ({ session with phase := .finishing }, {})
    | _, _ => none
  | .backendFrame message =>
    match session.phase, session.held with
    | .backend sawReady, some conn =>
      let reaction := (conn.link.observeBackend message).1
      match (⟨conn.link, session.unsyncedBatch⟩ : Loop Unit).pumpBackend message, reaction with
      | .ok (_, loop), .ok reaction =>
        let ready :=
          match message with
          | .readyForQuery _ => true
          | _ => sawReady
        some ({ session with
            held := some { conn with link := loop.link }
            unsyncedBatch := loop.unsyncedBatch
            witness :=
              if reaction.disposition.forwards then session.witness.observeBackend message
              else session.witness
            phase := .backend ready }, {})
      | _, _ => some ({ session with phase := .finishing }, {})
    | _, _ => none
  | .backendPumped boundary gate =>
    match session.phase with
    | .backend sawReady =>
      let drained :=
        if sawReady && session.drainingFence && boundary then session.finishFenceDrain gate
        else (session, true)
      some ({ drained.1 with
        phase :=
          if !drained.2 then .finishing
          else if sawReady && boundary then .releasing
          else .waiting }, {})
    | _ => none
  | .release expired =>
    match session.phase with
    | .releasing => some (session.tryRelease config.resetPolicy expired)
    | _ => none
  | .ladderStep =>
    match session.phase, session.held with
    | .ladder (step :: rest) ending, some conn =>
      some (session.runInternal conn (ascii step.sql) (.reset rest ending))
    | _, _ => none
  | .ladderDone =>
    match session.phase, session.held with
    | .ladder [] ending, some conn => some (session.ladderDone conn ending)
    | _, _ => none
  | .abandon =>
    match session.phase with
    | .waiting => some ({ session with held := none, phase := .finishing }, {})
    | _ => none
  | .fail =>
    if session.mayFail fence then some ({ session with phase := .finishing }, {}) else none
  | .finish =>
    match session.phase with
    | .finishing => some (session.finish config.resetPolicy, {})
    | _ => none

/-- `attach` has claimed a slot, with the link that was parked in it or without one. -/
def claimed (session : Session) (parked : Option Conn) : Option Session :=
  match session.phase with
  | .acquiring out =>
    match parked.bind fun conn => (conn.link.apply .assigned).map fun link => (conn, link) with
    | some (conn, link) =>
      some { session with phase := .verifying out { conn with link := link } false }
    | none => some { session with phase := .opening out }
  | _ => none

end Session

/-- A write to a link's output. -/
structure Append where
  openedUnder : Nat
  current : Nat
  deriving DecidableEq, Repr

/-- A checkout that was handed over, with the fence at its verification. -/
structure Handed where
  verified : Nat
  current : Nat
  deriving DecidableEq, Repr

structure World where
  fence : EpochFence
  parked : OrderedMap LinkId Conn
  sessions : OrderedMap SessionId Session
  appended : List Append
  handed : List Handed

inductive Step
  /-- An epoch from the watch, from the promoting agent or from the periodic probe. -/
  | observe (source : EpochSource) (epoch : Nat)
  | connect (session : SessionId)
  /-- The sweeper, with the epoch it read before it took the lock. -/
  | severSuperseded (current : Nat)
  /-- A parked link is reaped or closed with its slot. -/
  | closeParked (link : LinkId)
  /-- `attach`, with the epoch it read before it took the lock. -/
  | claim (session : SessionId) (current : Nat) (link : Option LinkId)
  | turn (session : SessionId) (turn : Turn)

namespace World

def initial : World := ⟨EpochFence.new, OrderedMap.empty, OrderedMap.empty, [], []⟩

/-- Removes every parked link below an epoch. -/
def takeSuperseded (w : World) (current : Nat) : World :=
  { w with parked := w.parked.filter fun _ conn => !decide (conn.epoch < current) }

def put (w : World) (id : SessionId) (session : Session) : World :=
  { w with sessions := w.sessions.insert id session }

def affect (w : World) (effects : Effects) : World :=
  { w with
    fence := effects.observed.elim w.fence fun epoch => (w.fence.observe .verify epoch).2
    parked := effects.parked.elim w.parked fun conn => w.parked.insert conn.id conn
    appended := w.appended ++ effects.appended.map fun epoch => ⟨epoch, w.fence.current⟩
    handed := w.handed ++ effects.handed.toList.map fun epoch => ⟨epoch, w.fence.current⟩ }

def next (config : Config) (w : World) : Step → Option World
  | .observe source epoch => some { w with fence := (w.fence.observe source epoch).2 }
  | .connect id =>
    match w.sessions.get? id with
    | none => some (w.put id (Session.new w.fence))
    | some _ => none
  | .severSuperseded current =>
    if current ≤ w.fence.current then some (w.takeSuperseded current) else none
  | .closeParked link => some { w with parked := w.parked.erase link }
  | .claim id current link =>
    if current ≤ w.fence.current then
      (w.sessions.get? id).bind fun session =>
        let swept := w.takeSuperseded current
        (session.claimed (link.bind swept.parked.get?)).map fun session =>
          { swept with parked := link.elim swept.parked swept.parked.erase }.put id session
    else none
  | .turn id turn =>
    (w.sessions.get? id).bind fun session =>
      (session.turn config w.fence turn).map fun done => (w.put id done.1).affect done.2

/-- Runs of one fence, its pool manager and its sessions. -/
def system (config : Config) : System World Step where
  init := fun w => w = initial
  step := fun w step w' => w.next config step = some w'

end World

end Fencing
end PgElastic.Proxy
