import PgElastic.Pool.Backend
import PgElastic.Pool.ServerLink
import PgElastic.Pool.Statements

/-!
# The transaction loop's two legs

What the loop of `pgelastic-proxy` does with one message of the client and with one message
of the backend while it holds a link: which messages of its own it writes around the
client's, how each is recorded on the link, and what reaches the client.

The answer of the link's statement table is an argument here, so that results about the
link hold whatever the table says.  The epoch fence, the tripwires' reading of SQL text and
the transaction witness are modelled elsewhere or act on the link through its own setters.
-/

namespace PgElastic.Proxy

open Pool Wire List

/-- One call of `dispatch_from`. -/
structure Dispatch where
  message : FrontendMessage Bytes
  relay : Relay
  origin : Origin
  deriving DecidableEq, Repr

namespace Dispatch

/-- A message of the client's own, sent as it is. -/
def client (message : FrontendMessage Bytes) : Dispatch := ⟨message, .forward, .client⟩

def closeStatement (name : Bytes) : Dispatch := ⟨.close .statement name, .skip, .pool⟩

/-- What a dispatch puts on the wire; a faked request is never sent. -/
def input {I : Type} (tag : I) (dispatch : Dispatch) : Option (Input I) :=
  if dispatch.relay.disposition = .fake then none
  else
    match RequestKind.fromFrontend dispatch.message with
    | some kind => some (.request ⟨tag, kind⟩)
    | none =>
      match dispatch.message with
      | .copyData => some .copyData
      | .copyDone => some .copyDone
      | .copyFail => some .copyFail
      | _ => none

end Dispatch

/-- A named `Parse` of the client: answered by the pool, or sent under the pool's name. -/
def onParse (name query : Bytes) (paramTypes : List UInt32) : ServerAction → List Dispatch
  | .ready => [⟨.parse name query paramTypes, .fake .parseComplete, .client⟩]
  | .parse minted => [⟨.parse minted query paramTypes, .forward, .pool⟩]
  | .evictThenParse evict minted =>
    [Dispatch.closeStatement evict, ⟨.parse minted query paramTypes, .forward, .pool⟩]

/-- Puts a statement on the link, with every injected response swallowed. -/
def ensureParsed (statement : PreparedStatement) : ServerAction → List Dispatch
  | .ready => []
  | .parse minted =>
    [⟨.parse minted statement.key.query statement.key.paramTypes, .skip, .pool⟩]
  | .evictThenParse evict minted =>
    [Dispatch.closeStatement evict,
      ⟨.parse minted statement.key.query statement.key.paramTypes, .skip, .pool⟩]

/-- Keeps a name the session never prepared out of the pool's own namespace. -/
def reserveNamespace (name : Bytes) : Bytes :=
  if StatementName.isGenerated name then StatementName.escaped name else name

/-- Everything `on_frontend` dispatches for one message of the client.  `found` is the
statement its name stands for, with what the link's table answered. -/
def onFrontend (message : FrontendMessage Bytes)
    (found : Option (PreparedStatement × ServerAction)) : List Dispatch :=
  match message with
  | .parse name query paramTypes =>
    if name.isEmpty then [.client message]
    else
      match found with
      | some (_, action) => onParse name query paramTypes action
      | none => []
  | .bind portal statement =>
    match found with
    | some (prepared, action) =>
      ensureParsed prepared action ++ [.client (.bind portal prepared.name)]
    | none => [.client (.bind portal (reserveNamespace statement))]
  | .describe .statement name =>
    match found with
    | some (prepared, action) =>
      ensureParsed prepared action ++ [.client (.describe .statement prepared.name)]
    | none => [.client (.describe .statement (reserveNamespace name))]
  | .close .statement name => [⟨.close .statement name, .fake .closeComplete, .client⟩]
  | other => [.client other]

/-- What the loop itself remembers beside the link. -/
structure Loop (I : Type) where
  link : ServerLink I
  unsyncedBatch : Bool
  deriving DecidableEq, Repr

namespace Loop

variable {I : Type}

/-- Records a message against the link; the answers it makes ready go to the client. -/
def dispatchFrom (loop : Loop I) (tag : I) (dispatch : Dispatch) :
    List BackendMessage × Loop I :=
  let unsynced :=
    match dispatch.origin, RequestKind.fromFrontend dispatch.message with
    | .client, some kind => !kind.terminatesBatch
    | _, _ => loop.unsyncedBatch
  let observed :=
    loop.link.observeFrontend tag dispatch.message dispatch.relay dispatch.origin
  (observed.takeReadyFakes.1, ⟨observed.takeReadyFakes.2, unsynced⟩)

/-- Whether a message ends the batch the loop counts as unsynced; the queue is asked after
the message has been matched. -/
def endsUnsynced (message : BackendMessage) (link : ServerLink I) : Bool :=
  match message with
  | .readyForQuery _ => link.outstanding.isEmpty
  | _ => false

/-- One message of the backend, in `pump_backend`. -/
def pumpBackend (loop : Loop I) (message : BackendMessage) :
    Except OutstandingError (List BackendMessage × Loop I) :=
  let observed := loop.link.observeBackend message
  match observed.1 with
  | .error error => .error error
  | .ok reaction =>
    let relayed := if reaction.disposition.forwards then [message] else []
    let ready := observed.2.takeReadyFakes
    .ok (relayed ++ ready.1,
      ⟨ready.2, if endsUnsynced message ready.2 then false else loop.unsyncedBatch⟩)

/-- One message of the backend while a statement of the pool's own runs, in
`run_internal`: the faked answers are left for later. -/
def absorbBackend (loop : Loop I) (message : BackendMessage) :
    Except OutstandingError (List BackendMessage × Loop I) :=
  let observed := loop.link.observeBackend message
  match observed.1 with
  | .error error => .error error
  | .ok reaction =>
    .ok (if reaction.disposition.forwards then [message] else [], { loop with link := observed.2 })

end Loop

/-! ### What is dispatched -/

/-- What every dispatch of the loop keeps to: only extended-query messages are answered by
the pool or written by it, and only the client's own are answered. -/
structure Dispatch.Sound (dispatch : Dispatch) : Prop where
  faked : dispatch.relay.disposition = .fake →
    dispatch.origin = .client ∧ ∃ kind, RequestKind.fromFrontend dispatch.message = some kind ∧
      kind.terminatesBatch = false
  pooled : dispatch.origin = .pool →
    ∃ kind, RequestKind.fromFrontend dispatch.message = some kind ∧ kind.terminatesBatch = false

lemma Dispatch.Sound.client (message : FrontendMessage Bytes) :
    (Dispatch.client message).Sound where
  faked := by
    intro h
    cases h
  pooled := by
    intro h
    cases h

variable {message : FrontendMessage Bytes} {dispatch : Dispatch} {action : ServerAction}
  {kind : RequestKind}

lemma Dispatch.Sound.pool {relay : Relay} (hkind : RequestKind.fromFrontend message = some kind)
    (hextended : kind.terminatesBatch = false) (hrelay : relay.disposition ≠ .fake) :
    (Dispatch.mk message relay .pool).Sound where
  faked := fun h => absurd h hrelay
  pooled := fun _ => ⟨kind, hkind, hextended⟩

lemma Dispatch.Sound.fake {response : BackendMessage}
    (hkind : RequestKind.fromFrontend message = some kind)
    (hextended : kind.terminatesBatch = false) :
    (Dispatch.mk message (.fake response) .client).Sound where
  faked := fun _ => ⟨rfl, kind, hkind, hextended⟩
  pooled := by
    intro h
    cases h

lemma sound_of_onParse {name query : Bytes} {paramTypes : List UInt32}
    (h : dispatch ∈ onParse name query paramTypes action) : dispatch.Sound := by
  have hparse : ∀ minted, (Dispatch.mk (.parse minted query paramTypes) .forward .pool).Sound :=
    fun _ => .pool rfl rfl (by decide)
  cases action with
  | ready =>
    obtain rfl := mem_singleton.mp h
    exact .fake rfl rfl
  | parse minted =>
    obtain rfl := mem_singleton.mp h
    exact hparse minted
  | evictThenParse evict minted =>
    rcases mem_cons.mp h with rfl | hlast
    · exact .pool rfl rfl (by decide)
    · obtain rfl := mem_singleton.mp hlast
      exact hparse minted

lemma sound_of_ensureParsed {statement : PreparedStatement}
    (h : dispatch ∈ ensureParsed statement action) : dispatch.Sound := by
  have hparse : ∀ minted, (Dispatch.mk
      (.parse minted statement.key.query statement.key.paramTypes) .skip .pool).Sound :=
    fun _ => .pool rfl rfl (by decide)
  cases action with
  | ready => cases h
  | parse minted =>
    obtain rfl := mem_singleton.mp h
    exact hparse minted
  | evictThenParse evict minted =>
    rcases mem_cons.mp h with rfl | hlast
    · exact .pool rfl rfl (by decide)
    · obtain rfl := mem_singleton.mp hlast
      exact hparse minted

variable {found : Option (PreparedStatement × ServerAction)}

lemma sound_of_onFrontend (h : dispatch ∈ onFrontend message found) : dispatch.Sound := by
  -- Behind the statements the pool injects comes one message of the client's own.
  have hbehind {prepared action} {own : FrontendMessage Bytes} :
      dispatch ∈ ensureParsed prepared action ++ [.client own] → dispatch.Sound := by
    intro hmem
    rcases mem_append.mp hmem with hinjected | hown
    · exact sound_of_ensureParsed hinjected
    · obtain rfl := mem_singleton.mp hown
      exact .client own
  have halone : ∀ {own : FrontendMessage Bytes},
      dispatch ∈ [Dispatch.client own] → dispatch.Sound := by
    intro own hmem
    obtain rfl := mem_singleton.mp hmem
    exact .client own
  unfold onFrontend at h
  split at h
  · split at h
    · exact halone h
    · split at h
      · exact sound_of_onParse h
      · cases h
  · split at h
    · exact hbehind h
    · exact halone h
  · split at h
    · exact hbehind h
    · exact halone h
  · obtain rfl := mem_singleton.mp h
    exact .fake rfl rfl
  · exact halone h

/-- Whatever is dispatched and is no request is the client's own message. -/
lemma request_or_own_of_onFrontend (h : dispatch ∈ onFrontend message found) :
    (∃ kind, RequestKind.fromFrontend dispatch.message = some kind) ∨
      dispatch.message = message := by
  have hinjected {prepared : PreparedStatement} {action : ServerAction} :
      dispatch ∈ ensureParsed prepared action →
        ∃ kind, RequestKind.fromFrontend dispatch.message = some kind := by
    intro hmem
    cases action with
    | ready => cases hmem
    | parse minted =>
      obtain rfl := mem_singleton.mp hmem
      exact ⟨_, rfl⟩
    | evictThenParse evict minted =>
      rcases mem_cons.mp hmem with rfl | hlast
      · exact ⟨_, rfl⟩
      · obtain rfl := mem_singleton.mp hlast
        exact ⟨_, rfl⟩
  cases message with
  | parse name query paramTypes =>
    left
    simp only [onFrontend] at h
    split at h
    · obtain rfl := mem_singleton.mp h
      exact ⟨_, rfl⟩
    split at h
    · rename_i prepared action
      cases action with
      | ready | parse minted =>
        obtain rfl := mem_singleton.mp h
        exact ⟨_, rfl⟩
      | evictThenParse evict minted =>
        rcases mem_cons.mp h with rfl | hlast
        · exact ⟨_, rfl⟩
        · obtain rfl := mem_singleton.mp hlast
          exact ⟨_, rfl⟩
    · cases h
  | bind portal statement =>
    left
    simp only [onFrontend] at h
    split at h
    · rcases mem_append.mp h with hpool | hown
      · exact hinjected hpool
      · obtain rfl := mem_singleton.mp hown
        exact ⟨_, rfl⟩
    · obtain rfl := mem_singleton.mp h
      exact ⟨_, rfl⟩
  | describe target name =>
    cases target with
    | statement =>
      left
      simp only [onFrontend] at h
      split at h
      · rcases mem_append.mp h with hpool | hown
        · exact hinjected hpool
        · obtain rfl := mem_singleton.mp hown
          exact ⟨_, rfl⟩
      · obtain rfl := mem_singleton.mp h
        exact ⟨_, rfl⟩
    | portal =>
      obtain rfl := mem_singleton.mp h
      exact .inr rfl
  | close target name =>
    cases target with
    | statement | portal =>
      obtain rfl := mem_singleton.mp h
      exact .inr rfl
  | _ =>
    obtain rfl := mem_singleton.mp h
    exact .inr rfl

/-! ### Messages above the inline limit -/

variable {I : Type}

/-- What passes a session: a message that is dispatched, or one of the backend's with the
length of its body. -/
inductive Passing (I : Type)
  | sent (tag : I) (dispatch : Dispatch)
  | received (message : BackendMessage) (length : Nat)

namespace Loop

/-- One item, with the backend's messages read through `next_output`: a body above the limit
goes to the client unread. -/
def pass (limit : Nat) (loop : Loop I) : Passing I → Except OutstandingError (Loop I)
  | .sent tag dispatch => .ok (loop.dispatchFrom tag dispatch).2
  | .received message length =>
    if max limit 1 < length then .ok loop else (loop.pumpBackend message).map (·.2)

def passAll (limit : Nat) (loop : Loop I) (items : List (Passing I)) :
    Except OutstandingError (Loop I) :=
  items.foldlM (pass limit) loop

/-- The messages the observers do nothing with. -/
def inert : BackendMessage → Bool
  | .authentication | .backendKeyData | .dataRow | .noticeResponse | .notificationResponse
  | .parameterDescription | .copyData | .negotiateProtocolVersion | .functionCallResponse => true
  | _ => false

/-- No answer of the pool's own waits at the head of the queue. -/
def Settled (loop : Loop I) : Prop :=
  loop.link.outstanding.entries.dropWhile Entry.isFake = loop.link.outstanding.entries

variable {loop after : Loop I} {item : Passing I}

lemma settled_take (link : ServerLink I) (unsynced : Bool) :
    Settled ⟨link.takeReadyFakes.2, unsynced⟩ := by
  simp [Settled, ServerLink.takeReadyFakes, OutstandingQueue.takeReadyFakes, dropWhile_idempotent]

lemma Settled.pass (h : loop.Settled) {limit : Nat} (hpass : loop.pass limit item = .ok after) :
    after.Settled := by
  cases item with
  | sent tag dispatch =>
    cases hpass
    exact settled_take _ _
  | received message length =>
    simp only [Loop.pass, pumpBackend] at hpass
    split at hpass
    · cases hpass
      exact h
    split at hpass
    · cases hpass
    · cases hpass
      exact settled_take _ _

lemma pumpBackend_inert (h : loop.Settled) {message : BackendMessage}
    (hinert : inert message) : (loop.pumpBackend message).map (·.2) = .ok loop := by
  obtain ⟨reaction, hobserved⟩ :
      ∃ reaction, loop.link.observeBackend message = (.ok reaction, loop.link) := by
    unfold ServerLink.observeBackend
    split <;> cases message <;> first | exact ⟨_, rfl⟩ | cases hinert
  have hends : endsUnsynced message loop.link = false := by
    cases message <;> first | rfl | cases hinert
  have htake : loop.link.takeReadyFakes.2 = loop.link := by
    rw [ServerLink.takeReadyFakes, OutstandingQueue.takeReadyFakes, h]
  simp [pumpBackend, hobserved, htake, hends, Except.map]

/-- Two limits lead to the same link, at every boundary of a stream whose messages above the
smaller one are ones the observers do nothing with. -/
theorem inline_limits_agree (limit other : Nat) (items : List (Passing I)) (loop : Loop I)
    (hfresh : loop.link.outstanding.entries = [])
    (hlarge : ∀ message length, .received message length ∈ items →
      max (min limit other) 1 < length → inert message = true) :
    loop.passAll limit items = loop.passAll other items := by
  have hsettled : loop.Settled := by simp [Settled, hfresh]
  clear hfresh
  induction items generalizing loop with
  | nil => rfl
  | cons item rest ih =>
    have hstep : loop.pass limit item = loop.pass other item := by
      cases item with
      | sent tag dispatch => rfl
      | received message length =>
        have hmessage := hlarge message length mem_cons_self
        simp only [Loop.pass]
        split <;> split <;> first | rfl | skip
        · exact (pumpBackend_inert hsettled (hmessage (by omega))).symm
        · exact pumpBackend_inert hsettled (hmessage (by omega))
    simp only [passAll, foldlM_cons, hstep]
    cases hpass : loop.pass other item with
    | error e => rfl
    | ok after =>
      exact ih after (fun m n hm => hlarge m n (mem_cons_of_mem _ hm)) (hsettled.pass hpass)

/-- A link without requests. -/
def assigned : Loop Unit := ⟨{ ServerLink.new with state := .active, txStatus := some .idle }, false⟩

/-- A batch that describes a portal, and a row description of the given length. -/
def described (length : Nat) : List (Passing Unit) :=
  [.sent () (.client (.describe .portal [])), .sent () (.client .sync),
    .received .rowDescription length]

theorem inline_limits_agree_described :
    assigned.passAll 65536 (described 60000) = assigned.passAll 131072 (described 60000) := by
  refine inline_limits_agree _ _ _ _ rfl ?_
  intro message length hmem hlong
  simp only [described, mem_cons, not_mem_nil, or_false, reduceCtorEq, false_or,
    Passing.received.injEq] at hmem
  omega

/-- The description of a wide row is streamed past the queue under the default limit, and
its request stays outstanding; under a larger limit it is answered. -/
theorem large_rowDescription_is_not_observed :
    (assigned.passAll 65536 (described 100000)).toOption.map (·.link.outstanding.len) = some 2 ∧
      (assigned.passAll 131072 (described 100000)).toOption.map (·.link.outstanding.len) =
        some 1 := by
  decide

end Loop

end PgElastic.Proxy
