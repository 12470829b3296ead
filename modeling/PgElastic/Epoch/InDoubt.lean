import PgElastic.Epoch.Policy

/-!
# Unanswered commits are in doubt

The witness keeps, incrementally, what the history of observed messages says: the kind
behind every statement and portal name, and whether the open transaction has written.
From there on a request that can have committed a write stays `CommitInDoubt` until
something answers it, whatever else is forwarded or received in between.
-/

namespace PgElastic.Epoch

open Library Wire List History Kind OrderedMap

variable {N : Type} [LinearOrder N]

/-! ### Folding a batch -/

namespace Kind

lemma rank_le_max_left (left right : Kind) : left.rank ≤ (left.max right).rank := by
  unfold max
  split <;> omega

lemma rank_le_max_right (left right : Kind) : right.rank ≤ (left.max right).rank := by
  unfold max
  split <;> omega

/-- The fold of a batch is at least as undecidable as each of its statements. -/
lemma rank_le_foldl_max (kinds : List Kind) (start : Kind) :
    start.rank ≤ (kinds.foldl max start).rank ∧
      ∀ kind ∈ kinds, kind.rank ≤ (kinds.foldl max start).rank := by
  induction kinds generalizing start with
  | nil => simp
  | cons head rest ih =>
    obtain ⟨hstart, hrest⟩ := ih (start.max head)
    have hleft := rank_le_max_left start head
    have hright := rank_le_max_right start head
    rw [foldl_cons]
    constructor
    · omega
    intro kind hkind
    rcases mem_cons.mp hkind with rfl | hkind
    · omega
    · exact hrest kind hkind

/-- The fold of a batch is one of its statements, or where it started. -/
lemma foldl_max_mem (kinds : List Kind) (start : Kind) :
    kinds.foldl max start ∈ start :: kinds := by
  induction kinds generalizing start with
  | nil => simp
  | cons head rest ih =>
    rw [foldl_cons]
    have hmax : start.max head = start ∨ start.max head = head := by
      unfold max
      split
      · exact .inr rfl
      · exact .inl rfl
    rcases mem_cons.mp (ih (start.max head)) with hfold | hfold
    · rw [hfold]
      rcases hmax with hmax | hmax <;> simp [hmax]
    · exact mem_cons_of_mem _ (mem_cons_of_mem _ hfold)

end Kind

namespace TransactionWitness

/-- The loop over a simple query's statements: the flag records a write anywhere in the
batch, and the kind is the maximum. -/
lemma foldl_foldStatement (batch : List (List UInt8)) (wrote : Bool) (kind : Kind) :
    batch.foldl foldStatement (wrote, kind) = (wrote || (batch.map classify).contains .write,
        (batch.map classify).foldl max kind) := by
  induction batch generalizing wrote kind with
  | nil => simp
  | cons statement rest ih =>
    rw [foldl_cons, foldStatement, ih, map_cons, foldl_cons, contains_cons, Bool.or_assoc]
    congr 2
    rw [Bool.beq_comm]

/-! ### The witness agrees with the history -/

lemma statements_after (statement : N) (past : List (Event N)) :
    (after past).statements.get? statement = statementKind statement past := by
  induction past with
  | nil => rfl
  | cons event past ih =>
    cases event with
    | front message =>
      cases message with
      | parse name query =>
        change ((after past).statements.insert name (classify query)).get? statement = _
        rw [get?_insert, ih]
        rfl
      | _ => exact ih
    | back message =>
      cases message with
      | readyForQuery status => cases status <;> exact ih
      | commandComplete | emptyQueryResponse | portalSuspended =>
        change (if (after past).pendingBatch then after past
          else (after past).retire).statements.get? statement = _
        split <;> exact ih
      | _ => exact ih

lemma portals_after (portal : N) (past : List (Event N)) :
    (after past).portals.get? portal = portalKind portal past := by
  induction past with
  | nil => rfl
  | cons event past ih =>
    cases event with
    | front message =>
      cases message with
      | bind name statement =>
        change ((after past).portals.insert name
          (((after past).statements.get? statement).getD .write)).get? portal = _
        rw [get?_insert, ih, statements_after]
        rfl
      | _ => exact ih
    | back message =>
      cases message with
      | readyForQuery status =>
        cases status with
        | idle => rfl
        | transaction | failed => exact ih
      | commandComplete | emptyQueryResponse | portalSuspended =>
        change (if (after past).pendingBatch then after past
          else (after past).retire).portals.get? portal = _
        split <;> exact ih
      | _ => exact ih

/-- What a forwarded message leaves in the flag. -/
lemma wrote_observeFrontend (past : List (Event N)) (message : FrontendMessage N) :
    ((after past).observeFrontend message).wrote =
      ((after past).wrote || (requestKinds past message).contains .write) := by
  cases message with
  | query sql =>
    simp only [observeFrontend, beginRequest, foldl_foldStatement, requestKinds]
    -- a fold that starts at `read` is a write only when a write stands in the batch
    generalize (splitStatements sql).map classify = kinds
    cases hfold : (kinds.foldl max .read == .write) with
    | false => rw [Bool.or_false]
    | true =>
      have hmem := foldl_max_mem kinds .read
      rw [eq_of_beq hfold] at hmem
      have hwrite : write ∈ kinds := by simpa using hmem
      simp [hwrite]
  | execute portal =>
    simp only [observeFrontend, beginRequest, requestKinds, portals_after]
    rw [contains_cons, contains_nil, Bool.or_false, Bool.beq_comm]
  | functionCall => rfl
  | _ => exact (Bool.or_false _).symm

lemma wrote_after (past : List (Event N)) : (after past).wrote = wroteSinceIdle past := by
  induction past with
  | nil => rfl
  | cons event past ih =>
    cases event with
    | front message =>
      change ((after past).observeFrontend message).wrote = _
      rw [wrote_observeFrontend, ih]
      rfl
    | back message =>
      cases message with
      | readyForQuery status =>
        cases status with
        | idle => rfl
        | transaction | failed => exact ih
      | commandComplete | emptyQueryResponse | portalSuspended =>
        change (if (after past).pendingBatch then after past
          else (after past).retire).wrote = _
        split <;> exact ih
      | _ => exact ih

lemma pendingKind_of_wrote (kind : Kind) : pendingKind kind true = kind := by
  cases kind <;> rfl

/-- A request of a transaction that has written is pending as its most undecidable
statement. -/
lemma pending_observeFrontend {past : List (Event N)} {message : FrontendMessage N}
    {kind : Kind} (hkind : kind ∈ requestKinds past message)
    (hwrote : ((after past).observeFrontend message).wrote) :
    ∃ pending, ((after past).observeFrontend message).pending = some pending ∧
      kind.rank ≤ pending.rank := by
  cases message with
  | query sql =>
    have hpending : ((after past).observeFrontend (.query sql)).pending =
        some (pendingKind (((splitStatements sql).map classify).foldl max .read)
          ((after past).observeFrontend (.query sql)).wrote) := by
      simp only [observeFrontend, beginRequest, foldl_foldStatement]
    rw [hpending, hwrote, pendingKind_of_wrote]
    exact ⟨_, rfl, (rank_le_foldl_max _ _).2 kind hkind⟩
  | execute portal =>
    have hpending : ((after past).observeFrontend (.execute portal)).pending =
        some (pendingKind ((portalKind portal past).getD .write)
          ((after past).observeFrontend (.execute portal)).wrote) := by
      simp only [observeFrontend, beginRequest, portals_after]
    rw [hpending, hwrote, pendingKind_of_wrote]
    have hrun := mem_singleton.mp hkind
    exact ⟨_, rfl, le_of_eq (congrArg rank hrun)⟩
  | functionCall =>
    have hrun := mem_singleton.mp hkind
    exact ⟨.write, rfl, le_of_eq (congrArg rank hrun)⟩
  | _ => cases hkind

end TransactionWitness

/-! ### What happens until the answer -/

/-- Whether a message is a simple query of several statements. -/
def isBatch : FrontendMessage N → Bool
  | .query sql => decide ((splitStatements sql).length > 1)
  | _ => false

namespace Event

/-- An event that forwards something for the backend to run. -/
def isRequest : Event N → Bool
  | .front (.query _) => true
  | .front (.execute _) => true
  | .front .functionCall => true
  | _ => false

/-- An event that answers a request: `ReadyForQuery`, an error, and for all but a query
of several statements also a completion. -/
def answers (request : FrontendMessage N) : Event N → Bool
  | .back (.readyForQuery _) => true
  | .back .errorResponse => true
  | .back .commandComplete => !isBatch request
  | .back .emptyQueryResponse => !isBatch request
  | .back .portalSuspended => !isBatch request
  | _ => false

end Event

namespace History

/-- A request that can have committed a write once it is forwarded: it runs a statement
that may write while the link reports `Idle`, so its own end commits it, or it runs an
explicit commit in a transaction that may have written. -/
def MayCommit (earlier : List (Event N)) (request : FrontendMessage N) : Prop :=
  (Kind.write ∈ requestKinds earlier request ∧ (reported earlier).getD .idle = .idle) ∨
    (Kind.commit ∈ requestKinds earlier request ∧
      (wroteSinceIdle earlier = true ∨ Kind.write ∈ requestKinds earlier request))

/-- Nothing after the request is another request, and nothing answers it. -/
def Unanswered (request : FrontendMessage N) (later : List (Event N)) : Prop :=
  ∀ event ∈ later, event.isRequest = false ∧ event.answers request = false

omit [LinearOrder N] in
lemma reported_of_unanswered {request : FrontendMessage N} {earlier : List (Event N)}
    {later : List (Event N)} :
    Unanswered request later →
      reported (later ++ .front request :: earlier) = reported earlier := by
  induction later with
  | nil =>
    intro _
    rfl
  | cons event later ih =>
    intro h
    have hlater : Unanswered request later := fun other hother => h other (mem_cons_of_mem _ hother)
    obtain ⟨-, hanswer⟩ := h event (mem_cons_self ..)
    cases event with
    | front message => exact ih hlater
    | back message =>
      cases message with
      | readyForQuery status => cases hanswer
      | _ => exact ih hlater

end History

namespace TransactionWitness

variable {request : FrontendMessage N}

variable {witness : TransactionWitness N}

/-- An event that is no request and no answer leaves the pending request alone. -/
lemma observe_unanswered {event : Event N} (hbatch : isBatch request → witness.pendingBatch)
    (hrequest : event.isRequest = false) (hanswer : event.answers request = false) :
    (witness.observe event).pending = witness.pending ∧
      (witness.observe event).pendingBatch = witness.pendingBatch := by
  cases event with
  | front message =>
    cases message with
    | query sql | execute portal | functionCall => cases hrequest
    | _ => exact ⟨rfl, rfl⟩
  | back message =>
    cases message with
    | readyForQuery status => cases hanswer
    | errorResponse => cases hanswer
    | commandComplete | emptyQueryResponse | portalSuspended =>
      have hkept : witness.pendingBatch := hbatch (by simpa [Event.answers] using hanswer)
      simp only [observe, observeBackend, hkept, if_true, and_self]
    | _ => exact ⟨rfl, rfl⟩

/-- Until a request is answered, it stays pending as it was forwarded. -/
lemma pending_of_unanswered (earlier : List (Event N)) {later : List (Event N)} :
    History.Unanswered request later → (after (later ++ .front request :: earlier)).pending =
          ((after earlier).observeFrontend request).pending ∧
        (isBatch request → (after (later ++ .front request :: earlier)).pendingBatch) := by
  induction later with
  | nil =>
    intro _
    refine ⟨rfl, fun h => ?_⟩
    cases request with
    | query sql => exact h
    | _ => cases h
  | cons event later ih =>
    intro h
    have hlater : History.Unanswered request later :=
      fun other hother => h other (mem_cons_of_mem _ hother)
    obtain ⟨hpending, hbatch⟩ := ih hlater
    obtain ⟨hrequest, hanswer⟩ := h event (mem_cons_self ..)
    obtain ⟨hsame, hsameBatch⟩ := observe_unanswered hbatch hrequest hanswer
    constructor
    · exact hsame.trans hpending
    · intro hquery
      exact hsameBatch.trans (hbatch hquery)

/-- A pending commit is in doubt whatever the link reports, and a pending write when the
link reports `Idle`. -/
lemma state_of_pending {pending kind : Kind}
    {status : TransactionStatus} (hpending : witness.pending = some pending)
    (hrank : kind.rank ≤ pending.rank) (h : kind = .commit ∨ (kind = .write ∧ status = .idle)) :
    witness.state status = .commitInDoubt := by
  unfold state
  rw [hpending]
  rcases h with rfl | ⟨rfl, rfl⟩
  · cases pending with
    | commit => rfl
    | read | write => simp [rank] at hrank
  · cases pending with
    | commit | write => rfl
    | read => simp [rank] at hrank

/-- A commit that was forwarded and not answered is in doubt: the session is classified
`CommitInDoubt`, and the fence tells its client that the outcome is unknown, whoever holds
the gate. -/
theorem unanswered_commit_is_in_doubt (earlier later : List (Event N))
    (request : FrontendMessage N) (hcommit : History.MayCommit earlier request)
    (hlater : History.Unanswered request later) :
    let history := later ++ .front request :: earlier
    (after history).state ((reported history).getD .idle) = .commitInDoubt ∧
      ∀ (link : Checkout) (current : Nat) (held : Held), link.txStatus = reported history →
          (applyFence (some link) current (after history) held).1 =
            .outcomeUnknown link.epoch current (after history).pendingText := by
  intro history
  have hwrote : ((after earlier).observeFrontend request).wrote = true := by
    rw [wrote_observeFrontend, wrote_after, Bool.or_eq_true, contains_iff_mem]
    rcases hcommit with ⟨hwrite, -⟩ | ⟨-, hwrote⟩
    · exact .inr hwrite
    · exact hwrote
  have hreported : reported history = reported earlier :=
    reported_of_unanswered hlater
  have hstate : (after history).state ((reported history).getD .idle) = .commitInDoubt := by
    rw [hreported]
    obtain ⟨hsame, -⟩ := pending_of_unanswered earlier hlater
    rcases hcommit with ⟨hkind, hidle⟩ | ⟨hkind, -⟩
    all_goals obtain ⟨pending, hpending, hrank⟩ := pending_observeFrontend hkind hwrote
    · exact state_of_pending (hsame.trans hpending) hrank (.inr ⟨rfl, hidle⟩)
    · exact state_of_pending (hsame.trans hpending) hrank (.inl rfl)
  refine ⟨hstate, ?_⟩
  intro link current held hlink
  unfold applyFence
  simp only [hlink, hstate, action]

/-- An insert whose transaction block is closed by a pipelined `COMMIT`: nothing has been
answered since the `COMMIT`. -/
theorem unanswered_commit_is_in_doubt_pipelined : let earlier : List (Event Nat) :=
      [.back .commandComplete, .front (.query (ascii "INSERT INTO t VALUES (1)")),
        .back (.readyForQuery .transaction), .front (.query (ascii "BEGIN"))]
    let history := Event.back .noticeResponse :: .front (.query (ascii "COMMIT")) :: earlier
    (after history).state .transaction = .commitInDoubt := by
  have h := unanswered_commit_is_in_doubt (N := Nat)
    [.back .commandComplete, .front (.query (ascii "INSERT INTO t VALUES (1)")),
      .back (.readyForQuery .transaction), .front (.query (ascii "BEGIN"))]
    [.back .noticeResponse] (.query (ascii "COMMIT"))
    (.inr (by decide)) (by simp [History.Unanswered, Event.isRequest, Event.answers])
  exact h.1

/-- `BEGIN`, `INSERT` and `COMMIT` are pipelined and only the `BEGIN` is answered.  Its answer has
retired the one pending request, which is the `COMMIT`: the session counts as idle in its
transaction, and the fence tells the client that it did not survive. -/
theorem pipelined_commit_is_forgotten :
    let begun : List (Event Nat) :=
      [.front (.query (ascii "INSERT INTO t VALUES (1)")), .front (.query (ascii "BEGIN"))]
    let history : List (Event Nat) := .back (.readyForQuery .transaction) ::
      .back .commandComplete :: .front (.query (ascii "COMMIT")) :: begun
    History.MayCommit begun (.query (ascii "COMMIT")) ∧
      reported history = some .transaction ∧
      (after history).state .transaction = .idleInTransaction ∧
      (applyFence (some ⟨1, some .transaction, false⟩) 2 (after history) .no).1 =
        .superseded 1 2 :=
  ⟨.inr (by decide), rfl, by decide, by decide⟩

/-! ### The text of a pending request -/

/-- A session forwards a message, or is given another link, with the statements that are on it. -/
inductive Naming (N : Type)
  | forwarded (message : FrontendMessage N)
  | assigned (onLink : List (N × List UInt8))

/-- The text the server has under a statement's name. -/
def served (statement : N) : List (Naming N) → Option (List UInt8)
  | [] => none
  | .assigned onLink :: _ => onLink.lookup statement
  | .forwarded (.parse name query _) :: past =>
    if statement = name then some query else served statement past
  | .forwarded (.close .statement name) :: past =>
    if statement = name then none else served statement past
  | _ :: past => served statement past

/-- The text of the statement a portal was bound from. -/
def boundText (portal : N) : List (Naming N) → Option (List UInt8)
  | [] => none
  | .assigned _ :: _ => none
  | .forwarded (.bind name statement) :: past =>
    if portal = name then served statement past else boundText portal past
  | .forwarded (.close .portal name) :: past =>
    if portal = name then none else boundText portal past
  | _ :: past => boundText portal past

/-- The text the session itself last parsed under a name, on whatever link, unless a portal of that
name has been bound from another statement since. -/
def ownText (statement : N) : List (Naming N) → Option (List UInt8)
  | [] => none
  | .forwarded (.parse name query _) :: past =>
    if statement = name then some query else ownText statement past
  | .forwarded (.bind portal bound) :: past =>
    if statement = portal ∧ bound ≠ statement then none else ownText statement past
  | _ :: past => ownText statement past

/-- The portal was bound while the server had under the statement's name what the session had parsed
under it, and no statement has been parsed under the portal's name since. -/
def Apart (portal : N) : List (Naming N) → Prop
  | [] => True
  | .forwarded (.parse name _ _) :: past => name ≠ portal ∧ Apart portal past
  | .forwarded (.bind name statement) :: past =>
    if portal = name then served statement past = ownText statement past else Apart portal past
  | _ :: past => Apart portal past

def witnessed : List (Naming N) → TransactionWitness N
  | [] => new
  | .forwarded message :: past => (witnessed past).observeFrontend message
  | .assigned _ :: past => witnessed past

/-- The map of texts has what the session parsed under a name itself. -/
lemma texts_of_ownText {statement : N} {past : List (Naming N)} {sql : List UInt8}
    (h : ownText statement past = some sql) :
    (witnessed past).texts.get? statement = some (.sent (text sql)) := by
  induction past with
  | nil => cases h
  | cons naming past ih =>
    cases naming with
    | assigned onLink => exact ih h
    | forwarded message =>
      cases message with
      | parse name query types =>
        simp only [ownText] at h
        simp only [witnessed, observeFrontend, get?_insert]
        split
        · rename_i hname
          rw [if_pos hname] at h
          cases h
          rfl
        · rename_i hname
          rw [if_neg hname] at h
          exact ih h
      | bind portal bound =>
        simp only [ownText, Option.ite_none_left_eq_some, not_and, not_not] at h
        simp only [witnessed, observeFrontend, get?_insert]
        split
        · -- a portal of the statement's own name takes the statement's own text
          rename_i hportal
          rw [h.1 hportal, ih h.2]
          rfl
        · exact ih h.2
      | _ => exact ih h

/-- The map of texts has the text a portal was bound from. -/
lemma texts_of_apart {portal : N} {past : List (Naming N)} {sql : List UInt8}
    (hapart : Apart portal past) (hbound : boundText portal past = some sql) :
    (witnessed past).texts.get? portal = some (.sent (text sql)) := by
  induction past with
  | nil => cases hbound
  | cons naming past ih =>
    cases naming with
    | assigned onLink => cases hbound
    | forwarded message =>
      cases message with
      | parse name query types =>
        simp only [witnessed, observeFrontend]
        rw [get?_insert_of_ne _ _ hapart.1.symm]
        exact ih hapart.2 hbound
      | bind name statement =>
        simp only [Apart] at hapart
        simp only [boundText] at hbound
        simp only [witnessed, observeFrontend, get?_insert]
        split
        · rename_i hname
          rw [if_pos hname] at hapart hbound
          rw [texts_of_ownText (hapart.symm.trans hbound)]
          rfl
        · rename_i hname
          rw [if_neg hname] at hapart hbound
          exact ih hapart hbound
      | close target name =>
        cases target with
        | portal =>
          simp only [boundText, Option.ite_none_left_eq_some] at hbound
          exact ih hapart hbound.2
        | statement => exact ih hapart hbound
      | _ => exact ih hapart hbound

/-- An `Execute` takes the text its portal was bound from, whatever the link. -/
theorem execute_takes_bound_text (past : List (Naming N)) (portal : N) (sql : List UInt8)
    (hapart : Apart portal past) (hbound : boundText portal past = some sql) :
    ((witnessed past).observeFrontend (.execute portal)).pendingText = .sent (text sql) := by
  change ((witnessed past).texts.get? portal).getD .unknownStatement = _
  rw [texts_of_apart hapart hbound]
  rfl

/-- The session comes back to a link on which it has parsed before, and uses the unnamed statement
with the unnamed portal in between. -/
theorem execute_takes_bound_text_returned : let past : List (Naming Nat) := [.forwarded (.bind 0 1),
      .assigned [(1, ascii "SELECT 1")], .forwarded (.bind 0 0),
      .forwarded (.parse 0 (ascii " SELECT 2") []), .assigned [(1, ascii "SELECT 3")],
      .forwarded (.parse 1 (ascii "SELECT 1") [])]
    ((witnessed past).observeFrontend (.execute 0)).pendingText = .sent "SELECT 1".toList :=
  execute_takes_bound_text _ 0 (ascii "SELECT 1") (by simp [Apart, served, ownText]) rfl

/-- The unnamed portal takes the unnamed statement's text away. -/
theorem unnamed_portal_hides_statement :
    let past : List (Naming Nat) := [.forwarded (.bind 0 0), .forwarded (.bind 0 1),
      .forwarded (.parse 1 (ascii "SELECT 1") []), .forwarded (.parse 0 (ascii "COMMIT") [])]
    boundText 0 past = some (ascii "COMMIT") ∧
      ((witnessed past).observeFrontend (.execute 0)).pendingText = .sent "SELECT 1".toList := by
  decide

end TransactionWitness

end PgElastic.Epoch
