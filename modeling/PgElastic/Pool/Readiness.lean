import PgElastic.Library.Queues
import PgElastic.Pool.Backend

/-!
# Who is owed a `ReadyForQuery`

`ReadyForQuery` answers exactly the batch terminators a backend runs, so the terminators
the queue holds can be compared with the ones the backend has answered and is still going
to answer.  `owedBy` is that second list: everything unread in normal operation, from the
next `Sync` on after an error, and in copy-in mode everything but the `Sync`s that stand in
front of the end of the rows.

The account is a sublist and not an equation: after an error the queue keeps a `Query` the
backend discards, which costs a link but never hands it on too early.
-/

namespace PgElastic.Pool

open Library Wire List

variable {I : Type}

/-- The batch terminators recorded on a queue, oldest first. -/
def terminatorsOf (entries : List (Entry I)) : List RequestKind :=
  (entries.filter Entry.terminates).map Entry.kind

/-- The batch terminators among requests. -/
def terminatorsIn (requests : List (Request I)) : List RequestKind :=
  (requests.filter fun request => request.kind.terminatesBatch).map Request.kind

def isReady : BackendMessage → Bool
  | .readyForQuery _ => true
  | _ => false

/-- The requests whose `ReadyForQuery` is in flight. -/
def readyKinds (wire : List (Reply I)) : List RequestKind :=
  (wire.filter fun reply => isReady reply.message).filterMap fun reply =>
    reply.drawer.map Request.kind

/-- The end of the rows of a COPY. -/
def Input.isCopyEnd : Input I → Bool
  | .copyDone => true
  | .copyFail => true
  | _ => false

/-- What the backend will answer of its unread input while it reads rows: a `Sync` in front
of the end of the rows is ignored. -/
def owedInCopy : List (Input I) → List RequestKind
  | [] => []
  | .copyData :: rest => owedInCopy rest
  | .copyDone :: rest => terminatorsIn (requestsIn rest)
  | .copyFail :: rest => terminatorsIn (requestsIn rest)
  | .request request :: rest =>
    if request.kind = .sync ∧ rest.any Input.isCopyEnd then owedInCopy rest
    else terminatorsIn [request] ++ owedInCopy rest

/-- The batch terminators the backend is going to answer. -/
def owedBy (backend : Backend I) : List RequestKind :=
  match backend.mode with
  | .normal => terminatorsIn (requestsIn backend.unread)
  | .skipping =>
    terminatorsIn ((requestsIn backend.unread).dropWhile fun request => request.kind != .sync)
  | .copyIn current => terminatorsIn [current] ++ owedInCopy backend.unread

/-- A `Sync` stands unread in front of the end of the rows of a COPY. -/
def syncBeforeEnd : List (Input I) → Bool
  | [] => false
  | .request request :: rest =>
    (request.kind == .sync && rest.any Input.isCopyEnd) || syncBeforeEnd rest
  | .copyData :: rest => syncBeforeEnd rest
  | _ => false

/-! ### Projections -/

@[simp]
lemma requestsIn_nil : requestsIn ([] : List (Input I)) = [] := rfl

@[simp]
lemma requestsIn_request (request : Request I) (rest : List (Input I)) :
    requestsIn (.request request :: rest) = request :: requestsIn rest := rfl

lemma requestsIn_append (unread more : List (Input I)) :
    requestsIn (unread ++ more) = requestsIn unread ++ requestsIn more :=
  filterMap_append

lemma terminatorsIn_cons (request : Request I) (rest : List (Request I)) :
    terminatorsIn (request :: rest) = terminatorsIn [request] ++ terminatorsIn rest := by
  unfold terminatorsIn
  rw [← map_append, ← filter_append]
  rfl

lemma terminatorsIn_append (first second : List (Request I)) :
    terminatorsIn (first ++ second) = terminatorsIn first ++ terminatorsIn second := by
  unfold terminatorsIn
  rw [filter_append, map_append]

variable {request : Request I} {backend after : Backend I} {outcome : Outcome}
  {replies : List (Reply I)} {message : BackendMessage} {unread : List (Input I)}
  {kind : RequestKind}

lemma terminatorsIn_of_terminates (h : request.kind.terminatesBatch) :
    terminatorsIn [request] = [request.kind] := by
  simp [terminatorsIn, h]

lemma terminatorsIn_of_extended (h : request.kind.terminatesBatch = false) :
    terminatorsIn [request] = [] := by
  simp [terminatorsIn, h]

/-- Dropping entries that end no batch leaves the account alone. -/
lemma terminatorsOf_dropWhile {entries : List (Entry I)} {p : Entry I → Bool}
    (h : ∀ entry ∈ entries, p entry → entry.terminates = false) :
    terminatorsOf (entries.dropWhile p) = terminatorsOf entries := by
  unfold terminatorsOf
  rw [filter_dropWhile_of_removed h]

lemma readyKinds_append (wire more : List (Reply I)) :
    readyKinds (wire ++ more) = readyKinds wire ++ readyKinds more := by
  unfold readyKinds
  rw [filter_append, filterMap_append]

lemma readyKinds_eq_nil {wire : List (Reply I)}
    (h : ∀ reply ∈ wire, isReady reply.message = false) : readyKinds wire = [] := by
  unfold readyKinds
  rw [filter_eq_nil_iff.mpr (by simpa using h)]
  rfl

lemma isReady_of_mayCarry (h : mayCarry kind message) : isReady message = false := by
  cases message with
  | readyForQuery status => cases h
  | _ => rfl

/-- The answer to an extended-query message does not end in `ReadyForQuery`. -/
lemma isReady_of_retires (hextended : kind.terminatesBatch = false) (h : kind ∈ retirees message) :
    isReady message = false := by
  cases message with
  | readyForQuery status =>
    cases kind with
    | sync | query | functionCall => cases hextended
    | _ => simp [retirees] at h
  | _ => rfl

/-- An answer announces nothing unless it ends in `ReadyForQuery`. -/
lemma not_ready_drawn {rows : List BackendMessage} {final : BackendMessage}
    (hrows : ∀ row ∈ rows, mayCarry request.kind row) (hfinal : isReady final = false) :
    ∀ reply ∈ drawn request (rows ++ [final]), isReady reply.message = false := by
  intro reply hreply
  obtain ⟨message, hmessage, rfl⟩ := List.mem_map.mp hreply
  rcases mem_append.mp hmessage with hrow | hlast
  · exact isReady_of_mayCarry (hrows message hrow)
  · rw [mem_singleton.mp hlast]
    exact hfinal

/-! ### The backend's side of the account -/

/-- In copy-in mode no more is answered than outside it. -/
lemma owedInCopy_sublist (unread : List (Input I)) :
    (owedInCopy unread).Sublist (terminatorsIn (requestsIn unread)) := by
  induction unread with
  | nil => exact .refl _
  | cons input rest ih =>
    cases input with
    | copyData => exact ih
    | copyDone | copyFail => exact .refl _
    | request request =>
      rw [owedInCopy, requestsIn_request, terminatorsIn_cons request (requestsIn rest)]
      split
      · exact ih.trans (sublist_append_right _ _)
      · exact .append (.refl _) ih

/-- Without a `Sync` in front of the end of the rows nothing is ignored. -/
lemma owedInCopy_of_not_syncBeforeEnd
    (h : syncBeforeEnd unread = false) : owedInCopy unread = terminatorsIn (requestsIn unread) := by
  induction unread with
  | nil => rfl
  | cons input rest ih =>
    cases input with
    | copyData => exact ih h
    | copyDone | copyFail => rfl
    | request request =>
      simp only [syncBeforeEnd, Bool.or_eq_false_iff, Bool.and_eq_false_iff,
        beq_eq_false_iff_ne] at h
      obtain ⟨hhere, hrest⟩ := h
      have hkept : ¬(request.kind = .sync ∧ rest.any Input.isCopyEnd) := by
        rintro ⟨hsync, hend⟩
        rcases hhere with hother | hnone
        · exact hother hsync
        · rw [hend] at hnone
          cases hnone
      rw [owedInCopy, if_neg hkept, ih hrest, requestsIn_request, ← terminatorsIn_cons]

/-- The end of the rows takes every `Sync` in front of it out of the account. -/
lemma owedInCopy_concat_copyEnd {input : Input I} (hend : input.isCopyEnd)
    (hrows : ∀ item ∈ unread, item = .copyData ∨ ∃ request, item = .request request ∧
      request.kind = .sync) : owedInCopy (unread ++ [input]) = [] := by
  induction unread with
  | nil =>
    cases input with
    | copyDone | copyFail => rfl
    | _ => cases hend
  | cons item rest ih =>
    have hbehind := ih fun other hother => hrows other (mem_cons_of_mem _ hother)
    rcases hrows item mem_cons_self with rfl | ⟨request, rfl, hsync⟩
    · exact hbehind
    have hdropped : request.kind = .sync ∧ (rest ++ [input]).any Input.isCopyEnd := by
      refine ⟨hsync, ?_⟩
      rw [any_append]
      simp [hend]
    rw [cons_append, owedInCopy, if_pos hdropped]
    exact hbehind

/-- What one more unread message can add to what is owed. -/
def inputTerminators : Input I → List RequestKind
  | .request request => terminatorsIn [request]
  | _ => []

lemma terminatorsIn_requestsIn_singleton (input : Input I) :
    terminatorsIn (requestsIn [input]) = inputTerminators input := by
  cases input with
  | request request => rfl
  | _ => rfl

lemma owedInCopy_concat (unread : List (Input I)) (input : Input I) :
    (owedInCopy (unread ++ [input])).Sublist (owedInCopy unread ++ inputTerminators input) := by
  induction unread with
  | nil =>
    cases input with
    | request request => simp [owedInCopy, inputTerminators]
    | _ => exact .refl _
  | cons item rest ih =>
    cases item with
    | copyData => exact ih
    | copyDone | copyFail =>
      simp only [cons_append, owedInCopy, requestsIn_append, terminatorsIn_append,
        terminatorsIn_requestsIn_singleton]
      exact .refl _
    | request request =>
      rw [cons_append, owedInCopy, owedInCopy]
      by_cases hbefore : request.kind = .sync ∧ rest.any Input.isCopyEnd
      · have hafter : request.kind = .sync ∧ (rest ++ [input]).any Input.isCopyEnd := by
          refine ⟨hbefore.1, ?_⟩
          rw [any_append, hbefore.2]
          rfl
        rw [if_pos hbefore, if_pos hafter]
        exact ih
      · rw [if_neg hbefore, append_assoc]
        split
        · exact ih.trans (sublist_append_right _ _)
        · exact .append (.refl _) ih

lemma owedBy_copyIn {current : Request I} (h : backend.mode = .copyIn current) :
    owedBy backend = terminatorsIn [current] ++ owedInCopy backend.unread := by
  unfold owedBy
  rw [h]

/-- A message that reaches the backend's socket adds at most its own terminator. -/
lemma owedBy_enqueue (backend : Backend I) (input : Input I) :
    (owedBy (backend.enqueue input)).Sublist (owedBy backend ++ inputTerminators input) := by
  obtain ⟨unread, mode, status, batch⟩ := backend
  cases mode with
  | normal =>
    simp only [owedBy, Backend.enqueue, requestsIn_append, terminatorsIn_append,
      terminatorsIn_requestsIn_singleton]
    exact .refl _
  | skipping =>
    simp only [owedBy, Backend.enqueue, requestsIn_append]
    rw [← terminatorsIn_requestsIn_singleton, ← terminatorsIn_append]
    refine .map _ (.filter _ ?_)
    rw [dropWhile_append]
    split
    · exact (dropWhile_sublist _).trans (sublist_append_right _ _)
    · exact .refl _
  | copyIn current =>
    simp only [owedBy, Backend.enqueue, append_assoc]
    exact .append (.refl _) (owedInCopy_concat unread input)

/-- What running a request announces and leaves owed was the request's own terminator and
the ones behind it. -/
lemma owed_of_executed (h : Backend.Executed backend request outcome after replies) :
    (readyKinds replies ++ owedBy after).Sublist
      (terminatorsIn [request] ++ terminatorsIn (requestsIn backend.unread)) := by
  cases h with
  | answered rows final status hextended hrows hfinal =>
    rw [readyKinds_eq_nil (not_ready_drawn hrows (isReady_of_retires hextended hfinal)),
      terminatorsIn_of_extended hextended]
    exact .refl _
  | failed rows status hextended hrows =>
    rw [readyKinds_eq_nil (not_ready_drawn hrows rfl), terminatorsIn_of_extended hextended]
    exact ((dropWhile_sublist _).filter _).map _
  | ready _ rows errors status hterminates hrows herrors =>
    have hannounced : readyKinds
        (drawn request (rows ++ errors ++ [.readyForQuery status])) = [request.kind] := by
      have hbefore : readyKinds (drawn request (rows ++ errors)) = [] := by
        rcases herrors with rfl | rfl
        · apply readyKinds_eq_nil
          intro reply hreply
          obtain ⟨row, hrow, rfl⟩ := List.mem_map.mp hreply
          exact isReady_of_mayCarry (hrows row (by simpa using hrow))
        · exact readyKinds_eq_nil (not_ready_drawn hrows rfl)
      rw [drawn_append, readyKinds_append, hbefore]
      rfl
    rw [hannounced, terminatorsIn_of_terminates hterminates]
    exact .refl _
  | copying rows hkind hrows =>
    rw [readyKinds_eq_nil (not_ready_drawn hrows rfl), nil_append]
    change (terminatorsIn [request] ++ owedInCopy backend.unread).Sublist _
    exact .append (.refl _) (owedInCopy_sublist backend.unread)

/-- A request interrupts the COPY the backend is reading. -/
def interrupts (backend : Backend I) : Bool :=
  match backend.unread, backend.mode with
  | .request request :: _, .copyIn _ => request.kind != .sync
  | _, _ => false

/-- What a backend announces and still owes, it owed before. -/
lemma owed_of_served (h : Backend.Served backend outcome after replies)
    (hclean : interrupts backend → syncBeforeEnd backend.unread = false) :
    (readyKinds replies ++ owedBy after).Sublist (owedBy backend) := by
  obtain ⟨unread, mode, status, batch⟩ := backend
  cases h with
  | ran request rest after replies hunread hmode hexecuted =>
    obtain rfl : unread = _ := hunread
    obtain rfl : mode = _ := hmode
    change List.Sublist _ (terminatorsIn (request :: requestsIn rest))
    rw [terminatorsIn_cons]
    exact owed_of_executed hexecuted
  | resumed request rest hunread hmode hsync =>
    obtain rfl : unread = _ := hunread
    obtain rfl : mode = _ := hmode
    have hterminates : request.kind.terminatesBatch := by
      rw [hsync]
      rfl
    change ([request.kind] ++ terminatorsIn (requestsIn rest)).Sublist
      (terminatorsIn ((request :: requestsIn rest).dropWhile _))
    rw [dropWhile_cons_of_neg (by simp [hsync]), terminatorsIn_cons,
      terminatorsIn_of_terminates hterminates]
  | dropped input rest hunread hrequest hend =>
    obtain rfl : unread = _ := hunread
    change (owedBy ⟨rest, mode, status, batch⟩).Sublist _
    cases input with
    | copyData =>
      cases mode <;> exact .refl _
    | copyDone | copyFail =>
      cases mode with
      | normal | skipping => exact .refl _
      | copyIn current =>
        have hrow := hend current rfl
        simp at hrow
    | request request =>
      rcases hrequest request rfl with ⟨hskipping, hother⟩ | ⟨⟨current, hcopy⟩, hsync⟩
      · obtain rfl : mode = _ := hskipping
        change (terminatorsIn _).Sublist (terminatorsIn ((request :: requestsIn rest).dropWhile _))
        rw [dropWhile_cons_of_pos (by simp [hother])]
      obtain rfl : mode = _ := hcopy
      change (terminatorsIn [current] ++ owedInCopy rest).Sublist
        (terminatorsIn [current] ++ owedInCopy (.request request :: rest))
      apply Sublist.append (.refl _)
      rw [owedInCopy]
      split
      · exact .refl _
      · exact sublist_append_right _ _
  | ended current input rest ending after replies hunread hmode hinput hexecuted =>
    obtain rfl : unread = _ := hunread
    obtain rfl : mode = _ := hmode
    have howed : owedInCopy (input :: rest) = terminatorsIn (requestsIn rest) := by
      rcases hinput with rfl | rfl <;> rfl
    change List.Sublist _ (terminatorsIn [current] ++ owedInCopy (input :: rest))
    rw [howed]
    exact owed_of_executed hexecuted
  | interrupted current request rest ending after replies hunread hmode hother hexecuted =>
    obtain rfl : unread = _ := hunread
    obtain rfl : mode = _ := hmode
    have hnone := hclean (by simp [interrupts, hother])
    change List.Sublist _ (terminatorsIn [current] ++ owedInCopy (.request request :: rest))
    rw [owedInCopy_of_not_syncBeforeEnd hnone, requestsIn_request,
      terminatorsIn_cons request (requestsIn rest)]
    refine (owed_of_executed hexecuted).trans ?_
    exact .append (.refl _) (sublist_append_right _ _)

/-! ### What a move of the backend announces -/

/-- What a move of the backend can do to its batch, its mode and its status, and how its
replies tell. -/
structure Moved (backend after : Backend I) (replies : List (Reply I)) : Prop where
  drawn : ∀ reply ∈ replies, reply.drawer.isSome = true
  unread : after.unread <:+ backend.unread
  /-- A batch opens silently, and with an extended-query message. -/
  batch : after.batch = true → (∀ reply ∈ replies, isReady reply.message = false) ∧
    (backend.batch = true ∨ ∃ request rest, backend.unread = .request request :: rest ∧
      backend.mode = .normal ∧ request.kind.terminatesBatch = false)
  skipping : after.mode = .skipping → after.batch = true
  copying : ∀ current, after.mode = .copyIn current → current.kind ≠ .sync ∧
    (current.kind.terminatesBatch = false → after.batch = true)
  /-- A COPY is announced when it begins. -/
  announced : ∀ current, after.mode = .copyIn current →
    (replies = [] ∧ backend.mode = .copyIn current) ∨
      ∃ before request, replies = before ++ [⟨.copyInResponse, some request⟩]
  /-- A batch ends with the `ReadyForQuery` that reports the status. -/
  ended : after.batch = false →
    (∃ before request, replies = before ++ [⟨.readyForQuery after.status, some request⟩]) ∨
      backend.batch = false ∧ after.status = backend.status ∧
        (∀ reply ∈ replies, isReady reply.message = false) ∧
        (after.mode = .normal → backend.mode = .normal ∧ replies = [])

lemma isSome_of_mem_drawn {messages : List BackendMessage} :
    ∀ reply ∈ drawn request messages, reply.drawer.isSome := by
  intro reply hreply
  obtain ⟨message, -, rfl⟩ := List.mem_map.mp hreply
  rfl

/-- A request is run, either the one just read or the one whose rows were being read. -/
lemma Moved.of_executed {rest : List (Input I)}
    (h : Backend.Executed { backend with unread := rest } request outcome after replies)
    (hrest : rest <:+ backend.unread)
    (hbatch : request.kind.terminatesBatch = false → backend.batch ∨
      ∃ behind, backend.unread = .request request :: behind ∧ backend.mode = .normal) :
    Moved backend after replies := by
  have hsource : request.kind.terminatesBatch = false → backend.batch ∨
      ∃ other behind, backend.unread = .request other :: behind ∧
        backend.mode = .normal ∧ other.kind.terminatesBatch = false := by
    intro hextended
    refine (hbatch hextended).imp id ?_
    rintro ⟨behind, hunread, hmode⟩
    exact ⟨request, behind, hunread, hmode, hextended⟩
  cases h with
  | answered rows final status hextended hrows hfinal =>
    exact {
      drawn := isSome_of_mem_drawn
      unread := hrest
      batch := fun _ => ⟨not_ready_drawn hrows (isReady_of_retires hextended hfinal),
        hsource hextended⟩
      skipping := fun _ => rfl
      copying := nofun
      announced := nofun
      ended := nofun }
  | failed rows status hextended hrows =>
    exact {
      drawn := isSome_of_mem_drawn
      unread := hrest
      batch := fun _ => ⟨not_ready_drawn hrows rfl, hsource hextended⟩
      skipping := fun _ => rfl
      copying := nofun
      announced := nofun
      ended := nofun }
  | ready _ rows errors status hterminates hrows herrors =>
    exact {
      drawn := isSome_of_mem_drawn
      unread := hrest
      batch := nofun
      skipping := nofun
      copying := nofun
      announced := nofun
      ended := fun _ => .inl ⟨_, request, drawn_append _ _ _⟩ }
  | copying rows hkind hrows =>
    have hquiet : ∀ reply ∈ Pool.drawn request (rows ++ [.copyInResponse]),
        isReady reply.message = false := not_ready_drawn hrows rfl
    refine {
      drawn := isSome_of_mem_drawn
      unread := hrest
      batch := ?_
      skipping := nofun
      copying := ?_
      announced := fun _ _ => .inr ⟨_, request, drawn_append _ _ _⟩
      ended := ?_ }
    · intro hopen
      refine ⟨hquiet, ?_⟩
      rcases Bool.or_eq_true_iff.mp hopen with hold | hnew
      · exact .inl hold
      · exact hsource (by simpa using hnew)
    · intro current hmode
      obtain rfl : request = current := by simpa using hmode
      refine ⟨?_, fun hextended => by simp [hextended]⟩
      intro hsync
      rw [hsync] at hkind
      simp at hkind
    · intro hnone
      have hold : backend.batch = false := (Bool.or_eq_false_iff.mp hnone).1
      exact .inr ⟨hold, rfl, hquiet, nofun⟩

lemma Moved.of_served (h : Backend.Served backend outcome after replies)
    (hskipping : backend.mode = .skipping → backend.batch)
    (hcopying : ∀ current, backend.mode = .copyIn current → current.kind ≠ .sync ∧
      (current.kind.terminatesBatch = false → backend.batch)) :
    Moved backend after replies := by
  cases h with
  | ran request rest after replies hunread hmode hexecuted =>
    refine .of_executed hexecuted ?_ fun _ => .inr ⟨rest, hunread, hmode⟩
    rw [hunread]
    exact suffix_cons _ _
  | resumed request rest hunread hmode hsync =>
    exact {
      drawn := isSome_of_mem_drawn
      unread := by
        rw [hunread]
        exact suffix_cons _ _
      batch := nofun
      skipping := nofun
      copying := nofun
      announced := nofun
      ended := fun _ => .inl ⟨[], request, rfl⟩ }
  | dropped input rest hunread hrequest hend =>
    exact {
      drawn := by simp
      unread := by
        rw [hunread]
        exact suffix_cons _ _
      batch := fun hopen => ⟨by simp, .inl hopen⟩
      skipping := hskipping
      copying := hcopying
      announced := fun _ hmode => .inl ⟨rfl, hmode⟩
      ended := fun hnone => .inr ⟨hnone, rfl, by simp, fun hmode => ⟨hmode, rfl⟩⟩ }
  | ended current input rest ending after replies hunread hmode hinput hexecuted
  | interrupted current request rest ending after replies hunread hmode hother hexecuted =>
    refine .of_executed hexecuted ?_ fun hextended => .inl ((hcopying current hmode).2 hextended)
    rw [hunread]
    exact suffix_cons _ _

/-! ### The queue's side of the account -/

namespace OutstandingQueue

variable {queue : OutstandingQueue I}

/-- A `ReadyForQuery` that is accepted retires the oldest terminator, and it stands at the
head. -/
lemma apply_readyForQuery {status : TransactionStatus}
    {reaction : Reaction} (h : (queue.apply (.readyForQuery status)).1 = .ok reaction) :
    ∃ entry rest, queue.entries = entry :: rest ∧ entry.terminates ∧
      (queue.apply (.readyForQuery status)).2.entries = rest := by
  cases hentries : queue.entries with
  | nil =>
    obtain ⟨entries, failed⟩ := queue
    obtain rfl : entries = [] := hentries
    cases h
  | cons entry rest =>
    rw [apply_cons hentries rfl] at h ⊢
    cases hterminates : entry.kind.terminatesBatch with
    | false =>
      simp only [verdict, hterminates] at h
      cases h
    | true =>
      refine ⟨entry, rest, rfl, hterminates, ?_⟩
      simp only [verdict, hterminates]
      rfl

/-- Every other message leaves the terminators on the queue alone. -/
lemma terminatorsOf_apply (h : isReady message = false) :
    terminatorsOf (queue.apply message).2.entries = terminatorsOf queue.entries := by
  cases hasync : isAsynchronous message with
  | true => rw [apply_asynchronous hasync]
  | false =>
    cases hentries : queue.entries with
    | nil =>
      have hsub := queue.apply_sublist message
      rw [hentries] at hsub
      rw [sublist_nil.mp hsub]
    | cons entry rest =>
      rw [apply_cons hentries hasync]
      cases hverdict : verdict entry.kind message with
      | refuses error | keeps =>
        change terminatorsOf queue.entries = _
        rw [hentries]
      | pops =>
        change terminatorsOf rest = _
        rcases extended_of_pops hverdict with ⟨status, rfl⟩ | hextended
        · cases h
        · have hskip : entry.terminates = false := hextended
          simp [terminatorsOf, hskip]
      | drains =>
        exact terminatorsOf_dropWhile (by simp)

end OutstandingQueue

end PgElastic.Pool
