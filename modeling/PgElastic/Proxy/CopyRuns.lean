import PgElastic.Proxy.CopyStreams

/-!
# Runs with rows copied from the client

Every step of an orderly run keeps the correspondence of `CopyStreams`, so the queue is never
surprised, and once the backend has answered everything nothing is left on it and no COPY is open.
-/

namespace PgElastic.Proxy.Streams

open Library Wire Option List
open PgElastic.Pool OutstandingQueue Correlation RequestKind Entry Backend

variable {w w' : World} {dispatch : Dispatch}

/-! ### Dispatching -/

variable {kind : RequestKind} {backend after : Backend Nat} {input : Input Nat} {entry : Entry Nat}
  {queue : OutstandingQueue Nat} {rest : List (Input Nat)} {current request : Request Nat}
  {outcome : Outcome} {replies : List (Reply Nat)} {status : TransactionStatus}
  {message : BackendMessage} {reply : Reply Nat}

lemma endsRows_of_request (hkind : fromFrontend dispatch.message = some kind) :
    endsRows dispatch.message = false := by
  cases hmessage : dispatch.message with
  | copyDone | copyFail =>
    rw [hmessage] at hkind
    cases hkind
  | _ => rfl

/-- Only the client's own messages are sent as they are. -/
lemma forward_of_dispatchable (hable : dispatchable dispatch)
    (hkind : fromFrontend dispatch.message = none) : dispatch.relay = .forward := by
  unfold dispatchable at hable
  rw [hkind] at hable
  cases hrelay : dispatch.relay with
  | forward => rfl
  | skip | fake response =>
    rw [hrelay] at hable
    cases hable

/-- The backend after a dispatch. -/
lemma send_backend (w : World) (dispatch : Dispatch) : (w.send dispatch).backend =
      match dispatch.input w.recorded with
      | some input => w.backend.enqueue input
      | none => w.backend := rfl

/-- One more message at the back keeps the rows in front of their end, if it is one of them or
stands behind it. -/
lemma front_enqueue (hfront : ∀ other ∈ backend.unread.takeWhile (fun other => !other.isCopyEnd),
      rowOrSync other)
    (hinput : backend.unread.any Input.isCopyEnd = false → input.isCopyEnd ∨ rowOrSync input) :
    ∀ other ∈ (backend.enqueue input).unread.takeWhile (fun other => !other.isCopyEnd),
      rowOrSync other := by
  intro other hother
  change other ∈ (backend.unread ++ [input]).takeWhile _ at hother
  rw [takeWhile_append] at hother
  split at hother
  · rename_i hall
    have hwhole := ( takeWhile_prefix _).eq_of_length hall
    rcases mem_append.mp hother with hold | hnew
    · exact hfront other (hwhole.symm ▸ hold)
    have hnone : backend.unread.any Input.isCopyEnd = false := by
      rw [List.any_eq_false]
      intro earlier hearlier
      have hrow := takeWhile_eq_self_iff.mp hwhole earlier hearlier
      rw [Bool.not_eq_true'] at hrow
      rw [hrow]
      exact Bool.false_ne_true
    rcases hinput hnone with hend | hrow
    · rw [takeWhile_cons_of_neg (by simp [hend])] at hnew
      cases hnew
    · rw [mem_singleton.mp (( takeWhile_prefix _).subset hnew)]
      exact hrow
  · exact hfront other hother

lemma ignored_of_not_reading (h : Steady w) (hreading : reading w.backend = false) :
    w.ignored = [] := by
  rcases h.ignored with hnone | hrows
  · exact hnone
  · rw [hreading] at hrows
    cases hrows

lemma reading_of_not_copies (h : copies backend = false) : reading backend = false := by
  rw [reading, h]
  rfl

/-- A move that leaves the mode, the copy state and whether rows are read as they are. -/
lemma Steady.moved (h : Steady w) (hstate : w'.link.state = w.link.state)
    (hcopy : w'.link.copy = w.link.copy) (hwire : w'.wire = w.wire)
    (hmode : w'.backend.mode = w.backend.mode) (hreading : reading w'.backend = reading w.backend)
    (hignored : w.ignored = [] → reading w.backend = false → w'.ignored = [])
    (hqueue : Meets (Holds (awaited w'.backend w'.ignored) (w.backend.mode == .skipping)) w.wire
      w'.queue)
    (hfront : ∀ current, w.backend.mode = .copyIn current → InCopy w current →
      ∀ other ∈ w'.backend.unread.takeWhile (fun other => !other.isCopyEnd), rowOrSync other)
    (hbehind : ∀ current, InCopy w current → reading w.backend →
      ∀ other ∈ w'.queue.entries, other.tag ≤ current.tag ∨ other.kind = .sync) : Steady w' := by
  refine ⟨hstate ▸ h.loggedIn, ?_, ?_, ?_, ?_⟩
  · rw [hwire, hmode]
    exact hqueue
  · rw [hcopy, hwire, openCopy, hreading]
    exact h.copy
  · rw [hreading]
    rcases h.ignored with hnone | hrows
    · cases hrow : reading w.backend with
      | true => exact .inr rfl
      | false => exact .inl (hignored hnone hrow)
    · exact .inr hrows
  intro current hcopying
  rw [hmode] at hcopying
  have hin := h.copying current hcopying
  refine ⟨hin.kind, hfront current hcopying hin, ?_, ?_⟩
  · rw [hreading]
    exact hbehind current hin
  · rw [hreading, hwire]
    exact hin.announced

/-- A request is put on the queue and, unless the pool answers it, sent. -/
lemma Steady.dispatchRequest (h : Steady w) (hkind : fromFrontend dispatch.message = some kind)
    (hable : dispatchable dispatch)
    (hturn : dispatch.relay.disposition = .fake ∨ awaitsSync w.backend = false ∨ kind = .sync ∨
      kind.terminatesBatch = false ∧ w.queue.queryFailed = false)
    (hrows : reading w.backend → kind = .sync) : Steady (w.send dispatch) := by
  obtain ⟨-, hcopy, hstate⟩ := @observeFrontend_request w.link dispatch.message w.recorded
    dispatch.relay dispatch.origin kind hkind
  have hbackend : (w.send dispatch).backend = if dispatch.relay.disposition = .fake then w.backend
      else w.backend.enqueue (.request ⟨w.recorded, kind⟩) := by
    simp only [send_backend, Dispatch.input, hkind]
    by_cases hfake : dispatch.relay.disposition = .fake
    · rw [if_pos hfake, if_pos hfake]
    · rw [if_neg hfake, if_neg hfake]
  have hignored : (w.send dispatch).ignored = w.ignored := by
    change (if endsRows dispatch.message && _ then [] else w.ignored) = w.ignored
    rw [endsRows_of_request hkind, Bool.false_and, if_neg Bool.false_ne_true]
  refine h.moved hstate hcopy rfl ?_ ?_ (fun hnone _ => hignored.trans hnone) ?_ ?_ ?_
  · rw [hbackend]
    split <;> rfl
  · rw [hbackend]
    split
    · rfl
    · rw [reading_enqueue]
      exact Bool.and_true _
  · rw [send_queue hkind, hbackend, hignored]
    exact h.queue.record (fun backend => awaited backend w.ignored) awaitsSync_iff
      awaited_enqueue_discarded awaited_enqueue
      (fun response hrelay => by simpa [dispatchable, hrelay, hkind] using hable) hturn
  · intro current hmode hcopying
    rw [hbackend]
    split
    · exact hcopying.front
    refine front_enqueue hcopying.front ?_
    intro hnone
    have hrow : reading w.backend := by
      rw [reading, @copies_of_mode w.backend current hmode, hnone]
      rfl
    rw [hrows hrow]
    exact .inr rfl
  intro current hcopying hreading other hother
  obtain ⟨entry, hrecord, -, hentry, -⟩ := w.queue.record_eq w.recorded kind dispatch.relay
  rw [send_queue hkind, hrecord] at hother
  rcases mem_append.mp ((dropWhile_sublist _).subset hother) with hold | hnew
  · exact hcopying.behind hreading other hold
  · rw [mem_singleton.mp hnew, hentry]
    exact .inr (hrows hreading)

lemma input_other (hable : dispatchable dispatch) (hkind : fromFrontend dispatch.message = none)
    (hend : endsRows dispatch.message = false) (tag : Nat) :
    dispatch.input tag = none ∨ dispatch.input tag = some .copyData := by
  unfold Dispatch.input
  rw [hkind, forward_of_dispatchable hable hkind]
  cases hmessage : dispatch.message with
  | copyDone | copyFail =>
    rw [hmessage] at hend
    cases hend
  | copyData => exact .inr rfl
  | _ => exact .inl rfl

lemma input_end (hable : dispatchable dispatch) (hend : endsRows dispatch.message) (tag : Nat) :
    ∃ input, dispatch.input tag = some input ∧ input.isCopyEnd := by
  have hkind : fromFrontend dispatch.message = none := by
    cases hmessage : dispatch.message with
    | copyDone | copyFail => rfl
    | _ =>
      rw [hmessage] at hend
      cases hend
  unfold Dispatch.input
  rw [hkind, forward_of_dispatchable hable hkind]
  cases hmessage : dispatch.message with
  | copyDone => exact ⟨.copyDone, rfl, rfl⟩
  | copyFail => exact ⟨.copyFail, rfl, rfl⟩
  | _ =>
    rw [hmessage] at hend
    cases hend

lemma not_request_of_isCopyEnd (h : input.isCopyEnd) (request : Request Nat) :
    input ≠ .request request := by
  rintro rfl
  cases h

/-- A message that neither is a request nor ends the rows changes nothing on the link. -/
lemma send_other_link (hkind : fromFrontend dispatch.message = none)
    (hend : endsRows dispatch.message = false) (hready : w.queue.takeReadyFakes.2 = w.queue) :
    (w.send dispatch).link = w.link ∧ (w.send dispatch).ignored = w.ignored := by
  constructor
  · change (w.link.observeFrontend w.recorded dispatch.message dispatch.relay
      dispatch.origin).takeReadyFakes.2 = w.link
    rw [observeFrontend_other hkind hend]
    change { w.link with outstanding := w.queue.takeReadyFakes.2 } = w.link
    rw [hready]
    rfl
  · change (if endsRows dispatch.message && _ then [] else w.ignored) = w.ignored
    rw [hend, Bool.false_and, if_neg Bool.false_ne_true]

/-- Rows and `Flush` leave everything as it is. -/
lemma Steady.dispatchOther (h : Steady w) (hable : dispatchable dispatch)
    (hkind : fromFrontend dispatch.message = none)
    (hend : endsRows dispatch.message = false) : Steady (w.send dispatch) := by
  obtain ⟨hlink, hignored⟩ := send_other_link hkind hend (takeReadyFakes_of_tidy h.tidy)
  have hqueue : (w.send dispatch).queue = w.queue := congrArg ServerLink.outstanding hlink
  have hbehind : ∀ current, InCopy w current → reading w.backend →
      ∀ other ∈ (w.send dispatch).queue.entries, other.tag ≤ current.tag ∨ other.kind = .sync := by
    rw [hqueue]
    exact fun current hcopying => hcopying.behind
  rcases input_other hable hkind hend w.recorded with hnone | hrow
  · have hbackend : (w.send dispatch).backend = w.backend := by rw [send_backend, hnone]
    refine h.moved (by rw [hlink]) (by rw [hlink]) rfl (by rw [hbackend]) (by rw [hbackend])
      (fun hnone _ => hignored.trans hnone) ?_ ?_ hbehind
    · rw [hqueue, hbackend, hignored]
      exact h.queue
    · rw [hbackend]
      exact fun current _ hcopying => hcopying.front
  have hbackend : (w.send dispatch).backend = w.backend.enqueue .copyData := by
    rw [send_backend, hrow]
  refine h.moved (by rw [hlink]) (by rw [hlink]) rfl (by rw [hbackend]; rfl) ?_
    (fun hnone _ => hignored.trans hnone) ?_ ?_ hbehind
  · rw [hbackend, reading_enqueue]
    exact Bool.and_true _
  · rw [hqueue, hbackend, hignored, awaited_enqueue_other (by simp) (.inl rfl)]
    exact h.queue
  · rw [hbackend]
    exact fun current _ hcopying => front_enqueue hcopying.front fun _ => .inr rfl

variable {entries : List (Entry Nat)} {failed : Bool}

/-- Behind the request of an open COPY the queue holds nothing but `Sync`s. -/
lemma Numbered.syncs (hn : Numbered w) (hentries : w.queue.entries = entry :: entries)
    (hbehind : ∀ other ∈ w.queue.entries, other.tag ≤ entry.request.tag ∨ other.kind = .sync) :
    ∀ other ∈ entries, other.kind = .sync := by
  intro other hother
  have hordered := hn.increasing
  rw [hentries, pairwise_cons] at hordered
  have hlater : entry.tag < other.tag := hordered.1 other hother
  rcases hbehind other (by rw [hentries]; exact mem_cons_of_mem _ hother) with hearlier | hkind
  · have hle : other.tag ≤ entry.tag := hearlier
    omega
  · exact hkind

lemma holds_one (hreal : entry.isFake = false) (hfailed : queue.queryFailed = failed) :
    Holds [entry.request] failed ⟨[entry], queue.queryFailed⟩ := by
  refine ⟨⟨?_, ?_⟩, ?_, hfailed⟩
  · intro first hfirst
    cases hfirst
    exact hreal
  · intro other hother hfake
    rw [mem_singleton.mp hother, hreal] at hfake
    cases hfake
  · simp [hreal]

lemma takeReadyFakes_of_real (hentries : queue.entries = entry :: entries)
    (hreal : entry.isFake = false) : queue.takeReadyFakes.2 = queue := by
  obtain ⟨all, failed⟩ := queue
  obtain rfl : all = entry :: entries := hentries
  simp [OutstandingQueue.takeReadyFakes, hreal]

lemma discardTrailingSyncs_of_syncs (hentries : queue.entries = entry :: entries)
    (hkind : entry.kind ≠ .sync) (hsyncs : ∀ other ∈ entries, other.kind = .sync) :
    queue.discardTrailingSyncs = ⟨[entry], queue.queryFailed⟩ := by
  have hfirst : (entry.kind == .sync) = false := beq_eq_false_iff_ne.mpr hkind
  have hrest : ∀ other ∈ entries, (other.kind == .sync) :=
    fun other hother => beq_iff_eq.mpr (hsyncs other hother)
  unfold discardTrailingSyncs
  rw [hentries, rdropWhile_cons_of_all (p := fun entry : Entry Nat => entry.kind == .sync)
    hfirst hrest]

/-- The end of the rows reaches the backend, and no COPY is open on the link behind it. -/
lemma send_end (hable : dispatchable dispatch) (hend : endsRows dispatch.message)
    (hqueue : (if w.link.copy = .copyIn then w.queue.discardTrailingSyncs else w.queue) = queue)
    (hready : queue.takeReadyFakes.2 = queue) (hpaid : w.link.copy = .copyIn ∨ w.ignored = []) :
    ∃ input, input.isCopyEnd ∧ (w.send dispatch).backend = w.backend.enqueue input ∧
      (w.send dispatch).link = { w.link with outstanding := queue, copy := .none } ∧
      (w.send dispatch).queue = queue ∧ (w.send dispatch).ignored = [] := by
  obtain ⟨input, hinput, hisEnd⟩ := input_end hable hend w.recorded
  have hlink : (w.send dispatch).link = { w.link with outstanding := queue, copy := .none } := by
    change (w.link.observeFrontend w.recorded dispatch.message dispatch.relay
      dispatch.origin).takeReadyFakes.2 = _
    rw [observeFrontend_end hend]
    change { w.link with
      outstanding := (if w.link.copy = CopyState.copyIn then w.queue.discardTrailingSyncs
        else w.queue).takeReadyFakes.2
      copy := .none } = _
    rw [hqueue, hready]
  refine ⟨input, hisEnd, by rw [send_backend, hinput], hlink, congrArg ServerLink.outstanding hlink,
    ?_⟩
  change (if endsRows dispatch.message && w.link.copy == .copyIn then [] else w.ignored) = []
  rcases hpaid with hcopy | hnone
  · rw [hend, hcopy]
    rfl
  · rw [hnone, ite_self]

lemma InCopy.ended (hended : reading w'.backend = false) (hkind : current.kind ≠ .sync)
    (hfront : ∀ other ∈ w'.backend.unread.takeWhile (fun other => !other.isCopyEnd),
      rowOrSync other) : InCopy w' current := by
  refine ⟨hkind, hfront, ?_, ?_⟩
  all_goals
    rw [hended]
    exact fun hfalse => absurd hfalse Bool.false_ne_true

/-- The end of the rows of an open COPY takes the `Sync`s among them off the queue. -/
lemma Steady.dispatchEnd_reading (h : Steady w) (hn : Numbered w) (hable : dispatchable dispatch)
    (hend : endsRows dispatch.message) (hreading : reading w.backend)
    (hseen : ∀ reply ∈ w.wire, reply.message ≠ .copyInResponse) : Steady (w.send dispatch) := by
  obtain ⟨current, hmode⟩ := mode_of_copies (Bool.and_eq_true _ _ ▸ hreading).1
  obtain ⟨hsync, hfront, hbehind, hannounced⟩ := h.copying current hmode
  have hnotes : ∀ reply ∈ w.wire, isAsynchronous reply.message := by
    rcases hannounced hreading with ⟨before, announcement, notes, hwire, hmessage, -⟩ | hnotes
    · refine absurd hmessage (hseen announcement ?_)
      rw [hwire]
      exact mem_append_right _ mem_cons_self
    · exact hnotes
  have hcopy : w.link.copy = .copyIn := by
    have hread := h.copy
    rw [copyRead_asynchronous _ hnotes, openCopy, if_pos hreading] at hread
    exact hread
  have hholds := holds_now hnotes h.queue
  rw [awaited_of_reading hmode hreading, hmode] at hholds
  obtain ⟨entry, entries, hentries, hreal, rfl, -⟩ := hholds.head
  obtain ⟨input, hisEnd, hbackend, hlink, hqueue, hignored⟩ := send_end hable hend
    ((if_pos hcopy).trans
      (discardTrailingSyncs_of_syncs hentries hsync (hn.syncs hentries (hbehind hreading))))
    (takeReadyFakes_of_real rfl hreal) (.inl hcopy)
  have hended : reading (w.backend.enqueue input) = false := by
    rw [reading_enqueue, hisEnd]
    exact Bool.and_false _
  have hnone : w.backend.unread.any Input.isCopyEnd = false := by
    simpa [reading, copies_of_mode hmode] using hreading
  have hone := holds_one hreal hholds.failed
  refine ⟨?_, ?_, ?_, .inl hignored, ?_⟩
  · rw [hlink]
    exact h.loggedIn
  · rw [hqueue, hbackend, hignored, @awaited_of_ended (w.backend.enqueue input) _ _ hmode hended]
    change Meets (Holds (_ :: requestsIn (behindEnd (w.backend.unread ++ [input])))
      (w.backend.mode == .skipping)) _ _
    rw [behindEnd_concat hnone hisEnd, hmode]
    exact meets_instead hone.tidy hone hnotes h.queue
  · rw [hlink, hbackend, openCopy, hended]
    exact copyRead_asynchronous _ hnotes
  intro current' hmode'
  rw [hbackend] at hmode'
  obtain rfl : entry.request = current' := Mode.copyIn.inj (hmode.symm.trans hmode')
  refine InCopy.ended (hbackend ▸ hended) hsync ?_
  rw [hbackend]
  exact front_enqueue hfront fun _ => .inl hisEnd

/-- Where the backend reads no rows, the end of them is an empty word. -/
lemma Steady.dispatchEnd_over (h : Steady w) (hable : dispatchable dispatch)
    (hend : endsRows dispatch.message) (hreading : reading w.backend = false)
    (hlast : w.link.copy = .copyIn → ∀ entry ∈ w.queue.entries.getLast?, entry.kind ≠ .sync) :
    Steady (w.send dispatch) := by
  have hnothing := ignored_of_not_reading h hreading
  have hkept : (if w.link.copy = .copyIn then w.queue.discardTrailingSyncs else w.queue) =
      w.queue := by
    split
    · rename_i hcopy
      have hsame : w.queue.entries.rdropWhile (fun entry => entry.kind == .sync) =
          w.queue.entries := by
        refine rdropWhile_eq_self_iff.mpr ?_
        intro hne
        have hnot := hlast hcopy _ (getLast?_eq_some_getLast hne)
        simpa using hnot
      unfold discardTrailingSyncs
      rw [hsame]
    · rfl
  obtain ⟨input, hisEnd, hbackend, hlink, hqueue, hignored⟩ := send_end hable hend hkept
    (takeReadyFakes_of_tidy h.tidy) (.inr hnothing)
  have hended : reading (w.backend.enqueue input) = false := by
    rw [reading_enqueue, hreading]
    rfl
  refine ⟨?_, ?_, ?_, .inl hignored, ?_⟩
  · rw [hlink]
    exact h.loggedIn
  · rw [hqueue, hbackend, hignored,
      awaited_enqueue_other (not_request_of_isCopyEnd hisEnd) (.inr hreading), ← hnothing]
    exact h.queue
  · rw [hlink, hbackend, openCopy_enqueue (.inr hreading)]
    have hread := h.copy
    rw [openCopy, hreading] at hread ⊢
    exact copyRead_none hread
  intro current hmode
  rw [hbackend] at hmode
  have hcopying := h.copying current hmode
  refine InCopy.ended (hbackend ▸ hended) hcopying.kind ?_
  rw [hbackend]
  exact front_enqueue hcopying.front fun _ => .inl hisEnd

/-! ### What the backend does -/

/-- The request that is next to be answered ends, or begins a COPY. -/
lemma Steady.executed (hlogged : w.link.state ≠ .login) {base after : Backend Nat}
    {request : Request Nat} {outcome : Outcome} {replies : List (Reply Nat)}
    (hqueue : Meets (Holds (request :: requestsIn base.unread) false) w.wire w.queue)
    (hexec : base.execute request outcome = some (after, replies))
    (hclosed : ∀ rows final status, outcome = .completes rows final status →
      copyRead w.link.copy w.wire = .none ∧ rows.foldl copyAfter .none = .none)
    (hfails : ∀ rows status, outcome = .fails rows status →
      request.kind.terminatesBatch ∨ syncNext base.unread)
    (hbegins : startsCopy outcome → (∀ input ∈ base.unread, rowOrSync input) ∧
        ∀ entry ∈ w.queue.entries, entry.tag ≤ request.tag ∨ entry.kind = .sync) :
    Steady { w with backend := after, wire := w.wire ++ replies, ignored := [] } := by
  have hread : copyRead w.link.copy (w.wire ++ replies) = if copies after then .copyIn else .none := by
    rw [copyRead_append]
    exact copyRead_execute hexec hclosed
  have hexecuted := execute_cases hexec
  have hmet : Meets (Holds (leftBy after.mode request (requestsIn base.unread))
      (after.mode == .skipping)) (w.wire ++ replies) w.queue :=
    Along.append (Along.mono (fun _ hholds => hholds.executed hexecuted) hqueue)
  cases hexecuted with
  | answered rows final status hext hrows hretires
  | ready _ rows errors status hterm hrows herrors =>
    exact ⟨hlogged, hmet, hread, .inl rfl, nofun⟩
  | failed rows status hext hrows =>
    refine ⟨hlogged, ?_, hread, .inl rfl, nofun⟩
    have hsync : syncNext base.unread := by
      rcases hfails rows status rfl with hterm | hsync
      · rw [hext] at hterm
        cases hterm
      · exact hsync
    have hsame : leftBy .skipping request (requestsIn base.unread) =
        (requestsIn base.unread).dropWhile fun other => other.kind != .sync :=
      dropWhile_of_failsAlone hsync
    rw [hsame] at hmet
    exact hmet
  | copying rows hkind hrows =>
    obtain ⟨hbase, hbehind⟩ := hbegins rfl
    have hnone := any_isCopyEnd_of_rows hbase
    have hreading : reading { base with
        mode := Mode.copyIn request
        batch := base.batch || !request.kind.terminatesBatch } = true := by
      unfold reading
      rw [hnone]
      rfl
    refine ⟨hlogged, ?_, ?_, .inl rfl, ?_⟩
    · rw [awaited_of_reading rfl hreading]
      exact hmet
    · rw [openCopy, if_pos hreading]
      exact hread
    intro current hmode
    cases hmode
    refine ⟨?_, ?_, fun _ => hbehind, fun _ => .inl ?_⟩
    · intro hsync
      rw [hsync] at hkind
      rcases hkind with hkind | hkind <;> cases hkind
    · intro input hinput
      exact hbase input (( takeWhile_prefix _).subset hinput)
    refine ⟨w.wire ++ drawn request rows, ⟨.copyInResponse, some request⟩, [], ?_, rfl, ?_⟩
    · change w.wire ++ drawn request (rows ++ [.copyInResponse]) = _
      rw [drawn_append, append_assoc]
      rfl
    · intro reply hreply
      cases hreply

lemma ignores_of_normal (h : copies backend = false) : ignores backend = [] := by
  unfold ignores
  split
  · rename_i current _ hmode
    rw [copies_of_mode hmode] at h
    cases h
  · rfl

lemma ignores_of_not_request (hunread : backend.unread = input :: rest)
    (hinput : ∀ request, input ≠ .request request) : ignores backend = [] := by
  unfold ignores
  split
  · rename_i request _ _ hrequest _
    rw [hunread] at hrequest
    exact absurd (List.cons.inj hrequest).1 (hinput request)
  · rfl

lemma ignores_sync (hunread : backend.unread = .request request :: rest)
    (hmode : backend.mode = .copyIn current) (hsync : request.kind = .sync) :
    ignores backend = if reading backend then [request] else [] := by
  have hreading : reading backend = !rest.any Input.isCopyEnd := by
    rw [reading, copies_of_mode hmode, hunread]
    rfl
  rw [hreading, ignores, hunread, hmode]
  dsimp only
  cases rest.any Input.isCopyEnd with
  | true => exact if_neg fun hboth => by cases hboth.2
  | false => exact if_pos ⟨hsync, rfl⟩

/-- A message the backend drops, with what the queue awaits unchanged. -/
lemma Steady.dropped (h : Steady w) {ignored : List (Request Nat)}
    (hunread : w.backend.unread = input :: rest)
    (hafter : after = { w.backend with unread := rest })
    (hawaited : awaited after ignored = awaited w.backend w.ignored)
    (hreading : reading after = reading w.backend)
    (hignored : w.ignored = [] → reading w.backend = false → ignored = [])
    (hfront : ∀ current, w.backend.mode = .copyIn current → input.isCopyEnd = false) :
    Steady { w with backend := after, wire := w.wire ++ [], ignored := ignored } := by
  subst hafter
  refine h.moved rfl rfl (append_nil _) rfl hreading hignored ?_ ?_
    fun current hcopying => hcopying.behind
  · change Meets (Holds (awaited { w.backend with unread := rest } ignored) _) w.wire w.queue
    rw [hawaited]
    exact h.queue
  intro current hmode hcopying other hother
  refine hcopying.front other ?_
  rw [hunread, takeWhile_cons_of_pos (by simp [hfront current hmode])]
  exact mem_cons_of_mem _ hother

/-- What has been sent behind a `Sync` that ends a discarded batch is awaited from then on. -/
lemma Steady.resumed (h : Steady w) (hunread : w.backend.unread = .request request :: rest)
    (hmode : w.backend.mode = .skipping) (hsync : request.kind = .sync) :
    Steady { w with
      backend := { w.backend with unread := rest, mode := .normal, batch := false }
      wire := w.wire ++ drawn request [.readyForQuery w.backend.status]
      ignored := [] } := by
  have hnot : copies w.backend = false := by rw [copies, hmode]
  have howed : owed w.backend = request :: requestsIn rest := by
    unfold owed
    rw [hmode, hunread]
    exact dropWhile_cons_of_neg (by simp [hsync])
  have hready : request.kind ∈ retirees (.readyForQuery w.backend.status) := by
    rw [hsync]
    exact mem_retirees_readyForQuery rfl _
  have hqueue := h.queue
  rw [awaited_of_not_copies hnot, howed] at hqueue
  refine ⟨h.loggedIn, ?_, ?_, .inl rfl, by simp⟩
  · exact .append (Along.mono (fun _ hholds => hholds.final hready) hqueue)
  · change copyRead w.link.copy (w.wire ++ _) = .none
    rw [copyRead_append, h.copy, openCopy, reading_of_not_copies hnot]
    rfl

/-- The backend reads its next message as an orderly run lets it. -/
structure Serving (w : World) (outcome : Outcome) (after : Backend Nat)
    (replies : List (Reply Nat)) : Prop where
  serve : w.backend.serve outcome = some (after, replies)
  sensible : sensible w.backend outcome = true
  fails : failing w.backend outcome = true → failsInOrder w.backend = true
  begins : startsCopy outcome = true → w.beginsAlone = true

section

variable (h : Steady w)
include h

/-- The request that is next to be answered is run, with no rows being read. -/
lemma Steady.answered (hended : reading w.backend = false) (hmode : w.backend.mode ≠ .skipping)
    (hawaited : awaited w.backend w.ignored = request :: requestsIn rest)
    (hexec : execute { w.backend with unread := rest } request outcome =
      some (after, replies)) (hsensible : sensible w.backend outcome)
    (hfails : failing w.backend outcome → (request.kind.terminatesBatch || syncNext rest))
    (hbegins : startsCopy outcome → (rest.all rowOrSync && w.queue.entries.all fun entry =>
        decide (entry.tag ≤ request.tag) || entry.kind == .sync)) :
    Steady { w with backend := after, wire := w.wire ++ replies, ignored := [] } := by
  have hqueue := h.queue
  rw [hawaited, beq_eq_false_iff_ne.mpr hmode] at hqueue
  refine @Steady.executed w h.loggedIn { w.backend with unread := rest } _ request outcome _
    hqueue hexec ?_ ?_ ?_
  · rintro rows final status rfl
    rw [sensible, Bool.and_eq_true, beq_iff_eq] at hsensible
    refine ⟨?_, hsensible.1⟩
    rw [h.copy, openCopy, hended]
    rfl
  · rintro rows status rfl
    exact (Bool.or_eq_true _ _).mp (hfails rfl)
  intro hstarts
  have halone := hbegins hstarts
  rw [Bool.and_eq_true, List.all_eq_true, List.all_eq_true] at halone
  refine ⟨halone.1, fun entry hentry => ?_⟩
  simpa using halone.2 entry hentry

/-- Outside a COPY the backend drops a message it does not owe an answer to. -/
lemma Steady.droppedOutside (hnot : copies w.backend = false)
    (hunread : w.backend.unread = input :: rest)
    (howed : owed { w.backend with unread := rest } = owed w.backend) :
    Steady { w with backend := { w.backend with unread := rest }, wire := w.wire ++ [] } := by
  have hafter : copies { w.backend with unread := rest } = false := hnot
  refine h.dropped hunread rfl ?_ ?_ (fun hnone _ => hnone) ?_
  · rw [awaited_of_not_copies hnot, awaited_of_not_copies hafter, howed]
  · rw [reading_of_not_copies hnot, reading_of_not_copies hafter]
  · intro current hmode
    rw [copies_of_mode hmode] at hnot
    cases hnot

variable (hs : Serving w outcome after replies)
include hs

lemma Steady.serve_normal (hmode : w.backend.mode = .normal)
    (hunread : w.backend.unread = input :: rest) :
    Steady { w with backend := after, wire := w.wire ++ replies } := by
  obtain ⟨hserve, hsensible, hfails, hbegins⟩ := hs
  have hnot : copies w.backend = false := by rw [copies, hmode]
  have hended := reading_of_not_copies hnot
  simp only [Backend.serve, failsInOrder, World.beginsAlone, hunread, hmode] at hserve hfails hbegins
  cases input with
  | request request =>
    have hdone := h.answered hended (by simp [hmode])
      (by rw [awaited_of_not_copies hnot, owed, hmode, hunread]; rfl) hserve hsensible hfails hbegins
    rw [← ignored_of_not_reading h hended] at hdone
    exact hdone
  | _ =>
    dsimp only at hserve
    rw [← hmode] at hserve
    cases hserve
    refine h.droppedOutside hnot hunread ?_
    simp only [owed, hmode, hunread]
    rfl

lemma Steady.serve_skipping (hmode : w.backend.mode = .skipping) (hunread : w.backend.unread = input :: rest) :
    Steady { w with backend := after, wire := w.wire ++ replies } := by
  have hnot : copies w.backend = false := by rw [copies, hmode]
  have hserve := hs.serve
  simp only [Backend.serve, hunread, hmode] at hserve
  cases input with
  | request request =>
    dsimp only at hserve
    split at hserve
    · next hsync =>
      cases hserve
      have hdone := h.resumed hunread hmode hsync
      rw [← ignored_of_not_reading h (reading_of_not_copies hnot)] at hdone
      exact hdone
    next hkind =>
    rw [← hmode] at hserve
    cases hserve
    refine h.droppedOutside hnot hunread ?_
    rw [owed, owed, hmode, hunread]
    exact (dropWhile_cons_of_pos (by simpa using hkind)).symm
  | _ =>
    dsimp only at hserve
    rw [← hmode] at hserve
    cases hserve
    refine h.droppedOutside hnot hunread ?_
    rw [owed, owed, hmode, hunread]
    rfl

lemma Steady.serve_copyIn (hmode : w.backend.mode = .copyIn current) (hunread : w.backend.unread = input :: rest) :
    Steady { w with
      backend := after, wire := w.wire ++ replies, ignored := w.ignored ++ ignores w.backend } := by
  obtain ⟨hserve, hsensible, hfails, hbegins⟩ := hs
  have hshorter : input.isCopyEnd = false →
      reading { w.backend with unread := rest } = reading w.backend := by
    intro hrow
    unfold reading
    rw [hunread, any_cons, hrow, Bool.false_or]
    rfl
  -- At the end of the rows their request ends.
  have hend : input.isCopyEnd → reading w.backend = false ∧
      awaited w.backend w.ignored = current :: requestsIn rest ∧
      w.ignored ++ ignores w.backend = [] := by
    intro hisEnd
    have hended : reading w.backend = false := by
      rw [reading, hunread, any_cons, hisEnd]
      exact Bool.and_false _
    rw [awaited_of_ended hmode hended, hunread, behindEnd, if_pos hisEnd,
      ignored_of_not_reading h hended,
      ignores_of_not_request hunread (not_request_of_isCopyEnd hisEnd)]
    exact ⟨hended, rfl, rfl⟩
  simp only [Backend.serve, failsInOrder, World.beginsAlone, hunread, hmode] at hserve hfails hbegins
  cases input with
  | request request =>
    have hsync : request.kind = .sync := by
      refine eq_of_beq ((h.copying current hmode).front (.request request) ?_)
      rw [hunread]
      exact mem_cons_self
    have hshort := hshorter rfl
    dsimp only at hserve
    rw [if_pos hsync, ← hmode] at hserve
    cases hserve
    refine h.dropped hunread rfl ?_ hshort ?_ (fun _ _ => rfl)
    · -- An ignored `Sync` stays on the queue unless the end of the rows has been sent.
      rw [ignores_sync hunread hmode hsync]
      cases hrows : reading w.backend with
      | true =>
        rw [hrows] at hshort
        rw [awaited_of_reading hmode hrows, @awaited_of_reading
          { w.backend with unread := rest } current _ hmode hshort, hunread]
        change current :: (w.ignored ++ [request] ++ requestsIn rest) =
          current :: (w.ignored ++ request :: requestsIn rest)
        rw [append_assoc]
        rfl
      | false =>
        rw [hrows] at hshort
        rw [awaited_of_ended hmode hrows, @awaited_of_ended
          { w.backend with unread := rest } current _ hmode hshort, hunread]
        rfl
    · intro hnone hended
      rw [hnone, ignores_sync hunread hmode hsync, hended]
      rfl
  | copyData =>
    dsimp only at hserve
    rw [← hmode] at hserve
    cases hserve
    rw [ignores_of_not_request hunread (by simp), append_nil w.ignored]
    refine h.dropped hunread rfl ?_ (hshorter rfl) (fun hnone _ => hnone) (fun _ _ => rfl)
    unfold awaited
    rw [hunread, hmode]
    rfl
  | copyDone =>
    obtain ⟨hended, hawaited, hnothing⟩ := hend rfl
    rw [hnothing]
    exact h.answered hended (by simp [hmode]) hawaited hserve hsensible hfails hbegins
  | copyFail =>
    obtain ⟨hended, hawaited, hnothing⟩ := hend rfl
    rw [hnothing]
    dsimp only at hserve
    rw [← hmode] at hserve
    refine h.answered hended (by simp [hmode]) hawaited hserve rfl (fun _ => hfails ?_) ?_
    · simp [failing, hunread]
    · intro hstarts
      cases hstarts

lemma Steady.serve : Steady { w with
      backend := after, wire := w.wire ++ replies, ignored := w.ignored ++ ignores w.backend } := by
  cases hunread : w.backend.unread with
  | nil =>
    have hserve := hs.serve
    rw [Backend.serve, hunread] at hserve
    cases hserve
  | cons input rest =>
    cases hmode : w.backend.mode with
    | normal =>
      rw [ignores_of_normal (by rw [copies, hmode]), append_nil]
      exact h.serve_normal hs hmode hunread
    | skipping =>
      rw [ignores_of_normal (by rw [copies, hmode]), append_nil]
      exact h.serve_skipping hs hmode hunread
    | copyIn current => exact h.serve_copyIn hs hmode hunread

end

lemma takeWhile_of_no_end {unread : List (Input Nat)} (h : unread.any Input.isCopyEnd = false) :
    unread.takeWhile (fun input => !input.isCopyEnd) = unread := by
  rw [List.any_eq_false] at h
  refine takeWhile_eq_self_iff.mpr ?_
  intro input hinput
  simpa using h input hinput

lemma no_end_of_reading (h : reading backend) : backend.unread.any Input.isCopyEnd = false := by
  rw [reading, Bool.and_eq_true, Bool.not_eq_true'] at h
  exact h.2

/-- A COPY that has ignored no `Sync` fails, or one whose end has been sent. -/
lemma Steady.abort (h : Steady w) (hmode : w.backend.mode = .copyIn current)
    (hexec : w.backend.execute current (.fails [] status) = some (after, replies))
    (hnothing : w.ignored = [])
    (hended : reading w.backend = false → syncBeforeEnd w.backend.unread = false ∧
      (current.kind.terminatesBatch ∨ syncNext (behindEnd w.backend.unread))) :
    Steady { w with backend := after, wire := w.wire ++ replies } := by
  have hfront := (h.copying current hmode).front
  have hqueue : Meets (Holds (current :: requestsIn w.backend.unread) false) w.wire w.queue ∧
      (current.kind.terminatesBatch = true ∨ syncNext w.backend.unread = true) := by
    have hmet := h.queue
    cases hreading : reading w.backend with
    | true =>
      rw [awaited_of_reading hmode hreading, hnothing, hmode] at hmet
      rw [takeWhile_of_no_end (no_end_of_reading hreading)] at hfront
      exact ⟨hmet, .inr (syncNext_of_rows hfront)⟩
    | false =>
      obtain ⟨hsync, hnext⟩ := hended hreading
      have hend : w.backend.unread.any Input.isCopyEnd := by
        rw [reading, copies_of_mode hmode] at hreading
        simpa using hreading
      have hsame := requestsIn_behindEnd hend hfront hsync
      rw [awaited_of_ended hmode hreading, ← hsame, hmode] at hmet
      unfold syncNext at hnext ⊢
      rw [← hsame] at hnext
      exact ⟨hmet, hnext⟩
  have hdone := @Steady.executed w h.loggedIn w.backend after current (.fails [] status) replies
    hqueue.1 hexec (fun _ _ _ h => by cases h) (fun _ _ _ => hqueue.2)
    (fun h => by cases h)
  rw [← hnothing] at hdone
  exact hdone

lemma execute_fails (h : backend.execute request (.fails [] status) = some (after, replies)) :
    ∃ rest, replies = ⟨.errorResponse, some request⟩ :: rest ∧ copyRead .none rest = .none ∧
      copies after = false ∧ after.unread = backend.unread := by
  simp only [Backend.execute, all_nil, if_true] at h
  split at h
  · cases h
    exact ⟨[⟨.readyForQuery status, some request⟩], rfl, rfl, rfl, rfl⟩
  · cases h
    exact ⟨[], rfl, rfl, rfl, rfl⟩

/-- A COPY that has ignored `Sync`s fails when nothing else is in flight: they are still on the
queue. -/
lemma Steady.fallIntoDebt (h : Steady w) (hn : Numbered w)
    (hmode : w.backend.mode = .copyIn current) (hreading : reading w.backend)
    (hexec : w.backend.execute current (.fails [] status) = some (after, replies))
    (howes : w.ignored ≠ []) (hcopy : w.link.copy = .copyIn)
    (hnotes : ∀ reply ∈ w.wire, isAsynchronous reply.message)
    (hunread : requestsIn w.backend.unread = []) :
    Indebted { w with backend := after, wire := w.wire ++ replies } := by
  obtain ⟨rest, hreplies, hread, hnot, hsame⟩ := execute_fails hexec
  obtain ⟨hsync, -, hbehind, -⟩ := h.copying current hmode
  have hholds := holds_now hnotes h.queue
  rw [awaited_of_reading hmode hreading, hmode] at hholds
  obtain ⟨entry, entries, hentries, hreal, rfl, -⟩ := hholds.head
  have hsyncs := hn.syncs hentries (hbehind hreading)
  have hone := holds_one hreal hholds.failed
  have hanswered := hone.executed (execute_cases hexec)
  have hleft : leftBy after.mode entry.request [] = owed after := by
    have hnothing : requestsIn after.unread = [] := by rw [hsame, hunread]
    unfold leftBy owed
    cases hafter : after.mode with
    | normal | skipping => simp [hnothing]
    | copyIn other =>
      rw [copies_of_mode hafter] at hnot
      cases hnot
  rw [hleft] at hanswered
  refine ⟨h.loggedIn, howes, hnot, hsame ▸ hunread, hcopy, ?_, ?_⟩
  · exact ⟨w.wire, _, rest, congrArg (w.wire ++ ·) hreplies, hnotes, rfl, hread⟩
  refine ⟨entry, entries, hentries, hreal, hsync, ?_, ?_⟩
  · intro other hother
    refine ⟨hsyncs other hother, ?_⟩
    cases hfake : other.isFake with
    | false => rfl
    | true =>
      have hmem : other ∈ w.queue.entries := by
        rw [hentries]
        exact mem_cons_of_mem _ hother
      have hterm := hholds.tidy.extended other hmem hfake
      rw [terminates, hsyncs other hother] at hterm
      cases hterm
  · exact .append (meets_instead hone.tidy hanswered hnotes h.queue)

/-! ### What is in flight -/

variable {wire : List (Reply Nat)}

lemma meets_note {expected : List (Request Nat)}
    (h : Meets (Holds expected failed) wire queue) (hasync : isAsynchronous message) :
    Meets (Holds expected failed) (wire ++ [⟨message, none⟩]) queue := by
  refine .append (Along.mono ?_ h)
  intro queue hholds
  refine ⟨⟨hholds.tidy, hasync⟩, ?_⟩
  change Holds expected failed (queue.receive message)
  rw [receive_asynchronous hholds.tidy hasync]
  exact hholds

lemma Announced.note (h : Announced wire)
    (hasync : isAsynchronous message) : Announced (wire ++ [⟨message, none⟩]) := by
  have hlonger {notes : List (Reply Nat)} : (∀ reply ∈ notes, isAsynchronous reply.message) →
      ∀ reply ∈ notes ++ [⟨message, none⟩], isAsynchronous reply.message = true := by
    intro hnotes reply hreply
    rcases mem_append.mp hreply with hold | hnew
    · exact hnotes reply hold
    · rw [mem_singleton.mp hnew]
      exact hasync
  rcases h with ⟨before, announcement, notes, rfl, hmessage, hnotes⟩ | hnotes
  · refine .inl ⟨before, announcement, notes ++ [⟨message, none⟩], ?_, hmessage, hlonger hnotes⟩
    rw [append_assoc]
    rfl
  · exact .inr (hlonger hnotes)

variable {rest : List (Reply Nat)} {passed : List BackendMessage} {log : List Event}
  {loop : Loop Nat}

lemma Announced.tail (h : Announced (reply :: rest)) : Announced rest := by
  rcases h with ⟨before, announcement, notes, hwire, hmessage, hnotes⟩ | hnotes
  · cases before with
    | nil =>
      obtain ⟨rfl, rfl⟩ := List.cons.inj hwire
      exact .inr hnotes
    | cons first before =>
      obtain ⟨rfl, rfl⟩ := List.cons.inj hwire
      exact .inl ⟨before, announcement, notes, rfl, hmessage, hnotes⟩
  · exact .inr fun other hother => hnotes other (mem_cons_of_mem _ hother)

lemma Steady.note (h : Steady w) (hasync : isAsynchronous message) :
    Steady { w with wire := w.wire ++ [⟨message, none⟩] } := by
  refine ⟨h.loggedIn, meets_note h.queue hasync, ?_, h.ignored, ?_⟩
  · change copyRead w.link.copy (w.wire ++ [⟨message, none⟩]) = _
    rw [copyRead_append]
    exact (copyAfter_asynchronous _ hasync).trans h.copy
  · intro current hmode
    obtain ⟨hsync, hfront, hbehind, hannounced⟩ := h.copying current hmode
    exact ⟨hsync, hfront, hbehind, fun hreading => (hannounced hreading).note hasync⟩

lemma Steady.receive (h : Steady w) (hwire : w.wire = reply :: rest)
    (hpump : w.loop.pumpBackend reply.message = .ok (passed, loop)) :
    Steady { w with loop := loop, wire := rest, log := log } := by
  obtain ⟨hqueue, hcopy, hstate⟩ := pumpBackend_link h.loggedIn hpump
  have hmet := h.queue
  rw [hwire] at hmet
  refine ⟨?_, ?_, ?_, h.ignored, ?_⟩
  · change loop.link.state ≠ .login
    rw [hstate]
    exact h.loggedIn
  · change Meets _ rest loop.link.outstanding
    rw [hqueue]
    exact hmet.2
  · change copyRead loop.link.copy rest = _
    rw [hcopy, ← h.copy, hwire]
    rfl
  intro current hmode
  obtain ⟨hsync, hfront, hbehind, hannounced⟩ := h.copying current hmode
  refine ⟨hsync, hfront, ?_, ?_⟩
  · intro hreading entry hentry
    change entry ∈ loop.link.outstanding.entries at hentry
    rw [hqueue] at hentry
    exact hbehind hreading entry ((receive_sublist _ _).subset hentry)
  intro hreading
  have hcame := hannounced hreading
  rw [hwire] at hcame
  exact hcame.tail

/-! ### With `Sync`s still to be taken back -/

section

variable (h : Indebted w)
include h

lemma Indebted.indebted : w.indebted := by
  have hmode := h.mode
  have howes : w.ignored.isEmpty = false := by
    cases hempty : w.ignored.isEmpty with
    | false => rfl
    | true => exact absurd (List.isEmpty_iff.mp hempty) h.owes
  rw [World.indebted, howes, hmode]
  rfl

/-- The client's end of the rows pays the debt. -/
lemma Indebted.dispatchEnd (hable : dispatchable dispatch)
    (hend : endsRows dispatch.message) : Steady (w.send dispatch) := by
  obtain ⟨entry, syncs, hentries, hreal, hkind, hsyncs, hmet⟩ := h.queue
  obtain ⟨notes, error, rest, hwire, hnotes, herror, hread⟩ := h.wire
  obtain ⟨input, hisEnd, hbackend, hlink, hqueue, hignored⟩ := send_end hable hend
    ((if_pos h.copy).trans
      (discardTrailingSyncs_of_syncs hentries hkind fun other hother => (hsyncs other hother).1))
    (takeReadyFakes_of_real rfl hreal) (.inl h.copy)
  have hnot : copies (w.backend.enqueue input) = false := h.mode
  have hawaited : awaited (w.backend.enqueue input) [] = owed w.backend := by
    rw [awaited_enqueue_other (not_request_of_isCopyEnd hisEnd)
      (.inr (reading_of_not_copies h.mode)), awaited_of_not_copies h.mode]
  refine ⟨?_, ?_, ?_, .inl hignored, ?_⟩
  · rw [hlink]
    exact h.loggedIn
  · rw [hqueue, hbackend, hignored, hawaited]
    exact hmet
  · rw [hlink, hbackend, openCopy, reading_of_not_copies hnot]
    change copyRead .none w.wire = .none
    rw [hwire, copyRead_append, copyRead_asynchronous _ hnotes]
    change copyRead (copyAfter .none error.message) rest = .none
    rw [herror]
    exact hread
  · intro current hmode
    rw [hbackend] at hmode
    rw [copies_of_mode hmode] at hnot
    cases hnot

lemma Indebted.dispatchOther (hable : dispatchable dispatch)
    (hkind : fromFrontend dispatch.message = none)
    (hend : endsRows dispatch.message = false) : Indebted (w.send dispatch) := by
  obtain ⟨entry, syncs, hentries, hreal, hrest⟩ := h.queue
  obtain ⟨hlink, hignored⟩ := send_other_link hkind hend (takeReadyFakes_of_real hentries hreal)
  have hqueue : (w.send dispatch).queue = w.queue := congrArg ServerLink.outstanding hlink
  have hbackend : copies (w.send dispatch).backend = copies w.backend ∧
      (w.send dispatch).backend.mode = w.backend.mode ∧
      requestsIn (w.send dispatch).backend.unread = requestsIn w.backend.unread ∧
      owed (w.send dispatch).backend = owed w.backend := by
    rcases input_other hable hkind hend w.recorded with hnone | hrow
    · rw [send_backend, hnone]
      exact ⟨rfl, rfl, rfl, rfl⟩
    have hnot : copies (w.backend.enqueue .copyData) = false := h.mode
    have howed := @awaited_enqueue_other w.backend [] .copyData (by simp) (.inl rfl)
    rw [awaited_of_not_copies hnot, awaited_of_not_copies h.mode] at howed
    rw [send_backend, hrow]
    refine ⟨rfl, rfl, ?_, howed⟩
    change requestsIn (w.backend.unread ++ [.copyData]) = _
    rw [requestsIn_append]
    exact append_nil _
  obtain ⟨hcopies, hmode, hunread, howed⟩ := hbackend
  refine ⟨hlink ▸ h.loggedIn, hignored ▸ h.owes, hcopies.trans h.mode, hunread.trans h.unread,
    hlink ▸ h.copy, h.wire, ?_⟩
  rw [hqueue, howed, hmode]
  exact h.queue

/-- The backend has nothing left to read but rows. -/
lemma Indebted.serve (hserve : w.backend.serve outcome = some (after, replies)) : Indebted { w with
      backend := after, wire := w.wire ++ replies, ignored := w.ignored ++ ignores w.backend } := by
  have hnot := h.mode
  have hnorequest {request : Request Nat} {rest : List (Input Nat)} :
      w.backend.unread ≠ .request request :: rest := by
    intro hunread
    have hnone := h.unread
    rw [hunread] at hnone
    cases hnone
  rw [ignores_of_normal hnot, append_nil w.ignored]
  cases serve_cases hserve with
  | ran request rest _ _ hunread _ _ | resumed request rest hunread _ _ =>
    exact absurd hunread hnorequest
  | ended current input rest ending _ _ _ hcopying _ _ =>
    rw [copies_of_mode hcopying] at hnot
    cases hnot
  | interrupted current request rest ending _ _ hunread _ _ _ => exact absurd hunread hnorequest
  | dropped input rest hunread _ _ =>
    have hsame : requestsIn rest = requestsIn w.backend.unread := by
      rw [hunread]
      cases input with
      | request request => exact absurd hunread hnorequest
      | _ => rfl
    have howed : owed { w.backend with unread := rest } = owed w.backend := by
      unfold owed
      dsimp only
      rw [hsame]
    rw [append_nil]
    refine ⟨h.loggedIn, h.owes, hnot, hsame.trans h.unread, h.copy, h.wire, ?_⟩
    rw [howed]
    exact h.queue

lemma Indebted.note (hasync : isAsynchronous message) :
    Indebted { w with wire := w.wire ++ [⟨message, none⟩] } := by
  obtain ⟨notes, error, rest, hwire, hnotes, herror, hread⟩ := h.wire
  obtain ⟨entry, syncs, hentries, hreal, hkind, hsyncs, hmet⟩ := h.queue
  refine ⟨h.loggedIn, h.owes, h.mode, h.unread, h.copy, ?_, ?_⟩
  · refine ⟨notes, error, rest ++ [⟨message, none⟩], ?_, hnotes, herror, ?_⟩
    · change w.wire ++ [⟨message, none⟩] = _
      rw [hwire, append_assoc]
      rfl
    · rw [copyRead_append, hread]
      exact copyAfter_asynchronous _ hasync
  · exact ⟨entry, syncs, hentries, hreal, hkind, hsyncs, meets_note hmet hasync⟩

/-- Until the client has ended the rows only notifications are received. -/
lemma Indebted.receive {rest : List (Reply Nat)} (hwire : w.wire = reply :: rest) (hother : reply.message ≠ .errorResponse)
    (hpump : w.loop.pumpBackend reply.message = .ok (passed, loop)) :
    Indebted { w with loop := loop, wire := rest, log := log } := by
  obtain ⟨notes, error, behind, hshape, hnotes, herror, hread⟩ := h.wire
  obtain ⟨entry, syncs, hentries, hreal, hkind, hsyncs, hmet⟩ := h.queue
  obtain ⟨hqueue, hcopy, hstate⟩ := pumpBackend_link h.loggedIn hpump
  rw [hwire] at hshape
  cases notes with
  | nil =>
    obtain ⟨rfl, -⟩ := List.cons.inj hshape
    exact absurd herror hother
  | cons note notes =>
    obtain ⟨rfl, rfl⟩ := List.cons.inj hshape
    have hasync := hnotes reply mem_cons_self
    have hsame : loop.link.outstanding = w.queue := by
      rw [hqueue, OutstandingQueue.receive, apply_asynchronous hasync]
      exact takeReadyFakes_of_real hentries hreal
    rw [hwire] at hmet
    have hlater := hmet.2
    dsimp only at hlater
    rw [receive_asynchronous hmet.1.1 hasync] at hlater
    refine ⟨?_, h.owes, h.mode, h.unread, ?_, ?_, ?_⟩
    · change loop.link.state ≠ .login
      rw [hstate]
      exact h.loggedIn
    · change loop.link.copy = .copyIn
      rw [hcopy, copyAfter_asynchronous _ hasync]
      exact h.copy
    · exact ⟨notes, error, behind, rfl,
        fun other hmem => hnotes other (mem_cons_of_mem _ hmem), herror, hread⟩
    refine ⟨entry, syncs, ?_, hreal, hkind, hsyncs, ?_⟩
    · change loop.link.outstanding.entries = _
      rw [hsame]
      exact hentries
    · change Meets _ _ ⟨[entry], loop.link.outstanding.queryFailed⟩
      rw [hsame]
      exact hlater

end

/-! ### Every orderly run -/

structure Corresponds (w : World) : Prop where
  numbered : Numbered w
  account : Steady w ∨ Indebted w

lemma Corresponds.loggedIn (h : Corresponds w) : w.link.state ≠ .login := by
  rcases h.account with hsteady | hindebted
  · exact hsteady.loggedIn
  · exact hindebted.loggedIn

lemma account_dispatch (h : Corresponds w) (hable : dispatchable dispatch)
    (horderly : w.orderly (.dispatch dispatch)) :
    Steady (w.send dispatch) ∨ Indebted (w.send dispatch) := by
  unfold World.orderly at horderly
  dsimp only at horderly
  cases hkind : fromFrontend dispatch.message with
  | some kind =>
    rw [hkind] at horderly
    simp only [Bool.and_eq_true, Bool.or_eq_true, beq_iff_eq, Bool.not_eq_true'] at horderly
    obtain ⟨⟨hturn, hrows⟩, hfree⟩ := horderly
    rcases h.account with hsteady | hindebted
    · refine .inl (hsteady.dispatchRequest hkind hable ?_ ?_)
      · rcases hturn with ((hfake | hawake) | hsync) | hbatch
        · exact .inl hfake
        · exact .inr (.inl hawake)
        · exact .inr (.inr (.inl hsync))
        · exact .inr (.inr (.inr hbatch))
      intro hreading
      rcases hrows with hnot | hsync
      · rw [hreading] at hnot
        cases hnot
      · exact hsync
    · rw [hindebted.indebted] at hfree
      cases hfree
  | none =>
    rw [hkind] at horderly
    cases hend : endsRows dispatch.message with
    | false =>
      rcases h.account with hsteady | hindebted
      · exact .inl (hsteady.dispatchOther hable hkind hend)
      · exact .inr (hindebted.dispatchOther hable hkind hend)
    | true =>
      rw [hend] at horderly
      have hinOrder : w.endsInOrder := horderly
      rw [World.endsInOrder, Bool.and_eq_true, List.all_eq_true] at hinOrder
      obtain ⟨hseen, hback⟩ := hinOrder
      rcases h.account with hsteady | hindebted
      · cases hreading : reading w.backend with
        | true =>
          refine .inl (hsteady.dispatchEnd_reading h.numbered hable hend hreading ?_)
          intro reply hreply
          exact bne_iff_ne.mp (hseen reply hreply)
        | false =>
          refine .inl (hsteady.dispatchEnd_over hable hend hreading ?_)
          intro hcopy entry hentry
          have hnone : w.indebted = false := by
            rw [World.indebted, ignored_of_not_reading hsteady hreading]
            rfl
          have hlast : w.queue.entries.getLast? = some entry := hentry
          rw [hcopy, hreading, hnone, hlast] at hback
          simpa using hback
      · exact .inl (hindebted.dispatchEnd hable hend)

lemma account_abort (h : Corresponds w)
    (habort : w.backend.abortCopy status = some (after, replies))
    (horderly : w.abortsInOrder) :
    Steady { w with backend := after, wire := w.wire ++ replies } ∨
      Indebted { w with backend := after, wire := w.wire ++ replies } := by
  obtain ⟨current, hmode, -⟩ := abortCopy_cases habort
  have hexec : w.backend.execute current (.fails [] status) = some (after, replies) := by
    rwa [Backend.abortCopy, hmode] at habort
  rcases h.account with hsteady | hindebted
  · rw [World.abortsInOrder, hmode] at horderly
    dsimp only at horderly
    cases hreading : reading w.backend with
    | true =>
      rw [hreading, if_pos rfl, Bool.or_eq_true] at horderly
      by_cases hnothing : w.ignored = []
      · refine .inl (hsteady.abort hmode hexec hnothing ?_)
        intro hfalse
        rw [hreading] at hfalse
        cases hfalse
      rcases horderly with hempty | hquiet
      · exact absurd (List.isEmpty_iff.mp hempty) hnothing
      · simp only [Bool.and_eq_true, beq_iff_eq, List.all_eq_true, List.isEmpty_iff] at hquiet
        exact .inr (hsteady.fallIntoDebt h.numbered hmode hreading hexec hnothing
          hquiet.1.1 hquiet.1.2 hquiet.2)
    | false =>
      rw [hreading, if_neg Bool.false_ne_true, Bool.and_eq_true, Bool.or_eq_true,
        Bool.not_eq_true'] at horderly
      exact .inl (hsteady.abort hmode hexec (ignored_of_not_reading hsteady hreading)
        fun _ => horderly)
  · have hnot := hindebted.mode
    rw [copies_of_mode hmode] at hnot
    cases hnot

lemma Corresponds.next (h : Corresponds w) {action : Action}
    (horderly : w.orderly action) (hnext : w.next action = some w') : Corresponds w' := by
  refine ⟨h.numbered.next h.loggedIn hnext, ?_⟩
  cases action with
  | dispatch dispatch =>
    simp only [World.next] at hnext
    split at hnext
    · rename_i hable
      cases hnext
      exact account_dispatch h hable horderly
    · cases hnext
  | serve outcome =>
    simp only [World.next] at hnext
    split at hnext
    · rename_i hsensible
      obtain ⟨⟨after, replies⟩, hserve, rfl⟩ := map_eq_some_iff.mp hnext
      simp only [World.orderly, Bool.and_eq_true, Bool.or_eq_true, Bool.not_eq_true'] at horderly
      rcases h.account with hsteady | hindebted
      · refine .inl (hsteady.serve ⟨hserve, hsensible, ?_, ?_⟩)
        · intro hfailing
          rcases horderly.1 with hnot | hturn
          · rw [hfailing] at hnot
            cases hnot
          · exact hturn
        intro hstarts
        rcases horderly.2 with hnot | halone
        · rw [hstarts] at hnot
          cases hnot
        · exact halone
      · exact .inr (hindebted.serve hserve)
    · cases hnext
  | abortCopy status =>
    obtain ⟨⟨after, replies⟩, habort, rfl⟩ := map_eq_some_iff.mp hnext
    exact account_abort h habort horderly
  | notify message =>
    obtain ⟨⟨after, replies⟩, hnotify, rfl⟩ := map_eq_some_iff.mp hnext
    unfold Backend.notify at hnotify
    split at hnotify
    · rename_i hasync
      cases hnotify
      rcases h.account with hsteady | hindebted
      · exact .inl (hsteady.note hasync)
      · exact .inr (hindebted.note hasync)
    · cases hnotify
  | receive =>
    simp only [World.next] at hnext
    split at hnext
    · cases hnext
    rename_i reply rest hwire
    split at hnext
    · cases hnext
    rename_i hpump
    cases hnext
    rcases h.account with hsteady | hindebted
    · exact .inl (hsteady.receive hwire hpump)
    · refine .inr (hindebted.receive hwire ?_ hpump)
      rw [World.orderly, hindebted.indebted, hwire] at horderly
      simpa using horderly

lemma corresponds_start : Corresponds World.start := by
  refine ⟨⟨List.Pairwise.nil, ?_⟩, .inl ⟨?_, ?_, rfl, .inl rfl, ?_⟩⟩
  · intro entry hentry
    cases hentry
  · intro hlogin
    cases hlogin
  · exact ⟨⟨by simp [World.start, World.queue, ServerLink.new, OutstandingQueue.new],
      by simp [World.start, World.queue, ServerLink.new, OutstandingQueue.new]⟩, rfl, rfl⟩
  · intro current hmode
    cases hmode

namespace World

lemma corresponds_of_reachable
    (h : (system.restrict fun w action => w.orderly action).Reachable w) :
    Corresponds w := by
  refine h.invariant ?_ ?_
  · rintro _ rfl
    exact corresponds_start
  · intro u action v _ hu hstep
    exact hu.next hstep.1 hstep.2

lemma entries_of_holds_nil {queue : OutstandingQueue Nat}
    (h : Holds [] failed queue) : queue.entries = [] := by
  cases hentries : queue.entries with
  | nil => rfl
  | cons entry entries =>
    have hreal : entry.isFake = false := h.tidy.head entry (by rw [hentries]; rfl)
    have hnone := h.requests
    rw [hentries, filter_cons_of_pos (by simp [hreal])] at hnone
    cases hnone

/-- **Rows copied from the client leave nothing behind.**  In every orderly run each message of the
backend is accepted, and once the backend has read everything, waits for no rows and has been
received, the queue is empty and no COPY is open on the link. -/
theorem copies_leave_nothing_behind
    (h : (system.restrict fun w action => w.orderly action = true).Reachable w) :
    (∀ reply rest, w.wire = reply :: rest →
      ∃ reaction, (w.link.observeBackend reply.message).1 = .ok reaction) ∧
      (w.wire = [] → w.backend.unread = [] → (∀ current, w.backend.mode ≠ .copyIn current) →
        w.link.outstanding.entries = [] ∧ w.link.copy = .none) := by
  have hcorresponds := corresponds_of_reachable h
  constructor
  · intro reply rest hwire
    rw [observeBackend_eq hcorresponds.loggedIn]
    rcases hcorresponds.account with hsteady | hindebted
    · have hmet := hsteady.queue
      rw [hwire] at hmet
      exact accepted_of_matched hmet.1
    obtain ⟨entry, syncs, -, -, -, -, hmet⟩ := hindebted.queue
    obtain ⟨notes, error, behind, hshape, hnotes, herror, -⟩ := hindebted.wire
    rw [hwire] at hshape
    cases notes with
    | nil =>
      obtain ⟨rfl, -⟩ := List.cons.inj hshape
      rw [herror]
      exact ⟨_, rfl⟩
    | cons note notes =>
      obtain ⟨rfl, -⟩ := List.cons.inj hshape
      rw [apply_asynchronous (hnotes reply mem_cons_self)]
      exact ⟨_, rfl⟩
  intro hwire hunread hmode
  have hnot : copies w.backend = false := by
    cases hcopies : copies w.backend with
    | false => rfl
    | true =>
      obtain ⟨current, hcopying⟩ := mode_of_copies hcopies
      exact absurd hcopying (hmode current)
  rcases hcorresponds.account with hsteady | hindebted
  · have hmet := hsteady.queue
    have howed : owed w.backend = [] := by
      unfold owed
      rw [hunread]
      cases w.backend.mode with
      | _ => rfl
    rw [hwire, awaited_of_not_copies hnot, howed] at hmet
    refine ⟨entries_of_holds_nil hmet, ?_⟩
    have hread := hsteady.copy
    rw [hwire, openCopy, reading_of_not_copies hnot] at hread
    exact hread
  · obtain ⟨notes, error, behind, hshape, -⟩ := hindebted.wire
    rw [hwire] at hshape
    cases notes with
    | nil => cases hshape
    | cons note notes => cases hshape

/-! ### Runs on fixed inputs -/

def replay (test : World → Action → Bool) (actions : List Action) : Option World :=
  System.run (System.guarded next test) start actions

lemma reachable_of_replay {test : World → Action → Bool} {actions : List Action}
    (h : replay test actions = some w) :
    (system.restrict fun w action => test w action).Reachable w :=
  System.reachable_of_guarded_run (fun _ _ _ => id) rfl h

def own (message : FrontendMessage Bytes) : Action := .dispatch (.client message)

/-- A COPY in the extended protocol with a `Sync` behind its `Execute`: it fails after the `Sync`
has been ignored, and the client ends the rows before the error is received. -/
def failedCopy : List Action :=
  [own (.execute []), own .sync, .serve (.beginsCopy []), .receive, own .copyData,
    .serve (.beginsCopy []), .abortCopy .idle, own .copyDone, own .sync,
    .receive, .serve (.beginsCopy []), .serve (.beginsCopy []), .serve (.beginsCopy []), .receive]

theorem copies_leave_nothing_behind_failedCopy : ∃ w, replay orderly failedCopy = some w ∧
      visible w.log = [.copyInResponse, .errorResponse, .readyForQuery .idle] ∧
      w.link.outstanding.entries = [] ∧ w.link.copy = .none := by
  obtain ⟨w, hw, hvisible, hwire, hbackend⟩ : ∃ w, replay orderly failedCopy = some w ∧
      visible w.log = [.copyInResponse, .errorResponse, .readyForQuery .idle] ∧
      w.wire = [] ∧ w.backend = ⟨[], .normal, .idle, false⟩ :=
    exists_of_any (by decide +kernel)
  have hnothing := (copies_leave_nothing_behind (reachable_of_replay hw)).2 hwire
    (by rw [hbackend]) (by rw [hbackend]; intro current hmode; cases hmode)
  exact ⟨w, hw, hvisible, hnothing⟩

/-- The same client, with everything up to the `Sync` behind the rows sent at once: the ignored
`Sync` is never taken back and the COPY never closed. -/
theorem pipelined_copy_leaves_a_sync : ∃ w, system.Reachable w ∧
      visible w.log = [.copyInResponse, .commandComplete, .readyForQuery .idle] ∧
      w.wire = [] ∧ w.backend = ⟨[], .normal, .idle, false⟩ ∧
      w.link.outstanding.entries.map Entry.kind = [.sync] ∧ w.link.copy = .copyIn := by
  let actions : List Action :=
    [own (.execute []), own .sync, own .copyData, own .copyDone, own .sync,
      .serve (.beginsCopy []), .serve (.beginsCopy []), .serve (.beginsCopy []),
      .serve (.completes [] .commandComplete .idle),
      .serve (.completes [] (.readyForQuery .idle) .idle), .receive, .receive, .receive]
  exact (exists_of_any (x := replay (fun _ _ => true) actions) (by decide +kernel)).imp
    fun w hw => ⟨(reachable_of_replay hw.1).of_restrict, hw.2⟩

end World

end PgElastic.Proxy.Streams
