import PgElastic.Capacity.Scheduler

/-!
# Public operations as sequences of moves

For every public operation of the allocator: started in a sound state it does not
panic, and apart from an accepted configuration change it is a sequence of
elementary moves.  Two more facts are carried along for the fairness results:

* what happens before the final drain only takes tickets out of queues (`Quiet`);
* an operation that frees capacity drains the queue afterwards, and the others
  free none, so `Drained` is kept.  The exception is `drain_to`.
-/

namespace PgElastic.Capacity

open Library Option OrderedMap CapacityBudget List Relation

variable {T : Type} [LinearOrder T]

namespace Allocator

/-- A sequence of moves that adds no ticket. -/
structure Quiet (a a' : Allocator T) : Prop where
  moves : Moves a a'
  queues : ∀ t, (a'.queueOf t).Sublist (a.queueOf t)
  nextTicket : a'.nextTicket = a.nextTicket

lemma Quiet.refl (a : Allocator T) : Quiet a a :=
  ⟨.refl, fun _ => .refl _, rfl⟩

variable {a a' : Allocator T} {t : T} {rt : TenantRuntime T}

lemma Quiet.trans {b c : Allocator T} (hab : Quiet a b) (hbc : Quiet b c) : Quiet a c :=
  ⟨hab.moves.trans hbc.moves, fun t => (hbc.queues t).trans (hab.queues t),
    hbc.nextTicket.trans hab.nextTicket⟩

lemma Quiet.sound (h : Quiet a a') (hs : a.Sound) : a'.Sound :=
  (Moves.sound h.moves hs).1

variable {rt' : TenantRuntime T}

/-- One move that replaces a single row and lengthens no queue. -/
lemma Quiet.of_move (hmove : Move a a') (hrt : a.tenants.get? t = some rt)
    (htenants : a'.tenants = a.tenants.insert t rt') (hqueue : rt'.queue.Sublist rt.queue)
    (hnext : a'.nextTicket = a.nextTicket) : Quiet a a' := by
  refine ⟨.single hmove, ?_, hnext⟩
  intro t'
  rw [queueOf_insert a rt' htenants]
  split
  · rename_i heq
    rw [heq, queueOf_eq hrt]
    exact hqueue
  · exact .refl _

/-- `close_server` of any identifier. -/
lemma closeServer_quiet (hc : a.Consistent) (id : ServerId) :
    ∃ found a', a.closeServer id = some (found, a') ∧ Quiet a a' ∧ a'.servers = a.servers.erase id ∧
      ∀ t, (a'.tenants.get? t).isSome = (a.tenants.get? t).isSome := by
  cases hconn : a.servers.get? id with
  | none =>
    refine ⟨none, a, ?_, .refl a, ?_, fun _ => rfl⟩
    · simp only [closeServer, hconn]
    · exact (erase_of_get?_eq_none hconn).symm
  | some conn =>
    obtain ⟨rt, entry, rt', budget, hrt, hentry, hleave, hdelta, hbudget, heq⟩ :=
      closeServer_spec hc hconn
    obtain ⟨-, -, -, -, hqueue, -, -⟩ := TenantRuntime.leave_eq_some hleave
    refine ⟨some conn, _, heq, ?_, rfl, ?_⟩
    · exact .of_move (.closeServer hconn hrt hentry hleave hdelta hbudget) hrt rfl
        (by rw [hqueue]) rfl
    intro t
    change ((a.tenants.insert conn.tenant rt').get? t).isSome = _
    rw [get?_insert]
    split
    · rename_i heq
      rw [heq, hrt]
      rfl
    · rfl

/-- A change of one row leaves every head stuck if that row's is and the other tenants become no
more servable. -/
lemma Drained.row (hd : a.Drained) (htenants : a'.tenants = a.tenants.insert t rt')
    (hrow : rt'.migrating ∨ rt'.queue = [] ∨ (rt'.idle.last? = none ∧ ¬ a'.Servable t))
    (hservable : ∀ other, other ≠ t → a'.Servable other → a.Servable other) : a'.Drained := by
  intro other found hfound
  rw [htenants] at hfound
  rcases get?_insert_cases hfound with ⟨rfl, rfl⟩ | ⟨hne, hold⟩
  · exact hrow
  · have hstuck := hd other found hold
    exact hstuck.imp_right (Or.imp_right (And.imp_right (mt (hservable other hne))))

/-- A change of one row that frees nothing leaves every head stuck. -/
lemma Drained.insert (hd : a.Drained) (hrt : a.tenants.get? t = some rt)
    (htenants : a'.tenants = a.tenants.insert t rt') (hservable : a'.Servable = a.Servable)
    (hmigrating : rt.migrating → rt'.migrating) (hqueue : rt.queue = [] → rt'.queue = [])
    (hidle : rt.idle.last? = none → rt'.idle.last? = none) : a'.Drained := by
  refine hd.row htenants ?_ fun _ _ => by rw [hservable]; exact id
  rw [hservable]
  exact (hd _ rt hrt).imp hmigrating (Or.imp hqueue (And.imp_left hidle))

lemma markCloseNeeded_quiet (hc : a.Consistent) (id : ServerId) :
    ∃ marked a', a.markCloseNeeded id = some (marked, a') ∧ Quiet a a' ∧
      (a.Drained → a'.Drained) := by
  rcases markCloseNeeded_spec hc id with heq | ⟨conn, rt, hconn, hneeded, hrt, heq⟩
  · exact ⟨false, a, heq, .refl a, fun h => h⟩
  · refine ⟨true, _, heq, ?_, ?_⟩
    · exact .of_move (.flag hconn hneeded hrt) hrt rfl (.refl _) rfl
    · exact fun hd => hd.insert hrt rfl rfl (fun h => h) (fun h => h) fun h => h

variable {conn : ServerConn T} {m : Allocator T} {id : ServerId}

/-- Retiring an active server parks or closes it; the other servers stay as they
are. -/
lemma retireActive_quiet (hc : a.Consistent)
    (hconn : a.servers.get? id = some conn) (hstate : conn.state = .active) :
    ∃ disposition a', a.retireActive id = some (disposition, a') ∧ Quiet a a' ∧
      ∀ other, other ≠ id → a'.servers.get? other = a.servers.get? other := by
  by_cases hclose : conn.closeNeeded ∨ conn.credit = .cancel
  · obtain ⟨found, a', heq, hquiet, hservers, -⟩ := closeServer_quiet hc id
    refine ⟨.closed id, a', ?_, hquiet, ?_⟩
    · simp only [retireActive, hconn, if_pos hclose, heq, bind_eq_bind, bind_some]
    · intro other hne
      rw [hservers, get?_erase, if_neg hne]
  obtain ⟨rt, entry, hrt, -, -⟩ := hc.owner hconn
  rw [not_or] at hclose
  have hneeded : conn.closeNeeded = false := by simpa using hclose.1
  refine ⟨.idle id, a.checkedIn id conn rt, ?_, ?_, ?_⟩
  · simp only [retireActive, hconn, nextSeq, hrt, hneeded, hclose.2, or_self_iff,
      Bool.false_eq_true, if_false, bind_eq_bind, bind_some]
    rfl
  · exact .of_move (.checkIn hconn hstate hneeded hclose.2 hrt) hrt rfl (.refl _) rfl
  · intro other hne
    exact get?_insert_of_ne _ _ hne

/-- The identifiers collected from the server table. -/
lemma mem_serversWhere (hc : a.Consistent) {test : ServerConn T → Bool} :
    id ∈ a.serversWhere test ↔ ∃ conn, a.servers.get? id = some conn ∧ test conn := by
  unfold serversWhere
  rw [List.mem_map]
  constructor
  · rintro ⟨conn, hmem, rfl⟩
    obtain ⟨hvalue, htest⟩ := mem_filter.mp hmem
    obtain ⟨key, hkey⟩ := (mem_values_iff _ _).mp hvalue
    rw [(hc.server key conn hkey).1]
    exact ⟨conn, hkey, htest⟩
  · rintro ⟨conn, hconn, htest⟩
    refine ⟨conn, mem_filter.mpr ⟨?_, htest⟩, (hc.server id conn hconn).1⟩
    exact (mem_values_iff _ _).mpr ⟨id, hconn⟩

/-- No identifier is collected twice. -/
lemma nodup_serversWhere (hc : a.Consistent) (test : ServerConn T → Bool) :
    (a.serversWhere test).Nodup := by
  have hids : a.servers.values.map (·.id) = a.servers.entries.map Prod.fst := by
    unfold values
    rw [List.map_map]
    apply map_congr_left
    rintro ⟨key, conn⟩ hentry
    exact (hc.server key conn ((a.servers.mem_entries_iff key conn).mp hentry)).1
  have hnodup : (a.servers.values.map (·.id)).Nodup := by
    rw [hids]
    exact (pairwise_map.mpr a.servers.sorted).imp fun hlt => ne_of_lt hlt
  exact (filter_sublist.map _).nodup hnodup

/-- Closing every server of a tenant. -/
lemma closeAll_spec (hs : a.Sound) (hrt : a.tenants.get? t = some rt) :
    ∃ a', a.closeAll (a.serversWhere fun conn => conn.tenant = t) = some a' ∧ a'.Sound ∧ Quiet a a' ∧
      (∀ id conn, a'.servers.get? id = some conn → conn.tenant ≠ t) ∧
      (a'.tenants.get? t).isSome := by
  have hall id conn (hconn : a.servers.get? id = some conn) (htenant : conn.tenant = t) :
      id ∈ a.serversWhere fun conn => conn.tenant = t :=
    (mem_serversWhere hs.consistent).mpr ⟨conn, hconn, decide_eq_true htenant⟩
  obtain ⟨a', heq, hs', hquiet, hnone, hbound⟩ := foldlM_invariant
    (f := fun a server => (closeServer a server).map (·.2))
    (motive := fun rest b => b.Sound ∧ Quiet a b ∧
      (∀ id conn, b.servers.get? id = some conn → conn.tenant = t → id ∈ rest) ∧
      (b.tenants.get? t).isSome)
    (by
      rintro id rest b ⟨hsound, hquiet, hcover, hsome⟩
      obtain ⟨found, b', hclose, hstep, hservers, htenants⟩ :=
        closeServer_quiet hsound.consistent id
      refine ⟨b', by rw [hclose]; rfl, hstep.sound hsound, hquiet.trans hstep, ?_, ?_⟩
      · intro other conn hconn htenant
        rw [hservers] at hconn
        obtain ⟨hne, hconn⟩ := get?_of_erase hconn
        exact (mem_cons.mp (hcover other conn hconn htenant)).resolve_left hne
      · rw [htenants]
        exact hsome)
    (show a.Sound ∧ Quiet a a ∧ _ ∧ _ from ⟨hs, .refl a, hall, by rw [hrt]; rfl⟩)
  refine ⟨a', heq, hs', hquiet, ?_, hbound⟩
  intro id conn hconn htenant
  cases hnone id conn hconn htenant

lemma markAll_spec (hs : a.Sound) (servers : List ServerId) :
    ∃ a', a.markAll servers = some a' ∧ Quiet a a' ∧ (a.Drained → a'.Drained) := by
  obtain ⟨a', heq, -, hquiet, hdrained⟩ := foldlM_invariant
    (f := fun a server => (markCloseNeeded a server).map (·.2))
    (motive := fun _ b => b.Sound ∧ Quiet a b ∧ (a.Drained → b.Drained))
    (by
      rintro id rest b ⟨hsound, hquiet, hdrained⟩
      obtain ⟨marked, b', hmark, hstep, hkeep⟩ := markCloseNeeded_quiet hsound.consistent id
      exact ⟨b', by rw [hmark]; rfl, hstep.sound hsound, hquiet.trans hstep,
        fun h => hkeep (hdrained h)⟩)
    (show a.Sound ∧ Quiet a a ∧ _ from ⟨hs, .refl a, id⟩)
  exact ⟨a', heq, hquiet, hdrained⟩

/-- Retiring distinct active servers: each is still active when its turn comes. -/
lemma retireAll_spec (hs : a.Sound) {servers : List ServerId} (hnodup : servers.Nodup)
    (hactive : ∀ id ∈ servers, ∃ conn, a.servers.get? id = some conn ∧ conn.state = .active) :
    ∃ a', a.retireAll servers = some a' ∧ Quiet a a' := by
  obtain ⟨a', heq, -, hquiet, -⟩ := foldlM_invariant
    (f := fun a server => (retireActive a server).map (·.2))
    (motive := fun rest b => b.Sound ∧ Quiet a b ∧ rest.Nodup ∧
      ∀ id ∈ rest, ∃ conn, b.servers.get? id = some conn ∧ conn.state = .active)
    (by
      rintro id rest b ⟨hsound, hquiet, hdistinct, hwaiting⟩
      obtain ⟨conn, hconn, hstate⟩ := hwaiting id mem_cons_self
      obtain ⟨disposition, b', hretire, hstep, hothers⟩ :=
        retireActive_quiet hsound.consistent hconn hstate
      obtain ⟨hnotin, hrest⟩ := nodup_cons.mp hdistinct
      refine ⟨b', by rw [hretire]; rfl, hstep.sound hsound, hquiet.trans hstep, hrest, ?_⟩
      intro other hother
      rw [hothers other fun heq => hnotin (heq ▸ hother)]
      exact hwaiting other (mem_cons_of_mem _ hother))
    (show a.Sound ∧ Quiet a a ∧ _ ∧ _ from ⟨hs, .refl a, hnodup, hactive⟩)
  exact ⟨a', heq, hquiet⟩

/-! ## Operations that drain the queue -/

/-- What an operation does that changes no configuration: moves, no servable
tenant left waiting if none was before, and tickets served from the front. -/
structure Progress (a : Allocator T) (grants : List (Grant T)) (a' : Allocator T) : Prop where
  moves : Moves a a'
  drained : a.Drained → a'.Drained
  order : ∀ t, (ticketsFor grants t ++ (a'.queueOf t).map (·.id)).Sublist
    ((a.queueOf t).map (·.id) ++ [a.nextTicket])

open Progress

/-- Taking tickets out of queues keeps the order of the rest. -/
lemma Quiet.order (h : Quiet a a') (t : T) :
    ((a'.queueOf t).map (·.id)).Sublist ((a.queueOf t).map (·.id) ++ [a.nextTicket]) :=
  ((h.queues t).map _).trans (sublist_append_left _ _)

lemma Progress.of_quiet (h : Quiet a a') (hdrained : a.Drained → a'.Drained) : Progress a [] a' :=
  ⟨h.moves, hdrained, h.order⟩

lemma Progress.refl (a : Allocator T) : Progress a [] a :=
  of_quiet (.refl a) id

/-- Quiet moves followed by a drain. -/
lemma drainQueue_progress (hs : m.Sound) (hquiet : Quiet a m) :
    ∃ grants a', m.drainQueue = some (grants, a') ∧ Progress a grants a' := by
  obtain ⟨grants, a', heq, hmoves, hdrained, hserves⟩ := drainQueue_spec hs
  refine ⟨grants, a', heq, hquiet.moves.trans hmoves, fun _ => hdrained, ?_⟩
  intro t
  rw [← hserves t]
  exact hquiet.order t

lemma release_spec (hs : a.Sound) (lease : Lease T) :
    ∃ outcome a', a.release lease = some (outcome, a') ∧ Progress a outcome.grants a' := by
  cases hconn : a.servers.get? lease.server with
  | none =>
    refine ⟨{ disposition := .stale, grants := [] }, a, ?_, refl a⟩
    simp only [release, hconn]
  | some conn =>
    by_cases hstale : conn.epoch ≠ lease.epoch ∨ conn.state ≠ .active
    · refine ⟨{ disposition := .stale, grants := [] }, a, ?_, refl a⟩
      simp only [release, hconn, if_pos hstale]
    by_cases hpinned : a.quorumLost ∧ conn.credit ≠ .cancel
    · refine ⟨{ disposition := .pinned lease, grants := [] }, a, ?_, refl a⟩
      simp only [release, hconn, if_neg hstale, if_pos hpinned]
    have hactive : conn.state = .active := by
      rw [not_or, not_not, not_not] at hstale
      exact hstale.2
    obtain ⟨disposition, m, hretire, hquiet, -⟩ :=
      retireActive_quiet hs.consistent hconn hactive
    obtain ⟨grants, a', hdrain, hprogress⟩ := drainQueue_progress (hquiet.sound hs) hquiet
    refine ⟨{ disposition := disposition, grants := grants }, a', ?_, hprogress⟩
    simp only [release, hconn, if_neg hstale, if_neg hpinned, hretire, hdrain,
      bind_eq_bind, bind_some]

lemma queuedTotal_closeServer {server : ServerId} {found : Option (ServerConn T)}
    (hc : a.Consistent) (h : a.closeServer server = some (found, a')) :
    a'.queuedTotal = a.queuedTotal := by
  cases hconn : a.servers.get? server with
  | none =>
    simp only [closeServer, hconn] at h
    cases h
    rfl
  | some conn =>
    obtain ⟨rt, entry, rt', budget, -, -, -, -, -, heq⟩ := closeServer_spec hc hconn
    rw [heq] at h
    cases h
    rfl

lemma queuedTotal_retireActive {server : ServerId} {disposition : Disposition T}
    (hc : a.Consistent) (h : a.retireActive server = some (disposition, a')) :
    a'.queuedTotal = a.queuedTotal := by
  unfold retireActive at h
  split at h
  · cases h
    rfl
  split at h
  · obtain ⟨⟨found, m⟩, hclose, h⟩ := bind_eq_some_iff.mp h
    cases h
    exact queuedTotal_closeServer hc hclose
  · obtain ⟨rt, -, h⟩ := bind_eq_some_iff.mp h
    cases h
    rfl

/-- What a release grants it takes off the queues. -/
lemma length_release {lease : Lease T} {outcome : ReleaseOutcome T} (hs : a.Sound)
    (h : a.release lease = some (outcome, a')) :
    outcome.grants.length + a'.queuedTotal = a.queuedTotal := by
  unfold release at h
  split at h
  · cases h
    exact Nat.zero_add _
  rename_i conn hconn
  split at h
  · cases h
    exact Nat.zero_add _
  rename_i hlive
  rw [not_or, not_not, not_not] at hlive
  split at h
  · cases h
    exact Nat.zero_add _
  obtain ⟨disposition, m, hretire, hquiet, -⟩ := retireActive_quiet hs.consistent hconn hlive.2
  simp only [hretire, bind_eq_bind, bind_some] at h
  obtain ⟨⟨grants, b⟩, hdrain, h⟩ := bind_eq_some_iff.mp h
  cases h
  exact (length_drainLoop (hquiet.sound hs) hdrain).trans
    (queuedTotal_retireActive hs.consistent hretire)

lemma backendDied_spec (hs : a.Sound) (server : ServerId) :
    ∃ grants a', a.backendDied server = some (grants, a') ∧ Progress a grants a' := by
  obtain ⟨found, m, hclose, hquiet, -, -⟩ := closeServer_quiet hs.consistent server
  obtain ⟨grants, a', hdrain, hprogress⟩ := drainQueue_progress (hquiet.sound hs) hquiet
  refine ⟨grants, a', ?_, hprogress⟩
  simp only [backendDied, hclose, hdrain, bind_eq_bind, bind_some]

/-- A filtered queue is counted out of the total without underflow. -/
lemma Consistent.queue_length_le (hc : a.Consistent) (hrt : a.tenants.get? t = some rt) :
    rt.queue.length ≤ a.queuedTotal ∧ rt.clients ≤ a.clientsLive := by
  rw [hc.queuedTotal, hc.clientsLive]
  exact ⟨le_sumOf (f := fun _ row => (TenantRuntime.queue row).length) hrt,
    le_sumOf (f := fun _ row => TenantRuntime.clients row) hrt⟩

lemma cancelTicket_spec (hs : a.Sound) (t : T) (ticket : TicketId) :
    ∃ removed a', a.cancelTicket t ticket = some (removed, a') ∧ Progress a [] a' := by
  cases hrt : a.tenants.get? t with
  | none =>
    refine ⟨false, a, ?_, refl a⟩
    simp only [cancelTicket, hrt]
  | some rt =>
    let keep : Ticket T → Bool := fun queued => queued.id ≠ ticket
    have hshort : (rt.queue.filter keep).length ≤ rt.queue.length := length_filter_le _ _
    obtain ⟨hqueued, -⟩ := hs.consistent.queue_length_le hrt
    have htotal : rt.queue.length - (rt.queue.filter keep).length ≤ a.queuedTotal := by omega
    refine ⟨decide (0 < rt.queue.length - (rt.queue.filter keep).length), { a with
      tenants := a.tenants.insert t { rt with queue := rt.queue.filter keep }
      queuedTotal := a.queuedTotal - (rt.queue.length - (rt.queue.filter keep).length) },
      ?_, of_quiet ?_ ?_⟩
    · simp only [cancelTicket, hrt, retainTickets, checkedSub_of_le hshort,
        checkedSub_of_le htotal, bind_eq_bind, bind_some, keep]
    · refine .of_move (.dequeue hrt filter_sublist ?_) hrt rfl filter_sublist rfl
      omega
    · intro hd
      refine hd.insert hrt rfl rfl id (fun hempty => ?_) id
      simp only [hempty, filter_nil]

/-- The tickets that expire and those that stay make up the queues. -/
lemma expired_length (tenants : OrderedMap T (TenantRuntime T)) (late : Ticket T → Bool)
    (now : Timestamp) :
    (tenants.entries.flatMap fun entry =>
        (entry.2.queue.takeWhile late).map (expireTicket now entry.1)).length +
      sumOf (fun _ rt => (rt.queue.dropWhile late).length) tenants =
      sumOf (fun _ rt => rt.queue.length) tenants := by
  unfold sumOf sumEntries
  induction tenants.entries with
  | nil => rfl
  | cons entry rest ih =>
    have hsplit : (entry.2.queue.takeWhile late).length +
        (entry.2.queue.dropWhile late).length = entry.2.queue.length := by
      rw [← length_append, takeWhile_append_dropWhile]
    simp only [flatMap_cons, length_append, length_map, map_cons, sum_cons] at ih ⊢
    omega

lemma expireQueued_spec (hs : a.Sound) (now : Timestamp) :
    ∃ expired a', a.expireQueued now = some (expired, a') ∧ Progress a [] a' := by
  let late : Ticket T → Bool := overdue now a.admission.maxWait
  let expired : List (Expired T) := a.tenants.entries.flatMap fun entry =>
    (entry.2.queue.takeWhile late).map (expireTicket now entry.1)
  have hsplit : expired.length + sumOf (fun _ rt => (rt.queue.dropWhile late).length) a.tenants =
        a.queuedTotal := by
    rw [hs.consistent.queuedTotal]
    exact expired_length a.tenants late now
  have hle : expired.length ≤ a.queuedTotal := by omega
  refine ⟨expired, { a with
    tenants := a.tenants.mapValues fun _ rt => { rt with queue := rt.queue.dropWhile late }
    queuedTotal := a.queuedTotal - expired.length },
    ?_, of_quiet ⟨?_, ?_, rfl⟩ ?_⟩
  · exact bind_eq_some_iff.mpr ⟨_, checkedSub_of_le hle, rfl⟩
  · refine .single (.expire late ?_)
    omega
  · intro t
    unfold queueOf
    rw [get?_mapValues, Option.map_map]
    cases a.tenants.get? t with
    | none => exact .refl _
    | some rt => exact dropWhile_sublist _
  intro hd t rt' hrt'
  change (a.tenants.mapValues _).get? t = some rt' at hrt'
  rw [get?_mapValues, map_eq_some_iff] at hrt'
  obtain ⟨rt, hrt, rfl⟩ := hrt'
  rcases hd t rt hrt with hmigrating | hempty | hstuck
  · exact .inl hmigrating
  · refine .inr (.inl ?_)
    simp only [hempty, dropWhile_nil]
  · exact .inr (.inr hstuck)

/-- Setting the flags of one row: the tenant may become unservable, not
servable. -/
lemma setFlags_progress (hrt : a.tenants.get? t = some rt) (migrating : Bool) (storageUsed : Nat) :
    Quiet a { a with
      tenants := a.tenants.insert t { rt with
        migrating := migrating
        storageUsed := storageUsed } } ∧
    ((rt.migrating → migrating) → a.Drained → Drained { a with
      tenants := a.tenants.insert t { rt with
        migrating := migrating
        storageUsed := storageUsed } }) := by
  constructor
  · exact .of_move (.setFlags hrt migrating storageUsed) hrt rfl (.refl _) rfl
  · exact fun hkeep hd => hd.insert hrt rfl rfl hkeep id id

lemma beginMigration_spec (hs : a.Sound) (t : T) :
    ∃ result a', a.beginMigration t = some (result, a') ∧ Progress a [] a' := by
  cases hrt : a.tenants.get? t with
  | none =>
    refine ⟨.error (.unknownTenant t), a, ?_, refl a⟩
    simp only [beginMigration, hrt]
  | some rt =>
    obtain ⟨hquiet, hdrained⟩ := setFlags_progress hrt true rt.storageUsed
    obtain ⟨a', hmark, hquiet', hdrained'⟩ := markAll_spec (hquiet.sound hs)
      (a.serversWhere fun conn => conn.tenant = t)
    refine ⟨.ok (), a', ?_, of_quiet (hquiet.trans hquiet') ?_⟩
    · simp only [beginMigration, hrt, bind_eq_bind]
      exact bind_eq_some_iff.mpr ⟨a', hmark, rfl⟩
    · intro hd
      exact hdrained' (hdrained (fun _ => rfl) hd)

lemma finishMigration_spec (hs : a.Sound) (t : T) :
    ∃ result a', a.finishMigration t = some (result, a') ∧
      Progress a (result.toOption.getD []) a' := by
  cases hrt : a.tenants.get? t with
  | none =>
    refine ⟨.error (.unknownTenant t), a, ?_, refl a⟩
    simp only [finishMigration, hrt]
  | some rt =>
    obtain ⟨hquiet, -⟩ := setFlags_progress hrt false rt.storageUsed
    obtain ⟨grants, a', hdrain, hprogress⟩ := drainQueue_progress (hquiet.sound hs) hquiet
    refine ⟨.ok grants, a', ?_, hprogress⟩
    simp only [finishMigration, hrt, bind_eq_bind]
    exact bind_eq_some_iff.mpr ⟨(grants, a'), hdrain, rfl⟩

lemma setStorageUsed_spec (a : Allocator T) (t : T) (bytes : Nat) :
    Progress a [] (a.setStorageUsed t bytes).2 := by
  unfold setStorageUsed
  cases hrt : a.tenants.get? t with
  | none => exact .refl a
  | some rt =>
    obtain ⟨hquiet, hdrained⟩ := setFlags_progress hrt rt.migrating bytes
    exact .of_quiet hquiet (hdrained id)

lemma checkStorage_spec (hc : a.Consistent) (t : T) (additional : Nat) :
    ∃ result, a.checkStorage t additional = some result := by
  unfold checkStorage tenant
  cases hentry : a.budget.tenants.get? t with
  | none => exact ⟨_, rfl⟩
  | some entry =>
    obtain ⟨rt, hrt⟩ := hc.runtime hentry
    simp only [hrt, bind_eq_bind, bind_some]
    split <;> exact ⟨_, rfl⟩

lemma setAdmission_progress (a : Allocator T) (admission : AdmissionSpec) :
    Progress a [] { a with admission := admission } := by
  refine .of_quiet ⟨?_, fun _ => .refl _, rfl⟩ id
  exact .single (.setAdmission a admission)

/-! ## Clients -/

lemma connectClient_spec (hs : a.Sound) (t : T) :
    ∃ result a', a.connectClient t = some (result, a') ∧ Progress a [] a' := by
  unfold connectClient tenant
  cases hentry : a.budget.tenants.get? t with
  | none => exact ⟨_, a, rfl, refl a⟩
  | some entry =>
    obtain ⟨rt, hrt⟩ := hs.consistent.runtime hentry
    simp only [hrt, bind_eq_bind, bind_some]
    split
    · exact ⟨_, a, rfl, refl a⟩
    split
    · exact ⟨_, a, rfl, refl a⟩
    · refine ⟨_, _, rfl, of_quiet ?_ ?_⟩
      · exact .of_move (.connect hrt) hrt rfl (.refl _) rfl
      · exact fun hd => hd.insert hrt rfl rfl id id id

lemma dropClient_quiet (hs : a.Sound) {client : ClientId}
    (hclient : a.clients.get? client = some t) :
    ∃ a', a.dropClient client t = some a' ∧ Quiet a a' := by
  obtain ⟨rt, hrt⟩ := isSome_iff_exists.mp (hs.consistent.client client t hclient).2
  obtain ⟨entry, -, hrow⟩ := hs.consistent.rows hrt
  obtain ⟨hqueued, hclients⟩ := hs.consistent.queue_length_le hrt
  have hone : 1 ≤ rt.clients := by
    rw [hrow.clients]
    have hle := le_sumOf (f := fun _ owner => if owner = t then 1 else 0) hclient
    simp only [if_true] at hle
    exact hle
  have hlive : 1 ≤ a.clientsLive := le_trans hone hclients
  let keep : Ticket T → Bool := fun ticket => ticket.client ≠ client
  have hshort : (rt.queue.filter keep).length ≤ rt.queue.length := length_filter_le _ _
  have htotal : rt.queue.length - (rt.queue.filter keep).length ≤ a.queuedTotal := by omega
  refine ⟨{ a with
    clients := a.clients.erase client
    tenants := a.tenants.insert t { rt with
      clients := rt.clients - 1
      queue := rt.queue.filter keep }
    queuedTotal := a.queuedTotal - (rt.queue.length - (rt.queue.filter keep).length)
    clientsLive := a.clientsLive - 1 }, ?_, ?_⟩
  · simp only [dropClient, hrt, checkedSub_of_le hone, retainTickets, checkedSub_of_le hshort,
      checkedSub_of_le htotal, checkedSub_of_le hlive, bind_eq_bind, bind_some, keep]
  · refine .of_move (.dropClient hclient hrt filter_sublist
      (Nat.sub_add_cancel hone) (Nat.sub_add_cancel hlive) ?_) hrt rfl filter_sublist rfl
    omega

lemma disconnectClient_spec (hs : a.Sound) (client : ClientId) :
    ∃ grants a', a.disconnectClient client = some (grants, a') ∧ Progress a grants a' := by
  cases hclient : a.clients.get? client with
  | none =>
    refine ⟨[], a, ?_, refl a⟩
    simp only [disconnectClient, hclient]
  | some t =>
    obtain ⟨m, hdrop, hquiet⟩ := dropClient_quiet hs hclient
    have hsm := hquiet.sound hs
    obtain ⟨m', hretire, hquiet'⟩ := retireAll_spec hsm (nodup_serversWhere hsm.consistent
        fun conn => conn.client = some client && conn.state = .active)
      (by
        intro id hid
        obtain ⟨conn, hconn, htest⟩ := (mem_serversWhere hsm.consistent).mp hid
        rw [Bool.and_eq_true] at htest
        exact ⟨conn, hconn, of_decide_eq_true htest.2⟩)
    obtain ⟨grants, a', hdrain, hprogress⟩ :=
      drainQueue_progress (hquiet'.sound hsm) (hquiet.trans hquiet')
    refine ⟨grants, a', ?_, hprogress⟩
    simp only [disconnectClient, hclient, hdrop, hretire, hdrain, bind_eq_bind, bind_some]

/-! ## Configuration -/

/-- Removing a tenant closes its servers, forgets it and drains the queue. -/
lemma removeTenant_spec (hs : a.Sound) (id : T) :
    ∃ result a', a.removeTenant id = some (result, a') ∧
      Progress a (result.toOption.getD []) a' ∧ ∀ e, result = .error e → a' = a := by
  cases hentry : a.budget.tenants.get? id with
  | none =>
    refine ⟨.error (.unknownTenant id), a, ?_, refl a, fun _ _ => rfl⟩
    simp [removeTenant, CapacityBudget.contains, hentry]
  | some entry =>
    obtain ⟨rt, hrt⟩ := hs.consistent.runtime hentry
    obtain ⟨m, hclose, hsm, hquiet, hnone, hbound⟩ := closeAll_spec hs hrt
    obtain ⟨rt', hrt'⟩ := isSome_iff_exists.mp hbound
    obtain ⟨entry', hentry', -⟩ := hsm.consistent.rows hrt'
    obtain ⟨budget, hbudget, -, -, -, -, -⟩ :=
      CapacityBudget.removeTenant_spec hsm.consistent.budget hentry'
    obtain ⟨hqueued, hclients⟩ := hsm.consistent.queue_length_le hrt'
    let forgotten : Allocator T := { m with
      clients := m.clients.filter fun _ owner => owner ≠ id
      tenants := m.tenants.erase id
      clientsLive := m.clientsLive - rt'.clients
      queuedTotal := m.queuedTotal - rt'.queue.length
      budget := budget }
    have hforget : Move m forgotten :=
      .forget hrt' hentry' hnone hbudget (Nat.sub_add_cancel hclients) (Nat.sub_add_cancel hqueued)
    have hquiet' : Quiet m forgotten := by
      refine ⟨.single hforget, ?_, rfl⟩
      intro t
      simp only [queueOf, forgotten, get?_erase]
      split
      · exact nil_sublist _
      · exact .refl _
    obtain ⟨grants, a', hdrain, hprogress⟩ :=
      drainQueue_progress (hforget.sound hsm) (hquiet.trans hquiet')
    refine ⟨.ok grants, a', ?_, hprogress, by simp⟩
    have hcontains : a.budget.contains id := by
      simp [CapacityBudget.contains, hentry]
    simp only [removeTenant, hcontains, Bool.not_true, Bool.false_eq_true, if_false, hclose,
      forgetTenant, hrt', checkedSub_of_le hclients, checkedSub_of_le hqueued, hbudget,
      bind_eq_bind, bind_some]
    exact bind_eq_some_iff.mpr ⟨(grants, a'), hdrain, rfl⟩

/-- An operation that reconfigures: rejected without effect, or accepted and
followed by moves. -/
structure Reconfigured (a : Allocator T) (grants : List (Grant T)) (a' : Allocator T) : Prop where
  sound : a'.Sound
  drained : a.Drained → a'.Drained
  steps : (grants = [] ∧ a' = a) ∨ ∃ m, Reconfigure a m ∧ (∀ t, m.queueOf t = a.queueOf t) ∧
    m.nextTicket = a.nextTicket ∧ Moves m a' ∧ m.Serves grants a'

lemma Reconfigured.rejected (hs : a.Sound) : Reconfigured a [] a :=
  ⟨hs, id, .inl ⟨rfl, rfl⟩⟩

/-- An accepted change followed by a drain. -/
lemma Reconfigure.drain (h : Reconfigure a m) (hs : a.Sound)
    (hqueues : ∀ t, m.queueOf t = a.queueOf t) (hnext : m.nextTicket = a.nextTicket) :
    ∃ grants a', m.drainQueue = some (grants, a') ∧ Reconfigured a grants a' := by
  have hsm := h.sound hs
  obtain ⟨grants, a', heq, hmoves, hdrained, hserves⟩ := drainQueue_spec hsm
  exact ⟨grants, a', heq, (Moves.sound hmoves hsm).1, fun _ => hdrained,
    .inr ⟨m, h, hqueues, hnext, hmoves, hserves⟩⟩

lemma setTenantSpec_spec (hs : a.Sound) (id : T) (spec : TenantSpec) :
    ∃ result a', a.setTenantSpec id spec = some (result, a') ∧
      Reconfigured a (result.toOption.getD []) a' := by
  obtain ⟨answer, hanswer, -⟩ := updateTenant_spec hs.consistent.budget id spec
  cases answer with
  | error e =>
    refine ⟨.error e, a, ?_, Reconfigured.rejected hs⟩
    simp only [setTenantSpec, hanswer, bind_eq_bind, bind_some]
  | ok budget =>
    obtain ⟨grants, a', hdrain, hsteps⟩ :=
      (Reconfigure.setTenantSpec hanswer).drain hs (fun _ => rfl) rfl
    refine ⟨.ok grants, a', ?_, hsteps⟩
    simp only [setTenantSpec, hanswer, bind_eq_bind, bind_some]
    exact bind_eq_some_iff.mpr ⟨(grants, a'), hdrain, rfl⟩

lemma setPoolSpec_spec (hs : a.Sound) (spec : PoolSpec) :
    ∃ result a', a.setPoolSpec spec = some (result, a') ∧
      Reconfigured a (result.toOption.getD []) a' := by
  cases hanswer : a.budget.setPoolSpec spec with
  | error e =>
    refine ⟨.error e, a, ?_, Reconfigured.rejected hs⟩
    simp only [setPoolSpec, hanswer]
  | ok budget =>
    obtain ⟨grants, a', hdrain, hsteps⟩ :=
      (Reconfigure.setPoolSpec hanswer).drain hs (fun _ => rfl) rfl
    refine ⟨.ok grants, a', ?_, hsteps⟩
    simp only [setPoolSpec, hanswer, bind_eq_bind]
    exact bind_eq_some_iff.mpr ⟨(grants, a'), hdrain, rfl⟩

/-! ## Credit and the waiting tenants -/

lemma Servable.exists_entry (h : a.Servable t) : ∃ entry, a.budget.tenants.get? t = some entry := by
  cases hentry : a.budget.tenants.get? t with
  | some entry => exact ⟨entry, rfl⟩
  | none =>
    have hnone : a.classify t = none := by
      simp [classify, tenant, hentry]
    rcases h with h | h
    · rw [hnone] at h
      cases h
    · rw [hnone] at h
      cases h

/-- A full pool without free credit serves nobody. -/
lemma not_servable_of_full (hlive : a.budget.total ≤ a.budget.liveTotal)
    (hfree : a.budget.free = 0) (t : T) : ¬ a.Servable t := by
  intro h
  obtain ⟨entry, hentry⟩ := h.exists_entry
  rcases (servable_iff hentry).mp h with ⟨-, hroom⟩ | ⟨-, -, hpositive⟩ <;> omega

variable {entry : TenantEntry}

/-- When a row only grows, whoever can be served afterwards could be served
before. -/
lemma Servable.of_recounts (hc : a.Consistent) {live : Nat}
    (hentry : a.budget.tenants.get? t = some entry)
    (hbudget : a.budget.Recounts t entry live a'.budget) (hle : entry.live ≤ live) {t' : T}
    (h : a'.Servable t') (hrow : t' ≠ t ∨ live = entry.live) : a.Servable t' := by
  have hliveTotal := hbudget.liveTotal
  have hclaimed := hbudget.claimed hc.budget
  have htotal : a'.budget.total = a.budget.total := by
    rw [CapacityBudget.total, hbudget.spec]
    rfl
  have hfree : a'.budget.free ≤ a.budget.free := by
    rw [hbudget.consistent.free_eq, hc.budget.free_eq, htotal]
    simp only [TenantEntry.surplus] at hclaimed
    omega
  obtain ⟨entry', hentry'⟩ := h.exists_entry
  have hsame : a.budget.tenants.get? t' = some entry' := by
    rw [hbudget.tenants t'] at hentry'
    by_cases ht' : t' = t
    · rcases hrow with hne | heq
      · exact absurd ht' hne
      · rw [if_pos ht', heq] at hentry'
        rw [ht', hentry]
        exact hentry'
    · rw [if_neg ht'] at hentry'
      exact hentry'
  rw [servable_iff hsame]
  rcases (servable_iff hentry').mp h with ⟨hlow, hroom⟩ | ⟨hhigh, hcap, hpositive⟩
  · left
    omega
  · right
    omega

/-- Opening a server frees nothing; the tenant itself must not be waiting unless
the credit is a cancel. -/
lemma Drained.opened (hd : a.Drained) (hc : a.Consistent)
    {budget : CapacityBudget T} {credit : CreditKind} (client : ClientId)
    (hrt : a.tenants.get? t = some rt) (hentry : a.budget.tenants.get? t = some entry)
    (hbudget : a.budget.Recounts t entry (entry.live + liveDelta credit) budget)
    (hidle : credit = .cancel ∨ rt.queue = []) : (a.opened t rt credit client budget).Drained := by
  have hback : ∀ {t'}, (a.opened t rt credit client budget).Servable t' →
      (t' ≠ t ∨ credit = .cancel) → a.Servable t' := by
    intro t' hservable hrow
    apply Servable.of_recounts hc hentry hbudget (Nat.le_add_right _ _) hservable
    rcases hrow with hne | hcancel
    · exact .inl hne
    · refine .inr ?_
      rw [hcancel]
      rfl
  refine hd.row rfl ?_ fun _ hne h => hback h (.inl hne)
  rcases hidle with hcancel | hempty
  · exact (hd t rt hrt).imp_right (Or.imp_right (And.imp_right (mt fun h => hback h (.inr hcancel))))
  · exact .inr (.inl hempty)

/-- Binding a tenant reserves capacity and frees none. -/
lemma addTenant_spec (hs : a.Sound) (id : T) (spec : TenantSpec) :
    Reconfigured a [] (a.addTenant id spec).2 := by
  unfold addTenant
  cases hanswer : a.budget.insertTenant id spec with
  | error e => exact Reconfigured.rejected hs
  | ok budget =>
    obtain ⟨hnone, hspec, hrows, hlive, hconsistent, -⟩ :=
      insertTenant_ok hs.consistent.budget hanswer
    have hadd := Reconfigure.addTenant (a := a) hanswer
    have hunbound : a.tenants.get? id = none := by
      have hbound := hs.consistent.bound id
      rw [hnone, isSome_none] at hbound
      exact not_isSome_iff_eq_none.mp (by simp [hbound])
    have hqueues : ∀ t, queueOf
        { a with budget := budget, tenants := a.tenants.insert id .default } t =
          a.queueOf t := by
      intro t
      rw [queueOf_insert a TenantRuntime.default rfl]
      split
      · rename_i heq
        simp [queueOf, heq, hunbound, TenantRuntime.default]
      · rfl
    refine ⟨hadd.sound hs, ?_, .inr ⟨_, hadd, hqueues, rfl, .refl, ?_⟩⟩
    · intro hd
      refine hd.row rfl (.inr (.inl rfl)) fun t hne hservable => ?_
      obtain ⟨entry, hentry⟩ := hservable.exists_entry
      have hold : a.budget.tenants.get? t = some entry := by
        change budget.tenants.get? t = some entry at hentry
        rw [hrows, get?_insert_of_ne _ _ hne] at hentry
        exact hentry
      have htotal : budget.total = a.budget.total := by
        rw [CapacityBudget.total, hspec]
        rfl
      have hclaimed : a.budget.claimed ≤ budget.claimed := by
        have hsum := sumOf_insert
          (fun _ e => max (TenantEntry.guaranteed e) e.live) a.budget.tenants id
          { spec := spec, live := 0 }
        rw [hnone, elim_none, add_zero] at hsum
        unfold CapacityBudget.claimed
        rw [hrows, hsum]
        exact Nat.le_add_right _ _
      have hfree : budget.free ≤ a.budget.free := by
        rw [hconsistent.free_eq, hs.consistent.budget.free_eq, htotal]
        omega
      rw [servable_iff hold]
      rcases (servable_iff hentry).mp hservable with ⟨hlow, hroom⟩ | ⟨hhigh, hcap, hpos⟩
      · left
        change budget.liveTotal < budget.total at hroom
        rw [hlive, htotal] at hroom
        exact ⟨hlow, hroom⟩
      · right
        change 0 < budget.free at hpos
        exact ⟨hhigh, hcap, lt_of_lt_of_le hpos hfree⟩
    · exact Serves.refl_of_queues fun _ => rfl

/-! ## Preparing a scale-down -/

omit [LinearOrder T] in
lemma mem_of_minByKey {key : ServerConn T → Nat} {conns : List (ServerConn T)}
    {conn : ServerConn T} : minByKey key conns = some conn → conn ∈ conns := by
  induction conns generalizing conn with
  | nil =>
    intro h
    cases h
  | cons head rest ih =>
    intro h
    unfold minByKey at h
    cases hrest : minByKey key rest with
    | none =>
      simp only [hrest, some.injEq] at h
      exact h ▸ mem_cons_self
    | some best =>
      simp only [hrest] at h
      split at h
      · cases h
        exact mem_cons_of_mem _ (ih hrest)
      · cases h
        exact mem_cons_self

lemma leastIdle_spec (hc : a.Consistent)
    (h : minByKey (·.seq) (a.servers.values.filter fun conn => conn.state = .idle) = some conn) :
    a.servers.get? conn.id = some conn ∧ conn.state = .idle := by
  obtain ⟨hvalue, hidle⟩ := mem_filter.mp (mem_of_minByKey h)
  obtain ⟨id, hid⟩ := (mem_values_iff _ _).mp hvalue
  rw [(hc.server id conn hid).1]
  exact ⟨hid, of_decide_eq_true hidle⟩

/-- The closing loop ends: every iteration removes a server. -/
lemma closeIdle_spec (target : Nat) (fuel : Nat) {a : Allocator T} :
    a.Sound → a.servers.entries.length < fuel →
      ∃ a', closeIdle target fuel a = some a' ∧ Quiet a a' := by
  induction fuel generalizing a with
  | zero =>
    intro _ hfuel
    exact absurd hfuel (Nat.not_lt_zero _)
  | succ fuel ih =>
    intro hs hfuel
    unfold closeIdle
    split
    · exact ⟨a, rfl, .refl a⟩
    cases hmin : minByKey (·.seq) (a.servers.values.filter fun conn => conn.state = .idle) with
    | none => exact ⟨a, rfl, .refl a⟩
    | some conn =>
      obtain ⟨hconn, -⟩ := leastIdle_spec hs.consistent hmin
      obtain ⟨found, m, hclose, hquiet, hservers, -⟩ := closeServer_quiet hs.consistent conn.id
      have hshorter : m.servers.entries.length + 1 = a.servers.entries.length := by
        have hsum := sumOf_erase (fun _ _ => 1) a.servers conn.id
        rw [hconn, elim_some, ← hservers] at hsum
        simpa [sumOf, sumEntries] using hsum
      obtain ⟨a', hloop, hquiet'⟩ := ih (hquiet.sound hs) (by omega)
      refine ⟨a', ?_, hquiet.trans hquiet'⟩
      simp only [hclose, bind_eq_bind, bind_some, hloop]

lemma drainTo_spec (hs : a.Sound) (target : Nat) :
    ∃ excess a', a.drainTo target = some (excess, a') ∧ Quiet a a' := by
  obtain ⟨m, hclose, hquiet⟩ := closeIdle_spec target _ hs (Nat.lt_succ_self _)
  obtain ⟨a', hmark, hquiet', -⟩ := markAll_spec (hquiet.sound hs)
    ((m.unmarked.take (m.budget.liveTotal - target)).map ServerKey.server)
  refine ⟨m.budget.liveTotal - target, a', ?_, hquiet.trans hquiet'⟩
  simp only [drainTo, hclose, hmark, bind_eq_bind, bind_some]

end Allocator
end PgElastic.Capacity
