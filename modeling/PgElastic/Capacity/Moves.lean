import PgElastic.Capacity.Invariant

/-!
# Elementary moves of the allocator

Every public operation of the allocator is a sequence of a few elementary
changes: a server is opened, handed out, parked, flagged or closed; a ticket is
added or taken away; a client comes or goes; a tenant is forgotten.  `Move` lists
these changes once, with what holds before each of them, and every invariant of
the allocator is proved once for each move.

Configuration changes are kept apart as `Reconfigure`, because they are the only
steps that can make the claims of the tenants exceed the pool.
-/

namespace PgElastic.Capacity

open Library Option OrderedMap CapacityBudget TenantRuntime TenantEntry

variable {T : Type} [LinearOrder T]

namespace Allocator

/-- The credit a tenant may draw now, as the admission ladder decides it. -/
def Affords (a : Allocator T) (t : T) : CreditKind → Prop
  | .cancel => ∀ rt, a.tenants.get? t = some rt → rt.cancelLive < a.cancelCredit t
  | .reserved => a.classify t = some (.ok .reserved)
  | .burst => a.classify t = some (.ok .burst)

/-- One elementary change. -/
inductive Move : Allocator T → Allocator T → Prop
  | tick (a : Allocator T) : Move a { a with seq := a.seq + 1 }
  | checkOut {a : Allocator T} {t : T} {rt : TenantRuntime T} {key : ServerKey}
      {conn : ServerConn T} (client : ClientId) (hrt : a.tenants.get? t = some rt)
      (hlast : rt.idle.last? = some key) (hconn : a.servers.get? key.server = some conn) :
      Move a (a.checkedOut t rt key conn client)
  | openServer {a : Allocator T} {t : T} {rt : TenantRuntime T} {entry : TenantEntry}
      {budget : CapacityBudget T} {credit : CreditKind} (client : ClientId)
      (hrt : a.tenants.get? t = some rt) (hentry : a.budget.tenants.get? t = some entry)
      (hcredit : a.Affords t credit)
      (hbudget : a.budget.Recounts t entry (entry.live + liveDelta credit) budget) :
      Move a (a.opened t rt credit client budget)
  | closeServer {a : Allocator T} {id : ServerId} {conn : ServerConn T}
      {rt rt' : TenantRuntime T} {entry : TenantEntry} {budget : CapacityBudget T}
      (hconn : a.servers.get? id = some conn) (hrt : a.tenants.get? conn.tenant = some rt)
      (hentry : a.budget.tenants.get? conn.tenant = some entry)
      (hleave : rt.leave id conn = some rt') (hdelta : liveDelta conn.credit ≤ entry.live)
      (hbudget : a.budget.Recounts conn.tenant entry (entry.live - liveDelta conn.credit) budget) :
      Move a (a.shut id conn.tenant rt' budget)
  | flag {a : Allocator T} {id : ServerId} {conn : ServerConn T} {rt : TenantRuntime T}
      (hconn : a.servers.get? id = some conn) (hneeded : conn.closeNeeded = false)
      (hrt : a.tenants.get? conn.tenant = some rt) :
      Move a (a.flagged id conn rt)
  | checkIn {a : Allocator T} {id : ServerId} {conn : ServerConn T} {rt : TenantRuntime T}
      (hconn : a.servers.get? id = some conn) (hstate : conn.state = .active)
      (hneeded : conn.closeNeeded = false) (hcredit : conn.credit ≠ .cancel)
      (hrt : a.tenants.get? conn.tenant = some rt) :
      Move a (a.checkedIn id conn rt)
  | dequeue {a : Allocator T} {t : T} {rt : TenantRuntime T} {queue : List (Ticket T)}
      {total : Nat} (hrt : a.tenants.get? t = some rt) (hqueue : queue.Sublist rt.queue)
      (htotal : total + rt.queue.length = a.queuedTotal + queue.length) :
      Move a { a with
        tenants := a.tenants.insert t { rt with queue := queue }
        queuedTotal := total }
  | enqueue {a : Allocator T} {t : T} {rt : TenantRuntime T} {ticket : Ticket T}
      (hrt : a.tenants.get? t = some rt) (hid : ticket.id = a.nextTicket) :
      Move a { a with
        nextTicket := a.nextTicket + 1
        tenants := a.tenants.insert t { rt with queue := rt.queue ++ [ticket] }
        queuedTotal := a.queuedTotal + 1 }
  | expire {a : Allocator T} (late : Ticket T → Bool) {total : Nat}
      (htotal : total = sumOf (fun _ rt => (rt.queue.dropWhile late).length) a.tenants) :
      Move a { a with
        tenants := a.tenants.mapValues fun _ rt => { rt with queue := rt.queue.dropWhile late }
        queuedTotal := total }
  | setFlags {a : Allocator T} {t : T} {rt : TenantRuntime T}
      (hrt : a.tenants.get? t = some rt) (migrating : Bool) (storageUsed : Nat) :
      Move a { a with
        tenants := a.tenants.insert t { rt with
          migrating := migrating
          storageUsed := storageUsed } }
  | connect {a : Allocator T} {t : T} {rt : TenantRuntime T}
      (hrt : a.tenants.get? t = some rt) :
      Move a { a with
        tenants := a.tenants.insert t { rt with clients := rt.clients + 1 }
        clientsLive := a.clientsLive + 1
        nextClient := a.nextClient + 1
        clients := a.clients.insert a.nextClient t }
  | dropClient {a : Allocator T} {t : T} {rt : TenantRuntime T} {client : ClientId}
      {queue : List (Ticket T)} {clients clientsLive total : Nat}
      (hclient : a.clients.get? client = some t) (hrt : a.tenants.get? t = some rt)
      (hqueue : queue.Sublist rt.queue) (hclients : clients + 1 = rt.clients)
      (hlive : clientsLive + 1 = a.clientsLive)
      (htotal : total + rt.queue.length = a.queuedTotal + queue.length) :
      Move a { a with
        clients := a.clients.erase client
        tenants := a.tenants.insert t { rt with clients := clients, queue := queue }
        queuedTotal := total
        clientsLive := clientsLive }
  | forget {a : Allocator T} {t : T} {rt : TenantRuntime T} {entry : TenantEntry}
      {budget : CapacityBudget T} {clientsLive total : Nat}
      (hrt : a.tenants.get? t = some rt) (hentry : a.budget.tenants.get? t = some entry)
      (hservers : ∀ id conn, a.servers.get? id = some conn → conn.tenant ≠ t)
      (hbudget : a.budget.removeTenant t = some (.ok (entry, budget)))
      (hlive : clientsLive + rt.clients = a.clientsLive)
      (htotal : total + rt.queue.length = a.queuedTotal) :
      Move a { a with
        clients := a.clients.filter fun _ owner => owner ≠ t
        tenants := a.tenants.erase t
        clientsLive := clientsLive
        queuedTotal := total
        budget := budget }
  | setAdmission (a : Allocator T) (admission : AdmissionSpec) :
      Move a { a with admission := admission }

/-- An accepted configuration change, before the queue is drained. -/
inductive Reconfigure : Allocator T → Allocator T → Prop
  | addTenant {a : Allocator T} {id : T} {spec : TenantSpec} {budget : CapacityBudget T}
      (h : a.budget.insertTenant id spec = .ok budget) :
      Reconfigure a { a with budget := budget, tenants := a.tenants.insert id .default }
  | setTenantSpec {a : Allocator T} {id : T} {spec : TenantSpec} {budget : CapacityBudget T}
      (h : a.budget.updateTenant id spec = some (.ok budget)) :
      Reconfigure a { a with budget := budget }
  | setPoolSpec {a : Allocator T} {spec : PoolSpec} {budget : CapacityBudget T}
      (h : a.budget.setPoolSpec spec = .ok budget) :
      Reconfigure a { a with budget := budget }

/-- Finitely many elementary changes. -/
abbrev Moves : Allocator T → Allocator T → Prop := Relation.ReflTransGen Move

/-- The limits the configuration checks and the admission ladder enforce. -/
structure Bounded (a : Allocator T) : Prop where
  budget : a.budget.Bounded
  cancelLive : ∀ t rt, a.tenants.get? t = some rt → rt.cancelLive ≤ cancelCreditCap

/-! ## The ladder's decision -/

variable {a a' : Allocator T} {t : T} {entry : TenantEntry} {rt : TenantRuntime T}
  {budget : CapacityBudget T} {credit : CreditKind}

section

variable (hentry : a.budget.tenants.get? t = some entry)
include hentry

lemma classify_eq : a.classify t = if entry.live < entry.guaranteed then
        some (.ok (if a.budget.liveTotal < a.budget.total then .reserved else .revokeAndQueue))
      else if entry.burstable ≤ entry.live then
        some (.error (.tenantCap t entry.live entry.burstable))
      else if 0 < a.budget.free then some (.ok .burst) else some (.ok .queue) := by
  unfold classify tenant
  rw [hentry]
  rfl

lemma classify_reserved_iff : a.classify t = some (.ok .reserved) ↔
      entry.live < entry.guaranteed ∧ a.budget.liveTotal < a.budget.total := by
  rw [classify_eq hentry]
  by_cases hlow : entry.live < entry.guaranteed
  · by_cases hroom : a.budget.liveTotal < a.budget.total <;> simp [hlow, hroom]
  rw [if_neg hlow]
  by_cases hcap : entry.burstable ≤ entry.live
  · simp [hlow, hcap]
  · by_cases hfree : 0 < a.budget.free <;> simp [hlow, hcap, hfree]

lemma classify_burst_iff : a.classify t = some (.ok .burst) ↔
      entry.guaranteed ≤ entry.live ∧ entry.live < entry.burstable ∧ 0 < a.budget.free := by
  rw [classify_eq hentry]
  by_cases hlow : entry.live < entry.guaranteed
  · have hnot : ¬ entry.guaranteed ≤ entry.live := by omega
    rw [if_pos hlow]
    by_cases hroom : a.budget.liveTotal < a.budget.total <;> simp [hnot, hroom]
  have hle : entry.guaranteed ≤ entry.live := by omega
  by_cases hcap : entry.burstable ≤ entry.live
  · have hnot : ¬ entry.live < entry.burstable := by omega
    simp [hlow, hcap, hnot]
  have hlt : entry.live < entry.burstable := by omega
  by_cases hfree : 0 < a.budget.free
  · simp [hlow, hcap, hle, hlt, hfree]
  · simp [hlow, hcap, hfree]

end

lemma cancelCredit_le (a : Allocator T) (t : T) : a.cancelCredit t ≤ cancelCreditCap := by
  unfold cancelCredit
  split
  · exact Nat.min_le_left _ _
  · exact Nat.zero_le _

/-! ## Each move keeps the ledger -/

/-- Expired tickets leave every queue; nothing else changes. -/
lemma Consistent.expire (hc : a.Consistent) (late : Ticket T → Bool) : Consistent { a with
      tenants := a.tenants.mapValues fun _ rt => { rt with queue := rt.queue.dropWhile late }
      queuedTotal := sumOf (fun _ rt => (rt.queue.dropWhile late).length) a.tenants } := by
  have hsome : ∀ t, ((a.tenants.mapValues fun _ rt =>
      { rt with queue := rt.queue.dropWhile late }).get? t).isSome =
        (a.tenants.get? t).isSome := by
    intro t
    rw [get?_mapValues, isSome_map]
  refine ⟨hc.budget, ?_, ?_, ?_, ?_, ?_, ?_, hc.created⟩
  · intro t
    rw [hsome]
    exact hc.bound t
  · intro t rt entry hrt hentry
    rw [get?_mapValues, map_eq_some_iff] at hrt
    obtain ⟨old, hold, rfl⟩ := hrt
    have hrow := hc.row t old entry hold hentry
    exact ⟨hrow.live, hrow.cancelLive, hrow.marked, hrow.idle, hrow.active, hrow.clients⟩
  · intro id conn hconn
    rw [hsome]
    exact hc.server id conn hconn
  · intro c t hclient
    rw [hsome]
    exact hc.client c t hclient
  · rw [sumOf_mapValues]
    exact hc.clientsLive
  · rw [sumOf_mapValues]

lemma Consistent.connect (hc : a.Consistent) (hrt : a.tenants.get? t = some rt) :
    Consistent { a with
      tenants := a.tenants.insert t { rt with clients := rt.clients + 1 }
      clientsLive := a.clientsLive + 1
      nextClient := a.nextClient + 1
      clients := a.clients.insert a.nextClient t } := by
  obtain ⟨entry, -, hrow⟩ := hc.rows hrt
  have hfresh : a.clients.get? a.nextClient = none := by
    cases hclient : a.clients.get? a.nextClient with
    | none => rfl
    | some owner => exact absurd (hc.client _ _ hclient).1 (lt_irrefl _)
  have hsum t' : ownerCount (a.clients.insert a.nextClient t) t' =
      ownerCount a.clients t' + if t = t' then 1 else 0 := by
    have hbalance := sumOf_insert (fun _ owner => if owner = t' then 1 else 0)
      a.clients a.nextClient t
    simp only [hfresh, elim_none, add_zero] at hbalance
    exact hbalance
  refine hc.touchRow hrt rfl ⟨rfl, rfl, rfl, rfl⟩ rfl ⟨?_, ?_⟩ ?_ ?_ ⟨rfl, rfl, rfl, rfl, rfl⟩
  · change rt.clients + 1 = ownerCount (a.clients.insert a.nextClient t) t
    rw [hsum, if_pos rfl, ← hrow.clients]
  · intro t' hne
    change ownerCount (a.clients.insert a.nextClient t) t' = _
    rw [hsum, if_neg (Ne.symm hne), add_zero]
  · intro c t' hclient
    change (a.clients.insert a.nextClient t).get? c = some t' at hclient
    change c < a.nextClient + 1 ∧ _
    rw [get?_insert] at hclient
    split at hclient
    · rename_i heq
      cases hclient
      rw [heq, hrt]
      exact ⟨Nat.lt_succ_self _, rfl⟩
    · obtain ⟨hlt, hbound⟩ := hc.client c t' hclient
      exact ⟨Nat.lt_succ_of_lt hlt, hbound⟩
  · change a.clientsLive + 1 + rt.clients = a.clientsLive + (rt.clients + 1)
    omega

lemma Consistent.dropClient (hc : a.Consistent) {client : ClientId} {queue : List (Ticket T)}
    {clients clientsLive total : Nat} (hclient : a.clients.get? client = some t)
    (hrt : a.tenants.get? t = some rt) (hclients : clients + 1 = rt.clients)
    (hlive : clientsLive + 1 = a.clientsLive)
    (htotal : total + rt.queue.length = a.queuedTotal + queue.length) :
    Consistent { a with
      clients := a.clients.erase client
      tenants := a.tenants.insert t { rt with clients := clients, queue := queue }
      queuedTotal := total
      clientsLive := clientsLive } := by
  obtain ⟨entry, -, hrow⟩ := hc.rows hrt
  have hsum t' : ownerCount (a.clients.erase client) t' + (if t = t' then 1 else 0) =
      ownerCount a.clients t' := by
    have hbalance := sumOf_erase (fun _ owner => if owner = t' then 1 else 0) a.clients client
    simp only [hclient, elim_some] at hbalance
    exact hbalance
  refine hc.touchRow hrt rfl ⟨rfl, rfl, rfl, rfl⟩ htotal ⟨?_, ?_⟩ ?_ ?_ ⟨rfl, rfl, rfl, rfl, rfl⟩
  · change clients = ownerCount (a.clients.erase client) t
    have hown := hsum t
    rw [if_pos rfl, ← hrow.clients] at hown
    omega
  · intro t' hne
    change ownerCount (a.clients.erase client) t' = _
    rw [← hsum t', if_neg (Ne.symm hne), add_zero]
  · intro c t' hc'
    change (a.clients.erase client).get? c = some t' at hc'
    exact hc.client c t' (get?_of_erase hc').2
  · change clientsLive + rt.clients = a.clientsLive + clients
    omega

/-- Forgetting a tenant that owns no server. -/
lemma Consistent.forget (hc : a.Consistent) {clientsLive total : Nat}
    (hrt : a.tenants.get? t = some rt) (hentry : a.budget.tenants.get? t = some entry)
    (hservers : ∀ id conn, a.servers.get? id = some conn → conn.tenant ≠ t)
    (hbudget : a.budget.removeTenant t = some (.ok (entry, budget)))
    (hlive : clientsLive + rt.clients = a.clientsLive)
    (htotal : total + rt.queue.length = a.queuedTotal) :
    Consistent { a with
      clients := a.clients.filter fun _ owner => owner ≠ t
      tenants := a.tenants.erase t
      clientsLive := clientsLive
      queuedTotal := total
      budget := budget } := by
  obtain ⟨removed, hremoved, -, hrows, -, hconsistent, -⟩ :=
    CapacityBudget.removeTenant_spec hc.budget hentry
  obtain rfl : removed = budget := by
    rw [hbudget] at hremoved
    cases hremoved
    rfl
  have hsum : ∀ t', t' ≠ t →
      ownerCount (a.clients.filter fun _ owner => owner ≠ t) t' = ownerCount a.clients t' := by
    intro t' hne
    unfold ownerCount
    rw [sumOf_filter]
    apply sumOf_congr
    intro c owner _
    by_cases howner : owner = t
    · simp [howner, Ne.symm hne]
    · simp [howner]
  refine ⟨hconsistent, ?_, ?_, ?_, ?_, ?_, ?_, hc.created⟩
  · intro t'
    change ((a.tenants.erase t).get? t').isSome = (removed.tenants.get? t').isSome
    rw [hrows, get?_erase, get?_erase]
    split
    · rfl
    · exact hc.bound t'
  · intro t' rt' entry' hrt' hentry'
    change (a.tenants.erase t).get? t' = some rt' at hrt'
    change removed.tenants.get? t' = some entry' at hentry'
    rw [get?_erase] at hrt'
    rw [hrows, get?_erase] at hentry'
    split at hrt'
    · cases hrt'
    rename_i hne
    rw [if_neg hne] at hentry'
    have hrow := hc.row t' rt' entry' hrt' hentry'
    refine ⟨hrow.live, hrow.cancelLive, hrow.marked, hrow.idle, hrow.active, ?_⟩
    change rt'.clients = ownerCount (a.clients.filter fun _ owner => owner ≠ t) t'
    rw [hsum t' hne]
    exact hrow.clients
  · intro id conn hconn
    obtain ⟨h1, h2, h3, h4⟩ := hc.server id conn hconn
    refine ⟨h1, h2, ?_, h4⟩
    change ((a.tenants.erase t).get? conn.tenant).isSome
    rw [get?_erase, if_neg (hservers id conn hconn)]
    exact h3
  · intro c t' hclient
    change (a.clients.filter fun _ owner => owner ≠ t).get? c = some t' at hclient
    rw [get?_filter, filter_eq_some_iff] at hclient
    obtain ⟨hfound, hkept⟩ := hclient
    obtain ⟨hlt, hbound⟩ := hc.client c t' hfound
    refine ⟨hlt, ?_⟩
    change ((a.tenants.erase t).get? t').isSome
    rw [get?_erase, if_neg (of_decide_eq_true hkept)]
    exact hbound
  · have hbalance := sumOf_erase (fun _ row => TenantRuntime.clients row) a.tenants t
    simp only [hrt, elim_some] at hbalance
    have hcount := hc.clientsLive
    change clientsLive = sumOf _ (a.tenants.erase t)
    omega
  · have hbalance := sumOf_erase (fun _ row => (TenantRuntime.queue row).length) a.tenants t
    simp only [hrt, elim_some] at hbalance
    have hcount := hc.queuedTotal
    change total = sumOf _ (a.tenants.erase t)
    omega

/-- Every elementary change keeps every count and index exact. -/
lemma Move.consistent (h : Move a a') (hc : a.Consistent) : a'.Consistent := by
  cases h with
  | tick => exact hc.tick _
  | checkOut client hrt hlast hconn => exact hc.checkedOut client hrt hlast hconn
  | openServer client hrt hentry _ hbudget => exact hc.opened hrt hentry _ client hbudget
  | closeServer hconn hrt hentry hleave hdelta hbudget =>
    exact hc.shut hconn hrt hentry hleave hdelta hbudget
  | flag hconn hneeded hrt => exact hc.flagged hconn hneeded hrt
  | checkIn hconn hstate _ hcredit hrt => exact hc.checkedIn hconn hstate hcredit hrt
  | dequeue hrt _ htotal =>
    exact hc.touchQueue hrt rfl ⟨rfl, rfl, rfl, rfl⟩ htotal ⟨rfl, rfl, rfl, rfl⟩
      ⟨rfl, rfl, rfl, rfl, rfl⟩
  | enqueue hrt _ =>
    refine hc.touchQueue hrt rfl ⟨rfl, rfl, rfl, rfl⟩ ?_ ⟨rfl, rfl, rfl, rfl⟩
      ⟨rfl, rfl, rfl, rfl, rfl⟩
    simp only [List.length_append, List.length_singleton]
    omega
  | expire late htotal =>
    subst htotal
    exact hc.expire late
  | setFlags hrt migrating storageUsed =>
    exact hc.touchQueue hrt rfl ⟨rfl, rfl, rfl, rfl⟩ rfl ⟨rfl, rfl, rfl, rfl⟩
      ⟨rfl, rfl, rfl, rfl, rfl⟩
  | connect hrt => exact hc.connect hrt
  | dropClient hclient hrt _ hclients hlive htotal =>
    exact hc.dropClient hclient hrt hclients hlive htotal
  | forget hrt hentry hservers hbudget hlive htotal =>
    exact hc.forget hrt hentry hservers hbudget hlive htotal
  | setAdmission admission =>
    exact ⟨hc.budget, hc.bound, hc.row, hc.server, hc.client, hc.clientsLive, hc.queuedTotal,
      hc.created⟩

/-- The ledger of a tenant that was just bound: nothing refers to it yet. -/
lemma Consistent.addTenant (hc : a.Consistent) {id : T} {spec : TenantSpec}
    (h : a.budget.insertTenant id spec = .ok budget) :
    Consistent { a with budget := budget, tenants := a.tenants.insert id .default } := by
  obtain ⟨hnone, -, hrows, -, hconsistent, -⟩ := insertTenant_ok hc.budget h
  have hunbound : a.tenants.get? id = none := by
    have hbound := hc.bound id
    rw [hnone, isSome_none] at hbound
    exact not_isSome_iff_eq_none.mp (by simp [hbound])
  have hother : ∀ t, (a.tenants.get? t).isSome → t ≠ id := by
    intro t hsome heq
    rw [heq, hunbound] at hsome
    cases hsome
  have hsome : ∀ t, (a.tenants.get? t).isSome →
      ((a.tenants.insert id TenantRuntime.default).get? t).isSome := by
    intro t ht
    rw [get?_insert_of_ne _ _ (hother t ht)]
    exact ht
  have hcount : ∀ test : ServerConn T → Bool, (∀ conn, test conn → conn.tenant = id) →
      countServers a.servers test = 0 := by
    intro test htest
    apply sumOf_eq_zero_iff.mpr
    intro server conn hconn
    rw [if_neg]
    intro htrue
    exact hother _ (hc.server server conn hconn).2.2.1 (htest conn htrue)
  refine ⟨hconsistent, ?_, ?_, ?_, ?_, ?_, ?_, hc.created⟩
  · intro t
    change ((a.tenants.insert id TenantRuntime.default).get? t).isSome =
      (budget.tenants.get? t).isSome
    rw [hrows, get?_insert, get?_insert]
    split
    · rfl
    · exact hc.bound t
  · intro t rt entry hrt hentry
    change (a.tenants.insert id TenantRuntime.default).get? t = some rt at hrt
    change budget.tenants.get? t = some entry at hentry
    rw [get?_insert] at hrt
    rw [hrows, get?_insert] at hentry
    split at hrt
    · rename_i heq
      subst heq
      rw [if_pos rfl] at hentry
      cases hrt
      cases hentry
      have hnoIndex : ∀ state, Indexes OrderedSet.empty a.servers t state := by
        intro state seq server
        simp only [OrderedSet.not_mem_empty, false_iff]
        rintro ⟨conn, hconn, htenant, -⟩
        exact hother _ (hc.server server conn hconn).2.2.1 htenant
      refine ⟨?_, ?_, ?_, hnoIndex _, hnoIndex _, ?_⟩
      · exact (hcount _ fun conn hconn => (ServerConn.liveOf_iff.mp hconn).1).symm
      · exact (hcount _ fun conn hconn => (ServerConn.cancelOf_iff.mp hconn).1).symm
      · exact (hcount _ fun conn hconn => (ServerConn.markedOf_iff.mp hconn).1).symm
      symm
      apply sumOf_eq_zero_iff.mpr
      intro client owner howner
      rw [if_neg]
      exact hother _ (hc.client client owner howner).2
    · rename_i hne
      rw [if_neg hne] at hentry
      exact hc.row t rt entry hrt hentry
  · intro server conn hconn
    obtain ⟨h1, h2, h3, h4⟩ := hc.server server conn hconn
    exact ⟨h1, h2, hsome _ h3, h4⟩
  · intro client t hclient
    obtain ⟨hlt, hbound⟩ := hc.client client t hclient
    exact ⟨hlt, hsome _ hbound⟩
  · have hbalance := sumOf_insert (fun _ row => TenantRuntime.clients row) a.tenants id .default
    simp only [hunbound, elim_none, add_zero] at hbalance
    change a.clientsLive = sumOf _ (a.tenants.insert id .default)
    rw [hbalance, hc.clientsLive]
    rfl
  · have hbalance := sumOf_insert (fun _ row => (TenantRuntime.queue row).length)
      a.tenants id .default
    simp only [hunbound, elim_none, add_zero] at hbalance
    change a.queuedTotal = sumOf _ (a.tenants.insert id .default)
    rw [hbalance, hc.queuedTotal]
    rfl

/-- A new ledger with the same live counts fits the same servers. -/
lemma Consistent.rebudget (hc : a.Consistent) (hconsistent : budget.Consistent)
    (hlive : ∀ t, (budget.tenants.get? t).map (·.live) = (a.budget.tenants.get? t).map (·.live)) :
    Consistent { a with budget := budget } := by
  refine ⟨hconsistent, ?_, ?_, hc.server, hc.client, hc.clientsLive, hc.queuedTotal, hc.created⟩
  · intro t
    have hsome := congrArg Option.isSome (hlive t)
    rw [isSome_map, isSome_map] at hsome
    rw [hc.bound t]
    exact hsome.symm
  intro t rt entry hrt hentry
  obtain ⟨old, hold, hrow⟩ := hc.rows hrt
  have hsame := hlive t
  change budget.tenants.get? t = some entry at hentry
  rw [hentry, hold, map_some, map_some, some.injEq] at hsame
  rw [hsame]
  exact hrow

lemma Reconfigure.consistent (h : Reconfigure a a') (hc : a.Consistent) : a'.Consistent := by
  cases h with
  | addTenant h => exact hc.addTenant h
  | @setTenantSpec id spec budget h =>
    obtain ⟨result, hresult, hok⟩ := updateTenant_spec hc.budget id spec
    rw [h, some.injEq] at hresult
    obtain ⟨entry, hentry, -, hrows, -, hconsistent, -⟩ := hok budget hresult.symm
    apply hc.rebudget hconsistent
    intro t
    rw [hrows, get?_insert]
    split
    · rename_i heq
      rw [heq, hentry]
      rfl
    · rfl
  | setPoolSpec h =>
    obtain ⟨rfl, hconsistent, -⟩ := setPoolSpec_ok hc.budget h
    apply hc.rebudget hconsistent
    intro t
    rfl

/-! ## Each move keeps the limits -/

/-- A change of the budget alone, or of rows whose cancel counters do not grow. -/
lemma Bounded.of_rows (hb : a.Bounded) (hbudget : a'.budget.Bounded)
    (hrows : ∀ t rt', a'.tenants.get? t = some rt' → rt'.cancelLive = 0 ∨
      ∃ rt, a.tenants.get? t = some rt ∧ rt'.cancelLive ≤ rt.cancelLive) : a'.Bounded := by
  refine ⟨hbudget, ?_⟩
  intro t rt' hrt'
  rcases hrows t rt' hrt' with hzero | ⟨rt, hrt, hle⟩
  · rw [hzero]
    exact Nat.zero_le _
  · exact le_trans hle (hb.cancelLive t rt hrt)

/-- One row is replaced by one whose cancel counter is not larger. -/
lemma Bounded.of_insert (hb : a.Bounded) {rt' : TenantRuntime T} (hbudget : a'.budget.Bounded)
    (hrt : a.tenants.get? t = some rt) (htenants : a'.tenants = a.tenants.insert t rt')
    (hle : rt'.cancelLive ≤ rt.cancelLive) : a'.Bounded := by
  apply hb.of_rows hbudget
  intro t' row hrow
  right
  rw [htenants, get?_insert] at hrow
  split at hrow
  · rename_i heq
    cases hrow
    exact ⟨rt, heq ▸ hrt, hle⟩
  · exact ⟨row, hrow, le_rfl⟩

/-- Where the ladder gives burst credit there is room in the pool. -/
lemma Consistent.liveTotal_lt_of_free (hc : a.Consistent) (hfree : 0 < a.budget.free) :
    a.budget.claimed < a.budget.total ∧ a.budget.liveTotal < a.budget.total := by
  have hclaimed := hc.budget.liveTotal_le_claimed
  rw [hc.budget.free_eq] at hfree
  omega

/-- Credit that the ladder gives fits the tenant's ceiling, the pool's total and
the cancel pool. -/
lemma Bounded.opened (hb : a.Bounded) (hc : a.Consistent)
    (client : ClientId) (hrt : a.tenants.get? t = some rt)
    (hentry : a.budget.tenants.get? t = some entry) (hcredit : a.Affords t credit)
    (hbudget : a.budget.Recounts t entry (entry.live + liveDelta credit) budget) :
    (a.opened t rt credit client budget).Bounded := by
  have hlive := hbudget.liveTotal
  have hceiling := hb.budget.guaranteed_le_burstable t entry hentry
  cases credit with
  | cancel =>
    constructor
    · apply hbudget.bounded hb.budget hentry
      · exact hb.budget.live_le_burstable t entry hentry
      · have htotal := hb.budget.live_le_total
        simp only [liveDelta, if_true] at hlive
        omega
    intro t' rt' hrt'
    change (a.tenants.insert t _).get? t' = some rt' at hrt'
    rw [get?_insert] at hrt'
    split at hrt'
    · cases hrt'
      have hcredit' := hcredit rt hrt
      have hcap := a.cancelCredit_le t
      change rt.cancelLive + 1 ≤ cancelCreditCap
      omega
    · exact hb.cancelLive t' rt' hrt'
  | reserved =>
    obtain ⟨hlow, hroom⟩ := (classify_reserved_iff hentry).mp hcredit
    have hdelta : liveDelta .reserved = 1 := rfl
    rw [hdelta] at hlive
    refine hb.of_insert (hbudget.bounded hb.budget hentry ?_ ?_) hrt rfl le_rfl
    · rw [hdelta]
      omega
    · omega
  | burst =>
    obtain ⟨-, hlt, hfree⟩ := (classify_burst_iff hentry).mp hcredit
    have hroom := (hc.liveTotal_lt_of_free hfree).2
    have hdelta : liveDelta .burst = 1 := rfl
    rw [hdelta] at hlive
    refine hb.of_insert (hbudget.bounded hb.budget hentry ?_ ?_) hrt rfl le_rfl
    · rw [hdelta]
      omega
    · omega

lemma Move.bounded (h : Move a a') (hc : a.Consistent) (hb : a.Bounded) : a'.Bounded := by
  cases h with
  | tick => exact ⟨hb.budget, hb.cancelLive⟩
  | checkOut client hrt hlast hconn => exact hb.of_insert hb.budget hrt rfl le_rfl
  | openServer client hrt hentry hcredit hbudget =>
    exact hb.opened hc client hrt hentry hcredit hbudget
  | @closeServer id conn rt rt' entry budget hconn hrt hentry hleave hdelta hbudget =>
    have hlive := hbudget.liveTotal
    have hceiling := hb.budget.live_le_burstable _ entry hentry
    have htotal := hb.budget.live_le_total
    have hleft := (leave_eq_some hleave).1
    refine hb.of_insert (hbudget.bounded hb.budget hentry ?_ ?_) hrt rfl ?_
    · omega
    · omega
    · omega
  | flag hconn hneeded hrt | checkIn hconn hstate _ hcredit hrt | dequeue hrt _ htotal
  | enqueue hrt _ => exact hb.of_insert hb.budget hrt rfl le_rfl
  | expire late htotal =>
    refine ⟨hb.budget, ?_⟩
    intro t rt' hrt'
    change (a.tenants.mapValues _).get? t = some rt' at hrt'
    rw [get?_mapValues, map_eq_some_iff] at hrt'
    obtain ⟨rt, hrt, rfl⟩ := hrt'
    exact hb.cancelLive t rt hrt
  | setFlags hrt migrating storageUsed | connect hrt => exact hb.of_insert hb.budget hrt rfl le_rfl
  | dropClient hclient hrt _ hclients hlive htotal =>
    exact hb.of_insert hb.budget hrt rfl le_rfl
  | forget hrt hentry hservers hbudget hlive htotal =>
    obtain ⟨removed, hremoved, -, -, -, -, hbounded⟩ :=
      CapacityBudget.removeTenant_spec hc.budget hentry
    rw [hbudget] at hremoved
    cases hremoved
    apply hb.of_rows (hbounded hb.budget)
    intro t' rt' hrt'
    right
    change (a.tenants.erase _).get? t' = some rt' at hrt'
    exact ⟨rt', (get?_of_erase hrt').2, le_rfl⟩
  | setAdmission admission => exact ⟨hb.budget, hb.cancelLive⟩

lemma Reconfigure.bounded (h : Reconfigure a a') (hc : a.Consistent) (hb : a.Bounded) :
    a'.Bounded := by
  cases h with
  | addTenant h =>
    obtain ⟨-, -, -, -, -, hbounded⟩ := insertTenant_ok hc.budget h
    apply hb.of_rows (hbounded hb.budget)
    intro t rt hrt
    change (a.tenants.insert _ _).get? t = some rt at hrt
    rw [get?_insert] at hrt
    split at hrt
    · cases hrt
      exact .inl rfl
    · exact .inr ⟨rt, hrt, le_rfl⟩
  | @setTenantSpec id spec budget h =>
    obtain ⟨result, hresult, hok⟩ := updateTenant_spec hc.budget id spec
    rw [h, some.injEq] at hresult
    obtain ⟨entry, -, -, -, -, -, hbounded⟩ := hok budget hresult.symm
    exact ⟨hbounded hb.budget, hb.cancelLive⟩
  | setPoolSpec h =>
    obtain ⟨-, -, hbounded⟩ := setPoolSpec_ok hc.budget h
    exact ⟨hbounded hb.budget, hb.cancelLive⟩

/-! ## No move raises the excess -/

/-- What the tenants claim beyond the pool: `max(0, Σ max(guaranteed, live) − total)`. -/
def excess (a : Allocator T) : Nat := a.budget.excess

lemma excess_opened_le (hc : a.Consistent) (client : ClientId)
    (hentry : a.budget.tenants.get? t = some entry) (hcredit : a.Affords t credit)
    (hbudget : a.budget.Recounts t entry (entry.live + liveDelta credit) budget) :
    (a.opened t rt credit client budget).excess ≤ a.excess := by
  have hclaimed := hbudget.claimed hc.budget
  change budget.excess ≤ a.budget.excess
  rw [CapacityBudget.excess_of_spec hbudget.spec, CapacityBudget.excess]
  simp only [surplus] at hclaimed
  cases credit with
  | cancel =>
    simp only [liveDelta, if_true] at hclaimed
    omega
  | reserved =>
    -- below the guarantee the claim is already counted
    obtain ⟨hlow, -⟩ := (classify_reserved_iff hentry).mp hcredit
    simp only [guaranteed] at hlow
    have hdelta : liveDelta .reserved = 1 := rfl
    rw [hdelta] at hclaimed
    omega
  | burst =>
    -- above it the claim grows by one, into capacity that was free
    obtain ⟨-, -, hfree⟩ := (classify_burst_iff hentry).mp hcredit
    have hroom := (hc.liveTotal_lt_of_free hfree).1
    have hdelta : liveDelta .burst = 1 := rfl
    rw [hdelta] at hclaimed
    omega

lemma Move.excess_le (h : Move a a') (hc : a.Consistent) : a'.excess ≤ a.excess := by
  cases h with
  | openServer client hrt hentry hcredit hbudget =>
    exact excess_opened_le hc client hentry hcredit hbudget
  | @closeServer id conn rt rt' entry budget hconn hrt hentry hleave hdelta hbudget =>
    have hclaimed := hbudget.claimed hc.budget
    change budget.excess ≤ a.budget.excess
    rw [CapacityBudget.excess_of_spec hbudget.spec, CapacityBudget.excess]
    simp only [surplus] at hclaimed
    omega
  | @forget t rt entry budget clientsLive total hrt hentry hservers hbudget hlive htotal =>
    obtain ⟨removed, hremoved, hspec, hrows, -, -, -⟩ :=
      CapacityBudget.removeTenant_spec hc.budget hentry
    rw [hbudget] at hremoved
    cases hremoved
    have hsum := sumOf_erase (fun _ e => max (guaranteed e) e.live) a.budget.tenants t
    have hclaimed : budget.claimed ≤ a.budget.claimed := by
      unfold CapacityBudget.claimed
      rw [hrows]
      omega
    change budget.excess ≤ a.budget.excess
    rw [CapacityBudget.excess_of_spec hspec, CapacityBudget.excess]
    omega
  | _ => exact le_rfl

/-- The two invariants that every run keeps. -/
structure Sound (a : Allocator T) : Prop where
  consistent : a.Consistent
  bounded : a.Bounded

lemma Move.sound (h : Move a a') (hs : a.Sound) : a'.Sound :=
  ⟨h.consistent hs.consistent, h.bounded hs.consistent hs.bounded⟩

lemma Reconfigure.sound (h : Reconfigure a a') (hs : a.Sound) : a'.Sound :=
  ⟨h.consistent hs.consistent, h.bounded hs.consistent hs.bounded⟩

lemma Sound.setQuorumLost (hs : a.Sound) (lost : Bool) : (a.setQuorumLost lost).Sound := by
  obtain ⟨hc, hb⟩ := hs
  exact ⟨⟨hc.budget, hc.bound, hc.row, hc.server, hc.client, hc.clientsLive, hc.queuedTotal,
    hc.created⟩, ⟨hb.budget, hb.cancelLive⟩⟩

lemma Move.quorumLost_eq (h : Move a a') : a'.quorumLost = a.quorumLost := by
  cases h with
  | _ => rfl

lemma Moves.quorumLost_eq (h : Moves a a') : a'.quorumLost = a.quorumLost := by
  induction h with
  | refl => rfl
  | tail _ hmove ih => exact hmove.quorumLost_eq.trans ih

lemma Reconfigure.quorumLost_eq (h : Reconfigure a a') : a'.quorumLost = a.quorumLost := by
  cases h with
  | _ => rfl

/-- What the elementary changes keep, every sequence of them keeps. -/
lemma Moves.sound (h : Moves a a') (hs : a.Sound) : a'.Sound ∧ a'.excess ≤ a.excess := by
  induction h with
  | refl => exact ⟨hs, le_rfl⟩
  | tail _ hmove ih =>
    obtain ⟨hsound, hle⟩ := ih
    exact ⟨hmove.sound hsound, le_trans (hmove.excess_le hsound.consistent) hle⟩

end Allocator
end PgElastic.Capacity
