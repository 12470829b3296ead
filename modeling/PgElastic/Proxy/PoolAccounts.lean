import PgElastic.Proxy.LeaseSafety

/-!
# The three accounts of a pool

The allocator has the servers, the manager the links parked in their slots, the ledger the
number of links.  Each operation changes two or three of them, and they agree afterwards
(`accounts_agree`) except where one changes alone: a request that revokes an idle server closes
it in the allocator while its link stays parked and counted
(`revocation_leaves_the_link_parked`), and a task that is dropped inside `acquire` takes a
counted link with it.

The ledger is compared with a census: what is parked and what the tasks have, each under its
pin.  `Books` says that a change of the ledger fits the change of one entry.
-/

namespace PgElastic.Proxy

open Library Capacity Capacity.Allocator Pool Pool.BudgetLedger Option OrderedMap List PinReason Balanced
open PoolManager.Quiet

/-! ### The census -/

/-- The count of one entry, which may be no link. -/
def one (entry : Option (Option PinReason)) : Census := fun pin =>
  if entry = some pin then 1 else 0

@[simp] lemma one_none (pin : Option PinReason) : one none pin = 0 := rfl

/-- The entries of a table, counted by their pin. -/
def tally {K V : Type} [LinearOrder K] (entry : V → Option (Option PinReason))
    (m : OrderedMap K V) : Census := fun pin =>
  sumOf (fun _ value => one (entry value) pin) m

section Tally

variable {K V : Type} [LinearOrder K] (entry : V → Option (Option PinReason))
  (m : OrderedMap K V) (key : K) (pin : Option PinReason)

lemma tally_insert (value : V) :
    tally entry (m.insert key value) pin + one ((m.get? key).bind entry) pin =
      tally entry m pin + one (entry value) pin := by
  have hsum := m.sumOf_insert (fun _ value => one (entry value) pin) key value
  cases hfound : m.get? key with
  | none | some old =>
    rw [hfound] at hsum
    exact hsum

lemma tally_erase :
    tally entry (m.erase key) pin + one ((m.get? key).bind entry) pin = tally entry m pin := by
  have hsum := m.sumOf_erase (fun _ value => one (entry value) pin) key
  cases hfound : m.get? key with
  | none | some old =>
    rw [hfound] at hsum
    exact hsum

end Tally

/-- The headings of a table add up to the number of its links. -/
lemma sum_tally {K V : Type} [LinearOrder K] (entry : V → Option (Option PinReason))
    (m : OrderedMap K V) :
    tally entry m none + (all.map fun reason => tally entry m (some reason)).sum =
      m.values.countP fun value => (entry value).isSome := by
  have hswap (reasons : List PinReason) :
      (reasons.map fun reason => tally entry m (some reason)).sum =
      sumOf (fun _ value => (reasons.map fun reason => one (entry value) (some reason)).sum) m := by
    induction reasons with
    | nil =>
      symm
      exact sumOf_eq_zero_iff.mpr fun _ _ _ => rfl
    | cons reason rest ih =>
      simp only [map_cons, sum_cons]
      rw [ih, sumOf_add]
      rfl
  rw [hswap, tally, ← sumOf_add, countP_values]
  refine sumOf_congr fun _ value _ => ?_
  -- every link is counted under one heading
  rcases entry value with - | - | reason
  · decide
  · decide
  · cases reason <;> decide

/-! ### Changes of the ledger -/

/-- The ledger's change fits an entry that was `old` and is `new`. -/
def Books (ledger : BudgetLedger) (old new : Option (Option PinReason))
    (ledger' : BudgetLedger) : Prop :=
  ∀ census census' : Census, ledger.Exact census →
    (∀ pin, census' pin + one old pin = census pin + one new pin) → ledger'.Exact census'

section Books

variable {ledger ledger' : BudgetLedger}

lemma Books.same (ledger : BudgetLedger) (entry : Option (Option PinReason)) :
    Books ledger entry entry ledger := by
  intro census census' hexact hchange
  have hsame : census' = census := by
    funext pin
    exact Nat.add_right_cancel (hchange pin)
  rw [hsame]
  exact hexact

/-- A link more is a census with one added. -/
lemma add_of_change {census census' : Census} {pin : Option PinReason}
    (h : ∀ other, census' other = census other + one (some pin) other) :
    census' = census.add pin := by
  funext other
  rw [h other, one, Census.add]
  by_cases hsame : other = pin
  · rw [if_pos (by rw [hsame]), if_pos hsame]
  · rw [if_neg (fun heq => hsame (some.inj heq).symm), if_neg hsame]
    rfl

lemma Books.opened (hopen : ledger.openLink = .ok ledger') :
    Books ledger none (some none) ledger' := by
  intro census census' hexact hchange
  have hadd : census' = census.add none := add_of_change hchange
  rw [hadd]
  exact hexact.openLink hopen

lemma Books.dropped (ledger : BudgetLedger) (pin : Option PinReason) :
    Books ledger (some pin) none (ledger.recordUnpin pin) := by
  intro census census' hexact hchange
  have hadd : census = census'.add pin := add_of_change fun other => (hchange other).symm
  rw [hadd] at hexact
  exact hexact.recordUnpin

lemma Books.closed (ledger : BudgetLedger) :
    Books ledger (some none) none (ledger.orSame ledger.close) :=
  Books.dropped ledger none

/-- A census in which an entry moves from one heading to another. -/
lemma add_of_move {census census' : Census} {old new : Option PinReason}
    (h : ∀ pin, census' pin + one (some old) pin = census pin + one (some new) pin)
    (hne : old ≠ new) : ∃ base : Census, census = base.add old ∧ census' = base.add new := by
  have hle pin : one (some old) pin ≤ census pin := by
    have hpin := h pin
    by_cases hold : old = pin
    · have hzero : one (some new) pin = 0 := if_neg fun heq => hne (hold.trans (some.inj heq).symm)
      omega
    · have hzero : one (some old) pin = 0 := if_neg fun heq => hold (some.inj heq)
      omega
  refine ⟨fun pin => census pin - one (some old) pin, add_of_change ?_, add_of_change ?_⟩
  · intro pin
    have hpin := hle pin
    omega
  intro pin
  have hpin := h pin
  have hold := hle pin
  omega

lemma Books.pinned {percent : Option Nat} {reason : PinReason}
    (hpin : ledger.recordPin percent reason = some ledger') :
    Books ledger (some none) (some (some reason)) ledger' := by
  intro census census' hexact hchange
  obtain ⟨base, rfl, rfl⟩ := add_of_move hchange (by simp)
  exact hexact.recordPin hpin

lemma Books.unpinned (ledger : BudgetLedger) (reason : PinReason) :
    Books ledger (some (some reason)) (some none) (ledger.orSame (ledger.unpin reason)) := by
  intro census census' hexact hchange
  obtain ⟨base, rfl, rfl⟩ := add_of_move hchange (by simp)
  exact hexact.unpin

end Books

namespace PoolManager

variable {T F : Type} [LinearOrder T]

/-! ### The invariant -/

/-- What is counted for a parked link. -/
def parkedAccount (parked : Parked T F) : Option (Option PinReason) := some parked.link.pin

/-- What is counted for a client's task. -/
def taskAccount (session : Session T F) : Option (Option PinReason) := session.phase.account

/-- The links of the pool: those parked and those the tasks have. -/
def census (s : PoolManager T F) : Census := fun pin =>
  tally parkedAccount s.parked pin + tally taskAccount s.sessions pin

/-- Inside `acquire` no link has a pin. -/
def Unpinned (phase : Phase T) : Prop :=
  phase.attaching = true → ∀ pin, phase.account = some pin → pin = none

/-- The ledger counts the links, every parked link has its server, and only a checkout is
pinned. -/
structure Balanced (s : PoolManager T F) : Prop where
  exact : s.ledger.Exact s.census
  parked : ∀ id parked, s.parked.get? id = some parked →
    parked.link.pin = none ∧ (s.allocator.servers.get? id).isSome = true
  tasks : ∀ c session, s.sessions.get? c = some session → Unpinned session.phase

variable {s s' : PoolManager T F} {client : ClientId} {session : Session T F} {key : PoolKey T F}
  {phase : Phase T} {server : ServerId} {parked : Parked T F} {lease : Capacity.Lease T} {op : Op T}
  {now : Timestamp} {order : List ServerId} {leases : List (Capacity.Lease T)}
  {admission : AdmissionSpec} {grants : List (Grant T)} {tenant : T} {a' : Allocator T}
  {pool : PoolSpec} {ledger : BudgetLedger}

/-- The allocator changes and no parked link loses its server. -/
lemma Balanced.congr (h : s.Balanced) (hledger : s'.ledger = s.ledger)
    (hparked : s'.parked = s.parked) (hsessions : s'.sessions = s.sessions)
    (hpresent : ∀ id parked, s.parked.get? id = some parked →
      (s'.allocator.servers.get? id).isSome) : s'.Balanced where
  exact := by
    have hcensus : s'.census = s.census := by
      funext pin
      rw [census, hparked, hsessions, census]
    rw [hledger, hcensus]
    exact h.exact
  parked := by
    intro id parked hlink
    rw [hparked] at hlink
    exact ⟨(h.parked id parked hlink).1, hpresent id parked hlink⟩
  tasks := by
    rw [hsessions]
    exact h.tasks

lemma sessions_eq_insert (h : s.sessions.get? client = some session) (phase : Phase T) :
    (s.setPhase client phase).sessions =
      s.sessions.insert client { session with phase := phase } := by
  simp only [setPhase, h]

lemma Unpinned.of_insert (h : s.Balanced) (hphase : Unpinned phase) (c : ClientId)
    (found : Session T F) (hfound : (s.sessions.insert client ⟨key, phase⟩).get? c = some found) :
    Unpinned found.phase := by
  rw [get?_insert] at hfound
  split at hfound
  · rw [some.injEq] at hfound
    rw [← hfound]
    exact hphase
  · exact h.tasks c found hfound

/-- A task moves, and the ledger with it. -/
lemma Balanced.move (h : s.Balanced) (hsession : s.sessions.get? client = some session)
    (hbooks : Books s.ledger session.phase.account phase.account s'.ledger)
    (hunpinned : Unpinned phase)
    (hsessions : s'.sessions = s.sessions.insert client { session with phase := phase })
    (hparked : s'.parked = s.parked)
    (hpresent : ∀ id parked, s.parked.get? id = some parked →
      (s'.allocator.servers.get? id).isSome) : s'.Balanced where
  exact := by
    refine hbooks _ _ h.exact ?_
    intro pin
    have htally := tally_insert taskAccount s.sessions client pin { session with phase := phase }
    rw [hsession] at htally
    change _ + one session.phase.account pin = _ + one phase.account pin at htally
    rw [census, hparked, hsessions, census]
    omega
  parked := by
    intro id parked hlink
    rw [hparked] at hlink
    exact ⟨(h.parked id parked hlink).1, hpresent id parked hlink⟩
  tasks := by
    rw [hsessions]
    exact .of_insert h hunpinned

lemma Balanced.there (h : s.Balanced) (id : ServerId) (parked : Parked T F)
    (hlink : s.parked.get? id = some parked) : (s.allocator.servers.get? id).isSome :=
  (h.parked id parked hlink).2

/-- A task without a link moves to where it has none either. -/
lemma Balanced.setPhase (h : s.Balanced) (hsession : s.sessions.get? client = some session)
    (phase : Phase T) (hbefore : session.phase.account = none) (hafter : phase.account = none) :
    (s.setPhase client phase).Balanced := by
  refine h.move hsession ?_ ?_ (sessions_eq_insert hsession phase) (setPhase_parked _ _ _) ?_
  · rw [hbefore, hafter, setPhase_ledger]
    exact Books.same s.ledger none
  · intro _ pin hpin
    rw [hafter] at hpin
    cases hpin
  · rw [setPhase_allocator]
    exact h.there

/-- Handing grants out counts no link. -/
lemma Balanced.delivered (hdelivered : Delivered s grants s') : s.Balanced → s'.Balanced := by
  induction hdelivered with
  | nil s =>
    intro h
    exact h
  | @cons s s' grant pending session queue hsession hphase hrest ih =>
    intro h
    apply ih
    have hbase : ({ s with waits := s.waits.insert grant.tenant queue } :
        PoolManager T F).Balanced := h.congr rfl rfl rfl h.there
    have hgranted := hbase.setPhase hsession (.granted grant.lease) (by rw [hphase]; rfl) rfl
    exact hgranted.congr rfl rfl rfl hgranted.there

/-- A link is taken out of its slot, and the ledger told. -/
lemma Balanced.erase (h : s.Balanced) (hparked : s.parked.get? server = some parked)
    (hledger : s'.ledger = s.ledger.orSame s.ledger.close)
    (hslots : s'.parked = s.parked.erase server) (hsessions : s'.sessions = s.sessions)
    (hallocator : s'.allocator = s.allocator) : s'.Balanced where
  exact := by
    rw [hledger]
    refine Books.closed s.ledger _ _ h.exact ?_
    intro pin
    have htally := tally_erase parkedAccount s.parked server pin
    rw [hparked] at htally
    change _ + one (some parked.link.pin) pin = _ at htally
    rw [(h.parked server parked hparked).1] at htally
    rw [census, hslots, hsessions, census, one_none]
    omega
  parked := by
    intro id found hlink
    rw [hslots] at hlink
    obtain ⟨-, hlink⟩ := get?_of_erase hlink
    rw [hallocator]
    exact h.parked id found hlink
  tasks := by
    rw [hsessions]
    exact h.tasks

lemma Balanced.unpark (h : s.Balanced) (server : ServerId) : (s.unpark server).Balanced := by
  unfold PoolManager.unpark
  split
  · exact h
  rename_i parked hparked
  refine h.erase hparked ?_ rfl rfl rfl
  rw [(h.parked server parked hparked).1]
  rfl

/-! ### Calls of the allocator -/

/-- A parked link has the server of no task that has its link, or is about to open one. -/
lemma Custody.not_parked (h : s.Custody []) (hpaired : s.Paired [])
    (hsession : s.sessions.get? client = some session) (hlease : session.phase.lease = some lease)
    (hclaimed : session.phase.isGranted = false) : s.parked.get? lease.server = none := by
  cases hparked : s.parked.get? lease.server with
  | none => rfl
  | some parked =>
    exfalso
    have hout := (h.leased client session lease hsession hlease).1
    rcases (h.parked lease.server parked hparked).2 hout.inUse with
      ⟨c, found, held, hfound, hgranted, hserver⟩ | ⟨other, hother, -⟩
    · have hheld : found.phase.lease = some held := by
        rw [hgranted]
        rfl
      have hsame := (h.leased c found held hfound hheld).1.unique hout hserver
      have hwho : c = client := by
        rw [← hpaired.owned c found held hfound hheld, hsame]
        exact hpaired.owned client session lease hsession hlease
      rw [hwho, hsession, some.injEq] at hfound
      rw [hfound, hgranted] at hclaimed
      cases hclaimed
    · cases hother

/-- What a call has to close for a parked link to lose its server: an idle server, or one whose
lease a task was granted. -/
lemma Balanced.present (h : s.Balanced) (hcustody : s.Custody [])
    (hturn : Turnover op s.allocator leases a') {id : ServerId}
    (hparked : s.parked.get? id = some parked)
    (hidle : ∀ conn, s.allocator.servers.get? id = some conn → conn.state = .idle →
      ¬ op.Closes id conn)
    (hawaited : ∀ c session lease conn, s.sessions.get? c = some session →
      session.phase = .granted lease → lease.server = id →
      s.allocator.servers.get? id = some conn → conn.Holds lease → ¬ op.Closes id conn) :
    (a'.servers.get? id).isSome := by
  obtain ⟨conn, hconn⟩ := isSome_iff_exists.mp (h.parked id parked hparked).2
  apply hturn.present hconn
  cases hstate : conn.state with
  | idle => exact hidle conn hconn hstate
  | active =>
    rcases (hcustody.parked id parked hparked).2 ⟨conn, hconn, hstate⟩ with
      ⟨c, session, lease, hsession, hgranted, hserver⟩ | ⟨other, hother, -⟩
    · obtain ⟨found, hfound, hholds⟩ :=
        (hcustody.leased c session lease hsession (by rw [hgranted]; rfl)).1
      rw [hserver, hconn, some.injEq] at hfound
      exact hawaited c session lease conn hsession hgranted hserver hconn (hfound ▸ hholds)
    · cases hother

/-! ### Sections of a task -/

/-- The steps that change the three accounts together: a request closes no server whose link is
parked, and no task is dropped with a link. -/
def booked (s : PoolManager T F) : Step T F → Bool
  | .acquire client _ => s.parked.entries.all fun entry =>
    (s.allocator.servers.get? entry.1).all fun conn =>
      (s.allocator.clients.get? client).all fun t => !s.allocator.yields t conn
  | .abandon client => (s.phaseOf client).account.isNone
  | _ => true

omit [LinearOrder T] in
/-- Where a task has a link, before and after, the ledger has it too. -/
lemma Advance.books {ledger' : BudgetLedger} {step : Step T F} {phase' : Phase T}
    (h : Advance ledger step phase ledger' phase') (hunpinned : Unpinned phase)
    (hdropped : ∀ client, step = .abandon client → phase.account = none) :
    Books ledger phase.account phase'.account ledger' ∧ Unpinned phase' := by
  have hclean : ∀ link : Link, phase.attaching → phase.account = some link.pin →
      some link.pin = some none := by
    intro link hinside haccount
    rw [hunpinned hinside link.pin haccount]
  cases h with
  | abandon client _ hinside =>
    refine ⟨?_, nofun⟩
    rw [hdropped client rfl]
    exact .same ledger none
  | verified client lease link epoch | checked client lease link epoch =>
    exact ⟨.same ledger (some link.pin), nofun⟩
  | spoiled client lease link | rejected client lease link =>
    refine ⟨?_, nofun⟩
    rw [Phase.account, hclean link rfl rfl]
    exact .closed ledger
  | counted client lease _ hopen =>
    exact ⟨.opened hopen, fun _ pin hpin => (some.inj hpin).symm⟩
  | closeWaiter client ticket | full client lease | gateRefused client lease =>
    exact ⟨.same ledger none, nofun⟩
  | connected client lease epoch =>
    exact ⟨.same ledger (some none), fun _ pin hpin => (some.inj hpin).symm⟩
  | connectFailed client lease => exact ⟨.closed ledger, nofun⟩
  | pinned client percent reason lease epoch _ hpin =>
    exact ⟨.pinned hpin, nofun⟩
  | unpinned client reason lease epoch =>
    exact ⟨.unpinned ledger reason, nofun⟩

lemma Balanced.advance (h : s.Balanced) (hsession : s.sessions.get? client = some session)
    {step : Step T F} (hactor : step.actor = some client) (hbooked : s.booked step) (hadvance : Advance s.ledger step session.phase ledger phase)
    (hrun : { s with ledger := ledger }.setPhase client phase = s') : s'.Balanced := by
  subst hrun
  have hthere : ({ s with ledger := ledger } : PoolManager T F).sessions.get? client =
      some session := hsession
  have hdropped : ∀ c, step = .abandon c → session.phase.account = none := by
    rintro c rfl
    obtain rfl := some.inj hactor
    rw [booked, phaseOf_eq hsession] at hbooked
    exact isNone_iff_eq_none.mp hbooked
  obtain ⟨hbooks, hunpinned⟩ := hadvance.books (h.tasks client session hsession) hdropped
  refine h.move hsession ?_ hunpinned (sessions_eq_insert hthere phase) (setPhase_parked _ _ _) ?_
  · rw [setPhase_ledger]
    exact hbooks
  · rw [setPhase_allocator]
    exact h.there

lemma Balanced.acquire (h : s.Balanced) (hpaired : s.Paired [])
    (hsession : s.sessions.get? client = some session) (hresting : session.phase = .resting) (hbooked : s.booked (.acquire client now : Step T F))
    (hrun : s.acquire client tenant now = some s') : s'.Balanced := by
  obtain ⟨⟨admission, a'⟩, hcall, hrest⟩ := bind_eq_some_iff.mp hrun
  have hempty : session.phase.account = none := by
    rw [hresting]
    rfl
  have hpresent id parked :
      s.parked.get? id = some parked → (a'.servers.get? id).isSome = true := by
    intro hparked
    obtain ⟨conn, hconn⟩ := isSome_iff_exists.mp (h.parked id parked hparked).2
    refine tryLease_present hpaired.live.sound hcall hconn (.inr ?_)
    intro t hclient
    have htest := List.all_eq_true.mp hbooked (id, parked) ((mem_entries_iff _ _ _).mpr hparked)
    rw [hconn, hclient] at htest
    simpa using htest
  have hcalled : ({ s with allocator := a' } : PoolManager T F).Balanced :=
    h.congr rfl rfl rfl hpresent
  cases admission with
  | granted lease =>
    cases hrest
    exact hcalled.setPhase hsession _ hempty rfl
  | queued ticket blockedBy revoked =>
    dsimp only at hrest
    split at hrest
    · rename_i queue _
      cases hrest
      have hqueued : ({ s with allocator := a', waits := s.waits.insert tenant queue } :
          PoolManager T F).Balanced := h.congr rfl rfl rfl hpresent
      exact hqueued.setPhase hsession _ hempty rfl
    · cases hrest
      exact hcalled
  | denied reason | stale =>
    cases hrest
    exact hcalled

/-- The eviction of one link. -/
lemma Balanced.evict {s₀ : PoolManager T F} (hsweeps : Sweeps s₀ s) (h : s.Balanced)
    (hrun : s.evict server = some s') : s'.Balanced := by
  unfold PoolManager.evict at hrun
  split at hrun
  · rw [some.injEq] at hrun
    exact hrun ▸ h
  have heq := unpark_eq s server
  obtain ⟨grants, a', hcall, hdelivered, -⟩ := hsweeps.paired.reportDead hsweeps.quiet
    (by rw [heq]) (by rw [heq]) (by rw [heq]) (by rw [heq]) (by rw [heq]) hrun
  have hturn := (backendDied_gives hsweeps.paired.live hcall).turnover
  refine delivered hdelivered ((h.unpark server).congr rfl rfl rfl ?_)
  intro id parked hlink
  rw [unpark_parked] at hlink
  obtain ⟨hother, hlink⟩ := get?_of_erase hlink
  obtain ⟨conn, hconn⟩ := isSome_iff_exists.mp (h.parked id parked hlink).2
  exact hturn.present hconn hother

section

variable (h : s.Balanced) {current : Nat}
include h

lemma Balanced.takeSuperseded (hpaired : s.Paired []) (hquiet : s.Quiet)
    (hrun : s.takeSuperseded order current = some s') : Sweeps s s' ∧ s'.Balanced := by
  refine takeSuperseded_keeps (P := fun b => Sweeps s b ∧ b.Balanced) ?_
    ⟨⟨hpaired, hquiet, .refl none s⟩, h⟩ hrun
  rintro server parked b b' - - ⟨hsweeps, hbalanced⟩ hevict
  exact ⟨hsweeps.evict hevict, hbalanced.evict hsweeps hevict⟩

lemma Balanced.takeIdle (hpaired : s.Paired []) (hquiet : s.Quiet) {idleFor : Timestamp}
    (hrun : s.takeIdle order now idleFor = some s') : Sweeps s s' ∧ s'.Balanced := by
  refine takeIdle_keeps (P := fun b => Sweeps s b ∧ b.Balanced) ?_
    ⟨⟨hpaired, hquiet, .refl none s⟩, h⟩ hrun
  rintro server parked b b' - ⟨hsweeps, hbalanced⟩ hevict
  exact ⟨hsweeps.evict hevict, hbalanced.evict hsweeps hevict⟩

/-- A parked link goes to the task that claims it. -/
lemma Balanced.claimed (hsession : s.sessions.get? client = some session)
    (hempty : session.phase.account = none) (hparked : s.parked.get? lease.server = some parked)
    (hsessions : s'.sessions =
      s.sessions.insert client { session with phase := .reusing lease parked.link })
    (hslots : s'.parked = s.parked.erase lease.server) (hledger : s'.ledger = s.ledger)
    (hallocator : s'.allocator = s.allocator) : s'.Balanced where
  exact := by
    rw [hledger]
    refine Books.same s.ledger none _ _ h.exact ?_
    intro pin
    have hslot := tally_erase parkedAccount s.parked lease.server pin
    have htask := tally_insert taskAccount s.sessions client pin
      { session with phase := .reusing lease parked.link }
    rw [hparked] at hslot
    rw [hsession] at htask
    change _ + one (some parked.link.pin) pin = _ at hslot
    change _ + one session.phase.account pin = _ + one (some parked.link.pin) pin at htask
    rw [hempty, one_none] at htask
    rw [census, hslots, hsessions, census]
    omega
  parked := by
    intro id found hlink
    rw [hslots] at hlink
    obtain ⟨-, hlink⟩ := get?_of_erase hlink
    rw [hallocator]
    exact h.parked id found hlink
  tasks := by
    rw [hsessions]
    refine Unpinned.of_insert h ?_
    intro _ pin hpin
    rw [← some.inj hpin]
    exact (h.parked lease.server parked hparked).1

lemma Balanced.attach [DecidableEq F] (hpaired : s.Paired []) (hquiet : s.Quiet)
    (hsession : s.sessions.get? client = some session) (hgranted : session.phase = .granted lease) (hrun : s.attach client session.key lease order current = some s') :
    s'.Balanced := by
  obtain ⟨s₁, hsweep, hrest⟩ := bind_eq_some_iff.mp hrun
  obtain ⟨hsweeps, hswept⟩ := h.takeSuperseded hpaired hquiet hsweep
  have hstill : s₁.sessions.get? client = some session :=
    hsweeps.onward.steady nofun hsession (by rw [hgranted]; rfl)
  have hempty : session.phase.account = none := by
    rw [hgranted]
    rfl
  unfold claim at hrest
  cases hparked : s₁.parked.get? lease.server with
  | none =>
    simp only [hparked] at hrest
    cases hrest
    exact hswept.setPhase hstill _ hempty rfl
  | some parked =>
    simp only [hparked] at hrest
    by_cases hkey : parked.key = session.key
    · simp only [if_pos hkey] at hrest
      cases hrest
      have hthere : ({ s₁ with parked := s₁.parked.erase lease.server } :
          PoolManager T F).sessions.get? client = some session := hstill
      exact hswept.claimed hstill hempty hparked (sessions_eq_insert hthere _)
        (setPhase_parked _ _ _) (setPhase_ledger _ _ _) (setPhase_allocator _ _ _)
    simp only [if_neg hkey] at hrest
    cases hrest
    let closed : PoolManager T F :=
      { s₁ with
        parked := s₁.parked.erase lease.server
        ledger := s₁.ledger.orSame s₁.ledger.close }
    have hclosed : closed.Balanced := hswept.erase hparked rfl rfl rfl rfl
    exact hclosed.setPhase hstill _ hempty rfl

/-- Releasing a lease whose server has no parked link closes no parked link's server. -/
lemma Balanced.spared
    (hturn : Turnover op s.allocator leases a') (hempty : s.parked.get? server = none)
    (hcloses : ∀ id conn, op.Closes id conn → id = server) (id : ServerId) (parked : Parked T F)
    (hparked : s.parked.get? id = some parked) : (a'.servers.get? id).isSome := by
  obtain ⟨conn, hconn⟩ := isSome_iff_exists.mp (h.parked id parked hparked).2
  refine hturn.present hconn ?_
  intro hgone
  rw [hcloses id conn hgone, hempty] at hparked
  cases hparked

/-- A checkout's link is put into the slot of its server. -/
lemma Balanced.park (hsession : s.sessions.get? client = some session)
    (haccount : session.phase.account = some none) (hempty : s.parked.get? server = none)
    (hthere : (s.allocator.servers.get? server).isSome) (key : PoolKey T F) (epoch : Nat)
    (now : Timestamp) :
    ((s.setPhase client .resting).park server key ⟨epoch, none⟩ now).Balanced := by
  let s₁ : PoolManager T F := (s.setPhase client .resting).park server key ⟨epoch, none⟩ now
  have hslots : s₁.parked = s.parked.insert server ⟨key, ⟨epoch, none⟩, now⟩ := by
    change (s.setPhase client .resting).parked.insert server _ = _
    rw [setPhase_parked]
  have hsessions : s₁.sessions = s.sessions.insert client { session with phase := .resting } :=
    sessions_eq_insert hsession .resting
  have hallocator : s₁.allocator = s.allocator := setPhase_allocator _ _ _
  refine ⟨?_, ?_, ?_⟩
  · change s₁.ledger.Exact s₁.census
    rw [show s₁.ledger = s.ledger from setPhase_ledger _ _ _]
    refine Books.same s.ledger none _ _ h.exact ?_
    intro pin
    have hslot := tally_insert parkedAccount s.parked server pin ⟨key, ⟨epoch, none⟩, now⟩
    have htask := tally_insert taskAccount s.sessions client pin { session with phase := .resting }
    rw [hempty, bind_none, one_none] at hslot
    rw [hsession] at htask
    change _ = _ + one (some none) pin at hslot
    change _ + one session.phase.account pin = _ + 0 at htask
    rw [haccount] at htask
    rw [census, hslots, hsessions, census]
    omega
  · intro id parked hlink
    change s₁.parked.get? id = some parked at hlink
    change _ ∧ (s₁.allocator.servers.get? id).isSome = true
    rw [hslots, get?_insert] at hlink
    rw [hallocator]
    split at hlink
    · rename_i hsame
      rw [some.injEq] at hlink
      rw [← hlink, hsame]
      exact ⟨rfl, hthere⟩
    · exact h.parked id parked hlink
  · change ∀ c found, s₁.sessions.get? c = some found → Unpinned found.phase
    rw [hsessions]
    exact Unpinned.of_insert h nofun

section

variable (hcustody : s.Custody []) (hpaired : s.Paired []) (hquiet : s.Quiet)
  (hsession : s.sessions.get? client = some session)
include hcustody hpaired hquiet hsession

lemma Balanced.checkIn {epoch : Nat} (hholding : session.phase = .holding lease ⟨epoch, none⟩)
    (hrun : s.checkIn client key lease ⟨epoch, none⟩ now = some s') : s'.Balanced := by
  obtain ⟨outcome, a', s₁, hrelease, rfl, hrests, hshape⟩ :=
    hpaired.checkIn hquiet hsession (by rw [hholding]; rfl) hrun
  have hlease : session.phase.lease = some lease := by
    rw [hholding]
    rfl
  have hempty := hcustody.not_parked hpaired hsession hlease (by rw [hholding]; rfl)
  have hthere : (s.allocator.servers.get? lease.server).isSome := by
    obtain ⟨conn, hconn, -⟩ := (hcustody.leased client session lease hsession hlease).1
    rw [hconn]
    rfl
  have hparked := h.park hsession (by rw [hholding]; rfl) hempty hthere key epoch now
  let parked : PoolManager T F :=
    (s.setPhase client .resting).park lease.server key ⟨epoch, none⟩ now
  have hothers id found : id ≠ lease.server → parked.parked.get? id = some found →
      (s₁.allocator.servers.get? id).isSome := by
    intro hother hlink
    change ((s.setPhase client .resting).parked.insert lease.server _).get? id = _ at hlink
    rw [setPhase_parked, get?_insert_of_ne _ _ hother] at hlink
    exact h.spared hrests.gives.turnover hempty (fun _ _ hcloses => hcloses.1) id found hlink
  refine .delivered hrests.delivered ?_
  rcases hshape with ⟨⟨server, hdisposition⟩, hslot⟩ | hslot
  · rw [hslot]
    refine hparked.congr rfl rfl rfl ?_
    intro id found hlink
    by_cases hown : id = lease.server
    · rw [hown]
      exact (release_idle hpaired.live.sound hrelease hdisposition).1
    · exact hothers id found hown hlink
  · rw [hslot]
    refine (hparked.unpark lease.server).congr rfl rfl rfl ?_
    intro id found hlink
    rw [unpark_parked] at hlink
    obtain ⟨hother, hlink⟩ := get?_of_erase hlink
    exact hothers id found hother hlink

lemma Balanced.giveBack {link : Link} (hholding : session.phase = .holding lease link)
    (hrun : s.giveBack client lease link = some s') : s'.Balanced := by
  obtain ⟨outcome, a', hrests⟩ := hpaired.giveBack hquiet hsession (by rw [hholding]; rfl) hrun
  have hempty := hcustody.not_parked hpaired hsession (by rw [hholding]; rfl)
    (by rw [hholding]; rfl)
  refine .delivered hrests.delivered (h.move hsession ?_ (fun hinside => by cases hinside)
    (sessions_eq_insert hsession .resting) (setPhase_parked _ _ _)
    (h.spared hrests.gives.turnover hempty fun _ _ hcloses => hcloses.1))
  rw [hholding]
  exact .dropped s.ledger link.pin

lemma Balanced.giveUp (hrefused : session.phase = .refused lease)
    (hrun : (s.setPhase client .resting).reportDead lease.server = some s') : s'.Balanced := by
  obtain ⟨grants, a', hrested⟩ := hpaired.giveUp hquiet hsession (by rw [hrefused]; rfl) hrun
  have hempty := hcustody.not_parked hpaired hsession (by rw [hrefused]; rfl)
    (by rw [hrefused]; rfl)
  have hrests := h.setPhase hsession .resting (by rw [hrefused]; rfl) rfl
  refine .delivered hrested.delivered (hrests.congr rfl rfl rfl ?_)
  rw [setPhase_parked]
  exact h.spared hrested.gives.turnover hempty fun _ _ => id

lemma Balanced.disconnectClient (hresting : session.phase = .resting)
    (hrun : s.disconnectClient client = some s') : s'.Balanced := by
  have hticket : session.phase.ticket = none := by
    rw [hresting]
    rfl
  obtain ⟨⟨grants, a'⟩, hcall, hdispatch⟩ := bind_eq_some_iff.mp hrun
  have hgives := disconnectClient_gives hpaired.live (hpaired.not_due hsession hticket) hcall
  obtain ⟨-, hdelivered⟩ := (hpaired.erase hsession hticket).call (hquiet.erase client) hgives
    hdispatch rfl rfl rfl rfl rfl
  refine delivered hdelivered ⟨?_, ?_, ?_⟩
  · refine Books.same s.ledger none _ _ h.exact ?_
    intro pin
    have htask := tally_erase taskAccount s.sessions client pin
    rw [hsession] at htask
    change _ + one session.phase.account pin = _ at htask
    rw [hresting] at htask
    change tally parkedAccount s.parked pin + tally taskAccount (s.sessions.erase client) pin + 0 =
      tally parkedAccount s.parked pin + tally taskAccount s.sessions pin + 0
    change _ + 0 = _ at htask
    omega
  · intro id parked hlink
    refine ⟨(h.parked id parked hlink).1, h.present hcustody hgives.turnover hlink ?_ ?_⟩
    · rintro conn - hidle ⟨-, hactive⟩
      rw [hidle] at hactive
      cases hactive
    -- the server's client has been granted it, and the one that leaves has not
    rintro c found lease conn hfound hgranted - - hholds ⟨hclient, -⟩
    have howner := hpaired.owned c found lease hfound (by rw [hgranted]; rfl)
    rw [hholds.2.2.2.1, some.injEq, howner] at hclient
    rw [hclient, hsession, some.injEq] at hfound
    rw [← hfound, hresting] at hgranted
    cases hgranted
  · intro c found hfound
    change (s.sessions.erase client).get? c = some found at hfound
    exact h.tasks c found (get?_of_erase hfound).2

end

/-! ### Cancel requests, clients and tenants -/

lemma Balanced.leaseCancel (hpaired : s.Paired []) (hrun : s.leaseCancel client now = some s') :
    s'.Balanced := by
  obtain ⟨⟨admission, a'⟩, hcall, hrest⟩ := bind_eq_some_iff.mp hrun
  have hpresent id parked :
      s.parked.get? id = some parked → (a'.servers.get? id).isSome = true := by
    intro hparked
    obtain ⟨conn, hconn⟩ := isSome_iff_exists.mp (h.parked id parked hparked).2
    exact tryLease_present hpaired.live.sound hcall hconn (.inl rfl)
  cases admission with
  | _ =>
    cases hrest
    exact h.congr rfl rfl rfl hpresent

lemma Balanced.releaseCancel (hcustody : s.Custody []) (hpaired : s.Paired []) (hquiet : s.Quiet)
    (hlease : lease ∈ s.cancels) (hrun : s.releaseCancel lease = some s') : s'.Balanced := by
  obtain ⟨⟨outcome, a'⟩, hcall, hdispatch⟩ := bind_eq_some_iff.mp hrun
  have hrelease : s.allocator.release lease = some (outcome, a') := hcall
  have hgives := release_gives hpaired.live hrelease
  obtain ⟨-, hdelivered⟩ := hpaired.call hquiet hgives hdispatch rfl rfl rfl rfl rfl
  obtain ⟨hout, hcredit⟩ := (hcustody.cancels lease).mp hlease
  refine delivered hdelivered (h.congr rfl rfl rfl ?_)
  intro id parked hlink
  refine h.present hcustody hgives.turnover hlink ?_ ?_
  · rintro conn - hidle ⟨-, hactive, -⟩
    rw [hidle] at hactive
    cases hactive
  rintro c found held conn hfound hgranted hserver - - ⟨hsame, -⟩
  obtain ⟨hheld, hnormal⟩ := hcustody.leased c found held hfound (by rw [hgranted]; rfl)
  rw [hheld.unique hout (hserver.trans hsame)] at hnormal
  exact hnormal hcredit

lemma Balanced.connectClient (hpaired : s.Paired []) (hrun : s.connectClient key = some s') : s'.Balanced := by
  obtain ⟨⟨result, a'⟩, hcall, hrest⟩ := bind_eq_some_iff.mp hrun
  obtain ⟨hservers, -⟩ := connectClient_table hcall
  have hpresent : ∀ id parked, s.parked.get? id = some parked → (a'.servers.get? id).isSome := by
    rw [hservers]
    exact h.there
  cases result with
  | ok client =>
    cases hrest
    obtain ⟨rfl, -, -⟩ := connectClient_ok hcall
    refine ⟨?_, fun id parked hlink => ⟨(h.parked id parked hlink).1, hpresent id parked hlink⟩,
      Unpinned.of_insert h nofun⟩
    refine Books.same s.ledger none _ _ h.exact ?_
    intro pin
    have htask := tally_insert taskAccount s.sessions s.allocator.nextClient pin ⟨key, .resting⟩
    rw [hpaired.next_is_new] at htask
    change _ + 0 = _ + 0 at htask
    change tally parkedAccount s.parked pin +
        tally taskAccount (s.sessions.insert s.allocator.nextClient ⟨key, .resting⟩) pin + 0 =
      tally parkedAccount s.parked pin + tally taskAccount s.sessions pin + 0
    omega
  | error rejection =>
    cases hrest
    exact h.congr rfl rfl rfl hpresent

lemma Balanced.addTenant (tenant : T) (spec : TenantSpec) : (s.addTenant tenant spec).Balanced := by
  have heq := addTenant_eq s tenant spec
  have hservers : (s.allocator.addTenant tenant spec).2.servers = s.allocator.servers := by
    unfold Allocator.addTenant
    split <;> rfl
  rw [heq]
  refine h.congr rfl rfl rfl ?_
  change ∀ id parked, _ → ((s.allocator.addTenant tenant spec).2.servers.get? id).isSome = true
  rw [hservers]
  exact h.there

/-- A call that closes no idle server and none that is leased. -/
lemma Balanced.harmless {s₁ : PoolManager T F} (hcustody : s.Custody [])
    (hdelivered : Delivered s₁ grants s') (hgives : Gives op s.allocator grants s₁.allocator)
    (hledger : s₁.ledger = s.ledger) (hparked : s₁.parked = s.parked)
    (hsessions : s₁.sessions = s.sessions)
    (hidle : ∀ id conn, s.allocator.servers.get? id = some conn → conn.state = .idle →
      ¬ op.Closes id conn)
    (hleased : ∀ (lease : Capacity.Lease T) conn, s.allocator.servers.get? lease.server = some conn →
      conn.Holds lease → ¬ op.Closes lease.server conn) : s'.Balanced := by
  refine delivered hdelivered (h.congr hledger hparked hsessions ?_)
  intro id parked hlink
  refine h.present hcustody hgives.turnover hlink (hidle id) ?_
  rintro c session lease conn - - rfl hconn hholds
  exact hleased lease conn hconn hholds

lemma Balanced.adoptClaim (hpaired : s.Paired []) (hquiet : s.Quiet) (hcustody : s.Custody [])
    {claim : T × TenantSpec} (hrun : s.adoptClaim claim = some s') : s'.Balanced := by
  rcases adoptClaim_cases hrun with ⟨result, a', tenants, hcall, -, hdispatch⟩ | rfl
  · have hgives := setTenantSpec_gives hpaired.live hcall
    obtain ⟨-, hdelivered⟩ := hpaired.call hquiet hgives hdispatch rfl rfl rfl rfl rfl
    exact h.harmless hcustody hdelivered hgives rfl rfl rfl (fun _ _ _ _ => id) fun _ _ _ _ => id
  · exact h.addTenant _ _

lemma Balanced.forget (hpaired : s.Paired []) (hquiet : s.Quiet) (hcustody : s.Custody []) (hempty : s.allocator.waitersOf tenant = [])
    (hdeserted : s.allocator.Deserted tenant) (hrun : s.forget tenant = some s') : s'.Balanced := by
  obtain ⟨result, a', tenants, hcall, hdispatch⟩ := forget_cases hrun
  have hgives := removeTenant_gives hpaired.live hempty hcall
  have hidle : ∀ id conn, s.allocator.servers.get? id = some conn → conn.state = .idle →
      ¬ (Op.removeTenant tenant).Closes id conn :=
    fun id conn hconn hstate hcloses => hdeserted.busy id conn hconn hcloses hstate
  have hleased (lease : Capacity.Lease T) conn : s.allocator.servers.get? lease.server = some conn →
      conn.Holds lease → ¬ (Op.removeTenant tenant).Closes lease.server conn := by
    intro hconn hholds hcloses
    exact hdeserted.unleased lease ⟨conn, hconn, hholds⟩ (hholds.2.2.1.symm.trans hcloses)
  obtain ⟨-, hdelivered⟩ := hpaired.call hquiet hgives hdispatch rfl rfl rfl rfl rfl
  exact h.harmless hcustody hdelivered hgives rfl rfl rfl hidle hleased

/-! ### Steps and runs -/

lemma Balanced.task [DecidableEq F] (hpaired : s.Paired []) (hcustody : s.Custody [])
    {step : Step T F} (hstep : s.inStep step) (hbooked : s.booked step)
    (hactor : step.actor = some client) (hsession : s.sessions.get? client = some session)
    (htask : Task s client session step s') : s'.Balanced := by
  cases htask with
  | advance hadvance hrun => exact h.advance hsession hactor hbooked hadvance hrun
  | notPinned percent reason => exact h
  | disconnectClient hphase hrun =>
    exact h.disconnectClient hcustody hpaired (of_test hstep) hsession hphase hrun
  | acquire hphase hrun => exact h.acquire hpaired hsession hphase hbooked hrun
  | @dropWaiter ticket _ hphase hrun =>
    subst hrun
    have hempty : session.phase.account = none := by
      rcases hphase with hqueued | hclosing
      · rw [hqueued]
        rfl
      · rw [hclosing]
        rfl
    have hderegistered : ({ s with
        waits := s.waits.insert session.key.tenant
          ((s.waitQueue session.key.tenant).deregister client) } : PoolManager T F).Balanced :=
      h.congr rfl rfl rfl h.there
    exact hderegistered.setPhase hsession _ hempty rfl
  | @dropTicket ticket removed a' _ hphase hcall hrun =>
    subst hrun
    have hcancelled : ({ s with allocator := a' } : PoolManager T F).Balanced := by
      refine h.congr rfl rfl rfl ?_
      rw [(cancelTicket_table hcall).1]
      exact h.there
    exact hcancelled.setPhase hsession _ (by rw [hphase]; rfl) rfl
  | attach hphase hrun =>
    exact h.attach hpaired (of_test hstep) hsession hphase hrun
  | giveUp hphase hrun =>
    exact h.giveUp hcustody hpaired (of_test hstep) hsession hphase hrun
  | checkIn hphase hrun =>
    exact h.checkIn hcustody hpaired (of_test hstep) hsession hphase hrun
  | drop how hphase hrun =>
    exact h.giveBack hcustody hpaired (of_test hstep) hsession hphase hrun

lemma Balanced.step [DecidableEq F] (hpaired : s.Paired []) (hcustody : s.Custody [])
    {step : Step T F} (hcareful : s.careful step) (hbooked : s.booked step)
    (hrun : s.next step = some s') : s'.Balanced := by
  rw [careful, Bool.and_eq_true] at hcareful
  obtain ⟨hstep, hspares⟩ := hcareful
  cases hactor : step.actor with
  | some client =>
    obtain ⟨session, hsession, htask⟩ := task_of_next hactor hrun
    exact h.task hpaired hcustody hstep hbooked hactor hsession htask
  | none =>
    cases step with
    | ensureTenant tenant =>
      rw [next] at hrun
      cases hrun
      unfold PoolManager.ensureTenant
      split
      · exact h
      · exact h.addTenant tenant defaultSpec
    | connectClient key => exact h.connectClient hpaired hrun
    | leaseCancel client now => exact h.leaseCancel hpaired hrun
    | releaseCancel lease =>
      rw [next] at hrun
      split at hrun
      · rename_i hlease
        exact h.releaseCancel hcustody hpaired (of_test hstep) hlease hrun
      · cases hrun
    | severSuperseded order current =>
      exact (h.takeSuperseded hpaired (of_test hstep) hrun).2
    | reapIdle order now idleFor =>
      exact (h.takeIdle hpaired (of_test hstep) hrun).2
    | applyTenants published =>
      obtain ⟨hquiet, hspared⟩ := quiet_of_inStep hstep
      have hnamed : ∀ lease ∈ s.cancels, lease.tenant ∈ published.map Prod.fst :=
        fun lease hlease => of_decide_eq_true (List.all_eq_true.mp hspares lease hlease)
      refine (hcustody.applyTenants_keeps (P := Balanced) hpaired hquiet hspared hnamed
        ?_ ?_ h hrun).2
      · intro claim b b' hpaired hquiet hcustody hbalanced hadopt
        exact hbalanced.adoptClaim hpaired hquiet hcustody hadopt
      · intro tenant b b' hpaired hquiet hcustody hempty hdeserted hbalanced hforget
        exact hbalanced.forget hpaired hquiet hcustody hempty hdeserted hforget
    | _ => cases hactor

end

/-- The careful steps that change the accounts together. -/
def accounted (s : PoolManager T F) (step : Step T F) : Bool :=
  s.careful step && s.booked step

def accountedSystem [DecidableEq F] (pool : PoolSpec) (admission : AdmissionSpec) :
    System (PoolManager T F) (Step T F) :=
  (system pool admission).restrict fun s step => s.accounted step = true

lemma balanced_new (h : new pool admission = .ok s) : s.Balanced := by
  obtain ⟨allocator, -, rfl⟩ := new_ok h
  refine ⟨exact_new pool.backendConnections, ?_, ?_⟩
  · intro id parked hparked
    cases hparked
  · intro c session hsession
    cases hsession

lemma balanced_of_reachable [DecidableEq F] (h : (accountedSystem pool admission).Reachable s) :
    s.Paired [] ∧ s.Custody [] ∧ s.Balanced := by
  refine h.invariant (I := fun s => Paired s [] ∧ Custody s [] ∧ Balanced s) ?_ ?_
  · intro s hinit
    exact ⟨paired_new hinit, custody_new hinit, balanced_new hinit⟩
  rintro s step s' - ⟨hpaired, hcustody, hbalanced⟩ ⟨haccounted, hrun⟩
  rw [accounted, Bool.and_eq_true] at haccounted
  obtain ⟨hcareful, hbooked⟩ := haccounted
  have hboth := hcareful
  rw [careful, Bool.and_eq_true] at hboth
  exact ⟨(hpaired.step hboth.1 hrun).paired, (hcustody.step hpaired hboth.1 hboth.2 hrun).custody,
    hbalanced.step hpaired hcustody hcareful hbooked hrun⟩

/-- The ledger's total is the number of links parked and of tasks with a link. -/
lemma Balanced.total (h : s.Balanced) :
    s.ledger.elastic + s.ledger.pinned = s.parked.values.length +
      s.sessions.values.countP fun session => session.phase.account.isSome := by
  have htotal : s.ledger.elastic + s.ledger.pinned = _ := h.exact.total
  have hparked := sum_tally parkedAccount s.parked
  have htasks := sum_tally taskAccount s.sessions
  have hall : s.parked.values.countP (fun parked => (parkedAccount parked).isSome) =
      s.parked.values.length := countP_eq_length.mpr fun _ _ => rfl
  have hsplit : (all.map fun reason => s.census (some reason)).sum =
      (all.map fun reason => tally parkedAccount s.parked (some reason)).sum +
        (all.map fun reason => tally taskAccount s.sessions (some reason)).sum :=
    sum_map_add
  rw [hall] at hparked
  rw [htotal, hsplit, ← hparked]
  change _ = _ + s.sessions.values.countP fun session => (taskAccount session).isSome
  rw [← htasks, census]
  omega

/-- A checkout. -/
def isHolding : Phase T → Bool
  | .holding _ _ => true
  | _ => false

/-- No task is inside `acquire` past the queue. -/
def settled (s : PoolManager T F) : Bool :=
  s.sessions.values.all fun session => !session.phase.attaching

lemma settled_phase (h : s.settled) {c : ClientId}
    (hsession : s.sessions.get? c = some session) : session.phase.attaching = false := by
  have htest := List.all_eq_true.mp h session ((mem_values_iff _ _).mpr ⟨c, hsession⟩)
  simpa using htest

omit [LinearOrder T] in
lemma account_of_settled (h : phase.attaching = false) :
    phase.account.isSome = isHolding phase := by
  cases phase with
  | holding lease link => rfl
  | resting | queued | closing | leaving => rfl
  | _ => cases h

/-- In every run of accounted steps: a parked link has its server, which is idle unless a task
has just been granted it; the lease of a checkout is out; the ledger's two counts add up to the
links that are parked or in a task's hands.  With nobody inside `acquire` past the queue, these
are the links parked, each with an idle server, and the checkouts. -/
theorem accounts_agree [DecidableEq F] (pool : PoolSpec) (admission : AdmissionSpec)
    {s : PoolManager T F} (hreach : (accountedSystem pool admission).Reachable s) :
    (∀ id parked, s.parked.get? id = some parked →
      ∃ conn, s.allocator.servers.get? id = some conn ∧ (conn.state = .idle ∨ s.Awaited id)) ∧
    (∀ c session lease link, s.sessions.get? c = some session →
      session.phase = .holding lease link → s.allocator.Leased lease) ∧
    s.ledger.elastic + s.ledger.pinned = s.parked.values.length +
      s.sessions.values.countP (fun session => session.phase.account.isSome) ∧
    (s.settled = true → (∀ id parked, s.parked.get? id = some parked →
        ∃ conn, s.allocator.servers.get? id = some conn ∧ conn.state = .idle) ∧
      s.ledger.elastic + s.ledger.pinned = s.parked.values.length +
        s.sessions.values.countP fun session => isHolding session.phase) := by
  obtain ⟨-, hcustody, hbalanced⟩ := balanced_of_reachable hreach
  have hslots id parked : s.parked.get? id = some parked →
      ∃ conn, s.allocator.servers.get? id = some conn ∧ (conn.state = .idle ∨ s.Awaited id) := by
    intro hparked
    obtain ⟨conn, hconn⟩ := isSome_iff_exists.mp (hbalanced.parked id parked hparked).2
    refine ⟨conn, hconn, ?_⟩
    cases hstate : conn.state with
    | idle => exact .inl rfl
    | active =>
      rcases (hcustody.parked id parked hparked).2 ⟨conn, hconn, hstate⟩ with
        hawaited | ⟨lease, hlease, -⟩
      · exact .inr hawaited
      · cases hlease
  refine ⟨hslots, ?_, hbalanced.total, ?_⟩
  · intro c session lease link hsession hholding
    exact (hcustody.leased c session lease hsession (by rw [hholding]; rfl)).1
  intro hsettled
  constructor
  · intro id parked hparked
    obtain ⟨conn, hconn, hidle | ⟨c, session, lease, hsession, hgranted, -⟩⟩ :=
      hslots id parked hparked
    · exact ⟨conn, hconn, hidle⟩
    · have hoff := settled_phase hsettled hsession
      rw [hgranted] at hoff
      cases hoff
  · rw [hbalanced.total]
    congr 1
    refine countP_congr ?_
    intro session hmem
    obtain ⟨c, hsession⟩ := (mem_values_iff _ _).mp hmem
    rw [account_of_settled (settled_phase hsettled hsession)]

/-- Of three clients of one tenant the first pins its checkout and the third checks its own in. -/
def mixedRun : List (Step Nat Nat) :=
  [.ensureTenant 0, .connectClient ⟨0, 0⟩, .connectClient ⟨0, 0⟩, .connectClient ⟨0, 0⟩,
    .acquire 0 0, .attach 0 [] 0, .openLink 0, .connected 0 (some 0), .verifyOpened 0 (some 0),
    .pin 0 none .listen,
    .acquire 1 0, .attach 1 [] 0, .openLink 1, .connected 1 (some 0), .verifyOpened 1 (some 0),
    .acquire 2 0, .attach 2 [] 0, .openLink 2, .connected 2 (some 0), .verifyOpened 2 (some 0),
    .checkIn 2 0]

/-- One link pinned, one checked out, one parked. -/
theorem accounts_agree_mixedRun : ∃ s : PoolManager Nat Nat,
      replay (plainPool 3) plainAdmission accounted mixedRun = some s ∧ s.settled = true ∧
      s.ledger.pinned = 1 ∧ s.ledger.elastic = 2 ∧
      (∃ conn, s.allocator.servers.get? 2 = some conn ∧ conn.state = .idle) ∧
      s.ledger.elastic + s.ledger.pinned = s.parked.values.length +
        s.sessions.values.countP fun session => isHolding session.phase := by
  obtain ⟨s, parked, hs, hsettled, hpinned, helastic, hparked⟩ :
      ∃ (s : PoolManager Nat Nat) (parked : Parked Nat Nat),
        replay (plainPool 3) plainAdmission accounted mixedRun = some s ∧ s.settled = true ∧
        s.ledger.pinned = 1 ∧ s.ledger.elastic = 2 ∧ s.parked.get? 2 = some parked := by
    let s := (replay (F := Nat) (plainPool 3) plainAdmission accounted mixedRun).get (by decide)
    exact ⟨s, (s.parked.get? 2).get (by decide), (some_get _).symm, by decide, by decide,
      by decide, (some_get _).symm⟩
  obtain ⟨-, -, -, hbetween⟩ := accounts_agree (plainPool 3) plainAdmission (reachable_of_replay hs)
  obtain ⟨hidle, htotal⟩ := hbetween hsettled
  exact ⟨s, hs, hsettled, hpinned, helastic, hidle 2 parked hparked, htotal⟩

/-- A client of the first tenant has checked its link in when the second tenant, which has a
guarantee, asks for its first server.  The request closes the idle server of the first; its link
stays parked and on the ledger, so that the second tenant's client finds the ledger full. -/
theorem revocation_leaves_the_link_parked : ∃ s : PoolManager Nat Nat,
      replay (plainPool 1) plainAdmission careful
        [.applyTenants [(0, plainTenant 0 1)], .connectClient ⟨0, 0⟩, .acquire 0 0,
          .attach 0 [] 0, .openLink 0, .connected 0 (some 0), .verifyOpened 0 (some 0),
          .checkIn 0 0, .applyTenants [(0, plainTenant 0 1), (1, plainTenant 1 1)],
          .connectClient ⟨1, 0⟩, .acquire 1 0, .attach 1 [] 0, .openLink 1, .giveUp 1] = some s ∧
      s.settled = true ∧ (s.parked.get? 0).isSome = true ∧
      (s.allocator.servers.get? 0).isSome = false ∧ s.ledger.elastic = 1 ∧
      s.allocator.servers.values.length = 0 :=
  exists_of_any (by decide)

end PoolManager
end PgElastic.Proxy
