import PgElastic.Proxy.LeaseCustody

/-!
# Leased servers: runs

Every section of the manager keeps the leases in custody and closes no leased server, except
where the walks over the parked links meet a grant that is not claimed yet, where a lease of a
cancel request outlives its client or its tenant, and where a task drops a grant whose link is
parked.  `spares` names these; the counterexample is the first of them.
-/

namespace PgElastic.Proxy.PoolManager

open Library Capacity Capacity.Allocator Pool Option OrderedMap List Quiet Outcome

variable {T F : Type} [LinearOrder T]

/-! ### The condition -/

/-- Nobody but the client has been granted a server without claiming a link for it. -/
def claimedExcept (s : PoolManager T F) (client : Option ClientId) : Bool :=
  s.sessions.entries.all fun entry =>
    decide (some entry.1 = client) || !entry.2.phase.isGranted

/-- The slot of the server a client was granted, if its link passes a test or is empty. -/
def slotOf (s : PoolManager T F) (client : ClientId) (test : Parked T F → Bool) : Bool :=
  match s.phaseOf client with
  | .granted lease => (s.parked.get? lease.server).all test
  | _ => true

variable {s s' : PoolManager T F} {client : ClientId} {lease : Capacity.Lease T} {now : Timestamp}
  {session : Session T F} {published : List (T × TenantSpec)} {admission : AdmissionSpec}
  {key : PoolKey T F} {pool : PoolSpec} {tenant : T} {id : ServerId} {link : Link}

/-- The steps that meet no leased server. -/
def spares (s : PoolManager T F) : Step T F → Bool
  | .severSuperseded _ _ | .reapIdle _ _ _ => s.claimedExcept none
  | .attach client _ current => s.claimedExcept (some client) &&
      s.slotOf client fun parked => decide (current ≤ parked.link.epoch)
  | .abandon client => s.slotOf client fun _ => false
  | .disconnectClient client => s.cancels.all fun lease => decide (lease.client ≠ client)
  | .applyTenants published =>
    s.cancels.all fun lease => decide (lease.tenant ∈ published.map Prod.fst)
  | _ => true

/-- The leases a step gives back: the one its task has, those of a client that leaves, the one
of a cancel request that is over. -/
def givesBack (s : PoolManager T F) (step : Step T F) (lease : Capacity.Lease T) : Prop :=
  match step with
  | .checkIn client _ | .drop _ client | .giveUp client =>
    (s.phaseOf client).lease = some lease
  | .disconnectClient client => lease.client = client ∧ lease.credit ≠ .cancel
  | .releaseCancel given => lease = given
  | _ => False

lemma awaited_by {client : Option ClientId} (h : s.claimedExcept client) (hawaited : s.Awaited id) :
    ∃ c session lease, client = some c ∧ s.sessions.get? c = some session ∧
      session.phase = .granted lease ∧ lease.server = id := by
  obtain ⟨c, session, lease, hsession, hgranted, hserver⟩ := hawaited
  have htest := List.all_eq_true.mp h (c, session) ((mem_entries_iff _ _ _).mpr hsession)
  rw [Bool.or_eq_true] at htest
  rcases htest with hsame | hclaimed
  · exact ⟨c, session, lease, (of_decide_eq_true hsame).symm, hsession, hgranted, hserver⟩
  · rw [hgranted] at hclaimed
    cases hclaimed

/-- With every grant claimed, no parked link has a leased server. -/
lemma Custody.unused (h : s.Custody []) (hclaimed : s.claimedExcept none)
    {parked : Parked T F} (hparked : s.parked.get? id = some parked) : ¬ s.allocator.InUse id := by
  intro huse
  rcases (h.parked id parked hparked).2 huse with hawaited | ⟨lease, hlease, -⟩
  · obtain ⟨c, session, lease, hnone, -⟩ := awaited_by hclaimed hawaited
    cases hnone
  · cases hlease

/-! ### Sections of a task -/

lemma Custody.advance (h : s.Custody []) (hsession : s.sessions.get? client = some session)
    {step : Step T F} (hactor : step.actor = some client) (hspares : s.spares step)
    {ledger : BudgetLedger} {phase : Phase T}
    (hadvance : Advance s.ledger step session.phase ledger phase)
    (hrun : { s with ledger := ledger }.setPhase client phase = s') :
    Guards (fun _ => False) s s' := by
  subst hrun
  have hthere : ({ s with ledger := ledger } : PoolManager T F).sessions.get? client =
      some session := hsession
  refine h.move hsession hadvance.phases.2.2 (sessions_setPhase hthere phase) ?_
    (by rw [setPhase_allocator]) (by rw [setPhase_allocator]) (setPhase_cancels _ _ _) ?_
  · intro lease hgranted
    rw [setPhase_parked]
    rw [hgranted] at hadvance
    cases hadvance with
    | abandon _ _ _ =>
      obtain rfl := some.inj hactor
      simp only [spares, slotOf, (phaseOf_eq hsession).trans hgranted] at hspares
      cases hparked : s.parked.get? lease.server with
      | none => rfl
      | some parked =>
        rw [hparked] at hspares
        cases hspares
  · intro id parked hlink
    rw [setPhase_parked] at hlink
    rw [show s.parked.get? id = some parked from hlink]
    rfl

/-- The allocator's answer to a request that was granted nothing or a normal lease, before the
manager acts on it. -/
lemma Custody.asked (h : s.Custody []) (hpaired : s.Paired []) {kind : Capacity.RequestKind}
    {admission : Admission T} {a' : Allocator T}
    (hcall : s.allocator.tryLease client kind now = some (admission, a'))
    (hnormal : ∀ lease ∈ (admitted admission).leases, lease.credit ≠ .cancel) :
    Custody { s with allocator := a' } (admitted admission).leases ∧
      ∀ lease, s.allocator.Leased lease → a'.Leased lease := by
  have hturn := tryLease_turnover hpaired.live.sound hcall
  refine ⟨?_, fun lease hlease =>
    hturn.leased hlease fun conn _ hholds => tryLease_retires_none hholds⟩
  refine h.turnover (fun _ => False) hturn hnormal
    ⟨fun lease conn _ hholds => tryLease_retires_none hholds, ?_, fun _ hawaited => hawaited,
      ?_, h.once, fun _ _ _ hfalse => hfalse, ?_⟩
  · intro c session lease hsession _
    exact ⟨hsession, fun hfalse => hfalse⟩
  · intro lease
    exact ⟨fun hmem => ⟨hmem, fun hfalse => hfalse⟩, fun hboth => hboth.1⟩
  intro id parked hlink
  left
  rw [show s.parked.get? id = some parked from hlink]
  rfl

lemma Custody.acquire (h : s.Custody []) (hpaired : s.Paired [])
    (hsession : s.sessions.get? client = some session) (hresting : session.phase = .resting) (hrun : s.acquire client tenant now = some s') : Guards (fun _ => False) s s' := by
  obtain ⟨⟨admission, a'⟩, hcall, hrest⟩ := bind_eq_some_iff.mp hrun
  obtain ⟨hcustody, hkept⟩ := h.asked hpaired hcall (tryLease_normal hpaired.live.sound hcall)
  have hasked : (admitted admission).leases = [] →
      Guards (fun _ => False) s { s with allocator := a' } := by
    intro hnone
    rw [hnone] at hcustody
    exact ⟨hcustody, fun lease hlease => .inl (hkept lease hlease)⟩
  cases admission with
  | granted lease =>
    cases hrest
    have hthere : ({ s with allocator := a' } : PoolManager T F).sessions.get? client =
        some session := hsession
    refine ⟨hcustody.hand hthere (by rw [hresting]; rfl) (sessions_setPhase hthere _)
      (setPhase_allocator _ _ _) (setPhase_parked _ _ _) (setPhase_cancels _ _ _), ?_⟩
    intro other hother
    rw [setPhase_allocator]
    exact .inl (hkept other hother)
  | queued ticket blockedBy revoked =>
    have hwaits := hasked rfl
    dsimp only at hrest
    split at hrest
    · rename_i queue _
      cases hrest
      have hthere : ({ s with
          allocator := a'
          waits := s.waits.insert tenant queue } : PoolManager T F).sessions.get? client =
            some session := hsession
      refine hwaits.trans (hwaits.custody.move hsession (.inr rfl)
        (sessions_setPhase hthere (.queued ticket)) ?_ (by rw [setPhase_allocator])
        (by rw [setPhase_allocator]) (setPhase_cancels _ _ _) ?_)
      · intro lease hgranted
        rw [hresting] at hgranted
        cases hgranted
      intro id parked hlink
      rw [setPhase_parked] at hlink
      rw [show s.parked.get? id = some parked from hlink]
      rfl
    · rw [some.injEq] at hrest
      exact hrest ▸ hwaits
  | denied reason | stale =>
    simp only [some.injEq] at hrest
    exact hrest ▸ hasked rfl

lemma claim_parked [DecidableEq F] (s : PoolManager T F) (server : ServerId)
    (key : PoolKey T F) : (s.claim server key).2.parked = s.parked.erase server := by
  unfold claim
  split
  · rename_i hnone
    exact (erase_of_get?_eq_none hnone).symm
  · split <;> rfl

lemma Custody.attach [DecidableEq F] (h : s.Custody []) (hpaired : s.Paired []) (hquiet : s.Quiet)
    (hsession : s.sessions.get? client = some session) (hgranted : session.phase = .granted lease)
    {order : List ServerId} {current : Nat}
    (hspares : s.spares (.attach client order current : Step T F))
    (hrun : s.attach client session.key lease order current = some s') :
    Guards (fun _ => False) s s' := by
  obtain ⟨s₁, hsweep, hrest⟩ := bind_eq_some_iff.mp hrun
  simp only [spares, Bool.and_eq_true, slotOf, (phaseOf_eq hsession).trans hgranted] at hspares
  have hsparing : Sparing s s₁ := by
    refine Sparing.takeSuperseded hpaired hquiet h ?_ hsweep
    intro id parked hparked hstale huse
    rcases (h.parked id parked hparked).2 huse with hawaited | ⟨other, hother, -⟩
    · -- the one grant not claimed is its own, and its link is current
      obtain ⟨c, found, held, hclient, hfound, hphase, hserver⟩ := awaited_by hspares.1 hawaited
      obtain rfl := some.inj hclient
      rw [hsession, some.injEq] at hfound
      rw [← hfound, hgranted, Phase.granted.injEq] at hphase
      have hcurrent := hspares.2
      rw [hphase, hserver, hparked] at hcurrent
      exact absurd hstale (not_lt.mpr (of_decide_eq_true hcurrent))
    · cases hother
  have hstill : s₁.sessions.get? client = some session :=
    hsparing.onward.steady nofun hsession (by rw [hgranted]; rfl)
  have heq := claim_eq s₁ lease.server session.key
  have hthere : (s₁.claim lease.server session.key).2.sessions.get? client = some session := by
    rw [heq]
    exact hstill
  have hmoved : ∀ phase : Phase T, phase.lease = some lease →
      Guards (fun _ => False) s ((s₁.claim lease.server session.key).2.setPhase client phase) := by
    intro phase hheld
    have hkeeps : phase.lease = session.phase.lease ∨ phase.lease = none := by
      left
      rw [hheld, hgranted]
      rfl
    refine hsparing.toGuards.trans (hsparing.custody.move hstill hkeeps ?_ ?_ ?_ ?_ ?_ ?_)
    · intro c
      rw [sessions_setPhase hthere, heq]
    · intro held hphase
      rw [hgranted, Phase.granted.injEq] at hphase
      rw [setPhase_parked, claim_parked, ← hphase, get?_erase, if_pos rfl]
    · rw [setPhase_allocator, heq]
    · rw [setPhase_allocator, heq]
    · rw [setPhase_cancels, heq]
    intro id parked hlink
    rw [setPhase_parked, claim_parked] at hlink
    obtain ⟨-, hlink⟩ := get?_of_erase hlink
    rw [hlink]
    rfl
  cases hclaim : s₁.claim lease.server session.key with
  | mk link s2 =>
    rw [hclaim] at hmoved hrest
    cases link with
    | some link | none =>
      simp only [some.injEq] at hrest
      exact hrest ▸ hmoved _ rfl

lemma Custody.checkIn (h : s.Custody []) (hpaired : s.Paired []) (hquiet : s.Quiet)
    (hsession : s.sessions.get? client = some session)
    (hholding : session.phase = .holding lease link) {parkedLink : Link}
    (hrun : s.checkIn client key lease parkedLink now = some s') :
    Guards (fun other => other = lease) s s' := by
  obtain ⟨outcome, a', s₁, hrelease, rfl, hrests, hshape⟩ :=
    hpaired.checkIn hquiet hsession (by rw [hholding]; rfl) hrun
  have hinserted : ((s.setPhase client .resting).park lease.server key parkedLink now).parked =
      s.parked.insert lease.server ⟨key, parkedLink, now⟩ := by
    change (s.setPhase client .resting).parked.insert lease.server _ = _
    rw [setPhase_parked]
  refine h.call_back hpaired hsession (by rw [hholding]; rfl) (by rw [hholding]; rfl) hrests
    (fun _ _ => release_retires) ?_
  intro id found hlink
  rcases hshape with ⟨⟨server, hdisposition⟩, hslot⟩ | hslot
  · have hslots : s₁.parked = s.parked.insert lease.server ⟨key, parkedLink, now⟩ := by
      rw [hslot]
      exact hinserted
    rw [hslots, get?_insert] at hlink
    split at hlink
    · rename_i hown
      exact .inr ⟨hown, hown ▸ (release_idle hpaired.live.sound hrelease hdisposition).2⟩
    · left
      rw [hlink]
      rfl
  have hslots : s₁.parked =
      (s.parked.insert lease.server ⟨key, parkedLink, now⟩).erase lease.server := by
    rw [hslot, ← hinserted]
    exact unpark_parked _ _
  rw [hslots] at hlink
  obtain ⟨hother, hlink⟩ := get?_of_erase hlink
  rw [get?_insert_of_ne _ _ hother] at hlink
  left
  rw [hlink]
  rfl

/-- What stays parked when nothing is parked or unparked. -/
lemma isSome_of_parked {s₁ : PoolManager T F} (h : s₁.parked = s.parked) (id : ServerId)
    (parked : Parked T F) (hlink : s₁.parked.get? id = some parked) :
    (s.parked.get? id).isSome := by
  rw [← h, hlink]
  rfl

section

variable (h : s.Custody []) {s₀ : PoolManager T F}
include h

section

variable (hpaired : s.Paired []) (hquiet : s.Quiet)
  (hsession : s.sessions.get? client = some session)
include hpaired hquiet hsession

lemma Custody.giveBack (hholding : session.phase = .holding lease link)
    (hrun : s.giveBack client lease link = some s') : Guards (fun other => other = lease) s s' := by
  obtain ⟨outcome, a', hrests⟩ := hpaired.giveBack hquiet hsession (by rw [hholding]; rfl) hrun
  refine h.call_back hpaired hsession (by rw [hholding]; rfl) (by rw [hholding]; rfl) hrests
    (fun _ _ => release_retires) ?_
  intro id parked hlink
  exact .inl (isSome_of_parked (setPhase_parked _ _ _) id parked hlink)

lemma Custody.giveUp (hrefused : session.phase = .refused lease)
    (hrun : (s.setPhase client .resting).reportDead lease.server = some s') :
    Guards (fun other => other = lease) s s' := by
  obtain ⟨grants, a', hrests⟩ := hpaired.giveUp hquiet hsession (by rw [hrefused]; rfl) hrun
  refine h.call_back hpaired hsession (by rw [hrefused]; rfl) (by rw [hrefused]; rfl) hrests ?_ ?_
  · rintro id conn (hcloses | hparks)
    · exact hcloses
    · exact hparks.elim
  · intro id parked hlink
    exact .inl (isSome_of_parked (setPhase_parked _ _ _) id parked hlink)

lemma Custody.disconnectClient (hresting : session.phase = .resting)
    (hspares : s.spares (.disconnectClient client : Step T F))
    (hrun : s.disconnectClient client = some s') :
    Guards (fun lease => lease.client = client ∧ lease.credit ≠ .cancel) s s' := by
  have hticket : session.phase.ticket = none := by rw [hresting]; rfl
  obtain ⟨⟨grants, a'⟩, hcall, hdispatch⟩ := bind_eq_some_iff.mp hrun
  have hgives := disconnectClient_gives hpaired.live (hpaired.not_due hsession hticket) hcall
  obtain ⟨-, hdelivered⟩ := (hpaired.erase hsession hticket).call (hquiet.erase client) hgives
    hdispatch rfl rfl rfl rfl rfl
  have hothers c found : (s.sessions.erase client).get? c = some found → c ≠ client ∧
      s.sessions.get? c = some found := by
    intro hfound
    obtain ⟨hother, hfound⟩ := get?_of_erase hfound
    exact ⟨hother, hfound⟩
  have hinFlight : ∀ lease ∈ s.cancels, lease.client ≠ client := fun lease hlease =>
    of_decide_eq_true (List.all_eq_true.mp hspares lease hlease)
  refine h.call hdelivered hgives ⟨?_, ?_, ?_, ?_, h.once, ?_, ?_⟩
  · intro lease conn hconn hholds hretires
    have hown : conn.client = some client := by
      rcases hretires with hcloses | hparks
      · exact hcloses.1
      · exact hparks
    have hclient : lease.client = client := by
      rw [hholds.2.2.2.1, some.injEq] at hown
      exact hown
    refine ⟨hclient, ?_⟩
    intro hcancel
    exact hinFlight lease ((h.cancels lease).mpr ⟨⟨conn, hconn, hholds⟩, hcancel⟩) hclient
  · intro c found lease hfound hheld
    obtain ⟨hother, hbefore⟩ := hothers c found hfound
    refine ⟨hbefore, ?_⟩
    rintro ⟨hclient, -⟩
    exact hother ((hpaired.owned c found lease hbefore hheld).symm.trans hclient)
  · rintro id ⟨c, found, lease, hfound, hgranted, hserver⟩
    refine ⟨c, found, lease, ?_, hgranted, hserver⟩
    change (s.sessions.erase client).get? c = some found
    rw [get?_erase, if_neg]
    · exact hfound
    rintro rfl
    rw [hsession, some.injEq] at hfound
    rw [← hfound, hresting] at hgranted
    cases hgranted
  · intro lease
    refine ⟨fun hmem => ⟨hmem, ?_⟩, fun hboth => hboth.1⟩
    rintro ⟨hclient, -⟩
    exact hinFlight lease hmem hclient
  · rintro lease - hcancel ⟨-, hcredit⟩
    exact hcredit hcancel
  · intro id parked hlink
    exact .inl (isSome_of_parked rfl id parked hlink)

end

/-! ### Cancel requests -/

lemma Custody.leaseCancel (hpaired : s.Paired []) (hrun : s.leaseCancel client now = some s') :
    Guards (fun _ => False) s s' := by
  obtain ⟨⟨admission, a'⟩, hcall, hrest⟩ := bind_eq_some_iff.mp hrun
  have hnothing : (admitted admission).leases = [] →
      Guards (fun _ => False) s { s with allocator := a' } := by
    intro hnone
    obtain ⟨hcustody, hkept⟩ := h.asked hpaired hcall (by rw [hnone]; simp)
    rw [hnone] at hcustody
    exact ⟨hcustody, fun lease hlease => .inl (hkept lease hlease)⟩
  cases admission with
  | granted lease =>
    cases hrest
    have hturn := tryLease_turnover hpaired.live.sound hcall
    have hkept : ∀ other, s.allocator.Leased other → a'.Leased other := fun other hother =>
      hturn.leased hother fun conn _ hholds => tryLease_retires_none hholds
    obtain ⟨hcredit, hnew, hfresh⟩ := tryLease_cancel hpaired.live.sound hcall
    refine ⟨⟨?_, ?_, ?_, ?_, ?_⟩, fun other hother => .inl (hkept other hother)⟩
    · intro c session held hsession hheld
      obtain ⟨hout, hnormal⟩ := h.leased c session held hsession hheld
      exact ⟨hkept held hout, hnormal⟩
    · intro other hother
      cases hother
    · intro other
      rw [mem_cons, h.cancels]
      constructor
      · rintro (rfl | ⟨hout, hcancel⟩)
        · exact ⟨hturn.given (mem_singleton_self _), hcredit⟩
        · exact ⟨hkept other hout, hcancel⟩
      rintro ⟨hout, hcancel⟩
      rcases hturn.leased_origin hout with hbefore | hgiven
      · exact .inr ⟨hbefore, hcancel⟩
      · exact .inl (mem_singleton.mp hgiven)
    · refine nodup_cons.mpr ⟨?_, h.once⟩
      intro hmem
      exact hfresh ((h.cancels lease).mp hmem).1
    · intro id parked hlink
      obtain ⟨hknown, hwaited⟩ := h.parked id parked hlink
      refine ⟨hknown.trans_le hturn.known, ?_⟩
      intro huse
      rcases hturn.inUse_origin huse with hbefore | ⟨other, hother, hserver⟩
      · exact hwaited hbefore
      · obtain rfl := mem_singleton.mp hother
        rw [hserver] at hnew
        exact absurd hknown (not_lt.mpr hnew)
  | _ =>
    simp only [some.injEq] at hrest
    exact hrest ▸ hnothing rfl

lemma Custody.releaseCancel (hpaired : s.Paired []) (hquiet : s.Quiet)
    (hlease : lease ∈ s.cancels) (hrun : s.releaseCancel lease = some s') :
    Guards (fun other => other = lease) s s' := by
  obtain ⟨⟨outcome, a'⟩, hcall, hdispatch⟩ := bind_eq_some_iff.mp hrun
  have hrelease : s.allocator.release lease = some (outcome, a') := hcall
  have hgives := release_gives hpaired.live hrelease
  obtain ⟨-, hdelivered⟩ := hpaired.call hquiet hgives hdispatch rfl rfl rfl rfl rfl
  obtain ⟨hout, hcredit⟩ := (h.cancels lease).mp hlease
  refine h.call hdelivered hgives ⟨?_, ?_, fun _ hawaited => hawaited, ?_, h.once.erase lease, ?_,
    ?_⟩
  · intro other conn hconn hholds hretires
    exact Leased.unique ⟨conn, hconn, hholds⟩ hout (release_retires hretires)
  · intro c session held hsession hheld
    refine ⟨hsession, ?_⟩
    rintro rfl
    exact (h.leased c session held hsession hheld).2 hcredit
  · intro other
    change other ∈ s.cancels.erase lease ↔ _
    rw [h.once.mem_erase_iff, and_comm]
  · rintro other hother - rfl
    exact release_ends hpaired.live.sound hrelease hout hcredit hother
  · intro id parked hlink
    exact .inl (isSome_of_parked rfl id parked hlink)

/-! ### Clients and tenants -/

lemma Custody.connectClient (hpaired : s.Paired [])
    (hrun : s.connectClient key = some s') : Guards (fun _ => False) s s' := by
  obtain ⟨⟨result, a'⟩, hcall, hrest⟩ := bind_eq_some_iff.mp hrun
  have happly : s.allocator.apply (.connectClient key.tenant) = _ := report_eq hcall
  have hnext := (effect_of_apply hpaired.live.sound happly).2.nextServer
  obtain ⟨hservers, -⟩ := connectClient_table hcall
  cases result with
  | ok client =>
    cases hrest
    obtain ⟨rfl, -, -⟩ := connectClient_ok hcall
    refine h.still hservers hnext ?_ rfl (isSome_of_parked rfl) ?_
    · intro c session lease hsession hheld
      rw [get?_insert] at hsession
      split at hsession
      · cases hsession
        cases hheld
      · exact ⟨session, hsession, hheld⟩
    rintro id parked - ⟨c, session, lease, hsession, hgranted⟩
    refine ⟨c, session, lease, ?_, hgranted⟩
    refine (get?_insert_of_ne _ _ ?_).trans hsession
    rintro rfl
    rw [hpaired.next_is_new] at hsession
    cases hsession
  | error rejection =>
    cases hrest
    exact h.still hservers hnext (fun c session lease hsession hheld =>
      ⟨session, hsession, hheld⟩) rfl (isSome_of_parked rfl) fun _ _ _ hawaited => hawaited

lemma Custody.addTenant (tenant : T) (spec : TenantSpec) :
    Guards (fun _ => False) s (s.addTenant tenant spec) := by
  have heq := addTenant_eq s tenant spec
  have htable : (s.allocator.addTenant tenant spec).2.servers = s.allocator.servers ∧
      s.allocator.nextServer ≤ (s.allocator.addTenant tenant spec).2.nextServer := by
    unfold Allocator.addTenant
    split <;> exact ⟨rfl, le_rfl⟩
  rw [heq]
  exact h.still htable.1 htable.2 (fun c session lease hsession hheld =>
    ⟨session, hsession, hheld⟩) rfl (isSome_of_parked rfl) fun _ _ _ => id

/-- What the loop over the published claims keeps. -/
lemma Custody.adoptClaim (hadopts : Adopts published s₀ s)
    {claim : T × TenantSpec} (hrun : s.adoptClaim claim = some s') :
    Guards (fun _ => False) s s' ∧ s'.cancels = s.cancels := by
  rcases adoptClaim_cases hrun with ⟨result, a', tenants, hcall, -, hdispatch⟩ | rfl
  · have hgives := setTenantSpec_gives hadopts.paired.live hcall
    have hspares : ∀ (lease : Capacity.Lease T) conn,
        s.allocator.servers.get? lease.server = some conn → conn.Holds lease →
          ¬ (Op.setTenantSpec claim.1 claim.2).Retires lease.server conn := by
      rintro lease conn - - (hcloses | hparks)
      · exact hcloses
      · exact hparks
    obtain ⟨-, hdelivered⟩ := hadopts.paired.call hadopts.quiet hgives hdispatch rfl rfl rfl rfl rfl
    exact ⟨h.call_sparing hdelivered hgives hspares rfl rfl (isSome_of_parked rfl),
      hdelivered.frame.2.2.2.2⟩
  · refine ⟨h.addTenant _ _, ?_⟩
    rw [addTenant_eq]

/-- A tenant nobody waits for and nobody has a lease of is forgotten. -/
lemma Custody.forget (hsweeps : Sweeps s₀ s)
    (hempty : s.allocator.waitersOf tenant = []) (hfree : s.allocator.Deserted tenant)
    (hrun : s.forget tenant = some s') :
    Guards (fun _ => False) s s' ∧ ∀ t, s.allocator.waitersOf t = [] →
      s.allocator.Deserted t → s'.allocator.Deserted t := by
  obtain ⟨result, a', tenants, hcall, hdispatch⟩ := forget_cases hrun
  have hgives := removeTenant_gives hsweeps.paired.live hempty hcall
  have hspares : ∀ (lease : Capacity.Lease T) conn,
      s.allocator.servers.get? lease.server = some conn → conn.Holds lease →
        ¬ (Op.removeTenant tenant).Retires lease.server conn := by
    rintro lease conn hconn hholds (hcloses | hparks)
    · exact hfree.unleased lease ⟨conn, hconn, hholds⟩ (hholds.2.2.1.symm.trans hcloses)
    · exact hparks
  obtain ⟨-, hdelivered⟩ := hsweeps.paired.call hsweeps.quiet hgives hdispatch rfl rfl rfl rfl rfl
  refine ⟨h.call_sparing hdelivered hgives hspares rfl rfl (isSome_of_parked rfl), ?_⟩
  rw [hdelivered.frame.1]
  exact fun t hnobody => hgives.deserted (fun _ _ => id) hnobody

/-- A tenant that is to go has no server, unless a cancel request of it is in flight. -/
lemma Custody.deserted_of_departed (hpaired : s.Paired [])
    (hnamed : ∀ lease ∈ s.cancels, lease.tenant ∈ published.map Prod.fst) {t : T}
    (ht : t ∈ s.departed published) : s.allocator.Deserted t := by
  have hc := hpaired.live.sound.consistent
  have hrow : ∀ entry, s.allocator.budget.tenants.get? t = some entry → entry.live = 0 := by
    intro entry hentry
    obtain ⟨-, htest⟩ := mem_filter.mp ht
    rw [Bool.and_eq_true] at htest
    have hlive := htest.2
    rw [CapacityBudget.tenant, hentry] at hlive
    exact of_decide_eq_true hlive
  constructor
  · rintro lease ⟨conn, hconn, hholds⟩ rfl
    have hcancel := hc.cancel_of_row hrow hconn hholds.2.2.1
    have hcredit : lease.credit = .cancel := hholds.2.2.2.2.symm.trans hcancel
    have hflight := (h.cancels lease).mpr ⟨⟨conn, hconn, hholds⟩, hcredit⟩
    exact (mem_of_departed ht).2 (hnamed lease hflight)
  · intro id conn hconn howner hidle
    exact hc.credit_of_idle hconn hidle (hc.cancel_of_row hrow hconn howner)

/-- The two loops of `apply_tenants` keep custody, and whatever else each of their turns
keeps. -/
lemma Custody.applyTenants_keeps {P : PoolManager T F → Prop} (hpaired : s.Paired [])
    (hquiet : s.Quiet)
    (hspared : ∀ t ∈ s.tenants, t ∉ published.map Prod.fst → s.allocator.waitersOf t = [])
    (hnamed : ∀ lease ∈ s.cancels, lease.tenant ∈ published.map Prod.fst)
    (hadopt : ∀ claim b b', b.Paired [] → b.Quiet → b.Custody [] → P b →
      b.adoptClaim claim = some b' → P b')
    (hforget : ∀ tenant b b', b.Paired [] → b.Quiet → b.Custody [] →
      b.allocator.waitersOf tenant = [] → b.allocator.Deserted tenant →
      P b → b.forget tenant = some b' → P b') (hstart : P s)
    (hrun : s.applyTenants published = some s') : Guards (fun _ => False) s s' ∧ P s' := by
  obtain ⟨s₁, hadoption, hforgetting⟩ := bind_eq_some_iff.mp hrun
  have hadopted : ([] : List (T × TenantSpec)) ⊆ published ∧ Adopts published s s₁ ∧
      Guards (fun _ => False) s s₁ ∧ s₁.cancels = s.cancels ∧ P s₁ := by
    refine foldlM_keeps (motive := fun rest b => rest ⊆ published ∧ Adopts published s b ∧
      Guards (fun _ => False) s b ∧ b.cancels = s.cancels ∧ P b) ?_
      ⟨fun _ => id, ⟨⟨hpaired, hquiet, .refl none s⟩, hspared⟩,
        ⟨h, fun _ hlease => .inl hlease⟩, rfl, hstart⟩ hadoption
    rintro claim rest b b' ⟨hsub, hadopts, hguards, hcancels, hkept⟩ hstep
    obtain ⟨hnext, hsame⟩ := hguards.custody.adoptClaim hadopts hstep
    exact ⟨fun _ hmem => hsub (mem_cons_of_mem _ hmem),
      hadopts.adoptClaim (hsub mem_cons_self) hstep, hguards.trans hnext,
      hsame.trans hcancels,
      hadopt claim b b' hadopts.paired hadopts.quiet hguards.custody hkept hstep⟩
  obtain ⟨-, hadopts, hguards, hcancels, hkept⟩ := hadopted
  have hforgotten : (∀ t ∈ ([] : List T), s'.allocator.waitersOf t = [] ∧
      s'.allocator.Deserted t) ∧ Sweeps s s' ∧ Guards (fun _ => False) s s' ∧ P s' := by
    refine foldlM_keeps (motive := fun rest b => (∀ t ∈ rest, b.allocator.waitersOf t = [] ∧
      b.allocator.Deserted t) ∧ Sweeps s b ∧ Guards (fun _ => False) s b ∧ P b) ?_
      ⟨?_, hadopts.toSweeps, hguards, hkept⟩ hforgetting
    · rintro tenant rest b b' ⟨hgone, hsweeps, hguarded, hthere⟩ hstep
      obtain ⟨hempty, hfree⟩ := hgone tenant mem_cons_self
      obtain ⟨hswept, hwaiters⟩ := hsweeps.forget hempty hstep
      obtain ⟨hnext, hothers⟩ := hguarded.custody.forget hsweeps hempty hfree hstep
      refine ⟨?_, hswept, hguarded.trans hnext, hforget tenant b b' hsweeps.paired
        hsweeps.quiet hguarded.custody hempty hfree hthere hstep⟩
      intro t ht
      obtain ⟨hnobody, hnone⟩ := hgone t (mem_cons_of_mem _ ht)
      exact ⟨hwaiters t hnobody, hothers t hnobody hnone⟩
    · intro t ht
      obtain ⟨hmem, habsent⟩ := mem_of_departed ht
      refine ⟨hadopts.spared t hmem habsent, ?_⟩
      exact hguards.custody.deserted_of_departed hadopts.paired
        (fun lease hlease => hnamed lease (hcancels ▸ hlease)) ht
  exact hforgotten.2.2

/-! ### Steps and runs -/

lemma Custody.task [DecidableEq F] (hpaired : s.Paired []) {step : Step T F}
    (hstep : s.inStep step) (hspares : s.spares step)
    (hactor : step.actor = some client) (hsession : s.sessions.get? client = some session)
    (htask : Task s client session step s') : Guards (s.givesBack step) s s' := by
  have hown : ∀ {lease : Capacity.Lease T}, session.phase.lease = some lease →
      ∀ other, other = lease → (s.phaseOf client).lease = some other := by
    rintro lease hlease other rfl
    rw [phaseOf_eq hsession]
    exact hlease
  cases htask with
  | advance hadvance hrun =>
    exact (h.advance hsession hactor hspares hadvance hrun).weaken fun _ => False.elim
  | notPinned percent reason => exact ⟨h, fun _ hlease => .inl hlease⟩
  | disconnectClient hphase hrun =>
    exact h.disconnectClient hpaired (of_test hstep) hsession hphase hspares hrun
  | acquire hphase hrun => exact h.acquire hpaired hsession hphase hrun
  | @dropWaiter ticket _ hphase hrun =>
    subst hrun
    have hnone : ∀ lease, session.phase = .granted lease → False := by
      rintro lease hgranted
      rw [hgranted] at hphase
      rcases hphase with hqueued | hclosing
      · cases hqueued
      · cases hclosing
    have hthere : ({ s with
        waits := s.waits.insert session.key.tenant
          ((s.waitQueue session.key.tenant).deregister client) } :
            PoolManager T F).sessions.get? client = some session := hsession
    exact h.move hsession (.inr rfl) (sessions_setPhase hthere (.leaving ticket))
      (fun lease hgranted => (hnone lease hgranted).elim) (by rw [setPhase_allocator])
      (by rw [setPhase_allocator]) (setPhase_cancels _ _ _)
      (isSome_of_parked (setPhase_parked _ _ _))
  | @dropTicket ticket removed a' _ hphase hcall hrun =>
    subst hrun
    have happly : s.allocator.apply (.cancelTicket session.key.tenant ticket) = _ := report_eq hcall
    have hnext := (effect_of_apply hpaired.live.sound happly).2.nextServer
    have hthere : ({ s with allocator := a' } : PoolManager T F).sessions.get? client =
        some session := hsession
    refine h.move hsession (.inr rfl) (sessions_setPhase hthere .resting) ?_
      (by rw [setPhase_allocator]; exact (cancelTicket_table hcall).1)
      (by rw [setPhase_allocator]; exact hnext) (setPhase_cancels _ _ _)
      (isSome_of_parked (setPhase_parked _ _ _))
    intro lease hgranted
    rw [hphase] at hgranted
    cases hgranted
  | attach hphase hrun =>
    exact h.attach hpaired (of_test hstep) hsession hphase hspares hrun
  | giveUp hphase hrun =>
    exact (h.giveUp hpaired (of_test hstep) hsession hphase hrun).weaken
      (hown (by rw [hphase]; rfl))
  | checkIn hphase hrun =>
    exact (h.checkIn hpaired (of_test hstep) hsession hphase hrun).weaken
      (hown (by rw [hphase]; rfl))
  | drop how hphase hrun =>
    exact (h.giveBack hpaired (of_test hstep) hsession hphase hrun).weaken
      (hown (by rw [hphase]; rfl))

lemma Custody.step [DecidableEq F] (hpaired : s.Paired []) {step : Step T F} (hstep : s.inStep step)
    (hspares : s.spares step) (hrun : s.next step = some s') : Guards (s.givesBack step) s s' := by
  cases hactor : step.actor with
  | some client =>
    obtain ⟨session, hsession, htask⟩ := task_of_next hactor hrun
    exact h.task hpaired hstep hspares hactor hsession htask
  | none =>
    cases step with
    | ensureTenant tenant =>
      rw [next] at hrun
      cases hrun
      unfold PoolManager.ensureTenant
      split
      · exact ⟨h, fun _ hlease => .inl hlease⟩
      · exact h.addTenant tenant defaultSpec
    | connectClient key => exact h.connectClient hpaired hrun
    | leaseCancel client now => exact h.leaseCancel hpaired hrun
    | releaseCancel lease =>
      rw [next] at hrun
      split at hrun
      · rename_i hlease
        exact h.releaseCancel hpaired (of_test hstep) hlease hrun
      · cases hrun
    | severSuperseded order current =>
      exact (Sparing.takeSuperseded hpaired (of_test hstep) h
        (fun id parked hparked _ => h.unused hspares hparked) hrun).toGuards
    | reapIdle order now idleFor =>
      exact (Sparing.takeIdle hpaired (of_test hstep) h
        (fun id parked hparked => h.unused hspares hparked) hrun).toGuards
    | applyTenants published =>
      obtain ⟨hquiet, hspared⟩ := quiet_of_inStep hstep
      have hnamed : ∀ lease ∈ s.cancels, lease.tenant ∈ published.map Prod.fst :=
        fun lease hlease => of_decide_eq_true (List.all_eq_true.mp hspares lease hlease)
      exact (h.applyTenants_keeps (P := fun _ => True) hpaired hquiet hspared hnamed
        (fun _ _ _ _ _ _ _ _ => trivial) (fun _ _ _ _ _ _ _ _ _ _ => trivial) trivial
        hrun).1
    | _ => cases hactor

end

/-- The steps that keep the queues in step and meet no leased server. -/
def careful (s : PoolManager T F) (step : Step T F) : Bool :=
  s.inStep step && s.spares step

def carefulSystem [DecidableEq F] (pool : PoolSpec) (admission : AdmissionSpec) :
    System (PoolManager T F) (Step T F) :=
  (system pool admission).restrict fun s step => s.careful step = true

lemma custody_new (h : new pool admission = .ok s) : s.Custody [] := by
  obtain ⟨allocator, hclock, rfl⟩ := new_ok h
  obtain ⟨hsound, hempty, -⟩ := withClock_sound hclock
  have hnone : ∀ lease, ¬ allocator.Leased lease := by
    rintro lease ⟨conn, hconn, -⟩
    have hbound := (hsound.consistent.server _ conn hconn).2.2.1
    rw [hempty] at hbound
    cases hbound
  refine ⟨?_, ?_, ?_, nodup_nil, ?_⟩
  · intro c session lease hsession
    cases hsession
  · intro lease hlease
    cases hlease
  · intro lease
    constructor
    · intro hlease
      cases hlease
    · rintro ⟨hlease, -⟩
      exact absurd hlease (hnone lease)
  · intro id parked hparked
    cases hparked

lemma custody_of_reachable [DecidableEq F]
    (h : (carefulSystem pool admission).Reachable s) : s.Paired [] ∧ s.Custody [] := by
  refine h.invariant (I := fun s => Paired s [] ∧ Custody s []) ?_ ?_
  · intro s hinit
    exact ⟨paired_new hinit, custody_new hinit⟩
  rintro s step s' - ⟨hpaired, hcustody⟩ ⟨hcareful, hrun⟩
  rw [careful, Bool.and_eq_true] at hcareful
  exact ⟨(hpaired.step hcareful.1 hrun).paired,
    (hcustody.step hpaired hcareful.1 hcareful.2 hrun).custody⟩

/-- In every run of careful steps the leases of the tasks and of the cancel requests are out,
and a lease that is out stays out until its holder gives it back: no step of anybody else
closes its server, neither an eviction nor the reaper. -/
theorem leased_servers_are_not_closed [DecidableEq F] (pool : PoolSpec)
    (admission : AdmissionSpec) {s : PoolManager T F}
    (hreach : (carefulSystem pool admission).Reachable s) :
    (∀ c session lease, s.sessions.get? c = some session →
      session.phase.lease = some lease → s.allocator.Leased lease) ∧
    (∀ lease ∈ s.cancels, s.allocator.Leased lease) ∧
    ∀ step s', s.careful step = true → s.next step = some s' →
      ∀ lease, s.allocator.Leased lease → s'.allocator.Leased lease ∨ s.givesBack step lease := by
  obtain ⟨hpaired, hcustody⟩ := custody_of_reachable hreach
  refine ⟨?_, ?_, ?_⟩
  · intro c session lease hsession hheld
    exact (hcustody.leased c session lease hsession hheld).1
  · intro lease hlease
    exact ((hcustody.cancels lease).mp hlease).1
  · intro step s' hcareful hrun
    rw [careful, Bool.and_eq_true] at hcareful
    exact (hcustody.step hpaired hcareful.1 hcareful.2 hrun).kept

/-- Two clients of one tenant: the first holds a server, the second has checked its own in. -/
def parkedRun : List (Step Nat Nat) :=
  [.ensureTenant 0, .connectClient ⟨0, 0⟩, .connectClient ⟨0, 0⟩,
    .acquire 0 0, .attach 0 [] 1, .openLink 0, .connected 0 (some 1), .verifyOpened 0 (some 1),
    .acquire 1 0, .attach 1 [] 1, .openLink 1, .connected 1 (some 0), .verifyOpened 1 (some 0),
    .checkIn 1 0]

/-- The eviction closes the server that is parked, and the one in use stays leased. -/
theorem leased_servers_are_not_closed_parkedRun :
    ∃ (s s' : PoolManager Nat Nat) (lease : Capacity.Lease Nat),
      replay (plainPool 2) plainAdmission careful parkedRun = some s ∧
      s.next (.severSuperseded [0, 1] 1) = some s' ∧
      (s.phaseOf 0).lease = some lease ∧ (s.allocator.servers.get? 1).isSome = true ∧
      (s'.allocator.servers.get? 1).isSome = false ∧ s'.allocator.Leased lease := by
  obtain ⟨s, session, lease, hs, hsession, hlease, hthere, hsafe, s', hs', hgone⟩ :
      ∃ (s : PoolManager Nat Nat) (session : Session Nat Nat) (lease : Capacity.Lease Nat),
        replay (plainPool 2) plainAdmission careful parkedRun = some s ∧
        s.sessions.get? 0 = some session ∧ session.phase.lease = some lease ∧
        (s.allocator.servers.get? 1).isSome = true ∧
        s.careful (.severSuperseded [0, 1] 1) = true ∧
        ∃ s', s.next (.severSuperseded [0, 1] 1) = some s' ∧
          (s'.allocator.servers.get? 1).isSome = false := by
    let s := (replay (F := Nat) (plainPool 2) plainAdmission careful parkedRun).get (by decide)
    let session := (s.sessions.get? 0).get (by decide)
    let lease := session.phase.lease.get (by decide)
    let s' := (s.next (.severSuperseded [0, 1] 1)).get (by decide)
    exact ⟨s, session, lease, (some_get _).symm, (some_get _).symm,
      (some_get _).symm, by decide, by decide, s', (some_get _).symm, by decide⟩
  obtain ⟨hleased, -, hkept⟩ :=
    leased_servers_are_not_closed (plainPool 2) plainAdmission (reachable_of_replay hs)
  refine ⟨s, s', lease, hs, hs', ?_, hthere, hgone, ?_⟩
  · rw [phaseOf_eq hsession]
    exact hlease
  rcases hkept _ s' hsafe hs' lease (hleased 0 session lease hsession hlease) with
    hstill | hgiven
  · exact hstill
  · exact hgiven.elim

/-- A client is granted a server again whose link it had checked in under an older epoch.  Its
own `attach` evicts the link, and the leased server with it; so does the reaper before
`attach`. -/
theorem attach_evicts_its_own_server : ∃ (s : PoolManager Nat Nat) (lease : Capacity.Lease Nat),
      replay (plainPool 1) plainAdmission (fun _ _ => true)
        [.ensureTenant 0, .connectClient ⟨0, 0⟩, .acquire 0 0, .attach 0 [] 0, .openLink 0,
          .connected 0 (some 0), .verifyOpened 0 (some 0), .checkIn 0 0, .acquire 0 1] = some s ∧
      s.phaseOf 0 = .granted lease ∧ (s.allocator.servers.get? lease.server).isSome = true ∧
      (∃ s', s.next (.attach 0 [0] 1) = some s' ∧ s'.phaseOf 0 = .opening lease ∧
        (s'.allocator.servers.get? lease.server).isSome = false) ∧
      ∃ s', s.next (.reapIdle [0] 10 5) = some s' ∧ s'.phaseOf 0 = .granted lease ∧
        (s'.allocator.servers.get? lease.server).isSome = false := by
  let s := (replay (F := Nat) (plainPool 1) plainAdmission (fun _ _ => true)
    [.ensureTenant 0, .connectClient ⟨0, 0⟩, .acquire 0 0, .attach 0 [] 0, .openLink 0,
      .connected 0 (some 0), .verifyOpened 0 (some 0), .checkIn 0 0, .acquire 0 1]).get (by decide)
  let lease := (s.phaseOf 0).lease.get (by decide)
  let attached := (s.next (.attach 0 [0] 1)).get (by decide)
  let reaped := (s.next (.reapIdle [0] 10 5)).get (by decide)
  exact ⟨s, lease, (some_get _).symm, by decide, by decide,
    ⟨attached, (some_get _).symm, by decide, by decide⟩,
    ⟨reaped, (some_get _).symm, by decide, by decide⟩⟩

end PgElastic.Proxy.PoolManager
