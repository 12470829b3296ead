import PgElastic.Capacity.Leases
import PgElastic.Proxy.GrantRuns

/-!
# Who closes a leased server

The allocator may grant a server whose link is still parked, and the task that was granted it
claims the link in a later section.  In between, whoever walks over the parked links finds one
whose server is leased: `take_superseded` and `take_idle` then report a leased server dead, and
`attach` does so to itself (`attach_evicts_its_own_server`).

`Custody` says what else may be parked, and who has which lease.  `spares` excludes the walks
in between; `leased_servers_are_not_closed` is about every run of such steps.
-/

namespace PgElastic.Proxy.PoolManager

open Library Capacity Capacity.Allocator Pool Option

variable {T F : Type} [LinearOrder T]

/-! ### The invariant -/

/-- A task was granted the server and has not claimed a link yet. -/
def Awaited (s : PoolManager T F) (id : ServerId) : Prop :=
  ∃ c session lease, s.sessions.get? c = some session ∧ session.phase = .granted lease ∧
    lease.server = id

/-- The leases the tasks have are out, those of the cancel requests are the ones in flight, and
a link parked in the slot of a leased server is awaited, or its grant is still to be handed
over. -/
structure Custody (s : PoolManager T F) (pending : List (Capacity.Lease T)) : Prop where
  leased : ∀ c session lease, s.sessions.get? c = some session →
    session.phase.lease = some lease → s.allocator.Leased lease ∧ lease.credit ≠ .cancel
  dealt : ∀ lease ∈ pending, s.allocator.Leased lease ∧ lease.credit ≠ .cancel
  cancels : ∀ lease, lease ∈ s.cancels ↔ s.allocator.Leased lease ∧ lease.credit = .cancel
  once : s.cancels.Nodup
  parked : ∀ id parked, s.parked.get? id = some parked → id < s.allocator.nextServer ∧
      (s.allocator.InUse id → s.Awaited id ∨ ∃ lease ∈ pending, lease.server = id)

/-- What a step leaves behind: custody, and the leases it was not given back. -/
structure Guards (back : Capacity.Lease T → Prop) (s s' : PoolManager T F) : Prop where
  custody : s'.Custody []
  kept : ∀ lease, s.allocator.Leased lease → s'.allocator.Leased lease ∨ back lease

variable {back : Capacity.Lease T → Prop} {s s' s₁ : PoolManager T F} {client : ClientId}
  {session : Session T F} {grants : List (Grant T)} {op : Op T} {order : List ServerId}
  {lease : Capacity.Lease T}

lemma Guards.weaken {back' : Capacity.Lease T → Prop} (h : Guards back s s')
    (hback : ∀ lease, back lease → back' lease) : Guards back' s s' where
  custody := h.custody
  kept := by
    intro lease hlease
    rcases h.kept lease hlease with hstill | hgiven
    · exact .inl hstill
    · exact .inr (hback lease hgiven)

lemma Guards.trans {s2 : PoolManager T F} (h : Guards back s s₁) (h' : Guards back s₁ s2) :
    Guards back s s2 where
  custody := h'.custody
  kept := by
    intro lease hlease
    rcases h.kept lease hlease with hstill | hgiven
    · exact h'.kept lease hstill
    · exact .inr hgiven

/-- A pending lease is handed to a task that was granted none. -/
lemma Custody.hand {pending : List (Capacity.Lease T)}
    (h : s.Custody (lease :: pending)) (hsession : s.sessions.get? client = some session)
    (hfree : session.phase.isGranted = false)
    (hsessions : ∀ c, s'.sessions.get? c =
      if c = client then some { session with phase := .granted lease }
      else s.sessions.get? c) (hallocator : s'.allocator = s.allocator)
    (hparked : s'.parked = s.parked) (hcancels : s'.cancels = s.cancels) : s'.Custody pending where
  leased := by
    intro c found held hfound hheld
    rw [hallocator]
    rw [hsessions] at hfound
    split at hfound
    · cases hfound
      rw [Phase.lease, some.injEq] at hheld
      exact hheld ▸ h.dealt lease List.mem_cons_self
    · exact h.leased c found held hfound hheld
  dealt := by
    intro other hother
    rw [hallocator]
    exact h.dealt other (List.mem_cons_of_mem _ hother)
  cancels := by
    rw [hcancels, hallocator]
    exact h.cancels
  once := by
    rw [hcancels]
    exact h.once
  parked := by
    intro id link hlink
    rw [hparked] at hlink
    obtain ⟨hknown, hawaited⟩ := h.parked id link hlink
    rw [hallocator]
    refine ⟨hknown, ?_⟩
    intro huse
    rcases hawaited huse with ⟨c, found, held, hfound, hgranted, hserver⟩ | ⟨other, hother, hserver⟩
    · left
      refine ⟨c, found, held, ?_, hgranted, hserver⟩
      rw [hsessions, if_neg]
      · exact hfound
      rintro rfl
      rw [hsession, some.injEq] at hfound
      rw [hfound, hgranted] at hfree
      cases hfree
    · rcases List.mem_cons.mp hother with rfl | hrest
      · left
        refine ⟨client, { session with phase := .granted other }, other, ?_, rfl, hserver⟩
        rw [hsessions, if_pos rfl]
      · exact .inr ⟨other, hrest, hserver⟩

lemma Custody.delivered (hdelivered : Delivered s grants s') :
    s.Custody (grants.map (·.lease)) → s'.Custody [] := by
  induction hdelivered with
  | nil s =>
    intro h
    exact h
  | cons queue hsession hphase hrest ih =>
    intro h
    apply ih
    exact h.hand hsession (by rw [hphase]; rfl) (sessions_handed hsession queue)
      (setPhase_allocator _ _ _) (setPhase_parked _ _ _) (setPhase_cancels _ _ _)

/-- A call of the allocator keeps custody: what is given back is in nobody's hands afterwards, and
the links that are parked were parked before or have an idle server. -/
structure Returned (back : Capacity.Lease T → Prop) (op : Op T) (leases : List (Capacity.Lease T))
    (s s₁ : PoolManager T F) : Prop where
  safe : ∀ lease conn, s.allocator.servers.get? lease.server = some conn →
    conn.Holds lease → op.Retires lease.server conn → back lease
  sessions : ∀ c session lease, s₁.sessions.get? c = some session →
    session.phase.lease = some lease → s.sessions.get? c = some session ∧ ¬ back lease
  awaited : ∀ id, s.Awaited id → s₁.Awaited id
  cancels : ∀ lease, lease ∈ s₁.cancels ↔ lease ∈ s.cancels ∧ ¬ back lease
  once : s₁.cancels.Nodup
  gone : ∀ lease, s₁.allocator.Leased lease → lease.credit = .cancel → ¬ back lease
  parked : ∀ id parked, s₁.parked.get? id = some parked →
    (s.parked.get? id).isSome = true ∨ id < s.allocator.nextServer ∧
      (s₁.allocator.InUse id → ∃ lease ∈ leases, lease.server = id)

section

variable (h : s.Custody [])
include h

lemma Custody.turnover {leases : List (Capacity.Lease T)} (back : Capacity.Lease T → Prop)
    (hturn : Turnover op s.allocator leases s₁.allocator)
    (hnormal : ∀ lease ∈ leases, lease.credit ≠ .cancel) (hreturned : Returned back op leases s s₁) :
    s₁.Custody leases := by
  have hkept : ∀ lease, s.allocator.Leased lease → ¬ back lease → s₁.allocator.Leased lease := by
    intro lease hlease hback
    exact hturn.leased hlease fun conn hconn hholds hretires =>
      hback (hreturned.safe lease conn hconn hholds hretires)
  refine ⟨?_, ?_, ?_, hreturned.once, ?_⟩
  · intro c session lease hsession hheld
    obtain ⟨hbefore, hback⟩ := hreturned.sessions c session lease hsession hheld
    obtain ⟨hlease, hcredit⟩ := h.leased c session lease hbefore hheld
    exact ⟨hkept lease hlease hback, hcredit⟩
  · intro lease hlease
    exact ⟨hturn.given hlease, hnormal lease hlease⟩
  · intro lease
    rw [hreturned.cancels, h.cancels]
    constructor
    · rintro ⟨⟨hlease, hcredit⟩, hback⟩
      exact ⟨hkept lease hlease hback, hcredit⟩
    rintro ⟨hlease, hcredit⟩
    refine ⟨⟨?_, hcredit⟩, hreturned.gone lease hlease hcredit⟩
    rcases hturn.leased_origin hlease with hbefore | hnew
    · exact hbefore
    · exact absurd hcredit (hnormal lease hnew)
  intro id parked hlink
  rcases hreturned.parked id parked hlink with hold | ⟨hknown, huse⟩
  · obtain ⟨old, hold⟩ := isSome_iff_exists.mp hold
    obtain ⟨hknown, hwaited⟩ := h.parked id old hold
    refine ⟨hknown.trans_le hturn.known, ?_⟩
    intro huse
    rcases hturn.inUse_origin huse with hbefore | hnew
    · rcases hwaited hbefore with hsome | ⟨lease, hlease, -⟩
      · exact .inl (hreturned.awaited id hsome)
      · cases hlease
    · exact .inr hnew
  · exact ⟨hknown.trans_le hturn.known, fun hinUse => .inr (huse hinUse)⟩

/-- The allocator is called and what it grants is dispatched. -/
lemma Custody.call (hdelivered : Delivered s₁ grants s')
    (hgives : Gives op s.allocator grants s₁.allocator)
    (hreturned : Returned back op (grants.map (·.lease)) s s₁) : Guards back s s' := by
  have hnormal : ∀ lease ∈ grants.map (·.lease), lease.credit ≠ .cancel := by
    intro lease hlease
    obtain ⟨grant, hgrant, rfl⟩ := List.mem_map.mp hlease
    exact (hgives.fits grant hgrant).2.2
  refine ⟨.delivered hdelivered (h.turnover back hgives.turnover hnormal hreturned), ?_⟩
  intro lease hlease
  rw [hdelivered.frame.1]
  by_cases hback : back lease
  · exact .inr hback
  · left
    exact hgives.turnover.leased hlease fun conn hconn hholds hretires =>
      hback (hreturned.safe lease conn hconn hholds hretires)

/-- A call that retires no leased server, made with nothing else changed but links unparked. -/
lemma Custody.call_sparing (hdelivered : Delivered s₁ grants s')
    (hgives : Gives op s.allocator grants s₁.allocator)
    (hsafe : ∀ lease conn, s.allocator.servers.get? lease.server = some conn →
      conn.Holds lease → ¬ op.Retires lease.server conn) (hsessions : s₁.sessions = s.sessions)
    (hcancels : s₁.cancels = s.cancels) (hparked : ∀ id parked, s₁.parked.get? id = some parked →
      (s.parked.get? id).isSome) : Guards (fun _ => False) s s' := by
  refine h.call hdelivered hgives ⟨hsafe, ?_, ?_, ?_, ?_, fun _ _ _ hfalse => hfalse, ?_⟩
  · intro c session lease hsession _
    exact ⟨hsessions ▸ hsession, fun hfalse => hfalse⟩
  · rintro id ⟨c, session, lease, hsession, hgranted⟩
    exact ⟨c, session, lease, hsessions ▸ hsession, hgranted⟩
  · intro lease
    rw [hcancels]
    exact ⟨fun hmem => ⟨hmem, fun hfalse => hfalse⟩, fun hboth => hboth.1⟩
  · rw [hcancels]
    exact h.once
  · intro id parked hlink
    exact .inl (hparked id parked hlink)

/-- A task gives its lease up, in a call that retires no other server. -/
lemma Custody.call_back (hpaired : s.Paired []) (hsession : s.sessions.get? client = some session) (hlease : session.phase.lease = some lease)
    (hclaimed : session.phase.isGranted = false) (hrests : Rests op s client grants s₁ s')
    (hsafe : ∀ id conn, op.Retires id conn → id = lease.server)
    (hparked : ∀ id parked, s₁.parked.get? id = some parked →
      (s.parked.get? id).isSome ∨ id = lease.server ∧
        (s₁.allocator.InUse id → ∃ lease ∈ grants.map (·.lease), lease.server = id)) :
    Guards (fun other => other = lease) s s' := by
  obtain ⟨hout, hcredit⟩ := h.leased client session lease hsession hlease
  have howner := hpaired.owned client session lease hsession hlease
  have hothers c : s₁.sessions.get? c =
      if c = client then some { session with phase := .resting } else s.sessions.get? c := by
    rw [hrests.sessions]
    exact sessions_setPhase hsession _ c
  refine h.call hrests.delivered hrests.gives ⟨?_, ?_, ?_, ?_, ?_, ?_, ?_⟩
  · intro other conn hconn hholds hretires
    exact (Leased.unique ⟨conn, hconn, hholds⟩ hout (hsafe _ conn hretires))
  · intro c found held hfound hheld
    rw [hothers] at hfound
    split at hfound
    · cases hfound
      cases hheld
    rename_i hother
    refine ⟨hfound, ?_⟩
    rintro rfl
    exact hother ((hpaired.owned c found held hfound hheld).symm.trans howner)
  · rintro id ⟨c, found, held, hfound, hgranted, hserver⟩
    refine ⟨c, found, held, ?_, hgranted, hserver⟩
    rw [hothers, if_neg]
    · exact hfound
    rintro rfl
    rw [hsession, some.injEq] at hfound
    rw [hfound, hgranted] at hclaimed
    cases hclaimed
  · intro other
    rw [hrests.cancels]
    refine ⟨fun hmem => ⟨hmem, ?_⟩, fun hboth => hboth.1⟩
    rintro rfl
    exact hcredit ((h.cancels other).mp hmem).2
  · rw [hrests.cancels]
    exact h.once
  · rintro other - hcancel rfl
    exact hcredit hcancel
  · intro id parked hlink
    rcases hparked id parked hlink with hold | ⟨rfl, huse⟩
    · exact .inl hold
    · exact .inr ⟨hout.inUse.known hpaired.live.sound.consistent, huse⟩

/-- No server changes, and the tasks keep the leases they have. -/
lemma Custody.still (hservers : s'.allocator.servers = s.allocator.servers)
    (hnext : s.allocator.nextServer ≤ s'.allocator.nextServer)
    (hsessions : ∀ c session lease, s'.sessions.get? c = some session →
      session.phase.lease = some lease → ∃ old, s.sessions.get? c = some old ∧
        old.phase.lease = some lease) (hcancels : s'.cancels = s.cancels)
    (hparked : ∀ id parked, s'.parked.get? id = some parked → (s.parked.get? id).isSome)
    (hawaited : ∀ id parked, s'.parked.get? id = some parked → s.Awaited id → s'.Awaited id) :
    Guards (fun _ => False) s s' := by
  have hsame : ∀ lease, s'.allocator.Leased lease ↔ s.allocator.Leased lease :=
    fun lease => ⟨Leased.congr hservers.symm, Leased.congr hservers⟩
  refine ⟨⟨?_, ?_, ?_, ?_, ?_⟩, fun lease hlease => .inl ((hsame lease).mpr hlease)⟩
  · intro c session lease hsession hheld
    obtain ⟨old, hold, hbefore⟩ := hsessions c session lease hsession hheld
    obtain ⟨hlease, hcredit⟩ := h.leased c old lease hold hbefore
    exact ⟨(hsame lease).mpr hlease, hcredit⟩
  · intro lease hlease
    cases hlease
  · intro lease
    rw [hcancels, h.cancels, hsame]
  · rw [hcancels]
    exact h.once
  intro id parked hlink
  obtain ⟨old, hold⟩ := isSome_iff_exists.mp (hparked id parked hlink)
  obtain ⟨hknown, hwaited⟩ := h.parked id old hold
  refine ⟨hknown.trans_le hnext, ?_⟩
  intro huse
  rw [InUse, hservers] at huse
  rcases hwaited huse with hsome | ⟨lease, hlease, -⟩
  · exact .inl (hawaited id parked hlink hsome)
  · cases hlease

/-- One task moves, with its lease or without it, and leaves no link parked that it was
granted. -/
lemma Custody.move (hsession : s.sessions.get? client = some session) {phase : Phase T}
    (hlease : phase.lease = session.phase.lease ∨ phase.lease = none)
    (hsessions : ∀ c, s'.sessions.get? c =
      if c = client then some { session with phase := phase } else s.sessions.get? c)
    (hclaimed : ∀ lease, session.phase = .granted lease → s'.parked.get? lease.server = none)
    (hservers : s'.allocator.servers = s.allocator.servers)
    (hnext : s.allocator.nextServer ≤ s'.allocator.nextServer) (hcancels : s'.cancels = s.cancels)
    (hparked : ∀ id parked, s'.parked.get? id = some parked →
      (s.parked.get? id).isSome) : Guards (fun _ => False) s s' := by
  refine h.still hservers hnext ?_ hcancels hparked ?_
  · intro c found lease hfound hheld
    rw [hsessions] at hfound
    split at hfound
    · rename_i hsame
      cases hfound
      refine ⟨session, hsame ▸ hsession, ?_⟩
      rcases hlease with hkept | hnone
      · rw [← hkept]
        exact hheld
      · change phase.lease = some lease at hheld
        rw [hnone] at hheld
        cases hheld
    · exact ⟨found, hfound, hheld⟩
  · rintro id parked hlink ⟨c, found, lease, hfound, hgranted, hserver⟩
    refine ⟨c, found, lease, ?_, hgranted, hserver⟩
    rw [hsessions, if_neg]
    · exact hfound
    rintro rfl
    rw [hsession, some.injEq] at hfound
    have hnone := hclaimed lease (hfound ▸ hgranted)
    rw [hserver, hlink] at hnone
    cases hnone

end

/-! ### Sweeps -/

lemma unpark_parked (s : PoolManager T F) (server : ServerId) :
    (s.unpark server).parked = s.parked.erase server := by
  unfold unpark
  split
  · rename_i hnone
    exact (OrderedMap.erase_of_get?_eq_none hnone).symm
  · rfl

/-- What holds from one eviction of a sweep to the next: no server that was there when it began
has been put to use. -/
structure Sparing (s₀ s : PoolManager T F) : Prop extends
    Sweeps s₀ s, Guards (fun _ => False) s₀ s where
  inUse : ∀ id, id < s₀.allocator.nextServer → s.allocator.InUse id → s₀.allocator.InUse id
  later : s₀.allocator.nextServer ≤ s.allocator.nextServer

lemma Sparing.evict {s₀ : PoolManager T F} (h : Sparing s₀ s) {server : ServerId}
    (hknown : server < s₀.allocator.nextServer) (hfree : ¬ s₀.allocator.InUse server)
    (hrun : s.evict server = some s') : Sparing s₀ s' := by
  unfold PoolManager.evict at hrun
  split at hrun
  · rw [some.injEq] at hrun
    exact hrun ▸ h
  have heq := unpark_eq s server
  obtain ⟨grants, a', hcall, hdelivered, hsweeps⟩ := h.paired.reportDead h.quiet
    (by rw [heq]) (by rw [heq]) (by rw [heq]) (by rw [heq]) (by rw [heq]) hrun
  have hgives := backendDied_gives h.paired.live hcall
  have hguards : Guards (fun _ => False) s s' := by
    refine h.custody.call_sparing hdelivered hgives ?_ (by rw [heq]) (by rw [heq]) ?_
    · rintro lease conn hconn hholds (rfl | hparks)
      · exact hfree (h.inUse _ hknown ⟨conn, hconn, hholds.1⟩)
      · exact hparks
    intro id parked hlink
    change (s.unpark server).parked.get? id = some parked at hlink
    rw [unpark_parked] at hlink
    obtain ⟨-, hlink⟩ := OrderedMap.get?_of_erase hlink
    rw [hlink]
    rfl
  refine ⟨h.toSweeps.trans hsweeps, h.toGuards.trans hguards, ?_, ?_⟩
  · intro id hid huse
    rw [hdelivered.frame.1] at huse
    rcases hgives.turnover.inUse_origin huse with hbefore | ⟨lease, hlease, hserver⟩
    · exact h.inUse id hid hbefore
    obtain ⟨grant, hgrant, rfl⟩ := List.mem_map.mp hlease
    have hnew := backendDied_opens h.paired.live hcall grant hgrant
    rw [hserver] at hnew
    exact absurd hid (not_lt.mpr (h.later.trans hnew))
  · rw [hdelivered.frame.1]
    exact h.later.trans hgives.turnover.known

lemma Sparing.refl (hpaired : s.Paired []) (hquiet : s.Quiet) (hcustody : s.Custody []) :
    Sparing s s :=
  ⟨⟨hpaired, hquiet, .refl none s⟩, ⟨hcustody, fun _ hlease => .inl hlease⟩, fun _ _ => id, le_rfl⟩

lemma Sparing.takeSuperseded (hpaired : s.Paired []) (hquiet : s.Quiet) (hcustody : s.Custody []) {current : Nat}
    (hfree : ∀ id parked, s.parked.get? id = some parked → parked.link.epoch < current →
      ¬ s.allocator.InUse id) (hrun : s.takeSuperseded order current = some s') : Sparing s s' := by
  refine takeSuperseded_keeps ?_ (.refl hpaired hquiet hcustody) hrun
  intro server parked b b' hparked hstale hsparing hevict
  exact Sparing.evict hsparing (hcustody.parked server parked hparked).1
    (hfree server parked hparked hstale) hevict

lemma Sparing.takeIdle (hpaired : s.Paired []) (hquiet : s.Quiet) (hcustody : s.Custody []) {now idleFor : Timestamp}
    (hfree : ∀ id parked, s.parked.get? id = some parked → ¬ s.allocator.InUse id)
    (hrun : s.takeIdle order now idleFor = some s') : Sparing s s' := by
  refine takeIdle_keeps ?_ (.refl hpaired hquiet hcustody) hrun
  intro server parked b b' hparked hsparing hevict
  exact Sparing.evict hsparing (hcustody.parked server parked hparked).1
    (hfree server parked hparked) hevict

end PgElastic.Proxy.PoolManager
