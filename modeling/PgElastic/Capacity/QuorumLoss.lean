import PgElastic.Capacity.Leases

/-!
# Backends held fast while the quorum is lost

While a pool has lost its quorum, a backend in use is taken to be in the middle of a COMMIT
that has not returned, and `release` keeps it with its client.  `release` is the only way a
server is given back that asks for the flag: `disconnect_client` retires the servers of the
client whatever the flag says, and a server that is not marked goes back to the pool and to
the next client.  `disconnect_frees_held_server` replays such a run.

Where no client that has an ordinary backend disconnects while the quorum is lost, a backend
stays in the hands it is in until the quorum is back, its connection dies or its tenant is
removed.
-/

namespace PgElastic.Capacity

open Library Option List System

variable {T : Type} [LinearOrder T]

namespace Allocator

/-- The client of an operation that disconnects has no ordinary backend while the quorum is
lost. -/
def sparesHeld (a : Allocator T) : Op T → Bool
  | .disconnectClient client =>
    !a.quorumLost || a.servers.values.all fun conn =>
      decide (conn.client ≠ some client) || decide (conn.state ≠ .active) ||
        decide (conn.credit = .cancel)
  | _ => true

/-- The server is still in the checkout that was recorded; it may have been marked. -/
def SameCheckout (a : Allocator T) (id : ServerId) (conn : ServerConn T) : Prop :=
  ∃ now, a.servers.get? id = some now ∧ now = { conn with closeNeeded := now.closeNeeded }

variable {a a' b : Allocator T} {conn : ServerConn T} {id : ServerId} {pool : PoolSpec}
  {admission : AdmissionSpec} {ops : List (Op T)} {leases : List (Lease T)} {m : Allocator T}
  {op : Op T}

/-- Handing servers out leaves those in use as they are. -/
lemma Handover.busy (h : Handover m leases a')
    (hc : m.Consistent) (hconn : m.servers.get? id = some conn) (hactive : conn.state = .active) :
    a'.servers.get? id = some conn := by
  rw [h.others id, hconn]
  intro hagain
  obtain ⟨lease, hlease, rfl⟩ := List.mem_map.mp hagain
  exact h.fresh hc hlease ⟨conn, hconn, hactive⟩

/-- A server that is gone does not come back under its number. -/
lemma Handover.gone (h : Handover m leases a')
    (hgone : m.servers.get? id = none) (hid : id < m.nextServer) : a'.servers.get? id = none := by
  rw [h.others id, hgone]
  intro hagain
  obtain ⟨lease, hlease, rfl⟩ := List.mem_map.mp hagain
  cases h.given lease hlease with
  | reused conn hconn hidle howner hcredit hepoch hnew =>
    rw [hgone] at hconn
    cases hconn
  | opened hnew => exact absurd hid (not_lt.mpr hnew)

omit [LinearOrder T] in
/-- While the quorum is lost an ordinary backend is not parked, and is closed only because its
connection died or its tenant is removed. -/
lemma Kept.held {after : Option (ServerConn T)} (h : Kept op id conn after)
    (hactive : conn.state = .active) (hrelease : ∀ lease, op ≠ .release lease)
    (hdisconnect : ∀ client, op = .disconnectClient client → conn.client ≠ some client) :
    (∃ now, after = some now ∧ now = { conn with closeNeeded := now.closeNeeded }) ∨
      after = none ∧ (op = .backendDied id ∨ op = .removeTenant conn.tenant) := by
  cases h with
  | same => exact .inl ⟨conn, rfl, rfl⟩
  | parked seq hparks hstate hneeded hcredit =>
    cases op with
    | release lease => exact absurd rfl (hrelease lease)
    | disconnectClient client => exact absurd hparks (hdisconnect client rfl)
    | _ => exact hparks.elim
  | marked hmarks => exact .inl ⟨_, rfl, rfl⟩
  | closed hcloses =>
    right
    refine ⟨rfl, ?_⟩
    cases op with
    | tryLease client kind now | drainTo target =>
      have hidle : conn.state = .idle := hcloses
      rw [hactive] at hidle
      cases hidle
    | release lease => exact absurd rfl (hrelease lease)
    | backendDied server =>
      have hid : id = server := hcloses
      exact .inl (by rw [hid])
    | removeTenant tenant =>
      have howner : conn.tenant = tenant := hcloses
      exact .inr (by rw [howner])
    | disconnectClient client => exact absurd hcloses.1 (hdisconnect client rfl)
    | _ => exact hcloses.elim

/-- One operation, while the quorum is lost. -/
lemma held_of_apply (hs : a.Sound) {outcome : Outcome T}
    (happly : a.apply op = some (outcome, a')) (hlost : a.quorumLost)
    (hspares : a.sparesHeld op) (hconn : a.servers.get? id = some conn)
    (hactive : conn.state = .active) (hcredit : conn.credit ≠ .cancel) :
    a'.SameCheckout id conn ∨
      a'.servers.get? id = none ∧ (op = .backendDied id ∨ op = .removeTenant conn.tenant) := by
  obtain ⟨m, hsm, hprepared, hhandover⟩ := apply_fates hs happly
  have hkept : (∃ now, m.servers.get? id = some now ∧
        now = { conn with closeNeeded := now.closeNeeded }) ∨
      m.servers.get? id = none ∧ (op = .backendDied id ∨ op = .removeTenant conn.tenant) →
      a'.SameCheckout id conn ∨
        a'.servers.get? id = none ∧ (op = .backendDied id ∨ op = .removeTenant conn.tenant) := by
    rintro (⟨now, hnow, hsame⟩ | ⟨hgone, hwhy⟩)
    · have hstate : now.state = .active := by
        rw [hsame]
        exact hactive
      exact .inl ⟨now, hhandover.busy hsm.consistent hnow hstate, hsame⟩
    · have hknown := (hs.consistent.server id conn hconn).2.1
      exact .inr ⟨hhandover.gone hgone (lt_of_lt_of_le hknown hprepared.later.nextServer), hwhy⟩
  by_cases hrelease : ∃ lease, op = .release lease ∧ lease.server = id
  · -- given back to its client, with nothing changed
    obtain ⟨lease, rfl, rfl⟩ := hrelease
    obtain ⟨answer, hheld⟩ : ∃ outcome, a.release lease = some (outcome, a) := by
      simp only [release, hconn]
      split
      · exact ⟨_, rfl⟩
      · rw [if_pos ⟨hlost, hcredit⟩]
        exact ⟨_, rfl⟩
    simp only [apply, report, hheld, map_some] at happly
    cases happly
    exact .inl ⟨conn, hconn, rfl⟩
  have hfate := hprepared.fate id conn hconn
  by_cases hother : ∃ lease, op = .release lease
  · obtain ⟨lease, rfl⟩ := hother
    have hserver : id ≠ lease.server := fun heq => hrelease ⟨lease, rfl, heq.symm⟩
    apply hkept
    left
    generalize hafter : m.servers.get? id = after at hfate
    cases hfate with
    | same => exact ⟨conn, rfl, rfl⟩
    | parked seq hparks hstate hneeded hcredit => exact absurd hparks.1 hserver
    | marked hmarks => exact hmarks.elim
    | closed hcloses => exact absurd hcloses.1 hserver
  · refine hkept (hfate.held hactive (fun lease heq => hother ⟨lease, heq⟩) ?_)
    rintro client rfl hclient
    have hall := List.all_eq_true.mp
      (by simpa only [sparesHeld, hlost, Bool.not_true, Bool.false_or] using hspares) conn
      ((OrderedMap.mem_values_iff _ _).mpr ⟨id, hconn⟩)
    simp [hclient, hactive, hcredit] at hall

/-! ### Until the quorum is back -/

/-- The runs in which no client with an ordinary backend disconnects while the quorum is lost. -/
def heldSystem (pool : PoolSpec) (admission : AdmissionSpec) : System (Allocator T) (Op T) :=
  (system pool admission).restrict fun a op => a.sparesHeld op = true

lemma quorumLost_of_path (hreach : (system pool admission).Reachable a)
    (hpath : (system pool admission).Path a ops b) (hlost : a.quorumLost)
    (hflag : .setQuorumLost false ∉ ops) : b.quorumLost := by
  induction hpath with
  | nil => exact hlost
  | @snoc b c ops op hfront hstep ih =>
    rw [mem_append, not_or, mem_singleton] at hflag
    have hbefore := ih hflag.1
    by_cases hop : ∃ lost, op = .setQuorumLost lost
    · obtain ⟨lost, rfl⟩ := hop
      cases hstep
      cases lost with
      | true => rfl
      | false => exact absurd rfl hflag.2
    · obtain ⟨outcome, heffect⟩ := effect_of_next (reachable_sound (hfront.reachable hreach)) hstep
      rw [heffect.quorum fun lost heq => hop ⟨lost, heq⟩]
      exact hbefore

lemma held_of_path (hreach : (heldSystem pool admission).Reachable a)
    (hpath : (heldSystem pool admission).Path a ops b) (hlost : a.quorumLost)
    (hflag : .setQuorumLost false ∉ ops) (hconn : a.servers.get? id = some conn)
    (hactive : conn.state = .active) (hcredit : conn.credit ≠ .cancel) :
    b.SameCheckout id conn ∨ b.servers.get? id = none ∧ id < b.nextServer ∧
        (.backendDied id ∈ ops ∨ .removeTenant conn.tenant ∈ ops) := by
  induction hpath with
  | nil => exact .inl ⟨conn, hconn, rfl⟩
  | @snoc b c ops op hfront hstep ih =>
    rw [mem_append, not_or] at hflag
    obtain ⟨hspares, hnext⟩ := hstep
    obtain ⟨⟨outcome, c'⟩, happly, rfl⟩ := map_eq_some_iff.mp hnext
    have hs := reachable_sound (hfront.reachable hreach).of_restrict
    rcases ih hflag.1 with ⟨now, hnow, hsame⟩ | ⟨hgone, hknown, hwhy⟩
    · have hbefore := quorumLost_of_path hreach.of_restrict hfront.of_restrict hlost hflag.1
      rcases held_of_apply hs happly hbefore hspares hnow (by rw [hsame]; exact hactive)
          (by rw [hsame]; exact hcredit) with ⟨later, hlater, hkept⟩ | ⟨hgone, hwhy⟩
      · left
        refine ⟨later, hlater, ?_⟩
        rw [hkept, hsame]
      right
      have hid := (hs.consistent.server id now hnow).2.1
      refine ⟨hgone, lt_of_lt_of_le hid (effect_of_apply hs happly).2.nextServer, ?_⟩
      have howner : now.tenant = conn.tenant := by rw [hsame]
      rcases hwhy with rfl | rfl
      · exact .inl (by simp)
      · exact .inr (by simp [howner])
    · -- a closed server does not come back under its number
      right
      obtain ⟨m, -, hprepared, hhandover⟩ := apply_fates hs happly
      refine ⟨?_, lt_of_lt_of_le hknown (effect_of_apply hs happly).2.nextServer,
        hwhy.imp (mem_append_left _) (mem_append_left _)⟩
      exact hhandover.gone (hprepared.absent id hgone)
        (lt_of_lt_of_le hknown hprepared.later.nextServer)

/-- From `set_quorum_lost(true)` to `set_quorum_lost(false)` an ordinary backend that was in
use at some point stays in that checkout, with its client and its epoch, unless it is closed by
`backend_died` or with its tenant: in every run in which no client that has an ordinary backend
disconnects while the quorum is lost. -/
theorem backends_held_while_quorum_lost (pool : PoolSpec) (admission : AdmissionSpec)
    {start lost a b : Allocator T} {before after : List (Op T)}
    (hreach : (heldSystem pool admission).Reachable start)
    (hlose : (heldSystem pool admission).step start (.setQuorumLost true) lost)
    (hbefore : (heldSystem pool admission).Path lost before a)
    (hafter : (heldSystem pool admission).Path a after b)
    (hflag : .setQuorumLost false ∉ before ++ after) {id : ServerId} {conn : ServerConn T}
    (hconn : a.servers.get? id = some conn) (hactive : conn.state = .active)
    (hcredit : conn.credit ≠ .cancel) :
    b.SameCheckout id conn ∨
      b.servers.get? id = none ∧ (.backendDied id ∈ after ∨ .removeTenant conn.tenant ∈ after) := by
  rw [mem_append, not_or] at hflag
  have hlostReach := hreach.step hlose
  have hset : lost.quorumLost = true := by
    obtain ⟨-, hnext⟩ := hlose
    cases hnext
    rfl
  have hstill := quorumLost_of_path hlostReach.of_restrict hbefore.of_restrict hset hflag.1
  rcases held_of_path (hbefore.reachable hlostReach) hafter hstill hflag.2 hconn hactive
      hcredit with hsame | ⟨hgone, -, hwhy⟩
  · exact .inl hsame
  · exact .inr ⟨hgone, hwhy⟩

/-- A client releases its backend while the quorum is lost, and keeps it. -/
theorem backends_held_while_quorum_lost_release :
    ∃ (start lost b : Allocator Nat) (conn : ServerConn Nat),
      replay (plainPool 2) plainAdmission inUseRun = some start ∧
      start.next (.setQuorumLost true) = some lost ∧
      System.run next lost [.release inUseLease, .tryLease 0 .normal 1] = some b ∧
      lost.servers.get? inUseLease.server = some conn ∧ b.SameCheckout inUseLease.server conn := by
  let start := (replay (plainPool 2) plainAdmission inUseRun).get (by decide)
  have hstart : _ = some start := (some_get _).symm
  let lost := (start.next (.setQuorumLost true)).get (by decide)
  have hlost : _ = some lost := (some_get _).symm
  let ops : List (Op Nat) := [.release inUseLease, .tryLease 0 .normal 1]
  let b := (System.run (guarded next sparesHeld) lost ops).get (by decide)
  have hb : _ = some b := (some_get _).symm
  let conn := (lost.servers.get? inUseLease.server).get (by decide)
  have hconn : _ = some conn := (some_get _).symm
  have hreach : (heldSystem (plainPool 2) plainAdmission).Reachable start := by
    refine restricted_of_replay ?_ hstart
    intro op hop s
    simp only [inUseRun, mem_cons, not_mem_nil, or_false] at hop
    rcases hop with rfl | rfl | rfl <;> rfl
  have hheld := backends_held_while_quorum_lost (plainPool 2) plainAdmission hreach
    ⟨rfl, hlost⟩ (.nil lost) (path_of_guarded_run (fun _ _ _ => id) (fun _ _ => id) hb) (by decide)
    hconn (by decide) (by decide)
  refine ⟨start, lost, b, conn, hstart, hlost, hb, hconn, ?_⟩
  exact hheld.resolve_right fun hclosed => by simp [ops] at hclosed

/-- The client disconnects while the quorum is lost: its backend is idle again, and is leased
to the next client although the quorum is not back. -/
theorem disconnect_frees_held_server :
    ∃ (a b c : Allocator Nat) (conn parked : ServerConn Nat) (lease : Lease Nat),
      replay (plainPool 2) plainAdmission (inUseRun ++ [.connectClient 0, .setQuorumLost true]) =
        some a ∧ a.servers.get? 0 = some conn ∧ conn.state = .active ∧ conn.credit ≠ .cancel ∧
      a.next (.disconnectClient 0) = some b ∧ b.quorumLost = true ∧
      b.servers.get? 0 = some parked ∧ parked.state = .idle ∧
      b.tryLease 1 .normal 0 = some (.granted lease, c) ∧ lease.server = 0 ∧
      lease.client = 1 ∧ c.quorumLost = true := by
  let a := (replay (plainPool 2) plainAdmission
    (inUseRun ++ [.connectClient 0, .setQuorumLost true])).get (by decide)
  let b := (a.next (.disconnectClient 0)).get (by decide)
  let conn := (a.servers.get? 0).get (by decide)
  let parked := (b.servers.get? 0).get (by decide)
  let answer := (b.tryLease 1 .normal 0).get (by decide)
  let lease : Lease Nat := { server := 0, tenant := 0, client := 1, credit := .burst, epoch := 4 }
  have hanswer : _ = some answer := (some_get _).symm
  have hlease : answer.1 = .granted lease := by decide
  refine ⟨a, b, answer.2, conn, parked, lease, (some_get _).symm, (some_get _).symm,
    by decide, by decide, (some_get _).symm, by decide, (some_get _).symm, by decide,
    ?_, rfl, rfl, by decide⟩
  rw [hanswer, ← hlease]

end Allocator
end PgElastic.Capacity
