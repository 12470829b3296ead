import PgElastic.Capacity.Leases

/-!
# Runs with their history

Statements about a whole run need what was answered on the way: the leases that were given
out, the tickets that were issued and what became of them.  `History` keeps an allocator
together with the calls made to it; its runs are the allocator's runs (`now_reachable`).

The first results read from it are about leases.  Every lease is drawn under the allocator's
sequence number at that moment, so the epochs of the leases given out rise along the run
(`Numbered`).  `release` accepts a lease only while the server table records its epoch for an
active server (`Current`).  A lease that has lost that position cannot get it back: a server
parked, closed or handed out again is recorded under a later number or not at all.
-/

namespace PgElastic.Capacity

open Library Option List

variable {T : Type} [LinearOrder T]

namespace Allocator

/-- One public operation that was carried out: the state it met and what it answered. -/
structure Call (T : Type) [LinearOrder T] where
  before : Allocator T
  op : Op T
  outcome : Outcome T

/-- An allocator and the operations carried out on it, oldest first. -/
structure History (T : Type) [LinearOrder T] where
  now : Allocator T
  log : List (Call T)

variable {pool : PoolSpec} {admission : AdmissionSpec} {a m a' : Allocator T} {op : Op T}
  {lease : Lease T} {h h' : History T}

namespace History

def next (h : History T) (op : Op T) : Option (History T) :=
  (h.now.apply op).map fun answer =>
    { now := answer.2
      log := h.log ++ [{ before := h.now, op := op, outcome := answer.1 }] }

/-- The runs of an allocator, with their history. -/
def system (pool : PoolSpec) (admission : AdmissionSpec) : System (History T) (Op T) where
  init := fun h => withClock pool admission = .ok h.now ∧ h.log = []
  step := fun h op h' => h.next op = some h'

lemma next_eq_some (hstep : h.next op = some h') :
    ∃ outcome a', h.now.apply op = some (outcome, a') ∧
      h' = { now := a', log := h.log ++ [{ before := h.now, op := op, outcome := outcome }] } := by
  obtain ⟨⟨outcome, a'⟩, happly, rfl⟩ := map_eq_some_iff.mp hstep
  exact ⟨outcome, a', happly, rfl⟩

/-- Keeping the history adds no run. -/
lemma now_reachable (hreach : (system pool admission).Reachable h) :
    (Allocator.system pool admission).Reachable h.now := by
  induction hreach with
  | init hstart => exact .init hstart.1
  | @step s t op _ hstep ih =>
    obtain ⟨outcome, a', happly, rfl⟩ := next_eq_some hstep
    have hnext : s.now.next op = some a' := by
      rw [Allocator.next, happly, map_some]
    exact ih.step hnext

lemma sound_of_reachable (hreach : (system pool admission).Reachable h) : h.now.Sound :=
  reachable_sound (now_reachable hreach)

/-- Replays public operations on a fresh allocator and keeps their history. -/
def replay (pool : PoolSpec) (admission : AdmissionSpec) (ops : List (Op T)) :
    Option (History T) :=
  (withClock pool admission).toOption.bind fun a => System.run next { now := a, log := [] } ops

lemma reachable_of_replay {ops : List (Op T)} (hrun : replay pool admission ops = some h) :
    (system pool admission).Reachable h := by
  obtain ⟨start, hstart, hrest⟩ := bind_eq_some_iff.mp hrun
  exact System.reachable_of_run (fun _ _ _ _ => id) (.init ⟨ok_of_toOption hstart, rfl⟩) hrest

/-- The leases given out so far, in the order of the answers. -/
def issued (h : History T) : List (Lease T) := h.log.flatMap (·.outcome.leases)

lemma issued_snoc (a : Allocator T) (log : List (Call T)) (call : Call T) :
    issued { now := a, log := log ++ [call] } =
      log.flatMap (·.outcome.leases) ++ call.outcome.leases := by
  simp [issued]

end History

/-! ### The current checkout of a server -/

/-- The lease is for the server's current checkout, as `release` tests it. -/
def Current (a : Allocator T) (lease : Lease T) : Prop :=
  ∃ conn, a.servers.get? lease.server = some conn ∧ conn.state = .active ∧ conn.epoch = lease.epoch

/-- Any other lease is stale, and changes nothing. -/
lemma release_of_not_current (h : ¬ a.Current lease) :
    a.release lease = some ({ disposition := .stale, grants := [] }, a) := by
  unfold release
  split
  · rfl
  rename_i conn hconn
  rw [if_pos]
  by_contra hboth
  rw [not_or, not_not, not_not] at hboth
  exact h ⟨conn, hconn, hboth.2, hboth.1⟩

/-- Handing servers out makes no earlier lease current. -/
lemma Handover.not_current {leases : List (Lease T)} (h : Handover m leases a')
    (hpast : lease.epoch ≤ m.seq) (hnot : ¬ m.Current lease) : ¬ a'.Current lease := by
  rintro ⟨conn, hconn, hactive, hepoch⟩
  rcases h.origin hconn with hbefore | ⟨other, hother, -, -, hrecorded, -⟩
  · exact hnot ⟨conn, hbefore, hactive, hepoch⟩
  · have hlater := (h.given other hother).epoch_gt
    omega

/-- Preparing makes no lease current. -/
lemma Prepared.not_current (h : Prepared op a m)
    (hnot : ¬ a.Current lease) : ¬ m.Current lease := by
  rintro ⟨conn, hconn, hactive, hepoch⟩
  obtain ⟨old, hold, -, -, hwas⟩ := h.was hconn
  obtain ⟨hstate, hsame, -⟩ := hwas hactive
  exact hnot ⟨old, hold, hstate, hsame.trans hepoch⟩

/-- What ends the checkout a server was in: a release that parks or closes it, or anything
after which it is idle, gone or in the hands of another lease. -/
inductive Ends (op : Op T) (outcome : Outcome T) (after : Allocator T) (id : ServerId) : Prop
  | released (lease : Lease T) (answer : ReleaseOutcome T) : op = .release lease →
      outcome = .released answer →
      answer.disposition = .idle id ∨ answer.disposition = .closed id → Ends op outcome after id
  | parked (conn : ServerConn T) : after.servers.get? id = some conn → conn.state = .idle →
      Ends op outcome after id
  | closed : after.servers.get? id = none → Ends op outcome after id
  | grantedAgain (lease : Lease T) : lease ∈ outcome.leases → lease.server = id →
      Ends op outcome after id

variable {disposition : Disposition T} {conn : ServerConn T}

lemma Retired.server_eq {server id : ServerId} (h : Retired a server conn disposition m)
    (hid : disposition = .idle id ∨ disposition = .closed id) : server = id := by
  cases h with
  | closed =>
    rcases hid with heq | heq
    · cases heq
    · cases heq
      rfl
  | parked =>
    rcases hid with heq | heq
    · cases heq
      rfl
    · cases heq

/-- No lease is current for a server that its client has given back. -/
lemma Retired.not_current {server : ServerId} (h : Retired a server conn disposition m)
    (hserver : lease.server = server) : ¬ m.Current lease := by
  rintro ⟨found, hfound, hactive, -⟩
  rw [hserver] at hfound
  cases h with
  | closed m hneeded hservers =>
    rw [hservers, OrderedMap.get?_erase, if_pos rfl] at hfound
    cases hfound
  | parked seq m hneeded hcredit hservers =>
    rw [hservers, OrderedMap.get?_insert_self] at hfound
    cases hfound
    cases hactive

/-- After the end of a checkout no lease from before is current for the server. -/
lemma Ends.not_current (hs : a.Sound) {outcome : Outcome T}
    (happly : a.apply op = some (outcome, a')) (hends : Ends op outcome a' lease.server)
    (hpast : lease.epoch ≤ a.seq) : ¬ a'.Current lease := by
  cases hends with
  | released other answer hop houtcome hdisposition =>
    subst hop houtcome
    obtain ⟨⟨result, b⟩, hcall, heq⟩ := map_eq_some_iff.mp happly
    cases heq
    rcases release_fates hs hcall with
      ⟨-, -, ⟨hstale, -⟩ | ⟨hpinned, -⟩⟩ | ⟨conn, m, -, -, -, hretired, hlater, -, -, hdeals⟩
    · simp [hstale] at hdisposition
    · simp [hpinned] at hdisposition
    · have hserver := hretired.server_eq hdisposition
      exact hdeals.handover.not_current (hpast.trans hlater.seq) (hretired.not_current hserver.symm)
  | parked conn hconn hidle =>
    rintro ⟨found, hfound, hactive, -⟩
    rw [hconn, some.injEq] at hfound
    rw [← hfound, hidle] at hactive
    cases hactive
  | closed hgone =>
    rintro ⟨found, hfound, -⟩
    rw [hgone] at hfound
    cases hfound
  | grantedAgain other hother hserver =>
    rintro ⟨found, hfound, -, hepoch⟩
    obtain ⟨m, -, hprepared, hhandover⟩ := apply_fates hs happly
    have hgiven := hhandover.given other hother
    obtain ⟨conn, hconn, -, hrecorded, -⟩ := hgiven.holds
    rw [hserver, hfound] at hconn
    cases hconn
    have hnew := hgiven.epoch_gt
    have hseq := hprepared.later.seq
    omega

namespace History

/-! ### Epochs along a run -/

/-- The leases given out rise in epoch, and the allocator's counter is past them. -/
structure Numbered (h : History T) : Prop where
  rising : (h.issued.map (·.epoch)).Pairwise (· < ·)
  past : ∀ lease ∈ h.issued, lease.epoch ≤ h.now.seq

lemma Numbered.next (hn : h.Numbered) (hs : h.now.Sound)
    (hstep : h.next op = some h') : h'.Numbered := by
  obtain ⟨outcome, a', happly, rfl⟩ := next_eq_some hstep
  obtain ⟨m, -, hprepared, hhandover⟩ := apply_fates hs happly
  constructor
  · rw [issued_snoc, map_append, pairwise_append]
    refine ⟨hn.rising, hhandover.rising, ?_⟩
    intro epoch hold epoch' hnew
    obtain ⟨lease, hlease, rfl⟩ := List.mem_map.mp hold
    obtain ⟨other, hother, rfl⟩ := List.mem_map.mp hnew
    calc lease.epoch ≤ h.now.seq := hn.past lease hlease
      _ ≤ m.seq := hprepared.later.seq
      _ < other.epoch := (hhandover.given other hother).epoch_gt
  · intro lease hlease
    rw [issued_snoc] at hlease
    rcases mem_append.mp hlease with hold | hnew
    · exact (hn.past lease hold).trans (hprepared.later.seq.trans hhandover.later.seq)
    · exact hhandover.recent lease hnew

lemma numbered_of_reachable (hreach : (system pool admission).Reachable h) : h.Numbered := by
  refine hreach.invariant (I := Numbered) ?_ ?_
  · rintro h ⟨-, hempty⟩
    constructor
    · simp [issued, hempty]
    · simp [issued, hempty]
  · intro h op h' hbefore hn hstep
    exact hn.next (sound_of_reachable hbefore) hstep

/-- Two leases given out under one epoch are one lease. -/
lemma Numbered.epoch_injective (hn : h.Numbered) {other : Lease T} (hlease : lease ∈ h.issued)
    (hother : other ∈ h.issued) (hsame : lease.epoch = other.epoch) : lease = other :=
  inj_on_of_nodup_map (hn.rising.imp fun hlt => ne_of_lt hlt) hlease hother hsame

/-- A lease that is not current never becomes so again. -/
lemma not_current_of_path {ops : List (Op T)} (hreach : (system pool admission).Reachable h)
    (hpath : (system pool admission).Path h ops h') (hpast : lease.epoch ≤ h.now.seq)
    (hnot : ¬ h.now.Current lease) : lease.epoch ≤ h'.now.seq ∧ ¬ h'.now.Current lease := by
  induction hpath with
  | nil => exact ⟨hpast, hnot⟩
  | snoc hfront hstep ih =>
    have hs := sound_of_reachable (hfront.reachable hreach)
    obtain ⟨outcome, a', happly, rfl⟩ := next_eq_some hstep
    obtain ⟨m, -, hprepared, hhandover⟩ := apply_fates hs happly
    refine ⟨ih.1.trans (effect_of_apply hs happly).2.seq, ?_⟩
    exact hhandover.not_current (ih.1.trans hprepared.later.seq) (hprepared.not_current ih.2)

/-- In every run the leases given out rise strictly in epoch, and at most one of them is for
a server's current checkout.  Once a server that a lease was given on has been released,
closed or granted again, releasing that lease is stale for the rest of the run, and leaves the
whole allocator as it is. -/
theorem leases_are_linear (pool : PoolSpec) (admission : AdmissionSpec) {h : History T}
    (hreach : (system pool admission).Reachable h) :
    (h.issued.map (·.epoch)).Pairwise (· < ·) ∧
      (∀ lease ∈ h.issued, ∀ other ∈ h.issued, lease.server = other.server →
        h.now.Current lease → h.now.Current other → lease = other) ∧
      ∀ lease ∈ h.issued, ∀ op h₁ ops h₂ outcome, h.now.apply op = some (outcome, h₁.now) →
        h.next op = some h₁ → Ends op outcome h₁.now lease.server →
        (system pool admission).Path h₁ ops h₂ →
        h₂.now.release lease = some ({ disposition := .stale, grants := [] }, h₂.now) := by
  have hn := numbered_of_reachable hreach
  refine ⟨hn.rising, ?_, ?_⟩
  · rintro lease hlease other hother hserver ⟨conn, hconn, -, hepoch⟩ ⟨conn', hconn', -, hepoch'⟩
    rw [← hserver, hconn, some.injEq] at hconn'
    subst hconn'
    exact hn.epoch_injective hlease hother (hepoch.symm.trans hepoch')
  intro lease hlease op h₁ ops h₂ outcome happly hstep hends hpath
  have hs := sound_of_reachable hreach
  have hpast := hn.past lease hlease
  have hlater := (effect_of_apply hs happly).2.seq
  obtain ⟨-, hnot⟩ := not_current_of_path (hreach.step hstep) hpath
    (hpast.trans hlater) (hends.not_current hs happly hpast)
  exact release_of_not_current hnot

/-- A lease is released, its server is granted again under a new one, and the first lease is
released once more. -/
theorem leases_are_linear_grantedAgain : ∃ (h h₁ h₂ : History Nat) (again : Lease Nat),
      replay (plainPool 2) plainAdmission inUseRun = some h ∧
      h.next (.release inUseLease) = some h₁ ∧ h₁.next (.tryLease 0 .normal 0) = some h₂ ∧
      again ∈ h₂.issued ∧ again.server = inUseLease.server ∧ again ≠ inUseLease ∧
      h₂.now.release inUseLease = some ({ disposition := .stale, grants := [] }, h₂.now) := by
  let h := (replay (plainPool 2) plainAdmission inUseRun).get (by decide)
  have hh : _ = some h := (some_get _).symm
  let h₁ := (h.next (.release inUseLease)).get (by decide)
  have hh₁ : _ = some h₁ := (some_get _).symm
  let h₂ := (h₁.next (.tryLease 0 .normal 0)).get (by decide)
  have hh₂ : _ = some h₂ := (some_get _).symm
  obtain ⟨outcome, a', happly, hafter⟩ := next_eq_some hh₁
  have hnow : h₁.now = a' := by rw [hafter]
  let conn := (h₁.now.servers.get? inUseLease.server).get (by decide)
  have hpath : (system (plainPool 2) plainAdmission).Path h₁ [.tryLease 0 .normal 0] h₂ :=
    @System.path_of_run _ _ _ next _ _ _ (fun _ _ _ _ => id) (by rw [System.run, hh₂]; rfl)
  have hstale := (leases_are_linear (plainPool 2) plainAdmission (reachable_of_replay hh)).2.2
    inUseLease (by decide) _ h₁ _ h₂ outcome (hnow ▸ happly) hh₁
    (.parked conn (some_get _).symm (by decide)) hpath
  exact ⟨h, h₁, h₂, { inUseLease with epoch := 4 }, hh, hh₁, hh₂, by decide, rfl, by decide,
    hstale⟩

end History
end Allocator
end PgElastic.Capacity
