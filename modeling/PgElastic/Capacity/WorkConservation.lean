import PgElastic.Capacity.Fairness

/-!
# Work conservation

Whatever can be granted from idle or free capacity has been granted.  Every operation
that frees capacity, closes a server or changes a specification ends in `drain_queue`,
which stops only when no waiting tenant can be served (`Drained`); the operations that do
not drain leave nothing servable behind either.  `drain_to` is the exception by design: it
frees capacity that is meant to stay free.

The drain loop of the source runs until a pass grants nothing.  `drainLoop` runs on fuel,
and the answer does not depend on it as soon as there is one unit more than there are
queued tickets.
-/

namespace PgElastic.Capacity

open Library Option

variable {T : Type} [LinearOrder T]

namespace Allocator

/-- The one operation that frees capacity on purpose. -/
def Op.drains : Op T → Bool
  | .drainTo _ => true
  | _ => false

variable {answer : List (Grant T) × Allocator T}

/-- One more unit of fuel does not change an answer. -/
lemma drainLoop_succ {fuel : Nat} {a : Allocator T} :
    drainLoop fuel a = some answer → drainLoop (fuel + 1) a = some answer := by
  induction fuel generalizing a answer with
  | zero =>
    intro h
    cases h
  | succ fuel ih =>
    intro h
    rw [drainLoop] at h ⊢
    split at h
    · rename_i hempty
      rw [if_pos hempty]
      exact h
    rename_i hempty
    rw [if_neg hempty]
    simp only [bind_eq_bind, bind_eq_some_iff] at h ⊢
    obtain ⟨order, horder, ⟨granted, b⟩, hround, hrest⟩ := h
    refine ⟨order, horder, ⟨granted, b⟩, hround, ?_⟩
    cases granted with
    | none => exact hrest
    | some grant =>
      simp only [bind_eq_some_iff] at hrest ⊢
      obtain ⟨⟨grants, c⟩, hloop, hanswer⟩ := hrest
      exact ⟨⟨grants, c⟩, ih hloop, hanswer⟩

variable {a : Allocator T}

lemma drainLoop_of_le {fuel fuel' : Nat} (hle : fuel ≤ fuel') (h : drainLoop fuel a = some answer) :
    drainLoop fuel' a = some answer := by
  induction hle with
  | refl => exact h
  | step _ ih => exact drainLoop_succ ih

/-- A tenant whose index of idle servers is empty owns no idle server. -/
lemma Consistent.all_active (hc : a.Consistent) {t : T} {rt : TenantRuntime T}
    (hrt : a.tenants.get? t = some rt) (hidle : rt.idle.last? = none) {id : ServerId}
    {conn : ServerConn T} (hconn : a.servers.get? id = some conn) (howner : conn.tenant = t) :
    conn.state = .active := by
  obtain ⟨entry, -, hrow⟩ := hc.rows hrt
  cases hstate : conn.state with
  | active => rfl
  | idle =>
    have hindexed : serverKey conn.seq id ∈ rt.idle :=
      (hrow.idle conn.seq id).mpr ⟨conn, hconn, howner, hstate, rfl⟩
    exact absurd hindexed (OrderedSet.last?_eq_none_iff.mp hidle _)

/-- In every state reached without `drain_to`, a waiting tenant that is not migrating has
no idle server and no request class of reserved or burst; and the drain that sees to it
stops, in this state and inside every operation. -/
theorem nothing_grantable_waits (pool : PoolSpec) (admission : AdmissionSpec) {a : Allocator T}
    (h : ((system pool admission).restrict fun _ op => op.drains = false).Reachable a) :
    (∀ t rt, a.tenants.get? t = some rt → rt.migrating = false → rt.queue ≠ [] →
      (∀ id conn, a.servers.get? id = some conn → conn.tenant = t → conn.state = .active) ∧
        a.classify t ≠ some (.ok .reserved) ∧ a.classify t ≠ some (.ok .burst)) ∧
    (∃ answer, ∀ fuel, a.queuedTotal < fuel → drainLoop fuel a = some answer) ∧
    ∀ op, (a.apply op).isSome = true := by
  have hs := reachable_sound h.of_restrict
  have hcalm : ((system pool admission).restrict DrainsWhenEmpty).Reachable a := by
    refine h.restrict_mono ?_
    rintro s op hkeeps target rfl
    cases hkeeps
  have hdrained : a.Drained := reachable_drained hcalm
  obtain ⟨grants, a', heq, -, -, -⟩ := drainQueue_spec hs
  refine ⟨?_, ⟨(grants, a'), fun fuel hfuel => drainLoop_of_le hfuel heq⟩, ?_⟩
  · intro t rt hrt hmigrating hqueue
    rcases hdrained t rt hrt with hmoving | hempty | ⟨hidle, hcredit⟩
    · rw [hmigrating] at hmoving
      cases hmoving
    · exact absurd hempty hqueue
    · refine ⟨fun id conn hconn => hs.consistent.all_active hrt hidle hconn, ?_, ?_⟩
      · exact fun hreserved => hcredit (.inl hreserved)
      · exact fun hburst => hcredit (.inr hburst)
  · intro op
    obtain ⟨outcome, a', heq, -⟩ := apply_spec hs op
    rw [heq]
    rfl

theorem nothing_grantable_waits_waitingRun : ∃ (a : Allocator Nat) (rt : TenantRuntime Nat),
      replay (plainPool 2) plainAdmission waitingRun = some a ∧
      a.tenants.get? 1 = some rt ∧ rt.queue.length = 1 ∧
      a.classify 1 ≠ some (.ok .reserved) ∧ a.classify 1 ≠ some (.ok .burst) := by
  let a := (replay (plainPool 2) plainAdmission waitingRun).get (by decide)
  have ha : _ = some a := (some_get _).symm
  have hkeeps : ∀ op ∈ waitingRun, ∀ _ : Allocator Nat, op.drains = false := by
    intro op hop _
    revert op
    decide
  let rt := (a.tenants.get? 1).get (by decide)
  have hrt : _ = some rt := (some_get _).symm
  have hlength : rt.queue.length = 1 := by decide
  have hqueue : rt.queue ≠ [] := by
    intro hnil
    rw [hnil] at hlength
    cases hlength
  obtain ⟨hwaits, -, -⟩ := nothing_grantable_waits _ _ (restricted_of_replay hkeeps ha)
  obtain ⟨-, hreserved, hburst⟩ := hwaits 1 rt hrt (by decide) hqueue
  exact ⟨a, rt, ha, hrt, hlength, hreserved, hburst⟩

end Allocator
end PgElastic.Capacity
