import PgElastic.Proxy.FencedSessions

/-!
# What the fence keeps from a superseded link

The epoch of the fence only rises, and a checkout is handed over only at or above it.  Whether a
superseded link is left alone as well depends on where its session is when the epoch rises.  The
invariant says where a session may be while it holds a superseded link: at the `select!` or between
two of the client's frames, where the fence is asked before anything is written; in the backend
pump, if a drain is on; or past its loop.

One lemma per turn says that the invariant is kept and that nothing is appended to a superseded
link; the run follows by induction.
-/

namespace PgElastic.Proxy

open Library Wire Epoch Option OrderedMap List
open PgElastic.Pool

namespace Fencing

/-- The session looks at the fence again before it writes to a link it holds, or is past its
loop. -/
def Phase.asksAgain : Phase → Bool
  | .waiting | .client | .finishing => true
  | _ => false

/-- The epoch a turn reports to the fence. -/
def Turn.reports (config : Config) : Turn → Option Nat
  | .opened _ reported => reported
  | .probed answer => if config.runtime.verifyAtCheckout then answer else none
  | _ => none

namespace Session

/-- Where a session may be while it holds a superseded link. -/
def Waits (session : Session) (fence : EpochFence) : Prop :=
  match session.phase with
  | .waiting | .client => session.seen ≠ fence.generation ∨ session.drainingFence = true
  | .backend _ => session.drainingFence = true
  | .finishing => True
  | _ => False

/-- No link below the fence is held. -/
def Current (session : Session) (fence : EpochFence) : Prop :=
  ∀ conn, session.held = some conn → fence.current ≤ conn.epoch

structure Watched (fence : EpochFence) (session : Session) : Prop where
  seen_le : session.seen ≤ fence.generation
  waits : ∀ conn, session.held = some conn → conn.epoch < fence.current → session.Waits fence

/-- What a turn may not meet: a piece of an oversized frame while a drain is due, and the end of a
session on a superseded link whose pinned state the reset ladder would remove. -/
def Careful (fence : EpochFence) (session : Session) : Turn → Prop
  | .opaqueChunk _ _ =>
    ∀ conn, session.held = some conn → conn.epoch < fence.current →
      session.witness.state (conn.link.txStatus.getD .idle) ≠ .readOnlyTransaction
  | .finish =>
    ∀ conn, session.held = some conn → conn.epoch < fence.current →
      ∀ reason, conn.link.pin = some reason → reason.forcesClose = true
  | _ => True

variable {config : Config} {fence : EpochFence} {session session' : Session}

lemma current_of_not_superseded (h : ¬ session.superseded fence) : session.Current fence := by
  intro conn hheld
  rw [superseded, hheld, any_some, decide_eq_true_eq] at h
  exact Nat.le_of_not_lt h

lemma current_of_held_eq_none (h : session.held = none) : session.Current fence := by
  intro conn hheld
  rw [h] at hheld
  cases hheld

variable {conn : Conn} {gate : Held} {done : Session × Effects} {turn : Turn} {chunk : Chunk}
  {mayPin : Bool}

lemma current_of_held_eq (h : session.held = some conn) (hle : fence.current ≤ conn.epoch) :
    session.Current fence := by
  intro other hheld
  rw [h] at hheld
  cases hheld
  exact hle

lemma Watched.of_current (hseen : session.seen ≤ fence.generation)
    (h : session.Current fence) : Watched fence session := by
  refine ⟨hseen, ?_⟩
  intro conn hheld hlt
  exact absurd hlt (not_lt.mpr (h conn hheld))

/-- Where nothing superseded may be held, nothing superseded is held. -/
lemma Watched.current (hw : Watched fence session) (hphase : ¬ session.Waits fence) :
    session.Current fence := by
  intro conn hheld
  by_contra hlt
  exact hphase (hw.waits conn hheld (Nat.lt_of_not_le hlt))

lemma Watched.of_waits (hseen : session.seen ≤ fence.generation) (h : session.Waits fence) :
    Watched fence session :=
  ⟨hseen, fun _ _ _ => h⟩

open Watched

/-- Only a read is allowed to finish. -/
lemma state_of_draining {held : Option Checkout} {current : Nat}
    {witness : TransactionWitness Bytes}
    (h : (Epoch.applyFence held current witness gate).1 = .draining) :
    ∃ link, held = some link ∧ witness.state (link.txStatus.getD .idle) = .readOnlyTransaction := by
  cases held with
  | none => cases h
  | some link =>
    refine ⟨link, rfl, ?_⟩
    cases hstate : witness.state (link.txStatus.getD .idle) with
    | readOnlyTransaction => rfl
    | idle =>
      rw [Epoch.applyFence, hstate] at h
      cases gate <;> cases hpin : link.pinned <;> rw [hpin] at h <;> cases h
    | _ =>
      rw [Epoch.applyFence, hstate] at h
      cases h

/-- The fence gives a link up, unless a read is allowed to finish on it. -/
lemma applyFence_cases (session : Session) (fence : EpochFence) (gate : Held) :
    (session.applyFence fence gate).1.seen = session.seen ∧
      ((session.applyFence fence gate).1.held = none ∨
        session.applyFence fence gate = ({ session with drainingFence := true }, true) ∧
          ∃ conn, session.held = some conn ∧
            session.witness.state (conn.link.txStatus.getD .idle) = .readOnlyTransaction) := by
  unfold applyFence
  dsimp only
  split
  · exact ⟨rfl, .inl rfl⟩
  · rename_i hverdict
    obtain ⟨link, hlink, hstate⟩ := state_of_draining hverdict
    obtain ⟨conn, hheld, rfl⟩ := map_eq_some_iff.mp hlink
    exact ⟨rfl, .inr ⟨rfl, conn, hheld, hstate⟩⟩
  · exact ⟨rfl, .inl rfl⟩
  · exact ⟨rfl, .inl rfl⟩

/-- After the check of `on_frontend` no superseded link is held. -/
lemma admission_spec (session : Session) (fence : EpochFence) (gate : Held) :
    (session.admission fence gate).1.seen = session.seen ∧
      (session.admission fence gate).1.Current fence := by
  by_cases hsuperseded : session.superseded fence
  · obtain ⟨hseen, hcase⟩ := applyFence_cases session fence gate
    rw [admission, if_pos hsuperseded]
    split
    · exact ⟨hseen, current_of_held_eq_none rfl⟩
    rename_i hdrain
    rcases hcase with hnone | ⟨heq, _⟩
    · exact ⟨hseen, current_of_held_eq_none hnone⟩
    · rw [heq] at hdrain
      exact absurd rfl hdrain
  · rw [admission, if_neg hsuperseded]
    dsimp only
    split
    · exact ⟨rfl, current_of_held_eq_none rfl⟩
    · exact ⟨rfl, current_of_not_superseded hsuperseded⟩

/-- The check of `on_client_opaque` comes to the same where no read is allowed to finish. -/
lemma admitOpaque_spec (hcareful : session.Careful fence (.opaqueChunk chunk gate)) :
    (session.admitOpaque fence gate).1.seen = session.seen ∧
      (session.admitOpaque fence gate).1.Current fence := by
  by_cases hsuperseded : session.superseded fence
  · obtain ⟨hseen, hcase⟩ := applyFence_cases session fence gate
    rw [admitOpaque, if_pos hsuperseded]
    rcases hcase with hnone | ⟨_, conn, hheld, hstate⟩
    · exact ⟨hseen, current_of_held_eq_none hnone⟩
    · rw [superseded, hheld, any_some, decide_eq_true_eq] at hsuperseded
      exact absurd hstate (hcareful conn hheld hsuperseded)
  · rw [admitOpaque, if_neg hsuperseded]
    exact ⟨rfl, current_of_not_superseded hsuperseded⟩

lemma passOn_spec {admitted : Session × Bool} (out : Outgoing)
    (hseen : admitted.1.seen ≤ fence.generation) (h : admitted.1.Current fence) :
    Watched fence (passOn admitted out) := by
  unfold passOn
  split <;> exact of_current hseen h

/-! ### Turns -/

/-- What a turn leaves: the invariant, and nothing appended to a superseded link. -/
structure Kept (fence : EpochFence) (done : Session × Effects) : Prop where
  watched : Watched fence done.1
  appended : ∀ epoch ∈ done.2.appended, fence.current ≤ epoch

lemma Kept.silent {effects : Effects} (hw : Watched fence session)
    (h : effects.appended = []) : Kept fence (session, effects) := by
  refine ⟨hw, ?_⟩
  intro epoch hmem
  rw [h] at hmem
  cases hmem

lemma seen_dispatchAll (dispatches : List Dispatch) (session : Session) (conn : Conn) :
    (session.dispatchAll conn dispatches).1.seen = session.seen ∧
      (session.dispatchAll conn dispatches).2.epoch = conn.epoch := by
  induction dispatches generalizing session conn with
  | nil => exact ⟨rfl, rfl⟩
  | cons dispatch rest ih => exact ih _ _

lemma noteChunk_spec {conn' : Conn}
    (h : session.noteChunk conn chunk mayPin = some (session', conn')) :
    session'.seen = session.seen ∧ conn'.epoch = conn.epoch := by
  unfold noteChunk at h
  split at h
  · split at h
    · cases h
    · cases h
      exact ⟨rfl, rfl⟩
  · cases h
    exact ⟨rfl, rfl⟩

section

variable (hseen : session.seen ≤ fence.generation)
include hseen

lemma runInternal_kept (hle : fence.current ≤ conn.epoch) (sql : Bytes) (purpose : Purpose) :
    Kept fence (session.runInternal conn sql purpose) := by
  refine ⟨of_current hseen (current_of_held_eq rfl hle), ?_⟩
  intro epoch hmem
  rw [mem_singleton.mp hmem]
  exact hle

lemma internalReturned_watched (h : session.Current fence) (purpose : Purpose) (failed : Bool) :
    Watched fence (session.internalReturned purpose failed) := by
  unfold internalReturned
  split
  · exact of_current hseen h
  · exact of_current hseen h
  · exact of_current hseen h
  · exact of_current hseen (current_of_held_eq_none rfl)

lemma resetAndRelease_kept (hle : fence.current ≤ conn.epoch) (policy : ResetPolicy) :
    Kept fence (session.resetAndRelease policy conn) := by
  unfold resetAndRelease
  dsimp only
  split
  · exact .silent (of_current hseen (current_of_held_eq_none rfl)) rfl
  · exact .silent (of_current hseen (current_of_held_eq_none rfl)) rfl
  · split <;> exact .silent (of_current hseen (current_of_held_eq rfl hle)) rfl

lemma tryRelease_kept (h : session.Current fence) (policy : ResetPolicy) (expired : Bool) :
    Kept fence (session.tryRelease policy expired) := by
  unfold tryRelease
  dsimp only
  split
  · exact .silent (of_current hseen h) rfl
  split
  · exact .silent (of_current hseen h) rfl
  rename_i conn hheld
  have hle : fence.current ≤ (if expired = true then
      { conn with link := conn.link.setFlag .lifetimeExpired } else conn).epoch := by
    split <;> exact h conn hheld
  split
  · exact resetAndRelease_kept hseen hle policy
  · exact resetAndRelease_kept hseen hle policy
  · exact .silent (of_current hseen (current_of_held_eq_none rfl)) rfl
  · exact .silent (of_current hseen (current_of_held_eq rfl hle)) rfl

lemma ladderDone_kept (conn : Conn) (ending : Bool) : Kept fence (session.ladderDone conn ending) := by
  refine .silent (of_current hseen (current_of_held_eq_none rfl)) ?_
  split <;> rfl

end

lemma finish_watched (hw : Watched fence session) (hcareful : session.Careful fence .finish)
    (policy : ResetPolicy) : Watched fence (session.finish policy) := by
  have hgone : Watched fence { session with held := none, phase := Phase.ended } :=
    of_current hw.seen_le (current_of_held_eq_none rfl)
  unfold finish
  dsimp only
  split
  · exact hgone
  rename_i conn hheld
  split
  · exact hgone
  rename_i reason hpin
  split
  · exact hgone
  rename_i hreuse
  split
  · -- The ladder begins, so the link is not a superseded one.
    refine of_current hw.seen_le (current_of_held_eq rfl ?_)
    by_contra hlt
    have hcloses := hcareful conn hheld (Nat.lt_of_not_le hlt) reason hpin
    -- a pin that outlives the scrub is never reset
    exact hreuse (by simp [plan, hcloses])
  · exact hgone

lemma Watched.current_of_phase (hw : Watched fence session) {phase : Phase}
    (hphase : session.phase = phase) (h : phase.asksAgain = false)
    (hbackend : ∀ sawReady, phase ≠ .backend sawReady) : session.Current fence := by
  refine hw.current fun hwaits => ?_
  rw [Waits, hphase] at hwaits
  cases phase with
  | waiting | client | finishing => cases h
  | backend sawReady => exact hbackend sawReady rfl
  | _ => exact hwaits

/-- A noticed epoch takes a superseded link away or leaves it to a drain. -/
lemma epochChanged_kept (h : session.turn config fence (.epochChanged gate) = some done) :
    Kept fence done := by
  dsimp only [Session.turn] at h
  split at h
  · cases h
    refine .silent ?_ rfl
    split
    · obtain ⟨hkept, hcase⟩ := applyFence_cases { session with seen := fence.generation } fence gate
      rcases hcase with hnone | ⟨heq, _⟩
      · exact of_current (le_of_eq hkept) (current_of_held_eq_none hnone)
      · rw [heq]
        exact of_waits (le_refl _) (.inr rfl)
    · rename_i hsuperseded
      exact of_current (le_refl _) (current_of_not_superseded hsuperseded)
  · cases h

section

variable (hw : Watched fence session) {message : BackendMessage}
include hw

lemma internalFrame_kept
    (h : session.turn config fence (.internalFrame message) = some done) : Kept fence done := by
  have hseen := hw.seen_le
  dsimp only [Session.turn] at h
  split at h
  · rename_i purpose failed conn hphase hheld
    have hcurrent := hw.current_of_phase hphase rfl (by simp)
    split at h
    · cases h
      exact .silent (internalReturned_watched hseen hcurrent _ _) rfl
    rename_i loop _
    have hheard : Current { session with held := some { conn with link := loop.link } }
        fence := current_of_held_eq rfl (hcurrent conn hheld)
    split at h
    · cases h
      refine .silent (internalReturned_watched ?_ hheard _ _) rfl
      exact hseen
    · cases h
      exact .silent (of_current hseen hheard) rfl
  · cases h

/-- Everything a message of the client comes to goes to the link the fence was asked about. -/
lemma dispatch_kept {found : Option (PreparedStatement × ServerAction)} {pin : Option PinReason}
    {taints : TaintSet} (h : session.turn config fence (.dispatch found pin taints) = some done) : Kept fence done := by
  have hseen := hw.seen_le
  dsimp only [Session.turn] at h
  split at h
  · rename_i message conn hphase hheld
    cases h
    have hle := hw.current_of_phase hphase rfl (by simp) conn hheld
    obtain ⟨hkept, hepoch⟩ := seen_dispatchAll (onFrontend message found) session
      { conn with link := onSql conn.link message pin taints }
    refine ⟨of_current (hkept ▸ hseen) (current_of_held_eq rfl (hepoch.symm ▸ hle)), ?_⟩
    intro epoch hmem
    obtain ⟨_, _, rfl⟩ := List.mem_map.mp hmem
    exact hle
  · cases h

lemma dispatchChunk_kept
    (h : session.turn config fence (.dispatchChunk mayPin) = some done) : Kept fence done := by
  have hseen := hw.seen_le
  dsimp only [Session.turn] at h
  split at h
  · rename_i chunk conn hphase hheld
    have hcurrent := hw.current_of_phase hphase rfl (by simp)
    split at h
    · rename_i noted conn' hnoted
      cases h
      obtain ⟨hkept, hepoch⟩ := noteChunk_spec hnoted
      refine ⟨of_current (hkept ▸ hseen)
        (current_of_held_eq rfl (hepoch.symm ▸ hcurrent conn hheld)), ?_⟩
      intro epoch hmem
      rw [mem_singleton.mp hmem]
      exact hcurrent conn hheld
    · cases h
      exact .silent (of_current hseen hcurrent) rfl
  · cases h

lemma backendFrame_kept
    (h : session.turn config fence (.backendFrame message) = some done) : Kept fence done := by
  have hseen := hw.seen_le
  dsimp only [Session.turn] at h
  split at h
  · rename_i conn hphase hheld
    split at h
    · cases h
      refine .silent ⟨hseen, ?_⟩ rfl
      intro other hother hlt
      cases hother
      have hwaits := hw.waits conn hheld hlt
      rw [Waits, hphase] at hwaits
      exact hwaits
    · cases h
      exact .silent (of_waits hseen trivial) rfl
  · cases h

/-- The pump goes on to a release only where no drain is on. -/
lemma backendPumped_kept {boundary : Bool}
    (h : session.turn config fence (.backendPumped boundary gate) = some done) :
    Kept fence done := by
  have hseen := hw.seen_le
  dsimp only [Session.turn] at h
  split at h
  · rename_i sawReady hphase
    cases h
    refine .silent ?_ rfl
    split
    · exact of_current hseen (current_of_held_eq_none rfl)
    rename_i hdrain
    by_cases hdraining : session.drainingFence
    · rw [hdraining, Bool.and_true] at hdrain
      rw [Bool.not_true, if_neg Bool.false_ne_true, if_neg hdrain]
      exact of_waits hseen (.inr hdraining)
    · refine of_current hseen (hw.current ?_)
      rw [Waits, hphase]
      exact hdraining
  · cases h

/-- **A turn keeps the invariant and leaves superseded links alone.** -/
lemma turn_kept (hcareful : session.Careful fence turn)
    (h : session.turn config fence turn = some done) : Kept fence done := by
  have hseen := hw.seen_le
  cases turn
  case epochChanged => exact epochChanged_kept h
  case internalFrame => exact internalFrame_kept hw h
  case dispatch => exact dispatch_kept hw h
  case dispatchChunk => exact dispatchChunk_kept hw h
  case backendFrame => exact backendFrame_kept hw h
  case backendPumped => exact backendPumped_kept hw h
  -- Each of the others asks for the phase it starts in.
  all_goals dsimp only [Session.turn] at h
  case fromClient =>
    split at h
    · rename_i hcond
      cases h
      refine .silent ⟨hseen, ?_⟩ rfl
      intro conn hheld hlt
      have hwaits := hw.waits conn hheld hlt
      rw [Waits, hcond.1] at hwaits
      exact hwaits
    · cases h
  case fromBackend =>
    split at h
    · rename_i hcond
      cases h
      refine .silent ⟨hseen, ?_⟩ rfl
      intro conn hheld hlt
      have hwaits := hw.waits conn hheld hlt
      rw [Waits, hcond.1] at hwaits
      exact hwaits.resolve_left fun hne => hne hcond.2.1
    · cases h
  case frame message gate =>
    split at h
    · split at h
      · cases h
        exact .silent (of_waits hseen trivial) rfl
      · cases h
        obtain ⟨hkept, hcurrent⟩ := admission_spec session fence gate
        exact .silent (passOn_spec _ (hkept ▸ hseen) hcurrent) rfl
    · cases h
  case opaqueChunk chunk gate =>
    split at h
    · cases h
      obtain ⟨hkept, hcurrent⟩ := admitOpaque_spec hcareful
      exact .silent (passOn_spec _ (hkept ▸ hseen) hcurrent) rfl
    · cases h
  case clientPumped =>
    split at h
    · rename_i hphase
      cases h
      refine .silent ⟨hseen, ?_⟩ rfl
      intro conn hheld hlt
      have hwaits := hw.waits conn hheld hlt
      rw [Waits, hphase] at hwaits
      exact hwaits
    · cases h
  case opened id reported =>
    split at h
    · rename_i hphase
      obtain ⟨conn, _, rfl⟩ := map_eq_some_iff.mp h
      have hcurrent := hw.current_of_phase hphase rfl (by simp)
      exact .silent (of_current hseen hcurrent) rfl
    · cases h
  case probed answer =>
    split at h
    · rename_i hphase
      have hcurrent := hw.current_of_phase hphase rfl (by simp)
      split at h
      all_goals
        cases h
        exact .silent (of_current hseen hcurrent) rfl
    · cases h
  case probeFailed =>
    split at h
    · rename_i hphase
      have hcurrent := hw.current_of_phase hphase rfl (by simp)
      split at h
      · cases h
        exact .silent (of_current hseen hcurrent) rfl
      · cases h
    · cases h
  case judge =>
    split at h
    · rename_i hphase
      split at h
      · rename_i hadmits
        cases h
        exact .silent (of_current hseen
          (current_of_held_eq rfl (FenceRuntime.le_of_admits hadmits))) rfl
      · cases h
        exact .silent (of_current hseen (hw.current_of_phase hphase rfl (by simp))) rfl
    · cases h
  case sync sql =>
    split at h
    · rename_i hphase hheld
      have hcurrent := hw.current_of_phase hphase rfl (by simp)
      split at h
      · cases h
        exact .silent (of_current hseen hcurrent) rfl
      · cases h
        exact runInternal_kept hseen (hcurrent _ hheld) _ _
    · cases h
  case internalLost =>
    split at h
    · rename_i hphase
      cases h
      have hcurrent := hw.current_of_phase hphase rfl (by simp)
      exact .silent (internalReturned_watched hseen hcurrent _ _) rfl
    · cases h
  case release expired =>
    split at h
    · rename_i hphase
      cases h
      exact tryRelease_kept hseen (hw.current_of_phase hphase rfl (by simp)) _ _
    · cases h
  case ladderStep =>
    split at h
    · rename_i hphase hheld
      cases h
      exact runInternal_kept hseen (hw.current_of_phase hphase rfl (by simp) _ hheld) _ _
    · cases h
  case ladderDone =>
    split at h
    · cases h
      exact ladderDone_kept hseen _ _
    · cases h
  case abandon =>
    split at h
    · cases h
      exact .silent (of_current hseen (current_of_held_eq_none rfl)) rfl
    · cases h
  case fail =>
    split at h
    · cases h
      exact .silent (of_waits hseen trivial) rfl
    · cases h
  case finish =>
    split at h
    · cases h
      exact .silent (finish_watched hw hcareful _) rfl
    · cases h

end

/-! ### What a turn reports and hands over -/

/-- The epochs a turn may report and hand over. -/
structure Reports (config : Config) (fence : EpochFence) (session : Session) (turn : Turn)
    (done : Session × Effects) : Prop where
  observed : ∀ epoch, done.2.observed = some epoch →
    turn.reports config = some epoch ∧ done.1.held = session.held ∧ session.phase.asksAgain = false
  handed : ∀ epoch, done.2.handed = some epoch → fence.current ≤ epoch

lemma Reports.silent (hobserved : done.2.observed = none) (hhanded : done.2.handed = none) :
    Reports config fence session turn done := by
  constructor
  · intro epoch h
    rw [hobserved] at h
    cases h
  · intro epoch h
    rw [hhanded] at h
    cases h

lemma tryRelease_silent (policy : ResetPolicy) (expired : Bool) :
    (session.tryRelease policy expired).2.observed = none ∧
      (session.tryRelease policy expired).2.handed = none := by
  have hreset conn : (session.resetAndRelease policy conn).2.observed = none ∧
      (session.resetAndRelease policy conn).2.handed = none := by
    unfold resetAndRelease
    dsimp only
    split
    · exact ⟨rfl, rfl⟩
    · exact ⟨rfl, rfl⟩
    · split <;> exact ⟨rfl, rfl⟩
  unfold tryRelease
  dsimp only
  split
  · exact ⟨rfl, rfl⟩
  split
  · exact ⟨rfl, rfl⟩
  split
  · exact hreset _
  · exact hreset _
  · exact ⟨rfl, rfl⟩
  · exact ⟨rfl, rfl⟩

lemma ladderDone_silent (conn : Conn) (ending : Bool) :
    (session.ladderDone conn ending).2.observed = none ∧
      (session.ladderDone conn ending).2.handed = none := by
  dsimp only [Session.ladderDone]
  generalize (if ending = true then conn.link.resetCompleted.clearPin
    else conn.link.resetCompleted) = link
  cases link.canCheckIn with
  | ok | error => exact ⟨rfl, rfl⟩

/-- A turn reports an epoch only while it opens or probes a link, and hands a link over only at or
above the fence. -/
lemma turn_reports (h : session.turn config fence turn = some done) :
    Reports config fence session turn done := by
  unfold Session.turn at h
  cases turn <;> dsimp only at h
  case opened =>
    split at h
    · rename_i hphase
      obtain ⟨conn, _, rfl⟩ := map_eq_some_iff.mp h
      constructor
      · intro epoch hobserved
        exact ⟨hobserved, rfl, by rw [hphase]; rfl⟩
      · intro epoch hhanded
        cases hhanded
    · cases h
  case probed =>
    split at h
    · rename_i hphase
      split at h
      · cases h
        constructor
        · intro epoch hobserved
          exact ⟨hobserved, rfl, by rw [hphase]; rfl⟩
        · intro epoch hhanded
          cases hhanded
      · cases h
        exact .silent rfl rfl
    · cases h
  case judge =>
    split at h
    · split at h
      · rename_i hadmits
        cases h
        constructor
        · intro epoch hobserved
          cases hobserved
        · intro epoch hhanded
          cases hhanded
          exact FenceRuntime.le_of_admits hadmits
      · cases h
        exact .silent rfl rfl
    · cases h
  case epochChanged | fromClient | fromBackend | opaqueChunk | clientPumped | internalLost
    | dispatch | backendPumped | ladderStep | abandon | fail | finish =>
    split at h
    · cases h
      exact .silent rfl rfl
    · cases h
  case frame | dispatchChunk | backendFrame | sync =>
    split at h
    · split at h
      all_goals
        cases h
        exact .silent rfl rfl
    · cases h
  case probeFailed =>
    split at h
    · split at h
      · cases h
        exact .silent rfl rfl
      · cases h
    · cases h
  case internalFrame =>
    split at h
    · split at h
      · cases h
        exact .silent rfl rfl
      split at h
      all_goals
        cases h
        exact .silent rfl rfl
    · cases h
  case release =>
    split at h
    · cases h
      exact .silent (tryRelease_silent _ _).1 (tryRelease_silent _ _).2
    · cases h
  case ladderDone =>
    split at h
    · cases h
      exact .silent (ladderDone_silent _ _).1 (ladderDone_silent _ _).2
    · cases h

/-! ### A rising fence -/

lemma Waits.raise (h : session.Waits fence) (hseen : session.seen ≤ fence.generation)
    (epoch : Nat) : session.Waits ⟨epoch, fence.generation + 1⟩ := by
  have hbehind : session.seen ≠ fence.generation + 1 := by omega
  unfold Waits at h ⊢
  split at h
  · exact .inl hbehind
  · exact .inl hbehind
  · exact h
  · trivial
  · exact h

lemma Watched.observe (hw : Watched fence session) (source : EpochSource) {epoch : Nat}
    (h : ∀ conn, session.held = some conn → conn.epoch < epoch →
      conn.epoch < fence.current ∨ session.phase.asksAgain) :
    Watched (fence.observe source epoch).2 session := by
  rcases Nat.lt_or_ge fence.current epoch with hraised | hnot
  · rw [EpochFence.observe, if_pos hraised]
    have hseen := hw.seen_le
    refine ⟨Nat.le_succ_of_le hseen, ?_⟩
    intro conn hheld hlt
    rcases h conn hheld hlt with hold | hasks
    · exact (hw.waits conn hheld hold).raise hseen epoch
    · have hbehind : session.seen ≠ fence.generation + 1 := by omega
      unfold Waits
      cases hphase : session.phase with
      | waiting | client => exact .inl hbehind
      | finishing => trivial
      | _ =>
        rw [hphase] at hasks
        cases hasks
  · rw [EpochFence.observe_of_le source hnot]
    exact hw

lemma claimed_watched {parked : Option Conn} (hw : Watched fence session)
    (h : session.claimed parked = some session') : Watched fence session' := by
  unfold claimed at h
  split at h
  · rename_i hphase
    have hcurrent := hw.current_of_phase hphase rfl (by simp)
    split at h
    · cases h
      exact of_current hw.seen_le hcurrent
    · cases h
      exact of_current hw.seen_le hcurrent
  · cases h

end Session

namespace World

variable {config : Config} {w w' : World} {step : Step}

/-- Every session whose link an epoch supersedes asks the fence again before it writes. -/
def Timely (w : World) (epoch : Nat) : Prop :=
  ∀ id session conn, w.sessions.get? id = some session → session.held = some conn →
    conn.epoch < epoch → conn.epoch < w.fence.current ∨ session.phase.asksAgain = true

/-- The steps of a run in which the fence holds. -/
def Calm (config : Config) (w : World) : Step → Prop
  | .observe _ epoch => w.Timely epoch
  | .turn id turn => ∀ session, w.sessions.get? id = some session →
      session.Careful w.fence turn ∧ ∀ epoch, turn.reports config = some epoch → w.Timely epoch
  | _ => True

structure Guarded (w : World) : Prop where
  sessions : ∀ id session, w.sessions.get? id = some session → Session.Watched w.fence session
  appended : ∀ append ∈ w.appended, append.current ≤ append.openedUnder

lemma current_le_affect (w : World) (effects : Effects) :
    w.fence.current ≤ (w.affect effects).fence.current := by
  unfold affect
  cases effects.observed with
  | none => exact le_refl _
  | some epoch => exact w.fence.current_le_observe .verify epoch

/-- No step lowers the fence, and nothing but a turn hands a link over or appends to one. -/
lemma next_frame (h : w.next config step = some w') :
    w.fence.current ≤ w'.fence.current ∧ ((∀ id turn, step ≠ .turn id turn) →
      w'.appended = w.appended ∧ w'.handed = w.handed) := by
  unfold next at h
  cases step with
  | observe source epoch =>
    cases h
    exact ⟨w.fence.current_le_observe source epoch, fun _ => ⟨rfl, rfl⟩⟩
  | closeParked link =>
    cases h
    exact ⟨le_refl _, fun _ => ⟨rfl, rfl⟩⟩
  | connect id | severSuperseded current =>
    dsimp only at h
    split at h
    · cases h
      exact ⟨le_refl _, fun _ => ⟨rfl, rfl⟩⟩
    · cases h
  | claim id current link =>
    dsimp only at h
    split at h
    · obtain ⟨session, _, h⟩ := bind_eq_some_iff.mp h
      obtain ⟨_, _, rfl⟩ := map_eq_some_iff.mp h
      exact ⟨le_refl _, fun _ => ⟨rfl, rfl⟩⟩
    · cases h
  | turn id turn =>
    obtain ⟨session, _, h⟩ := bind_eq_some_iff.mp h
    obtain ⟨done, _, rfl⟩ := map_eq_some_iff.mp h
    exact ⟨current_le_affect _ _, fun hturn => absurd rfl (hturn id turn)⟩

/-- Every checkout so far was handed over at or above the fence. -/
def HandsCurrent (w : World) : Prop := ∀ handed ∈ w.handed, handed.current ≤ handed.verified

lemma HandsCurrent.next (hw : w.HandsCurrent) (h : w.next config step = some w') :
    w'.HandsCurrent := by
  intro handed hmem
  by_cases hturn : ∃ id turn, step = .turn id turn
  · obtain ⟨id, turn, rfl⟩ := hturn
    obtain ⟨session, _, h⟩ := bind_eq_some_iff.mp h
    obtain ⟨done, hdone, rfl⟩ := map_eq_some_iff.mp h
    rcases mem_append.mp hmem with hold | hnew
    · exact hw handed hold
    · obtain ⟨epoch, hepoch, rfl⟩ := List.mem_map.mp hnew
      exact (Session.turn_reports hdone).handed epoch (Option.mem_toList.mp hepoch)
  · rw [((next_frame h).2 fun id turn heq => hturn ⟨id, turn, heq⟩).2] at hmem
    exact hw handed hmem

/-- A step of another kind than a turn keeps the invariant if it keeps every session watched. -/
lemma Guarded.of_sessions (hw : w.Guarded) (h : w.next config step = some w')
    (hturn : ∀ id turn, step ≠ .turn id turn)
    (hsessions : ∀ id session, w'.sessions.get? id = some session →
      Session.Watched w'.fence session) : w'.Guarded := by
  refine ⟨hsessions, ?_⟩
  intro append hmem
  rw [((next_frame h).2 hturn).1] at hmem
  exact hw.appended append hmem

lemma Guarded.turn {id : SessionId} {session : Session} {turn : Turn}
    {done : Session × Effects} (hw : w.Guarded) (hget : w.sessions.get? id = some session)
    (hcareful : session.Careful w.fence turn)
    (htimely : ∀ epoch, turn.reports config = some epoch → w.Timely epoch)
    (hdone : session.turn config w.fence turn = some done) :
    ((w.put id done.1).affect done.2).Guarded := by
  have hkept := Session.turn_kept (hw.sessions id session hget) hcareful hdone
  have hreports := Session.turn_reports hdone
  constructor
  · intro other found hfound
    have hbefore : Session.Watched w.fence found ∧
        ∀ epoch, done.2.observed = some epoch → ∀ conn, found.held = some conn →
          conn.epoch < epoch → conn.epoch < w.fence.current ∨ found.phase.asksAgain = true := by
      rcases get?_insert_cases hfound with ⟨_, rfl⟩ | ⟨_, hold⟩
      · refine ⟨hkept.watched, ?_⟩
        intro epoch hepoch conn hheld hlt
        -- The session reports in a phase that does not ask again, so its link is older already.
        obtain ⟨hreported, hsame, hasks⟩ := hreports.observed epoch hepoch
        rcases htimely epoch hreported id session conn hget (hsame ▸ hheld) hlt with hold | hagain
        · exact .inl hold
        · rw [hasks] at hagain
          cases hagain
      · refine ⟨hw.sessions other found hold, ?_⟩
        intro epoch hepoch conn hheld hlt
        exact htimely epoch (hreports.observed epoch hepoch).1 other found conn hold hheld hlt
    unfold affect
    cases hobserved : done.2.observed with
    | none => exact hbefore.1
    | some epoch => exact hbefore.1.observe .verify (hbefore.2 epoch hobserved)
  · intro append hmem
    rcases mem_append.mp hmem with hold | hnew
    · exact hw.appended append hold
    · obtain ⟨epoch, hepoch, rfl⟩ := List.mem_map.mp hnew
      exact hkept.appended epoch hepoch

lemma Guarded.next (hw : w.Guarded) (hcalm : w.Calm config step)
    (h : w.next config step = some w') : w'.Guarded := by
  cases step
  case turn id turn =>
    obtain ⟨session, hget, h⟩ := bind_eq_some_iff.mp h
    obtain ⟨done, hdone, rfl⟩ := map_eq_some_iff.mp h
    obtain ⟨hcareful, htimely⟩ := hcalm session hget
    exact hw.turn hget hcareful htimely hdone
  all_goals refine hw.of_sessions h (by simp) ?_
  case observe source epoch =>
    cases h
    intro id session hget
    exact (hw.sessions id session hget).observe source fun conn => hcalm id session conn hget
  case connect =>
    dsimp only [World.next] at h
    split at h
    · cases h
      intro other session hget
      rcases get?_insert_cases hget with ⟨_, rfl⟩ | ⟨_, hold⟩
      · exact Session.Watched.of_current (le_refl _) (Session.current_of_held_eq_none rfl)
      · exact hw.sessions other session hold
    · cases h
  case severSuperseded =>
    dsimp only [World.next] at h
    split at h
    · cases h
      exact hw.sessions
    · cases h
  case closeParked =>
    cases h
    exact hw.sessions
  case claim id current link =>
    dsimp only [World.next] at h
    split at h
    · obtain ⟨session, hget, h⟩ := bind_eq_some_iff.mp h
      obtain ⟨claimed, hclaimed, rfl⟩ := map_eq_some_iff.mp h
      intro other found hfound
      rcases get?_insert_cases hfound with ⟨_, rfl⟩ | ⟨_, hold⟩
      · exact Session.claimed_watched (hw.sessions id session hget) hclaimed
      · exact hw.sessions other found hold
    · cases h

/-- **What the fence keeps.**  Over every run the epoch of the fence only rises, and every checkout
that is handed over was verified at or above it.  In every run whose epochs rise while the sessions
concerned ask again, in which no oversized frame is taken during a drain and no session is scrubbed
on a superseded link at its end, nothing is appended to a link below the fence. -/
theorem superseded_links_are_left_alone (config : Config) :
    (∀ w steps w', (system config).Path w steps w' → w.fence.current ≤ w'.fence.current) ∧
      (∀ w, (system config).Reachable w → ∀ handed ∈ w.handed, handed.current ≤ handed.verified) ∧
      ∀ w, ((system config).restrict (Calm config)).Reachable w →
        ∀ append ∈ w.appended, append.current ≤ append.openedUnder := by
  refine ⟨?_, ?_, ?_⟩
  · intro w steps w' hpath
    refine hpath.invariant (I := fun u => w.fence.current ≤ u.fence.current) ?_ (le_refl _)
    intro u step v hu hstep
    exact le_trans hu (next_frame hstep).1
  · intro w hreach
    refine hreach.invariant (I := HandsCurrent) ?_ ?_
    · rintro _ rfl handed hmem
      cases hmem
    · intro u step v _ hu hstep
      exact hu.next hstep
  intro w hreach
  have hguarded : w.Guarded := by
    refine hreach.invariant (I := Guarded) ?_ ?_
    · rintro _ rfl
      constructor
      · intro id session hget
        cases hget
      · intro append hmem
        cases hmem
    · rintro u step v _ hu ⟨hcalm, hstep⟩
      exact hu.next hcalm hstep
  exact hguarded.appended

/-! ### Runs on fixed inputs -/

def timelyTest (w : World) (epoch : Nat) : Bool :=
  w.sessions.values.all fun session => session.held.all fun conn =>
    !decide (conn.epoch < epoch) || (decide (conn.epoch < w.fence.current) ||
      session.phase.asksAgain)

lemma timely_of_test {epoch : Nat} (h : w.timelyTest epoch) : w.Timely epoch := by
  intro id session conn hget hheld hlt
  have hsession := List.all_eq_true.mp h session ((mem_values_iff _ _).mpr ⟨id, hget⟩)
  rw [hheld, all_some, Bool.or_eq_true, Bool.or_eq_true, decide_eq_true_eq,
    Bool.not_eq_true', decide_eq_false_iff_not] at hsession
  exact hsession.resolve_left fun hnot => hnot hlt

/-- A test that lets no oversized frame and no end of a session on a superseded link pass. -/
def calmTest (config : Config) (w : World) : Step → Bool
  | .observe _ epoch => w.timelyTest epoch
  | .turn id turn => (w.sessions.get? id).all fun session =>
    (match turn with
      | .opaqueChunk _ _ | .finish => !session.superseded w.fence
      | _ => true) && (turn.reports config).all w.timelyTest
  | _ => true

lemma calm_of_test (h : w.calmTest config step) : w.Calm config step := by
  cases step with
  | observe source epoch => exact timely_of_test h
  | turn id turn =>
    intro session hget
    rw [calmTest, hget, all_some, Bool.and_eq_true] at h
    obtain ⟨hcareful, hreports⟩ := h
    constructor
    · cases turn with
      | opaqueChunk chunk gate | finish =>
        intro conn hheld hlt
        rw [Session.superseded, hheld, any_some, decide_eq_true hlt] at hcareful
        cases hcareful
      | _ => trivial
    · intro epoch hepoch
      rw [hepoch, all_some] at hreports
      exact timely_of_test hreports
  | _ => trivial

/-- The default configuration: every checkout is verified, and a backend without an epoch is
served. -/
def verifying : Config := ⟨⟨true, false⟩, .dirtyTracked⟩

def replay (test : World → Step → Bool) (steps : List Step) : Option World :=
  System.run (System.guarded (next verifying) test) initial steps

lemma reachable_of_replay {test : World → Step → Bool} {steps : List Step}
    (h : replay test steps = some w) :
    ((system verifying).restrict fun w step => test w step).Reachable w :=
  System.reachable_of_guarded_run (fun _ _ _ => id) rfl h

def selectOne : FrontendMessage Bytes := .query (ascii "SELECT 1")

/-- A session opens a link under the first epoch and sends a read on it; the second epoch is
pushed while the read runs, and the session notices it. -/
def promotedDuringRead : List Step :=
  [.observe .watch 1, .connect 0, .turn 0 (.frame selectOne .no), .claim 0 1 none,
    .turn 0 (.opened 0 none), .turn 0 (.probed (some 1)), .turn 0 .judge, .turn 0 (.sync none),
    .turn 0 (.dispatch none none TaintSet.new), .turn 0 .clientPumped, .observe .push 2,
    .turn 0 (.epochChanged .no), .turn 0 .fromClient]

/-- The next message of the client is not passed on: the drain ends, and so does the session. -/
theorem superseded_links_are_left_alone_nextMessage : ∃ w, replay (calmTest verifying)
        (promotedDuringRead ++ [.turn 0 (.frame selectOne .no), .turn 0 .finish]) = some w ∧
      w.fence.current = 2 ∧ w.handed = [⟨1, 1⟩] ∧ w.appended = [⟨1, 1⟩] ∧
      initial.fence.current ≤ w.fence.current ∧
      (∀ handed ∈ w.handed, handed.current ≤ handed.verified) ∧
      ∀ append ∈ w.appended, append.current ≤ append.openedUnder := by
  let steps : List Step :=
    promotedDuringRead ++ [.turn 0 (.frame selectOne .no), .turn 0 .finish]
  obtain ⟨w, hw, hcurrent, hhanded, happended⟩ :
      ∃ w, replay (calmTest verifying) steps = some w ∧ w.fence.current = 2 ∧
        w.handed = [⟨1, 1⟩] ∧ w.appended = [⟨1, 1⟩] :=
    exists_of_any (by decide +kernel)
  have hpath : (system verifying).Path initial steps w :=
    (System.path_of_guarded_run (fun _ _ _ => id) (fun _ _ => id) hw).of_restrict
  have hreach := (reachable_of_replay hw).restrict_mono fun _ _ htest => calm_of_test htest
  obtain ⟨hrises, hhands, happends⟩ := superseded_links_are_left_alone verifying
  exact ⟨w, hw, hcurrent, hhanded, happended, hrises _ _ _ hpath, hhands w hreach.of_restrict,
    happends w hreach⟩

/-- The client's next message is too large to buffer: its first piece goes to the superseded
link, on which only the read was allowed to finish. -/
theorem oversized_frame_reaches_a_superseded_link : ∃ w, (system verifying).Reachable w ∧
      ∃ append ∈ w.appended, append.openedUnder < append.current := by
  let steps : List Step := promotedDuringRead ++
    [.turn 0 (.opaqueChunk ⟨81, 1000000, 5⟩ .no), .turn 0 (.dispatchChunk true)]
  obtain ⟨w, hw, happended⟩ :
      ∃ w, replay (fun _ _ => true) steps = some w ∧ w.appended = [⟨1, 1⟩, ⟨1, 2⟩] :=
    exists_of_any (by decide +kernel)
  refine ⟨w, (reachable_of_replay hw).of_restrict, ⟨1, 2⟩, ?_, by decide⟩
  rw [happended]
  simp

end World

end Fencing
end PgElastic.Proxy
