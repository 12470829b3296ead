import PgElastic.Proxy.CancelRoutes

/-!
# Cancels reach their own client

A cancel handler resolves a link and sends to it later.  Here is when the link it has resolved
is still with the client it was asked to cancel, or has been closed, and so is never one that
another client holds or could be given.

The release path looks at the in-flight count before it clears the route, and a handler raises
the count before it reads the route.  That leaves three ways to lose the race: a cancel is picked
up between the last look at the count and the clearing of the route; a cancel is picked up so
late in the wait that it outlives the wait; and the link of a session that ends is checked in
without a look at the count.  Without these, and with delivery timers that fire in time, the
shorter of the two timeouts is what keeps the release waiting long enough.
-/

namespace PgElastic.Proxy

open Library Option OrderedMap OrderedSet

namespace Cancels
namespace World

/-! ### Who has a link -/

lemma linkOf_setSession (w : World) (s s' : SessionId) (session : Session) :
    (w.setSession s session).linkOf s' = if s' = s then session.phase.link else w.linkOf s' := by
  unfold linkOf setSession
  rw [get?_insert]
  split <;> rfl

variable {w w' : World} {step : Step} {cancel : Cancel} {c : CancelId} {s : SessionId}

lemma linkOf_of_get? {session : Session} (h : w.sessions.get? s = some session) :
    w.linkOf s = session.phase.link := by
  rw [linkOf, h, bind_some]

/-- A session that keeps its link through a change of its own. -/
lemma linkOf_setSession_same {session after : Session}
    (h : w.sessions.get? s = some session) (hlink : after.phase.link = session.phase.link)
    (s' : SessionId) : (w.setSession s after).linkOf s' = w.linkOf s' := by
  rw [linkOf_setSession]
  split
  · rename_i hs
    rw [hs, hlink, linkOf_of_get? h]
  · rfl

/-- A link is in one place at a time, and the numbers to come are free. -/
structure Owned (w : World) : Prop where
  fresh : ∀ link, w.nextLink ≤ link → w.Closed link
  apart : ∀ s link, w.linkOf s = some link → link ∉ w.parked
  single : ∀ s s' link, w.linkOf s = some link → w.linkOf s' = some link → s = s'
  sessions : ∀ s session, w.sessions.get? s = some session → s < w.nextSession

/-- How links move: nowhere but out of the pool, to a session that takes a parked or a new one,
or from a session back. -/
inductive Moves (w w' : World) : Prop
  | stay : (∀ s, w'.linkOf s = w.linkOf s) → (∀ link, link ∈ w'.parked → link ∈ w.parked) →
      w'.nextLink = w.nextLink → Moves w w'
  | take (s : SessionId) (link : LinkId) :
      (∀ s', w.linkOf s' ≠ some link) → link ∈ w.parked ∨ w.nextLink ≤ link →
      (∀ s', w'.linkOf s' = if s' = s then some link else w.linkOf s') →
      (∀ other, other ∈ w'.parked → other ≠ link ∧ other ∈ w.parked) →
      link < w'.nextLink → w.nextLink ≤ w'.nextLink → Moves w w'
  | back (s : SessionId) (link : LinkId) : w.linkOf s = some link →
      (∀ s', w'.linkOf s' = if s' = s then none else w.linkOf s') →
      (∀ other, other ∈ w'.parked → other = link ∨ other ∈ w.parked) →
      w'.nextLink = w.nextLink → Moves w w'

lemma Change.moves (hw : w.Owned) (h : w.Change step w') : Moves w w' := by
  cases h with
  | tick elapsed => exact .stay (fun _ => rfl) (fun _ => id) rfl
  | connect =>
    refine .stay ?_ (fun _ => id) rfl
    intro s
    change (w.setSession w.nextSession Session.new).linkOf s = w.linkOf s
    rw [linkOf_setSession]
    split
    · rename_i hs
      have hnone : w.sessions.get? w.nextSession = none := by
        cases hfound : w.sessions.get? w.nextSession with
        | none => rfl
        | some session => exact absurd (hw.sessions _ session hfound) (lt_irrefl _)
      rw [hs, linkOf, hnone]
      rfl
    · rfl
  | @claim s session link hsession hidle hparked =>
    have hknown : link < w.nextLink := by
      by_contra hfree
      exact (hw.fresh link (Nat.le_of_not_lt hfree)).1 hparked
    refine .take s link (fun s' hheld => hw.apart s' link hheld hparked)
      (.inl hparked) ?_ (fun _ hmem => mem_erase.mp hmem) hknown (le_refl _)
    exact fun s' => linkOf_setSession w s s' _
  | @opened s session hsession hidle =>
    have hclosed := hw.fresh w.nextLink (le_refl _)
    refine .take s w.nextLink hclosed.2 (.inr (le_refl _)) ?_ ?_
      (Nat.lt_succ_self _) (Nat.le_succ _)
    · exact fun s' => linkOf_setSession w s s' _
    · intro other hmem
      exact ⟨fun heq => hclosed.1 (heq ▸ hmem), hmem⟩
  | @turn s _ session after hsession hturned =>
    exact .stay (linkOf_setSession_same hsession hturned.link) (fun _ => id) rfl
  | @giveBack s session link closing hsession hphase =>
    refine .back s link ?_ (fun s' => linkOf_setSession w s s' _) ?_ rfl
    · rw [linkOf_of_get? hsession, hphase]
      rfl
    intro other hmem
    change other ∈ (if closing then w.parked else w.parked.insert link) at hmem
    split at hmem
    · exact .inr hmem
    · exact mem_insert.mp hmem
  | closeParked link =>
    exact .stay (fun _ => rfl) (fun _ hmem => (mem_erase.mp hmem).2) rfl
  | lookup _ | advance _ _ _ _ _ => exact .stay (fun _ => rfl) (fun _ => id) rfl
  | dispatch _ hsession _ | retire _ hsession _ =>
    exact .stay (linkOf_setSession_same hsession rfl) (fun _ => id) rfl

/-- A link that is closed stays closed. -/
structure Outlives (w w' : World) : Prop where
  nextLink : w.nextLink ≤ w'.nextLink
  closed : ∀ link, link < w.nextLink → w.Closed link → w'.Closed link

lemma Moves.outlives (h : Moves w w') : Outlives w w' := by
  cases h with
  | stay hlink hparked hnext =>
    refine ⟨hnext.ge, ?_⟩
    rintro link _ ⟨hout, hnobody⟩
    exact ⟨fun hmem => hout (hparked link hmem), fun s => hlink s ▸ hnobody s⟩
  | take s link _ hfrom hlink hparked _ hnext =>
    refine ⟨hnext, ?_⟩
    rintro other hother ⟨hout, hnobody⟩
    refine ⟨fun hmem => hout (hparked other hmem).2, ?_⟩
    intro s'
    rw [hlink s']
    split
    · rintro ⟨⟩
      rcases hfrom with hmem | hfree
      · exact hout hmem
      · exact absurd hother (not_lt.mpr hfree)
    · exact hnobody s'
  | back s link hheld hlink hparked hnext =>
    refine ⟨hnext.ge, ?_⟩
    rintro other _ ⟨hout, hnobody⟩
    constructor
    · intro hmem
      rcases hparked other hmem with rfl | hmem
      · exact hnobody s hheld
      · exact hout hmem
    intro s'
    rw [hlink s']
    split
    · rintro ⟨⟩
    · exact hnobody s'

lemma Owned.moves (hw : w.Owned) (h : Moves w w')
    (hsessions : ∀ s session, w'.sessions.get? s = some session → s < w'.nextSession) :
    w'.Owned := by
  cases h with
  | stay hlink hparked hnext =>
    refine ⟨?_, ?_, ?_, hsessions⟩
    · intro link hfree
      have hclosed := hw.fresh link (hnext ▸ hfree)
      exact ⟨fun hmem => hclosed.1 (hparked link hmem), fun s => hlink s ▸ hclosed.2 s⟩
    · intro s link hheld hmem
      rw [hlink s] at hheld
      exact hw.apart s link hheld (hparked link hmem)
    · intro s s' link hs hs'
      rw [hlink] at hs hs'
      exact hw.single s s' link hs hs'
  | take s link hnobody _ hlink hparked hknown hnext =>
    refine ⟨?_, ?_, ?_, hsessions⟩
    · intro other hfree
      have hclosed := hw.fresh other (le_trans hnext hfree)
      refine ⟨fun hmem => hclosed.1 (hparked other hmem).2, ?_⟩
      intro s'
      rw [hlink s']
      split
      · rintro ⟨⟩
        exact absurd hknown (not_lt.mpr hfree)
      · exact hclosed.2 s'
    · intro s' other hheld hmem
      rw [hlink s'] at hheld
      split at hheld
      · cases hheld
        exact (hparked _ hmem).1 rfl
      · exact hw.apart s' other hheld (hparked other hmem).2
    intro s₁ s2 other hs1 hs2
    rw [hlink] at hs1 hs2
    split at hs1
    · split at hs2
      · exact Eq.trans ‹_› (Eq.symm ‹_›)
      · cases hs1
        exact absurd hs2 (hnobody s2)
    split at hs2
    · cases hs2
      exact absurd hs1 (hnobody s₁)
    · exact hw.single s₁ s2 other hs1 hs2
  | back s link hheld hlink hparked hnext =>
    refine ⟨?_, ?_, ?_, hsessions⟩
    · intro other hfree
      have hclosed := hw.fresh other (hnext ▸ hfree)
      constructor
      · intro hmem
        rcases hparked other hmem with rfl | hmem
        · exact hclosed.2 s hheld
        · exact hclosed.1 hmem
      intro s'
      rw [hlink s']
      split
      · rintro ⟨⟩
      · exact hclosed.2 s'
    · intro s' other hother hmem
      rw [hlink s'] at hother
      split at hother
      · cases hother
      rename_i hne
      rcases hparked other hmem with rfl | hmem
      · exact hne (hw.single s' s other hother hheld)
      · exact hw.apart s' other hother hmem
    intro s₁ s2 other hs1 hs2
    rw [hlink] at hs1 hs2
    split at hs1
    · cases hs1
    · split at hs2
      · cases hs2
      · exact hw.single s₁ s2 other hs1 hs2

/-- Sessions are numbered in the order they connect. -/
lemma Change.sessions (hw : w.Owned) (h : w.Change step w') :
    ∀ s session, w'.sessions.get? s = some session → s < w'.nextSession := by
  have hset s session after : w.sessions.get? s = some session → ∀ s' found,
      (w.sessions.insert s after).get? s' = some found → s' < w.nextSession := by
    intro hsession s' found hfound
    rcases get?_insert_cases hfound with ⟨rfl, _⟩ | ⟨_, hold⟩
    · exact hw.sessions _ session hsession
    · exact hw.sessions s' found hold
  cases h with
  | tick _ | closeParked _ | lookup _ | advance _ _ _ _ _ => exact hw.sessions
  | connect =>
    intro s session hsession
    rcases get?_insert_cases hsession with ⟨rfl, _⟩ | ⟨_, hold⟩
    · exact Nat.lt_succ_self _
    · exact Nat.lt_succ_of_lt (hw.sessions s session hold)
  | claim hsession _ _ | opened hsession _ | turn hsession _ | giveBack hsession _
  | dispatch _ hsession _ | retire _ hsession _ => exact hset _ _ _ hsession

lemma Owned.change (hw : w.Owned) (h : w.Change step w') : w'.Owned :=
  hw.moves (h.moves hw) (h.sessions hw)

/-! ### Marks and time limits -/

/-- The handlers that hold the count of a session's route up. -/
def marks (w : World) (s : SessionId) : Nat :=
  sumOf
    (fun _ cancel => if cancel.session = s ∧ cancel.progress.counted = true then 1 else 0) w.cancels

/-- What ties a handler to the session whose route it has. -/
structure Fits (w : World) (cancel : Cancel) (session : Session) : Prop where
  started : cancel.progress.counted = true → cancel.since ≤ w.now
  inTime : cancel.progress.counted = true → w.now ≤ cancel.since + cancelDeliveryTimeout
  /-- A handler is done before the release that waits for it gives up. -/
  waiting : cancel.progress.counted = true → ∀ link since, session.phase = .waiting link since →
    cancel.since + cancelDeliveryTimeout < since + cancelWaitTimeout
  releasing : cancel.progress.counted = true → ∀ link, session.phase ≠ .releasing link
  target : ∀ link, cancel.progress.target = some link →
    link < w.nextLink ∧ (session.phase.keeps = some link ∨ w.Closed link)

structure Guarded (w : World) : Prop where
  owned : w.Owned
  cancels : ∀ c cancel, w.cancels.get? c = some cancel → c < w.nextCancel
  known : ∀ c cancel, w.cancels.get? c = some cancel →
    ∃ session, w.sessions.get? cancel.session = some session
  aims : ∀ s session, w.sessions.get? s = some session → session.route.target = session.phase.aim
  counts : ∀ s session, w.sessions.get? s = some session → w.marks s = session.route.inFlight
  fits : ∀ c cancel session, w.cancels.get? c = some cancel →
    w.sessions.get? cancel.session = some session → w.Fits cancel session

/-- The delivery timers fire in time; no cancel is picked up by a session that has looked at
the count for the last time, or has waited longer than the two timeouts differ; and a session
ends with a pinned link to be checked in only when none of its cancels is in flight. -/
def Careful (w : World) : Step → Prop
  | .tick elapsed => ∀ c cancel, w.cancels.get? c = some cancel →
      cancel.progress.counted = true → w.now + elapsed ≤ cancel.since + cancelDeliveryTimeout
  | .dispatch c => ∀ cancel session, w.cancels.get? c = some cancel →
      w.sessions.get? cancel.session = some session → session.phase.waitsFor w.now = true
  | .turn s .finish => ∀ session, w.sessions.get? s = some session → session.route.inFlight = 0
  | _ => True

lemma Fits.outlives {session : Session} (h : w.Fits cancel session) (ho : Outlives w w')
    (hnow : w'.now = w.now) : w'.Fits cancel session where
  __ := h
  started := hnow ▸ h.started
  inTime := hnow ▸ h.inTime
  target := by
    intro link htarget
    obtain ⟨hknown, hplace⟩ := h.target link htarget
    exact ⟨lt_of_lt_of_le hknown ho.nextLink, hplace.imp_right (ho.closed link hknown)⟩

lemma known_setSession {s' : SessionId} (h : ∃ session, w.sessions.get? s' = some session)
    (s : SessionId) (after : Session) :
    ∃ session, (w.sessions.insert s after).get? s' = some session := by
  rw [get?_insert]
  split
  · exact ⟨after, rfl⟩
  · exact h

lemma Guarded.ne_nextSession (h : w.Guarded) (hcancel : w.cancels.get? c = some cancel) :
    cancel.session ≠ w.nextSession := by
  obtain ⟨session, hsession⟩ := h.known c cancel hcancel
  exact ne_of_lt (h.owned.sessions _ session hsession)

lemma marks_lookup (h : w.Guarded) (s s' : SessionId) : ({ w with
      cancels := w.cancels.insert w.nextCancel ⟨s, w.now, .found⟩
      nextCancel := w.nextCancel + 1 } : World).marks s' = w.marks s' := by
  have hnone : w.cancels.get? w.nextCancel = none := by
    cases hfound : w.cancels.get? w.nextCancel with
    | none => rfl
    | some cancel => exact absurd (h.cancels _ cancel hfound) (lt_irrefl _)
  have hbalance := sumOf_insert
    (fun _ cancel => if cancel.session = s' ∧ cancel.progress.counted = true then 1 else 0)
    w.cancels w.nextCancel ⟨s, w.now, .found⟩
  rw [hnone] at hbalance
  simpa [marks, Progress.counted] using hbalance

section

variable (hcancel : w.cancels.get? c = some cancel)
include hcancel

lemma marks_dispatch (hfound : cancel.progress = .found) (session : Session) (count : Nat)
    (s : SessionId) :
    ((w.setInFlight cancel.session session count).advance c
      { cancel with since := w.now } .dispatched).marks s =
      w.marks s + if cancel.session = s then 1 else 0 := by
  have hbalance := sumOf_insert
    (fun _ cancel => if cancel.session = s ∧ cancel.progress.counted = true then 1 else 0)
    w.cancels c { cancel with since := w.now, progress := .dispatched }
  rw [hcancel, elim_some, hfound] at hbalance
  simpa [marks, Progress.counted, advance, setInFlight, setSession] using hbalance

lemma marks_advance {progress : Progress} (hcounted : cancel.progress.counted)
    (hstill : progress.counted) (s : SessionId) :
    (w.advance c cancel progress).marks s = w.marks s := by
  have hbalance := sumOf_insert
    (fun _ cancel => if cancel.session = s ∧ cancel.progress.counted = true then 1 else 0)
    w.cancels c { cancel with progress := progress }
  rw [hcancel, elim_some] at hbalance
  simp only [hcounted, hstill] at hbalance
  exact Nat.add_right_cancel hbalance

lemma marks_retire (hcounted : cancel.progress.counted) (session : Session) (s : SessionId) :
    (w.retire c cancel session).marks s + (if cancel.session = s then 1 else 0) = w.marks s := by
  have hbalance := sumOf_erase
    (fun _ cancel => if cancel.session = s ∧ cancel.progress.counted = true then 1 else 0)
    w.cancels c
  rw [hcancel, elim_some] at hbalance
  simp only [hcounted, and_true] at hbalance
  exact hbalance

end

namespace Guarded

lemma new : World.new.Guarded where
  owned := by
    refine ⟨?_, ?_, ?_, ?_⟩
    · intro link _
      refine ⟨not_mem_empty link, ?_⟩
      rintro s ⟨⟩
    · rintro s link ⟨⟩
    · rintro s s' link ⟨⟩
    · rintro s session ⟨⟩
  cancels := by rintro c cancel ⟨⟩
  known := by rintro c cancel ⟨⟩
  aims := by rintro s session ⟨⟩
  counts := by rintro s session ⟨⟩
  fits := by rintro c cancel session ⟨⟩

variable {w w' : World}

variable {s : SessionId} {c : CancelId} {cancel : Cancel}

section

variable (h : w.Guarded) (howned : w'.Owned) (ho : Outlives w w')
include h howned ho

lemma tick {elapsed : Nat} (hafter : w' = { w with now := w.now + elapsed })
    (hcareful : w.Careful (.tick elapsed)) : w'.Guarded := by
  subst hafter
  refine { h with owned := howned, fits := ?_ }
  intro c cancel session hcancel hsession
  have hfits := h.fits c cancel session hcancel hsession
  exact ⟨fun hcounted => le_trans (hfits.started hcounted) (Nat.le_add_right _ _),
    fun hcounted => hcareful c cancel hcancel hcounted, hfits.waiting, hfits.releasing,
    hfits.target⟩

lemma connect (hafter : w' = { w.setSession w.nextSession Session.new with
      nextSession := w.nextSession + 1 }) : w'.Guarded := by
  subst hafter
  refine ⟨howned, h.cancels, ?_, ?_, ?_, ?_⟩
  · exact fun c cancel hcancel => known_setSession (h.known c cancel hcancel) _ _
  · intro s session hsession
    rcases get?_insert_cases hsession with ⟨_, rfl⟩ | ⟨_, hold⟩
    · rfl
    · exact h.aims s session hold
  · intro s session hsession
    rcases get?_insert_cases hsession with ⟨rfl, rfl⟩ | ⟨_, hold⟩
    · refine sumOf_eq_zero_iff.mpr ?_
      intro c cancel hcancel
      rw [if_neg fun hboth => h.ne_nextSession hcancel hboth.1]
    · exact h.counts s session hold
  · intro c cancel session hcancel hsession
    rcases get?_insert_cases hsession with ⟨heq, _⟩ | ⟨_, hold⟩
    · exact absurd heq (h.ne_nextSession hcancel)
    · exact (h.fits c cancel session hcancel hold).outlives ho rfl

/-- A session changes, and the handlers stay as they are. -/
lemma session {session after : Session} (hsession : w.sessions.get? s = some session)
    (hsessions : w'.sessions = w.sessions.insert s after)
    (hcancels : w'.cancels = w.cancels) (hnow : w'.now = w.now)
    (hnumber : w'.nextCancel = w.nextCancel)
    (hcount : after.route.inFlight = session.route.inFlight)
    (haim : after.route.target = after.phase.aim)
    (hfits : ∀ c cancel, w.cancels.get? c = some cancel → cancel.session = s →
      w.Fits cancel session → w'.Fits cancel after) : w'.Guarded where
  owned := howned
  cancels := by
    rw [hcancels, hnumber]
    exact h.cancels
  known := by
    rw [hcancels, hsessions]
    exact fun c cancel hcancel => known_setSession (h.known c cancel hcancel) s after
  aims := by
    intro s' found hfound
    rw [hsessions] at hfound
    rcases get?_insert_cases hfound with ⟨_, rfl⟩ | ⟨_, hold⟩
    · exact haim
    · exact h.aims s' found hold
  counts := by
    intro s' found hfound
    rw [hsessions] at hfound
    rw [marks, hcancels]
    rcases get?_insert_cases hfound with ⟨rfl, rfl⟩ | ⟨_, hold⟩
    · rw [hcount]
      exact h.counts _ session hsession
    · exact h.counts s' found hold
  fits := by
    intro c cancel found hcancel hfound
    rw [hcancels] at hcancel
    rw [hsessions] at hfound
    rcases get?_insert_cases hfound with ⟨heq, rfl⟩ | ⟨_, hold⟩
    · exact hfits c cancel hcancel heq (h.fits c cancel session hcancel (heq ▸ hsession))
    · exact (h.fits c cancel found hcancel hold).outlives ho hnow

variable {session : Session} {link : LinkId}

/-- A session takes a link from the pool, or a new one. -/
lemma acquire (hsession : w.sessions.get? s = some session) (hidle : session.phase = .idle)
    (hsessions : w'.sessions = w.sessions.insert s { session with phase := .acquired link })
    (hcancels : w'.cancels = w.cancels) (hnow : w'.now = w.now)
    (hnumber : w'.nextCancel = w.nextCancel) : w'.Guarded := by
  refine h.session howned ho hsession hsessions hcancels hnow hnumber rfl ?_ ?_
  · have haim := h.aims s session hsession
    rw [hidle] at haim
    exact haim
  intro c cancel _ _ hfits
  refine ⟨hnow ▸ hfits.started, hnow ▸ hfits.inTime, by rintro _ _ _ ⟨⟩, by rintro _ _ ⟨⟩, ?_⟩
  intro other htarget
  obtain ⟨hknown, hplace⟩ := (hfits.outlives ho hnow).target other htarget
  rw [hidle] at hplace
  exact ⟨hknown, hplace.imp_left nofun⟩

/-- The steps a session takes with its own link. -/
lemma turn {turn : Turn} {session after : Session} (hsession : w.sessions.get? s = some session)
    (hafter : w' = w.setSession s after) (hturned : session.Turned w.now turn after)
    (hcareful : w.Careful (.turn s turn)) : w'.Guarded := by
  subst hafter
  refine h.session howned ho hsession rfl rfl rfl rfl hturned.inFlight
    (hturned.aim (h.aims s session hsession)) ?_
  rintro c cancel hcancel rfl hfits
  refine ⟨hfits.started, hfits.inTime, ?_, ?_, ?_⟩
  · intro hcounted link since hwaiting
    rcases hturned.waiting link since hwaiting with rfl | hwas
    · -- The wait begins: the delivery timeout is the shorter one.
      have hstarted := hfits.started hcounted
      show cancel.since + 1500 < w.now + 2000
      omega
    · exact hfits.waiting hcounted link since hwas
  · intro hcounted link hreleasing
    have hmarked : session.route.inFlight ≠ 0 := by
      intro hzero
      have hmarks := h.counts _ session hsession
      rw [hzero] at hmarks
      have hnone := sumOf_eq_zero_iff.mp hmarks c cancel hcancel
      rw [if_pos ⟨rfl, hcounted⟩] at hnone
      cases hnone
    rcases hturned.releasing link hreleasing with hzero | rfl | ⟨since, hwas, hlate⟩
    · exact hmarked hzero
    · exact hmarked (hcareful session hsession)
    -- At the deadline of the wait every handler's own deadline has passed.
    have hdone := hfits.waiting hcounted link since hwas
    have hinTime := hfits.inTime hcounted
    omega
  intro link htarget
  obtain ⟨hknown, hplace⟩ := (hfits.outlives ho rfl).target link htarget
  refine ⟨hknown, ?_⟩
  rcases hplace with hkeeps | hclosed
  · rcases hturned.keeps link hkeeps with hstill | hreleasing
    · exact .inl hstill
    · exact absurd hreleasing (hfits.releasing (Progress.counted_of_target htarget) link)
  · exact .inr hclosed

/-- A link is closed, or checked in by a session no handler is aimed at. -/
lemma giveBack {closing : Bool}
    (hsession : w.sessions.get? s = some session) (hphase : session.phase = .cleared link closing)
    (hafter : w' = { w.setSession s { session with phase := .idle } with
      parked := if closing then w.parked else w.parked.insert link }) : w'.Guarded := by
  subst hafter
  refine h.session howned ho hsession rfl rfl rfl rfl rfl ?_ ?_
  · have haim := h.aims s session hsession
    rw [hphase] at haim
    exact haim
  intro c cancel _ _ hfits
  refine ⟨hfits.started, hfits.inTime, by rintro _ _ _ ⟨⟩, by rintro _ _ ⟨⟩, ?_⟩
  intro other htarget
  obtain ⟨hknown, hplace⟩ := (hfits.outlives ho rfl).target other htarget
  refine ⟨hknown, .inr ?_⟩
  rcases hplace with hkeeps | hclosed
  · have hheld : w.linkOf s = some other := by
      rw [linkOf_of_get? hsession]
      exact Phase.link_of_keeps hkeeps
    have hclosing : closing := by
      rw [hphase] at hkeeps
      cases closing with
      | true => rfl
      | false => cases hkeeps
    subst hclosing
    refine ⟨h.owned.apart s other hheld, ?_⟩
    intro s'
    change (w.setSession s { session with phase := .idle }).linkOf s' ≠ some other
    rw [linkOf_setSession]
    split
    · rintro ⟨⟩
    · rename_i hne
      exact fun hother => hne (h.owned.single s' s other hother hheld)
  · exact hclosed

lemma closeParked (hafter : w' = { w with parked := w.parked.erase link }) :
    w'.Guarded := by
  subst hafter
  refine { h with owned := howned, fits := ?_ }
  exact fun c cancel session hcancel hsession =>
    (h.fits c cancel session hcancel hsession).outlives ho rfl

lemma lookup (hsession : w.sessions.get? s = some session) (hafter : w' = { w with
      cancels := w.cancels.insert w.nextCancel ⟨s, w.now, .found⟩
      nextCancel := w.nextCancel + 1 }) : w'.Guarded := by
  subst hafter
  refine ⟨howned, ?_, ?_, h.aims, ?_, ?_⟩
  · intro c cancel hcancel
    rcases get?_insert_cases hcancel with ⟨rfl, _⟩ | ⟨_, hold⟩
    · exact Nat.lt_succ_self _
    · exact Nat.lt_succ_of_lt (h.cancels c cancel hold)
  · intro c cancel hcancel
    rcases get?_insert_cases hcancel with ⟨_, rfl⟩ | ⟨_, hold⟩
    · exact ⟨session, hsession⟩
    · exact h.known c cancel hold
  · intro s' found hfound
    rw [marks_lookup h]
    exact h.counts s' found hfound
  intro c cancel found hcancel hfound
  rcases get?_insert_cases hcancel with ⟨_, rfl⟩ | ⟨_, hold⟩
  · exact ⟨by rintro ⟨⟩, by rintro ⟨⟩, by rintro ⟨⟩, by rintro ⟨⟩, by rintro _ ⟨⟩⟩
  · have hfits := h.fits c cancel found hold hfound
    exact ⟨hfits.started, hfits.inTime, hfits.waiting, hfits.releasing, hfits.target⟩

/-- A handler changes, and with it the count of its route. -/
lemma handler {count : Nat} {cancels : OrderedMap CancelId Cancel}
    (hsession : w.sessions.get? cancel.session = some session)
    (hafter : w' = { w.setInFlight cancel.session session count with cancels := cancels })
    (hcancel : w.cancels.get? c = some cancel)
    (hcancels : ∀ c' found, cancels.get? c' = some found →
      w.cancels.get? c' = some found ∨ c' = c ∧ found.session = cancel.session)
    (hmarks : ∀ s, w'.marks s = if s = cancel.session then count else w.marks s)
    (hfits : ∀ found, cancels.get? c = some found → w.Fits found session) : w'.Guarded := by
  subst hafter
  refine ⟨howned, ?_, ?_, ?_, ?_, ?_⟩
  · intro c' found hfound
    rcases hcancels c' found hfound with hold | ⟨rfl, _⟩
    · exact h.cancels c' found hold
    · exact h.cancels _ cancel hcancel
  · intro c' found hfound
    refine known_setSession ?_ _ _
    rcases hcancels c' found hfound with hold | ⟨_, heq⟩
    · exact h.known c' found hold
    · rw [heq]
      exact ⟨session, hsession⟩
  · intro s found hfound
    rcases get?_insert_cases hfound with ⟨_, rfl⟩ | ⟨_, hold⟩
    · exact h.aims _ session hsession
    · exact h.aims s found hold
  · intro s found hfound
    rw [hmarks s]
    rcases get?_insert_cases hfound with ⟨rfl, rfl⟩ | ⟨hne, hold⟩
    · rw [if_pos rfl]
    · rw [if_neg hne]
      exact h.counts s found hold
  intro c' found after hfound hafter
  -- The phases are as they were, so the session may be read in the old state.
  have hbefore : w.Fits found after := by
    rcases get?_insert_cases hafter with ⟨heq, rfl⟩ | ⟨hne, hold⟩
    · rcases hcancels c' found hfound with holdCancel | ⟨rfl, _⟩
      · have hfits := h.fits c' found session holdCancel (heq ▸ hsession)
        exact ⟨hfits.started, hfits.inTime, hfits.waiting, hfits.releasing, hfits.target⟩
      · have hfits := hfits found hfound
        exact ⟨hfits.started, hfits.inTime, hfits.waiting, hfits.releasing, hfits.target⟩
    · rcases hcancels c' found hfound with holdCancel | ⟨_, heq⟩
      · exact h.fits c' found after holdCancel hold
      · exact absurd heq hne
  exact hbefore.outlives ho rfl

/-- A cancel is picked up while its session's release will still wait for it. -/
lemma dispatch (hcancel : w.cancels.get? c = some cancel)
    (hsession : w.sessions.get? cancel.session = some session) (hfound : cancel.progress = .found)
    (hwaits : session.phase.waitsFor w.now)
    (hafter : w' = (w.setInFlight cancel.session session (session.route.inFlight + 1)).advance c
      { cancel with since := w.now } .dispatched) : w'.Guarded := by
  subst hafter
  refine h.handler howned ho hsession rfl hcancel ?_ ?_ ?_
  · intro c' found hfound'
    rcases get?_insert_cases hfound' with ⟨rfl, rfl⟩ | ⟨_, hold⟩
    · exact .inr ⟨rfl, rfl⟩
    · exact .inl hold
  · intro s
    refine (marks_dispatch hcancel hfound session _ s).trans ?_
    by_cases hs : s = cancel.session
    · rw [if_pos hs, if_pos hs.symm, hs, h.counts _ session hsession]
    · rw [if_neg hs, if_neg (Ne.symm hs)]
      rfl
  intro found hfound'
  rw [show found = { cancel with since := w.now, progress := .dispatched } from
    (some.inj ((get?_insert_self _ _ _).symm.trans hfound')).symm]
  refine ⟨fun _ => le_refl w.now, ?_, ?_, ?_, by rintro _ ⟨⟩⟩
  · intro _
    show w.now ≤ w.now + cancelDeliveryTimeout
    omega
  · intro _ link since hwaiting
    rw [hwaiting, Phase.waitsFor, decide_eq_true_eq] at hwaits
    exact hwaits
  · intro _ link hreleasing
    rw [hreleasing] at hwaits
    cases hwaits

/-- A handler reads the route of a session that keeps what the route names. -/
lemma advance {progress : Progress} (hcancel : w.cancels.get? c = some cancel)
    (hsession : w.sessions.get? cancel.session = some session)
    (hcounted : cancel.progress.counted) (hstill : progress.counted)
    (htarget : progress.target = session.route.target ∨
      progress.target = cancel.progress.target) (hafter : w' = w.advance c cancel progress) :
    w'.Guarded := by
  subst hafter
  have hcase c' found : (w.advance c cancel progress).cancels.get? c' = some found → c' = c ∧
      found = { cancel with progress := progress } ∨ w.cancels.get? c' = some found := by
    intro hfound
    rcases get?_insert_cases hfound with ⟨hc, hcancel'⟩ | ⟨_, hold⟩
    · exact .inl ⟨hc, hcancel'⟩
    · exact .inr hold
  refine ⟨howned, ?_, ?_, h.aims, ?_, ?_⟩
  · intro c' found hfound
    rcases hcase c' found hfound with ⟨rfl, _⟩ | hold
    · exact h.cancels _ cancel hcancel
    · exact h.cancels c' found hold
  · intro c' found hfound
    rcases hcase c' found hfound with ⟨_, rfl⟩ | hold
    · exact h.known c cancel hcancel
    · exact h.known c' found hold
  · intro s found hfound
    rw [marks_advance hcancel hcounted hstill]
    exact h.counts s found hfound
  intro c' found after hfound hafter
  rcases hcase c' found hfound with ⟨_, rfl⟩ | hold
  · have hsame : after = session := some.inj (hafter.symm.trans hsession)
    have hfits := (h.fits c cancel session hcancel hsession).outlives ho rfl
    rw [hsame]
    refine ⟨fun _ => hfits.started hcounted, fun _ => hfits.inTime hcounted,
      fun _ => hfits.waiting hcounted, fun _ => hfits.releasing hcounted, ?_⟩
    intro link hlink
    rcases htarget with hroute | hsame
    · have haim : session.phase.aim = some link := by
        rw [← h.aims _ session hsession, ← hroute]
        exact hlink
      have hkeeps := Phase.keeps_of_aim haim
      refine ⟨?_, .inl hkeeps⟩
      by_contra hfree
      refine (howned.fresh link (Nat.le_of_not_lt hfree)).2 cancel.session ?_
      exact (linkOf_of_get? hsession).trans (Phase.link_of_keeps hkeeps)
    · exact hfits.target link (hsame ▸ hlink)
  · exact (h.fits c' found after hold hafter).outlives ho rfl

lemma retire (hcancel : w.cancels.get? c = some cancel)
    (hsession : w.sessions.get? cancel.session = some session) (hcounted : cancel.progress.counted)
    (hafter : w' = w.retire c cancel session) : w'.Guarded := by
  subst hafter
  refine h.handler howned ho hsession rfl hcancel ?_ ?_ ?_
  · intro c' found hfound
    exact .inl (get?_of_erase hfound).2
  · intro s
    have hbalance := marks_retire hcancel hcounted session s
    by_cases hs : s = cancel.session
    · rw [if_pos hs.symm, hs, h.counts _ session hsession] at hbalance
      rw [if_pos hs, hs]
      exact Nat.eq_sub_of_add_eq hbalance
    · rw [if_neg (Ne.symm hs), add_zero] at hbalance
      rw [if_neg hs]
      exact hbalance
  · intro found hfound
    rw [get?_erase, if_pos rfl] at hfound
    cases hfound

end

lemma change (h : w.Guarded) (hcareful : w.Careful step) (hchange : w.Change step w') :
    w'.Guarded := by
  have howned := h.owned.change hchange
  have ho := (hchange.moves h.owned).outlives
  cases hchange with
  | tick elapsed => exact h.tick howned ho rfl hcareful
  | connect => exact h.connect howned ho rfl
  | claim hsession hidle _ | opened hsession hidle =>
    exact h.acquire howned ho hsession hidle rfl rfl rfl rfl
  | turn hsession hturned => exact h.turn howned ho hsession rfl hturned hcareful
  | giveBack hsession hphase => exact h.giveBack howned ho hsession hphase rfl
  | closeParked link => exact h.closeParked howned ho rfl
  | lookup hsession => exact h.lookup howned ho hsession rfl
  | dispatch hcancel hsession hfound =>
    exact h.dispatch howned ho hcancel hsession hfound (hcareful _ _ hcancel hsession) rfl
  | advance hcancel hsession hcounted hstill htarget =>
    exact h.advance howned ho hcancel hsession hcounted hstill htarget rfl
  | retire hcancel hsession hcounted => exact h.retire howned ho hcancel hsession hcounted rfl

end Guarded

lemma guarded_of_reachable (h : (system.restrict Careful).Reachable w) : w.Guarded := by
  refine h.invariant ?_ ?_
  · rintro _ rfl
    exact .new
  · rintro u step v _ hu ⟨hcareful, hnext⟩
    exact hu.change hcareful (next_change hnext)

/-- **A cancel stays with its client.**  In every run with the care described above, the link
that a cancel handler has resolved is, until the handler has returned, neither in the pool nor
with any session but the one it was asked to cancel: that session keeps it, or it is closed. -/
theorem cancel_stays_with_its_client {w : World} {c : CancelId} {cancel : Cancel} {link : LinkId}
    (h : (system.restrict Careful).Reachable w) (hcancel : w.cancels.get? c = some cancel)
    (htarget : cancel.progress.target = some link) :
    link ∉ w.parked ∧ (∀ s, w.linkOf s = some link → s = cancel.session) ∧
      ∃ session, w.sessions.get? cancel.session = some session ∧
        (session.phase.keeps = some link ∨ w.Closed link) := by
  have hguarded := guarded_of_reachable h
  obtain ⟨session, hsession⟩ := hguarded.known c cancel hcancel
  obtain ⟨_, hplace⟩ := (hguarded.fits c cancel session hcancel hsession).target link htarget
  rcases hplace with hkeeps | hclosed
  · have hheld := (linkOf_of_get? hsession).trans (Phase.link_of_keeps hkeeps)
    exact ⟨hguarded.owned.apart _ link hheld,
      fun s hother => hguarded.owned.single s _ link hother hheld,
      session, hsession, .inl hkeeps⟩
  · exact ⟨hclosed.1, fun s hother => absurd hother (hclosed.2 s), session, hsession, .inr hclosed⟩

/-! ### Runs on fixed inputs -/

/-- The condition of `cancel_stays_with_its_client`, as a test. -/
def carefulTest (w : World) : Step → Bool
  | .tick elapsed => w.cancels.values.all fun cancel =>
    !cancel.progress.counted || decide (w.now + elapsed ≤ cancel.since + cancelDeliveryTimeout)
  | .dispatch c => (w.cancels.get? c).all fun cancel =>
    (w.sessions.get? cancel.session).all fun session => session.phase.waitsFor w.now
  | .turn s .finish => (w.sessions.get? s).all fun session => session.route.inFlight == 0
  | _ => true

lemma careful_of_test (h : w.carefulTest step) : w.Careful step := by
  cases step with
  | tick elapsed =>
    intro c cancel hcancel hcounted
    have hvalue := (mem_values_iff _ _).mpr ⟨c, hcancel⟩
    have htest := List.all_eq_true.mp h cancel hvalue
    rw [hcounted, Bool.not_true, Bool.false_or] at htest
    exact of_decide_eq_true htest
  | dispatch c =>
    intro cancel session hcancel hsession
    rw [carefulTest, hcancel, all_some, hsession, all_some] at h
    exact h
  | turn s turn =>
    cases turn with
    | finish =>
      intro session hsession
      rw [carefulTest, hsession, all_some] at h
      exact eq_of_beq h
    | _ => trivial
  | _ => trivial

def replay (test : World → Step → Bool) (steps : List Step) : Option World :=
  System.run (System.guarded next test) new steps

lemma reachable_of_replay {test : World → Step → Bool} {steps : List Step}
    (h : replay test steps = some w) :
    (system.restrict fun w step => test w step).Reachable w :=
  System.reachable_of_guarded_run (fun _ _ _ => id) rfl h

/-- A client has a link and is asked to cancel. -/
def asked : List Step :=
  [.connect, .acquire 0 none, .turn 0 .setRoute, .lookup 0]

/-- The release waits for a cancel that has resolved the link, and for one that is picked up
during the wait. -/
def waitingRelease : List Step :=
  asked ++ [.dispatch 0, .resolve 0, .turn 0 .settle, .tick 400, .lookup 0, .dispatch 1,
    .resolve 1, .send 0, .done 0, .tick 1500, .turn 0 .poll]

theorem cancel_stays_with_its_client_waitingRelease :
    ∃ w, replay carefulTest waitingRelease = some w ∧
      w.cancels.get? 1 = some ⟨0, 400, .resolved 0⟩ ∧ 0 ∉ w.parked := by
  obtain ⟨w, hw, hcancel⟩ : ∃ w, replay carefulTest waitingRelease = some w ∧
      w.cancels.get? 1 = some ⟨0, 400, .resolved 0⟩ :=
    exists_of_any (by decide)
  have hreach := (reachable_of_replay hw).restrict_mono fun _ _ htest => careful_of_test htest
  exact ⟨w, hw, hcancel, (cancel_stays_with_its_client hreach hcancel rfl).1⟩

/-- The release path finds no cancel in flight, the cancel handler raises the count and reads
the route, and the release goes on: the link is with the next client when the cancel is sent. -/
theorem cancel_reaches_the_next_client :
    ∃ w w' : World, system.Reachable w ∧ w.next (.send 0) = some w' ∧
      w'.cancels.get? 0 = some ⟨0, 0, .sent 0⟩ ∧ w'.linkOf 1 = some 0 ∧ w'.linkOf 0 = none := by
  let steps : List Step := asked ++ [.turn 0 .settle, .dispatch 0, .resolve 0,
    .turn 0 (.clearRoute false), .giveBack 0, .connect, .acquire 1 (some 0), .turn 1 .setRoute]
  let w : World := (replay (fun _ _ => true) steps).get (by decide)
  let w' : World := (w.next (.send 0)).get (by decide)
  have hw : _ = some w := (some_get _).symm
  exact ⟨w, w', (reachable_of_replay hw).of_restrict, (some_get _).symm, by decide,
    by decide, by decide⟩

end World
end Cancels
end PgElastic.Proxy
