import PgElastic.Library.OrderedMap
import PgElastic.Library.Transition

/-!
# What the agent has its postmaster load

The observe passes and the promotion each read, rewrite the configuration files whole and reload.
A clause computed from an older reading takes out members that have been loaded since, and an
attempt that is entered again writes its clause with the epoch of the configuration document, below
the one an earlier attempt has had loaded.
-/

namespace PgElastic.Agent

open Library List System

variable {M : Type} [DecidableEq M]

/-- `pgelastic.primary_epoch`, and the members `synchronous_standby_names` names. -/
structure Settings (M : Type) where
  epoch : Nat
  clause : List M

/-- How far `Promote` is after its lease; `publishEpoch` reads `override.conf`, writes and reloads. -/
inductive Stage (M : Type)
  | held
  | outOfRecovery
  | written
  | reloaded
  | read (clause : List M)
  | published

/-- How far an observe pass is: a primary has read its postmaster, a standby that is repointed has
read `override.conf`; both render the epoch and the clause before they write them. -/
inductive Observing (M : Type)
  | idle
  | observed (voting streaming : List M)
  | following (clause : List M)
  | rendered (settings : Settings M)
  | written

/-- The agent of one member under `dataDurability` `Required`; `document` is the epoch of the
configuration document, and a promotion has that of its lease. -/
structure Supervisor (M : Type) where
  document : Nat
  member : M
  memberNames : List M
  inRecovery : Bool
  promotedEpoch : Nat
  files : Settings M
  loaded : Settings M
  promotion : Option (Nat × Stage M)
  observing : Observing M

inductive Action (M : Type)
  | acquire (epoch : Nat)
  | promote
  | refusePromotion
  | observe (streaming : List M)
  | follow
  | converge
  | giveUp
  | restart

def convergeSyncMembers (loaded streaming members : List M) (required : Bool) : List M :=
  members.filter fun member => member ∈ streaming || required && member ∈ loaded

namespace Supervisor

def promotionStandbys (s : Supervisor M) : List M := s.memberNames.filter (· ≠ s.member)

def publishedEpoch (s : Supervisor M) : Nat := max s.promotedEpoch s.document

def reload (s : Supervisor M) : Supervisor M := { s with loaded := s.files }

def promote (s : Supervisor M) : Supervisor M :=
  match s.promotion with
  | none => s
  | some (epoch, .held) => { s with inRecovery := false, promotion := some (epoch, .outOfRecovery) }
  -- The clause goes out with the epoch of the configuration document.
  | some (epoch, .outOfRecovery) =>
    { s with files := ⟨s.document, s.promotionStandbys⟩, promotion := some (epoch, .written) }
  | some (epoch, .written) => { s.reload with promotion := some (epoch, .reloaded) }
  | some (epoch, .reloaded) => { s with promotion := some (epoch, .read s.files.clause) }
  | some (epoch, .read clause) =>
    { s with files := ⟨epoch, clause⟩, promotion := some (epoch, .published) }
  | some (_, .published) => { s.reload with promotion := none }

def converge (s : Supervisor M) : Supervisor M :=
  match s.observing with
  | .idle => s
  | .observed voting streaming =>
    let desired := convergeSyncMembers voting streaming s.memberNames true
    if desired = voting then { s with observing := .idle }
    else { s with observing := .rendered ⟨s.publishedEpoch, desired⟩ }
  | .following clause => { s with observing := .rendered ⟨s.publishedEpoch, clause⟩ }
  | .rendered settings => { s with files := settings, observing := .written }
  | .written => { s.reload with observing := .idle }

def next (s : Supervisor M) : Action M → Supervisor M
  | .acquire epoch =>
    if s.promotion.isSome then s
    else { s with promotion := some (epoch, .held), promotedEpoch := max s.promotedEpoch epoch }
  | .promote => s.promote
  | .refusePromotion => { s with promotion := none }
  | .observe streaming =>
    match s.observing, s.inRecovery with
    | .idle, false => { s with observing := .observed s.loaded.clause streaming }
    | _, _ => s
  | .follow =>
    match s.observing with
    | .idle => { s with observing := .following s.files.clause }
    | _ => s
  | .converge => s.converge
  | .giveUp => { s with observing := .idle }
  | .restart => reload { s with files := ⟨s.publishedEpoch, s.files.clause⟩ }

end Supervisor

open Supervisor

/-- The runs of an agent process from the first start of its postmaster on. -/
def agent (M : Type) [DecidableEq M] : System (Supervisor M) (Action M) where
  init s := s.files = s.loaded ∧ s.files.epoch = s.document ∧ s.promotedEpoch = 0 ∧
    s.promotion = none ∧ s.observing = .idle
  step s action s' := s.next action = s'

variable {s : Supervisor M} {action : Action M}

/-- A step has nothing loaded or what stands on the files; a restart puts the epoch the agent
publishes there first. -/
lemma loaded_next (s : Supervisor M) (action : Action M) :
    (s.next action).loaded = s.loaded ∨ (s.next action).loaded = s.files ∨
      (s.next action).loaded = ⟨s.publishedEpoch, s.files.clause⟩ := by
  cases action with
  | promote =>
    rw [Supervisor.next, promote]
    split <;> first | exact .inl rfl | exact .inr (.inl rfl)
  | converge =>
    rw [Supervisor.next, converge]
    split
    · exact .inl rfl
    · left
      dsimp only
      split <;> rfl
    · exact .inl rfl
    · exact .inl rfl
    · exact .inr (.inl rfl)
  | restart => exact .inr (.inr rfl)
  | acquire | observe | follow =>
    left
    rw [Supervisor.next]
    split <;> rfl
  | refusePromotion | giveUp => exact .inl rfl

/-- Member 1 of four, with member 2 in its clause. -/
def oneOfFour (inRecovery : Bool) : Supervisor Nat :=
  ⟨0, 1, [1, 2, 3, 4], inRecovery, 0, ⟨0, [2]⟩, ⟨0, [2]⟩, none, .idle⟩

lemma init_oneOfFour (inRecovery : Bool) : (agent Nat).init (oneOfFour inRecovery) :=
  ⟨rfl, rfl, rfl, rfl, rfl⟩

lemma reachable_next {allowed : Supervisor M → Action M → Prop} (action : Action M)
    (h : ((agent M).restrict allowed).Reachable s) (hallowed : allowed s action) :
    ((agent M).restrict allowed).Reachable (s.next action) :=
  .step h ⟨hallowed, rfl⟩

/-! ### The clause -/

/-- What is loaded is on the files and covered by every reading a write is still to come from. -/
structure Covered (s : Supervisor M) : Prop where
  files : ∀ m ∈ s.loaded.clause, m ∈ s.memberNames → m ∈ s.files.clause
  observed : ∀ voting streaming, s.observing = .observed voting streaming → voting = s.loaded.clause
  following : ∀ clause, s.observing = .following clause → clause = s.files.clause
  rendered : ∀ settings, s.observing = .rendered settings →
    ∀ m ∈ s.loaded.clause, m ∈ s.memberNames → m ∈ settings.clause
  read : ∀ epoch clause, s.promotion = some (epoch, .read clause) → clause = s.files.clause

/-- Between the reading and the write of a pass there is no step of a promotion and no restart, a
pass takes no step between the reading and the write of `publishEpoch`, and the clause loaded when
`Promote` writes its own does not name the member. -/
def Apart (s : Supervisor M) : Action M → Prop
  | .promote => (s.observing = .idle ∨ s.observing = .written) ∧
      ∀ epoch, s.promotion = some (epoch, .outOfRecovery) → s.member ∉ s.loaded.clause
  | .restart => s.observing = .idle ∨ s.observing = .written
  | .converge => ∀ epoch clause, s.promotion ≠ some (epoch, .read clause)
  | _ => True

omit [DecidableEq M] in
/-- A pass that is idle or has written is between no reading and its write. -/
lemma unread_of_quiet (h : s.observing = .idle ∨ s.observing = .written) :
    (∀ voting streaming, s.observing ≠ .observed voting streaming) ∧
      (∀ clause, s.observing ≠ .following clause) ∧ ∀ settings, s.observing ≠ .rendered settings := by
  rcases h with h | h <;> simp [h]

lemma Covered.promote (h : Covered s) (hapart : Apart s .promote) : Covered s.promote := by
  obtain ⟨hfiles, hobserved, hfollowing, hrendered, hread⟩ := h
  obtain ⟨hpass, hmember⟩ := hapart
  obtain ⟨hobserves, hfollows, hrenders⟩ := unread_of_quiet hpass
  rcases hp : s.promotion with _ | ⟨epoch, stage⟩
  · simp only [Supervisor.promote, hp]
    exact ⟨hfiles, hobserved, hfollowing, hrendered, hread⟩
  cases stage with
  | held =>
    simp only [Supervisor.promote, hp]
    exact ⟨hfiles, hobserved, hfollowing, hrendered, nofun⟩
  | outOfRecovery =>
    simp only [Supervisor.promote, hp]
    refine ⟨fun m hm hallowed => mem_filter.mpr ⟨hallowed, ?_⟩, hobserved,
      fun clause heq => absurd heq (hfollows clause), hrendered, nofun⟩
    have hother : m ≠ s.member := fun heq => hmember epoch hp (heq ▸ hm)
    simpa using hother
  | written | published =>
    simp only [Supervisor.promote, hp]
    exact ⟨fun _ hm _ => hm, fun voting streaming heq => absurd heq (hobserves voting streaming),
      hfollowing, fun settings heq => absurd heq (hrenders settings), nofun⟩
  | reloaded =>
    simp only [Supervisor.promote, hp]
    refine ⟨hfiles, hobserved, hfollowing, hrendered, ?_⟩
    rintro _ _ ⟨⟩
    rfl
  | read clause =>
    -- what is written is the clause read before, and no pass has written since
    obtain rfl := hread epoch clause hp
    simp only [Supervisor.promote, hp]
    exact ⟨hfiles, hobserved, hfollowing, hrendered, nofun⟩

lemma Covered.converge (h : Covered s) (hapart : Apart s .converge) : Covered s.converge := by
  obtain ⟨hfiles, hobserved, hfollowing, hrendered, hread⟩ := h
  cases ho : s.observing with
  | idle =>
    simp only [Supervisor.converge, ho]
    exact ⟨hfiles, hobserved, hfollowing, hrendered, hread⟩
  | observed voting streaming =>
    simp only [Supervisor.converge, ho]
    split
    · exact ⟨hfiles, nofun, nofun, nofun, hread⟩
    · refine ⟨hfiles, nofun, nofun, ?_, hread⟩
      rintro _ ⟨⟩ m hm hallowed
      -- a member that was loaded when the pass read is kept
      obtain rfl := hobserved voting streaming ho
      exact mem_filter.mpr ⟨hallowed, by simpa using .inr hm⟩
  | following clause =>
    simp only [Supervisor.converge, ho]
    refine ⟨hfiles, nofun, nofun, ?_, hread⟩
    rintro _ ⟨⟩ m hm hallowed
    exact hfollowing clause ho ▸ hfiles m hm hallowed
  | rendered settings =>
    simp only [Supervisor.converge, ho]
    exact ⟨hrendered settings ho, nofun, nofun, nofun,
      fun epoch clause heq => absurd heq (hapart epoch clause)⟩
  | written =>
    simp only [Supervisor.converge, ho]
    exact ⟨fun _ hm _ => hm, nofun, nofun, nofun, hread⟩

lemma Covered.next (h : Covered s) (hapart : Apart s action) : Covered (s.next action) := by
  cases action with
  | promote => exact h.promote hapart
  | converge => exact h.converge hapart
  | acquire epoch =>
    rw [Supervisor.next]
    split
    · exact h
    · exact ⟨h.files, h.observed, h.following, h.rendered, nofun⟩
  | refusePromotion => exact ⟨h.files, h.observed, h.following, h.rendered, nofun⟩
  | observe streaming =>
    rw [Supervisor.next]
    split
    · refine ⟨h.files, ?_, nofun, nofun, h.read⟩
      rintro _ _ ⟨⟩
      rfl
    · exact h
  | follow =>
    rw [Supervisor.next]
    split
    · refine ⟨h.files, nofun, ?_, nofun, h.read⟩
      rintro _ ⟨⟩
      rfl
    · exact h
  | giveUp => exact ⟨h.files, nofun, nofun, nofun, h.read⟩
  | restart =>
    obtain ⟨hobserves, -, hrenders⟩ := unread_of_quiet hapart
    exact ⟨fun _ hm _ => hm, fun voting streaming heq => absurd heq (hobserves voting streaming),
      h.following, fun settings heq => absurd heq (hrenders settings), h.read⟩

/-- While passes and promotions keep apart, no step takes a member the instance may have out of the
loaded clause. -/
theorem reload_keeps_the_clause {m : M} (h : ((agent M).restrict Apart).Reachable s)
    (action : Action M) (hm : m ∈ s.loaded.clause) (hallowed : m ∈ s.memberNames) :
    m ∈ (s.next action).loaded.clause := by
  have hcovered : Covered s := by
    refine h.invariant ?_ ?_
    · rintro s ⟨hfiles, -, -, hpromotion, hobserving⟩
      constructor <;> simp_all
    · rintro s action _ - hcovered ⟨hapart, rfl⟩
      exact hcovered.next hapart
  have hfiles := hcovered.files m hm hallowed
  rcases loaded_next s action with hloaded | hloaded | hloaded <;> rw [hloaded]
  · exact hm
  · exact hfiles
  · exact hfiles

theorem reload_keeps_the_clause_grown :
    ∃ s, ((agent Nat).restrict Apart).Reachable s ∧ s.loaded.clause = [2] ∧
      (s.next .converge).loaded.clause = [2, 3] ∧ 2 ∈ (s.next .converge).loaded.clause := by
  have hwritten : ((agent Nat).restrict Apart).Reachable
      ((((oneOfFour false).next (.observe [3])).next .converge).next .converge) :=
    reachable_next _ (reachable_next _ (reachable_next _ (.init (init_oneOfFour false)) trivial)
      nofun) nofun
  exact ⟨_, hwritten, rfl, by decide,
    reload_keeps_the_clause hwritten .converge (by decide) (by decide)⟩

/-- A pass that has read the postmaster before the promotion reloads takes member 4 out again. -/
theorem stale_pass_shrinks_the_clause : ∃ s, (agent Nat).Reachable s ∧ s.inRecovery = false ∧
    4 ∈ s.loaded.clause ∧ 4 ∈ s.memberNames ∧ 4 ∉ (s.next .converge).loaded.clause :=
  ⟨_, reachable_of_run (fun _ _ _ _ heq => Option.some.inj heq) (.init (init_oneOfFour true))
    (show run (fun s action => some (Supervisor.next s action)) _
      [.acquire 1, .promote, .observe [3], .promote, .promote, .converge, .converge] = _ from rfl),
    by decide, by decide, by decide, by decide⟩

/-! ### The epoch -/

/-- The loaded epoch is at most the one on the files, and that at most the one a pass renders, which
is the one of a promotion under way. -/
structure Ordered (s : Supervisor M) : Prop where
  loaded : s.loaded.epoch ≤ s.files.epoch
  files : s.files.epoch ≤ s.publishedEpoch
  rendered : ∀ settings, s.observing = .rendered settings → settings.epoch = s.publishedEpoch
  lease : ∀ epoch stage, s.promotion = some (epoch, stage) → s.publishedEpoch = epoch

/-- A lease gives an epoch no lower than any before and than the document's, and is not acquired
between the rendering and the write of a pass; when `Promote` writes its clause no epoch above the
document's is loaded. -/
def Fresh (s : Supervisor M) : Action M → Prop
  | .acquire epoch =>
    s.publishedEpoch ≤ epoch ∧ ∀ settings, s.observing ≠ .rendered settings
  | .promote => ∀ epoch, s.promotion = some (epoch, .outOfRecovery) → s.loaded.epoch ≤ s.document
  | _ => True

lemma Ordered.promote (h : Ordered s) (hfresh : Fresh s .promote) : Ordered s.promote := by
  obtain ⟨hloaded, hfiles, hrendered, hlease⟩ := h
  rcases hp : s.promotion with _ | ⟨epoch, stage⟩
  · simp only [Supervisor.promote, hp]
    exact ⟨hloaded, hfiles, hrendered, hlease⟩
  have hepoch := hlease epoch stage hp
  have hstage : ∀ stage' e (later : Stage M), some (epoch, stage') = some (e, later) →
      s.publishedEpoch = e := by
    rintro stage' _ _ ⟨⟩
    exact hepoch
  cases stage with
  | held | reloaded =>
    simp only [Supervisor.promote, hp]
    exact ⟨hloaded, hfiles, hrendered, hstage _⟩
  | outOfRecovery =>
    simp only [Supervisor.promote, hp]
    exact ⟨hfresh epoch hp, le_max_right _ _, hrendered, hstage _⟩
  | written =>
    simp only [Supervisor.promote, hp]
    exact ⟨le_rfl, hfiles, hrendered, hstage _⟩
  | read clause =>
    simp only [Supervisor.promote, hp]
    exact ⟨(hloaded.trans hfiles).trans hepoch.le, hepoch.ge, hrendered, hstage _⟩
  | published =>
    simp only [Supervisor.promote, hp]
    exact ⟨le_rfl, hfiles, hrendered, nofun⟩

lemma Ordered.converge (h : Ordered s) : Ordered s.converge := by
  obtain ⟨hloaded, hfiles, hrendered, hlease⟩ := h
  cases ho : s.observing with
  | idle =>
    simp only [Supervisor.converge, ho]
    exact ⟨hloaded, hfiles, hrendered, hlease⟩
  | observed voting streaming =>
    simp only [Supervisor.converge, ho]
    split
    · exact ⟨hloaded, hfiles, nofun, hlease⟩
    · refine ⟨hloaded, hfiles, ?_, hlease⟩
      rintro _ ⟨⟩
      rfl
  | following clause =>
    simp only [Supervisor.converge, ho]
    refine ⟨hloaded, hfiles, ?_, hlease⟩
    rintro _ ⟨⟩
    rfl
  | rendered settings =>
    have hepoch := hrendered settings ho
    simp only [Supervisor.converge, ho]
    exact ⟨(hloaded.trans hfiles).trans hepoch.ge, hepoch.le, nofun, hlease⟩
  | written =>
    simp only [Supervisor.converge, ho]
    exact ⟨le_rfl, hfiles, nofun, hlease⟩

lemma Ordered.next (h : Ordered s) (hfresh : Fresh s action) : Ordered (s.next action) := by
  cases action with
  | promote => exact h.promote hfresh
  | converge => exact h.converge
  | acquire epoch =>
    obtain ⟨hrises, hunrendered⟩ := hfresh
    rw [Supervisor.next]
    split
    · exact h
    -- the lease's epoch is what the agent publishes from now on
    have hmax : max (max s.promotedEpoch epoch) s.document = epoch := by
      unfold publishedEpoch at hrises
      omega
    refine ⟨h.loaded, ?_, fun settings heq => absurd heq (hunrendered settings), ?_⟩
    · exact (h.files.trans hrises).trans hmax.ge
    · rintro _ _ ⟨⟩
      exact hmax
  | refusePromotion => exact ⟨h.loaded, h.files, h.rendered, nofun⟩
  | observe streaming | follow =>
    rw [Supervisor.next]
    split
    · exact ⟨h.loaded, h.files, nofun, h.lease⟩
    · exact h
  | giveUp => exact ⟨h.loaded, h.files, nofun, h.lease⟩
  | restart => exact ⟨le_rfl, le_rfl, h.rendered, h.lease⟩

/-- While leases only rise and no promotion is entered again below what it has had loaded, the
epochs the postmaster loads never decrease. -/
theorem loaded_epoch_never_decreases (h : ((agent M).restrict Fresh).Reachable s)
    (action : Action M) : s.loaded.epoch ≤ (s.next action).loaded.epoch := by
  have hordered : Ordered s := by
    refine h.invariant ?_ ?_
    · rintro s ⟨hfiles, hepoch, hpromoted, hpromotion, hobserving⟩
      constructor <;> simp_all [publishedEpoch]
    · rintro s action _ - hordered ⟨hfresh, rfl⟩
      exact hordered.next hfresh
  rcases loaded_next s action with hnext | hnext | hnext <;> rw [hnext]
  · exact hordered.loaded
  · exact hordered.loaded.trans hordered.files

theorem loaded_epoch_never_decreases_restart : ∃ s, ((agent Nat).restrict Fresh).Reachable s ∧
      s.loaded.epoch ≤ (s.next .restart).loaded.epoch ∧ (s.next .restart).loaded.epoch = 5 := by
  have hacquired : ((agent Nat).restrict Fresh).Reachable ((oneOfFour true).next (.acquire 5)) :=
    reachable_next _ (.init (init_oneOfFour true)) ⟨Nat.zero_le 5, nofun⟩
  exact ⟨_, hacquired, loaded_epoch_never_decreases hacquired .restart, rfl⟩

/-- A promotion that failed after it had published epoch 5 is entered again. -/
theorem second_attempt_lowers_the_epoch : ∃ s, (agent Nat).Reachable s ∧
    s.loaded.epoch = 5 ∧ (s.next .promote).loaded.epoch = 0 :=
  ⟨_, reachable_of_run (fun _ _ _ _ heq => Option.some.inj heq) (.init (init_oneOfFour true))
    (show run (fun s action => some (Supervisor.next s action)) _
      [.acquire 5, .promote, .promote, .promote, .promote, .promote, .promote, .acquire 5, .promote,
        .promote] = _ from rfl), by decide, by decide⟩

end PgElastic.Agent
