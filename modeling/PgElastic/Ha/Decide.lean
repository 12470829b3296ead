import Mathlib.Data.List.Sort
import Mathlib.Data.Prod.Lex

/-!
# The failover decision

One reconcile's decision about a failover, from what the members report, what the kubelet says of
their Pods, and the status fields.  The operator names a member in `targetPrimary` and promotes
nobody.  Members have names from a linear order; the messages of a decision, the audit records of
the quorum gate and of the ranking, and the requeue times are left out.
-/

namespace PgElastic.Ha

open List

variable {N : Type} [LinearOrder N]

structure Member (N : Type) where
  name : N
  timeline : Nat := 1
  receivedLSN : Nat := 0
  replayLSN : Nat := 0
  inRecovery : Bool := true
  statusReachable : Bool := true
  podReady : Bool := true
  walReceiverActive : Bool := false
  walVolumeFull : Bool := false

/-- What the primary read out of its own postmaster. -/
structure Evidence (N : Type) where
  synchronousStandbyNames : String
  numSync : Int
  votingMembers : List N
  streamingMembers : List N
  observedAt : Option Nat

/-- The value of `targetPrimary`: the sentinel of phase one or a member. -/
inductive Target (N : Type)
  | pending
  | named (name : N)
  deriving DecidableEq

/-- Another member than the primary is named. -/
def Target.leaves (primary : N) : Target N → Bool
  | .pending => false
  | .named name => decide (name ≠ primary)

inductive Phase
  | steady
  | debouncing
  | sentinel
  | waitingWALReceivers
  | candidateChosen
  | vetoed
  | splitBrain
  | promoting
  | plannedSwitchover
  deriving DecidableEq

inductive Veto
  | operatorIsolated
  | primaryUnobservable
  | candidateNotReady
  | candidateWALVolumeFull
  deriving DecidableEq

/-- The whole input to one decision. -/
structure Observation (N : Type) where
  members : List (Member N)
  currentPrimary : Option N
  targetPrimary : Option (Target N)
  evidence : Evidence N
  failingSince : Option Nat
  failoverDelay : Nat
  quorumGateEnabled : Bool
  maintenance : List N
  now : Nat

structure Decision (N : Type) where
  phase : Phase
  /-- `none` leaves the field as it is. -/
  targetPrimary : Option (Target N) := none
  demoteMember : Option N := none
  servingPrimary : Option N := none
  setFailingSince : Option Nat := none
  clearFailingSince : Bool := false
  veto : Option Veto := none
  splitBrain : Bool := false

/-! ### The quorum gate -/

/-- Five minutes, in nanoseconds. -/
def maxEvidenceAge : Nat := 300000000000

inductive QuorumVerdict
  | evidenceMissing
  | evidenceStale
  | notProven
  | proven
  deriving DecidableEq

/-- `R + W > N` over the loaded clause. -/
def evaluateQuorum (evidence : Evidence N) (reachable : List N) (reference : Nat) :
    QuorumVerdict :=
  if evidence.votingMembers = [] ∨ evidence.numSync ≤ 0 ∨
      evidence.synchronousStandbyNames = "" then .evidenceMissing
  else if evidence.observedAt.all fun observed => decide (observed + maxEvidenceAge < reference)
    then .evidenceStale
  else if ((evidence.votingMembers.filter (· ∈ reachable)).length : Int) + evidence.numSync >
      evidence.votingMembers.length then .proven
  else .notProven

/-! ### The candidate -/

inductive Disqualification
  | isPrimary
  | underMaintenance
  | unreachable
  | outOfRecovery
  | behindTimeline
  | notInSyncSet
  | noReceiverAtDetection
  deriving DecidableEq

/-- Out of recovery, as far as the operator can see. -/
def Member.leads (m : Member N) : Bool := m.statusReachable && !m.inRecovery

/-- The order of promotion: timeline, received position and replayed position from the highest
down, and the name. -/
def Member.rank (m : Member N) : ℕᵒᵈ ×ₗ ℕᵒᵈ ×ₗ ℕᵒᵈ ×ₗ N :=
  toLex (.toDual m.timeline, toLex (.toDual m.receivedLSN, toLex (.toDual m.replayLSN, m.name)))

namespace Observation

/-- The highest timeline of a reachable member. -/
def lastKnownTimeline (o : Observation N) : Nat :=
  ((o.members.filter (·.statusReachable)).map (·.timeline)).max?.getD 0

def disqualify (o : Observation N) (maintenance : List N) (m : Member N) :
    Option Disqualification :=
  if o.currentPrimary = some m.name then some .isPrimary
  else if m.name ∈ maintenance then some .underMaintenance
  else if !m.statusReachable then some .unreachable
  else if !m.inRecovery then some .outOfRecovery
  else if m.timeline < o.lastKnownTimeline then some .behindTimeline
  else if m.name ∉ o.evidence.votingMembers then some .notInSyncSet
  else if m.name ∉ o.evidence.streamingMembers then some .noReceiverAtDetection
  else none

def ranked (o : Observation N) (maintenance : List N) : List (Member N) :=
  (o.members.filter fun m => (o.disqualify maintenance m).isNone).insertionSort
    fun a b => a.rank ≤ b.rank

def selectCandidate (o : Observation N) (maintenance : List N) : Option N :=
  (o.ranked maintenance).head?.map (·.name)

/-! ### The state machine -/

def memberNamed (o : Observation N) (name : N) : Option (Member N) :=
  o.members.find? fun m => m.name = name

def reachableMembers (o : Observation N) : List N :=
  (o.members.filter (·.statusReachable)).map (·.name)

/-- The gate, the ranking and the last two vetoes, which a failover and a planned switchover have
in common. -/
def elect (o : Observation N) (reference : Nat) (maintenance : List N) (chosen : Phase) :
    Decision N :=
  if o.quorumGateEnabled ∧ evaluateQuorum o.evidence o.reachableMembers reference ≠ .proven then
    { phase := .vetoed }
  else
    match o.selectCandidate maintenance with
    | none => { phase := .vetoed }
    | some name =>
      if (o.memberNamed name).any (·.walVolumeFull) then
        { phase := .vetoed, veto := some .candidateWALVolumeFull }
      else if !(o.memberNamed name).any (·.podReady) then
        { phase := .vetoed, veto := some .candidateNotReady }
      else { phase := chosen, targetPrimary := some (.named name) }

/-- The primary is alive, so its evidence is measured against now and no receiver is waited
for. -/
def plannedSwitchover (o : Observation N) : Decision N :=
  o.elect o.now o.maintenance .plannedSwitchover

def receiversStillUp (o : Observation N) : Bool :=
  o.members.any fun m =>
    decide (o.currentPrimary ≠ some m.name) && m.statusReachable && m.walReceiverActive

/-- Phase two. -/
def chooseCandidate (o : Observation N) : Decision N :=
  if o.receiversStillUp then { phase := .waitingWALReceivers }
  else o.elect (o.failingSince.getD o.now) [] .candidateChosen

/-- The debounce and then the two phases. -/
def failing (o : Observation N) : Decision N :=
  match o.failingSince with
  | none => { phase := .debouncing, setFailingSince := some o.now }
  | some since =>
    if o.now < since + o.failoverDelay then { phase := .debouncing }
    else if o.targetPrimary ≠ some .pending then
      { phase := .sentinel, targetPrimary := some .pending, demoteMember := o.currentPrimary }
    else o.chooseCandidate

def underMaintenance (o : Observation N) : Bool := o.currentPrimary.any (· ∈ o.maintenance)

def healthyPrimary (o : Observation N) (primary : N) : Decision N :=
  if o.underMaintenance then
    { o.plannedSwitchover with clearFailingSince := o.failingSince.isSome }
  else
    { phase := .steady
      clearFailingSince := o.failingSince.isSome
      targetPrimary :=
        if o.targetPrimary = some (.named primary) then none else some (.named primary) }

/-- Two members out of recovery at once. -/
def splitBrain (o : Observation N) : Bool := decide (2 ≤ (o.members.filter Member.leads).length)

/-- No member the kubelet calls ready answers. -/
def operatorIsolated (o : Observation N) : Bool :=
  o.members.any (·.podReady) && !o.members.any fun m => m.podReady && m.statusReachable

/-- A member other than the primary has been told to promote. -/
def awaitsPromotion (o : Observation N) (primary : N) : Bool :=
  match o.targetPrimary with
  | some (.named target) =>
    (Target.named target).leaves primary && (o.memberNamed target).isSome
  | _ => false

/-- The current primary answers and is out of recovery. -/
def healthy (o : Observation N) : Bool :=
  o.currentPrimary.any fun primary => (o.memberNamed primary).any Member.leads

/-- The kubelet calls the primary ready and its status endpoint fails. -/
def unobservable (o : Observation N) : Bool :=
  o.currentPrimary.any fun primary =>
    (o.memberNamed primary).any fun m => m.podReady && !m.statusReachable

def decide (o : Observation N) : Decision N :=
  if o.splitBrain then { phase := .splitBrain, splitBrain := true }
  else
    match o.currentPrimary with
    | none => { phase := .steady }
    | some primary =>
      if o.operatorIsolated then { phase := .vetoed, veto := some .operatorIsolated }
      else if o.awaitsPromotion primary then { phase := .promoting }
      else if o.healthy then o.healthyPrimary primary
      else if o.unobservable then { phase := .vetoed, veto := some .primaryUnobservable }
      else o.failing

/-- The member the read-write Service may select.  Under two of the vetoes the operator cannot see
the member, which is not a demoted one. -/
def servingPrimary (o : Observation N) (d : Decision N) : Option N :=
  o.currentPrimary.filter fun primary =>
    !(d.splitBrain || Decidable.decide (d.demoteMember = some primary) ||
      (d.targetPrimary.or o.targetPrimary).any (Target.leaves primary)) &&
    (d.veto == some .operatorIsolated || d.veto == some .primaryUnobservable || o.healthy)

/-- `Decide`: the decision with the member that may serve. -/
def decision (o : Observation N) : Decision N :=
  { o.decide with servingPrimary := o.servingPrimary o.decide }

/-! ### What a decision can be -/

variable {o : Observation N} {m : Member N} {name : N} {maintenance : List N}

lemma disqualify_eq_none : o.disqualify maintenance m = none ↔
    o.currentPrimary ≠ some m.name ∧ m.name ∉ maintenance ∧ m.statusReachable ∧
      m.inRecovery ∧ o.lastKnownTimeline ≤ m.timeline ∧
      m.name ∈ o.evidence.votingMembers ∧ m.name ∈ o.evidence.streamingMembers := by
  unfold disqualify
  split_ifs <;> simp_all

/-- The candidate is eligible, and no eligible member ranks before it. -/
lemma selectCandidate_spec (h : o.selectCandidate maintenance = some name) :
    ∃ m ∈ o.members, m.name = name ∧ o.disqualify maintenance m = none ∧
      ∀ other ∈ o.members, o.disqualify maintenance other = none → m.rank ≤ other.rank := by
  have hmem : ∀ m, m ∈ o.ranked maintenance ↔
      m ∈ o.members ∧ o.disqualify maintenance m = none := by
    simp [ranked]
  have hsorted : (o.ranked maintenance).Pairwise fun a b => a.rank ≤ b.rank :=
    pairwise_insertionSort _ _
  obtain ⟨m, hfirst, rfl⟩ := Option.map_eq_some_iff.mp h
  obtain ⟨rest, hranked⟩ := head?_eq_some_iff.mp hfirst
  rw [hranked] at hmem hsorted
  obtain ⟨hm, hnone⟩ := (hmem m).mp mem_cons_self
  refine ⟨m, hm, rfl, hnone, ?_⟩
  intro other hother hnone'
  rcases mem_cons.mp ((hmem other).mpr ⟨hother, hnone'⟩) with rfl | hrest
  · exact le_refl _
  · exact (pairwise_cons.mp hsorted).1 other hrest

/-- The election names the candidate past the gate, or nobody. -/
lemma elect_cases (o : Observation N) (reference : Nat) (maintenance : List N) (chosen : Phase) :
    (∃ veto, veto ≠ some .operatorIsolated ∧ veto ≠ some .primaryUnobservable ∧
      o.elect reference maintenance chosen = { phase := .vetoed, veto := veto }) ∨
    ∃ name, o.selectCandidate maintenance = some name ∧ (o.quorumGateEnabled →
        evaluateQuorum o.evidence o.reachableMembers reference = .proven) ∧
      o.elect reference maintenance chosen =
        { phase := chosen, targetPrimary := some (.named name) } := by
  unfold elect
  split
  · exact .inl ⟨none, by simp, by simp, rfl⟩
  rename_i hgate
  split
  · exact .inl ⟨none, by simp, by simp, rfl⟩
  rename_i name hname
  split_ifs
  · exact .inl ⟨_, by simp, by simp, rfl⟩
  · exact .inl ⟨_, by simp, by simp, rfl⟩
  · refine .inr ⟨name, hname, fun henabled => ?_, rfl⟩
    by_contra hunproven
    exact hgate ⟨henabled, hunproven⟩

/-- What an unhealthy primary comes to. -/
inductive Failing (o : Observation N) : Decision N → Prop
  | noticed (hsince : o.failingSince = none) :
      Failing o { phase := .debouncing, setFailingSince := some o.now }
  | waits (phase : Phase) (veto : Option Veto) (hphase : phase ≠ .candidateChosen)
      (hisolated : veto ≠ some .operatorIsolated) (hseen : veto ≠ some .primaryUnobservable) :
      Failing o { phase := phase, veto := veto }
  | sentinel (since : Nat) (hsince : o.failingSince = some since)
      (helapsed : since + o.failoverDelay ≤ o.now) (htarget : o.targetPrimary ≠ some .pending) :
      Failing o
        { phase := .sentinel, targetPrimary := some .pending, demoteMember := o.currentPrimary }
  | chosen (name : N) (htarget : o.targetPrimary = some .pending)
      (hname : o.selectCandidate [] = some name)
      (hgate : o.quorumGateEnabled = true →
        evaluateQuorum o.evidence o.reachableMembers (o.failingSince.getD o.now) = .proven) :
      Failing o { phase := .candidateChosen, targetPrimary := some (.named name) }

lemma failing_cases (o : Observation N) : Failing o o.failing := by
  unfold failing
  split
  · next hsince => exact .noticed hsince
  next since hsince =>
  split_ifs with hearly htarget
  · exact .waits _ _ (by simp) (by simp) (by simp)
  · exact .sentinel since hsince (not_lt.mp hearly) htarget
  unfold chooseCandidate
  split
  · exact .waits _ _ (by simp) (by simp) (by simp)
  rcases o.elect_cases (o.failingSince.getD o.now) [] .candidateChosen with
    ⟨veto, hisolated, hseen, heq⟩ | ⟨name, hname, hgate, heq⟩
  · exact heq ▸ .waits _ veto (by simp) hisolated hseen
  · exact heq ▸ .chosen name (not_not.mp htarget) hname hgate

/-- What the state machine can decide. -/
inductive Decided (o : Observation N) : Decision N → Prop
  | frozen : Decided o { phase := .splitBrain, splitBrain := true }
  | unelected (hcurrent : o.currentPrimary = none) : Decided o { phase := .steady }
  | isolated (hisolated : o.operatorIsolated = true) :
      Decided o { phase := .vetoed, veto := some .operatorIsolated }
  | promoting (primary : N) (hawaits : o.awaitsPromotion primary = true) :
      Decided o { phase := .promoting }
  | healthy (primary : N) (hsingle : o.splitBrain = false)
      (hcurrent : o.currentPrimary = some primary) (hhealthy : o.healthy = true) :
      Decided o (o.healthyPrimary primary)
  | unobservable (hunseen : o.unobservable = true) :
      Decided o { phase := .vetoed, veto := some .primaryUnobservable }
  | failing (primary : N) (d : Decision N) (hcurrent : o.currentPrimary = some primary)
      (hunhealthy : o.healthy = false) (hfailing : Failing o d) : Decided o d

lemma decide_cases (o : Observation N) : Decided o o.decide := by
  unfold decide
  split
  · exact .frozen
  next hsingle =>
  split
  · next hcurrent => exact .unelected hcurrent
  next primary hcurrent =>
  split_ifs with hisolated hawaits hhealthy hunseen
  · exact .isolated hisolated
  · exact .promoting primary hawaits
  · exact .healthy primary (Bool.eq_false_iff.mpr hsingle) hcurrent hhealthy
  · exact .unobservable hunseen
  · exact .failing primary _ hcurrent (Bool.eq_false_iff.mpr hhealthy) o.failing_cases

/-! ### One primary at a time -/

/-- Three members, the first of which is the current primary and the others its voters. -/
def trio (members : List (Member Nat)) (target : Target Nat) (failingSince : Option Nat)
    (maintenance : List Nat) : Observation Nat where
  members := members
  currentPrimary := some 0
  targetPrimary := some target
  evidence := ⟨"ANY 1 (1, 2)", 1, [1, 2], [1, 2], some 0⟩
  failingSince := failingSince
  failoverDelay := 10
  quorumGateEnabled := true
  maintenance := maintenance
  now := 100

end Observation

/-! ## What a member does at start-up -/

inductive StartupReason
  | alreadyConsistent
  | followDesignatedPrimary
  | supersededByTarget
  | supersededByLease
  | supersededByPrimary
  deriving DecidableEq

/-- What a member is told to do when it starts: by default, to start unchanged. -/
structure StartupAction (N : Type) where
  follow : Option N := none
  rejoin : Bool := false
  reason : StartupReason := .alreadyConsistent
  deriving DecidableEq

/-- The member's decision from its own data directory and the instance's three fields. -/
def startupDecision (self : N) (inRecovery : Bool) (currentPrimary : Option N)
    (targetPrimary : Option (Target N)) (leaseHolder : Option N) : StartupAction N :=
  let designated :=
    match targetPrimary with
    | some (.named name) => some name
    | _ => currentPrimary
  let follows (member : Option N) (reason : StartupReason) : StartupAction N :=
    { follow := member, rejoin := true, reason }
  if inRecovery then
    if designated = none ∨ designated = some self then {}
    else { follow := designated, reason := .followDesignatedPrimary }
  else if targetPrimary = some (.named self) ∨ leaseHolder = some self then {}
  else match targetPrimary, leaseHolder with
    | some (.named name), _ => follows (some name) .supersededByTarget
    | _, some holder => follows (some holder) .supersededByLease
    | some .pending, none => {}
    | none, none =>
      if currentPrimary ≠ none ∧ currentPrimary ≠ some self then
        follows currentPrimary .supersededByPrimary
      else {}

/-- Out of recovery, a member starts unchanged under a field that names it, or while the failover has
chosen nobody and the Lease has no holder. -/
lemma startupDecision_unchanged {self current : N} {target : Option (Target N)}
    {leaseHolder : Option N} :
    (startupDecision self false (some current) target leaseHolder).reason = .alreadyConsistent ↔
    target = some (.named self) ∨ leaseHolder = some self ∨
      target = some .pending ∧ leaseHolder = none ∨
      target = none ∧ leaseHolder = none ∧ current = self := by
  by_cases hself : target = some (.named self) ∨ leaseHolder = some self
  · simp only [startupDecision, if_pos hself]
    tauto
  · rcases target with - | - | name <;> rcases leaseHolder with - | holder <;>
      simp_all [startupDecision]
    split_ifs <;> simp_all

/-- **At most one member starts as a primary**, and never one beside the target, exactly where no
other member than the target holds the Lease, and the Lease is held while the failover has chosen
nobody. -/
theorem startup_single_primary [Nontrivial N] (current : N) (target : Option (Target N))
    (leaseHolder : Option N) :
    let unchanged (self : N) :=
      (startupDecision self false (some current) target leaseHolder).reason = .alreadyConsistent
    ((∀ first second, first ≠ second → ¬(unchanged first ∧ unchanged second)) ∧
      ∀ self name, target = some (.named name) → name ≠ self → ¬unchanged self) ↔
    (∀ name holder, target = some (.named name) → leaseHolder = some holder → holder = name) ∧
      (target = some .pending → leaseHolder ≠ none) := by
  intro unchanged
  constructor
  · rintro ⟨hone, htarget⟩
    refine ⟨fun name holder hname hholder => ?_, fun hpending hfree => ?_⟩
    · by_contra hother
      exact htarget holder name hname (Ne.symm hother)
        (startupDecision_unchanged.mpr (.inr (.inl hholder)))
    · obtain ⟨first, second, hne⟩ := exists_pair_ne N
      have hall (self : N) : unchanged self :=
        startupDecision_unchanged.mpr (.inr (.inr (.inl ⟨hpending, hfree⟩)))
      exact hone first second hne ⟨hall first, hall second⟩
  · rintro ⟨htarget, hpending⟩
    refine ⟨fun first second hne hboth => hne ?_, fun self name hname hne h => ?_⟩
    · have := startupDecision_unchanged.mp hboth.1
      have := startupDecision_unchanged.mp hboth.2
      grind
    · have := startupDecision_unchanged.mp h
      grind

theorem startup_single_primary_target_holds :
    (startupDecision 2 false (some 2) (some (.named 1)) (some 1)).reason ≠ .alreadyConsistent :=
  ((startup_single_primary 2 (some (.named 1)) (some 1)).mpr ⟨by simp, by simp⟩).2 2 1 rfl
    (by decide)

/-- The operator named member 1 while member 2 still holds the Lease: both start unchanged. -/
theorem startup_target_beside_leaseHolder :
    let decision (self : Nat) := startupDecision self false (some 2) (some (.named 1)) (some 2)
    (decision 1).reason = .alreadyConsistent ∧ (decision 2).reason = .alreadyConsistent := by
  decide

end PgElastic.Ha
