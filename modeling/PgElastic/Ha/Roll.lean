import PgElastic.Library.OrderedMap
import PgElastic.Ha.Decide
import PgElastic.Library.Transition

/-!
# Rolling restarts

A roll restarts the members that run an outdated configuration, one per pass.  A standby's Pod is
deleted; the primary's clients are first held at the proxy, and once they have drained it is named
in the maintenance annotation, which makes the failover decision hand the role away.  A later pass
knows of the hold through the published step only.  The reasons and messages of a roll are left
out, and so is how the outstanding members are found and ranked: a pass reads their list.
-/

namespace PgElastic.Ha

open Library Observation

variable {N : Type} [LinearOrder N]

structure Pod (N : Type) where
  name : N
  terminating : Bool := false
  ready : Bool := true

inductive RollStep
  | restarting
  | quiescing
  | switchingOver
  | blocked
  | stalled
  deriving DecidableEq

structure RollStatus (N : Type) where
  member : N
  step : RollStep
  startedAt : Nat

/-- How the proxy answers the request to hold the clients. -/
inductive Hold
  /-- An error; some gates may have stayed closed. -/
  | refused (left : Bool)
  /-- The gates are closed, and the drain status cannot be read. -/
  | unread
  /-- The pool has no proxy. -/
  | headless
  | taken (drained : Bool)

/-- How the proxy answers the request to let the clients go on. -/
inductive Release
  | failed
  | clean
  /-- The request succeeds and a gate stays closed: a renewal under way closes it again before the
  loop is stopped, or a replica that is not ready is not told. -/
  | straggling
  deriving DecidableEq

/-- The instance between two passes.  `held` is the time since which gates are closed for the
roll. -/
structure Instance (N : Type) where
  roll : Option (RollStatus N) := none
  maintenance : List N := []
  held : Option Nat := none
  renewing : Bool := false

/-- What a pass reads, and which of its requests succeed. -/
structure RollPass (N : Type) where
  currentPrimary : Option N
  targetPrimary : Option (Target N) := none
  decision : Decision N := { phase := .steady }
  evidence : Evidence N
  now : Nat
  pods : List (Pod N)
  replicas : Nat
  rejoining : Option N := none
  outstanding : List N
  switchoverTimeout : Nat
  settled : Bool := true
  hold : Hold := .taken true
  resumed : Release := .clean
  released : Release := .clean
  patched : Bool := true
  deleted : Bool := true
  published : Bool := true

/-- A pass that did not fail: the Pod it deleted and the roll to publish. -/
structure Rolled (N : Type) where
  after : Instance N
  roll : Option (RollStatus N)
  deleted : Option N := none

/-- Thirty seconds, in nanoseconds. -/
def rollEvidenceMaxAge : Nat := 30000000000

/-- Ten minutes. -/
def rollStalledBackoff : Nat := 600000000000

namespace Evidence

def writeStalled (e : Evidence N) : Bool :=
  decide (0 < e.numSync ∧ (e.streamingMembers.length : Int) < e.numSync)

def wouldStall (e : Evidence N) (member : N) : Bool :=
  decide (0 < e.numSync ∧ ((e.streamingMembers.filter (· != member)).length : Int) < e.numSync)

def stale (e : Evidence N) (now maxAge : Nat) : Bool :=
  e.observedAt.all fun observed => decide (observed + maxAge < now)

end Evidence

/-- The published step is one that holds the clients. -/
def recorded (roll : Option (RollStatus N)) : Bool :=
  roll.any fun status => status.step = .quiescing ∨ status.step = .switchingOver

namespace Instance

def holds (i : Instance N) : Bool := i.held.isSome || i.renewing

def hold (i : Instance N) (now : Nat) : Instance N :=
  { i with held := i.held.or (some now), renewing := true }

/-- The renewal ends whether or not the gates are opened; it ends after they were asked to open. -/
def unhold (i : Instance N) (release : Release) : Instance N :=
  { i with held := if release = .clean then none else i.held, renewing := false }

end Instance

namespace RollPass

def fitToRoll (p : RollPass N) (target : N) : Bool :=
  !p.decision.splitBrain &&
  (p.currentPrimary.any fun primary =>
    (p.decision.targetPrimary.or p.targetPrimary).all (· = .named primary)) &&
  decide (p.replicas ≤ p.pods.length) &&
  (p.pods.all fun pod => pod.name = target || !pod.terminating && pod.ready) &&
  p.rejoining.all (· = target) && !p.evidence.writeStalled &&
  !p.evidence.stale p.now rollEvidenceMaxAge && !p.evidence.wouldStall target

/-- A step keeps its start for as long as it lasts. -/
def stepping (p : RollPass N) (i : Instance N) (member : N) (step : RollStep) : RollStatus N :=
  ⟨member, step, (i.roll.filter fun previous =>
    previous.member = member ∧ previous.step = step).elim p.now (·.startedAt)⟩

def rollMember (p : RollPass N) (i : Instance N) (member : N) : Except (Instance N) (Rolled N) :=
  if (p.pods.find? fun pod => pod.name = member).all (·.terminating) then
    .ok { after := i, roll := some (p.stepping i member .restarting) }
  else if p.fitToRoll member then
    if p.deleted then .ok ⟨i, some (p.stepping i member .restarting), some member⟩ else .error i
  else .ok { after := i, roll := some (p.stepping i member .blocked) }

def stillStalled (p : RollPass N) (i : Instance N) (member : N) : Option (RollStatus N) :=
  i.roll.filter fun previous => previous.member = member ∧ previous.step = .stalled ∧
    p.now < previous.startedAt + rollStalledBackoff

/-- Gives the clients back when the drain does not arrive. -/
def abandonIfStuck (p : RollPass N) (i : Instance N) (member : N) :
    Except (Instance N) (Rolled N) :=
  if p.now < (p.stepping i member .quiescing).startedAt + p.switchoverTimeout then
    .ok { after := i, roll := some (p.stepping i member .quiescing) }
  else if p.released = .failed then .error (i.unhold .failed)
  else .ok { after := i.unhold p.released, roll := some ⟨member, .stalled, p.now⟩ }

/-- Names the primary in the annotation. -/
def handAway (p : RollPass N) (i : Instance N) (member : N) : Except (Instance N) (Rolled N) :=
  if p.patched then .ok { after := { i with maintenance := [member] },
                          roll := some (p.stepping i member .switchingOver) }
  else .error i

def rollPrimary (p : RollPass N) (i : Instance N) (member : N) : Except (Instance N) (Rolled N) :=
  if member ∈ i.maintenance then
    .ok { after := i, roll := some (p.stepping i member .switchingOver) }
  else
    match p.stillStalled i member with
    | some stalled => .ok { after := i, roll := some stalled }
    | none =>
      if p.fitToRoll member then
        match p.hold with
        | .refused left => .error { i with held := if left then i.held.or (some p.now) else i.held }
        | .unread => .error (i.hold p.now)
        | .headless => p.handAway i member
        | .taken true => p.handAway (i.hold p.now) member
        | .taken false => p.abandonIfStuck (i.hold p.now) member
      else .ok { after := i, roll := some (p.stepping i member .blocked) }

def finishRoll (p : RollPass N) (i : Instance N) : Except (Instance N) (Rolled N) :=
  if recorded i.roll ∧ p.resumed = .failed then .error (i.unhold .failed)
  else
    let i := if recorded i.roll then i.unhold p.resumed else i
    if p.patched || i.maintenance.isEmpty then
      .ok { after := { i with maintenance := [] }, roll := none }
    else .error i

/-- The member the roll had started, or the first of the list. -/
def chooseTarget (p : RollPass N) (i : Instance N) (first : N) : N :=
  ((i.roll.map (·.member)).filter (· ∈ p.outstanding)).getD first

def rollNext (p : RollPass N) (i : Instance N) : Except (Instance N) (Rolled N) :=
  match p.outstanding with
  | [] => p.finishRoll i
  | first :: _ =>
    if p.currentPrimary = some (p.chooseTarget i first) then p.rollPrimary i (p.chooseTarget i first)
    else p.rollMember i (p.chooseTarget i first)

/-- Another member than the named ones holds the role. -/
def handedOver (p : RollPass N) (i : Instance N) : Bool :=
  !i.maintenance.isEmpty && p.currentPrimary.any (· ∉ i.maintenance)

def reconcileRoll (p : RollPass N) (i : Instance N) : Except (Instance N) (Rolled N) :=
  if p.handedOver i then
    if !p.settled then
      .ok { after := i, roll := p.currentPrimary.map (p.stepping i · .switchingOver) }
    else if p.resumed = .failed then .error (i.unhold .failed)
    else if !p.patched then .error (i.unhold p.resumed)
    else p.rollNext { i.unhold p.resumed with maintenance := [] }
  else p.rollNext i

end RollPass

/-! ### What a disruption leaves of the quorum -/

open RollPass Instance

/-- The voters that stream, apart from the members that are gone. -/
def Evidence.left (e : Evidence N) (gone : List N) : List N :=
  (e.streamingMembers.filter fun name => name ∈ e.votingMembers ∧ name ∉ gone).dedup

/-- The entries of a list that fail a test or are repeated. -/
def surplusEntries (test : N → Bool) : List N → Nat
  | [] => 0
  | name :: rest => (if test name ∧ name ∉ rest then 0 else 1) + surplusEntries test rest

/-- The streaming entries that stand for no further voter: those of members that are gone or have no
vote, and repetitions. -/
def Evidence.miscounted (e : Evidence N) (gone : List N) : Nat :=
  surplusEntries (fun name => name ∈ e.votingMembers ∧ name ∉ gone) e.streamingMembers

/-- The evidence lists voters, each once, and not the primary. -/
structure Evidence.Regular (e : Evidence N) (primary : N) : Prop where
  nodup : e.streamingMembers.Nodup
  voters : ∀ name ∈ e.streamingMembers, name ∈ e.votingMembers
  standbys : primary ∉ e.streamingMembers

variable {e : Evidence N} {p : RollPass N} {i : Instance N} {primary member : N}

lemma length_dedup_add_surplusEntries (test : N → Bool) (names : List N) :
    (names.filter test).dedup.length + surplusEntries test names = names.length := by
  induction names with
  | nil => rfl
  | cons name rest ih =>
    rw [surplusEntries, List.length_cons, ← ih]
    by_cases htest : test name = true
    · rw [List.filter_cons_of_pos htest]
      by_cases hlater : name ∈ rest
      · rw [List.dedup_cons_of_mem (List.mem_filter.mpr ⟨hlater, htest⟩), if_neg (by simp [hlater])]
        omega
      · rw [List.dedup_cons_of_notMem (fun hmem => hlater (List.mem_filter.mp hmem).1),
          if_pos ⟨htest, hlater⟩, List.length_cons]
        omega
    · rw [List.filter_cons_of_neg htest, if_neg (by simp [htest])]
      omega

/-- Enough voters are left exactly when the entries over the number required are more than those
that stand for none. -/
lemma Evidence.left_iff (gone : List N) : e.numSync ≤ (e.left gone).length ↔
    e.numSync + e.miscounted gone ≤ e.streamingMembers.length := by
  have hcount := length_dedup_add_surplusEntries
    (fun name => name ∈ e.votingMembers ∧ name ∉ gone) e.streamingMembers
  unfold left miscounted
  omega

lemma Evidence.Regular.left_eq (h : e.Regular primary) :
    e.left [member, primary] = e.streamingMembers.filter (· != member) := by
  have hfilter : (e.streamingMembers.filter fun name =>
      name ∈ e.votingMembers ∧ name ∉ [member, primary]) =
        e.streamingMembers.filter (· != member) := by
    refine List.filter_congr fun name hname => ?_
    have hprimary : name ≠ primary := fun heq => h.standbys (heq ▸ hname)
    rw [Bool.eq_iff_iff]
    simp [h.voters name hname, hprimary]
  rw [left, hfilter, (h.nodup.filter _).dedup]

/-- A Pod is deleted only when the instance is fit for it. -/
lemma fit_of_deleted {r : Rolled N} (h : p.reconcileRoll i = .ok r)
    (hdeleted : r.deleted = some member) : p.fitToRoll member := by
  have hnext : ∀ i, p.rollNext i = .ok r → p.fitToRoll member := by
    intro i h
    unfold rollNext finishRoll rollPrimary abandonIfStuck handAway rollMember at h
    dsimp only at h
    repeat' split at h
    all_goals cases h <;> cases hdeleted
    assumption
  unfold reconcileRoll at h
  split_ifs at h
  · cases h
    cases hdeleted
  · exact hnext _ h
  · exact hnext _ h

/-- The role is handed to the candidate of the ranking. -/
lemma selected_of_switchover {o : Observation N} {name : N}
    (hphase : o.decision.phase = .plannedSwitchover)
    (hname : o.decision.targetPrimary = some (.named name)) :
    o.selectCandidate o.maintenance = some name := by
  change o.decide.phase = _ at hphase
  change o.decide.targetPrimary = _ at hname
  have hdecided := o.decide_cases
  generalize o.decide = d at hphase hname hdecided
  cases hdecided with
  | healthy primary _ _ _ =>
    unfold healthyPrimary at hphase hname
    split at hphase
    · rw [if_pos ‹_›, plannedSwitchover] at hname
      rw [plannedSwitchover] at hphase
      rcases o.elect_cases o.now o.maintenance .plannedSwitchover with
        ⟨veto, -, -, heq⟩ | ⟨chosen, hchosen, -, heq⟩ <;> rw [heq] at hphase hname
      · cases hphase
      · cases hname
        exact hchosen
    · cases hphase
  | failing primary _ _ _ hfailing =>
    cases hfailing with
    | waits => cases hname
    | _ => cases hphase
  | _ => cases hphase

/-- **When a roll spares the quorum.**  Beside a standby whose Pod is deleted and the primary, and
beside a primary that is handed over and its successor, at least `NumSync` voters stream if and only
if the entries of the evidence over `NumSync` are at least those that stand for no other voter.
That is so for regular evidence where a Pod is deleted, and where more members stream than `NumSync`
in a handover. -/
theorem roll_spares_the_quorum (e : Evidence N) (primary : N) :
    (∀ (p : RollPass N) (i : Instance N) (r : Rolled N) (member : N), p.evidence = e →
      p.currentPrimary = some primary → p.reconcileRoll i = .ok r → r.deleted = some member →
        (e.numSync ≤ (e.left [member, primary]).length ↔
          e.numSync + e.miscounted [member, primary] ≤ e.streamingMembers.length) ∧
        (e.Regular primary → e.numSync ≤ (e.left [member, primary]).length)) ∧
    ∀ (o : Observation N) (name : N), o.evidence = e → o.currentPrimary = some primary →
      o.decision.phase = .plannedSwitchover → o.decision.targetPrimary = some (.named name) →
        (e.numSync ≤ (e.left [name, primary]).length ↔
          e.numSync + e.miscounted [name, primary] ≤ e.streamingMembers.length) ∧
        (e.Regular primary → (e.numSync ≤ (e.left [name, primary]).length ↔
          e.numSync < e.streamingMembers.length)) := by
  constructor
  · rintro p i r member rfl - hpass hdeleted
    refine ⟨Evidence.left_iff _, fun hregular => ?_⟩
    have hfit := fit_of_deleted hpass hdeleted
    simp only [fitToRoll, Bool.and_eq_true, Bool.not_eq_true', Evidence.wouldStall,
      decide_eq_false_iff_not] at hfit
    rw [hregular.left_eq]
    omega
  rintro o name rfl - hphase hname
  refine ⟨Evidence.left_iff _, fun hregular => ?_⟩
  obtain ⟨m, -, rfl, heligible, -⟩ :=
    selectCandidate_spec (selected_of_switchover hphase hname)
  have hstreams := (disqualify_eq_none.mp heligible).2.2.2.2.2.2
  have hsome := List.length_pos_of_mem hstreams
  rw [hregular.left_eq, ← hregular.nodup.erase_eq_filter, List.length_erase_of_mem hstreams]
  omega

/-- Evidence of a trio with the given standbys streaming. -/
def trioEvidence (streaming : List Nat) : Evidence Nat :=
  ⟨"ANY 1 (1, 2)", 1, [1, 2], streaming, some 0⟩

def trioPass (streaming outstanding : List Nat) : RollPass Nat where
  currentPrimary := some 0
  evidence := trioEvidence streaming
  now := 100
  pods := [{ name := 0 }, { name := 1 }, { name := 2 }]
  replicas := 3
  outstanding := outstanding
  switchoverTimeout := 10

/-- The healthy trio, whose primary is named for maintenance. -/
def trioNamed (streaming : List Nat) : Observation Nat :=
  { trio [{ name := 0, inRecovery := false }, { name := 1 }, { name := 2 }] (.named 0)
      none [0] with evidence := trioEvidence streaming }

/-- A standby is listed twice and the other one's Pod is deleted; and a primary is handed over. -/
theorem roll_spares_the_quorum_trio : 1 ≤ ((trioEvidence [1, 1, 2]).left [2, 0]).length ∧
      1 ≤ ((trioEvidence [1, 2]).left [1, 0]).length := by
  have hone := ((roll_spares_the_quorum (trioEvidence [1, 1, 2]) 0).1 (trioPass [1, 1, 2] [2]) {} _ 2
    rfl rfl rfl rfl).1.mpr (by decide)
  have htwo := ((roll_spares_the_quorum (trioEvidence [1, 2]) 0).2 (trioNamed [1, 2]) 1 rfl rfl
    (by decide) (by decide)).2 ⟨by decide, by decide, by decide⟩
  exact ⟨Int.ofNat_le.mp hone, Int.ofNat_le.mp (htwo.mpr (by decide))⟩

/-- The only standby that streams becomes the primary: the fitness check counts it among those that
are left. -/
theorem handover_takes_the_last_standby :
    ∃ r : Rolled Nat, (trioPass [1] [0]).reconcileRoll {} = .ok r ∧ r.after.maintenance = [0] ∧
      (trioNamed [1]).decision.phase = .plannedSwitchover ∧
      (trioNamed [1]).decision.targetPrimary = some (.named 1) ∧
      (trioEvidence [1]).numSync = 1 ∧ (trioEvidence [1]).left [1, 0] = [] :=
  ⟨_, rfl, rfl, by decide, by decide, rfl, by decide⟩

/-! ### The hold and its record -/

/-- A pass, a restart of the operator, and the end of the leases nobody renews. -/
inductive RollEvent (N : Type)
  | pass (p : RollPass N)
  | restart
  | expire

namespace Instance

def pass (i : Instance N) (p : RollPass N) : Instance N :=
  match p.reconcileRoll i with
  | .error failed => failed
  | .ok r => if p.published then { r.after with roll := r.roll } else r.after

def next (i : Instance N) : RollEvent N → Instance N
  | .pass p => i.pass p
  | .restart => { i with renewing := false }
  | .expire => { i with held := if i.renewing then i.held else none }

end Instance

def rolls (N : Type) [LinearOrder N] : System (Instance N) (RollEvent N) where
  init i := i = {}
  step i event i' := i' = i.next event

/-- The requests of a pass that hold and name succeed, no release leaves a gate closed unnoticed, and
the status is published. -/
structure Answered (p : RollPass N) : Prop where
  patched : p.patched = true
  released : p.released = .clean
  resumed : p.resumed ≠ .straggling
  published : p.published = true
  read : p.hold ≠ .unread
  taken : ∀ left, p.hold ≠ .refused left

def OnRecord (i : Instance N) : Prop := i.holds = true → recorded i.roll = true

/-- What a pass leaves is on record. -/
def Kept : Except (Instance N) (Rolled N) → Prop
  | .error failed => OnRecord failed
  | .ok r => OnRecord { r.after with roll := r.roll }

section

variable (hrecord : OnRecord i) (hanswered : Answered p)

include hrecord hanswered

end

/-- A roll whose clients wait for the drain of the primary. -/
def waitingPass : RollPass Nat := { trioPass [1, 2] [0] with hold := .taken false }

/-- The event belongs to an attempt on the primary: a pass finds the instance fit and goes on with
the primary, whose clients do not drain. -/
def Waits (primary : N) (i : Instance N) : RollEvent N → Prop
  | .pass p => Answered p ∧ p.currentPrimary = some primary ∧ p.fitToRoll primary = true ∧
      p.hold = .taken false ∧ ∃ first rest, p.outstanding = first :: rest ∧
        p.chooseTarget i first = primary
  | _ => True

/-- The published attempt, nobody being named. -/
def Attempted (primary : N) (start : Nat) (i : Instance N) : Prop :=
  i.maintenance = [] ∧ i.roll = some ⟨primary, .quiescing, start⟩

/-- A pass of the attempt waits for as long as the timeout lasts, and then gives the clients
back. -/
lemma pass_of_waits (hwaits : Waits primary i (.pass p)) (hnamed : i.maintenance = [])
    (hfresh : p.stillStalled i primary = none) :
    if p.now < (p.stepping (i.hold p.now) primary .quiescing).startedAt + p.switchoverTimeout then
      Attempted primary (p.stepping (i.hold p.now) primary .quiescing).startedAt (i.pass p)
    else (i.pass p).holds = false := by
  obtain ⟨hanswered, hcurrent, hfit, hhold, first, rest, hlist, htarget⟩ := hwaits
  have hpass : p.reconcileRoll i = p.abandonIfStuck (i.hold p.now) primary := by
    simp [reconcileRoll, handedOver, hnamed, rollNext, hlist, htarget,
      hcurrent, rollPrimary, hfresh, hfit, hhold]
  rw [Instance.pass, hpass, abandonIfStuck, hanswered.released, hanswered.published]
  split
  · exact ⟨hnamed, rfl⟩
  · rfl

lemma Attempted.start {start : Nat} (h : Attempted primary start i) (q : RollPass N) :
    q.stillStalled i primary = none ∧
      (q.stepping (i.hold q.now) primary .quiescing).startedAt = start := by
  simp [stillStalled, stepping, Instance.hold, h.2, Option.filter]

/-- **An attempt that does not drain gives the clients back.**  A first pass holds the clients, and
passes of the same attempt follow before the switchover timeout is over.  The first pass of the
attempt after it releases the clients. -/
theorem undrained_roll_gives_the_clients_back {i' : Instance N} {p' : RollPass N}
    {events : List (RollEvent N)} (hnew : recorded i.roll = false) (hnamed : i.maintenance = [])
    (hfresh : p.stillStalled i primary = none) (hfirst : Waits primary i (.pass p))
    (htimeout : 0 < p.switchoverTimeout)
    (hrun : ((rolls N).restrict fun i event => Waits primary i event ∧ ∀ q, event = .pass q →
      q.now < p.now + q.switchoverTimeout).Path (i.pass p) events i')
    (hlast : Waits primary i' (.pass p')) (hlate : p.now + p'.switchoverTimeout ≤ p'.now) :
    (i'.pass p').holds = false := by
  have hstart : (p.stepping (i.hold p.now) primary .quiescing).startedAt = p.now := by
    cases hroll : i.roll <;> simp_all [recorded, stepping, Instance.hold, Option.filter]
  have hheld : Attempted primary p.now (i.pass p) := by
    have hpass := pass_of_waits hfirst hnamed hfresh
    rwa [hstart, if_pos (Nat.lt_add_of_pos_right htimeout)] at hpass
  have hwaiting : Attempted primary p.now i' := by
    refine System.Path.invariant (I := Attempted primary p.now) ?_ hrun hheld
    rintro i event _ hattempt ⟨⟨hwaits, hearly⟩, rfl⟩
    cases event with
    | pass q =>
      have hpass := pass_of_waits hwaits hattempt.1 (hattempt.start q).1
      rwa [(hattempt.start q).2, if_pos (hearly q rfl)] at hpass
    | restart | expire => exact hattempt
  have hpass := pass_of_waits hlast hwaiting.1 (hwaiting.start p').1
  rwa [(hwaiting.start p').2, if_neg (not_lt.mpr hlate)] at hpass

theorem undrained_roll_gives_the_clients_back_late : let i := ({} : Instance Nat).pass waitingPass
    i.held = some 100 ∧ (i.pass { waitingPass with now := 110 }).holds = false := by
  have hanswered : ∀ now, Answered { waitingPass with now := now } :=
    fun _ => ⟨rfl, rfl, nofun, rfl, nofun, nofun⟩
  exact ⟨rfl, undrained_roll_gives_the_clients_back (i := {}) (p := waitingPass) rfl rfl rfl
    ⟨hanswered 100, rfl, rfl, rfl, 0, [], rfl, rfl⟩ (by decide) (.nil _)
    ⟨hanswered 110, rfl, rfl, rfl, 0, [], rfl, rfl⟩ (by decide)⟩

/-- The clients have drained and the handover is not taken up: no later pass looks at the time. -/
theorem handover_outlasts_the_timeout :
    ∃ i : Instance Nat, (rolls Nat).Reachable i ∧ i.held = some 100 ∧
      (i.pass { trioPass [1, 2] [0] with now := 1000 }).held = some 100 :=
  ⟨_, .step (a := .pass (trioPass [1, 2] [0])) (.init rfl) rfl, rfl, rfl⟩

end PgElastic.Ha
