import PgElastic.Ha.Decide
import PgElastic.Library.Transition

/-!
# Passes of the operator

Each pass decides from what it observes and from the two status fields the passes before it left:
the target and the origin of the debounce.  The status carries the passes, newest first.

The origin is one timestamp for every primary, stored in whole seconds, and phases that decide
nothing about the primary leave it alone; the sentinel is only as old as the passes that still see
it.  Both properties of runs below hold where a pass finds what the pass before it found
(`steadfast`, `vacated`).
-/

namespace PgElastic.Ha

open Library Option List Observation

variable {N : Type} [LinearOrder N]

structure Status (N : Type) where
  targetPrimary : Option (Target N)
  failingSince : Option Nat
  log : List (Observation N)

/-- The value to publish; without one the target of the instance, its primary, or member one. -/
def targetPrimaryAfter (first : N) (o : Observation N) (d : Decision N) : Target N :=
  d.targetPrimary.getD (o.targetPrimary.getD (.named (o.currentPrimary.getD first)))

def failingSinceAfter (o : Observation N) (d : Decision N) : Option Nat :=
  if d.clearFailingSince then none else d.setFailingSince.or o.failingSince

/-- Nanoseconds. -/
def second : Nat := 1000000000

/-- A timestamp as it is read back from the status, which has it in whole seconds (RFC 3339). -/
def wholeSeconds (time : Nat) : Nat := time / second * second

lemma wholeSeconds_spec (time : Nat) : wholeSeconds (wholeSeconds time) = wholeSeconds time ∧
    wholeSeconds time ≤ time ∧ time < wholeSeconds time + second := by
  unfold wholeSeconds second
  omega

namespace Status

/-- What a pass decides from: the two fields are those of the status. -/
def observe (s : Status N) (seen : Observation N) : Observation N :=
  { seen with targetPrimary := s.targetPrimary, failingSince := s.failingSince }

def pass (first : N) (s : Status N) (seen : Observation N) : Status N :=
  let o := s.observe seen
  { targetPrimary := some (targetPrimaryAfter first o o.decision)
    failingSince := (failingSinceAfter o o.decision).map wholeSeconds
    log := o :: s.log }

def system (first : N) : System (Status N) (Observation N) where
  init := fun s => s = ⟨none, none, []⟩
  step := fun s seen after => s.pass first seen = after

/-- The pass finds the primary of the pass before it. -/
def samePrimary (s : Status N) (seen : Observation N) : Bool :=
  s.log.head?.any fun last => last.currentPrimary == seen.currentPrimary

/-- The pass is not made in the second in which the delay has passed over the stored origin and may
not have passed over the time it was stored for. -/
def unrounded (s : Status N) (seen : Observation N) : Bool :=
  s.failingSince.all fun since => decide (seen.now < since + seen.failoverDelay ∨
    since + second + seen.failoverDelay ≤ seen.now)

/-- While an origin stands the primary is still the same and unhealthy, or a healthy one is found
and nothing keeps the pass from saying so. -/
def steadfast (s : Status N) (seen : Observation N) : Bool :=
  let o := s.observe seen
  s.failingSince.isNone || (s.samePrimary seen && !o.healthy && s.unrounded seen) ||
    (o.healthy && !o.splitBrain && !o.operatorIsolated && !o.currentPrimary.any o.awaitsPromotion)

/-- While the sentinel stands the primary is still the same, is not hidden from the operator, and
no healthy primary is under maintenance. -/
def vacated (s : Status N) (seen : Observation N) : Bool :=
  let o := s.observe seen
  s.targetPrimary != some .pending || (s.samePrimary seen && !o.operatorIsolated &&
    !o.unobservable && !(o.healthy && o.underMaintenance))

variable {first : N} {s : Status N} {seen : Observation N} {P : N}
  {o : Observation N} {since : Nat}

def replay (test : Status Nat → Observation Nat → Bool) (passes : List (Observation Nat)) :
    Option (Status Nat) :=
  System.run (System.guarded (fun s seen => some (s.pass 0 seen)) test) ⟨none, none, []⟩ passes

lemma reachable_of_replay (test : Status Nat → Observation Nat → Bool)
    (passes : List (Observation Nat)) {s : Status Nat} (h : replay test passes = some s) :
    ((system 0).restrict fun s seen => test s seen).Reachable s :=
  System.reachable_of_guarded_run (fun _ _ _ hnext => some.inj hnext) rfl h

def gone (name : Nat) : Member Nat := { name := name, statusReachable := false, podReady := false }

/-- A pass at some second over three members, the last two of which can follow. -/
def seenAt (now current : Nat) (members : List (Member Nat)) : Observation Nat :=
  { trio members .pending none [] with
    currentPrimary := some current, now := now * second, failoverDelay := 10 * second }

def lost (now : Nat) : Observation Nat := seenAt now 0 [gone 0, { name := 1 }, { name := 2 }]

/-! ### The debounce -/

/-- Passes, newest first, that found the primary unhealthy, the oldest of them at `since`. -/
structure Period (P : N) (since : Nat) (period : List (Observation N)) : Prop where
  found : ∀ o ∈ period, o.currentPrimary = some P ∧ o.healthy = false
  began : period.getLast?.map (·.now) = some since

lemma Period.cons {period : List (Observation N)} (h : Period P since period)
    (hcurrent : o.currentPrimary = some P)
    (hunhealthy : o.healthy = false) : Period P since (o :: period) := by
  refine ⟨forall_mem_cons.mpr ⟨⟨hcurrent, hunhealthy⟩, h.found⟩, ?_⟩
  have hbegan := h.began
  cases period with
  | nil => cases hbegan
  | cons last rest => exact hbegan

/-- The origin is the second in which the passes that find the primary unhealthy began. -/
def Dated (s : Status N) : Prop :=
  ∀ stored, s.failingSince = some stored → ∃ P period earlier since,
    s.log = period ++ earlier ∧ Period P since period ∧ stored = wholeSeconds since

lemma Dated.period (h : s.Dated) {stored : Nat} (hstored : s.failingSince = some stored)
    (hsame : s.samePrimary seen) (hunhealthy : (s.observe seen).healthy = false) :
    ∃ P period earlier since, seen.currentPrimary = some P ∧
      s.observe seen :: s.log = s.observe seen :: period ++ earlier ∧
      Period P since (s.observe seen :: period) ∧ stored = wholeSeconds since := by
  obtain ⟨P, period, earlier, since, hlog, hperiod, hrounded⟩ := h stored hstored
  have hcurrent : seen.currentPrimary = some P := by
    have hbegan := hperiod.began
    cases period with
    | nil => cases hbegan
    | cons last rest =>
      rw [samePrimary, hlog] at hsame
      rw [← eq_of_beq hsame]
      exact (hperiod.found last mem_cons_self).1
  exact ⟨P, period, earlier, since, hcurrent, congrArg _ hlog, hperiod.cons hcurrent hunhealthy,
    hrounded⟩

/-- A healthy primary stays, or is switched over from under maintenance; either way the origin is
cleared. -/
lemma healthyPrimary_cases (o : Observation N) (primary : N) :
    ∃ phase target veto, phase ≠ .candidateChosen ∧ target ≠ some .pending ∧
      (target = none → o.underMaintenance ∨ o.targetPrimary ≠ some .pending) ∧
      o.healthyPrimary primary = { phase := phase, targetPrimary := target, veto := veto
                                   clearFailingSince := o.failingSince.isSome } := by
  unfold healthyPrimary
  split
  · rename_i hmaintained
    unfold plannedSwitchover
    rcases o.elect_cases o.now o.maintenance .plannedSwitchover with
      ⟨veto, -, -, heq⟩ | ⟨name, -, -, heq⟩
    all_goals
      rw [heq]
      exact ⟨_, _, _, by simp, by simp, fun _ => .inl hmaintained, rfl⟩
  · refine ⟨.steady, _, none, by simp, ?_, ?_, rfl⟩
    · split <;> simp
    split
    · rename_i hnamed
      simp [hnamed]
    · simp

/-- Only the first pass of a period sets the origin. -/
lemma setFailingSince_spec
    (h : o.decision.setFailingSince = some since) : o.failingSince = none ∧ since = o.now ∧
      o.healthy = false ∧ ∃ primary, o.currentPrimary = some primary := by
  have hdecided := o.decide_cases
  change o.decide.setFailingSince = _ at h
  generalize o.decide = d at hdecided h
  cases hdecided with
  | frozen | unelected | isolated | promoting | unobservable => cases h
  | healthy primary =>
    obtain ⟨phase, target, veto, -, -, -, heq⟩ := healthyPrimary_cases o primary
    rw [heq] at h
    cases h
  | failing primary _ hcurrent hunhealthy hfailing =>
    cases hfailing with
    | noticed hnone =>
      cases h
      exact ⟨hnone, rfl, hunhealthy, primary, hcurrent⟩
    | waits | sentinel | chosen => cases h

/-- A pass that finds a healthy primary clears the origin, unless something comes before it. -/
lemma clearFailingSince_of_healthy (hhealthy : o.healthy) (hsingle : o.splitBrain = false)
    (hseen : o.operatorIsolated = false)
    (hsettled : o.currentPrimary.any o.awaitsPromotion = false) :
    o.decision.clearFailingSince = o.failingSince.isSome := by
  obtain ⟨primary, hcurrent, -⟩ := (Option.any_eq_true _ _).mp hhealthy
  rw [hcurrent, any_some] at hsettled
  have hdecide : o.decide = o.healthyPrimary primary := by
    simp [Observation.decide, hsingle, hcurrent, hseen, hsettled, hhealthy]
  obtain ⟨phase, target, veto, -, -, -, heq⟩ := healthyPrimary_cases o primary
  change o.decide.clearFailingSince = _
  rw [hdecide, heq]

lemma Dated.pass (h : s.Dated) (hsteadfast : s.steadfast seen) : (s.pass first seen).Dated := by
  intro stored hstored
  obtain ⟨since, hsince, rfl⟩ := map_eq_some_iff.mp hstored
  unfold failingSinceAfter at hsince
  split at hsince
  · cases hsince
  rename_i hkept
  rcases (or_eq_some_iff).mp hsince with hset | ⟨-, hstands⟩
  · obtain ⟨-, rfl, hunhealthy, primary, hcurrent⟩ := setFailingSince_spec hset
    refine ⟨primary, [s.observe seen], s.log, _, rfl, ⟨?_, rfl⟩, rfl⟩
    simpa using ⟨hcurrent, hunhealthy⟩
  have hstands' : s.failingSince = some since := hstands
  simp only [steadfast, hstands', isNone_some, Bool.false_or, Bool.or_eq_true,
    Bool.and_eq_true, Bool.not_eq_true'] at hsteadfast
  rcases hsteadfast with ⟨⟨hsame, hunhealthy⟩, -⟩ | ⟨⟨⟨hhealthy, hsingle⟩, hseen⟩, hsettled⟩
  · obtain ⟨P, period, earlier, began, -, hlog, hperiod, rfl⟩ := h.period hstands' hsame hunhealthy
    exact ⟨P, _, earlier, began, hlog, hperiod, (wholeSeconds_spec began).1⟩
  · rw [clearFailingSince_of_healthy hhealthy hsingle hseen hsettled, hstands] at hkept
    exact absurd rfl hkept

/-- The sentinel is written once the delay has passed over an unhealthy primary. -/
lemma pending_spec (h : o.decision.targetPrimary = some .pending) :
    ∃ primary since, o.currentPrimary = some primary ∧ o.healthy = false ∧
      o.failingSince = some since ∧ since + o.failoverDelay ≤ o.now ∧
      o.decision.demoteMember = some primary := by
  have hdecided := o.decide_cases
  change o.decide.targetPrimary = _ at h
  change ∃ primary since, _ ∧ _ ∧ _ ∧ _ ∧ o.decide.demoteMember = some primary
  generalize o.decide = d at hdecided h
  cases hdecided with
  | frozen | unelected | isolated | promoting | unobservable => cases h
  | healthy primary =>
    obtain ⟨phase, target, veto, -, hnamed, -, heq⟩ := healthyPrimary_cases o primary
    rw [heq] at h
    exact absurd h hnamed
  | failing primary _ hcurrent hunhealthy hfailing =>
    cases hfailing with
    | noticed | waits | chosen => cases h
    | sentinel since hsince helapsed htarget =>
      exact ⟨primary, since, hcurrent, hunhealthy, hsince, helapsed, hcurrent⟩

lemma dated_of_reachable
    (h : ((system first).restrict fun s seen => s.steadfast seen).Reachable s) : s.Dated := by
  refine h.invariant (I := Dated) ?_ ?_
  · rintro _ rfl since hsince
    cases hsince
  · rintro s seen _ - hs ⟨hsteadfast, rfl⟩
    exact hs.pass hsteadfast

/-- **The sentinel is written for a primary that has been unhealthy for the whole delay.**  In
every run of steadfast passes, a pass that writes the sentinel ends a period of passes that all
found its primary the current one and unhealthy, and that began at least the delay ago. -/
theorem sentinel_after_the_delay
    (h : ((system first).restrict fun s seen => s.steadfast seen = true).Reachable s)
    (hsteadfast : s.steadfast seen = true)
    (hpending : (s.observe seen).decision.targetPrimary = some .pending) :
    ∃ P period earlier since, (s.observe seen).decision.demoteMember = some P ∧
      (s.pass first seen).log = s.observe seen :: period ++ earlier ∧
      Period P since (s.observe seen :: period) ∧ since + seen.failoverDelay ≤ seen.now := by
  obtain ⟨P, stored, hcurrent, hunhealthy, hstored, helapsed, hdemoted⟩ := pending_spec hpending
  have hstands : s.failingSince = some stored := hstored
  simp only [steadfast, hstands, hunhealthy, isNone_some, Bool.false_or, Bool.not_false,
    Bool.and_true, Bool.false_and, Bool.or_false, Bool.and_eq_true, unrounded, all_some,
    decide_eq_true_eq] at hsteadfast
  obtain ⟨hsame, hwindow⟩ := hsteadfast
  obtain ⟨P', period, earlier, since, hfound, hlog, hperiod, rfl⟩ :=
    (dated_of_reachable h).period hstands hsame hunhealthy
  obtain rfl : P = P' := some.inj (hcurrent.symm.trans hfound)
  refine ⟨P, period, earlier, since, hdemoted, hlog, hperiod, ?_⟩
  have hlater : wholeSeconds since + second + seen.failoverDelay ≤ seen.now :=
    hwindow.resolve_left (Nat.not_lt.mpr helapsed)
  have hrounded := (wholeSeconds_spec since).2.2
  omega

theorem sentinel_after_the_delay_lost : ∃ s, replay steadfast [lost 0, lost 5] = some s ∧
      ∃ P period earlier since, (s.observe (lost 11)).decision.demoteMember = some P ∧
        (s.pass 0 (lost 11)).log = s.observe (lost 11) :: period ++ earlier ∧
        Period P since (s.observe (lost 11) :: period) ∧ since + 10 * second ≤ 11 * second :=
  ⟨_, rfl, sentinel_after_the_delay (reachable_of_replay steadfast [lost 0, lost 5] rfl)
    (by decide) (by decide)⟩

/-- The member a failover chose fails right after its promotion.  The origin is still that of its
predecessor, and the sentinel is written in the first pass that has it as its primary. -/
theorem successor_gets_no_delay :
    ∃ s seen, (system 0).Reachable s ∧ (s.observe seen).decision.targetPrimary = some .pending ∧
      (s.observe seen).decision.demoteMember = some 1 ∧ seen.failoverDelay = 10 * second ∧
      s.log.map (·.currentPrimary) = [some 0, some 0, some 0] :=
  ⟨_, seenAt 12 1 [gone 0, gone 1, { name := 2 }],
    (reachable_of_replay (fun _ _ => true) [lost 0, lost 10, lost 11] rfl).of_restrict,
    by decide, by decide, rfl, by decide⟩

/-! ### The sentinel -/

/-- Nobody has served since the pass that wrote the sentinel, newest first. -/
structure Vacancy (P : N) (vacant : List (Observation N)) (sentinel : Observation N) : Prop where
  wrote : sentinel.decision.targetPrimary = some .pending
  demoted : sentinel.decision.demoteMember = some P
  unserved : ∀ o ∈ vacant ++ [sentinel], o.decision.servingPrimary = none
  last : (vacant ++ [sentinel]).head?.map (·.currentPrimary) = some (some P)

/-- The sentinel stands since some pass wrote it. -/
def Vacant (s : Status N) : Prop :=
  s.targetPrimary = some .pending →
    ∃ P vacant sentinel earlier, s.log = vacant ++ sentinel :: earlier ∧ Vacancy P vacant sentinel

lemma Vacancy.cons {vacant : List (Observation N)} {sentinel : Observation N}
    (h : Vacancy P vacant sentinel) (hcurrent : o.currentPrimary = some P)
    (hunserved : o.decision.servingPrimary = none) : Vacancy P (o :: vacant) sentinel where
  wrote := h.wrote
  demoted := h.demoted
  unserved := forall_mem_cons.mpr ⟨hunserved, h.unserved⟩
  last := congrArg some hcurrent

lemma Vacant.vacancy (h : s.Vacant) (hpending : s.targetPrimary = some .pending)
    (hsame : s.samePrimary seen) : ∃ P vacant sentinel earlier,
      seen.currentPrimary = some P ∧ s.log = vacant ++ sentinel :: earlier ∧
      Vacancy P vacant sentinel := by
  obtain ⟨P, vacant, sentinel, earlier, hlog, hvacancy⟩ := h hpending
  refine ⟨P, vacant, sentinel, earlier, ?_, hlog, hvacancy⟩
  have hhead : s.log.head?.map (·.currentPrimary) = some (some P) := by
    rw [hlog, ← hvacancy.last]
    cases vacant <;> rfl
  obtain ⟨last, hfirst, hlast⟩ := map_eq_some_iff.mp hhead
  rw [samePrimary, hfirst] at hsame
  exact (eq_of_beq hsame).symm.trans hlast

/-- A pass that neither writes the sentinel nor names a member leaves the Service empty. -/
lemma unserved_of_silent (hpending : o.targetPrimary = some .pending)
    (hsilent : o.decision.targetPrimary = none) (hcurrent : o.currentPrimary = some P)
    (hseen : o.operatorIsolated = false) (hobserved : o.unobservable = false)
    (hhealthy : (o.healthy && o.underMaintenance) = false) : o.decision.servingPrimary = none := by
  have hdecided := o.decide_cases
  change o.decide.targetPrimary = _ at hsilent
  change o.servingPrimary o.decide = none
  rw [servingPrimary, hcurrent]
  generalize o.decide = d at hdecided hsilent
  cases hdecided with
  | frozen => simp [Option.filter]
  | unelected hnone =>
    rw [hnone] at hcurrent
    cases hcurrent
  | isolated hisolated => simp [hisolated] at hseen
  | promoting primary hawaits => simp [awaitsPromotion, hpending] at hawaits
  | unobservable hunseen => simp [hunseen] at hobserved
  | healthy primary hsingle _ hfit =>
    obtain ⟨phase, target, veto, -, -, hkept, heq⟩ := healthyPrimary_cases o primary
    rw [heq] at hsilent
    rcases hkept hsilent with hmaintained | hother
    · simp [hfit, hmaintained] at hhealthy
    · exact absurd hpending hother
  | failing primary _ _ hunhealthy hfailing =>
    cases hfailing with
    | noticed => simp [Option.filter, hunhealthy]
    | waits phase veto _ hisolated hunseen =>
      simp [Option.filter, hunhealthy, hisolated, hunseen]
    | sentinel | chosen => cases hsilent

/-- A candidate is named while the sentinel stands, and the Service is empty in that pass too. -/
lemma chosen_spec (h : o.decision.phase = .candidateChosen) :
    o.targetPrimary = some .pending ∧ o.decision.servingPrimary = none := by
  have hdecided := o.decide_cases
  change o.decide.phase = _ at h
  change _ ∧ o.servingPrimary o.decide = none
  generalize o.decide = d at hdecided h
  cases hdecided with
  | frozen | unelected | isolated | promoting | unobservable => cases h
  | healthy primary =>
    obtain ⟨phase, target, veto, hphase, -, -, heq⟩ := healthyPrimary_cases o primary
    rw [heq] at h
    exact absurd h hphase
  | failing primary _ hcurrent hunhealthy hfailing =>
    cases hfailing with
    | noticed | sentinel => cases h
    | waits phase veto hphase => exact absurd h hphase
    | chosen name htarget => exact ⟨htarget, by simp [servingPrimary, hunhealthy]⟩

lemma Vacant.pass (h : s.Vacant) (hvacated : s.vacated seen) : (s.pass first seen).Vacant := by
  intro hstands
  have hafter := some.inj hstands
  unfold targetPrimaryAfter at hafter
  cases hdecided : (s.observe seen).decision.targetPrimary with
  | some target =>
    rw [hdecided] at hafter
    obtain rfl : target = .pending := hafter
    obtain ⟨P, since, hcurrent, hunhealthy, -, -, hdemoted⟩ := pending_spec hdecided
    refine ⟨P, [], s.observe seen, s.log, rfl, hdecided, hdemoted, ?_, congrArg some hcurrent⟩
    intro o ho
    obtain rfl := mem_singleton.mp ho
    have hdemoted' : (s.observe seen).decide.demoteMember = some P := hdemoted
    change (s.observe seen).servingPrimary _ = none
    simp [servingPrimary, hcurrent, hdemoted']
  | none =>
    rw [hdecided] at hafter
    have hpending : s.targetPrimary = some .pending := by
      change s.targetPrimary.getD _ = .pending at hafter
      cases htarget : s.targetPrimary with
      | none => simp [htarget] at hafter
      | some target => exact congrArg some (by simpa [htarget] using hafter)
    simp only [vacated, hpending, bne_self_eq_false, Bool.false_or, Bool.and_eq_true,
      Bool.not_eq_true'] at hvacated
    obtain ⟨⟨⟨hsame, hseen⟩, hobserved⟩, hhealthy⟩ := hvacated
    obtain ⟨P, vacant, sentinel, earlier, hcurrent, hlog, hvacancy⟩ := h.vacancy hpending hsame
    exact ⟨P, s.observe seen :: vacant, sentinel, earlier, congrArg _ hlog, hvacancy.cons hcurrent
        (unserved_of_silent hpending hdecided hcurrent hseen hobserved hhealthy)⟩

/-- **Nobody serves between the demotion and the choice.**  In every run of passes that keep the
primary vacated, a pass that names a candidate comes after one that wrote the sentinel and demoted
the primary it fails over from, and no pass from that one to itself let a member serve. -/
theorem nobody_serves_before_the_candidate
    (h : ((system first).restrict fun s seen => s.vacated seen = true).Reachable s)
    (hvacated : s.vacated seen = true)
    (hchosen : (s.observe seen).decision.phase = .candidateChosen) :
    ∃ P vacant sentinel earlier, seen.currentPrimary = some P ∧
      s.log = vacant ++ sentinel :: earlier ∧ Vacancy P (s.observe seen :: vacant) sentinel := by
  have hvacant : s.Vacant := by
    refine h.invariant (I := Vacant) ?_ ?_
    · rintro _ rfl hpending
      cases hpending
    · rintro s seen _ - hs ⟨hvacated, rfl⟩
      exact hs.pass hvacated
  obtain ⟨hpending, hunserved⟩ := chosen_spec hchosen
  have hstands : s.targetPrimary = some .pending := hpending
  have hsame : s.samePrimary seen = true := by
    simp only [vacated, hstands, bne_self_eq_false, Bool.false_or, Bool.and_eq_true] at hvacated
    exact hvacated.1.1.1
  obtain ⟨P, vacant, sentinel, earlier, hcurrent, hlog, hvacancy⟩ := hvacant.vacancy hstands hsame
  exact ⟨P, vacant, sentinel, earlier, hcurrent, hlog, hvacancy.cons hcurrent hunserved⟩

theorem nobody_serves_before_the_candidate_lost : ∃ s, replay vacated [lost 0, lost 10] = some s ∧
      ∃ P vacant sentinel earlier, (lost 11).currentPrimary = some P ∧
        s.log = vacant ++ sentinel :: earlier ∧ Vacancy P (s.observe (lost 11) :: vacant) sentinel :=
  ⟨_, rfl, nobody_serves_before_the_candidate (reachable_of_replay vacated [lost 0, lost 10] rfl)
    (by decide) (by decide)⟩

/-- While the sentinel stands the kubelet calls the demoted primary ready once more, and the
Service selects it again before its successor is named. -/
theorem demoted_primary_serves_again : ∃ s seen, (system 0).Reachable s ∧
      (s.observe seen).decision.phase = .candidateChosen ∧ seen.currentPrimary = some 0 ∧
      (s.log.map fun o => (o.decision.targetPrimary, o.decision.servingPrimary)) =
        [(none, some 0), (some .pending, none), (none, none)] :=
  ⟨_, lost 12, (reachable_of_replay (fun _ _ => true) [lost 0, lost 10,
    seenAt 11 0 [{ name := 0, statusReachable := false }, { name := 1 }, { name := 2 }]]
      rfl).of_restrict, by decide, rfl, by decide⟩

end Status
end PgElastic.Ha
