import PgElastic.Library.Transition

/-!
# Metering the current primary

The accumulator files a reading under tenant, instance, role and database oid, not under the member
that was read: one database of one instance has one cursor and one total for each counter.  The
members count each for itself, so a reading of another member than the last one is differenced
against a counter of another origin.

`counted` is what any member has counted since the first reading; `fresh` are the members that have
begun to count anew since the last one.
-/

namespace PgElastic.Metering

open Library

variable {M S : Type} [DecidableEq M]

/-- The counters of a `pg_stat_database` row, and when it was last reset. -/
structure DatabaseStats (S : Type) where
  counters : S → Nat
  statsReset : Option Nat

/-- A decrease, or another `stats_reset`, means that the source began to count anew. -/
def delta (previous next : DatabaseStats S) (stat : S) : Nat :=
  if previous.statsReset ≠ next.statsReset ∨ next.counters stat < previous.counters stat then
    next.counters stat
  else next.counters stat - previous.counters stat

/-- The previous reading, once there has been one, and the retained totals. -/
structure Accumulator (S : Type) where
  cursor : Option (DatabaseStats S)
  totals : S → Nat

/-- The first reading ever is a baseline. -/
def Accumulator.observe (acc : Accumulator S) (stats : DatabaseStats S) : Accumulator S where
  cursor := some stats
  totals stat := acc.totals stat + acc.cursor.elim 0 (delta · stats stat)

/-- The members' own rows, the accumulator, and who was read last. -/
structure History (M S : Type) where
  members : M → DatabaseStats S
  acc : Accumulator S
  counted : S → Nat
  lastRead : Option M
  fresh : M → Bool

inductive Event (M S : Type)
  | count (member : M) (amounts : S → Nat)
  /-- The counters are reset, at a time, or lost in a crash. -/
  | restart (member : M) (statsReset : Option Nat)
  | observe (primary : M)

namespace History

def next (h : History M S) : Event M S → History M S
  | .count member amounts =>
    let stats := h.members member
    { h with
      members := Function.update h.members member
        { stats with counters := fun stat => stats.counters stat + amounts stat }
      counted := fun stat => h.counted stat + if h.acc.cursor.isSome then amounts stat else 0 }
  | .restart member statsReset =>
    { h with
      members := Function.update h.members member ⟨fun _ => 0, statsReset⟩
      fresh := Function.update h.fresh member true }
  | .observe primary =>
    { h with
      acc := h.acc.observe (h.members primary)
      lastRead := some primary
      fresh := fun _ => false }

/-- One database, with any counters on its members before the first reading. -/
def start (members : M → DatabaseStats S) : History M S :=
  ⟨members, ⟨none, fun _ => 0⟩, fun _ => 0, none, fun _ => false⟩

def system (M S : Type) [DecidableEq M] : System (History M S) (Event M S) where
  init h := ∃ members, h = start members
  step h event h' := h.next event = h'

/-- A reading is the first, or of the member that was read last, or of one that has begun to count
anew since. -/
def Continues (h : History M S) : Event M S → Prop
  | .observe primary =>
    h.acc.cursor = none ∨ h.lastRead = some primary ∨ h.fresh primary = true
  | _ => True

/-- What the totals have, and what a reading that continues them would add, has been counted. -/
structure Covered (h : History M S) : Prop where
  totals : ∀ stat, h.acc.totals stat ≤ h.counted stat
  last : ∀ member previous, h.lastRead = some member → h.acc.cursor = some previous →
    ∀ stat, h.acc.totals stat + delta previous (h.members member) stat ≤ h.counted stat
  fresh : ∀ member, h.fresh member = true → h.acc.cursor.isSome →
    ∀ stat, h.acc.totals stat + (h.members member).counters stat ≤ h.counted stat

end History

open History

variable {g : History M S}

lemma delta_self (stats : DatabaseStats S) (stat : S) : delta stats stats stat = 0 := by
  simp [delta]

lemma delta_le (previous next : DatabaseStats S) (stat : S) :
    delta previous next stat ≤ next.counters stat := by
  unfold delta
  split <;> omega

/-- What a member counts adds no more than itself to what its next reading gives. -/
lemma delta_add_le (previous stats : DatabaseStats S) (amounts : S → Nat) (stat : S) :
    delta previous { stats with counters := fun stat => stats.counters stat + amounts stat } stat ≤
      delta previous stats stat + amounts stat := by
  unfold delta
  by_cases hreset : previous.statsReset = stats.statsReset
  · simp only [hreset, ne_eq, not_true_eq_false, false_or]
    split_ifs <;> omega
  · simp [hreset]

lemma History.Covered.count (h : Covered g) (member : M) (amounts : S → Nat) :
    Covered (g.next (.count member amounts)) := by
  refine ⟨fun stat => Nat.le_trans (h.totals stat) (Nat.le_add_right ..), ?_, ?_⟩
  · intro last previous hlast hcursor stat
    have hbefore := h.last last previous hlast hcursor stat
    change g.acc.totals stat + delta previous (Function.update g.members member _ last) stat ≤
      g.counted stat + _
    rw [show g.acc.cursor = some previous from hcursor, Option.isSome_some, if_pos rfl]
    by_cases hmember : last = member
    · subst hmember
      rw [Function.update_self]
      have hmore := delta_add_le previous (g.members last) amounts stat
      omega
    · rw [Function.update_of_ne hmember]
      omega
  · intro other hfresh hread stat
    have hbefore := h.fresh other hfresh hread stat
    change g.acc.totals stat + (Function.update g.members member _ other).counters stat ≤
      g.counted stat + _
    rw [if_pos (show g.acc.cursor.isSome = true from hread)]
    by_cases hmember : other = member
    · subst hmember
      rw [Function.update_self]
      dsimp only
      omega
    · rw [Function.update_of_ne hmember]
      omega

lemma History.Covered.restart (h : Covered g) (member : M) (statsReset : Option Nat) :
    Covered (g.next (.restart member statsReset)) := by
  refine ⟨h.totals, ?_, ?_⟩
  · intro last previous hlast hcursor stat
    change g.acc.totals stat + delta previous (Function.update g.members member _ last) stat ≤
      g.counted stat
    by_cases hmember : last = member
    · subst hmember
      rw [Function.update_self, Nat.le_zero.mp (delta_le previous ⟨fun _ => 0, statsReset⟩ stat)]
      exact h.totals stat
    · rw [Function.update_of_ne hmember]
      exact h.last last previous hlast hcursor stat
  · intro other hfresh hread stat
    change Function.update g.fresh member true other = true at hfresh
    change g.acc.totals stat + (Function.update g.members member _ other).counters stat ≤
      g.counted stat
    by_cases hmember : other = member
    · subst hmember
      rw [Function.update_self]
      exact h.totals stat
    · rw [Function.update_of_ne hmember] at hfresh ⊢
      exact h.fresh other hfresh hread stat

lemma History.Covered.observe {primary : M} (h : Covered g) (hcontinues : g.Continues (.observe primary)) :
    Covered (g.next (.observe primary)) := by
  have htotals : ∀ stat, (g.acc.observe (g.members primary)).totals stat ≤ g.counted stat := by
    intro stat
    cases hcursor : g.acc.cursor with
    | none => simpa [Accumulator.observe, hcursor] using h.totals stat
    | some previous =>
      simp only [Accumulator.observe, hcursor, Option.elim_some]
      rcases hcontinues with hfirst | hlast | hfresh
      · cases hcursor.symm.trans hfirst
      · exact h.last primary previous hlast hcursor stat
      · -- a member that counts anew has counted no more than has been counted since
        have hbelow := delta_le previous (g.members primary) stat
        have hcounted := h.fresh primary hfresh (by simp [hcursor]) stat
        omega
  refine ⟨htotals, ?_, nofun⟩
  rintro _ _ ⟨⟩ ⟨⟩ stat
  change _ + delta (g.members primary) (g.members primary) stat ≤ _
  rw [delta_self]
  exact htotals stat

/-- **What is metered has been counted.**  In every run in which each reading but the first is of the
member that was read last or of one that has begun to count anew since, no total is more than what
the members have counted since the first reading. -/
theorem totals_were_counted (h : ((system M S).restrict Continues).Reachable g) (stat : S) :
    g.acc.totals stat ≤ g.counted stat := by
  have hcovered : Covered g := by
    refine h.invariant ?_ ?_
    · rintro _ ⟨members, rfl⟩
      exact ⟨fun _ => Nat.le_refl _, nofun, nofun⟩
    · rintro g event _ - hcovered ⟨hcontinues, rfl⟩
      cases event with
      | count member amounts => exact hcovered.count member amounts
      | restart member statsReset => exact hcovered.restart member statsReset
      | observe primary => exact hcovered.observe hcontinues
  exact hcovered.totals stat

/-- The first member is read twice, and then the second, which has lost its counters in between. -/
def crashedRun : List (Event Bool Unit) :=
  [.observe true, .count true fun _ => 5, .observe true, .restart false none,
    .count false fun _ => 3, .observe false]

theorem totals_were_counted_crashedRun :
    let g := crashedRun.foldl next (start fun _ => ⟨fun _ => 10, none⟩)
    g.acc.totals () = 8 ∧ g.acc.totals () ≤ g.counted () := by
  have hreach : ((system Bool Unit).restrict Continues).Reachable
      (crashedRun.foldl next (start fun _ => ⟨fun _ => 10, none⟩)) := by
    refine .step (a := .observe false) (.step (a := .count false fun _ => 3)
      (.step (a := .restart false none) (.step (a := .observe true)
        (.step (a := .count true fun _ => 5) (.step (a := .observe true) (.init ⟨_, rfl⟩)
          ⟨Or.inl rfl, rfl⟩) ⟨trivial, rfl⟩) ⟨Or.inr (.inl rfl), rfl⟩) ⟨trivial, rfl⟩)
            ⟨trivial, rfl⟩) ⟨Or.inr (.inr rfl), rfl⟩
  exact ⟨rfl, totals_were_counted hreach ()⟩

/-- The second member has counted before the first reading; nobody counts after it, the role moves,
and the second member's past is metered. -/
theorem move_meters_the_past : ∃ g, (system Bool Unit).Reachable g ∧ g.acc.totals () = 90 ∧
    g.counted () = 0 :=
  ⟨[.observe false, .observe true].foldl next
      (start fun member => ⟨fun _ => if member then 100 else 10, none⟩),
    .step (.step (.init ⟨_, rfl⟩) rfl) rfl, rfl, rfl⟩

end PgElastic.Metering
