import Mathlib.Data.List.Induction

/-!
# Transition systems, runs and invariants

A system has initial states and a labelled step relation.  A safety statement is
an invariant of its reachable states; `Reachable.invariant` is the one induction
every such statement goes through.

Two refinements of reachability are used below the claims of a development:

* `restrict` keeps only the steps that meet a condition on the state before the
  step and on its label, so "in every run whose steps all meet the condition" is
  reachability in the restricted system;
* `Path` records the labels of a run segment, so statements can speak about what
  happens between two points of a run.

`foldlM_invariant` is the corresponding rule for a fallible loop over a list.

Where the steps can be computed, `run` replays a concrete list of labels and
`reachable_of_run` turns such a replay into reachability; `path_of_guarded_run` does
the same for a restricted system.
-/

namespace PgElastic.Library

open List Option

/-- A fallible loop over a list runs to its end when each iteration succeeds and
re-establishes an invariant that may speak about the items still to come. -/
lemma foldlM_invariant {A B : Type} {f : B → A → Option B} {motive : List A → B → Prop}
    (hstep : ∀ item rest b, motive (item :: rest) b → ∃ b', f b item = some b' ∧ motive rest b')
    {items : List A} {b : B} :
    motive items b → ∃ b', items.foldlM f b = some b' ∧ motive [] b' := by
  induction items generalizing b with
  | nil =>
    intro h
    exact ⟨b, rfl, h⟩
  | cons item rest ih =>
    intro h
    obtain ⟨b1, hb1, h1⟩ := hstep item rest b h
    obtain ⟨b2, hb2, h2⟩ := ih h1
    refine ⟨b2, ?_, h2⟩
    rw [foldlM_cons, hb1]
    exact hb2

/-- What each iteration of a fallible loop keeps, a loop that ran to its end has kept. -/
lemma foldlM_keeps {A B : Type} {f : B → A → Option B} {motive : List A → B → Prop}
    (hstep : ∀ item rest b b', motive (item :: rest) b → f b item = some b' → motive rest b')
    {items : List A} {b b' : B} : motive items b → items.foldlM f b = some b' → motive [] b' := by
  induction items generalizing b b' with
  | nil =>
    intro h hrun
    cases hrun
    exact h
  | cons item rest ih =>
    intro h hrun
    rw [foldlM_cons, bind_eq_bind, bind_eq_some_iff] at hrun
    obtain ⟨b1, hb1, hrest⟩ := hrun
    exact ih (hstep item rest b b1 h hb1) hrest

/-- A computation with a result of which a property is checked. -/
lemma exists_of_any {A : Type} {x : Option A} {P : A → Prop} [DecidablePred P]
    (h : x.any (fun a => decide (P a))) : ∃ a, x = some a ∧ P a := by
  obtain ⟨a, hx, ha⟩ := (any_eq_true _ _).mp h
  exact ⟨a, hx, of_decide_eq_true ha⟩

section

variable {E A B : Type} {r : Except E A}

lemma ok_of_toOption {v : A} (h : r.toOption = some v) : r = .ok v := by
  cases r with
  | error e => cases h
  | ok w =>
    cases h
    rfl

/-- What follows a fallible computation ends well only after that computation did. -/
lemma ok_of_bind {f : A → Except E B} {v : B} (h : r.bind f = .ok v) :
    ∃ w, r = .ok w ∧ f w = .ok v := by
  cases r with
  | error e => cases h
  | ok w => exact ⟨w, rfl, h⟩

lemma ok_of_map {f : A → B} {v : B} (h : r.map f = .ok v) : ∃ w, r = .ok w ∧ f w = v := by
  cases r with
  | error e => cases h
  | ok w => exact ⟨w, rfl, Except.ok.inj h⟩

end

/-- A labelled transition system with initial states. -/
structure System (State : Type) (Action : Type) where
  init : State → Prop
  step : State → Action → State → Prop

namespace System

variable {State Action : Type}

/-- States reached from an initial state by finitely many steps. -/
inductive Reachable (S : System State Action) : State → Prop
  | init {s : State} : S.init s → Reachable S s
  | step {s t : State} {a : Action} :
      Reachable S s → S.step s a t → Reachable S t

/-- The same system, taking only the steps allowed by a condition on the state
before the step and its label. -/
def restrict (S : System State Action) (allowed : State → Action → Prop) :
    System State Action where
  init := S.init
  step := fun s a t => allowed s a ∧ S.step s a t

/-- A run segment together with its labels, oldest first. -/
inductive Path (S : System State Action) : State → List Action → State → Prop
  | nil (s : State) : Path S s [] s
  | snoc {s t u : State} {as : List Action} {a : Action} :
      Path S s as t → S.step t a u → Path S s (as ++ [a]) u

variable {S : System State Action}

variable {s t : State} {allowed : State → Action → Prop} {as : List Action}
  {next : State → Action → Option State} {test : State → Action → Bool} {I : State → Prop}

/-- Every predicate that holds initially and is kept by each step from a
reachable state holds in every reachable state. -/
lemma Reachable.invariant (hinit : ∀ s, S.init s → I s)
    (hstep : ∀ s a t, S.Reachable s → I s → S.step s a t → I t) (h : S.Reachable s) : I s := by
  induction h with
  | init hs => exact hinit _ hs
  | step hr hs ih => exact hstep _ _ _ hr ih hs

/-- Leaving steps out reaches no new state. -/
lemma Reachable.of_restrict (h : (S.restrict allowed).Reachable s) : S.Reachable s := by
  induction h with
  | init hs => exact Reachable.init hs
  | step _ hs ih => exact Reachable.step ih hs.2

/-- A run whose steps meet a condition meets every weaker one. -/
lemma Reachable.restrict_mono {wider : State → Action → Prop}
    (hwider : ∀ s a, allowed s a → wider s a) (h : (S.restrict allowed).Reachable s) :
    (S.restrict wider).Reachable s := by
  induction h with
  | init hs => exact Reachable.init hs
  | step _ hs ih => exact Reachable.step ih ⟨hwider _ _ hs.1, hs.2⟩

/-- A predicate kept by each step of a segment holds at its end when it holds at
its start. -/
lemma Path.invariant (hstep : ∀ s a t, I s → S.step s a t → I t)
    (h : S.Path s as t) (hs : I s) : I t := by
  induction h with
  | nil => exact hs
  | snoc _ hlast ih => exact hstep _ _ _ ih hlast

/-- The end of a segment that starts in a reachable state is reachable. -/
lemma Path.reachable (h : S.Path s as t) (hs : S.Reachable s) : S.Reachable t := by
  induction h with
  | nil => exact hs
  | snoc _ hlast ih => exact Reachable.step ih hlast

lemma Path.of_restrict (h : (S.restrict allowed).Path s as t) : S.Path s as t := by
  induction h with
  | nil => exact Path.nil _
  | snoc _ hlast ih => exact Path.snoc ih hlast.2

/-- Segments that meet are one segment. -/
lemma Path.append {u : State} {bs : List Action} (h : S.Path s as t) (h' : S.Path t bs u) :
    S.Path s (as ++ bs) u := by
  induction h' with
  | nil =>
    rw [append_nil]
    exact h
  | snoc _ hlast ih =>
    rw [← append_assoc]
    exact Path.snoc ih hlast

/-- Replays a list of labels. -/
def run (next : State → Action → Option State) : State → List Action → Option State
  | s, [] => some s
  | s, a :: as => (next s a).bind fun t => run next t as

lemma run_append_singleton (next : State → Action → Option State) (a : Action) :
    ∀ (as : List Action) (s : State),
      run next s (as ++ [a]) = (run next s as).bind fun t => next t a := by
  intro as
  induction as with
  | nil => intro s; simp [run]
  | cons b as ih =>
    intro s
    simp only [cons_append, run, bind_assoc]
    congr 1
    funext t
    exact ih t

/-- A replay is a run segment of every system that allows the steps it takes. -/
lemma path_of_run :
    ∀ {as : List Action} {s t : State}, (∀ a ∈ as, ∀ s t, next s a = some t → S.step s a t) →
      run next s as = some t → S.Path s as t := by
  intro as
  induction as using List.reverseRecOn with
  | nil =>
    intro s t _ h
    cases h
    exact Path.nil _
  | append_singleton as a ih =>
    intro s t hnext h
    rw [run_append_singleton] at h
    obtain ⟨u, hu, hlast⟩ := bind_eq_some_iff.mp h
    have hinit : ∀ b ∈ as, ∀ s t, next s b = some t → S.step s b t :=
      fun b hb => hnext b (mem_append_left _ hb)
    exact Path.snoc (ih hinit hu) (hnext a (mem_append_right _ (by simp)) _ _ hlast)

/-- A replay from a reachable state ends in a reachable state. -/
lemma reachable_of_run (hnext : ∀ a ∈ as, ∀ s t, next s a = some t → S.step s a t)
    (hs : S.Reachable s) (h : run next s as = some t) : S.Reachable t :=
  (path_of_run hnext h).reachable hs

/-- Takes a step only where a test allows it. -/
def guarded (next : State → Action → Option State) (test : State → Action → Bool)
    (s : State) (a : Action) : Option State :=
  if test s a then next s a else none

/-- A replay of tested steps is a run segment of the system restricted to what the
test establishes. -/
lemma path_of_guarded_run
    (hnext : ∀ s a t, next s a = some t → S.step s a t) (htest : ∀ s a, test s a → allowed s a)
    (h : run (guarded next test) s as = some t) : (S.restrict allowed).Path s as t := by
  refine path_of_run ?_ h
  intro a _ u v huv
  unfold guarded at huv
  split at huv
  · rename_i hpassed
    exact ⟨htest u a hpassed, hnext u a v huv⟩
  · cases huv

lemma reachable_of_guarded_run (hnext : ∀ s a t, next s a = some t → S.step s a t) (hs : S.init s)
    (h : run (guarded next test) s as = some t) :
    (S.restrict fun s a => test s a).Reachable t :=
  (path_of_guarded_run hnext (fun _ _ => id) h).reachable (.init hs)

end System
end PgElastic.Library
