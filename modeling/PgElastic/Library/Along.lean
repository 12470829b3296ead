import Mathlib.Data.List.Basic

/-!
# Reading a list under a precondition

`Along ok step post items s` says that reading `items` from state `s` meets only
acceptable items and ends in a state with `post`.  It is the weakest precondition of the
loop over the list, and the rules below are the ones such a calculus has: sequencing, a
weaker postcondition, and the transport along a map that commutes with the steps.
-/

namespace PgElastic.Library

variable {S A : Type}

/-- Each item is acceptable where it is met, and `post` holds after the last one. -/
def Along (ok : S → A → Prop) (step : S → A → S) (post : S → Prop) : List A → S → Prop
  | [], s => post s
  | item :: rest, s => ok s item ∧ Along ok step post rest (step s item)

namespace Along

variable {ok : S → A → Prop} {step : S → A → S} {post post' : S → Prop}

lemma append {first second : List A} :
    ∀ {s : S}, Along ok step (Along ok step post second) first s →
      Along ok step post (first ++ second) s := by
  induction first with
  | nil =>
    intro s h
    exact h
  | cons item rest ih =>
    intro s h
    exact ⟨h.1, ih h.2⟩

variable {items : List A}

lemma mono (himp : ∀ s, post s → post' s) :
    ∀ {s : S}, Along ok step post items s → Along ok step post' items s := by
  induction items with
  | nil =>
    intro s h
    exact himp s h
  | cons item rest ih =>
    intro s h
    exact ⟨h.1, ih h.2⟩

/-- A map that keeps acceptable items acceptable and commutes with reading them carries
the whole reading over. -/
lemma map {f : S → S} (hf : ∀ s item, ok s item → ok (f s) item ∧ step (f s) item = f (step s item))
    (hpost : ∀ s, post s → post' (f s)) :
    ∀ {s : S}, Along ok step post items s → Along ok step post' items (f s) := by
  induction items with
  | nil =>
    intro s h
    exact hpost s h
  | cons item rest ih =>
    intro s h
    obtain ⟨hok, hstep⟩ := hf s item h.1
    refine ⟨hok, ?_⟩
    rw [hstep]
    exact ih h.2

/-- What every acceptable item keeps still holds at the end. -/
lemma reaches {invariant : S → Prop}
    (hstep : ∀ s item, ok s item → invariant s → invariant (step s item)) :
    ∀ {s : S}, Along ok step post items s → invariant s → ∃ t, invariant t ∧ post t := by
  induction items with
  | nil =>
    intro s h hs
    exact ⟨s, hs, h⟩
  | cons item rest ih =>
    intro s h hs
    exact ih h.2 (hstep s item h.1 hs)

end Along

end PgElastic.Library
