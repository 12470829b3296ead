import Mathlib

/-!
# Lists used as queues

Facts about lists that grow at the back and shrink at the front: what dropping a run of
items from one end does to an item appended at the other, and `Covered`, which says that
every item of one kind still has an item of another kind behind it.
-/

namespace PgElastic.Library

open List

variable {A : Type} {p q : A → Bool}

variable {item : A} {list : List A} {more : List A} {rest : List A}

/-- Dropping from the front stops at an item appended behind that is not dropped. -/
lemma dropWhile_append_singleton (hitem : p item = false) (list : List A) :
    (list ++ [item]).dropWhile p = list.dropWhile p ++ [item] := by
  rw [dropWhile_append]
  split
  · rename_i hempty
    rw [List.isEmpty_iff.mp hempty, dropWhile_cons_of_neg (by simp [hitem])]
    rfl
  · rfl

lemma dropWhile_append_of_mem (hmem : item ∈ list) (hitem : p item = false) :
    (list ++ more).dropWhile p = list.dropWhile p ++ more := by
  rw [dropWhile_append, if_neg]
  intro hempty
  have hall := dropWhile_eq_nil_iff.mp (List.isEmpty_iff.mp hempty) item hmem
  rw [hitem] at hall
  cases hall

lemma mem_dropWhile_of_not (hmem : item ∈ list) (hitem : p item = false) :
    item ∈ list.dropWhile p := by
  induction list with
  | nil => cases hmem
  | cons head rest ih =>
    rw [dropWhile_cons]
    split
    · rename_i hhead
      rcases mem_cons.mp hmem with rfl | hrest
      · rw [hitem] at hhead
        cases hhead
      · exact ih hrest
    · exact hmem

/-- When everything a filter removes would be dropped anyway, the two can be swapped. -/
lemma filter_dropWhile (hsub : ∀ item ∈ list, q item = false → p item) :
    (list.dropWhile p).filter q = (list.filter q).dropWhile p := by
  induction list with
  | nil => rfl
  | cons head rest ih =>
    have hrest : ∀ item ∈ rest, q item = false → p item :=
      fun item hitem => hsub item (mem_cons_of_mem _ hitem)
    rw [dropWhile_cons]
    split
    · rename_i hhead
      rw [ih hrest, filter_cons]
      split
      · rw [dropWhile_cons_of_pos hhead]
      · rfl
    rename_i hhead
    have hkept : q head := by
      cases hq : q head with
      | true => rfl
      | false => exact absurd (hsub head (mem_cons_self ..) hq) hhead
    rw [filter_cons_of_pos hkept, dropWhile_cons_of_neg hhead]

/-- Dropping items a filter removes anyway does not change what it keeps. -/
lemma filter_dropWhile_of_removed (h : ∀ item ∈ list, p item → q item = false) :
    (list.dropWhile p).filter q = list.filter q := by
  induction list with
  | nil => rfl
  | cons head rest ih =>
    rw [dropWhile_cons]
    split
    · rename_i hhead
      have hremoved : q head = false := h head mem_cons_self hhead
      rw [filter_cons_of_neg (by simp [hremoved])]
      exact ih fun item hitem => h item (mem_cons_of_mem _ hitem)
    · rfl

/-- Dropping from the back takes everything behind an item it stops at. -/
lemma rdropWhile_cons_of_all (hitem : p item = false)
    (hrest : ∀ other ∈ rest, p other) : (item :: rest).rdropWhile p = [item] := by
  have hdropped : rest.reverse.dropWhile p = [] :=
    dropWhile_eq_nil_iff.mpr fun other hother => hrest other (mem_reverse.mp hother)
  rw [List.rdropWhile, reverse_cons, dropWhile_append, hdropped, isEmpty_nil,
    if_pos rfl, dropWhile_cons_of_neg (by simp [hitem])]
  rfl

/-! ### Items with something behind them -/

/-- Every item with `p` has an item with `q` at its place or behind it. -/
def Covered (p q : A → Bool) : List A → Prop
  | [] => True
  | item :: rest => (p item = true → (item :: rest).any q = true) ∧ Covered p q rest

namespace Covered

lemma tail (h : Covered p q (item :: rest)) : Covered p q rest :=
  h.2

/-- Nothing is left to cover once no covering item is left. -/
lemma forall_not (h : Covered p q list) (hnone : ∀ item ∈ list, q item = false) :
    ∀ item ∈ list, p item = false := by
  induction list with
  | nil =>
    intro item hitem
    cases hitem
  | cons head rest ih =>
    have hany : (head :: rest).any q = false := List.any_eq_false.mpr (by simpa using hnone)
    have hhead : p head = false := by
      cases hp : p head with
      | false => rfl
      | true => exact absurd (h.1 hp) (by simp [hany])
    intro item hitem
    rcases mem_cons.mp hitem with rfl | hrest
    · exact hhead
    · exact ih h.2 (fun other hother => hnone other (mem_cons_of_mem _ hother)) item hrest

/-- Items that need no cover can be appended. -/
lemma append (h : Covered p q list) (hmore : ∀ item ∈ more, p item = false) : Covered p q (list ++ more) := by
  induction list with
  | nil =>
    change Covered p q more
    induction more with
    | nil => trivial
    | cons head rest ih =>
      have hhead : p head = false := hmore head mem_cons_self
      refine ⟨fun hp => absurd hp (by simp [hhead]), ?_⟩
      exact ih fun item hitem => hmore item (mem_cons_of_mem _ hitem)
  | cons head rest ih =>
    refine ⟨?_, ih h.2⟩
    intro hp
    change (head :: rest ++ more).any q = true
    rw [any_append, h.1 hp]
    rfl

/-- A covering item at the end covers everything. -/
lemma of_concat (hitem : q item) (list : List A) : Covered p q (list ++ [item]) := by
  induction list with
  | nil => exact ⟨fun _ => by simp [hitem], trivial⟩
  | cons head rest ih =>
    refine ⟨fun _ => ?_, ih⟩
    simp [hitem]

end Covered

end PgElastic.Library
