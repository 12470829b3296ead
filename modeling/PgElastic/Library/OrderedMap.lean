import Mathlib

/-!
# Ordered maps with aggregate sums

A finite map kept as an association list that is strictly sorted by key.  The
sortedness is a field of the structure, so a map with a repeated or misplaced
key cannot be built, and iteration in key order is iteration over `entries`.

Besides the lookup laws of `insert` and `erase`, the module provides the one
aggregate which bookkeeping arguments need: `sumOf f m`, the sum of `f` over all
entries.  The update laws are stated as balance equations,

* `sumOf_insert`: new sum plus the old contribution of the key equals the old
  sum plus the new contribution;
* `sumOf_erase`: new sum plus the erased contribution equals the old sum;

so that a client whose counters mirror such a sum closes its goals by linear
arithmetic and never looks at the underlying list.
-/

namespace PgElastic.Library

open Option List

/-- Membership in a list is decided by comparing its elements. -/
instance decidableMem {A : Type} [DecidableEq A] (a : A) (l : List A) : Decidable (a ∈ l) :=
  List.instDecidableMemOfLawfulBEq a l

/-- A finite map from an ordered key type, stored in strictly increasing key
order. -/
structure OrderedMap (K : Type) (V : Type) [LinearOrder K] where
  entries : List (K × V)
  sorted : entries.Pairwise (fun first second => first.1 < second.1)
  deriving DecidableEq

namespace OrderedMap

section Raw

variable {K V : Type} [LinearOrder K]

/-- First value filed under a key in an association list. -/
def lookupEntry (key : K) : List (K × V) → Option V
  | [] => none
  | (k, v) :: rest => if key = k then some v else lookupEntry key rest

/-- Insertion that keeps the list sorted and replaces an equal key. -/
def insertEntry (key : K) (value : V) : List (K × V) → List (K × V)
  | [] => [(key, value)]
  | (k, v) :: rest =>
    if key < k then (key, value) :: (k, v) :: rest
    else if key = k then (key, value) :: rest
    else (k, v) :: insertEntry key value rest

/-- Removal of every entry filed under a key. -/
def eraseEntry (key : K) (list : List (K × V)) : List (K × V) :=
  list.filter (fun entry => decide (entry.1 ≠ key))

variable {key : K} {value : V}

variable {list : List (K × V)}

lemma mem_insertEntry {entry : K × V} :
    entry ∈ insertEntry key value list → entry = (key, value) ∨ entry ∈ list := by
  induction list with
  | nil => intro h; simpa [insertEntry] using h
  | cons head rest ih =>
    obtain ⟨k, v⟩ := head
    intro h
    unfold insertEntry at h
    split at h
    · simpa using h
    split at h
    · rcases mem_cons.mp h with h | h
      · exact .inl h
      · exact .inr (mem_cons_of_mem _ h)
    rcases mem_cons.mp h with h | h
    · exact .inr (h ▸ mem_cons_self)
    · rcases ih h with h | h
      · exact .inl h
      · exact .inr (mem_cons_of_mem _ h)

lemma insertEntry_sorted : list.Pairwise (fun first second => first.1 < second.1) →
      (insertEntry key value list).Pairwise (fun first second => first.1 < second.1) := by
  induction list with
  | nil => intro _; simp [insertEntry]
  | cons head rest ih =>
    obtain ⟨k, v⟩ := head
    intro h
    obtain ⟨hhead, hrest⟩ := pairwise_cons.mp h
    unfold insertEntry
    split
    · rename_i hlt
      refine pairwise_cons.mpr ⟨?_, h⟩
      intro entry hentry
      rcases mem_cons.mp hentry with rfl | hentry
      · exact hlt
      · exact lt_trans hlt (hhead entry hentry)
    split
    · rename_i heq
      subst heq
      exact pairwise_cons.mpr ⟨hhead, hrest⟩
    rename_i hnlt hne
    refine pairwise_cons.mpr ⟨?_, ih hrest⟩
    intro entry hentry
    rcases mem_insertEntry hentry with rfl | hentry
    · exact lt_of_le_of_ne (not_lt.mp hnlt) (Ne.symm hne)
    · exact hhead entry hentry

lemma lookupEntry_insertEntry (key other : K) (value : V) (list : List (K × V)) :
    lookupEntry other (insertEntry key value list) =
      if other = key then some value else lookupEntry other list := by
  induction list with
  | nil => simp [insertEntry, lookupEntry]
  | cons head rest ih =>
    obtain ⟨k, v⟩ := head
    unfold insertEntry
    split
    · simp [lookupEntry]
    split
    · rename_i heq
      subst heq
      by_cases hother : other = key <;> simp [lookupEntry, hother]
    rename_i hnlt hne
    simp only [lookupEntry, ih]
    by_cases hk : other = k
    · have hother : other ≠ key := fun h => hne (h ▸ hk)
      simp [hk, Ne.symm hne]
    · simp [hk]

lemma lookupEntry_eraseEntry (key other : K) (list : List (K × V)) :
    lookupEntry other (eraseEntry key list) =
      if other = key then none else lookupEntry other list := by
  induction list with
  | nil => simp [eraseEntry, lookupEntry]
  | cons head rest ih =>
    obtain ⟨k, v⟩ := head
    unfold eraseEntry at ih ⊢
    by_cases hk : k = key
    · subst hk
      simp only [filter_cons, ne_eq, not_true_eq_false, decide_false,
        Bool.false_eq_true, if_false, ih, lookupEntry]
      by_cases hother : other = k <;> simp [hother]
    simp only [filter_cons, ne_eq, hk, not_false_eq_true, decide_true, if_true, lookupEntry, ih]
    by_cases hother : other = k
    · simp [hother, hk]
    · simp [hother]

lemma lookupEntry_eq_some_iff : list.Pairwise (fun first second => first.1 < second.1) →
      (lookupEntry key list = some value ↔ (key, value) ∈ list) := by
  induction list with
  | nil => intro _; simp [lookupEntry]
  | cons head rest ih =>
    obtain ⟨k, v⟩ := head
    intro h
    obtain ⟨hhead, hrest⟩ := pairwise_cons.mp h
    by_cases hk : key = k
    · subst hk
      have hnot : (key, value) ∉ rest := fun hmem => lt_irrefl _ (hhead (key, value) hmem)
      simp [lookupEntry, hnot, eq_comm]
    · simp [lookupEntry, hk, ih hrest]

/-- Sum of `f` over the entries of an association list. -/
def sumEntries (f : K → V → Nat) (list : List (K × V)) : Nat :=
  (list.map fun entry => f entry.1 entry.2).sum

end Raw

variable {K V W : Type} [LinearOrder K]

/-- The map without entries. -/
def empty : OrderedMap K V := ⟨[], List.Pairwise.nil⟩

/-- The value filed under a key. -/
def get? (m : OrderedMap K V) (key : K) : Option V := lookupEntry key m.entries

/-- Files a value under a key, replacing what was there. -/
def insert (m : OrderedMap K V) (key : K) (value : V) : OrderedMap K V :=
  ⟨insertEntry key value m.entries, insertEntry_sorted m.sorted⟩

/-- Forgets a key. -/
def erase (m : OrderedMap K V) (key : K) : OrderedMap K V :=
  ⟨eraseEntry key m.entries, m.sorted.filter _⟩

/-- Sets the binding of a key: `some` files a value, `none` forgets the key. -/
def assign (m : OrderedMap K V) (key : K) : Option V → OrderedMap K V
  | some value => m.insert key value
  | none => m.erase key

/-- Keeps the entries that satisfy a test. -/
def filter (m : OrderedMap K V) (keep : K → V → Bool) : OrderedMap K V :=
  ⟨m.entries.filter fun entry => keep entry.1 entry.2, m.sorted.filter _⟩

/-- Transforms every value in place. -/
def mapValues (m : OrderedMap K V) (g : K → V → W) : OrderedMap K W :=
  ⟨m.entries.map fun entry => (entry.1, g entry.1 entry.2), by
    rw [pairwise_map]
    exact m.sorted⟩

/-- The values, in key order. -/
def values (m : OrderedMap K V) : List V := m.entries.map Prod.snd

/-- Sum of `f` over all entries. -/
def sumOf (f : K → V → Nat) (m : OrderedMap K V) : Nat := sumEntries f m.entries

@[simp] lemma get?_empty (key : K) : (empty : OrderedMap K V).get? key = none := rfl

@[simp] lemma sumOf_empty (f : K → V → Nat) : sumOf f (empty : OrderedMap K V) = 0 := rfl

lemma get?_insert (m : OrderedMap K V) (key other : K) (value : V) :
    (m.insert key value).get? other = if other = key then some value else m.get? other :=
  lookupEntry_insertEntry key other value m.entries

@[simp] lemma get?_insert_self (m : OrderedMap K V) (key : K) (value : V) :
    (m.insert key value).get? key = some value := by
  simp [get?_insert]

variable {key : K} {m : OrderedMap K V} {f : K → V → Nat} {g : K → V → Nat} {value : V} {other : K}
  {found : V}

lemma get?_insert_of_ne (m : OrderedMap K V) (value : V) (h : other ≠ key) :
    (m.insert key value).get? other = m.get? other := by
  simp [get?_insert, h]

/-- What is found after an insertion is the new value or was there before. -/
lemma get?_insert_cases (h : (m.insert key value).get? other = some found) :
    other = key ∧ found = value ∨ other ≠ key ∧ m.get? other = some found := by
  rw [get?_insert] at h
  split at h
  · rename_i heq
    cases h
    exact .inl ⟨heq, rfl⟩
  · rename_i hne
    exact .inr ⟨hne, h⟩

lemma get?_erase (m : OrderedMap K V) (key other : K) :
    (m.erase key).get? other = if other = key then none else m.get? other :=
  lookupEntry_eraseEntry key other m.entries

lemma get?_of_erase (h : (m.erase key).get? other = some found) :
    other ≠ key ∧ m.get? other = some found := by
  rw [get?_erase] at h
  split at h
  · cases h
  · exact ⟨‹_›, h⟩

lemma mem_entries_iff (m : OrderedMap K V) (key : K) (value : V) :
    (key, value) ∈ m.entries ↔ m.get? key = some value :=
  (lookupEntry_eq_some_iff m.sorted).symm

lemma nodup_entries (m : OrderedMap K V) : m.entries.Nodup := by
  refine m.sorted.imp ?_
  rintro entry _ hlt rfl
  exact lt_irrefl _ hlt

/-- Maps with the same bindings are equal. -/
lemma ext_get? {n : OrderedMap K V} (h : ∀ key, m.get? key = n.get? key) : m = n := by
  have hperm : m.entries ~ n.entries := by
    refine (perm_ext_iff_of_nodup m.nodup_entries n.nodup_entries).mpr ?_
    rintro ⟨key, value⟩
    rw [mem_entries_iff, mem_entries_iff, h]
  have heq := hperm.eq_of_pairwise (fun _ _ _ _ hab hba => absurd hab hba.not_gt) m.sorted n.sorted
  cases m
  cases n
  congr

/-- Forgetting a key that is not filed changes nothing. -/
lemma erase_of_get?_eq_none (h : m.get? key = none) : m.erase key = m := by
  refine ext_get? fun other => ?_
  rw [get?_erase]
  split
  · simp_all
  · rfl

/-- A map is what one of its entries adds to the rest. -/
lemma perm_erase (h : m.get? key = some value) :
    m.entries ~ (key, value) :: (m.erase key).entries := by
  have hnew : (key, value) ∉ (m.erase key).entries := by simp [mem_entries_iff, get?_erase]
  refine (perm_ext_iff_of_nodup m.nodup_entries (nodup_cons.mpr ⟨hnew, nodup_entries _⟩)).mpr ?_
  rintro ⟨k, v⟩
  rw [mem_cons, mem_entries_iff, mem_entries_iff, get?_erase, Prod.mk.injEq]
  by_cases hk : k = key
  · simp [hk, h, eq_comm]
  · simp [hk]

lemma mem_values_iff (m : OrderedMap K V) (value : V) :
    value ∈ m.values ↔ ∃ key, m.get? key = some value := by
  unfold values
  constructor
  · intro h
    obtain ⟨⟨key, _⟩, hentry, rfl⟩ := List.mem_map.mp h
    exact ⟨key, (m.mem_entries_iff key _).mp hentry⟩
  · rintro ⟨key, hkey⟩
    exact List.mem_map.mpr ⟨(key, value), (m.mem_entries_iff key value).mpr hkey, rfl⟩

lemma get?_filter (m : OrderedMap K V) (keep : K → V → Bool) (key : K) :
    (m.filter keep).get? key = (m.get? key).filter (keep key) := by
  apply Option.ext
  intro value
  rw [← mem_entries_iff]
  simp only [filter, mem_filter, filter_eq_some_iff]
  rw [mem_entries_iff]

lemma get?_mapValues (m : OrderedMap K V) (g : K → V → W) (key : K) :
    (m.mapValues g).get? key = (m.get? key).map (g key) := by
  apply Option.ext
  intro value
  rw [← mem_entries_iff]
  simp only [mapValues, List.mem_map, Prod.mk.injEq, map_eq_some_iff]
  constructor
  · rintro ⟨⟨k, v⟩, hentry, rfl, rfl⟩
    exact ⟨v, (m.mem_entries_iff k v).mp hentry, rfl⟩
  · rintro ⟨v, hv, rfl⟩
    exact ⟨(key, v), (m.mem_entries_iff key v).mpr hv, rfl, rfl⟩

lemma sumOf_erase (f : K → V → Nat) (m : OrderedMap K V) (key : K) :
    sumOf f (m.erase key) + (m.get? key).elim 0 (f key) = sumOf f m := by
  cases h : m.get? key with
  | none => rw [erase_of_get?_eq_none h, elim_none, add_zero]
  | some value =>
    have hsum := ((perm_erase h).map fun entry => f entry.1 entry.2).sum_eq
    simpa [sumOf, sumEntries, add_comm] using hsum.symm

lemma erase_insert (m : OrderedMap K V) (key : K) (value : V) :
    (m.insert key value).erase key = m.erase key := by
  refine ext_get? fun other => ?_
  rw [get?_erase, get?_erase, get?_insert]
  split <;> rfl

lemma sumOf_insert (f : K → V → Nat) (m : OrderedMap K V) (key : K) (value : V) :
    sumOf f (m.insert key value) + (m.get? key).elim 0 (f key) = sumOf f m + f key value := by
  rw [← sumOf_erase f (m.insert key value) key, ← sumOf_erase f m key, erase_insert,
    get?_insert_self, elim_some]
  omega

lemma get?_assign (m : OrderedMap K V) (key other : K) (value : Option V) :
    (m.assign key value).get? other = if other = key then value else m.get? other := by
  cases value with
  | some v => exact m.get?_insert key other v
  | none => exact m.get?_erase key other

lemma sumOf_assign (f : K → V → Nat) (m : OrderedMap K V) (key : K) (value : Option V) :
    sumOf f (m.assign key value) + (m.get? key).elim 0 (f key) =
      sumOf f m + value.elim 0 (f key) := by
  cases value with
  | some v => exact m.sumOf_insert f key v
  | none => exact m.sumOf_erase f key

lemma sumOf_mapValues (f : K → W → Nat) (m : OrderedMap K V) (g : K → V → W) :
    sumOf f (m.mapValues g) = sumOf (fun key value => f key (g key value)) m := by
  simp [sumOf, sumEntries, mapValues, List.map_map, Function.comp_def]

lemma sumOf_filter (f : K → V → Nat) (m : OrderedMap K V) (keep : K → V → Bool) :
    sumOf f (m.filter keep) =
      sumOf (fun key value => if keep key value then f key value else 0) m := by
  change ((m.entries.filter fun entry => keep entry.1 entry.2).map
    fun entry => f entry.1 entry.2).sum = _
  unfold sumOf sumEntries
  induction m.entries with
  | nil => rfl
  | cons head rest ih =>
    simp only [map_cons, sum_cons, filter_cons]
    split
    · simp only [map_cons, sum_cons, ih]
    · simp only [ih]
      simp

lemma sumOf_congr (h : ∀ key value, m.get? key = some value → f key value = g key value) :
    sumOf f m = sumOf g m := by
  unfold sumOf sumEntries
  congr 1
  apply map_congr_left
  rintro ⟨key, value⟩ hentry
  exact h key value ((m.mem_entries_iff key value).mp hentry)

lemma sumOf_add (f g : K → V → Nat) (m : OrderedMap K V) :
    sumOf (fun key value => f key value + g key value) m = sumOf f m + sumOf g m :=
  List.sum_map_add

/-- Two sums are exchanged. -/
lemma sumOf_comm {L : Type} [LinearOrder L] (f : K → V → L → W → Nat) (m : OrderedMap K V)
    (n : OrderedMap L W) :
    sumOf (fun key value => sumOf (f key value) n) m =
      sumOf (fun other item => sumOf (fun key value => f key value other item) m) n := by
  unfold sumOf sumEntries
  induction m.entries with
  | nil => simp
  | cons head rest ih => simp only [map_cons, sum_cons, ih, List.sum_map_add]

/-- One entry's contribution is bounded by the whole sum. -/
lemma le_sumOf (h : m.get? key = some value) : f key value ≤ sumOf f m := by
  have hbalance := sumOf_erase f m key
  simp only [h, elim_some] at hbalance
  omega

/-- A sum vanishes exactly when every entry's contribution does. -/
lemma sumOf_eq_zero_iff :
    sumOf f m = 0 ↔ ∀ key value, m.get? key = some value → f key value = 0 := by
  constructor
  · intro h key value hkey
    have hle := le_sumOf (f := f) hkey
    omega
  · intro h
    rw [sumOf_congr h]
    simp [sumOf, sumEntries]

/-- A pointwise bound carries over to the sums. -/
lemma sumOf_mono (h : ∀ key value, m.get? key = some value → f key value ≤ g key value) :
    sumOf f m ≤ sumOf g m := by
  refine List.sum_le_sum ?_
  rintro ⟨key, value⟩ hentry
  exact h key value ((m.mem_entries_iff key value).mp hentry)

/-- Counting the values with a property is the sum of its indicator. -/
lemma countP_values (p : V → Bool) (m : OrderedMap K V) :
    m.values.countP p = sumOf (fun _ value => if p value then 1 else 0) m := by
  unfold values sumOf sumEntries
  induction m.entries with
  | nil => rfl
  | cons head rest ih =>
    simp only [map_cons, countP_cons, sum_cons, ih]
    omega

end OrderedMap

/-- A finite set kept in increasing order: an ordered map without payload. -/
structure OrderedSet (A : Type) [LinearOrder A] where
  members : OrderedMap A Unit

namespace OrderedSet

variable {A : Type} [LinearOrder A]

/-- The set without members. -/
def empty : OrderedSet A := ⟨OrderedMap.empty⟩

def insert (s : OrderedSet A) (a : A) : OrderedSet A := ⟨s.members.insert a ()⟩

def erase (s : OrderedSet A) (a : A) : OrderedSet A := ⟨s.members.erase a⟩

/-- The members, smallest first. -/
def toList (s : OrderedSet A) : List A := s.members.entries.map Prod.fst

/-- The largest member. -/
def last? (s : OrderedSet A) : Option A := s.toList.getLast?

instance : Membership A (OrderedSet A) := ⟨fun s a => s.members.get? a = some ()⟩

variable {s : OrderedSet A} {a : A} {b : A}

lemma mem_iff_get? : a ∈ s ↔ s.members.get? a = some () := Iff.rfl

@[simp] lemma not_mem_empty (a : A) : a ∉ (empty : OrderedSet A) := by
  simp [mem_iff_get?, empty]

@[simp] lemma mem_insert : b ∈ s.insert a ↔ b = a ∨ b ∈ s := by
  rw [mem_iff_get?, mem_iff_get?, insert, OrderedMap.get?_insert]
  by_cases h : b = a <;> simp [h]

@[simp] lemma mem_erase : b ∈ s.erase a ↔ b ≠ a ∧ b ∈ s := by
  rw [mem_iff_get?, mem_iff_get?, erase, OrderedMap.get?_erase]
  by_cases h : b = a <;> simp [h]

@[simp] lemma mem_toList : a ∈ s.toList ↔ a ∈ s := by
  rw [mem_iff_get?, ← OrderedMap.mem_entries_iff, toList, List.mem_map]
  constructor
  · rintro ⟨⟨b, u⟩, hentry, rfl⟩
    exact hentry
  · intro h
    exact ⟨(a, ()), h, rfl⟩

lemma mem_of_last? (h : s.last? = some a) : a ∈ s :=
  mem_toList.mp (mem_of_getLast? h)

/-- A set without a largest member has no member. -/
lemma last?_eq_none_iff : s.last? = none ↔ ∀ a, a ∉ s := by
  constructor
  · intro h a hmem
    have hnil : s.toList = [] := by simpa [last?] using h
    rw [← mem_toList, hnil] at hmem
    cases hmem
  intro h
  cases hlast : s.last? with
  | none => rfl
  | some a => exact absurd (mem_of_last? hlast) (h a)

end OrderedSet
end PgElastic.Library
