import PgElastic.Library.Transition
import PgElastic.Pool.Statements

/-!
# The link's view of the backend's statements

`ServerStatements` decides what to send before it knows what became of what it sent last.
Here its decisions are carried out on the backend's own table of statement names, with any
of the commands failing on the way, and compared with it: does a `Parse` ever name a
statement the backend still holds, and is a statement reported ready really there?

An error drops the view (`forget`); the table keeps whatever it held.
-/

namespace PgElastic.Pool

open Library Wire StatementName List

/-! ### What a decision comes to -/

namespace ServerStatements

/-- The cases of `ensure`, as changes to the set of tracked statements. -/
inductive Ensured (view : ServerStatements) (statement : PreparedStatement) :
    ServerAction → ServerStatements → Prop
  | known (after : ServerStatements) :
      statement.id ∈ view.recency →
      (∀ id, id ∈ after.recency ↔ id ∈ view.recency) → after.forgotten = view.forgotten →
      Ensured view statement .ready after
  | added (after : ServerStatements) :
      statement.id ∉ view.recency → view.forgotten = false →
      (∀ id, id ∈ after.recency ↔ id = statement.id ∨ id ∈ view.recency) →
      after.forgotten = false →
      Ensured view statement (.parse statement.name) after
  /-- The view was dropped: the name is closed before it is used again. -/
  | reopened (after : ServerStatements) :
      statement.id ∉ view.recency → view.forgotten = true →
      (∀ id, id ∈ after.recency ↔ id = statement.id ∨ id ∈ view.recency) →
      after.forgotten = true →
      Ensured view statement (.evictThenParse statement.name statement.name) after
  | replaced (victim : Nat) (after : ServerStatements) :
      statement.id ∉ view.recency → view.isFull = true → victim ∈ view.recency →
      (∀ id, id ∈ after.recency ↔ id = statement.id ∨ id ∈ view.recency ∧ id ≠ victim) →
      after.forgotten = view.forgotten →
      Ensured view statement (.evictThenParse (generated victim) statement.name) after

variable {view : ServerStatements}

variable {statement : PreparedStatement}

lemma contains_iff : view.contains statement ↔ statement.id ∈ view.recency :=
  (view.tracked statement.id).symm

/-- A full view has something to evict. -/
lemma recency_ne_nil_of_isFull (h : view.isFull) : view.recency ≠ [] := by
  intro hnil
  have hlength : view.capacity ≤ view.names.entries.length := by simpa [isFull] using h
  have hpositive := view.positive
  cases hentries : view.names.entries with
  | nil =>
    rw [hentries, length_nil] at hlength
    omega
  | cons entry rest =>
    have hget : view.names.get? entry.1 = some entry.2 := by
      rw [← OrderedMap.mem_entries_iff, hentries]
      exact mem_cons_self
    have hmem : entry.1 ∈ view.recency := by
      rw [view.tracked, hget]
      rfl
    rw [hnil] at hmem
    cases hmem

/-- What evicting from a full view takes out. -/
lemma evictOldest_cases (h : view.recency ≠ []) :
    ∃ victim, victim ∈ view.recency ∧ view.evictOldest.1 = some (generated victim) ∧
      (∀ id, id ∈ view.evictOldest.2.recency ↔ id ∈ view.recency ∧ id ≠ victim) ∧
      view.evictOldest.2.forgotten = view.forgotten := by
  unfold evictOldest
  split
  · rename_i hnil
    exact absurd hnil h
  rename_i victim rest hrecency
  have hmem : victim ∈ view.recency := by
    rw [hrecency]
    exact mem_cons_self
  obtain ⟨name, hname⟩ := Option.isSome_iff_exists.mp ((view.tracked victim).mp hmem)
  refine ⟨victim, hmem, ?_, ?_, rfl⟩
  · rw [← view.minted victim name hname]
    exact hname
  intro id
  have hdistinct := view.distinct
  rw [hrecency] at hdistinct
  have hgone : victim ∉ rest := (nodup_cons.mp hdistinct).1
  have hsplit : id ∈ view.recency ↔ id = victim ∨ id ∈ rest := by
    rw [hrecency, mem_cons]
  rw [hsplit]
  constructor
  · intro hid
    refine ⟨.inr hid, ?_⟩
    rintro rfl
    exact hgone hid
  · rintro ⟨rfl | hid, hother⟩
    · exact absurd rfl hother
    · exact hid

lemma mem_track (h : view.contains statement = false) (id : Nat) :
    id ∈ (view.track statement h).recency ↔ id = statement.id ∨ id ∈ view.recency := by
  change id ∈ view.recency ++ [statement.id] ↔ _
  rw [mem_append, mem_singleton, or_comm]

lemma mem_touch {id : Nat} (h : id ∈ view.recency) (other : Nat) :
    other ∈ (view.touch id h).recency ↔ other ∈ view.recency := by
  rw [(view.touch id h).tracked, view.tracked]
  rfl

lemma ensure_cases (view : ServerStatements) (statement : PreparedStatement) :
    Ensured view statement (view.ensure statement).1 (view.ensure statement).2 := by
  unfold ensure
  split
  · rename_i hknown
    have hmem := contains_iff.mp hknown
    exact .known _ hmem (mem_touch hmem) rfl
  rename_i hunknown
  have hnew : statement.id ∉ view.recency := by
    intro hmem
    rw [contains_iff.mpr hmem] at hunknown
    cases hunknown
  cases hfull : view.isFull with
  | false =>
    have hroom : view.makeRoom = (none, view) := by simp [makeRoom, hfull]
    have hmem id : id ∈ (view.makeRoom.2.track statement (contains_makeRoom hunknown)).recency ↔
        id = statement.id ∨ id ∈ view.recency := by
      rw [mem_track, hroom]
    have hkept : (view.makeRoom.2.track statement
        (contains_makeRoom hunknown)).forgotten = view.forgotten := by
      change view.makeRoom.2.forgotten = _
      rw [hroom]
    dsimp only
    rw [congrArg Prod.fst hroom]
    cases hforgotten : view.forgotten with
    | true => exact .reopened _ hnew hforgotten hmem (hkept.trans hforgotten)
    | false => exact .added _ hnew hforgotten hmem (hkept.trans hforgotten)
  | true =>
    have hroom : view.makeRoom = view.evictOldest := by simp [makeRoom, hfull]
    obtain ⟨victim, hvictim, hevict, hrest, hforgotten⟩ :=
      evictOldest_cases (recency_ne_nil_of_isFull hfull)
    have hmem id : id ∈ (view.makeRoom.2.track statement (contains_makeRoom hunknown)).recency ↔
        id = statement.id ∨ id ∈ view.recency ∧ id ≠ victim := by
      rw [mem_track, hroom, hrest]
    have hkept : (view.makeRoom.2.track statement
        (contains_makeRoom hunknown)).forgotten = view.forgotten := by
      change view.makeRoom.2.forgotten = _
      rw [hroom]
      exact hforgotten
    dsimp only
    rw [congrArg Prod.fst hroom, hevict]
    exact .replaced victim _ hnew hfull hvictim hmem hkept

end ServerStatements

/-! ### Carrying decisions out -/

/-- What a decision sends to the backend. -/
inductive Command
  | close (name : Bytes)
  | parse (name : Bytes)
  deriving DecidableEq, Repr

def ServerAction.commands : ServerAction → List Command
  | .ready => []
  | .parse name => [.parse name]
  | .evictThenParse evict name => [.close evict, .parse name]

/-- Which commands of a decision fail, for a reason of their own or because the backend
discards them. -/
structure Fate where
  closeFails : Bool
  parseFails : Bool
  deriving DecidableEq, Repr

def Fate.succeeds : Fate := ⟨false, false⟩

namespace Command

def fails (fate : Fate) : Command → Bool
  | .close _ => fate.closeFails
  | .parse _ => fate.parseFails

/-- What a command leaves of the backend's table. -/
def run (fate : Fate) (table : Finset Bytes) : Command → Finset Bytes
  | .close name => if fate.closeFails then table else table.erase name
  | .parse name => if fate.parseFails then table else insert name table

/-- A `Parse` that reaches the table and meets its own name there: `42P05`. -/
def isRefused (fate : Fate) (table : Finset Bytes) : Command → Bool
  | .close _ => false
  | .parse name => !fate.parseFails && decide (name ∈ table)

end Command

open Command

def runCommands (fate : Fate) : Finset Bytes → List Command → Finset Bytes
  | table, [] => table
  | table, command :: rest => runCommands fate (command.run fate table) rest

/-- One of the commands is refused. -/
def refused (fate : Fate) : Finset Bytes → List Command → Bool
  | _, [] => false
  | table, command :: rest =>
    command.isRefused fate table || refused fate (command.run fate table) rest

/-- A link's view and the backend's table. -/
structure LinkTables where
  view : ServerStatements
  table : Finset Bytes
  /-- A command has failed since the view was last dropped. -/
  failed : Bool
  /-- A `Close` has. -/
  closeLost : Bool

namespace LinkTables

def fresh (capacity : Nat) : LinkTables := ⟨ServerStatements.new capacity, ∅, false, false⟩

def commands (tables : LinkTables) (statement : PreparedStatement) : List Command :=
  (tables.view.ensure statement).1.commands

def isClose : Command → Bool
  | .close _ => true
  | .parse _ => false

def ensure (tables : LinkTables) (statement : PreparedStatement) (fate : Fate) :
    LinkTables where
  view := (tables.view.ensure statement).2
  table := runCommands fate tables.table (tables.commands statement)
  failed := tables.failed || (tables.commands statement).any fun command => command.fails fate
  closeLost := tables.closeLost ||
    (tables.commands statement).any fun command => isClose command && command.fails fate

/-- An `ErrorResponse` has been received. -/
def forget (tables : LinkTables) : LinkTables :=
  { tables with view := tables.view.forget, failed := false, closeLost := false }

/-- The backend has dropped every statement, and the view is told. -/
def clear (tables : LinkTables) : LinkTables :=
  ⟨tables.view.clear, ∅, false, false⟩

/-! ### Runs -/

inductive Action
  | ensure (statement : PreparedStatement) (fate : Fate)
  | forget
  | clear
  deriving DecidableEq, Repr

def next (tables : LinkTables) : Action → LinkTables
  | .ensure statement fate => tables.ensure statement fate
  | .forget => tables.forget
  | .clear => tables.clear

def system (capacity : Nat) : System LinkTables Action where
  init := fun tables => tables = fresh capacity
  step := fun tables action after => tables.next action = after

/-- Where a statement has to be sent: a view that has been dropped still has room, no
`Close` is lost, and a `Close` fails only together with the `Parse` behind it. -/
def mayEnsure (tables : LinkTables) (statement : PreparedStatement) (fate : Fate) : Bool :=
  tables.view.contains statement ||
    ((!tables.view.forgotten || !tables.view.isFull) && !tables.closeLost &&
      (!fate.closeFails || fate.parseFails))

/-! ### What the view knows about the table -/

/-- Every statement the backend holds is tracked, unless the view has been dropped. -/
def Covered (tables : LinkTables) : Prop :=
  tables.view.forgotten = false → tables.closeLost = false →
    ∀ name ∈ tables.table, ∃ id ∈ tables.view.recency, name = generated id

/-- Every tracked statement is held, unless a command has failed. -/
def Held (tables : LinkTables) : Prop :=
  tables.failed = false → ∀ id ∈ tables.view.recency, generated id ∈ tables.table

variable {tables : LinkTables} {statement : PreparedStatement} {fate : Fate}

/-- A statement the view does not track is not held either. -/
lemma Covered.not_held (h : tables.Covered) (hforgotten : tables.view.forgotten = false)
    (hlost : tables.closeLost = false) (hnew : statement.id ∉ tables.view.recency) :
    statement.name ∉ tables.table := by
  intro hheld
  obtain ⟨id, hid, hname⟩ := h hforgotten hlost statement.name hheld
  rw [statement.minted] at hname
  rw [generated_injective hname] at hnew
  exact hnew hid

/-- What the condition says about a statement that has to be sent. -/
lemma mayEnsure_of_new (h : tables.mayEnsure statement fate)
    (hnew : statement.id ∉ tables.view.recency) :
    (tables.view.forgotten → tables.view.isFull = false) ∧ tables.closeLost = false ∧
      (fate.closeFails → fate.parseFails) := by
  have hunknown : tables.view.contains statement = false := by
    rw [Bool.eq_false_iff]
    intro hknown
    exact hnew (ServerStatements.contains_iff.mp hknown)
  unfold mayEnsure at h
  rw [hunknown, Bool.false_or, Bool.and_eq_true, Bool.and_eq_true] at h
  obtain ⟨⟨hroom, hlost⟩, hfate⟩ := h
  refine ⟨?_, by simpa using hlost, ?_⟩
  · intro hforgotten
    rw [hforgotten] at hroom
    simpa using hroom
  · intro hcloses
    rw [hcloses] at hfate
    simpa using hfate

/-- Where a statement may be sent, none of the commands it takes is refused. -/
lemma not_refused (h : tables.Covered) (hmay : tables.mayEnsure statement fate) :
    refused fate tables.table (tables.commands statement) = false := by
  have hcases := tables.view.ensure_cases statement
  unfold commands
  generalize tables.view.ensure statement = result at hcases ⊢
  obtain ⟨action, after⟩ := result
  cases hcases with
  | known after hmem hsame hforgotten => rfl
  | added after hnew hview hmem hforgotten =>
    obtain ⟨-, hlost, -⟩ := mayEnsure_of_new hmay hnew
    have hfree := h.not_held hview hlost hnew
    simp [ServerAction.commands, refused, isRefused, hfree]
  | reopened after hnew hview hmem hforgotten =>
    obtain ⟨-, -, hfate⟩ := mayEnsure_of_new hmay hnew
    -- a `Parse` that follows the `Close` of its own name is not refused
    cases hcloses : fate.closeFails with
    | true => simp [ServerAction.commands, refused, isRefused, hfate hcloses]
    | false => simp [ServerAction.commands, refused, isRefused, run, hcloses]
  | replaced victim after hnew hfull hvictim hmem hforgotten =>
    obtain ⟨hroom, hlost, hfate⟩ := mayEnsure_of_new hmay hnew
    have hview : tables.view.forgotten = false := by
      rw [Bool.eq_false_iff]
      intro hdropped
      rw [hroom hdropped] at hfull
      cases hfull
    have hfree := h.not_held hview hlost hnew
    cases hcloses : fate.closeFails with
    | true =>
      simp [ServerAction.commands, refused, isRefused, hfate hcloses]
    | false =>
      simp [ServerAction.commands, refused, isRefused, run, hcloses, hfree]

/-- What a name in the table after some commands was before them. -/
lemma mem_runCommands {name : Bytes} {commands : List Command} {table : Finset Bytes} :
    name ∈ runCommands fate table commands → name ∈ table ∨ .parse name ∈ commands := by
  induction commands generalizing table with
  | nil =>
    intro h
    exact .inl h
  | cons command rest ih =>
    intro h
    rcases ih h with hrun | hlater
    · cases command with
      | close other =>
        left
        simp only [run] at hrun
        split at hrun
        · exact hrun
        · exact Finset.mem_of_mem_erase hrun
      | parse other =>
        simp only [run] at hrun
        split at hrun
        · exact .inl hrun
        · rcases Finset.mem_insert.mp hrun with rfl | hold
          · exact .inr mem_cons_self
          · exact .inl hold
    · exact .inr (mem_cons_of_mem _ hlater)

lemma Covered.ensure (h : tables.Covered) (statement : PreparedStatement) (fate : Fate) :
    (tables.ensure statement fate).Covered := by
  have hcases := tables.view.ensure_cases statement
  unfold Covered LinkTables.ensure commands
  generalize tables.view.ensure statement = result at hcases ⊢
  obtain ⟨action, after⟩ := result
  intro hforgotten hlost name hname
  rw [Bool.or_eq_false_iff] at hlost
  obtain ⟨hkept, hclosed⟩ := hlost
  cases hcases with
  | known after hmem hsame hsameForgotten =>
    obtain ⟨id, hid, rfl⟩ := h (hsameForgotten.symm.trans hforgotten) hkept name hname
    exact ⟨id, (hsame id).mpr hid, rfl⟩
  | reopened after hnew hview hmem hstill => cases hforgotten.symm.trans hstill
  | added after hnew hview hmem hstill =>
    rcases mem_runCommands hname with hold | hparse
    · obtain ⟨id, hid, rfl⟩ := h hview hkept name hold
      exact ⟨id, (hmem id).mpr (.inr hid), rfl⟩
    · have hsent : name = statement.name := by simpa [ServerAction.commands] using hparse
      exact ⟨statement.id, (hmem _).mpr (.inl rfl), hsent.trans statement.minted⟩
  | replaced victim after hnew hfull hvictim hmem hsameForgotten =>
    have hview := hsameForgotten.symm.trans hforgotten
    have hcloses : fate.closeFails = false := by
      simpa [ServerAction.commands, isClose, fails] using hclosed
    have hafter : name ∈ runCommands fate
        (tables.table.erase (generated victim)) [.parse statement.name] := by
      simpa [ServerAction.commands, runCommands, run, hcloses] using hname
    rcases mem_runCommands hafter with hold | hparse
    · obtain ⟨hother, hheld⟩ := Finset.mem_erase.mp hold
      obtain ⟨id, hid, rfl⟩ := h hview hkept name hheld
      refine ⟨id, (hmem id).mpr (.inr ⟨hid, ?_⟩), rfl⟩
      rintro rfl
      exact hother rfl
    · have hsent : name = statement.name := by simpa using hparse
      exact ⟨statement.id, (hmem _).mpr (.inl rfl), hsent.trans statement.minted⟩

lemma Held.ensure (h : tables.Held) (statement : PreparedStatement) (fate : Fate) :
    (tables.ensure statement fate).Held := by
  have hcases := tables.view.ensure_cases statement
  unfold Held LinkTables.ensure commands
  generalize tables.view.ensure statement = result at hcases ⊢
  obtain ⟨action, after⟩ := result
  intro hfailed id hid
  rw [Bool.or_eq_false_iff] at hfailed
  obtain ⟨hkept, hfine⟩ := hfailed
  have hinserted {table : Finset Bytes} (hor : id = statement.id ∨ generated id ∈ table) :
      generated id ∈ insert statement.name table := by
    rcases hor with rfl | hold
    · rw [← statement.minted]
      exact Finset.mem_insert_self _ _
    · exact Finset.mem_insert_of_mem hold
  cases hcases with
  | known after hmem hsame hsameForgotten => exact h hkept id ((hsame id).mp hid)
  | added after hnew hview hmem hstill =>
    have hparses : fate.parseFails = false := by
      simpa [ServerAction.commands, fails] using hfine
    have htable : runCommands fate tables.table (ServerAction.parse statement.name).commands =
        insert statement.name tables.table := by
      simp [ServerAction.commands, runCommands, run, hparses]
    rw [htable]
    exact hinserted (((hmem id).mp hid).imp_right (h hkept id))
  | reopened after hnew hview hmem hstill =>
    have hboth : fate.closeFails = false ∧ fate.parseFails = false := by
      simpa [ServerAction.commands, fails] using hfine
    have htable : runCommands fate tables.table
        (ServerAction.evictThenParse statement.name statement.name).commands =
          insert statement.name tables.table := by
      simp only [ServerAction.commands, runCommands, run, hboth.1, hboth.2]
      ext name
      simp only [Finset.mem_insert, if_neg Bool.false_ne_true, Finset.mem_erase]
      tauto
    rw [htable]
    exact hinserted (((hmem id).mp hid).imp_right (h hkept id))
  | replaced victim after hnew hfull hvictim hmem hsameForgotten =>
    have hboth : fate.closeFails = false ∧ fate.parseFails = false := by
      simpa [ServerAction.commands, fails] using hfine
    have htable : runCommands fate tables.table
        (ServerAction.evictThenParse (generated victim) statement.name).commands =
          insert statement.name (tables.table.erase (generated victim)) := by
      simp [ServerAction.commands, runCommands, run, hboth.1, hboth.2]
    rw [htable]
    refine hinserted (((hmem id).mp hid).imp_right ?_)
    rintro ⟨hold, hother⟩
    refine Finset.mem_erase.mpr ⟨?_, h hkept id hold⟩
    intro hsame
    exact hother (generated_injective hsame)

/-- A dropped view claims nothing. -/
lemma covered_forget (tables : LinkTables) : tables.forget.Covered := by
  intro hforgotten
  cases hforgotten

lemma held_of_empty (h : tables.view.recency = []) : tables.Held := by
  intro _ id hid
  rw [h] at hid
  cases hid

lemma covered_of_empty (h : tables.table = ∅) : tables.Covered := by
  intro _ _ name hname
  rw [h] at hname
  exact absurd hname (Finset.notMem_empty name)

lemma kept_of_reachable {capacity : Nat} (h : (system capacity).Reachable tables) :
    tables.Covered ∧ tables.Held := by
  refine h.invariant (I := fun tables => tables.Covered ∧ tables.Held) ?_ ?_
  · rintro _ rfl
    exact ⟨covered_of_empty rfl, held_of_empty rfl⟩
  rintro s action _ - ⟨hcovered, hheld⟩ rfl
  cases action with
  | ensure statement fate =>
    exact ⟨hcovered.ensure statement fate, hheld.ensure statement fate⟩
  | forget => exact ⟨covered_forget s, held_of_empty rfl⟩
  | clear => exact ⟨covered_of_empty rfl, held_of_empty rfl⟩

/-- A statement reported ready is one the view tracks. -/
lemma mem_of_ready {view : ServerStatements} (h : (view.ensure statement).1 = .ready) :
    statement.id ∈ view.recency := by
  have hcases := view.ensure_cases statement
  generalize view.ensure statement = result at h hcases
  obtain ⟨action, after⟩ := result
  obtain rfl : action = .ready := h
  cases hcases with
  | known after hmem hsame hforgotten => exact hmem

/-- In every run, a `Parse` sent under the condition names no statement the backend still
holds, and a statement reported ready is there unless a command has failed since the view
was last dropped. -/
theorem parses_are_accepted {capacity : Nat} {tables : LinkTables}
    (h : (system capacity).Reachable tables) (statement : PreparedStatement) :
    (∀ fate, tables.mayEnsure statement fate = true →
        refused fate tables.table (tables.view.ensure statement).1.commands = false) ∧
      ((tables.view.ensure statement).1 = .ready → tables.failed = false →
        statement.name ∈ tables.table) := by
  obtain ⟨hcovered, hheld⟩ := kept_of_reachable h
  constructor
  · intro fate hmay
    exact not_refused hcovered hmay
  · intro hready hfailed
    rw [statement.minted]
    exact hheld hfailed _ (mem_of_ready hready)

/-- Two statements of the cache. -/
def firstStatement : PreparedStatement := ⟨0, _, ⟨[49], []⟩, rfl⟩

def secondStatement : PreparedStatement := ⟨1, _, ⟨[50], []⟩, rfl⟩

/-- A link with room for one statement swaps two of them. -/
def swapped : LinkTables :=
  ((fresh 1).ensure firstStatement .succeeds).ensure secondStatement .succeeds

theorem parses_are_accepted_swapped : (swapped.view.ensure firstStatement).1 =
        .evictThenParse secondStatement.name firstStatement.name ∧
      refused .succeeds swapped.table (swapped.view.ensure firstStatement).1.commands = false := by
  have hfirst : (system 1).step (fresh 1) (.ensure firstStatement .succeeds) _ := rfl
  have hsecond : (system 1).step _ (.ensure secondStatement .succeeds) swapped := rfl
  have hreachable : (system 1).Reachable swapped := .step (.step (.init rfl) hfirst) hsecond
  exact ⟨by decide, (parses_are_accepted hreachable firstStatement).1 .succeeds (by decide)⟩

/-- A link with room for one statement sees an error between two of them. -/
def interrupted : LinkTables :=
  ((fresh 1).ensure firstStatement .succeeds).forget.ensure secondStatement .succeeds

/-- The view is full again while the backend holds both statements: making room closes the
other one, and the `Parse` meets its own name. -/
theorem eviction_after_an_error_is_refused :
    (system 1).Reachable interrupted ∧ interrupted.failed = false ∧
      (interrupted.view.ensure firstStatement).1 =
        .evictThenParse secondStatement.name firstStatement.name ∧
      refused .succeeds interrupted.table
        (interrupted.view.ensure firstStatement).1.commands = true := by
  have hfirst : (system 1).step (fresh 1) (.ensure firstStatement .succeeds) _ := rfl
  have herror : (system 1).step ((fresh 1).ensure firstStatement .succeeds) .forget _ := rfl
  have hsecond : (system 1).step _ (.ensure secondStatement .succeeds) interrupted := rfl
  refine ⟨.step (.step (.step (.init rfl) hfirst) herror) hsecond, ?_, ?_, ?_⟩ <;> decide

end LinkTables

end PgElastic.Pool
