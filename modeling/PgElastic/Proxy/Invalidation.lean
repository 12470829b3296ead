import PgElastic.Pool.StatementTables

/-!
# Texts that invalidate a link's statements

`on_frontend` reads the text of every `Query` and every `Parse` and drops the link's view
of its statements when the text mentions `DEALLOCATE` or `DISCARD`.  What the text really
drops, if anything, is up to the backend: a `Query` drops what it says when it succeeds, a
`Parse` drops nothing until it is executed, and an `Execute` may drop anything without the
view being told.

The view is cleared, not forgotten, so the next `Parse` of a statement is not preceded by a
`Close`.  It is accepted as long as the text the view was cleared for leaves the backend
nothing.
-/

namespace PgElastic.Proxy

open Library Pool Wire LinkTables

/-- What reaches the statements of one link. -/
inductive Traffic
  /-- A named `Parse` of the client. -/
  | parse (statement : PreparedStatement) (fate : Fate)
  | parseUnnamed (sql : Bytes)
  /-- A `Bind` or a `Describe` of a statement the client has prepared. -/
  | bind (statement : PreparedStatement) (fate : Fate)
  /-- A `Query`, with the statements it makes the backend drop. -/
  | query (sql : Bytes) (dropped : Finset Bytes)
  | execute (dropped : Finset Bytes)
  /-- An `ErrorResponse` is received. -/
  | error
  /-- The reset ladder has dropped every statement. -/
  | scrub
  deriving DecidableEq

namespace Traffic

def fires (sql : Bytes) : Bool := (detectCacheInvalidation sql).isSome

/-- The view is cleared where the text says so; the backend has not been told anything. -/
def invalidate (tables : LinkTables) (sql : Bytes) : LinkTables :=
  if fires sql then { tables with view := tables.view.clear } else tables

def drop (tables : LinkTables) (dropped : Finset Bytes) : LinkTables :=
  { tables with table := tables.table \ dropped }

def next (tables : LinkTables) : Traffic → LinkTables
  | .parse statement fate => (invalidate tables statement.key.query).ensure statement fate
  | .parseUnnamed sql => invalidate tables sql
  | .bind statement fate => tables.ensure statement fate
  | .query sql dropped => drop (invalidate tables sql) dropped
  | .execute dropped => drop tables dropped
  | .error => tables.forget
  | .scrub => tables.clear

/-- What is sent for the statement tables, and what becomes of it. -/
def sent (tables : LinkTables) : Traffic → Fate × List Command
  | .parse statement fate =>
    (fate, (invalidate tables statement.key.query).commands statement)
  | .bind statement fate => (fate, tables.commands statement)
  | _ => (.succeeds, [])

def system (capacity : Nat) : System LinkTables Traffic where
  init := fun tables => tables = LinkTables.fresh capacity
  step := fun tables traffic after => next tables traffic = after

/-- A text the view is cleared for leaves the backend no statement: it drops them all, or
there were none. -/
def thorough (tables : LinkTables) : Traffic → Bool
  | .parse statement fate =>
    (!fires statement.key.query || tables.table = ∅) &&
      (invalidate tables statement.key.query).mayEnsure statement fate
  | .parseUnnamed sql => !fires sql || tables.table = ∅
  | .bind statement fate => tables.mayEnsure statement fate
  | .query sql dropped => !fires sql || tables.table \ dropped = ∅
  | _ => true

/-! ### The view keeps covering the table -/

variable {tables : LinkTables} {sql : Bytes}

lemma covered_drop (h : tables.Covered) (dropped : Finset Bytes) :
    (drop tables dropped).Covered := by
  intro hforgotten hlost name hname
  exact h hforgotten hlost name (Finset.mem_sdiff.mp hname).1

lemma covered_invalidate (h : tables.Covered) (hempty : fires sql → tables.table = ∅) :
    (invalidate tables sql).Covered := by
  unfold invalidate
  split
  · rename_i hfires
    exact covered_of_empty (hempty hfires)
  · exact h

/-- The shape of the condition: where the text fires, the second part holds. -/
lemma of_fires {p : Prop} [Decidable p] (h : (!fires sql || decide p))
    (hfires : fires sql) : p := by
  rw [hfires] at h
  simpa using h

lemma covered_next {traffic : Traffic} (h : tables.Covered)
    (hthorough : thorough tables traffic) : (next tables traffic).Covered := by
  cases traffic with
  | parse statement fate =>
    obtain ⟨hempty, -⟩ := Bool.and_eq_true_iff.mp hthorough
    exact (covered_invalidate h (of_fires hempty)).ensure statement fate
  | parseUnnamed sql => exact covered_invalidate h (of_fires hthorough)
  | bind statement fate => exact h.ensure statement fate
  | query sql dropped =>
    change (drop (invalidate tables sql) dropped).Covered
    unfold invalidate
    split
    · rename_i hfires
      exact covered_of_empty (of_fires hthorough hfires)
    · exact covered_drop h dropped
  | execute dropped => exact covered_drop h dropped
  | error => exact covered_forget tables
  | scrub => exact covered_of_empty rfl

lemma covered_of_reachable {capacity : Nat} (h : ((system capacity).restrict fun tables traffic =>
      thorough tables traffic).Reachable tables) : tables.Covered := by
  refine h.invariant (I := LinkTables.Covered) ?_ ?_
  · rintro _ rfl
    exact covered_of_empty rfl
  · rintro s traffic _ - hcovered ⟨hthorough, rfl⟩
    exact covered_next hcovered hthorough

/-- In every thorough run nothing sent for a statement is refused because the backend still
holds its name. -/
theorem invalidation_costs_a_parse {capacity : Nat} {tables : LinkTables}
    (h : ((system capacity).restrict fun tables traffic =>
      thorough tables traffic = true).Reachable tables) {traffic : Traffic}
    (hthorough : thorough tables traffic = true) :
    refused (sent tables traffic).1 tables.table (sent tables traffic).2 = false := by
  have hcovered := covered_of_reachable h
  cases traffic with
  | parse statement fate =>
    obtain ⟨hempty, hmay⟩ := Bool.and_eq_true_iff.mp hthorough
    have hrefused := not_refused (covered_invalidate hcovered (of_fires hempty)) hmay
    have htable : (invalidate tables statement.key.query).table = tables.table := by
      unfold invalidate
      split <;> rfl
    rw [htable] at hrefused
    exact hrefused
  | bind statement fate => exact not_refused hcovered hthorough
  | _ => rfl

/-- A link that has prepared a statement and then run a real `DISCARD ALL`. -/
def discarded : LinkTables :=
  next (next (LinkTables.fresh 2) (.bind firstStatement .succeeds))
    (.query (Epoch.ascii "DISCARD ALL") {firstStatement.name})

theorem invalidation_costs_a_parse_discarded : fires (Epoch.ascii "DISCARD ALL") = true ∧
      sent discarded (.bind firstStatement .succeeds) = (.succeeds, [.parse firstStatement.name]) ∧
      refused .succeeds discarded.table [.parse firstStatement.name] = false := by
  have hbind : ((system 2).restrict fun tables traffic =>
      thorough tables traffic = true).step (LinkTables.fresh 2)
        (.bind firstStatement .succeeds) _ := ⟨by decide, rfl⟩
  have hquery : ((system 2).restrict fun tables traffic =>
      thorough tables traffic = true).step _
        (.query (Epoch.ascii "DISCARD ALL") {firstStatement.name}) discarded :=
    ⟨by decide, rfl⟩
  have hthorough : thorough discarded (.bind firstStatement .succeeds) = true := by
    decide
  have haccepted := invalidation_costs_a_parse (.step (.step (.init rfl) hbind) hquery) hthorough
  exact ⟨by decide, by decide, haccepted⟩

/-- A link that has prepared a statement and then selected a word. -/
def mentioned : LinkTables :=
  next (next (LinkTables.fresh 2) (.bind firstStatement .succeeds))
    (.query (Epoch.ascii "SELECT 'discard'") ∅)

/-- The word in a literal clears the view of a statement the backend keeps, and the next
`Parse` of it is refused. -/
theorem mentioned_word_is_refused :
    (system 2).Reachable mentioned ∧ fires (Epoch.ascii "SELECT 'discard'") = true ∧
      refused .succeeds mentioned.table
        (sent mentioned (.bind firstStatement .succeeds)).2 = true := by
  have hbind : (system 2).step (LinkTables.fresh 2) (.bind firstStatement .succeeds) _ := rfl
  have hquery : (system 2).step _ (.query (Epoch.ascii "SELECT 'discard'") ∅) mentioned := rfl
  exact ⟨.step (.step (.init rfl) hbind) hquery, by decide, by decide⟩

end Traffic

end PgElastic.Proxy
