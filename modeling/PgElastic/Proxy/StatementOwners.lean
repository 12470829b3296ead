import PgElastic.Proxy.StatementSharing

/-!
# Whose statement a name reaches

A minted name stands for one statement text for as long as an instance lives: ids are never given
out twice, whatever the cache evicts.  So a named statement a client has parsed is reached with the
text it was parsed with, on any link, and a name the client has not parsed is kept out of the minted
names and reaches nothing.  The unnamed statement is the client's own only on the link, and in the
checkout, it was parsed in.
-/

namespace PgElastic
open AList Function List

namespace Pool

open Wire

namespace StatementName

lemma isAsciiHexdigit_hexDigit {digit : Nat} (h : digit < 16) :
    isAsciiHexdigit (hexDigit digit) := by
  have hall : ∀ value : Fin 16, isAsciiHexdigit (hexDigit value) := by decide
  exact hall ⟨digit, h⟩

/-- The names of all ids a `u64` can count have the shape that is kept from clients. -/
lemma isGenerated_generated {id : Nat} (h : id < 2 ^ 64) : isGenerated (generated id) := by
  have hdigits : (Nat.digits 16 id).length ≤ 16 := by
    rw [Nat.digits_length_le_iff (by decide)]
    exact h
  have hlength : (paddedDigits id).length = 16 := by
    rw [paddedDigits, length_append, length_replicate]
    omega
  unfold isGenerated generated
  rw [Bool.and_eq_true, Bool.and_eq_true, beq_iff_eq]
  refine ⟨⟨?_, ?_⟩, ?_⟩
  · rw [length_append, length_map, length_reverse, hlength]
  · rw [ isPrefixOf_iff_prefix]
    exact prefix_append _ _
  rw [drop_left, List.all_eq_true]
  intro byte hbyte
  obtain ⟨digit, hdigit, rfl⟩ := List.mem_map.mp hbyte
  exact isAsciiHexdigit_hexDigit (lt_of_mem_paddedDigits (mem_reverse.mp hdigit))

lemma generated_ne_nil (id : Nat) : (generated id).isEmpty = false := rfl

/-- An escaped name differs from every minted one at the boundary byte. -/
lemma escaped_ne_generated {name : Bytes} (h : isGenerated name) (id : Nat) :
    escaped name ≠ generated id := by
  intro heq
  unfold isGenerated at h
  rw [Bool.and_eq_true, Bool.and_eq_true, beq_iff_eq] at h
  have hlength : 4 < name.length := by
    rw [h.1.1]
    decide
  have hescaped : (escaped name)[4]? = some 120 := by
    change (name.set 4 120)[4]? = some 120
    rw [getElem?_set_self hlength]
  have hminted : (generated id)[4]? = some 95 := rfl
  rw [heq, hminted] at hescaped
  cases hescaped

end StatementName

/-! ### The cache never gives a name to two texts -/

namespace GlobalStatementCache

/-- Every entry is filed under its own text and has an id that was given out for it. -/
def Faithful (keyOf : Nat → StatementKey) (cache : GlobalStatementCache) : Prop :=
  ∀ key statement, cache.entries.lookup key = some statement →
    statement.key = key ∧ keyOf statement.id = key ∧ statement.id < cache.nextId

variable {keyOf : Nat → StatementKey} {cache : GlobalStatementCache}

lemma Faithful.evictOldest (h : cache.Faithful keyOf) : cache.evictOldest.Faithful keyOf := by
  unfold GlobalStatementCache.evictOldest
  split
  · exact h
  rename_i victim rest hrecency
  intro key statement hlookup
  by_cases hsame : key = victim
  · rw [hsame, lookup_erase] at hlookup
    cases hlookup
  · rw [lookup_erase_ne hsame] at hlookup
    exact h key statement hlookup

lemma nextId_evictOldest (cache : GlobalStatementCache) :
    cache.evictOldest.nextId = cache.nextId := by
  unfold GlobalStatementCache.evictOldest
  split <;> rfl

/-- What interning a text comes to. -/
structure Interned (keyOf : Nat → StatementKey) (cache : GlobalStatementCache)
    (key : StatementKey) (interned : PreparedStatement × GlobalStatementCache)
    (keyOf' : Nat → StatementKey) : Prop where
  faithful : interned.2.Faithful keyOf'
  older : ∀ id, id < cache.nextId → keyOf' id = keyOf id
  grows : cache.nextId ≤ interned.2.nextId
  key_eq : interned.1.key = key
  named : keyOf' interned.1.id = key
  bounded : interned.1.id < interned.2.nextId

lemma Faithful.mint (h : cache.Faithful keyOf) (key : StatementKey) :
    Interned keyOf cache key (cache.mint key) (Function.update keyOf cache.nextId key) := by
  have holder : ∀ id, id < cache.nextId → Function.update keyOf cache.nextId key id = keyOf id := by
    intro id hid
    exact update_of_ne (ne_of_lt hid) _ _
  refine ⟨?_, holder, Nat.le_succ _, rfl, update_self _ _ _, Nat.lt_succ_self _⟩
  intro other statement hlookup
  change AList.lookup other (cache.entries.insert key _) = some statement at hlookup
  by_cases hsame : other = key
  · rw [hsame, lookup_insert] at hlookup
    cases hlookup
    exact ⟨hsame.symm, (update_self _ _ _).trans hsame.symm, Nat.lt_succ_self _⟩
  · rw [lookup_insert_ne hsame] at hlookup
    obtain ⟨hkey, hid, hlt⟩ := h other statement hlookup
    exact ⟨hkey, (holder _ hlt).trans hid, Nat.lt_succ_of_lt hlt⟩

lemma Faithful.intern (h : cache.Faithful keyOf) (key : StatementKey) :
    ∃ keyOf', Interned keyOf cache key (cache.intern key) keyOf' := by
  unfold GlobalStatementCache.intern
  split
  · rename_i existing hlookup
    obtain ⟨hkey, hid, hlt⟩ := h key existing hlookup
    exact ⟨keyOf, h, fun _ _ => rfl, le_refl _, hkey, hid, hlt⟩
  split
  · have hminted := h.evictOldest.mint key
    rw [nextId_evictOldest] at hminted
    refine ⟨_, hminted.faithful, ?_, ?_, hminted.key_eq, hminted.named, hminted.bounded⟩
    · intro id hid
      exact hminted.older id (by rw [nextId_evictOldest]; exact hid)
    · have hgrows := hminted.grows
      rw [nextId_evictOldest] at hgrows
      exact hgrows
  · exact ⟨_, h.mint key⟩

end GlobalStatementCache
end Pool

namespace Proxy

open Library Wire
open PgElastic.Pool

/-- A name the client has not prepared is no minted name. -/
lemma reserveNamespace_ne_generated (name : Bytes) {id : Nat} (h : id < 2 ^ 64) :
    reserveNamespace name ≠ StatementName.generated id := by
  unfold reserveNamespace
  split
  · rename_i hshape
    exact StatementName.escaped_ne_generated hshape id
  · rename_i hshape
    rintro rfl
    exact hshape (StatementName.isGenerated_generated h)

namespace Sharing

/-! ### The backend's statements -/

namespace Tables

/-- Every named statement is one of `N` and the unnamed one, if any, one of `S`. -/
structure Within (N : Bytes → Prepared → Prop) (S : Prepared → Prop) (tables : Tables) : Prop where
  named : ∀ name prepared, tables.named.lookup name = some prepared → N name prepared
  unnamed : ∀ prepared, tables.unnamed = some prepared → S prepared

variable {N : Bytes → Prepared → Prop} {S : Prepared → Prop} {tables : Tables}

lemma within_empty : Within N S empty := by
  constructor
  · intro name prepared h
    cases h
  · intro prepared h
    cases h

/-- What a `Parse` may add. -/
def Adds (N : Bytes → Prepared → Prop) (S : Prepared → Prop) (owner : ClientId) :
    FrontendMessage Bytes → Prop
  | .parse name query paramTypes =>
    if name.isEmpty then S ⟨⟨query, paramTypes⟩, owner⟩ else N name ⟨⟨query, paramTypes⟩, owner⟩
  | _ => True

variable {name : Bytes} {prepared : Prepared}

lemma lookup_of_erase {named : AList fun _ : Bytes => Prepared} {erased : Bytes}
    (h : (named.erase erased).lookup name = some prepared) : named.lookup name = some prepared := by
  by_cases hsame : name = erased
  · rw [hsame, lookup_erase] at h
    cases h
  · rwa [lookup_erase_ne hsame] at h

lemma lookup_of_drop : ∀ {dropped : List Bytes} {named : AList fun _ : Bytes => Prepared},
      (dropped.foldl (fun named name => named.erase name) named).lookup name = some prepared →
        named.lookup name = some prepared := by
  intro dropped
  induction dropped with
  | nil => exact id
  | cons erased rest ih => exact fun h => lookup_of_erase (ih h)

section

variable (h : Within N S tables)
include h

lemma Within.drop (dropped : List Bytes) : Within N S (tables.drop dropped) :=
  ⟨fun name prepared hlookup => h.named name prepared (lookup_of_drop hlookup), h.unnamed⟩

lemma Within.forgetUnnamed : Within N S { tables with unnamed := none } := by
  refine ⟨h.named, ?_⟩
  intro prepared hnone
  cases hnone

lemma Within.parse (hnew : if name.isEmpty then S prepared else N name prepared) (accepted : Bool) :
    Within N S (tables.parse name prepared accepted) := by
  unfold Tables.parse
  cases hempty : name.isEmpty with
  | true =>
    rw [hempty, if_pos rfl] at hnew
    rw [if_pos rfl]
    refine ⟨h.named, ?_⟩
    intro other hother
    cases accepted with
    | true =>
      cases hother
      exact hnew
    | false => cases hother
  | false =>
    rw [hempty, if_neg Bool.false_ne_true] at hnew
    rw [if_neg Bool.false_ne_true]
    split
    · refine ⟨?_, h.unnamed⟩
      intro other found hlookup
      change AList.lookup other (tables.named.insert name prepared) = some found at hlookup
      by_cases hsame : other = name
      · rw [hsame, lookup_insert] at hlookup
        cases hlookup
        exact hsame ▸ hnew
      · rw [lookup_insert_ne hsame] at hlookup
        exact h.named other found hlookup
    · exact h

lemma Within.close (name : Bytes) : Within N S (tables.close name) := by
  unfold Tables.close
  split
  · exact h.forgetUnnamed
  · refine ⟨?_, h.unnamed⟩
    intro other prepared hlookup
    exact h.named other prepared (lookup_of_erase hlookup)

lemma Within.receive {owner : ClientId} {message : FrontendMessage Bytes}
    (hadds : Adds N S owner message) (dropped : List Bytes) (reception : Reception) :
    Within N S (tables.receive owner dropped message reception) := by
  unfold Tables.receive
  split
  · exact h
  split
  · exact h.parse hadds _
  · exact (h.drop dropped).forgetUnnamed
  · exact h.drop dropped
  · exact h.close _
  · exact h

end

/-- What a name may reach. -/
def Reaches (N : Bytes → Prepared → Prop) (S : Prepared → Prop) (name : Bytes)
    (reached : Option Prepared) : Prop :=
  ∀ prepared, reached = some prepared → if name.isEmpty then S prepared else N name prepared

lemma Within.find (h : Within N S tables) (name : Bytes) : Reaches N S name (tables.find name) := by
  intro prepared hfind
  unfold Tables.find at hfind
  split at hfind
  · rename_i hempty
    rw [if_pos hempty]
    exact h.unnamed prepared hfind
  · rename_i hempty
    rw [if_neg hempty]
    exact h.named name prepared hfind

/-- A batch keeps the tables within their bounds, and so does what it reaches. -/
lemma Within.receiveAll {owner : ClientId} {dropped : List Bytes}
    {messages : List (FrontendMessage Bytes)} {tables : Tables} {receptions : List Reception} :
    Within N S tables → (∀ message ∈ messages, Adds N S owner message) →
      Within N S (tables.receiveAll owner dropped messages receptions).1 ∧
        ∀ reached ∈ (tables.receiveAll owner dropped messages receptions).2,
          ∃ message ∈ messages, ∃ name, statementNamed message = some name ∧
            Reaches N S name reached := by
  induction messages generalizing tables receptions with
  | nil =>
    intro h _
    exact ⟨h, nofun⟩
  | cons message rest ih =>
    intro h hadds
    have hfirst := h.receive (hadds message mem_cons_self) dropped (receptions.headD .accepted)
    obtain ⟨hafter, hlater⟩ := @ih _ receptions.tail hfirst
      fun other hother => hadds other (mem_cons_of_mem _ hother)
    refine ⟨hafter, ?_⟩
    intro reached hreached
    rcases mem_append.mp hreached with hnow | hthen
    · split at hnow
      · cases hnow
      · obtain ⟨name, hname, rfl⟩ := Option.map_eq_some_iff.mp (Option.mem_toList.mp hnow)
        exact ⟨message, mem_cons_self, name, hname, h.find name⟩
    · obtain ⟨other, hother, hrest⟩ := hlater reached hthen
      exact ⟨other, mem_cons_of_mem _ hother, hrest⟩

end Tables

/-! ### What is sent for a message -/

/-- A minted name with the text its id was given out for. -/
def Minted (keyOf : Nat → StatementKey) (bound : Nat) (name : Bytes) (prepared : Prepared) : Prop :=
  ∃ id, id < bound ∧ name = StatementName.generated id ∧ prepared.key = keyOf id

/-- A decision that sends a statement under the statement's own name. -/
def Under (statement : PreparedStatement) : ServerAction → Prop
  | .ready => True
  | .parse name | .evictThenParse _ name => name = statement.name

lemma under_ensure (view : ServerStatements) (statement : PreparedStatement) :
    Under statement (view.ensure statement).1 := by
  unfold ServerStatements.ensure
  split
  · trivial
  dsimp only
  split
  · rfl
  · split <;> rfl

/-- A statement whose id was given out for its text. -/
structure Known (keyOf : Nat → StatementKey) (bound : Nat) (statement : PreparedStatement) :
    Prop where
  named : keyOf statement.id = statement.key
  bounded : statement.id < bound

variable {statement : PreparedStatement} {bound : Nat}

lemma Known.minted {keyOf : Nat → StatementKey} (h : Known keyOf bound statement)
    (owner : ClientId) : Minted keyOf bound statement.name ⟨statement.key, owner⟩ :=
  ⟨statement.id, h.bounded, statement.minted, h.named.symm⟩

lemma Known.mono {keyOf keyOf' : Nat → StatementKey} {bound' : Nat}
    (h : Known keyOf bound statement) (holder : ∀ id, id < bound → keyOf' id = keyOf id)
    (hgrows : bound ≤ bound') : Known keyOf' bound' statement :=
  ⟨(holder _ h.bounded).trans h.named, lt_of_lt_of_le h.bounded hgrows⟩

/-- What the tables found for a message: a known statement, to be sent under its own name, with the
text of the message where it has one. -/
def Finds (keyOf : Nat → StatementKey) (bound : Nat) (message : FrontendMessage Bytes)
    (found : Option (PreparedStatement × ServerAction)) : Prop :=
  ∀ statement action, found = some (statement, action) →
    Known keyOf bound statement ∧ Under statement action ∧
      ∀ name query paramTypes, message = .parse name query paramTypes →
        statement.key = ⟨query, paramTypes⟩

section Sent

variable {keyOf : Nat → StatementKey} {bound : Nat} {S : Prepared → Prop} {owner : ClientId}
  {message other : FrontendMessage Bytes} {found : Option (PreparedStatement × ServerAction)}

variable {statement : PreparedStatement} {dispatch : Dispatch}

section

variable (hknown : Known keyOf bound statement) {paramTypes : List UInt32} {action : ServerAction}
include hknown

lemma adds_parse {query : Bytes} {name : Bytes}
    (hname : name = statement.name) (hkey : statement.key = ⟨query, paramTypes⟩) :
    Tables.Adds (Minted keyOf bound) S owner (.parse name query paramTypes) := by
  have hminted := hknown.minted owner
  rw [hkey, ← hname] at hminted
  have hempty : name.isEmpty = false := by
    rw [hname, statement.minted]
    exact StatementName.generated_ne_nil _
  dsimp only [Tables.Adds]
  rw [hempty, if_neg Bool.false_ne_true]
  exact hminted

lemma adds_ensureParsed (hunder : Under statement action)
    (h : dispatch ∈ ensureParsed statement action) :
    Tables.Adds (Minted keyOf bound) S owner dispatch.message ∧
      statementNamed dispatch.message = none := by
  cases action with
  | ready => cases h
  | parse minted =>
    cases mem_singleton.mp h
    exact ⟨adds_parse hknown hunder rfl, rfl⟩
  | evictThenParse evict minted =>
    rcases mem_cons.mp h with rfl | h
    · exact ⟨trivial, rfl⟩
    · cases mem_singleton.mp h
      exact ⟨adds_parse hknown hunder rfl, rfl⟩

lemma adds_onParse {name query : Bytes}
    (hunder : Under statement action) (hkey : statement.key = ⟨query, paramTypes⟩)
    (h : dispatch ∈ onParse name query paramTypes action)
    (hsent : dispatch.relay.disposition ≠ .fake) :
    Tables.Adds (Minted keyOf bound) S owner dispatch.message ∧
      statementNamed dispatch.message = none := by
  cases action with
  | ready =>
    cases mem_singleton.mp h
    exact absurd rfl hsent
  | parse minted =>
    cases mem_singleton.mp h
    exact ⟨adds_parse hknown hunder hkey, rfl⟩
  | evictThenParse evict minted =>
    rcases mem_cons.mp h with rfl | h
    · exact ⟨trivial, rfl⟩
    · cases mem_singleton.mp h
      exact ⟨adds_parse hknown hunder hkey, rfl⟩

end

/-- Where a `Bind` or a `Describe` that is sent has its name from. -/
def NamedBy (message other : FrontendMessage Bytes)
    (found : Option (PreparedStatement × ServerAction)) : Prop :=
  ∀ name, statementNamed other = some name → ∃ asked, statementNamed message = some asked ∧
    ((∃ statement action, found = some (statement, action) ∧ name = statement.name) ∨
      found = none ∧ name = reserveNamespace asked)

lemma namedBy_of_none (h : statementNamed other = none) : NamedBy message other found := by
  intro name hname
  rw [h] at hname
  cases hname

/-- A `Bind` or a `Describe` puts the statement that was found on the link and names it. -/
lemma uses_spec (build : Bytes → FrontendMessage Bytes) {asked : Bytes}
    (hbuild : ∀ name, statementNamed (build name) = some name)
    (hadds : ∀ name, Tables.Adds (Minted keyOf bound) S owner (build name))
    (hfinds : Finds keyOf bound (build asked) found)
    (h : dispatch ∈ (match found with
      | some (statement, action) =>
        ensureParsed statement action ++ [Dispatch.client (build statement.name)]
      | none => [Dispatch.client (build (reserveNamespace asked))])) :
    Tables.Adds (Minted keyOf bound) S owner dispatch.message ∧
      NamedBy (build asked) dispatch.message found := by
  cases found with
  | some pair =>
    obtain ⟨statement, action⟩ := pair
    obtain ⟨hknown, hunder, _⟩ := hfinds statement action rfl
    rcases mem_append.mp h with hensured | hlast
    · obtain ⟨hmade, hnone⟩ := adds_ensureParsed hknown hunder hensured
      exact ⟨hmade, namedBy_of_none hnone⟩
    cases mem_singleton.mp hlast
    refine ⟨hadds _, ?_⟩
    intro name hname
    obtain rfl := Option.some.inj ((hbuild statement.name).symm.trans hname)
    exact ⟨asked, hbuild asked, .inl ⟨statement, action, rfl, rfl⟩⟩
  | none =>
    cases mem_singleton.mp h
    refine ⟨hadds _, ?_⟩
    intro name hname
    obtain rfl := Option.some.inj ((hbuild (reserveNamespace asked)).symm.trans hname)
    exact ⟨asked, hbuild asked, .inr ⟨rfl, rfl⟩⟩

/-- What is sent for a message adds statements under their minted names only, and names what was
found. -/
lemma sent_spec (hfinds : Finds keyOf bound message found)
    (hnamed : ∀ query paramTypes, message ≠ .parse [] query paramTypes)
    (h : other ∈ sent message found) :
    Tables.Adds (Minted keyOf bound) S owner other ∧ NamedBy message other found := by
  obtain ⟨dispatch, hmem, rfl⟩ := List.mem_map.mp h
  obtain ⟨hmem, hsends⟩ := mem_filter.mp hmem
  have hsent : dispatch.relay.disposition ≠ .fake := bne_iff_ne.mp hsends
  cases message with
  | parse name query paramTypes =>
    unfold onFrontend at hmem
    dsimp only at hmem
    split at hmem
    · rename_i hempty
      exact absurd (by rw [List.isEmpty_iff.mp hempty]) (hnamed query paramTypes)
    split at hmem
    · rename_i statement action _
      obtain ⟨hknown, hunder, hkey⟩ := hfinds statement action rfl
      obtain ⟨hadds, hnone⟩ := adds_onParse hknown hunder (hkey name query paramTypes rfl) hmem
        hsent
      exact ⟨hadds, namedBy_of_none hnone⟩
    · cases hmem
  | bind portal asked =>
    exact uses_spec (.bind portal) (fun _ => rfl) (fun _ => trivial) hfinds hmem
  | describe target asked =>
    cases target with
    | statement =>
      exact uses_spec (.describe .statement) (fun _ => rfl) (fun _ => trivial) hfinds hmem
    | portal =>
      cases mem_singleton.mp hmem
      exact ⟨trivial, namedBy_of_none rfl⟩
  | close target name =>
    cases target with
    | statement =>
      cases mem_singleton.mp hmem
      exact absurd rfl hsent
    | portal =>
      cases mem_singleton.mp hmem
      exact ⟨trivial, namedBy_of_none rfl⟩
  | _ =>
    cases mem_singleton.mp hmem
    exact ⟨trivial, namedBy_of_none rfl⟩

end Sent

/-! ### What a client's names stand for -/

/-- Every name of the client stands for a known statement with the text the client last parsed
under it. -/
structure Names (keyOf : Nat → StatementKey) (bound : Nat) (statements : ClientStatements)
    (parsed : AList fun _ : Bytes => StatementKey) : Prop where
  known : ∀ name statement, statements.byName.lookup name = some statement →
    Known keyOf bound statement
  remembered : ∀ name, name ≠ [] →
    (statements.byName.lookup name).map PreparedStatement.key = parsed.lookup name

section Names

variable {keyOf keyOf' : Nat → StatementKey} {bound bound' : Nat} {statements : ClientStatements}
  {parsed : AList fun _ : Bytes => StatementKey}

lemma names_new : Names keyOf bound ClientStatements.new ∅ := by
  refine ⟨?_, fun _ _ => rfl⟩
  intro name statement h
  cases h

section

variable (h : Names keyOf bound statements parsed)
include h

lemma Names.mono (holder : ∀ id, id < bound → keyOf' id = keyOf id) (hgrows : bound ≤ bound') :
    Names keyOf' bound' statements parsed :=
  ⟨fun name statement hlookup => (h.known name statement hlookup).mono holder hgrows, h.remembered⟩

lemma Names.insert {statement : PreparedStatement} (hknown : Known keyOf bound statement)
    {name : Bytes} (hname : name ≠ []) :
    Names keyOf bound (statements.insert name statement) (parsed.insert name statement.key) := by
  have hempty : name.isEmpty = false := isEmpty_eq_false_iff.mpr hname
  rw [ClientStatements.insert, hempty, if_neg Bool.false_ne_true]
  constructor
  · intro other found hlookup
    by_cases hsame : other = name
    · rw [hsame, lookup_insert] at hlookup
      cases hlookup
      exact hknown
    · rw [lookup_insert_ne hsame] at hlookup
      exact h.known other found hlookup
  · intro other hother
    by_cases hsame : other = name
    · rw [hsame, lookup_insert, lookup_insert]
      rfl
    · rw [lookup_insert_ne hsame, lookup_insert_ne hsame]
      exact h.remembered other hother

lemma Names.remove (name : Bytes) :
    Names keyOf bound (statements.remove name) (parsed.erase name) := by
  constructor
  · intro other found hlookup
    change (statements.byName.erase name).lookup other = some found at hlookup
    by_cases hsame : other = name
    · rw [hsame, lookup_erase] at hlookup
      cases hlookup
    · rw [lookup_erase_ne hsame] at hlookup
      exact h.known other found hlookup
  intro other hother
  change ((statements.byName.erase name).lookup other).map _ = _
  by_cases hsame : other = name
  · rw [hsame, lookup_erase, lookup_erase]
    rfl
  · rw [lookup_erase_ne hsame, lookup_erase_ne hsame]
    exact h.remembered other hother

/-- The unnamed statement is no name of the client's. -/
lemma Names.of_lookup {parsed' : AList fun _ : Bytes => StatementKey}
    (hsame : ∀ name, name ≠ [] → parsed'.lookup name = parsed.lookup name) :
    Names keyOf bound statements parsed' :=
  ⟨h.known, fun name hname => (h.remembered name hname).trans (hsame name hname).symm⟩

end

end Names

/-- What the loop's preparation for a message comes to. -/
structure Prepares (keyOf : Nat → StatementKey) (cache : GlobalStatementCache)
    (statements : ClientStatements) (parsed : AList fun _ : Bytes => StatementKey)
    (message : FrontendMessage Bytes) (preparation : Preparation)
    (keyOf' : Nat → StatementKey) : Prop where
  faithful : preparation.cache.Faithful keyOf'
  older : ∀ id, id < cache.nextId → keyOf' id = keyOf id
  grows : cache.nextId ≤ preparation.cache.nextId
  finds : Finds keyOf' preparation.cache.nextId message preparation.found
  names : Names keyOf' preparation.cache.nextId preparation.statements (remember parsed message)
  uses : ∀ asked, statementNamed message = some asked → preparation.cache.nextId = cache.nextId ∧
      preparation.found.map Prod.fst = if asked.isEmpty then none else statements.resolve asked

section Prepare

variable {keyOf : Nat → StatementKey} {cache : GlobalStatementCache}
  {statements : ClientStatements} {parsed : AList fun _ : Bytes => StatementKey}
  {message : FrontendMessage Bytes}

lemma finds_none : Finds keyOf bound message none := by
  intro statement action h
  cases h

section

variable (hcache : cache.Faithful keyOf)
include hcache

/-- A message for which nothing is looked up. -/
lemma prepares_nothing {statements' : ClientStatements} {view : ServerStatements}
    (hmessage : statementNamed message = none)
    (hnames : Names keyOf cache.nextId statements' (remember parsed message)) :
    Prepares keyOf cache statements parsed message ⟨none, statements', view, cache⟩ keyOf := by
  refine ⟨hcache, fun _ _ => rfl, le_refl _, finds_none, hnames, ?_⟩
  intro asked hasked
  rw [hmessage] at hasked
  cases hasked

section

variable (hnames : Names keyOf cache.nextId statements parsed) (view : ServerStatements)
include hnames

lemma prepares_parse (name query : Bytes) (paramTypes : List UInt32) :
    ∃ keyOf', Prepares keyOf cache statements parsed (.parse name query paramTypes)
      (prepare cache statements view (.parse name query paramTypes)) keyOf' := by
  unfold prepare
  dsimp only
  split
  · rename_i hempty
    refine ⟨keyOf, prepares_nothing hcache rfl (hnames.of_lookup ?_)⟩
    intro other hother
    rw [List.isEmpty_iff.mp hempty]
    exact lookup_insert_ne hother
  rename_i hempty
  obtain ⟨keyOf', hinterned⟩ := hcache.intern ⟨query, paramTypes⟩
  have hknown : Known keyOf' (cache.intern ⟨query, paramTypes⟩).2.nextId
      (cache.intern ⟨query, paramTypes⟩).1 :=
    ⟨hinterned.named.trans hinterned.key_eq.symm, hinterned.bounded⟩
  refine ⟨keyOf', hinterned.faithful, hinterned.older, hinterned.grows, ?_, ?_, ?_⟩
  · intro statement action hfound
    cases hfound
    refine ⟨hknown, under_ensure _ _, ?_⟩
    rintro _ _ _ ⟨⟩
    exact hinterned.key_eq
  · have hinserted := (hnames.mono hinterned.older hinterned.grows).insert hknown
      fun hnil => hempty (List.isEmpty_iff.mpr hnil)
    rw [hinterned.key_eq] at hinserted
    exact hinserted
  · intro asked hasked
    cases hasked

/-- A `Bind` or a `Describe` finds the statement its name stands for. -/
lemma prepares_use {asked : Bytes} (hasked : statementNamed message = some asked)
    (hprepare : prepare cache statements view message =
      match if asked.isEmpty then none else statements.resolve asked with
      | some statement =>
        ⟨some (statement, (view.ensure statement).1), statements, (view.ensure statement).2, cache⟩
      | none => ⟨none, statements, view, cache⟩) (hremember : remember parsed message = parsed)
    (hparse : ∀ name query paramTypes, message ≠ .parse name query paramTypes) :
    Prepares keyOf cache statements parsed message (prepare cache statements view message) keyOf := by
  rw [hprepare]
  have hfound statement : (if asked.isEmpty then none else statements.resolve asked) =
      some statement → Known keyOf cache.nextId statement := by
    intro hresolve
    split at hresolve
    · cases hresolve
    · exact hnames.known asked statement hresolve
  cases hresolve : if asked.isEmpty then none else statements.resolve asked with
  | some statement =>
    refine ⟨hcache, fun _ _ => rfl, le_refl _, ?_, hremember.symm ▸ hnames, ?_⟩
    · intro other action hother
      cases hother
      exact ⟨hfound statement hresolve, under_ensure _ _,
        fun name query paramTypes h => absurd h (hparse name query paramTypes)⟩
    · intro other hother
      cases hasked.symm.trans hother
      exact ⟨rfl, hresolve.symm⟩
  | none =>
    refine ⟨hcache, fun _ _ => rfl, le_refl _, finds_none, hremember.symm ▸ hnames, ?_⟩
    intro other hother
    cases hasked.symm.trans hother
    exact ⟨rfl, hresolve.symm⟩

lemma prepare_spec (message : FrontendMessage Bytes) :
    ∃ keyOf', Prepares keyOf cache statements parsed message
      (prepare cache statements view message) keyOf' := by
  cases message with
  | parse name query paramTypes => exact prepares_parse hcache hnames view name query paramTypes
  | bind portal asked =>
    exact ⟨keyOf, prepares_use hcache hnames view rfl rfl rfl (by simp)⟩
  | describe target asked =>
    cases target with
    | statement => exact ⟨keyOf, prepares_use hcache hnames view rfl rfl rfl (by simp)⟩
    | portal => exact ⟨keyOf, prepares_nothing hcache rfl hnames⟩
  | close target name =>
    cases target with
    | statement =>
      refine ⟨keyOf, prepares_nothing hcache rfl ?_⟩
      split
      · rename_i hempty
        refine hnames.of_lookup ?_
        intro other hother
        rw [List.isEmpty_iff.mp hempty]
        exact lookup_erase_ne hother
      · exact hnames.remove name
    | portal => exact ⟨keyOf, prepares_nothing hcache rfl hnames⟩
  | _ =>
    exact ⟨keyOf, prepares_nothing hcache rfl hnames⟩

end

end

end Prepare
end Sharing
end Proxy
end PgElastic
