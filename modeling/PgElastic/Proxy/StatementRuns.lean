import PgElastic.Proxy.StatementOwners

/-!
# Clients reach their own statements

The invariant of a whole run: every cache files its statements faithfully, every backend holds named
statements under their minted names only, every client's names stand for what it parsed, and the
unnamed statement of a link is the holder's own while the holder's last unnamed `Parse` was made
there.  The meaning of the ids grows with each instance's cache and is never revised.
-/

namespace PgElastic.Proxy

open Library Wire Option OrderedMap AList Function List
open PgElastic.Pool StatementName

namespace Sharing

/-- The statement is the client's own and, if the client still has an unnamed statement, that
one. -/
def Own (id : ClientId) (parsed : AList fun _ : Bytes => StatementKey) (prepared : Prepared) :
    Prop :=
  prepared.owner = id ∧ ∀ key, parsed.lookup [] = some key → prepared.key = key

/-- What is reached has the text the client parsed under the name it used; a client that has
parsed nothing under that name reaches nobody else's statement. -/
def Reach.Sound (reach : Reach) : Prop :=
  ∀ prepared, reach.statement = some prepared → match reach.asked with
    | some key => prepared.key = key
    | none => prepared.owner = reach.client

variable {parsed : AList fun _ : Bytes => StatementKey} {prepared : Prepared} {message : FrontendMessage Bytes}
  {name : Bytes}

lemma Own.remember {id : ClientId} (h : Own id parsed prepared)
    (hnamed : ∀ query paramTypes, message ≠ .parse [] query paramTypes) :
    Own id (remember parsed message) prepared := by
  refine ⟨h.1, ?_⟩
  intro key hkey
  unfold Sharing.remember at hkey
  split at hkey
  · rename_i name query paramTypes
    have hother : [] ≠ name := by
      rintro rfl
      exact hnamed query paramTypes rfl
    rw [lookup_insert_ne hother] at hkey
    exact h.2 key hkey
  · rename_i name
    by_cases hsame : [] = name
    · rw [← hsame, lookup_erase] at hkey
      cases hkey
    · rw [lookup_erase_ne hsame] at hkey
      exact h.2 key hkey
  · exact h.2 key hkey

lemma staysFresh_of_named (hnamed : ∀ query paramTypes, message ≠ .parse [] query paramTypes)
    (fresh : Bool) (reception : Reception) : staysFresh fresh message reception = fresh := by
  unfold staysFresh
  split
  · rename_i name query paramTypes
    split
    · rename_i hempty
      exact absurd (by rw [List.isEmpty_iff.mp hempty]) (hnamed query paramTypes)
    · rfl
  · rfl

lemma Tables.Within.mono {N N' : Bytes → Prepared → Prop} {S S' : Prepared → Prop}
    {tables : Tables} (h : tables.Within N S) (hnamed : ∀ name prepared, N name prepared →
      N' name prepared) (hunnamed : ∀ prepared, S prepared → S' prepared) : tables.Within N' S' :=
  ⟨fun name prepared hlookup => hnamed name prepared (h.named name prepared hlookup),
    fun prepared hslot => hunnamed prepared (h.unnamed prepared hslot)⟩

lemma Minted.mono {keyOf keyOf' : Nat → StatementKey} {bound bound' : Nat}
    (holder : ∀ id, id < bound → keyOf' id = keyOf id) (hgrows : bound ≤ bound')
    (h : Minted keyOf bound name prepared) : Minted keyOf' bound' name prepared := by
  obtain ⟨id, hid, hname, hkey⟩ := h
  exact ⟨id, lt_of_lt_of_le hid hgrows, hname, hkey.trans (holder id hid).symm⟩

/-! ### One message on a held link -/

section Message

variable {keyOf keyOf' : Nat → StatementKey} {cache : GlobalStatementCache}
  {statements : ClientStatements} {parsed : AList fun _ : Bytes => StatementKey} {id : ClientId}
  {message : FrontendMessage Bytes} {preparation : Preparation} {fresh : Bool} {tables : Tables}

variable {reached : Option Prepared}

/-- A name the client has not parsed reaches no named statement. -/
lemma not_reached {bound : Nat} {S : Prepared → Prop} {asked : Bytes} {prepared : Prepared}
    (hbound : bound ≤ 2 ^ 64) (hasked : asked ≠ [])
    (h : Tables.Reaches (Minted keyOf bound) S (reserveNamespace asked) reached)
    (hreached : reached = some prepared) : False := by
  have hminted := h prepared hreached
  have hempty : (reserveNamespace asked).isEmpty = false := by
    unfold reserveNamespace
    split
    · rw [isEmpty_eq_false_iff]
      intro hnil
      have hlength := congrArg List.length hnil
      rw [escaped, length_set, length_nil] at hlength
      exact hasked (length_eq_zero_iff.mp hlength)
    · exact isEmpty_eq_false_iff.mpr hasked
  rw [hempty, if_neg Bool.false_ne_true] at hminted
  obtain ⟨other, hother, hname, _⟩ := hminted
  exact reserveNamespace_ne_generated asked (lt_of_lt_of_le hother hbound) hname

lemma reached_sound (hprepares : Prepares keyOf cache statements parsed message preparation keyOf')
    (hnames : Names keyOf cache.nextId statements parsed) (hbound : cache.nextId ≤ 2 ^ 64)
    (hfresh : statementNamed message = some [] → fresh) {other : FrontendMessage Bytes} (hby : NamedBy message other preparation.found)
    (hother : statementNamed other = some name)
    (h : Tables.Reaches (Minted keyOf' preparation.cache.nextId)
      (fun prepared => fresh → Own id parsed prepared) name reached) :
    Reach.Sound ⟨id, (statementNamed message).bind parsed.lookup, reached⟩ := by
  obtain ⟨asked, hasked, hcase⟩ := hby name hother
  obtain ⟨hsame, hfound⟩ := hprepares.uses asked hasked
  intro prepared hreached
  dsimp only at hreached
  rw [hasked, bind_some]
  rcases hcase with ⟨statement, action, heq, rfl⟩ | ⟨heq, rfl⟩
  · -- A minted name reaches the text of its statement.
    have hkey : prepared.key = statement.key := by
      have hminted := h prepared hreached
      rw [statement.minted, generated_ne_nil, if_neg Bool.false_ne_true] at hminted
      obtain ⟨other, _, hname, hkey⟩ := hminted
      rw [hkey, ← generated_injective hname, (hprepares.finds statement action heq).1.named]
    rw [heq] at hfound
    -- The name was resolved, so it is a name and stands for what was parsed under it.
    have hresolve : asked ≠ [] ∧ statements.resolve asked = some statement := by
      split at hfound
      · cases hfound
      · rename_i hempty
        exact ⟨fun hnil => hempty (List.isEmpty_iff.mpr hnil), hfound.symm⟩
    have hparsed := hnames.remembered asked hresolve.1
    rw [show statements.byName.lookup asked = some statement from hresolve.2] at hparsed
    rw [← hparsed]
    exact hkey
  · by_cases hempty : asked = []
    · rw [hempty] at h hasked ⊢
      have hown := h prepared hreached (hfresh hasked)
      split
      · rename_i key hkey
        exact hown.2 key hkey
      · exact hown.1
    · rw [hsame] at h
      exact absurd hreached fun hsome => not_reached hbound hempty h hsome

/-- What a message leaves on the held link, and what it reaches. -/
lemma message_spec (hprepares : Prepares keyOf cache statements parsed message preparation keyOf')
    (hnames : Names keyOf cache.nextId statements parsed) (hbound : cache.nextId ≤ 2 ^ 64)
    (hfresh : statementNamed message = some [] → fresh)
    (htables : tables.Within (Minted keyOf cache.nextId)
      fun prepared => fresh → Own id parsed prepared)
    (receptions : List Reception) (dropped : List Bytes) :
    (tables.receiveAll id dropped (sent message preparation.found) receptions).1.Within
        (Minted keyOf' preparation.cache.nextId)
        (fun prepared => staysFresh fresh message (receptions.headD .accepted) →
          Own id (remember parsed message) prepared) ∧
      ∀ reached ∈ (tables.receiveAll id dropped (sent message preparation.found) receptions).2,
        Reach.Sound ⟨id, (statementNamed message).bind parsed.lookup, reached⟩ := by
  have hgrown := htables.mono
    (fun _ _ hminted => hminted.mono hprepares.older hprepares.grows) (fun _ hslot => hslot)
  by_cases hunnamed : ∃ query paramTypes, message = .parse [] query paramTypes
  · obtain ⟨query, paramTypes, rfl⟩ := hunnamed
    constructor
    · change (tables.receive id dropped (.parse [] query paramTypes)
        (receptions.headD .accepted)).Within _ _
      unfold Tables.receive
      split
      · rename_i hskipped
        refine hgrown.mono (fun _ _ hminted => hminted) ?_
        intro prepared _ hstays
        rw [hskipped] at hstays
        cases hstays
      -- Whatever the slot held before, the `Parse` has replaced it.
      have hforgotten : ({ tables with unnamed := none } : Tables).Within
          (Minted keyOf' preparation.cache.nextId)
          (fun prepared => staysFresh fresh (.parse [] query paramTypes)
            (receptions.headD .accepted) = true →
            Own id (remember parsed (.parse [] query paramTypes)) prepared) :=
        ⟨hgrown.named, nofun⟩
      have hnew : Own id (remember parsed (.parse [] query paramTypes))
          ⟨⟨query, paramTypes⟩, id⟩ := by
        refine ⟨rfl, ?_⟩
        intro key hkey
        exact some.inj ((lookup_insert parsed).symm.trans hkey)
      change (({ tables with unnamed := none } : Tables).parse [] ⟨⟨query, paramTypes⟩, id⟩
        (decide (receptions.headD .accepted = .accepted))).Within _ _
      refine hforgotten.parse ?_ _
      exact fun _ => hnew
    · intro reached hreached
      change reached ∈ (if receptions.headD .accepted = .skipped then [] else []) ++ [] at hreached
      rw [ite_self] at hreached
      cases hreached
  · have hnamed : ∀ query paramTypes, message ≠ .parse [] query paramTypes :=
      fun query paramTypes heq => hunnamed ⟨query, paramTypes, heq⟩
    have hsent : ∀ other ∈ sent message preparation.found,
        Tables.Adds (Minted keyOf' preparation.cache.nextId)
          (fun prepared => fresh = true → Own id parsed prepared) id other ∧
            NamedBy message other preparation.found :=
      fun other hother => sent_spec hprepares.finds hnamed hother
    obtain ⟨hafter, hreached⟩ := @Tables.Within.receiveAll _ _ id dropped _ _ receptions hgrown
      fun other hother => (hsent other hother).1
    constructor
    · rw [staysFresh_of_named hnamed]
      exact hafter.mono (fun _ _ hminted => hminted)
        fun prepared hslot hstays => (hslot hstays).remember hnamed
    · intro reached hmem
      obtain ⟨other, hother, name, hname, hreaches⟩ := hreached reached hmem
      exact reached_sound hprepares hnames hbound hfresh (hsent other hother).2 hname hreaches

end Message

/-! ### Another instance's cache -/

/-- Re-interning every name leaves the client with known statements of the same texts. -/
lemma rebind_spec {order : List Bytes}
    {keyOf : Nat → StatementKey} {cache : GlobalStatementCache} {statements : ClientStatements} :
    cache.Faithful keyOf →
      (∀ name statement, statements.byName.lookup name = some statement → name ∉ order →
        Known keyOf cache.nextId statement) →
      (∀ name, name ≠ [] →
        (statements.byName.lookup name).map PreparedStatement.key = parsed.lookup name) →
      ∃ keyOf', (rebind cache statements order).2.Faithful keyOf' ∧
        (∀ id, id < cache.nextId → keyOf' id = keyOf id) ∧
        cache.nextId ≤ (rebind cache statements order).2.nextId ∧
        Names keyOf' (rebind cache statements order).2.nextId (rebind cache statements order).1
          parsed := by
  induction order generalizing keyOf cache statements with
  | nil =>
    intro hcache hknown hremembered
    refine ⟨keyOf, hcache, fun _ _ => rfl, le_refl _, ?_, hremembered⟩
    intro name statement hlookup
    exact hknown name statement hlookup (by simp)
  | cons name rest ih =>
    intro hcache hknown hremembered
    unfold rebind
    cases hlookup : statements.byName.lookup name with
    | none =>
      refine ih hcache ?_ hremembered
      intro other statement hother hrest
      refine hknown other statement hother ?_
      intro hmem
      rcases mem_cons.mp hmem with rfl | hlater
      · rw [hlookup] at hother
        cases hother
      · exact hrest hlater
    | some statement =>
      obtain ⟨keyOf1, hinterned⟩ := hcache.intern statement.key
      have hnew : Known keyOf1 (cache.intern statement.key).2.nextId
          (cache.intern statement.key).1 :=
        ⟨hinterned.named.trans hinterned.key_eq.symm, hinterned.bounded⟩
      have hrest := @ih keyOf1 (cache.intern statement.key).2
        ⟨statements.byName.insert name (cache.intern statement.key).1⟩ hinterned.faithful ?_ ?_
      · obtain ⟨keyOf', hfaithful, holder, hgrows, hnames⟩ := hrest
        refine ⟨keyOf', hfaithful, ?_, le_trans hinterned.grows hgrows, hnames⟩
        intro id hid
        rw [holder id (lt_of_lt_of_le hid hinterned.grows), hinterned.older id hid]
      · intro other found hother hlater
        by_cases hsame : other = name
        · rw [hsame, lookup_insert] at hother
          cases hother
          exact hnew
        rw [lookup_insert_ne hsame] at hother
        refine (hknown other found hother ?_).mono hinterned.older hinterned.grows
        intro hmem
        rcases mem_cons.mp hmem with heq | hthen
        · exact hsame heq
        · exact hlater hthen
      · intro other hother
        by_cases hsame : other = name
        · rw [hsame] at hother ⊢
          rw [lookup_insert, ← hremembered name hother, hlookup]
          exact congrArg some hinterned.key_eq
        · rw [lookup_insert_ne hsame]
          exact hremembered other hother

/-! ### The invariant -/

structure Client.Sound (keyOf : Nat → StatementKey) (bound : Nat) (id : ClientId)
    (client : Client) : Prop where
  names : Names keyOf bound client.statements client.parsed
  held : ∀ held, client.held = some held → held.link.home = client.home ∧
    held.link.tables.Within (Minted keyOf bound)
      fun prepared => held.fresh = true → Own id client.parsed prepared

namespace World

variable {w w' : World} {keyOf : InstanceId → Nat → StatementKey}

structure Sound (keyOf : InstanceId → Nat → StatementKey) (w : World) : Prop where
  caches : ∀ home, (w.caches home).Faithful (keyOf home)
  clients : ∀ id client, w.clients.get? id = some client →
    client.Sound (keyOf client.home) (w.caches client.home).nextId id
  parked : ∀ id link, w.parked.get? id = some link →
    link.tables.Within (Minted (keyOf link.home) (w.caches link.home).nextId) fun _ => True
  reached : ∀ reach ∈ w.reached, reach.Sound

lemma Sound.put (h : w.Sound keyOf) {id : ClientId} {client : Client}
    (hclient : client.Sound (keyOf client.home) (w.caches client.home).nextId id) :
    (w.put id client).Sound keyOf := by
  refine ⟨h.caches, ?_, h.parked, h.reached⟩
  intro other found hfound
  rcases get?_insert_cases hfound with ⟨rfl, rfl⟩ | ⟨_, hold⟩
  · exact hclient
  · exact h.clients other found hold

/-- One cache has grown. -/
def grown (w : World) (home : InstanceId) (cache : GlobalStatementCache) : World :=
  { w with caches := Function.update w.caches home cache }

lemma grown_self (w : World) (home : InstanceId) (cache : GlobalStatementCache) :
    (w.grown home cache).caches home = cache :=
  update_self _ _ _

lemma grown_of_ne (w : World) {home other : InstanceId} (cache : GlobalStatementCache)
    (h : other ≠ home) : (w.grown home cache).caches other = w.caches other :=
  update_of_ne h _ _

lemma Sound.grown (h : w.Sound keyOf) {home : InstanceId} {cache : GlobalStatementCache}
    {keyOf' : Nat → StatementKey} (hfaithful : cache.Faithful keyOf')
    (holder : ∀ id, id < (w.caches home).nextId → keyOf' id = keyOf home id)
    (hgrows : (w.caches home).nextId ≤ cache.nextId) :
    (w.grown home cache).Sound (Function.update keyOf home keyOf') := by
  have hnext other : (w.caches other).nextId ≤ ((w.grown home cache).caches other).nextId := by
    by_cases hsame : other = home
    · rw [hsame, grown_self]
      exact hgrows
    · rw [grown_of_ne w cache hsame]
  have hkeys other id : id < (w.caches other).nextId →
      Function.update keyOf home keyOf' other id = keyOf other id := by
    intro hid
    by_cases hsame : other = home
    · rw [hsame] at hid ⊢
      rw [update_self]
      exact holder id hid
    · rw [update_of_ne hsame]
  refine ⟨?_, ?_, ?_, h.reached⟩
  · intro other
    by_cases hsame : other = home
    · rw [hsame, grown_self, update_self]
      exact hfaithful
    · rw [grown_of_ne w cache hsame, update_of_ne hsame]
      exact h.caches other
  · intro id client hget
    have hclient := h.clients id client hget
    refine ⟨hclient.names.mono (hkeys client.home) (hnext client.home), ?_⟩
    intro held hheld
    obtain ⟨hhome, htables⟩ := hclient.held held hheld
    exact ⟨hhome, htables.mono (fun _ _ hminted =>
      hminted.mono (hkeys client.home) (hnext client.home)) fun _ hslot => hslot⟩
  · intro id link hget
    exact (h.parked id link hget).mono (fun _ _ hminted =>
      hminted.mono (hkeys link.home) (hnext link.home)) fun _ hslot => hslot

variable {id : ClientId} {client : Client} {held : Held} {message : FrontendMessage Bytes}
  {step : Step}

/-- A client gives its link up or has none. -/
lemma Sound.release (h : w.Sound keyOf) (hget : w.clients.get? id = some client) :
    (w.put id { client with held := none }).Sound keyOf := by
  refine h.put ⟨(h.clients id client hget).names, ?_⟩
  intro held hheld
  cases hheld

/-- A client takes a link it has parsed nothing on. -/
lemma Sound.take (h : w.Sound keyOf) {link : Link} (hget : w.clients.get? id = some client)
    (hhome : link.home = client.home)
    (htables : link.tables.Within (Minted (keyOf client.home) (w.caches client.home).nextId)
      fun _ => True) :
    (w.put id { client with held := some ⟨link, false, false⟩ }).Sound keyOf := by
  refine h.put ⟨(h.clients id client hget).names, ?_⟩
  intro held hheld
  cases hheld
  exact ⟨hhome, htables.mono (fun _ _ hminted => hminted) nofun⟩

/-- The held link loses statements or has its view changed. -/
lemma Sound.change (h : w.Sound keyOf) {link : Link} (hget : w.clients.get? id = some client)
    (hheld : client.held = some held) (hhome : link.home = held.link.home)
    (htables : ∀ {N : Bytes → Prepared → Prop} {S : Prepared → Prop},
      held.link.tables.Within N S → link.tables.Within N S) :
    (w.put id { client with held := some { held with link := link } }).Sound keyOf := by
  obtain ⟨hsame, hwithin⟩ := (h.clients id client hget).held held hheld
  refine h.put ⟨(h.clients id client hget).names, ?_⟩
  intro other hother
  cases hother
  exact ⟨hhome.trans hsame, htables hwithin⟩

/-- The messages that define, use or close a prepared statement. -/
def namesStatement : FrontendMessage Bytes → Bool
  | .parse _ _ _ | .bind _ _ | .describe .statement _ | .close .statement _ => true
  | _ => false

/-- The steps of a run in which every client reaches its own statements. -/
def Orderly (w : World) : Step → Prop
  | .message id message _ _ => ∀ client held, w.clients.get? id = some client →
      client.held = some held → (w.caches client.home).nextId ≤ 2 ^ 64 ∧
        (statementNamed message = some [] → held.fresh = true)
  | .oversized _ message _ _ => namesStatement message = false
  | _ => True

lemma Sound.onMessage (h : w.Sound keyOf) (hget : w.clients.get? id = some client)
    (hheld : client.held = some held) (hbound : (w.caches client.home).nextId ≤ 2 ^ 64)
    (hfresh : statementNamed message = some [] → held.fresh) (receptions : List Reception)
    (dropped : List Bytes) :
    ∃ keyOf', (w.onMessage id message receptions dropped client held).Sound keyOf' := by
  obtain ⟨hnames, hlinks⟩ := h.clients id client hget
  obtain ⟨hhome, htables⟩ := hlinks held hheld
  obtain ⟨keys, hprepares⟩ := prepare_spec (h.caches client.home) hnames held.link.view message
  obtain ⟨hafter, hreached⟩ :=
    message_spec hprepares hnames hbound hfresh htables receptions dropped
  have hgrown := h.grown hprepares.faithful hprepares.older hprepares.grows
  let client' : Client :=
    { client with
      statements := (prepare (w.caches client.home) client.statements held.link.view
        message).statements
      parsed := remember client.parsed message
      held := some { held with
          link :=
            { held.link with
              view := (prepare (w.caches client.home) client.statements held.link.view message).view
              tables := (held.link.tables.receiveAll id dropped (sent message
                (prepare (w.caches client.home) client.statements held.link.view message).found)
                receptions).1 }
          fresh := staysFresh held.fresh message (receptions.headD .accepted) } }
  have hclient : client'.Sound (Function.update keyOf client.home keys client.home)
      ((w.grown client.home (prepare (w.caches client.home) client.statements held.link.view
        message).cache).caches client.home).nextId id := by
    rw [update_self, grown_self]
    refine ⟨hprepares.names, ?_⟩
    intro other hother
    cases hother
    exact ⟨hhome, hafter⟩
  have hput := @Sound.put _ _ hgrown id client' hclient
  refine ⟨_, hput.caches, hput.clients, hput.parked, ?_⟩
  intro reach hmem
  rcases mem_append.mp hmem with hold | hnew
  · exact h.reached reach hold
  · obtain ⟨statement, hstatement, rfl⟩ := List.mem_map.mp hnew
    exact hreached statement hstatement

lemma silent_of_unnamed (hother : namesStatement message = false) :
    statementNamed message = none ∧ (∀ parsed, remember parsed message = parsed) ∧
      (∀ fresh reception, staysFresh fresh message reception = fresh) ∧
      ∀ N S owner, Tables.Adds N S owner message := by
  cases message with
  | parse _ _ _ | bind _ _ => cases hother
  | describe target _ | close target _ =>
    cases target with
    | statement => cases hother
    | portal => exact ⟨rfl, fun _ => rfl, fun _ _ => rfl, fun _ _ _ => trivial⟩
  | _ => exact ⟨rfl, fun _ => rfl, fun _ _ => rfl, fun _ _ _ => trivial⟩

lemma Sound.onOversized (h : w.Sound keyOf) (hget : w.clients.get? id = some client)
    (hheld : client.held = some held) (hother : namesStatement message = false)
    (reception : Reception) (dropped : List Bytes) :
    (w.onOversized id message reception dropped client held).Sound keyOf := by
  obtain ⟨hnames, hlinks⟩ := h.clients id client hget
  obtain ⟨hhome, htables⟩ := hlinks held hheld
  obtain ⟨hnamed, hremember, hfresh, hadds⟩ := silent_of_unnamed hother
  obtain ⟨hafter, hreached⟩ := @Tables.Within.receiveAll _ _ id dropped [message] _ [reception]
    htables fun other hmem => mem_singleton.mp hmem ▸ hadds _ _ _
  unfold World.onOversized
  dsimp only
  rw [hremember, hfresh]
  refine ⟨h.caches, ?_, h.parked, ?_⟩
  · intro other found hfound
    rcases get?_insert_cases hfound with ⟨rfl, rfl⟩ | ⟨_, hold⟩
    · refine ⟨hnames, ?_⟩
      intro taken htaken
      cases htaken
      exact ⟨hhome, hafter⟩
    · exact h.clients other found hold
  intro reach hmem
  rcases mem_append.mp hmem with hold | hnew
  · exact h.reached reach hold
  obtain ⟨statement, hstatement, rfl⟩ := List.mem_map.mp hnew
  obtain ⟨other, hmember, name, hname, _⟩ := hreached statement hstatement
  rw [mem_singleton.mp hmember, hnamed] at hname
  cases hname

lemma Sound.next (h : w.Sound keyOf) (horderly : w.Orderly step)
    (hnext : w.next step = some w') : ∃ keyOf', w'.Sound keyOf' := by
  cases step
  case connect id home =>
    unfold World.next at hnext
    dsimp only at hnext
    split at hnext
    · cases hnext
      refine ⟨keyOf, h.put ⟨names_new, ?_⟩⟩
      intro held hheld
      cases hheld
    · cases hnext
  case disconnect id =>
    cases hnext
    refine ⟨keyOf, h.caches, ?_, h.parked, h.reached⟩
    intro other client hget
    exact h.clients other client (get?_of_erase hget).2
  case closeParked link =>
    cases hnext
    refine ⟨keyOf, h.caches, h.clients, ?_, h.reached⟩
    intro other found hget
    exact h.parked other found (get?_of_erase hget).2
  -- The others are sections of a connected client.
  all_goals
    replace hnext := bind_eq_some_iff.mp hnext
    obtain ⟨client, hget, hnext⟩ := hnext
  case checkout id link capacity =>
    dsimp only at hnext
    split at hnext
    · cases hnext
    cases link with
    | none =>
      cases hnext
      exact ⟨keyOf, h.take hget rfl Tables.within_empty⟩
    | some link =>
      obtain ⟨found, hfound, hnext⟩ := bind_eq_some_iff.mp hnext
      split at hnext
      · rename_i hhome
        cases hnext
        have hparked := h.parked link found hfound
        rw [hhome] at hparked
        have htaken := h.take hget hhome hparked
        refine ⟨keyOf, htaken.caches, htaken.clients, ?_, htaken.reached⟩
        intro other rest hget
        exact h.parked other rest (get?_of_erase hget).2
      · cases hnext
  case checkIn id link =>
    obtain ⟨held, hheld, hnext⟩ := bind_eq_some_iff.mp hnext
    split at hnext
    · cases hnext
      have hreleased := h.release hget
      refine ⟨keyOf, hreleased.caches, hreleased.clients, ?_, hreleased.reached⟩
      intro other found hfound
      rcases get?_insert_cases hfound with ⟨_, rfl⟩ | ⟨_, hold⟩
      · obtain ⟨hhome, htables⟩ := (h.clients id client hget).held held hheld
        rw [hhome]
        exact htables.mono (fun _ _ hminted => hminted) fun _ _ => trivial
      · exact h.parked other found hold
    · cases hnext
  case follow id home order =>
    dsimp only at hnext
    split at hnext
    · rename_i hcond
      cases hnext
      have hnames := (h.clients id client hget).names
      have hrebound := @rebind_spec client.parsed order _ _ client.statements (h.caches home) ?_
        hnames.remembered
      · obtain ⟨keys, hfaithful, holder, hgrows, hrenamed⟩ := hrebound
        have hgrown := h.grown hfaithful holder hgrows
        refine ⟨_, hgrown.put ⟨?_, ?_⟩⟩
        · rw [update_self, grown_self]
          exact hrenamed
        · intro held hheld
          rw [hheld] at hcond
          cases hcond.1
      · intro name statement hlookup hmissing
        refine absurd (hcond.2.2.mem_iff.mpr ?_) hmissing
        rw [← AList.mem_keys, ← lookup_isSome, hlookup]
        rfl
    · cases hnext
  all_goals
    replace hnext := map_eq_some_iff.mp hnext
    obtain ⟨held, hheld, rfl⟩ := hnext
  case discard => exact ⟨keyOf, h.release hget⟩
  case message receptions dropped =>
    obtain ⟨hbound, hfresh⟩ := horderly client held hget hheld
    exact h.onMessage hget hheld hbound hfresh receptions dropped
  case oversized reception dropped =>
    exact ⟨keyOf, h.onOversized hget hheld horderly reception dropped⟩
  case internal =>
    refine ⟨keyOf, h.change hget hheld ?_ ?_⟩
    · unfold onInternal
      split <;> rfl
    intro N S hwithin
    unfold onInternal
    split
    · exact Tables.within_empty
    · exact Tables.within_empty
    · exact hwithin.forgetUnnamed
  case error =>
    exact ⟨keyOf, h.change hget hheld rfl fun hwithin => hwithin⟩

lemma sound_initial (capacity : Nat) (keyOf : InstanceId → Nat → StatementKey) :
    (initial capacity).Sound keyOf := by
  refine ⟨fun home key statement h => (by cases h), ?_, ?_, ?_⟩
  · intro id client hget
    cases hget
  · intro id link hget
    cases hget
  · intro reach hmem
    cases hmem

/-- **Clients reach their own statements.**  In every run in which the unnamed statement is used
only in the checkout it was parsed in and no oversized message names a statement, a `Bind` or a
`Describe` that reaches a statement reaches the text its client last parsed under the name it used,
and reaches nobody else's statement if there is none. -/
theorem clients_reach_their_own_statements {capacity : Nat} {w : World}
    (h : ((system capacity).restrict Orderly).Reachable w) : ∀ reach ∈ w.reached, reach.Sound := by
  have hsound : ∃ keyOf, w.Sound keyOf := by
    refine h.invariant (I := fun w => ∃ keyOf, w.Sound keyOf) ?_ ?_
    · rintro _ rfl
      exact ⟨fun _ _ => ⟨[], []⟩, sound_initial capacity _⟩
    · rintro u step v _ ⟨keyOf, hu⟩ ⟨horderly, hnext⟩
      exact hu.next horderly hnext
  obtain ⟨keyOf, hw⟩ := hsound
  exact hw.reached

/-! ### Runs on fixed inputs -/

def orderlyTest (w : World) : Step → Bool
  | .message id message _ _ => (w.clients.get? id).all fun client => client.held.all fun held =>
    decide ((w.caches client.home).nextId ≤ 2 ^ 64) &&
      (decide (statementNamed message ≠ some []) || held.fresh)
  | .oversized _ message _ _ => !namesStatement message
  | _ => true

lemma orderly_of_test (h : w.orderlyTest step) : w.Orderly step := by
  cases step with
  | message id message receptions dropped =>
    intro client held hget hheld
    rw [orderlyTest, hget, all_some, hheld, all_some, Bool.and_eq_true,
      decide_eq_true_eq, Bool.or_eq_true, decide_eq_true_eq] at h
    exact ⟨h.1, fun hunnamed => h.2.resolve_left fun hnamed => hnamed hunnamed⟩
  | oversized id message reception dropped => exact Bool.not_eq_true' _ |>.mp h
  | _ => trivial

def replay (test : World → Step → Bool) (steps : List Step) : Option World :=
  System.run (System.guarded next test) (initial 1) steps

lemma reachable_of_replay {test : World → Step → Bool} {steps : List Step}
    (h : replay test steps = some w) :
    ((system 1).restrict fun w step => test w step).Reachable w :=
  System.reachable_of_guarded_run (fun _ _ _ => id) rfl h

def selectOne : StatementKey := ⟨Epoch.ascii "SELECT 1", []⟩

def selectTwo : StatementKey := ⟨Epoch.ascii "SELECT 2", []⟩

/-- A client parses a statement under a name on the link it holds and gives the link back. -/
def parsesAndLeaves (client : ClientId) (name : Bytes) (key : StatementKey) : List Step :=
  [.message client (.parse name key.query key.paramTypes) [] [], .message client .sync [] [],
    .checkIn client 0]

/-- Two clients use one name for two statements on a link, and through a cache, with room for
one. -/
def sharedName : List Step :=
  [.connect 0 0, .connect 1 0, .checkout 0 none 1] ++ parsesAndLeaves 0 [97] selectOne ++
    [.checkout 1 (some 0) 1] ++ parsesAndLeaves 1 [97] selectTwo ++
    [.checkout 0 (some 0) 1, .message 0 (.bind [] [97]) [] [],
      .message 0 (.describe .statement [98]) [] []]

theorem clients_reach_their_own_statements_sharedName :
    ∃ w, replay orderlyTest sharedName = some w ∧
      w.reached = [⟨0, some selectOne, some ⟨selectOne, 0⟩⟩, ⟨0, none, none⟩] ∧
      ∀ reach ∈ w.reached, reach.Sound := by
  obtain ⟨w, hw, hreached⟩ : ∃ w, replay orderlyTest sharedName = some w ∧
      w.reached = [⟨0, some selectOne, some ⟨selectOne, 0⟩⟩, ⟨0, none, none⟩] :=
    exists_of_any (by decide +kernel)
  have hreach := (reachable_of_replay hw).restrict_mono fun _ _ htest => orderly_of_test htest
  exact ⟨w, hw, hreached, clients_reach_their_own_statements hreach⟩

/-- The same with the unnamed statement: it stays on the link, and the client that comes back
binds the other client's. -/
theorem unnamed_statement_is_anothers :
    ∃ w, (system 1).Reachable w ∧ w.reached = [⟨0, some selectOne, some ⟨selectTwo, 1⟩⟩] ∧
      ¬ ∀ reach ∈ w.reached, reach.Sound := by
  let steps : List Step :=
    [.connect 0 0, .connect 1 0, .checkout 0 none 1] ++ parsesAndLeaves 0 [] selectOne ++
      [.checkout 1 (some 0) 1] ++ parsesAndLeaves 1 [] selectTwo ++
      [.checkout 0 (some 0) 1, .message 0 (.bind [] []) [] []]
  obtain ⟨w, hw, hreached⟩ : ∃ w, replay (fun _ _ => true) steps = some w ∧
      w.reached = [⟨0, some selectOne, some ⟨selectTwo, 1⟩⟩] :=
    exists_of_any (by decide +kernel)
  refine ⟨w, (reachable_of_replay hw).of_restrict, hreached, ?_⟩
  intro hsound
  rw [hreached] at hsound
  have hkey : selectTwo = selectOne := hsound _ (mem_singleton_self _) _ rfl
  exact absurd hkey (by decide)

end World
end Sharing
end PgElastic.Proxy
