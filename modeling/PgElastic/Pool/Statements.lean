import PgElastic.Epoch.Sql
import PgElastic.Library.OrderedMap
import PgElastic.Wire.Message

/-!
# Prepared statements

The three tables `pgelastic-pool` keeps about protocol-level prepared statements: the
content-addressed cache of a whole instance, the names one client has chosen, and what one
backend link has parsed, an LRU.  A statement is identified by its text and its parameter
types and goes to the backend under a name minted from its id.

Hash maps are finite maps without an order.  The link's table carries what its operations
keep: the recency list names each tracked statement once, and each under its minted name.
-/

namespace PgElastic.Pool

open Library Wire OrderedMap List

/-- The identity of a prepared statement. -/
structure StatementKey where
  query : Bytes
  paramTypes : List UInt32
  deriving DecidableEq, Repr

/-! ### Minted names -/

namespace StatementName

/-- The bytes every minted name starts with. -/
def reserved : Bytes := Epoch.ascii "pgel_"

def hexDigit (digit : Nat) : UInt8 :=
  if digit < 10 then 48 + digit.toUInt8 else 87 + digit.toUInt8

/-- The value of a lower-case hexadecimal digit. -/
def hexValue (byte : UInt8) : Nat :=
  if byte < 97 then byte.toNat - 48 else byte.toNat - 87

/-- The digits of an id, at least sixteen of them, least significant first. -/
def paddedDigits (id : Nat) : List Nat :=
  Nat.digits 16 id ++ List.replicate (16 - (Nat.digits 16 id).length) 0

def generated (id : Nat) : Bytes := reserved ++ (paddedDigits id).reverse.map hexDigit

def isAsciiHexdigit (byte : UInt8) : Bool :=
  Epoch.isAsciiDigit byte || (97 ≤ byte && byte ≤ 102) || (65 ≤ byte && byte ≤ 70)

/-- Whether a name has the exact shape the cache mints. -/
def isGenerated (name : Bytes) : Bool :=
  name.length == reserved.length + 16 && reserved.isPrefixOf name &&
    (name.drop reserved.length).all isAsciiHexdigit

/-- Moves a client-chosen name out of the pool's namespace, keeping its length. -/
def escaped (name : Bytes) : Bytes := name.set (reserved.length - 1) 120

lemma hexValue_hexDigit {digit : Nat} (h : digit < 16) : hexValue (hexDigit digit) = digit := by
  have hall : ∀ value : Fin 16, hexValue (hexDigit value) = value := by decide
  exact hall ⟨digit, h⟩

lemma lt_of_mem_paddedDigits {id digit : Nat} (h : digit ∈ paddedDigits id) : digit < 16 := by
  rcases mem_append.mp h with hdigit | hpad
  · exact Nat.digits_lt_base (by decide) hdigit
  · have hzero : digit = 0 := eq_of_mem_replicate hpad
    omega

/-- The id can be read back from the digits of the name. -/
lemma ofDigits_paddedDigits (id : Nat) : Nat.ofDigits 16 (paddedDigits id) = id := by
  unfold paddedDigits
  rw [Nat.ofDigits_append_replicate_zero, Nat.ofDigits_digits]

/-- Different statements have different names. -/
lemma generated_injective : Function.Injective generated := by
  intro first second h
  have hdigits := append_cancel_left h
  have hread id : ((paddedDigits id).reverse.map hexDigit).map hexValue =
      (paddedDigits id).reverse := by
    rw [List.map_map]
    refine (map_congr_left ?_).trans (List.map_id _)
    intro digit hdigit
    exact hexValue_hexDigit (lt_of_mem_paddedDigits (mem_reverse.mp hdigit))
  have hreverse : (paddedDigits first).reverse = (paddedDigits second).reverse := by
    rw [← hread first, ← hread second, hdigits]
  rw [← ofDigits_paddedDigits first, ← ofDigits_paddedDigits second, reverse_injective hreverse]

end StatementName

/-- A statement of the cache, under the name minted for it. -/
structure PreparedStatement where
  id : Nat
  name : Bytes
  key : StatementKey
  minted : name = StatementName.generated id
  deriving DecidableEq, Repr

/-! ### The cache of an instance -/

/-- The content-addressed statement cache, bounded by evicting the least recently used. -/
structure GlobalStatementCache where
  entries : AList fun _ : StatementKey => PreparedStatement
  recency : List StatementKey
  capacity : Nat
  nextId : Nat
  evicted : Nat
  deriving DecidableEq

namespace GlobalStatementCache

def withCapacity (capacity : Nat) : GlobalStatementCache where
  entries := ∅
  recency := []
  capacity := max capacity 1
  nextId := 0
  evicted := 0

def touch (cache : GlobalStatementCache) (key : StatementKey) : GlobalStatementCache :=
  { cache with recency := cache.recency.erase key ++ [key] }

def evictOldest (cache : GlobalStatementCache) : GlobalStatementCache :=
  match cache.recency with
  | [] => cache
  | victim :: rest =>
    { cache with
      entries := cache.entries.erase victim
      recency := rest
      evicted := cache.evicted + 1 }

/-- Mints a statement for a key that has none. -/
def mint (cache : GlobalStatementCache) (key : StatementKey) :
    PreparedStatement × GlobalStatementCache :=
  let statement : PreparedStatement :=
    ⟨cache.nextId, StatementName.generated cache.nextId, key, rfl⟩
  (statement, { cache with
      entries := cache.entries.insert key statement
      recency := cache.recency ++ [key]
      nextId := cache.nextId + 1 })

/-- The shared statement for a key, created if new. -/
def intern (cache : GlobalStatementCache) (key : StatementKey) :
    PreparedStatement × GlobalStatementCache :=
  match cache.entries.lookup key with
  | some existing => (existing, cache.touch key)
  | none =>
    if cache.capacity ≤ cache.entries.entries.length then cache.evictOldest.mint key
    else cache.mint key

end GlobalStatementCache

/-! ### The names of a client -/

/-- One client's mapping from the names it chose to shared statements. -/
structure ClientStatements where
  byName : AList fun _ : Bytes => PreparedStatement
  deriving DecidableEq

namespace ClientStatements

def new : ClientStatements := ⟨∅⟩

/-- The unnamed statement is not cacheable. -/
def insert (statements : ClientStatements) (name : Bytes) (statement : PreparedStatement) :
    ClientStatements :=
  if name.isEmpty then statements else ⟨statements.byName.insert name statement⟩

def resolve (statements : ClientStatements) (name : Bytes) : Option PreparedStatement :=
  statements.byName.lookup name

def remove (statements : ClientStatements) (name : Bytes) : ClientStatements :=
  ⟨statements.byName.erase name⟩

end ClientStatements

/-! ### What a link has parsed -/

/-- What must happen before a statement can be bound on a link. -/
inductive ServerAction
  | ready
  | parse (name : Bytes)
  | evictThenParse (evict name : Bytes)
  deriving DecidableEq, Repr

/-- The statements currently parsed on one backend link, as an LRU. -/
structure ServerStatements where
  capacity : Nat
  names : OrderedMap Nat Bytes
  recency : List Nat
  /-- The view was dropped without the backend being told. -/
  forgotten : Bool
  positive : 0 < capacity
  tracked : ∀ id, id ∈ recency ↔ (names.get? id).isSome = true
  distinct : recency.Nodup
  minted : ∀ id name, names.get? id = some name → name = StatementName.generated id

namespace ServerStatements

def new (capacity : Nat) : ServerStatements where
  capacity := max capacity 1
  names := OrderedMap.empty
  recency := []
  forgotten := false
  positive := by omega
  tracked := by simp
  distinct := nodup_nil
  minted := by simp

def contains (view : ServerStatements) (statement : PreparedStatement) : Bool :=
  (view.names.get? statement.id).isSome

def isFull (view : ServerStatements) : Bool := view.capacity ≤ view.names.entries.length

/-- Moves a tracked statement to the recent end. -/
def touch (view : ServerStatements) (id : Nat) (h : id ∈ view.recency) : ServerStatements where
  capacity := view.capacity
  names := view.names
  recency := view.recency.erase id ++ [id]
  forgotten := view.forgotten
  positive := view.positive
  tracked := by
    intro other
    rw [← view.tracked other, mem_append, mem_singleton]
    by_cases hsame : other = id
    · rw [hsame]
      exact iff_of_true (.inr rfl) h
    · rw [mem_erase_of_ne hsame]
      exact ⟨fun hor => hor.resolve_right hsame, .inl⟩
  distinct := by
    refine nodup_append.mpr ⟨view.distinct.erase id, nodup_singleton id, ?_⟩
    intro first hfirst second hsecond
    rw [mem_singleton.mp hsecond]
    rintro rfl
    exact (List.Nodup.mem_erase_iff view.distinct).mp hfirst |>.1 rfl
  minted := view.minted

/-- Takes the least recently used statement out of the view. -/
def evictOldest (view : ServerStatements) : Option Bytes × ServerStatements :=
  match hrecency : view.recency with
  | [] => (none, view)
  | victim :: rest =>
    (view.names.get? victim,
      { capacity := view.capacity
        names := view.names.erase victim
        recency := rest
        forgotten := view.forgotten
        positive := view.positive
        tracked := by
          intro id
          have htracked := view.tracked id
          have hdistinct := view.distinct
          rw [hrecency] at htracked hdistinct
          rw [get?_erase]
          by_cases hsame : id = victim
          · rw [if_pos hsame, hsame]
            simp [(nodup_cons.mp hdistinct).1]
          · rw [if_neg hsame, ← htracked]
            simp [hsame]
        distinct := by
          have hdistinct := view.distinct
          rw [hrecency] at hdistinct
          exact (nodup_cons.mp hdistinct).2
        minted := by
          intro id name hname
          exact view.minted id name (get?_of_erase hname).2 })

/-- Starts tracking a statement the view does not hold. -/
def track (view : ServerStatements) (statement : PreparedStatement)
    (h : view.contains statement = false) : ServerStatements where
  capacity := view.capacity
  names := view.names.insert statement.id statement.name
  recency := view.recency ++ [statement.id]
  forgotten := view.forgotten
  positive := view.positive
  tracked := by
    intro id
    rw [mem_append, mem_singleton, get?_insert, view.tracked id]
    by_cases hsame : id = statement.id <;> simp [hsame]
  distinct := by
    refine nodup_append.mpr ⟨view.distinct, nodup_singleton _, ?_⟩
    intro first hfirst second hsecond
    rw [mem_singleton.mp hsecond]
    rintro rfl
    have hknown := (view.tracked statement.id).mp hfirst
    rw [contains] at h
    rw [h] at hknown
    cases hknown
  minted := by
    intro id name hname
    rw [get?_insert] at hname
    split at hname
    · rename_i hsame
      rw [← Option.some.inj hname, hsame]
      exact statement.minted
    · exact view.minted id name hname

/-- Makes room for one more statement if the view is full. -/
def makeRoom (view : ServerStatements) : Option Bytes × ServerStatements :=
  if view.isFull then view.evictOldest else (none, view)

variable {statement : PreparedStatement} {view : ServerStatements}

lemma contains_evictOldest
    (h : view.contains statement = false) : view.evictOldest.2.contains statement = false := by
  unfold evictOldest
  split
  · exact h
  unfold contains at h ⊢
  rw [get?_erase]
  split
  · rfl
  · exact h

lemma contains_makeRoom
    (h : view.contains statement = false) : view.makeRoom.2.contains statement = false := by
  unfold makeRoom
  split
  · exact contains_evictOldest h
  · exact h

/-- Decides what to send before binding a statement on the link, and records the outcome
as if it had been sent. -/
def ensure (view : ServerStatements) (statement : PreparedStatement) :
    ServerAction × ServerStatements :=
  match hknown : view.contains statement with
  | true => (.ready, view.touch statement.id ((view.tracked _).mpr hknown))
  | false =>
    let after := view.makeRoom.2.track statement (contains_makeRoom hknown)
    match view.makeRoom.1 with
    | some evict => (.evictThenParse evict statement.name, after)
    | none =>
      -- A `Close` of a statement the backend does not have is a no-op.
      if view.forgotten then (.evictThenParse statement.name statement.name, after)
      else (.parse statement.name, after)

/-- An empty view of the same capacity. -/
def emptied (view : ServerStatements) (forgotten : Bool) : ServerStatements where
  capacity := view.capacity
  names := OrderedMap.empty
  recency := []
  forgotten := forgotten
  positive := view.positive
  tracked := by simp
  distinct := nodup_nil
  minted := by simp

/-- Forgets everything, because the backend has. -/
def clear (view : ServerStatements) : ServerStatements := view.emptied false

/-- Forgets everything without knowing what the backend still holds. -/
def forget (view : ServerStatements) : ServerStatements := view.emptied true

end ServerStatements

/-! ### Statements that drop the backend's prepared statements -/

inductive CacheInvalidation
  | deallocate
  | discard
  deriving DecidableEq, Repr

/-- The scan over the tokens of a text; `found` is what it has seen so far. -/
def scanInvalidation (found : Option CacheInvalidation) :
    List Bytes → Option CacheInvalidation
  | [] => found
  | token :: rest =>
    if Epoch.eqWord token "deallocate" then scanInvalidation (some .deallocate) rest
    else if Epoch.eqWord token "discard" then some .discard
    else scanInvalidation found rest

/-- Detects texts that may drop the backend's prepared statements.  A token scan and not a
parser, so it also fires on text that does not. -/
def detectCacheInvalidation (sql : Bytes) : Option CacheInvalidation :=
  scanInvalidation none (sql.splitOnP fun byte => !Epoch.isWordByte byte)

end PgElastic.Pool
