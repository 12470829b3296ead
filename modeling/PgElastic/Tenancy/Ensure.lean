import PgElastic.Library.Transition

/-!
# Provisioning a tenant

A call of `Ensure` issues the statements that what it observes asks for; one that fails or stops has
run the first of them.  The credential and the grants go with the creation of the role or the
database only, so a call that ends before its last `GRANT` leaves them to nobody.
-/

namespace PgElastic.Tenancy

open Library List

variable {R V : Type}

structure Role (V : Type) where
  password : Option V
  connectionLimit : Int

/-- `connects` are the roles with a `CONNECT` of their own. -/
structure Database (R : Type) where
  owner : R
  isPublic : Bool
  connects : List R

/-- The tenant's role and its database. -/
structure Catalog (R V : Type) where
  role : Option (Role V)
  database : Option (Database R)

/-- `readers` are those with a name. -/
structure Spec (R V : Type) where
  owner : R
  readers : List R
  verifier : Option V
  connectionLimit : Int

inductive Statement (R V : Type)
  | createRole
  | createDatabase (owner : R)
  | alterPassword (verifier : V)
  | revokeFromPublic
  | grantConnect (role : R)
  | alterConnectionLimit (limit : Int)

/-- An object that exists is created no second time, and the error is tolerated. -/
def Statement.run (c : Catalog R V) : Statement R V → Catalog R V
  | createRole => { c with role := some (c.role.getD ⟨none, -1⟩) }
  | createDatabase owner => { c with database := some (c.database.getD ⟨owner, true, [owner]⟩) }
  | alterPassword verifier => { c with role := c.role.map ({ · with password := some verifier }) }
  | revokeFromPublic => { c with database := c.database.map ({ · with isPublic := false }) }
  | grantConnect role =>
    { c with database := c.database.map fun d => { d with connects := role :: d.connects } }
  | alterConnectionLimit limit =>
    { c with role := c.role.map ({ · with connectionLimit := limit }) }

variable (ops : R) (spec : Spec R V) (c : Catalog R V)

def ensureRole : List (Statement R V) := if c.role.isSome then [] else [.createRole]

def ensureDatabase : List (Statement R V) :=
  if c.database.isSome then [] else [.createDatabase spec.owner]

def ensureCredential : List (Statement R V) := spec.verifier.toList.map .alterPassword

def ensureDatabaseGrants : List (Statement R V) :=
  .revokeFromPublic :: (spec.owner :: spec.readers ++ [ops]).map .grantConnect

/-- A role that is missing is observed, and created, with the limit -1. -/
def ensureConnectionLimit : List (Statement R V) :=
  if c.role.elim (-1) Role.connectionLimit = spec.connectionLimit then []
  else [.alterConnectionLimit spec.connectionLimit]

/-- What a call does when it finds one of the objects missing. -/
def creation : List (Statement R V) :=
  ensureRole c ++ ensureDatabase spec c ++ ensureCredential spec ++ ensureDatabaseGrants ops spec

/-- The statements of a call that finds `c`. -/
def ensure : List (Statement R V) :=
  (if c.role.isNone || c.database.isNone then creation ops spec c else []) ++
    ensureConnectionLimit spec c

/-- A call that gets through `n` of its statements. -/
def call (n : Nat) : Catalog R V := ((ensure ops spec c).take n).foldl Statement.run c

def calls : System (Catalog R V) Nat where
  init c := c = ⟨none, none⟩
  step c n c' := call ops spec c n = c'

/-- A call that finds an object missing ends before its `CREATE DATABASE` or gets to its last
`GRANT`. -/
def Whole (n : Nat) : Prop :=
  c.role.isNone || c.database.isNone →
    n ≤ (ensureRole c).length ∨ (creation ops spec c).length ≤ n

/-- There is no database, and the role is at most as `CREATE ROLE` leaves it. -/
def Bare : Prop := c.database = none ∧ (c.role = none ∨ c.role = some ⟨none, -1⟩)

/-- What the calls are for, but for the connection limit. -/
def provisioned (limit : Int) : Catalog R V :=
  ⟨some ⟨spec.verifier, limit⟩,
    some ⟨spec.owner, false, (spec.owner :: spec.readers ++ [ops]).reverse ++ [spec.owner]⟩⟩

def Shaped : Prop := Bare c ∨ ∃ limit, c = provisioned ops spec limit

variable {ops spec c} {n : Nat}

lemma foldl_grants (roles : List R) : (roles.map Statement.grantConnect).foldl Statement.run c =
    { c with
      database := c.database.map fun d => { d with connects := roles.reverse ++ d.connects } } := by
  induction roles generalizing c with
  | nil => cases c with | mk role database => cases database <;> rfl
  | cons r rest ih => simp [ih, Statement.run, Function.comp_def]

lemma Bare.foldl_creation (h : Bare c) :
    (creation ops spec c).foldl Statement.run c = provisioned ops spec (-1) := by
  obtain ⟨role, database⟩ := c
  obtain ⟨hdatabase, hrole⟩ := h
  dsimp only at hdatabase hrole
  subst hdatabase
  simp only [creation, ensureDatabase, ensureCredential, ensureDatabaseGrants, foldl_append,
    foldl_cons, foldl_grants]
  rcases hrole with rfl | rfl <;> cases hverifier : spec.verifier <;>
    simp [ensureRole, Statement.run, provisioned, hverifier]

/-- Once the objects are there, what is left of a call is what the next one would issue. -/
lemma Bare.ensure_eq (h : Bare c) : ensure ops spec c =
    creation ops spec c ++ ensure ops spec (provisioned ops spec (-1)) := by
  obtain ⟨role, database⟩ := c
  obtain ⟨hdatabase, hrole⟩ := h
  dsimp only at hdatabase hrole
  subst hdatabase
  rcases hrole with rfl | rfl <;> rfl

/-- A call that ends before its `CREATE DATABASE` has created the role at most. -/
lemma Bare.call_early (h : Bare c) (hn : n ≤ (ensureRole c).length) : Bare (call ops spec c n) := by
  have hissued : (ensure ops spec c).take n = (ensureRole c).take n := by
    rw [h.ensure_eq, creation, append_assoc, append_assoc, append_assoc,
      take_append_of_le_length hn]
  rw [call, hissued]
  obtain ⟨hdatabase, hrole | hrole⟩ := h
  · rw [ensureRole, hrole]
    rcases n with - | n
    · exact ⟨hdatabase, .inl hrole⟩
    · simp [Statement.run, Bare, hdatabase, hrole]
  · rw [ensureRole, hrole, Option.isSome_some, if_pos rfl, take_nil]
    exact ⟨hdatabase, .inr hrole⟩

lemma call_provisioned (limit : Int) (n : Nat) :
    ∃ limit', call ops spec (provisioned ops spec limit) n = provisioned ops spec limit' ∧
      ((ensure ops spec (provisioned ops spec limit)).length ≤ n →
        limit' = spec.connectionLimit) := by
  have hensure : ensure ops spec (provisioned ops spec limit) =
    if limit = spec.connectionLimit then [] else [.alterConnectionLimit spec.connectionLimit] := rfl
  rw [call, hensure]
  split
  · exact ⟨limit, by rw [take_nil]; rfl, fun _ => ‹_›⟩
  · cases n with
    | zero => exact ⟨limit, rfl, nofun⟩
    | succ n => exact ⟨_, by rw [take_succ_cons, take_nil]; rfl, fun _ => rfl⟩

lemma Shaped.call_spec (h : Shaped ops spec c) (hwhole : Whole ops spec c n) :
    Bare c ∧ n ≤ (ensureRole c).length ∨ ∃ limit, call ops spec c n = provisioned ops spec limit ∧
        ((ensure ops spec c).length ≤ n → limit = spec.connectionLimit) := by
  rcases h with hbare | ⟨limit, rfl⟩
  · have hmissing : c.role.isNone || c.database.isNone := by simp [hbare.1]
    refine (hwhole hmissing).imp (fun hn => ⟨hbare, hn⟩) fun hlast => ?_
    obtain ⟨limit, hcall, hlimit⟩ := call_provisioned (-1) (n - (creation ops spec c).length)
    rw [call, hbare.ensure_eq, take_append, take_of_length_le hlast, foldl_append,
      hbare.foldl_creation, length_append]
    exact ⟨limit, hcall, fun hn => hlimit (by omega)⟩
  · exact .inr (call_provisioned limit n)

/-- When no call ends between its `CREATE DATABASE` and its last `GRANT`, a call that gets through its
statements leaves the role with its credential and the database to the tenant. -/
theorem ensure_confines_the_tenant (h : ((calls ops spec).restrict (Whole ops spec)).Reachable c)
    (hn : (ensure ops spec c).length ≤ n) :
    ∃ role d, call ops spec c n = ⟨some role, some d⟩ ∧
      (∀ v, spec.verifier = some v → role.password = some v) ∧
      role.connectionLimit = spec.connectionLimit ∧ d.owner = spec.owner ∧ d.isPublic = false ∧
      ∀ r ∈ spec.owner :: ops :: spec.readers, r ∈ d.connects := by
  have hshaped : Shaped ops spec c := by
    refine h.invariant ?_ ?_
    · rintro c rfl
      exact .inl ⟨rfl, .inl rfl⟩
    rintro c n _ - hshaped ⟨hwhole, rfl⟩
    rcases hshaped.call_spec hwhole with ⟨hbare, hn⟩ | ⟨limit, hcall, -⟩
    · exact .inl (hbare.call_early hn)
    · exact .inr ⟨limit, hcall⟩
  have hwhole : Whole ops spec c n := by
    intro hmissing
    rw [ensure, if_pos hmissing, length_append] at hn
    exact .inr (by omega)
  rcases hshaped.call_spec hwhole with ⟨hbare, hearly⟩ | ⟨limit, hcall, hlimit⟩
  · rw [hbare.ensure_eq, creation, ensureDatabaseGrants] at hn
    simp only [length_append, length_cons] at hn
    omega
  refine ⟨_, _, hcall, fun v hv => hv, hlimit hn, rfl, rfl, ?_⟩
  intro r hr
  simp only [mem_append, mem_reverse, mem_cons] at hr ⊢
  tauto

/-- Owner 1, reader 2 and verifier 7. -/
def readerSpec : Spec Nat Nat := ⟨1, [2], some 7, 10⟩

/-- The first call stops after `CREATE ROLE`, and the second goes through. -/
theorem ensure_confines_the_tenant_resumed : ∃ role d,
    call 0 readerSpec (call 0 readerSpec ⟨none, none⟩ 1) 8 = ⟨some role, some d⟩ ∧
      role.password = some 7 ∧ d.isPublic = false ∧ 2 ∈ d.connects := by
  have hresumed : ((calls 0 readerSpec).restrict (Whole 0 readerSpec)).Reachable
      (call 0 readerSpec ⟨none, none⟩ 1) :=
    .step (.init rfl) ⟨fun _ => .inl (by decide), rfl⟩
  obtain ⟨role, d, hcall, hpassword, -, -, hpublic, hconnects⟩ :=
    ensure_confines_the_tenant (n := 8) hresumed (by decide)
  exact ⟨role, d, hcall, hpassword 7 rfl, hpublic, hconnects 2 (by simp [readerSpec])⟩

/-- The first call stops after `CREATE DATABASE`, and the second has only the limit to set. -/
theorem stopped_call_leaves_the_database_public : ∃ c role d,
    (calls 0 readerSpec).Reachable c ∧ ensure 0 readerSpec c = [.alterConnectionLimit 10] ∧
      call 0 readerSpec c 1 = ⟨some role, some d⟩ ∧ role.password = none ∧ d.isPublic = true :=
  ⟨call 0 readerSpec ⟨none, none⟩ 2, _, _, .step (.init rfl) rfl, rfl, rfl, rfl, rfl⟩

end PgElastic.Tenancy
