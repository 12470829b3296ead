import PgElastic.Library.OrderedMap

/-!
# The login table and its adoption

A proxy authenticates clients against a table of logins built from its configuration document,
and follows later documents by adopting them: a login whose configuration is unchanged keeps its
record, because building it again would move its salt, and the others are built anew.

The table is keyed by the login's name alone, although a login belongs to a tenant and two
tenants may each have one of the same name.  Of two entries of one name only the later is in the
table, and a record kept for the earlier is the later one's.  A client is let in exactly when an entry
of its name and tenant matches its password where the last entry of the name makes up for the others,
and after adoptions that keep the deciding entries the table is the one a proxy started from the last
document would build.

What a SCRAM exchange proves is assumed (`Scram`): a verifier accepts some passwords, and one
derived from a password accepts the same ones under every salt.
-/

namespace PgElastic.Proxy.Logins

open Option List

/-- The SCRAM verifiers: how one is read from a stored secret or derived from a password, and
which passwords the exchange proves against it. -/
structure Scram (V : Type) where
  parse : String → Option V
  fromPassword : String → Nat → V
  accepts : V → String → Bool
  salted : ∀ password salt salt', accepts (fromPassword password salt) =
    accepts (fromPassword password salt')

/-- One published login. -/
structure UserConfig where
  name : String
  tenant : String
  contained : Bool
  verifier : Option String
  password : Option String
  backendRole : String
  backendSaltedPassword : String
  backendSalt : String
  backendIterations : Nat
  backendCredentialGeneration : Nat
  deriving DecidableEq, Repr

/-- What proves a login, and which tenant it may be. -/
structure UserRecord (V : Type) where
  verifier : V
  tenant : String

/-- The table by login name; the latest entry of a name is the one it holds. -/
abbrev Table (V : Type) := List (String × UserRecord V)

/-- Why a document is not taken up. -/
inductive LoginError
  | malformedVerifier (name : String)
  | noCredential (name : String)
  | noLogins
  deriving DecidableEq, Repr

section Tables

variable {V : Type} (S : Scram V)

def loginRecord (user : UserConfig) (salt : Nat) : Except LoginError (UserRecord V) :=
  match user.verifier, user.password with
  | some secret, _ =>
    match S.parse secret with
    | some verifier => .ok { verifier := verifier, tenant := user.tenant }
    | none => .error (.malformedVerifier user.name)
  | none, some password =>
    .ok { verifier := S.fromPassword password salt, tenant := user.tenant }
  | none, none => .error (.noCredential user.name)

/-- The loop of both table builders: one record for each login, filed under its name. -/
def tableOf (record : UserConfig → Except LoginError (UserRecord V)) :
    Table V → List UserConfig → Except LoginError (Table V)
  | table, [] => .ok table
  | table, user :: rest =>
    match record user with
    | .error e => .error e
    | .ok built => tableOf record ((user.name, built) :: table) rest

/-- `salt` is the salt drawn for each login of this build. -/
def loginTable (users : List UserConfig) (salt : UserConfig → Nat) :
    Except LoginError (Table V) :=
  tableOf (fun user => loginRecord S user (salt user)) [] users

/-- The half of the configuration that is followed without a restart. -/
structure Dynamic (V : Type) (C : Type) where
  tenants : List C
  users : List UserConfig
  auth : Table V

variable {C : Type}

def adoptedLoginTable (previous : Dynamic V C) (next : List UserConfig)
    (salt : UserConfig → Nat) : Except LoginError (Table V) :=
  tableOf (fun user =>
    match if user ∈ previous.users then previous.auth.lookup user.name else none with
    | some record => .ok record
    | none => loginRecord S user (salt user)) [] next

/-- Takes up a document; answers whether anything moved. -/
def adopt [DecidableEq C] (current : Dynamic V C) (tenants : List C) (users : List UserConfig)
    (salt : UserConfig → Nat) : Except LoginError (Bool × Dynamic V C) :=
  if current.users = users ∧ current.tenants = tenants then .ok (false, current)
  else if current.users ≠ [] ∧ users = [] then .error .noLogins
  else if current.users = users then
    .ok (true, { tenants := tenants, users := users, auth := current.auth })
  else
    match adoptedLoginTable S current users salt with
    | .error e => .error e
    | .ok auth => .ok (true, { tenants := tenants, users := users, auth := auth })

/-- No logins are configured, and every client is let in. -/
def isTrust (auth : Table V) : Bool := auth.isEmpty

/-- The exchange; an unknown login is challenged with a mock verifier. -/
def authenticates (mock : String → V) (auth : Table V) (user password : String) : Bool :=
  isTrust auth || S.accepts (((auth.lookup user).map (·.verifier)).getD (mock user)) password

def admits (auth : Table V) (user tenant : String) : Bool :=
  isTrust auth || match auth.lookup user with
    | some record => record.tenant.isEmpty || record.tenant = tenant
    | none => false

/-- Whether `serve` lets a client in that asks for a tenant and proves a password. -/
def admitted (mock : String → V) (auth : Table V) (user tenant password : String) : Bool :=
  authenticates S mock auth user password && admits auth user tenant

/-! ### What the tables hold -/

/-- The passwords a published login is meant to accept. -/
def UserConfig.proves (user : UserConfig) : String → Bool :=
  match loginRecord S user 0 with
  | .ok record => S.accepts record.verifier
  | .error _ => fun _ => false

/-- A record does what the login it stands for is published to do. -/
def Stands (user : UserConfig) (record : UserRecord V) : Prop :=
  record.tenant = user.tenant ∧ S.accepts record.verifier = user.proves S

variable {S} {salt : Nat}

lemma stands_of_loginRecord {user : UserConfig} {record : UserRecord V}
    (h : loginRecord S user salt = .ok record) : Stands S user record := by
  cases hv : user.verifier with
  | some secret =>
    cases hp : S.parse secret with
    | none => simp [loginRecord, hv, hp] at h
    | some verifier =>
      simp only [loginRecord, hv, hp] at h
      cases h
      exact ⟨rfl, by simp [UserConfig.proves, loginRecord, hv, hp]⟩
  | none =>
    cases hp : user.password with
    | none => simp [loginRecord, hv, hp] at h
    | some password =>
      simp only [loginRecord, hv, hp] at h
      cases h
      exact ⟨rfl, by simp [UserConfig.proves, loginRecord, hv, hp, S.salted password salt 0]⟩

/-- Whether a login can be filed does not depend on the salt. -/
lemma loginRecord_ok {user : UserConfig} {record : UserRecord V}
    (h : loginRecord S user salt = .ok record) (salt' : Nat) :
    ∃ record', loginRecord S user salt' = .ok record' := by
  cases hv : user.verifier with
  | some secret =>
    cases hp : S.parse secret with
    | none => simp [loginRecord, hv, hp] at h
    | some verifier => simp [loginRecord, hv, hp]
  | none =>
    cases hp : user.password with
    | none => simp [loginRecord, hv, hp] at h
    | some password => simp [loginRecord, hv, hp]

/-- The entry that decides a name: the last one. -/
def deciding (users : List UserConfig) (name : String) : Option UserConfig :=
  users.reverse.find? fun user => user.name = name

lemma deciding_cons (user : UserConfig) (rest : List UserConfig) (name : String) :
    deciding (user :: rest) name =
      (deciding rest name).or (if user.name = name then some user else none) := by
  rw [deciding, reverse_cons, find?_append, find?_singleton]
  simp [deciding]

lemma deciding_spec {users : List UserConfig} {user : UserConfig} {name : String}
    (h : deciding users name = some user) : user ∈ users ∧ user.name = name :=
  ⟨mem_reverse.mp (mem_of_find?_eq_some h), by simpa using find?_some h⟩

lemma deciding_eq_none {users : List UserConfig} {name : String} :
    deciding users name = none ↔ ∀ user ∈ users, user.name ≠ name := by
  simp [deciding]

/-- Every login is built, and the last one of a name is in the table. -/
lemma tableOf_spec {record : UserConfig → Except LoginError (UserRecord V)}
    {users : List UserConfig} {start table : Table V} (h : tableOf record start users = .ok table) :
    (∀ user ∈ users, ∃ built, record user = .ok built) ∧
      (∀ name user, deciding users name = some user →
        ∃ built, record user = .ok built ∧ table.lookup name = some built) ∧
      ∀ name, deciding users name = none → table.lookup name = start.lookup name := by
  induction users generalizing start with
  | nil =>
    cases h
    exact ⟨by simp, by simp [deciding], fun _ _ => rfl⟩
  | cons user rest ih =>
    simp only [tableOf] at h
    cases hbuilt : record user with
    | error e => simp [hbuilt] at h
    | ok built =>
      simp only [hbuilt] at h
      obtain ⟨hall, hrest, hothers⟩ := ih h
      refine ⟨forall_mem_cons.mpr ⟨⟨built, hbuilt⟩, hall⟩, fun name last hlast => ?_,
        fun name hnone => ?_⟩
      · rw [deciding_cons] at hlast
        cases hlater : deciding rest name with
        | some later =>
          rw [hlater, some_or] at hlast
          exact hrest name last (hlater.trans hlast)
        | none =>
          rw [hlater, none_or] at hlast
          split at hlast
          · cases hlast
            rename_i hname
            exact ⟨built, hbuilt, by rw [hothers name hlater]; simp [List.lookup, hname]⟩
          · cases hlast
      · have hnames := deciding_eq_none.mp hnone
        rw [hothers name (deciding_eq_none.mpr fun u hu => hnames u (mem_cons_of_mem _ hu))]
        simp [List.lookup, beq_false_of_ne (hnames user mem_cons_self).symm]

lemma tableOf_ok {record : UserConfig → Except LoginError (UserRecord V)} :
    ∀ {users : List UserConfig} {start : Table V},
      (∀ user ∈ users, ∃ built, record user = .ok built) →
      ∃ table, tableOf record start users = .ok table := by
  intro users
  induction users with
  | nil => exact fun _ => ⟨_, rfl⟩
  | cons user rest ih =>
    intro start hall
    obtain ⟨built, hbuilt⟩ := hall user mem_cons_self
    simp only [tableOf, hbuilt]
    exact ih fun other hother => hall other (mem_cons_of_mem _ hother)

/-- The table is the one the deciding logins are published to have. -/
structure Faithful (S : Scram V) (users : List UserConfig) (auth : Table V) : Prop where
  filed : ∀ name user, deciding users name = some user →
    ∃ record, auth.lookup name = some record ∧ Stands S user record
  others : ∀ name, deciding users name = none → auth.lookup name = none
  buildable : ∀ user ∈ users, ∀ salt, ∃ record, loginRecord S user salt = .ok record

variable {users : List UserConfig} {table auth : Table V} {salt : UserConfig → Nat}

lemma faithful_of_loginTable (h : loginTable S users salt = .ok table) : Faithful S users table := by
  obtain ⟨hall, hfiled, hothers⟩ := tableOf_spec h
  refine ⟨fun name user huser => ?_, fun name hname => by rw [hothers name hname]; rfl, ?_⟩
  · obtain ⟨built, hbuilt, hlookup⟩ := hfiled name user huser
    exact ⟨built, hlookup, stands_of_loginRecord hbuilt⟩
  · intro user huser salt'
    obtain ⟨built, hbuilt⟩ := hall user huser
    exact loginRecord_ok hbuilt salt'

/-- A client is let in exactly when the deciding login of its name has its tenant, or none, and
accepts its password. -/
lemma Faithful.admitted_iff (h : Faithful S users auth) (hsome : users ≠ []) (mock : String → V)
    (name tenant password : String) :
    admitted S mock auth name tenant password ↔ ∃ user, deciding users name = some user ∧
      (user.tenant = "" ∨ user.tenant = tenant) ∧ user.proves S password := by
  have htrust : isTrust auth = false := by
    cases auth with
    | nil =>
      obtain ⟨user, huser⟩ := exists_mem_of_ne_nil users hsome
      cases hlast : deciding users user.name with
      | none => exact absurd rfl (deciding_eq_none.mp hlast user huser)
      | some last =>
        obtain ⟨record, hrecord, -⟩ := h.filed _ last hlast
        cases hrecord
    | cons entry rest => rfl
  cases hlast : deciding users name with
  | some user =>
    obtain ⟨record, hrecord, htenant, haccepts⟩ := h.filed name user hlast
    simp only [admitted, authenticates, admits, htrust, hrecord, Bool.false_or, map_some,
      getD_some, haccepts, htenant, Bool.and_eq_true, Bool.or_eq_true,
      String.isEmpty_iff, decide_eq_true_eq, some.injEq, exists_eq_left']
    exact and_comm
  | none => simp [admitted, admits, htrust, h.others name hlast]

/-! ### Adoption -/

/-- What one login is let in with. -/
def UserRecord.sees (S : Scram V) (record : UserRecord V) : String × (String → Bool) :=
  (record.tenant, S.accepts record.verifier)

lemma admitted_eq (mock : String → V) (auth : Table V) (user tenant password : String) :
    admitted S mock auth user tenant password =
      (isTrust auth || match (auth.lookup user).map (·.sees S) with
        | some (bound, accepts) => accepts password && (bound.isEmpty || bound = tenant)
        | none => false) := by
  cases htrust : isTrust auth <;> cases hlookup : auth.lookup user <;>
    simp [admitted, authenticates, admits, UserRecord.sees, htrust, hlookup]

lemma isTrust_iff : isTrust auth ↔ ∀ name, auth.lookup name = none := by
  cases auth with
  | nil => simp [isTrust]
  | cons entry rest =>
    simp only [isTrust, isEmpty_cons, Bool.false_eq_true, false_iff, not_forall]
    exact ⟨entry.1, by simp [List.lookup]⟩

/-- Two tables that are faithful to the same logins hold the same for every name. -/
lemma Faithful.sees_eq (h : Faithful S users auth) (h' : Faithful S users table) (name : String) :
    (auth.lookup name).map (·.sees S) = (table.lookup name).map (·.sees S) := by
  cases hlast : deciding users name with
  | some user =>
    obtain ⟨record, hrecord, htenant, haccepts⟩ := h.filed name user hlast
    obtain ⟨record', hrecord', htenant', haccepts'⟩ := h'.filed name user hlast
    simp [UserRecord.sees, hrecord, hrecord', htenant, htenant', haccepts, haccepts']
  | none => rw [h.others name hlast, h'.others name hlast]

/-- A login that decides its name and was published before decided it then. -/
def Kept (previous next : List UserConfig) : Prop :=
  ∀ name user, deciding next name = some user → user ∈ previous → deciding previous name = some user

lemma faithful_of_adoptedLoginTable {previous : Dynamic V C} {next : List UserConfig}
    (hprevious : Faithful S previous.users previous.auth) (hkept : Kept previous.users next)
    (h : adoptedLoginTable S previous next salt = .ok table) : Faithful S next table := by
  obtain ⟨hall, hfiled, hothers⟩ := tableOf_spec h
  refine ⟨fun name user huser => ?_, fun name hname => by rw [hothers name hname]; rfl,
    fun user huser salt' => ?_⟩
  · obtain ⟨built, hbuilt, hlookup⟩ := hfiled name user huser
    obtain ⟨-, rfl⟩ := deciding_spec huser
    by_cases hmem : user ∈ previous.users
    · obtain ⟨record, hrecord, hstands⟩ := hprevious.filed _ user (hkept _ user huser hmem)
      simp only [if_pos hmem, hrecord, Except.ok.injEq] at hbuilt
      subst hbuilt
      exact ⟨record, hlookup, hstands⟩
    · simp only [if_neg hmem] at hbuilt
      exact ⟨built, hlookup, stands_of_loginRecord hbuilt⟩
  · by_cases hmem : user ∈ previous.users
    · exact hprevious.buildable user hmem salt'
    · obtain ⟨built, hbuilt⟩ := hall user huser
      simp only [if_neg hmem] at hbuilt
      exact loginRecord_ok hbuilt salt'

/-- One document a proxy is asked to take up, and the salts drawn while it does. -/
structure Document (C : Type) where
  tenants : List C
  users : List UserConfig
  salt : UserConfig → Nat

/-- The proxy's configuration when it starts, and after each document in turn. -/
def start (S : Scram V) (first : Document C) : Except LoginError (Dynamic V C) :=
  match loginTable S first.users first.salt with
  | .error e => .error e
  | .ok auth => .ok { tenants := first.tenants, users := first.users, auth := auth }

variable [DecidableEq C]

@[inherit_doc start]
def adoptAll (S : Scram V) : Dynamic V C → List (Document C) → Except LoginError (Dynamic V C)
  | current, [] => .ok current
  | current, next :: rest =>
    match adopt S current next.tenants next.users next.salt with
    | .error e => .error e
    | .ok (_, current') => adoptAll S current' rest

/-- Adopting leaves the document's logins in force, under a table that is faithful to them. -/
lemma adopt_faithful {current current' : Dynamic V C} {next : Document C} {moved : Bool}
    (hcurrent : Faithful S current.users current.auth) (hkept : Kept current.users next.users)
    (h : adopt S current next.tenants next.users next.salt = .ok (moved, current')) :
    current'.users = next.users ∧ Faithful S current'.users current'.auth := by
  unfold adopt at h
  split at h
  · next hsame =>
    cases h
    exact ⟨hsame.1, hcurrent⟩
  split at h
  · cases h
  split at h
  · next hsame =>
    cases h
    exact ⟨rfl, hsame ▸ hcurrent⟩
  cases hauth : adoptedLoginTable S current next.users next.salt with
  | error e => simp [hauth] at h
  | ok auth =>
    simp only [hauth] at h
    cases h
    exact ⟨rfl, faithful_of_adoptedLoginTable hcurrent hkept hauth⟩

lemma adoptAll_faithful {documents : List (Document C)} {last : Document C}
    {current current' : Dynamic V C} (hlast : current.users = last.users)
    (hcurrent : Faithful S current.users current.auth)
    (hkept : (last :: documents).IsChain fun previous next => Kept previous.users next.users)
    (h : adoptAll S current documents = .ok current') :
    current'.users = ((last :: documents).getLast (cons_ne_nil _ _)).users ∧
      Faithful S current'.users current'.auth := by
  induction documents generalizing last current with
  | nil =>
    cases h
    exact ⟨hlast, hcurrent⟩
  | cons next rest ih =>
    simp only [adoptAll] at h
    cases hnext : adopt S current next.tenants next.users next.salt with
    | error e => simp [hnext] at h
    | ok answer =>
      obtain ⟨moved, m⟩ := answer
      simp only [hnext] at h
      obtain ⟨hstep, hrest⟩ := isChain_cons_cons.mp hkept
      obtain ⟨husers, hm⟩ := adopt_faithful hcurrent (hlast ▸ hstep) hnext
      exact ih husers hm hrest h

end Tables

/-! ### Results -/

/-- **Who is let in under a name.**  A client that gives the name `n` is let in, whatever its tenant
`t` and its password `p`, exactly when the table has an entry named `n` whose tenant is empty or `t`
and whose credential matches `p`, if and only if the last entry named `n` makes up for all of them:
it accepts every password that one of them accepts, and has no tenant or that entry's. -/
theorem admitted_iff_published {V : Type} (S : Scram V) (mock : String → V)
    (users : List UserConfig) (salt : UserConfig → Nat) (table : Table V)
    (hbuilt : loginTable S users salt = .ok table) (hsome : users ≠ []) (name : String) :
    (∀ tenant password, admitted S mock table name tenant password = true ↔
      ∃ user ∈ users, user.name = name ∧ (user.tenant = "" ∨ user.tenant = tenant) ∧
        user.proves S password = true) ↔
    ∀ last, deciding users name = some last → ∀ user ∈ users, user.name = name →
      ∀ password, user.proves S password = true →
        (last.tenant = "" ∨ last.tenant = user.tenant) ∧ last.proves S password = true := by
  have hadmitted := (faithful_of_loginTable hbuilt).admitted_iff hsome mock name
  constructor
  · intro hclaim last hlast user huser hname password hproves
    obtain ⟨found, hfound, hbound⟩ := (hadmitted user.tenant password).mp
      ((hclaim user.tenant password).mpr ⟨user, huser, hname, .inr rfl, hproves⟩)
    cases hlast.symm.trans hfound
    exact hbound
  · intro hcovers tenant password
    rw [hadmitted]
    constructor
    · rintro ⟨last, hlast, hbound⟩
      obtain ⟨hmem, hname⟩ := deciding_spec hlast
      exact ⟨last, hmem, hname, hbound⟩
    · rintro ⟨user, huser, hname, htenant, hproves⟩
      cases hlast : deciding users name with
      | none => exact absurd hname (deciding_eq_none.mp hlast user huser)
      | some last =>
        obtain ⟨hbound, hproved⟩ := hcovers last hlast user huser hname password hproves
        refine ⟨last, rfl, ?_, hproved⟩
        rcases hbound with hempty | hsame
        · exact .inl hempty
        · rwa [hsame]

/-- A SCRAM whose verifier is the password itself. -/
def plainScram : Scram String where
  parse := some
  fromPassword password _ := password
  accepts verifier password := verifier = password
  salted _ _ _ := rfl

/-- A tenant's login `app`, proved by a password. -/
def appOf (tenant password : String) : UserConfig where
  name := "app"
  tenant := tenant
  contained := true
  verifier := none
  password := some password
  backendRole := tenant
  backendSaltedPassword := "secret"
  backendSalt := "salt"
  backendIterations := 4096
  backendCredentialGeneration := 1

/-- The table has a login twice, and lets its client in. -/
theorem admitted_iff_published_twice :
    (∃ user ∈ [appOf "a" "p", appOf "a" "p"], user.name = "app" ∧
      (user.tenant = "" ∨ user.tenant = "a") ∧ user.proves plainScram "p" = true) ∧
    admitted plainScram id [("app", ⟨"p", "a"⟩), ("app", ⟨"p", "a"⟩)] "app" "a" "p" = true := by
  have hpublished : ∃ user ∈ [appOf "a" "p", appOf "a" "p"], user.name = "app" ∧
      (user.tenant = "" ∨ user.tenant = "a") ∧ user.proves plainScram "p" = true :=
    ⟨appOf "a" "p", by decide, rfl, .inr rfl, by decide⟩
  refine ⟨hpublished, ((admitted_iff_published plainScram id [appOf "a" "p", appOf "a" "p"]
    (fun _ => 0) _ rfl (by decide) "app").mpr ?_ "a" "p").mpr hpublished⟩
  intro last hlast user huser _ password hproves
  cases hlast
  obtain rfl : user = appOf "a" "p" := by simpa using huser
  exact ⟨.inr rfl, hproves⟩

/-- Two tenants each publish a login `app`; only the later entry is in the table, and the
earlier tenant's client, which proves the password of an entry of its own, is refused. -/
theorem same_name_login_refused : ∃ table,
    loginTable plainScram [appOf "a" "p", appOf "b" "q"] (fun _ => 0) = .ok table ∧
    (∃ user ∈ [appOf "a" "p", appOf "b" "q"], user.name = "app" ∧ user.tenant = "a" ∧
      user.proves plainScram "p" = true) ∧
    admitted plainScram id table "app" "a" "p" = false :=
  ⟨_, rfl, ⟨appOf "a" "p", by decide, rfl, rfl, by decide⟩, by decide⟩

/-- Where a login that decides its name in one document, and is in the document before it, decides its
name there too, a proxy started from the last document builds a table, and under it every login is
bound to the same tenant, accepts the same passwords and is let in alike. -/
theorem adopted_table_is_rebuilt {V C : Type} [DecidableEq C] (S : Scram V)
    (first : Document C) (documents : List (Document C)) (started current : Dynamic V C)
    (hstart : start S first = .ok started) (hrun : adoptAll S started documents = .ok current)
    (hkept : (first :: documents).IsChain fun previous next => Kept previous.users next.users)
    (salt : UserConfig → Nat) :
    ∃ fresh, loginTable S ((first :: documents).getLast (cons_ne_nil _ _)).users salt = .ok fresh ∧
      (∀ name, (current.auth.lookup name).map (·.sees S) = (fresh.lookup name).map (·.sees S)) ∧
      ∀ mock mock' user tenant password, admitted S mock current.auth user tenant password =
          admitted S mock' fresh user tenant password := by
  have hfirst : started.users = first.users ∧ Faithful S started.users started.auth := by
    unfold start at hstart
    cases hauth : loginTable S first.users first.salt with
    | error e => simp [hauth] at hstart
    | ok auth =>
      simp only [hauth] at hstart
      cases hstart
      exact ⟨rfl, faithful_of_loginTable hauth⟩
  obtain ⟨hlast, hcurrent⟩ := adoptAll_faithful hfirst.1 hfirst.2 hkept hrun
  rw [← hlast]
  obtain ⟨fresh, hfresh⟩ : ∃ fresh, loginTable S current.users salt = .ok fresh :=
    tableOf_ok fun user huser => hcurrent.buildable user huser (salt user)
  have hsees := hcurrent.sees_eq (faithful_of_loginTable hfresh)
  have htrust : isTrust current.auth = isTrust fresh := by
    rw [Bool.eq_iff_iff, isTrust_iff, isTrust_iff]
    refine forall_congr' fun name => ?_
    rw [← map_eq_none_iff (f := (·.sees S)), hsees, map_eq_none_iff]
  exact ⟨fresh, hfresh, hsees, fun mock mock' user tenant password => by
    rw [admitted_eq, admitted_eq, htrust, hsees]⟩

/-- Two tenants publish a login `app` and the earlier one's is then withdrawn. -/
theorem adopted_table_is_rebuilt_app :
    ∃ fresh, loginTable plainScram [appOf "b" "q"] (fun _ => 0) = .ok fresh ∧
      (∀ name, (List.lookup name [("app", (⟨"q", "b"⟩ : UserRecord String))]).map
        (·.sees plainScram) = (fresh.lookup name).map (·.sees plainScram)) ∧
      ∀ mock mock' user tenant password,
        admitted plainScram mock [("app", ⟨"q", "b"⟩)] user tenant password =
          admitted plainScram mock' fresh user tenant password :=
  adopted_table_is_rebuilt (C := Unit) plainScram
    ⟨[], [appOf "a" "p", appOf "b" "q"], fun _ => 0⟩ [⟨[], [appOf "b" "q"], fun _ => 0⟩]
    ⟨[], [appOf "a" "p", appOf "b" "q"], [("app", ⟨"q", "b"⟩), ("app", ⟨"p", "a"⟩)]⟩
    ⟨[], [appOf "b" "q"], [("app", ⟨"q", "b"⟩)]⟩ rfl (by rfl)
    (isChain_pair.mpr fun name user hlast _ => by
      obtain ⟨hmem, rfl⟩ := deciding_spec hlast
      cases mem_singleton.mp hmem
      rfl) fun _ => 0

/-- Two tenants publish a login `app` and the later one's is then withdrawn.  The record kept for
the other is the withdrawn one: the client of tenant `a` is refused, which a proxy started from
the last document lets in. -/
theorem kept_record_of_withdrawn_login : ∃ started current fresh : Dynamic String Unit,
    start plainScram ⟨[], [appOf "a" "p", appOf "b" "q"], fun _ => 0⟩ = .ok started ∧
    adoptAll plainScram started [⟨[], [appOf "a" "p"], fun _ => 0⟩] = .ok current ∧
    start plainScram ⟨[], [appOf "a" "p"], fun _ => 0⟩ = .ok fresh ∧
    admitted plainScram id current.auth "app" "a" "p" = false ∧
    admitted plainScram id fresh.auth "app" "a" "p" = true ∧
    admitted plainScram id current.auth "app" "b" "q" = true :=
  ⟨_, _, _, rfl, rfl, rfl, by decide, by decide, by decide⟩

end PgElastic.Proxy.Logins
