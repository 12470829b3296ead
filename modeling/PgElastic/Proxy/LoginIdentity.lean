import PgElastic.Library.Transition
import PgElastic.Proxy.Logins

/-!
# Who a session's links are dialled as

A client proves a login once; the backend its links are dialled as is looked up by the login's
name in the document in force each time the session is bound, at its start and whenever its
tenant's route has changed.  While the document in force lists the login as a contained one, and
no other of its name applies to the tenant, the lookup finds that login: its own role, or a
refusal when the role or its credential is not published yet.  Once the login is withdrawn the
lookup passes it over and a session that is bound again is dialled as its tenant's owner.
-/

namespace PgElastic.Proxy.Logins

open Library Option OrderedMap List

/-- A published tenant, as far as its sessions' backend depends on it. -/
structure TenantConfig where
  name : String
  backendRole : String
  backendSaltedPassword : String
  backendSalt : String
  backendIterations : Nat
  deriving DecidableEq, Repr

structure SaltedSecret where
  saltedPassword : String
  salt : String
  iterations : Nat
  deriving DecidableEq, Repr

/-- Where a session connects, and as whom. -/
structure BackendConfig where
  address : String
  user : String
  saltedPassword : Option SaltedSecret
  deriving DecidableEq, Repr

/-- Why a session is given no backend. -/
inductive Refusal
  | roleUnpublished (login tenant : String)
  | loginCredential (login role : String)
  | tenantCredential (tenant role : String)
  deriving DecidableEq, Repr

def identityOf (user : UserConfig) (tenant login : String) : Bool :=
  user.name = login && (user.contained || !user.backendRole.isEmpty) &&
    (user.tenant.isEmpty || user.tenant = tenant)

def assume (server : BackendConfig) (role saltedPassword salt : String) (iterations : Nat) :
    BackendConfig :=
  { server with user := role, saltedPassword := some ⟨saltedPassword, salt, iterations⟩ }

variable {V : Type} {S : Scram V}

def backendFor (dynamic : Dynamic V TenantConfig) (server : BackendConfig)
    (tenant login : String) : Except Refusal BackendConfig :=
  match dynamic.users.find? fun user => identityOf user tenant login with
  | some entry =>
      if entry.backendRole.isEmpty then .error (.roleUnpublished login tenant)
      else if entry.backendSaltedPassword.isEmpty then
        .error (.loginCredential login entry.backendRole)
      else
        .ok (assume server entry.backendRole entry.backendSaltedPassword entry.backendSalt
          entry.backendIterations)
  | none =>
      match dynamic.tenants.find? fun entry => decide (entry.name = tenant) with
      | none => .ok server
      | some entry =>
          if entry.backendRole.isEmpty then .ok server
          else if entry.backendSaltedPassword.isEmpty then
            .error (.tenantCredential tenant entry.backendRole)
          else
            .ok (assume server entry.backendRole entry.backendSaltedPassword entry.backendSalt
              entry.backendIterations)

/-! ### Sessions and adoptions -/

/-- A client that was let in: what it proved, the logins behind the table it proved it against,
the backend it is bound to and the links dialled for it. -/
structure Session where
  login : String
  tenant : String
  password : String
  published : List UserConfig
  binding : Option BackendConfig
  links : List BackendConfig
  deriving DecidableEq, Repr

/-- The proxy's configuration, every list of logins that has been in force, and its sessions. -/
structure World (V : Type) where
  dynamic : Dynamic V TenantConfig
  documents : List (List UserConfig)
  sessions : OrderedMap Nat Session

inductive Action
  | adopt (document : Document TenantConfig)
  | authenticate (id : Nat) (login tenant password : String)
  /-- Looks the backend up; `server` is the instance the route names. -/
  | bind (id : Nat) (server : BackendConfig)
  | dial (id : Nat)

namespace World

def next (S : Scram V) (mock : String → V) (w : World V) : Action → Option (World V)
  | .adopt document =>
      match Logins.adopt S w.dynamic document.tenants document.users document.salt with
      | .error _ => some w
      | .ok (_, dynamic) =>
          some { w with dynamic := dynamic, documents := dynamic.users :: w.documents }
  | .authenticate id login tenant password =>
      if w.sessions.get? id = none ∧
          admitted S mock w.dynamic.auth login tenant password = true then
        some { w with
          sessions := w.sessions.insert id ⟨login, tenant, password, w.dynamic.users, none, []⟩ }
      else none
  | .bind id server =>
      (w.sessions.get? id).map fun session =>
        { w with
          sessions := w.sessions.insert id { session with
              binding := (backendFor w.dynamic server session.tenant session.login).toOption } }
  | .dial id =>
      (w.sessions.get? id).bind fun session =>
        session.binding.map fun backend =>
          { w with
            sessions := w.sessions.insert id { session with links := backend :: session.links } }

/-- A proxy that has started from a document. -/
def ofDynamic (dynamic : Dynamic V TenantConfig) : World V :=
  ⟨dynamic, [dynamic.users], OrderedMap.empty⟩

def system (S : Scram V) (mock : String → V) : System (World V) Action where
  init w := ∃ first dynamic, start S first = .ok dynamic ∧ w = ofDynamic dynamic
  step w action w' := w.next S mock action = some w'

end World

/-- The session was let in as this contained login. -/
def Session.ProvedAs (S : Scram V) (session : Session) (user : UserConfig) : Prop :=
  user.contained = true ∧ user.name = session.login ∧
    (user.tenant = "" ∨ user.tenant = session.tenant) ∧ user.proves S session.password = true

/-- The login itself, as a later document may publish it. -/
def UserConfig.Same (user other : UserConfig) : Prop :=
  other.name = user.name ∧ other.tenant = user.tenant ∧ other.contained = true

/-- The login is published, and no other of its name applies to the session's tenant. -/
def Session.Keeps (session : Session) (users : List UserConfig) (user : UserConfig) : Prop :=
  ∃ own ∈ users, user.Same own ∧ ∀ other ∈ users, other.name = session.login →
    (other.tenant = "" ∨ other.tenant = session.tenant) → other = own

/-- A session is bound only while the document in force keeps the login it was let in as. -/
def Keeping (S : Scram V) (w : World V) : Action → Prop
  | .bind id _ => ∀ session, w.sessions.get? id = some session →
      ∀ user ∈ session.published, session.ProvedAs S user → session.Keeps w.dynamic.users user
  | _ => True

/-- The backend is that of the login's own role. -/
def Owned (documents : List (List UserConfig)) (user : UserConfig) (backend : BackendConfig) :
    Prop :=
  ∃ users ∈ documents, ∃ own ∈ users, user.Same own ∧ own.backendRole ≠ "" ∧
    backend.user = own.backendRole

/-- While the login is kept, the lookup finds it. -/
lemma backendFor_of_keeps {dynamic : Dynamic V TenantConfig}
    {server backend : BackendConfig} {session : Session} {user : UserConfig}
    (hproved : session.ProvedAs S user) (hkeeps : session.Keeps dynamic.users user)
    (h : backendFor dynamic server session.tenant session.login = .ok backend) :
    ∃ own ∈ dynamic.users, user.Same own ∧ own.backendRole ≠ "" ∧
      backend.user = own.backendRole := by
  obtain ⟨-, hname, htenant, -⟩ := hproved
  obtain ⟨own, hown, hsame, honly⟩ := hkeeps
  have hidentity : identityOf own session.tenant session.login := by
    simp [identityOf, hsame.1, hsame.2.1, hsame.2.2, hname, htenant]
  unfold backendFor at h
  cases hfind : dynamic.users.find? fun user => identityOf user session.tenant session.login with
  | none => exact absurd hidentity (by simpa using find?_eq_none.mp hfind own hown)
  | some entry =>
      have hentry : entry = own := by
        have hmatches := find?_some hfind
        simp only [identityOf, Bool.and_eq_true, Bool.or_eq_true, decide_eq_true_eq,
          String.isEmpty_iff] at hmatches
        exact honly entry (mem_of_find?_eq_some hfind) hmatches.1.1 hmatches.2
      subst hentry
      simp only [hfind] at h
      split at h
      · cases h
      next hrole =>
        split at h
        · cases h
        · cases h
          exact ⟨entry, hown, hsame, by simpa using hrole, rfl⟩

/-- Every backend a session has been bound to or dialled is its login's own. -/
def Confined (S : Scram V) (w : World V) : Prop :=
  w.dynamic.users ∈ w.documents ∧ ∀ id session, w.sessions.get? id = some session →
    ∀ user ∈ session.published, session.ProvedAs S user →
      ∀ backend, session.binding = some backend ∨ backend ∈ session.links →
        Owned w.documents user backend

lemma confined_of_step {mock : String → V} {w w' : World V} {action : Action} (h : Confined S w)
    (hkeeping : Keeping S w action) (hstep : w.next S mock action = some w') : Confined S w' := by
  obtain ⟨hforce, hsessions⟩ := h
  cases action with
  | adopt document =>
      simp only [World.next] at hstep
      split at hstep
      · cases hstep
        exact ⟨hforce, hsessions⟩
      cases hstep
      refine ⟨mem_cons_self, fun id session hsession user huser hproved backend hb => ?_⟩
      obtain ⟨users, hmem, hrest⟩ := hsessions id session hsession user huser hproved backend hb
      exact ⟨users, mem_cons_of_mem _ hmem, hrest⟩
  | authenticate id login tenant password =>
      simp only [World.next] at hstep
      split at hstep
      · cases hstep
        refine ⟨hforce, fun other session hsession user huser hproved backend hb => ?_⟩
        rcases get?_insert_cases hsession with ⟨_, rfl⟩ | ⟨_, hold⟩
        · simp at hb
        · exact hsessions other session hold user huser hproved backend hb
      · cases hstep
  | bind id server =>
      obtain ⟨before, hbefore, rfl⟩ := map_eq_some_iff.mp hstep
      refine ⟨hforce, fun other session hsession user huser hproved backend hb => ?_⟩
      rcases get?_insert_cases hsession with ⟨_, rfl⟩ | ⟨_, hold⟩
      · rcases hb with hbound | hlink
        · exact ⟨_, hforce, backendFor_of_keeps hproved
            (hkeeping before hbefore user huser hproved) (ok_of_toOption hbound)⟩
        · exact hsessions id before hbefore user huser hproved backend (.inr hlink)
      · exact hsessions other session hold user huser hproved backend hb
  | dial id =>
      obtain ⟨before, hbefore, hdial⟩ := bind_eq_some_iff.mp hstep
      obtain ⟨bound, hbound, rfl⟩ := map_eq_some_iff.mp hdial
      refine ⟨hforce, fun other session hsession user huser hproved backend hb => ?_⟩
      rcases get?_insert_cases hsession with ⟨_, rfl⟩ | ⟨_, hold⟩
      · have hown := hsessions id before hbefore user huser hproved
        rcases hb with hb | hb
        · exact hown backend (.inl hb)
        · rcases mem_cons.mp hb with rfl | hlink
          · exact hown _ (.inl hbound)
          · exact hown backend (.inr hlink)
      · exact hsessions other session hold user huser hproved backend hb

/-- Every link dialled for a session that was let in as a contained login is dialled as that
login's own role, in every run in which a session is bound only while the document in force
publishes its login as a contained one and no other of that name applies to its tenant. -/
theorem links_dialled_as_own_role {V : Type} (S : Scram V) (mock : String → V) {w : World V}
    (h : ((World.system S mock).restrict (Keeping S)).Reachable w) {id : Nat} {session : Session}
    (hsession : w.sessions.get? id = some session) {user : UserConfig}
    (huser : user ∈ session.published) (hproved : session.ProvedAs S user)
    {link : BackendConfig} (hlink : link ∈ session.links) : Owned w.documents user link := by
  have hconfined : Confined S w := by
    refine h.invariant (I := Confined S) ?_ ?_
    · rintro s ⟨first, dynamic, -, rfl⟩
      exact ⟨mem_cons_self, fun id session hsession => by
        simp [World.ofDynamic, get?_empty] at hsession⟩
    · intro _ _ _ _ hbefore hstep
      exact confined_of_step hbefore hstep.1 hstep.2
  exact hconfined.2 id session hsession user huser hproved link (.inr hlink)

/-- Tenant `a` with an owner role, and its contained login `app`. -/
def oneTenant : Dynamic String TenantConfig where
  tenants := [⟨"a", "owner", "secret", "salt", 4096⟩]
  users := [appOf "a" "p"]
  auth := [("app", ⟨"p", "a"⟩)]

/-- The client that logs in as `app`. -/
def appSession (binding : Option BackendConfig) (links : List BackendConfig) : Session :=
  ⟨"app", "a", "p", [appOf "a" "p"], binding, links⟩

/-- The client is let in, bound, and has a link dialled. -/
theorem links_dialled_as_own_role_app :
    ∃ w session link, ((World.system plainScram id).restrict (Keeping plainScram)).Reachable w ∧
      w.sessions.get? 0 = some session ∧ link ∈ session.links ∧
      Owned w.documents (appOf "a" "p") link := by
  let server : BackendConfig := ⟨"first", "admin", none⟩
  let link := assume server "a" "secret" "salt" 4096
  let world (session : Session) : World String :=
    ⟨oneTenant, [[appOf "a" "p"]], OrderedMap.empty.insert 0 session⟩
  have hstart : ((World.system plainScram id).restrict (Keeping plainScram)).Reachable
      (World.ofDynamic oneTenant) :=
    .init ⟨⟨oneTenant.tenants, oneTenant.users, fun _ => 0⟩, oneTenant, rfl, rfl⟩
  have hlogin := hstart.step (a := Action.authenticate 0 "app" "a" "p")
    (t := world (appSession none [])) ⟨trivial, rfl⟩
  have hbind := hlogin.step (a := Action.bind 0 server) (t := world (appSession (some link) []))
    ⟨fun session hsession user huser _ => by
      cases hsession
      rw [mem_singleton.mp huser]
      exact ⟨appOf "a" "p", mem_singleton_self _, ⟨rfl, rfl, rfl⟩,
        fun other hother _ _ => mem_singleton.mp hother⟩, rfl⟩
  have hdial := hbind.step (a := Action.dial 0) (t := world (appSession (some link) [link]))
    ⟨trivial, rfl⟩
  have hsession : (world (appSession (some link) [link])).sessions.get? 0 =
    some (appSession (some link) [link]) := rfl
  exact ⟨_, _, link, hdial, hsession, mem_singleton_self _,
    links_dialled_as_own_role plainScram id hdial hsession (mem_singleton_self _)
      ⟨rfl, rfl, .inr rfl, rfl⟩ (mem_singleton_self _)⟩

/-- The login is withdrawn and the tenant's route changes: the session is bound again, and its
next link is dialled as the tenant's owner. -/
theorem withdrawn_login_dialled_as_owner :
    ∃ w session link, (World.system plainScram id).Reachable w ∧
      w.sessions.get? 0 = some session ∧ appOf "a" "p" ∈ session.published ∧
      session.ProvedAs plainScram (appOf "a" "p") ∧ link ∈ session.links ∧
      link.user = "owner" ∧ ¬ Owned w.documents (appOf "a" "p") link := by
  let run := System.run (World.next plainScram id) (World.ofDynamic oneTenant)
    [.authenticate 0 "app" "a" "p", .bind 0 ⟨"first", "admin", none⟩,
      .adopt ⟨oneTenant.tenants, [appOf "b" "q"], fun _ => 0⟩,
      .bind 0 ⟨"second", "admin", none⟩, .dial 0]
  let link := assume ⟨"second", "admin", none⟩ "owner" "secret" "salt" 4096
  let world : World String := run.get (by decide)
  have hrun : _ = some world := (some_get _).symm
  refine ⟨world, appSession (some link) [link], link, ?_, by decide, mem_singleton_self _,
    ⟨rfl, rfl, .inr rfl, rfl⟩, mem_singleton_self _, rfl, ?_⟩
  · exact System.reachable_of_run (fun _ _ _ _ h => h)
      (.init ⟨⟨oneTenant.tenants, oneTenant.users, fun _ => 0⟩, oneTenant, rfl, rfl⟩) hrun
  have hdocuments : world.documents = [[appOf "b" "q"], [appOf "a" "p"]] := by decide
  rw [hdocuments]
  unfold Owned UserConfig.Same
  decide

end PgElastic.Proxy.Logins
