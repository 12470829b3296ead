import PgElastic.Proxy.Control

/-!
# Two writers of one routing table

The routing table has two writers: the control plane moves one tenant at a time under
its lease, and the reloader replaces the table with the published one (`apply_routes`).
Every call is a read-copy-write of the whole table, so what was stored between a call's
load and its store is lost (`overlapping_update_is_lost`); when each `set_route` stores over
the table it has loaded, no update is (`stored_route_is_kept`).
-/

namespace PgElastic.Proxy

open Library Option OrderedMap TenantGate OrderedMap System.Path System.Reachable

namespace RouteUpdates

variable {T I : Type} [LinearOrder T] [LinearOrder I]

/-- An update of the routing table: `set_route`, or `apply_routes` with a table. -/
inductive Update (T I : Type) [LinearOrder T]
  | setRoute (tenant : T) (target : I)
  | applyRoutes (table : OrderedMap T I)

/-- The update speaks about the tenant. -/
def Update.Names (t : T) : Update T I → Prop
  | .setRoute tenant _ => tenant = t
  | .applyRoutes table => table.get? t ≠ none

/-- A call between its load and its store. -/
structure Pending (T I : Type) [LinearOrder T] where
  update : Update T I
  loaded : OrderedMap T I

/-- The table and the calls that have loaded it. -/
structure World (T I : Type) [LinearOrder T] where
  fleet : Fleet T I
  calls : OrderedMap Nat (Pending T I)

/-- A call loads the table, or stores its copy and returns. -/
inductive Action (T I : Type) [LinearOrder T]
  | load (call : Nat) (update : Update T I)
  | store (call : Nat)

namespace World

/-- The load of a call.  A `set_route` to an unknown instance returns before it, and an
`apply_routes` that finds its table in place returns after it. -/
def load (w : World T I) (call : Nat) : Update T I → World T I
  | .setRoute tenant target =>
    if target ∈ w.fleet.instances then
      { w with calls := w.calls.insert call ⟨.setRoute tenant target, w.fleet.routes⟩ }
    else w
  | .applyRoutes table =>
    if w.fleet.routes.entries = (w.fleet.wantedRoutes table).entries then w
    else { w with calls := w.calls.insert call ⟨.applyRoutes table, w.fleet.routes⟩ }

/-- The copy a call stores. -/
def copy (w : World T I) (pending : Pending T I) : OrderedMap T I :=
  match pending.update with
  | .setRoute tenant target => pending.loaded.insert tenant target
  | .applyRoutes table => w.fleet.wantedRoutes table

def next (w : World T I) : Action T I → Option (World T I)
  | .load call update =>
    match w.calls.get? call with
    | some _ => none
    | none => some (w.load call update)
  | .store call =>
    (w.calls.get? call).map fun pending =>
      { fleet := { w.fleet with routes := w.copy pending }, calls := w.calls.erase call }

/-- Any number of updates in progress, interleaved at their loads and stores. -/
def system (T I : Type) [LinearOrder T] [LinearOrder I] : System (World T I) (Action T I) where
  init := fun w => w.calls = empty
  step := fun w a w' => w.next a = some w'

/-- A `set_route` stores over the table it has loaded, and a published table names every
tenant that has a route when it is stored. -/
def Unraced (w : World T I) (a : Action T I) : Prop :=
  ∀ call pending, a = .store call → w.calls.get? call = some pending → match pending.update with
    | .setRoute _ _ => pending.loaded = w.fleet.routes
    | .applyRoutes table => ∀ t, w.fleet.routes.get? t ≠ none → table.get? t ≠ none

/-- The step completes an update that names the tenant. -/
def StoresFor (t : T) (w : World T I) (a : Action T I) : Prop :=
  ∃ call pending, a = .store call ∧ w.calls.get? call = some pending ∧ pending.update.Names t

/-- A call that has loaded the table would store a route to an instance the proxy
fronts. -/
def Fronted (w : World T I) : Prop :=
  ∀ call tenant target loaded, w.calls.get? call = some ⟨.setRoute tenant target, loaded⟩ →
    target ∈ w.fleet.instances

/-- A load leaves the table alone, and what it files is what the call will store. -/
lemma load_spec (w : World T I) (call : Nat) (update : Update T I) :
    (w.load call update).fleet = w.fleet ∧
      ∀ other pending, (w.load call update).calls.get? other = some pending →
        w.calls.get? other = some pending ∨ pending = ⟨update, w.fleet.routes⟩ ∧
          ∀ tenant target, update = .setRoute tenant target → target ∈ w.fleet.instances := by
  cases update with
  | setRoute tenant target =>
    simp only [load]
    split
    · rename_i hmem
      refine ⟨rfl, ?_⟩
      intro other pending hget
      rcases get?_insert_cases hget with ⟨-, rfl⟩ | ⟨-, hold⟩
      · refine .inr ⟨rfl, ?_⟩
        rintro _ _ hupdate
        cases hupdate
        exact hmem
      · exact .inl hold
    · exact ⟨rfl, fun _ _ hget => .inl hget⟩
  | applyRoutes table =>
    simp only [load]
    split
    · exact ⟨rfl, fun _ _ hget => .inl hget⟩
    refine ⟨rfl, ?_⟩
    intro other pending hget
    rcases get?_insert_cases hget with ⟨-, rfl⟩ | ⟨-, hold⟩
    · refine .inr ⟨rfl, ?_⟩
      intro _ _ hupdate
      cases hupdate
    · exact .inl hold

variable {w w' : World T I} {a : Action T I} {target : I}

lemma instances_next (h : w.next a = some w') : w'.fleet.instances = w.fleet.instances := by
  cases a with
  | load call update =>
    simp only [next] at h
    split at h
    · cases h
    · cases h
      rw [(w.load_spec call update).1]
  | store call =>
    obtain ⟨pending, -, rfl⟩ := map_eq_some_iff.mp h
    rfl

lemma Fronted.next (h : w.Fronted) (hnext : w.next a = some w') : w'.Fronted := by
  cases a with
  | load call update =>
    simp only [World.next] at hnext
    split at hnext
    · cases hnext
    cases hnext
    obtain ⟨hfleet, hcalls⟩ := w.load_spec call update
    intro other tenant target loaded hget
    rw [hfleet]
    rcases hcalls other _ hget with hold | ⟨hnew, hmem⟩
    · exact h other tenant target loaded hold
    · cases hnew
      exact hmem tenant target rfl
  | store call =>
    obtain ⟨pending, -, rfl⟩ := map_eq_some_iff.mp hnext
    intro other tenant target loaded hget
    change (w.calls.erase call).get? other = _ at hget
    exact h other tenant target loaded (get?_of_erase hget).2

lemma fronted_of_reachable (h : (system T I).Reachable w) : w.Fronted := by
  refine h.invariant (I := Fronted) ?_ ?_
  · rintro w hempty call tenant target loaded hget
    rw [hempty] at hget
    cases hget
  · intro s a t _ hs hstep
    exact hs.next hstep

/-- An unraced store of `set_route` is the whole call, made at that moment. -/
lemma store_is_the_call {call : Nat} {tenant : T} {loaded : OrderedMap T I}
    (hfronted : w.Fronted) (hpending : w.calls.get? call = some ⟨.setRoute tenant target, loaded⟩)
    (hunraced : w.Unraced (.store call)) (hnext : w.next (.store call) = some w') :
    ∃ previous, w.fleet.setRoute tenant target = some (previous, w'.fleet) := by
  have hloaded : loaded = w.fleet.routes := hunraced call _ rfl hpending
  have hmem : target ∈ w.fleet.instances := hfronted call tenant target loaded hpending
  obtain ⟨pending, hget, rfl⟩ := map_eq_some_iff.mp hnext
  rw [hpending] at hget
  cases hget
  rw [hloaded]
  exact ⟨_, if_pos hmem⟩

/-- A step that completes no update naming the tenant keeps its route. -/
lemma route_next {t : T} (hentry : w.fleet.routes.get? t = some target)
    (hunraced : w.Unraced a) (hquiet : ¬ w.StoresFor t a) (hnext : w.next a = some w') :
    w'.fleet.routes.get? t = some target := by
  cases a with
  | load call update =>
    simp only [next] at hnext
    split at hnext
    · cases hnext
    · cases hnext
      rw [(w.load_spec call update).1]
      exact hentry
  | store call =>
    obtain ⟨⟨update, loaded⟩, hpending, hstored⟩ := map_eq_some_iff.mp hnext
    cases update with
    | setRoute tenant other =>
      have hne : t ≠ tenant := fun heq => hquiet ⟨call, _, rfl, hpending, heq.symm⟩
      have hloaded : loaded = w.fleet.routes := hunraced call _ rfl hpending
      cases hstored
      change (loaded.insert tenant other).get? t = some target
      rw [get?_insert_of_ne _ _ hne, hloaded]
      exact hentry
    | applyRoutes table =>
      have hnamed : table.get? t ≠ none := hunraced call _ rfl hpending t (by rw [hentry]; simp)
      exact absurd ⟨call, _, rfl, hpending, hnamed⟩ hquiet

/-- In every run in which a `set_route` stores over the table it has loaded and a
published table names every tenant that has a route, a tenant's route after its
`set_route` has returned is the instance it was given, until an update that names the
tenant completes; whatever other updates load and store in between. -/
theorem stored_route_is_kept {w w₁ w₂ : World T I} {call : Nat} {tenant : T} {target : I}
    {loaded : OrderedMap T I} {after : List (Action T I)}
    (hreach : ((system T I).restrict Unraced).Reachable w)
    (hpending : w.calls.get? call = some ⟨.setRoute tenant target, loaded⟩)
    (hreturns : ((system T I).restrict Unraced).step w (.store call) w₁)
    (hlater : (((system T I).restrict Unraced).restrict
      fun w a => ¬ w.StoresFor tenant a).Path w₁ after w₂) : w₂.fleet.route tenant = target := by
  have hfronted := fronted_of_reachable hreach.of_restrict
  obtain ⟨previous, hset⟩ := store_is_the_call hfronted hpending hreturns.1 hreturns.2
  have hstored : w₁.Fronted ∧ w₁.fleet.routes.get? tenant = some target ∧
      target ∈ w₁.fleet.instances := by
    obtain ⟨hmem, heq⟩ := Fleet.setRoute_some hset
    rw [heq]
    exact ⟨hfronted.next hreturns.2, get?_insert_self .., hmem⟩
  have hkept : w₂.Fronted ∧ w₂.fleet.routes.get? tenant = some target ∧
      target ∈ w₂.fleet.instances := by
    refine invariant (I := fun w => w.Fronted ∧
      w.fleet.routes.get? tenant = some target ∧ target ∈ w.fleet.instances) ?_ hlater hstored
    rintro u a v ⟨hfront, hentry, hmem⟩ ⟨hquiet, hunraced, hnext⟩
    refine ⟨hfront.next hnext, route_next hentry hunraced hquiet hnext, ?_⟩
    rw [instances_next hnext]
    exact hmem
  simp only [Fleet.route, hkept.2.1, getD_some, if_pos hkept.2.2]

lemma one_mem_both : 1 ∈ [1, 2] := by decide

/-- Two instances, tenants on the first unless routed elsewhere, nothing in progress. -/
def settled : World Nat Nat :=
  ⟨⟨[1, 2], 1, empty, one_mem_both⟩, empty⟩

lemma reachable_settled : ((system Nat Nat).restrict Unraced).Reachable settled :=
  init rfl

/-- Tenant 5 is moved, and after it tenant 6. -/
theorem stored_route_is_kept_settled : ∃ w w₁ w₂ w₃ : World Nat Nat,
      settled.next (.load 0 (.setRoute 5 2)) = some w ∧ w.next (.store 0) = some w₁ ∧
      w₁.next (.load 1 (.setRoute 6 2)) = some w₂ ∧ w₂.next (.store 1) = some w₃ ∧
      w₃.fleet.route 6 = 2 ∧ w₃.fleet.route 5 = 2 := by
  let w := (settled.next (.load 0 (.setRoute 5 2))).get (by decide)
  let w₁ := (w.next (.store 0)).get (by decide)
  let w₂ := (w₁.next (.load 1 (.setRoute 6 2))).get (by decide)
  let w₃ := (w₂.next (.store 1)).get (by decide)
  have hload : _ = some w := (some_get _).symm
  have hstore : _ = some w₁ := (some_get _).symm
  have hload' : _ = some w₂ := (some_get _).symm
  have hstore' : _ = some w₃ := (some_get _).symm
  have hpending : w.calls.get? 0 = some ⟨.setRoute 5 2, empty⟩ := rfl
  have hpending' : w₂.calls.get? 1 = some ⟨.setRoute 6 2, w₁.fleet.routes⟩ := rfl
  have hunraced : w.Unraced (.store 0) := by
    rintro call pending hcall hget
    cases hcall
    rw [hpending] at hget
    cases hget
    rfl
  have hunraced' : w₂.Unraced (.store 1) := by
    rintro call pending hcall hget
    cases hcall
    rw [hpending'] at hget
    cases hget
    rfl
  have hquiet : ¬ w₂.StoresFor 5 (.store 1) := by
    rintro ⟨call, pending, hcall, hget, hnames⟩
    cases hcall
    rw [hpending'] at hget
    cases hget
    cases hnames
  have hreach : ((system Nat Nat).restrict Unraced).Reachable w := by
    refine reachable_settled.step ⟨?_, hload⟩
    rintro _ _ hcall
    cases hcall
  have hlater : (((system Nat Nat).restrict Unraced).restrict
      fun w a => ¬ w.StoresFor 5 a).Path w₁ ([] ++ [.load 1 (.setRoute 6 2)] ++ [.store 1]) w₃ := by
    refine snoc (snoc (.nil w₁) ⟨?_, ?_, hload'⟩) ⟨hquiet, hunraced', hstore'⟩
    · rintro ⟨call, pending, hcall, -⟩
      cases hcall
    · rintro _ _ hcall
      cases hcall
  exact ⟨w, w₁, w₂, w₃, hload, hstore, hload', hstore', by decide,
    stored_route_is_kept hreach hpending ⟨hunraced, hstore⟩ hlater⟩

/-- Two migrations flip their tenants at the same time.  Tenant 6's call has loaded the
table when tenant 5's call stores and returns; its own store then brings back a table
without tenant 5's move. -/
theorem overlapping_update_is_lost : ∃ w w₁ w₂ : World Nat Nat, (system Nat Nat).Reachable w ∧
      w.calls.get? 0 = some ⟨.setRoute 5 2, empty⟩ ∧
      (system Nat Nat).step w (.store 0) w₁ ∧ w₁.fleet.route 5 = 2 ∧ ¬ w₁.StoresFor 5 (.store 1) ∧
      (system Nat Nat).step w₁ (.store 1) w₂ ∧ w₂.fleet.route 5 = 1 := by
  let w := (System.run next settled [.load 0 (.setRoute 5 2), .load 1 (.setRoute 6 2)]).get
    (by decide)
  let w₁ := (w.next (.store 0)).get (by decide)
  let w₂ := (w₁.next (.store 1)).get (by decide)
  have hreach : (system Nat Nat).Reachable w :=
    System.reachable_of_run (fun _ _ _ _ => id) reachable_settled.of_restrict (some_get _).symm
  have hpending : w₁.calls.get? 1 = some ⟨.setRoute 6 2, empty⟩ := rfl
  refine ⟨w, w₁, w₂, hreach, rfl, (some_get _).symm, by decide, ?_, (some_get _).symm, by decide⟩
  rintro ⟨call, pending, hcall, hget, hnames⟩
  cases hcall
  rw [hpending] at hget
  cases hget
  cases hnames

end World
end RouteUpdates
end PgElastic.Proxy
