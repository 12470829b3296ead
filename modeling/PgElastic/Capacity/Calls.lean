import PgElastic.Capacity.Migration
import PgElastic.Capacity.WorkConservation

/-!
# What a caller sees of a call

A pool manager owns an allocator and calls it under a lock.  `Live` is what it may rely on
between two calls: the state is one that public operations lead to, no tenant was sent
into migration with an idle server, and `drain_to` was not used.  `Gives` is what it may rely
on about one call that hands out grants: which servers changed hands, and that the tickets
served are the heads of the queues.
-/

namespace PgElastic.Capacity

open Library Option

variable {T : Type} [LinearOrder T]

namespace Allocator

/-- The operations that leave no idle server marked and no servable request waiting. -/
def ordinary (a : Allocator T) (op : Op T) : Bool :=
  a.migratesBusy op && !op.drains

/-- A state of some run of such operations. -/
def Live (a : Allocator T) : Prop :=
  ∃ pool admission, ((system pool admission).restrict fun a op => a.ordinary op = true).Reachable a

variable {a a' : Allocator T} {op : Op T} {grants : List (Grant T)}

lemma Live.sound (h : a.Live) : a.Sound := by
  obtain ⟨pool, admission, hreach⟩ := h
  exact reachable_sound hreach.of_restrict

lemma Live.ticketsOrdered (h : a.Live) : a.TicketsOrdered := by
  obtain ⟨pool, admission, hreach⟩ := h
  exact reachable_ticketsOrdered hreach.of_restrict

lemma Live.drained (h : a.Live) : a.Drained := by
  obtain ⟨pool, admission, hreach⟩ := h
  have hcalm : ((system pool admission).restrict DrainsWhenEmpty).Reachable a := by
    refine hreach.restrict_mono ?_
    rintro s op hordinary target rfl
    rw [ordinary, Bool.and_eq_true] at hordinary
    cases hordinary.2
  exact reachable_drained hcalm

lemma Live.apply (h : a.Live) {outcome : Outcome T} (hop : a.ordinary op)
    (hcall : a.apply op = some (outcome, a')) : a'.Live ∧ Admits a a' := by
  have hadmits := (effect_of_apply h.sound hcall).1.admits
  obtain ⟨pool, admission, hreach⟩ := h
  refine ⟨⟨pool, admission, .step hreach ⟨hop, ?_⟩⟩, hadmits⟩
  change a.next op = some a'
  rw [next, hcall, map_some]

/-- Ticket numbers are drawn once. -/
lemma TicketsOrdered.unique (h : a.TicketsOrdered) {t : T} {first second : TicketId × ClientId}
    (hfirst : first ∈ a.waitersOf t) (hsecond : second ∈ a.waitersOf t) (hsame : first.1 = second.1) :
    first = second := by
  have hids : ((a.waitersOf t).map Prod.fst).Nodup := by
    have hpairwise := (h t).sublist (List.sublist_append_left _ _)
    have hmap : (a.waitersOf t).map Prod.fst = (a.queueOf t).map (·.id) := by
      rw [waitersOf, List.map_map]
      rfl
    rw [hmap]
    exact hpairwise.imp fun hlt => ne_of_lt hlt
  exact List.inj_on_of_nodup_map hids hfirst hsecond hsame

/-- A call that hands out grants. -/
structure Gives (op : Op T) (a : Allocator T) (grants : List (Grant T)) (a' : Allocator T) :
    Prop where
  live : a'.Live
  admits : Admits a a'
  dealt : Dealt op a a.waitersOf grants a'

lemma Gives.fits (h : Gives op a grants a') : ∀ grant ∈ grants, Grant.Fits grant := by
  obtain ⟨m, -, -, -, hdeals⟩ := h.dealt
  exact hdeals.fits

lemma Gives.waiters (h : Gives op a grants a') (t : T) :
    a.waitersOf t = servedFor grants t ++ a'.waitersOf t := by
  obtain ⟨m, -, -, hwaiters, hdeals⟩ := h.dealt
  rw [← hwaiters t, hdeals.waiters t]

lemma release_gives (h : a.Live) {lease : Lease T} {outcome : ReleaseOutcome T}
    (hcall : a.release lease = some (outcome, a')) :
    Gives (.release lease) a outcome.grants a' := by
  have happly : a.apply (.release lease) = _ := report_eq hcall
  obtain ⟨hlive, hadmits⟩ := h.apply rfl happly
  exact ⟨hlive, hadmits, release_deals h.sound hcall⟩

lemma backendDied_gives (h : a.Live) {server : ServerId}
    (hcall : a.backendDied server = some (grants, a')) :
    Gives (.backendDied server) a grants a' := by
  have happly : a.apply (.backendDied server) = _ := report_eq hcall
  obtain ⟨hlive, hadmits⟩ := h.apply rfl happly
  exact ⟨hlive, hadmits, backendDied_deals h.sound hcall⟩

variable {result : Except (ConfigError T) (List (Grant T))} {id : T}

lemma setTenantSpec_gives (h : a.Live) {spec : TenantSpec}
   
    (hcall : a.setTenantSpec id spec = some (result, a')) :
    Gives (.setTenantSpec id spec) a (result.toOption.getD []) a' := by
  have happly : a.apply (.setTenantSpec id spec) = _ := report_eq hcall
  obtain ⟨hlive, hadmits⟩ := h.apply rfl happly
  exact ⟨hlive, hadmits, setTenantSpec_fates h.sound hcall⟩

/-- A tenant without queued requests is removed. -/
lemma removeTenant_gives (h : a.Live)
    (hempty : a.waitersOf id = []) (hcall : a.removeTenant id = some (result, a')) :
    Gives (.removeTenant id) a (result.toOption.getD []) a' := by
  have happly : a.apply (.removeTenant id) = _ := report_eq hcall
  obtain ⟨hlive, hadmits⟩ := h.apply rfl happly
  obtain ⟨m, hsm, hprepared, hwaiters, hdeals⟩ := removeTenant_fates h.sound hcall
  refine ⟨hlive, hadmits, m, hsm, hprepared, ?_, hdeals⟩
  intro t
  refine (hwaiters t).trans ?_
  beta_reduce
  split
  · next hsame => rw [hsame, hempty]
  · rfl

variable {client : ClientId}

/-- A client without queued requests disconnects. -/
lemma disconnectClient_gives (h : a.Live) (hnone : ∀ t k, (k, client) ∉ a.waitersOf t)
    (hcall : a.disconnectClient client = some (grants, a')) :
    Gives (.disconnectClient client) a grants a' := by
  have happly : a.apply (.disconnectClient client) = _ := report_eq hcall
  obtain ⟨hlive, hadmits⟩ := h.apply rfl happly
  obtain ⟨m, hsm, hprepared, hwaiters, hdeals⟩ := disconnectClient_fates h.sound hcall
  refine ⟨hlive, hadmits, m, hsm, hprepared, ?_, hdeals⟩
  intro t
  refine (hwaiters t).trans ?_
  beta_reduce
  split
  · rw [List.filter_eq_self]
    rintro ⟨k, c⟩ hmem
    refine decide_eq_true ?_
    rintro rfl
    exact hnone t k hmem
  · rfl

/-- A client that is let in gets the next identifier, and its tenant. -/
lemma connectClient_ok {tenant : T} (h : a.connectClient tenant = some (.ok client, a')) :
    client = a.nextClient ∧ client < a'.nextClient ∧ a'.clients.get? client = some tenant := by
  unfold connectClient at h
  split at h
  · simp only [some.injEq, Prod.mk.injEq, reduceCtorEq, false_and] at h
  dsimp only at h
  split at h
  · simp only [some.injEq, Prod.mk.injEq, reduceCtorEq, false_and] at h
  obtain ⟨rt, -, h⟩ := bind_eq_some_iff.mp h
  split at h
  · simp only [some.injEq, Prod.mk.injEq, reduceCtorEq, false_and] at h
  · cases h
    exact ⟨rfl, Nat.lt_succ_self _, OrderedMap.get?_insert_self _ _ _⟩

/-- Adding a tenant leaves the queues as they are. -/
lemma addTenant_table (h : a.Live) (id : T) (spec : TenantSpec) :
    (a.addTenant id spec).2.Live ∧ Admits a (a.addTenant id spec).2 ∧
      ∀ t, (a.addTenant id spec).2.waitersOf t = a.waitersOf t := by
  have happly : a.apply (.addTenant id spec) =
      some (.configured (a.addTenant id spec).1, (a.addTenant id spec).2) := rfl
  obtain ⟨hlive, hadmits⟩ := h.apply rfl happly
  refine ⟨hlive, hadmits, ?_⟩
  unfold addTenant
  split
  · exact fun _ => rfl
  rename_i budget hbudget
  intro t
  have hnew : a.tenants.get? id = none := by
    have hunknown := (CapacityBudget.insertTenant_ok h.sound.consistent.budget hbudget).1
    have hbound := h.sound.consistent.bound id
    rw [hunknown, isSome_none] at hbound
    exact not_isSome_iff_eq_none.mp (by simp [hbound])
  apply waitersOf_congr
  rw [queueOf_insert a _ rfl]
  split
  · rename_i hsame
    rw [hsame, queueOf, hnew]
    rfl
  · rfl

end Allocator
end PgElastic.Capacity
