import PgElastic.Proxy.Connects

/-!
# Runs of the connect gates

What the connect gates guarantee over every interleaving of acquisitions, check-ins, discards
and sweeps: at most one connect in flight for a key, and no connect for it before the retry time
of a failed one.

The gate of a key is part of its pool, and `forget_empty_pools` drops a pool for holding no
link.  A pool whose first connect is still running, or has just failed, holds none: the sweep
takes the gate away, and the next client makes a new one.  The guarantee is therefore proved for
the runs whose sweeps spare such gates, and refuted for the others.
-/

namespace PgElastic.Proxy

open Library Option OrderedMap OrderedSet System
open PgElastic.Pool (ConnectGate ConnectDecision)

namespace Connects
namespace World

variable {K F : Type} [LinearOrder K]

variable {key : K} {id : SlotId} {slot : ConnectSlot K} {pool : Pool} {gate gate' : ConnectGate F}
  {reaped : List ServerId} {step : Step K F}

/-! ### One connect at a time -/

/-- A permit that has not settled belongs to the gate its key has now, which knows about it,
and no other slot has one of that gate. -/
structure Exclusive (w : World K F) : Prop where
  allocated : w.Allocated
  known : ∀ id slot, w.slots.get? id = some slot → slot.stage.inFlight = true →
    ∃ pool gate, w.pools.get? slot.key = some pool ∧ pool.gate = slot.gate ∧
      w.gates.get? slot.gate = some gate ∧ gate.inFlight = true
  single : ∀ i j si sj, w.slots.get? i = some si → w.slots.get? j = some sj →
    si.stage.inFlight = true → sj.stage.inFlight = true → si.gate = sj.gate → i = j

/-- Key `key` is refused: its gate runs no attempt and remembers a failure until `limit`. -/
def Held (key : K) (limit : Nat) (w : World K F) : Prop :=
  w.now < limit → ∃ pool gate failure, w.pools.get? key = some pool ∧
    w.gates.get? pool.gate = some gate ∧ gate.inFlight = false ∧
    gate.blockedUntil = some limit ∧ gate.lastFailure = some failure

/-- A sweep drops no pool whose gate has an attempt running or a failure cached. -/
def SparesGates (w : World K F) (step : Step K F) : Prop :=
  ∀ reaped, step = .reapIdle reaped → ∀ key pool gate, w.pools.get? key = some pool →
    (∀ server, server ∈ pool.idle ∨ server ∈ pool.active → server ∈ reaped) →
    w.gates.get? pool.gate = some gate →
    gate.inFlight = false ∧ gate.cachedFailure w.now = none

/-- Every pool is still there with its gate, and with all its links but the taken ones. -/
def Keeps (taken : List ServerId) (w w' : World K F) : Prop :=
  ∀ key pool, w.pools.get? key = some pool → ∃ pool', w'.pools.get? key = some pool' ∧
    pool'.gate = pool.gate ∧ ∀ server, server ∉ taken →
      server ∈ pool.idle ∨ server ∈ pool.active → server ∈ pool'.idle ∨ server ∈ pool'.active

namespace Keeps

variable {taken : List ServerId}

lemma refl (w : World K F) : Keeps taken w w :=
  fun _ pool hpool => ⟨pool, hpool, rfl, fun _ _ => id⟩

lemma trans {u v w : World K F} (h : Keeps taken u v) (h' : Keeps taken v w) : Keeps taken u w := by
  intro key pool hpool
  obtain ⟨middle, hmiddle, hgate, hlinks⟩ := h key pool hpool
  obtain ⟨last, hlast, hgate', hlinks'⟩ := h' key middle hmiddle
  exact ⟨last, hlast, hgate'.trans hgate,
    fun server hkept hmem => hlinks' server hkept (hlinks server hkept hmem)⟩

lemma storeLinks {w : World K F} {idle active : OrderedSet ServerId}
    (hpool : w.pools.get? key = some pool)
    (hlinks : ∀ server, server ∉ taken → server ∈ pool.idle ∨ server ∈ pool.active →
      server ∈ idle ∨ server ∈ active) : Keeps taken w (w.storeLinks key pool idle active) := by
  intro other found hfound
  unfold World.storeLinks
  rw [get?_insert]
  by_cases hkey : other = key
  · subst hkey
    rw [if_pos rfl]
    rw [hpool] at hfound
    cases hfound
    exact ⟨_, rfl, rfl, hlinks⟩
  · rw [if_neg hkey]
    exact ⟨found, hfound, rfl, fun _ _ => id⟩

variable {server : ServerId}

lemma removeIdle (w : World K F) (key : K) (htaken : server ∈ taken) :
    Keeps taken w (w.removeIdle key server) := by
  unfold World.removeIdle
  cases hpool : w.pools.get? key with
  | none => exact refl w
  | some pool =>
    refine storeLinks hpool ?_
    intro other hkept hmem
    have hne : other ≠ server := fun heq => hkept (heq ▸ htaken)
    exact hmem.imp_left fun hidle => mem_erase.mpr ⟨hne, hidle⟩

lemma removeActive (w : World K F) (key : K) (htaken : server ∈ taken) :
    Keeps taken w (w.removeActive key server) := by
  unfold World.removeActive
  cases hpool : w.pools.get? key with
  | none => exact refl w
  | some pool =>
    refine storeLinks hpool ?_
    intro other hkept hmem
    have hne : other ≠ server := fun heq => hkept (heq ▸ htaken)
    exact hmem.imp_right fun hactive => mem_erase.mpr ⟨hne, hactive⟩

lemma unpark (w : World K F) (htaken : server ∈ taken) : Keeps taken w (w.unpark server) := by
  unfold World.unpark
  cases w.parked.get? server with
  | none => exact refl w
  | some key =>
    have hidle : Keeps taken w (({ w with
        parked := w.parked.erase server }).removeIdle key server) :=
      removeIdle { w with parked := w.parked.erase server } key htaken
    exact hidle.trans (removeActive _ key htaken)

lemma unparkAll {servers : List ServerId} (hservers : ∀ server ∈ servers, server ∈ taken)
    (w : World K F) : Keeps taken w (w.unparkAll servers) := by
  induction servers generalizing w with
  | nil => exact refl w
  | cons server rest ih =>
    have hhead := unpark w (hservers server List.mem_cons_self)
    have hrest := ih (fun other hother => hservers other (List.mem_cons_of_mem _ hother))
      (w.unpark server)
    exact hhead.trans hrest

end Keeps

lemma Pool.not_mem_of_isEmpty (h : pool.isEmpty) (server : ServerId) :
    ¬ (server ∈ pool.idle ∨ server ∈ pool.active) := by
  rw [Pool.isEmpty, Bool.and_eq_true, List.isEmpty_iff, List.isEmpty_iff] at h
  rw [← OrderedSet.mem_toList, ← OrderedSet.mem_toList, h.1, h.2]
  simp

variable {w : World K F}

/-- A sweep that spares the gates keeps the pool of every gate that is running an attempt or
has a failure cached. -/
lemma SparesGates.kept (h : w.SparesGates (.reapIdle reaped))
    (hpool : w.pools.get? key = some pool) (hgate : w.gates.get? pool.gate = some gate)
    (hbusy : gate.inFlight ∨ gate.cachedFailure w.now ≠ none) :
    ∃ pool', (w.reapIdle reaped).pools.get? key = some pool' ∧ pool'.gate = pool.gate := by
  have hkeeps : Keeps reaped w (w.unparkAll reaped) := .unparkAll (fun _ => id) w
  obtain ⟨pool', hpool', hsame, hlinks⟩ := hkeeps key pool hpool
  refine ⟨pool', ?_, hsame⟩
  unfold reapIdle forgetEmptyPools
  rw [get?_filter, hpool']
  cases hempty : pool'.isEmpty with
  | false => simp [hempty]
  | true =>
    have hall server : server ∈ pool.idle ∨ server ∈ pool.active → server ∈ reaped := by
      intro hmem
      by_contra hkept
      exact Pool.not_mem_of_isEmpty hempty server (hlinks server hkept hmem)
    obtain ⟨hquiet, hclear⟩ := h reaped rfl key pool gate hpool hall hgate
    rcases hbusy with hbusy | hbusy
    · rw [hquiet] at hbusy
      cases hbusy
    · exact absurd hclear hbusy

namespace Exclusive

variable {w w' : World K F}

lemma new (loginRetry : Nat) : (World.new loginRetry : World K F).Exclusive where
  allocated := by
    refine ⟨?_, ?_, ?_⟩
    · intro key pool h
      cases h
    · intro id gate h
      cases h
    · intro id slot h
      cases h
  known := by
    intro id slot h
    cases h
  single := by
    intro i j si sj h
    cases h

section

variable (h : w.Exclusive)
include h

lemma tends (ht : w.Tends w') : w'.Exclusive where
  allocated := ht.allocated h.allocated
  known := by
    intro id slot hslot hrunning
    rw [ht.slots] at hslot
    obtain ⟨pool, gate, hpool, hsame, hgate, hflight⟩ := h.known id slot hslot hrunning
    obtain ⟨pool', hpool', hsame'⟩ := ht.pools _ pool hpool
    exact ⟨pool', gate, hpool', hsame'.trans hsame, ht.gates _ gate hgate, hflight⟩
  single := by
    intro i j si sj hi hj
    rw [ht.slots] at hi hj
    exact h.single i j si sj hi hj

lemma tick (elapsed : Nat) : ({ w with now := w.now + elapsed } : World K F).Exclusive :=
  ⟨⟨h.allocated.pools, h.allocated.gates, h.allocated.slots⟩, h.known, h.single⟩

lemma sweep (hspares : w.SparesGates (.reapIdle reaped)) : (w.reapIdle reaped).Exclusive := by
  have ht := Tends.unparkAll reaped w
  have hafter := h.tends ht
  refine ⟨⟨?_, hafter.allocated.gates, hafter.allocated.slots⟩, ?_, hafter.single⟩
  · intro key pool hpool
    unfold reapIdle forgetEmptyPools at hpool
    rw [get?_filter] at hpool
    obtain ⟨hold, _⟩ := filter_eq_some_iff.mp hpool
    exact hafter.allocated.pools key pool hold
  intro id slot hslot hrunning
  have hbefore : w.slots.get? id = some slot := by
    rw [← ht.slots]
    exact hslot
  obtain ⟨pool, gate, hpool, hsame, hgate, hflight⟩ := h.known id slot hbefore hrunning
  obtain ⟨pool', hpool', hsame'⟩ := hspares.kept hpool (hsame ▸ hgate) (.inl hflight)
  exact ⟨pool', gate, hpool', hsame'.trans hsame, ht.gates _ gate hgate, hflight⟩

/-- The gate had no attempt, so the new one is its only one. -/
lemma start {server : ServerId} (hpool : w.pools.get? key = some pool)
    (hgate : w.gates.get? pool.gate = some gate) (hfree : gate.inFlight = false) :
    ({ w with
      gates := w.gates.insert pool.gate { gate with inFlight := true }
      slots := w.slots.insert w.nextSlot ⟨key, server, pool.gate, .dialling 1⟩
      nextSlot := w.nextSlot + 1 } : World K F).Exclusive := by
  -- No slot in flight has this gate: it would know.
  have hunused id slot : w.slots.get? id = some slot → slot.stage.inFlight →
      slot.gate ≠ pool.gate := by
    intro hslot hrunning heq
    obtain ⟨_, found, _, _, hfound, hflight⟩ := h.known id slot hslot hrunning
    rw [heq, hgate] at hfound
    cases hfound
    rw [hfree] at hflight
    cases hflight
  refine ⟨⟨?_, ?_, ?_⟩, ?_, ?_⟩
  · intro other found hfound
    obtain ⟨gate', hgate'⟩ := h.allocated.pools other found hfound
    rw [get?_insert]
    split
    · exact ⟨_, rfl⟩
    · exact ⟨gate', hgate'⟩
  · intro id found hfound
    rcases get?_insert_cases hfound with ⟨rfl, _⟩ | ⟨_, hold⟩
    · exact h.allocated.gates _ gate hgate
    · exact h.allocated.gates id found hold
  · intro id slot hslot
    rcases get?_insert_cases hslot with ⟨rfl, _⟩ | ⟨_, hold⟩
    · exact Nat.lt_succ_self _
    · exact Nat.lt_succ_of_lt (h.allocated.slots id slot hold)
  · intro id slot hslot hrunning
    rcases get?_insert_cases hslot with ⟨_, rfl⟩ | ⟨_, hold⟩
    · exact ⟨pool, _, hpool, rfl, get?_insert_self _ _ _, rfl⟩
    obtain ⟨found, gate', hfound, hsame, hgate', hflight⟩ := h.known id slot hold hrunning
    refine ⟨found, gate', hfound, hsame, ?_, hflight⟩
    rw [get?_insert_of_ne _ _ (hunused id slot hold hrunning)]
    exact hgate'
  intro i j si sj hi hj hri hrj hsame
  rcases get?_insert_cases hi with ⟨rfl, rfl⟩ | ⟨_, hi⟩
  · rcases get?_insert_cases hj with ⟨rfl, _⟩ | ⟨_, hj⟩
    · rfl
    · exact absurd hsame.symm (hunused j sj hj hrj)
  · rcases get?_insert_cases hj with ⟨rfl, rfl⟩ | ⟨_, hj⟩
    · exact absurd hsame (hunused i si hi hri)
    · exact h.single i j si sj hi hj hri hrj hsame

/-- A slot that changes its stage only, and does not take a permit back. -/
lemma restage {stage : Stage} (hslot : w.slots.get? id = some slot)
    (hrunning : slot.stage.inFlight) : (w.restage id slot stage).Exclusive := by
  have hold : ∀ other found, (w.slots.insert id { slot with stage := stage }).get? other =
      some found → ∃ before, w.slots.get? other = some before ∧ before.key = found.key ∧
        before.gate = found.gate ∧ (found.stage.inFlight = true → before.stage.inFlight = true) := by
    intro other found hfound
    rcases get?_insert_cases hfound with ⟨rfl, rfl⟩ | ⟨_, hbefore⟩
    · exact ⟨slot, hslot, rfl, rfl, fun _ => hrunning⟩
    · exact ⟨found, hbefore, rfl, rfl, fun hfound => hfound⟩
  refine ⟨⟨h.allocated.pools, h.allocated.gates, ?_⟩, ?_, ?_⟩
  · intro other found hfound
    obtain ⟨before, hbefore, _⟩ := hold other found hfound
    exact h.allocated.slots other before hbefore
  · intro other found hfound hflight
    obtain ⟨before, hbefore, hkey, hgate, hback⟩ := hold other found hfound
    rw [← hkey, ← hgate]
    exact h.known other before hbefore (hback hflight)
  intro i j si sj hi hj hri hrj hsame
  obtain ⟨bi, hbi, _, hgi, hbacki⟩ := hold i si hi
  obtain ⟨bj, hbj, _, hgj, hbackj⟩ := hold j sj hj
  exact h.single i j bi bj hbi hbj (hbacki hri) (hbackj hrj) ((hgi.trans hsame).trans hgj.symm)

/-- The gate of a permit that settles has no other permit out. -/
lemma settle (hslot : w.slots.get? id = some slot) (hrunning : slot.stage.inFlight) :
    (({ w with gates := w.gates.insert slot.gate gate' }).restage id slot .settled).Exclusive := by
  have hbase : (w.restage id slot .settled).Exclusive := h.restage hslot hrunning
  refine ⟨⟨?_, ?_, hbase.allocated.slots⟩, ?_, hbase.single⟩
  · intro key pool hpool
    obtain ⟨found, hfound⟩ := h.allocated.pools key pool hpool
    change ∃ gate, (w.gates.insert slot.gate gate').get? pool.gate = some gate
    rw [get?_insert]
    split
    · exact ⟨_, rfl⟩
    · exact ⟨found, hfound⟩
  · intro other found hfound
    rcases get?_insert_cases hfound with ⟨rfl, _⟩ | ⟨_, hold⟩
    · obtain ⟨_, gate, _, _, hgate, _⟩ := h.known id slot hslot hrunning
      exact h.allocated.gates _ gate hgate
    · exact h.allocated.gates other found hold
  intro other found hfound hflight
  rcases get?_insert_cases hfound with ⟨_, rfl⟩ | ⟨hne, hold⟩
  · cases hflight
  obtain ⟨pool, gate, hpool, hsame, hgate, hknown⟩ := h.known other found hold hflight
  have hother : found.gate ≠ slot.gate := by
    intro heq
    exact hne (h.single other id found slot hold hslot hflight hrunning heq)
  refine ⟨pool, gate, hpool, hsame, ?_, hknown⟩
  change (w.gates.insert slot.gate gate').get? found.gate = some gate
  rw [get?_insert_of_ne _ _ hother]
  exact hgate

lemma drop (id : SlotId) : ({ w with slots := w.slots.erase id } : World K F).Exclusive := by
  have hold other slot :
      (w.slots.erase id).get? other = some slot → w.slots.get? other = some slot := by
    intro hslot
    exact (get?_of_erase hslot).2
  exact ⟨⟨h.allocated.pools, h.allocated.gates,
      fun other slot hslot => h.allocated.slots other slot (hold other slot hslot)⟩,
    fun other slot hslot => h.known other slot (hold other slot hslot),
    fun i j si sj hi hj => h.single i j si sj (hold i si hi) (hold j sj hj)⟩

lemma change (hspares : w.SparesGates step) (hchange : Change w step w') : w'.Exclusive := by
  cases hchange with
  | tick elapsed => exact h.tick elapsed
  | tends ht => exact h.tends ht
  | sweep reaped => exact h.sweep hspares
  | start ht hpool hgate hfree _ => exact (h.tends ht).start hpool hgate hfree
  | restage ht hslot hrunning _ => exact (h.tends ht).restage hslot hrunning
  | settle hslot hrunning _ _ => exact h.settle hslot hrunning
  | drop ht _ _ => exact (h.tends ht).drop _

end

end Exclusive

lemma exclusive_of_reachable (h : ((system K F).restrict SparesGates).Reachable w) :
    w.Exclusive := by
  refine h.invariant ?_ ?_
  · rintro _ ⟨loginRetry, rfl⟩
    exact Exclusive.new loginRetry
  · rintro u step v _ hu ⟨hspares, hnext⟩
    exact hu.change hspares (next_change hu.allocated hnext)

/-! ### The backoff outlasts the pool -/

namespace Held

variable {w w' : World K F} {key : K} {limit : Nat}

section

variable (h : w.Held key limit)
include h

/-- A key that is refused has no connect in flight. -/
lemma idle (hw : w.Exclusive) (hnow : w.now < limit) :
    ∀ id slot, w.slots.get? id = some slot → slot.key = key → slot.stage.inFlight = false := by
  intro id slot hslot hkey
  cases hrunning : slot.stage.inFlight with
  | false => rfl
  | true =>
    obtain ⟨pool, gate, _, hpool, hgate, hfree, _, _⟩ := h hnow
    obtain ⟨pool', gate', hpool', hsame, hgate', hflight⟩ := hw.known id slot hslot hrunning
    rw [hkey, hpool] at hpool'
    cases hpool'
    rw [← hsame, hgate] at hgate'
    cases hgate'
    rw [hfree] at hflight
    cases hflight

/-- A client of a key that is refused is refused. -/
lemma refused (hnow : w.now < limit) (server : ServerId) :
    ∃ failure, w.gatedOpen key server = some (.refused failure, w) := by
  obtain ⟨pool, gate, failure, hpool, hgate, _, hlimit, hfailure⟩ := h hnow
  have hcached := ConnectGate.cachedFailure_of_blocked hlimit hfailure hnow
  refine ⟨failure, ?_⟩
  simp only [gatedOpen, World.pool, hpool, hgate, map_some, ConnectGate.tryStart, hcached]

lemma tends (ht : w.Tends w') : w'.Held key limit := by
  intro hnow
  rw [ht.now] at hnow
  obtain ⟨pool, gate, failure, hpool, hgate, hrest⟩ := h hnow
  obtain ⟨pool', hpool', hsame⟩ := ht.pools key pool hpool
  refine ⟨pool', gate, failure, hpool', ?_, hrest⟩
  rw [hsame]
  exact ht.gates _ gate hgate

lemma sweep (hspares : w.SparesGates (.reapIdle reaped)) : (w.reapIdle reaped).Held key limit := by
  have ht := Tends.unparkAll reaped w
  intro hnow
  have hbefore : w.now < limit := by
    rw [← ht.now]
    exact hnow
  obtain ⟨pool, gate, failure, hpool, hgate, hfree, hlimit, hfailure⟩ := h hbefore
  have hcached := ConnectGate.cachedFailure_of_blocked hlimit hfailure hbefore
  have hbusy : gate.inFlight ∨ gate.cachedFailure w.now ≠ none := by
    rw [hcached]
    exact .inr (some_ne_none failure)
  obtain ⟨pool', hpool', hsame⟩ := hspares.kept hpool hgate hbusy
  refine ⟨pool', gate, failure, hpool', ?_, hfree, hlimit, hfailure⟩
  rw [hsame]
  exact ht.gates _ gate hgate

/-- Another gate changes. -/
lemma other {id : GateId} {slots : OrderedMap SlotId (ConnectSlot K)} {nextSlot : SlotId}
    (hother : w.now < limit → ∀ pool, w.pools.get? key = some pool → pool.gate ≠ id) :
    ({ w with
      gates := w.gates.insert id gate', slots := slots,
      nextSlot := nextSlot } : World K F).Held key limit := by
  intro hnow
  obtain ⟨pool, gate, failure, hpool, hgate, hrest⟩ := h hnow
  refine ⟨pool, gate, failure, hpool, ?_, hrest⟩
  change (w.gates.insert id gate').get? pool.gate = some gate
  rw [get?_insert_of_ne _ _ (hother hnow pool hpool)]
  exact hgate

/-- An attempt that starts has found no failure cached, so its gate is another one. -/
lemma start {held : K} {server : ServerId} {found : Pool}
    (hgate : w.gates.get? found.gate = some gate) (hclear : gate.cachedFailure w.now = none) :
    ({ w with
      gates := w.gates.insert found.gate { gate with inFlight := true }
      slots := w.slots.insert w.nextSlot ⟨held, server, found.gate, .dialling 1⟩
      nextSlot := w.nextSlot + 1 } : World K F).Held key limit := by
  refine h.other ?_
  intro hnow pool hpool heq
  obtain ⟨pool', gate', failure, hpool', hgate', _, hlimit, hfailure⟩ := h hnow
  rw [hpool] at hpool'
  cases hpool'
  rw [heq, hgate] at hgate'
  cases hgate'
  rw [ConnectGate.cachedFailure_of_blocked hlimit hfailure hnow] at hclear
  cases hclear

/-- A permit that settles was out, so its gate is another one. -/
lemma settle (hw : w.Exclusive) (hslot : w.slots.get? id = some slot)
    (hrunning : slot.stage.inFlight) :
    (({ w with gates := w.gates.insert slot.gate gate' }).restage id slot .settled).Held
      key limit := by
  refine h.other ?_
  intro hnow pool hpool heq
  obtain ⟨pool', gate, _, hpool', hgate, hfree, _⟩ := h hnow
  rw [hpool] at hpool'
  cases hpool'
  obtain ⟨_, found, _, _, hfound, hflight⟩ := hw.known id slot hslot hrunning
  rw [← heq, hgate] at hfound
  cases hfound
  rw [hfree] at hflight
  cases hflight

lemma change (hw : w.Exclusive) (hspares : w.SparesGates step) (hchange : Change w step w') : w'.Held key limit := by
  cases hchange with
  | tick elapsed => exact fun hnow => h (lt_of_le_of_lt (Nat.le_add_right _ _) hnow)
  | tends ht => exact h.tends ht
  | sweep reaped => exact h.sweep hspares
  | start ht _ hgate _ hclear => exact (h.tends ht).start hgate hclear
  | restage ht _ _ _ =>
    have hheld := h.tends ht
    exact hheld
  | settle hslot hrunning _ _ => exact h.settle hw hslot hrunning
  | drop ht _ _ =>
    have hheld := h.tends ht
    exact hheld

end

end Held

/-- The connect of slot `id` fails for good in this step, and its gate is closed until
`limit`. -/
def Fails (w : World K F) (id : SlotId) (slot : ConnectSlot K) (limit : Nat)
    (w' : World K F) : Prop :=
  w.slots.get? id = some slot ∧
    (∃ failure transport, w.next (.dialed id (.failed failure transport)) = some w') ∧
    w'.slots.get? id = some { slot with stage := .settled } ∧
    ∃ gate, w'.gates.get? slot.gate = some gate ∧ gate.blockedUntil = some limit

/-- A connect that fails closes the gate its key has. -/
lemma Fails.held {w' : World K F} {limit : Nat} (hw : w.Exclusive)
    (h : w.Fails id slot limit w') : w'.Held slot.key limit := by
  obtain ⟨hslot, ⟨failure, transport, hnext⟩, hsettled, gate', hgate', hlimit⟩ := h
  change w.dialed id (.failed failure transport) = some w' at hnext
  unfold dialed at hnext
  rw [hslot, bind_some] at hnext
  cases hstage : slot.stage with
  | dialling attempt =>
    have hrunning : slot.stage.inFlight := by rw [hstage]; rfl
    obtain ⟨pool, gate, hpool, hsame, hgate, _⟩ := hw.known id slot hslot hrunning
    rw [hstage] at hnext
    dsimp only at hnext
    split at hnext
    · -- A dial that is to be repeated leaves the permit in the slot.
      cases hnext
      change (w.slots.insert id _).get? id = _ at hsettled
      rw [get?_insert_self] at hsettled
      cases hsettled
    unfold World.settle at hnext
    rw [hgate, map_some] at hnext
    cases hnext
    have hreport : gate' = gate.failed failure w.now := by
      change (w.gates.insert slot.gate _).get? slot.gate = _ at hgate'
      rw [get?_insert_self] at hgate'
      exact (some.inj hgate').symm
    intro _
    refine ⟨pool, gate', failure, hpool, ?_, ?_, hlimit, ?_⟩
    · rw [hsame]
      exact hgate'
    · rw [hreport]
      rfl
    · rw [hreport]
      rfl
  | _ =>
    rw [hstage] at hnext
    cases hnext

/-- **One connect per key, and none before the retry time.**  In every run whose sweeps drop
no pool with an attempt running or a failure cached, two connects in flight for one key are one
connect; and from a failed connect to the retry time of its gate every client of the key is
refused, and the key has no connect in flight. -/
theorem connects_respect_the_gate {w : World K F}
    (h : ((system K F).restrict SparesGates).Reachable w) :
    (∀ i j si sj, w.slots.get? i = some si → w.slots.get? j = some sj → si.key = sj.key →
      si.stage.inFlight = true → sj.stage.inFlight = true → i = j) ∧
    ∀ id slot limit w₁, w.Fails id slot limit w₁ →
      ∀ steps w₂, ((system K F).restrict SparesGates).Path w₁ steps w₂ → w₂.now < limit →
        (∀ server, ∃ failure, w₂.gatedOpen slot.key server = some (.refused failure, w₂)) ∧
        ∀ j sj, w₂.slots.get? j = some sj → sj.key = slot.key → sj.stage.inFlight = false := by
  have hw := exclusive_of_reachable h
  constructor
  · intro i j si sj hi hj hkey hri hrj
    obtain ⟨pi, _, hpi, hgi, _⟩ := hw.known i si hi hri
    obtain ⟨pj, _, hpj, hgj, _⟩ := hw.known j sj hj hrj
    rw [hkey, hpj] at hpi
    cases hpi
    exact hw.single i j si sj hi hj hri hrj (hgi.symm.trans hgj)
  intro id slot limit w₁ hfails steps w₂ hpath hnow
  obtain ⟨failure, transport, hnext⟩ := hfails.2.1
  have hspares : w.SparesGates (.dialed id (.failed failure transport)) := by
    intro reaped hfalse
    cases hfalse
  have hw₁ : w₁.Exclusive := hw.change hspares (next_change hw.allocated hnext)
  have hboth : w₂.Exclusive ∧ w₂.Held slot.key limit := by
    refine hpath.invariant (I := fun v => v.Exclusive ∧ v.Held slot.key limit) ?_
      ⟨hw₁, hfails.held hw⟩
    rintro u step v ⟨hu, hheld⟩ ⟨hspares, hstep⟩
    have hchange := next_change hu.allocated hstep
    exact ⟨hu.change hspares hchange, hheld.change hu hspares hchange⟩
  exact ⟨hboth.2.refused hnow, hboth.2.idle hboth.1 hnow⟩

/-! ### Runs on fixed inputs -/

/-- The condition of `connects_respect_the_gate`, as a test. -/
def sparesTest (w : World K F) : Step K F → Bool
  | .reapIdle reaped => w.pools.values.all fun pool =>
    (pool.idle.toList ++ pool.active.toList).any (fun server => !reaped.contains server) ||
      (w.gates.get? pool.gate).all fun gate =>
        !gate.inFlight && (gate.cachedFailure w.now).isNone
  | _ => true

lemma sparesGates_of_test (h : w.sparesTest step) : w.SparesGates step := by
  rintro reaped rfl key pool gate hpool hall hgate
  have hmem := (mem_values_iff _ _).mpr ⟨key, hpool⟩
  have hpoolTest := List.all_eq_true.mp h pool hmem
  rcases (Bool.or_eq_true _ _).mp hpoolTest with hkept | hquiet
  · obtain ⟨server, hserver, hout⟩ := List.any_eq_true.mp hkept
    rw [List.mem_append, OrderedSet.mem_toList, OrderedSet.mem_toList] at hserver
    have hin := hall server hserver
    simp [hin] at hout
  · rw [hgate, all_some, Bool.and_eq_true, Bool.not_eq_true', isNone_iff_eq_none] at hquiet
    exact hquiet

/-- Replays steps that pass a test, from an empty manager with a retry interval of 15. -/
def replay (test : World Nat Unit → Step Nat Unit → Bool) (steps : List (Step Nat Unit)) :
    Option (World Nat Unit) :=
  System.run (guarded next test) (new 15) steps

lemma reachable_of_replay {test : World Nat Unit → Step Nat Unit → Bool}
    {steps : List (Step Nat Unit)} {w : World Nat Unit} (h : replay test steps = some w) :
    ((system Nat Unit).restrict fun w step => test w step).Reachable w :=
  reachable_of_guarded_run (fun _ _ _ => id) ⟨15, rfl⟩ h

/-- One link is open under the key when the next connect for it runs. -/
def secondConnect : List (Step Nat Unit) :=
  [.gatedOpen 0 1, .dialed 0 .connected, .succeed 0, .dropSlot 0, .tick 5, .gatedOpen 0 2]

/-- The connect fails at time 5; after a sweep, at time 19, the key is still refused. -/
theorem connects_respect_the_gate_secondConnect :
    ∃ w w₁ w₂ : World Nat Unit, replay sparesTest secondConnect = some w ∧
      w.Fails 1 ⟨0, 2, 0, .dialling 1⟩ 20 w₁ ∧
      System.run (guarded next sparesTest) w₁ [.dropSlot 1, .reapIdle [], .tick 14] =
        some w₂ ∧ ∃ failure, w₂.gatedOpen 0 3 = some (.refused failure, w₂) := by
  let w : World Nat Unit := (replay sparesTest secondConnect).get (by decide)
  let w₁ : World Nat Unit := (w.next (.dialed 1 (.failed () false))).get (by decide)
  let w₂ : World Nat Unit := (System.run (guarded next sparesTest) w₁
    [.dropSlot 1, .reapIdle [], .tick 14]).get (by decide)
  have hw : _ = some w := (some_get _).symm
  have hreach := (reachable_of_replay hw).restrict_mono fun _ _ htest => sparesGates_of_test htest
  have hfails : w.Fails 1 ⟨0, 2, 0, .dialling 1⟩ 20 w₁ :=
    ⟨by decide, ⟨(), false, (some_get _).symm⟩, by decide,
      ⟨false, 15, some 20, some ()⟩, by decide, by decide⟩
  have hrun : _ = some w₂ := (some_get _).symm
  have hpath : ((system Nat Unit).restrict SparesGates).Path w₁
      [.dropSlot 1, .reapIdle [], .tick 14] w₂ :=
    path_of_guarded_run (fun _ _ _ => id) (fun _ _ htest => sparesGates_of_test htest) hrun
  have hnow : w₂.now < 20 := by decide
  exact ⟨w, w₁, w₂, hw, hfails, hrun,
    ((connects_respect_the_gate hreach).2 1 _ 20 w₁ hfails _ w₂ hpath hnow).1 3⟩

/-- A sweep during the first connect of a key: a second connect runs beside it.  And a sweep
after a connect has failed: the next client of the key dials at once. -/
theorem sweep_takes_the_gate_away : (∃ w : World Nat Unit, (system Nat Unit).Reachable w ∧
      w.slots.get? 0 = some ⟨0, 1, 0, .dialling 1⟩ ∧ w.slots.get? 1 = some ⟨0, 2, 1, .dialling 1⟩) ∧
    ∃ w w₁ w₂ w₃ : World Nat Unit, (system Nat Unit).Reachable w ∧
      w.Fails 0 ⟨0, 1, 0, .dialling 1⟩ 15 w₁ ∧
      (system Nat Unit).Path w₁ [.dropSlot 0, .reapIdle []] w₂ ∧ w₂.now = 0 ∧
      w₂.gatedOpen 0 2 = some (.opened 1, w₃) := by
  constructor
  · exact (exists_of_any (x := replay (fun _ _ => true)
      [.gatedOpen 0 1, .reapIdle [], .gatedOpen 0 2]) (by decide)).imp
      fun w hw => ⟨(reachable_of_replay hw.1).of_restrict, hw.2⟩
  let w : World Nat Unit := (replay (fun _ _ => true) [.gatedOpen 0 1]).get (by decide)
  let w₁ : World Nat Unit := (w.next (.dialed 0 (.failed () false))).get (by decide)
  let w₂ : World Nat Unit := (System.run next w₁ [.dropSlot 0, .reapIdle []]).get (by decide)
  have hw : _ = some w := (some_get _).symm
  have hfails : w.Fails 0 ⟨0, 1, 0, .dialling 1⟩ 15 w₁ :=
    ⟨by decide, ⟨(), false, (some_get _).symm⟩, by decide,
      ⟨false, 15, some 15, some ()⟩, by decide, by decide⟩
  have hrun : _ = some w₂ := (some_get _).symm
  have hopened : ((w₂.gatedOpen 0 2).map Prod.fst) = some (.opened 1) := by decide
  obtain ⟨⟨_, w₃⟩, hopen, rfl⟩ := map_eq_some_iff.mp hopened
  exact ⟨w, w₁, w₂, w₃, (reachable_of_replay hw).of_restrict, hfails,
    path_of_run (fun _ _ _ _ => id) hrun, by decide, hopen⟩

end World
end Connects
end PgElastic.Proxy
