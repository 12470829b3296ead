import PgElastic.Library.OrderedMap
import PgElastic.Library.Transition
import PgElastic.Pool.ConnectGate

/-!
# Connects of the pools

The per-key pools of the pool manager and the backend connects made through their gates:
`gated_open` with the slot it hands out, `open_transiently` with its retries inside the slot,
and every section that adds a pool, changes its links or drops it.

A pool owns its gate, and the permit of a running attempt shares it.  The gate therefore
outlives the pool: gates are numbered in the order they are made, and pools and slots name
theirs by number.  The keys are generic, and so are the failures.  How a dial ends and which
links a sweep takes are arguments of the steps; a pool's greeting and its wake-up counter are
left out.
-/

namespace PgElastic.Proxy

open Library Option OrderedMap
open PgElastic.Pool (ConnectGate ConnectDecision)

namespace Connects

abbrev ServerId := Nat

abbrev GateId := Nat

abbrev SlotId := Nat

/-- The links that exist under one key, and the gate for opening more. -/
structure Pool where
  idle : OrderedSet ServerId
  active : OrderedSet ServerId
  gate : GateId

def Pool.new (gate : GateId) : Pool := ⟨OrderedSet.empty, OrderedSet.empty, gate⟩

/-- Holding no link at all. -/
def Pool.isEmpty (pool : Pool) : Bool := pool.idle.toList.isEmpty && pool.active.toList.isEmpty

/-- How far an attempt has come.  The permit is held until `settled`. -/
inductive Stage
  | dialling (attempt : Nat)
  | sleeping (attempt : Nat)
  | linked
  | settled
  deriving DecidableEq, Repr

/-- A connect is in flight for as long as its permit has not settled. -/
def Stage.inFlight : Stage → Bool
  | .settled => false
  | _ => true

/-- A connect slot, with the gate of the permit inside it. -/
structure ConnectSlot (K : Type) where
  key : K
  server : ServerId
  gate : GateId
  stage : Stage
  deriving DecidableEq, Repr

/-- How one dial ends. -/
inductive Dialed (F : Type)
  | connected
  | failed (failure : F) (transport : Bool)
  deriving DecidableEq, Repr

/-- What the gate said to a client that wants a link. -/
inductive Gated (F : Type)
  | opened (slot : SlotId)
  | wait
  | refused (failure : F)
  deriving DecidableEq, Repr

/-- The pools, the gates they have had, and the running attempts. -/
structure World (K F : Type) [LinearOrder K] where
  now : Nat
  loginRetry : Nat
  pools : OrderedMap K Pool
  gates : OrderedMap GateId (ConnectGate F)
  nextGate : GateId
  parked : OrderedMap ServerId K
  slots : OrderedMap SlotId (ConnectSlot K)
  nextSlot : SlotId

/-- Everything that touches a pool, a gate or an attempt. -/
inductive Step (K F : Type)
  /-- Time passes. -/
  | tick (elapsed : Nat)
  /-- A client asks the gate of its key for a connect. -/
  | gatedOpen (key : K) (server : ServerId)
  /-- A dial of the slot ends. -/
  | dialed (slot : SlotId) (outcome : Dialed F)
  /-- The slot's sleep before the next dial ends. -/
  | redial (slot : SlotId)
  /-- The permit of a slot with an opened link reports it. -/
  | succeed (slot : SlotId)
  /-- The future of a running attempt is dropped, and its permit with it. -/
  | abandon (slot : SlotId)
  /-- A slot whose permit is gone is dropped. -/
  | dropSlot (slot : SlotId)
  /-- A checkout takes the link parked in its slot, or closes one of another key. -/
  | claim (server : ServerId) (key : K)
  /-- A link that failed its epoch check leaves its pool. -/
  | deactivate (server : ServerId) (key : K)
  /-- A link is given back; the last argument says whether its slot was revoked meanwhile. -/
  | checkIn (server : ServerId) (key : K) (closing : Bool)
  /-- A checked-out link is discarded or severed. -/
  | discard (server : ServerId) (key : K)
  /-- The parked links of superseded epochs are severed. -/
  | severSuperseded (severed : List ServerId)
  /-- The idle sweep, with the links it reaps. -/
  | reapIdle (reaped : List ServerId)
  deriving DecidableEq, Repr

namespace World

variable {K F : Type} [LinearOrder K]

/-! ### The sections -/

def new (loginRetry : Nat) : World K F where
  now := 0
  loginRetry := loginRetry
  pools := OrderedMap.empty
  gates := OrderedMap.empty
  nextGate := 0
  parked := OrderedMap.empty
  slots := OrderedMap.empty
  nextSlot := 0

/-- The pool of a key, made if there is none. -/
def pool (w : World K F) (key : K) : Pool × World K F :=
  match w.pools.get? key with
  | some pool => (pool, w)
  | none =>
    (Pool.new w.nextGate, { w with
      pools := w.pools.insert key (Pool.new w.nextGate)
      gates := w.gates.insert w.nextGate (ConnectGate.new w.loginRetry)
      nextGate := w.nextGate + 1 })

/-- Changes the links of a pool. -/
def storeLinks (w : World K F) (key : K) (pool : Pool) (idle active : OrderedSet ServerId) :
    World K F :=
  { w with pools := w.pools.insert key { pool with idle := idle, active := active } }

/-- Takes a link out of its pool's idle set. -/
def removeIdle (w : World K F) (key : K) (server : ServerId) : World K F :=
  match w.pools.get? key with
  | some pool => w.storeLinks key pool (pool.idle.erase server) pool.active
  | none => w

/-- Takes a link out of its pool's active set. -/
def removeActive (w : World K F) (key : K) (server : ServerId) : World K F :=
  match w.pools.get? key with
  | some pool => w.storeLinks key pool pool.idle (pool.active.erase server)
  | none => w

/-- Records a link as held by a client, in a pool made for it if need be. -/
def insertActive (w : World K F) (key : K) (server : ServerId) : World K F :=
  let (pool, w) := w.pool key
  w.storeLinks key pool pool.idle (pool.active.insert server)

def claim (w : World K F) (server : ServerId) (key : K) : World K F :=
  match w.parked.get? server with
  | none => w
  | some held =>
    let w := ({ w with parked := w.parked.erase server }).removeIdle held server
    if held = key then w.insertActive held server else w

def park (w : World K F) (server : ServerId) (key : K) : World K F :=
  let (pool, w) := w.pool key
  let w := w.storeLinks key pool (pool.idle.insert server) (pool.active.erase server)
  { w with parked := w.parked.insert server key }

def unpark (w : World K F) (server : ServerId) : World K F :=
  match w.parked.get? server with
  | none => w
  | some key =>
    (({ w with parked := w.parked.erase server }).removeIdle key server).removeActive key server

def checkIn (w : World K F) (server : ServerId) (key : K) (closing : Bool) : World K F :=
  if closing then (w.park server key).unpark server else w.park server key

def discard (w : World K F) (server : ServerId) (key : K) : World K F :=
  (w.removeActive key server).removeIdle key server

def unparkAll (w : World K F) (servers : List ServerId) : World K F := servers.foldl unpark w

/-- Drops the state of every pool that holds nothing, its gate included. -/
def forgetEmptyPools (w : World K F) : World K F :=
  { w with pools := w.pools.filter fun _ pool => !pool.isEmpty }

def reapIdle (w : World K F) (reaped : List ServerId) : World K F :=
  (w.unparkAll reaped).forgetEmptyPools

/-- One round of the loop in `gated_open`, under the manager's lock. -/
def gatedOpen (w : World K F) (key : K) (server : ServerId) : Option (Gated F × World K F) :=
  let (pool, w) := w.pool key
  (w.gates.get? pool.gate).map fun gate =>
    match gate.tryStart w.now with
    | (.start, gate) =>
      (.opened w.nextSlot, { w with
        gates := w.gates.insert pool.gate gate
        slots := w.slots.insert w.nextSlot ⟨key, server, pool.gate, .dialling 1⟩
        nextSlot := w.nextSlot + 1 })
    | (.alreadyInFlight, _) => (.wait, w)
    | (.backingOff failure, _) => (.refused failure, w)

/-- Moves a slot on without touching its permit. -/
def restage (w : World K F) (id : SlotId) (slot : ConnectSlot K) (stage : Stage) : World K F :=
  { w with slots := w.slots.insert id { slot with stage := stage } }

/-- Takes the permit out of a slot and settles it. -/
def settle (w : World K F) (id : SlotId) (slot : ConnectSlot K)
    (report : ConnectGate F → ConnectGate F) : Option (World K F) :=
  (w.gates.get? slot.gate).map fun gate =>
    ({ w with gates := w.gates.insert slot.gate (report gate) }).restage id slot .settled

/-- How often `open_transiently` dials. -/
def attempts : Nat := 5

/-- A dial ends: the link joins its pool, or the dial is repeated after a sleep, or the permit
reports the failure. -/
def dialed (w : World K F) (id : SlotId) (outcome : Dialed F) : Option (World K F) :=
  (w.slots.get? id).bind fun slot =>
    match slot.stage, outcome with
    | .dialling _, .connected =>
      some ((w.insertActive slot.key slot.server).restage id slot .linked)
    | .dialling attempt, .failed failure transport =>
      if attempt < attempts ∧ transport = true then
        some (w.restage id slot (.sleeping attempt))
      else w.settle id slot fun gate => gate.failed failure w.now
    | _, _ => none

def redial (w : World K F) (id : SlotId) : Option (World K F) :=
  (w.slots.get? id).bind fun slot =>
    match slot.stage with
    | .sleeping attempt => some (w.restage id slot (.dialling (attempt + 1)))
    | _ => none

def succeed (w : World K F) (id : SlotId) : Option (World K F) :=
  (w.slots.get? id).bind fun slot =>
    match slot.stage with
    | .linked => w.settle id slot ConnectGate.succeeded
    | _ => none

def abandon (w : World K F) (id : SlotId) : Option (World K F) :=
  (w.slots.get? id).bind fun slot =>
    match slot.stage with
    | .dialling _ | .sleeping _ => w.settle id slot ConnectGate.dropped
    | _ => none

/-- Wakes the clients queued behind the slot, through the pool that has its key by now. -/
def dropSlot (w : World K F) (id : SlotId) : Option (World K F) :=
  (w.slots.get? id).bind fun slot =>
    match slot.stage with
    | .settled =>
      let (_, w) := w.pool slot.key
      some { w with slots := w.slots.erase id }
    | _ => none

def next (w : World K F) : Step K F → Option (World K F)
  | .tick elapsed => some { w with now := w.now + elapsed }
  | .gatedOpen key server => (w.gatedOpen key server).map Prod.snd
  | .dialed slot outcome => w.dialed slot outcome
  | .redial slot => w.redial slot
  | .succeed slot => w.succeed slot
  | .abandon slot => w.abandon slot
  | .dropSlot slot => w.dropSlot slot
  | .claim server key => some (w.claim server key)
  | .deactivate server key => some (w.removeActive key server)
  | .checkIn server key closing => some (w.checkIn server key closing)
  | .discard server key => some (w.discard server key)
  | .severSuperseded severed => some (w.unparkAll severed)
  | .reapIdle reaped => some (w.reapIdle reaped)

/-- Runs of the pools of one manager. -/
def system (K F : Type) [LinearOrder K] : System (World K F) (Step K F) where
  init := fun w => ∃ loginRetry, w = new loginRetry
  step := fun w step w' => w.next step = some w'

/-! ### What a section does to the gates -/

/-- Every pool has a gate, and the numbers to come are free. -/
structure Allocated (w : World K F) : Prop where
  pools : ∀ key pool, w.pools.get? key = some pool → ∃ gate, w.gates.get? pool.gate = some gate
  gates : ∀ id gate, w.gates.get? id = some gate → id < w.nextGate
  slots : ∀ id slot, w.slots.get? id = some slot → id < w.nextSlot

/-- A section that only looks after links: it may make a pool, but takes none away, and leaves
every gate and every attempt as it was. -/
structure Tends (w w' : World K F) : Prop where
  now : w'.now = w.now
  slots : w'.slots = w.slots
  pools : ∀ key pool, w.pools.get? key = some pool →
    ∃ pool', w'.pools.get? key = some pool' ∧ pool'.gate = pool.gate
  gates : ∀ id gate, w.gates.get? id = some gate → w'.gates.get? id = some gate
  allocated : w.Allocated → w'.Allocated

namespace Tends

lemma refl (w : World K F) : w.Tends w where
  now := rfl
  slots := rfl
  pools := fun _ pool hpool => ⟨pool, hpool, rfl⟩
  gates := fun _ _ => id
  allocated := id

lemma trans {u v w : World K F} (h : u.Tends v) (h' : v.Tends w) : u.Tends w where
  now := h'.now.trans h.now
  slots := h'.slots.trans h.slots
  pools := by
    intro key pool hpool
    obtain ⟨middle, hmiddle, hsame⟩ := h.pools key pool hpool
    obtain ⟨last, hlast, hsame'⟩ := h'.pools key middle hmiddle
    exact ⟨last, hlast, hsame'.trans hsame⟩
  gates := fun id gate hgate => h'.gates id gate (h.gates id gate hgate)
  allocated := fun hw => h'.allocated (h.allocated hw)

/-- Parked links are no part of it. -/
lemma parked (w : World K F) (parked : OrderedMap ServerId K) :
    w.Tends { w with parked := parked } where
  now := rfl
  slots := rfl
  pools := fun _ pool hpool => ⟨pool, hpool, rfl⟩
  gates := fun _ _ => id
  allocated := fun h => ⟨h.pools, h.gates, h.slots⟩

lemma storeLinks {w : World K F} {key : K} {pool : Pool} (hpool : w.pools.get? key = some pool)
    (idle active : OrderedSet ServerId) : w.Tends (w.storeLinks key pool idle active) where
  now := rfl
  slots := rfl
  pools := by
    intro other found hfound
    unfold World.storeLinks
    rw [get?_insert]
    by_cases hkey : other = key
    · subst hkey
      rw [if_pos rfl]
      rw [hpool] at hfound
      cases hfound
      exact ⟨_, rfl, rfl⟩
    · rw [if_neg hkey]
      exact ⟨found, hfound, rfl⟩
  gates := fun _ _ => id
  allocated := by
    intro h
    refine ⟨?_, h.gates, h.slots⟩
    intro other found hfound
    rcases get?_insert_cases hfound with ⟨_, rfl⟩ | ⟨_, hold⟩
    · exact h.pools key pool hpool
    · exact h.pools other found hold

section

variable (w : World K F)
include w

/-- A pool made for a key gets a gate nobody has. -/
lemma pool (hw : w.Allocated) (key : K) :
    w.Tends (w.pool key).2 ∧ (w.pool key).2.pools.get? key = some (w.pool key).1 := by
  unfold World.pool
  cases hpool : w.pools.get? key with
  | some pool => exact ⟨refl w, hpool⟩
  | none =>
    have hfresh id gate : w.gates.get? id = some gate → id ≠ w.nextGate := by
      intro hgate
      exact ne_of_lt (hw.gates id gate hgate)
    have hgates id gate : w.gates.get? id = some gate →
        (w.gates.insert w.nextGate (ConnectGate.new w.loginRetry)).get? id = some gate := by
      intro hgate
      rw [get?_insert_of_ne _ _ (hfresh id gate hgate)]
      exact hgate
    refine ⟨⟨rfl, rfl, ?_, hgates, fun _ => ⟨?_, ?_, hw.slots⟩⟩, get?_insert_self _ _ _⟩
    · intro other found hfound
      have hother : other ≠ key := by
        rintro rfl
        rw [hpool] at hfound
        cases hfound
      exact ⟨found, (get?_insert_of_ne _ _ hother).trans hfound, rfl⟩
    · intro other found hfound
      rcases get?_insert_cases hfound with ⟨_, rfl⟩ | ⟨_, hold⟩
      · exact ⟨_, get?_insert_self _ _ _⟩
      · obtain ⟨gate, hgate⟩ := hw.pools other found hold
        exact ⟨gate, hgates _ gate hgate⟩
    · intro id gate hgate
      rcases get?_insert_cases hgate with ⟨rfl, _⟩ | ⟨_, hold⟩
      · exact Nat.lt_succ_self _
      · exact Nat.lt_succ_of_lt (hw.gates id gate hold)

lemma removeIdle (key : K) (server : ServerId) : w.Tends (w.removeIdle key server) := by
  unfold World.removeIdle
  cases hpool : w.pools.get? key with
  | some pool => exact storeLinks hpool _ _
  | none => exact refl w

lemma removeActive (key : K) (server : ServerId) : w.Tends (w.removeActive key server) := by
  unfold World.removeActive
  cases hpool : w.pools.get? key with
  | some pool => exact storeLinks hpool _ _
  | none => exact refl w

lemma insertActive (hw : w.Allocated) (key : K) (server : ServerId) :
    w.Tends (w.insertActive key server) := by
  obtain ⟨htends, hpool⟩ := pool w hw key
  exact htends.trans (storeLinks hpool _ _)

lemma claim (hw : w.Allocated) (server : ServerId) (key : K) : w.Tends (w.claim server key) := by
  unfold World.claim
  cases hparked : w.parked.get? server with
  | none => exact refl w
  | some held =>
    have htends := (parked w (w.parked.erase server)).trans (removeIdle _ held server)
    dsimp only
    split
    · exact htends.trans (insertActive _ (htends.allocated hw) held server)
    · exact htends

lemma park (hw : w.Allocated) (server : ServerId) (key : K) : w.Tends (w.park server key) := by
  obtain ⟨htends, hpool⟩ := pool w hw key
  exact (htends.trans (storeLinks hpool _ _)).trans (parked _ _)

lemma unpark (server : ServerId) : w.Tends (w.unpark server) := by
  unfold World.unpark
  cases w.parked.get? server with
  | none => exact refl w
  | some key =>
    have htends := (parked w (w.parked.erase server)).trans (removeIdle _ key server)
    exact htends.trans (removeActive _ key server)

lemma checkIn (hw : w.Allocated) (server : ServerId) (key : K) (closing : Bool) : w.Tends (w.checkIn server key closing) := by
  unfold World.checkIn
  split
  · exact (park w hw server key).trans (unpark _ server)
  · exact park w hw server key

lemma discard (server : ServerId) (key : K) : w.Tends (w.discard server key) :=
  (removeActive w key server).trans (removeIdle _ key server)

end

lemma unparkAll (servers : List ServerId) (w : World K F) : w.Tends (w.unparkAll servers) := by
  induction servers generalizing w with
  | nil => exact refl w
  | cons server rest ih => exact (unpark w server).trans (ih (w.unpark server))

end Tends

/-- Everything a step can do. -/
inductive Change (w : World K F) : Step K F → World K F → Prop
  | tick (elapsed : Nat) : Change w (.tick elapsed) { w with now := w.now + elapsed }
  | tends {step : Step K F} {w' : World K F} : w.Tends w' → Change w step w'
  | sweep (reaped : List ServerId) : Change w (.reapIdle reaped) (w.reapIdle reaped)
  /-- An attempt starts through the gate of its key. -/
  | start {step : Step K F} {v : World K F} {key : K} {server : ServerId} {pool : Pool}
      {gate : ConnectGate F} :
      w.Tends v → v.pools.get? key = some pool → v.gates.get? pool.gate = some gate →
      gate.inFlight = false → gate.cachedFailure v.now = none →
      Change w step { v with
        gates := v.gates.insert pool.gate { gate with inFlight := true }
        slots := v.slots.insert v.nextSlot ⟨key, server, pool.gate, .dialling 1⟩
        nextSlot := v.nextSlot + 1 }
  /-- An attempt goes on with its permit. -/
  | restage {step : Step K F} {v : World K F} {id : SlotId} {slot : ConnectSlot K}
      {stage : Stage} :
      w.Tends v → v.slots.get? id = some slot → slot.stage.inFlight = true →
      stage.inFlight = true → Change w step (v.restage id slot stage)
  /-- An attempt gives its permit back. -/
  | settle {step : Step K F} {id : SlotId} {slot : ConnectSlot K} {gate gate' : ConnectGate F} :
      w.slots.get? id = some slot → slot.stage.inFlight = true →
      w.gates.get? slot.gate = some gate → gate'.inFlight = false →
      Change w step (({ w with gates := w.gates.insert slot.gate gate' }).restage id slot .settled)
  /-- What is left of an attempt goes away. -/
  | drop {step : Step K F} {v : World K F} {id : SlotId} {slot : ConnectSlot K} :
      w.Tends v → v.slots.get? id = some slot → slot.stage.inFlight = false →
      Change w step { v with slots := v.slots.erase id }

variable {w w' : World K F} {step : Step K F} {id : SlotId}

lemma settle_change {slot : ConnectSlot K}
    {report : ConnectGate F → ConnectGate F} (hslot : w.slots.get? id = some slot)
    (hrunning : slot.stage.inFlight) (hreport : ∀ gate, (report gate).inFlight = false)
    (h : w.settle id slot report = some w') : Change w step w' := by
  unfold settle at h
  obtain ⟨gate, hgate, rfl⟩ := map_eq_some_iff.mp h
  exact .settle hslot hrunning hgate (hreport gate)

lemma gatedOpen_change {key : K} {server : ServerId} (hw : w.Allocated)
    (h : (w.gatedOpen key server).map Prod.snd = some w') :
    Change w (.gatedOpen key server) w' := by
  obtain ⟨htends, hpool⟩ := Tends.pool w hw key
  unfold gatedOpen at h
  rw [map_map] at h
  obtain ⟨gate, hgate, hw'⟩ := map_eq_some_iff.mp h
  dsimp only [Function.comp] at hw'
  rcases ConnectGate.tryStart_cases gate (w.pool key).2.now with
    ⟨hstart, hflight, hcached⟩ | ⟨hother, _⟩
  · rw [hstart] at hw'
    rw [← hw']
    exact .start htends hpool hgate hflight hcached
  have hsame : w' = (w.pool key).2 := by
    split at hw'
    · rename_i hstart
      rw [hstart] at hother
      exact absurd rfl hother
    · exact hw'.symm
    · exact hw'.symm
  rw [hsame]
  exact .tends htends

lemma dialed_change {outcome : Dialed F} (hw : w.Allocated)
    (h : w.dialed id outcome = some w') : Change w (.dialed id outcome) w' := by
  unfold dialed at h
  obtain ⟨slot, hslot, h⟩ := bind_eq_some_iff.mp h
  cases hstage : slot.stage with
  | dialling attempt =>
    have hrunning : slot.stage.inFlight := by rw [hstage]; rfl
    rw [hstage] at h
    cases outcome with
    | connected =>
      cases h
      have htends := Tends.insertActive w hw slot.key slot.server
      rw [← htends.slots] at hslot
      exact .restage htends hslot hrunning rfl
    | failed failure transport =>
      dsimp only at h
      split at h
      · cases h
        exact .restage (Tends.refl w) hslot hrunning rfl
      · exact settle_change hslot hrunning (fun _ => rfl) h
  | _ =>
    rw [hstage] at h
    cases h

lemma next_change (hw : w.Allocated) (h : w.next step = some w') : Change w step w' := by
  cases step with
  | tick elapsed =>
    cases h
    exact .tick elapsed
  | gatedOpen key server => exact gatedOpen_change hw h
  | dialed slot outcome => exact dialed_change hw h
  | redial id =>
    change w.redial id = some w' at h
    unfold redial at h
    obtain ⟨slot, hslot, h⟩ := bind_eq_some_iff.mp h
    cases hstage : slot.stage with
    | sleeping attempt =>
      rw [hstage] at h
      cases h
      exact .restage (Tends.refl w) hslot (by rw [hstage]; rfl) rfl
    | _ =>
      rw [hstage] at h
      cases h
  | succeed id =>
    change w.succeed id = some w' at h
    unfold succeed at h
    obtain ⟨slot, hslot, h⟩ := bind_eq_some_iff.mp h
    cases hstage : slot.stage with
    | linked =>
      rw [hstage] at h
      exact settle_change hslot (by rw [hstage]; rfl) (fun _ => rfl) h
    | _ =>
      rw [hstage] at h
      cases h
  | abandon id =>
    change w.abandon id = some w' at h
    unfold abandon at h
    obtain ⟨slot, hslot, h⟩ := bind_eq_some_iff.mp h
    cases hstage : slot.stage with
    | dialling _ | sleeping _ =>
      rw [hstage] at h
      exact settle_change hslot (by rw [hstage]; rfl) (fun _ => rfl) h
    | linked | settled =>
      rw [hstage] at h
      cases h
  | dropSlot id =>
    change w.dropSlot id = some w' at h
    unfold dropSlot at h
    obtain ⟨slot, hslot, h⟩ := bind_eq_some_iff.mp h
    cases hstage : slot.stage with
    | settled =>
      rw [hstage] at h
      cases h
      have htends := (Tends.pool w hw slot.key).1
      rw [← htends.slots] at hslot
      exact .drop htends hslot (by rw [hstage]; rfl)
    | _ =>
      rw [hstage] at h
      cases h
  | claim server key =>
    cases h
    exact .tends (.claim w hw server key)
  | deactivate server key =>
    cases h
    exact .tends (.removeActive w key server)
  | checkIn server key closing =>
    cases h
    exact .tends (.checkIn w hw server key closing)
  | discard server key =>
    cases h
    exact .tends (.discard w server key)
  | severSuperseded severed =>
    cases h
    exact .tends (.unparkAll severed w)
  | reapIdle reaped =>
    cases h
    exact .sweep reaped

end World
end Connects
end PgElastic.Proxy
