import PgElastic.Library.OrderedMap
import PgElastic.Library.Transition

/-!
# Cancel routes

A client's cancel goes to the backend the client holds at that moment.  The session keeps the
answer in a shared cell, its `CancelRoute`: it writes the cell at every checkout and clears it
before every release.  A cancel handler raises the cell's in-flight count, reads the cell, and
holds the count up until the request is on the wire; the release path waits for the count to
drop before it gives a link back.

Sessions and handlers are separate tasks, so every access to a cell is a step of its own here,
and so is every pool section that moves a link.  Whether the release gate lets a link go, and
how a delivery ends, are choices of the run.  Instants and durations are in milliseconds.  The
address, the cancel key and the credit of a target are left out: a target stands for its link.
-/

namespace PgElastic.Proxy

open Library Option

namespace Cancels

abbrev LinkId := Nat

abbrev SessionId := Nat

abbrev CancelId := Nat

/-- How long a release waits for the cancels in flight. -/
def cancelWaitTimeout : Nat := 2000

/-- How long a delivery may take. -/
def cancelDeliveryTimeout : Nat := 1500

structure CancelRoute where
  target : Option LinkId
  inFlight : Nat
  deriving DecidableEq, Repr

/-- Where a session is between one checkout and the next. -/
inductive Phase
  | idle
  /-- A link is checked out, and the route does not name it yet. -/
  | acquired (link : LinkId)
  | held (link : LinkId)
  /-- In the loop of `settle_cancels`, since the given instant. -/
  | waiting (link : LinkId) (since : Nat)
  /-- Past `settle_cancels`: at the release gate or in the reset ladder. -/
  | releasing (link : LinkId)
  /-- The route is cleared; the link is about to be closed or to be checked in. -/
  | cleared (link : LinkId) (closing : Bool)
  | ended
  deriving DecidableEq, Repr

namespace Phase

/-- The link the session holds. -/
def link : Phase → Option LinkId
  | .idle | .ended => none
  | .acquired link | .held link | .waiting link _ | .releasing link | .cleared link _ => some link

/-- The link the route names. -/
def aim : Phase → Option LinkId
  | .held link | .waiting link _ | .releasing link => some link
  | _ => none

/-- The link the session holds and is not about to check in. -/
def keeps : Phase → Option LinkId
  | .held link | .waiting link _ | .releasing link | .cleared link true => some link
  | _ => none

/-- The session's release will still wait for a cancel that is picked up now. -/
def waitsFor (now : Nat) : Phase → Bool
  | .waiting _ since => decide (now + cancelDeliveryTimeout < since + cancelWaitTimeout)
  | .releasing _ => false
  | _ => true

lemma link_of_keeps {phase : Phase} {link : LinkId} (h : phase.keeps = some link) :
    phase.link = some link := by
  cases phase with
  | cleared held closing =>
    cases closing with
    | true => exact h
    | false => cases h
  | idle | acquired _ | ended => cases h
  | _ => exact h

/-- The link the route names is one the session keeps. -/
lemma keeps_of_aim {phase : Phase} {link : LinkId} (h : phase.aim = some link) :
    phase.keeps = some link := by
  cases phase with
  | held _ | waiting _ _ | releasing _ => exact h
  | _ => cases h

end Phase

structure Session where
  route : CancelRoute
  phase : Phase
  deriving DecidableEq, Repr

/-- How far a cancel handler has come. -/
inductive Progress
  /-- The registry knew the token. -/
  | found
  | dispatched
  | resolved (link : LinkId)
  | sent (link : LinkId)
  deriving DecidableEq, Repr

namespace Progress

/-- The handler has raised the in-flight count. -/
def counted : Progress → Bool
  | .found => false
  | _ => true

/-- The link the handler has read from the route. -/
def target : Progress → Option LinkId
  | .resolved link | .sent link => some link
  | _ => none

lemma counted_of_target {progress : Progress} {link : LinkId}
    (h : progress.target = some link) : progress.counted := by
  cases progress with
  | found => cases h
  | _ => rfl

end Progress

structure Cancel where
  session : SessionId
  /-- When the in-flight count was raised. -/
  since : Nat
  progress : Progress
  deriving DecidableEq, Repr

/-- The accesses of a session to its own route, and what it does between them. -/
inductive Turn
  /-- `ensure_backend` points the route at the new link. -/
  | setRoute
  /-- `settle_cancels` reads the count for the first time. -/
  | settle
  /-- One round of the loop in `settle_cancels`. -/
  | poll
  /-- The gate refuses, and the session keeps its link. -/
  | keep
  /-- The session ends with a pinned link whose state the reset ladder can remove. -/
  | finish
  /-- The route is cleared, to check the link in or to close it. -/
  | clearRoute (closing : Bool)
  /-- The session's registration is dropped. -/
  | deregister
  deriving DecidableEq, Repr

inductive Step
  | tick (elapsed : Nat)
  | connect
  /-- A checkout of a parked link, or of a new one. -/
  | acquire (session : SessionId) (parked : Option LinkId)
  | turn (session : SessionId) (turn : Turn)
  /-- A link whose route is cleared is checked in or closed. -/
  | giveBack (session : SessionId)
  | closeParked (link : LinkId)
  /-- A cancel request names a registered session. -/
  | lookup (session : SessionId)
  | dispatch (cancel : CancelId)
  | resolve (cancel : CancelId)
  /-- The delivery is refused, fails or times out before the request is sent. -/
  | giveUp (cancel : CancelId)
  | send (cancel : CancelId)
  /-- The handler returns after sending. -/
  | done (cancel : CancelId)
  deriving DecidableEq, Repr

structure World where
  now : Nat
  sessions : OrderedMap SessionId Session
  cancels : OrderedMap CancelId Cancel
  parked : OrderedSet LinkId
  nextSession : SessionId
  nextCancel : CancelId
  nextLink : LinkId

namespace Session

def new : Session := ⟨⟨none, 0⟩, .idle⟩

def turn (session : Session) (now : Nat) : Turn → Option Session
  | .setRoute =>
    match session.phase with
    | .acquired link => some ⟨{ session.route with target := some link }, .held link⟩
    | _ => none
  | .settle =>
    match session.phase with
    | .held link =>
      some { session with
        phase := if session.route.inFlight = 0 then .releasing link else .waiting link now }
    | _ => none
  | .poll =>
    match session.phase with
    | .waiting link since =>
      if session.route.inFlight = 0 then some { session with phase := .releasing link }
      -- The deadline passes with a cancel in flight: released anyway.
      else if since + cancelWaitTimeout ≤ now then
        some { session with phase := .releasing link }
      else some session
    | _ => none
  | .keep =>
    match session.phase with
    | .releasing link => some { session with phase := .held link }
    | _ => none
  | .finish =>
    match session.phase with
    | .held link => some { session with phase := .releasing link }
    | _ => none
  | .clearRoute closing =>
    match session.phase with
    | .releasing link =>
      some ⟨{ session.route with target := none }, .cleared link closing⟩
    | .held link | .waiting link _ =>
      if closing then some ⟨{ session.route with target := none }, .cleared link true⟩
      else none
    | _ => none
  | .deregister =>
    match session.phase with
    | .idle => some { session with phase := .ended }
    | _ => none

/-- What a session's own step can do. -/
structure Turned (session : Session) (now : Nat) (turn : Turn) (after : Session) : Prop where
  link : after.phase.link = session.phase.link
  inFlight : after.route.inFlight = session.route.inFlight
  aim : session.route.target = session.phase.aim → after.route.target = after.phase.aim
  /-- A release is under way only once the count was read as zero, or without reading it. -/
  releasing : ∀ link, after.phase = .releasing link → session.route.inFlight = 0 ∨
    turn = .finish ∨ ∃ since, session.phase = .waiting link since ∧ since + cancelWaitTimeout ≤ now
  waiting : ∀ link since, after.phase = .waiting link since →
    since = now ∨ session.phase = .waiting link since
  /-- Only a release takes a link away. -/
  keeps : ∀ link, session.phase.keeps = some link → after.phase.keeps = some link ∨
    session.phase = .releasing link

lemma turned_of_turn {session after : Session} {now : Nat} {turn : Turn}
    (h : session.turn now turn = some after) : session.Turned now turn after := by
  obtain ⟨route, phase⟩ := session
  cases turn with
  | setRoute =>
    cases phase <;> cases h
    exact ⟨rfl, rfl, fun _ => rfl, by rintro _ ⟨⟩, by rintro _ _ ⟨⟩, by rintro _ ⟨⟩⟩
  | settle =>
    cases phase <;> cases h
    rename_i held
    by_cases hzero : route.inFlight = 0
    · simp only [if_pos hzero]
      exact ⟨rfl, rfl, id, fun _ _ => .inl hzero, by rintro _ _ ⟨⟩, fun _ hkeeps => .inl hkeeps⟩
    simp only [if_neg hzero]
    refine ⟨rfl, rfl, id, by rintro _ ⟨⟩, ?_, fun _ hkeeps => .inl hkeeps⟩
    rintro link since ⟨⟩
    exact .inl rfl
  | poll =>
    cases phase <;> try cases h
    rename_i held since
    change (if route.inFlight = 0 then _ else _) = some after at h
    split at h
    · rename_i hzero
      cases h
      exact ⟨rfl, rfl, id, fun _ _ => .inl hzero, by rintro _ _ ⟨⟩, fun _ hkeeps => .inl hkeeps⟩
    split at h
    · rename_i hlate
      cases h
      refine ⟨rfl, rfl, id, ?_, by rintro _ _ ⟨⟩, fun _ hkeeps => .inl hkeeps⟩
      rintro link ⟨⟩
      exact .inr (.inr ⟨since, rfl, hlate⟩)
    · cases h
      exact ⟨rfl, rfl, id, by rintro _ ⟨⟩, fun _ _ hsame => .inr hsame, fun _ hkeeps => .inl hkeeps⟩
  | keep =>
    cases phase <;> cases h
    exact ⟨rfl, rfl, id, by rintro _ ⟨⟩, by rintro _ _ ⟨⟩, fun _ hkeeps => .inl hkeeps⟩
  | finish =>
    cases phase <;> cases h
    exact ⟨rfl, rfl, id, fun _ _ => .inr (.inl rfl), by rintro _ _ ⟨⟩, fun _ hkeeps => .inl hkeeps⟩
  | clearRoute closing =>
    cases phase with
    | releasing held =>
      cases h
      refine ⟨rfl, rfl, fun _ => rfl, by rintro _ ⟨⟩, by rintro _ _ ⟨⟩, ?_⟩
      rintro link ⟨⟩
      exact .inr rfl
    | held held | waiting held since =>
      cases closing <;> cases h
      exact ⟨rfl, rfl, fun _ => rfl, by rintro _ ⟨⟩, by rintro _ _ ⟨⟩, fun _ hkeeps => .inl hkeeps⟩
    | _ => cases h
  | deregister =>
    cases phase <;> cases h
    exact ⟨rfl, rfl, id, by rintro _ ⟨⟩, by rintro _ _ ⟨⟩, by rintro _ ⟨⟩⟩

end Session

namespace World

/-! ### The steps -/

def new : World where
  now := 0
  sessions := OrderedMap.empty
  cancels := OrderedMap.empty
  parked := OrderedSet.empty
  nextSession := 0
  nextCancel := 0
  nextLink := 0

def setSession (w : World) (s : SessionId) (session : Session) : World :=
  { w with sessions := w.sessions.insert s session }

def acquire (w : World) (s : SessionId) (parked : Option LinkId) : Option World :=
  (w.sessions.get? s).bind fun session =>
    if session.phase = .idle then
      match parked with
      | some link =>
        if link ∈ w.parked.toList then
          some { w.setSession s { session with phase := .acquired link } with
            parked := w.parked.erase link }
        else none
      | none =>
        some { w.setSession s { session with phase := .acquired w.nextLink } with
          nextLink := w.nextLink + 1 }
    else none

def giveBack (w : World) (s : SessionId) : Option World :=
  (w.sessions.get? s).bind fun session =>
    match session.phase with
    | .cleared link closing =>
      some { w.setSession s { session with phase := .idle } with
        parked := if closing then w.parked else w.parked.insert link }
    | _ => none

def lookup (w : World) (s : SessionId) : Option World :=
  (w.sessions.get? s).bind fun session =>
    if session.phase = .ended then none
    else some { w with
      cancels := w.cancels.insert w.nextCancel ⟨s, w.now, .found⟩
      nextCancel := w.nextCancel + 1 }

/-- The in-flight count of a session's route. -/
def setInFlight (w : World) (s : SessionId) (session : Session) (count : Nat) : World :=
  w.setSession s { session with route := { session.route with inFlight := count } }

def advance (w : World) (c : CancelId) (cancel : Cancel) (progress : Progress) : World :=
  { w with cancels := w.cancels.insert c { cancel with progress := progress } }

/-- The handler returns, and its mark goes with it. -/
def retire (w : World) (c : CancelId) (cancel : Cancel) (session : Session) : World :=
  { w.setInFlight cancel.session session (session.route.inFlight - 1) with
    cancels := w.cancels.erase c }

/-- A step of a handler, with the session whose route it has. -/
def handle (w : World) (c : CancelId)
    (step : Cancel → Session → Option World) : Option World :=
  (w.cancels.get? c).bind fun cancel =>
    (w.sessions.get? cancel.session).bind fun session => step cancel session

def dispatch (w : World) (c : CancelId) : Option World :=
  w.handle c fun cancel session =>
    match cancel.progress with
    | .found =>
      some ((w.setInFlight cancel.session session (session.route.inFlight + 1)).advance c
        { cancel with since := w.now } .dispatched)
    | _ => none

def resolve (w : World) (c : CancelId) : Option World :=
  w.handle c fun cancel session =>
    match cancel.progress with
    | .dispatched =>
      match session.route.target with
      | some link => some (w.advance c cancel (.resolved link))
      | none => some (w.retire c cancel session)
    | _ => none

def giveUp (w : World) (c : CancelId) : Option World :=
  w.handle c fun cancel session =>
    match cancel.progress with
    | .resolved _ => some (w.retire c cancel session)
    | _ => none

def send (w : World) (c : CancelId) : Option World :=
  w.handle c fun cancel _ =>
    match cancel.progress with
    | .resolved link => some (w.advance c cancel (.sent link))
    | _ => none

def done (w : World) (c : CancelId) : Option World :=
  w.handle c fun cancel session =>
    match cancel.progress with
    | .sent _ => some (w.retire c cancel session)
    | _ => none

def next (w : World) : Step → Option World
  | .tick elapsed => some { w with now := w.now + elapsed }
  | .connect => some { w.setSession w.nextSession Session.new with
      nextSession := w.nextSession + 1 }
  | .acquire s parked => w.acquire s parked
  | .turn s turn =>
    (w.sessions.get? s).bind fun session => (session.turn w.now turn).map (w.setSession s)
  | .giveBack s => w.giveBack s
  | .closeParked link => some { w with parked := w.parked.erase link }
  | .lookup s => w.lookup s
  | .dispatch c => w.dispatch c
  | .resolve c => w.resolve c
  | .giveUp c => w.giveUp c
  | .send c => w.send c
  | .done c => w.done c

/-- Runs of the sessions, the cancel handlers and the pool behind them. -/
def system : System World Step where
  init := fun w => w = new
  step := fun w step w' => w.next step = some w'

/-! ### What a step can do -/

/-- Which link a session holds. -/
def linkOf (w : World) (s : SessionId) : Option LinkId :=
  (w.sessions.get? s).bind (·.phase.link)

/-- The link is neither in the pool nor with a session. -/
def Closed (w : World) (link : LinkId) : Prop :=
  link ∉ w.parked ∧ ∀ s, w.linkOf s ≠ some link

/-- Everything a step can do. -/
inductive Change (w : World) : Step → World → Prop
  | tick (elapsed : Nat) : Change w (.tick elapsed) { w with now := w.now + elapsed }
  | connect : Change w .connect { w.setSession w.nextSession Session.new with
      nextSession := w.nextSession + 1 }
  | claim {s : SessionId} {session : Session} {link : LinkId} :
      w.sessions.get? s = some session → session.phase = .idle → link ∈ w.parked →
      Change w (.acquire s (some link))
        { w.setSession s { session with phase := .acquired link } with
          parked := w.parked.erase link }
  | opened {s : SessionId} {session : Session} :
      w.sessions.get? s = some session → session.phase = .idle →
      Change w (.acquire s none)
        { w.setSession s { session with phase := .acquired w.nextLink } with
          nextLink := w.nextLink + 1 }
  | turn {s : SessionId} {turn : Turn} {session after : Session} :
      w.sessions.get? s = some session → session.Turned w.now turn after →
      Change w (.turn s turn) (w.setSession s after)
  | giveBack {s : SessionId} {session : Session} {link : LinkId} {closing : Bool} :
      w.sessions.get? s = some session → session.phase = .cleared link closing →
      Change w (.giveBack s) { w.setSession s { session with phase := .idle } with
        parked := if closing then w.parked else w.parked.insert link }
  | closeParked (link : LinkId) :
      Change w (.closeParked link) { w with parked := w.parked.erase link }
  | lookup {s : SessionId} {session : Session} : w.sessions.get? s = some session →
      Change w (.lookup s) { w with
        cancels := w.cancels.insert w.nextCancel ⟨s, w.now, .found⟩
        nextCancel := w.nextCancel + 1 }
  | dispatch {c : CancelId} {cancel : Cancel} {session : Session} :
      w.cancels.get? c = some cancel → w.sessions.get? cancel.session = some session →
      cancel.progress = .found →
      Change w (.dispatch c)
        ((w.setInFlight cancel.session session (session.route.inFlight + 1)).advance c
          { cancel with since := w.now } .dispatched)
  /-- The handler reads the route, or sends what it has read. -/
  | advance {step : Step} {c : CancelId} {cancel : Cancel} {session : Session}
      {progress : Progress} :
      w.cancels.get? c = some cancel → w.sessions.get? cancel.session = some session →
      cancel.progress.counted = true → progress.counted = true →
      progress.target = session.route.target ∨ progress.target = cancel.progress.target →
      Change w step (w.advance c cancel progress)
  | retire {step : Step} {c : CancelId} {cancel : Cancel} {session : Session} :
      w.cancels.get? c = some cancel → w.sessions.get? cancel.session = some session →
      cancel.progress.counted = true → Change w step (w.retire c cancel session)

variable {w w' : World} {step : Step}

lemma handle_eq_some {c : CancelId} {step : Cancel → Session → Option World}
    (h : w.handle c step = some w') : ∃ cancel session, w.cancels.get? c = some cancel ∧
      w.sessions.get? cancel.session = some session ∧ step cancel session = some w' := by
  unfold handle at h
  obtain ⟨cancel, hcancel, h⟩ := bind_eq_some_iff.mp h
  obtain ⟨session, hsession, h⟩ := bind_eq_some_iff.mp h
  exact ⟨cancel, session, hcancel, hsession, h⟩

lemma acquire_change {s : SessionId} {parked : Option LinkId} (h : w.acquire s parked = some w') :
    w.Change (.acquire s parked) w' := by
  unfold acquire at h
  obtain ⟨session, hsession, h⟩ := bind_eq_some_iff.mp h
  split at h
  · rename_i hidle
    cases parked with
    | none =>
      cases h
      exact .opened hsession hidle
    | some link =>
      dsimp only at h
      split at h
      · rename_i hparked
        cases h
        exact .claim hsession hidle (OrderedSet.mem_toList.mp hparked)
      · cases h
  · cases h

/-- What is left for a handler to do depends on its progress only. -/
lemma handler_change (h : w.next step = some w')
    (hstep : (∃ c, step = .resolve c) ∨ (∃ c, step = .giveUp c) ∨ (∃ c, step = .send c) ∨
      ∃ c, step = .done c) : w.Change step w' := by
  rcases hstep with ⟨c, rfl⟩ | ⟨c, rfl⟩ | ⟨c, rfl⟩ | ⟨c, rfl⟩
  all_goals obtain ⟨cancel, session, hcancel, hsession, h⟩ := handle_eq_some h
  · cases hprogress : cancel.progress with
    | dispatched =>
      have hcounted : cancel.progress.counted := by rw [hprogress]; rfl
      rw [hprogress] at h
      cases htarget : session.route.target with
      | some link =>
        rw [htarget] at h
        cases h
        exact .advance hcancel hsession hcounted rfl (.inl htarget.symm)
      | none =>
        rw [htarget] at h
        cases h
        exact .retire hcancel hsession hcounted
    | _ =>
      rw [hprogress] at h
      cases h
  · cases hprogress : cancel.progress with
    | resolved link =>
      rw [hprogress] at h
      cases h
      exact .retire hcancel hsession (by rw [hprogress]; rfl)
    | _ =>
      rw [hprogress] at h
      cases h
  · cases hprogress : cancel.progress with
    | resolved link =>
      rw [hprogress] at h
      cases h
      refine .advance hcancel hsession (by rw [hprogress]; rfl) rfl (.inr ?_)
      rw [hprogress]
      rfl
    | _ =>
      rw [hprogress] at h
      cases h
  · cases hprogress : cancel.progress with
    | sent link =>
      rw [hprogress] at h
      cases h
      exact .retire hcancel hsession (by rw [hprogress]; rfl)
    | _ =>
      rw [hprogress] at h
      cases h

lemma next_change (h : w.next step = some w') : w.Change step w' := by
  cases step with
  | tick elapsed =>
    cases h
    exact .tick elapsed
  | connect =>
    cases h
    exact .connect
  | acquire s parked => exact acquire_change h
  | turn s turn =>
    obtain ⟨session, hsession, h⟩ := bind_eq_some_iff.mp h
    obtain ⟨after, hafter, rfl⟩ := map_eq_some_iff.mp h
    exact .turn hsession (Session.turned_of_turn hafter)
  | giveBack s =>
    obtain ⟨session, hsession, h⟩ := bind_eq_some_iff.mp h
    cases hphase : session.phase with
    | cleared link closing =>
      rw [hphase] at h
      cases h
      exact .giveBack hsession hphase
    | _ =>
      rw [hphase] at h
      cases h
  | closeParked link =>
    cases h
    exact .closeParked link
  | lookup s =>
    obtain ⟨session, hsession, h⟩ := bind_eq_some_iff.mp h
    split at h
    · cases h
    · cases h
      exact .lookup hsession
  | dispatch c =>
    obtain ⟨cancel, session, hcancel, hsession, h⟩ := handle_eq_some h
    cases hprogress : cancel.progress with
    | found =>
      rw [hprogress] at h
      cases h
      exact .dispatch hcancel hsession hprogress
    | _ =>
      rw [hprogress] at h
      cases h
  | resolve c => exact handler_change h (.inl ⟨c, rfl⟩)
  | giveUp c => exact handler_change h (.inr (.inl ⟨c, rfl⟩))
  | send c => exact handler_change h (.inr (.inr (.inl ⟨c, rfl⟩)))
  | done c => exact handler_change h (.inr (.inr (.inr ⟨c, rfl⟩)))

end World
end Cancels
end PgElastic.Proxy
