import PgElastic.Pool.Reset
import PgElastic.Pool.StartupKey

/-!
# The reported variables of a session

The variable cache of the proxy and the three ways a `ParameterStatus` takes to the client of a
transaction-mode session: the greeting, the relay of a client's own traffic (`pump_backend`) and
the pool's internal statements (`run_internal`), which bring a link in line with the client at a
checkout and scrub it before it is given back.

Names and values are byte strings on the wire and texts in a cache, so the model is generic in
the byte strings and in how they are decoded.  A `ParameterStatus` is the pair of its name and its
value.  What else passes on a link changes its state in any way; other sessions change the parked
links in any way.
-/

namespace PgElastic.Proxy

open Library Option List
open PgElastic.Pool (Text ServerLink ResetStep expandOptions optionsName)

/-- Text and its encoding: strict and lossy decoding, and the bytes of a text. -/
structure Utf8 (B : Type) where
  fromUtf8 : B → Option Text
  fromUtf8Lossy : B → Text
  asBytes : Text → B
  fromUtf8_asBytes : ∀ text, fromUtf8 (asBytes text) = some text
  lossy_of_fromUtf8 : ∀ bytes text, fromUtf8 bytes = some text → fromUtf8Lossy bytes = text

namespace Variables

abbrev ParameterStatus (B : Type) := B × B

/-! ### The cache -/

/-- The parameters one process follows. -/
structure Tracked where
  names : List Text
  deriving DecidableEq, Repr

/-- The spelling under which a parameter is followed, whatever its case. -/
def Tracked.canonical (tracked : Tracked) (name : Text) : Option Text :=
  tracked.names.find? fun known =>
    decide (Pool.Text.toAsciiLowercase known = Pool.Text.toAsciiLowercase name)

/-- One side's view of the tracked parameters. -/
structure VariableCache where
  tracked : Tracked
  values : OrderedMap Text Text
  deriving DecidableEq

namespace VariableCache

def withTracked (tracked : Tracked) : VariableCache := ⟨tracked, OrderedMap.empty⟩

/-- Records a `ParameterStatus`; untracked parameters are ignored. -/
def observe {B : Type} (U : Utf8 B) (cache : VariableCache) (status : ParameterStatus B) :
    VariableCache :=
  match U.fromUtf8 status.1 with
  | none => cache
  | some name =>
    match cache.tracked.canonical name with
    | none => cache
    | some known =>
      { cache with values := cache.values.insert known (U.fromUtf8Lossy status.2) }

def observeAll {B : Type} (U : Utf8 B) (cache : VariableCache)
    (statuses : List (ParameterStatus B)) : VariableCache :=
  statuses.foldl (observe U) cache

def get (cache : VariableCache) (name : Text) : Option Text :=
  (cache.tracked.canonical name).bind cache.values.get?

end VariableCache

/-- A value as a string literal that reads the same under either string syntax. -/
def quoteLiteral (value : Text) : Text :=
  "E'".toList ++ value.flatMap (fun c =>
    if c = '\'' then ['\'', '\''] else if c = '\\' then ['\\', '\\'] else [c]) ++ ['\'']

/-- The statement that brings a server in line with a client, if they differ. -/
def syncStatement (client server : VariableCache) : Option Text :=
  let statements := client.values.entries.filterMap fun entry =>
    if server.get entry.1 = some entry.2 then none
    else some ("SET ".toList ++ entry.1 ++ " = ".toList ++ quoteLiteral entry.2)
  if statements.isEmpty then none else some ("; ".toList.intercalate statements)

/-! ### The session -/

abbrev LinkId := Nat

/-- A link the session holds, with the pool's own statement that is running on it, if any. -/
structure Conn where
  id : LinkId
  link : ServerLink Unit
  vars : VariableCache
  internal : Option Text

structure World (B : Type) where
  clientVars : VariableCache
  /-- The statuses the client has been sent, oldest first. -/
  told : List (ParameterStatus B)
  parked : OrderedMap LinkId VariableCache
  held : Option Conn

inductive Step (B : Type)
  /-- Another session gives a link back or changes a parked one. -/
  | parkElsewhere (id : LinkId) (vars : VariableCache)
  | takeElsewhere (id : LinkId)
  /-- A checkout of a parked link in some state. -/
  | checkout (id : LinkId) (link : ServerLink Unit)
  /-- A checkout that opens a link, with the statuses of its start-up. -/
  | openLink (id : LinkId) (link : ServerLink Unit) (parameters : List (ParameterStatus B))
  /-- Any other traffic on the held link. -/
  | traffic (link : ServerLink Unit)
  /-- The backend reports a parameter. -/
  | status (status : ParameterStatus B)
  /-- A step of the reset ladder begins.  Which steps a release takes is the plan's choice. -/
  | runReset (step : ResetStep)
  /-- The pool's own statement has been answered. -/
  | internalDone
  | checkIn
  | discard

section Greeting

variable {B : Type} [DecidableEq B] (U : Utf8 B)

/-- The settings a startup packet asks for, those inside `options` included. -/
def startupSettings (startup : List (B × B)) : List (B × B) :=
  startup.flatMap fun param =>
    if (U.fromUtf8 param.1).any fun name =>
        decide (Pool.Text.toAsciiLowercase name = optionsName) then
      (expandOptions (U.fromUtf8Lossy param.2)).map fun setting =>
        (U.asBytes setting.1, U.asBytes setting.2)
    else [param]

/-- A cached status, as this client asked for it. -/
def greetStatus (clientVars : VariableCache) (status : ParameterStatus B) : ParameterStatus B :=
  match clientVars.get (U.fromUtf8Lossy status.1) with
  | some wanted => if U.asBytes wanted ≠ status.2 then (status.1, U.asBytes wanted) else status
  | none => status

/-- `multiplexed`: the client is greeted with the cached statuses of its pool. -/
def greet (tracked : Tracked) (parameters : List (ParameterStatus B)) (startup : List (B × B)) :
    World B :=
  let greeted := (VariableCache.withTracked tracked).observeAll U parameters
  let clientVars := greeted.observeAll U (startupSettings U startup)
  { clientVars := clientVars
    told := parameters.map (greetStatus U clientVars)
    parked := OrderedMap.empty
    held := none }

end Greeting

namespace World

variable {B : Type} (U : Utf8 B)

/-- `ensure_backend` ends with `sync_variables`. -/
def hold (w : World B) (id : LinkId) (link : ServerLink Unit) (vars : VariableCache) : World B :=
  { w with held := some ⟨id, link, vars, syncStatement w.clientVars vars⟩ }

/-- A status on the held link.  Both relays send it to the client if the link says so; only the
relay of the client's own traffic remembers it. -/
def observeStatus (w : World B) (conn : Conn) (status : ParameterStatus B) : Option (World B) :=
  match conn.link.observeBackend .parameterStatus with
  | (.error _, _) => none
  | (.ok reaction, link) =>
    let conn := { conn with link := link, vars := conn.vars.observe U status }
    if reaction.disposition.forwards then
      some { w with
        clientVars := if conn.internal.isNone then w.clientVars.observe U status else w.clientVars
        told := w.told ++ [status]
        held := some conn }
    else some { w with held := some conn }

def next (w : World B) : Step B → Option (World B)
  | .parkElsewhere id vars => some { w with parked := w.parked.insert id vars }
  | .takeElsewhere id => some { w with parked := w.parked.erase id }
  | .checkout id link =>
    match w.held, w.parked.get? id with
    | none, some vars => some ({ w with parked := w.parked.erase id }.hold id link vars)
    | _, _ => none
  | .openLink id link parameters =>
    match w.held with
    | none =>
      some (w.hold id link
        ((VariableCache.withTracked w.clientVars.tracked).observeAll U parameters))
    | some _ => none
  | .traffic link => w.held.map fun conn => { w with held := some { conn with link := link } }
  | .status status => w.held.bind fun conn => w.observeStatus U conn status
  | .runReset step =>
    w.held.bind fun conn =>
      if conn.internal.isNone then
        some { w with held := some { conn with internal := some step.sql.toList } }
      else none
  | .internalDone => w.held.map fun conn => { w with held := some { conn with internal := none } }
  | .checkIn =>
    w.held.bind fun conn =>
      if conn.internal.isNone then
        some { w with parked := w.parked.insert conn.id conn.vars, held := none }
      else none
  | .discard => w.held.map fun _ => { w with held := none }

/-- Runs of one session from its greeting. -/
def system [DecidableEq B] (tracked : Tracked) (parameters : List (ParameterStatus B))
    (startup : List (B × B)) : System (World B) (Step B) where
  init := fun w => w = greet U tracked parameters startup
  step := fun w step w' => w.next U step = some w'

end World

/-! ### What was last reported -/

section Reports

variable {B : Type} (U : Utf8 B) (tracked : Tracked)

/-- The tracked parameter that a name on the wire stands for. -/
def reports (name : B) : Option Text := (U.fromUtf8 name).bind tracked.canonical

/-- The last value a list of statuses has for a tracked parameter. -/
def lastReported (key : Text) : List (ParameterStatus B) → Option B
  | [] => none
  | status :: rest =>
    (lastReported key rest).or (if reports U tracked status.1 = some key then some status.2 else none)

lemma lastReported_append (key : Text) (first second : List (ParameterStatus B)) :
    lastReported U tracked key (first ++ second) =
      (lastReported U tracked key second).or (lastReported U tracked key first) := by
  induction first with
  | nil => simp [lastReported]
  | cons status rest ih => rw [cons_append, lastReported, lastReported, ih, Option.or_assoc]

variable {U tracked}

variable {key : Text} {statuses : List (ParameterStatus B)}

lemma lastReported_eq_none (h : ∀ status ∈ statuses, reports U tracked status.1 ≠ some key) :
    lastReported U tracked key statuses = none := by
  induction statuses with
  | nil => rfl
  | cons status rest ih =>
    rw [lastReported, ih fun other hother => h other (mem_cons_of_mem _ hother),
      if_neg (h status mem_cons_self)]
    rfl

lemma exists_of_lastReported {value : B} (h : lastReported U tracked key statuses = some value) :
    ∃ status ∈ statuses, reports U tracked status.1 = some key := by
  by_contra hnone
  have hother : ∀ status ∈ statuses, reports U tracked status.1 ≠ some key :=
    fun status hmem heq => hnone ⟨status, hmem, heq⟩
  rw [lastReported_eq_none hother] at h
  cases h

lemma lastReported_isSome {status : ParameterStatus B} (hmem : status ∈ statuses)
    (h : reports U tracked status.1 = some key) :
    ∃ value, lastReported U tracked key statuses = some value := by
  induction statuses with
  | nil => cases hmem
  | cons first rest ih =>
    rw [lastReported]
    cases hrest : lastReported U tracked key rest with
    | some value => exact ⟨value, rfl⟩
    | none =>
      rcases mem_cons.mp hmem with rfl | hmem
      · rw [if_pos h]
        exact ⟨status.2, rfl⟩
      · obtain ⟨value, hvalue⟩ := ih hmem
        rw [hrest] at hvalue
        cases hvalue

end Reports

namespace VariableCache

variable {B : Type} {U : Utf8 B}

lemma tracked_observe (cache : VariableCache) (status : ParameterStatus B) :
    (cache.observe U status).tracked = cache.tracked := by
  unfold observe
  split
  · rfl
  · split <;> rfl

lemma get?_observe (cache : VariableCache) (status : ParameterStatus B) (key : Text) :
    (cache.observe U status).values.get? key =
      if reports U cache.tracked status.1 = some key then some (U.fromUtf8Lossy status.2)
      else cache.values.get? key := by
  unfold observe reports
  cases hname : U.fromUtf8 status.1 with
  | none => rfl
  | some name =>
    dsimp only
    rw [bind_some]
    cases hknown : cache.tracked.canonical name with
    | none => rfl
    | some known =>
      dsimp only
      rw [OrderedMap.get?_insert]
      by_cases hkey : key = known
      · rw [if_pos hkey, if_pos (congrArg some hkey.symm)]
      · rw [if_neg hkey, if_neg fun heq => hkey (some.inj heq).symm]

lemma tracked_observeAll (statuses : List (ParameterStatus B)) (cache : VariableCache) :
    (cache.observeAll U statuses).tracked = cache.tracked := by
  induction statuses generalizing cache with
  | nil => rfl
  | cons status rest ih => exact (ih (cache.observe U status)).trans (tracked_observe cache status)

/-- A cache holds what it observed last. -/
lemma get?_observeAll (statuses : List (ParameterStatus B)) (cache : VariableCache) (key : Text) :
    (cache.observeAll U statuses).values.get? key =
      ((lastReported U cache.tracked key statuses).map U.fromUtf8Lossy).or
        (cache.values.get? key) := by
  induction statuses generalizing cache with
  | nil => rfl
  | cons status rest ih =>
    change ((cache.observe U status).observeAll U rest).values.get? key = _
    rw [ih, tracked_observe, get?_observe, lastReported]
    cases lastReported U cache.tracked key rest with
    | some value => rfl
    | none =>
      split <;> rfl

end VariableCache

/-! ### The client knows what is remembered of it -/

section Greeting

variable {B : Type} [DecidableEq B] {U : Utf8 B} {tracked : Tracked} {clientVars : VariableCache}

/-- A status of the greeting keeps its name and carries the value remembered for it. -/
lemma greetStatus_eq {status : ParameterStatus B} {key wanted : Text}
    (hreports : reports U clientVars.tracked status.1 = some key)
    (hwanted : clientVars.values.get? key = some wanted) :
    greetStatus U clientVars status = (status.1, U.asBytes wanted) := by
  obtain ⟨name, hname, hkey⟩ := bind_eq_some_iff.mp hreports
  have hget : clientVars.get (U.fromUtf8Lossy status.1) = some wanted := by
    rw [U.lossy_of_fromUtf8 _ _ hname, VariableCache.get, hkey, bind_some, hwanted]
  unfold greetStatus
  rw [hget]
  dsimp only
  split
  · rfl
  · rename_i hsame
    rw [not_not.mp hsame]

lemma greetStatus_name (clientVars : VariableCache) (status : ParameterStatus B) :
    (greetStatus U clientVars status).1 = status.1 := by
  unfold greetStatus
  split
  · split <;> rfl
  · rfl

lemma lastReported_greeting {key wanted : Text}
    (hwanted : clientVars.values.get? key = some wanted) (parameters : List (ParameterStatus B)) :
    lastReported U clientVars.tracked key (parameters.map (greetStatus U clientVars)) =
      (lastReported U clientVars.tracked key parameters).map fun _ => U.asBytes wanted := by
  induction parameters with
  | nil => rfl
  | cons status rest ih =>
    rw [map_cons, lastReported, ih, lastReported, greetStatus_name]
    by_cases hreports : reports U clientVars.tracked status.1 = some key
    · rw [if_pos hreports, if_pos hreports, greetStatus_eq hreports hwanted]
      cases lastReported U clientVars.tracked key rest with
      | some value => rfl
      | none => rfl
    · rw [if_neg hreports, if_neg hreports, or_none, or_none]

/-- The greeting reports every tracked parameter the startup packet asks for. -/
def Covers (U : Utf8 B) (tracked : Tracked) (parameters : List (ParameterStatus B))
    (startup : List (B × B)) : Prop :=
  ∀ setting ∈ startupSettings U startup, ∀ key, reports U tracked setting.1 = some key →
    ∃ status ∈ parameters, reports U tracked status.1 = some key

end Greeting

namespace World

variable {B : Type} {U : Utf8 B} {tracked : Tracked} {w : World Text}

/-- What the client was last told is what is remembered of it. -/
structure Agrees (U : Utf8 B) (tracked : Tracked) (w : World B) : Prop where
  follows : w.clientVars.tracked = tracked
  told : ∀ key, lastReported U tracked key w.told = (w.clientVars.values.get? key).map U.asBytes

lemma agrees_greet [DecidableEq B] {parameters : List (ParameterStatus B)}
    {startup : List (B × B)} (hcovers : Covers U tracked parameters startup) :
    Agrees U tracked (greet U tracked parameters startup) := by
  have htracked : (greet U tracked parameters startup).clientVars.tracked = tracked :=
    (VariableCache.tracked_observeAll _ _).trans (VariableCache.tracked_observeAll _ _)
  refine ⟨htracked, ?_⟩
  intro key
  have hvalue : (greet U tracked parameters startup).clientVars.values.get? key =
      ((lastReported U tracked key (startupSettings U startup)).map U.fromUtf8Lossy).or
        ((lastReported U tracked key parameters).map U.fromUtf8Lossy) := by
    change ((VariableCache.observeAll U (VariableCache.observeAll U
      (VariableCache.withTracked tracked) parameters) _).values.get? key) = _
    rw [VariableCache.get?_observeAll, VariableCache.get?_observeAll,
      VariableCache.tracked_observeAll]
    simp [VariableCache.withTracked]
  cases hwanted : (greet U tracked parameters startup).clientVars.values.get? key with
  | some wanted =>
    have htold := lastReported_greeting (U := U) hwanted parameters
    rw [htracked] at htold
    refine htold.trans ?_
    -- A value is remembered, so the greeting has a status for it.
    have hreported : ∃ value, lastReported U tracked key parameters = some value := by
      cases hasked : lastReported U tracked key (startupSettings U startup) with
      | some value =>
        obtain ⟨setting, hsetting, hkey⟩ := exists_of_lastReported hasked
        obtain ⟨status, hstatus, hkey'⟩ := hcovers setting hsetting key hkey
        exact lastReported_isSome hstatus hkey'
      | none =>
        rw [hasked, hwanted] at hvalue
        obtain ⟨value, hvalue', _⟩ := map_eq_some_iff.mp hvalue.symm
        exact ⟨value, hvalue'⟩
    obtain ⟨value, hreported⟩ := hreported
    rw [hreported]
    rfl
  | none =>
    rw [hwanted] at hvalue
    have hnone : lastReported U tracked key parameters = none := by
      have hright := (or_eq_none_iff.mp hvalue.symm).2
      exact map_eq_none_iff.mp hright
    refine lastReported_eq_none ?_
    intro status hstatus hkey
    obtain ⟨original, horiginal, rfl⟩ := List.mem_map.mp hstatus
    rw [greetStatus_name] at hkey
    obtain ⟨value, hvalue'⟩ := lastReported_isSome horiginal hkey
    rw [hnone] at hvalue'
    cases hvalue'

/-- The values the client's own traffic reports are text, and during the pool's own statements a
tracked parameter is reported only with the value that is remembered for it. -/
def Quiet (U : Utf8 B) (w : World B) : Step B → Prop
  | .status status => ∀ conn, w.held = some conn → ∀ key,
      reports U w.clientVars.tracked status.1 = some key →
      if conn.internal.isNone then U.asBytes (U.fromUtf8Lossy status.2) = status.2
      else (w.clientVars.values.get? key).map U.asBytes = some status.2
  | _ => True

lemma agrees_observeStatus {w w' : World B} {conn : Conn} {status : ParameterStatus B}
    (hw : Agrees U tracked w) (hheld : w.held = some conn) (hquiet : Quiet U w (.status status))
    (h : w.observeStatus U conn status = some w') : Agrees U tracked w' := by
  obtain ⟨link', hlink⟩ : ∃ link',
      conn.link.observeBackend .parameterStatus = (.ok ⟨.forward, none, false⟩, link') := by
    unfold ServerLink.observeBackend
    split <;> exact ⟨_, rfl⟩
  have hcond := hquiet conn hheld
  unfold observeStatus at h
  rw [hlink] at h
  cases h
  have htold key : lastReported U tracked key (w.told ++ [status]) =
      if reports U tracked status.1 = some key then some status.2
      else lastReported U tracked key w.told := by
    rw [lastReported_append, lastReported, lastReported, none_or]
    split <;> rfl
  rw [hw.follows] at hcond
  cases hinternal : conn.internal.isNone with
  | true =>
    simp only [hinternal, if_true] at hcond ⊢
    refine ⟨(VariableCache.tracked_observe _ _).trans hw.follows, ?_⟩
    intro key
    rw [htold, VariableCache.get?_observe, hw.follows]
    split
    · rename_i hkey
      rw [map_some, hcond key hkey]
    · exact hw.told key
  | false =>
    simp only [hinternal, Bool.false_eq_true, if_false] at hcond ⊢
    refine ⟨hw.follows, ?_⟩
    intro key
    rw [htold]
    split
    · rename_i hkey
      exact (hcond key hkey).symm
    · exact hw.told key

lemma Agrees.next {w w' : World B} {step : Step B} (hw : Agrees U tracked w)
    (hquiet : Quiet U w step) (h : w.next U step = some w') : Agrees U tracked w' := by
  cases step with
  | parkElsewhere id vars | takeElsewhere id =>
    cases h
    exact ⟨hw.follows, hw.told⟩
  | checkout id link | openLink id link parameters =>
    unfold World.next at h
    dsimp only at h
    split at h
    · cases h
      exact ⟨hw.follows, hw.told⟩
    · cases h
  | traffic link | internalDone | discard =>
    obtain ⟨conn, _, rfl⟩ := map_eq_some_iff.mp h
    exact ⟨hw.follows, hw.told⟩
  | status status =>
    obtain ⟨conn, hheld, h⟩ := bind_eq_some_iff.mp h
    exact agrees_observeStatus hw hheld hquiet h
  | _ =>
    obtain ⟨conn, _, h⟩ := bind_eq_some_iff.mp h
    split at h
    · cases h
      exact ⟨hw.follows, hw.told⟩
    · cases h

/-- **The client knows what is remembered of it.**  Under a greeting that reports what the client
asked for, and in every run in which the client's own traffic reports text and the pool's own
statements report nothing new, the value the client was last told of a tracked parameter is the
value its cache holds, at every point. -/
theorem client_is_told_what_is_remembered [DecidableEq B] {parameters : List (ParameterStatus B)}
    {startup : List (B × B)} (hcovers : Covers U tracked parameters startup) {w : World B}
    (h : ((system U tracked parameters startup).restrict (Quiet U)).Reachable w) {name key : Text}
    (hname : tracked.canonical name = some key) :
    lastReported U tracked key w.told = (w.clientVars.get name).map U.asBytes := by
  have hagrees : Agrees U tracked w := by
    refine h.invariant (I := Agrees U tracked) ?_ ?_
    · rintro _ rfl
      exact agrees_greet hcovers
    · rintro u step v _ hu ⟨hquiet, hnext⟩
      exact hu.next hquiet hnext
  rw [hagrees.told key, VariableCache.get, hagrees.follows, hname, bind_some]

/-! ### Runs on fixed inputs -/

/-- Byte strings that are texts already. -/
def plainText : Utf8 Text where
  fromUtf8 := some
  fromUtf8Lossy := id
  asBytes := id
  fromUtf8_asBytes := fun _ => rfl
  lossy_of_fromUtf8 := fun _ _ h => some.inj h

def timeZoneOnly : Tracked := ⟨["TimeZone".toList]⟩

/-- A server that starts its sessions in `UTC`. -/
def inUtc : List (ParameterStatus Text) := [("TimeZone".toList, "UTC".toList)]

def quietTest (w : World Text) : Step Text → Bool
  | .status status => w.held.all fun conn =>
    conn.internal.isNone || (reports plainText w.clientVars.tracked status.1).all fun key =>
      decide (w.clientVars.values.get? key = some status.2)
  | _ => true

lemma quiet_of_test {step : Step Text} (h : quietTest w step) : Quiet plainText w step := by
  cases step with
  | status status =>
    intro conn hheld key hkey
    simp only [quietTest, hheld, all_some, Bool.or_eq_true, hkey, decide_eq_true_eq] at h
    cases hinternal : conn.internal.isNone with
    | true => exact rfl
    | false =>
      rw [hinternal] at h
      rw [if_neg (by decide), h.resolve_left (by decide)]
      rfl
  | _ => trivial

def replay (test : World Text → Step Text → Bool) (steps : List (Step Text)) :
    Option (World Text) :=
  System.run (System.guarded (next plainText) test)
    (greet plainText timeZoneOnly inUtc [("timezone".toList, "Asia/Tokyo".toList)]) steps

lemma reachable_of_replay {test : World Text → Step Text → Bool} {steps : List (Step Text)} (h : replay test steps = some w) :
    ((system plainText timeZoneOnly inUtc [("timezone".toList, "Asia/Tokyo".toList)]).restrict
      fun w step => test w step).Reachable w :=
  System.reachable_of_guarded_run (fun _ _ _ => id) rfl h

/-- A checkout brings the new link in line with what the client asked for, and the client then
sets the parameter itself. -/
def ownChange : List (Step Text) :=
  [.openLink 0 ServerLink.new inUtc, .status ("TimeZone".toList, "Asia/Tokyo".toList),
    .internalDone, .status ("TimeZone".toList, "Europe/Rome".toList)]

theorem client_is_told_what_is_remembered_ownChange : ∃ w, replay quietTest ownChange = some w ∧
      w.clientVars.get "timezone".toList = some "Europe/Rome".toList ∧
      lastReported plainText timeZoneOnly "TimeZone".toList w.told =
        (w.clientVars.get "timezone".toList).map plainText.asBytes := by
  obtain ⟨w, hw, hvalue⟩ : ∃ w, replay quietTest ownChange = some w ∧
      w.clientVars.get "timezone".toList = some "Europe/Rome".toList :=
    exists_of_any (by decide +kernel)
  have hreach := (reachable_of_replay hw).restrict_mono fun _ _ htest => quiet_of_test htest
  have hcovers : Covers plainText timeZoneOnly inUtc
      [("timezone".toList, "Asia/Tokyo".toList)] := by
    intro setting hsetting key hkey
    have hsettings : startupSettings plainText [("timezone".toList, "Asia/Tokyo".toList)] =
        [("timezone".toList, "Asia/Tokyo".toList)] := by decide +kernel
    rw [hsettings, mem_singleton] at hsetting
    subst hsetting
    refine ⟨_, mem_singleton_self _, hkey.symm.trans ?_ |>.symm⟩
    decide +kernel
  exact ⟨w, hw, hvalue, client_is_told_what_is_remembered hcovers hreach (by decide +kernel)⟩

/-- The client sets its time zone, and the reset ladder sets the link back: the client is told
the server's time zone and remembered with its own. -/
theorem reset_tells_the_client_something_else :
    ∃ w : World Text, (system plainText timeZoneOnly inUtc
        [("timezone".toList, "Asia/Tokyo".toList)]).Reachable w ∧
      lastReported plainText timeZoneOnly "TimeZone".toList w.told = some "UTC".toList ∧
      w.clientVars.get "TimeZone".toList = some "Europe/Rome".toList := by
  let steps : List (Step Text) := ownChange ++ [.runReset .discardAll,
    .status ("TimeZone".toList, "UTC".toList), .internalDone, .checkIn]
  exact (exists_of_any (x := replay (fun _ _ => true) steps) (by decide +kernel)).imp
    fun w hw => ⟨(reachable_of_replay hw.1).of_restrict, hw.2⟩

end World
end Variables
end PgElastic.Proxy
