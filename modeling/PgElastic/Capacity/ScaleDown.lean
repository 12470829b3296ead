import PgElastic.Capacity.Migration

/-!
# Scale-downs

`drain_to` closes idle servers down to its target and marks active ones for what is still
above it.  The servers that are marked already are not taken off that excess, so a second
call marks further ones (`second_drain_marks_the_rest`).  `drain_to_is_exact` says when one
call leaves exactly as many unmarked servers as the target asks and a second changes nothing:
it counts the servers before the call, by state and by mark, and the unmarked ones among the
idle servers the loop is going to close.
-/

namespace PgElastic.Capacity

open Library Option OrderedMap List

variable {T : Type} [LinearOrder T]

/-- The server is in use and not marked. -/
def ServerConn.usedUnmarked (conn : ServerConn T) : Bool := conn.state = .active && !conn.closeNeeded

namespace Allocator

/-- The live servers that pass a test; cancels are not counted as live. -/
def liveWhere (a : Allocator T) (test : ServerConn T → Bool) : Nat :=
  countServers a.servers fun conn => conn.credit ≠ .cancel && test conn

/-- The live servers that are not to be closed. -/
def spared (a : Allocator T) : Nat := a.liveWhere fun conn => !conn.closeNeeded

/-- The next `n` servers of a list that the closing loop takes. -/
def leastRecent : Nat → List (ServerConn T) → List (ServerConn T)
  | 0, _ => []
  | n + 1, idle =>
    match minByKey (·.seq) idle with
    | none => []
    | some conn => conn :: leastRecent n (idle.filter fun other => other.id ≠ conn.id)

/-- The unmarked servers among those the closing loop takes. -/
def surrendered (a : Allocator T) (target : Nat) : Nat :=
  (leastRecent (a.budget.liveTotal - target)
    (a.servers.values.filter fun conn => conn.state = .idle)).countP fun conn => !conn.closeNeeded

/-- Either the idle servers are enough to reach the target and those closed are as many unmarked
ones as are above it, or as many servers as the target are in use and marked, and all unmarked
ones are to go. -/
def Drainable (a : Allocator T) (target : Nat) : Prop :=
  (a.budget.liveTotal ≤ target + a.liveWhere (fun conn => conn.state = .idle) ∧
      a.surrendered target = a.spared - target) ∨
    (target ≤ a.liveWhere (fun conn => conn.state = .active && conn.closeNeeded) ∧
      (a.spared = 0 ∨ target = 0))

instance (a : Allocator T) (target : Nat) : Decidable (a.Drainable target) :=
  inferInstanceAs (Decidable (_ ∨ _))

variable {a : Allocator T} {target : Nat}

/-- The budget's total is the number of live servers in the table. -/
lemma liveTotal_eq_liveWhere (hc : a.Consistent) :
    a.budget.liveTotal = a.liveWhere fun _ => true := by
  have hrows : a.budget.liveTotal = sumOf (fun t _ => sumOf (fun _ conn =>
      if ServerConn.liveOf t conn then 1 else 0) a.servers) a.budget.tenants := by
    rw [hc.budget.liveTotal]
    refine sumOf_congr fun t entry hentry => ?_
    obtain ⟨rt, hrt⟩ := hc.runtime hentry
    exact (hc.row t rt entry hrt hentry).live
  rw [hrows, sumOf_comm, liveWhere, countServers]
  refine sumOf_congr fun id conn hconn => ?_
  -- a server counts in the row of its tenant and in no other
  obtain ⟨-, entry, -, hentry, -⟩ := hc.owner hconn
  rw [← sumOf_erase _ _ conn.tenant, hentry, sumOf_eq_zero_iff.mpr]
  · simp [ServerConn.liveOf]
  · intro t _ ht
    simp [ServerConn.liveOf, (get?_of_erase ht).1.symm]

/-- A count splits along a second test. -/
lemma liveWhere_split (a : Allocator T) (p q : ServerConn T → Bool) :
    a.liveWhere p = a.liveWhere (fun conn => p conn && q conn) +
      a.liveWhere fun conn => p conn && !q conn := by
  unfold liveWhere countServers
  rw [← sumOf_add]
  refine sumOf_congr fun id conn _ => ?_
  cases hp : p conn <;> cases hq : q conn <;> simp [hp, hq]

/-- The live servers, by state and by mark. -/
lemma liveTotal_split (hc : a.Consistent) : a.budget.liveTotal =
    a.liveWhere (fun conn => conn.state = .idle) + a.liveWhere ServerConn.usedUnmarked +
      a.liveWhere fun conn => conn.state = .active && conn.closeNeeded := by
  rw [liveTotal_eq_liveWhere hc, liveWhere_split a _ fun conn => conn.state = .idle,
    liveWhere_split a (fun conn => true && !decide (conn.state = .idle)) (·.closeNeeded)]
  have hactive : ∀ conn : ServerConn T, (!decide (conn.state = .idle)) = decide (conn.state = .active) :=
    fun conn => by cases conn.state <;> rfl
  simp only [Bool.true_and, hactive]
  unfold ServerConn.usedUnmarked
  omega

/-- The unmarked servers, by state. -/
lemma spared_split (a : Allocator T) : a.spared =
    a.liveWhere (fun conn => conn.state = .idle && !conn.closeNeeded) +
      a.liveWhere ServerConn.usedUnmarked := by
  rw [spared, liveWhere_split a _ fun conn => conn.state = .idle]
  congr 2 <;> ext conn <;> cases hstate : conn.state <;>
    simp [ServerConn.usedUnmarked, hstate]

lemma liveWhere_idle_unmarked_le (a : Allocator T) :
    a.liveWhere (fun conn => conn.state = .idle && !conn.closeNeeded) ≤
      a.liveWhere fun conn => conn.state = .idle := by
  rw [liveWhere_split a (fun conn => conn.state = .idle) fun conn => !conn.closeNeeded]
  exact Nat.le_add_right _ _

/-- Closing an idle server takes it out of the counts it is in. -/
lemma liveWhere_of_erase {m : Allocator T} {conn : ServerConn T} (hc : a.Consistent)
    (hconn : a.servers.get? conn.id = some conn) (hidle : conn.state = .idle)
    (hservers : m.servers = a.servers.erase conn.id) (test : ServerConn T → Bool) :
    m.liveWhere test + (if test conn then 1 else 0) = a.liveWhere test := by
  have hbalance := sumOf_erase (fun _ c => if c.credit ≠ .cancel && test c then 1 else 0)
    a.servers conn.id
  simpa [hconn, liveWhere, countServers, hservers, hc.credit_of_idle hconn hidle] using hbalance

/-- Erasing a server takes it off the list of idle ones. -/
lemma idle_of_erase {m : Allocator T} {conn : ServerConn T} (hc : a.Consistent)
    (hservers : m.servers = a.servers.erase conn.id) :
    (m.servers.values.filter fun other => other.state = .idle) =
      (a.servers.values.filter fun other => other.state = .idle).filter
        fun other => other.id ≠ conn.id := by
  rw [hservers, List.filter_filter]
  unfold OrderedMap.values OrderedMap.erase eraseEntry
  rw [List.filter_map, List.filter_map, List.filter_filter]
  congr 1
  refine filter_congr fun entry hentry => ?_
  have hid := (hc.server entry.1 entry.2 ((a.servers.mem_entries_iff _ _).mp hentry)).1
  simp [hid, Bool.and_comm]

lemma no_idle_of_minByKey
    (h : minByKey (·.seq) (a.servers.values.filter fun conn => conn.state = .idle) = none) :
    a.liveWhere (fun conn => conn.state = .idle) = 0 := by
  have hempty : (a.servers.values.filter fun conn => conn.state = .idle) = [] := by
    generalize (a.servers.values.filter fun conn => conn.state = .idle) = idle at h
    cases idle with
    | nil => rfl
    | cons conn rest =>
      rw [minByKey] at h
      split at h
      · cases h
      · split at h <;> cases h
  rw [liveWhere, countServers, sumOf_eq_zero_iff]
  intro id conn hconn
  rw [filter_eq_nil_iff] at hempty
  simp [hempty conn ((mem_values_iff _ _).mpr ⟨id, hconn⟩)]

/-- What the closing loop does to the counts: it closes idle servers until the target is reached or
none is left, the least recently used first, and leaves those in use alone. -/
lemma closeIdle_counts : ∀ {fuel : Nat} {a m : Allocator T}, a.Sound →
    closeIdle target fuel a = some m →
    m.liveWhere (fun conn => conn.state = .idle) =
        a.liveWhere (fun conn => conn.state = .idle) - (a.budget.liveTotal - target) ∧
      m.liveWhere ServerConn.usedUnmarked = a.liveWhere ServerConn.usedUnmarked ∧
      m.liveWhere (fun conn => conn.state = .active && conn.closeNeeded) =
        a.liveWhere (fun conn => conn.state = .active && conn.closeNeeded) ∧
      m.spared + a.surrendered target = a.spared := by
  intro fuel
  induction fuel with
  | zero =>
    intro a m _ h
    cases h
  | succ fuel ih =>
    intro a m hs h
    rw [closeIdle] at h
    split at h
    · cases h
      rename_i hle
      simp [surrendered, leastRecent, Nat.sub_eq_zero_of_le hle]
    rename_i hgt
    obtain ⟨excess, hexcess⟩ : ∃ excess, a.budget.liveTotal - target = excess + 1 :=
      ⟨_, (Nat.succ_pred_eq_of_pos (by omega)).symm⟩
    cases hmin : minByKey (·.seq) (a.servers.values.filter fun conn => conn.state = .idle) with
    | none =>
      simp only [hmin, some.injEq] at h
      subst h
      simp [surrendered, hexcess, leastRecent, hmin, no_idle_of_minByKey hmin]
    | some conn =>
      simp only [hmin, bind_eq_bind, bind_eq_some_iff] at h
      obtain ⟨⟨found, b⟩, hclosed, hloop⟩ := h
      obtain ⟨hconn, hidle⟩ := leastIdle_spec hs.consistent hmin
      obtain ⟨hsb, hservers, -⟩ := closeServer_table hs hclosed
      have hcount := liveWhere_of_erase hs.consistent hconn hidle hservers
      have hlive := hcount fun _ => true
      rw [← liveTotal_eq_liveWhere hsb.consistent, ← liveTotal_eq_liveWhere hs.consistent,
        if_pos rfl] at hlive
      have hfewer := hcount fun conn => conn.state = .idle
      have hused := hcount ServerConn.usedUnmarked
      have hmarked := hcount fun conn => conn.state = .active && conn.closeNeeded
      have hspared := hcount fun conn => !conn.closeNeeded
      simp only [ServerConn.usedUnmarked, hidle, decide_true, if_true, reduceCtorEq, decide_false,
        Bool.false_and, Bool.false_eq_true, if_false, Nat.add_zero] at hfewer hused hmarked
      obtain ⟨hidles, hactives, hmarks, hrest⟩ := ih hsb hloop
      refine ⟨by omega, hactives.trans hused, hmarks.trans hmarked, ?_⟩
      -- the server just closed is the head of those the loop takes
      have hhead : a.surrendered target =
          b.surrendered target + if !conn.closeNeeded then 1 else 0 := by
        unfold surrendered
        rw [hexcess, leastRecent, hmin, idle_of_erase hs.consistent hservers,
          show b.budget.liveTotal - target = excess by omega]
        exact countP_cons
      unfold spared at hrest ⊢
      omega

/-- Marking takes a server out of the unmarked ones in use, and changes no other count. -/
lemma markAll_counts {servers : List ServerId} : ∀ {a b : Allocator T}, a.Sound → servers.Nodup →
    (∀ id ∈ servers, ∃ conn, a.servers.get? id = some conn ∧ conn.credit ≠ .cancel ∧
      conn.usedUnmarked) → a.markAll servers = some b →
    b.Sound ∧ b.liveWhere (fun conn => conn.state = .idle) =
        a.liveWhere (fun conn => conn.state = .idle) ∧
      b.liveWhere ServerConn.usedUnmarked + servers.length =
        a.liveWhere ServerConn.usedUnmarked ∧
      b.budget = a.budget ∧ b.spared + servers.length = a.spared := by
  induction servers with
  | nil =>
    intro a b hs _ _ h
    cases h
    exact ⟨hs, rfl, rfl, rfl, rfl⟩
  | cons id rest ih =>
    intro a b hs hnodup hall h
    obtain ⟨conn, hconn, hcredit, hunmarked⟩ := hall id mem_cons_self
    simp only [ServerConn.usedUnmarked, Bool.and_eq_true, decide_eq_true_eq,
      Bool.not_eq_true'] at hunmarked
    obtain ⟨rt, entry, hrt, -, -⟩ := hs.consistent.owner hconn
    have hmark : a.markCloseNeeded id = some (true, a.flagged id conn rt) := by
      simp [markCloseNeeded, hconn, hunmarked.2, hrt, flagged]
    have hloop : (a.flagged id conn rt).markAll rest = some b := by
      simpa [markAll, hmark] using h
    have hmove := Move.flag hconn hunmarked.2 hrt
    obtain ⟨hsb, hidle, hused, hbudget, hspared⟩ := ih (hmove.sound hs) hnodup.of_cons
      (fun other hother => by
        obtain ⟨found, hfound, htest⟩ := hall other (mem_cons_of_mem _ hother)
        refine ⟨found, ?_, htest⟩
        rw [show (a.flagged id conn rt).servers.get? other = a.servers.get? other from
          get?_insert_of_ne _ _ (ne_of_mem_of_not_mem hother (nodup_cons.mp hnodup).1)]
        exact hfound) hloop
    -- the marked server is replaced by itself with the mark
    have hcount : ∀ test : ServerConn T → Bool,
        (a.flagged id conn rt).liveWhere test + (if test conn then 1 else 0) =
          a.liveWhere test + if test { conn with closeNeeded := true } then 1 else 0 := by
      intro test
      have hbalance := sumOf_insert (fun _ c => if c.credit ≠ .cancel && test c then 1 else 0)
        a.servers id { conn with closeNeeded := true }
      simpa [hconn, liveWhere, countServers, flagged, hcredit] using hbalance
    have hidle' := hcount fun conn => conn.state = .idle
    have hused' := hcount ServerConn.usedUnmarked
    have hspared' := hcount fun conn => !conn.closeNeeded
    simp only [ServerConn.usedUnmarked, hunmarked.1, hunmarked.2, decide_true, Bool.not_false,
      Bool.not_true, Bool.and_true, Bool.and_false, if_true, Bool.false_eq_true, if_false,
      Nat.add_zero] at hidle' hused' hspared'
    unfold spared at hspared ⊢
    rw [length_cons]
    exact ⟨hsb, by omega, by omega, hbudget, by omega⟩

lemma length_unmarked (a : Allocator T) :
    a.unmarked.length = a.liveWhere ServerConn.usedUnmarked := by
  rw [unmarked, length_insertionSort, length_map, ← countP_eq_length_filter, countP_values,
    liveWhere, countServers]
  refine sumOf_congr fun id conn _ => ?_
  simp [ServerConn.usedUnmarked, Bool.and_assoc]

/-- The counts after a drain that closed idle servers and left `m`: it marks what is above the target,
as far as there are unmarked servers in use. -/
lemma markAll_unmarked {m : Allocator T} (hs : m.Sound) (excess : Nat) :
    ∃ b, m.markAll ((m.unmarked.take excess).map ServerKey.server) = some b ∧ b.Sound ∧
      b.liveWhere (fun conn => conn.state = .idle) = m.liveWhere (fun conn => conn.state = .idle) ∧
      b.liveWhere ServerConn.usedUnmarked = m.liveWhere ServerConn.usedUnmarked - excess ∧
      b.budget = m.budget ∧
      b.spared + min excess (m.liveWhere ServerConn.usedUnmarked) = m.spared := by
  obtain ⟨b, hmark, -⟩ := markAll_spec hs ((m.unmarked.take excess).map ServerKey.server)
  have hall : ∀ id ∈ (m.unmarked.take excess).map ServerKey.server,
      ∃ conn, m.servers.get? id = some conn ∧ conn.credit ≠ .cancel ∧ conn.usedUnmarked := by
    intro id hid
    obtain ⟨key, hkey, rfl⟩ := List.mem_map.mp hid
    have hkey := mem_of_mem_take hkey
    unfold unmarked at hkey
    rw [mem_insertionSort, List.mem_map] at hkey
    obtain ⟨conn, hmem, rfl⟩ := hkey
    obtain ⟨hvalue, htest⟩ := mem_filter.mp hmem
    obtain ⟨id, hid⟩ := (mem_values_iff _ _).mp hvalue
    rw [server_serverKey, (hs.consistent.server id conn hid).1]
    simp only [Bool.and_eq_true, decide_eq_true_eq] at htest
    exact ⟨conn, hid, htest.1.1, by rw [ServerConn.usedUnmarked, htest.1.2, htest.2]; rfl⟩
  obtain ⟨hsb, hidle, hused, hbudget, hspared⟩ := markAll_counts hs
    ((nodup_unmarked hs.consistent).sublist ((take_sublist _ _).map _)) hall hmark
  rw [length_map, length_take, length_unmarked] at hused hspared
  exact ⟨b, hmark, hsb, hidle, by omega, hbudget, hspared⟩

/-- A drain changes nothing exactly when it has nothing to close and nothing to mark. -/
lemma drainTo_self_iff (hs : a.Sound)
    (hclosed : a.budget.liveTotal ≤ target ∨ a.liveWhere (fun conn => conn.state = .idle) = 0) :
    (∃ n, a.drainTo target = some (n, a)) ↔
      a.budget.liveTotal ≤ target ∨ a.liveWhere ServerConn.usedUnmarked = 0 := by
  have hclose : closeIdle target (a.servers.entries.length + 1) a = some a := by
    rw [closeIdle]
    split
    · rfl
    · cases hmin : minByKey (·.seq) (a.servers.values.filter fun conn => conn.state = .idle) with
      | none => rfl
      | some conn =>
        obtain ⟨hconn, hidle⟩ := leastIdle_spec hs.consistent hmin
        have hzero := hclosed.resolve_left (by assumption)
        rw [liveWhere, countServers, sumOf_eq_zero_iff] at hzero
        have := hzero conn.id conn hconn
        simp [hidle, hs.consistent.credit_of_idle hconn hidle] at this
  obtain ⟨b, hmark, -, -, hused, -, -⟩ := markAll_unmarked hs (a.budget.liveTotal - target)
  have hdrain : a.drainTo target = some (a.budget.liveTotal - target, b) := by
    simp only [drainTo, hclose, hmark, bind_eq_bind, bind_some]
  rw [hdrain]
  constructor
  · rintro ⟨n, hsame⟩
    cases hsame
    omega
  · intro hnothing
    have hempty : a.unmarked.take (a.budget.liveTotal - target) = [] := by
      rw [take_eq_nil_iff, ← length_eq_zero_iff (l := a.unmarked), length_unmarked]
      omega
    rw [hempty] at hmark
    cases hmark
    exact ⟨_, rfl⟩

/-- A drain leaves exactly the target, or the unmarked servers there were if they are fewer, and a
second one changes nothing, if and only if the state is drainable. -/
theorem drain_to_is_exact (pool : PoolSpec) (admission : AdmissionSpec)
    (h : (system pool admission).Reachable a) :
    ∃ n b, a.drainTo target = some (n, b) ∧
      ((b.spared = min a.spared target ∧ ∃ n', b.drainTo target = some (n', b)) ↔
        a.Drainable target) := by
  have hs := reachable_sound h
  obtain ⟨m, hclose, -⟩ := closeIdle_spec target _ hs (Nat.lt_succ_self _)
  obtain ⟨hsm, -⟩ := closeIdle_table hs hclose
  obtain ⟨hidle, hused, hmarked, hspared⟩ := closeIdle_counts hs hclose
  obtain ⟨b, hmark, hsb, hidle', hused', hbudget, hspared'⟩ :=
    markAll_unmarked hsm (m.budget.liveTotal - target)
  have hdrain : a.drainTo target = some (m.budget.liveTotal - target, b) := by
    simp only [drainTo, hclose, hmark, bind_eq_bind, bind_some]
  refine ⟨_, b, hdrain, ?_⟩
  have hlive := liveTotal_split hs.consistent
  have hlive' := liveTotal_split hsm.consistent
  have hsplit := spared_split a
  have hsplit' := spared_split m
  have hle := liveWhere_idle_unmarked_le a
  have hle' := liveWhere_idle_unmarked_le m
  rw [drainTo_self_iff hsb (by rw [hbudget]; omega), hbudget]
  unfold Drainable
  by_cases henough : a.budget.liveTotal ≤ target + a.liveWhere fun conn => conn.state = .idle
  · -- closing idle servers reaches the target, and nothing is marked
    have hreached : m.budget.liveTotal ≤ target := by omega
    have hleft : b.spared + a.surrendered target = a.spared := by omega
    have hmarks : target ≤ a.liveWhere (fun conn => conn.state = .active && conn.closeNeeded) →
        a.spared = a.surrendered target := by omega
    omega
  · -- every idle server is closed, and unmarked ones in use are marked
    have hspares : b.spared = b.liveWhere ServerConn.usedUnmarked := by omega
    have hnone : b.liveWhere ServerConn.usedUnmarked = 0 ↔
        target ≤ a.liveWhere fun conn => conn.state = .active && conn.closeNeeded := by omega
    constructor
    · rintro ⟨hleft, hdone⟩
      have hzero := hdone.resolve_left (by omega)
      exact .inr ⟨hnone.mp hzero, by omega⟩
    · rintro (⟨hfew, -⟩ | ⟨hmarks, hall⟩)
      · exact absurd hfew henough
      · have hzero := hnone.mpr hmarks
        exact ⟨by omega, .inr hzero⟩

/-- The server is in use: the drain to none marks it, and there is nothing left to drain. -/
theorem drain_to_is_exact_inUseRun : ∃ (a b : Allocator Nat) (n n' : Nat),
      replay (plainPool 2) plainAdmission inUseRun = some a ∧
      a.drainTo 0 = some (n, b) ∧ b.spared = min a.spared 0 ∧ b.drainTo 0 = some (n', b) := by
  let a := (replay (plainPool 2) plainAdmission inUseRun).get (by decide)
  have ha : _ = some a := (some_get _).symm
  obtain ⟨n, b, hdrain, hexact⟩ := drain_to_is_exact (plainPool 2) plainAdmission
    (reachable_of_replay ha)
  obtain ⟨hspared, n', hagain⟩ := hexact.mpr (show a.Drainable 0 by decide)
  exact ⟨a, b, n, n', ha, hdrain, hspared, hagain⟩

/-- Two servers are in use: a drain to one marks one of them, and the same drain again the
other. -/
theorem second_drain_marks_the_rest : ∃ a b c : Allocator Nat,
      replay (plainPool 2) plainAdmission (inUseRun ++ [.connectClient 0, .tryLease 1 .normal 0]) =
        some a ∧
      a.drainTo 1 = some (1, b) ∧ b.drainTo 1 = some (1, c) ∧
      a.spared = 2 ∧ b.spared = 1 ∧ c.spared = 0 := by
  have hrun : (do
      let a ← replay (plainPool 2) plainAdmission
        (inUseRun ++ [.connectClient 0, .tryLease 1 .normal 0])
      let (n, b) ← a.drainTo 1
      let (k, c) ← b.drainTo 1
      some (n, k, a.spared, b.spared, c.spared)) = some (1, 1, 2, 1, 0) := by decide +kernel
  simp only [bind_eq_bind, bind_eq_some_iff, some.injEq, Prod.mk.injEq] at hrun
  obtain ⟨a, ha, ⟨n, b⟩, hb, ⟨k, c⟩, hc, rfl, rfl, hspared⟩ := hrun
  exact ⟨a, b, c, ha, hb, hc, hspared⟩

end Allocator
end PgElastic.Capacity
