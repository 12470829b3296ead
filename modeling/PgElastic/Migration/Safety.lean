import PgElastic.Migration.Engine

/-!
# What finished and failing migrations do to a tenant

A pass restores the source whenever its decision serves from it, and drops databases whatever
became of the restoring.  So the drops spare the instance the tenant is routed to only while
restoring does not fail and a completed migration's source is left alone by the others.
-/

namespace PgElastic.Migration

open Library Option OrderedMap List Outcome

variable {I : Type} {outcome : Outcome}

lemma Outcome.mem_effects {effect e : Effect I} (h : e ∈ outcome.effects effect) : e = effect := by
  unfold Outcome.effects at h
  split at h
  · cases h
  · exact mem_singleton.mp h

variable {d : Decision} {p : Pass}

/-- Ending the hold neither drops anything nor moves the binding. -/
lemma mem_finish {e : Effect I} (h : e ∈ finish d p) :
    d.releaseQuiesce ∧ (d.serving = .target ∧ e = .resume ∨ e = .release) := by
  unfold finish at h
  split_ifs at h with hrelease htarget
  · exact ⟨hrelease, .inl ⟨htarget, mem_effects h⟩⟩
  · exact ⟨hrelease, .inr (mem_effects h)⟩
  · cases h

lemma drop_not_mem_finish (i : I) : .drop i ∉ finish d p := fun h => by
  rcases (mem_finish h).2 with ⟨-, heq⟩ | heq <;> cases heq

lemma route_not_mem_finish (i : I) : .route i ∉ finish d p := fun h => by
  rcases (mem_finish h).2 with ⟨-, heq⟩ | heq <;> cases heq

variable {I : Type} [DecidableEq I] {w w' : World I} {m : PgTenantMigration I} {source : I}
  {p : Pass} {o : Observation} {d : Decision} {id : Nat} {r : Report I} {e : Effect I}
  {es : List (Effect I)} {target : I} {place : I}

/-! ### Effects -/

lemma performAll_append (w : World I) (es more : List (Effect I)) :
    w.performAll (es ++ more) = (w.performAll es).performAll more :=
  foldl_append

lemma migrations_performAll (w : World I) (es : List (Effect I)) :
    (w.performAll es).migrations = w.migrations := by
  induction es generalizing w with
  | nil => rfl
  | cons e es ih =>
    rw [World.performAll, foldl_cons]
    exact (ih _).trans (by cases e <;> rfl)

/-- The binding is what it was, or what one of the effects wrote. -/
lemma routing_performAll (w : World I) (es : List (Effect I)) :
    (w.performAll es).routing = w.routing ∨
      ∃ i, .route i ∈ es ∧ (w.performAll es).routing = some i := by
  induction es generalizing w with
  | nil => exact .inl rfl
  | cons e es ih =>
    rcases ih (w.perform e) with h | ⟨i, hi, h⟩
    · cases e with
      | route i => exact .inr ⟨i, mem_cons_self, h⟩
      | _ => exact .inl h
    · exact .inr ⟨i, mem_cons_of_mem _ hi, h⟩

lemma routing_of_no_route (h : ∀ i, .route i ∉ es) : (w.performAll es).routing = w.routing := by
  rcases routing_performAll w es with heq | ⟨i, hi, -⟩
  · exact heq
  · exact absurd hi (h i)

/-- The effect drops the database on the instance the binding names. -/
def World.hits (w : World I) : Effect I → Bool
  | .drop i => w.routing = some i
  | _ => false

/-- Some effect, when its turn comes, drops the database on the instance then bound. -/
def dropsRouted : World I → List (Effect I) → Bool
  | _, [] => false
  | w, e :: es => w.hits e || dropsRouted (w.perform e) es

lemma dropsRouted_append (w : World I) (es more : List (Effect I)) :
    dropsRouted w (es ++ more) = (dropsRouted w es || dropsRouted (w.performAll es) more) := by
  induction es generalizing w with
  | nil => rfl
  | cons e es ih =>
    rw [cons_append, dropsRouted, dropsRouted, ih, Bool.or_assoc]
    rfl

lemma dropsRouted_of_no_drop (h : ∀ i, .drop i ∉ es) : dropsRouted w es = false := by
  induction es generalizing w with
  | nil => rfl
  | cons e es ih =>
    rw [dropsRouted, ih fun i hi => h i (mem_cons_of_mem _ hi), Bool.or_false]
    cases e with
    | drop i => exact absurd mem_cons_self (h i)
    | _ => rfl

lemma dropsRouted_dropOwnedDatabase {seen : World I} (h : w.routing ≠ some place) :
    dropsRouted w (dropOwnedDatabase seen place outcome) = false := by
  unfold dropOwnedDatabase Outcome.effects
  split_ifs <;> simp [dropsRouted, World.hits, h]

/-- Restoring that does not fail takes the binding off the target. -/
lemma routing_restoreSource (hne : source ≠ target) (hunfence : p.unfence = .done)
    (hreads : p.reads) (hrestore : p.restore = .done) :
    (w.performAll (restoreSource w source target p)).routing ≠ some target := by
  unfold restoreSource
  rw [hunfence, hreads, hrestore]
  by_cases hsource : w.routing = some source
  · simp [World.performAll, World.perform, hsource, hne]
  by_cases howns : ownsRouting source target w.routing
  · simp [World.performAll, World.perform, hsource, howns, Outcome.effects, hne]
  · simp only [ownsRouting, Bool.or_eq_true, decide_eq_true_eq, not_or] at howns
    simp [World.performAll, World.perform, hsource, ownsRouting, howns]

lemma mem_restoreSource (h : e ∈ restoreSource w source target p) :
    e = .unfence source ∨ e = .route source ∧ w.routing ≠ some source ∧
      ownsRouting source target w.routing := by
  unfold restoreSource at h
  split_ifs at h with hunfence hskip
  · exact .inl (mem_effects h)
  · exact .inl (mem_singleton.mp h)
  rcases mem_cons.mp h with rfl | h
  · exact .inl rfl
  · simp only [Bool.or_eq_true, Bool.not_eq_true', decide_eq_true_eq, not_or,
      Bool.not_eq_false] at hskip
    exact .inr ⟨mem_effects h, hskip.1.2, hskip.2⟩

omit [DecidableEq I] in
lemma mem_dropOwnedDatabase {outcome : Outcome}
    (h : e ∈ dropOwnedDatabase w place outcome) : e = .drop place := by
  unfold dropOwnedDatabase at h
  split at h
  · exact mem_effects h
  · cases h

/-- Everything a decision is applied by. -/
lemma mem_apply (h : e ∈ apply w m source d p) :
    (d.serving = .source ∧ (e = .unfence source ∨ e = .route source ∧
      w.routing ≠ some source ∧ ownsRouting source m.target w.routing)) ∨
    (d.releaseQuiesce ∧ (d.serving = .target ∧ e = .resume ∨ e = .release)) ∨
    (d.discardTarget ∧ e = .drop m.target) ∨ d.dropSource ∧ e = .drop source := by
  simp only [apply, mem_append] at h
  rcases h with ((h | h) | h) | h
  · split at h
    · next hserving => exact .inl ⟨hserving, mem_restoreSource h⟩
    · cases h
  · exact .inr (.inl (mem_finish h))
  · split at h
    · next hdiscard => exact .inr (.inr (.inl ⟨hdiscard, mem_dropOwnedDatabase h⟩))
    · cases h
  · split at h
    · next hdrop => exact .inr (.inr (.inr ⟨hdrop, mem_dropOwnedDatabase h⟩))
    · cases h

lemma cutover_spec (w : World I) (m : PgTenantMigration I) (source : I) (p : Pass) :
    (∀ e ∈ (cutover w m source p).1, e = .fence source ∨ e = .route m.target) ∧
      ((cutover w m source p).2.2 →
        (cutover w m source p).1 = [.fence source, .route m.target]) := by
  unfold cutover
  split_ifs with hfault hwaits howns hfence hflip
  · simp
  · simp
  · simp
  · exact ⟨fun e he => .inl (mem_effects he), by simp⟩
  · exact ⟨fun e he => (mem_cons.mp he).imp_right mem_effects, by simp⟩
  · simp

lemma work_spec (w : World I) (m : PgTenantMigration I) (source : I) (p : Pass) :
    (∀ e ∈ (work w m source p).1, e = .fence source ∨ e = .create m.target ∨ e = .route m.target) ∧
    ((work w m source p).2.2.cutoverComplete →
      (work w m source p).1 = [.fence source, .route m.target]) := by
  obtain ⟨hmem, hcomplete⟩ := cutover_spec w m source p
  unfold work
  split
  case h_2 =>
    split
    · simp
    · exact ⟨fun e he => .inr (.inl (mem_effects he)), by simp⟩
  case h_7 => exact ⟨fun e he => (hmem e he).imp_right .inr, hcomplete⟩
  all_goals simp

/-- The phase's effect moves the binding to the target only, a migration that has ended has none,
and one that completes the cutover has moved it. -/
lemma step_spec (h : step w m source p = (es, o)) :
    (∀ e ∈ es, e = .fence source ∨ e = .create m.target ∨ e = .route m.target) ∧
    (terminal m.phase → es = []) ∧
    (o.signals.cutoverComplete → (w.performAll es).routing = some m.target) ∧
    o.rollbackRequested = m.rollback ∧ o.rollbackWindowClosed = rollbackWindowClosed m p.now ∧
    o.sourceDropped = m.sourceDropped := by
  obtain ⟨hmem, hcomplete⟩ := work_spec w m source p
  unfold step at h
  by_cases hidle : (m.abort || terminal m.phase)
  · rw [if_pos hidle] at h
    cases h
    simp
  rw [if_neg hidle] at h
  cases h
  refine ⟨hmem, fun hterminal => by simp [hterminal] at hidle, fun hdone => ?_, rfl, rfl, rfl⟩
  change (w.performAll (work w m source p).1).routing = _
  rw [hcomplete hdone]
  rfl

/-- A pass that gets as far as its effects. -/
structure Acted (w : World I) (id : Nat) (p : Pass) (m : PgTenantMigration I) (source : I)
    (o : Observation) (r : Report I) (w' : World I) : Prop where
  frozen : m.source = some source
  distinct : source ≠ m.target
  resolves : p.resolves = true
  worked : step w m source p = (r.worked, o)
  applied : r.applied = apply (w.performAll r.worked) m source (decidePhase m.phase o) p
  published : w' = (w.performAll r.effects).publish id (record m o (decidePhase m.phase o) p.now) p

/-- What a pass can be; one that is not resolved does nothing but freeze the source. -/
lemma reconcile_cases (h : w.reconcile id p = some (r, w')) : ∃ m, w.migrations.get? id = some m ∧
      ((r.effects = [] ∧ (w' = w ∨ ∃ source, m.source.or w.routing = some source ∧
        w' = w.publish id { m with source := some source } p) ∧
        ∀ source, m.source.or w.routing = some source → source = m.target ∨ p.resolves = false) ∨
      ∃ source o, m.source.or w.routing = some source ∧
        Acted w id p { m with source := some source } source o r w') := by
  obtain ⟨m, hm, h⟩ := bind_eq_some_iff.mp h
  refine ⟨m, hm, ?_⟩
  cases hsource : m.source.or w.routing with
  | none =>
    rw [hsource] at h
    cases h
    exact .inl ⟨rfl, .inl rfl, nofun⟩
  | some source =>
    simp only [hsource] at h
    split at h
    · next hidle =>
      cases h
      refine .inl ⟨rfl, .inr ⟨source, rfl, rfl⟩, ?_⟩
      intro other hother
      simpa [← some.inj hother] using hidle
    next hresolved =>
    cases h
    simp only [Bool.or_eq_true, decide_eq_true_eq, not_or] at hresolved
    refine .inr ⟨source, _, rfl, rfl, hresolved.1, by simpa using hresolved.2, rfl, rfl, ?_⟩
    rw [Report.effects, performAll_append]
    rfl

/-! ### Drops -/

/-- A pass leaves the binding alone or moves it to one of its migration's own instances. -/
lemma Acted.routing (h : Acted w id p m source o r w') :
    (w.performAll r.effects).routing = w.routing ∨ (w.performAll r.effects).routing = some source ∨
      (w.performAll r.effects).routing = some m.target := by
  rcases routing_performAll w r.effects with hsame | ⟨i, hi, hrouted⟩
  · exact .inl hsame
  refine .inr ?_
  rw [hrouted]
  rcases mem_append.mp hi with hi | hi
  · rcases (step_spec h.worked).1 _ hi with heq | heq | heq <;> cases heq
    exact .inr rfl
  rw [h.applied] at hi
  rcases mem_apply hi with ⟨-, heq | ⟨heq, -⟩⟩ | ⟨-, ⟨-, heq⟩ | heq⟩ | ⟨-, heq⟩ | ⟨-, heq⟩ <;>
    cases heq
  exact .inl rfl

/-- A pass that serves from the target moves the binding in its cutover only. -/
lemma Acted.routing_of_target (h : Acted w id p m source o r w')
    (hserving : (decidePhase m.phase o).serving = .target) :
    (w.performAll r.effects).routing = (w.performAll r.worked).routing := by
  rw [Report.effects, performAll_append]
  refine routing_of_no_route fun i hi => ?_
  rw [h.applied] at hi
  rcases mem_apply hi with ⟨hsource, -⟩ | ⟨-, ⟨-, heq⟩ | heq⟩ | ⟨-, heq⟩ | ⟨-, heq⟩
  · rw [hserving] at hsource
    cases hsource
  all_goals cases heq

/-- The conditions under which passes spare the instance a tenant is routed to: restoring the
source does not fail; a pass that rolls back publishes its status; a migration whose source was
dropped is not reconciled on a clock before its deadline; and while a completed migration keeps
its source, no other migration from or to that instance is reconciled. -/
structure Careful (w : World I) (id : Nat) (p : Pass) : Prop where
  unfence : p.unfence = .done
  reads : p.reads = true
  restore : p.restore = .done
  published : ∀ m, w.migrations.get? id = some m → m.phase = .completed → m.rollback = true →
    rollbackWindowClosed m p.now = false → p.published = true
  closed : ∀ m, w.migrations.get? id = some m → m.phase = .completed → m.sourceDropped = true →
    rollbackWindowClosed m p.now = true
  apart : ∀ m source, w.migrations.get? id = some m → m.source.or w.routing = some source →
    ∀ k n, w.migrations.get? k = some n → k ≠ id → n.phase = .completed →
      n.sourceDropped = false → n.source ≠ some source ∧ n.source ≠ some m.target

def CarefulAction (w : World I) : Action I → Prop
  | .reconcile id p => Careful w id p
  | _ => True

/-- The tenant is not routed to a source that a completed migration still keeps. -/
def SourcesLeft (w : World I) : Prop :=
  ∀ id m, w.migrations.get? id = some m → m.phase = .completed → m.sourceDropped = false →
    ∃ source, m.source = some source ∧ w.routing ≠ some source

lemma drop_not_mem_restoreSource {i : I} : .drop i ∉ restoreSource w source target p := fun h => by
  rcases mem_restoreSource h with heq | ⟨heq, -⟩ <;> cases heq

lemma dropsRouted_of_source (hserving : d.serving = .source) (hdrop : d.dropSource = false)
    (hne : source ≠ m.target) (hcareful : Careful w' id p) :
    dropsRouted w (apply w m source d p) = false := by
  have hrouted : (w.performAll (restoreSource w source m.target p ++ finish d p)).routing ≠
      some m.target := by
    rw [performAll_append, routing_of_no_route route_not_mem_finish]
    exact routing_restoreSource hne hcareful.unfence hcareful.reads hcareful.restore
  have hdiscard : dropsRouted (w.performAll (restoreSource w source m.target p ++ finish d p))
      (if d.discardTarget then dropOwnedDatabase w m.target p.discard else []) = false := by
    split
    · exact dropsRouted_dropOwnedDatabase hrouted
    · rfl
  rw [apply, if_pos hserving, hdrop, dropsRouted_append, dropsRouted_append, hdiscard,
    dropsRouted_append, dropsRouted_of_no_drop fun i => drop_not_mem_restoreSource,
    dropsRouted_of_no_drop drop_not_mem_finish]
  rfl

lemma dropsRouted_of_target (hserving : d.serving = .target) (hdiscard : d.discardTarget = false)
    (hrouted : d.dropSource → w.routing ≠ some source) :
    dropsRouted w (apply w m source d p) = false := by
  have hserving' : d.serving ≠ .source := by rw [hserving]; decide
  have hdrop : dropsRouted (w.performAll (finish d p))
      (if d.dropSource then dropOwnedDatabase w source p.dropSource else []) = false := by
    split
    · next hdrop =>
      refine dropsRouted_dropOwnedDatabase ?_
      rw [routing_of_no_route route_not_mem_finish]
      exact hrouted hdrop
    · rfl
  rw [apply, if_neg hserving', hdiscard, nil_append, if_neg Bool.false_ne_true,
    append_nil, dropsRouted_append, hdrop, dropsRouted_of_no_drop drop_not_mem_finish]
  rfl

/-- No decision drops the database the tenant is routed to. -/
lemma Acted.spares (h : Acted w id p m source o r w') (hcareful : Careful w id p)
    (hleft : m.phase = .completed → m.sourceDropped = false → w.routing ≠ some source) :
    dropsRouted (w.performAll r.worked) r.applied = false := by
  obtain ⟨-, hidle, -, -, -, hdropped⟩ := step_spec h.worked
  rw [h.applied]
  have hdecided := decided m.phase o
  generalize hd : decidePhase m.phase o = d at hdecided ⊢
  generalize hphase : m.phase = phase at hdecided
  cases hdecided with
  | ended _ | rolledBack _ _ => exact dropsRouted_of_source rfl rfl h.distinct hcareful
  | abandoned _ _ hserving hdrop | continued _ _ hserving hdrop _ =>
    exact dropsRouted_of_source hserving hdrop h.distinct hcareful
  | cutOver _ _ _ | final _ _ | retained _ => exact dropsRouted_of_target rfl rfl (by simp)
  | dropping _ hkept =>
    refine dropsRouted_of_target rfl rfl fun _ => ?_
    rw [hidle (by rw [hphase]; rfl)]
    exact hleft hphase (hdropped ▸ hkept)

/-- A pass after which its migration is completed leaves the binding off the source it keeps. -/
lemma Acted.leaves (h : Acted w id p m source o r w')
    (hleft : m.phase = .completed → m.sourceDropped = false → w.routing ≠ some source)
    (hclock : m.phase = .completed → m.sourceDropped → rollbackWindowClosed m p.now)
    (hwritten : m.phase = .completed → m.rollback →
      rollbackWindowClosed m p.now = false → p.published)
    (hphase : (if p.published then record m o (decidePhase m.phase o) p.now else m).phase =
      .completed)
    (hkept : (if p.published then record m o (decidePhase m.phase o) p.now else m).sourceDropped =
      false) : (w.performAll r.effects).routing ≠ some source := by
  obtain ⟨-, hidle, hcomplete, hrequested, hclosed, hdropped⟩ := step_spec h.worked
  have htarget := h.routing_of_target
  have hstays : m.phase = .completed → m.sourceDropped = false →
      (decidePhase m.phase o).serving = .target →
      (w.performAll r.effects).routing ≠ some source := by
    intro hcompleted hnot hserving
    rw [htarget hserving, hidle (by rw [hcompleted]; rfl)]
    exact hleft hcompleted hnot
  have hdecided := decided m.phase o
  generalize decidePhase m.phase o = d at hdecided htarget hstays hphase hkept
  generalize hm : m.phase = phase at hdecided
  cases hpublished : p.published with
  | false =>
    -- The status is the old one, and only a rollback would have moved the binding.
    simp only [hpublished, Bool.false_eq_true, if_false] at hphase hkept
    cases hm.symm.trans hphase
    cases hdecided with
    | ended hended => simp at hended
    | abandoned hactive | continued hactive => cases hactive
    | rolledBack hrequest hopen =>
      rw [hwritten hphase (hrequested ▸ hrequest) (hclosed ▸ hopen)] at hpublished
      cases hpublished
    | _ => exact hstays hphase hkept rfl
  | true =>
    simp only [hpublished, if_true, record] at hphase hkept
    cases hdecided with
    | ended hended =>
      cases hphase
      simp at hended
    | abandoned _ hending => simp [hphase] at hending
    | continued _ hending => simp [hphase, terminal] at hending
    | cutOver _ _ hdone =>
      rw [htarget rfl, hcomplete hdone]
      simpa using h.distinct.symm
    | rolledBack => cases hphase
    | final _ hgone =>
      rw [← hdropped, hgone] at hkept
      cases hkept
    | dropping => cases hkept
    | retained hopen =>
      refine hstays hm ?_ rfl
      by_contra hgone
      rw [hclosed, hclock hm (by simpa using hgone)] at hopen
      cases hopen

omit [DecidableEq I] in
lemma routing_publish {n : PgTenantMigration I} : (w.publish id n p).routing = w.routing := by
  unfold World.publish
  split <;> rfl

omit [DecidableEq I] in
/-- Publishing changes nobody else's status. -/
lemma publish_cases {n found : PgTenantMigration I} {k : Nat}
    (h : (w.publish id n p).migrations.get? k = some found) :
    (k = id ∧ p.published ∧ found = n) ∨ w.migrations.get? k = some found ∧
      (k = id → p.published = false) := by
  unfold World.publish at h
  split at h
  · next hpublished =>
    rcases get?_insert_cases h with ⟨hk, hfound⟩ | ⟨hk, hold⟩
    · exact .inl ⟨hk, hpublished, hfound⟩
    · exact .inr ⟨hold, fun heq => absurd heq hk⟩
  · next hlost => exact .inr ⟨h, fun _ => by simpa using hlost⟩

/-- A careful pass leaves the binding off the sources that completed migrations keep. -/
lemma sourcesLeft_of_reconcile (hleft : SourcesLeft w) (hcareful : Careful w id p)
    (h : w.reconcile id p = some (r, w')) : SourcesLeft w' := by
  obtain ⟨m, hm, ⟨-, rfl | ⟨source, hsource, rfl⟩, -⟩ | ⟨source, o, hsource, h⟩⟩ := reconcile_cases h
  · exact hleft
  · intro k n hn hphase hkept
    rw [routing_publish]
    rcases publish_cases hn with ⟨rfl, -, rfl⟩ | ⟨hold, -⟩
    · obtain ⟨found, hfound, hne⟩ := hleft k m hm hphase hkept
      rw [hfound, some_or] at hsource
      exact ⟨source, rfl, hsource ▸ hne⟩
    · exact hleft k n hold hphase hkept
  have hown : m.phase = .completed → m.sourceDropped = false → w.routing ≠ some source := by
    intro hphase hkept
    obtain ⟨found, hfound, hne⟩ := hleft id m hm hphase hkept
    rw [hfound, some_or] at hsource
    exact hsource ▸ hne
  have hleaves := h.leaves hown (hcareful.closed m hm) (hcareful.published m hm)
  intro k n hn hphase hkept
  rw [h.published] at hn
  rw [h.published, routing_publish]
  rcases publish_cases hn with ⟨rfl, hpublished, rfl⟩ | ⟨hold, hlost⟩
  · rw [if_pos hpublished] at hleaves
    exact ⟨source, rfl, hleaves hphase hkept⟩
  rw [migrations_performAll] at hold
  obtain ⟨found, hfound, hne⟩ := hleft k n hold hphase hkept
  refine ⟨found, hfound, ?_⟩
  by_cases hk : k = id
  · subst hk
    cases hm.symm.trans hold
    rw [hfound, some_or, some.injEq] at hsource
    rw [if_neg (by simp [hlost rfl])] at hleaves
    exact hsource ▸ hleaves hphase hkept
  obtain ⟨hsource', htarget⟩ := hcareful.apart m source hm hsource k n hold hk hphase hkept
  rcases h.routing with hrouting | hrouting | hrouting <;> rw [hrouting]
  · exact hne
  · exact fun heq => hsource' (hfound.trans heq.symm)
  · exact fun heq => htarget (hfound.trans heq.symm)

/-- In every run whose passes are careful, no pass drops the tenant's database on the instance
the tenant is routed to at that moment. -/
theorem applied_drops_spare_the_routed {I : Type} [DecidableEq I] {w w' : World I} {id : Nat}
    {p : Pass} {r : Report I}
    (h : ((system I).restrict CarefulAction).Reachable w) (hcareful : Careful w id p)
    (hpass : w.reconcile id p = some (r, w')) :
    dropsRouted (w.performAll r.worked) r.applied = false := by
  have hleft : SourcesLeft w := by
    refine h.invariant (I := SourcesLeft) ?_ ?_
    · intro s hs id m hm
      rw [show s.migrations = OrderedMap.empty from hs, get?_empty] at hm
      cases hm
    intro s action t _ hs hstep
    obtain ⟨hallowed, hnext⟩ := hstep
    cases action with
    | create id m =>
      simp only [system, World.next] at hnext
      split at hnext
      · cases hnext
        intro k n hn hphase hkept
        rcases get?_insert_cases hn with ⟨_, rfl⟩ | ⟨_, hold⟩
        · cases hphase
        · exact hs k n hold hphase hkept
      · cases hnext
    | annotate id abort rollback =>
      obtain ⟨m, hm, rfl⟩ := map_eq_some_iff.mp hnext
      intro k n hn hphase hkept
      rcases get?_insert_cases hn with ⟨_, rfl⟩ | ⟨_, hold⟩
      · exact hs id m hm hphase hkept
      · exact hs k n hold hphase hkept
    | reconcile id p =>
      obtain ⟨⟨r, t'⟩, hpass, rfl⟩ := map_eq_some_iff.mp hnext
      exact sourcesLeft_of_reconcile hs hallowed hpass
  obtain ⟨m, hm, ⟨hnone, -⟩ | ⟨source, o, hsource, hacted⟩⟩ := reconcile_cases hpass
  · rw [Report.effects, append_eq_nil_iff] at hnone
    rw [hnone.2]
    rfl
  refine hacted.spares hcareful fun hphase hkept => ?_
  obtain ⟨found, hfound, hne⟩ := hleft id m hm hphase hkept
  rw [hfound, some_or] at hsource
  exact hsource ▸ hne

/-! ### Runs on fixed inputs -/

/-- A tenant on instance 0, which no migration has touched. -/
def settled (hosted : Nat → Bool) : World Nat where
  routing := some 0
  fenced := fun _ => false
  hosted := hosted
  migrations := OrderedMap.empty

def moveTo (target : Nat) (abort : Bool) : PgTenantMigration Nat where
  target := target
  strategy := .offline
  drainTimeout := 0
  cutoverTimeout := 0
  rollbackWindow := 10
  abort := abort

/-- The passes that bring a new migration to its cutover. -/
def upToCutover (id target : Nat) : List (Action Nat) :=
  .create id (moveTo target false) :: List.replicate 5 (.reconcile id { now := 0 })

lemma reachable_of_replay {hosted : Nat → Bool} {as : List (Action Nat)} {w : World Nat}
    (h : System.run World.next (settled hosted) as = some w) : (system Nat).Reachable w :=
  System.reachable_of_run (fun _ _ _ _ => id) (System.Reachable.init (s := settled hosted) rfl) h

/-- An aborted migration drops its target's database and spares the source's. -/
theorem applied_drops_spare_the_routed_aborted : ∃ (w w' : World Nat) (r : Report Nat),
      ((system Nat).restrict CarefulAction).Reachable w ∧ Careful w 0 { now := 0 } ∧
      w.reconcile 0 { now := 0 } = some (r, w') ∧ r.applied = [.unfence 0, .drop 1] ∧
      dropsRouted (w.performAll r.worked) r.applied = false := by
  let w : World Nat := { settled fun _ => true with
    migrations := OrderedMap.empty.insert 0 (moveTo 1 true) }
  have hreach : ((system Nat).restrict CarefulAction).Reachable w :=
    (System.Reachable.init (s := settled fun _ => true) rfl).step
      (a := Action.create 0 (moveTo 1 true)) ⟨trivial, rfl⟩
  have hcareful : Careful w 0 { now := 0 } := by
    have hsole : ∀ k n, w.migrations.get? k = some n → k = 0 ∧ n = moveTo 1 true := by
      intro k n hn
      rcases get?_insert_cases hn with hnew | ⟨-, hold⟩
      · exact hnew
      · cases hold
    refine ⟨rfl, rfl, rfl, ?_, ?_, fun _ _ _ _ k n hn hk => absurd (hsole k n hn).1 hk⟩
    all_goals
      intro m hm hphase
      rw [(hsole 0 m hm).2] at hphase
      cases hphase
  exact ⟨w, _, _, hreach, hcareful, rfl, rfl, applied_drops_spare_the_routed hreach hcareful rfl⟩

/-- The status of the pass that flips the routing is lost, and the migration is aborted.  The
next pass cannot reach the source, leaves the routing at the target and drops the target. -/
theorem aborted_pass_drops_the_routed :
    ∃ (w w' : World Nat) (r : Report Nat), (system Nat).Reachable w ∧
      w.reconcile 0 { now := 0, unfence := .failed } = some (r, w') ∧
      dropsRouted (w.performAll r.worked) r.applied = true := by
  obtain ⟨w, hrun⟩ : ∃ w, System.run World.next (settled (· == 0)) (upToCutover 0 1 ++
      [.reconcile 0 { now := 0, published := false }, .annotate 0 true false]) = some w :=
    ⟨_, rfl⟩
  have hreach := reachable_of_replay hrun
  cases hrun
  exact ⟨_, _, _, hreach, rfl, rfl⟩

end PgElastic.Migration
