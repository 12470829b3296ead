import PgElastic.Proxy.Cutover
import PgElastic.Proxy.LeaseRuns

/-!
# The interleaved model refines the calls

A control-plane call of `Control`, seen by the tenant it is about, is the run of its
sections in the interleaved model with nothing in between (`call_is_its_sections`), and
so is a whole sequence of calls (`calls_are_runs`).
-/

namespace PgElastic.Proxy.Cutover

open Library Option OrderedMap Control System World Request

/-- The control-plane call a request for tenant `t` stands for. -/
def Request.op {T H I : Type} (t : T) (now : Nat) (delivers : Nat → Bool) :
    Request H I → Control.Op T H I Nat
  | .quiesce holder ttl => .quiesce t holder (some ttl) now
  | .setRoute holder target => .setRoute t holder target now
  | .resume holder => .resume t holder now delivers
  | .unquiesce holder => .unquiesce t holder now delivers
  | .reap => .reap now delivers

namespace World

variable {T H I : Type} [LinearOrder T] [LinearOrder I] [DecidableEq H]

/-- Left alone, the sections of a call run to its end and leave this view. -/
def Ends (instances : List I) (maxTtl call now : Nat) (w : World H I) (v : View H I Nat) : Prop :=
  ∃ sections w', (system instances maxTtl).Path w
      (List.replicate sections (.advance call now)) w' ∧
    w'.calls.get? call = none ∧ v = ⟨w'.gate, w'.route⟩

variable {instances : List I} {maxTtl call now : Nat} {w : World H I} {v : View H I Nat}

lemma Ends.done (hover : w.calls.get? call = none) :
    Ends instances maxTtl call now w ⟨w.gate, w.route⟩ :=
  ⟨0, w, .nil w, hover, rfl⟩

/-- A section is run, and the rest after it. -/
lemma Ends.step {stage : Stage H I} (hstage : w.calls.get? call = some stage)
    (h : let (gate, route, rest, owed) := w.stageNext instances maxTtl now stage
      Ends instances maxTtl call now (w.callMoved call gate route rest owed) v) :
    Ends instances maxTtl call now w v := by
  obtain ⟨sections, w', hpath, hend⟩ := h
  refine ⟨sections + 1, w', ((Path.nil w).snoc ?_).append hpath, hend⟩
  change Option.map _ _ = _
  rw [hstage]
  rfl

/-- The last section of a call that passes no baton. -/
lemma Ends.last {stage : Stage H I} {gate : TenantGate H I Nat} {route : I}
    (hstage : w.calls.get? call = some stage)
    (hlast : w.stageNext instances maxTtl now stage = (gate, route, none, false)) :
    Ends instances maxTtl call now w ⟨gate, route⟩ := by
  refine .step hstage ?_
  rw [hlast]
  exact .done ((get?_erase ..).trans (if_pos rfl))

omit [LinearOrder I] [DecidableEq H] in
lemma passBaton_frame (w : World H I) : w.passBaton.gate = (w.gate.pass w.delivers).2 ∧
    w.passBaton.route = w.route ∧ w.passBaton.calls = w.calls := by
  refine ⟨?_, (w.passIf_frame true).2.2.2⟩
  simp only [passBaton]
  split
  · rfl
  · unfold wakeUp
    split <;> rfl

/-- The sections that open the gate and apply the rollback. -/
lemma reopen_ends {rollback : Option I} (hstage : w.calls.get? call = some (.unbar rollback)) :
    Ends instances maxTtl call now w
      ⟨(w.gate.openGate w.delivers).2.2, rollback.elim w.route (w.rerouted instances)⟩ := by
  refine .step hstage (.step (get?_insert_self ..) (.step (get?_insert_self ..)
    (.step (get?_insert_self ..) ?_)))
  obtain ⟨hgate, hroute, hcalls⟩ := passBaton_frame { w with
    gate := w.gate.unbar.refreshFast.stopClock
    calls := (((w.calls.insert call (.unbarHint rollback)).insert call
      (.stopClock rollback)).insert call (.pass rollback)).assign call (rollback.map .rollBack) }
  have hleft := (congrArg (·.get? call) hcalls).trans ((get?_assign ..).trans (if_pos rfl))
  cases rollback with
  | none =>
    have hend : Ends instances maxTtl call now _ _ := .done hleft
    rw [hgate, hroute] at hend
    exact hend
  | some source =>
    have hend : Ends instances maxTtl call now _ _ := .last hleft rfl
    rw [hgate, rerouted, hroute] at hend
    exact hend

/-- The sections of `quiesce`. -/
lemma quiesce_ends {holder : H} {ttl : Nat}
    (hstage : w.calls.get? call = some (.take holder ttl w.route))
    (hv : v = ⟨(w.gate.quiesce holder ttl maxTtl w.route now).toOption.elim w.gate (·.2), w.route⟩) :
    Ends instances maxTtl call now w v := by
  rw [hv, TenantGate.quiesce]
  cases htake : w.gate.takeLease holder ttl maxTtl w.route now with
  | error e => exact .last hstage (by simp only [stageNext, htake]; rfl)
  | ok result =>
    refine .step hstage ?_
    simp only [stageNext, htake]
    exact .step (get?_insert_self ..) (.step (get?_insert_self ..)
      (.last (get?_insert_self ..) rfl))

/-- The request is made, and its sections run to the end. -/
def Serves (instances : List I) (maxTtl call now : Nat) (w : World H I) (ask : Request H I)
    (v : View H I Nat) : Prop :=
  ∃ asked, w.next instances maxTtl (.request call ask now) = some asked ∧
    Ends instances maxTtl call now asked v

section

variable (hfree : w.calls.get? call = none) {ask : Request H I}
include hfree

lemma serves_of_request {gate : TenantGate H I Nat} {stage : Stage H I}
    (hrequest : w.requestNext now ask = some (gate, stage))
    (h : Ends instances maxTtl call now (w.callMoved call gate w.route (some stage) false) v) :
    Serves instances maxTtl call now w ask v :=
  ⟨_, by simp only [next, hfree, hrequest], h⟩

/-- A request that is refused leaves everything as it is. -/
lemma serves_of_refusal (hrequest : w.requestNext now ask = none) (hv : v = ⟨w.gate, w.route⟩) :
    Serves instances maxTtl call now w ask v :=
  ⟨w, by simp only [next, hfree, hrequest], 0, w, .nil w, hfree, hv⟩

/-- A request that ends a lease, if it is accepted, opens the gate and then takes the rollback. -/
lemma serves_of_ending (ended : Option (Option I × TenantGate H I Nat))
    (hrequest : w.requestNext now ask = ended.map fun (rollback, gate) => (gate, .unbar rollback))
    (hv : v = ended.elim ⟨w.gate, w.route⟩ fun (rollback, gate) =>
      ⟨(gate.openGate w.delivers).2.2, rollback.elim w.route (w.rerouted instances)⟩) :
    Serves instances maxTtl call now w ask v := by
  cases ended with
  | none => exact serves_of_refusal hfree hrequest hv
  | some result =>
    rw [hv]
    exact serves_of_request hfree hrequest (reopen_ends (get?_insert_self ..))

end

end World

namespace Request

variable {T H I : Type} [LinearOrder T] [LinearOrder I] [DecidableEq H]

omit [DecidableEq H] in
lemma route_rollBack_elim (fleet : Fleet T I) (t : T) (rollback : Option I) :
    (rollBack fleet t rollback).route t = rollback.elim (fleet.route t) fun source =>
        if source ∈ fleet.instances then source else fleet.route t := by
  cases rollback with
  | none => rfl
  | some source =>
    simp only [elim_some]
    split
    · rename_i hmem
      exact route_rollBack hmem t
    · rename_i hmem
      simp only [rollBack, Fleet.setRoute, if_neg hmem, map_none, getD_none]

variable {c : Control T H I Nat} {t : T} {w : World H I} {call : Nat}

/-- Seen by its tenant, every control-plane call is the run of its sections. -/
lemma call_is_its_sections (hview : c.view t = ⟨w.gate, w.route⟩)
    (hfree : w.calls.get? call = none) (now : Nat) (ask : Request H I) :
    w.Serves c.fleet.instances c.config.maxLeaseTtl call now ask
      ((c.apply (ask.op t now w.delivers)).view t) := by
  obtain ⟨gate, route, sessions, calls⟩ := w
  obtain ⟨rfl, rfl⟩ : c.gate t = gate ∧ c.fleet.route t = route := View.mk.inj hview
  have hput := gate_putGate_self c t
  cases ask with
  | quiesce holder ttl =>
    refine serves_of_request hfree rfl (quiesce_ends (get?_insert_self ..) ?_)
    simp only [op, apply, Control.quiesce, getD_some, callMoved, passIf, Bool.false_eq_true,
      if_false]
    cases (c.gate t).quiesce holder ttl c.config.maxLeaseTtl (c.fleet.route t) now with
    | error e | ok result => exact congrArg₂ View.mk (hput _) rfl
  | setRoute holder target =>
    cases hheld : (c.gate t).assertHeld holder now with
    | error e =>
      refine serves_of_refusal hfree (by simp only [requestNext, hheld]; rfl) ?_
      simp only [op, apply, Control.setRoute, hheld]
      exact congrArg₂ View.mk (hput _) rfl
    | ok u =>
      have hcall : (c.apply (.setRoute t holder target now)).view t =
          ⟨c.gate t, if target ∈ c.fleet.instances then target else c.fleet.route t⟩ := by
        -- a flip and a rollback write the same entry
        have hmoved := route_rollBack_elim c.fleet t (some target)
        simp only [rollBack] at hmoved
        simp only [apply, Control.setRoute, hheld]
        rw [show (c.putGate t (c.gate t)).fleet = c.fleet from rfl]
        cases hset : c.fleet.setRoute t target with
        | none | some moved =>
          rw [hset] at hmoved
          exact congrArg₂ View.mk (hput _) hmoved
      rw [op, hcall]
      exact serves_of_request hfree (by simp only [requestNext, hheld]; rfl)
        (.last (get?_insert_self ..) rfl)
  | resume holder =>
    refine serves_of_ending hfree (((c.gate t).commitLease holder now).toOption.map (none, ·))
      (by rw [map_map]; rfl) ?_
    simp only [op, apply, Control.resume, TenantGate.resume]
    cases (c.gate t).commitLease holder now with
    | error e | ok committed => exact congrArg₂ View.mk (hput _) rfl
  | unquiesce holder =>
    refine serves_of_ending hfree ((c.gate t).dropLease holder now).toOption rfl ?_
    simp only [op, apply, Control.unquiesce, TenantGate.unquiesce]
    cases (c.gate t).dropLease holder now with
    | error e => exact congrArg₂ View.mk (hput _) rfl
    | ok result => exact congrArg₂ View.mk (hput _) (route_rollBack_elim c.fleet t result.1)
  | reap =>
    refine serves_of_ending hfree (((c.gate t).reapLease now).map fun ended =>
      (ended.1.source, ended.2)) (by rw [map_map]; rfl) ?_
    rw [op, apply, view, gate_reapExpiredLeases, route_reapExpiredLeases]
    simp only [reaped, TenantGate.reap]
    cases (c.gate t).reapLease now with
    | none => rfl
    | some result => exact congrArg₂ View.mk rfl (route_rollBack_elim c.fleet t result.1.source)

/-- No call changes the lease lengths. -/
lemma config_apply (ask : Request H I) (now : Nat) (delivers : Nat → Bool) :
    (c.apply (ask.op t now delivers)).config = c.config := by
  cases ask <;> simp only [op, apply, Control.quiesce, Control.setRoute, Control.resume,
    Control.unquiesce] <;> (repeat' split) <;> rfl

/-- Requests made one after the other, each served to its end: what the tenant sees of the calls is
what the run of their sections leaves. -/
theorem calls_are_runs (hview : c.view t = ⟨w.gate, w.route⟩) (hfree : w.calls.get? call = none)
    (asks : List (Request H I × Nat)) :
    ∃ ops parts w',
      asks.Forall₂ (fun ask op => ∃ delivers, op = ask.1.op t ask.2 delivers) ops ∧
      asks.Forall₂ (fun ask part => ∃ sections, part =
        .request call ask.1 ask.2 :: List.replicate sections (.advance call ask.2)) parts ∧
      (system c.fleet.instances c.config.maxLeaseTtl).Path w parts.flatten w' ∧
      (ops.foldl Control.apply c).view t = ⟨w'.gate, w'.route⟩ := by
  induction asks generalizing c w with
  | nil => exact ⟨[], [], w, .nil, .nil, .nil w, hview⟩
  | cons ask rest ih =>
    obtain ⟨asked, hasked, sections, w1, hpath, hover, hseen⟩ :=
      call_is_its_sections hview hfree ask.2 ask.1
    obtain ⟨ops, parts, w', hops, hparts, hrest, hend⟩ := ih hseen hover
    rw [instances_apply, config_apply] at hrest
    exact ⟨_ :: ops, _ :: parts, w', .cons ⟨_, rfl⟩ hops, .cons ⟨sections, rfl⟩ hparts,
      (((Path.nil w).snoc hasked).append hpath).append hrest, hend⟩

/-- Holder 7 moves tenant 0 to instance 2. -/
theorem calls_are_runs_twoInstances : ∃ (ops : List (Control.Op Nat Nat Nat Nat)) (w : World Nat Nat),
    ops.length = 3 ∧ (ops.foldl Control.apply twoInstances).view 0 = ⟨w.gate, w.route⟩ := by
  obtain ⟨ops, -, w, hops, -, -, hview⟩ := calls_are_runs (c := twoInstances) (t := 0) rfl
    (rfl : (start 1 : World Nat Nat).calls.get? 0 = none)
    [(.quiesce 7 9, 0), (.setRoute 7 2, 1), (.resume 7, 2)]
  exact ⟨ops, w, hops.length_eq.symm, hview⟩

end Request
end PgElastic.Proxy.Cutover
