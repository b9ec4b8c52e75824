import Failover.Proofs.Buckets
import Failover.Proofs.Rotation
import Failover.Proofs.Suppression

/-!
# Calls within the budget

The gate bounds what is called, not only what is asked of it: in any length of time,
whenever that begins, the backend of an endpoint is called no more often than its
bucket can hold and gain.  The reason is that a call of the backend is paid for.  One
step lemma says so, `Traffic.level_step`: what an act takes from the level of an
endpoint is at least the number of times that it calls its backend.  Levels rise at a
steady rate, never pass the capacity and are never negative, and so the calls of a
whole run can be added up.

All endpoints of the identity are to have the same rate.  If one of them has another,
its requests meet a bucket of another size and replace it by a full one.

## Main definitions

* `Router.level`, `Router.bucket?` — the tokens that a router holds.
* `Router.Gated`, `Router.Hinted` — that budgets are kept, and for whom.
* `Act.Spares` — acts after which the endpoints of an identity have the same rate.
* `Act.brought` — the endpoints that an act can add to a registry.
* `dispatches` — when the backends of an identity were called.
* `Traffic.Charges`, `Traffic.KeepsBudget` — what a move takes and what a run allows.

## Main results

* `Progress.gate_cases` — what a move does to the gate.
* `Traffic.level_step` — calls are paid for.
* `dispatches_within_budget` — **no endpoint is called beyond its budget.**
-/

namespace Failover

variable {τ : Type} [TokenNumber τ] {α : Type}

/-! ### What happens to the gate -/

/-- **What a move does to the gate**: nothing, unless a backend is called or an endpoint
is passed over for its budget. -/
theorem Progress.gate_cases {r : Router τ} {now : Instant} {call : Call α} {m : Move α}
    {turn : Turn τ α} {log : List (Incident α)} (h : Progress r now call m turn log) :
    (invocations log = [] ∧ (∀ a ∈ recorded log, a.outcome ≠ .skipped .throttled) ∧
      turn.router.gate = r.gate) ∨
    (∃ name, ∃ e ∈ r.registry.endpoints name, invocations log = [e] ∧ recorded log = [] ∧
      r.Admission e now true turn.router.gate) ∨
    (∃ e a, invocations log = [] ∧ recorded log = [a] ∧ a.outcome = .skipped .throttled ∧
      r.Admission e now false turn.router.gate) := by
  cases h with
  | dispatched hresolve _ hgate =>
    exact Or.inr (Or.inl ⟨_, _, Registry.mem_of_resolve hresolve, rfl, rfl, hgate⟩)
  | throttled _ _ hgate ha =>
    exact Or.inr (Or.inr ⟨_, _, rfl, rfl, by rw [ha]; rfl, hgate⟩)
  | idle | cancelled | exhausted | abandoned | unregistered | waiting | overflowed =>
    exact Or.inl ⟨rfl, fun a ha => absurd ha List.not_mem_nil, rfl⟩
  | cooling _ _ ha | dropped ha | answered ha | broken _ _ ha | advanced _ _ _ ha =>
    refine Or.inl ⟨rfl, fun a hmem => ?_, rfl⟩
    rw [List.mem_singleton.mp hmem, ha]
    exact fun h => by cases h

/-- What a change does to the gate. -/
theorem Router.gate_apply {r r' : Router τ} {now : Instant} {c : Change}
    (h : r.apply now c = some r') :
    r'.gate = match c with
      | .acquire id rpm => r.gate.map fun g => (g.tryAcquire id rpm now).2
      | .available id => r.gate.map fun g => (g.available id now).2
      | .resetGate => r.gate.map (·.reset)
      | _ => r.gate := by
  cases c with
  | fail id kind =>
    rcases r.recordFailure_cases id kind now with
      ⟨-, hrecord⟩ | ⟨liftedAt, tracker, notices, -, hrecord, -⟩ <;>
    · simp only [apply, hrecord] at h
      cases h <;> rfl
  | replaceGroup name es =>
    cases hgroup : r.registry.replaceGroup name es <;>
    · simp only [apply, replaceGroup, hgroup, bind, Except.bind, pure, Except.pure] at h
      cases h
      rfl
  | acquire id rpm =>
    cases hgate : r.gate <;>
    · simp only [apply, acquire, hgate] at h
      cases h
      simp [hgate]
  | _ => cases h; rfl

/-! ### Levels -/

namespace Router

/-- The tokens that a router holds for an endpoint: none if it keeps no budgets. -/
def level (r : Router ℚ) (id : EndpointId) (rpm : UInt32) (now : Instant) : ℚ :=
  match r.gate with
  | some g => g.level id rpm now
  | none => 0

/-- The bucket of an endpoint, if it has one. -/
def bucket? (r : Router τ) (id : EndpointId) : Option (Bucket τ) :=
  r.gate.bind fun g => g.buckets.get? id

/-- Budgets of some burst are kept. -/
def Gated (r : Router ℚ) (burst : UInt32) : Prop :=
  ∃ g, r.gate = some g ∧ g.burst = burst ∧ g.Sound

/-- All endpoints of an identity have the same rate. -/
def Hinted (r : Router τ) (id : EndpointId) (rpm : UInt32) : Prop :=
  ∀ name, ∀ e ∈ r.registry.endpoints name, e.id = id → e.rpmHint = some rpm

section Gated

variable {r r' : Router ℚ} {burst : UInt32} {id : EndpointId} {rpm : UInt32} {now : Instant}

theorem level_of_gate {g : Gate ℚ} (hgate : r.gate = some g) (id : EndpointId) (rpm : UInt32)
    (now : Instant) : r.level id rpm now = g.level id rpm now := by
  simp only [level, hgate]

theorem level_of_gate_eq (hgate : r'.gate = r.gate) (id : EndpointId) (rpm : UInt32)
    (now : Instant) : r'.level id rpm now = r.level id rpm now := by
  simp only [level, hgate]

theorem Gated.level_nonneg (h : r.Gated burst) : 0 ≤ r.level id rpm now := by
  obtain ⟨g, hgate, -, hsound⟩ := h
  rw [level_of_gate hgate]
  exact hsound.level_nonneg

theorem Gated.level_le (h : r.Gated burst) :
    r.level id rpm now ≤ rpm.toNat + burst.toNat := by
  obtain ⟨g, hgate, rfl, hsound⟩ := h
  rw [level_of_gate hgate]
  exact hsound.level_le

theorem Gated.level_le_of_le (h : r.Gated burst) {later : Instant} (hle : now ≤ later) :
    r.level id rpm later ≤
      r.level id rpm now + (rpm.toNat / 60) * (later.since now).inSeconds := by
  obtain ⟨g, hgate, -, hsound⟩ := h
  rw [level_of_gate hgate, level_of_gate hgate]
  exact hsound.level_le_of_le hle

/-- An answer of the gate is that to a request, if one is made. -/
theorem Admission.cases_gate {r : Router τ} {e : Endpoint} {now : Instant} {granted : Bool}
    {gate : Option (Gate τ)} (h : r.Admission e now granted gate) :
    ((r.gate = none ∨ e.rpmHint = none) ∧ granted = true ∧ gate = r.gate) ∨
    ∃ g rpm, r.gate = some g ∧ e.rpmHint = some rpm ∧
      granted = (g.tryAcquire e.id rpm now).1 ∧
      gate = some (g.tryAcquire e.id rpm now).2 := by
  cases h with
  | unasked hnone => exact Or.inl ⟨hnone, rfl, rfl⟩
  | asked hgate hhint => exact Or.inr ⟨_, _, hgate, hhint, rfl, rfl⟩

/-- However the gate answers, budgets are still kept. -/
theorem Gated.admission (h : r.Gated burst) {e : Endpoint} {granted : Bool}
    (hgate : r.Admission e now granted r'.gate) : r'.Gated burst := by
  obtain ⟨g, hg, hburst, hsound⟩ := h
  rcases hgate.cases_gate with ⟨-, -, hsame⟩ | ⟨g', rpm, hg', -, -, hnext⟩
  · exact ⟨g, hsame.trans hg, hburst, hsound⟩
  · obtain rfl : g = g' := Option.some.inj (hg.symm.trans hg')
    exact ⟨_, hnext, Gate.burst_tryAcquire.trans hburst, hsound.tryAcquire⟩

/-- An endpoint of some rate that is let through pays with a token. -/
theorem Gated.level_of_granted (h : r.Gated burst) {e : Endpoint}
    (hgate : r.Admission e now true r'.gate) (hhint : e.rpmHint = some rpm) (hrpm : rpm ≠ 0) :
    1 ≤ r.level e.id rpm now ∧ r'.level e.id rpm now = r.level e.id rpm now - 1 := by
  obtain ⟨g, hg, -, hsound⟩ := h
  rcases hgate.cases_gate with ⟨hnone, -, -⟩ | ⟨g', rpm', hg', hhint', hgranted, hnext⟩
  · rcases hnone with hnone | hnone
    · exact absurd (hg.symm.trans hnone) (Option.some_ne_none g)
    · exact absurd (hhint.symm.trans hnone) (Option.some_ne_none rpm)
  · obtain rfl : g = g' := Option.some.inj (hg.symm.trans hg')
    obtain rfl : rpm = rpm' := Option.some.inj (hhint.symm.trans hhint')
    rw [level_of_gate hg, level_of_gate hnext]
    rcases hsound.tryAcquire_cases e.id now hrpm with ⟨-, hpaid⟩ | ⟨hrefused, -⟩
    · exact hpaid
    · exact absurd (hgranted.trans hrefused).symm Bool.false_ne_true

/-- An endpoint that is refused pays nothing, and nor does any other. -/
theorem Gated.level_of_refused (h : r.Gated burst) {e : Endpoint}
    (hgate : r.Admission e now false r'.gate) (id : EndpointId) (rpm : UInt32)
    {later : Instant} (hle : now ≤ later) : r'.level id rpm later = r.level id rpm later := by
  obtain ⟨g, hg, -, hsound⟩ := h
  rcases hgate.cases_gate with ⟨-, htrue, -⟩ | ⟨g', rpm', hg', -, hrefused, hnext⟩
  · exact absurd htrue Bool.false_ne_true
  · obtain rfl : g = g' := Option.some.inj (hg.symm.trans hg')
    have hrpm : rpm' ≠ 0 := by
      rintro rfl
      rw [Gate.tryAcquire, if_pos rfl] at hrefused
      exact absurd hrefused Bool.false_ne_true
    rw [level_of_gate hg, level_of_gate hnext]
    rcases hsound.tryAcquire_cases e.id now hrpm with ⟨hgranted, -⟩ | ⟨-, hsame⟩
    · exact absurd (hrefused.trans hgranted) Bool.false_ne_true
    · exact hsame id rpm later hle

/-- The gate answers for one endpoint from its own bucket. -/
theorem Admission.bucket?_of_ne {r r' : Router τ} {e : Endpoint} {granted : Bool}
    (hgate : r.Admission e now granted r'.gate) (hid : id ≠ e.id) :
    r'.bucket? id = r.bucket? id := by
  unfold bucket?
  rcases hgate.cases_gate with ⟨-, -, hsame⟩ | ⟨g, rpm, hg, -, -, hnext⟩
  · rw [hsame]
  · rw [hnext, hg, Option.bind_some, Option.bind_some, Gate.get?_tryAcquire_of_ne hid]

/-- The levels of an endpoint hang on its own bucket. -/
theorem Gated.level_congr (h : r.Gated burst) (h' : r'.Gated burst)
    (hbucket : r'.bucket? id = r.bucket? id) (rpm : UInt32) (now : Instant) :
    r'.level id rpm now = r.level id rpm now := by
  obtain ⟨g, hg, hburst, -⟩ := h
  obtain ⟨g', hg', hburst', -⟩ := h'
  simp only [bucket?, hg, hg', Option.bind_some] at hbucket
  rw [level_of_gate hg, level_of_gate hg']
  exact Gate.level_congr (hburst'.trans hburst.symm) hbucket rpm now

end Gated

end Router

/-! ### Acts that spare an identity -/

/-- An act after which all endpoints of an identity have the same rate, if they had
before, and which does not fill up its bucket. -/
def Act.Spares (id : EndpointId) (rpm : UInt32) : Act α → Prop
  | .change (.register e) => e.id = id → e.rpmHint = some rpm
  | .change (.replaceGroup _ es) => ∀ e ∈ es, e.id = id → e.rpmHint = some rpm
  | .change (.acquire id' rpm') => id' = id → rpm' = rpm
  | .change .resetGate => False
  | _ => True

/-- The endpoints that an act can add to a registry. -/
def Act.brought : Act α → List Endpoint
  | .change (.register e) => [e]
  | .change (.replaceGroup _ es) => es
  | _ => []

/-- An act that spares an identity only brings endpoints of its rate. -/
theorem Act.Spares.hint_eq {act : Act α} {id : EndpointId} {rpm : UInt32}
    (hact : act.Spares id rpm) : ∀ e ∈ act.brought, e.id = id → e.rpmHint = some rpm := by
  intro e he
  cases act with
  | change c =>
    cases c with
    | register e' =>
      rw [List.mem_singleton.mp he]
      exact hact
    | replaceGroup name es => exact hact e he
    | _ => cases he
  | _ => cases he

namespace Registry

/-- The endpoints that an operation can add to a registry. -/
def Operation.brought : Operation → List Endpoint
  | register e => [e]
  | replaceGroup _ es => es
  | unregister _ | resolve _ => []

theorem mem_endpoints_after {r : Registry} {op : Operation} {n : String} {e : Endpoint}
    (h : e ∈ (r.after op).endpoints n) : e ∈ r.endpoints n ∨ e ∈ op.brought := by
  rw [endpoints_after] at h
  cases hplaced : op.placed? n with
  | some es =>
    rw [hplaced] at h
    cases op with
    | unregister name =>
      simp only [Operation.placed?] at hplaced
      split at hplaced <;> cases hplaced
      cases h
    | replaceGroup name es' =>
      simp only [Operation.placed?] at hplaced
      split at hplaced <;> cases hplaced
      exact Or.inr h
    | register e | resolve name => cases hplaced
  | none =>
    rw [hplaced] at h
    rcases List.mem_append.mp h with hold | hjoined
    · exact Or.inl hold
    · cases op with
      | register e' =>
        simp only [joined, List.filterMap_cons, List.filterMap_nil] at hjoined
        split at hjoined
        · cases hjoined
        next hsome =>
          split at hsome <;> cases hsome
          exact Or.inr hjoined
      | _ => cases hjoined

end Registry

namespace Traffic

omit [TokenNumber τ] in
/-- The endpoints that an act can add to a registry are those that it brings. -/
theorem brought_of_operation? {w : Traffic τ α} {act : Act α} {op : Registry.Operation}
    (hop : w.operation? (.act act) = some op) : op.brought = act.brought := by
  cases act with
  | pass s | start chain cancelled => cases hop
  | move i m =>
    cases m with
    | poll p | cancel => cases hop
    | takeUp =>
      simp only [operation?, Option.bind_eq_bind, Option.bind_eq_some_iff] at hop
      obtain ⟨call, -, candidate, -, hresolve⟩ := hop
      cases hresolve
      rfl
  | change c => cases c <;> cases hop <;> rfl

/-- Every endpoint after an act was there before it or is one that the act brings. -/
theorem mem_endpoints_step {w : Traffic τ α} {act : Act α} {n : String} {e : Endpoint}
    (h : e ∈ (w.step act).router.registry.endpoints n) :
    e ∈ w.router.registry.endpoints n ∨ e ∈ act.brought := by
  have hregistry : (w.step act).router.registry = _ := w.registry_meet (.act act)
  rw [hregistry] at h
  cases hop : w.operation? (.act act) with
  | none =>
    rw [hop] at h
    exact Or.inl h
  | some op =>
    rw [hop] at h
    rw [← brought_of_operation? hop]
    exact Registry.mem_endpoints_after h

theorem hinted_step {w : Traffic τ α} {act : Act α} {id : EndpointId} {rpm : UInt32}
    (h : w.router.Hinted id rpm) (hact : act.Spares id rpm) :
    (w.step act).router.Hinted id rpm := by
  intro name e he hid
  rcases mem_endpoints_step he with hold | hnew
  · exact h name e hold hid
  · exact hact.hint_eq e hnew hid

/-- In all traffic budgets are kept. -/
theorem gated_step {w : Traffic ℚ α} {burst : UInt32} (h : w.router.Gated burst)
    (act : Act α) : (w.step act).router.Gated burst := by
  rcases w.router_step_cases act with
    hsame | ⟨call, m, turn, log, hprogress, hrouter⟩ | ⟨c, -, happly⟩
  · rwa [hsame]
  · rw [hrouter]
    rcases hprogress.gate_cases with
      ⟨-, -, hsame⟩ | ⟨name, e, -, -, -, hgate⟩ | ⟨e, a, -, -, -, hgate⟩
    · obtain ⟨g, hg, hkept⟩ := h
      exact ⟨g, hsame.trans hg, hkept⟩
    · exact h.admission hgate
    · exact h.admission hgate
  · have hgate := Router.gate_apply happly
    obtain ⟨g, hg, hburst, hsound⟩ := h
    cases c with
    | acquire id rpm =>
      refine ⟨(g.tryAcquire id rpm w.clock).2, by rw [hgate, hg]; rfl, ?_, hsound.tryAcquire⟩
      exact Gate.burst_tryAcquire.trans hburst
    | available id =>
      refine ⟨(g.available id w.clock).2, by rw [hgate, hg]; rfl, ?_, hsound.available⟩
      exact Gate.burst_available.trans hburst
    | resetGate => exact ⟨g.reset, by rw [hgate, hg]; rfl, hburst, Gate.sound_new g.burst⟩
    | _ => exact ⟨g, hgate.trans hg, hburst, hsound⟩

theorem gated_run {burst : UInt32} (acts : List (Act α)) : ∀ {w : Traffic ℚ α},
    w.router.Gated burst → (w.run acts).router.Gated burst := by
  induction acts with
  | nil => intro w h; exact h
  | cons act acts ih => intro w h; exact ih (gated_step h act)

end Traffic

/-! ### Calls of the backends -/

/-- When a backend of an identity was called, if it was. -/
def Happening.dispatch? (id : EndpointId) : Happening α → Option Instant
  | .incident _ time (.invoked e) => if e.id = id then some time else none
  | _ => none

/-- When the backends of an identity were called. -/
def dispatches (id : EndpointId) (log : List (Happening α)) : List Instant :=
  log.filterMap (·.dispatch? id)

theorem dispatches_append (id : EndpointId) (log log' : List (Happening α)) :
    dispatches id (log ++ log') = dispatches id log ++ dispatches id log' :=
  List.filterMap_append

theorem dispatches_map (id : EndpointId) (i : Nat) (now : Instant) (log : List (Incident α)) :
    dispatches id (log.map (.incident i now)) =
      List.replicate ((invocations log).countP (·.id = id)) now := by
  induction log with
  | nil => rfl
  | cons x log ih =>
    unfold dispatches at ih ⊢
    rw [List.map_cons, List.filterMap_cons, ih]
    cases x with
    | invoked e =>
      by_cases he : e.id = id <;>
        simp [invocations, Happening.dispatch?, he, List.replicate_succ]
    | _ => rfl

namespace Traffic

/-- What happens to a call in a move of it. -/
def incidents (w : Traffic τ α) (i : Nat) (m : Move α) : List (Incident α) :=
  incidentsOf i (w.happenings (.move i m))

theorem dispatches_move (w : Traffic τ α) (id : EndpointId) (i : Nat) (m : Move α) :
    dispatches id (w.happenings (.move i m)) =
      List.replicate ((invocations (w.incidents i m)).countP (·.id = id)) w.clock := by
  cases hcall : w.calls[i]? with
  | none => simp only [incidents, happenings, hcall]; rfl
  | some call => simp only [incidents, happenings, hcall, incidentsOf_map, if_true, dispatches_map]

/-- What the calls pay for in a move. -/
structure Charges (w : Traffic ℚ α) (id : EndpointId) (rpm : UInt32) (i : Nat) (m : Move α) :
    Prop where
  /-- No more than one backend is called. -/
  one_call : (invocations (w.incidents i m)).length ≤ 1
  /-- If it is one of the identity, one token is taken of its bucket. -/
  one_token : ∀ {e}, e ∈ invocations (w.incidents i m) → e.id = id →
    1 ≤ w.router.level id rpm w.clock ∧
    (w.step (.move i m)).router.level id rpm w.clock = w.router.level id rpm w.clock - 1
  /-- The buckets of the other identities are left alone. -/
  own_bucket : ∀ {e}, e ∈ invocations (w.incidents i m) → ∀ {id'}, id' ≠ e.id →
    (w.step (.move i m)).router.bucket? id' = w.router.bucket? id'
  /-- To pass over an endpoint for its budget takes no token of any. -/
  throttled : ∀ {a}, a ∈ recorded (w.incidents i m) → a.outcome = .skipped .throttled →
    ∀ id' rpm' {later}, w.clock ≤ later →
      (w.step (.move i m)).router.level id' rpm' later = w.router.level id' rpm' later
  /-- Any other move leaves the gate alone. -/
  untouched : invocations (w.incidents i m) = [] →
    (∀ a ∈ recorded (w.incidents i m), a.outcome ≠ .skipped .throttled) →
    (w.step (.move i m)).router.gate = w.router.gate

variable {w : Traffic ℚ α} {id : EndpointId} {rpm burst : UInt32}

theorem Charges.of_quiet {i : Nat} {m : Move α} (hquiet : invocations (w.incidents i m) = [])
    (hthrottled : ∀ a ∈ recorded (w.incidents i m), a.outcome = .skipped .throttled →
      ∀ id' rpm' later, w.clock ≤ later →
        (w.step (.move i m)).router.level id' rpm' later = w.router.level id' rpm' later)
    (huntouched : (∀ a ∈ recorded (w.incidents i m), a.outcome ≠ .skipped .throttled) →
      (w.step (.move i m)).router.gate = w.router.gate) : w.Charges id rpm i m where
  one_call := by rw [hquiet]; exact Nat.zero_le 1
  one_token := fun he => absurd (hquiet ▸ he) List.not_mem_nil
  own_bucket := fun he => absurd (hquiet ▸ he) List.not_mem_nil
  throttled := fun ha houtcome id' rpm' later => hthrottled _ ha houtcome id' rpm' later
  untouched := fun _ => huntouched

theorem charges_move (hgated : w.router.Gated burst) (hhinted : w.router.Hinted id rpm)
    (hrpm : rpm ≠ 0) (i : Nat) (m : Move α) : w.Charges id rpm i m := by
  cases hcall : w.calls[i]? with
  | none =>
    have hnothing : w.incidents i m = [] := by
      simp only [incidents, happenings, hcall, incidentsOf_nil]
    have hstep : w.step (.move i m) = w := by simp only [step, hcall]
    exact .of_quiet (by rw [hnothing]; rfl) (fun _ _ _ _ _ _ _ => by rw [hstep])
      (fun _ => by rw [hstep])
  | some call =>
    obtain ⟨turn, hprogress, -, hrouter⟩ := call_step_move hcall m
    rcases Progress.gate_cases hprogress with
      ⟨hquiet, hkept, hsame⟩ | ⟨name, e, he, hinvoked, hrecorded, hgate⟩ |
        ⟨e, a, hquiet, hrecorded, houtcome, hgate⟩
    · exact .of_quiet hquiet (fun a ha hthrottled => absurd hthrottled (hkept a ha))
        (fun _ => by rw [hrouter, hsame])
    · rw [← hrouter] at hgate
      have hone : ∀ {e'}, e' ∈ invocations (w.incidents i m) → e' = e := fun he' =>
        List.mem_singleton.mp (hinvoked ▸ he')
      exact {
        one_call := by rw [incidents, hinvoked]; exact Nat.le_refl 1
        one_token := by
          intro e' he' hid
          obtain rfl := hone he'
          subst hid
          exact hgated.level_of_granted hgate (hhinted name e' he rfl) hrpm
        own_bucket := by
          intro e' he' id' hid'
          obtain rfl := hone he'
          exact hgate.bucket?_of_ne hid'
        throttled := fun ha => absurd (hrecorded ▸ ha) List.not_mem_nil
        untouched := fun hnone => absurd (hinvoked.symm.trans hnone) (List.cons_ne_nil e []) }
    · rw [← hrouter] at hgate
      refine .of_quiet hquiet
        (fun _ _ _ id' rpm' _ hle => hgated.level_of_refused hgate id' rpm' hle) fun hkept => ?_
      have ha : a ∈ recorded (w.incidents i m) := by
        rw [incidents, hrecorded]
        exact List.mem_cons_self
      exact absurd houtcome (hkept a ha)

/-- A call of a backend is paid for. -/
theorem level_move (hgated : w.router.Gated burst) (hhinted : w.router.Hinted id rpm)
    (hrpm : rpm ≠ 0) (i : Nat) (m : Move α) :
    (w.step (.move i m)).router.level id rpm w.clock +
      ((invocations (w.incidents i m)).countP (·.id = id) : ℕ) ≤ w.router.level id rpm w.clock := by
  have hcharges := charges_move hgated hhinted hrpm i m
  cases hinvoked : invocations (w.incidents i m) with
  | nil =>
    -- passing over an endpoint for its budget refills its bucket, so the gate may change
    have hsame : (w.step (.move i m)).router.level id rpm w.clock =
        w.router.level id rpm w.clock := by
      by_cases hthrottled : ∃ a ∈ recorded (w.incidents i m), a.outcome = .skipped .throttled
      · obtain ⟨a, ha, houtcome⟩ := hthrottled
        exact hcharges.throttled ha houtcome id rpm (Nat.le_refl _)
      · have hkept : ∀ a ∈ recorded (w.incidents i m), a.outcome ≠ .skipped .throttled :=
          fun a ha houtcome => hthrottled ⟨a, ha, houtcome⟩
        exact Router.level_of_gate_eq (hcharges.untouched hinvoked hkept) id rpm w.clock
    rw [hsame, List.countP_nil, Nat.cast_zero, add_zero]
  | cons e es =>
    have hone := hcharges.one_call
    rw [hinvoked, List.length_cons] at hone
    obtain rfl : es = [] := List.length_eq_zero_iff.mp (by omega)
    have he : e ∈ invocations (w.incidents i m) := by rw [hinvoked]; exact List.mem_cons_self
    by_cases hid : e.id = id
    · obtain ⟨-, hpaid⟩ := hcharges.one_token he hid
      rw [hpaid]
      simp [hid]
    · have hbucket := hcharges.own_bucket he fun h : id = e.id => hid h.symm
      have hsame := hgated.level_congr (gated_step hgated _) hbucket rpm w.clock
      rw [hsame]
      simp [hid]

/-- A change takes tokens, if at all, without a call of a backend. -/
theorem level_change (hgated : w.router.Gated burst) (hrpm : rpm ≠ 0) {c : Change}
    (hspares : (Act.change c : Act α).Spares id rpm) :
    (w.step (.change c)).router.level id rpm w.clock ≤ w.router.level id rpm w.clock := by
  cases happly : w.router.apply w.clock c with
  | none => simp only [step, happly]; exact le_refl _
  | some r =>
    have hrouter : (w.step (.change c)).router = r := by simp only [step, happly]
    have hgate := Router.gate_apply happly
    obtain ⟨g, hg, -, hsound⟩ := hgated
    rw [hrouter, Router.level_of_gate hg]
    cases c with
    | acquire id' rpm' =>
      have hnext : r.gate = some (g.tryAcquire id' rpm' w.clock).2 := by rw [hgate, hg]; rfl
      rw [Router.level_of_gate hnext]
      by_cases hid : id = id'
      · -- at another rate the bucket would be replaced by a full one
        subst hid
        obtain rfl : rpm' = rpm := hspares rfl
        rcases hsound.tryAcquire_cases id w.clock hrpm with ⟨-, -, hpaid⟩ | ⟨-, hsame⟩
        · rw [hpaid]
          linarith
        · exact le_of_eq (hsame id rpm' w.clock (Nat.le_refl _))
      · have hbucket : (g.tryAcquire id' rpm' w.clock).2.buckets.get? id = g.buckets.get? id :=
          Gate.get?_tryAcquire_of_ne hid
        exact le_of_eq (Gate.level_congr Gate.burst_tryAcquire hbucket rpm w.clock)
    | available id' =>
      have hnext : r.gate = some (g.available id' w.clock).2 := by rw [hgate, hg]; rfl
      rw [Router.level_of_gate hnext]
      exact le_of_eq (Gate.level_available id' id rpm (Nat.le_refl _))
    | resetGate => cases hspares
    | _ =>
      have hnext : r.gate = some g := hgate.trans hg
      rw [Router.level_of_gate hnext]

/-- **Calls are paid for**: what an act takes from a level is at least the number of times
that it calls a backend of the identity. -/
theorem level_step (hgated : w.router.Gated burst) (hhinted : w.router.Hinted id rpm)
    (hrpm : rpm ≠ 0) {act : Act α} (hspares : act.Spares id rpm) :
    (w.step act).router.level id rpm w.clock + (dispatches id (w.happenings act)).length ≤
      w.router.level id rpm w.clock := by
  cases act with
  | pass s | start chain cancelled => exact le_of_eq (add_zero _)
  | move i m =>
    rw [dispatches_move, List.length_replicate]
    exact level_move hgated hhinted hrpm i m
  | change c =>
    have hnone : dispatches id (w.happenings (.change c)) = [] := by
      cases happly : w.router.apply w.clock c <;> simp only [happenings, happly] <;> rfl
    rw [hnone, List.length_nil, Nat.cast_zero, add_zero]
    exact level_change hgated hrpm hspares

/-! ### Runs -/

theorem mem_dispatches_happenings {act : Act α} {time : Instant}
    (h : time ∈ dispatches id (w.happenings act)) : time = w.clock := by
  obtain ⟨x, hx, htime⟩ := List.mem_filterMap.mp h
  cases x with
  | changed time' c => cases htime
  | incident i time' y =>
    obtain ⟨rfl, -⟩ := progress_of_incident hx
    cases y with
    | invoked e =>
      simp only [Happening.dispatch?] at htime
      split at htime <;> cases htime
      rfl
    | _ => cases htime

/-- Nothing is called before a run begins. -/
theorem clock_le_of_mem_dispatches (acts : List (Act α)) : ∀ {w : Traffic ℚ α} {time : Instant},
    time ∈ dispatches id (w.journal acts) → w.clock ≤ time := by
  induction acts with
  | nil => intro w time h; cases h
  | cons act acts ih =>
    intro w time h
    rw [journal_cons, dispatches_append] at h
    rcases List.mem_append.mp h with hnow | hlater
    · exact Nat.le_of_eq (congrArg Instant.nanos (mem_dispatches_happenings hnow).symm)
    · exact Nat.le_trans (clock_le_step w act) (ih hlater)

/-- The calls of a run up to some time are paid for by the level when it begins and what
is gained until then. -/
theorem dispatches_until {t : Instant} (hrpm : rpm ≠ 0) (acts : List (Act α)) :
    ∀ {w : Traffic ℚ α}, w.router.Gated burst → w.router.Hinted id rpm →
      (∀ act ∈ acts, act.Spares id rpm) → w.clock ≤ t →
      ((dispatches id (w.journal acts)).countP (· ≤ t) : ℚ) ≤
        w.router.level id rpm w.clock + (rpm.toNat / 60) * (t.since w.clock).inSeconds := by
  -- by induction on the acts: what an act leaves of the level pays for the calls to come
  induction acts with
  | nil =>
    intro w hgated _ _ _
    have hlevel : 0 ≤ w.router.level id rpm w.clock := hgated.level_nonneg
    have htime := (t.since w.clock).inSeconds_nonneg
    rw [journal_nil, dispatches, List.filterMap_nil, List.countP_nil, Nat.cast_zero]
    positivity
  | cons act acts ih =>
    intro w hgated hhinted hspares hle
    have hact : act.Spares id rpm := hspares act List.mem_cons_self
    have hpaid := level_step hgated hhinted hrpm hact
    have hgated' := gated_step hgated act
    have hclock := clock_le_step w act
    have hnow : (dispatches id (w.happenings act)).countP (· ≤ t) =
        (dispatches id (w.happenings act)).length :=
      List.countP_eq_length.mpr fun time h => by rw [mem_dispatches_happenings h]; simpa using hle
    rw [journal_cons, dispatches_append, List.countP_append, hnow, Nat.cast_add]
    by_cases hnext : (w.step act).clock ≤ t
    · have hlater := ih hgated' (hinted_step hhinted hact)
        (fun act' h => hspares act' (List.mem_cons_of_mem act h)) hnext
      have hgain : (w.step act).router.level id rpm (w.step act).clock ≤ _ :=
        hgated'.level_le_of_le hclock
      rw [Instant.inSeconds_since_add hclock hnext, mul_add]
      linarith
    · -- the time is over, and no call that comes later counts
      have hlater : (dispatches id ((w.step act).journal acts)).countP (· ≤ t) = 0 := by
        refine List.countP_eq_zero.mpr fun time h htime => hnext ?_
        exact Nat.le_trans (clock_le_of_mem_dispatches acts h) (of_decide_eq_true htime)
      have hlevel : 0 ≤ (w.step act).router.level id rpm w.clock := hgated'.level_nonneg
      have htime := (t.since w.clock).inSeconds_nonneg
      have hgain : 0 ≤ ((rpm.toNat : ℚ) / 60) * (t.since w.clock).inSeconds := by positivity
      rw [hlater, Nat.cast_zero, add_zero]
      linarith

/-- In any length of time no more is called than a full bucket holds and gains. -/
theorem dispatches_between (s t : Instant) (hrpm : rpm ≠ 0) (acts : List (Act α)) :
    ∀ {w : Traffic ℚ α}, w.router.Gated burst → w.router.Hinted id rpm →
      (∀ act ∈ acts, act.Spares id rpm) →
      ((dispatches id (w.journal acts)).countP (fun time => s ≤ time ∧ time ≤ t) : ℚ) ≤
        rpm.toNat + burst.toNat + (rpm.toNat / 60) * (t.since s).inSeconds := by
  have hbound : 0 ≤ (rpm.toNat : ℚ) + burst.toNat + (rpm.toNat / 60) * (t.since s).inSeconds := by
    have htime := (t.since s).inSeconds_nonneg
    positivity
  -- as soon as the clock shows the beginning, a level of no more than the capacity pays
  induction acts with
  | nil =>
    intro w _ _ _
    rw [journal_nil, dispatches, List.filterMap_nil, List.countP_nil, Nat.cast_zero]
    exact hbound
  | cons act acts ih =>
    intro w hgated hhinted hspares
    have hact : act.Spares id rpm := hspares act List.mem_cons_self
    by_cases hs : s ≤ w.clock
    · by_cases ht : w.clock ≤ t
      · have hfewer : (dispatches id (w.journal (act :: acts))).countP
            (fun time => s ≤ time ∧ time ≤ t) ≤
            (dispatches id (w.journal (act :: acts))).countP (· ≤ t) :=
          List.countP_mono_left fun time _ h => decide_eq_true (of_decide_eq_true h).2
        have huntil := dispatches_until hrpm (act :: acts) hgated hhinted hspares ht
        have hlevel : w.router.level id rpm w.clock ≤ _ := hgated.level_le
        have hgain := mul_le_mul_of_nonneg_left (Instant.inSeconds_since_le (v := t) hs)
          (show (0 : ℚ) ≤ rpm.toNat / 60 by positivity)
        have hfewer' := Nat.cast_le.mpr hfewer |>.trans huntil
        linarith
      · have hnone : (dispatches id (w.journal (act :: acts))).countP
            (fun time => s ≤ time ∧ time ≤ t) = 0 := by
          refine List.countP_eq_zero.mpr fun time h htime => ht ?_
          exact Nat.le_trans (clock_le_of_mem_dispatches _ h) (of_decide_eq_true htime).2
        rw [hnone, Nat.cast_zero]
        exact hbound
    · -- what is called now comes too early to count
      have hnow : (dispatches id (w.happenings act)).countP
          (fun time => s ≤ time ∧ time ≤ t) = 0 := by
        refine List.countP_eq_zero.mpr fun time h htime => hs ?_
        rw [← mem_dispatches_happenings h]
        exact (of_decide_eq_true htime).1
      rw [journal_cons, dispatches_append, List.countP_append, hnow, Nat.zero_add]
      exact ih (gated_step hgated act) (hinted_step hhinted hact)
        fun act' h => hspares act' (List.mem_cons_of_mem act h)

theorem hinted_run (acts : List (Act α)) : ∀ {w : Traffic ℚ α}, w.router.Hinted id rpm →
    (∀ act ∈ acts, act.Spares id rpm) → (w.run acts).router.Hinted id rpm := by
  induction acts with
  | nil => intro w h _; exact h
  | cons act acts ih =>
    intro w h hspares
    exact ih (hinted_step h (hspares act List.mem_cons_self))
      fun act' h' => hspares act' (List.mem_cons_of_mem act h')

/-! ### The budget -/

/-- What a budget allows in a run. -/
structure KeepsBudget (w : Traffic ℚ α) (id : EndpointId) (rpm burst : UInt32)
    (acts : List (Act α)) : Prop where
  /-- In any length of time no more is called than a full bucket holds and gains. -/
  between : ∀ s t : Instant,
    ((dispatches id (w.journal acts)).countP (fun time => s ≤ time ∧ time ≤ t) : ℚ) ≤
      rpm.toNat + burst.toNat + rpm.toNat * (t.since s).inSeconds / 60
  /-- The tokens never run into debt and are never more than a full bucket holds. -/
  filled : ∀ {before later}, acts = before ++ later →
    0 ≤ (w.run before).router.level id rpm (w.run before).clock ∧
    (w.run before).router.level id rpm (w.run before).clock ≤ rpm.toNat + burst.toNat
  /-- Every call of a backend is paid for with one token, and nothing else is. -/
  charges : ∀ {before i m later}, acts = before ++ .move i m :: later →
    (w.run before).Charges id rpm i m

end Traffic

/-- **No endpoint is called beyond its budget**, whatever went before since the gate was
new. -/
theorem dispatches_within_budget {w : Traffic ℚ α} {id : EndpointId} {rpm burst : UInt32}
    {before acts : List (Act α)} (hgate : w.router.gate = some { burst }) (hrpm : rpm ≠ 0)
    (hhinted : (w.run before).router.Hinted id rpm)
    (hspares : ∀ act ∈ acts, act.Spares id rpm) :
    (w.run before).KeepsBudget id rpm burst acts := by
  have hgated : (w.run before).router.Gated burst :=
    Traffic.gated_run before ⟨{ burst }, hgate, rfl, Gate.sound_new burst⟩
  exact {
    between := by
      intro s t
      have hbound := Traffic.dispatches_between s t hrpm acts hgated hhinted hspares
      rwa [div_mul_eq_mul_div] at hbound
    filled := by
      rintro before' later -
      have hnow := Traffic.gated_run before' hgated
      exact ⟨hnow.level_nonneg, hnow.level_le⟩
    charges := by
      rintro before' i m later rfl
      have hhinted' := Traffic.hinted_run before' hhinted fun act h =>
        hspares act (List.mem_append_left _ h)
      exact Traffic.charges_move (Traffic.gated_run before' hgated) hhinted' hrpm i m }

/-- An endpoint that tolerates one request a minute. -/
def Endpoint.metered : Endpoint :=
  { Endpoint.shared "fast" with rpmHint := some 1 }

/-- Traffic in which budgets are kept. -/
def Traffic.metered : Traffic ℚ Unit where
  router := { registry := Registry.empty.register .metered, gate := some { burst := 0 } }
  clock := .zero

/-- Three calls, of which the second comes too soon. -/
def rush : List (Act Unit) :=
  [.start ["fast"] false, .start ["fast"] false, .start ["fast"] false,
    .move 0 .takeUp, .pass (.ofMillis 59000), .move 1 .takeUp, .pass (.ofMillis 1000),
    .move 2 .takeUp]

theorem dispatches_within_budget_rush :
    Traffic.metered.KeepsBudget Endpoint.metered.id 1 0 rush ∧
    (dispatches Endpoint.metered.id (Traffic.metered.journal rush)).map (·.nanos) =
      [0, 60 * nanosPerSecond] ∧
    (Traffic.metered.run rush).calls[1]?.map (·.trail) =
      some [.skip "fast" .throttled none] := by
  have hhinted : (Traffic.metered.run []).router.Hinted Endpoint.metered.id 1 := by
    intro name e he _
    have hafter : e ∈ (Registry.empty.after (.register .metered)).endpoints name := he
    rcases Registry.mem_endpoints_after hafter with hold | hnew
    · cases hold
    · rw [List.mem_singleton.mp hnew]
      rfl
  have hspares : ∀ act ∈ rush, act.Spares Endpoint.metered.id 1 := by
    simp [rush, Act.Spares]
  have hkeeps : (Traffic.metered.run []).KeepsBudget Endpoint.metered.id 1 0 rush :=
    dispatches_within_budget rfl (by decide) hhinted hspares
  exact ⟨hkeeps, by decide +kernel, by decide +kernel⟩

end Failover
