import Failover.Proofs.Shares

/-!
# Routing by name and identity

As long as no call is held to a budget, routing knows an endpoint by its name and by its
identity alone.  Whatever else an endpoint says of itself is handed on and never looked
at.  So other endpoints can be put in place of the ones there are, each with the name and
the identity of the one that it stands for, and the same happens, to the other endpoints;
and as no budget is ever asked, there need not be a gate.

No call is held to a budget if there is no gate, or if the gate would find no rate, or a
rate of zero, wherever it looks.

## Main definitions

* `Relabelling` — other endpoints in place of the ones there are.
* `Endpoint.relabel` and its likes — whatever holds endpoints, with the other ones.
* `Router.plain`, `Traffic.plain` — a router without its gate and with other endpoints.
* `Router.Unlimited`, `Traffic.Unlimited` — no call is held to a budget.

## Main results

* `Registry.after_relabel` — operations on a registry commute with relabelling.
* `Progress.plain` — a move does the same in the plain router.
* `Traffic.step_plain` — so does an act.
* `Traffic.run_plain` — **what happens hangs on the names and the identities alone.**
-/

namespace Failover

variable {τ : Type} [TokenNumber τ] {α : Type}

/-! ### Tables with other values -/

namespace Table

variable {κ ν ν' : Type} [Key κ]

/-- The table with another value in place of each. -/
def map (t : Table κ ν) (f : ν → ν') : Table κ ν' :=
  ⟨t.rows.map fun row => (row.1, f row.2), List.pairwise_map.mpr t.ascending⟩

@[simp] theorem get?_map (t : Table κ ν) (f : ν → ν') (k : κ) :
    (t.map f).get? k = (t.get? k).map f := by
  refine Option.ext fun v => ?_
  rw [get?_eq_some_iff, Option.map_eq_some_iff]
  simp only [map, List.mem_map, Prod.mk.injEq, Prod.exists, get?_eq_some_iff]
  constructor
  · rintro ⟨_, v₀, hrow, rfl, hv⟩
    exact ⟨v₀, hrow, hv⟩
  · rintro ⟨v₀, hrow, hv⟩
    exact ⟨k, v₀, hrow, rfl, hv⟩

end Table

/-! ### Relabellings -/

/-- Other endpoints in place of the ones there are. -/
structure Relabelling where
  /-- The endpoint that stands for another. -/
  replace : Endpoint → Endpoint
  /-- It has its name. -/
  name_replace : ∀ e, (replace e).name = e.name
  /-- It has its identity. -/
  id_replace : ∀ e, (replace e).id = e.id

/-- Every endpoint stands for itself. -/
def Relabelling.same : Relabelling := ⟨id, fun _ => rfl, fun _ => rfl⟩

/-- An endpoint under a relabelling. -/
def Endpoint.relabel (l : Relabelling) (e : Endpoint) : Endpoint := l.replace e

/-- A group under a relabelling. -/
def Group.relabel (l : Relabelling) (g : Group) : Group :=
  { g with endpoints := g.endpoints.map (·.relabel l) }

/-- A registry under a relabelling. -/
def Registry.relabel (l : Relabelling) (r : Registry) : Registry :=
  ⟨r.groups.map (·.relabel l)⟩

/-- An operation on a registry under a relabelling. -/
def Registry.Operation.relabel (l : Relabelling) : Operation → Operation
  | register e => register (e.relabel l)
  | unregister name => unregister name
  | replaceGroup name es => replaceGroup name (es.map (·.relabel l))
  | resolve name => resolve name

/-- A flight under a relabelling. -/
def Flight.relabel (l : Relabelling) (f : Flight) : Flight :=
  { f with endpoint := f.endpoint.relabel l }

/-- A verdict under a relabelling: the endpoint that answered is another. -/
def Verdict.relabel (l : Relabelling) : Verdict α → Verdict α
  | .routed r => .routed { r with endpoint := r.endpoint.relabel l }
  | .failed error => .failed error
  | .clockOverflow => .clockOverflow

/-- A stage under a relabelling. -/
def Stage.relabel (l : Relabelling) : Stage α → Stage α
  | .seeking rest => .seeking rest
  | .flying f => .flying (f.relabel l)
  | .over v => .over (v.relabel l)

/-- A call under a relabelling. -/
def Call.relabel (l : Relabelling) (call : Call α) : Call α :=
  { call with stage := call.stage.relabel l }

/-- An incident under a relabelling. -/
def Incident.relabel (l : Relabelling) : Incident α → Incident α
  | .reached candidate group => .reached candidate (group.map (·.relabel l))
  | .invoked e => .invoked (e.relabel l)
  | x => x

/-- A change under a relabelling. -/
def Change.relabel (l : Relabelling) : Change → Change
  | .register e => .register (e.relabel l)
  | .replaceGroup name es => .replaceGroup name (es.map (·.relabel l))
  | c => c

/-- An act under a relabelling. -/
def Act.relabel (l : Relabelling) : Act α → Act α
  | .change c => .change (c.relabel l)
  | act => act

/-- A happening under a relabelling. -/
def Happening.relabel (l : Relabelling) : Happening α → Happening α
  | .incident i time x => .incident i time (x.relabel l)
  | .changed time c => .changed time (c.relabel l)

section Laws

variable (l : Relabelling)

@[simp] theorem Endpoint.name_relabel (e : Endpoint) : (e.relabel l).name = e.name :=
  l.name_replace e

@[simp] theorem Endpoint.id_relabel (e : Endpoint) : (e.relabel l).id = e.id :=
  l.id_replace e

@[simp] theorem Attempt.incidents_relabel (a : Attempt) :
    (a.incidents : List (Incident α)).map (·.relabel l) = a.incidents := rfl

theorem Flight.id_endpoint_relabel (f : Flight) :
    (f.relabel l).endpoint.id = f.endpoint.id :=
  l.id_replace f.endpoint

theorem Flight.attempt_relabel (f : Flight) (now : Instant) (outcome : Outcome)
    (kind : Option Kind) :
    (f.relabel l).attempt now outcome kind = f.attempt now outcome kind := by
  rw [attempt, id_endpoint_relabel]
  rfl

theorem Move.suits_relabel (m : Move α) (stage : Stage α) :
    m.suits (stage.relabel l) = m.suits stage := by
  cases m <;> cases stage <;> rfl

end Laws

/-! ### Registries -/

namespace Group

variable (l : Relabelling) (g : Group)

theorem position_relabel : (g.relabel l).position = g.position := by
  simp only [position, relabel, List.length_map]

theorem advance_relabel : (g.relabel l).advance = g.advance.relabel l := by
  simp only [advance, relabel, List.length_map]

end Group

namespace Registry

variable (l : Relabelling)

/-- A registry is determined by its groups. -/
theorem ext_get? {r r' : Registry} (h : ∀ n, r.groups.get? n = r'.groups.get? n) : r = r' :=
  congrArg mk (Table.ext_get? h)

theorem get?_relabel (r : Registry) (n : String) :
    (r.relabel l).groups.get? n = (r.groups.get? n).map (·.relabel l) :=
  Table.get?_map r.groups _ n

theorem endpoints_relabel (r : Registry) (n : String) :
    (r.relabel l).endpoints n = (r.endpoints n).map (·.relabel l) := by
  rw [endpoints_eq, endpoints_eq, get?_relabel]
  cases r.groups.get? n <;> rfl

theorem cursor?_relabel (r : Registry) (n : String) :
    (r.relabel l).cursor? n = r.cursor? n := by
  rw [cursor?_eq, cursor?_eq, get?_relabel, Option.map_map]
  rfl

theorem Operation.name_relabel (op : Operation) : (op.relabel l).name = op.name := by
  cases op with
  | register e => exact Endpoint.name_relabel l e
  | _ => rfl

/-- The effect of an operation on a group commutes with relabelling. -/
theorem Operation.effect_relabel (op : Operation) (g : Option Group) :
    (op.relabel l).effect (g.map (·.relabel l)) = (op.effect g).map (·.relabel l) := by
  cases op with
  | register e => cases g <;> simp [relabel, effect, Group.relabel, Group.append]
  | unregister name => rfl
  | replaceGroup name es =>
    simp only [relabel, effect, List.mem_map, exists_exists_and_eq_and, Endpoint.name_relabel,
      List.map_eq_nil_iff]
    split
    · rfl
    · split
      · rfl
      · cases g <;> rfl
  | resolve name =>
    cases g with
    | none => rfl
    | some g =>
      simp only [relabel, effect, Option.map_some, Group.advance_relabel]
      by_cases hnil : g.endpoints = [] <;> simp [Group.relabel, hnil]

/-- **Operations on a registry commute with relabelling.** -/
theorem after_relabel (r : Registry) (op : Operation) :
    (r.after op).relabel l = (r.relabel l).after (op.relabel l) := by
  refine ext_get? fun n => ?_
  rw [get?_relabel]
  by_cases hn : n = op.name
  · subst hn
    have hself := (r.relabel l).get?_after_self (op.relabel l)
    rw [Operation.name_relabel, get?_relabel, Operation.effect_relabel] at hself
    rw [hself, get?_after_self]
  · have hn' : n ≠ (op.relabel l).name := by rwa [Operation.name_relabel]
    rw [get?_after_of_ne r hn, get?_after_of_ne (r.relabel l) hn', get?_relabel]

/-- A name is resolved to what stands for its endpoint. -/
theorem resolve_relabel {r registry : Registry} {name : String} {e : Endpoint}
    (h : r.resolve name = some (e, registry)) :
    (r.relabel l).resolve name = some (e.relabel l, registry.relabel l) := by
  have hafter : registry.relabel l = (r.relabel l).after (.resolve name) := by
    rw [eq_after_of_resolve h]
    exact after_relabel l r (.resolve name)
  rcases r.resolve_cases name with ⟨-, hnone⟩ | ⟨g, e', hget, hne, hturn, hsome⟩
  · cases hnone.symm.trans h
  · cases hsome.symm.trans h
    rcases (r.relabel l).resolve_cases name with ⟨hnil, -⟩ | ⟨g', e', hget', -, hturn', hsome'⟩
    · rw [endpoints_relabel, List.map_eq_nil_iff, endpoints_eq, hget] at hnil
      exact absurd hnil hne
    · rw [get?_relabel, hget] at hget'
      cases hget'
      rw [Group.position_relabel] at hturn'
      obtain rfl : e.relabel l = e' := by
        simpa [Group.relabel, hturn] using hturn'
      rw [hsome', hafter, eq_after_of_resolve hsome']

end Registry

/-! ### Where every endpoint stands for itself -/

@[simp] theorem Endpoint.map_relabel_same (es : List Endpoint) :
    es.map (·.relabel .same) = es :=
  List.map_id es

@[simp] theorem Registry.relabel_same (r : Registry) : r.relabel .same = r := by
  refine ext_get? fun n => ?_
  rw [get?_relabel]
  cases r.groups.get? n with
  | none => rfl
  | some g => simp [Group.relabel]

@[simp] theorem Stage.relabel_same : ∀ stage : Stage α, stage.relabel .same = stage
  | .seeking _ | .flying _ => rfl
  | .over v => by cases v <;> rfl

@[simp] theorem Call.relabel_same (call : Call α) : call.relabel .same = call := by
  rw [relabel, Stage.relabel_same]

@[simp] theorem Incident.relabel_same (x : Incident α) : x.relabel .same = x := by
  cases x with
  | reached candidate group => simp [relabel]
  | _ => rfl

@[simp] theorem Change.relabel_same (c : Change) : c.relabel .same = c := by
  cases c with
  | replaceGroup name es => simp [relabel]
  | _ => rfl

@[simp] theorem Act.relabel_same (act : Act α) : act.relabel .same = act := by
  cases act <;> simp [relabel]

@[simp] theorem Happening.relabel_same (x : Happening α) : x.relabel .same = x := by
  cases x <;> simp [relabel]

/-! ### Calls that are not held to a budget -/

/-- No rate is known of an endpoint, or one of zero, which is no limit. -/
def Endpoint.Unlimited (e : Endpoint) : Prop := e.rpmHint = none ∨ e.rpmHint = some 0

/-- An act that brings only such endpoints. -/
def Act.Unlimited (act : Act α) : Prop := ∀ e ∈ act.brought, e.Unlimited

/-- An act that is not made on the gate directly. -/
def Act.SparesGate : Act α → Prop
  | .change (.acquire _ _) | .change (.available _) | .change .resetGate => False
  | _ => True

/-- No call of a router is held to a budget. -/
def Router.Unlimited (r : Router τ) : Prop :=
  r.gate = none ∨ ∀ n, ∀ e ∈ r.registry.endpoints n, e.Unlimited

/-- No call of a router is held to a budget, nor will any be after some acts. -/
structure Traffic.Unlimited (w : Traffic τ α) (acts : List (Act α)) : Prop where
  /-- None is now. -/
  router : w.router.Unlimited
  /-- It stays that way. -/
  acts : w.router.gate = none ∨ ∀ act ∈ acts, act.Unlimited

/-- Such a call is always admitted, and the gate is left as it is. -/
theorem Router.Unlimited.admission {r : Router τ} (h : r.Unlimited) {n : String} {e : Endpoint}
    (he : e ∈ r.registry.endpoints n) {now : Instant} {granted : Bool} {gate : Option (Gate τ)}
    (hgate : r.Admission e now granted gate) : granted = true ∧ gate = r.gate := by
  cases hgate with
  | unasked => exact ⟨rfl, rfl⟩
  | @asked g rpm hg hhint =>
    rcases h with hnone | hunlimited
    · cases hnone.symm.trans hg
    · -- the rate is zero
      rcases hunlimited n e he with hnone | hzero
      · cases hnone.symm.trans hhint
      · cases hzero.symm.trans hhint
        rw [hg]
        exact ⟨rfl, rfl⟩

/-- A move of such a call leaves the gate as it is. -/
theorem Progress.gate_of_unlimited {r : Router τ} {now : Instant} {call : Call α} {m : Move α}
    {turn : Turn τ α} {log : List (Incident α)} (h : Progress r now call m turn log)
    (hunlimited : r.Unlimited) : turn.router.gate = r.gate := by
  cases h with
  | throttled hresolve _ hgate | dispatched hresolve _ hgate =>
    exact (hunlimited.admission (Registry.mem_of_resolve hresolve) hgate).2
  | _ => rfl

namespace Traffic

/-- Where no call is held to a budget, only acts on the gate change it. -/
theorem gate_step {w : Traffic τ α} (h : w.router.Unlimited) {act : Act α}
    (hact : w.router.gate = none ∨ act.SparesGate) :
    (w.step act).router.gate = w.router.gate := by
  rcases w.router_step_cases act with
    hsame | ⟨call, m, turn, log, hprogress, hrouter⟩ | ⟨c, rfl, happly⟩
  · rw [hsame]
  · rw [hrouter]
    exact hprogress.gate_of_unlimited h
  · rw [Router.gate_apply happly]
    cases c with
    | acquire id rpm | available id | resetGate =>
      rcases hact with hnone | hspares
      · rw [hnone]
        rfl
      · cases hspares
    | _ => rfl

theorem Unlimited.step {w : Traffic τ α} {act : Act α} {acts : List (Act α)}
    (h : w.Unlimited (act :: acts)) : (w.step act).Unlimited acts := by
  by_cases hnone : w.router.gate = none
  · have hstays : (w.step act).router.gate = none :=
      (gate_step h.router (Or.inl hnone)).trans hnone
    exact ⟨Or.inl hstays, Or.inl hstays⟩
  · obtain ⟨hact, hrest⟩ := List.forall_mem_cons.mp (h.acts.resolve_left hnone)
    refine ⟨Or.inr fun n e he => ?_, Or.inr hrest⟩
    rcases mem_endpoints_step he with hold | hnew
    · exact h.router.resolve_left hnone n e hold
    · exact hact e hnew

theorem Unlimited.run (acts : List (Act α)) : ∀ {w : Traffic τ α}, w.Unlimited acts →
    (w.run acts).router.Unlimited := by
  induction acts with
  | nil => intro w h; exact h.router
  | cons act acts ih => intro w h; exact ih h.step

/-- Where no call is held to a budget, the gate stays what it was unless it is used
directly. -/
theorem Unlimited.gate_run (acts : List (Act α)) : ∀ {w : Traffic τ α}, w.Unlimited acts →
    (∀ act ∈ acts, act.SparesGate) → (w.run acts).router.gate = w.router.gate := by
  induction acts with
  | nil => intro w _ _; rfl
  | cons act acts ih =>
    intro w h hspares
    obtain ⟨hact, hrest⟩ := List.forall_mem_cons.mp hspares
    exact (ih h.step hrest).trans (gate_step h.router (Or.inr hact))

end Traffic

/-! ### Moves of the plain router -/

/-- A router without its gate and with other endpoints. -/
def Router.plain (l : Relabelling) (r : Router τ) : Router τ :=
  { r with registry := r.registry.relabel l, gate := none }

/-- The traffic of a plain router. -/
def Traffic.plain (l : Relabelling) (w : Traffic τ α) : Traffic τ α :=
  ⟨w.router.plain l, w.clock, w.calls.map (·.relabel l)⟩

/-- The turn at a plain router. -/
def Turn.plain (l : Relabelling) (turn : Turn τ α) : Turn τ α :=
  ⟨turn.router.plain l, turn.call.relabel l, turn.notices⟩

section Moves

variable (l : Relabelling) {r : Router τ} {now : Instant} {call : Call α} {m : Move α}

/-- **A move does the same in the plain router**, as long as no call is held to a budget. -/
theorem Progress.plain {turn : Turn τ α} {log : List (Incident α)}
    (h : Progress r now call m turn log) (hunlimited : r.Unlimited) :
    Progress (r.plain l) now (call.relabel l) m (turn.plain l) (log.map (·.relabel l)) := by
  cases h with
  | idle hsuits => exact .idle ((m.suits_relabel l _).trans hsuits)
  | cancelled => exact .cancelled
  | exhausted => exact .exhausted
  | abandoned => exact .abandoned
  | unregistered hnone =>
    refine .unregistered ?_
    exact (Registry.endpoints_relabel l _ _).trans (by rw [hnone]; rfl)
  | @cooling _ _ _ _ e _ _ _ hresolve hactive ha =>
    rw [← Endpoint.id_relabel l e] at hactive
    rw [List.map_cons, Attempt.incidents_relabel, Incident.relabel, ← Registry.endpoints_relabel]
    exact .cooling (Registry.resolve_relabel l hresolve) hactive ha
  | throttled hresolve hclear hgate ha =>
    cases (hunlimited.admission (Registry.mem_of_resolve hresolve) hgate).1
  | @dispatched _ _ _ _ e _ _ hresolve hclear hgate =>
    rw [← Endpoint.id_relabel l e] at hclear
    rw [List.map_cons, List.map_cons, List.map_nil, Incident.relabel, Incident.relabel,
      ← Registry.endpoints_relabel]
    exact .dispatched (Registry.resolve_relabel l hresolve) hclear (.unasked (Or.inl rfl))
  | waiting => exact .waiting
  -- a flight goes on under the same identity
  | @dropped f _ _ _ _ ha =>
    rw [← f.attempt_relabel l] at ha
    rw [← f.id_endpoint_relabel l]
    exact .dropped ha
  | @answered f _ _ _ _ _ ha =>
    rw [← f.attempt_relabel l] at ha
    rw [← f.id_endpoint_relabel l]
    exact .answered ha
  | @broken f _ _ _ _ _ _ hkind hfatal ha =>
    rw [← f.attempt_relabel l] at ha
    rw [← f.id_endpoint_relabel l]
    exact .broken hkind hfatal ha
  | @advanced f _ _ _ _ _ _ _ hkind hretriable hrecord ha =>
    rw [← f.attempt_relabel l] at ha
    rw [← f.id_endpoint_relabel l] at hrecord
    exact .advanced hkind hretriable hrecord ha
  | @overflowed f _ _ _ _ hkind hretriable hrecord =>
    rw [← f.id_endpoint_relabel l] at hrecord
    exact .overflowed hkind hretriable hrecord

/-- What a move does in the plain router. -/
theorem Router.Unlimited.move_plain (h : r.Unlimited) (now : Instant) (call : Call α)
    (m : Move α) :
    ((r.plain l).move now (call.relabel l) m).router = (r.move now call m).router.plain l ∧
      ((r.plain l).move now (call.relabel l) m).call = (r.move now call m).call.relabel l ∧
      (r.plain l).incidents now (call.relabel l) m =
        (r.incidents now call m).map (·.relabel l) :=
  ((progress_move r now call m).plain l h).unique (progress_move (r.plain l) now (call.relabel l) m)

end Moves

/-! ### Changes to the plain router -/

namespace Router

/-- A group is put in place as an operation on the registry. -/
theorem apply_replaceGroup (r : Router τ) (now : Instant) (name : String)
    (es : List Endpoint) :
    r.apply now (.replaceGroup name es) =
      some { r with registry := r.registry.after (.replaceGroup name es) } := by
  cases hgroup : r.registry.replaceGroup name es <;>
    simp [apply, replaceGroup, hgroup, Registry.after, bind, Except.bind, pure, Except.pure]

/-- A change does the same to the plain router. -/
theorem apply_plain (l : Relabelling) (r : Router τ) (now : Instant) (c : Change) :
    (r.plain l).apply now (c.relabel l) = (r.apply now c).map (·.plain l) := by
  -- an operation on the registry leaves what it makes of the other endpoints
  have hoperation (op : Registry.Operation) :
      some { r.plain l with registry := (r.plain l).registry.after (op.relabel l) } =
        (some { r with registry := r.registry.after op }).map (·.plain l) :=
    congrArg (fun registry => some { r.plain l with registry })
      (r.registry.after_relabel l op).symm
  cases c with
  | fail id kind =>
    simp only [Change.relabel, apply, recordFailure, plain]
    cases hrecord : r.tracker.recordFailure id kind now <;> rfl
  | register e => exact hoperation (.register e)
  | unregister name => exact hoperation (.unregister name)
  | replaceGroup name es =>
    rw [Change.relabel, apply_replaceGroup, apply_replaceGroup]
    exact hoperation (.replaceGroup name es)
  | acquire id rpm =>
    obtain ⟨registry, tracker, gate, classifier⟩ := r
    cases gate <;> rfl
  | succeed id | purge | reset | available id | resetGate => rfl

end Router

/-! ### Runs of the plain router -/

namespace Traffic

variable (l : Relabelling)

/-- **An act does the same in plain traffic.** -/
theorem step_plain {w : Traffic τ α} (h : w.router.Unlimited) (act : Act α) :
    (w.plain l).step (act.relabel l) = (w.step act).plain l ∧
      (w.plain l).happenings (act.relabel l) = (w.happenings act).map (·.relabel l) := by
  cases act with
  | pass s => exact ⟨rfl, rfl⟩
  | start chain cancelled =>
    exact ⟨by simp [step, plain, Act.relabel, Call.relabel, Call.start, Stage.relabel], rfl⟩
  | move i m =>
    have hcalls : (w.calls.map (·.relabel l))[i]? = w.calls[i]?.map (·.relabel l) :=
      List.getElem?_map
    cases hcall : w.calls[i]? with
    | none =>
      rw [hcall, Option.map_none] at hcalls
      simp [step, happenings, plain, Act.relabel, hcall, hcalls]
    | some call =>
      rw [hcall, Option.map_some] at hcalls
      obtain ⟨hrouter, hturn, hlog⟩ := h.move_plain l w.clock call m
      constructor
      · simp only [step, plain, Act.relabel, hcall, hcalls, hrouter, hturn, List.map_set]
      · simp only [happenings, plain, Act.relabel, hcall, hcalls, hlog, List.map_map]
        rfl
  | change c =>
    have happly := w.router.apply_plain l w.clock c
    cases hchange : w.router.apply w.clock c <;>
      simp [step, happenings, plain, Act.relabel, happly, hchange, Happening.relabel]

/-- **What happens hangs on the names and the identities of endpoints alone**, as long as
no call is held to a budget. -/
theorem run_plain (acts : List (Act α)) : ∀ {w : Traffic τ α}, w.Unlimited acts →
    (w.plain l).run (acts.map (·.relabel l)) = (w.run acts).plain l ∧
      (w.plain l).journal (acts.map (·.relabel l)) = (w.journal acts).map (·.relabel l) := by
  induction acts with
  | nil => intro w _; exact ⟨rfl, rfl⟩
  | cons act acts ih =>
    intro w h
    obtain ⟨hstep, hhappenings⟩ := step_plain l h.router act
    obtain ⟨hrun, hjournal⟩ := ih h.step
    rw [List.map_cons, run_cons, run_cons, journal_cons, journal_cons, hstep, hhappenings,
      hrun, hjournal, List.map_append]
    exact ⟨rfl, rfl⟩

end Traffic

end Failover
