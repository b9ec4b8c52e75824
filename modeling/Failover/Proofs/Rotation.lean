import Failover.Proofs.Groups
import Failover.Proofs.Traffic
import Mathlib.Data.List.Rotate

/-!
# Rotation

Requests for a name go round its group, whoever makes them: calls that take up the
name as a candidate, be it called or passed over, and others that resolve it
directly.  A request counts as a turn exactly if it is given an endpoint, and what
happens to other names, to the tracker and to the gate in between takes no turn.

The turns of a steady group follow its `rota`: the positions come round in order, so
that any round of turns is the group itself in rotated order, and over any number of
turns no position is ahead of another by more than one.

## Main definitions

* `rota` — the positions whose turns come one after the other.
* `Demand`, `Traffic.meet` — traffic in which names are also resolved directly.
* `Traffic.turn?`, `Traffic.served` — the endpoints that a name is given.
* `Traffic.Steady` — runs in which a name keeps its endpoints.
* `Change.regroups?` — the changes that give a name other endpoints.
* `Traffic.Rotates` — how a group takes turns in a run.

## Main results

* `count_rota` — over any number of turns the positions come up equally often, up to
  one turn.
* `Traffic.given_of_invoked` — the backend that a call calls is that of its turn.
* `Traffic.group_meet` — what a demand does to a group that is steady.
* `rotation_exact` — **turns are taken in exact rotation.**
-/

namespace Failover

variable {τ : Type} [TokenNumber τ] {α : Type}

/-! ### The rota -/

/-- The positions whose turns come one after the other in a group of `n`: `k` of them,
from the count `c` on. -/
def rota (n c k : Nat) : List Nat := (List.range' c k).map (· % n)

@[simp] theorem length_rota (n c k : Nat) : (rota n c k).length = k := by simp [rota]

theorem rota_succ (n c k : Nat) : rota n c (k + 1) = c % n :: rota n (c + 1) k := by
  simp [rota, List.range'_succ]

theorem rota_add (n c j k : Nat) : rota n c (j + k) = rota n c j ++ rota n (c + j) k := by
  simp [rota, ← List.range'_append_1]

theorem getElem?_rota {n c k i : Nat} (h : i < k) : (rota n c k)[i]? = some ((c + i) % n) := by
  simp [rota, h]

/-- A round of turns comes to every position, in rotated order. -/
theorem rota_round (n c : Nat) : rota n c n = (List.range n).rotate c := by
  refine List.ext_getElem? fun i => ?_
  by_cases hi : i < n
  · rw [getElem?_rota hi, List.getElem?_rotate (by simpa using hi), List.length_range,
      List.getElem?_range (Nat.mod_lt _ (Nat.zero_lt_of_lt hi)), Nat.add_comm]
  · rw [List.getElem?_eq_none (by simpa using hi), List.getElem?_eq_none (by simpa using hi)]

theorem count_rota_round {n p : Nat} (c : Nat) (hp : p < n) : (rota n c n).count p = 1 := by
  have hperm : (rota n c n).Perm (List.range n) := rota_round n c ▸ List.rotate_perm _ c
  rw [hperm.count_eq]
  exact List.count_eq_one_of_mem List.nodup_range (List.mem_range.mpr hp)

/-- **No position is ahead of another by more than one turn**: over `k` turns each comes
up as often as `k` divided by the size of the group says, rounded down or up. -/
theorem count_rota {n p : Nat} (hp : p < n) : ∀ k c,
    k / n ≤ (rota n c k).count p ∧ (rota n c k).count p ≤ (k + n - 1) / n := by
  intro k
  induction k using Nat.strongRecOn with
  | ind k ih =>
    intro c
    have hn : 0 < n := Nat.zero_lt_of_lt hp
    by_cases hk : k < n
    · -- a part of a round, in which no position comes up twice
      have hround := count_rota_round c hp
      have hsplit : rota n c n = rota n c k ++ rota n (c + k) (n - k) := by
        rw [← rota_add, Nat.add_sub_cancel' (Nat.le_of_lt hk)]
      rw [hsplit, List.count_append] at hround
      refine ⟨by rw [Nat.div_eq_of_lt hk]; exact Nat.zero_le _, ?_⟩
      cases k with
      | zero => simp [rota]
      | succ k =>
        have hone : 1 ≤ (k + 1 + n - 1) / n := (Nat.one_le_div_iff hn).mpr (by omega)
        omega
    · -- a whole round comes first
      obtain ⟨k, rfl⟩ : ∃ j, k = n + j := ⟨k - n, by omega⟩
      obtain ⟨hlow, hhigh⟩ := ih k (by omega) (c + n)
      have hdown : (n + k) / n = k / n + 1 := by rw [Nat.add_comm, Nat.add_div_right k hn]
      have hup : (n + k + n - 1) / n = (k + n - 1) / n + 1 := by
        rw [← Nat.add_div_right _ hn]
        congr 1
        omega
      rw [rota_add, List.count_append, count_rota_round c hp]
      omega

/-! ### Traffic in which names are resolved directly -/

/-- Something that is asked of traffic. -/
inductive Demand (α : Type) where
  /-- An act takes place. -/
  | act (act : Act α)
  /-- A name is resolved directly. -/
  | resolve (name : String)

/-- The endpoint that a decision is about. -/
def Decision.endpoint? : Decision → Option Endpoint
  | .unregistered => none
  | .cooling e _ | .spent e _ | .dispatch e => some e

/-- The candidate that a call takes up in its turn. -/
def Call.candidate? (call : Call α) : Option String :=
  match call.stage with
  | .seeking (candidate :: _) => if call.cancelled then none else some candidate
  | _ => none

namespace Traffic

/-- The traffic after a demand. -/
def meet (w : Traffic τ α) : Demand α → Traffic τ α
  | .act act => w.step act
  | .resolve name =>
      { w with router.registry := w.router.registry.after (.resolve name) }

/-- The traffic after some demands. -/
def meetAll (w : Traffic τ α) (ds : List (Demand α)) : Traffic τ α := ds.foldl meet w

/-- The name that a demand is for and the endpoint that it is given: to a call, the one
that is then called or passed over. -/
def given (w : Traffic τ α) : Demand α → Option (String × Endpoint)
  | .act (.move i .takeUp) => do
      let call ← w.calls[i]?
      let candidate ← call.candidate?
      let e ← (w.router.consider candidate w.clock).1.endpoint?
      return (candidate, e)
  | .act _ => none
  | .resolve name => do
      let (e, _) ← w.router.registry.resolve name
      return (name, e)

/-- The endpoint that a demand for a name is given. -/
def turn? (w : Traffic τ α) (name : String) (d : Demand α) : Option Endpoint :=
  (w.given d).bind fun (n, e) => if n = name then some e else none

/-- The endpoints that a name is given in the course of some demands. -/
def served (name : String) : Traffic τ α → List (Demand α) → List Endpoint
  | _, [] => []
  | w, d :: ds => (w.turn? name d).toList ++ served name (w.meet d) ds

/-- A run in which a name has the same endpoints all the time. -/
def Steady (name : String) (es : List Endpoint) : Traffic τ α → List (Demand α) → Prop
  | w, [] => w.router.registry.endpoints name = es
  | w, d :: ds => w.router.registry.endpoints name = es ∧ Steady name es (w.meet d) ds

theorem Steady.endpoints_eq {name : String} {es : List Endpoint} {w : Traffic τ α}
    {ds : List (Demand α)} (h : Steady name es w ds) : w.router.registry.endpoints name = es := by
  cases ds with
  | nil => exact h
  | cons d ds => exact h.1

theorem Steady.endpoints_meetAll {name : String} {es : List Endpoint} (ds : List (Demand α)) :
    ∀ {w : Traffic τ α}, Steady name es w ds →
      (w.meetAll ds).router.registry.endpoints name = es := by
  induction ds with
  | nil => intro w h; exact h
  | cons d ds ih => intro w h; exact ih h.2

/-! ### What a demand does to the registry -/

/-- The operation on the registry that a demand comes down to, if it does. -/
def operation? (w : Traffic τ α) : Demand α → Option Registry.Operation
  | .act (.move i .takeUp) => do
      let call ← w.calls[i]?
      let candidate ← call.candidate?
      return .resolve candidate
  | .act (.change (.register e)) => some (.register e)
  | .act (.change (.unregister name)) => some (.unregister name)
  | .act (.change (.replaceGroup name es)) => some (.replaceGroup name es)
  | .act _ => none
  | .resolve name => some (.resolve name)

end Traffic

/-- The endpoint that a candidate is considered with is the one that its name is
resolved to. -/
theorem Router.endpoint?_consider (r : Router τ) (candidate : String) (now : Instant) :
    (r.consider candidate now).1.endpoint? = (r.registry.resolve candidate).map (·.1) := by
  cases hresolve : r.registry.resolve candidate with
  | none =>
    have hconsider : r.consider candidate now = (.unregistered, r) := by
      simp only [consider, hresolve]
    rw [hconsider]
    rfl
  | some p =>
    obtain ⟨e, registry⟩ := p
    cases hactive : r.tracker.active? e.id now with
    | some s =>
      have hconsider : r.consider candidate now = (.cooling e s, { r with registry }) := by
        simp only [consider, hresolve, hactive]
      rw [hconsider]
      rfl
    | none =>
      rcases r.consider_of_clear hresolve hactive with
        ⟨gate, -, hconsider⟩ | ⟨gate, rpm, -, hconsider⟩ <;>
      · rw [hconsider]
        rfl

/-- A move resolves the candidate that is taken up in it, and else leaves the registry
alone. -/
theorem Progress.registry {r : Router τ} {now : Instant} {call : Call α} {m : Move α}
    {turn : Turn τ α} {log : List (Incident α)} (h : Progress r now call m turn log) :
    turn.router.registry =
      match m, call.candidate? with
      | .takeUp, some candidate => r.registry.after (.resolve candidate)
      | _, _ => r.registry := by
  cases h with
  | @idle stage trail cancelled m hsuits =>
    cases m with
    | takeUp =>
      cases stage with
      | seeking rest => cases hsuits
      | _ => rfl
    | poll p | cancel => rfl
  | unregistered hnone =>
    have hunresolved := Registry.resolve_eq_none_iff.mpr hnone
    simp only [Call.candidate?, Registry.after, hunresolved, Bool.false_eq_true, if_false]
  | cooling hresolve | throttled hresolve | dispatched hresolve =>
    simp only [Call.candidate?, Registry.after, hresolve, Bool.false_eq_true, if_false]
  | _ => rfl

namespace Traffic

/-- A demand does to the registry what its operation does. -/
theorem registry_meet (w : Traffic τ α) (d : Demand α) :
    (w.meet d).router.registry =
      match w.operation? d with
      | some op => w.router.registry.after op
      | none => w.router.registry := by
  cases d with
  | resolve name => rfl
  | act act =>
    cases act with
    | pass s => rfl
    | start chain cancelled => rfl
    | move i m =>
      cases hcall : w.calls[i]? with
      | none => cases m <;> simp [meet, step, operation?, hcall]
      | some call =>
        have hregistry := (progress_move w.router w.clock call m).registry
        simp only [meet, step, hcall, hregistry]
        cases m with
        | takeUp => cases hcandidate : call.candidate? <;> simp [operation?, hcall, hcandidate]
        | poll p | cancel => rfl
    | change c =>
      cases c with
      | fail id kind =>
        rcases w.router.recordFailure_cases id kind w.clock with
          ⟨-, hrecord⟩ | ⟨liftedAt, tracker, notices, -, hrecord, -⟩ <;>
          simp [meet, step, Router.apply, hrecord, operation?]
      | replaceGroup name es =>
        cases hgroup : w.router.registry.replaceGroup name es <;>
          simp [meet, step, Router.apply, Router.replaceGroup, hgroup, operation?,
            Registry.after, bind, Except.bind, pure, Except.pure]
      | acquire id rpm =>
        cases hgate : w.router.gate <;>
          simp [meet, step, Router.apply, Router.acquire, hgate, operation?]
      | _ => rfl

/-- A demand is given an endpoint exactly if it comes down to resolving a name. -/
theorem given_eq (w : Traffic τ α) (d : Demand α) :
    w.given d =
      match w.operation? d with
      | some (.resolve name) => (w.router.registry.resolve name).map fun p => (name, p.1)
      | _ => none := by
  cases d with
  | resolve name =>
    cases hresolve : w.router.registry.resolve name <;> simp [given, operation?, hresolve]
  | act act =>
    cases act with
    | pass s => rfl
    | start chain cancelled => rfl
    | move i m =>
      cases m with
      | poll p | cancel => rfl
      | takeUp =>
        cases hcall : w.calls[i]? with
        | none => simp [given, operation?, hcall]
        | some call =>
          cases hcandidate : call.candidate? with
          | none => simp [given, operation?, hcall, hcandidate]
          | some candidate =>
            have hdecision := w.router.endpoint?_consider candidate w.clock
            cases hresolve : w.router.registry.resolve candidate <;>
              simp [given, operation?, hcall, hcandidate, hdecision, hresolve]
    | change c => cases c <;> rfl

/-- A backend that is called is that of the endpoint which the call was given. -/
theorem given_of_invoked {w : Traffic τ α} {i : Nat} {m : Move α} {e : Endpoint}
    (h : e ∈ invocations (incidentsOf i (w.happenings (.move i m)))) :
    ∃ candidate, w.given (.act (.move i m)) = some (candidate, e) := by
  cases hcall : w.calls[i]? with
  | none =>
    simp only [happenings, hcall] at h
    exact absurd h List.not_mem_nil
  | some call =>
    obtain ⟨turn, hprogress, -, -⟩ := call_step_move hcall m
    generalize incidentsOf i (w.happenings (.move i m)) = log at h hprogress
    cases hprogress with
    | @dispatched candidate rest trail notices e' registry gate hresolve =>
      obtain rfl : e = e' := List.mem_singleton.mp h
      have hop : w.operation? (.act (.move i .takeUp)) = some (.resolve candidate) := by
        simp [operation?, hcall, Call.candidate?]
      refine ⟨candidate, ?_⟩
      rw [given_eq, hop]
      simp only [hresolve, Option.map_some]
    | _ => exact absurd h List.not_mem_nil

theorem turn?_of_resolve {w : Traffic τ α} {d : Demand α} {name : String}
    (hop : w.operation? d = some (.resolve name)) :
    w.turn? name d = (w.router.registry.resolve name).map (·.1) := by
  rw [turn?, given_eq, hop]
  cases hresolve : w.router.registry.resolve name <;> simp [hresolve]

theorem turn?_of_ne {w : Traffic τ α} {d : Demand α} {name : String}
    (hop : w.operation? d ≠ some (.resolve name)) : w.turn? name d = none := by
  rw [turn?, given_eq]
  split
  next n hn =>
    have hne : n ≠ name := fun h => hop (h ▸ hn)
    cases w.router.registry.resolve n <;> simp [hne]
  next => rfl

end Traffic

/-- An operation on a group that leaves it its endpoints leaves it as it is, unless it
takes a turn of it. -/
theorem Registry.Operation.effect_of_steady {op : Operation} {g : Group}
    (hne : g.endpoints ≠ [])
    (hsteady : ((op.effect (some g)).map (·.endpoints)).getD [] = g.endpoints) :
    (op = .resolve op.name ∧ op.effect (some g) = some g.advance) ∨
    (op ≠ .resolve op.name ∧ op.effect (some g) = some g) := by
  cases op with
  | register e =>
    -- an endpoint that joins makes the group longer
    exact absurd (congrArg List.length hsteady) (by simp [effect, Group.append])
  | unregister name => exact absurd hsteady.symm hne
  | replaceGroup name es =>
    refine Or.inr ⟨fun h => (by cases h), ?_⟩
    simp only [effect] at hsteady ⊢
    split at hsteady
    next hstray => rw [if_pos hstray]
    next hnamed =>
      split at hsteady
      next => exact absurd hsteady.symm hne
      next hnil =>
        obtain rfl : es = g.endpoints := hsteady
        rw [if_neg hnamed, if_neg hnil]
  | resolve name => exact Or.inl ⟨rfl, by simp only [effect, Option.map_some, if_neg hne]⟩

namespace Traffic

/-- **What a demand does to a group that keeps its endpoints**: it takes a turn of it, or
it is none for this name. -/
theorem group_meet {w : Traffic τ α} {d : Demand α} {name : String} {g : Group}
    (hgroup : w.router.registry.groups.get? name = some g) (hne : g.endpoints ≠ [])
    (hsteady : (w.meet d).router.registry.endpoints name = g.endpoints) :
    (∃ e, w.turn? name d = some e ∧ g.endpoints[g.position]? = some e ∧
      (w.meet d).router.registry.groups.get? name = some g.advance) ∨
    (w.turn? name d = none ∧ (w.meet d).router.registry.groups.get? name = some g) := by
  have hregistry := w.registry_meet d
  cases hop : w.operation? d with
  | none =>
    rw [hop] at hregistry
    exact Or.inr ⟨turn?_of_ne (by rw [hop]; exact (Option.some_ne_none _).symm), by rw [hregistry, hgroup]⟩
  | some op =>
    rw [hop] at hregistry
    by_cases hname : name = op.name
    · subst hname
      have hself : (w.meet d).router.registry.groups.get? op.name = op.effect (some g) := by
        rw [hregistry, Registry.get?_after_self, hgroup]
      rw [Registry.endpoints_eq, hself] at hsteady
      rw [hself]
      rcases Registry.Operation.effect_of_steady hne hsteady with
        ⟨hresolve, heffect⟩ | ⟨hother, heffect⟩
      · rcases w.router.registry.resolve_cases op.name with
          ⟨hnil, -⟩ | ⟨g', e, hgroup', -, hget, hturn⟩
        · rw [Registry.endpoints_eq, hgroup] at hnil
          exact absurd hnil hne
        · obtain rfl : g = g' := Option.some.inj (hgroup.symm.trans hgroup')
          refine Or.inl ⟨e, ?_, hget, heffect⟩
          rw [turn?_of_resolve (hop.trans (congrArg some hresolve)), hturn, Option.map_some]
      · exact Or.inr ⟨turn?_of_ne (hop ▸ fun h => hother (Option.some.inj h)), heffect⟩
    · have hturn : w.operation? d ≠ some (.resolve name) := by
        rw [hop]
        rintro ⟨⟩
        exact hname rfl
      exact Or.inr ⟨turn?_of_ne hturn, by rw [hregistry, Registry.get?_after_of_ne _ hname, hgroup]⟩

/-! ### Runs of a steady group -/

/-- In a group of several endpoints the turns follow the rota, and the cursor counts
them. -/
theorem turns_of_several {name : String} {es : List Endpoint} (hes : 1 < es.length)
    (ds : List (Demand α)) : ∀ {w : Traffic τ α} {c : UInt64},
      w.router.registry.groups.get? name = some ⟨es, c⟩ → Steady name es w ds →
      c.toNat + (served name w ds).length < UInt64.size →
      (served name w ds).map some =
        (rota es.length c.toNat (served name w ds).length).map (es[·]?) ∧
      ∃ c', (w.meetAll ds).router.registry.groups.get? name = some ⟨es, c'⟩ ∧
        c'.toNat = c.toNat + (served name w ds).length := by
  have hne : es ≠ [] := List.ne_nil_of_length_pos (Nat.zero_lt_of_lt hes)
  -- by induction on the demands, each of which finds the cursor where the last left it
  induction ds with
  | nil => intro w c hgroup _ _; exact ⟨rfl, c, hgroup, rfl⟩
  | cons d ds ih =>
    intro w c hgroup hsteady hfit
    rcases group_meet hgroup hne hsteady.2.endpoints_eq with
      ⟨e, hturn, hget, hnext⟩ | ⟨hturn, hnext⟩
    · have hserved : served name w (d :: ds) = e :: served name (w.meet d) ds := by
        simp only [served, hturn, Option.toList_some, List.singleton_append]
      rw [hserved, List.length_cons] at hfit ⊢
      -- the cursor does not wrap, since it still fits at the end of the run
      have hcursor : (c + 1).toNat = c.toNat + 1 := by
        rw [UInt64.toNat_add, UInt64.toNat_one]
        exact Nat.mod_eq_of_lt (show c.toNat + 1 < UInt64.size by omega)
      have hadvance : Group.advance ⟨es, c⟩ = ⟨es, c + 1⟩ := by
        simp only [Group.advance, if_neg (Nat.ne_of_gt hes)]
      obtain ⟨hrota, c', hend, hcount⟩ :=
        ih (hadvance ▸ hnext) hsteady.2 (by rw [hcursor]; omega)
      refine ⟨?_, c', hend, by rw [hcount, hcursor]; omega⟩
      rw [List.map_cons, rota_succ, List.map_cons, hrota, hcursor, ← hget]
      rfl
    · have hserved : served name w (d :: ds) = served name (w.meet d) ds := by
        simp only [served, hturn, Option.toList_none, List.nil_append]
      rw [hserved] at hfit ⊢
      exact ih hnext hsteady.2 hfit

/-- In a group of one endpoint every turn is that one's, and none is counted. -/
theorem turns_of_one {name : String} {e : Endpoint} {c : UInt64} (ds : List (Demand α)) :
    ∀ {w : Traffic τ α}, w.router.registry.groups.get? name = some ⟨[e], c⟩ →
      Steady name [e] w ds →
      served name w ds = List.replicate (served name w ds).length e ∧
      (w.meetAll ds).router.registry.groups.get? name = some ⟨[e], c⟩ := by
  induction ds with
  | nil => intro w hgroup _; exact ⟨rfl, hgroup⟩
  | cons d ds ih =>
    intro w hgroup hsteady
    rcases group_meet hgroup (List.cons_ne_nil e []) hsteady.2.endpoints_eq with
      ⟨e', hturn, hget, hnext⟩ | ⟨hturn, hnext⟩
    · have hposition : Group.position ⟨[e], c⟩ = 0 := Nat.mod_one c.toNat
      have he : e = e' := by
        rw [hposition] at hget
        exact Option.some.inj hget
      have hserved : served name w (d :: ds) = e :: served name (w.meet d) ds := by
        simp only [served, hturn, ← he, Option.toList_some, List.singleton_append]
      obtain ⟨hall, hend⟩ := ih hnext hsteady.2
      rw [hserved, List.length_cons, List.replicate_succ, ← hall]
      exact ⟨rfl, hend⟩
    · have hserved : served name w (d :: ds) = served name (w.meet d) ds := by
        simp only [served, hturn, Option.toList_none, List.nil_append]
      rw [hserved]
      exact ih hnext hsteady.2

end Traffic

/-! ### Groups that change -/

/-- The endpoints that a change gives to a name which has some, if it does. -/
def Change.regroups? (name : String) (es : List Endpoint) : Change → Option (List Endpoint)
  | .register e => if e.name = name then some (es ++ [e]) else none
  | .replaceGroup n es' => if n = name ∧ ∀ e ∈ es', e.name = name then some es' else none
  | _ => none

/-- A group that is given other endpoints keeps its cursor. -/
theorem Traffic.get?_step_of_regroups? {w : Traffic τ α} {name : String} {es es' : List Endpoint}
    {c : UInt64} (hgroup : w.router.registry.groups.get? name = some ⟨es, c⟩) {x : Change}
    (hx : x.regroups? name es = some es') (hne : es' ≠ []) :
    (w.step (.change x)).router.registry.groups.get? name = some ⟨es', c⟩ := by
  obtain ⟨op, hop, hname, heffect⟩ : ∃ op, w.operation? (.act (.change x)) = some op ∧
      op.name = name ∧ op.effect (some ⟨es, c⟩) = some ⟨es', c⟩ := by
    cases x with
    | register e =>
      obtain ⟨hname, rfl⟩ : e.name = name ∧ es ++ [e] = es' := by
        simpa [Change.regroups?] using hx
      exact ⟨.register e, rfl, hname, rfl⟩
    | replaceGroup n es =>
      obtain ⟨⟨rfl, hnamed⟩, rfl⟩ : (n = name ∧ ∀ e ∈ es, e.name = name) ∧ es = es' := by
        simpa [Change.regroups?] using hx
      have hnone : ¬ ∃ e ∈ es, e.name ≠ n := fun ⟨e, he, hstray⟩ => hstray (hnamed e he)
      refine ⟨.replaceGroup n es, rfl, rfl, ?_⟩
      simp only [Registry.Operation.effect, if_neg hnone, if_neg hne]
    | _ => cases hx
  have hregistry : (w.step (.change x)).router.registry = w.router.registry.after op := by
    have hmeet := w.registry_meet (.act (.change x))
    rwa [hop] at hmeet
  calc (w.step (.change x)).router.registry.groups.get? name
      = (w.router.registry.after op).groups.get? op.name := by rw [hname, hregistry]
    _ = some ⟨es', c⟩ := by rw [Registry.get?_after_self, hname, hgroup, heffect]

/-- A name is resolved to the endpoint at the position of its group. -/
theorem Registry.map_resolve {r : Registry} {name : String} {g : Group}
    (hgroup : r.groups.get? name = some g) (hne : g.endpoints ≠ []) :
    (r.resolve name).map (·.1) = g.endpoints[g.position]? := by
  rcases r.resolve_cases name with ⟨hnil, -⟩ | ⟨g', e, hgroup', -, hget, hresolve⟩
  · rw [endpoints_eq, hgroup] at hnil
    exact absurd hnil hne
  · obtain rfl : g = g' := Option.some.inj (hgroup.symm.trans hgroup')
    rw [hresolve, hget, Option.map_some]

/-! ### Exact rotation -/

/-- How a group takes turns in the course of some demands, which begin with its cursor
at `c`. -/
structure Traffic.Rotates (name : String) (es : List Endpoint) (c : UInt64)
    (w : Traffic τ α) (ds : List (Demand α)) : Prop where
  /-- One turn of several endpoints follows another from the position of the cursor on. -/
  turn : 1 < es.length → ∀ i, i < (served name w ds).length →
    (served name w ds)[i]? = es[(c.toNat + i) % es.length]?
  /-- Any round of turns comes to all of them, in rotated order. -/
  round : 1 < es.length → ∀ j, j + es.length ≤ (served name w ds).length →
    ((served name w ds).drop j).take es.length = es.rotate (c.toNat + j)
  /-- The turns are those of the rota. -/
  positions : 1 < es.length → (served name w ds).map some =
    (rota es.length c.toNat (served name w ds).length).map (es[·]?)
  /-- They come to every position equally often, rounded down or up. -/
  share : ∀ p, p < es.length →
    (rota es.length c.toNat (served name w ds).length).count p =
        (served name w ds).length / es.length ∨
      (rota es.length c.toNat (served name w ds).length).count p =
        ((served name w ds).length + es.length - 1) / es.length
  /-- The cursor ends as many turns further on. -/
  cursor : 1 < es.length → ((w.meetAll ds).router.registry.cursor? name).map (·.toNat) =
    some (c.toNat + (served name w ds).length)
  /-- A single endpoint has every turn, and its cursor stays where it is. -/
  single : ∀ e, es = [e] → served name w ds = List.replicate (served name w ds).length e ∧
    (w.meetAll ds).router.registry.cursor? name = some c
  /-- If the group is given several other endpoints then, the turns go on among these where
  the cursor stands. -/
  goes_on : ∀ {c' x es'}, (w.meetAll ds).router.registry.cursor? name = some c' →
    x.regroups? name es = some es' → 1 < es'.length →
      ((w.meetAll ds).step (.change x)).router.registry.cursor? name = some c' ∧
      (((w.meetAll ds).step (.change x)).router.registry.resolve name).map (·.1) =
        es'[c'.toNat % es'.length]?

/-- **Turns are taken in exact rotation**, whoever takes them and whatever happens to
other names in between. -/
theorem rotation_exact {w : Traffic τ α} {name : String} {es : List Endpoint} {c : UInt64}
    {ds : List (Demand α)} (hgroup : w.router.registry.groups.get? name = some ⟨es, c⟩)
    (hsteady : w.Steady name es ds)
    (hfit : 1 < es.length → c.toNat + (Traffic.served name w ds).length < UInt64.size) :
    w.Rotates name es c ds := by
  have hserved : 1 < es.length → ∀ i, i < (Traffic.served name w ds).length →
      (Traffic.served name w ds)[i]? = es[(c.toNat + i) % es.length]? := by
    intro hes i hi
    obtain ⟨hrota, -⟩ := Traffic.turns_of_several hes ds hgroup hsteady (hfit hes)
    have hat := congrArg (·[i]?) hrota
    simp only [List.getElem?_map, getElem?_rota hi, Option.map_some] at hat
    rw [List.getElem?_eq_getElem hi, Option.map_some] at hat
    rw [List.getElem?_eq_getElem hi, Option.some.inj hat]
  exact {
    turn := hserved
    round := by
      intro hes j hj
      refine List.ext_getElem? fun i => ?_
      by_cases hi : i < es.length
      · rw [List.getElem?_take_of_lt hi, List.getElem?_drop, hserved hes _ (by omega),
          List.getElem?_rotate hi]
        congr 2
        omega
      · rw [List.getElem?_eq_none (by simp; omega), List.getElem?_eq_none (by simpa using hi)]
    positions := fun hes => (Traffic.turns_of_several hes ds hgroup hsteady (hfit hes)).1
    share := by
      intro p hp
      obtain ⟨hlow, hhigh⟩ := count_rota hp (Traffic.served name w ds).length c.toNat
      have hclose : ((Traffic.served name w ds).length + es.length - 1) / es.length ≤
          (Traffic.served name w ds).length / es.length + 1 := by
        rw [← Nat.add_div_right _ (Nat.zero_lt_of_lt hp)]
        exact Nat.div_le_div_right (by omega)
      omega
    cursor := by
      intro hes
      obtain ⟨-, c', hend, hcount⟩ := Traffic.turns_of_several hes ds hgroup hsteady (hfit hes)
      rw [Registry.cursor?_eq, hend, Option.map_some, Option.map_some, hcount]
    single := by
      rintro e rfl
      obtain ⟨hall, hend⟩ := Traffic.turns_of_one ds hgroup hsteady
      exact ⟨hall, by rw [Registry.cursor?_eq, hend, Option.map_some]⟩
    goes_on := by
      intro c' x es' hcursor hx hes'
      have hne : es' ≠ [] := List.ne_nil_of_length_pos (Nat.zero_lt_of_lt hes')
      have hend : (w.meetAll ds).router.registry.groups.get? name = some ⟨es, c'⟩ := by
        have hsame := hsteady.endpoints_meetAll
        rw [Registry.cursor?_eq] at hcursor
        rw [Registry.endpoints_eq] at hsame
        obtain ⟨g, hg, rfl⟩ := Option.map_eq_some_iff.mp hcursor
        rw [hg] at hsame
        rw [hg, ← hsame, Option.map_some, Option.getD_some]
      have hnext := Traffic.get?_step_of_regroups? hend hx hne
      exact ⟨by rw [Registry.cursor?_eq, hnext, Option.map_some],
        Registry.map_resolve hnext hne⟩ }

/-- Another endpoint of the name. -/
def Endpoint.spare : Endpoint :=
  ⟨"fast", "openai/n", {}, none, none, ⟨"openai/n#0123456789ab"⟩⟩

/-- Traffic in which a name has two endpoints. -/
def Traffic.pair : Traffic Rat Unit where
  router := { registry := (Registry.empty.register (.shared "fast")).register .spare }
  clock := .zero

/-- The first endpoint is called and fails, the name is resolved directly while another
one is registered, and a second call comes round to the first endpoint, which is then
passed over. -/
def roundTrip : List (Demand Unit) :=
  [.act (.start ["fast"] false), .act (.move 0 .takeUp),
    .act (.move 0 (.poll ⟨false, some (.error (.http 429 ""))⟩)),
    .act (.change (.register (.shared "smart"))), .resolve "fast",
    .act (.start ["fast"] false), .act (.move 1 .takeUp)]

theorem rotation_exact_roundTrip :
    Traffic.pair.Rotates "fast" [.shared "fast", .spare] 0 roundTrip ∧
    Traffic.served "fast" Traffic.pair roundTrip =
      [.shared "fast", .spare, .shared "fast"] ∧
    (Traffic.pair.meetAll roundTrip).calls[1]? = some ⟨.seeking [],
      [.skip "fast" .cooldown (some .rateLimit)], false⟩ := by
  have hserved : Traffic.served "fast" Traffic.pair roundTrip =
      [.shared "fast", .spare, .shared "fast"] := by rfl
  have hsteady : Traffic.pair.Steady "fast" [.shared "fast", .spare] roundTrip :=
    ⟨rfl, rfl, rfl, rfl, rfl, rfl, rfl, rfl⟩
  exact ⟨rotation_exact rfl hsteady (fun _ => by rw [hserved]; decide), hserved, by rfl⟩

end Failover
