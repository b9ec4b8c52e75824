import Failover.Proofs.Moves

/-!
# Traffic

Traffic is what one router bears: any number of routed calls, which move in any
order, among changes that are made to the router directly, while time passes.
One act follows another, and each finds the router as the others left it.  A
call is held up by its backend alone, so its moves between two waits could be
taken together; here they are taken one by one, which allows every order that
the calls can run in and more.

What happens is read off the acts: the journal of a run lists the incidents of
all its calls and the changes made directly, each with the reading of the clock.

## Main definitions

* `Change`, `Router.apply` — the changes that are made directly.
* `Traffic`, `Act`, `Traffic.step`, `Traffic.run` — traffic and its runs.
* `Happening`, `Traffic.journal` — what happens in a run.
* `incidentsOf` — what happens to one call.
* `Traffic.twoNames`, `tour` — an endpoint under two names and a call to it, as an
  example.

## Main results

* `call_step_move` — a move of a call does one of the listed things.
* `router_step_cases` — where the router after an act comes from.
* `call_run` — what every move of a call keeps, a run keeps, whatever the other
  calls do.
-/

namespace Failover

variable {τ : Type} [TokenNumber τ] {α : Type}

/-! ### Changes made directly -/

/-- A change that is made to a router directly and not by one of its calls. -/
inductive Change where
  /-- The tracker is told of a failure. -/
  | fail (id : EndpointId) (kind : Kind)
  /-- The tracker is told of a success. -/
  | succeed (id : EndpointId)
  /-- The tracker forgets the suppressions that are not in force any more. -/
  | purge
  /-- The tracker forgets everything. -/
  | reset
  /-- An endpoint joins its group. -/
  | register (e : Endpoint)
  /-- A group is removed. -/
  | unregister (name : String)
  /-- All of a group is put in place at once. -/
  | replaceGroup (name : String) (es : List Endpoint)
  /-- A token is taken of an endpoint's budget. -/
  | acquire (id : EndpointId) (rpm : UInt32)
  /-- The tokens of an endpoint are counted. -/
  | available (id : EndpointId)
  /-- The gate forgets every bucket. -/
  | resetGate

/-- The router after a change, unless the clock cannot show the end of a window.
A group that is refused changes nothing. -/
def Router.apply (r : Router τ) (now : Instant) : Change → Option (Router τ)
  | .fail id kind =>
      match r.recordFailure id kind now with
      | .ok (_, r, _) => some r
      | .error _ => none
  | .succeed id => some (r.recordSuccess id).2.1
  | .purge => some { r with tracker := (r.tracker.purge now).2 }
  | .reset => some { r with tracker := r.tracker.reset }
  | .register e => some { r with registry := r.registry.register e }
  | .unregister name => some (r.unregister name).1
  | .replaceGroup name es =>
      match r.replaceGroup name es with
      | .ok (r, _) => some r
      | .error _ => some r
  | .acquire id rpm => some (r.acquire id rpm now).2.1
  | .available id => some { r with gate := r.gate.map fun g => (g.available id now).2 }
  | .resetGate => some { r with gate := r.gate.map (·.reset) }

/-! ### Traffic and its acts -/

/-- A router with the calls that it serves. -/
structure Traffic (τ α : Type) where
  /-- The router. -/
  router : Router τ
  /-- What the clock shows. -/
  clock : Instant
  /-- The calls, in the order in which they were made. -/
  calls : List (Call α) := []

/-- What can happen in traffic. -/
inductive Act (α : Type) where
  /-- Time passes. -/
  | pass (s : Span)
  /-- A call is made. -/
  | start (chain : List String) (cancelled : Bool)
  /-- The call at some position moves. -/
  | move (caller : Nat) (m : Move α)
  /-- A change is made directly. -/
  | change (c : Change)

/-- Something that happened in traffic. -/
inductive Happening (α : Type) where
  /-- It happened to the call at some position. -/
  | incident (caller : Nat) (time : Instant) (x : Incident α)
  /-- A change was made directly. -/
  | changed (time : Instant) (c : Change)

namespace Traffic

/-- The traffic after an act.  A move of a call that was never made and a change
that the clock does not allow do nothing. -/
def step (w : Traffic τ α) : Act α → Traffic τ α
  | .pass s => { w with clock := w.clock.later s }
  | .start chain cancelled => { w with calls := w.calls ++ [.start chain cancelled] }
  | .move i m =>
      match w.calls[i]? with
      | some call =>
          let turn := w.router.move w.clock call m
          { w with router := turn.router, calls := w.calls.set i turn.call }
      | none => w
  | .change c =>
      match w.router.apply w.clock c with
      | some router => { w with router }
      | none => w

/-- What happens in an act. -/
def happenings (w : Traffic τ α) : Act α → List (Happening α)
  | .pass _ | .start _ _ => []
  | .move i m =>
      match w.calls[i]? with
      | some call => (w.router.incidents w.clock call m).map (.incident i w.clock)
      | none => []
  | .change c => if (w.router.apply w.clock c).isSome then [.changed w.clock c] else []

/-- The traffic after some acts. -/
def run (w : Traffic τ α) (acts : List (Act α)) : Traffic τ α := acts.foldl step w

/-- What happens in some acts. -/
def journal (w : Traffic τ α) : List (Act α) → List (Happening α)
  | [] => []
  | act :: acts => w.happenings act ++ (w.step act).journal acts

@[simp] theorem run_nil (w : Traffic τ α) : w.run [] = w := rfl

@[simp] theorem run_cons (w : Traffic τ α) (act : Act α) (acts : List (Act α)) :
    w.run (act :: acts) = (w.step act).run acts := rfl

theorem run_append (w : Traffic τ α) (acts acts' : List (Act α)) :
    w.run (acts ++ acts') = (w.run acts).run acts' :=
  List.foldl_append

@[simp] theorem journal_nil (w : Traffic τ α) : w.journal [] = [] := rfl

@[simp] theorem journal_cons (w : Traffic τ α) (act : Act α) (acts : List (Act α)) :
    w.journal (act :: acts) = w.happenings act ++ (w.step act).journal acts := rfl

theorem journal_append (acts acts' : List (Act α)) : ∀ w : Traffic τ α,
    w.journal (acts ++ acts') = w.journal acts ++ (w.run acts).journal acts' := by
  induction acts with
  | nil => intro w; rfl
  | cons act acts ih =>
    intro w
    rw [List.cons_append, journal_cons, journal_cons, run_cons, ih, List.append_assoc]

end Traffic

/-- The incident of a happening, if it is one of the call at position `i`. -/
def Happening.incidentOf (i : Nat) : Happening α → Option (Incident α)
  | .incident j _ x => if j = i then some x else none
  | .changed _ _ => none

/-- What happened to the call at position `i`. -/
def incidentsOf (i : Nat) (log : List (Happening α)) : List (Incident α) :=
  log.filterMap (·.incidentOf i)

@[simp] theorem incidentsOf_nil (i : Nat) : incidentsOf (α := α) i [] = [] := rfl

@[simp] theorem incidentsOf_append (i : Nat) (log log' : List (Happening α)) :
    incidentsOf i (log ++ log') = incidentsOf i log ++ incidentsOf i log' :=
  List.filterMap_append

/-- Of the incidents of one call, all belong to it and none to another. -/
theorem incidentsOf_map (i j : Nat) (now : Instant) (log : List (Incident α)) :
    incidentsOf i (log.map (.incident j now)) = if j = i then log else [] := by
  induction log with
  | nil => simp
  | cons x log ih =>
    unfold incidentsOf at ih ⊢
    rw [List.map_cons, List.filterMap_cons, ih]
    by_cases hij : j = i <;> simp [Happening.incidentOf, hij]

/-! ### What runs keep -/

namespace Traffic

/-- In an act that is no move of a call, nothing happens to the call. -/
theorem incidentsOf_happenings_of_ne (w : Traffic τ α) {i : Nat} {act : Act α}
    (hact : ∀ m, act ≠ .move i m) : incidentsOf i (w.happenings act) = [] := by
  cases act with
  | pass s => rfl
  | start chain cancelled => rfl
  | move j m =>
    have hij : j ≠ i := fun h => hact m (h ▸ rfl)
    cases hother : w.calls[j]? with
    | none => simp only [happenings, hother, incidentsOf_nil]
    | some other => simp only [happenings, hother, incidentsOf_map, if_neg hij]
  | change c =>
    cases happly : w.router.apply w.clock c <;>
      simp [happenings, happly, incidentsOf, Happening.incidentOf]

/-- An act that is no move of a call leaves the call as it is. -/
theorem calls_step_of_ne {w : Traffic τ α} {i : Nat} {call : Call α}
    (hcall : w.calls[i]? = some call) {act : Act α} (hact : ∀ m, act ≠ .move i m) :
    (w.step act).calls[i]? = some call := by
  cases act with
  | pass s => exact hcall
  | start chain cancelled =>
    have hlt := (List.getElem?_eq_some_iff.mp hcall).1
    simpa [step, List.getElem?_append_left hlt] using hcall
  | move j m =>
    have hij : j ≠ i := fun h => hact m (h ▸ rfl)
    cases hother : w.calls[j]? with
    | none => simpa only [step, hother] using hcall
    | some other => simpa only [step, hother, List.getElem?_set_ne hij] using hcall
  | change c =>
    cases happly : w.router.apply w.clock c <;> simpa only [step, happly] using hcall

/-- A move of a call does one of the listed things, and the incidents that it
leaves are the call's. -/
theorem call_step_move {w : Traffic τ α} {i : Nat} {call : Call α}
    (hcall : w.calls[i]? = some call) (m : Move α) :
    ∃ turn, Progress w.router w.clock call m turn (incidentsOf i (w.happenings (.move i m))) ∧
      (w.step (.move i m)).calls[i]? = some turn.call ∧
      (w.step (.move i m)).router = turn.router := by
  refine ⟨w.router.move w.clock call m, ?_, ?_, ?_⟩
  · have hlog := incidentsOf_map i i w.clock (w.router.incidents w.clock call m)
    rw [if_pos rfl] at hlog
    simpa only [happenings, hcall, hlog] using progress_move w.router w.clock call m
  · have hlt := (List.getElem?_eq_some_iff.mp hcall).1
    simp only [step, hcall]
    exact List.getElem?_set_self hlt
  · simp only [step, hcall]

/-- The router after an act is the one before it, or the one that a move of a call leaves,
or the one after a change. -/
theorem router_step_cases (w : Traffic τ α) (act : Act α) :
    (w.step act).router = w.router ∨
    (∃ (call : Call α) (m : Move α) (turn : Turn τ α) (log : List (Incident α)),
      Progress w.router w.clock call m turn log ∧ (w.step act).router = turn.router) ∨
    ∃ c, act = .change c ∧ w.router.apply w.clock c = some (w.step act).router := by
  cases act with
  | pass s | start chain cancelled => exact Or.inl rfl
  | move i m =>
    cases hcall : w.calls[i]? with
    | none => exact Or.inl (by simp only [step, hcall])
    | some call =>
      obtain ⟨turn, hprogress, -, hrouter⟩ := call_step_move hcall m
      exact Or.inr (Or.inl ⟨call, m, turn, _, hprogress, hrouter⟩)
  | change c =>
    cases happly : w.router.apply w.clock c with
    | none => exact Or.inl (by simp only [step, happly])
    | some r => exact Or.inr (Or.inr ⟨c, rfl, by simp only [step, happly]⟩)

/-- What happens to a call comes of a move of it, and happens there and then. -/
theorem progress_of_incident {w : Traffic τ α} {act : Act α} {i : Nat} {time : Instant}
    {x : Incident α} (h : .incident i time x ∈ w.happenings act) :
    time = w.clock ∧
      ∃ call m turn log, Progress w.router w.clock call m turn log ∧ x ∈ log := by
  cases act with
  | pass s => cases h
  | start chain cancelled => cases h
  | move j m =>
    cases hcall : w.calls[j]? with
    | none => simp [happenings, hcall] at h
    | some call =>
      simp only [happenings, hcall, List.mem_map] at h
      obtain ⟨y, hy, heq⟩ := h
      cases heq
      exact ⟨rfl, call, m, _, _, progress_move w.router w.clock call m, hy⟩
  | change c =>
    simp only [happenings] at h
    split at h <;> simp at h

/-- **What every move of a call keeps, a run keeps**, whatever the other calls
do: `P` of the call and its incidents so far, given that `R` holds of every
router that the call finds. -/
theorem call_run {R : Router τ → Prop} {P : Call α → List (Incident α) → Prop}
    (hrouter : ∀ {w : Traffic τ α} act, R w.router → R (w.step act).router)
    (hmove : ∀ {r now call m turn log log'}, R r → Progress r now call m turn log' →
      P call log → P turn.call (log ++ log'))
    {i : Nat} (acts : List (Act α)) :
    ∀ {w : Traffic τ α} {call log}, R w.router → w.calls[i]? = some call → P call log →
      ∃ call', (w.run acts).calls[i]? = some call' ∧
        P call' (log ++ incidentsOf i (w.journal acts)) := by
  induction acts with
  | nil =>
    intro w call log _ hcall hP
    exact ⟨call, hcall, by simpa using hP⟩
  | cons act acts ih =>
    intro w call log hR hcall hP
    rw [run_cons, journal_cons, incidentsOf_append, ← List.append_assoc]
    by_cases hact : ∃ m, act = .move i m
    · obtain ⟨m, rfl⟩ := hact
      obtain ⟨turn, hprogress, hnext, -⟩ := call_step_move hcall m
      exact ih (hrouter _ hR) hnext (hmove hR hprogress hP)
    · have hne : ∀ m, act ≠ .move i m := fun m h => hact ⟨m, h⟩
      rw [incidentsOf_happenings_of_ne w hne, List.append_nil]
      exact ih (hrouter _ hR) (calls_step_of_ne hcall hne) hP

/-- A call that is made now takes the next position. -/
theorem calls_start (w : Traffic τ α) (chain : List String) (cancelled : Bool) :
    (w.step (.start chain cancelled)).calls[w.calls.length]? = some (.start chain cancelled) :=
  List.getElem?_concat_length

end Traffic

/-! ### An example -/

/-- An endpoint that several names lead to. -/
def Endpoint.shared (name : String) : Endpoint :=
  ⟨name, "openai/m", {}, none, none, ⟨"openai/m#0123456789ab"⟩⟩

/-- The first reading of the clock. -/
def Instant.zero : Instant := ⟨0, by decide⟩

/-- Traffic in which two names lead to the same endpoint. -/
def Traffic.twoNames : Traffic Rat Unit where
  router := { registry := (Registry.empty.register (.shared "fast")).register (.shared "smart") }
  clock := .zero

/-- The moves of a call whose first candidate's backend is limited. -/
def tour : List (Act Unit) :=
  [.move 0 .takeUp, .pass (.ofSeconds 1),
    .move 0 (.poll ⟨false, some (.error (.http 429 ""))⟩),
    .move 0 .takeUp, .move 0 .takeUp, .move 0 .takeUp]

/-- The trail that the call leaves if its last candidate is the same endpoint. -/
def tourTrail : List Attempt :=
  [⟨"fast", some (Endpoint.shared "fast").id, .retriableFailure, some .rateLimit,
      .ofSeconds 1⟩,
    .skip "smart" .cooldown (some .rateLimit)]

end Failover
