import Failover.Call

/-!
# Moves of a routed call

A routed call moves when it takes up its next candidate, when its backend is
asked whether it is done, and when its caller cancels it.  Nothing else happens
to it.  Each move leaves incidents: whose turn it was, which backend was called
and how the flight came back, what joined the trail and what observers saw.

`Progress` lists what a move can do, one constructor for each way on or out of
the walk, and `progress_move` says that the list is complete.  What holds of all
calls is proved by going through that list, never by unfolding the steps.

## Main definitions

* `Incident`, `Router.incidents` — what a move leaves.
* `walked`, `invocations`, `landings`, `recorded`, `observed` — the incidents of
  each sort.
* `Progress` — what a move can do.

## Main results

* `progress_move` — every move does one of the listed things.
* `Progress.unique` — it does one of them only.
-/

namespace Failover

variable {τ : Type} [TokenNumber τ] {α : Type}

/-! ### What a move leaves -/

/-- Something that happened to a routed call. -/
inductive Incident (α : Type) where
  /-- The turn of a candidate came, which had these endpoints. -/
  | reached (candidate : String) (group : List Endpoint)
  /-- A backend was called. -/
  | invoked (endpoint : Endpoint)
  /-- The backend came back. -/
  | returned (reply : Except Failure α)
  /-- The flight was dropped, the call having been cancelled. -/
  | dropped
  /-- An attempt joined the trail. -/
  | recorded (attempt : Attempt)
  /-- The observer was served an event. -/
  | observed (event : Event)

/-- What a move begins with. -/
def Move.opening (r : Router τ) (call : Call α) : Move α → List (Incident α)
  | .takeUp =>
      match call.stage with
      | .seeking (candidate :: _) =>
          if call.cancelled then [] else [.reached candidate (r.registry.endpoints candidate)]
      | _ => []
  | .poll p =>
      match call.stage with
      | .flying _ => if call.cancelled then [.dropped] else p.reply.toList.map .returned
      | _ => []
  | .cancel => []

/-- What a turn brought, given the call before it: a call that sought and now
waits has called a backend, and attempts join a trail at its end. -/
def Turn.results (before : Call α) (turn : Turn τ α) : List (Incident α) :=
  (match before.stage, turn.call.stage with
    | .seeking _, .flying flight => [.invoked flight.endpoint]
    | _, _ => []) ++
  (turn.call.trail.drop before.trail.length).map .recorded ++
  (turn.notices.filterMap (·.event?)).map .observed

/-- The incidents of a move, in order. -/
def Router.incidents (r : Router τ) (now : Instant) (call : Call α) (m : Move α) :
    List (Incident α) :=
  m.opening r call ++ (r.move now call m).results call

/-- The candidates whose turn came, with the endpoints they had. -/
def walked (log : List (Incident α)) : List (String × List Endpoint) :=
  log.filterMap fun
    | .reached candidate group => some (candidate, group)
    | _ => none

/-- The endpoints whose backends were called. -/
def invocations (log : List (Incident α)) : List Endpoint :=
  log.filterMap fun
    | .invoked e => some e
    | _ => none

/-- How the flights ended: with a reply, or dropped. -/
def landings (log : List (Incident α)) : List (Option (Except Failure α)) :=
  log.filterMap fun
    | .returned reply => some (some reply)
    | .dropped => some none
    | _ => none

/-- The attempts that joined the trail. -/
def recorded (log : List (Incident α)) : List Attempt :=
  log.filterMap fun
    | .recorded a => some a
    | _ => none

/-- The events that the observer was served. -/
def observed (log : List (Incident α)) : List Event :=
  log.filterMap fun
    | .observed event => some event
    | _ => none

section Append

variable (log log' : List (Incident α))

@[simp] theorem walked_append : walked (log ++ log') = walked log ++ walked log' :=
  List.filterMap_append

@[simp] theorem invocations_append :
    invocations (log ++ log') = invocations log ++ invocations log' :=
  List.filterMap_append

@[simp] theorem landings_append : landings (log ++ log') = landings log ++ landings log' :=
  List.filterMap_append

@[simp] theorem recorded_append : recorded (log ++ log') = recorded log ++ recorded log' :=
  List.filterMap_append

@[simp] theorem observed_append : observed (log ++ log') = observed log ++ observed log' :=
  List.filterMap_append

end Append

/-! ### What a move can do -/

/-- The attempt that a flight makes. -/
def Flight.attempt (f : Flight) (now : Instant) (outcome : Outcome) (kind : Option Kind) :
    Attempt :=
  ⟨f.candidate, some f.endpoint.id, outcome, kind, now.since f.since⟩

/-- The incidents of an attempt that joins the trail. -/
def Attempt.incidents (a : Attempt) : List (Incident α) := [.recorded a, .observed a.event]

/-- How the gate of a router answers for an endpoint, and what becomes of it:
without a gate or a hint nothing is asked. -/
inductive Router.Admission (r : Router τ) (e : Endpoint) (now : Instant) :
    Bool → Option (Gate τ) → Prop
  /-- Nothing is asked. -/
  | unasked (h : r.gate = none ∨ e.rpmHint = none) : r.Admission e now true r.gate
  /-- The gate is asked for a token. -/
  | asked {gate : Gate τ} {rpm : UInt32} (hgate : r.gate = some gate)
      (hhint : e.rpmHint = some rpm) :
      r.Admission e now (gate.tryAcquire e.id rpm now).1
        (some (gate.tryAcquire e.id rpm now).2)

/-- Whether a move is one for a call at some stage. -/
def Move.suits (stage : Stage α) : Move α → Bool
  | .takeUp => match stage with | .seeking _ => true | _ => false
  | .poll _ => match stage with | .flying _ => true | _ => false
  | .cancel => true

/-- What a move of a call does: the turn that it makes and the incidents that it
leaves. -/
inductive Progress (r : Router τ) (now : Instant) :
    Call α → Move α → Turn τ α → List (Incident α) → Prop
  /-- The move is none for a call at this stage. -/
  | idle {stage : Stage α} {trail : List Attempt} {cancelled : Bool} {m : Move α}
      (hsuits : m.suits stage = false) :
      Progress r now ⟨stage, trail, cancelled⟩ m ⟨r, ⟨stage, trail, cancelled⟩, []⟩ []
  /-- The caller cancels the call. -/
  | cancelled {stage : Stage α} {trail : List Attempt} {before : Bool} :
      Progress r now ⟨stage, trail, before⟩ .cancel ⟨r, ⟨stage, trail, true⟩, []⟩ []
  /-- No candidate is left. -/
  | exhausted {trail : List Attempt} {cancelled : Bool} {notices : List Notice} :
      Progress r now ⟨.seeking [], trail, cancelled⟩ .takeUp
        ⟨r, ⟨.over (.failed (.exhausted trail)), trail, cancelled⟩, notices⟩ []
  /-- The next candidate is not taken up, the call having been cancelled. -/
  | abandoned {candidate : String} {rest : List String} {trail : List Attempt}
      {notices : List Notice} :
      Progress r now ⟨.seeking (candidate :: rest), trail, true⟩ .takeUp
        ⟨r, ⟨.over (.failed (.nonRetriable ⟨.userAbort, candidate, none, .cancelled, trail⟩)),
          trail, true⟩, notices⟩ []
  /-- The candidate has no endpoints. -/
  | unregistered {candidate : String} {rest : List String} {trail : List Attempt}
      {notices : List Notice} (hnone : r.registry.endpoints candidate = []) :
      Progress r now ⟨.seeking (candidate :: rest), trail, false⟩ .takeUp
        ⟨r, ⟨.seeking rest, trail, false⟩, notices⟩ [.reached candidate []]
  /-- The candidate's endpoint is cooling down. -/
  | cooling {candidate : String} {rest : List String} {trail : List Attempt}
      {notices : List Notice} {e : Endpoint} {registry : Registry} {s : Suppression}
      {a : Attempt} (hresolve : r.registry.resolve candidate = some (e, registry))
      (hactive : r.tracker.active? e.id now = some s)
      (ha : a = .skip candidate .cooldown (some s.kind)) :
      Progress r now ⟨.seeking (candidate :: rest), trail, false⟩ .takeUp
        ⟨{ r with registry }, ⟨.seeking rest, trail ++ [a], false⟩, notices⟩
        (.reached candidate (r.registry.endpoints candidate) :: a.incidents)
  /-- The candidate's endpoint has spent its budget. -/
  | throttled {candidate : String} {rest : List String} {trail : List Attempt}
      {notices : List Notice} {e : Endpoint} {registry : Registry} {gate : Option (Gate τ)}
      {a : Attempt} (hresolve : r.registry.resolve candidate = some (e, registry))
      (hclear : r.tracker.active? e.id now = none) (hgate : r.Admission e now false gate)
      (ha : a = .skip candidate .throttled none) :
      Progress r now ⟨.seeking (candidate :: rest), trail, false⟩ .takeUp
        ⟨{ r with registry, gate }, ⟨.seeking rest, trail ++ [a], false⟩, notices⟩
        (.reached candidate (r.registry.endpoints candidate) :: a.incidents)
  /-- The backend of the candidate's endpoint is called. -/
  | dispatched {candidate : String} {rest : List String} {trail : List Attempt}
      {notices : List Notice} {e : Endpoint} {registry : Registry} {gate : Option (Gate τ)}
      (hresolve : r.registry.resolve candidate = some (e, registry))
      (hclear : r.tracker.active? e.id now = none) (hgate : r.Admission e now true gate) :
      Progress r now ⟨.seeking (candidate :: rest), trail, false⟩ .takeUp
        ⟨{ r with registry, gate }, ⟨.flying ⟨candidate, e, now, rest⟩, trail, false⟩, notices⟩
        [.reached candidate (r.registry.endpoints candidate), .invoked e]
  /-- The backend is not done. -/
  | waiting {f : Flight} {trail : List Attempt} {cancels : Bool} :
      Progress r now ⟨.flying f, trail, false⟩ (.poll ⟨cancels, none⟩)
        ⟨r, ⟨.flying f, trail, cancels⟩, []⟩ []
  /-- The flight is dropped, the call having been cancelled. -/
  | dropped {f : Flight} {trail : List Attempt} {p : Poll α} {notices : List Notice}
      {a : Attempt} (ha : a = f.attempt now .nonRetriableFailure (some .userAbort)) :
      Progress r now ⟨.flying f, trail, true⟩ (.poll p)
        ⟨r, ⟨.over (.failed (.nonRetriable
          ⟨.userAbort, f.candidate, some f.endpoint.id, .cancelled, trail ++ [a]⟩)),
          trail ++ [a], true⟩, notices⟩
        (.dropped :: a.incidents)
  /-- The flight comes back with an answer. -/
  | answered {f : Flight} {trail : List Attempt} {cancels : Bool} {notices : List Notice}
      {value : α} {a : Attempt} (ha : a = f.attempt now .success none) :
      Progress r now ⟨.flying f, trail, false⟩ (.poll ⟨cancels, some (.ok value)⟩)
        ⟨{ r with tracker := (r.tracker.recordSuccess f.endpoint.id).2 },
          ⟨.over (.routed ⟨value, f.endpoint, trail ++ [a]⟩), trail ++ [a], cancels⟩, notices⟩
        (.returned (.ok value) :: a.incidents)
  /-- The flight comes back with a failure that ends the call. -/
  | broken {f : Flight} {trail : List Attempt} {cancels : Bool} {notices : List Notice}
      {failure : Failure} {kind : Kind} {a : Attempt}
      (hkind : kind = if cancels then .userAbort else r.classifier.classify failure)
      (hfatal : kind.isRetriable = false)
      (ha : a = f.attempt now .nonRetriableFailure (some kind)) :
      Progress r now ⟨.flying f, trail, false⟩ (.poll ⟨cancels, some (.error failure)⟩)
        ⟨r, ⟨.over (.failed (.nonRetriable
          ⟨kind, f.candidate, some f.endpoint.id, failure, trail ++ [a]⟩)),
          trail ++ [a], cancels⟩, notices⟩
        (.returned (.error failure) :: a.incidents)
  /-- The flight comes back with a failure after which the call goes on. -/
  | advanced {f : Flight} {trail : List Attempt} {notices : List Notice} {failure : Failure}
      {kind : Kind} {liftedAt : Option Instant} {tracker : Tracker} {a : Attempt}
      (hkind : kind = r.classifier.classify failure) (hretriable : kind.isRetriable = true)
      (hrecord : r.tracker.recordFailure f.endpoint.id kind now = .ok (liftedAt, tracker))
      (ha : a = f.attempt now .retriableFailure (some kind)) :
      Progress r now ⟨.flying f, trail, false⟩ (.poll ⟨false, some (.error failure)⟩)
        ⟨{ r with tracker }, ⟨.seeking f.rest, trail ++ [a], false⟩, notices⟩
        (.returned (.error failure) :: a.incidents)
  /-- The flight comes back with such a failure, but the clock cannot show the end
  of its window. -/
  | overflowed {f : Flight} {trail : List Attempt} {notices : List Notice}
      {failure : Failure} {kind : Kind} (hkind : kind = r.classifier.classify failure)
      (hretriable : kind.isRetriable = true)
      (hrecord : r.tracker.recordFailure f.endpoint.id kind now = .error {}) :
      Progress r now ⟨.flying f, trail, false⟩ (.poll ⟨false, some (.error failure)⟩)
        ⟨r, ⟨.over .clockOverflow, trail, false⟩, notices⟩ [.returned (.error failure)]

/-! ### The list is complete -/

namespace Registry

/-- Only a name without endpoints is not resolved. -/
theorem resolve_eq_none_iff {r : Registry} {name : String} :
    r.resolve name = none ↔ r.endpoints name = [] := by
  unfold resolve endpoints
  cases r.groups.get? name with
  | none => simp
  | some g =>
    obtain ⟨es, cursor⟩ := g
    match es with
    | [] => simp [Group.select]
    | [e] => simp [Group.select]
    | e :: e' :: es =>
      -- the turn is taken modulo the size of the group
      have hlt : cursor.toNat % (e :: e' :: es).length < (e :: e' :: es).length :=
        Nat.mod_lt _ (by simp)
      simpa [Group.select] using ⟨_, List.getElem?_eq_getElem hlt⟩

/-- A name is resolved to one of its endpoints. -/
theorem mem_of_resolve {r r' : Registry} {name : String} {e : Endpoint}
    (h : r.resolve name = some (e, r')) : e ∈ r.endpoints name := by
  unfold resolve at h
  unfold endpoints
  cases hg : r.groups.get? name with
  | none => simp [hg] at h
  | some g =>
    obtain ⟨es, cursor⟩ := g
    match es with
    | [] => simp [hg, Group.select] at h
    | [e'] =>
      simp [hg, Group.select] at h
      simp [h.1]
    | e₁ :: e₂ :: es =>
      simp only [hg, Group.select, Option.bind_eq_bind, Option.bind_some,
        Option.bind_eq_some_iff, Option.map_eq_some_iff] at h
      obtain ⟨⟨e', g⟩, ⟨e'', hget, heq⟩, hpure⟩ := h
      cases heq
      cases hpure
      exact List.mem_of_getElem? hget

end Registry

/-- What is done with a candidate that has an endpoint which is not cooling down
hangs on the gate alone. -/
theorem Router.consider_of_clear {r : Router τ} {candidate : String} {now : Instant}
    {e : Endpoint} {registry : Registry}
    (hresolve : r.registry.resolve candidate = some (e, registry))
    (hclear : r.tracker.active? e.id now = none) :
    (∃ gate, r.Admission e now true gate ∧
      r.consider candidate now = (.dispatch e, { r with registry, gate })) ∨
    (∃ gate rpm, r.Admission e now false gate ∧
      r.consider candidate now = (.spent e rpm, { r with registry, gate })) := by
  unfold consider
  simp only [hresolve, hclear]
  cases hgate : r.gate with
  | none => exact Or.inl ⟨none, hgate ▸ .unasked (Or.inl hgate), by simp [← hgate]⟩
  | some gate =>
    cases hhint : e.rpmHint with
    | none => exact Or.inl ⟨some gate, hgate ▸ .unasked (Or.inr hhint), by simp [← hgate]⟩
    | some rpm =>
      have hasked : r.Admission e now (gate.tryAcquire e.id rpm now).1
          (some (gate.tryAcquire e.id rpm now).2) := .asked hgate hhint
      cases htaken : (gate.tryAcquire e.id rpm now).1 with
      | true => exact Or.inl ⟨_, htaken ▸ hasked, by simp [htaken]⟩
      | false => exact Or.inr ⟨_, rpm, htaken ▸ hasked, by simp [htaken]⟩

/-- Taking up a candidate of a call that goes on is on the list. -/
theorem progress_candidate (r : Router τ) (now : Instant) (candidate : String)
    (rest : List String) (trail : List Attempt) :
    Progress (α := α) r now ⟨.seeking (candidate :: rest), trail, false⟩ .takeUp
      (r.takeUp now ⟨.seeking (candidate :: rest), trail, false⟩)
      (r.incidents now ⟨.seeking (candidate :: rest), trail, false⟩ .takeUp) := by
  cases hresolve : r.registry.resolve candidate with
  | none =>
    have hgroup := Registry.resolve_eq_none_iff.mp hresolve
    have hconsider : r.consider candidate now = (.unregistered, r) := by
      simp only [Router.consider, hresolve]
    simpa [Router.takeUp, Router.incidents, Router.move, Move.opening, Turn.results, hconsider,
      hgroup, Notice.event?] using Progress.unregistered hgroup
  | some p =>
    obtain ⟨e, registry⟩ := p
    cases hactive : r.tracker.active? e.id now with
    | some s =>
      have hconsider : r.consider candidate now = (.cooling e s, { r with registry }) := by
        simp only [Router.consider, hresolve, hactive]
      simpa [Router.takeUp, Router.incidents, Router.move, Move.opening, Turn.results, hconsider,
        Call.advance, Attempt.incidents, Notice.event?] using Progress.cooling hresolve hactive rfl
    | none =>
      rcases Router.consider_of_clear hresolve hactive with
        ⟨gate, hgate, hconsider⟩ | ⟨gate, rpm, hgate, hconsider⟩
      · simpa [Router.takeUp, Router.incidents, Router.move, Move.opening, Turn.results,
          hconsider, Notice.event?] using Progress.dispatched hresolve hactive hgate
      · simpa [Router.takeUp, Router.incidents, Router.move, Move.opening, Turn.results,
          hconsider, Call.advance, Attempt.incidents, Notice.event?]
          using Progress.throttled hresolve hactive hgate rfl

/-- Taking up a candidate is on the list. -/
theorem progress_takeUp (r : Router τ) (now : Instant) (call : Call α) :
    Progress r now call .takeUp (r.takeUp now call) (r.incidents now call .takeUp) := by
  obtain ⟨stage, trail, cancelled⟩ := call
  cases stage with
  | seeking candidates =>
    cases candidates with
    | nil =>
      simpa [Router.takeUp, Router.incidents, Router.move, Move.opening, Turn.results,
        Notice.event?] using Progress.exhausted
    | cons candidate rest =>
      cases cancelled with
      | true =>
        simpa [Router.takeUp, Router.incidents, Router.move, Move.opening, Turn.results,
          Notice.event?, Call.breakOff] using Progress.abandoned
      | false => exact progress_candidate r now candidate rest trail
  | _ =>
    -- a call that waits or is over takes up nothing
    simpa [Router.takeUp, Router.incidents, Router.move, Move.opening, Turn.results]
      using Progress.idle rfl

omit [TokenNumber τ] in
/-- Telling the router of a failure either runs into the end of the clock or
tells its tracker, and no event comes of it. -/
theorem Router.recordFailure_cases (r : Router τ) (id : EndpointId) (kind : Kind)
    (now : Instant) :
    (r.tracker.recordFailure id kind now = .error {} ∧
      r.recordFailure id kind now = .error {}) ∨
    ∃ liftedAt tracker notices,
      r.tracker.recordFailure id kind now = .ok (liftedAt, tracker) ∧
      r.recordFailure id kind now = .ok (liftedAt, { r with tracker }, notices) ∧
      notices.filterMap (·.event?) = [] := by
  unfold recordFailure
  cases hrecord : r.tracker.recordFailure id kind now with
  | error overflow => exact Or.inl ⟨rfl, rfl⟩
  | ok p =>
    obtain ⟨liftedAt, tracker⟩ := p
    refine Or.inr ⟨liftedAt, tracker, _, rfl, rfl, ?_⟩
    split <;> rfl

/-- The return of a flight with an answer is on the list. -/
theorem progress_settleValue (r : Router τ) (now : Instant) (f : Flight)
    (trail : List Attempt) (cancels : Bool) (value : α) :
    Progress r now ⟨.flying f, trail, false⟩ (.poll ⟨cancels, some (.ok value)⟩)
      (r.settleValue now ⟨.flying f, trail, cancels⟩ f value)
      (.returned (.ok value) ::
        (r.settleValue now ⟨.flying f, trail, cancels⟩ f value).results
          ⟨.flying f, trail, false⟩) := by
  have hresults : (r.settleValue now ⟨.flying f, trail, cancels⟩ f value).results
      ⟨.flying f, trail, false⟩ = (f.attempt now .success none).incidents := by
    -- neither what is cleared nor how long the trail is shows in the events
    cases hknown : (r.tracker.recordSuccess f.endpoint.id).1 <;> cases trail <;>
      simp [Router.settleValue, Turn.results, Router.recordSuccess, Flight.attempt,
        Attempt.incidents, Notice.event?, hknown]
  rw [hresults]
  exact Progress.answered rfl

/-- The return of a flight with a failure is on the list. -/
theorem progress_settleFailure (r : Router τ) (now : Instant) (f : Flight)
    (trail : List Attempt) (cancels : Bool) (failure : Failure) :
    Progress (α := α) r now ⟨.flying f, trail, false⟩
      (.poll ⟨cancels, some (.error failure)⟩)
      (r.settleFailure now ⟨.flying f, trail, cancels⟩ f failure)
      (.returned (.error failure) ::
        (r.settleFailure now ⟨.flying f, trail, cancels⟩ f failure).results
          ⟨.flying f, trail, false⟩) := by
  generalize hkind : (if cancels then .userAbort else r.classifier.classify failure) = kind
  cases hfatal : kind.isRetriable with
  | false =>
    simpa [Router.settleFailure, hkind, hfatal, Turn.results, Call.breakOff, Flight.attempt,
      Attempt.incidents, Notice.event?] using Progress.broken hkind.symm hfatal rfl
  | true =>
    -- a cancelled call's failure is its caller's abort, which is not retriable
    have hgoesOn : cancels = false := by
      cases cancels with
      | false => rfl
      | true =>
        rw [if_pos rfl] at hkind
        rw [← hkind] at hfatal
        exact absurd hfatal (by decide)
    subst hgoesOn
    obtain rfl : r.classifier.classify failure = kind := by simpa using hkind
    rcases r.recordFailure_cases f.endpoint.id (r.classifier.classify failure) now with
      ⟨htracker, hrecord⟩ | ⟨liftedAt, tracker, notices, htracker, hrecord, hsilent⟩
    · simpa [Router.settleFailure, hfatal, hrecord, Turn.results]
        using Progress.overflowed rfl hfatal htracker
    · unfold Notice.event? at hsilent
      simpa [Router.settleFailure, hfatal, hrecord, hsilent, Turn.results, Call.advance,
        Flight.attempt, Attempt.incidents, Notice.event?]
        using Progress.advanced rfl hfatal htracker rfl

/-- Asking a backend is on the list. -/
theorem progress_poll (r : Router τ) (now : Instant) (call : Call α) (p : Poll α) :
    Progress r now call (.poll p) (r.poll now call p) (r.incidents now call (.poll p)) := by
  obtain ⟨stage, trail, cancelled⟩ := call
  cases stage with
  | flying f =>
    cases cancelled with
    | true =>
      simpa [Router.poll, Router.settle, Router.settleFailure, Router.incidents, Router.move,
        Move.opening, Turn.results, Call.breakOff, Kind.isRetriable, Flight.attempt,
        Attempt.incidents, Notice.event?] using Progress.dropped rfl
    | false =>
      obtain ⟨cancels, reply⟩ := p
      cases reply with
      | none =>
        cases cancels <;>
          simpa [Router.poll, Router.incidents, Router.move, Move.opening, Turn.results,
            Call.cancel] using Progress.waiting
      | some reply =>
        have hcall : (if cancels then Call.cancel ⟨.flying f, trail, false⟩
            else ⟨.flying f, trail, false⟩ : Call α) = ⟨.flying f, trail, cancels⟩ := by
          cases cancels <;> rfl
        cases reply with
        | ok value =>
          simpa [Router.poll, Router.settle, Router.incidents, Router.move, Move.opening, hcall]
            using progress_settleValue r now f trail cancels value
        | error failure =>
          simpa [Router.poll, Router.settle, Router.incidents, Router.move, Move.opening, hcall]
            using progress_settleFailure r now f trail cancels failure
  | _ =>
    -- a call that seeks or is over has no backend to ask
    simpa [Router.poll, Router.incidents, Router.move, Move.opening, Turn.results]
      using Progress.idle rfl

/-- **A move of a call does one of the listed things.** -/
theorem progress_move (r : Router τ) (now : Instant) (call : Call α) (m : Move α) :
    Progress r now call m (r.move now call m) (r.incidents now call m) := by
  cases m with
  | takeUp => exact progress_takeUp r now call
  | poll p => exact progress_poll r now call p
  | cancel =>
    obtain ⟨stage, trail, cancelled⟩ := call
    cases stage <;>
      simpa [Router.incidents, Router.move, Move.opening, Turn.results, Call.cancel]
        using Progress.cancelled

/-! ### The list is exact -/

/-- The gate answers in one way only. -/
theorem Router.Admission.unique {r : Router τ} {e : Endpoint} {now : Instant}
    {taken taken' : Bool} {gate gate' : Option (Gate τ)} (h : r.Admission e now taken gate)
    (h' : r.Admission e now taken' gate') : taken' = taken ∧ gate' = gate := by
  cases h with
  | unasked hnone =>
    cases h' with
    | unasked => exact ⟨rfl, rfl⟩
    | asked hgate hhint => simp [hgate, hhint] at hnone
  | asked hgate hhint =>
    cases h' with
    | unasked hnone => simp [hgate, hhint] at hnone
    | asked hgate' hhint' =>
      cases hgate.symm.trans hgate'
      cases hhint.symm.trans hhint'
      exact ⟨rfl, rfl⟩

/-- **A move of a call does one thing only**: the turn, apart from its notices, and the
incidents are determined. -/
theorem Progress.unique {r : Router τ} {now : Instant} {call : Call α} {m : Move α}
    {turn turn' : Turn τ α} {log log' : List (Incident α)} (h : Progress r now call m turn log)
    (h' : Progress r now call m turn' log') :
    turn'.router = turn.router ∧ turn'.call = turn.call ∧ log' = log := by
  cases h with
  | idle hsuits =>
    cases h' with
    | idle => exact ⟨rfl, rfl, rfl⟩
    | _ => cases hsuits
  | cancelled | exhausted | abandoned | waiting =>
    cases h' with
    | idle hsuits => cases hsuits
    | _ => exact ⟨rfl, rfl, rfl⟩
  | unregistered hnone =>
    have hresolve := Registry.resolve_eq_none_iff.mpr hnone
    cases h' with
    | idle hsuits => cases hsuits
    | unregistered => exact ⟨rfl, rfl, rfl⟩
    | cooling hresolve' | throttled hresolve' | dispatched hresolve' =>
      cases hresolve.symm.trans hresolve'
  | cooling hresolve hactive ha =>
    cases h' with
    | idle hsuits => cases hsuits
    | unregistered hnone => cases (Registry.resolve_eq_none_iff.mpr hnone).symm.trans hresolve
    | cooling hresolve' hactive' ha' =>
      cases hresolve.symm.trans hresolve'
      cases hactive.symm.trans hactive'
      cases ha
      cases ha'
      exact ⟨rfl, rfl, rfl⟩
    | throttled hresolve' hclear | dispatched hresolve' hclear =>
      cases hresolve.symm.trans hresolve'
      cases hactive.symm.trans hclear
  | throttled hresolve hclear hgate ha =>
    cases h' with
    | idle hsuits => cases hsuits
    | unregistered hnone => cases (Registry.resolve_eq_none_iff.mpr hnone).symm.trans hresolve
    | cooling hresolve' hactive =>
      cases hresolve.symm.trans hresolve'
      cases hclear.symm.trans hactive
    | throttled hresolve' _ hgate' ha' =>
      cases hresolve.symm.trans hresolve'
      obtain ⟨-, rfl⟩ := hgate.unique hgate'
      cases ha
      cases ha'
      exact ⟨rfl, rfl, rfl⟩
    | dispatched hresolve' _ hgate' =>
      cases hresolve.symm.trans hresolve'
      cases (hgate.unique hgate').1
  | dispatched hresolve hclear hgate =>
    cases h' with
    | idle hsuits => cases hsuits
    | unregistered hnone => cases (Registry.resolve_eq_none_iff.mpr hnone).symm.trans hresolve
    | cooling hresolve' hactive =>
      cases hresolve.symm.trans hresolve'
      cases hclear.symm.trans hactive
    | throttled hresolve' _ hgate' =>
      cases hresolve.symm.trans hresolve'
      cases (hgate.unique hgate').1
    | dispatched hresolve' _ hgate' =>
      cases hresolve.symm.trans hresolve'
      obtain ⟨-, rfl⟩ := hgate.unique hgate'
      exact ⟨rfl, rfl, rfl⟩
  | dropped ha =>
    cases h' with
    | idle hsuits => cases hsuits
    | dropped ha' => exact ⟨rfl, by rw [ha, ha'], by rw [ha, ha']⟩
  | answered ha =>
    cases h' with
    | idle hsuits => cases hsuits
    | answered ha' => exact ⟨rfl, by rw [ha, ha'], by rw [ha, ha']⟩
  | broken hkind hfatal ha =>
    cases h' with
    | idle hsuits => cases hsuits
    | broken hkind' _ ha' =>
      cases hkind
      cases hkind'
      cases ha
      cases ha'
      exact ⟨rfl, rfl, rfl⟩
    | advanced hkind' hretriable | overflowed hkind' hretriable =>
      rw [if_neg Bool.false_ne_true, ← hkind'] at hkind
      rw [hkind, hretriable] at hfatal
      cases hfatal
  | advanced hkind hretriable hrecord ha =>
    cases h' with
    | idle hsuits => cases hsuits
    | broken hkind' hfatal =>
      rw [if_neg Bool.false_ne_true, ← hkind] at hkind'
      rw [hkind', hretriable] at hfatal
      cases hfatal
    | advanced hkind' _ hrecord' ha' =>
      cases hkind
      cases hkind'
      cases hrecord.symm.trans hrecord'
      cases ha
      cases ha'
      exact ⟨rfl, rfl, rfl⟩
    | overflowed hkind' _ hrecord' =>
      cases hkind
      cases hkind'
      cases hrecord.symm.trans hrecord'
  | overflowed hkind hretriable hrecord =>
    cases h' with
    | idle hsuits => cases hsuits
    | broken hkind' hfatal =>
      rw [if_neg Bool.false_ne_true, ← hkind] at hkind'
      rw [hkind', hretriable] at hfatal
      cases hfatal
    | advanced hkind' _ hrecord' =>
      cases hkind
      cases hkind'
      cases hrecord.symm.trans hrecord'
    | overflowed => exact ⟨rfl, rfl, rfl⟩

end Failover
