import Failover.Proofs.Traffic

/-!
# The trail of a call

The trail is what a call shows of its way.  It is complete: every candidate that
had an endpoint when its turn came is on it, in order, and so is every call of a
backend.  And it is mirrored: the observer has seen each attempt once, when it
joined the trail.

Two things are followed through a run.  `Books` weighs what happens to a call
against what joins its trail; a backend that was called and has not come back is
carried over, as its attempt is still to come.  `Standing` says how far the call
has come in its chain and what its trail can look like by then.

## Main definitions

* `registered`, `WentOn`, `EndsIn` — walks and trails.
* `Books` — what happens to a call, weighed against its trail.
* `Standing` — how far a call has come.
* `Stage.movesLeft` — how many moves it takes at most to end a call.
* `Verdict.Halts` — where a verdict says that the walk ended.

## Main results

* `Progress.books`, `Progress.standing` — every move keeps both.
* `Traffic.exists_verdict` — a call whose backends come back can be brought to its
  end.
* `trail_complete` — **the trail of a verdict is complete, in order, and mirrored
  to the observer.**
-/

namespace Failover

variable {τ : Type} [TokenNumber τ] {α : Type}

/-! ### Walks and trails -/

/-- The names of a walk that had endpoints when their turn came. -/
def registered (walk : List (String × List Endpoint)) : List String :=
  (walk.filter fun turn => !turn.2.isEmpty).map (·.1)

@[simp] theorem registered_append (walk walk' : List (String × List Endpoint)) :
    registered (walk ++ walk') = registered walk ++ registered walk' := by
  simp [registered]

/-- A name that is resolved is one that has endpoints. -/
theorem registered_of_resolve {r : Registry} {name : String} {e : Endpoint} {r' : Registry}
    (h : r.resolve name = some (e, r')) : registered [(name, r.endpoints name)] = [name] := by
  have hmem := Registry.mem_of_resolve h
  cases hgroup : r.endpoints name with
  | nil =>
    rw [hgroup] at hmem
    cases hmem
  | cons e' es => rfl

/-- Whether a call goes on after an attempt with this outcome. -/
def Outcome.goesOn : Outcome → Bool
  | .retriableFailure | .skipped _ => true
  | .success | .nonRetriableFailure => false

/-- A trail of attempts after each of which the call went on. -/
def WentOn (trail : List Attempt) : Prop := ∀ a ∈ trail, a.outcome.goesOn = true

theorem wentOn_nil : WentOn [] := by
  intro a ha
  cases ha

theorem WentOn.concat {trail : List Attempt} {a : Attempt} (h : WentOn trail)
    (ha : a.outcome.goesOn = true) : WentOn (trail ++ [a]) := by
  intro b hb
  rcases List.mem_append.mp hb with hb | hb
  · exact h b hb
  · rw [List.mem_singleton.mp hb]
    exact ha

/-- A trail that ends in an attempt with this outcome, the call having gone on after
each of the others. -/
def EndsIn (trail : List Attempt) (outcome : Outcome) (a : Attempt) : Prop :=
  ∃ before, trail = before ++ [a] ∧ WentOn before ∧ a.outcome = outcome

theorem WentOn.endsIn {trail : List Attempt} {a : Attempt} (h : WentOn trail) :
    EndsIn (trail ++ [a]) a.outcome a :=
  ⟨trail, rfl, h, rfl⟩

/-- The trail that a verdict shows. -/
def Verdict.trail : Verdict α → List Attempt
  | .routed r => r.trail
  | .failed error => error.trail
  | .clockOverflow => []

/-! ### The books -/

/-- The flight that a call waits for, if it waits. -/
def Call.aloft (call : Call α) : List Flight :=
  match call.stage with
  | .flying f => [f]
  | .seeking _ | .over _ => []

/-- The identities of the endpoints whose backends were called in the course of a
trail. -/
def liveEndpoints (trail : List Attempt) : List (Option EndpointId) :=
  (trail.filter (·.isLive)).map (·.endpoint)

@[simp] theorem liveEndpoints_append (trail trail' : List Attempt) :
    liveEndpoints (trail ++ trail') = liveEndpoints trail ++ liveEndpoints trail' := by
  simp [liveEndpoints]

/-- What happens to a call weighs up with what joins its trail: a flight that the
call waits for is brought in from before and carried over to after. -/
structure Books (before after : Call α) (log : List (Incident α)) : Prop where
  /-- The trail grows by what is recorded. -/
  trail_eq : after.trail = before.trail ++ recorded log
  /-- What is recorded is what the observer sees. -/
  observed_eq : observed log = (recorded log).map (·.event)
  /-- What is recorded is of the names that had endpoints. -/
  candidates_eq : before.aloft.map (·.candidate) ++ registered (walked log) =
    (recorded log).map (·.candidate) ++ after.aloft.map (·.candidate)
  /-- What is recorded as live is of the backends that were called. -/
  invocations_eq :
    before.aloft.map (some ·.endpoint.id) ++ (invocations log).map (some ·.id) =
      liveEndpoints (recorded log) ++ after.aloft.map (some ·.endpoint.id)
  /-- What is recorded names an endpoint unless it is passed over. -/
  endpoint_eq_none : ∀ a ∈ recorded log, a.endpoint = none ↔ a.outcome.isSkip = true

/-- Books of a call at whose trail nothing happens, and which waits for the same
flight as before. -/
theorem Books.of_idle {before after : Call α} (htrail : after.trail = before.trail)
    (haloft : after.aloft = before.aloft) : Books before after [] where
  trail_eq := htrail.trans (List.append_nil _).symm
  observed_eq := rfl
  candidates_eq := by rw [haloft]; exact List.append_nil _
  invocations_eq := by rw [haloft]; exact List.append_nil _
  endpoint_eq_none := by
    intro a ha
    cases ha

theorem Books.refl (call : Call α) : Books call call [] := .of_idle rfl rfl

/-- Books that follow each other are books of the whole. -/
theorem Books.trans {c₁ c₂ c₃ : Call α} {log log' : List (Incident α)} (h : Books c₁ c₂ log)
    (h' : Books c₂ c₃ log') : Books c₁ c₃ (log ++ log') where
  trail_eq := by rw [h'.trail_eq, h.trail_eq, recorded_append, List.append_assoc]
  observed_eq := by
    rw [observed_append, recorded_append, h.observed_eq, h'.observed_eq, List.map_append]
  candidates_eq := by
    rw [walked_append, registered_append, ← List.append_assoc, h.candidates_eq,
      List.append_assoc, h'.candidates_eq, recorded_append, List.map_append, List.append_assoc]
  invocations_eq := by
    rw [invocations_append, List.map_append, ← List.append_assoc, h.invocations_eq,
      List.append_assoc, h'.invocations_eq, recorded_append, liveEndpoints_append,
      List.append_assoc]
  endpoint_eq_none := by
    intro a ha
    rw [recorded_append, List.mem_append] at ha
    rcases ha with ha | ha
    · exact h.endpoint_eq_none a ha
    · exact h'.endpoint_eq_none a ha

/-- Books of a candidate that is passed over. -/
theorem Books.of_skip {r : Registry} {candidate : String} {rest : List String}
    {trail : List Attempt} {e : Endpoint} {r' : Registry} {a : Attempt} {reason : SkipReason}
    {kind : Option Kind} (hresolve : r.resolve candidate = some (e, r'))
    (ha : a = .skip candidate reason kind) :
    Books (α := α) ⟨.seeking (candidate :: rest), trail, false⟩
      ⟨.seeking rest, trail ++ [a], false⟩
      (.reached candidate (r.endpoints candidate) :: a.incidents) where
  trail_eq := rfl
  observed_eq := rfl
  candidates_eq := by
    subst ha
    exact registered_of_resolve hresolve
  invocations_eq := by
    subst ha
    rfl
  endpoint_eq_none := by
    intro b hb
    rw [List.mem_singleton.mp hb, ha]
    exact ⟨fun _ => rfl, fun _ => rfl⟩

/-- Books of a flight that comes back and makes its attempt. -/
theorem Books.of_attempt {f : Flight} {stage : Stage α} {trail : List Attempt} {now : Instant}
    {before after : Bool} {outcome : Outcome} {kind : Option Kind} {a : Attempt}
    {x : Incident α} (hx : x = .dropped ∨ ∃ reply, x = .returned reply)
    (hstage : Call.aloft ⟨stage, trail ++ [a], after⟩ = []) (hlive : outcome.isSkip = false)
    (ha : a = f.attempt now outcome kind) :
    Books ⟨.flying f, trail, before⟩ ⟨stage, trail ++ [a], after⟩ (x :: a.incidents) := by
  have hislive : a.isLive = true := by rw [ha, Attempt.isLive, Flight.attempt, hlive]; rfl
  have hliveEndpoints : liveEndpoints [a] = [some f.endpoint.id] := by
    rw [liveEndpoints, List.filter_cons_of_pos hislive, ha]
    rfl
  have hrecorded : recorded (x :: a.incidents) = [a] := by
    rcases hx with rfl | ⟨reply, rfl⟩ <;> rfl
  exact {
    trail_eq := by rw [hrecorded]
    observed_eq := by
      rw [hrecorded]
      rcases hx with rfl | ⟨reply, rfl⟩ <;> rfl
    -- the flight that was carried over is now on the trail
    candidates_eq := by
      rw [hrecorded, hstage, ha]
      rcases hx with rfl | ⟨reply, rfl⟩ <;> rfl
    invocations_eq := by
      rw [hrecorded, hstage, hliveEndpoints]
      rcases hx with rfl | ⟨reply, rfl⟩ <;> rfl
    endpoint_eq_none := by
      intro b hb
      rw [hrecorded, List.mem_singleton] at hb
      rw [hb, ha]
      simp [Flight.attempt, hlive] }

/-- **Every move keeps the books**, unless the clock runs out. -/
theorem Progress.books {r : Router τ} {now : Instant} {call : Call α} {m : Move α}
    {turn : Turn τ α} {log : List (Incident α)} (h : Progress r now call m turn log)
    (hresult : turn.call.stage ≠ .over .clockOverflow) : Books call turn.call log := by
  cases h with
  | idle | cancelled | waiting | exhausted | abandoned => exact .of_idle rfl rfl
  | unregistered =>
    exact ⟨(List.append_nil _).symm, rfl, rfl, rfl, fun a ha => by cases ha⟩
  | cooling hresolve _ ha | throttled hresolve _ _ ha => exact .of_skip hresolve ha
  | dispatched hresolve =>
    refine ⟨(List.append_nil _).symm, rfl, ?_, rfl, fun a ha => by cases ha⟩
    exact registered_of_resolve hresolve
  | dropped ha => exact .of_attempt (Or.inl rfl) rfl rfl ha
  | answered ha | broken _ _ ha | advanced _ _ _ ha =>
    exact .of_attempt (Or.inr ⟨_, rfl⟩) rfl rfl ha
  | overflowed => exact absurd rfl hresult

/-! ### How far a call has come -/

/-- How far a call has come in its chain: what it is about, its trail, the walk so
far, and how its flights have ended. -/
inductive Standing (chain : List String) :
    Stage α → List Attempt → List (String × List Endpoint) →
      List (Option (Except Failure α)) → Prop
  /-- It seeks: what it has not walked is left. -/
  | seeking {rest : List String} {trail : List Attempt} {walk : List (String × List Endpoint)}
      {landed : List (Option (Except Failure α))} (hwalk : walk.map (·.1) ++ rest = chain)
      (hon : WentOn trail) :
      Standing chain (.seeking rest) trail walk landed
  /-- It waits for the backend of the candidate that it came to last. -/
  | flying {f : Flight} {trail : List Attempt} {walk : List (String × List Endpoint)}
      {landed : List (Option (Except Failure α))} {group : List Endpoint}
      (hwalk : walk.map (·.1) ++ f.rest = chain)
      (hlast : walk.getLast? = some (f.candidate, group)) (hmem : f.endpoint ∈ group)
      (hon : WentOn trail) :
      Standing chain (.flying f) trail walk landed
  /-- The backend of the candidate that it came to last has answered. -/
  | routed {r : Routed α} {a : Attempt}
      {walk : List (String × List Endpoint)} {landed : List (Option (Except Failure α))}
      {left : List String} {group : List Endpoint}
      (hwalk : walk.map (·.1) ++ left = chain)
      (hlast : walk.getLast? = some (a.candidate, group)) (hmem : r.endpoint ∈ group)
      (hlanded : landed.getLast? = some (some (.ok r.value)))
      (hends : EndsIn r.trail .success a) (hendpoint : a.endpoint = some r.endpoint.id) :
      Standing chain (.over (.routed r)) r.trail walk landed
  /-- The flight to the candidate that it came to last has broken it off. -/
  | broken {abort : Abort} {a : Attempt}
      {walk : List (String × List Endpoint)} {landed : List (Option (Except Failure α))}
      {left : List String} {group : List Endpoint} {e : Endpoint}
      (hwalk : walk.map (·.1) ++ left = chain)
      (hlast : walk.getLast? = some (abort.candidate, group)) (hmem : e ∈ group)
      (hlanded : landed.getLast? = some (some (.error abort.failure)) ∨
        landed.getLast? = some none ∧ abort.failure = .cancelled ∧ abort.kind = .userAbort)
      (hends : EndsIn abort.trail .nonRetriableFailure a)
      (hcandidate : a.candidate = abort.candidate) (hendpoint : a.endpoint = some e.id)
      (haborted : abort.endpoint = some e.id) (hkind : a.kind = some abort.kind)
      (hfatal : abort.kind.isRetriable = false) :
      Standing chain (.over (.failed (.nonRetriable abort))) abort.trail walk landed
  /-- It was cancelled before the next candidate's turn. -/
  | abandoned {abort : Abort} {walk : List (String × List Endpoint)}
      {landed : List (Option (Except Failure α))} {left : List String}
      (hwalk : walk.map (·.1) ++ abort.candidate :: left = chain) (hon : WentOn abort.trail)
      (haborted : abort.endpoint = none) (hkind : abort.kind = .userAbort)
      (hfailure : abort.failure = .cancelled) :
      Standing chain (.over (.failed (.nonRetriable abort))) abort.trail walk landed
  /-- It came to the end of the chain. -/
  | exhausted {trail : List Attempt} {walk : List (String × List Endpoint)}
      {landed : List (Option (Except Failure α))} (hwalk : walk.map (·.1) = chain)
      (hon : WentOn trail) :
      Standing chain (.over (.failed (.exhausted trail))) trail walk landed
  /-- The clock has run out. -/
  | overflowed {trail : List Attempt} {walk : List (String × List Endpoint)}
      {landed : List (Option (Except Failure α))} :
      Standing chain (.over .clockOverflow) trail walk landed

/-- **Every move keeps how far a call has come.** -/
theorem Progress.standing {chain : List String} {r : Router τ} {now : Instant} {call : Call α}
    {m : Move α} {turn : Turn τ α} {log : List (Incident α)}
    {walk : List (String × List Endpoint)} {landed : List (Option (Except Failure α))}
    (h : Progress r now call m turn log)
    (hs : Standing chain call.stage call.trail walk landed) :
    Standing chain turn.call.stage turn.call.trail (walk ++ walked log)
      (landed ++ landings log) := by
  cases h with
  | idle | cancelled | waiting =>
    change Standing chain _ _ (walk ++ []) (landed ++ [])
    rw [List.append_nil, List.append_nil]
    -- whether a call has been cancelled does not show in how far it has come
    exact hs
  | exhausted =>
    cases hs with
    | seeking hwalk hon => exact .exhausted (by simpa [walked] using hwalk) hon
  | abandoned =>
    cases hs with
    | seeking hwalk hon => exact .abandoned (by simpa [walked] using hwalk) hon rfl rfl rfl
  | unregistered =>
    cases hs with
    | seeking hwalk hon => exact .seeking (by simpa [walked] using hwalk) hon
  | cooling _ _ ha | throttled _ _ _ ha =>
    cases hs with
    | seeking hwalk hon =>
      subst ha
      exact .seeking (by simpa [walked, Attempt.incidents] using hwalk) (hon.concat rfl)
  | dispatched hresolve =>
    cases hs with
    | seeking hwalk hon =>
      exact .flying (by simpa [walked] using hwalk) List.getLast?_concat
        (Registry.mem_of_resolve hresolve) hon
  -- the candidate of a flight that comes back is still the one that the walk came to last
  | answered ha =>
    cases hs with
    | flying hwalk hlast hmem hon =>
      subst ha
      change Standing chain _ _ (walk ++ []) (landed ++ [_])
      rw [List.append_nil]
      exact .routed (r := ⟨_, _, _⟩) hwalk hlast hmem List.getLast?_concat hon.endsIn rfl
  | dropped ha =>
    cases hs with
    | flying hwalk hlast hmem hon =>
      subst ha
      change Standing chain _ _ (walk ++ []) (landed ++ [_])
      rw [List.append_nil]
      exact .broken hwalk hlast hmem (Or.inr ⟨List.getLast?_concat, rfl, rfl⟩) hon.endsIn rfl rfl
        rfl rfl rfl
  | broken _ hfatal ha =>
    cases hs with
    | flying hwalk hlast hmem hon =>
      subst ha
      change Standing chain _ _ (walk ++ []) (landed ++ [_])
      rw [List.append_nil]
      exact .broken hwalk hlast hmem (Or.inl List.getLast?_concat) hon.endsIn rfl rfl rfl rfl
        hfatal
  | advanced _ _ _ ha =>
    cases hs with
    | flying hwalk hlast hmem hon =>
      subst ha
      change Standing chain _ _ (walk ++ []) (landed ++ [_])
      rw [List.append_nil]
      exact .seeking hwalk (hon.concat rfl)
  | overflowed => exact .overflowed

/-! ### Runs -/

/-- A call that is over stays over, and nothing happens to it any more. -/
theorem Progress.over {r : Router τ} {now : Instant} {call : Call α} {m : Move α}
    {turn : Turn τ α} {log : List (Incident α)} {v : Verdict α}
    (h : Progress r now call m turn log) (hover : call.stage = .over v) :
    turn.call.stage = .over v ∧ turn.call.trail = call.trail ∧ log = [] := by
  cases h with
  | idle | cancelled => exact ⟨hover, rfl, rfl⟩
  | _ => cases hover

namespace Traffic

variable {w : Traffic τ α} {i : Nat} {call call' : Call α}

/-- The books of a call are kept whatever the other calls do. -/
theorem books_run (hcall : w.calls[i]? = some call) (acts : List (Act α))
    (hcall' : (w.run acts).calls[i]? = some call')
    (hresult : call'.stage ≠ .over .clockOverflow) :
    Books call call' (incidentsOf i (w.journal acts)) := by
  obtain ⟨after, hafter, hbooks⟩ := call_run (R := fun _ => True)
    (P := fun after log => after.stage ≠ .over .clockOverflow → Books call after log)
    (fun _ _ => trivial)
    (fun _ hprogress hbefore hstage =>
      (hbefore fun hover => hstage (hprogress.over hover).1).trans (hprogress.books hstage))
    acts trivial hcall (fun _ => .refl call)
  cases hafter.symm.trans hcall'
  exact hbooks hresult

theorem standing_run {chain : List String} (hcall : w.calls[i]? = some call)
    (hs : Standing chain call.stage call.trail [] []) (acts : List (Act α))
    (hcall' : (w.run acts).calls[i]? = some call') :
    Standing chain call'.stage call'.trail (walked (incidentsOf i (w.journal acts)))
      (landings (incidentsOf i (w.journal acts))) := by
  obtain ⟨after, hafter, hstanding⟩ := call_run (R := fun _ => True)
    (P := fun after log => Standing chain after.stage after.trail (walked log) (landings log))
    (fun _ _ => trivial)
    (fun _ hprogress hbefore => by
      rw [walked_append, landings_append]
      exact hprogress.standing hbefore)
    acts trivial hcall (show Standing chain call.stage call.trail (walked []) (landings []) from hs)
  cases hafter.symm.trans hcall'
  exact hstanding

end Traffic

theorem Call.stage_of_verdict? {call : Call α} {v : Verdict α} (h : call.verdict? = some v) :
    call.stage = .over v := by
  unfold Call.verdict? at h
  split at h
  next verdict heq =>
    cases h
    exact heq
  next => cases h

/-- The books of a call that ends with a result, and how far it has come by then. -/
theorem Traffic.result_run (w₀ : Traffic τ α) (chain : List String) (cancelled : Bool)
    (acts : List (Act α)) {call : Call α} {verdict : Verdict α}
    (hcall : ((w₀.step (.start chain cancelled)).run acts).calls[w₀.calls.length]? = some call)
    (hverdict : call.verdict? = some verdict) (hresult : verdict ≠ .clockOverflow) :
    let log := incidentsOf w₀.calls.length ((w₀.step (.start chain cancelled)).journal acts)
    Books (.start chain cancelled) call log ∧
    Standing chain (.over verdict) call.trail (walked log) (landings log) := by
  intro log
  have hover : call.stage = .over verdict := Call.stage_of_verdict? hverdict
  have hbegun := w₀.calls_start chain cancelled
  constructor
  · refine books_run hbegun acts hcall ?_
    rw [hover]
    exact fun h => hresult (Stage.over.inj h)
  · rw [← hover]
    exact standing_run hbegun (.seeking rfl wentOn_nil) acts hcall

/-! ### Every call can end -/

/-- How many moves it takes at most to end a call whose backends come back. -/
def Stage.movesLeft : Stage α → Nat
  | .seeking rest => 2 * rest.length + 1
  | .flying f => 2 * f.rest.length + 2
  | .over _ => 0

/-- Whether a move brings a call on: a candidate is taken up, or a flight ends. -/
def Move.bringsOn (call : Call α) : Move α → Bool
  | .takeUp => match call.stage with | .seeking _ => true | _ => false
  | .poll p => match call.stage with | .flying _ => call.cancelled || p.reply.isSome | _ => false
  | .cancel => false

/-- Such a move brings a call nearer to its end. -/
theorem Progress.movesLeft_lt {r : Router τ} {now : Instant} {call : Call α} {m : Move α}
    {turn : Turn τ α} {log : List (Incident α)} (h : Progress r now call m turn log)
    (hm : m.bringsOn call = true) : turn.call.stage.movesLeft < call.stage.movesLeft := by
  cases h with
  | @idle stage trail cancelled m hsuits =>
    cases m with
    | cancel => cases hm
    | takeUp => cases stage <;> simp [Move.suits, Move.bringsOn] at hsuits hm
    | poll p => cases stage <;> simp [Move.suits, Move.bringsOn] at hsuits hm
  | cancelled | waiting => cases hm
  -- the candidate that is taken up is left no longer, be it called or not
  | exhausted | abandoned | unregistered | cooling | throttled | dispatched | dropped | answered
  | broken | advanced | overflowed =>
    simp only [Stage.movesLeft, List.length_cons, List.length_nil]
    omega

/-- The move that brings a call on, given what each backend comes back with. -/
def Stage.onward (answer : Endpoint → Except Failure α) : Stage α → Move α
  | .flying f => .poll ⟨false, some (answer f.endpoint)⟩
  | .seeking _ | .over _ => .takeUp

theorem Stage.bringsOn_onward (answer : Endpoint → Except Failure α) {call : Call α}
    (hopen : ∀ v, call.stage ≠ .over v) : (call.stage.onward answer).bringsOn call = true := by
  obtain ⟨stage, trail, cancelled⟩ := call
  cases stage with
  | seeking rest => rfl
  | flying f => exact Bool.or_true cancelled
  | _ => exact absurd rfl (hopen _)

/-- **A call whose backends come back can always be brought to its end**, whatever
they come back with and however the router stands. -/
theorem Traffic.exists_verdict (answer : Endpoint → Except Failure α) {i : Nat} :
    ∀ {w : Traffic τ α} {call : Call α}, w.calls[i]? = some call →
      ∃ acts call' verdict, acts.length ≤ call.stage.movesLeft ∧
        (w.run acts).calls[i]? = some call' ∧ call'.verdict? = some verdict := by
  intro w call hcall
  induction hleft : call.stage.movesLeft using Nat.strongRecOn generalizing w call with
  | ind n ih =>
    by_cases hover : ∃ v, call.stage = .over v
    · obtain ⟨v, hv⟩ := hover
      refine ⟨[], call, v, Nat.zero_le _, hcall, ?_⟩
      rw [Call.verdict?, hv]
    · obtain ⟨turn, hprogress, hnext, -⟩ := call_step_move hcall (call.stage.onward answer)
      have hlt := hprogress.movesLeft_lt
        (Stage.bringsOn_onward answer fun v hv => hover ⟨v, hv⟩)
      rw [hleft] at hlt
      obtain ⟨acts, call', verdict, hlength, hcall', hverdict⟩ := ih _ hlt hnext rfl
      refine ⟨.move i (call.stage.onward answer) :: acts, call', verdict, ?_, hcall', hverdict⟩
      rw [List.length_cons]
      omega

/-! ### The trail of a verdict -/

/-- Where a walk ends by its verdict, given the names walked and the names left: at
the candidate that answered or broke the call off, before the one at whose turn the
call was found cancelled, or with the chain. -/
def Verdict.Halts (names left : List String) : Verdict α → Prop
  | .routed r => ∃ a, r.trail.getLast? = some a ∧ names.getLast? = some a.candidate
  | .failed (.nonRetriable abort) =>
      match abort.endpoint with
      | some _ => names.getLast? = some abort.candidate
      | none => left.head? = some abort.candidate
  | .failed (.exhausted _) => left = []
  | _ => False

/-- What an event calls the endpoint of an attempt that names one exactly if it is
live. -/
theorem Attempt.endpoint_event (a : Attempt)
    (h : a.endpoint = none ↔ a.outcome.isSkip = true) :
    match a.outcome with
    | .skipped .cooldown => a.event.endpoint = "skipped-cooldown"
    | .skipped .throttled => a.event.endpoint = "skipped-throttled"
    | _ => ∃ id, a.endpoint = some id ∧ a.event.endpoint = id.text := by
  obtain ⟨candidate, endpoint, outcome, kind, elapsed⟩ := a
  cases endpoint with
  | none =>
    cases outcome with
    | skipped reason => cases reason <;> rfl
    | success | retriableFailure | nonRetriableFailure => cases h.mp rfl
  | some id =>
    cases outcome with
    | skipped reason => cases h.mpr rfl
    | success | retriableFailure | nonRetriableFailure => exact ⟨id, rfl, rfl⟩

theorem Standing.trail_eq {chain : List String} {v : Verdict α} {trail : List Attempt}
    {walk : List (String × List Endpoint)} {landed : List (Option (Except Failure α))}
    (h : Standing chain (.over v) trail walk landed) (hresult : v ≠ .clockOverflow) :
    v.trail = trail := by
  cases h with
  | overflowed => exact absurd rfl hresult
  | _ => rfl

/-- The walk of a call with a result ends where the result says. -/
theorem Standing.halts {chain : List String} {v : Verdict α} {trail : List Attempt}
    {walk : List (String × List Endpoint)} {landed : List (Option (Except Failure α))}
    (h : Standing chain (.over v) trail walk landed) (hresult : v ≠ .clockOverflow) :
    ∃ left, walk.map (·.1) ++ left = chain ∧ v.Halts (walk.map (·.1)) left := by
  cases h with
  | routed hwalk hlast _ _ hends =>
    obtain ⟨before, htrail, -⟩ := hends
    have hend := congrArg List.getLast? htrail
    rw [List.getLast?_concat] at hend
    refine ⟨_, hwalk, _, hend, ?_⟩
    rw [List.getLast?_map, hlast]
    rfl
  | broken hwalk hlast _ _ _ _ _ haborted =>
    refine ⟨_, hwalk, ?_⟩
    rw [Verdict.Halts, haborted, List.getLast?_map, hlast]
    rfl
  | abandoned hwalk _ haborted =>
    -- the candidate at whose turn the call was found cancelled is the first one left
    refine ⟨_, hwalk, ?_⟩
    rw [Verdict.Halts, haborted]
    rfl
  | exhausted hwalk => exact ⟨[], (List.append_nil _).trans hwalk, rfl⟩
  | overflowed => exact absurd rfl hresult

/-- **The trail of a verdict is complete, in order, and mirrored to the observer.**
Take traffic in any state, a call that is made in it and any acts after that, those
of other calls among them.  If the call ends by them with a result, then

* it has walked the chain up to where its result says;
* the trail is of the names that had endpoints when their turn came, in order;
* the backends that were called are those of the attempts that are live, in order;
* the observer was served the event of each attempt, in order and nothing else;
* an event names the endpoint of a live attempt by its identity, and otherwise says
  why the candidate was passed over. -/
theorem trail_complete (w₀ : Traffic τ α) (chain : List String) (cancelled : Bool)
    (acts : List (Act α)) {call : Call α} {verdict : Verdict α}
    (hcall : ((w₀.step (.start chain cancelled)).run acts).calls[w₀.calls.length]? = some call)
    (hverdict : call.verdict? = some verdict) (hresult : verdict ≠ .clockOverflow) :
    let log := incidentsOf w₀.calls.length ((w₀.step (.start chain cancelled)).journal acts)
    (∃ left, (walked log).map (·.1) ++ left = chain ∧
      verdict.Halts ((walked log).map (·.1)) left) ∧
    verdict.trail.map (·.candidate) = registered (walked log) ∧
    (verdict.trail.filter (·.isLive)).map (·.endpoint) = (invocations log).map (some ·.id) ∧
    (∀ trail, verdict = .failed (.exhausted trail) →
      RoutingError.liveAttempts trail = (invocations log).length) ∧
    observed log = verdict.trail.map (·.event) ∧
    (∀ a ∈ verdict.trail, match a.outcome with
      | .skipped .cooldown => a.event.endpoint = "skipped-cooldown"
      | .skipped .throttled => a.event.endpoint = "skipped-throttled"
      | _ => ∃ id, a.endpoint = some id ∧ a.event.endpoint = id.text) := by
  intro log
  obtain ⟨hbooks, hstanding⟩ := Traffic.result_run w₀ chain cancelled acts hcall hverdict hresult
  have hover : call.stage = .over verdict := Call.stage_of_verdict? hverdict
  -- the call began without a trail, and it waits for no flight any more
  have htrail : verdict.trail = recorded log :=
    (hstanding.trail_eq hresult).trans hbooks.trail_eq
  have hcandidates : registered (walked log) = (recorded log).map (·.candidate) := by
    simpa [Call.aloft, Call.start, hover] using hbooks.candidates_eq
  have hinvocations : (invocations log).map (some ·.id) = liveEndpoints (recorded log) := by
    simpa [Call.aloft, Call.start, hover] using hbooks.invocations_eq
  rw [htrail]
  refine ⟨hstanding.halts hresult, hcandidates.symm, hinvocations.symm, ?_, hbooks.observed_eq,
    ?_⟩
  · intro trail hexhausted
    have hlength := congrArg List.length hinvocations
    rw [hexhausted] at htrail
    change trail = recorded log at htrail
    rw [List.length_map, liveEndpoints, List.length_map, ← htrail] at hlength
    exact hlength.symm
  · intro a ha
    exact a.endpoint_event (hbooks.endpoint_eq_none a ha)

/-- A call that fails, comes to a name that nobody has, passes a candidate over and
has then come to the end of its chain. -/
theorem trail_complete_tour :
    ((Traffic.twoNames.step (.start ["fast", "nobody", "smart"] false)).run tour).calls[0]? =
      some ⟨.over (.failed (.exhausted tourTrail)), tourTrail, false⟩ ∧
    observed (incidentsOf 0
      ((Traffic.twoNames.step (.start ["fast", "nobody", "smart"] false)).journal tour)) =
      tourTrail.map (·.event) := by
  have hcall : ((Traffic.twoNames.step (.start ["fast", "nobody", "smart"] false)).run
      tour).calls[0]? = some ⟨.over (.failed (.exhausted tourTrail)), tourTrail, false⟩ := by rfl
  have htrail := trail_complete Traffic.twoNames ["fast", "nobody", "smart"] false tour hcall rfl
    (by intro h; cases h)
  exact ⟨hcall, htrail.2.2.2.2.1⟩

end Failover
