import Failover.Proofs.Traffic

/-!
# Cancellation

A call that its caller has cancelled does one thing more at most: it ends.  Where it
sought, it ends at the candidate whose turn it was, with the trail that it had;
where it waited, the flight is dropped and makes the last attempt.  Nothing of this
hangs on the router, so the rules by which failures are classified have no say in
it.  A backend that comes back in the very poll in which the call is cancelled is
still heard, but only an answer counts: any failure is the caller's abort.

## Main definitions

* `Call.ofAbort`, `Flight.abort` — a call that its caller's abort has ended, and the
  attempt that it makes of a flight.
* `Call.stop` — the end of a call that has been cancelled.
* `Router.withClassifier`, `Traffic.Unjudged` — another classifier, and runs in which
  none is asked.
* `Traffic.StopsCancelled` — what cancelling a call does to it.

## Main results

* `Progress.of_cancelled` — a move of a call that has been cancelled leaves the router
  alone, and ends the call if it does anything.
* `Traffic.run_withClassifier` — the classifier is asked about the failures of calls
  that have not been cancelled, and for nothing else.
* `cancellation_stops` — **cancellation stops a call dead.**
-/

namespace Failover

variable {τ : Type} [TokenNumber τ] {α : Type}

/-! ### Calls that have been cancelled -/

/-- A call that its caller's abort has ended. -/
def Call.ofAbort (candidate : String) (endpoint : Option EndpointId) (failure : Failure)
    (trail : List Attempt) : Call α :=
  ⟨.over (.failed (.nonRetriable ⟨.userAbort, candidate, endpoint, failure, trail⟩)), trail,
    true⟩

/-- The attempt of a flight that the caller's abort has ended. -/
def Flight.abort (f : Flight) (now : Instant) : Attempt :=
  f.attempt now .nonRetriableFailure (some .userAbort)

/-- A call that has been cancelled, once it has ended. -/
def Call.stop (call : Call α) (now : Instant) : Call α :=
  match call.stage with
  | .seeking [] => ⟨.over (.failed (.exhausted call.trail)), call.trail, true⟩
  | .seeking (candidate :: _) => .ofAbort candidate none .cancelled call.trail
  | .flying f =>
      .ofAbort f.candidate (some f.endpoint.id) .cancelled (call.trail ++ [f.abort now])
  | .over _ => call

/-- What happens to a call that has been cancelled when it ends: its flight is
dropped. -/
def Call.lastIncidents (call : Call α) (now : Instant) : List (Incident α) :=
  match call.stage with
  | .flying f => .dropped :: (f.abort now).incidents
  | .seeking _ | .over _ => []

/-- Whether a move makes a call go on. -/
def Move.drives (stage : Stage α) : Move α → Bool
  | .cancel => false
  | m => m.suits stage

/-- **A move of a call that has been cancelled leaves the router alone**, and ends
the call if it makes it go on at all. -/
theorem Progress.of_cancelled {r : Router τ} {now : Instant} {call : Call α} {m : Move α}
    {turn : Turn τ α} {log : List (Incident α)} (h : Progress r now call m turn log)
    (hcancelled : call.cancelled = true) :
    turn.router = r ∧
      turn.call = (if m.drives call.stage then call.stop now else call) ∧
      log = if m.drives call.stage then call.lastIncidents now else [] := by
  cases h with
  | @idle stage trail cancelled m hsuits =>
    have hdrives : m.drives stage = false := by
      cases m with
      | cancel => rfl
      | takeUp | poll p => exact hsuits
    rw [hdrives]
    exact ⟨rfl, rfl, rfl⟩
  | cancelled | exhausted =>
    obtain rfl : _ = true := hcancelled
    exact ⟨rfl, rfl, rfl⟩
  | abandoned => exact ⟨rfl, rfl, rfl⟩
  | dropped ha =>
    subst ha
    exact ⟨rfl, rfl, rfl⟩
  | _ => cases hcancelled

theorem Call.cancelled_stop {call : Call α} (hcancelled : call.cancelled = true)
    (now : Instant) : (call.stop now).cancelled = true := by
  obtain ⟨stage, trail, cancelled⟩ := call
  cases stage with
  | seeking rest => cases rest <;> rfl
  | flying f => rfl
  | _ => exact hcancelled

/-- A call that has ended this way is over. -/
theorem Call.over_stop (call : Call α) (now : Instant) :
    ∃ v, (call.stop now).stage = .over v := by
  obtain ⟨stage, trail, cancelled⟩ := call
  cases stage with
  | seeking rest => cases rest <;> exact ⟨_, rfl⟩
  | _ => exact ⟨_, rfl⟩

/-- However the call ends, it comes to no other candidate and calls no backend. -/
theorem Call.quiet_lastIncidents (call : Call α) (now : Instant) :
    walked (call.lastIncidents now) = [] ∧ invocations (call.lastIncidents now) = [] := by
  obtain ⟨stage, trail, cancelled⟩ := call
  cases stage <;> exact ⟨rfl, rfl⟩

/-- No move makes a call go on that is over. -/
theorem Move.drives_over (m : Move α) (v : Verdict α) : m.drives (.over v) = false := by
  cases m <;> rfl

namespace Traffic

/-- A call that has been cancelled is, after any acts, still what it was, or it has
ended the one way that is left. -/
theorem cancelled_run {w : Traffic τ α} {i : Nat} {call : Call α}
    (hcall : w.calls[i]? = some call) (hcancelled : call.cancelled = true)
    (acts : List (Act α)) :
    ∃ call', (w.run acts).calls[i]? = some call' ∧ call'.cancelled = true ∧
      ((call' = call ∧ incidentsOf i (w.journal acts) = []) ∨
        ∃ now, call' = call.stop now ∧
          incidentsOf i (w.journal acts) = call.lastIncidents now) := by
  obtain ⟨call', hcall', hend⟩ := call_run (R := fun _ => True)
    (P := fun call' log => (call' = call ∧ log = []) ∨
      ∃ now, call' = call.stop now ∧ log = call.lastIncidents now)
    (fun _ _ => trivial)
    (fun {r now call' m turn log log'} _ hprogress hbefore => by
      rcases hbefore with ⟨rfl, rfl⟩ | ⟨ended, rfl, rfl⟩
      · obtain ⟨-, hturn, hlog⟩ := hprogress.of_cancelled hcancelled
        rw [List.nil_append, hturn, hlog]
        split
        · exact Or.inr ⟨now, rfl, rfl⟩
        · exact Or.inl ⟨rfl, rfl⟩
      · -- it has ended, so the move comes to nothing
        obtain ⟨v, hover⟩ := call.over_stop ended
        obtain ⟨-, hturn, hlog⟩ := hprogress.of_cancelled (Call.cancelled_stop hcancelled ended)
        rw [hover, Move.drives_over, if_neg Bool.false_ne_true] at hturn hlog
        rw [hturn, hlog, List.append_nil]
        exact Or.inr ⟨ended, rfl, rfl⟩)
    acts trivial hcall (Or.inl ⟨rfl, rfl⟩)
  rw [List.nil_append] at hend
  refine ⟨call', hcall', ?_, hend⟩
  rcases hend with ⟨rfl, -⟩ | ⟨ended, rfl, -⟩
  · exact hcancelled
  · exact Call.cancelled_stop hcancelled ended

/-- The clock after an act hangs on the clock before it alone. -/
theorem clock_step (w : Traffic τ α) (act : Act α) :
    (w.step act).clock = match act with | .pass s => w.clock.later s | _ => w.clock := by
  cases act with
  | pass s => rfl
  | start chain cancelled => rfl
  | move j m => cases hcall : w.calls[j]? <;> simp only [step, hcall]
  | change c => cases happly : w.router.apply w.clock c <;> simp only [step, happly]

/-- Calls that have been cancelled and are alike fare alike, however different the
routers and the other calls are. -/
theorem cancelled_run_congr {i : Nat} (acts : List (Act α)) :
    ∀ {w w' : Traffic τ α} {call : Call α}, w'.clock = w.clock →
      w.calls[i]? = some call → w'.calls[i]? = some call → call.cancelled = true →
        (w'.run acts).calls[i]? = (w.run acts).calls[i]? ∧
          incidentsOf i (w'.journal acts) = incidentsOf i (w.journal acts) := by
  induction acts with
  | nil =>
    intro w w' call _ hcall hcall' _
    exact ⟨hcall'.trans hcall.symm, rfl⟩
  | cons act acts ih =>
    intro w w' call hclock hcall hcall' hcancelled
    have hlater : (w'.step act).clock = (w.step act).clock := by
      rw [clock_step, clock_step, hclock]
    rw [run_cons, run_cons, journal_cons, journal_cons, incidentsOf_append, incidentsOf_append]
    by_cases hact : ∃ m, act = .move i m
    · obtain ⟨m, rfl⟩ := hact
      obtain ⟨turn, hprogress, hnext, -⟩ := call_step_move hcall m
      obtain ⟨turn', hprogress', hnext', -⟩ := call_step_move hcall' m
      obtain ⟨-, hturn, hlog⟩ := hprogress.of_cancelled hcancelled
      obtain ⟨-, hturn', hlog'⟩ := hprogress'.of_cancelled hcancelled
      rw [hclock, ← hturn] at hturn'
      rw [hclock, ← hlog] at hlog'
      have hstill : turn.call.cancelled = true := by
        rw [hturn]
        split
        · exact Call.cancelled_stop hcancelled w.clock
        · exact hcancelled
      obtain ⟨hcalls, hlogs⟩ := ih hlater hnext (hturn' ▸ hnext') hstill
      exact ⟨hcalls, by rw [hlog', hlogs]⟩
    · have hne : ∀ m, act ≠ .move i m := fun m h => hact ⟨m, h⟩
      obtain ⟨hcalls, hlogs⟩ := ih hlater (calls_step_of_ne hcall hne)
        (calls_step_of_ne hcall' hne) hcancelled
      refine ⟨hcalls, ?_⟩
      rw [incidentsOf_happenings_of_ne w hne, incidentsOf_happenings_of_ne w' hne, hlogs]

end Traffic

/-! ### What the classifier has a say in -/

/-- The router with another classifier. -/
def Router.withClassifier (r : Router τ) (c : Classifier) : Router τ := { r with classifier := c }

/-- The turn at a router with another classifier. -/
def Turn.withClassifier (turn : Turn τ α) (c : Classifier) : Turn τ α :=
  { turn with router := turn.router.withClassifier c }

/-- The traffic of a router with another classifier. -/
def Traffic.withClassifier (w : Traffic τ α) (c : Classifier) : Traffic τ α :=
  { w with router := w.router.withClassifier c }

namespace Router

variable (r : Router τ) (c : Classifier) (now : Instant)

theorem consider_withClassifier (candidate : String) :
    (r.withClassifier c).consider candidate now =
      ((r.consider candidate now).1, (r.consider candidate now).2.withClassifier c) := by
  simp only [consider, withClassifier]
  cases hresolve : r.registry.resolve candidate with
  | none => rfl
  | some p =>
    obtain ⟨e, registry⟩ := p
    cases hactive : r.tracker.active? e.id now with
    | some s => simp only [hactive]
    | none =>
      simp only [hactive]
      cases hgate : r.gate with
      | none => rfl
      | some gate => cases hhint : e.rpmHint <;> rfl

theorem takeUp_withClassifier (call : Call α) :
    (r.withClassifier c).takeUp now call = (r.takeUp now call).withClassifier c := by
  obtain ⟨stage, trail, cancelled⟩ := call
  cases stage with
  | seeking candidates =>
    cases candidates with
    | nil => rfl
    | cons candidate rest =>
      cases cancelled with
      | true => rfl
      | false =>
        simp only [takeUp, consider_withClassifier, Bool.false_eq_true, if_false]
        cases hdecision : (r.consider candidate now).1 <;> rfl
  | _ => rfl

omit [TokenNumber τ] in
/-- The failure of a call that has been cancelled is not classified. -/
theorem settleFailure_withClassifier (call : Call α) (hcancelled : call.cancelled = true)
    (f : Flight) (failure : Failure) :
    (r.withClassifier c).settleFailure now call f failure =
      (r.settleFailure now call f failure).withClassifier c := by
  have hfatal : Kind.userAbort.isRetriable = false := rfl
  simp only [settleFailure, hcancelled, if_true, hfatal, Bool.false_eq_true, if_false]
  rfl

/-- A move makes use of the classifier only if it brings the failure of a call that
has not been cancelled. -/
theorem move_withClassifier {call : Call α} {m : Move α}
    (hunjudged : ∀ failure, m = .poll ⟨false, some (.error failure)⟩ → call.cancelled = true) :
    (r.withClassifier c).move now call m = (r.move now call m).withClassifier c := by
  cases m with
  | takeUp => exact takeUp_withClassifier r c now call
  | cancel => rfl
  | poll p =>
    obtain ⟨stage, trail, cancelled⟩ := call
    cases stage with
    | flying f =>
      cases cancelled with
      | true => exact settleFailure_withClassifier r c now ⟨.flying f, trail, true⟩ rfl f .cancelled
      | false =>
        obtain ⟨cancels, reply⟩ := p
        match reply with
        | none => rfl
        | some (.ok value) => cases cancels <;> rfl
        | some (.error failure) =>
          cases cancels with
          | true =>
            exact settleFailure_withClassifier r c now ⟨.flying f, trail, true⟩ rfl f failure
          | false => cases hunjudged failure rfl
    | _ => rfl

/-- No change makes use of the classifier. -/
theorem apply_withClassifier (change : Change) :
    (r.withClassifier c).apply now change =
      (r.apply now change).map (·.withClassifier c) := by
  cases change with
  | fail id kind =>
    simp only [apply, recordFailure, withClassifier]
    cases hrecord : r.tracker.recordFailure id kind now <;> rfl
  | replaceGroup name es =>
    simp only [apply, replaceGroup, withClassifier]
    cases hgroup : r.registry.replaceGroup name es <;> rfl
  | acquire id rpm =>
    obtain ⟨registry, tracker, gate, classifier⟩ := r
    cases gate <;> rfl
  | _ => rfl

end Router

namespace Traffic

/-- A run in which no failure comes back to a call that has not been cancelled. -/
def Unjudged : Traffic τ α → List (Act α) → Prop
  | _, [] => True
  | w, act :: acts =>
      (∀ i failure, act = .move i (.poll ⟨false, some (.error failure)⟩) →
        ∀ call, w.calls[i]? = some call → call.cancelled = true) ∧
        Unjudged (w.step act) acts

/-- An act makes use of the classifier only if it brings the failure of a call that
has not been cancelled. -/
theorem step_withClassifier {w : Traffic τ α} {act : Act α} (c : Classifier)
    (hunjudged : ∀ i failure, act = .move i (.poll ⟨false, some (.error failure)⟩) →
      ∀ call, w.calls[i]? = some call → call.cancelled = true) :
    (w.withClassifier c).step act = (w.step act).withClassifier c ∧
      (w.withClassifier c).happenings act = w.happenings act := by
  cases act with
  | pass s => exact ⟨rfl, rfl⟩
  | start chain cancelled => exact ⟨rfl, rfl⟩
  | move i m =>
    cases hcall : w.calls[i]? with
    | none => simp only [step, happenings, withClassifier, hcall, and_self]
    | some call =>
      have hmove := w.router.move_withClassifier c w.clock
        (fun failure hm => hunjudged i failure (congrArg (Act.move i) hm) call hcall)
      have hincidents : (w.router.withClassifier c).incidents w.clock call m =
          w.router.incidents w.clock call m := by
        rw [Router.incidents, hmove]
        rfl
      constructor
      · simp only [step, withClassifier, hcall, hmove]
        rfl
      · simp only [happenings, withClassifier, hcall, hincidents]
  | change change =>
    have happly := w.router.apply_withClassifier c w.clock change
    cases hchange : w.router.apply w.clock change <;>
      simp [step, happenings, withClassifier, happly, hchange]

/-- **Traffic fares alike under any two classifiers**, as long as no failure comes
back to a call that has not been cancelled. -/
theorem run_withClassifier (c : Classifier) (acts : List (Act α)) :
    ∀ {w : Traffic τ α}, w.Unjudged acts →
      (w.withClassifier c).run acts = (w.run acts).withClassifier c ∧
        (w.withClassifier c).journal acts = w.journal acts := by
  induction acts with
  | nil => intro w _; exact ⟨rfl, rfl⟩
  | cons act acts ih =>
    intro w hunjudged
    obtain ⟨hstep, hhappenings⟩ := step_withClassifier c hunjudged.1
    obtain ⟨hrun, hjournal⟩ := ih hunjudged.2
    rw [run_cons, run_cons, journal_cons, journal_cons, hstep, hhappenings]
    exact ⟨hrun, by rw [hjournal]⟩

end Traffic

/-! ### Cancelling a call -/

/-- A poll in whose course the call is cancelled: only an answer counts. -/
theorem Progress.of_cancelling_poll {r : Router τ} {now : Instant} {f : Flight}
    {trail : List Attempt} {reply : Option (Except Failure α)} {turn : Turn τ α}
    {log : List (Incident α)}
    (h : Progress r now ⟨.flying f, trail, false⟩ (.poll ⟨true, reply⟩) turn log) :
    match reply with
    | none => turn.call = ⟨.flying f, trail, true⟩ ∧ turn.router = r ∧ log = []
    | some (.error failure) =>
        turn.call = .ofAbort f.candidate (some f.endpoint.id) failure (trail ++ [f.abort now]) ∧
          turn.router = r ∧ log = .returned (.error failure) :: (f.abort now).incidents
    | some (.ok value) =>
        ∃ a, a = f.attempt now .success none ∧
          turn.call = ⟨.over (.routed ⟨value, f.endpoint, trail ++ [a]⟩), trail ++ [a], true⟩ ∧
          turn.router = { r with tracker := (r.tracker.recordSuccess f.endpoint.id).2 } ∧
          log = .returned (.ok value) :: a.incidents := by
  cases h with
  | idle hsuits => cases hsuits
  | waiting => exact ⟨rfl, rfl, rfl⟩
  | answered ha => exact ⟨_, ha, rfl, rfl, rfl⟩
  | broken hkind _ ha =>
    rw [if_pos rfl] at hkind
    subst hkind ha
    exact ⟨rfl, rfl, rfl⟩

/-- What cancelling a call does to it, the call being the one at position `i`. -/
structure Traffic.StopsCancelled (w : Traffic τ α) (i : Nat) : Prop where
  /-- A call that has been cancelled comes to no candidate any more and calls no backend,
  and none of its moves changes anything of the router: no cursor, no budget and no
  cooldown. -/
  idle : ∀ {call}, w.calls[i]? = some call → call.cancelled = true → ∀ acts,
    walked (incidentsOf i (w.journal acts)) = [] ∧
    invocations (incidentsOf i (w.journal acts)) = [] ∧
    ∀ m, ((w.run acts).step (.move i m)).router = (w.run acts).router
  /-- A call that has been cancelled before a candidate's turn ends there, with the trail
  that it had.  The observer sees nothing of it. -/
  before_turn : ∀ {candidate rest trail},
    w.calls[i]? = some ⟨.seeking (candidate :: rest), trail, true⟩ →
      (w.step (.move i .takeUp)).calls[i]? = some (.ofAbort candidate none .cancelled trail) ∧
      ∀ acts, incidentsOf i (w.journal acts) = [] ∧
        ((w.run acts).calls[i]? = some ⟨.seeking (candidate :: rest), trail, true⟩ ∨
          (w.run acts).calls[i]? = some (.ofAbort candidate none .cancelled trail))
  /-- A call that has been cancelled while it waits ends the next time that its backend is
  asked, whatever that has to say.  The flight makes one last attempt. -/
  in_flight : ∀ {f trail}, w.calls[i]? = some ⟨.flying f, trail, true⟩ →
    (∀ p, (w.step (.move i (.poll p))).calls[i]? =
      some (.ofAbort f.candidate (some f.endpoint.id) .cancelled (trail ++ [f.abort w.clock]))) ∧
    ∀ acts,
      ((w.run acts).calls[i]? = some ⟨.flying f, trail, true⟩ ∧
        incidentsOf i (w.journal acts) = []) ∨
      ∃ now, (w.run acts).calls[i]? = some
          (.ofAbort f.candidate (some f.endpoint.id) .cancelled (trail ++ [f.abort now])) ∧
        incidentsOf i (w.journal acts) = .dropped :: (f.abort now).incidents
  /-- Of a backend that comes back in the very poll in which the call is cancelled only an
  answer counts.  A failure of any sort makes the same last attempt as a dropped flight,
  and nothing is recorded of it. -/
  in_poll : ∀ {f trail}, w.calls[i]? = some ⟨.flying f, trail, false⟩ → ∀ reply,
    let w' := w.step (.move i (.poll ⟨true, reply⟩))
    let log := incidentsOf i (w.happenings (.move i (.poll ⟨true, reply⟩)))
    match reply with
    | none => w'.calls[i]? = some ⟨.flying f, trail, true⟩ ∧ w'.router = w.router ∧ log = []
    | some (.error failure) =>
        w'.calls[i]? = some (.ofAbort f.candidate (some f.endpoint.id) failure
          (trail ++ [f.abort w.clock])) ∧
        w'.router = w.router ∧ log = .returned (.error failure) :: (f.abort w.clock).incidents
    | some (.ok value) =>
        ∃ a, a = f.attempt w.clock .success none ∧
          w'.calls[i]? = some
            ⟨.over (.routed ⟨value, f.endpoint, trail ++ [a]⟩), trail ++ [a], true⟩ ∧
          w'.router =
            { w.router with tracker := (w.router.tracker.recordSuccess f.endpoint.id).2 } ∧
          log = .returned (.ok value) :: a.incidents
  /-- Nothing of the router and of the other calls shows in what becomes of a call that has
  been cancelled. -/
  any_router : ∀ {call} {w' : Traffic τ α}, w.calls[i]? = some call → call.cancelled = true →
    w'.clock = w.clock → w'.calls[i]? = some call → ∀ acts,
      (w'.run acts).calls[i]? = (w.run acts).calls[i]? ∧
        incidentsOf i (w'.journal acts) = incidentsOf i (w.journal acts)
  /-- Under any two classifiers the same happens and comes of it, as long as the only
  failures are those of calls that have been cancelled. -/
  any_classifier : ∀ c acts, w.Unjudged acts →
    (w.withClassifier c).run acts = (w.run acts).withClassifier c ∧
      (w.withClassifier c).journal acts = w.journal acts

/-- **Cancellation stops a call dead**, in any traffic: however the call stands and
its router, whatever the other calls do, and whatever the rules of the classifier
are. -/
theorem cancellation_stops (w : Traffic τ α) (i : Nat) : w.StopsCancelled i where
  idle := by
    intro call hcall hcancelled acts
    obtain ⟨call', hcall', hcancelled', hend⟩ := Traffic.cancelled_run hcall hcancelled acts
    have hquiet : walked (incidentsOf i (w.journal acts)) = [] ∧
        invocations (incidentsOf i (w.journal acts)) = [] := by
      rcases hend with ⟨-, hlog⟩ | ⟨now, -, hlog⟩
      · rw [hlog]
        exact ⟨rfl, rfl⟩
      · rw [hlog]
        exact call.quiet_lastIncidents now
    refine ⟨hquiet.1, hquiet.2, fun m => ?_⟩
    obtain ⟨turn, hprogress, -, hrouter⟩ := Traffic.call_step_move hcall' m
    rw [hrouter]
    exact (hprogress.of_cancelled hcancelled').1
  before_turn := by
    intro candidate rest trail hcall
    constructor
    · obtain ⟨turn, hprogress, hnext, -⟩ := Traffic.call_step_move hcall .takeUp
      rw [hnext, (hprogress.of_cancelled rfl).2.1]
      rfl
    · intro acts
      obtain ⟨call', hcall', -, hend⟩ := Traffic.cancelled_run hcall rfl acts
      rw [hcall']
      rcases hend with ⟨rfl, hlog⟩ | ⟨now, rfl, hlog⟩
      · exact ⟨hlog, Or.inl rfl⟩
      · exact ⟨hlog, Or.inr rfl⟩
  in_flight := by
    intro f trail hcall
    constructor
    · intro p
      obtain ⟨turn, hprogress, hnext, -⟩ := Traffic.call_step_move hcall (.poll p)
      rw [hnext, (hprogress.of_cancelled rfl).2.1]
      rfl
    · intro acts
      obtain ⟨call', hcall', -, hend⟩ := Traffic.cancelled_run hcall rfl acts
      rw [hcall']
      rcases hend with ⟨rfl, hlog⟩ | ⟨now, rfl, hlog⟩
      · exact Or.inl ⟨rfl, hlog⟩
      · exact Or.inr ⟨now, rfl, hlog⟩
  in_poll := by
    intro f trail hcall reply
    obtain ⟨turn, hprogress, hnext, hrouter⟩ :=
      Traffic.call_step_move hcall (.poll ⟨true, reply⟩)
    have hpoll := hprogress.of_cancelling_poll
    dsimp only
    rw [hnext, hrouter]
    match reply with
    | none => exact ⟨congrArg some hpoll.1, hpoll.2⟩
    | some (.error failure) => exact ⟨congrArg some hpoll.1, hpoll.2⟩
    | some (.ok value) =>
      obtain ⟨a, ha, hturn, hafter⟩ := hpoll
      exact ⟨a, ha, congrArg some hturn, hafter⟩
  any_router := fun hcall hcancelled hclock hcall' acts =>
    Traffic.cancelled_run_congr acts hclock hcall hcall' hcancelled
  any_classifier := fun c acts => Traffic.run_withClassifier c acts

/-- A call that is cancelled while its first candidate's backend is out. -/
def givenUp : List (Act Unit) :=
  [.start ["fast", "smart"] false, .move 0 .takeUp, .pass (.ofMillis 1000), .move 0 .cancel]

/-- The backend comes back limited, which would have sent the call on to its next
candidate, but too late. -/
theorem cancellation_stops_givenUp :
    (Traffic.twoNames.run givenUp).calls[0]? =
      some ⟨.flying ⟨"fast", .shared "fast", .zero, ["smart"]⟩, [], true⟩ ∧
    ((Traffic.twoNames.run givenUp).step
      (.move 0 (.poll ⟨false, some (.error (.http 429 ""))⟩))).calls[0]? =
      some (.ofAbort "fast" (some (Endpoint.shared "fast").id) .cancelled
        [⟨"fast", some (Endpoint.shared "fast").id, .nonRetriableFailure, some .userAbort,
          .ofSeconds 1⟩]) := by
  have hcall : (Traffic.twoNames.run givenUp).calls[0]? =
      some ⟨.flying ⟨"fast", .shared "fast", .zero, ["smart"]⟩, [], true⟩ := by rfl
  exact ⟨hcall, ((cancellation_stops (Traffic.twoNames.run givenUp) 0).in_flight hcall).1 _⟩

end Failover
