import Failover.Proofs.Tracker
import Failover.Proofs.Traffic

/-!
# Suppression

In traffic the failures that endpoints are left alone for come from all calls,
under whatever names they reach an endpoint, and successes, purges and resets
come in between.  The history is read off what happens: off the attempts that
join the trails and the changes that are made directly.  Every act does to the
tracker what it adds to the history, so the agreement of the two holds in every
order of all calls and changes, and with it what a call may do at a candidate.

## Main definitions

* `Happening.marks`, `marksOf` — what happens in traffic, as a history.

## Main results

* `Traffic.reflects_run` — the tracker agrees with the history in all traffic.
* `suppression_exact` — **a candidate is passed over for cooldown exactly when the
  history says so, and otherwise its backend is called unless its budget is
  spent.**
-/

namespace Failover

variable {τ : Type} [TokenNumber τ] {α : Type}

/-! ### The history of traffic -/

/-- What an attempt that joins a trail adds to the history. -/
def Attempt.marks (a : Attempt) (time : Instant) : List Mark :=
  match a.endpoint, a.outcome, a.kind with
  | some id, .retriableFailure, some kind => [.failed id kind time]
  | some id, .success, _ => [.cleared id]
  | _, _, _ => []

/-- What an incident of a call adds. -/
def Incident.marks (time : Instant) : Incident α → List Mark
  | .recorded a => a.marks time
  | _ => []

/-- What a change adds.  A failure that is not retriable adds nothing. -/
def Change.marks (time : Instant) : Change → List Mark
  | .fail id kind => if kind.isRetriable then [.failed id kind time] else []
  | .succeed id => [.cleared id]
  | .reset => [.forgotten]
  | _ => []

/-- What a happening adds. -/
def Happening.marks : Happening α → List Mark
  | .incident _ time x => x.marks time
  | .changed time c => c.marks time

/-- What happens in traffic, as a history. -/
def marksOf (log : List (Happening α)) : List Mark := log.flatMap (·.marks)

@[simp] theorem marksOf_append (log log' : List (Happening α)) :
    marksOf (log ++ log') = marksOf log ++ marksOf log' :=
  List.flatMap_append

theorem marksOf_map (i : Nat) (now : Instant) (log : List (Incident α)) :
    marksOf (log.map (.incident i now)) = log.flatMap (·.marks now) := by
  rw [marksOf, List.flatMap_map]
  rfl

/-- The marks of an attempt that joins a trail, among its incidents. -/
@[simp] theorem flatMap_marks_incidents (a : Attempt) (time : Instant) :
    (a.incidents (α := α)).flatMap (·.marks time) = a.marks time := by
  simp [Attempt.incidents, Incident.marks]

/-! ### What acts do to the tracker -/

/-- A length of time later is no earlier. -/
theorem Instant.le_later (t : Instant) (s : Span) : t ≤ t.later s := by
  unfold Instant.later
  cases hadd : t.add? s with
  | some u =>
    have hsum := Instant.nanos_of_add? hadd
    change t.nanos ≤ u.nanos
    omega
  | none =>
    have hlt := t.nanos_lt
    change t.nanos ≤ Instant.limit - 1
    omega

/-- A move does to the tracker what it adds to the history. -/
theorem Progress.told {r : Router τ} {now : Instant} {call : Call α} {m : Move α}
    {turn : Turn τ α} {log : List (Incident α)} (h : Progress r now call m turn log) :
    Tracker.Told now r.tracker (log.flatMap (·.marks now)) turn.router.tracker := by
  cases h with
  | answered ha =>
    subst ha
    rw [List.flatMap_cons, flatMap_marks_incidents]
    exact .cleared
  | advanced _ hretriable hrecord ha =>
    subst ha
    rw [List.flatMap_cons, flatMap_marks_incidents]
    exact .failed hretriable hrecord
  | cooling _ _ ha | throttled _ _ _ ha | dropped ha | broken _ _ ha =>
    subst ha
    rw [List.flatMap_cons, flatMap_marks_incidents]
    exact .nothing
  | idle | cancelled | exhausted | abandoned | unregistered | dispatched | waiting
  | overflowed => exact .nothing

/-- A change does to the tracker what it adds to the history. -/
theorem Router.told_apply {r r' : Router τ} {now : Instant} {c : Change}
    (h : r.apply now c = some r') : Tracker.Told now r.tracker (c.marks now) r'.tracker := by
  cases c with
  | fail id kind =>
    rcases r.recordFailure_cases id kind now with
      ⟨-, hrecord⟩ | ⟨liftedAt, tracker, notices, htracker, hrecord, -⟩
    · simp [apply, hrecord] at h
    · simp only [apply, hrecord, Option.some.injEq] at h
      subst h
      cases hkind : kind.isRetriable with
      | true =>
        simp only [Change.marks, hkind, if_true]
        exact .failed hkind htracker
      | false =>
        rcases Tracker.recordFailure_cases htracker with ⟨-, -, rfl⟩ | ⟨window, _, hwindow, -⟩
        · simp only [Change.marks, hkind, Bool.false_eq_true, if_false]
          exact .nothing
        · have hsome := r.tracker.windows.forKind_isSome kind
          rw [hwindow, hkind, Option.isSome_some] at hsome
          exact absurd hsome (by decide)
  | replaceGroup name es =>
    cases hgroup : r.registry.replaceGroup name es with
    | error fault =>
      have hrefused : r.replaceGroup name es = .error fault := by
        simp only [replaceGroup, hgroup]
        rfl
      simp only [apply, hrefused] at h
      cases h
      exact .nothing
    | ok registry =>
      have hreplaced : ∃ notices, r.replaceGroup name es = .ok ({ r with registry }, notices) := by
        simp only [replaceGroup, hgroup]
        exact ⟨_, rfl⟩
      obtain ⟨notices, hreplaced⟩ := hreplaced
      simp only [apply, hreplaced] at h
      cases h
      exact .nothing
  | succeed id => cases h; exact .cleared
  | purge => cases h; exact .purged
  | reset => cases h; exact .forgotten
  | acquire id rpm =>
    cases h
    cases hgate : r.gate <;> simp only [acquire, hgate] <;> exact .nothing
  | register e => cases h; exact .nothing
  | unregister name => cases h; exact .nothing
  | available id => cases h; exact .nothing
  | resetGate => cases h; exact .nothing

namespace Traffic

/-- Every act does to the tracker what it adds to the history. -/
theorem told_step (w : Traffic τ α) (act : Act α) :
    Tracker.Told w.clock w.router.tracker (marksOf (w.happenings act))
      (w.step act).router.tracker := by
  cases act with
  | pass s => exact .nothing
  | start chain cancelled => exact .nothing
  | move i m =>
    cases hcall : w.calls[i]? with
    | none =>
      simp only [step, happenings, hcall]
      exact .nothing
    | some call =>
      simp only [step, happenings, hcall, marksOf_map]
      exact (progress_move w.router w.clock call m).told
  | change c =>
    cases happly : w.router.apply w.clock c with
    | none =>
      simp only [step, happenings, happly]
      exact .nothing
    | some router =>
      simpa [step, happenings, happly, marksOf, Happening.marks] using Router.told_apply happly

/-- The clock does not go back. -/
theorem clock_le_step (w : Traffic τ α) (act : Act α) : w.clock ≤ (w.step act).clock := by
  cases act with
  | pass s => exact w.clock.le_later s
  | start chain cancelled => exact Nat.le_refl _
  | move i m =>
    cases hcall : w.calls[i]? <;> simp only [step, hcall] <;> exact Nat.le_refl _
  | change c =>
    cases happly : w.router.apply w.clock c <;> simp only [step, happly] <;> exact Nat.le_refl _

/-- **The tracker agrees with the history in all traffic.** -/
theorem reflects_run (acts : List (Act α)) :
    ∀ {w : Traffic τ α} {marks : List Mark}, w.router.tracker.Reflects marks w.clock →
      (w.run acts).router.tracker.Reflects (marks ++ marksOf (w.journal acts))
        (w.run acts).clock := by
  induction acts with
  | nil =>
    intro w marks h
    rw [run_nil, journal_nil, marksOf, List.flatMap_nil, List.append_nil]
    exact h
  | cons act acts ih =>
    intro w marks h
    rw [run_cons, journal_cons, marksOf_append, ← List.append_assoc]
    exact ih ((h.told (told_step w act)).mono (clock_le_step w act))

/-- No act changes the windows. -/
theorem windows_run (acts : List (Act α)) : ∀ w : Traffic τ α,
    (w.run acts).router.tracker.windows = w.router.tracker.windows := by
  induction acts with
  | nil => intro w; rfl
  | cons act acts ih =>
    intro w
    rw [run_cons, ih, (told_step w act).windows_eq]

/-- Whether a candidate's endpoint is left alone is what the history says. -/
theorem active?_run {w : Traffic τ α} (hfresh : w.router.tracker.entries = ∅)
    (acts : List (Act α)) (id : EndpointId) :
    ((w.run acts).router.tracker.active? id (w.run acts).clock).map (·.kind) =
      suppressor w.router.tracker.windows (marksOf (w.journal acts)) id (w.run acts).clock := by
  have hreflects := reflects_run acts (Tracker.reflects_nil hfresh w.clock)
  rw [List.nil_append] at hreflects
  rw [hreflects.active?, windows_run]

end Traffic

/-! ### What a move may do at a candidate -/

section Candidates

variable {r : Router τ} {now : Instant} {turn : Turn τ α} {log : List (Incident α)}

/-- What becomes of a candidate that has an endpoint hangs on whether that is left
alone. -/
theorem Progress.at_candidate {candidate : String} {rest : List String} {trail : List Attempt}
    {e : Endpoint} {registry : Registry}
    (h : Progress r now ⟨.seeking (candidate :: rest), trail, false⟩ .takeUp turn log)
    (hresolve : r.registry.resolve candidate = some (e, registry)) :
    match (r.tracker.active? e.id now).map (·.kind) with
    | some kind =>
        turn.call = ⟨.seeking rest, trail ++ [.skip candidate .cooldown (some kind)], false⟩ ∧
          invocations log = []
    | none =>
        turn.call = ⟨.flying ⟨candidate, e, now, rest⟩, trail, false⟩ ∨
          turn.call = ⟨.seeking rest, trail ++ [.skip candidate .throttled none], false⟩ := by
  cases h with
  | idle hsuits => simp [Move.suits] at hsuits
  | unregistered hnone =>
    rw [Registry.resolve_eq_none_iff.mpr hnone] at hresolve
    cases hresolve
  | cooling hresolve' hactive ha =>
    cases hresolve.symm.trans hresolve'
    rw [hactive, ha]
    exact ⟨rfl, rfl⟩
  | throttled hresolve' hclear _ ha =>
    cases hresolve.symm.trans hresolve'
    rw [hclear, ha]
    exact Or.inr rfl
  | dispatched hresolve' hclear _ =>
    cases hresolve.symm.trans hresolve'
    rw [hclear]
    exact Or.inl rfl

/-- A backend is called only if its endpoint is not left alone. -/
theorem Progress.of_invoked {call : Call α} {m : Move α} {e : Endpoint}
    (h : Progress r now call m turn log) (hmem : .invoked e ∈ log) :
    r.tracker.active? e.id now = none := by
  cases h with
  | dispatched _ hclear _ =>
    simp only [List.mem_cons, reduceCtorEq, Incident.invoked.injEq, List.not_mem_nil, or_false,
      false_or] at hmem
    rw [hmem]
    exact hclear
  | _ => simp [Attempt.incidents] at hmem

/-- A candidate is passed over for cooldown only if its endpoint is left alone. -/
theorem Progress.of_cooldown {call : Call α} {m : Move α} {a : Attempt}
    (h : Progress r now call m turn log) (hmem : .recorded a ∈ log)
    (hskip : a.outcome = .skipped .cooldown) :
    ∃ e registry s, r.registry.resolve a.candidate = some (e, registry) ∧
      r.tracker.active? e.id now = some s ∧ a.kind = some s.kind := by
  have hrecorded : a ∈ recorded log := List.mem_filterMap.mpr ⟨_, hmem, rfl⟩
  cases h with
  | cooling hresolve hactive ha =>
    obtain rfl := List.mem_singleton.mp hrecorded
    subst ha
    exact ⟨_, _, _, hresolve, hactive, rfl⟩
  | throttled _ _ _ ha | dropped ha | answered ha | broken _ _ ha | advanced _ _ _ ha =>
    -- the attempts of the other moves have other outcomes
    obtain rfl := List.mem_singleton.mp hrecorded
    subst ha
    cases hskip
  | _ => cases hrecorded

end Candidates

/-! ### Suppression is exact -/

/-- **A candidate is passed over for cooldown exactly when the history says so.**
Take traffic that begins with a tracker that stores nothing, after any acts.

* A call that seeks and has not been cancelled comes to a candidate that has an
  endpoint.  If the history gives a failure for which the endpoint is left alone,
  the candidate is passed over for it, and no backend is called; otherwise the
  endpoint's backend is called, or else the candidate is passed over because its
  endpoint has spent its budget.
* Whatever act comes next, it calls no backend of an endpoint that is to be left
  alone, and it passes no candidate over for cooldown but one whose endpoint is to
  be left alone. -/
theorem suppression_exact {w₀ : Traffic τ α} (hfresh : w₀.router.tracker.entries = ∅)
    (acts : List (Act α)) :
    let w := w₀.run acts
    let cause (id : EndpointId) : Option Kind :=
      suppressor w₀.router.tracker.windows (marksOf (w₀.journal acts)) id w.clock
    (∀ {i candidate rest trail e registry},
      w.calls[i]? = some ⟨.seeking (candidate :: rest), trail, false⟩ →
      w.router.registry.resolve candidate = some (e, registry) →
        match cause e.id with
        | some kind =>
            (w.step (.move i .takeUp)).calls[i]? = some
              ⟨.seeking rest, trail ++ [.skip candidate .cooldown (some kind)], false⟩ ∧
            invocations (incidentsOf i (w.happenings (.move i .takeUp))) = []
        | none =>
            (w.step (.move i .takeUp)).calls[i]? = some
              ⟨.flying ⟨candidate, e, w.clock, rest⟩, trail, false⟩ ∨
            (w.step (.move i .takeUp)).calls[i]? = some
              ⟨.seeking rest, trail ++ [.skip candidate .throttled none], false⟩) ∧
    (∀ {act i time e}, .incident i time (.invoked e) ∈ w.happenings act →
      cause e.id = none) ∧
    (∀ {act i time a}, .incident i time (.recorded a) ∈ w.happenings act →
      a.outcome = .skipped .cooldown →
        ∃ e registry kind, w.router.registry.resolve a.candidate = some (e, registry) ∧
          cause e.id = some kind ∧ a.kind = some kind) := by
  intro w cause
  have hcause : ∀ id, (w.router.tracker.active? id w.clock).map (·.kind) = cause id :=
    Traffic.active?_run hfresh acts
  refine ⟨?_, ?_, ?_⟩
  · intro i candidate rest trail e registry hcall hresolve
    obtain ⟨turn, hprogress, hnext, -⟩ := Traffic.call_step_move hcall .takeUp
    have hcandidate := hprogress.at_candidate hresolve
    rw [hcause] at hcandidate
    rw [hnext]
    -- the cause is settled first, for what there is to show hangs on it
    cases hkind : cause e.id with
    | some kind =>
      simp only [hkind] at hcandidate
      exact ⟨congrArg some hcandidate.1, hcandidate.2⟩
    | none =>
      simp only [hkind] at hcandidate
      exact hcandidate.imp (congrArg some) (congrArg some)
  · intro act i time e hmem
    obtain ⟨-, call, m, turn, log, hprogress, hmem⟩ := Traffic.progress_of_incident hmem
    rw [← hcause, hprogress.of_invoked hmem]
    rfl
  · intro act i time a hmem hskip
    obtain ⟨-, call, m, turn, log, hprogress, hmem⟩ := Traffic.progress_of_incident hmem
    obtain ⟨e, registry, s, hresolve, hactive, hkind⟩ := hprogress.of_cooldown hmem hskip
    exact ⟨e, registry, s.kind, hresolve, by rw [← hcause, hactive]; rfl, hkind⟩

/-- A call made under one name and held up by its backend, one made under another
name, and the failure of the first. -/
def overlap : List (Act Unit) :=
  [.start ["fast"] false, .move 0 .takeUp, .start ["smart"] false, .pass (.ofSeconds 5),
    .move 0 (.poll ⟨false, some (.error (.http 429 ""))⟩), .pass (.ofSeconds 10)]

/-- The second call passes its candidate over because of the failure of the first. -/
theorem suppression_exact_overlap :
    Traffic.twoNames.router.tracker.entries = ∅ ∧
    (Traffic.twoNames.run overlap).calls[1]? = some ⟨.seeking ["smart"], [], false⟩ ∧
    ((Traffic.twoNames.run overlap).step (.move 1 .takeUp)).calls[1]? =
      some ⟨.seeking [], [.skip "smart" .cooldown (some .rateLimit)], false⟩ := by
  have hfresh : Traffic.twoNames.router.tracker.entries = ∅ := rfl
  have hcall : (Traffic.twoNames.run overlap).calls[1]? =
      some ⟨.seeking ["smart"], [], false⟩ := by rfl
  have hresolve : (Traffic.twoNames.run overlap).router.registry.resolve "smart" =
      some (.shared "smart", Traffic.twoNames.router.registry) := by rfl
  have hcause : suppressor Traffic.twoNames.router.tracker.windows
      (marksOf (Traffic.twoNames.journal overlap)) (Endpoint.shared "smart").id
      (Traffic.twoNames.run overlap).clock = some .rateLimit := by decide
  have hskip := (suppression_exact hfresh overlap).1 hcall hresolve
  simp only [hcause] at hskip
  exact ⟨hfresh, hcall, hskip.1⟩

end Failover
