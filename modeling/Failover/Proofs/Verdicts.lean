import Failover.Proofs.Suppression
import Failover.Proofs.Trail

/-!
# Verdicts and trails

The verdict of a call and its trail tell the same story: the trail ends in a
success exactly if the call was answered, in a failure that is not retriable
exactly if that failure broke the call off, and otherwise the call went on after
every attempt.  What kinds the attempts carry follows from their outcomes, too.
That of a candidate which is passed over for cooldown was stored by an earlier
call, so this hangs on what the tracker can ever store.

## Main definitions

* `Outcome.Admits` — the kinds that go with an outcome.

## Main results

* `Progress.admits` — the kind of every attempt goes with its outcome.
* `RoutingError.isRetriable_of_kind` — the kind that an error shows is retriable
  exactly if the error is.
* `verdict_agrees` — **the verdict of a call agrees with its trail.**
-/

namespace Failover

variable {τ : Type} [TokenNumber τ] {α : Type}

/-! ### The kinds of attempts -/

/-- Whether a kind, or the lack of one, goes with an outcome. -/
def Outcome.Admits (kind : Option Kind) : Outcome → Prop
  | .success | .skipped .throttled => kind = none
  | .retriableFailure | .skipped .cooldown => ∃ k, kind = some k ∧ k.isRetriable = true
  | .nonRetriableFailure => ∃ k, kind = some k ∧ k.isRetriable = false

/-- The kind of an attempt after which its call goes on is retriable. -/
theorem Outcome.Admits.isRetriable {kind : Kind} {outcome : Outcome}
    (h : outcome.Admits (some kind)) (hon : outcome.goesOn = true) :
    kind.isRetriable = true := by
  cases outcome with
  | success | nonRetriableFailure => cases hon
  | retriableFailure =>
    obtain ⟨k, hk, hretriable⟩ := h
    cases hk
    exact hretriable
  | skipped reason =>
    cases reason with
    | throttled => cases h
    | cooldown =>
      obtain ⟨k, hk, hretriable⟩ := h
      cases hk
      exact hretriable

/-- An attempt after which its call goes on has no kind exactly if it is
throttled. -/
theorem Outcome.Admits.eq_none_iff {kind : Option Kind} {outcome : Outcome}
    (h : outcome.Admits kind) (hon : outcome.goesOn = true) :
    kind = none ↔ outcome = .skipped .throttled := by
  cases outcome with
  | success | nonRetriableFailure => cases hon
  | retriableFailure =>
    obtain ⟨k, rfl, -⟩ := h
    constructor <;> intro h <;> cases h
  | skipped reason =>
    cases reason with
    | throttled => exact ⟨fun _ => rfl, fun _ => h⟩
    | cooldown =>
      obtain ⟨k, rfl, -⟩ := h
      constructor <;> intro h <;> cases h

/-- The kind of every attempt that joins a trail goes with its outcome, if the
tracker is one that operations lead to. -/
theorem Progress.admits {r : Router τ} {now : Instant} {call : Call α} {m : Move α}
    {turn : Turn τ α} {log : List (Incident α)} (hreach : r.tracker.Reachable)
    (h : Progress r now call m turn log) : ∀ a ∈ recorded log, a.outcome.Admits a.kind := by
  intro b hb
  cases h with
  | cooling _ hactive ha =>
    obtain rfl := List.mem_singleton.mp hb
    subst ha
    -- what is in force is stored, and what is stored has a retriable kind
    have hstored := (Option.filter_eq_some_iff.mp hactive).1
    exact ⟨_, rfl, hreach.isRetriable hstored⟩
  | throttled _ _ _ ha | answered ha =>
    obtain rfl := List.mem_singleton.mp hb
    subst ha
    rfl
  | dropped ha =>
    obtain rfl := List.mem_singleton.mp hb
    subst ha
    exact ⟨_, rfl, rfl⟩
  | broken _ hkind ha | advanced _ hkind _ ha =>
    obtain rfl := List.mem_singleton.mp hb
    subst ha
    exact ⟨_, rfl, hkind⟩
  | _ => cases hb

/-- So it is in a run. -/
theorem Traffic.admits_run {w : Traffic τ α} (hreach : w.router.tracker.Reachable) {i : Nat}
    {call : Call α} (hcall : w.calls[i]? = some call) (acts : List (Act α)) :
    ∀ a ∈ recorded (incidentsOf i (w.journal acts)), a.outcome.Admits a.kind := by
  obtain ⟨_, -, hadmits⟩ := call_run (R := fun r => r.tracker.Reachable)
    (P := fun _ log => ∀ a ∈ recorded log, a.outcome.Admits a.kind)
    (fun {w} act hreach => hreach.told (told_step w act))
    (fun hreach hprogress hbefore a ha => by
      rw [recorded_append, List.mem_append] at ha
      rcases ha with ha | ha
      · exact hbefore a ha
      · exact hprogress.admits hreach a ha)
    acts hreach hcall (show ∀ a ∈ recorded [], a.outcome.Admits a.kind by intro a ha; cases ha)
  exact hadmits

/-! ### The kinds of errors -/

section Errors

variable {chain : List String} {trail : List Attempt} {walk : List (String × List Endpoint)}
  {landed : List (Option (Except Failure α))} {error : RoutingError}

/-- The kind that an error of a call shows is retriable exactly if the error is. -/
theorem Standing.isRetriable_of_kind
    (hs : Standing chain (.over (.failed error)) trail walk landed)
    (hadmits : ∀ a ∈ trail, a.outcome.Admits a.kind) {kind : Kind}
    (hkind : error.kind = some kind) : kind.isRetriable = error.isRetriable := by
  cases hs with
  | broken _ _ _ _ _ _ _ _ _ hfatal =>
    cases hkind
    exact hfatal
  | abandoned _ _ _ habort =>
    cases hkind
    rw [habort]
    rfl
  | exhausted _ hon =>
    obtain ⟨a, ha, hakind⟩ := List.exists_of_findSome?_eq_some hkind
    have hmem := List.mem_reverse.mp ha
    exact (hakind ▸ hadmits a hmem).isRetriable (hon a hmem)

/-- An error of a call shows no kind exactly if all its candidates were throttled. -/
theorem Standing.kind_eq_none_iff
    (hs : Standing chain (.over (.failed error)) trail walk landed)
    (hadmits : ∀ a ∈ trail, a.outcome.Admits a.kind) :
    error.kind = none ↔
      ∃ trail, error = .exhausted trail ∧ ∀ a ∈ trail, a.outcome = .skipped .throttled := by
  cases hs with
  | broken | abandoned =>
    constructor
    · intro hnone
      cases hnone
    · rintro ⟨_, herror, -⟩
      cases herror
  | exhausted _ hon =>
    have hiff : ∀ a ∈ trail, a.kind = none ↔ a.outcome = .skipped .throttled :=
      fun a ha => (hadmits a ha).eq_none_iff (hon a ha)
    have hlast : RoutingError.lastKind trail = none ↔ ∀ a ∈ trail, a.kind = none := by
      simp [RoutingError.lastKind]
    constructor
    · intro hnone
      exact ⟨trail, rfl, fun a ha => (hiff a ha).mp (hlast.mp hnone a ha)⟩
    · rintro ⟨_, herror, hthrottled⟩
      cases herror
      exact hlast.mpr fun a ha => (hiff a ha).mpr (hthrottled a ha)

/-- An error of a call is its caller's abort exactly if the kind that it shows says
so. -/
theorem Standing.isUserAbort_iff
    (hs : Standing chain (.over (.failed error)) trail walk landed)
    (hadmits : ∀ a ∈ trail, a.outcome.Admits a.kind) :
    error.isUserAbort = true ↔ error.kind = some .userAbort := by
  have hretriable : error.kind = some .userAbort → Kind.userAbort.isRetriable = error.isRetriable :=
    hs.isRetriable_of_kind hadmits
  cases hs with
  | broken | abandoned => simp [RoutingError.isUserAbort, RoutingError.kind]
  | exhausted =>
    constructor
    · intro habort
      cases habort
    · intro hkind
      -- an abort is not retriable, but a trail of which nothing came is
      cases hretriable hkind

end Errors

/-! ### The agreement -/

/-- A trail after each of whose attempts the call went on does not end in one after
which it did not. -/
theorem WentOn.not_endsIn {trail : List Attempt} {outcome : Outcome} {a : Attempt}
    (h : WentOn trail) (houtcome : outcome.goesOn = false) : ¬ EndsIn trail outcome a := by
  rintro ⟨before, rfl, -, rfl⟩
  have hon := h a (List.mem_append_right before (List.mem_singleton_self a))
  rw [houtcome] at hon
  cases hon

theorem EndsIn.outcome_eq {trail : List Attempt} {outcome outcome' : Outcome} {a a' : Attempt}
    (h : EndsIn trail outcome a) (h' : EndsIn trail outcome' a') : outcome = outcome' := by
  obtain ⟨before, rfl, -, rfl⟩ := h
  obtain ⟨before', htrail, -, rfl⟩ := h'
  rw [(List.append_inj' htrail rfl).2 |> List.singleton_inj.mp]

/-- What a verdict says about a call that has gone through a chain: about its trail,
its walk and how its flights have ended. -/
structure Verdict.Agrees (verdict : Verdict α) (chain : List String)
    (walk : List (String × List Endpoint)) (landed : List (Option (Except Failure α))) :
    Prop where
  /-- The call was answered exactly if its trail ends in a success. -/
  routed_iff : (∃ r, verdict = .routed r) ↔ ∃ a, EndsIn verdict.trail .success a
  /-- The answer is that of the endpoint that the success is of, which was in the
  group of the candidate that the call came to last. -/
  routed : ∀ r, verdict = .routed r →
    ∃ a group, EndsIn r.trail .success a ∧ walk.getLast? = some (a.candidate, group) ∧
      r.endpoint ∈ group ∧ a.endpoint = some r.endpoint.id ∧
      landed.getLast? = some (some (.ok r.value))
  /-- The call was broken off at an endpoint exactly if its trail ends in a failure
  that is not retriable. -/
  broken_iff :
    (∃ abort, verdict = .failed (.nonRetriable abort) ∧ abort.endpoint ≠ none) ↔
      ∃ a, EndsIn verdict.trail .nonRetriableFailure a
  /-- The error shows what the attempt shows.  What is behind it is the failure that
  the backend came back with, or the caller's cancellation if the flight was
  dropped. -/
  broken : ∀ abort, verdict = .failed (.nonRetriable abort) → abort.endpoint ≠ none →
    ∃ a, EndsIn abort.trail .nonRetriableFailure a ∧ a.candidate = abort.candidate ∧
      a.endpoint = abort.endpoint ∧ a.kind = some abort.kind ∧
      abort.kind.isRetriable = false ∧
      (landed.getLast? = some (some (.error abort.failure)) ∨
        landed.getLast? = some none ∧ abort.failure = .cancelled ∧ abort.kind = .userAbort)
  /-- A call that was broken off at no endpoint was aborted by its caller, and had
  gone on until then. -/
  abandoned : ∀ abort, verdict = .failed (.nonRetriable abort) → abort.endpoint = none →
    abort.kind = .userAbort ∧ abort.failure = .cancelled ∧ WentOn abort.trail
  /-- Nothing came of the call exactly if it walked the whole chain and went on after
  every attempt. -/
  exhausted_iff :
    (∃ trail, verdict = .failed (.exhausted trail)) ↔
      walk.map (·.1) = chain ∧ WentOn verdict.trail
  /-- An attempt names no endpoint exactly if it was passed over. -/
  endpoint_eq_none_iff : ∀ a ∈ verdict.trail, a.endpoint = none ↔ a.outcome.isSkip = true
  /-- The kind of an attempt goes with its outcome. -/
  admits : ∀ a ∈ verdict.trail, a.outcome.Admits a.kind
  /-- An error tells that the call was broken off or that nothing came of it. -/
  error_cases : ∀ error, verdict = .failed error →
    (∃ abort, error = .nonRetriable abort) ∨ ∃ trail, error = .exhausted trail
  /-- Only the error of a call of which nothing came is retriable. -/
  isRetriable_iff : ∀ error, verdict = .failed error →
    (error.isRetriable = true ↔ ∃ trail, error = .exhausted trail)
  /-- The kind that an error shows is retriable exactly if the error is. -/
  isRetriable_of_kind : ∀ error, verdict = .failed error → ∀ kind, error.kind = some kind →
    kind.isRetriable = error.isRetriable
  /-- An error shows no kind exactly if all candidates were throttled. -/
  kind_eq_none_iff : ∀ error, verdict = .failed error →
    (error.kind = none ↔
      ∃ trail, error = .exhausted trail ∧ ∀ a ∈ trail, a.outcome = .skipped .throttled)
  /-- An error is the caller's abort exactly if the kind that it shows says so. -/
  isUserAbort_iff : ∀ error, verdict = .failed error →
    (error.isUserAbort = true ↔ error.kind = some .userAbort)

section Agreement

variable {chain : List String} {v : Verdict α} {trail : List Attempt}
  {walk : List (String × List Endpoint)} {landed : List (Option (Except Failure α))}

theorem Standing.exists_routed_iff (hs : Standing chain (.over v) trail walk landed)
    (hresult : v ≠ .clockOverflow) :
    (∃ r, v = .routed r) ↔ ∃ a, EndsIn v.trail .success a := by
  cases hs with
  | routed _ _ _ _ hends => exact ⟨fun _ => ⟨_, hends⟩, fun _ => ⟨_, rfl⟩⟩
  | broken _ _ _ _ hends =>
    constructor
    · rintro ⟨r, hr⟩
      cases hr
    · rintro ⟨a, ha⟩
      cases ha.outcome_eq hends
  | abandoned _ hon | exhausted _ hon =>
    constructor
    · rintro ⟨r, hr⟩
      cases hr
    · rintro ⟨a, ha⟩
      exact absurd ha (hon.not_endsIn rfl)
  | overflowed => exact absurd rfl hresult

theorem Standing.exists_broken_iff (hs : Standing chain (.over v) trail walk landed)
    (hresult : v ≠ .clockOverflow) :
    (∃ abort, v = .failed (.nonRetriable abort) ∧ abort.endpoint ≠ none) ↔
      ∃ a, EndsIn v.trail .nonRetriableFailure a := by
  cases hs with
  | routed _ _ _ _ hends =>
    constructor
    · rintro ⟨abort, habort, -⟩
      cases habort
    · rintro ⟨a, ha⟩
      cases ha.outcome_eq hends
  | broken _ _ _ _ hends _ _ haborted =>
    refine ⟨fun _ => ⟨_, hends⟩, fun _ => ⟨_, rfl, ?_⟩⟩
    rw [haborted]
    exact Option.some_ne_none _
  | abandoned _ hon hnone =>
    constructor
    · rintro ⟨abort, habort, hsome⟩
      cases habort
      exact absurd hnone hsome
    · rintro ⟨a, ha⟩
      exact absurd ha (hon.not_endsIn rfl)
  | exhausted _ hon =>
    constructor
    · rintro ⟨abort, habort, -⟩
      cases habort
    · rintro ⟨a, ha⟩
      exact absurd ha (hon.not_endsIn rfl)
  | overflowed => exact absurd rfl hresult

theorem Standing.exists_exhausted_iff (hs : Standing chain (.over v) trail walk landed)
    (hresult : v ≠ .clockOverflow) :
    (∃ trail, v = .failed (.exhausted trail)) ↔
      walk.map (·.1) = chain ∧ WentOn v.trail := by
  cases hs with
  | routed _ _ _ _ hends | broken _ _ _ _ hends =>
    constructor
    · rintro ⟨trail, htrail⟩
      cases htrail
    · rintro ⟨-, hon⟩
      exact absurd hends (hon.not_endsIn rfl)
  | abandoned hwalk =>
    constructor
    · rintro ⟨trail, htrail⟩
      cases htrail
    · rintro ⟨hwhole, -⟩
      -- the candidate at whose turn the call was found cancelled is not walked
      have hlength := congrArg List.length (hwalk.trans hwhole.symm)
      rw [List.length_append, List.length_cons] at hlength
      omega
  | exhausted hwalk hon => exact ⟨fun _ => ⟨hwalk, hon⟩, fun _ => ⟨_, rfl⟩⟩
  | overflowed => exact absurd rfl hresult

/-- A call with a result has come to where its verdict agrees with its way, if the
attempts of its trail carry what goes with their outcomes. -/
theorem Standing.agrees (hs : Standing chain (.over v) trail walk landed)
    (hresult : v ≠ .clockOverflow)
    (hendpoint : ∀ a ∈ trail, a.endpoint = none ↔ a.outcome.isSkip = true)
    (hadmits : ∀ a ∈ trail, a.outcome.Admits a.kind) : v.Agrees chain walk landed where
  routed_iff := hs.exists_routed_iff hresult
  routed := by
    rintro r rfl
    cases hs with
    | routed _ hlast hmem hlanded hends hid => exact ⟨_, _, hends, hlast, hmem, hid, hlanded⟩
  broken_iff := hs.exists_broken_iff hresult
  broken := by
    rintro abort rfl hsome
    cases hs with
    | broken _ _ _ hlanded hends hcandidate hid haborted hkind hfatal =>
      exact ⟨_, hends, hcandidate, hid.trans haborted.symm, hkind, hfatal, hlanded⟩
    | abandoned _ _ hnone => exact absurd hnone hsome
  abandoned := by
    rintro abort rfl hnone
    cases hs with
    | broken _ _ _ _ _ _ _ haborted =>
      rw [haborted] at hnone
      cases hnone
    | abandoned _ hon _ hkind hfailure => exact ⟨hkind, hfailure, hon⟩
  exhausted_iff := hs.exists_exhausted_iff hresult
  endpoint_eq_none_iff := by
    rw [hs.trail_eq hresult]
    exact hendpoint
  admits := by
    rw [hs.trail_eq hresult]
    exact hadmits
  error_cases := by
    rintro error rfl
    cases hs with
    | broken | abandoned => exact Or.inl ⟨_, rfl⟩
    | exhausted => exact Or.inr ⟨_, rfl⟩
  isRetriable_iff := by
    rintro error rfl
    cases hs with
    | broken | abandoned => simp [RoutingError.isRetriable]
    | exhausted => simp [RoutingError.isRetriable]
  isRetriable_of_kind := by
    rintro error rfl kind hkind
    exact hs.isRetriable_of_kind hadmits hkind
  kind_eq_none_iff := by
    rintro error rfl
    exact hs.kind_eq_none_iff hadmits
  isUserAbort_iff := by
    rintro error rfl
    exact hs.isUserAbort_iff hadmits

end Agreement

/-- **The verdict of a call agrees with its trail.**  Take traffic whose tracker is
one that operations lead to, a call that is made in it and any acts after that. -/
theorem verdict_agrees {w₀ : Traffic τ α} (hreach : w₀.router.tracker.Reachable)
    (chain : List String) (cancelled : Bool) (acts : List (Act α)) {call : Call α}
    {verdict : Verdict α}
    (hcall : ((w₀.step (.start chain cancelled)).run acts).calls[w₀.calls.length]? = some call)
    (hverdict : call.verdict? = some verdict) (hresult : verdict ≠ .clockOverflow) :
    let log := incidentsOf w₀.calls.length ((w₀.step (.start chain cancelled)).journal acts)
    verdict.Agrees chain (walked log) (landings log) := by
  intro log
  obtain ⟨hbooks, hstanding⟩ := Traffic.result_run w₀ chain cancelled acts hcall hverdict hresult
  have htrail : call.trail = recorded log := hbooks.trail_eq
  have hbegin : (w₀.step (.start chain cancelled)).router.tracker.Reachable := hreach
  have hadmits : ∀ a ∈ recorded log, a.outcome.Admits a.kind :=
    Traffic.admits_run hbegin (w₀.calls_start chain cancelled) acts
  rw [← htrail] at hadmits
  exact hstanding.agrees hresult (htrail ▸ hbooks.endpoint_eq_none) hadmits

/-- A call of which nothing came has walked its whole chain, and the kind that it
shows is the one that was stored for the candidate that it passed over. -/
theorem verdict_agrees_tour :
    Traffic.twoNames.router.tracker.Reachable ∧
    ((Traffic.twoNames.step (.start ["fast", "nobody", "smart"] false)).run tour).calls[0]? =
      some ⟨.over (.failed (.exhausted tourTrail)), tourTrail, false⟩ ∧
    (walked (incidentsOf 0
      ((Traffic.twoNames.step (.start ["fast", "nobody", "smart"] false)).journal tour))).map
      (·.1) = ["fast", "nobody", "smart"] ∧
    WentOn tourTrail ∧ (RoutingError.exhausted tourTrail).kind = some .rateLimit := by
  have hreach : Traffic.twoNames.router.tracker.Reachable := .start {}
  have hcall : ((Traffic.twoNames.step (.start ["fast", "nobody", "smart"] false)).run
      tour).calls[0]? = some ⟨.over (.failed (.exhausted tourTrail)), tourTrail, false⟩ := by rfl
  have hagrees := verdict_agrees hreach ["fast", "nobody", "smart"] false tour hcall rfl
    (by intro h; cases h)
  obtain ⟨hwalked, hon⟩ := hagrees.exhausted_iff.mp ⟨_, rfl⟩
  exact ⟨hreach, hcall, hwalked, hon, rfl⟩

end Failover
