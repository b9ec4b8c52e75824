import Failover.Proofs.Suppression
import Failover.Proofs.Trail

/-!
# The end of the clock

A window can be of any length, but the readings of a clock come to an end.  So a call
can be told of a failure whose window would end at a reading that the clock cannot
show.  Nothing is recorded of such a failure, and the call ends there and then, with
neither an answer nor an error; that it was accepted as a configuration is no guard
against it.

It is the only way in which a call can end without a result: nothing else that is
reckoned with on its way can leave its range.

## Main definitions

* `Traffic.Overrun` — a failure whose window runs beyond the clock.

## Main results

* `Traffic.exists_clockOverflow_iff` — a call ends without a result exactly by such a
  failure.
* `clockOverflow_iff` — **when a call of a configured router ends without a result**, and
  that it does not as long as the windows are in reach.
* `clockOverflow_reached` — a configuration that is accepted and a call of its router
  that ends so.
-/

namespace Failover

variable {τ : Type} [TokenNumber τ] {α : Type}

/-! ### Windows beyond the clock -/

theorem Instant.add?_eq_none_iff {t : Instant} {s : Span} :
    t.add? s = none ↔ Instant.limit ≤ t.nanos + s.nanos := by
  unfold add?
  split
  next hlt => simp [hlt]
  next hge => simpa using Nat.not_lt.mp hge

/-- A failure cannot be recorded exactly if its kind has a window that runs beyond the
clock. -/
theorem Tracker.recordFailure_eq_error_iff {t : Tracker} {id : EndpointId} {kind : Kind}
    {now : Instant} :
    t.recordFailure id kind now = .error {} ↔
      ∃ window, t.windows.forKind kind = some window ∧
        Instant.limit ≤ now.nanos + window.nanos := by
  unfold recordFailure
  cases hwindow : t.windows.forKind kind with
  | none => simp
  | some window =>
    have hone : (∃ w, some window = some w ∧ Instant.limit ≤ now.nanos + w.nanos) ↔
        now.add? window = none := by
      rw [Instant.add?_eq_none_iff]
      simp
    simp only [hone]
    cases now.add? window <;> simp

/-- A call waits, not having been cancelled, and if its backend came back with this
failure, the window would run beyond the clock. -/
structure Traffic.Overrun (windows : CooldownWindows) (w : Traffic τ α) (i : Nat)
    (failure : Failure) : Prop where
  /-- The call waits and has not been cancelled. -/
  waits : ∃ (f : Flight) (trail : List Attempt),
    w.calls[i]? = some (⟨.flying f, trail, false⟩ : Call α)
  /-- The kind of the failure has a window, which runs beyond the clock. -/
  beyond : ∃ window, windows.forKind (w.router.classifier.classify failure) = some window ∧
    Instant.limit ≤ w.clock.nanos + window.nanos

/-! ### What one move does -/

/-- The move in which a call's backend comes back with a failure. -/
def Move.failed (failure : Failure) : Move α := .poll ⟨false, some (.error failure)⟩

/-- Only a failure that cannot be recorded ends a call without a result. -/
theorem Progress.clockOverflow {r : Router τ} {now : Instant} {call : Call α} {m : Move α}
    {turn : Turn τ α} {log : List (Incident α)} (h : Progress r now call m turn log)
    (hopen : call.stage ≠ .over .clockOverflow) (hover : turn.call.stage = .over .clockOverflow) :
    ∃ f trail failure window, call = ⟨.flying f, trail, false⟩ ∧ m = .failed failure ∧
      r.tracker.windows.forKind (r.classifier.classify failure) = some window ∧
      Instant.limit ≤ now.nanos + window.nanos := by
  cases h with
  | idle | cancelled => exact absurd hover hopen
  | @overflowed f trail _ failure kind hkind _ hrecord =>
    obtain ⟨window, hwindow, hbeyond⟩ := Tracker.recordFailure_eq_error_iff.mp hrecord
    rw [hkind] at hwindow
    exact ⟨f, trail, failure, window, rfl, rfl, hwindow, hbeyond⟩
  | _ => cases hover

/-- A failure that cannot be recorded does end a call without a result. -/
theorem Progress.clockOverflow_of_beyond {r : Router τ} {now : Instant} {f : Flight}
    {trail : List Attempt} {failure : Failure} {turn : Turn τ α} {log : List (Incident α)}
    {window : Span} (h : Progress r now ⟨.flying f, trail, false⟩ (.failed failure) turn log)
    (hwindow : r.tracker.windows.forKind (r.classifier.classify failure) = some window)
    (hbeyond : Instant.limit ≤ now.nanos + window.nanos) :
    turn.call.stage = .over .clockOverflow := by
  have hretriable := r.tracker.windows.forKind_isSome (r.classifier.classify failure)
  rw [hwindow] at hretriable
  generalize hm : (Move.failed failure : Move α) = m at h
  cases h with
  | overflowed => rfl
  | broken hkind hfatal =>
    cases hm
    rw [hkind, if_neg Bool.false_ne_true, ← hretriable] at hfatal
    cases hfatal
  | advanced hkind _ hrecord =>
    cases hm
    rw [← hkind] at hwindow
    rw [Tracker.recordFailure_eq_error_iff.mpr ⟨window, hwindow, hbeyond⟩] at hrecord
    cases hrecord
  | idle hsuits =>
    subst hm
    cases hsuits
  | _ => cases hm

/-! ### Runs -/

namespace Traffic

variable {w : Traffic τ α} {i : Nat}

/-- A call that was not there before an act has only just been made after it. -/
theorem calls_step_of_none (hnone : w.calls[i]? = none) (act : Act α) :
    (w.step act).calls[i]? = none ∨
      ∃ chain cancelled, (w.step act).calls[i]? = some (.start chain cancelled) := by
  cases act with
  | pass s => exact Or.inl hnone
  | start chain cancelled =>
    have hle := List.getElem?_eq_none_iff.mp hnone
    rcases Nat.lt_or_eq_of_le hle with hlt | rfl
    · refine Or.inl (List.getElem?_eq_none_iff.mpr ?_)
      rw [step, List.length_append]
      exact hlt
    · exact Or.inr ⟨chain, cancelled, w.calls_start chain cancelled⟩
  | move j m =>
    cases hother : w.calls[j]? with
    | none => exact Or.inl (by simpa only [step, hother] using hnone)
    | some other =>
      have hle := List.getElem?_eq_none_iff.mp hnone
      refine Or.inl (List.getElem?_eq_none_iff.mpr ?_)
      simpa only [step, hother, List.length_set] using hle
  | change c =>
    cases happly : w.router.apply w.clock c <;>
      exact Or.inl (by simpa only [step, happly] using hnone)

/-- An act in which a call ends without a result is the return of its backend with a
failure whose window runs beyond the clock. -/
theorem overrun_of_step {act : Act α} {call' : Call α}
    (hopen : ∀ call, w.calls[i]? = some call → call.stage ≠ .over .clockOverflow)
    (hcall' : (w.step act).calls[i]? = some call')
    (hover : call'.stage = .over .clockOverflow) :
    ∃ failure, act = .move i (.failed failure) ∧
      Overrun w.router.tracker.windows w i failure := by
  cases hcall : w.calls[i]? with
  | none =>
    rcases calls_step_of_none hcall act with hnone | ⟨chain, cancelled, hstart⟩
    · cases hnone.symm.trans hcall'
    · cases hstart.symm.trans hcall'
      cases hover
  | some call =>
    by_cases hact : ∃ m, act = .move i m
    · obtain ⟨m, rfl⟩ := hact
      obtain ⟨turn, hprogress, hnext, -⟩ := call_step_move hcall m
      cases hnext.symm.trans hcall'
      obtain ⟨f, trail, failure, window, rfl, rfl, hwindow, hbeyond⟩ :=
        hprogress.clockOverflow (hopen call hcall) hover
      exact ⟨failure, rfl, ⟨⟨f, trail, hcall⟩, ⟨window, hwindow, hbeyond⟩⟩⟩
    · have hkept := calls_step_of_ne hcall fun m h => hact ⟨m, h⟩
      cases hkept.symm.trans hcall'
      exact absurd hover (hopen _ hcall)

/-- **A call ends without a result only by a failure whose window runs beyond the
clock.** -/
theorem overrun_of_run (acts : List (Act α)) :
    ∀ {w : Traffic τ α} {call' : Call α},
      (∀ call, w.calls[i]? = some call → call.stage ≠ .over .clockOverflow) →
      (w.run acts).calls[i]? = some call' → call'.stage = .over .clockOverflow →
        ∃ earlier failure later, acts = earlier ++ .move i (.failed failure) :: later ∧
          Overrun w.router.tracker.windows (w.run earlier) i failure := by
  induction acts with
  | nil => intro w call' hopen hcall' hover; exact absurd hover (hopen call' hcall')
  | cons act acts ih =>
    intro w call' hopen hcall' hover
    by_cases hended : ∃ call, (w.step act).calls[i]? = some call ∧
        call.stage = .over .clockOverflow
    · obtain ⟨call, hcall, hstage⟩ := hended
      obtain ⟨failure, rfl, hoverrun⟩ := overrun_of_step hopen hcall hstage
      exact ⟨[], failure, acts, rfl, hoverrun⟩
    · obtain ⟨earlier, failure, later, rfl, hoverrun⟩ :=
        ih (fun call hcall hstage => hended ⟨call, hcall, hstage⟩) hcall' hover
      rw [(told_step w act).windows_eq] at hoverrun
      exact ⟨act :: earlier, failure, later, rfl, hoverrun⟩

/-- Such a failure does end the call without a result. -/
theorem Overrun.step {failure : Failure} (h : Overrun w.router.tracker.windows w i failure) :
    ∃ call, (w.step (.move i (.failed failure))).calls[i]? = some call ∧
      call.stage = .over .clockOverflow := by
  obtain ⟨⟨f, trail, hcall⟩, ⟨window, hwindow, hbeyond⟩⟩ := h
  obtain ⟨turn, hprogress, hnext, -⟩ := call_step_move hcall (.failed failure)
  exact ⟨turn.call, hnext, hprogress.clockOverflow_of_beyond hwindow hbeyond⟩

/-- A call that is over stays over, with the verdict that it has, and nothing happens to
it any more. -/
theorem over_run {call : Call α} {v : Verdict α} (hcall : w.calls[i]? = some call)
    (hover : call.stage = .over v) (acts : List (Act α)) :
    ∃ call', (w.run acts).calls[i]? = some call' ∧ call'.stage = .over v ∧
      incidentsOf i (w.journal acts) = [] := by
  have hmove : ∀ {r : Router τ} {now call m turn} {log log' : List (Incident α)}, True →
      Progress r now call m turn log' → call.stage = .over v ∧ log = [] →
        turn.call.stage = .over v ∧ log ++ log' = [] := by
    rintro r now call m turn log log' - hprogress ⟨hstage, rfl⟩
    obtain ⟨hstage', -, rfl⟩ := hprogress.over hstage
    exact ⟨hstage', rfl⟩
  exact call_run (R := fun _ => True) (P := fun call log => call.stage = .over v ∧ log = [])
    (fun _ _ => trivial) hmove acts trivial hcall ⟨hover, rfl⟩

/-- A call has ended without a result exactly if it waited for a backend that then came
back with such a failure. -/
theorem exists_clockOverflow_iff (acts : List (Act α))
    (hopen : ∀ call, w.calls[i]? = some call → call.stage ≠ .over .clockOverflow) :
    (∃ call, (w.run acts).calls[i]? = some call ∧ call.verdict? = some .clockOverflow) ↔
      ∃ earlier failure later, acts = earlier ++ .move i (.failed failure) :: later ∧
        (w.run earlier).Overrun w.router.tracker.windows i failure := by
  constructor
  · rintro ⟨call, hcall, hverdict⟩
    exact overrun_of_run acts hopen hcall (Call.stage_of_verdict? hverdict)
  · rintro ⟨earlier, failure, later, rfl, hoverrun⟩
    rw [← windows_run earlier w] at hoverrun
    obtain ⟨call, hcall, hover⟩ := hoverrun.step
    obtain ⟨call', hcall', hover', -⟩ := over_run hcall hover later
    refine ⟨call', ?_, ?_⟩
    · rw [run_append, run_cons]
      exact hcall'
    · rw [Call.verdict?, hover']

theorem clock_le_run (acts : List (Act α)) : ∀ w : Traffic τ α, w.clock ≤ (w.run acts).clock := by
  induction acts with
  | nil => intro w; exact Nat.le_refl _
  | cons act acts ih => intro w; exact Nat.le_trans (clock_le_step w act) (ih (w.step act))

end Traffic

/-! ### Configured routers -/

omit [TokenNumber τ] in
/-- A router has the windows of its configuration. -/
theorem Router.windows_ofConfig {c : RoutingConfig} {r : Router τ} {notices : List Notice}
    (h : Router.ofConfig c = .ok (r, notices)) : r.tracker.windows = c.windows := by
  unfold Router.ofConfig at h
  cases hcheck : c.check with
  | error e =>
    rw [hcheck] at h
    cases h
  | ok u =>
    cases hregistry : Registry.ofEntries c.entries with
    | error e =>
      rw [hcheck, hregistry] at h
      cases h
    | ok registry =>
      rw [hcheck, hregistry] at h
      cases h
      rfl

/-- **When a call of a configured router ends without a result.**  Take a configuration
that is accepted, any reading of the clock, and any acts in the traffic of its router.

* A call has ended without a result exactly if it waited, not having been cancelled, for
  a backend that then came back with a failure whose window runs beyond the clock.
* So as long as every window is in reach of the clock, no call ends so: one that has
  ended has an answer or an error. -/
theorem clockOverflow_iff {c : RoutingConfig} {r : Router τ} {notices : List Notice}
    (hconfig : Router.ofConfig c = .ok (r, notices)) (clock : Instant) (acts : List (Act α))
    (i : Nat) :
    let w : Traffic τ α := ⟨r, clock, []⟩
    ((∃ call, (w.run acts).calls[i]? = some call ∧ call.verdict? = some .clockOverflow) ↔
      ∃ earlier failure later, acts = earlier ++ .move i (.failed failure) :: later ∧
        (w.run earlier).Overrun c.windows i failure) ∧
    ((∀ kind window, c.windows.forKind kind = some window →
        (w.run acts).clock.nanos + window.nanos < Instant.limit) →
      ∀ call verdict, (w.run acts).calls[i]? = some call → call.verdict? = some verdict →
        (∃ routed, verdict = .routed routed) ∨ ∃ error, verdict = .failed error) := by
  intro w
  have hwindows : w.router.tracker.windows = c.windows := Router.windows_ofConfig hconfig
  have hnone : ∀ call, w.calls[i]? = some call → call.stage ≠ .over .clockOverflow := by
    intro call hcall
    cases hcall
  have hexact := Traffic.exists_clockOverflow_iff acts hnone
  rw [hwindows] at hexact
  refine ⟨hexact, ?_⟩
  intro hreach call verdict hcall hverdict
  cases verdict with
  | routed routed => exact Or.inl ⟨routed, rfl⟩
  | failed error => exact Or.inr ⟨error, rfl⟩
  | clockOverflow =>
    obtain ⟨earlier, failure, later, rfl, -, window, hwindow, hbeyond⟩ :=
      hexact.mp ⟨call, hcall, hverdict⟩
    -- the clock has not gone back since the failure
    have hle := Traffic.clock_le_run (.move i (.failed failure) :: later) (w.run earlier)
    rw [← Traffic.run_append] at hle
    change (w.run earlier).clock.nanos ≤ _ at hle
    have hlt := hreach _ window hwindow
    omega

/-- A configuration that leaves its endpoint alone for very long after a timeout. -/
def RoutingConfig.patient : RoutingConfig where
  entries := [{ name := "m", model := "openai/m" }]
  windows := { CooldownWindows.standard with timeout := .ofSeconds (UInt64.size / 2 - 1) }

/-- The router of that configuration. -/
def Router.patient : Router Rat where
  registry := Registry.empty.register (.ofTarget "m" "openai/m" {})
  tracker := { windows := RoutingConfig.patient.windows }

/-- Traffic of that router, two seconds after the beginning. -/
def Traffic.patient : Traffic Rat Unit where
  router := .patient
  clock := ⟨2 * nanosPerSecond, by decide⟩

/-- A call of which the backend does not answer in time. -/
def overdue : List (Act Unit) :=
  [.start ["m"] false, .move 0 .takeUp, .move 0 (.failed .deadlineElapsed)]

/-- The call ends without a result, as the window of its failure runs beyond the clock. -/
theorem clockOverflow_iff_patient :
    Router.ofConfig .patient = .ok (Router.patient, [.registryBuilt 1 1]) ∧
      ∃ call, (Traffic.patient.run overdue).calls[0]? = some call ∧
        call.verdict? = some .clockOverflow := by
  have hconfig : Router.ofConfig .patient = .ok (Router.patient, [.registryBuilt 1 1]) := by rfl
  have hoverrun : (Traffic.patient.run [.start ["m"] false, .move 0 .takeUp]).Overrun
      RoutingConfig.patient.windows 0 .deadlineElapsed :=
    { waits := ⟨_, [], rfl⟩
      beyond := ⟨RoutingConfig.patient.windows.timeout, rfl, by decide⟩ }
  have hended := (clockOverflow_iff hconfig Traffic.patient.clock overdue 0).1.mpr
    ⟨_, .deadlineElapsed, [], rfl, hoverrun⟩
  exact ⟨hconfig, hended⟩

/-- **That a configuration is accepted does not mean that its calls end with a result.** -/
theorem clockOverflow_reached :
    ¬ ∀ (c : RoutingConfig) (r : Router Rat) (notices : List Notice),
      Router.ofConfig c = .ok (r, notices) →
        ∀ (clock : Instant) (acts : List (Act Unit)) (call : Call Unit),
          ((⟨r, clock, []⟩ : Traffic Rat Unit).run acts).calls[0]? = some call →
            call.verdict? ≠ some .clockOverflow := by
  intro h
  have hcall : (Traffic.patient.run overdue).calls[0]? =
      some ⟨.over .clockOverflow, [], false⟩ := by
    rfl
  exact h .patient .patient _ rfl _ overdue _ hcall rfl

end Failover
