import Failover.Proofs.Cancellation
import Failover.Proofs.Shares
import Failover.Proofs.StandingClock
import Failover.Proofs.Trail

/-!
# Calls that are made again

An error that is retriable says that the same call could succeed at another time.  Such a
call has come to the end of its chain, so it is worth making again when what stood in its
way is gone: when every suppression is over and every bucket is full.  Then the first of
its candidates that has endpoints is called, whichever of them has its turn by then.

That is of no use if no candidate has endpoints.  A call without any comes to the end of
its chain as well, but with nothing on its trail, and as long as nothing is registered it
does so again at any time, however often it is made.  So a retriable error can be trusted
exactly if there is something on its trail.

## Main definitions

* `Router.Rested` — a router in which nothing stands in the way of a call.
* `Registry.serves` — whether a name has endpoints.
* `Change.touchesGroups` — the changes that may leave a name with other endpoints.
* `Call.Lost` — a call that has no candidate with endpoints left.
* `Traffic.Retried` — what comes of a call that is made again.

## Main results

* `Router.Rested.dispatches` — a router at rest calls the first endpoint that it comes to.
* `Call.Lost.run` — a call that is lost calls no backend, whatever the other calls do.
* `retry_reaches_backend` — **a call that failed with a retriable error can be made again
  with success exactly if something is on its trail.**
-/

namespace Failover

variable {τ : Type} [TokenNumber τ] {α : Type}

/-! ### Routers at rest -/

/-- A router in which nothing stands in the way of a call at some time. -/
structure Router.Rested (r : Router Float) (now : Instant) : Prop where
  /-- No suppression that is stored is in force any more. -/
  lifted : ∀ row ∈ r.tracker.entries.rows, row.2.isActive now = false
  /-- Every bucket of the gate has been refilled as far as it goes. -/
  full : ∀ gate ∈ r.gate, ∀ row ∈ gate.buckets.rows,
    (row.2.refill now).tokens = Float.ofNat row.2.capacity

instance (r : Router Float) (now : Instant) : Decidable (r.Rested now) :=
  decidable_of_iff ((∀ row ∈ r.tracker.entries.rows, row.2.isActive now = false) ∧
      ∀ gate ∈ r.gate, ∀ row ∈ gate.buckets.rows,
        (row.2.refill now).tokens = Float.ofNat row.2.capacity)
    ⟨fun h => ⟨h.1, h.2⟩, fun h => ⟨h.lifted, h.full⟩⟩

/-- A bucket that has been refilled as far as it goes grants a request. -/
theorem Bucket.take_of_full {b : Bucket Float} {now : Instant}
    (hfull : (b.refill now).tokens = Float.ofNat b.capacity) (hpos : 0 < b.capacity)
    (hlt : b.capacity < 2 ^ 53) : (b.take now).1 = true := by
  have hone := Double.worth?_ofNat (n := 1) (by decide)
  have hwhole : Float.ofNat 1 ≤ (b.refill now).tokens := by
    rw [hfull, Double.le_iff hone (Double.worth?_ofNat hlt)]
    exact_mod_cast hpos
  exact congrArg Prod.fst (if_pos hwhole)

namespace Router.Rested

variable {r : Router Float} {now : Instant} {turn : Turn Float α} {log : List (Incident α)}

theorem active?_eq_none (h : r.Rested now) (id : EndpointId) :
    r.tracker.active? id now = none := by
  rw [Tracker.active?, Option.filter_eq_none_iff]
  intro s hs
  rw [h.lifted (id, s) (Table.get?_eq_some_iff.mp hs)]
  exact Bool.false_ne_true

/-- A gate whose buckets are full grants the next request, at any rate. -/
theorem tryAcquire (h : r.Rested now) {gate : Gate Float} (hgate : r.gate = some gate)
    (id : EndpointId) (rpm : UInt32) : (gate.tryAcquire id rpm now).1 = true := by
  by_cases hrpm : rpm = 0
  · rw [Gate.tryAcquire, if_pos hrpm]
  have hpos : 0 < rpm.toNat := Nat.pos_of_ne_zero fun hzero => hrpm (UInt32.toNat_inj.mp hzero)
  have hrate := rpm.toNat_lt
  have hburst := gate.burst.toNat_lt
  by_cases hown : ∃ b, gate.buckets.get? id = some b ∧ b.fits rpm gate.burst = true
  · obtain ⟨b, hb, hfits⟩ := hown
    have hcapacity : b.capacity = rpm.toNat + gate.burst.toNat := beq_iff_eq.mp hfits
    rw [gate.tryAcquire_fst hrpm, Gate.bucketFor_of_fits hb hfits]
    have hfull := h.full gate hgate (id, b) (Table.get?_eq_some_iff.mp hb)
    exact Bucket.take_of_full hfull (by omega) (by omega)
  · -- the request draws on a new bucket
    have hdrawn : gate.bucketFor id rpm now = .full rpm gate.burst now :=
      Gate.bucketFor_of_not_fits
        (fun b hb => Bool.eq_false_iff.mpr fun hfits => hown ⟨b, hb, hfits⟩) now
    rw [(Gate.tryAcquire_full hrpm hdrawn).1]
    exact decide_eq_true (by omega)

/-- A router at rest lets every endpoint be called. -/
theorem admission (h : r.Rested now) {e : Endpoint} {taken : Bool} {gate : Option (Gate Float)}
    (hadmission : r.Admission e now taken gate) : taken = true := by
  cases hadmission with
  | unasked => rfl
  | asked hgate => exact h.tryAcquire hgate _ _

/-- **A router at rest calls the first endpoint that a call comes to.** -/
theorem dispatches (h : r.Rested now) {candidate : String} {rest : List String}
    {trail : List Attempt}
    (hprogress : Progress r now ⟨.seeking (candidate :: rest), trail, false⟩ .takeUp turn log)
    (hserved : r.registry.endpoints candidate ≠ []) :
    ∃ e ∈ r.registry.endpoints candidate,
      turn.call = ⟨.flying ⟨candidate, e, now, rest⟩, trail, false⟩ ∧ invocations log = [e] := by
  cases hprogress with
  | idle hsuits => cases hsuits
  | unregistered hnone => exact absurd hnone hserved
  | cooling _ hactive => cases (h.active?_eq_none _).symm.trans hactive
  | throttled _ _ hgate => cases h.admission hgate
  | dispatched hresolve => exact ⟨_, Registry.mem_of_resolve hresolve, rfl, rfl⟩

end Router.Rested

/-! ### Names with endpoints -/

/-- Whether a name has endpoints. -/
def Registry.serves (r : Registry) (name : String) : Bool := !(r.endpoints name).isEmpty

theorem Registry.serves_iff {r : Registry} {name : String} :
    r.serves name = true ↔ r.endpoints name ≠ [] := by
  simp [serves]

theorem Registry.serves_eq_false_iff {r : Registry} {name : String} :
    r.serves name = false ↔ r.endpoints name = [] := by
  simp [serves]

/-- The names of a walk that had endpoints are those that have them still, if they have the
same. -/
theorem registered_eq_filter {r : Registry} {walk : List (String × List Endpoint)}
    (hsame : ∀ turn ∈ walk, r.endpoints turn.1 = turn.2) :
    registered walk = (walk.map (·.1)).filter r.serves := by
  rw [registered, List.filter_map]
  refine congrArg _ (List.filter_congr fun turn hturn => ?_)
  rw [Function.comp_apply, Registry.serves, hsame turn hturn]

/-- Whether a change may leave a name with other endpoints. -/
def Change.touchesGroups : Change → Bool
  | .register _ | .unregister _ | .replaceGroup _ _ => true
  | _ => false

/-- **Acts that change no group leave every name its endpoints**, whatever turns are
taken. -/
theorem Traffic.endpoints_step {w : Traffic τ α} {act : Act α}
    (hact : ∀ c, act = .change c → c.touchesGroups = false) (name : String) :
    (w.step act).router.registry.endpoints name = w.router.registry.endpoints name := by
  rcases w.router_step_cases act with
    hsame | ⟨call, m, turn, log, hprogress, hrouter⟩ | ⟨c, rfl, -⟩
  · rw [hsame]
  · rw [hrouter, hprogress.endpoints_eq]
  · have hkept : c.touchesGroups = false := hact c rfl
    have hnone : w.operation? (.act (.change c)) = none := by
      cases c with
      | register e | unregister n | replaceGroup n es => cases hkept
      | _ => rfl
    have hmeet := w.registry_meet (.act (.change c))
    rw [hnone] at hmeet
    exact congrArg (·.endpoints name) hmeet

/-! ### Calls on their own -/

section

variable {r : Router τ} {now : Instant} {trail : List Attempt} {turn : Turn τ α}
  {log : List (Incident α)}

/-- A candidate without endpoints is gone past, and nothing else comes of it. -/
theorem Progress.of_unserved {candidate : String} {rest : List String}
    (h : Progress r now ⟨.seeking (candidate :: rest), trail, false⟩ .takeUp turn log)
    (hnone : r.registry.endpoints candidate = []) :
    turn.router = r ∧ turn.call = ⟨.seeking rest, trail, false⟩ ∧ invocations log = [] := by
  have hunresolved := Registry.resolve_eq_none_iff.mpr hnone
  cases h with
  | idle hsuits => cases hsuits
  | unregistered => exact ⟨rfl, rfl, rfl⟩
  | cooling hresolve | throttled hresolve | dispatched hresolve =>
    cases hunresolved.symm.trans hresolve

/-- A call that has come to the end of its chain is over. -/
theorem Progress.of_end (h : Progress r now ⟨.seeking [], trail, false⟩ .takeUp turn log) :
    turn.call = ⟨.over (.failed (.exhausted trail)), trail, false⟩ := by
  cases h with
  | idle hsuits => cases hsuits
  | exhausted => rfl

end

namespace Traffic

variable {i : Nat} {trail : List Attempt}

/-- A call that waits takes up no candidate. -/
theorem invocations_takeUps_of_flying {f : Flight} (k : Nat) : ∀ {w : Traffic τ α},
    w.calls[i]? = some ⟨.flying f, trail, false⟩ →
      invocations (incidentsOf i (w.journal (List.replicate k (.move i .takeUp)))) = [] := by
  induction k with
  | zero => intro w _; rfl
  | succ k ih =>
    intro w hcall
    obtain ⟨turn, hprogress, hnext, -⟩ := call_step_move hcall .takeUp
    obtain ⟨-, hsame, hlog⟩ := (Progress.idle rfl).unique hprogress
    rw [hsame] at hnext
    rw [List.replicate_succ, journal_cons, incidentsOf_append, hlog]
    exact ih hnext

/-- **On its own in a router at rest, a call calls a backend** of the first candidate that
has one, and then waits for it. -/
theorem invocations_takeUps_of_rested {name : String} {names : List String} :
    ∀ {w : Traffic Float α}, w.router.Rested w.clock →
      w.calls[i]? = some ⟨.seeking names, trail, false⟩ →
      names.find? w.router.registry.serves = some name →
      ∃ e ∈ w.router.registry.endpoints name, invocations (incidentsOf i
        (w.journal (List.replicate names.length (.move i .takeUp)))) = [e] := by
  induction names with
  | nil => intro w _ _ hfirst; cases hfirst
  | cons candidate names ih =>
    intro w hrested hcall hfirst
    obtain ⟨turn, hprogress, hnext, hrouter⟩ := call_step_move hcall .takeUp
    rw [List.length_cons, List.replicate_succ, journal_cons, incidentsOf_append,
      invocations_append]
    cases hserved : w.router.registry.serves candidate with
    | true =>
      rw [List.find?_cons_of_pos hserved] at hfirst
      obtain rfl : candidate = name := Option.some.inj hfirst
      obtain ⟨e, hmem, hflying, hinvoked⟩ :=
        hrested.dispatches hprogress (Registry.serves_iff.mp hserved)
      rw [hflying] at hnext
      exact ⟨e, hmem, by rw [hinvoked, invocations_takeUps_of_flying _ hnext, List.append_nil]⟩
    | false =>
      obtain ⟨hsame, hpast, hnone⟩ :=
        hprogress.of_unserved (Registry.serves_eq_false_iff.mp hserved)
      rw [hpast] at hnext
      rw [hsame] at hrouter
      have hclock : (w.step (.move i .takeUp)).clock = w.clock := w.clock_step _
      rw [List.find?_cons_of_neg (by rw [hserved]; exact Bool.false_ne_true)] at hfirst
      rw [hnone, List.nil_append, ← hrouter]
      exact ih (by rwa [hrouter, hclock]) hnext (by rwa [hrouter])

/-- On its own, a call of whose candidates none has endpoints comes to the end of its
chain with its trail as it was. -/
theorem run_takeUps_of_unserved {names : List String} : ∀ {w : Traffic τ α},
    w.calls[i]? = some ⟨.seeking names, trail, false⟩ →
    (∀ name ∈ names, w.router.registry.endpoints name = []) →
      (w.run (List.replicate (names.length + 1) (.move i .takeUp))).calls[i]? =
        some ⟨.over (.failed (.exhausted trail)), trail, false⟩ := by
  induction names with
  | nil =>
    intro w hcall _
    obtain ⟨turn, hprogress, hnext, -⟩ := call_step_move hcall .takeUp
    exact hnext.trans (congrArg some hprogress.of_end)
  | cons candidate names ih =>
    intro w hcall hnone
    obtain ⟨turn, hprogress, hnext, hrouter⟩ := call_step_move hcall .takeUp
    obtain ⟨hsame, hpast, -⟩ := hprogress.of_unserved (hnone candidate List.mem_cons_self)
    rw [List.length_cons, List.replicate_succ, run_cons]
    refine ih (hnext.trans (congrArg some hpast)) fun name hname => ?_
    rw [hrouter, hsame]
    exact hnone name (List.mem_cons_of_mem candidate hname)

end Traffic

/-! ### Lost calls -/

/-- A call that has nothing on its trail and no candidate with endpoints left: it seeks in
vain, or has come to the end of its chain unless it was cancelled. -/
def Call.Lost (registry : Registry) (call : Call α) : Prop :=
  call.trail = [] ∧
    match call.stage with
    | .seeking rest => ∀ name ∈ rest, registry.endpoints name = []
    | .flying _ => False
    | .over v => call.cancelled = false → v = .failed (.exhausted [])

namespace Call.Lost

variable {call : Call α} {registry registry' : Registry}

theorem congr (h : call.Lost registry)
    (hsame : ∀ name, registry'.endpoints name = registry.endpoints name) :
    call.Lost registry' := by
  obtain ⟨stage, trail, cancelled⟩ := call
  obtain ⟨htrail, hstage⟩ := h
  refine ⟨htrail, ?_⟩
  cases stage with
  | seeking rest => exact fun name hname => (hsame name).trans (hstage name hname)
  | _ => exact hstage

/-- A lost call that ends without having been cancelled ends with an empty trail. -/
theorem verdict (h : call.Lost registry) {v : Verdict α} (hverdict : call.verdict? = some v)
    (hcancelled : call.cancelled = false) : v = .failed (.exhausted []) := by
  obtain ⟨-, hstage⟩ := h
  rw [Call.stage_of_verdict? hverdict] at hstage
  exact hstage hcancelled

/-- **A lost call stays lost and calls no backend.** -/
theorem progress {r : Router τ} {now : Instant} {m : Move α} {turn : Turn τ α}
    {log : List (Incident α)} (h : call.Lost r.registry)
    (hprogress : Progress r now call m turn log) :
    turn.call.Lost r.registry ∧ invocations log = [] := by
  obtain ⟨htrail, hstage⟩ := h
  cases hprogress with
  | idle => exact ⟨⟨htrail, hstage⟩, rfl⟩
  | @cancelled stage =>
    refine ⟨⟨htrail, ?_⟩, rfl⟩
    cases stage with
    | seeking rest | flying f => exact hstage
    | _ => exact fun hcancelled => nomatch hcancelled
  | exhausted =>
    cases htrail
    exact ⟨⟨rfl, fun _ => rfl⟩, rfl⟩
  | abandoned => exact ⟨⟨htrail, fun hcancelled => nomatch hcancelled⟩, rfl⟩
  | unregistered =>
    exact ⟨⟨htrail, fun name hname => hstage name (List.mem_cons_of_mem _ hname)⟩, rfl⟩
  | cooling hresolve | throttled hresolve | dispatched hresolve =>
    -- a candidate that is resolved has endpoints
    have hnone := Registry.resolve_eq_none_iff.mpr (hstage _ List.mem_cons_self)
    cases hnone.symm.trans hresolve
  | _ => exact hstage.elim

/-- **A lost call calls no backend, whatever the other calls do**, as long as no group is
changed. -/
theorem run {i : Nat} (acts : List (Act α))
    (hacts : ∀ c, .change c ∈ acts → c.touchesGroups = false) :
    ∀ {w : Traffic τ α} {call : Call α}, w.calls[i]? = some call → call.Lost w.router.registry →
      invocations (incidentsOf i (w.journal acts)) = [] ∧
        ∃ call', (w.run acts).calls[i]? = some call' ∧ call'.Lost (w.run acts).router.registry := by
  induction acts with
  | nil => intro w call hcall h; exact ⟨rfl, call, hcall, h⟩
  | cons act acts ih =>
    intro w call hcall h
    have hsame := w.endpoints_step fun c hc => hacts c (hc ▸ List.mem_cons_self)
    have hrest := fun c hc => hacts c (List.mem_cons_of_mem act hc)
    rw [Traffic.run_cons, Traffic.journal_cons, incidentsOf_append, invocations_append]
    by_cases hact : ∃ m, act = .move i m
    · obtain ⟨m, rfl⟩ := hact
      obtain ⟨turn, hprogress, hnext, -⟩ := Traffic.call_step_move hcall m
      obtain ⟨hlost, hnone⟩ := h.progress hprogress
      rw [hnone, List.nil_append]
      exact ih hrest hnext (hlost.congr hsame)
    · have hne : ∀ m, act ≠ .move i m := fun m hm => hact ⟨m, hm⟩
      rw [Traffic.incidentsOf_happenings_of_ne w hne]
      exact ih hrest (Traffic.calls_step_of_ne hcall hne) (h.congr hsame)

end Call.Lost

/-! ### Calls that are made again -/

/-- What comes of it when a call that has failed with an error is made again. -/
structure Traffic.Retried (w : Traffic Float α) (chain : List String) (error : RoutingError) :
    Prop where
  /-- If there is something on the trail, the call calls a backend as soon as the router is
  at rest: one of the candidate that the trail begins with. -/
  reaches : w.router.Rested w.clock → ∀ a, error.trail.head? = some a →
    ∃ e ∈ w.router.registry.endpoints a.candidate,
      invocations (incidentsOf w.calls.length ((w.step (.start chain false)).journal
        (List.replicate chain.length (.move w.calls.length .takeUp)))) = [e]
  /-- If there is nothing on it, the call comes to the same end. -/
  comes_back : error.trail = [] →
    ((w.step (.start chain false)).run
      (List.replicate (chain.length + 1) (.move w.calls.length .takeUp))).calls[w.calls.length]? =
        some ⟨.over (.failed error), [], false⟩
  /-- It calls no backend and comes to no other end in any circumstances, unless a group is
  changed or the call cancelled. -/
  reaches_none : error.trail = [] → ∀ acts, (∀ c, .change c ∈ acts → c.touchesGroups = false) →
    invocations (incidentsOf w.calls.length ((w.step (.start chain false)).journal acts)) = [] ∧
      ∀ call v, ((w.step (.start chain false)).run acts).calls[w.calls.length]? = some call →
        call.verdict? = some v → call.cancelled = false → v = .failed error

/-- An error that is retriable is that of a call that has come to the end of its chain. -/
theorem RoutingError.eq_exhausted {error : RoutingError} (h : error.isRetriable = true) :
    error = .exhausted error.trail := by
  cases error with
  | exhausted trail => rfl
  | _ => cases h

/-- The trail of a call that has come to the end of its chain is of the names of the chain
that had endpoints. -/
theorem Traffic.candidates_of_exhausted (w₀ : Traffic τ α) (chain : List String) (cancelled : Bool)
    (acts : List (Act α)) {call : Call α} {trail : List Attempt}
    (hcall : ((w₀.step (.start chain cancelled)).run acts).calls[w₀.calls.length]? = some call)
    (hverdict : call.verdict? = some (.failed (.exhausted trail))) :
    let log := incidentsOf w₀.calls.length ((w₀.step (.start chain cancelled)).journal acts)
    (walked log).map (·.1) = chain ∧ trail.map (·.candidate) = registered (walked log) := by
  intro log
  have hresult : (Verdict.failed (.exhausted trail) : Verdict α) ≠ .clockOverflow := nofun
  obtain ⟨hbooks, hstanding⟩ := result_run w₀ chain cancelled acts hcall hverdict hresult
  have hover := Call.stage_of_verdict? hverdict
  have htrail : trail = recorded log := (hstanding.trail_eq hresult).trans hbooks.trail_eq
  have hcandidates : registered (walked log) = (recorded log).map (·.candidate) := by
    simpa [Call.aloft, Call.start, hover] using hbooks.candidates_eq
  cases hstanding with
  | exhausted hwalk => exact ⟨hwalk, by rw [htrail, hcandidates]⟩

/-- **A call that failed with a retriable error can be made again with success exactly if
something is on its trail.**  Take traffic in any state, a call that is made in it and any
acts after that, by which the call fails with such an error, and traffic in which the names
of the chain have the endpoints that they had when their turns came.  If there is something
on the trail, the call, made again when the router is at rest, calls a backend; if there is
not, it never calls one and comes to the same end. -/
theorem retry_reaches_backend (w₀ : Traffic Float α) (chain : List String) (cancelled : Bool)
    (acts : List (Act α)) {call : Call α} {error : RoutingError}
    (hcall : ((w₀.step (.start chain cancelled)).run acts).calls[w₀.calls.length]? = some call)
    (hverdict : call.verdict? = some (.failed error)) (hretriable : error.isRetriable = true)
    {w : Traffic Float α}
    (hsame : ∀ turn ∈ walked (incidentsOf w₀.calls.length
      ((w₀.step (.start chain cancelled)).journal acts)),
        w.router.registry.endpoints turn.1 = turn.2) :
    w.Retried chain error := by
  rw [RoutingError.eq_exhausted hretriable] at hverdict ⊢
  generalize error.trail = trail at hverdict ⊢
  obtain ⟨hwalk, hcandidates⟩ := w₀.candidates_of_exhausted chain cancelled acts hcall hverdict
  rw [registered_eq_filter hsame, hwalk] at hcandidates
  have hbegun : (w.step (.start chain false)).calls[w.calls.length]? =
      some ⟨.seeking chain, [], false⟩ := w.calls_start chain false
  have hunserved (htrail : trail = []) :
      ∀ name ∈ chain, (w.step (.start chain false)).router.registry.endpoints name = [] := by
    rw [htrail, List.map_nil, eq_comm, List.filter_eq_nil_iff] at hcandidates
    intro name hname
    exact Registry.serves_eq_false_iff.mp (Bool.eq_false_iff.mpr (hcandidates name hname))
  exact {
    reaches := by
      intro hrested a ha
      have hfirst : chain.find? w.router.registry.serves = some a.candidate := by
        rw [← List.head?_filter, ← hcandidates, List.head?_map,
          show trail.head? = some a from ha]
        rfl
      exact Traffic.invocations_takeUps_of_rested (w := w.step (.start chain false)) hrested
        hbegun hfirst
    comes_back := by
      intro htrail
      obtain rfl : trail = [] := htrail
      exact Traffic.run_takeUps_of_unserved hbegun (hunserved rfl)
    reaches_none := by
      intro htrail acts' hacts'
      obtain rfl : trail = [] := htrail
      obtain ⟨hnone, call', hcall', hlost⟩ :=
        Call.Lost.run acts' hacts' hbegun ⟨rfl, hunserved rfl⟩
      refine ⟨hnone, fun call'' v hcall'' hover hcancelled => ?_⟩
      obtain rfl : call' = call'' := Option.some.inj (hcall'.symm.trans hcall'')
      exact hlost.verdict hover hcancelled }

/-- An endpoint that two names lead to and that takes one request a minute. -/
def Endpoint.slow (name : String) : Endpoint := { Endpoint.shared name with rpmHint := some 1 }

/-- Traffic with a gate, in which two names lead to that endpoint. -/
def Traffic.slow : Traffic Float Unit where
  router :=
    { registry := (Registry.empty.register (.slow "fast")).register (.slow "smart")
      gate := some {} }
  clock := .zero

/-- The moves of a call that comes to a name that nobody has, to a backend that is limited,
and to the same one again. -/
def detour : List (Act Unit) :=
  [.move 0 .takeUp, .move 0 .takeUp, .move 0 (.poll ⟨false, some (.error (.http 429 ""))⟩),
    .move 0 .takeUp, .move 0 .takeUp]

/-- The trail that the call leaves. -/
def detourTrail : List Attempt :=
  [⟨"fast", some (Endpoint.slow "fast").id, .retriableFailure, some .rateLimit, .zero⟩,
    .skip "smart" .cooldown (some .rateLimit)]

/-- A minute after it has failed, the call is made again and reaches the backend. -/
theorem retry_reaches_backend_detour :
    let chain := ["nobody", "fast", "smart"]
    let w := ((Traffic.slow.step (.start chain false)).run detour).step (.pass (.ofSeconds 60))
    w.calls[0]? = some ⟨.over (.failed (.exhausted detourTrail)), detourTrail, false⟩ ∧
      w.router.Rested w.clock ∧
      ∃ e ∈ w.router.registry.endpoints "fast",
        invocations (incidentsOf w.calls.length ((w.step (.start chain false)).journal
          (List.replicate chain.length (.move w.calls.length .takeUp)))) = [e] := by
  intro chain w
  have hcall : ((Traffic.slow.step (.start ["nobody", "fast", "smart"] false)).run
      detour).calls[0]? =
      some ⟨.over (.failed (.exhausted detourTrail)), detourTrail, false⟩ := by
    set_option maxRecDepth 2000 in rfl
  have hrested : w.router.Rested w.clock := by decide +kernel
  have hsame : ∀ turn ∈ walked (incidentsOf 0
      ((Traffic.slow.step (.start chain false)).journal detour)),
      w.router.registry.endpoints turn.1 = turn.2 := by decide +kernel
  have hretried := retry_reaches_backend Traffic.slow chain false detour hcall rfl rfl hsame
  exact ⟨hcall, hrested, hretried.reaches hrested _ rfl⟩

/-- Of two names nobody has either.  A call to them fails with an error that is retriable,
but however long it is waited, the call calls no backend when it is made again. -/
theorem retry_in_vain :
    let chain := ["ghost", "phantom"]
    let w₀ : Traffic Float Unit := ⟨{}, .zero, []⟩
    let w := (w₀.step (.start chain false)).run (List.replicate 3 (.move 0 .takeUp))
    w.calls[0]? = some ⟨.over (.failed (.exhausted [])), [], false⟩ ∧
      RoutingError.isRetriable (.exhausted []) = true ∧
      ∀ s, let later := w.step (.pass s)
        later.router.registry.groups = w₀.router.registry.groups ∧
        later.router.Rested later.clock ∧
        ∀ acts, (∀ c, .change c ∈ acts → c.touchesGroups = false) →
          invocations (incidentsOf 1 ((later.step (.start chain false)).journal acts)) = [] := by
  intro chain w₀ w
  refine ⟨rfl, rfl, fun s => ⟨rfl, ⟨fun row hrow => ?_, fun gate hgate => ?_⟩, ?_⟩⟩
  · cases hrow
  · cases hgate
  · intro acts hacts
    have hbegun : ((w.step (.pass s)).step (.start chain false)).calls[1]? =
        some ⟨.seeking chain, [], false⟩ := rfl
    exact (Call.Lost.run acts hacts hbegun ⟨rfl, fun name _ => rfl⟩).1

end Failover
