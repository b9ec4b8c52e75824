import Failover.Proofs.Relabelling

/-!
# Budgets are opt-in

A rate is known of an endpoint for the gate's sake alone.  A router without a gate does
the same whatever the rates are, and a gate that finds no rate anywhere, or only rates of
zero, might as well not be there: it changes nothing, and nothing changes in it.

Whoever drives traffic, its callers and their backends together, acts on what has
happened so far.  So it is not enough that the same acts come to the same; two routers
also have to be told apart by nothing that has happened, for the same acts to be made in
them.  A driver that does not look at the rates is in step with itself in both.

## Main definitions

* `Driver`, `Driver.acts` — who drives traffic, and the acts that are made of it.
* `Driver.BlindTo` — a driver does not look at what a relabelling replaces.
* `Relabelling.unhinted` — endpoints without their rates.
* `Traffic.AlikeButHints`, `Traffic.FaresAlike` — traffic that is the same but for rates,
  and runs that are.
* `Traffic.IgnoresGate` — a run in which the gate has no say.

## Main results

* `Driver.actsAfter_congr` — a driver is in step with itself in traffic that differs in
  nothing that it looks at.
* `budgets_opt_in` — **without a gate rates do not matter, and an idle gate is no gate.**
-/

namespace Failover

variable {τ : Type} [TokenNumber τ] {α : Type}

/-! ### Who drives traffic -/

/-- Whoever drives traffic: the act that is made next, given what happened in each of the
acts so far. -/
def Driver (α : Type) : Type := List (List (Happening α)) → Act α

namespace Driver

/-- The next acts of a driver that has seen some acts. -/
def actsAfter (d : Driver α) : Nat → List (List (Happening α)) → Traffic τ α → List (Act α)
  | 0, _, _ => []
  | n + 1, seen, w =>
      d seen :: d.actsAfter n (seen ++ [w.happenings (d seen)]) (w.step (d seen))

/-- The first acts of a driver. -/
def acts (d : Driver α) (n : Nat) (w : Traffic τ α) : List (Act α) := d.actsAfter n [] w

/-- The driver that makes some acts whatever happens. -/
def ofActs (acts : List (Act α)) : Driver α := fun seen =>
  acts[seen.length]?.getD (.pass (.ofSeconds 0))

theorem actsAfter_ofActs (acts : List (Act α)) (n : Nat) :
    ∀ {seen : List (List (Happening α))} {w : Traffic τ α}, seen.length + n = acts.length →
      (ofActs acts).actsAfter n seen w = acts.drop seen.length := by
  induction n with
  | zero =>
    intro seen w hlength
    exact (List.drop_eq_nil_of_le (Nat.le_of_eq hlength.symm)).symm
  | succ n ih =>
    intro seen w hlength
    have hlt : seen.length < acts.length := by omega
    have hact : ofActs acts seen = acts[seen.length] := by
      simp only [ofActs, List.getElem?_eq_getElem hlt, Option.getD_some]
    rw [actsAfter, ih (by simp only [List.length_append, List.length_singleton]; omega),
      List.drop_eq_getElem_cons hlt, hact, List.length_append, List.length_singleton]

/-- Every sequence of acts is that of a driver. -/
theorem acts_ofActs (acts : List (Act α)) (w : Traffic τ α) :
    (ofActs acts).acts acts.length w = acts :=
  actsAfter_ofActs acts acts.length (Nat.zero_add _)

/-- What a driver has seen, under a relabelling. -/
def view (l : Relabelling) (seen : List (List (Happening α))) : List (List (Happening α)) :=
  seen.map (·.map (·.relabel l))

/-- A driver does not look at what a relabelling replaces: where nothing else tells apart
what it has seen, it makes the same act.  The endpoints that it brings may differ in just
that as well. -/
def BlindTo (d : Driver α) (l : Relabelling) : Prop :=
  ∀ {seen seen'}, view l seen' = view l seen → (d seen').relabel l = (d seen).relabel l

theorem blindTo_same (d : Driver α) : d.BlindTo .same := by
  intro seen seen' hseen
  have hview (seen : List (List (Happening α))) : view .same seen = seen := by simp [view]
  rw [hview, hview] at hseen
  rw [hseen]

theorem blindTo_ofActs (acts : List (Act α)) (l : Relabelling) : (ofActs acts).BlindTo l := by
  intro seen seen' hseen
  have hlength : seen'.length = seen.length := by
    simpa only [view, List.length_map] using congrArg List.length hseen
  rw [ofActs, ofActs, hlength]

/-- **A driver is in step with itself** in traffic that differs in nothing that it looks
at. -/
theorem actsAfter_congr {l : Relabelling} {d : Driver α} (hblind : d.BlindTo l) (n : Nat) :
    ∀ {seen seen' : List (List (Happening α))} {w w' : Traffic τ α},
      view l seen' = view l seen → w'.plain l = w.plain l →
      w.Unlimited (d.actsAfter n seen w) → w'.Unlimited (d.actsAfter n seen' w') →
        (d.actsAfter n seen' w').map (·.relabel l) =
          (d.actsAfter n seen w).map (·.relabel l) := by
  induction n with
  | zero =>
    intro seen seen' w w' _ _ _ _
    rfl
  | succ n ih =>
    intro seen seen' w w' hseen hplain h h'
    have hact := hblind hseen
    obtain ⟨hstep, hlog⟩ := w.step_plain l h.router (d seen)
    obtain ⟨hstep', hlog'⟩ := w'.step_plain l h'.router (d seen')
    rw [hplain, hact] at hstep' hlog'
    have hseen' : view l (seen' ++ [w'.happenings (d seen')]) =
        view l (seen ++ [w.happenings (d seen)]) := by
      simp only [view, List.map_append, List.map_cons, List.map_nil, ← hlog, ← hlog']
      exact congrArg (· ++ _) hseen
    have hrest := ih hseen' (hstep'.symm.trans hstep) h.step h'.step
    rw [actsAfter, actsAfter, List.map_cons, List.map_cons, hact, hrest]

theorem acts_congr {l : Relabelling} {d : Driver α} (hblind : d.BlindTo l) (n : Nat)
    {w w' : Traffic τ α} (hplain : w'.plain l = w.plain l) (h : w.Unlimited (d.acts n w))
    (h' : w'.Unlimited (d.acts n w')) :
    (d.acts n w').map (·.relabel l) = (d.acts n w).map (·.relabel l) :=
  actsAfter_congr hblind n rfl hplain h h'

end Driver

/-- Runs of one driver in such traffic come to the same. -/
theorem Traffic.runs_congr {l : Relabelling} {w w' : Traffic τ α} {acts acts' : List (Act α)}
    (hplain : w'.plain l = w.plain l) (hacts : acts'.map (·.relabel l) = acts.map (·.relabel l))
    (h : w.Unlimited acts) (h' : w'.Unlimited acts') :
    (w'.run acts').plain l = (w.run acts).plain l ∧
      (w'.journal acts').map (·.relabel l) = (w.journal acts).map (·.relabel l) := by
  obtain ⟨hrun, hjournal⟩ := run_plain l acts h
  obtain ⟨hrun', hjournal'⟩ := run_plain l acts' h'
  rw [hplain, hacts] at hrun' hjournal'
  exact ⟨hrun'.symm.trans hrun, hjournal'.symm.trans hjournal⟩

/-! ### Without a gate -/

/-- Endpoints of which no rate is known. -/
def Relabelling.unhinted : Relabelling :=
  ⟨fun e => { e with rpmHint := none }, fun _ => rfl, fun _ => rfl⟩

/-- The event that the observer was served in a happening, if it was. -/
def Happening.event? : Happening α → Option Event
  | .incident _ _ (.observed event) => some event
  | _ => none

/-- The events that the observer was served, in order. -/
def eventsOf (log : List (Happening α)) : List Event := log.filterMap (·.event?)

theorem eventsOf_relabel (l : Relabelling) (log : List (Happening α)) :
    eventsOf (log.map (·.relabel l)) = eventsOf log := by
  rw [eventsOf, List.filterMap_map]
  refine List.filterMap_congr fun x _ => ?_
  cases x with
  | changed time c => rfl
  | incident i time x => cases x <;> rfl

theorem Call.verdict?_relabel (l : Relabelling) (call : Call α) :
    (call.relabel l).verdict? = call.verdict?.map (·.relabel l) := by
  obtain ⟨stage, trail, cancelled⟩ := call
  cases stage <;> rfl

namespace Traffic

/-- How the call at some position ended, if it is over. -/
def verdict? (w : Traffic τ α) (i : Nat) : Option (Verdict α) := w.calls[i]?.bind (·.verdict?)

/-- The trail of the call at some position. -/
def trail? (w : Traffic τ α) (i : Nat) : Option (List Attempt) := w.calls[i]?.map (·.trail)

/-- Traffic that is the same but for the rates of endpoints. -/
structure AlikeButHints (w w' : Traffic τ α) : Prop where
  /-- The registries differ in nothing else, cursors included. -/
  registry : w'.router.registry.relabel .unhinted = w.router.registry.relabel .unhinted
  /-- The cooldowns are the same. -/
  tracker : w'.router.tracker = w.router.tracker
  /-- The kinds of failures are the same. -/
  classifier : w'.router.classifier = w.router.classifier
  /-- The clocks show the same. -/
  clock : w'.clock = w.clock
  /-- The calls differ in nothing but the rates of the endpoints that they have been
  given. -/
  calls : w'.calls.map (·.relabel .unhinted) = w.calls.map (·.relabel .unhinted)

omit [TokenNumber τ] in
theorem alikeButHints_iff {w w' : Traffic τ α} :
    w.AlikeButHints w' ↔ w'.plain .unhinted = w.plain .unhinted := by
  constructor
  · rintro ⟨hregistry, htracker, hclassifier, hclock, hcalls⟩
    simp only [plain, Router.plain, hregistry, htracker, hclassifier, hclock, hcalls]
  · intro h
    simp only [plain, Router.plain, mk.injEq, Router.mk.injEq] at h
    obtain ⟨⟨hregistry, htracker, -, hclassifier⟩, hclock, hcalls⟩ := h
    exact ⟨hregistry, htracker, hclassifier, hclock, hcalls⟩

/-- Two runs that come to the same but for the rates of endpoints. -/
structure FaresAlike (w w' : Traffic τ α) (acts acts' : List (Act α)) : Prop where
  /-- The same acts are made. -/
  acts_eq : acts'.map (·.relabel .unhinted) = acts.map (·.relabel .unhinted)
  /-- The same happens in them. -/
  journal : (w'.journal acts').map (·.relabel .unhinted) =
    (w.journal acts).map (·.relabel .unhinted)
  /-- They leave the same. -/
  traffic : (w.run acts).AlikeButHints (w'.run acts')
  /-- Every call ends alike, in a verdict that shows the endpoint with its own rate. -/
  verdicts : ∀ i, ((w'.run acts').verdict? i).map (·.relabel .unhinted) =
    ((w.run acts).verdict? i).map (·.relabel .unhinted)
  /-- Every call has the same trail. -/
  trails : ∀ i, (w'.run acts').trail? i = (w.run acts).trail? i
  /-- The observer is served the same events. -/
  events : eventsOf (w'.journal acts') = eventsOf (w.journal acts)
  /-- The cursors are the same. -/
  cursors : ∀ n, (w'.run acts').router.registry.cursor? n =
    (w.run acts).router.registry.cursor? n
  /-- The cooldowns are the same. -/
  cooldowns : (w'.run acts').router.tracker = (w.run acts).router.tracker

omit [TokenNumber τ] in
theorem AlikeButHints.verdict? {w w' : Traffic τ α} (h : w.AlikeButHints w') (i : Nat) :
    (w'.verdict? i).map (·.relabel .unhinted) = (w.verdict? i).map (·.relabel .unhinted) := by
  have hcall := congrArg (·[i]?.bind Call.verdict?) h.calls
  simpa [Traffic.verdict?, Option.map_bind, Option.bind_map, Function.comp_def,
    Call.verdict?_relabel] using hcall

omit [TokenNumber τ] in
theorem AlikeButHints.trail? {w w' : Traffic τ α} (h : w.AlikeButHints w') (i : Nat) :
    w'.trail? i = w.trail? i := by
  have hcall := congrArg (·[i]?.map Call.trail) h.calls
  simpa [Traffic.trail?, Function.comp_def, Call.relabel] using hcall

omit [TokenNumber τ] in
theorem AlikeButHints.cursor? {w w' : Traffic τ α} (h : w.AlikeButHints w') (n : String) :
    w'.router.registry.cursor? n = w.router.registry.cursor? n := by
  rw [← Registry.cursor?_relabel .unhinted, h.registry, Registry.cursor?_relabel]

/-- Without gates, two runs of one driver that does not look at rates come to the same but
for them. -/
theorem AlikeButHints.faresAlike {w w' : Traffic τ α} (h : w.AlikeButHints w')
    (hgate : w.router.gate = none) (hgate' : w'.router.gate = none) {d : Driver α}
    (hblind : d.BlindTo .unhinted) (n : Nat) : w.FaresAlike w' (d.acts n w) (d.acts n w') := by
  have hplain := alikeButHints_iff.mp h
  have hunlimited (acts : List (Act α)) : w.Unlimited acts := ⟨Or.inl hgate, Or.inl hgate⟩
  have hunlimited' (acts : List (Act α)) : w'.Unlimited acts := ⟨Or.inl hgate', Or.inl hgate'⟩
  have hacts := Driver.acts_congr hblind n hplain (hunlimited _) (hunlimited' _)
  obtain ⟨hrun, hjournal⟩ := runs_congr hplain hacts (hunlimited _) (hunlimited' _)
  have halike := alikeButHints_iff.mpr hrun
  exact {
    acts_eq := hacts
    journal := hjournal
    traffic := halike
    verdicts := halike.verdict?
    trails := halike.trail?
    events := by
      have hevents := congrArg eventsOf hjournal
      rwa [eventsOf_relabel, eventsOf_relabel] at hevents
    cursors := halike.cursor?
    cooldowns := halike.tracker }

/-! ### With an idle gate -/

/-- Traffic without the gate. -/
def ungated (w : Traffic τ α) : Traffic τ α := { w with router := { w.router with gate := none } }

omit [TokenNumber τ] in
theorem plain_same (w : Traffic τ α) : w.plain .same = w.ungated := by
  simp [plain, Router.plain, ungated]

/-- A run in which the gate has no say. -/
structure IgnoresGate (w : Traffic τ α) (d : Driver α) (n : Nat) : Prop where
  /-- The same acts are made without it. -/
  acts_eq : d.acts n w.ungated = d.acts n w
  /-- They come to the same: every call with its verdict and its trail, the registry with its
  cursors, and the cooldowns. -/
  run_eq : w.ungated.run (d.acts n w) = (w.run (d.acts n w)).ungated
  /-- The same happens in them, so that the observer is served the same events. -/
  journal_eq : w.ungated.journal (d.acts n w) = w.journal (d.acts n w)
  /-- No move of a call changes a bucket. -/
  gate_move : ∀ i m, ((w.run (d.acts n w)).step (.move i m)).router.gate =
    (w.run (d.acts n w)).router.gate
  /-- As long as no act is made on the gate directly, it stays what it was. -/
  gate_run : (∀ act ∈ d.acts n w, act.SparesGate) →
    (w.run (d.acts n w)).router.gate = w.router.gate

/-- A gate has no say in a run in which it finds no rate. -/
theorem Unlimited.ignoresGate {w : Traffic τ α} {d : Driver α} {n : Nat}
    (h : w.Unlimited (d.acts n w)) : w.IgnoresGate d n := by
  have hungated (acts : List (Act α)) : w.ungated.Unlimited acts :=
    ⟨Or.inl rfl, Or.inl rfl⟩
  have hplain : w.ungated.plain .same = w.plain .same := by rw [plain_same, plain_same]; rfl
  have hacts := Driver.acts_congr d.blindTo_same n hplain h (hungated _)
  simp only [Act.relabel_same, List.map_id_fun', id_eq] at hacts
  obtain ⟨hrun, hjournal⟩ := run_plain .same (d.acts n w) h
  simp only [plain_same, Act.relabel_same, Happening.relabel_same, List.map_id_fun', id_eq]
    at hrun hjournal
  exact {
    acts_eq := hacts
    run_eq := hrun
    journal_eq := hjournal
    gate_move := fun i m => gate_step h.run (Or.inr trivial)
    gate_run := h.gate_run }

end Traffic

/-! ### Budgets are opt-in -/

/-- What rates and gates have no say in. -/
structure BudgetsOptIn (τ α : Type) [TokenNumber τ] : Prop where
  /-- Without a gate, a driver that does not look at rates comes to the same in traffic that
  differs in nothing but rates, however it goes on: with any chains, any backends, any order
  in which the calls move, and any changes in between. -/
  without_gate : ∀ {w w' : Traffic τ α} {d : Driver α}, w.router.gate = none →
    w'.router.gate = none → w.AlikeButHints w' → d.BlindTo .unhinted →
      ∀ n, w.FaresAlike w' (d.acts n w) (d.acts n w')
  /-- If every rate is unknown or zero, the gate has no say, whatever its burst and whatever
  its buckets hold. -/
  idle_gate : ∀ {w : Traffic τ α} {d : Driver α} {n},
    (∀ name, ∀ e ∈ w.router.registry.endpoints name, e.Unlimited) →
      (∀ act ∈ d.acts n w, act.Unlimited) → w.IgnoresGate d n

/-- **Without a gate rates do not matter, and an idle gate is no gate**, in any numbers that
tokens are counted in. -/
theorem budgets_opt_in (τ α : Type) [TokenNumber τ] : BudgetsOptIn τ α where
  without_gate := fun hgate hgate' halike hblind n => halike.faresAlike hgate hgate' hblind n
  idle_gate := fun hregistry hacts =>
    Traffic.Unlimited.ignoresGate ⟨Or.inr hregistry, Or.inr hacts⟩

/-- The traffic of an endpoint of which no rate is known. -/
def Traffic.unmetered : Traffic ℚ Unit where
  router := { registry := Registry.empty.register (.shared "fast") }
  clock := .zero

/-- The traffic of an endpoint of rate zero, at a gate that holds an empty bucket for it. -/
def Traffic.idle : Traffic ℚ Unit where
  router :=
    { registry := Registry.empty.register { Endpoint.shared "fast" with rpmHint := some 0 }
      gate := some
        { buckets := (∅ : Table _ _).insert (Endpoint.shared "fast").id ⟨0, 1, 1, .zero⟩ } }
  clock := .zero

/-- Without its gate the endpoint that tolerates one request a minute is called three times
in one, as one of unknown rate is.  The empty bucket of the other is not asked. -/
theorem budgets_opt_in_rush :
    Traffic.metered.ungated.FaresAlike Traffic.unmetered rush rush ∧
    (dispatches Endpoint.metered.id (Traffic.metered.ungated.journal rush)).map (·.nanos) =
      [0, 59 * nanosPerSecond, 60 * nanosPerSecond] ∧
    Traffic.idle.IgnoresGate (.ofActs rush) rush.length ∧
    (Traffic.idle.run rush).router.gate = Traffic.idle.router.gate := by
  have halike : Traffic.metered.ungated.AlikeButHints Traffic.unmetered :=
    ⟨rfl, rfl, rfl, rfl, rfl⟩
  have hfares := (budgets_opt_in ℚ Unit).without_gate rfl rfl halike
    (Driver.blindTo_ofActs rush .unhinted) rush.length
  rw [Driver.acts_ofActs, Driver.acts_ofActs] at hfares
  have hregistry : ∀ name, ∀ e ∈ Traffic.idle.router.registry.endpoints name, e.Unlimited := by
    intro name e he
    have hafter : e ∈ (Registry.empty.after
        (.register { Endpoint.shared "fast" with rpmHint := some 0 })).endpoints name := he
    rcases Registry.mem_endpoints_after hafter with hold | hnew
    · cases hold
    · rw [List.mem_singleton.mp hnew]
      exact Or.inr rfl
  have hacts : ∀ act ∈ (Driver.ofActs rush).acts rush.length Traffic.idle, act.Unlimited := by
    rw [Driver.acts_ofActs]
    simp [rush, Act.Unlimited, Act.brought]
  have hignores := (budgets_opt_in ℚ Unit).idle_gate hregistry hacts
  have hgate := hignores.gate_run (by rw [Driver.acts_ofActs]; simp [rush, Act.SparesGate])
  rw [Driver.acts_ofActs] at hgate
  exact ⟨hfares, by decide +kernel, hignores, hgate⟩

end Failover
