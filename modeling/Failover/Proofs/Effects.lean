import Failover.Proofs.Suppression
import Failover.Proofs.Trail

/-!
# What a call does to the tracker

A call whose attempts join its trail tells the tracker of them, of each when it
comes about.  So the trail, with the time of each attempt, is all that is needed to
know what the call has done: a success clears its endpoint, a retriable failure
starts the window of its endpoint anew and counts one more failure, and whatever
else happens leaves the tracker alone.  An endpoint can come up several times in
one trail, and then each attempt finds what the ones before it have left.

## Main definitions

* `Tracker.follow`, `Tracker.followAll` — what attempts do to a tracker.
* `recordsOf` — the attempts of one call, with their times.
* `Traffic.Undisturbed` — runs in which only one call writes to the tracker.

## Main results

* `Progress.follows` — a move does to the tracker what the attempt says that joins
  the trail.
* `tracker_follows_trail` — **a call that is undisturbed changes the tracker exactly
  as its trail says.**
-/

namespace Failover

variable {τ : Type} [TokenNumber τ] {α : Type}

/-! ### Following a trail -/

/-- The count of failures after one more, given what is stored: whether that is
still in force does not matter. -/
def failuresAfter : Option Suppression → Nat
  | some s => min (s.failures + 1) Tracker.maxFailures
  | none => 1

namespace Tracker

/-- A tracker after an attempt that finished at some time. -/
def follow (t : Tracker) (a : Attempt) (finished : Instant) : Tracker :=
  match a.outcome, a.endpoint, a.kind with
  | .success, some id, _ => { t with entries := t.entries.erase id }
  | .retriableFailure, some id, some kind =>
      match t.windows.forKind kind with
      | some window =>
          let s := ⟨finished.later window, kind, failuresAfter (t.entries.get? id)⟩
          { t with entries := t.entries.insert id s }
      | none => t
  | _, _, _ => t

/-- A tracker after some attempts, one after the other. -/
def followAll (t : Tracker) (records : List (Attempt × Instant)) : Tracker :=
  records.foldl (fun t record => t.follow record.1 record.2) t

@[simp] theorem followAll_nil (t : Tracker) : t.followAll [] = t := rfl

@[simp] theorem followAll_append (t : Tracker) (records records' : List (Attempt × Instant)) :
    t.followAll (records ++ records') = (t.followAll records).followAll records' :=
  List.foldl_append

/-- Only an attempt that succeeds or fails in a retriable way does anything. -/
theorem follow_eq_self {t : Tracker} {a : Attempt} (finished : Instant)
    (hsuccess : a.outcome ≠ .success) (hretriable : a.outcome ≠ .retriableFailure) :
    t.follow a finished = t := by
  unfold follow
  split
  · exact absurd ‹_› hsuccess
  · exact absurd ‹_› hretriable
  · rfl

theorem windows_follow (t : Tracker) (a : Attempt) (finished : Instant) :
    (t.follow a finished).windows = t.windows := by
  unfold follow
  split
  · rfl
  · split <;> rfl
  · rfl

theorem windows_followAll (t : Tracker) (records : List (Attempt × Instant)) :
    (t.followAll records).windows = t.windows := by
  induction records generalizing t with
  | nil => rfl
  | cons record records ih =>
    change ((t.follow record.1 record.2).followAll records).windows = t.windows
    rw [ih, windows_follow]

/-- An attempt does nothing to an endpoint unless it succeeds there or fails there
in a retriable way. -/
theorem get?_follow_of_ne {t : Tracker} {a : Attempt} (finished : Instant) {id : EndpointId}
    (h : a.endpoint = some id → a.outcome ≠ .success ∧ a.outcome ≠ .retriableFailure) :
    (t.follow a finished).entries.get? id = t.entries.get? id := by
  by_cases hid : a.endpoint = some id
  · rw [follow_eq_self finished (h hid).1 (h hid).2]
  · unfold follow
    split
    next _ id' _ hendpoint =>
      have hne : id ≠ id' := fun heq => hid (hendpoint.trans (congrArg some heq.symm))
      rw [Table.get?_erase, if_neg hne]
    next id' kind _ hendpoint _ =>
      have hne : id ≠ id' := fun heq => hid (hendpoint.trans (congrArg some heq.symm))
      split
      · rw [Table.get?_insert, if_neg hne]
      · rfl
    next => rfl

theorem get?_followAll_of_ne {records : List (Attempt × Instant)} {id : EndpointId} :
    ∀ {t : Tracker}, (∀ record ∈ records, record.1.endpoint = some id →
      record.1.outcome ≠ .success ∧ record.1.outcome ≠ .retriableFailure) →
      (t.followAll records).entries.get? id = t.entries.get? id := by
  induction records with
  | nil => intro t _; rfl
  | cons record records ih =>
    intro t h
    change ((t.follow record.1 record.2).followAll records).entries.get? id = _
    rw [ih fun record' hmem => h record' (List.mem_cons_of_mem record hmem),
      get?_follow_of_ne record.2 (h record List.mem_cons_self)]

/-- A retriable failure whose window the clock can show leaves an entry. -/
theorem get?_follow_of_retriable {t : Tracker} {a : Attempt} {finished liftedAt : Instant}
    {id : EndpointId} {kind : Kind} {window : Span} (houtcome : a.outcome = .retriableFailure)
    (hendpoint : a.endpoint = some id) (hkind : a.kind = some kind)
    (hwindow : t.windows.forKind kind = some window)
    (hadd : finished.add? window = some liftedAt) :
    (t.follow a finished).entries.get? id =
      some ⟨liftedAt, kind, failuresAfter (t.entries.get? id)⟩ := by
  have hlater : finished.later window = liftedAt := by rw [Instant.later, hadd]; rfl
  rw [follow, houtcome, hendpoint, hkind]
  simp only [hwindow, hlater]
  rw [Table.get?_insert, if_pos rfl]

/-- Recording a retriable failure is following the attempt that makes it. -/
theorem follow_of_recordFailure {t t' : Tracker} {a : Attempt} {finished : Instant}
    {id : EndpointId} {kind : Kind} {answer : Option Instant}
    (houtcome : a.outcome = .retriableFailure) (hendpoint : a.endpoint = some id)
    (hkind : a.kind = some kind) (hretriable : kind.isRetriable = true)
    (h : t.recordFailure id kind finished = .ok (answer, t')) : t' = t.follow a finished := by
  obtain ⟨window, liftedAt, hwindow, hadd, -, rfl⟩ := recordFailure_of_retriable hretriable h
  have hlater : finished.later window = liftedAt := by rw [Instant.later, hadd]; rfl
  have hsuppress : t.suppress id kind liftedAt =
      ⟨liftedAt, kind, failuresAfter (t.entries.get? id)⟩ := by
    unfold suppress failuresAfter
    cases t.entries.get? id <;> rfl
  rw [follow, houtcome, hendpoint, hkind]
  simp only [hwindow, hlater, hsuppress]

end Tracker

/-- **A move does to the tracker what the attempt says that joins the trail**, and
nothing if none does. -/
theorem Progress.follows {r : Router τ} {now : Instant} {call : Call α} {m : Move α}
    {turn : Turn τ α} {log : List (Incident α)} (h : Progress r now call m turn log) :
    turn.router.tracker = r.tracker.followAll ((recorded log).map (·, now)) := by
  cases h with
  | answered ha =>
    subst ha
    rfl
  | advanced _ hretriable hrecord ha =>
    have hkind := congrArg Attempt.kind ha
    have hendpoint := congrArg Attempt.endpoint ha
    exact Tracker.follow_of_recordFailure (by rw [ha]; rfl) hendpoint hkind hretriable hrecord
  | cooling _ _ ha | throttled _ _ _ ha | dropped ha | broken _ _ ha =>
    subst ha
    rfl
  | _ => rfl

/-- A retriable failure that joins a trail has a window, whose end the clock can
show. -/
theorem Progress.window {r : Router τ} {now : Instant} {call : Call α} {m : Move α}
    {turn : Turn τ α} {log : List (Incident α)} (h : Progress r now call m turn log)
    {a : Attempt} (hmem : a ∈ recorded log) (houtcome : a.outcome = .retriableFailure) :
    ∃ id kind window liftedAt, a.endpoint = some id ∧ a.kind = some kind ∧
      r.tracker.windows.forKind kind = some window ∧ now.add? window = some liftedAt := by
  cases h with
  | advanced _ hretriable hrecord ha =>
    obtain rfl := List.mem_singleton.mp hmem
    subst ha
    obtain ⟨window, liftedAt, hwindow, hadd, -⟩ :=
      Tracker.recordFailure_of_retriable hretriable hrecord
    exact ⟨_, _, window, liftedAt, rfl, rfl, hwindow, hadd⟩
  | cooling _ _ ha | throttled _ _ _ ha | dropped ha | answered ha | broken _ _ ha =>
    obtain rfl := List.mem_singleton.mp hmem
    subst ha
    cases houtcome
  | _ => cases hmem

/-! ### Calls that are undisturbed -/

/-- The attempt of a happening, with its time, if one joined the trail of the call
at position `i`. -/
def Happening.recordOf (i : Nat) : Happening α → Option (Attempt × Instant)
  | .incident j time (.recorded a) => if j = i then some (a, time) else none
  | _ => none

/-- The attempts of the call at position `i`, with their times. -/
def recordsOf (i : Nat) (log : List (Happening α)) : List (Attempt × Instant) :=
  log.filterMap (·.recordOf i)

@[simp] theorem recordsOf_append (i : Nat) (log log' : List (Happening α)) :
    recordsOf i (log ++ log') = recordsOf i log ++ recordsOf i log' :=
  List.filterMap_append

/-- What is recorded of a call has happened to it. -/
theorem incident_of_mem_recordsOf {i : Nat} {a : Attempt} {finished : Instant}
    {log : List (Happening α)} (h : (a, finished) ∈ recordsOf i log) :
    .incident i finished (.recorded a) ∈ log := by
  obtain ⟨x, hx, hrecord⟩ := List.mem_filterMap.mp h
  cases x with
  | changed time c => cases hrecord
  | incident j time y =>
    cases y with
    | recorded b =>
      by_cases hij : j = i
      · simp only [Happening.recordOf, hij, if_true, Option.some.injEq, Prod.mk.injEq] at hrecord
        obtain ⟨rfl, rfl⟩ := hrecord
        rw [← hij]
        exact hx
      · simp [Happening.recordOf, hij] at hrecord
    | _ => cases hrecord

/-- Without their times they are what is recorded of the call. -/
theorem map_fst_recordsOf (i : Nat) (log : List (Happening α)) :
    (recordsOf i log).map (·.1) = recorded (incidentsOf i log) := by
  rw [recordsOf, recorded, incidentsOf, List.map_filterMap, List.filterMap_filterMap]
  congr 1
  funext x
  cases x with
  | changed time c => rfl
  | incident j time x =>
    by_cases hij : j = i <;> cases x <;> simp [Happening.recordOf, Happening.incidentOf, hij]

/-- The incidents of a move of the call are its records at one time. -/
theorem recordsOf_map (i : Nat) (now : Instant) (log : List (Incident α)) :
    recordsOf i (log.map (.incident i now)) = (recorded log).map (·, now) := by
  rw [recordsOf, recorded, List.filterMap_map, List.map_filterMap]
  congr 1
  funext x
  cases x <;> simp [Happening.recordOf]

namespace Traffic

/-- A run in which only the call at position `i` writes to the tracker. -/
def Undisturbed (i : Nat) : Traffic τ α → List (Act α) → Prop
  | _, [] => True
  | w, act :: acts =>
      ((∀ m, act ≠ .move i m) → (w.step act).router.tracker = w.router.tracker) ∧
        Undisturbed i (w.step act) acts

/-- An act of a run that is undisturbed does to the tracker what is recorded of the
call. -/
theorem follows_step {w : Traffic τ α} {i : Nat} {act : Act α}
    (halone : (∀ m, act ≠ .move i m) → (w.step act).router.tracker = w.router.tracker) :
    (w.step act).router.tracker = w.router.tracker.followAll (recordsOf i (w.happenings act)) := by
  by_cases hact : ∃ m, act = .move i m
  · obtain ⟨m, rfl⟩ := hact
    cases hcall : w.calls[i]? with
    | none =>
      simp only [step, happenings, hcall]
      rfl
    | some call =>
      simp only [step, happenings, hcall, recordsOf_map]
      exact (progress_move w.router w.clock call m).follows
  · -- nothing happens to the call, and nothing else writes to the tracker
    have hne : ∀ m, act ≠ .move i m := fun m h => hact ⟨m, h⟩
    have hrecords : recordsOf i (w.happenings act) = [] := by
      rw [← List.map_eq_nil_iff, map_fst_recordsOf, incidentsOf_happenings_of_ne w hne]
      rfl
    rw [halone hne, hrecords, Tracker.followAll_nil]

/-- A run that is undisturbed does to the tracker what is recorded of the call. -/
theorem follows_run {i : Nat} (acts : List (Act α)) :
    ∀ {w : Traffic τ α}, w.Undisturbed i acts →
      (w.run acts).router.tracker =
        w.router.tracker.followAll (recordsOf i (w.journal acts)) := by
  induction acts with
  | nil => intro w _; rfl
  | cons act acts ih =>
    intro w halone
    rw [run_cons, journal_cons, recordsOf_append, Tracker.followAll_append,
      ← follows_step halone.1]
    exact ih halone.2

/-- Every retriable failure that is recorded in a run has a window, whose end the
clock can show. -/
theorem window_run {i : Nat} {a : Attempt} {finished : Instant}
    (houtcome : a.outcome = .retriableFailure) (acts : List (Act α)) :
    ∀ {w : Traffic τ α}, (a, finished) ∈ recordsOf i (w.journal acts) →
      ∃ id kind window liftedAt, a.endpoint = some id ∧ a.kind = some kind ∧
        w.router.tracker.windows.forKind kind = some window ∧
        finished.add? window = some liftedAt := by
  induction acts with
  | nil => intro w hmem; cases hmem
  | cons act acts ih =>
    intro w hmem
    rw [journal_cons, recordsOf_append, List.mem_append] at hmem
    rcases hmem with hmem | hmem
    · obtain ⟨rfl, call, m, turn, log, hprogress, hmem⟩ :=
        progress_of_incident (incident_of_mem_recordsOf hmem)
      exact hprogress.window (List.mem_filterMap.mpr ⟨_, hmem, rfl⟩) houtcome
    · -- no act changes the windows, so those of later failures are the same
      rw [← (told_step w act).windows_eq]
      exact ih hmem

end Traffic

/-- **A call that is undisturbed changes the tracker exactly as its trail says.**
Take traffic in any state, a call that is made in it, and acts in which nothing else
writes to the tracker.  Then, however far the call has come by them,

* the tracker is what it was before the call, after the attempts of the call in
  order, each at the time at which it finished;
* if the call has ended with a result, these are the attempts of its trail;
* an endpoint at which the call neither succeeded nor failed in a retriable way has
  kept its entry;
* a retriable failure has left an entry: it lasts for the window of its kind from
  when the attempt finished, and counts one failure more than what was stored. -/
theorem tracker_follows_trail {w₀ : Traffic τ α} {chain : List String} {cancelled : Bool}
    {acts : List (Act α)}
    (halone : (w₀.step (.start chain cancelled)).Undisturbed w₀.calls.length acts) :
    let w₁ := w₀.step (.start chain cancelled)
    let before := w₀.router.tracker
    let after := (w₁.run acts).router.tracker
    let records := recordsOf w₀.calls.length (w₁.journal acts)
    after = before.followAll records ∧
    (∀ call verdict, (w₁.run acts).calls[w₀.calls.length]? = some call →
      call.verdict? = some verdict → verdict ≠ .clockOverflow →
        verdict.trail = records.map (·.1)) ∧
    (∀ id, (∀ record ∈ records, record.1.endpoint = some id →
        record.1.outcome ≠ .success ∧ record.1.outcome ≠ .retriableFailure) →
      after.entries.get? id = before.entries.get? id) ∧
    (∀ earlier a finished later, records = earlier ++ (a, finished) :: later →
      a.outcome = .retriableFailure →
        ∃ id kind window liftedAt, a.endpoint = some id ∧ a.kind = some kind ∧
          before.windows.forKind kind = some window ∧
          finished.add? window = some liftedAt ∧
          (before.followAll (earlier ++ [(a, finished)])).entries.get? id =
            some ⟨liftedAt, kind,
              failuresAfter ((before.followAll earlier).entries.get? id)⟩) := by
  intro w₁ before after records
  have hafter : after = before.followAll records := Traffic.follows_run acts halone
  refine ⟨hafter, ?_, ?_, ?_⟩
  · intro call verdict hcall hverdict hresult
    obtain ⟨hbooks, hstanding⟩ :=
      Traffic.result_run w₀ chain cancelled acts hcall hverdict hresult
    have htrail : call.trail = recorded (incidentsOf w₀.calls.length (w₁.journal acts)) :=
      hbooks.trail_eq
    rw [hstanding.trail_eq hresult, htrail, map_fst_recordsOf]
  · -- the frame
    intro id hfree
    rw [hafter, Tracker.get?_followAll_of_ne hfree]
  · intro earlier a finished later hsplit houtcome
    have hmem : (a, finished) ∈ records := by
      rw [hsplit]
      exact List.mem_append_right earlier List.mem_cons_self
    obtain ⟨id, kind, window, liftedAt, hendpoint, hkind, hwindow, hadd⟩ :=
      Traffic.window_run houtcome acts hmem
    refine ⟨id, kind, window, liftedAt, hendpoint, hkind, hwindow, hadd, ?_⟩
    have hsame : (before.followAll earlier).windows.forKind kind = some window := by
      rw [Tracker.windows_followAll]
      exact hwindow
    rw [Tracker.followAll_append]
    exact Tracker.get?_follow_of_retriable houtcome hendpoint hkind hsame hadd

/-- A call that is limited once and then passes its endpoint over leaves one failure
behind, and the window starts when the backend came back. -/
theorem tracker_follows_trail_tour :
    (Traffic.twoNames.step (.start ["fast", "nobody", "smart"] false)).Undisturbed
      Traffic.twoNames.calls.length tour ∧
    ((Traffic.twoNames.step (.start ["fast", "nobody", "smart"] false)).run tour).router.tracker =
      Traffic.twoNames.router.tracker.followAll
        (tourTrail.map (·, Traffic.twoNames.clock.later (.ofSeconds 1))) ∧
    ((Traffic.twoNames.step (.start ["fast", "nobody", "smart"] false)).run
      tour).router.tracker.entries.get? (Endpoint.shared "fast").id =
      some ⟨Traffic.twoNames.clock.later (.ofSeconds 61), .rateLimit, 1⟩ := by
  have halone : (Traffic.twoNames.step (.start ["fast", "nobody", "smart"] false)).Undisturbed
      Traffic.twoNames.calls.length tour :=
    ⟨fun h => absurd rfl (h _), fun _ => rfl, fun h => absurd rfl (h _),
      fun h => absurd rfl (h _), fun h => absurd rfl (h _), fun h => absurd rfl (h _), trivial⟩
  have hrecords : recordsOf Traffic.twoNames.calls.length
      ((Traffic.twoNames.step (.start ["fast", "nobody", "smart"] false)).journal tour) =
      tourTrail.map (·, Traffic.twoNames.clock.later (.ofSeconds 1)) := by decide
  obtain ⟨hfollows, -⟩ := tracker_follows_trail halone
  rw [hrecords] at hfollows
  exact ⟨halone, hfollows, by decide⟩

end Failover
