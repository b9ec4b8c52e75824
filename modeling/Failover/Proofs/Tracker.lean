import Failover.Cooldown

/-!
# The tracker and its history

An endpoint is left alone because of its latest retriable failure: until the
window of that failure has passed, and not at all once the endpoint has
succeeded or everything was forgotten.  A history is a list of marks, and which
failure it is can be read off the marks alone.  The tracker stores something
else: one entry for each endpoint, which is overwritten, erased or purged.  The
invariant `Tracker.Reflects` says that the two agree, and every operation keeps
it as long as the clock does not go back.

## Main definitions

* `Mark`, `latestFailure`, `suppressor` — histories, and what they say.
* `Tracker.Told` — the operations of a tracker, each with its mark.
* `Tracker.Reachable` — the trackers that operations lead to.
* `Tracker.Reflects` — the invariant.

## Main results

* `Tracker.Reflects.told` — every operation keeps the invariant.
* `Tracker.Reflects.active?` — a tracker in agreement with a history leaves an
  endpoint alone exactly when the history says so.
* `Tracker.Reachable.isRetriable` — only retriable kinds are ever stored.
-/

namespace Failover

/-! ### Histories -/

/-- Something that cooldown hangs on. -/
inductive Mark where
  /-- An endpoint failed in a retriable way. -/
  | failed (id : EndpointId) (kind : Kind) (time : Instant)
  /-- An endpoint succeeded. -/
  | cleared (id : EndpointId)
  /-- Everything was forgotten. -/
  | forgotten

/-- The latest failure of an endpoint after a mark, given the one before it. -/
def Mark.after (id : EndpointId) (latest : Option (Kind × Instant)) :
    Mark → Option (Kind × Instant)
  | .failed id' kind time => if id' = id then some (kind, time) else latest
  | .cleared id' => if id' = id then none else latest
  | .forgotten => none

/-- The latest failure of an endpoint, and when it was, since the endpoint last
succeeded or everything was forgotten. -/
def latestFailure (id : EndpointId) (marks : List Mark) : Option (Kind × Instant) :=
  marks.foldl (Mark.after id) none

/-- The kind of the failure that an endpoint is left alone for at some time: the
latest one, unless its window has passed. -/
def suppressor (windows : CooldownWindows) (marks : List Mark) (id : EndpointId)
    (now : Instant) : Option Kind :=
  match latestFailure id marks with
  | none => none
  | some (kind, time) =>
      match windows.forKind kind with
      | none => none
      | some window => if now.nanos < time.nanos + window.nanos then some kind else none

@[simp] theorem latestFailure_concat (id : EndpointId) (marks : List Mark) (mark : Mark) :
    latestFailure id (marks ++ [mark]) = mark.after id (latestFailure id marks) := by
  simp [latestFailure]

/-- Adding a length to a reading of the clock adds the nanoseconds. -/
theorem Instant.nanos_of_add? {t u : Instant} {s : Span} (h : t.add? s = some u) :
    u.nanos = t.nanos + s.nanos := by
  unfold Instant.add? at h
  split at h
  · cases h
    rfl
  · cases h

namespace Tracker

/-! ### The operations -/

/-- What an operation at some time leaves of a tracker, with its mark if it has
one. -/
inductive Told (now : Instant) : Tracker → List Mark → Tracker → Prop
  /-- Nothing is done. -/
  | nothing {t : Tracker} : Told now t [] t
  /-- A retriable failure is recorded. -/
  | failed {t t' : Tracker} {id : EndpointId} {kind : Kind} {answer : Option Instant}
      (hretriable : kind.isRetriable = true)
      (hrecord : t.recordFailure id kind now = .ok (answer, t')) :
      Told now t [.failed id kind now] t'
  /-- A success is recorded. -/
  | cleared {t : Tracker} {id : EndpointId} :
      Told now t [.cleared id] (t.recordSuccess id).2
  /-- What is not in force any more is forgotten. -/
  | purged {t : Tracker} : Told now t [] (t.purge now).2
  /-- Everything is forgotten. -/
  | forgotten {t : Tracker} : Told now t [.forgotten] t.reset

/-- The trackers that operations lead to, at any times and in any order. -/
inductive Reachable : Tracker → Prop
  /-- A tracker at its beginning. -/
  | start (windows : CooldownWindows) : Reachable { windows }
  /-- A tracker after an operation. -/
  | told {t t' : Tracker} {now : Instant} {marks : List Mark} (ht : Reachable t)
      (htold : Told now t marks t') : Reachable t'

/-- What is recorded of a failure: nothing of one that is not retriable, and else
an entry that ends with the window. -/
theorem recordFailure_cases {t t' : Tracker} {id : EndpointId} {kind : Kind} {now : Instant}
    {answer : Option Instant} (h : t.recordFailure id kind now = .ok (answer, t')) :
    (kind.isRetriable = false ∧ answer = none ∧ t' = t) ∨
    ∃ window liftedAt, t.windows.forKind kind = some window ∧
      now.add? window = some liftedAt ∧ answer = some liftedAt ∧
      t' = { t with entries := t.entries.insert id (t.suppress id kind liftedAt) } := by
  unfold recordFailure at h
  cases hwindow : t.windows.forKind kind with
  | none =>
    rw [hwindow] at h
    cases h
    have hkind := t.windows.forKind_isSome kind
    rw [hwindow] at hkind
    exact Or.inl ⟨hkind.symm, rfl, rfl⟩
  | some window =>
    rw [hwindow] at h
    cases hadd : now.add? window with
    | none => simp [hadd] at h
    | some liftedAt =>
      simp only [hadd, Except.ok.injEq, Prod.mk.injEq] at h
      exact Or.inr ⟨window, liftedAt, rfl, hadd, h.1.symm, h.2.symm⟩

/-- A retriable failure leaves an entry that ends with its window. -/
theorem recordFailure_of_retriable {t t' : Tracker} {id : EndpointId} {kind : Kind}
    {now : Instant} {answer : Option Instant} (hretriable : kind.isRetriable = true)
    (h : t.recordFailure id kind now = .ok (answer, t')) :
    ∃ window liftedAt, t.windows.forKind kind = some window ∧
      now.add? window = some liftedAt ∧ answer = some liftedAt ∧
      t' = { t with entries := t.entries.insert id (t.suppress id kind liftedAt) } := by
  rcases recordFailure_cases h with ⟨hfatal, -⟩ | hentry
  · rw [hretriable] at hfatal
    exact absurd hfatal (by decide)
  · exact hentry

/-- A success shows at its own endpoint only. -/
theorem get?_recordSuccess (t : Tracker) (id id' : EndpointId) :
    (t.recordSuccess id).2.entries.get? id' = if id' = id then none else t.entries.get? id' :=
  Table.get?_erase t.entries id id'

/-- What is in force stays when the rest is forgotten. -/
theorem get?_purge (t : Tracker) (now : Instant) (id : EndpointId) :
    (t.purge now).2.entries.get? id = (t.entries.get? id).filter (·.isActive now) :=
  Table.get?_filter t.entries _ id

/-- No operation changes the windows. -/
theorem Told.windows_eq {now : Instant} {t t' : Tracker} {marks : List Mark}
    (h : Told now t marks t') : t'.windows = t.windows := by
  cases h with
  | failed hretriable hrecord =>
    obtain ⟨window, liftedAt, -, -, -, rfl⟩ := recordFailure_of_retriable hretriable hrecord
    rfl
  | nothing | cleared | purged | forgotten => rfl

/-- Only retriable kinds are ever stored. -/
theorem Reachable.isRetriable {t : Tracker} (h : t.Reachable) :
    ∀ {id s}, t.entries.get? id = some s → s.kind.isRetriable = true := by
  induction h with
  | start windows => intro id s hs; simp at hs
  | told _ htold ih =>
    intro id s hs
    cases htold with
    | nothing => exact ih hs
    | failed hretriable hrecord =>
      obtain ⟨window, liftedAt, -, -, -, rfl⟩ := recordFailure_of_retriable hretriable hrecord
      rw [Table.get?_insert] at hs
      split at hs
      · cases hs
        exact hretriable
      · exact ih hs
    | cleared =>
      rw [get?_recordSuccess] at hs
      split at hs
      · cases hs
      · exact ih hs
    | purged =>
      rw [get?_purge] at hs
      exact ih (Option.filter_eq_some_iff.mp hs).1
    | forgotten => simp [reset] at hs

/-! ### Agreement with a history -/

/-- What a tracker stores of an endpoint, against the endpoint's latest failure:
the end of that failure's window and its kind, or nothing if the window has
passed. -/
def ReflectsAt (t : Tracker) (now : Instant) (id : EndpointId) :
    Option (Kind × Instant) → Prop
  | none => t.entries.get? id = none
  | some (kind, time) =>
      ∃ window liftedAt, t.windows.forKind kind = some window ∧
        time.add? window = some liftedAt ∧
        ((∃ failures, t.entries.get? id = some ⟨liftedAt, kind, failures⟩) ∨
          (t.entries.get? id = none ∧ ¬ now < liftedAt))

/-- What a tracker stores agrees with a history. -/
def Reflects (t : Tracker) (marks : List Mark) (now : Instant) : Prop :=
  ∀ id, t.ReflectsAt now id (latestFailure id marks)

/-- What is stored of an endpoint is all that agreement at it hangs on. -/
theorem ReflectsAt.congr {t t' : Tracker} {now : Instant} {id : EndpointId}
    {latest : Option (Kind × Instant)} (h : t.ReflectsAt now id latest)
    (hwindows : t'.windows = t.windows) (hget : t'.entries.get? id = t.entries.get? id) :
    t'.ReflectsAt now id latest := by
  cases latest with
  | none => exact hget.trans h
  | some p =>
    obtain ⟨window, liftedAt, hwindow, hadd, hstored⟩ := h
    rw [← hwindows] at hwindow
    rw [← hget] at hstored
    exact ⟨window, liftedAt, hwindow, hadd, hstored⟩

/-- Agreement lasts as time passes. -/
theorem Reflects.mono {t : Tracker} {marks : List Mark} {now later : Instant}
    (h : t.Reflects marks now) (hle : now ≤ later) : t.Reflects marks later := by
  intro id
  have hid := h id
  cases hlatest : latestFailure id marks with
  | none =>
    rw [hlatest] at hid
    exact hid
  | some p =>
    rw [hlatest] at hid
    obtain ⟨window, liftedAt, hwindow, hadd, hstored⟩ := hid
    refine ⟨window, liftedAt, hwindow, hadd, hstored.imp_right fun ⟨hnone, hpassed⟩ => ?_⟩
    refine ⟨hnone, fun hlt => hpassed ?_⟩
    exact Nat.lt_of_le_of_lt hle hlt

/-- A tracker that stores nothing agrees with the history in which nothing
happened. -/
theorem reflects_nil {t : Tracker} (h : t.entries = ∅) (now : Instant) :
    t.Reflects [] now := by
  intro id
  change t.entries.get? id = none
  rw [h, Table.get?_empty]

/-- **Every operation keeps the agreement.** -/
theorem Reflects.told {t t' : Tracker} {marks marks' : List Mark} {now : Instant}
    (h : t.Reflects marks now) (htold : Told now t marks' t') :
    t'.Reflects (marks ++ marks') now := by
  intro id
  have hid := h id
  cases htold with
  | nothing => simpa using hid
  | @failed _ failing kind _ hretriable hrecord =>
    obtain ⟨window, liftedAt, hwindow, hadd, -, rfl⟩ :=
      recordFailure_of_retriable hretriable hrecord
    rw [latestFailure_concat, Mark.after]
    by_cases heq : failing = id
    · -- whatever was stored before, the new entry ends with the new window
      subst heq
      rw [if_pos rfl]
      refine ⟨window, liftedAt, hwindow, hadd,
        Or.inl ⟨(t.suppress failing kind liftedAt).failures, ?_⟩⟩
      rw [Table.get?_insert, if_pos rfl]
      rfl
    · rw [if_neg heq]
      refine hid.congr rfl ?_
      rw [Table.get?_insert, if_neg fun h => heq h.symm]
  | @cleared succeeding =>
    rw [latestFailure_concat, Mark.after]
    by_cases heq : succeeding = id
    · subst heq
      rw [if_pos rfl]
      change (t.recordSuccess succeeding).2.entries.get? succeeding = none
      rw [get?_recordSuccess, if_pos rfl]
    · rw [if_neg heq]
      refine hid.congr rfl ?_
      rw [get?_recordSuccess, if_neg fun h => heq h.symm]
  | purged =>
    rw [List.append_nil]
    cases hlatest : latestFailure id marks with
    | none =>
      rw [hlatest] at hid
      change (t.purge now).2.entries.get? id = none
      have hnone : t.entries.get? id = none := hid
      rw [get?_purge, hnone]
      rfl
    | some p =>
      rw [hlatest] at hid
      obtain ⟨window, liftedAt, hwindow, hadd, ⟨failures, hget⟩ | ⟨hnone, hpassed⟩⟩ := hid
      · refine ⟨window, liftedAt, hwindow, hadd, ?_⟩
        rw [get?_purge, hget]
        -- the entry survives exactly if its window has not passed
        by_cases hactive : now < liftedAt
        · exact Or.inl ⟨failures, by simp [Option.filter, Suppression.isActive, hactive]⟩
        · exact Or.inr ⟨by simp [Option.filter, Suppression.isActive, hactive], hactive⟩
      · refine ⟨window, liftedAt, hwindow, hadd, Or.inr ⟨?_, hpassed⟩⟩
        rw [get?_purge, hnone]
        rfl
  | forgotten =>
    rw [latestFailure_concat, Mark.after]
    rfl

/-- **A tracker that agrees with a history leaves an endpoint alone exactly when
the history says so**, and because of the same failure. -/
theorem Reflects.active? {t : Tracker} {marks : List Mark} {now : Instant}
    (h : t.Reflects marks now) (id : EndpointId) :
    (t.active? id now).map (·.kind) = suppressor t.windows marks id now := by
  have hid := h id
  unfold Tracker.active? suppressor
  cases hlatest : latestFailure id marks with
  | none =>
    rw [hlatest] at hid
    have hnone : t.entries.get? id = none := hid
    rw [hnone]
    rfl
  | some p =>
    obtain ⟨kind, time⟩ := p
    rw [hlatest] at hid
    obtain ⟨window, liftedAt, hwindow, hadd, hstored⟩ := hid
    have hlifted : liftedAt.nanos = time.nanos + window.nanos := Instant.nanos_of_add? hadd
    simp only [hwindow, ← hlifted]
    rcases hstored with ⟨failures, hget⟩ | ⟨hnone, hpassed⟩
    · rw [hget]
      by_cases hactive : now.nanos < liftedAt.nanos
      · have hlt : now < liftedAt := hactive
        simp [Option.filter, Suppression.isActive, hactive, hlt]
      · have hnlt : ¬ now < liftedAt := hactive
        simp [Option.filter, Suppression.isActive, hactive, hnlt]
    · have hnlt : ¬ now.nanos < liftedAt.nanos := hpassed
      rw [hnone, if_neg hnlt]
      rfl

end Tracker

end Failover
