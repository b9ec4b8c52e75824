import Failover.Proofs.Tracker
import Mathlib.Data.List.DropRight

/-!
# What the tracker answers

The tracker is told of failures and successes, at any times and in any order, and is
made to forget everything.  What it says of an endpoint then hangs on one part of this
history: the retriable failures of that endpoint since it last succeeded or everything
was forgotten.  The last of them says until when the endpoint is left alone, and why;
how many there are is counted, as far as the count goes.  Neither the windows of the
earlier ones nor the order of their times matters, nor whether an entry was still in
force when the next failure came.

What is told of one endpoint shows at that endpoint only, so what is told of two of them
can be told in either order; and a failure that is not retriable might as well not have
been told of.

## Main definitions

* `Tracker.Operation`, `Tracker.Answer`, `Tracker.performAll` — telling a tracker.
* `Tracker.failuresOf` — the failures of an endpoint that count.
* `Tracker.entryOf` — what is stored because of them.
* `Tracker.AnswersTo` — what a tracker says that answers to such failures.

## Main results

* `Tracker.Remembers.perform` — every operation keeps the agreement of what is stored
  with the history.
* `Tracker.performAll_swap` — operations on different endpoints commute.
* `Tracker.performAll_filter` — failures that are not retriable can be left out.
* `tracker_answers_history` — **the tracker answers by its history.**
-/

namespace Failover

/-- A kind that is not retriable has no window. -/
theorem CooldownWindows.forKind_eq_none (windows : CooldownWindows) {kind : Kind}
    (hfatal : kind.isRetriable = false) : windows.forKind kind = none := by
  have hkind := windows.forKind_isSome kind
  rwa [hfatal, Option.isSome_eq_false_iff, Option.isNone_iff_eq_none] at hkind

namespace Tracker

/-! ### Telling a tracker -/

/-- What a tracker can be told. -/
inductive Operation where
  /-- An endpoint failed at some time. -/
  | fail (id : EndpointId) (kind : Kind) (time : Instant)
  /-- An endpoint succeeded. -/
  | succeed (id : EndpointId)
  /-- Everything is to be forgotten. -/
  | reset
  deriving DecidableEq

/-- What a tracker answers when it is told something. -/
inductive Answer where
  /-- The end of the window of a failure, if it has one. -/
  | window (liftedAt : Option Instant)
  /-- Whether there was anything to clear. -/
  | cleared (known : Bool)
  /-- Nothing. -/
  | done
  deriving DecidableEq

/-- Tell a tracker something. -/
def perform (t : Tracker) : Operation → Except ClockOverflow (Answer × Tracker)
  | .fail id kind time =>
      (t.recordFailure id kind time).map fun (liftedAt, t) => (.window liftedAt, t)
  | .succeed id => .ok (.cleared (t.recordSuccess id).1, (t.recordSuccess id).2)
  | .reset => .ok (.done, t.reset)

/-- Tell a tracker several things, one after the other. -/
def performAll (t : Tracker) : List Operation → Except ClockOverflow (List Answer × Tracker)
  | [] => .ok ([], t)
  | op :: ops => do
      let (answer, t) ← t.perform op
      let (answers, t) ← t.performAll ops
      return (answer :: answers, t)

namespace Operation

/-- The endpoint that an operation is about, if it is about one. -/
def subject? : Operation → Option EndpointId
  | fail id _ _ | succeed id => some id
  | reset => none

/-- Whether the clock can show the end of the window, if there is one. -/
def inRange (windows : CooldownWindows) : Operation → Bool
  | fail _ kind time => (windows.forKind kind).all fun window => (time.add? window).isSome
  | succeed _ | reset => true

/-- A retriable failure that is in range has a window, whose end the clock can show. -/
theorem exists_window {windows : CooldownWindows} {id : EndpointId} {kind : Kind}
    {time : Instant} (hretriable : kind.isRetriable = true)
    (hrange : (fail id kind time).inRange windows = true) :
    ∃ window liftedAt, windows.forKind kind = some window ∧
      time.add? window = some liftedAt := by
  have hkind := windows.forKind_isSome kind
  rw [hretriable] at hkind
  obtain ⟨window, hwindow⟩ := Option.isSome_iff_exists.mp hkind
  rw [inRange, hwindow] at hrange
  obtain ⟨liftedAt, hadd⟩ := Option.isSome_iff_exists.mp hrange
  exact ⟨window, liftedAt, hwindow, hadd⟩

/-- Whether an operation is anything but a failure that is not retriable. -/
def counts : Operation → Bool
  | fail _ kind _ => kind.isRetriable
  | succeed _ | reset => true

/-- Whether an endpoint is clear after an operation, whatever was before. -/
def clears (id : EndpointId) : Operation → Bool
  | fail _ _ _ => false
  | succeed id' => id' = id
  | reset => true

/-- The failure of an endpoint that an operation tells of, if it is a retriable one. -/
def failure? (id : EndpointId) : Operation → Option (Kind × Instant)
  | fail id' kind time => if id' = id ∧ kind.isRetriable = true then some (kind, time) else none
  | succeed _ | reset => none

end Operation

/-- The retriable failures of an endpoint after its last success and after everything
was last forgotten, with their times. -/
def failuresOf (id : EndpointId) (ops : List Operation) : List (Kind × Instant) :=
  (ops.rtakeWhile fun op => !op.clears id).filterMap (·.failure? id)

theorem failuresOf_concat (id : EndpointId) (ops : List Operation) (op : Operation) :
    failuresOf id (ops ++ [op]) =
      if op.clears id then [] else failuresOf id ops ++ (op.failure? id).toList := by
  unfold failuresOf
  rw [List.rtakeWhile_concat]
  cases hclears : op.clears id with
  | true => rfl
  | false =>
    rw [Bool.not_false, if_pos rfl, if_neg Bool.false_ne_true, List.filterMap_append]
    cases hfailure : op.failure? id <;> simp [hfailure]

/-! ### What is stored because of failures -/

/-- What is stored of an endpoint that had some failures since it was last clear. -/
def entryOf (windows : CooldownWindows) (failures : List (Kind × Instant)) :
    Option Suppression := do
  let (kind, time) ← failures.getLast?
  let window ← windows.forKind kind
  let liftedAt ← time.add? window
  return ⟨liftedAt, kind, min failures.length maxFailures⟩

/-- Failures that have windows, whose ends the clock can show. -/
def InReach (windows : CooldownWindows) (failures : List (Kind × Instant)) : Prop :=
  ∀ failure ∈ failures, ∃ window liftedAt, windows.forKind failure.1 = some window ∧
    failure.2.add? window = some liftedAt

section Entries

variable {windows : CooldownWindows} {failures : List (Kind × Instant)}

@[simp] theorem entryOf_nil : entryOf windows [] = none := rfl

theorem entryOf_concat {kind : Kind} {time liftedAt : Instant} {window : Span}
    (hwindow : windows.forKind kind = some window) (hadd : time.add? window = some liftedAt) :
    entryOf windows (failures ++ [(kind, time)]) =
      some ⟨liftedAt, kind, min (failures.length + 1) maxFailures⟩ := by
  simp [entryOf, hwindow, hadd]

/-- What is stored because of failures in reach: nothing if there are none, and else an
entry that counts them. -/
theorem InReach.entryOf_cases (h : InReach windows failures) :
    (failures = [] ∧ entryOf windows failures = none) ∨
    (failures ≠ [] ∧ ∃ s, entryOf windows failures = some s ∧
      s.failures = min failures.length maxFailures) := by
  rcases List.eq_nil_or_concat failures with rfl | ⟨earlier, ⟨kind, time⟩, rfl⟩
  · exact Or.inl ⟨rfl, rfl⟩
  · rw [List.concat_eq_append] at h ⊢
    obtain ⟨window, liftedAt, hwindow, hadd⟩ := h (kind, time) (by simp)
    refine Or.inr ⟨by simp, _, entryOf_concat hwindow hadd, ?_⟩
    rw [List.length_append, List.length_singleton]

end Entries

/-- The failures of a history that is in range are in reach. -/
theorem inReach_failuresOf {windows : CooldownWindows} {ops : List Operation}
    (hrange : ∀ op ∈ ops, op.inRange windows = true) (id : EndpointId) :
    InReach windows (failuresOf id ops) := by
  intro failure hmem
  obtain ⟨op, hop, hfailure⟩ := List.mem_filterMap.mp hmem
  have hin := hrange op ((List.rtakeWhile_suffix _ _).subset hop)
  cases op with
  | succeed id' => cases hfailure
  | reset => cases hfailure
  | fail id' kind time =>
    simp only [Operation.failure?] at hfailure
    split at hfailure
    next hboth =>
      cases hfailure
      exact Operation.exists_window hboth.2 hin
    next => cases hfailure

/-- What is told of one endpoint does not add to the failures of another. -/
theorem failuresOf_concat_of_ne {id a : EndpointId} {op : Operation}
    (hsubject : op.subject? = some id) (hne : a ≠ id) (ops : List Operation) :
    failuresOf a (ops ++ [op]) = failuresOf a ops := by
  rw [failuresOf_concat]
  cases op with
  | reset => cases hsubject
  | succeed id' =>
    cases hsubject
    simp [Operation.clears, Operation.failure?, Ne.symm hne]
  | fail id' kind time =>
    cases hsubject
    simp [Operation.clears, Operation.failure?, Ne.symm hne]

/-! ### What an operation does at its endpoint -/

/-- The tracker with something else stored of an endpoint. -/
def store (t : Tracker) (id : EndpointId) (stored : Option Suppression) : Tracker :=
  { t with
    entries := match stored with
      | some s => t.entries.insert id s
      | none => t.entries.erase id }

theorem get?_store (t : Tracker) (id a : EndpointId) (stored : Option Suppression) :
    (t.store id stored).entries.get? a = if a = id then stored else t.entries.get? a := by
  cases stored with
  | none => exact Table.get?_erase t.entries id a
  | some s => exact Table.get?_insert t.entries id a s

@[simp] theorem windows_store (t : Tracker) (id : EndpointId) (stored : Option Suppression) :
    (t.store id stored).windows = t.windows := rfl

/-- Trackers with the same windows that store the same of every endpoint are the same. -/
theorem ext_get? {t t' : Tracker} (hwindows : t.windows = t'.windows)
    (hget : ∀ id, t.entries.get? id = t'.entries.get? id) : t = t' := by
  obtain ⟨windows, entries⟩ := t
  obtain ⟨windows', entries'⟩ := t'
  obtain rfl : windows = windows' := hwindows
  obtain rfl : entries = entries' := Table.ext_get? hget
  rfl

theorem store_get? (t : Tracker) (id : EndpointId) : t.store id (t.entries.get? id) = t := by
  refine ext_get? rfl fun a => ?_
  rw [get?_store]
  split
  next ha => rw [ha]
  next => rfl

theorem store_comm (t : Tracker) {id id' : EndpointId} (hne : id ≠ id')
    (stored stored' : Option Suppression) :
    (t.store id stored).store id' stored' = (t.store id' stored').store id stored := by
  refine ext_get? rfl fun a => ?_
  rw [get?_store, get?_store, get?_store, get?_store]
  by_cases ha : a = id
  · have ha' : a ≠ id' := fun h => hne (ha.symm.trans h)
    rw [if_pos ha, if_pos ha, if_neg ha']
  · rw [if_neg ha, if_neg ha]

/-- What an operation on an endpoint answers and leaves stored there, given what was
stored. -/
def Operation.effect (windows : CooldownWindows) (stored : Option Suppression) :
    Operation → Except ClockOverflow (Answer × Option Suppression)
  | fail _ kind time =>
      match windows.forKind kind with
      | none => .ok (.window none, stored)
      | some window =>
          match time.add? window with
          | none => .error {}
          | some liftedAt =>
              let before := (stored.map (·.failures)).getD 0
              .ok (.window (some liftedAt), some ⟨liftedAt, kind, min (before + 1) maxFailures⟩)
  | succeed _ => .ok (.cleared stored.isSome, none)
  | reset => .ok (.done, none)

/-- **An operation on an endpoint sees and changes what is stored of it, and nothing
else.** -/
theorem perform_eq (t : Tracker) {op : Operation} {id : EndpointId}
    (hsubject : op.subject? = some id) :
    t.perform op =
      (op.effect t.windows (t.entries.get? id)).map fun p => (p.1, t.store id p.2) := by
  cases op with
  | reset => cases hsubject
  | succeed id' =>
    cases hsubject
    rfl
  | fail id' kind time =>
    cases hsubject
    cases hwindow : t.windows.forKind kind with
    | none => simp only [perform, recordFailure, Operation.effect, hwindow, Except.map, store_get?]
    | some window =>
      cases hadd : time.add? window with
      | none => simp only [perform, recordFailure, Operation.effect, hwindow, hadd, Except.map]
      | some liftedAt =>
        have hsuppress : t.suppress id kind liftedAt = ⟨liftedAt, kind,
            min (((t.entries.get? id).map (·.failures)).getD 0 + 1) maxFailures⟩ := by
          unfold suppress
          cases t.entries.get? id <;> rfl
        simp only [perform, recordFailure, Operation.effect, hwindow, hadd, Except.map, hsuppress,
          store]

theorem perform_eq_ok_iff {t t' : Tracker} {op : Operation} {id : EndpointId} {answer : Answer}
    (hsubject : op.subject? = some id) :
    t.perform op = .ok (answer, t') ↔
      ∃ stored, op.effect t.windows (t.entries.get? id) = .ok (answer, stored) ∧
        t' = t.store id stored := by
  rw [t.perform_eq hsubject]
  cases op.effect t.windows (t.entries.get? id) with
  | error overflow => simp [Except.map]
  | ok p =>
    obtain ⟨answer', stored⟩ := p
    simp only [Except.map, Except.ok.injEq, Prod.mk.injEq]
    constructor
    · rintro ⟨rfl, rfl⟩
      exact ⟨stored, ⟨rfl, rfl⟩, rfl⟩
    · rintro ⟨_, ⟨rfl, rfl⟩, rfl⟩
      exact ⟨rfl, rfl⟩

/-- An operation that is in range leaves what its endpoint's failures say, if that is
what it found. -/
theorem Operation.effect_entryOf {windows : CooldownWindows} {failures : List (Kind × Instant)}
    {op : Operation} {id : EndpointId} (hsubject : op.subject? = some id)
    (hreach : InReach windows failures) (hrange : op.inRange windows = true) :
    ∃ answer, op.effect windows (entryOf windows failures) = .ok (answer, entryOf windows
      (if op.clears id then [] else failures ++ (op.failure? id).toList)) := by
  cases op with
  | reset => cases hsubject
  | succeed id' =>
    cases hsubject
    exact ⟨.cleared (entryOf windows failures).isSome, by simp [effect, clears]⟩
  | fail id' kind time =>
    cases hsubject
    rw [clears, if_neg Bool.false_ne_true]
    cases hkind : kind.isRetriable with
    | false =>
      exact ⟨.window none, by simp [effect, failure?, windows.forKind_eq_none hkind, hkind]⟩
    | true =>
      obtain ⟨window, liftedAt, hwindow, hadd⟩ := exists_window hkind hrange
      -- the entry that was there counts the failures before this one, up to the greatest count
      have hcount : min (((entryOf windows failures).map (·.failures)).getD 0 + 1) maxFailures =
          min (failures.length + 1) maxFailures := by
        rcases hreach.entryOf_cases with ⟨hnil, hnone⟩ | ⟨-, s, hsome, hs⟩
        · rw [hnone, hnil]
          rfl
        · rw [hsome, Option.map_some, Option.getD_some, hs]
          omega
      have hfailure : (fail id kind time).failure? id = some (kind, time) := if_pos ⟨rfl, hkind⟩
      rw [hfailure, Option.toList_some, entryOf_concat hwindow hadd]
      exact ⟨.window (some liftedAt), by simp only [effect, hwindow, hadd, hcount]⟩

/-! ### Agreement with a history -/

/-- A tracker stores what a history says. -/
structure Remembers (t : Tracker) (windows : CooldownWindows) (ops : List Operation) : Prop where
  /-- The windows are the same. -/
  windows_eq : t.windows = windows
  /-- What is stored of an endpoint is there because of its failures. -/
  get?_eq : ∀ id, t.entries.get? id = entryOf windows (failuresOf id ops)

theorem remembers_nil (windows : CooldownWindows) : Remembers { windows } windows [] :=
  ⟨rfl, fun _ => rfl⟩

section Agreement

variable {t : Tracker} {windows : CooldownWindows} {ops : List Operation}

/-- **Every operation that is in range keeps the agreement.** -/
theorem Remembers.perform {op : Operation} (h : t.Remembers windows ops)
    (hrange : ∀ op' ∈ ops ++ [op], op'.inRange windows = true) :
    ∃ answer t', t.perform op = .ok (answer, t') ∧ t'.Remembers windows (ops ++ [op]) := by
  cases hsubject : op.subject? with
  | none =>
    -- everything is forgotten, and no failure is left
    cases op with
    | reset =>
      refine ⟨.done, t.reset, rfl, h.windows_eq, fun a => ?_⟩
      rw [failuresOf_concat, Operation.clears, if_pos rfl]
      rfl
    | fail | succeed => cases hsubject
  | some id =>
    have hreach : InReach windows (failuresOf id ops) :=
      inReach_failuresOf (fun op' hop' => hrange op' (List.mem_append_left _ hop')) id
    obtain ⟨answer, heffect⟩ := Operation.effect_entryOf hsubject hreach (hrange op (by simp))
    rw [← h.get?_eq, ← h.windows_eq] at heffect
    refine ⟨answer, _, (perform_eq_ok_iff hsubject).mpr ⟨_, heffect, rfl⟩, h.windows_eq,
      fun a => ?_⟩
    rw [get?_store]
    by_cases ha : a = id
    · rw [if_pos ha, ha, failuresOf_concat, h.windows_eq]
    · rw [if_neg ha, failuresOf_concat_of_ne hsubject ha]
      exact h.get?_eq a

theorem performAll_cons_iff {op : Operation} {answers : List Answer} {t' : Tracker} :
    t.performAll (op :: ops) = .ok (answers, t') ↔
      ∃ answer t₁ rest, t.perform op = .ok (answer, t₁) ∧
        t₁.performAll ops = .ok (rest, t') ∧ answers = answer :: rest := by
  rw [performAll]
  cases hop : t.perform op with
  | error overflow => simp [bind, Except.bind]
  | ok p =>
    obtain ⟨answer, t₁⟩ := p
    cases hops : t₁.performAll ops with
    | error overflow => simp [bind, Except.bind, hops]
    | ok q =>
      obtain ⟨rest, t₂⟩ := q
      simp only [bind, Except.bind, pure, Except.pure, hops, Except.ok.injEq, Prod.mk.injEq]
      constructor
      · rintro ⟨rfl, rfl⟩
        exact ⟨answer, t₁, rest, ⟨rfl, rfl⟩, hops, rfl⟩
      · rintro ⟨_, _, rest', ⟨rfl, rfl⟩, hrest, rfl⟩
        cases hops.symm.trans hrest
        exact ⟨rfl, rfl⟩

theorem performAll_append_iff {ops' : List Operation} (ops : List Operation) :
    ∀ {t t' : Tracker} {answers : List Answer},
      t.performAll (ops ++ ops') = .ok (answers, t') ↔
        ∃ answers₁ t₁ answers₂, t.performAll ops = .ok (answers₁, t₁) ∧
          t₁.performAll ops' = .ok (answers₂, t') ∧ answers = answers₁ ++ answers₂ := by
  induction ops with
  | nil =>
    intro t t' answers
    constructor
    · intro h
      exact ⟨[], t, answers, rfl, h, rfl⟩
    · rintro ⟨_, _, _, hnil, h, rfl⟩
      cases hnil
      exact h
  | cons op ops ih =>
    intro t t' answers
    rw [List.cons_append, performAll_cons_iff]
    constructor
    · rintro ⟨answer, t₁, _, hop, hrest, rfl⟩
      obtain ⟨answers₁, t₂, answers₂, hops, hops', rfl⟩ := ih.mp hrest
      exact ⟨answer :: answers₁, t₂, answers₂,
        performAll_cons_iff.mpr ⟨answer, t₁, answers₁, hop, hops, rfl⟩, hops', rfl⟩
    · rintro ⟨_, t₂, answers₂, hfirst, hops', rfl⟩
      obtain ⟨answer, t₁, answers₁, hop, hops, rfl⟩ := performAll_cons_iff.mp hfirst
      exact ⟨answer, t₁, answers₁ ++ answers₂, hop, ih.mpr ⟨_, _, _, hops, hops', rfl⟩, rfl⟩

theorem length_of_performAll (ops : List Operation) :
    ∀ {t t' : Tracker} {answers : List Answer}, t.performAll ops = .ok (answers, t') →
      answers.length = ops.length := by
  induction ops with
  | nil =>
    intro t t' answers h
    cases h
    rfl
  | cons op ops ih =>
    intro t t' answers h
    obtain ⟨answer, t₁, rest, -, hrest, rfl⟩ := performAll_cons_iff.mp h
    rw [List.length_cons, List.length_cons, ih hrest]

/-- A tracker that agrees with a history can be told anything that is in range, and then
agrees with what it has been told in all. -/
theorem Remembers.performAll (later : List Operation) :
    ∀ {t : Tracker} {ops : List Operation}, t.Remembers windows ops →
      (∀ op ∈ ops ++ later, op.inRange windows = true) →
      ∃ answers t', t.performAll later = .ok (answers, t') ∧
        t'.Remembers windows (ops ++ later) := by
  induction later with
  | nil =>
    intro t ops h _
    rw [List.append_nil]
    exact ⟨[], t, rfl, h⟩
  | cons op later ih =>
    intro t ops h hrange
    rw [List.append_cons] at hrange ⊢
    obtain ⟨answer, t₁, hop, h₁⟩ :=
      h.perform fun op' hop' => hrange op' (List.mem_append_left _ hop')
    obtain ⟨answers, t', hlater, h'⟩ := ih h₁ hrange
    exact ⟨answer :: answers, t', performAll_cons_iff.mpr ⟨_, _, _, hop, hlater, rfl⟩, h'⟩

end Agreement

/-! ### What does not matter -/

/-- **Operations on different endpoints commute.** -/
theorem performAll_swap {t t' : Tracker} {op op' : Operation} {id id' : EndpointId}
    (hop : op.subject? = some id) (hop' : op'.subject? = some id') (hne : id ≠ id')
    {later : List Operation} {answer answer' : Answer} {answers : List Answer}
    (h : t.performAll (op :: op' :: later) = .ok (answer :: answer' :: answers, t')) :
    t.performAll (op' :: op :: later) = .ok (answer' :: answer :: answers, t') := by
  obtain ⟨_, t₁, _, hfirst, hrest, heq⟩ := performAll_cons_iff.mp h
  cases heq
  obtain ⟨_, t₂, _, hsecond, hlater, heq⟩ := performAll_cons_iff.mp hrest
  cases heq
  obtain ⟨stored, heffect, rfl⟩ := (perform_eq_ok_iff hop).mp hfirst
  obtain ⟨stored', heffect', rfl⟩ := (perform_eq_ok_iff hop').mp hsecond
  rw [windows_store, get?_store, if_neg hne.symm] at heffect'
  have hfirst' : t.perform op' = .ok (answer', t.store id' stored') :=
    (perform_eq_ok_iff hop').mpr ⟨stored', heffect', rfl⟩
  have hsecond' : (t.store id' stored').perform op =
      .ok (answer, (t.store id stored).store id' stored') := by
    refine (perform_eq_ok_iff hop).mpr ⟨stored, ?_, t.store_comm hne stored stored'⟩
    rw [windows_store, get?_store, if_neg hne]
    exact heffect
  exact performAll_cons_iff.mpr ⟨_, _, _, hfirst',
    performAll_cons_iff.mpr ⟨_, _, _, hsecond', hlater, rfl⟩, rfl⟩

/-- A failure that is not retriable changes nothing. -/
theorem perform_of_not_counts (t : Tracker) {op : Operation} (h : op.counts = false) :
    t.perform op = .ok (.window none, t) := by
  cases op with
  | succeed | reset => cases h
  | fail id kind time =>
    simp only [perform, recordFailure, t.windows.forKind_eq_none h, Except.map]

/-- Anything else is answered otherwise. -/
theorem answer_ne_of_counts {t t' : Tracker} {op : Operation} {answer : Answer}
    (h : op.counts = true) (hop : t.perform op = .ok (answer, t')) : answer ≠ .window none := by
  cases op with
  | succeed | reset =>
    cases hop
    intro heq
    cases heq
  | fail id kind time =>
    have hkind := t.windows.forKind_isSome kind
    have hretriable : kind.isRetriable = true := h
    rw [hretriable] at hkind
    obtain ⟨window, hwindow⟩ := Option.isSome_iff_exists.mp hkind
    cases hadd : time.add? window with
    | none => simp [perform, recordFailure, hwindow, hadd, Except.map] at hop
    | some liftedAt =>
      simp only [perform, recordFailure, hwindow, hadd, Except.map] at hop
      cases hop
      intro heq
      cases heq

/-- **Failures that are not retriable can be left out**: the tracker comes out the same,
and whatever else it was told it has answered the same. -/
theorem performAll_filter (ops : List Operation) :
    ∀ {t t' : Tracker} {answers : List Answer}, t.performAll ops = .ok (answers, t') →
      t.performAll (ops.filter (·.counts)) = .ok (answers.filter (· ≠ .window none), t') := by
  induction ops with
  | nil =>
    intro t t' answers h
    cases h
    rfl
  | cons op ops ih =>
    intro t t' answers h
    obtain ⟨answer, t₁, rest, hop, hrest, rfl⟩ := performAll_cons_iff.mp h
    cases hcounts : op.counts with
    | false =>
      rw [t.perform_of_not_counts hcounts] at hop
      cases hop
      rw [List.filter_cons_of_neg (by simp [hcounts]), List.filter_cons_of_neg (by simp)]
      exact ih hrest
    | true =>
      have hne := answer_ne_of_counts hcounts hop
      rw [List.filter_cons_of_pos hcounts, List.filter_cons_of_pos (by simpa using hne)]
      exact performAll_cons_iff.mpr ⟨_, _, _, hop, ih hrest, rfl⟩

/-! ### The answers -/

/-- What a tracker says, and what it answers, if these are the failures of the
endpoints. -/
structure AnswersTo (t : Tracker) (windows : CooldownWindows)
    (failures : EndpointId → List (Kind × Instant)) : Prop where
  /-- An endpoint without failures is not left alone, at any time. -/
  active?_of_nil : ∀ id now, failures id = [] → t.active? id now = none
  /-- Any other is left alone until the window of its last failure has passed, for its
  kind, and with the count of all of them, up to the greatest. -/
  active?_of_last : ∀ id now earlier kind time, failures id = earlier ++ [(kind, time)] →
    ∃ window liftedAt, windows.forKind kind = some window ∧ time.add? window = some liftedAt ∧
      t.active? id now =
        if now < liftedAt then some ⟨liftedAt, kind, min (earlier.length + 1) maxFailures⟩
        else none
  /-- An endpoint may be called exactly if it is not left alone. -/
  isEligible_iff : ∀ id now, t.isEligible id now = true ↔ t.active? id now = none
  /-- A retriable failure that is in range is answered with the end of its window. -/
  recordFailure_of_retriable : ∀ id kind now, kind.isRetriable = true →
    (Operation.fail id kind now).inRange windows = true →
      ∃ window liftedAt t', windows.forKind kind = some window ∧
        now.add? window = some liftedAt ∧ t.recordFailure id kind now = .ok (some liftedAt, t')
  /-- Any other failure is answered with nothing, and changes nothing. -/
  recordFailure_of_not_retriable : ∀ id kind now, kind.isRetriable = false →
    t.recordFailure id kind now = .ok (none, t)
  /-- A success is answered by whether there were failures. -/
  recordSuccess_iff : ∀ id, (t.recordSuccess id).1 = true ↔ failures id ≠ []

/-- A tracker that agrees with a history answers by it. -/
theorem Remembers.answersTo {t : Tracker} {windows : CooldownWindows} {ops : List Operation}
    (h : t.Remembers windows ops) (hrange : ∀ op ∈ ops, op.inRange windows = true) :
    t.AnswersTo windows fun id => failuresOf id ops where
  active?_of_nil id now hnil := by
    rw [active?, h.get?_eq, hnil]
    rfl
  active?_of_last id now earlier kind time hlast := by
    have hreach := inReach_failuresOf hrange id
    rw [hlast] at hreach
    obtain ⟨window, liftedAt, hwindow, hadd⟩ := hreach (kind, time) (by simp)
    refine ⟨window, liftedAt, hwindow, hadd, ?_⟩
    rw [active?, h.get?_eq, hlast, entryOf_concat hwindow hadd]
    by_cases hlt : now < liftedAt <;> simp [Option.filter, Suppression.isActive, hlt]
  isEligible_iff id now := by
    rw [isEligible, Option.isNone_iff_eq_none]
  recordFailure_of_retriable id kind now hretriable hin := by
    obtain ⟨window, liftedAt, hwindow, hadd⟩ := Operation.exists_window hretriable hin
    refine ⟨window, liftedAt,
      { t with entries := t.entries.insert id (t.suppress id kind liftedAt) }, hwindow, hadd, ?_⟩
    simp only [recordFailure, h.windows_eq, hwindow, hadd]
  recordFailure_of_not_retriable id kind now hfatal := by
    simp only [recordFailure, t.windows.forKind_eq_none hfatal]
  recordSuccess_iff id := by
    change (t.entries.get? id).isSome = true ↔ _
    rw [h.get?_eq]
    rcases (inReach_failuresOf hrange id).entryOf_cases with ⟨hnil, hnone⟩ | ⟨hne, s, hsome, -⟩
    · simp [hnil]
    · simp [hne, hsome]

end Tracker

/-- **The tracker answers by its history.**  Take any windows and any history that is in
range: failures of any kinds, at any times in any order, successes, and forgetting
everything.  A tracker can be told all of it, and then

* answers by the retriable failures of each endpoint since that was last clear;
* would have come out the same, and would have answered each operation the same, if two
  operations on different endpoints had been told in the other order;
* would have come out the same, and would have answered the others the same, without the
  failures that are not retriable. -/
theorem tracker_answers_history {windows : CooldownWindows} {ops : List Tracker.Operation}
    (hrange : ∀ op ∈ ops, op.inRange windows = true) :
    ∃ answers t, ({ windows } : Tracker).performAll ops = .ok (answers, t) ∧
      t.AnswersTo windows (fun id => Tracker.failuresOf id ops) ∧
      (∀ earlier op op' later id id', ops = earlier ++ op :: op' :: later →
        op.subject? = some id → op'.subject? = some id' → id ≠ id' →
          ∃ before answer answer' after, answers = before ++ answer :: answer' :: after ∧
            before.length = earlier.length ∧
            ({ windows } : Tracker).performAll (earlier ++ op' :: op :: later) =
              .ok (before ++ answer' :: answer :: after, t)) ∧
      ({ windows } : Tracker).performAll (ops.filter (·.counts)) =
        .ok (answers.filter (· ≠ .window none), t) := by
  obtain ⟨answers, t, hops, hremembers⟩ :=
    (Tracker.remembers_nil windows).performAll ops (by simpa using hrange)
  rw [List.nil_append] at hremembers
  refine ⟨answers, t, hops, hremembers.answersTo hrange, ?_, Tracker.performAll_filter ops hops⟩
  intro earlier op op' later id id' hsplit hop hop' hne
  rw [hsplit] at hops
  obtain ⟨before, t₁, rest, hearlier, hrest, rfl⟩ := (Tracker.performAll_append_iff earlier).mp hops
  have hlength := Tracker.length_of_performAll _ hrest
  match rest with
  | answer :: answer' :: after =>
    have hswapped := Tracker.performAll_swap hop hop' hne hrest
    exact ⟨before, answer, answer', after, rfl, Tracker.length_of_performAll earlier hearlier,
      (Tracker.performAll_append_iff earlier).mpr ⟨before, t₁, _, hearlier, hswapped, rfl⟩⟩
  | [] | [_] => simp at hlength

/-- A history in which the clock goes back and the window gets shorter. -/
def relapse : List Tracker.Operation :=
  [.fail ⟨"a"⟩ .rateLimit ⟨100 * nanosPerSecond, by decide⟩,
   .succeed ⟨"b"⟩,
   .fail ⟨"a"⟩ .formatError ⟨10 * nanosPerSecond, by decide⟩,
   .fail ⟨"a"⟩ .timeout ⟨20 * nanosPerSecond, by decide⟩]

/-- Its endpoint is left alone because of the timeout alone, which is its second failure. -/
theorem tracker_answers_history_relapse :
    ∃ t, ({ windows := .standard } : Tracker).performAll relapse =
        .ok ([.window (some ⟨160 * nanosPerSecond, by decide⟩), .cleared false, .window none,
          .window (some ⟨50 * nanosPerSecond, by decide⟩)], t) ∧
      Tracker.failuresOf ⟨"a"⟩ relapse = [(.rateLimit, ⟨100 * nanosPerSecond, by decide⟩),
        (.timeout, ⟨20 * nanosPerSecond, by decide⟩)] ∧
      t.AnswersTo .standard fun id => Tracker.failuresOf id relapse := by
  have hrange : ∀ op ∈ relapse, op.inRange .standard = true := by decide
  obtain ⟨answers, t, hops, hanswers, -⟩ := tracker_answers_history hrange
  have hsaid : (({ windows := .standard } : Tracker).performAll relapse).map (·.1) =
      .ok [.window (some ⟨160 * nanosPerSecond, by decide⟩), .cleared false, .window none,
        .window (some ⟨50 * nanosPerSecond, by decide⟩)] := by
    rfl
  rw [hops] at hsaid
  obtain rfl := Except.ok.inj hsaid
  exact ⟨t, hops, by decide, hanswers⟩

end Failover
