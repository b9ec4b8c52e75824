import Mathlib.Data.List.Forall2
import Failover.Proofs.Histories
import Failover.Proofs.Snapshots

/-!
# Purges go unnoticed

What is not in force any more can be purged at any time, or never.  A tracker that was
purged on the way stores less than one that was not, and counts less: a failure that
comes after the purge begins a new count where the other tracker counts on.  But at any
time from the last of the purges on, both leave the same endpoints alone, until the same
time and for the same kind.

The two trackers are compared entry by entry.  Where one of them was purged an entry may
be missing, and then its window had passed at the time of one of the purges
(`Tracker.Thinned`).  Every operation on both of them keeps this, and so does a purge of
the one.

## Main definitions

* `Tracker.Deed`, `Tracker.afterAll` — what is done to a tracker, purges included.
* `Tracker.Moment`, `Tracker.plain`, `Tracker.withPurges` — a history into which purges
  are inserted, without them and with them.
* `Tracker.ThinnedBy` — what inserted purges can make of a tracker.
* `Tracker.ShowsAlike` — the agreement of what two trackers say at some time.

## Main results

* `Tracker.thinnedBy_afterAll` — inserted purges make nothing else of a tracker.
* `purges_unnoticed` — **purging is invisible to routing.**
-/

namespace Failover

/-- Tables with related values at every key have related rows, one by one. -/
theorem Table.forall₂_rows {κ ν : Type} [Key κ] {R : ν → ν → Prop} {t u : Table κ ν}
    (h : ∀ k, Option.Rel R (t.get? k) (u.get? k)) :
    List.Forall₂ (fun row row' => row.1 = row'.1 ∧ R row.2 row'.2) t.rows u.rows := by
  -- the rows of `t`, each with the value that `u` has at its key, are those of `u`
  let value : κ × ν → κ × ν := fun row => (row.1, (u.get? row.1).getD row.2)
  let v : Table κ ν := ⟨t.rows.map value, List.pairwise_map.mpr t.ascending⟩
  have hv : v = u := by
    refine Table.ext_get? fun k => Option.ext fun a => ?_
    rw [Table.get?_eq_some_iff, List.mem_map]
    constructor
    · rintro ⟨⟨k', s⟩, hmem, heq⟩
      obtain ⟨rfl, rfl⟩ := Prod.mk.inj heq
      have hk := h k'
      rw [Table.get?_eq_some_iff.mpr hmem] at hk
      cases hu : u.get? k' with
      | none => rw [hu] at hk; cases hk
      | some s' => rfl
    · intro hu
      have hk := h k
      rw [hu] at hk
      cases ht : t.get? k with
      | none => rw [ht] at hk; cases hk
      | some s =>
        refine ⟨(k, s), Table.get?_eq_some_iff.mp ht, ?_⟩
        simp only [value, hu, Option.getD_some]
  rw [← hv]
  refine List.forall₂_map_right_iff.mpr (List.forall₂_same.mpr fun row hmem => ⟨rfl, ?_⟩)
  have hk := h row.1
  rw [Table.get?_eq_some_iff.mpr hmem] at hk
  cases hu : u.get? row.1 with
  | none => rw [hu] at hk; cases hk
  | some s' =>
    rw [hu] at hk
    cases hk with
    | some hrel => simpa only [value, hu, Option.getD_some] using hrel

/-- Two suppressions that differ in their counts at most, of which the first has not the
greater one. -/
structure Suppression.LagsBehind (s s' : Suppression) : Prop where
  /-- They end at the same time. -/
  liftedAt_eq : s.liftedAt = s'.liftedAt
  /-- They are there for the same kind. -/
  kind_eq : s.kind = s'.kind
  /-- The first one counts no more failures. -/
  failures_le : s.failures ≤ s'.failures

namespace Suppression.LagsBehind

variable {s s' : Suppression} {stored stored' : Option Suppression}

theorem isActive_eq (h : s.LagsBehind s') (now : Instant) : s.isActive now = s'.isActive now := by
  rw [isActive, isActive, h.liftedAt_eq]

theorem isNone_eq (h : Option.Rel LagsBehind stored stored') : stored.isNone = stored'.isNone := by
  cases h <;> rfl

theorem map_eq (h : Option.Rel LagsBehind stored stored') :
    stored.map (fun s => (s.liftedAt, s.kind)) = stored'.map fun s => (s.liftedAt, s.kind) := by
  cases h with
  | none => rfl
  | some hlags => rw [Option.map_some, Option.map_some, hlags.liftedAt_eq, hlags.kind_eq]

end Suppression.LagsBehind

namespace Tracker

/-! ### Histories with purges -/

/-- Something that is done to a tracker. -/
inductive Deed where
  /-- It is told something. -/
  | tell (op : Operation)
  /-- What is not in force at some time is forgotten. -/
  | purge (time : Instant)

/-- A tracker after something was done to it.  It stays as it was when it was told of a
failure whose window ends beyond what the clock can show. -/
def afterDeed (t : Tracker) : Deed → Tracker
  | .tell op =>
      match t.perform op with
      | .ok (_, t') => t'
      | .error _ => t
  | .purge time => (t.purge time).2

/-- A tracker after several things were done to it, one after the other. -/
def afterAll (t : Tracker) (deeds : List Deed) : Tracker := deeds.foldl afterDeed t

/-- What a tracker answers if it is told of a failure. -/
def failureAnswer? (t : Tracker) : Deed → Option (Except ClockOverflow (Option Instant))
  | .tell (.fail id kind time) => some ((t.recordFailure id kind time).map (·.1))
  | .tell (.succeed _) | .tell .reset | .purge _ => none

/-- What a tracker answers to the failures that it is told of, one after the other. -/
def failureAnswers (t : Tracker) : List Deed → List (Except ClockOverflow (Option Instant))
  | [] => []
  | deed :: deeds => (t.failureAnswer? deed).toList ++ (t.afterDeed deed).failureAnswers deeds

/-- A moment of a history into which purges are inserted. -/
inductive Moment where
  /-- Something is done that belongs to the history. -/
  | own (deed : Deed)
  /-- A purge is inserted. -/
  | inserted (time : Instant)

/-- A history without what is inserted. -/
def plain (moments : List Moment) : List Deed :=
  moments.filterMap fun
    | .own deed => some deed
    | .inserted _ => none

/-- A history together with what is inserted. -/
def withPurges (moments : List Moment) : List Deed :=
  moments.map fun
    | .own deed => deed
    | .inserted time => .purge time

/-- The times of the inserted purges. -/
def insertedTimes (moments : List Moment) : List Instant :=
  moments.filterMap fun
    | .own _ => none
    | .inserted time => some time

/-- No deed changes the windows. -/
theorem windows_afterDeed (t : Tracker) (deed : Deed) : (t.afterDeed deed).windows = t.windows := by
  cases deed with
  | purge time => rfl
  | tell op =>
    cases hsubject : op.subject? with
    | none =>
      cases op with
      | reset => rfl
      | fail | succeed => cases hsubject
    | some id =>
      rw [afterDeed, t.perform_eq hsubject]
      cases op.effect t.windows (t.entries.get? id) <;> rfl

/-! ### One entry -/

/-- What may be stored of an endpoint after purges at some times, against what would be
stored without them: an entry that has counted less, or none where the window has passed
at one of the times. -/
inductive Thinned (times : List Instant) : Option Suppression → Option Suppression → Prop
  /-- Nothing is stored with or without them. -/
  | missing : Thinned times none none
  /-- An entry is stored with and without them. -/
  | kept {s s' : Suppression} (hlags : s.LagsBehind s') : Thinned times (some s) (some s')
  /-- An entry was purged. -/
  | purged {s : Suppression} {time : Instant} (hmem : time ∈ times)
      (hpassed : s.isActive time = false) : Thinned times none (some s)

namespace Thinned

variable {times : List Instant} {stored stored' : Option Suppression}

theorem refl (times : List Instant) : ∀ stored : Option Suppression, Thinned times stored stored
  | none => missing
  | some _ => kept ⟨rfl, rfl, Nat.le_refl _⟩

/-- The times may be listed in another order, or further ones with them. -/
theorem mono {times' : List Instant} (h : Thinned times stored stored')
    (hsubset : times ⊆ times') : Thinned times' stored stored' := by
  cases h with
  | missing => exact missing
  | kept hlags => exact kept hlags
  | purged hmem hpassed => exact purged (hsubset hmem) hpassed

/-- A purge of both. -/
theorem filter (h : Thinned times stored stored') (now : Instant) :
    Thinned times (stored.filter (·.isActive now)) (stored'.filter (·.isActive now)) := by
  cases h with
  | missing => exact missing
  | @kept s s' hlags =>
    rw [Option.filter, Option.filter, hlags.isActive_eq now]
    split
    · exact kept hlags
    · exact missing
  | @purged s time hmem hpassed =>
    rw [Option.filter_none, Option.filter]
    split
    · exact purged hmem hpassed
    · exact missing

/-- A purge of the one. -/
theorem filter_left (h : Thinned times stored stored') (time : Instant) :
    Thinned (time :: times) (stored.filter (·.isActive time)) stored' := by
  cases h with
  | missing => exact missing
  | @kept s s' hlags =>
    rw [Option.filter]
    cases hactive : s.isActive time with
    | true => exact kept hlags
    | false => exact purged List.mem_cons_self (hlags.isActive_eq time ▸ hactive)
  | purged hmem hpassed => exact purged (List.mem_cons_of_mem _ hmem) hpassed

/-- From the last of the times on, the same is in force. -/
theorem rel_filter (h : Thinned times stored stored') {now : Instant}
    (hnow : ∀ time ∈ times, time ≤ now) :
    Option.Rel Suppression.LagsBehind
      (stored.filter (·.isActive now)) (stored'.filter (·.isActive now)) := by
  cases h with
  | missing => exact .none
  | @kept s s' hlags =>
    rw [Option.filter, Option.filter, hlags.isActive_eq now]
    split
    · exact .some hlags
    · exact .none
  | @purged s time hmem hpassed =>
    have hactive : s.isActive now = false := by
      by_contra hstill
      have hthen := Suppression.isActive_of_le (hnow time hmem) (eq_true_of_ne_false hstill)
      rw [hpassed] at hthen
      cases hthen
    rw [Option.filter_none, Option.filter_some, hactive]
    exact .none

/-- An operation on an endpoint does the same with and without purges, but for what it
says of what was stored. -/
theorem effect (h : Thinned times stored stored') (windows : CooldownWindows)
    {op : Operation} {id : EndpointId} (hsubject : op.subject? = some id) :
    (op.effect windows stored = .error {} ∧ op.effect windows stored' = .error {}) ∨
    ∃ answer left answer' left', op.effect windows stored = .ok (answer, left) ∧
      op.effect windows stored' = .ok (answer', left') ∧ Thinned times left left' := by
  cases op with
  | reset => cases hsubject
  | succeed => exact Or.inr ⟨_, _, _, _, rfl, rfl, missing⟩
  | fail id' kind time =>
    cases hwindow : windows.forKind kind with
    | none =>
      simp only [Operation.effect, hwindow]
      exact Or.inr ⟨_, _, _, _, rfl, rfl, h⟩
    | some window =>
      cases hadd : time.add? window with
      | none => exact Or.inl (by simp only [Operation.effect, hwindow, hadd, and_self])
      | some liftedAt =>
        simp only [Operation.effect, hwindow, hadd]
        -- the new entries differ in their counts alone, which go on from the old ones
        have hcount : (stored.map (·.failures)).getD 0 ≤ (stored'.map (·.failures)).getD 0 := by
          cases h with
          | missing => exact Nat.le_refl _
          | kept hlags => exact hlags.failures_le
          | purged => exact Nat.zero_le _
        refine Or.inr ⟨_, _, _, _, rfl, rfl, kept ⟨rfl, rfl, ?_⟩⟩
        have hsucc := Nat.add_le_add_right hcount 1
        exact Nat.le_min.mpr ⟨Nat.le_trans (Nat.min_le_left _ _) hsucc, Nat.min_le_right _ _⟩

end Thinned

/-! ### The whole tracker -/

/-- What a tracker may be after purges at some times, against what it would be without
them. -/
structure ThinnedBy (times : List Instant) (t t' : Tracker) : Prop where
  /-- The windows are the same. -/
  windows_eq : t.windows = t'.windows
  /-- Every entry is there, or was purged. -/
  entries : ∀ id, Thinned times (t.entries.get? id) (t'.entries.get? id)

namespace ThinnedBy

variable {times : List Instant} {t t' : Tracker}

theorem refl (times : List Instant) (t : Tracker) : ThinnedBy times t t :=
  ⟨rfl, fun id => Thinned.refl times (t.entries.get? id)⟩

/-- What is done to both. -/
theorem afterDeed (h : ThinnedBy times t t') (deed : Deed) :
    ThinnedBy times (t.afterDeed deed) (t'.afterDeed deed) := by
  refine ⟨by rw [windows_afterDeed, windows_afterDeed, h.windows_eq], fun a => ?_⟩
  cases deed with
  | purge time =>
    rw [Tracker.afterDeed, Tracker.afterDeed, get?_purge, get?_purge]
    exact (h.entries a).filter time
  | tell op =>
    cases hsubject : op.subject? with
    | none =>
      cases op with
      | reset => exact Thinned.missing
      | fail | succeed => cases hsubject
    | some id =>
      rw [Tracker.afterDeed, Tracker.afterDeed, t.perform_eq hsubject, t'.perform_eq hsubject,
        h.windows_eq]
      rcases (h.entries id).effect t'.windows hsubject with
        ⟨hover, hover'⟩ | ⟨answer, left, answer', left', hok, hok', hleft⟩
      · rw [hover, hover']
        exact h.entries a
      · rw [hok, hok']
        change Thinned times ((t.store id left).entries.get? a) ((t'.store id left').entries.get? a)
        rw [get?_store, get?_store]
        by_cases ha : a = id
        · rw [if_pos ha, if_pos ha]
          exact hleft
        · rw [if_neg ha, if_neg ha]
          exact h.entries a

/-- A purge of the one. -/
theorem purge_left (h : ThinnedBy times t t') (time : Instant) :
    ThinnedBy (time :: times) (t.purge time).2 t' := by
  refine ⟨h.windows_eq, fun id => ?_⟩
  rw [get?_purge]
  exact (h.entries id).filter_left time

end ThinnedBy

/-- Purges that are inserted into a history leave less, but nothing else. -/
theorem thinnedBy_afterAll (moments : List Moment) :
    ∀ {times : List Instant} {t t' : Tracker}, ThinnedBy times t t' →
      ThinnedBy (insertedTimes moments ++ times) (t.afterAll (withPurges moments))
        (t'.afterAll (plain moments)) := by
  induction moments with
  | nil => exact id
  | cons moment moments ih =>
    intro times t t' h
    cases moment with
    | own deed => exact ih (h.afterDeed deed)
    | inserted time =>
      have hrest := ih (h.purge_left time)
      exact ⟨hrest.windows_eq, fun id => (hrest.entries id).mono List.perm_middle.subset⟩

/-! ### What is said -/

/-- What is answered to a failure hangs on the windows alone. -/
theorem failureAnswer?_congr {t t' : Tracker} (hwindows : t.windows = t'.windows) (deed : Deed) :
    t.failureAnswer? deed = t'.failureAnswer? deed := by
  cases deed with
  | purge => rfl
  | tell op =>
    cases op with
    | succeed | reset => rfl
    | fail id kind time =>
      cases hwindow : t'.windows.forKind kind with
      | none => simp only [failureAnswer?, recordFailure, hwindows, hwindow, Except.map]
      | some window =>
        cases hadd : time.add? window <;>
          simp only [failureAnswer?, recordFailure, hwindows, hwindow, hadd, Except.map]

/-- Inserted purges do not show in the answers to failures. -/
theorem failureAnswers_withPurges (moments : List Moment) :
    ∀ {t t' : Tracker}, t.windows = t'.windows →
      t.failureAnswers (withPurges moments) = t'.failureAnswers (plain moments) := by
  induction moments with
  | nil => intro t t' _; rfl
  | cons moment moments ih =>
    intro t t' hwindows
    cases moment with
    | inserted time => exact ih hwindows
    | own deed =>
      have hafter : (t.afterDeed deed).windows = (t'.afterDeed deed).windows := by
        rw [windows_afterDeed, windows_afterDeed, hwindows]
      have hanswer := failureAnswer?_congr hwindows deed
      exact congrArg₂ (fun answer answers => answer.toList ++ answers) hanswer (ih hafter)

/-- What a tracker says at some time against what another one says, where the first may
have counted less. -/
structure ShowsAlike (t t' : Tracker) (now : Instant) : Prop where
  /-- They let the same endpoints be called. -/
  isEligible_eq : ∀ id, t.isEligible id now = t'.isEligible id now
  /-- They leave an endpoint alone until the same time and for the same kind. -/
  active?_eq : ∀ id, (t.active? id now).map (fun s => (s.liftedAt, s.kind)) =
    (t'.active? id now).map fun s => (s.liftedAt, s.kind)
  /-- The first one counts no more failures. -/
  failures_le : ∀ id s s', t.active? id now = some s → t'.active? id now = some s' →
    s.failures ≤ s'.failures
  /-- Their snapshots have the same rows in the same order, but for the counts. -/
  snapshot : List.Forall₂ (fun row row' => row.endpoint = row'.endpoint ∧ row.kind = row'.kind ∧
    row.remaining = row'.remaining ∧ row.failures ≤ row'.failures) (t.snapshot now)
    (t'.snapshot now)

/-- From the last of the purges on, a purged tracker says what it would say without
them. -/
theorem ThinnedBy.showsAlike {times : List Instant} {t t' : Tracker} (h : ThinnedBy times t t')
    {now : Instant} (hnow : ∀ time ∈ times, time ≤ now) : t.ShowsAlike t' now := by
  have hrel : ∀ id, Option.Rel Suppression.LagsBehind (t.active? id now) (t'.active? id now) :=
    fun id => (h.entries id).rel_filter hnow
  constructor
  case isEligible_eq => exact fun id => Suppression.LagsBehind.isNone_eq (hrel id)
  case active?_eq => exact fun id => Suppression.LagsBehind.map_eq (hrel id)
  case failures_le =>
    intro id s s' hs hs'
    have hid := hrel id
    rw [hs, hs'] at hid
    cases hid with
    | some hlags => exact hlags.failures_le
  case snapshot =>
    have hrows : List.Forall₂ _ (t.purge now).2.entries.rows (t'.purge now).2.entries.rows :=
      Table.forall₂_rows (R := Suppression.LagsBehind) fun id => by
        rw [get?_purge_eq_active?, get?_purge_eq_active?]
        exact hrel id
    rw [snapshot_eq, snapshot_eq, List.forall₂_map_left_iff, List.forall₂_map_right_iff]
    refine hrows.imp fun row row' ⟨hid, hlags⟩ => ⟨hid, hlags.kind_eq, ?_, hlags.failures_le⟩
    exact congrArg (·.since now) hlags.liftedAt_eq

end Tracker

/-- **Purging is invisible to routing.**  Take any tracker and any history, and insert
purges into it at any points and for any times.  With and without them, each failure is
answered alike; and at any time that none of the inserted purges is later than, the
tracker lets the same endpoints be called, leaves the others alone until the same time
and for the same kind, and lists them alike, but that it has counted no more failures.
The beginning of a history is one too, so this is so at every point of it. -/
theorem purges_unnoticed (t : Tracker) (moments : List Tracker.Moment) :
    t.failureAnswers (Tracker.withPurges moments) = t.failureAnswers (Tracker.plain moments) ∧
      ∀ now, (∀ time ∈ Tracker.insertedTimes moments, time ≤ now) →
        (t.afterAll (Tracker.withPurges moments)).ShowsAlike
          (t.afterAll (Tracker.plain moments)) now := by
  refine ⟨Tracker.failureAnswers_withPurges moments rfl, fun now hnow => ?_⟩
  have hthinned := Tracker.thinnedBy_afterAll moments (Tracker.ThinnedBy.refl [] t)
  rw [List.append_nil] at hthinned
  exact hthinned.showsAlike hnow

/-- An endpoint fails again after its window has passed, and in between there is a purge
right at the end of the window. -/
def comeback : List Tracker.Moment :=
  [.own (.tell (.fail ⟨"a"⟩ .timeout ⟨7 * nanosPerSecond, by decide⟩)),
   .inserted ⟨37 * nanosPerSecond, by decide⟩,
   .own (.tell (.fail ⟨"a"⟩ .rateLimit ⟨43 * nanosPerSecond, by decide⟩))]

/-- Its failures are answered alike, and afterwards the purged tracker has counted one of
them and the other both. -/
theorem purges_unnoticed_comeback :
    let fresh : Tracker := {}
    let now : Instant := ⟨53 * nanosPerSecond, by decide⟩
    let row (failures : Nat) : CooldownStatus :=
      ⟨⟨"a"⟩, .rateLimit, failures, Span.ofSeconds 50⟩
    fresh.failureAnswers (Tracker.withPurges comeback) =
        [.ok (some ⟨37 * nanosPerSecond, by decide⟩),
          .ok (some ⟨103 * nanosPerSecond, by decide⟩)] ∧
      (fresh.afterAll (Tracker.withPurges comeback)).snapshot now = [row 1] ∧
      (fresh.afterAll (Tracker.plain comeback)).snapshot now = [row 2] ∧
      (fresh.afterAll (Tracker.withPurges comeback)).ShowsAlike
        (fresh.afterAll (Tracker.plain comeback)) now := by
  refine ⟨rfl, rfl, rfl, (purges_unnoticed _ comeback).2 _ ?_⟩
  decide

end Failover
