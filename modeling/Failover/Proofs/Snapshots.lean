import Failover.Proofs.Tracker

/-!
# What the tracker shows

Three things are said of the endpoints that are left alone at some time: whether one
of them may be called, the list of all of them, and which entries a purge keeps.  Each
looks through the entries by itself, and all mean the same set of endpoints, to the
very end of a window.

The link is that a snapshot shows what a purge at the same time leaves stored
(`Tracker.snapshot_eq`), and that this is what is in force
(`Tracker.get?_purge_eq_active?`).

## Main definitions

* `Suppression.status` — how one suppression is shown.
* `Tracker.ShowsOneSet` — the agreement of snapshot, eligibility and purge.

## Main results

* `Tracker.purge_of_active` — a purge forgets nothing that is in force.
* `shows_one_set` — **snapshot, eligibility and purge go by the same set.**
-/

namespace Failover

/-- How the suppression of an endpoint is shown at some time. -/
def Suppression.status (s : Suppression) (id : EndpointId) (now : Instant) : CooldownStatus :=
  ⟨id, s.kind, s.failures, s.liftedAt.since now⟩

/-- What is in force at some time was in force at any time before. -/
theorem Suppression.isActive_of_le {s : Suppression} {earlier now : Instant}
    (hle : earlier ≤ now) (hactive : s.isActive now = true) : s.isActive earlier = true := by
  have hlt : now < s.liftedAt := of_decide_eq_true hactive
  exact decide_eq_true (Nat.lt_of_le_of_lt hle hlt)

namespace Tracker

variable (t : Tracker) (now : Instant)

/-! ### Purges -/

/-- What a purge leaves stored is what is in force. -/
theorem get?_purge_eq_active? (id : EndpointId) :
    (t.purge now).2.entries.get? id = t.active? id now :=
  t.get?_purge now id

/-- What is in force is stored. -/
theorem active?_eq_some_iff {id : EndpointId} {s : Suppression} :
    t.active? id now = some s ↔ t.entries.get? id = some s ∧ s.isActive now = true := by
  rw [active?, Option.filter_eq_some_iff]

/-- A purge answers with the number of the entries that it forgets. -/
theorem purge_fst : (t.purge now).1 = t.size - (t.purge now).2.size := rfl

theorem size_purge_le : (t.purge now).2.size ≤ t.size :=
  List.length_filter_le _ t.entries.rows

variable {t now}

/-- A purge forgets nothing that is in force. -/
theorem purge_of_active
    (hactive : ∀ id s, t.entries.get? id = some s → s.isActive now = true) :
    t.purge now = (0, t) := by
  have hsame : (t.purge now).2 = t := by
    have hentries : (t.purge now).2.entries = t.entries := by
      refine Table.ext_get? fun id => Option.ext fun s => ?_
      rw [get?_purge_eq_active?, active?_eq_some_iff]
      exact and_iff_left_of_imp (hactive id s)
    exact congrArg (Tracker.mk t.windows) hentries
  have hnone : (t.purge now).1 = 0 := by rw [purge_fst, hsame, Nat.sub_self]
  exact Prod.ext hnone hsame

/-- A second purge that is no later than the first forgets nothing. -/
theorem purge_purge {earlier : Instant} (hle : earlier ≤ now) :
    (t.purge now).2.purge earlier = (0, (t.purge now).2) := by
  refine purge_of_active fun id s hs => ?_
  rw [get?_purge_eq_active?, active?_eq_some_iff] at hs
  exact Suppression.isActive_of_le hle hs.2

/-! ### Snapshots -/

variable (t now)

/-- A snapshot shows what a purge at the same time leaves. -/
theorem snapshot_eq :
    t.snapshot now = (t.purge now).2.entries.rows.map fun row => row.2.status row.1 now := by
  change t.entries.rows.filterMap _ =
    (t.entries.rows.filter fun row => row.2.isActive now).map _
  induction t.entries.rows with
  | nil => rfl
  | cons row rows ih =>
    obtain ⟨id, s⟩ := row
    cases hactive : s.isActive now with
    | true => simp [hactive, ih, Suppression.status]
    | false => simp [hactive, ih]

/-- A snapshot has a row for each entry that a purge leaves. -/
theorem length_snapshot : (t.snapshot now).length = (t.purge now).2.size := by
  rw [snapshot_eq, List.length_map]
  rfl

/-- The rows of a snapshot show what is in force. -/
theorem mem_snapshot_iff {row : CooldownStatus} :
    row ∈ t.snapshot now ↔
      ∃ s, t.active? row.endpoint now = some s ∧ s.status row.endpoint now = row := by
  rw [snapshot_eq, List.mem_map]
  constructor
  · rintro ⟨⟨id, s⟩, hmem, rfl⟩
    refine ⟨s, ?_, rfl⟩
    rw [← get?_purge_eq_active?]
    exact Table.get?_eq_some_iff.mpr hmem
  · rintro ⟨s, hactive, hrow⟩
    rw [← get?_purge_eq_active?] at hactive
    exact ⟨(row.endpoint, s), Table.get?_eq_some_iff.mp hactive, hrow⟩

/-- The endpoints of a snapshot are those that are left alone. -/
theorem mem_endpoints_snapshot_iff {id : EndpointId} :
    id ∈ (t.snapshot now).map (·.endpoint) ↔ (t.active? id now).isSome = true := by
  rw [List.mem_map, Option.isSome_iff_exists]
  constructor
  · rintro ⟨row, hmem, rfl⟩
    obtain ⟨s, hactive, -⟩ := (mem_snapshot_iff t now).mp hmem
    exact ⟨s, hactive⟩
  · rintro ⟨s, hactive⟩
    exact ⟨s.status id now, (mem_snapshot_iff t now).mpr ⟨s, hactive, rfl⟩, rfl⟩

/-- The endpoints of a snapshot are in strictly ascending order. -/
theorem snapshot_ascending :
    (t.snapshot now).Pairwise fun row row' => row.endpoint < row'.endpoint := by
  rw [snapshot_eq, List.pairwise_map]
  exact (t.purge now).2.entries.ascending

/-- A row of a snapshot has some time left, and it ends with the suppression. -/
theorem remaining_status {s : Suppression} {now : Instant} (hactive : s.isActive now = true)
    (id : EndpointId) :
    0 < (s.status id now).remaining.nanos ∧
      now.nanos + (s.status id now).remaining.nanos = s.liftedAt.nanos := by
  have hlt : now.nanos < s.liftedAt.nanos := of_decide_eq_true hactive
  have hremaining : (s.status id now).remaining.nanos = s.liftedAt.nanos - now.nanos := rfl
  omega

/-! ### The agreement -/

/-- Snapshot, eligibility and purge go by one set of endpoints at some time. -/
structure ShowsOneSet : Prop where
  /-- The snapshot is in strictly ascending order of the endpoints. -/
  ascending : (t.snapshot now).Pairwise fun row row' => row.endpoint < row'.endpoint
  /-- It lists no endpoint twice. -/
  nodup : ((t.snapshot now).map (·.endpoint)).Nodup
  /-- It lists the endpoints that may not be called, and no others. -/
  mem_iff : ∀ id, id ∈ (t.snapshot now).map (·.endpoint) ↔ t.isEligible id now = false
  /-- A row has the kind and the count that are stored, and what is left of the window,
  which is not nothing. -/
  row : ∀ row ∈ t.snapshot now, ∃ s, t.entries.get? row.endpoint = some s ∧
    row.kind = s.kind ∧ row.failures = s.failures ∧
    0 < row.remaining.nanos ∧ now.nanos + row.remaining.nanos = s.liftedAt.nanos
  /-- A purge answers with the number of the entries that the snapshot has no row for. -/
  purge_fst : (t.snapshot now).length ≤ t.size ∧
    (t.purge now).1 = t.size - (t.snapshot now).length
  /-- It forgets the endpoints that are not in the snapshot, and no others. -/
  get?_purge : ∀ id, (t.purge now).2.entries.get? id =
    if id ∈ (t.snapshot now).map (·.endpoint) then t.entries.get? id else none
  /-- It leaves the snapshot as it was. -/
  snapshot_purge : (t.purge now).2.snapshot now = t.snapshot now
  /-- It leaves what is in force as it was. -/
  active?_purge : ∀ id, (t.purge now).2.active? id now = t.active? id now
  /-- A second purge that is no later forgets nothing. -/
  purge_purge : ∀ earlier, earlier ≤ now →
    (t.purge now).2.purge earlier = (0, (t.purge now).2)
  /-- After a purge there are as many entries as the snapshot has rows. -/
  size_purge : (t.purge now).2.size = (t.snapshot now).length

end Tracker

/-- **Snapshot, eligibility and purge go by the same set of endpoints**, at any time and
whatever is stored. -/
theorem shows_one_set (t : Tracker) (now : Instant) : t.ShowsOneSet now where
  ascending := t.snapshot_ascending now
  nodup := by
    rw [List.Nodup, List.pairwise_map]
    refine (t.snapshot_ascending now).imp fun hlt heq => ?_
    rw [heq] at hlt
    exact Key.irrefl _ hlt
  mem_iff id := by
    rw [Tracker.mem_endpoints_snapshot_iff, Tracker.isEligible]
    cases t.active? id now <;> simp
  row row hmem := by
    obtain ⟨s, hactive, hrow⟩ := (t.mem_snapshot_iff now).mp hmem
    obtain ⟨hstored, hinForce⟩ := (t.active?_eq_some_iff now).mp hactive
    have hremaining := Tracker.remaining_status hinForce row.endpoint
    rw [hrow] at hremaining
    refine ⟨s, hstored, ?_, ?_, hremaining⟩
    · rw [← hrow]
      rfl
    · rw [← hrow]
      rfl
  purge_fst := by
    rw [t.length_snapshot now]
    exact ⟨t.size_purge_le now, t.purge_fst now⟩
  get?_purge id := by
    rw [t.get?_purge_eq_active? now]
    cases hactive : t.active? id now with
    | none =>
      rw [if_neg fun hmem => ?_]
      rw [Tracker.mem_endpoints_snapshot_iff, hactive] at hmem
      cases hmem
    | some s =>
      have hmem : id ∈ (t.snapshot now).map (·.endpoint) := by
        rw [Tracker.mem_endpoints_snapshot_iff, hactive]
        rfl
      rw [if_pos hmem]
      exact ((t.active?_eq_some_iff now).mp hactive).1.symm
  snapshot_purge := by
    rw [Tracker.snapshot_eq, Tracker.purge_purge (Nat.le_refl now.nanos), ← Tracker.snapshot_eq]
  active?_purge id := by
    rw [← (t.purge now).2.get?_purge_eq_active?, Tracker.purge_purge (Nat.le_refl now.nanos),
      t.get?_purge_eq_active?]
  purge_purge _ hle := Tracker.purge_purge hle
  size_purge := (t.length_snapshot now).symm

end Failover
