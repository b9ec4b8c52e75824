import Failover.Budget
import Mathlib.Algebra.Order.Field.Rat
import Mathlib.Tactic.Linarith
import Mathlib.Tactic.Positivity
import Mathlib.Tactic.Ring

/-!
# Buckets in exact numbers

Counted in rational numbers, a bucket is what it approximates in floating point: it
gains tokens at a steady rate, up to its capacity, however often it is looked at.
What a gate holds for an endpoint at some time is its `level`, and whatever is asked
of the gate can be said of levels alone: a request that is granted lowers one level by
one, a request that is refused lowers none, and in the course of time a level rises no
faster than its rate.

## Main definitions

* `Span.inSeconds` — lengths of time as rational numbers.
* `Gate.level` — the tokens that a gate holds for an endpoint.
* `Gate.Sound` — the invariant of the buckets.

## Main results

* `Bucket.tokens_refill_refill` — looking at a bucket does not change what it holds
  later.
* `Gate.level_le_of_le` — how fast a level rises.
* `Gate.tryAcquire_cases` — **what a request does to the levels.**
-/

namespace Failover

/-! ### Time as a rational number -/

/-- A length of time in seconds. -/
def Span.inSeconds (s : Span) : ℚ := (s.nanos : ℚ) / nanosPerSecond

theorem Span.inSeconds_nonneg (s : Span) : 0 ≤ s.inSeconds := by
  unfold inSeconds
  positivity

theorem Bucket.secondsOf_eq (s : Span) : (secondsOf s : ℚ) = s.inSeconds := by
  have hsplit : (s.nanos : ℚ) = nanosPerSecond * s.seconds + s.subsecond := by
    exact_mod_cast (Nat.div_add_mod s.nanos nanosPerSecond).symm
  have hpos : (nanosPerSecond : ℚ) ≠ 0 := by norm_num [nanosPerSecond]
  rw [Span.inSeconds, hsplit, add_div, mul_div_cancel_left₀ _ hpos]
  rfl

namespace Instant

theorem inSeconds_since_of_le {t u : Instant} (h : t ≤ u) : (t.since u).inSeconds = 0 := by
  have hnone : t.nanos - u.nanos = 0 := Nat.sub_eq_zero_of_le h
  simp [Span.inSeconds, since, hnone]

theorem inSeconds_since_add {t u v : Instant} (htu : t ≤ u) (huv : u ≤ v) :
    (v.since t).inSeconds = (v.since u).inSeconds + (u.since t).inSeconds := by
  have hnanos : v.nanos - t.nanos = (v.nanos - u.nanos) + (u.nanos - t.nanos) := by
    change t.nanos ≤ u.nanos at htu
    change u.nanos ≤ v.nanos at huv
    omega
  simp only [Span.inSeconds, since]
  rw [hnanos, Nat.cast_add, add_div]

/-- Less time has passed since a later reading. -/
theorem inSeconds_since_le {t u v : Instant} (htu : t ≤ u) :
    (v.since u).inSeconds ≤ (v.since t).inSeconds := by
  have hnanos : v.nanos - u.nanos ≤ v.nanos - t.nanos := Nat.sub_le_sub_left htu _
  simp only [Span.inSeconds, since]
  gcongr

end Instant

/-! ### Buckets -/

namespace Bucket

section

variable {τ : Type} [TokenNumber τ] (b : Bucket τ)

@[simp] theorem capacity_refill (now : Instant) : (b.refill now).capacity = b.capacity := rfl

@[simp] theorem rpm_refill (now : Instant) : (b.refill now).rpm = b.rpm := rfl

theorem refilledAt_refill (now : Instant) :
    (b.refill now).refilledAt = if b.refilledAt < now then now else b.refilledAt := rfl

theorem le_refilledAt_refill (now : Instant) : now ≤ (b.refill now).refilledAt := by
  rw [refilledAt_refill]
  split
  · exact Nat.le_refl _
  · exact Nat.le_of_not_lt ‹_›

theorem refilledAt_le_refill (now : Instant) : b.refilledAt ≤ (b.refill now).refilledAt := by
  rw [refilledAt_refill]
  split
  · exact Nat.le_of_lt ‹_›
  · exact Nat.le_refl _

end

variable (b : Bucket ℚ)

theorem tokens_refill (now : Instant) :
    (b.refill now).tokens =
      min (b.tokens + (now.since b.refilledAt).inSeconds * (b.rpm / 60)) b.capacity := by
  rw [← secondsOf_eq, min_def]
  rfl

theorem tokens_refill_le (now : Instant) : (b.refill now).tokens ≤ b.capacity := by
  rw [tokens_refill]
  exact min_le_right _ _

theorem tokens_refill_nonneg {b : Bucket ℚ} (h : 0 ≤ b.tokens) (now : Instant) :
    0 ≤ (b.refill now).tokens := by
  have hgained := (now.since b.refilledAt).inSeconds_nonneg
  rw [tokens_refill]
  exact le_min (by positivity) (by positivity)

/-- A bucket that is no fuller than it can be holds what it holds when it has just been
refilled. -/
theorem tokens_refill_of_le {b : Bucket ℚ} {now : Instant} (hlate : now ≤ b.refilledAt)
    (hle : b.tokens ≤ b.capacity) : (b.refill now).tokens = b.tokens := by
  rw [tokens_refill, Instant.inSeconds_since_of_le hlate, zero_mul, add_zero, min_eq_left hle]

/-- **Looking at a bucket does not change what it holds later.** -/
theorem tokens_refill_refill {now later : Instant} (h : now ≤ later) :
    ((b.refill now).refill later).tokens = (b.refill later).tokens := by
  have hgained := (later.since (b.refill now).refilledAt).inSeconds_nonneg
  -- what is gained before and after the look is gained in all
  have htime : (later.since b.refilledAt).inSeconds =
      (later.since (b.refill now).refilledAt).inSeconds +
        (now.since b.refilledAt).inSeconds := by
    rw [refilledAt_refill]
    split
    next hlt => exact Instant.inSeconds_since_add (Nat.le_of_lt hlt) h
    next hge => rw [Instant.inSeconds_since_of_le (Nat.le_of_not_lt hge), add_zero]
  have hcap (x y : ℚ) (hy : 0 ≤ y) (c : ℚ) : min (min x c + y) c = min (x + y) c := by
    rcases le_total x c with hx | hx
    · rw [min_eq_left hx]
    · rw [min_eq_right hx, min_eq_right (by linarith), min_eq_right (by linarith)]
  rw [tokens_refill, tokens_refill b now, capacity_refill, rpm_refill, hcap _ _ (by positivity),
    tokens_refill b later, htime]
  congr 1
  ring

/-- In the course of time a bucket gains no more than its rate says. -/
theorem tokens_refill_le_of_le {now later : Instant} (h : now ≤ later) :
    (b.refill later).tokens ≤
      (b.refill now).tokens + (b.rpm / 60) * (later.since now).inSeconds := by
  have hgained := (later.since now).inSeconds_nonneg
  rw [← tokens_refill_refill b h, tokens_refill, rpm_refill]
  refine (min_le_left _ _).trans ?_
  have htime : (later.since (b.refill now).refilledAt).inSeconds ≤ (later.since now).inSeconds :=
    Instant.inSeconds_since_le (b.le_refilledAt_refill now)
  have hmul := mul_le_mul_of_nonneg_right htime (show (0 : ℚ) ≤ b.rpm / 60 by positivity)
  linarith

/-- A full bucket is full whenever it is looked at. -/
theorem tokens_refill_full (rpm burst : UInt32) (made now : Instant) :
    ((full rpm burst made : Bucket ℚ).refill now).tokens = (rpm.toNat + burst.toNat : ℕ) := by
  have hgained := (now.since made).inSeconds_nonneg
  rw [tokens_refill]
  refine min_eq_right (le_add_of_nonneg_right ?_)
  positivity

/-- A full bucket has a token to give. -/
theorem one_le_tokens_refill_full {rpm : UInt32} (hrpm : rpm ≠ 0) (burst : UInt32)
    (made now : Instant) : 1 ≤ ((full rpm burst made : Bucket ℚ).refill now).tokens := by
  have hpos : rpm.toNat ≠ 0 := fun hzero => hrpm (UInt32.toNat_inj.mp hzero)
  rw [tokens_refill_full]
  exact Nat.one_le_cast.mpr (by omega)

end Bucket

/-! ### The gate -/

namespace Gate

variable {g : Gate ℚ} {id : EndpointId} {rpm : UInt32} {now : Instant}

/-- The tokens that the gate holds for an endpoint. -/
def level (g : Gate ℚ) (id : EndpointId) (rpm : UInt32) (now : Instant) : ℚ :=
  ((g.bucketFor id rpm now).refill now).tokens

/-- Every bucket has room for what it gains in a minute and the burst, and none is in
debt. -/
def Sound (g : Gate ℚ) : Prop :=
  ∀ id b, g.buckets.get? id = some b → b.capacity = b.rpm + g.burst.toNat ∧ 0 ≤ b.tokens

theorem sound_new (burst : UInt32) : ({ burst } : Gate ℚ).Sound := by
  intro id b hb
  cases hb

/-- The levels of an endpoint hang on its own bucket. -/
theorem level_congr {g' : Gate ℚ} (hburst : g'.burst = g.burst)
    (hbucket : g'.buckets.get? id = g.buckets.get? id) (rpm : UInt32) (now : Instant) :
    g'.level id rpm now = g.level id rpm now := by
  simp only [level, bucketFor, hburst, hbucket]

/-- A request draws on the bucket of its endpoint or on a full one. -/
theorem bucketFor_cases (g : Gate ℚ) (id : EndpointId) (rpm : UInt32) (now : Instant) :
    (g.buckets.get? id = some (g.bucketFor id rpm now) ∧
      (g.bucketFor id rpm now).capacity = rpm.toNat + g.burst.toNat) ∨
    g.bucketFor id rpm now = .full rpm g.burst now := by
  unfold bucketFor
  cases g.buckets.get? id with
  | none => exact Or.inr rfl
  | some b =>
    cases hfits : b.fits rpm g.burst with
    | true => exact Or.inl ⟨by simp only [hfits, if_true], by simpa [hfits] using eq_of_beq hfits⟩
    | false => exact Or.inr (by simp only [hfits, Bool.false_eq_true, if_false])

/-- The bucket that a request draws on is one of its rate. -/
theorem Sound.bucketFor (h : g.Sound) (id : EndpointId) (rpm : UInt32) (now : Instant) :
    (g.bucketFor id rpm now).capacity = rpm.toNat + g.burst.toNat ∧
      (g.bucketFor id rpm now).rpm = rpm.toNat ∧ 0 ≤ (g.bucketFor id rpm now).tokens := by
  rcases g.bucketFor_cases id rpm now with ⟨hown, hcapacity⟩ | hfull
  · obtain ⟨hsize, htokens⟩ := h _ _ hown
    exact ⟨hcapacity, by omega, htokens⟩
  · rw [hfull]
    exact ⟨rfl, rfl, Nat.cast_nonneg (rpm.toNat + g.burst.toNat)⟩

theorem Sound.level_nonneg (h : g.Sound) : 0 ≤ g.level id rpm now :=
  Bucket.tokens_refill_nonneg (h.bucketFor id rpm now).2.2 now

theorem Sound.level_le (h : g.Sound) : g.level id rpm now ≤ rpm.toNat + g.burst.toNat := by
  have hle := (g.bucketFor id rpm now).tokens_refill_le now
  rw [(h.bucketFor id rpm now).1] at hle
  exact_mod_cast hle

/-- It does not matter when the bucket was made that a level is read off. -/
theorem level_eq (g : Gate ℚ) (id : EndpointId) (rpm : UInt32) (made now : Instant) :
    g.level id rpm now = ((g.bucketFor id rpm made).refill now).tokens := by
  unfold level bucketFor
  cases g.buckets.get? id with
  | none => exact (Bucket.tokens_refill_full ..).trans (Bucket.tokens_refill_full ..).symm
  | some b =>
    simp only
    split
    · rfl
    · exact (Bucket.tokens_refill_full ..).trans (Bucket.tokens_refill_full ..).symm

/-- **A level rises no faster than its rate.** -/
theorem Sound.level_le_of_le (h : g.Sound) {later : Instant} (hle : now ≤ later) :
    g.level id rpm later ≤
      g.level id rpm now + (rpm.toNat / 60) * (later.since now).inSeconds := by
  have hgain := (g.bucketFor id rpm now).tokens_refill_le_of_le hle
  rwa [(h.bucketFor id rpm now).2.1, ← level_eq g id rpm now later] at hgain

/-! ### What is asked of the gate -/

/-- The gate with another bucket in the place of an endpoint's own. -/
def put (g : Gate ℚ) (id : EndpointId) (b : Bucket ℚ) : Gate ℚ :=
  { g with buckets := g.buckets.insert id b }

theorem get?_put (g : Gate ℚ) (id a : EndpointId) (b : Bucket ℚ) :
    (g.put id b).buckets.get? a = if a = id then some b else g.buckets.get? a :=
  Table.get?_insert g.buckets id a b

theorem Sound.put (h : g.Sound) {b : Bucket ℚ} (hcapacity : b.capacity = b.rpm + g.burst.toNat)
    (htokens : 0 ≤ b.tokens) : (g.put id b).Sound := by
  intro a b' hb'
  rw [get?_put] at hb'
  split at hb'
  · obtain rfl := Option.some.inj hb'
    exact ⟨hcapacity, htokens⟩
  · exact h a b' hb'

theorem Sound.put_refill (h : g.Sound) {b : Bucket ℚ} (hb : g.buckets.get? id = some b) :
    (g.put id (b.refill now)).Sound := by
  obtain ⟨hcapacity, htokens⟩ := h _ _ hb
  have hrefilled := Bucket.tokens_refill_nonneg htokens now
  exact h.put hcapacity hrefilled

/-- The level of an endpoint whose bucket is put in place. -/
theorem level_put {b : Bucket ℚ} (hcapacity : b.capacity = rpm.toNat + g.burst.toNat) :
    (g.put id b).level id rpm now = (b.refill now).tokens := by
  have hfits : b.fits rpm g.burst = true := beq_iff_eq.mpr hcapacity
  have hburst : (g.put id b).burst = g.burst := rfl
  simp only [level, bucketFor, get?_put, hburst, if_true, hfits]

/-- Refilling a bucket changes no level that is read off later. -/
theorem level_put_refill {b : Bucket ℚ} (hb : g.buckets.get? id = some b) (a : EndpointId)
    (rpm : UInt32) {later : Instant} (hle : now ≤ later) :
    (g.put id (b.refill now)).level a rpm later = g.level a rpm later := by
  have hburst : (g.put id (b.refill now)).burst = g.burst := rfl
  by_cases ha : a = id
  · subst ha
    have hfits : (b.refill now).fits rpm g.burst = b.fits rpm g.burst := rfl
    simp only [level, bucketFor, get?_put, hburst, if_true, hb, hfits]
    split
    · exact b.tokens_refill_refill hle
    · rfl
  · have hbucket : (g.put id (b.refill now)).buckets.get? a = g.buckets.get? a := by
      rw [get?_put, if_neg ha]
    exact level_congr hburst hbucket rpm later

section

variable {τ : Type} [TokenNumber τ] {g g' : Gate τ}

/-- A request for an endpoint that has a limit draws on its bucket. -/
theorem get?_tryAcquire (g : Gate τ) (id a : EndpointId) (rpm : UInt32) (now : Instant) :
    (g.tryAcquire id rpm now).2.buckets.get? a =
      if a = id ∧ rpm ≠ 0 then some ((g.bucketFor id rpm now).take now).2
      else g.buckets.get? a := by
  unfold tryAcquire
  by_cases hrpm : rpm = 0
  · rw [if_pos hrpm, if_neg fun h => h.2 hrpm]
  · rw [if_neg hrpm, if_congr (and_iff_left hrpm) rfl rfl]
    exact Table.get?_insert g.buckets id a _

/-- A request concerns the bucket of one endpoint. -/
theorem get?_tryAcquire_of_ne {a : EndpointId} (ha : a ≠ id) :
    (g.tryAcquire id rpm now).2.buckets.get? a = g.buckets.get? a := by
  rw [get?_tryAcquire, if_neg fun h => ha h.1]

theorem burst_tryAcquire : (g.tryAcquire id rpm now).2.burst = g.burst := by
  unfold tryAcquire
  split <;> rfl

/-- A request is answered from the bucket of its endpoint alone. -/
theorem tryAcquire_congr (id : EndpointId) (now : Instant) (rpm : UInt32)
    (hburst : g'.burst = g.burst) (hbucket : g'.buckets.get? id = g.buckets.get? id) :
    (g'.tryAcquire id rpm now).1 = (g.tryAcquire id rpm now).1 ∧
      (g'.tryAcquire id rpm now).2.buckets.get? id =
        (g.tryAcquire id rpm now).2.buckets.get? id := by
  have hdrawn : g'.bucketFor id rpm now = g.bucketFor id rpm now := by
    simp only [bucketFor, hburst, hbucket]
  refine ⟨?_, by rw [get?_tryAcquire, get?_tryAcquire, hdrawn, hbucket]⟩
  unfold tryAcquire
  rw [hdrawn]
  split <;> rfl

end

theorem tryAcquire_eq (g : Gate ℚ) (id : EndpointId) (now : Instant) (hrpm : rpm ≠ 0) :
    g.tryAcquire id rpm now =
      (((g.bucketFor id rpm now).take now).1,
        g.put id ((g.bucketFor id rpm now).take now).2) := by
  rw [tryAcquire, if_neg hrpm]
  rfl

/-- A request is granted exactly if there is a whole token. -/
theorem tryAcquire_fst_eq_true_iff (hrpm : rpm ≠ 0) :
    (g.tryAcquire id rpm now).1 = true ↔ 1 ≤ g.level id rpm now := by
  have hone : (g.tryAcquire id rpm now).1 = ((g.bucketFor id rpm now).take now).1 :=
    congrArg Prod.fst (tryAcquire_eq g id now hrpm)
  rw [hone]
  constructor
  · intro htaken
    refine Decidable.byContradiction fun hnone => ?_
    have hrefused : ((g.bucketFor id rpm now).take now).1 = false :=
      congrArg Prod.fst (if_neg hnone)
    rw [hrefused] at htaken
    exact Bool.false_ne_true htaken
  · exact fun hlevel => congrArg Prod.fst (if_pos hlevel)

/-- A request that is granted takes a token of the bucket that it draws on. -/
theorem eq_put_of_granted (hrpm : rpm ≠ 0) (hlevel : 1 ≤ g.level id rpm now) :
    (g.tryAcquire id rpm now).2 = g.put id
      { (g.bucketFor id rpm now).refill now with tokens := g.level id rpm now - 1 } := by
  have htake : (g.bucketFor id rpm now).take now = (true,
      { (g.bucketFor id rpm now).refill now with tokens := g.level id rpm now - 1 }) :=
    if_pos hlevel
  rw [tryAcquire_eq g id now hrpm, htake]

/-- A request that is refused merely refills the endpoint's own bucket: a full one would
have had a token. -/
theorem eq_put_of_refused (h : (g.tryAcquire id rpm now).1 = false) :
    ∃ b, g.buckets.get? id = some b ∧
      (g.tryAcquire id rpm now).2 = g.put id (b.refill now) := by
  have hrpm : rpm ≠ 0 := fun hzero => by simp [tryAcquire, hzero] at h
  have hnone : ¬ 1 ≤ g.level id rpm now := by
    rw [← tryAcquire_fst_eq_true_iff hrpm, h]
    exact Bool.false_ne_true
  rcases g.bucketFor_cases id rpm now with ⟨hown, -⟩ | hfull
  · have htake : (g.bucketFor id rpm now).take now =
        (false, (g.bucketFor id rpm now).refill now) := if_neg hnone
    exact ⟨_, hown, by rw [tryAcquire_eq g id now hrpm, htake]⟩
  · rw [level, hfull] at hnone
    exact absurd (Bucket.one_le_tokens_refill_full hrpm g.burst now now) hnone

/-- A request either takes a token of a bucket of its rate or refills the endpoint's own
bucket. -/
theorem Sound.tryAcquire_eq_cases (h : g.Sound) (id : EndpointId) (now : Instant)
    (hrpm : rpm ≠ 0) :
    (1 ≤ g.level id rpm now ∧ ∃ b, b.capacity = rpm.toNat + g.burst.toNat ∧
      b.rpm = rpm.toNat ∧ b.tokens = g.level id rpm now - 1 ∧ now ≤ b.refilledAt ∧
      g.tryAcquire id rpm now = (true, g.put id b)) ∨
    (∃ b, g.buckets.get? id = some b ∧
      g.tryAcquire id rpm now = (false, g.put id (b.refill now))) := by
  obtain ⟨hcapacity, hrate, -⟩ := h.bucketFor id rpm now
  cases hanswer : (g.tryAcquire id rpm now).1 with
  | true =>
    have hlevel := (tryAcquire_fst_eq_true_iff hrpm).mp hanswer
    have hlate := (g.bucketFor id rpm now).le_refilledAt_refill now
    exact Or.inl ⟨hlevel, { (g.bucketFor id rpm now).refill now with
      tokens := g.level id rpm now - 1 }, hcapacity, hrate, rfl, hlate,
      Prod.ext hanswer (eq_put_of_granted hrpm hlevel)⟩
  | false =>
    obtain ⟨b, hown, hput⟩ := eq_put_of_refused hanswer
    exact Or.inr ⟨b, hown, Prod.ext hanswer hput⟩

/-- **What a request does to the levels**: if it is granted it lowers that of its
endpoint by one, and else it lowers none. -/
theorem Sound.tryAcquire_cases (h : g.Sound) (id : EndpointId) (now : Instant)
    (hrpm : rpm ≠ 0) :
    ((g.tryAcquire id rpm now).1 = true ∧ 1 ≤ g.level id rpm now ∧
      (g.tryAcquire id rpm now).2.level id rpm now = g.level id rpm now - 1) ∨
    ((g.tryAcquire id rpm now).1 = false ∧ ∀ a rpm' later, now ≤ later →
      (g.tryAcquire id rpm now).2.level a rpm' later = g.level a rpm' later) := by
  rcases h.tryAcquire_eq_cases id now hrpm with
    ⟨hone, b, hcapacity, -, htokens, hlate, hgranted⟩ | ⟨b, hown, hrefused⟩
  · rw [hgranted]
    refine Or.inl ⟨rfl, hone, ?_⟩
    have hle : b.tokens ≤ b.capacity := by
      have hlevel : g.level id rpm now ≤ rpm.toNat + g.burst.toNat := h.level_le
      rw [htokens, hcapacity, Nat.cast_add]
      linarith
    rw [level_put hcapacity, Bucket.tokens_refill_of_le hlate hle, htokens]
  · rw [hrefused]
    exact Or.inr ⟨rfl, fun a rpm' later hle => level_put_refill hown a rpm' hle⟩

theorem Sound.tryAcquire (h : g.Sound) : (g.tryAcquire id rpm now).2.Sound := by
  by_cases hrpm : rpm = 0
  · rw [Gate.tryAcquire, if_pos hrpm]
    exact h
  · rcases h.tryAcquire_eq_cases id now hrpm with
      ⟨hone, b, hcapacity, hrate, htokens, -, hgranted⟩ | ⟨b, hown, hrefused⟩
    · rw [hgranted]
      exact h.put (by rw [hcapacity, hrate]) (by rw [htokens]; linarith)
    · rw [hrefused]
      exact h.put_refill hown

/-- Counting the tokens of an endpoint refills its bucket, if it has one. -/
theorem available_cases (g : Gate ℚ) (id : EndpointId) (now : Instant) :
    (g.available id now).2 = g ∨
      ∃ b, g.buckets.get? id = some b ∧ (g.available id now).2 = g.put id (b.refill now) := by
  unfold available
  cases hb : g.buckets.get? id with
  | none => exact Or.inl rfl
  | some b => exact Or.inr ⟨b, rfl, rfl⟩

theorem burst_available : (g.available id now).2.burst = g.burst := by
  rcases g.available_cases id now with hsame | ⟨b, -, hput⟩
  · rw [hsame]
  · rw [hput]
    rfl

theorem Sound.available (h : g.Sound) : (g.available id now).2.Sound := by
  rcases g.available_cases id now with hsame | ⟨b, hown, hput⟩
  · rw [hsame]
    exact h
  · rw [hput]
    exact h.put_refill hown

/-- Counting lowers no level. -/
theorem level_available (id a : EndpointId) (rpm : UInt32) {later : Instant}
    (hle : now ≤ later) : (g.available id now).2.level a rpm later = g.level a rpm later := by
  rcases g.available_cases id now with hsame | ⟨b, hown, hput⟩
  · rw [hsame]
  · rw [hput]
    exact level_put_refill hown a rpm hle

end Gate

end Failover
