import Failover.Proofs.Doubles
import Failover.Proofs.Polls

/-!
# Buckets at a standing clock

Tokens are counted in doubles, and while time passes these are only near to what has been
gained.  But they are never lost track of: what a bucket holds is a number between none and
its capacity, a whole token is taken from it without rounding, and as long as the clock
does not pass the time at which it was last refilled, nothing is added, not even by the way
of rounding.  So a bucket at a standing clock, or at one that goes back, is a counter: it
grants as many requests as it has whole tokens, and then none.

## Main definitions

* `Bucket.Holds` — how many whole tokens a bucket of doubles holds.
* `countdown`, `decisions` — the answers of a counter, and those to requests alone.
* `Usage`, `Gate.served` — what a gate is used for, and the gate after some of it.
* `account` — what becomes of an endpoint's bucket, without its tokens.
* `Gate.SpendsReported` — a gate spends what it reports.

## Main results

* `Bucket.Holds.refill_standing` — refilling at a standing clock changes nothing.
* `Gate.Left.answersTo_transcript` — **at a standing clock a gate is a counter.**
* `Gate.Tracks.served` — the invariant of all gates of doubles.
* `gate_spends_reported` — **a gate spends what it reports.**
-/

namespace Failover

open Double (worth?)

/-! ### Buckets of doubles -/

namespace Bucket

/-- A bucket holds some whole tokens, and maybe a part of another one, and its size is one
that doubles can count. -/
structure Holds (b : Bucket Float) (n : ℕ) : Prop where
  /-- The tokens are a number, and not more than there is room for. -/
  tokens : ∃ q, worth? b.tokens = some q ∧ q ≤ b.capacity ∧ ⌊q⌋₊ = n
  /-- The capacity is one that a double can count to. -/
  capacity_lt : b.capacity < 2 ^ 34
  /-- So is the rate. -/
  rpm_lt : b.rpm < 2 ^ 32

theorem Holds.le_capacity {b : Bucket Float} {n : ℕ} (h : b.Holds n) : n ≤ b.capacity := by
  obtain ⟨q, -, hle, rfl⟩ := h.tokens
  exact Nat.floor_le_of_le hle

theorem holds_full (rpm burst : UInt32) (now : Instant) :
    (full rpm burst now : Bucket Float).Holds (rpm.toNat + burst.toNat) := by
  have hrpm := rpm.toNat_lt
  have hburst := burst.toNat_lt
  refine ⟨⟨_, Double.worth?_ofNat (by omega), le_rfl, Nat.floor_natCast _⟩, ?_, hrpm⟩
  change rpm.toNat + burst.toNat < 2 ^ 34
  omega

/-- The whole tokens are those that are counted. -/
theorem Holds.floor {b : Bucket Float} {n : ℕ} (h : b.Holds n) :
    TokenNumber.floor b.tokens = n := by
  obtain ⟨q, hworth, hle, hfloor⟩ := h.tokens
  have hcapacity : (b.capacity : ℚ) < 2 ^ 34 := by exact_mod_cast h.capacity_lt
  change b.tokens.toUInt64.toNat = n
  rw [Double.toNat_toUInt64 hworth (by linarith), hfloor]

theorem worth?_secondsOf_zero : worth? (secondsOf Span.zero : Float) = some 0 :=
  Double.worth?_eq_zero_iff.mpr rfl

/-- **What is gained in no time is nothing**, whatever the rate. -/
theorem worth?_gained {x : Float} {q : ℚ} {rpm : ℕ} (hx : worth? x = some q)
    (hrpm : rpm < 2 ^ 32) :
    worth? (x + secondsOf Span.zero * (Float.ofNat rpm / Float.ofNat 60)) = some q := by
  have hrate : ((rpm : ℕ) : ℚ) < 2 ^ 53 := by exact_mod_cast hrpm.trans (by decide)
  obtain ⟨r, hperSecond⟩ := Double.worth?_div (Double.worth?_ofNat (hrpm.trans (by decide))) hrate
    (Double.worth?_ofNat (n := 60) (by decide)) (by norm_num)
  exact Double.worth?_add_zero hx (Double.worth?_zero_mul worth?_secondsOf_zero hperSecond)

theorem tokens_refill_float (b : Bucket Float) (now : Instant) :
    (b.refill now).tokens =
      if b.tokens + secondsOf (now.since b.refilledAt) *
          (Float.ofNat b.rpm / Float.ofNat 60) ≤ Float.ofNat b.capacity
      then b.tokens + secondsOf (now.since b.refilledAt) * (Float.ofNat b.rpm / Float.ofNat 60)
      else Float.ofNat b.capacity := rfl

/-- Refilling keeps the tokens a number. -/
theorem Holds.refill {b : Bucket Float} {n : ℕ} (h : b.Holds n) (now : Instant) :
    ∃ m, (b.refill now).Holds m := by
  obtain ⟨q, hworth, hle, -⟩ := h.tokens
  have hcapacity := Double.worth?_ofNat (h.capacity_lt.trans (by decide : 2 ^ 34 < 2 ^ 53))
  obtain ⟨p, hp, hple⟩ : ∃ p, worth? (b.refill now).tokens = some p ∧ p ≤ b.capacity := by
    rw [tokens_refill_float]
    split
    next hroom =>
      -- time and rates have no sign, so what is gained is a number if it is below one
      have hseconds : Double.Unsigned (secondsOf (now.since b.refilledAt)) :=
        (Double.unsigned_ofNat _).add ((Double.unsigned_ofNat _).div (Double.unsigned_ofNat _))
      have hrate := (Double.unsigned_ofNat b.rpm).div (Double.unsigned_ofNat 60)
      obtain ⟨p, hp⟩ := Double.exists_worth?_of_le
        ((Double.unsigned_of_worth? hworth).add (hseconds.mul hrate)) hcapacity hroom
      exact ⟨p, hp, (Double.le_iff hp hcapacity).mp hroom⟩
    next => exact ⟨_, hcapacity, le_rfl⟩
  exact ⟨⌊p⌋₊, ⟨p, hp, hple, rfl⟩, h.capacity_lt, h.rpm_lt⟩

theorem refilledAt_refill_of_le {b : Bucket Float} {now : Instant} (hlate : now ≤ b.refilledAt) :
    (b.refill now).refilledAt = b.refilledAt :=
  if_neg (Nat.not_lt.mpr hlate)

/-- **Refilling at a standing clock changes nothing.** -/
theorem Holds.refill_standing {b : Bucket Float} {n : ℕ} (h : b.Holds n) {now : Instant}
    (hlate : now ≤ b.refilledAt) : (b.refill now).Holds n := by
  obtain ⟨q, hworth, hle, hfloor⟩ := h.tokens
  have hnone : now.since b.refilledAt = Span.zero := by
    unfold Instant.since Span.zero
    simp only [Span.mk.injEq]
    exact Nat.sub_eq_zero_of_le hlate
  have hgained := worth?_gained hworth h.rpm_lt
  have hroom := (Double.le_iff hgained
    (Double.worth?_ofNat (h.capacity_lt.trans (by decide : 2 ^ 34 < 2 ^ 53)))).mpr hle
  refine ⟨⟨q, ?_, hle, hfloor⟩, h.capacity_lt, h.rpm_lt⟩
  rw [tokens_refill_float, hnone, if_pos hroom, hgained]

/-- There is a token to take if there is a whole one, and then there is one less. -/
theorem Holds.spend {b : Bucket Float} {n : ℕ} (h : b.Holds n) :
    (Float.ofNat 1 ≤ b.tokens ↔ 0 < n) ∧
      (0 < n → ({ b with tokens := b.tokens - Float.ofNat 1 } : Bucket Float).Holds (n - 1)) := by
  obtain ⟨q, hworth, hle, rfl⟩ := h.tokens
  have hone := Double.worth?_ofNat (n := 1) (by decide)
  rw [Double.le_iff hone hworth, Nat.cast_one, Nat.floor_pos]
  refine ⟨Iff.rfl, fun hq => ⟨⟨q - 1, ?_, ?_, Nat.floor_sub_one q⟩, h.capacity_lt, h.rpm_lt⟩⟩
  · have hcapacity : (b.capacity : ℚ) < 2 ^ 34 := by exact_mod_cast h.capacity_lt
    exact Double.worth?_sub_one hworth hq (by linarith)
  · change q - 1 ≤ b.capacity
    linarith

/-- What a request does to a bucket that holds something when it is refilled. -/
theorem Holds.take {b : Bucket Float} {n : ℕ} {now : Instant} (h : (b.refill now).Holds n) :
    (b.take now).1 = decide (0 < n) ∧ (b.take now).2.Holds (n - 1) ∧
      (b.take now).2.capacity = b.capacity ∧
      (b.take now).2.refilledAt = (b.refill now).refilledAt := by
  obtain ⟨hwhole, hrest⟩ := h.spend
  have htake : b.take now = if Float.ofNat 1 ≤ (b.refill now).tokens
      then (true, { b.refill now with tokens := (b.refill now).tokens - Float.ofNat 1 })
      else (false, b.refill now) := rfl
  rw [htake]
  by_cases hn : 0 < n
  · rw [if_pos (hwhole.mpr hn), decide_eq_true hn]
    exact ⟨rfl, hrest hn, rfl, rfl⟩
  · obtain rfl : n = 0 := by omega
    rw [if_neg (fun hle => hn (hwhole.mp hle)), decide_eq_false hn]
    exact ⟨rfl, h, rfl, rfl⟩

end Bucket

/-! ### Questions about one endpoint -/

namespace Gate

section

variable {τ : Type} [TokenNumber τ] (g : Gate τ)

theorem burst_ask (q : Inquiry) : (g.ask q).2.burst = g.burst := by
  obtain ⟨time, id, rate?⟩ := q
  cases rate? with
  | some rpm => exact burst_tryAcquire
  | none =>
    change (g.available id time).2.burst = g.burst
    unfold available
    split <;> rfl

/-- A count refills the bucket of one endpoint. -/
theorem get?_available (id a : EndpointId) (now : Instant) :
    (g.available id now).2.buckets.get? a =
      if a = id then (g.buckets.get? id).map (·.refill now) else g.buckets.get? a := by
  unfold available
  cases hb : g.buckets.get? id with
  | none =>
    by_cases ha : a = id
    · rw [if_pos ha, ha]
      exact hb
    · rw [if_neg ha]
  | some b => exact Table.get?_insert g.buckets id a _

/-- **A question about one endpoint leaves the bucket of another alone.** -/
theorem get?_ask_of_ne {q : Inquiry} {id : EndpointId} (hne : q.id ≠ id) :
    (g.ask q).2.buckets.get? id = g.buckets.get? id := by
  obtain ⟨time, a, rate?⟩ := q
  cases rate? with
  | some rpm => exact get?_tryAcquire_of_ne (Ne.symm hne)
  | none =>
    change (g.available a time).2.buckets.get? id = _
    rw [get?_available, if_neg (Ne.symm hne)]

/-- A request that draws on a bucket is granted if there is a token in it. -/
theorem tryAcquire_fst {id : EndpointId} {rpm : UInt32} (hrpm : rpm ≠ 0) (now : Instant) :
    (g.tryAcquire id rpm now).1 = ((g.bucketFor id rpm now).take now).1 := by
  rw [tryAcquire, if_neg hrpm]

variable {g}

theorem bucketFor_of_fits {id : EndpointId} {b : Bucket τ} {rpm : UInt32}
    (hb : g.buckets.get? id = some b) (hfits : b.fits rpm g.burst = true) (now : Instant) :
    g.bucketFor id rpm now = b := by
  simp only [bucketFor, hb, hfits, if_true]

theorem bucketFor_of_not_fits {id : EndpointId} {rpm : UInt32}
    (hnew : ∀ b, g.buckets.get? id = some b → b.fits rpm g.burst = false) (now : Instant) :
    g.bucketFor id rpm now = .full rpm g.burst now := by
  unfold bucketFor
  cases hb : g.buckets.get? id with
  | none => rfl
  | some b => simp only [hnew b hb, Bool.false_eq_true, if_false]

end

/-- A gate of doubles has some whole tokens left for an endpoint at some rate, in a bucket
that has been looked at at some times. -/
def Left (g : Gate Float) (id : EndpointId) (rpm : UInt32) (n : ℕ) (times : List Instant) :
    Prop :=
  ∃ b, g.buckets.get? id = some b ∧ b.capacity = rpm.toNat + g.burst.toNat ∧ b.Holds n ∧
    ∀ t ∈ times, t ≤ b.refilledAt

end Gate

/-- The answers of a counter that starts with some tokens. -/
def countdown : ℕ → List Inquiry → List Answer
  | _, [] => []
  | n, q :: qs =>
      match q.rate? with
      | some _ => .token (decide (0 < n)) :: countdown (n - 1) qs
      | none => .count (some (min n (UInt32.size - 1))) :: countdown n qs

/-- The questions about an endpoint. -/
def about (id : EndpointId) (qs : List Inquiry) : List Inquiry := qs.filter (·.id = id)

theorem about_cons (id : EndpointId) (q : Inquiry) (qs : List Inquiry) :
    about id (q :: qs) = if q.id = id then q :: about id qs else about id qs := by
  simp only [about, List.filter_cons, decide_eq_true_eq]

/-- The answers to the questions about an endpoint. -/
def answersTo (id : EndpointId) (log : List (Inquiry × Answer)) : List Answer :=
  (log.filter (·.1.id = id)).map Prod.snd

theorem answersTo_cons (id : EndpointId) (x : Inquiry × Answer) (log : List (Inquiry × Answer)) :
    answersTo id (x :: log) =
      if x.1.id = id then x.2 :: answersTo id log else answersTo id log := by
  simp only [answersTo, List.filter_cons, decide_eq_true_eq]
  split <;> rfl

/-- What requests are answered. -/
def decisions (answers : List Answer) : List Bool :=
  answers.filterMap fun
    | .token granted => some granted
    | .count _ => none

/-- **A counter grants as many requests as it has tokens, and then none.** -/
theorem decisions_countdown (qs : List Inquiry) : ∀ n, decisions (countdown n qs) =
    List.replicate (min n (qs.countP (·.rate?.isSome))) true ++
      List.replicate (qs.countP (·.rate?.isSome) - n) false := by
  induction qs with
  | nil => intro n; rw [List.countP_nil, Nat.min_zero, Nat.zero_sub]; rfl
  | cons q qs ih =>
    intro n
    cases hrate : q.rate? with
    | none =>
      have hcount : (q :: qs).countP (·.rate?.isSome) = qs.countP (·.rate?.isSome) := by
        rw [List.countP_cons, hrate]
        rfl
      have hskip : decisions (countdown n (q :: qs)) = decisions (countdown n qs) := by
        simp only [countdown, hrate, decisions, List.filterMap_cons]
      rw [hcount, hskip, ih]
    | some rpm =>
      have hcount : (q :: qs).countP (·.rate?.isSome) = qs.countP (·.rate?.isSome) + 1 := by
        rw [List.countP_cons, hrate]
        rfl
      have hanswer : decisions (countdown n (q :: qs)) =
          decide (0 < n) :: decisions (countdown (n - 1) qs) := by
        simp only [countdown, hrate, decisions, List.filterMap_cons]
      rw [hcount, hanswer, ih]
      cases n with
      | zero =>
        rw [Nat.zero_sub, Nat.zero_min, Nat.zero_min]
        rfl
      | succ n =>
        rw [Nat.add_sub_cancel, Nat.add_min_add_right, Nat.add_sub_add_right,
          List.replicate_succ]
        rfl

/-- The requests among the questions about an endpoint. -/
def requests (id : EndpointId) (qs : List Inquiry) : ℕ := (about id qs).countP (·.rate?.isSome)

/-- A question that may be asked while the clock of an endpoint stands: if it is about the
endpoint, it is a request at one rate or a count, at a time up to one of those that the
bucket has been looked at. -/
def Inquiry.AtRest (q : Inquiry) (id : EndpointId) (rpm : UInt32) (times : List Instant) :
    Prop :=
  q.id = id → (q.rate? = some rpm ∨ q.rate? = none) ∧ ∃ t ∈ times, q.time ≤ t

namespace Gate

variable {g : Gate Float} {id : EndpointId} {rpm : UInt32} {n : ℕ} {times : List Instant}

/-- A request that draws on a bucket at a standing clock. -/
theorem tryAcquire_standing (hrpm : rpm ≠ 0) {now : Instant}
    (hholds : (g.bucketFor id rpm now).Holds n)
    (hcapacity : (g.bucketFor id rpm now).capacity = rpm.toNat + g.burst.toNat)
    (htimes : ∀ t ∈ times, t ≤ (g.bucketFor id rpm now).refilledAt)
    (hlate : ∃ t ∈ times, now ≤ t) :
    (g.tryAcquire id rpm now).1 = decide (0 < n) ∧
      (g.tryAcquire id rpm now).2.Left id rpm (n - 1) times := by
  obtain ⟨t, ht, hle⟩ := hlate
  have hstanding := Nat.le_trans hle (htimes t ht)
  obtain ⟨hgranted, hrest, hsize, hrefilled⟩ := (hholds.refill_standing hstanding).take
  constructor
  · rw [tryAcquire_fst g hrpm, hgranted]
  · refine ⟨((g.bucketFor id rpm now).take now).2, ?_, ?_, hrest, ?_⟩
    · rw [get?_tryAcquire, if_pos ⟨rfl, hrpm⟩]
    · rw [burst_tryAcquire, hsize, hcapacity]
    · rwa [hrefilled, Bucket.refilledAt_refill_of_le hstanding]

/-- A request that draws on a new bucket. -/
theorem tryAcquire_full (hrpm : rpm ≠ 0) {now : Instant}
    (hdrawn : g.bucketFor id rpm now = .full rpm g.burst now) :
    (g.tryAcquire id rpm now).1 = decide (0 < rpm.toNat + g.burst.toNat) ∧
      (g.tryAcquire id rpm now).2.Left id rpm (rpm.toNat + g.burst.toNat - 1) [now] := by
  have htimes : ∀ t ∈ [now], t ≤ (g.bucketFor id rpm now).refilledAt := by
    rw [hdrawn, List.forall_mem_singleton]
    exact Nat.le_refl _
  refine tryAcquire_standing hrpm ?_ ?_ htimes ⟨now, List.mem_singleton_self now, Nat.le_refl _⟩
  · rw [hdrawn]
    exact Bucket.holds_full rpm g.burst now
  · rw [hdrawn]
    rfl

theorem Left.le_room (h : g.Left id rpm n times) : n ≤ rpm.toNat + g.burst.toNat := by
  obtain ⟨b, -, hcapacity, hholds, -⟩ := h
  rw [← hcapacity]
  exact hholds.le_capacity

/-- A bucket has the size of one rate only. -/
theorem Left.rate_eq (h : g.Left id rpm n times) {b : Bucket Float}
    (hb : g.buckets.get? id = some b) {rpm' : UInt32} (hfits : b.fits rpm' g.burst = true) :
    rpm = rpm' := by
  obtain ⟨b', hb', hcapacity, -⟩ := h
  obtain rfl : b' = b := Option.some.inj (hb'.symm.trans hb)
  have hsize : b'.capacity = rpm'.toNat + g.burst.toNat := beq_iff_eq.mp hfits
  refine UInt32.toNat_inj.mp ?_
  omega

theorem Left.tryAcquire (h : g.Left id rpm n times) (hrpm : rpm ≠ 0) {now : Instant}
    (hlate : ∃ t ∈ times, now ≤ t) :
    (g.tryAcquire id rpm now).1 = decide (0 < n) ∧
      (g.tryAcquire id rpm now).2.Left id rpm (n - 1) times := by
  obtain ⟨b, hb, hcapacity, hholds, htimes⟩ := h
  have hdrawn := bucketFor_of_fits hb (beq_iff_eq.mpr hcapacity) now
  rw [← hdrawn] at hcapacity hholds htimes
  exact tryAcquire_standing hrpm hholds hcapacity htimes hlate

/-- A count reports the whole tokens that it finds when it has refilled the bucket. -/
theorem available_of_holds {b : Bucket Float} {now : Instant} (hb : g.buckets.get? id = some b)
    (hcapacity : b.capacity = rpm.toNat + g.burst.toNat) (hholds : (b.refill now).Holds n)
    (htimes : ∀ t ∈ times, t ≤ b.refilledAt) :
    (g.available id now).1 = some (min n (UInt32.size - 1)) ∧
      (g.available id now).2.Left id rpm n (now :: times) := by
  constructor
  · unfold Gate.available
    simp only [hb, hholds.floor]
  · refine ⟨b.refill now, ?_, ?_, hholds, fun t ht => ?_⟩
    · rw [get?_available, if_pos rfl, hb, Option.map_some]
    · rwa [show (g.available id now).2.burst = g.burst from burst_ask g ⟨now, id, none⟩]
    · rcases List.mem_cons.mp ht with rfl | ht
      · exact b.le_refilledAt_refill t
      · exact Nat.le_trans (htimes t ht) (b.refilledAt_le_refill now)

theorem Left.available (h : g.Left id rpm n times) {now : Instant}
    (hlate : ∃ t ∈ times, now ≤ t) :
    (g.available id now).1 = some (min n (UInt32.size - 1)) ∧
      (g.available id now).2.Left id rpm n times := by
  obtain ⟨b, hb, hcapacity, hholds, htimes⟩ := h
  obtain ⟨t, ht, hle⟩ := hlate
  have hrefilled := hholds.refill_standing (Nat.le_trans hle (htimes t ht))
  obtain ⟨hreport, b', hb', hcapacity', hholds', htimes'⟩ :=
    available_of_holds hb hcapacity hrefilled htimes
  exact ⟨hreport, b', hb', hcapacity', hholds', fun u hu => htimes' u (List.mem_cons_of_mem _ hu)⟩

theorem Left.of_ne (h : g.Left id rpm n times) {q : Inquiry} (hne : q.id ≠ id) :
    (g.ask q).2.Left id rpm n times := by
  obtain ⟨b, hb, hcapacity, hrest⟩ := h
  exact ⟨b, by rw [get?_ask_of_ne g hne, hb], by rw [burst_ask, hcapacity], hrest⟩

/-- Questions about an endpoint are answered as by a counter that starts with some
tokens. -/
structure CountsDown (g : Gate Float) (id : EndpointId) (n : ℕ) (qs : List Inquiry) : Prop where
  /-- Each answer is that of the counter. -/
  answers : answersTo id (g.transcript qs) = countdown n (about id qs)
  /-- So the first requests are granted, as many as there are tokens, and the others are
  refused. -/
  granted_first : decisions (answersTo id (g.transcript qs)) =
    List.replicate (min n (requests id qs)) true ++ List.replicate (requests id qs - n) false

theorem CountsDown.of_answers {qs : List Inquiry}
    (h : answersTo id (g.transcript qs) = countdown n (about id qs)) : g.CountsDown id n qs :=
  ⟨h, by rw [h, decisions_countdown]; rfl⟩

/-- **At a standing clock a gate is a counter**, whatever it is asked about other
endpoints. -/
theorem Left.answersTo_transcript (hrpm : rpm ≠ 0) (qs : List Inquiry) :
    ∀ {g : Gate Float} {n : ℕ}, g.Left id rpm n times → (∀ q ∈ qs, q.AtRest id rpm times) →
      answersTo id (g.transcript qs) = countdown n (about id qs) := by
  induction qs with
  | nil => intro g n _ _; rfl
  | cons q qs ih =>
    intro g n h hqs
    have hrest := fun q' hq' => hqs q' (List.mem_cons_of_mem q hq')
    rw [Gate.transcript, answersTo_cons, about_cons]
    by_cases hid : q.id = id
    · obtain ⟨hrate, hlate⟩ := hqs q List.mem_cons_self hid
      rw [if_pos hid, if_pos hid]
      obtain ⟨time, a, rate?⟩ := q
      obtain rfl : a = id := hid
      rcases hrate with hrate | hrate <;> obtain rfl : rate? = _ := hrate
      · obtain ⟨hgranted, hleft⟩ := h.tryAcquire hrpm hlate
        rw [countdown, ← ih hleft hrest, ← hgranted]
        rfl
      · obtain ⟨hreport, hleft⟩ := h.available hlate
        rw [countdown, ← ih hleft hrest, ← hreport]
        rfl
    · rw [if_neg hid, if_neg hid, ih (h.of_ne hid) hrest]

end Gate

/-! ### What a gate has been used for -/

/-- What a gate is used for. -/
inductive Usage where
  /-- It is asked something. -/
  | ask (q : Inquiry)
  /-- It is to forget every bucket. -/
  | reset

/-- What is known of an endpoint's bucket without looking at its tokens. -/
structure Account where
  /-- The rate that the bucket was made for. -/
  rpm : UInt32
  /-- When it was made and when it has been looked at since. -/
  times : List Instant
  deriving DecidableEq

namespace Account

/-- A bucket is made for a request, if there is none of its rate. -/
def request (account? : Option Account) (rpm : UInt32) (time : Instant) : Account :=
  match account? with
  | some a => if a.rpm = rpm then { a with times := time :: a.times } else ⟨rpm, [time]⟩
  | none => ⟨rpm, [time]⟩

theorem rpm_request (account? : Option Account) (rpm : UInt32) (time : Instant) :
    (request account? rpm time).rpm = rpm := by
  unfold request
  split
  · split
    · assumption
    · rfl
  · rfl

/-- What is known of a bucket after the gate has been used. -/
def after (id : EndpointId) (account? : Option Account) : Usage → Option Account
  | .reset => none
  | .ask q =>
      if q.id = id then
        match q.rate? with
        | some rpm => if rpm = 0 then account? else some (request account? rpm q.time)
        | none => account?.map fun a => { a with times := q.time :: a.times }
      else account?

end Account

/-- What is known of the bucket of an endpoint from what a new gate was used for. -/
def account (id : EndpointId) (past : List Usage) : Option Account :=
  past.foldl (Account.after id) none

namespace Gate

section

variable {τ : Type} [TokenNumber τ]

/-- Use a gate. -/
def serve (g : Gate τ) : Usage → Gate τ
  | .ask q => (g.ask q).2
  | .reset => g.reset

/-- The gate after it has been used for some things. -/
def served (g : Gate τ) (past : List Usage) : Gate τ := past.foldl serve g

theorem burst_serve (g : Gate τ) (s : Usage) : (g.serve s).burst = g.burst := by
  cases s with
  | ask q => exact burst_ask g q
  | reset => rfl

end

/-- What is known of the bucket of an endpoint is true of it. -/
def Tracks (g : Gate Float) (id : EndpointId) : Option Account → Prop
  | none => g.buckets.get? id = none
  | some a => ∃ n, g.Left id a.rpm n a.times

variable {g : Gate Float} {id : EndpointId} {account? : Option Account}

theorem Tracks.congr {g' : Gate Float} (h : g.Tracks id account?) (hburst : g'.burst = g.burst)
    (hbucket : g'.buckets.get? id = g.buckets.get? id) : g'.Tracks id account? := by
  cases account? with
  | none => exact hbucket.trans h
  | some a =>
    obtain ⟨n, b, hb, hcapacity, hrest⟩ := h
    exact ⟨n, b, hbucket.trans hb, by rw [hburst, hcapacity], hrest⟩

/-- A request at another rate draws on a full bucket. -/
theorem Tracks.bucketFor_new (h : g.Tracks id account?) {rpm : UInt32}
    (hnew : ∀ a, account? = some a → a.rpm ≠ rpm) (now : Instant) :
    g.bucketFor id rpm now = .full rpm g.burst now := by
  refine bucketFor_of_not_fits (fun b hb => ?_) now
  cases account? with
  | none => rw [show g.buckets.get? id = none from h] at hb; cases hb
  | some a =>
    obtain ⟨n, hleft⟩ := h
    exact Bool.eq_false_iff.mpr fun hfits => hnew a rfl (hleft.rate_eq hb hfits)

/-- The bucket that a request draws on is the one that is known to be made for it. -/
theorem Tracks.bucketFor (h : g.Tracks id account?) (rpm : UInt32) (now : Instant) :
    (g.bucketFor id rpm now).capacity = rpm.toNat + g.burst.toNat ∧
      (∃ n, (g.bucketFor id rpm now).Holds n) ∧
      ∀ t ∈ (Account.request account? rpm now).times,
        t = now ∨ t ≤ (g.bucketFor id rpm now).refilledAt := by
  by_cases hown : ∃ a, account? = some a ∧ a.rpm = rpm
  · obtain ⟨a, rfl, rfl⟩ := hown
    obtain ⟨n, b, hb, hcapacity, hholds, htimes⟩ := h
    rw [bucketFor_of_fits hb (beq_iff_eq.mpr hcapacity)]
    refine ⟨hcapacity, ⟨n, hholds⟩, fun t ht => ?_⟩
    rw [Account.request, if_pos rfl] at ht
    exact (List.mem_cons.mp ht).imp_right (htimes t)
  · have hnew : ∀ a, account? = some a → a.rpm ≠ rpm := fun a ha hrpm => hown ⟨a, ha, hrpm⟩
    rw [h.bucketFor_new hnew now]
    refine ⟨rfl, ⟨_, Bucket.holds_full rpm g.burst now⟩, fun t ht => Or.inl ?_⟩
    have hrequest : Account.request account? rpm now = ⟨rpm, [now]⟩ := by
      cases account? with
      | none => rfl
      | some a => exact if_neg (hnew a rfl)
    rw [hrequest] at ht
    exact List.mem_singleton.mp ht

/-- A request leaves the bucket that is known to be there. -/
theorem Tracks.tryAcquire (h : g.Tracks id account?) {rpm : UInt32} (hrpm : rpm ≠ 0)
    (now : Instant) :
    (g.tryAcquire id rpm now).2.Tracks id (some (Account.request account? rpm now)) := by
  obtain ⟨hcapacity, ⟨n, hholds⟩, htimes⟩ := h.bucketFor rpm now
  obtain ⟨m, hrefilled⟩ := hholds.refill now
  obtain ⟨-, hrest, hsize, hlast⟩ := hrefilled.take
  refine ⟨m - 1, ((g.bucketFor id rpm now).take now).2, ?_, ?_, hrest, fun t ht => ?_⟩
  · rw [get?_tryAcquire, if_pos ⟨rfl, hrpm⟩]
  · rw [hsize, hcapacity, Account.rpm_request, burst_tryAcquire]
  · rw [hlast]
    rcases htimes t ht with rfl | hearlier
    · exact Bucket.le_refilledAt_refill _ t
    · exact Nat.le_trans hearlier (Bucket.refilledAt_le_refill _ now)

/-- A count leaves the bucket that is known to be there. -/
theorem Tracks.available (h : g.Tracks id account?) (now : Instant) :
    (g.available id now).2.Tracks id
      (account?.map fun a => { a with times := now :: a.times }) := by
  cases account? with
  | none =>
    have hbucket := get?_available g id id now
    rwa [if_pos rfl, show g.buckets.get? id = none from h] at hbucket
  | some a =>
    obtain ⟨n, b, hb, hcapacity, hholds, htimes⟩ := h
    obtain ⟨m, hrefilled⟩ := hholds.refill now
    exact ⟨m, (available_of_holds hb hcapacity hrefilled htimes).2⟩

/-- **Whatever a gate is used for, what is known of its buckets stays true.** -/
theorem Tracks.serve (h : g.Tracks id account?) (s : Usage) :
    (g.serve s).Tracks id (Account.after id account? s) := by
  cases s with
  | reset => rfl
  | ask q =>
    by_cases hid : q.id = id
    · obtain ⟨time, a, rate?⟩ := q
      obtain rfl : a = id := hid
      rw [Account.after, if_pos rfl]
      cases rate? with
      | none => exact h.available time
      | some rpm =>
        by_cases hrpm : rpm = 0
        · have hsame : g.serve (.ask ⟨time, a, some rpm⟩) = g := by
            change (g.tryAcquire a rpm time).2 = g
            rw [Gate.tryAcquire, if_pos hrpm]
          simp only [if_pos hrpm, hsame]
          exact h
        · simp only [if_neg hrpm]
          exact h.tryAcquire hrpm time
    · rw [Account.after, if_neg hid]
      exact h.congr (burst_ask g q) (get?_ask_of_ne g hid)

theorem Tracks.served (past : List Usage) : ∀ {g : Gate Float} {account? : Option Account},
    g.Tracks id account? → (g.served past).Tracks id (past.foldl (Account.after id) account?) := by
  induction past with
  | nil => exact fun h => h
  | cons s past ih => exact fun h => ih (h.serve s)

theorem burst_served (past : List Usage) : ∀ g : Gate Float, (g.served past).burst = g.burst := by
  induction past with
  | nil => exact fun _ => rfl
  | cons s past ih => exact fun g => (ih (g.serve s)).trans (burst_serve g s)

/-- What a gate spends, and what it says of it, when an endpoint is asked for tokens at
some rate while its clock stands at the time `now` or goes back. -/
structure SpendsReported (g : Gate Float) (account? : Option Account) (id : EndpointId)
    (rpm : UInt32) (now : Instant) : Prop where
  /-- If there is a bucket of that rate, a count finds some whole tokens in it, at most as
  many as it has room for, and reports them as far as 32 bits go.  From then on, at times up
  to `now` or to any other at which the bucket has been looked at, it is a counter. -/
  counted : ∀ times, account? = some ⟨rpm, times⟩ → ∃ n ≤ rpm.toNat + g.burst.toNat,
    (∃ b, (g.available id now).2.buckets.get? id = some b ∧ b.Holds n) ∧
    (g.available id now).1 = some (min n (UInt32.size - 1)) ∧
    ∀ qs, (∀ q ∈ qs, q.AtRest id rpm (now :: times)) → (g.available id now).2.CountsDown id n qs
  /-- If there is none, a request makes a bucket that is a counter from the start, with as
  many tokens as it has room for. -/
  fresh : (∀ a, account? = some a → a.rpm ≠ rpm) →
    ∀ qs, (∀ q ∈ qs, q.AtRest id rpm [now]) →
      g.CountsDown id (rpm.toNat + g.burst.toNat) (⟨now, id, some rpm⟩ :: qs)
  /-- No question about another endpoint changes the bucket. -/
  apart : ∀ q, q.id ≠ id → (g.ask q).2.buckets.get? id = g.buckets.get? id

end Gate

/-- **A gate spends what it reports**, with any burst and whatever it has been used for, if
its tokens are counted in doubles and however its clock has moved. -/
theorem gate_spends_reported (burst : UInt32) (past : List Usage) (id : EndpointId)
    {rpm : UInt32} (hrpm : rpm ≠ 0) (now : Instant) :
    (({ burst } : Gate Float).served past).burst = burst ∧
      (({ burst } : Gate Float).served past).SpendsReported (account id past) id rpm now := by
  refine ⟨Gate.burst_served past _, ?_⟩
  have htracks : (({ burst } : Gate Float).served past).Tracks id (account id past) :=
    Gate.Tracks.served past rfl
  generalize ({ burst } : Gate Float).served past = g at htracks ⊢
  generalize account id past = account? at htracks ⊢
  exact {
    counted := by
      rintro times rfl
      obtain ⟨_, b, hb, hcapacity, hholds, htimes⟩ := htracks
      obtain ⟨n, hrefilled⟩ := hholds.refill now
      obtain ⟨hreport, hleft⟩ := Gate.available_of_holds hb hcapacity hrefilled htimes
      have hroom := hrefilled.le_capacity
      rw [Bucket.capacity_refill, hcapacity] at hroom
      refine ⟨n, hroom, ?_, hreport, fun qs hqs =>
        .of_answers (Gate.Left.answersTo_transcript hrpm qs hleft hqs)⟩
      obtain ⟨b', hb', -, hholds', -⟩ := hleft
      exact ⟨b', hb', hholds'⟩
    fresh := by
      intro hnew qs hqs
      obtain ⟨hgranted, hleft⟩ := Gate.tryAcquire_full hrpm (htracks.bucketFor_new hnew now)
      apply Gate.CountsDown.of_answers
      rw [Gate.transcript, answersTo_cons, about_cons, if_pos rfl, if_pos rfl, countdown,
        ← Gate.Left.answersTo_transcript hrpm qs hleft hqs, ← hgranted]
      rfl
    apart := fun q hne => g.get?_ask_of_ne hne }

/-- A bucket for two requests a minute and one more has been emptied, and has gained one and
a half tokens since.  One request is granted, and then neither one at an earlier time nor
another one at the same. -/
theorem gate_spends_reported_backward :
    let id : EndpointId := ⟨"openai/m#0123456789ab"⟩
    let seconds (n : UInt64) : Instant := Instant.later ⟨0, by decide⟩ (.ofMillis (1000 * n))
    let asks (n : UInt64) : Inquiry := ⟨seconds n, id, some 2⟩
    let past : List Usage := List.replicate 4 (.ask (asks 0))
    let g : Gate Float := ({ burst := 1 } : Gate Float).served past
    account id past = some ⟨2, List.replicate 4 (seconds 0)⟩ ∧
      (g.available id (seconds 45)).1 = some 1 ∧
      decisions (answersTo id ((g.available id (seconds 45)).2.transcript
        [asks 45, asks 10, asks 45])) = [true, false, false] := by
  intro id seconds asks past g
  have haccount : account id past = some ⟨2, List.replicate 4 (seconds 0)⟩ := by
    decide +kernel
  have hreport : (g.available id (seconds 45)).1 = some 1 := by decide +kernel
  obtain ⟨-, hspends⟩ := gate_spends_reported 1 past id (show (2 : UInt32) ≠ 0 by decide)
    (seconds 45)
  obtain ⟨n, -, -, hcount, hcounter⟩ := hspends.counted _ haccount
  have hn : n = 1 := by
    have := Option.some.inj (hcount.symm.trans hreport)
    simp only [UInt32.size] at this
    omega
  subst hn
  have hstanding : ∀ q ∈ [asks 45, asks 10, asks 45],
      q.AtRest id 2 (seconds 45 :: List.replicate 4 (seconds 0)) := by
    intro q hq _
    refine ⟨?_, seconds 45, List.mem_cons_self, ?_⟩
    · revert q; decide +kernel
    · revert q; decide +kernel
  refine ⟨haccount, hreport, ?_⟩
  rw [(hcounter _ hstanding).granted_first]
  decide +kernel

end Failover
