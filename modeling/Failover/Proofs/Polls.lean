import Failover.Proofs.Buckets

/-!
# Asking a gate again and again

Whoever is refused a token may ask again, and whoever wants to know how many there are may
count them.  Each such question refills a bucket.  But a bucket that is refilled twice is
as full as one that is refilled once, at the later time, so that nothing comes of asking:
what the gate answers later is the same without the question.  A token that is granted is
the only thing that shows.

Nor does asking hold anything up.  A bucket gains a token in a sixtieth of its rate, as a
fraction of seconds, however often it is looked at in the meantime.  So a request is
granted whenever the last one that was granted is that long ago.

## Main definitions

* `Inquiry`, `Answer`, `Gate.ask` — questions to a gate, and its answers.
* `Gate.transcript` — questions that are asked one after the other, with the answers.
* `Pruned` — a transcript without some of the questions of which nothing came.
* `Gate.AlikeFrom` — two gates are the same from some time on.
* `Gate.Recovers` — an endpoint has a token as soon as the last one is paid off.

## Main results

* `Gate.AlikeFrom.ask`, `Gate.alikeFrom_ask` — the same question keeps gates the same, and
  so does one of which nothing comes.
* `Gate.Recovers.ask` — what every question keeps of an endpoint that recovers.
* `polls_served` — **nobody is starved, and asking is free.**
-/

namespace Failover

/-! ### Questions and answers -/

/-- A question to a gate. -/
structure Inquiry where
  /-- When it is asked. -/
  time : Instant
  /-- The endpoint that it is about. -/
  id : EndpointId
  /-- The rate at which a token is asked for, unless the tokens are to be counted. -/
  rate? : Option UInt32
  deriving DecidableEq

/-- An answer of a gate. -/
inductive Answer where
  /-- Whether a token is granted. -/
  | token (granted : Bool)
  /-- How many whole tokens there are, if there is a bucket. -/
  | count (tokens? : Option ℕ)
  deriving DecidableEq

namespace Gate

section

variable {τ : Type} [TokenNumber τ]

/-- Ask a gate a question. -/
def ask (g : Gate τ) (q : Inquiry) : Answer × Gate τ :=
  match q.rate? with
  | some rpm =>
      let (granted, g) := g.tryAcquire q.id rpm q.time
      (.token granted, g)
  | none =>
      let (tokens?, g) := g.available q.id q.time
      (.count tokens?, g)

/-- The gate after some questions. -/
def askAll (g : Gate τ) (qs : List Inquiry) : Gate τ := qs.foldl (fun g q => (g.ask q).2) g

/-- Questions that are asked one after the other, with the answers. -/
def transcript (g : Gate τ) : List Inquiry → List (Inquiry × Answer)
  | [] => []
  | q :: qs => (q, (g.ask q).1) :: (g.ask q).2.transcript qs

end

end Gate

/-- A transcript without some of the questions of which nothing came: each that was left
out was a count, or a request that was refused. -/
inductive Pruned : List (Inquiry × Answer) → List (Inquiry × Answer) → Prop
  /-- There is nothing to leave out. -/
  | nil : Pruned [] []
  /-- A question stays. -/
  | keep {x : Inquiry × Answer} {log kept : List (Inquiry × Answer)} (h : Pruned log kept) :
      Pruned (x :: log) (x :: kept)
  /-- A question of which nothing came is left out. -/
  | drop {x : Inquiry × Answer} {log kept : List (Inquiry × Answer)}
      (hidle : x.2 ≠ .token true) (h : Pruned log kept) : Pruned (x :: log) kept

/-- When tokens of an endpoint were granted. -/
def grants (id : EndpointId) (log : List (Inquiry × Answer)) : List Instant :=
  log.filterMap fun x => if x.1.id = id ∧ x.2 = .token true then some x.1.time else none

theorem grants_cons (id : EndpointId) (q : Inquiry) (a : Answer)
    (log : List (Inquiry × Answer)) :
    grants id ((q, a) :: log) =
      (if q.id = id ∧ a = .token true then [q.time] else []) ++ grants id log := by
  unfold grants
  by_cases h : q.id = id ∧ a = .token true <;> simp [h]

/-- How long a bucket of a rate takes to gain a token, in seconds. -/
def tokenTime (rpm : UInt32) : ℚ := 60 / rpm.toNat

/-! ### Buckets that are refilled twice -/

theorem Instant.le_antisymm {t u : Instant} (h : t ≤ u) (h' : u ≤ t) : t = u := by
  obtain ⟨t, ht⟩ := t
  obtain ⟨u, hu⟩ := u
  obtain rfl : t = u := Nat.le_antisymm h h'
  rfl

namespace Bucket

/-- **A bucket that is refilled twice is as full as one that is refilled once**, at the
later time. -/
theorem refill_refill (b : Bucket ℚ) {now later : Instant} (h : now ≤ later) :
    (b.refill now).refill later = b.refill later := by
  have htokens := b.tokens_refill_refill h
  have htime : ((b.refill now).refill later).refilledAt = (b.refill later).refilledAt := by
    rw [refilledAt_refill, refilledAt_refill, refilledAt_refill]
    split
    next hnow =>
      have hlater : b.refilledAt < later := Nat.lt_of_lt_of_le hnow h
      rw [if_pos hlater]
      split
      next => rfl
      next hle => exact Instant.le_antisymm h (Nat.le_of_not_lt hle)
    next => rfl
  calc (b.refill now).refill later
      = ⟨((b.refill now).refill later).tokens, b.capacity, b.rpm,
          ((b.refill now).refill later).refilledAt⟩ := rfl
    _ = b.refill later := by rw [htokens, htime]; rfl

theorem refilledAt_refill_le {b : Bucket ℚ} {now : Instant} (h : b.refilledAt ≤ now) :
    (b.refill now).refilledAt ≤ now := by
  rw [refilledAt_refill]
  split
  · exact Nat.le_refl _
  · exact h

/-- Refilling changes neither the capacity of a bucket nor its rate. -/
theorem size_congr {b b' : Bucket ℚ} {now : Instant} (h : b'.refill now = b.refill now) :
    b'.capacity = b.capacity ∧ b'.rpm = b.rpm :=
  ⟨by simpa using congrArg Bucket.capacity h, by simpa using congrArg Bucket.rpm h⟩

/-- A request finds a bucket refilled. -/
theorem take_congr {b b' : Bucket ℚ} {now : Instant} (h : b'.refill now = b.refill now) :
    b'.take now = b.take now := by
  unfold take
  rw [h]

end Bucket

/-! ### Nothing comes of asking -/

namespace Gate

/-- Two gates are the same from some time on: whenever a bucket is looked at from then on,
that of the one gate is as full as that of the other. -/
structure AlikeFrom (now : Instant) (g g' : Gate ℚ) : Prop where
  /-- The gates have the same burst. -/
  burst : g'.burst = g.burst
  /-- The buckets are refilled to the same. -/
  buckets : ∀ id later, now ≤ later →
    (g'.buckets.get? id).map (·.refill later) = (g.buckets.get? id).map (·.refill later)

namespace AlikeFrom

variable {now later : Instant} {g g' g'' : Gate ℚ}

theorem refl (now : Instant) (g : Gate ℚ) : AlikeFrom now g g := ⟨rfl, fun _ _ _ => rfl⟩

theorem symm (h : AlikeFrom now g g') : AlikeFrom now g' g :=
  ⟨h.burst.symm, fun id later hle => (h.buckets id later hle).symm⟩

theorem trans (h : AlikeFrom now g g') (h' : AlikeFrom now g' g'') : AlikeFrom now g g'' :=
  ⟨h'.burst.trans h.burst,
    fun id later hle => (h'.buckets id later hle).trans (h.buckets id later hle)⟩

theorem mono (h : AlikeFrom now g g') (hle : now ≤ later) : AlikeFrom later g g' :=
  ⟨h.burst, fun id later' hle' => h.buckets id later' (Nat.le_trans hle hle')⟩

/-- Either both gates have a bucket for an endpoint or neither has. -/
theorem get?_cases (h : AlikeFrom now g g') (id : EndpointId) :
    (g.buckets.get? id = none ∧ g'.buckets.get? id = none) ∨
    ∃ b b', g.buckets.get? id = some b ∧ g'.buckets.get? id = some b' ∧
      ∀ later, now ≤ later → b'.refill later = b.refill later := by
  have hbuckets := h.buckets id
  cases hb : g.buckets.get? id with
  | none =>
    have hnone := hbuckets now (Nat.le_refl _)
    rw [hb, Option.map_none, Option.map_eq_none_iff] at hnone
    exact Or.inl ⟨rfl, hnone⟩
  | some b =>
    cases hb' : g'.buckets.get? id with
    | none =>
      have hnone := hbuckets now (Nat.le_refl _)
      rw [hb, hb'] at hnone
      cases hnone
    | some b' =>
      refine Or.inr ⟨b, b', rfl, rfl, fun later hle => ?_⟩
      simpa [hb, hb'] using hbuckets later hle

/-- The same bucket in both gates keeps them the same. -/
theorem put (h : AlikeFrom now g g') (id : EndpointId) (b : Bucket ℚ) :
    AlikeFrom now (g.put id b) (g'.put id b) := by
  refine ⟨h.burst, fun a later hle => ?_⟩
  rw [get?_put, get?_put]
  split
  · rfl
  · exact h.buckets a later hle

/-- A request draws on buckets that are as full. -/
theorem refill_bucketFor (h : AlikeFrom now g g') (hle : now ≤ later) (id : EndpointId)
    (rpm : UInt32) :
    (g'.bucketFor id rpm later).refill later = (g.bucketFor id rpm later).refill later := by
  unfold bucketFor
  rcases h.get?_cases id with ⟨hb, hb'⟩ | ⟨b, b', hb, hb', hrefill⟩
  · rw [hb, hb', h.burst]
  · have hfits : b'.fits rpm g.burst = b.fits rpm g.burst := by
      rw [Bucket.fits, Bucket.fits, (Bucket.size_congr (hrefill later hle)).1]
    simp only [hb, hb', h.burst, hfits]
    split
    · exact hrefill later hle
    · rfl

/-- **The same question keeps gates the same**, and both give the same answer. -/
theorem ask (h : AlikeFrom now g g') {q : Inquiry} (hle : now ≤ q.time) :
    (g'.ask q).1 = (g.ask q).1 ∧ AlikeFrom q.time (g.ask q).2 (g'.ask q).2 := by
  obtain ⟨time, id, rate?⟩ := q
  have hlater := h.mono hle
  cases rate? with
  | none =>
    unfold Gate.ask available
    rcases hlater.get?_cases id with ⟨hb, hb'⟩ | ⟨b, b', hb, hb', hrefill⟩
    · simp only [hb, hb']
      exact ⟨trivial, hlater⟩
    · simp only [hb, hb', hrefill time (Nat.le_refl _)]
      exact ⟨trivial, hlater.put id (b.refill time)⟩
  | some rpm =>
    by_cases hrpm : rpm = 0
    · unfold Gate.ask tryAcquire
      simp only [hrpm, if_true]
      exact ⟨trivial, hlater⟩
    · have htake := Bucket.take_congr (hlater.refill_bucketFor (Nat.le_refl _) id rpm)
      unfold Gate.ask
      simp only [tryAcquire_eq _ id time hrpm, htake]
      exact ⟨trivial, hlater.put id _⟩

end AlikeFrom

variable {g g' : Gate ℚ} {id : EndpointId} {rpm : UInt32} {now : Instant}

/-- Refilling a bucket leaves the gate the same from then on. -/
theorem alikeFrom_put_refill {b : Bucket ℚ} (hb : g.buckets.get? id = some b)
    (now : Instant) : AlikeFrom now g (g.put id (b.refill now)) := by
  refine ⟨rfl, fun a later hle => ?_⟩
  rw [get?_put]
  split
  next ha => rw [ha, hb, Option.map_some, Option.map_some, b.refill_refill hle]
  next => rfl

/-- **A question of which nothing comes leaves the gate the same** from then on. -/
theorem alikeFrom_ask {q : Inquiry} (hidle : (g.ask q).1 ≠ .token true) :
    AlikeFrom q.time g (g.ask q).2 := by
  obtain ⟨time, id, rate?⟩ := q
  cases rate? with
  | none =>
    change AlikeFrom time g (g.available id time).2
    rcases g.available_cases id time with hsame | ⟨b, hb, hput⟩
    · rw [hsame]
      exact .refl time g
    · rw [hput]
      exact alikeFrom_put_refill hb time
  | some rpm =>
    have hrefused : (g.tryAcquire id rpm time).1 = false :=
      Bool.eq_false_iff.mpr fun htaken => hidle (congrArg Answer.token htaken)
    obtain ⟨b, hb, hput⟩ := eq_put_of_refused hrefused
    change AlikeFrom time g (g.tryAcquire id rpm time).2
    rw [hput]
    exact alikeFrom_put_refill hb time

/-- Questions of which nothing came can be left out, in one of two gates that are the
same. -/
theorem AlikeFrom.transcript_of_pruned (qs : List Inquiry) :
    ∀ {g g' : Gate ℚ} {now : Instant} {kept : List (Inquiry × Answer)}, AlikeFrom now g g' →
      (∀ q ∈ qs, now ≤ q.time) → qs.Pairwise (·.time ≤ ·.time) →
        Pruned (g.transcript qs) kept → g'.transcript (kept.map Prod.fst) = kept := by
  induction qs with
  | nil =>
    intro g g' now kept _ _ _ hpruned
    cases hpruned
    rfl
  | cons q qs ih =>
    intro g g' now kept halike hnow htimes hpruned
    obtain ⟨hlater, htimes'⟩ := List.pairwise_cons.mp htimes
    have hle : now ≤ q.time := hnow q List.mem_cons_self
    cases hpruned with
    | keep hrest =>
      obtain ⟨hanswer, hnext⟩ := halike.ask hle
      rw [List.map_cons, transcript, hanswer, ih hnext hlater htimes' hrest]
    | drop hidle hrest =>
      have hnext := (alikeFrom_ask hidle).symm.trans (halike.mono hle)
      exact ih hnext hlater htimes' hrest

/-! ### Nobody is starved -/

end Gate

/-- A bucket has a token as soon as the last one is paid off. -/
structure Bucket.Recovers (b : Bucket ℚ) (rpm : UInt32) (now : Instant)
    (granted : List Instant) : Prop where
  /-- It is one of that rate. -/
  rate : b.rpm = rpm.toNat
  /-- It has not been refilled ahead of time. -/
  refilledAt_le : b.refilledAt ≤ now
  /-- It has a token when every grant is as long ago as it takes to gain one. -/
  one_le : ∀ later, now ≤ later → (∀ s ∈ granted, tokenTime rpm ≤ (later.since s).inSeconds) →
    1 ≤ (b.refill later).tokens

namespace Gate

variable {g g' : Gate ℚ} {id : EndpointId} {rpm : UInt32} {now : Instant}
  {granted : List Instant}

/-- An endpoint has a token as soon as the last one is paid off, whether it has a bucket
of the rate or is to have one. -/
def Recovers (g : Gate ℚ) (id : EndpointId) (rpm : UInt32) (now : Instant)
    (granted : List Instant) : Prop :=
  ∀ b, g.buckets.get? id = some b → b.fits rpm g.burst = true → b.Recovers rpm now granted

theorem Recovers.mono (h : g.Recovers id rpm now granted) {later : Instant}
    (hle : now ≤ later) : g.Recovers id rpm later granted := fun b hb hfits =>
  { h b hb hfits with
    refilledAt_le := Nat.le_trans (h b hb hfits).refilledAt_le hle
    one_le := fun later' hle' => (h b hb hfits).one_le later' (Nat.le_trans hle hle') }

/-- Of gates that are the same, an endpoint recovers in the one as in the other. -/
theorem Recovers.of_alikeFrom (h : g.Recovers id rpm now granted) (halike : AlikeFrom now g g') :
    g'.Recovers id rpm now granted := by
  intro b' hb' hfits'
  rcases halike.get?_cases id with ⟨-, hnone⟩ | ⟨b, b'', hb, hb'', hrefill⟩
  · rw [hb'] at hnone
    cases hnone
  · obtain rfl : b' = b'' := Option.some.inj (hb'.symm.trans hb'')
    have hnow := hrefill now (Nat.le_refl _)
    obtain ⟨hcapacity, hrate⟩ := Bucket.size_congr hnow
    have hfits : b.fits rpm g.burst = true := by
      rwa [Bucket.fits, ← hcapacity, ← halike.burst]
    have hrecovers := h b hb hfits
    refine ⟨hrate.trans hrecovers.rate, ?_, fun later hle hpaid => ?_⟩
    · refine Nat.le_trans (b'.refilledAt_le_refill now) ?_
      rw [hnow]
      exact Bucket.refilledAt_refill_le hrecovers.refilledAt_le
    · rw [hrefill later hle]
      exact hrecovers.one_le later hle hpaid

/-- An endpoint that recovers has a token if all is paid off. -/
theorem Recovers.one_le_level (h : g.Recovers id rpm now granted) (hrpm : rpm ≠ 0)
    {later : Instant} (hle : now ≤ later)
    (hpaid : ∀ s ∈ granted, tokenTime rpm ≤ (later.since s).inSeconds) :
    1 ≤ g.level id rpm later := by
  unfold level
  rcases g.bucketFor_cases id rpm later with ⟨hown, hcapacity⟩ | hfull
  · exact (h _ hown (beq_iff_eq.mpr hcapacity)).one_le later hle hpaid
  · rw [hfull]
    exact Bucket.one_le_tokens_refill_full hrpm g.burst later later

/-- An endpoint recovers by its own bucket. -/
theorem Recovers.congr (h : g.Recovers id rpm now granted) (hburst : g'.burst = g.burst)
    (hbucket : g'.buckets.get? id = g.buckets.get? id) : g'.Recovers id rpm now granted :=
  fun b hb hfits => h b (hbucket ▸ hb) (hburst ▸ hfits)

/-- A bucket that has just given a token away has one again when that is paid off. -/
theorem Recovers.of_granted (h : g.Recovers id rpm now granted) (hrpm : rpm ≠ 0)
    (hlevel : 1 ≤ g.level id rpm now) :
    (g.tryAcquire id rpm now).2.Recovers id rpm now (granted ++ [now]) := by
  rw [eq_put_of_granted hrpm hlevel]
  intro b hb hfits
  rw [get?_put, if_pos rfl] at hb
  obtain rfl := Option.some.inj hb
  -- it was either the endpoint's own bucket, which recovered, or a full one
  obtain ⟨hrate, hlate⟩ : (g.bucketFor id rpm now).rpm = rpm.toNat ∧
      (g.bucketFor id rpm now).refilledAt ≤ now := by
    rcases g.bucketFor_cases id rpm now with ⟨hown, hcapacity⟩ | hfull
    · have hrecovers := h _ hown (beq_iff_eq.mpr hcapacity)
      exact ⟨hrecovers.rate, hrecovers.refilledAt_le⟩
    · rw [hfull]
      exact ⟨rfl, Nat.le_refl _⟩
  have hcapacity : (g.bucketFor id rpm now).capacity = rpm.toNat + g.burst.toNat :=
    beq_iff_eq.mp hfits
  refine ⟨hrate, Bucket.refilledAt_refill_le hlate, fun later hle hpaid => ?_⟩
  have hpos : (0 : ℚ) < rpm.toNat := by
    have hne : rpm.toNat ≠ 0 := fun hzero => hrpm (UInt32.toNat_inj.mp hzero)
    exact_mod_cast Nat.pos_of_ne_zero hne
  have htime : tokenTime rpm ≤
      (later.since ((g.bucketFor id rpm now).refill now).refilledAt).inSeconds :=
    (hpaid now (List.mem_append_right granted (List.mem_singleton_self now))).trans
      (Instant.inSeconds_since_le (Bucket.refilledAt_refill_le hlate))
  have hgain : 1 ≤ (later.since ((g.bucketFor id rpm now).refill now).refilledAt).inSeconds *
      (rpm.toNat / 60) := by
    rw [tokenTime, div_le_iff₀ hpos] at htime
    linarith
  have hroom : (1 : ℚ) ≤ (g.bucketFor id rpm now).capacity := by
    rw [hcapacity]
    exact_mod_cast Nat.le_add_right_of_le (Nat.cast_pos.mp hpos)
  rw [Bucket.tokens_refill]
  simp only [Bucket.rpm_refill, Bucket.capacity_refill, hrate]
  exact le_min (by linarith) hroom

/-- **Every question keeps an endpoint recovering**, if its tokens are asked for at one
rate. -/
theorem Recovers.ask (h : g.Recovers id rpm now granted) (hrpm : rpm ≠ 0) {q : Inquiry}
    (hle : now ≤ q.time) (hrate : q.id = id → ∀ rpm', q.rate? = some rpm' → rpm' = rpm) :
    (g.ask q).2.Recovers id rpm q.time
      (granted ++ if q.id = id ∧ (g.ask q).1 = .token true then [q.time] else []) := by
  have hlater := h.mono hle
  by_cases hidle : (g.ask q).1 = .token true
  · obtain ⟨time, a, rate?⟩ := q
    cases rate? with
    | none => cases hidle
    | some rpm' =>
      by_cases ha : a = id
      · subst ha
        obtain rfl := hrate rfl rpm' rfl
        rw [if_pos ⟨rfl, hidle⟩]
        exact hlater.of_granted hrpm
          ((tryAcquire_fst_eq_true_iff hrpm).mp (Answer.token.inj hidle))
      · rw [if_neg fun hown => ha hown.1, List.append_nil]
        exact hlater.congr burst_tryAcquire (get?_tryAcquire_of_ne fun heq => ha heq.symm)
  · rw [if_neg fun hgranted => hidle hgranted.2, List.append_nil]
    exact hlater.of_alikeFrom (alikeFrom_ask hidle)

theorem Recovers.askAll (hrpm : rpm ≠ 0) {later : Instant} (qs : List Inquiry) :
    ∀ {g : Gate ℚ} {now : Instant} {granted : List Instant}, g.Recovers id rpm now granted →
      now ≤ later → (∀ q ∈ qs, now ≤ q.time) → (∀ q ∈ qs, q.time ≤ later) →
        qs.Pairwise (·.time ≤ ·.time) →
          (∀ q ∈ qs, q.id = id → ∀ rpm', q.rate? = some rpm' → rpm' = rpm) →
            (g.askAll qs).Recovers id rpm later (granted ++ grants id (g.transcript qs)) := by
  induction qs with
  | nil =>
    intro g now granted h hle _ _ _ _
    rw [transcript, grants, List.filterMap_nil, List.append_nil]
    exact h.mono hle
  | cons q qs ih =>
    intro g now granted h hle hnow hlater htimes hrate
    obtain ⟨hnext, htimes'⟩ := List.pairwise_cons.mp htimes
    have hstep := h.ask hrpm (hnow q List.mem_cons_self) (hrate q List.mem_cons_self)
    have hrest := ih hstep (hlater q List.mem_cons_self) hnext
      (fun q' hq' => hlater q' (List.mem_cons_of_mem q hq')) htimes'
      fun q' hq' => hrate q' (List.mem_cons_of_mem q hq')
    rwa [List.append_assoc, ← grants_cons] at hrest

/-- What asking comes to. -/
structure ServesPolls (g : Gate ℚ) (id : EndpointId) (rpm : UInt32) (qs : List Inquiry) :
    Prop where
  /-- Let an endpoint have no bucket of some rate to begin with, and let its tokens be asked
  for at that rate alone.  Then a request is granted if each grant before it is as long ago
  as it takes to gain a token. -/
  granted : (∀ b, g.buckets.get? id = some b → b.fits rpm g.burst = false) →
    (∀ q ∈ qs, q.id = id → ∀ rpm', q.rate? = some rpm' → rpm' = rpm) →
      ∀ {before q after}, qs = before ++ q :: after → q.id = id → q.rate? = some rpm →
        (∀ s ∈ grants id (g.transcript before), tokenTime rpm ≤ (q.time.since s).inSeconds) →
          ((g.askAll before).ask q).1 = .token true
  /-- Whatever is left out of counts and of requests that were refused, of this endpoint
  and of others, what remains is answered as before. -/
  free : ∀ {kept}, Pruned (g.transcript qs) kept → g.transcript (kept.map Prod.fst) = kept

end Gate

/-- **Nobody is starved, and asking is free**, at any gate, for any endpoint and rate, and
with questions of any sort and about any endpoints, as long as they are asked in the order
of time. -/
theorem polls_served {g : Gate ℚ} {id : EndpointId} {rpm : UInt32} {qs : List Inquiry}
    (hrpm : 0 < rpm) (htimes : qs.Pairwise (·.time ≤ ·.time)) : g.ServesPolls id rpm qs where
  granted := by
    rintro hnew hrate before ⟨time, a, _⟩ after rfl hid rfl hpaid
    obtain rfl : id = a := hid.symm
    have hne : rpm ≠ 0 := UInt32.pos_iff_ne_zero.mp hrpm
    obtain ⟨hbefore, -, hearlier⟩ := List.pairwise_append.mp htimes
    -- nothing has been granted before the first question, be it when it may
    have hstart : g.Recovers id rpm ⟨0, by decide⟩ [] := fun b hb hfits =>
      absurd (hfits.symm.trans (hnew b hb)) (by decide)
    have hrecovers : (g.askAll before).Recovers id rpm time _ :=
      hstart.askAll hne before (Nat.zero_le _) (fun q _ => Nat.zero_le _)
        (fun q hq => hearlier q hq _ List.mem_cons_self) hbefore
        fun q hq => hrate q (List.mem_append_left _ hq)
    have hlevel := hrecovers.one_le_level hne (Nat.le_refl _) hpaid
    exact congrArg Answer.token ((Gate.tryAcquire_fst_eq_true_iff hne).mpr hlevel)
  free := by
    intro kept hpruned
    exact (Gate.AlikeFrom.refl ⟨0, by decide⟩ g).transcript_of_pruned qs
      (fun q _ => Nat.zero_le _) htimes hpruned

/-- An endpoint that tolerates one request a minute is asked for a token again too early,
and its tokens are counted, before the next one is granted. -/
theorem polls_served_impatient :
    let g : Gate ℚ := {}
    let id : EndpointId := ⟨"openai/m#0123456789ab"⟩
    let asks (seconds : UInt64) : Inquiry :=
      ⟨Instant.later ⟨0, by decide⟩ (.ofMillis (1000 * seconds)), id, some 1⟩
    let counts (seconds : UInt64) : Inquiry := { asks seconds with rate? := none }
    g.transcript [asks 0, asks 30, counts 45, asks 60] =
        [(asks 0, .token true), (asks 30, .token false), (counts 45, .count (some 0)),
          (asks 60, .token true)] ∧
      ((g.askAll [asks 0, asks 30, counts 45]).ask (asks 60)).1 = .token true ∧
      g.transcript [asks 0, asks 60] = [(asks 0, .token true), (asks 60, .token true)] := by
  intro g id asks counts
  have hall : g.transcript [asks 0, asks 30, counts 45, asks 60] =
      [(asks 0, .token true), (asks 30, .token false), (counts 45, .count (some 0)),
        (asks 60, .token true)] := by decide +kernel
  have hserved : g.ServesPolls id 1 [asks 0, asks 30, counts 45, asks 60] :=
    polls_served (by decide) (by decide +kernel)
  have hgrants : grants id (g.transcript [asks 0, asks 30, counts 45]) = [(asks 0).time] := by
    decide +kernel
  have hpruned : Pruned (g.transcript [asks 0, asks 30, counts 45, asks 60])
      [(asks 0, .token true), (asks 60, .token true)] := by
    rw [hall]
    exact .keep (.drop (by decide) (.drop (by decide) (.keep .nil)))
  have hrate : ∀ q ∈ [asks 0, asks 30, counts 45, asks 60], q.id = id →
      ∀ rpm, q.rate? = some rpm → rpm = 1 := by simp [asks, counts]
  refine ⟨hall, hserved.granted (fun b hb => by cases hb) hrate rfl rfl rfl ?_,
    hserved.free hpruned⟩
  rw [hgrants]
  decide +kernel

end Failover
