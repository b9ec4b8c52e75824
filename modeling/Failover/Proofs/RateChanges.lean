import Failover.Proofs.StandingClock

/-!
# Budgets whose rate changes

A budget belongs to an endpoint's identity, but its rate is told with every request.
Endpoints of one identity can be configured at different rates, and then requests at
these rates draw on one bucket.  The bucket has the size of one rate at a time: when a
request asks for another, it starts over full.

So the rate that is the greatest does not bound what is granted at one time.  What is
granted between two changes of the rate is bounded, by the room of the bucket; and how
often the rate changes bounds the rest.

## Main definitions

* `Gate.requested`, `Gate.granted` — requests for one endpoint, all at one time.
* `rateChanges` — how often their rate changes.
* `Gate.Stands` — the clock of an endpoint's bucket stands.

## Main results

* `Gate.Stands.tryAcquire` — what a request at any rate takes, and what it leaves.
* `Gate.Left.granted_le` — what is granted takes up the tokens that are left, and the room
  of a bucket for each change.
* `Gate.granted_le_of_changes` — **how many requests are granted at one time**, when the
  endpoint has no bucket to begin with.
* `Gate.granted_exceeds_rate` — the greatest rate alone is no bound.
-/

namespace Failover

/-- How often the rate of a request is not that of the one before it. -/
def rateChanges : List UInt32 → ℕ
  | rpm :: rpm' :: rates => (if rpm = rpm' then 0 else 1) + rateChanges (rpm' :: rates)
  | _ => 0

theorem rateChanges_replicate (n : ℕ) (rpm : UInt32) :
    rateChanges (List.replicate n rpm) = 0 := by
  induction n with
  | zero => rfl
  | succ n ih =>
    cases n with
    | zero => rfl
    | succ n => simpa [List.replicate_succ, rateChanges] using ih

namespace Gate

/-! ### Requests at one time -/

section

variable {τ : Type} [TokenNumber τ]

/-- The gate after requests for an endpoint at one time, each at a rate of its own. -/
def requested (g : Gate τ) (id : EndpointId) (now : Instant) (rates : List UInt32) : Gate τ :=
  rates.foldl (fun g rpm => (g.tryAcquire id rpm now).2) g

/-- How many of these requests are granted. -/
def granted (g : Gate τ) (id : EndpointId) (now : Instant) : List UInt32 → ℕ
  | [] => 0
  | rpm :: rates =>
      (if (g.tryAcquire id rpm now).1 then 1 else 0) +
        (g.tryAcquire id rpm now).2.granted id now rates

@[simp] theorem requested_cons (g : Gate τ) (id : EndpointId) (now : Instant) (rpm : UInt32)
    (rates : List UInt32) :
    g.requested id now (rpm :: rates) = (g.tryAcquire id rpm now).2.requested id now rates := rfl

end

/-! ### What is granted -/

variable {g : Gate Float} {id : EndpointId} {now : Instant} {rpm : UInt32}

/-- If an endpoint has a bucket, that has been looked at at the time `now`. -/
def Stands (g : Gate Float) (id : EndpointId) (now : Instant) : Prop :=
  ∀ b, g.buckets.get? id = some b → ∃ rpm n, g.Left id rpm n [now]

theorem Left.stands {n : ℕ} (h : g.Left id rpm n [now]) : g.Stands id now :=
  fun _ _ => ⟨rpm, n, h⟩

/-- A request at the rate of the bucket takes what is missing afterwards. -/
theorem Left.granted_add {n : ℕ} (h : g.Left id rpm n [now]) (hrpm : rpm ≠ 0) :
    (g.tryAcquire id rpm now).2.Left id rpm (n - 1) [now] ∧
      (if (g.tryAcquire id rpm now).1 then 1 else 0) + (n - 1) = n := by
  obtain ⟨hgranted, hafter⟩ :=
    h.tryAcquire hrpm ⟨now, List.mem_singleton_self now, Nat.le_refl _⟩
  refine ⟨hafter, ?_⟩
  rw [hgranted]
  cases n with
  | zero => rfl
  | succ n =>
    rw [if_pos (decide_eq_true n.succ_pos), Nat.add_sub_cancel, Nat.add_comm]

/-- A request leaves a bucket of its rate, and takes no more than that has room for. -/
theorem Stands.tryAcquire (h : g.Stands id now) (hrpm : rpm ≠ 0) :
    ∃ n, (g.tryAcquire id rpm now).2.Left id rpm n [now] ∧
      (if (g.tryAcquire id rpm now).1 then 1 else 0) + n ≤ rpm.toNat + g.burst.toNat := by
  by_cases hown : ∃ n, g.Left id rpm n [now]
  · obtain ⟨n, hleft⟩ := hown
    obtain ⟨hafter, hspent⟩ := hleft.granted_add hrpm
    exact ⟨n - 1, hafter, hspent.le.trans hleft.le_room⟩
  · -- the bucket, if there is one, was made for another rate, and starts over full
    have hdrawn : g.bucketFor id rpm now = .full rpm g.burst now := by
      refine bucketFor_of_not_fits (fun b hb => ?_) now
      obtain ⟨rpm', n, hleft⟩ := h b hb
      refine Bool.eq_false_iff.mpr fun hfits => hown ⟨n, ?_⟩
      rwa [hleft.rate_eq hb hfits] at hleft
    obtain ⟨hgranted, hafter⟩ := tryAcquire_full hrpm hdrawn
    have hpos : 0 < rpm.toNat := Nat.pos_of_ne_zero fun hzero => hrpm (UInt32.toNat_inj.mp hzero)
    refine ⟨_, hafter, ?_⟩
    rw [hgranted]
    split <;> omega

theorem Stands.requested (rates : List UInt32) : ∀ {g : Gate Float}, g.Stands id now →
    (∀ rpm ∈ rates, 0 < rpm) → (g.requested id now rates).Stands id now := by
  induction rates with
  | nil => intro g h _; exact h
  | cons rpm rates ih =>
    intro g h hpos
    obtain ⟨n, hleft, -⟩ :=
      h.tryAcquire (UInt32.pos_iff_ne_zero.mp (hpos rpm List.mem_cons_self))
    exact ih hleft.stands fun a ha => hpos a (List.mem_cons_of_mem rpm ha)

theorem burst_requested (rates : List UInt32) :
    ∀ (g : Gate Float), (g.requested id now rates).burst = g.burst := by
  induction rates with
  | nil => intro g; rfl
  | cons rpm rates ih =>
    intro g
    rw [requested_cons, ih, burst_tryAcquire]

/-- **What is granted takes up the tokens that are left, and the room of a bucket for each
change of the rate.** -/
theorem Left.granted_le {bound : ℕ} (rates : List UInt32) :
    ∀ {g : Gate Float} {rpm : UInt32} {n : ℕ}, g.Left id rpm n [now] →
      (∀ a ∈ rates, 0 < a) → (∀ a ∈ rates, a.toNat ≤ bound) →
        g.granted id now rates ≤ n + rateChanges (rpm :: rates) * (bound + g.burst.toNat) := by
  induction rates with
  | nil => intro g rpm n _ _ _; exact Nat.zero_le _
  | cons rpm' rates ih =>
    intro g rpm n h hpos hbound
    have hrpm' : rpm' ≠ 0 := UInt32.pos_iff_ne_zero.mp (hpos rpm' List.mem_cons_self)
    have hpos' := fun a ha => hpos a (List.mem_cons_of_mem rpm' ha)
    have hbound' := fun a ha => hbound a (List.mem_cons_of_mem rpm' ha)
    have hburst : (g.tryAcquire id rpm' now).2.burst = g.burst := burst_tryAcquire
    rw [granted, rateChanges]
    by_cases hsame : rpm = rpm'
    · -- the rate is kept, so there is one token less if there was one
      subst hsame
      obtain ⟨hafter, hspent⟩ := h.granted_add hrpm'
      have hrest := ih hafter hpos' hbound'
      rw [hburst] at hrest
      rw [if_pos rfl, Nat.zero_add]
      omega
    · -- the rate changes, so there may be as many tokens as there is room for
      obtain ⟨n', hafter, hroom⟩ := h.stands.tryAcquire hrpm'
      have hrest := ih hafter hpos' hbound'
      have hle := hbound rpm' List.mem_cons_self
      rw [hburst] at hrest
      rw [if_neg hsame, Nat.add_mul, Nat.one_mul]
      omega

/-- What is granted takes up the room of a bucket, once and once more for each change. -/
theorem Stands.granted_le {bound : ℕ} {rates : List UInt32} (h : g.Stands id now)
    (hpos : ∀ a ∈ rates, 0 < a) (hbound : ∀ a ∈ rates, a.toNat ≤ bound) :
    g.granted id now rates ≤ (rateChanges rates + 1) * (bound + g.burst.toNat) := by
  cases rates with
  | nil => exact Nat.zero_le _
  | cons rpm rates =>
    obtain ⟨n, hafter, hroom⟩ :=
      h.tryAcquire (UInt32.pos_iff_ne_zero.mp (hpos rpm List.mem_cons_self))
    have hrest := hafter.granted_le rates (fun a ha => hpos a (List.mem_cons_of_mem rpm ha))
      fun a ha => hbound a (List.mem_cons_of_mem rpm ha)
    have hle := hbound rpm List.mem_cons_self
    rw [burst_tryAcquire] at hrest
    rw [granted, Nat.add_mul, Nat.one_mul]
    omega

/-- At a rate that does not change no more is granted than the bucket has room for. -/
theorem Stands.granted_replicate_le (h : g.Stands id now) (hpos : 0 < rpm) (n : ℕ) :
    g.granted id now (List.replicate n rpm) ≤ rpm.toNat + g.burst.toNat := by
  have hall : ∀ a ∈ List.replicate n rpm, a = rpm := fun a ha => List.eq_of_mem_replicate ha
  have hbound : ∀ a ∈ List.replicate n rpm, a.toNat ≤ rpm.toNat := by
    intro a ha
    rw [hall a ha]
  have hle := h.granted_le (fun a ha => hall a ha ▸ hpos) hbound
  rwa [rateChanges_replicate, Nat.zero_add, Nat.one_mul] at hle

end Gate

/-- **How many requests are granted at one time.**  Take any gate, an endpoint that has
no bucket yet, and requests for it that are all made at one time, at rates that are
positive and at most `bound`.  Then

* of requests in a row that are made at one rate, no more are granted than that rate and
  the burst, whatever was asked before them;
* of all the requests, no more are granted than `bound` and the burst, once, and once
  more for each change of the rate. -/
theorem Gate.granted_le_of_changes {g : Gate Float} {id : EndpointId} {now : Instant}
    {bound : ℕ} {rates : List UInt32} (hnew : g.buckets.get? id = none)
    (hpos : ∀ rpm ∈ rates, 0 < rpm) (hbound : ∀ rpm ∈ rates, rpm.toNat ≤ bound) :
    (∀ earlier n rpm later, rates = earlier ++ List.replicate n rpm ++ later →
      (g.requested id now earlier).granted id now (List.replicate n rpm) ≤
        rpm.toNat + g.burst.toNat) ∧
    g.granted id now rates ≤ (rateChanges rates + 1) * (bound + g.burst.toNat) := by
  have hstands : g.Stands id now := by
    intro b hb
    cases hnew.symm.trans hb
  constructor
  · intro earlier n rpm later hsplit
    rcases Nat.eq_zero_or_pos n with rfl | hn
    · exact Nat.zero_le _
    have hmem : rpm ∈ rates := by
      rw [hsplit]
      simp [Nat.ne_of_gt hn]
    have hearlier : ∀ a ∈ earlier, 0 < a := by
      intro a ha
      refine hpos a ?_
      rw [hsplit, List.append_assoc]
      exact List.mem_append_left _ ha
    have hle := (hstands.requested earlier hearlier).granted_replicate_le (hpos rpm hmem) n
    rwa [burst_requested] at hle
  · exact hstands.granted_le hpos hbound

/-- A request at rate one and then two at rate two are all granted, the rate having
changed once. -/
theorem Gate.granted_le_of_changes_one_two :
    let g : Gate Float := {}
    let id : EndpointId := ⟨"openai/m#0123456789ab"⟩
    let now : Instant := ⟨0, by decide⟩
    g.granted id now [1, 2, 2] = 3 ∧
      (g.requested id now [1]).granted id now [2, 2] ≤ 2 + 0 ∧
      g.granted id now [1, 2, 2] ≤ (1 + 1) * (2 + 0) := by
  intro g id now
  have hnew : g.buckets.get? id = none := rfl
  have hpos : ∀ rpm ∈ ([1, 2, 2] : List UInt32), 0 < rpm := by simp
  have hbound : ∀ rpm ∈ ([1, 2, 2] : List UInt32), rpm.toNat ≤ 2 := by simp
  obtain ⟨hrow, hall⟩ : _ ∧ g.granted id now [1, 2, 2] ≤ _ :=
    Gate.granted_le_of_changes hnew hpos hbound
  exact ⟨by decide +kernel, hrow [1] 2 2 [] rfl, hall⟩

/-- **The greatest rate alone is no bound** of what is granted at one time. -/
theorem Gate.granted_exceeds_rate :
    ¬ ∀ (g : Gate Float) (id : EndpointId) (now : Instant) (bound : ℕ) (rates : List UInt32),
      g.buckets.get? id = none → (∀ rpm ∈ rates, 0 < rpm) → (∀ rpm ∈ rates, rpm.toNat ≤ bound) →
        g.granted id now rates ≤ bound + g.burst.toNat := by
  intro h
  have hle := h {} ⟨"openai/m#0123456789ab"⟩ ⟨0, by decide⟩ 2 [1, 2, 2] rfl (by simp) (by simp)
  revert hle
  decide +kernel

end Failover
