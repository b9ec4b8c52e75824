import Failover.Proofs.Traffic
import Failover.Rehearsal

/-!
# Rehearsals are traffic

A rehearsal lets calls go on among scripted backends: it decides which call is due
next and when, and what backends and callers do then.  All that it does to its
router and to its calls are moves, made while the clock stands still, and between
them time passes.  So whatever holds of all traffic holds of every performance.

## Main definitions

* `Leads` — what moves of one call lead to.
* `Rehearsal.Reaches` — the same within a rehearsal.
* `Rehearsal.traffic` — the traffic that a rehearsal bears.

## Main results

* `Rehearsal.reaches_run` — an errand of a call leads from one move to the next.
* `Rehearsal.perform_traffic` — **a performance is a run of traffic.**
-/

namespace Failover

variable {τ : Type} [TokenNumber τ] {α : Type}

/-! ### Moves of one call -/

/-- Moves of a call lead from one router and call to another. -/
inductive Leads (now : Instant) (r : Router τ) (call : Call α) :
    Router τ → Call α → Prop
  /-- No move is made. -/
  | refl : Leads now r call r call
  /-- One more move is made. -/
  | move {r' : Router τ} {call' : Call α} (h : Leads now r call r' call') (m : Move α) :
      Leads now r call (r'.move now call' m).router (r'.move now call' m).call

theorem Leads.trans {now : Instant} {r₁ r₂ r₃ : Router τ} {c₁ c₂ c₃ : Call α}
    (h : Leads now r₁ c₁ r₂ c₂) (h' : Leads now r₂ c₂ r₃ c₃) : Leads now r₁ c₁ r₃ c₃ := by
  induction h' with
  | refl => exact h
  | move _ m ih => exact ih.move m

/-- What moves of a call lead to, acts of traffic lead to. -/
theorem Leads.run {w : Traffic τ α} {i : Nat} {call call' : Call α} {r' : Router τ}
    (hcall : w.calls[i]? = some call) (h : Leads w.clock w.router call r' call') :
    ∃ acts, w.run acts = { w with router := r', calls := w.calls.set i call' } := by
  have hlt := (List.getElem?_eq_some_iff.mp hcall).1
  induction h with
  | refl =>
    obtain ⟨_, hget⟩ := List.getElem?_eq_some_iff.mp hcall
    refine ⟨[], ?_⟩
    rw [Traffic.run_nil, ← hget, List.set_getElem_self]
  | @move _ c _ m ih =>
    obtain ⟨acts, hacts⟩ := ih
    refine ⟨acts ++ [.move i m], ?_⟩
    have hcurrent : (w.calls.set i c)[i]? = some c := List.getElem?_set_self hlt
    rw [Traffic.run_append, hacts, Traffic.run_cons, Traffic.run_nil]
    simp only [Traffic.step, hcurrent, List.set_set]

/-! ### Rehearsals -/

namespace Rehearsal

/-- A rehearsal and one of its actors go over into others by moves of the actor's
call, without time passing. -/
def Reaches (p q : Rehearsal τ α × Actor α) : Prop :=
  q.1.clock = p.1.clock ∧ Leads p.1.clock p.1.router p.2.call q.1.router q.2.call

theorem Reaches.of_eq {p q : Rehearsal τ α × Actor α} (hclock : q.1.clock = p.1.clock)
    (hrouter : q.1.router = p.1.router) (hcall : q.2.call = p.2.call) : Reaches p q := by
  refine ⟨hclock, ?_⟩
  rw [hrouter, hcall]
  exact .refl

theorem Reaches.trans {p q s : Rehearsal τ α × Actor α} (h : Reaches p q) (h' : Reaches q s) :
    Reaches p s := by
  refine ⟨h'.1.trans h.1, h.2.trans ?_⟩
  rw [← h.1]
  exact h'.2

/-- A caller that cancels at an event makes a move of its own. -/
theorem reaches_move (r : Rehearsal τ α) (a : Actor α) (m : Move α) :
    Reaches (r, a) (r.move a m) := by
  refine ⟨rfl, ?_⟩
  have hmoved : Leads r.clock r.router a.call (r.router.move r.clock a.call m).router
      (r.router.move r.clock a.call m).call := .move .refl m
  unfold Rehearsal.move Actor.countEvents
  dsimp only
  split
  · exact hmoved
  · split
    · exact hmoved.move .cancel
    · exact hmoved

omit [TokenNumber τ] in
theorem cancelScope_eq (r : Rehearsal τ α) (i : Nat) (scope : Option Scope) :
    (r.cancelScope i scope).2.clock = r.clock ∧
      (r.cancelScope i scope).2.router = r.router := by
  cases scope with
  | none => exact ⟨rfl, rfl⟩
  | some scope => cases scope <;> exact ⟨rfl, rfl⟩

theorem reaches_finish (r : Rehearsal τ α) (a : Actor α) (b : Behaviour α) (i : Nat)
    (cancels : Bool) : Reaches (r, a) (r.finish a b i cancels) := by
  obtain ⟨hclock, hrouter⟩ := r.cancelScope_eq i b.cancelsAtEnd
  have hsame : Reaches (r, a) ((r.cancelScope i b.cancelsAtEnd).2, { a with arrival := none }) :=
    .of_eq hclock hrouter rfl
  exact hsame.trans (reaches_move _ _ _)

theorem reaches_invoke (r : Rehearsal τ α) (caller : Nat) (a : Actor α) (e : Endpoint) :
    Reaches (r, a) (r.invoke caller a e) := by
  unfold invoke
  dsimp only
  generalize ((r.script.next e).1.getD { reply := .ok (r.unscripted e) }) = b
  generalize hr' : ({ r with
    script := (r.script.next e).2
    invocations := r.invocations ++ [_] } : Rehearsal τ α) = r'
  obtain ⟨hclock, hrouter⟩ := r'.cancelScope_eq r.invocations.length b.cancelsFirst
  have hsame : Reaches (r, a) ((r'.cancelScope r.invocations.length b.cancelsFirst).2, a) := by
    subst hr'
    exact .of_eq hclock hrouter rfl
  split
  · exact hsame.trans (reaches_finish _ _ _ _ _)
  · exact (hsame.trans (reaches_move _ _ _)).trans (.of_eq rfl rfl rfl)

theorem reaches_drive (caller n : Nat) : ∀ (r : Rehearsal τ α) (a : Actor α),
    Reaches (r, a) (drive caller n r a) := by
  induction n with
  | zero => intro r a; exact .of_eq rfl rfl rfl
  | succ n ih =>
    intro r a
    unfold drive
    split
    · dsimp only
      have htaken : Reaches (r, a) (r.move a .takeUp) := reaches_move r a .takeUp
      split
      · exact (htaken.trans (reaches_invoke _ _ _ _)).trans (ih _ _)
      · exact htaken.trans (ih _ _)
    -- a call that waits or is over is left to itself
    · exact .of_eq rfl rfl rfl
    · exact .of_eq rfl rfl rfl

/-- **An errand of a call leads from one move to the next.** -/
theorem reaches_run (r : Rehearsal τ α) (caller : Nat) (a : Actor α) (errand : Errand α) :
    Reaches (r, a) (r.run caller a errand) := by
  cases errand with
  | start =>
    have hstarted : Reaches (r, a) (r, { a with started := true }) := .of_eq rfl rfl rfl
    exact hstarted.trans (reaches_drive _ _ _ _)
  | arrival arrival =>
    exact (reaches_finish r a arrival.behaviour arrival.invocation false).trans
      (reaches_drive _ _ _ _)
  | cancellation =>
    have hcancelled : Reaches (r, a) (r.move { a with cancelAt := none } .cancel) :=
      (Reaches.of_eq rfl rfl rfl).trans (reaches_move r { a with cancelAt := none } .cancel)
    have hdropped := hcancelled.trans ((Reaches.of_eq rfl rfl rfl).trans (reaches_move
      (r.move { a with cancelAt := none } .cancel).1
      { (r.move { a with cancelAt := none } .cancel).2 with arrival := none } (.poll {})))
    exact hdropped.trans (reaches_drive _ _ _ _)

/-! ### Performances -/

/-- The traffic that a rehearsal bears, given its actors. -/
def traffic (r : Rehearsal τ α) (actors : List (Actor α)) : Traffic τ α :=
  ⟨r.router, r.clock, actors.map (·.call)⟩

/-- What an actor reaches, the traffic reaches. -/
theorem Reaches.run {r : Rehearsal τ α} {a : Actor α} {q : Rehearsal τ α × Actor α}
    (h : Reaches (r, a) q) {actors : List (Actor α)} {i : Nat} (ha : actors[i]? = some a) :
    ∃ acts, (r.traffic actors).run acts = q.1.traffic (actors.set i q.2) := by
  obtain ⟨hclock, hleads⟩ := h
  have hcall : (r.traffic actors).calls[i]? = some a.call := by
    rw [traffic, List.getElem?_map, ha]
    rfl
  obtain ⟨acts, hacts⟩ := Leads.run hcall hleads
  refine ⟨acts, ?_⟩
  rw [hacts, traffic, traffic, List.map_set, hclock]

/-- Time can pass up to any later reading of the clock. -/
theorem exists_pass (r : Rehearsal τ α) (actors : List (Actor α)) (due : Instant) :
    ∃ acts, (r.traffic actors).run acts =
      { r with clock := if r.clock < due then due else r.clock }.traffic actors := by
  by_cases hlt : r.clock < due
  · have hlater : r.clock.later (due.since r.clock) = due := by
      have hnanos : r.clock.nanos + (due.nanos - r.clock.nanos) = due.nanos := by
        have : r.clock.nanos < due.nanos := hlt
        omega
      simp [Instant.later, Instant.add?, Instant.since, hnanos, due.nanos_lt]
    refine ⟨[.pass (due.since r.clock)], ?_⟩
    rw [if_pos hlt, Traffic.run_cons, Traffic.run_nil]
    simp only [traffic, Traffic.step, hlater]
  · refine ⟨[], ?_⟩
    rw [if_neg hlt]
    rfl

/-- What actors play is a run of traffic. -/
theorem play_traffic (n : Nat) : ∀ (r : Rehearsal τ α) (actors : List (Actor α)),
    ∃ acts, (r.traffic actors).run acts = (play n r actors).1.traffic (play n r actors).2 := by
  induction n with
  | zero => intro r actors; exact ⟨[], rfl⟩
  | succ n ih =>
    intro r actors
    unfold play
    split
    · exact ⟨[], rfl⟩
    next x _ =>
      split
      · exact ⟨[], rfl⟩
      next a ha =>
        dsimp only
        obtain ⟨waited, hwaited⟩ := r.exists_pass actors x.due
        generalize { r with clock := if r.clock < x.due then x.due else r.clock } = r' at *
        obtain ⟨moved, hmoved⟩ := (reaches_run r' x.position a x.errand).run ha
        have hboth : (r.traffic actors).run (waited ++ moved) =
            (r'.run x.position a x.errand).1.traffic
              (actors.set x.position (r'.run x.position a x.errand).2) := by
          rw [Traffic.run_append, hwaited, hmoved]
        split
        · exact ⟨_, hboth⟩
        · obtain ⟨rest, hrest⟩ := ih (r'.run x.position a x.errand).1
            (actors.set x.position (r'.run x.position a x.errand).2)
          refine ⟨(waited ++ moved) ++ rest, ?_⟩
          rw [Traffic.run_append, hboth, hrest]

/-- Calls can be made one after the other. -/
theorem exists_start (w : Traffic τ α) (requests : List Request) :
    ∃ acts, w.run acts =
      { w with calls := w.calls ++ requests.map fun q => .start q.candidates q.cancelled } := by
  induction requests generalizing w with
  | nil => exact ⟨[], by simp⟩
  | cons q requests ih =>
    obtain ⟨acts, hacts⟩ := ih (w.step (.start q.candidates q.cancelled))
    refine ⟨.start q.candidates q.cancelled :: acts, ?_⟩
    rw [Traffic.run_cons, hacts]
    simp [Traffic.step]

/-- **A performance is a run of traffic**: of the router that it finds, with a call
for each request.  It leaves the router of that run, and the results are those of
its calls. -/
theorem perform_traffic (r : Rehearsal τ α) (requests : List Request) :
    ∃ acts, let w := (⟨r.router, r.clock, []⟩ : Traffic τ α).run acts
      (r.perform requests).2.router = w.router ∧
      (r.perform requests).2.clock = w.clock ∧
      (r.perform requests).1.results.map (·.verdict) = w.calls.map (·.verdict?) := by
  obtain ⟨made, hmade⟩ := exists_start ⟨r.router, r.clock, []⟩ requests
  have hactors : (⟨r.router, r.clock, []⟩ : Traffic τ α).run made =
      { r with invocations := [] }.traffic (requests.map (Actor.ofRequest r.clock)) := by
    rw [hmade, traffic, List.map_map]
    rfl
  obtain ⟨played, hplayed⟩ := play_traffic
    (requests.foldl (fun n q => n + (q.candidates.length + 2)) 0)
    { r with invocations := [] } (requests.map (Actor.ofRequest r.clock))
  refine ⟨made ++ played, ?_⟩
  rw [Traffic.run_append, hactors, hplayed]
  refine ⟨rfl, rfl, ?_⟩
  simp [perform, traffic]

end Rehearsal

end Failover
