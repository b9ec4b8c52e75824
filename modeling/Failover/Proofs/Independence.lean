import Failover.Proofs.Shares
import Failover.Proofs.Walks
import Mathlib.Logic.Function.Basic

/-!
# Independent calls

The calls of a router go on by slots.  In a slot of its own a call walks through a segment
that nothing interrupts: it is started or woken, goes through as many candidates as it can,
and waits for a backend again or is over.  Its client decides what happens in the segment,
from a memory of its own: whether the call has been cancelled by then, and what its backends
do when they are asked.  The router is all that different calls have in common.

Calls are independent if nothing that one of them has to do with is another one's: no
candidate, and no endpoint.  Then their segments are of no consequence to each other, and
all schedules that give each call the same slots leave the same.

## Main definitions

* `Client`, `Session` — what a call meets with, and what has become of it so far.
* `Client.segment` — a segment of a walk.
* `Service`, `Service.run` — the calls of a router, and a schedule of their slots.
* `Service.own` — the slots of one call in a schedule.
* `Service.Independent` — calls that have nothing in common but the router.
* `Service.Unentangled` — the order of the slots is of no consequence.

## Main results

* `Client.segment_rests`, `Client.segment_yields` — a segment ends with the call waiting or
  over, and is a run of traffic.
* `Client.segment_preserves` — what every move of a call preserves, a segment preserves.
* `Client.segment_congr` — a segment goes by the share of its call only.
* `Service.Kept.fares_alone` — a call fares as if there were no others.
* `independent_calls` — **independent calls do not influence each other.**
-/

namespace Failover

variable {τ : Type} [TokenNumber τ]

/-! ### Segments -/

/-- What a call meets with, of which no other call knows anything. -/
structure Client (α σ : Type) where
  /-- Whether the call is cancelled before it makes its next move, given the time and what
  has happened to it; and what is remembered then. -/
  attend : σ → Instant → List (Incident α) → Bool × σ
  /-- What the backend of an endpoint does when it is asked whether it is done, and what is
  remembered then. -/
  answer : σ → Instant → Endpoint → Poll α × σ

/-- What has become of a call so far. -/
structure Session (α σ : Type) where
  /-- The call, with its trail, and with its result once it is over. -/
  call : Call α
  /-- What its client remembers. -/
  memory : σ
  /-- What has happened to it, with the backends that were called and the events that were
  observed. -/
  log : List (Incident α) := []

/-- The session of a call that is to start. -/
def Session.start {α σ : Type} (chain : List String) (memory : σ) : Session α σ :=
  { call := .start chain, memory }

/-- A session after a move of its call. -/
def Session.moved {α σ : Type} (s : Session α σ) (r : Router τ) (now : Instant) (m : Move α) :
    Session α σ :=
  { s with call := (r.move now s.call m).call, log := s.log ++ r.incidents now s.call m }

omit [TokenNumber τ] in
theorem Call.KeepsTo.cancelIf {α : Type} {call : Call α} {share : Share} {r : Router τ}
    (h : call.KeepsTo share r) (cancels : Bool) : (call.cancelIf cancels).KeepsTo share r :=
  ⟨h.ahead, h.awaited, h.endpoints⟩

/-- Only a call that waits for its backend is not brought on by its next move. -/
theorem Progress.flying_of_suits {α : Type} {r : Router τ} {now : Instant} {call : Call α}
    {m : Move α} {turn : Turn τ α} {log : List (Incident α)} (h : Progress r now call m turn log)
    (hsuits : m.suits call.stage = true) (hm : m ≠ .cancel) (hon : m.bringsOn call = false) :
    ∃ f, turn.call.stage = .flying f := by
  cases h with
  | idle hnone => cases hsuits.symm.trans hnone
  | cancelled => exact absurd rfl hm
  | waiting => exact ⟨_, rfl⟩
  | _ => cases hon

namespace Client

variable {α σ : Type} (client : Client α σ) (now : Instant)

/-- A session in which it has been found out whether the call is cancelled. -/
def attended (s : Session α σ) : Session α σ :=
  let (cancels, memory) := client.attend s.memory now s.log
  { s with call := s.call.cancelIf cancels, memory }

/-- The next move of a call that is not over, and the session in which it is made. -/
def next? (s : Session α σ) : Option (Move α × Session α σ) :=
  match s.call.stage with
  | .over _ => none
  | .seeking _ => some (.takeUp, client.attended now s)
  | .flying f =>
      let s := client.attended now s
      if s.call.cancelled then some (.poll {}, s)
      else
        let (p, memory) := client.answer s.memory now f.endpoint
        some (.poll p, { s with memory })

variable {client now}

/-- The next move is one for a call at its stage, and before it is made the call has been
cancelled at most. -/
theorem next?_eq_some {s s' : Session α σ} {m : Move α} (h : client.next? now s = some (m, s')) :
    (∃ cancels, s'.call = s.call.cancelIf cancels) ∧ s'.log = s.log ∧
      m.suits s'.call.stage = true ∧ m ≠ .cancel := by
  obtain ⟨⟨stage, trail, cancelled⟩, memory, log⟩ := s
  cases stage with
  | seeking rest =>
    cases h
    exact ⟨⟨_, rfl⟩, rfl, rfl, nofun⟩
  | flying f =>
    dsimp only [next?] at h
    split at h
    all_goals
      cases h
      exact ⟨⟨_, rfl⟩, rfl, rfl, nofun⟩
  | _ => cases h

/-- Only a call that is over makes no move. -/
theorem next?_eq_none {s : Session α σ} (h : client.next? now s = none) :
    ∃ v, s.call.stage = .over v := by
  unfold next? at h
  split at h
  next v hstage => exact ⟨v, hstage⟩
  next => cases h
  next =>
    dsimp only at h
    split at h <;> cases h

theorem movesLeft_moved_lt {s s' : Session α σ} {m : Move α}
    (h : client.next? now s = some (m, s')) (hm : m.bringsOn s'.call = true) (r : Router τ) :
    (s'.moved r now m).call.stage.movesLeft < s.call.stage.movesLeft := by
  obtain ⟨⟨cancels, hcall⟩, -⟩ := next?_eq_some h
  have hstage : s'.call.stage = s.call.stage := by rw [hcall, Call.cancelIf]
  rw [← hstage]
  exact (progress_move r now s'.call m).movesLeft_lt hm

variable (client now)

/-- A segment of a walk: the call moves until it has to wait or is over. -/
def segment (r : Router τ) (s : Session α σ) : Router τ × Session α σ :=
  match _hnext : client.next? now s with
  | none => (r, s)
  | some (m, s') =>
      let r' := (r.move now s'.call m).router
      if _hm : m.bringsOn s'.call = true then segment r' (s'.moved r now m)
      else (r', s'.moved r now m)
termination_by s.call.stage.movesLeft
decreasing_by exact movesLeft_moved_lt _hnext _hm r

variable {client now} {r r' : Router τ} {s s' : Session α σ} {m : Move α}

theorem segment_of_none (h : client.next? now s = none) : client.segment now r s = (r, s) := by
  rw [segment]
  split
  next => rfl
  next h' => cases h.symm.trans h'

theorem segment_of_some (h : client.next? now s = some (m, s')) :
    client.segment now r s =
      if m.bringsOn s'.call = true then
        client.segment now (r.move now s'.call m).router (s'.moved r now m)
      else ((r.move now s'.call m).router, s'.moved r now m) := by
  rw [segment]
  split
  next h' => cases h.symm.trans h'
  next h' =>
    cases h.symm.trans h'
    split <;> rfl

/-- **A segment ends with the call waiting for a backend, or over.** -/
theorem segment_rests : ∀ (r : Router τ) (s : Session α σ),
    (∃ f, (client.segment now r s).2.call.stage = .flying f) ∨
      ∃ v, (client.segment now r s).2.call.stage = .over v := by
  intro r s
  induction hsize : s.call.stage.movesLeft using Nat.strongRecOn generalizing r s with
  | ind n ih =>
    subst hsize
    cases hnext : client.next? now s with
    | none =>
      rw [segment_of_none hnext]
      exact Or.inr (next?_eq_none hnext)
    | some p =>
      obtain ⟨m, s'⟩ := p
      obtain ⟨-, -, hsuits, hm⟩ := next?_eq_some hnext
      rw [segment_of_some hnext]
      split
      next hon => exact ih _ (movesLeft_moved_lt hnext hon r) _ _ rfl
      next hon =>
        exact Or.inl ((progress_move r now s'.call m).flying_of_suits hsuits hm
          (Bool.eq_false_iff.mpr hon))

/-- **A segment is a run of traffic** in which time stands still: what holds of all runs
holds of it. -/
theorem segment_yields {calls : List (Call α)} {i : Nat} (hi : i < calls.length) :
    ∀ (r : Router τ) (s : Session α σ), ∃ log,
      (client.segment now r s).2.log = s.log ++ log ∧
      (⟨r, now, calls.set i s.call⟩ : Traffic τ α).Yields i log
        ⟨(client.segment now r s).1, now, calls.set i (client.segment now r s).2.call⟩ := by
  intro r s
  induction hsize : s.call.stage.movesLeft using Nat.strongRecOn generalizing r s with
  | ind n ih =>
    subst hsize
    cases hnext : client.next? now s with
    | none =>
      rw [segment_of_none hnext]
      exact ⟨[], (List.append_nil _).symm, .refl i _⟩
    | some p =>
      obtain ⟨m, s'⟩ := p
      obtain ⟨⟨cancels, hcall⟩, hlog, -⟩ := next?_eq_some hnext
      -- the call is cancelled, if it is to be, and then makes its move
      let scene : Scene τ Unit := ⟨r, now, ()⟩
      have hcancel := scene.yields_cancelIf hi s.call cancels
      rw [← hcall] at hcancel
      have hmoved := hcancel.trans (scene.yields_move hi s'.call m)
      rw [List.nil_append] at hmoved
      rw [segment_of_some hnext]
      split
      next hon =>
        obtain ⟨log, hafter, hrest⟩ := ih _ (movesLeft_moved_lt hnext hon r)
          (r.move now s'.call m).router (s'.moved r now m) rfl
        refine ⟨r.incidents now s'.call m ++ log, ?_, hmoved.trans hrest⟩
        rw [hafter, Session.moved, hlog, List.append_assoc]
      next => exact ⟨r.incidents now s'.call m, by rw [Session.moved, hlog], hmoved⟩

/-- **What every move of a call preserves, a segment preserves.** -/
theorem segment_preserves {P : Router τ → Call α → Prop}
    (hcancel : ∀ {r call} cancels, P r call → P r (call.cancelIf cancels))
    (hmove : ∀ {r call} m, P r call → P (r.move now call m).router (r.move now call m).call) :
    ∀ {r : Router τ} {s : Session α σ}, P r s.call →
      P (client.segment now r s).1 (client.segment now r s).2.call := by
  intro r s h
  -- every move of a segment but its last one brings the call nearer to its end
  induction hsize : s.call.stage.movesLeft using Nat.strongRecOn generalizing r s with
  | ind n ih =>
    subst hsize
    cases hnext : client.next? now s with
    | none =>
      rw [segment_of_none hnext]
      exact h
    | some p =>
      obtain ⟨m, s'⟩ := p
      obtain ⟨⟨cancels, hcall⟩, -⟩ := next?_eq_some hnext
      have hmoved : P (r.move now s'.call m).router (s'.moved r now m).call :=
        hmove m (hcall ▸ hcancel cancels h)
      rw [segment_of_some hnext]
      split
      next hm => exact ih _ (movesLeft_moved_lt hnext hm r) hmoved rfl
      next => exact hmoved

section Share

variable {share t : Share}

/-- A call that keeps to a share goes on doing so, and leaves what is apart from that share
as it was. -/
theorem segment_keepsTo (hkeeps : s.call.KeepsTo share r) (hapart : share.Apart t) :
    (client.segment now r s).2.call.KeepsTo share (client.segment now r s).1 ∧
      r.SameOn t (client.segment now r s).1 := by
  refine segment_preserves (P := fun r' call => call.KeepsTo share r' ∧ r.SameOn t r')
    (fun cancels h => ⟨h.1.cancelIf cancels, h.2⟩) ?_ ⟨hkeeps, .refl t r⟩
  rintro r' call m ⟨hkeeps, hsame⟩
  have hprogress := progress_move r' now call m
  exact ⟨hprogress.keepsTo hkeeps, hsame.trans (hprogress.sameOn_of_apart hkeeps hapart)⟩

variable (client now) in
/-- **A segment goes by the share of its call only**: it does the same in a router that is
the same on that share, and leaves routers that are the same on it again. -/
theorem segment_congr : ∀ {r r' : Router τ} {s : Session α σ}, s.call.KeepsTo share r →
    r.SameOn share r' →
      (client.segment now r' s).2 = (client.segment now r s).2 ∧
        (client.segment now r s).1.SameOn share (client.segment now r' s).1 := by
  intro r r' s hkeeps hsame
  induction hsize : s.call.stage.movesLeft using Nat.strongRecOn generalizing r r' s with
  | ind n ih =>
    subst hsize
    -- the client does not see the router, so the next move is the same in both
    cases hnext : client.next? now s with
    | none =>
      rw [segment_of_none hnext, segment_of_none hnext]
      exact ⟨rfl, hsame⟩
    | some p =>
      obtain ⟨m, s'⟩ := p
      obtain ⟨⟨cancels, hcall⟩, -⟩ := next?_eq_some hnext
      have hkeeps' : s'.call.KeepsTo share r := hcall ▸ hkeeps.cancelIf cancels
      obtain ⟨hafter, hlog, hrouter⟩ := hkeeps'.move_congr hsame now m
      have hmoved : s'.moved r' now m = s'.moved r now m := by
        rw [Session.moved, Session.moved, hafter, hlog]
      rw [segment_of_some hnext, segment_of_some hnext, hmoved]
      split
      next hm =>
        have hgoes : (s'.moved r now m).call.KeepsTo share (r.move now s'.call m).router :=
          (progress_move r now s'.call m).keepsTo hkeeps'
        exact ih _ (movesLeft_moved_lt hnext hm r) hgoes hrouter rfl
      next => exact ⟨rfl, hrouter⟩

end Share

end Client

/-! ### Calls of one router -/

/-- Calls of one router, each of its own type. -/
structure Service (τ : Type) {ι : Type} (α σ : ι → Type) where
  /-- The router. -/
  router : Router τ
  /-- The sessions of the calls. -/
  sessions : ∀ i, Session (α i) (σ i)

namespace Service

variable {ι : Type} [DecidableEq ι] {α σ : ι → Type} (clients : ∀ i, Client (α i) (σ i))

/-- The service after the segment that a call walks through in a slot. -/
def serve (w : Service τ α σ) (slot : ι × Instant) : Service τ α σ :=
  let p := (clients slot.1).segment slot.2 w.router (w.sessions slot.1)
  { router := p.1, sessions := Function.update w.sessions slot.1 p.2 }

/-- The service after a schedule, which says which call goes on and when. -/
def run (w : Service τ α σ) (schedule : List (ι × Instant)) : Service τ α σ :=
  schedule.foldl (serve clients) w

/-- The slots of one call. -/
def own (i : ι) (schedule : List (ι × Instant)) : List (ι × Instant) :=
  schedule.filter fun slot => slot.1 = i

/-- The calls have nothing in common: no candidate of one is one of another, and no
endpoint that one of them waits for or that its candidates lead to is one of another. -/
def Independent (w : Service τ α σ) : Prop :=
  ∀ i j, i ≠ j →
    ((w.sessions i).call.share w.router).Apart ((w.sessions j).call.share w.router)

variable {clients} {w : Service τ α σ}

theorem run_append (schedule schedule' : List (ι × Instant)) :
    w.run clients (schedule ++ schedule') = (w.run clients schedule).run clients schedule' :=
  List.foldl_append

theorem run_concat (schedule : List (ι × Instant)) (slot : ι × Instant) :
    w.run clients (schedule ++ [slot]) = (w.run clients schedule).serve clients slot := by
  rw [run_append]
  rfl

theorem sessions_serve_self (i : ι) (now : Instant) :
    (w.serve clients (i, now)).sessions i =
      ((clients i).segment now w.router (w.sessions i)).2 :=
  Function.update_self ..

theorem sessions_serve_of_ne {i : ι} {slot : ι × Instant} (h : i ≠ slot.1) :
    (w.serve clients slot).sessions i = w.sessions i :=
  Function.update_of_ne h ..

theorem own_append (i : ι) (schedule schedule' : List (ι × Instant)) :
    own i (schedule ++ schedule') = own i schedule ++ own i schedule' :=
  List.filter_append ..

theorem own_singleton_self (i : ι) (now : Instant) : own i [(i, now)] = [(i, now)] :=
  List.filter_cons_of_pos (decide_eq_true rfl)

theorem own_singleton_of_ne {i j : ι} (h : i ≠ j) (now : Instant) : own i [(j, now)] = [] :=
  List.filter_cons_of_neg fun htrue => h (of_decide_eq_true htrue).symm

/-- No call's own slots show which of two neighbours of different calls came first. -/
theorem own_swap (k : ι) {i j : ι} (hij : i ≠ j) (now : Instant)
    (before after : List (ι × Instant)) :
    own k (before ++ [(i, now), (j, now)] ++ after) =
      own k (before ++ [(j, now), (i, now)] ++ after) := by
  have hpair : own k ([(i, now)] ++ [(j, now)]) = own k ([(j, now)] ++ [(i, now)]) := by
    rw [own_append, own_append]
    by_cases hi : k = i
    · have hj : k ≠ j := hi ▸ hij
      rw [own_singleton_of_ne hj, List.append_nil, List.nil_append]
    · rw [own_singleton_of_ne hi, List.append_nil, List.nil_append]
  rw [own_append, own_append, own_append k (before ++ _), own_append k before]
  exact congrArg (own k before ++ · ++ own k after) hpair

/-! ### Shares of the calls -/

/-- The calls keep to shares that have nothing in common. -/
structure Kept (shares : ι → Share) (w : Service τ α σ) : Prop where
  /-- Each call keeps to its share. -/
  keeps : ∀ i, (w.sessions i).call.KeepsTo (shares i) w.router
  /-- The shares have nothing in common. -/
  apart : ∀ i j, i ≠ j → (shares i).Apart (shares j)

omit [TokenNumber τ] [DecidableEq ι] in
theorem Independent.kept (h : w.Independent) :
    w.Kept fun i => (w.sessions i).call.share w.router :=
  ⟨fun i => (w.sessions i).call.keepsTo_share w.router, h⟩

omit [TokenNumber τ] [DecidableEq ι] in
/-- Calls that are to start are independent if their chains have no name in common and no
endpoint that the one leads to has the identity of one that the other leads to. -/
theorem independent_of_start {chains : ι → List String}
    (hstart : ∀ i, (w.sessions i).call.stage = .seeking (chains i))
    (hnames : ∀ i j, i ≠ j → ∀ n ∈ chains i, n ∉ chains j)
    (hids : ∀ i j, i ≠ j → ∀ n ∈ chains i, ∀ n' ∈ chains j,
      ∀ e ∈ w.router.registry.endpoints n, ∀ e' ∈ w.router.registry.endpoints n',
        e.id ≠ e'.id) :
    w.Independent := by
  have hahead (i : ι) : (w.sessions i).call.stage.ahead = chains i := by rw [hstart, Stage.ahead]
  have hawaited (i : ι) : (w.sessions i).call.stage.awaited? = none := by
    rw [hstart, Stage.awaited?]
  intro i j hij
  refine ⟨?_, ?_⟩
  · intro n hn hn'
    simp only [Call.share, hahead, Set.mem_ofPred_eq] at hn hn'
    exact hnames i j hij n hn hn'
  · intro id hid hid'
    simp only [Call.share, hahead, hawaited, Set.mem_ofPred_eq, reduceCtorEq, false_and,
      exists_false, or_false] at hid hid'
    obtain ⟨n, hn, e, he, rfl⟩ := hid
    obtain ⟨n', hn', e', he', hsame⟩ := hid'
    exact hids i j hij n hn n' hn' e he e' he' hsame.symm

namespace Kept

variable {shares : ι → Share} {t : Share}

/-- A segment of a call shows on its share only. -/
theorem sameOn_serve (h : w.Kept shares) (slot : ι × Instant)
    (hapart : (shares slot.1).Apart t) : w.router.SameOn t (w.serve clients slot).router :=
  (Client.segment_keepsTo (h.keeps slot.1) hapart).2

theorem serve (h : w.Kept shares) (slot : ι × Instant) :
    (w.serve clients slot).Kept shares where
  keeps i := by
    by_cases hi : i = slot.1
    · subst hi
      have hempty : (shares slot.1).Apart ⟨∅, ∅⟩ := ⟨fun _ _ => id, fun _ _ => id⟩
      rw [sessions_serve_self]
      exact (Client.segment_keepsTo (h.keeps slot.1) hempty).1
    · rw [sessions_serve_of_ne hi]
      have hapart : (shares slot.1).Apart (shares i) := h.apart _ _ fun heq => hi heq.symm
      exact (h.keeps i).congr (h.sameOn_serve slot hapart)
  apart := h.apart

theorem run (schedule : List (ι × Instant)) :
    ∀ {w : Service τ α σ}, w.Kept shares → (w.run clients schedule).Kept shares := by
  induction schedule with
  | nil => exact fun h => h
  | cons slot schedule ih => exact fun h => ih (h.serve slot)

/-- What is apart from all the shares stays as it was. -/
theorem sameOn_run (hapart : ∀ i, (shares i).Apart t) (schedule : List (ι × Instant)) :
    ∀ {w : Service τ α σ}, w.Kept shares →
      w.router.SameOn t (w.run clients schedule).router := by
  induction schedule with
  | nil => exact fun {w} _ => .refl t w.router
  | cons slot schedule ih =>
    exact fun h => (h.sameOn_serve slot (hapart slot.1)).trans (ih (h.serve slot))

variable (clients) in
/-- **A call fares as if there were no others**: its own slots alone make the same of it, and
of its share of the router. -/
theorem fares_alone (h : w.Kept shares) (i : ι) (schedule : List (ι × Instant)) :
    (w.run clients schedule).sessions i = (w.run clients (own i schedule)).sessions i ∧
      (w.run clients (own i schedule)).router.SameOn (shares i)
        (w.run clients schedule).router := by
  induction schedule using List.reverseRecOn with
  | nil => exact ⟨rfl, .refl _ _⟩
  | append_singleton schedule slot ih =>
    obtain ⟨hsession, hsame⟩ := ih
    obtain ⟨j, now⟩ := slot
    rw [run_concat, own_append]
    by_cases hj : i = j
    · -- a segment of its own, which goes by its share
      subst hj
      have hkept : (w.run clients (own i schedule)).Kept shares := h.run (own i schedule)
      obtain ⟨hnext, hrouter⟩ := (clients i).segment_congr now (hkept.keeps i) hsame
      rw [own_singleton_self, run_concat, sessions_serve_self, sessions_serve_self]
      unfold Service.serve
      rw [hsession]
      exact ⟨hnext, hrouter⟩
    · -- a segment of another call, which does not show on its share
      rw [own_singleton_of_ne hj, List.append_nil, sessions_serve_of_ne hj]
      have hapart : (shares j).Apart (shares i) := h.apart j i fun heq => hj heq.symm
      exact ⟨hsession, hsame.trans ((h.run schedule).sameOn_serve (j, now) hapart)⟩

/-- Schedules that give each call the same slots leave the same. -/
theorem run_congr (h : w.Kept shares) {schedule schedule' : List (ι × Instant)}
    (hown : ∀ i, own i schedule = own i schedule') :
    w.run clients schedule = w.run clients schedule' := by
  -- both schedules are compared with what the slots of one call alone come to
  have hsessions : (w.run clients schedule).sessions = (w.run clients schedule').sessions := by
    funext i
    rw [(h.fares_alone clients i schedule).1, (h.fares_alone clients i schedule').1, hown i]
  have hsame (i : ι) : (w.run clients schedule').router.SameOn (shares i)
      (w.run clients schedule).router := by
    obtain ⟨-, hleft⟩ := h.fares_alone clients i schedule
    obtain ⟨-, hright⟩ := h.fares_alone clients i schedule'
    rw [hown i] at hleft
    exact hright.symm.trans hleft
  -- what is in no share is as it was at the beginning
  have hout : (w.run clients schedule').router.SameOn (Share.outside shares)
      (w.run clients schedule).router :=
    (sameOn_run (Share.apart_outside shares) schedule' h).symm.trans
      (sameOn_run (Share.apart_outside shares) schedule h)
  have hrouter : (w.run clients schedule).router = (w.run clients schedule').router :=
    Router.eq_of_sameOn_outside hsame hout
  generalize w.run clients schedule = v at hsessions hrouter ⊢
  generalize w.run clients schedule' = v' at hsessions hrouter ⊢
  cases v
  cases v'
  cases hsessions
  cases hrouter
  rfl

end Kept

end Service

/-- The order of the slots of different calls is of no consequence.  What a schedule leaves is
the router, with its cursors, suppressions and buckets, and of each call its result and its
trail, the backends that it called, the events that were observed of it, and what its client
remembers. -/
structure Service.Unentangled {ι : Type} [DecidableEq ι] {α σ : ι → Type}
    (clients : ∀ i, Client (α i) (σ i)) (w : Service τ α σ) : Prop where
  /-- Neighbouring slots of two calls at the same instant can be swapped, whatever comes before
  and after them. -/
  swap : ∀ {i j}, i ≠ j → ∀ now before after,
    w.run clients (before ++ [(i, now), (j, now)] ++ after) =
      w.run clients (before ++ [(j, now), (i, now)] ++ after)
  /-- All schedules that give each call the same slots leave the same. -/
  interleave : ∀ {schedule schedule'}, (∀ i, own i schedule = own i schedule') →
    w.run clients schedule = w.run clients schedule'
  /-- Each call fares as if there were no slots but its own. -/
  alone : ∀ schedule i,
    (w.run clients schedule).sessions i = (w.run clients (own i schedule)).sessions i

/-- **Independent calls do not influence each other**, whatever their clients do and however
the router stands: if no candidate of one call is one of another, and no endpoint that one of
them leads to is one that another leads to, the order of their slots is of no consequence. -/
theorem independent_calls {ι : Type} [DecidableEq ι] {α σ : ι → Type}
    (clients : ∀ i, Client (α i) (σ i)) {w : Service τ α σ} (h : w.Independent) :
    w.Unentangled clients where
  swap hij now before after := h.kept.run_congr fun k => Service.own_swap k hij now before after
  interleave hown := h.kept.run_congr hown
  alone schedule i := (h.kept.fares_alone clients i schedule).1

/-- An endpoint with an identity of its own. -/
def Endpoint.sole (name identity : String) : Endpoint :=
  ⟨name, "openai/m", {}, none, none, ⟨identity⟩⟩

/-- A client that never cancels its call, and whose backends answer at once. -/
def Client.prompt : Client Unit Unit where
  attend _ _ _ := (false, ())
  answer _ _ _ := (⟨false, some (.ok ())⟩, ())

/-- Two calls that are to start, each with a name of its own that has two endpoints. -/
def Service.twoNames : Service Rat (fun _ : Bool => Unit) fun _ => Unit where
  router :=
    { registry := [("x", "x1"), ("y", "y1"), ("x", "x2"), ("y", "y2")].foldl
        (fun r p => r.register (.sole p.1 p.2)) .empty }
  sessions i := .start [if i then "x" else "y"] ()

/-- Both calls start at once, and each calls the first endpoint of its name. -/
theorem independent_calls_twoNames :
    Service.twoNames.Independent ∧ Service.twoNames.Unentangled (fun _ => .prompt) ∧
    let w := Service.twoNames.run (fun _ => .prompt) [(true, .zero), (false, .zero)]
    invocations (w.sessions true).log = [.sole "x" "x1"] ∧
      invocations (w.sessions false).log = [.sole "y" "y1"] ∧
      w.router.registry.cursor? "x" = some 1 ∧ w.router.registry.cursor? "y" = some 1 := by
  have hx : Service.twoNames.router.registry.endpoints "x" =
      [.sole "x" "x1", .sole "x" "x2"] := by rfl
  have hy : Service.twoNames.router.registry.endpoints "y" =
      [.sole "y" "y1", .sole "y" "y2"] := by rfl
  have hstart : ∀ i, (Service.twoNames.sessions i).call.stage =
      .seeking [if i then "x" else "y"] := fun _ => rfl
  have hindependent : Service.twoNames.Independent := by
    refine Service.independent_of_start hstart (by decide) ?_
    intro i j hij n hn n' hn' e he e' he'
    cases List.mem_singleton.mp hn
    cases List.mem_singleton.mp hn'
    cases i <;> cases j
    case false.false | true.true => exact absurd rfl hij
    all_goals
      simp only [Bool.false_eq_true, if_false, if_true, hx, hy, List.mem_cons,
        List.not_mem_nil, or_false] at he he'
      rcases he with rfl | rfl <;> rcases he' with rfl | rfl <;> decide
  exact ⟨hindependent, independent_calls (fun _ => .prompt) hindependent, by decide +kernel⟩

end Failover
