import Failover.Proofs.Trail

/-!
# Walks

A walk is a routed call from its beginning to its end, in surroundings that are anything
at all: they say how every flight ends, if it does, and what the call finds whenever it
goes on, be it the state of the router, the time, or that it has been cancelled by then.
They remember what they please, and they see what the call has done last, but neither
its trail nor the candidates that are left.

So a walk through a chain can be taken in two parts.  The first part of the chain is
walked as if nothing came after it.  Where it ends in an answer or is broken off, that is
the end; where it is exhausted, the rest of the chain is walked from the state and the
time that it left, and its trail comes before that of the rest.

## Main definitions

* `Scene`, `Surroundings` — where a call is made, and what it meets with.
* `Surroundings.drive`, `Surroundings.walk` — walks, with the `Journey` that each makes.
* `Call.within` — a call as a part of a longer one.
* `Surroundings.Lawful` — surroundings that do only what can be done.

## Main results

* `Surroundings.exists_drive` — a walk comes to its end if every backend comes back.
* `Progress.within` — a move does the same to a call as a part of a longer one.
* `Surroundings.drive_within` — so does a walk, up to the end of its own candidates.
* `Surroundings.Lawful.walk_run` — a walk is a run of traffic.
* `walk_append` — **walking is compositional.**
-/

namespace Failover

variable {τ : Type} [TokenNumber τ] {α σ : Type}

/-! ### Parts of a longer call -/

/-- A verdict of a call, given what was on the trail before the call. -/
def Verdict.after (earlier : List Attempt) : Verdict α → Verdict α
  | .routed r => .routed { r with trail := earlier ++ r.trail }
  | .failed (.nonRetriable abort) =>
      .failed (.nonRetriable { abort with trail := earlier ++ abort.trail })
  | .failed (.exhausted trail) => .failed (.exhausted (earlier ++ trail))
  | .failed error => .failed error
  | .clockOverflow => .clockOverflow

/-- The trail of a verdict that no candidate is left. -/
def Verdict.exhausted? : Verdict α → Option (List Attempt)
  | .failed (.exhausted trail) => some trail
  | _ => none

@[simp] theorem Verdict.after_nil (v : Verdict α) : v.after [] = v := by
  unfold after
  split <;> rfl

theorem Verdict.exhausted?_eq_some_iff {v : Verdict α} {trail : List Attempt} :
    v.exhausted? = some trail ↔ v = .failed (.exhausted trail) := by
  unfold exhausted?
  split <;> simp_all

/-- What a call is about, if it is a part of a longer one: there are more candidates after
its own, and there was something on the trail before it. -/
def Stage.within (earlier : List Attempt) (more : List String) : Stage α → Stage α
  | .seeking rest => .seeking (rest ++ more)
  | .flying f => .flying { f with rest := f.rest ++ more }
  | .over v => .over (v.after earlier)

/-- A call as a part of a longer one. -/
def Call.within (earlier : List Attempt) (more : List String) (call : Call α) : Call α :=
  ⟨call.stage.within earlier more, earlier ++ call.trail, call.cancelled⟩

section Within

variable {r : Router τ} {now : Instant} {call : Call α} {m : Move α} {turn : Turn τ α}
  {log : List (Incident α)}

/-- A move does the same to a call as a part of a longer one, unless the call has come to
the end of its own candidates. -/
theorem Progress.within (h : Progress r now call m turn log) (hopen : ∀ v, call.stage ≠ .over v)
    (hleft : call.stage ≠ .seeking []) (earlier : List Attempt) (more : List String) :
    Progress r now (call.within earlier more) m
      ⟨turn.router, turn.call.within earlier more, turn.notices⟩ log := by
  -- an attempt joins the trail at its end, so what is before the trail stays there
  have hassoc (trail : List Attempt) (a : Attempt) :
      earlier ++ (trail ++ [a]) = earlier ++ trail ++ [a] := (List.append_assoc ..).symm
  cases h with
  | @idle stage trail cancelled m hsuits =>
    have hsuits' : m.suits (stage.within earlier more) = false := by
      cases stage with
      | seeking | flying => exact hsuits
      | _ => exact absurd rfl (hopen _)
    exact .idle hsuits'
  | exhausted => exact absurd rfl hleft
  | cancelled => exact .cancelled
  | abandoned => exact .abandoned
  | unregistered hnone => exact .unregistered hnone
  | dispatched hresolve hclear hgate => exact .dispatched hresolve hclear hgate
  | waiting => exact .waiting
  | overflowed hkind hretriable hrecord => exact .overflowed hkind hretriable hrecord
  | cooling hresolve hactive ha =>
    simp only [Call.within, Stage.within, hassoc]
    exact .cooling hresolve hactive ha
  | throttled hresolve hclear hgate ha =>
    simp only [Call.within, Stage.within, hassoc]
    exact .throttled hresolve hclear hgate ha
  | dropped ha =>
    simp only [Call.within, Stage.within, Verdict.after, hassoc]
    exact .dropped ha
  | answered ha =>
    simp only [Call.within, Stage.within, Verdict.after, hassoc]
    exact .answered ha
  | broken hkind hfatal ha =>
    simp only [Call.within, Stage.within, Verdict.after, hassoc]
    exact .broken hkind hfatal ha
  | advanced hkind hretriable hrecord ha =>
    simp only [Call.within, Stage.within, hassoc]
    exact .advanced hkind hretriable hrecord ha

/-- Only a call that has come to the end of its candidates ends by exhausting them. -/
theorem Progress.exhausted?_of_over (h : Progress r now call m turn log)
    (hopen : ∀ v, call.stage ≠ .over v) (hleft : call.stage ≠ .seeking []) {v : Verdict α}
    (hover : turn.call.stage = .over v) : v.exhausted? = none := by
  cases h with
  | idle | cancelled => exact absurd hover (hopen v)
  | exhausted => exact absurd rfl hleft
  | abandoned | dropped | answered | broken | overflowed =>
    cases hover
    rfl
  | _ => cases hover

end Within

/-! ### Walks -/

/-- Where a call is made. -/
structure Scene (τ σ : Type) where
  /-- The router, as the call finds it. -/
  router : Router τ
  /-- What the clock shows. -/
  clock : Instant
  /-- What the surroundings remember. -/
  memory : σ

/-- How a flight ends. -/
inductive Ending (α : Type) where
  /-- The call is cancelled while it is out. -/
  | cancelled
  /-- The backend comes back, and the call may be cancelled in the course of it. -/
  | landed (cancels : Bool) (reply : Except Failure α)

namespace Ending

/-- Whether the call has been cancelled when the backend is asked for the last time. -/
def cancels : Ending α → Bool
  | cancelled => true
  | landed _ _ => false

/-- What the backend does when it is asked for the last time. -/
def poll : Ending α → Poll α
  | cancelled => {}
  | landed cancels reply => ⟨cancels, some reply⟩

end Ending

/-- What a call meets with.  The surroundings may change whatever there is of a scene. -/
structure Surroundings (τ α σ : Type) where
  /-- What goes on before a call takes up its next candidate, given whether it has been
  cancelled and what it has done last; and whether it is cancelled in the meantime. -/
  pause : Scene τ σ → Bool → List (Incident α) → Scene τ σ × Bool
  /-- What goes on while a backend is called, and how that ends, if it does. -/
  flight : Scene τ σ → Endpoint → Option (Scene τ σ × Ending α)

/-- What a walk makes of a call. -/
structure Journey (τ α σ : Type) where
  /-- How the call ends. -/
  verdict : Verdict α
  /-- The scene that it leaves. -/
  scene : Scene τ σ
  /-- Whether it has been cancelled by then. -/
  cancelled : Bool
  /-- What has happened to it. -/
  log : List (Incident α)

/-- A journey, given what had happened before it. -/
def Journey.after (earlier : List (Incident α)) (j : Journey τ α σ) : Journey τ α σ :=
  { j with log := earlier ++ j.log }

/-- The call, cancelled if it is to be. -/
def Call.cancelIf (call : Call α) (cancels : Bool) : Call α :=
  { call with cancelled := call.cancelled || cancels }

/-- The end of a flight brings its call on. -/
theorem Ending.bringsOn (ending : Ending α) {call : Call α} {f : Flight}
    (hstage : call.stage = .flying f) :
    (Move.poll ending.poll).bringsOn (call.cancelIf ending.cancels) = true := by
  cases ending <;> simp [Move.bringsOn, Call.cancelIf, Ending.cancels, Ending.poll, hstage]

namespace Surroundings

variable (env : Surroundings τ α σ)

/-- The scene and the call after the pause that follows what the call has done last, if it
is to take up another candidate. -/
def paused (scene : Scene τ σ) (call : Call α) (log : List (Incident α)) :
    Scene τ σ × Call α :=
  match call.stage with
  | .seeking _ =>
      let (scene, cancels) := env.pause scene call.cancelled log
      (scene, call.cancelIf cancels)
  | .flying _ | .over _ => (scene, call)

omit [TokenNumber τ] in
theorem stage_paused (scene : Scene τ σ) (call : Call α) (log : List (Incident α)) :
    (env.paused scene call log).2.stage = call.stage := by
  unfold paused
  split <;> rfl

/-- The scene and the call after a move and the pause after it. -/
def moved (scene : Scene τ σ) (call : Call α) (m : Move α) : Scene τ σ × Call α :=
  let turn := scene.router.move scene.clock call m
  env.paused { scene with router := turn.router } turn.call
    (scene.router.incidents scene.clock call m)

theorem stage_moved (scene : Scene τ σ) (call : Call α) (m : Move α) :
    (env.moved scene call m).2.stage = (scene.router.move scene.clock call m).call.stage :=
  env.stage_paused _ _ _

theorem movesLeft_moved_lt (scene : Scene τ σ) {call : Call α} {m : Move α}
    (hm : m.bringsOn call = true) :
    (env.moved scene call m).2.stage.movesLeft < call.stage.movesLeft := by
  rw [stage_moved]
  exact (progress_move scene.router scene.clock call m).movesLeft_lt hm

/-- Drive a call to its end.  There is none if a backend never comes back. -/
def drive (scene : Scene τ σ) (call : Call α) : Option (Journey τ α σ) :=
  match _hstage : call.stage with
  | .over v => some ⟨v, scene, call.cancelled, []⟩
  | .seeking _ =>
      let next := env.moved scene call .takeUp
      (drive next.1 next.2).map (·.after (scene.router.incidents scene.clock call .takeUp))
  | .flying f =>
      (env.flight scene f.endpoint).bind fun (scene, ending) =>
        let call := call.cancelIf ending.cancels
        let next := env.moved scene call (.poll ending.poll)
        (drive next.1 next.2).map
          (·.after (scene.router.incidents scene.clock call (.poll ending.poll)))
termination_by call.stage.movesLeft
decreasing_by
  · exact env.movesLeft_moved_lt scene (by simp [Move.bringsOn, _hstage])
  · exact env.movesLeft_moved_lt scene (ending.bringsOn _hstage)

/-- Drive a call to its end, beginning with a move. -/
def driveFrom (scene : Scene τ σ) (call : Call α) (m : Move α) : Option (Journey τ α σ) :=
  (env.drive (env.moved scene call m).1 (env.moved scene call m).2).map
    (·.after (scene.router.incidents scene.clock call m))

/-- Walk a chain. -/
def walk (scene : Scene τ σ) (cancelled : Bool) (chain : List String) : Option (Journey τ α σ) :=
  env.drive scene (.start chain cancelled)

section Drive

variable {env} {scene : Scene τ σ} {call : Call α}

theorem drive_of_over {v : Verdict α} (hstage : call.stage = .over v) :
    env.drive scene call = some ⟨v, scene, call.cancelled, []⟩ := by
  rw [drive]
  split
  next v' hstage' =>
    cases hstage.symm.trans hstage'
    rfl
  next hstage' => cases hstage.symm.trans hstage'
  next hstage' => cases hstage.symm.trans hstage'

theorem drive_of_seeking {rest : List String} (hstage : call.stage = .seeking rest) :
    env.drive scene call = env.driveFrom scene call .takeUp := by
  rw [drive]
  split
  next hstage' => cases hstage.symm.trans hstage'
  next => rfl
  next hstage' => cases hstage.symm.trans hstage'

theorem drive_of_flying {f : Flight} (hstage : call.stage = .flying f) :
    env.drive scene call =
      (env.flight scene f.endpoint).bind fun p =>
        env.driveFrom p.1 (call.cancelIf p.2.cancels) (.poll p.2.poll) := by
  rw [drive]
  split
  next hstage' => cases hstage.symm.trans hstage'
  next hstage' => cases hstage.symm.trans hstage'
  next f' hstage' =>
    cases hstage.symm.trans hstage'
    rfl

/-- A call that has no candidates left ends at once. -/
theorem drive_of_exhausted (scene : Scene τ σ) (trail : List Attempt) (cancelled : Bool) :
    env.drive scene ⟨.seeking [], trail, cancelled⟩ =
      some ⟨.failed (.exhausted trail), scene, cancelled, []⟩ := by
  have hmoved : env.moved scene ⟨.seeking [], trail, cancelled⟩ .takeUp =
      (scene, ⟨.over (.failed (.exhausted trail)), trail, cancelled⟩) := rfl
  have hends : Progress scene.router scene.clock (⟨.seeking [], trail, cancelled⟩ : Call α) .takeUp
      ⟨scene.router, ⟨.over (.failed (.exhausted trail)), trail, cancelled⟩, []⟩ [] := .exhausted
  obtain ⟨-, -, hlog⟩ := hends.unique (progress_move scene.router scene.clock _ .takeUp)
  rw [drive_of_seeking rfl, driveFrom, hmoved, hlog, drive_of_over rfl]
  rfl

/-- **A call can be driven to its end if every backend comes back.** -/
theorem exists_drive (hreturns : ∀ scene e, (env.flight scene e).isSome = true) :
    ∀ (scene : Scene τ σ) (call : Call α), ∃ j, env.drive scene call = some j := by
  intro scene call
  induction hsize : call.stage.movesLeft using Nat.strongRecOn generalizing scene call with
  | ind n ih =>
    subst hsize
    have hfrom : ∀ {scene : Scene τ σ} {call' : Call α} {m : Move α},
        call'.stage = call.stage → m.bringsOn call' = true →
          ∃ j, env.driveFrom scene call' m = some j := by
      intro scene call' m hsame hm
      have hlt := env.movesLeft_moved_lt scene hm
      rw [hsame] at hlt
      obtain ⟨j, hj⟩ := ih _ hlt _ _ rfl
      exact ⟨_, by rw [driveFrom, hj, Option.map_some]⟩
    cases hstage : call.stage with
    | seeking rest =>
      rw [drive_of_seeking hstage]
      exact hfrom rfl (by rw [Move.bringsOn, hstage])
    | flying f =>
      obtain ⟨p, hp⟩ := Option.isSome_iff_exists.mp (hreturns scene f.endpoint)
      rw [drive_of_flying hstage, hp, Option.bind_some]
      exact hfrom rfl (p.2.bringsOn hstage)
    | _ => exact ⟨_, drive_of_over hstage⟩

end Drive

/-! ### Going on with more candidates -/

variable {env} {scene : Scene τ σ} {call : Call α} {m : Move α}

/-- What becomes of a journey if there was something on the trail before it and there are
more candidates after it: where it has exhausted its own, the others follow. -/
def goOn (env : Surroundings τ α σ) (earlier : List Attempt) (more : List String)
    (j : Journey τ α σ) : Option (Journey τ α σ) :=
  match j.verdict.exhausted? with
  | some trail =>
      (env.drive j.scene ⟨.seeking more, earlier ++ trail, j.cancelled⟩).map (·.after j.log)
  | none => some { j with verdict := j.verdict.after earlier }

theorem goOn_after (earlier : List Attempt) (more : List String) (log : List (Incident α))
    (j : Journey τ α σ) :
    env.goOn earlier more (j.after log) = (env.goOn earlier more j).map (·.after log) := by
  unfold goOn
  have hverdict : (j.after log).verdict = j.verdict := rfl
  rw [hverdict]
  cases j.verdict.exhausted? with
  | none => rfl
  | some trail =>
    have hlog (j' : Journey τ α σ) : j'.after (log ++ j.log) = (j'.after j.log).after log := by
      simp only [Journey.after, List.append_assoc]
    simp only [Option.map_map]
    exact congrArg (Option.map · _) (funext hlog)

/-- A move does the same to a call as a part of a longer one. -/
theorem move_within (r : Router τ) (now : Instant) (m : Move α)
    (hopen : ∀ v, call.stage ≠ .over v) (hleft : call.stage ≠ .seeking [])
    (earlier : List Attempt) (more : List String) :
    (r.move now (call.within earlier more) m).router = (r.move now call m).router ∧
    (r.move now (call.within earlier more) m).call =
      (r.move now call m).call.within earlier more ∧
    r.incidents now (call.within earlier more) m = r.incidents now call m :=
  ((progress_move r now call m).within hopen hleft earlier more).unique
    (progress_move r now (call.within earlier more) m)

omit [TokenNumber τ] in
theorem paused_within (earlier : List Attempt) (more : List String)
    (log : List (Incident α)) :
    env.paused scene (call.within earlier more) log =
      ((env.paused scene call log).1, (env.paused scene call log).2.within earlier more) := by
  obtain ⟨stage, trail, cancelled⟩ := call
  cases stage <;> rfl

theorem moved_within (hopen : ∀ v, call.stage ≠ .over v) (hleft : call.stage ≠ .seeking [])
    (earlier : List Attempt) (more : List String) :
    env.moved scene (call.within earlier more) m =
      ((env.moved scene call m).1, (env.moved scene call m).2.within earlier more) := by
  obtain ⟨hrouter, hcall, hlog⟩ :=
    move_within scene.router scene.clock m hopen hleft earlier more
  simp only [moved, hrouter, hcall, hlog, paused_within]

/-- After a move that brings a call on, the walk goes on the same as a part of a longer
one, if all walks do that are nearer to their end. -/
theorem driveFrom_within {earlier : List Attempt} {more : List String}
    (hopen : ∀ v, call.stage ≠ .over v) (hleft : call.stage ≠ .seeking [])
    (hm : m.bringsOn call = true)
    (ih : ∀ {scene : Scene τ σ} {call' : Call α}, call'.stage.movesLeft < call.stage.movesLeft →
      (∀ v, call'.stage ≠ .over v) →
        env.drive scene (call'.within earlier more) =
          (env.drive scene call').bind (env.goOn earlier more)) :
    env.driveFrom scene (call.within earlier more) m =
      (env.driveFrom scene call m).bind (env.goOn earlier more) := by
  obtain ⟨-, -, hlog⟩ :=
    move_within scene.router scene.clock m hopen hleft earlier more
  rw [driveFrom, driveFrom, moved_within hopen hleft, hlog]
  generalize hnext : env.moved scene call m = next
  have hrest : env.drive next.1 (next.2.within earlier more) =
      (env.drive next.1 next.2).bind (env.goOn earlier more) := by
    by_cases hover : ∃ v, next.2.stage = .over v
    · obtain ⟨v, hv⟩ := hover
      have hwithin : (next.2.within earlier more).stage = .over (v.after earlier) := by
        rw [Call.within, hv]
        rfl
      have hends : v.exhausted? = none := by
        rw [← hnext, stage_moved] at hv
        exact (progress_move scene.router scene.clock call m).exhausted?_of_over hopen hleft hv
      rw [drive_of_over hv, drive_of_over hwithin, Option.bind_some, goOn, hends]
      rfl
    · have hlt := env.movesLeft_moved_lt scene hm
      rw [hnext] at hlt
      exact ih hlt fun v hv => hover ⟨v, hv⟩
  rw [hrest]
  cases env.drive next.1 next.2 with
  | none => rfl
  | some j => exact (goOn_after earlier more _ j).symm

/-- **A walk goes on the same as a part of a longer one**, up to the end of its own
candidates. -/
theorem drive_within (earlier : List Attempt) (more : List String) :
    ∀ {scene : Scene τ σ} {call : Call α}, (∀ v, call.stage ≠ .over v) →
      env.drive scene (call.within earlier more) =
        (env.drive scene call).bind (env.goOn earlier more) := by
  intro scene call hopen
  induction hsize : call.stage.movesLeft using Nat.strongRecOn generalizing scene call with
  | ind n ih =>
    subst hsize
    have ih' : ∀ {scene : Scene τ σ} {call' : Call α},
        call'.stage.movesLeft < call.stage.movesLeft → (∀ v, call'.stage ≠ .over v) →
          env.drive scene (call'.within earlier more) =
            (env.drive scene call').bind (env.goOn earlier more) :=
      fun hlt hopen' => ih _ hlt hopen' rfl
    cases hstage : call.stage with
    | seeking rest =>
      have hwithin : (call.within earlier more).stage = .seeking (rest ++ more) := by
        rw [Call.within, hstage]
        rfl
      by_cases hleft : call.stage = .seeking []
      · -- its own candidates are exhausted, and the others follow
        obtain ⟨stage, trail, cancelled⟩ := call
        obtain rfl : stage = .seeking [] := hleft
        rw [drive_of_exhausted, Option.bind_some, goOn]
        change _ = (env.drive scene ⟨.seeking more, earlier ++ trail, cancelled⟩).map id
        rw [Option.map_id]
        rfl
      · have hm : Move.takeUp.bringsOn call = true := by
          rw [Move.bringsOn, hstage]
        rw [drive_of_seeking hwithin, drive_of_seeking hstage]
        exact driveFrom_within hopen hleft hm ih'
    | flying f =>
      have hwithin : (call.within earlier more).stage =
          .flying { f with rest := f.rest ++ more } := by
        rw [Call.within, hstage]
        rfl
      rw [drive_of_flying hwithin, drive_of_flying hstage, Option.bind_assoc]
      refine congrArg (Option.bind _) (funext fun p => ?_)
      have hleft : (call.cancelIf p.2.cancels).stage ≠ .seeking [] := by
        intro h
        cases hstage.symm.trans h
      have hopen' : ∀ v, (call.cancelIf p.2.cancels).stage ≠ .over v := hopen
      exact driveFrom_within hopen' hleft (p.2.bringsOn hstage) ih'
    | _ => exact absurd hstage (hopen _)

theorem goOn_nil (earlier : List Attempt) (j : Journey τ α σ) :
    env.goOn earlier [] j = some { j with verdict := j.verdict.after earlier } := by
  unfold goOn
  cases hends : j.verdict.exhausted? with
  | none => rfl
  | some trail =>
    obtain ⟨verdict, scene, cancelled, log⟩ := j
    obtain rfl := Verdict.exhausted?_eq_some_iff.mp hends
    simp only [drive_of_exhausted, Option.map_some, Journey.after, List.append_nil, Verdict.after]

/-- What is on the trail before a walk stays there, and changes nothing else. -/
theorem drive_of_trail (trail : List Attempt) (cancelled : Bool) (chain : List String) :
    env.drive scene ⟨.seeking chain, trail, cancelled⟩ =
      (env.walk scene cancelled chain).map fun j =>
        { j with verdict := j.verdict.after trail } := by
  have hopen : ∀ v, (Call.start chain cancelled : Call α).stage ≠ .over v := by
    intro v h
    cases h
  have hwithin : (Call.start chain cancelled : Call α).within trail [] =
      ⟨.seeking chain, trail, cancelled⟩ := by
    simp [Call.start, Call.within, Stage.within]
  rw [← hwithin, drive_within trail [] hopen, walk]
  cases env.drive scene (.start chain cancelled) with
  | none => rfl
  | some j => exact goOn_nil trail j

end Surroundings

/-! ### Walks as runs of traffic -/

/-- What others can make of a scene: time passes, changes are made to the router directly,
and the surroundings remember something else. -/
inductive Scene.Becomes : Scene τ σ → Scene τ σ → Prop
  /-- Nothing is done. -/
  | refl (scene : Scene τ σ) : Becomes scene scene
  /-- Time passes. -/
  | pass {scene scene' : Scene τ σ} (h : Becomes scene scene') (s : Span) :
      Becomes scene { scene' with clock := scene'.clock.later s }
  /-- A change is made directly. -/
  | change {scene scene' : Scene τ σ} {router : Router τ} (h : Becomes scene scene') (c : Change)
      (happly : scene'.router.apply scene'.clock c = some router) :
      Becomes scene { scene' with router }
  /-- Something else is remembered. -/
  | remember {scene scene' : Scene τ σ} (h : Becomes scene scene') (memory : σ) :
      Becomes scene { scene' with memory }

/-- Surroundings that do to the router only what can be done to it. -/
structure Surroundings.Lawful (env : Surroundings τ α σ) : Prop where
  /-- In a pause. -/
  pause : ∀ (scene : Scene τ σ) cancelled log, scene.Becomes (env.pause scene cancelled log).1
  /-- In the course of a flight. -/
  flight : ∀ {scene : Scene τ σ} {e p}, env.flight scene e = some p → scene.Becomes p.1

namespace Traffic

/-- Acts lead from traffic to other traffic, and this happens to the call at position `i`. -/
def Yields (i : Nat) (w : Traffic τ α) (log : List (Incident α)) (w' : Traffic τ α) : Prop :=
  ∃ acts, w.run acts = w' ∧ incidentsOf i (w.journal acts) = log

theorem Yields.refl (i : Nat) (w : Traffic τ α) : w.Yields i [] w := ⟨[], rfl, rfl⟩

theorem Yields.trans {i : Nat} {w₁ w₂ w₃ : Traffic τ α} {log log' : List (Incident α)}
    (h : w₁.Yields i log w₂) (h' : w₂.Yields i log' w₃) : w₁.Yields i (log ++ log') w₃ := by
  obtain ⟨acts, rfl, rfl⟩ := h
  obtain ⟨acts', rfl, rfl⟩ := h'
  refine ⟨acts ++ acts', run_append _ _ _, ?_⟩
  rw [journal_append, incidentsOf_append]

end Traffic

/-- A scene as traffic in which the call at position `i` is this one. -/
def Scene.traffic (scene : Scene τ σ) (calls : List (Call α)) (i : Nat) (call : Call α) :
    Traffic τ α :=
  ⟨scene.router, scene.clock, calls.set i call⟩

section Runs

variable {calls : List (Call α)} {i : Nat} {call : Call α} {scene : Scene τ σ}

theorem Scene.Becomes.yields {scene' : Scene τ σ} (h : scene.Becomes scene') :
    (scene.traffic calls i call).Yields i [] (scene'.traffic calls i call) := by
  induction h with
  | refl => exact .refl i _
  | pass _ s ih => exact ih.trans ⟨[.pass s], rfl, rfl⟩
  | @change scene' router _ c happly ih =>
    refine ih.trans ⟨[.change c], ?_, ?_⟩
    · simp only [Traffic.run_cons, Traffic.run_nil, Traffic.step, Scene.traffic, happly]
    · rw [Traffic.journal_cons, Traffic.journal_nil, List.append_nil]
      refine Traffic.incidentsOf_happenings_of_ne _ ?_
      intro m h
      cases h
  | remember _ memory ih => exact ih

/-- A move of the call. -/
theorem Scene.yields_move (scene : Scene τ σ) (hi : i < calls.length) (call : Call α)
    (m : Move α) :
    (scene.traffic calls i call).Yields i (scene.router.incidents scene.clock call m)
      (Scene.traffic { scene with router := (scene.router.move scene.clock call m).router } calls i
        (scene.router.move scene.clock call m).call) := by
  have hcall : (calls.set i call)[i]? = some call := List.getElem?_set_self hi
  refine ⟨[.move i m], ?_, ?_⟩
  · simp only [Traffic.run_cons, Traffic.run_nil, Traffic.step, Scene.traffic, hcall, List.set_set]
  · rw [Traffic.journal_cons, Traffic.journal_nil, List.append_nil]
    simp only [Traffic.happenings, Scene.traffic, hcall, incidentsOf_map, if_true]

/-- Cancelling the call, if it is to be. -/
theorem Scene.yields_cancelIf (scene : Scene τ σ) (hi : i < calls.length) (call : Call α)
    (cancels : Bool) :
    (scene.traffic calls i call).Yields i []
      (scene.traffic calls i (call.cancelIf cancels)) := by
  cases cancels with
  | false =>
    have hsame : call.cancelIf false = call := by rw [Call.cancelIf, Bool.or_false]
    rw [hsame]
    exact .refl i _
  | true =>
    have hcancel : call.cancelIf true = call.cancel := by
      rw [Call.cancelIf, Bool.or_true, Call.cancel]
    have hmove : Progress scene.router scene.clock call .cancel ⟨scene.router, call.cancel, []⟩ [] :=
      .cancelled
    obtain ⟨-, -, hlog⟩ := hmove.unique (progress_move scene.router scene.clock call .cancel)
    have hyields := scene.yields_move hi call .cancel
    rw [hlog] at hyields
    rw [hcancel]
    exact hyields

/-- The pause after what the call has done last. -/
theorem Surroundings.Lawful.yields_paused {env : Surroundings τ α σ} (h : env.Lawful)
    (hi : i < calls.length) (scene : Scene τ σ) (call : Call α) (log : List (Incident α)) :
    (scene.traffic calls i call).Yields i []
      ((env.paused scene call log).1.traffic calls i (env.paused scene call log).2) := by
  unfold Surroundings.paused
  split
  next => exact (h.pause scene call.cancelled log).yields.trans (Scene.yields_cancelIf _ hi call _)
  next => exact .refl i _
  next => exact .refl i _

/-- Driving a call to its end is a run of traffic. -/
theorem Surroundings.Lawful.drive_yields {env : Surroundings τ α σ} (h : env.Lawful)
    (hi : i < calls.length) :
    ∀ {scene : Scene τ σ} {call : Call α} {j : Journey τ α σ}, env.drive scene call = some j →
      ∃ call', call'.verdict? = some j.verdict ∧ call'.cancelled = j.cancelled ∧
        (scene.traffic calls i call).Yields i j.log (j.scene.traffic calls i call') := by
  intro scene call j hj
  induction hsize : call.stage.movesLeft using Nat.strongRecOn generalizing scene call j with
  | ind n ih =>
    subst hsize
    -- after a move that brings the call on, the rest is a run by induction
    have hfrom : ∀ {scene : Scene τ σ} (call' : Call α) {m : Move α} {j : Journey τ α σ},
        call'.stage.movesLeft = call.stage.movesLeft → m.bringsOn call' = true →
        env.driveFrom scene call' m = some j →
        ∃ call'', call''.verdict? = some j.verdict ∧ call''.cancelled = j.cancelled ∧
          (scene.traffic calls i call').Yields i j.log (j.scene.traffic calls i call'') := by
      intro scene call' m j hleft hm hj
      obtain ⟨j', hj', rfl⟩ := Option.map_eq_some_iff.mp hj
      have hlt := env.movesLeft_moved_lt scene hm
      rw [hleft] at hlt
      obtain ⟨call'', hverdict, hcancelled, hrest⟩ := ih _ hlt hj' rfl
      refine ⟨call'', hverdict, hcancelled, ?_⟩
      have hmoved := (scene.yields_move hi call' m).trans (h.yields_paused hi
        { scene with router := (scene.router.move scene.clock call' m).router }
        (scene.router.move scene.clock call' m).call (scene.router.incidents scene.clock call' m))
      rw [List.append_nil] at hmoved
      exact hmoved.trans hrest
    cases hstage : call.stage with
    | seeking rest =>
      rw [drive_of_seeking hstage] at hj
      exact hfrom call rfl (by rw [Move.bringsOn, hstage]) hj
    | flying f =>
      rw [drive_of_flying hstage] at hj
      obtain ⟨p, hp, hj⟩ := Option.bind_eq_some_iff.mp hj
      obtain ⟨call', hverdict, hcancelled, hrest⟩ :=
        hfrom (call.cancelIf p.2.cancels) rfl (p.2.bringsOn hstage) hj
      have hflight := (h.flight hp).yields.trans (Scene.yields_cancelIf p.1 hi call p.2.cancels)
      exact ⟨call', hverdict, hcancelled, hflight.trans hrest⟩
    | _ =>
      rw [drive_of_over hstage] at hj
      cases hj
      exact ⟨call, by rw [Call.verdict?, hstage], rfl, .refl i _⟩

/-- **A walk is a run of traffic**: what holds of all runs holds of every walk in
surroundings that are lawful. -/
theorem Surroundings.Lawful.walk_run {env : Surroundings τ α σ} (h : env.Lawful)
    {cancelled : Bool} {chain : List String} {j : Journey τ α σ}
    (hj : env.walk scene cancelled chain = some j) :
    let w := (⟨scene.router, scene.clock, []⟩ : Traffic τ α).step (.start chain cancelled)
    ∃ acts call, w.run acts = ⟨j.scene.router, j.scene.clock, [call]⟩ ∧
      call.verdict? = some j.verdict ∧ call.cancelled = j.cancelled ∧
      incidentsOf 0 (w.journal acts) = j.log := by
  intro w
  have hi : 0 < [(Call.start chain cancelled : Call α)].length := Nat.one_pos
  obtain ⟨call, hverdict, hcancelled, acts, hrun, hlog⟩ := h.drive_yields hi hj
  exact ⟨acts, call, hrun, hverdict, hcancelled, hlog⟩

end Runs

/-- Every chain is walked to an end if every backend comes back. -/
theorem exists_walk {env : Surroundings τ α σ}
    (hreturns : ∀ scene e, (env.flight scene e).isSome = true) (scene : Scene τ σ)
    (cancelled : Bool) (chain : List String) : ∃ j, env.walk scene cancelled chain = some j :=
  Surroundings.exists_drive hreturns scene (.start chain cancelled)

/-- **Walking is compositional.**  Take any scene and any surroundings, and a call that
may have been cancelled already.  Walking two chains in a row gives the same verdict, the
same incidents and the same scene as walking the first one and then,

* if that does not come to its end, or ends in an answer or is broken off, stopping there;
* if its candidates are exhausted, walking the second one from the scene that was left,
  with the trail of the first before that of the second.

So more candidates at the end of a chain change neither a call that was answered or broken
off without them, nor what happens before their turn comes. -/
theorem walk_append (env : Surroundings τ α σ) (scene : Scene τ σ) (cancelled : Bool)
    (chain more : List String) :
    env.walk scene cancelled (chain ++ more) =
      (env.walk scene cancelled chain).bind (fun first =>
        match first.verdict with
        | .failed (.exhausted trail) =>
            (env.walk first.scene first.cancelled more).map fun second =>
              ⟨second.verdict.after trail, second.scene, second.cancelled,
                first.log ++ second.log⟩
        | _ => some first) ∧
    (∀ first, env.walk scene cancelled chain = some first →
      (∀ trail, first.verdict ≠ .failed (.exhausted trail)) →
        env.walk scene cancelled (chain ++ more) = some first) ∧
    (∀ first whole, env.walk scene cancelled chain = some first →
      env.walk scene cancelled (chain ++ more) = some whole → first.log <+: whole.log) := by
  have hopen : ∀ v, (Call.start chain cancelled : Call α).stage ≠ .over v := by
    intro v h
    cases h
  have hwhole : env.walk scene cancelled (chain ++ more) =
      (env.walk scene cancelled chain).bind (env.goOn [] more) := by
    change env.drive scene ((Call.start chain cancelled).within [] more) = _
    exact Surroundings.drive_within [] more hopen
  have hgoOn (first : Journey τ α σ) : env.goOn [] more first =
      match first.verdict with
      | .failed (.exhausted trail) =>
          (env.walk first.scene first.cancelled more).map fun second =>
            ⟨second.verdict.after trail, second.scene, second.cancelled,
              first.log ++ second.log⟩
      | _ => some first := by
    obtain ⟨verdict, scene, cancelled, log⟩ := first
    cases hends : verdict.exhausted? with
    | some trail =>
      obtain rfl := Verdict.exhausted?_eq_some_iff.mp hends
      simp only [Surroundings.goOn, Verdict.exhausted?, List.nil_append,
        Surroundings.drive_of_trail, Option.map_map]
      rfl
    | none =>
      simp only [Surroundings.goOn, hends, Verdict.after_nil]
      split
      next => cases hends
      next => rfl
  refine ⟨?_, ?_, ?_⟩
  · rw [hwhole]
    exact congrArg _ (funext hgoOn)
  · intro first hfirst hends
    rw [hwhole, hfirst, Option.bind_some, hgoOn]
    split
    next trail hverdict => exact absurd hverdict (hends trail)
    next => rfl
  · intro first whole hfirst hall
    rw [hwhole, hfirst, Option.bind_some, hgoOn] at hall
    split at hall
    next trail hverdict =>
      obtain ⟨second, -, rfl⟩ := Option.map_eq_some_iff.mp hall
      exact List.prefix_append first.log second.log
    next =>
      cases hall
      exact List.prefix_rfl

end Failover
