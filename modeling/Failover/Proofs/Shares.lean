import Failover.Proofs.Budgets
import Failover.Proofs.Rotation
import Mathlib.Data.Set.Basic

/-!
# The share of a router that a call has to do with

A routed call knows a router by the names of its chain and by the endpoints that these
lead to.  What it does to the router shows at these names and identities only, and what
it finds there is all that it goes by.  So a move of a call leaves everything else as it
was; and in two routers that are the same on the share of the call it does the same, and
leaves routers that are the same on that share again.

## Main definitions

* `Share`, `Share.Apart` — some names and some identities, and having none in common.
* `Share.outside` — what is in none of some shares.
* `Router.SameOn` — two routers are the same on a share.
* `Call.KeepsTo`, `Call.share` — a call has to do with a share only, and what it has to do
  with.

## Main results

* `Router.eq_of_sameOn_outside` — routers that are the same on some shares and outside them
  are equal.
* `Progress.keepsTo` — a call that keeps to a share goes on doing so.
* `Progress.sameOn_of_apart` — its moves leave what is apart from that share as it was.
* `Progress.transfer` — its moves do the same in a router that is the same on the share.
-/

namespace Failover

variable {τ : Type} [TokenNumber τ] {α : Type}

/-! ### Shares -/

/-- Some of the names and some of the identities of endpoints. -/
structure Share where
  /-- The names. -/
  names : Set String
  /-- The identities. -/
  ids : Set EndpointId

/-- Two shares have nothing in common. -/
structure Share.Apart (s t : Share) : Prop where
  /-- They have no name in common. -/
  names : ∀ n ∈ s.names, n ∉ t.names
  /-- They have no identity in common. -/
  ids : ∀ id ∈ s.ids, id ∉ t.ids

/-- What is in none of some shares. -/
def Share.outside {ι : Type} (shares : ι → Share) : Share where
  names := {n | ∀ i, n ∉ (shares i).names}
  ids := {id | ∀ i, id ∉ (shares i).ids}

theorem Share.apart_outside {ι : Type} (shares : ι → Share) (i : ι) :
    (shares i).Apart (outside shares) :=
  ⟨fun _ hn hout => hout i hn, fun _ hid hout => hout i hid⟩

/-- Two routers are the same on a share.  Whatever is neither kept by name nor by
identity is the same altogether. -/
structure Router.SameOn (s : Share) (r r' : Router τ) : Prop where
  /-- The groups of the names are the same. -/
  groups : ∀ n ∈ s.names, r'.registry.groups.get? n = r.registry.groups.get? n
  /-- The suppressions of the endpoints are the same. -/
  entries : ∀ id ∈ s.ids, r'.tracker.entries.get? id = r.tracker.entries.get? id
  /-- The buckets of the endpoints are the same. -/
  buckets : ∀ id ∈ s.ids, r'.bucket? id = r.bucket? id
  /-- The windows are the same. -/
  windows : r'.tracker.windows = r.tracker.windows
  /-- Budgets are kept by both or neither, with the same burst. -/
  bursts : r'.gate.map (·.burst) = r.gate.map (·.burst)
  /-- The kinds of failures are the same. -/
  classifier : r'.classifier = r.classifier

namespace Router

omit [TokenNumber τ] in
theorem SameOn.refl (s : Share) (r : Router τ) : r.SameOn s r :=
  ⟨fun _ _ => rfl, fun _ _ => rfl, fun _ _ => rfl, rfl, rfl, rfl⟩

section

variable {s : Share} {r r' r'' : Router τ}

omit [TokenNumber τ]

theorem SameOn.symm (h : r.SameOn s r') : r'.SameOn s r :=
  ⟨fun n hn => (h.groups n hn).symm, fun id hid => (h.entries id hid).symm,
    fun id hid => (h.buckets id hid).symm, h.windows.symm, h.bursts.symm, h.classifier.symm⟩

theorem SameOn.trans (h : r.SameOn s r') (h' : r'.SameOn s r'') : r.SameOn s r'' :=
  ⟨fun n hn => (h'.groups n hn).trans (h.groups n hn),
    fun id hid => (h'.entries id hid).trans (h.entries id hid),
    fun id hid => (h'.buckets id hid).trans (h.buckets id hid), h'.windows.trans h.windows,
    h'.bursts.trans h.bursts, h'.classifier.trans h.classifier⟩

/-- Routers that are the same on shares that make up everything are equal. -/
theorem eq_of_sameOn (hnames : ∀ n, ∃ s : Share, n ∈ s.names ∧ r.SameOn s r')
    (hids : ∀ id, ∃ s : Share, id ∈ s.ids ∧ r.SameOn s r') : r' = r := by
  obtain ⟨_, _, hsame⟩ := hnames ""
  have hwindows := hsame.windows
  have hbursts := hsame.bursts
  have hclassifier := hsame.classifier
  have hgroups : r'.registry.groups = r.registry.groups := Table.ext_get? fun n => by
    obtain ⟨s, hn, hsame⟩ := hnames n
    exact hsame.groups n hn
  have hentries : r'.tracker.entries = r.tracker.entries := Table.ext_get? fun id => by
    obtain ⟨s, hid, hsame⟩ := hids id
    exact hsame.entries id hid
  have hbuckets : ∀ id, r'.bucket? id = r.bucket? id := fun id => by
    obtain ⟨s, hid, hsame⟩ := hids id
    exact hsame.buckets id hid
  -- the bursts tell whether there is a gate, and the buckets what it holds
  have hgate : r'.gate = r.gate := by
    unfold bucket? at hbuckets
    cases hg : r.gate with
    | none => simpa [hg] using hbursts
    | some g =>
      cases hg' : r'.gate with
      | none => simp [hg, hg'] at hbursts
      | some g' =>
        simp only [hg, hg', Option.map_some, Option.some.injEq, Option.bind_some]
          at hbursts hbuckets
        obtain ⟨burst, buckets⟩ := g
        obtain ⟨burst', buckets'⟩ := g'
        obtain rfl : burst' = burst := hbursts
        obtain rfl : buckets' = buckets := Table.ext_get? hbuckets
        rfl
  obtain ⟨⟨groups⟩, ⟨windows, entries⟩, gate, classifier⟩ := r
  obtain ⟨⟨groups'⟩, ⟨windows', entries'⟩, gate', classifier'⟩ := r'
  cases hwindows
  cases hclassifier
  cases hgroups
  cases hentries
  cases hgate
  rfl

/-- Routers that are the same on some shares and outside them are equal. -/
theorem eq_of_sameOn_outside {ι : Type} {shares : ι → Share} (hin : ∀ i, r.SameOn (shares i) r')
    (hout : r.SameOn (Share.outside shares) r') : r' = r := by
  refine eq_of_sameOn (fun n => ?_) (fun id => ?_)
  · by_cases hn : ∃ i, n ∈ (shares i).names
    · obtain ⟨i, hn⟩ := hn
      exact ⟨shares i, hn, hin i⟩
    · exact ⟨Share.outside shares, not_exists.mp hn, hout⟩
  · by_cases hid : ∃ i, id ∈ (shares i).ids
    · obtain ⟨i, hid⟩ := hid
      exact ⟨shares i, hid, hin i⟩
    · exact ⟨Share.outside shares, not_exists.mp hid, hout⟩

end

end Router

/-! ### What the parts of a router go by -/

namespace Registry

/-- What an operation leaves at a name hangs on what was there. -/
theorem get?_after_congr {r r' : Registry} {n : String} (op : Operation)
    (h : r'.groups.get? n = r.groups.get? n) :
    (r'.after op).groups.get? n = (r.after op).groups.get? n := by
  by_cases hn : n = op.name
  · subst hn
    rw [get?_after_self, get?_after_self, h]
  · rw [get?_after_of_ne r' hn, get?_after_of_ne r hn, h]

/-- The endpoints of a name are those of its group. -/
theorem endpoints_congr {r r' : Registry} {n : String}
    (h : r'.groups.get? n = r.groups.get? n) : r'.endpoints n = r.endpoints n := by
  rw [endpoints_eq, endpoints_eq, h]

theorem eq_after_of_resolve {r registry : Registry} {name : String} {e : Endpoint}
    (h : r.resolve name = some (e, registry)) : registry = r.after (.resolve name) := by
  simp only [after, h]

/-- A name is resolved by its group. -/
theorem resolve_congr {r r' registry : Registry} {name : String} {e : Endpoint}
    (h : r.resolve name = some (e, registry))
    (hgroup : r'.groups.get? name = r.groups.get? name) :
    r'.resolve name = some (e, r'.after (.resolve name)) := by
  have hanswer : (r'.resolve name).map Prod.fst = (r.resolve name).map Prod.fst := by
    unfold resolve
    rw [hgroup]
    cases r.groups.get? name with
    | none => rfl
    | some g => cases hturn : g.select <;> simp [hturn]
  -- the rest of the registry differs, so that only the endpoint is the same
  rw [h] at hanswer
  cases hresolve : r'.resolve name with
  | none => simp [hresolve] at hanswer
  | some p =>
    obtain ⟨e', registry'⟩ := p
    rw [hresolve] at hanswer
    obtain rfl : e' = e := Option.some.inj hanswer
    rw [eq_after_of_resolve hresolve]

/-- Resolving a name changes no endpoints. -/
theorem endpoints_after_resolve (r : Registry) (name n : String) :
    (r.after (.resolve name)).endpoints n = r.endpoints n :=
  (r.endpoints_after (.resolve name) n).trans (List.append_nil _)

end Registry

namespace Tracker

variable {t t' u : Tracker} {id : EndpointId} {kind : Kind} {now : Instant}
  {answer : Option Instant}

/-- An endpoint is left alone because of its own entry. -/
theorem active?_congr (h : t'.entries.get? id = t.entries.get? id) :
    t'.active? id now = t.active? id now := by
  rw [active?, active?, h]

/-- A success leaves at an endpoint what hangs on what was there. -/
theorem get?_recordSuccess_congr {a : EndpointId} (h : t'.entries.get? a = t.entries.get? a) :
    (t'.recordSuccess id).2.entries.get? a = (t.recordSuccess id).2.entries.get? a := by
  rw [get?_recordSuccess, get?_recordSuccess, h]

/-- Whether the clock can show the end of a window hangs on the windows. -/
theorem recordFailure_eq_error_congr (hwindows : t'.windows = t.windows)
    (h : t.recordFailure id kind now = .error {}) :
    t'.recordFailure id kind now = .error {} := by
  unfold recordFailure at h ⊢
  rw [hwindows]
  cases hwindow : t.windows.forKind kind with
  | none => simp [hwindow] at h
  | some window =>
    simp only [hwindow] at h ⊢
    cases hadd : now.add? window with
    | none => rfl
    | some liftedAt => simp [hadd] at h

/-- A retriable failure shows at its own endpoint only. -/
theorem get?_recordFailure_of_ne (hretriable : kind.isRetriable = true)
    (h : t.recordFailure id kind now = .ok (answer, u)) {a : EndpointId} (ha : a ≠ id) :
    u.entries.get? a = t.entries.get? a := by
  obtain ⟨window, liftedAt, -, -, -, rfl⟩ := recordFailure_of_retriable hretriable h
  rw [Table.get?_insert, if_neg ha]

theorem windows_recordFailure (hretriable : kind.isRetriable = true)
    (h : t.recordFailure id kind now = .ok (answer, u)) : u.windows = t.windows := by
  obtain ⟨window, liftedAt, -, -, -, rfl⟩ := recordFailure_of_retriable hretriable h
  rfl

/-- A retriable failure leaves an entry that hangs on the windows and on the one before. -/
theorem recordFailure_congr (hretriable : kind.isRetriable = true)
    (h : t.recordFailure id kind now = .ok (answer, u)) (hwindows : t'.windows = t.windows)
    (hentry : t'.entries.get? id = t.entries.get? id) :
    ∃ u', t'.recordFailure id kind now = .ok (answer, u') ∧
      u'.entries.get? id = u.entries.get? id := by
  obtain ⟨window, liftedAt, hwindow, hadd, rfl, rfl⟩ := recordFailure_of_retriable hretriable h
  refine ⟨{ t' with entries := t'.entries.insert id (t'.suppress id kind liftedAt) }, ?_, ?_⟩
  · simp only [recordFailure, hwindows, hwindow, hadd]
  · rw [Table.get?_insert, Table.get?_insert, if_pos rfl, if_pos rfl, suppress, suppress, hentry]

end Tracker

/-! ### Changes to a share -/

namespace Router

variable {s t : Share} {r r' : Router τ}

omit [TokenNumber τ] in
/-- Resolving a name shows at its group only. -/
theorem sameOn_resolved (r : Router τ) {name : String} (hname : name ∉ t.names) :
    r.SameOn t { r with registry := r.registry.after (.resolve name) } :=
  { SameOn.refl t r with
    groups := fun n hn => by
      have hne : n ≠ name := fun h => hname (h ▸ hn)
      exact Registry.get?_after_of_ne r.registry hne }

omit [TokenNumber τ] in
theorem SameOn.resolved (h : r.SameOn s r') (name : String) :
    SameOn s { r with registry := r.registry.after (.resolve name) }
      { r' with registry := r'.registry.after (.resolve name) } :=
  { h with groups := fun n hn => Registry.get?_after_congr _ (h.groups n hn) }

/-- Asking the gate leaves the burst as it was. -/
theorem Admission.bursts_eq {e : Endpoint} {now : Instant} {granted : Bool}
    {gate : Option (Gate τ)} (h : r.Admission e now granted gate) :
    gate.map (·.burst) = r.gate.map (·.burst) := by
  rcases h.cases_gate with ⟨-, -, rfl⟩ | ⟨g, rpm, hg, -, -, rfl⟩
  · rfl
  · rw [hg, Option.map_some, Option.map_some, Gate.burst_tryAcquire]

/-- Asking the gate for an endpoint shows at its bucket only. -/
theorem Admission.sameOn {e : Endpoint} {now : Instant} {granted : Bool}
    {gate : Option (Gate τ)} (h : r.Admission e now granted gate) (hid : e.id ∉ t.ids) :
    r.SameOn t { r with gate } :=
  { SameOn.refl t r with
    buckets := fun a ha => by
      have hne : a ≠ e.id := fun heq => hid (heq ▸ ha)
      have hgate : r.Admission e now granted { r with gate }.gate := h
      exact hgate.bucket?_of_ne hne
    bursts := h.bursts_eq }

/-- The gate answers for an endpoint from its bucket. -/
theorem SameOn.admission (hsame : r.SameOn s r') {e : Endpoint} {now : Instant}
    {granted : Bool} {gate : Option (Gate τ)} (h : r.Admission e now granted gate)
    (hid : e.id ∈ s.ids) :
    ∃ gate', r'.Admission e now granted gate' ∧
      SameOn s { r with gate } { r' with gate := gate' } := by
  -- where the one router keeps no budgets the other keeps none, since the bursts agree
  cases h with
  | unasked hnone =>
    refine ⟨r'.gate, .unasked (hnone.imp_left fun hgate => ?_), hsame⟩
    have hbursts := hsame.bursts
    rw [hgate] at hbursts
    exact Option.map_eq_none_iff.mp hbursts
  | @asked g rpm hgate hhint =>
    obtain ⟨g', hgate', hburst⟩ : ∃ g', r'.gate = some g' ∧ g'.burst = g.burst := by
      have hbursts := hsame.bursts
      rw [hgate] at hbursts
      exact Option.map_eq_some_iff.mp hbursts
    have hbucket (id : EndpointId) (hid : id ∈ s.ids) :
        g'.buckets.get? id = g.buckets.get? id := by
      have hbuckets := hsame.buckets id hid
      simpa only [bucket?, hgate, hgate', Option.bind_some] using hbuckets
    obtain ⟨hanswer, hdrawn⟩ := Gate.tryAcquire_congr e.id now rpm hburst (hbucket e.id hid)
    have hasked : r'.Admission e now (g'.tryAcquire e.id rpm now).1
        (some (g'.tryAcquire e.id rpm now).2) := .asked hgate' hhint
    rw [hanswer] at hasked
    refine ⟨some (g'.tryAcquire e.id rpm now).2, hasked,
      { hsame with buckets := fun id hid' => ?_, bursts := ?_ }⟩
    · change (g'.tryAcquire e.id rpm now).2.buckets.get? id =
        (g.tryAcquire e.id rpm now).2.buckets.get? id
      by_cases hne : id = e.id
      · rw [hne]
        exact hdrawn
      · rw [Gate.get?_tryAcquire_of_ne hne, Gate.get?_tryAcquire_of_ne hne]
        exact hbucket id hid'
    · change some (g'.tryAcquire e.id rpm now).2.burst = some (g.tryAcquire e.id rpm now).2.burst
      rw [Gate.burst_tryAcquire, Gate.burst_tryAcquire, hburst]

omit [TokenNumber τ] in
/-- Recording a success shows at its own endpoint only. -/
theorem sameOn_recordSuccess (r : Router τ) {id : EndpointId} (hid : id ∉ t.ids) :
    r.SameOn t { r with tracker := (r.tracker.recordSuccess id).2 } :=
  { SameOn.refl t r with
    entries := fun a ha => by
      have hne : a ≠ id := fun h => hid (h ▸ ha)
      rw [Tracker.get?_recordSuccess, if_neg hne] }

omit [TokenNumber τ] in
theorem SameOn.recordSuccess (h : r.SameOn s r') (id : EndpointId) :
    SameOn s { r with tracker := (r.tracker.recordSuccess id).2 }
      { r' with tracker := (r'.tracker.recordSuccess id).2 } :=
  { h with entries := fun a ha => Tracker.get?_recordSuccess_congr (h.entries a ha) }

section Failure

variable {id : EndpointId} {kind : Kind} {now : Instant} {answer : Option Instant}
  {tracker : Tracker}

omit [TokenNumber τ]

/-- Recording a retriable failure shows at its own endpoint only. -/
theorem sameOn_recordFailure (hretriable : kind.isRetriable = true)
    (hrecord : r.tracker.recordFailure id kind now = .ok (answer, tracker)) (hid : id ∉ t.ids) :
    r.SameOn t { r with tracker } :=
  { SameOn.refl t r with
    entries := fun _ ha =>
      Tracker.get?_recordFailure_of_ne hretriable hrecord fun h => hid (h ▸ ha)
    windows := Tracker.windows_recordFailure hretriable hrecord }

theorem SameOn.recordFailure (h : r.SameOn s r') (hretriable : kind.isRetriable = true)
    (hrecord : r.tracker.recordFailure id kind now = .ok (answer, tracker)) (hid : id ∈ s.ids) :
    ∃ tracker', r'.tracker.recordFailure id kind now = .ok (answer, tracker') ∧
      SameOn s { r with tracker } { r' with tracker := tracker' } := by
  obtain ⟨tracker', hrecord', hentry⟩ :=
    Tracker.recordFailure_congr hretriable hrecord h.windows (h.entries id hid)
  refine ⟨tracker', hrecord', { h with entries := fun a ha => ?_, windows := ?_ }⟩
  · by_cases hne : a = id
    · rw [hne]
      exact hentry
    · exact (Tracker.get?_recordFailure_of_ne hretriable hrecord' hne).trans
        ((h.entries a ha).trans
          (Tracker.get?_recordFailure_of_ne hretriable hrecord hne).symm)
  · exact (Tracker.windows_recordFailure hretriable hrecord').trans
      (h.windows.trans (Tracker.windows_recordFailure hretriable hrecord).symm)

end Failure

end Router

/-! ### Calls that keep to a share -/

/-- The candidates that a call has yet to take up. -/
def Stage.ahead : Stage α → List String
  | .seeking rest => rest
  | .flying f => f.rest
  | .over _ => []

/-- The endpoint that a call waits for. -/
def Stage.awaited? : Stage α → Option Endpoint
  | .flying f => some f.endpoint
  | .seeking _ | .over _ => none

/-- A call has to do with a share of a router only. -/
structure Call.KeepsTo (call : Call α) (s : Share) (r : Router τ) : Prop where
  /-- Its candidates are in the share. -/
  ahead : ∀ n ∈ call.stage.ahead, n ∈ s.names
  /-- The endpoint that it waits for is in the share. -/
  awaited : ∀ e, call.stage.awaited? = some e → e.id ∈ s.ids
  /-- The names of the share lead to endpoints of the share. -/
  endpoints : ∀ n ∈ s.names, ∀ e ∈ r.registry.endpoints n, e.id ∈ s.ids

/-- What a call has to do with in a router: the candidates that it has yet to take up, what
they lead to, and the endpoint that it waits for. -/
def Call.share (call : Call α) (r : Router τ) : Share where
  names := {n | n ∈ call.stage.ahead}
  ids := {id | (∃ n ∈ call.stage.ahead, ∃ e ∈ r.registry.endpoints n, e.id = id) ∨
    ∃ e, call.stage.awaited? = some e ∧ e.id = id}

omit [TokenNumber τ] in
theorem Call.keepsTo_share (call : Call α) (r : Router τ) : call.KeepsTo (call.share r) r where
  ahead _ hn := hn
  awaited e he := Or.inr ⟨e, he, rfl⟩
  endpoints n hn e he := Or.inl ⟨n, hn, e, he, rfl⟩

omit [TokenNumber τ] in
theorem Call.KeepsTo.congr {call : Call α} {s : Share} {r r' : Router τ} (h : call.KeepsTo s r)
    (hsame : r.SameOn s r') : call.KeepsTo s r' :=
  { h with
    endpoints := fun n hn e he =>
      h.endpoints n hn e (Registry.endpoints_congr (hsame.groups n hn) ▸ he) }

section Progress

variable {s t : Share} {r : Router τ} {now : Instant} {call : Call α} {m : Move α}
  {turn : Turn τ α} {log : List (Incident α)}

/-- A move changes no endpoints. -/
theorem Progress.endpoints_eq (h : Progress r now call m turn log) (n : String) :
    turn.router.registry.endpoints n = r.registry.endpoints n := by
  rw [h.registry]
  split
  next => exact r.registry.endpoints_after_resolve _ n
  next => rfl

/-- The candidates after a move were there before it. -/
theorem Progress.ahead_subset (h : Progress r now call m turn log) :
    turn.call.stage.ahead ⊆ call.stage.ahead := by
  cases h with
  | unregistered | cooling | throttled | dispatched => exact List.subset_cons_self _ _
  | exhausted | abandoned | dropped | answered | broken | overflowed => exact List.nil_subset _
  | _ => exact List.Subset.refl _

/-- The endpoint that a call waits for after a move is the one before it, or one that a
candidate leads to. -/
theorem Progress.awaited (h : Progress r now call m turn log) {e : Endpoint}
    (he : turn.call.stage.awaited? = some e) :
    call.stage.awaited? = some e ∨ ∃ n ∈ call.stage.ahead, e ∈ r.registry.endpoints n := by
  cases h with
  | @dispatched candidate _ _ _ _ _ _ hresolve =>
    cases he
    exact Or.inr ⟨candidate, List.mem_cons_self, Registry.mem_of_resolve hresolve⟩
  | idle | cancelled | waiting => exact Or.inl he
  | _ => cases he

/-- **A call that keeps to a share goes on doing so.** -/
theorem Progress.keepsTo (h : Progress r now call m turn log) (hkeeps : call.KeepsTo s r) :
    turn.call.KeepsTo s turn.router where
  ahead n hn := hkeeps.ahead n (h.ahead_subset hn)
  awaited e he := by
    rcases h.awaited he with hbefore | ⟨n, hn, hled⟩
    · exact hkeeps.awaited e hbefore
    · exact hkeeps.endpoints n (hkeeps.ahead n hn) e hled
  endpoints n hn e he := by
    rw [h.endpoints_eq n] at he
    exact hkeeps.endpoints n hn e he

omit [TokenNumber τ] in
/-- The candidate that is taken up is in the share, and so is the endpoint that it is
given. -/
theorem Call.KeepsTo.of_resolve {candidate : String} {rest : List String}
    {trail : List Attempt} {cancelled : Bool} {e : Endpoint} {registry : Registry}
    (h : (⟨.seeking (candidate :: rest), trail, cancelled⟩ : Call α).KeepsTo s r)
    (hresolve : r.registry.resolve candidate = some (e, registry)) :
    candidate ∈ s.names ∧ e.id ∈ s.ids := by
  have hname : candidate ∈ s.names := h.ahead candidate List.mem_cons_self
  exact ⟨hname, h.endpoints candidate hname e (Registry.mem_of_resolve hresolve)⟩

/-- **A move shows on the share of its call only.** -/
theorem Progress.sameOn_of_apart (h : Progress r now call m turn log)
    (hkeeps : call.KeepsTo s r) (hapart : s.Apart t) : r.SameOn t turn.router := by
  cases h with
  | cooling hresolve =>
    obtain ⟨hname, -⟩ := hkeeps.of_resolve hresolve
    rw [Registry.eq_after_of_resolve hresolve]
    exact r.sameOn_resolved (hapart.names _ hname)
  | throttled hresolve _ hgate | dispatched hresolve _ hgate =>
    obtain ⟨hname, hid⟩ := hkeeps.of_resolve hresolve
    rw [Registry.eq_after_of_resolve hresolve]
    exact (hgate.sameOn (hapart.ids _ hid)).trans
      (Router.sameOn_resolved _ (hapart.names _ hname))
  | @answered f =>
    exact r.sameOn_recordSuccess (hapart.ids _ (hkeeps.awaited f.endpoint rfl))
  | @advanced f _ _ _ _ _ _ _ _ hretriable hrecord =>
    exact Router.sameOn_recordFailure hretriable hrecord
      (hapart.ids _ (hkeeps.awaited f.endpoint rfl))
  | _ => exact .refl t r

omit [TokenNumber τ] in
/-- A candidate that is taken up meets with the same in a router that is the same on the
share. -/
theorem Router.SameOn.meets {r' : Router τ} (hsame : r.SameOn s r') {candidate : String}
    {e : Endpoint} {registry : Registry} (hname : candidate ∈ s.names) (hid : e.id ∈ s.ids)
    (hresolve : r.registry.resolve candidate = some (e, registry)) :
    r'.registry.resolve candidate = some (e, r'.registry.after (.resolve candidate)) ∧
      r'.registry.endpoints candidate = r.registry.endpoints candidate ∧
      r'.tracker.active? e.id now = r.tracker.active? e.id now :=
  ⟨Registry.resolve_congr hresolve (hsame.groups candidate hname),
    Registry.endpoints_congr (hsame.groups candidate hname),
    Tracker.active?_congr (hsame.entries e.id hid)⟩

/-- **A move does the same in a router that is the same on the share of its call**, and
leaves routers that are the same on that share again. -/
theorem Progress.transfer (h : Progress r now call m turn log) (hkeeps : call.KeepsTo s r)
    {r' : Router τ} (hsame : r.SameOn s r') :
    ∃ router', Progress r' now call m ⟨router', turn.call, turn.notices⟩ log ∧
      turn.router.SameOn s router' := by
  cases h with
  -- the router is neither asked nor changed
  | idle hsuits => exact ⟨r', .idle hsuits, hsame⟩
  | cancelled => exact ⟨r', .cancelled, hsame⟩
  | exhausted => exact ⟨r', .exhausted, hsame⟩
  | abandoned => exact ⟨r', .abandoned, hsame⟩
  | waiting => exact ⟨r', .waiting, hsame⟩
  | dropped ha => exact ⟨r', .dropped ha, hsame⟩
  -- a candidate is taken up, which is in the share with all that it leads to
  | @unregistered candidate rest trail notices hnone =>
    have hgroup := hsame.groups candidate (hkeeps.ahead candidate List.mem_cons_self)
    exact ⟨r', .unregistered ((Registry.endpoints_congr hgroup).trans hnone), hsame⟩
  | @cooling candidate _ _ _ _ _ _ _ hresolve hactive ha =>
    obtain ⟨hname, hid⟩ := hkeeps.of_resolve hresolve
    obtain ⟨hresolve', hgroup, hactive'⟩ := hsame.meets hname hid hresolve
    rw [← hgroup, Registry.eq_after_of_resolve hresolve]
    exact ⟨_, .cooling hresolve' (hactive'.trans hactive) ha, hsame.resolved candidate⟩
  | @throttled candidate _ _ _ _ _ _ _ hresolve hclear hgate ha =>
    obtain ⟨hname, hid⟩ := hkeeps.of_resolve hresolve
    obtain ⟨hresolve', hgroup, hactive'⟩ := hsame.meets hname hid hresolve
    obtain ⟨gate', hgate', hasked⟩ := hsame.admission hgate hid
    rw [← hgroup, Registry.eq_after_of_resolve hresolve]
    exact ⟨_, .throttled hresolve' (hactive'.trans hclear) hgate' ha, hasked.resolved candidate⟩
  | @dispatched candidate _ _ _ _ _ _ hresolve hclear hgate =>
    obtain ⟨hname, hid⟩ := hkeeps.of_resolve hresolve
    obtain ⟨hresolve', hgroup, hactive'⟩ := hsame.meets hname hid hresolve
    obtain ⟨gate', hgate', hasked⟩ := hsame.admission hgate hid
    rw [← hgroup, Registry.eq_after_of_resolve hresolve]
    exact ⟨_, .dispatched hresolve' (hactive'.trans hclear) hgate', hasked.resolved candidate⟩
  -- a flight has come back, whose endpoint is in the share
  | @answered f _ _ _ _ _ ha =>
    exact ⟨_, .answered ha, hsame.recordSuccess f.endpoint.id⟩
  | broken hkind hfatal ha =>
    rw [← hsame.classifier] at hkind
    exact ⟨r', .broken hkind hfatal ha, hsame⟩
  | @advanced f _ _ _ _ _ _ _ hkind hretriable hrecord ha =>
    obtain ⟨tracker', hrecord', hsame'⟩ :=
      hsame.recordFailure hretriable hrecord (hkeeps.awaited f.endpoint rfl)
    rw [← hsame.classifier] at hkind
    exact ⟨_, .advanced hkind hretriable hrecord' ha, hsame'⟩
  | overflowed hkind hretriable hrecord =>
    rw [← hsame.classifier] at hkind
    exact ⟨r', .overflowed hkind hretriable
      (Tracker.recordFailure_eq_error_congr hsame.windows hrecord), hsame⟩

/-- What a move does in a router that is the same on the share of its call. -/
theorem Call.KeepsTo.move_congr (hkeeps : call.KeepsTo s r) {r' : Router τ}
    (hsame : r.SameOn s r') (now : Instant) (m : Move α) :
    (r'.move now call m).call = (r.move now call m).call ∧
      r'.incidents now call m = r.incidents now call m ∧
      (r.move now call m).router.SameOn s (r'.move now call m).router := by
  obtain ⟨router', hprogress, hsame'⟩ := (progress_move r now call m).transfer hkeeps hsame
  obtain ⟨hrouter, hcall, hlog⟩ := hprogress.unique (progress_move r' now call m)
  refine ⟨hcall, hlog, ?_⟩
  rw [hrouter]
  exact hsame'

end Progress

end Failover
