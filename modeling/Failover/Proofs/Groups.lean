import Failover.Proofs.Moves

/-!
# The registry and its history

A registry is changed by four operations, and each concerns the group of one name
only.  `Operation.effect` says what it makes of that group, and nothing else
happens.  So the group of a name can be read off the operations on it: its endpoints
are those that were last put in place of it, followed by those that have joined
since, and its cursor counts from when the group came about.

A group without endpoints would be one that cannot be asked for a turn.  No
operation leaves one behind, and so every name that has a group is resolved.

## Main definitions

* `Group.position`, `Group.advance` — whose turn it is, and taking turns.
* `Registry.Operation`, `Registry.after`, `Registry.run` — the operations.
* `Operation.placed?`, `joined` — the history of a name.
* `Registry.Sound` — the invariant.
* `Registry.Follows` — the agreement of a registry with its history.

## Main results

* `Registry.get?_after_self`, `Registry.get?_after_of_ne` — an operation does to its
  group what its effect says, and nothing to any other.
* `Registry.Sound.run` — every operation keeps the invariant.
* `registry_follows_history` — **a registry is what its history says.**
-/

namespace Failover

/-! ### Taking turns -/

namespace Group

/-- The position of the endpoint whose turn it is. -/
def position (g : Group) : Nat := g.cursor.toNat % g.endpoints.length

/-- The group after a turn: one of a single endpoint leaves its cursor alone. -/
def advance (g : Group) : Group :=
  { g with cursor := if g.endpoints.length = 1 then g.cursor else g.cursor + 1 }

theorem position_lt {g : Group} (h : g.endpoints ≠ []) : g.position < g.endpoints.length :=
  Nat.mod_lt _ (List.length_pos_iff.mpr h)

/-- A group that has endpoints gives the turn to the one at the position. -/
theorem select_eq {g : Group} (h : g.endpoints ≠ []) :
    g.select = (g.endpoints[g.position]?).map fun e => (e, g.advance) := by
  obtain ⟨es, cursor⟩ := g
  match es with
  | [] => exact absurd rfl h
  | [e] => simp [select, position, advance, Nat.mod_one]
  | e₁ :: e₂ :: es =>
    have hlength : (e₁ :: e₂ :: es).length ≠ 1 := by simp
    simp only [select, position, advance, if_neg hlength]

theorem select_eq_none_iff {g : Group} : g.select = none ↔ g.endpoints = [] := by
  constructor
  · intro hnone
    refine Decidable.byContradiction fun h => ?_
    rw [select_eq h, List.getElem?_eq_getElem (position_lt h)] at hnone
    cases hnone
  · intro hnil
    obtain ⟨es, cursor⟩ := g
    obtain rfl : es = [] := hnil
    rfl

end Group

namespace Registry

/-! ### The operations -/

/-- What can be done to a registry. -/
inductive Operation where
  /-- An endpoint joins its group. -/
  | register (e : Endpoint)
  /-- A group is removed. -/
  | unregister (name : String)
  /-- All of a group is put in place at once. -/
  | replaceGroup (name : String) (es : List Endpoint)
  /-- A name is resolved. -/
  | resolve (name : String)

/-- The registry after an operation.  A group that is refused and a name that is not
resolved change nothing. -/
def after (r : Registry) : Operation → Registry
  | .register e => r.register e
  | .unregister name => r.unregister name
  | .replaceGroup name es =>
      match r.replaceGroup name es with
      | .ok r' => r'
      | .error _ => r
  | .resolve name =>
      match r.resolve name with
      | some (_, r') => r'
      | none => r

/-- The registry after some operations. -/
def run (r : Registry) (ops : List Operation) : Registry := ops.foldl after r

@[simp] theorem run_nil (r : Registry) : r.run [] = r := rfl

@[simp] theorem run_cons (r : Registry) (op : Operation) (ops : List Operation) :
    r.run (op :: ops) = (r.after op).run ops := rfl

theorem run_append (r : Registry) (ops ops' : List Operation) :
    r.run (ops ++ ops') = (r.run ops).run ops' :=
  List.foldl_append

namespace Operation

/-- The name whose group an operation concerns. -/
def name : Operation → String
  | register e => e.name
  | unregister name | replaceGroup name _ | resolve name => name

/-- What an operation makes of the group that it concerns. -/
def effect (g : Option Group) : Operation → Option Group
  | register e => some (match g with | some g => g.append e | none => { endpoints := [e] })
  | unregister _ => none
  | replaceGroup name es =>
      if ∃ e ∈ es, e.name ≠ name then g
      else if es = [] then none
      else some { endpoints := es, cursor := match g with | some g => g.cursor | none => 0 }
  | resolve _ => g.map fun g => if g.endpoints = [] then g else g.advance

end Operation

/-- A name without endpoints is not resolved.  Any other is resolved to the endpoint
whose turn it is, and the turn is taken. -/
theorem resolve_cases (r : Registry) (name : String) :
    (r.endpoints name = [] ∧ r.resolve name = none) ∨
    ∃ g e, r.groups.get? name = some g ∧ g.endpoints ≠ [] ∧
      g.endpoints[g.position]? = some e ∧
      r.resolve name = some (e, ⟨r.groups.insert name g.advance⟩) := by
  cases hgroup : r.groups.get? name with
  | none => exact Or.inl (by simp [endpoints, resolve, hgroup])
  | some g =>
    by_cases hnil : g.endpoints = []
    · have hnone := Group.select_eq_none_iff.mpr hnil
      exact Or.inl (by simp [endpoints, resolve, hgroup, hnil, hnone])
    · have hget := List.getElem?_eq_getElem (Group.position_lt hnil)
      have hturn := Group.select_eq hnil
      rw [hget, Option.map_some] at hturn
      exact Or.inr ⟨g, _, rfl, hnil, hget, by simp [resolve, hgroup, hturn]⟩

/-- A group is refused exactly if an endpoint of another name is in it. -/
theorem replaceGroup_cases (r : Registry) (name : String) (es : List Endpoint) :
    ((∃ e ∈ es, e.name ≠ name) ∧ ∃ error, r.replaceGroup name es = .error error) ∨
    ((∀ e ∈ es, e.name = name) ∧ ∃ r', r.replaceGroup name es = .ok r' ∧
      r'.groups.get? name = (Operation.replaceGroup name es).effect (r.groups.get? name) ∧
      ∀ n, n ≠ name → r'.groups.get? n = r.groups.get? n) := by
  cases hstray : es.find? (·.name ≠ name) with
  | some stray =>
    have hne : stray.name ≠ name := by simpa using List.find?_some hstray
    refine Or.inl ⟨⟨stray, List.mem_of_find?_eq_some hstray, hne⟩,
      .config (.strayEndpoint stray.name name) none, ?_⟩
    simp only [replaceGroup, hstray]
  | none =>
    have hnamed : ∀ e ∈ es, e.name = name := by simpa using hstray
    have hnone : ¬ ∃ e ∈ es, e.name ≠ name := fun ⟨e, he, hne⟩ => hne (hnamed e he)
    refine Or.inr ⟨hnamed, ?_⟩
    cases es with
    | nil =>
      -- no endpoints means no group
      refine ⟨r.unregister name, rfl, ?_, fun n hn => ?_⟩
      · simp only [Operation.effect, if_neg hnone, if_true]
        exact (Table.get?_erase r.groups name name).trans (if_pos rfl)
      · exact (Table.get?_erase r.groups name n).trans (if_neg hn)
    | cons e es =>
      simp only [replaceGroup, hstray]
      refine ⟨_, rfl, ?_, fun n hn => ?_⟩
      · refine (Table.get?_insert r.groups name name _).trans ?_
        simp only [Operation.effect, if_neg hnone, reduceCtorEq, if_true, if_false]
        cases r.groups.get? name <;> rfl
      · exact (Table.get?_insert r.groups name n _).trans (if_neg hn)

/-- **An operation does to its group what its effect says.** -/
theorem get?_after_self (r : Registry) (op : Operation) :
    (r.after op).groups.get? op.name = op.effect (r.groups.get? op.name) := by
  cases op with
  | register e => exact (Table.get?_insert r.groups e.name e.name _).trans (if_pos rfl)
  | unregister name => exact (Table.get?_erase r.groups name name).trans (if_pos rfl)
  | replaceGroup name es =>
    rcases r.replaceGroup_cases name es with ⟨hstray, error, hrefused⟩ | ⟨-, r', hplaced, hget, -⟩
    · simp only [after, hrefused, Operation.effect, if_pos hstray]
    · simp only [after, hplaced]
      exact hget
  | resolve name =>
    rcases r.resolve_cases name with ⟨hnil, hnone⟩ | ⟨g, e, hgroup, hne, -, hsome⟩
    · simp only [after, hnone, Operation.name]
      cases hgroup : r.groups.get? name with
      | none => rfl
      | some g =>
        have hgnil : g.endpoints = [] := by simpa only [endpoints, hgroup] using hnil
        simp only [Operation.effect, Option.map_some, if_pos hgnil]
    · simp only [after, hsome, Operation.name, hgroup, Operation.effect, Option.map_some,
        if_neg hne]
      exact (Table.get?_insert r.groups name name _).trans (if_pos rfl)

/-- It does nothing to any other group. -/
theorem get?_after_of_ne (r : Registry) {op : Operation} {n : String} (h : n ≠ op.name) :
    (r.after op).groups.get? n = r.groups.get? n := by
  cases op with
  | register e => exact (Table.get?_insert r.groups e.name n _).trans (if_neg h)
  | unregister name => exact (Table.get?_erase r.groups name n).trans (if_neg h)
  | replaceGroup name es =>
    rcases r.replaceGroup_cases name es with ⟨-, error, hrefused⟩ | ⟨-, r', hplaced, -, hother⟩
    · simp only [after, hrefused]
    · simp only [after, hplaced]
      exact hother n h
  | resolve name =>
    rcases r.resolve_cases name with ⟨-, hnone⟩ | ⟨g, e, -, -, -, hsome⟩
    · simp only [after, hnone]
    · simp only [after, hsome]
      exact (Table.get?_insert r.groups name n _).trans (if_neg h)

/-! ### The invariant -/

/-- A group has endpoints, and they all go by its name. -/
def SoundAt (name : String) (g : Group) : Prop :=
  g.endpoints ≠ [] ∧ ∀ e ∈ g.endpoints, e.name = name

/-- Every group is sound. -/
def Sound (r : Registry) : Prop := ∀ {name g}, r.groups.get? name = some g → SoundAt name g

theorem sound_empty : Sound empty := by
  intro name g hgroup
  cases hgroup

theorem Operation.sound_effect (op : Operation) {g : Option Group}
    (h : ∀ g₀, g = some g₀ → SoundAt op.name g₀) {g' : Group} (hg' : op.effect g = some g') :
    SoundAt op.name g' := by
  cases op with
  | register e =>
    cases g with
    | none =>
      cases hg'
      exact ⟨List.cons_ne_nil e [], fun e' he' => by rw [List.mem_singleton.mp he']; rfl⟩
    | some g₀ =>
      cases hg'
      refine ⟨List.append_ne_nil_of_right_ne_nil _ (List.cons_ne_nil e []), fun e' he' => ?_⟩
      rcases List.mem_append.mp he' with he' | he'
      · exact (h g₀ rfl).2 e' he'
      · rw [List.mem_singleton.mp he']
        rfl
  | unregister name => cases hg'
  | replaceGroup name es =>
    simp only [effect] at hg'
    split at hg'
    · exact h g' hg'
    next hnamed =>
      split at hg'
      · cases hg'
      next hne =>
        cases hg'
        exact ⟨hne, fun e he => Decidable.byContradiction fun hname => hnamed ⟨e, he, hname⟩⟩
  | resolve name =>
    cases g with
    | none => cases hg'
    | some g₀ =>
      simp only [effect, Option.map_some, if_neg (h g₀ rfl).1, Option.some.injEq] at hg'
      subst hg'
      exact h g₀ rfl

theorem Sound.after {r : Registry} (h : r.Sound) (op : Operation) : (r.after op).Sound := by
  intro n g hgroup
  by_cases hn : n = op.name
  · subst hn
    rw [get?_after_self] at hgroup
    exact op.sound_effect (fun g₀ hg₀ => h hg₀) hgroup
  · rw [get?_after_of_ne r hn] at hgroup
    exact h hgroup

/-- **Every operation keeps the invariant**, so it holds after all of them. -/
theorem Sound.run (ops : List Operation) : ∀ {r : Registry}, r.Sound → (r.run ops).Sound := by
  induction ops with
  | nil => intro r h; exact h
  | cons op ops ih => intro r h; exact ih (h.after op)

/-! ### The history of a name -/

/-- The list that an operation puts in place of the endpoints of a name, if it does. -/
def Operation.placed? (n : String) : Operation → Option (List Endpoint)
  | unregister name => if name = n then some [] else none
  | replaceGroup name es => if name = n ∧ ∀ e ∈ es, e.name = name then some es else none
  | register _ | resolve _ => none

/-- The endpoints that operations register under a name. -/
def joined (n : String) (ops : List Operation) : List Endpoint :=
  ops.filterMap fun
    | .register e => if e.name = n then some e else none
    | _ => none

theorem joined_cons (n : String) (op : Operation) (ops : List Operation) :
    joined n (op :: ops) = joined n [op] ++ joined n ops :=
  List.filterMap_append (l := [op])

theorem endpoints_eq (r : Registry) (n : String) :
    r.endpoints n = ((r.groups.get? n).map (·.endpoints)).getD [] := by
  unfold endpoints
  cases r.groups.get? n <;> rfl

theorem cursor?_eq (r : Registry) (n : String) :
    r.cursor? n = (r.groups.get? n).map (·.cursor) := rfl

/-- An operation puts a list in place of the endpoints of its name, or else one of them
may join the others. -/
theorem Operation.endpoints_effect (op : Operation) (g : Option Group) :
    ((op.effect g).map (·.endpoints)).getD [] =
      match op.placed? op.name with
      | some es => es
      | none => (g.map (·.endpoints)).getD [] ++ joined op.name [op] := by
  cases op with
  | register e =>
    have hjoined : joined e.name [.register e] = [e] := by simp [joined]
    cases g <;> simp only [effect, placed?, name, hjoined] <;> rfl
  | unregister name => simp [effect, placed?, Operation.name]
  | replaceGroup name es =>
    by_cases hnamed : ∀ e ∈ es, e.name = name
    · have hnone : ¬ ∃ e ∈ es, e.name ≠ name := fun ⟨e, he, hne⟩ => hne (hnamed e he)
      simp only [effect, placed?, Operation.name, if_neg hnone, true_and, if_pos hnamed]
      by_cases hnil : es = [] <;> simp [hnil]
    · have hstray : ∃ e ∈ es, e.name ≠ name := by simpa using hnamed
      simp [effect, placed?, Operation.name, if_pos hstray, if_neg hnamed, joined]
  | resolve name =>
    cases g with
    | none => simp [effect, placed?, joined]
    | some g =>
      by_cases hnil : g.endpoints = [] <;>
        simp [effect, placed?, joined, hnil, Group.advance]

/-- An operation on another name neither puts anything in place nor lets any join. -/
theorem Operation.placed?_of_ne {op : Operation} {n : String} (h : n ≠ op.name) :
    op.placed? n = none ∧ joined n [op] = [] := by
  have hne : op.name ≠ n := fun heq => h heq.symm
  cases op with
  | register e =>
    have hname : ¬ e.name = n := hne
    exact ⟨rfl, by simp [joined, hname]⟩
  | unregister name => exact ⟨if_neg hne, rfl⟩
  | replaceGroup name es => exact ⟨if_neg fun hboth => hne hboth.1, rfl⟩
  | resolve name => exact ⟨rfl, rfl⟩

theorem endpoints_after (r : Registry) (op : Operation) (n : String) :
    (r.after op).endpoints n =
      match op.placed? n with
      | some es => es
      | none => r.endpoints n ++ joined n [op] := by
  by_cases hn : n = op.name
  · subst hn
    rw [endpoints_eq, get?_after_self, op.endpoints_effect, endpoints_eq]
  · obtain ⟨hplaced, hjoined⟩ := Operation.placed?_of_ne hn
    rw [hplaced, hjoined, List.append_nil, endpoints_eq, get?_after_of_ne r hn, endpoints_eq]

/-- As long as nothing is put in place of them, endpoints only join. -/
theorem endpoints_run_of_placed?_eq_none {n : String} (ops : List Operation) :
    ∀ {r : Registry}, (∀ op ∈ ops, op.placed? n = none) →
      (r.run ops).endpoints n = r.endpoints n ++ joined n ops := by
  induction ops with
  | nil => intro r _; exact (List.append_nil _).symm
  | cons op ops ih =>
    intro r hnone
    have hstep := r.endpoints_after op n
    rw [hnone op List.mem_cons_self] at hstep
    rw [run_cons, ih fun op' hop' => hnone op' (List.mem_cons_of_mem op hop'), hstep,
      joined_cons n op ops, List.append_assoc]

/-- What was put in place last comes first. -/
theorem endpoints_run_of_placed? {r : Registry} {n : String} {before later : List Operation}
    {op : Operation} {es : List Endpoint} (hplaced : op.placed? n = some es)
    (hnone : ∀ op' ∈ later, op'.placed? n = none) :
    (r.run (before ++ op :: later)).endpoints n = es ++ joined n later := by
  have hstep := (r.run before).endpoints_after op n
  rw [hplaced] at hstep
  rw [run_append, run_cons, endpoints_run_of_placed?_eq_none later hnone, hstep]

/-! ### Names and cursors -/

theorem mem_names_iff {r : Registry} {n : String} :
    n ∈ r.names ↔ (r.groups.get? n).isSome = true := by
  rw [Option.isSome_iff_exists]
  unfold names Table.keys
  constructor
  · intro h
    obtain ⟨row, hrow, hkey⟩ := List.mem_map.mp h
    exact ⟨row.2, Table.get?_eq_some_iff.mpr (hkey ▸ hrow)⟩
  · rintro ⟨g, hg⟩
    exact List.mem_map.mpr ⟨(n, g), Table.get?_eq_some_iff.mp hg, rfl⟩

/-- A name has a group exactly if that has endpoints. -/
theorem Sound.isSome_get?_iff {r : Registry} (h : r.Sound) {n : String} :
    (r.groups.get? n).isSome = true ↔ r.endpoints n ≠ [] := by
  rw [endpoints_eq]
  cases hgroup : r.groups.get? n with
  | none => simp
  | some g => simpa using (h hgroup).1

theorem isSome_resolve_iff {r : Registry} {n : String} :
    (r.resolve n).isSome = true ↔ r.endpoints n ≠ [] := by
  rw [Option.isSome_iff_ne_none, Ne, resolve_eq_none_iff]

theorem replaceGroup_error_iff (r : Registry) {n : String} {es : List Endpoint} :
    (∃ error, r.replaceGroup n es = .error error) ↔ ∃ e ∈ es, e.name ≠ n := by
  rcases r.replaceGroup_cases n es with ⟨hstray, hrefused⟩ | ⟨hnamed, r', hplaced, -⟩
  · exact ⟨fun _ => hstray, fun _ => hrefused⟩
  · rw [hplaced]
    constructor
    · rintro ⟨error, herror⟩
      cases herror
    · rintro ⟨e, he, hne⟩
      exact absurd (hnamed e he) hne

theorem after_replaceGroup_of_stray (r : Registry) {n : String} {es : List Endpoint}
    (hstray : ∃ e ∈ es, e.name ≠ n) : r.after (.replaceGroup n es) = r := by
  obtain ⟨error, hrefused⟩ := r.replaceGroup_error_iff.mpr hstray
  simp only [after, hrefused]

theorem cursor?_after_self (r : Registry) (op : Operation) :
    (r.after op).cursor? op.name = (op.effect (r.groups.get? op.name)).map (·.cursor) := by
  rw [cursor?_eq, get?_after_self]

/-- A group that endpoints join or are put in place of keeps its cursor, and one that
they make begins at zero. -/
theorem cursor?_register (r : Registry) (e : Endpoint) :
    (r.register e).cursor? e.name = some ((r.cursor? e.name).getD 0) := by
  refine (r.cursor?_after_self (.register e)).trans ?_
  rw [cursor?_eq, Operation.name]
  cases r.groups.get? e.name <;> rfl

theorem cursor?_replaceGroup {r : Registry} {n : String} {es : List Endpoint} (hne : es ≠ [])
    (hnamed : ∀ e ∈ es, e.name = n) :
    ∃ r', r.replaceGroup n es = .ok r' ∧ r'.cursor? n = some ((r.cursor? n).getD 0) := by
  have hnone : ¬ ∃ e ∈ es, e.name ≠ n := fun ⟨e, he, hstray⟩ => hstray (hnamed e he)
  rcases r.replaceGroup_cases n es with ⟨hstray, -⟩ | ⟨-, r', hplaced, hget, -⟩
  · exact absurd hstray hnone
  · refine ⟨r', hplaced, ?_⟩
    rw [cursor?_eq, cursor?_eq, hget]
    simp only [Operation.effect, if_neg hnone, if_neg hne]
    cases r.groups.get? n <;> rfl

/-- Only a group of several endpoints counts its turns. -/
theorem Sound.cursor?_resolve {r : Registry} (h : r.Sound) (n : String) :
    (r.after (.resolve n)).cursor? n =
      (r.cursor? n).map fun c => if r.count n = 1 then c else c + 1 := by
  refine (r.cursor?_after_self (.resolve n)).trans ?_
  rw [cursor?_eq, Operation.name]
  cases hg : r.groups.get? n with
  | none => rfl
  | some g =>
    have hsize : r.count n = g.endpoints.length := by simp only [count, endpoints, hg]
    simp only [Operation.effect, Option.map_some, if_neg (h hg).1, hsize]
    rfl

/-! ### The agreement -/

/-- What a registry is after some operations on the empty one. -/
structure Follows (r : Registry) (ops : List Operation) : Prop where
  /-- No group is without endpoints. -/
  endpoints_ne_nil : ∀ {n g}, r.groups.get? n = some g → g.endpoints ≠ []
  /-- The endpoints of a group go by its name. -/
  name_eq : ∀ {n g}, r.groups.get? n = some g → ∀ e ∈ g.endpoints, e.name = n
  /-- A name in place of whose endpoints nothing was ever put has those that joined. -/
  endpoints_of_joined : ∀ {n}, (∀ op ∈ ops, op.placed? n = none) → r.endpoints n = joined n ops
  /-- Any other name has those that were put in place last, and those that joined since.
  The removal of a group puts none in place of them. -/
  endpoints_of_placed : ∀ {n before op later es}, ops = before ++ op :: later →
    op.placed? n = some es → (∀ op' ∈ later, op'.placed? n = none) →
      r.endpoints n = es ++ joined n later
  /-- The names that are listed are those that have endpoints. -/
  mem_names_iff_count : ∀ {n}, n ∈ r.names ↔ 0 < r.count n
  /-- The names that have endpoints are those that have a cursor. -/
  count_iff_cursor : ∀ {n}, 0 < r.count n ↔ (r.cursor? n).isSome = true
  /-- The names that have a cursor are those that are resolved. -/
  cursor_iff_resolve : ∀ {n}, (r.cursor? n).isSome = true ↔ (r.resolve n).isSome = true
  /-- A name is resolved to one of its endpoints. -/
  resolve_mem : ∀ {n e r'}, r.resolve n = some (e, r') → e ∈ r.endpoints n
  /-- A group is refused exactly if an endpoint of another name is in it. -/
  refused_iff : ∀ {n es},
    (∃ error, r.replaceGroup n es = .error error) ↔ ∃ e ∈ es, e.name ≠ n
  /-- A group that is refused changes nothing. -/
  after_refused : ∀ {n es}, (∃ e ∈ es, e.name ≠ n) → r.after (.replaceGroup n es) = r
  /-- An operation leaves the other names alone. -/
  after_of_ne : ∀ {op n}, n ≠ op.name →
    (r.after op).endpoints n = r.endpoints n ∧ (r.after op).cursor? n = r.cursor? n
  /-- An endpoint that joins leaves the cursor of its group alone.  That of a group which
  it makes is zero. -/
  cursor_register : ∀ e, (r.register e).cursor? e.name = some ((r.cursor? e.name).getD 0)
  /-- Endpoints that are put in place leave it alone as well. -/
  cursor_replaceGroup : ∀ {n es}, es ≠ [] → (∀ e ∈ es, e.name = n) →
    ∃ r', r.replaceGroup n es = .ok r' ∧ r'.cursor? n = some ((r.cursor? n).getD 0)
  /-- If none are put in place, the group and its cursor are forgotten. -/
  replaceGroup_nil : ∀ n, r.replaceGroup n [] = .ok (r.unregister n) ∧
    (r.unregister n).cursor? n = none
  /-- The cursor counts the turns of a group of several endpoints, and no others. -/
  cursor_resolve : ∀ n, (r.after (.resolve n)).cursor? n =
    (r.cursor? n).map fun c => if r.count n = 1 then c else c + 1

end Registry

/-- **A registry is what its history says**, after any operations on the empty one. -/
theorem registry_follows_history (ops : List Registry.Operation) :
    (Registry.empty.run ops).Follows ops := by
  have hsound : (Registry.empty.run ops).Sound := Registry.sound_empty.run ops
  have hempty : ∀ n, Registry.empty.endpoints n = [] := fun _ => rfl
  -- a name has a cursor, is counted and is resolved exactly if it has a group
  have hcursor : ∀ n, ((Registry.empty.run ops).cursor? n).isSome =
      ((Registry.empty.run ops).groups.get? n).isSome := fun n => Option.isSome_map
  have hcount : ∀ n, 0 < (Registry.empty.run ops).count n ↔
      (Registry.empty.run ops).endpoints n ≠ [] := fun n => List.length_pos_iff
  exact {
    endpoints_ne_nil := fun h => (hsound h).1
    name_eq := fun h => (hsound h).2
    endpoints_of_joined := by
      intro n hnone
      rw [Registry.endpoints_run_of_placed?_eq_none ops hnone, hempty, List.nil_append]
    endpoints_of_placed := by
      rintro n before op later es rfl hplaced hnone
      exact Registry.endpoints_run_of_placed? hplaced hnone
    mem_names_iff_count := by
      intro n
      rw [Registry.mem_names_iff, hsound.isSome_get?_iff, hcount]
    count_iff_cursor := by
      intro n
      rw [hcount, hcursor, hsound.isSome_get?_iff]
    cursor_iff_resolve := by
      intro n
      rw [hcursor, hsound.isSome_get?_iff, Registry.isSome_resolve_iff]
    resolve_mem := Registry.mem_of_resolve
    refused_iff := Registry.replaceGroup_error_iff _
    after_refused := Registry.after_replaceGroup_of_stray _
    after_of_ne := by
      intro op n hn
      have hsame := (Registry.empty.run ops).get?_after_of_ne hn
      rw [Registry.endpoints_eq, Registry.cursor?_eq, hsame]
      exact ⟨(Registry.endpoints_eq _ n).symm, rfl⟩
    cursor_register := Registry.cursor?_register _
    cursor_replaceGroup := Registry.cursor?_replaceGroup
    replaceGroup_nil := fun n =>
      ⟨rfl, (Registry.empty.run ops).cursor?_after_self (.unregister n)⟩
    cursor_resolve := hsound.cursor?_resolve }

end Failover
