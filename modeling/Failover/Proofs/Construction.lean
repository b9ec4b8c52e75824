import Failover.Proofs.Groups
import Failover.Router
import Mathlib.Data.List.DropRight

/-!
# From a configuration to a router

A configuration is looked at three times before a router stands: it is checked, its
entries are turned into endpoints, and both are done again when the router is built.
They agree.  Each of them goes through the entries in order and stops at the first one
that lacks something, so all three report the same entry, by its position, and the same
fault.  Where no entry lacks anything, none of the three fails, and the registry is the
list of entries sorted by name: no entry is lost, none joins another, and those of one
name stay in their order.

## Main definitions

* `Text.trimmed` — a text without the blanks at its ends.
* `Entry.Complete`, `Entry.Lacks` — what an entry has to have, and what it lacks.
* `Entry.described` — the endpoint that an entry describes.
* `Registry.Lists` — the registry of a list of entries.

## Main results

* `forEntries_eq_ok`, `forEntries_eq_error` — what going through the entries comes to.
* `Registry.lists_ofEntries` — the registry that is built lists the entries.
* `construction_agrees` — **checking a configuration and building from it agree.**
-/

namespace Failover

/-! ### What an entry has to have -/

/-- A text without the blanks at its two ends. -/
def Text.trimmed (text : String) : String :=
  String.ofList ((text.toList.dropWhile isBlank).rdropWhile isBlank)

/-- Nothing is left of the blank texts once they are trimmed. -/
theorem Text.isBlankText_iff {text : String} : isBlankText text = true ↔ trimmed text = "" := by
  have hofList : trimmed text = "" ↔
      (text.toList.dropWhile isBlank).rdropWhile isBlank = [] := by
    rw [trimmed, ← String.toList_inj, String.toList_ofList, String.toList_empty]
  rw [hofList, List.rdropWhile_eq_nil_iff, isBlankText, List.all_eq_true]
  constructor
  · intro hall
    rw [List.dropWhile_eq_nil_iff.mpr hall]
    exact fun c hc => absurd hc List.not_mem_nil
  · -- what is left at the front begins with a character that is not blank
    intro hrest
    refine List.dropWhile_eq_nil_iff.mp (Decidable.byContradiction fun hne => ?_)
    have hhead := List.head_dropWhile_not isBlank hne
    rw [hrest _ (List.head_mem hne)] at hhead
    cases hhead

namespace Entry

/-- An entry has a name and a model, both more than blanks. -/
structure Complete (e : Entry) : Prop where
  /-- The name is more than blanks. -/
  name_ne : Text.trimmed e.name ≠ ""
  /-- The model is more than blanks. -/
  model_ne : Text.trimmed e.model ≠ ""

/-- What an entry lacks: its name, or, having a name, its model. -/
inductive Lacks (e : Entry) : ConfigFault → Prop
  /-- It lacks a name. -/
  | name (h : Text.trimmed e.name = "") : e.Lacks .nameMissing
  /-- It has a name but lacks a model. -/
  | model (hname : Text.trimmed e.name ≠ "") (h : Text.trimmed e.model = "") :
      e.Lacks .modelMissing

/-- The endpoint that an entry describes, complete or not. -/
def described (e : Entry) : Endpoint :=
  .ofTarget e.name e.target.text e.credentials (e.rpm.filter (0 < ·)) e.maxTokensField

theorem Lacks.not_complete {e : Entry} {fault : ConfigFault} (h : e.Lacks fault) :
    ¬ e.Complete := by
  intro hcomplete
  cases h with
  | name h => exact hcomplete.name_ne h
  | model _ h => exact hcomplete.model_ne h

theorem complete_or_lacks (e : Entry) : e.Complete ∨ ∃ fault, e.Lacks fault := by
  by_cases hname : Text.trimmed e.name = ""
  · exact Or.inr ⟨.nameMissing, .name hname⟩
  · by_cases hmodel : Text.trimmed e.model = ""
    · exact Or.inr ⟨.modelMissing, .model hname hmodel⟩
    · exact Or.inl ⟨hname, hmodel⟩

theorem fault?_of_complete {e : Entry} (h : e.Complete) : e.fault? = none := by
  rw [fault?, if_neg fun hname => h.name_ne (Text.isBlankText_iff.mp hname),
    if_neg fun hmodel => h.model_ne (Text.isBlankText_iff.mp hmodel)]

theorem fault?_of_lacks {e : Entry} {fault : ConfigFault} (h : e.Lacks fault) :
    e.fault? = some fault := by
  cases h with
  | name h => rw [fault?, if_pos (Text.isBlankText_iff.mpr h)]
  | model hname h =>
    rw [fault?, if_neg fun hblank => hname (Text.isBlankText_iff.mp hblank),
      if_pos (Text.isBlankText_iff.mpr h)]

/-- An entry that is complete is accepted, and gives its endpoint. -/
theorem Complete.accepted {e : Entry} (h : e.Complete) :
    e.check = .ok () ∧ e.endpoint = .ok e.described := by
  rw [endpoint, check, fault?_of_complete h]
  exact ⟨rfl, rfl⟩

/-- Of any other entry both its check and its endpoint report what it lacks. -/
theorem Lacks.refused {e : Entry} {fault : ConfigFault} (h : e.Lacks fault) :
    e.check = .error (.config fault none) ∧ e.endpoint = .error (.config fault none) := by
  rw [endpoint, check, fault?_of_lacks h]
  exact ⟨rfl, rfl⟩

end Entry

/-! ### Going through the entries -/

/-- Something that is done with every entry goes well if it goes well with each of
them. -/
theorem forEntries_eq_ok {α : Type} {f : Entry → Except RoutingError α} {g : Entry → α}
    {entries : List Entry} (h : ∀ e ∈ entries, f e = .ok (g e)) (i : Nat) :
    forEntries f i entries = .ok (entries.map g) := by
  induction entries generalizing i with
  | nil => rfl
  | cons e rest ih =>
    rw [forEntries, h e List.mem_cons_self]
    simp only [ih fun e' he' => h e' (List.mem_cons_of_mem e he'), Except.map, List.map_cons]

/-- It stops at the first entry with which it does not go well, and notes its
position. -/
theorem forEntries_eq_error {α : Type} {f : Entry → Except RoutingError α} {g : Entry → α}
    {before after : List Entry} {e : Entry} {error : RoutingError}
    (h : ∀ e' ∈ before, f e' = .ok (g e')) (he : f e = .error error) (i : Nat) :
    forEntries f i (before ++ e :: after) =
      .error (error.inContext (entryContext (i + before.length))) := by
  induction before generalizing i with
  | nil =>
    rw [List.nil_append, forEntries, he]
    rfl
  | cons e' before ih =>
    have hposition : i + 1 + before.length = i + (e' :: before).length := by
      rw [List.length_cons]
      omega
    rw [List.cons_append, forEntries, h e' List.mem_cons_self]
    simp only [ih fun e'' he'' => h e'' (List.mem_cons_of_mem e' he''), Except.map, hposition]

/-- Either all entries are complete, or there is a first one that lacks something. -/
theorem complete_or_first_lacks (entries : List Entry) :
    (∀ e ∈ entries, e.Complete) ∨
    ∃ before e after fault, entries = before ++ e :: after ∧ (∀ e' ∈ before, e'.Complete) ∧
      e.Lacks fault := by
  induction entries with
  | nil => exact Or.inl fun e he => absurd he List.not_mem_nil
  | cons e rest ih =>
    rcases e.complete_or_lacks with hcomplete | ⟨fault, hlacks⟩
    · rcases ih with hall | ⟨before, e', after, fault, rfl, hbefore, hlacks⟩
      · exact Or.inl (List.forall_mem_cons.mpr ⟨hcomplete, hall⟩)
      · exact Or.inr ⟨e :: before, e', after, fault, rfl,
          List.forall_mem_cons.mpr ⟨hcomplete, hbefore⟩, hlacks⟩
    · exact Or.inr ⟨[], e, rest, fault, rfl, fun e' he' => absurd he' List.not_mem_nil, hlacks⟩

/-! ### The registry of the entries -/

namespace Registry

/-- A registry is the list of some entries sorted by name. -/
structure Lists (r : Registry) (entries : List Entry) : Prop where
  /-- Its names are those of the entries. -/
  mem_names_iff : ∀ n, n ∈ r.names ↔ ∃ e ∈ entries, e.name = n
  /-- The endpoints of a name are those of its entries, in their order. -/
  endpoints_eq : ∀ n, (r.endpoints n).map Except.ok =
    (entries.filter (·.name = n)).map Entry.endpoint
  /-- No turn has been taken. -/
  cursor_eq : ∀ n ∈ r.names, r.cursor? n = some 0
  /-- No endpoint has a hint of zero. -/
  rpmHint_pos : ∀ n, ∀ e ∈ r.endpoints n, ∀ rpm, e.rpmHint = some rpm → 0 < rpm

/-- The operations that register some endpoints. -/
def registering (es : List Endpoint) : List Operation := es.map .register

theorem foldl_register (es : List Endpoint) (r : Registry) :
    es.foldl register r = r.run (registering es) := by
  rw [run, registering, List.foldl_map]
  rfl

theorem joined_registering (n : String) (es : List Endpoint) :
    joined n (registering es) = es.filter (·.name = n) := by
  induction es with
  | nil => rfl
  | cons e es ih =>
    change joined n (.register e :: registering es) = _
    rw [joined_cons, ih, joined]
    by_cases hname : e.name = n <;> simp [hname]

/-- Endpoints that are registered leave the cursors at zero that were there. -/
theorem cursor?_registering (es : List Endpoint) :
    ∀ {r : Registry}, (∀ {n c}, r.cursor? n = some c → c = 0) →
      ∀ {n c}, (r.run (registering es)).cursor? n = some c → c = 0 := by
  induction es with
  | nil => exact fun h => h
  | cons e es ih =>
    intro r h
    refine ih (r := r.register e) fun {n c} hcursor => ?_
    by_cases hn : n = e.name
    · rw [hn, cursor?_register] at hcursor
      cases hold : r.cursor? e.name with
      | none =>
        rw [hold] at hcursor
        exact (Option.some.inj hcursor).symm
      | some c' =>
        rw [hold] at hcursor
        exact (Option.some.inj hcursor).symm.trans (h hold)
    · have hsame : (r.register e).groups.get? n = r.groups.get? n :=
        get?_after_of_ne r (show n ≠ (Operation.register e).name from hn)
      rw [cursor?_eq, hsame] at hcursor
      exact h hcursor

/-- **The registry that is built from entries which are complete lists them.** -/
theorem lists_ofEntries {entries : List Entry} (h : ∀ e ∈ entries, e.Complete) :
    ∃ r, ofEntries entries = .ok r ∧ r.Lists entries := by
  have hok : ∀ e ∈ entries, e.endpoint = .ok e.described := fun e he => (h e he).accepted.2
  refine ⟨empty.run (registering (entries.map Entry.described)), ?_, ?_⟩
  · rw [ofEntries, forEntries_eq_ok hok, ← foldl_register]
    rfl
  have hsound : (empty.run (registering (entries.map Entry.described))).Sound := sound_empty.run _
  have hplaced : ∀ n, ∀ op ∈ registering (entries.map Entry.described), op.placed? n = none := by
    intro n op hop
    obtain ⟨e, -, rfl⟩ := List.mem_map.mp hop
    rfl
  have hendpoints : ∀ n, (empty.run (registering (entries.map Entry.described))).endpoints n =
      (entries.filter (·.name = n)).map Entry.described := by
    intro n
    have hempty : empty.endpoints n = [] := rfl
    rw [endpoints_run_of_placed?_eq_none _ (hplaced n), hempty, List.nil_append,
      joined_registering, List.filter_map]
    rfl
  exact {
    mem_names_iff := by
      intro n
      rw [Registry.mem_names_iff, hsound.isSome_get?_iff, hendpoints, Ne, List.map_eq_nil_iff,
        List.filter_eq_nil_iff]
      simp
    endpoints_eq := by
      intro n
      rw [hendpoints, List.map_map]
      exact List.map_congr_left fun e he => (hok e (List.mem_of_mem_filter he)).symm
    cursor_eq := by
      intro n hn
      rw [Registry.mem_names_iff, ← Option.isSome_map (f := Group.cursor), ← cursor?_eq,
        Option.isSome_iff_exists] at hn
      obtain ⟨c, hc⟩ := hn
      have hnone : ∀ {n c}, empty.cursor? n = some c → c = 0 := fun h => by cases h
      rw [hc, cursor?_registering _ hnone hc]
    rpmHint_pos := by
      intro n e he rpm hrpm
      rw [hendpoints] at he
      obtain ⟨entry, -, rfl⟩ := List.mem_map.mp he
      exact of_decide_eq_true (Option.filter_eq_some_iff.mp hrpm).2 }

end Registry

/-! ### The three looks -/

/-- What checking a configuration, the registry of its entries and its router have in
common. -/
structure RoutingConfig.Agreement (τ : Type) (c : RoutingConfig) : Prop where
  /-- The check accepts the configuration exactly if all entries are complete. -/
  check_iff : c.check = .ok () ↔ ∀ e ∈ c.entries, e.Complete
  /-- There is a registry of the entries exactly then. -/
  registry_iff : (∃ r, Registry.ofEntries c.entries = .ok r) ↔ ∀ e ∈ c.entries, e.Complete
  /-- There is a router exactly then. -/
  router_iff : (∃ built : Router τ × List Notice, Router.ofConfig c = .ok built) ↔
    ∀ e ∈ c.entries, e.Complete
  /-- Otherwise all three report the first entry that lacks something, by its position and
  with the fault that its own check reports. -/
  reported : (¬ ∀ e ∈ c.entries, e.Complete) → ∃ before e after fault error,
    c.entries = before ++ e :: after ∧ (∀ e' ∈ before, e'.Complete) ∧ e.Lacks fault ∧
    e.check = .error (.config fault none) ∧
    error = .config fault (some ("model_list[" ++ toString before.length ++ "]")) ∧
    c.check = .error error ∧ Registry.ofEntries c.entries = .error error ∧
    (Router.ofConfig c : Except RoutingError (Router τ × List Notice)) = .error error
  /-- The registry lists the entries. -/
  lists : ∀ r, Registry.ofEntries c.entries = .ok r → r.Lists c.entries
  /-- It is the router's. -/
  registry_eq : ∀ built : Router τ × List Notice, Router.ofConfig c = .ok built →
    Registry.ofEntries c.entries = .ok built.1.registry

/-- A router is built exactly if the check accepts the configuration and there is a
registry, and reports the error of the check otherwise. -/
theorem Router.ofConfig_cases {τ : Type} {c : RoutingConfig} {r : Registry}
    (hcheck : c.check = .ok ()) (hregistry : Registry.ofEntries c.entries = .ok r) :
    ∃ built : Router τ × List Notice, Router.ofConfig c = .ok built ∧ built.1.registry = r := by
  unfold Router.ofConfig
  rw [hcheck, hregistry]
  exact ⟨_, rfl, rfl⟩

theorem Router.ofConfig_of_refused {τ : Type} {c : RoutingConfig} {error : RoutingError}
    (hcheck : c.check = .error error) :
    (Router.ofConfig c : Except RoutingError (Router τ × List Notice)) = .error error := by
  unfold Router.ofConfig
  rw [hcheck]
  rfl

/-- **Checking a configuration and building from it agree.**  The check, the registry of
the entries and the router all succeed, if every entry has a name and a model that are
more than blanks, or else report the same first entry for the same fault; and what is
built is the list of the entries sorted by name. -/
theorem construction_agrees (τ : Type) (c : RoutingConfig) : c.Agreement τ := by
  rcases complete_or_first_lacks c.entries with
    hall | ⟨before, e, after, fault, hsplit, hbefore, hlacks⟩
  · have hcheck : c.check = .ok () := by
      rw [RoutingConfig.check, forEntries_eq_ok fun e he => (hall e he).accepted.1]
      rfl
    obtain ⟨r, hregistry, hlists⟩ := Registry.lists_ofEntries hall
    obtain ⟨built, hrouter, hbuilt⟩ := Router.ofConfig_cases (τ := τ) hcheck hregistry
    exact {
      check_iff := ⟨fun _ => hall, fun _ => hcheck⟩
      registry_iff := ⟨fun _ => hall, fun _ => ⟨r, hregistry⟩⟩
      router_iff := ⟨fun _ => hall, fun _ => ⟨built, hrouter⟩⟩
      reported := fun hnot => absurd hall hnot
      lists := by
        intro r' hr'
        cases hregistry.symm.trans hr'
        exact hlists
      registry_eq := by
        intro built' hbuilt'
        cases hrouter.symm.trans hbuilt'
        rw [hregistry, hbuilt] }
  · have hnot : ¬ ∀ e ∈ c.entries, e.Complete := fun hall =>
      hlacks.not_complete (hall e (hsplit ▸ List.mem_append_right before List.mem_cons_self))
    have hcheck : c.check = .error (.config fault (some (entryContext before.length))) := by
      rw [RoutingConfig.check, hsplit, forEntries_eq_error
        (fun e' he' => (hbefore e' he').accepted.1) hlacks.refused.1, Nat.zero_add]
      rfl
    have hregistry : Registry.ofEntries c.entries =
        .error (.config fault (some (entryContext before.length))) := by
      rw [Registry.ofEntries, hsplit, forEntries_eq_error
        (fun e' he' => (hbefore e' he').accepted.2) hlacks.refused.2, Nat.zero_add]
      rfl
    have hrouter := Router.ofConfig_of_refused (τ := τ) hcheck
    exact {
      check_iff := by simp [hcheck, hnot]
      registry_iff := by simp [hregistry, hnot]
      router_iff := by simp [hrouter, hnot]
      reported := fun _ => ⟨before, e, after, fault, _, hsplit, hbefore, hlacks,
        hlacks.refused.1, rfl, hcheck, hregistry, hrouter⟩
      lists := by
        intro r hr
        cases hregistry.symm.trans hr
      registry_eq := by
        intro built hbuilt
        cases hrouter.symm.trans hbuilt }

end Failover
