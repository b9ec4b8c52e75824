import Failover.Config.Routing
import Failover.Config.Selection
import Failover.Proofs.Reorderings
import Failover.Proofs.SpanTexts

/-!
# Configurations survive being written

A configuration that is written as a value and read again is the same configuration, and
so are the model settings of an agent, in whatever order the fields of the objects come
back.  Nothing that a record holds is lost: a part that is left out of the value is one
that the reader assumes anyway.

For each record, `held` says what the reader has after the fields of some names: the
written part where the name is among them, and the default where it is not.

## Main results

* `Entry.readsBack`, `CooldownWindows.readsBack`, `RateLimit.readsBack`,
  `Selection.readsBack` — the parts of the two.
* `configurations_read_back` — **configurations and model settings that are written and
  read are the same.**
-/

namespace Failover

open Value

/-! ### Entries -/

namespace Entry

variable {e : Entry}

/-- What has been read of an entry once the fields of some names have been seen. -/
def held (e : Entry) (seen : List String) : Draft where
  name := if "model_name" ∈ seen then some e.name else none
  model := if "model" ∈ seen then some e.model else none
  credentials :=
    { apiBase := if "api_base" ∈ seen then e.credentials.apiBase else none
      apiKey := if "api_key" ∈ seen then e.credentials.apiKey else none
      proxy := if "proxy" ∈ seen then e.credentials.proxy else none
      authMethod := if "auth_method" ∈ seen then e.credentials.authMethod else none
      connectMode := if "connect_mode" ∈ seen then e.credentials.connectMode else none }
  rpm := if "rpm" ∈ seen then e.rpm else none
  maxTokensField := if "max_tokens_field" ∈ seen then e.maxTokensField else none

/-- The fields that are written of an entry. -/
def written (e : Entry) : List (String × Value) :=
  [("model_name", .text e.name), ("model", .text e.model)] ++
    ifAny "api_base" (e.credentials.apiBase.map .text) ++
    ifAny "api_key" (e.credentials.apiKey.map .text) ++
    ifAny "proxy" (e.credentials.proxy.map .text) ++
    ifAny "auth_method" (e.credentials.authMethod.map .text) ++
    ifAny "connect_mode" (e.credentials.connectMode.map .text) ++
    ifAny "rpm" (e.rpm.map fun rpm => .int rpm.toNat) ++
    ifAny "max_tokens_field" (e.maxTokensField.map .text)

/-- An entry is written as its fields. -/
theorem toValue_eq (e : Entry) : e.toValue = .object e.written := rfl

/-- The fields of an entry that are written. -/
theorem mem_written {name : String} {v : Value} : (name, v) ∈ e.written ↔
    (name = "model_name" ∧ v = .text e.name) ∨ (name = "model" ∧ v = .text e.model) ∨
    (name = "api_base" ∧ ∃ s, e.credentials.apiBase = some s ∧ .text s = v) ∨
    (name = "api_key" ∧ ∃ s, e.credentials.apiKey = some s ∧ .text s = v) ∨
    (name = "proxy" ∧ ∃ s, e.credentials.proxy = some s ∧ .text s = v) ∨
    (name = "auth_method" ∧ ∃ s, e.credentials.authMethod = some s ∧ .text s = v) ∨
    (name = "connect_mode" ∧ ∃ s, e.credentials.connectMode = some s ∧ .text s = v) ∨
    (name = "rpm" ∧ ∃ n, e.rpm = some n ∧ .int n.toNat = v) ∨
    (name = "max_tokens_field" ∧ ∃ s, e.maxTokensField = some s ∧ .text s = v) := by
  simp only [written, List.mem_append, List.mem_cons, mem_ifAny, Option.map_eq_some_iff,
    List.not_mem_nil, or_false, Prod.mk.injEq, or_assoc]

/-- Each field of an entry that is read is held. -/
theorem set_held (seen : List String) (name : String) (v w : Value)
    (hmem : (name, v) ∈ e.written) (hsame : v.Reordered w) :
    (e.held seen).set name w = .ok (e.held (name :: seen)) := by
  have htext (s : String) : asOption asText (.text s) = .ok (some s) := rfl
  have hcount (n : UInt32) : asOption asCount (.int n.toNat) = .ok (some n) :=
    asCount_readsBack.asOption (by simp)
  rcases mem_written.mp hmem with ⟨rfl, rfl⟩ | ⟨rfl, rfl⟩ | ⟨rfl, s, hgiven, rfl⟩ |
    ⟨rfl, s, hgiven, rfl⟩ | ⟨rfl, s, hgiven, rfl⟩ | ⟨rfl, s, hgiven, rfl⟩ | ⟨rfl, s, hgiven, rfl⟩ |
    ⟨rfl, n, hgiven, rfl⟩ | ⟨rfl, s, hgiven, rfl⟩ <;>
    cases hsame <;>
    simp [Draft.set, held, asText, *]

/-- An entry is complete once all its fields have been seen. -/
theorem entry_held {seen : List String} (hall : ∀ field ∈ e.written, field.1 ∈ seen) :
    (e.held seen).entry = .ok e := by
  have hnamed : "model_name" ∈ seen := hall ("model_name", .text e.name) (by simp [mem_written])
  have hmodelled : "model" ∈ seen := hall ("model", .text e.model) (by simp [mem_written])
  have hbase := held_eq e.credentials.apiBase fun s h =>
    hall ("api_base", .text s) (by simp [mem_written, h])
  have hkey := held_eq e.credentials.apiKey fun s h =>
    hall ("api_key", .text s) (by simp [mem_written, h])
  have hproxy := held_eq e.credentials.proxy fun s h =>
    hall ("proxy", .text s) (by simp [mem_written, h])
  have hauth := held_eq e.credentials.authMethod fun s h =>
    hall ("auth_method", .text s) (by simp [mem_written, h])
  have hconnect := held_eq e.credentials.connectMode fun s h =>
    hall ("connect_mode", .text s) (by simp [mem_written, h])
  have hrpm := held_eq e.rpm fun n h =>
    hall ("rpm", .int n.toNat) (by simp [mem_written, h])
  have hfield := held_eq e.maxTokensField fun s h =>
    hall ("max_tokens_field", .text s) (by simp [mem_written, h])
  simp only [Draft.entry, held, if_pos hnamed, if_pos hmodelled, hbase, hkey, hproxy, hauth,
    hconnect, hrpm, hfield]

/-- Entries are read back. -/
theorem readsBack : ReadsBack toValue ofValue := by
  refine .of_reordered fun e w hsame => ?_
  have hknown : ∀ field ∈ e.written, field.1 ∈ fieldNames := by
    intro field hmem
    rcases mem_written.mp hmem with h | h | h | h | h | h | h | h | h <;>
      simp [fieldNames, h.1]
  rw [toValue_eq] at hsame
  obtain ⟨seen, hall, hread⟩ := asRecord_of_reordered Draft.set e.held hknown set_held hsame
  exact (bind_of_ok hread _).trans (entry_held hall)

end Entry

/-! ### Cooldown windows -/

namespace CooldownWindows

/-- Lengths of time are read back. -/
theorem readSpan_readsBack : ReadsBack (fun s : Span => .text s.text) readSpan :=
  .of_reordered fun s w hsame => by
    rw [hsame.of_text]
    simp only [readSpan, s.ofText_text]

/-- What has been read of windows once the fields of some names have been seen. -/
def held (w : CooldownWindows) (seen : List String) : CooldownWindows where
  rateLimit := if "rate_limit" ∈ seen then w.rateLimit else standard.rateLimit
  timeout := if "timeout" ∈ seen then w.timeout else standard.timeout
  serverError := if "server_error" ∈ seen then w.serverError else standard.serverError
  auth := if "auth" ∈ seen then w.auth else standard.auth
  billing := if "billing" ∈ seen then w.billing else standard.billing

/-- Each window that is read is held. -/
theorem set_held {windows : CooldownWindows} {kind : Kind} {span : Span}
    (hgiven : windows.forKind kind = some span) (seen : List String) :
    (windows.held seen).set kind span = windows.held (kind.name :: seen) := by
  cases kind <;> simp_all [forKind, set, held, Kind.name]

/-- The windows are complete once all their fields have been seen. -/
theorem held_of_all {windows : CooldownWindows} {seen : List String}
    (hall : ∀ kind ∈ kinds, kind.name ∈ seen) : windows.held seen = windows := by
  simp only [kinds, Kind.name, List.forall_mem_cons] at hall
  obtain ⟨hlimit, htimeout, hserver, hauth, hbilling, -⟩ := hall
  simp only [held, if_pos hlimit, if_pos htimeout, if_pos hserver, if_pos hauth,
    if_pos hbilling]

/-- The fields of windows that are written. -/
theorem mem_written {windows : CooldownWindows} {name : String} {v : Value} :
    (name, v) ∈ (kinds.filterMap fun kind =>
      (windows.forKind kind).map fun span => (kind.name, Value.text span.text)) ↔
      ∃ kind ∈ kinds, ∃ span, windows.forKind kind = some span ∧ kind.name = name ∧
        .text span.text = v := by
  simp only [List.mem_filterMap, Option.map_eq_some_iff, Prod.mk.injEq]

/-- Windows are read back. -/
theorem readsBack : ReadsBack toValue ofValue := by
  refine .of_reordered fun windows w hsame => ?_
  refine asRecord_eq_of_reordered windows.held rfl ?known ?step ?complete hsame
  case known =>
    intro field hmem
    obtain ⟨kind, hknown, -, -, hnamed, -⟩ := mem_written.mp hmem
    exact List.mem_map.mpr ⟨kind, hknown, hnamed⟩
  case step =>
    intro seen name v u hmem hsame
    obtain ⟨kind, -, span, hgiven, rfl, rfl⟩ := mem_written.mp hmem
    rw [readSpan_readsBack.inAnyOrder span u hsame, Kind.ofName?_name]
    exact congrArg Except.ok (set_held hgiven seen)
  case complete =>
    intro seen hall
    refine held_of_all fun kind hknown => ?_
    obtain ⟨span, hgiven⟩ : ∃ span, windows.forKind kind = some span := by
      revert kind
      simp [kinds, forKind]
    exact hall (kind.name, _) (mem_written.mpr ⟨kind, hknown, span, hgiven, rfl, rfl⟩)

end CooldownWindows

/-! ### Request budgets -/

namespace RateLimit

/-- What has been read of the settings once the fields of some names have been seen. -/
def held (r : RateLimit) (seen : List String) : RateLimit where
  enabled := if "enabled" ∈ seen then r.enabled else false
  burst := if "burst" ∈ seen then r.burst else 0

/-- The settings of request budgets are read back. -/
theorem readsBack : ReadsBack toValue ofValue := by
  refine .of_reordered fun r w hsame => ?_
  refine asRecord_eq_of_reordered r.held rfl ?known ?step ?complete hsame
  case known => simp [fieldNames]
  case step =>
    intro seen name v u hmem hsame
    simp only [List.mem_cons, Prod.mk.injEq, List.not_mem_nil, or_false] at hmem
    rcases hmem with ⟨rfl, rfl⟩ | ⟨rfl, rfl⟩
    · rw [hsame.of_bool]
      simp [held, asBool]
    · rw [asCount_readsBack.inAnyOrder r.burst u hsame]
      simp [held]
  case complete =>
    intro seen hall
    simp only [List.forall_mem_cons] at hall
    obtain ⟨henabled, hburst, -⟩ := hall
    simp only [held, if_pos henabled, if_pos hburst]

end RateLimit

/-! ### Configurations -/

namespace RoutingConfig

/-- What has been read of a configuration once the fields of some names have been seen. -/
def held (c : RoutingConfig) (seen : List String) : RoutingConfig where
  entries := if "model_list" ∈ seen then c.entries else []
  windows := if "cooldown" ∈ seen then c.windows else .standard
  rateLimit := if "rate_limit" ∈ seen then c.rateLimit else {}

/-- Configurations are read back. -/
theorem readsBack : ReadsBack toValue ofValue := by
  refine .of_reordered fun c w hsame => ?_
  refine asRecord_eq_of_reordered c.held rfl ?known ?step ?complete hsame
  case known => simp [fieldNames]
  case step =>
    intro seen name v u hmem hsame
    simp only [List.mem_cons, Prod.mk.injEq, List.not_mem_nil, or_false] at hmem
    rcases hmem with ⟨rfl, rfl⟩ | ⟨rfl, rfl⟩ | ⟨rfl, rfl⟩
    · rw [Entry.readsBack.asList.inAnyOrder c.entries u hsame]
      simp [held]
    · rw [CooldownWindows.readsBack.inAnyOrder c.windows u hsame]
      simp [held]
    · rw [RateLimit.readsBack.inAnyOrder c.rateLimit u hsame]
      simp [held]
  case complete =>
    intro seen hall
    simp only [List.forall_mem_cons] at hall
    obtain ⟨hentries, hwindows, hlimit, -⟩ := hall
    simp only [held, if_pos hentries, if_pos hwindows, if_pos hlimit]

end RoutingConfig

/-! ### Selections -/

/-- Texts are read back as a list. -/
theorem Value.ofTexts_readsBack : ReadsBack ofTexts (asList asText) := asText_readsBack.asList

/-- Selections are read back. -/
theorem Selection.readsBack : ReadsBack toValue ofValue := by
  refine .of_reordered fun s w hsame => ?_
  obtain ⟨others, rfl, hmatched⟩ := hsame.of_object
  obtain ⟨primary, hprimary, hname⟩ := hmatched.lookup "primary" List.mem_cons_self (by simp)
  obtain ⟨fallbacks, hfallbacks, hnames⟩ := hmatched.lookup "fallbacks"
    (List.mem_cons_of_mem _ List.mem_cons_self) (by simp)
  have hmore := ofTexts_readsBack.inAnyOrder s.fallbacks fallbacks hnames
  rw [ofValue, hprimary, hname.of_text]
  simp only [asText, hfallbacks]
  exact bind_of_ok hmore _

namespace AgentDefaults

/-- The fields of the settings of an agent that are written. -/
theorem mem_written {a : AgentDefaults} {name : String} {v : Value} :
    (name, v) ∈ (("model", a.model.toValue) ::
      if a.fallbacks.isEmpty then [] else [("model_fallbacks", ofTexts a.fallbacks)]) ↔
      (name = "model" ∧ v = a.model.toValue) ∨
      (name = "model_fallbacks" ∧ v = ofTexts a.fallbacks ∧ a.fallbacks ≠ []) := by
  cases h : a.fallbacks <;> simp

/-- What has been read of the settings of an agent once the fields of some names have been
seen. -/
def held (a : AgentDefaults) (seen : List String) : Option Selection × List String :=
  (if "model" ∈ seen then some a.model else none,
    if "model_fallbacks" ∈ seen then a.fallbacks else [])

/-- The settings of an agent are read back. -/
theorem readsBack : ReadsBack toValue ofValue := by
  refine .of_reordered fun a w hsame => ?_
  refine (bind_of_ok (a := (some a.model, a.fallbacks))
    (asRecord_eq_of_reordered a.held rfl ?known ?step ?complete hsame) _).trans rfl
  case known =>
    intro field hmem
    rcases mem_written.mp hmem with ⟨hnamed, -⟩ | ⟨hnamed, -⟩ <;> simp [hnamed, fieldNames]
  case step =>
    intro seen name v u hmem hsame
    rcases mem_written.mp hmem with ⟨rfl, rfl⟩ | ⟨rfl, rfl, -⟩
    · rw [Selection.readsBack.inAnyOrder a.model u hsame]
      simp [held]
    · rw [ofTexts_readsBack.inAnyOrder a.fallbacks u hsame]
      simp [held]
  case complete =>
    intro seen hall
    have hmodel : "model" ∈ seen := hall ("model", _) (mem_written.mpr (.inl ⟨rfl, rfl⟩))
    by_cases hnone : a.fallbacks = []
    · simp only [held, if_pos hmodel, hnone, ite_self]
    · have hfallbacks : "model_fallbacks" ∈ seen :=
        hall ("model_fallbacks", _) (mem_written.mpr (.inr ⟨rfl, rfl, hnone⟩))
      simp only [held, if_pos hmodel, if_pos hfallbacks]

end AgentDefaults

/-- **Configurations and the model settings of agents that are written as values and read
again are the same.** -/
theorem configurations_read_back :
    ReadsBack RoutingConfig.toValue RoutingConfig.ofValue ∧
      ReadsBack AgentDefaults.toValue AgentDefaults.ofValue :=
  ⟨RoutingConfig.readsBack, AgentDefaults.readsBack⟩

end Failover
