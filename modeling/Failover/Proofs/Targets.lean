import Failover.Proofs.Construction
import Failover.Proofs.Identities

/-!
# Targets of configured endpoints

The model text of an entry is read once when the endpoint is made and once more, from the
endpoint's own target, whenever somebody asks for its protocol or its model.  In between
it has been written out with its protocol.  Nothing is lost on the way: the first slash
of what is written is the one that separates the two, since there is none in a protocol,
so that reading it again finds the same parts.

So the parts of a model text are all that matters of it.  Two entries have the same
target exactly if they name the same parts, and with the same credentials that makes them
one endpoint.

## Main definitions

* `Target.Reads` — what a text names.
* `Entry.KeepsTarget` — what becomes of the model text of an entry.

## Main results

* `Target.reads_ofText` — a text is read by its first slash.
* `Target.ofText_text` — a target is read back from its text.
* `target_kept` — **nothing is lost between an entry and its endpoint.**
-/

namespace Failover

/-! ### Reading and writing targets -/

namespace Target

/-- What a text names: its first slash separates the protocol from the model, and without
one all of it is a model of the default protocol. -/
inductive Reads : String → Target → Prop
  /-- There is no slash. -/
  | plain {model : String} (h : '/' ∉ model.toList) : Reads model ⟨defaultProtocol, model⟩
  /-- There is a slash, and none before it. -/
  | split {protocol model : String} (h : '/' ∉ protocol.toList) :
      Reads (protocol ++ "/" ++ model) ⟨protocol, model⟩

/-- What a text names is what it is read as. -/
theorem Reads.ofText_eq {text : String} {t : Target} (h : Reads text t) : ofText text = t := by
  cases h with
  | plain hslash =>
    have hall : text.toList.dropWhile (· ≠ '/') = [] :=
      List.dropWhile_eq_nil_iff.mpr fun c hc => decide_eq_true fun heq => hslash (heq ▸ hc)
    simp only [ofText, hall]
  | @split protocol model hslash =>
    have hbefore : ∀ c ∈ protocol.toList, decide (c ≠ '/') = true := fun c hc =>
      decide_eq_true fun heq => hslash (heq ▸ hc)
    have hlist : (protocol ++ "/" ++ model).toList = protocol.toList ++ '/' :: model.toList := by
      simp
    rw [ofText, hlist, List.dropWhile_append_of_pos hbefore,
      List.takeWhile_append_of_pos hbefore]
    simp

/-- A text is read by its first slash, if it has one. -/
theorem reads_ofText (text : String) : Reads text (ofText text) := by
  obtain ⟨t, hreads⟩ : ∃ t, Reads text t := by
    by_cases hslash : '/' ∈ text.toList
    · obtain ⟨protocol, model, hsplit, hfirst⟩ := List.eq_append_cons_of_mem hslash
      have htext : text = String.ofList protocol ++ "/" ++ String.ofList model := by
        rw [← String.toList_inj, hsplit]
        simp
      rw [htext]
      exact ⟨_, .split (by rwa [String.toList_ofList])⟩
    · exact ⟨_, .plain hslash⟩
  rwa [hreads.ofText_eq]

/-- There is no slash in the protocol that a text names. -/
theorem Reads.slash_not_mem {text : String} {t : Target} (h : Reads text t) :
    '/' ∉ t.protocol.toList := by
  cases h with
  | plain => exact (by decide : '/' ∉ defaultProtocol.toList)
  | split hslash => exact hslash

/-- A target is read back from its text. -/
theorem ofText_text {t : Target} (h : '/' ∉ t.protocol.toList) : ofText t.text = t :=
  (Reads.split h).ofText_eq

theorem slash_mem_text (t : Target) : '/' ∈ t.text.toList := by
  simp [text]

/-- What a text names has another text, from which it is read back. -/
theorem ofText_text_ofText (text : String) : ofText (ofText text).text = ofText text :=
  ofText_text (reads_ofText text).slash_not_mem

/-- Texts that are written alike name the same. -/
theorem text_ofText_inj {text text' : String} :
    (ofText text).text = (ofText text').text ↔ ofText text = ofText text' := by
  refine ⟨fun h => ?_, congrArg Target.text⟩
  rw [← ofText_text_ofText text, h, ofText_text_ofText]

end Target

/-! ### Entries and their endpoints -/

namespace Entry

/-- The entries that are accepted are the complete ones. -/
theorem endpoint_eq_ok_iff {e : Entry} {p : Endpoint} :
    e.endpoint = .ok p ↔ e.Complete ∧ p = e.described := by
  rcases e.complete_or_lacks with hcomplete | ⟨fault, hlacks⟩
  · rw [hcomplete.accepted.2, Except.ok.injEq, and_iff_right hcomplete, eq_comm]
  · rw [hlacks.refused.2]
    constructor
    · intro h
      cases h
    · exact fun h => absurd h.1 hlacks.not_complete

/-- A model text with a slash is more than blanks. -/
theorem trimmed_ne_of_slash {text : String} (h : '/' ∈ text.toList) :
    Text.trimmed text ≠ "" := by
  rw [Ne, ← Text.isBlankText_iff, Text.isBlankText, List.all_eq_true]
  exact fun hblank => absurd (hblank '/' h) (by decide)

/-- The identity of an endpoint is that of its target and credentials, and shows the
target. -/
theorem id_described_eq_iff {e e' : Entry} (hcredentials : e'.credentials = e.credentials) :
    e'.described.id = e.described.id ↔ e'.target = e.target := by
  have hid : e'.described.id = e.described.id ↔ e'.target.text = e.target.text ∧ _ :=
    EndpointId.deriveWith_eq_iff
  constructor
  · intro h
    exact Target.text_ofText_inj.mp (hid.mp h).1
  · intro h
    exact hid.mpr ⟨congrArg Target.text h, by rw [h, hcredentials]⟩

/-- What becomes of the model text of an entry in the endpoint that it describes. -/
structure KeepsTarget (e : Entry) (p : Endpoint) : Prop where
  /-- The text is read by its first slash. -/
  reads : Target.Reads e.model e.target
  /-- The endpoint has the protocol that the text names. -/
  protocol_eq : p.protocol = e.target.protocol
  /-- It has the model that the text names. -/
  model_eq : p.model = e.target.model
  /-- There is a slash in its target. -/
  slash_mem : '/' ∈ p.target.toList
  /-- An entry with that target for its model text is accepted if it has a name, and has
  the same target again. -/
  again : ∀ e' : Entry, e'.model = p.target → Text.trimmed e'.name ≠ "" →
    ∃ p', e'.endpoint = .ok p' ∧ p'.target = p.target
  /-- Another entry has the same target exactly if it names the same parts. -/
  target_eq_iff : ∀ {e' : Entry} {p' : Endpoint}, e'.endpoint = .ok p' →
    (p'.target = p.target ↔ e'.target = e.target)
  /-- With the same credentials, whatever else there is to the two entries, that makes
  them one endpoint. -/
  id_eq_iff : ∀ {e' : Entry} {p' : Endpoint}, e'.endpoint = .ok p' →
    e'.credentials = e.credentials → (p'.id = p.id ↔ e'.target = e.target)
  /-- A model without a protocol is the same endpoint as that model of the default
  protocol. -/
  default_eq : '/' ∉ e.model.toList → ∀ e' : Entry, e'.model = "openai/" ++ e.model →
    Text.trimmed e'.name ≠ "" → e'.credentials = e.credentials →
      ∃ p', e'.endpoint = .ok p' ∧ p'.target = p.target ∧ p'.id = p.id

end Entry

/-- **Nothing is lost between an entry and its endpoint**: the parts that its model text
names are those of the endpoint, and they alone decide which target it is. -/
theorem target_kept {e : Entry} {p : Endpoint} (h : e.endpoint = .ok p) : e.KeepsTarget p := by
  obtain ⟨-, rfl⟩ := Entry.endpoint_eq_ok_iff.mp h
  have hagain : Target.ofText e.described.target = e.target :=
    Target.ofText_text_ofText e.model
  have hslash : '/' ∈ e.described.target.toList := e.target.slash_mem_text
  exact {
    reads := Target.reads_ofText e.model
    protocol_eq := congrArg Target.protocol hagain
    model_eq := congrArg Target.model hagain
    slash_mem := hslash
    again := by
      intro e' hmodel hname
      have hcomplete : e'.Complete :=
        ⟨hname, Entry.trimmed_ne_of_slash (hmodel ▸ hslash)⟩
      refine ⟨e'.described, hcomplete.accepted.2, ?_⟩
      change (Target.ofText e'.model).text = e.target.text
      rw [hmodel, hagain]
    target_eq_iff := by
      intro e' p' h'
      obtain ⟨-, rfl⟩ := Entry.endpoint_eq_ok_iff.mp h'
      exact Target.text_ofText_inj
    id_eq_iff := by
      intro e' p' h' hcredentials
      obtain ⟨-, rfl⟩ := Entry.endpoint_eq_ok_iff.mp h'
      exact Entry.id_described_eq_iff hcredentials
    default_eq := by
      intro hplain e' hmodel hname hcredentials
      have htarget : e'.target = e.target := by
        have hread : Target.ofText e.model = ⟨Target.defaultProtocol, e.model⟩ :=
          (Target.Reads.plain hplain).ofText_eq
        have hread' : Target.ofText ("openai" ++ "/" ++ e.model) = ⟨"openai", e.model⟩ :=
          (Target.Reads.split (by decide)).ofText_eq
        rw [Entry.target, Entry.target, hread, hmodel]
        exact hread'
      have hslash' : '/' ∈ e'.model.toList := by
        rw [hmodel, String.toList_append]
        exact List.mem_append_left _ (by decide)
      have hcomplete : e'.Complete := ⟨hname, Entry.trimmed_ne_of_slash hslash'⟩
      exact ⟨e'.described, hcomplete.accepted.2, congrArg Target.text htarget,
        (Entry.id_described_eq_iff hcredentials).mpr htarget⟩ }

/-- A model without a protocol and the same model with the default one, under another name
and at a rate, are one endpoint. -/
theorem target_kept_default :
    let bare : Entry := { name := "smart", model := "gpt-4o" }
    let full : Entry := { name := "quick", model := "openai/gpt-4o", rpm := some 3 }
    bare.endpoint = .ok bare.described ∧ bare.described.protocol = "openai" ∧
      bare.described.model = "gpt-4o" ∧
      ∃ p, full.endpoint = .ok p ∧ p.target = "openai/gpt-4o" ∧ p.id = bare.described.id := by
  intro bare full
  have hnames : Text.trimmed bare.name ≠ "" ∧ Text.trimmed bare.model ≠ "" ∧
      Text.trimmed full.name ≠ "" := by decide +kernel
  have haccepted : bare.endpoint = .ok bare.described :=
    (Entry.Complete.accepted ⟨hnames.1, hnames.2.1⟩).2
  have hkept : bare.KeepsTarget bare.described := target_kept haccepted
  have hread : bare.target = ⟨"openai", "gpt-4o"⟩ := by decide +kernel
  obtain ⟨p, hp, htarget, hid⟩ := hkept.default_eq (by decide) full rfl hnames.2.2 rfl
  refine ⟨haccepted, hkept.protocol_eq.trans (congrArg Target.protocol hread),
    hkept.model_eq.trans (congrArg Target.model hread), p, hp, htarget.trans ?_, hid⟩
  exact congrArg Target.text hread

end Failover
