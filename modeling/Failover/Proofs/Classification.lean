import Mathlib.Data.List.Find
import Mathlib.Data.List.Infix
import Failover.Classifier

/-!
# The order of the rules

A classifier tries its rules one after the other, its own before the built-in
ones.  What the built-in rows come to is said here a second time, without a
table: a signal settles the kind, else a status code that leaves no doubt does,
else the first family of texts that the message mentions, else one of the two
generic status codes, and a failure with none of these is unknown.

The table is cut into the four stretches that belong to these tiers; each is
shown to give what its tier says, and the first row that a failure meets lies in
the first tier that has an answer.

## Main definitions

* `Condition.Met` — what a condition asks, without the lowercase text at hand.
* `Family` — the families of texts, in the order of their weight.
* `Failure.tieredKind` — the kind of a failure, tier by tier.
* `Classifier.Tiered` — what a classifier with rules of its own makes of a failure.

## Main results

* `classify_builtIn` — the built-in rules give what the tiers say.
* `classification_tiered` — **every classifier with rules of its own is tiered.**
-/

namespace Failover

open Text

/-! ### Conditions -/

/-- What a condition asks of a failure. -/
def Condition.Met (failure : Failure) : Condition → Prop
  | .signal s => failure.signal = some s
  | .status codes => ∃ code ∈ codes, failure.status = some code
  | .mentions needles =>
      ∃ needle ∈ needles, needle.toList <:+: (lowercase failure.message).toList

/-- A condition holds of a failure exactly when what it asks is the case. -/
theorem Condition.holds_iff (condition : Condition) (failure : Failure) :
    condition.holds failure (lowercase failure.message) = true ↔ condition.Met failure := by
  cases condition with
  | signal s => simp [holds, Met]
  | status codes => cases h : failure.status <;> simp [holds, Met, h]
  | mentions needles => simp [holds, Met, occursIn_iff]

/-- A failure meets none of some rules. -/
def Failure.Unmatched (failure : Failure) (rules : List Rule) : Prop :=
  ∀ rule ∈ rules, ¬ rule.condition.Met failure

/-! ### Tiers -/

/-- The kind that a signal settles. -/
def Signal.kind : Signal → Kind
  | cancelled => .userAbort
  | deadlineExceeded => .timeout

/-- The kind that a status code settles, whatever the message says. -/
def decisiveStatus? (code : UInt16) : Option Kind :=
  if code = 429 then some .rateLimit
  else if code = 402 then some .billing
  else if code = 401 then some .auth
  else if code = 413 then some .unsupportedInput
  else if code ∈ [500, 502, 503, 529] then some .serverError
  else if code ∈ [408, 504] then some .timeout
  else none

/-- The kind that a status code gives when the message says nothing. -/
def genericStatus? (code : UInt16) : Option Kind :=
  if code ∈ [400, 422] then some .formatError else none

/-- The families of texts that a message may mention. -/
inductive Family where
  | cancel | timeout | rateLimit | billing | auth | oversize | format | server
  deriving DecidableEq

namespace Family

/-- The families, the one that decides first at the head. -/
def all : List Family := [cancel, timeout, rateLimit, billing, auth, oversize, format, server]

/-- The kind that a family stands for. -/
def kind : Family → Kind
  | cancel => .userAbort
  | timeout => .timeout
  | rateLimit => .rateLimit
  | billing => .billing
  | auth => .auth
  | oversize => .unsupportedInput
  | format => .formatError
  | server => .serverError

/-- The texts of a family. -/
def needles : Family → List String
  | cancel => ["context canceled", "context cancelled", "cancelled by user"]
  | timeout => ["deadline exceeded", "timeout", "timed out", "time-out", "gateway timeout"]
  | rateLimit => ["rate_limit", "rate limit", "quota exceeded", "too many requests"]
  | billing => ["insufficient credits", "insufficient balance", "payment required"]
  | auth => ["invalid api key", "invalid_api_key", "expired token", "token expired"]
  | oversize =>
      ["context_length_exceeded", "maximum context length", "too large", "exceeds the limit"]
  | format =>
      ["invalid_request", "schema", "string should match pattern", "invalid field", "malformed"]
  | server => ["overloaded", "internal server error", "service unavailable", "bad gateway"]

/-- A message mentions a family: one of its texts occurs in it once it is in
lowercase. -/
def MentionedIn (message : String) (family : Family) : Prop :=
  ∃ needle ∈ family.needles, needle.toList <:+: (lowercase message).toList

instance (message : String) : DecidablePred (MentionedIn message) := fun family =>
  inferInstanceAs
    (Decidable (∃ needle ∈ family.needles, needle.toList <:+: (lowercase message).toList))

/-- The texts of the families are in Basic Latin. -/
theorem isBasic_needles (family : Family) :
    ∀ needle ∈ family.needles, ∀ c ∈ needle.toList, isBasic c := by
  have hall : family.needles.all (·.toList.all isBasic) = true := by cases family <;> decide
  intro needle hmem
  exact List.all_eq_true.mp (List.all_eq_true.mp hall needle hmem)

/-- A family is mentioned wherever one of its texts stands, in any letter case. -/
theorem mentionedIn_of_written {family : Family} {needle : String}
    (hmem : needle ∈ family.needles) {written : String}
    (hsame : written.toList.map Char.toLower = needle.toList) (before after : String) :
    family.MentionedIn (before ++ written ++ after) :=
  ⟨needle, hmem, infix_lowercase (isBasic_needles family needle hmem) hsame before after⟩

end Family

namespace Failure

/-- The kind that a failure has whatever its message says. -/
def decided? (failure : Failure) : Option Kind :=
  match failure.signal with
  | some signal => some signal.kind
  | none => failure.status.bind decisiveStatus?

/-- The first family of texts that a failure mentions. -/
def firstFamily? (failure : Failure) : Option Family :=
  Family.all.find? fun family => family.MentionedIn failure.message

/-- The kind of a failure, tier by tier. -/
def tieredKind (failure : Failure) : Kind :=
  match failure.decided? with
  | some kind => kind
  | none =>
    match failure.firstFamily? with
    | some family => family.kind
    | none => (failure.status.bind genericStatus?).getD .unknown

/-- What settles a failure without its message is the same under another
message. -/
theorem decided?_withMessage (failure : Failure) (message : String) :
    { failure with message }.decided? = failure.decided? := rfl

/-- The kind of a failure that is settled without its message. -/
theorem tieredKind_of_decided {failure : Failure} {kind : Kind}
    (hdecided : failure.decided? = some kind) : failure.tieredKind = kind := by
  simp [tieredKind, hdecided]

end Failure

/-! ### Stretches of the table -/

/-- The kind that the first met rule of a list gives. -/
def firstKind? (rules : List Rule) (failure : Failure) : Option Kind :=
  (rules.find? fun rule => rule.condition.holds failure (lowercase failure.message)).map (·.kind)

/-- A classifier answers with the first met rule. -/
theorem Classifier.classify_eq (c : Classifier) (failure : Failure) :
    c.classify failure = (firstKind? c.rules failure).getD .unknown := rfl

@[simp] theorem firstKind?_nil (failure : Failure) : firstKind? [] failure = none := rfl

/-- The first rule of a list gives its kind if it is met. -/
theorem firstKind?_cons (rule : Rule) (rules : List Rule) (failure : Failure) :
    firstKind? (rule :: rules) failure =
      if rule.condition.holds failure (lowercase failure.message) then some rule.kind
      else firstKind? rules failure := by
  rw [firstKind?, List.find?_cons]
  split
  · next hholds => rw [if_pos hholds]; rfl
  · next hholds => rw [if_neg (by simp [hholds])]; rfl

/-- The first met rule of two lists is that of the first, if it has one. -/
theorem firstKind?_append (rules others : List Rule) (failure : Failure) :
    firstKind? (rules ++ others) failure
      = (firstKind? rules failure).or (firstKind? others failure) := by
  rw [firstKind?, List.find?_append, Option.map_or]
  rfl

/-- No rule of a list that a failure meets nothing of gives a kind. -/
theorem firstKind?_of_unmatched {rules : List Rule} {failure : Failure}
    (hunmatched : failure.Unmatched rules) : firstKind? rules failure = none := by
  rw [firstKind?, Option.map_eq_none_iff, List.find?_eq_none]
  intro rule hmem
  rw [Condition.holds_iff]
  exact hunmatched rule hmem

/-- A met rule with no met rule before it gives its kind. -/
theorem firstKind?_of_met {before : List Rule} {rule : Rule} {failure : Failure}
    (hunmatched : failure.Unmatched before) (hmet : rule.condition.Met failure)
    (after : List Rule) :
    firstKind? (before ++ rule :: after) failure = some rule.kind := by
  have hholds := (rule.condition.holds_iff failure).mpr hmet
  rw [firstKind?_append, firstKind?_of_unmatched hunmatched, Option.none_or, firstKind?_cons,
    if_pos hholds]

/-- The rows on signals. -/
def signalRules : List Rule :=
  [⟨.signal .cancelled, .userAbort⟩, ⟨.signal .deadlineExceeded, .timeout⟩]

/-- The rows on status codes that settle the kind. -/
def decisiveRules : List Rule :=
  [⟨.status [429], .rateLimit⟩, ⟨.status [402], .billing⟩, ⟨.status [401], .auth⟩,
   ⟨.status [413], .unsupportedInput⟩, ⟨.status [500, 502, 503, 529], .serverError⟩,
   ⟨.status [408, 504], .timeout⟩]

/-- The row of a family of texts. -/
def Family.rule (family : Family) : Rule := ⟨.mentions family.needles, family.kind⟩

/-- The row on generic status codes. -/
def genericRules : List Rule := [⟨.status [400, 422], .formatError⟩]

/-- The built-in table is made of the stretches of the tiers. -/
theorem builtInRules_eq :
    builtInRules = signalRules ++ (decisiveRules ++ (Family.all.map Family.rule ++ genericRules)) :=
  rfl

/-- The rows on signals give what the signal settles. -/
theorem firstKind?_signalRules (failure : Failure) :
    firstKind? signalRules failure = failure.signal.map Signal.kind := by
  obtain ⟨status, message, _ | _ | _⟩ := failure <;> rfl

/-- The rows on decisive status codes give what the code settles. -/
theorem firstKind?_decisiveRules (failure : Failure) :
    firstKind? decisiveRules failure = failure.status.bind decisiveStatus? := by
  obtain ⟨_ | code, message, signal⟩ := failure
  · rfl
  · simp [decisiveRules, firstKind?_cons, Condition.holds, decisiveStatus?]

/-- The rows of the families give the first one that the message mentions. -/
theorem firstKind?_familyRules (failure : Failure) :
    firstKind? (Family.all.map Family.rule) failure = failure.firstFamily?.map Family.kind := by
  rw [firstKind?, List.find?_map, Option.map_map, Failure.firstFamily?]
  refine congrArg (·.map Family.kind) (List.find?_congr fun family _ => ?_)
  rw [Bool.eq_iff_iff, decide_eq_true_iff]
  exact family.rule.condition.holds_iff failure

/-- The row on generic status codes gives what the code is taken for. -/
theorem firstKind?_genericRules (failure : Failure) :
    firstKind? genericRules failure = failure.status.bind genericStatus? := by
  obtain ⟨_ | code, message, signal⟩ := failure
  · rfl
  · simp [genericRules, firstKind?_cons, Condition.holds, genericStatus?]

/-- The rows that do not look at the message give what is decided without it. -/
theorem firstKind?_decided (failure : Failure) :
    firstKind? (signalRules ++ decisiveRules) failure = failure.decided? := by
  rw [firstKind?_append, firstKind?_signalRules, firstKind?_decisiveRules, Failure.decided?]
  cases failure.signal <;> rfl

/-- The built-in rules give what the tiers say. -/
theorem classify_builtIn (failure : Failure) :
    (firstKind? builtInRules failure).getD .unknown = failure.tieredKind := by
  rw [builtInRules_eq, ← List.append_assoc, firstKind?_append, firstKind?_decided,
    firstKind?_append, firstKind?_familyRules, firstKind?_genericRules, Failure.tieredKind]
  cases failure.decided? with
  | some kind => rfl
  | none => cases failure.firstFamily? <;> rfl

/-! ### Rules of one's own -/

namespace Classifier

variable {custom : List Rule} {failure : Failure}

/-- The first own rule that a failure meets decides. -/
theorem classify_of_met {before after : List Rule} {rule : Rule}
    (hunmatched : failure.Unmatched before) (hmet : rule.condition.Met failure) :
    (withRules (before ++ rule :: after)).classify failure = rule.kind := by
  rw [classify_eq, withRules, firstKind?_append, firstKind?_of_met hunmatched hmet]
  rfl

/-- A failure that meets no own rule is left to the tiers. -/
theorem classify_of_unmatched (hunmatched : failure.Unmatched custom) :
    (withRules custom).classify failure = failure.tieredKind := by
  rw [classify_eq, withRules, firstKind?_append, firstKind?_of_unmatched hunmatched,
    Option.none_or, classify_builtIn]

/-- What a classifier with rules of its own makes of a failure. -/
structure Tiered (custom : List Rule) : Prop where
  /-- The first own rule that a failure meets gives its kind. -/
  ownFirst : ∀ {failure : Failure} {before after : List Rule} {rule : Rule},
    custom = before ++ rule :: after → failure.Unmatched before → rule.condition.Met failure →
    ((withRules custom).classification failure).kind = rule.kind
  /-- A failure that meets none of them gets its kind from the first tier that has an
  answer. -/
  builtIn : ∀ {failure : Failure}, failure.Unmatched custom →
    ((withRules custom).classification failure).kind = failure.tieredKind
  /-- The flag is always that of the kind. -/
  flag : ∀ failure : Failure, ((withRules custom).classification failure).retriable
    = ((withRules custom).classification failure).kind.isRetriable
  /-- Another message does not change what is made of a failure that its signal or its
  status code settles, unless an own rule is met by the one or the other. -/
  settled : ∀ {failure : Failure} {kind : Kind} (message : String),
    failure.decided? = some kind → failure.Unmatched custom →
    { failure with message }.Unmatched custom →
    (withRules custom).classification { failure with message }
      = (withRules custom).classification failure
  /-- A text of a family counts at every position of the message and in every letter
  case. -/
  anywhere : ∀ {family : Family} {needle written : String} (before after : String),
    needle ∈ family.needles → written.toList.map Char.toLower = needle.toList →
    family.MentionedIn (before ++ written ++ after)

end Classifier

/-- **A classifier that tries rules of its own first** then goes by the signal, then by
the decisive status codes, then by the message, then by the generic status codes. -/
theorem classification_tiered (custom : List Rule) : Classifier.Tiered custom where
  ownFirst := by
    rintro failure before after rule rfl hunmatched hmet
    exact Classifier.classify_of_met hunmatched hmet
  builtIn hunmatched := Classifier.classify_of_unmatched hunmatched
  flag _ := rfl
  settled {failure kind} message hdecided hunmatched hstill := by
    have hthen : { failure with message }.tieredKind = kind :=
      Failure.tieredKind_of_decided (failure.decided?_withMessage message ▸ hdecided)
    have hnow : failure.tieredKind = kind := Failure.tieredKind_of_decided hdecided
    rw [Classifier.classification, Classifier.classification,
      Classifier.classify_of_unmatched hunmatched, Classifier.classify_of_unmatched hstill,
      hthen, hnow]
  anywhere before after hmem hsame := Family.mentionedIn_of_written hmem hsame before after

end Failover
