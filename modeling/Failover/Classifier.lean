import Failover.Failure
import Failover.Kind
import Failover.Text.Lowercase
import Failover.Text.Occurrence

/-!
# Classification

A classifier is a table of rules, tried in order: the first whose condition a
failure meets gives its kind, and a failure that meets none is unknown.  The
built-in table puts signals before decisive status codes, those before the
message, and the message before the two generic status codes.

## Main definitions

* `Condition` — what a rule asks of a failure.
* `Rule`, `builtInRules` — the rules.
* `Classifier.classify` — the kind of a failure.
* `Classification`, `Classifier.classification` — its kind together with whether it
  is worth another endpoint.
-/

namespace Failover

open Text

/-- What a rule asks of a failure. -/
inductive Condition where
  /-- The failure carries this signal. -/
  | signal (s : Signal)
  /-- The failure has one of these status codes. -/
  | status (codes : List UInt16)
  /-- One of these texts occurs in the message once it is in lowercase. -/
  | mentions (needles : List String)
  deriving DecidableEq

namespace Condition

/-- The condition that the message mentions one of some texts, in any letter
case: the texts are put into lowercase, as the message will be. -/
def mentionsAnyCase (needles : List String) : Condition :=
  .mentions (needles.map lowercase)

/-- Whether a failure meets a condition.  `lowered` is its message in
lowercase. -/
def holds (failure : Failure) (lowered : String) : Condition → Bool
  | .signal s => failure.signal == some s
  | .status codes => failure.status.any codes.contains
  | .mentions needles => needles.any fun needle => occursIn needle.toList lowered.toList

end Condition

/-- A row of a classifier: failures that meet the condition have the kind. -/
structure Rule where
  /-- What the rule asks. -/
  condition : Condition
  /-- The kind that it gives. -/
  kind : Kind
  deriving DecidableEq

/-- The built-in rules. -/
def builtInRules : List Rule :=
  [⟨.signal .cancelled, .userAbort⟩,
   ⟨.signal .deadlineExceeded, .timeout⟩,
   ⟨.status [429], .rateLimit⟩,
   ⟨.status [402], .billing⟩,
   ⟨.status [401], .auth⟩,
   ⟨.status [413], .unsupportedInput⟩,
   ⟨.status [500, 502, 503, 529], .serverError⟩,
   ⟨.status [408, 504], .timeout⟩,
   ⟨.mentions ["context canceled", "context cancelled", "cancelled by user"], .userAbort⟩,
   ⟨.mentions ["deadline exceeded", "timeout", "timed out", "time-out", "gateway timeout"],
    .timeout⟩,
   ⟨.mentions ["rate_limit", "rate limit", "quota exceeded", "too many requests"],
    .rateLimit⟩,
   ⟨.mentions ["insufficient credits", "insufficient balance", "payment required"],
    .billing⟩,
   ⟨.mentions ["invalid api key", "invalid_api_key", "expired token", "token expired"],
    .auth⟩,
   ⟨.mentions ["context_length_exceeded", "maximum context length", "too large",
      "exceeds the limit"], .unsupportedInput⟩,
   ⟨.mentions ["invalid_request", "schema", "string should match pattern",
      "invalid field", "malformed"], .formatError⟩,
   ⟨.mentions ["overloaded", "internal server error", "service unavailable",
      "bad gateway"], .serverError⟩,
   ⟨.status [400, 422], .formatError⟩]

/-- A table of rules, in the order in which they are tried. -/
structure Classifier where
  /-- The rules. -/
  rules : List Rule
  deriving DecidableEq

namespace Classifier

/-- The classifier of the built-in rules. -/
def builtIn : Classifier := ⟨builtInRules⟩

/-- The classifier that tries some rules before the built-in ones. -/
def withRules (custom : List Rule) : Classifier := ⟨custom ++ builtInRules⟩

/-- The kind of a failure: that of the first rule whose condition it meets. -/
def classify (c : Classifier) (failure : Failure) : Kind :=
  let lowered := lowercase failure.message
  ((c.rules.find? fun rule => rule.condition.holds failure lowered).map (·.kind)).getD
    .unknown

end Classifier

/-- What is made of a failure. -/
structure Classification where
  /-- Its kind. -/
  kind : Kind
  /-- Whether another endpoint could do better. -/
  retriable : Bool
  deriving DecidableEq

/-- The classification that goes with a kind. -/
def Kind.classification (kind : Kind) : Classification :=
  { kind, retriable := kind.isRetriable }

/-- What a classifier makes of a failure. -/
def Classifier.classification (c : Classifier) (failure : Failure) : Classification :=
  (c.classify failure).classification

end Failover
