/-!
# Occurrences

## Main definitions

* `occursIn` — whether one text occurs inside another.

## Main results

* `occursIn_iff` — an occurrence is a text before it and a text after it.
-/

namespace Failover.Text

/-- Whether `needle` occurs in a text, at any position. -/
def occursIn (needle : List Char) : List Char → Bool
  | [] => needle.isEmpty
  | c :: rest => needle.isPrefixOf (c :: rest) || occursIn needle rest

/-- A text occurs in another when the other is it between two more texts. -/
theorem occursIn_iff {needle : List Char} :
    ∀ {text : List Char}, occursIn needle text = true ↔ needle <:+: text
  | [] => by simp [occursIn, List.infix_nil]
  | c :: rest => by
      rw [occursIn, Bool.or_eq_true, List.isPrefixOf_iff_prefix,
        @occursIn_iff needle rest, List.infix_cons_iff]

end Failover.Text
