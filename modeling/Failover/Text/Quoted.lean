import Failover.Text.HiddenData

/-!
# Quoted text

Texts in diagnostic output are put between double quotes.  A quote and a
backslash inside are written after a backslash, the common controls by a letter,
and every other character without a glyph by its number.

## Main definitions

* `escaped` — how one character is written.
* `quoted` — how a text is written.
* `quotedOption` — how a text that may be missing is written.
-/

namespace Failover.Text

/-- A character inside quotes. -/
def escaped (c : Char) : List Char :=
  match c with
  | '\x00' => ['\\', '0']
  | '\t' => ['\\', 't']
  | '\r' => ['\\', 'r']
  | '\n' => ['\\', 'n']
  | '\\' => ['\\', '\\']
  | '"' => ['\\', '"']
  | c =>
      if hiddenRanges.contains c.toNat then
        "\\u\x7b".toList ++ Nat.toDigits 16 c.toNat ++ "\x7d".toList
      else [c]

/-- A text in double quotes. -/
def quoted (text : String) : String :=
  String.ofList ('"' :: text.toList.flatMap escaped ++ ['"'])

/-- A text that may be missing. -/
def quotedOption : Option String → String
  | none => "None"
  | some text => "Some(" ++ quoted text ++ ")"

end Failover.Text
