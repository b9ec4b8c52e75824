import Failover.Text.Ranges

/-!
# Blank text

## Main definitions

* `isBlank` — the characters of the Unicode property `White_Space`.
* `isBlankText` — the texts that nothing is left of once blanks are trimmed.
-/

namespace Failover.Text

/-- The blank characters: the ASCII blanks, the next-line control, and the
spaces and separators beyond ASCII.  A zero-width space is not among them. -/
def blankRanges : Ranges :=
  [(0x9, 0xd), (0x20, 0x20), (0x85, 0x85), (0xa0, 0xa0), (0x1680, 0x1680),
   (0x2000, 0x200a), (0x2028, 0x2029), (0x202f, 0x202f), (0x205f, 0x205f),
   (0x3000, 0x3000)]

/-- Whether a character is blank. -/
def isBlank (c : Char) : Bool := blankRanges.contains c.toNat

/-- Whether a text has no character but blanks. -/
def isBlankText (text : String) : Bool := text.toList.all isBlank

end Failover.Text
