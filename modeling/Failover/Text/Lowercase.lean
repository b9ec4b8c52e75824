import Failover.Text.CaseData

/-!
# Lowercase text

Messages are compared without regard to letter case by putting them into
lowercase first.  The mapping is that of the whole Unicode repertoire: one
character may become two, and the capital sigma has two lowercase forms, of
which the one for the end of a word is taken where a cased letter comes before
it and none after, characters that are ignorable for case being looked through.

## Main definitions

* `lowerChar` — the lowercase form of a character on its own.
* `endsWord` — whether a sigma between two texts is at the end of a word.
* `lowercase` — the lowercase form of a text.

## Main results

* `lowerFrom_append` — a text is put into lowercase part by part.
* `lowerFrom_of_basic` — letters of Basic Latin go to their small forms wherever
  they stand.
* `infix_lowercase` — what occurs in a text in such letters of any case occurs in
  its lowercase form in small ones.
-/

namespace Failover.Text

/-! ### Characters -/

/-- The lowercase form of a code point under a list of ascending runs. -/
def lowerIn : List LowerRun → Nat → Nat
  | [], n => n
  | run :: rest, n =>
      if n < run.first then n
      else if n ≤ run.last then
        if (n - run.first) % run.step = 0 then run.lower + (n - run.first) else n
      else lowerIn rest n

/-- The capital sigma, whose lowercase form depends on its neighbours. -/
def capitalSigma : Char := '\u03a3'

/-- The sigma inside a word. -/
def sigma : Char := '\u03c3'

/-- The sigma at the end of a word. -/
def finalSigma : Char := '\u03c2'

/-- The lowercase form of a character on its own.  The dotted capital I keeps
its dot as a mark of its own. -/
def lowerChar (c : Char) : List Char :=
  if c.toNat < 0x80 then [c.toLower]
  else if c.toNat = 0x130 then ['i', '\u0307']
  else [Char.ofNat (lowerIn lowerRuns c.toNat)]

/-! ### Texts -/

/-- Whether the first character that is not ignorable for case is a cased
letter. -/
def meetsCased (text : List Char) : Bool :=
  (text.dropWhile fun c => caseIgnorableRanges.contains c.toNat).head?.any
    fun c => casedRanges.contains c.toNat

/-- Whether a letter stands at the end of a word.  The text before it is given
from its last character backwards. -/
def endsWord (before after : List Char) : Bool :=
  meetsCased before && !meetsCased after

/-- The lowercase form of a text that follows `before`, which is given from its
last character backwards. -/
def lowerFrom (before : List Char) : List Char → List Char
  | [] => []
  | c :: after =>
      (if c = capitalSigma then [if endsWord before after then finalSigma else sigma]
        else lowerChar c) ++ lowerFrom (c :: before) after

/-- The lowercase form of a text. -/
def lowercase (text : String) : String := String.ofList (lowerFrom [] text.toList)

/-! ### The letters of Basic Latin -/

/-- Whether a character is of Basic Latin, the first 128. -/
def isBasic (c : Char) : Bool := c.toNat < 0x80

/-- A character of Basic Latin goes to its small form, whatever stands around it. -/
theorem lowerFrom_cons_of_basic {c : Char} (hbasic : isBasic c) (before after : List Char) :
    lowerFrom before (c :: after) = c.toLower :: lowerFrom (c :: before) after := by
  have hsmall : c.toNat < 0x80 := by simpa [isBasic] using hbasic
  have hsigma : c ≠ capitalSigma := by
    rintro rfl
    exact absurd hsmall (by decide)
  simp [lowerFrom, hsigma, lowerChar, hsmall]

/-- Such characters go to their small forms, whatever stands around them. -/
theorem lowerFrom_of_basic {part : List Char} (hbasic : ∀ c ∈ part, isBasic c)
    (before after : List Char) :
    lowerFrom before (part ++ after)
      = part.map Char.toLower ++ lowerFrom (part.reverse ++ before) after := by
  induction part generalizing before with
  | nil => rfl
  | cons c part ih =>
      rw [List.forall_mem_cons] at hbasic
      rw [List.cons_append, lowerFrom_cons_of_basic hbasic.1, ih hbasic.2]
      simp

/-- The lowercase form of a text ends with that of any end of it, which sees the
part before it. -/
theorem lowerFrom_append (part before after : List Char) :
    ∃ lowered, lowerFrom before (part ++ after)
      = lowered ++ lowerFrom (part.reverse ++ before) after := by
  induction part generalizing before with
  | nil => exact ⟨[], rfl⟩
  | cons c part ih =>
      obtain ⟨lowered, h⟩ := ih (c :: before)
      rw [List.cons_append, lowerFrom, h, ← List.append_assoc, List.reverse_cons,
        List.append_assoc part.reverse]
      exact ⟨_, rfl⟩

/-- A character whose small form is of Basic Latin, as far as that block has one, is of it
too. -/
theorem isBasic_of_toLower {c : Char} (hbasic : isBasic c.toLower) : isBasic c := by
  unfold Char.toLower at hbasic
  split at hbasic
  · next hcapital =>
      have hbound : c.val.toNat ≤ 90 := by
        simpa [UInt32.le_iff_toNat_le] using hcapital.2
      simp only [isBasic, Char.toNat, decide_eq_true_eq]
      omega
  · exact hbasic

/-- What occurs in a text in such letters of any case occurs in its lowercase form
in small ones. -/
theorem infix_lowercase {small : String} (hbasic : ∀ c ∈ small.toList, isBasic c)
    {written : String} (hsame : written.toList.map Char.toLower = small.toList)
    (before after : String) :
    small.toList <:+: (lowercase (before ++ written ++ after)).toList := by
  have hwritten : ∀ c ∈ written.toList, isBasic c := fun c hmem =>
    isBasic_of_toLower (hbasic _ (hsame ▸ List.mem_map_of_mem hmem))
  obtain ⟨lowered, h⟩ :=
    lowerFrom_append before.toList [] (written.toList ++ after.toList)
  refine ⟨lowered, lowerFrom (written.toList.reverse ++ before.toList.reverse) after.toList, ?_⟩
  rw [lowercase, String.toList_ofList, String.toList_append, String.toList_append,
    List.append_assoc before.toList, h, lowerFrom_of_basic hwritten, hsame]
  simp

end Failover.Text
