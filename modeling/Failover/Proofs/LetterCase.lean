import Mathlib.Data.List.Find
import Mathlib.Data.List.Forall2
import Failover.Classifier

/-!
# Letter case does not matter

A classifier looks at a message only after it was put into lowercase, so messages with
the same lowercase form are classified alike.  Two ways to change a message leave that
form as it is.

The first is to put it into lowercase beforehand: every character that lowercase text is
made of is its own lowercase form.  The lowercase mappings are given as runs, and what a
run leads to must not be in any run, which is checked for all pairs of runs at once
(`lowerRuns_apart`).

The second is to change the case of letters of Basic Latin, any of them.  What becomes of
a character depends on its neighbours only if it is a sigma, and then only on whether
they are cased and whether they are ignorable for case.  Both forms of such a letter play
the same part here (`SamePart`).

## Main definitions

* `flipCase`, `flipCaseAt` — the other case of a letter, and of some letters of a text.
* `SamePart` — characters that can stand for each other.

## Main results

* `lowercase_lowercase` — the lowercase form of a text is its own lowercase form.
* `lowercase_flipCaseAt` — a text keeps its lowercase form when letters change case.
* `classification_ignores_case` — **classification ignores the case of letters.**
-/

namespace Failover.Text

/-! ### Lowercase characters -/

/-- Whether a code point is mapped by a run. -/
def LowerRun.Maps (run : LowerRun) (n : Nat) : Prop :=
  run.first ≤ n ∧ n ≤ run.last ∧ (n - run.first) % run.step = 0

/-- A code point is left as it is, or goes where one of the runs leads. -/
theorem lowerIn_cases (n : Nat) : ∀ runs : List LowerRun,
    lowerIn runs n = n ∨
      ∃ run ∈ runs, run.Maps n ∧ lowerIn runs n = run.lower + (n - run.first)
  | [] => Or.inl rfl
  | run :: rest => by
    unfold lowerIn
    split
    · exact Or.inl rfl
    · split
      · split
        · refine Or.inr ⟨run, List.mem_cons_self, ⟨?_, ?_, ?_⟩, rfl⟩ <;> omega
        · exact Or.inl rfl
      · refine (lowerIn_cases n rest).imp_right ?_
        rintro ⟨other, hmem, hmaps⟩
        exact ⟨other, List.mem_cons_of_mem run hmem, hmaps⟩

/-- A code point that no run maps is left as it is. -/
theorem lowerIn_eq_self {runs : List LowerRun} {n : Nat} (hunmapped : ∀ run ∈ runs, ¬ run.Maps n) :
    lowerIn runs n = n := by
  refine (lowerIn_cases n runs).resolve_right ?_
  rintro ⟨run, hmem, hmaps, -⟩
  exact hunmapped run hmem hmaps

/-- Whether what one run leads to is not mapped by another, as far as that shows from
their ends or, for runs of every second character, from their parities. -/
def LowerRun.apart (run other : LowerRun) : Bool :=
  (run.lower + (run.last - run.first)).blt other.first || other.last.blt run.lower ||
    (other.step == 2 && (run.step == 2 || run.first == run.last) &&
      (run.lower + other.first) % 2 == 1)

theorem LowerRun.not_maps_of_apart {run other : LowerRun} (h : run.apart other = true)
    {n : Nat} (hmaps : run.Maps n) : ¬ other.Maps (run.lower + (n - run.first)) := by
  obtain ⟨hfirst, hlast, hstride⟩ := hmaps
  rintro ⟨hfirst', hlast', hstride'⟩
  simp only [apart, Bool.or_eq_true, Bool.and_eq_true, Nat.blt_eq, beq_iff_eq] at h
  rcases h with (hbefore | hbehind) | ⟨⟨htwo', htwo | hsingle⟩, hodd⟩
  · omega
  · omega
  · rw [htwo] at hstride
    rw [htwo'] at hstride'
    omega
  · rw [htwo'] at hstride'
    omega

/-- The runs are apart: where one leads, none goes on. -/
theorem lowerRuns_apart : (lowerRuns.all fun run => lowerRuns.all run.apart) = true := by
  decide +kernel

/-- Whether a run leads to characters only, none of which is a capital of Basic Latin or
the dotted capital I. -/
def LowerRun.isPlain (run : LowerRun) : Bool :=
  let top := run.lower + (run.last - run.first)
  decide (0x5a < run.lower) && (decide (top < 0x130) || decide (0x130 < run.lower)) &&
    (decide (top < 0xd800) || decide (0xdfff < run.lower)) && decide (top < 0x110000)

theorem lowerRuns_isPlain : lowerRuns.all LowerRun.isPlain = true := by decide +kernel

/-- What holds of the characters of Basic Latin one by one holds of all of them. -/
theorem forall_basic {P : Char → Prop} (heach : ∀ n < 0x80, P (Char.ofNat n)) {c : Char}
    (hbasic : isBasic c) : P c := by
  rw [← Char.ofNat_toNat c]
  exact heach c.toNat (of_decide_eq_true hbasic)

/-- A character that is its own lowercase form, wherever it stands. -/
structure IsLower (c : Char) : Prop where
  /-- It is not the sigma that depends on its neighbours. -/
  ne_capitalSigma : c ≠ capitalSigma
  /-- It is its own lowercase form. -/
  lowerChar_eq : lowerChar c = [c]

/-- What comes after the capitals of Basic Latin has no other small form there. -/
theorem toLower_eq_self {c : Char} (habove : 0x5a < c.toNat) : c.toLower = c := by
  unfold Char.toLower
  split
  · next hcapital =>
    have hbound : c.toNat ≤ 0x5a := by simpa [UInt32.le_iff_toNat_le] using hcapital.2
    omega
  · rfl

/-- The small form of a character of Basic Latin has no other small form. -/
theorem isLower_toLower {c : Char} (hbasic : isBasic c) : IsLower c.toLower := by
  have hboth := forall_basic
    (P := fun c => c.toLower ≠ capitalSigma ∧ lowerChar c.toLower = [c.toLower])
    (by decide +kernel) hbasic
  exact ⟨hboth.1, hboth.2⟩

/-- What a run leads to is a character of its own, and no run leads on from it. -/
theorem isLower_of_maps {run : LowerRun} (hmem : run ∈ lowerRuns) {n : Nat} (hmaps : run.Maps n) :
    IsLower (Char.ofNat (run.lower + (n - run.first))) := by
  have hunmapped : ∀ other ∈ lowerRuns, ¬ other.Maps (run.lower + (n - run.first)) :=
    fun other hother =>
      LowerRun.not_maps_of_apart
        (List.all_eq_true.mp (List.all_eq_true.mp lowerRuns_apart run hmem) other hother) hmaps
  have hplain := List.all_eq_true.mp lowerRuns_isPlain run hmem
  simp only [LowerRun.isPlain, Bool.and_eq_true, Bool.or_eq_true, decide_eq_true_eq] at hplain
  obtain ⟨hfirst, hlast, -⟩ := hmaps
  have hself := lowerIn_eq_self hunmapped
  generalize hm : run.lower + (n - run.first) = m at hself ⊢
  have htoNat : (Char.ofNat m).toNat = m := by
    have hvalid : m.isValidChar := by
      simp only [Nat.isValidChar]
      omega
    rw [Char.ofNat, dif_pos hvalid]
    rfl
  constructor
  case ne_capitalSigma =>
    -- the runs map the code point of the sigma
    intro heq
    rw [← htoNat, heq] at hself
    exact absurd hself (by decide +kernel)
  case lowerChar_eq =>
    unfold lowerChar
    rw [htoNat, hself]
    split
    · rw [toLower_eq_self (by omega)]
    · rw [if_neg (by omega)]

/-- What the lowercase form of a character is made of is lowercase. -/
theorem isLower_of_mem_lowerChar {c : Char} (hne : c ≠ capitalSigma) {d : Char}
    (hmem : d ∈ lowerChar c) : IsLower d := by
  unfold lowerChar at hmem
  split at hmem
  · next hsmall =>
    rw [List.mem_singleton.mp hmem]
    exact isLower_toLower (decide_eq_true hsmall)
  · next hlarge =>
    split at hmem
    · -- the letter and the mark that the dotted capital I comes to
      rcases List.mem_pair.mp hmem with rfl | rfl
      · exact ⟨by decide, by decide +kernel⟩
      · exact ⟨by decide, by decide +kernel⟩
    · next hundotted =>
      rw [List.mem_singleton.mp hmem]
      rcases lowerIn_cases c.toNat lowerRuns with hself | ⟨run, hrun, hmaps, heq⟩
      · rw [hself, Char.ofNat_toNat]
        refine ⟨hne, ?_⟩
        rw [lowerChar, if_neg hlarge, if_neg hundotted, hself, Char.ofNat_toNat]
      · rw [heq]
        exact isLower_of_maps hrun hmaps

/-! ### Lowercase text -/

/-- What the lowercase form of a text is made of is lowercase. -/
theorem isLower_of_mem_lowerFrom {d : Char} : ∀ {before text : List Char},
    d ∈ lowerFrom before text → IsLower d
  | _, [], hmem => by cases hmem
  | before, c :: after, hmem => by
    rw [lowerFrom, List.mem_append] at hmem
    rcases hmem with hhead | hlater
    · split at hhead
      · rw [List.mem_singleton.mp hhead]
        split
        · exact ⟨by decide, by decide +kernel⟩
        · exact ⟨by decide, by decide +kernel⟩
      · next hne => exact isLower_of_mem_lowerChar hne hhead
    · exact isLower_of_mem_lowerFrom hlater

/-- A text of lowercase characters is its own lowercase form. -/
theorem lowerFrom_eq_self : ∀ {before text : List Char}, (∀ c ∈ text, IsLower c) →
    lowerFrom before text = text
  | _, [], _ => rfl
  | before, c :: after, hlower => by
    obtain ⟨hhead, hlater⟩ := List.forall_mem_cons.mp hlower
    rw [lowerFrom, if_neg hhead.ne_capitalSigma, hhead.lowerChar_eq, lowerFrom_eq_self hlater]
    rfl

/-- **The lowercase form of a text is its own lowercase form.** -/
theorem lowercase_lowercase (text : String) : lowercase (lowercase text) = lowercase text := by
  have hlower : ∀ c ∈ (lowercase text).toList, IsLower c := fun c hmem => by
    rw [lowercase, String.toList_ofList] at hmem
    exact isLower_of_mem_lowerFrom hmem
  rw [lowercase.eq_def (lowercase text), lowerFrom_eq_self hlower, String.ofList_toList]

/-! ### The other case -/

/-- A letter of Basic Latin in the other case; any other character as it is. -/
def flipCase (c : Char) : Char :=
  if c.isUpper then c.toLower else if c.isLower then c.toUpper else c

/-- A text in which the letters of Basic Latin at some positions have changed case. -/
def flipCaseAt (positions : Nat → Bool) (text : String) : String :=
  String.ofList (text.toList.mapIdx fun i c => if positions i then flipCase c else c)

/-- Two characters that play the same part in the lowercase form of a text: each on its
own has the same lowercase form, and a sigma takes them alike. -/
structure SamePart (c d : Char) : Prop where
  /-- They have the same lowercase form. -/
  lowerChar_eq : lowerChar c = lowerChar d
  /-- Both are the capital sigma, or none is. -/
  capitalSigma_iff : c = capitalSigma ↔ d = capitalSigma
  /-- Both are ignorable for case, or none is. -/
  ignorable_eq : caseIgnorableRanges.contains c.toNat = caseIgnorableRanges.contains d.toNat
  /-- Both are cased, or none is. -/
  cased_eq : casedRanges.contains c.toNat = casedRanges.contains d.toNat

theorem samePart_refl (c : Char) : SamePart c c := ⟨rfl, Iff.rfl, rfl, rfl⟩

/-- Only characters of Basic Latin have another case. -/
theorem flipCase_of_not_basic {c : Char} (hbasic : ¬ isBasic c) : flipCase c = c := by
  have hlarge : ¬ c.val.toNat < 0x80 := fun hsmall => hbasic (decide_eq_true hsmall)
  have hupper : ¬ c.isUpper := by
    unfold Char.isUpper
    rw [decide_eq_true_eq, UInt32.le_iff_toNat_le]
    rintro ⟨-, hle⟩
    exact hlarge (Nat.lt_of_le_of_lt hle (by decide))
  have hlower : ¬ c.isLower := by
    unfold Char.isLower
    rw [Bool.and_eq_true, decide_eq_true_eq, decide_eq_true_eq]
    rintro ⟨-, hle⟩
    exact hlarge (Nat.lt_of_le_of_lt (UInt32.le_iff_toNat_le.mp hle) (by decide))
  rw [flipCase, if_neg hupper, if_neg hlower]

/-- A letter in the other case plays the same part. -/
theorem samePart_flipCase (c : Char) : SamePart c (flipCase c) := by
  by_cases hbasic : isBasic c
  · obtain ⟨hlower, hcapital, hignorable, hcased⟩ := forall_basic
      (P := fun c => lowerChar c = lowerChar (flipCase c) ∧
        (c = capitalSigma ↔ flipCase c = capitalSigma) ∧
        caseIgnorableRanges.contains c.toNat = caseIgnorableRanges.contains (flipCase c).toNat ∧
        casedRanges.contains c.toNat = casedRanges.contains (flipCase c).toNat)
      (by decide +kernel) hbasic
    exact ⟨hlower, hcapital, hignorable, hcased⟩
  · rw [flipCase_of_not_basic hbasic]
    exact samePart_refl c

/-- A sigma takes a text like any other of the same parts. -/
theorem meetsCased_congr {text text' : List Char} (h : List.Forall₂ SamePart text text') :
    meetsCased text = meetsCased text' := by
  induction h with
  | nil => rfl
  | @cons c d rest rest' hsame _ ih =>
    unfold meetsCased at ih ⊢
    rw [List.dropWhile_cons, List.dropWhile_cons, hsame.ignorable_eq]
    split
    · exact ih
    · exact hsame.cased_eq

/-- Texts of the same parts have the same lowercase form. -/
theorem lowerFrom_congr {text text' : List Char} (h : List.Forall₂ SamePart text text') :
    ∀ {before before' : List Char}, List.Forall₂ SamePart before before' →
      lowerFrom before text = lowerFrom before' text' := by
  induction h with
  | nil => intro before before' _; rfl
  | @cons c d after after' hsame hafter ih =>
    intro before before' hbefore
    rw [lowerFrom, lowerFrom, ih (List.Forall₂.cons hsame hbefore)]
    congr 1
    by_cases hcapital : c = capitalSigma
    · rw [if_pos hcapital, if_pos (hsame.capitalSigma_iff.mp hcapital), endsWord, endsWord,
        meetsCased_congr hbefore, meetsCased_congr hafter]
    · rw [if_neg hcapital, if_neg fun h => hcapital (hsame.capitalSigma_iff.mpr h),
        hsame.lowerChar_eq]

/-- Letters that change case keep the part that they play. -/
theorem forall₂_mapIdx_flipCase (positions : Nat → Bool) : ∀ text : List Char,
    List.Forall₂ SamePart text
      (text.mapIdx fun i c => if positions i then flipCase c else c)
  | [] => List.Forall₂.nil
  | c :: rest => by
    rw [List.mapIdx_cons]
    refine List.Forall₂.cons ?_ (forall₂_mapIdx_flipCase (fun i => positions (i + 1)) rest)
    split
    · exact samePart_flipCase c
    · exact samePart_refl c

/-- **A text keeps its lowercase form when letters of Basic Latin change case.** -/
theorem lowercase_flipCaseAt (positions : Nat → Bool) (text : String) :
    lowercase (flipCaseAt positions text) = lowercase text := by
  have hsame := forall₂_mapIdx_flipCase positions text.toList
  rw [lowercase, lowercase, flipCaseAt, String.toList_ofList,
    ← lowerFrom_congr hsame List.Forall₂.nil]

end Failover.Text

namespace Failover

open Text

/-- A failure is classified by the lowercase form of its message. -/
theorem Classifier.classification_congr (c : Classifier) (failure : Failure) {message : String}
    (hsame : lowercase message = lowercase failure.message) :
    c.classification { failure with message } = c.classification failure := by
  have hfound : (c.rules.find? fun rule =>
        rule.condition.holds { failure with message } (lowercase message)) =
      c.rules.find? fun rule => rule.condition.holds failure (lowercase failure.message) := by
    rw [hsame]
    refine List.find?_congr fun rule _ => ?_
    -- the message itself is not looked at
    cases rule.condition <;> rfl
  have hclassify : c.classify { failure with message } = c.classify failure := by
    simp only [Classifier.classify, hfound]
  exact congrArg Kind.classification hclassify

/-- **Classification ignores the case of letters.**  Under any rules, a failure is
classified as it would be if its message were in lowercase, and as it would be if any of
the letters of Basic Latin in its message were in the other case. -/
theorem classification_ignores_case (c : Classifier) (failure : Failure) :
    c.classification { failure with message := lowercase failure.message } =
        c.classification failure ∧
      ∀ positions : Nat → Bool,
        c.classification { failure with message := flipCaseAt positions failure.message } =
          c.classification failure :=
  ⟨c.classification_congr failure (lowercase_lowercase failure.message),
    fun positions =>
      c.classification_congr failure (lowercase_flipCaseAt positions failure.message)⟩

end Failover
