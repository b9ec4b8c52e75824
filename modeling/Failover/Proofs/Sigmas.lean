import Failover.Proofs.Classification

/-!
# Texts with a capital sigma

A rule on the message compares its texts, put into lowercase, with the message, put into
lowercase.  Each is put into lowercase by itself.  All characters but one go to the same
lowercase form wherever they stand, so that a text that occurs in a message still occurs
in it afterwards.  The exception is the capital sigma: the neighbours that decide its
form may lie beyond the ends of the text, in the message alone.

So a rule fires on every message in which one of its texts occurs if, and only if, the
text itself settles the forms of its capital sigmas.  A text that ends in such a letter
after others, as the stem of a word does, is not found inside a longer word: this is
`text_rule_misses_stem`.

That an unsettled text really is missed somewhere is shown by counting.  Behind a letter
a sigma can only become a final one, and before a letter only cease to be one; so there
are fewer sigmas of one form in the message than in the text.

## Main definitions

* `casedNext?`, `Settles` — what the neighbours of a sigma say, and whether they settle
  its form.
* `EachSigma` — what holds at each capital sigma of a text.
* `SettlesSigmas` — texts that settle the forms of their own sigmas.
* `Condition.FiresOn` — a rule on texts fires.

## Main results

* `infix_lowerFrom` — a text whose sigmas keep their forms is found in lowercase.
* `text_rule_fires_iff` — **a rule finds a text in every message that contains it exactly
  if the text settles the forms of its sigmas.**
-/

namespace Failover.Text

/-! ### The neighbours of a sigma -/

/-- Whether the first character of a text that is not ignorable for case is cased, if
there is such a character. -/
def casedNext? (text : List Char) : Option Bool :=
  (text.dropWhile fun c => caseIgnorableRanges.contains c.toNat).head?.map
    fun c => casedRanges.contains c.toNat

theorem meetsCased_eq (text : List Char) : meetsCased text = (casedNext? text).getD false := by
  unfold meetsCased casedNext?
  cases (text.dropWhile fun c => caseIgnorableRanges.contains c.toNat).head? <;> rfl

/-- A text is looked beyond only if all of it is ignorable for case. -/
theorem casedNext?_append (text more : List Char) :
    casedNext? (text ++ more) = (casedNext? text).or (casedNext? more) := by
  unfold casedNext?
  induction text with
  | nil => rfl
  | cons c text ih =>
    rw [List.cons_append, List.dropWhile_cons, List.dropWhile_cons]
    split
    · exact ih
    · rfl

/-- The neighbours of a sigma settle its form, whatever stands beyond them: there is no
cased letter before it, or there is one after it, or there is one before it and none
after. -/
def Settles (before after : List Char) : Prop :=
  casedNext? before = some false ∨ casedNext? after = some true ∨
    (casedNext? before = some true ∧ casedNext? after = some false)

instance (before after : List Char) : Decidable (Settles before after) :=
  inferInstanceAs (Decidable (_ ∨ _ ∨ _))

theorem Settles.endsWord_eq {before after : List Char} (h : Settles before after)
    (farBefore farAfter : List Char) :
    endsWord (before ++ farBefore) (after ++ farAfter) = endsWord before after := by
  simp only [endsWord, meetsCased_eq, casedNext?_append]
  rcases h with huncased | hnext | ⟨hcased, huncased⟩
  · simp [huncased]
  · simp [hnext]
  · simp [hcased, huncased]

/-- A letter, which is cased. -/
theorem casedNext?_letter : casedNext? ['a'] = some true := by decide +kernel

/-- A letter before can only make a sigma a final one. -/
theorem endsWord_behind (before after : List Char) (hends : endsWord before after = true) :
    endsWord (before ++ ['a']) after = true := by
  simp only [endsWord, meetsCased_eq, casedNext?_append, Bool.and_eq_true] at hends ⊢
  refine ⟨?_, hends.2⟩
  cases h : casedNext? before with
  | none => simp [h] at hends
  | some cased => simpa [h] using hends.1

/-- A letter after can only keep a sigma from being a final one. -/
theorem endsWord_ahead (before after : List Char)
    (hends : endsWord before (after ++ ['a']) = true) : endsWord before after = true := by
  simp only [endsWord, meetsCased_eq, casedNext?_append, Bool.and_eq_true] at hends ⊢
  refine ⟨hends.1, ?_⟩
  cases h : casedNext? after with
  | none => rfl
  | some cased => simpa [h] using hends.2

/-- Neighbours that settle the form against a letter before them and against one after
them settle it against everything. -/
theorem settles_of_letters {before after : List Char}
    (hbehind : endsWord (before ++ ['a']) after = true → endsWord before after = true)
    (hahead : endsWord before after = true → endsWord before (after ++ ['a']) = true) :
    Settles before after := by
  simp only [endsWord, meetsCased_eq, casedNext?_append, casedNext?_letter] at hbehind hahead
  unfold Settles
  cases hb : casedNext? before with
  | none =>
    cases ha : casedNext? after with
    | none => simp [hb, ha] at hbehind
    | some cased =>
      cases cased with
      | false => simp [hb, ha] at hbehind
      | true => simp
  | some cased =>
    cases cased with
    | false => simp
    | true =>
      cases ha : casedNext? after with
      | none => simp [hb, ha] at hahead
      | some cased => cases cased <;> simp

/-! ### The sigmas of a text -/

/-- Something holds of the texts before and after each capital sigma of a text that
follows `before`.  The text before is given from its last character backwards. -/
def EachSigma (p : List Char → List Char → Prop) : List Char → List Char → Prop
  | _, [] => True
  | before, c :: after => (c = capitalSigma → p before after) ∧ EachSigma p (c :: before) after

instance EachSigma.decidable {p : List Char → List Char → Prop}
    [∀ before after, Decidable (p before after)] :
    ∀ before text : List Char, Decidable (EachSigma p before text)
  | _, [] => isTrue trivial
  | before, c :: after =>
    have := EachSigma.decidable (p := p) (c :: before) after
    inferInstanceAs (Decidable (_ ∧ _))

theorem EachSigma.imp {p q : List Char → List Char → Prop}
    (h : ∀ before after, p before after → q before after) :
    ∀ {text before : List Char}, EachSigma p before text → EachSigma q before text
  | [], _, _ => trivial
  | _ :: after, before, ⟨hhead, hlater⟩ =>
    ⟨fun hcapital => h before after (hhead hcapital), EachSigma.imp h hlater⟩

theorem EachSigma.and {p q : List Char → List Char → Prop} :
    ∀ {text before : List Char}, EachSigma p before text → EachSigma q before text →
      EachSigma (fun before after => p before after ∧ q before after) before text
  | [], _, _, _ => trivial
  | _ :: _, _, ⟨hhead, hlater⟩, ⟨hhead', hlater'⟩ =>
    ⟨fun hcapital => ⟨hhead hcapital, hhead' hcapital⟩, EachSigma.and hlater hlater'⟩

theorem eachSigma_of_forall {p : List Char → List Char → Prop}
    (h : ∀ before after, p before after) :
    ∀ text before : List Char, EachSigma p before text
  | [], _ => trivial
  | c :: after, before => ⟨fun _ => h before after, eachSigma_of_forall h after (c :: before)⟩

theorem eachSigma_of_not_mem {p : List Char → List Char → Prop} :
    ∀ {text before : List Char}, capitalSigma ∉ text → EachSigma p before text
  | [], _, _ => trivial
  | _ :: _, _, hnot =>
    ⟨fun hcapital => absurd (hcapital ▸ List.mem_cons_self) hnot,
      eachSigma_of_not_mem fun hmem => hnot (List.mem_cons_of_mem _ hmem)⟩

/-- A text settles the forms of its capital sigmas, whatever it is put between. -/
def SettlesSigmas (text : List Char) : Prop := EachSigma Settles [] text

instance : DecidablePred SettlesSigmas := EachSigma.decidable []

/-- A sigma inside a word is settled, and one at its end if a blank follows, but not one
with which the text breaks off. -/
example : SettlesSigmas "ΒΑΣΗ".toList ∧ SettlesSigmas "ΛΑΘΟΣ ".toList ∧
    ¬ SettlesSigmas "ΥΠΕΡΒΑΣ".toList := by decide +kernel

/-- The capital sigmas of a text have the same forms between two texts as when it stands
alone.  The text before is given from its last character backwards. -/
def KeepsForms (farBefore farAfter text : List Char) : Prop :=
  EachSigma (fun before after =>
    endsWord (before ++ farBefore) (after ++ farAfter) = endsWord before after) [] text

theorem SettlesSigmas.keepsForms {text : List Char} (h : SettlesSigmas text)
    (farBefore farAfter : List Char) : KeepsForms farBefore farAfter text :=
  EachSigma.imp (fun _ _ hsettles => hsettles.endsWord_eq farBefore farAfter) h

/-! ### A part of a text in lowercase -/

/-- The form of a capital sigma. -/
def sigmaForm (before after : List Char) : Char :=
  if endsWord before after then finalSigma else sigma

/-- The lowercase form that a part of a text has between `farBefore`, given backwards,
and `farAfter`. -/
def lowerWithin (farBefore farAfter : List Char) : List Char → List Char → List Char
  | _, [] => []
  | before, c :: after =>
      (if c = capitalSigma then [sigmaForm (before ++ farBefore) (after ++ farAfter)]
        else lowerChar c) ++ lowerWithin farBefore farAfter (c :: before) after

/-- A text is put into lowercase part by part, and each part sees what is around it. -/
theorem lowerFrom_part (farBefore farAfter : List Char) : ∀ part before : List Char,
    lowerFrom (before ++ farBefore) (part ++ farAfter) =
      lowerWithin farBefore farAfter before part ++
        lowerFrom (part.reverse ++ (before ++ farBefore)) farAfter
  | [], _ => rfl
  | c :: part, before => by
    have hlater := lowerFrom_part farBefore farAfter part (c :: before)
    rw [List.cons_append] at hlater
    rw [List.cons_append, lowerFrom, hlater, lowerWithin, sigmaForm, List.append_assoc,
      List.reverse_cons, List.append_assoc part.reverse]
    rfl

/-- A text that stands alone has nothing around it. -/
theorem lowerFrom_nil_eq (text : List Char) : lowerFrom [] text = lowerWithin [] [] [] text := by
  have hpart := lowerFrom_part [] [] text []
  rwa [List.append_nil, List.append_nil, lowerFrom, List.append_nil] at hpart

/-- A part whose sigmas keep their forms has the lowercase form that it has alone. -/
theorem lowerWithin_congr {farBefore farAfter : List Char} : ∀ {part before : List Char},
    EachSigma (fun before after =>
      endsWord (before ++ farBefore) (after ++ farAfter) = endsWord before after) before part →
    lowerWithin farBefore farAfter before part = lowerWithin [] [] before part
  | [], _, _ => rfl
  | c :: after, before, ⟨hhead, hlater⟩ => by
    rw [lowerWithin, lowerWithin, lowerWithin_congr hlater]
    congr 1
    split
    · next hcapital =>
      rw [sigmaForm, sigmaForm, hhead hcapital, List.append_nil, List.append_nil]
    · rfl

/-- **A text whose sigmas keep their forms between two others is found in lowercase.** -/
theorem infix_lowerFrom {before part after : List Char}
    (hkeep : KeepsForms before.reverse after part) :
    lowerFrom [] part <:+: lowerFrom [] (before ++ part ++ after) := by
  obtain ⟨lowered, hsplit⟩ := lowerFrom_append before [] (part ++ after)
  have hwithin := lowerFrom_part before.reverse after part []
  rw [List.nil_append, lowerWithin_congr hkeep, ← lowerFrom_nil_eq] at hwithin
  rw [List.append_assoc, hsplit, List.append_nil, hwithin, ← List.append_assoc]
  exact ⟨lowered, _, rfl⟩

/-! ### Counting sigmas -/

section Counting

variable {farBefore farAfter : List Char} {x : Char}

/-- Where no sigma takes a form more often between two texts than alone, the form is not
more frequent there. -/
theorem count_lowerWithin_le : ∀ {part before : List Char},
    EachSigma (fun before after =>
      [sigmaForm (before ++ farBefore) (after ++ farAfter)].count x ≤
        [sigmaForm before after].count x) before part →
    (lowerWithin farBefore farAfter before part).count x ≤ (lowerWithin [] [] before part).count x
  | [], _, _ => Nat.le_refl _
  | c :: after, before, ⟨hhead, hlater⟩ => by
    have htail := count_lowerWithin_le hlater
    rw [lowerWithin, lowerWithin, List.count_append, List.count_append]
    refine Nat.add_le_add ?_ htail
    split
    · next hcapital =>
      rw [List.append_nil, List.append_nil]
      exact hhead hcapital
    · exact Nat.le_refl _

/-- If the form is as frequent there all the same, then each sigma takes it there if it
takes it alone. -/
theorem eachSigma_of_count_le : ∀ {part before : List Char},
    EachSigma (fun before after =>
      [sigmaForm (before ++ farBefore) (after ++ farAfter)].count x ≤
        [sigmaForm before after].count x) before part →
    (lowerWithin [] [] before part).count x ≤ (lowerWithin farBefore farAfter before part).count x →
    EachSigma (fun before after =>
      [sigmaForm before after].count x ≤
        [sigmaForm (before ++ farBefore) (after ++ farAfter)].count x) before part
  | [], _, _, _ => trivial
  | c :: after, before, ⟨hhead, hlater⟩, htotal => by
    have htail := count_lowerWithin_le hlater
    rw [lowerWithin, lowerWithin, List.count_append, List.count_append] at htotal
    by_cases hcapital : c = capitalSigma
    · have hc := hhead hcapital
      rw [if_pos hcapital, if_pos hcapital, List.append_nil, List.append_nil] at htotal
      refine ⟨fun _ => ?_, eachSigma_of_count_le hlater ?_⟩ <;> omega
    · rw [if_neg hcapital, if_neg hcapital] at htotal
      exact ⟨fun h => absurd h hcapital, eachSigma_of_count_le hlater (by omega)⟩

end Counting

/-- Between two texts a sigma is a plain one less often exactly if it is a final one at
least where it is that alone. -/
theorem count_sigma_le_iff {before after before' after' : List Char} :
    [sigmaForm before' after'].count sigma ≤ [sigmaForm before after].count sigma ↔
      (endsWord before after = true → endsWord before' after' = true) := by
  unfold sigmaForm
  cases endsWord before after <;> cases endsWord before' after' <;> decide

theorem count_finalSigma_le_iff {before after before' after' : List Char} :
    [sigmaForm before' after'].count finalSigma ≤ [sigmaForm before after].count finalSigma ↔
      (endsWord before' after' = true → endsWord before after = true) := by
  unfold sigmaForm
  cases endsWord before after <;> cases endsWord before' after' <;> decide

/-- If a text is found behind a letter, no sigma of it becomes a final one there. -/
theorem eachSigma_of_found_behind {text : List Char}
    (hfound : lowerFrom [] text <:+: lowerFrom [] ('a' :: text)) :
    EachSigma (fun before after =>
      endsWord (before ++ ['a']) after = true → endsWord before after = true) [] text := by
  have hfewer : EachSigma (fun before after =>
      [sigmaForm (before ++ ['a']) (after ++ [])].count sigma ≤
        [sigmaForm before after].count sigma) [] text :=
    eachSigma_of_forall (fun before after => by
      rw [List.append_nil, count_sigma_le_iff]
      exact endsWord_behind before after) text []
  have hwithin := lowerFrom_part ['a'] [] text []
  rw [List.append_nil, lowerFrom, List.append_nil, List.nil_append] at hwithin
  have hmany := hfound.sublist.count_le sigma
  rw [lowerFrom_nil_eq, lowerFrom_cons_of_basic (by decide), hwithin,
    List.count_cons_of_ne (by decide)] at hmany
  refine EachSigma.imp (fun before after hmore => ?_) (eachSigma_of_count_le hfewer hmany)
  rwa [List.append_nil, count_sigma_le_iff] at hmore

/-- If a text is found before a letter, no final sigma of it becomes a plain one there. -/
theorem eachSigma_of_found_ahead {text : List Char}
    (hfound : lowerFrom [] text <:+: lowerFrom [] (text ++ ['a'])) :
    EachSigma (fun before after =>
      endsWord before after = true → endsWord before (after ++ ['a']) = true) [] text := by
  have hfewer : EachSigma (fun before after =>
      [sigmaForm (before ++ []) (after ++ ['a'])].count finalSigma ≤
        [sigmaForm before after].count finalSigma) [] text :=
    eachSigma_of_forall (fun before after => by
      rw [List.append_nil, count_finalSigma_le_iff]
      exact endsWord_ahead before after) text []
  have hwithin := lowerFrom_part [] ['a'] text []
  rw [List.append_nil, List.append_nil] at hwithin
  have hmany := hfound.sublist.count_le finalSigma
  rw [lowerFrom_nil_eq, hwithin, List.count_append, lowerFrom_cons_of_basic (by decide),
    List.count_cons_of_ne (by decide), lowerFrom, List.count_nil, Nat.add_zero] at hmany
  refine EachSigma.imp (fun before after hmore => ?_) (eachSigma_of_count_le hfewer hmany)
  rwa [List.append_nil, count_finalSigma_le_iff] at hmore

end Failover.Text

namespace Failover

open Text

/-! ### Rules on texts -/

/-- A rule on some texts fires on a failure: its condition holds, and a classifier that
has no other rule gives its kind. -/
structure Condition.FiresOn (needles : List String) (failure : Failure) : Prop where
  /-- The condition holds. -/
  holds : (mentionsAnyCase needles).holds failure (lowercase failure.message) = true
  /-- The classifier gives the kind of the rule. -/
  classified : ∀ kind, (⟨[⟨mentionsAnyCase needles, kind⟩]⟩ : Classifier).classification failure =
    kind.classification

/-- A rule on texts fires exactly if one of them occurs in lowercase. -/
theorem Condition.firesOn_iff {needles : List String} {failure : Failure} :
    FiresOn needles failure ↔ ∃ needle ∈ needles,
      (lowercase needle).toList <:+: (lowercase failure.message).toList := by
  have hmet : (mentionsAnyCase needles).Met failure ↔ ∃ needle ∈ needles,
      (lowercase needle).toList <:+: (lowercase failure.message).toList := by
    simp [mentionsAnyCase, Met]
  rw [← hmet, ← Condition.holds_iff]
  refine ⟨FiresOn.holds, fun hholds => ⟨hholds, fun kind => ?_⟩⟩
  rw [Classifier.classification, Classifier.classify_eq, firstKind?_cons, if_pos hholds,
    Option.getD_some]

/-- **A rule finds a text in every message that contains it exactly if the text settles
the forms of its capital sigmas**, as a text without that letter does.  In any case it
finds the text wherever its sigmas have the forms that they have when it stands alone. -/
theorem text_rule_fires_iff (needle : String) :
    ((∀ needles failure, needle ∈ needles → needle.toList <:+: failure.message.toList →
        Condition.FiresOn needles failure) ↔ SettlesSigmas needle.toList) ∧
      (capitalSigma ∉ needle.toList → SettlesSigmas needle.toList) ∧
      ∀ needles failure before after, needle ∈ needles →
        before ++ needle.toList ++ after = failure.message.toList →
        KeepsForms before.reverse after needle.toList → Condition.FiresOn needles failure := by
  have hoccurrence : ∀ needles (failure : Failure) before after, needle ∈ needles →
      before ++ needle.toList ++ after = failure.message.toList →
      KeepsForms before.reverse after needle.toList → Condition.FiresOn needles failure := by
    intro needles failure before after hmem hsplit hkeep
    refine Condition.firesOn_iff.mpr ⟨needle, hmem, ?_⟩
    rw [lowercase, lowercase, String.toList_ofList, String.toList_ofList, ← hsplit]
    exact infix_lowerFrom hkeep
  refine ⟨⟨fun heverywhere => ?_, fun hsettles => ?_⟩, eachSigma_of_not_mem, hoccurrence⟩
  · -- it is enough to look at messages with one more letter, before the text and after it
    have hfound : ∀ message : List Char, needle.toList <:+: message →
        lowerFrom [] needle.toList <:+: lowerFrom [] message := by
      intro message hcontains
      obtain ⟨needle', hmem, hoccurs⟩ := Condition.firesOn_iff.mp
        (heverywhere [needle] (.ofMessage (String.ofList message)) (List.mem_singleton_self needle)
          (by rwa [Failure.ofMessage, String.toList_ofList]))
      rw [List.mem_singleton.mp hmem, Failure.ofMessage, lowercase, lowercase,
        String.toList_ofList, String.toList_ofList, String.toList_ofList] at hoccurs
      exact hoccurs
    have hbehind := eachSigma_of_found_behind
      (hfound _ (List.suffix_cons 'a' needle.toList).isInfix)
    have hahead := eachSigma_of_found_ahead
      (hfound _ (List.prefix_append needle.toList ['a']).isInfix)
    exact EachSigma.imp (fun _ _ hboth => settles_of_letters hboth.1 hboth.2) (hbehind.and hahead)
  · rintro needles failure hmem ⟨before, after, hsplit⟩
    exact hoccurrence needles failure before after hmem hsplit
      (hsettles.keepsForms before.reverse after)

/-- The stem of a word that ends in a capital sigma occurs in the word, but a rule on the
stem does not fire, and the failure stays unknown: the sigma of the stem becomes a final
one, and that of the word does not. -/
theorem text_rule_misses_stem :
    let rule : Rule := ⟨.mentionsAnyCase ["ΥΠΕΡΒΑΣ"], .rateLimit⟩
    let failure : Failure := .ofMessage "ΥΠΕΡΒΑΣΗ ΟΡΙΟΥ"
    "ΥΠΕΡΒΑΣ".toList <:+: failure.message.toList ∧
      rule.condition.holds failure (lowercase failure.message) = false ∧
      (⟨[rule]⟩ : Classifier).classification failure = Kind.unknown.classification ∧
      ¬ Condition.FiresOn ["ΥΠΕΡΒΑΣ"] failure := by
  intro rule failure
  have hmissed : rule.condition.holds failure (lowercase failure.message) = false := by
    decide +kernel
  have hcontained : occursIn "ΥΠΕΡΒΑΣ".toList failure.message.toList = true := by decide +kernel
  refine ⟨occursIn_iff.mp hcontained, hmissed, by decide +kernel, fun hfires => ?_⟩
  exact Bool.false_ne_true (hmissed.symm.trans hfires.holds)

end Failover
