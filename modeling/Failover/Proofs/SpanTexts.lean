import Failover.Time.SpanText

/-!
# Reading what was written

A length of time is written as items, the largest unit first, and reading adds items up.
What was written is read back as it was.  Two things have to be seen for this.  The
items of a length come to the length again: they are what is left of it by the units
above.  And no step of the reading leaves its range, although it counts seconds and
nanoseconds in 64 bits: each sum on the way is at most the length that was written.

## Main definitions

* `Span.Item` — an item, as it is written.
* `Span.counts` — the items of a length, with those of which there are none.

## Main results

* `Span.readFrom_text` — reading takes an item and adds what it is worth.
* `Span.readFrom_joined` — reading a row of items adds up what they are worth.
* `Span.total_counts` — the items of a length come to the length.
* `Span.ofText_text` — **a length that is written and read is the same length.**
-/

namespace Failover

namespace TimeUnit

/-- What one of a unit is worth in nanoseconds. -/
def nanos (unit : TimeUnit) : Nat :=
  match unit.size with
  | .nanos k => k
  | .seconds k => k * nanosPerSecond

/-- The name under which a unit is written, for one or for more of it. -/
def written (one : Bool) : TimeUnit → String
  | nanosecond => "ns"
  | microsecond => "us"
  | millisecond => "ms"
  | second => "s"
  | minute => "m"
  | hour => "h"
  | day => "day" ++ if one then "" else "s"
  | week => "w"
  | month => "month" ++ if one then "" else "s"
  | year => "year" ++ if one then "" else "s"

/-- The names under which a unit is written are among its names. -/
theorem ofName?_written (one : Bool) (unit : TimeUnit) :
    ofName? (unit.written one) = some unit := by
  cases one <;> cases unit <;> decide

end TimeUnit

namespace Span

/-! ### Digits -/

/-- A digit has its value. -/
theorem digitValue?_of_isDigit {c : Char} (h : c.isDigit = true) :
    digitValue? c = some (c.toNat - '0'.toNat) := if_pos h

/-- A number only grows with more digits. -/
theorem le_ofDigitChars (digits : List Char) (n : Nat) : n ≤ Nat.ofDigitChars 10 digits n := by
  induction digits generalizing n with
  | nil => exact Nat.le_refl n
  | cons c digits ih =>
      rw [Nat.ofDigitChars_cons]
      exact Nat.le_trans (by omega) (ih _)

/-- Reading goes through the digits of a number. -/
theorem readFrom_digits {digits : List Char} (h : ∀ c ∈ digits, c.isDigit = true) (s : Span)
    {n : Nat} (hfits : Nat.ofDigitChars 10 digits n < UInt64.size) (rest : List Char) :
    readFrom s (.whole n) (digits ++ rest)
      = readFrom s (.whole (Nat.ofDigitChars 10 digits n)) rest := by
  induction digits generalizing n with
  | nil => rfl
  | cons c digits ih =>
      rw [List.forall_mem_cons] at h
      rw [Nat.ofDigitChars_cons, Nat.mul_comm] at hfits ⊢
      have hstep : n * 10 + (c.toNat - '0'.toNat) < UInt64.size :=
        Nat.lt_of_le_of_lt (le_ofDigitChars digits _) hfits
      rw [List.cons_append, readFrom, digitValue?_of_isDigit h.1]
      simp only [hstep, if_true]
      exact ih h.2 hfits

/-- Reading goes through a number before an item's name. -/
theorem readFrom_toString (s : Span) (first : Bool) {n : Nat} (hfits : n < UInt64.size)
    (rest : List Char) :
    readFrom s (.gap first) ((toString n).toList ++ rest) = readFrom s (.whole n) rest := by
  have hdigits : ∀ c ∈ Nat.toDigits 10 n, c.isDigit = true := fun c =>
    Nat.isDigit_of_mem_toDigits (by decide) (by decide)
  have hvalue : Nat.ofDigitChars 10 (Nat.toDigits 10 n) 0 = n :=
    Nat.ofDigitChars_toDigits (by decide) (by decide)
  rw [Nat.toString_eq_repr, Nat.toList_repr]
  cases h : Nat.toDigits 10 n with
  | nil => exact absurd h Nat.toDigits_ne_nil
  | cons c more =>
      rw [h, List.forall_mem_cons] at hdigits
      rw [h, Nat.ofDigitChars_cons, Nat.mul_zero, Nat.zero_add] at hvalue
      rw [List.cons_append, readFrom, digitValue?_of_isDigit hdigits.1]
      exact (readFrom_digits hdigits.2 s (hvalue ▸ hfits) rest).trans (by rw [hvalue])

/-! ### Names of units -/

/-- Reading goes through the letters of a name. -/
theorem readFrom_letters {letters : List Char} (h : ∀ c ∈ letters, isUnitLetter c = true)
    (s : Span) (number : Numeral) (name rest : List Char) :
    readFrom s (.unit number name) (letters ++ rest)
      = readFrom s (.unit number (letters.reverse ++ name)) rest := by
  induction letters generalizing name with
  | nil => rfl
  | cons c letters ih =>
      rw [List.forall_mem_cons] at h
      rw [List.cons_append, readFrom, if_pos h.1, ih h.2, List.reverse_cons, List.append_assoc,
        List.singleton_append]

/-- The names of units are letters, with no digit and no blank at their head. -/
theorem written_eq_cons (one : Bool) (unit : TimeUnit) :
    ∃ c more, (unit.written one).toList = c :: more ∧ digitValue? c = none ∧
      Text.isBlank c = false ∧ isUnitLetter c = true ∧ more.all isUnitLetter = true := by
  cases one <;> cases unit <;>
    exact ⟨_, _, rfl, by decide, by decide, by decide, by decide⟩

/-- Reading goes through the name of a unit after a number. -/
theorem readFrom_written (s : Span) (n : Nat) (one : Bool) (unit : TimeUnit)
    (rest : List Char) :
    readFrom s (.whole n) ((unit.written one).toList ++ rest)
      = readFrom s (.unit ⟨n, none⟩ (unit.written one).toList.reverse) rest := by
  obtain ⟨c, more, heq, hdigit, hblank, hletter, hletters⟩ := written_eq_cons one unit
  rw [heq, List.cons_append, readFrom, hdigit]
  simp only [hblank, hletter, Bool.false_eq_true, if_false, if_true]
  rw [readFrom_letters (List.all_eq_true.mp hletters), List.reverse_cons]

/-! ### Items -/

/-- An item of a length of time: so many of a unit. -/
structure Item where
  /-- How many. -/
  count : Nat
  /-- Of what. -/
  unit : TimeUnit

namespace Item

/-- What an item is worth, in nanoseconds. -/
def nanos (i : Item) : Nat := i.count * i.unit.nanos

/-- The name of the unit, for as many as there are. -/
def name (i : Item) : String := i.unit.written (i.count = 1)

/-- An item as it is written. -/
def text (i : Item) : String := toString i.count ++ i.name

/-- An item of a unit below the second comes to less than a second. -/
def Below (i : Item) : Prop :=
  ∀ k, i.unit.size = .nanos k → i.nanos < nanosPerSecond

end Item

/-- Lengths are the same when they have the same nanoseconds. -/
@[ext] theorem ext {s t : Span} (h : s.nanos = t.nanos) : s = t := by
  cases s
  cases t
  cases h
  rfl

/-- The length of as many nanoseconds as a length has is that length. -/
theorem ofNanos?_of_eq {n : Nat} {t : Span} (h : n = t.nanos) : ofNanos? n = some t := by
  subst h
  exact dif_pos t.nanos_lt

variable {s t : Span} {i : Item}

/-- So many nanoseconds, less than a second, are added without leaving the range. -/
theorem addNanos_of_eq {n : Nat} (hbelow : n < nanosPerSecond) (hsum : s.nanos + n = t.nanos) :
    s.addNanos n = .ok t := by
  have hroom : ¬ UInt64.size ≤ s.subsecond + n := by
    have : s.subsecond < nanosPerSecond := Nat.mod_lt _ (by decide)
    unfold nanosPerSecond at *
    unfold UInt64.size
    omega
  rw [addNanos, if_neg hroom, ofNanos?_of_eq hsum]

/-- So many seconds are added without leaving the range. -/
theorem addSeconds_of_eq {n : Nat} (hsum : s.nanos + n * nanosPerSecond = t.nanos) :
    s.addSeconds n = .ok t := by
  rw [addSeconds, ofNanos?_of_eq hsum, Option.elim_some]

/-- So many of a unit are added without leaving the range. -/
theorem addMultiple_of_eq (hbelow : i.Below) (hsum : s.nanos + i.nanos = t.nanos) :
    s.addMultiple i.count 1 i.unit.size = .ok t := by
  have hrange := t.nanos_lt
  cases h : i.unit.size with
  | nanos k =>
      have hworth : i.nanos = i.count * k := by rw [Item.nanos, TimeUnit.nanos, h]
      have hsmall : i.count * k < nanosPerSecond := hworth ▸ hbelow k h
      have hroom : ¬ (UInt64.size ≤ i.count * k ∨ i.count * k % 1 ≠ 0) := by
        unfold nanosPerSecond at hsmall
        unfold UInt64.size
        omega
      rw [addMultiple, if_neg hroom, Nat.div_one]
      exact addNanos_of_eq hsmall (hworth ▸ hsum)
  | seconds k =>
      have hworth : i.nanos = i.count * k * nanosPerSecond := by
        rw [Item.nanos, TimeUnit.nanos, h, Nat.mul_assoc]
      have hroom : ¬ (UInt64.size ≤ i.count * k ∨ i.count * k % 1 ≠ 0) := by
        unfold limit nanosPerSecond at *
        omega
      rw [addMultiple, if_neg hroom, Nat.div_one]
      exact addSeconds_of_eq (hworth ▸ hsum)

/-- An item is added without leaving the range. -/
theorem addItem_of_eq (hbelow : i.Below) (hsum : s.nanos + i.nanos = t.nanos) :
    s.addItem ⟨i.count, none⟩ i.name.toList = .ok t := by
  have hnamed : TimeUnit.ofName? (String.ofList i.name.toList) = some i.unit := by
    rw [String.ofList_toList]
    exact TimeUnit.ofName?_written _ _
  simp only [addItem, hnamed, addMultiple_of_eq hbelow hsum]
  rfl

/-- The number of an item of which the worth is in range is in range itself. -/
theorem Item.count_lt (hbelow : i.Below) (hrange : i.nanos < limit) :
    i.count < UInt64.size := by
  obtain ⟨n, unit⟩ := i
  cases unit <;>
    simp only [Item.Below, Item.nanos, TimeUnit.nanos, TimeUnit.size, nanosPerSecond, limit,
      UInt64.size, UnitSize.nanos.injEq, forall_eq'] at * <;>
    omega

/-! ### Reading items -/

/-- Reading gets from the gap before an item to the end of its name. -/
theorem readFrom_item (first : Bool) (hbelow : i.Below) (hrange : i.nanos < limit)
    (rest : List Char) :
    readFrom s (.gap first) (i.text.toList ++ rest)
      = readFrom s (.unit ⟨i.count, none⟩ i.name.toList.reverse) rest := by
  rw [Item.text, String.toList_append, List.append_assoc,
    readFrom_toString s first (Item.count_lt hbelow hrange)]
  exact readFrom_written s i.count _ i.unit rest

/-- Reading takes an item and adds what it is worth, where the text ends. -/
theorem readFrom_text (first : Bool) (hbelow : i.Below) (hsum : s.nanos + i.nanos = t.nanos) :
    readFrom s (.gap first) i.text.toList = .ok t := by
  have hrange : i.nanos < limit := by
    have := t.nanos_lt
    omega
  have hitem := readFrom_item (s := s) first hbelow hrange []
  rw [List.append_nil] at hitem
  rw [hitem, readFrom, List.reverse_reverse, addItem_of_eq hbelow hsum]

/-- Reading takes an item and adds what it is worth, where a blank follows. -/
theorem readFrom_text_blank (first : Bool) (hbelow : i.Below)
    (hsum : s.nanos + i.nanos = t.nanos) (rest : List Char) :
    readFrom s (.gap first) (i.text.toList ++ ' ' :: rest)
      = readFrom t (.gap false) rest := by
  have hrange : i.nanos < limit := by
    have := t.nanos_lt
    omega
  have hletter : isUnitLetter ' ' = false := by decide
  have hdigit : digitValue? ' ' = none := by decide
  have hblank : Text.isBlank ' ' = true := by decide
  rw [readFrom_item first hbelow hrange, readFrom, List.reverse_reverse,
    addItem_of_eq hbelow hsum]
  simp only [hletter, hdigit, hblank, Bool.false_eq_true, if_false, if_true]

/-- What some items are worth together. -/
def total (items : List Item) : Nat := items.foldr (fun i worth => i.nanos + worth) 0

theorem total_nil : total [] = 0 := rfl

theorem total_cons (i : Item) (items : List Item) :
    total (i :: items) = i.nanos + total items := by
  rw [total, List.foldr_cons, total]

/-- Reading a row of items adds up what they are worth, if all of it is in range. -/
theorem readFrom_joined {items : List Item} (hbelow : ∀ j ∈ i :: items, j.Below)
    (hsum : s.nanos + total (i :: items) = t.nanos) (first : Bool) :
    readFrom s (.gap first) (" ".intercalate ((i :: items).map Item.text)).toList = .ok t := by
  rw [String.toList_intercalate]
  induction items generalizing i s first with
  | nil =>
      rw [List.map_singleton, List.map_singleton, List.intercalate_singleton]
      exact readFrom_text first (hbelow i List.mem_cons_self) hsum
  | cons j items ih =>
      rw [total_cons] at hsum
      have hrange : s.nanos + i.nanos < limit := by
        have := t.nanos_lt
        omega
      rw [List.forall_mem_cons] at hbelow
      -- the sum after the first item is the start of the rest
      refine Eq.trans ?_ (ih (s := ⟨s.nanos + i.nanos, hrange⟩) hbelow.2 ?_ false)
      · simp only [List.map_cons, List.intercalate_cons_cons, List.append_assoc]
        exact readFrom_text_blank first hbelow.1 rfl _
      · simpa only [Nat.add_assoc] using hsum

/-! ### Writing -/

/-- The items of a length, with those of which there are none. -/
def counts (s : Span) : List Item :=
  let inYear := s.seconds % 31557600
  let inMonth := inYear % 2630016
  let inDay := inMonth % 86400
  [⟨s.seconds / 31557600, .year⟩, ⟨inYear / 2630016, .month⟩, ⟨inMonth / 86400, .day⟩,
   ⟨inDay / 3600, .hour⟩, ⟨inDay % 3600 / 60, .minute⟩, ⟨inDay % 60, .second⟩,
   ⟨s.subsecond / 1000000, .millisecond⟩, ⟨s.subsecond / 1000 % 1000, .microsecond⟩,
   ⟨s.subsecond % 1000, .nanosecond⟩]

/-- The items of a length come to the length. -/
theorem total_counts (s : Span) : total s.counts = s.nanos := by
  simp only [counts, total_cons, total_nil, Item.nanos, TimeUnit.nanos, TimeUnit.size, seconds,
    subsecond, nanosPerSecond]
  omega

/-- The items of a length that are below the second come to less than one. -/
theorem below_counts (s : Span) : ∀ i ∈ s.counts, i.Below := by
  simp only [counts, List.forall_mem_cons, Item.Below, Item.nanos, TimeUnit.nanos, TimeUnit.size,
    subsecond, nanosPerSecond, UnitSize.nanos.injEq, forall_eq', reduceCtorEq, false_implies,
    implies_true, List.not_mem_nil, true_and, and_true]
  omega

/-- An item as it stands in a text, unless it is of none. -/
def Item.shown (i : Item) : List String := if i.count = 0 then [] else [i.text]

/-- An item under a long name is shown. -/
theorem longItem_eq (unit : TimeUnit) {name : String}
    (hnamed : ∀ one, unit.written one = name ++ if one then "" else "s") (n : Nat) :
    longItem n name = Item.shown ⟨n, unit⟩ := by
  simp only [longItem, Item.shown, Item.text, Item.name, hnamed, decide_eq_true_iff,
    String.append_assoc]

/-- An item under a short name is shown. -/
theorem shortItem_eq (unit : TimeUnit) {name : String}
    (hnamed : ∀ one, unit.written one = name) (n : Nat) :
    shortItem n name = Item.shown ⟨n, unit⟩ := by
  simp only [shortItem, Item.shown, Item.text, Item.name, hnamed]

/-- A length is written as those of its items of which there are some. -/
theorem items_eq (s : Span) : s.items = s.counts.flatMap Item.shown := by
  rw [items, longItem_eq .year fun _ => rfl, longItem_eq .month fun _ => rfl,
    longItem_eq .day fun _ => rfl, shortItem_eq .hour fun _ => rfl,
    shortItem_eq .minute fun _ => rfl, shortItem_eq .second fun _ => rfl,
    shortItem_eq .millisecond fun _ => rfl, shortItem_eq .microsecond fun _ => rfl,
    shortItem_eq .nanosecond fun _ => rfl]
  simp only [counts, List.flatMap_cons, List.flatMap_nil, List.append_nil, List.append_assoc]

/-- Items of which there are none are left out, and they are worth nothing. -/
theorem exists_kept (items : List Item) :
    ∃ kept : List Item, items.flatMap Item.shown = kept.map Item.text ∧
      total kept = total items ∧ ∀ i ∈ kept, i ∈ items := by
  induction items with
  | nil => exact ⟨[], rfl, rfl, fun _ => id⟩
  | cons i items ih =>
      obtain ⟨kept, htexts, hworth, hmem⟩ := ih
      rw [List.flatMap_cons, htexts, total_cons, ← hworth]
      by_cases hnone : i.count = 0
      · refine ⟨kept, ?_, ?_, fun j h => List.mem_cons_of_mem _ (hmem j h)⟩
        · rw [Item.shown, if_pos hnone, List.nil_append]
        · rw [Item.nanos, hnone, Nat.zero_mul, Nat.zero_add]
      · refine ⟨i :: kept, ?_, total_cons i kept, ?_⟩
        · rw [Item.shown, if_neg hnone, List.singleton_append, List.map_cons]
        · exact List.forall_mem_cons.mpr
            ⟨List.mem_cons_self, fun j h => List.mem_cons_of_mem _ (hmem j h)⟩

/-- **A length of time that is written and read is the same length.** -/
theorem ofText_text (s : Span) : ofText s.text = .ok s := by
  by_cases hnone : s.nanos = 0
  · rw [text, if_pos hnone]
    exact congrArg Except.ok (ext hnone.symm)
  obtain ⟨kept, htexts, hworth, hmem⟩ := exists_kept s.counts
  rw [total_counts] at hworth
  obtain ⟨i, kept, rfl⟩ : ∃ i more, kept = i :: more :=
    List.exists_cons_of_ne_nil (by rintro rfl; exact hnone hworth.symm)
  have hbelow : ∀ j ∈ i :: kept, j.Below := fun j h => below_counts s j (hmem j h)
  have hread := readFrom_joined (s := zero) (t := s) hbelow ((Nat.zero_add _).trans hworth) true
  rw [text, if_neg hnone, items_eq, htexts, ofText]
  split
  · next halone =>
      -- a row of items is never a lone zero, which cannot be read as one
      have hrefused : readFrom zero (.gap true) "0".toList = .error .malformed := rfl
      rw [halone, hrefused] at hread
      exact nomatch hread
  · exact hread

end Span

end Failover
