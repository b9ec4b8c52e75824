import Failover.Proofs.Identities

/-!
# What a masked key shows

A key is masked by cutting it at byte offsets.  That is only possible between characters,
so a key with characters of several bytes must not be cut at all.  It never is: such a key
becomes stars, as a short one does, and in a plain one every offset lies between two
characters.

What is left of a key is then known exactly.  Of a hidden key it is the length, as far as
twelve bytes; of another it is the first eight bytes, the last four, and the length, as far
as twenty bytes.  Two keys that agree in these are masked alike, whatever else is in them,
and the credentials that hold them look alike in diagnostic output.

## Main definitions

* `Text.slice?` — the part of a text between two byte offsets.
* `maskedBySlices?` — masking a key by cutting it.
* `Hidden`, `LookAlike` — the keys that are hidden, and those that cannot be told apart.

## Main results

* `maskedBySlices?_eq` — a key can always be cut where masking cuts it.
* `masked_eq_iff` — which keys are masked alike.
* `masking_hides_middle` — **what masked credentials show.**
-/

namespace Failover

/-! ### Cutting texts at byte offsets -/

namespace Text

/-- The part of a text between two byte offsets.  There is none if one of them lies beyond
the text or inside a character. -/
def slice? (text : String) (i j : ℕ) : Option String :=
  if h : i ≤ j ∧ String.Pos.Raw.IsValid text ⟨i⟩ ∧ String.Pos.Raw.IsValid text ⟨j⟩ then
    some (String.extract (s := text) ⟨⟨i⟩, h.2.1⟩ ⟨⟨j⟩, h.2.2⟩)
  else none

/-- The offsets at which a text was put together are ones that it can be cut at. -/
theorem slice?_append (front middle back : String) :
    slice? (front ++ middle ++ back) front.utf8ByteSize
      (front.utf8ByteSize + middle.utf8ByteSize) = some middle := by
  have hstart : String.Pos.Raw.IsValid (front ++ middle ++ back) ⟨front.utf8ByteSize⟩ :=
    String.Pos.Raw.isValid_iff_exists_append.mpr ⟨front, middle ++ back,
      String.append_assoc, rfl⟩
  have hstop : String.Pos.Raw.IsValid (front ++ middle ++ back)
      ⟨front.utf8ByteSize + middle.utf8ByteSize⟩ := by
    refine String.Pos.Raw.isValid_iff_exists_append.mpr ⟨front ++ middle, back, rfl, ?_⟩
    rw [← String.utf8ByteSize_append]
    rfl
  have hsize : front.utf8ByteSize + middle.utf8ByteSize =
      (front.toByteArray ++ middle.toByteArray).size := ByteArray.size_append.symm
  rw [slice?, dif_pos ⟨Nat.le_add_right _ _, hstart, hstop⟩]
  refine congrArg some (String.toByteArray_inj.mp ?_)
  rw [String.toByteArray_extract, String.toByteArray_append, String.toByteArray_append]
  change ByteArray.extract _ front.utf8ByteSize (front.utf8ByteSize + middle.utf8ByteSize) = _
  rw [hsize, ByteArray.extract_append_size_left]
  exact ByteArray.extract_append_eq_right rfl ByteArray.size_append

example : slice? "é" 0 1 = none := by decide +kernel

end Text

/-! ### Plain texts -/

/-- The characters of a plain text are one byte each. -/
theorem utf8ByteSize_ofList_of_plain {cs : List Char} (h : ∀ c ∈ cs, c.toNat < 0x80) :
    (String.ofList cs).utf8ByteSize = cs.length := by
  induction cs with
  | nil => rfl
  | cons c cs ih =>
    have hc : c.utf8Size = 1 :=
      Char.utf8Size_eq_one_iff.mpr (Nat.le_of_lt_succ (h c List.mem_cons_self))
    rw [String.ofList_cons, String.utf8ByteSize_append, String.utf8ByteSize_singleton, hc,
      ih fun c' hc' => h c' (List.mem_cons_of_mem c hc'), List.length_cons, Nat.add_comm]

theorem plain_of_isPlain {text : String} (h : isPlain text = true) :
    ∀ c ∈ text.toList, c.toNat < 0x80 := by
  simpa only [isPlain, List.all_eq_true, decide_eq_true_eq] using h

theorem utf8ByteSize_of_isPlain {text : String} (h : isPlain text = true) :
    text.utf8ByteSize = text.toList.length := by
  rw [← utf8ByteSize_ofList_of_plain (plain_of_isPlain h), String.ofList_toList]

/-- A plain text can be cut at every offset. -/
theorem utf8ByteSize_take_of_isPlain {text : String} (h : isPlain text = true) {n : ℕ}
    (hn : n ≤ text.utf8ByteSize) :
    (String.ofList (text.toList.take n)).utf8ByteSize = n := by
  rw [utf8ByteSize_ofList_of_plain fun c hc => plain_of_isPlain h c (List.mem_of_mem_take hc),
    List.length_take, ← utf8ByteSize_of_isPlain h, Nat.min_eq_left hn]

theorem ofList_take_append_drop (text : String) (n : ℕ) :
    String.ofList (text.toList.take n) ++ String.ofList (text.toList.drop n) = text := by
  rw [← String.ofList_append, List.take_append_drop, String.ofList_toList]

/-! ### Bytes -/

open EndpointId (bytes bytes_inj)

theorem bytes_append (front back : String) : bytes (front ++ back) = bytes front ++ bytes back := by
  simp [bytes, String.toByteArray_append]

theorem length_bytes (text : String) : (bytes text).length = text.utf8ByteSize := rfl

theorem bytes_stars (n : ℕ) : bytes (stars n) = List.replicate n 42 := by
  induction n with
  | zero => rfl
  | succ n ih =>
    have hone : stars (n + 1) = "*" ++ stars n := by
      rw [stars, List.replicate_succ, String.ofList_cons]
      rfl
    rw [hone, bytes_append, ih]
    rfl

/-! ### Masking a key by cutting it -/

/-- A key that nothing is shown of: it is short, or not plain. -/
def Hidden (key : String) : Prop := key.utf8ByteSize ≤ 12 ∨ isPlain key = false

instance (key : String) : Decidable (Hidden key) := inferInstanceAs (Decidable (_ ∨ _))

/-- A key masked by cutting its ends off, which fails if it cannot be cut there. -/
def maskedBySlices? (key : String) : Option String :=
  if Hidden key then some (stars (min key.utf8ByteSize 12))
  else do
    let front ← Text.slice? key 0 8
    let back ← Text.slice? key (key.utf8ByteSize - 4) key.utf8ByteSize
    some (front ++ stars (min (key.utf8ByteSize - 12) 8) ++ "..." ++ back)

theorem masked_of_hidden {key : String} (h : Hidden key) :
    masked key = stars (min key.utf8ByteSize 12) := if_pos h

/-- A key that is not hidden has a front of eight bytes and a back of four, which do not
overlap, and is masked by what lies between them. -/
theorem exists_masked_eq {key : String} (h : ¬ Hidden key) :
    ∃ front middle back, key = front ++ middle ++ back ∧ front.utf8ByteSize = 8 ∧
      back.utf8ByteSize = 4 ∧
      masked key = front ++ stars (min (key.utf8ByteSize - 12) 8) ++ "..." ++ back := by
  obtain ⟨hlong, hplain⟩ : 12 < key.utf8ByteSize ∧ isPlain key = true := by
    simpa [Hidden] using h
  have hfront := utf8ByteSize_take_of_isPlain hplain (n := 8) (by omega)
  have hrest := utf8ByteSize_take_of_isPlain hplain (n := key.utf8ByteSize - 4) (by omega)
  have htake : (key.toList.take (key.utf8ByteSize - 4)).take 8 = key.toList.take 8 := by
    rw [List.take_take, Nat.min_eq_left (by omega)]
  refine ⟨.ofList (key.toList.take 8), .ofList ((key.toList.take (key.utf8ByteSize - 4)).drop 8),
    .ofList (key.toList.drop (key.utf8ByteSize - 4)), ?_, hfront, ?_, if_neg h⟩
  · rw [← htake, ← String.ofList_append, List.take_append_drop, ofList_take_append_drop]
  · have hsize := congrArg String.utf8ByteSize
      (ofList_take_append_drop key (key.utf8ByteSize - 4))
    rw [String.utf8ByteSize_append, hrest] at hsize
    omega

/-- **A key can be cut wherever masking cuts it**, and this is how it is masked. -/
theorem maskedBySlices?_eq (key : String) : maskedBySlices? key = some (masked key) := by
  by_cases h : Hidden key
  · rw [maskedBySlices?, if_pos h, masked_of_hidden h]
  · obtain ⟨front, middle, back, hkey, hfront, hback, hmasked⟩ := exists_masked_eq h
    have hsize : key.utf8ByteSize = (front ++ middle).utf8ByteSize + back.utf8ByteSize := by
      rw [hkey, String.utf8ByteSize_append]
    have hcutFront : Text.slice? key 0 8 = some front := by
      have hcut := Text.slice?_append "" front (middle ++ back)
      rwa [String.empty_append, ← String.append_assoc, ← hkey, String.utf8ByteSize_empty,
        Nat.zero_add, hfront] at hcut
    have hcutBack : Text.slice? key (key.utf8ByteSize - 4) key.utf8ByteSize = some back := by
      have hcut := Text.slice?_append (front ++ middle) back ""
      rw [String.append_empty, ← hkey, ← hsize] at hcut
      rwa [← show key.utf8ByteSize - 4 = (front ++ middle).utf8ByteSize by omega] at hcut
    rw [maskedBySlices?, if_neg h, hcutFront, hcutBack, hmasked]
    rfl

/-! ### Which keys look alike -/

/-- Two keys that masking makes the same. -/
inductive LookAlike (key key' : String) : Prop
  /-- Both are hidden, and are of one length as far as it is shown. -/
  | hidden (h : Hidden key) (h' : Hidden key')
    (hsize : min key.utf8ByteSize 12 = min key'.utf8ByteSize 12)
  /-- Neither is hidden, and they agree at both ends and in their length as far as it is
  shown. -/
  | shown (h : ¬ Hidden key) (h' : ¬ Hidden key')
    (hfront : (bytes key).take 8 = (bytes key').take 8)
    (hback : (bytes key).drop (key.utf8ByteSize - 4) =
      (bytes key').drop (key'.utf8ByteSize - 4))
    (hsize : min key.utf8ByteSize 20 = min key'.utf8ByteSize 20)

/-- The bytes that are shown of a key which is not hidden. -/
theorem bytes_masked {key : String} (h : ¬ Hidden key) :
    bytes (masked key) = (bytes key).take 8 ++ List.replicate (min (key.utf8ByteSize - 12) 8) 42 ++
      [46, 46, 46] ++ (bytes key).drop (key.utf8ByteSize - 4) := by
  obtain ⟨front, middle, back, hkey, hfront, hback, hmasked⟩ := exists_masked_eq h
  have hbytes : bytes key = bytes front ++ (bytes middle ++ bytes back) := by
    rw [hkey, bytes_append, bytes_append, List.append_assoc]
  have htake : (bytes key).take 8 = bytes front := by
    rw [hbytes]
    exact List.take_left' hfront
  have hdrop : (bytes key).drop (key.utf8ByteSize - 4) = bytes back := by
    rw [hbytes, ← List.append_assoc]
    refine List.drop_left' ?_
    rw [List.length_append, length_bytes, length_bytes, hkey, String.utf8ByteSize_append,
      String.utf8ByteSize_append]
    omega
  rw [hmasked, bytes_append, bytes_append, bytes_append, bytes_stars, htake, hdrop]
  rfl

theorem size_of_not_hidden {key : String} (h : ¬ Hidden key) : 12 < key.utf8ByteSize :=
  not_le.mp fun hle => h (Or.inl hle)

/-- What is left of a hidden key has stars only, and what is left of another has dots. -/
theorem masked_ne_of_hidden {key key' : String} (h : Hidden key) (h' : ¬ Hidden key') :
    masked key ≠ masked key' := by
  intro heq
  have hdot : 46 ∈ bytes (masked key') := by
    rw [bytes_masked h']
    simp
  rw [← heq, masked_of_hidden h, bytes_stars] at hdot
  exact absurd (List.eq_of_mem_replicate hdot) (by decide)

/-- **Two keys are masked alike if they look alike**, and only then. -/
theorem masked_eq_iff (key key' : String) : masked key = masked key' ↔ LookAlike key key' := by
  constructor
  · intro heq
    by_cases h : Hidden key <;> by_cases h' : Hidden key'
    · rw [masked_of_hidden h, masked_of_hidden h'] at heq
      have hlength := congrArg (fun text => (bytes text).length) heq
      simp only [bytes_stars, List.length_replicate] at hlength
      exact .hidden h h' hlength
    · exact absurd heq (masked_ne_of_hidden h h')
    · exact absurd heq.symm (masked_ne_of_hidden h' h)
    · have hbytes := congrArg bytes heq
      rw [bytes_masked h, bytes_masked h'] at hbytes
      have hlong := size_of_not_hidden h
      have hlong' := size_of_not_hidden h'
      have hends : ∀ {k : String}, 12 < k.utf8ByteSize →
          ((bytes k).take 8).length = 8 ∧ ((bytes k).drop (k.utf8ByteSize - 4)).length = 4 := by
        intro k hk
        rw [List.length_take, List.length_drop, length_bytes]
        omega
      -- the ends are as long in both, so the stars between them are too
      obtain ⟨hshown, hback⟩ := List.append_inj' hbytes
        ((hends hlong).2.trans (hends hlong').2.symm)
      obtain ⟨hstars, -⟩ := List.append_inj' hshown rfl
      obtain ⟨hfront, hcount⟩ := List.append_inj hstars
        ((hends hlong).1.trans (hends hlong').1.symm)
      have hlength := congrArg List.length hcount
      rw [List.length_replicate, List.length_replicate] at hlength
      exact .shown h h' hfront hback (by omega)
  · rintro (⟨h, h', hsize⟩ | ⟨h, h', hfront, hback, hsize⟩)
    · rw [masked_of_hidden h, masked_of_hidden h', hsize]
    · have hcount : min (key.utf8ByteSize - 12) 8 = min (key'.utf8ByteSize - 12) 8 := by
        have hlong := size_of_not_hidden h
        have hlong' := size_of_not_hidden h'
        omega
      apply bytes_inj
      rw [bytes_masked h, bytes_masked h', hfront, hback, hcount]

theorem maskedKey_some (c : Credentials) (key : String) :
    Credentials.maskedKey { c with apiKey := some key } = some (masked key) := rfl

/-- What is shown of credentials with one of two keys. -/
structure HidesMiddle (c : Credentials) (key key' : String) : Prop where
  /-- Masking a key never cuts through a character. -/
  defined : maskedBySlices? key = some (masked key)
  /-- The keys are masked alike if they look alike, and only then. -/
  maskedKey_eq_iff :
    Credentials.maskedKey { c with apiKey := some key } =
        Credentials.maskedKey { c with apiKey := some key' } ↔
      LookAlike key key'
  /-- Then neither can they be told apart in diagnostic output. -/
  text_eq : LookAlike key key' →
    Credentials.text { c with apiKey := some key } = Credentials.text { c with apiKey := some key' }
  /-- A hidden key shows no more than its length, as far as twelve bytes. -/
  of_hidden : Hidden key →
    Credentials.maskedKey { c with apiKey := some key } =
      some (stars (min key.utf8ByteSize 12))
  /-- Another shows its first eight bytes and its last four, which do not overlap, and its
  length as far as twenty. -/
  of_shown : ¬ Hidden key → ∃ front middle back, key = front ++ middle ++ back ∧
    front.utf8ByteSize = 8 ∧ back.utf8ByteSize = 4 ∧
    Credentials.maskedKey { c with apiKey := some key } =
      some (front ++ stars (min (key.utf8ByteSize - 12) 8) ++ "..." ++ back)

/-- **Masked credentials show nothing of the middle of a key**, and nothing at all of one
that is short or not plain. -/
theorem masking_hides_middle (c : Credentials) (key key' : String) : HidesMiddle c key key' where
  defined := maskedBySlices?_eq key
  maskedKey_eq_iff := by
    rw [maskedKey_some, maskedKey_some, Option.some_inj, masked_eq_iff]
  text_eq := by
    intro h
    unfold Credentials.text
    rw [maskedKey_some, maskedKey_some, (masked_eq_iff key key').mpr h]
  of_hidden := by
    intro h
    rw [maskedKey_some, masked_of_hidden h]
  of_shown := by
    intro h
    obtain ⟨front, middle, back, hkey, hfront, hback, hmasked⟩ := exists_masked_eq h
    exact ⟨front, middle, back, hkey, hfront, hback, by rw [maskedKey_some, hmasked]⟩

end Failover
