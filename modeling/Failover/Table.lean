/-!
# Tables

A table is a finite map kept as a list of rows in strictly ascending order of
their keys.  The order makes the representation canonical: two tables that
answer every look-up alike are equal (`Table.ext_get?`).  So a state built from
tables may be compared with `=`, and listing a table needs no sorting.

## Main definitions

* `Key` — the strict linear orders that keys come with.
* `Table` — the finite maps, with `get?`, `insert`, `erase` and `filter`.

## Main results

* `Table.get?_insert`, `Table.get?_erase`, `Table.get?_filter` — what each
  operation leaves at a key.
* `Table.ext_get?` — a table is determined by its look-ups.
-/

namespace Failover

/-- A type whose values may key a table: its strict order is decidable and
linear. -/
class Key (κ : Type) extends LT κ where
  /-- Whether one key comes before another. -/
  decLT : DecidableLT κ
  /-- Nothing comes before itself. -/
  irrefl : ∀ a : κ, ¬ a < a
  /-- The order is transitive. -/
  trans : ∀ {a b c : κ}, a < b → b < c → a < c
  /-- Two keys of which neither comes first are equal. -/
  eq_of_not_lt : ∀ {a b : κ}, ¬ a < b → ¬ b < a → a = b

instance instDecidableLTOfKey {κ : Type} [Key κ] : DecidableLT κ := Key.decLT

instance : Key String where
  decLT := inferInstance
  irrefl := String.lt_irrefl
  trans := String.lt_trans
  eq_of_not_lt hab hba :=
    String.le_antisymm (String.not_lt.mp hba) (String.not_lt.mp hab)

/-- A finite map from `κ` to `ν`. -/
structure Table (κ ν : Type) [Key κ] where
  /-- The rows, by ascending key. -/
  rows : List (κ × ν)
  /-- No key occurs twice and none is out of place. -/
  ascending : rows.Pairwise fun a b => a.1 < b.1

namespace Table

variable {κ ν : Type} [Key κ]

/-! ### Rows -/

/-- The value of the row with key `k`. -/
def lookup (k : κ) : List (κ × ν) → Option ν
  | [] => none
  | (k', v) :: rows => if k < k' then none else if k' < k then lookup k rows else some v

/-- Put the row of `k` into its place, dropping an earlier row of `k`. -/
def put (k : κ) (v : ν) : List (κ × ν) → List (κ × ν)
  | [] => [(k, v)]
  | (k', v') :: rows =>
      if k < k' then (k, v) :: (k', v') :: rows
      else if k' < k then (k', v') :: put k v rows
      else (k, v) :: rows

theorem mem_put {k : κ} {v : ν} {row : κ × ν} :
    ∀ {rows : List (κ × ν)}, row ∈ put k v rows → row = (k, v) ∨ row ∈ rows
  | [], h => Or.inl (List.mem_singleton.mp h)
  | (k', v') :: rows, h => by
      unfold put at h
      split at h
      · simpa using h
      · split at h
        · rcases List.mem_cons.mp h with h | h
          · exact Or.inr (h ▸ List.mem_cons_self)
          · exact (mem_put h).imp_right (List.mem_cons_of_mem _)
        · rcases List.mem_cons.mp h with h | h
          · exact Or.inl h
          · exact Or.inr (List.mem_cons_of_mem _ h)

theorem put_ascending (k : κ) (v : ν) :
    ∀ {rows : List (κ × ν)}, rows.Pairwise (fun a b => a.1 < b.1) →
      (put k v rows).Pairwise fun a b => a.1 < b.1
  | [], _ => by simp [put]
  | (k', v') :: rows, h => by
      obtain ⟨hhead, htail⟩ := List.pairwise_cons.mp h
      unfold put
      split
      · rename_i hlt
        refine List.pairwise_cons.mpr ⟨fun row hrow => ?_, h⟩
        rcases List.mem_cons.mp hrow with rfl | hrow
        · exact hlt
        · exact Key.trans hlt (hhead _ hrow)
      · split
        · rename_i hgt
          refine List.pairwise_cons.mpr ⟨fun row hrow => ?_, put_ascending k v htail⟩
          rcases mem_put hrow with rfl | hrow
          · exact hgt
          · exact hhead _ hrow
        · rename_i hnlt hngt
          obtain rfl := Key.eq_of_not_lt hnlt hngt
          exact List.pairwise_cons.mpr ⟨hhead, htail⟩

theorem lookup_eq_none {k : κ} :
    ∀ {rows : List (κ × ν)}, (∀ row ∈ rows, k < row.1) → lookup k rows = none
  | [], _ => rfl
  | (k', v') :: rows, h => by
      rw [lookup, if_pos (h (k', v') List.mem_cons_self)]

theorem lookup_put (k a : κ) (v : ν) :
    ∀ rows : List (κ × ν),
      lookup a (put k v rows) = if a < k ∨ k < a then lookup a rows else some v
  | [] => by
      by_cases h₁ : a < k <;> by_cases h₂ : k < a <;> simp [put, lookup, h₁, h₂]
  | (k', v') :: rows => by
      have ih := lookup_put k a v rows
      unfold put
      split
      · rename_i hlt
        by_cases h₁ : a < k
        · simp [lookup, h₁, Key.trans h₁ hlt]
        · by_cases h₂ : k < a <;> simp [lookup, h₁, h₂]
      · split
        · rename_i hnlt hgt
          by_cases h₁ : a < k'
          · simp [lookup, h₁, Key.trans h₁ hgt]
          · by_cases h₂ : k' < a
            · simp [lookup, h₁, h₂, ih]
            · obtain rfl := Key.eq_of_not_lt h₁ h₂
              simp [lookup, hgt, Key.irrefl]
        · rename_i hnlt hngt
          obtain rfl := Key.eq_of_not_lt hnlt hngt
          by_cases h₁ : a < k
          · simp [lookup, h₁]
          · by_cases h₂ : k < a <;> simp [lookup, h₁, h₂]

theorem lookup_eq_some_iff {k : κ} {v : ν} :
    ∀ {rows : List (κ × ν)}, rows.Pairwise (fun a b => a.1 < b.1) →
      (lookup k rows = some v ↔ (k, v) ∈ rows)
  | [], _ => by simp [lookup]
  | (k', v') :: rows, h => by
      obtain ⟨hhead, htail⟩ := List.pairwise_cons.mp h
      have ih := lookup_eq_some_iff (k := k) (v := v) htail
      unfold lookup
      split
      · rename_i hlt
        refine ⟨fun h => by simp at h, fun hmem => ?_⟩
        rcases List.mem_cons.mp hmem with heq | hmem
        · cases heq
          exact absurd hlt (Key.irrefl _)
        · exact absurd (Key.trans hlt (hhead _ hmem)) (Key.irrefl _)
      · split
        · rename_i hgt
          rw [ih, List.mem_cons]
          refine ⟨Or.inr, fun hmem => hmem.resolve_left fun heq => ?_⟩
          cases heq
          exact Key.irrefl _ hgt
        · rename_i hnlt hngt
          obtain rfl := Key.eq_of_not_lt hnlt hngt
          rw [Option.some.injEq, List.mem_cons]
          refine ⟨fun h => Or.inl (by rw [h]), fun hmem => ?_⟩
          rcases hmem with heq | hmem
          · cases heq
            rfl
          · exact absurd (hhead _ hmem) (Key.irrefl _)

theorem rows_ext :
    ∀ {rows rows' : List (κ × ν)}, rows.Pairwise (fun a b => a.1 < b.1) →
      rows'.Pairwise (fun a b => a.1 < b.1) →
        (∀ k, lookup k rows = lookup k rows') → rows = rows'
  | [], [], _, _, _ => rfl
  | [], (k, v) :: rows', _, _, hext => by
      have h := hext k
      simp [lookup, Key.irrefl] at h
  | (k, v) :: rows, [], _, _, hext => by
      have h := hext k
      simp [lookup, Key.irrefl] at h
  | (k, v) :: rows, (k', v') :: rows', h, h', hext => by
      obtain ⟨hhead, htail⟩ := List.pairwise_cons.mp h
      obtain ⟨hhead', htail'⟩ := List.pairwise_cons.mp h'
      have hk : ¬ k < k' := fun hlt => by
        have := hext k
        simp [lookup, Key.irrefl, hlt] at this
      have hk' : ¬ k' < k := fun hlt => by
        have := hext k'
        simp [lookup, Key.irrefl, hlt] at this
      obtain rfl := Key.eq_of_not_lt hk hk'
      have hv : v = v' := by
        have := hext k
        simpa [lookup, Key.irrefl] using this
      subst hv
      refine congrArg ((k, v) :: ·) (rows_ext htail htail' fun a => ?_)
      have := hext a
      by_cases h₁ : a < k
      · rw [lookup_eq_none fun row hrow => Key.trans h₁ (hhead row hrow),
          lookup_eq_none fun row hrow => Key.trans h₁ (hhead' row hrow)]
      · by_cases h₂ : k < a
        · simpa [lookup, h₁, h₂] using this
        · obtain rfl := Key.eq_of_not_lt h₁ h₂
          rw [lookup_eq_none hhead, lookup_eq_none hhead']

/-! ### Operations -/

/-- The table without rows. -/
def empty : Table κ ν := ⟨[], List.Pairwise.nil⟩

instance : EmptyCollection (Table κ ν) := ⟨empty⟩

instance : Inhabited (Table κ ν) := ⟨empty⟩

/-- The value at `k`, if the table has one. -/
def get? (t : Table κ ν) (k : κ) : Option ν := lookup k t.rows

/-- The table with `v` at `k`, whatever was there. -/
def insert (t : Table κ ν) (k : κ) (v : ν) : Table κ ν :=
  ⟨put k v t.rows, put_ascending k v t.ascending⟩

/-- The rows that satisfy `p`. -/
def filter (t : Table κ ν) (p : κ → ν → Bool) : Table κ ν :=
  ⟨t.rows.filter fun row => p row.1 row.2, t.ascending.filter _⟩

/-- The table without a row for `k`. -/
def erase (t : Table κ ν) (k : κ) : Table κ ν :=
  t.filter fun a _ => decide (a < k ∨ k < a)

/-- How many rows there are. -/
def size (t : Table κ ν) : Nat := t.rows.length

/-- Whether there is no row. -/
def isEmpty (t : Table κ ν) : Bool := t.rows.isEmpty

/-- The keys, in ascending order. -/
def keys (t : Table κ ν) : List κ := t.rows.map (·.1)

/-! ### Look-up laws -/

/-- Being found and being a row are the same. -/
theorem get?_eq_some_iff {t : Table κ ν} {k : κ} {v : ν} :
    t.get? k = some v ↔ (k, v) ∈ t.rows :=
  lookup_eq_some_iff t.ascending

/-- **A table is determined by its look-ups.** -/
theorem ext_get? {t u : Table κ ν} (h : ∀ k, t.get? k = u.get? k) : t = u := by
  obtain ⟨rows, hrows⟩ := t
  obtain ⟨rows', hrows'⟩ := u
  obtain rfl : rows = rows' := rows_ext hrows hrows' h
  rfl

@[simp] theorem get?_empty (k : κ) : (∅ : Table κ ν).get? k = none := rfl

/-- An insertion shows at its own key only. -/
theorem get?_insert [DecidableEq κ] (t : Table κ ν) (k a : κ) (v : ν) :
    (t.insert k v).get? a = if a = k then some v else t.get? a := by
  unfold get? insert
  rw [lookup_put]
  by_cases h : a = k
  · subst h
    simp [Key.irrefl]
  · have hne : a < k ∨ k < a := by
      by_cases h₁ : a < k
      · exact Or.inl h₁
      · exact Or.inr (Decidable.byContradiction fun h₂ => h (Key.eq_of_not_lt h₁ h₂))
    rw [if_pos hne, if_neg h]

/-- A filter keeps the look-ups that satisfy the condition. -/
theorem get?_filter (t : Table κ ν) (p : κ → ν → Bool) (k : κ) :
    (t.filter p).get? k = (t.get? k).filter (p k) := by
  refine Option.ext fun v => ?_
  rw [get?_eq_some_iff, Option.filter_eq_some_iff, get?_eq_some_iff]
  simp [filter]

/-- An erasure shows at its own key only. -/
theorem get?_erase [DecidableEq κ] (t : Table κ ν) (k a : κ) :
    (t.erase k).get? a = if a = k then none else t.get? a := by
  rw [erase, get?_filter]
  by_cases h : a = k
  · subst h
    cases t.get? a <;> simp [Option.filter, Key.irrefl]
  · have hne : a < k ∨ k < a := by
      by_cases h₁ : a < k
      · exact Or.inl h₁
      · exact Or.inr (Decidable.byContradiction fun h₂ => h (Key.eq_of_not_lt h₁ h₂))
    rw [if_neg h]
    cases t.get? a <;> simp [Option.filter, hne]

end Table

end Failover
