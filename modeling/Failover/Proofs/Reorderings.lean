import Failover.Value
import Mathlib.Data.List.Forall2

/-!
# Reading values in any order

An object does not keep the order of its fields, so what was written as a value may come
back with them in another order, at every depth.  A reader that gets back what was
written has to do without the order.

A reader of records goes through the fields it is given one by one.  After some of them,
whatever their order, it holds the parts that have been seen and the defaults of the
others; each field it reads keeps this so.

## Main definitions

* `Value.Reordered` — the same value, but for the order of fields.
* `Value.ReadsBack` — a reader that gets back what was written.

## Main results

* `Value.ReadsBack.asList` — lists of what is read back are read back.
* `Value.foldlM_seen` — what a reader of records holds after some fields.
* `Value.asRecord_of_reordered` — what it holds after all fields of an object.
-/

namespace Failover

namespace Value

/-! ### The order of fields -/

/-- The same value with the fields of its objects in any order, at every depth. -/
inductive Reordered : Value → Value → Prop where
  /-- A value is in an order of its own. -/
  | same (v : Value) : Reordered v v
  /-- The items of a list keep their places. -/
  | list {vs ws : List Value} (hitems : List.Forall₂ Reordered vs ws) :
      Reordered (.list vs) (.list ws)
  /-- The fields of an object change places, each with its name. -/
  | object {fields moved others : List (String × Value)}
      (hnames : fields.map Prod.fst = moved.map Prod.fst)
      (hvalues : List.Forall₂ Reordered (fields.map Prod.snd) (moved.map Prod.snd))
      (hperm : moved.Perm others) : Reordered (.object fields) (.object others)

/-- Fields that are those of an object in another order. -/
structure Matches (fields others : List (String × Value)) : Prop where
  /-- None is new. -/
  back : ∀ name w, (name, w) ∈ others → ∃ v, (name, v) ∈ fields ∧ v.Reordered w
  /-- None is missing. -/
  forth : ∀ name v, (name, v) ∈ fields → ∃ w, (name, w) ∈ others

/-- Fields that stand in the same places match. -/
theorem Matches.of_pointwise {fields moved : List (String × Value)}
    (hnames : fields.map Prod.fst = moved.map Prod.fst)
    (hvalues : List.Forall₂ Reordered (fields.map Prod.snd) (moved.map Prod.snd)) :
    Matches fields moved := by
  induction fields generalizing moved with
  | nil =>
      cases moved with
      | nil =>
          exact ⟨fun _ _ h => absurd h List.not_mem_nil, fun _ _ h => absurd h List.not_mem_nil⟩
      | cons _ _ => exact nomatch hnames
  | cons field fields ih =>
      cases moved with
      | nil => exact nomatch hnames
      | cons other moved =>
          obtain ⟨hname, hnames⟩ := List.cons.inj hnames
          obtain ⟨hvalue, hvalues⟩ := List.forall₂_cons.mp hvalues
          have hrest := ih hnames hvalues
          constructor
          · rintro name w (_ | ⟨_, hmem⟩)
            · exact ⟨field.2, List.mem_cons.mpr (.inl (Prod.ext hname.symm rfl)), hvalue⟩
            · obtain ⟨v, hmem, hreordered⟩ := hrest.back name w hmem
              exact ⟨v, List.mem_cons_of_mem _ hmem, hreordered⟩
          · rintro name v (_ | ⟨_, hmem⟩)
            · exact ⟨other.2, List.mem_cons.mpr (.inl (Prod.ext hname rfl))⟩
            · obtain ⟨w, hmem⟩ := hrest.forth name v hmem
              exact ⟨w, List.mem_cons_of_mem _ hmem⟩

/-- Fields in another order match. -/
theorem Matches.perm {fields moved others : List (String × Value)} (h : Matches fields moved)
    (hperm : moved.Perm others) : Matches fields others where
  back name w hmem := h.back name w (hperm.mem_iff.mpr hmem)
  forth name v hmem := (h.forth name v hmem).imp fun _ => hperm.mem_iff.mp

/-- An object in another order is an object with the same fields. -/
theorem Reordered.of_object {fields : List (String × Value)} {w : Value}
    (h : (Value.object fields).Reordered w) : ∃ others, w = .object others ∧
      Matches fields others := by
  cases h with
  | same =>
      exact ⟨fields, rfl, fun _ w hmem => ⟨w, hmem, .same w⟩, fun _ v hmem => ⟨v, hmem⟩⟩
  | object hnames hvalues hperm =>
      exact ⟨_, rfl, (Matches.of_pointwise hnames hvalues).perm hperm⟩

/-- The only field of a name is found among fields that match. -/
theorem Matches.lookup {fields others : List (String × Value)} (h : Matches fields others)
    (name : String) {v : Value} (hmem : (name, v) ∈ fields)
    (honly : ∀ u, (name, u) ∈ fields → u = v) :
    ∃ w, others.lookup name = some w ∧ v.Reordered w := by
  obtain ⟨w, hthere⟩ := h.forth name v hmem
  cases hfound : others.lookup name with
  | none => exact absurd rfl (bne_iff_ne.mp (List.lookup_eq_none_iff.mp hfound _ hthere))
  | some w =>
      obtain ⟨before, after, hsplit, -⟩ := List.lookup_eq_some_iff.mp hfound
      obtain ⟨u, hmem, hreordered⟩ := h.back name w (by simp [hsplit])
      exact ⟨w, rfl, honly u hmem ▸ hreordered⟩

/-- A list in another order is a list of the items in another order. -/
theorem Reordered.of_list {vs : List Value} {w : Value} (h : (Value.list vs).Reordered w) :
    ∃ ws, w = .list ws ∧ List.Forall₂ Reordered vs ws := by
  cases h with
  | same => exact ⟨vs, rfl, List.forall₂_same.mpr fun v _ => .same v⟩
  | list hitems => exact ⟨_, rfl, hitems⟩

/-- A text has no order to change. -/
theorem Reordered.of_text {s : String} {w : Value} (h : (Value.text s).Reordered w) :
    w = .text s := by
  cases h
  rfl

/-- A number has no order to change. -/
theorem Reordered.of_int {n : Int} {w : Value} (h : (Value.int n).Reordered w) :
    w = .int n := by
  cases h
  rfl

/-- A truth value has no order to change. -/
theorem Reordered.of_bool {b : Bool} {w : Value} (h : (Value.bool b).Reordered w) :
    w = .bool b := by
  cases h
  rfl

/-! ### Readers -/

variable {α : Type} {write : α → Value} {read : Reader α}

/-- A reader gets back what was written. -/
structure ReadsBack (write : α → Value) (read : Reader α) : Prop where
  /-- It reads the value that was written as what was written. -/
  literally : ∀ a, read (write a) = .ok a
  /-- It does not look at the order of fields. -/
  inAnyOrder : ∀ a w, (write a).Reordered w → read w = .ok a

/-- A reader that does not look at the order of fields reads the written order. -/
theorem ReadsBack.of_reordered (h : ∀ a w, (write a).Reordered w → read w = .ok a) :
    ReadsBack write read :=
  ⟨fun a => h a _ (.same _), h⟩

/-- Items are read back one by one. -/
theorem ReadsBack.mapM (hback : ReadsBack write read) {items : List α} {ws : List Value}
    (h : List.Forall₂ Reordered (items.map write) ws) : ws.mapM read = .ok items := by
  induction items generalizing ws with
  | nil =>
      cases h
      rfl
  | cons a items ih =>
      rw [List.map_cons, List.forall₂_cons_left_iff] at h
      obtain ⟨w, ws, hitem, hrest, rfl⟩ := h
      rw [List.mapM_cons, hback.inAnyOrder a w hitem, ih hrest]
      rfl

/-- Lists are read back. -/
theorem ReadsBack.asList (hback : ReadsBack write read) :
    ReadsBack (fun items : List α => .list (items.map write)) (asList read) :=
  .of_reordered fun items w h => by
    obtain ⟨ws, rfl, hvalues⟩ := h.of_list
    exact hback.mapM hvalues

/-- Texts are read back. -/
theorem asText_readsBack : ReadsBack .text asText :=
  .of_reordered fun a w h => by rw [h.of_text]; rfl

/-- Counts are read back. -/
theorem asCount_readsBack : ReadsBack (fun n : UInt32 => .int n.toNat) asCount :=
  .of_reordered fun n w h => by
    have hfits : 0 ≤ (n.toNat : Int) ∧ (n.toNat : Int).toNat < UInt32.size :=
      ⟨Int.natCast_nonneg _, n.toNat_lt⟩
    rw [h.of_int, asCount, if_pos hfits, Int.toNat_natCast, UInt32.ofNat_toNat]

/-- Something that may be missing is read back where it is there. -/
theorem ReadsBack.asOption (hback : ReadsBack write read) {a : α} (hthere : write a ≠ .null) :
    asOption read (write a) = .ok (some a) := by
  have hvalue := hback.literally a
  revert hthere hvalue
  cases write a <;> intro hthere hvalue
  all_goals first | exact absurd rfl hthere | exact congrArg (Except.map some) hvalue

/-! ### Records -/

/-- A reader goes on with what it has read. -/
theorem bind_of_ok {β : Type} {read : Except Refusal α} {a : α} (h : read = .ok a)
    (further : α → Except Refusal β) : (read >>= further) = further a := by
  rw [h]
  rfl

/-- A field is written if and only if there is something to put into it. -/
theorem mem_ifAny {name field : String} {o : Option Value} {v : Value} :
    (field, v) ∈ ifAny name o ↔ field = name ∧ o = some v := by
  cases o with
  | none => simp [ifAny]
  | some u => simp [ifAny, eq_comm]

/-- A part that may be missing is held once its field has been seen, if it has one. -/
theorem held_eq {name : String} {seen : List String} (part : Option α)
    (h : ∀ a, part = some a → name ∈ seen) : (if name ∈ seen then part else none) = part := by
  cases part with
  | none => exact ite_self none
  | some a => exact if_pos (h a rfl)

/-- A reader that holds the right parts after every field holds them after all. -/
theorem foldlM_seen {set : α → String → Value → Except Refusal α} (held : List String → α)
    {fields : List (String × Value)}
    (hstep : ∀ seen, ∀ field ∈ fields,
      set (held seen) field.1 field.2 = .ok (held (field.1 :: seen)))
    (seen : List String) :
    fields.foldlM (fun a field => set a field.1 field.2) (held seen)
      = .ok (held ((fields.map Prod.fst).reverse ++ seen)) := by
  induction fields generalizing seen with
  | nil => rfl
  | cons field fields ih =>
      have hfirst := hstep seen field List.mem_cons_self
      have hrest := ih (fun seen other hmem => hstep seen other (List.mem_cons_of_mem _ hmem))
        (field.1 :: seen)
      rw [List.foldlM_cons, hfirst, List.map_cons, List.reverse_cons, List.append_assoc,
        List.singleton_append]
      exact hrest

/-- What a reader of records holds after all fields of an object, in any order. -/
theorem asRecord_of_reordered (set : α → String → Value → Except Refusal α)
    (held : List String → α) {names : List String} {fields : List (String × Value)}
    (hknown : ∀ field ∈ fields, field.1 ∈ names)
    (hstep : ∀ seen name v w, (name, v) ∈ fields → v.Reordered w →
      set (held seen) name w = .ok (held (name :: seen)))
    {w : Value} (h : (Value.object fields).Reordered w) :
    ∃ seen, (∀ field ∈ fields, field.1 ∈ seen) ∧
      asRecord names (held []) set w = .ok (held seen) := by
  obtain ⟨others, rfl, hmatched⟩ := h.of_object
  have hkept : others.filter (fun field => names.contains field.1) = others := by
    refine List.filter_eq_self.mpr fun field hmem => ?_
    obtain ⟨v, hmem, -⟩ := hmatched.back field.1 field.2 hmem
    exact List.contains_iff_mem.mpr (hknown (field.1, v) hmem)
  have hall : others.foldlM (fun a field => set a field.1 field.2) (held [])
      = .ok (held ((others.map Prod.fst).reverse ++ [])) := by
    refine foldlM_seen held (fun seen field hmem => ?_) []
    obtain ⟨v, hmem, hreordered⟩ := hmatched.back field.1 field.2 hmem
    exact hstep seen field.1 v field.2 hmem hreordered
  refine ⟨(others.map Prod.fst).reverse ++ [], fun field hmem => ?_, ?_⟩
  · obtain ⟨w, hmem⟩ := hmatched.forth field.1 field.2 hmem
    rw [List.append_nil, List.mem_reverse]
    exact List.mem_map.mpr ⟨(field.1, w), hmem, rfl⟩
  · rw [asRecord, fieldsOf, hkept]
    exact bind_of_ok hall _

/-- A reader of records that holds the right parts reads back what was written, if
nothing else is left once all fields have been seen. -/
theorem asRecord_eq_of_reordered {set : α → String → Value → Except Refusal α} {start a : α}
    (held : List String → α) {names : List String} {fields : List (String × Value)}
    (hstart : held [] = start) (hknown : ∀ field ∈ fields, field.1 ∈ names)
    (hstep : ∀ seen name v w, (name, v) ∈ fields → v.Reordered w →
      set (held seen) name w = .ok (held (name :: seen)))
    (hcomplete : ∀ seen, (∀ field ∈ fields, field.1 ∈ seen) → held seen = a)
    {w : Value} (h : (Value.object fields).Reordered w) :
    asRecord names start set w = .ok a := by
  obtain ⟨seen, hall, hread⟩ := asRecord_of_reordered set held hknown hstep h
  rw [← hstart, hread, hcomplete seen hall]

end Value

end Failover
