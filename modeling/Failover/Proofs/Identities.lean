import Failover.Endpoint
import Mathlib.Data.Nat.ModEq

/-!
# What identities tell apart

The bytes that the digest of an identity is taken of can be read back.  Each field says
by its first byte whether it is there, and if so how long it is, so that where one field
ends and the next begins does not depend on what is in them.  No two targets with
credentials run into the same bytes, and a field that is missing is not one that is empty.

An identity shows the target itself and six bytes of the digest, the latter in twelve
digits.  Since their number is always the same, the target can be read off an identity,
even if it ends like one.  So different targets have different identities whatever the
digest, and what is shared between two credentials for one target is decided by six bytes
alone.

## Main definitions

* `EndpointId.fields` — what an identity is made of, field by field.
* `EndpointId.Measured` — every length fits into the eight bytes that it is written in.
* `EndpointId.fingerprint` — the part of the digest that an identity shows.
* `EndpointId.Separates` — what identities tell apart.

## Main results

* `EndpointId.flatMap_fieldBytes_inj` — fields are read back from their bytes.
* `EndpointId.deriveWith_eq_iff` — when two identities are equal, under any digest.
* `identity_separates` — **identities tell apart what they should.**
-/

namespace Failover

namespace Digest

/-! ### Hexadecimal digits -/

theorem hexDigit_inj {m n : ℕ} (hm : m < 16) (hn : n < 16) (h : hexDigit m = hexDigit n) :
    m = n := by
  have hall : ∀ m n : Fin 16, hexDigit m = hexDigit n → m = n := by decide
  exact congrArg Fin.val (hall ⟨m, hm⟩ ⟨n, hn⟩ h)

theorem hexByte_inj {b b' : UInt8} (h : hexByte b = hexByte b') : b = b' := by
  have hb := b.toNat_lt
  have hb' := b'.toNat_lt
  simp only [hexByte, List.cons.injEq, and_true] at h
  have hhigh := hexDigit_inj (by omega) (by omega) h.1
  have hlow := hexDigit_inj (by omega) (by omega) h.2
  exact UInt8.toNat_inj.mp (by omega)

theorem length_flatMap_hexByte (bytes : List UInt8) :
    (bytes.flatMap hexByte).length = 2 * bytes.length := by
  induction bytes with
  | nil => rfl
  | cons b bytes ih =>
    rw [List.flatMap_cons, List.length_append, ih, List.length_cons]
    simp only [hexByte, List.length_cons, List.length_nil]
    omega

/-- Bytes are read back from their digits. -/
theorem flatMap_hexByte_inj {bytes bytes' : List UInt8}
    (h : bytes.flatMap hexByte = bytes'.flatMap hexByte) : bytes = bytes' := by
  induction bytes generalizing bytes' with
  | nil =>
    cases bytes' with
    | nil => rfl
    | cons b' bytes' => cases h
  | cons b bytes ih =>
    cases bytes' with
    | nil => cases h
    | cons b' bytes' =>
      rw [List.flatMap_cons, List.flatMap_cons] at h
      obtain ⟨hhead, htail⟩ := List.append_inj h rfl
      rw [hexByte_inj hhead, ih htail]

end Digest

namespace EndpointId

/-! ### Fields as bytes -/

theorem length_littleEndian (n value : ℕ) : (littleEndian n value).length = n := by
  rw [littleEndian, List.length_map, List.length_range]

theorem littleEndian_succ (n value : ℕ) :
    littleEndian (n + 1) value =
      littleEndian n value ++ [UInt8.ofNat (value / 256 ^ n % 256)] := by
  have hshift : value >>> (8 * n) = value / 256 ^ n := by
    rw [Nat.shiftRight_eq_div_pow, pow_mul]
    rfl
  rw [littleEndian, List.range_succ, List.map_append, List.map_singleton, hshift, littleEndian]

/-- The bytes of a number tell as much of it as there is room for. -/
theorem mod_eq_of_littleEndian_eq {n value value' : ℕ}
    (h : littleEndian n value = littleEndian n value') :
    value % 256 ^ n = value' % 256 ^ n := by
  induction n with
  | zero => rw [pow_zero, Nat.mod_one, Nat.mod_one]
  | succ n ih =>
    rw [littleEndian_succ, littleEndian_succ] at h
    obtain ⟨hlow, hhigh⟩ := List.append_inj' h rfl
    have hbyte := congrArg UInt8.toNat (List.singleton_inj.mp hhigh)
    rw [UInt8.toNat_ofNat', UInt8.toNat_ofNat', Nat.mod_mod, Nat.mod_mod] at hbyte
    rw [Nat.mod_pow_succ, Nat.mod_pow_succ, ih hlow, hbyte]

theorem bytes_inj {text text' : String} (h : bytes text = bytes text') : text = text' :=
  String.toByteArray_inj.mp (ByteArray.ext (Array.toList_inj.mp h))

/-- The length of a field fits into the eight bytes that it is written in. -/
def Measured (field : Option String) : Prop :=
  ∀ text, field = some text → text.utf8ByteSize < UInt64.size

theorem fieldBytes_ne_nil (field : Option String) : fieldBytes field ≠ [] := by
  cases field <;> exact List.cons_ne_nil _ _

/-- **A field is read back from the bytes that it begins**, whatever follows. -/
theorem fieldBytes_append_inj {field field' : Option String} (hfield : Measured field)
    (hfield' : Measured field') {rest rest' : List UInt8}
    (h : fieldBytes field ++ rest = fieldBytes field' ++ rest') :
    field = field' ∧ rest = rest' := by
  -- the first byte says whether the field is there
  cases field with
  | none =>
    cases field' with
    | none => exact ⟨rfl, (List.cons_eq_cons.mp h).2⟩
    | some text' => exact absurd (List.cons_eq_cons.mp h).1 (by decide)
  | some text =>
    cases field' with
    | none => exact absurd (List.cons_eq_cons.mp h).1 (by decide)
    | some text' =>
      simp only [fieldBytes, List.cons_append, List.append_assoc, List.cons.injEq,
        true_and] at h
      obtain ⟨hlength, htail⟩ := List.append_inj h
        ((length_littleEndian ..).trans (length_littleEndian ..).symm)
      have hsize : (bytes text).length = (bytes text').length := by
        have hlt : (bytes text).length < 256 ^ 8 := hfield text rfl
        have hlt' : (bytes text').length < 256 ^ 8 := hfield' text' rfl
        have hmod := mod_eq_of_littleEndian_eq hlength
        rwa [Nat.mod_eq_of_lt hlt, Nat.mod_eq_of_lt hlt'] at hmod
      obtain ⟨htext, hrest⟩ := List.append_inj htail hsize
      exact ⟨congrArg some (bytes_inj htext), hrest⟩

/-- **Fields are read back from their bytes**, one after the other. -/
theorem flatMap_fieldBytes_inj {fields fields' : List (Option String)}
    (hfields : ∀ f ∈ fields, Measured f) (hfields' : ∀ f ∈ fields', Measured f)
    (h : fields.flatMap fieldBytes = fields'.flatMap fieldBytes) : fields = fields' := by
  induction fields generalizing fields' with
  | nil =>
    cases fields' with
    | nil => rfl
    | cons f' fields' =>
      exact absurd (List.append_eq_nil_iff.mp h.symm).1 (fieldBytes_ne_nil f')
  | cons f fields ih =>
    cases fields' with
    | nil => exact absurd (List.append_eq_nil_iff.mp h).1 (fieldBytes_ne_nil f)
    | cons f' fields' =>
      obtain ⟨hhead, htail⟩ := fieldBytes_append_inj (hfields f List.mem_cons_self)
        (hfields' f' List.mem_cons_self) h
      rw [hhead, ih (fun g hg => hfields g (List.mem_cons_of_mem f hg))
        (fun g hg => hfields' g (List.mem_cons_of_mem f' hg)) htail]

/-! ### What an identity is made of -/

/-- What an identity is made of, field by field. -/
def fields (target : String) (c : Credentials) : List (Option String) :=
  [some target, c.apiKey, c.apiBase, c.proxy, c.authMethod, c.connectMode]

theorem material_eq (target : String) (c : Credentials) :
    material target c = (fields target c).flatMap fieldBytes := by
  simp only [material, fields, List.flatMap_cons, List.flatMap_nil, List.append_nil,
    List.append_assoc]

theorem fields_inj {target target' : String} {c c' : Credentials}
    (h : fields target c = fields target' c') : target = target' ∧ c = c' := by
  obtain ⟨apiKey, apiBase, proxy, authMethod, connectMode⟩ := c
  simp only [fields, List.cons.injEq, Option.some.injEq] at h
  obtain ⟨htarget, rfl, rfl, rfl, rfl, rfl, -⟩ := h
  exact ⟨htarget, rfl⟩

/-- The part of the digest that an identity shows. -/
def fingerprint (digest : List UInt8 → Digest) (target : String) (c : Credentials) :
    List UInt8 :=
  (digest (material target c)).toList.take 6

theorem length_fingerprint (digest : List UInt8 → Digest) (target : String)
    (c : Credentials) : (fingerprint digest target c).length = 6 := by
  rw [fingerprint, List.length_take, Vector.length_toList]
  rfl

/-- **Two identities are equal if they have the same target and show the same six bytes**,
and only then. -/
theorem deriveWith_eq_iff {digest : List UInt8 → Digest} {target target' : String}
    {c c' : Credentials} :
    deriveWith digest target c = deriveWith digest target' c' ↔
      target = target' ∧ fingerprint digest target c = fingerprint digest target' c' := by
  constructor
  · intro h
    have htext := congrArg (fun id => id.text.toList) h
    simp only [deriveWith, String.toList_append, String.toList_ofList] at htext
    -- there are as many digits on both sides, so the targets before them end at one place
    obtain ⟨htarget, hdigits⟩ := List.append_inj' htext (by
      change ((fingerprint digest target c).flatMap Digest.hexByte).length =
        ((fingerprint digest target' c').flatMap Digest.hexByte).length
      rw [Digest.length_flatMap_hexByte, Digest.length_flatMap_hexByte, length_fingerprint,
        length_fingerprint])
    exact ⟨String.toList_inj.mp (List.append_inj' htarget rfl).1,
      Digest.flatMap_hexByte_inj hdigits⟩
  · rintro ⟨rfl, hshown⟩
    unfold fingerprint at hshown
    rw [deriveWith, deriveWith, hshown]

/-- What the identities of two endpoints tell apart, under a digest. -/
structure Separates (digest : List UInt8 → Digest) (target target' : String)
    (c c' : Credentials) : Prop where
  /-- What is digested is the same for the same target and credentials alone. -/
  material_eq_iff : (∀ f ∈ fields target c, Measured f) →
    (∀ f ∈ fields target' c', Measured f) →
      (material target c = material target' c' ↔ target = target' ∧ c = c')
  /-- The identities are the same for the same target and the same start of the digest. -/
  identity_eq_iff : deriveWith digest target c = deriveWith digest target' c' ↔
    target = target' ∧ fingerprint digest target c = fingerprint digest target' c'
  /-- So are those of two endpoints under any names, with any rate and any field for the
  token limit. -/
  endpoint_eq_iff : ∀ name name' rpm rpm' field field',
    (Endpoint.ofTarget name target c rpm field).id =
        (Endpoint.ofTarget name' target' c' rpm' field').id ↔
      target = target' ∧
        fingerprint Digest.sha256 target c = fingerprint Digest.sha256 target' c'
  /-- Endpoints of the same target and credentials are one endpoint. -/
  shared : target = target' → c = c' → ∀ name name' rpm rpm' field field',
    (Endpoint.ofTarget name target c rpm field).id =
      (Endpoint.ofTarget name' target' c' rpm' field').id
  /-- Those of different targets never are, whatever the digest. -/
  apart : target ≠ target' → deriveWith digest target c ≠ deriveWith digest target' c'

end EndpointId

open EndpointId in
/-- **Identities tell apart what they should**, under any digest: every target, whatever
it looks like, and of the credentials all that the digest does. -/
theorem identity_separates (digest : List UInt8 → Digest) (target target' : String)
    (c c' : Credentials) : Separates digest target target' c c' where
  material_eq_iff := by
    intro hmeasured hmeasured'
    rw [material_eq, material_eq]
    constructor
    · intro h
      exact fields_inj (flatMap_fieldBytes_inj hmeasured hmeasured' h)
    · rintro ⟨rfl, rfl⟩
      rfl
  identity_eq_iff := deriveWith_eq_iff
  endpoint_eq_iff := fun _ _ _ _ _ _ => deriveWith_eq_iff
  shared := by
    rintro rfl rfl name name' rpm rpm' field field'
    rfl
  apart := fun hne h => hne (deriveWith_eq_iff.mp h).1

open EndpointId in
/-- A key that is missing and one that is empty are digested differently, so that only a
digest that runs into itself makes them one endpoint.  Not even that digest makes one
endpoint of a target and another that looks like its identity. -/
theorem identity_separates_lookalikes :
    let digest : List UInt8 → Digest := fun _ => Vector.replicate 32 0
    let keyless : Credentials := {}
    let emptyKey : Credentials := { apiKey := some "" }
    material "m" keyless ≠ material "m" emptyKey ∧
      deriveWith digest "m" keyless = deriveWith digest "m" emptyKey ∧
      deriveWith digest "m" keyless = ⟨"m#000000000000"⟩ ∧
      deriveWith digest "m#000000000000" keyless ≠ deriveWith digest "m" keyless := by
  intro digest keyless emptyKey
  have hkeys : Separates digest "m" "m" keyless emptyKey := identity_separates ..
  have htargets : Separates digest "m#000000000000" "m" keyless keyless :=
    identity_separates ..
  have hsize : "m".utf8ByteSize < UInt64.size := by decide
  have hmeasured : ∀ f ∈ fields "m" keyless, Measured f := by
    simp [fields, keyless, Measured, hsize]
  have hmeasured' : ∀ f ∈ fields "m" emptyKey, Measured f := by
    simp [fields, emptyKey, Measured, hsize]
  refine ⟨fun h => ?_, hkeys.identity_eq_iff.mpr ⟨rfl, rfl⟩, by decide +kernel,
    htargets.apart (by decide)⟩
  exact absurd ((hkeys.material_eq_iff hmeasured hmeasured').mp h).2 (by decide)

end Failover
