/-
# Boulder.SA.Registrations -- the `registrations` table

One row per account: its key (as JSON, with the key's SHA-256 digest in the unique column
`jwk_sha256`), contacts, agreement, initial IP, creation time and, once the column exists,
status. `GetRegistrationByKey` finds an account by the digest of a key, which is how the WFE
turns a signed request into an account. `core.KeyDigest` is the parameter `keyDigest`.

Errors that are plain Go errors rather than `berrors` values (a nil key, a nil IP, a duplicate
key in MySQL) are internal server errors here, which is how the RA and the WFE treat them.

The rows keep their shape under every write: `newRegistration_rows`, `updateRegistration_rows`
and `deactivateRegistration_keys` say which rows a write can add or change, and
`RegTables.Wf` (ids and digests unique, ids below the auto-increment counter) is kept by all of
them.
-/
import Mathlib.Data.List.Nodup
import Boulder.Core.Objects
import Boulder.Lib.GoNet

namespace Boulder.SA

open Boulder.Core Boulder.Jose Boulder.Lib.GoNet

/-- A row of `registrations` (`regModelv2`; `regModelv1` lacks the status). The status column
defaults to `valid`; `none` is the empty string. -/
structure RegModel where
  id : ℤ
  key : JsonWebKey
  keySHA256 : String
  contact : List String
  agreement : String
  initialIP : IP
  createdAt : Time
  status : Option AcmeStatus
  deriving DecidableEq, Repr

/-- The table, with its `AUTO_INCREMENT` counter. -/
structure RegTables where
  rows : List RegModel
  nextID : ℤ
  deriving DecidableEq, Repr

/-- An empty table. -/
def RegTables.init : RegTables := ⟨[], 1⟩

/-- What the schema and the counter guarantee: unique ids, all below the counter, and a unique
`jwk_sha256`. -/
structure RegTables.Wf (t : RegTables) : Prop where
  ids_below : ∀ r ∈ t.rows, r.id < t.nextID
  ids_nodup : (t.rows.map (·.id)).Nodup
  keys_nodup : (t.rows.map (·.keySHA256)).Nodup

section Registrations

variable (keyDigest : PublicKey → String)

/-! ## Between rows and registrations -/

/-- What a `BINARY(16)` column holds once the bytes are written: a shorter value is padded with
zero bytes on the right. -/
def binary16 (bs : NetIP) : IP :=
  BitVec.ofNat 128 (bytesToNat (bs ++ List.replicate (16 - bs.length) 0))

/-- `registrationToModel`. The IP is stored as `To16()`, which is nil for a slice of another
length. The status is only written while `AllowAccountDeactivation` is on; otherwise it is what
the row already has. -/
def registrationToModel (fs : Features) (r : Registration) (oldStatus : Option AcmeStatus) :
    Except BoulderError RegModel :=
  match r.key with
  | none => .error (internalServerError "Cannot compute digest of nil key")
  | some key =>
    if r.initialIP = [] then .error (internalServerError "initialIP was nil")
    else
      .ok ⟨r.id, key, keyDigest key.key, r.contact.getD [], r.agreement,
        binary16 ((to16 r.initialIP).getD []), r.createdAt,
        if fs.allowAccountDeactivation then r.status else oldStatus⟩

/-- `modelToRegistration`: the IP is the column's sixteen bytes; the status is read only while
`AllowAccountDeactivation` is on. -/
def modelToRegistration (fs : Features) (rm : RegModel) : Registration :=
  ⟨rm.id, some rm.key, some rm.contact, rm.agreement, natToBytes 16 rm.initialIP.toNat,
    rm.createdAt, if fs.allowAccountDeactivation then rm.status else none⟩

/-! ## Reads -/

/-- The row with a primary key. -/
def RegTables.byID (t : RegTables) (id : ℤ) : Option RegModel :=
  t.rows.find? (·.id = id)

/-- The row with a key digest. -/
def RegTables.byDigest (t : RegTables) (sha : String) : Option RegModel :=
  t.rows.find? (·.keySHA256 = sha)

/-- `GetRegistration`. -/
def getRegistration (t : RegTables) (fs : Features) (id : ℤ) : Except BoulderError Registration :=
  match t.byID id with
  | none => .error ⟨.notFound, "registration with ID '" ++ toString id ++ "' not found"⟩
  | some rm => .ok (modelToRegistration fs rm)

/-- `GetRegistrationByKey`. -/
def getRegistrationByKey (t : RegTables) (fs : Features) (key : JsonWebKey) :
    Except BoulderError Registration :=
  match t.byDigest (keyDigest key.key) with
  | none => .error ⟨.notFound,
      "no registrations with public key sha256 \"" ++ keyDigest key.key ++ "\""⟩
  | some rm => .ok (modelToRegistration fs rm)

/-! ## Writes -/

/-- MySQL's refusal of a second row with the same `jwk_sha256`. -/
def duplicateKey (sha : String) : BoulderError :=
  internalServerError ("Error 1062: Duplicate entry '" ++ sha ++ "' for key 'jwk_sha256'")

/-- `NewRegistration` at `now`: the row gets the next id, and the column default `valid` when
the status is not written. The id of the registration passed in is not used. -/
def newRegistration (t : RegTables) (fs : Features) (now : Time) (reg : Registration) :
    Except BoulderError (RegTables × Registration) :=
  match registrationToModel keyDigest fs { reg with createdAt := now } (some .valid) with
  | .error e => .error e
  | .ok rm =>
    if t.rows.any (·.keySHA256 = rm.keySHA256) then .error (duplicateKey rm.keySHA256)
    else
      let rm := { rm with id := t.nextID }
      .ok (⟨t.rows ++ [rm], t.nextID + 1⟩, modelToRegistration fs rm)

/-- The rows after an `UPDATE ... WHERE id = ?` with the row `rm`. -/
def replaceByID (id : ℤ) (rm : RegModel) (rows : List RegModel) : List RegModel :=
  rows.map fun r => if r.id = id then rm else r

/-- `UpdateRegistration`: every column of the row is rewritten from `reg`. -/
def updateRegistration (t : RegTables) (fs : Features) (reg : Registration) :
    Except BoulderError RegTables :=
  match t.byID reg.id with
  | none => .error ⟨.notFound, "registration with ID '" ++ toString reg.id ++ "' not found"⟩
  | some old =>
    match registrationToModel keyDigest fs reg old.status with
    | .error e => .error e
    | .ok rm =>
      if t.rows.any (fun r => r.id ≠ reg.id ∧ r.keySHA256 = rm.keySHA256) then
        .error (duplicateKey rm.keySHA256)
      else .ok { t with rows := replaceByID reg.id rm t.rows }

/-- `DeactivateRegistration`: `UPDATE ... SET status = deactivated WHERE status = valid AND
id = ?`, which is no error when no row matches. -/
def deactivateRegistration (t : RegTables) (id : ℤ) : RegTables :=
  { t with rows := t.rows.map fun r =>
      if r.status = some .valid ∧ r.id = id then { r with status := some .deactivated } else r }

/-! ## Counting by IP -/

/-- `incrementIP`: add `2^(128 - index)`, or give the highest address on overflow. -/
def incrementIP (ip : IP) (index : ℕ) : IP :=
  if ip.toNat + 2 ^ (128 - index) ≥ 2 ^ 128 then BitVec.allOnes 128
  else BitVec.ofNat 128 (ip.toNat + 2 ^ (128 - index))

/-- `To4() != nil` on a 16-byte address: ten zero bytes, then two `0xff`. -/
def isIPv4 (ip : IP) : Bool := ip.toNat / 2 ^ 32 = 0xffff

/-- `ipRange` on the 16-byte form `To16` gives: the address itself for IPv4, its /48 for IPv6;
the end is exclusive. -/
def ipRange (ip : IP) : IP × IP :=
  let maskLength := if isIPv4 ip then 128 else 48
  let beginIP := ip &&& (BitVec.allOnes 128 <<< (128 - maskLength))
  (beginIP, incrementIP beginIP maskLength)

/-- `CountRegistrationsByIP`: the rows created in `(earliest, latest]` from the range of `ip`.
An `ip` without a 16-byte form masks to a nil slice, which the driver binds as `NULL`, so no
row compares. -/
def countRegistrationsByIP (t : RegTables) (ip : NetIP) (earliest latest : Time) : ℤ :=
  match to16 ip with
  | none => 0
  | some ip16 =>
    let range := ipRange (binary16 ip16)
    (t.rows.countP fun r =>
      range.1 ≤ r.initialIP ∧ r.initialIP < range.2 ∧
        earliest < r.createdAt ∧ r.createdAt ≤ latest : ℕ)

/-! ## Lemmas about reads -/

@[simp] theorem modelToRegistration_id (fs : Features) (rm : RegModel) :
    (modelToRegistration fs rm).id = rm.id := rfl

@[simp] theorem modelToRegistration_key (fs : Features) (rm : RegModel) :
    (modelToRegistration fs rm).key = some rm.key := rfl

@[simp] theorem modelToRegistration_contact (fs : Features) (rm : RegModel) :
    (modelToRegistration fs rm).contact = some rm.contact := rfl

theorem RegTables.byID_mem {t : RegTables} {id : ℤ} {rm : RegModel} (h : t.byID id = some rm) :
    rm ∈ t.rows ∧ rm.id = id := by
  unfold byID at h
  exact ⟨List.mem_of_find?_eq_some h, by simpa using List.find?_some h⟩

theorem RegTables.byDigest_mem {t : RegTables} {sha : String} {rm : RegModel}
    (h : t.byDigest sha = some rm) : rm ∈ t.rows ∧ rm.keySHA256 = sha := by
  unfold byDigest at h
  exact ⟨List.mem_of_find?_eq_some h, by simpa using List.find?_some h⟩

/-- With unique ids, the row of an id is the one in the table. -/
theorem RegTables.byID_of_mem {t : RegTables} (hwf : t.Wf) {rm : RegModel} (h : rm ∈ t.rows) :
    t.byID rm.id = some rm := by
  match hb : t.byID rm.id with
  | none =>
    unfold byID at hb
    simpa using List.find?_eq_none.mp hb rm h
  | some r =>
    obtain ⟨hr, hid⟩ := byID_mem hb
    rw [List.inj_on_of_nodup_map hwf.ids_nodup hr h hid]

/-- What `GetRegistration` finds: the row with that id. -/
theorem getRegistration_eq_ok {t : RegTables} {fs : Features} {id : ℤ} {reg : Registration}
    (h : getRegistration t fs id = .ok reg) :
    ∃ rm ∈ t.rows, rm.id = id ∧ reg = modelToRegistration fs rm := by
  unfold getRegistration at h
  match hb : t.byID id with
  | none => simp [hb] at h
  | some rm =>
    simp only [hb, Except.ok.injEq] at h
    obtain ⟨hrm, hid⟩ := RegTables.byID_mem hb
    exact ⟨rm, hrm, hid, h.symm⟩

/-- What `GetRegistrationByKey` finds: the row holding the key's digest. -/
theorem getRegistrationByKey_eq_ok {t : RegTables} {fs : Features} {key : JsonWebKey}
    {reg : Registration} (h : getRegistrationByKey keyDigest t fs key = .ok reg) :
    ∃ rm ∈ t.rows, rm.keySHA256 = keyDigest key.key ∧ reg = modelToRegistration fs rm := by
  unfold getRegistrationByKey at h
  match hd : t.byDigest (keyDigest key.key) with
  | none => simp [hd] at h
  | some rm =>
    simp only [hd, Except.ok.injEq] at h
    obtain ⟨hmem, hsha⟩ := RegTables.byDigest_mem hd
    exact ⟨rm, hmem, hsha, h.symm⟩

/-- `GetRegistrationByKey` fails only with "not found", when no row holds the digest. -/
theorem getRegistrationByKey_eq_error {t : RegTables} {fs : Features} {key : JsonWebKey}
    {e : BoulderError} (h : getRegistrationByKey keyDigest t fs key = .error e) :
    e.type = .notFound ∧ t.byDigest (keyDigest key.key) = none := by
  unfold getRegistrationByKey at h
  match hd : t.byDigest (keyDigest key.key) with
  | none =>
    simp only [hd, Except.error.injEq] at h
    exact ⟨by rw [← h], rfl⟩
  | some rm => simp [hd] at h

/-! ## Lemmas about writes -/

theorem registrationToModel_eq_ok {fs : Features} {r : Registration} {old : Option AcmeStatus}
    {rm : RegModel} (h : registrationToModel keyDigest fs r old = .ok rm) :
    r.key = some rm.key ∧ rm.id = r.id ∧ rm.keySHA256 = keyDigest rm.key.key := by
  unfold registrationToModel at h
  match hk : r.key with
  | none => simp [hk] at h
  | some key =>
    simp only [hk] at h
    split at h
    · cases h
    · cases h
      exact ⟨rfl, rfl, rfl⟩

/-- A new registration adds one row, with the registration's key. -/
theorem newRegistration_rows {t t' : RegTables} {fs : Features} {now : Time}
    {reg reg' : Registration} (h : newRegistration keyDigest t fs now reg = .ok (t', reg')) :
    ∃ rm, t'.rows = t.rows ++ [rm] ∧ reg.key = some rm.key ∧ rm.id = t.nextID ∧
      rm.keySHA256 = keyDigest rm.key.key ∧ (∀ r ∈ t.rows, r.keySHA256 ≠ rm.keySHA256) ∧
      t'.nextID = t.nextID + 1 ∧ reg' = modelToRegistration fs rm := by
  unfold newRegistration at h
  match hm : registrationToModel keyDigest fs { reg with createdAt := now } (some .valid) with
  | .error e => simp [hm] at h
  | .ok rm =>
    obtain ⟨hkey, -, hsha⟩ := registrationToModel_eq_ok keyDigest hm
    simp only [hm] at h
    split at h
    · cases h
    · rename_i hdup
      simp only [Except.ok.injEq, Prod.mk.injEq] at h
      obtain ⟨rfl, rfl⟩ := h
      refine ⟨{ rm with id := t.nextID }, rfl, hkey, rfl, hsha, ?_, rfl, rfl⟩
      intro r hr heq
      exact hdup (List.any_eq_true.mpr ⟨r, hr, by simpa using heq⟩)

/-- An update rewrites the row of the registration's id, with the registration's key. -/
theorem updateRegistration_rows {t t' : RegTables} {fs : Features} {reg : Registration}
    (h : updateRegistration keyDigest t fs reg = .ok t') :
    ∃ rm, t' = { t with rows := replaceByID reg.id rm t.rows } ∧ reg.key = some rm.key ∧
      rm.id = reg.id ∧ rm.keySHA256 = keyDigest rm.key.key ∧
      (∀ r ∈ t.rows, r.id ≠ reg.id → r.keySHA256 ≠ rm.keySHA256) ∧
      ∃ old ∈ t.rows, old.id = reg.id := by
  unfold updateRegistration at h
  match hb : t.byID reg.id with
  | none => simp [hb] at h
  | some old =>
    simp only [hb] at h
    match hm : registrationToModel keyDigest fs reg old.status with
    | .error e => simp [hm] at h
    | .ok rm =>
      obtain ⟨hkey, hid, hsha⟩ := registrationToModel_eq_ok keyDigest hm
      simp only [hm] at h
      split at h
      · cases h
      · rename_i hdup
        cases h
        refine ⟨rm, rfl, hkey, hid, hsha, ?_, old, (RegTables.byID_mem hb).1,
          (RegTables.byID_mem hb).2⟩
        intro r hr hne heq
        exact hdup (List.any_eq_true.mpr ⟨r, hr, by simpa using ⟨hne, heq⟩⟩)

/-- An update of a stored account succeeds when the registration has a key and an IP and no other
account holds the key's digest. -/
theorem updateRegistration_ok {t : RegTables} {fs : Features} {reg : Registration}
    {key : JsonWebKey} (hrow : ∃ old ∈ t.rows, old.id = reg.id)
    (hkey : reg.key = some key) (hip : reg.initialIP ≠ [])
    (hfree : ∀ r ∈ t.rows, r.id ≠ reg.id → r.keySHA256 ≠ keyDigest key.key) :
    ∃ t', updateRegistration keyDigest t fs reg = .ok t' := by
  obtain ⟨old, hold, hid⟩ := hrow
  obtain ⟨o, hb⟩ : ∃ o, t.byID reg.id = some o :=
    Option.isSome_iff_exists.mp (List.find?_isSome.mpr ⟨old, hold, by simp [hid]⟩)
  simp only [updateRegistration, hb, registrationToModel, hkey, hip, ↓reduceIte, List.any_eq_true,
    decide_eq_true_eq]
  rw [if_neg]
  · exact ⟨_, rfl⟩
  · rintro ⟨r, hr, hne, heq⟩
    exact hfree r hr hne heq

theorem mem_replaceByID {id : ℤ} {rm r : RegModel} {rows : List RegModel}
    (h : r ∈ replaceByID id rm rows) : r ∈ rows ∨ r = rm := by
  obtain ⟨r₀, hr₀, rfl⟩ := List.mem_map.mp h
  by_cases hid : r₀.id = id
  · simp [hid]
  · simp [hid, hr₀]

theorem map_id_replaceByID {id : ℤ} {rm : RegModel} (hid : rm.id = id) (rows : List RegModel) :
    (replaceByID id rm rows).map (·.id) = rows.map (·.id) := by
  simp only [replaceByID, List.map_map]
  congr 1
  funext r
  by_cases h : r.id = id <;> simp [h, hid]

/-- The row that took the registration's id is in the table after the update. -/
theorem mem_replaceByID_self {id : ℤ} {rm : RegModel} {rows : List RegModel}
    (h : ∃ old ∈ rows, old.id = id) : rm ∈ replaceByID id rm rows := by
  obtain ⟨old, hold, hid⟩ := h
  exact List.mem_map.mpr ⟨old, hold, by simp [hid]⟩

/-- Deactivation changes statuses only. -/
theorem deactivateRegistration_keys (t : RegTables) (id : ℤ) :
    ∀ r ∈ (deactivateRegistration t id).rows, ∃ r₀ ∈ t.rows, r.key = r₀.key ∧ r.id = r₀.id ∧
      r.keySHA256 = r₀.keySHA256 := by
  intro r hr
  obtain ⟨r₀, hr₀, rfl⟩ := List.mem_map.mp hr
  refine ⟨r₀, hr₀, ?_⟩
  split <;> simp

/-- Deactivation changes statuses only: what a row gives apart from its status, the rows give
as before. -/
theorem map_deactivateRegistration {β : Type} (t : RegTables) (id : ℤ) (f : RegModel → β)
    (hf : ∀ r : RegModel, f { r with status := some .deactivated } = f r) :
    (deactivateRegistration t id).rows.map f = t.rows.map f := by
  simp only [deactivateRegistration, List.map_map]
  congr 1
  funext r
  simp only [Function.comp_apply]
  split
  · exact hf r
  · rfl

/-! ## The table invariant -/

theorem wf_init : RegTables.init.Wf where
  ids_below := by simp [RegTables.init]
  ids_nodup := by simp [RegTables.init]
  keys_nodup := by simp [RegTables.init]

theorem newRegistration_wf {t t' : RegTables} {fs : Features} {now : Time}
    {reg reg' : Registration} (hwf : t.Wf) (h : newRegistration keyDigest t fs now reg = .ok (t', reg')) :
    t'.Wf := by
  obtain ⟨rm, hrows, -, hid, -, hfresh, hnext, -⟩ := newRegistration_rows keyDigest h
  constructor
  · intro r hr
    rw [hrows] at hr
    rw [hnext]
    rcases List.mem_append.mp hr with hr | hr
    · have := hwf.ids_below r hr
      omega
    · rw [List.mem_singleton.mp hr, hid]
      omega
  · rw [hrows, List.map_append, List.nodup_append]
    refine ⟨hwf.ids_nodup, by simp, ?_⟩
    intro a ha b hb
    simp only [List.map_cons, List.map_nil, List.mem_singleton] at hb
    obtain ⟨r, hr, rfl⟩ := List.mem_map.mp ha
    have := hwf.ids_below r hr
    omega
  · rw [hrows, List.map_append, List.nodup_append]
    refine ⟨hwf.keys_nodup, by simp, ?_⟩
    intro a ha b hb
    simp only [List.map_cons, List.map_nil, List.mem_singleton] at hb
    obtain ⟨r, hr, rfl⟩ := List.mem_map.mp ha
    rw [hb]
    exact hfresh r hr

theorem updateRegistration_wf {t t' : RegTables} {fs : Features} {reg : Registration}
    (hwf : t.Wf) (h : updateRegistration keyDigest t fs reg = .ok t') : t'.Wf := by
  obtain ⟨rm, rfl, -, hid, -, hfresh, old, hold, hold_id⟩ := updateRegistration_rows keyDigest h
  constructor
  · intro r hr
    rcases mem_replaceByID hr with hr | rfl
    · exact hwf.ids_below r hr
    · rw [hid, ← hold_id]
      exact hwf.ids_below old hold
  · simpa [map_id_replaceByID hid] using hwf.ids_nodup
  · have hnd : t.rows.Nodup := List.Nodup.of_map (·.id) hwf.ids_nodup
    have hid_inj := List.inj_on_of_nodup_map hwf.ids_nodup
    have hkey_inj := List.inj_on_of_nodup_map hwf.keys_nodup
    simp only [replaceByID, List.map_map]
    refine List.Nodup.map_on (fun a ha b hb heq => ?_) hnd
    by_cases hra : a.id = reg.id <;> by_cases hrb : b.id = reg.id <;>
      simp only [Function.comp_apply, hra, hrb, if_true, if_false] at heq
    · exact hid_inj ha hb (hra.trans hrb.symm)
    · exact absurd heq.symm (hfresh b hb hrb)
    · exact absurd heq (hfresh a ha hra)
    · exact hkey_inj ha hb heq

theorem deactivateRegistration_wf {t : RegTables} (hwf : t.Wf) (id : ℤ) :
    (deactivateRegistration t id).Wf := by
  have hids := map_deactivateRegistration t id (·.id) fun _ => rfl
  have hkeys := map_deactivateRegistration t id (·.keySHA256) fun _ => rfl
  constructor
  · intro r hr
    obtain ⟨r₀, hr₀, -, hid, -⟩ := deactivateRegistration_keys t id r hr
    rw [hid]
    exact hwf.ids_below r₀ hr₀
  · rw [hids]
    exact hwf.ids_nodup
  · rw [hkeys]
    exact hwf.keys_nodup

end Registrations

/-! ## The IP range of a rate limit

`ipRange` is exact except at the top of the address space: the first address past the last /48
is `2 ^ 128`, which sixteen bytes cannot hold, and `incrementIP` gives the highest address
instead, so the exclusive end leaves that address out of its own /48. -/

theorem incrementIP_toNat (ip : IP) (index : ℕ) :
    (incrementIP ip index).toNat =
      if ip.toNat + 2 ^ (128 - index) ≥ 2 ^ 128 then 2 ^ 128 - 1
      else ip.toNat + 2 ^ (128 - index) := by
  unfold incrementIP
  split_ifs with hover
  · exact BitVec.toNat_allOnes
  · rw [BitVec.toNat_ofNat, Nat.mod_eq_of_lt (by omega)]

theorem ipRange_fst_toNat (x : IP) :
    (ipRange x).1.toNat = if isIPv4 x then x.toNat else x.toNat / 2 ^ 80 * 2 ^ 80 := by
  have hall : (BitVec.allOnes 128 <<< (128 - 128)).toNat = 2 ^ 128 - 2 ^ 0 := by decide
  have h48 : (BitVec.allOnes 128 <<< (128 - 48)).toNat = 2 ^ 128 - 2 ^ 80 := by decide
  unfold ipRange
  split_ifs with hv4
  · rw [BitVec.toNat_and, hall, land_two_pow_sub_two_pow x.isLt (by norm_num)]
    simp
  · rw [BitVec.toNat_and, h48, land_two_pow_sub_two_pow x.isLt (by norm_num)]

theorem ipRange_snd (x : IP) :
    (ipRange x).2 = incrementIP (ipRange x).1 (if isIPv4 x then 128 else 48) := rfl

/-- What `ipRange` covers: the address itself for IPv4, its /48 for IPv6, but for the highest
address when the /48 is the last one. -/
theorem ipRange_mem_iff (x y : IP) :
    ((ipRange x).1 ≤ y ∧ y < (ipRange x).2) ↔
      if isIPv4 x then y = x
      else y.toNat / 2 ^ 80 = x.toNat / 2 ^ 80 ∧
        ¬ (x.toNat / 2 ^ 80 = 2 ^ 48 - 1 ∧ y = BitVec.allOnes 128) := by
  have hx := x.isLt
  have hy := y.isLt
  rw [BitVec.le_def, BitVec.lt_def, ipRange_snd, incrementIP_toNat, ipRange_fst_toNat]
  by_cases hv4 : isIPv4 x = true
  · have hlow : x.toNat / 2 ^ 32 = 0xffff := by simpa [isIPv4] using hv4
    simp only [hv4, if_true, Nat.sub_self, Nat.pow_zero]
    rw [if_neg (by omega), ← BitVec.toNat_inj]
    omega
  · simp only [hv4, if_false, Bool.false_eq_true, show 128 - 48 = 80 from rfl]
    have hallOnes : (BitVec.allOnes 128).toNat = 2 ^ 128 - 1 := BitVec.toNat_allOnes
    rw [← BitVec.toNat_inj, hallOnes]
    split_ifs with htop <;> omega

/-- In the last /48 the highest address shares the prefix but falls outside the range. -/
theorem ipRange_misses_top_address (x : IP) (hv6 : isIPv4 x = false)
    (htop : x.toNat / 2 ^ 80 = 2 ^ 48 - 1) :
    (BitVec.allOnes 128).toNat / 2 ^ 80 = x.toNat / 2 ^ 80 ∧
      ¬ ((ipRange x).1 ≤ BitVec.allOnes 128 ∧ BitVec.allOnes 128 < (ipRange x).2) := by
  have hallOnes : (BitVec.allOnes 128).toNat = 2 ^ 128 - 1 := BitVec.toNat_allOnes
  have hx := x.isLt
  refine ⟨by rw [hallOnes, htop]; norm_num, ?_⟩
  rw [BitVec.le_def, BitVec.lt_def, ipRange_snd, incrementIP_toNat, ipRange_fst_toNat, hv6]
  simp only [if_false, Bool.false_eq_true, show 128 - 48 = 80 from rfl, hallOnes]
  rw [if_pos (by omega)]
  omega

theorem top_address_outside_range :
    isIPv4 (BitVec.allOnes 128) = false ∧ (BitVec.allOnes 128).toNat / 2 ^ 80 = 2 ^ 48 - 1 ∧
      (BitVec.allOnes 128).toNat / 2 ^ 80 = (BitVec.allOnes 128).toNat / 2 ^ 80 ∧
      ¬ ((ipRange (BitVec.allOnes 128)).1 ≤ BitVec.allOnes 128 ∧
        BitVec.allOnes 128 < (ipRange (BitVec.allOnes 128)).2) :=
  have hv6 : isIPv4 (BitVec.allOnes 128) = false := by decide
  have htop : (BitVec.allOnes 128).toNat / 2 ^ 80 = 2 ^ 48 - 1 := by decide
  ⟨hv6, htop, ipRange_misses_top_address (BitVec.allOnes 128) hv6 htop⟩

end Boulder.SA
