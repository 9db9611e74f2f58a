/-
# Boulder.SA.Certificates -- the certificate status table and `MarkCertificateRevoked`

The tables behind an issued certificate: `certificates`, of which only the serials are read
here, and `certificateStatus`, one row per serial (its primary key). `MarkCertificateRevoked`
runs in one transaction, so it is one function from the tables to new tables, and an error
leaves them unchanged.

Serials are checked with `core.ValidSerial` (`Boulder.Core.Util`), which its comment says
accepts hex strings of 32 to 36 characters. Its length test never fires, so a serial of any even
length, the empty one included, gets past every check and reaches the tables
(`short_serial_reaches_tables`).
-/
import Boulder.Core.Objects
import Boulder.Core.Util

namespace Boulder.SA

open Boulder.Core Boulder.Lib.GoStrings

/-! ## Tables -/

/-- The tables behind issued certificates. -/
structure CertTables where
  certificates : List String
  certificateStatus : List CertificateStatus
  deriving DecidableEq, Repr

/-- `serial` is the primary key of `certificateStatus`. -/
def CertTables.KeysUnique (t : CertTables) : Prop :=
  (t.certificateStatus.map (·.serial)).Nodup

/-- The `certificateStatus` row of a serial, as `dbMap.Get` finds it by primary key. -/
def CertTables.statusOf (t : CertTables) (serial : String) : Option CertificateStatus :=
  t.certificateStatus.find? (·.serial = serial)

/-- `GetCertificate`, reduced to whether the certificate exists. -/
def getCertificate (t : CertTables) (serial : String) : Except BoulderError Unit :=
  if !validSerial serial then .error (internalServerError ("Invalid certificate serial " ++ serial))
  else if serial ∈ t.certificates then .ok ()
  else .error ⟨.notFound, "certificate with serial \"" ++ serial ++ "\" not found"⟩

/-- `GetCertificate`, with the row it finds; `serial` is the table's primary key. -/
def getCertificateRow (rows : List Certificate) (serial : String) : Except BoulderError Certificate :=
  if !validSerial serial then .error (internalServerError ("Invalid certificate serial " ++ serial))
  else
    match rows.find? (·.serial = serial) with
    | some cert => .ok cert
    | none => .error ⟨.notFound, "certificate with serial \"" ++ serial ++ "\" not found"⟩

/-- `GetCertificateStatus`. A missing row is not an error: `dbMap.Get` answers nil, and the
method returns an empty status, here `none`. -/
def getCertificateStatus (t : CertTables) (serial : String) :
    Except BoulderError (Option CertificateStatus) :=
  if !validSerial serial then .error (internalServerError ("Invalid certificate serial " ++ serial))
  else .ok (t.statusOf serial)

/-- Every row with this serial, rewritten by `f`; the others as they were. -/
def updateRows (serial : String) (f : CertificateStatus → CertificateStatus)
    (rows : List CertificateStatus) : List CertificateStatus :=
  rows.map fun cs => if cs.serial = serial then f cs else cs

/-- `updateRows` on `certificateStatus`. -/
def CertTables.updateStatus (t : CertTables) (serial : String)
    (f : CertificateStatus → CertificateStatus) : CertTables :=
  { t with certificateStatus := updateRows serial f t.certificateStatus }

/-- `MarkCertificateRevoked` at `now`. The row is read in the transaction and written back
whole, revoked at `now` for `reasonCode`, whatever its status was. -/
def markCertificateRevoked (t : CertTables) (serial : String) (reasonCode : Reason) (now : Time) :
    Except BoulderError CertTables :=
  match getCertificate t serial, getCertificateStatus t serial with
  | .error _, _ =>
    .error (internalServerError ("Unable to mark certificate " ++ serial ++ " revoked: cert not found."))
  | _, .error _ =>
    .error (internalServerError
      ("Unable to mark certificate " ++ serial ++ " revoked: cert status not found."))
  | .ok (), .ok _ =>
    -- the transaction reads the row again
    match t.statusOf serial with
    | none => .error (internalServerError ("No certificate with serial " ++ serial))
    | some _ => .ok (t.updateStatus serial fun cs =>
        { cs with status := .revoked, revokedDate := now, revokedReason := reasonCode })

/-! ## Lemmas -/

/-- `getCertificate` is `getCertificateRow` with the row forgotten. -/
theorem getCertificate_eq_map (rows : List Certificate) (statuses : List CertificateStatus)
    (serial : String) :
    getCertificate ⟨rows.map (·.serial), statuses⟩ serial =
      (getCertificateRow rows serial).map fun _ => () := by
  unfold getCertificate getCertificateRow
  split
  · rfl
  · match h : rows.find? (·.serial = serial) with
    | some cert =>
      have hmem : serial ∈ rows.map (·.serial) :=
        List.mem_map.mpr ⟨cert, List.mem_of_find?_eq_some h, by simpa using List.find?_some h⟩
      simp [hmem, h, Except.map]
    | none =>
      have hmem : serial ∉ rows.map (·.serial) := by
        simpa using List.find?_eq_none.mp h
      simp [hmem, h, Except.map]

/-- A row `getCertificateRow` returns is in the table, under its serial. -/
theorem getCertificateRow_eq_ok {rows : List Certificate} {serial : String} {cert : Certificate}
    (h : getCertificateRow rows serial = .ok cert) : cert ∈ rows ∧ cert.serial = serial := by
  unfold getCertificateRow at h
  split at h
  · cases h
  · match hf : rows.find? (·.serial = serial) with
    | some c =>
      simp only [hf, Except.ok.injEq] at h
      subst h
      exact ⟨List.mem_of_find?_eq_some hf, by simpa using List.find?_some hf⟩
    | none => simp [hf] at h

section Update

variable (serial : String) {f : CertificateStatus → CertificateStatus}

variable (hf : ∀ cs, (f cs).serial = cs.serial)
include hf

theorem find?_updateRows_self (rows : List CertificateStatus) :
    (updateRows serial f rows).find? (·.serial = serial) = (rows.find? (·.serial = serial)).map f := by
  induction rows with
  | nil => rfl
  | cons cs rows ih =>
    by_cases h : cs.serial = serial
    · simp [updateRows, h, hf]
    · simpa [updateRows, h] using ih

theorem find?_updateRows_other {serial' : String} (hne : serial' ≠ serial)
    (rows : List CertificateStatus) :
    (updateRows serial f rows).find? (·.serial = serial') = rows.find? (·.serial = serial') := by
  induction rows with
  | nil => rfl
  | cons cs rows ih =>
    have hrest : (updateRows serial f rows).find? (·.serial = serial') =
        rows.find? (·.serial = serial') := ih
    by_cases h : cs.serial = serial
    · have h' : ¬ cs.serial = serial' := fun h' => hne (h'.symm.trans h)
      have hf' : ¬ (f cs).serial = serial' := by rw [hf]; exact h'
      rw [updateRows, List.map_cons, if_pos h, List.find?_cons_of_neg (by simpa using hf'),
        List.find?_cons_of_neg (by simpa using h')]
      exact hrest
    · rw [updateRows, List.map_cons, if_neg h]
      by_cases h' : cs.serial = serial'
      · rw [List.find?_cons_of_pos (by simpa using h'), List.find?_cons_of_pos (by simpa using h')]
      · rw [List.find?_cons_of_neg (by simpa using h'), List.find?_cons_of_neg (by simpa using h')]
        exact hrest

theorem map_serial_updateRows (rows : List CertificateStatus) :
    (updateRows serial f rows).map (·.serial) = rows.map (·.serial) := by
  induction rows with
  | nil => rfl
  | cons cs rows ih =>
    by_cases h : cs.serial = serial
    · simpa [updateRows, h, hf] using ih
    · simpa [updateRows, h] using ih

theorem statusOf_updateStatus_self (t : CertTables) :
    (t.updateStatus serial f).statusOf serial = (t.statusOf serial).map f :=
  find?_updateRows_self serial hf t.certificateStatus

theorem statusOf_updateStatus_other (t : CertTables) {serial' : String} (hne : serial' ≠ serial) :
    (t.updateStatus serial f).statusOf serial' = t.statusOf serial' :=
  find?_updateRows_other serial hf hne t.certificateStatus

theorem statusOf_updateStatus (t : CertTables) (serial' : String) :
    (t.updateStatus serial f).statusOf serial' =
      (t.statusOf serial').map fun cs => if serial = serial' then f cs else cs := by
  by_cases h : serial = serial'
  · subst h
    simp [statusOf_updateStatus_self serial hf]
  · rw [statusOf_updateStatus_other serial hf t (Ne.symm h)]
    simp [h]

/-- **Frame rule.** An update that keeps a column of the row it rewrites keeps that column in
every row the table reads back. -/
theorem map_statusOf_updateStatus {γ : Type} {g : CertificateStatus → γ}
    (hg : ∀ cs, g (f cs) = g cs) (t : CertTables) (serial' : String) :
    ((t.updateStatus serial f).statusOf serial').map g = (t.statusOf serial').map g := by
  rw [statusOf_updateStatus serial hf, Option.map_map]
  congr 1
  funext cs
  simp only [Function.comp_apply]
  split
  · exact hg cs
  · rfl

theorem keysUnique_updateStatus {t : CertTables} (ht : t.KeysUnique) :
    (t.updateStatus serial f).KeysUnique := by
  unfold CertTables.KeysUnique
  rw [show (t.updateStatus serial f).certificateStatus = updateRows serial f t.certificateStatus
    from rfl, map_serial_updateRows serial hf]
  exact ht

end Update

/-- `MarkCertificateRevoked` succeeds exactly on a valid serial with a certificate and a
status row, and then the row is revoked at `now` for `reasonCode`, its other columns kept. -/
theorem markCertificateRevoked_eq_ok {t t' : CertTables} {serial : String} {reasonCode : Reason}
    {now : Time} :
    markCertificateRevoked t serial reasonCode now = .ok t' ↔
      validSerial serial = true ∧ serial ∈ t.certificates ∧ (t.statusOf serial).isSome ∧
        t' = t.updateStatus serial fun cs =>
          { cs with status := .revoked, revokedDate := now, revokedReason := reasonCode } := by
  unfold markCertificateRevoked getCertificate getCertificateStatus
  by_cases hv : validSerial serial = true
  · by_cases hc : serial ∈ t.certificates
    · cases hs : t.statusOf serial with
      | none => simp [hv, hc]
      | some cs => simp [hv, hc, eq_comm]
    · simp [hv, hc]
  · simp [hv]

/-! ## Serials outside the documented syntax -/

/-- A hex serial shorter than 32 characters, if of even length, is not rejected: it passes
`ValidSerial`, `StringToSerial` goes on to scan it, `GetCertificate` looks it up and
`GetCertificateStatus` answers its row. -/
theorem short_serial_reaches_tables (t : CertTables) (serial : String)
    (hshort : serial.length < 32) (heven : serial.length % 2 = 0)
    (hhex : ∀ c ∈ serial.toList, isHexDigit c = true) :
    ¬ (32 ≤ serial.length ∧ serial.length ≤ 36) ∧ validSerial serial = true ∧
      stringToSerial serial = sscanfHex 36 serial ∧
      getCertificate t serial ≠ .error (internalServerError ("Invalid certificate serial " ++ serial)) ∧
      getCertificateStatus t serial = .ok (t.statusOf serial) := by
  have hvalid : validSerial serial = true := (validSerial_iff serial).mpr ⟨heven, hhex⟩
  refine ⟨by omega, hvalid, stringToSerial_of_valid hvalid, ?_, ?_⟩
  · unfold getCertificate
    split_ifs with hinvalid hmem
    · simp [hvalid] at hinvalid
    · intro h
      cases h
    · intro h
      cases h
  · simp [getCertificateStatus, hvalid]

theorem serial_00_reaches_tables :
    ¬ (32 ≤ "00".length ∧ "00".length ≤ 36) ∧ validSerial "00" = true ∧
      stringToSerial "00" = sscanfHex 36 "00" ∧
      getCertificate ⟨[], []⟩ "00" ≠ .error (internalServerError ("Invalid certificate serial " ++ "00")) ∧
      getCertificateStatus ⟨[], []⟩ "00" = .ok (CertTables.statusOf ⟨[], []⟩ "00") :=
  short_serial_reaches_tables ⟨[], []⟩ "00" (by decide) (by decide) (by simp [isHexDigit])

end Boulder.SA
