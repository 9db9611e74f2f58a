/-
# Boulder.RA.Registration -- creating and updating accounts

`NewRegistration` checks the account key against the RA's key policy, the registrations-per-IP
limit and the contacts, then stores the account. `UpdateRegistration` merges an update into the
stored account with `mergeUpdate`, and stores it only if something changed. `mergeUpdate` copies
contacts, the agreement and, while `AllowKeyRollover` is on, the key; it checks none of them,
so an update that carries a new key stores it without any key policy check
(`updateRegistration_key`). The flag `mergeUpdate` returns is exactly whether the agreement, the
key or the contacts, taken up to order, changed, and a second merge of the same update changes
nothing (`mergeUpdate_sound_idempotent`).

The library calls that are not translated are the fields of `Libraries`: the key digest, the
curve arithmetic, IP formatting, URL parsing of a contact, the e-mail check, which parses the
address and asks the DNS resolver for its domain, and, for the issuance path
(`Boulder.RA.NewCertificate`), `x509.ParseCertificate` and the formatting of a duration.
-/
import Boulder.Goodkey
import Boulder.RA.Limits
import Boulder.SA.Registrations

namespace Boulder.RA

open Boulder.Core Boulder.Jose Boulder.Goodkey Boulder.SA Boulder.Ratelimit Boulder.Lib.GoStrings

/-- The library calls of the RA. -/
structure Libraries where
  keyDigest : PublicKey → String
  curves : CurveArithmetic
  ipString : List UInt8 → String
  urlParse : String → Option (String × String)
  validateEmail : String → Except BoulderError Unit
  parseCertificate : DER → Except String X509Certificate
  durationString : Time → String

/-- The fields of `RegistrationAuthorityImpl` that the registration and issuance paths read. -/
structure RegistrationAuthorityImpl where
  keyPolicy : KeyPolicy
  maxContactsPerReg : ℕ
  rlPolicies : RateLimitConfig
  maxNames : ℕ
  forceCNFromSAN : Bool

/-- Go's message for a nil pointer dereference, which a handler goroutine turns into a failed
request. -/
def nilDereference : BoulderError :=
  internalServerError "runtime error: invalid memory address or nil pointer dereference"

section Registration

variable (lib : Libraries) (fs : Features)

/-! ## `mergeUpdate` -/

/-- `contactsEqual`, with its side effect: when both lists are there with the same length,
`sort.Strings` sorts both in place before the comparison. Returns the verdict and both lists as
they are afterwards. -/
def contactsEqual (r : Option (List String)) (other : List String) :
    Bool × Option (List String) × List String :=
  match r with
  | none => (false, none, other)
  | some rc =>
    if other.length ≠ rc.length then (false, some rc, other)
    else (sortStrings other = sortStrings rc, some (sortStrings rc), sortStrings other)

/-- The contact step of `mergeUpdate`: a list that is present replaces the base's unless the two
are equal once sorted. -/
def mergeContact (r : Registration) : Option (List String) → Registration × Bool
  | none => (r, false)
  | some ic =>
    match contactsEqual r.contact ic with
    | (true, rc, _) => ({ r with contact := rc }, false)
    | (false, _, ic) => ({ r with contact := some ic }, true)

/-- The agreement step of `mergeUpdate`. -/
def mergeAgreement (r : Registration) (agreement : String) : Registration × Bool :=
  if agreement.length > 0 ∧ agreement ≠ r.agreement then ({ r with agreement }, true)
  else (r, false)

/-- The key step of `mergeUpdate`, taken only while `AllowKeyRollover` is on. A base without a
key would be a nil dereference in Go; no caller passes one, and here it takes the new key. -/
def mergeKey (r : Registration) : Option JsonWebKey → Registration × Bool
  | none => (r, false)
  | some ik =>
    if fs.allowKeyRollover ∧ r.key.map (·.key) ≠ some ik.key then ({ r with key := some ik }, true)
    else (r, false)

/-- `mergeUpdate`: the merged registration, and whether anything changed. -/
def mergeUpdate (r input : Registration) : Registration × Bool :=
  let c := mergeContact r input.contact
  let a := mergeAgreement c.1 input.agreement
  let k := mergeKey fs a.1 input.key
  (k.1, c.2 || a.2 || k.2)

/-! ## Contacts -/

/-- One contact of `validateContacts`: a non-empty ASCII `mailto:` URL whose address checks. -/
def validateContact (contact : String) : Except BoulderError Unit :=
  if contact = "" then .error (malformedError "empty contact")
  else
    match lib.urlParse contact with
    | none => .error (malformedError "invalid contact")
    | some (scheme, address) =>
      if scheme ≠ "mailto" then
        .error (malformedError ("contact method " ++ scheme ++ " is not supported"))
      else if !isASCII contact then
        .error (malformedError ("contact email [" ++ contact ++ "] contains non-ASCII characters"))
      else lib.validateEmail address

/-- `validateContacts`. -/
def validateContacts (ra : RegistrationAuthorityImpl) : Option (List String) → Except BoulderError Unit
  | none => .ok ()
  | some [] => .ok ()
  | some contacts =>
    if ra.maxContactsPerReg > 0 ∧ contacts.length > ra.maxContactsPerReg then
      .error (malformedError ("too many contacts provided: " ++ toString contacts.length ++ " > " ++
        toString ra.maxContactsPerReg))
    else contacts.forM (validateContact lib)

/-! ## The RA methods -/

/-- `checkRegistrationLimit` as `NewRegistration` calls it: the SA counts the registrations from
the IP's range over the window ending at `now`. A nil IP prints as `<nil>`. -/
def registrationLimit (ra : RegistrationAuthorityImpl) (t : RegTables) (now : Time)
    (ip : List UInt8) : Except BoulderError Unit :=
  let limit := ra.rlPolicies.registrationsPerIP
  checkRegistrationLimit limit
    (.ok (countRegistrationsByIP t ip (limit.windowBegin now) now))
    (if ip = [] then "<nil>" else lib.ipString ip)

/-- `NewRegistration` at `now`. -/
def newRegistration (ra : RegistrationAuthorityImpl) (t : RegTables) (now : Time)
    (init : Registration) : Except BoulderError (RegTables × Registration) :=
  match init.key with
  | none => .error nilDereference
  | some key =>
    match ra.keyPolicy.goodKey lib.curves key.key with
    | .error err => .error (malformedError ("invalid public key: " ++ err.detail))
    | .ok () =>
      match registrationLimit lib ra t now init.initialIP with
      | .error e => .error e
      | .ok () =>
        let fresh : Registration := { Registration.empty with key := init.key, status := some .valid }
        let reg := { (mergeUpdate fs fresh init).1 with initialIP := init.initialIP }
        match validateContacts lib ra reg.contact with
        | .error e => .error e
        | .ok () =>
          match SA.newRegistration lib.keyDigest t fs now reg with
          | .error e => .error (internalServerError e.detail)
          | .ok r => .ok r

/-- `UpdateRegistration`: merge, and store only a changed registration. -/
def updateRegistration (ra : RegistrationAuthorityImpl) (t : RegTables) (base update : Registration) :
    Except BoulderError (RegTables × Registration) :=
  match mergeUpdate fs base update with
  | (base, false) => .ok (t, base)
  | (base, true) =>
    match validateContacts lib ra base.contact with
    | .error e => .error e
    | .ok () =>
      match SA.updateRegistration lib.keyDigest t fs base with
      | .error e => .error (internalServerError ("Could not update registration: " ++ e.detail))
      | .ok t' => .ok (t', base)

/-- `DeactivateRegistration`. -/
def deactivateRegistration (t : RegTables) (reg : Registration) : Except BoulderError RegTables :=
  if reg.status ≠ some .valid then
    .error (malformedError "only valid registrations can be deactivated")
  else .ok (SA.deactivateRegistration t reg.id)

/-! ## What `mergeUpdate` does to the key -/

/-- Each step of `mergeUpdate` changes its own field and no other. -/
theorem mergeContact_frame (r : Registration) (c : Option (List String)) :
    (mergeContact r c).1 = { r with contact := (mergeContact r c).1.contact } := by
  unfold mergeContact
  match c with
  | none => rfl
  | some ic =>
    simp only
    split <;> rfl

theorem mergeAgreement_frame (r : Registration) (a : String) :
    (mergeAgreement r a).1 = { r with agreement := (mergeAgreement r a).1.agreement } := by
  unfold mergeAgreement
  split <;> rfl

theorem mergeKey_frame (r : Registration) (k : Option JsonWebKey) :
    (mergeKey fs r k).1 = { r with key := (mergeKey fs r k).1.key } := by
  unfold mergeKey
  match k with
  | none => rfl
  | some ik =>
    simp only
    split <;> rfl

@[simp] theorem mergeContact_key (r : Registration) (c : Option (List String)) :
    (mergeContact r c).1.key = r.key := by
  rw [mergeContact_frame]

@[simp] theorem mergeContact_id (r : Registration) (c : Option (List String)) :
    (mergeContact r c).1.id = r.id := by
  rw [mergeContact_frame]

@[simp] theorem mergeAgreement_key (r : Registration) (a : String) :
    (mergeAgreement r a).1.key = r.key := by
  rw [mergeAgreement_frame]

@[simp] theorem mergeAgreement_id (r : Registration) (a : String) :
    (mergeAgreement r a).1.id = r.id := by
  rw [mergeAgreement_frame]

@[simp] theorem mergeKey_id (r : Registration) (k : Option JsonWebKey) :
    (mergeKey fs r k).1.id = r.id := by
  rw [mergeKey_frame]

@[simp] theorem mergeUpdate_id (r input : Registration) : (mergeUpdate fs r input).1.id = r.id := by
  simp [mergeUpdate]

/-- The key after `mergeUpdate`: the update's key, if rollover is on and the key differs;
otherwise the base's. -/
theorem mergeUpdate_key (r input : Registration) :
    (mergeUpdate fs r input).1.key =
      match input.key with
      | some ik => if fs.allowKeyRollover ∧ r.key.map (·.key) ≠ some ik.key then some ik else r.key
      | none => r.key := by
  rcases hk : input.key with _ | ik
  · simp [mergeUpdate, mergeKey, hk]
  · simp only [mergeUpdate, mergeKey, hk, mergeAgreement_key, mergeContact_key]
    by_cases hc : fs.allowKeyRollover = true ∧ r.key.map (·.key) ≠ some ik.key
    · rw [if_pos hc, if_pos hc]
    · rw [if_neg hc, if_neg hc, mergeAgreement_key, mergeContact_key]

/-- An update that carries the base's own key leaves the key as it is. -/
theorem mergeUpdate_key_of_same {r input : Registration} (h : input.key = r.key) :
    (mergeUpdate fs r input).1.key = r.key := by
  rw [mergeUpdate_key, h]
  match hk : r.key with
  | none => rfl
  | some k => simp

/-- While `AllowKeyRollover` is off the key never changes. -/
theorem mergeUpdate_key_of_off (hoff : fs.allowKeyRollover = false) (r input : Registration) :
    (mergeUpdate fs r input).1.key = r.key := by
  rw [mergeUpdate_key]
  match input.key with
  | none => rfl
  | some ik => simp [hoff]

/-- While `AllowKeyRollover` is on, a different key is taken, and the merge reports a change. -/
theorem mergeUpdate_of_new_key (hon : fs.allowKeyRollover = true) {r input : Registration}
    {ik : JsonWebKey} (hik : input.key = some ik) (hdiff : r.key.map (·.key) ≠ some ik.key) :
    (mergeUpdate fs r input).1.key = some ik ∧ (mergeUpdate fs r input).2 = true := by
  refine ⟨?_, ?_⟩
  · rw [mergeUpdate_key, hik]
    simp [hon, hdiff]
  · simp only [mergeUpdate, hik, mergeKey, mergeAgreement_key, mergeContact_key]
    simp [hon, hdiff]

/-- An update that carries only a key changes nothing but the key. -/
theorem mergeUpdate_key_only (r : Registration) (k : Option JsonWebKey) :
    (mergeUpdate fs r { Registration.empty with key := k }).1 = { r with key := (mergeKey fs r k).1.key } := by
  have hc : mergeContact r none = (r, false) := rfl
  have ha : mergeAgreement r "" = (r, false) := by simp [mergeAgreement]
  simp only [mergeUpdate, Registration.empty, hc, ha]
  match k with
  | none => rfl
  | some ik =>
    by_cases hk : fs.allowKeyRollover = true ∧ r.key.map (·.key) ≠ some ik.key
    · simp only [mergeKey, if_pos hk]
    · simp only [mergeKey, if_neg hk]

/-! ## `mergeUpdate` reports exactly what it changes

Contacts are compared as `Option.Rel List.Perm`: absent on both sides, or present on both with
the same strings counted with multiplicity, which is what sorting both lists and comparing them
decides. -/

theorem rel_perm_some_iff {x : List String} {o : Option (List String)} :
    Option.Rel List.Perm (some x) o ↔ ∃ l, o = some l ∧ x.Perm l := by
  cases o <;> simp

theorem rel_perm_refl (o : Option (List String)) : Option.Rel List.Perm o o := by
  cases o <;> simp

/-- `contactsEqual` decides whether the update's list holds the base's contacts; the lists it
hands back are the two lists, possibly sorted. -/
theorem contactsEqual_spec (rc : Option (List String)) (ic : List String) :
    ((contactsEqual rc ic).1 = true ↔ Option.Rel List.Perm (some ic) rc) ∧
      Option.Rel List.Perm (contactsEqual rc ic).2.1 rc ∧ (contactsEqual rc ic).2.2.Perm ic := by
  match rc with
  | none => simp [contactsEqual]
  | some rc =>
    by_cases hlen : ic.length ≠ rc.length
    · simp only [contactsEqual, if_pos hlen, Option.rel_some_some, List.Perm.refl, and_true,
        Bool.false_eq_true, false_iff]
      exact fun h => hlen h.length_eq
    · simp only [contactsEqual, if_neg hlen, Option.rel_some_some, decide_eq_true_eq]
      exact ⟨sortStrings_eq_iff_perm, perm_sortStrings rc, perm_sortStrings ic⟩

/-- The contact step puts in a permutation of the update's list, and reports no change exactly
when the update's list is a permutation of the base's. -/
theorem mergeContact_some (r : Registration) (ic : List String) :
    ∃ l, l.Perm ic ∧ (mergeContact r (some ic)).1 = { r with contact := some l } ∧
      ((mergeContact r (some ic)).2 = false ↔ Option.Rel List.Perm (some ic) r.contact) := by
  obtain ⟨hb, hrc, hic⟩ := contactsEqual_spec r.contact ic
  rcases h : contactsEqual r.contact ic with ⟨_ | _, rc', ic'⟩
  all_goals rw [h] at hb hrc hic; dsimp only at hb hrc hic
  · refine ⟨ic', hic, by simp only [mergeContact, h], ?_⟩
    simpa [mergeContact, h] using hb
  · obtain ⟨rc, hr, hperm⟩ := rel_perm_some_iff.mp (hb.mp rfl)
    rw [hr] at hrc
    cases rc' with
    | none => simp at hrc
    | some l =>
      have hl : l.Perm rc := Option.rel_some_some.mp hrc
      refine ⟨l, hl.trans hperm.symm, by simp only [mergeContact, h], ?_⟩
      simpa [mergeContact, h] using hb


@[simp] theorem mergeContact_agreement (r : Registration) (c : Option (List String)) :
    (mergeContact r c).1.agreement = r.agreement := by
  rw [mergeContact_frame]

/-- The contact step reports no change exactly when the contacts after it relate to the base's. -/
theorem mergeContact_snd_eq_false (r : Registration) (c : Option (List String)) :
    (mergeContact r c).2 = false ↔ Option.Rel List.Perm (mergeContact r c).1.contact r.contact := by
  match c with
  | none => simpa [mergeContact] using rel_perm_refl r.contact
  | some ic =>
    obtain ⟨l, hl, h, hsnd⟩ := mergeContact_some r ic
    rw [hsnd, h]
    simp only [rel_perm_some_iff]
    exact exists_congr fun l' => and_congr_right fun _ => ⟨hl.trans, hl.symm.trans⟩

/-- A contact step that finds the contacts an earlier step with the same update left reports no
change. -/
theorem mergeContact_snd_of_contact {r r' : Registration} {c : Option (List String)}
    (h : r'.contact = (mergeContact r c).1.contact) : (mergeContact r' c).2 = false := by
  match c with
  | none => rfl
  | some ic =>
    obtain ⟨l, hl, hr, -⟩ := mergeContact_some r ic
    obtain ⟨-, -, -, hsnd⟩ := mergeContact_some r' ic
    rw [hsnd, h, hr]
    exact Option.rel_some_some.mpr hl.symm

@[simp] theorem mergeAgreement_contact (r : Registration) (a : String) :
    (mergeAgreement r a).1.contact = r.contact := by
  rw [mergeAgreement_frame]

theorem mergeAgreement_agreement (r : Registration) (a : String) :
    (mergeAgreement r a).1.agreement = if a.length > 0 then a else r.agreement := by
  unfold mergeAgreement
  by_cases hlen : a.length > 0 <;> by_cases heq : a = r.agreement <;> simp [hlen, heq]

theorem mergeAgreement_snd_eq_false (r : Registration) (a : String) :
    (mergeAgreement r a).2 = false ↔ (mergeAgreement r a).1.agreement = r.agreement := by
  unfold mergeAgreement
  split
  · rename_i h
    simpa using h.2
  · simp

/-- An agreement step that finds the agreement an earlier step with the same update left reports
no change. -/
theorem mergeAgreement_snd_of_agreement {r r' : Registration} {a : String}
    (h : r'.agreement = (mergeAgreement r a).1.agreement) : (mergeAgreement r' a).2 = false := by
  rw [mergeAgreement_agreement] at h
  unfold mergeAgreement
  split_ifs at h with hlen
  · simp [h]
  · simp [hlen]

@[simp] theorem mergeKey_contact (r : Registration) (k : Option JsonWebKey) :
    (mergeKey fs r k).1.contact = r.contact := by
  rw [mergeKey_frame]

@[simp] theorem mergeKey_agreement (r : Registration) (k : Option JsonWebKey) :
    (mergeKey fs r k).1.agreement = r.agreement := by
  rw [mergeKey_frame]

theorem mergeKey_snd_eq_false (r : Registration) (k : Option JsonWebKey) :
    (mergeKey fs r k).2 = false ↔ (mergeKey fs r k).1.key.map (·.key) = r.key.map (·.key) := by
  match k with
  | none => simp [mergeKey]
  | some ik =>
    by_cases hc : fs.allowKeyRollover = true ∧ r.key.map (·.key) ≠ some ik.key
    · simp only [mergeKey, if_pos hc, Bool.true_eq_false, false_iff, Option.map_some]
      exact fun h => hc.2 h.symm
    · simp only [mergeKey, if_neg hc]

/-- The key after the key step is the update's whenever rollover is on. -/
theorem mergeKey_key_of_on (hon : fs.allowKeyRollover = true) (r : Registration) (ik : JsonWebKey) :
    (mergeKey fs r (some ik)).1.key.map (·.key) = some ik.key := by
  by_cases hc : fs.allowKeyRollover = true ∧ r.key.map (·.key) ≠ some ik.key
  · simp only [mergeKey, if_pos hc, Option.map_some]
  · simp only [mergeKey, if_neg hc]
    simpa [hon] using hc

/-- A key step that finds the key an earlier step with the same update left reports no change. -/
theorem mergeKey_snd_of_key {r r' : Registration} {k : Option JsonWebKey}
    (h : r'.key.map (·.key) = (mergeKey fs r k).1.key.map (·.key)) : (mergeKey fs r' k).2 = false := by
  match k with
  | none => rfl
  | some ik =>
    by_cases hc : fs.allowKeyRollover = true ∧ r'.key.map (·.key) ≠ some ik.key
    · exact absurd (h.trans (mergeKey_key_of_on fs hc.1 r ik)) hc.2
    · simp only [mergeKey, if_neg hc]

/-- **`mergeUpdate` is sound and idempotent.** It reports no change exactly when the merged
registration has the base's agreement, the base's public key and the base's contacts up to
order; an absent contact list and an empty agreement leave those fields alone, a present empty
list clears the contacts, and merging the same update again reports no change. -/
theorem mergeUpdate_sound_idempotent (r u : Registration) :
    ((mergeUpdate fs r u).2 = false ↔
      (mergeUpdate fs r u).1.agreement = r.agreement ∧
        (mergeUpdate fs r u).1.key.map (·.key) = r.key.map (·.key) ∧
        Option.Rel List.Perm (mergeUpdate fs r u).1.contact r.contact) ∧
    (u.contact = none → (mergeUpdate fs r u).1.contact = r.contact) ∧
    (u.agreement = "" → (mergeUpdate fs r u).1.agreement = r.agreement) ∧
    (u.contact = some [] → (mergeUpdate fs r u).1.contact = some []) ∧
    (mergeUpdate fs (mergeUpdate fs r u).1 u).2 = false := by
  let c := mergeContact r u.contact
  let a := mergeAgreement c.1 u.agreement
  let k := mergeKey fs a.1 u.key
  have hm : mergeUpdate fs r u = (k.1, c.2 || a.2 || k.2) := rfl
  have hcontact : k.1.contact = c.1.contact := by simp [k, a]
  have hagreement : k.1.agreement = a.1.agreement := by simp [k]
  have hkey : a.1.key = r.key := by simp [a, c]
  have hcagreement : c.1.agreement = r.agreement := by simp [c]
  rw [hm]
  refine ⟨?_, ?_, ?_, ?_, ?_⟩
  · have hc : c.2 = false ↔ Option.Rel List.Perm c.1.contact r.contact :=
      mergeContact_snd_eq_false r u.contact
    have ha : a.2 = false ↔ a.1.agreement = c.1.agreement := mergeAgreement_snd_eq_false c.1 u.agreement
    have hk : k.2 = false ↔ k.1.key.map (·.key) = a.1.key.map (·.key) :=
      mergeKey_snd_eq_false fs a.1 u.key
    simp only [Bool.or_eq_false_iff, hc, ha, hk, hcontact, hagreement, hkey, hcagreement]
    exact ⟨fun ⟨⟨hc, ha⟩, hk⟩ => ⟨ha, hk, hc⟩, fun ⟨ha, hk, hc⟩ => ⟨⟨hc, ha⟩, hk⟩⟩
  · intro hnone
    rw [hcontact]
    simp [c, hnone, mergeContact]
  · intro hempty
    rw [hagreement, mergeAgreement_agreement, hcagreement]
    simp [hempty]
  · intro hnil
    obtain ⟨l, hl, h, -⟩ := mergeContact_some r []
    rw [hcontact]
    simp only [c, hnil, h, List.perm_nil.mp hl]
  · let c' := mergeContact k.1 u.contact
    let a' := mergeAgreement c'.1 u.agreement
    have hc' : c'.2 = false := mergeContact_snd_of_contact hcontact
    have ha' : a'.2 = false := mergeAgreement_snd_of_agreement (r := c.1)
      (show c'.1.agreement = a.1.agreement by simp [c', hagreement])
    have hk' : (mergeKey fs a'.1 u.key).2 = false := mergeKey_snd_of_key fs (r := a.1)
      (show a'.1.key.map (·.key) = k.1.key.map (·.key) by simp [a', c'])
    show (c'.2 || a'.2 || (mergeKey fs a'.1 u.key).2) = false
    rw [hc', ha', hk']
    rfl

/-! ## What the RA methods store -/

/-- What `NewRegistration` went through: a key that passes the key policy, and the SA's
`NewRegistration` of the registration built from it. -/
theorem newRegistration_eq_ok {ra : RegistrationAuthorityImpl} {t t' : RegTables} {now : Time}
    {init reg : Registration} (h : newRegistration lib fs ra t now init = .ok (t', reg)) :
    ∃ key, init.key = some key ∧ ra.keyPolicy.goodKey lib.curves key.key = .ok () ∧
      ∃ built, built.key = some key ∧ SA.newRegistration lib.keyDigest t fs now built = .ok (t', reg) := by
  unfold newRegistration at h
  match hk : init.key with
  | none => simp [hk] at h
  | some key =>
    simp only [hk] at h
    match hg : ra.keyPolicy.goodKey lib.curves key.key with
    | .error _ => simp [hg] at h
    | .ok () =>
      simp only [hg] at h
      refine ⟨key, rfl, hg, ?_⟩
      split at h
      · cases h
      · split at h
        · cases h
        · split at h
          · cases h
          · rename_i r hsa
            cases h
            have hmerged := mergeUpdate_key_of_same fs
              (r := { Registration.empty with key := some key, status := some .valid }) hk
            exact ⟨_, by exact hmerged, hsa⟩

/-- After `NewRegistration`, every row is an old row or carries the new key, which passes the
key policy. -/
theorem newRegistration_rows {ra : RegistrationAuthorityImpl} {t t' : RegTables} {now : Time}
    {init reg : Registration} (h : newRegistration lib fs ra t now init = .ok (t', reg)) :
    ∃ key, init.key = some key ∧ ra.keyPolicy.goodKey lib.curves key.key = .ok () ∧
      ∀ r ∈ t'.rows, r ∈ t.rows ∨ r.key = key := by
  obtain ⟨key, hk, hg, built, hbuilt, hsa⟩ := newRegistration_eq_ok lib fs h
  obtain ⟨rm, hrows, hkey, -⟩ := SA.newRegistration_rows lib.keyDigest hsa
  refine ⟨key, hk, hg, fun r hr => ?_⟩
  rw [hrows] at hr
  rcases List.mem_append.mp hr with hr | hr
  · exact .inl hr
  · rw [List.mem_singleton.mp hr]
    exact .inr (Option.some.inj (hkey.symm.trans hbuilt))

/-- What `UpdateRegistration` did: nothing, when the merge changed nothing, or the SA's
`UpdateRegistration` of the merged registration. -/
theorem updateRegistration_eq_ok {ra : RegistrationAuthorityImpl} {t t' : RegTables}
    {base update reg : Registration}
    (h : updateRegistration lib fs ra t base update = .ok (t', reg)) :
    t' = t ∨ SA.updateRegistration lib.keyDigest t fs (mergeUpdate fs base update).1 = .ok t' := by
  unfold updateRegistration at h
  match hm : mergeUpdate fs base update with
  | (merged, false) =>
    simp only [hm, Except.ok.injEq, Prod.mk.injEq] at h
    exact .inl h.1.symm
  | (merged, true) =>
    simp only [hm] at h
    split at h
    · cases h
    · split at h
      · cases h
      · rename_i t'' hsa
        simp only [Except.ok.injEq, Prod.mk.injEq] at h
        obtain ⟨rfl, -⟩ := h
        exact .inr hsa

/-- After `UpdateRegistration`, every row is an old row or carries the merged key. -/
theorem updateRegistration_rows {ra : RegistrationAuthorityImpl} {t t' : RegTables}
    {base update reg : Registration}
    (h : updateRegistration lib fs ra t base update = .ok (t', reg)) :
    ∀ r ∈ t'.rows, r ∈ t.rows ∨ some r.key = (mergeUpdate fs base update).1.key := by
  rcases updateRegistration_eq_ok lib fs h with rfl | hsa
  · exact fun r hr => .inl hr
  · obtain ⟨rm, rfl, hkey, -⟩ := SA.updateRegistration_rows lib.keyDigest hsa
    intro r hr
    rcases mem_replaceByID hr with hr | rfl
    · exact .inl hr
    · exact .inr hkey.symm

/-- `NewRegistration` keeps the table well formed. -/
theorem newRegistration_wf {ra : RegistrationAuthorityImpl} {t t' : RegTables} {now : Time}
    {init reg : Registration} (hwf : t.Wf) (h : newRegistration lib fs ra t now init = .ok (t', reg)) :
    t'.Wf := by
  obtain ⟨_, -, -, _, -, hsa⟩ := newRegistration_eq_ok lib fs h
  exact SA.newRegistration_wf lib.keyDigest hwf hsa

/-- `UpdateRegistration` keeps the table well formed. -/
theorem updateRegistration_wf {ra : RegistrationAuthorityImpl} {t t' : RegTables}
    {base update reg : Registration} (hwf : t.Wf)
    (h : updateRegistration lib fs ra t base update = .ok (t', reg)) : t'.Wf := by
  rcases updateRegistration_eq_ok lib fs h with rfl | hsa
  · exact hwf
  · exact SA.updateRegistration_wf lib.keyDigest hwf hsa

/-- An update that brings a new key, while `AllowKeyRollover` is on, stores that key in the
account's row: nothing on this path consults the key policy. -/
theorem updateRegistration_key (hon : fs.allowKeyRollover = true) {ra : RegistrationAuthorityImpl}
    {t : RegTables} {base update : Registration} {ik : JsonWebKey} (hik : update.key = some ik)
    (hdiff : base.key.map (·.key) ≠ some ik.key)
    (hcontacts : validateContacts lib ra (mergeUpdate fs base update).1.contact = .ok ())
    (hsa : ∃ t', SA.updateRegistration lib.keyDigest t fs (mergeUpdate fs base update).1 = .ok t') :
    ∃ t' reg, updateRegistration lib fs ra t base update = .ok (t', reg) ∧
      ∃ r ∈ t'.rows, r.id = base.id ∧ r.key = ik := by
  obtain ⟨hkey, hchanged⟩ := mergeUpdate_of_new_key fs hon hik hdiff
  obtain ⟨t', ht'⟩ := hsa
  refine ⟨t', (mergeUpdate fs base update).1, ?_, ?_⟩
  · unfold updateRegistration
    match hm : mergeUpdate fs base update with
    | (merged, true) =>
      rw [hm] at hcontacts ht'
      simp [hcontacts, ht']
    | (merged, false) =>
      rw [hm] at hchanged
      cases hchanged
  · obtain ⟨rm, rfl, hrkey, hrid, -, -, hold⟩ := SA.updateRegistration_rows lib.keyDigest ht'
    refine ⟨rm, mem_replaceByID_self hold, by rw [hrid, mergeUpdate_id], ?_⟩
    exact Option.some.inj (hrkey.symm.trans hkey)

end Registration

end Boulder.RA
