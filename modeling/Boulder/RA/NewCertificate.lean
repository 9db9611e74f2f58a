/-
# Boulder.RA.NewCertificate -- issuing a certificate

`NewCertificate` checks the registration, verifies and normalises the CSR (`Boulder.CSR`),
refuses a CSR for the account's own key, checks the certificate rate limits
(`Boulder.RA.Limits`) and then that the account holds a valid, unexpired authorization for each
name (`checkAuthorizations`). It asks the CA for the certificate and, last, compares what came
back with the request (`MatchesCSR`).

`newCertificate_names_authorized` states what a certificate the RA returns has: its DNS names
are exactly the lowercased names of the CSR, each of which the policy authority accepts and the
account holds a valid authorization for. The common name is held to the CSR's only when the CSR
has one and `forceCNFromSAN` is off: for a CSR without one, `MatchesCSR` does not look at the
certificate's common name, so a CA that writes any name there passes
(`unrequested_common_name`).

The CA, the policy authority and the SA's counts are parameters; the SA's registrations and
authorizations are its tables.
-/
import Boulder.CSR
import Boulder.RA.Registration
import Boulder.SA.Authz
import Boulder.Lib.Loop

namespace Boulder.RA

open Boulder.Core Boulder.Jose Boulder.Goodkey Boulder.SA Boulder.Ratelimit Boulder.Lib.GoStrings
  Boulder.Lib.Loop

/-- A day, in nanoseconds. -/
def day : Time := 24 * 3600 * 1000000000

/-! ## Checking the authorizations -/

/-- The loop of `checkAuthorizations`: the names without an authorization or with an expired
one; an authorization without expiry is an error. -/
def authzBadNames (auths : AuthzMap) (now : Time) : List String → Except BoulderError (List String)
  | [] => .ok []
  | name :: rest =>
    match auths.get name with
    | none => (authzBadNames auths now rest).map (name :: ·)
    | some authz =>
      match authz.expires with
      | none => .error (internalServerError
          ("found an authorization with a nil Expires field: id " ++ authz.id))
      | some expires =>
        if expires < now then (authzBadNames auths now rest).map (name :: ·)
        else authzBadNames auths now rest

/-- `checkAuthorizations`: each name, lowercased, has a valid authorization of the registration
that has not expired. -/
def checkAuthorizations (authz : AuthzTables) (now : Time) (names : List String)
    (registration : Registration) : Except BoulderError Unit :=
  let names := names.map toLower
  match getValidAuthorizations authz registration.id names now with
  | .error e => .error e
  | .ok auths =>
    match authzBadNames auths now names with
    | .error e => .error e
    | .ok [] => .ok ()
    | .ok badNames => .error (unauthorizedError
        ("authorizations for these names not found or expired: " ++ join badNames ", "))

section Issuance

variable (lib : Libraries) (fs : Features) (ra : RegistrationAuthorityImpl) (pa : PolicyAuthority)
  (ca : CertificateAuthority) (sa : LimitsSA) (publicSuffixDomain : String → Option String)
  (issued : TotalIssued)

/-- `core.KeyDigestEquals`: false when a key is missing, as `KeyDigest` then fails. -/
def keyDigestEquals (j k : Option PublicKey) : Bool :=
  match j, k with
  | some j, some k => lib.keyDigest j = lib.keyDigest k
  | _, _ => false

/-- `MatchesCSR`: the certificate the CA returned is the one the normalised request asked for. -/
def matchesCSR (now : Time) (parsedCertificate : X509Certificate) (csr : CertificateRequest) :
    Except BoulderError Unit :=
  let hostNames := uniqueLowerNames (CSR.requestedNames csr)
  let subject := parsedCertificate.subject
  if !keyDigestEquals lib (some parsedCertificate.publicKey) csr.publicKey then
    .error (internalServerError "generated certificate public key doesn't match CSR public key")
  -- the common name is compared only when the request has one
  else if ra.forceCNFromSAN = false ∧ csr.subject.commonName ≠ "" ∧
      subject.commonName ≠ toLower csr.subject.commonName then
    .error (internalServerError "generated certificate CommonName doesn't match CSR CommonName")
  else if sortStrings parsedCertificate.dnsNames ≠ sortStrings hostNames then
    .error (internalServerError "generated certificate DNSNames don't match CSR DNSNames")
  else if parsedCertificate.ipAddresses ≠ csr.ipAddresses then
    .error (internalServerError "generated certificate IPAddresses don't match CSR IPAddresses")
  else if parsedCertificate.emailAddresses ≠ csr.emailAddresses then
    .error (internalServerError
      "generated certificate EmailAddresses don't match CSR EmailAddresses")
  else if subject.country ≠ [] ∨ subject.organization ≠ [] ∨ subject.organizationalUnit ≠ [] ∨
      subject.locality ≠ [] ∨ subject.province ≠ [] ∨ subject.streetAddress ≠ [] ∨
      subject.postalCode ≠ [] then
    .error (internalServerError
      "generated certificate Subject contains fields other than CommonName, or SerialNumber")
  else if now - parsedCertificate.notBefore > day then
    .error (internalServerError ("generated certificate is back dated " ++
      lib.durationString (now - parsedCertificate.notBefore)))
  else if !parsedCertificate.basicConstraintsValid then
    .error (internalServerError "generated certificate doesn't have basic constraints set")
  else if parsedCertificate.isCA then
    .error (internalServerError "generated certificate can sign other certificates")
  else if parsedCertificate.extKeyUsage ≠ [.serverAuth, .clientAuth] then
    .error (internalServerError "generated certificate doesn't have correct key usage extensions")
  else .ok ()

/-- `NewCertificate` at `now`, for the request `req` of registration `regID`. The CSR is
normalised in place by `VerifyCSR`; the CA and `MatchesCSR` see the normalised one. -/
def newCertificate (t : RegTables) (authz : AuthzTables) (now : Time) (req : CertificateRequest)
    (regID : ℤ) : Except BoulderError Certificate :=
  if regID ≤ 0 then .error (malformedError ("invalid registration ID: " ++ toString regID))
  else
    match getRegistration t fs regID with
    | .error e => .error e
    | .ok registration =>
      match CSR.verifyCSR lib.curves req ra.maxNames ra.keyPolicy pa ra.forceCNFromSAN with
      -- the message becomes a format string with no arguments
      | (_, .error err) => .error (malformedError (sprintfNoArgs err))
      | (csr, .ok ()) =>
        let names := csr.dnsNames
        if names = [] then .error (unauthorizedError "CSR has no names in it")
        else if keyDigestEquals lib csr.publicKey (registration.key.map (·.key)) then
          .error (malformedError "certificate public key must be different than account key")
        else
          match checkLimits ra.rlPolicies sa publicSuffixDomain issued now names registration.id with
          | .error e => .error e
          | .ok () =>
            match checkAuthorizations authz now names registration with
            | .error e => .error e
            | .ok () =>
              match ca.issueCertificate csr regID with
              | .error e => .error e
              | .ok cert =>
                match lib.parseCertificate cert.der with
                | .error err =>
                  .error (internalServerError ("failed to parse certificate: " ++ err))
                | .ok parsedCertificate =>
                  match matchesCSR lib ra now parsedCertificate csr with
                  | .error e => .error e
                  | .ok () => .ok cert

end Issuance

/-! ## What the checks guarantee -/

/-- No bad name: every name has an authorization with an expiry that has not passed. -/
theorem authzBadNames_eq_nil {auths : AuthzMap} {now : Time} {names : List String}
    (h : authzBadNames auths now names = .ok []) :
    ∀ name ∈ names, ∃ a e, auths.get name = some a ∧ a.expires = some e ∧ ¬ e < now := by
  induction names with
  | nil => simp
  | cons name rest ih =>
    unfold authzBadNames at h
    have hcons : ∀ r : Except BoulderError (List String), r.map (name :: ·) ≠ .ok [] := by
      intro r
      cases r <;> simp [Except.map]
    match hg : auths.get name with
    | none => exact absurd (by simpa [hg] using h) (hcons _)
    | some a =>
      match he : a.expires with
      | none => simp [hg, he] at h
      | some e =>
        simp only [hg, he] at h
        split at h
        · exact absurd h (hcons _)
        · rename_i hlt
          intro n hn
          rcases List.mem_cons.mp hn with rfl | hn
          · exact ⟨a, e, hg, he, hlt⟩
          · exact ih h n hn

/-- What `checkAuthorizations` guarantees for each name: a stored authorization of the
registration for the lowercased name, valid and unexpired. -/
theorem checkAuthorizations_eq_ok {authz : AuthzTables} {now : Time} {names : List String}
    {registration : Registration} (h : checkAuthorizations authz now names registration = .ok ()) :
    ∀ name ∈ names, ∃ a ∈ authz.authz, a.registrationID = registration.id ∧
      a.identifier = ⟨.dns, toLower name⟩ ∧ a.status = .valid ∧ expiresAfter a now = true := by
  unfold checkAuthorizations at h
  match hv : getValidAuthorizations authz registration.id (names.map toLower) now with
  | .error _ => simp [hv] at h
  | .ok auths =>
    simp only [hv] at h
    match hb : authzBadNames auths now (names.map toLower) with
    | .error _ => simp [hb] at h
    | .ok (_ :: _) => simp [hb] at h
    | .ok [] =>
      intro name hname
      obtain ⟨a, -, hget, -, -⟩ :=
        authzBadNames_eq_nil hb (toLower name) (List.mem_map_of_mem hname)
      obtain ⟨hmem, hvalid, htype, hvalue⟩ := getValidAuthorizations_get hv hget
      obtain ⟨hreg, hexp, -, hstatus⟩ := validFor_eq_true.mp hvalid
      exact ⟨a, hmem, hreg, identifier_eq_dns_iff.mpr ⟨htype, hvalue⟩, hstatus, hexp⟩

section Issuance

variable {lib : Libraries} {fs : Features} {ra : RegistrationAuthorityImpl} {pa : PolicyAuthority}
  {ca : CertificateAuthority} {sa : LimitsSA} {publicSuffixDomain : String → Option String}
  {issued : TotalIssued}

/-- What `MatchesCSR` demands of the certificate. -/
structure Matches (lib : Libraries) (ra : RegistrationAuthorityImpl) (now : Time)
    (parsedCertificate : X509Certificate) (csr : CertificateRequest) : Prop where
  publicKey : keyDigestEquals lib (some parsedCertificate.publicKey) csr.publicKey = true
  commonName : ra.forceCNFromSAN = false → csr.subject.commonName ≠ "" →
    parsedCertificate.subject.commonName = toLower csr.subject.commonName
  dnsNames : sortStrings parsedCertificate.dnsNames =
    sortStrings (uniqueLowerNames (CSR.requestedNames csr))
  ipAddresses : parsedCertificate.ipAddresses = csr.ipAddresses
  emailAddresses : parsedCertificate.emailAddresses = csr.emailAddresses
  subject : parsedCertificate.subject.country = [] ∧ parsedCertificate.subject.organization = [] ∧
    parsedCertificate.subject.organizationalUnit = [] ∧ parsedCertificate.subject.locality = [] ∧
    parsedCertificate.subject.province = [] ∧ parsedCertificate.subject.streetAddress = [] ∧
    parsedCertificate.subject.postalCode = []
  notBackdated : now - parsedCertificate.notBefore ≤ day
  basicConstraints : parsedCertificate.basicConstraintsValid = true
  notCA : parsedCertificate.isCA = false
  extKeyUsage : parsedCertificate.extKeyUsage = [.serverAuth, .clientAuth]

/-- **`MatchesCSR` passes exactly when the certificate `Matches`.** -/
theorem matchesCSR_eq_ok {now : Time} {parsed : X509Certificate} {csr : CertificateRequest} :
    matchesCSR lib ra now parsed csr = .ok () ↔ Matches lib ra now parsed csr := by
  unfold matchesCSR
  simp only [ite_error_eq_ok, and_true]
  constructor
  · rintro ⟨h1, h2, h3, h4, h5, h6, h7, h8, h9, h10⟩
    exact ⟨by simpa using h1, fun hf hcn => by simpa [hf, hcn] using h2, by simpa using h3,
      by simpa using h4, by simpa using h5, by simpa using h6, not_lt.mp h7, by simpa using h8,
      by simpa using h9, by simpa using h10⟩
  · intro h
    refine ⟨by simp [h.publicKey], ?_, by simp [h.dnsNames], by simp [h.ipAddresses],
      by simp [h.emailAddresses], by simp [h.subject], not_lt.mpr h.notBackdated,
      by simp [h.basicConstraints], by simp [h.notCA], by simp [h.extKeyUsage]⟩
    rintro ⟨hf, hne, hdiff⟩
    exact hdiff (h.commonName hf hne)

/-- What a certificate `NewCertificate` returns went through, stage by stage. -/
theorem newCertificate_eq_ok {t : RegTables} {authz : AuthzTables} {now : Time}
    {req : CertificateRequest} {regID : ℤ} {cert : Certificate}
    (h : newCertificate lib fs ra pa ca sa publicSuffixDomain issued t authz now req regID = .ok cert) :
    ∃ registration parsed, getRegistration t fs regID = .ok registration ∧
      CSR.checkCSR lib.curves (CSR.normalizeCSR req ra.forceCNFromSAN) ra.maxNames ra.keyPolicy pa =
        .ok () ∧
      checkAuthorizations authz now (CSR.normalizeCSR req ra.forceCNFromSAN).dnsNames registration =
        .ok () ∧
      lib.parseCertificate cert.der = .ok parsed ∧
      matchesCSR lib ra now parsed (CSR.normalizeCSR req ra.forceCNFromSAN) = .ok () := by
  unfold newCertificate at h
  obtain ⟨-, h⟩ := ite_error_eq_ok.mp h
  obtain ⟨registration, hr⟩ : ∃ r, getRegistration t fs regID = .ok r := by
    cases hr : getRegistration t fs regID with
    | error _ => simp [hr] at h
    | ok r => exact ⟨r, rfl⟩
  simp only [hr] at h
  simp only [CSR.verifyCSR] at h
  generalize CSR.normalizeCSR req ra.forceCNFromSAN = csr at h ⊢
  have hc : CSR.checkCSR lib.curves csr ra.maxNames ra.keyPolicy pa = .ok () := by
    cases hc : CSR.checkCSR lib.curves csr ra.maxNames ra.keyPolicy pa with
    | error _ => simp [hc] at h
    | ok _ => rfl
  simp only [hc, ite_error_eq_ok] at h
  obtain ⟨-, -, h⟩ := h
  have hl : checkLimits ra.rlPolicies sa publicSuffixDomain issued now csr.dnsNames
      registration.id = .ok () := by
    cases hl : checkLimits ra.rlPolicies sa publicSuffixDomain issued now csr.dnsNames
        registration.id with
    | error _ => simp [hl] at h
    | ok _ => rfl
  simp only [hl] at h
  have ha : checkAuthorizations authz now csr.dnsNames registration = .ok () := by
    cases ha : checkAuthorizations authz now csr.dnsNames registration with
    | error _ => simp [ha] at h
    | ok _ => rfl
  simp only [ha] at h
  obtain ⟨issuedCert, hi⟩ : ∃ c, ca.issueCertificate csr regID = .ok c := by
    cases hi : ca.issueCertificate csr regID with
    | error _ => simp [hi] at h
    | ok c => exact ⟨c, rfl⟩
  simp only [hi] at h
  obtain ⟨parsed, hp⟩ : ∃ p, lib.parseCertificate issuedCert.der = .ok p := by
    cases hp : lib.parseCertificate issuedCert.der with
    | error _ => simp [hp] at h
    | ok p => exact ⟨p, rfl⟩
  simp only [hp] at h
  have hm : matchesCSR lib ra now parsed csr = .ok () := by
    cases hm : matchesCSR lib ra now parsed csr with
    | error _ => simp [hm] at h
    | ok _ => rfl
  simp only [hm, Except.ok.injEq] at h
  subst h
  exact ⟨registration, parsed, hr, hc, ha, hp, hm⟩

/-- **Issued names are requested, allowed and authorized.** A certificate `NewCertificate`
returns carries as DNS names exactly the lowercased DNS names and common name of the CSR; the
policy authority accepts each, and the SA holds for each a valid authorization of the requesting
registration that expires after `now`. While `forceCNFromSAN` is off, a CSR with a common name
gets that name, lowercased, as the certificate's common name, which is then one of its DNS
names. -/
theorem newCertificate_names_authorized {t : RegTables} {authz : AuthzTables} {now : Time}
    {req : CertificateRequest} {regID : ℤ} {cert : Certificate}
    (h : newCertificate lib fs ra pa ca sa publicSuffixDomain issued t authz now req regID = .ok cert) :
    ∃ parsed, lib.parseCertificate cert.der = .ok parsed ∧
      (∀ d, d ∈ parsed.dnsNames ↔ d ∈ (CSR.requestedNames req).map toLower) ∧
      (∀ d ∈ parsed.dnsNames, pa.willingToIssue ⟨.dns, d⟩ = .ok () ∧
        ∃ a ∈ authz.authz, a.registrationID = regID ∧ a.identifier = ⟨.dns, d⟩ ∧
          a.status = .valid ∧ expiresAfter a now = true) ∧
      (ra.forceCNFromSAN = false → req.subject.commonName ≠ "" →
        parsed.subject.commonName = toLower req.subject.commonName ∧
          parsed.subject.commonName ∈ parsed.dnsNames) := by
  obtain ⟨registration, parsed, hr, hc, ha, hp, hm⟩ := newCertificate_eq_ok h
  set csr := CSR.normalizeCSR req ra.forceCNFromSAN with hcsr
  have hacc := CSR.checkCSR_eq_ok.mp hc
  have hmatch := matchesCSR_eq_ok.mp hm
  have hid : registration.id = regID := by
    obtain ⟨rm, -, hrm, rfl⟩ := getRegistration_eq_ok hr
    simpa using hrm
  have hnames : ∀ d, d ∈ parsed.dnsNames ↔ d ∈ csr.dnsNames := fun d => by
    rw [← mem_sortStrings, hmatch.dnsNames, mem_sortStrings, CSR.mem_requestedNames_normalizeCSR]
  have hrequested : ∀ d, d ∈ csr.dnsNames ↔ d ∈ (CSR.requestedNames req).map toLower := fun d => by
    rw [hcsr, CSR.normalizeCSR_dnsNames, mem_uniqueLowerNames]
  refine ⟨parsed, hp, fun d => (hnames d).trans (hrequested d), ?_, ?_⟩
  · intro d hd
    have hd' := (hnames d).mp hd
    obtain ⟨a, ha, hreg, hident, hstatus, hexp⟩ := checkAuthorizations_eq_ok ha d hd'
    have hlower : toLower d = d :=
      toLower_of_mem_uniqueLowerNames (by rwa [hcsr, CSR.normalizeCSR_dnsNames] at hd')
    refine ⟨hacc.willing d hd', a, ha, by rw [hreg, hid], by rw [hident, hlower], hstatus, hexp⟩
  · intro hf hne
    have hcn : csr.subject.commonName = toLower req.subject.commonName :=
      CSR.normalizeCSR_commonName _ hne
    have hcsrne : csr.subject.commonName ≠ "" := by
      rw [hcn]
      exact fun h0 => hne (toLower_eq_empty.mp h0)
    have hparsed : parsed.subject.commonName = toLower req.subject.commonName := by
      rw [hmatch.commonName hf hcsrne, hcn, toLower_toLower]
    refine ⟨hparsed, (hnames _).mpr ?_⟩
    rw [hparsed]
    exact (hrequested _).mpr (List.mem_map_of_mem (by simp [CSR.requestedNames, hne]))

end Issuance

/-! ## A certificate with a common name nobody asked for -/

/-- The key of the CSRs below, on P-256. -/
def csrKey : PublicKey := .ecdsa .p256 5 6

/-- The account key of registration 1, on P-256. -/
def subscriberKey : JsonWebKey := ⟨.ecdsa .p256 3 4, ""⟩

/-- What the CA's certificate parses to: the CSR's key and name, and `commonName`. -/
def issuedCertificate (commonName : String) : X509Certificate :=
  { serialNumber := 1, publicKey := csrKey, dnsNames := ["example.com"],
    subject := { commonName := commonName }, notBefore := 100, basicConstraintsValid := true,
    extKeyUsage := [.serverAuth, .clientAuth] }

/-- Libraries whose curve arithmetic accepts every point below `2^256` as of order 7, whose key
digest is an injective encoding, and whose parser knows two certificates: `[1]` with the
common name `example.com`, `[2]` with `evil.example`. -/
def issuanceLibraries : Libraries where
  keyDigest
    | .rsa n e => "rsa:" ++ toString n ++ ":" ++ toString e
    | .ecdsa c x y => c.name ++ ":" ++ toString x ++ ":" ++ toString y
  curves := ⟨fun _ => 2 ^ 256, fun _ => 7, fun _ _ _ => true, fun _ _ _ _ => (0, 0)⟩
  ipString ip := toString ip
  urlParse _ := none
  validateEmail _ := .ok ()
  parseCertificate der :=
    if der = [1] then .ok (issuedCertificate "example.com")
    else if der = [2] then .ok (issuedCertificate "evil.example")
    else .error "x509: malformed certificate"
  durationString d := toString d ++ "ns"

/-- An RA with the default key policy, no rate limit, at most 100 names, and the common name
left as the CSR has it. -/
def issuanceRA : RegistrationAuthorityImpl :=
  let off : RateLimitPolicy := ⟨0, 0, [], []⟩
  ⟨newKeyPolicy, 0, ⟨off, off, off, off, off, off⟩, 100, false⟩

/-- A policy authority that issues for `example.com` only. -/
def issuancePA : PolicyAuthority :=
  ⟨fun ident => if ident = ⟨.dns, "example.com"⟩ then .ok ()
    else .error ⟨.rejectedIdentifier, "Policy forbids issuing for name"⟩⟩

/-- A CA that answers every request with the certificate `der`. -/
def issuingCA (der : DER) : CertificateAuthority :=
  ⟨fun _ regID => .ok ⟨regID, serialToString 1, der⟩⟩

/-- SA counts for limits that are all off. -/
def noCounts : LimitsSA := ⟨fun _ _ _ => .ok [], fun _ => .ok false, fun _ _ => .ok 0⟩

/-- Registration 1 holds `subscriberKey`. -/
def issuanceRegistrations : RegTables :=
  ⟨[⟨1, subscriberKey, issuanceLibraries.keyDigest subscriberKey.key, [], "", 0, 100,
    some .valid⟩], 2⟩

/-- A valid authorization of registration 1 for `example.com`, expiring at instant 1000. -/
def validAuthz : Authorization :=
  { id := "a1", identifier := ⟨.dns, "example.com"⟩, registrationID := 1, status := .valid,
    expires := some 1000, challenges := [], combinations := [] }

/-- The SA's authorizations: `validAuthz` alone. -/
def issuanceAuthz : AuthzTables := ⟨[], [validAuthz], []⟩

/-- A CSR for `example.com` signed by `csrKey`, with the given common name. -/
def csrFor (commonName : String) : CertificateRequest :=
  ⟨.ecdsaWithSHA256, some csrKey, { commonName := commonName }, ["example.com"], [], [], csrKey⟩

/-- A CSR with the common name `Example.com` gets a certificate whose common name is that
name lowercased, one of its DNS names. -/
theorem example_issuance_names :
    newCertificate issuanceLibraries ⟨false, false⟩ issuanceRA issuancePA (issuingCA [1]) noCounts
        (fun _ => none) ⟨0, 0⟩ issuanceRegistrations issuanceAuthz 100 (csrFor "Example.com") 1 =
      .ok ⟨1, serialToString 1, [1]⟩ ∧
      ∃ parsed, issuanceLibraries.parseCertificate [1] = .ok parsed ∧
        parsed.subject.commonName = "example.com" ∧ parsed.subject.commonName ∈ parsed.dnsNames := by
  have h : newCertificate issuanceLibraries ⟨false, false⟩ issuanceRA issuancePA (issuingCA [1])
      noCounts (fun _ => none) ⟨0, 0⟩ issuanceRegistrations issuanceAuthz 100 (csrFor "Example.com")
      1 = .ok ⟨1, serialToString 1, [1]⟩ := by
    decide +kernel
  obtain ⟨parsed, hp, -, -, hcn⟩ := newCertificate_names_authorized h
  obtain ⟨hname, hmem⟩ := hcn rfl (by decide)
  exact ⟨h, parsed, hp, by rw [hname]; decide, hmem⟩

/-- With `forceCNFromSAN` off and a CSR without a common name, the RA returns a certificate
whose common name is `evil.example`: a name the CSR does not carry, that the policy authority
refuses, and that registration 1 holds no authorization for. -/
theorem unrequested_common_name :
    issuanceRA.forceCNFromSAN = false ∧ (csrFor "").subject.commonName = "" ∧
      newCertificate issuanceLibraries ⟨false, false⟩ issuanceRA issuancePA (issuingCA [2])
          noCounts (fun _ => none) ⟨0, 0⟩ issuanceRegistrations issuanceAuthz 100 (csrFor "") 1 =
        .ok ⟨1, serialToString 1, [2]⟩ ∧
      issuanceLibraries.parseCertificate [2] = .ok (issuedCertificate "evil.example") ∧
      (issuedCertificate "evil.example").subject.commonName = "evil.example" ∧
      "evil.example" ∉ (CSR.requestedNames (csrFor "")).map toLower ∧
      issuancePA.willingToIssue ⟨.dns, "evil.example"⟩ ≠ .ok () ∧
      ∀ a ∈ issuanceAuthz.authz, a.identifier ≠ ⟨.dns, "evil.example"⟩ := by
  refine ⟨rfl, rfl, ?_, ?_, rfl, ?_, ?_, ?_⟩ <;> decide +kernel


/-- `csrFor "Example.com"` passes `VerifyCSR`, so the policy authority consents to its name and
to its common name. -/
theorem csrFor_consented :
    (CSR.verifyCSR issuanceLibraries.curves (csrFor "Example.com") 100 newKeyPolicy issuancePA
        false).2 = .ok () ∧
      ∀ name ∈ CSR.requestedNames (csrFor "Example.com"),
        issuancePA.willingToIssue ⟨.dns, toLower name⟩ = .ok () := by
  have h : (CSR.verifyCSR issuanceLibraries.curves (csrFor "Example.com") 100 newKeyPolicy
      issuancePA false).2 = .ok () := by
    decide +kernel
  exact ⟨h, CSR.verifyCSR_consents h⟩

end Boulder.RA
