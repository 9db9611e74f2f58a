/-
# Boulder.WFE.Revoke -- who may revoke a certificate

`RevokeCertificate` runs `verifyPOST` with `regCheck` off, because the private key of a
certificate may revoke it without any account. The request then names a certificate by its
DER; the WFE finds the stored certificate with the same serial and the same DER, refuses one
already revoked, and accepts one of three grounds: the request is signed by the certificate's
own key, or by the account that issued it, or by an account that holds valid authorizations for
all of its names. Only then does it call `RA.RevokeCertificateWithReg`, which marks the
certificate revoked in the SA.

`revocationChecks_authorized` states everything a request that reaches the RA has passed. The
account behind the key is never required to be valid: with `regCheck` off, `verifyPOST` skips
the status check even while `AllowAccountDeactivation` is on, so a deactivated account still
revokes the certificates it issued (`deactivated_account_revokes`).

The foreign keys of `certificates` and `authz` point at registrations, whose ids start at 1;
`RevocationState.Wf` says so, and it is what rules out the empty registration (id 0) of a key
without an account as an issuer or an authorization holder.
-/
import Boulder.WFE.Registration
import Boulder.SA.Authz
import Boulder.SA.Certificates
import Boulder.Lib.Loop

namespace Boulder.RA

open Boulder.Core Boulder.SA

/-- `RevokeCertificateWithReg`: mark the certificate revoked in the SA. The requester's
registration ID is only logged. -/
def revokeCertificateWithReg (t : CertTables) (cert : X509Certificate) (revocationCode : Reason)
    (now : Time) : Except BoulderError CertTables :=
  markCertificateRevoked t (serialToString cert.serialNumber) revocationCode now

end Boulder.RA

namespace Boulder.WFE

open Boulder.Core Boulder.Jose Boulder.Goodkey Boulder.SA Boulder.Nonce

/-- The tables `RevokeCertificate` reads and writes, and the nonces. -/
structure RevocationState where
  registrations : RegTables
  authz : AuthzTables
  certificates : List Certificate
  certificateStatus : List CertificateStatus
  nonces : NonceService

/-- The certificate tables as the SA's certificate methods see them. -/
def RevocationState.certTables (s : RevocationState) : CertTables :=
  ⟨s.certificates.map (·.serial), s.certificateStatus⟩

/-- The foreign keys of `certificates` and `authz` point at registrations, and registration ids
start at 1. -/
structure RevocationState.Wf (s : RevocationState) : Prop where
  certificates_registered : ∀ c ∈ s.certificates, 0 < c.registrationID
  authz_registered : ∀ a ∈ s.authz.authz, 0 < a.registrationID

/-- `revocation.UserAllowedReasons`: unspecified, key compromise, affiliation changed,
superseded, cessation of operation. -/
def userAllowedReasons : List Reason := [0, 1, 3, 4, 5]

/-- What `RevokeCertificate` passes to `RA.RevokeCertificateWithReg`. -/
structure RevocationCall where
  certificate : X509Certificate
  reason : Reason
  regID : ℤ
  deriving DecidableEq, Repr

/-- `regHoldsAuthorizations`: the SA finds a valid authorization of `regID` for each name. -/
def regHoldsAuthorizations (authz : AuthzTables) (regID : ℤ) (names : List String) (now : Time) :
    Except BoulderError Bool :=
  match getValidAuthorizations authz regID names now with
  | .error e => .error e
  | .ok m =>
    if names.length ≠ m.length then .ok false
    else .ok (names.all fun name => (m.get name).isSome)

/-- The message of a revocation request that has no ground. -/
def unauthorizedRevocation : String :=
  "Revocation request must be signed by private key of cert to be revoked, by the " ++
    "account key of the account that issued it, or by the account key of an account that holds " ++
    "valid authorizations for all names in the certificate."

section Revoke

variable (wfe : WebFrontEndImpl) (lib : Libraries) (fs : Features)

/-- The three grounds for a revocation, in the order `RevokeCertificate` tries them. -/
def revocationGround (s : RevocationState) (requestKey : JsonWebKey) (registration : Registration)
    (cert : Certificate) (parsedCertificate : X509Certificate) (now : Time) :
    Except ProblemDetails Unit :=
  if lib.keyDigest requestKey.key = lib.keyDigest parsedCertificate.publicKey ∨
      registration.id = cert.registrationID then .ok ()
  else
    match regHoldsAuthorizations s.authz registration.id parsedCertificate.dnsNames now with
    | .error _ => .error (serverInternal "Failed to retrieve authorizations for names in certificate")
    | .ok false => .error (unauthorized unauthorizedRevocation)
    | .ok true => .ok ()

/-- The reason code to revoke with: the requested one, if the WFE accepts reasons and users may
ask for it, else unspecified. -/
def revocationReason (requested : Option Reason) : Except ProblemDetails Reason :=
  match requested with
  | some reason =>
    if wfe.acceptRevocationReason then
      if reason ∉ userAllowedReasons then
        .error (malformed "unsupported revocation reason code provided")
      else .ok reason
    else .ok 0
  | none => .ok 0

/-- The checks of `RevokeCertificate` after `verifyPOST`, on the payload, the key the request
was verified under and its account. -/
def authorizeRevocation (s : RevocationState) (body : String) (requestKey : JsonWebKey)
    (registration : Registration) (now : Time) : Except ProblemDetails RevocationCall :=
  match lib.unmarshal body with
  | none => .error (malformed "Unable to JSON parse revoke request")
  | some revokeRequest =>
    match lib.parseCertificate revokeRequest.certificate with
    | .error _ => .error (malformed "Unable to parse certificate DER")
    | .ok providedCert =>
      let serial := serialToString providedCert.serialNumber
      match getCertificateRow s.certificates serial with
      | .error _ => .error (notFound "No such certificate")
      | .ok cert =>
        if cert.der ≠ revokeRequest.certificate then .error (notFound "No such certificate")
        else
          match lib.parseCertificate cert.der with
          | .error _ => .error (serverInternal "invalid parse of stored certificate")
          | .ok parsedCertificate =>
            match getCertificateStatus s.certTables serial with
            | .error _ => .error (notFound "Certificate status not yet available")
            | .ok certStatus =>
              -- a missing status row reads as an empty status, which is not revoked
              if certStatus.map (·.status) = some .revoked then
                .error (conflict "Certificate already revoked")
              else
                match revocationGround lib s requestKey registration cert parsedCertificate now with
                | .error p => .error p
                | .ok () =>
                  match revocationReason wfe revokeRequest.reason with
                  | .error p => .error p
                  | .ok reason => .ok ⟨parsedCertificate, reason, registration.id⟩

/-- `RevokeCertificate` up to the RA call: `verifyPOST` without the registration check, then
`authorizeRevocation`. -/
def revocationChecks (s : RevocationState) (request : Request) (now : Time) :
    NonceService × Except ProblemDetails RevocationCall :=
  match verifyPOST wfe lib fs s.registrations s.nonces request false "revoke-cert" with
  | (ns, .error p) => (ns, .error p)
  | (ns, .ok (body, requestKey, registration)) =>
    (ns, authorizeRevocation wfe lib s body requestKey registration now)

/-- `RevokeCertificate`. -/
def revokeCertificate (s : RevocationState) (request : Request) (now : Time) :
    RevocationState × Except ProblemDetails Unit :=
  match revocationChecks wfe lib fs s request now with
  | (ns, .error p) => ({ s with nonces := ns }, .error p)
  | (ns, .ok call) =>
    match RA.revokeCertificateWithReg s.certTables call.certificate call.reason now with
    | .error e => ({ s with nonces := ns }, .error (problemDetailsForError e "Failed to revoke certificate"))
    | .ok t => ({ s with nonces := ns, certificateStatus := t.certificateStatus }, .ok ())

/-! ## What a revocation that reaches the RA has passed -/

/-- No authorization of a registration that holds none. -/
theorem regHoldsAuthorizations_of_none {authz : AuthzTables} {regID : ℤ} {names : List String}
    {now : Time} (hnone : ∀ a ∈ authz.authz, a.registrationID ≠ regID) :
    regHoldsAuthorizations authz regID names now ≠ .ok true := by
  have hfilter : authz.authz.filter (validFor regID names now) = [] := by
    rw [List.filter_eq_nil_iff]
    intro a ha
    simp [validFor, hnone a ha]
  unfold regHoldsAuthorizations getValidAuthorizations
  by_cases hn : names = []
  · simp [hn]
  · have hlen : names.length ≠ 0 := by simpa using hn
    simp [hn, hfilter, byNameLoop, hlen]

/-- A ground was found: the certificate's own key, or the requester's account issued the
certificate or holds authorizations for all its names. -/
theorem revocationGround_eq_ok {s : RevocationState} {requestKey : JsonWebKey}
    {registration : Registration} {cert : Certificate} {parsed : X509Certificate} {now : Time}
    (h : revocationGround lib s requestKey registration cert parsed now = .ok ()) :
    lib.keyDigest requestKey.key = lib.keyDigest parsed.publicKey ∨
      registration.id = cert.registrationID ∨
      regHoldsAuthorizations s.authz registration.id parsed.dnsNames now = .ok true := by
  unfold revocationGround at h
  split at h
  · rename_i hground
    rcases hground with hkey | hid
    · exact .inl hkey
    · exact .inr (.inl hid)
  · match hr : regHoldsAuthorizations s.authz registration.id parsed.dnsNames now with
    | .error _ => simp [hr] at h
    | .ok false => simp [hr] at h
    | .ok true => exact .inr (.inr rfl)

/-- What `authorizeRevocation` accepted: a stored certificate with the submitted DER, not
revoked, parsed as the call's certificate, whose serial is the stored one, and for which a
ground was found. -/
theorem authorizeRevocation_eq_ok {s : RevocationState} {body : String} {requestKey : JsonWebKey}
    {registration : Registration} {now : Time} {call : RevocationCall}
    (h : authorizeRevocation wfe lib s body requestKey registration now = .ok call) :
    ∃ revokeRequest cert, lib.unmarshal body = some revokeRequest ∧ cert ∈ s.certificates ∧
      cert.der = revokeRequest.certificate ∧ lib.parseCertificate cert.der = .ok call.certificate ∧
      cert.serial = serialToString call.certificate.serialNumber ∧
      (s.certTables.statusOf cert.serial).map (·.status) ≠ some .revoked ∧
      revocationGround lib s requestKey registration cert call.certificate now = .ok () ∧
      call.regID = registration.id := by
  unfold authorizeRevocation at h
  match hu : lib.unmarshal body with
  | none => simp [hu] at h
  | some revokeRequest =>
    simp only [hu] at h
    match hp : lib.parseCertificate revokeRequest.certificate with
    | .error _ => simp [hp] at h
    | .ok providedCert =>
      simp only [hp] at h
      match hc : getCertificateRow s.certificates (serialToString providedCert.serialNumber) with
      | .error _ => simp [hc] at h
      | .ok cert =>
        obtain ⟨hmem, hserial⟩ := getCertificateRow_eq_ok hc
        simp only [hc] at h
        split at h
        · cases h
        · rename_i hder
          match hpc : lib.parseCertificate cert.der with
          | .error _ => simp [hpc] at h
          | .ok parsed =>
            simp only [hpc] at h
            match hs : getCertificateStatus s.certTables (serialToString providedCert.serialNumber) with
            | .error _ => simp [hs] at h
            | .ok certStatus =>
              simp only [hs] at h
              split at h
              · cases h
              · rename_i hrev
                match hg : revocationGround lib s requestKey registration cert parsed now with
                | .error _ => simp [hg] at h
                | .ok () =>
                  simp only [hg] at h
                  match hreason : revocationReason wfe revokeRequest.reason with
                  | .error _ => simp [hreason] at h
                  | .ok reason =>
                    simp only [hreason, Except.ok.injEq] at h
                    subst h
                    have hsame : providedCert = parsed := by
                      rw [not_not.mp hder] at hpc
                      exact Except.ok.inj (hp.symm.trans hpc)
                    have hstatus : certStatus = s.certTables.statusOf cert.serial := by
                      unfold getCertificateStatus at hs
                      split at hs
                      · cases hs
                      · rw [hserial]
                        exact (Except.ok.inj hs).symm
                    refine ⟨revokeRequest, cert, rfl, hmem, not_not.mp hder, hpc, ?_, ?_, hg, rfl⟩
                    · rw [hserial, hsame]
                    · rw [← hstatus]
                      exact hrev

/-- The request carries one signature, made by `key` over `payload`, with a nonce the service
accepted. -/
def SignedWithFreshNonce (ns : NonceService) (request : Request) (key : JsonWebKey)
    (payload : String) : Prop :=
  ∃ body jws sig, request.body = some body ∧ lib.parseSigned body = some jws ∧
    jws.signatures = [sig] ∧ sig.signer = key.key ∧ jws.verify key = .ok payload ∧
    (nonceValid lib ns sig.nonce).1 = true

/-- **Revocation needs authority.** A revoke-cert request that reaches
`RA.RevokeCertificateWithReg` was signed, with a fresh nonce, by the key `verifyPOST` chose: the
stored key of the account holding the submitted key's digest, or a submitted key of no account
that passes the WFE's key policy. Its payload names, by DER, a stored certificate that is not
revoked, whose serial the call revokes. And the key is the certificate's own key (by digest), or it is
the key of a stored account, of any status, that issued the certificate or for which
`GetValidAuthorizations` finds an authorization for each of the certificate's names. -/
theorem revocationChecks_authorized {s : RevocationState} (hwf : s.Wf) {request : Request}
    {now : Time} {call : RevocationCall}
    (h : (revocationChecks wfe lib fs s request now).2 = .ok call) :
    ∃ key payload revokeRequest cert,
      SignedWithFreshNonce lib s.nonces request key payload ∧
      ((∃ rm ∈ s.registrations.rows, key = rm.key ∧ call.regID = rm.id) ∨
        (s.registrations.byDigest (lib.keyDigest key.key) = none ∧
          wfe.keyPolicy.goodKey lib.curves key.key = .ok () ∧ call.regID = 0)) ∧
      lib.unmarshal payload = some revokeRequest ∧ cert ∈ s.certificates ∧
      cert.der = revokeRequest.certificate ∧ lib.parseCertificate cert.der = .ok call.certificate ∧
      cert.serial = serialToString call.certificate.serialNumber ∧
      (s.certTables.statusOf cert.serial).map (·.status) ≠ some .revoked ∧
      (lib.keyDigest key.key = lib.keyDigest call.certificate.publicKey ∨
        ∃ rm ∈ s.registrations.rows, key = rm.key ∧
          (rm.id = cert.registrationID ∨
            regHoldsAuthorizations s.authz rm.id call.certificate.dnsNames now = .ok true)) := by
  unfold revocationChecks at h
  match hpost : verifyPOST wfe lib fs s.registrations s.nonces request false "revoke-cert" with
  | (_, .error _) => simp [hpost] at h
  | (ns', .ok (payload, key, registration)) =>
    simp only [hpost] at h
    obtain ⟨sig, hsig, -, hnonce, -⟩ := verifyPOST_eq_ok wfe lib fs hpost
    obtain ⟨body, jws, submitted, hbody, hparse, hsigs, -, hlookup, -, hsigner, hverify⟩ :=
      verifySignature_eq_ok wfe lib fs hsig
    have hsigned : SignedWithFreshNonce lib s.nonces request key payload :=
      ⟨body, jws, sig, hbody, hparse, hsigs, hsigner, hverify, by rw [hnonce]⟩
    obtain ⟨revokeRequest, cert, hreq, hmem, hder, hparsed, hserial, hrev, hground, hregID⟩ :=
      authorizeRevocation_eq_ok wfe lib h
    refine ⟨key, payload, revokeRequest, cert, hsigned, ?_, hreq, hmem, hder, hparsed, hserial, hrev,
      ?_⟩
    · rcases lookupAccount_eq_ok wfe lib fs hlookup with
        ⟨rm, hrm, -, hkey, hreg⟩ | ⟨-, hnone, hgood, hkey, hreg⟩
      · exact .inl ⟨rm, hrm, hkey, by rw [hregID, hreg]; rfl⟩
      · subst hkey
        exact .inr ⟨hnone, hgood, by rw [hregID, hreg]; rfl⟩
    · rcases lookupAccount_eq_ok wfe lib fs hlookup with
        ⟨rm, hrm, -, hkey, hreg⟩ | ⟨-, -, -, hkey, hreg⟩
      · subst hreg
        rcases revocationGround_eq_ok lib hground with hdig | hid | hauth
        · exact .inl hdig
        · exact .inr ⟨rm, hrm, hkey, .inl hid⟩
        · exact .inr ⟨rm, hrm, hkey, .inr hauth⟩
      · subst hreg
        rcases revocationGround_eq_ok lib hground with hdig | hid | hauth
        · exact .inl hdig
        · have := hwf.certificates_registered cert hmem
          simp only [Registration.empty] at hid
          omega
        · exact absurd hauth (regHoldsAuthorizations_of_none fun a ha heq => by
            have := hwf.authz_registered a ha
            simp only [Registration.empty] at heq
            omega)

/-! ## What a revocation changes -/

/-- **Revocation changes one status row, and only when the checks pass.** `RevokeCertificate`
keeps the registrations, authorizations and certificates. The status table changes only when
`revocationChecks` accepted the request, and then only in the row of the serial the call names,
revoked at `now` for the call's reason. -/
theorem revokeCertificate_effect (s : RevocationState) (request : Request) (now : Time) :
    (revokeCertificate wfe lib fs s request now).1.registrations = s.registrations ∧
      (revokeCertificate wfe lib fs s request now).1.authz = s.authz ∧
      (revokeCertificate wfe lib fs s request now).1.certificates = s.certificates ∧
      ((revokeCertificate wfe lib fs s request now).1.certificateStatus = s.certificateStatus ∨
        ∃ call, (revocationChecks wfe lib fs s request now).2 = .ok call ∧
          (revokeCertificate wfe lib fs s request now).1.certificateStatus =
            updateRows (serialToString call.certificate.serialNumber) (fun cs =>
              { cs with status := .revoked, revokedDate := now, revokedReason := call.reason })
              s.certificateStatus) := by
  unfold revokeCertificate
  match hc : revocationChecks wfe lib fs s request now with
  | (_, .error _) => exact ⟨rfl, rfl, rfl, .inl rfl⟩
  | (_, .ok call) =>
    simp only
    match hr : RA.revokeCertificateWithReg s.certTables call.certificate call.reason now with
    | .error _ => exact ⟨rfl, rfl, rfl, .inl rfl⟩
    | .ok t =>
      obtain ⟨-, -, -, rfl⟩ := markCertificateRevoked_eq_ok.mp hr
      exact ⟨rfl, rfl, rfl, .inr ⟨call, rfl, rfl⟩⟩

end Revoke

/-! ## Revocation by the issuing account -/

/-- A certificate for one name, serial 1, for the P-256 key `(1, 2)`. -/
def exampleCertificate : X509Certificate :=
  { serialNumber := 1, publicKey := .ecdsa .p256 1 2, dnsNames := ["example.com"] }

/-- The DER of `exampleCertificate`, one byte here. -/
def exampleDER : DER := [1]

/-- An account key on P-256. Its coordinates are symbolic: no curve arithmetic runs on a stored
account key. -/
def revokerKey : JsonWebKey := ⟨.ecdsa .p256 3 4, ""⟩

/-- The libraries of `exampleLibraries`, which also know one revoke-cert request: signed by
`revokerKey` with the nonce 1, its payload names `exampleDER`, which parses to
`exampleCertificate`. -/
def revocationLibraries : Libraries :=
  { exampleLibraries with
    parseSigned := fun body =>
      if body = "revoke JWS" then
        some ⟨[⟨some revokerKey, "ES256", "1", revokerKey.key⟩], "revoke payload"⟩
      else none
    unmarshal := fun payload =>
      if payload = "revoke payload" then
        some { RequestObject.empty with resource := "revoke-cert", certificate := exampleDER }
      else none
    parseCertificate := fun der =>
      if der = exampleDER then .ok exampleCertificate else .error "x509: malformed certificate" }

/-- Account 1, of the given status, holds `revokerKey` and issued `exampleCertificate`, which is
good; one nonce has been issued. -/
def revocationState (status : AcmeStatus) : RevocationState where
  registrations :=
    ⟨[⟨1, revokerKey, revocationLibraries.keyDigest revokerKey.key, [], "", binary16 clientIP, 100,
      some status⟩], 2⟩
  authz := ⟨[], [], []⟩
  certificates := [⟨1, serialToString 1, exampleDER⟩]
  certificateStatus := [⟨serialToString 1, .good, 100, 0, 0, none, 1000, false, zeroTime⟩]
  nonces := (newNonceService MaxUsed).nonce.2

/-- The revoke-cert request of `revocationLibraries`. -/
def issuerRevocation : Request :=
  ⟨true, some "revoke JWS", "", "https", "acme.example", "", none⟩

/-- Account deactivation on, key rollover off. -/
def deactivationOn : Features := ⟨true, false⟩

/-- A valid account revokes the certificate it issued, signed with a fresh nonce. -/
theorem issuer_revocation_signed :
    (revocationState .valid).Wf ∧
      (revocationChecks exampleWFE revocationLibraries deactivationOn (revocationState .valid)
        issuerRevocation 300).2 = .ok ⟨exampleCertificate, 0, 1⟩ ∧
      ∃ key payload, SignedWithFreshNonce revocationLibraries (revocationState .valid).nonces
        issuerRevocation key payload := by
  have hwf : (revocationState .valid).Wf := ⟨by decide, by decide⟩
  have h : (revocationChecks exampleWFE revocationLibraries deactivationOn
      (revocationState .valid) issuerRevocation 300).2 = .ok ⟨exampleCertificate, 0, 1⟩ := by
    decide +kernel
  obtain ⟨key, payload, -, -, hsigned, -⟩ :=
    revocationChecks_authorized exampleWFE revocationLibraries deactivationOn hwf h
  exact ⟨hwf, h, key, payload, hsigned⟩

/-- With account deactivation on, a deactivated account still revokes the certificate it
issued: no account is valid, the signing key is not the certificate's, and the certificate ends
up revoked. -/
theorem deactivated_account_revokes :
    deactivationOn.allowAccountDeactivation = true ∧
      (∀ r ∈ (revocationState .deactivated).registrations.rows, r.status ≠ some .valid) ∧
      revocationLibraries.keyDigest revokerKey.key ≠
        revocationLibraries.keyDigest exampleCertificate.publicKey ∧
      (revocationChecks exampleWFE revocationLibraries deactivationOn
        (revocationState .deactivated) issuerRevocation 300).2 = .ok ⟨exampleCertificate, 0, 1⟩ ∧
      ((revokeCertificate exampleWFE revocationLibraries deactivationOn
        (revocationState .deactivated) issuerRevocation 300).1.certTables.statusOf
          (serialToString 1)).map (·.status) = some .revoked := by
  refine ⟨rfl, ?_, ?_, ?_, ?_⟩ <;> decide +kernel

end Boulder.WFE
