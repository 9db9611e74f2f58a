/-
# Boulder.Core.Objects -- the ACME objects the authorities pass around

The data model of package `core`: statuses, identifiers, challenges and authorizations, as the
SA stores them and the RA hands them on. Times are `time.Time` values, modelled as integer
instants (Unix nanoseconds); `*time.Time` is an `Option`. Go's string-typed enumerations
(`AcmeStatus`) become inductive types over their named constants.

Registrations carry the account key of `Boulder.Jose`.

A Go slice whose nil and empty values a modelled function tells apart is an `Option` of a
list, `none` for nil; other slices are lists. Fields that none of the modelled functions reads or
writes (a challenge's `URI`) are left out; `MODEL_MAP.json` lists them. The problem documents of
package `probs` come before the challenges that carry them; the errors of package `errors` close
the module.
-/
import Mathlib.Data.List.Basic
import Mathlib.Data.Int.Notation
import Boulder.Jose

namespace Boulder.Core

open Boulder.Jose

/-- An instant, in Unix nanoseconds. -/
abbrev Time := ℤ

/-- Go's zero `time.Time`, which the database also stores for "never". -/
def zeroTime : Time := 0

/-- `core.AcmeStatus`: the states of authorizations, challenges and registrations. -/
inductive AcmeStatus where
  | unknown
  | pending
  | processing
  | valid
  | invalid
  | revoked
  | deactivated
  deriving DecidableEq, Repr

/-- The string value of a status. -/
def AcmeStatus.name : AcmeStatus → String
  | .unknown => "unknown"
  | .pending => "pending"
  | .processing => "processing"
  | .valid => "valid"
  | .invalid => "invalid"
  | .revoked => "revoked"
  | .deactivated => "deactivated"

/-- `core.IdentifierType`. Only `dns` is a named constant; a stored row may carry any other
string, which `other` keeps. -/
inductive IdentifierType where
  | dns
  | other (name : String)
  deriving DecidableEq, Repr

/-- The string an `IdentifierType` is: `IdentifierDNS` is `"dns"`. -/
def IdentifierType.name : IdentifierType → String
  | .dns => "dns"
  | .other name => name

/-- `core.AcmeIdentifier`. -/
structure AcmeIdentifier where
  type : IdentifierType
  value : String
  deriving DecidableEq, Repr

/-! ## Problem documents (package `probs`) -/

/-- `probs.ProblemType`: the ACME error URNs. -/
inductive ProblemType where
  | connection
  | malformed
  | serverInternal
  | tls
  | unauthorized
  | unknownHost
  | rateLimited
  | badNonce
  | invalidEmail
  | rejectedIdentifier
  | unsupportedIdentifier
  deriving DecidableEq, Repr

/-- The URN a `probs.ProblemType` stands for. -/
def ProblemType.urn : ProblemType → String
  | .connection => "urn:acme:error:connection"
  | .malformed => "urn:acme:error:malformed"
  | .serverInternal => "urn:acme:error:serverInternal"
  | .tls => "urn:acme:error:tls"
  | .unauthorized => "urn:acme:error:unauthorized"
  | .unknownHost => "urn:acme:error:unknownHost"
  | .rateLimited => "urn:acme:error:rateLimited"
  | .badNonce => "urn:acme:error:badNonce"
  | .invalidEmail => "urn:acme:error:invalidEmail"
  | .rejectedIdentifier => "urn:acme:error:rejectedIdentifier"
  | .unsupportedIdentifier => "urn:acme:error:unsupportedIdentifier"

/-- `probs.ProblemDetails`. -/
structure ProblemDetails where
  type : ProblemType
  detail : String
  httpStatus : ℤ
  deriving DecidableEq, Repr

/-- `probs.ConnectionFailure`: a connection problem with status 400. -/
def connectionFailure (detail : String) : ProblemDetails := ⟨.connection, detail, 400⟩

/-- `probs.Malformed`. -/
def malformed (detail : String) : ProblemDetails := ⟨.malformed, detail, 400⟩

/-- `probs.Unauthorized`. -/
def unauthorized (detail : String) : ProblemDetails := ⟨.unauthorized, detail, 403⟩

/-- `probs.ServerInternal`. -/
def serverInternal (detail : String) : ProblemDetails := ⟨.serverInternal, detail, 500⟩

/-- `probs.BadNonce`. -/
def badNonce (detail : String) : ProblemDetails := ⟨.badNonce, detail, 400⟩

/-- `probs.Conflict`: a malformed request with status 409. -/
def conflict (detail : String) : ProblemDetails := ⟨.malformed, detail, 409⟩

/-- `probs.NotFound`: a malformed request with status 404. -/
def notFound (detail : String) : ProblemDetails := ⟨.malformed, detail, 404⟩

/-- `probs.ContentLengthRequired`. -/
def contentLengthRequired : ProblemDetails := ⟨.malformed, "missing Content-Length header", 411⟩

/-- `probs.RateLimited`, with status 429. -/
def rateLimited (detail : String) : ProblemDetails := ⟨.rateLimited, detail, 429⟩

/-! ## Challenges and authorizations -/

/-- `core.ValidationRecord`. Its addresses are `net.IP` byte slices, the empty one for nil. -/
structure ValidationRecord where
  authorities : Option (List String)
  url : String
  hostname : String
  port : String
  addressesResolved : Option (List (List UInt8))
  addressUsed : List UInt8
  deriving DecidableEq, Repr

/-- `core.Challenge`. The VA fills in `Error` and `ValidationRecord`; a challenge built field by
field leaves them nil. -/
structure Challenge where
  id : ℤ
  type : String
  status : AcmeStatus
  token : String
  providedKeyAuthorization : String
  error : Option ProblemDetails := none
  validationRecord : Option (List ValidationRecord) := none
  deriving DecidableEq, Repr

/-- `core.Authorization`. -/
structure Authorization where
  id : String
  identifier : AcmeIdentifier
  registrationID : ℤ
  status : AcmeStatus
  expires : Option Time
  challenges : List Challenge
  combinations : List (List ℤ)
  deriving DecidableEq, Repr

/-! ## Registrations -/

/-- An address in its 16-byte form, read as a big-endian number: the `BINARY(16)` column of the
registrations table. An IPv4 address is the IPv4-mapped IPv6 address. -/
abbrev IP := BitVec 128

/-- The feature flags of package `features` that the registration path reads. Both are off by
default. -/
structure Features where
  allowAccountDeactivation : Bool
  allowKeyRollover : Bool
  deriving DecidableEq, Repr

/-- `core.Registration`. `Key` and `Contact` are pointers in Go and may be absent; `InitialIP` is
a `net.IP` byte slice, the empty list for nil; `Status` is empty (`none`) in a registration built
field by field, and in one read back while `AllowAccountDeactivation` is off. -/
structure Registration where
  id : ℤ
  key : Option JsonWebKey
  contact : Option (List String)
  agreement : String
  initialIP : List UInt8
  createdAt : Time
  status : Option AcmeStatus
  deriving DecidableEq, Repr

/-- The zero `core.Registration{}`, which handlers fill field by field. -/
def Registration.empty : Registration := ⟨0, none, none, "", [], 0, none⟩

/-! ## Certificate status and OCSP -/

/-- `core.OCSPStatus`: `good` or `revoked`. -/
inductive OCSPStatus where
  | good
  | revoked
  deriving DecidableEq, Repr

/-- `revocation.Reason`, an X.509 reason code; 0 is `unspecified`. -/
abbrev Reason := ℤ

/-- `core.OCSPSigningRequest`: what the CA is asked to sign. The certificate is named by its
serial, which stands for the DER the updater looks up by serial. -/
structure OCSPSigningRequest where
  serial : String
  status : OCSPStatus
  reason : Reason
  revokedAt : Time
  deriving DecidableEq, Repr

/-- `core.CertificateStatus`, one row of the `certificateStatus` table. The CA signs exactly
what it is asked to, so a stored OCSP response is represented by the request it was signed
from; `none` is a row with no response yet. `lastExpirationNagSent` is the zero time until the
expiration mailer first writes it. -/
structure CertificateStatus where
  serial : String
  status : OCSPStatus
  ocspLastUpdated : Time
  revokedDate : Time
  revokedReason : Reason
  ocspResponse : Option OCSPSigningRequest
  notAfter : Time
  isExpired : Bool
  lastExpirationNagSent : Time := zeroTime
  deriving DecidableEq, Repr

/-- DER bytes. -/
abbrev DER := List UInt8

/-- `core.Certificate`, one row of the `certificates` table, with the fields the WFE reads. -/
structure Certificate where
  registrationID : ℤ
  serial : String
  der : DER
  deriving DecidableEq, Repr

/-! ## Certificates and requests (package `crypto/x509`, Go 1.8) -/

/-- `x509.SignatureAlgorithm`. -/
inductive SignatureAlgorithm where
  | unknownSignatureAlgorithm
  | md2WithRSA
  | md5WithRSA
  | sha1WithRSA
  | sha256WithRSA
  | sha384WithRSA
  | sha512WithRSA
  | dsaWithSHA1
  | dsaWithSHA256
  | ecdsaWithSHA1
  | ecdsaWithSHA256
  | ecdsaWithSHA384
  | ecdsaWithSHA512
  | sha256WithRSAPSS
  | sha384WithRSAPSS
  | sha512WithRSAPSS
  deriving DecidableEq, Repr

/-- `x509.ExtKeyUsage`. -/
inductive ExtKeyUsage where
  | any
  | serverAuth
  | clientAuth
  | codeSigning
  | emailProtection
  | ipsecEndSystem
  | ipsecTunnel
  | ipsecUser
  | timeStamping
  | ocspSigning
  | microsoftServerGatedCrypto
  | netscapeServerGatedCrypto
  deriving DecidableEq, Repr

/-- `pkix.Name`, without the raw attribute lists. Every field defaults to Go's zero value. -/
structure Name where
  country : List String := []
  organization : List String := []
  organizationalUnit : List String := []
  locality : List String := []
  province : List String := []
  streetAddress : List String := []
  postalCode : List String := []
  serialNumber : String := ""
  commonName : String := ""
  deriving DecidableEq, Repr

/-- What `x509.ParseCertificate` gives the WFE, the RA and the OCSP updater. The fields after
the DNS names default to Go's zero values. -/
structure X509Certificate where
  serialNumber : ℕ
  publicKey : PublicKey
  dnsNames : List String
  subject : Name := {}
  emailAddresses : List String := []
  ipAddresses : List IP := []
  notBefore : Time := 0
  notAfter : Time := 0
  basicConstraintsValid : Bool := false
  isCA : Bool := false
  extKeyUsage : List ExtKeyUsage := []
  ocspServer : List String := []
  deriving DecidableEq, Repr

/-- `x509.CertificateRequest`. `publicKey` is `none` when the parser met a key of an unknown
algorithm. The signature is symbolic, as in `Boulder.Jose`: `signer` is the key that made it. -/
structure CertificateRequest where
  signatureAlgorithm : SignatureAlgorithm
  publicKey : Option PublicKey
  subject : Name
  dnsNames : List String
  emailAddresses : List String
  ipAddresses : List IP
  signer : PublicKey
  deriving DecidableEq, Repr

/-- The key kind a signature algorithm is made with, if it is a hash Go supports: MD2 has no
hash, MD5 is refused as insecure, and DSA keys do not occur here. -/
def SignatureAlgorithm.fitsKey : SignatureAlgorithm → PublicKey → Bool
  | .md5WithRSA, _ | .md2WithRSA, _ | .unknownSignatureAlgorithm, _ => false
  | .sha1WithRSA, .rsa _ _ | .sha256WithRSA, .rsa _ _ | .sha384WithRSA, .rsa _ _
  | .sha512WithRSA, .rsa _ _ => true
  | .sha256WithRSAPSS, .rsa _ _ | .sha384WithRSAPSS, .rsa _ _ | .sha512WithRSAPSS, .rsa _ _ => true
  | .ecdsaWithSHA1, .ecdsa _ _ _ | .ecdsaWithSHA256, .ecdsa _ _ _ | .ecdsaWithSHA384, .ecdsa _ _ _
  | .ecdsaWithSHA512, .ecdsa _ _ _ => true
  | _, _ => false

/-- `CertificateRequest.CheckSignature`: the request was signed by its own key, with an
algorithm for that kind of key. -/
def CertificateRequest.checkSignature (csr : CertificateRequest) : Bool :=
  match csr.publicKey with
  | some key => csr.signer = key && csr.signatureAlgorithm.fitsKey key
  | none => false

/-! ## Errors (package `errors`) -/

/-- `berrors.ErrorType`: the coarse categories of Boulder errors. -/
inductive ErrorType where
  | internalServer
  | notSupported
  | malformed
  | unauthorized
  | notFound
  | signatureValidation
  | rateLimit
  | tooManyRequests
  | rejectedIdentifier
  | unsupportedIdentifier
  | invalidEmail
  | connectionFailure
  deriving DecidableEq, Repr

/-- The named error types in the order of their `iota` constants. -/
def errorTypes : List ErrorType :=
  [.internalServer, .notSupported, .malformed, .unauthorized, .notFound, .signatureValidation,
    .rateLimit, .tooManyRequests, .rejectedIdentifier, .unsupportedIdentifier, .invalidEmail,
    .connectionFailure]

/-- `int(t)`: the integer Go stores for an error type. -/
def ErrorType.toInt (t : ErrorType) : ℤ := errorTypes.idxOf t

/-- `berrors.ErrorType(i)`, when `i` is one of the named types. -/
def ErrorType.ofInt (i : ℤ) : Option ErrorType :=
  if 0 ≤ i then errorTypes[i.toNat]? else none

/-- `berrors.BoulderError`: a category and the formatted detail. -/
structure BoulderError where
  type : ErrorType
  detail : String
  deriving DecidableEq, Repr

/-- `berrors.InternalServerError`. -/
def internalServerError (detail : String) : BoulderError := ⟨.internalServer, detail⟩

/-- `berrors.MalformedError`. -/
def malformedError (detail : String) : BoulderError := ⟨.malformed, detail⟩

/-- `berrors.UnauthorizedError`. -/
def unauthorizedError (detail : String) : BoulderError := ⟨.unauthorized, detail⟩

/-- `berrors.RateLimitError`. -/
def rateLimitError (detail : String) : BoulderError := ⟨.rateLimit, detail⟩

/-! ## Authorities (package `core`, interfaces) -/

/-- The part of `core.PolicyAuthority` the RA's issuance path calls. -/
structure PolicyAuthority where
  willingToIssue : AcmeIdentifier → Except BoulderError Unit

/-- `core.CertificateAuthority`: issue a certificate for a CSR on behalf of a registration. -/
structure CertificateAuthority where
  issueCertificate : CertificateRequest → ℤ → Except BoulderError Certificate

end Boulder.Core
