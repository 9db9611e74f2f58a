/-
# Boulder.OCSP.Purge -- purging the CDN's cached OCSP responses

After the updater has stored a new response it calls `sendPurge` with the certificate's DER.
`sendPurge` parses the certificate, builds an OCSP request for it and, for each OCSP server the
certificate names, collects the three URLs under which the CDN may hold a cached response
(`generateOCSPCacheKeys`): Akamai's POST key with the MD5 of the request, and the GET URL with
the base64 request in its path, once with `//` collapsed to `/` and once query-escaped. It then
asks the purge client to purge the URLs it collected.

The loop that collects them assigns `urls = append(generateOCSPCacheKeys(req, ocspServer))`. An
`append` with no values returns its slice, so each pass replaces the URLs of the servers before
it, and the purge gets the three keys of the last server only (`sendPurge_purges_last_server`).
With one OCSP server that is every key the certificate has; with two or more the keys of all but
the last server stay cached. `allCacheKeys` states what the loop is for: three keys per server.

`x509.ParseCertificate`, `ocsp.CreateRequest` with the updater's issuer, `md5.Sum` and the purge
client are parameters (`PurgeLibraries`).
-/
import Mathlib.Data.Vector.Defs
import Boulder.Core.Objects
import Boulder.Lib.Base64
import Boulder.Lib.GoStrings
import Boulder.Lib.Loop

namespace Boulder.OCSP

open Boulder.Core Boulder.Lib.GoStrings Boulder.Lib.Base64 Boulder.Lib.Loop

/-! ## The keys of one server -/

/-- `reverseBytes`: the swap loop, which reverses the slice in place. -/
def reverseBytes (b : List UInt8) : List UInt8 :=
  b.reverse

/-- `generateOCSPCacheKeys`: the POST key, whose `body-md5` is the first two 32-bit words of the
request's MD5 in little-endian hex, then the GET URL with `//` collapsed, then the GET URL
query-escaped. -/
def generateOCSPCacheKeys (md5Sum : List UInt8 → List.Vector UInt8 16) (req : List UInt8)
    (ocspServer : String) : List String :=
  let hash := (md5Sum req).toList
  let encReq := stdEncoding.encodeToStringPadded req
  [ocspServer ++ "?body-md5=" ++ hexEncodeToString (reverseBytes (hash.take 4)) ++
      hexEncodeToString (reverseBytes ((hash.drop 4).take 4)),
    ocspServer ++ replace encReq "//" "/",
    ocspServer ++ queryEscape encReq]

@[simp] theorem length_generateOCSPCacheKeys (md5Sum : List UInt8 → List.Vector UInt8 16)
    (req : List UInt8) (ocspServer : String) :
    (generateOCSPCacheKeys md5Sum req ocspServer).length = 3 :=
  rfl

/-! ## `sendPurge` -/

/-- What `sendPurge` calls besides its own code. -/
structure PurgeLibraries where
  /-- `x509.ParseCertificate`. -/
  parseCertificate : DER → Except String X509Certificate
  /-- `ocsp.CreateRequest(cert, updater.issuer, nil)`. -/
  createRequest : X509Certificate → Except String (List UInt8)
  /-- `md5.Sum`. -/
  md5Sum : List UInt8 → List.Vector UInt8 16
  /-- `updater.ccu.Purge`. -/
  purge : List String → Except String Unit

/-- What a call of `sendPurge` did: the URLs it gave the purge client, if it got that far, and
the error it audited, if any. -/
structure PurgeRun where
  purged : Option (List String)
  auditErr : Option String
  deriving DecidableEq, Repr

/-- The server URL with the `/` that `sendPurge` appends when it is missing. -/
def withSlash (ocspServer : String) : String :=
  if hasSuffix ocspServer "/" then ocspServer else ocspServer ++ "/"

/-- `OCSPUpdater.sendPurge`. -/
def sendPurge (lib : PurgeLibraries) (der : DER) : PurgeRun :=
  match lib.parseCertificate der with
  | .error err => ⟨none, some ("Failed to parse certificate for cache purge: " ++ err)⟩
  | .ok cert =>
    match lib.createRequest cert with
    | .error err => ⟨none, some ("Failed to create OCSP request for cache purge: " ++ err)⟩
    | .ok req =>
      -- `urls = append(generateOCSPCacheKeys(req, ocspServer))`: the body does not read `urls`
      let urls := cert.ocspServer.foldl
        (fun _ ocspServer => generateOCSPCacheKeys lib.md5Sum req (withSlash ocspServer)) []
      match lib.purge urls with
      | .error err => ⟨some urls, some ("Failed to purge OCSP response from CDN: " ++ err)⟩
      | .ok () => ⟨some urls, none⟩

/-- The keys a purge of every OCSP server of a certificate needs: the three of each server, in
the certificate's order. -/
def allCacheKeys (md5Sum : List UInt8 → List.Vector UInt8 16) (req : List UInt8)
    (ocspServers : List String) : List String :=
  ocspServers.flatMap fun ocspServer => generateOCSPCacheKeys md5Sum req (withSlash ocspServer)

theorem length_allCacheKeys (md5Sum : List UInt8 → List.Vector UInt8 16) (req : List UInt8)
    (ocspServers : List String) : (allCacheKeys md5Sum req ocspServers).length = 3 * ocspServers.length := by
  induction ocspServers with
  | nil => rfl
  | cons ocspServer rest ih =>
    rw [allCacheKeys, List.flatMap_cons, List.length_append, ← allCacheKeys, ih,
      length_generateOCSPCacheKeys, List.length_cons]
    omega

/-- Once the certificate parses and the request is built, `sendPurge` hands the purge client
what its loop left: the keys of the last server, or nothing without a server. -/
theorem sendPurge_purged {lib : PurgeLibraries} {der : DER} {cert : X509Certificate}
    {req : List UInt8} (hparse : lib.parseCertificate der = .ok cert)
    (hreq : lib.createRequest cert = .ok req) :
    (sendPurge lib der).purged = some ((cert.ocspServer.getLast?.map fun ocspServer =>
      generateOCSPCacheKeys lib.md5Sum req (withSlash ocspServer)).getD []) := by
  rw [← foldl_overwrite]
  simp only [sendPurge, hparse, hreq]
  split <;> rfl

/-- **Only the last server is purged.** For a certificate that parses, with at least one OCSP
server, `sendPurge` gives the purge client the three keys of the last server. With one server
these are all the keys; with two or more, the keys of every other server are missing. -/
theorem sendPurge_purges_last_server (lib : PurgeLibraries) {der : DER}
    {cert : X509Certificate} {req : List UInt8} (hparse : lib.parseCertificate der = .ok cert)
    (hreq : lib.createRequest cert = .ok req) (hservers : cert.ocspServer ≠ []) :
    ∃ urls, (sendPurge lib der).purged = some urls ∧
      urls = generateOCSPCacheKeys lib.md5Sum req (withSlash (cert.ocspServer.getLast hservers)) ∧
      (cert.ocspServer.length = 1 → urls = allCacheKeys lib.md5Sum req cert.ocspServer) ∧
      (2 ≤ cert.ocspServer.length → urls ≠ allCacheKeys lib.md5Sum req cert.ocspServer) := by
  refine ⟨_, sendPurge_purged hparse hreq, ?_, ?_, ?_⟩
  · rw [List.getLast?_eq_some_getLast hservers]
    rfl
  · intro hone
    obtain ⟨ocspServer, hsingle⟩ := List.length_eq_one_iff.mp hone
    simp [hsingle, allCacheKeys]
  · intro htwo hall
    have hlen := congrArg List.length hall
    rw [length_allCacheKeys, List.getLast?_eq_some_getLast hservers] at hlen
    simp only [Option.map_some, Option.getD_some, length_generateOCSPCacheKeys] at hlen
    omega

/-- A certificate with two OCSP servers, the first without its slash. -/
def twoServerCertificate : X509Certificate :=
  { serialNumber := 1, publicKey := .ecdsa .p256 1 2, dnsNames := ["example.com"],
    ocspServer := ["http://ocsp.a.example", "http://ocsp.b.example/"] }

/-- Libraries that parse every DER into `twoServerCertificate`, whose OCSP request is one byte,
whose MD5 is zero, and whose purge client succeeds. -/
def twoServerLibraries : PurgeLibraries where
  parseCertificate := fun _ => .ok twoServerCertificate
  createRequest := fun _ => .ok [48]
  md5Sum := fun _ => List.Vector.replicate 16 0
  purge := fun _ => .ok ()

theorem sendPurge_purges_last_server_example :
    ∃ urls, (sendPurge twoServerLibraries [1]).purged = some urls ∧
      urls = generateOCSPCacheKeys twoServerLibraries.md5Sum [48]
        (withSlash "http://ocsp.b.example/") ∧
      (twoServerCertificate.ocspServer.length = 1 →
        urls = allCacheKeys twoServerLibraries.md5Sum [48] twoServerCertificate.ocspServer) ∧
      (2 ≤ twoServerCertificate.ocspServer.length →
        urls ≠ allCacheKeys twoServerLibraries.md5Sum [48] twoServerCertificate.ocspServer) :=
  sendPurge_purges_last_server twoServerLibraries rfl rfl (by simp [twoServerCertificate])

end Boulder.OCSP
