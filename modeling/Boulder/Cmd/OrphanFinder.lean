/-
# Boulder.Cmd.OrphanFinder -- reading orphaned certificates back from the CA's audit log

When `SA.AddCertificate` fails, `CertificateAuthorityImpl.IssueCertificate` audits the line
`Failed RPC to store at SA, orphaning certificate: serial=[s] cert=[hex] err=[e], regID=[r]`,
where `e` is the SA's error text after `berrors.InternalServerError` has read it as a format.
`orphan-finder parse-ca-log` reads each log line back with `parseLogLine`: it takes the
certificate from the leftmost match of `cert=\[([0-9a-f]+)\]` and the account from the leftmost
match of `regID=\[(\d+)\]`, and stores the certificate unless one with its serial exists.

The CA's serial is hex and so is the certificate, so the leftmost `cert=[…]` is the one the CA
wrote (`derOrphan_of_auditLine`). The error text, though, comes before `regID=[r]` and is the
SA's: when it contains `regID=[k]`, the leftmost match is there and the certificate is stored
for account `k` (`parseLogLine_misattributes`). Without such text in the error the line is read
back as written (`parseLogLine_recovers`), and every orphan line is reported found, whatever
becomes of it (`parseLogLine_found`).

`checkDER` asks the SA for the certificate's serial over gRPC. The SA refuses a serial that
`ValidSerial` rejects with a plain error, which reaches the client as an error of code `Unknown`;
only a `NotFound` error lets the certificate be added, so a serial of odd length, which
`SerialToString` gives a number of 37 or more hex digits, is reported as a failed lookup
(`checkDER_lookup_failed`). `x509.ParseCertificate` is a parameter, reduced to the serial a
certificate carries; the logging of `parseLogLine` is not modelled, and `AddCertificate`
succeeds.
-/
import Boulder.Lib.Regexp
import Boulder.Lib.GoStrings
import Boulder.Core.Util
import Boulder.Core.Objects
import Boulder.GRPC

namespace Boulder.Cmd

open Boulder.Core Boulder.Lib.GoStrings Boulder.Lib.Regexp Boulder.GRPC

/-! ## The audit line -/

/-- `log.auditTag`. -/
def auditTag : String := "[AUDIT]"

/-- The text `impl.auditAtLevel` hands the syslog writer. -/
def auditText (msg : String) : String := auditTag ++ " " ++ msg

/-- The message `IssueCertificate` audits when `SA.AddCertificate` fails with an error whose
text is `saErr`: the error is wrapped by `berrors.InternalServerError`, which formats the text
with no arguments, and printed with `%v`. -/
def orphanMessage (serialHex : String) (certDER : DER) (saErr : String) (regID : ℤ) : String :=
  "Failed RPC to store at SA, orphaning certificate: serial=[" ++ serialHex ++ "] cert=[" ++
    hexEncodeToString certDER ++ "] err=[" ++ sprintfNoArgs saErr ++ "], regID=[" ++
      toString regID ++ "]"

/-! ## `parseLogLine` -/

/-- The class `[0-9a-f]`. -/
def isLowerHex (c : Char) : Bool := c.isDigit || (97 ≤ c.toNat && c.toNat ≤ 102)

/-- `derOrphan`: `cert=\[([0-9a-f]+)\]`. -/
def derOrphan : Bracket := ⟨"cert=[".toList, isLowerHex, ']', by decide⟩

/-- `regOrphan`: `regID=\[(\d+)\]`. -/
def regOrphan : Bracket := ⟨"regID=[".toList, Char.isDigit, ']', by decide⟩

/-- `x509.ParseCertificate`, reduced to the serial number of the certificate it parses, or its
error's text. No certificate parses from no bytes. -/
structure X509Parser where
  parseCertificate : DER → Except String ℕ
  parse_nil : ∀ n, parseCertificate [] ≠ .ok n

/-- The SA as `orphan-finder` uses it: the serials of the stored certificates, and the
certificates `AddCertificate` has been given, with their account. -/
structure OrphanStore where
  serials : List String
  added : List (DER × ℤ)

/-- `errAlreadyExists`. -/
def errAlreadyExists : String := "Certificate already exists in DB"

/-- `GetCertificate` as the gRPC client returns its error: the SA's `fmt.Errorf` for a serial
`ValidSerial` rejects, none for a stored certificate, and `berrors.NotFoundError` otherwise, each
through the two interceptors. -/
def getCertificate (sa : OrphanStore) (serial : String) : Option GoError :=
  roundTrip (fun _ => none)
    (if !validSerial serial then some (.other ("Invalid certificate serial " ++ serial))
     else if serial ∈ sa.serials then none
     else some (.boulder ⟨.notFound, "certificate with serial \"" ++ serial ++ "\" not found"⟩))

/-- The test `err.(core.NotFoundError)` or `berrors.Is(err, berrors.NotFound)`. -/
def isNotFound : GoError → Bool
  | .core .notFound _ => true
  | .boulder err => err.type = .notFound
  | _ => false

/-- `checkDER`: the certificate parses and the SA answers that no certificate has its serial. -/
def checkDER (x509 : X509Parser) (sa : OrphanStore) (der : DER) : Except String Unit :=
  match x509.parseCertificate der with
  | .error e => .error ("Failed to parse DER: " ++ e)
  | .ok serial =>
    match getCertificate sa (serialToString serial) with
    | none => .error errAlreadyExists
    | some err =>
      if isNotFound err then .ok () else .error ("Existing certificate lookup failed: " ++ err.error)

/-- `parseLogLine`: whether the line is an orphan line, and whether its certificate was added;
`AddCertificate` is given the certificate and the account, with no OCSP response. -/
def parseLogLine (x509 : X509Parser) (sa : OrphanStore) (line : String) :
    (Bool × Bool) × OrphanStore :=
  if !contains line "cert=" || !contains line "orphaning certificate" then ((false, false), sa)
  else
    match findStringSubmatch derOrphan line.toList with
    | none => ((true, false), sa)
    | some derStr =>
      match hexDecodeString derStr with
      | none => ((true, false), sa)
      | some der =>
        match checkDER x509 sa der with
        | .error _ => ((true, false), sa)
        | .ok () =>
          match findStringSubmatch regOrphan line.toList with
          | none => ((true, false), sa)
          | some regStr =>
            match atoi (String.ofList regStr) with
            | .error _ => ((true, false), sa)
            | .ok regID => ((true, true), { sa with added := sa.added ++ [(der, regID)] })

/-! ## `checkDER` -/

/-- A certificate the SA does not hold, under a serial of at most 36 hex digits: the SA answers
`NotFound`, and `checkDER` passes. -/
theorem checkDER_eq_ok {x509 : X509Parser} {sa : OrphanStore} {d : DER} {n : ℕ}
    (hparse : x509.parseCertificate d = .ok n) (hn : n < 16 ^ 36)
    (hnew : serialToString n ∉ sa.serials) : checkDER x509 sa d = .ok () := by
  have hget : ∃ msg, getCertificate sa (serialToString n) = some (.boulder ⟨.notFound, msg⟩) := by
    simp only [getCertificate, validSerial_serialToString hn, Bool.not_true, Bool.false_eq_true,
      if_false, if_neg hnew, roundTrip_boulder]
    exact ⟨_, rfl⟩
  obtain ⟨msg, hmsg⟩ := hget
  simp [checkDER, hparse, hmsg, isNotFound]

/-- A serial of odd length fails `ValidSerial`; the SA's refusal crosses gRPC as an error of code
`Unknown`, which is not `NotFound`, so `checkDER` reports a failed lookup. -/
theorem checkDER_lookup_failed {x509 : X509Parser} {sa : OrphanStore} {d : DER} {n : ℕ}
    (hparse : x509.parseCertificate d = .ok n) (hodd : (serialToString n).length % 2 = 1) :
    checkDER x509 sa d = .error ("Existing certificate lookup failed: " ++
      GoError.error (.rpc codeUnknown
        (sprintfNoArgs ("Invalid certificate serial " ++ serialToString n)))) := by
  have hinvalid : validSerial (serialToString n) = false := by
    rw [← Bool.not_eq_true, validSerial_iff]
    omega
  simp [checkDER, hparse, getCertificate, hinvalid, roundTrip_other, isNotFound]

/-- A parser that knows one certificate, the byte `2`, with the serial `16 ^ 36`, 37 hex digits. -/
def longSerialParser : X509Parser where
  parseCertificate d := if d = [2] then .ok (16 ^ 36) else .error "malformed"
  parse_nil n h := by simp at h

example : checkDER longSerialParser ⟨[], []⟩ [2] =
    .error ("Existing certificate lookup failed: rpc error: code = Unknown desc = " ++
      "Invalid certificate serial 1000000000000000000000000000000000000") := by
  decide +kernel

/-- **Spec of `parseLogLine`.** An orphan line whose certificate decodes and passes `checkDER`,
and whose account reads as a 64-bit integer, adds the certificate for that account. -/
theorem parseLogLine_eq_added {x509 : X509Parser} {sa : OrphanStore} {line : String} {d : DER}
    {k : ℤ} (hcert : contains line "cert=" = true)
    (horph : contains line "orphaning certificate" = true)
    (hder : findStringSubmatch derOrphan line.toList = some (hexEncodeToString d).toList)
    (hcheck : checkDER x509 sa d = .ok ())
    (hreg : findStringSubmatch regOrphan line.toList = some (toString k).toList)
    (hlo : -2 ^ 63 ≤ k) (hhi : k < 2 ^ 63) :
    parseLogLine x509 sa line = ((true, true), { sa with added := sa.added ++ [(d, k)] }) := by
  simp only [parseLogLine, hcert, horph, Bool.not_true, Bool.or_false, Bool.false_eq_true,
    if_false, hder, hexDecodeString_hexEncodeToString, hcheck, hreg, String.ofList_toList,
    atoi_toString hlo hhi]

/-! ## Reading the audit line -/

/-- The audit line, piece by piece. -/
theorem auditLine_toList (h serialHex : String) (certDER : DER) (saErr : String) (regID : ℤ) :
    (h ++ auditText (orphanMessage serialHex certDER saErr regID)).toList =
      h.toList ++ ("[AUDIT] Failed RPC to store at SA, orphaning certificate: serial=[".toList ++
        (serialHex.toList ++ ("] cert=[".toList ++ ((hexEncodeToString certDER).toList ++
          ("] err=[".toList ++ ((sprintfNoArgs saErr).toList ++ ("], ".toList ++
            ("regID=[".toList ++ ((toString regID).toList ++ "]".toList))))))))) := by
  unfold auditText auditTag orphanMessage
  simp only [String.toList_append, List.append_assoc]
  have htag : ∀ x : List Char, "[AUDIT]".toList ++ (" ".toList ++
      ("Failed RPC to store at SA, orphaning certificate: serial=[".toList ++ x)) =
      "[AUDIT] Failed RPC to store at SA, orphaning certificate: serial=[".toList ++ x := by
    intro x
    simp
  have hreg : ∀ x : List Char, "], regID=[".toList ++ x = "], ".toList ++ ("regID=[".toList ++ x) := by
    intro x
    simp
  rw [htag, hreg]

/-- Every character of the certificate's hex is in `[0-9a-f]`. -/
theorem isLowerHex_of_mem_hexEncodeToString {certDER : DER} {c : Char}
    (h : c ∈ (hexEncodeToString certDER).toList) : isLowerHex c = true := by
  rcases mem_hexEncodeToString h with hd | ⟨hlo, hhi⟩
  · simp [isLowerHex, hd]
  · have hlo' : 97 ≤ c.toNat := UInt32.le_iff_toNat_le.mp (Char.le_def.mp hlo)
    have hhi' : c.toNat ≤ 102 := UInt32.le_iff_toNat_le.mp (Char.le_def.mp hhi)
    simp [isLowerHex, hlo', hhi']

/-- The decimal digits of a non-negative integer. -/
theorem toString_toList_of_nonneg {k : ℤ} (hk : 0 ≤ k) :
    (toString k).toList = Nat.toDigits 10 k.toNat := by
  obtain ⟨n, rfl⟩ := Int.eq_ofNat_of_zero_le hk
  show (Nat.repr n).toList = _
  rw [Nat.toList_repr]
  rfl

/-- A header without `cert=[`, the CA's hex serial and the fixed text: no match of
`derOrphan` starts before the certificate. -/
theorem noMatchIn_derOrphan_head {h s : String} (hh : ¬ "cert=[".toList <:+: h.toList)
    (hs : ∀ c ∈ s.toList, isLowerHex c = true) (z : List Char) :
    NoMatchIn derOrphan (h.toList ++
      "[AUDIT] Failed RPC to store at SA, orphaning certificate: serial=[".toList ++ s.toList ++
        "] ".toList) z :=
  (((noMatchIn_of_not_infix_of_failsEarly hh (by decide)).append
    (noMatchIn_of_fixed (by decide) (by decide))).append
      (noMatchIn_of_forall_of_failsEarly (q := isLowerHex) (by decide) hs (by decide))).append
        (noMatchIn_of_fixed (by decide) (by decide))

/-- **The certificate is read back.** With a header without `cert=[` and the CA's hex serial,
the leftmost `cert=[…]` is the certificate the CA wrote. -/
theorem derOrphan_of_auditLine {h s : String} {certDER : DER} {saErr : String} {regID : ℤ}
    (hh : ¬ "cert=[".toList <:+: h.toList) (hs : ∀ c ∈ s.toList, isLowerHex c = true)
    (hd : certDER ≠ []) :
    findStringSubmatch derOrphan (h ++ auditText (orphanMessage s certDER saErr regID)).toList =
      some (hexEncodeToString certDER).toList := by
  have hne : (hexEncodeToString certDER).toList ≠ [] := by
    obtain ⟨b, bs, rfl⟩ := List.exists_cons_of_ne_nil hd
    simp [hexEncodeToString, hexByte]
  have hsplit : (h ++ auditText (orphanMessage s certDER saErr regID)).toList =
      (h.toList ++ "[AUDIT] Failed RPC to store at SA, orphaning certificate: serial=[".toList ++
        s.toList ++ "] ".toList) ++
        (derOrphan.lit ++ (hexEncodeToString certDER).toList ++ derOrphan.close ::
          (" err=[".toList ++ ((sprintfNoArgs saErr).toList ++ ("], ".toList ++
            ("regID=[".toList ++ ((toString regID).toList ++ "]".toList)))))) := by
    have hcert : "] cert=[".toList = "] ".toList ++ derOrphan.lit := by decide
    have herr : "] err=[".toList = derOrphan.close :: " err=[".toList := by decide
    rw [auditLine_toList, hcert, herr]
    simp only [List.append_assoc, List.cons_append]
  rw [hsplit, findStringSubmatch_append (noMatchIn_derOrphan_head hh hs _)]
  exact findStringSubmatch_of_matchAt
    (matchAt_lit_append hne (fun c hc => isLowerHex_of_mem_hexEncodeToString hc) _)

/-- A header without `regID=[`, the CA's hex serial, the certificate's hex and the fixed text:
no match of `regOrphan` starts before the error text. -/
theorem noMatchIn_regOrphan_head {h s : String} {certDER : DER}
    (hh : ¬ "regID=[".toList <:+: h.toList) (hs : ∀ c ∈ s.toList, isLowerHex c = true)
    (z : List Char) :
    NoMatchIn regOrphan (h.toList ++
      "[AUDIT] Failed RPC to store at SA, orphaning certificate: serial=[".toList ++ s.toList ++
        "] cert=[".toList ++ (hexEncodeToString certDER).toList ++ "] err=[".toList) z :=
  (((((noMatchIn_of_not_infix_of_failsEarly hh (by decide)).append
    (noMatchIn_of_fixed (by decide) (by decide))).append
      (noMatchIn_of_forall_of_failsEarly (q := isLowerHex) (by decide) hs (by decide))).append
        (noMatchIn_of_fixed (by decide) (by decide))).append
          (noMatchIn_of_forall_of_failsEarly (q := isLowerHex) (by decide)
            (fun c hc => isLowerHex_of_mem_hexEncodeToString hc) (by decide))).append
            (noMatchIn_of_fixed (by decide) (by decide))

/-- The account's decimal digits: a non-empty run of `\d`. -/
theorem toString_isDigit {k : ℤ} (hk : 0 ≤ k) :
    (toString k).toList ≠ [] ∧ ∀ c ∈ (toString k).toList, c.isDigit = true := by
  rw [toString_toList_of_nonneg hk]
  exact ⟨Nat.toDigits_ne_nil, fun c hc => Nat.isDigit_of_mem_toDigits (by decide) (by decide) hc⟩

/-- **The account is read back.** With a header without `regID=[`, the CA's hex serial and an
error text without `regID=[`, the leftmost `regID=[…]` is the account the CA wrote. -/
theorem regOrphan_of_auditLine {h s : String} {certDER : DER} {saErr : String} {regID : ℤ}
    (hh : ¬ "regID=[".toList <:+: h.toList) (hs : ∀ c ∈ s.toList, isLowerHex c = true)
    (herr : ¬ "regID=[".toList <:+: (sprintfNoArgs saErr).toList) (hr : 0 ≤ regID) :
    findStringSubmatch regOrphan (h ++ auditText (orphanMessage s certDER saErr regID)).toList =
      some (toString regID).toList := by
  obtain ⟨hne, hdig⟩ := toString_isDigit hr
  have hsplit : (h ++ auditText (orphanMessage s certDER saErr regID)).toList =
      (h.toList ++ "[AUDIT] Failed RPC to store at SA, orphaning certificate: serial=[".toList ++
        s.toList ++ "] cert=[".toList ++ (hexEncodeToString certDER).toList ++
          "] err=[".toList ++ (sprintfNoArgs saErr).toList ++ "], ".toList) ++
        (regOrphan.lit ++ (toString regID).toList ++ regOrphan.close :: []) := by
    have hlit : regOrphan.lit = "regID=[".toList := rfl
    have hclose : "]".toList = [regOrphan.close] := by decide
    rw [auditLine_toList, hlit, hclose]
    simp only [List.append_assoc]
  rw [hsplit, findStringSubmatch_append (((noMatchIn_regOrphan_head hh hs _).append
    (noMatchIn_of_not_infix_of_failsEarly herr (by decide))).append
      (noMatchIn_of_fixed (by decide) (by decide)))]
  exact findStringSubmatch_of_matchAt (matchAt_lit_append hne hdig _)

/-- **An error text naming an account.** When the SA's error text is `regID=[k]`, the leftmost
`regID=[…]` is in the error, and the account read back is `k`, whatever the CA wrote. -/
theorem regOrphan_of_auditLine_err {h s : String} {certDER : DER} {k regID : ℤ}
    (hh : ¬ "regID=[".toList <:+: h.toList) (hs : ∀ c ∈ s.toList, isLowerHex c = true)
    (hk : 0 ≤ k) :
    findStringSubmatch regOrphan
      (h ++ auditText (orphanMessage s certDER ("regID=[" ++ toString k ++ "]") regID)).toList =
      some (toString k).toList := by
  obtain ⟨hne, hdig⟩ := toString_isDigit hk
  have hfmt : sprintfNoArgs ("regID=[" ++ toString k ++ "]") = "regID=[" ++ toString k ++ "]" := by
    apply sprintfNoArgs_of_not_mem
    have hdigits : '%' ∉ (toString k).toList := fun hc => absurd (hdig _ hc) (by decide)
    simp only [String.toList_append, List.mem_append, not_or]
    exact ⟨⟨by decide, hdigits⟩, by decide⟩
  have hsplit : (h ++ auditText
      (orphanMessage s certDER ("regID=[" ++ toString k ++ "]") regID)).toList =
      (h.toList ++ "[AUDIT] Failed RPC to store at SA, orphaning certificate: serial=[".toList ++
        s.toList ++ "] cert=[".toList ++ (hexEncodeToString certDER).toList ++
          "] err=[".toList) ++
        (regOrphan.lit ++ (toString k).toList ++ regOrphan.close ::
          ("], ".toList ++ ("regID=[".toList ++ ((toString regID).toList ++ "]".toList)))) := by
    have hlit : regOrphan.lit = "regID=[".toList := rfl
    have hclose : "]".toList = [regOrphan.close] := by decide
    rw [auditLine_toList, hfmt, hlit, String.toList_append, String.toList_append, hclose]
    simp only [List.append_assoc, List.cons_append, List.nil_append]
  rw [hsplit, findStringSubmatch_append (noMatchIn_regOrphan_head hh hs _)]
  exact findStringSubmatch_of_matchAt (matchAt_lit_append hne hdig _)

/-- The two texts `parseLogLine` looks for first are in every orphan line: `cert=` in the
format's `] cert=[`, and `orphaning certificate` in its first piece. -/
theorem contains_auditLine (h s : String) (certDER : DER) (saErr : String) (regID : ℤ) :
    contains (h ++ auditText (orphanMessage s certDER saErr regID)) "cert=" = true ∧
      contains (h ++ auditText (orphanMessage s certDER saErr regID))
        "orphaning certificate" = true := by
  have hline := auditLine_toList h s certDER saErr regID
  simp only [contains, decide_eq_true_eq]
  constructor
  · have hcert : "cert=".toList <:+: "] cert=[".toList := by decide
    refine hcert.trans ?_
    rw [hline, ← List.append_assoc, ← List.append_assoc]
    exact List.infix_append' _ _ _
  · have horph : "orphaning certificate".toList <:+:
        "[AUDIT] Failed RPC to store at SA, orphaning certificate: serial=[".toList := by decide
    refine horph.trans ?_
    rw [hline]
    exact List.infix_append' _ _ _

/-- Every orphan line is reported found, whatever happens to its certificate. -/
theorem parseLogLine_found (x509 : X509Parser) (sa : OrphanStore) (h s : String) (certDER : DER)
    (saErr : String) (regID : ℤ) :
    (parseLogLine x509 sa (h ++ auditText (orphanMessage s certDER saErr regID))).1.1 = true := by
  obtain ⟨hcert, horph⟩ := contains_auditLine h s certDER saErr regID
  rw [parseLogLine, if_neg (by simp [hcert, horph])]
  repeat' split
  all_goals rfl

/-- **Recovery.** A line whose error text names no account is read back as written: the
certificate is added for the account the CA wrote. -/
theorem parseLogLine_recovers (x509 : X509Parser) (sa : OrphanStore) {h s saErr : String}
    {certDER : DER} {n : ℕ} {regID : ℤ} (hh : ¬ "cert=[".toList <:+: h.toList)
    (hh' : ¬ "regID=[".toList <:+: h.toList) (hs : ∀ c ∈ s.toList, isLowerHex c = true)
    (herr : ¬ "regID=[".toList <:+: (sprintfNoArgs saErr).toList)
    (hparse : x509.parseCertificate certDER = .ok n) (hn : n < 16 ^ 36)
    (hnew : serialToString n ∉ sa.serials) (hr : 0 ≤ regID) (hr' : regID < 2 ^ 63) :
    parseLogLine x509 sa (h ++ auditText (orphanMessage s certDER saErr regID)) =
      ((true, true), { sa with added := sa.added ++ [(certDER, regID)] }) := by
  obtain ⟨hcert, horph⟩ := contains_auditLine h s certDER saErr regID
  have hd : certDER ≠ [] := fun hnil => x509.parse_nil n (hnil ▸ hparse)
  exact parseLogLine_eq_added hcert horph (derOrphan_of_auditLine hh hs hd)
    (checkDER_eq_ok hparse hn hnew) (regOrphan_of_auditLine hh' hs herr hr) (by omega) hr'

/-- **Misattribution.** A line whose SA error text is `regID=[k]` has its certificate added for
account `k`, not for the account the CA wrote. -/
theorem parseLogLine_misattributes (x509 : X509Parser) (sa : OrphanStore) {h s : String}
    {certDER : DER} {n : ℕ} {k regID : ℤ} (hh : ¬ "cert=[".toList <:+: h.toList)
    (hh' : ¬ "regID=[".toList <:+: h.toList) (hs : ∀ c ∈ s.toList, isLowerHex c = true)
    (hparse : x509.parseCertificate certDER = .ok n) (hn : n < 16 ^ 36)
    (hnew : serialToString n ∉ sa.serials) (hk : 0 ≤ k) (hk' : k < 2 ^ 63) :
    parseLogLine x509 sa
      (h ++ auditText (orphanMessage s certDER ("regID=[" ++ toString k ++ "]") regID)) =
      ((true, true), { sa with added := sa.added ++ [(certDER, k)] }) := by
  obtain ⟨hcert, horph⟩ := contains_auditLine h s certDER ("regID=[" ++ toString k ++ "]") regID
  have hd : certDER ≠ [] := fun hnil => x509.parse_nil n (hnil ▸ hparse)
  exact parseLogLine_eq_added hcert horph (derOrphan_of_auditLine hh hs hd)
    (checkDER_eq_ok hparse hn hnew) (regOrphan_of_auditLine_err hh' hs hk) (by omega) hk'

/-! ## A line that goes wrong -/

/-- A parser that knows one certificate, the byte `1`, with serial `1`. -/
def exampleParser : X509Parser where
  parseCertificate d := if d = [1] then .ok 1 else .error "malformed"
  parse_nil n h := by simp at h

/-- The CA wrote account 2 and the SA's error named account 1: the certificate goes to 1. -/
theorem parseLogLine_misattributes_example :
    parseLogLine exampleParser ⟨[], []⟩
      ("" ++ auditText (orphanMessage "00" [1] ("regID=[" ++ toString (1 : ℤ) ++ "]") 2)) =
      ((true, true), ⟨[], [([1], 1)]⟩) :=
  parseLogLine_misattributes exampleParser ⟨[], []⟩ (by decide) (by decide)
    (List.all_eq_true.mp (by decide)) rfl (by norm_num) List.not_mem_nil (by decide) (by decide)

/-- An error text without an account: the certificate goes to the account the CA wrote. -/
theorem parseLogLine_recovers_example :
    parseLogLine exampleParser ⟨[], []⟩ ("" ++ auditText (orphanMessage "00" [1] "timeout" 2)) =
      ((true, true), ⟨[], [([1], 2)]⟩) :=
  parseLogLine_recovers exampleParser ⟨[], []⟩ (by decide) (by decide)
    (List.all_eq_true.mp (by decide)) (by decide) rfl (by norm_num) List.not_mem_nil (by decide)
    (by decide)

end Boulder.Cmd
