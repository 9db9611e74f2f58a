/-
# Boulder.CSR -- checking a certificate signing request

`VerifyCSR` first normalises the request in place (`normalizeCSR`): the common name joins the
DNS names, or, with `forceCNFromSAN` and no common name, the first DNS name becomes the common
name; then the common name is lowercased and the DNS names are lowercased, sorted and freed of
repeats. The checks that follow read the normalised request, and so does the RA afterwards,
which is why `verifyCSR` returns the request with its verdict.

`checkCSR_eq_ok` says what the checks accept, as the structure `Acceptable`: a good key, a
supported signature made by that key, no e-mail or IP address, some name, a short common name,
at most `maxNames` DNS names, and the policy authority's consent for each DNS name.
`normalizeCSR_dnsNames` says which names those are: the lowercased DNS names and common name
of the submitted request.
-/
import Boulder.Goodkey
import Boulder.Core.Util

namespace Boulder.CSR

open Boulder.Core Boulder.Jose Boulder.Goodkey Boulder.Lib.GoStrings Boulder.Lib.Loop

/-- `maxCNLength`: RFC 5280's bound on the common name, in bytes. -/
def maxCNLength : ℕ := 64

/-- `badSignatureAlgorithms`: no MD2, MD5 or SHA-1 with ECDSA, no DSA. -/
def badSignatureAlgorithms : List SignatureAlgorithm :=
  [.unknownSignatureAlgorithm, .md2WithRSA, .md5WithRSA, .dsaWithSHA1, .dsaWithSHA256,
    .ecdsaWithSHA1]

def invalidPubKey : String := "invalid public key in CSR"
def unsupportedSigAlg : String := "signature algorithm not supported"
def invalidSig : String := "invalid signature on CSR"
def invalidEmailPresent : String := "CSR contains one or more email address fields"
def invalidIPPresent : String := "CSR contains one or more IP address fields"
def invalidNoDNS : String := "at least one DNS name is required"

/-- The names a request asks for: its DNS names, then its common name if it has one. This is
also how `MatchesCSR` collects them. -/
def requestedNames (csr : CertificateRequest) : List String :=
  csr.dnsNames ++ if csr.subject.commonName = "" then [] else [csr.subject.commonName]

/-- `normalizeCSR`. -/
def normalizeCSR (csr : CertificateRequest) (forceCNFromSAN : Bool) : CertificateRequest :=
  let csr :=
    if forceCNFromSAN = true ∧ csr.subject.commonName = "" then
      match csr.dnsNames with
      | name :: _ => { csr with subject := { csr.subject with commonName := name } }
      | [] => csr
    else if csr.subject.commonName ≠ "" then
      { csr with dnsNames := csr.dnsNames ++ [csr.subject.commonName] }
    else csr
  { csr with
    subject := { csr.subject with commonName := toLower csr.subject.commonName }
    dnsNames := uniqueLowerNames csr.dnsNames }

/-- The checks of `VerifyCSR`, on the normalised request, in the order the source makes them. -/
def checkCSR (arith : CurveArithmetic) (csr : CertificateRequest) (maxNames : ℕ)
    (keyPolicy : KeyPolicy) (pa : PolicyAuthority) : Except String Unit :=
  match csr.publicKey with
  | none => .error invalidPubKey
  | some key =>
    match keyPolicy.goodKey arith key with
    | .error err => .error ("invalid public key in CSR: " ++ err.detail)
    | .ok () =>
      if csr.signatureAlgorithm ∈ badSignatureAlgorithms then .error unsupportedSigAlg
      else if !csr.checkSignature then .error invalidSig
      else if csr.emailAddresses ≠ [] then .error invalidEmailPresent
      else if csr.ipAddresses ≠ [] then .error invalidIPPresent
      else if csr.dnsNames = [] ∧ csr.subject.commonName = "" then .error invalidNoDNS
      else if csr.subject.commonName.utf8ByteSize > maxCNLength then
        .error ("CN was longer than " ++ toString maxCNLength ++ " bytes")
      else if maxNames > 0 ∧ csr.dnsNames.length > maxNames then
        .error ("CSR contains more than " ++ toString maxNames ++ " DNS names")
      else
        let badNames := csr.dnsNames.filter fun name => !(pa.willingToIssue ⟨.dns, name⟩).isOk
        if badNames ≠ [] then .error ("policy forbids issuing for: " ++ join (badNames.map quote) ", ")
        else .ok ()

/-- `VerifyCSR`: the request as normalised in place, and the verdict of the checks. The
registration ID the source also takes is not read. -/
def verifyCSR (arith : CurveArithmetic) (csr : CertificateRequest) (maxNames : ℕ)
    (keyPolicy : KeyPolicy) (pa : PolicyAuthority) (forceCNFromSAN : Bool) :
    CertificateRequest × Except String Unit :=
  let csr := normalizeCSR csr forceCNFromSAN
  (csr, checkCSR arith csr maxNames keyPolicy pa)

/-! ## What the checks accept -/

/-- What `VerifyCSR` demands of a normalised request. -/
structure Acceptable (arith : CurveArithmetic) (maxNames : ℕ) (keyPolicy : KeyPolicy)
    (pa : PolicyAuthority) (csr : CertificateRequest) : Prop where
  goodKey : ∃ key, csr.publicKey = some key ∧ keyPolicy.goodKey arith key = .ok ()
  algorithm : csr.signatureAlgorithm ∉ badSignatureAlgorithms
  signature : csr.checkSignature = true
  noEmail : csr.emailAddresses = []
  noIP : csr.ipAddresses = []
  hasName : csr.dnsNames ≠ [] ∨ csr.subject.commonName ≠ ""
  shortCN : csr.subject.commonName.utf8ByteSize ≤ maxCNLength
  fewNames : maxNames = 0 ∨ csr.dnsNames.length ≤ maxNames
  willing : ∀ name ∈ csr.dnsNames, pa.willingToIssue ⟨.dns, name⟩ = .ok ()

/-- The policy loop finds no bad name exactly when the policy authority consents to each. -/
theorem filter_willing_eq_nil {pa : PolicyAuthority} {names : List String} :
    names.filter (fun name => !(pa.willingToIssue ⟨.dns, name⟩).isOk) = [] ↔
      ∀ name ∈ names, pa.willingToIssue ⟨.dns, name⟩ = .ok () := by
  rw [List.filter_eq_nil_iff]
  refine forall₂_congr fun name _ => ?_
  cases pa.willingToIssue ⟨.dns, name⟩ <;> simp [Except.isOk, Except.toBool]

/-- **The checks are exactly `Acceptable`.** -/
theorem checkCSR_eq_ok {arith : CurveArithmetic} {csr : CertificateRequest} {maxNames : ℕ}
    {keyPolicy : KeyPolicy} {pa : PolicyAuthority} :
    checkCSR arith csr maxNames keyPolicy pa = .ok () ↔ Acceptable arith maxNames keyPolicy pa csr := by
  unfold checkCSR
  cases hk : csr.publicKey with
  | none =>
    simp only [reduceCtorEq, false_iff]
    exact fun h => by simpa [hk] using h.goodKey
  | some key =>
    cases hg : keyPolicy.goodKey arith key with
    | error e =>
      simp only [hg, reduceCtorEq, false_iff]
      intro h
      obtain ⟨key', hk', hg'⟩ := h.goodKey
      rw [hk, Option.some.injEq] at hk'
      rw [← hk', hg] at hg'
      cases hg'
    | ok u =>
      simp only [hg, ite_error_eq_ok, Bool.not_eq_true', Bool.not_eq_false, ne_eq, not_not, not_lt,
        not_and_or, Nat.le_zero, and_true]
      constructor
      · rintro ⟨halg, hsig, hemail, hip, hname, hcn, hmax, hbad⟩
        exact ⟨⟨key, hk, hg⟩, halg, hsig, hemail, hip, hname, hcn, hmax,
          filter_willing_eq_nil.mp hbad⟩
      · intro h
        exact ⟨h.algorithm, h.signature, h.noEmail, h.noIP, h.hasName, h.shortCN, h.fewNames,
          filter_willing_eq_nil.mpr h.willing⟩

/-! ## What normalisation does -/

/-- The normalised DNS names are the lowercased requested names, sorted and without repeats. -/
theorem normalizeCSR_dnsNames (csr : CertificateRequest) (forceCNFromSAN : Bool) :
    (normalizeCSR csr forceCNFromSAN).dnsNames = uniqueLowerNames (requestedNames csr) := by
  unfold normalizeCSR requestedNames
  by_cases hf : forceCNFromSAN = true ∧ csr.subject.commonName = ""
  · rw [if_pos hf]
    cases hd : csr.dnsNames <;> simp [hd, hf.2]
  · rw [if_neg hf]
    by_cases hcn : csr.subject.commonName = ""
    · simp [hcn]
    · simp [hcn]

/-- A common name the request had is kept, lowercased. -/
theorem normalizeCSR_commonName {csr : CertificateRequest} (forceCNFromSAN : Bool)
    (hcn : csr.subject.commonName ≠ "") :
    (normalizeCSR csr forceCNFromSAN).subject.commonName = toLower csr.subject.commonName := by
  simp [normalizeCSR, hcn]

/-- A non-empty normalised common name is one of the normalised DNS names. -/
theorem normalizeCSR_commonName_mem {csr : CertificateRequest} {forceCNFromSAN : Bool}
    (hcn : (normalizeCSR csr forceCNFromSAN).subject.commonName ≠ "") :
    (normalizeCSR csr forceCNFromSAN).subject.commonName ∈
      (normalizeCSR csr forceCNFromSAN).dnsNames := by
  rw [normalizeCSR_dnsNames, mem_uniqueLowerNames]
  by_cases hf : forceCNFromSAN = true ∧ csr.subject.commonName = ""
  · cases hd : csr.dnsNames with
    | nil =>
      simp [normalizeCSR, hf, hd] at hcn
      exact (hcn (by decide)).elim
    | cons name rest =>
      have : (normalizeCSR csr forceCNFromSAN).subject.commonName = toLower name := by
        simp [normalizeCSR, hf, hd]
      rw [this]
      exact List.mem_map_of_mem (by simp [requestedNames, hd])
  · have hne : csr.subject.commonName ≠ "" := by
      intro h
      have hforce : forceCNFromSAN = false := by simpa [h] using hf
      simp [normalizeCSR, h, hforce] at hcn
      exact hcn (by decide)
    rw [normalizeCSR_commonName _ hne]
    exact List.mem_map_of_mem (by simp [requestedNames, hne])

/-- The names `MatchesCSR` collects from a normalised request are its DNS names: the common
name is lowercase and among them. -/
theorem mem_requestedNames_normalizeCSR {csr : CertificateRequest} {forceCNFromSAN : Bool}
    {x : String} :
    x ∈ uniqueLowerNames (requestedNames (normalizeCSR csr forceCNFromSAN)) ↔
      x ∈ (normalizeCSR csr forceCNFromSAN).dnsNames := by
  rw [mem_uniqueLowerNames]
  set n := normalizeCSR csr forceCNFromSAN with hn
  have hdns : ∀ y ∈ n.dnsNames, toLower y = y := fun y hy =>
    toLower_of_mem_uniqueLowerNames (by rwa [hn, normalizeCSR_dnsNames] at hy)
  constructor
  · intro hx
    obtain ⟨y, hy, rfl⟩ := List.mem_map.mp hx
    rcases List.mem_append.mp hy with hy | hy
    · rwa [hdns y hy]
    · have hcn : n.subject.commonName ≠ "" := by
        intro h
        simp [h] at hy
      have hy' : y = n.subject.commonName := by simpa [hcn] using hy
      have hmem := normalizeCSR_commonName_mem hcn
      rw [hy', hdns _ hmem]
      exact hmem
  · intro hx
    exact List.mem_map.mpr ⟨x, List.mem_append_left _ hx, hdns x hx⟩

/-! ## The normal form -/

/-- The normalised DNS names are the lowercased DNS names of the request, and its lowercased
common name when it has one. -/
theorem mem_normalizeCSR_dnsNames {csr : CertificateRequest} {forceCNFromSAN : Bool} {x : String} :
    x ∈ (normalizeCSR csr forceCNFromSAN).dnsNames ↔
      x ∈ csr.dnsNames.map toLower ∨
        (csr.subject.commonName ≠ "" ∧ x = toLower csr.subject.commonName) := by
  rw [normalizeCSR_dnsNames, mem_uniqueLowerNames, requestedNames, List.map_append,
    List.mem_append]
  by_cases hcn : csr.subject.commonName = ""
  · simp [hcn]
  · simp [hcn, eq_comm]

/-- The normalised common name is lowercase: the last assignment lowers whatever the branches
left. -/
theorem toLower_normalizeCSR_commonName (csr : CertificateRequest) (forceCNFromSAN : Bool) :
    toLower (normalizeCSR csr forceCNFromSAN).subject.commonName =
      (normalizeCSR csr forceCNFromSAN).subject.commonName :=
  toLower_toLower _

/-- With `forceCNFromSAN` and no common name, the first DNS name, lowercased, becomes the
common name; with no DNS name either, it stays empty. -/
theorem normalizeCSR_hoists {csr : CertificateRequest} (hcn : csr.subject.commonName = "") :
    (normalizeCSR csr true).subject.commonName = toLower (csr.dnsNames.headD "") := by
  cases hd : csr.dnsNames with
  | nil => simp [normalizeCSR, hcn, hd]
  | cons name rest => simp [normalizeCSR, hcn, hd]

/-- The two last assignments keep a request whose fields are already in normal form. -/
theorem normalize_fields_of_normal {csr : CertificateRequest}
    (hcn : toLower csr.subject.commonName = csr.subject.commonName)
    (hdns : uniqueLowerNames csr.dnsNames = csr.dnsNames) :
    { csr with
      subject := { csr.subject with commonName := toLower csr.subject.commonName }
      dnsNames := uniqueLowerNames csr.dnsNames } = csr := by
  rw [hcn, hdns]

/-- A request whose DNS names form a name set, whose common name is lowercase and among them or
empty, and which would hoist no name but the empty one, is its own normal form. -/
theorem normalizeCSR_of_normal {csr : CertificateRequest} {forceCNFromSAN : Bool}
    (hdns : uniqueLowerNames csr.dnsNames = csr.dnsNames)
    (hcn : toLower csr.subject.commonName = csr.subject.commonName)
    (hmem : csr.subject.commonName ≠ "" → csr.subject.commonName ∈ csr.dnsNames)
    (hhead : forceCNFromSAN = true → csr.subject.commonName = "" → csr.dnsNames.headD "" = "") :
    normalizeCSR csr forceCNFromSAN = csr := by
  unfold normalizeCSR
  by_cases hf : forceCNFromSAN = true ∧ csr.subject.commonName = ""
  · rw [if_pos hf]
    split
    · rename_i name rest hd
      have hname : name = csr.subject.commonName := by
        have hfirst := hhead hf.1 hf.2
        rw [hd] at hfirst
        rw [hf.2]
        exact hfirst
      rw [hname]
      exact normalize_fields_of_normal hcn hdns
    · exact normalize_fields_of_normal hcn hdns
  · rw [if_neg hf]
    by_cases hempty : csr.subject.commonName = ""
    · rw [if_neg (not_not.mpr hempty)]
      exact normalize_fields_of_normal hcn hdns
    · rw [if_pos hempty]
      have hset : uniqueLowerNames (csr.dnsNames ++ [csr.subject.commonName]) = csr.dnsNames := by
        rw [← hdns, uniqueLowerNames_eq_iff, hdns]
        intro x
        simp only [List.map_append, List.map_singleton, List.mem_append, List.mem_singleton]
        constructor
        · rintro (hx | rfl)
          · exact hx
          · exact List.mem_map_of_mem (hmem hempty)
        · exact Or.inl
      simp only [hset, hcn]

/-- **Normalisation is idempotent.** -/
theorem normalizeCSR_normalizeCSR (csr : CertificateRequest) (forceCNFromSAN : Bool) :
    normalizeCSR (normalizeCSR csr forceCNFromSAN) forceCNFromSAN =
      normalizeCSR csr forceCNFromSAN := by
  apply normalizeCSR_of_normal
  · rw [normalizeCSR_dnsNames]
    exact uniqueLowerNames_uniqueLowerNames _
  · exact toLower_normalizeCSR_commonName csr forceCNFromSAN
  · exact normalizeCSR_commonName_mem
  · intro hforce hempty
    have hcn : csr.subject.commonName = "" := by
      by_contra hne
      rw [normalizeCSR_commonName _ hne, toLower_eq_empty] at hempty
      exact hne hempty
    subst hforce
    rw [normalizeCSR_hoists hcn, toLower_eq_empty] at hempty
    rw [normalizeCSR_dnsNames]
    cases hd : csr.dnsNames with
    | nil => simp [requestedNames, hd, hcn, uniqueLowerNames, sortStrings]
    | cons name rest =>
      rw [hd, List.headD_cons] at hempty
      apply headD_uniqueLowerNames
      rw [mem_uniqueLowerNames]
      exact List.mem_map.mpr ⟨name, by simp [requestedNames, hd], by rw [hempty]; rfl⟩

/-- **The normal form of a request.** After `normalizeCSR` the DNS names are sorted, free of
repeats and lowercase, and are the lowercased DNS names and common name of the request; the
common name is lowercase and empty or among them, and is the first DNS name when it was hoisted;
and normalising again changes nothing. -/
theorem normalizeCSR_postcondition (csr : CertificateRequest) (forceCNFromSAN : Bool) :
    (normalizeCSR csr forceCNFromSAN).dnsNames.SortedLE ∧
    (normalizeCSR csr forceCNFromSAN).dnsNames.Nodup ∧
    (∀ x ∈ (normalizeCSR csr forceCNFromSAN).dnsNames, toLower x = x) ∧
    (∀ x, x ∈ (normalizeCSR csr forceCNFromSAN).dnsNames ↔
      x ∈ csr.dnsNames.map toLower ∨
        (csr.subject.commonName ≠ "" ∧ x = toLower csr.subject.commonName)) ∧
    toLower (normalizeCSR csr forceCNFromSAN).subject.commonName =
      (normalizeCSR csr forceCNFromSAN).subject.commonName ∧
    ((normalizeCSR csr forceCNFromSAN).subject.commonName = "" ∨
      (normalizeCSR csr forceCNFromSAN).subject.commonName ∈
        (normalizeCSR csr forceCNFromSAN).dnsNames) ∧
    (forceCNFromSAN = true ∧ csr.subject.commonName = "" →
      (normalizeCSR csr forceCNFromSAN).subject.commonName = toLower (csr.dnsNames.headD "")) ∧
    normalizeCSR (normalizeCSR csr forceCNFromSAN) forceCNFromSAN =
      normalizeCSR csr forceCNFromSAN := by
  refine ⟨?_, ?_, ?_, fun x => mem_normalizeCSR_dnsNames, toLower_normalizeCSR_commonName csr _,
    ?_, ?_, normalizeCSR_normalizeCSR csr forceCNFromSAN⟩
  · rw [normalizeCSR_dnsNames]
    exact sortedLE_uniqueLowerNames _
  · rw [normalizeCSR_dnsNames]
    exact nodup_uniqueLowerNames _
  · intro x hx
    rw [normalizeCSR_dnsNames] at hx
    exact toLower_of_mem_uniqueLowerNames hx
  · by_cases hempty : (normalizeCSR csr forceCNFromSAN).subject.commonName = ""
    · exact Or.inl hempty
    · exact Or.inr (normalizeCSR_commonName_mem hempty)
  · rintro ⟨rfl, hcn⟩
    exact normalizeCSR_hoists hcn

/-- **The policy authority sees every requested name.** A CSR that `VerifyCSR` accepts has the
policy authority's consent for each of its DNS names and for its common name, lowercased:
normalisation puts the common name among the DNS names before the policy loop, even with
`forceCNFromSAN`. -/
theorem verifyCSR_consents {arith : CurveArithmetic} {csr : CertificateRequest} {maxNames : ℕ}
    {keyPolicy : KeyPolicy} {pa : PolicyAuthority} {forceCNFromSAN : Bool}
    (h : (verifyCSR arith csr maxNames keyPolicy pa forceCNFromSAN).2 = .ok ()) :
    ∀ name ∈ requestedNames csr, pa.willingToIssue ⟨.dns, toLower name⟩ = .ok () := by
  have hacc := checkCSR_eq_ok.mp h
  intro name hname
  apply hacc.willing
  rw [normalizeCSR_dnsNames, mem_uniqueLowerNames]
  exact List.mem_map_of_mem hname

end Boulder.CSR
