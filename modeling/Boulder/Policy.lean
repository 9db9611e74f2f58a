/-
# Boulder.Policy -- the names the policy authority is willing to issue for

`WillingToIssue` checks a DNS identifier in a fixed order: non-empty, only DNS characters, at
most 253 bytes, not an IP address, no final dot, two to ten labels, each label of the form
`^[a-z0-9][a-z0-9-]{0,62}$` without a final hyphen and, unless IDNA support is on, not
punycode; then the name must have an ICANN public suffix other than itself, and no label-wise
suffix of it may be on the blacklist, nor the name itself on the exact blacklist.

`willingToIssue_eq_ok_iff` says which names pass, as the structure `Issuable`: the character
filter and the label length bounds are implied by the label pattern and drop out. Every
label-wise suffix of `v` is one of `l ++ "." ++ v`, so a name refused for a blacklisted suffix
stays refused under any new label (`blacklisted_suffix_refused`). The public suffix list and
IDNA decoding are parameters (`psl`, `toUnicode`).

`ChallengesFor` offers one fresh challenge of each enabled type, shuffled, with the singleton
combinations shuffled apart (`challengesFor_spec`). What it draws, the token bytes and the two
permutations of its seeded `pseudoRNG`, is a parameter, so the results hold for every draw.
-/
import Mathlib.Data.List.FinRange
import Boulder.Core.Objects
import Boulder.Core.Challenges
import Boulder.Lib.GoStrings
import Boulder.Lib.GoNet
import Boulder.Lib.Loop

namespace Boulder.Policy

open Boulder.Core Boulder.Lib.GoStrings Boulder.Lib.GoNet Boulder.Lib.Loop

/-! ## Constants and errors -/

def maxLabels : ℕ := 10
def maxLabelLength : ℕ := 63
def maxDNSIdentifierLength : ℕ := 253

def errInvalidIdentifier : BoulderError := malformedError "Invalid identifier type"
def errNonPublic : BoulderError := malformedError "Name does not end in a public suffix"
def errICANNTLD : BoulderError := malformedError "Name is an ICANN TLD"
def errBlacklisted : BoulderError := ⟨.rejectedIdentifier, "Policy forbids issuing for name"⟩
def errInvalidDNSCharacter : BoulderError := malformedError "Invalid character in DNS name"
def errNameTooLong : BoulderError := malformedError "DNS name too long"
def errIPAddress : BoulderError := malformedError "Issuance for IP addresses not supported"
def errTooManyLabels : BoulderError := malformedError "DNS name has too many labels"
def errEmptyName : BoulderError := malformedError "DNS name was empty"
def errNameEndsInDot : BoulderError := malformedError "DNS name ends in a period"
def errTooFewLabels : BoulderError := malformedError "DNS name does not have enough labels"
def errLabelTooShort : BoulderError := malformedError "DNS label is too short"
def errLabelTooLong : BoulderError := malformedError "DNS label is too long"
def errIDNNotSupported : BoulderError :=
  ⟨.unsupportedIdentifier, "Internationalized domain names (starting with xn--) not yet supported"⟩
def errMalformedIDN : BoulderError := malformedError "DNS label contains malformed punycode"

/-! ## Characters and labels -/

/-- `isDNSCharacter`, on characters: Go reads the bytes, and a character beyond ASCII has only
bytes that fail, so both loops refuse the same names. -/
def isDNSCharacter (ch : Char) : Bool :=
  ch.isLower || ch.isUpper || ch.isDigit || ch = '.' || ch = '-'

/-- `dnsLabelRegexp.MatchString`, for `^[a-z0-9][a-z0-9-]{0,62}$`. -/
def dnsLabelMatch (label : String) : Bool :=
  match label.toList with
  | [] => false
  | c :: cs =>
    (c.isLower || c.isDigit) && cs.length ≤ 62 && cs.all fun d => d.isLower || d.isDigit || d = '-'

/-- `punycodeRegexp.MatchString`, for `^xn--`. -/
def punycodeMatch (label : String) : Bool :=
  "xn--".toList.isPrefixOf label.toList

/-- The loop body of `WillingToIssue` for one label. The lengths count characters, which are
bytes here: every character has passed `isDNSCharacter`. -/
def checkLabel (idnaSupport : Bool) (toUnicode : String → Except String String) (label : String) :
    Except BoulderError Unit :=
  if label.length < 1 then .error errLabelTooShort
  else if label.length > maxLabelLength then .error errLabelTooLong
  else if !dnsLabelMatch label then .error errInvalidDNSCharacter
  else if label.toList.getLast? = some '-' then .error errInvalidDNSCharacter
  else if punycodeMatch label then
    if idnaSupport then
      match toUnicode label with
      | .error _ => .error errMalformedIDN
      | .ok _ => .ok ()
    else .error errIDNNotSupported
  else .ok ()

/-! ## The policy authority -/

/-- `extractDomainIANASuffix`, with the public suffix list as `psl`: the ICANN suffix of a name
(`rule.Decompose(name)[1]`), or `none` where the list has no ICANN rule for it. -/
def extractDomainIANASuffix (psl : String → Option String) (name : String) :
    Except String String :=
  if name = "" then .error "Blank name argument passed to ExtractDomainIANASuffix"
  else
    match psl name with
    | none => .error ("Domain " ++ name ++ " has no IANA TLD")
    -- an empty suffix means that the name is itself a suffix
    | some suffix => .ok (if suffix = "" then name else suffix)

/-- The part of `AuthorityImpl` that `WillingToIssue` reads: the blacklist is `nil` until a
hostname policy is loaded. -/
structure AuthorityImpl where
  blacklist : Option (List String)
  exactBlacklist : List String
  deriving DecidableEq, Repr

/-- `checkHostLists`. Its error for a policy not yet loaded is a plain `fmt.Errorf`, which the
callers treat as an internal error. -/
def AuthorityImpl.checkHostLists (pa : AuthorityImpl) (domain : String) :
    Except BoulderError Unit :=
  match pa.blacklist with
  | none => .error (internalServerError "Hostname policy not yet loaded.")
  | some blacklist =>
    let labels := split domain '.'
    if (List.range labels.length).any fun i => blacklist.contains (join (labels.drop i) ".") then
      .error errBlacklisted
    else if pa.exactBlacklist.contains domain then .error errBlacklisted
    else .ok ()

/-- `WillingToIssue`, with `features.Enabled(features.IDNASupport)` as `idnaSupport`. -/
def AuthorityImpl.willingToIssue (pa : AuthorityImpl) (idnaSupport : Bool)
    (toUnicode : String → Except String String) (psl : String → Option String)
    (id : AcmeIdentifier) : Except BoulderError Unit :=
  if id.type ≠ .dns then .error errInvalidIdentifier
  else
    let domain := id.value
    if domain = "" then .error errEmptyName
    else if !domain.toList.all isDNSCharacter then .error errInvalidDNSCharacter
    -- `len(domain)` counts bytes, which are the characters once the filter has passed
    else if domain.length > maxDNSIdentifierLength then .error errNameTooLong
    else if (parseIP domain).isSome then .error errIPAddress
    else if hasSuffix domain "." then .error errNameEndsInDot
    else
      let labels := split domain '.'
      if labels.length > maxLabels then .error errTooManyLabels
      else if labels.length < 2 then .error errTooFewLabels
      else do
        labels.forM (checkLabel idnaSupport toUnicode)
        -- Names must end in an ICANN TLD, but they must not be equal to an ICANN TLD.
        match extractDomainIANASuffix psl domain with
        | .error _ => .error errNonPublic
        | .ok icannTLD =>
          if icannTLD = domain then .error errICANNTLD
          else pa.checkHostLists domain

/-- The policy authority as the RA sees it. -/
def AuthorityImpl.toPolicyAuthority (pa : AuthorityImpl) (idnaSupport : Bool)
    (toUnicode : String → Except String String) (psl : String → Option String) :
    PolicyAuthority :=
  ⟨pa.willingToIssue idnaSupport toUnicode psl⟩

/-! ## What one label must be -/

/-- A label of the pattern has one to 63 characters, so the two length checks before the
pattern never refuse it. -/
theorem length_of_dnsLabelMatch {label : String} (h : dnsLabelMatch label = true) :
    1 ≤ label.length ∧ label.length ≤ maxLabelLength := by
  rw [← String.length_toList]
  unfold dnsLabelMatch at h
  split at h
  · contradiction
  · rename_i c cs hcs
    simp only [Bool.and_eq_true, decide_eq_true_eq] at h
    rw [hcs, List.length_cons]
    unfold maxLabelLength
    omega

/-- The characters of a label of the pattern are DNS characters. -/
theorem isDNSCharacter_of_dnsLabelMatch {label : String} (h : dnsLabelMatch label = true) :
    ∀ c ∈ label.toList, isDNSCharacter c = true := by
  unfold dnsLabelMatch at h
  split at h
  · contradiction
  · rename_i c cs hcs
    simp only [Bool.and_eq_true, decide_eq_true_eq, List.all_eq_true] at h
    obtain ⟨⟨hc, -⟩, hrest⟩ := h
    intro d hd
    rw [hcs] at hd
    rcases List.mem_cons.mp hd with rfl | hd
    · simp only [isDNSCharacter, Bool.or_eq_true] at hc ⊢
      tauto
    · have hd' := hrest d hd
      simp only [isDNSCharacter, Bool.or_eq_true, decide_eq_true_eq] at hd' ⊢
      tauto

/-- With IDNA support off, a label passes when it has the pattern, no final hyphen and no
punycode prefix. -/
theorem checkLabel_eq_ok {toUnicode : String → Except String String} {label : String} :
    checkLabel false toUnicode label = .ok () ↔
      dnsLabelMatch label = true ∧ label.toList.getLast? ≠ some '-' ∧
        punycodeMatch label = false := by
  simp only [checkLabel, Bool.false_eq_true, if_false, ite_error_eq_ok, Bool.not_eq_true',
    Bool.not_eq_true, Bool.not_eq_false, and_true]
  constructor
  · rintro ⟨-, -, hmatch, hdash, hpuny⟩
    exact ⟨hmatch, hdash, hpuny⟩
  · rintro ⟨hmatch, hdash, hpuny⟩
    obtain ⟨hshort, hlong⟩ := length_of_dnsLabelMatch hmatch
    exact ⟨by omega, by omega, hmatch, hdash, hpuny⟩

/-! ## What the whole name must be -/

/-- A name whose labels all have the pattern consists of DNS characters: it is its labels
joined by dots. -/
theorem all_isDNSCharacter_of_labels {v : String}
    (h : ∀ label ∈ split v '.', dnsLabelMatch label = true) :
    v.toList.all isDNSCharacter = true := by
  rw [List.all_eq_true]
  intro c hc
  rcases mem_split_of_mem (c := '.') hc with rfl | ⟨label, hlabel, hc⟩
  · rfl
  · exact isDNSCharacter_of_dnsLabelMatch (h label hlabel) c hc

/-- With a loaded blacklist, the host lists pass when no label-wise suffix is on the blacklist
and the name is not on the exact one. -/
theorem checkHostLists_eq_ok {pa : AuthorityImpl} {bl : List String}
    (hloaded : pa.blacklist = some bl) {domain : String} :
    pa.checkHostLists domain = .ok () ↔
      (∀ i < (split domain '.').length, join ((split domain '.').drop i) "." ∉ bl) ∧
        domain ∉ pa.exactBlacklist := by
  simp [AuthorityImpl.checkHostLists, hloaded, ite_error_eq_ok, List.any_eq_true]

/-- The steps after the label loop: an ICANN suffix other than the name, then the host lists. -/
theorem suffixAndHostLists_eq_ok {pa : AuthorityImpl} {psl : String → Option String}
    {v : String} (hv : v ≠ "") :
    ((match extractDomainIANASuffix psl v with
      | .error _ => .error errNonPublic
      | .ok icannTLD => if icannTLD = v then .error errICANNTLD else pa.checkHostLists v :
        Except BoulderError Unit)) = .ok () ↔
      (∃ suffix, psl v = some suffix ∧ suffix ≠ "" ∧ suffix ≠ v) ∧ pa.checkHostLists v = .ok () := by
  unfold extractDomainIANASuffix
  rw [if_neg hv]
  cases hpsl : psl v with
  | none => simp
  | some suffix =>
    by_cases hempty : suffix = ""
    · simp [hempty]
    · simp [hempty, ite_error_eq_ok]

/-- The names `WillingToIssue` accepts when IDNA support is off and `blacklist` is loaded. -/
structure Issuable (psl : String → Option String) (blacklist exactBlacklist : List String)
    (v : String) : Prop where
  nonempty : v ≠ ""
  short : v.length ≤ maxDNSIdentifierLength
  notIP : parseIP v = none
  noFinalDot : hasSuffix v "." = false
  fewLabels : (split v '.').length ≤ maxLabels
  twoLabels : 2 ≤ (split v '.').length
  labels : ∀ label ∈ split v '.', dnsLabelMatch label = true ∧
    label.toList.getLast? ≠ some '-' ∧ punycodeMatch label = false
  publicSuffix : ∃ suffix, psl v = some suffix ∧ suffix ≠ "" ∧ suffix ≠ v
  notBlacklisted : ∀ i < (split v '.').length, join ((split v '.').drop i) "." ∉ blacklist
  notExact : v ∉ exactBlacklist

section Willing

variable {pa : AuthorityImpl} {bl : List String} {toUnicode : String → Except String String}
  {psl : String → Option String}

/-- **What `WillingToIssue` accepts.** With IDNA support off and a blacklist loaded, exactly the
DNS identifiers whose name is `Issuable`; the character filter and the label length checks
refuse nothing that the label pattern lets through. -/
theorem willingToIssue_eq_ok_iff (hloaded : pa.blacklist = some bl) (id : AcmeIdentifier) :
    pa.willingToIssue false toUnicode psl id = .ok () ↔
      id.type = .dns ∧ Issuable psl bl pa.exactBlacklist id.value := by
  obtain ⟨type, v⟩ := id
  have hloop : (split v '.').forM (checkLabel false toUnicode) = .ok () ↔
      ∀ label ∈ split v '.', dnsLabelMatch label = true ∧ label.toList.getLast? ≠ some '-' ∧
        punycodeMatch label = false := by
    rw [forM_eq_ok]
    exact forall₂_congr fun _ _ => checkLabel_eq_ok
  simp only [AuthorityImpl.willingToIssue, ite_error_eq_ok, Bool.not_eq_true', Bool.not_eq_true,
    Option.isSome_iff_ne_none, ne_eq, not_not, not_lt, bind_eq_ok]
  constructor
  · rintro ⟨htype, hv, -, hshort, hip, hdot, hfew, htwo, ⟨⟨⟩, hlabels, htail⟩⟩
    obtain ⟨hsuffix, hhost⟩ := (suffixAndHostLists_eq_ok hv).mp htail
    obtain ⟨hblack, hexact⟩ := (checkHostLists_eq_ok hloaded).mp hhost
    exact ⟨htype, hv, hshort, hip, hdot, hfew, htwo, hloop.mp hlabels, hsuffix, hblack, hexact⟩
  · rintro ⟨htype, hv, hshort, hip, hdot, hfew, htwo, hlabels, hsuffix, hblack, hexact⟩
    have hchars := all_isDNSCharacter_of_labels fun label hlabel => (hlabels label hlabel).1
    have htail := (suffixAndHostLists_eq_ok hv).mpr
      ⟨hsuffix, (checkHostLists_eq_ok hloaded).mpr ⟨hblack, hexact⟩⟩
    exact ⟨htype, hv, by simp [hchars], hshort, hip, hdot, hfew, htwo,
      ⟨(), hloop.mpr hlabels, htail⟩⟩

/-- Every label-wise suffix of `v` is one of `l ++ "." ++ v`: the labels of `v` come last. -/
theorem labelSuffix_of_prefixed (l v : String) {i : ℕ} (hi : i < (split v '.').length) :
    (split l '.').length + i < (split (l ++ "." ++ v) '.').length ∧
      (split (l ++ "." ++ v) '.').drop ((split l '.').length + i) = (split v '.').drop i := by
  have hsplit : split (l ++ "." ++ v) '.' = split l '.' ++ split v '.' :=
    split_append_sep l v '.'
  rw [hsplit, List.length_append, List.drop_append, List.drop_eq_nil_of_le (by omega),
    List.nil_append, Nat.add_sub_cancel_left]
  exact ⟨by omega, rfl⟩

/-- A name refused for a blacklisted label-wise suffix stays refused under any new label. -/
theorem blacklisted_suffix_refused (hloaded : pa.blacklist = some bl) {v : String}
    (hblack : ∃ i < (split v '.').length, join ((split v '.').drop i) "." ∈ bl) (l : String) :
    pa.willingToIssue false toUnicode psl ⟨.dns, l ++ "." ++ v⟩ ≠ .ok () := by
  intro hok
  obtain ⟨-, hissuable⟩ := (willingToIssue_eq_ok_iff hloaded _).mp hok
  obtain ⟨i, hi, hmem⟩ := hblack
  obtain ⟨hlt, hdrop⟩ := labelSuffix_of_prefixed l v hi
  apply hissuable.notBlacklisted _ hlt
  rw [hdrop]
  exact hmem

end Willing

/-- **The language of `WillingToIssue`.** With IDNA support off and a blacklist loaded, the
identifiers accepted are the DNS identifiers of `Issuable` names, and a name with a blacklisted
label-wise suffix is refused under every label put in front of it. -/
theorem willingToIssue_language (pa : AuthorityImpl) (bl : List String)
    (toUnicode : String → Except String String) (psl : String → Option String)
    (hloaded : pa.blacklist = some bl) :
    (∀ id : AcmeIdentifier, pa.willingToIssue false toUnicode psl id = .ok () ↔
      id.type = .dns ∧ Issuable psl bl pa.exactBlacklist id.value) ∧
    ∀ v : String, (∃ i < (split v '.').length, join ((split v '.').drop i) "." ∈ bl) →
      ∀ l, pa.willingToIssue false toUnicode psl ⟨.dns, l ++ "." ++ v⟩ ≠ .ok () :=
  ⟨willingToIssue_eq_ok_iff hloaded, fun _ hblack l => blacklisted_suffix_refused hloaded hblack l⟩

/-! ## The challenges offered -/

/-- What `ChallengesFor` draws: the bytes of the `k`-th token (`RandomString` reads
`crypto/rand`), and the two permutations `pseudoRNG.Perm` returns for `n` challenges. -/
structure ChallengeDraws where
  tokens : ℕ → List.Vector UInt8 32
  perms : (n : ℕ) → Equiv.Perm (Fin n) × Equiv.Perm (Fin n)

/-- One `if` of `ChallengesFor`: an enabled type appends a new challenge, which draws the next
token. -/
def offerIf (tokens : ℕ → List.Vector UInt8 32) (enabled : Bool)
    (mk : List.Vector UInt8 32 → Challenge) (challenges : List Challenge) : List Challenge :=
  if enabled then challenges ++ [mk (tokens challenges.length)] else challenges

/-- The challenges of `ChallengesFor` before the shuffle, in the order of its four checks;
`tls-sni-02` also needs `features.AllowTLS02Challenges`. -/
def unshuffledChallenges (enabledChallenges : String → Bool) (allowTLS02 : Bool)
    (tokens : ℕ → List.Vector UInt8 32) : List Challenge :=
  let challenges := offerIf tokens (enabledChallenges challengeTypeHTTP01) httpChallenge01 []
  let challenges :=
    offerIf tokens (enabledChallenges challengeTypeTLSSNI01) tlsSNIChallenge01 challenges
  let challenges := offerIf tokens (allowTLS02 && enabledChallenges challengeTypeTLSSNI02)
    tlsSNIChallenge02 challenges
  offerIf tokens (enabledChallenges challengeTypeDNS01) dnsChallenge01 challenges

/-- `ChallengesFor`: `shuffled[i] = challenges[perm1[i]]`, and the combinations `[i]` shuffled by
the second permutation. The identifier it is given is not read. -/
def challengesFor (enabledChallenges : String → Bool) (allowTLS02 : Bool)
    (draws : ChallengeDraws) : List Challenge × List (List ℤ) :=
  let challenges := unshuffledChallenges enabledChallenges allowTLS02 draws.tokens
  let perm1 := (draws.perms challenges.length).1
  let perm2 := (draws.perms challenges.length).2
  (List.ofFn fun i => challenges.get (perm1 i), List.ofFn fun i => [((perm2 i : ℕ) : ℤ)])

/-- The types `ChallengesFor` offers, in the order of its checks. -/
def offeredTypes (enabledChallenges : String → Bool) (allowTLS02 : Bool) : List String :=
  [challengeTypeHTTP01, challengeTypeTLSSNI01, challengeTypeTLSSNI02, challengeTypeDNS01].filter
    fun type => enabledChallenges type && (type ≠ challengeTypeTLSSNI02 || allowTLS02)

section Offer

variable {tokens : ℕ → List.Vector UInt8 32} {enabled : Bool}
  {mk : List.Vector UInt8 32 → Challenge} {challenges : List Challenge}

theorem map_type_offerIf (mk : List.Vector UInt8 32 → Challenge) (type : String)
    (hmk : ∀ r, (mk r).type = type) :
    (offerIf tokens enabled mk challenges).map (·.type) =
      challenges.map (·.type) ++ if enabled then [type] else [] := by
  cases enabled <;> simp [offerIf, hmk]

theorem mem_offerIf {c : Challenge} (h : c ∈ offerIf tokens enabled mk challenges) :
    c ∈ challenges ∨ ∃ r, c = mk r := by
  unfold offerIf at h
  split at h
  · rcases List.mem_append.mp h with h | h
    · exact .inl h
    · exact .inr ⟨_, List.mem_singleton.mp h⟩
  · exact .inl h

end Offer

theorem map_type_unshuffledChallenges (enabledChallenges : String → Bool) (allowTLS02 : Bool)
    (tokens : ℕ → List.Vector UInt8 32) :
    (unshuffledChallenges enabledChallenges allowTLS02 tokens).map (·.type) =
      offeredTypes enabledChallenges allowTLS02 := by
  simp only [unshuffledChallenges]
  rw [map_type_offerIf dnsChallenge01 challengeTypeDNS01 (fun _ => rfl),
    map_type_offerIf tlsSNIChallenge02 challengeTypeTLSSNI02 (fun _ => rfl),
    map_type_offerIf tlsSNIChallenge01 challengeTypeTLSSNI01 (fun _ => rfl),
    map_type_offerIf httpChallenge01 challengeTypeHTTP01 (fun _ => rfl)]
  have h1 : challengeTypeHTTP01 ≠ challengeTypeTLSSNI02 := by decide
  have h2 : challengeTypeTLSSNI01 ≠ challengeTypeTLSSNI02 := by decide
  have h3 : challengeTypeDNS01 ≠ challengeTypeTLSSNI02 := by decide
  simp only [offeredTypes, List.filter_cons, List.filter_nil, h1, h2, h3, ne_eq,
    decide_true, decide_false, not_true, not_false_eq_true, List.map_nil, List.nil_append]
  cases enabledChallenges challengeTypeHTTP01 <;> cases enabledChallenges challengeTypeTLSSNI01 <;>
    cases enabledChallenges challengeTypeTLSSNI02 <;> cases enabledChallenges challengeTypeDNS01 <;>
    cases allowTLS02 <;> simp

/-- Each challenge before the shuffle is a new challenge of some type. -/
theorem newChallenge_of_mem_unshuffled {enabledChallenges : String → Bool} {allowTLS02 : Bool}
    {tokens : ℕ → List.Vector UInt8 32} {c : Challenge}
    (h : c ∈ unshuffledChallenges enabledChallenges allowTLS02 tokens) :
    ∃ type r, c = newChallenge type r := by
  simp only [unshuffledChallenges] at h
  rcases mem_offerIf h with h | ⟨r, rfl⟩
  · rcases mem_offerIf h with h | ⟨r, rfl⟩
    · rcases mem_offerIf h with h | ⟨r, rfl⟩
      · rcases mem_offerIf h with h | ⟨r, rfl⟩
        · cases h
        · exact ⟨_, r, rfl⟩
      · exact ⟨_, r, rfl⟩
    · exact ⟨_, r, rfl⟩
  · exact ⟨_, r, rfl⟩

/-- **`ChallengesFor`.** Whatever it draws, it offers each enabled type once, `tls-sni-02` only
with its feature flag on; every challenge is new (pending, a token of the token's shape, no key
authorization, no error, no record), so sane to offer; and the combinations are the one-element
lists of the challenges' indices, each once, in some order. -/
theorem challengesFor_spec (enabledChallenges : String → Bool) (allowTLS02 : Bool)
    (draws : ChallengeDraws) :
    ((challengesFor enabledChallenges allowTLS02 draws).1.map (·.type)).Perm
        (offeredTypes enabledChallenges allowTLS02) ∧
      (∀ c ∈ (challengesFor enabledChallenges allowTLS02 draws).1,
        c.isSaneForClientOffer = true ∧ c.error = none ∧ c.validationRecord = none) ∧
      (challengesFor enabledChallenges allowTLS02 draws).2.Perm
        ((List.range (challengesFor enabledChallenges allowTLS02 draws).1.length).map
          fun i : ℕ => [(i : ℤ)]) := by
  set challenges := unshuffledChallenges enabledChallenges allowTLS02 draws.tokens
  set perm1 := (draws.perms challenges.length).1
  set perm2 := (draws.perms challenges.length).2
  have hshuffle : (List.ofFn fun i => challenges.get (perm1 i)).Perm challenges := by
    have h := Equiv.Perm.ofFn_comp_perm perm1 challenges.get
    rwa [List.ofFn_get] at h
  have hlen : (challengesFor enabledChallenges allowTLS02 draws).1.length = challenges.length := by
    simp [challengesFor, challenges]
  refine ⟨?types, ?fresh, ?combos⟩
  case types =>
    rw [← map_type_unshuffledChallenges enabledChallenges allowTLS02 draws.tokens]
    exact hshuffle.map _
  case fresh =>
    intro c hc
    obtain ⟨type, r, rfl⟩ := newChallenge_of_mem_unshuffled (hshuffle.subset hc)
    exact ⟨newChallenge_isSaneForClientOffer type r, rfl, rfl⟩
  case combos =>
    rw [hlen, ← List.map_coe_finRange_eq_range, List.map_map, ← List.ofFn_eq_map]
    show (List.ofFn fun i => [((perm2 i : ℕ) : ℤ)]).Perm _
    exact Equiv.Perm.ofFn_comp_perm perm2 ((fun i : ℕ => [(i : ℤ)]) ∘ fun j => (j : ℕ))

/-- A policy with `example.com` on its blacklist. -/
def examplePolicy : AuthorityImpl := ⟨some ["example.com"], []⟩

theorem example_com_subdomain_refused :
    examplePolicy.blacklist = some ["example.com"] ∧
      examplePolicy.willingToIssue false (fun _ => .error "") (fun _ => some "com")
        ⟨.dns, "www" ++ "." ++ "example.com"⟩ ≠ .ok () :=
  ⟨rfl, (willingToIssue_language examplePolicy ["example.com"] (fun _ => .error "")
    (fun _ => some "com") rfl).2 "example.com" ⟨0, by decide, by decide⟩ "www"⟩

/-- A name with a public suffix, off the blacklist. -/
example : examplePolicy.willingToIssue false (fun _ => .error "") (fun _ => some "org")
    ⟨.dns, "letsencrypt.org"⟩ = .ok () := by
  decide

end Boulder.Policy
