/-
# Boulder.VA.CAA -- CAA checking in the validation authority

RFC 6844 lets a domain name the CAs allowed to issue for it. The VA looks up CAA records for
the name and every parent domain in parallel (`parallelCAALookup`), takes the first answer
that is an error or non-empty (`parseResults`), partitions it by tag (`newCAASet`) and decides
(`validateCAASet`): a critical record of unknown tag forbids issuance; otherwise issuance is
allowed if there is no `issue` record or one of them names the VA's `issuerDomain`.
`checkCAA` adds a second opinion: when the primary check answers with a connection problem and
a distributed resolver (`caaDR`) is configured, the answer of the distributed resolver
(`checkGPDNS`) replaces it.

The DNS resolvers are parameters: each is a function from a name to its records or an error,
as `LookupCAA` answers. The main results are `checkCAARecords_tree_climbing`, the tree-climbing
characterisation of the primary check, and `checkCAA_fallback_overrides_denial`, which shows
what the shared `ConnectionProblem` type does to a denial.
-/
import Boulder.Core.Objects
import Boulder.Lib.GoStrings

namespace Boulder.VA

open Boulder.Core Boulder.Lib.GoStrings

/-- `dns.CAA`: the fields of a CAA record that the VA reads. -/
structure CAA where
  flag : UInt8
  tag : String
  value : String
  deriving DecidableEq, Repr

/-- What a CAA lookup of one name answers: its records, or an error text. -/
abbrev CAAAnswer := Except String (List CAA)

/-- `CAASet`: CAA records filtered by property. -/
structure CAASet where
  issue : List CAA
  issuewild : List CAA
  iodef : List CAA
  unknown : List CAA
  deriving DecidableEq, Repr

/-- `criticalUnknown`: some record of unknown tag has the bit of significance 128, or its
widespread misreading 1, set. -/
def CAASet.criticalUnknown (caaSet : CAASet) : Bool :=
  caaSet.unknown.any fun caaRecord => caaRecord.flag &&& (128 ||| 1) ≠ 0

/-- One iteration of the `switch` in `newCAASet`. -/
def CAASet.add (filtered : CAASet) (caaRecord : CAA) : CAASet :=
  match caaRecord.tag with
  | "issue" => { filtered with issue := filtered.issue ++ [caaRecord] }
  | "issuewild" => { filtered with issuewild := filtered.issuewild ++ [caaRecord] }
  | "iodef" => { filtered with iodef := filtered.iodef ++ [caaRecord] }
  | _ => { filtered with unknown := filtered.unknown ++ [caaRecord] }

/-- `newCAASet`: filter CAA records by property. -/
def newCAASet (caas : List CAA) : CAASet :=
  caas.foldl CAASet.add ⟨[], [], [], []⟩

/-- `parseResults`: the first result that is an error or has records decides. -/
def parseResults : List CAAAnswer → Except String (Option CAASet)
  | [] => .ok none
  | .error e :: _ => .error e
  | .ok records :: rest =>
    if records.length > 0 then .ok (some (newCAASet records)) else parseResults rest

/-- `parallelCAALookup`: look up the name and each of its parent domains; the `i`-th result
is the answer for the labels from the `i`-th on. Each goroutine writes its own slot, so the
result does not depend on the order in which they finish. -/
def parallelCAALookup (name : String) (lookuper : String → CAAAnswer) : List CAAAnswer :=
  let labels := split name '.'
  (List.range labels.length).map fun i => lookuper (join (labels.drop i) ".")

/-- The parts of `ValidationAuthorityImpl` that CAA checking uses: its CAA identity, its DNS
resolver, and the optional distributed resolver. -/
structure ValidationAuthorityImpl where
  issuerDomain : String
  dnsLookupCAA : String → CAAAnswer
  caaDR : Option (String → CAAAnswer)

/-- Blanks, for `strings.Trim(v, " \t")`. -/
def blanks : List Char := [' ', '\t']

/-- `extractIssuerDomain`: the domain part of an `issue` value, which may be `""`. -/
def extractIssuerDomain (caa : CAA) : String :=
  let v := trim caa.value blanks
  match indexByte v ';' with
  | none => v
  | some idx => trim (prefixTo v idx) blanks

namespace ValidationAuthorityImpl

variable (va : ValidationAuthorityImpl)

/-- `getCAASet`. -/
def getCAASet (hostname : String) : Except String (Option CAASet) :=
  parseResults (parallelCAALookup (trimRight hostname ['.']) va.dnsLookupCAA)

/-- `validateCAASet`: whether CAA records are present, and whether they allow issuance. -/
def validateCAASet : Option CAASet → Bool × Bool
  | none => (false, true)
  | some caaSet =>
    if caaSet.criticalUnknown then (true, false)
    else if caaSet.issue.length = 0 then (true, true)
    else if caaSet.issue.any (fun caa => extractIssuerDomain caa = va.issuerDomain) then (true, true)
    else (true, false)

/-- `checkCAARecords`: `(present, valid, err)`. -/
def checkCAARecords (identifier : AcmeIdentifier) : Bool × Bool × Option String :=
  let hostname := toLower identifier.value
  match va.getCAASet hostname with
  | .error err => (false, false, some err)
  | .ok caaSet =>
    let (present, valid) := va.validateCAASet caaSet
    (present, valid, none)

/-- `checkCAAInternal`: a lookup error and a denial both become a connection problem. -/
def checkCAAInternal (ident : AcmeIdentifier) : Option ProblemDetails :=
  let (_, valid, err) := va.checkCAARecords ident
  match err with
  | some e => some (connectionFailure e)
  | none =>
    if !valid then some (connectionFailure ("CAA record for " ++ ident.value ++ " prevents issuance"))
    else none

/-- `checkGPDNS`: the same check through the distributed resolver, on the identifier as given. -/
def checkGPDNS (lookupCAA : String → CAAAnswer) (identifier : AcmeIdentifier) :
    Option ProblemDetails :=
  match parseResults (parallelCAALookup identifier.value lookupCAA) with
  | .error e => some (connectionFailure e)
  | .ok caaSet =>
    let (_, valid) := va.validateCAASet caaSet
    if !valid then
      some ⟨.connection, "CAA records prevents issuance for " ++ identifier.value, 0⟩
    else none

/-- `checkCAA`. -/
def checkCAA (identifier : AcmeIdentifier) : Option ProblemDetails :=
  let prob := va.checkCAAInternal identifier
  match va.caaDR, prob with
  | some lookupCAA, some p => if p.type = .connection then va.checkGPDNS lookupCAA identifier else prob
  | _, _ => prob

end ValidationAuthorityImpl

end Boulder.VA

namespace Boulder.VA

open Boulder.Core Boulder.Lib.GoStrings

/-! ## What a record set allows, read off RFC 6844 -/

/-- The tags RFC 6844 defines. -/
def knownTags : List String := ["issue", "issuewild", "iodef"]

/-- The CA domain an `issue` value names: the value trimmed of blanks, cut at the first `;`
(its parameters), and trimmed again. -/
def issuerDomainOf (value : String) : String :=
  trim (String.ofList ((trim value blanks).toList.takeWhile (· ≠ ';'))) blanks

/-- Whether a record set allows issuance by `issuerDomain`: no record of unknown tag carries the
critical bit (significance 128, or its misreading 1), and either no `issue` record is present
or one of them names `issuerDomain`. -/
def caaValid (issuerDomain : String) (S : List CAA) : Bool :=
  S.all (fun r => r.tag ∈ knownTags || (r.flag &&& 128 = 0 && r.flag &&& 1 = 0)) &&
    (S.all (·.tag ≠ "issue") || S.any fun r => r.tag = "issue" && issuerDomainOf r.value = issuerDomain)

/-! ## The record set -/

theorem add_issue (filtered : CAASet) (r : CAA) :
    (filtered.add r).issue = filtered.issue ++ (if r.tag = "issue" then [r] else []) := by
  unfold CAASet.add
  split <;> simp_all

theorem add_unknown (filtered : CAASet) (r : CAA) :
    (filtered.add r).unknown = filtered.unknown ++ (if r.tag ∈ knownTags then [] else [r]) := by
  unfold CAASet.add
  split <;> simp_all [knownTags]

/-- The `issue` part of a record set: its `issue` records, in order. -/
theorem newCAASet_issue (S : List CAA) : (newCAASet S).issue = S.filter (·.tag = "issue") := by
  suffices h : ∀ acc : CAASet, (S.foldl CAASet.add acc).issue = acc.issue ++ S.filter (·.tag = "issue") by
    simpa [newCAASet] using h ⟨[], [], [], []⟩
  induction S with
  | nil => simp
  | cons r S ih =>
    intro acc
    rw [List.foldl_cons, ih, add_issue]
    by_cases hr : r.tag = "issue" <;> simp [hr]

/-- The unknown part of a record set: its records of any other tag, in order. -/
theorem newCAASet_unknown (S : List CAA) :
    (newCAASet S).unknown = S.filter (fun r => r.tag ∉ knownTags) := by
  suffices h : ∀ acc : CAASet,
      (S.foldl CAASet.add acc).unknown = acc.unknown ++ S.filter (fun r => r.tag ∉ knownTags) by
    simpa [newCAASet] using h ⟨[], [], [], []⟩
  induction S with
  | nil => simp
  | cons r S ih =>
    intro acc
    rw [List.foldl_cons, ih, add_unknown]
    by_cases hr : r.tag ∈ knownTags <;> simp [hr]

/-- The two-bit criticality test is a test of each bit. -/
theorem flag_critical_iff (f : UInt8) : f &&& (128 ||| 1) = 0 ↔ f &&& 128 = 0 ∧ f &&& 1 = 0 := by
  have e : ∀ m : UInt8, f &&& m = 0 ↔ f.toNat &&& m.toNat = 0 := by
    intro m
    rw [← UInt8.toNat_inj]
    simp
  rw [e, e, e]
  have h129 : (128 ||| 1 : UInt8).toNat = 128 ||| 1 := by decide
  rw [h129, Nat.and_or_distrib_left]
  simp [Nat.or_eq_zero_iff]

/-- `extractIssuerDomain` computes the domain RFC 6844 reads off an `issue` value. -/
theorem extractIssuerDomain_eq (caa : CAA) : extractIssuerDomain caa = issuerDomainOf caa.value := by
  unfold extractIssuerDomain issuerDomainOf indexByte
  dsimp only
  split
  · rename_i h
    rw [takeWhile_of_findIdx?_none h, String.ofList_toList, trim_trim]
  · rename_i idx h
    simp only [prefixTo]
    rw [take_of_findIdx? h]

theorem criticalUnknown_newCAASet (S : List CAA) :
    (newCAASet S).criticalUnknown =
      !(S.all fun r => r.tag ∈ knownTags || (r.flag &&& 128 = 0 && r.flag &&& 1 = 0)) := by
  simp only [CAASet.criticalUnknown, newCAASet_unknown, List.any_filter, List.all_eq_not_any_not,
    Bool.not_not]
  congr 1
  funext r
  by_cases hr : r.tag ∈ knownTags <;> simp [hr, flag_critical_iff]

/-- `validateCAASet` on the record set built from `S`: records are present, and they allow
issuance exactly as `caaValid` says. -/
theorem validateCAASet_newCAASet (va : ValidationAuthorityImpl) (S : List CAA) :
    va.validateCAASet (some (newCAASet S)) = (true, caaValid va.issuerDomain S) := by
  have hissue : (S.all (·.tag ≠ "issue")) = decide ((newCAASet S).issue.length = 0) := by
    rw [Bool.eq_iff_iff]
    simp [newCAASet_issue, List.filter_eq_nil_iff]
  have hmatch : ((newCAASet S).issue.any fun caa => extractIssuerDomain caa = va.issuerDomain) =
      S.any fun r => r.tag = "issue" && issuerDomainOf r.value = va.issuerDomain := by
    simp [newCAASet_issue, List.any_filter, extractIssuerDomain_eq]
  simp only [ValidationAuthorityImpl.validateCAASet, criticalUnknown_newCAASet, hmatch, caaValid,
    hissue]
  generalize (S.all fun r => r.tag ∈ knownTags || (r.flag &&& 128 = 0 && r.flag &&& 1 = 0)) = c
  generalize (S.any fun r => r.tag = "issue" && issuerDomainOf r.value = va.issuerDomain) = m
  cases c <;> cases m <;> by_cases hi : (newCAASet S).issue.length = 0 <;> simp [hi]

/-! ## Tree climbing -/

/-- `getCAASet` looks up every suffix of the trimmed name's labels. -/
theorem getCAASet_eq (va : ValidationAuthorityImpl) (hostname : String) :
    va.getCAASet hostname =
      let labels := split (trimRight hostname ['.']) '.'
      parseResults ((List.range labels.length).map fun i =>
        va.dnsLookupCAA (join (labels.drop i) ".")) := rfl

theorem checkCAARecords_of_error {va : ValidationAuthorityImpl} {identifier : AcmeIdentifier}
    {err : String} (h : va.getCAASet (toLower identifier.value) = .error err) :
    va.checkCAARecords identifier = (false, false, some err) := by
  simp [ValidationAuthorityImpl.checkCAARecords, h]

theorem checkCAARecords_of_ok {va : ValidationAuthorityImpl} {identifier : AcmeIdentifier}
    {caaSet : Option CAASet} (h : va.getCAASet (toLower identifier.value) = .ok caaSet) :
    va.checkCAARecords identifier =
      ((va.validateCAASet caaSet).1, (va.validateCAASet caaSet).2, none) := by
  simp [ValidationAuthorityImpl.checkCAARecords, h]

/-- Empty answers before position `j` are passed over. -/
theorem parseResults_drop (rs : List CAAAnswer) (j : ℕ)
    (hbefore : ∀ i < j, rs[i]? = some (.ok [])) : parseResults rs = parseResults (rs.drop j) := by
  induction j generalizing rs with
  | zero => rfl
  | succ j ih =>
    cases rs with
    | nil => rfl
    | cons a rs =>
      have ha : a = .ok [] := by simpa using hbefore 0 (Nat.succ_pos j)
      subst ha
      simp only [parseResults, List.length_nil, gt_iff_lt, lt_irrefl, ↓reduceIte, List.drop_succ_cons]
      exact ih rs fun i hi => by simpa using hbefore (i + 1) (by omega)

section Lookups

variable (R : ℕ → CAAAnswer) {n j : ℕ}

theorem lookups_getElem? {i : ℕ} (hi : i < n) : ((List.range n).map R)[i]? = some (R i) := by
  simp [hi]

/-- The lookups decide at the first relevant answer, whatever comes after it. -/
theorem parseResults_lookups_first (hj : j < n) (hbefore : ∀ i < j, R i = .ok []) :
    parseResults ((List.range n).map R) =
      parseResults (R j :: ((List.range n).map R).drop (j + 1)) := by
  have hlen : j < ((List.range n).map R).length := by simpa using hj
  rw [parseResults_drop _ j (fun i hi => by rw [lookups_getElem? R (by omega), hbefore i hi]),
    List.drop_eq_getElem_cons hlen]
  simp

theorem parseResults_lookups_error (hj : j < n) (hbefore : ∀ i < j, R i = .ok []) {err : String}
    (he : R j = .error err) : parseResults ((List.range n).map R) = .error err := by
  rw [parseResults_lookups_first R hj hbefore, he]
  rfl

theorem parseResults_lookups_records (hj : j < n) (hbefore : ∀ i < j, R i = .ok [])
    {S : List CAA} (hS : R j = .ok S) (hne : S ≠ []) :
    parseResults ((List.range n).map R) = .ok (some (newCAASet S)) := by
  rw [parseResults_lookups_first R hj hbefore, hS]
  have hpos : S.length > 0 := List.length_pos_iff.mpr hne
  simp [parseResults, hpos]

theorem parseResults_lookups_none (hall : ∀ i < n, R i = .ok []) :
    parseResults ((List.range n).map R) = .ok none := by
  rw [parseResults_drop _ n (fun i hi => by rw [lookups_getElem? R hi, hall i hi]),
    List.drop_eq_nil_of_le (by simp)]
  rfl

/-- Either every answer is empty, or there is a first one that is not. -/
theorem all_empty_or_first_relevant :
    (∀ i < n, R i = .ok []) ∨ ∃ j < n, (∀ i < j, R i = .ok []) ∧ R j ≠ .ok [] := by
  by_cases h : ∃ j < n, R j ≠ .ok []
  · classical
    refine Or.inr ⟨Nat.find h, (Nat.find_spec h).1, fun i hi => ?_, (Nat.find_spec h).2⟩
    by_contra hne
    exact Nat.find_min h hi ⟨lt_trans hi (Nat.find_spec h).1, hne⟩
  · push Not at h
    exact Or.inl h

end Lookups

/-- `checkCAARecords` is the RFC 6844 tree climb. Take the identifier lowercased, with trailing
dots trimmed, split into labels `l₀ … lₖ`, and let `R j` be the resolver's answer for
`lⱼ.….lₖ`. The check fails with an error exactly when the first answer that is an error or a
non-empty record set is an error, and then with that error; it reports no records and allows
issuance exactly when every answer is empty; and when the first such answer is a record set
`S`, it reports records present and allows issuance exactly as `caaValid` reads `S` (answers
for shorter names are not consulted). -/
theorem checkCAARecords_tree_climbing (va : ValidationAuthorityImpl) (identifier : AcmeIdentifier) :
    let labels := split (trimRight (toLower identifier.value) ['.']) '.'
    let R := fun j => va.dnsLookupCAA (join (labels.drop j) ".")
    (∀ err, (va.checkCAARecords identifier).2.2 = some err ↔
      ∃ j < labels.length, (∀ i < j, R i = .ok []) ∧ R j = .error err) ∧
    (((va.checkCAARecords identifier).1, (va.checkCAARecords identifier).2.1) = (false, true) ↔
      ∀ j < labels.length, R j = .ok []) ∧
    (∀ j < labels.length, (∀ i < j, R i = .ok []) → ∀ S, R j = .ok S → S ≠ [] →
      va.checkCAARecords identifier = (true, caaValid va.issuerDomain S, none)) := by
  intro labels R
  have hget : va.getCAASet (toLower identifier.value) =
      parseResults ((List.range labels.length).map R) := getCAASet_eq va _
  rcases all_empty_or_first_relevant R (n := labels.length) with hall | ⟨j, hj, hbefore, hrel⟩
  · rw [checkCAARecords_of_ok (hget.trans (parseResults_lookups_none R hall))]
    refine ⟨fun err => ⟨fun h => by simp at h, ?_⟩, ⟨fun _ => hall, fun _ => rfl⟩, ?_⟩
    · rintro ⟨j, hj, -, he⟩
      simp [hall j hj] at he
    · intro j hj _ S hS hne
      rw [hall j hj] at hS
      exact absurd (Except.ok.inj hS).symm hne
  · have huniq : ∀ j' < labels.length, (∀ i < j', R i = .ok []) → R j' ≠ .ok [] → j' = j := by
      intro j' hj' hb' hr'
      rcases lt_trichotomy j' j with h | h | h
      · exact absurd (hbefore j' h) hr'
      · exact h
      · exact absurd (hb' j h) hrel
    cases hR : R j with
    | error e =>
      rw [checkCAARecords_of_error (hget.trans (parseResults_lookups_error R hj hbefore hR))]
      refine ⟨fun err => ⟨fun h => ⟨j, hj, hbefore, by rw [hR, (by simpa using h : e = err)]⟩, ?_⟩,
        ?_, ?_⟩
      · rintro ⟨j', hj', hb', he'⟩
        have := huniq j' hj' hb' (by rw [he']; simp)
        subst this
        rw [hR] at he'
        simpa using he'
      · simp only [Prod.mk.injEq, Bool.false_eq_true, and_false, false_iff, not_forall]
        exact ⟨j, hj, by rw [hR]; simp⟩
      · intro j' hj' hb' S hS hne
        have := huniq j' hj' hb' (by rw [hS]; simpa using hne)
        subst this
        rw [hR] at hS
        cases hS
    | ok S =>
      have hne : S ≠ [] := fun h => hrel (by rw [hR, h])
      rw [checkCAARecords_of_ok (hget.trans (parseResults_lookups_records R hj hbefore hR hne)),
        validateCAASet_newCAASet]
      refine ⟨fun err => ⟨fun h => by simp at h, ?_⟩, ?_, ?_⟩
      · rintro ⟨j', hj', hb', he'⟩
        have := huniq j' hj' hb' (by rw [he']; simp)
        subst this
        rw [hR] at he'
        cases he'
      · simp only [Prod.mk.injEq, Bool.true_eq_false, false_and, false_iff, not_forall]
        exact ⟨j, hj, hrel⟩
      · intro j' hj' hb' S' hS' hne'
        have := huniq j' hj' hb' (by rw [hS']; simpa using hne')
        subst this
        rw [hR] at hS'
        cases hS'
        rfl

/-! ## The distributed-resolver fallback -/

/-- A denial by the primary check is a connection problem too, so with a distributed resolver
configured `checkCAA` hands it to `checkGPDNS`: when the primary lookups all succeed and their
records forbid issuance, but the distributed resolver finds no CAA records for any suffix of
the name, `checkCAA` reports no problem. -/
theorem checkCAA_fallback_overrides_denial (va : ValidationAuthorityImpl)
    (lookupCAA : String → CAAAnswer) (identifier : AcmeIdentifier)
    (hdr : va.caaDR = some lookupCAA) (hdeny : (va.checkCAARecords identifier).2 = (false, none))
    (hempty : ∀ name, lookupCAA name = .ok []) :
    va.checkCAA identifier = none := by
  have hinternal : va.checkCAAInternal identifier =
      some (connectionFailure ("CAA record for " ++ identifier.value ++ " prevents issuance")) := by
    unfold ValidationAuthorityImpl.checkCAAInternal
    rcases hcr : va.checkCAARecords identifier with ⟨_, valid, err⟩
    rw [hcr] at hdeny
    cases hdeny
    rfl
  have hgpdns : va.checkGPDNS lookupCAA identifier = none := by
    have hnone : parseResults (parallelCAALookup identifier.value lookupCAA) = .ok none :=
      parseResults_lookups_none _ fun _ _ => hempty _
    simp only [ValidationAuthorityImpl.checkGPDNS, hnone]
    rfl
  simp only [ValidationAuthorityImpl.checkCAA, hdr, hinternal, connectionFailure, ↓reduceIte]
  exact hgpdns

/-- A VA for `letsencrypt.org` whose resolver finds a CAA record for `example.com` naming
another CA, and whose distributed resolver finds none. -/
def deniedVA : ValidationAuthorityImpl :=
  { issuerDomain := "letsencrypt.org"
    dnsLookupCAA := fun name =>
      if name = "example.com" then .ok [⟨0, "issue", "other-ca.org"⟩] else .ok []
    caaDR := some fun _ => .ok [] }

/-- The primary check denies issuance for `example.com` without a lookup error, and `checkCAA`
still reports no problem. -/
theorem deniedVA_checkCAA :
    deniedVA.caaDR = some (fun _ => .ok []) ∧
    (deniedVA.checkCAARecords ⟨.dns, "example.com"⟩).2 = (false, none) ∧
    deniedVA.checkCAA ⟨.dns, "example.com"⟩ = none :=
  ⟨rfl, by decide, checkCAA_fallback_overrides_denial deniedVA (fun _ => .ok []) ⟨.dns, "example.com"⟩
    rfl (by decide) (fun _ => rfl)⟩

end Boulder.VA
