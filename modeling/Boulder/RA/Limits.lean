/-
# Boulder.RA.Limits -- the RA's rate limit checks, and issuance under them

Every count limit of the RA asks the SA for a count and rejects once the count has reached the
threshold (`reached`, `checkCountLimit`): registrations per IP, pending and invalid
authorizations per account, certificates per registered domain, and the total of issued
certificates. `checkCertificatesPerFQDNSetLimit` keeps its own body, because it rejects only
once the count has passed the threshold (`fqdnSetLimit_passes_at_threshold`).

`issue` is one `NewCertificate` call as the limits see it: `checkLimits`, then, on success,
`AddCertificate`'s `fqdnSets` row with the certificate's `notBefore` as its issue time. The rest
of `NewCertificate` is taken to succeed, and the SA's per-name counts and the public suffix list
are parameters. Runs of `issue` give the bound the FQDN-set limit really enforces:
`threshold + 1` certificates per window (`fqdnSetLimit_successes_le`), reached from a window
with no earlier certificate (`fqdnSetLimit_admits_threshold_plus_one`).
-/
import Boulder.Ratelimit
import Boulder.SA.FQDNSets
import Boulder.Lib.Run
import Boulder.Lib.Loop

namespace Boulder.RA

open Boulder.Core Boulder.Ratelimit Boulder.SA Boulder.Lib.GoStrings Boulder.Lib.Run
  Boulder.Lib.Loop

/-- `noRegistrationID`: no registration overrides apply. -/
def noRegistrationID : ℤ := -1

/-! ## Count limits -/

/-- The comparison of every count limit but the FQDN-set one: the count has reached the
threshold for the key. -/
def reached (limit : RateLimitPolicy) (count : ℤ) (key : String) (regID : ℤ) : Bool :=
  count ≥ limit.getThreshold key regID

/-- An enabled count limit: the SA's count, then `reached`. -/
def checkCountLimit (limit : RateLimitPolicy) (count : Except BoulderError ℤ) (key : String)
    (regID : ℤ) (err : BoulderError) : Except BoulderError Unit :=
  if limit.enabled then
    match count with
    | .error e => .error e
    | .ok count => if reached limit count key regID then .error err else .ok ()
  else .ok ()

/-- `checkRegistrationLimit`, with the SA's `CountRegistrationsByIP` over the window. -/
def checkRegistrationLimit (limit : RateLimitPolicy) (count : Except BoulderError ℤ)
    (ip : String) : Except BoulderError Unit :=
  checkCountLimit limit count ip noRegistrationID
    (rateLimitError "too many registrations for this IP")

/-- `checkPendingAuthorizationLimit`, with the SA's `CountPendingAuthorizations`. -/
def checkPendingAuthorizationLimit (limit : RateLimitPolicy) (count : Except BoulderError ℤ)
    (regID : ℤ) : Except BoulderError Unit :=
  checkCountLimit limit count "" regID (rateLimitError "too many currently pending authorizations")

/-- `checkInvalidAuthorizationLimit`: checked only over gRPC, and a nil count is an error. -/
def checkInvalidAuthorizationLimit (limit : RateLimitPolicy) (usingGRPC : Bool)
    (count : Except BoulderError (Option ℤ)) (regID : ℤ) : Except BoulderError Unit :=
  if !limit.enabled || !usingGRPC then .ok ()
  else
    match count with
    | .error e => .error e
    | .ok none => .error (internalServerError "nil count")
    | .ok (some count) =>
      if reached limit count "" regID then
        .error (rateLimitError "Too many invalid authorizations recently.")
      else .ok ()

/-- The RA's cached count of issued certificates and when it was refreshed. -/
structure TotalIssued where
  count : ℤ
  lastUpdate : Time
  deriving DecidableEq, Repr

/-- Five minutes, in nanoseconds. -/
def fiveMinutes : Time := 5 * 60 * 1000000000

/-- `checkTotalCertificatesLimit`: a stale cached count is an error. The time in the message is
printed as its nanosecond count, not in Go's format. -/
def checkTotalCertificatesLimit (limit : RateLimitPolicy) (issued : TotalIssued) (now : Time) :
    Except BoulderError Unit :=
  if now > issued.lastUpdate + fiveMinutes ∨ issued.lastUpdate = zeroTime then
    .error (internalServerError
      ("Total certificate count out of date: updated " ++ toString issued.lastUpdate))
  else if issued.count ≥ limit.threshold then
    .error (rateLimitError "global certificate issuance limit reached. Try again in an hour")
  else .ok ()

/-! ## Certificates per name and per name set -/

/-- The SA methods the certificate limits call. -/
structure LimitsSA where
  countCertificatesByNames : List String → Time → Time → Except BoulderError (List (String × ℤ))
  fqdnSetExists : List String → Except BoulderError Bool
  countFQDNSets : Time → List String → Except BoulderError ℤ

/-- `domainsForRateLimiting`: each name's registered domain, or the name itself when the
public suffix list gives none, without repeats, in first-seen order. -/
def domainsForRateLimiting (publicSuffixDomain : String → Option String) (names : List String) :
    List String :=
  names.foldl (fun domains name =>
    let domain := (publicSuffixDomain name).getD name
    if domain ∈ domains then domains else domains ++ [domain]) []

/-- The loop of `checkCertificatesPerNameLimit`: the names whose count has reached their
threshold; a name the SA gave no count for is an error. -/
def badNames (limit : RateLimitPolicy) (regID : ℤ) (counts : List (String × ℤ)) :
    List String → Except BoulderError (List String)
  | [] => .ok []
  | name :: rest =>
    match counts.lookup name with
    | none => .error (internalServerError
        "CountCertificatesByNames failed to return a count for every name")
    | some count =>
      match badNames limit regID counts rest with
      | .error e => .error e
      | .ok bad => .ok (if reached limit count name regID then name :: bad else bad)

/-- `checkCertificatesPerNameLimit`: an existing certificate for the exact name set bypasses
the limit. -/
def checkCertificatesPerNameLimit (sa : LimitsSA) (publicSuffixDomain : String → Option String)
    (now : Time) (names : List String) (limit : RateLimitPolicy) (regID : ℤ) :
    Except BoulderError Unit :=
  let tldNames := domainsForRateLimiting publicSuffixDomain names
  match sa.countCertificatesByNames tldNames (limit.windowBegin now) now with
  | .error e => .error e
  | .ok counts =>
    match badNames limit regID counts tldNames with
    | .error e => .error e
    | .ok [] => .ok ()
    | .ok bad =>
      match sa.fqdnSetExists names with
      | .error e => .error e
      | .ok true => .ok ()
      | .ok false => .error (rateLimitError
          ("too many certificates already issued for: " ++ join bad ", "))

/-- `checkCertificatesPerFQDNSetLimit`: the one limit that compares with `>`. -/
def checkCertificatesPerFQDNSetLimit (sa : LimitsSA) (names : List String)
    (limit : RateLimitPolicy) (regID : ℤ) : Except BoulderError Unit :=
  match sa.countFQDNSets limit.window names with
  | .error e => .error e
  | .ok count =>
    let names := uniqueLowerNames names
    if count > limit.getThreshold (join names ",") regID then
      .error (rateLimitError
        ("too many certificates already issued for exact set of domains: " ++ join names ","))
    else .ok ()

/-- A limit is checked only when it is enabled. -/
def whenEnabled (limit : RateLimitPolicy) (check : Except BoulderError Unit) :
    Except BoulderError Unit :=
  if limit.enabled then check else .ok ()

/-- `checkLimits`: the enabled certificate limits, in order; the first to fail decides. -/
def checkLimits (rl : RateLimitConfig) (sa : LimitsSA) (publicSuffixDomain : String → Option String)
    (issued : TotalIssued) (now : Time) (names : List String) (regID : ℤ) :
    Except BoulderError Unit :=
  match whenEnabled rl.totalCertificates
      (checkTotalCertificatesLimit rl.totalCertificates issued now) with
  | .error e => .error e
  | .ok () =>
    match whenEnabled rl.certificatesPerName
        (checkCertificatesPerNameLimit sa publicSuffixDomain now names rl.certificatesPerName regID) with
    | .error e => .error e
    | .ok () =>
      whenEnabled rl.certificatesPerFQDNSet
        (checkCertificatesPerFQDNSetLimit sa names rl.certificatesPerFQDNSet regID)

/-! ## The comparisons -/

/-- An enabled count limit passes exactly below its threshold. -/
theorem checkCountLimit_eq_ok {limit : RateLimitPolicy} {count : ℤ} {key : String} {regID : ℤ}
    {err : BoulderError} (hen : limit.enabled = true) :
    checkCountLimit limit (.ok count) key regID err = .ok () ↔
      count < limit.getThreshold key regID := by
  by_cases h : count ≥ limit.getThreshold key regID
  · simp [checkCountLimit, hen, reached, h]
  · simp [checkCountLimit, hen, reached, h]
    omega

/-- The FQDN-set limit passes up to and including its threshold. -/
theorem checkCertificatesPerFQDNSetLimit_eq_ok {sa : LimitsSA} {names : List String}
    {limit : RateLimitPolicy} {regID count : ℤ} (hcount : sa.countFQDNSets limit.window names = .ok count) :
    checkCertificatesPerFQDNSetLimit sa names limit regID = .ok () ↔
      count ≤ limit.getThreshold (join (uniqueLowerNames names) ",") regID := by
  by_cases h : count > limit.getThreshold (join (uniqueLowerNames names) ",") regID
  · simp [checkCertificatesPerFQDNSetLimit, hcount, h]
  · simp [checkCertificatesPerFQDNSetLimit, hcount, h]
    omega

/-- At a count equal to the threshold, every other count limit rejects and the FQDN-set limit
passes. -/
theorem fqdnSetLimit_passes_at_threshold (limit : RateLimitPolicy) (hen : limit.enabled = true)
    (sa : LimitsSA) (names : List String) (regID : ℤ) (err : BoulderError)
    (hcount : sa.countFQDNSets limit.window names =
      .ok (limit.getThreshold (join (uniqueLowerNames names) ",") regID)) :
    checkCountLimit limit (.ok (limit.getThreshold (join (uniqueLowerNames names) ",") regID))
      (join (uniqueLowerNames names) ",") regID err ≠ .ok () ∧
    checkCertificatesPerFQDNSetLimit sa names limit regID = .ok () := by
  constructor
  · rw [Ne, checkCountLimit_eq_ok hen]
    exact lt_irrefl _
  · exact (checkCertificatesPerFQDNSetLimit_eq_ok hcount).mpr le_rfl

/-- With the total and per-name limits off, `checkLimits` is the FQDN-set limit. -/
theorem checkLimits_of_fqdn_only {rl : RateLimitConfig} (htotal : rl.totalCertificates.enabled = false)
    (hname : rl.certificatesPerName.enabled = false) (hfqdn : rl.certificatesPerFQDNSet.enabled = true)
    (sa : LimitsSA) (publicSuffixDomain : String → Option String) (issued : TotalIssued) (now : Time)
    (names : List String) (regID : ℤ) :
    checkLimits rl sa publicSuffixDomain issued now names regID =
      checkCertificatesPerFQDNSetLimit sa names rl.certificatesPerFQDNSet regID := by
  simp [checkLimits, whenEnabled, htotal, hname, hfqdn]

/-- Whatever else is enabled, `checkLimits` passes only if the enabled FQDN-set limit does. -/
theorem checkLimits_eq_ok_fqdn {rl : RateLimitConfig} (hfqdn : rl.certificatesPerFQDNSet.enabled = true)
    {sa : LimitsSA} {publicSuffixDomain : String → Option String} {issued : TotalIssued}
    {now : Time} {names : List String} {regID : ℤ}
    (h : checkLimits rl sa publicSuffixDomain issued now names regID = .ok ()) :
    checkCertificatesPerFQDNSetLimit sa names rl.certificatesPerFQDNSet regID = .ok () := by
  unfold checkLimits at h
  split at h
  · cases h
  · split at h
    · cases h
    · simpa [whenEnabled, hfqdn] using h

/-! ## Base domains -/

/-- `domainsForRateLimiting` is the first-seen loop over the names' base domains. -/
theorem domainsForRateLimiting_eq (publicSuffixDomain : String → Option String)
    (names : List String) :
    domainsForRateLimiting publicSuffixDomain names =
      (names.map fun name => (publicSuffixDomain name).getD name).foldl keepNew [] := by
  rw [List.foldl_map]
  rfl

/-- **Deduplication without loss.** Each name's base domain is counted once: the list holds
each of them exactly once, nothing else, in the order of their first occurrence. -/
theorem domainsForRateLimiting_first_seen (publicSuffixDomain : String → Option String)
    (names : List String) :
    (∀ name ∈ names, (domainsForRateLimiting publicSuffixDomain names).count
      ((publicSuffixDomain name).getD name) = 1) ∧
    (∀ domain ∈ domainsForRateLimiting publicSuffixDomain names,
      ∃ name ∈ names, (publicSuffixDomain name).getD name = domain) ∧
    (domainsForRateLimiting publicSuffixDomain names).Pairwise (fun x y =>
      (names.map fun name => (publicSuffixDomain name).getD name).idxOf x <
        (names.map fun name => (publicSuffixDomain name).getD name).idxOf y) := by
  rw [domainsForRateLimiting_eq]
  obtain ⟨hmem, hord⟩ := foldl_keepNew (names.map fun name => (publicSuffixDomain name).getD name)
  refine ⟨fun name hname => ?_, fun domain hdomain => ?_, hord⟩
  · apply List.count_eq_one_of_mem (nodup_foldl_keepNew _)
    exact (hmem _).mpr (List.mem_map_of_mem hname)
  · exact List.mem_map.mp ((hmem domain).mp hdomain)

/-! ## Issuance under the limits -/

/-- A `NewCertificate` call as the limits see it: the names, and the serial and validity of
the certificate the CA issues for them. -/
structure IssueRequest where
  names : List String
  serial : String
  now : Time
  notBefore : Time
  notAfter : Time
  deriving DecidableEq, Repr

section FQDNSetIdentity

/-! ## What identifies a name set -/

variable {H : Type} [DecidableEq H] (sha256 : String → H)

/-- Names that are not empty and hold no comma stay so in their name set. -/
theorem uniqueLowerNames_wellFormed {names : List String}
    (h : ∀ n ∈ names, n ≠ "" ∧ ',' ∉ n.toList) :
    ∀ x ∈ uniqueLowerNames names, x ≠ "" ∧ ',' ∉ x.toList := by
  intro x hx
  obtain ⟨n, hn, rfl⟩ := List.mem_map.mp (mem_uniqueLowerNames.mp hx)
  exact ⟨fun he => (h n hn).1 (toLower_eq_empty.mp he),
    fun hc => (h n hn).2 (mem_of_mem_toLower (by decide) hc)⟩

/-- For names that are not empty and hold no comma, the joined name sets agree exactly when the
lowercased names do; and the hash, the counts and lookups of `fqdnSets`, and the check of the
FQDN-set limit (keyed on the joined set) see no more of the names than that. -/
theorem fqdnSet_identity {a b : List String}
    (ha : ∀ n ∈ a, n ≠ "" ∧ ',' ∉ n.toList) (hb : ∀ n ∈ b, n ≠ "" ∧ ',' ∉ n.toList) :
    (join (uniqueLowerNames a) "," = join (uniqueLowerNames b) "," ↔
        ∀ x, x ∈ a.map toLower ↔ x ∈ b.map toLower) ∧
      ((∀ x, x ∈ a.map toLower ↔ x ∈ b.map toLower) →
        hashNames sha256 a = hashNames sha256 b ∧
        (∀ sets now window, countFQDNSets sha256 sets now window a =
          countFQDNSets sha256 sets now window b) ∧
        (∀ sets, fqdnSetExists sha256 sets a = fqdnSetExists sha256 sets b) ∧
        ∀ (sa : LimitsSA) (limit : RateLimitPolicy) (regID : ℤ),
          sa.countFQDNSets limit.window a = sa.countFQDNSets limit.window b →
          checkCertificatesPerFQDNSetLimit sa a limit regID =
            checkCertificatesPerFQDNSetLimit sa b limit regID) := by
  constructor
  · rw [← uniqueLowerNames_eq_iff]
    constructor
    · exact join_inj (c := ',') rfl (uniqueLowerNames_wellFormed ha) (uniqueLowerNames_wellFormed hb)
    · intro h
      rw [h]
  · intro hsame
    have hhash := hashNames_eq_of_same_set sha256 hsame
    refine ⟨hhash, fun sets now window => countFQDNSets_congr sha256 sets now window hhash,
      fun sets => ?_, ?_⟩
    · simp [fqdnSetExists, hhash]
    · intro sa limit regID hcount
      simp only [checkCertificatesPerFQDNSetLimit, hcount, uniqueLowerNames_eq_iff.mpr hsame]

theorem reordered_names_same_hash :
    hashNames id ["a.com", "B.com"] = hashNames id ["b.com", "A.com", "a.com"] :=
  have h := fqdnSet_identity id (a := ["a.com", "B.com"]) (b := ["b.com", "A.com", "a.com"])
    (by decide) (by decide)
  (h.2 (h.1.mp (by decide +kernel))).1

end FQDNSetIdentity

section Issue

variable {H : Type} [DecidableEq H] (sha256 : String → H) (rl : RateLimitConfig)
  (countCertificatesByNames : List String → Time → Time → Except BoulderError (List (String × ℤ)))
  (publicSuffixDomain : String → Option String) (issued : TotalIssued) (regID : ℤ)

/-- The SA's answers at `now`; the FQDN-set ones are read off `fqdnSets`. -/
def limitsSA (sets : List (FQDNSet H)) (now : Time) : LimitsSA :=
  { countCertificatesByNames
    fqdnSetExists := fun names => .ok (fqdnSetExists sha256 sets names)
    countFQDNSets := fun window names => .ok (countFQDNSets sha256 sets now window names) }

/-- One `NewCertificate` call; the reply is its error, if any. -/
def issue (sets : List (FQDNSet H)) (req : IssueRequest) : List (FQDNSet H) × Option BoulderError :=
  match checkLimits rl (limitsSA sha256 countCertificatesByNames sets req.now) publicSuffixDomain
      issued req.now req.names regID with
  | .error e => (sets, some e)
  | .ok () => (addFQDNSet sha256 sets req.names req.serial req.notBefore req.notAfter, none)

/-- The FQDN-set threshold of a name set. -/
def fqdnThreshold (names : List String) : ℤ :=
  rl.certificatesPerFQDNSet.getThreshold (join (uniqueLowerNames names) ",") regID

/-- The requests of a run for one name set, each certificate counted in the window of every
request of the run. -/
structure SameSetRun (names : List String) (reqs : List IssueRequest) : Prop where
  same : ∀ r ∈ reqs, ∀ x, x ∈ r.names.map toLower ↔ x ∈ names.map toLower
  window : ∀ r ∈ reqs, ∀ r' ∈ reqs, r'.now - rl.certificatesPerFQDNSet.window < r.notBefore

section SameSetRun

variable {rl} {names : List String} {r : IssueRequest} {reqs : List IssueRequest}

theorem SameSetRun.tail (h : SameSetRun rl names (r :: reqs)) : SameSetRun rl names reqs :=
  ⟨fun r' hr' => h.same r' (List.mem_cons_of_mem r hr'),
    fun r' hr' r'' hr'' => h.window r' (List.mem_cons_of_mem r hr') r'' (List.mem_cons_of_mem r hr'')⟩

/-- The first request of such a run is checked against the set's count and threshold. -/
theorem SameSetRun.head_count (h : SameSetRun rl names (r :: reqs)) (sets : List (FQDNSet H)) :
    countFQDNSets sha256 sets r.now rl.certificatesPerFQDNSet.window r.names =
        countFQDNSets sha256 sets r.now rl.certificatesPerFQDNSet.window names ∧
      fqdnThreshold rl regID r.names = fqdnThreshold rl regID names := by
  have hset := h.same r List.mem_cons_self
  refine ⟨countFQDNSets_congr sha256 sets _ _ (hashNames_eq_of_same_set sha256 hset), ?_⟩
  rw [fqdnThreshold, fqdnThreshold, uniqueLowerNames_eq_iff.mpr hset]

/-- After the first request of such a run succeeds, every later request counts one more. -/
theorem SameSetRun.count_after (h : SameSetRun rl names (r :: reqs)) (sets : List (FQDNSet H)) :
    ∀ r' ∈ reqs, countFQDNSets sha256
        (addFQDNSet sha256 sets r.names r.serial r.notBefore r.notAfter) r'.now
        rl.certificatesPerFQDNSet.window names =
      countFQDNSets sha256 sets r'.now rl.certificatesPerFQDNSet.window names + 1 := by
  intro r' hr'
  exact countFQDNSets_addFQDNSet sha256 sets r.serial r.notAfter
    (hashNames_eq_of_same_set sha256 (h.same r List.mem_cons_self))
    (h.window r List.mem_cons_self r' (List.mem_cons_of_mem r hr'))

end SameSetRun

/-- The successes of a run: the requests answered without an error. -/
def successes (sets : List (FQDNSet H)) (reqs : List IssueRequest) : ℕ :=
  (replies (issue sha256 rl countCertificatesByNames publicSuffixDomain issued regID) sets
    reqs).count none

/-- The limit's invariant along a run: with at least `k` certificates of the set counted at
every request, `k` plus the successes stay within `threshold + 1`, or `k` if that is more. -/
theorem successes_add_le (hfqdn : rl.certificatesPerFQDNSet.enabled = true) (names : List String) :
    ∀ (reqs : List IssueRequest) (sets : List (FQDNSet H)) (k : ℕ), SameSetRun rl names reqs →
      (∀ r ∈ reqs, (k : ℤ) ≤ countFQDNSets sha256 sets r.now rl.certificatesPerFQDNSet.window names) →
      (k : ℤ) + successes sha256 rl countCertificatesByNames publicSuffixDomain issued regID sets reqs ≤
        max (fqdnThreshold rl regID names + 1) k := by
  intro reqs
  induction reqs with
  | nil =>
    intro sets k _ _
    simp [successes]
  | cons r reqs ih =>
    intro sets k hrun hk
    obtain ⟨hcount, hthreshold⟩ := hrun.head_count sha256 regID sets
    unfold successes at ih ⊢
    simp only [replies_cons]
    cases hcheck : checkLimits rl (limitsSA sha256 countCertificatesByNames sets r.now)
        publicSuffixDomain issued r.now r.names regID with
    | error e =>
      simp only [issue, hcheck, List.count_cons, reduceCtorEq, beq_iff_eq, ↓reduceIte, add_zero]
      exact ih sets k hrun.tail fun r' hr' => hk r' (List.mem_cons_of_mem r hr')
    | ok u =>
      have hpass := (@checkCertificatesPerFQDNSetLimit_eq_ok
        (limitsSA sha256 countCertificatesByNames sets r.now) r.names rl.certificatesPerFQDNSet
        regID _ rfl).mp (checkLimits_eq_ok_fqdn hfqdn hcheck)
      have hkT : (k : ℤ) ≤ fqdnThreshold rl regID names := by
        rw [← hthreshold]
        exact (hk r List.mem_cons_self).trans (hcount ▸ hpass)
      have hrest := ih _ (k + 1) hrun.tail fun r' hr' => by
        have hk' := hk r' (List.mem_cons_of_mem r hr')
        rw [hrun.count_after sha256 sets r' hr']
        push_cast
        omega
      simp only [issue, hcheck, List.count_cons_self]
      push_cast at hrest ⊢
      have hroom : (k : ℤ) + 1 ≤ fqdnThreshold rl regID names + 1 := by omega
      rw [max_eq_left hroom] at hrest
      exact le_max_of_le_left (by omega)

/-- **The bound the FQDN-set limit enforces.** In a run of requests for one name set within
one window, at most `threshold + 1` certificates are issued. -/
theorem fqdnSetLimit_successes_le (hfqdn : rl.certificatesPerFQDNSet.enabled = true)
    (names : List String) (sets : List (FQDNSet H)) (reqs : List IssueRequest)
    (hrun : SameSetRun rl names reqs) :
    (successes sha256 rl countCertificatesByNames publicSuffixDomain issued regID sets reqs : ℤ) ≤
      max (fqdnThreshold rl regID names + 1) 0 := by
  have h := successes_add_le sha256 rl countCertificatesByNames publicSuffixDomain issued regID
    hfqdn names reqs sets 0 hrun fun r _ => by simp [countFQDNSets]
  simpa using h

/-- From a window with no certificate of the set, with only the FQDN-set limit on, the first
`threshold + 1` requests for the set all succeed. -/
theorem fqdnSetLimit_admits_threshold_plus_one (htotal : rl.totalCertificates.enabled = false)
    (hname : rl.certificatesPerName.enabled = false) (hfqdn : rl.certificatesPerFQDNSet.enabled = true)
    (names : List String) (sets : List (FQDNSet H)) (reqs : List IssueRequest)
    (hrun : SameSetRun rl names reqs)
    (hfresh : ∀ r ∈ reqs, countFQDNSets sha256 sets r.now rl.certificatesPerFQDNSet.window names = 0)
    (hlen : (reqs.length : ℤ) ≤ fqdnThreshold rl regID names + 1) :
    ∀ reply ∈ replies (issue sha256 rl countCertificatesByNames publicSuffixDomain issued regID)
      sets reqs, reply = none := by
  suffices hgen : ∀ (reqs : List IssueRequest) (sets : List (FQDNSet H)) (k : ℕ),
      SameSetRun rl names reqs →
      (∀ r ∈ reqs, countFQDNSets sha256 sets r.now rl.certificatesPerFQDNSet.window names = k) →
      (k : ℤ) + reqs.length ≤ fqdnThreshold rl regID names + 1 →
      ∀ reply ∈ replies (issue sha256 rl countCertificatesByNames publicSuffixDomain issued regID)
        sets reqs, reply = none from
    hgen reqs sets 0 hrun (by simpa using hfresh) (by simpa using hlen)
  intro reqs
  induction reqs with
  | nil =>
    intro sets k _ _ _ reply hreply
    cases hreply
  | cons r reqs ih =>
    intro sets k hrun hk hroom reply hreply
    obtain ⟨hcount, hthreshold⟩ := hrun.head_count sha256 regID sets
    simp only [List.length_cons] at hroom
    push_cast at hroom
    have hpass : checkLimits rl (limitsSA sha256 countCertificatesByNames sets r.now)
        publicSuffixDomain issued r.now r.names regID = .ok () := by
      rw [checkLimits_of_fqdn_only htotal hname hfqdn,
        @checkCertificatesPerFQDNSetLimit_eq_ok _ _ _ regID (k : ℤ)
          (by simp [limitsSA, hcount, hk r List.mem_cons_self])]
      have hT : fqdnThreshold rl regID r.names = fqdnThreshold rl regID names := hthreshold
      unfold fqdnThreshold at hT hroom
      rw [hT]
      omega
    simp only [replies_cons, issue, hpass] at hreply
    rcases List.mem_cons.mp hreply with rfl | hlater
    · rfl
    · refine ih _ (k + 1) hrun.tail (fun r' hr' => ?_) (by push_cast; omega) reply hlater
      rw [hrun.count_after sha256 sets r' hr', hk r' (List.mem_cons_of_mem r hr')]
      push_cast
      rfl

end Issue

/-- A configuration with only the FQDN-set limit on: one certificate per name set in a window of
1000. -/
def fqdnOnlyConfig : RateLimitConfig :=
  let off : RateLimitPolicy := ⟨0, 0, [], []⟩
  { totalCertificates := off, certificatesPerName := off, registrationsPerIP := off
    pendingAuthorizationsPerAccount := off, invalidAuthorizationsPerAccount := off
    certificatesPerFQDNSet := ⟨1000, 1, [], []⟩ }

/-- Two requests of registration 1 for `example.com`, the second spelled in upper case. -/
def twoRequests : List IssueRequest :=
  [⟨["example.com"], "01", 100, 100, 200⟩, ⟨["EXAMPLE.com"], "02", 150, 150, 250⟩]

theorem twoRequests_sameSetRun : SameSetRun fqdnOnlyConfig ["example.com"] twoRequests := by
  have hupper : toLower "EXAMPLE.com" = "example.com" := by decide
  have hlower : toLower "example.com" = "example.com" := by decide
  constructor
  · intro r hr x
    simp only [twoRequests, List.mem_cons, List.not_mem_nil, or_false] at hr
    rcases hr with rfl | rfl <;> simp [hupper, hlower]
  · intro r hr r' hr'
    simp only [twoRequests, List.mem_cons, List.not_mem_nil, or_false] at hr hr'
    rcases hr with rfl | rfl <;> rcases hr' with rfl | rfl <;> decide

/-- With a threshold of one certificate per window, both requests are issued. -/
theorem fqdnOnly_issues_two :
    fqdnThreshold fqdnOnlyConfig 1 ["example.com"] = 1 ∧ twoRequests.length = 2 ∧
    fqdnOnlyConfig.totalCertificates.enabled = false ∧
    fqdnOnlyConfig.certificatesPerName.enabled = false ∧
    fqdnOnlyConfig.certificatesPerFQDNSet.enabled = true ∧
    SameSetRun fqdnOnlyConfig ["example.com"] twoRequests ∧
    (∀ r ∈ twoRequests, countFQDNSets id ([] : List (FQDNSet String)) r.now
      fqdnOnlyConfig.certificatesPerFQDNSet.window ["example.com"] = 0) ∧
    (twoRequests.length : ℤ) ≤ fqdnThreshold fqdnOnlyConfig 1 ["example.com"] + 1 ∧
    ∀ reply ∈ replies (issue id fqdnOnlyConfig (fun _ _ _ => .ok []) (fun _ => none) ⟨0, 0⟩ 1)
      [] twoRequests, reply = none :=
  ⟨by decide, rfl, rfl, rfl, rfl, twoRequests_sameSetRun, fun _ _ => rfl, by decide,
    fqdnSetLimit_admits_threshold_plus_one id fqdnOnlyConfig (fun _ _ _ => .ok []) (fun _ => none)
      ⟨0, 0⟩ 1 rfl rfl rfl ["example.com"] [] twoRequests twoRequests_sameSetRun (fun _ _ => rfl)
      (by decide)⟩


/-- In the run of `twoRequests`, at most the threshold plus one certificates are issued. -/
theorem twoRequests_successes_le :
    (successes id fqdnOnlyConfig (fun _ _ _ => .ok []) (fun _ => none) ⟨0, 0⟩ 1 [] twoRequests : ℤ) ≤
      max (fqdnThreshold fqdnOnlyConfig 1 ["example.com"] + 1) 0 :=
  fqdnSetLimit_successes_le id fqdnOnlyConfig (fun _ _ _ => .ok []) (fun _ => none) ⟨0, 0⟩ 1 rfl
    ["example.com"] [] twoRequests twoRequests_sameSetRun

end Boulder.RA
