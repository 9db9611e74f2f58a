/-
# Boulder.OCSP.Updater -- the OCSP updater's ticks against the certificate status table

The updater runs its loops in separate goroutines, and each tick reads a batch of
`certificateStatus` rows and then signs and stores a response for each of them, in parallel for
`newCertificateTick` and `oldOCSPResponsesTick` and one after another for
`revokedCertificatesTick`. Meanwhile the SA may revoke a certificate. The model therefore splits
every tick in two: the tick reads its batch and queues one job per row, a snapshot of the row as
the tick's query returned it, and a `work` step later signs from a queued snapshot and stores
the result. Any interleaving of ticks, revocations and jobs is a run of `step`. Every run of the
code is one of these runs: a tick that stops at an error leaves its other jobs queued, and a
run need never work them.

The CA signs exactly what it is asked to, so a response is its signing request. Signing does not
fail here; a failed signing stores nothing, which a run that never works the job also covers.

`findStaleOCSPResponses` selects four columns only, so its snapshots carry the zero values of
the others: a revoked certificate is re-signed with reason 0, whatever reason the row records
(`oldOCSPResponsesTick_drops_reason`). What does hold is the guard of `storeResponse`: a response
is stored only into a row whose status is the one it was signed with, so a good response never
lands in a revoked row (`stored_response_status`, `revoked_row_stores_revoked`).
-/
import Mathlib.Data.List.Sort
import Boulder.SA.Certificates
import Boulder.Lib.Run

namespace Boulder.OCSP

open Boulder.Core Boulder.SA Boulder.Lib.Run

/-- The configuration the ticks read. -/
structure OCSPUpdater where
  ocspMinTimeToExpiry : Time
  ocspStaleMaxAge : Time

/-- Which generator a job goes through. -/
inductive JobKind where
  /-- `generateResponse`, used by `newCertificateTick` and `oldOCSPResponsesTick`. -/
  | generate
  /-- `generateRevokedResponse`, used by `revokedCertificatesTick`. -/
  | generateRevoked
  deriving DecidableEq, Repr

/-- A queued job: a row as a tick read it. -/
structure Job where
  kind : JobKind
  status : CertificateStatus
  deriving DecidableEq, Repr

/-- The SA's tables and the jobs the ticks have queued and not yet worked. -/
structure State where
  tables : CertTables
  jobs : List Job
  deriving DecidableEq, Repr

/-! ## Queries -/

/-- The row as `findStaleOCSPResponses` returns it: `serial`, `status`, `revokedDate` and
`notAfter` are selected, every other field keeps its zero value. -/
def staleColumns (cs : CertificateStatus) : CertificateStatus :=
  { serial := cs.serial, status := cs.status, ocspLastUpdated := zeroTime
    revokedDate := cs.revokedDate, revokedReason := 0, ocspResponse := none
    notAfter := cs.notAfter, isExpired := false }

/-- `findStaleOCSPResponses`: rows last signed between the maximum age and
`oldestLastUpdatedTime`, not expired, oldest first, at most `batchSize` of them. -/
def OCSPUpdater.findStaleOCSPResponses (u : OCSPUpdater) (t : CertTables) (now : Time)
    (oldestLastUpdatedTime : Time) (batchSize : ℕ) : List CertificateStatus :=
  let maxAgeCutoff := now - u.ocspStaleMaxAge
  let stale := t.certificateStatus.filter fun cs =>
    maxAgeCutoff < cs.ocspLastUpdated ∧ cs.ocspLastUpdated < oldestLastUpdatedTime ∧ !cs.isExpired
  ((stale.insertionSort fun a b => a.ocspLastUpdated ≤ b.ocspLastUpdated).take batchSize).map
    staleColumns

/-- `getCertificatesWithMissingResponses`: rows never signed, whole. The query has no
`ORDER BY`; the model takes them in table order. -/
def getCertificatesWithMissingResponses (t : CertTables) (batchSize : ℕ) :
    List CertificateStatus :=
  (t.certificateStatus.filter (·.ocspLastUpdated = zeroTime)).take batchSize

/-- `findRevokedCertificatesToUpdate`: revoked rows not signed since their revocation, whole. -/
def findRevokedCertificatesToUpdate (t : CertTables) (batchSize : ℕ) : List CertificateStatus :=
  (t.certificateStatus.filter fun cs =>
    cs.status = .revoked ∧ cs.ocspLastUpdated ≤ cs.revokedDate).take batchSize

/-! ## Signing and storing -/

/-- `generateResponse`: sign the snapshot's own status, reason and revocation date. The
certificate is looked up by serial first. -/
def generateResponse (t : CertTables) (status : CertificateStatus) (now : Time) :
    Except BoulderError CertificateStatus :=
  if status.serial ∈ t.certificates then
    .ok { status with
      ocspLastUpdated := now
      ocspResponse := some ⟨status.serial, status.status, status.revokedReason, status.revokedDate⟩ }
  else .error (internalServerError "sql: no rows in result set")

/-- `generateRevokedResponse`: sign a revoked response with the snapshot's reason and date. -/
def generateRevokedResponse (t : CertTables) (status : CertificateStatus) (now : Time) :
    Except BoulderError CertificateStatus :=
  match getCertificate t status.serial with
  | .error e => .error e
  | .ok () =>
    .ok { status with
      ocspLastUpdated := now
      ocspResponse := some ⟨status.serial, .revoked, status.revokedReason, status.revokedDate⟩ }

/-- `storeResponse`: `UPDATE certificateStatus SET ocspResponse, ocspLastUpdated WHERE serial
AND status`, with the status the response was generated from. -/
def storeResponse (t : CertTables) (status : CertificateStatus) : CertTables :=
  t.updateStatus status.serial fun cs =>
    if cs.status = status.status then
      { cs with ocspResponse := status.ocspResponse, ocspLastUpdated := status.ocspLastUpdated }
    else cs

/-- What `storeResponse` wrote into the row of its serial, if the guard matched it. -/
def stored (t : CertTables) (status : CertificateStatus) : Option (String × OCSPSigningRequest) :=
  match t.statusOf status.serial, status.ocspResponse with
  | some cs, some resp => if cs.status = status.status then some (status.serial, resp) else none
  | _, _ => none

/-- `markExpired`. -/
def markExpired (t : CertTables) (status : CertificateStatus) : CertTables :=
  t.updateStatus status.serial fun cs => { cs with isExpired := true }

/-- The loop of `oldOCSPResponsesTick` that marks expired the rows past their `notAfter`. -/
def markExpiredPast (tickStart : Time) (t : CertTables) : List CertificateStatus → CertTables
  | [] => t
  | s :: rest =>
    let t := if !s.isExpired ∧ s.notAfter < tickStart then markExpired t s else t
    markExpiredPast tickStart t rest

/-! ## The system -/

/-- The requests the status table sees. -/
inductive Request where
  /-- `SA.MarkCertificateRevoked`. -/
  | markCertificateRevoked (serial : String) (reasonCode : Reason) (now : Time)
  /-- `newCertificateTick`, up to queueing its batch. -/
  | newCertificateTick (batchSize : ℕ)
  /-- `oldOCSPResponsesTick` started at `tickStart`, up to queueing its batch. -/
  | oldOCSPResponsesTick (tickStart : Time) (batchSize : ℕ)
  /-- `revokedCertificatesTick`, up to queueing its batch. -/
  | revokedCertificatesTick (batchSize : ℕ)
  /-- One queued job signed at `now` and stored. -/
  | work (job : Job) (now : Time)
  deriving DecidableEq, Repr

/-- The jobs a batch becomes. -/
def queue (kind : JobKind) (statuses : List CertificateStatus) : List Job :=
  statuses.map (⟨kind, ·⟩)

/-- Sign a job from its snapshot. -/
def generate (t : CertTables) (job : Job) (now : Time) : Except BoulderError CertificateStatus :=
  match job.kind with
  | .generate => generateResponse t job.status now
  | .generateRevoked => generateRevokedResponse t job.status now

/-- One step; the reply is what a job stored. -/
def step (u : OCSPUpdater) (s : State) : Request → State × Option (String × OCSPSigningRequest)
  | .markCertificateRevoked serial reasonCode now =>
    match markCertificateRevoked s.tables serial reasonCode now with
    | .ok t => ({ s with tables := t }, none)
    | .error _ => (s, none)
  | .newCertificateTick batchSize =>
    let statuses := getCertificatesWithMissingResponses s.tables batchSize
    ({ s with jobs := s.jobs ++ queue .generate statuses }, none)
  | .oldOCSPResponsesTick tickStart batchSize =>
    let statuses := u.findStaleOCSPResponses s.tables tickStart
      (tickStart - u.ocspMinTimeToExpiry) batchSize
    (⟨markExpiredPast tickStart s.tables statuses, s.jobs ++ queue .generate statuses⟩, none)
  | .revokedCertificatesTick batchSize =>
    let statuses := findRevokedCertificatesToUpdate s.tables batchSize
    ({ s with jobs := s.jobs ++ queue .generateRevoked statuses }, none)
  | .work job now =>
    if job ∈ s.jobs then
      match generate s.tables job now with
      | .ok status => (⟨storeResponse s.tables status, s.jobs.erase job⟩, stored s.tables status)
      | .error _ => ({ s with jobs := s.jobs.erase job }, none)
    else (s, none)

/-! ## Each request on its own -/

/-- The request a job is signed from: its snapshot's reason and date, and the snapshot's
status, or revoked for `generateRevokedResponse`. -/
def signingRequest (job : Job) : OCSPSigningRequest :=
  { serial := job.status.serial
    status := match job.kind with
      | .generate => job.status.status
      | .generateRevoked => .revoked
    reason := job.status.revokedReason
    revokedAt := job.status.revokedDate }

/-- The revocation columns of a row. -/
def revocationOf (cs : CertificateStatus) : OCSPStatus × Reason × Time :=
  (cs.status, cs.revokedReason, cs.revokedDate)

theorem mem_queue {kind : JobKind} {statuses : List CertificateStatus} {job : Job} :
    job ∈ queue kind statuses ↔ job.kind = kind ∧ job.status ∈ statuses := by
  obtain ⟨k, st⟩ := job
  simp only [queue, List.mem_map, Job.mk.injEq]
  constructor
  · rintro ⟨st', hst', rfl, rfl⟩
    exact ⟨rfl, hst'⟩
  · rintro ⟨rfl, hst⟩
    exact ⟨st, hst, rfl, rfl⟩

/-- A job that is signed gets its snapshot back, stamped and carrying its signed request. -/
theorem generate_eq_ok {t : CertTables} {job : Job} {now : Time} {status : CertificateStatus}
    (h : generate t job now = .ok status) :
    status = { job.status with ocspLastUpdated := now, ocspResponse := some (signingRequest job) } := by
  obtain ⟨kind, st⟩ := job
  cases kind with
  | generate =>
    by_cases hc : st.serial ∈ t.certificates
    · simp only [generate, generateResponse, hc, ↓reduceIte, Except.ok.injEq] at h
      rw [← h]
      rfl
    · simp [generate, generateResponse, hc] at h
  | generateRevoked =>
    cases hg : getCertificate t st.serial with
    | error e => simp [generate, generateRevokedResponse, hg] at h
    | ok u =>
      simp only [generate, generateRevokedResponse, hg, Except.ok.injEq] at h
      rw [← h]
      rfl

theorem statusOf_storeResponse (t : CertTables) (status : CertificateStatus) (x : String) :
    (storeResponse t status).statusOf x = (t.statusOf x).map fun cs =>
      if status.serial = x ∧ cs.status = status.status then
        { cs with ocspResponse := status.ocspResponse, ocspLastUpdated := status.ocspLastUpdated }
      else cs := by
  rw [storeResponse, statusOf_updateStatus _ (fun cs => by split <;> rfl)]
  congr 1
  funext cs
  by_cases hx : status.serial = x <;> by_cases hs : cs.status = status.status <;> simp [hx, hs]

/-- `storeResponse` writes only the response columns. -/
theorem revocationOf_storeResponse (t : CertTables) (status : CertificateStatus) (x : String) :
    ((storeResponse t status).statusOf x).map revocationOf = (t.statusOf x).map revocationOf :=
  map_statusOf_updateStatus _ (fun cs => by split <;> rfl) (fun cs => by split <;> rfl) t x

/-- `markExpired` writes only `isExpired`. -/
theorem revocationOf_markExpired (t : CertTables) (status : CertificateStatus) (x : String) :
    ((markExpired t status).statusOf x).map revocationOf = (t.statusOf x).map revocationOf :=
  map_statusOf_updateStatus _ (fun _ => by rfl) (fun _ => by rfl) t x

theorem revocationOf_markExpiredPast (tickStart : Time) (x : String) :
    ∀ (statuses : List CertificateStatus) (t : CertTables),
      ((markExpiredPast tickStart t statuses).statusOf x).map revocationOf =
        (t.statusOf x).map revocationOf := by
  intro statuses
  induction statuses with
  | nil => intro t; rfl
  | cons st rest ih =>
    intro t
    rw [markExpiredPast, ih]
    split
    · exact revocationOf_markExpired t st x
    · rfl

theorem certificates_markExpiredPast (tickStart : Time) :
    ∀ (statuses : List CertificateStatus) (t : CertTables),
      (markExpiredPast tickStart t statuses).certificates = t.certificates := by
  intro statuses
  induction statuses with
  | nil => intro t; rfl
  | cons st rest ih =>
    intro t
    rw [markExpiredPast, ih]
    split <;> rfl

/-- Revoking a certificate revokes its row and leaves the others. -/
theorem status_markCertificateRevoked {t t' : CertTables} {serial : String} {reasonCode : Reason}
    {now : Time} (h : markCertificateRevoked t serial reasonCode now = .ok t') (x : String) :
    (t'.statusOf x).map (·.status) =
      (t.statusOf x).map fun cs => if serial = x then .revoked else cs.status := by
  obtain ⟨-, -, -, rfl⟩ := markCertificateRevoked_eq_ok.mp h
  rw [statusOf_updateStatus (f := fun cs =>
    { cs with status := .revoked, revokedDate := now, revokedReason := reasonCode }) _
    (fun _ => rfl), Option.map_map]
  congr 1
  funext cs
  simp only [Function.comp_apply]
  split <;> rfl

/-! ## Invariant -/

/-- Every job queued for `generateRevokedResponse` holds a revoked row: the query of
`revokedCertificatesTick` selects revoked rows only. -/
def Inv (s : State) : Prop :=
  ∀ job ∈ s.jobs, job.kind = .generateRevoked → job.status.status = .revoked

theorem inv_init (t : CertTables) : Inv ⟨t, []⟩ := by
  intro job hjob
  cases hjob

theorem inv_step (u : OCSPUpdater) (s : State) (a : Request) (h : Inv s) : Inv (step u s a).1 := by
  -- a tick appends jobs of its own kind; a job that is worked is removed
  have happend : ∀ kind statuses, (kind = .generateRevoked → ∀ st ∈ statuses,
      CertificateStatus.status st = .revoked) → Inv ⟨s.tables, s.jobs ++ queue kind statuses⟩ ∧
      ∀ t, Inv ⟨t, s.jobs ++ queue kind statuses⟩ := by
    intro kind statuses hk
    have hI : ∀ t, Inv ⟨t, s.jobs ++ queue kind statuses⟩ := by
      intro t job hjob hkind
      rcases List.mem_append.mp hjob with hold | hnew
      · exact h job hold hkind
      · obtain ⟨rfl, hst⟩ := mem_queue.mp hnew
        exact hk hkind _ hst
    exact ⟨hI _, hI⟩
  have herase : ∀ t job, Inv ⟨t, s.jobs.erase job⟩ :=
    fun t job j hj hkind => h j (List.mem_of_mem_erase hj) hkind
  cases a with
  | markCertificateRevoked serial reasonCode now =>
    simp only [step]
    split
    · exact h
    · exact h
  | newCertificateTick batchSize =>
    exact (happend .generate _ (fun hk => by cases hk)).1
  | oldOCSPResponsesTick tickStart batchSize =>
    exact (happend .generate _ (fun hk => by cases hk)).2 _
  | revokedCertificatesTick batchSize =>
    refine (happend .generateRevoked _ fun _ st hst => ?_).1
    have hmem := (List.mem_filter.mp (List.mem_of_mem_take hst)).2
    simp only [decide_eq_true_eq] at hmem
    exact hmem.1
  | work job now =>
    simp only [step]
    split
    · split
      · exact herase _ _
      · exact herase _ _
    · exact h

theorem reachable_inv (u : OCSPUpdater) (init : CertTables) {s : State}
    (hs : Reachable (step u) ⟨init, []⟩ s) : Inv s :=
  hs.invariant (inv_init init) (inv_step u)

/-! ## What a job stores -/

/-- What a job stored: its own request, into the row of its serial, whose status was the
snapshot's. -/
theorem stored_eq_some {t : CertTables} {status : CertificateStatus} {x : String}
    {resp : OCSPSigningRequest} (h : stored t status = some (x, resp)) :
    x = status.serial ∧ status.ocspResponse = some resp ∧
      ∃ cs, t.statusOf x = some cs ∧ cs.status = status.status := by
  unfold stored at h
  split at h
  · rename_i cs resp' hcs hresp
    by_cases hst : cs.status = status.status
    · simp only [hst, ↓reduceIte, Option.some.injEq, Prod.mk.injEq] at h
      obtain ⟨rfl, rfl⟩ := h
      exact ⟨rfl, hresp, cs, hcs, hst⟩
    · simp [hst] at h
  · cases h

/-- The row a store matched carries the response afterwards, its status unchanged. -/
theorem statusOf_storeResponse_of_match {t : CertTables} {status : CertificateStatus}
    {cs : CertificateStatus} (hcs : t.statusOf status.serial = some cs)
    (hst : cs.status = status.status) :
    (storeResponse t status).statusOf status.serial = some
      { cs with ocspResponse := status.ocspResponse, ocspLastUpdated := status.ocspLastUpdated } := by
  rw [statusOf_storeResponse, hcs]
  simp [hst]

/-- A queued job is signed with its snapshot's status: for `generateRevokedResponse` the
invariant says that status is revoked. -/
theorem signingRequest_status {s : State} (hinv : Inv s) {job : Job} (hjob : job ∈ s.jobs) :
    (signingRequest job).status = job.status.status := by
  obtain ⟨kind, st⟩ := job
  cases kind with
  | generate => rfl
  | generateRevoked => exact (hinv _ hjob rfl).symm

/-- In every reachable state, whatever a step stores sits in a row whose status is the one the
response was signed with. -/
theorem stored_response_status (u : OCSPUpdater) (init : CertTables) {s : State}
    (hs : Reachable (step u) ⟨init, []⟩ s) (a : Request) {x : String}
    {resp : OCSPSigningRequest} (h : (step u s a).2 = some (x, resp)) :
    ∃ cs, (step u s a).1.tables.statusOf x = some cs ∧ cs.ocspResponse = some resp ∧
      cs.status = resp.status := by
  cases a with
  | markCertificateRevoked serial reasonCode now =>
    simp only [step] at h
    split at h <;> cases h
  | newCertificateTick batchSize => cases h
  | oldOCSPResponsesTick tickStart batchSize => cases h
  | revokedCertificatesTick batchSize => cases h
  | work job now =>
    by_cases hjob : job ∈ s.jobs
    · cases hgen : generate s.tables job now with
      | error e => simp [step, hjob, hgen] at h
      | ok status =>
        simp only [step, hjob, hgen, ↓reduceIte] at h ⊢
        obtain ⟨rfl, hresp, cs, hcs, hst⟩ := stored_eq_some h
        have hstatus := generate_eq_ok hgen
        refine ⟨_, statusOf_storeResponse_of_match hcs hst, hresp, ?_⟩
        have hsigned : resp = signingRequest job := by
          rw [hstatus] at hresp
          exact (Option.some.inj hresp).symm
        rw [hsigned, signingRequest_status (reachable_inv u init hs) hjob, hst, hstatus]
    · simp [step, hjob] at h

theorem status_eq_of_revocationOf {o o' : Option CertificateStatus}
    (h : o.map revocationOf = o'.map revocationOf) : o.map (·.status) = o'.map (·.status) := by
  have := congrArg (Option.map Prod.fst) h
  simpa [Option.map_map, Function.comp_def, revocationOf] using this

/-- No step makes a revoked row good again. -/
theorem revoked_step (u : OCSPUpdater) (s : State) (a : Request) {x : String}
    (h : (s.tables.statusOf x).map (·.status) = some .revoked) :
    ((step u s a).1.tables.statusOf x).map (·.status) = some .revoked := by
  cases a with
  | markCertificateRevoked serial reasonCode now =>
    simp only [step]
    split
    · rename_i t ht
      rw [status_markCertificateRevoked ht]
      obtain ⟨cs, hcs, hrev⟩ := Option.map_eq_some_iff.mp h
      rw [hcs]
      simp only [Option.map_some, Option.some.injEq]
      split
      · rfl
      · exact hrev
    · exact h
  | newCertificateTick batchSize => exact h
  | oldOCSPResponsesTick tickStart batchSize =>
    rw [← h]
    exact status_eq_of_revocationOf (revocationOf_markExpiredPast _ _ _ _)
  | revokedCertificatesTick batchSize => exact h
  | work job now =>
    by_cases hjob : job ∈ s.jobs
    · cases hgen : generate s.tables job now with
      | error e =>
        simp only [step, hjob, hgen, ↓reduceIte]
        exact h
      | ok status =>
        simp only [step, hjob, hgen, ↓reduceIte]
        rw [← h]
        exact status_eq_of_revocationOf (revocationOf_storeResponse _ _ _)
    · simp only [step, hjob, ↓reduceIte]
      exact h

/-- Once a row is revoked in a reachable state, every response any later run stores in it was
signed as revoked. -/
theorem revoked_row_stores_revoked (u : OCSPUpdater) (init : CertTables) :
    ∀ (as : List Request) {s : State}, Reachable (step u) ⟨init, []⟩ s → ∀ {x : String},
      (s.tables.statusOf x).map (·.status) = some .revoked →
      ∀ {resp : OCSPSigningRequest}, some (x, resp) ∈ replies (step u) s as →
        resp.status = .revoked := by
  intro as
  induction as with
  | nil =>
    intro s _ x _ resp hmem
    cases hmem
  | cons a as ih =>
    intro s hs x hrev resp hmem
    rcases List.mem_cons.mp hmem with hnow | hlater
    · obtain ⟨cs, hcs, -, hst⟩ := stored_response_status u init hs a hnow.symm
      have hstill := revoked_step u s a hrev
      rw [hcs] at hstill
      simp only [Option.map_some, Option.some.injEq] at hstill
      rw [← hst, hstill]
    · exact ih (hs.next a) (revoked_step u s a hrev) hlater

/-! ## A revoked certificate re-signed by `oldOCSPResponsesTick` -/

/-- When `oldOCSPResponsesTick` selects a revoked row and its job is worked, the row, still
revoked for its own reason, ends up holding a response signed with reason 0: the reason column
is not among those `findStaleOCSPResponses` selects. -/
theorem oldOCSPResponsesTick_drops_reason (u : OCSPUpdater) (s : State) (tickStart now : Time)
    (batchSize : ℕ) (cs : CertificateStatus) (hrow : s.tables.statusOf cs.serial = some cs)
    (hrev : cs.status = .revoked) (hcert : cs.serial ∈ s.tables.certificates)
    (hsel : staleColumns cs ∈
      u.findStaleOCSPResponses s.tables tickStart (tickStart - u.ocspMinTimeToExpiry) batchSize) :
    let s₁ := (step u s (.oldOCSPResponsesTick tickStart batchSize)).1
    let r := step u s₁ (.work ⟨.generate, staleColumns cs⟩ now)
    r.2 = some (cs.serial, ⟨cs.serial, .revoked, 0, cs.revokedDate⟩) ∧
    ∃ cs', r.1.tables.statusOf cs.serial = some cs' ∧ cs'.status = .revoked ∧
      cs'.revokedReason = cs.revokedReason ∧ cs'.revokedDate = cs.revokedDate ∧
      cs'.ocspResponse = some ⟨cs.serial, .revoked, 0, cs.revokedDate⟩ := by
  intro s₁ r
  have hjob : (⟨.generate, staleColumns cs⟩ : Job) ∈ s₁.jobs :=
    List.mem_append_right _ (mem_queue.mpr ⟨rfl, hsel⟩)
  have hcert₁ : cs.serial ∈ s₁.tables.certificates := by
    rw [show s₁.tables.certificates = s.tables.certificates from
      certificates_markExpiredPast _ _ _]
    exact hcert
  obtain ⟨cs₁, hrow₁, hrev₁⟩ : ∃ cs₁, s₁.tables.statusOf cs.serial = some cs₁ ∧
      revocationOf cs₁ = revocationOf cs := by
    have hkept := revocationOf_markExpiredPast tickStart cs.serial
      (u.findStaleOCSPResponses s.tables tickStart (tickStart - u.ocspMinTimeToExpiry) batchSize)
      s.tables
    rw [hrow, Option.map_some] at hkept
    exact Option.map_eq_some_iff.mp hkept
  simp only [revocationOf, Prod.mk.injEq] at hrev₁
  obtain ⟨hst₁, hreason₁, hdate₁⟩ := hrev₁
  let req : OCSPSigningRequest := ⟨cs.serial, .revoked, 0, cs.revokedDate⟩
  let signed : CertificateStatus :=
    { staleColumns cs with ocspLastUpdated := now, ocspResponse := some req }
  have hgen : generate s₁.tables ⟨.generate, staleColumns cs⟩ now = .ok signed := by
    simp [generate, generateResponse, staleColumns, hcert₁, signed, req, hrev]
  have hmatch : cs₁.status = signed.status := by
    simp [signed, staleColumns, hst₁]
  have hr : r = (⟨storeResponse s₁.tables signed, s₁.jobs.erase ⟨.generate, staleColumns cs⟩⟩,
      stored s₁.tables signed) := by
    simp only [r, step, hjob, hgen, ↓reduceIte]
  refine ⟨?_, ?_⟩
  · rw [hr]
    simp [stored, signed, staleColumns, hrow₁, hst₁, req]
  · refine ⟨{ cs₁ with ocspResponse := some req, ocspLastUpdated := now }, ?_, ?_, ?_, ?_, rfl⟩
    · rw [hr]
      exact statusOf_storeResponse_of_match hrow₁ hmatch
    · exact hst₁.trans hrev
    · exact hreason₁
    · exact hdate₁

/-- A certificate revoked for key compromise (reason 1) whose response is due for renewal. -/
def keyCompromised : CertificateStatus :=
  { serial := "00ff", status := .revoked, ocspLastUpdated := 10, revokedDate := 5
    revokedReason := 1, ocspResponse := some ⟨"00ff", .revoked, 1, 5⟩, notAfter := 1000
    isExpired := false }

/-- The updater's windows: responses older than 50 before the tick are stale, and those older
than 95 are left alone. -/
def exampleUpdater : OCSPUpdater := ⟨50, 95⟩

/-- At tick 100, the row of `keyCompromised` is selected, and after its job the row, revoked
for reason 1, holds a response signed for reason 0. -/
theorem keyCompromised_resigned_unspecified :
    let s : State := ⟨⟨["00ff"], [keyCompromised]⟩, []⟩
    s.tables.statusOf keyCompromised.serial = some keyCompromised ∧
    keyCompromised.status = .revoked ∧ keyCompromised.serial ∈ s.tables.certificates ∧
    staleColumns keyCompromised ∈ exampleUpdater.findStaleOCSPResponses s.tables 100
      (100 - exampleUpdater.ocspMinTimeToExpiry) 10 ∧
    let s₁ := (step exampleUpdater s (.oldOCSPResponsesTick 100 10)).1
    let r := step exampleUpdater s₁ (.work ⟨.generate, staleColumns keyCompromised⟩ 100)
    (r.2 = some (keyCompromised.serial, ⟨keyCompromised.serial, .revoked, 0, keyCompromised.revokedDate⟩) ∧
    ∃ cs', r.1.tables.statusOf keyCompromised.serial = some cs' ∧ cs'.status = .revoked ∧
      cs'.revokedReason = keyCompromised.revokedReason ∧ cs'.revokedDate = keyCompromised.revokedDate ∧
      cs'.ocspResponse = some ⟨keyCompromised.serial, .revoked, 0, keyCompromised.revokedDate⟩) :=
  ⟨by decide, rfl, by decide, by decide,
    oldOCSPResponsesTick_drops_reason exampleUpdater _ 100 100 10 keyCompromised (by decide) rfl
      (by decide) (by decide)⟩


/-- Starting from the table of `keyCompromised`, the tick and the job reply with a response for
its serial, and every such response was signed as revoked. -/
theorem keyCompromised_replies_revoked :
    let s : State := ⟨⟨["00ff"], [keyCompromised]⟩, []⟩
    let as := [Request.oldOCSPResponsesTick 100 10, .work ⟨.generate, staleColumns keyCompromised⟩ 100]
    (s.tables.statusOf keyCompromised.serial).map (·.status) = some .revoked ∧
      some (keyCompromised.serial, ⟨keyCompromised.serial, .revoked, 0, keyCompromised.revokedDate⟩) ∈
        replies (step exampleUpdater) s as ∧
      ∀ resp, some (keyCompromised.serial, resp) ∈ replies (step exampleUpdater) s as →
        resp.status = .revoked :=
  ⟨by decide, by decide, fun _ h =>
    revoked_row_stores_revoked exampleUpdater _ _ (Reachable.init _ _) (by decide) h⟩

end Boulder.OCSP
