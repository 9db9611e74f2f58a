/-
# Boulder.Cmd.BatchReads -- the batched reads of three command-line tools

`ocsp-updater`'s `getSerialsIssuedSince`, the ID collection of `expired-authz-purger`'s `purge`
and `cert-checker`'s `getCerts` each read a table a page at a time by running one query again
and again, while the table does not change. The order in which each execution returns its rows
is a `QueryOrder`: `ORDER BY issued` for the first, no order for the other two. Errors of the
database are not modelled: every query succeeds.

All three stop by their own tests: their fuel is never used up (`getSerialsIssuedSince_fuel`,
`purgeIDs_fuel`, `getCerts_fuel`), so what they read is the same with any more. None of them
reads each matching
row exactly once. `getSerialsIssuedSince` and `purge` page by `OFFSET`, so two rows whose order
the database may swap between two executions can be read twice and not at all; `getCerts` pages
by serial without sorting by it, so the rows whose serial is below the last one of its first
page can be skipped (`batchedReads_lose_rows`). The row `purge` skips stays in its table.
-/
import Boulder.Lib.Paging
import Boulder.SA.Authz
import Mathlib.Data.String.Basic

namespace Boulder.Cmd

open Boulder.Core Boulder.SA Boulder.Lib.Paging

/-- The columns of a `certificates` row that the batched reads select on. -/
structure CertificateRow where
  serial : String
  issued : Time
  expires : Time
  deriving DecidableEq, Repr

/-! ## `ocsp-updater` -/

/-- `OCSPUpdater.getSerialsIssuedSince`: the serials of the certificates issued after `since`,
`ORDER BY issued ASC`, `batchSize` at a time by `OFFSET`, stopping after a short page. -/
def getSerialsIssuedSince (ord : QueryOrder CertificateRow) (certificates : List CertificateRow)
    (since : Time) (batchSize : ℕ) : List String :=
  let rows := certificates.filter fun c => since < c.issued
  (offsetPages ord rows batchSize true (rows.length + 1) 0 []).map (·.serial)

/-! ## `expired-authz-purger` -/

/-- The two tables `purge` runs on. -/
inductive PurgeTable where
  | pendingAuthorizations
  | authz
  deriving DecidableEq, Repr

/-- The rows of one of the two tables. -/
def PurgeTable.rows (t : AuthzTables) : PurgeTable → List Authorization
  | .pendingAuthorizations => t.pendingAuthorizations
  | .authz => t.authz

/-- `expires <= ?`: a `NULL` expiry is not selected. -/
def expiresBy (purgeBefore : Time) (a : Authorization) : Bool :=
  match a.expires with
  | some e => decide (e ≤ purgeBefore)
  | none => false

/-- The first loop of `expiredAuthzPurger.purge`: the IDs of the expired rows, `batchSize` at a
time by `OFFSET`, with no `ORDER BY`, until a page is empty. -/
def purgeIDs (ord : QueryOrder Authorization) (t : AuthzTables) (table : PurgeTable)
    (purgeBefore : Time) (batchSize : ℕ) : List String :=
  let rows := (table.rows t).filter (expiresBy purgeBefore)
  (offsetPages ord rows batchSize false (rows.length + 1) 0 []).map (·.id)

/-- One deletion of `purge`: the authorization's challenges, then the authorization. -/
def deleteAuthz (table : PurgeTable) (t : AuthzTables) (id : String) : AuthzTables :=
  let t := { t with challenges := t.challenges.filter (·.authorizationID ≠ id) }
  match table with
  | .pendingAuthorizations =>
    { t with pendingAuthorizations := t.pendingAuthorizations.filter (·.id ≠ id) }
  | .authz => { t with authz := t.authz.filter (·.id ≠ id) }

/-- `expiredAuthzPurger.purge` with `yes` set (the prompt on standard input is not modelled):
collect the IDs, delete each, and log their number as the number deleted. -/
def purge (ord : QueryOrder Authorization) (t : AuthzTables) (table : PurgeTable)
    (purgeBefore : Time) (batchSize : ℕ) : ℕ × AuthzTables :=
  let ids := purgeIDs ord t table purgeBefore batchSize
  (ids.length, ids.foldl (deleteAuthz table) t)

/-! ## `cert-checker` -/

/-- `cert-checker`'s `batchSize`, a package variable. -/
def batchSize : ℕ := 1000

/-- The `WHERE` clause of the count and of the pages of `getCerts`, before the serial:
`issued >= :issued AND expires >= :now`. Without `unexpiredOnly`, `:now` is the integer 0,
below every date. -/
def getCertsWhere (issuedBegin now : Time) (unexpiredOnly : Bool) (c : CertificateRow) : Bool :=
  decide (issuedBegin ≤ c.issued) && (!unexpiredOnly || decide (now ≤ c.expires))

/-- `certChecker.getCerts`: count the certificates issued in the last `checkPeriod` (and, with
`unexpiredOnly`, not yet expired), then send them on `limit` at a time, each page asking for the
serials beyond the last one sent, with no `ORDER BY`. `issuedEnd` and `now` are the two readings
of the clock; the source passes `batchSize` as `limit`. -/
def getCerts (ord : QueryOrder CertificateRow) (certificates : List CertificateRow)
    (issuedEnd now checkPeriod : Time) (unexpiredOnly : Bool) (limit : ℕ) : List CertificateRow :=
  let rows := certificates.filter (getCertsWhere (issuedEnd - checkPeriod) now unexpiredOnly)
  keysetPages ord rows (·.serial) limit rows.length (rows.length + 1) 0 0 "" []

/-! ## Termination -/

/-- `getSerialsIssuedSince` stops by its own test: any fuel beyond the number of rows gives the
same serials. -/
theorem getSerialsIssuedSince_fuel {ord : QueryOrder CertificateRow} (hord : Unordered ord)
    (certificates : List CertificateRow) (since : Time) (batchSize : ℕ) {fuel : ℕ}
    (hfuel : (certificates.filter fun c => since < c.issued).length < fuel) :
    getSerialsIssuedSince ord certificates since batchSize =
      (offsetPages ord (certificates.filter fun c => since < c.issued) batchSize true fuel 0
        []).map (·.serial) := by
  rw [getSerialsIssuedSince, offsetPages_stable hord _ _ _ 0 [] (by simp) (Nat.succ_le_of_lt hfuel)]

/-- `purge` collects its IDs by its own test: any fuel beyond the number of rows gives the same
IDs. -/
theorem purgeIDs_fuel {ord : QueryOrder Authorization} (hord : Unordered ord) (t : AuthzTables)
    (table : PurgeTable) (purgeBefore : Time) (batchSize : ℕ) {fuel : ℕ}
    (hfuel : ((table.rows t).filter (expiresBy purgeBefore)).length < fuel) :
    purgeIDs ord t table purgeBefore batchSize =
      (offsetPages ord ((table.rows t).filter (expiresBy purgeBefore)) batchSize false fuel 0
        []).map (·.id) := by
  rw [purgeIDs, offsetPages_stable hord _ _ _ 0 [] (by simp) (Nat.succ_le_of_lt hfuel)]

/-- `getCerts` stops by its own test, whatever the order: any fuel beyond the count gives the
same certificates. -/
theorem getCerts_fuel (ord : QueryOrder CertificateRow) (certificates : List CertificateRow)
    (issuedEnd now checkPeriod : Time) (unexpiredOnly : Bool) (limit : ℕ) {fuel : ℕ}
    (hfuel : (certificates.filter
      (getCertsWhere (issuedEnd - checkPeriod) now unexpiredOnly)).length < fuel) :
    getCerts ord certificates issuedEnd now checkPeriod unexpiredOnly limit =
      keysetPages ord (certificates.filter
        (getCertsWhere (issuedEnd - checkPeriod) now unexpiredOnly)) (·.serial) limit
        (certificates.filter (getCertsWhere (issuedEnd - checkPeriod) now unexpiredOnly)).length
        fuel 0 0 "" [] := by
  rw [getCerts, keysetPages_stable _ _ _ _ _ 0 0 "" [] (by simp) (Nat.succ_le_of_lt hfuel)]

/-! ## Rows read twice or not at all -/

/-- Every serial is beyond the empty string. -/
theorem empty_lt_of_ne {s : String} (h : s ≠ "") : "" < s := by
  rw [String.lt_iff]
  cases hs : s.toList with
  | nil => exact absurd (String.toList_eq_nil_iff.mp hs) h
  | cons c cs => exact List.nil_lt_cons c cs

/-- **The batched reads can read a row twice and another not at all.** Two certificates issued
at the same time, one per page: `ORDER BY issued` lets the second execution put them the other
way round, and `getSerialsIssuedSince` returns the first serial twice. Two expired
authorizations, one per page, with no `ORDER BY`: `purge` collects the first ID twice, logs two
deletions and leaves the second row in the table. And whatever the page size, once more
certificates match than one page holds, an order exists in which `getCerts` never sends one of
them, even with distinct serials. Each loop gives the same with any fuel beyond its rows: it has
stopped by its own test, and the rows are lost by that. -/
theorem batchedReads_lose_rows :
    (∃ ord, OrderedBy (·.issued) ord ∧
      getSerialsIssuedSince ord [⟨"01", 5, 10⟩, ⟨"02", 5, 10⟩] 0 1 = ["01", "01"] ∧
      ∀ fuel, ([(⟨"01", 5, 10⟩ : CertificateRow), ⟨"02", 5, 10⟩].filter
          fun c => 0 < c.issued).length < fuel →
        (offsetPages ord ([(⟨"01", 5, 10⟩ : CertificateRow), ⟨"02", 5, 10⟩].filter
          fun c => 0 < c.issued) 1 true fuel 0 []).map (·.serial) = ["01", "01"]) ∧
    (∃ ord, Unordered ord ∧
      purge ord ⟨[], [⟨"a", ⟨.dns, "example.com"⟩, 1, .valid, some 1, [], []⟩,
          ⟨"b", ⟨.dns, "example.com"⟩, 1, .valid, some 2, [], []⟩], []⟩ .authz 5 1 =
        (2, ⟨[], [⟨"b", ⟨.dns, "example.com"⟩, 1, .valid, some 2, [], []⟩], []⟩) ∧
      ∀ fuel, ([(⟨"a", ⟨.dns, "example.com"⟩, 1, .valid, some 1, [], []⟩ : Authorization),
          ⟨"b", ⟨.dns, "example.com"⟩, 1, .valid, some 2, [], []⟩].filter (expiresBy 5)).length <
          fuel →
        (offsetPages ord ([(⟨"a", ⟨.dns, "example.com"⟩, 1, .valid, some 1, [], []⟩ : Authorization),
          ⟨"b", ⟨.dns, "example.com"⟩, 1, .valid, some 2, [], []⟩].filter (expiresBy 5)) 1 false
          fuel 0 []).map (·.id) = ["a", "a"]) ∧
    ∀ (certificates : List CertificateRow) (issuedEnd now checkPeriod : Time)
      (unexpiredOnly : Bool) (limit : ℕ), (certificates.map (·.serial)).Nodup →
      (∀ c ∈ certificates, c.serial ≠ "") →
      limit < (certificates.filter
        (getCertsWhere (issuedEnd - checkPeriod) now unexpiredOnly)).length →
      ∃ ord, Unordered ord ∧ ∃ c ∈ certificates,
        getCertsWhere (issuedEnd - checkPeriod) now unexpiredOnly c = true ∧
        c ∉ getCerts ord certificates issuedEnd now checkPeriod unexpiredOnly limit ∧
        ∀ fuel, (certificates.filter
            (getCertsWhere (issuedEnd - checkPeriod) now unexpiredOnly)).length < fuel →
          c ∉ keysetPages ord (certificates.filter
            (getCertsWhere (issuedEnd - checkPeriod) now unexpiredOnly)) (·.serial) limit
            (certificates.filter (getCertsWhere (issuedEnd - checkPeriod) now unexpiredOnly)).length
            fuel 0 0 "" [] := by
  refine ⟨?_, ?_, ?_⟩
  · -- the tie at `issued = 5` comes back swapped on the second page
    have hord := orderedBy_reorderedOnce (fun c : CertificateRow => c.issued) 1
    have hrun : getSerialsIssuedSince (reorderedOnce (·.issued) 1)
        [⟨"01", 5, 10⟩, ⟨"02", 5, 10⟩] 0 1 = ["01", "01"] := by decide
    refine ⟨_, hord, hrun, fun fuel hfuel => ?_⟩
    rw [← getSerialsIssuedSince_fuel hord.unordered _ _ _ hfuel]
    exact hrun
  · -- with no order at all, the second execution returns `b` before `a`
    have hord := (orderedBy_reorderedOnce (fun _ : Authorization => (0 : ℕ)) 1).unordered
    have hrun : purge (reorderedOnce (fun _ => (0 : ℕ)) 1)
        ⟨[], [⟨"a", ⟨.dns, "example.com"⟩, 1, .valid, some 1, [], []⟩,
          ⟨"b", ⟨.dns, "example.com"⟩, 1, .valid, some 2, [], []⟩], []⟩ .authz 5 1 =
        (2, ⟨[], [⟨"b", ⟨.dns, "example.com"⟩, 1, .valid, some 2, [], []⟩], []⟩) := by decide
    have hids : purgeIDs (reorderedOnce (fun _ => (0 : ℕ)) 1)
        ⟨[], [⟨"a", ⟨.dns, "example.com"⟩, 1, .valid, some 1, [], []⟩,
          ⟨"b", ⟨.dns, "example.com"⟩, 1, .valid, some 2, [], []⟩], []⟩ .authz 5 1 =
        ["a", "a"] := by decide
    refine ⟨_, hord, hrun, fun fuel hfuel => ?_⟩
    rw [← hids]
    exact (purgeIDs_fuel hord ⟨[], _, []⟩ .authz 5 1 hfuel).symm
  intro certificates issuedEnd now checkPeriod unexpiredOnly limit hkeys hne hlimit
  have hsub : (certificates.filter
      (getCertsWhere (issuedEnd - checkPeriod) now unexpiredOnly)).Sublist certificates :=
    List.filter_sublist
  have hkeys' := (hsub.map (·.serial)).nodup hkeys
  have hk₀ : ∀ r ∈ certificates.filter
      (getCertsWhere (issuedEnd - checkPeriod) now unexpiredOnly), "" < r.serial :=
    fun r hr => empty_lt_of_ne (hne r (hsub.subset hr))
  obtain ⟨c, hc, hmiss⟩ := keysetPages_descending_misses hkeys' hk₀ hlimit _ _
  obtain ⟨hcmem, hcwhere⟩ := List.mem_filter.mp hc
  refine ⟨descending (·.serial), unordered_descending _, c, hcmem, hcwhere, hmiss,
    fun fuel hfuel => ?_⟩
  rw [← getCerts_fuel _ _ _ _ _ _ _ hfuel]
  exact hmiss

/-- Two certificates with distinct serials, one per page: some order of the rows makes
`getCerts` skip one. -/
theorem getCerts_skips_one_of_two :
    ∃ ord, Unordered ord ∧ ∃ c ∈ [(⟨"01", 5, 10⟩ : CertificateRow), ⟨"02", 5, 10⟩],
      getCertsWhere (5 - 0) 0 false c = true ∧
      c ∉ getCerts ord [⟨"01", 5, 10⟩, ⟨"02", 5, 10⟩] 5 0 0 false 1 := by
  obtain ⟨ord, hord, c, hc, hwhere, hmiss, -⟩ :=
    batchedReads_lose_rows.2.2 [⟨"01", 5, 10⟩, ⟨"02", 5, 10⟩] 5 0 0 false 1 (by decide) (by decide)
      (by decide)
  exact ⟨ord, hord, c, hc, hwhere, hmiss⟩

end Boulder.Cmd
