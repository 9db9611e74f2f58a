/-
# Boulder.CDR.Resolver -- the distributed CAA lookup and its quorum

`CAADistributedResolver.LookupCAA` asks the same CAA question through every proxy at once and
reads the answers off a channel in the order they arrive. The collection loop is modelled pass
for pass on that arrival order (`collect`, `lookupCAA`), generic in the record type. A query that
fails reaches the loop with nil records, as `queryCAA` returns them.

`marshalCanonicalCAASet` sorts the slice it is given in place, by `caaSet.Less`, which compares
record values only, and packs the sorted records one after another with their TTLs zeroed. The
sort is the standard library's `sort.Sort`, of which the model assumes only its contract: a
permutation ordered by value (`ValueSort`); packing one record is the vendored DNS library's
`PackRR`, a parameter (`pack`). The first answer's slice is `CAAs` itself, so the set `LookupCAA`
returns is the first answer as the sort left it.

What the loop guarantees is that a set it returns is the first answer, sorted, and that every
successful proxy gave a set of the same length and canonical bytes, with at most `maxFailures`
failures (`lookupCAA_sound`); without failures it accepts exactly the agreeing answer lists,
whatever their order, and the sets it returns pack to the same bytes
(`lookupCAA_perm_of_no_errors`). A failure that arrives after the first success, though, is
compared with that success as if it were an empty answer, so the outcome depends on the arrival
order (`lookupCAA_depends_on_arrival_order`).
-/
import Mathlib.Data.List.Sort
import Mathlib.Data.String.Basic
import Boulder.Lib.Loop

namespace Boulder.CDR

open Boulder.Lib.Loop

/-- `sort.Sort` on a `caaSet`, whose `Less` compares values only: some permutation of the
records, ordered by value. The standard library's sort is not stable, so records of equal value
may come out in any order. -/
structure ValueSort (α : Type) (value : α → String) where
  sort : List α → List α
  perm : ∀ set, (sort set).Perm set
  sorted : ∀ set, (sort set).Pairwise fun a b => value a ≤ value b

/-- `queryResult`: the records one proxy returned, or its error. -/
abbrev QueryResult (α : Type) := Except String (List α)

/-- The variables of `LookupCAA`'s collection loop; `none` is Go's nil. -/
structure Collected (α : Type) where
  failed : ℕ
  caas : Option (List α)
  canonicalSet : Option (List UInt8)
  deriving DecidableEq, Repr

section Lookup

variable {α : Type} {value : α → String} (srt : ValueSort α value)
  (pack : α → Except String (List UInt8)) (maxFailures : ℕ)

/-- The records packed one after another, in the order given. -/
def packSet (set : List α) : Except String (List UInt8) :=
  (set.mapM pack).map List.flatten

/-- `marshalCanonicalCAASet`: the slice as the in-place sort leaves it, and the bytes of the
sorted records, each packed with its TTL zeroed (`pack`). -/
def marshalCanonicalCAASet (set : List α) : List α × Except String (List UInt8) :=
  let sortedSet := srt.sort set
  (sortedSet, packSet pack sortedSet)

/-- The second half of a pass: the first answer, or a failure's nil records before any answer,
seeds the reference set; every later one must have the same length and encoding. -/
def collectRecords (st : Collected α) (failed : ℕ) (records : Option (List α)) :
    Except String (Collected α) :=
  let marshalled := marshalCanonicalCAASet srt pack (records.getD [])
  match st.caas, marshalled.2 with
  | _, .error err => .error err
  -- `CAAs = r.records` is the slice the marshalling sorts; a nil slice stays nil
  | none, .ok canonicalSet => .ok ⟨failed, records.map fun _ => marshalled.1, some canonicalSet⟩
  | some caas, .ok thisSet =>
    if (records.getD []).length ≠ caas.length ∨ some thisSet ≠ st.canonicalSet then
      .error "mismatching CAA record sets were returned"
    else .ok { st with failed }

/-- One pass of the collection loop over the next result to arrive: a failure is counted, and
ends the lookup once more than `maxFailures` have failed; its records are nil. -/
def collect (st : Collected α) : QueryResult α → Except String (Collected α)
  | .error e =>
    if st.failed + 1 > maxFailures then .error e
    else collectRecords srt pack st (st.failed + 1) none
  | .ok records => collectRecords srt pack st st.failed (some records)

/-- `LookupCAA`, from the results in the order they arrive on the channel. -/
def lookupCAA (results : List (QueryResult α)) : Except String (List α) := do
  let st ← results.foldlM (collect srt pack maxFailures) ⟨0, none, none⟩
  pure (st.caas.getD [])

end Lookup

/-! ## What the loop compares -/

section Spec

variable {α : Type} {value : α → String} (srt : ValueSort α value)
  (pack : α → Except String (List UInt8))

/-- The number of proxies whose query failed. -/
def errors (results : List (QueryResult α)) : ℕ :=
  results.countP fun r => !r.isOk

/-- The first successful answer, the one that seeds the loop's reference set. -/
def firstOk (results : List (QueryResult α)) : Option (List α) :=
  results.findSome? Except.toOption

/-- Two answers the loop takes for the same set: both encode, to the same bytes, and they have
the same length. -/
def SameSet (a b : List α) : Prop :=
  ∃ c, (marshalCanonicalCAASet srt pack a).2 = .ok c ∧ (marshalCanonicalCAASet srt pack b).2 = .ok c ∧
    a.length = b.length

variable {srt pack}

theorem SameSet.symm {a b : List α} (h : SameSet srt pack a b) : SameSet srt pack b a := by
  obtain ⟨c, ha, hb, hlen⟩ := h
  exact ⟨c, hb, ha, hlen.symm⟩

theorem SameSet.trans {a b d : List α} (hab : SameSet srt pack a b)
    (hbd : SameSet srt pack b d) : SameSet srt pack a d := by
  obtain ⟨c, ha, hb, hlen⟩ := hab
  obtain ⟨c', hb', hd, hlen'⟩ := hbd
  have hc : c = c' := Except.ok.inj (hb.symm.trans hb')
  subst hc
  exact ⟨c, ha, hd, hlen.trans hlen'⟩

@[simp] theorem ValueSort.length_sort (set : List α) : (srt.sort set).length = set.length :=
  (srt.perm set).length_eq

@[simp] theorem ValueSort.sort_nil : srt.sort [] = [] :=
  (srt.perm []).eq_nil

@[simp] theorem ValueSort.sort_singleton (r : α) : srt.sort [r] = [r] :=
  List.perm_singleton.mp (srt.perm [r])

theorem marshalCanonicalCAASet_fst (set : List α) :
    (marshalCanonicalCAASet srt pack set).1 = srt.sort set := rfl

theorem marshalCanonicalCAASet_snd (set : List α) :
    (marshalCanonicalCAASet srt pack set).2 = packSet pack (srt.sort set) := rfl

@[simp] theorem packSet_nil : packSet pack [] = .ok [] := rfl

theorem packSet_singleton {r : α} {bs : List UInt8} (h : pack r = .ok bs) :
    packSet pack [r] = .ok bs := by
  simp [packSet, h, Except.map]

@[simp] theorem errors_nil : errors ([] : List (QueryResult α)) = 0 := rfl

@[simp] theorem errors_ok (rs : List α) (results : List (QueryResult α)) :
    errors (.ok rs :: results) = errors results := by
  simp [errors]

@[simp] theorem errors_error (e : String) (results : List (QueryResult α)) :
    errors (.error e :: results) = errors results + 1 := by
  simp [errors]

@[simp] theorem firstOk_ok (rs : List α) (results : List (QueryResult α)) :
    firstOk (.ok rs :: results) = some rs := rfl

@[simp] theorem firstOk_error (e : String) (results : List (QueryResult α)) :
    firstOk (.error e :: results) = firstOk results := rfl

end Spec

/-! ## One pass -/

section Pass

variable {α : Type} {value : α → String} {srt : ValueSort α value}
  {pack : α → Except String (List UInt8)} {maxFailures : ℕ}

/-- Before the first answer, a pass seeds the loop with what it got, sorted. -/
theorem collectRecords_unseeded_eq_ok {k failed : ℕ} {cs : Option (List UInt8)}
    {records : Option (List α)} {st : Collected α} :
    collectRecords srt pack ⟨k, none, cs⟩ failed records = .ok st ↔
      ∃ c, (marshalCanonicalCAASet srt pack (records.getD [])).2 = .ok c ∧
        st = ⟨failed, records.map fun _ => srt.sort (records.getD []), some c⟩ := by
  cases hm : (marshalCanonicalCAASet srt pack (records.getD [])).2 with
  | error err => simp [collectRecords, hm]
  | ok c => simp [collectRecords, hm, eq_comm, marshalCanonicalCAASet_fst]

/-- Once seeded, a pass goes on exactly for records that are the same set as the seed, and then
only the failure count moves. -/
theorem collectRecords_seeded_eq_ok {k failed : ℕ} {S : List α} {c : List UInt8}
    {records : Option (List α)} {st : Collected α} :
    collectRecords srt pack ⟨k, some S, some c⟩ failed records = .ok st ↔
      (marshalCanonicalCAASet srt pack (records.getD [])).2 = .ok c ∧
        (records.getD []).length = S.length ∧ st = ⟨failed, some S, some c⟩ := by
  cases hm : (marshalCanonicalCAASet srt pack (records.getD [])).2 with
  | error err => simp [collectRecords, hm]
  | ok d =>
    by_cases hlen : (records.getD []).length = S.length
    · by_cases hd : d = c
      · subst hd
        simp [collectRecords, hm, hlen, eq_comm]
      · simp [collectRecords, hm, hd]
    · simp [collectRecords, hm, hlen]

@[simp] theorem collect_ok (st : Collected α) (records : List α) :
    collect srt pack maxFailures st (.ok records) =
      collectRecords srt pack st st.failed (some records) := rfl

/-- A failure past the budget ends the lookup with that failure's error. -/
theorem collect_error_over {st : Collected α} {e : String} (h : maxFailures < st.failed + 1) :
    collect srt pack maxFailures st (.error e) = .error e := by
  simp [collect, h]

/-- A failure within the budget is counted and handled as nil records. -/
theorem collect_error_within {st : Collected α} {e : String} (h : st.failed + 1 ≤ maxFailures) :
    collect srt pack maxFailures st (.error e) = collectRecords srt pack st (st.failed + 1) none := by
  have h' : ¬ maxFailures < st.failed + 1 := by omega
  simp [collect, h']

/-- A failure the loop goes on after was within the budget. -/
theorem collect_error_eq_ok {st st' : Collected α} {e : String}
    (h : collect srt pack maxFailures st (.error e) = .ok st') :
    st.failed + 1 ≤ maxFailures ∧ collectRecords srt pack st (st.failed + 1) none = .ok st' := by
  by_cases hk : maxFailures < st.failed + 1
  · rw [collect_error_over hk] at h
    cases h
  · have hk' : st.failed + 1 ≤ maxFailures := by omega
    exact ⟨hk', by rwa [collect_error_within hk'] at h⟩

end Pass

/-! ## Whole lookups -/

section Runs

variable {α : Type} {value : α → String} {srt : ValueSort α value}
  {pack : α → Except String (List UInt8)} {maxFailures : ℕ}

/-- Once seeded, the loop runs to its end only if every later result, a failure counting as an
empty answer, is the same set as the seed; the seed stays, and the failures are counted. -/
theorem foldlM_collect_seeded {S : List α} {c : List UInt8} :
    ∀ (xs : List (QueryResult α)) {k : ℕ} {st : Collected α}, k ≤ maxFailures →
      xs.foldlM (collect srt pack maxFailures) ⟨k, some S, some c⟩ = .ok st →
      st = ⟨k + errors xs, some S, some c⟩ ∧ k + errors xs ≤ maxFailures ∧
        ∀ r ∈ xs, (marshalCanonicalCAASet srt pack (r.toOption.getD [])).2 = .ok c ∧
          (r.toOption.getD []).length = S.length := by
  intro xs
  induction xs with
  | nil =>
    intro k st hk h
    cases h
    simpa using hk
  | cons r xs ih =>
    intro k st hk h
    obtain ⟨s', hs', hrest⟩ := foldlM_cons_eq_ok.mp h
    cases r with
    | error e =>
      obtain ⟨hbudget, hrec⟩ := collect_error_eq_ok hs'
      obtain ⟨hm, hlen, rfl⟩ := collectRecords_seeded_eq_ok.mp hrec
      obtain ⟨rfl, hmax, hall⟩ := ih hbudget hrest
      dsimp only at hmax
      refine ⟨by simp [Nat.add_assoc, Nat.add_comm 1], by simp; omega, ?_⟩
      exact List.forall_mem_cons.mpr ⟨⟨hm, hlen⟩, hall⟩
    | ok rs =>
      obtain ⟨hm, hlen, rfl⟩ := collectRecords_seeded_eq_ok.mp hs'
      obtain ⟨rfl, hmax, hall⟩ := ih hk hrest
      refine ⟨by simp, by simpa using hmax, ?_⟩
      exact List.forall_mem_cons.mpr ⟨⟨hm, hlen⟩, hall⟩

/-- Before the first answer, the loop counts the failures; the first answer seeds it, sorted, and
every answer after it is the same set as the first. -/
theorem foldlM_collect_unseeded :
    ∀ (xs : List (QueryResult α)) {k : ℕ} {cs : Option (List UInt8)} {st : Collected α},
      k ≤ maxFailures → xs.foldlM (collect srt pack maxFailures) ⟨k, none, cs⟩ = .ok st →
      st.failed = k + errors xs ∧ st.failed ≤ maxFailures ∧ st.caas = (firstOk xs).map srt.sort ∧
        ∀ F, firstOk xs = some F → ∀ rs, .ok rs ∈ xs → SameSet srt pack rs F := by
  intro xs
  induction xs with
  | nil =>
    intro k cs st hk h
    cases h
    exact ⟨rfl, hk, rfl, by simp [firstOk]⟩
  | cons r xs ih =>
    intro k cs st hk h
    obtain ⟨s', hs', hrest⟩ := foldlM_cons_eq_ok.mp h
    cases r with
    | error e =>
      obtain ⟨hbudget, hrec⟩ := collect_error_eq_ok hs'
      obtain ⟨c, -, rfl⟩ := collectRecords_unseeded_eq_ok.mp hrec
      obtain ⟨hfailed, hmax, hcaas, hall⟩ := ih hbudget hrest
      refine ⟨by simp [hfailed]; omega, hmax, by simpa using hcaas, ?_⟩
      intro F hF rs hrs
      simp only [List.mem_cons, reduceCtorEq, false_or] at hrs
      exact hall F (by simpa using hF) rs hrs
    | ok rs =>
      obtain ⟨c, hm, rfl⟩ := collectRecords_unseeded_eq_ok.mp hs'
      obtain ⟨rfl, hmax, hall⟩ := foldlM_collect_seeded xs hk hrest
      refine ⟨by simp, hmax, rfl, ?_⟩
      intro F hF rs' hrs'
      simp only [firstOk_ok, Option.some.injEq] at hF
      subst hF
      simp only [List.mem_cons, Except.ok.injEq] at hrs'
      rcases hrs' with rfl | hrs'
      · exact ⟨c, hm, hm, rfl⟩
      · obtain ⟨hm', hlen'⟩ := hall _ hrs'
        exact ⟨c, by simpa using hm', hm, by simpa using hlen'⟩

/-- Once seeded, answers that are all the same set as the seed leave the loop as it was. -/
theorem foldlM_collect_seeded_of_agree {S : List α} {c : List UInt8} {k : ℕ}
    {xs : List (QueryResult α)}
    (hall : ∀ r ∈ xs, ∃ rs, r = .ok rs ∧ (marshalCanonicalCAASet srt pack rs).2 = .ok c ∧
      rs.length = S.length) :
    xs.foldlM (collect srt pack maxFailures) ⟨k, some S, some c⟩ = .ok ⟨k, some S, some c⟩ := by
  have hrun : ∃ t, xs.foldlM (collect srt pack maxFailures) ⟨k, some S, some c⟩ = .ok t ∧
      t = ⟨k, some S, some c⟩ :=
    foldlM_total (P := fun st : Collected α => st = ⟨k, some S, some c⟩)
      (fun st r hr hst => by
        obtain ⟨rs, rfl, hm, hlen⟩ := hall r hr
        subst hst
        exact ⟨_, collectRecords_seeded_eq_ok.mpr ⟨hm, hlen, rfl⟩, rfl⟩) rfl
  obtain ⟨t, ht, rfl⟩ := hrun
  exact ht

/-- The first answer to arrive is at the head of a list with no failures. -/
theorem firstOk_of_errors_eq_zero {results : List (QueryResult α)} {S : List α}
    (hnoerr : errors results = 0) (hfirst : firstOk results = some S) :
    ∃ rest, results = .ok S :: rest := by
  cases results with
  | nil => simp [firstOk] at hfirst
  | cons r rest =>
    cases r with
    | error e => simp at hnoerr
    | ok rs =>
      simp only [firstOk_ok, Option.some.injEq] at hfirst
      exact ⟨rest, by rw [hfirst]⟩

/-- **What a returned set means.** A set `LookupCAA` returns is the first answer to arrive as the
sort left it, and every proxy that answered gave the same set as the first; at most
`maxFailures` proxies failed. -/
theorem lookupCAA_sound {results : List (QueryResult α)} {S : List α}
    (h : lookupCAA srt pack maxFailures results = .ok S) :
    errors results ≤ maxFailures ∧ S = ((firstOk results).map srt.sort).getD [] ∧
      ∀ F, firstOk results = some F → ∀ rs, .ok rs ∈ results → SameSet srt pack rs F := by
  unfold lookupCAA at h
  cases hrun : results.foldlM (collect srt pack maxFailures) ⟨0, none, none⟩ with
  | error e => simp [hrun] at h
  | ok st =>
    simp only [hrun, ok_bind] at h
    cases h
    obtain ⟨hfailed, hmax, hcaas, hall⟩ := foldlM_collect_unseeded results (Nat.zero_le _) hrun
    exact ⟨by omega, by rw [hcaas], hall⟩

/-- **Agreement is enough without failures.** When no proxy fails and every answer is the same
set as the first, `LookupCAA` returns the first, sorted. -/
theorem lookupCAA_of_agree {results : List (QueryResult α)} {F : List α}
    (hnoerr : errors results = 0) (hfirst : firstOk results = some F)
    (hagree : ∀ rs, .ok rs ∈ results → SameSet srt pack rs F) :
    lookupCAA srt pack maxFailures results = .ok (srt.sort F) := by
  obtain ⟨rest, rfl⟩ := firstOk_of_errors_eq_zero hnoerr hfirst
  obtain ⟨c, hm, -, -⟩ := hagree F List.mem_cons_self
  have hall : ∀ r ∈ rest, ∃ rs, r = .ok rs ∧ (marshalCanonicalCAASet srt pack rs).2 = .ok c ∧
      rs.length = (srt.sort F).length := by
    intro r hr
    cases r with
    | error e =>
      have : 0 < errors rest := List.countP_pos_iff.mpr ⟨_, hr, rfl⟩
      simp at hnoerr
      omega
    | ok rs =>
      obtain ⟨c', hrs, hF, hlen⟩ := hagree rs (List.mem_cons_of_mem _ hr)
      have hc : c' = c := Except.ok.inj (hF.symm.trans hm)
      exact ⟨rs, rfl, hc ▸ hrs, by rw [ValueSort.length_sort, hlen]⟩
  have hseed : collect srt pack maxFailures ⟨0, none, none⟩ (.ok F) =
      .ok ⟨0, some (srt.sort F), some c⟩ :=
    collectRecords_unseeded_eq_ok.mpr ⟨c, hm, rfl⟩
  simp [lookupCAA, foldlM_cons_of_ok hseed, foldlM_collect_seeded_of_agree hall]

/-- **Order does not matter without failures.** For answer lists with no failures, two arrival
orders of the same answers are both accepted or both refused; each returns its first answer as
the sort left it, and the two sets have the same length and pack to the same bytes. -/
theorem lookupCAA_perm_of_no_errors {l l' : List (QueryResult α)} (hperm : l.Perm l')
    (hnoerr : errors l = 0) (hne : l ≠ []) {S : List α}
    (h : lookupCAA srt pack maxFailures l = .ok S) :
    ∃ S', lookupCAA srt pack maxFailures l' = .ok S' ∧ (firstOk l').map srt.sort = some S' ∧
      S'.length = S.length ∧ packSet pack S' = packSet pack S := by
  obtain ⟨-, hS, hall⟩ := lookupCAA_sound h
  have hnoerr' : errors l' = 0 := by
    rw [← hnoerr]
    exact (hperm.countP_eq _).symm
  have hne' : l' ≠ [] := by
    intro h'
    subst h'
    exact hne hperm.eq_nil
  obtain ⟨F, hF⟩ : ∃ F, firstOk l = some F := by
    obtain ⟨r, rest, rfl⟩ := List.exists_cons_of_ne_nil hne
    cases r with
    | error e => simp at hnoerr
    | ok rs => exact ⟨rs, rfl⟩
  rw [hF] at hS
  obtain ⟨r, rest, rfl⟩ := List.exists_cons_of_ne_nil hne'
  cases r with
  | error e => simp at hnoerr'
  | ok F' =>
    have hF' : SameSet srt pack F' F := hall F hF F' (hperm.mem_iff.mpr List.mem_cons_self)
    refine ⟨srt.sort F', lookupCAA_of_agree hnoerr' rfl ?_, rfl, ?_⟩
    · intro rs hrs
      exact (hall F hF rs (hperm.mem_iff.mpr hrs)).trans hF'.symm
    · obtain ⟨c, hc', hc, hlen⟩ := hF'
      simp only [marshalCanonicalCAASet_snd] at hc hc'
      exact ⟨by simp [hS, hlen], by rw [hc', hS, Option.map_some, Option.getD_some, hc]⟩

/-! ## A failure after the first answer -/

/-- With two proxies and one failure allowed, the same two outcomes, an answer with one record
and a failure, give different results in the two orders they can arrive in: a failure after the
answer is compared with it as an empty set and the lookup fails, a failure before it is
forgotten and the lookup returns the record. -/
theorem lookupCAA_depends_on_arrival_order (r : α) (e : String) {bs : List UInt8}
    (hone : pack r = .ok bs) :
    lookupCAA srt pack 1 [.ok [r], .error e] = .error "mismatching CAA record sets were returned" ∧
    lookupCAA srt pack 1 [.error e, .ok [r]] = .ok [r] := by
  have hmarshal : (marshalCanonicalCAASet srt pack [r]).2 = .ok bs := by
    rw [marshalCanonicalCAASet_snd, ValueSort.sort_singleton, packSet_singleton hone]
  constructor
  · have hseed : collect srt pack 1 ⟨0, none, none⟩ (.ok [r]) = .ok ⟨0, some [r], some bs⟩ := by
      rw [collect_ok, collectRecords_unseeded_eq_ok]
      exact ⟨bs, hmarshal, by simp⟩
    have hfail : collect srt pack 1 ⟨0, some [r], some bs⟩ (.error e) =
        .error "mismatching CAA record sets were returned" := by
      rw [collect_error_within (by simp)]
      simp [collectRecords, marshalCanonicalCAASet_snd]
    simp [lookupCAA, foldlM_cons_of_ok hseed, foldlM_cons_of_error hfail]
  · have hfail : collect srt pack 1 ⟨0, none, none⟩ (.error e) = .ok ⟨1, none, some []⟩ := by
      rw [collect_error_within (by simp)]
      exact collectRecords_unseeded_eq_ok.mpr ⟨[], by simp [marshalCanonicalCAASet_snd], rfl⟩
    have hseed : collect srt pack 1 ⟨1, none, some []⟩ (.ok [r]) = .ok ⟨1, some [r], some bs⟩ := by
      rw [collect_ok, collectRecords_unseeded_eq_ok]
      exact ⟨bs, hmarshal, by simp⟩
    simp [lookupCAA, foldlM_cons_of_ok hfail, foldlM_cons_of_ok hseed]
    rfl

end Runs

/-! ## A sort and a packing for the examples -/

/-- Insertion sort by value: what `sort.Sort` runs on fewer than twelve records. Both are stable,
so they agree there. -/
def insertionValueSort {α : Type} (value : α → String) : ValueSort α value where
  sort := List.insertionSort fun a b => value a ≤ value b
  perm := List.perm_insertionSort _
  sorted := by
    have : Std.Total fun a b : α => value a ≤ value b := ⟨fun _ _ => le_total _ _⟩
    have : IsTrans α fun a b => value a ≤ value b := ⟨fun _ _ _ => le_trans⟩
    exact List.pairwise_insertionSort _

/-- Records that are their values, packed as their characters' codes. -/
def packValue (v : String) : Except String (List UInt8) :=
  .ok (v.toList.map fun c => c.toNat.toUInt8)

/-- Two proxies, one failure allowed: a proxy answering `issue letsencrypt.org` and a proxy
timing out give a mismatch when the answer arrives first and the record when it arrives last. -/
theorem two_proxies_arrival_order :
    (∃ bs, packValue "letsencrypt.org" = .ok bs) ∧
    lookupCAA (insertionValueSort id) packValue 1 [.ok ["letsencrypt.org"], .error "timeout"] =
      .error "mismatching CAA record sets were returned" ∧
    lookupCAA (insertionValueSort id) packValue 1 [.error "timeout", .ok ["letsencrypt.org"]] =
      .ok ["letsencrypt.org"] :=
  ⟨⟨_, rfl⟩, lookupCAA_depends_on_arrival_order "letsencrypt.org" "timeout" rfl⟩

/-- Two proxies giving the same two records in opposite orders: the lookup returns them sorted by
value, and the other arrival order returns a set of the same bytes. -/
theorem two_proxies_same_records :
    lookupCAA (insertionValueSort id) packValue 1 [.ok ["letsencrypt.org", "example.net"],
        .ok ["example.net", "letsencrypt.org"]] = .ok ["example.net", "letsencrypt.org"] ∧
      ∃ S', lookupCAA (insertionValueSort id) packValue 1 [.ok ["example.net", "letsencrypt.org"],
          .ok ["letsencrypt.org", "example.net"]] = .ok S' ∧
        (firstOk [.ok ["example.net", "letsencrypt.org"], .ok ["letsencrypt.org", "example.net"]]).map
          (insertionValueSort id).sort = some S' ∧
        S'.length = 2 ∧
        packSet packValue S' = packSet packValue ["example.net", "letsencrypt.org"] := by
  have h : lookupCAA (insertionValueSort id) packValue 1 [.ok ["letsencrypt.org", "example.net"],
      .ok ["example.net", "letsencrypt.org"]] = .ok ["example.net", "letsencrypt.org"] := by
    decide +kernel
  exact ⟨h, lookupCAA_perm_of_no_errors (List.Perm.swap _ _ _) (by decide) (by simp) h⟩

end Boulder.CDR
