/-
# Boulder.Lib.Paging -- reading a query's rows a page at a time

A query without `ORDER BY`, or with one whose key has ties, returns its rows in an order the
database may choose afresh on every execution. A `QueryOrder` is such a choice: for the `q`-th
execution of a loop's query, the order in which the rows the query matches come back.
`OrderedBy key ord` says that every choice is a permutation sorted by `key`; `Unordered ord`
only that it is a permutation. `reorderedOnce` and `descending` are two such choices.

Two ways of paging occur. `offsetPages` runs one query again and again with `LIMIT`/`OFFSET`,
the offset being the number of rows read so far, and stops on an empty page and, if asked, after
a short one. `keysetPages` asks for the rows whose key is beyond that of the last row read, with
`LIMIT`, while fewer rows than a count taken at the start have been read. Both stop by their own
test before their fuel runs out (`offsetPages_fuel`, `keysetPages_fuel`). Keyset paging without
`ORDER BY` never reads the row with the least key when the rows come back from the greatest key
down and there is more than one page (`keysetPages_descending_misses`). This module names no
table.
-/
import Mathlib.Data.List.Sort
import Mathlib.Data.List.MinMax
import Mathlib.Data.List.Nodup

namespace Boulder.Lib.Paging

variable {α β κ : Type}

/-! ## Orders -/

/-- The order in which the `q`-th execution of a query returns the rows it matches. -/
abbrev QueryOrder (α : Type) := ℕ → List α → List α

/-- Every execution returns the matched rows, in some order. -/
def Unordered (ord : QueryOrder α) : Prop :=
  ∀ q rows, (ord q rows).Perm rows

/-- Every execution returns the matched rows sorted by `key`: `ORDER BY key`, ties in any
order. -/
def OrderedBy [LE β] (key : α → β) (ord : QueryOrder α) : Prop :=
  ∀ q rows, (ord q rows).Perm rows ∧ (ord q rows).Pairwise fun a b => key a ≤ key b

theorem OrderedBy.unordered [LE β] {key : α → β} {ord : QueryOrder α} (h : OrderedBy key ord) :
    Unordered ord :=
  fun q rows => (h q rows).1

section Sorting

variable [LinearOrder β] (key : α → β)

/-- The rows sorted by `key`, ties kept in the order given. -/
def sortBy (rows : List α) : List α :=
  rows.insertionSort fun a b => key a ≤ key b

theorem perm_sortBy (rows : List α) : (sortBy key rows).Perm rows :=
  List.perm_insertionSort _ _

theorem pairwise_sortBy (rows : List α) : (sortBy key rows).Pairwise fun a b => key a ≤ key b := by
  have : Std.Total (fun a b : α => key a ≤ key b) := ⟨fun a b => le_total (key a) (key b)⟩
  have : IsTrans α (fun a b => key a ≤ key b) := ⟨fun _ _ _ => le_trans⟩
  exact List.pairwise_insertionSort _ _

/-- The database sorts by `key` every time, but on the `q₀`-th execution takes the ties the
other way round. -/
def reorderedOnce (q₀ : ℕ) : QueryOrder α := fun q rows =>
  if q = q₀ then sortBy key rows.reverse else sortBy key rows

theorem orderedBy_reorderedOnce (q₀ : ℕ) : OrderedBy key (reorderedOnce key q₀) := by
  intro q rows
  unfold reorderedOnce
  split
  · exact ⟨(perm_sortBy key _).trans (List.reverse_perm rows), pairwise_sortBy key _⟩
  · exact ⟨perm_sortBy key rows, pairwise_sortBy key rows⟩

/-- The rows from the greatest key down, on every execution. -/
def descending : QueryOrder α := fun _ rows => (sortBy key rows).reverse

theorem unordered_descending : Unordered (descending key) := fun _ rows =>
  (List.reverse_perm _).trans (perm_sortBy key rows)

theorem pairwise_descending (q : ℕ) (rows : List α) :
    (descending key q rows).Pairwise fun a b => key b ≤ key a := by
  rw [descending, List.pairwise_reverse]
  exact pairwise_sortBy key rows

end Sorting

/-! ## Paging by offset -/

/-- `LIMIT limit OFFSET offset` on the `q`-th execution. -/
def page (ord : QueryOrder α) (q : ℕ) (rows : List α) (limit offset : ℕ) : List α :=
  ((ord q rows).drop offset).take limit

/-- A loop that runs one query with the number of rows read so far as its offset, and stops on
an empty page and, when `stopShort`, after a page shorter than `limit`. -/
def offsetPages (ord : QueryOrder α) (rows : List α) (limit : ℕ) (stopShort : Bool) :
    ℕ → ℕ → List α → List α
  | 0, _, acc => acc
  | fuel + 1, q, acc =>
    let p := page ord q rows limit acc.length
    if p = [] then acc
    else if stopShort && decide (p.length < limit) then acc ++ p
    else offsetPages ord rows limit stopShort fuel (q + 1) (acc ++ p)

/-- A page is empty once the offset has passed every row. -/
theorem lt_length_of_page_ne_nil {ord : QueryOrder α} (hord : Unordered ord) {q : ℕ}
    {rows : List α} {limit offset : ℕ} (h : page ord q rows limit offset ≠ []) :
    offset < rows.length := by
  rw [← (hord q rows).length_eq]
  by_contra hle
  exact h (by simp [page, List.drop_eq_nil_of_le (Nat.le_of_not_lt hle)])

/-- Fuel beyond the number of rows not read yet is never used: the loop has stopped by its own
test. -/
theorem offsetPages_fuel {ord : QueryOrder α} (hord : Unordered ord) (rows : List α) (limit : ℕ)
    (stopShort : Bool) :
    ∀ fuel q acc, rows.length - acc.length < fuel →
      offsetPages ord rows limit stopShort (fuel + 1) q acc =
        offsetPages ord rows limit stopShort fuel q acc
  | 0, _, _, h => absurd h (Nat.not_lt_zero _)
  | fuel + 1, q, acc, h => by
    conv_lhs => rw [offsetPages]
    conv_rhs => rw [offsetPages]
    by_cases hp : page ord q rows limit acc.length = []
    · simp only [hp, if_true]
    · have hlt := lt_length_of_page_ne_nil hord hp
      have hpos : 0 < (page ord q rows limit acc.length).length := List.length_pos_iff.mpr hp
      simp only [hp, if_false]
      split
      · rfl
      · rw [offsetPages_fuel hord rows limit stopShort fuel (q + 1) _ (by simp; omega)]

/-- Any two amounts of fuel beyond the rows not read yet give the same result. -/
theorem offsetPages_stable {ord : QueryOrder α} (hord : Unordered ord) (rows : List α)
    (limit : ℕ) (stopShort : Bool) (q : ℕ) (acc : List α) {fuel fuel' : ℕ}
    (h : rows.length - acc.length < fuel) (h' : fuel ≤ fuel') :
    offsetPages ord rows limit stopShort fuel' q acc =
      offsetPages ord rows limit stopShort fuel q acc := by
  induction fuel', h' using Nat.le_induction with
  | base => rfl
  | succ n hn ih =>
    rw [offsetPages_fuel hord rows limit stopShort n q acc (lt_of_lt_of_le h hn), ih]

/-! ## Paging by key -/

section Keyset

variable [LinearOrder κ]

/-- A loop that reads the rows whose key is beyond that of the last row read, `limit` at a time
and in whatever order the execution returns them, while fewer than `count` rows have been read;
it stops on an empty page. -/
def keysetPages (ord : QueryOrder α) (rows : List α) (key : α → κ) (limit count : ℕ) :
    ℕ → ℕ → ℕ → κ → List α → List α
  | 0, _, _, _, acc => acc
  | fuel + 1, q, offset, last, acc =>
    if offset < count then
      let p := (ord q (rows.filter fun r => last < key r)).take limit
      match p.getLast? with
      | none => acc
      | some r => keysetPages ord rows key limit count fuel (q + 1) (offset + p.length) (key r) (acc ++ p)
    else acc

/-- Fuel beyond the rows still to count is never used. -/
theorem keysetPages_fuel (ord : QueryOrder α) (rows : List α) (key : α → κ) (limit count : ℕ) :
    ∀ fuel q offset last acc, count - offset < fuel →
      keysetPages ord rows key limit count (fuel + 1) q offset last acc =
        keysetPages ord rows key limit count fuel q offset last acc
  | 0, _, _, _, _, h => absurd h (Nat.not_lt_zero _)
  | fuel + 1, q, offset, last, acc, h => by
    conv_lhs => rw [keysetPages]
    conv_rhs => rw [keysetPages]
    dsimp only
    split
    · split
      · rfl
      · rename_i r hr
        have hpos : 0 < ((ord q (rows.filter fun r => last < key r)).take limit).length :=
          List.length_pos_iff.mpr (by intro h; simp [h] at hr)
        rw [keysetPages_fuel ord rows key limit count fuel (q + 1) _ _ _ (by omega)]
    · rfl

/-- Any two amounts of fuel beyond the rows still to count give the same result. -/
theorem keysetPages_stable (ord : QueryOrder α) (rows : List α) (key : α → κ) (limit count : ℕ)
    (q offset : ℕ) (last : κ) (acc : List α) {fuel fuel' : ℕ} (h : count - offset < fuel)
    (h' : fuel ≤ fuel') :
    keysetPages ord rows key limit count fuel' q offset last acc =
      keysetPages ord rows key limit count fuel q offset last acc := by
  induction fuel', h' using Nat.le_induction with
  | base => rfl
  | succ n hn ih =>
    rw [keysetPages_fuel ord rows key limit count n q offset last acc (lt_of_lt_of_le h hn), ih]

/-! ### Keyset paging over rows that come back from the greatest key down -/

variable {rows : List α} {key : α → κ} {m : α}

/-- From the greatest key down, a first page that leaves rows over misses the row with the least
key, and every row on it has a greater key. -/
theorem take_descending_of_least (hkeys : (rows.map key).Nodup) {limit : ℕ}
    (hlimit : limit < rows.length) (hm : m ∈ rows) (hleast : ∀ r ∈ rows, key m ≤ key r)
    (q : ℕ) :
    m ∉ (descending key q rows).take limit ∧
      ∀ r ∈ (descending key q rows).take limit, key m < key r := by
  have hperm := unordered_descending key q rows
  have hnodup : (descending key q rows).Nodup := hperm.nodup_iff.mpr (hkeys.of_map key)
  have hinj := List.inj_on_of_nodup_map hkeys
  rw [← List.take_append_drop limit (descending key q rows)] at hnodup
  have hpair := pairwise_descending key q rows
  rw [← List.take_append_drop limit (descending key q rows), List.pairwise_append] at hpair
  have hge : ∀ x ∈ (descending key q rows).take limit, ∀ y ∈ (descending key q rows).drop limit,
      key y ≤ key x := hpair.2.2
  have hdisj := (List.nodup_append.mp hnodup).2.2
  have hmiss : m ∉ (descending key q rows).take limit := by
    intro hmt
    obtain ⟨y, hy⟩ : ∃ y, y ∈ (descending key q rows).drop limit := by
      apply List.exists_mem_of_ne_nil
      rw [← List.length_pos_iff, List.length_drop, hperm.length_eq]
      omega
    have hyrows : y ∈ rows := hperm.subset (List.mem_of_mem_drop hy)
    have hym : y = m := hinj hyrows hm (le_antisymm (hge m hmt y hy) (hleast y hyrows))
    exact hdisj m hmt y hy hym.symm
  refine ⟨hmiss, fun r hr => ?_⟩
  have hmD : m ∈ (descending key q rows).take limit ++ (descending key q rows).drop limit := by
    rw [List.take_append_drop]
    exact hperm.symm.subset hm
  have hmdrop : m ∈ (descending key q rows).drop limit :=
    (List.mem_append.mp hmD).resolve_left hmiss
  have hrrows : r ∈ rows := hperm.subset (List.mem_of_mem_take hr)
  refine lt_of_le_of_ne (hge r hr m hmdrop) fun heq => ?_
  exact hmiss (hinj hrrows hm heq.symm ▸ hr)

/-- One page of keyset paging from the greatest key down misses the row with the least key, and
every row on it has a greater key: either every row is beyond the last key and the page leaves
rows over, or that row is behind the last key already. -/
theorem keyset_page_of_least (hkeys : (rows.map key).Nodup) {limit : ℕ}
    (hm : m ∈ rows) (hleast : ∀ r ∈ rows, key m ≤ key r) (q : ℕ) {last : κ}
    (hlast : ((∀ r ∈ rows, last < key r) ∧ limit < rows.length) ∨ key m < last) :
    m ∉ (descending key q (rows.filter fun r => last < key r)).take limit ∧
      ∀ r ∈ (descending key q (rows.filter fun r => last < key r)).take limit, key m < key r := by
  rcases hlast with ⟨hall, hlimit⟩ | hlt
  · have hfilter : (rows.filter fun r => last < key r) = rows :=
      List.filter_eq_self.mpr fun r hr => decide_eq_true (hall r hr)
    rw [hfilter]
    exact take_descending_of_least hkeys hlimit hm hleast q
  · have hsel : ∀ r ∈ (descending key q (rows.filter fun r => last < key r)).take limit,
        last < key r := by
      intro r hr
      have hr' := (unordered_descending key q _).subset (List.mem_of_mem_take hr)
      simpa using (List.mem_filter.mp hr').2
    refine ⟨fun hmp => lt_asymm hlt (hsel m hmp), fun r hr => hlt.trans (hsel r hr)⟩

/-- The loop never reads the row with the least key, from a state where its next page is such
a page and it has not read the row yet. -/
theorem not_mem_keysetPages_descending (hkeys : (rows.map key).Nodup) {limit count : ℕ}
    (hm : m ∈ rows) (hleast : ∀ r ∈ rows, key m ≤ key r) :
    ∀ fuel q offset last acc, m ∉ acc →
      ((∀ r ∈ rows, last < key r) ∧ limit < rows.length) ∨ key m < last →
      m ∉ keysetPages (descending key) rows key limit count fuel q offset last acc
  | 0, _, _, _, _, hacc, _ => hacc
  | fuel + 1, q, offset, last, acc, hacc, hlast => by
    obtain ⟨hmiss, hgt⟩ := keyset_page_of_least hkeys hm hleast q hlast
    rw [keysetPages]
    split
    · dsimp only
      split
      · exact hacc
      · rename_i r hr
        have hrp := List.mem_of_getLast? hr
        refine not_mem_keysetPages_descending hkeys hm hleast fuel (q + 1) _ (key r) _ ?_
          (.inr (hgt r hrp))
        simp only [List.mem_append, not_or]
        exact ⟨hacc, hmiss⟩
    · exact hacc

/-- **Keyset paging without `ORDER BY` can miss a row.** If the rows have distinct keys, all
beyond the starting key, and there are more of them than one page holds, then when every
execution returns its rows from the greatest key down, the row with the least key is never
read, whatever the count and the fuel. -/
theorem keysetPages_descending_misses (hkeys : (rows.map key).Nodup) {k₀ : κ}
    (hk₀ : ∀ r ∈ rows, k₀ < key r) {limit : ℕ} (hlimit : limit < rows.length) (count fuel : ℕ) :
    ∃ m ∈ rows, m ∉ keysetPages (descending key) rows key limit count fuel 0 0 k₀ [] := by
  obtain ⟨m, hm⟩ : ∃ m, List.argmin key rows = some m :=
    Option.isSome_iff_exists.mp (by
      rw [Option.isSome_iff_ne_none, ne_eq, List.argmin_eq_none, ← List.length_eq_zero_iff]
      omega)
  have hmem : m ∈ rows := List.argmin_mem hm
  have hleast : ∀ r ∈ rows, key m ≤ key r := fun r hr => List.le_of_mem_argmin hr hm
  exact ⟨m, hmem, not_mem_keysetPages_descending hkeys hmem hleast fuel 0 0 k₀ []
    (List.not_mem_nil) (.inl ⟨hk₀, hlimit⟩)⟩

end Keyset

end Boulder.Lib.Paging
