/-
# Boulder.SA.IssuedNames -- counting certificates by name

`countCertificatesByName` selects the serials of the `issuedNames` rows for a domain and its
subdomains whose `notBefore` lies in a window, with `LIMIT 10001`, and counts the distinct
serials. The cap it documents is checked on the variable `count`, which nothing assigns: it
stays 0, so `TooManyCertificatesError` is never returned, and a table with more than 10,000
matching rows of distinct serials gives the count 10,001 (`count_exceeds_cap`).

The query has no `ORDER BY`, so which rows `LIMIT` keeps is the server's choice; the model keeps
the first in table order. The results below depend on the rows kept only through their number,
except `countCertificatesByName_spec` for at most 10,001 matching rows, where all are kept.

`addIssuedNames` stores each DNS name of a certificate under `reverseName`, its labels in reverse
order. Reversing is an involution and turns a subdomain into an extension of the domain's reversed
name (`reverseName_reverseName`, `reverseName_append`), so the query's two tests find the domain
and its subdomains. The column compares without regard to case, so they are found whatever the
case of their letters (`reverseName_subdomains`, `uppercase_name_matches`).
-/
import Boulder.Core.Objects
import Boulder.Core.Util
import Boulder.Lib.GoStrings
import Boulder.Lib.Loop
import Boulder.Lib.SQL
import Mathlib.Data.List.Dedup

namespace Boulder.SA

open Boulder.Core Boulder.Lib.GoStrings Boulder.Lib.Loop Boulder.Lib.SQL

/-! ## The table and the query -/

/-- A row of `issuedNames`; its `id` is not read. -/
structure IssuedName where
  reversedName : String
  notBefore : Time
  serial : String
  deriving DecidableEq, Repr

/-- `TooManyCertificatesError`, a string type. -/
structure TooManyCertificatesError where
  msg : String
  deriving DecidableEq, Repr

/-- `reverseName`: the labels in reverse order (the swap loop reverses the slice in place). -/
def reverseName (domain : String) : String :=
  join (split domain '.').reverse "."

/-- The rows `addIssuedNames` inserts: one per DNS name of the certificate, with the reversed
name, the certificate's `notBefore` and its serial. -/
def issuedNameRows (cert : X509Certificate) : List IssuedName :=
  cert.dnsNames.map fun name => ⟨reverseName name, cert.notBefore, serialToString cert.serialNumber⟩

/-- `addIssuedNames`: one `INSERT` with a row per DNS name. Without a name the statement has no
`VALUES` list, which MySQL rejects, and the model gives `none`. -/
def addIssuedNames (t : List IssuedName) (cert : X509Certificate) : Option (List IssuedName) :=
  if cert.dnsNames = [] then none else some (t ++ issuedNameRows cert)

/-- The `WHERE` clause of the query, on one row. -/
def matchesName (reversedDomain : String) (earliest latest : Time) (row : IssuedName) : Bool :=
  (sqlEq row.reversedName reversedDomain || like row.reversedName (reversedDomain ++ ".%")) &&
    decide (earliest < row.notBefore) && decide (row.notBefore ≤ latest)

/-- The serials the query returns: those of the first `limit` matching rows. -/
def selectSerials (t : List IssuedName) (reversedDomain : String) (earliest latest : Time)
    (limit : ℕ) : List String :=
  ((t.filter (matchesName reversedDomain earliest latest)).take limit).map (·.serial)

/-- The constant `max` of `countCertificatesByName`. -/
def maxCount : ℕ := 10000

/-- `countCertificatesByName`. A `Select` into a slice returns no `sql.ErrNoRows`, and the
database does not fail in this model, so the two error branches before the cap are left out. -/
def countCertificatesByName (t : List IssuedName) (domain : String) (earliest latest : Time) :
    Except TooManyCertificatesError ℕ :=
  -- `var count int64`: declared, never assigned
  let count : ℤ := 0
  let serials := selectSerials t (reverseName domain) earliest latest (maxCount + 1)
  if count > maxCount then
    .error ⟨"More than " ++ toString maxCount ++ " issuedName entries for " ++ domain ++ "."⟩
  else
    -- `serialMap` has one entry per distinct serial
    .ok serials.dedup.length

/-- The assignment `ret[domain] = count` to a `map[string]int`, kept as its entries. -/
def setCount (ret : List (String × ℕ)) (domain : String) (count : ℕ) : List (String × ℕ) :=
  (domain, count) :: ret.filter fun entry => entry.1 != domain

/-- `CountCertificatesByNames`. On an error Go also returns the map built so far, which no
caller reads. -/
def countCertificatesByNames (t : List IssuedName) (domains : List String)
    (earliest latest : Time) : Except TooManyCertificatesError (List (String × ℕ)) :=
  domains.foldlM (fun ret domain => do
    let currentCount ← countCertificatesByName t domain earliest latest
    pure (setCount ret domain currentCount)) []

/-- For a reversed domain without `LIKE` wildcards, a row matches when its name is the reversed
domain, or starts with it and a dot, up to case, and its `notBefore` lies in the window. -/
theorem matchesName_iff {reversedDomain : String}
    (hliteral : ∀ c ∈ reversedDomain.toList, IsLiteral c) {earliest latest : Time}
    {row : IssuedName} :
    matchesName reversedDomain earliest latest row = true ↔
      (sqlEq row.reversedName reversedDomain = true ∨
        (reversedDomain ++ ".").toList.map Char.toLower <+: row.reversedName.toList.map Char.toLower) ∧
      earliest < row.notBefore ∧ row.notBefore ≤ latest := by
  have hpattern : (reversedDomain ++ ".%").toList = (reversedDomain ++ ".").toList ++ ['%'] := by
    simp
  have hlit : ∀ c ∈ (reversedDomain ++ ".").toList, IsLiteral c := by
    intro c hc
    rw [String.toList_append, List.mem_append] at hc
    rcases hc with hc | hc
    · exact hliteral c hc
    · have hdot : c = '.' := by simpa using hc
      subst hdot
      exact ⟨by decide, by decide, by decide⟩
  simp only [matchesName, like, hpattern, like_append_percent hlit, Bool.and_eq_true,
    Bool.or_eq_true, decide_eq_true_eq, and_assoc]

/-! ## What the count is -/

section Count

variable (t : List IssuedName) (domain : String) (earliest latest : Time)

/-- The cap check never fires: the count is that of the distinct serials among the rows kept. -/
theorem countCertificatesByName_eq :
    countCertificatesByName t domain earliest latest =
      .ok (selectSerials t (reverseName domain) earliest latest (maxCount + 1)).dedup.length := by
  simp [countCertificatesByName, maxCount]

/-- At most `maxCount + 1` rows are kept, so the count is at most 10,001. -/
theorem dedup_selectSerials_le :
    (selectSerials t (reverseName domain) earliest latest (maxCount + 1)).dedup.length ≤
      maxCount + 1 := by
  calc (selectSerials t (reverseName domain) earliest latest (maxCount + 1)).dedup.length
      ≤ (selectSerials t (reverseName domain) earliest latest (maxCount + 1)).length :=
        (List.dedup_sublist _).length_le
    _ ≤ maxCount + 1 := by
        simp only [selectSerials, List.length_map, List.length_take]
        omega

/-- With at most 10,001 matching rows all are kept, and the count is that of their distinct
serials. -/
theorem countCertificatesByName_of_few
    (hfew : (t.filter (matchesName (reverseName domain) earliest latest)).length ≤ maxCount + 1) :
    countCertificatesByName t domain earliest latest =
      .ok ((t.filter (matchesName (reverseName domain) earliest latest)).map (·.serial)).dedup.length := by
  rw [countCertificatesByName_eq, selectSerials, List.take_of_length_le hfew]

/-- With more than 10,000 matching rows of distinct serials, 10,001 of them are kept and
counted. -/
theorem countCertificatesByName_of_many
    (hmany : maxCount < (t.filter (matchesName (reverseName domain) earliest latest)).length)
    (hdistinct :
      ((t.filter (matchesName (reverseName domain) earliest latest)).map (·.serial)).Nodup) :
    countCertificatesByName t domain earliest latest = .ok (maxCount + 1) := by
  have hkept : (selectSerials t (reverseName domain) earliest latest (maxCount + 1)).Nodup := by
    rw [selectSerials, List.map_take]
    exact hdistinct.sublist (List.take_sublist _ _)
  rw [countCertificatesByName_eq, hkept.dedup, selectSerials, List.length_map, List.length_take]
  congr
  omega

/-- **What `countCertificatesByName` returns.** It never fails and never counts more than 10,001;
with at most 10,001 matching rows, it counts the distinct serials of all of them; and for a
domain whose reversed form has no `LIKE` wildcard, a row matches when its reversed name is that
form, or starts with it and a dot, up to case, in the window. -/
theorem countCertificatesByName_spec :
    (∃ n ≤ maxCount + 1, countCertificatesByName t domain earliest latest = .ok n) ∧
    ((t.filter (matchesName (reverseName domain) earliest latest)).length ≤ maxCount + 1 →
      countCertificatesByName t domain earliest latest =
        .ok ((t.filter (matchesName (reverseName domain) earliest latest)).map (·.serial)).dedup.length) ∧
    ((∀ c ∈ (reverseName domain).toList, IsLiteral c) → ∀ row : IssuedName,
      matchesName (reverseName domain) earliest latest row = true ↔
        (sqlEq row.reversedName (reverseName domain) = true ∨
          (reverseName domain ++ ".").toList.map Char.toLower <+:
            row.reversedName.toList.map Char.toLower) ∧
        earliest < row.notBefore ∧ row.notBefore ≤ latest) := by
  refine ⟨⟨_, dedup_selectSerials_le t domain earliest latest,
    countCertificatesByName_eq t domain earliest latest⟩, ?_, ?_⟩
  · exact countCertificatesByName_of_few t domain earliest latest
  · intro hliteral row
    exact matchesName_iff hliteral

end Count

/-- One certificate for `example.com` in the window is counted once, and a row of
`www.example.com` matches the domain. -/
theorem countCertificatesByName_spec_one_row :
    ([⟨"com.example", 5, "01"⟩].filter (matchesName (reverseName "example.com") 0 10)).length ≤
        maxCount + 1 ∧
      countCertificatesByName [⟨"com.example", 5, "01"⟩] "example.com" 0 10 = .ok 1 ∧
    (∀ c ∈ (reverseName "example.com").toList, IsLiteral c) ∧
      matchesName (reverseName "example.com") 0 10 ⟨"com.example.www", 5, "02"⟩ = true := by
  have h := countCertificatesByName_spec [⟨"com.example", 5, "01"⟩] "example.com" 0 10
  have hfew : ([⟨"com.example", 5, "01"⟩].filter
      (matchesName (reverseName "example.com") 0 10)).length ≤ maxCount + 1 := by decide +kernel
  have hlit : ∀ c ∈ (reverseName "example.com").toList, IsLiteral c := by
    have hrev : reverseName "example.com" = "com.example" := by decide +kernel
    rw [hrev]
    simp [IsLiteral]
  refine ⟨hfew, (h.2.1 hfew).trans (by decide +kernel), hlit,
    (h.2.2 hlit _).mpr ⟨Or.inr ?_, by decide, by decide⟩⟩
  decide +kernel


/-- A loop over one domain stores that domain's count. -/
theorem countCertificatesByNames_singleton {t : List IssuedName} {domain : String}
    {earliest latest : Time} {n : ℕ} (h : countCertificatesByName t domain earliest latest = .ok n) :
    countCertificatesByNames t [domain] earliest latest = .ok [(domain, n)] := by
  simp [countCertificatesByNames, h, setCount]

/-! ## Reversed names -/

theorem dot_toList : (".").toList = ['.'] := rfl

/-- The labels of a reversed name are the name's labels, reversed. -/
theorem split_reverseName (d : String) : split (reverseName d) '.' = (split d '.').reverse := by
  apply split_join dot_toList
  · intro x hx
    exact not_mem_of_mem_split (List.mem_reverse.mp hx)
  · simpa using split_ne_nil d '.'

/-- Reversing the labels twice gives the name back, whatever its dots. -/
theorem reverseName_reverseName (d : String) : reverseName (reverseName d) = d := by
  rw [reverseName, split_reverseName, List.reverse_reverse, join_split d dot_toList]

theorem reverseName_injective : Function.Injective reverseName := fun a b h => by
  rw [← reverseName_reverseName a, h, reverseName_reverseName]

/-- A subdomain's reversed name is the domain's, a dot, and the reversed rest. -/
theorem reverseName_append (a d : String) :
    reverseName (a ++ "." ++ d) = reverseName d ++ "." ++ reverseName a := by
  have hdot : (".": String) = String.singleton '.' := rfl
  rw [reverseName, hdot, split_append_sep, ← hdot, List.reverse_append,
    join_append _ (by simpa using split_ne_nil d '.') (by simpa using split_ne_nil a '.')]
  rfl

/-- Lowering the letters commutes with reversing the labels. -/
theorem reverseName_toLower (d : String) : reverseName (toLower d) = toLower (reverseName d) := by
  have hf : ∀ c, c.toLower = '.' ↔ c = '.' := toLower_eq_iff_of_not_letter (by decide) (by decide)
  rw [reverseName, toLower, split_map hf, ← List.map_reverse, ← join_map hf dot_toList]
  rfl

/-- A reversed name has the name's characters and dots. -/
theorem mem_reverseName {d : String} {c : Char} (h : c ∈ (reverseName d).toList) :
    c ∈ d.toList ∨ c = '.' := by
  rw [reverseName, join, String.toList_ofList, dot_toList] at h
  rcases mem_of_mem_intercalate h with h | ⟨x, hx, hc⟩
  · exact Or.inr (List.mem_singleton.mp h)
  · obtain ⟨piece, hpiece, rfl⟩ := List.mem_map.mp hx
    exact Or.inl (mem_of_mem_split (List.mem_reverse.mp hpiece) hc)

/-- A name's reversed form extends a domain's and a dot exactly when the name ends in a dot and
the domain. -/
theorem reverseName_prefix_iff (name d : String) :
    (reverseName d ++ ".").toList <+: (reverseName name).toList ↔
      hasSuffix name ("." ++ d) = true := by
  rw [hasSuffix, List.isSuffixOf_iff_suffix]
  constructor
  · rintro ⟨rest, hrest⟩
    have hrev : reverseName name = reverseName d ++ "." ++ String.ofList rest := by
      apply String.toList_inj.mp
      rw [← hrest]
      simp
    have hname : name = reverseName (String.ofList rest) ++ "." ++ d := by
      rw [← reverseName_reverseName name, hrev, reverseName_append, reverseName_reverseName]
    refine ⟨(reverseName (String.ofList rest)).toList, ?_⟩
    rw [hname]
    simp
  · rintro ⟨a, ha⟩
    have hname : name = String.ofList a ++ "." ++ d := by
      apply String.toList_inj.mp
      rw [← ha]
      simp
    refine ⟨(reverseName (String.ofList a)).toList, ?_⟩
    rw [hname, reverseName_append]
    simp

/-- The row of a name matches a domain's query exactly when the name, lowered, is the domain
or ends in a dot and the domain, lowered, and the row lies in the window. -/
theorem matchesName_reverseName_iff {d : String} (hliteral : ∀ c ∈ d.toList, IsLiteral c)
    (name : String) (notBefore : Time) (serial : String) (earliest latest : Time) :
    matchesName (reverseName d) earliest latest ⟨reverseName name, notBefore, serial⟩ = true ↔
      (toLower name = toLower d ∨ hasSuffix (toLower name) ("." ++ toLower d) = true) ∧
        earliest < notBefore ∧ notBefore ≤ latest := by
  have hrev : ∀ c ∈ (reverseName d).toList, IsLiteral c := by
    intro c hc
    rcases mem_reverseName hc with hc | rfl
    · exact hliteral c hc
    · exact ⟨by decide, by decide, by decide⟩
  have heq : sqlEq (reverseName name) (reverseName d) = true ↔ toLower name = toLower d := by
    rw [sqlEq, beq_iff_eq, ← toList_toLower, ← toList_toLower, String.toList_inj,
      ← reverseName_toLower, ← reverseName_toLower]
    exact reverseName_injective.eq_iff
  have hprefix : (reverseName d ++ ".").toList.map Char.toLower <+:
      (reverseName name).toList.map Char.toLower ↔
        hasSuffix (toLower name) ("." ++ toLower d) = true := by
    have hdomain : (reverseName d ++ ".").toList.map Char.toLower =
        (reverseName (toLower d) ++ ".").toList := by
      rw [reverseName_toLower, String.toList_append, String.toList_append, List.map_append,
        ← toList_toLower, dot_toList]
      rfl
    rw [hdomain, ← toList_toLower, ← reverseName_toLower]
    exact reverseName_prefix_iff _ _
  rw [matchesName_iff hrev, heq, hprefix]

/-- **Subdomains are prefixes.** Reversing is an involution that turns a subdomain into an
extension of the domain's reversed name; so for a domain without `LIKE` wildcards, the row
`addIssuedNames` stores for a name matches the domain's query exactly when the name is the domain
or one of its subdomains, up to case, and the certificate's `notBefore` lies in the window. -/
theorem reverseName_subdomains (a d : String) :
    reverseName (reverseName d) = d ∧
    reverseName (a ++ "." ++ d) = reverseName d ++ "." ++ reverseName a ∧
    ((∀ c ∈ d.toList, IsLiteral c) → ∀ (t t' : List IssuedName) (cert : X509Certificate),
      addIssuedNames t cert = some t' → ∀ name ∈ cert.dnsNames, ∃ row ∈ t',
        row.reversedName = reverseName name ∧ ∀ earliest latest : Time,
          (matchesName (reverseName d) earliest latest row = true ↔
            (toLower name = toLower d ∨ hasSuffix (toLower name) ("." ++ toLower d) = true) ∧
              earliest < cert.notBefore ∧ cert.notBefore ≤ latest)) := by
  refine ⟨reverseName_reverseName d, reverseName_append a d, ?_⟩
  intro hliteral t t' cert hadd name hname
  have hnames : cert.dnsNames ≠ [] := List.ne_nil_of_mem hname
  rw [addIssuedNames, if_neg hnames, Option.some.injEq] at hadd
  refine ⟨⟨reverseName name, cert.notBefore, serialToString cert.serialNumber⟩, ?_, rfl, ?_⟩
  · rw [← hadd, issuedNameRows]
    exact List.mem_append_right t (List.mem_map_of_mem hname)
  · intro earliest latest
    exact matchesName_reverseName_iff hliteral name _ _ earliest latest

/-- A certificate for `www.example.com`, serial 1, issued at time 100. -/
def wwwCertificate : X509Certificate :=
  { serialNumber := 1, publicKey := .ecdsa .p256 1 2, dnsNames := ["www.example.com"],
    notBefore := 100 }

theorem reverseName_subdomains_example :
    ∃ row ∈ issuedNameRows wwwCertificate, row.reversedName = "com.example.www" ∧
      (matchesName (reverseName "example.com") 0 200 row = true ↔
        (toLower "www.example.com" = toLower "example.com" ∨
          hasSuffix (toLower "www.example.com") ("." ++ toLower "example.com") = true) ∧
          0 < wwwCertificate.notBefore ∧ wwwCertificate.notBefore ≤ 200) := by
  have hliteral : ∀ c ∈ "example.com".toList, IsLiteral c := by
    intro c hc
    have hall : "example.com".toList.all (fun c => c != '%' && c != '_' && c != '\\') = true := by
      decide
    have hc' := List.all_eq_true.mp hall c hc
    simp only [Bool.and_eq_true, bne_iff_ne, ne_eq] at hc'
    exact ⟨hc'.1.1, hc'.1.2, hc'.2⟩
  obtain ⟨row, hrow, hname, hmatch⟩ := (reverseName_subdomains "www" "example.com").2.2 hliteral
    [] (issuedNameRows wwwCertificate) wwwCertificate rfl "www.example.com" List.mem_cons_self
  exact ⟨row, by simpa using hrow, hname.trans (by decide), hmatch 0 200⟩

/-- A certificate for `EXAMPLE.COM`, serial 1, issued at time 100. -/
def upperCaseCertificate : X509Certificate :=
  { serialNumber := 1, publicKey := .ecdsa .p256 1 2, dnsNames := ["EXAMPLE.COM"], notBefore := 100 }

/-- The row stored for `EXAMPLE.COM` is counted for `example.com`, though the name neither is
`example.com` nor ends in `.example.com`. -/
theorem uppercase_name_matches :
    addIssuedNames [] upperCaseCertificate =
        some [⟨"COM.EXAMPLE", 100, serialToString 1⟩] ∧
      matchesName (reverseName "example.com") 0 200 ⟨"COM.EXAMPLE", 100, serialToString 1⟩ = true ∧
      "EXAMPLE.COM" ≠ "example.com" ∧ hasSuffix "EXAMPLE.COM" ".example.com" = false := by
  decide

/-- **The cap is never enforced.** With more than 10,000 rows for a domain in the window, of
distinct serials, `countCertificatesByName` returns 10,001 and no `TooManyCertificatesError`,
and `CountCertificatesByNames` passes that count on. -/
theorem count_exceeds_cap (t : List IssuedName) (domain : String) (earliest latest : Time)
    (hmany : 10000 < (t.filter (matchesName (reverseName domain) earliest latest)).length)
    (hdistinct :
      ((t.filter (matchesName (reverseName domain) earliest latest)).map (·.serial)).Nodup) :
    countCertificatesByName t domain earliest latest = .ok 10001 ∧
      countCertificatesByNames t [domain] earliest latest = .ok [(domain, 10001)] := by
  have hcount := countCertificatesByName_of_many t domain earliest latest hmany hdistinct
  exact ⟨hcount, countCertificatesByNames_singleton hcount⟩

/-- A table of 10,001 certificates for `example.com`, issued at time 1. -/
def crowdedTable : List IssuedName :=
  (List.range 10001).map fun i => ⟨"com.example", 1, Nat.repr i⟩

theorem crowded_table_exceeds_cap :
    10000 < (crowdedTable.filter (matchesName (reverseName "example.com") 0 1)).length ∧
      ((crowdedTable.filter (matchesName (reverseName "example.com") 0 1)).map (·.serial)).Nodup ∧
      countCertificatesByName crowdedTable "example.com" 0 1 = .ok 10001 ∧
      countCertificatesByNames crowdedTable ["example.com"] 0 1 = .ok [("example.com", 10001)] := by
  have hreverse : reverseName "example.com" = "com.example" := by decide
  have hall : crowdedTable.filter (matchesName (reverseName "example.com") 0 1) = crowdedTable := by
    rw [List.filter_eq_self]
    intro row hrow
    obtain ⟨i, -, rfl⟩ := List.mem_map.mp hrow
    simp [matchesName, hreverse, sqlEq]
  have hmany : 10000 < (crowdedTable.filter (matchesName (reverseName "example.com") 0 1)).length := by
    rw [hall, crowdedTable, List.length_map, List.length_range]
    omega
  have hdistinct :
      ((crowdedTable.filter (matchesName (reverseName "example.com") 0 1)).map (·.serial)).Nodup := by
    rw [hall, crowdedTable, List.map_map]
    exact List.nodup_range.map nat_repr_injective
  exact ⟨hmany, hdistinct, count_exceeds_cap crowdedTable "example.com" 0 1 hmany hdistinct⟩

end Boulder.SA
