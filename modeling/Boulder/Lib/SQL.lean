/-
# Boulder.Lib.SQL -- the comparisons of MySQL that a query's `WHERE` clause uses

A column of character set `ascii` compares under its default collation `ascii_general_ci`, and
one of `utf8` under `utf8_general_ci`: letters without regard to case. `sqlEq` is `=` under such
a collation and `like` is `LIKE`, where `%` matches any run of characters, `_` any one character,
and `\` makes the character after it literal. Case is folded on ASCII letters, which is all of
`utf8_general_ci`'s folding that ASCII strings meet; the padding of `=` with trailing spaces is
not modelled. This module names no table.

`like_append_percent` is the one fact the queries need: a pattern that is a literal followed by
`%` matches exactly the strings that start with that literal, up to case.
-/
import Mathlib.Data.List.Basic

namespace Boulder.Lib.SQL

/-- Two characters are the same under `ascii_general_ci`. -/
def collateEq (c d : Char) : Bool :=
  c.toLower == d.toLower

/-- `=` on strings under `ascii_general_ci`. -/
def sqlEq (a b : String) : Bool :=
  a.toList.map Char.toLower == b.toList.map Char.toLower

/-- `LIKE` on character lists, the pattern first. -/
def likeChars : List Char → List Char → Bool
  | [], s => s.isEmpty
  | '%' :: p, s => (List.range (s.length + 1)).any fun i => likeChars p (s.drop i)
  | '_' :: p, s =>
    match s with
    | [] => false
    | _ :: s => likeChars p s
  | '\\' :: c :: p, s =>
    match s with
    | [] => false
    | d :: s => collateEq c d && likeChars p s
  | c :: p, s =>
    match s with
    | [] => false
    | d :: s => collateEq c d && likeChars p s

/-- `s LIKE pattern`. -/
def like (s pattern : String) : Bool :=
  likeChars pattern.toList s.toList

/-- A character that `LIKE` reads as itself. -/
def IsLiteral (c : Char) : Prop :=
  c ≠ '%' ∧ c ≠ '_' ∧ c ≠ '\\'

/-- A trailing `%` matches whatever is left. -/
theorem likeChars_percent (s : List Char) : likeChars ['%'] s = true := by
  simp only [likeChars, List.any_eq_true, List.mem_range]
  exact ⟨s.length, by omega, by simp⟩

/-- A literal character of the pattern matches one character equal to it up to case. -/
theorem likeChars_literal_cons {c : Char} (hc : IsLiteral c) (p s : List Char) :
    likeChars (c :: p) s =
      match s with
      | [] => false
      | d :: s => collateEq c d && likeChars p s := by
  obtain ⟨hpercent, hunderscore, hbackslash⟩ := hc
  rw [likeChars.eq_def]
  split <;> first | rfl | simp_all

/-- **A literal followed by `%`** matches exactly the strings that start with the literal, up to
case. -/
theorem like_append_percent {p : List Char} (hp : ∀ c ∈ p, IsLiteral c) (s : List Char) :
    likeChars (p ++ ['%']) s = true ↔ p.map Char.toLower <+: s.map Char.toLower := by
  induction p generalizing s with
  | nil =>
    simp only [List.nil_append, likeChars_percent, List.map_nil, List.nil_prefix]
  | cons c p ih =>
    have hc := hp c List.mem_cons_self
    have hrest : ∀ c ∈ p, IsLiteral c := fun d hd => hp d (List.mem_cons_of_mem c hd)
    rw [List.cons_append, likeChars_literal_cons hc]
    cases s with
    | nil => simp
    | cons d s =>
      simp only [collateEq, Bool.and_eq_true, beq_iff_eq, ih hrest, List.map_cons,
        List.cons_prefix_cons]

end Boulder.Lib.SQL
