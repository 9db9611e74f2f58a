/-
# Boulder.Lib.Lines -- a block of lines and the blank line after it

A text protocol writes a block of lines, each ended by CRLF, and ends the block with an empty
line; a reader takes the block to end at the first CRLF CRLF. `cut sep s` is what Go's
`strings.Cut` gives: the text before the first occurrence of `sep` and the text after it, or
`none` when there is none.

The reader finds the block the writer meant when no line is empty and no line holds an LF
(`cut_block`): the first CRLF CRLF is then the one after the last line. A line may hold a CR;
what a lone CR means is left to the reader, and this module says nothing about it. It names no
program.
-/
import Mathlib.Data.List.Basic

namespace Boulder.Lib.Lines

/-- CR LF. -/
def crlf : List Char := ['\r', '\n']

/-- The text before the first occurrence of `sep`, and the text after it. -/
def cut (sep : List Char) : List Char → Option (List Char × List Char)
  | [] => if sep = [] then some ([], []) else none
  | c :: s =>
    if sep.isPrefixOf (c :: s) then some ([], (c :: s).drop sep.length)
    else (cut sep s).map fun p => (c :: p.1, p.2)

/-- The separator itself, at the front. -/
theorem cut_sep_append (sep rest : List Char) : cut sep (sep ++ rest) = some ([], rest) := by
  cases sep with
  | nil =>
    cases rest with
    | nil => rfl
    | cons c s => simp [cut]
  | cons a sep => simp [cut, List.isPrefixOf_iff_prefix]

/-- Text in front of which no occurrence starts is kept in front of the first part. -/
theorem cut_append_of_not_prefix {sep : List Char} :
    ∀ (l rest : List Char), (∀ k < l.length, ¬ sep <+: (l ++ rest).drop k) →
      cut sep (l ++ rest) = (cut sep rest).map fun p => (l ++ p.1, p.2)
  | [], rest, _ => by simp
  | c :: l, rest, h => by
    have hfront : sep.isPrefixOf (c :: (l ++ rest)) = false :=
      Bool.eq_false_iff.mpr fun hp => h 0 (by simp) (List.isPrefixOf_iff_prefix.mp hp)
    have hrest : ∀ k < l.length, ¬ sep <+: (l ++ rest).drop k := fun k hk =>
      h (k + 1) (by simp; omega)
    rw [List.cons_append, cut, if_neg (by simp [hfront]), cut_append_of_not_prefix l rest hrest,
      Option.map_map]
    rfl

/-- No CRLF CRLF starts inside a text without LF that is followed by CR LF. -/
theorem not_prefix_of_lf_free {l rest : List Char} (hl : '\n' ∉ l) :
    ∀ k < l.length, ¬ (crlf ++ crlf) <+: (l ++ (crlf ++ rest)).drop k := by
  intro k hk hprefix
  have hsecond : ((l ++ (crlf ++ rest)).drop k)[1]? = some '\n' := by
    obtain ⟨t, ht⟩ := hprefix
    rw [← ht]
    rfl
  rw [List.getElem?_drop] at hsecond
  by_cases hin : k + 1 < l.length
  · rw [List.getElem?_append_left hin] at hsecond
    exact hl (List.mem_of_getElem? hsecond)
  · have hk1 : k + 1 = l.length := by omega
    rw [hk1, List.getElem?_append_right (Nat.le_refl _), Nat.sub_self] at hsecond
    simp [crlf] at hsecond

/-- A non-empty text without LF, followed by CR LF, does not start with CR LF. -/
theorem not_crlf_prefix_of_line {l rest : List Char} (hne : l ≠ []) (hl : '\n' ∉ l) :
    ¬ crlf <+: l ++ (crlf ++ rest) := by
  intro hprefix
  have hsecond : (l ++ (crlf ++ rest))[1]? = some '\n' := by
    obtain ⟨t, ht⟩ := hprefix
    rw [← ht]
    rfl
  by_cases hin : 1 < l.length
  · rw [List.getElem?_append_left hin] at hsecond
    exact hl (List.mem_of_getElem? hsecond)
  · have hone : l.length = 1 := by
      have := List.length_pos_iff.mpr hne
      omega
    rw [List.getElem?_append_right (by omega), hone, Nat.sub_self] at hsecond
    simp [crlf] at hsecond

/-- A CR LF that does not begin an empty line is kept in front of the first part. -/
theorem cut_crlf_cons {rest : List Char} (h : ¬ crlf <+: rest) :
    cut (crlf ++ crlf) (crlf ++ rest) = (cut (crlf ++ crlf) rest).map fun p => (crlf ++ p.1, p.2) := by
  have happ : crlf ++ rest = [] ++ crlf ++ rest := rfl
  rw [happ, List.append_assoc, cut_append_of_not_prefix [] (crlf ++ rest) (by simp)]
  have hcr : (crlf ++ crlf).isPrefixOf (crlf ++ rest) = false := by
    refine Bool.eq_false_iff.mpr fun hp => h ?_
    obtain ⟨t, ht⟩ := List.isPrefixOf_iff_prefix.mp hp
    exact ⟨t, by simpa [crlf] using ht⟩
  simp only [crlf, List.cons_append, List.nil_append, cut] at hcr ⊢
  rw [if_neg (by simp [hcr]), if_neg (by simp), Option.map_map, Option.map_map]
  rfl

/-- **The block ends at the blank line.** Lines that are not empty and hold no LF, joined by
CRLF and followed by an empty line, are cut there: the first part is the block, the second
whatever follows the empty line. -/
theorem cut_block (body : List Char) :
    ∀ lines : List (List Char), (∀ l ∈ lines, l ≠ [] ∧ '\n' ∉ l) →
      cut (crlf ++ crlf) (crlf.intercalate lines ++ crlf ++ crlf ++ body) =
        some (crlf.intercalate lines, body)
  | [], _ => by simpa using cut_sep_append (crlf ++ crlf) body
  | [l], hlines => by
    have hl := hlines l List.mem_cons_self
    rw [List.intercalate_singleton, List.append_assoc, List.append_assoc,
      cut_append_of_not_prefix l _ (not_prefix_of_lf_free hl.2), ← List.append_assoc,
      cut_sep_append]
    simp
  | l :: l' :: ls, hlines => by
    have hl := hlines l List.mem_cons_self
    have hl' := hlines l' (List.mem_cons_of_mem l List.mem_cons_self)
    have ih := cut_block body (l' :: ls) fun x hx => hlines x (List.mem_cons_of_mem l hx)
    have hsplit : crlf.intercalate (l :: l' :: ls) ++ crlf ++ crlf ++ body =
        l ++ (crlf ++ (crlf.intercalate (l' :: ls) ++ crlf ++ crlf ++ body)) := by
      rw [List.intercalate_cons_cons]
      simp only [List.append_assoc]
    have hnext : ¬ crlf <+: crlf.intercalate (l' :: ls) ++ crlf ++ crlf ++ body := by
      cases ls with
      | nil =>
        simpa only [List.intercalate_singleton, List.append_assoc] using
          @not_crlf_prefix_of_line l' (crlf ++ body) hl'.1 hl'.2
      | cons l'' ls =>
        simpa only [List.intercalate_cons_cons, List.append_assoc] using
          not_crlf_prefix_of_line hl'.1 hl'.2
    rw [hsplit, cut_append_of_not_prefix l _ (not_prefix_of_lf_free hl.2), cut_crlf_cons hnext, ih]
    simp [List.intercalate_cons_cons]

/-- What each line has by the description of its own line, every line has. -/
theorem forall_mem_of_forall₂ {α β : Type} {R : α → β → Prop} {P : β → Prop}
    (hR : ∀ a b, R a b → P b) :
    ∀ {as : List α} {bs : List β}, List.Forall₂ R as bs → ∀ b ∈ bs, P b
  | _, _, .nil => fun _ hb => absurd hb List.not_mem_nil
  | _, _, .cons hab h => fun b hb => by
    rcases List.mem_cons.mp hb with rfl | hb
    · exact hR _ _ hab
    · exact forall_mem_of_forall₂ hR h b hb

end Boulder.Lib.Lines
