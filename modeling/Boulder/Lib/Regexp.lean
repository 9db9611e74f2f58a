/-
# Boulder.Lib.Regexp -- the leftmost match of a bracketed capture

`regexp.FindStringSubmatch` for patterns of the shape `lit(cls+)close`, such as
`cert=\[([0-9a-f]+)\]`: a literal, one or more characters of a class, which are captured, and a
closing character outside the class. Go's matcher is leftmost-first: of the positions where a
match starts it takes the first, and there it prefers the longest run of the class. Because the
closing character is outside the class, at most one run can be followed by it, so a match at a
position is a function of the text from there on (`matchAt`), and the group is that of the
first position with a match (`findStringSubmatch`).

Text in which no match starts can be skipped (`findStringSubmatch_append`). Whether a match
starts in a stretch of text depends only on the stretch and on what follows it: `failsEarly`
decides it from a bounded look-ahead, which for a fixed text is a finite check, and
`noMatchIn_of_not_infix` covers text of unknown content that does not contain the literal.
This module names no program.
-/
import Mathlib.Data.List.Infix

namespace Boulder.Lib.Regexp

/-- A pattern `lit(cls+)close` whose closing character is outside the class. -/
structure Bracket where
  lit : List Char
  cls : Char → Bool
  close : Char
  close_not_cls : cls close = false

variable (b : Bracket)

/-- The group of the match that starts at the front of `cs`, if one does. -/
def matchAt (cs : List Char) : Option (List Char) :=
  if b.lit.isPrefixOf cs then
    let rest := cs.drop b.lit.length
    let run := rest.takeWhile b.cls
    if run ≠ [] ∧ (rest.drop run.length).head? = some b.close then some run else none
  else none

/-- `FindStringSubmatch`'s group: that of the match with the leftmost start. -/
def findStringSubmatch : List Char → Option (List Char)
  | [] => none
  | c :: cs =>
    match matchAt b (c :: cs) with
    | some run => some run
    | none => findStringSubmatch cs

/-- No match starts in the text `x` when `y` follows it. -/
def NoMatchIn (x y : List Char) : Prop :=
  ∀ i < x.length, matchAt b ((x ++ y).drop i) = none

/-- The first characters `w` already rule out a match here: they and the literal part ways, or
the literal is followed by a character outside the class. -/
def failsEarly (w : List Char) : Bool :=
  (!b.lit.isPrefixOf w && !w.isPrefixOf b.lit) ||
    (b.lit.isPrefixOf w && (w.drop b.lit.length).head?.any fun c => !b.cls c)

variable {b}

theorem matchAt_eq_none_of_not_prefix {cs : List Char} (h : ¬ b.lit <+: cs) : matchAt b cs = none := by
  rw [matchAt, if_neg (by rwa [List.isPrefixOf_iff_prefix])]

/-- The literal, a run of the class, and the closing character: a match, whose group is the
run. -/
theorem matchAt_lit_append {run : List Char} (hne : run ≠ []) (hrun : ∀ c ∈ run, b.cls c = true)
    (z : List Char) : matchAt b (b.lit ++ run ++ b.close :: z) = some run := by
  have hpre : b.lit.isPrefixOf (b.lit ++ run ++ b.close :: z) = true := by
    rw [List.isPrefixOf_iff_prefix, List.append_assoc]
    exact List.prefix_append _ _
  have hdrop : (b.lit ++ run ++ b.close :: z).drop b.lit.length = run ++ b.close :: z := by
    rw [List.append_assoc, List.drop_left]
  have htake : (run ++ b.close :: z).takeWhile b.cls = run := by
    rw [List.takeWhile_append_of_pos hrun, List.takeWhile_cons_of_neg (by simp [b.close_not_cls]),
      List.append_nil]
  rw [matchAt, if_pos hpre]
  simp [htake, hne]

theorem findStringSubmatch_cons_of_none {c : Char} {cs : List Char}
    (h : matchAt b (c :: cs) = none) : findStringSubmatch b (c :: cs) = findStringSubmatch b cs := by
  rw [findStringSubmatch, h]

theorem findStringSubmatch_of_matchAt {cs run : List Char} (h : matchAt b cs = some run) :
    findStringSubmatch b cs = some run := by
  cases cs with
  | nil =>
    rw [matchAt] at h
    split at h
    · simp at h
    · cases h
  | cons c cs => rw [findStringSubmatch, h]

/-- **Skipping.** Text in which no match starts does not change the leftmost match. -/
theorem findStringSubmatch_append {x y : List Char} (h : NoMatchIn b x y) :
    findStringSubmatch b (x ++ y) = findStringSubmatch b y := by
  induction x with
  | nil => rfl
  | cons c x ih =>
    have h0 : matchAt b (c :: (x ++ y)) = none := h 0 (by simp)
    rw [List.cons_append, findStringSubmatch_cons_of_none h0]
    exact ih fun i hi => h (i + 1) (by simp; omega)

/-- A stretch without a match followed by another: the two together have none. -/
theorem NoMatchIn.append {x₁ x₂ y : List Char} (h₁ : NoMatchIn b x₁ (x₂ ++ y))
    (h₂ : NoMatchIn b x₂ y) : NoMatchIn b (x₁ ++ x₂) y := by
  intro i hi
  by_cases hi₁ : i < x₁.length
  · rw [List.append_assoc]
    exact h₁ i hi₁
  · rw [List.length_append] at hi
    have hdrop : (x₁ ++ x₂ ++ y).drop i = (x₂ ++ y).drop (i - x₁.length) := by
      rw [List.append_assoc, List.drop_append, List.drop_eq_nil_of_le (by omega), List.nil_append]
    rw [hdrop]
    exact h₂ _ (by omega)

theorem NoMatchIn.nil (y : List Char) : NoMatchIn b [] y := fun _ hi => absurd hi (by simp)

/-- **Bounded look-ahead.** Text that starts with `w` has no match at its front when `w` fails
early. -/
theorem matchAt_append_of_failsEarly {w : List Char} (h : failsEarly b w = true) (z : List Char) :
    matchAt b (w ++ z) = none := by
  unfold failsEarly at h
  rcases Bool.or_eq_true_iff.mp h with h | h
  · simp only [Bool.and_eq_true, Bool.not_eq_true', ← Bool.not_eq_true,
      List.isPrefixOf_iff_prefix] at h
    apply matchAt_eq_none_of_not_prefix
    intro hpre
    rcases List.prefix_or_prefix_of_prefix hpre (List.prefix_append w z) with h' | h'
    · exact h.1 h'
    · exact h.2 h'
  · rw [Bool.and_eq_true, List.isPrefixOf_iff_prefix] at h
    obtain ⟨hpre, hany⟩ := h
    have hlen : b.lit.length ≤ w.length := hpre.length_le
    obtain ⟨c, t, ht, hcls⟩ : ∃ c t, w.drop b.lit.length = c :: t ∧ b.cls c = false := by
      cases hw : w.drop b.lit.length with
      | nil => rw [hw] at hany; simp at hany
      | cons c t =>
        rw [hw] at hany
        exact ⟨c, t, rfl, by simpa using hany⟩
    have hrest : (w ++ z).drop b.lit.length = c :: (t ++ z) := by
      rw [List.drop_append_of_le_length hlen, ht, List.cons_append]
    rw [matchAt, if_pos ((List.isPrefixOf_iff_prefix).mpr (hpre.trans (List.prefix_append w z)))]
    have htw : (c :: (t ++ z)).takeWhile b.cls = [] := List.takeWhile_cons_of_neg (by simp [hcls])
    simp only [hrest, htw]
    exact if_neg fun h => h.1 rfl

/-- **Text without the literal.** No match starts in `x`, which does not contain the literal,
when at each way `x` can end in a proper prefix of the literal, what follows rules the match
out. -/
theorem noMatchIn_of_not_infix {x y : List Char} (hx : ¬ b.lit <:+: x)
    (hy : ∀ j, 0 < j → j < b.lit.length → b.lit.take j <:+ x →
      matchAt b (b.lit.take j ++ y) = none) :
    NoMatchIn b x y := by
  intro i hi
  have hsuf : x.drop i <:+ x := List.drop_suffix i x
  have hne : x.drop i ≠ [] := by simp; omega
  rw [List.drop_append_of_le_length (by omega)]
  by_cases hpre : b.lit <+: x.drop i ++ y
  · rcases List.prefix_or_prefix_of_prefix hpre (List.prefix_append _ y) with h | h
    · exact absurd (h.isInfix.trans hsuf.isInfix) hx
    · have hlt : (x.drop i).length < b.lit.length := by
        rcases (h.length_le).lt_or_eq with hlt | heq
        · exact hlt
        · have heq' : x.drop i = b.lit := h.eq_of_length heq
          exact absurd (heq' ▸ hsuf.isInfix) hx
      have htake : b.lit.take (x.drop i).length = x.drop i :=
        (List.prefix_iff_eq_take.mp h).symm
      have hsuf' : b.lit.take (x.drop i).length <:+ x := by
        rw [htake]
        exact hsuf
      have := hy (x.drop i).length (List.length_pos_of_ne_nil hne) hlt hsuf'
      rwa [htake] at this
  · exact matchAt_eq_none_of_not_prefix hpre

/-- Text whose characters all pass `q` does not contain a literal with a character that fails
it. -/
theorem not_infix_of_forall {q : Char → Bool} {x : List Char} (hlit : b.lit.all q = false)
    (hx : ∀ c ∈ x, q c = true) : ¬ b.lit <:+: x := by
  intro hinf
  have hall : b.lit.all q = true := List.all_eq_true.mpr fun c hc => hx c (hinf.subset hc)
  rw [hall] at hlit
  cases hlit

/-- **Text of one class of characters.** No match starts in `x`, all of whose characters pass
`q`, when the literal has a character that fails `q` and each proper prefix of the literal that
passes `q` is ruled out by what follows. -/
theorem noMatchIn_of_forall {q : Char → Bool} {x y : List Char} (hlit : b.lit.all q = false)
    (hx : ∀ c ∈ x, q c = true)
    (hy : ∀ j, 0 < j → j < b.lit.length → (b.lit.take j).all q = true →
      matchAt b (b.lit.take j ++ y) = none) :
    NoMatchIn b x y :=
  noMatchIn_of_not_infix (not_infix_of_forall hlit hx)
    fun j hj hjl hsuf => hy j hj hjl (List.all_eq_true.mpr fun c hc => hx c (hsuf.subset hc))

/-- A fixed text that neither contains the literal nor ends in a proper prefix of it has no
match, whatever follows. -/
theorem noMatchIn_of_fixed {x y : List Char} (hx : ¬ b.lit <:+: x)
    (hend : ∀ j < b.lit.length, 0 < j → ¬ b.lit.take j <:+ x) : NoMatchIn b x y :=
  noMatchIn_of_not_infix hx fun j hj hjl hsuf => absurd hsuf (hend j hjl hj)

/-- Text without the literal, followed by `w`, against which every proper prefix of the
literal fails early. -/
theorem noMatchIn_of_not_infix_of_failsEarly {x w z : List Char} (hx : ¬ b.lit <:+: x)
    (hw : ∀ j < b.lit.length, 0 < j → failsEarly b (b.lit.take j ++ w) = true) :
    NoMatchIn b x (w ++ z) :=
  noMatchIn_of_not_infix hx fun j hj hjl _ => by
    rw [← List.append_assoc]
    exact matchAt_append_of_failsEarly (hw j hjl hj) z

/-- Text of one class of characters, followed by `w`, against which every proper prefix of the
literal in that class fails early. -/
theorem noMatchIn_of_forall_of_failsEarly {q : Char → Bool} {x w z : List Char}
    (hlit : b.lit.all q = false) (hx : ∀ c ∈ x, q c = true)
    (hw : ∀ j < b.lit.length, 0 < j → (b.lit.take j).all q = true →
      failsEarly b (b.lit.take j ++ w) = true) :
    NoMatchIn b x (w ++ z) :=
  noMatchIn_of_forall hlit hx fun j hj hjl hq => by
    rw [← List.append_assoc]
    exact matchAt_append_of_failsEarly (hw j hjl hj hq) z

end Boulder.Lib.Regexp
