/-
# Boulder.Lib.Loop -- loops that may return early

A Go loop whose body can `return nil, err` is a left fold in the `Except` monad: each pass
maps the loop variables to new ones or stops the whole loop with an error. This module names
no particular loop. Besides `DecidableEq` for results and the rule for a check that returns
early, it gives the two evaluation rules for one pass (the loop goes on, or it stops), the rule
that makes nested loops one loop, the rules for a loop of checks and for a loop of conversions,
and the totality rule that says when a loop runs to its end.

Two loops never stop early, and a plain left fold is their model. A loop that keeps a set of
the values it has seen beside its output slice, and appends a value only when the set lacks it,
keeps the first of each value in the order they first occur (`foldl_keepNew`): the set and the
slice hold the same values, so the model tests the slice. A loop whose body assigns its
accumulator without reading it leaves what the last pass assigned (`foldl_overwrite`). A loop
over the first indices of a slice that rewrites the element at each index rewrites exactly those
elements (`foldl_modify_range`).
-/
import Mathlib.Data.List.Basic
import Mathlib.Data.List.Induction

namespace Boulder.Lib.Loop

variable {ε σ α β : Type}

/-! ## Evaluation -/

/-- Results are compared constructor by constructor, so that a computed result can be checked
by `decide`. -/
instance instDecidableEqExcept [DecidableEq ε] [DecidableEq α] : DecidableEq (Except ε α)
  | .ok a, .ok b => if h : a = b then isTrue (h ▸ rfl) else isFalse fun e => h (by cases e; rfl)
  | .error a, .error b =>
    if h : a = b then isTrue (h ▸ rfl) else isFalse fun e => h (by cases e; rfl)
  | .ok _, .error _ => isFalse fun e => by cases e
  | .error _, .ok _ => isFalse fun e => by cases e

@[simp] theorem ok_bind (a : α) (f : α → Except ε β) : (Except.ok a >>= f) = f a := rfl

@[simp] theorem error_bind (e : ε) (f : α → Except ε β) :
    (Except.error e >>= f : Except ε β) = .error e := rfl

@[simp] theorem toOption_ok (a : α) : (Except.ok a : Except ε α).toOption = some a := rfl

@[simp] theorem toOption_error (e : ε) : (Except.error e : Except ε α).toOption = none := rfl

@[simp] theorem isOk_ok (a : α) : (Except.ok a : Except ε α).isOk = true := rfl

@[simp] theorem isOk_error (e : ε) : (Except.error e : Except ε α).isOk = false := rfl

/-- A check that returns only an error succeeds exactly when it returns nil. -/
theorem isOk_eq_true_iff {x : Except ε Unit} : x.isOk = true ↔ x = .ok () := by
  cases x <;> simp

/-- A check that returns early succeeds exactly when its condition fails and the rest
succeeds. -/
theorem ite_error_eq_ok {c : Prop} [Decidable c] {e : ε} {x : Except ε α} {a : α} :
    (if c then .error e else x) = .ok a ↔ ¬ c ∧ x = .ok a := by
  by_cases hc : c <;> simp [hc]

/-- A computation followed by another ran to its end when both did. -/
theorem bind_eq_ok {x : Except ε α} {f : α → Except ε β} {b : β} :
    (x >>= f) = .ok b ↔ ∃ a, x = .ok a ∧ f a = .ok b := by
  cases x <;> simp

section Fold

variable {f : σ → α → Except ε σ}

/-- A pass that goes on hands its variables to the rest of the loop. -/
theorem foldlM_cons_of_ok {s s' : σ} {a : α} (h : f s a = .ok s') (as : List α) :
    (a :: as).foldlM f s = as.foldlM f s' := by
  simp [h]

/-- A pass that stops ends the loop with its error. -/
theorem foldlM_cons_of_error {s : σ} {a : α} {e : ε} (h : f s a = .error e) (as : List α) :
    (a :: as).foldlM f s = .error e := by
  simp [h]

/-- A loop that ran to its end went through its first pass. -/
theorem foldlM_cons_eq_ok {s t : σ} {a : α} {as : List α} :
    (a :: as).foldlM f s = .ok t ↔ ∃ s', f s a = .ok s' ∧ as.foldlM f s' = .ok t := by
  cases h : f s a with
  | error e => simp [foldlM_cons_of_error h]
  | ok s' => simp [foldlM_cons_of_ok h]

/-- Nested loops over a list of lists are one loop over their concatenation. -/
theorem foldlM_flatten (xss : List (List α)) (s : σ) :
    xss.flatten.foldlM f s = xss.foldlM (fun s xs => xs.foldlM f s) s := by
  induction xss generalizing s with
  | nil => rfl
  | cons xs xss ih => simp [List.foldlM_append, ih]

/-- A loop that only checks each element succeeds when every check does. -/
theorem forM_eq_ok {as : List α} {g : α → Except ε Unit} :
    as.forM g = .ok () ↔ ∀ a ∈ as, g a = .ok () := by
  induction as with
  | nil => simp only [List.not_mem_nil, false_imp_iff, imp_true_iff, iff_true]; rfl
  | cons a as ih =>
    show (g a >>= fun _ => as.forM g) = .ok () ↔ _
    cases h : g a with
    | error e => simp [h]
    | ok u =>
      rw [ok_bind]
      simp only [List.mem_cons, forall_eq_or_imp, h, true_and]
      exact ih

/-- A loop that converts each element into a fresh slice, stopping at the first error: when
every conversion succeeds it gives the converted elements in order. -/
theorem mapM_eq_ok_map {as : List α} {g : α → Except ε β} {h : α → β}
    (hg : ∀ a ∈ as, g a = .ok (h a)) : as.mapM g = .ok (as.map h) := by
  induction as with
  | nil => rfl
  | cons a as ih =>
    rw [List.mapM_cons, hg a List.mem_cons_self, ok_bind,
      ih fun b hb => hg b (List.mem_cons_of_mem a hb)]
    rfl

/-- A conversion whose every result the converse loop reads back: the two loops compose, the
second reading what the first wrote, each element through `k` (a pointer to it, say). -/
theorem mapM_map_roundTrip {γ δ : Type} {as : List α} {f : α → Except ε β} {k : β → δ}
    {g : δ → Except ε γ} {h : α → γ} (hfg : ∀ a ∈ as, ∃ b, f a = .ok b ∧ g (k b) = .ok (h a)) :
    ∃ bs, as.mapM f = .ok bs ∧ (bs.map k).mapM g = .ok (as.map h) ∧ bs.length = as.length := by
  induction as with
  | nil => exact ⟨[], rfl, rfl, rfl⟩
  | cons a as ih =>
    obtain ⟨b, hb, hgb⟩ := hfg a List.mem_cons_self
    obtain ⟨bs, hbs, hg, hlen⟩ := ih fun x hx => hfg x (List.mem_cons_of_mem a hx)
    refine ⟨b :: bs, ?_, ?_, by rw [List.length_cons, List.length_cons, hlen]⟩
    · rw [List.mapM_cons, hb, ok_bind, hbs]
      rfl
    · rw [List.map_cons, List.mapM_cons, hgb, ok_bind, hg]
      rfl

/-- A conversion loop whose body checks each element before converting it ran to its end only
if every check passed, and then it converted every element. -/
theorem mapM_check_eq_ok {p : α → Bool} {g : α → β} {e : ε} :
    ∀ {as : List α} {bs : List β},
      as.mapM (fun a => (if p a then .ok (g a) else .error e : Except ε β)) = .ok bs →
        (∀ a ∈ as, p a = true) ∧ bs = as.map g
  | [], bs, h => by
    rw [List.mapM_nil] at h
    cases h
    exact ⟨by simp, rfl⟩
  | a :: as, bs, h => by
    rw [List.mapM_cons] at h
    by_cases hp : p a
    · rw [if_pos hp, ok_bind, bind_eq_ok] at h
      obtain ⟨bs', hrest, hbs⟩ := h
      obtain ⟨hall, rfl⟩ := mapM_check_eq_ok hrest
      refine ⟨fun x hx => ?_, ?_⟩
      · rcases List.mem_cons.mp hx with rfl | hx
        · exact hp
        · exact hall x hx
      · cases hbs
        rfl
    · rw [if_neg hp, error_bind] at h
      cases h

/-! ## Rules -/

/-- **Totality rule.** If every pass from a state satisfying `P` goes on to such a state, the
loop runs to its end. -/
theorem foldlM_total {as : List α} {P : σ → Prop}
    (hstep : ∀ s a, a ∈ as → P s → ∃ s', f s a = .ok s' ∧ P s') :
    ∀ {s : σ}, P s → ∃ t, as.foldlM f s = .ok t ∧ P t := by
  induction as with
  | nil =>
    intro s hs
    exact ⟨s, rfl, hs⟩
  | cons a as ih =>
    intro s hs
    obtain ⟨s', hs', hP⟩ := hstep s a List.mem_cons_self hs
    obtain ⟨t, ht, hPt⟩ := ih (fun u b hb => hstep u b (List.mem_cons_of_mem a hb)) hP
    exact ⟨t, (foldlM_cons_of_ok hs' as).trans ht, hPt⟩

end Fold

/-! ## Loops that never stop early -/

section FirstSeen

variable [DecidableEq α]

/-- One pass of the loop that keeps the first of each value: a value it holds is skipped. -/
def keepNew (kept : List α) (a : α) : List α :=
  if a ∈ kept then kept else kept ++ [a]

/-- **The first-seen loop.** After any input the loop holds each value of the input, and holds
them in the order of their first occurrence there. The induction adds one value at the end of
the input; a value already met keeps its first position in the longer input. -/
theorem foldl_keepNew (l : List α) :
    (∀ x, x ∈ l.foldl keepNew [] ↔ x ∈ l) ∧
      (l.foldl keepNew []).Pairwise (fun x y => l.idxOf x < l.idxOf y) := by
  induction l using List.reverseRecOn with
  | nil => simp
  | append_singleton l a ih =>
    obtain ⟨hmem, hord⟩ := ih
    rw [List.foldl_append, List.foldl_cons, List.foldl_nil]
    have hidx : ∀ x ∈ l, (l ++ [a]).idxOf x = l.idxOf x := fun x hx =>
      List.idxOf_append_of_mem hx
    have hkept : (l.foldl keepNew []).Pairwise (fun x y => (l ++ [a]).idxOf x < (l ++ [a]).idxOf y) := by
      refine hord.imp_of_mem fun hx hy hxy => ?_
      rwa [hidx _ ((hmem _).mp hx), hidx _ ((hmem _).mp hy)]
    by_cases ha : a ∈ l.foldl keepNew []
    · rw [keepNew, if_pos ha]
      refine ⟨fun x => ?_, hkept⟩
      rw [hmem, List.mem_append, List.mem_singleton]
      constructor
      · exact Or.inl
      · rintro (hx | rfl)
        · exact hx
        · exact (hmem _).mp ha
    · have hal : a ∉ l := fun h => ha ((hmem a).mpr h)
      rw [keepNew, if_neg ha]
      refine ⟨fun x => by simp [hmem], List.pairwise_append.mpr ⟨hkept, by simp, ?_⟩⟩
      intro x hx y hy
      rw [List.mem_singleton.mp hy, hidx x ((hmem x).mp hx), List.idxOf_append_of_notMem hal]
      have hlt : l.idxOf x < l.length := List.idxOf_lt_length_of_mem ((hmem x).mp hx)
      omega

/-- The loop keeps no value twice. -/
theorem nodup_foldl_keepNew (l : List α) : (l.foldl keepNew []).Nodup :=
  (foldl_keepNew l).2.imp fun hxy heq => by rw [heq] at hxy; exact Nat.lt_irrefl _ hxy

end FirstSeen

/-- **The overwriting loop.** A body that assigns its accumulator without reading it leaves
the value of the last pass, and the initial value when there was none. -/
theorem foldl_overwrite (g : α → σ) (init : σ) (l : List α) :
    l.foldl (fun _ a => g a) init = (l.getLast?.map g).getD init := by
  induction l using List.reverseRecOn with
  | nil => rfl
  | append_singleton l a _ => simp

/-- **The rewriting loop.** `for i := range xs[:n] { xs[i] = f(xs[i]) }` rewrites the first `n`
elements and keeps the others. -/
theorem foldl_modify_range (f : α → α) (l : List α) :
    ∀ n, n ≤ l.length → (List.range n).foldl (fun xs i => xs.modify i f) l =
      l.mapIdx fun i x => if i < n then f x else x
  | 0, _ => by
    apply List.ext_getElem (by simp)
    intro j _ _
    simp
  | n + 1, hn => by
    rw [List.range_succ, List.foldl_append, List.foldl_cons, List.foldl_nil,
      foldl_modify_range f l n (by omega)]
    apply List.ext_getElem (by simp)
    intro j hj _
    rw [List.getElem_modify, List.getElem_mapIdx, List.getElem_mapIdx]
    by_cases hjn : n = j
    · subst hjn
      simp
    · have hiff : j < n ↔ j < n + 1 := by omega
      simp only [hjn, if_false, hiff]

end Boulder.Lib.Loop
