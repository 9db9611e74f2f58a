/-
# Boulder.Lib.Run -- runs of a step function and what they preserve

A component is modelled as a state type `σ`, a type `α` of requests, and a total step
`step : σ → α → σ × β` that answers a request and leaves a new state. A request that fails
answers with its error and leaves the state unchanged, so failure needs no case of its own
here. A run is a list of requests served one after another, in the order the component saw
them; an interleaving of several clients is just one such list.

This module names no particular component. It packages, once, the three rules every safety
argument below goes through: invariants (true at the start, kept by a step, hence true in
every reachable state), stable predicates (once true, true after any later run), and
monotone quantities (a preorder each step climbs is climbed by every run). A fourth rule covers
invariants that speak of the whole history of a run: of what every state it passed through
contributes (`final_heldDuring`).
-/
import Mathlib.Order.Basic

namespace Boulder.Lib.Run

variable {σ α β : Type*}

/-! ## Runs -/

/-- The state a run leaves: the requests are served left to right. -/
def final (step : σ → α → σ × β) (s : σ) : List α → σ
  | [] => s
  | a :: as => final step (step s a).1 as

/-- The answers a run gives, one per request, in order. -/
def replies (step : σ → α → σ × β) (s : σ) : List α → List β
  | [] => []
  | a :: as => (step s a).2 :: replies step (step s a).1 as

@[simp] theorem final_nil (step : σ → α → σ × β) (s : σ) : final step s [] = s := rfl

@[simp] theorem final_cons (step : σ → α → σ × β) (s : σ) (a : α) (as : List α) :
    final step s (a :: as) = final step (step s a).1 as := rfl

theorem final_append (step : σ → α → σ × β) (s : σ) (as bs : List α) :
    final step s (as ++ bs) = final step (final step s as) bs := by
  induction as generalizing s with
  | nil => rfl
  | cons a as ih => exact ih (step s a).1

@[simp] theorem replies_nil (step : σ → α → σ × β) (s : σ) : replies step s [] = [] := rfl

@[simp] theorem replies_cons (step : σ → α → σ × β) (s : σ) (a : α) (as : List α) :
    replies step s (a :: as) = (step s a).2 :: replies step (step s a).1 as := rfl

/-! ## Reachable states -/

/-- The states some run leads to from `init`. -/
def Reachable (step : σ → α → σ × β) (init : σ) (s : σ) : Prop :=
  ∃ as, final step init as = s

theorem Reachable.init (step : σ → α → σ × β) (init : σ) : Reachable step init init :=
  ⟨[], rfl⟩

theorem Reachable.run {step : σ → α → σ × β} {init s : σ} (h : Reachable step init s)
    (as : List α) : Reachable step init (final step s as) := by
  obtain ⟨pre, rfl⟩ := h
  exact ⟨pre ++ as, final_append step init pre as⟩

theorem Reachable.next {step : σ → α → σ × β} {init s : σ} (h : Reachable step init s)
    (a : α) : Reachable step init (step s a).1 :=
  h.run [a]

/-! ## Invariants, stable predicates, monotone quantities -/

section Rules

variable {step : σ → α → σ × β}

/-- A predicate kept by every step is kept by every run. -/
theorem final_of_step {P : σ → Prop} (hstep : ∀ s a, P s → P (step s a).1) :
    ∀ {s : σ} (as : List α), P s → P (final step s as) := by
  intro s as hs
  induction as generalizing s with
  | nil => exact hs
  | cons a as ih => exact ih (hstep s a hs)

/-- **Invariant rule.** True initially and kept by every step: true in every reachable state. -/
theorem Reachable.invariant {init s : σ} {Inv : σ → Prop} (hinit : Inv init)
    (hstep : ∀ s a, Inv s → Inv (step s a).1) (h : Reachable step init s) : Inv s := by
  obtain ⟨as, rfl⟩ := h
  exact final_of_step hstep as hinit

/-- **Stability under an invariant.** If every step from a state satisfying `Inv` keeps `P`,
then once `P` holds in a reachable state it holds after any later run. -/
theorem Reachable.stable {init s : σ} {Inv P : σ → Prop} (hinit : Inv init)
    (hinv : ∀ s a, Inv s → Inv (step s a).1)
    (hP : ∀ s a, Inv s → P s → P (step s a).1)
    (h : Reachable step init s) (hs : P s) (as : List α) : P (final step s as) := by
  have hI : Inv s := h.invariant hinit hinv
  have hkeep := final_of_step (P := fun t => Inv t ∧ P t)
    (fun t a ht => ⟨hinv t a ht.1, hP t a ht.1 ht.2⟩) as ⟨hI, hs⟩
  exact hkeep.2

/-- **Monotone quantities.** A reflexive and transitive relation that every step from a state
satisfying `Inv` climbs is climbed by every run from such a state. -/
theorem final_climbs {Inv : σ → Prop} {R : σ → σ → Prop} (hrefl : ∀ s, R s s)
    (htrans : ∀ s t u, R s t → R t u → R s u)
    (hinv : ∀ s a, Inv s → Inv (step s a).1) (hstep : ∀ s a, Inv s → R s (step s a).1) :
    ∀ {s : σ} (as : List α), Inv s → R s (final step s as) := by
  intro s as hs
  induction as generalizing s with
  | nil => exact hrefl s
  | cons a as ih => exact htrans _ _ _ (hstep s a hs) (ih (hinv s a hs))

end Rules

/-! ## What the states of a run contribute -/

section History

variable {κ : Type*} {step : σ → α → σ × β}

/-- The states a run passes through, from the first to the last. -/
def visited (step : σ → α → σ × β) (s : σ) : List α → List σ
  | [] => [s]
  | a :: as => s :: visited step (step s a).1 as

@[simp] theorem visited_nil (s : σ) : visited step s [] = [s] := rfl

@[simp] theorem visited_cons (s : σ) (a : α) (as : List α) :
    visited step s (a :: as) = s :: visited step (step s a).1 as := rfl

/-- What the states a run visits contribute together. -/
def heldDuring (step : σ → α → σ × β) (H : σ → κ → Prop) (s : σ) (as : List α) : κ → Prop :=
  fun x => ∃ t ∈ visited step s as, H t x

/-- **Invariants over a run's history.** If every step from a state whose contribution `H` lies
within `K` keeps `Inv K`, then `Inv K` is kept by every run all of whose states contribute within
`K`. -/
theorem final_within {H : σ → κ → Prop} {Inv : (κ → Prop) → σ → Prop} {K : κ → Prop}
    (hstep : ∀ s a, (∀ x, H s x → K x) → Inv K s → Inv K (step s a).1) :
    ∀ {s : σ} (as : List α), (∀ t ∈ visited step s as, ∀ x, H t x → K x) → Inv K s →
      Inv K (final step s as) := by
  intro s as hH hs
  induction as generalizing s with
  | nil => exact hs
  | cons a as ih =>
    have hhead : ∀ x, H s x → K x := hH s List.mem_cons_self
    exact ih (fun t ht => hH t (List.mem_cons_of_mem _ ht)) (hstep s a hhead hs)

/-- **History invariant rule.** An invariant that holds initially whatever `K` is, and that every
step keeps while the state's contribution lies within `K`, holds at the end of every run for
what that run's states contribute. -/
theorem final_heldDuring {H : σ → κ → Prop} {Inv : (κ → Prop) → σ → Prop} {s : σ}
    (hinit : ∀ K, Inv K s)
    (hstep : ∀ K s a, (∀ x, H s x → K x) → Inv K s → Inv K (step s a).1) (as : List α) :
    Inv (heldDuring step H s as) (final step s as) :=
  final_within (hstep _) as (fun t ht _ hx => ⟨t, ht, hx⟩) (hinit _)

end History

end Boulder.Lib.Run
