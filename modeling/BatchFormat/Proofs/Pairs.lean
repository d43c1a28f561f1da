import Mathlib.Data.List.Basic

/-!
# Lists of names and values

A name says the first value beside it. Where each name stands once, that is the only one.
-/
namespace BatchFormat

variable {α β : Type} [BEq α] [LawfulBEq α] {key other : α} {value : β} {pairs : List (α × β)}

theorem lookup_cons_of_ne (h : other ≠ key) :
    ((key, value) :: pairs).lookup other = pairs.lookup other := by
  rw [List.lookup_cons, beq_false_of_ne h]

/-- Where no key occurs twice, a pair is found exactly if it is a member. -/
theorem lookup_eq_some_iff_mem (h : (pairs.map Prod.fst).Nodup) :
    pairs.lookup key = some value ↔ (key, value) ∈ pairs := by
  induction pairs with
  | nil => simp
  | cons pair pairs ih =>
    obtain ⟨k, v⟩ := pair
    rw [List.map_cons, List.nodup_cons] at h
    by_cases heq : key = k
    · subst heq
      have hnot : (key, value) ∉ pairs :=
        fun hmem => h.1 (List.mem_map.mpr ⟨(key, value), hmem, rfl⟩)
      simp [hnot, eq_comm]
    · simp [lookup_cons_of_ne heq, heq, ih h.2]

theorem lookup_isSome_iff_mem : (pairs.lookup key).isSome = true ↔ key ∈ pairs.map Prod.fst := by
  induction pairs with
  | nil => simp
  | cons pair pairs ih =>
    obtain ⟨k, v⟩ := pair
    by_cases heq : key = k
    · simp [heq]
    · simp only [lookup_cons_of_ne heq, ih, List.map_cons, List.mem_cons, heq, false_or]

/-- Where pairs are chosen by their names, a name says what it said, or nothing. -/
theorem lookup_filter_fst (keep : α → Bool) (other : α) (pairs : List (α × β)) :
    (pairs.filter fun pair => keep pair.1).lookup other =
      if keep other then pairs.lookup other else none := by
  induction pairs with
  | nil => simp
  | cons pair pairs ih =>
    obtain ⟨k, v⟩ := pair
    by_cases heq : other = k
    · subst heq
      cases hkeep : keep other <;> simp [hkeep, ih]
    · rw [lookup_cons_of_ne heq, ← ih]
      cases hkeep : keep k <;> simp [hkeep, lookup_cons_of_ne heq]

/-- Where no name stands twice, sorting by names puts them in strict order. -/
theorem pairwise_lt_mergeSort {γ : Type} {name : γ → String} {items : List γ}
    (h : (items.map name).Nodup) :
    (items.mergeSort fun a b => decide (name a ≤ name b)).Pairwise fun a b => name a < name b := by
  have hsorted : (items.mergeSort fun a b => decide (name a ≤ name b)).Pairwise
      fun a b => decide (name a ≤ name b) = true := by
    refine List.pairwise_mergeSort (fun a b c hab hbc => ?_) (fun a b => ?_) items
    · simpa using String.le_trans (by simpa using hab) (by simpa using hbc)
    · simpa using String.le_total _ _
  have hnodup := (((List.mergeSort_perm items fun a b => decide (name a ≤ name b)).map
    name).nodup_iff.mpr h)
  refine (hsorted.and (List.pairwise_map.mp hnodup)).imp ?_
  intro a b hab
  refine String.not_le.mp fun hle => hab.2 (String.le_antisymm ?_ hle)
  simpa using hab.1

end BatchFormat
