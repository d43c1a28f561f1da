import Mathlib.Data.List.Lex
import Mathlib.Data.List.Nodup
import BatchFormat.Proofs.Pairs
import BatchFormat.Settings

/-!
# Maps of texts

The value that counts for a name is the last one put in. A name that has none gets one filled in,
and no other is touched.
-/
namespace BatchFormat

variable {key other value : String} {values : Values} {pairs : List (String × String)}

namespace Values

/-! ## Putting values in -/

/-- To set a key changes the value of that key only. -/
theorem get?_put (values : Values) (key value other : String) :
    (values.put key value).get? other = if other = key then some value else values.get? other := by
  unfold get?
  induction values with
  | nil =>
    rw [put, List.lookup_cons]
    split <;> simp_all
  | cons pair rest ih =>
    obtain ⟨name, old⟩ := pair
    rw [put]
    by_cases hsame : name = key
    · subst hsame
      rw [if_pos rfl]
      by_cases hother : other = name
      · simp [hother]
      · rw [lookup_cons_of_ne hother, lookup_cons_of_ne hother, if_neg hother]
    · rw [if_neg hsame]
      by_cases hother : other = name
      · subst hother
        rw [List.lookup_cons_self, List.lookup_cons_self, if_neg hsame]
      · rw [lookup_cons_of_ne hother, lookup_cons_of_ne hother, ih]

/-- A key that is set anew keeps its position, and a new one comes last. -/
theorem keys_put (values : Values) (key value : String) :
    (values.put key value).map Prod.fst =
      if key ∈ values.map Prod.fst then values.map Prod.fst
      else values.map Prod.fst ++ [key] := by
  induction values with
  | nil => rfl
  | cons pair rest ih =>
    obtain ⟨name, old⟩ := pair
    rw [put]
    by_cases hsame : name = key
    · simp [hsame]
    · rw [if_neg hsame, List.map_cons, List.map_cons, ih]
      simp only [List.mem_cons, Ne.symm hsame, false_or]
      split <;> rfl

/-- A name that is added once is there once. -/
theorem nodup_add {names : List String} (h : names.Nodup) :
    (if key ∈ names then names else names ++ [key]).Nodup := by
  split
  · exact h
  · next hnew =>
    rw [← List.concat_eq_append]
    exact List.Nodup.concat hnew h

theorem nodup_put (h : (values.map Prod.fst).Nodup) (key value : String) :
    ((values.put key value).map Prod.fst).Nodup := by
  rw [keys_put]
  exact nodup_add h

theorem nodup_ofList (pairs : List (String × String)) : ((ofList pairs).map Prod.fst).Nodup :=
  List.foldlRecOn (motive := fun values : Values => (values.map Prod.fst).Nodup) pairs _
    List.nodup_nil fun _ h _ _ => nodup_put h _ _

/-- The last value for a name counts. -/
theorem get?_ofList (pairs : List (String × String)) (key : String) :
    (ofList pairs).get? key = pairs.reverse.lookup key := by
  have hfold : ∀ values : Values,
      (pairs.foldl (fun values pair => put values pair.1 pair.2) values).get? key =
        (pairs.reverse.lookup key).or (values.get? key) := by
    induction pairs with
    | nil => exact fun _ => rfl
    | cons pair rest ih =>
      intro values
      rw [List.foldl_cons, ih, get?_put, List.reverse_cons, List.lookup_append, Option.or_assoc]
      congr 1
      by_cases hsame : key = pair.1
      · rw [if_pos hsame, hsame, List.lookup_cons_self]
        rfl
      · rw [if_neg hsame, lookup_cons_of_ne hsame]
        rfl
  rw [ofList, hfold]
  exact Option.or_none

theorem mem_keys_ofList : key ∈ (ofList pairs).map Prod.fst ↔ key ∈ pairs.map Prod.fst := by
  have hget := get?_ofList pairs key
  unfold get? at hget
  rw [← lookup_isSome_iff_mem, hget, lookup_isSome_iff_mem, List.map_reverse, List.mem_reverse]

/-! ## Values for names that have none -/

theorem putMissing_eq (values : Values) (key value : String) :
    values.putMissing key value =
      if key ∈ values.map Prod.fst then values else values ++ [(key, value)] := by
  unfold putMissing get?
  simp only [lookup_isSome_iff_mem]

def fill (values : Values) (pairs : List (String × String)) : Values :=
  pairs.foldl (fun values pair => values.putMissing pair.1 pair.2) values

/-- A value is set only where its key has none. -/
theorem get?_putMissing (values : Values) (key value other : String) :
    (values.putMissing key value).get? other =
      (values.get? other).or ([(key, value)].lookup other) := by
  rw [putMissing_eq]
  split
  · next hmem =>
    by_cases hsame : other = key
    · subst hsame
      obtain ⟨old, hold⟩ := Option.isSome_iff_exists.mp (lookup_isSome_iff_mem.mpr hmem)
      rw [get?, hold, Option.some_or]
    · rw [lookup_cons_of_ne hsame]
      exact Option.or_none.symm
  · exact List.lookup_append

theorem get?_fill (values : Values) (pairs : List (String × String)) (key : String) :
    (values.fill pairs).get? key = (values.get? key).or (pairs.lookup key) := by
  induction pairs generalizing values with
  | nil => exact Option.or_none.symm
  | cons pair rest ih =>
    rw [fill, List.foldl_cons, ← fill, ih, get?_putMissing, Option.or_assoc, ← List.lookup_append,
      List.singleton_append]

theorem keys_putMissing (values : Values) (key value : String) :
    (values.putMissing key value).map Prod.fst =
      if key ∈ values.map Prod.fst then values.map Prod.fst
      else values.map Prod.fst ++ [key] := by
  rw [putMissing_eq]
  split
  · rfl
  · exact List.map_append

theorem nodup_putMissing (h : (values.map Prod.fst).Nodup) (key value : String) :
    ((values.putMissing key value).map Prod.fst).Nodup := by
  rw [keys_putMissing]
  exact nodup_add h

theorem nodup_fill (h : (values.map Prod.fst).Nodup) (pairs : List (String × String)) :
    ((values.fill pairs).map Prod.fst).Nodup :=
  List.foldlRecOn (motive := fun values : Values => (values.map Prod.fst).Nodup) pairs _ h
    fun _ h _ _ => nodup_putMissing h _ _

/-- Each name that is new is counted once. -/
theorem length_fill (values : Values) (h : (pairs.map Prod.fst).Nodup) :
    (values.fill pairs).length =
      values.length + (pairs.filter fun pair => pair.1 ∉ values.map Prod.fst).length := by
  induction pairs generalizing values with
  | nil => rfl
  | cons pair rest ih =>
    rw [List.map_cons, List.nodup_cons] at h
    rw [fill, List.foldl_cons, ← fill, ih _ h.2, putMissing_eq, List.filter_cons]
    by_cases hmem : pair.1 ∈ values.map Prod.fst
    · rw [if_pos hmem, if_neg (by simpa using hmem)]
    · have hrest : rest.filter (fun other => other.1 ∉ (values ++ [(pair.1, pair.2)]).map Prod.fst) =
          rest.filter fun other => other.1 ∉ values.map Prod.fst := by
        refine List.filter_congr fun other hother => ?_
        have hne : other.1 ≠ pair.1 := fun heq => h.1 (heq ▸ List.mem_map_of_mem hother)
        simp [hne]
      rw [if_neg hmem, if_pos (by simpa using hmem), hrest, List.length_append, List.length_cons,
        List.length_cons, List.length_nil]
      omega

end Values

/-- Where pairs stand at increasing positions, the last one with a name is that at the greatest. -/
theorem lookup_reverse_iff {γ : Type} {pair : γ → String × String} {position : γ → List Nat}
    {items : List γ} (h : items.Pairwise fun a b => position a < position b) :
    (items.map pair).reverse.lookup key = some value ↔
      ∃ a ∈ items, pair a = (key, value) ∧
        ∀ b ∈ items, (pair b).1 = key → position b ≤ position a := by
  induction items with
  | nil => simp
  | cons x items ih =>
    obtain ⟨hfirst, hrest⟩ := List.pairwise_cons.mp h
    rw [List.map_cons, List.reverse_cons, List.lookup_append, Option.or_eq_some_iff, ih hrest]
    constructor
    · rintro (⟨a, ha, hpair, hlast⟩ | ⟨hnone, hx⟩)
      · refine ⟨a, List.mem_cons_of_mem x ha, hpair, fun b hb hkey => ?_⟩
        rcases List.mem_cons.mp hb with rfl | hb
        · exact le_of_lt (hfirst a ha)
        · exact hlast b hb hkey
      · have hpair : pair x = (key, value) :=
          (List.mem_singleton.mp ((lookup_eq_some_iff_mem (by simp)).mp hx)).symm
        refine ⟨x, List.mem_cons_self, hpair, fun b hb hkey => ?_⟩
        rcases List.mem_cons.mp hb with rfl | hb
        · exact le_refl _
        · have hsome : ((items.map pair).reverse.lookup key).isSome = true :=
            lookup_isSome_iff_mem.mpr (by simpa using ⟨b, hb, hkey⟩)
          rw [hnone] at hsome
          cases hsome
    · rintro ⟨a, ha, hpair, hlast⟩
      rcases List.mem_cons.mp ha with rfl | ha
      · refine Or.inr ⟨?_, by rw [hpair, List.lookup_cons_self]⟩
        rw [← Option.not_isSome_iff_eq_none, lookup_isSome_iff_mem]
        intro hmem
        obtain ⟨b, hb, hkey⟩ : ∃ b ∈ items, (pair b).1 = key := by simpa using hmem
        exact Std.not_le.mpr (hfirst b hb) (hlast b (List.mem_cons_of_mem _ hb) hkey)
      · exact Or.inl ⟨a, ha, hpair, fun b hb => hlast b (List.mem_cons_of_mem x hb)⟩

end BatchFormat
