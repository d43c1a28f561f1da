import BatchFormat.Tree.Basic

/-!
# Entries under change

What putting and erasing an entry means for every place of a tree. An entry that was added and is
erased again leaves no trace, and putting one where another stood keeps every place as it is. The
shape of a tree is what is left of it when all its files are emptied.
-/
namespace BatchFormat

def Entry.blank : Entry → Entry
  | .file _ mode => .file [] mode
  | entry => entry

namespace Tree

def shape (t : Tree) : Tree := ⟨t.entries.map fun e => (e.1, e.2.blank)⟩

def places (t : Tree) : List Location := t.entries.map Prod.fst

variable {t : Tree} {place other : Location} {entry old : Entry}
  {entries after : List (Location × Entry)}

/-- Whether a place is there does not depend on what is put. -/
theorem putIn_eq_none_iff (entry : Entry) :
    putIn place entry entries = none ↔ entries.lookup place = none := by
  induction entries with
  | nil => simp [putIn]
  | cons head rest ih =>
    obtain ⟨key, value⟩ := head
    by_cases heq : key = place
    · simp [putIn, heq]
    · simp [putIn, heq, List.lookup_cons, beq_false_of_ne (Ne.symm heq), ih]

/-- Putting an entry in the place of another changes what stands there, and nowhere else. -/
theorem lookup_of_putIn (h : putIn place entry entries = some after) (other : Location) :
    after.lookup other = if other = place then some entry else entries.lookup other := by
  induction entries generalizing after with
  | nil => cases h
  | cons head rest ih =>
    obtain ⟨key, value⟩ := head
    simp only [putIn] at h
    split at h
    · next heq =>
      subst heq
      cases h
      by_cases ho : other = key
      · simp [ho]
      · simp [List.lookup_cons, ho, beq_false_of_ne ho]
    · next hne =>
      obtain ⟨tail, htail, rfl⟩ := Option.map_eq_some_iff.mp h
      by_cases ho : other = key
      · subst ho
        simp [hne]
      · simp [List.lookup_cons, beq_false_of_ne ho, ih htail]

theorem map_fst_of_putIn (h : putIn place entry entries = some after) :
    after.map Prod.fst = entries.map Prod.fst := by
  induction entries generalizing after with
  | nil => cases h
  | cons head rest ih =>
    simp only [putIn] at h
    split at h
    · next heq =>
      cases h
      simp [heq]
    · obtain ⟨tail, htail, rfl⟩ := Option.map_eq_some_iff.mp h
      simp [ih htail]

theorem putIn_putIn (h : putIn place old entries = some after) :
    putIn place entry after = putIn place entry entries := by
  induction entries generalizing after with
  | nil => cases h
  | cons head rest ih =>
    simp only [putIn] at h
    split at h
    · next heq =>
      cases h
      simp [putIn, heq]
    · next hne =>
      obtain ⟨tail, htail, rfl⟩ := Option.map_eq_some_iff.mp h
      simp [putIn, hne, ih htail]

theorem putIn_append (h : putIn place old entries = none) :
    putIn place entry (entries ++ [(place, old)]) = some (entries ++ [(place, entry)]) := by
  induction entries with
  | nil => simp [putIn]
  | cons head rest ih =>
    simp only [putIn] at h
    split at h
    · cases h
    · next hne => simp [putIn, hne, ih (Option.map_eq_none_iff.mp h)]

theorem get?_eq_lookup (h : place ≠ []) : t.get? place = t.entries.lookup place := if_neg h

/-- What stands in a place is one of the entries, but for the directory at the top. -/
theorem mem_entries (hget : t.get? place = some entry) :
    (place = [] ∧ entry = .dir 0o755) ∨ (place, entry) ∈ t.entries := by
  by_cases htop : place = []
  · subst htop
    cases hget
    exact Or.inl ⟨rfl, rfl⟩
  · rw [get?_eq_lookup htop] at hget
    obtain ⟨before, after, hentries, -⟩ := List.lookup_eq_some_iff.mp hget
    exact Or.inr (by simp [hentries])

theorem mem_places (hget : t.get? place = some entry) : place = [] ∨ place ∈ t.places :=
  (mem_entries hget).imp And.left fun hmem => List.mem_map_of_mem hmem

theorem get?_put_self (h : place ≠ []) : (t.put place entry).get? place = some entry := by
  rw [get?_eq_lookup h]
  cases hput : putIn place entry t.entries with
  | none =>
    have hnone := (putIn_eq_none_iff entry).mp hput
    simp [put, hput, List.lookup_append, hnone]
  | some after => simp [put, hput, lookup_of_putIn hput]

/-- Putting an entry is seen at its own place only. -/
theorem get?_put_of_ne (h : other ≠ place) : (t.put place entry).get? other = t.get? other := by
  unfold get?
  split
  · rfl
  · cases hput : putIn place entry t.entries with
    | none => simp [put, hput, List.lookup_append, List.lookup_cons, beq_false_of_ne h]
    | some after => simp [put, hput, lookup_of_putIn hput, h]

theorem places_put (h : place ≠ []) (hold : t.get? place = some old) :
    (t.put place entry).places = t.places := by
  rw [get?_eq_lookup h] at hold
  cases hput : putIn place entry t.entries with
  | none => simp [(putIn_eq_none_iff entry).mp hput] at hold
  | some after => simpa [places, put, hput] using map_fst_of_putIn hput

/-- Putting an entry keeps no place twice. -/
theorem nodup_places_put (h : t.places.Nodup) : (t.put place entry).places.Nodup := by
  cases hput : putIn place entry t.entries with
  | some after => simpa [places, put, hput, map_fst_of_putIn hput] using h
  | none =>
    have hnone := List.lookup_eq_none_iff.mp ((putIn_eq_none_iff entry).mp hput)
    have hfresh : place ∉ t.places := fun hmem => by
      obtain ⟨found, hfound, rfl⟩ := List.mem_map.mp hmem
      exact absurd (hnone found hfound) (by simp)
    have hplaces : (t.put place entry).places = t.places ++ [place] := by simp [places, put, hput]
    rw [hplaces]
    exact List.nodup_append.mpr ⟨h, List.pairwise_singleton _ _, fun _ hold _ hnew heq =>
      hfresh (List.mem_singleton.mp hnew ▸ heq ▸ hold)⟩

theorem put_put : (t.put place old).put place entry = t.put place entry := by
  cases hput : putIn place old t.entries with
  | none =>
    have hentry : putIn place entry t.entries = none :=
      (putIn_eq_none_iff entry).mpr ((putIn_eq_none_iff old).mp hput)
    simp [put, hput, hentry, putIn_append hput]
  | some after =>
    have hsome : putIn place entry t.entries ≠ none := by
      rw [Ne, putIn_eq_none_iff, ← putIn_eq_none_iff old, hput]
      simp
    obtain ⟨final, hfinal⟩ := Option.ne_none_iff_exists'.mp hsome
    simp [put, hput, putIn_putIn hput, hfinal]

theorem erase_of_free (h : place ≠ []) (hfree : t.get? place = none) : t.erase place = t := by
  rw [get?_eq_lookup h] at hfree
  have hkeep : t.entries.filter (fun e => e.1 != place) = t.entries :=
    List.filter_eq_self.mpr fun e he => by
      simpa using bne_comm.trans (List.lookup_eq_none_iff.mp hfree e he)
  simp [erase, hkeep]

/-- What was not there and is put and erased again leaves no trace. -/
theorem erase_put (h : place ≠ []) (hfree : t.get? place = none) :
    (t.put place entry).erase place = t := by
  have hput : putIn place entry t.entries = none := by
    rwa [putIn_eq_none_iff, ← get?_eq_lookup h]
  have hkeep := congrArg Tree.entries (erase_of_free h hfree)
  simp only [erase] at hkeep
  simp [put, erase, hput, List.filter_append, hkeep]

@[simp] theorem places_shape : t.shape.places = t.places := by
  simp [places, shape, Function.comp_def]

/-- The shape of a tree is the tree with its texts blanked. -/
theorem get?_shape : t.shape.get? place = (t.get? place).map Entry.blank := by
  unfold get?
  split
  · rfl
  · simp only [shape]
    induction t.entries with
    | nil => rfl
    | cons head rest ih =>
      obtain ⟨key, value⟩ := head
      by_cases heq : place = key
      · simp [heq]
      · simpa [List.lookup_cons, beq_false_of_ne heq] using ih

theorem putIn_eq_self (h : entries.lookup place = some entry) :
    putIn place entry entries = some entries := by
  induction entries with
  | nil => cases h
  | cons head rest ih =>
    obtain ⟨key, value⟩ := head
    by_cases heq : key = place
    · simp_all [putIn]
    · rw [List.lookup_cons, beq_false_of_ne (Ne.symm heq)] at h
      simp [putIn, heq, ih h]

/-- Changing every entry by itself goes well with putting one. -/
theorem putIn_map (f : Location → Entry → Entry) (place : Location) (entry : Entry)
    (entries : List (Location × Entry)) :
    putIn place (f place entry) (entries.map fun e => (e.1, f e.1 e.2)) =
      (putIn place entry entries).map fun es => es.map fun e => (e.1, f e.1 e.2) := by
  induction entries with
  | nil => rfl
  | cons head rest ih =>
    by_cases heq : head.1 = place
    · simp [putIn, heq]
    · simp [putIn, heq, ih, Function.comp_def]

theorem shape_put : (t.put place entry).shape = t.shape.put place entry.blank := by
  simp only [shape, put, putIn_map fun _ => Entry.blank]
  cases putIn place entry t.entries <;> simp

/-- New bytes in a file keep the shape. -/
theorem shape_put_of_blank_eq (h : place ≠ []) (hold : t.get? place = some old)
    (hblank : entry.blank = old.blank) : (t.put place entry).shape = t.shape := by
  have hget : t.shape.entries.lookup place = some entry.blank := by
    rw [← get?_eq_lookup h, get?_shape, hold, hblank]
    rfl
  rw [shape_put]
  simp [put, putIn_eq_self hget]

end Tree
end BatchFormat
