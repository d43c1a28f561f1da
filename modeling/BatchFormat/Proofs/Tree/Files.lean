import BatchFormat.Proofs.Tree.Masked

/-!
# Paths that lead to files

Several paths may lead to one file. Whether a replacement succeeds depends on where the path leads
and on the shape of the tree; what it changes is the bytes of that file.
-/
namespace BatchFormat.Tree

variable {t u : Tree} {cwd place other : Location} {p q : Path} {bytes bytes' : Bytes}
  {mode : Nat} {faults : Faults} {marks : List String} {content : String}

def leadsTo (t : Tree) (cwd place : Location) (p : Path) : Bool :=
  match t.resolve cwd p with
  | .ok real => real == place
  | .error _ => false

theorem leadsTo_iff : t.leadsTo cwd place p = true ↔ t.resolve cwd p = .ok place := by
  unfold leadsTo
  split
  · next real hreal => simp [hreal]
  · next e herror => simp [herror]

theorem leadsTo_of_shape (h : t.shape = u.shape) :
    t.leadsTo cwd place p = u.leadsTo cwd place p := by
  unfold leadsTo
  rw [resolve_of_shape h]

/-! ## The file that a path leads to -/

theorem exists_file (h : t.isFile cwd p = .ok true) :
    ∃ place bytes mode, t.entryAt? cwd true p = .ok (place, .file bytes mode) := by
  obtain ⟨place, entry, hentry, hfile⟩ := entryAt?_of_test h
  cases entry with
  | file bytes mode => exact ⟨place, bytes, mode, hentry⟩
  | dir | link | fifo => cases hfile

theorem get?_of_file (h : t.entryAt? cwd true p = .ok (place, .file bytes mode)) :
    t.get? place = some (.file bytes mode) := by
  have hget := get?_of_entryAt? h
  cases hplace : t.get? place with
  | none => simp [hplace] at hget
  | some entry => simpa [hplace] using hget

theorem place_ne_nil_of_file (h : t.get? place = some (.file bytes mode)) : place ≠ [] := by
  rintro rfl
  cases h

theorem leadsTo_of_file (h : t.entryAt? cwd true p = .ok (place, .file bytes mode)) :
    t.leadsTo cwd other p = true ↔ other = place := by
  rw [leadsTo_iff, resolve_of_entry h]
  exact ⟨fun heq => (Except.ok.inj heq).symm, fun heq => heq ▸ rfl⟩

/-- Trees of the same shape lead a path to a file in the same place. -/
theorem file_of_shape (hshape : t.shape = u.shape)
    (h : t.entryAt? cwd true p = .ok (place, .file bytes mode)) :
    ∃ bytes', u.entryAt? cwd true p = .ok (place, .file bytes' mode) := by
  rcases entryAt?_cases_of_shape hshape cwd true p with
    ⟨e, ht, -⟩ | ⟨there, entry, entry', ht, hu, hblank⟩
  · rw [h] at ht
    cases ht
  · rw [h] at ht
    cases ht
    cases entry' with
    | file bytes' mode' =>
      cases hblank
      exact ⟨bytes', hu⟩
    | dir | link | fifo => cases hblank

theorem file_of_get? (hshape : t.shape = u.shape)
    (h : t.entryAt? cwd true p = .ok (place, .file bytes mode))
    (hget : u.get? place = t.get? place) :
    u.entryAt? cwd true p = .ok (place, .file bytes mode) := by
  obtain ⟨bytes', hu⟩ := file_of_shape hshape h
  rw [get?_of_file hu, get?_of_file h] at hget
  cases hget
  exact hu

/-! ## Replacing it -/

/-- A tree without the bytes of any of its files is a shape. -/
theorem masked_places : t.masked t.places = t.shape := by
  simp only [masked, shape, Tree.mk.injEq]
  refine List.map_congr_left fun e he => ?_
  have hplace : e.1 ∈ t.places := List.mem_map_of_mem he
  rw [if_pos hplace]

/-- Whether a replacement succeeds depends on no file. -/
theorem replace_fst_of_shape (h : t.shape = u.shape) :
    (t.replace faults marks cwd p content).1 = (u.replace faults marks cwd p content).1 := by
  have hplaces : t.places = u.places := by
    rw [← places_shape, h, places_shape]
  have hmasked : t.masked t.places = u.masked t.places := by
    rw [masked_places, hplaces, masked_places, h]
  exact (replace_of_masked hmasked).1

/-- All paths that lead to one file are replaced alike. -/
theorem replace_of_resolve (h : t.resolve cwd p = t.resolve cwd q) :
    t.replace faults marks cwd p content = t.replace faults marks cwd q content := by
  unfold replace draft
  rw [h]

/-- Replacing a file fails and changes nothing, or gives the file new bytes. -/
theorem replace_file (hcwd : ∃ mode, t.Stands cwd (.dir mode))
    (h : t.entryAt? cwd true p = .ok (place, .file bytes mode)) (faults : Faults)
    (marks : List String) (content : String) :
    (∃ e, t.replace faults marks cwd p content = (.error e, t)) ∨
      t.replace faults marks cwd p content =
        (.ok place, t.put place (.file (Text.encode content) mode)) := by
  rcases replace_cases t faults marks cwd p content with
    hfail | ⟨real, there, old, followed, htarget, hdone⟩
  · exact Or.inl hfail
  · obtain ⟨rfl, rfl, hlink⟩ := htarget.of_entry hcwd h
    obtain ⟨-, rfl⟩ := htarget.eq_followed hlink
    exact Or.inr hdone

end BatchFormat.Tree
