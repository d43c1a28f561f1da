import Mathlib.Data.List.Infix
import BatchFormat.Proofs.Traverse.Questions
import BatchFormat.Proofs.Tree.RealPath
import BatchFormat.Tree.Directories

/-!
# Making directories adds directories

However far the making of directories comes, nothing that was there is touched. What is new is
directories, and each of them is found under the first names of the place that was asked for.
-/
namespace BatchFormat.Tree

variable {t u : Tree} {links : Nat} {here place : Location} {steps names above : List String}
  {mode : Nat} {e : SystemError} {made : Except SystemError Unit}

/-! ## Free places -/

/-- Where a look-up finds a free place, nothing is. -/
theorem get?_of_vacant {follow : Bool}
    (h : t.walk follow links here steps = .ok (.vacant place)) :
    place ≠ [] ∧ t.get? place = none := by
  fun_induction walk t follow links here steps with
  | case2 links here step rest hskip ih => exact ih h
  | case3 links here rest hskip ih => exact ih h
  | case5 links here step hskip hup hlong next hget =>
    simp only [Except.ok.injEq, Place.vacant.injEq] at h
    subst h
    exact ⟨by simp [next], hget⟩
  | case7 links here step rest hskip hup hlong next mode hget ih => exact ih h
  | case10 here step rest hskip hup hlong next target hget hmore links ih => exact ih h
  | case1 | case4 | case6 | case8 | case9 | case11 | case12 => simp at h

/-- What is put in a free place is found there, unless it is a link. -/
theorem walk_put_vacant {follow : Bool} {entry : Entry} (hlink : entry.isLink = false)
    (h : t.walk follow links here steps = .ok (.vacant place)) :
    (t.put place entry).walk follow links here steps = .ok (.found place entry) := by
  obtain ⟨hplace, hfree⟩ := get?_of_vacant h
  have hkeep := Extends.put hfree entry
  fun_induction walk t follow links here steps with
  | case2 links here step rest hskip ih => rw [walk_skip hskip]; exact ih h
  | case3 links here rest hskip ih => rw [walk_up]; exact ih h
  | case5 links here step hskip hup hlong next hget =>
    simp only [Except.ok.injEq, Place.vacant.injEq] at h
    subst h
    have hnew : (t.put (here ++ [step]) entry).get? (here ++ [step]) = some entry :=
      get?_put_self hplace
    cases entry with
    | dir m => rw [walk_through ⟨hskip, hup, hlong⟩ hnew, walk_nil, hnew]; rfl
    | file _ _ => rw [walk_halt ⟨hskip, hup, hlong⟩ hnew rfl, if_pos rfl]
    | fifo _ => rw [walk_halt ⟨hskip, hup, hlong⟩ hnew rfl, if_pos rfl]
    | link _ => cases hlink
  | case7 links here step rest hskip hup hlong next m hget ih =>
    rw [walk_through ⟨hskip, hup, hlong⟩ (hkeep _ _ hget)]
    exact ih h
  | case10 here step rest hskip hup hlong next target hget hmore links ih =>
    rw [walk_onward ⟨hskip, hup, hlong⟩ (hkeep _ _ hget) hmore]
    exact ih h
  | case1 | case4 | case6 | case8 | case9 | case11 | case12 => simp at h

theorem walk_of_locate {p : Path} {follow : Bool} {found : Place} {cwd : Location}
    (h : t.locate cwd follow p = .ok found) :
    t.walk follow linkLimit (p.origin cwd) p.parts = .ok found := by
  unfold locate at h
  split at h
  · cases h
  · exact h

/-! ## New directories -/

/-- The one tree grew to the other, and what is new is directories to which the first of some names
lead. -/
structure Grown (t u : Tree) (names : Location) : Prop where
  kept : Extends t u
  nodup : t.places.Nodup → u.places.Nodup
  added : ∀ place entry, t.get? place = none → u.get? place = some entry →
    entry = .dir directoryMode ∧
      ∃ above, above <+: names ∧ u.walk false linkLimit [] above = .ok (.found place entry)

theorem Grown.refl (t : Tree) (names : Location) : Grown t t names where
  kept := .refl t
  nodup := id
  added := fun place entry hnone hsome => by
    rw [hnone] at hsome
    cases hsome

theorem Grown.mono (h : Grown t u above) (hmore : above <+: names) : Grown t u names where
  kept := h.kept
  nodup := h.nodup
  added := fun place entry hnone hsome => by
    obtain ⟨hentry, first, hfirst, hwalk⟩ := h.added place entry hnone hsome
    exact ⟨hentry, first, hfirst.trans hmore, hwalk⟩

/-- To grow twice towards the same place is to grow towards it. -/
theorem Grown.trans {v : Tree} (h : Grown t u names) (h' : Grown u v names) :
    Grown t v names where
  kept := h.kept.trans h'.kept
  nodup := fun hplaces => h'.nodup (h.nodup hplaces)
  added := fun place entry hnone hsome => by
    cases hbetween : u.get? place with
    | none => exact h'.added place entry hbetween hsome
    | some old =>
      have hsame := h'.kept place old hbetween
      rw [hsome] at hsame
      cases hsame
      obtain ⟨hentry, first, hfirst, hwalk⟩ := h.added place entry hnone hbetween
      exact ⟨hentry, first, hfirst, h'.kept.walk_eq hbetween hwalk⟩

/-- To make a directory adds that directory, and nothing else. -/
theorem grown_of_makeDirectory (h : t.makeDirectory names = .ok u) : Grown t u names := by
  unfold makeDirectory at h
  simp only at h
  split at h
  · next here hlocate =>
    cases h
    have hwalk : t.walk false linkLimit [] names = .ok (.vacant here) := walk_of_locate hlocate
    obtain ⟨hplace, hfree⟩ := get?_of_vacant hwalk
    refine ⟨.put hfree _, nodup_places_put, fun place entry hnone hsome => ?_⟩
    by_cases heq : place = here
    · subst heq
      rw [get?_put_self hplace] at hsome
      cases hsome
      exact ⟨rfl, names, List.prefix_rfl, walk_put_vacant rfl hwalk⟩
    · rw [get?_put_of_ne heq, hnone] at hsome
      cases hsome
  · simp only [bind, Except.bind] at h
    split at h
    · cases h
    · split at h
      · cases h
        exact .refl t names
      · cases h
  · cases h

/-- To make a directory and those above it adds directories on the way to it, also where it fails on
the way. -/
theorem grown_of_makeUpward (t : Tree) (names : List String) :
    Grown t (t.makeUpward names).2 names.reverse := by
  induction names generalizing t with
  | nil => exact .refl t _
  | cons name above ih =>
    have hfirst : above.reverse <+: (name :: above).reverse := by simp
    unfold makeUpward
    simp only
    split
    · next hmake => exact grown_of_makeDirectory hmake
    · have habove := (ih t).mono hfirst
      split
      · next hfail =>
        rw [hfail] at habove
        exact habove
      · next hdone =>
        rw [hdone] at habove
        split
        · next hmake => exact habove.trans (grown_of_makeDirectory hmake)
        · exact habove
    · exact .refl t _

theorem grown_of_makeDirectories (h : t.makeDirectories names = (made, u)) :
    Grown t u names := by
  have hgrown := grown_of_makeUpward t names.reverse
  rw [List.reverse_reverse] at hgrown
  rwa [show t.makeUpward names.reverse = (made, u) from h] at hgrown

theorem Grown.sameLinks (h : Grown t u names) : SameLinks t u :=
  h.kept.sameLinks fun place _ hnone hsome => nomatch (h.added place _ hnone hsome).1

/-- A directory that was made, or that was there, is found. -/
theorem walk_of_makeDirectory (h : t.makeDirectory names = .ok u) :
    ∃ place mode, u.walk true linkLimit [] names = .ok (.found place (.dir mode)) := by
  unfold makeDirectory at h
  simp only at h
  split at h
  · next here hlocate =>
    cases h
    have hwalk : t.walk false linkLimit [] names = .ok (.vacant here) := walk_of_locate hlocate
    exact ⟨here, _, walk_true_of_false (walk_put_vacant rfl hwalk) rfl⟩
  · simp only [bind, Except.bind] at h
    split at h
    · cases h
    · next isDir htest =>
      split at h
      · next hdir =>
        cases h
        rw [hdir] at htest
        obtain ⟨place, entry, hentry, hisDir⟩ := entryAt?_of_test htest
        cases entry with
        | dir mode => exact ⟨place, mode, (entryAt?_eq_ok_iff.mp hentry).2.2⟩
        | file | link | fifo => cases hisDir
      · cases h
  · cases h

/-- A directory that was made is found by its names. -/
theorem walk_of_makeUpward {reversed : List String} (h : t.makeUpward reversed = (.ok (), u)) :
    ∃ place mode, u.walk true linkLimit [] reversed.reverse = .ok (.found place (.dir mode)) := by
  cases reversed with
  | nil => exact ⟨[], 0o755, walk_nil⟩
  | cons name above =>
    unfold makeUpward at h
    simp only at h
    split at h
    · next hmake =>
      cases h
      exact walk_of_makeDirectory hmake
    · split at h
      · cases h
      · split at h
        · next hmake =>
          cases h
          exact walk_of_makeDirectory hmake
        · cases h
    · cases h

/-- Where only the last name is free, one directory is made. -/
theorem makeDirectories_of_vacant (hne : names ≠ [])
    (hlocate : t.locate [] false (Path.ofNames names) = .ok (.vacant place)) :
    t.makeDirectories names = (.ok (), t.put place (.dir directoryMode)) := by
  have hone : t.makeDirectory names = .ok (t.put place (.dir directoryMode)) := by
    simp only [makeDirectory, hlocate]
  obtain ⟨name, above, hreversed⟩ :=
    List.exists_cons_of_ne_nil (fun hnil => hne (List.reverse_eq_nil_iff.mp hnil))
  have hnames : (name :: above).reverse = names := by rw [← hreversed, List.reverse_reverse]
  simp only [makeDirectories, hreversed, makeUpward, hnames, hone]

/-- Where directories were made, one is found. -/
theorem walk_of_makeDirectories (h : t.makeDirectories names = (.ok (), u)) :
    ∃ place mode, u.walk true linkLimit [] names = .ok (.found place (.dir mode)) := by
  simpa using walk_of_makeUpward h

end BatchFormat.Tree
