import BatchFormat.Journal
import BatchFormat.Proofs.Tree.Directories

/-!
# Opening a log file

A log file is opened where a look-up of its path ends. A path that has no links in its last name
and whose directory is there can be opened unless a directory is in the way. Names without double
dots stand for the same place, whether they are made a path from the top first or not.
-/
namespace BatchFormat

namespace Tree

variable {t u : Tree} {links n : Nat} {here place above : Location} {xs ys rest : List String}
  {step last target : String} {entry : Entry} {mode : Nat} {p : Path} {cwd : Location}

/-! ## Look-ups in two parts -/

theorem asksForDirectory_skip (h : step = "" ∨ step = ".") :
    t.asksForDirectory links here (step :: rest) = t.asksForDirectory links here rest := by
  rw [asksForDirectory, if_pos h]

theorem asksForDirectory_up :
    t.asksForDirectory links here (".." :: rest) = t.asksForDirectory links here.dropLast rest := by
  rw [asksForDirectory, if_neg (by decide), if_pos rfl]

theorem asksForDirectory_absent (h : IsName step)
    (hmore : ¬(rest ≠ [] ∧ rest.all (· = "") = true)) (hget : t.get? (here ++ [step]) = none) :
    t.asksForDirectory links here (step :: rest) = false := by
  simp only [asksForDirectory, if_neg h.spoken, if_neg h.down, if_neg hmore, hget]

theorem asksForDirectory_through (h : IsName step)
    (hmore : ¬(rest ≠ [] ∧ rest.all (· = "") = true))
    (hget : t.get? (here ++ [step]) = some (.dir mode)) :
    t.asksForDirectory links here (step :: rest) =
      t.asksForDirectory links (here ++ [step]) rest := by
  simp only [asksForDirectory, if_neg h.spoken, if_neg h.down, if_neg hmore, hget]

theorem asksForDirectory_onward (h : IsName step)
    (hmore : ¬(rest ≠ [] ∧ rest.all (· = "") = true))
    (hget : t.get? (here ++ [step]) = some (.link target)) :
    t.asksForDirectory (links + 1) here (step :: rest) =
      t.asksForDirectory links (linkStart target here) (Path.pieces target ++ rest) := by
  simp only [asksForDirectory, if_neg h.spoken, if_neg h.down, if_neg hmore, hget]

/-- A last name that is no link has no slash behind it. -/
theorem asksForDirectory_last (h : IsName last)
    (hlink : ∀ target, t.get? (here ++ [last]) ≠ some (.link target)) :
    t.asksForDirectory links here [last] = false := by
  simp only [asksForDirectory, if_neg h.spoken, if_neg h.down]
  split
  · simp_all
  · split
    · rfl
    · next hget => exact (hlink _ hget).elim
    · rfl

/-- After the look-up of a directory, a look-up of a name in it goes on from there. -/
theorem walk_append_last (hname : IsName last)
    (h : t.walk true links here xs = .ok (.found place (.dir mode))) :
    ∃ n, t.walk true links here (xs ++ [last]) = t.walk true n place [last] ∧
      t.asksForDirectory links here (xs ++ [last]) = t.asksForDirectory n place [last] := by
  have hmore : ∀ rest : List String, ¬((rest ++ [last]) ≠ [] ∧
      (rest ++ [last]).all (· = "") = true) := by
    rintro rest ⟨-, hall⟩
    exact hname.spoken (Or.inl (by simpa using List.all_eq_true.mp hall last (by simp)))
  fun_induction walk t true links here xs with
  | case1 links here =>
    simp only [Except.ok.injEq, Place.found.injEq] at h
    obtain ⟨rfl, -⟩ := h
    exact ⟨links, rfl, rfl⟩
  | case2 links here step rest hskip ih =>
    rw [List.cons_append, walk_skip hskip, asksForDirectory_skip hskip]
    exact ih h
  | case3 links here rest hskip ih =>
    rw [List.cons_append, walk_up, asksForDirectory_up]
    exact ih h
  | case7 links here step rest hskip hup hlong next m hget ih =>
    have hstep : IsName step := ⟨hskip, hup, hlong⟩
    rw [List.cons_append, walk_through hstep hget, asksForDirectory_through hstep (hmore rest) hget]
    exact ih h
  | case8 _ _ _ _ _ _ _ _ _ _ hlast => simp at hlast
  | case10 here step rest hskip hup hlong next target hget hlast links ih =>
    have hstep : IsName step := ⟨hskip, hup, hlong⟩
    rw [List.cons_append, walk_onward hstep hget (by simp),
      asksForDirectory_onward hstep (hmore rest) hget, ← List.append_assoc]
    exact ih h
  | case11 links here step hskip hup hlong next found hdir hlink hget =>
    simp only [Except.ok.injEq, Place.found.injEq] at h
    exact (hdir mode h.2).elim
  | case4 | case5 | case6 | case9 | case12 => cases h

/-! ## Plain names -/

/-- Names that each lead one step down. -/
def IsDown (names : List String) : Prop := ∀ name ∈ names, ¬(name = "" ∨ name = ".") ∧ name ≠ ".."

theorem Stands.isDown (h : Stands t place entry) : IsDown place := by
  induction h with
  | top => simp [IsDown]
  | child parent name found ih =>
    intro other hother
    rcases List.mem_append.mp hother with hold | hnew
    · exact ih other hold
    · rw [List.mem_singleton.mp hnew]
      exact ⟨name.spoken, name.down⟩

theorem foldl_foldStep_of_isDown {names : List String} (h : IsDown names) (here : Location) :
    names.foldl foldStep here = here ++ names := by
  induction names generalizing here with
  | nil => simp
  | cons name names ih =>
    obtain ⟨⟨hskip, hup⟩, hrest⟩ := List.forall_mem_cons.mp h
    rw [List.foldl_cons, foldStep, if_neg hskip, if_neg hup, ih hrest, List.append_assoc,
      List.singleton_append]

theorem isDown_of_ofString {name : String} (h : ".." ∉ (Path.ofString name).parts) :
    IsDown (Path.ofString name).parts := by
  intro part hpart
  have hspoken : part ≠ "" ∧ part ≠ "." := by
    simpa [Path.ofString] using (List.mem_filter.mp hpart).2
  exact ⟨by simp [hspoken], fun hup => h (hup ▸ hpart)⟩

end Tree

namespace Journal

open BatchFormat.Tree

variable {t u : Tree} {cwd place : Location} {p : Path} {name : String} {entry : Entry} {mode : Nat}

/-- The path of a log file whose name has no double dots. -/
theorem parts_filePath (hcwd : IsDown cwd) (hup : ".." ∉ (Path.ofString name).parts) :
    (filePath cwd name).parts = (Path.ofString name).origin cwd ++ (Path.ofString name).parts := by
  have hdown := isDown_of_ofString hup
  unfold filePath Path.absolute Path.join Path.origin
  split
  · have hall : IsDown (cwd ++ (Path.ofString name).parts) := fun part hpart =>
      (List.mem_append.mp hpart).elim (hcwd part) (hdown part)
    exact foldl_foldStep_of_isDown hall []
  · exact foldl_foldStep_of_isDown hdown []

/-- A log file is opened where the look-up of its path ends, if that is not at a directory. -/
theorem openFile_eq_ok_iff : openFile t p = .ok (place, u) ↔
    Path.holdsNul p.text = false ∧ p.text.utf8ByteSize ≤ pathLimit ∧
      t.asksForDirectory linkLimit [] p.parts = false ∧
      ((∃ entry, t.walk true linkLimit [] p.parts = .ok (.found place entry) ∧
          entry.isDir = false ∧ t = u) ∨
        t.walk true linkLimit [] p.parts = .ok (.vacant place) ∧
          t.put place (.file [] fileMode) = u) := by
  have horigin : p.origin [] = [] := by simp [Path.origin]
  unfold openFile locate
  rw [horigin]
  by_cases hnul : Path.holdsNul p.text
  · simp [hnul]
  · by_cases hlong : p.text.utf8ByteSize > pathLimit
    · simp [hnul, hlong, Nat.not_le.mpr hlong]
    · by_cases hslash : t.asksForDirectory linkLimit [] p.parts
      · simp [hnul, Nat.not_lt.mp hlong, hslash]
      · simp only [hnul, hlong, Nat.not_lt.mp hlong, hslash, if_false, true_and]
        cases t.walk true linkLimit [] p.parts with
        | error cause => simp
        | ok found =>
          cases found with
          | vacant there => simp +contextual
          | found there entry => cases entry <;> simp [Entry.isDir]

/-- Opening a log file makes it if it is missing, and does nothing else. -/
theorem openFile_cases (h : openFile t p = .ok (place, u)) :
    u = t ∨ place ≠ [] ∧ t.get? place = none ∧ u = t.put place (.file [] fileMode) := by
  obtain ⟨-, -, -, ⟨entry, -, -, rfl⟩ | ⟨hvacant, rfl⟩⟩ := openFile_eq_ok_iff.mp h
  · exact Or.inl rfl
  · obtain ⟨hplace, hfree⟩ := get?_of_vacant hvacant
    exact Or.inr ⟨hplace, hfree, rfl⟩

theorem extends_of_openFile (h : openFile t p = .ok (place, u)) : Extends t u := by
  rcases openFile_cases h with rfl | ⟨-, hfree, rfl⟩
  · exact .refl u
  · exact .put hfree _

theorem sameLinks_of_openFile (h : openFile t p = .ok (place, u)) : SameLinks t u := by
  rcases openFile_cases h with rfl | ⟨hplace, hfree, rfl⟩
  · exact .refl u
  · exact .put hplace hfree rfl

/-- What was opened is found where its path leads, and it is no directory. -/
theorem walk_of_openFile (h : openFile t p = .ok (place, u)) :
    ∃ entry, u.walk true linkLimit [] p.parts = .ok (.found place entry) ∧
      entry.isDir = false := by
  obtain ⟨-, -, -, ⟨entry, hfound, hdir, rfl⟩ | ⟨hvacant, rfl⟩⟩ := openFile_eq_ok_iff.mp h
  · exact ⟨entry, hfound, hdir⟩
  · exact ⟨_, walk_put_vacant rfl hvacant, rfl⟩

/-- What was opened is neither a link nor a directory. -/
theorem halt_of_openFile (h : openFile t p = .ok (place, u)) :
    ∃ entry, u.get? place = some entry ∧ entry.passage = .halt := by
  obtain ⟨entry, hwalk, hdir⟩ := walk_of_openFile h
  obtain ⟨hstands, hlink⟩ := Stands.of_walk ⟨_, .top⟩ hwalk
  exact ⟨entry, hstands.get?_eq, passage_halt_of_not hdir (hlink rfl)⟩

/-- A log file is opened at the real path of the path that it is opened by, even as it was before
directories were made. -/
theorem resolve_of_openFile {before : Tree} (hsame : SameLinks before t)
    (h : openFile t p = .ok (place, u)) : before.resolve [] p = .ok place := by
  obtain ⟨hnul, -⟩ := openFile_eq_ok_iff.mp h
  obtain ⟨entry, hwalk, -⟩ := walk_of_openFile h
  have horigin : p.origin [] = [] := by simp [Path.origin]
  exact resolve_of_walk (hsame.trans (sameLinks_of_openFile h)) hnul (horigin ▸ hwalk)

/-- In a directory that is there, a name that is neither a link nor a directory can be opened. -/
theorem openFile_of_directory {above : List String} {last : String} {dir : Location}
    (hparts : p.parts = above ++ [last]) (hnul : Path.holdsNul p.text = false)
    (hshort : p.text.utf8ByteSize ≤ pathLimit) (hname : IsName last)
    (habove : t.walk true linkLimit [] above = .ok (.found dir (.dir mode)))
    (hlink : ∀ target, t.get? (dir ++ [last]) ≠ some (.link target))
    (hdir : ∀ mode, t.get? (dir ++ [last]) ≠ some (.dir mode)) :
    openFile t p = .ok (dir ++ [last], if (t.get? (dir ++ [last])).isSome then t
      else t.put (dir ++ [last]) (.file [] fileMode)) := by
  obtain ⟨n, hwalk, hasks⟩ := walk_append_last hname habove
  rw [← hparts] at hwalk hasks
  rw [asksForDirectory_last hname hlink] at hasks
  cases hget : t.get? (dir ++ [last]) with
  | none =>
    rw [walk_absent hname hget, if_pos rfl] at hwalk
    exact openFile_eq_ok_iff.mpr ⟨hnul, hshort, hasks, Or.inr ⟨hwalk, rfl⟩⟩
  | some entry =>
    have hhalt : entry.passage = .halt :=
      passage_eq_halt (fun m heq => hdir m (heq ▸ hget)) fun target heq => hlink target (heq ▸ hget)
    rw [walk_halt hname hget hhalt, if_pos rfl] at hwalk
    have hisDir : entry.isDir = false := by cases entry <;> first | rfl | cases hhalt
    exact openFile_eq_ok_iff.mpr ⟨hnul, hshort, hasks, Or.inl ⟨entry, hwalk, hisDir, rfl⟩⟩

end Journal
end BatchFormat
