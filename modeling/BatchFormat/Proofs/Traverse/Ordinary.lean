import BatchFormat.Proofs.Traverse.Emptied
import BatchFormat.Proofs.Tree.Room

/-!
# Trees without links

In a tree of directories and regular files every entry has one place, and a path from the root of a
traversal goes on by the names that go on from the root's place. So a traversal comes to every entry
below its root, and to each by a path of its own, as long as the system takes the paths.
-/
namespace BatchFormat.Tree

variable {t : Tree} {faults : Faults} {cwd place top : Location} {recursive : Bool} {root p q d : Path}
  {entry found : Entry} {name : String} {names : List String} {mode : Nat}

/-- A tree of directories and regular files, with names that a system gives to entries. -/
structure Ordinary (t : Tree) : Prop where
  proper : t.Proper
  kinds : ∀ e ∈ t.entries, e.2.isFile = true ∨ e.2.isDir = true
  spoken : ∀ place ∈ t.places, ∀ name ∈ place, Path.holdsNul name = false

/-- The entries that a traversal is to come to, by the names that lead to them from its root: the
root itself, and what stands below it, or in it if the traversal stays flat. -/
structure Offers (t : Tree) (recursive : Bool) (top : Location) (names : List String)
    (entry : Entry) : Prop where
  stands : t.Stands (top ++ names) entry
  near : recursive = true ∨ names.length ≤ 1

theorem Stands.dir_above (h : t.Stands (place ++ [name]) entry) :
    ∃ mode, t.Stands place (.dir mode) := by
  simpa using h.parent_dir

theorem Offers.above (h : t.Offers recursive top (names ++ [name]) entry) :
    ∃ mode, t.Offers recursive top names (.dir mode) ∧ (recursive = true ∨ names = []) := by
  obtain ⟨hstands, hnear⟩ := h
  rw [← List.append_assoc] at hstands
  obtain ⟨mode, hparent⟩ := hstands.dir_above
  have hflat : recursive = true ∨ names = [] := hnear.imp_right fun hlength => by
    simpa using hlength
  refine ⟨mode, ⟨hparent, hflat.imp_right fun hnil => ?_⟩, hflat⟩
  simp [hnil]

theorem Meets.dir_of_root (h : t.Meets faults cwd recursive root q) :
    ∃ place mode, t.entryAt? cwd true root = .ok (place, .dir mode) := by
  obtain ⟨d, hreaches, hlists⟩ := h
  obtain ⟨names, hlist⟩ : ∃ names, t.list faults cwd root = .ok names := by
    rcases Relation.ReflTransGen.cases_head hreaches with rfl | ⟨c, henters, -⟩
    · exact ⟨_, hlists.choose_spec.1⟩
    · exact ⟨_, henters.lists.choose_spec.1⟩
  obtain ⟨place, mode, hentry, -⟩ := dir_of_list hlist
  exact ⟨place, mode, hentry⟩

theorem eq_of_stands (h : t.Stands place entry) (h' : t.Stands place found) : entry = found :=
  Option.some.inj (h.get?_eq.symm.trans h'.get?_eq)

namespace Ordinary

variable (h : t.Ordinary)
include h

theorem kind (hget : t.get? place = some entry) : entry.isFile = true ∨ entry.isDir = true := by
  rcases mem_entries hget with ⟨-, rfl⟩ | hmem
  · exact Or.inr rfl
  · exact h.kinds _ hmem

theorem isLink (hget : t.get? place = some entry) : entry.isLink = false := by
  cases entry with
  | link target => rcases h.kind hget with hfile | hdir <;> contradiction
  | file | dir | fifo => rfl

theorem isName (hget : t.get? (place ++ [name]) = some entry) : IsName name :=
  h.proper.isName (mem_names_of_get? hget)

/-- The path of a directory is no longer than that of an entry in it. -/
theorem short_above (hstands : t.Stands (top ++ (names ++ [name])) found)
    (hshort : (root.extend (names ++ [name])).text.utf8ByteSize ≤ pathLimit) :
    (root.extend names).text.utf8ByteSize ≤ pathLimit := by
  rw [← List.append_assoc] at hstands
  rw [Path.extend_concat] at hshort
  have hname := h.isName hstands.get?_eq
  exact (Path.utf8ByteSize_child_le _ fun hempty => hname.spoken (.inl hempty)).trans hshort

theorem holdsNul (hget : t.get? place = some entry) (hname : name ∈ place) :
    Path.holdsNul name = false := by
  rcases mem_places hget with rfl | hplace
  · cases hname
  · exact h.spoken place hplace name hname

/-- The real path of an entry holds no zero character. -/
theorem holdsNul_ofNames (hget : t.get? place = some entry) :
    Path.holdsNul (Path.ofNames place).text = false := by
  rw [← Path.extend_ofNames]
  exact Path.holdsNul_extend (by decide) fun _ hname => h.holdsNul hget hname

section

variable (hroot : t.entryAt? cwd true root = .ok (top, entry))
include hroot

theorem holdsNul_extend (hstands : t.Stands (top ++ names) found) :
    Path.holdsNul (root.extend names).text = false :=
  Path.holdsNul_extend (entryAt?_eq_ok_iff.mp hroot).1 fun _ hname =>
    h.holdsNul hstands.get?_eq (List.mem_append_right _ hname)

variable (hcwd : ∃ mode, t.Stands cwd (.dir mode))
include hcwd

/-! ## The entries of a traversal -/

/-- What stands below the root is what its path from there names, unless that is too long. -/
theorem entryAt?_extend (hstands : t.Stands (top ++ names) found)
    (hshort : (root.extend names).text.utf8ByteSize ≤ pathLimit) :
    t.entryAt? cwd true (root.extend names) = .ok (top ++ names, found) := by
  induction names using List.reverseRecOn generalizing found with
  | nil =>
    rw [List.append_nil] at hstands ⊢
    rw [Path.extend_nil, hroot, eq_of_stands hstands (Stands.of_entry hcwd hroot).1]
  | append_singleton names name ih =>
    have hnul := h.holdsNul_extend hroot hstands
    have habove := h.short_above hstands hshort
    rw [← List.append_assoc] at hstands ⊢
    rw [Path.extend_concat] at hshort hnul ⊢
    obtain ⟨mode, hparent⟩ := hstands.dir_above
    exact entryAt?_child (ih hparent habove) (h.isName hstands.get?_eq) hstands.get?_eq hnul hshort
      fun _ => h.isLink hstands.get?_eq

/-- What it is cannot be told exactly if the path is too long. -/
theorem kind?_extend (hstands : t.Stands (top ++ names) found) :
    (∃ kind, t.kind? cwd (root.extend names) = .ok kind) ↔
      (root.extend names).text.utf8ByteSize ≤ pathLimit := by
  constructor
  · rintro ⟨kind, hkind⟩
    by_contra hlong
    have hnul := h.holdsNul_extend hroot hstands
    simp [kind?, isDir, test, probe, entryAt?, locate, hnul, Nat.not_le.mp hlong, Except.map,
      Cause.isAbsence, bind, Except.bind] at hkind
  · intro hshort
    have hentry := h.entryAt?_extend hroot hcwd hstands hshort
    cases found with
    | dir mode => exact ⟨_, kind?_eq_directory_iff.mpr (isDir_of_dir hentry)⟩
    | file bytes mode => exact ⟨_, kind?_eq_file_iff.mpr (isFile_of_file hentry)⟩
    | link | fifo => rcases h.kind hstands.get?_eq with hfile | hdir <;> contradiction

/-- A directory below the root is reached, if its path is not too long. -/
theorem reaches_extend (hoffers : t.Offers recursive top names (.dir mode))
    (hdeep : recursive = true ∨ names = [])
    (hshort : (root.extend names).text.utf8ByteSize ≤ pathLimit) :
    t.Reaches .none cwd recursive root (root.extend names) := by
  induction names using List.reverseRecOn generalizing mode with
  | nil =>
    rw [Path.extend_nil]
    exact .refl
  | append_singleton names name ih =>
    obtain ⟨above, hparent, hflat⟩ := hoffers.above
    have hstands := hoffers.stands
    have hnul := h.holdsNul_extend hroot hstands
    have habove := h.short_above hstands hshort
    rw [← List.append_assoc] at hstands
    rw [Path.extend_concat] at hshort hnul ⊢
    have hentry := h.entryAt?_extend hroot hcwd hparent.stands habove
    have hlists : t.Lists .none cwd (root.extend names) ((root.extend names).child name) :=
      ⟨_, list_of_dir hentry, name, mem_names_of_get? hstands.get?_eq, rfl⟩
    obtain ⟨hisDir, hnoLink⟩ :=
      (isDir_child_iff hentry (h.isName hstands.get?_eq) hstands.get?_eq).mpr ⟨rfl, hnul, hshort⟩
    have hrecursive : recursive = true := hdeep.resolve_right (by simp)
    exact (ih hparent hflat habove).tail ⟨hlists, hrecursive, hisDir, hnoLink⟩

/-- The entries of a directory are met, if its path is not too long. -/
theorem meets_extend (hoffers : t.Offers recursive top (names ++ [name]) found)
    (hshort : (root.extend names).text.utf8ByteSize ≤ pathLimit) :
    t.Meets .none cwd recursive root (root.extend (names ++ [name])) := by
  obtain ⟨mode, hparent, hflat⟩ := hoffers.above
  have hstands := hoffers.stands
  rw [← List.append_assoc] at hstands
  refine ⟨root.extend names, h.reaches_extend hroot hcwd hparent hflat hshort, _,
    list_of_dir (h.entryAt?_extend hroot hcwd hparent.stands hshort), name,
    mem_names_of_get? hstands.get?_eq, Path.extend_concat ..⟩

/-- What is reached is a directory that stands below the root, or the root itself. -/
theorem offers_of_reaches (hdir : entry.isDir = true)
    (hreaches : t.Reaches faults cwd recursive root d) :
    ∃ names mode, d = root.extend names ∧ t.Offers recursive top names (.dir mode) ∧
      t.entryAt? cwd true d = .ok (top ++ names, .dir mode) ∧ (recursive = true ∨ names = []) := by
  cases entry with
  | file | link | fifo => cases hdir
  | dir m =>
    obtain ⟨names, mode, rfl, hentry⟩ := hreaches.exists_place h.proper hroot
    have hdeep : recursive = true ∨ names = [] := by
      rcases Relation.ReflTransGen.cases_tail hreaches with heq | ⟨_, -, henters⟩
      · exact Or.inr (by simpa using congrArg Path.parts heq)
      · exact Or.inl henters.deep
    refine ⟨names, mode, rfl, ⟨(Stands.of_entry hcwd hentry).1, hdeep.imp_right ?_⟩, hentry, hdeep⟩
    rintro rfl
    simp

/-- What is met in an ordinary tree is named by the names that lead to it. -/
theorem offers_of_meets (hmeets : t.Meets faults cwd recursive root q) :
    ∃ names found, q = root.extend names ∧ t.Offers recursive top names found := by
  obtain ⟨place, m, hplace⟩ := hmeets.dir_of_root
  obtain ⟨d, hreaches, listed, hlist, name, hname, rfl⟩ := hmeets
  have hdir : entry.isDir = true := by
    cases hroot.symm.trans hplace
    rfl
  obtain ⟨names, mode, rfl, hoffers, hentry, hdeep⟩ := h.offers_of_reaches hroot hcwd hdir hreaches
  obtain ⟨place, m, hplace, rfl⟩ := dir_of_list hlist
  cases hentry.symm.trans hplace
  obtain ⟨found, hget⟩ := get?_of_mem_names hname
  refine ⟨names ++ [name], found, (Path.extend_concat ..).symm, ?_, hdeep.imp_right ?_⟩
  · rw [← List.append_assoc]
    exact hoffers.stands.child (h.proper.isName hname) hget
  · rintro rfl
    simp

/-- A traversal comes to nothing but what it is to come to. -/
theorem offers_of_comesTo (hq : t.ComesTo faults cwd recursive root q) :
    ∃ names found, q = root.extend names ∧ t.Offers recursive top names found := by
  rcases hq with ⟨-, rfl⟩ | ⟨-, hmeets⟩
  · refine ⟨[], entry, (Path.extend_nil _).symm, ?_, by simp⟩
    rw [List.append_nil]
    exact (Stands.of_entry hcwd hroot).1
  · exact h.offers_of_meets hroot hcwd hmeets

omit h in
/-- Where something is to be met below the root, the root is a directory. -/
theorem isFile_of_offers (hoffers : t.Offers recursive top names found) (hne : names ≠ []) :
    t.isFile cwd root = .ok false := by
  induction names using List.reverseRecOn generalizing found with
  | nil => exact (hne rfl).elim
  | append_singleton names name ih =>
    obtain ⟨mode, hparent, -⟩ := hoffers.above
    cases names with
    | cons first names => exact ih hparent (by simp)
    | nil =>
      have hstands := hparent.stands
      rw [List.append_nil] at hstands
      obtain rfl := eq_of_stands (Stands.of_entry hcwd hroot).1 hstands
      exact isFile_of_isDir (isDir_of_dir hroot)

/-- It can be told of everything that a traversal comes to what it is exactly if no path is too
long. -/
theorem told_iff :
    (∀ q, t.ComesTo .none cwd recursive root q → ∃ kind, t.kind? cwd q = .ok kind) ↔
      ∀ names found, t.Offers recursive top names found →
        (root.extend names).text.utf8ByteSize ≤ pathLimit := by
  constructor
  · intro htold names
    -- a path that is too long goes on from one that is not, so that the traversal comes to it
    induction names using List.reverseRecOn with
    | nil =>
      intro found _
      rw [Path.extend_nil]
      exact (entryAt?_eq_ok_iff.mp hroot).2.1
    | append_singleton names name ih =>
      intro found hoffers
      obtain ⟨mode, hparent, -⟩ := hoffers.above
      have hmeets := h.meets_extend hroot hcwd hoffers (ih _ hparent)
      have hfile := isFile_of_offers hroot hcwd hoffers (by simp)
      exact (h.kind?_extend hroot hcwd hoffers.stands).mp (htold _ (Or.inr ⟨hfile, hmeets⟩))
  · rintro hshort q hq
    obtain ⟨names, found, rfl, hoffers⟩ := h.offers_of_comesTo hroot hcwd hq
    exact (h.kind?_extend hroot hcwd hoffers.stands).mpr (hshort _ _ hoffers)

/-- The files that a traversal comes to. -/
theorem offers_of_file (hq : t.ComesTo faults cwd recursive root q)
    (hfile : t.isFile cwd q = .ok true) :
    ∃ names bytes mode, q = root.extend names ∧
      t.Offers recursive top names (.file bytes mode) ∧
      t.entryAt? cwd true q = .ok (top ++ names, .file bytes mode) := by
  obtain ⟨names, found, rfl, hoffers⟩ := h.offers_of_comesTo hroot hcwd hq
  have hshort := (h.kind?_extend hroot hcwd hoffers.stands).mp ⟨_, kind?_eq_file_iff.mpr hfile⟩
  have hentry := h.entryAt?_extend hroot hcwd hoffers.stands hshort
  obtain ⟨place, bytes, mode, hplace⟩ := exists_file hfile
  cases hentry.symm.trans hplace
  exact ⟨names, bytes, mode, rfl, hoffers, hentry⟩

theorem comesTo_extend {bytes : Bytes} (hoffers : t.Offers recursive top names (.file bytes mode))
    (hshort : (root.extend names).text.utf8ByteSize ≤ pathLimit) :
    t.ComesTo .none cwd recursive root (root.extend names) := by
  have hentry := h.entryAt?_extend hroot hcwd hoffers.stands hshort
  rcases List.eq_nil_or_concat names with rfl | ⟨above, name, rfl⟩
  · rw [Path.extend_nil] at hentry ⊢
    exact Or.inl ⟨isFile_of_file hentry, rfl⟩
  · rw [List.concat_eq_append] at *
    have habove := h.short_above hoffers.stands hshort
    exact Or.inr ⟨isFile_of_offers hroot hcwd hoffers (by simp),
      h.meets_extend hroot hcwd hoffers habove⟩

/-- No directory is missed. -/
theorem not_unlisted {e : SystemError} : ¬t.Unlisted .none cwd recursive root d e := by
  rintro ⟨hfile, hreaches, hlist⟩
  have hdir : entry.isDir = true := by
    rcases h.kind (Stands.of_entry hcwd hroot).1.get?_eq with hisFile | hisDir
    · cases entry with
      | file => cases hfile.symm.trans (isFile_of_file hroot)
      | dir | link | fifo => cases hisFile
    · exact hisDir
  obtain ⟨names, mode, -, -, hentry, -⟩ := h.offers_of_reaches hroot hcwd hdir hreaches
  cases hlist.symm.trans (list_of_dir hentry)

end

end Ordinary
end BatchFormat.Tree
