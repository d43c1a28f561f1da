import BatchFormat.Proofs.Tree.Lookup
import BatchFormat.Traverse

/-!
# What a traversal asks

A traversal asks what a path is, whether it is a link, and what names a directory holds. The
answers depend on the shape of the tree alone, whatever the files hold.
-/
namespace BatchFormat

@[simp] theorem Entry.isFile_blank (e : Entry) : e.blank.isFile = e.isFile := by cases e <;> rfl

@[simp] theorem Entry.isDir_blank (e : Entry) : e.blank.isDir = e.isDir := by cases e <;> rfl

@[simp] theorem Entry.isLink_blank (e : Entry) : e.blank.isLink = e.isLink := by cases e <;> rfl

theorem Entry.eq_dir_of_blank {e : Entry} {mode : Nat} (h : e.blank = (Entry.dir mode).blank) :
    ∃ m, e = .dir m := by
  cases e <;> simp_all [Entry.blank]

namespace Tree

variable {t u : Tree} {cwd place : Location} {follow : Bool} {p : Path} {entry : Entry}

/-! ## Trees of the same shape -/

theorem walk_found_eq {links : Nat} {here : Location} {steps : List String}
    (h : t.walk follow links here steps = .ok (.found place entry)) :
    (t.get? place).getD (.dir 0o755) = entry := by
  have hself : t.walk follow links here steps =
      (t.walk follow links here steps).map (Place.seenIn t) := (Parallel.of_shape_eq rfl).walk_eq
  rw [h] at hself
  simpa [Except.map, Place.seenIn] using hself.symm

theorem get?_of_entryAt? (h : t.entryAt? cwd follow p = .ok (place, entry)) :
    (t.get? place).getD (.dir 0o755) = entry :=
  walk_found_eq (entryAt?_eq_ok_iff.mp h).2.2

theorem blank_getD_of_shape (h : t.shape = u.shape) (place : Location) :
    ((t.get? place).getD (.dir 0o755)).blank = ((u.get? place).getD (.dir 0o755)).blank := by
  rw [← Option.getD_map Entry.blank, ← Option.getD_map Entry.blank, ← get?_shape, ← get?_shape, h]

/-- Two trees of the same shape give a path the same entry, but for the bytes of a file. -/
theorem entryAt?_of_shape (h : t.shape = u.shape) (cwd : Location) (follow : Bool) (p : Path) :
    (t.entryAt? cwd follow p).map (fun e => (e.1, e.2.blank)) =
      (u.entryAt? cwd follow p).map (fun e => (e.1, e.2.blank)) := by
  have hwalk : u.locate cwd follow p = (t.locate cwd follow p).map (Place.seenIn u) := by
    unfold locate
    split
    · rfl
    · exact (Parallel.of_shape_eq h).walk_eq
  unfold entryAt?
  rw [hwalk]
  split
  · rfl
  · cases hlocate : t.locate cwd follow p with
    | error cause => rfl
    | ok found =>
      cases found with
      | vacant free => rfl
      | found place entry =>
        have hentry : (t.get? place).getD (.dir 0o755) = entry := by
          unfold locate at hlocate
          split at hlocate
          · cases hlocate
          · exact walk_found_eq hlocate
        simp [Except.map, Place.seenIn, ← hentry, blank_getD_of_shape h place]

/-- So both look-ups fail alike, or come to the same place. -/
theorem entryAt?_cases_of_shape (h : t.shape = u.shape) (cwd : Location) (follow : Bool)
    (p : Path) :
    (∃ e, t.entryAt? cwd follow p = .error e ∧ u.entryAt? cwd follow p = .error e) ∨
      ∃ place entry entry', t.entryAt? cwd follow p = .ok (place, entry) ∧
        u.entryAt? cwd follow p = .ok (place, entry') ∧ entry.blank = entry'.blank := by
  have hentry := entryAt?_of_shape h cwd follow p
  cases ht : t.entryAt? cwd follow p with
  | error e =>
    cases hu : u.entryAt? cwd follow p with
    | error e' =>
      simp only [ht, hu, Except.map, Except.error.injEq] at hentry
      exact Or.inl ⟨e, rfl, by rw [hentry]⟩
    | ok found' => simp [ht, hu, Except.map] at hentry
  | ok found =>
    cases hu : u.entryAt? cwd follow p with
    | error e' => simp [ht, hu, Except.map] at hentry
    | ok found' =>
      simp only [ht, hu, Except.map, Except.ok.injEq, Prod.mk.injEq] at hentry
      exact Or.inr ⟨found.1, found.2, found'.2, rfl, by rw [hentry.1], hentry.2⟩

/-- A test that does not look into files. -/
theorem probe_of_shape (h : t.shape = u.shape) {accept : Entry → Bool}
    (haccept : ∀ e : Entry, accept e.blank = accept e) :
    (t.probe cwd follow p).map (fun found => found.any fun e => accept e.2) =
      (u.probe cwd follow p).map (fun found => found.any fun e => accept e.2) := by
  unfold probe
  rcases entryAt?_cases_of_shape h cwd follow p with
    ⟨e, ht, hu⟩ | ⟨place, entry, entry', ht, hu, hblank⟩
  · rw [ht, hu]
  · rw [ht, hu]
    simp only [Except.map, Option.any_some, Except.ok.injEq]
    rw [← haccept entry, hblank, haccept]

theorem test_of_shape (h : t.shape = u.shape) {accept : Entry → Bool}
    (haccept : ∀ e : Entry, accept e.blank = accept e) :
    t.test cwd p accept = u.test cwd p accept := probe_of_shape h haccept

theorem isFile_of_shape (h : t.shape = u.shape) : t.isFile cwd p = u.isFile cwd p :=
  test_of_shape h Entry.isFile_blank

theorem isDir_of_shape (h : t.shape = u.shape) : t.isDir cwd p = u.isDir cwd p :=
  test_of_shape h Entry.isDir_blank

theorem isLink_of_shape (h : t.shape = u.shape) : t.isLink cwd p = u.isLink cwd p :=
  probe_of_shape h Entry.isLink_blank

theorem kind?_of_shape (h : t.shape = u.shape) : t.kind? cwd p = u.kind? cwd p := by
  unfold kind?
  rw [isFile_of_shape h, isDir_of_shape h]

theorem names_of_shape (h : t.shape = u.shape) (place : Location) :
    t.names place = u.names place := by
  have hplaces : t.places = u.places := by
    rw [← places_shape, h, places_shape]
  have hnames : ∀ s : Tree, s.entries.filterMap (fun e => nameIn? place e.1) =
      s.places.filterMap (nameIn? place) := by
    intro s
    rw [places, List.filterMap_map]
    rfl
  rw [names, names, hnames, hnames, hplaces]

theorem list_of_shape {faults : Faults} (h : t.shape = u.shape) :
    t.list faults cwd p = u.list faults cwd p := by
  unfold list
  split
  · rfl
  · rcases entryAt?_cases_of_shape h cwd true p with
      ⟨e, ht, hu⟩ | ⟨place, entry, entry', ht, hu, hblank⟩
    · rw [ht, hu]
    · rw [ht, hu]
      cases entry <;> cases entry' <;> simp_all [Entry.blank, names_of_shape h place]

theorem Stands.of_shape (h : t.shape = u.shape) (hstands : Stands t place entry) :
    ∃ e, Stands u place e ∧ e.blank = entry.blank := by
  induction hstands with
  | top => exact ⟨_, .top, rfl⟩
  | @child here mode step entry parent name found ih =>
    obtain ⟨e, hparent, hblank⟩ := ih
    obtain ⟨m, rfl⟩ := Entry.eq_dir_of_blank hblank
    have hget := congrArg (fun s => get? s (here ++ [step])) h
    simp only [get?_shape, found, Option.map_some] at hget
    obtain ⟨e', he', hblank'⟩ := Option.map_eq_some_iff.mp hget.symm
    exact ⟨e', hparent.child name he', hblank'⟩

/-- The current directory is still there. -/
theorem Stands.dir_of_shape (h : t.shape = u.shape) (hcwd : ∃ mode, Stands t cwd (.dir mode)) :
    ∃ mode, Stands u cwd (.dir mode) := by
  obtain ⟨mode, hmode⟩ := hcwd
  obtain ⟨e, hstands, hblank⟩ := hmode.of_shape h
  obtain ⟨m, rfl⟩ := Entry.eq_dir_of_blank hblank
  exact ⟨m, hstands⟩

/-! ## Files and directories -/

theorem isDir_eq_false_of_isFile (h : t.isFile cwd p = .ok true) : t.isDir cwd p = .ok false := by
  simp only [isFile, isDir, test] at h ⊢
  cases hprobe : t.probe cwd true p with
  | error e => simp [hprobe, Except.map] at h
  | ok found =>
    cases found with
    | none => rfl
    | some found =>
      simp only [hprobe, Except.map, Option.any_some, Except.ok.injEq] at h ⊢
      cases hentry : found.2 <;> simp_all [Entry.isFile, Entry.isDir]

theorem kind?_eq_file_iff : t.kind? cwd p = .ok (some .file) ↔ t.isFile cwd p = .ok true := by
  constructor
  · intro h
    simp only [kind?, bind, Except.bind, pure, Except.pure] at h
    split at h
    · cases h
    · split at h
      · cases h
      · split at h
        · cases h
        · next file hfile =>
          split at h
          · next htrue => rw [hfile, htrue]
          · cases h
  · intro h
    simp [kind?, isDir_eq_false_of_isFile h, h, bind, Except.bind, pure, Except.pure]

theorem kind?_eq_directory_iff :
    t.kind? cwd p = .ok (some .directory) ↔ t.isDir cwd p = .ok true := by
  constructor
  · intro h
    simp only [kind?, bind, Except.bind, pure, Except.pure] at h
    split at h
    · cases h
    · next dir hdir =>
      split at h
      · next htrue => rw [hdir, htrue]
      · split at h
        · cases h
        · split at h <;> cases h
  · intro h
    simp [kind?, h, bind, Except.bind, pure, Except.pure]

/-! ## Questions that are refused -/

variable {links : Nat} {here : Location} {steps : List String} {cause : Cause} {e : SystemError}

/-- A walk fails because it leads nowhere, or because a name on it is too long. -/
theorem walk_error (h : t.walk follow links here steps = .error cause) :
    cause.isAbsence = true ∨ cause = .nameTooLong := by
  fun_induction walk t follow links here steps with
  | case1 | case5 | case8 | case11 => cases h
  | case2 links here step rest hskip ih => exact ih h
  | case3 links here rest hskip ih => exact ih h
  | case7 links here step rest hskip hup hlong next mode hget ih => exact ih h
  | case10 here step rest hskip hup hlong next target hget hmore links ih => exact ih h
  | case4 =>
    cases h
    exact Or.inr rfl
  | case6 | case9 | case12 =>
    cases h
    exact Or.inl rfl

/-- A path cannot be looked up if it cannot be passed to the system, or if the system refuses it. -/
theorem entryAt?_error (h : t.entryAt? cwd follow p = .error e) :
    (Path.holdsNul p.text = true ∧ e = .nulInPath) ∨
      ∃ cause, e = .refused cause p.text ∧ (cause.isAbsence = true ∨ cause = .nameTooLong) := by
  unfold entryAt? locate at h
  split at h
  · next hnul =>
    cases h
    exact Or.inl ⟨hnul, rfl⟩
  · right
    split at h
    · cases h
    · cases h
      exact ⟨_, rfl, Or.inl rfl⟩
    · next cause hcause =>
      cases h
      refine ⟨cause, rfl, ?_⟩
      split at hcause
      · cases hcause
        exact Or.inr rfl
      · exact walk_error hcause

/-- The only thing that a test of a path does not take for an answer is a name that is too long. -/
theorem probe_error (h : t.probe cwd follow p = .error e) : e = .refused .nameTooLong p.text := by
  unfold probe at h
  cases hentry : t.entryAt? cwd follow p with
  | ok found => simp [hentry] at h
  | error e' =>
    rw [hentry] at h
    rcases entryAt?_error hentry with ⟨-, rfl⟩ | ⟨cause, rfl, habsent | rfl⟩
    · cases h
    · simp [habsent] at h
    · simpa [Cause.isAbsence] using h.symm

theorem isLink_error (h : t.isLink cwd p = .error e) : e = .refused .nameTooLong p.text := by
  unfold isLink at h
  cases hprobe : t.probe cwd false p with
  | ok found => simp [hprobe, Except.map] at h
  | error e' =>
    have heq : e' = e := by simpa [hprobe, Except.map] using h
    exact heq ▸ probe_error hprobe

/-- A path that can be passed to the system can be listed, or the system refuses it. -/
theorem isRefusal_of_list {faults : Faults} (hnul : Path.holdsNul p.text = false)
    (h : t.list faults cwd p = .error e) : e.isRefusal = true := by
  unfold list at h
  split at h
  · cases h
    rfl
  · split at h
    · next hentry =>
      cases h
      rcases entryAt?_error hentry with ⟨hholds, -⟩ | ⟨cause, rfl, -⟩
      · rw [hnul] at hholds
        cases hholds
      · rfl
    · cases h
    · cases h
      rfl

theorem test_error {accept : Entry → Bool} (h : t.test cwd p accept = .error e) :
    t.probe cwd true p = .error e := by
  unfold test at h
  cases hprobe : t.probe cwd true p with
  | ok found => simp [hprobe, Except.map] at h
  | error e' => simpa [hprobe, Except.map] using h

theorem test_ok {accept : Entry → Bool} {b : Bool} (h : t.test cwd p accept = .ok b)
    (accept' : Entry → Bool) : ∃ b', t.test cwd p accept' = .ok b' := by
  unfold test at h ⊢
  cases hprobe : t.probe cwd true p with
  | ok found => exact ⟨_, rfl⟩
  | error e' => simp [hprobe, Except.map] at h

/-- To ask for the kind of an entry fails only where looking at it does. -/
theorem kind?_error (h : t.kind? cwd p = .error e) : t.probe cwd true p = .error e := by
  simp only [kind?, bind, Except.bind, pure, Except.pure] at h
  split at h
  · next hdir =>
    cases h
    exact test_error hdir
  · split at h
    · cases h
    · split at h
      · next hfile =>
        cases h
        exact test_error hfile
      · split at h <;> cases h

/-- What satisfies a test is found. -/
theorem entryAt?_of_test {accept : Entry → Bool} (h : t.test cwd p accept = .ok true) :
    ∃ place entry, t.entryAt? cwd true p = .ok (place, entry) ∧ accept entry = true := by
  unfold test probe at h
  cases hentry : t.entryAt? cwd true p with
  | ok found =>
    rw [hentry] at h
    exact ⟨found.1, found.2, rfl, by simpa [Except.map] using h⟩
  | error e' =>
    rw [hentry] at h
    rcases entryAt?_error hentry with ⟨-, rfl⟩ | ⟨cause, rfl, habsent | rfl⟩
    · cases h
    · simp [habsent, Except.map] at h
    · cases h

/-- A path that leads to a file is one. -/
theorem isFile_of_file {bytes : Bytes} {mode : Nat}
    (h : t.entryAt? cwd true p = .ok (place, .file bytes mode)) : t.isFile cwd p = .ok true := by
  simp [isFile, test, probe, h, Except.map, Entry.isFile]

theorem isDir_of_dir {mode : Nat} (h : t.entryAt? cwd true p = .ok (place, .dir mode)) :
    t.isDir cwd p = .ok true := by
  simp [isDir, test, probe, h, Except.map, Entry.isDir]

theorem isFile_of_isDir (h : t.isDir cwd p = .ok true) : t.isFile cwd p = .ok false := by
  obtain ⟨b, hb⟩ := test_ok h Entry.isFile
  cases b with
  | false => exact hb
  | true => exact nomatch h.symm.trans (isDir_eq_false_of_isFile hb)

theorem list_of_dir {mode : Nat} (h : t.entryAt? cwd true p = .ok (place, .dir mode)) :
    t.list .none cwd p = .ok (t.names place) := by
  simp [list, h, Faults.none]

/-- A path of which something holds leads to an entry. -/
theorem pathExists_of_test {accept : Entry → Bool} (h : t.test cwd p accept = .ok true) :
    t.pathExists cwd p = .ok true := by
  obtain ⟨place, entry, hentry, -⟩ := entryAt?_of_test h
  simp [pathExists, test, probe, hentry, Except.map]

theorem pathExists_of_isFile (h : t.isFile cwd p = .ok true) : t.pathExists cwd p = .ok true :=
  pathExists_of_test h

/-- Of what is found it can also be told whether it is a link. -/
theorem isLink_of_entryAt? (h : t.entryAt? cwd true p = .ok (place, entry)) :
    ∃ b, t.isLink cwd p = .ok b := by
  obtain ⟨hnul, hlong, hwalk⟩ := entryAt?_eq_ok_iff.mp h
  obtain ⟨q, e, hstay⟩ := walk_false_of_true hwalk
  have hentry : t.entryAt? cwd false p = .ok (q, e) := entryAt?_eq_ok_iff.mpr ⟨hnul, hlong, hstay⟩
  exact ⟨e.isLink, by simp [isLink, probe, hentry, Except.map]⟩

end Tree
end BatchFormat
