import BatchFormat.Proofs.Tree.Files
import BatchFormat.Proofs.Tree.Interrupted
import BatchFormat.Proofs.Tree.Room

/-!
# Marks drawn anew

The marks of temporary files are drawn anew for every replacement. All of them have the same size,
so it does not depend on the order of the draw whether a file can be replaced, and what fails, fails
for the same reason. Only the name of a temporary file that is too long shows which mark was drawn.
-/
namespace BatchFormat

/-- Two messages that are the same but for the mark in the name of a temporary file. -/
inductive SameButMark : String → String → Prop
  | same (message : String) : SameButMark message message
  | marked (p : Path) {mark mark' : String} (h : mark.utf8ByteSize = 8)
    (h' : mark'.utf8ByteSize = 8) :
    SameButMark (Draft.tooLong p mark).message (Draft.tooLong p mark').message

/-- Two requests that both succeed, or fail for the same reason. -/
inductive SameButDraw {α β : Type} : Except SystemError α → Except SystemError β → Prop
  | done (a : α) (b : β) : SameButDraw (.ok a) (.ok b)
  | failed {e e' : SystemError} (h : SameButMark e.message e'.message) :
    SameButDraw (.error e) (.error e')

theorem SameButDraw.cases {α β : Type} {x : Except SystemError α} {y : Except SystemError β}
    (h : SameButDraw x y) : (∃ a b, x = .ok a ∧ y = .ok b) ∨
      ∃ e e', x = .error e ∧ y = .error e' ∧ SameButMark e.message e'.message := by
  cases h with
  | done a b => exact Or.inl ⟨a, b, rfl, rfl⟩
  | failed h => exact Or.inr ⟨_, _, rfl, rfl, h⟩

namespace Draft

variable {t : Tree} {dir : Location} {p : Path} {marks draws : List String}

theorem freePlace_of_tight {mark : String} (hp : p.parts ≠ []) (hmark : mark.utf8ByteSize = 8)
    (hroom : ¬p.LeavesRoom) : freePlace t dir p (mark :: marks) = .error (tooLong p mark) :=
  if_pos ((tooLong_iff hp hmark).mpr hroom)

/-- No name is free if something stands there for each mark. -/
theorem freePlace_of_full (hp : p.parts ≠ []) (hmarks : ∀ mark ∈ marks, mark.utf8ByteSize = 8)
    (hroom : p.LeavesRoom)
    (hfull : ∀ mark ∈ marks, t.get? (dir ++ [temporaryName p.name mark]) ≠ none) :
    freePlace t dir p marks = .error .noFreeName := by
  induction marks with
  | nil => rfl
  | cons mark marks ih =>
    have hshort := mt (tooLong_iff hp (hmarks mark List.mem_cons_self)).mp (not_not_intro hroom)
    have htaken := Option.isSome_iff_ne_none.mpr (hfull mark List.mem_cons_self)
    simp only [freePlace, if_neg hshort, htaken, if_true]
    exact ih (fun mark hmark => hmarks mark (List.mem_cons_of_mem _ hmark))
      fun mark hmark => hfull mark (List.mem_cons_of_mem _ hmark)

/-- Whether there is a place for a temporary file does not depend on the order of the marks. -/
theorem freePlace_of_perm (hdraws : draws.Perm marks) (hp : p.parts ≠ [])
    (hmarks : ∀ mark ∈ marks, mark.utf8ByteSize = 8) :
    SameButDraw (freePlace t dir p draws) (freePlace t dir p marks) := by
  have hsizes : ∀ mark ∈ draws, mark.utf8ByteSize = 8 :=
    fun mark hmark => hmarks mark (hdraws.mem_iff.mp hmark)
  by_cases hroom : p.LeavesRoom
  · by_cases hfree : ∃ mark ∈ marks, t.get? (dir ++ [temporaryName p.name mark]) = none
    · obtain ⟨place, hplace⟩ := freePlace_ok hp hmarks hroom hfree
      obtain ⟨drawn, hdrawn⟩ := freePlace_ok hp hsizes hroom
        (hfree.imp fun mark h => ⟨hdraws.mem_iff.mpr h.1, h.2⟩)
      rw [hplace, hdrawn]
      exact .done _ _
    · have hfull : ∀ mark ∈ marks, t.get? (dir ++ [temporaryName p.name mark]) ≠ none :=
        fun mark hmark hnone => hfree ⟨mark, hmark, hnone⟩
      rw [freePlace_of_full hp hmarks hroom hfull, freePlace_of_full hp hsizes hroom
        fun mark hmark => hfull mark (hdraws.mem_iff.mp hmark)]
      exact .failed (.same _)
  · cases marks with
    | nil =>
      obtain rfl := hdraws.eq_nil
      exact .failed (.same _)
    | cons mark marks =>
      cases draws with
      | nil => cases hdraws.symm.eq_nil
      | cons drawn draws =>
        have hmark := hmarks mark List.mem_cons_self
        have hdrawn := hsizes drawn List.mem_cons_self
        rw [freePlace_of_tight hp hmark hroom, freePlace_of_tight hp hdrawn hroom]
        exact .failed (.marked p hdrawn hmark)

end Draft

namespace Tree

variable {t : Tree} {faults : Faults} {marks draws : List String} {cwd place : Location}
  {p : Path} {content : String} {bytes : Bytes} {mode : Nat} {d : Draft}

theorem path_of_draft (hreal : t.resolve cwd p = .ok place)
    (h : t.draft faults marks cwd p content = .ok d) : d.path = Path.ofNames place := by
  simp only [draft, hreal, bind, Except.bind] at h
  split at h
  · cases h
  · split at h
    · cases h
    · split at h
      · cases h
      · split at h
        · cases h
        · cases h
          rfl

section

variable (hfile : t.entryAt? cwd true p = .ok (place, .file bytes mode))
  (hdraws : draws.Perm marks) (hmarks : ∀ mark ∈ marks, mark.utf8ByteSize = 8)
include hfile hdraws hmarks

/-- Two drafts with the same marks in another order differ in the mark that they drew, and in
nothing else. -/
theorem draft_of_perm (faults : Faults) (content : String) :
    SameButDraw (t.draft faults draws cwd p content) (t.draft faults marks cwd p content) := by
  have hresolve : t.resolve cwd p = .ok place := resolve_of_entry hfile
  have hparts : (Path.ofNames place).parts ≠ [] := place_ne_nil_of_file (get?_of_file hfile)
  simp only [draft, hresolve, bind, Except.bind]
  cases hreached : t.entryAt? [] true (Path.ofNames place) with
  | error e => exact .failed (.same _)
  | ok found =>
    cases hnamed : t.entryAt? [] false (Path.ofNames place) with
    | error e => exact .failed (.same _)
    | ok named =>
      have hplaces : SameButDraw
          (Draft.freePlace t named.1.dropLast (Path.ofNames place) draws)
          (Draft.freePlace t named.1.dropLast (Path.ofNames place) marks) :=
        Draft.freePlace_of_perm hdraws hparts hmarks
      rcases hplaces.cases with ⟨temp, temp', hdrawn, hmarked⟩ | ⟨e, e', hdrawn, hmarked, hsame⟩
      · simp only [hdrawn, hmarked]
        cases faults.create (Path.ofNames place) with
        | true => exact .failed (.same _)
        | false => exact .done _ _
      · simp only [hdrawn, hmarked]
        exact .failed hsame

/-- Whether a file is replaced, and if not, why, does not depend on the draw. -/
theorem replace_of_perm (hcwd : ∃ mode, t.Stands cwd (.dir mode)) (faults : Faults)
    (content : String) :
    SameButDraw (t.replace faults draws cwd p content).1
      (t.replace faults marks cwd p content).1 := by
  have hreal := realFile_of_entry hcwd hfile
  have hresolve : t.resolve cwd p = .ok place := resolve_of_entry hfile
  have hget := get?_of_file hfile
  unfold replace
  rcases (draft_of_perm hfile hdraws hmarks faults content).cases with
    ⟨d, d', hdrawn, hmarked⟩ | ⟨e, e', hdrawn, hmarked, hsame⟩
  · obtain ⟨htarget, -, -, -, htemp, -⟩ := hreal.draft hdrawn
    obtain ⟨htarget', -, -, -, htemp', -⟩ := hreal.draft hmarked
    have hcarry := Draft.carryOut_of_file htemp (htarget ▸ hget) faults
    have hcarry' := Draft.carryOut_of_file htemp' (htarget' ▸ hget) faults
    rw [path_of_draft hresolve hdrawn] at hcarry
    rw [path_of_draft hresolve hmarked] at hcarry'
    simp only [hdrawn, hmarked, hcarry, hcarry']
    cases faults.spoil (Path.ofNames place) with
    | true => exact .failed (.same _)
    | false => exact .done _ _
  · rw [hdrawn, hmarked]
    exact .failed hsame

end

end Tree
end BatchFormat
