import Mathlib.Data.List.Induction
import Mathlib.Tactic.ByContra
import BatchFormat.Proofs.Tree.Files

/-!
# Room for a temporary file

The temporary file of a replacement has a longer name than the file itself. A system that takes the
one may refuse the other, so some files can be read but not replaced.
-/
namespace BatchFormat

namespace Path

variable {p : Path} {name : String} {names : List String}

/-! ## Texts of paths -/

def lead (p : Path) : String := if p.parts = [] then Anchor.text p.anchor else p.text ++ "/"

theorem intercalate_concat (names : List String) (hne : names ≠ []) (name : String) :
    String.intercalate "/" (names ++ [name]) = String.intercalate "/" names ++ "/" ++ name := by
  induction names with
  | nil => exact (hne rfl).elim
  | cons first names ih =>
    cases names with
    | nil => simp [String.intercalate_cons_cons]
    | cons next names =>
      have htail := ih (by simp)
      rw [List.cons_append] at htail
      rw [List.cons_append, List.cons_append, String.intercalate_cons_cons, htail,
        String.intercalate_cons_cons]
      simp only [String.append_assoc]

theorem text_child (p : Path) (name : String) : (p.child name).text = p.lead ++ name := by
  have hmore : (p.child name).parts ≠ [] := by simp [child]
  rw [text, if_neg fun hdot => hmore hdot.2, lead]
  by_cases hparts : p.parts = []
  · simp [child, hparts]
  · rw [if_neg hparts, text, if_neg fun hdot => hparts hdot.2]
    simp only [child, intercalate_concat p.parts hparts, String.append_assoc]

theorem child_parent (h : p.parts ≠ []) : p.parent.child p.name = p := by
  have hlast := List.dropLast_concat_getLast h
  obtain ⟨anchor, parts⟩ := p
  simpa [parent, child, name, List.getLast?_eq_some_getLast h] using hlast

/-- Going on by a name makes no path shorter. -/
theorem utf8ByteSize_child_le (p : Path) (hname : name ≠ "") :
    p.text.utf8ByteSize ≤ (p.child name).text.utf8ByteSize := by
  have hpos : 0 < name.utf8ByteSize := by
    rw [Nat.pos_iff_ne_zero, ne_eq, String.utf8ByteSize_eq_zero_iff]
    exact hname
  have hdot : ".".utf8ByteSize = 1 := by decide
  rw [text_child, String.utf8ByteSize_append, lead]
  by_cases hparts : p.parts = []
  · rw [if_pos hparts, text]
    by_cases hanchor : p.anchor = .relative
    · rw [if_pos ⟨hanchor, hparts⟩]
      omega
    · rw [if_neg fun hempty => hanchor hempty.1, hparts]
      simp
  · rw [if_neg hparts, String.utf8ByteSize_append]
    omega

theorem holdsNul_append (s u : String) : holdsNul (s ++ u) = (holdsNul s || holdsNul u) := by
  simp [holdsNul]

theorem holdsNul_child (h : holdsNul p.text = false) (hname : holdsNul name = false) :
    holdsNul (p.child name).text = false := by
  have hslash : holdsNul "/" = false := by decide
  have hanchor : ∀ anchor : Anchor, holdsNul (Anchor.text anchor) = false := by
    rintro (_ | _ | _) <;> decide
  rw [text_child, holdsNul_append, hname, Bool.or_false, lead]
  split
  · exact hanchor p.anchor
  · rw [holdsNul_append, h, hslash]
    rfl

def extend (p : Path) (names : List String) : Path := { p with parts := p.parts ++ names }

@[simp] theorem extend_nil (p : Path) : p.extend [] = p := by simp [extend]

theorem extend_concat (p : Path) (names : List String) (name : String) :
    p.extend (names ++ [name]) = (p.extend names).child name := by
  simp [extend, child]

theorem holdsNul_extend (h : holdsNul p.text = false)
    (hnames : ∀ name ∈ names, holdsNul name = false) : holdsNul (p.extend names).text = false := by
  induction names using List.reverseRecOn with
  | nil => simpa using h
  | append_singleton names name ih =>
    rw [extend_concat]
    exact holdsNul_child (ih fun other hother => hnames other (by simp [hother]))
      (hnames name (by simp))

theorem extend_ofNames (names : List String) : (ofNames []).extend names = ofNames names := by
  simp [extend, ofNames]

/-- The system takes the name and the path of a temporary file for a path: both are longer by two
dots, by a mark, which has eight bytes, and by four bytes behind it. -/
structure LeavesRoom (p : Path) : Prop where
  name : p.name.utf8ByteSize + 14 ≤ Tree.nameLimit
  text : p.text.utf8ByteSize + 14 ≤ Tree.pathLimit

end Path

/-- Whether one of the requests fails that put a new file in the place of another, once there is a
temporary file. -/
def Faults.spoil (faults : Faults) (real : Path) : Bool :=
  (faults.write real).isSome || faults.mode real || faults.replace real

namespace Draft

variable {t : Tree} {d : Draft} {dir : Location} {p : Path} {marks : List String} {mark : String}
  {bytes : Bytes} {mode : Nat}

theorem utf8ByteSize_temporaryName (hmark : mark.utf8ByteSize = 8) (name : String) :
    (temporaryName name mark).utf8ByteSize = name.utf8ByteSize + 14 := by
  have hdot : ".".utf8ByteSize = 1 := by decide
  have hending : ".tmp".utf8ByteSize = 4 := by decide
  simp only [temporaryName, String.utf8ByteSize_append, toString, hdot, hending, hmark]
  omega

/-- The system takes a temporary file beside a path exactly if the path leaves room for it. -/
theorem tooLong_iff (hp : p.parts ≠ []) (hmark : mark.utf8ByteSize = 8) :
    ((temporaryName p.name mark).utf8ByteSize > Tree.nameLimit ∨
      (p.parent.child (temporaryName p.name mark)).text.utf8ByteSize > Tree.pathLimit) ↔
      ¬p.LeavesRoom := by
  have hname := utf8ByteSize_temporaryName hmark p.name
  have htext : p.text.utf8ByteSize = p.parent.lead.utf8ByteSize + p.name.utf8ByteSize := by
    rw [← String.utf8ByteSize_append, ← Path.text_child, Path.child_parent hp]
  rw [Path.text_child, String.utf8ByteSize_append]
  constructor
  · rintro hlong ⟨hnamed, htexted⟩
    omega
  · intro hroom
    by_contra hshort
    exact hroom ⟨by omega, by omega⟩

theorem freePlace_error (hp : p.parts ≠ []) (hmarks : ∀ mark ∈ marks, mark.utf8ByteSize = 8)
    (hroom : ¬p.LeavesRoom) : ∃ e, freePlace t dir p marks = .error e := by
  cases marks with
  | nil => exact ⟨_, rfl⟩
  | cons mark marks =>
    have hlong := (tooLong_iff hp (hmarks mark List.mem_cons_self)).mpr hroom
    exact ⟨_, by simp only [freePlace, if_pos hlong]; rfl⟩

/-- A free mark is found if there is one, and if the name leaves room for it. -/
theorem freePlace_ok (hp : p.parts ≠ []) (hmarks : ∀ mark ∈ marks, mark.utf8ByteSize = 8)
    (hroom : p.LeavesRoom)
    (hfree : ∃ mark ∈ marks, t.get? (dir ++ [temporaryName p.name mark]) = none) :
    ∃ place, freePlace t dir p marks = .ok place := by
  induction marks with
  | nil =>
    obtain ⟨mark, hmark, -⟩ := hfree
    cases hmark
  | cons mark marks ih =>
    have hshort := mt (tooLong_iff hp (hmarks mark List.mem_cons_self)).mp (not_not_intro hroom)
    simp only [freePlace, if_neg hshort]
    cases hget : t.get? (dir ++ [temporaryName p.name mark]) with
    | none => exact ⟨_, rfl⟩
    | some entry =>
      obtain ⟨other, hother, hnone⟩ := hfree
      rcases List.mem_cons.mp hother with rfl | hlater
      · cases hget.symm.trans hnone
      · exact ih (fun mark hmark => hmarks mark (List.mem_cons_of_mem _ hmark))
          ⟨other, hlater, hnone⟩

/-- Over a file nothing fails but the requests that are to fail. -/
theorem carryOut_of_file (htemp : t.get? d.temp = none)
    (htarget : t.get? d.target = some (.file bytes mode)) (faults : Faults) :
    (d.carryOut faults t).1 = if faults.spoil d.path then .error .diskFull else .ok () := by
  have hne : d.target ≠ d.temp := by
    intro heq
    rw [heq, htemp] at htarget
    cases htarget
  have hrefusal : d.refusal? faults (t.put d.temp (.file d.bytes d.mode)) =
      if faults.replace d.path then some .diskFull else none := by
    simp [refusal?, Tree.place_ne_nil_of_file htarget, Tree.get?_put_of_ne hne, htarget,
      Entry.isDir]
  unfold carryOut Faults.spoil
  cases hwrite : faults.write d.path with
  | some count => simp
  | none =>
    cases hmode : faults.mode d.path with
    | true => simp
    | false =>
      simp only [setMode_eq, hrefusal]
      cases hreplace : faults.replace d.path <;> simp

end Draft

namespace Tree

variable {t : Tree} {cwd place : Location} {p : Path} {marks : List String} {content : String}
  {bytes : Bytes} {mode : Nat}

/-- A file keeps its name and its place on its real path, if the system takes that. -/
theorem entryAt?_ofNames (hcwd : ∃ mode, t.Stands cwd (.dir mode))
    (hfile : t.entryAt? cwd true p = .ok (place, .file bytes mode))
    (hnul : Path.holdsNul (Path.ofNames place).text = false)
    (hshort : (Path.ofNames place).text.utf8ByteSize ≤ pathLimit) (follow : Bool) :
    t.entryAt? [] follow (Path.ofNames place) = .ok (place, .file bytes mode) :=
  entryAt?_eq_ok_iff.mpr
    ⟨hnul, hshort, (Stands.of_entry hcwd hfile).1.walk_eq fun _ => rfl⟩

section

variable (hcwd : ∃ mode, t.Stands cwd (.dir mode))
  (hfile : t.entryAt? cwd true p = .ok (place, .file bytes mode))
  (hnul : Path.holdsNul (Path.ofNames place).text = false)
  (hmarks : ∀ mark ∈ marks, mark.utf8ByteSize = 8)
  (hfree : ∃ mark ∈ marks, t.get? (place.dropLast ++
    [Draft.temporaryName (Path.ofNames place).name mark]) = none)
include hcwd hfile hnul hmarks hfree

/-- A file whose real path leaves room for the temporary file is replaced, unless a request is to
fail. -/
theorem replace_of_room (hroom : (Path.ofNames place).LeavesRoom) (faults : Faults)
    (content : String) : (t.replace faults marks cwd p content).1 =
      if faults.create (Path.ofNames place) || faults.spoil (Path.ofNames place) then
        .error .diskFull
      else .ok place := by
  have hresolve : t.resolve cwd p = .ok place := resolve_of_entry hfile
  have hget := get?_of_file hfile
  have hshort : (Path.ofNames place).text.utf8ByteSize ≤ pathLimit := by
    have := hroom.text
    omega
  have hentry := entryAt?_ofNames hcwd hfile hnul hshort
  obtain ⟨temp, htemp⟩ := Draft.freePlace_ok (place_ne_nil_of_file hget) hmarks hroom hfree
  have hcarry : (Draft.carryOut ⟨Path.ofNames place, temp, place, Text.encode content, mode⟩
      faults t).1 = if faults.spoil (Path.ofNames place) then .error .diskFull else .ok () :=
    Draft.carryOut_of_file (Draft.freePlace_spec htemp).2 hget faults
  simp only [replace, draft, hresolve, hentry, htemp, bind, Except.bind]
  cases faults.create (Path.ofNames place) with
  | true => rfl
  | false =>
    simp only [Entry.mode, Bool.false_eq_true, if_false, hcarry, Bool.false_or]
    cases faults.spoil (Path.ofNames place) <;> rfl

/-- On a device where nothing fails a file can be replaced exactly if its real path leaves room for
the temporary file. -/
theorem exists_replace_iff : (∃ there, (t.replace .none marks cwd p content).1 = .ok there) ↔
    (Path.ofNames place).LeavesRoom := by
  have hresolve : t.resolve cwd p = .ok place := resolve_of_entry hfile
  have hparts : (Path.ofNames place).parts ≠ [] := place_ne_nil_of_file (get?_of_file hfile)
  constructor
  · rintro ⟨there, hdone⟩
    unfold replace at hdone
    cases hdraft : t.draft .none marks cwd p content with
    | error e => rw [hdraft] at hdone; cases hdone
    | ok d =>
      obtain ⟨real, old, followed, last, hreal, hnamed, -⟩ := draft_spec hdraft
      obtain rfl := Except.ok.inj (hresolve.symm.trans hreal)
      obtain ⟨-, hshort, -⟩ := entryAt?_eq_ok_iff.mp hnamed
      have hentry := entryAt?_ofNames hcwd hfile hnul hshort
      by_contra hroom
      obtain ⟨e, hfull⟩ : ∃ e, Draft.freePlace t place.dropLast (Path.ofNames place) marks =
          .error e := Draft.freePlace_error hparts hmarks hroom
      simp [draft, hresolve, hentry, hfull, bind, Except.bind] at hdraft
  · intro hroom
    exact ⟨place, replace_of_room hcwd hfile hnul hmarks hfree hroom .none content⟩

end

end Tree
end BatchFormat
