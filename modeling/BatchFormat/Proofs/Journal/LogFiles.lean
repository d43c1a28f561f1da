import Mathlib.Data.List.Count
import Mathlib.Data.List.Nodup
import BatchFormat.Proofs.Journal.Opening
import BatchFormat.Proofs.Tree.Files

/-!
# What the log files hold

A record goes to every log file that was opened and is still reached, once for each time the file
was opened, if it passes the level of the journal. That level is set by the last set-up alone: one
that names no log file and wants few details holds back from the files of earlier ones.
-/
namespace BatchFormat.Journal

variable {j k : Journal} {t u : Tree} {cwd place other : Location} {bytes : Bytes} {mode : Nat}
  {text stamp : String} {r : Record} {replaced places : List Location}
  {emitted : List (String × Record)}

/-! ## One record -/

theorem reaches_fileLevel (l : Level) : l.reaches fileLevel = true := by
  cases l <;> decide

theorem get?_append_self (h : t.get? place = some (.file bytes mode)) :
    (append text place t).get? place = some (.file (bytes ++ Text.encode text) mode) := by
  unfold append
  rw [h]
  exact Tree.get?_put_self (Tree.place_ne_nil_of_file h)

theorem get?_append_of_ne (h : other ≠ place) :
    (append text place t).get? other = t.get? other := by
  unfold append
  split
  · exact Tree.get?_put_of_ne h
  · rfl

/-- How often a record is written to the log file at a place: once for each time that the file was
opened and is still reached, if the record passes. -/
def copies (j : Journal) (place : Location) (r : Record) : Nat :=
  if r.level.reaches j.level then j.files.count ⟨place, true⟩ else 0

/-- What records add to a file that each of them is written to a number of times. -/
def lines (count : Record → Nat) (emitted : List (String × Record)) : Bytes :=
  emitted.flatMap fun e => (List.replicate (count e.2) (Text.encode (fileLine e.1 e.2))).flatten

/-- Text that is added to several log files comes to one of them as often as it is among them. -/
theorem get?_appendAll {files : List LogFile} (hplace : place ∉ replaced)
    (h : t.get? place = some (.file bytes mode)) :
    (files.foldl (fun t f =>
      if f.isReached && !replaced.contains f.place then append text f.place t else t) t).get?
        place = some (.file (bytes ++
      (List.replicate (files.count ⟨place, true⟩) (Text.encode text)).flatten) mode) := by
  induction files generalizing t bytes with
  | nil => simpa using h
  | cons f files ih =>
    rw [List.foldl_cons]
    by_cases heq : f = ⟨place, true⟩
    · subst heq
      rw [if_pos (by simpa using hplace), ih (get?_append_self h), List.count_cons_self,
        List.replicate_succ, List.flatten_cons, List.append_assoc]
    · rw [List.count_cons_of_ne heq]
      refine ih ?_
      split
      · next hreached =>
        have hne : place ≠ f.place := fun hsame => heq (by cases f; simp_all)
        rw [get?_append_of_ne hne, h]
      · exact h

/-- A file gets the line of a record as often as the record is written to it. -/
theorem get?_echo (hplace : place ∉ replaced) (h : t.get? place = some (.file bytes mode)) :
    (j.echo stamp replaced r t).get? place =
      some (.file (bytes ++ lines (j.copies place) [(stamp, r)]) mode) := by
  have hline : lines (j.copies place) [(stamp, r)] =
      (List.replicate (j.copies place r) (Text.encode (fileLine stamp r))).flatten :=
    List.flatMap_singleton _ _
  rw [hline, echo, copies, reaches_fileLevel, Bool.and_true]
  split
  · exact get?_appendAll hplace h
  · simpa using h

/-! ## A sequence of set-ups -/

structure Setting where
  debug : Bool
  logFile? : Option String
  detail : Int
  deriving DecidableEq, Repr

namespace Setting

def file? (s : Setting) : Option String :=
  s.logFile?.bind fun name => if name = "" then none else some name

def shown (s : Setting) : Int := if s.debug then 2 else s.detail

def keepsAll (s : Setting) : Bool := s.file?.isSome || s.shown ≥ 2

def level (s : Setting) : Level := if s.keepsAll then fileLevel else .info

end Setting

variable {s : Setting} {settings : List Setting}

def setUpAll (cwd : Location) : List Setting → Journal → Tree → Except SystemError (Journal × Tree)
  | [], j, t => .ok (j, t)
  | s :: rest, j, t =>
    match j.setUp cwd s.debug s.logFile? s.detail t with
    | (.error e, _, _) => .error e
    | (.ok (), j, t) => setUpAll cwd rest j t

/-- Opens the log files that are named, one after the other, and tells where they are. -/
def openAll (cwd : Location) : List Setting → Tree → Except SystemError (List Location × Tree)
  | [], t => .ok ([], t)
  | s :: rest, t =>
    match s.file? with
    | none => openAll cwd rest t
    | some name =>
      match openFile t (filePath cwd name) with
      | .error e => .error e
      | .ok (place, t) => (openAll cwd rest t).map fun opened => (place :: opened.1, opened.2)

/-- A set-up changes the level of detail first, whether or not the file can be opened then. -/
theorem setUp_eq (j : Journal) (cwd : Location) (s : Setting) (t : Tree) :
    j.setUp cwd s.debug s.logFile? s.detail t =
      match s.file? with
      | none => (.ok (), j.setDetail s.shown, t)
      | some name =>
        match openFile t (filePath cwd name) with
        | .error e => (.error e, j.setDetail s.shown, t)
        | .ok (place, t) => (.ok (), (j.setDetail s.shown).addFile place, t) := by
  unfold setUp Setting.file? Setting.shown
  cases s.logFile? with
  | none => rfl
  | some name =>
    by_cases hname : name = ""
    · simp [hname]
    · cases hopen : openFile t (filePath cwd name) <;> simp [hname, hopen]

theorem setUpAll_cons_none {rest : List Setting} (h : s.file? = none) :
    setUpAll cwd (s :: rest) j t = setUpAll cwd rest (j.setDetail s.shown) t := by
  simp only [setUpAll, setUp_eq, h]

theorem setUpAll_cons_file {rest : List Setting} {name : String} (h : s.file? = some name)
    (hopen : openFile t (filePath cwd name) = .ok (place, u)) :
    setUpAll cwd (s :: rest) j t = setUpAll cwd rest ((j.setDetail s.shown).addFile place) u := by
  simp only [setUpAll, setUp_eq, h, hopen]

theorem setUpAll_cons_error {rest : List Setting} {name : String} {e : SystemError}
    (h : s.file? = some name) (hopen : openFile t (filePath cwd name) = .error e) :
    setUpAll cwd (s :: rest) j t = .error e := by
  simp only [setUpAll, setUp_eq, h, hopen]

theorem level_setDetail (h : s.file? = none) : (j.setDetail s.shown).level = s.level := by
  simp only [setDetail, Console.ofDetail, Setting.level, Setting.keepsAll, h, Option.isSome_none,
    Bool.false_or, decide_eq_true_eq]
  split <;> rfl

/-- A sequence of set-ups opens the files that are named, in their order, beside those that were
open; how much passes is for the last to say. -/
theorem setUpAll_eq_ok (h : setUpAll cwd settings j t = .ok (k, u)) :
    ∃ places, openAll cwd settings t = .ok (places, u) ∧
      k.files = j.files ++ places.map (⟨·, true⟩) ∧
      k.level = (settings.getLast?.elim j.level Setting.level) := by
  induction settings generalizing j t with
  | nil =>
    cases h
    exact ⟨[], rfl, by simp, rfl⟩
  | cons s rest ih =>
    -- what the last set-up says replaces what this one said
    have hlast : ∀ before, before = s.level →
        rest.getLast?.elim before Setting.level =
          (s :: rest).getLast?.elim j.level Setting.level := by
      rintro before rfl
      cases rest <;> simp [List.getLast?_cons]
    unfold openAll
    cases hfile : s.file? with
    | none =>
      rw [setUpAll_cons_none hfile] at h
      obtain ⟨places, hopen, hfiles, hlevel⟩ := ih h
      exact ⟨places, hopen, hfiles, hlevel.trans (hlast _ (level_setDetail hfile))⟩
    | some name =>
      cases hfirst : openFile t (filePath cwd name) with
      | error e =>
        rw [setUpAll_cons_error hfile hfirst] at h
        cases h
      | ok opened =>
        rw [setUpAll_cons_file hfile hfirst] at h
        obtain ⟨places, hopen, hfiles, hlevel⟩ := ih h
        have hkeeps : (Journal.addFile (j.setDetail s.shown) opened.1).level = s.level := by
          simp [Setting.level, Setting.keepsAll, hfile, addFile]
        refine ⟨opened.1 :: places, ?_, ?_, hlevel.trans (hlast _ hkeeps)⟩
        · simp only [hfirst, hopen, Except.map]
        · simpa [addFile, setDetail] using hfiles

/-! ## Records after a sequence of set-ups -/

def emit (j : Journal) (emitted : List (String × Record)) (t : Tree) : Tree :=
  emitted.foldl (fun t e => j.echo e.1 [] e.2 t) t

theorem get?_emit (h : t.get? place = some (.file bytes mode)) :
    (j.emit emitted t).get? place =
      some (.file (bytes ++ lines (j.copies place) emitted) mode) := by
  induction emitted generalizing t bytes with
  | nil => simpa [emit, lines] using h
  | cons e rest ih =>
    have hfirst : (j.echo e.1 [] e.2 t).get? place =
        some (.file (bytes ++ lines (j.copies place) [e]) mode) := get?_echo List.not_mem_nil h
    simpa [lines, emit] using ih hfirst

theorem copies_of_reached (h : j.files = places.map (⟨·, true⟩)) :
    j.copies place r = if r.level.reaches j.level then places.count place else 0 := by
  have hcount := List.count_map_of_injective places (⟨·, true⟩ : Location → LogFile)
    (fun _ _ heq => congrArg LogFile.place heq) place
  rw [copies, h, hcount]

def endsOpen (settings : List Setting) : Bool := settings.getLast?.any Setting.keepsAll

theorem Setting.reaches_level (s : Setting) (l : Level) :
    l.reaches s.level = !(l == .debug && !s.keepsAll) := by
  unfold level
  cases s.keepsAll <;> cases l <;> rfl

/-- Records of the lowest level are held back if the last set-up does not let them pass. -/
theorem copies_of_setUpAll (hfiles : j.files = places.map (⟨·, true⟩))
    (hlevel : j.level = settings.getLast?.elim .warning Setting.level)
    (hnone : settings = [] → places = []) :
    j.copies place r =
      if r.level = .debug ∧ endsOpen settings = false then 0 else places.count place := by
  rw [copies_of_reached hfiles, hlevel, endsOpen]
  cases hlast : settings.getLast? with
  | none => simp [hnone (List.getLast?_eq_none_iff.mp hlast)]
  | some s =>
    simp only [Option.elim_some, Option.any_some, s.reaches_level]
    by_cases hkeeps : s.keepsAll = true <;> by_cases hdebug : r.level = .debug <;>
      simp [hkeeps, hdebug]

/-- Every record is written once to each file if no file was opened twice and nothing is held back,
and only then. -/
theorem copies_eq_one_iff (h : ∀ place r, j.copies place r =
      if r.level = .debug ∧ endsOpen settings = false then 0 else places.count place) :
    (∀ r, ∀ place ∈ places, j.copies place r = 1) ↔
      places.Nodup ∧ (places = [] ∨ endsOpen settings = true) := by
  simp only [h, List.nodup_iff_count_eq_one]
  constructor
  · intro honce
    cases hopen : endsOpen settings with
    | true => exact ⟨by simpa [hopen] using honce (.info ""), Or.inr rfl⟩
    | false =>
      have hnone : places = [] := List.eq_nil_iff_forall_not_mem.mpr fun place hplace => by
        have hone := honce (.debug "") place hplace
        rw [if_pos ⟨rfl, hopen⟩] at hone
        cases hone
      simp [hnone]
  · rintro ⟨hcount, hnone | hopen⟩ r place hplace
    · simp [hnone] at hplace
    · rw [if_neg (by simp [hopen]), hcount place hplace]

/-- What was opened stays there, and is neither a link nor a directory. -/
theorem halt_of_openAll (h : openAll cwd settings t = .ok (places, u)) :
    Tree.Extends t u ∧
      ∀ place ∈ places, ∃ entry, u.get? place = some entry ∧ entry.passage = .halt := by
  induction settings generalizing t places with
  | nil =>
    cases h
    exact ⟨.refl u, by simp⟩
  | cons s rest ih =>
    unfold openAll at h
    split at h
    · exact ih h
    · next name hname =>
      split at h
      · cases h
      · next first v hfirst =>
        cases hrest : openAll cwd rest v with
        | error e =>
          rw [hrest] at h
          cases h
        | ok opened =>
          rw [hrest] at h
          cases h
          obtain ⟨hkept, hall⟩ := ih hrest
          refine ⟨(extends_of_openFile hfirst).trans hkept, fun place hplace => ?_⟩
          rcases List.mem_cons.mp hplace with rfl | hmem
          · obtain ⟨entry, hget, hhalt⟩ := halt_of_openFile hfirst
            exact ⟨entry, hkept _ _ hget, hhalt⟩
          · exact hall place hmem

/-- After a sequence of set-ups every record is written exactly once to each log file that was
named if no two of the names stand for one file and the last set-up lets all records pass, and only
then. In general it is written once for each time that the file was named, but for records of the
lowest level: these are written nowhere if the last set-up names no log file and wants few details.
Whatever a file held before is kept. -/
theorem written_once_iff (cwd : Location) (settings : List Setting) (t : Tree)
    (h : setUpAll cwd settings start t = .ok (j, u)) :
    ∃ places, openAll cwd settings t = .ok (places, u) ∧
      ((∀ r, ∀ place ∈ places, j.copies place r = 1) ↔
        places.Nodup ∧ (places = [] ∨ endsOpen settings = true)) ∧
      (∀ place r, j.copies place r =
        if r.level = .debug ∧ endsOpen settings = false then 0 else places.count place) ∧
      (∀ place ∈ places, ∃ entry, u.get? place = some entry ∧ entry.passage = .halt) ∧
      ∀ emitted place bytes mode, u.get? place = some (.file bytes mode) →
        (j.emit emitted u).get? place =
          some (.file (bytes ++ lines (j.copies place) emitted) mode) := by
  obtain ⟨places, hopen, hfiles, hlevel⟩ := setUpAll_eq_ok h
  have hnone : settings = [] → places = [] := by
    rintro rfl
    cases hopen
    rfl
  have hcopies : ∀ place r, j.copies place r =
      if r.level = .debug ∧ endsOpen settings = false then 0 else places.count place :=
    fun place r => copies_of_setUpAll hfiles hlevel hnone
  exact ⟨places, hopen, copies_eq_one_iff hcopies, hcopies, (halt_of_openAll hopen).2,
    fun emitted place bytes mode => get?_emit⟩

/-! ## Two files, and one file twice -/

/-- A log file in an empty directory is made there. -/
theorem openFile_at_top {name : String} (hpath : filePath [] name = ⟨.top, [name]⟩)
    (hname : Tree.IsName name) (hnul : Path.holdsNul (Path.text ⟨.top, [name]⟩) = false)
    (hshort : (Path.text ⟨.top, [name]⟩).utf8ByteSize ≤ Tree.pathLimit)
    (hlink : ∀ target, t.get? [name] ≠ some (.link target))
    (hdir : ∀ mode, t.get? [name] ≠ some (.dir mode)) :
    openFile t (filePath [] name) = .ok ([name],
      if (t.get? [name]).isSome then t else t.put [name] (.file [] fileMode)) := by
  rw [hpath]
  have htop : t.walk true Tree.linkLimit [] [] = .ok (.found [] (.dir 0o755)) := Tree.walk_nil
  exact openFile_of_directory rfl hnul hshort hname htop hlink hdir

def brief (logFile? : Option String) : Setting := ⟨false, logFile?, 1⟩

def oneLog : Tree := ⟨[(["a.log"], .file [] fileMode)]⟩

theorem openFile_empty : openFile .empty (filePath [] "a.log") = .ok (["a.log"], oneLog) :=
  (openFile_at_top (by decide) (by decide) (by decide) (by decide)
    (by simp [Tree.empty, Tree.get?]) (by simp [Tree.empty, Tree.get?])).trans rfl

theorem openFile_oneLog_again :
    openFile oneLog (filePath [] "a.log") = .ok (["a.log"], oneLog) :=
  (openFile_at_top (by decide) (by decide) (by decide) (by decide)
    (by simp [oneLog, Tree.get?]) (by simp [oneLog, Tree.get?])).trans rfl

theorem openFile_oneLog_other :
    openFile oneLog (filePath [] "b.log") =
      .ok (["b.log"], oneLog.put ["b.log"] (.file [] fileMode)) :=
  (openFile_at_top (by decide) (by decide) (by decide) (by decide)
    (by simp [oneLog, Tree.get?, List.lookup_cons])
    (by simp [oneLog, Tree.get?, List.lookup_cons])).trans rfl

/-- Two set-ups that name different files: each record is written once to both. -/
theorem written_once_of_two_files :
    ∃ j u, setUpAll [] [brief (some "a.log"), brief (some "b.log")] start .empty = .ok (j, u) ∧
      ∀ r, ∀ place ∈ [["a.log"], ["b.log"]], j.copies place r = 1 := by
  have hsetUp : ∃ j u, setUpAll [] [brief (some "a.log"), brief (some "b.log")] start .empty =
      .ok (j, u) :=
    ⟨_, _, (setUpAll_cons_file rfl openFile_empty).trans
      ((setUpAll_cons_file rfl openFile_oneLog_other).trans rfl)⟩
  obtain ⟨j, u, hdone⟩ := hsetUp
  obtain ⟨places, hopen, honce, -⟩ := written_once_iff [] _ .empty hdone
  have hplaces : places = [["a.log"], ["b.log"]] := by
    have hboth : openAll [] [brief (some "a.log"), brief (some "b.log")] .empty =
        .ok ([["a.log"], ["b.log"]], oneLog.put ["b.log"] (.file [] fileMode)) := by
      simp [openAll, Setting.file?, brief, openFile_empty, openFile_oneLog_other, Except.map]
    rw [hboth] at hopen
    cases hopen
    rfl
  subst hplaces
  exact ⟨j, u, hdone, honce.mpr ⟨by decide, Or.inr rfl⟩⟩

/-- A later set-up without a log file holds records back from the file of an earlier one; and a
file that is named twice gets every record twice. -/
theorem not_written_once :
    (∃ j u, setUpAll [] [brief (some "a.log"), brief none] start .empty = .ok (j, u) ∧
      j.emit [("", .debug "x")] u = oneLog) ∧
    ∃ j u, setUpAll [] [brief (some "a.log"), brief (some "a.log")] start .empty = .ok (j, u) ∧
      (j.emit [("", .debug "x")] u).get? ["a.log"] =
        some (.file (Text.encode " | DEBUG | x\n | DEBUG | x\n") fileMode) := by
  refine ⟨⟨_, _, (setUpAll_cons_file rfl openFile_empty).trans
      ((setUpAll_cons_none rfl).trans rfl), rfl⟩,
    ⟨_, _, (setUpAll_cons_file rfl openFile_empty).trans
      ((setUpAll_cons_file rfl openFile_oneLog_again).trans rfl), ?_⟩⟩
  rfl

end BatchFormat.Journal
