import BatchFormat.Proofs.Session.Ending
import BatchFormat.Proofs.Session.Missing
import BatchFormat.Proofs.Session.Records
import BatchFormat.Proofs.Session.Status

/-!
# Where the log file of a call is

The name of a log file is read twice. First a tilde is replaced and links are resolved, so that the
directories above the file can be made; then the file is opened by the path that is made of the
name without looking at tildes and links. Names without a tilde in front and without double dots
mean the same in both ways. Wherever the log is, it gets every record of the run.
-/
namespace BatchFormat.Session

open BatchFormat.Tree (linkLimit pathLimit)

variable {s : Session} {host : Host} {wording : Wording} {i : Invocation} {arguments : List String}
  {name : String} {real place : Location} {t u : Tree} {j : Journal}

/-- A name that has neither a tilde in front nor double dots in it. -/
structure Unadorned (host : Host) (name : String) : Prop where
  home : host.expandHome (.ofString name) = .ok (.ofString name)
  down : ".." ∉ (Path.ofString name).parts

/-- The directory that a path names is there, and the last name is one that the system takes, and
not that of a link. -/
structure Ready (t : Tree) (p : Path) : Prop where
  spoken : Path.holdsNul p.text = false
  short : p.text.utf8ByteSize ≤ pathLimit
  name : Tree.IsName p.name
  directory : ∃ dir mode,
    t.walk true linkLimit [] p.parts.dropLast = .ok (.found dir (.dir mode)) ∧
      ∀ target, t.get? (dir ++ [p.name]) ≠ some (.link target)

theorem parts_eq_append_name {p : Path} (h : p.name ≠ "") :
    p.parts = p.parts.dropLast ++ [p.name] := by
  unfold Path.name at h ⊢
  cases hlast : p.parts.getLast? with
  | none => simp [hlast] at h
  | some last =>
    obtain ⟨front, hparts⟩ := List.getLast?_eq_some_iff.mp hlast
    simp [hparts]

/-! ## Two readings of a name -/

section

variable (hreal : host.expandHome (.ofString name) >>= s.tree.resolve host.cwd = .ok real)
  (hmade : s.tree.makeDirectories real.dropLast = (.ok (), t))
include hreal hmade

/-- Where the path of a log with a plain name leads after the directories were made, the real path
led before. -/
theorem real_of_walk (hplain : Unadorned host name)
    (hcwd : ∃ mode, s.tree.Stands host.cwd (.dir mode)) {entry : Entry} (hkept : t.Extends u)
    (hsame : t.SameLinks u)
    (hwalk : u.walk true linkLimit [] (Journal.filePath host.cwd name).parts =
      .ok (.found place entry)) : place = real := by
  have hgrown := Tree.grown_of_makeDirectories hmade
  obtain ⟨mode, hstands⟩ := hcwd
  have hresolve : s.tree.resolve host.cwd (.ofString name) = .ok real := by
    rwa [hplain.home] at hreal
  have hnul : Path.holdsNul (Path.ofString name).text = false := by
    refine Bool.eq_false_iff.mpr fun hnul => ?_
    rw [Tree.resolve, if_pos hnul] at hresolve
    cases hresolve
  have hstill : ∃ mode, u.Stands host.cwd (.dir mode) :=
    ⟨mode, hkept.stands (hgrown.kept.stands hstands)⟩
  obtain ⟨m, horigin⟩ := Tree.Stands.origin hstill (.ofString name)
  rw [Journal.parts_filePath hstands.isDown hplain.down, horigin.walk_append] at hwalk
  have hplace := Tree.resolve_of_walk (hgrown.sameLinks.trans hsame) hnul hwalk
  rw [hresolve] at hplace
  exact (Except.ok.inj hplace).symm

theorem place_eq_real (hplain : Unadorned host name)
    (hcwd : ∃ mode, s.tree.Stands host.cwd (.dir mode))
    (hopen : Journal.openFile t (Journal.filePath host.cwd name) = .ok (place, u)) :
    place = real := by
  obtain ⟨entry, hwalk, -⟩ := Journal.walk_of_openFile hopen
  exact real_of_walk hreal hmade hplain hcwd (Journal.extends_of_openFile hopen)
    (Journal.sameLinks_of_openFile hopen) hwalk

/-- A log with a plain name can be opened if its directory is there and no directory or link is in
the way. -/
theorem openFile_of_ready (hplain : Unadorned host name)
    (hcwd : ∃ mode, s.tree.Stands host.cwd (.dir mode))
    (hready : Ready t (Journal.filePath host.cwd name))
    (hdir : ∀ mode, t.get? real ≠ some (.dir mode)) :
    ∃ u, Journal.openFile t (Journal.filePath host.cwd name) = .ok (real, u) := by
  obtain ⟨dir, mode, habove, hlink⟩ := hready.directory
  have hparts := parts_eq_append_name fun hempty => hready.name.spoken (Or.inl hempty)
  have hnot : ∀ mode, t.get? (dir ++ [(Journal.filePath host.cwd name).name]) ≠
      some (.dir mode) := by
    intro m hget
    obtain ⟨n, hwalk, -⟩ := Tree.walk_append_last hready.name habove
    rw [← hparts, Tree.walk_through hready.name hget, Tree.walk_nil, hget] at hwalk
    have hsame := real_of_walk hreal hmade hplain hcwd (.refl t) (.refl t) hwalk
    exact hdir m (hsame ▸ hget)
  have hopen := Journal.openFile_of_directory hparts hready.spoken hready.short hready.name habove
    hlink hnot
  have hplace := place_eq_real hreal hmade hplain hcwd hopen
  rw [hplace] at hopen
  exact ⟨_, hopen⟩

end

/-! ## The records of a run -/

/-- Every record that is told is written to a log file that was just opened, once more than to the
same file as it was opened before. -/
theorem copies_addFile (j : Journal) (detail : Int) (place : Location) :
    ((j.setDetail detail).addFile place).copies place =
      fun _ => j.files.count ⟨place, true⟩ + 1 := by
  funext r
  simp [Journal.copies, Journal.addFile, Journal.setDetail, Journal.reaches_fileLevel,
    List.count_append]

/-- Where the log of a call is, once its name has a real path and the directories above that are
made. The call ends with an error exactly if the log cannot be opened, and then with that one. The
log is at the real path of the path that it is opened by. That is the place for which the
directories were made if the name has no tilde in front and no double dots; and such a log can be
opened if a look-up finds its directory and its last name is not that of a link or a directory.
Wherever the log is, each record of the run is added to it, once for each time that it was opened,
unless the run itself moves a new file over it. -/
theorem call_log (s : Session) (host : Host) (wording : Wording) {arguments : List String}
    {i : Invocation} {name : String} {real : Location} {t : Tree}
    (hparse : CommandLine.parse arguments = .run i) (hlog : i.logFile? = some name)
    (hname : name ≠ "") (hcwd : ∃ mode, s.tree.Stands host.cwd (.dir mode))
    (hreal : host.expandHome (.ofString name) >>= s.tree.resolve host.cwd = .ok real)
    (hmade : s.tree.makeDirectories real.dropLast = (.ok (), t)) :
    let file := Journal.filePath host.cwd name
    (∃ dir mode, t.walk true linkLimit [] real.dropLast = .ok (.found dir (.dir mode))) ∧
    (∀ e, (s.call host wording arguments).1.ending = .error e ↔
      Journal.openFile t file = .error e) ∧
    (Unadorned host name → Ready t file → (∀ mode, t.get? real ≠ some (.dir mode)) →
      ∃ u, Journal.openFile t file = .ok (real, u)) ∧
    ∀ place u, Journal.openFile t file = .ok (place, u) →
      s.tree.resolve [] file = .ok place ∧ (∃ mode, u.get? place.dropLast = some (.dir mode)) ∧
      (Unadorned host name → place = real) ∧
      ∀ bytes mode, u.get? place = some (.file bytes mode) →
        let j := (s.journal.setDetail (if i.debug then 2 else i.verbosity)).addFile place
        let done := guarded s.registry (hostOf host wording j) wording i (World.ofTree u)
        (∀ provider,
          s.registry.get host.environment i.provider (Plan.options i) = .ok provider →
            provider.Spares (hostOf host wording j) j wording.stamp place) →
        place ∉ done.2.replaced →
        (s.call host wording arguments).2.tree.get? place =
          some (.file (bytes ++ Journal.lines (fun _ => s.journal.files.count ⟨place, true⟩ + 1)
            (done.2.log.map (wording.stamp, ·))) mode) := by
  intro file
  have hopened : s.opened host i = (Journal.openFile t file).map fun log =>
      ((s.journal.setDetail (if i.debug then 2 else i.verbosity)).addFile log.1, log.2) := by
    rw [opened_of_log hlog hname]
    simp only [hreal, hmade, file]
  rw [call_of_run hparse]
  refine ⟨Tree.walk_of_makeDirectories hmade, fun e => ?_,
    fun hplain hready hdir => openFile_of_ready hreal hmade hplain hcwd hready hdir,
    fun place u hopen => ⟨?_, ?_, fun hplain => place_eq_real hreal hmade hplain hcwd hopen, ?_⟩⟩
  · cases hopen : Journal.openFile t file with
    | error e' =>
      rw [hopen] at hopened
      rw [run_of_not_opened hopened, Except.error.injEq, Except.error.injEq]
    | ok log =>
      rw [hopen] at hopened
      rw [(run_of_opened hopened).1]
      exact iff_of_false (fun h => nomatch h) fun h => nomatch h
  · exact Journal.resolve_of_openFile (Tree.grown_of_makeDirectories hmade).sameLinks hopen
  · obtain ⟨entry, hwalk, -⟩ := Journal.walk_of_openFile hopen
    obtain ⟨mode, hparent⟩ := (Tree.Stands.of_walk ⟨_, .top⟩ hwalk).1.parent_dir
    exact ⟨mode, hparent.get?_eq⟩
  · intro bytes mode hfile j done hengine hkept
    rw [hopen] at hopened
    rw [(run_of_opened hopened).2]
    have hrecords : World.Records j wording.stamp place (World.ofTree u) done.2 :=
      records_guarded rfl (fun provider hget => Provider.records rfl (hengine provider hget))
        wording _
    obtain ⟨told, hlog, hwritten⟩ := hrecords.written
    have htold : done.2.log = told := hlog
    rw [htold, ← copies_addFile]
    exact hwritten hkept bytes mode hfile

def oneFile : Tree := ⟨[(["a.java"], .file (Text.encode "x") 0o644)]⟩

theorem oneFile_free {names : Location} (hnames : names ≠ []) (h : names ≠ ["a.java"]) :
    oneFile.get? names = none := by
  rw [Tree.get?_eq_lookup hnames]
  exact lookup_cons_of_ne h

theorem isName_run_log : Tree.IsName "run.log" := by decide

def linkedLogs : Tree :=
  ⟨[(["a.java"], .file (Text.encode "x") 0o644), (["d"], .dir 0o755), (["l"], .link "d")]⟩

def madeLogs : Tree := linkedLogs.put ["d", "new"] (.dir Tree.directoryMode)

def openedLogs : Tree := madeLogs.put ["d", "new", "run.log"] (.file [] 0o644)

theorem isName_logs : Tree.IsName "d" ∧ Tree.IsName "l" ∧ Tree.IsName "new" := by decide

theorem linkedLogs_makeDirectories :
    linkedLogs.makeDirectories ["d", "new"] = (.ok (), madeLogs) := by
  obtain ⟨hd, -, hnew⟩ := isName_logs
  have hshort : ¬(Path.ofNames ["d", "new"]).text.utf8ByteSize > pathLimit := by decide
  refine Tree.makeDirectories_of_vacant (by decide) ?_
  rw [Tree.locate, if_neg hshort]
  exact (Tree.walk_through hd rfl).trans ((Tree.walk_absent hnew rfl).trans (if_pos rfl))

/-- The link leads to the directory that was made. -/
theorem madeLogs_walk : madeLogs.walk true linkLimit [] ["l", "new"] =
    .ok (.found ["d", "new"] (.dir Tree.directoryMode)) := by
  obtain ⟨hd, hl, hnew⟩ := isName_logs
  exact (Tree.walk_onward hl rfl (by decide)).trans ((Tree.walk_through hd rfl).trans
    ((Tree.walk_through hnew rfl).trans Tree.walk_nil))

theorem madeLogs_openFile : Journal.openFile madeLogs (Journal.filePath [] "l/new/run.log") =
    .ok (["d", "new", "run.log"], openedLogs) := by
  have hpath : Journal.filePath [] "l/new/run.log" = ⟨.top, ["l", "new", "run.log"]⟩ := by decide
  have hfree : madeLogs.get? (["d", "new"] ++ ["run.log"]) = none := rfl
  have hparts : (⟨.top, ["l", "new", "run.log"]⟩ : Path).parts = ["l", "new"] ++ ["run.log"] := rfl
  rw [hpath, Journal.openFile_of_directory hparts (by decide) (by decide) isName_run_log
    madeLogs_walk (fun _ h => nomatch hfree.symm.trans h) fun _ h => nomatch hfree.symm.trans h,
    hfree]
  rfl

theorem linkedLogs_real : Walker.calmHost.expandHome (.ofString "l/new/run.log") >>=
    linkedLogs.resolve [] = .ok ["d", "new", "run.log"] := by
  have hpath : Journal.filePath [] "l/new/run.log" = ⟨.top, ["l", "new", "run.log"]⟩ := by decide
  have hsame := (Tree.grown_of_makeDirectories linkedLogs_makeDirectories).sameLinks.trans
    (Journal.sameLinks_of_openFile madeLogs_openFile)
  obtain ⟨entry, hwalk, -⟩ := Journal.walk_of_openFile madeLogs_openFile
  rw [hpath] at hwalk
  exact Tree.resolve_of_walk (p := ⟨.relative, ["l", "new", "run.log"]⟩) hsame (by decide) hwalk

/-- A run whose profile is missing says so in its last record. -/
theorem guarded_of_missing_profile {registry : Registry} {w : World}
    (hecho : host.echo.KeepsShape) (htarget : w.tree.Names host.cwd i.target)
    (hprofile : ¬w.tree.Names host.cwd i.profile)
    (hshort : w.tree.isTooLong host.cwd i.profile = false) (hquiet : i.isVerbose = false) :
    guarded registry host wording i w = (1, (Plan.told host i w).say host
      (.error (Failure.noProfile (host.shown i.profile) true).message)) := by
  have hshape : (Plan.told host i w).tree.shape = w.tree.shape := World.shape_tell hecho _ w
  have hcheck : Plan.checkPaths host i (Plan.told host i w).tree =
      .error (.noProfile (host.shown i.profile) true) := by
    rw [Plan.checkPaths_of_missing_profile (htarget.of_shape hshape.symm)
      (mt (Tree.Names.of_shape hshape) hprofile), reported, Tree.isTooLong_of_shape hshape, hshort]
    rfl
  simp only [guarded, work, Plan.prepare_of_checkPaths hcheck, hquiet, Bool.false_eq_true, if_false]

theorem openedLogs_target : openedLogs.Names [] ⟨.relative, ["a.java"]⟩ := by
  have hname : Tree.IsName "a.java" := by decide
  have hfile : openedLogs.walk true linkLimit [] ["a.java"] =
      .ok (.found ["a.java"] (.file (Text.encode "x") 0o644)) :=
    (Tree.walk_halt hname rfl rfl).trans (if_pos rfl)
  exact ⟨_, _, Tree.entryAt?_eq_ok_iff.mpr ⟨by decide, by decide, hfile⟩⟩

theorem openedLogs_profile : openedLogs.entryAt? [] true ⟨.relative, ["eclipse-format.xml"]⟩ =
    .error (.refused .noEntry "eclipse-format.xml") := by
  have hname : Tree.IsName "eclipse-format.xml" := by decide
  have hshort : ¬(⟨.relative, ["eclipse-format.xml"]⟩ : Path).text.utf8ByteSize > pathLimit := by
    decide
  have hwalk : openedLogs.walk true linkLimit [] ["eclipse-format.xml"] =
      .ok (.vacant ["eclipse-format.xml"]) := (Tree.walk_absent hname rfl).trans (if_pos rfl)
  have hlocate : openedLogs.locate [] true ⟨.relative, ["eclipse-format.xml"]⟩ =
      .ok (.vacant ["eclipse-format.xml"]) := by
    rw [Tree.locate, if_neg hshort]
    exact hwalk
  have hnul : ¬Path.holdsNul (⟨.relative, ["eclipse-format.xml"]⟩ : Path).text := by decide
  rw [Tree.entryAt?, if_neg hnul, hlocate]
  rfl

/-- A log behind a link, in a directory that is missing: the directory is made, and the log holds
all that was told of a run for which there is no profile. -/
theorem call_log_of_linked_parent :
    let i : Invocation :=
      { Invocation.ofTarget (.ofString "a.java") with
        provider := "identity", logFile? := some "l/new/run.log" }
    let records := Plan.heading Walker.calmHost i ++
      [.error (Failure.noProfile "/eclipse-format.xml" true).message]
    let done := (Session.start .builtIn linkedLogs).call Walker.calmHost plainWording
      ["--log-file", "l/new/run.log", "--provider", "identity", "a.java"]
    (∃ status, done.1.ending = .ok status) ∧
      done.2.tree.get? ["d", "new", "run.log"] =
        some (.file (Journal.lines (fun _ => 1) (records.map (plainWording.stamp, ·))) 0o644) := by
  intro i records done
  have hparse : CommandLine.parse
      ["--log-file", "l/new/run.log", "--provider", "identity", "a.java"] = .run i := by
    decide +kernel
  obtain ⟨-, hends, -, hlog⟩ := call_log (.start .builtIn linkedLogs) Walker.calmHost plainWording
    hparse rfl (by decide) ⟨_, .top⟩ linkedLogs_real linkedLogs_makeDirectories
  obtain ⟨-, -, -, hwritten⟩ := hlog _ _ madeLogs_openFile
  constructor
  · cases hending : done.1.ending with
    | ok status => exact ⟨status, rfl⟩
    | error e => exact nomatch madeLogs_openFile.symm.trans ((hends e).mp hending)
  · have hmissing : ¬openedLogs.Names [] ⟨.relative, ["eclipse-format.xml"]⟩ := by
      rintro ⟨place, entry, hentry⟩
      cases openedLogs_profile.symm.trans hentry
    have hshort : openedLogs.isTooLong [] ⟨.relative, ["eclipse-format.xml"]⟩ = false := by
      rw [Tree.isTooLong, openedLogs_profile]
    have hguarded (j : Journal) : guarded (start .builtIn linkedLogs).registry
        (hostOf Walker.calmHost plainWording j) plainWording i (World.ofTree openedLogs) =
          (1, (Plan.told (hostOf Walker.calmHost plainWording j) i (World.ofTree openedLogs)).say
            (hostOf Walker.calmHost plainWording j)
            (.error (Failure.noProfile "/eclipse-format.xml" true).message)) :=
      guarded_of_missing_profile (Journal.echo_staysIn j _).keepsShape openedLogs_target hmissing
        hshort rfl
    have hkept := hwritten [] 0o644 rfl fun provider hget => by cases hget; trivial
    rw [hguarded] at hkept
    exact hkept List.not_mem_nil

def homeHost : Host := { Walker.calmHost with environment := [("HOME", "/h")] }

def withHome : Tree := oneFile.put ["h"] (.dir Tree.directoryMode)

theorem oneFile_no_home : oneFile.get? ["h"] = none := oneFile_free (by decide) (by decide)

theorem isName_home : Tree.IsName "h" := by decide

theorem oneFile_makeDirectories : oneFile.makeDirectories ["h"] = (.ok (), withHome) := by
  have hshort : ¬(Path.ofNames ["h"]).text.utf8ByteSize > pathLimit := by decide
  refine Tree.makeDirectories_of_vacant (by decide) ?_
  rw [Tree.locate, if_neg hshort]
  exact (Tree.walk_absent isName_home oneFile_no_home).trans (if_pos rfl)

/-- The real path of a log file in the home directory. -/
theorem oneFile_real : homeHost.expandHome (.ofString "~/run.log") >>=
    oneFile.resolve homeHost.cwd = .ok ["h", "run.log"] := by
  have hlog : withHome.get? ["h", "run.log"] = none := rfl
  have hwalk : withHome.walk true linkLimit [] ["h", "run.log"] =
      .ok (.vacant ["h", "run.log"]) :=
    (Tree.walk_through isName_home rfl).trans ((Tree.walk_absent isName_run_log hlog).trans rfl)
  have hsame : Tree.SameLinks oneFile (withHome.put ["h", "run.log"] (.file [] 0o644)) :=
    (Tree.SameLinks.put (by decide) oneFile_no_home rfl).trans (.put (by decide) hlog rfl)
  exact Tree.resolve_of_walk (p := ⟨.top, ["h", "run.log"]⟩) hsame (by decide)
    (Tree.walk_put_vacant rfl hwalk)

theorem withHome_openFile : Journal.openFile withHome
    (Journal.filePath homeHost.cwd "~/run.log") = .error (.refused .noEntry "/~/run.log") := by
  have hpath : Journal.filePath homeHost.cwd "~/run.log" = ⟨.top, ["~", "run.log"]⟩ := by decide
  have htext : Path.text ⟨.top, ["~", "run.log"]⟩ = "/~/run.log" := by decide
  have hnul : Path.holdsNul "/~/run.log" = false := by decide
  have hshort : ¬"/~/run.log".utf8ByteSize > pathLimit := by decide
  have hname : Tree.IsName "~" := by decide
  have hget : withHome.get? ([] ++ ["~"]) = none := rfl
  have hasks : withHome.asksForDirectory linkLimit [] ["~", "run.log"] = false :=
    Tree.asksForDirectory_absent hname (by decide) hget
  have hlocate : withHome.locate [] true ⟨.top, ["~", "run.log"]⟩ = .error .noEntry := by
    rw [Tree.locate, htext, if_neg hshort]
    exact (Tree.walk_absent hname hget).trans (if_neg (by decide))
  simp [Journal.openFile, hpath, htext, hnul, hasks, hlocate]

/-- A log file in a home directory: its directory is made, but the log is looked for in one named
by the tilde, and the call ends with an error. -/
theorem call_error_of_log_at_home :
    homeHost.expandHome (.ofString "~/run.log") >>= oneFile.resolve homeHost.cwd =
        .ok ["h", "run.log"] ∧
      oneFile.makeDirectories ["h"] = (.ok (), withHome) ∧
      withHome.get? ["h", "run.log"] = none ∧
      ((Session.start .builtIn oneFile).call homeHost plainWording
        ["--log-file", "~/run.log", "a.java"]).1.ending =
          .error (.refused .noEntry "/~/run.log") := by
  have hparse : CommandLine.parse ["--log-file", "~/run.log", "a.java"] =
      .run { Invocation.ofTarget (.ofString "a.java") with logFile? := some "~/run.log" } := by
    decide +kernel
  have hrefused : LogRefused homeHost oneFile "~/run.log" (.refused .noEntry "/~/run.log") :=
    .file oneFile_real oneFile_makeDirectories withHome_openFile
  refine ⟨oneFile_real, oneFile_makeDirectories, rfl, ?_⟩
  unfold call CommandLine.gather
  rw [hparse]
  exact run_of_not_opened (opened_error_iff.mpr ⟨"~/run.log", rfl, by decide, hrefused⟩)

end BatchFormat.Session
