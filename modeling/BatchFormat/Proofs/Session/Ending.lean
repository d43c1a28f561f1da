import BatchFormat.Proofs.Walk.Containment
import BatchFormat.Session

/-!
# How a call ends

Everything that a run does is watched over but for the steps that open its log, which come first. So
a call ends with one of three statuses, or with the error for which its log cannot be opened.
-/
namespace BatchFormat

variable {s : Session} {registry : Registry} {host : Host} {wording : Wording} {i : Invocation}
  {w : World} {arguments : List String} {status : Nat} {e : SystemError}

/-! ## The status of a run -/

/-- A walk that gives a status gives one of these two. -/
theorem Plan.execute_status {plan : Plan} (h : (plan.execute host w).1 = .ok status) :
    status = 0 ∨ status = 1 := by
  have hmap : ∀ {told : Except Failure Unit} {given : Nat},
      told.map (fun () => given) = .ok status → status = given := by
    intro told given hmap
    cases told with
    | error e => cases hmap
    | ok _ => exact (Except.ok.inj hmap).symm
  unfold execute at h
  simp only at h
  split at h
  · exact Or.inl (hmap h)
  · exact Or.inr (hmap h)
  · cases h

namespace Session

open Walker (calmHost longLink longLink_get?_d)

theorem work_status (h : (work registry host i w).1 = .ok status) : status = 0 ∨ status = 1 := by
  unfold work at h
  split at h
  · cases h
  · exact Plan.execute_status h

/-- Work that fails has status one. -/
theorem guarded_status (registry : Registry) (host : Host) (wording : Wording) (i : Invocation)
    (w : World) :
    (guarded registry host wording i w).1 = 0 ∨ (guarded registry host wording i w).1 = 1 := by
  unfold guarded
  split
  · next hwork => exact work_status (congrArg Prod.fst hwork)
  · exact Or.inr rfl

/-! ## The log of a run -/

/-- The journal and the tree with which a run goes to work, or the error for which its log cannot
be opened. -/
def opened (s : Session) (host : Host) (i : Invocation) : Except SystemError (Journal × Tree) :=
  match makeRoom host i.logFile? s.tree with
  | (.error e, _) => .error e
  | (.ok (), t) =>
    match s.journal.setUp host.cwd i.debug i.logFile? i.verbosity t with
    | (.error e, _) => .error e
    | (.ok (), opened) => .ok opened

/-- A run whose log is open ends with a status. -/
theorem run_of_opened {j : Journal} {t : Tree} (h : s.opened host i = .ok (j, t)) :
    let done := guarded s.registry (hostOf host wording j) wording i (World.ofTree t)
    (s.run host wording i).1.ending = .ok done.1 ∧ (s.run host wording i).2.tree = done.2.tree := by
  rcases hroom : makeRoom host i.logFile? s.tree with ⟨_ | _, made⟩
  · simp only [opened, hroom] at h
    cases h
  · rcases hsetUp : s.journal.setUp host.cwd i.debug i.logFile? i.verbosity made with ⟨_ | _, set⟩
    · simp only [opened, hroom, hsetUp] at h
      cases h
    · simp only [opened, hroom, hsetUp, Except.ok.injEq] at h
      simp only [run, hroom, hsetUp, h, and_self]

theorem run_of_not_opened (h : s.opened host i = .error e) :
    (s.run host wording i).1.ending = .error e := by
  rcases hroom : makeRoom host i.logFile? s.tree with ⟨_ | _, made⟩
  · simp only [opened, hroom, Except.error.injEq] at h
    simp only [run, hroom, h]
  · rcases hsetUp : s.journal.setUp host.cwd i.debug i.logFile? i.verbosity made with ⟨_ | _, set⟩
    · simp only [opened, hroom, hsetUp, Except.error.injEq] at h
      simp only [run, hroom, hsetUp, h]
    · simp only [opened, hroom, hsetUp] at h
      cases h

/-- Why a log file cannot be used: nobody knows which place its name stands for, the directories
above that place cannot be made, or the file cannot be opened. -/
inductive LogRefused (host : Host) (t : Tree) (name : String) (e : SystemError) : Prop
  | place (h : host.expandHome (.ofString name) >>= t.resolve host.cwd = .error e)
  | directories {place : Location} {after : Tree}
    (h : host.expandHome (.ofString name) >>= t.resolve host.cwd = .ok place)
    (hmake : t.makeDirectories place.dropLast = (.error e, after))
  | file {place : Location} {after : Tree}
    (h : host.expandHome (.ofString name) >>= t.resolve host.cwd = .ok place)
    (hmake : t.makeDirectories place.dropLast = (.ok (), after))
    (hopen : Journal.openFile after (Journal.filePath host.cwd name) = .error e)

theorem opened_of_no_log (h : i.logFile? = none ∨ i.logFile? = some "") :
    s.opened host i = .ok (s.journal.setDetail (if i.debug then 2 else i.verbosity), s.tree) := by
  unfold opened makeRoom Journal.setUp
  rcases h with h | h <;> simp [h]

/-- Opening a log takes three steps, each of which can fail. -/
theorem opened_of_log {name : String} (h : i.logFile? = some name) (hname : name ≠ "") :
    s.opened host i =
      match host.expandHome (.ofString name) >>= s.tree.resolve host.cwd with
      | .error e => .error e
      | .ok place =>
        match s.tree.makeDirectories place.dropLast with
        | (.error e, _) => .error e
        | (.ok (), t) =>
          (Journal.openFile t (Journal.filePath host.cwd name)).map fun log =>
            ((s.journal.setDetail (if i.debug then 2 else i.verbosity)).addFile log.1, log.2) := by
  unfold opened makeRoom Journal.setUp
  simp only [h, if_neg hname]
  cases host.expandHome (.ofString name) >>= s.tree.resolve host.cwd with
  | error e => rfl
  | ok place =>
    simp only
    obtain ⟨made, t⟩ := s.tree.makeDirectories place.dropLast
    cases made with
    | error e => rfl
    | ok _ =>
      simp only
      cases Journal.openFile t (Journal.filePath host.cwd name) <;> rfl

/-- The log is refused exactly if a name is given for it, and no log file can be opened there. -/
theorem opened_error_iff :
    s.opened host i = .error e ↔
      ∃ name, i.logFile? = some name ∧ name ≠ "" ∧ LogRefused host s.tree name e := by
  by_cases hlog : i.logFile? = none ∨ i.logFile? = some ""
  · rw [opened_of_no_log hlog]
    rcases hlog with hlog | hlog <;> simp [hlog]
  · obtain ⟨hsome, hname⟩ := not_or.mp hlog
    obtain ⟨name, hlogFile⟩ := Option.ne_none_iff_exists'.mp hsome
    rw [hlogFile, Option.some.injEq] at hname
    simp only [opened_of_log hlogFile hname, hlogFile, Option.some.injEq, exists_eq_left', hname,
      ne_eq, not_false_eq_true, true_and]
    constructor
    · intro h
      split at h
      · next hplace =>
        cases h
        exact .place hplace
      · next hplace =>
        split at h
        · next hmake =>
          cases h
          exact .directories hplace hmake
        · next hmake =>
          refine .file hplace hmake ?_
          cases hopen : Journal.openFile _ (Journal.filePath host.cwd name) with
          | error e' =>
            rw [hopen] at h
            exact congrArg _ (Except.error.inj h)
          | ok log =>
            rw [hopen] at h
            cases h
    · rintro (hplace | ⟨hplace, hmake⟩ | ⟨hplace, hmake, hopen⟩)
      · simp only [hplace]
      · simp only [hplace, hmake]
      · simp only [hplace, hmake, hopen, Except.map]

/-! ## The whole call -/

/-- A call ends with an error exactly where it asks for a run whose log cannot be opened, and this
is the error. Else it ends with a status: two if the arguments cannot be understood, zero or one
for a run, and zero where nothing but a text was asked for. -/
theorem call_ending (s : Session) (host : Host) (wording : Wording) (arguments : List String) :
    let ending := (s.call host wording arguments).1.ending
    (∀ e, ending = .error e ↔ ∃ i name, CommandLine.parse arguments = .run i ∧
      i.logFile? = some name ∧ name ≠ "" ∧ LogRefused host s.tree name e) ∧
    ∀ status, ending = .ok status →
      match CommandLine.parse arguments with
      | .run _ => status = 0 ∨ status = 1
      | .stop (.misuse _) => status = 2
      | .stop .help | .stop .version | .listing _ => status = 0 := by
  intro ending
  have hending : ending = (s.call host wording arguments).1.ending := rfl
  unfold call CommandLine.gather at hending
  cases hparse : CommandLine.parse arguments with
  | listing what =>
    simp only [hparse] at hending
    simp [hending]
  | stop reason =>
    cases reason <;> simp only [hparse, CommandLine.Stop.answer] at hending <;> simp [hending]
  | run i =>
    simp only [hparse] at hending
    have hlog : ∀ e, (∃ i' name, CommandLine.Parsed.run i = .run i' ∧ i'.logFile? = some name ∧
        name ≠ "" ∧ LogRefused host s.tree name e) ↔ s.opened host i = .error e := by
      simp [opened_error_iff]
    rw [hending]
    refine ⟨fun e => ?_, ?_⟩
    · rw [hlog]
      cases hopened : s.opened host i with
      | error e' => simp [run_of_not_opened hopened]
      | ok ready => simp [(run_of_opened (j := ready.1) (t := ready.2) hopened).1]
    · intro status hstatus
      cases hopened : s.opened host i with
      | error e' => simp [run_of_not_opened hopened] at hstatus
      | ok ready =>
        rw [(run_of_opened (j := ready.1) (t := ready.2) hopened).1] at hstatus
        cases hstatus
        exact guarded_status _ _ _ _ _

def plainWording : Wording := ⟨"", fun _ => ""⟩

/-- A log file that is a directory ends a call with an error. -/
theorem call_error_of_log_directory :
    ((Session.start .builtIn longLink).call calmHost plainWording
      ["--log-file", "d", "d/a.java"]).1.ending = .error (.refused .isDirectory "/d") := by
  have hparse : CommandLine.parse ["--log-file", "d", "d/a.java"] =
      .run { Invocation.ofTarget (.ofString "d/a.java") with logFile? := some "d" } := by
    decide +kernel
  have hname : Tree.IsName "d" := by decide
  have hentry : longLink.entryAt? [] true ⟨.relative, ["d"]⟩ = .ok (["d"], .dir 0o755) :=
    Tree.entryAt?_eq_ok_iff.mpr ⟨by decide, by decide,
      (Tree.walk_through hname longLink_get?_d).trans Tree.walk_nil⟩
  have hplace : calmHost.expandHome (.ofString "d") >>= longLink.resolve calmHost.cwd =
      .ok ["d"] := by
    have hexpand : calmHost.expandHome (.ofString "d") = .ok ⟨.relative, ["d"]⟩ := rfl
    rw [hexpand]
    exact Tree.resolve_of_entry hentry
  have hopen : Journal.openFile longLink (Journal.filePath calmHost.cwd "d") =
      .error (.refused .isDirectory "/d") := by
    have hpath : Journal.filePath calmHost.cwd "d" = ⟨.top, ["d"]⟩ := by decide
    have htext : Path.text ⟨.top, ["d"]⟩ = "/d" := by decide
    have hnul : Path.holdsNul "/d" = false := by decide
    have hshort : ¬"/d".utf8ByteSize > Tree.pathLimit := by decide
    have hlocate : longLink.locate [] true ⟨.top, ["d"]⟩ = .ok (.found ["d"] (.dir 0o755)) := by
      rw [Tree.locate, htext, if_neg hshort]
      exact (Tree.walk_through hname longLink_get?_d).trans Tree.walk_nil
    simp [Journal.openFile, hpath, htext, hnul, hlocate]
  unfold call CommandLine.gather
  rw [hparse]
  exact run_of_not_opened (opened_error_iff.mpr ⟨"d", rfl, by decide, .file hplace rfl hopen⟩)

end Session
end BatchFormat
