import Mathlib.Logic.Basic
import BatchFormat.Engine.Identity
import BatchFormat.Proofs.Walk.Replay

/-!
# Failures of single files

Whatever an engine, a device or a file does wrong is counted and reported, and the walk goes on. The
one thing that ends it early is a question that is asked outside of this: what an entry is. The
system refuses it for a link to a name that is too long, and no link of that kind is passed over.
-/
namespace BatchFormat

variable {σ : Type} {v : Visitor σ} {cwd : Location} {faults : Faults} {recursive dryRun : Bool}
  {s : σ} {p q root : Path} {w : Walker} {host : Host} {world : World}

/-- Stopped, if at all, by a name that is too long. -/
def Progress.OnlyTooLong (progress : Progress σ) : Prop :=
  ∀ e, progress.stopped = some e → ∃ path, e = .refused .nameTooLong path

theorem Progress.OnlyTooLong.andThen {f : σ → Progress σ} {progress : Progress σ}
    (h : progress.OnlyTooLong) (hnext : ∀ s, (f s).OnlyTooLong) :
    (progress.andThen f).OnlyTooLong := by
  unfold Progress.andThen
  split
  · exact h
  · exact hnext _

theorem Progress.OnlyTooLong.foldl {f : String → σ → Progress σ}
    (hnext : ∀ name s, (f name s).OnlyTooLong) (names : List String) {progress : Progress σ}
    (h : progress.OnlyTooLong) :
    (names.foldl (fun progress name => progress.andThen (f name)) progress).OnlyTooLong := by
  induction names generalizing progress with
  | nil => exact h
  | cons name names ih => exact ih (h.andThen (hnext name))

namespace Visitor

theorem onlyTooLong_skip (hhandled : v.unlisted?.isSome) {e : SystemError}
    (hrefusal : e.isRefusal = true) : (v.skip p e s).OnlyTooLong := by
  obtain ⟨pass, hpass⟩ := Option.isSome_iff_exists.mp hhandled
  intro e' he'
  simp [skip, hpass, hrefusal] at he'

/-- The turn of an entry stops only because a path is too long, if what lies below it does. -/
theorem onlyTooLong_entry {enter : Path → σ → Progress σ}
    (henter : ∀ s, Path.holdsNul p.text = false → (enter p s).OnlyTooLong) :
    (v.entry cwd recursive enter p s).OnlyTooLong := by
  intro e he
  unfold entry at he
  split at he
  · next hkind =>
    cases he
    exact ⟨_, Tree.probe_error (Tree.kind?_error hkind)⟩
  · cases he
  · cases he
  · next hkind =>
    obtain ⟨place, found, hfound, -⟩ :=
      Tree.entryAt?_of_test (Tree.kind?_eq_directory_iff.mp hkind)
    have hnul := (Tree.entryAt?_eq_ok_iff.mp hfound).1
    simp only at he
    split at he
    · split at he
      · next hlink =>
        cases he
        exact ⟨_, Tree.isLink_error hlink⟩
      · cases he
      · exact henter _ hnul e he
    · cases he

/-- With a handler for refused listings, an exploration stops only because a path is too long. -/
theorem onlyTooLong_below (hhandled : v.unlisted?.isSome) (depth : Nat)
    (hnul : Path.holdsNul p.text = false) :
    (v.below faults cwd recursive depth p s).OnlyTooLong := by
  induction depth generalizing p s with
  | zero => exact fun e he => nomatch he
  | succ depth ih =>
    unfold below
    split
    · next e hlist =>
      exact onlyTooLong_skip hhandled (Tree.isRefusal_of_list hnul hlist)
    · next names _ =>
      refine Progress.OnlyTooLong.foldl
        (f := fun name => v.entry cwd recursive (v.below faults cwd recursive depth) (p.child name))
        (fun name s => onlyTooLong_entry fun s hnul => ih hnul) names ?_
      exact fun e he => nomatch he

theorem onlyTooLong_run (hhandled : v.unlisted?.isSome) (hnul : Path.holdsNul root.text = false) :
    (v.run faults cwd recursive root s).OnlyTooLong := by
  intro e he
  unfold run at he
  split at he
  · next hfile =>
    cases he
    exact ⟨_, Tree.probe_error (Tree.test_error hfile)⟩
  · cases he
  · exact onlyTooLong_below hhandled _ hnul e he

end Visitor

/-- A traversal comes to `q`, but what it is cannot be told: it leads to a name that is too long. -/
def Tree.Overlong (t : Tree) (faults : Faults) (cwd : Location) (recursive : Bool)
    (root q : Path) : Prop :=
  t.ComesTo faults cwd recursive root q ∧ t.kind? cwd q = .error (.refused .nameTooLong q.text)

/-- The traversal is stopped exactly if it comes to a path that is too long. -/
theorem Tree.not_overlong_iff {t : Tree} (hroot : t.pathExists cwd root = .ok true) :
    (¬∃ q, t.Overlong faults cwd recursive root q) ↔
      (t.events faults cwd root recursive true).stopped = none := by
  rw [events_stopped_iff hroot]
  constructor
  · intro hnone q hq
    cases hkind : t.kind? cwd q with
    | ok kind => exact ⟨kind, rfl⟩
    | error e =>
      rw [probe_error (kind?_error hkind)] at hkind
      exact (hnone ⟨q, hq, hkind⟩).elim
  · rintro hall ⟨q, hq, hkind⟩
    obtain ⟨kind, hok⟩ := hall q hq
    rw [hok] at hkind
    cases hkind

theorem Survey.take_stopped_iff {t : Tree} (hroot : t.pathExists cwd root = .ok true) :
    (take t faults cwd root recursive true).stopped = none ↔
      ¬∃ q, t.Overlong faults cwd recursive root q := by
  rw [take_eq_events, Tree.not_overlong_iff hroot]

namespace Walker

theorem conclude_run (progress : Progress Run) : (conclude progress).run = progress.state := by
  unfold conclude
  split <;> rfl

/-- A walk ends well, with some files failed, or stopped by the system. -/
theorem conclude_cases (progress : Progress Run) :
    ((conclude progress).failure? = none ∧ progress.stopped = none ∧
        (conclude progress).run.summary.failed = 0) ∨
      ((conclude progress).failure? = some (.partialFailure (conclude progress).run.summary) ∧
        progress.stopped = none ∧ 0 < (conclude progress).run.summary.failed) ∨
      ∃ e, (conclude progress).failure? = some (.system e) ∧ progress.stopped = some e := by
  unfold conclude
  split
  · next e hstopped => exact Or.inr (Or.inr ⟨e, rfl, hstopped⟩)
  · next hstopped =>
    by_cases hfailed : progress.state.summary.failed = 0
    · exact Or.inl ⟨by simp [Summary.ok, hfailed], hstopped, hfailed⟩
    · exact Or.inr (Or.inl ⟨by simp [Summary.ok, hfailed], hstopped, Nat.pos_of_ne_zero hfailed⟩)

/-- How a walk over a root that exists can end, whatever engine it works with. -/
theorem run_cases (hroot : world.tree.pathExists host.cwd root = .ok true) (w : Walker)
    (recursive dryRun : Bool) :
    let report := w.run host root recursive dryRun world
    (report.failure? = none ∧ report.run.summary.failed = 0) ∨
      (report.failure? = some (.partialFailure report.run.summary) ∧
        0 < report.run.summary.failed) ∨
      ∃ path, report.failure? = some (.system (.refused .nameTooLong path)) := by
  obtain ⟨place, entry, hfound, -⟩ := Tree.entryAt?_of_test hroot
  have hnul := (Tree.entryAt?_eq_ok_iff.mp hfound).1
  rw [run_of_exists hroot]
  rcases conclude_cases ((w.visitor host dryRun).run host.faults host.cwd recursive root
    (start host root world)) with
    ⟨hfailure, -, hfailed⟩ | ⟨hfailure, -, hfailed⟩ | ⟨e, hfailure, hstopped⟩
  · exact Or.inl ⟨hfailure, hfailed⟩
  · exact Or.inr (Or.inl ⟨hfailure, hfailed⟩)
  · obtain ⟨path, rfl⟩ := Visitor.onlyTooLong_run rfl hnul e hstopped
    exact Or.inr (Or.inr ⟨path, hfailure⟩)

theorem run_processed (hroot : world.tree.pathExists host.cwd root = .ok true) :
    (w.run host root recursive dryRun world).run.summary.processed =
      (w.taken host root recursive dryRun world).length := by
  rw [run_of_exists hroot, conclude_run, processed_eq_length_taken]

/-- A walk is ended early exactly where it comes to an entry that leads to a name too long. -/
theorem run_system_iff (hkeep : w.KeepsShape host)
    (hcwd : ∃ mode, world.tree.Stands host.cwd (.dir mode))
    (hroot : world.tree.pathExists host.cwd root = .ok true) (recursive dryRun : Bool) :
    (∃ e, (w.run host root recursive dryRun world).failure? = some (.system e)) ↔
      ∃ q, world.tree.Overlong host.faults host.cwd recursive root q := by
  obtain ⟨-, -, hstopped⟩ := trace_eq_events hkeep hcwd root recursive dryRun
  rw [← not_iff_not, Tree.not_overlong_iff hroot, ← hstopped, run_of_exists hroot]
  rcases conclude_cases ((w.visitor host dryRun).run host.faults host.cwd recursive root
    (start host root world)) with
    ⟨hfailure, hnone, -⟩ | ⟨hfailure, hnone, -⟩ | ⟨e, hfailure, hsome⟩
  · simp [hfailure, hnone]
  · simp [hfailure, hnone]
  · simp [hfailure, hsome]

/-- A walk that is not ended early processes every eligible file that it comes to. -/
theorem mem_taken (hkeep : w.KeepsShape host)
    (hcwd : ∃ mode, world.tree.Stands host.cwd (.dir mode))
    (hroot : world.tree.pathExists host.cwd root = .ok true)
    (hnone : ¬∃ q, world.tree.Overlong host.faults host.cwd recursive root q)
    (hq : world.tree.ComesTo host.faults host.cwd recursive root q)
    (hfile : world.tree.isFile host.cwd q = .ok true) (heligible : w.eligible q = true) :
    q ∈ w.taken host root recursive dryRun world := by
  obtain ⟨htrace, -, -⟩ := trace_eq_events hkeep hcwd root recursive dryRun
  have hmet := Tree.met_mem_events hroot ((Tree.not_overlong_iff hroot).mp hnone) hq
    (Tree.kind?_eq_file_iff.mpr hfile)
  rw [← htrace] at hmet
  refine List.mem_filterMap.mpr ⟨_, hmet, ?_⟩
  simp [taken?, Candidate.isFile, heligible]

/-- A walk over a root that exists ends well if nothing failed, and with the totals if something
did. What else can end it is a name that is too long, whatever engine it works with. If neither the
engine nor the log moves anything, it is ended so exactly where it comes to an entry that leads to
such a name; otherwise it processes every eligible file that it comes to, and each of these is
counted. A survey with a handler is stopped by the same entries and by nothing else. -/
theorem run_contained (w : Walker) (host : Host) (root : Path) (recursive dryRun : Bool)
    (world : World) (hroot : world.tree.pathExists host.cwd root = .ok true) :
    let report := w.run host root recursive dryRun world
    ((report.failure? = none ∧ report.run.summary.failed = 0) ∨
      (report.failure? = some (.partialFailure report.run.summary) ∧
        0 < report.run.summary.failed) ∨
      ∃ path, report.failure? = some (.system (.refused .nameTooLong path))) ∧
    report.run.summary.processed = (w.taken host root recursive dryRun world).length ∧
    (w.KeepsShape host → (∃ mode, world.tree.Stands host.cwd (.dir mode)) →
      ((∃ e, report.failure? = some (.system e)) ↔
        ∃ q, world.tree.Overlong host.faults host.cwd recursive root q) ∧
      ((¬∃ q, world.tree.Overlong host.faults host.cwd recursive root q) →
        ∀ q, world.tree.ComesTo host.faults host.cwd recursive root q →
          world.tree.isFile host.cwd q = .ok true → w.eligible q = true →
            q ∈ w.taken host root recursive dryRun world)) ∧
    ((Survey.take world.tree host.faults host.cwd root recursive true).stopped = none ↔
      ¬∃ q, world.tree.Overlong host.faults host.cwd recursive root q) :=
  ⟨run_cases hroot w recursive dryRun, run_processed hroot, fun hkeep hcwd =>
    ⟨run_system_iff hkeep hcwd hroot recursive dryRun, fun hnone _ hq hfile heligible =>
      mem_taken hkeep hcwd hroot hnone hq hfile heligible⟩, Survey.take_stopped_iff hroot⟩

def calmHost : Host where
  cwd := []
  environment := []
  faults := .none
  marks := ["abcdefgh", "ijklmnop"]
  scratch := []
  launch := fun _ t => (.overtime, t)
  echo := .silent

/-- A directory with two files of the same name in directories of their own, two links to one file
elsewhere, of which one is in a third directory, an empty file, a file that is no source, and a last
file. -/
def mixedTree : Tree :=
  ⟨[(["o.txt"], .file (Text.encode "x") 0o644), (["p"], .dir 0o755), (["p", "a"], .dir 0o755),
    (["p", "a", "X.java"], .file (Text.encode "x") 0o644), (["p", "b"], .dir 0o755),
    (["p", "b", "X.java"], .file (Text.encode "x") 0o644), (["p", "c"], .dir 0o755),
    (["p", "c", "Y.java"], .link "../../o.txt"), (["p", "e.java"], .file [] 0o644),
    (["p", "l.java"], .link "../o.txt"), (["p", "n.txt"], .file (Text.encode "x") 0o644),
    (["p", "z.java"], .file (Text.encode "x") 0o644)]⟩

/-- One of the directories cannot be listed, one of the files of the same name cannot be read, and
nothing can be moved over the last file. -/
def mixedFaults : Faults :=
  { Faults.none with
    list := fun p => p == ⟨.relative, ["p", "c"]⟩
    read := fun p => p == ⟨.relative, ["p", "a", "X.java"]⟩
    replace := fun real => real == Path.ofNames ["p", "z.java"] }

def mixedHost : Host := { calmHost with faults := mixedFaults }

/-- A walker that ends every text with one more line. -/
def lineWalker : Walker :=
  ⟨⟨⟨"line", fun _ => .ok (), fun _ content world => (.ok (content ++ "\n"), world)⟩, .empty,
    none⟩, fun _ => true⟩

def sourceWalker : Walker := { lineWalker with eligible := fun p => p.name != "n.txt" }

theorem sourceWalker_keepsShape (h : host.echo = .silent) : sourceWalker.KeepsShape host :=
  ⟨⟨fun _ _ _ => rfl, fun _ h => nomatch h⟩, fun _ _ _ => by rw [h]; rfl⟩

section

variable {place : Location} {hidden : Bool}

def mixedDirs : List Location := [["p"], ["p", "a"], ["p", "b"], ["p", "c"]]

def mixedFiles : List Location :=
  [["p", "a", "X.java"], ["p", "b", "X.java"], ["p", "n.txt"], ["p", "z.java"]]

theorem mixedTree_stands_dir : ∀ place ∈ mixedDirs, mixedTree.Stands place (.dir 0o755) := by
  have htop : mixedTree.Stands ["p"] (.dir 0o755) := Tree.Stands.top.child (by decide) rfl
  intro place hplace
  simp only [mixedDirs, List.mem_cons, List.not_mem_nil, or_false] at hplace
  rcases hplace with rfl | rfl | rfl | rfl
  · exact htop
  · exact htop.child (by decide) rfl
  · exact htop.child (by decide) rfl
  · exact htop.child (by decide) rfl

theorem mixedTree_dir (h : place ∈ mixedDirs) (follow : Bool) :
    mixedTree.entryAt? [] follow ⟨.relative, place⟩ = .ok (place, .dir 0o755) := by
  have hpath : ∀ place ∈ mixedDirs, Path.holdsNul (Path.text ⟨.relative, place⟩) = false ∧
      (Path.text ⟨.relative, place⟩).utf8ByteSize ≤ Tree.pathLimit := by decide
  obtain ⟨hnul, hshort⟩ := hpath place h
  exact Tree.entryAt?_eq_ok_iff.mpr
    ⟨hnul, hshort, (mixedTree_stands_dir place h).walk_eq fun _ => rfl⟩

theorem mixedTree_file (h : place ∈ mixedFiles) (follow : Bool) :
    mixedTree.entryAt? [] follow ⟨.relative, place⟩ =
      .ok (place, .file (Text.encode "x") 0o644) := by
  have hpath : ∀ place ∈ mixedFiles, Path.holdsNul (Path.text ⟨.relative, place⟩) = false ∧
      (Path.text ⟨.relative, place⟩).utf8ByteSize ≤ Tree.pathLimit := by decide
  have hstands : ∀ place ∈ mixedFiles,
      mixedTree.Stands place (.file (Text.encode "x") 0o644) := by
    intro place hplace
    simp only [mixedFiles, List.mem_cons, List.not_mem_nil, or_false] at hplace
    rcases hplace with rfl | rfl | rfl | rfl
    · exact (mixedTree_stands_dir ["p", "a"] (by decide)).child (by decide) rfl
    · exact (mixedTree_stands_dir ["p", "b"] (by decide)).child (by decide) rfl
    · exact (mixedTree_stands_dir ["p"] (by decide)).child (by decide) rfl
    · exact (mixedTree_stands_dir ["p"] (by decide)).child (by decide) rfl
  obtain ⟨hnul, hshort⟩ := hpath place h
  exact Tree.entryAt?_eq_ok_iff.mpr ⟨hnul, hshort, (hstands place h).walk_eq fun _ => rfl⟩

theorem mixedTree_empty : mixedTree.entryAt? [] true ⟨.relative, ["p", "e.java"]⟩ =
    .ok (["p", "e.java"], .file [] 0o644) := by
  have hstands : mixedTree.Stands ["p", "e.java"] (.file [] 0o644) :=
    (mixedTree_stands_dir ["p"] (by decide)).child (by decide) rfl
  exact Tree.entryAt?_eq_ok_iff.mpr ⟨by decide, by decide, hstands.walk_eq fun _ => rfl⟩

theorem mixedTree_link : mixedTree.entryAt? [] true ⟨.relative, ["p", "l.java"]⟩ =
    .ok (["o.txt"], .file (Text.encode "x") 0o644) := by
  have hpieces : Path.pieces "../o.txt" = ["..", "o.txt"] := by decide
  refine Tree.entryAt?_eq_ok_iff.mpr ⟨by decide, by decide, ?_⟩
  rw [show (⟨.relative, ["p", "l.java"]⟩ : Path).parts = ["p", "l.java"] from rfl,
    Tree.walk_through (by decide) rfl]
  refine (Tree.walk_onward (by decide) rfl (by simp)).trans ?_
  rw [hpieces]
  exact Tree.walk_up.trans (Tree.walk_halt (by decide) rfl rfl)

theorem mixedTree_alias : mixedTree.entryAt? [] true ⟨.relative, ["p", "c", "Y.java"]⟩ =
    .ok (["o.txt"], .file (Text.encode "x") 0o644) := by
  have hpieces : Path.pieces "../../o.txt" = ["..", "..", "o.txt"] := by decide
  refine Tree.entryAt?_eq_ok_iff.mpr ⟨by decide, by decide, ?_⟩
  rw [show (⟨.relative, ["p", "c", "Y.java"]⟩ : Path).parts = ["p", "c", "Y.java"] from rfl,
    Tree.walk_through (by decide) rfl, Tree.walk_through (by decide) rfl]
  refine (Tree.walk_onward (by decide) rfl (by simp)).trans ?_
  rw [hpieces]
  exact Tree.walk_up.trans (Tree.walk_up.trans (Tree.walk_halt (by decide) rfl rfl))

theorem mixedTree_pathExists : mixedTree.pathExists [] ⟨.relative, ["p"]⟩ = .ok true :=
  Tree.pathExists_of_test (Tree.isDir_of_dir (mixedTree_dir (by decide) true))

theorem mixedTree_names : mixedTree.names ["p"] =
      ["a", "b", "c", "e.java", "l.java", "n.txt", "z.java"] ∧
    mixedTree.names ["p", "a"] = ["X.java"] ∧ mixedTree.names ["p", "b"] = ["X.java"] ∧
      mixedTree.names ["p", "c"] = ["Y.java"] := by
  refine ⟨?_, ?_, ?_, ?_⟩
  · exact List.mergeSort_of_pairwise (by decide)
  · exact List.mergeSort_of_pairwise (by decide)
  · exact List.mergeSort_of_pairwise (by decide)
  · exact List.mergeSort_of_pairwise (by decide)

/-- What happens below the directory, if one of the others in it is `hidden` or not. -/
def mixedEvents (hidden : Bool) : List Event :=
  [.met ⟨⟨.relative, ["p", "a"]⟩, .directory⟩, .met ⟨⟨.relative, ["p", "a", "X.java"]⟩, .file⟩,
    .met ⟨⟨.relative, ["p", "b"]⟩, .directory⟩, .met ⟨⟨.relative, ["p", "b", "X.java"]⟩, .file⟩,
    .met ⟨⟨.relative, ["p", "c"]⟩, .directory⟩,
    if hidden then .missed ⟨.relative, ["p", "c"]⟩ (.refused .denied "p/c")
    else .met ⟨⟨.relative, ["p", "c", "Y.java"]⟩, .file⟩,
    .met ⟨⟨.relative, ["p", "e.java"]⟩, .file⟩, .met ⟨⟨.relative, ["p", "l.java"]⟩, .file⟩,
    .met ⟨⟨.relative, ["p", "n.txt"]⟩, .file⟩, .met ⟨⟨.relative, ["p", "z.java"]⟩, .file⟩]

theorem mixedTree_events (hlist : ∀ p, faults.list p = (hidden && p == ⟨.relative, ["p", "c"]⟩)) :
    mixedTree.events faults [] ⟨.relative, ["p"]⟩ true true = ⟨mixedEvents hidden, none⟩ := by
  have hroot : mixedTree.isFile [] ⟨.relative, ["p"]⟩ = .ok false :=
    Tree.isFile_of_isDir (Tree.isDir_of_dir (mixedTree_dir (by decide) true))
  have hdirs : ∀ place ∈ mixedDirs,
      mixedTree.kind? [] ⟨.relative, place⟩ = .ok (some .directory) ∧
        mixedTree.isLink [] ⟨.relative, place⟩ = .ok false ∧
        (faults.list ⟨.relative, place⟩ = false →
          mixedTree.list faults [] ⟨.relative, place⟩ = .ok (mixedTree.names place)) := by
    intro place hplace
    refine ⟨Tree.kind?_eq_directory_iff.mpr (Tree.isDir_of_dir (mixedTree_dir hplace true)), ?_, ?_⟩
    · simp [Tree.isLink, Tree.probe, mixedTree_dir hplace, Except.map, Entry.isLink]
    · intro hgranted
      simp [Tree.list, hgranted, mixedTree_dir hplace]
  have hfiles : ∀ place ∈ mixedFiles,
      mixedTree.kind? [] ⟨.relative, place⟩ = .ok (some .file) := fun place hplace =>
    Tree.kind?_eq_file_iff.mpr (Tree.isFile_of_file (mixedTree_file hplace true))
  have hempty := Tree.kind?_eq_file_iff.mpr (Tree.isFile_of_file mixedTree_empty)
  have hlink := Tree.kind?_eq_file_iff.mpr (Tree.isFile_of_file mixedTree_link)
  have halias := Tree.kind?_eq_file_iff.mpr (Tree.isFile_of_file mixedTree_alias)
  simp only [mixedDirs, mixedFiles, List.forall_mem_cons, List.not_mem_nil, false_implies,
    implies_true] at hdirs hfiles
  obtain ⟨htop, ha, hb, hc, -⟩ := hdirs
  obtain ⟨hax, hbx, hn, hz, -⟩ := hfiles
  obtain ⟨hnames, hnamesA, hnamesB, hnamesC⟩ := mixedTree_names
  have hlistTop := htop.2.2 (by simp [hlist])
  have hlistA := ha.2.2 (by simp [hlist])
  have hlistB := hb.2.2 (by simp [hlist])
  have hchild : ∀ names name, Path.child ⟨.relative, names⟩ name = ⟨.relative, names ++ [name]⟩ :=
    fun _ _ => rfl
  obtain ⟨n, hdepth⟩ : ∃ n, Visitor.depthLimit = n + 1 + 1 := ⟨4095, rfl⟩
  unfold Tree.events Visitor.run
  simp only [Event.recorder, hroot, hdepth]
  cases hidden with
  | false =>
    have hlistC := hc.2.2 (by simp [hlist])
    simp [Visitor.below, Visitor.entry, Progress.andThen, hchild, hlistTop, hlistA, hlistB, hlistC,
      hnames, hnamesA, hnamesB, hnamesC, ha, hb, hc, hempty, hlink, halias, hax, hbx, hn, hz,
      mixedEvents]
  | true =>
    have htext : Path.text ⟨.relative, ["p", "c"]⟩ = "p/c" := by decide
    have hlistC : mixedTree.list faults [] ⟨.relative, ["p", "c"]⟩ =
        .error (.refused .denied "p/c") := by
      simp [Tree.list, hlist, htext]
    simp [Visitor.below, Visitor.entry, Visitor.skip, Progress.andThen, hchild, hlistTop, hlistA,
      hlistB, hlistC, hnames, hnamesA, hnamesB, ha, hb, hc, hempty, hlink, hax, hbx, hn, hz,
      SystemError.isRefusal, mixedEvents]

def mixedSources (hidden : Bool) : List Path :=
  [⟨.relative, ["p", "a", "X.java"]⟩, ⟨.relative, ["p", "b", "X.java"]⟩] ++
    (if hidden then [] else [⟨.relative, ["p", "c", "Y.java"]⟩]) ++
    [⟨.relative, ["p", "e.java"]⟩, ⟨.relative, ["p", "l.java"]⟩, ⟨.relative, ["p", "z.java"]⟩]

section

variable (h : w.KeepsShape host) (hcwd : host.cwd = [])
  (hlist : ∀ p, host.faults.list p = (hidden && p == ⟨.relative, ["p", "c"]⟩))
include h hcwd hlist

theorem mixedTree_trace (dryRun : Bool) :
    w.trace host ⟨.relative, ["p"]⟩ true dryRun (World.ofTree mixedTree) = mixedEvents hidden := by
  have hstands : ∃ mode, (World.ofTree mixedTree).tree.Stands host.cwd (.dir mode) :=
    hcwd ▸ ⟨_, .top⟩
  have hevents : (World.ofTree mixedTree).tree.events host.faults host.cwd ⟨.relative, ["p"]⟩ true
      true = ⟨mixedEvents hidden, none⟩ := hcwd ▸ mixedTree_events hlist
  rw [(trace_eq_events h hstands _ true dryRun).1, hevents]

theorem mixedTree_taken (heligible : w.eligible = sourceWalker.eligible) (dryRun : Bool) :
    w.taken host ⟨.relative, ["p"]⟩ true dryRun (World.ofTree mixedTree) = mixedSources hidden := by
  have htaken : w.taken? = sourceWalker.taken? := by
    funext event
    cases event <;> simp [taken?, heligible]
  rw [taken, mixedTree_trace h hcwd hlist, htaken]
  cases hidden <;> decide

end

theorem mixedFaults_list (p : Path) :
    mixedHost.faults.list p = (true && p == ⟨.relative, ["p", "c"]⟩) := rfl

end

/-- The walk goes on behind the directory that cannot be listed and the files that fail. -/
theorem run_contained_of_mixedTree :
    let report := sourceWalker.run mixedHost ⟨.relative, ["p"]⟩ true false (World.ofTree mixedTree)
    mixedTree.pathExists [] ⟨.relative, ["p"]⟩ = .ok true ∧
      (∀ e, report.failure? ≠ some (.system e)) ∧ report.run.summary.processed = 5 ∧
      (∀ q, mixedTree.ComesTo mixedFaults [] true ⟨.relative, ["p"]⟩ q →
        mixedTree.isFile [] q = .ok true → q.name ≠ "n.txt" → q ∈ mixedSources true) ∧
      (Survey.take mixedTree mixedFaults [] ⟨.relative, ["p"]⟩ true true).stopped = none := by
  intro report
  have hkeep : sourceWalker.KeepsShape mixedHost := sourceWalker_keepsShape rfl
  have htaken := mixedTree_taken hkeep rfl mixedFaults_list rfl false
  have hnone : ¬∃ q, mixedTree.Overlong mixedFaults [] true ⟨.relative, ["p"]⟩ q :=
    (Tree.not_overlong_iff mixedTree_pathExists).mpr
      (congrArg Progress.stopped (mixedTree_events mixedFaults_list))
  obtain ⟨-, hprocessed, hwalk, hsurvey⟩ := run_contained sourceWalker mixedHost
    ⟨.relative, ["p"]⟩ true false (World.ofTree mixedTree) mixedTree_pathExists
  obtain ⟨hsystem, hkept⟩ := hwalk hkeep ⟨_, .top⟩
  rw [htaken] at hprocessed hkept
  refine ⟨mixedTree_pathExists, fun e he => hnone (hsystem.mp ⟨e, he⟩), hprocessed, ?_,
    hsurvey.mpr hnone⟩
  intro q hcomes hfile hname
  exact hkept hnone q hcomes hfile (by simpa [sourceWalker] using hname)

def idleWalker : Walker := ⟨⟨Identity.engine, .empty, none⟩, fun _ => true⟩

theorem idleWalker_keepsShape : idleWalker.KeepsShape calmHost :=
  ⟨⟨fun _ _ _ => rfl, fun _ h => nomatch h⟩, fun _ _ _ => rfl⟩

/-- A directory with a file, a link to a name that is too long, and another file. -/
def longLink : Tree :=
  ⟨[(["d"], .dir 0o755), (["d", "a.java"], .file (Text.encode "x") 0o644),
    (["d", "b"], .link (String.ofList (List.replicate 300 'x'))),
    (["d", "c.java"], .file (Text.encode "y") 0o644)]⟩

theorem longLink_get?_d : longLink.get? ([] ++ ["d"]) = some (.dir 0o755) := rfl

theorem longLink_pathExists : longLink.pathExists [] ⟨.relative, ["d"]⟩ = .ok true := by
  have hname : Tree.IsName "d" := by decide
  have hentry : longLink.entryAt? [] true ⟨.relative, ["d"]⟩ = .ok (["d"], .dir 0o755) :=
    Tree.entryAt?_eq_ok_iff.mpr ⟨by decide, by decide,
      (Tree.walk_through hname longLink_get?_d).trans Tree.walk_nil⟩
  simp [Tree.pathExists, Tree.test, Tree.probe, hentry, Except.map]

theorem longLink_comesTo :
    longLink.ComesTo .none [] true ⟨.relative, ["d"]⟩ ⟨.relative, ["d", "b"]⟩ := by
  have hname : Tree.IsName "d" := by decide
  have hentry : longLink.entryAt? [] true ⟨.relative, ["d"]⟩ = .ok (["d"], .dir 0o755) :=
    Tree.entryAt?_eq_ok_iff.mpr ⟨by decide, by decide,
      (Tree.walk_through hname longLink_get?_d).trans Tree.walk_nil⟩
  have hlist : longLink.list .none [] ⟨.relative, ["d"]⟩ = .ok (longLink.names ["d"]) := by
    simp [Tree.list, hentry, Faults.none]
  refine Or.inr ⟨?_, ⟨.relative, ["d"]⟩, .refl, longLink.names ["d"], hlist, "b", ?_, rfl⟩
  · simp [Tree.isFile, Tree.test, Tree.probe, hentry, Except.map, Entry.isFile]
  · refine List.mem_mergeSort.mpr ?_
    decide

theorem longLink_kind? :
    longLink.kind? [] ⟨.relative, ["d", "b"]⟩ = .error (.refused .nameTooLong "d/b") := by
  have hd : Tree.IsName "d" := by decide
  have hb : Tree.IsName "b" := by decide
  have hpieces : Path.pieces (String.ofList (List.replicate 300 'x')) =
      [String.ofList (List.replicate 300 'x')] := by
    have hslash : '/' ∉ List.replicate 300 'x' :=
      fun hmem => absurd (List.eq_of_mem_replicate hmem) (by decide)
    rw [Path.pieces, String.toList_ofList, List.splitOn_eq_singleton hslash]
    rfl
  have hlong : (String.ofList (List.replicate 300 'x')).utf8ByteSize > Tree.nameLimit := by
    decide +kernel
  have hwalk : longLink.walk true Tree.linkLimit [] ["d", "b"] = .error .nameTooLong := by
    rw [Tree.walk_through hd longLink_get?_d]
    refine (Tree.walk_onward hb rfl (by simp)).trans ?_
    rw [hpieces]
    exact Tree.walk_long (by decide +kernel) (by decide +kernel) hlong
  have hentry : longLink.entryAt? [] true ⟨.relative, ["d", "b"]⟩ =
      .error (.refused .nameTooLong "d/b") := by
    have htext : Path.text ⟨.relative, ["d", "b"]⟩ = "d/b" := by decide
    have hnul : Path.holdsNul "d/b" = false := by decide
    have hshort : ¬"d/b".utf8ByteSize > Tree.pathLimit := by decide
    have horigin : Path.origin [] ⟨.relative, ["d", "b"]⟩ = [] := rfl
    simp [Tree.entryAt?, Tree.locate, htext, hnul, hshort, horigin, hwalk]
  simp [Tree.kind?, Tree.isDir, Tree.test, Tree.probe, hentry, Except.map, Cause.isAbsence, bind,
    Except.bind]

theorem longLink_overlong :
    ∃ q, longLink.Overlong .none [] true ⟨.relative, ["d"]⟩ q := by
  have htext : Path.text ⟨.relative, ["d", "b"]⟩ = "d/b" := by decide
  exact ⟨_, longLink_comesTo, htext ▸ longLink_kind?⟩

/-- A link to a name that is too long is enough to end a walk, and a survey with a handler, before
the files behind it are met. -/
theorem run_stopped_of_longLink :
    (∃ path, (idleWalker.run calmHost ⟨.relative, ["d"]⟩ true false
        (World.ofTree longLink)).failure? = some (.system (.refused .nameTooLong path))) ∧
      (Survey.take longLink .none [] ⟨.relative, ["d"]⟩ true true).stopped ≠ none := by
  have hroot : (World.ofTree longLink).tree.pathExists calmHost.cwd ⟨.relative, ["d"]⟩ =
      .ok true := longLink_pathExists
  constructor
  · obtain ⟨e, he⟩ := (run_system_iff idleWalker_keepsShape ⟨_, .top⟩ hroot true false).mpr
      longLink_overlong
    rcases run_cases hroot idleWalker true false with
      ⟨hnone, -⟩ | ⟨hpartial, -⟩ | hlong
    · rw [hnone] at he
      cases he
    · rw [hpartial] at he
      cases he
    · exact hlong
  · exact fun hnone => (Survey.take_stopped_iff longLink_pathExists).mp hnone longLink_overlong

end Walker
end BatchFormat
