import BatchFormat.Proofs.Traverse.Unlisted
import BatchFormat.Proofs.Walk.Apart
import BatchFormat.Proofs.Walk.Drawn

/-!
# Failures do not spread

A run under faults is compared with the run that has none. Directories that cannot be listed hide
what lies below them, and each is noted once. About a file that is not hidden, that no fault
concerns and that a single path leads to, both runs do and note the same.
-/
namespace BatchFormat

variable {w : Walker} {host : Host} {world : World} {p root : Path} {recursive dryRun : Bool}
  {logs : List Location} {place : Location} {bytes : Bytes} {mode : Nat}
  {draw : Path → List String}

/-- No fault concerns a path or the real path that it stands for. -/
structure Faults.Spare (faults : Faults) (p real : Path) : Prop where
  read : faults.read p = false
  create : faults.create real = false
  write : faults.write real = .none
  mode : faults.mode real = false
  replace : faults.replace real = false

/-- Two sets of faults do the same to a path and to the real path that it stands for. -/
structure Faults.Agree (faults faults' : Faults) (p real : Path) : Prop where
  read : faults.read p = faults'.read p
  create : faults.create real = faults'.create real
  write : faults.write real = faults'.write real
  mode : faults.mode real = faults'.mode real
  replace : faults.replace real = faults'.replace real

theorem Faults.Spare.agree {faults : Faults} {p real : Path} (h : faults.Spare p real) :
    faults.Agree .none p real :=
  ⟨h.read, h.create, h.write, h.mode, h.replace⟩

namespace Tree

variable {t : Tree} {faults faults' : Faults} {marks : List String} {cwd : Location}
  {content : String}

/-- A replacement depends on the faults that concern the path and its real path. -/
theorem replace_of_agree (hreal : t.resolve cwd p = .ok place)
    (hagree : faults.Agree faults' p (Path.ofNames place)) :
    t.replace faults marks cwd p content = t.replace faults' marks cwd p content := by
  have hdraft : t.draft faults marks cwd p content = t.draft faults' marks cwd p content := by
    simp only [draft, hreal, bind, Except.bind, hagree.create]
  unfold replace
  rw [hdraft]
  split
  · rfl
  · next d hd =>
    have hcarry : d.carryOut faults t = d.carryOut faults' t := by
      simp only [Draft.carryOut, Draft.refusal?, path_of_draft hreal hd, hagree.write, hagree.mode,
        hagree.replace]
    rw [hcarry]

end Tree

def Host.faultless (host : Host) : Host := { host with faults := .none }

/-- The host on another walk, on which nothing fails. -/
def Host.calm (host : Host) (draw : Path → List String) (h : ∀ p, (draw p).Perm host.marks) :
    Host := host.faultless.drawing draw h

namespace Walker

/-- An attempt at a file that no fault concerns ends as one without faults. -/
theorem outcome_of_spare (hcwd : ∃ mode, world.tree.Stands host.cwd (.dir mode))
    (hfile : world.tree.entryAt? host.cwd true p = .ok (place, .file bytes mode))
    (hspare : host.faults.Spare p (Path.ofNames place))
    (hdraw : ∀ p, (draw p).Perm host.marks) (dryRun : Bool) :
    SameEnding (w.outcome (host.calm draw hdraw) dryRun p bytes world)
      (w.outcome host dryRun p bytes world) := by
  have hreal := Tree.leadsTo_iff.mp ((Tree.leadsTo_of_file hfile).mpr rfl)
  have hsame : w.outcome host dryRun p bytes world =
      w.outcome host.faultless dryRun p bytes world := by
    unfold outcome Host.faultless
    simp only [Tree.replace_of_agree hreal hspare.agree, hspare.read]
    rfl
  have hcwd' : ∃ mode, world.tree.Stands host.faultless.cwd (.dir mode) := hcwd
  rw [hsame]
  exact outcome_of_draw hcwd' hfile rfl rfl rfl hdraw dryRun bytes

theorem Steady.calm (h : w.Steady host logs) (hdraw : ∀ p, (draw p).Perm host.marks) :
    w.Steady (host.calm draw hdraw) logs :=
  ⟨h.gateway, h.echo⟩

section

variable {hdraw : ∀ p, (draw p).Perm host.marks} (h : w.Steady host logs)
  (hcwd : ∃ mode, world.tree.Stands host.cwd (.dir mode))
  (hfinished : (w.run host root recursive dryRun world).Finished)
  (hcalm : (w.run (host.calm draw hdraw) root recursive dryRun world).Finished)
include h hcwd hfinished hcalm

/-- Under faults a walk meets what it meets without them, but for what is hidden. -/
theorem met_iff_of_calm (c : Candidate) :
    .met c ∈ w.trace host root recursive dryRun world ↔
      .met c ∈ w.trace (host.calm draw hdraw) root recursive dryRun world ∧
        ¬∃ d e, world.tree.Unlisted host.faults host.cwd recursive root d e ∧
          d.Below c.path := by
  obtain ⟨hroot, hnone⟩ := (finished_iff h.keepsShape hcwd root recursive dryRun).mp hfinished
  have hsteady := h.calm hdraw
  have hnone' := ((finished_iff hsteady.keepsShape hcwd root recursive dryRun).mp hcalm).2
  rw [(trace_eq_events h.keepsShape hcwd root recursive dryRun).1,
    (trace_eq_events hsteady.keepsShape hcwd root recursive dryRun).1]
  exact Tree.met_mem_events_iff_of_none hroot hnone hnone'

theorem taken_iff_of_calm (q : Path) :
    q ∈ w.taken host root recursive dryRun world ↔
      q ∈ w.taken (host.calm draw hdraw) root recursive dryRun world ∧
        ¬∃ d e, world.tree.Unlisted host.faults host.cwd recursive root d e ∧ d.Below q := by
  rw [mem_taken_iff, mem_taken_iff, met_iff_of_calm h hcwd hfinished hcalm]
  exact and_right_comm

/-- About a file that no fault concerns a walk does and notes what it does and notes without
faults. -/
theorem isolated_file (hplaces : world.tree.places.Nodup)
    (hlogs : ∀ q ∈ w.taken (host.calm draw hdraw) root recursive dryRun world, ∀ found,
      world.tree.entryAt? host.cwd true q = .ok found → found.1 ∉ logs)
    (hp : p ∈ w.taken (host.calm draw hdraw) root recursive dryRun world)
    (hreal : world.tree.resolve host.cwd p = .ok place)
    (hspare : host.faults.Spare p (Path.ofNames place))
    (hclear : ¬∃ d e, world.tree.Unlisted host.faults host.cwd recursive root d e ∧ d.Below p)
    (halone : ∀ q ∈ w.taken (host.calm draw hdraw) root recursive dryRun world, q ≠ p →
      world.tree.resolve host.cwd q ≠ .ok place) :
    let faulty := (w.run host root recursive dryRun world).run
    let calm := (w.run (host.calm draw hdraw) root recursive dryRun world).run
    (p ∈ faulty.summary.changedFiles ↔ p ∈ calm.summary.changedFiles) ∧
      Option.Rel SameButMark (calm.summary.errors.lookup p) (faulty.summary.errors.lookup p) ∧
      faulty.world.tree.get? place = calm.world.tree.get? place := by
  intro faulty calm
  have hsteady := h.calm hdraw
  have hroot := ((finished_iff h.keepsShape hcwd root recursive dryRun).mp hfinished).1
  have htaken := taken_iff_of_calm h hcwd hfinished hcalm
  have hisFile := isFile_of_mem_taken hsteady.keepsShape hcwd hroot hp
  obtain ⟨there, bytes, mode, hfile⟩ : ∃ there bytes mode,
      world.tree.entryAt? host.cwd true p = .ok (there, .file bytes mode) :=
    Tree.exists_file hisFile
  obtain rfl := (Tree.leadsTo_of_file hfile).mp (Tree.leadsTo_iff.mpr hreal)
  have halone' : ∀ q ∈ w.taken (host.calm draw hdraw) root recursive dryRun world, q ≠ p →
      world.tree.leadsTo host.cwd place q = false := fun q hq hne => by
    rw [Bool.eq_false_iff, ne_eq, Tree.leadsTo_iff]
    exact halone q hq hne
  obtain ⟨hlookup, hchanged, hget⟩ := run_of_apart h hcwd hplaces hroot
    (fun q hq => hlogs q ((htaken q).mp hq).1) ((htaken p).mpr ⟨hp, hclear⟩) hfile
    fun q hq => halone' q ((htaken q).mp hq).1
  obtain ⟨hlookup', hchanged', hget'⟩ :=
    run_of_apart hsteady hcwd hplaces hroot hlogs hp hfile halone'
  have hsame : SameEnding (w.outcome (host.calm draw hdraw) dryRun p bytes world)
      (w.outcome host dryRun p bytes world) := outcome_of_spare hcwd hfile hspare hdraw dryRun
  refine ⟨hchanged.trans ?_, ?_, ?_⟩
  · rw [hchanged', hsame.changes_eq]
  · rw [hlookup, hlookup']
    exact hsame.complaint?
  · rw [hget, hget', hsame.left_eq]

end

/-- What a walk notes of failures: each directory that cannot be listed, and nothing twice. -/
theorem failures_of_finished (h : w.Steady host logs)
    (hcwd : ∃ mode, world.tree.Stands host.cwd (.dir mode)) (hplaces : world.tree.places.Nodup)
    (hlogs : ∀ q ∈ w.taken host root recursive dryRun world, ∀ found,
      world.tree.entryAt? host.cwd true q = .ok found → found.1 ∉ logs)
    (hfinished : (w.run host root recursive dryRun world).Finished) :
    let noted := (w.run host root recursive dryRun world).run.summary
    (∀ d e, world.tree.Unlisted host.faults host.cwd recursive root d e →
        noted.errors.lookup d = some e.message) ∧
      (noted.errors.map Prod.fst).Nodup ∧ noted.failed = noted.errors.length := by
  intro noted
  obtain ⟨hroot, hnone⟩ := (finished_iff h.keepsShape hcwd root recursive dryRun).mp hfinished
  have hready := begun_ready h hcwd hlogs
  have honce : ((course host root recursive world.tree).filterMap w.subject?).Nodup :=
    nodup_course hplaces w host recursive
  have hnoted : noted = (w.replay host dryRun _ (begun host root world)).summary :=
    congrArg Run.summary (run_eq_course h.keepsShape hcwd root recursive dryRun)
  have htidy : noted.Tidy := by
    rw [hnoted]
    refine tidy_replay h hready dryRun honce ?_ ?_ <;> rw [summary_begun]
    · exact fun _ _ => rfl
    · exact Summary.tidy_empty
  refine ⟨fun d e hunlisted => ?_, htidy.once, htidy.counted⟩
  rw [hnoted]
  refine lookup_of_missed h hready dryRun honce ?_
  rw [(course_of_exists h.keepsShape hcwd hroot recursive dryRun).1,
    (trace_eq_events h.keepsShape hcwd root recursive dryRun).1]
  exact Tree.missed_mem_events hroot hnone hunlisted

/-- A walk under faults, compared with a walk without any, both coming to their end. For each of
them the marks are drawn anew. What is met under faults is what is met without them, but for what
lies below a directory that cannot be listed. A file that is not hidden in this way, that no fault
concerns and that no other eligible candidate leads to is left with the same bytes, and is noted in
the same way, with the same message up to the mark in it. Each directory that cannot be listed is
noted, and every failure is counted once and has one message. Logs may be kept meanwhile, if none of
them is formatted; what they say is left out of account. -/
theorem run_isolated (w : Walker) (host : Host) (draw : Path → List String)
    (hdraw : ∀ p, (draw p).Perm host.marks) (root : Path) (recursive dryRun : Bool)
    (world : World) (logs : List Location) (hengine : w.gateway.ContentOnly)
    (hecho : host.echo.StaysIn logs) (hcwd : ∃ mode, world.tree.Stands host.cwd (.dir mode))
    (hplaces : world.tree.places.Nodup)
    (hlogs : ∀ q ∈ w.taken (host.calm draw hdraw) root recursive dryRun world, ∀ found,
      world.tree.entryAt? host.cwd true q = .ok found → found.1 ∉ logs)
    (hfinished : (w.run host root recursive dryRun world).Finished)
    (hcalm : (w.run (host.calm draw hdraw) root recursive dryRun world).Finished) :
    let faulty := (w.run host root recursive dryRun world).run
    let calm := (w.run (host.calm draw hdraw) root recursive dryRun world).run
    let files := w.taken (host.calm draw hdraw) root recursive dryRun world
    let unlisted := world.tree.Unlisted host.faults host.cwd recursive root
    (∀ c, .met c ∈ w.trace host root recursive dryRun world ↔
        .met c ∈ w.trace (host.calm draw hdraw) root recursive dryRun world ∧
          ¬∃ d e, unlisted d e ∧ d.Below c.path) ∧
      (∀ p ∈ files, ∀ place, world.tree.resolve host.cwd p = .ok place →
        host.faults.Spare p (Path.ofNames place) → (¬∃ d e, unlisted d e ∧ d.Below p) →
        (∀ q ∈ files, q ≠ p → world.tree.resolve host.cwd q ≠ .ok place) →
        (p ∈ faulty.summary.changedFiles ↔ p ∈ calm.summary.changedFiles) ∧
          Option.Rel SameButMark (calm.summary.errors.lookup p)
            (faulty.summary.errors.lookup p) ∧
          faulty.world.tree.get? place = calm.world.tree.get? place) ∧
      (∀ d e, unlisted d e → faulty.summary.errors.lookup d = some e.message) ∧
      (faulty.summary.errors.map Prod.fst).Nodup ∧
      faulty.summary.failed = faulty.summary.errors.length := by
  intro faulty calm files unlisted
  have hsteady : w.Steady host logs := ⟨hengine, hecho⟩
  have hmet := met_iff_of_calm hsteady hcwd hfinished hcalm
  have htaken := taken_iff_of_calm hsteady hcwd hfinished hcalm
  refine ⟨hmet, fun p hp place hreal hspare hclear halone => ?_, ?_⟩
  · exact isolated_file hsteady hcwd hfinished hcalm hplaces hlogs hp hreal hspare hclear halone
  · exact failures_of_finished hsteady hcwd hplaces (fun q hq => hlogs q ((htaken q).mp hq).1)
      hfinished

theorem sourceWalker_mixed_calm :
    Mixed sourceWalker (mixedHost.calm redraw redraw_perm) false "x\n" where
  steady := sourceWalker_mixed.steady.calm redraw_perm
  cwd := rfl
  mark := List.mem_cons_self
  list := fun _ => rfl
  eligible := rfl
  asked := fun _ => rfl
  other := by decide

/-- A file is formatted beside one of the same name that cannot be read and a directory that cannot
be listed, in which another file is hidden. -/
theorem run_isolated_of_mixedTree :
    let faulty := (sourceWalker.run mixedHost ⟨.relative, ["p"]⟩ true false
      (World.ofTree mixedTree)).run
    let calm := (sourceWalker.run (mixedHost.calm redraw redraw_perm) ⟨.relative, ["p"]⟩ true false
      (World.ofTree mixedTree)).run
    (⟨.relative, ["p", "b", "X.java"]⟩ ∈ faulty.summary.changedFiles ∧
      ⟨.relative, ["p", "b", "X.java"]⟩ ∈ calm.summary.changedFiles) ∧
      faulty.world.tree.get? ["p", "b", "X.java"] = calm.world.tree.get? ["p", "b", "X.java"] ∧
      faulty.world.tree.get? ["p", "b", "X.java"] =
        some (.file (Text.encode "x\n") 0o644) ∧
      ⟨.relative, ["p", "a", "X.java"]⟩ ∉ faulty.summary.changedFiles ∧
      ⟨.relative, ["p", "a", "X.java"]⟩ ∈ calm.summary.changedFiles ∧
      (∃ d e, mixedTree.Unlisted mixedFaults [] true ⟨.relative, ["p"]⟩ d e ∧
        d.Below ⟨.relative, ["p", "c", "Y.java"]⟩ ∧
        faulty.summary.errors.lookup d = some e.message) := by
  intro faulty calm
  have hmixed := sourceWalker_mixed
  have hmixed' := sourceWalker_mixed_calm
  obtain ⟨hmet, hspared, hunlisted, -⟩ := run_isolated sourceWalker mixedHost redraw redraw_perm
    ⟨.relative, ["p"]⟩ true false (World.ofTree mixedTree) [] hmixed.steady.gateway
    hmixed.steady.echo hmixed.stands (by decide) (fun _ _ _ _ => List.not_mem_nil)
    (hmixed.finished false) (hmixed'.finished false)
  have htrace := mixedTree_trace hmixed.steady.keepsShape rfl hmixed.list false
  have htrace' := mixedTree_trace hmixed'.steady.keepsShape rfl hmixed'.list false
  rw [htrace, htrace'] at hmet
  rw [hmixed'.taken] at hspared
  have hb : ⟨.relative, ["p", "b", "X.java"]⟩ ∈ mixedSources true := by decide
  have hb' : ⟨.relative, ["p", "b", "X.java"]⟩ ∈ mixedSources false := by decide
  -- the file is met under the faults, so it is not hidden
  have hclear := ((hmet ⟨⟨.relative, ["p", "b", "X.java"]⟩, .file⟩).mp (by decide)).2
  have halone : ∀ q ∈ mixedSources false, q ≠ ⟨.relative, ["p", "b", "X.java"]⟩ →
      mixedTree.resolve [] q ≠ .ok ["p", "b", "X.java"] := by
    have hother : ∀ q ∈ mixedSources false, q ≠ ⟨.relative, ["p", "b", "X.java"]⟩ →
        mixedTarget q ≠ ["p", "b", "X.java"] := by decide
    intro q hq hne hreal
    have hplace := hreal.symm.trans (Tree.resolve_of_entry (hmixed'.entryAt? hq))
    exact hother q hq hne (Except.ok.inj hplace).symm
  obtain ⟨hsame, -, hleft⟩ := hspared _ hb' ["p", "b", "X.java"]
    (Tree.resolve_of_entry (hmixed'.entryAt? hb')) ⟨rfl, rfl, rfl, rfl, rfl⟩ hclear halone
  -- the one below the directory is not met, so it is hidden
  have hhidden : ∃ d e, mixedTree.Unlisted mixedFaults [] true ⟨.relative, ["p"]⟩ d e ∧
      d.Below ⟨.relative, ["p", "c", "Y.java"]⟩ := by
    by_contra hnone
    have hshown : Event.met ⟨⟨.relative, ["p", "c", "Y.java"]⟩, .file⟩ ∈ mixedEvents true :=
      (hmet ⟨_, .file⟩).mpr ⟨by decide, hnone⟩
    exact absurd hshown (by decide)
  obtain ⟨d, e, hd, hbelow⟩ := hhidden
  obtain ⟨-, hnoted, hfile⟩ := hmixed.done hb (by decide) false
  have ha : ⟨.relative, ["p", "a", "X.java"]⟩ ∉ faulty.summary.changedFiles := fun hin =>
    absurd ((hmixed.done (by decide) (by decide) false).2.1.mp hin) (by decide)
  have ha' : ⟨.relative, ["p", "a", "X.java"]⟩ ∈ calm.summary.changedFiles :=
    (hmixed'.done (by decide) (by decide) false).2.1.mpr rfl
  exact ⟨⟨hnoted.mpr rfl, hsame.mp (hnoted.mpr rfl)⟩, hleft, hfile, ha, ha', d, e, hd, hbelow,
    hunlisted d e hd⟩

end Walker
end BatchFormat
