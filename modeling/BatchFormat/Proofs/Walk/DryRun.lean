import BatchFormat.Proofs.Walk.Apart

/-!
# Dry runs

A dry run writes nothing, and says what a real one would do: if every file has one path that leads
to it, and no write fails, both note the same about each path, and the files that the real run
changes are those that the dry run names.
-/
namespace BatchFormat

variable {w : Walker} {host : Host} {world : World} {run : Run} {s : Summary} {p q root : Path}
  {recursive dryRun : Bool} {logs : List Location} {place : Location} {bytes : Bytes} {mode : Nat}
  {event : Event} {events before after : List Event}

namespace Walker

/-! ## Nothing is written -/

theorem tree_attempt_dry (h : w.gateway.ContentOnly) (p : Path) (world : World) :
    (w.attempt host true p world).2.tree = world.tree :=
  after_attempt (I := fun after => after.tree = world.tree) (fun _ _ => rfl)
    (fun text _ => (h.apply text world world).2) (fun hreal => nomatch hreal)

/-- In a dry run the turn of an entry writes to the logs at most. -/
theorem masked_meet_dry (h : w.Steady host logs) (c : Candidate) (run : Run) :
    (w.meet host true c run).world.tree.masked logs = run.world.tree.masked logs := by
  have hsay : ∀ (r : Record) (world : World),
      (world.say host r).tree.masked logs = world.tree.masked logs :=
    fun r world => World.masked_say h.echo r
  unfold meet
  split
  · rfl
  · split
    · unfold processFile
      simp only
      generalize hsaid : run.world.say host (.debug s!"Formatting file: {host.shown c.path}") = said
      have hattempt : (w.attempt host true c.path said).2.tree = said.tree :=
        tree_attempt_dry h.gateway c.path said
      have hsame : said.tree.masked logs = run.world.tree.masked logs := hsaid ▸ hsay _ _
      split
      · next hfail =>
        rw [hfail] at hattempt
        exact (hsay _ _).trans (hattempt ▸ hsame)
      · next hdone =>
        rw [hdone] at hattempt
        exact (hsay _ _).trans (hattempt ▸ hsame)
    · exact hsay _ _

/-- A dry run writes to the logs at most. -/
theorem masked_run_dry (h : w.Steady host logs) (root : Path) (recursive : Bool) (world : World) :
    (w.run host root recursive true world).run.world.tree.masked logs =
      world.tree.masked logs := by
  unfold run
  split
  · rfl
  · rfl
  · split
    · rfl
    · rw [conclude_run]
      refine Visitor.run_invariant (I := fun run : Run =>
        run.world.tree.masked logs = world.tree.masked logs) ?_ ?_ root ?_
      · intro c run hrun
        exact (masked_meet_dry h c run).trans hrun
      · rintro pass hpass p e run hrun
        cases hpass
        exact (World.masked_say h.echo _).trans hrun
      · unfold announce
        split
        · exact World.masked_say h.echo _
        · rfl

/-! ## Writes -/

/-- What comes of the write with which a file that is processed gets its new text, if there is
one. -/
def write? (w : Walker) (host : Host) (p : Path) (run : Run) :
    Option (Except SystemError Location) :=
  let said := run.world.say host (.debug s!"Formatting file: {host.shown p}")
  match said.tree.readText host.faults host.cwd p with
  | .error _ => none
  | .ok text =>
    match w.gateway.apply text said with
    | (.error _, _) => none
    | (.ok result, world) =>
      if result.changed then
        some (world.tree.replace host.faults (host.draw p) host.cwd p result.content).1
      else none

def WritesSucceed (w : Walker) (host : Host) (root : Path) (recursive : Bool) (world : World) :
    Prop :=
  ∀ before event after, w.trace host root recursive false world = before ++ event :: after →
    ∀ p ∈ w.taken? event, ∀ ending ∈
      w.write? host p (w.replay host false before (start host root world)),
      ∃ place, ending = .ok place

/-- If all writes of a walk succeed, so does the one of each turn in its course. -/
theorem WritesSucceed.course (hwrites : w.WritesSucceed host root recursive world)
    (h : w.KeepsShape host) (hcwd : ∃ mode, world.tree.Stands host.cwd (.dir mode))
    (before : List Event) (event : Event) (after : List Event)
    (hsplit : course host root recursive world.tree = before ++ event :: after) :
    ∀ p ∈ w.taken? event, ∀ ending ∈
      w.write? host p (w.replay host false before (begun host root world)),
      ∃ place, ending = .ok place := by
  by_cases hroot : world.tree.pathExists host.cwd root = .ok true
  · obtain ⟨hcourse, hbegun⟩ := course_of_exists h hcwd hroot recursive false
    rw [hbegun]
    exact hwrites before event after (hcourse ▸ hsplit)
  · rw [course_of_not_exists hroot] at hsplit
    simp at hsplit

/-- What a turn would write, in terms of what the path leads to. -/
theorem write?_eq (h : w.Steady host logs) (hsource : run.world.tree.IsSource logs host.cwd p)
    (hfile : run.world.tree.entryAt? host.cwd true p = .ok (place, .file bytes mode)) :
    w.write? host p run =
      if host.faults.read p then none
      else
        match w.gateway.format bytes run.world with
        | .error _ => none
        | .ok result =>
          if result.changed then
            some (run.world.tree.replace host.faults (host.draw p) host.cwd p result.content).1
          else none := by
  unfold write?
  simp only
  generalize hsaid : run.world.say host (.debug s!"Formatting file: {host.shown p}") = said
  have hsame : run.world.tree.masked logs = said.tree.masked logs :=
    hsaid ▸ (World.masked_say h.echo _).symm
  rw [hsource.readText_eq hsame]
  unfold Tree.readText Tree.readBytes
  cases hread : host.faults.read p with
  | true => rfl
  | false =>
    simp only [hfile, Bool.false_eq_true, if_false]
    cases hdecode : Text.decode bytes with
    | error flaw => simp only [Gateway.format, hdecode]
    | ok text =>
      simp only [Gateway.format, hdecode]
      obtain ⟨hresult, htree⟩ := h.gateway.apply text said run.world
      generalize w.gateway.apply text said = applied at hresult htree
      obtain ⟨result, after⟩ := applied
      change result = _ at hresult
      change after.tree = said.tree at htree
      rw [← hresult]
      cases result with
      | error e => rfl
      | ok result =>
        simp only [htree]
        rw [Tree.replace_fst_of_shape (Tree.shape_of_masked hsame).symm]

/-- An attempt whose write succeeds, or that writes nothing, ends as a dry one. -/
theorem outcome_eq_dry (h : w.Steady host logs) (hsource : run.world.tree.IsSource logs host.cwd p)
    (hfile : run.world.tree.entryAt? host.cwd true p = .ok (place, .file bytes mode))
    (hwrite : ∀ ending ∈ w.write? host p run, ∃ place, ending = .ok place) :
    w.outcome host false p bytes run.world = w.outcome host true p bytes run.world := by
  rw [write?_eq h hsource hfile] at hwrite
  unfold outcome
  cases hread : host.faults.read p with
  | true => rfl
  | false =>
    simp only [hread, Bool.false_eq_true, if_false] at hwrite ⊢
    cases hformat : w.gateway.format bytes run.world with
    | error e => rfl
    | ok result =>
      cases hchanged : result.changed with
      | false => simp [hchanged]
      | true =>
        simp only [hformat, hchanged, if_true] at hwrite
        obtain ⟨there, hreplace⟩ := hwrite _ rfl
        simp [hchanged, hreplace]

/-! ## The totals of both -/

/-- No two of some files are one. -/
def Distinct (t : Tree) (cwd : Location) (files : List Path) : Prop :=
  files.Pairwise fun p q => t.resolve cwd p ≠ t.resolve cwd q

/-- A file whose turn it is belongs to no other turn, if no two paths lead to one file. -/
theorem apart_of_distinct
    (hdistinct : Distinct run.world.tree host.cwd
      ((before ++ event :: after).filterMap w.taken?))
    (htaken : w.taken? event = some p)
    (hfile : run.world.tree.entryAt? host.cwd true p = .ok (place, .file bytes mode)) :
    w.Apart host run place before ∧ w.Apart host run place after := by
  have hplace := Tree.leadsTo_iff.mp ((Tree.leadsTo_of_file hfile).mpr rfl)
  rw [Distinct, List.filterMap_append, List.filterMap_cons_some htaken, List.pairwise_append,
    List.pairwise_cons, hplace] at hdistinct
  obtain ⟨-, ⟨hafter, -⟩, hbefore⟩ := hdistinct
  refine ⟨fun q hq => ?_, fun q hq => ?_⟩
  · rw [Bool.eq_false_iff, ne_eq, Tree.leadsTo_iff]
    exact fun hq' => hbefore q hq p List.mem_cons_self (hq'.trans hplace.symm)
  · rw [Bool.eq_false_iff, ne_eq, Tree.leadsTo_iff]
    exact fun hq' => hafter q hq hq'.symm

/-- Where every file has one path, the totals can be read off the tree at the beginning. -/
theorem summary_replay_of_distinct (before : List Event) (h : w.Steady host logs)
    (hready : run.Ready host logs ((before ++ after).filterMap w.taken?))
    (hdistinct : Distinct run.world.tree host.cwd ((before ++ after).filterMap w.taken?))
    (dryRun : Bool) :
    (w.replay host dryRun (before ++ after) run).summary =
      after.foldl (fun s event =>
          s.enter w (fun p => (w.attempt host dryRun p run.world).1) event)
        (w.replay host dryRun before run).summary := by
  induction after generalizing before with
  | nil => simp
  | cons event after ih =>
    have hsplit : before ++ event :: after = (before ++ [event]) ++ after := by simp
    have hready' : run.Ready host logs (before.filterMap w.taken?) := hready.of_shape rfl (by simp)
    have hmem : ∀ p ∈ w.taken? event, p ∈ (before ++ event :: after).filterMap w.taken? :=
      fun p htaken => List.mem_filterMap.mpr ⟨event, by simp, htaken⟩
    have hturn : (w.replay host dryRun before run).Ready host logs (w.taken? event).toList :=
      hready.of_shape (shape_replay h.keepsShape hready' dryRun).symm fun p hp =>
        hmem p (Option.mem_toList.mp hp)
    rw [List.foldl_cons, hsplit, ih (before ++ [event]) (hsplit ▸ hready) (hsplit ▸ hdistinct),
      replay_append, replay_cons]
    refine congrArg (fun s => List.foldl _ s after) ((act_eq h hturn dryRun).1.trans ?_)
    refine Summary.enter_congr fun p htaken => ?_
    obtain ⟨place, bytes, mode, hlog, hfile⟩ := hready.file (hmem p htaken)
    have hapart := (apart_of_distinct hdistinct htaken hfile).1
    rw [ending_at_turn h hready dryRun hlog hfile hapart,
      (attempt_spec h.gateway hready.cwd hfile dryRun).eq_outcome]

/-- A real walk changes the files at which it makes an attempt that ends with another text. -/
theorem get?_replay_ne_iff (h : w.Steady host logs)
    (hready : run.Ready host logs (events.filterMap w.taken?))
    (hdistinct : Distinct run.world.tree host.cwd (events.filterMap w.taken?))
    (hlog : place ∉ logs) :
    (w.replay host false events run).world.tree.get? place ≠ run.world.tree.get? place ↔
      ∃ p ∈ events.filterMap w.taken?, run.world.tree.leadsTo host.cwd place p = true ∧
        changes (w.attempt host false p run.world).1 = true := by
  by_cases hnone : w.Apart host run place events
  · refine iff_of_false (fun hne => hne (get?_replay h hready false hlog hnone)) ?_
    rintro ⟨p, hp, hleads, -⟩
    rw [hnone p hp] at hleads
    cases hleads
  · unfold Apart at hnone
    push Not at hnone
    obtain ⟨p, hp, hleads⟩ := hnone
    rw [ne_eq, Bool.not_eq_false] at hleads
    obtain ⟨event, hevent, htaken⟩ := List.mem_filterMap.mp hp
    obtain ⟨there, bytes, mode, -, hfile⟩ := hready.file hp
    obtain rfl := (Tree.leadsTo_of_file hfile).mp hleads
    obtain ⟨before, after, rfl⟩ := List.append_of_mem hevent
    obtain ⟨hbefore, hafter⟩ := apart_of_distinct hdistinct htaken hfile
    have hattempt := attempt_spec h.gateway hready.cwd hfile false
    have hending := hattempt.eq_outcome
    have honly : ∀ q ∈ (before ++ event :: after).filterMap w.taken?,
        run.world.tree.leadsTo host.cwd place q = true → q = p := by
      intro q hq hq'
      rw [List.filterMap_append, List.filterMap_cons_some htaken, List.mem_append,
        List.mem_cons] at hq
      rcases hq with hq | rfl | hq
      · rw [hbefore q hq] at hq'
        cases hq'
      · rfl
      · rw [hafter q hq] at hq'
        cases hq'
    rw [get?_of_apart h hready false htaken hlog hfile hbefore hafter, Tree.get?_of_file hfile]
    cases hchanges : changes (w.outcome host false p bytes run.world) with
    | false =>
      rw [left_of_not_changes hchanges]
      refine iff_of_false (fun hne => hne rfl) ?_
      rintro ⟨q, hq, hq', hends⟩
      rw [honly q hq hq', hending, hchanges] at hends
      cases hends
    | true =>
      refine iff_of_true ?_ ⟨p, hp, hleads, by rw [hending, hchanges]⟩
      obtain ⟨result, hend, hchanged⟩ := changes_eq_true_iff.mp hchanges
      rw [hending.trans hend] at hattempt
      have hne := Gateway.encode_ne_of_format hattempt.format hchanged
      rw [hend]
      simpa [left, hchanged] using hne

/-- If all writes succeed, the attempts of a dry walk end as those of a real one. -/
theorem attempt_eq_dry (h : w.Steady host logs)
    (hready : run.Ready host logs ((before ++ event :: after).filterMap w.taken?))
    (hdistinct : Distinct run.world.tree host.cwd
      ((before ++ event :: after).filterMap w.taken?))
    (htaken : w.taken? event = some p)
    (hwrite : ∀ ending ∈ w.write? host p (w.replay host false before run),
      ∃ place, ending = .ok place) :
    (w.attempt host true p run.world).1 = (w.attempt host false p run.world).1 := by
  obtain ⟨place, bytes, mode, hlog, hfile⟩ := hready.file
    (List.mem_filterMap.mpr ⟨event, by simp, htaken⟩)
  have hbefore := (apart_of_distinct hdistinct htaken hfile).1
  obtain ⟨hshape, hturn, hfile'⟩ := file_at_turn h hready false hlog hfile hbefore
  have hsource := hturn.sources p (List.mem_filterMap.mpr ⟨event, by simp, htaken⟩)
  rw [(attempt_spec h.gateway hready.cwd hfile true).eq_outcome,
    (attempt_spec h.gateway hready.cwd hfile false).eq_outcome,
    ← outcome_of_shape h.gateway hshape, ← outcome_of_shape h.gateway hshape]
  exact (outcome_eq_dry h hsource hfile' hwrite).symm

/-- As long as all writes succeed and no two paths lead to one file, a dry run counts what the real
run counts. -/
theorem summary_replay_dry (h : w.Steady host logs)
    (hready : run.Ready host logs (events.filterMap w.taken?))
    (hdistinct : Distinct run.world.tree host.cwd (events.filterMap w.taken?))
    (hwrites : ∀ before event after, events = before ++ event :: after →
      ∀ p ∈ w.taken? event, ∀ ending ∈ w.write? host p (w.replay host false before run),
        ∃ place, ending = .ok place) :
    (w.replay host true events run).summary = (w.replay host false events run).summary := by
  have htotals := summary_replay_of_distinct [] h hready hdistinct
  rw [List.nil_append] at htotals
  rw [htotals, htotals]
  refine List.foldl_ext _ _ _ fun s event hevent => Summary.enter_congr fun p htaken => ?_
  obtain ⟨before, after, rfl⟩ := List.append_of_mem hevent
  exact attempt_eq_dry h hready hdistinct htaken (hwrites before event after rfl p htaken)

/-- If no two paths lead to one file, the files that differ afterwards are those that are noted as
changed. -/
theorem get?_replay_ne_iff_changed (h : w.Steady host logs)
    (hready : run.Ready host logs (events.filterMap w.taken?))
    (hdistinct : Distinct run.world.tree host.cwd (events.filterMap w.taken?))
    (hempty : run.summary = .empty) (hlog : place ∉ logs) :
    (w.replay host false events run).world.tree.get? place ≠ run.world.tree.get? place ↔
      ∃ p ∈ (w.replay host false events run).summary.changedFiles,
        run.world.tree.resolve host.cwd p = .ok place := by
  have htotals := summary_replay_of_distinct [] h hready hdistinct false
  rw [List.nil_append] at htotals
  rw [get?_replay_ne_iff h hready hdistinct hlog, htotals, Summary.changedFiles_foldl_enter]
  simp only [replay, List.foldl_nil, hempty, Summary.empty, List.nil_append, List.mem_filter,
    Tree.leadsTo_iff]
  constructor
  · rintro ⟨p, hp, hleads, hends⟩
    exact ⟨p, ⟨hp, hends⟩, hleads⟩
  · rintro ⟨p, ⟨hp, hends⟩, hleads⟩
    exact ⟨p, hp, hleads, hends⟩

/-! ## What a dry run says -/

/-- A dry run leaves the tree as it is, however it ends. If no two files that are taken are one, and
the writes of the real run succeed, both runs come to the same totals, and the real run changes the
files that the dry run's changed paths lead to, and no others. Logs may be kept meanwhile, if none
of them is formatted; what they say is left out of account. -/
theorem run_dry (w : Walker) (host : Host) (root : Path) (recursive : Bool) (world : World)
    (logs : List Location) (hengine : w.gateway.ContentOnly) (hecho : host.echo.StaysIn logs) :
    let dry := w.run host root recursive true world
    let real := w.run host root recursive false world
    dry.run.world.tree.masked logs = world.tree.masked logs ∧
      (logs = [] → dry.run.world.tree = world.tree) ∧
      ((∃ mode, world.tree.Stands host.cwd (.dir mode)) →
        (∀ q ∈ w.taken host root recursive false world, ∀ found,
          world.tree.entryAt? host.cwd true q = .ok found → found.1 ∉ logs) →
        Distinct world.tree host.cwd (w.taken host root recursive false world) →
        w.WritesSucceed host root recursive world →
        dry.run.summary = real.run.summary ∧
          ∀ place ∉ logs, real.run.world.tree.get? place ≠ world.tree.get? place ↔
            ∃ p ∈ dry.run.summary.changedFiles, world.tree.resolve host.cwd p = .ok place) := by
  intro dry real
  have hsteady : w.Steady host logs := ⟨hengine, hecho⟩
  have hkept : dry.run.world.tree.masked logs = world.tree.masked logs :=
    masked_run_dry hsteady root recursive world
  refine ⟨hkept, ?_, fun hcwd hlogs hdistinct hwrites => ?_⟩
  · rintro rfl
    simpa using hkept
  have hready := begun_ready hsteady hcwd hlogs
  have hbegun := masked_begun hecho root world
  have hresolve : ∀ p, (begun host root world).world.tree.resolve host.cwd p =
      world.tree.resolve host.cwd p :=
    fun p => Tree.resolve_of_shape (Tree.shape_of_masked hbegun)
  have hdistinct' : Distinct (begun host root world).world.tree host.cwd
      ((course host root recursive world.tree).filterMap w.taken?) := by
    simp only [Distinct, hresolve]
    exact hdistinct.sublist (course_taken hsteady.keepsShape hcwd root recursive false)
  have hdry : dry.run = w.replay host true _ (begun host root world) :=
    run_eq_course hsteady.keepsShape hcwd root recursive true
  have hreal : real.run = w.replay host false _ (begun host root world) :=
    run_eq_course hsteady.keepsShape hcwd root recursive false
  have hsummary : dry.run.summary = real.run.summary := by
    rw [hdry, hreal]
    exact summary_replay_dry hsteady hready hdistinct' (hwrites.course hsteady.keepsShape hcwd)
  refine ⟨hsummary, fun place hlog => ?_⟩
  rw [hsummary, hreal, ← Tree.get?_eq_of_masked hbegun hlog,
    get?_replay_ne_iff_changed hsteady hready hdistinct' summary_begun hlog]
  simp only [hresolve]

/-- All writes succeed where each file that is taken can be replaced. -/
theorem writesSucceed_of_replace (h : w.Steady host logs)
    (hcwd : ∃ mode, world.tree.Stands host.cwd (.dir mode))
    (hroot : world.tree.pathExists host.cwd root = .ok true)
    (hlogs : ∀ q ∈ w.taken host root recursive false world, ∀ found,
      world.tree.entryAt? host.cwd true q = .ok found → found.1 ∉ logs)
    (hreplaces : ∀ q ∈ w.taken host root recursive false world, ∀ content, ∃ place,
      (world.tree.replace host.faults (host.draw q) host.cwd q content).1 = .ok place) :
    w.WritesSucceed host root recursive world := by
  intro before event after hsplit p htaken ending hending
  have hready := start_ready h.keepsShape hcwd hroot hlogs
  rw [taken, hsplit] at hready hreplaces
  have hfirst : (start host root world).Ready host logs (before.filterMap w.taken?) :=
    hready.of_shape rfl (by simp)
  have hshape := (shape_replay h.keepsShape hfirst false).trans (shape_start h.echo.keepsShape root
    world)
  have hp : p ∈ (event :: after).filterMap w.taken? :=
    List.mem_filterMap.mpr ⟨event, List.mem_cons_self, htaken⟩
  have hturn : (w.replay host false before (start host root world)).Ready host logs
      ((event :: after).filterMap w.taken?) :=
    hready.of_shape (shape_replay h.keepsShape hfirst false).symm (by simp)
  obtain ⟨place, bytes, mode, -, hfile⟩ := hturn.file hp
  rw [write?_eq h (hturn.sources p hp) hfile] at hending
  split at hending
  · cases hending
  · split at hending
    · cases hending
    · split at hending
      · obtain rfl := Option.some.inj hending
        rw [Tree.replace_fst_of_shape hshape]
        exact hreplaces p (by simp [hp]) _
      · cases hending

def openHost : Host :=
  { calmHost with faults := { mixedFaults with replace := fun _ => false } }

theorem sourceWalker_mixed_openHost : Mixed sourceWalker openHost true "x\n" :=
  { sourceWalker_mixed with steady := sourceWalker_steady rfl }

theorem writesSucceed_of_mixedTree :
    sourceWalker.WritesSucceed openHost ⟨.relative, ["p"]⟩ true (World.ofTree mixedTree) := by
  have hmixed := sourceWalker_mixed_openHost
  refine writesSucceed_of_replace hmixed.steady ⟨_, .top⟩ mixedTree_pathExists
    (fun _ _ _ _ => List.not_mem_nil) fun q hq content => ?_
  rw [hmixed.taken] at hq
  exact ⟨_, mixedTree_replace hq openHost.size_of_mem_draw (openHost.mem_draw.mpr hmixed.mark) _
    content⟩

/-- A dry run tells which files would change, and the real run changes these. The directory that
cannot be listed and the file that cannot be read are noted by both. -/
theorem run_dry_of_mixedTree :
    let dry := sourceWalker.run openHost ⟨.relative, ["p"]⟩ true true (World.ofTree mixedTree)
    let real := sourceWalker.run openHost ⟨.relative, ["p"]⟩ true false (World.ofTree mixedTree)
    dry.run.world.tree = mixedTree ∧ dry.run.summary = real.run.summary ∧
      ⟨.relative, ["p", "b", "X.java"]⟩ ∈ dry.run.summary.changedFiles ∧
      ⟨.relative, ["p", "a", "X.java"]⟩ ∉ dry.run.summary.changedFiles ∧
      real.run.world.tree.get? ["p", "b", "X.java"] ≠ mixedTree.get? ["p", "b", "X.java"] ∧
      real.run.world.tree.get? ["o.txt"] ≠ mixedTree.get? ["o.txt"] := by
  intro dry real
  have hmixed := sourceWalker_mixed_openHost
  obtain ⟨-, hsame, hpredicts⟩ := run_dry sourceWalker openHost ⟨.relative, ["p"]⟩ true
    (World.ofTree mixedTree) [] hmixed.steady.gateway hmixed.steady.echo
  have hdistinct : Distinct mixedTree [] (sourceWalker.taken openHost ⟨.relative, ["p"]⟩ true false
      (World.ofTree mixedTree)) := by
    have hapart : (mixedSources true).Pairwise fun p q => mixedTarget p ≠ mixedTarget q := by
      decide
    rw [hmixed.taken]
    refine hapart.imp_of_mem fun {p q} hp hq hne => ?_
    rw [Tree.resolve_of_entry (mixedTree_source hp), Tree.resolve_of_entry (mixedTree_source hq)]
    simpa using hne
  obtain ⟨hsummary, hfiles⟩ := hpredicts ⟨_, .top⟩ (fun _ _ _ _ => List.not_mem_nil) hdistinct
    writesSucceed_of_mixedTree
  have hdone := fun q hq halone => (hmixed.done (q := q) hq halone true).2.1
  have hchanged := (hdone ⟨.relative, ["p", "b", "X.java"]⟩ (by decide) (by decide)).mpr rfl
  have hlinked := (hdone ⟨.relative, ["p", "l.java"]⟩ (by decide) (by decide)).mpr rfl
  have hunread := (hdone ⟨.relative, ["p", "a", "X.java"]⟩ (by decide) (by decide)).mp
  have hfile : (⟨.relative, ["p", "b", "X.java"]⟩ : Path) ∈ mixedSources true := by decide
  have hlink : (⟨.relative, ["p", "l.java"]⟩ : Path) ∈ mixedSources true := by decide
  refine ⟨hsame rfl, hsummary, hchanged, fun hnoted => absurd (hunread hnoted) (by decide), ?_, ?_⟩
  · exact (hfiles _ List.not_mem_nil).mpr
      ⟨_, hchanged, Tree.resolve_of_entry (mixedTree_source hfile)⟩
  · exact (hfiles _ List.not_mem_nil).mpr
      ⟨_, hlinked, Tree.resolve_of_entry (mixedTree_source hlink)⟩

end Walker
end BatchFormat
