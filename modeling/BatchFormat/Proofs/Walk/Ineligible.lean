import BatchFormat.Proofs.Walk.Asked
import BatchFormat.Proofs.Walk.Quiet

/-!
# Files that a walk has nothing to do with

Two trees differ in the bytes of files that no eligible candidate leads to, and two sets of faults
in what they do to other paths than the eligible ones. Nothing on a walk tells them apart: walks
over both end alike, come to the same totals and send the same texts to the engine, and neither
touches a file in which the trees differ.
-/
namespace BatchFormat

variable {w : Walker} {host : Host} {faults faults' : Faults} {world world' : World} {run : Run}
  {p root : Path} {recursive dryRun : Bool} {logs others : List Location} {place : Location}
  {event : Event} {events : List Event} {paths more : List Path} {content : String}

/-! ## Faults of other paths -/

def Host.under (host : Host) (faults : Faults) : Host := { host with faults := faults }

@[simp] theorem Host.shown_under (p : Path) : (host.under faults).shown p = host.shown p := rfl

@[simp] theorem World.say_under (r : Record) :
    world.say (host.under faults) r = world.say host r := rfl

/-- Two sets of faults do the same to some paths, and to the real paths that they stand for. -/
def Faults.AgreeOn (faults faults' : Faults) (t : Tree) (cwd : Location) (paths : List Path) :
    Prop :=
  ∀ p ∈ paths, ∀ real, t.resolve cwd p = .ok real → faults.Agree faults' p (Path.ofNames real)

theorem Faults.AgreeOn.of_shape {t u : Tree} {cwd : Location}
    (h : faults.AgreeOn faults' t cwd paths) (hshape : t.shape = u.shape) (hmore : more ⊆ paths) :
    faults.AgreeOn faults' u cwd more := fun p hp real hreal =>
  h p (hmore hp) real ((Tree.resolve_of_shape hshape).trans hreal)

/-- What a traversal meets does not depend on faults that leave the listings alone. -/
theorem Tree.events_of_list {t : Tree} {cwd : Location} (h : faults.list = faults'.list)
    (handled : Bool) :
    t.events faults cwd root recursive handled = t.events faults' cwd root recursive handled := by
  have hbelow : ∀ depth p noted,
      (Event.recorder t handled).below faults cwd recursive depth p noted =
        (Event.recorder t handled).below faults' cwd recursive depth p noted := by
    intro depth
    induction depth with
    | zero => exact fun _ _ => rfl
    | succ depth ih =>
      intro p noted
      have henter : (Event.recorder t handled).below faults cwd recursive depth =
          (Event.recorder t handled).below faults' cwd recursive depth := funext₂ ih
      simp only [Visitor.below, list, h, henter]
  unfold events Visitor.run
  simp only [hbelow]

theorem Tree.readText_of_agree {t : Tree} {cwd : Location}
    (h : faults.read p = faults'.read p) :
    t.readText faults cwd p = t.readText faults' cwd p := by
  unfold readText readBytes
  rw [h]

theorem World.replaceFile_under (hreal : world.tree.resolve host.cwd p = .ok place)
    (hagree : host.faults.Agree faults p (Path.ofNames place)) :
    world.replaceFile (host.under faults) p content = world.replaceFile host p content := by
  unfold replaceFile Host.under
  rw [Tree.replace_of_agree hreal hagree]

namespace Walker

theorem KeepsShape.under (h : w.KeepsShape host) (faults : Faults) :
    w.KeepsShape (host.under faults) := ⟨h.gateway, h.echo⟩

/-- An attempt at a file does not depend on the faults of other paths. -/
theorem attempt_under (h : w.gateway.KeepsShape)
    (hreal : world.tree.resolve host.cwd p = .ok place)
    (hagree : host.faults.Agree faults p (Path.ofNames place)) (dryRun : Bool) :
    w.attempt (host.under faults) dryRun p world = w.attempt host dryRun p world := by
  have hread : world.tree.readText (host.under faults).faults (host.under faults).cwd p =
      world.tree.readText host.faults host.cwd p := (Tree.readText_of_agree hagree.read).symm
  unfold attempt
  rw [hread]
  split
  · rfl
  · next text _ =>
    have hshape := h.apply text world
    split
    · rfl
    · next result after hanswer =>
      rw [hanswer] at hshape
      have hreal' : after.tree.resolve host.cwd p = .ok place :=
        (Tree.resolve_of_shape hshape).trans hreal
      rw [World.replaceFile_under hreal' hagree]

/-- Faults that agree on the path of a turn make the same of it. -/
theorem act_under (h : w.KeepsShape host) (hready : run.Ready host logs (w.taken? event).toList)
    (hagree : host.faults.AgreeOn faults run.world.tree host.cwd (w.taken? event).toList)
    (dryRun : Bool) :
    (w.visitor (host.under faults) dryRun).act run event =
      (w.visitor host dryRun).act run event := by
  cases event with
  | missed p e =>
    change missListing (host.under faults) p e run = missListing host p e run
    simp only [missListing, Host.shown_under, World.say_under]
  | met c =>
    change w.meet (host.under faults) dryRun c run = w.meet host dryRun c run
    unfold meet
    cases hfile : c.isFile with
    | false => rfl
    | true =>
      cases heligible : w.eligible c.path with
      | false => simp
      | true =>
        have htaken : c.path ∈ (w.taken? (.met c)).toList := by simp [taken?, hfile, heligible]
        obtain ⟨place, bytes, mode, -, hentry⟩ := hready.file htaken
        have hreal := Tree.resolve_of_entry hentry
        have hopening : (opening host c.path run).tree.shape = run.world.tree.shape :=
          World.shape_say h.echo _
        have hattempt : w.attempt (host.under faults) dryRun c.path
            (opening (host.under faults) c.path run) = _ :=
          attempt_under h.gateway ((Tree.resolve_of_shape hopening).trans hreal)
            (hagree _ htaken _ hreal) dryRun
        simp only [opening, Host.shown_under, World.say_under] at hattempt
        simp only [Bool.not_true, Bool.false_eq_true, if_false, if_true, processFile,
          Host.shown_under, World.say_under, hattempt]

/-- Faults that agree on all paths that are taken make the same of all turns. -/
theorem replay_under (h : w.KeepsShape host)
    (hready : run.Ready host logs (events.filterMap w.taken?))
    (hagree : host.faults.AgreeOn faults run.world.tree host.cwd (events.filterMap w.taken?))
    (dryRun : Bool) :
    w.replay (host.under faults) dryRun events run = w.replay host dryRun events run := by
  induction events generalizing run with
  | nil => simp only [replay, List.foldl_nil]
  | cons event events ih =>
    have hhead : (w.taken? event).toList ⊆ (event :: events).filterMap w.taken? := fun p hp => by
      have htaken : w.taken? event = some p := by simpa using hp
      simp [htaken]
    have hshape := shape_act h hready.head dryRun
    rw [replay_cons, replay_cons, act_under h hready.head (hagree.of_shape rfl hhead)]
    exact ih (hready.tail hshape) (hagree.of_shape hshape.symm
      ((List.sublist_cons_self _ _).filterMap _).subset)

/-! ## The files of a walk -/

/-- The files that a survey of a tree meets and that are eligible. -/
def files (w : Walker) (host : Host) (root : Path) (recursive : Bool) (t : Tree) : List Path :=
  ((Survey.take t host.faults host.cwd root recursive true).state.candidates.filter
    fun c => c.isFile && w.eligible c.path).map Candidate.path

/-- The texts of these files that are sent to the engine, each as it is when its turn comes. -/
def sent (w : Walker) (host : Host) (root : Path) (recursive dryRun : Bool) (world : World) :
    List String :=
  (w.files host root recursive world.tree).filterMap fun p =>
    sent? host p (w.turn host root recursive dryRun world p)

theorem files_of_shape {t u : Tree} (h : t.shape = u.shape) :
    w.files host root recursive t = w.files host root recursive u := by
  simp only [files, Survey.take_eq_events, Tree.events_of_shape h]

theorem files_under {t : Tree} (h : host.faults.list = faults.list) :
    w.files (host.under faults) root recursive t = w.files host root recursive t := by
  have hevents : t.events (host.under faults).faults (host.under faults).cwd root recursive true =
      t.events host.faults host.cwd root recursive true := (Tree.events_of_list h true).symm
  simp only [files, Survey.take_eq_events, hevents]

theorem sent?_under (h : host.faults.read p = faults.read p) :
    sent? (host.under faults) p world = sent? host p world := by
  have hread : world.tree.readText (host.under faults).faults (host.under faults).cwd p =
      world.tree.readText host.faults host.cwd p := (Tree.readText_of_agree h).symm
  unfold sent?
  rw [hread]

theorem sent?_of_masked (h : world.tree.masked logs = world'.tree.masked logs)
    (hp : world.tree.IsSource logs host.cwd p) : sent? host p world = sent? host p world' := by
  unfold sent?
  rw [hp.readText_eq h]

section

variable (h : w.KeepsShape host) (hcwd : ∃ mode, world.tree.Stands host.cwd (.dir mode))
include h hcwd

theorem taken_eq_files (root : Path) (recursive dryRun : Bool) :
    w.taken host root recursive dryRun world = w.files host root recursive world.tree :=
  taken_eq_survey h hcwd root recursive dryRun

theorem exists_of_mem_files (hp : p ∈ w.files host root recursive world.tree) :
    world.tree.pathExists host.cwd root = .ok true := by
  by_contra hroot
  rw [← taken_eq_files h hcwd root recursive false, taken_of_not_exists h hcwd hroot] at hp
  cases hp

theorem isFile_of_mem_files (hp : p ∈ w.files host root recursive world.tree) :
    world.tree.isFile host.cwd p = .ok true := by
  have hroot := exists_of_mem_files h hcwd hp
  rw [← taken_eq_files h hcwd root recursive false] at hp
  exact isFile_of_mem_taken h hcwd hroot hp

/-- No file of the walk is one of some places if no path of the walk leads to one of them. -/
theorem not_mem_of_taken (hapart : ∀ p ∈ w.files host root recursive world.tree, ∀ place ∈ logs,
      world.tree.resolve host.cwd p ≠ .ok place) (dryRun : Bool) :
    ∀ q ∈ w.taken host root recursive dryRun world, ∀ found,
      world.tree.entryAt? host.cwd true q = .ok found → found.1 ∉ logs := by
  rw [taken_eq_files h hcwd]
  intro q hq found hfound hlog
  exact hapart q hq found.1 hlog (Tree.resolve_of_entry hfound)

/-- A walk is ready for the files on some of its events. -/
theorem start_ready_of_sublist (hroot : world.tree.pathExists host.cwd root = .ok true)
    (hlogs : ∀ q ∈ w.taken host root recursive dryRun world, ∀ found,
      world.tree.entryAt? host.cwd true q = .ok found → found.1 ∉ logs)
    (hevents : events.Sublist (w.trace host root recursive dryRun world)) :
    (start host root world).Ready host logs (events.filterMap w.taken?) :=
  (start_ready h hcwd hroot hlogs).of_shape rfl (hevents.filterMap _).subset

end

/-! ## The same walk under other faults -/

theorem conclude_congr {a b : Progress Run} (hstate : a.state = b.state)
    (hstopped : a.stopped = b.stopped) : conclude a = conclude b := by
  unfold conclude
  rw [hstate, hstopped]

section

variable (h : w.KeepsShape host) (hcwd : ∃ mode, world.tree.Stands host.cwd (.dir mode))
  (hlist : host.faults.list = faults.list)
include h hcwd hlist

theorem trace_under (root : Path) (recursive dryRun : Bool) :
    w.trace (host.under faults) root recursive dryRun world =
      w.trace host root recursive dryRun world := by
  rw [(trace_eq_events (h.under faults) hcwd root recursive dryRun).1,
    (trace_eq_events h hcwd root recursive dryRun).1]
  exact congrArg Progress.state (Tree.events_of_list hlist true).symm

variable (hagree : host.faults.AgreeOn faults world.tree host.cwd
    (w.files host root recursive world.tree))
include hagree

omit hlist in
theorem replay_start_under (hroot : world.tree.pathExists host.cwd root = .ok true)
    (hevents : events.Sublist (w.trace host root recursive dryRun world)) :
    w.replay (host.under faults) dryRun events (start host root world) =
      w.replay host dryRun events (start host root world) := by
  have hready : (start host root world).Ready host [] (events.filterMap w.taken?) :=
    start_ready_of_sublist h hcwd hroot (fun _ _ _ _ => List.not_mem_nil) hevents
  rw [← taken_eq_files h hcwd root recursive dryRun] at hagree
  exact replay_under h hready
    (hagree.of_shape (shape_start h.echo root world).symm (hevents.filterMap _).subset) dryRun

/-- Faults that do the same to the eligible files do the same to a walk. -/
theorem run_under (dryRun : Bool) :
    w.run (host.under faults) root recursive dryRun world =
      w.run host root recursive dryRun world := by
  by_cases hroot : world.tree.pathExists host.cwd root = .ok true
  · obtain ⟨htrace, hstate, hstopped⟩ := trace_eq_events h hcwd root recursive dryRun
    obtain ⟨htrace', hstate', hstopped'⟩ :=
      trace_eq_events (h.under faults) hcwd root recursive dryRun
    have hreplay : w.replay (host.under faults) dryRun (w.trace host root recursive dryRun world)
        (start host root world) = w.replay host dryRun (w.trace host root recursive dryRun world)
          (start host root world) := replay_start_under h hcwd hagree hroot (.refl _)
    have hunder : w.run (host.under faults) root recursive dryRun world =
        conclude ((w.visitor (host.under faults) dryRun).run faults host.cwd recursive root
          (start host root world)) := run_of_exists hroot
    rw [hunder, run_of_exists hroot]
    refine conclude_congr ?_ ?_
    · rw [hstate, ← htrace, ← replay, ← hreplay, ← trace_under h hcwd hlist, htrace']
      exact hstate'
    · rw [hstopped, Tree.events_of_list hlist]
      exact hstopped'
  · unfold run
    split
    · next e hexists => rw [show world.tree.pathExists host.cwd root = .error e from hexists]
    · next hexists =>
      rw [show world.tree.pathExists host.cwd root = .ok false from hexists]
      rfl
    · next hexists => exact (hroot hexists).elim

/-- Faults that agree on the paths that are taken let the same texts through to the engine. -/
theorem sent_under (dryRun : Bool) :
    w.sent (host.under faults) root recursive dryRun world =
      w.sent host root recursive dryRun world := by
  unfold sent
  rw [files_under hlist]
  refine List.filterMap_congr fun p hp => ?_
  obtain ⟨place, bytes, mode, hfile⟩ := Tree.exists_file (isFile_of_mem_files h hcwd hp)
  have hturn : w.turn (host.under faults) root recursive dryRun world p =
      w.turn host root recursive dryRun world p := by
    unfold turn turnAmong
    rw [trace_under h hcwd hlist]
    exact congrArg (opening host p) (replay_start_under h hcwd hagree
      (exists_of_mem_files h hcwd hp) (List.takeWhile_sublist _))
  rw [hturn, sent?_under (hagree p hp _ (Tree.resolve_of_entry hfile)).read]

end

/-! ## The same walk over a tree that differs -/

section

variable (h : w.StaysIn host logs) (hcwd : ∃ mode, world.tree.Stands host.cwd (.dir mode))
  (hlogs : ∀ q ∈ w.taken host root recursive dryRun world, ∀ found,
    world.tree.entryAt? host.cwd true q = .ok found → found.1 ∉ logs)
include h hcwd hlogs

/-- The quiet walk finds each file as the other does, and sends the same texts. -/
theorem sent_quiet (hsame : world.tree.masked logs = world'.tree.masked logs) :
    w.sent host root recursive dryRun world = w.quiet.sent host root recursive dryRun world' := by
  have hshape := Tree.shape_of_masked hsame
  unfold sent
  rw [files_of_shape hshape, show w.quiet.files host root recursive world'.tree =
    w.files host root recursive world'.tree from rfl]
  refine List.filterMap_congr fun p hp => ?_
  rw [← files_of_shape hshape] at hp
  have hroot := exists_of_mem_files h.keepsShape hcwd hp
  have hready := start_ready_of_sublist h.keepsShape hcwd hroot hlogs
    (List.takeWhile_sublist (· != Event.met ⟨p, .file⟩))
  have hstart : InStep logs (start host root world) (start host root world') :=
    ⟨(masked_start h.echo root world).trans (hsame.trans (masked_start h.echo root world').symm),
      rfl⟩
  have hbefore : (w.turn host root recursive dryRun world p).tree.masked logs =
      (w.quiet.turn host root recursive dryRun world' p).tree.masked logs := by
    unfold turn turnAmong
    rw [← trace_quiet h hcwd hsame]
    exact (World.masked_say h.echo _).trans ((replay_quiet h hstart hready dryRun).tree.trans
      (World.masked_say h.echo _).symm)
  have hturn : world.tree.shape = (w.turn host root recursive dryRun world p).tree.shape :=
    ((World.shape_say h.keepsShape.echo _).trans ((shape_replay h.keepsShape hready dryRun).trans
      (shape_start h.keepsShape.echo root world))).symm
  have hsource : world.tree.IsSource logs host.cwd p :=
    ⟨isFile_of_mem_files h.keepsShape hcwd hp,
      hlogs p (taken_eq_files h.keepsShape hcwd root recursive dryRun ▸ hp)⟩
  exact sent?_of_masked hbefore (hsource.of_shape hturn)

/-- A file that no path of the walk leads to stays as it is, unless it is a log. -/
theorem get?_run_of_apart (hlog : place ∉ logs)
    (hapart : ∀ p ∈ w.taken host root recursive dryRun world,
      world.tree.resolve host.cwd p ≠ .ok place) :
    (w.run host root recursive dryRun world).run.world.tree.get? place =
      world.tree.get? place := by
  have hbegun := masked_begun h.echo root world
  rw [Tree.get?_eq_of_masked (run_quiet h hcwd rfl hlogs).1.tree hlog]
  rw [taken_quiet h hcwd rfl] at hlogs hapart
  rw [run_eq_course h.quiet.keepsShape hcwd,
    get?_replay h.quiet (begun_ready h.quiet hcwd hlogs) dryRun hlog]
  · exact Tree.get?_eq_of_masked hbegun hlog
  · intro p hp
    rw [Tree.leadsTo_of_shape (Tree.shape_of_masked hbegun), Bool.eq_false_iff, ne_eq,
      Tree.leadsTo_iff]
    exact hapart p ((course_taken h.quiet.keepsShape hcwd root recursive dryRun).subset hp)

end

end Walker

/-! ## More places left out of account -/

theorem Tree.masked_of_subset {t u : Tree} (h : t.masked logs = u.masked logs)
    (hsub : logs ⊆ others) : t.masked others = u.masked others := by
  have hboth : ∀ t : Tree, (t.masked logs).masked others = t.masked others := by
    intro t
    simp only [masked, List.map_map, Tree.mk.injEq]
    refine List.map_congr_left fun e _ => ?_
    simp only [Function.comp_apply]
    by_cases hlog : e.1 ∈ logs
    · simp [hlog, hsub hlog, Entry.blank_blank]
    · simp [hlog]
  rw [← hboth t, h, hboth u]

namespace Walker

theorem StaysIn.mono (h : w.StaysIn host logs) (hsub : logs ⊆ others) :
    w.StaysIn host others where
  gateway :=
    { engine :=
        { answer := h.gateway.engine.answer
          tree := fun settings content world =>
            Tree.masked_of_subset (h.gateway.engine.tree settings content world) hsub }
      sink := fun sink hsink r world =>
        Tree.masked_of_subset (h.gateway.sink sink hsink r world) hsub }
  echo := fun replaced r t => Tree.masked_of_subset (h.echo replaced r t) hsub

/-! ## The whole walk -/

/-- Two walks over trees that differ only in files to which no eligible file leads, under faults
that list the same directories and do the same to the eligible files. They end in the same way, with
the same totals, and send the same texts to the engine: those of the eligible files that can be read
and are not blank, once for each of these files, in the order in which they are met, each as it is
when its turn comes. Neither walk touches a file to which no eligible file leads. Engine, sink and
log may write to the logs, if none of them is an eligible file; what they say is left out of
account. -/
theorem run_ineligible (w : Walker) (host : Host) (faults : Faults) (root : Path)
    (recursive dryRun : Bool) (world world' : World) (logs others : List Location)
    (hgateway : w.gateway.StaysIn logs) (hecho : host.echo.StaysIn logs)
    (hasked : w.gateway.KeepsAsked) (hcwd : ∃ mode, world.tree.Stands host.cwd (.dir mode))
    (hplaces : world.tree.places.Nodup)
    (hsame : world.tree.masked (logs ++ others) = world'.tree.masked (logs ++ others))
    (hapart : ∀ p ∈ w.files host root recursive world.tree, ∀ place ∈ logs ++ others,
      world.tree.resolve host.cwd p ≠ .ok place)
    (hlist : host.faults.list = faults.list)
    (hagree : host.faults.AgreeOn faults world.tree host.cwd
      (w.files host root recursive world.tree)) :
    let report := w.run host root recursive dryRun world
    let report' := w.run (host.under faults) root recursive dryRun world'
    let files := w.files host root recursive world.tree
    let sent := w.sent host root recursive dryRun world
    report.failure? = report'.failure? ∧ report.run.summary = report'.run.summary ∧
      files.Nodup ∧ w.files (host.under faults) root recursive world'.tree = files ∧
      w.sent (host.under faults) root recursive dryRun world' = sent ∧
      report.run.world.asked = world.asked ++ sent ∧
      report'.run.world.asked = world'.asked ++ sent ∧
      ∀ place, place ∉ logs → (∀ p ∈ files, world.tree.resolve host.cwd p ≠ .ok place) →
        report.run.world.tree.get? place = world.tree.get? place ∧
          report'.run.world.tree.get? place = world'.tree.get? place := by
  intro report report' files sent
  have hshape := Tree.shape_of_masked hsame
  have hcwd' := Tree.Stands.dir_of_shape hshape hcwd
  have hplaces' := Tree.nodup_places_of_masked hsame hplaces
  have hstays : w.StaysIn host logs := ⟨hgateway, hecho⟩
  have hmore : w.StaysIn host (logs ++ others) := hstays.mono (List.subset_append_left _ _)
  have hkeep := hstays.keepsShape
  have htaken : w.taken host root recursive dryRun world = files :=
    taken_eq_files hkeep hcwd root recursive dryRun
  have hfiles : w.files host root recursive world'.tree = files := (files_of_shape hshape).symm
  have htaken' : w.taken host root recursive dryRun world' = files :=
    (taken_eq_files hkeep hcwd' root recursive dryRun).trans hfiles
  have hapart' : ∀ p ∈ w.files host root recursive world'.tree, ∀ place ∈ logs ++ others,
      world'.tree.resolve host.cwd p ≠ .ok place := by
    intro p hp place hplace
    rw [hfiles] at hp
    rw [← Tree.resolve_of_shape hshape]
    exact hapart p hp place hplace
  -- the second walk under the faults of the first
  have hagree' : host.faults.AgreeOn faults world'.tree host.cwd
      (w.files host root recursive world'.tree) := by
    rw [hfiles]
    exact hagree.of_shape hshape (List.Subset.refl _)
  have hunder : report' = w.run host root recursive dryRun world' :=
    run_under hkeep hcwd' hlist hagree' dryRun
  -- both against the quiet walk over the second tree
  have hplaced := not_mem_of_taken hkeep hcwd hapart dryRun
  have hplaced' := not_mem_of_taken hkeep hcwd' hapart' dryRun
  obtain ⟨hinstep, hfailure⟩ := run_quiet hmore hcwd hsame hplaced
  obtain ⟨hinstep', hfailure'⟩ := run_quiet hmore hcwd' rfl hplaced'
  have hsent : w.sent (host.under faults) root recursive dryRun world' = sent :=
    (sent_under hkeep hcwd' hlist hagree' dryRun).trans
      ((sent_quiet hmore hcwd' hplaced' rfl).trans (sent_quiet hmore hcwd hplaced hsame).symm)
  have hlogs : logs ⊆ logs ++ others := List.subset_append_left _ _
  have hplaced₀ := fun q hq found hfound hlog => hplaced q hq found hfound (hlogs hlog)
  have hplaced₀' := fun q hq found hfound hlog => hplaced' q hq found hfound (hlogs hlog)
  refine ⟨?_, ?_, ?_, ?_, hsent, ?_, ?_, ?_⟩
  · rw [hunder]
    exact hfailure.trans hfailure'.symm
  · rw [hunder]
    exact hinstep.summary.trans hinstep'.summary.symm
  · rw [← htaken]
    exact nodup_taken hstays.keepsNodup hplaces root recursive dryRun
  · rw [files_under hlist]
    exact hfiles
  · have hasks := asked_run hasked hstays.keepsNodup hkeep hcwd hplaces root recursive dryRun
    rwa [htaken] at hasks
  · have hasks := asked_run hasked hstays.keepsNodup hkeep hcwd' hplaces' root recursive dryRun
    rw [htaken', ← hfiles] at hasks
    rw [hunder, hasks]
    exact congrArg (world'.asked ++ ·)
      ((sent_under hkeep hcwd' hlist hagree' dryRun).symm.trans hsent)
  · intro place hlog hplace
    refine ⟨get?_run_of_apart hstays hcwd hplaced₀ hlog (htaken ▸ hplace), ?_⟩
    rw [hunder]
    refine get?_run_of_apart hstays hcwd' hplaced₀' hlog ?_
    rw [htaken']
    intro p hp
    rw [← Tree.resolve_of_shape hshape]
    exact hplace p hp

def garbled : Tree := mixedTree.put ["p", "n.txt"] (.file [0xff] 0o644)

def garbledFaults : Faults :=
  { mixedFaults with read := fun p => mixedFaults.read p || p == ⟨.relative, ["p", "n.txt"]⟩ }

theorem sourceWalker_sent : sourceWalker.sent mixedHost ⟨.relative, ["p"]⟩ true false
    (World.ofTree mixedTree) = ["x", "x", "x"] := by
  have hmixed := sourceWalker_mixed
  have halone : ∀ q ∈ mixedSources true, ∀ p ∈ mixedSources true, p ≠ q →
      mixedTarget q ≠ mixedTarget p := by decide
  have hsent : ∀ q ∈ mixedSources true, sent? mixedHost q (sourceWalker.turn mixedHost
      ⟨.relative, ["p"]⟩ true false (World.ofTree mixedTree) q) =
        if mixedFaults.read q || q.name == "e.java" then none else some "x" := by
    intro q hq
    have hempty : Text.decode [] = .ok "" := Text.decode_encode ""
    have hblank : Text.isBlank "" = true := by decide
    have hfull : Text.isBlank "x" = false := by decide
    rw [sent?, Tree.readText, Tree.readBytes, hmixed.file_of_turn hq (halone q hq), mixedBytes]
    cases hread : mixedFaults.read q with
    | true => simp [mixedHost, hread]
    | false =>
      cases hname : q.name == "e.java" with
      | true => simp [mixedHost, hread, hempty, hblank]
      | false => simp [mixedHost, hread, Text.decode_encode, hfull]
  rw [sent, ← taken_eq_files hmixed.steady.keepsShape hmixed.stands _ true false, hmixed.taken,
    List.filterMap_congr hsent]
  decide

/-- What the other file holds, and whether it can be read, does not concern a walk over the
sources. -/
theorem run_ineligible_of_mixedTree :
    let after := (sourceWalker.run (mixedHost.under garbledFaults) ⟨.relative, ["p"]⟩ true false
      (World.ofTree garbled)).run
    ⟨.relative, ["p", "b", "X.java"]⟩ ∈ after.summary.changedFiles ∧
      after.summary.errors.lookup ⟨.relative, ["p", "a", "X.java"]⟩ =
        some "[Errno 13] Permission denied: 'p/a/X.java'" ∧
      after.world.asked = ["x", "x", "x"] ∧
      after.world.tree.get? ["p", "n.txt"] = some (.file [0xff] 0o644) := by
  intro after
  have hmixed := sourceWalker_mixed
  have hfiles : sourceWalker.files mixedHost ⟨.relative, ["p"]⟩ true (World.ofTree mixedTree).tree =
      mixedSources true := by
    rw [← taken_eq_files hmixed.steady.keepsShape hmixed.stands _ true false, hmixed.taken]
  have hreal : ∀ p ∈ sourceWalker.files mixedHost ⟨.relative, ["p"]⟩ true
      (World.ofTree mixedTree).tree, ∀ real,
      (World.ofTree mixedTree).tree.resolve mixedHost.cwd p = .ok real →
        p ∈ mixedSources true ∧ real = mixedTarget p := by
    intro p hp real hresolve
    rw [hfiles] at hp
    exact ⟨hp, Except.ok.inj (hresolve.symm.trans (Tree.resolve_of_entry (hmixed.entryAt? hp)))⟩
  have hapart : ∀ q ∈ mixedSources true, mixedTarget q ≠ ["p", "n.txt"] ∧
      q ≠ ⟨.relative, ["p", "n.txt"]⟩ := by decide
  have hgateway : sourceWalker.gateway.StaysIn [] :=
    ⟨⟨fun _ _ _ _ => rfl, fun _ _ _ => rfl⟩, fun _ hsink => nomatch hsink⟩
  have hget : mixedTree.get? ["p", "n.txt"] = some (.file (Text.encode "x") 0o644) := rfl
  have hsame : mixedTree.masked [["p", "n.txt"]] = garbled.masked [["p", "n.txt"]] :=
    (Tree.masked_put_of_mem (by decide) (by decide) hget rfl).symm
  obtain ⟨-, hsummary, -, -, -, -, hasked, hkept⟩ := run_ineligible sourceWalker mixedHost
    garbledFaults ⟨.relative, ["p"]⟩ true false (World.ofTree mixedTree) (World.ofTree garbled) []
    [["p", "n.txt"]] hgateway hmixed.steady.echo ⟨fun _ _ _ => rfl, fun _ h => nomatch h⟩
    hmixed.stands (by decide) hsame
    (fun p hp place hplace hresolve => by
      obtain ⟨hp', rfl⟩ := hreal p hp place hresolve
      exact (hapart p hp').1 (List.mem_singleton.mp hplace))
    rfl
    (fun p hp real hresolve => by
      obtain ⟨hp', rfl⟩ := hreal p hp real hresolve
      refine ⟨?_, rfl, rfl, rfl, rfl⟩
      simp [garbledFaults, mixedHost, (hapart p hp').2])
  obtain ⟨-, hchanged, -⟩ := hmixed.done (q := ⟨.relative, ["p", "b", "X.java"]⟩) (by decide)
    (by decide) false
  obtain ⟨hdenied, -, -⟩ := hmixed.done (q := ⟨.relative, ["p", "a", "X.java"]⟩) (by decide)
    (by decide) false
  refine ⟨?_, ?_, ?_, ?_⟩
  · exact hsummary ▸ hchanged.mpr rfl
  · exact hsummary ▸ hdenied
  · exact hasked.trans sourceWalker_sent
  · refine (hkept ["p", "n.txt"] List.not_mem_nil fun p hp hresolve => ?_).2
    obtain ⟨hp', hplace⟩ := hreal p hp _ hresolve
    exact (hapart p hp').1 hplace.symm

end Walker
end BatchFormat
