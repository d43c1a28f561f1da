import BatchFormat.Proofs.Session.Prepare
import BatchFormat.Proofs.Session.Setup

/-!
# What the status of a call says

A run whose log is open ends with status zero exactly if it could be prepared and nothing failed on
its walk. Then every file holds what was made of it; and where the run was not prepared, or was a
dry one, nothing but the log was written.
-/
namespace BatchFormat

variable {s : Session} {registry : Registry} {host : Host} {wording : Wording} {i : Invocation}
  {w after : World} {plan : Plan} {summary : Summary} {arguments : List String} {j : Journal}
  {t u : Tree} {logs : List Location} {place : Location} {e : Failure} {root : Xml.Element}
  {engine : Engine} {eligible : Eligibility}

def Invocation.files (i : Invocation) (host : Host) (t : Tree) : List Path :=
  match Eligibility.ofExtension i.extension with
  | .error _ => []
  | .ok eligible =>
    ((Survey.take t host.faults host.cwd i.target i.recursive true).state.candidates.filter
      fun c => c.isFile && eligible c.path).map Candidate.path

/-- A target that is a file is the only one, if the extension chooses it. -/
theorem Invocation.files_of_file (hfile : t.isFile host.cwd i.target = .ok true)
    (hextension : Eligibility.ofExtension i.extension = .ok eligible)
    (heligible : eligible i.target = true) : i.files host t = [i.target] := by
  unfold files
  rw [hextension, Survey.take_eq_events, Tree.events_of_file hfile]
  simp [Event.candidate?, Candidate.isFile, heligible]

namespace Plan

/-! ## The end of a run -/

def walk (plan : Plan) (host : Host) (w : World) : Report :=
  plan.walker.run host plan.invocation.target plan.invocation.recursive plan.invocation.dryRun w

theorem tell_fst (host : Host) (i : Invocation) (summary : Summary) (w : World) :
    (tell host i summary w).1 =
      ((w.tree.isDir host.cwd i.target).mapError Failure.system).map fun _ => () := by
  unfold tell
  cases w.tree.isDir host.cwd i.target <;> rfl

theorem masked_tell (h : host.echo.StaysIn logs) (i : Invocation) (summary : Summary) (w : World) :
    (tell host i summary w).2.tree.masked logs = w.tree.masked logs := by
  unfold tell
  split
  · rfl
  · exact World.masked_tell h _ w

/-- A run is a success if nothing failed on its walk and its totals can be told. -/
theorem execute_zero_iff : (plan.execute host w).1 = .ok 0 ↔
    (plan.walk host w).failure? = none ∧ ∃ isDir,
      (plan.walk host w).run.world.tree.isDir host.cwd plan.invocation.target = .ok isDir := by
  have hwalk : plan.walk host w = plan.walker.run host plan.invocation.target
      plan.invocation.recursive plan.invocation.dryRun w := rfl
  unfold execute
  simp only [← hwalk, tell_fst]
  cases hfailure : (plan.walk host w).failure? with
  | none =>
    cases (plan.walk host w).run.world.tree.isDir host.cwd plan.invocation.target <;>
      simp [Except.map, Except.mapError]
  | some e =>
    refine iff_of_false (fun hzero => ?_) fun hnone => nomatch hnone.1
    cases e with
    | partialFailure summary =>
      simp only at hzero
      generalize Tree.isDir _ _ _ = told at hzero
      cases told <;> simp [Except.map, Except.mapError] at hzero
    | _ => cases hzero

/-- After the walk nothing is written but the log. -/
theorem masked_execute (h : host.echo.StaysIn logs) (plan : Plan) (w : World) :
    (plan.execute host w).2.tree.masked logs =
      (plan.walk host w).run.world.tree.masked logs := by
  have hwalk : plan.walk host w = plan.walker.run host plan.invocation.target
      plan.invocation.recursive plan.invocation.dryRun w := rfl
  unfold execute
  simp only [← hwalk]
  split
  · exact masked_tell h _ _ _
  · exact (masked_tell h _ _ _).trans (World.masked_say h _)
  · rfl

/-! ## What is known of a plan -/

/-- A plan that was made for an invocation in a tree: it writes to nothing but the logs and the
files that it formats, and takes the files that the extension chooses. -/
structure MadeFor (plan : Plan) (host : Host) (i : Invocation) (logs : List Location) (t : Tree)
    (w : World) : Prop where
  invocation : plan.invocation = i
  walker : plan.walker.StaysIn host logs
  eligible : Eligibility.ofExtension i.extension = .ok plan.walker.eligible
  tree : w.tree.masked logs = t.masked logs

/-- A plan that could be prepared is made for the target and the settings that were asked for. -/
theorem madeFor_of_prepare (hecho : host.echo.StaysIn logs)
    (hengine : ∀ provider, registry.get host.environment i.provider (options i) = .ok provider →
      (provider.engine host).ContentOnly logs)
    (h : prepare registry host i w = (.ok plan, after)) :
    plan.MadeFor host i logs w.tree after := by
  have htree := masked_prepare hecho registry i w
  rw [h] at htree
  obtain ⟨root, provider, eligible, hfound, rfl, -⟩ := prepare_ok_iff.mp h
  refine ⟨rfl, ⟨⟨hengine provider hfound.registered, ?_⟩, hecho⟩, hfound.extension, htree⟩
  intro sink hsink r world
  simp only [made] at hsink
  split at hsink
  · cases hsink
    exact World.masked_say hecho _
  · cases hsink

section

variable (h : plan.MadeFor host i logs t after) (hcwd : ∃ mode, t.Stands host.cwd (.dir mode))
include h

theorem MadeFor.survey :
    Survey.take after.tree host.faults host.cwd plan.invocation.target plan.invocation.recursive
      true = Survey.take t host.faults host.cwd i.target i.recursive true := by
  rw [Survey.take_eq_events, Survey.take_eq_events,
    Tree.events_of_shape (Tree.shape_of_masked h.tree), h.invocation]

include hcwd

theorem MadeFor.cwd : ∃ mode, after.tree.Stands host.cwd (.dir mode) :=
  Tree.Stands.dir_of_shape (Tree.shape_of_masked h.tree).symm hcwd

theorem MadeFor.taken : plan.walker.taken host plan.invocation.target plan.invocation.recursive
    plan.invocation.dryRun after = i.files host t := by
  rw [Walker.taken_eq_survey h.walker.keepsShape (h.cwd hcwd), h.survey, Invocation.files,
    h.eligible]

theorem MadeFor.clean_iff (hplaces : t.places.Nodup) : (plan.walk host after).failure? = none ↔
    (plan.walk host after).Clean (i.files host t)
      (Survey.take t host.faults host.cwd i.target i.recursive true).state := by
  rw [← h.taken hcwd, ← h.survey]
  exact Walker.failure?_eq_none_iff h.walker (h.cwd hcwd)
    (Tree.nodup_places_of_masked h.tree.symm hplaces) _ _ _

variable (hlogs : ∀ p ∈ i.files host t, ∀ found, t.entryAt? host.cwd true p = .ok found →
  found.1 ∉ logs)
include hlogs

/-- None of the files that the walk takes is a log. -/
theorem MadeFor.apart : ∀ p ∈ plan.walker.taken host plan.invocation.target
    plan.invocation.recursive plan.invocation.dryRun after, ∀ found,
      after.tree.entryAt? host.cwd true p = .ok found → found.1 ∉ logs := by
  rw [h.taken hcwd]
  rintro p hp ⟨place, entry⟩ hfound
  rcases Tree.entryAt?_cases_of_shape (Tree.shape_of_masked h.tree) host.cwd true p with
    ⟨e, hafter, -⟩ | ⟨there, old, new, hafter, hbefore, -⟩
  · rw [hafter] at hfound
    cases hfound
  · rw [hafter] at hfound
    cases hfound
    exact hlogs p hp (place, new) hbefore

/-- The run of a plan is a success if and only if nothing failed on the walk. -/
theorem MadeFor.execute_zero_iff : (plan.execute host after).1 = .ok 0 ↔
    (plan.walk host after).failure? = none := by
  rw [Plan.execute_zero_iff]
  refine and_iff_left_of_imp fun hnone => ?_
  have hshape : (plan.walk host after).run.world.tree.shape = after.tree.shape :=
    Walker.shape_run_of_staysIn h.walker (h.cwd hcwd) (h.apart hcwd hlogs)
  rw [Tree.isDir_of_shape hshape]
  exact Tree.test_ok (Walker.exists_of_finished (Or.inl hnone)) _

/-- A dry run leaves everything as it was but the logs. -/
theorem MadeFor.masked_walk_dry (hdry : i.dryRun = true) :
    (plan.walk host after).run.world.tree.masked logs = t.masked logs := by
  have hdry' : plan.invocation.dryRun = true := h.invocation ▸ hdry
  have hapart := h.apart hcwd hlogs
  unfold walk
  rw [hdry'] at hapart ⊢
  exact (Walker.masked_run_dry_of_staysIn h.walker (h.cwd hcwd) hapart).trans h.tree

/-- After a walk on which nothing failed, every file that has one path holds what the gateway makes
of its text. -/
theorem MadeFor.formatted (hplaces : t.places.Nodup) (hreal : i.dryRun = false)
    (hdistinct : Walker.Distinct t host.cwd (i.files host t))
    (hnone : (plan.walk host after).failure? = none) {p : Path} (hp : p ∈ i.files host t) :
    ∃ place before mode text result bytes,
      t.entryAt? host.cwd true p = .ok (place, .file before mode) ∧ place ∉ logs ∧
      Text.decode before = .ok text ∧ (plan.walker.gateway.apply text after).1 = .ok result ∧
      (plan.walk host after).run.world.tree.get? place = some (.file bytes mode) ∧
      Text.decode bytes = .ok result.content := by
  have hshape := Tree.shape_of_masked h.tree
  have hreal' : plan.invocation.dryRun = false := h.invocation ▸ hreal
  have hapart := h.apart hcwd hlogs
  have hdistinct' : Walker.Distinct after.tree host.cwd (i.files host t) := by
    simpa only [Walker.Distinct, Tree.resolve_of_shape hshape] using hdistinct
  rw [← h.taken hcwd] at hp hdistinct'
  unfold walk at hnone ⊢
  rw [hreal'] at hapart hp hdistinct' hnone ⊢
  obtain ⟨place, before, mode, text, result, bytes, hfile, hdecode, happly, hget, hfinal⟩ :=
    Walker.formatted_of_run h.walker (h.cwd hcwd) (Tree.nodup_places_of_masked h.tree.symm hplaces)
      hapart hdistinct' hnone hp
  have hlog : place ∉ logs := hapart p hp _ hfile
  have hbefore := Tree.file_of_get? hshape hfile (Tree.get?_eq_of_masked h.tree hlog).symm
  exact ⟨place, before, mode, text, result, bytes, hbefore, hlog, hdecode, happly, hget, hfinal⟩

end

end Plan

namespace Session

/-! ## The status of the work -/

/-- A run that cannot be prepared has status 1 and leaves everything but the logs as it is. -/
theorem guarded_of_error (hecho : host.echo.StaysIn logs) (wording : Wording)
    (h : Plan.prepare registry host i w = (.error e, after)) :
    (guarded registry host wording i w).1 = 1 ∧
      (guarded registry host wording i w).2.tree.masked logs = w.tree.masked logs := by
  have htree : after.tree.masked logs = w.tree.masked logs := by
    rw [← Plan.masked_prepare hecho registry i w, h]
  unfold guarded work
  simp only [h]
  refine ⟨trivial, ?_⟩
  split
  · exact (World.masked_say hecho _).trans ((World.masked_say hecho _).trans htree)
  · exact (World.masked_say hecho _).trans htree

/-- The status of a prepared run is 0 exactly if its walk ends with status 0, and outside of the
logs the run leaves what the walk leaves. -/
theorem guarded_of_plan (hecho : host.echo.StaysIn logs) (wording : Wording)
    (h : Plan.prepare registry host i w = (.ok plan, after)) :
    ((guarded registry host wording i w).1 = 0 ↔ (plan.execute host after).1 = .ok 0) ∧
      (guarded registry host wording i w).2.tree.masked logs =
        (plan.walk host after).run.world.tree.masked logs := by
  have htree := Plan.masked_execute hecho plan after
  unfold guarded work
  simp only [h]
  generalize plan.execute host after = executed at htree
  obtain ⟨ending, final⟩ := executed
  cases ending with
  | ok status => exact ⟨by simp, htree⟩
  | error e =>
    refine ⟨by simp, ?_⟩
    simp only
    split
    · exact (World.masked_say hecho _).trans ((World.masked_say hecho _).trans htree)
    · exact (World.masked_say hecho _).trans htree

section

variable (hecho : host.echo.StaysIn logs)
  (hengine : ∀ provider,
    registry.get host.environment i.provider (Plan.options i) = .ok provider →
      (provider.engine host).ContentOnly logs)
  (hcwd : ∃ mode, w.tree.Stands host.cwd (.dir mode))
  (hlogs : ∀ p ∈ i.files host w.tree, ∀ found, w.tree.entryAt? host.cwd true p = .ok found →
    found.1 ∉ logs)
include hecho hengine hcwd hlogs

/-- Work is a success if and only if it was prepared and nothing failed on the walk. -/
theorem guarded_zero_iff (wording : Wording) (hplaces : w.tree.places.Nodup) :
    (guarded registry host wording i w).1 = 0 ↔
      ∃ plan after, Plan.prepare registry host i w = (.ok plan, after) ∧
        (plan.walk host after).Clean (i.files host w.tree)
          (Survey.take w.tree host.faults host.cwd i.target i.recursive true).state := by
  cases hprepare : Plan.prepare registry host i w with
  | mk prepared after =>
    cases prepared with
    | error e =>
      rw [(guarded_of_error hecho wording hprepare).1]
      simp
    | ok plan =>
      have hmadeFor := Plan.madeFor_of_prepare hecho hengine hprepare
      rw [(guarded_of_plan hecho wording hprepare).1, hmadeFor.execute_zero_iff hcwd hlogs,
        hmadeFor.clean_iff hcwd hplaces]
      simp

/-- After a success every file that has one path holds what the gateway makes of its text. -/
theorem guarded_formatted (hplaces : w.tree.places.Nodup) (hreal : i.dryRun = false)
    (hdistinct : Walker.Distinct w.tree host.cwd (i.files host w.tree))
    (hzero : (guarded registry host wording i w).1 = 0)
    (hprepare : Plan.prepare registry host i w = (.ok plan, after)) {p : Path}
    (hp : p ∈ i.files host w.tree) :
    ∃ place before mode text result bytes,
      w.tree.entryAt? host.cwd true p = .ok (place, .file before mode) ∧ place ∉ logs ∧
      Text.decode before = .ok text ∧ (plan.walker.gateway.apply text after).1 = .ok result ∧
      (guarded registry host wording i w).2.tree.get? place = some (.file bytes mode) ∧
      Text.decode bytes = .ok result.content := by
  have hmadeFor := Plan.madeFor_of_prepare hecho hengine hprepare
  obtain ⟨hexecute, hsame⟩ := guarded_of_plan hecho wording hprepare
  have hnone := (hmadeFor.execute_zero_iff hcwd hlogs).mp (hexecute.mp hzero)
  obtain ⟨place, before, mode, text, result, bytes, hfile, hlog, hdecode, happly, hget, hbytes⟩ :=
    hmadeFor.formatted hcwd hlogs hplaces hreal hdistinct hnone hp
  rw [← Tree.get?_eq_of_masked hsame hlog] at hget
  exact ⟨place, before, mode, text, result, bytes, hfile, hlog, hdecode, happly, hget, hbytes⟩

theorem masked_guarded_dry (wording : Wording) (hdry : i.dryRun = true) :
    (guarded registry host wording i w).2.tree.masked logs = w.tree.masked logs := by
  cases hprepare : Plan.prepare registry host i w with
  | mk prepared after =>
    cases prepared with
    | error e => exact (guarded_of_error hecho wording hprepare).2
    | ok plan =>
      exact (guarded_of_plan hecho wording hprepare).2.trans
        ((Plan.madeFor_of_prepare hecho hengine hprepare).masked_walk_dry hcwd hlogs hdry)

end

/-! ## The whole call -/

theorem files_hostOf (i : Invocation) (host : Host) (wording : Wording) (j : Journal) (t : Tree) :
    i.files (hostOf host wording j) t = i.files host t := by
  simp only [Invocation.files, hostOf]

theorem call_of_run (hparse : CommandLine.parse arguments = .run i) (s : Session) (host : Host)
    (wording : Wording) : s.call host wording arguments = s.run host wording i := by
  unfold call CommandLine.gather
  rw [hparse]

/-- The status of a run says how it went. Where its log can be opened, it is zero or one; zero if
and only if the run was prepared and came to the end of its walk without a file or a listing that
failed. It is prepared if and only if the target exists, the profile is a file that holds a
well-formed document, the provider is registered and can be made and can work, and the extension is
not blank; but for profiles at paths that are taken for addresses. Where it was not prepared, or was
a dry run, nothing is written but the log. After a success every file that has one path holds what
the gateway makes of its text. -/
theorem call_status (s : Session) (host : Host) (wording : Wording) (arguments : List String)
    (hparse : CommandLine.parse arguments = .run i) (hopened : s.opened host i = .ok (j, t))
    (hcwd : ∃ mode, s.tree.Stands host.cwd (.dir mode)) (hplaces : s.tree.places.Nodup)
    (hengine : ∀ provider,
      s.registry.get host.environment i.provider (Plan.options i) = .ok provider →
        (provider.engine (hostOf host wording j)).ContentOnly (j.files.map LogFile.place))
    (hlogs : ∀ p ∈ i.files host t, ∀ found, t.entryAt? host.cwd true p = .ok found →
      found.1 ∉ j.files.map LogFile.place) :
    let run := hostOf host wording j
    let start := World.ofTree t
    let done := s.call host wording arguments
    let final := done.2.tree
    let kept := ∀ place ∉ j.files.map LogFile.place, Untouched host i s.tree final place
    (done.1.ending = .ok 0 ∨ done.1.ending = .ok 1) ∧
    (done.1.ending = .ok 0 ↔
      ∃ plan after, Plan.prepare s.registry run i start = (.ok plan, after) ∧
        (plan.walk run after).Clean (i.files host t)
          (Survey.take t host.faults host.cwd i.target i.recursive true).state) ∧
    (Address.target? i.profile = none →
      ((∃ plan after, Plan.prepare s.registry run i start = (.ok plan, after)) ↔
        t.pathExists host.cwd i.target = .ok true ∧
        (∃ root, Profile.Holds (Plan.told run i start).tree host.cwd i.profile root ∧
          ∃ maker provider, s.registry.maker? i.provider = some maker ∧
            maker.make host.environment (Plan.options i) = .ok provider ∧
            (provider.engine run).check (Plan.loaded run i root start) = .ok ()) ∧
        Text.isBlank i.extension = false)) ∧
    (∀ e after, Plan.prepare s.registry run i start = (.error e, after) →
      done.1.ending = .ok 1 ∧ kept) ∧
    (i.dryRun = true → kept) ∧
    (done.1.ending = .ok 0 → i.dryRun = false → Walker.Distinct t host.cwd (i.files host t) →
      ∀ plan after, Plan.prepare s.registry run i start = (.ok plan, after) →
        (∃ root, Profile.readRoot run i.profile (Plan.told run i start).tree = .ok root ∧
          plan.walker.gateway.settings = Profile.loadedSettings i.profile root) ∧
        ∀ p ∈ i.files host t, ∃ place before mode text result bytes,
          t.entryAt? host.cwd true p = .ok (place, .file before mode) ∧
          s.tree.get? place = some (.file before mode) ∧ Text.decode before = .ok text ∧
          (plan.walker.gateway.apply text after).1 = .ok result ∧
          final.get? place = some (.file bytes mode) ∧ Text.decode bytes = .ok result.content) := by
  intro run start done final kept
  have hmade := madeRoom_of_opened hopened
  have hecho : run.echo.StaysIn (j.files.map LogFile.place) := Journal.echo_staysIn j wording.stamp
  have hstand : ∃ mode, start.tree.Stands run.cwd (.dir mode) := by
    obtain ⟨mode, hmode⟩ := hcwd
    exact ⟨mode, hmade.kept.stands hmode⟩
  have honce : start.tree.places.Nodup := hmade.nodup hplaces
  have hfiles : i.files run t = i.files host t := files_hostOf i host wording j t
  have hapart : ∀ p ∈ i.files run t, ∀ found, t.entryAt? host.cwd true p = .ok found →
      found.1 ∉ j.files.map LogFile.place := by
    rw [hfiles]
    exact hlogs
  obtain ⟨hstatus, hfinal⟩ :
      done.1.ending = .ok (guarded s.registry run wording i start).1 ∧
        final = (guarded s.registry run wording i start).2.tree := by
    simp only [final, done, call_of_run hparse]
    exact run_of_opened hopened
  have hkept : final.masked (j.files.map LogFile.place) = t.masked (j.files.map LogFile.place) →
      kept := fun hsame place hlog => hmade.untouched hsame hlog
  refine ⟨?_, ?_, ?_, ?_, ?_, ?_⟩
  · rw [hstatus]
    rcases guarded_status s.registry run wording i start with hzero | hone
    · exact Or.inl (congrArg Except.ok hzero)
    · exact Or.inr (congrArg Except.ok hone)
  · rw [hstatus, Except.ok.injEq, ← hfiles]
    exact guarded_zero_iff hecho hengine hstand hapart wording honce
  · exact Plan.prepared_iff hecho
  · intro e after hprepare
    obtain ⟨hone, hsame⟩ := guarded_of_error hecho wording hprepare
    rw [hstatus, hone]
    exact ⟨rfl, hkept (hfinal ▸ hsame)⟩
  · intro hdry
    exact hkept (hfinal ▸ masked_guarded_dry hecho hengine hstand hapart wording hdry)
  · intro hzero hreal hdistinct plan after hprepare
    rw [hstatus, Except.ok.injEq] at hzero
    rw [← hfiles] at hdistinct
    refine ⟨Plan.settings_of_prepare hprepare, fun p hp => ?_⟩
    rw [← hfiles] at hp
    obtain ⟨place, before, mode, text, result, bytes, hfile, hlog, hdecode, happly, hget, hbytes⟩ :=
      guarded_formatted hecho hengine hstand hapart honce hreal hdistinct hzero hprepare hp
    exact ⟨place, before, mode, text, result, bytes, hfile,
      hmade.get?_file hlog (Tree.get?_of_file hfile), hdecode, happly, hfinal ▸ hget, hbytes⟩

/-! ## A profile at a path that is taken for an address -/

open Walker (calmHost)

def smallProfile : String := "<p><setting id=\"a\" value=\"1\"/></p>"

/-- A file, and a profile in a directory whose name is that of a scheme. -/
def schemeTree : Tree :=
  ⟨[(["file:"], .dir 0o755),
    (["file:", "c.xml"], .file (Text.encode smallProfile) 0o644),
    (["a.java"], .file (Text.encode "x") 0o644)]⟩

def schemeRun (profile : String) : Invocation :=
  { Invocation.ofTarget (.ofString "a.java") with
    profile := .ofString profile, provider := Identity.name }

theorem schemeTree_target :
    schemeTree.entryAt? [] true (.ofString "a.java") =
      .ok (["a.java"], .file (Text.encode "x") 0o644) := by
  have hname : Tree.IsName "a.java" := by decide
  rw [show Path.ofString "a.java" = ⟨.relative, ["a.java"]⟩ by decide]
  exact Tree.entryAt?_eq_ok_iff.mpr ⟨by decide, by decide, Tree.walk_halt hname rfl rfl⟩

theorem schemeTree_profile (anchor : Anchor) :
    schemeTree.entryAt? [] true ⟨anchor, ["file:", "c.xml"]⟩ =
      .ok (["file:", "c.xml"], .file (Text.encode smallProfile) 0o644) := by
  have hdir : Tree.IsName "file:" := by decide
  have hname : Tree.IsName "c.xml" := by decide
  have horigin : Path.origin [] ⟨anchor, ["file:", "c.xml"]⟩ = [] := by cases anchor <;> rfl
  refine Tree.entryAt?_eq_ok_iff.mpr ⟨by cases anchor <;> decide, by cases anchor <;> decide, ?_⟩
  rw [horigin]
  have hget : schemeTree.get? ([] ++ ["file:"]) = some (.dir 0o755) := rfl
  exact (Tree.walk_through hdir hget).trans (Tree.walk_halt hname rfl rfl)

theorem schemeTree_holds (anchor : Anchor) :
    ∃ root, Profile.Holds schemeTree [] ⟨anchor, ["file:", "c.xml"]⟩ root := by
  have hdocument : (Compressed.contents (Text.encode smallProfile) >>= Xml.readDocument).isSome =
      true := by decide +kernel
  obtain ⟨root, hroot⟩ := Option.isSome_iff_exists.mp hdocument
  exact ⟨root, _, _, _, schemeTree_profile anchor, hroot⟩

theorem schemeRun_opened (profile : String) :
    (Session.start .builtIn schemeTree).opened calmHost (schemeRun profile) =
      .ok (Journal.start.setDetail 1, schemeTree) := opened_of_no_log (Or.inl rfl)

theorem identity_contentOnly (logs : List Location) : Identity.engine.ContentOnly logs where
  answer := fun _ _ _ _ => rfl
  tree := fun _ _ _ => rfl

theorem identity_apply {g : Gateway} (h : g.engine = Identity.engine) (text : String)
    (world : World) : (g.apply text world).1 = .ok (.unchanged text) := by
  rw [Gateway.apply_fst]
  split
  · rfl
  · simp [Gateway.ask, h, Identity.engine, Transformed.compare, Transformed.unchanged]

def schemeHost : Host := hostOf calmHost plainWording (Journal.start.setDetail 1)

theorem schemeHost_staysIn : schemeHost.echo.StaysIn [] :=
  Journal.echo_staysIn (Journal.start.setDetail 1) ""

theorem schemeHost_told (profile : String) :
    (Plan.told schemeHost (schemeRun profile) (World.ofTree schemeTree)).tree = schemeTree := by
  have htold := World.masked_tell schemeHost_staysIn
    (Plan.heading schemeHost (schemeRun profile)) (World.ofTree schemeTree)
  rwa [Tree.masked_nil, Tree.masked_nil] at htold

theorem schemeRun_provider {profile : String} {provider : Provider}
    (h : Registry.get .builtIn calmHost.environment Identity.name
      (Plan.options (schemeRun profile)) = .ok provider) : provider = .identity :=
  (Except.ok.inj h).symm

theorem schemeRun_contentOnly (profile : String) (provider : Provider)
    (h : Registry.get .builtIn calmHost.environment Identity.name
      (Plan.options (schemeRun profile)) = .ok provider) :
    (provider.engine schemeHost).ContentOnly [] := by
  rw [schemeRun_provider h]
  exact identity_contentOnly []

theorem schemeRun_extension :
    Eligibility.ofExtension defaultExtension = .ok (.ofSuffix ".java") := by
  have hnormal : normalizeExtension defaultExtension = .ok ".java" := by decide
  rw [Eligibility.ofExtension, hnormal]
  rfl

theorem schemeRun_eligible : Eligibility.ofSuffix ".java" (.ofString "a.java") = true := by
  decide

theorem schemeRun_files (profile : String) :
    (schemeRun profile).files calmHost schemeTree = [.ofString "a.java"] :=
  Invocation.files_of_file (i := schemeRun profile) (Tree.isFile_of_file schemeTree_target)
    schemeRun_extension schemeRun_eligible

theorem schemeRun_walk {profile : String}
    (h : plan.MadeFor schemeHost (schemeRun profile) [] schemeTree after)
    (hengine : plan.walker.gateway.engine = Identity.engine) :
    (plan.walk schemeHost after).failure? = none := by
  have htree := h.tree
  rw [Tree.masked_nil, Tree.masked_nil] at htree
  have heligible : plan.walker.eligible = .ofSuffix ".java" :=
    (Except.ok.inj (schemeRun_extension.symm.trans h.eligible)).symm
  have hcwd : ∃ mode, after.tree.Stands schemeHost.cwd (.dir mode) := ⟨_, .top⟩
  have hfile : after.tree.entryAt? schemeHost.cwd true (schemeRun profile).target =
      .ok (["a.java"], .file (Text.encode "x") 0o644) := by
    rw [htree]
    exact schemeTree_target
  have hplaces : after.tree.places.Nodup := by
    rw [htree]
    decide
  have hchosen : plan.walker.eligible (schemeRun profile).target = true := by
    rw [heligible]
    exact schemeRun_eligible
  unfold Plan.walk
  rw [h.invocation]
  exact Walker.failure?_of_single_file h.walker hcwd hplaces hfile List.not_mem_nil hchosen rfl
    (identity_apply hengine "x") _ _

/-- Where the path of the profile begins at the top, the run is a success, and the file holds what
the engine makes of it. -/
theorem call_status_of_absolute_profile :
    let done := (Session.start .builtIn schemeTree).call calmHost plainWording
      ["-c", "/file:/c.xml", "--provider", "identity", "a.java"]
    done.1.ending = .ok 0 ∧
      ∃ bytes, done.2.tree.get? ["a.java"] = some (.file bytes 0o644) ∧
        Text.decode bytes = .ok "x" := by
  intro done
  have hparse : CommandLine.parse ["-c", "/file:/c.xml", "--provider", "identity", "a.java"] =
      .run (schemeRun "/file:/c.xml") := by decide +kernel
  have hcwd : ∃ mode, schemeTree.Stands [] (.dir mode) := ⟨_, .top⟩
  have hpath : Path.ofString "/file:/c.xml" = ⟨.top, ["file:", "c.xml"]⟩ := by decide
  obtain ⟨-, hzero, hprepared, -, -, hformatted⟩ := call_status (Session.start .builtIn schemeTree)
    calmHost plainWording _ hparse (schemeRun_opened _) hcwd (by decide)
    (schemeRun_contentOnly _) (fun _ _ _ _ => List.not_mem_nil)
  obtain ⟨root, hroot⟩ := schemeTree_holds .top
  rw [← hpath, ← schemeHost_told "/file:/c.xml"] at hroot
  obtain ⟨plan, after, hprepare⟩ := (hprepared (by decide +kernel)).mpr
    ⟨Tree.pathExists_of_isFile (Tree.isFile_of_file schemeTree_target),
      ⟨root, hroot, Identity.maker, .identity, rfl, rfl, rfl⟩, by decide⟩
  have hplan := Plan.madeFor_of_prepare schemeHost_staysIn (schemeRun_contentOnly _) hprepare
  have hengine : plan.walker.gateway.engine = Identity.engine := by
    obtain ⟨root, provider, eligible, hfound, rfl, -⟩ := Plan.prepare_ok_iff.mp hprepare
    have hprovider : provider = .identity := schemeRun_provider hfound.registered
    rw [hprovider]
    rfl
  have hclean := (hplan.clean_iff hcwd (by decide)).mp (schemeRun_walk hplan hengine)
  have hok := hzero.mpr ⟨plan, after, hprepare, hclean⟩
  refine ⟨hok, ?_⟩
  have hfiles := schemeRun_files "/file:/c.xml"
  obtain ⟨-, hleft⟩ := hformatted hok rfl (by rw [hfiles]; exact List.pairwise_singleton _ _) plan
    after hprepare
  obtain ⟨place, before, mode, text, result, bytes, hfile, -, hdecode, happly, hget, hbytes⟩ :=
    hleft (.ofString "a.java") (by rw [hfiles]; exact List.mem_singleton_self _)
  obtain ⟨rfl, rfl, rfl⟩ : place = ["a.java"] ∧ before = Text.encode "x" ∧ mode = 0o644 := by
    have hsame := hfile.symm.trans schemeTree_target
    simpa using hsame
  obtain rfl : "x" = text := Except.ok.inj ((Text.decode_encode "x").symm.trans hdecode)
  obtain rfl : .unchanged "x" = result :=
    Except.ok.inj ((identity_apply hengine _ _).symm.trans happly)
  exact ⟨bytes, hget, hbytes⟩

/-- There is no file at the address that the path is taken for. -/
theorem schemeTree_address (root : Xml.Element) :
    Profile.readRoot schemeHost (.ofString "file:/c.xml") schemeTree ≠ .ok root := by
  have hname : Tree.IsName "c.xml" := by decide
  have haddress : Address.resolve (.ofString "file:/c.xml") = ⟨.top, ["c.xml"]⟩ := by
    decide +kernel
  have hwalk : schemeTree.walk true Tree.linkLimit [] ["c.xml"] = .ok (.vacant ["c.xml"]) :=
    (Tree.walk_absent hname rfl).trans (if_pos rfl)
  have hentry : schemeTree.entryAt? [] true ⟨.top, ["c.xml"]⟩ =
      .error (.refused .noEntry "/c.xml") := by
    have htext : Path.text ⟨.top, ["c.xml"]⟩ = "/c.xml" := by decide
    have hnul : Path.holdsNul "/c.xml" = false := by decide
    have hshort : ¬"/c.xml".utf8ByteSize > Tree.pathLimit := by decide
    have horigin : Path.origin [] ⟨.top, ["c.xml"]⟩ = [] := rfl
    simp [Tree.entryAt?, Tree.locate, htext, hnul, hshort, horigin, hwalk]
  have hpath : Path.ofString "file:/c.xml" = ⟨.relative, ["file:", "c.xml"]⟩ := by decide
  have hisFile : schemeTree.isFile schemeHost.cwd (.ofString "file:/c.xml") = .ok true := by
    rw [hpath]
    exact Tree.isFile_of_file (schemeTree_profile .relative)
  have hread : schemeTree.readBytes .none schemeHost.cwd ⟨.top, ["c.xml"]⟩ =
      .error (.refused .noEntry "/c.xml") := by
    have hcwd : schemeHost.cwd = [] := rfl
    rw [Tree.readBytes, hcwd, hentry]
    rfl
  unfold Profile.readRoot
  simp [hisFile, haddress, hread]

/-- Where the same path begins at the current directory, it is taken for an address. Then the run
is no success, although the profile is a file that holds a well-formed document, and all else is
as it has to be. -/
theorem call_fails_at_address :
    let done := (Session.start .builtIn schemeTree).call calmHost plainWording
      ["-c", "file:/c.xml", "--provider", "identity", "a.java"]
    schemeTree.pathExists [] (.ofString "a.java") = .ok true ∧
      (∃ root, Profile.Holds schemeTree [] (.ofString "file:/c.xml") root ∧
        ((Plan.made schemeHost (schemeRun "file:/c.xml") Identity.engine root
          (.ofSuffix ".java")).walk schemeHost (World.ofTree schemeTree)).failure? = none) ∧
      Registry.get .builtIn calmHost.environment Identity.name [] = .ok .identity ∧
      (Provider.identity.engine schemeHost).check (World.ofTree schemeTree) = .ok () ∧
      Text.isBlank defaultExtension = false ∧ done.1.ending = .ok 1 := by
  intro done
  have hparse : CommandLine.parse ["-c", "file:/c.xml", "--provider", "identity", "a.java"] =
      .run (schemeRun "file:/c.xml") := by decide +kernel
  have hpath : Path.ofString "file:/c.xml" = ⟨.relative, ["file:", "c.xml"]⟩ := by decide
  obtain ⟨root, hroot⟩ := schemeTree_holds .relative
  refine ⟨Tree.pathExists_of_isFile (Tree.isFile_of_file schemeTree_target),
    ⟨root, hpath ▸ hroot, schemeRun_walk ⟨rfl, ⟨⟨identity_contentOnly [], ?_⟩, schemeHost_staysIn⟩,
      schemeRun_extension, rfl⟩ rfl⟩, rfl, rfl, by decide, ?_⟩
  · rintro sink hsink
    cases hsink
  · have hending : done.1.ending = .ok (guarded .builtIn schemeHost plainWording
        (schemeRun "file:/c.xml") (World.ofTree schemeTree)).1 := by
      simp only [done, call_of_run hparse]
      exact (run_of_opened (schemeRun_opened "file:/c.xml")).1
    rw [hending]
    cases hprepare : Plan.prepare .builtIn schemeHost (schemeRun "file:/c.xml")
      (World.ofTree schemeTree) with
    | mk prepared after =>
      cases prepared with
      | error e => rw [(guarded_of_error schemeHost_staysIn plainWording hprepare).1]
      | ok plan =>
        obtain ⟨root, provider, eligible, hfound, -⟩ := Plan.prepare_ok_iff.mp hprepare
        have hread := hfound.profile
        rw [schemeHost_told] at hread
        exact (schemeTree_address root hread).elim

end Session
end BatchFormat
