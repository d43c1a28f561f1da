import BatchFormat.Proofs.Walk.Containment

/-!
# Looking first and formatting afterwards

A walk looks for the next file when the one before it is written already. With an engine whose
answers depend on the text and the settings alone, this makes no difference to collecting all there
is at the beginning, and formatting it then file by file.
-/
namespace BatchFormat

variable {w w' : Walker} {host : Host} {world world' : World} {run a b c : Run} {p q root : Path}
  {recursive dryRun : Bool} {logs : List Location} {files more : List Path}

/-! ## Totals -/

namespace Summary

variable {s s' : Summary} {message : String}

/-- The same totals, with the same message for each path. -/
structure Agrees (s s' : Summary) : Prop where
  processed : s.processed = s'.processed
  changed : s.changed = s'.changed
  failed : s.failed = s'.failed
  changedFiles : s.changedFiles = s'.changedFiles
  errors : ∀ p, s.errors.lookup p = s'.errors.lookup p

theorem Agrees.refl (s : Summary) : s.Agrees s := ⟨rfl, rfl, rfl, rfl, fun _ => rfl⟩

theorem Agrees.symm (h : s.Agrees s') : s'.Agrees s :=
  ⟨h.processed.symm, h.changed.symm, h.failed.symm, h.changedFiles.symm, fun p => (h.errors p).symm⟩

theorem Agrees.trans {s'' : Summary} (h : s.Agrees s') (h' : s'.Agrees s'') : s.Agrees s'' where
  processed := h.processed.trans h'.processed
  changed := h.changed.trans h'.changed
  failed := h.failed.trans h'.failed
  changedFiles := h.changedFiles.trans h'.changedFiles
  errors := fun p => (h.errors p).trans (h'.errors p)

/-- A message is set for its own path only. -/
theorem lookup_setMessage (errors : List (Path × String)) (q : Path) :
    (setMessage p message errors).lookup q = if q = p then some message else errors.lookup q := by
  induction errors with
  | nil =>
    by_cases heq : q = p
    · simp [setMessage, heq]
    · simp [setMessage, List.lookup_cons, beq_false_of_ne heq, heq]
  | cons pair errors ih =>
    obtain ⟨other, old⟩ := pair
    unfold setMessage
    split
    · next hother =>
      subst hother
      by_cases heq : q = other
      · simp [heq]
      · simp [List.lookup_cons, beq_false_of_ne heq, heq]
    · next hother =>
      by_cases heq : q = other
      · subst heq
        simp [hother]
      · simp [List.lookup_cons, beq_false_of_ne heq, ih]

/-- What processing a file adds to the totals. -/
def book (p : Path) (outcome : Except Failure Transformed) (s : Summary) : Summary :=
  match outcome with
  | .error e => s.recordProcessed.recordError p e.message
  | .ok result => if result.changed then s.recordProcessed.recordChanged p else s.recordProcessed

theorem Agrees.recordError (h : s.Agrees s') (p : Path) (message : String) :
    (s.recordError p message).Agrees (s'.recordError p message) where
  processed := h.processed
  changed := h.changed
  failed := congrArg (· + 1) h.failed
  changedFiles := h.changedFiles
  errors := fun q => by
    simp only [Summary.recordError, lookup_setMessage, h.errors q]

theorem Agrees.book (h : s.Agrees s') (p : Path) (outcome : Except Failure Transformed) :
    (s.book p outcome).Agrees (s'.book p outcome) := by
  have hprocessed : s.recordProcessed.Agrees s'.recordProcessed :=
    ⟨congrArg (· + 1) h.processed, h.changed, h.failed, h.changedFiles, h.errors⟩
  unfold Summary.book
  split
  · exact hprocessed.recordError p _
  · split
    · exact ⟨hprocessed.processed, congrArg (· + 1) h.changed, h.failed,
        congrArg (· ++ [p]) h.changedFiles, h.errors⟩
    · exact hprocessed

/-- Failures of different paths can be noted in any order. -/
theorem book_recordError (hne : p ≠ q) (outcome : Except Failure Transformed) :
    ((s.recordError q message).book p outcome).Agrees
      ((s.book p outcome).recordError q message) := by
  unfold book
  split
  · next e =>
    refine ⟨rfl, rfl, rfl, rfl, fun x => ?_⟩
    simp only [recordError, recordProcessed, lookup_setMessage]
    by_cases hp : x = p
    · subst hp
      rw [if_pos rfl, if_neg hne, if_pos rfl]
    · simp [hp]
  · split
    · exact ⟨rfl, rfl, rfl, rfl, fun _ => rfl⟩
    · exact ⟨rfl, rfl, rfl, rfl, fun _ => rfl⟩

end Summary

/-! ## Steps that do not depend on what came before -/

/-- The answers of the engine depend on the settings and the text alone, and neither it nor the
sink touches the tree. -/
structure Gateway.ContentOnly (g : Gateway) : Prop where
  answer : ∀ settings content (world world' : World),
    (g.engine.transform settings content world).1 =
      (g.engine.transform settings content world').1
  engine : ∀ settings content (world : World),
    (g.engine.transform settings content world).2.tree = world.tree
  sink : ∀ sink ∈ g.sink?, ∀ r (world : World), (sink r world).tree = world.tree

theorem Gateway.ContentOnly.keepsShape {g : Gateway} (h : g.ContentOnly) : g.KeepsShape where
  engine := fun settings content world => congrArg Tree.shape (h.engine settings content world)
  sink := fun sink hsink r world => congrArg Tree.shape (h.sink sink hsink r world)

/-- What comes of a text: it is blank, or the engine answers, rejects it or fails. -/
theorem Gateway.apply_fst (g : Gateway) (content : String) (world : World) :
    (g.apply content world).1 =
      if Text.isBlank content then .ok (.unchanged content)
      else
        match (g.ask content world).1 with
        | .ok answer => .ok (.compare content answer)
        | .error (.rejected _) => .ok (.unchanged content)
        | .error e => .error e := by
  unfold Gateway.apply
  split
  · rfl
  · generalize g.ask content world = asked
    obtain ⟨answer, after⟩ := asked
    cases answer with
    | ok answer => rfl
    | error e => cases e <;> rfl

theorem Gateway.ContentOnly.apply {g : Gateway} (h : g.ContentOnly) (content : String)
    (world world' : World) :
    (g.apply content world).1 = (g.apply content world').1 ∧
      (g.apply content world).2.tree = world.tree := by
  constructor
  · have hanswer : (g.ask content world).1 = (g.ask content world').1 := h.answer _ _ _ _
    rw [Gateway.apply_fst, Gateway.apply_fst, hanswer]
  · exact Gateway.apply_tree (I := fun t => t = world.tree)
      (fun _ _ _ hsame => (h.engine _ _ _).trans hsame)
      (fun sink hsink _ _ hsame => (h.sink sink hsink _ _).trans hsame) content rfl

/-- Gateways that make the same of each text, and write to nothing but the logs. -/
structure Gateway.Alike (g g' : Gateway) (logs : List Location) : Prop where
  answer : ∀ content (world world' : World),
    (g.apply content world).1 = (g'.apply content world').1
  left : ∀ content (world : World),
    (g.apply content world).2.tree.masked logs = world.tree.masked logs
  right : ∀ content (world : World),
    (g'.apply content world).2.tree.masked logs = world.tree.masked logs

theorem Gateway.ContentOnly.alike {g : Gateway} (h : g.ContentOnly) (logs : List Location) :
    g.Alike g logs where
  answer := fun content world world' => (h.apply content world world').1
  left := fun content world => congrArg (Tree.masked · logs) (h.apply content world world).2
  right := fun content world => congrArg (Tree.masked · logs) (h.apply content world world).2

theorem World.masked_say (h : host.echo.StaysIn logs) (r : Record) :
    (world.say host r).tree.masked logs = world.tree.masked logs := h _ _ _

/-- A replacement does not depend on the logs. -/
theorem World.replaceFile_congr (h : world.tree.masked logs = world'.tree.masked logs) (p : Path)
    (content : String) :
    (world.replaceFile host p content).1 = (world'.replaceFile host p content).1 ∧
      (world.replaceFile host p content).2.tree.masked logs =
        (world'.replaceFile host p content).2.tree.masked logs := by
  obtain ⟨houtcome, hafter⟩ :
      (world.tree.replace host.faults (host.draw p) host.cwd p content).1 =
        (world'.tree.replace host.faults (host.draw p) host.cwd p content).1 ∧ _ :=
    Tree.replace_of_masked h
  unfold World.replaceFile
  generalize world.tree.replace host.faults (host.draw p) host.cwd p content = done
    at houtcome hafter
  generalize world'.tree.replace host.faults (host.draw p) host.cwd p content = done'
    at houtcome hafter
  obtain ⟨outcome, after⟩ := done
  obtain ⟨outcome', after'⟩ := done'
  change outcome = outcome' at houtcome
  subst houtcome
  cases outcome <;> exact ⟨rfl, hafter⟩

/-- What a walk relies on: the answers depend on the texts alone, and what is said is kept in the
log files. -/
structure Walker.Steady (w : Walker) (host : Host) (logs : List Location) : Prop where
  gateway : w.gateway.ContentOnly
  echo : host.echo.StaysIn logs

theorem Walker.Steady.keepsShape (h : w.Steady host logs) : w.KeepsShape host :=
  ⟨h.gateway.keepsShape, h.echo.keepsShape⟩

namespace Walker

/-- Walkers with gateways that are alike attempt a file with the same result. -/
theorem attempt_alike (h : w.gateway.Alike w'.gateway logs)
    (htree : world.tree.masked logs = world'.tree.masked logs)
    (hp : world.tree.IsSource logs host.cwd p) (dryRun : Bool) :
    (w.attempt host dryRun p world).1 = (w'.attempt host dryRun p world').1 ∧
      (w.attempt host dryRun p world).2.tree.masked logs =
        (w'.attempt host dryRun p world').2.tree.masked logs := by
  unfold attempt
  rw [hp.readText_eq htree]
  split
  · exact ⟨rfl, htree⟩
  · next text _ =>
    have hresult := h.answer text world world'
    have hafter := h.left text world
    have hafter' := h.right text world'
    generalize w.gateway.apply text world = applied at hresult hafter
    generalize w'.gateway.apply text world' = applied' at hresult hafter'
    obtain ⟨result, after⟩ := applied
    obtain ⟨result', after'⟩ := applied'
    change result = result' at hresult
    subst hresult
    have hsame : after.tree.masked logs = after'.tree.masked logs :=
      hafter.trans (htree.trans hafter'.symm)
    cases result with
    | error failure => exact ⟨rfl, hsame⟩
    | ok result =>
      simp only
      split
      · obtain ⟨houtcome, hreplaced⟩ :
            (after.replaceFile host p result.content).1 =
              (after'.replaceFile host p result.content).1 ∧ _ :=
          World.replaceFile_congr hsame p result.content
        generalize after.replaceFile host p result.content = done at houtcome hreplaced
        generalize after'.replaceFile host p result.content = done' at houtcome hreplaced
        obtain ⟨outcome, final⟩ := done
        obtain ⟨outcome', final'⟩ := done'
        change outcome = outcome' at houtcome
        subst houtcome
        cases outcome <;> exact ⟨rfl, hreplaced⟩
      · exact ⟨rfl, hsame⟩

theorem attempt_congr (h : w.gateway.ContentOnly)
    (htree : world.tree.masked logs = world'.tree.masked logs)
    (hp : world.tree.IsSource logs host.cwd p) (dryRun : Bool) :
    (w.attempt host dryRun p world).1 = (w.attempt host dryRun p world').1 ∧
      (w.attempt host dryRun p world).2.tree.masked logs =
        (w.attempt host dryRun p world').2.tree.masked logs :=
  attempt_alike (h.alike logs) htree hp dryRun

/-- What processing a file comes to can be told from an attempt with a gateway that is alike. -/
theorem processFile_eq_of_alike (h : w.gateway.Alike w'.gateway logs)
    (hecho : host.echo.StaysIn logs) (hp : run.world.tree.IsSource logs host.cwd p)
    (dryRun : Bool) :
    (w.processFile host dryRun p run).world.tree.masked logs =
        (w'.attempt host dryRun p run.world).2.tree.masked logs ∧
      (w.processFile host dryRun p run).summary =
        run.summary.book p (w'.attempt host dryRun p run.world).1 := by
  unfold processFile
  simp only
  generalize hsaid : run.world.say host (.debug s!"Formatting file: {host.shown p}") = said
  have hsame : said.tree.masked logs = run.world.tree.masked logs :=
    hsaid ▸ World.masked_say hecho _
  have hsource := hp.of_shape (Tree.shape_of_masked hsame).symm
  obtain ⟨houtcome, htree⟩ := attempt_alike h hsame hsource dryRun
  rw [← houtcome, ← htree]
  cases w.attempt host dryRun p said with
  | mk outcome after =>
    cases outcome with
    | error failure => exact ⟨World.masked_say hecho _, rfl⟩
    | ok result => exact ⟨World.masked_say hecho _, rfl⟩

theorem processFile_eq (h : w.Steady host logs) (hp : run.world.tree.IsSource logs host.cwd p)
    (dryRun : Bool) :
    (w.processFile host dryRun p run).world.tree.masked logs =
        (w.attempt host dryRun p run.world).2.tree.masked logs ∧
      (w.processFile host dryRun p run).summary =
        run.summary.book p (w.attempt host dryRun p run.world).1 :=
  processFile_eq_of_alike (h.gateway.alike logs) h.echo hp dryRun

end Walker

/-! ## Runs that are alike -/

/-- A run is ready for some files: they are files and no logs. -/
structure Run.Ready (run : Run) (host : Host) (logs : List Location) (files : List Path) :
    Prop where
  cwd : ∃ mode, run.world.tree.Stands host.cwd (.dir mode)
  sources : ∀ p ∈ files, run.world.tree.IsSource logs host.cwd p

theorem Run.Ready.of_shape (h : a.Ready host logs files)
    (hshape : a.world.tree.shape = b.world.tree.shape) (hmore : more ⊆ files) :
    b.Ready host logs more where
  cwd := Tree.Stands.dir_of_shape hshape h.cwd
  sources := fun p hp => (h.sources p (hmore hp)).of_shape hshape

/-- Two runs have come to the same tree, but for the logs, and to the same totals. -/
structure Run.Alike (logs : List Location) (a b : Run) : Prop where
  tree : a.world.tree.masked logs = b.world.tree.masked logs
  summary : a.summary.Agrees b.summary

theorem Run.Alike.refl (a : Run) : Run.Alike logs a a := ⟨rfl, .refl _⟩

theorem Run.Alike.symm (h : Run.Alike logs a b) : Run.Alike logs b a :=
  ⟨h.tree.symm, h.summary.symm⟩

theorem Run.Alike.trans (h : Run.Alike logs a b) (h' : Run.Alike logs b c) :
    Run.Alike logs a c := ⟨h.tree.trans h'.tree, h.summary.trans h'.summary⟩

theorem Run.Ready.of_alike (h : a.Ready host logs files) (hab : Run.Alike logs a b) :
    b.Ready host logs files :=
  h.of_shape (Tree.shape_of_masked hab.tree) (List.Subset.refl _)

namespace Walker

theorem processFile_ready (h : w.Steady host logs) (hready : run.Ready host logs (p :: files))
    (dryRun : Bool) :
    (w.processFile host dryRun p run).Ready host logs files :=
  hready.of_shape (shape_processFile h.keepsShape hready.cwd
    (hready.sources p List.mem_cons_self).isFile).symm (List.subset_cons_self _ _)

theorem processFile_alike (h : w.Steady host logs) (hab : Run.Alike logs a b)
    (hp : a.world.tree.IsSource logs host.cwd p) (dryRun : Bool) :
    Run.Alike logs (w.processFile host dryRun p a) (w.processFile host dryRun p b) := by
  obtain ⟨htree, hsummary⟩ := processFile_eq h hp dryRun
  obtain ⟨htree', hsummary'⟩ :=
    processFile_eq h (hp.of_shape (Tree.shape_of_masked hab.tree)) dryRun
  obtain ⟨houtcome, hafter⟩ := attempt_congr h.gateway hab.tree hp dryRun
  refine ⟨htree.trans (hafter.trans htree'.symm), ?_⟩
  rw [hsummary, hsummary', houtcome]
  exact hab.summary.book p _

theorem missListing_alike (h : w.Steady host logs) (hab : Run.Alike logs a b) (p : Path)
    (e : SystemError) : Run.Alike logs (missListing host p e a) (missListing host p e b) where
  tree := (World.masked_say h.echo _).trans (hab.tree.trans (World.masked_say h.echo _).symm)
  summary := hab.summary.recordError p e.message

/-- A directory that cannot be listed has nothing to do with files. -/
theorem processFile_missListing (h : w.Steady host logs)
    (hp : run.world.tree.IsSource logs host.cwd p) (hne : p ≠ q) (e : SystemError)
    (dryRun : Bool) :
    Run.Alike logs (w.processFile host dryRun p (missListing host q e run))
      (missListing host q e (w.processFile host dryRun p run)) := by
  have hmiss : run.world.tree.masked logs = (missListing host q e run).world.tree.masked logs :=
    (World.masked_say h.echo _).symm
  obtain ⟨htree, hsummary⟩ := processFile_eq h hp dryRun
  obtain ⟨htree', hsummary'⟩ := processFile_eq h (hp.of_shape (Tree.shape_of_masked hmiss)) dryRun
  obtain ⟨houtcome, hafter⟩ := attempt_congr h.gateway hmiss hp dryRun
  refine ⟨?_, ?_⟩
  · exact htree'.trans (hafter.symm.trans (htree.symm.trans (World.masked_say h.echo _).symm))
  · rw [hsummary', ← houtcome]
    change Summary.Agrees _ ((w.processFile host dryRun p run).summary.recordError q e.message)
    rw [hsummary]
    exact Summary.book_recordError hne _

/-- Notes all the directories that cannot be listed. -/
def missAll (host : Host) (missed : List (Path × SystemError)) (run : Run) : Run :=
  missed.foldl (fun run miss => missListing host miss.1 miss.2 run) run

def processAll (w : Walker) (host : Host) (dryRun : Bool) (files : List Path) (run : Run) : Run :=
  files.foldl (fun run p => w.processFile host dryRun p run) run

theorem masked_missAll (h : w.Steady host logs) (missed : List (Path × SystemError)) (run : Run) :
    (missAll host missed run).world.tree.masked logs = run.world.tree.masked logs := by
  induction missed generalizing run with
  | nil => rfl
  | cons miss missed ih => exact (ih _).trans (World.masked_say h.echo _)

theorem missAll_alike (h : w.Steady host logs) (missed : List (Path × SystemError))
    (hab : Run.Alike logs a b) :
    Run.Alike logs (missAll host missed a) (missAll host missed b) := by
  induction missed generalizing a b with
  | nil => exact hab
  | cons miss missed ih => exact ih (missListing_alike h hab miss.1 miss.2)

theorem processAll_ready (h : w.Steady host logs)
    (hready : run.Ready host logs (files ++ more)) (dryRun : Bool) :
    (w.processAll host dryRun files run).Ready host logs more := by
  induction files generalizing run with
  | nil => exact hready
  | cons p files ih => exact ih (processFile_ready h hready dryRun)

theorem processAll_alike (h : w.Steady host logs) (hready : a.Ready host logs files)
    (hab : Run.Alike logs a b) (dryRun : Bool) :
    Run.Alike logs (w.processAll host dryRun files a) (w.processAll host dryRun files b) := by
  induction files generalizing a b with
  | nil => exact hab
  | cons p files ih =>
    have hp := hready.sources p List.mem_cons_self
    exact ih (processFile_ready h hready dryRun) (processFile_alike h hab hp dryRun)

/-- Directories may be noted as missed before a file is processed or after it. -/
theorem missAll_processFile (h : w.Steady host logs)
    (hp : run.world.tree.IsSource logs host.cwd p) (missed : List (Path × SystemError))
    (hne : ∀ miss ∈ missed, p ≠ miss.1) (dryRun : Bool) :
    Run.Alike logs (missAll host missed (w.processFile host dryRun p run))
      (w.processFile host dryRun p (missAll host missed run)) := by
  induction missed generalizing run with
  | nil => exact .refl _
  | cons miss missed ih =>
    have hswap := processFile_missListing h hp (hne miss List.mem_cons_self) miss.2 dryRun
    have hshape : (missListing host miss.1 miss.2 run).world.tree.shape = run.world.tree.shape :=
      h.echo.keepsShape _ _ _
    refine (missAll_alike h missed hswap.symm).trans (ih (hp.of_shape hshape.symm) ?_)
    exact fun other hother => hne other (List.mem_cons_of_mem _ hother)

/-- Directories may be noted as missed before all files are processed or after them. -/
theorem missAll_processAll (h : w.Steady host logs) (hready : run.Ready host logs files)
    (missed : List (Path × SystemError)) (hne : ∀ p ∈ files, ∀ miss ∈ missed, p ≠ miss.1)
    (dryRun : Bool) :
    Run.Alike logs (missAll host missed (w.processAll host dryRun files run))
      (w.processAll host dryRun files (missAll host missed run)) := by
  induction files generalizing run with
  | nil => exact .refl _
  | cons p files ih =>
    have hready' := processFile_ready h hready dryRun
    have hshape := Tree.shape_of_masked (masked_missAll h missed (w.processFile host dryRun p run))
    have hswap := missAll_processFile h (hready.sources p List.mem_cons_self) missed
      (hne p List.mem_cons_self) dryRun
    have hrest := ih hready' fun p hp => hne p (List.mem_cons_of_mem _ hp)
    refine hrest.trans (processAll_alike h ?_ hswap dryRun)
    exact hready'.of_shape hshape.symm (List.Subset.refl _)

/-- A candidate that is not taken changes nothing but the log. -/
theorem meet_alike (h : w.Steady host logs) (c : Candidate) (run : Run) (dryRun : Bool) :
    Run.Alike logs (w.meet host dryRun c run)
      (w.processAll host dryRun (w.taken? (.met c)).toList run) := by
  cases hfile : c.isFile with
  | false =>
    have htaken : w.taken? (.met c) = none := by simp [taken?, hfile]
    have hmeet : w.meet host dryRun c run = run := by simp [meet, hfile]
    rw [htaken, hmeet]
    exact .refl run
  | true =>
    cases heligible : w.eligible c.path with
    | false =>
      have htaken : w.taken? (.met c) = none := by simp [taken?, heligible]
      rw [htaken]
      simp only [meet, hfile, heligible]
      exact ⟨World.masked_say h.echo _, .refl _⟩
    | true =>
      have htaken : w.taken? (.met c) = some c.path := by simp [taken?, hfile, heligible]
      have hmeet : w.meet host dryRun c run = w.processFile host dryRun c.path run := by
        simp [meet, hfile, heligible]
      rw [htaken, hmeet]
      exact .refl _

/-- What happens in turn may as well happen in two phases: first all directories that cannot be
listed are noted, then all files are processed. -/
theorem replay_alike (h : w.Steady host logs) (events : List Event)
    (hready : run.Ready host logs (events.filterMap w.taken?))
    (hne : ∀ p ∈ events.filterMap w.taken?, ∀ miss ∈ events.filterMap Event.missed?, p ≠ miss.1)
    (dryRun : Bool) :
    Run.Alike logs (events.foldl (w.visitor host dryRun).act run)
      (w.processAll host dryRun (events.filterMap w.taken?)
        (missAll host (events.filterMap Event.missed?) run)) := by
  induction events generalizing run with
  | nil => exact .refl run
  | cons event events ih =>
    cases event with
    | missed p e =>
      have hshape : (missListing host p e run).world.tree.shape = run.world.tree.shape :=
        h.echo.keepsShape _ _ _
      refine ih (hready.of_shape hshape.symm (List.Subset.refl _)) ?_
      exact fun q hq miss hmiss => hne q hq miss (List.mem_cons_of_mem _ hmiss)
    | met c =>
      have hfiles : (Event.met c :: events).filterMap w.taken? =
          (w.taken? (.met c)).toList ++ events.filterMap w.taken? := by
        cases htaken : w.taken? (.met c) <;> simp [htaken]
      have hmissed : (Event.met c :: events).filterMap Event.missed? =
          events.filterMap Event.missed? := rfl
      rw [hfiles] at hready hne ⊢
      rw [hmissed] at hne ⊢
      have hmeet := meet_alike h c run dryRun
      have hnext := processAll_ready h hready dryRun
      have hrest := ih (hnext.of_alike hmeet.symm) fun p hp => hne p (List.mem_append_right _ hp)
      have hfirst := missAll_processAll h
        (hready.of_shape rfl (List.subset_append_left _ _)) (events.filterMap Event.missed?)
        (fun p hp => hne p (List.mem_append_left _ hp)) dryRun
      -- the files taken here move behind the directories that are missed later
      have hturn := (missAll_alike h (events.filterMap Event.missed?) hmeet).trans hfirst
      unfold processAll at hrest hturn ⊢
      rw [List.foldl_append]
      refine hrest.trans (processAll_alike h ?_ hturn dryRun)
      exact (hnext.of_alike hmeet.symm).of_shape
        (Tree.shape_of_masked (masked_missAll h _ _)).symm (List.Subset.refl _)

/-! ## The two phases -/

/-- Collects everything below a root first, and then formats the eligible files in that order.
Directories that could not be listed are noted while collecting. -/
def phased (w : Walker) (host : Host) (root : Path) (recursive dryRun : Bool) (world : World) :
    Run :=
  let survey := (Survey.take world.tree host.faults host.cwd root recursive true).state
  let noted := survey.unlisted.foldl (fun s miss => s.recordError miss.1 miss.2.message) .empty
  let files := (survey.candidates.filter fun c => c.isFile && w.eligible c.path).map Candidate.path
  files.foldl (fun run p => w.processFile host dryRun p run) ⟨world, noted⟩

theorem masked_start (h : host.echo.StaysIn logs) (root : Path) (world : World) :
    (start host root world).world.tree.masked logs = world.tree.masked logs := by
  unfold start announce
  split
  · exact World.masked_say h _
  · rfl

/-- Directories that are missed at the start are noted in an empty summary. -/
theorem missAll_start (h : host.echo.StaysIn logs) (missed : List (Path × SystemError))
    (root : Path) (world : World) :
    Run.Alike logs (missAll host missed (start host root world))
      ⟨world, missed.foldl (fun s miss => s.recordError miss.1 miss.2.message) .empty⟩ := by
  have hstart : Run.Alike logs (start host root world) ⟨world, .empty⟩ :=
    ⟨masked_start h root world, .refl _⟩
  generalize start host root world = run at hstart
  generalize Summary.empty = s at hstart
  induction missed generalizing run s with
  | nil => exact hstart
  | cons miss missed ih =>
    refine ih _ _ ⟨(World.masked_say h _).trans hstart.tree, ?_⟩
    exact hstart.summary.recordError miss.1 miss.2.message

/-- The files that a walk takes are the eligible ones among those that the traversal meets. -/
theorem taken?_eq_candidate (w : Walker) (events : List Event) : events.filterMap w.taken? =
    ((events.filterMap Event.candidate?).filter
      fun c => c.isFile && w.eligible c.path).map Candidate.path := by
  induction events with
  | nil => rfl
  | cons event events ih =>
    cases event with
    | missed p e => exact ih
    | met c =>
      cases hcond : c.isFile && w.eligible c.path with
      | false => simp [taken?, hcond, Event.candidate?, ih]
      | true => simp [taken?, hcond, Event.candidate?, ih]

theorem phased_eq_events (w : Walker) (host : Host) (root : Path) (recursive dryRun : Bool)
    (world : World) :
    let events := (world.tree.events host.faults host.cwd root recursive true).state
    w.phased host root recursive dryRun world =
      w.processAll host dryRun (events.filterMap w.taken?)
        ⟨world, (events.filterMap Event.missed?).foldl
          (fun s miss => s.recordError miss.1 miss.2.message) .empty⟩ := by
  intro events
  unfold phased
  rw [Survey.take_eq_events, taken?_eq_candidate]
  rfl

theorem met_of_taken? {event : Event} (h : w.taken? event = some p) :
    ∃ c, event = .met c ∧ c.isFile = true ∧ c.path = p := by
  cases event with
  | missed q e => cases h
  | met c =>
    simp only [taken?] at h
    split at h
    · next hcond =>
      cases h
      exact ⟨c, rfl, (Bool.and_eq_true_iff.mp hcond).1, rfl⟩
    · cases h

/-- No file that is taken is a directory that is missed. -/
theorem taken_ne_missed (hroot : world.tree.pathExists host.cwd root = .ok true)
    (w : Walker) (recursive : Bool) :
    let events := (world.tree.events host.faults host.cwd root recursive true).state
    ∀ p ∈ events.filterMap w.taken?, ∀ miss ∈ events.filterMap Event.missed?, p ≠ miss.1 := by
  intro events p hp miss hmiss
  obtain ⟨event, hmet, htaken⟩ := List.mem_filterMap.mp hp
  obtain ⟨c, rfl, hfile, rfl⟩ := met_of_taken? htaken
  obtain ⟨missed, hmissed, hpair⟩ := List.mem_filterMap.mp hmiss
  cases missed with
  | met => cases hpair
  | missed q e =>
    cases hpair
    exact Tree.met_ne_missed hroot hmet hfile hmissed

end Walker

/-- The walk came to the end of its traversal. -/
def Report.Finished (report : Report) : Prop :=
  report.failure? = none ∨ ∃ summary, report.failure? = some (.partialFailure summary)

namespace Walker

theorem exists_of_finished (h : (w.run host root recursive dryRun world).Finished) :
    world.tree.pathExists host.cwd root = .ok true := by
  unfold run at h
  cases hroot : world.tree.pathExists host.cwd root with
  | error e => simp [hroot, Report.Finished] at h
  | ok found =>
    cases found with
    | true => rfl
    | false => simp [hroot, Report.Finished] at h

/-- The files that a walk takes are files. -/
theorem isFile_of_mem_taken (h : w.KeepsShape host)
    (hcwd : ∃ mode, world.tree.Stands host.cwd (.dir mode))
    (hroot : world.tree.pathExists host.cwd root = .ok true)
    (hq : q ∈ w.taken host root recursive dryRun world) :
    world.tree.isFile host.cwd q = .ok true := by
  obtain ⟨htrace, -, -⟩ := trace_eq_events h hcwd root recursive dryRun
  unfold taken at hq
  rw [htrace] at hq
  obtain ⟨event, hevent, htaken⟩ := List.mem_filterMap.mp hq
  obtain ⟨c, rfl, hfile, rfl⟩ := met_of_taken? htaken
  have hkind := Tree.kind?_of_met hroot hevent
  have hkindFile : c.kind = .file := by simpa [Candidate.isFile] using hfile
  rwa [hkindFile, Tree.kind?_eq_file_iff] at hkind

/-- A walk is ready for the files that it takes if none of them is a log. -/
theorem start_ready (h : w.KeepsShape host)
    (hcwd : ∃ mode, world.tree.Stands host.cwd (.dir mode))
    (hroot : world.tree.pathExists host.cwd root = .ok true)
    (hlogs : ∀ q ∈ w.taken host root recursive dryRun world, ∀ found,
      world.tree.entryAt? host.cwd true q = .ok found → found.1 ∉ logs) :
    (start host root world).Ready host logs (w.taken host root recursive dryRun world) := by
  have hshape := shape_start h.echo root world
  refine ⟨Tree.Stands.dir_of_shape hshape.symm hcwd, fun q hq => ?_⟩
  have hsource : world.tree.IsSource logs host.cwd q :=
    ⟨isFile_of_mem_taken h hcwd hroot hq, hlogs q hq⟩
  exact hsource.of_shape hshape.symm

/-- The traversal of a walk, however it ends, does what the two phases do. -/
theorem visitor_run_alike (h : w.Steady host logs)
    (hcwd : ∃ mode, world.tree.Stands host.cwd (.dir mode))
    (hroot : world.tree.pathExists host.cwd root = .ok true)
    (hlogs : ∀ q ∈ w.taken host root recursive dryRun world, ∀ found,
      world.tree.entryAt? host.cwd true q = .ok found → found.1 ∉ logs) :
    Run.Alike logs
      ((w.visitor host dryRun).run host.faults host.cwd recursive root
        (start host root world)).state
      (w.phased host root recursive dryRun world) := by
  obtain ⟨htrace, hstate, -⟩ := trace_eq_events h.keepsShape hcwd root recursive dryRun
  have hready := start_ready h.keepsShape hcwd hroot hlogs
  rw [taken, htrace] at hready
  have hreplay := replay_alike h _ hready (taken_ne_missed hroot w recursive) dryRun
  rw [hstate, phased_eq_events]
  refine hreplay.trans (processAll_alike h ?_ (missAll_start h.echo _ root world) dryRun)
  exact hready.of_shape (Tree.shape_of_masked (masked_missAll h _ _)).symm (List.Subset.refl _)

theorem stopped_of_finished {progress : Progress Run} (h : (conclude progress).Finished) :
    progress.stopped = none := by
  rcases conclude_cases progress with ⟨-, hnone, -⟩ | ⟨-, hnone, -⟩ | ⟨e, hfailure, -⟩
  · exact hnone
  · exact hnone
  · simp [Report.Finished, hfailure] at h

/-- A walk that comes to the end of its traversal leaves the same tree and the same totals as
collecting everything in the tree it began with, and formatting the eligible files afterwards in
that order. What it meets on its way is what there was to meet at the beginning: nothing is passed
over, met again or discovered because of what was written. Logs may be kept meanwhile, if none of
them is formatted; what they say is left out of account. -/
theorem run_eq_phased (w : Walker) (host : Host) (root : Path) (recursive dryRun : Bool)
    (world : World) (logs : List Location) (hengine : w.gateway.ContentOnly)
    (hecho : host.echo.StaysIn logs) (hcwd : ∃ mode, world.tree.Stands host.cwd (.dir mode))
    (hlogs : ∀ q ∈ w.taken host root recursive dryRun world, ∀ found,
      world.tree.entryAt? host.cwd true q = .ok found → found.1 ∉ logs)
    (hfinished : (w.run host root recursive dryRun world).Finished) :
    let report := w.run host root recursive dryRun world
    let phases := w.phased host root recursive dryRun world
    let survey := Survey.take world.tree host.faults host.cwd root recursive true
    report.run.world.tree.masked logs = phases.world.tree.masked logs ∧
      (logs = [] → report.run.world.tree = phases.world.tree) ∧
      report.run.summary.Agrees phases.summary ∧
      (report.failure? = none ↔ phases.summary.failed = 0) ∧ survey.stopped = none ∧
      (w.trace host root recursive dryRun world).filterMap Event.candidate? =
        survey.state.candidates := by
  have hroot := exists_of_finished hfinished
  have hsteady : w.Steady host logs := ⟨hengine, hecho⟩
  obtain ⟨htrace, -, hstopped⟩ := trace_eq_events hsteady.keepsShape hcwd root recursive dryRun
  have halike := visitor_run_alike hsteady hcwd hroot hlogs
  rw [run_of_exists hroot] at hfinished ⊢
  have hnone := stopped_of_finished hfinished
  refine ⟨?_, ?_, ?_, ?_, ?_, ?_⟩
  · rw [conclude_run]
    exact halike.tree
  · rintro rfl
    rw [conclude_run]
    simpa using halike.tree
  · rw [conclude_run]
    exact halike.summary
  · simp [conclude, hnone, Summary.ok, halike.summary.failed]
  · rw [Survey.take_eq_events, ← hstopped, hnone]
  · rw [htrace, Survey.take_eq_events]

theorem finished_of_not_overlong (hkeep : w.KeepsShape host)
    (hcwd : ∃ mode, world.tree.Stands host.cwd (.dir mode))
    (hroot : world.tree.pathExists host.cwd root = .ok true)
    (hnone : ¬∃ q, world.tree.Overlong host.faults host.cwd recursive root q) :
    (w.run host root recursive dryRun world).Finished := by
  rcases run_cases hroot w recursive dryRun with
    ⟨hfailure, -⟩ | ⟨hfailure, -⟩ | ⟨path, hfailure⟩
  · exact Or.inl hfailure
  · exact Or.inr ⟨_, hfailure⟩
  · exact (hnone ((run_system_iff hkeep hcwd hroot recursive dryRun).mp ⟨_, hfailure⟩)).elim

theorem lineWalker_contentOnly : lineWalker.gateway.ContentOnly :=
  ⟨fun _ _ _ _ => rfl, fun _ _ _ => rfl, fun _ h => nomatch h⟩

theorem lineWalker_apply {text : String} (hblank : Text.isBlank text = false) (world : World) :
    (lineWalker.gateway.apply text world).1 = .ok ⟨text ++ "\n", true⟩ := by
  have hasked : (lineWalker.gateway.ask text world).1 = .ok (text ++ "\n") := rfl
  have hne : text ++ "\n" ≠ text := by simp
  simp [Gateway.apply_fst, hblank, hasked, Transformed.compare, hne]

theorem sourceWalker_steady (h : host.echo = .silent) : sourceWalker.Steady host [] :=
  ⟨lineWalker_contentOnly, h ▸ Echo.silent_staysIn []⟩

theorem mixedTree_finished {hidden : Bool} (h : w.KeepsShape host) (hcwd : host.cwd = [])
    (hlist : ∀ p, host.faults.list p = (hidden && p == ⟨.relative, ["p", "c"]⟩)) (dryRun : Bool) :
    (w.run host ⟨.relative, ["p"]⟩ true dryRun (World.ofTree mixedTree)).Finished := by
  refine finished_of_not_overlong h ?_ ?_ ?_ <;> rw [hcwd]
  · exact ⟨_, .top⟩
  · exact mixedTree_pathExists
  · exact (Tree.not_overlong_iff mixedTree_pathExists).mpr
      (congrArg Progress.stopped (mixedTree_events hlist))

/-- What is written on the way does not change what is met behind it. -/
theorem run_eq_phased_of_mixedTree :
    let report := sourceWalker.run mixedHost ⟨.relative, ["p"]⟩ true false (World.ofTree mixedTree)
    let phases := sourceWalker.phased mixedHost ⟨.relative, ["p"]⟩ true false
      (World.ofTree mixedTree)
    report.Finished ∧ report.run.world.tree = phases.world.tree ∧
      report.run.summary.Agrees phases.summary ∧
      (Survey.take mixedTree mixedFaults [] ⟨.relative, ["p"]⟩ true true).state.candidates =
        (mixedEvents true).filterMap Event.candidate? := by
  intro report phases
  have hsteady : sourceWalker.Steady mixedHost [] := sourceWalker_steady rfl
  have hfinished : report.Finished :=
    mixedTree_finished hsteady.keepsShape rfl mixedFaults_list false
  obtain ⟨-, hsame, hagrees, -, -, hmet⟩ := run_eq_phased sourceWalker mixedHost
    ⟨.relative, ["p"]⟩ true false (World.ofTree mixedTree) [] hsteady.gateway hsteady.echo
    ⟨_, .top⟩ (fun _ _ _ _ => List.not_mem_nil) hfinished
  rw [mixedTree_trace hsteady.keepsShape rfl mixedFaults_list] at hmet
  exact ⟨hfinished, hsame rfl, hagrees, hmet.symm⟩

end Walker
end BatchFormat
