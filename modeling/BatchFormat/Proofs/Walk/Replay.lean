import BatchFormat.Journal
import BatchFormat.Proofs.Traverse.Reach
import BatchFormat.Proofs.Tree.Masked
import BatchFormat.Walk

/-!
# A walk replays its tree

Replacing a file keeps the shape of the tree: the temporary file is gone before the next question
is asked, and links are written through to a file that stays one. So a walk meets what there was to
meet when it began, whatever it wrote meanwhile.
-/
namespace BatchFormat

variable {w : Walker} {host : Host} {world : World} {run : Run} {p root : Path}
  {recursive dryRun : Bool} {content : String}

/-- Replacing what is a file keeps the shape of the tree. -/
theorem Tree.shape_replace {t : Tree} {faults : Faults} {marks : List String} {cwd : Location}
    (hcwd : ∃ mode, t.Stands cwd (.dir mode)) (hfile : t.isFile cwd p = .ok true) :
    (t.replace faults marks cwd p content).2.shape = t.shape := by
  rcases replace_cases t faults marks cwd p content with
    ⟨e, hfail⟩ | ⟨real, place, old, followed, htarget, hdone⟩
  · rw [hfail]
  · obtain ⟨there, entry, hentry, hisFile⟩ := entryAt?_of_test hfile
    obtain ⟨-, hold, hlink⟩ := htarget.of_entry hcwd hentry
    have hfollowed := (htarget.eq_followed hlink).2
    rw [hdone]
    refine shape_put_of_blank_eq htarget.below htarget.stands.get?_eq ?_
    subst hfollowed
    change entry = followed at hold
    subst hold
    cases entry with
    | file bytes mode => rfl
    | dir | link | fifo => cases hisFile

namespace Host

/-- The marks drawn for a file are those that there are. -/
theorem mem_draw (host : Host) {mark : String} : mark ∈ host.draw p ↔ mark ∈ host.marks :=
  (host.draw_perm p).mem_iff

theorem size_of_mem_draw (host : Host) : ∀ mark ∈ host.draw p, mark.utf8ByteSize = 8 :=
  fun mark hmark => host.marks_size mark (host.mem_draw.mp hmark)

end Host

/-! ## What the parts of a walk leave alone -/

/-- Copies of the log go to files that are there already. -/
def Echo.KeepsShape (echo : Echo) : Prop := ∀ replaced r t, (echo replaced r t).shape = t.shape

/-- Copies of the log go to the log files and nowhere else. -/
def Echo.StaysIn (echo : Echo) (logs : List Location) : Prop :=
  ∀ replaced r t, (echo replaced r t).masked logs = t.masked logs

theorem Echo.StaysIn.keepsShape {echo : Echo} {logs : List Location} (h : echo.StaysIn logs) :
    echo.KeepsShape := fun replaced r t => Tree.shape_of_masked (h replaced r t)

theorem Echo.silent_staysIn (logs : List Location) : Echo.silent.StaysIn logs :=
  fun _ _ _ => rfl

/-- A journal adds lines to its files. -/
theorem Journal.echo_staysIn (j : Journal) (stamp : String) :
    (j.echo stamp).StaysIn (j.files.map LogFile.place) := by
  have happend : ∀ text place t, place ∈ j.files.map LogFile.place →
      (append text place t).masked (j.files.map LogFile.place) =
        t.masked (j.files.map LogFile.place) := by
    intro text place t hlog
    unfold append
    split
    · next bytes mode hget =>
      have hplace : place ≠ [] := by
        rintro rfl
        cases hget
      exact Tree.masked_put_of_mem hlog hplace hget rfl
    · rfl
  intro replaced r t
  unfold echo
  split
  · refine List.foldlRecOn (motive := fun after : Tree => after.masked _ = t.masked _) j.files _
      rfl fun after hafter f hf => ?_
    split
    · exact (happend _ _ _ (List.mem_map_of_mem hf)).trans hafter
    · exact hafter
  · rfl

/-- Neither the engine nor the sink adds, removes or moves anything. -/
structure Gateway.KeepsShape (g : Gateway) : Prop where
  engine : ∀ settings content (world : World),
    (g.engine.transform settings content world).2.tree.shape = world.tree.shape
  sink : ∀ sink ∈ g.sink?, ∀ r (world : World), (sink r world).tree.shape = world.tree.shape

/-- What the engine leaves behind when there is something to ask, and the sink keeps, holds when the
gateway is done with a text. -/
theorem Gateway.after_apply {g : Gateway} {I : World → Prop} {content : String}
    (hblank : Text.isBlank content = true → I world)
    (hask : Text.isBlank content = false → I (g.ask content world).2)
    (hsink : ∀ sink ∈ g.sink?, ∀ r after, I after → I (sink r after)) :
    I (g.apply content world).2 := by
  unfold Gateway.apply
  split
  · next hempty => exact hblank hempty
  · next hfull =>
    have hasked := hask (Bool.eq_false_iff.mpr hfull)
    split
    · next hanswer => rwa [hanswer] at hasked
    · next r after hanswer =>
      rw [hanswer] at hasked
      unfold Gateway.report
      cases hsome : g.sink? with
      | none => exact hasked
      | some sink => exact hsink sink hsome r after hasked
    · next hanswer => rwa [hanswer] at hasked

/-- What neither the engine nor the sink breaks, the gateway does not break. -/
theorem Gateway.apply_tree {g : Gateway} {I : Tree → Prop}
    (hengine : ∀ settings content (world : World), I world.tree →
      I (g.engine.transform settings content world).2.tree)
    (hsink : ∀ sink ∈ g.sink?, ∀ r (world : World), I world.tree → I (sink r world).tree)
    (content : String) (h : I world.tree) : I (g.apply content world).2.tree :=
  Gateway.after_apply (I := fun after => I after.tree) (fun _ => h) (fun _ => hengine _ _ _ h) hsink

theorem Gateway.KeepsShape.apply {g : Gateway} (h : g.KeepsShape) (content : String)
    (world : World) : (g.apply content world).2.tree.shape = world.tree.shape :=
  Gateway.apply_tree (I := fun t => t.shape = world.tree.shape)
    (fun _ _ _ hsame => (h.engine _ _ _).trans hsame)
    (fun sink hsink _ _ hsame => (h.sink sink hsink _ _).trans hsame) content rfl

theorem World.shape_say (h : host.echo.KeepsShape) (r : Record) :
    (world.say host r).tree.shape = world.tree.shape := h _ _ _

theorem World.shape_replaceFile (hcwd : ∃ mode, world.tree.Stands host.cwd (.dir mode))
    (hfile : world.tree.isFile host.cwd p = .ok true) :
    (world.replaceFile host p content).2.tree.shape = world.tree.shape := by
  have hreplace : (world.tree.replace host.faults (host.draw p) host.cwd p content).2.shape =
      world.tree.shape := Tree.shape_replace hcwd hfile
  unfold World.replaceFile
  split
  · next hdone =>
    rw [hdone] at hreplace
    exact hreplace
  · next hfail =>
    rw [hfail] at hreplace
    exact hreplace

namespace Walker

/-- The engine, the sink and the log leave the shape of the tree alone. -/
structure KeepsShape (w : Walker) (host : Host) : Prop where
  gateway : w.gateway.KeepsShape
  echo : host.echo.KeepsShape

/-- What holds of a file that cannot be read and of what the gateway makes of its text, and is kept
by a replacement of the file, holds when the attempt at the file is over. -/
theorem after_attempt {I : World → Prop}
    (hread : ∀ e, world.tree.readText host.faults host.cwd p = .error e → I world)
    (happly : ∀ text, world.tree.readText host.faults host.cwd p = .ok text →
      I (w.gateway.apply text world).2)
    (hreplace : dryRun = false → ∀ content after, I after →
      I (after.replaceFile host p content).2) :
    I (w.attempt host dryRun p world).2 := by
  unfold attempt
  split
  · next e hfail => exact hread e hfail
  · next text htext =>
    have hasked := happly text htext
    split
    · next hanswer => rwa [hanswer] at hasked
    · next result after hanswer =>
      rw [hanswer] at hasked
      split
      · next hwrite =>
        have hreal : dryRun = false := by simpa using (Bool.and_eq_true_iff.mp hwrite).2
        have hreplaced := hreplace hreal result.content after hasked
        split
        · next hfail => rwa [hfail] at hreplaced
        · next hdone => rwa [hdone] at hreplaced
      · exact hasked

theorem shape_attempt (h : w.KeepsShape host)
    (hcwd : ∃ mode, world.tree.Stands host.cwd (.dir mode))
    (hfile : world.tree.isFile host.cwd p = .ok true) :
    (w.attempt host dryRun p world).2.tree.shape = world.tree.shape :=
  after_attempt (I := fun after => after.tree.shape = world.tree.shape) (fun _ _ => rfl)
    (fun text _ => h.gateway.apply text world) fun _ _ _ hsame =>
      (World.shape_replaceFile (Tree.Stands.dir_of_shape hsame.symm hcwd)
        ((Tree.isFile_of_shape hsame).trans hfile)).trans hsame

/-- To process a file changes no more than texts. -/
theorem shape_processFile (h : w.KeepsShape host)
    (hcwd : ∃ mode, run.world.tree.Stands host.cwd (.dir mode))
    (hfile : run.world.tree.isFile host.cwd p = .ok true) :
    (w.processFile host dryRun p run).world.tree.shape = run.world.tree.shape := by
  have hsay : ∀ (r : Record) (world : World), (world.say host r).tree.shape = world.tree.shape :=
    fun r world => World.shape_say h.echo r
  unfold processFile
  simp only
  generalize hworld : run.world.say host (.debug s!"Formatting file: {host.shown p}") = world
  have hsaid : world.tree.shape = run.world.tree.shape := hworld ▸ hsay _ _
  have hattempt : (w.attempt host dryRun p world).2.tree.shape = world.tree.shape :=
    shape_attempt h (Tree.Stands.dir_of_shape hsaid.symm hcwd)
      ((Tree.isFile_of_shape hsaid).trans hfile)
  split
  · next hfail =>
    rw [hfail] at hattempt
    exact (hsay _ _).trans (hattempt.trans hsaid)
  · next hdone =>
    rw [hdone] at hattempt
    exact (hsay _ _).trans (hattempt.trans hsaid)

/-- The turn of an entry changes no more than texts. -/
theorem shape_meet (h : w.KeepsShape host)
    (hcwd : ∃ mode, run.world.tree.Stands host.cwd (.dir mode)) {c : Candidate}
    (hkind : run.world.tree.kind? host.cwd c.path = .ok (some c.kind)) :
    (w.meet host dryRun c run).world.tree.shape = run.world.tree.shape := by
  unfold meet
  split
  · rfl
  · next hfile =>
    have hkindFile : c.kind = .file := by simpa [Candidate.isFile] using hfile
    rw [hkindFile, Tree.kind?_eq_file_iff] at hkind
    split
    · exact shape_processFile h hcwd hkind
    · exact World.shape_say h.echo _

/-- Nothing that a walk does changes the shape of the tree. -/
theorem visitor_keepsShape (h : w.KeepsShape host) {start : Run}
    (hcwd : ∃ mode, start.world.tree.Stands host.cwd (.dir mode)) :
    (w.visitor host dryRun).KeepsShape host.cwd start where
  visit := fun c run hshape hkind =>
    shape_meet h (Tree.Stands.dir_of_shape hshape.symm hcwd)
      ((Tree.kind?_of_shape hshape).trans hkind)
  unlisted := by
    rintro pass hpass p e run
    cases hpass
    exact World.shape_say h.echo _

/-! ## The whole walk -/

/-- What a walk begins with: nothing is counted, and a directory is announced. -/
def start (host : Host) (root : Path) (world : World) : Run :=
  ⟨announce host root (world.tree.isDir host.cwd root matches .ok true) world, .empty⟩

/-- What happens on a walk, in order. -/
def trace (w : Walker) (host : Host) (root : Path) (recursive dryRun : Bool) (world : World) :
    List Event :=
  ((w.visitor host dryRun).traced.run host.faults host.cwd recursive root
    (start host root world, [])).state.2

/-- The file that is processed on an event, if any: one that is met and eligible. -/
def taken? (w : Walker) : Event → Option Path
  | .met c => if c.isFile && w.eligible c.path then some c.path else none
  | .missed .. => none

/-- The files that a walk processes, in order. -/
def taken (w : Walker) (host : Host) (root : Path) (recursive dryRun : Bool) (world : World) :
    List Path :=
  (w.trace host root recursive dryRun world).filterMap w.taken?

theorem run_of_exists (hroot : world.tree.pathExists host.cwd root = .ok true) :
    w.run host root recursive dryRun world =
      conclude ((w.visitor host dryRun).run host.faults host.cwd recursive root
        (start host root world)) := by
  obtain ⟨isDir, hdir⟩ : ∃ b, world.tree.isDir host.cwd root = .ok b := Tree.test_ok hroot _
  unfold run start
  rw [hroot, hdir]
  cases isDir <;> rfl

theorem shape_start (h : host.echo.KeepsShape) (root : Path) (world : World) :
    (start host root world).world.tree.shape = world.tree.shape := by
  unfold start announce
  split
  · exact World.shape_say h _
  · rfl

theorem processed_processFile :
    (w.processFile host dryRun p run).summary.processed = run.summary.processed + 1 := by
  unfold processFile
  simp only
  split
  · rfl
  · split <;> rfl

theorem processed_meet (c : Candidate) :
    (w.meet host dryRun c run).summary.processed =
      run.summary.processed + (if c.isFile && w.eligible c.path then 1 else 0) := by
  unfold meet
  cases hfile : c.isFile with
  | false => rfl
  | true =>
    cases heligible : w.eligible c.path with
    | false => rfl
    | true => exact processed_processFile

/-- A walk counts the files that it processes. -/
theorem processed_eq_length_taken (w : Walker) (host : Host) (root : Path)
    (recursive dryRun : Bool) (world : World) :
    ((w.visitor host dryRun).run host.faults host.cwd recursive root
        (start host root world)).state.summary.processed =
      (w.taken host root recursive dryRun world).length := by
  rw [← ((w.visitor host dryRun).traced_run_fst _ _ _ root (start host root world) []).1]
  unfold taken trace
  refine Visitor.run_invariant (I := fun noted : Run × List Event =>
    noted.1.summary.processed = (noted.2.filterMap w.taken?).length) ?_ ?_ root rfl
  · rintro c ⟨run, events⟩ hcount
    change (w.meet host dryRun c run).summary.processed = _
    simp only at hcount
    rw [processed_meet, hcount]
    simp only [Visitor.traced, List.filterMap_append, List.length_append]
    cases hcond : c.isFile && w.eligible c.path <;> simp [hcond, taken?]
  · rintro pass hpass p e ⟨run, events⟩ hcount
    cases hpass
    have hnone : w.taken? (.missed p e) = none := rfl
    simpa [missListing, Summary.recordError, List.filterMap_append, hnone] using hcount

/-- Whatever a walk writes, it meets what there was to meet in the tree it began with, and does
with each of these in turn what it does with them. -/
theorem trace_eq_events (h : w.KeepsShape host)
    (hcwd : ∃ mode, world.tree.Stands host.cwd (.dir mode)) (root : Path)
    (recursive dryRun : Bool) :
    let events := world.tree.events host.faults host.cwd root recursive true
    let progress := (w.visitor host dryRun).run host.faults host.cwd recursive root
      (start host root world)
    w.trace host root recursive dryRun world = events.state ∧
      progress.state = events.state.foldl (w.visitor host dryRun).act (start host root world) ∧
      progress.stopped = events.stopped := by
  have hshape := shape_start h.echo root world
  have hkeep : (w.visitor host dryRun).KeepsShape host.cwd (start host root world) :=
    visitor_keepsShape h (Tree.Stands.dir_of_shape hshape.symm hcwd)
  obtain ⟨hstate, hstopped⟩ := Visitor.traced_run_eq host.faults recursive root hkeep
  obtain ⟨hfst, hsame⟩ := (w.visitor host dryRun).traced_run_fst host.faults host.cwd recursive
    root (start host root world) []
  have hevents : ((w.visitor host dryRun).tree (start host root world)).events host.faults host.cwd
      root recursive (w.visitor host dryRun).unlisted?.isSome =
      world.tree.events host.faults host.cwd root recursive true :=
    Tree.events_of_shape hshape root
  rw [hevents] at hstate hstopped
  refine ⟨?_, ?_, ?_⟩
  · exact congrArg Prod.snd hstate
  · exact hfst.symm.trans (congrArg Prod.fst hstate)
  · exact hsame.symm.trans hstopped

end Walker
end BatchFormat
