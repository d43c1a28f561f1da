import BatchFormat.Proofs.Text.Utf8
import BatchFormat.Proofs.Traverse.Once
import BatchFormat.Proofs.Tree.Files
import BatchFormat.Proofs.Walk.Phases

/-!
# One turn of a walk

What a walk does about one event of its traversal: it notes a directory that cannot be listed,
passes over a candidate, or attempts a file. What an attempt comes to depends on the bytes of the
file and on the shape of the tree, and it changes the bytes of that file at most. So turns that
have nothing to do with a file leave it as it is.
-/
namespace BatchFormat

variable {w w' : Walker} {host : Host} {world world' : World} {run : Run} {p q root : Path}
  {recursive dryRun : Bool} {logs : List Location} {place : Location} {bytes : Bytes} {mode : Nat}
  {event : Event} {events : List Event} {ending : Except Failure Transformed} {after : Tree}

/-- What the gateway makes of the bytes of a file. -/
def Gateway.format (g : Gateway) (bytes : Bytes) (world : World) : Except Failure Transformed :=
  match Text.decode bytes with
  | .error flaw => .error (.notUtf8 flaw)
  | .ok text => (g.apply text world).1

theorem Gateway.ContentOnly.format {g : Gateway} (h : g.ContentOnly) (bytes : Bytes)
    (world world' : World) : g.format bytes world = g.format bytes world' := by
  unfold Gateway.format
  split
  · rfl
  · exact (h.apply _ world world').1

/-- What was formatted and changed is no longer what it was. -/
theorem Gateway.encode_ne_of_format {g : Gateway} {result : Transformed}
    (h : g.format bytes world = .ok result) (hchanged : result.changed = true) :
    Text.encode result.content ≠ bytes := by
  rintro rfl
  simp only [Gateway.format, Text.decode_encode, Gateway.apply_fst] at h
  split at h
  · rw [← Except.ok.inj h] at hchanged
    cases hchanged
  · split at h
    · next answer _ =>
      have hresult := Except.ok.inj h
      have hcontent : answer = result.content := congrArg Transformed.content hresult
      rw [← hresult, hcontent] at hchanged
      simp [Transformed.compare] at hchanged
    · rw [← Except.ok.inj h] at hchanged
      cases hchanged
    · cases h

namespace Walker

/-! ## One attempt -/

/-- What an attempt at a file can come to: how it ends, and the tree that it leaves. -/
inductive Attempted (w : Walker) (host : Host) (dryRun : Bool) (p : Path) (world : World)
    (place : Location) (bytes : Bytes) (mode : Nat) : Except Failure Transformed → Tree → Prop
  | denied (hread : host.faults.read p = true) :
    Attempted w host dryRun p world place bytes mode
      (.error (.system (.refused .denied p.text))) world.tree
  | failed {e : Failure} (hread : host.faults.read p = false)
    (hformat : w.gateway.format bytes world = .error e) :
    Attempted w host dryRun p world place bytes mode (.error e) world.tree
  | spared {result : Transformed} (hread : host.faults.read p = false)
    (hformat : w.gateway.format bytes world = .ok result)
    (hspare : (result.changed && !dryRun) = false) :
    Attempted w host dryRun p world place bytes mode (.ok result) world.tree
  | refused {result : Transformed} {e : SystemError} (hread : host.faults.read p = false)
    (hformat : w.gateway.format bytes world = .ok result)
    (hwrite : (result.changed && !dryRun) = true)
    (hreplace : world.tree.replace host.faults (host.draw p) host.cwd p result.content =
      (.error e, world.tree)) :
    Attempted w host dryRun p world place bytes mode (.error (.system e)) world.tree
  | written {result : Transformed} (hread : host.faults.read p = false)
    (hformat : w.gateway.format bytes world = .ok result)
    (hwrite : (result.changed && !dryRun) = true)
    (hreplace : world.tree.replace host.faults (host.draw p) host.cwd p result.content =
      (.ok place, world.tree.put place (.file (Text.encode result.content) mode))) :
    Attempted w host dryRun p world place bytes mode (.ok result)
      (world.tree.put place (.file (Text.encode result.content) mode))

/-- Each attempt at a file that can be reached ends in one of these ways. -/
theorem attempt_spec (h : w.gateway.ContentOnly)
    (hcwd : ∃ mode, world.tree.Stands host.cwd (.dir mode))
    (hfile : world.tree.entryAt? host.cwd true p = .ok (place, .file bytes mode))
    (dryRun : Bool) :
    Attempted w host dryRun p world place bytes mode (w.attempt host dryRun p world).1
      (w.attempt host dryRun p world).2.tree := by
  unfold attempt Tree.readText Tree.readBytes
  cases hread : host.faults.read p with
  | true => exact .denied hread
  | false =>
    simp only [hfile, Bool.false_eq_true, if_false]
    cases hdecode : Text.decode bytes with
    | error flaw => exact .failed hread (by rw [Gateway.format, hdecode])
    | ok text =>
      have hformat : w.gateway.format bytes world = (w.gateway.apply text world).1 := by
        rw [Gateway.format, hdecode]
      have htree : (w.gateway.apply text world).2.tree = world.tree := (h.apply text world world).2
      simp only
      generalize w.gateway.apply text world = applied at hformat htree
      obtain ⟨outcome, after⟩ := applied
      change after.tree = world.tree at htree
      change _ = outcome at hformat
      cases outcome with
      | error e => exact htree ▸ .failed hread hformat
      | ok result =>
        simp only
        cases hwrite : result.changed && !dryRun with
        | false => exact htree ▸ .spared hread hformat hwrite
        | true =>
          unfold World.replaceFile
          simp only [if_true, htree]
          rcases Tree.replace_file hcwd hfile host.faults (host.draw p) result.content with
            ⟨e, hreplace⟩ | hreplace
          · rw [hreplace]
            exact .refused hread hformat hwrite hreplace
          · rw [hreplace]
            exact .written hread hformat hwrite hreplace

/-- How an attempt at a file with these bytes ends. -/
def outcome (w : Walker) (host : Host) (dryRun : Bool) (p : Path) (bytes : Bytes)
    (world : World) : Except Failure Transformed :=
  if host.faults.read p then .error (.system (.refused .denied p.text))
  else
    match w.gateway.format bytes world with
    | .error e => .error e
    | .ok result =>
      if result.changed && !dryRun then
        match (world.tree.replace host.faults (host.draw p) host.cwd p result.content).1 with
        | .error e => .error (.system e)
        | .ok _ => .ok result
      else .ok result

/-- How an attempt ends depends on the bytes of the file, and not on what was done before. -/
theorem Attempted.eq_outcome
    (h : Attempted w host dryRun p world place bytes mode ending after) :
    ending = w.outcome host dryRun p bytes world := by
  unfold outcome
  cases h with
  | denied hread => rw [if_pos hread]
  | failed hread hformat => simp only [hread, hformat, Bool.false_eq_true, if_false]
  | spared hread hformat hspare =>
    simp only [hread, hformat, hspare, Bool.false_eq_true, if_false]
  | refused hread hformat hwrite hreplace =>
    simp only [hread, hformat, hwrite, hreplace, Bool.false_eq_true, if_false, if_true]
  | written hread hformat hwrite hreplace =>
    simp only [hread, hformat, hwrite, hreplace, Bool.false_eq_true, if_false, if_true]

/-- It depends on the shape of the tree, and on nothing else in the world. -/
theorem outcome_of_shape (h : w.gateway.ContentOnly)
    (hshape : world.tree.shape = world'.tree.shape) (dryRun : Bool) (p : Path) (bytes : Bytes) :
    w.outcome host dryRun p bytes world = w.outcome host dryRun p bytes world' := by
  unfold outcome
  rw [h.format bytes world world']
  split
  · rfl
  · split
    · rfl
    · rw [Tree.replace_fst_of_shape hshape]

def changes : Except Failure Transformed → Bool
  | .ok result => result.changed
  | .error _ => false

theorem changes_eq_true_iff :
    changes ending = true ↔ ∃ result, ending = .ok result ∧ result.changed = true := by
  cases ending <;> simp [changes]

def left (dryRun : Bool) (bytes : Bytes) : Except Failure Transformed → Bytes
  | .error _ => bytes
  | .ok result => if result.changed && !dryRun then Text.encode result.content else bytes

theorem left_of_not_changes (h : changes ending = false) : left dryRun bytes ending = bytes := by
  cases ending with
  | error e => rfl
  | ok result => simp [left, show result.changed = false from h]

theorem Attempted.format {result : Transformed}
    (h : Attempted w host dryRun p world place bytes mode (.ok result) after) :
    w.gateway.format bytes world = .ok result := by
  cases h with
  | spared hread hformat => exact hformat
  | written hread hformat => exact hformat

/-- What an attempt leaves in its own file. -/
theorem Attempted.get?_self
    (h : Attempted w host dryRun p world place bytes mode ending after)
    (hget : world.tree.get? place = some (.file bytes mode)) :
    after.get? place = some (.file (left dryRun bytes ending) mode) := by
  cases h with
  | denied | failed | refused => exact hget
  | spared hread hformat hspare =>
    simp only [left, hspare, Bool.false_eq_true, if_false]
    exact hget
  | written hread hformat hwrite =>
    simp only [left, hwrite, if_true]
    exact Tree.get?_put_self (Tree.place_ne_nil_of_file hget)

/-- An attempt changes one file at most, and nothing but its bytes. -/
theorem Attempted.get?_of_ne
    (h : Attempted w host dryRun p world place bytes mode ending after) {other : Location}
    (hne : other ≠ place) : after.get? other = world.tree.get? other := by
  cases h with
  | denied | failed | spared | refused => rfl
  | written => exact Tree.get?_put_of_ne hne

/-- An attempt that changes nothing leaves the tree as it is. -/
theorem Attempted.eq_tree
    (h : Attempted w host dryRun p world place bytes mode ending after)
    (hsame : changes ending = false) : after = world.tree := by
  cases h with
  | denied | failed | spared | refused => rfl
  | written hread hformat hwrite =>
    simp only [changes] at hsame
    simp [hsame] at hwrite

/-! ## One turn -/

end Walker

/-- What an event adds to the totals, if this is how an attempt at each file ends. -/
def Summary.enter (w : Walker) (outcome : Path → Except Failure Transformed) (s : Summary) :
    Event → Summary
  | .missed p e => s.recordError p e.message
  | .met c => if c.isFile && w.eligible c.path then s.book c.path (outcome c.path) else s

/-- A file that a run is ready for is no log. -/
theorem Run.Ready.file {files : List Path} (h : run.Ready host logs files) (hp : p ∈ files) :
    ∃ place bytes mode, place ∉ logs ∧
      run.world.tree.entryAt? host.cwd true p = .ok (place, .file bytes mode) := by
  have hsource := h.sources p hp
  obtain ⟨place, bytes, mode, hfile⟩ := Tree.exists_file hsource.isFile
  exact ⟨place, bytes, mode, hsource.apart _ hfile, hfile⟩

theorem Run.Ready.head (h : run.Ready host logs ((event :: events).filterMap w.taken?)) :
    run.Ready host logs (w.taken? event).toList :=
  h.of_shape rfl fun p hp => by
    have htaken : w.taken? event = some p := by simpa using hp
    simp [htaken]

theorem Run.Ready.tail {after : Run}
    (h : run.Ready host logs ((event :: events).filterMap w.taken?))
    (hshape : after.world.tree.shape = run.world.tree.shape) :
    after.Ready host logs (events.filterMap w.taken?) :=
  h.of_shape hshape.symm fun p hp => by
    cases htaken : w.taken? event <;> simp_all

namespace Walker

/-- The world after an event, with the log files left out of account, and the totals, both told from
an attempt with a gateway that is alike. -/
theorem act_eq_of_alike (h : w.gateway.Alike w'.gateway logs) (hecho : host.echo.StaysIn logs)
    (hready : run.Ready host logs (w.taken? event).toList) (dryRun : Bool) :
    ((w.visitor host dryRun).act run event).summary =
        run.summary.enter w (fun p => (w'.attempt host dryRun p run.world).1) event ∧
      ((w.visitor host dryRun).act run event).world.tree.masked logs =
        ((w.taken? event).elim run.world.tree
          fun p => (w'.attempt host dryRun p run.world).2.tree).masked logs := by
  cases event with
  | missed p e => exact ⟨rfl, World.masked_say hecho _⟩
  | met c =>
    change (w.meet host dryRun c run).summary = _ ∧
      (w.meet host dryRun c run).world.tree.masked _ = _
    cases hfile : c.isFile with
    | false => simp [meet, Summary.enter, taken?, hfile]
    | true =>
      cases heligible : w.eligible c.path with
      | false =>
        simp only [meet, Summary.enter, taken?, hfile, heligible]
        exact ⟨rfl, World.masked_say hecho _⟩
      | true =>
        have htaken : w.taken? (.met c) = some c.path := by simp [taken?, hfile, heligible]
        have hsource := hready.sources c.path (by simp [htaken])
        obtain ⟨htree, hsummary⟩ := processFile_eq_of_alike h hecho hsource dryRun
        simp only [meet, Summary.enter, htaken, hfile, heligible]
        exact ⟨hsummary, htree⟩

theorem act_eq (h : w.Steady host logs) (hready : run.Ready host logs (w.taken? event).toList)
    (dryRun : Bool) :
    ((w.visitor host dryRun).act run event).summary =
        run.summary.enter w (fun p => (w.attempt host dryRun p run.world).1) event ∧
      ((w.visitor host dryRun).act run event).world.tree.masked logs =
        ((w.taken? event).elim run.world.tree
          fun p => (w.attempt host dryRun p run.world).2.tree).masked logs :=
  act_eq_of_alike (h.gateway.alike logs) h.echo hready dryRun

/-- On an event nothing is added, removed or moved. -/
theorem shape_act (h : w.KeepsShape host)
    (hready : run.Ready host logs (w.taken? event).toList) (dryRun : Bool) :
    ((w.visitor host dryRun).act run event).world.tree.shape = run.world.tree.shape := by
  cases event with
  | missed p e => exact World.shape_say h.echo _
  | met c =>
    change (w.meet host dryRun c run).world.tree.shape = _
    cases hfile : c.isFile with
    | false => simp [meet, hfile]
    | true =>
      cases heligible : w.eligible c.path with
      | false =>
        simp only [meet, hfile, heligible]
        exact World.shape_say h.echo _
      | true =>
        have hsource := hready.sources c.path (by simp [taken?, hfile, heligible])
        simp only [meet, hfile, heligible]
        exact shape_processFile h hready.cwd hsource.isFile

/-- A file that the attempt has nothing to do with stays as it is. -/
theorem get?_act (h : w.Steady host logs) (hready : run.Ready host logs (w.taken? event).toList)
    (dryRun : Bool) (hlog : place ∉ logs)
    (hapart : ∀ p ∈ w.taken? event, run.world.tree.leadsTo host.cwd place p = false) :
    ((w.visitor host dryRun).act run event).world.tree.get? place =
      run.world.tree.get? place := by
  refine (Tree.get?_eq_of_masked (act_eq h hready dryRun).2 hlog).trans ?_
  cases htaken : w.taken? event with
  | none => rfl
  | some p =>
    obtain ⟨there, bytes, mode, -, hfile⟩ := hready.file (p := p) (by simp [htaken])
    have hne : place ≠ there := by
      intro heq
      have hleads := (Tree.leadsTo_of_file hfile).mpr heq
      simp [hapart p htaken] at hleads
    exact (attempt_spec h.gateway hready.cwd hfile dryRun).get?_of_ne hne

/-! ## Many turns -/

/-- A run after some events, one after the other. -/
def replay (w : Walker) (host : Host) (dryRun : Bool) (events : List Event) (run : Run) : Run :=
  events.foldl (w.visitor host dryRun).act run

theorem replay_cons (event : Event) (events : List Event) (run : Run) :
    w.replay host dryRun (event :: events) run =
      w.replay host dryRun events ((w.visitor host dryRun).act run event) := rfl

theorem replay_append (events more : List Event) (run : Run) :
    w.replay host dryRun (events ++ more) run =
      w.replay host dryRun more (w.replay host dryRun events run) :=
  List.foldl_append

theorem shape_replay (h : w.KeepsShape host)
    (hready : run.Ready host logs (events.filterMap w.taken?)) (dryRun : Bool) :
    (w.replay host dryRun events run).world.tree.shape = run.world.tree.shape := by
  induction events generalizing run with
  | nil => rfl
  | cons event events ih =>
    have hshape := shape_act h hready.head dryRun
    exact (ih (hready.tail hshape)).trans hshape

/-- What no path of a walk leads to stays as it is. -/
theorem get?_replay (h : w.Steady host logs)
    (hready : run.Ready host logs (events.filterMap w.taken?)) (dryRun : Bool)
    (hlog : place ∉ logs)
    (hapart : ∀ p ∈ events.filterMap w.taken?,
      run.world.tree.leadsTo host.cwd place p = false) :
    (w.replay host dryRun events run).world.tree.get? place = run.world.tree.get? place := by
  induction events generalizing run with
  | nil => rfl
  | cons event events ih =>
    have hshape := shape_act h.keepsShape hready.head dryRun
    refine (ih (hready.tail hshape) ?_).trans (get?_act h hready.head dryRun hlog ?_)
    · intro p hp
      obtain ⟨later, hlater, htaken⟩ := List.mem_filterMap.mp hp
      rw [Tree.leadsTo_of_shape hshape]
      exact hapart p (List.mem_filterMap.mpr ⟨later, List.mem_cons_of_mem _ hlater, htaken⟩)
    · intro p hp
      exact hapart p (List.mem_filterMap.mpr ⟨event, List.mem_cons_self, hp⟩)

/-! ## The whole walk -/

/-- What there is to do for a walk: the events of the tree, if the root exists. -/
def course (host : Host) (root : Path) (recursive : Bool) (t : Tree) : List Event :=
  match t.pathExists host.cwd root with
  | .ok true => (t.events host.faults host.cwd root recursive true).state
  | _ => []

/-- What a walk begins with; if the root does not exist, it is also what it ends with. -/
def begun (host : Host) (root : Path) (world : World) : Run :=
  match world.tree.pathExists host.cwd root with
  | .ok true => start host root world
  | _ => ⟨world, .empty⟩

theorem summary_begun : (begun host root world).summary = .empty := by
  unfold begun
  split <;> rfl

theorem masked_begun (h : host.echo.StaysIn logs) (root : Path) (world : World) :
    (begun host root world).world.tree.masked logs = world.tree.masked logs := by
  unfold begun
  split
  · exact masked_start h root world
  · rfl

theorem course_of_not_exists {t : Tree} (h : t.pathExists host.cwd root ≠ .ok true)
    (recursive : Bool) : course host root recursive t = [] := by
  unfold course
  split
  · next hexists => exact (h hexists).elim
  · rfl

theorem course_of_shape {t u : Tree} (h : t.shape = u.shape) (host : Host) (root : Path)
    (recursive : Bool) : course host root recursive t = course host root recursive u := by
  have hexists : t.pathExists host.cwd root = u.pathExists host.cwd root :=
    Tree.test_of_shape h fun _ => rfl
  unfold course
  rw [hexists, Tree.events_of_shape h]

section

variable (h : w.KeepsShape host) (hcwd : ∃ mode, world.tree.Stands host.cwd (.dir mode))
include h hcwd

/-- A walk, however it ends, takes its course. -/
theorem run_eq_course (root : Path) (recursive dryRun : Bool) :
    (w.run host root recursive dryRun world).run =
      w.replay host dryRun (course host root recursive world.tree) (begun host root world) := by
  unfold course begun
  split
  · next hroot =>
    rw [run_of_exists hroot, conclude_run,
      (trace_eq_events h hcwd root recursive dryRun).2.1]
    rfl
  · next hroot =>
    unfold run
    split
    · rfl
    · rfl
    · next hexists => exact (hroot hexists).elim

/-- Over a root that exists this is what happens. -/
theorem course_of_exists (hroot : world.tree.pathExists host.cwd root = .ok true)
    (recursive dryRun : Bool) :
    course host root recursive world.tree = w.trace host root recursive dryRun world ∧
      begun host root world = start host root world := by
  rw [(trace_eq_events h hcwd root recursive dryRun).1]
  simp only [course, begun, hroot, and_self]

/-- The files of the course are those that the walk takes, whether it is a dry one or not. -/
theorem course_taken (root : Path) (recursive dryRun : Bool) :
    ((course host root recursive world.tree).filterMap w.taken?).Sublist
      (w.taken host root recursive dryRun world) := by
  by_cases hroot : world.tree.pathExists host.cwd root = .ok true
  · rw [(course_of_exists h hcwd hroot recursive dryRun).1, taken]
  · rw [course_of_not_exists hroot]
    exact List.nil_sublist _

/-- On a walk over a single file nothing but that file is met. -/
theorem trace_of_file (hfile : world.tree.isFile host.cwd root = .ok true)
    (recursive dryRun : Bool) :
    w.trace host root recursive dryRun world = [.met ⟨root, .file⟩] := by
  rw [(trace_eq_events h hcwd root recursive dryRun).1, Tree.events_of_file hfile]

/-- A walk comes to its end if the root exists and nothing stops the traversal. -/
theorem finished_iff (root : Path) (recursive dryRun : Bool) :
    (w.run host root recursive dryRun world).Finished ↔
      world.tree.pathExists host.cwd root = .ok true ∧
        (world.tree.events host.faults host.cwd root recursive true).stopped = none := by
  obtain ⟨-, -, hstopped⟩ := trace_eq_events h hcwd root recursive dryRun
  constructor
  · intro hfinished
    have hroot := exists_of_finished hfinished
    rw [run_of_exists hroot] at hfinished
    exact ⟨hroot, hstopped ▸ stopped_of_finished hfinished⟩
  · rintro ⟨hroot, hnone⟩
    rw [run_of_exists hroot]
    rcases conclude_cases ((w.visitor host dryRun).run host.faults host.cwd recursive root
      (start host root world)) with ⟨hnothing, -⟩ | ⟨hpartial, -⟩ | ⟨e, -, hsome⟩
    · exact Or.inl hnothing
    · exact Or.inr ⟨_, hpartial⟩
    · rw [hstopped, hnone] at hsome
      cases hsome

end

section

variable (h : w.Steady host logs) (hcwd : ∃ mode, world.tree.Stands host.cwd (.dir mode))
  (hlogs : ∀ q ∈ w.taken host root recursive dryRun world, ∀ found,
    world.tree.entryAt? host.cwd true q = .ok found → found.1 ∉ logs)
include h hcwd hlogs

/-- A walk is ready for its course if none of the files is a log. -/
theorem begun_ready : (begun host root world).Ready host logs
    ((course host root recursive world.tree).filterMap w.taken?) := by
  by_cases hroot : world.tree.pathExists host.cwd root = .ok true
  · obtain ⟨hcourse, hbegun⟩ := course_of_exists h.keepsShape hcwd hroot recursive dryRun
    rw [hcourse, hbegun]
    exact start_ready h.keepsShape hcwd hroot hlogs
  · rw [course_of_not_exists hroot]
    have hshape := Tree.shape_of_masked (masked_begun h.echo root world)
    exact ⟨Tree.Stands.dir_of_shape hshape.symm hcwd, fun q hq => nomatch hq⟩

/-- A walk, however it ends, keeps the shape of the tree. -/
theorem shape_run :
    (w.run host root recursive dryRun world).run.world.tree.shape = world.tree.shape := by
  rw [run_eq_course h.keepsShape hcwd]
  exact (shape_replay h.keepsShape (begun_ready h hcwd hlogs) dryRun).trans
    (Tree.shape_of_masked (masked_begun h.echo root world))

end

end Walker
end BatchFormat
