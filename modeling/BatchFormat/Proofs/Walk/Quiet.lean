import Mathlib.Data.List.Pairwise
import BatchFormat.Proofs.Walk.Account
import BatchFormat.Proofs.Walk.DryRun
import BatchFormat.Proofs.Walk.Isolation

/-!
# Engines that write to the logs

An engine may tell what it does, and a sink what was rejected: both then write to the log files. A
walk with them leaves every other file as it is left by the walk in which both are quiet, and comes
to the same totals.
-/
namespace BatchFormat

variable {w : Walker} {host : Host} {world world' : World} {a b : Run} {p q root : Path}
  {recursive dryRun : Bool} {logs : List Location} {event : Event} {events : List Event}
  {place : Location} {bytes : Bytes} {mode : Nat}

@[simp] theorem Tree.places_masked (t : Tree) (logs : List Location) :
    (t.masked logs).places = t.places := by
  rw [← places_shape, shape_masked, places_shape]

theorem Tree.nodup_places_of_masked {t u : Tree} (h : t.masked logs = u.masked logs)
    (hplaces : t.places.Nodup) : u.places.Nodup := by
  rw [← places_masked u logs, ← h, places_masked]
  exact hplaces

/-- The answers of the engine depend on the settings and the text alone, and it writes to nothing
but the logs. -/
structure Engine.ContentOnly (e : Engine) (logs : List Location) : Prop where
  answer : ∀ settings content (world world' : World),
    (e.transform settings content world).1 = (e.transform settings content world').1
  tree : ∀ settings content (world : World),
    (e.transform settings content world).2.tree.masked logs = world.tree.masked logs

/-- The engine with the same answers that touches nothing. -/
def Engine.quiet (e : Engine) : Engine :=
  { e with
    transform := fun settings content world => ((e.transform settings content world).1, world) }

namespace Gateway

variable {g : Gateway}

/-- The engine and the sink write to nothing but the logs. -/
structure StaysIn (g : Gateway) (logs : List Location) : Prop where
  engine : g.engine.ContentOnly logs
  sink : ∀ sink ∈ g.sink?, ∀ r (world : World),
    (sink r world).tree.masked logs = world.tree.masked logs

/-- The gateway to the quiet engine, which tells nobody of a rejection. -/
def quiet (g : Gateway) : Gateway := { g with engine := g.engine.quiet, sink? := none }

theorem apply_quiet (g : Gateway) (content : String) (world : World) :
    (g.quiet.apply content world).1 = (g.apply content world).1 := by
  rw [apply_fst, apply_fst]
  rfl

/-- A text that comes through unchanged is the one that was sent. -/
theorem content_of_unchanged {content : String} {result : Transformed}
    (h : (g.apply content world).1 = .ok result) (hsame : result.changed = false) :
    result.content = content := by
  rw [apply_fst] at h
  split at h
  · cases h
    rfl
  · split at h
    · cases h
      simpa [Transformed.compare] using hsame
    · cases h
      rfl
    · cases h

theorem StaysIn.quiet (h : g.StaysIn logs) : g.quiet.ContentOnly where
  answer := h.engine.answer
  engine := fun _ _ _ => rfl
  sink := fun _ hsink => nomatch hsink

theorem StaysIn.apply (h : g.StaysIn logs) (content : String) (world : World) :
    (g.apply content world).2.tree.masked logs = world.tree.masked logs :=
  apply_tree (I := fun t => t.masked logs = world.tree.masked logs)
    (fun _ _ _ hsame => (h.engine.tree _ _ _).trans hsame)
    (fun sink hsink _ _ hsame => (h.sink sink hsink _ _).trans hsame) content rfl

theorem StaysIn.alike_quiet (h : g.StaysIn logs) : g.Alike g.quiet logs where
  answer := fun content world world' =>
    (apply_quiet g content world).symm.trans (h.quiet.apply content world world').1
  left := h.apply
  right := fun content world => congrArg (Tree.masked · logs) (h.quiet.apply content world world).2

theorem StaysIn.keepsShape (h : g.StaysIn logs) : g.KeepsShape where
  engine := fun _ _ _ => Tree.shape_of_masked (h.engine.tree _ _ _)
  sink := fun sink hsink _ _ => Tree.shape_of_masked (h.sink sink hsink _ _)

end Gateway

namespace Walker

/-- A walk writes to nothing but the logs, apart from the files that it formats. -/
structure StaysIn (w : Walker) (host : Host) (logs : List Location) : Prop where
  gateway : w.gateway.StaysIn logs
  echo : host.echo.StaysIn logs

/-- The walker that nobody hears of. -/
def quiet (w : Walker) : Walker := { w with gateway := w.gateway.quiet }

theorem StaysIn.quiet (h : w.StaysIn host logs) : w.quiet.Steady host logs :=
  ⟨h.gateway.quiet, h.echo⟩

theorem StaysIn.keepsShape (h : w.StaysIn host logs) : w.KeepsShape host :=
  ⟨h.gateway.keepsShape, h.echo.keepsShape⟩

theorem StaysIn.keepsNodup (h : w.StaysIn host logs) : w.KeepsNodup host where
  engine := fun _ _ _ => Tree.nodup_places_of_masked (h.gateway.engine.tree _ _ _).symm
  sink := fun sink hsink _ _ => Tree.nodup_places_of_masked (h.gateway.sink sink hsink _ _).symm
  echo := fun _ _ _ => Tree.nodup_places_of_masked (h.echo _ _ _).symm

/-! ## In step -/

/-- Two runs have come to the same totals and, but for the logs, to the same tree. -/
structure InStep (logs : List Location) (a b : Run) : Prop where
  tree : a.world.tree.masked logs = b.world.tree.masked logs
  summary : a.summary = b.summary

/-- A turn keeps a run in step with the quiet one. -/
theorem act_quiet (h : w.StaysIn host logs) (hab : InStep logs a b)
    (hready : a.Ready host logs (w.taken? event).toList) (dryRun : Bool) :
    InStep logs ((w.visitor host dryRun).act a event)
      ((w.quiet.visitor host dryRun).act b event) := by
  have hready' : b.Ready host logs (w.quiet.taken? event).toList :=
    hready.of_shape (Tree.shape_of_masked hab.tree) (List.Subset.refl _)
  have halike : w.gateway.Alike w.quiet.gateway logs := h.gateway.alike_quiet
  obtain ⟨hsummary, htree⟩ := act_eq_of_alike halike h.echo hready dryRun
  obtain ⟨hsummary', htree'⟩ := act_eq h.quiet hready' dryRun
  have hattempt : ∀ p ∈ w.taken? event,
      (w.quiet.attempt host dryRun p a.world).1 = (w.quiet.attempt host dryRun p b.world).1 ∧
        (w.quiet.attempt host dryRun p a.world).2.tree.masked logs =
          (w.quiet.attempt host dryRun p b.world).2.tree.masked logs := fun p hp =>
    attempt_congr h.quiet.gateway hab.tree (hready.sources p (Option.mem_toList.mpr hp)) dryRun
  constructor
  · rw [htree, htree', show w.quiet.taken? event = w.taken? event from rfl]
    cases htaken : w.taken? event with
    | none => exact hab.tree
    | some p => exact (hattempt p htaken).2
  · rw [hsummary, hsummary', hab.summary]
    exact Summary.enter_congr fun p hp => (hattempt p hp).1

theorem replay_quiet (h : w.StaysIn host logs) (hab : InStep logs a b)
    (hready : a.Ready host logs (events.filterMap w.taken?)) (dryRun : Bool) :
    InStep logs (w.replay host dryRun events a) (w.quiet.replay host dryRun events b) := by
  induction events generalizing a b with
  | nil => exact hab
  | cons event events ih =>
    have hstep := act_quiet h hab hready.head dryRun
    exact ih hstep (hready.tail (shape_act h.keepsShape hready.head dryRun))

/-! ## The whole walk -/

theorem trace_quiet (h : w.StaysIn host logs)
    (hcwd : ∃ mode, world.tree.Stands host.cwd (.dir mode))
    (hsame : world.tree.masked logs = world'.tree.masked logs) (root : Path)
    (recursive dryRun : Bool) :
    w.trace host root recursive dryRun world = w.quiet.trace host root recursive dryRun world' := by
  have hshape := Tree.shape_of_masked hsame
  rw [(trace_eq_events h.keepsShape hcwd root recursive dryRun).1,
    (trace_eq_events h.quiet.keepsShape (Tree.Stands.dir_of_shape hshape hcwd) root recursive
      dryRun).1, Tree.events_of_shape hshape]

theorem taken_quiet (h : w.StaysIn host logs)
    (hcwd : ∃ mode, world.tree.Stands host.cwd (.dir mode))
    (hsame : world.tree.masked logs = world'.tree.masked logs) (root : Path)
    (recursive dryRun : Bool) :
    w.taken host root recursive dryRun world = w.quiet.taken host root recursive dryRun world' :=
  congrArg (List.filterMap w.taken?) (trace_quiet h hcwd hsame root recursive dryRun)

/-- A walk ends as it does where engine and sink are quiet, with the same totals and, but for the
logs, the same tree. -/
theorem run_quiet (h : w.StaysIn host logs)
    (hcwd : ∃ mode, world.tree.Stands host.cwd (.dir mode))
    (hsame : world.tree.masked logs = world'.tree.masked logs)
    (hlogs : ∀ q ∈ w.taken host root recursive dryRun world, ∀ found,
      world.tree.entryAt? host.cwd true q = .ok found → found.1 ∉ logs) :
    InStep logs (w.run host root recursive dryRun world).run
        (w.quiet.run host root recursive dryRun world').run ∧
      (w.run host root recursive dryRun world).failure? =
        (w.quiet.run host root recursive dryRun world').failure? := by
  have hshape := Tree.shape_of_masked hsame
  have hcwd' := Tree.Stands.dir_of_shape hshape hcwd
  have hinstep : InStep logs (w.run host root recursive dryRun world).run
      (w.quiet.run host root recursive dryRun world').run := by
    rw [run_eq_course h.keepsShape hcwd, run_eq_course h.quiet.keepsShape hcwd',
      course_of_shape hshape]
    refine replay_quiet h ⟨?_, ?_⟩ ?_ dryRun
    · exact (masked_begun h.echo root world).trans
        (hsame.trans (masked_begun h.echo root world').symm)
    · rw [summary_begun, summary_begun]
    · rw [taken_quiet h hcwd rfl] at hlogs
      rw [← course_of_shape hshape]
      have hready := begun_ready h.quiet hcwd hlogs
      exact hready
  refine ⟨hinstep, ?_⟩
  have hexists : world.tree.pathExists host.cwd root = world'.tree.pathExists host.cwd root :=
    Tree.test_of_shape hshape fun _ => rfl
  cases hroot : world.tree.pathExists host.cwd root with
  | error e => simp only [run, ← hexists, hroot]
  | ok found =>
    cases found with
    | false => simp only [run, ← hexists, hroot]
    | true =>
      obtain ⟨-, -, hstopped⟩ := trace_eq_events h.keepsShape hcwd root recursive dryRun
      obtain ⟨-, -, hstopped'⟩ := trace_eq_events h.quiet.keepsShape hcwd' root recursive dryRun
      have hsummary := hinstep.summary
      rw [run_of_exists hroot, run_of_exists (hexists ▸ hroot)] at hsummary ⊢
      rw [conclude_run, conclude_run] at hsummary
      unfold conclude
      rw [hstopped, hstopped', Tree.events_of_shape hshape]
      split
      · rfl
      · simp only [hsummary]

theorem shape_run_of_staysIn (h : w.StaysIn host logs)
    (hcwd : ∃ mode, world.tree.Stands host.cwd (.dir mode))
    (hlogs : ∀ q ∈ w.taken host root recursive dryRun world, ∀ found,
      world.tree.entryAt? host.cwd true q = .ok found → found.1 ∉ logs) :
    (w.run host root recursive dryRun world).run.world.tree.shape = world.tree.shape := by
  refine (Tree.shape_of_masked (run_quiet h hcwd rfl hlogs).1.tree).trans ?_
  rw [taken_quiet h hcwd rfl] at hlogs
  exact shape_run h.quiet hcwd hlogs

theorem masked_run_dry_of_staysIn (h : w.StaysIn host logs)
    (hcwd : ∃ mode, world.tree.Stands host.cwd (.dir mode))
    (hlogs : ∀ q ∈ w.taken host root recursive true world, ∀ found,
      world.tree.entryAt? host.cwd true q = .ok found → found.1 ∉ logs) :
    (w.run host root recursive true world).run.world.tree.masked logs =
      world.tree.masked logs :=
  (run_quiet h hcwd rfl hlogs).1.tree.trans (masked_run_dry h.quiet root recursive world)

/-! ## Walks without failures -/

/-- The files that a walk takes are the eligible ones of a survey. -/
theorem taken_eq_survey (h : w.KeepsShape host)
    (hcwd : ∃ mode, world.tree.Stands host.cwd (.dir mode)) (root : Path)
    (recursive dryRun : Bool) :
    w.taken host root recursive dryRun world =
      ((Survey.take world.tree host.faults host.cwd root recursive true).state.candidates.filter
        fun c => c.isFile && w.eligible c.path).map Candidate.path := by
  rw [taken, (trace_eq_events h hcwd root recursive dryRun).1, taken?_eq_candidate,
    Survey.take_eq_events]

end Walker

/-- A walk came to its end, and neither a file that was to be processed failed nor a listing. -/
structure Report.Clean (report : Report) (files : List Path) (survey : Survey) : Prop where
  finished : report.Finished
  files : ∀ p ∈ files, p ∉ report.run.summary.errors.map Prod.fst
  listings : survey.unlisted = []

namespace Walker

/-- A walk succeeds exactly if the traversal is not stopped and nothing is noted as failed. -/
theorem failure?_eq_none_iff (h : w.StaysIn host logs)
    (hcwd : ∃ mode, world.tree.Stands host.cwd (.dir mode)) (hplaces : world.tree.places.Nodup)
    (root : Path) (recursive dryRun : Bool) :
    (w.run host root recursive dryRun world).failure? = none ↔
      (w.run host root recursive dryRun world).Clean (w.taken host root recursive dryRun world)
        (Survey.take world.tree host.faults host.cwd root recursive true).state := by
  have hmissed : (w.trace host root recursive dryRun world).filterMap Event.missed? =
      (Survey.take world.tree host.faults host.cwd root recursive true).state.unlisted := by
    rw [(trace_eq_events h.keepsShape hcwd root recursive dryRun).1, Survey.take_eq_events]
  have hzero : (w.run host root recursive dryRun world).Finished →
      ((w.run host root recursive dryRun world).run.summary.failed = 0 ↔
        (∀ p ∈ w.taken host root recursive dryRun world,
          p ∉ (w.run host root recursive dryRun world).run.summary.errors.map Prod.fst) ∧
        (Survey.take world.tree host.faults host.cwd root recursive true).state.unlisted = []) := by
    intro hfinished
    have hcount := failed_run h.keepsNodup hplaces (exists_of_finished hfinished) recursive dryRun
    simp only at hcount
    rw [hcount, hmissed, Nat.add_eq_zero_iff, List.length_eq_zero_iff, List.length_eq_zero_iff,
      List.filter_eq_nil_iff]
    simp only [decide_eq_true_eq]
  constructor
  · intro hnone
    have hfinished : (w.run host root recursive dryRun world).Finished := Or.inl hnone
    obtain ⟨hfiles, hlistings⟩ := (hzero hfinished).mp ((failure?_of_finished hfinished).1.mp hnone)
    exact ⟨hfinished, hfiles, hlistings⟩
  · intro hclean
    exact (failure?_of_finished hclean.finished).1.mpr
      ((hzero hclean.finished).mpr ⟨hclean.files, hclean.listings⟩)

/-- Nothing fails on a walk over a single file whose text comes through the gateway unchanged. -/
theorem failure?_of_single_file (h : w.StaysIn host logs)
    (hcwd : ∃ mode, world.tree.Stands host.cwd (.dir mode)) (hplaces : world.tree.places.Nodup)
    {text : String}
    (hfile : world.tree.entryAt? host.cwd true p = .ok (place, .file (Text.encode text) mode))
    (hlog : place ∉ logs) (heligible : w.eligible p = true)
    (hread : host.faults.read p = false)
    (hsame : ∀ world, (w.gateway.apply text world).1 = .ok (.unchanged text))
    (recursive dryRun : Bool) : (w.run host p recursive dryRun world).failure? = none := by
  have hisFile := Tree.isFile_of_file hfile
  have hroot := Tree.pathExists_of_isFile hisFile
  have hevents : world.tree.events host.faults host.cwd p recursive true =
      ⟨[.met ⟨p, .file⟩], none⟩ := Tree.events_of_file hisFile
  have htaken := taken_of_file h.keepsShape hcwd hisFile heligible recursive dryRun
  rw [failure?_eq_none_iff h hcwd hplaces]
  refine ⟨?_, ?_, ?_⟩
  · exact (finished_iff h.keepsShape hcwd p recursive dryRun).mpr ⟨hroot, by rw [hevents]⟩
  · rw [htaken]
    intro q hq
    obtain rfl := List.mem_singleton.mp hq
    have hapart : ∀ x ∈ w.taken host q recursive dryRun world, ∀ found,
        world.tree.entryAt? host.cwd true x = .ok found → found.1 ∉ logs := by
      rw [htaken]
      intro x hx found hfound
      rw [List.mem_singleton.mp hx, hfile] at hfound
      cases hfound
      exact hlog
    have hformat : w.quiet.gateway.format (Text.encode text) world = .ok (.unchanged text) := by
      rw [Gateway.format, Text.decode_encode]
      exact (Gateway.apply_quiet _ _ _).trans (hsame world)
    have houtcome : w.quiet.outcome host dryRun q (Text.encode text) world =
        .ok (.unchanged text) := by
      simp [outcome, hread, hformat, Transformed.unchanged]
    obtain ⟨hlookup, -⟩ :=
      run_of_single_file h.quiet hcwd hplaces hfile hlog heligible recursive dryRun
    rw [(run_quiet h hcwd rfl hapart).1.summary, Summary.mem_keys_iff, hlookup, houtcome]
    simp [complaint?]
  · rw [Survey.take_eq_events, hevents]
    rfl

/-- If no file has two paths and nothing failed, every attempt went well. -/
theorem outcome_of_run (h : w.Steady host logs)
    (hcwd : ∃ mode, world.tree.Stands host.cwd (.dir mode)) (hplaces : world.tree.places.Nodup)
    (hlogs : ∀ q ∈ w.taken host root recursive dryRun world, ∀ found,
      world.tree.entryAt? host.cwd true q = .ok found → found.1 ∉ logs)
    (hdistinct : Distinct world.tree host.cwd (w.taken host root recursive dryRun world))
    (hnone : (w.run host root recursive dryRun world).failure? = none)
    (hp : p ∈ w.taken host root recursive dryRun world)
    (hfile : world.tree.entryAt? host.cwd true p = .ok (place, .file bytes mode)) :
    ∃ result, w.outcome host dryRun p bytes world = .ok result ∧
      (w.run host root recursive dryRun world).run.world.tree.get? place =
        some (.file (left dryRun bytes (.ok result)) mode) := by
  have hfinished : (w.run host root recursive dryRun world).Finished := Or.inl hnone
  have hroot := exists_of_finished hfinished
  have halone : ∀ q ∈ w.taken host root recursive dryRun world, q ≠ p →
      world.tree.leadsTo host.cwd place q = false := by
    intro q hq hne
    have hplace := Tree.leadsTo_iff.mp ((Tree.leadsTo_of_file hfile).mpr rfl)
    have hsymm : Std.Symm fun p q =>
        world.tree.resolve host.cwd p ≠ world.tree.resolve host.cwd q :=
      ⟨fun _ _ happart heq => happart heq.symm⟩
    rw [Bool.eq_false_iff, ne_eq, Tree.leadsTo_iff, ← hplace]
    exact List.Pairwise.forall hdistinct hq hp hne
  obtain ⟨hlookup, -, hget⟩ := run_of_apart h hcwd hplaces hroot hlogs hp hfile halone
  obtain ⟨-, -, hcounted⟩ := failures_of_finished h hcwd hplaces hlogs hfinished
  have herrors : (w.run host root recursive dryRun world).run.summary.errors = [] := by
    rw [(failure?_of_finished hfinished).1.mp hnone] at hcounted
    exact List.length_eq_zero_iff.mp hcounted.symm
  rw [herrors] at hlookup
  obtain ⟨result, hresult⟩ := complaint?_eq_none_iff.mp hlookup.symm
  rw [hresult] at hget
  exact ⟨result, hresult, hget⟩

/-- After a walk on which nothing failed, every file that has one path holds what the gateway makes
of the text that it held before. -/
theorem formatted_of_run (h : w.StaysIn host logs)
    (hcwd : ∃ mode, world.tree.Stands host.cwd (.dir mode)) (hplaces : world.tree.places.Nodup)
    (hlogs : ∀ q ∈ w.taken host root recursive false world, ∀ found,
      world.tree.entryAt? host.cwd true q = .ok found → found.1 ∉ logs)
    (hdistinct : Distinct world.tree host.cwd (w.taken host root recursive false world))
    (hnone : (w.run host root recursive false world).failure? = none)
    (hp : p ∈ w.taken host root recursive false world) :
    ∃ place bytes mode text result final,
      world.tree.entryAt? host.cwd true p = .ok (place, .file bytes mode) ∧
      Text.decode bytes = .ok text ∧ (w.gateway.apply text world).1 = .ok result ∧
      (w.run host root recursive false world).run.world.tree.get? place =
        some (.file final mode) ∧
      Text.decode final = .ok result.content := by
  obtain ⟨hinstep, hfailure⟩ := run_quiet h hcwd rfl hlogs
  rw [hfailure] at hnone
  have hroot := exists_of_finished (Or.inl hnone)
  obtain ⟨place, bytes, mode, hfile⟩ :=
    Tree.exists_file (isFile_of_mem_taken h.keepsShape hcwd hroot hp)
  have hlog := hlogs p hp _ hfile
  rw [taken_quiet h hcwd rfl] at hp hlogs hdistinct
  obtain ⟨result, hresult, hget⟩ :=
    outcome_of_run h.quiet hcwd hplaces hlogs hdistinct hnone hp hfile
  have hattempt := attempt_spec h.quiet.gateway hcwd hfile false
  rw [hattempt.eq_outcome, hresult] at hattempt
  have hformat := hattempt.format
  rw [← Tree.get?_eq_of_masked hinstep.tree hlog] at hget
  unfold Gateway.format at hformat
  split at hformat
  · cases hformat
  · next text hdecode =>
    have happly : (w.gateway.apply text world).1 = .ok result :=
      (Gateway.apply_quiet _ _ _).symm.trans hformat
    refine ⟨place, bytes, mode, text, result, _, hfile, hdecode, happly, hget, ?_⟩
    cases hchanged : result.changed with
    | true => simp [left, hchanged, Text.decode_encode]
    | false =>
      simp only [left, hchanged, Bool.false_and, Bool.false_eq_true, if_false]
      rw [Gateway.content_of_unchanged happly hchanged]
      exact hdecode

end Walker
end BatchFormat
