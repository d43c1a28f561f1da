import BatchFormat.Proofs.Walk.Apart
import BatchFormat.Proofs.Walk.Drawn

/-!
# A second walk

An engine that has nothing to add to its own answers brings every file to rest: once a path that
leads to it could be read, no path changes it any more. So a second walk under the same faults
changes nothing, and notes the same failures. The marks are drawn anew for it, so that a message may
show another one.
-/
namespace BatchFormat

variable {w : Walker} {host : Host} {world world' : World} {run second : Run} {p root : Path}
  {logs : List Location} {place : Location} {bytes : Bytes} {mode : Nat} {event : Event}
  {events : List Event} {g : Gateway} {recursive : Bool} {draw : Path → List String}

namespace Gateway

/-- Whatever the engine answers, it gives the same answer to that, or rejects it. -/
def Settles (g : Gateway) : Prop :=
  ∀ content answer (world world' : World),
    (g.engine.transform g.settings content world).1 = .ok answer →
      (g.engine.transform g.settings answer world').1 = .ok answer ∨
        ∃ r, (g.engine.transform g.settings answer world').1 = .error (.rejected r)

/-- What went through the gateway goes through it unchanged. -/
theorem Settles.apply (h : g.Settles) (hengine : g.ContentOnly) {content : String}
    {result : Transformed} (happly : (g.apply content world).1 = .ok result) (world' : World) :
    (g.apply result.content world').1 = .ok (.unchanged result.content) := by
  have hkept : result = .unchanged content →
      (g.apply result.content world').1 = .ok (.unchanged result.content) := by
    rintro rfl
    exact (hengine.apply content world' world).1.trans happly
  rw [apply_fst] at happly
  split at happly
  · exact hkept (Except.ok.inj happly).symm
  · split at happly
    · next answer hasked =>
      obtain rfl := (Except.ok.inj happly).symm
      change (g.apply answer world').1 = .ok (.unchanged answer)
      have hsame : Transformed.compare answer answer = .unchanged answer := by
        simp [Transformed.compare, Transformed.unchanged]
      rw [apply_fst]
      split
      · rfl
      · rcases h content answer _ { world' with asked := world'.asked ++ [answer] } hasked with
          hagain | ⟨r, hrejected⟩
        · have hasked : (g.ask answer world').1 = .ok answer := hagain
          rw [hasked]
          exact congrArg Except.ok hsame
        · have hasked : (g.ask answer world').1 = .error (.rejected r) := hrejected
          rw [hasked]
    · exact hkept (Except.ok.inj happly).symm
    · cases happly

theorem Settles.format (h : g.Settles) (hengine : g.ContentOnly) {result : Transformed}
    (hformat : g.format bytes world = .ok result) (world' : World) :
    g.format (Text.encode result.content) world' = .ok (.unchanged result.content) := by
  unfold Gateway.format at hformat
  split at hformat
  · cases hformat
  · rw [Gateway.format, Text.decode_encode]
    exact h.apply hengine hformat world'

end Gateway

namespace Walker

/-! ## Files at rest -/

/-- No path that leads to a file with these bytes would change it. -/
def Rests (w : Walker) (host : Host) (world : World) (place : Location) (bytes : Bytes) : Prop :=
  ∀ p, world.tree.leadsTo host.cwd place p = true →
    changes (w.outcome host false p bytes world) = false

theorem Rests.of_shape (h : w.gateway.ContentOnly) (hshape : world.tree.shape = world'.tree.shape)
    (hrests : w.Rests host world place bytes) : w.Rests host world' place bytes := by
  intro p hp
  rw [← outcome_of_shape h hshape]
  exact hrests p (Tree.leadsTo_of_shape hshape ▸ hp)

/-- How a second attempt ends: with the same failure, but for the mark in its message, or without a
change. -/
inductive Repeats : Except Failure Transformed → Except Failure Transformed → Prop
  | failed {e e' : Failure} (h : SameButMark e'.message e.message) : Repeats (.error e) (.error e')
  | kept {result result' : Transformed} (h : result'.changed = false) :
    Repeats (.ok result) (.ok result')

theorem Repeats.changes {first again : Except Failure Transformed} (h : Repeats first again) :
    Walker.changes again = false := by
  cases h with
  | failed => rfl
  | kept h => exact h

theorem Repeats.of_not_changes {ending again : Except Failure Transformed}
    (hsame : SameEnding again ending) (h : Walker.changes ending = false) :
    Repeats ending again := by
  cases hsame with
  | done result => exact .kept h
  | failed hmessage => exact .failed hmessage

/-- An attempt at a file that could be read brings the file to rest, and on another walk an attempt
at what it left would repeat how it ended. -/
theorem Attempted.rests (hsettles : w.gateway.Settles) (hengine : w.gateway.ContentOnly)
    (hcwd : ∃ mode, world.tree.Stands host.cwd (.dir mode))
    (hfile : world.tree.entryAt? host.cwd true p = .ok (place, .file bytes mode))
    (hread : host.faults.read p = false) (hdraw : ∀ p, (draw p).Perm host.marks)
    {ending : Except Failure Transformed} {after : Tree}
    (h : Attempted w host false p world place bytes mode ending after) :
    w.Rests host world place (left false bytes ending) ∧
      Repeats ending (w.outcome (host.drawing draw hdraw) false p (left false bytes ending)
        world) := by
  cases hchanges : changes ending with
  | false =>
    -- nothing was written; another path would find the same bytes and be refused in the same way
    rw [left_of_not_changes hchanges]
    rw [h.eq_outcome] at hchanges ⊢
    refine ⟨fun q hq => ?_, .of_not_changes
      (outcome_of_draw hcwd hfile rfl hread hread hdraw false bytes) hchanges⟩
    have hresolve : world.tree.resolve host.cwd q = world.tree.resolve host.cwd p := by
      rw [Tree.leadsTo_iff.mp hq, Tree.leadsTo_iff.mp ((Tree.leadsTo_of_file hfile).mpr rfl)]
    cases hread' : host.faults.read q with
    | true =>
      unfold outcome
      rw [hread']
      rfl
    | false =>
      have hsame : SameEnding (w.outcome host false q bytes world)
          (w.outcome host false p bytes world) :=
        outcome_of_draw hcwd hfile hresolve hread hread' host.draw_perm false bytes
      rw [hsame.changes_eq]
      exact hchanges
  | true =>
    obtain ⟨result, rfl, hchanged⟩ := changes_eq_true_iff.mp hchanges
    have hleft : left false bytes (.ok result) = Text.encode result.content := by
      simp [left, hchanged]
    have hagain : ∀ (other : Host) q,
        w.outcome other false q (Text.encode result.content) world =
          if other.faults.read q then .error (.system (.refused .denied q.text))
          else .ok (.unchanged result.content) := fun other q => by
      unfold outcome
      rw [hsettles.format hengine h.format world]
      rfl
    rw [hleft]
    refine ⟨fun q _ => ?_, ?_⟩
    · rw [hagain]
      split <;> rfl
    · rw [hagain, Host.drawing, hread]
      exact .kept rfl

/-- A file at rest stays as it is, whatever happens. -/
theorem get?_act_of_rests (h : w.Steady host logs)
    (hready : run.Ready host logs (w.taken? event).toList) (hlog : place ∉ logs)
    (hget : run.world.tree.get? place = some (.file bytes mode))
    (hrests : w.Rests host run.world place bytes) :
    ((w.visitor host false).act run event).world.tree.get? place =
      some (.file bytes mode) := by
  by_cases hapart : ∀ p ∈ w.taken? event, run.world.tree.leadsTo host.cwd place p = false
  · exact (get?_act h hready false hlog hapart).trans hget
  · push Not at hapart
    obtain ⟨p, htaken, hleads⟩ := hapart
    rw [ne_eq, Bool.not_eq_false] at hleads
    rw [Option.mem_def] at htaken
    obtain ⟨there, bytes', mode', -, hfile⟩ := hready.file (p := p) (by simp [htaken])
    obtain rfl := (Tree.leadsTo_of_file hfile).mp hleads
    have hbytes := (Tree.get?_of_file hfile).symm.trans hget
    cases hbytes
    have hattempt := attempt_spec h.gateway hready.cwd hfile false
    have hsame : changes (w.attempt host false p run.world).1 = false := by
      rw [hattempt.eq_outcome]
      exact hrests p hleads
    rw [Tree.get?_eq_of_masked (act_eq h hready false).2 hlog, htaken, Option.elim_some,
      hattempt.eq_tree hsame]
    exact hget

theorem get?_replay_of_rests (h : w.Steady host logs)
    (hready : run.Ready host logs (events.filterMap w.taken?)) (hlog : place ∉ logs)
    (hget : run.world.tree.get? place = some (.file bytes mode))
    (hrests : w.Rests host run.world place bytes) :
    (w.replay host false events run).world.tree.get? place = some (.file bytes mode) := by
  induction events generalizing run with
  | nil => exact hget
  | cons event events ih =>
    have hshape := shape_act h.keepsShape hready.head false
    exact ih (hready.tail hshape) (get?_act_of_rests h hready.head hlog hget hrests)
      (hrests.of_shape h.gateway hshape.symm)

/-! ## Attempts at what a walk left -/

/-- An attempt at the tree that a walk leaves in the end repeats the one of the walk. -/
theorem attempt_again (hsettles : w.gateway.Settles) (h : w.Steady host logs)
    (hdraw : ∀ p, (draw p).Perm host.marks)
    (hready : run.Ready host logs ((event :: events).filterMap w.taken?))
    (htaken : w.taken? event = some p)
    (hsecond : world.tree.masked logs =
      (w.replay host false (event :: events) run).world.tree.masked logs) :
    Repeats (w.attempt host false p run.world).1
        (w.attempt (host.drawing draw hdraw) false p world).1 ∧
      (w.attempt (host.drawing draw hdraw) false p world).2.tree = world.tree := by
  have hready' := hready.tail (shape_act h.keepsShape hready.head false)
  have hshape : run.world.tree.shape = world.tree.shape := by
    rw [Tree.shape_of_masked hsecond, shape_replay h.keepsShape hready]
  obtain ⟨place, bytes, mode, hlog, hfile⟩ := hready.file (p := p) (by simp [htaken])
  have hattempt := attempt_spec h.gateway hready.cwd hfile false
  obtain ⟨left, hleft⟩ : ∃ left, world.tree.entryAt? (host.drawing draw hdraw).cwd true p =
      .ok (place, .file left mode) := Tree.file_of_shape hshape hfile
  have hcwd : ∃ mode, world.tree.Stands (host.drawing draw hdraw).cwd (.dir mode) :=
    Tree.Stands.dir_of_shape hshape hready.cwd
  have hagain : Attempted w (host.drawing draw hdraw) false p world place left mode
      (w.attempt (host.drawing draw hdraw) false p world).1
      (w.attempt (host.drawing draw hdraw) false p world).2.tree :=
    attempt_spec h.gateway hcwd hleft false
  have hrepeats : Repeats (w.attempt host false p run.world).1
      (w.attempt (host.drawing draw hdraw) false p world).1 := by
    rw [hagain.eq_outcome, outcome_of_shape h.gateway hshape.symm]
    cases hread : host.faults.read p with
    | true =>
      rw [hattempt.eq_outcome]
      unfold outcome
      rw [Host.drawing, hread]
      exact .failed (.same _)
    | false =>
      obtain ⟨hrests, hrepeats⟩ :=
        hattempt.rests hsettles h.gateway hready.cwd hfile hread hdraw
      have hget := hattempt.get?_self (Tree.get?_of_file hfile)
      have hact := (act_eq h hready.head false).2
      rw [htaken, Option.elim_some] at hact
      have hlast := get?_replay_of_rests h hready' hlog
        ((Tree.get?_eq_of_masked hact hlog).trans hget)
        (hrests.of_shape h.gateway (shape_act h.keepsShape hready.head false).symm)
      have hbytes := (Tree.get?_eq_of_masked hsecond hlog).trans hlast
      rw [Tree.get?_of_file hleft] at hbytes
      cases hbytes
      exact hrepeats
  exact ⟨hrepeats, hagain.eq_tree hrepeats.changes⟩

end Walker

/-! ## Totals of a second walk -/

namespace Summary

variable {s : Summary} {first again : Path → Except Failure Transformed}

/-- The totals of a second walk: nothing changed, and the failures are those of the first one, with
messages that are the same but for a mark. -/
structure Settled (s again : Summary) : Prop where
  processed : again.processed = s.processed
  changed : again.changed = 0
  changedFiles : again.changedFiles = []
  failed : again.failed = s.failed
  errors : List.Forall₂ (fun e e' => e.1 = e'.1 ∧ SameButMark e.2 e'.2) again.errors s.errors

/-- Two lists of errors stay alike when messages that are alike are set for the same path. -/
theorem forall₂_setMessage {message message' : String} (hsame : SameButMark message' message)
    {errors errors' : List (Path × String)}
    (h : List.Forall₂ (fun e e' => e.1 = e'.1 ∧ SameButMark e.2 e'.2) errors' errors) :
    List.Forall₂ (fun e e' => e.1 = e'.1 ∧ SameButMark e.2 e'.2)
      (setMessage p message' errors') (setMessage p message errors) := by
  induction h with
  | nil => exact .cons ⟨rfl, hsame⟩ .nil
  | @cons e e' rest rest' hhead htail ih =>
    obtain ⟨hpath, hmessage⟩ := hhead
    unfold setMessage
    rw [hpath]
    split
    · exact .cons ⟨rfl, hsame⟩ htail
    · exact .cons ⟨rfl, hmessage⟩ ih

theorem Settled.recordError {s' : Summary} {message message' : String} (h : s.Settled s')
    (hsame : SameButMark message' message) :
    (s.recordError p message).Settled (s'.recordError p message') where
  processed := h.processed
  changed := h.changed
  changedFiles := h.changedFiles
  failed := congrArg (· + 1) h.failed
  errors := forall₂_setMessage hsame h.errors

theorem Settled.recordProcessed {s' : Summary} (h : s.Settled s') :
    s.recordProcessed.Settled s'.recordProcessed :=
  { h with processed := congrArg (· + 1) h.processed }

/-- A summary stays settled against the first one when a file repeats. -/
theorem Settled.book {s' : Summary} {ending ending' : Except Failure Transformed}
    (h : s.Settled s') (hrepeats : Walker.Repeats ending ending') :
    (s.book p ending).Settled (s'.book p ending') := by
  cases hrepeats with
  | failed hsame => exact h.recordProcessed.recordError hsame
  | @kept result result' hkept =>
    have hbooked := h.recordProcessed
    cases hchanged : result.changed with
    | false => simpa [Summary.book, hchanged, hkept] using hbooked
    | true =>
      simp only [Summary.book, hchanged, hkept, if_true, Bool.false_eq_true, if_false]
      -- what the first walk changed is left out of account
      exact ⟨hbooked.processed, hbooked.changed, hbooked.changedFiles, hbooked.failed,
        hbooked.errors⟩

/-- A summary stays settled against the first one at each turn that repeats. -/
theorem Settled.enter {s' : Summary} (h : s.Settled s')
    (hrepeats : ∀ p ∈ w.taken? event, Walker.Repeats (first p) (again p)) :
    (s.enter w first event).Settled (s'.enter w again event) := by
  cases htaken : w.taken? event with
  | some p =>
    rw [enter_taken htaken, enter_taken htaken]
    exact h.book (hrepeats p htaken)
  | none =>
    cases event with
    | missed p e => exact h.recordError (.same _)
    | met c =>
      rw [enter_passed htaken, enter_passed htaken]
      exact h

end Summary

namespace Walker

/-- A walk over the tree that it left does nothing but note the same failures. -/
theorem replay_again (hsettles : w.gateway.Settles) (h : w.Steady host logs)
    (hdraw : ∀ p, (draw p).Perm host.marks)
    (hready : run.Ready host logs (events.filterMap w.taken?))
    (htree : second.world.tree.masked logs =
      (w.replay host false events run).world.tree.masked logs)
    (hsummary : run.summary.Settled second.summary) :
    (w.replay (host.drawing draw hdraw) false events second).world.tree.masked logs =
        second.world.tree.masked logs ∧
      (w.replay host false events run).summary.Settled
        (w.replay (host.drawing draw hdraw) false events second).summary := by
  have hsteady := h.drawing hdraw
  induction events generalizing run second with
  | nil => exact ⟨rfl, hsummary⟩
  | cons event events ih =>
    have hshape : run.world.tree.shape = second.world.tree.shape := by
      rw [Tree.shape_of_masked htree, shape_replay h.keepsShape hready]
    have hready' : second.Ready (host.drawing draw hdraw) logs
        ((event :: events).filterMap w.taken?) :=
      (hready.of_shape hshape (List.Subset.refl _)).drawing hdraw
    obtain ⟨hnoted, hleft⟩ := act_eq hsteady hready'.head false
    have hkept : ((w.visitor (host.drawing draw hdraw) false).act second event).world.tree.masked
        logs = second.world.tree.masked logs := by
      rw [hleft]
      cases htaken : w.taken? event with
      | none => rfl
      | some p =>
        exact congrArg (·.masked logs) (attempt_again hsettles h hdraw hready htaken htree).2
    have hsettled : ((w.visitor host false).act run event).summary.Settled
        ((w.visitor (host.drawing draw hdraw) false).act second event).summary := by
      rw [hnoted, (act_eq h hready.head false).1]
      exact hsummary.enter fun p htaken =>
        (attempt_again hsettles h hdraw hready htaken htree).1
    obtain ⟨hlast, htotals⟩ :=
      ih (hready.tail (shape_act h.keepsShape hready.head false)) (hkept.trans htree) hsettled
    exact ⟨hlast.trans hkept, htotals⟩

/-- If the engine has nothing to add to its own answers, a second walk over the tree that a walk
left changes nothing and leaves everything as it is. It processes as many files as the first one,
and notes the same failures in the same order. The marks are drawn anew for the second walk: a
message is the same but for the mark in it. Logs may be kept meanwhile, if none of them is
formatted; what they say is left out of account. -/
theorem run_again (w : Walker) (host : Host) (draw : Path → List String)
    (hdraw : ∀ p, (draw p).Perm host.marks) (root : Path) (recursive : Bool)
    (world later : World) (logs : List Location) (hengine : w.gateway.ContentOnly)
    (hsettles : w.gateway.Settles) (hecho : host.echo.StaysIn logs)
    (hcwd : ∃ mode, world.tree.Stands host.cwd (.dir mode))
    (hlogs : ∀ q ∈ w.taken host root recursive false world, ∀ found,
      world.tree.entryAt? host.cwd true q = .ok found → found.1 ∉ logs)
    (hlater : later.tree = (w.run host root recursive false world).run.world.tree) :
    let first := w.run host root recursive false world
    let second := w.run (host.drawing draw hdraw) root recursive false later
    second.run.summary.changed = 0 ∧ second.run.summary.changedFiles = [] ∧
      second.run.world.tree.masked logs = later.tree.masked logs ∧
      (logs = [] → second.run.world.tree = later.tree) ∧
      second.run.summary.processed = first.run.summary.processed ∧
      second.run.summary.failed = first.run.summary.failed ∧
      List.Forall₂ (fun e e' => e.1 = e'.1 ∧ SameButMark e.2 e'.2) second.run.summary.errors
        first.run.summary.errors ∧
      (first.Finished → second.Finished) := by
  intro first second
  have hsteady : w.Steady host logs := ⟨hengine, hecho⟩
  have hsteady' := hsteady.drawing hdraw
  have hshape : later.tree.shape = world.tree.shape := hlater ▸ shape_run hsteady hcwd hlogs
  have hcwd' := Tree.Stands.dir_of_shape hshape.symm hcwd
  have hfirst : first.run = w.replay host false (course host root recursive world.tree)
      (begun host root world) := run_eq_course hsteady.keepsShape hcwd root recursive false
  have hsecond : second.run = w.replay (host.drawing draw hdraw) false
      (course host root recursive world.tree) (begun host root later) := by
    rw [← course_of_shape hshape]
    exact run_eq_course hsteady'.keepsShape hcwd' root recursive false
  have hbegun := masked_begun hecho root later
  obtain ⟨hkept, hsettled⟩ := replay_again hsettles hsteady hdraw (begun_ready hsteady hcwd hlogs)
    (hbegun.trans (by rw [hlater, ← hfirst]))
    (by rw [summary_begun, summary_begun]; exact ⟨rfl, rfl, rfl, rfl, .nil⟩)
  rw [← hsecond] at hkept hsettled
  rw [← hfirst] at hsettled
  have htree := hkept.trans hbegun
  refine ⟨hsettled.changed, hsettled.changedFiles, htree, ?_, hsettled.processed, hsettled.failed,
    hsettled.errors, fun hfinished => ?_⟩
  · rintro rfl
    simpa using htree
  · have hexists : later.tree.pathExists host.cwd root = world.tree.pathExists host.cwd root :=
      Tree.test_of_shape hshape fun _ => rfl
    have hended := (finished_iff hsteady.keepsShape hcwd root recursive false).mp hfinished
    refine (finished_iff hsteady'.keepsShape hcwd' root recursive false).mpr ?_
    change later.tree.pathExists host.cwd root = _ ∧
      (later.tree.events host.faults host.cwd root recursive true).stopped = none
    rw [hexists, Tree.events_of_shape hshape]
    exact hended

def sameWalker : Walker :=
  ⟨⟨⟨"same", fun _ => .ok (), fun _ _ world => (.ok "same\n", world)⟩, .empty, none⟩,
    sourceWalker.eligible⟩

theorem sameWalker_mixed : Mixed sameWalker mixedHost true "same\n" where
  steady := ⟨⟨fun _ _ _ _ => rfl, fun _ _ _ => rfl, fun _ h => nomatch h⟩, Echo.silent_staysIn []⟩
  cwd := rfl
  mark := List.mem_cons_self
  list := mixedFaults_list
  eligible := rfl
  asked := fun _ => rfl
  other := by decide

theorem sameWalker_settles : sameWalker.gateway.Settles := by
  intro content answer world world' hanswer
  exact Or.inl hanswer

/-- The files that became the same as all others stay so, and what failed fails again. -/
theorem run_again_of_mixedTree :
    let first := (sameWalker.run mixedHost ⟨.relative, ["p"]⟩ true false
      (World.ofTree mixedTree)).run
    let second := (sameWalker.run (mixedHost.drawing redraw redraw_perm) ⟨.relative, ["p"]⟩ true
      false (World.ofTree first.world.tree)).run
    ⟨.relative, ["p", "b", "X.java"]⟩ ∈ first.summary.changedFiles ∧
      first.summary.errors.lookup ⟨.relative, ["p", "a", "X.java"]⟩ =
        some "[Errno 13] Permission denied: 'p/a/X.java'" ∧
      second.summary.changed = 0 ∧ second.summary.failed = first.summary.failed ∧
      second.world.tree.get? ["p", "b", "X.java"] =
        some (.file (Text.encode "same\n") 0o644) ∧
      second.world.tree.get? ["o.txt"] = some (.file (Text.encode "same\n") 0o644) ∧
      second.world.tree.get? ["p", "z.java"] = some (.file (Text.encode "x") 0o644) := by
  intro first second
  have hsteady := sameWalker_mixed.steady
  obtain ⟨hchanged, -, -, htree, -, hfailed, -⟩ := run_again sameWalker mixedHost redraw
    redraw_perm ⟨.relative, ["p"]⟩ true (World.ofTree mixedTree) (World.ofTree first.world.tree) []
    hsteady.gateway sameWalker_settles hsteady.echo ⟨_, .top⟩ (fun _ _ _ _ => List.not_mem_nil) rfl
  have hleft : second.world.tree = first.world.tree := htree rfl
  have hdone := fun q hq halone => sameWalker_mixed.done (q := q) hq halone false
  obtain ⟨hdenied, -, -⟩ := hdone ⟨.relative, ["p", "a", "X.java"]⟩ (by decide) (by decide)
  obtain ⟨-, hnoted, hfile⟩ := hdone ⟨.relative, ["p", "b", "X.java"]⟩ (by decide) (by decide)
  obtain ⟨-, -, hlinked⟩ := hdone ⟨.relative, ["p", "l.java"]⟩ (by decide) (by decide)
  obtain ⟨-, -, hkept⟩ := hdone ⟨.relative, ["p", "z.java"]⟩ (by decide) (by decide)
  rw [hleft]
  exact ⟨hnoted.mpr rfl, hdenied, hchanged, hfailed, hfile, hlinked, hkept⟩

end Walker
end BatchFormat
