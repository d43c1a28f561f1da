import BatchFormat.Proofs.Tree.Room
import BatchFormat.Proofs.Walk.Totals

/-!
# Files that a single path leads to

Where no other path of a walk leads to the same file, the file is still as it was at the beginning
when its turn comes, and nobody touches it afterwards. So what is noted about the path, and what
becomes of the file, can be read off the tree that the walk began with.
-/
namespace BatchFormat

variable {w : Walker} {host : Host} {world : World} {run : Run} {s : Summary} {p q root : Path}
  {recursive dryRun : Bool} {logs : List Location} {place : Location} {bytes : Bytes} {mode : Nat}
  {event : Event} {events before after : List Event}

namespace Walker

/-- No file that is taken on some of the events is the one at a place. -/
def Apart (w : Walker) (host : Host) (run : Run) (place : Location) (events : List Event) : Prop :=
  ∀ q ∈ events.filterMap w.taken?, run.world.tree.leadsTo host.cwd place q = false

/-- When its turn comes the walk is ready for it, and finds the file as it was. -/
theorem file_at_turn (h : w.Steady host logs)
    (hready : run.Ready host logs ((before ++ after).filterMap w.taken?)) (dryRun : Bool)
    (hlog : place ∉ logs)
    (hfile : run.world.tree.entryAt? host.cwd true p = .ok (place, .file bytes mode))
    (hbefore : w.Apart host run place before) :
    (w.replay host dryRun before run).world.tree.shape = run.world.tree.shape ∧
      (w.replay host dryRun before run).Ready host logs (after.filterMap w.taken?) ∧
      (w.replay host dryRun before run).world.tree.entryAt? host.cwd true p =
        .ok (place, .file bytes mode) := by
  have hready' : run.Ready host logs (before.filterMap w.taken?) := hready.of_shape rfl (by simp)
  have hshape := shape_replay h.keepsShape hready' dryRun
  exact ⟨hshape, hready.of_shape hshape.symm (by simp),
    Tree.file_of_get? hshape.symm hfile (get?_replay h hready' dryRun hlog hbefore)⟩

/-- An attempt ends as one at the beginning would. -/
theorem ending_at_turn (h : w.Steady host logs)
    (hready : run.Ready host logs ((before ++ after).filterMap w.taken?)) (dryRun : Bool)
    (hlog : place ∉ logs)
    (hfile : run.world.tree.entryAt? host.cwd true p = .ok (place, .file bytes mode))
    (hbefore : w.Apart host run place before) :
    (w.attempt host dryRun p (w.replay host dryRun before run).world).1 =
      w.outcome host dryRun p bytes run.world := by
  obtain ⟨hshape, hturn, hfile'⟩ := file_at_turn h hready dryRun hlog hfile hbefore
  rw [(attempt_spec h.gateway hturn.cwd hfile' dryRun).eq_outcome]
  exact outcome_of_shape h.gateway hshape dryRun p bytes

/-- What becomes of a file that a single path leads to. -/
theorem get?_of_apart (h : w.Steady host logs)
    (hready : run.Ready host logs ((before ++ event :: after).filterMap w.taken?)) (dryRun : Bool)
    (htaken : w.taken? event = some p) (hlog : place ∉ logs)
    (hfile : run.world.tree.entryAt? host.cwd true p = .ok (place, .file bytes mode))
    (hbefore : w.Apart host run place before) (hafter : w.Apart host run place after) :
    (w.replay host dryRun (before ++ event :: after) run).world.tree.get? place =
      some (.file (left dryRun bytes (w.outcome host dryRun p bytes run.world)) mode) := by
  obtain ⟨hshape, hturn, hfile'⟩ := file_at_turn h hready dryRun hlog hfile hbefore
  have hending := ending_at_turn h hready dryRun hlog hfile hbefore
  rw [replay_append, replay_cons]
  generalize w.replay host dryRun before run = turn at hshape hturn hfile' hending
  have hact := shape_act h.keepsShape hturn.head dryRun
  have hlater := get?_replay h (hturn.tail hact) dryRun hlog fun q hq => by
    rw [Tree.leadsTo_of_shape (hact.trans hshape)]
    exact hafter q hq
  have hnow := Tree.get?_eq_of_masked (act_eq h hturn.head dryRun).2 hlog
  rw [htaken, Option.elim_some] at hnow
  rw [hlater, hnow, ← hending]
  exact (attempt_spec h.gateway hturn.cwd hfile' dryRun).get?_self (Tree.get?_of_file hfile')

/-- What is noted about a path that leads to a file alone. -/
theorem noted_of_apart (h : w.Steady host logs)
    (hready : run.Ready host logs ((before ++ event :: after).filterMap w.taken?)) (dryRun : Bool)
    (honce : ((before ++ event :: after).filterMap w.subject?).Nodup)
    (htaken : w.taken? event = some p) (hlog : place ∉ logs)
    (hfile : run.world.tree.entryAt? host.cwd true p = .ok (place, .file bytes mode))
    (hbefore : w.Apart host run place before) (hempty : run.summary = .empty) :
    let noted := (w.replay host dryRun (before ++ event :: after) run).summary
    let ending := w.outcome host dryRun p bytes run.world
    noted.errors.lookup p = complaint? ending ∧
      (p ∈ noted.changedFiles ↔ changes ending = true) := by
  intro noted ending
  have hending := ending_at_turn h hready dryRun hlog hfile hbefore
  obtain ⟨-, hturn, -⟩ := file_at_turn h hready dryRun hlog hfile hbefore
  have hready' : run.Ready host logs (before.filterMap w.taken?) := hready.of_shape rfl (by simp)
  obtain ⟨hfirst, hlast⟩ := subject_fresh honce (subject?_of_taken? htaken)
  obtain ⟨herrors, hfiles⟩ := noted_replay h hready' dryRun hfirst
  have hnoted : noted = (w.replay host dryRun after ((w.visitor host dryRun).act
      (w.replay host dryRun before run) event)).summary := by
    simp only [noted, replay_append, replay_cons]
  rw [hempty] at herrors hfiles
  generalize w.replay host dryRun before run = turn at hturn hending herrors hfiles hnoted
  obtain ⟨hlookup, hmem⟩ :=
    noted_replay h (hturn.tail (shape_act h.keepsShape hturn.head dryRun)) dryRun hlast
  rw [hnoted, hlookup, hmem, (act_eq h hturn.head dryRun).1, Summary.enter_taken htaken,
    Summary.lookup_book, if_pos rfl, Summary.changedFiles_book, hending, herrors,
    List.mem_append, hfiles]
  refine ⟨?_, ?_⟩
  · cases complaint? ending <;> rfl
  · simp [Summary.empty, ending]

/-- What a walk does about a path that leads to a file alone. -/
theorem run_of_apart (h : w.Steady host logs)
    (hcwd : ∃ mode, world.tree.Stands host.cwd (.dir mode)) (hplaces : world.tree.places.Nodup)
    (hroot : world.tree.pathExists host.cwd root = .ok true)
    (hlogs : ∀ q ∈ w.taken host root recursive dryRun world, ∀ found,
      world.tree.entryAt? host.cwd true q = .ok found → found.1 ∉ logs)
    (hp : p ∈ w.taken host root recursive dryRun world)
    (hfile : world.tree.entryAt? host.cwd true p = .ok (place, .file bytes mode))
    (halone : ∀ q ∈ w.taken host root recursive dryRun world, q ≠ p →
      world.tree.leadsTo host.cwd place q = false) :
    let done := (w.run host root recursive dryRun world).run
    let ending := w.outcome host dryRun p bytes world
    done.summary.errors.lookup p = complaint? ending ∧
      (p ∈ done.summary.changedFiles ↔ changes ending = true) ∧
      done.world.tree.get? place = some (.file (left dryRun bytes ending) mode) := by
  intro done ending
  have hlog : place ∉ logs := hlogs p hp _ hfile
  have hready := begun_ready h hcwd hlogs
  have honce : ((course host root recursive world.tree).filterMap w.subject?).Nodup :=
    nodup_course hplaces w host recursive
  have hbegun := masked_begun h.echo root world
  have hshape := Tree.shape_of_masked hbegun
  have hdone : done = w.replay host dryRun _ (begun host root world) :=
    run_eq_course h.keepsShape hcwd root recursive dryRun
  rw [taken, ← (course_of_exists h.keepsShape hcwd hroot recursive dryRun).1] at hp halone
  generalize course host root recursive world.tree = events at hready honce hdone hp halone
  obtain ⟨event, hevent, htaken⟩ := List.mem_filterMap.mp hp
  obtain ⟨before, after, rfl⟩ := List.append_of_mem hevent
  have hfile' := Tree.file_of_get? hshape.symm hfile (Tree.get?_eq_of_masked hbegun hlog)
  obtain ⟨hbefore, hafter⟩ : w.Apart host (begun host root world) place before ∧
      w.Apart host (begun host root world) place after := by
    obtain ⟨hfirst, hlast⟩ := subject_fresh honce (subject?_of_taken? htaken)
    refine ⟨fun q hq => ?_, fun q hq => ?_⟩
    · rw [Tree.leadsTo_of_shape hshape]
      refine halone q (by simp [hq]) ?_
      rintro rfl
      exact hfirst (mem_subjects_of_taken hq)
    · rw [Tree.leadsTo_of_shape hshape]
      refine halone q ?_ ?_
      · rw [List.filterMap_append, List.filterMap_cons_some htaken]
        exact List.mem_append_right _ (List.mem_cons_of_mem _ hq)
      · rintro rfl
        exact hlast (mem_subjects_of_taken hq)
  obtain ⟨hlookup, hmem⟩ :=
    noted_of_apart h hready dryRun honce htaken hlog hfile' hbefore summary_begun
  have hget := get?_of_apart h hready dryRun htaken hlog hfile' hbefore hafter
  rw [outcome_of_shape h.gateway hshape] at hlookup hmem hget
  rw [hdone]
  exact ⟨hlookup, hmem, hget⟩

/-- A root that is a file is processed, if it is eligible, and nothing else is touched. -/
theorem run_of_single_file (h : w.Steady host logs)
    (hcwd : ∃ mode, world.tree.Stands host.cwd (.dir mode)) (hplaces : world.tree.places.Nodup)
    (hfile : world.tree.entryAt? host.cwd true p = .ok (place, .file bytes mode))
    (hlog : place ∉ logs) (heligible : w.eligible p = true) (recursive dryRun : Bool) :
    let done := (w.run host p recursive dryRun world).run
    let ending := w.outcome host dryRun p bytes world
    done.summary.errors.lookup p = complaint? ending ∧
      (p ∈ done.summary.changedFiles ↔ changes ending = true) ∧
      done.world.tree.get? place = some (.file (left dryRun bytes ending) mode) := by
  have hisFile := Tree.isFile_of_file hfile
  have htaken := taken_of_file h.keepsShape hcwd hisFile heligible recursive dryRun
  refine run_of_apart h hcwd hplaces (Tree.pathExists_of_isFile hisFile) ?_ ?_ hfile ?_
  · intro q hq found hfound
    rw [htaken, List.mem_singleton] at hq
    rw [hq, hfile] at hfound
    cases hfound
    exact hlog
  · rw [htaken]
    exact List.mem_singleton_self p
  · intro q hq hne
    rw [htaken, List.mem_singleton] at hq
    exact (hne hq).elim

/-- The file that a source leads to: two of them are links. -/
def mixedTarget (q : Path) : Location :=
  if q.name == "l.java" || q.name == "Y.java" then ["o.txt"] else q.parts

def mixedBytes (q : Path) : Bytes := if q.name == "e.java" then [] else Text.encode "x"

section

variable {hidden : Bool} (hq : q ∈ mixedSources hidden)
include hq

theorem mixedTree_source : mixedTree.entryAt? [] true q =
    .ok (mixedTarget q, .file (mixedBytes q) 0o644) := by
  have hmore : ∀ hidden, ∀ q ∈ mixedSources hidden, q ∈ mixedSources false := by decide
  have hshown := hmore hidden q hq
  simp only [mixedSources, Bool.false_eq_true, if_false, List.cons_append, List.nil_append,
    List.mem_cons, List.not_mem_nil, or_false] at hshown
  rcases hshown with rfl | rfl | rfl | rfl | rfl | rfl
  · exact mixedTree_file (by decide) true
  · exact mixedTree_file (by decide) true
  · exact mixedTree_alias
  · exact mixedTree_empty
  · exact mixedTree_link
  · exact mixedTree_file (by decide) true

/-- In the sample, a replacement fails only if one of its requests does. -/
theorem mixedTree_replace {marks : List String} (hmarks : ∀ mark ∈ marks, mark.utf8ByteSize = 8)
    (hmark : "abcdefgh" ∈ marks) (faults : Faults) (content : String) :
    (mixedTree.replace faults marks [] q content).1 =
      if faults.create (Path.ofNames (mixedTarget q)) || faults.spoil (Path.ofNames (mixedTarget q))
      then .error .diskFull else .ok (mixedTarget q) := by
  have hfits : ∀ hidden, ∀ q ∈ mixedSources hidden,
      let real := Path.ofNames (mixedTarget q)
      Path.holdsNul real.text = false ∧ real.name.utf8ByteSize + 14 ≤ Tree.nameLimit ∧
        real.text.utf8ByteSize + 14 ≤ Tree.pathLimit ∧
        mixedTree.get? ((mixedTarget q).dropLast ++
          [Draft.temporaryName real.name "abcdefgh"]) = none := by decide
  obtain ⟨hnul, hname, htext, hfree⟩ := hfits hidden q hq
  exact Tree.replace_of_room ⟨_, .top⟩ (mixedTree_source hq) hnul hmarks ⟨_, hmark, hfree⟩
    ⟨hname, htext⟩ faults content

end

/-- How an attempt at a source ends if the engine has another answer: it changes the source, unless
a request fails, there is nothing in the source or the run is a dry one. -/
def mixedEnding (faults : Faults) (answer : String) (dryRun : Bool) (q : Path) :
    Except Failure Transformed :=
  let real := Path.ofNames (mixedTarget q)
  if faults.read q then .error (.system (.refused .denied q.text))
  else if q.name == "e.java" then .ok ⟨"", false⟩
  else if !dryRun && (faults.create real || faults.spoil real) then .error (.system .diskFull)
  else .ok ⟨answer, true⟩

/-- A walker that takes the sources and has another answer for their text, and a host on which it
meets them. -/
structure Mixed (w : Walker) (host : Host) (hidden : Bool) (answer : String) : Prop where
  steady : w.Steady host []
  cwd : host.cwd = []
  mark : "abcdefgh" ∈ host.marks
  list : ∀ p, host.faults.list p = (hidden && p == ⟨.relative, ["p", "c"]⟩)
  eligible : w.eligible = sourceWalker.eligible
  asked : ∀ world, (w.gateway.ask "x" world).1 = .ok answer
  other : answer ≠ "x"

section

variable {hidden : Bool} {answer : String} (h : Mixed w host hidden answer)
  (hq : q ∈ mixedSources hidden)
include h

theorem Mixed.stands : ∃ mode, (World.ofTree mixedTree).tree.Stands host.cwd (.dir mode) :=
  h.cwd ▸ ⟨_, .top⟩

theorem Mixed.pathExists :
    (World.ofTree mixedTree).tree.pathExists host.cwd ⟨.relative, ["p"]⟩ = .ok true :=
  h.cwd ▸ mixedTree_pathExists

theorem Mixed.taken (dryRun : Bool) :
    w.taken host ⟨.relative, ["p"]⟩ true dryRun (World.ofTree mixedTree) = mixedSources hidden :=
  mixedTree_taken h.steady.keepsShape h.cwd h.list h.eligible dryRun

theorem Mixed.finished (dryRun : Bool) :
    (w.run host ⟨.relative, ["p"]⟩ true dryRun (World.ofTree mixedTree)).Finished :=
  mixedTree_finished h.steady.keepsShape h.cwd h.list dryRun

include hq

theorem Mixed.entryAt? : (World.ofTree mixedTree).tree.entryAt? host.cwd true q =
    .ok (mixedTarget q, .file (mixedBytes q) 0o644) := h.cwd ▸ mixedTree_source hq

/-- In the sample, how a file ends can be told from its path alone. -/
theorem Mixed.outcome (dryRun : Bool) :
    w.outcome host dryRun q (mixedBytes q) (World.ofTree mixedTree) =
      mixedEnding host.faults answer dryRun q := by
  have hreplace : ((World.ofTree mixedTree).tree.replace host.faults (host.draw q) [] q answer).1 =
      _ := mixedTree_replace hq host.size_of_mem_draw (host.mem_draw.mpr h.mark) host.faults answer
  have hempty : w.gateway.format [] (World.ofTree mixedTree) = .ok ⟨"", false⟩ := by
    have hdecode : Text.decode [] = .ok "" := Text.decode_encode ""
    have hblank : Text.isBlank "" = true := by decide
    simp [Gateway.format, hdecode, Gateway.apply_fst, hblank, Transformed.unchanged]
  have hfull : w.gateway.format (Text.encode "x") (World.ofTree mixedTree) =
      .ok ⟨answer, true⟩ := by
    have hblank : Text.isBlank "x" = false := by decide
    simp [Gateway.format, Text.decode_encode, Gateway.apply_fst, hblank, h.asked,
      Transformed.compare, h.other]
  unfold Walker.outcome mixedBytes mixedEnding
  cases host.faults.read q with
  | true => rfl
  | false =>
    cases hname : q.name == "e.java" with
    | true => simp [hempty]
    | false =>
      simp only [hfull, h.cwd, hreplace, Bool.false_eq_true, if_false]
      cases dryRun with
      | true => rfl
      | false =>
        cases host.faults.create (Path.ofNames (mixedTarget q)) ||
          host.faults.spoil (Path.ofNames (mixedTarget q)) <;> rfl

/-- What a walk does about one of the sources, if no other leads to the same file. -/
theorem Mixed.done (halone : ∀ p ∈ mixedSources hidden, p ≠ q → mixedTarget q ≠ mixedTarget p)
    (dryRun : Bool) :
    let done := (w.run host ⟨.relative, ["p"]⟩ true dryRun (World.ofTree mixedTree)).run
    let ending := mixedEnding host.faults answer dryRun q
    done.summary.errors.lookup q = complaint? ending ∧
      (q ∈ done.summary.changedFiles ↔ changes ending = true) ∧
      done.world.tree.get? (mixedTarget q) =
        some (.file (left dryRun (mixedBytes q) ending) 0o644) := by
  rw [← h.outcome hq dryRun]
  refine run_of_apart h.steady h.stands (by decide) h.pathExists (fun _ _ _ _ => List.not_mem_nil)
    (h.taken dryRun ▸ hq) (h.entryAt? hq) ?_
  rw [h.taken]
  intro p hp hother
  rw [Bool.eq_false_iff, ne_eq, Tree.leadsTo_of_file (h.entryAt? hp)]
  exact halone p hp hother

end

theorem sourceWalker_mixed : Mixed sourceWalker mixedHost true "x
" where
  steady := sourceWalker_steady rfl
  cwd := rfl
  mark := List.mem_cons_self
  list := mixedFaults_list
  eligible := rfl
  asked := fun _ => rfl
  other := by decide

end Walker
end BatchFormat
