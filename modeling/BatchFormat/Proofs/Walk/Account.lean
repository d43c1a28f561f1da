import Mathlib.Data.List.TakeWhile
import BatchFormat.Proofs.Walk.Apart

/-!
# Every file is accounted for

The totals of a walk are what its events say, whatever the engine, the devices and the log do on the
way: each file that is processed has changed, has failed or was left as it is, and nothing that is
noted is noted twice. It takes no more than that no place is ever kept twice in the tree.
-/
namespace BatchFormat

variable {w : Walker} {host : Host} {world : World} {run : Run} {s : Summary} {p q root : Path}
  {recursive dryRun : Bool} {event : Event} {events : List Event}
  {outcome : Path → Except Failure Transformed} {ending : Except Failure Transformed}

/-! ## No place is kept twice -/

theorem Tree.nodup_places_replace {t : Tree} (h : t.places.Nodup) (faults : Faults)
    (marks : List String) (cwd : Location) (p : Path) (content : String) :
    (t.replace faults marks cwd p content).2.places.Nodup := by
  rcases replace_cases t faults marks cwd p content with ⟨e, hfail⟩ | ⟨_, _, _, _, -, hdone⟩
  · rwa [hfail]
  · rw [hdone]
    exact nodup_places_put h

theorem World.nodup_places_replaceFile (h : world.tree.places.Nodup) (host : Host) (p : Path)
    (content : String) : (world.replaceFile host p content).2.tree.places.Nodup := by
  have hafter : (world.tree.replace host.faults (host.draw p) host.cwd p content).2.places.Nodup :=
    Tree.nodup_places_replace h _ _ _ _ _
  unfold replaceFile
  split
  · next hdone => rwa [hdone] at hafter
  · next hfail => rwa [hfail] at hafter

namespace Walker

/-- Neither the engine nor the sink nor the log leaves a place that is kept twice. -/
structure KeepsNodup (w : Walker) (host : Host) : Prop where
  engine : ∀ settings content (world : World), world.tree.places.Nodup →
    (w.gateway.engine.transform settings content world).2.tree.places.Nodup
  sink : ∀ sink ∈ w.gateway.sink?, ∀ r (world : World), world.tree.places.Nodup →
    (sink r world).tree.places.Nodup
  echo : ∀ replaced r (t : Tree), t.places.Nodup → (host.echo replaced r t).places.Nodup

theorem KeepsNodup.say (h : w.KeepsNodup host) (r : Record) (hplaces : world.tree.places.Nodup) :
    (world.say host r).tree.places.Nodup := h.echo _ _ _ hplaces

theorem KeepsNodup.apply (h : w.KeepsNodup host) (content : String)
    (hplaces : world.tree.places.Nodup) :
    (w.gateway.apply content world).2.tree.places.Nodup :=
  Gateway.apply_tree (I := fun t => t.places.Nodup) h.engine h.sink content hplaces

theorem KeepsNodup.attempt (h : w.KeepsNodup host) (dryRun : Bool) (p : Path)
    (hplaces : world.tree.places.Nodup) :
    (w.attempt host dryRun p world).2.tree.places.Nodup :=
  after_attempt (I := fun after => after.tree.places.Nodup) (fun _ _ => hplaces)
    (fun text _ => h.apply text hplaces)
    fun _ content _ hafter => World.nodup_places_replaceFile hafter host p content

/-- No step of a walk makes two entries at one place. -/
theorem visitor_keepsNodup (h : w.KeepsNodup host) (dryRun : Bool) :
    (w.visitor host dryRun).KeepsNodup where
  visit := by
    intro c run hplaces
    change (w.meet host dryRun c run).world.tree.places.Nodup
    unfold meet processFile
    split
    · exact hplaces
    · split
      · have hattempt := h.attempt dryRun c.path
          (h.say (.debug s!"Formatting file: {host.shown c.path}") hplaces)
        simp only
        split
        · next hfail => exact h.say _ (by rwa [hfail] at hattempt)
        · next hdone => exact h.say _ (by rwa [hdone] at hattempt)
      · exact h.say _ hplaces
  unlisted := by
    rintro pass hpass p e run hplaces
    cases hpass
    exact h.say _ hplaces

theorem start_nodup (h : w.KeepsNodup host) (root : Path) (hplaces : world.tree.places.Nodup) :
    (start host root world).world.tree.places.Nodup := by
  unfold start announce
  split
  · exact h.say _ hplaces
  · exact hplaces

/-- Nothing happens twice on a walk. -/
theorem nodup_trace (h : w.KeepsNodup host) (hplaces : world.tree.places.Nodup) (root : Path)
    (recursive dryRun : Bool) :
    ((w.trace host root recursive dryRun world).map Event.heading).Nodup :=
  Visitor.nodup_headings (visitor_keepsNodup h dryRun) (start_nodup h root hplaces) _ _ _ _

/-! ## What each turn adds -/

/-- The world in which a file is attempted. -/
def opening (host : Host) (p : Path) (run : Run) : World :=
  run.world.say host (.debug s!"Formatting file: {host.shown p}")

theorem summary_processFile (w : Walker) (host : Host) (dryRun : Bool) (p : Path) (run : Run) :
    (w.processFile host dryRun p run).summary =
      run.summary.book p (w.attempt host dryRun p (opening host p run)).1 := by
  unfold processFile Summary.book opening
  simp only
  generalize w.attempt host dryRun p _ = attempted
  obtain ⟨ending, after⟩ := attempted
  cases ending <;> rfl

/-- What an event adds to the totals, whatever the engine and the log do. -/
theorem summary_act (w : Walker) (host : Host) (dryRun : Bool) (event : Event) (run : Run) :
    ((w.visitor host dryRun).act run event).summary =
      run.summary.enter w (fun p => (w.attempt host dryRun p (opening host p run)).1) event := by
  cases event with
  | missed p e => rfl
  | met c =>
    change (w.meet host dryRun c run).summary = _
    cases hfile : c.isFile with
    | false => simp [meet, Summary.enter, hfile]
    | true =>
      cases heligible : w.eligible c.path with
      | false => simp [meet, Summary.enter, hfile, heligible]
      | true => simp [meet, Summary.enter, hfile, heligible, summary_processFile]

/-- The world in which a file is attempted among some events: the one after all before it. -/
def turnAmong (w : Walker) (host : Host) (dryRun : Bool) (events : List Event) (run : Run)
    (p : Path) : World :=
  opening host p (w.replay host dryRun (events.takeWhile (· != .met ⟨p, .file⟩)) run)

theorem turnAmong_head : w.turnAmong host dryRun (.met ⟨p, .file⟩ :: events) run p =
    opening host p run := by
  simp [turnAmong, replay]

theorem turnAmong_tail (hne : event ≠ .met ⟨p, .file⟩) :
    w.turnAmong host dryRun (event :: events) run p =
      w.turnAmong host dryRun events ((w.visitor host dryRun).act run event) p := by
  simp [turnAmong, replay, hne]

/-- The turn of a file that is not the first is one among the events behind the first. -/
theorem turnAmong_of_mem (honce : ((event :: events).filterMap w.taken?).Nodup)
    (hp : p ∈ events.filterMap w.taken?) :
    w.turnAmong host dryRun (event :: events) run p =
      w.turnAmong host dryRun events ((w.visitor host dryRun).act run event) p := by
  refine turnAmong_tail ?_
  rintro rfl
  obtain ⟨later, -, htaken⟩ := List.mem_filterMap.mp hp
  rw [List.filterMap_cons_some (taken?_eq_some_iff.mpr ⟨rfl, (taken?_eq_some_iff.mp htaken).2⟩)]
    at honce
  exact (List.nodup_cons.mp honce).1 hp

/-- The totals after some events come from how the attempt at each file ends at its turn. -/
theorem summary_replay (honce : (events.filterMap w.taken?).Nodup) (host : Host) (dryRun : Bool)
    (run : Run) :
    (w.replay host dryRun events run).summary =
      events.foldl (fun s event => s.enter w
        (fun p => (w.attempt host dryRun p (w.turnAmong host dryRun events run p)).1) event)
        run.summary := by
  induction events generalizing run with
  | nil => rfl
  | cons event events ih =>
    have hrest : (events.filterMap w.taken?).Nodup :=
      honce.sublist ((List.sublist_cons_self _ _).filterMap _)
    rw [replay_cons, ih hrest, List.foldl_cons, summary_act]
    have hhead : run.summary.enter w (fun p => (w.attempt host dryRun p (opening host p run)).1)
        event = run.summary.enter w (fun p => (w.attempt host dryRun p
          (w.turnAmong host dryRun (event :: events) run p)).1) event := by
      refine Summary.enter_congr fun p hp => ?_
      obtain ⟨rfl, -⟩ := taken?_eq_some_iff.mp hp
      rw [turnAmong_head]
    rw [hhead]
    refine List.foldl_ext _ _ _ fun s later hlater => Summary.enter_congr fun p hp => ?_
    rw [turnAmong_of_mem honce (List.mem_filterMap.mpr ⟨later, hlater, hp⟩)]

/-- What fails on an event, if anything, and what is said about it. -/
def failing? (w : Walker) (outcome : Path → Except Failure Transformed) : Event →
    Option (Path × String)
  | .missed p e => some (p, e.message)
  | .met c => (w.taken? (.met c)).bind fun p => (complaint? (outcome p)).map (p, ·)

theorem failing?_of_taken? (h : w.taken? event = some p) :
    w.failing? outcome event = (complaint? (outcome p)).map (p, ·) := by
  obtain ⟨rfl, -⟩ := taken?_eq_some_iff.mp h
  simp [failing?, h]

theorem failing?_of_passed {c : Candidate} (h : w.taken? (.met c) = none) :
    w.failing? outcome (.met c) = none := by
  simp [failing?, h]

theorem subject?_of_failing? {message : String}
    (h : w.failing? outcome event = some (p, message)) : w.subject? event = some p := by
  cases event with
  | missed q e => exact congrArg some (congrArg Prod.fst (Option.some.inj h))
  | met c =>
    cases htaken : w.taken? (.met c) with
    | none => simp [failing?_of_passed htaken] at h
    | some q =>
      rw [failing?_of_taken? htaken] at h
      obtain ⟨said, -, hpair⟩ := Option.map_eq_some_iff.mp h
      cases hpair
      exact subject?_of_taken? htaken

theorem complaint?_eq_none_iff : complaint? ending = none ↔ ∃ result, ending = .ok result := by
  cases ending <;> simp [complaint?]

/-- What fails is the files whose attempts do and the directories that are missed. -/
theorem length_failing (w : Walker) (outcome : Path → Except Failure Transformed)
    (events : List Event) :
    (events.filterMap (w.failing? outcome)).length =
      ((events.filterMap w.taken?).filter fun p => (complaint? (outcome p)).isSome).length +
        (events.filterMap Event.missed?).length := by
  induction events with
  | nil => rfl
  | cons event events ih =>
    cases event with
    | missed p e =>
      have htaken : w.taken? (.missed p e) = none := rfl
      simp [failing?, Event.missed?, htaken, ih, Nat.add_assoc]
    | met c =>
      cases htaken : w.taken? (.met c) with
      | none =>
        simp [List.filterMap_cons, failing?_of_passed htaken, Event.missed?, htaken, ih]
      | some p =>
        cases hfails : complaint? (outcome p) <;>
          simp [List.filterMap_cons, failing?_of_taken? htaken, Event.missed?, htaken, hfails, ih,
            Nat.add_right_comm]

end Walker

namespace Summary

/-- What fails is noted, behind what failed before. -/
theorem errors_enter (hfresh : ∀ p ∈ w.subject? event, s.errors.lookup p = none) :
    (s.enter w outcome event).errors = s.errors ++ (w.failing? outcome event).toList := by
  cases htaken : w.taken? event with
  | some p =>
    rw [enter_taken htaken, Walker.failing?_of_taken? htaken]
    have hnone := hfresh p (Walker.subject?_of_taken? htaken)
    cases hends : outcome p with
    | error e =>
      exact setMessage_of_fresh hnone e.message
    | ok result =>
      cases hchanged : result.changed <;>
        simp [book, hchanged, Walker.complaint?, recordChanged, recordProcessed]
  | none =>
    cases event with
    | missed p e => exact setMessage_of_fresh (hfresh p rfl) e.message
    | met c => simp [enter_passed htaken, Walker.failing?_of_passed htaken]

/-- If no path has two turns, the errors of a walk are those of its turns in their order. -/
theorem errors_foldl_enter (honce : (events.filterMap w.subject?).Nodup)
    (hfresh : ∀ p ∈ events.filterMap w.subject?, s.errors.lookup p = none) :
    (events.foldl (fun s event => s.enter w outcome event) s).errors =
      s.errors ++ events.filterMap (w.failing? outcome) := by
  induction events generalizing s with
  | nil => simp
  | cons event events ih =>
    obtain ⟨hrest, hothers⟩ := Walker.subjects_cons honce
    rw [List.foldl_cons, ih hrest, errors_enter, List.append_assoc]
    · cases hfails : w.failing? outcome event <;> simp [hfails]
    · exact fun p hp => hfresh p (by simp [List.filterMap_cons_some hp])
    · intro p hp
      rw [lookup_enter_of_ne (hothers p hp)]
      exact hfresh p (Walker.subjects_cons_subset _ _ hp)

theorem tidy_foldl_enter (honce : (events.filterMap w.subject?).Nodup)
    (hfresh : ∀ p ∈ events.filterMap w.subject?, s.errors.lookup p = none) (h : s.Tidy) :
    (events.foldl (fun s event => s.enter w outcome event) s).Tidy := by
  induction events generalizing s with
  | nil => exact h
  | cons event events ih =>
    obtain ⟨hrest, hothers⟩ := Walker.subjects_cons honce
    refine ih hrest ?_ (h.enter fun p hp => hfresh p (by simp [List.filterMap_cons_some hp]))
    intro p hp
    rw [lookup_enter_of_ne (hothers p hp)]
    exact hfresh p (Walker.subjects_cons_subset _ _ hp)

/-- The count of changes keeps in step with the list of them. -/
theorem changed_enter (h : s.changed = s.changedFiles.length) :
    (s.enter w outcome event).changed = (s.enter w outcome event).changedFiles.length := by
  cases htaken : w.taken? event with
  | some p =>
    rw [enter_taken htaken]
    unfold book
    split
    · exact h
    · split
      · simp [recordChanged, recordProcessed, h]
      · exact h
  | none =>
    cases event with
    | missed p e => exact h
    | met c => rwa [enter_passed htaken]

/-- What is noted about a path is found under it. -/
theorem Tidy.lookup_eq_some_iff (h : s.Tidy) {message : String} :
    s.errors.lookup p = some message ↔ (p, message) ∈ s.errors := by
  constructor
  · intro hlookup
    obtain ⟨before, after, heq, -⟩ := List.lookup_eq_some_iff.mp hlookup
    simp [heq]
  · intro hmem
    obtain ⟨before, after, heq⟩ := List.append_of_mem hmem
    have honce := h.once
    rw [heq, List.map_append, List.nodup_append] at honce
    refine List.lookup_eq_some_iff.mpr ⟨before, after, heq, fun pair hpair => ?_⟩
    simpa using (honce.2.2 pair.1 (List.mem_map_of_mem hpair) p (by simp)).symm

theorem mem_keys_iff : p ∈ s.errors.map Prod.fst ↔ (s.errors.lookup p).isSome := by
  rw [← not_iff_not, Bool.not_eq_true, Option.isSome_eq_false_iff, Option.isNone_iff_eq_none,
    List.lookup_eq_none_iff]
  constructor
  · intro hnot pair hpair
    exact bne_iff_ne.mpr fun heq => hnot (heq ▸ List.mem_map_of_mem hpair)
  · rintro hall hmem
    obtain ⟨pair, hpair, rfl⟩ := List.mem_map.mp hmem
    simpa using hall pair hpair

/-- Every change is counted. -/
theorem changed_foldl_enter (events : List Event) (h : s.changed = s.changedFiles.length) :
    (events.foldl (fun s event => s.enter w outcome event) s).changed =
      (events.foldl (fun s event => s.enter w outcome event) s).changedFiles.length := by
  induction events generalizing s with
  | nil => exact h
  | cons event events ih => exact ih (changed_enter h)

end Summary

namespace Walker

/-! ## How a file can fare -/

/-- A file that did not fail is left as it is: there is nothing in its text to format, or the engine
gives the same text back or rejects it. -/
def Leaves (w : Walker) (host : Host) (p : Path) (world : World) : Prop :=
  ∃ text, world.tree.readText host.faults host.cwd p = .ok text ∧
    (Text.isBlank text = true ∨ (w.gateway.ask text world).1 = .ok text ∨
      ∃ r, (w.gateway.ask text world).1 = .error (.rejected r))

/-- What comes of a text is the text itself for these reasons and no others. -/
theorem unchanged_iff (g : Gateway) (text : String) (world : World) :
    (∃ result, (g.apply text world).1 = .ok result ∧ result.changed = false) ↔
      Text.isBlank text = true ∨ (g.ask text world).1 = .ok text ∨
        ∃ r, (g.ask text world).1 = .error (.rejected r) := by
  rw [Gateway.apply_fst]
  by_cases hblank : Text.isBlank text = true
  · simp [hblank, Transformed.unchanged]
  · rw [if_neg hblank]
    cases hasked : (g.ask text world).1 with
    | ok answer => simp [hblank, Transformed.compare]
    | error e => cases e <;> simp [hblank, Transformed.unchanged]

/-- A file is left as it is exactly if the attempt at it ends well and without a change. -/
theorem leaves_iff (dryRun : Bool) :
    w.Leaves host p world ↔
      ∃ result, (w.attempt host dryRun p world).1 = .ok result ∧ result.changed = false := by
  unfold Leaves attempt
  cases world.tree.readText host.faults host.cwd p with
  | error e => simp
  | ok text =>
    simp only [Except.ok.injEq, exists_eq_left', ← unchanged_iff]
    generalize w.gateway.apply text world = applied
    obtain ⟨outcome, after⟩ := applied
    cases outcome with
    | error e => simp
    | ok result =>
      cases hchanged : result.changed with
      | false => simp [hchanged]
      | true =>
        cases dryRun with
        | true => simp [hchanged]
        | false =>
          simp only [Bool.not_false]
          generalize after.replaceFile host p result.content = replaced
          obtain ⟨ending, final⟩ := replaced
          cases ending <;> simp [hchanged]

/-! ## The whole walk -/

/-- The world in which a file is attempted on a walk. -/
def turn (w : Walker) (host : Host) (root : Path) (recursive dryRun : Bool) (world : World) :
    Path → World :=
  w.turnAmong host dryRun (w.trace host root recursive dryRun world) (start host root world)

/-- How the attempt at a file ends on a walk. -/
def fate (w : Walker) (host : Host) (root : Path) (recursive dryRun : Bool) (world : World)
    (p : Path) : Except Failure Transformed :=
  (w.attempt host dryRun p (w.turn host root recursive dryRun world p)).1

/-- Over a root that exists a walk does with each event of its trace what there is to do. -/
theorem run_eq_replay (hroot : world.tree.pathExists host.cwd root = .ok true) :
    (w.run host root recursive dryRun world).run =
      w.replay host dryRun (w.trace host root recursive dryRun world) (start host root world) := by
  have hstate := (w.visitor host dryRun).traced_run_state host.faults host.cwd recursive root
    (start host root world)
  rw [run_of_exists hroot, conclude_run, ← ((w.visitor host dryRun).traced_run_fst host.faults
    host.cwd recursive root (start host root world) []).1, hstate]
  rfl

/-- When the turn of a file comes, nothing was added, removed or moved. -/
theorem shape_turn (h : w.KeepsShape host)
    (hcwd : ∃ mode, world.tree.Stands host.cwd (.dir mode))
    (hroot : world.tree.pathExists host.cwd root = .ok true) (p : Path) :
    (w.turn host root recursive dryRun world p).tree.shape = world.tree.shape := by
  have hready : (start host root world).Ready host [] (w.taken host root recursive dryRun world) :=
    start_ready h hcwd hroot fun _ _ _ _ => List.not_mem_nil
  have hbefore : (start host root world).Ready host []
      (((w.trace host root recursive dryRun world).takeWhile
        (· != .met ⟨p, .file⟩)).filterMap w.taken?) :=
    hready.of_shape rfl ((List.takeWhile_sublist _).filterMap _).subset
  exact (World.shape_say h.echo _).trans
    ((shape_replay h hbefore dryRun).trans (shape_start h.echo root world))

/-- At the turn of a file the tree is what the events before it left. -/
theorem masked_turn {logs : List Location} (h : host.echo.StaysIn logs) (p : Path) :
    (w.turn host root recursive dryRun world p).tree.masked logs =
      (w.replay host dryRun ((w.trace host root recursive dryRun world).takeWhile
        (· != .met ⟨p, .file⟩)) (start host root world)).world.tree.masked logs :=
  World.masked_say h _

section

variable {logs : List Location} {place : Location} {bytes : Bytes} {mode : Nat}
  (h : w.Steady host logs) (hcwd : ∃ mode, world.tree.Stands host.cwd (.dir mode))
  (hroot : world.tree.pathExists host.cwd root = .ok true)
include h hcwd hroot

/-- An attempt ends as one at the beginning would at what the file has become. -/
theorem fate_of_turn (hfile : (w.turn host root recursive dryRun world p).tree.entryAt? host.cwd
      true p = .ok (place, .file bytes mode)) :
    w.fate host root recursive dryRun world p = w.outcome host dryRun p bytes world := by
  have hshape : (w.turn host root recursive dryRun world p).tree.shape = world.tree.shape :=
    shape_turn h.keepsShape hcwd hroot p
  have hcwd' := Tree.Stands.dir_of_shape hshape.symm hcwd
  exact (attempt_spec h.gateway hcwd' hfile dryRun).eq_outcome.trans
    (outcome_of_shape h.gateway hshape dryRun p bytes)

/-- At its turn a file is as it was if no path before leads to it. -/
theorem file_of_turn (hlogs : ∀ q ∈ w.taken host root recursive dryRun world, ∀ found,
      world.tree.entryAt? host.cwd true q = .ok found → found.1 ∉ logs)
    (hp : p ∈ w.taken host root recursive dryRun world)
    (hfile : world.tree.entryAt? host.cwd true p = .ok (place, .file bytes mode))
    (hbefore : ∀ q ∈ ((w.trace host root recursive dryRun world).takeWhile
      (· != .met ⟨p, .file⟩)).filterMap w.taken?, world.tree.leadsTo host.cwd place q = false) :
    (w.turn host root recursive dryRun world p).tree.entryAt? host.cwd true p =
      .ok (place, .file bytes mode) := by
  have hlog : place ∉ logs := hlogs p hp _ hfile
  have hready : (start host root world).Ready host logs
      (((w.trace host root recursive dryRun world).takeWhile
        (· != .met ⟨p, .file⟩)).filterMap w.taken?) :=
    (start_ready h.keepsShape hcwd hroot hlogs).of_shape rfl
      ((List.takeWhile_sublist _).filterMap _).subset
  have hapart : w.Apart host (start host root world) place
      ((w.trace host root recursive dryRun world).takeWhile (· != .met ⟨p, .file⟩)) := by
    intro q hq
    rw [Tree.leadsTo_of_shape (shape_start h.echo.keepsShape root world)]
    exact hbefore q hq
  refine Tree.file_of_get? (shape_turn h.keepsShape hcwd hroot p).symm hfile ?_
  calc (w.turn host root recursive dryRun world p).tree.get? place
      = _ := Tree.get?_eq_of_masked (masked_turn h.echo p) hlog
    _ = (start host root world).world.tree.get? place := get?_replay h hready dryRun hlog hapart
    _ = world.tree.get? place := Tree.get?_eq_of_masked (masked_start h.echo root world) hlog

end

section

variable (h : w.KeepsNodup host) (hplaces : world.tree.places.Nodup)
include h hplaces

theorem nodup_subjects_trace (root : Path) (recursive dryRun : Bool) :
    ((w.trace host root recursive dryRun world).filterMap w.subject?).Nodup :=
  nodup_subjects (nodup_trace h hplaces root recursive dryRun) w

theorem nodup_taken (root : Path) (recursive dryRun : Bool) :
    (w.taken host root recursive dryRun world).Nodup := by
  refine List.pairwise_filterMap.mpr
    ((List.pairwise_filterMap.mp (nodup_subjects_trace h hplaces root recursive dryRun)).imp ?_)
  exact fun hne p hp q hq =>
    hne p (subject?_of_taken? hp) q (subject?_of_taken? hq)

/-- The totals of a walk come from how the attempt at each file ends. -/
theorem summary_run (hroot : world.tree.pathExists host.cwd root = .ok true)
    (recursive dryRun : Bool) :
    (w.run host root recursive dryRun world).run.summary =
      (w.trace host root recursive dryRun world).foldl
        (fun s event => s.enter w (w.fate host root recursive dryRun world) event) .empty := by
  rw [run_eq_replay hroot]
  exact summary_replay (nodup_taken h hplaces root recursive dryRun) host dryRun _

theorem tidy_run (hroot : world.tree.pathExists host.cwd root = .ok true)
    (recursive dryRun : Bool) :
    (w.run host root recursive dryRun world).run.summary.Tidy := by
  rw [summary_run h hplaces hroot]
  exact Summary.tidy_foldl_enter (nodup_subjects_trace h hplaces root recursive dryRun)
    (fun _ _ => rfl) Summary.tidy_empty

theorem errors_run (hroot : world.tree.pathExists host.cwd root = .ok true)
    (recursive dryRun : Bool) :
    (w.run host root recursive dryRun world).run.summary.errors =
      (w.trace host root recursive dryRun world).filterMap
        (w.failing? (w.fate host root recursive dryRun world)) := by
  rw [summary_run h hplaces hroot, Summary.errors_foldl_enter
    (nodup_subjects_trace h hplaces root recursive dryRun) (fun _ _ => rfl)]
  rfl

theorem changedFiles_run (hroot : world.tree.pathExists host.cwd root = .ok true)
    (recursive dryRun : Bool) :
    (w.run host root recursive dryRun world).run.summary.changedFiles =
      (w.taken host root recursive dryRun world).filter fun p =>
        changes (w.fate host root recursive dryRun world p) := by
  rw [summary_run h hplaces hroot, Summary.changedFiles_foldl_enter]
  rfl

/-- A file that is processed is noted as failed if the attempt at it failed. -/
theorem lookup_run_of_taken (hroot : world.tree.pathExists host.cwd root = .ok true)
    (hp : p ∈ w.taken host root recursive dryRun world) :
    (w.run host root recursive dryRun world).run.summary.errors.lookup p =
      complaint? (w.fate host root recursive dryRun world p) := by
  have htidy := tidy_run h hplaces hroot recursive dryRun
  have herrors := errors_run h hplaces hroot recursive dryRun
  obtain ⟨hmet, heligible⟩ := mem_taken_iff.mp hp
  have htaken : w.taken? (.met ⟨p, .file⟩) = some p := taken?_eq_some_iff.mpr ⟨rfl, heligible⟩
  have hnote : ∀ message,
      (p, message) ∈ (w.run host root recursive dryRun world).run.summary.errors ↔
        complaint? (w.fate host root recursive dryRun world p) = some message := by
    intro message
    rw [herrors, List.mem_filterMap]
    constructor
    · rintro ⟨event, hevent, hfails⟩
      have hsame : event = .met ⟨p, .file⟩ :=
        List.inj_on_of_nodup_map (nodup_trace h hplaces root recursive dryRun) hevent hmet
          ((heading_of_subject? (subject?_of_failing? hfails)).trans rfl)
      rw [hsame, failing?_of_taken? htaken] at hfails
      simpa using hfails
    · intro hfails
      exact ⟨_, hmet, by rw [failing?_of_taken? htaken, hfails]; rfl⟩
  refine Option.ext fun message => ?_
  rw [htidy.lookup_eq_some_iff, hnote]

theorem lookup_run_of_missed (hroot : world.tree.pathExists host.cwd root = .ok true)
    {e : SystemError} (hmissed : .missed p e ∈ w.trace host root recursive dryRun world) :
    (w.run host root recursive dryRun world).run.summary.errors.lookup p = some e.message := by
  rw [(tidy_run h hplaces hroot recursive dryRun).lookup_eq_some_iff,
    errors_run h hplaces hroot]
  exact List.mem_filterMap.mpr ⟨_, hmissed, rfl⟩

end

section

variable (h : w.KeepsNodup host) (hplaces : world.tree.places.Nodup)
  (hroot : world.tree.pathExists host.cwd root = .ok true)
include h hplaces hroot

/-- A file that a walk processes has changed, has failed, or was left as it is. -/
theorem classes_of_taken (hp : p ∈ w.taken host root recursive dryRun world) :
    let noted := (w.run host root recursive dryRun world).run.summary
    let left := w.Leaves host p (w.turn host root recursive dryRun world p)
    (p ∈ noted.changedFiles ∧ p ∉ noted.errors.map Prod.fst ∧ ¬left) ∨
      (p ∉ noted.changedFiles ∧ p ∈ noted.errors.map Prod.fst ∧ ¬left) ∨
        (p ∉ noted.changedFiles ∧ p ∉ noted.errors.map Prod.fst ∧ left) := by
  intro noted left
  have hlookup : noted.errors.lookup p = _ := lookup_run_of_taken h hplaces hroot hp
  have hchanged : p ∈ noted.changedFiles ↔
      changes (w.fate host root recursive dryRun world p) = true := by
    rw [changedFiles_run h hplaces hroot, List.mem_filter]
    exact and_iff_right hp
  have hleft : left ↔ ∃ result, w.fate host root recursive dryRun world p = .ok result ∧
      result.changed = false := leaves_iff dryRun
  rw [Summary.mem_keys_iff, hlookup, hchanged, hleft]
  cases hfate : w.fate host root recursive dryRun world p with
  | error e => simp [changes, complaint?]
  | ok result => cases hresult : result.changed <;> simp [changes, complaint?, hresult]

/-- What is counted as failed is the files that failed and the directories that were missed. -/
theorem failed_run (recursive dryRun : Bool) :
    let noted := (w.run host root recursive dryRun world).run.summary
    noted.failed =
      ((w.taken host root recursive dryRun world).filter
          fun p => p ∈ noted.errors.map Prod.fst).length +
        ((w.trace host root recursive dryRun world).filterMap Event.missed?).length := by
  intro noted
  have hfiles : (w.taken host root recursive dryRun world).filter
        (fun p => p ∈ noted.errors.map Prod.fst) =
      (w.taken host root recursive dryRun world).filter
        fun p => (complaint? (w.fate host root recursive dryRun world p)).isSome := by
    refine List.filter_congr fun p hp => ?_
    rw [Bool.eq_iff_iff, decide_eq_true_iff, Summary.mem_keys_iff]
    rw [lookup_run_of_taken h hplaces hroot hp]
  rw [hfiles, (tidy_run h hplaces hroot recursive dryRun).counted, errors_run h hplaces hroot]
  exact length_failing w _ _

end

/-- A walk that came to its end is told by whether something was counted as failed. -/
theorem failure?_of_finished (h : (w.run host root recursive dryRun world).Finished) :
    let report := w.run host root recursive dryRun world
    (report.failure? = none ↔ report.run.summary.failed = 0) ∧
      ∀ s, report.failure? = some (.partialFailure s) ↔
        0 < report.run.summary.failed ∧ s = report.run.summary := by
  rcases run_cases (exists_of_finished h) w recursive dryRun with
    ⟨hfailure, hfailed⟩ | ⟨hfailure, hfailed⟩ | ⟨path, hfailure⟩
  · simp [hfailure, hfailed]
  · simp [hfailure, hfailed, Nat.ne_of_gt hfailed, eq_comm]
  · simp [Report.Finished, hfailure] at h

/-- The totals of a walk that comes to the end of its traversal account for every file that it
meets and that is eligible, whatever the engine, the devices and the log do: each of them has
changed, has failed, or was left as it is for one of three reasons. The changed ones are listed once
each, in the order of the walk. What is counted as failed is these files and the directories that
could not be listed; each of them has a message of its own, which nothing replaces. The walk ends
with a failure if there is any of these, and then with these totals. A walk that moves nothing
around meets what a survey of the tree meets. -/
theorem run_accounted (w : Walker) (host : Host) (root : Path) (recursive dryRun : Bool)
    (world : World) (hkeep : w.KeepsNodup host) (hplaces : world.tree.places.Nodup)
    (hfinished : (w.run host root recursive dryRun world).Finished) :
    let report := w.run host root recursive dryRun world
    let noted := report.run.summary
    let events := w.trace host root recursive dryRun world
    let met := events.filterMap Event.candidate?
    let missed := events.filterMap Event.missed?
    let files := (met.filter fun c => c.isFile && w.eligible c.path).map Candidate.path
    let failed := noted.errors.map Prod.fst
    let left := fun p => w.Leaves host p (w.turn host root recursive dryRun world p)
    noted.processed = files.length ∧ files.Nodup ∧
    (∀ p ∈ files, (p ∈ noted.changedFiles ∧ p ∉ failed ∧ ¬left p) ∨
      (p ∉ noted.changedFiles ∧ p ∈ failed ∧ ¬left p) ∨
        (p ∉ noted.changedFiles ∧ p ∉ failed ∧ left p)) ∧
    noted.changed = noted.changedFiles.length ∧ noted.changedFiles.Nodup ∧
    noted.changedFiles.Sublist files ∧
    noted.failed = (files.filter (· ∈ failed)).length + missed.length ∧
    noted.failed = failed.length ∧ failed.Nodup ∧
    (∀ p ∈ files, ∀ e, w.fate host root recursive dryRun world p = .error e →
      noted.errors.lookup p = some e.message) ∧
    (∀ miss ∈ missed, noted.errors.lookup miss.1 = some miss.2.message) ∧
    (report.failure? = none ↔ noted.failed = 0) ∧
    (∀ s, report.failure? = some (.partialFailure s) ↔ 0 < noted.failed ∧ s = noted) ∧
    (w.KeepsShape host → (∃ mode, world.tree.Stands host.cwd (.dir mode)) →
      met = (Survey.take world.tree host.faults host.cwd root recursive true).state.candidates) := by
  intro report noted events met missed files failed left
  have hroot := exists_of_finished hfinished
  have hfiles : files = w.taken host root recursive dryRun world :=
    (taken?_eq_candidate w events).symm
  have htidy : noted.Tidy := tidy_run hkeep hplaces hroot recursive dryRun
  have hchanged : noted.changedFiles.Sublist files := by
    rw [hfiles, changedFiles_run hkeep hplaces hroot]
    exact List.filter_sublist
  have honce : files.Nodup := hfiles ▸ nodup_taken hkeep hplaces root recursive dryRun
  obtain ⟨hnone, hpartial⟩ := failure?_of_finished hfinished
  refine ⟨?_, honce, ?_, ?_, honce.sublist hchanged, hchanged, ?_, ?_, htidy.once, ?_, ?_, hnone,
    hpartial, ?_⟩
  · rw [hfiles]
    exact run_processed hroot
  · intro p hp
    exact classes_of_taken hkeep hplaces hroot (hfiles ▸ hp)
  · rw [show noted = _ from summary_run hkeep hplaces hroot recursive dryRun]
    exact Summary.changed_foldl_enter _ rfl
  · rw [hfiles]
    exact failed_run hkeep hplaces hroot recursive dryRun
  · rw [htidy.counted, List.length_map]
  · intro p hp e hfate
    rw [lookup_run_of_taken hkeep hplaces hroot (hfiles ▸ hp), hfate, complaint?]
  · intro miss hmiss
    obtain ⟨event, hevent, hpair⟩ := List.mem_filterMap.mp hmiss
    cases event with
    | met c => cases hpair
    | missed p e =>
      cases hpair
      exact lookup_run_of_missed hkeep hplaces hroot hevent
  · intro hshape hcwd
    rw [Survey.take_eq_events, ← (trace_eq_events hshape hcwd root recursive dryRun).1]

theorem sourceWalker_keepsNodup (h : host.echo = .silent) : sourceWalker.KeepsNodup host where
  engine := fun _ _ _ hplaces => hplaces
  sink := fun _ h => nomatch h
  echo := fun _ _ _ hplaces => by rwa [h]

section

variable {hidden : Bool} {answer : String} (h : Mixed w host hidden answer)
  (hq : q ∈ mixedSources hidden)
  (halone : ∀ p ∈ mixedSources hidden, p ≠ q → mixedTarget q ≠ mixedTarget p)
include h hq halone

/-- At its turn a source is as it was, if no other leads to the same file. -/
theorem Mixed.file_of_turn (dryRun : Bool) :
    (w.turn host ⟨.relative, ["p"]⟩ true dryRun (World.ofTree mixedTree) q).tree.entryAt? host.cwd
      true q = .ok (mixedTarget q, .file (mixedBytes q) 0o644) := by
  have htaken := h.taken dryRun
  refine Walker.file_of_turn h.steady h.stands h.pathExists (fun _ _ _ _ => List.not_mem_nil)
    (htaken ▸ hq) (h.entryAt? hq) fun p hp => ?_
  obtain ⟨event, hevent, hmet⟩ := List.mem_filterMap.mp hp
  obtain ⟨rfl, -⟩ := taken?_eq_some_iff.mp hmet
  have hp' : p ∈ mixedSources hidden := htaken ▸
    List.mem_filterMap.mpr ⟨_, (List.takeWhile_sublist _).subset hevent, hmet⟩
  rw [Bool.eq_false_iff, ne_eq, Tree.leadsTo_of_file (h.entryAt? hp')]
  refine halone p hp' ?_
  rintro rfl
  simpa using List.mem_takeWhile_imp hevent

theorem Mixed.fate (dryRun : Bool) :
    w.fate host ⟨.relative, ["p"]⟩ true dryRun (World.ofTree mixedTree) q =
      mixedEnding host.faults answer dryRun q :=
  (fate_of_turn h.steady h.stands h.pathExists (h.file_of_turn hq halone dryRun)).trans
    (h.outcome hq dryRun)

end

/-- Two files change and one is empty. The other two and a directory are counted as failed. -/
theorem run_accounted_of_mixedTree :
    let report := sourceWalker.run mixedHost ⟨.relative, ["p"]⟩ true false (World.ofTree mixedTree)
    let noted := report.run.summary
    report.failure? = some (.partialFailure noted) ∧ noted.processed = 5 ∧ noted.changed = 2 ∧
      noted.changedFiles = [⟨.relative, ["p", "b", "X.java"]⟩, ⟨.relative, ["p", "l.java"]⟩] ∧
      noted.failed = 3 ∧
      noted.errors.lookup ⟨.relative, ["p", "c"]⟩ =
        some "[Errno 13] Permission denied: 'p/c'" := by
  intro report noted
  have hmixed := sourceWalker_mixed
  have hkeep : sourceWalker.KeepsNodup mixedHost := sourceWalker_keepsNodup rfl
  have hplaces : (World.ofTree mixedTree).tree.places.Nodup := by decide
  have hfinished : report.Finished := hmixed.finished false
  have halone : ∀ q ∈ mixedSources true, ∀ p ∈ mixedSources true, p ≠ q →
      mixedTarget q ≠ mixedTarget p := by decide
  obtain ⟨hprocessed, -, -, hchanged, -, -, hfailed, -, -, -, hmissed, -, hpartial, -⟩ :=
    run_accounted sourceWalker mixedHost ⟨.relative, ["p"]⟩ true false (World.ofTree mixedTree)
      hkeep hplaces hfinished
  have htrace : sourceWalker.trace mixedHost ⟨.relative, ["p"]⟩ true false
      (World.ofTree mixedTree) = mixedEvents true :=
    mixedTree_trace hmixed.steady.keepsShape rfl mixedFaults_list false
  have hsources : (((mixedEvents true).filterMap Event.candidate?).filter
      fun c => c.isFile && sourceWalker.eligible c.path).map Candidate.path = mixedSources true := by
    decide
  rw [htrace, hsources] at hprocessed hfailed
  rw [htrace] at hmissed
  have hdone := fun q (hq : q ∈ mixedSources true) => hmixed.done hq (halone q hq) false
  have hfiles : noted.changedFiles =
      [⟨.relative, ["p", "b", "X.java"]⟩, ⟨.relative, ["p", "l.java"]⟩] := by
    have hends : (mixedSources true).filter
        (fun q => changes (mixedEnding mixedFaults "x
" false q)) =
          [⟨.relative, ["p", "b", "X.java"]⟩, ⟨.relative, ["p", "l.java"]⟩] := by decide
    rw [show noted.changedFiles = _ from changedFiles_run hkeep hplaces hmixed.pathExists true
      false, hmixed.taken, ← hends]
    exact List.filter_congr fun q hq => by rw [hmixed.fate hq (halone q hq)]; rfl
  have hcount : noted.failed = 3 := by
    have hends : (mixedSources true).filter
        (fun q => (complaint? (mixedEnding mixedFaults "x
" false q)).isSome) =
          [⟨.relative, ["p", "a", "X.java"]⟩, ⟨.relative, ["p", "z.java"]⟩] := by decide
    have hsame : (mixedSources true).filter (· ∈ noted.errors.map Prod.fst) =
        (mixedSources true).filter
          fun q => (complaint? (mixedEnding mixedFaults "x
" false q)).isSome := by
      refine List.filter_congr fun q hq => ?_
      rw [Bool.eq_iff_iff, decide_eq_true_iff, Summary.mem_keys_iff, (hdone q hq).1]
      rfl
    rw [hfailed, hsame, hends]
    rfl
  exact ⟨(hpartial noted).mpr ⟨hcount ▸ by decide, rfl⟩, hprocessed, by rw [hchanged, hfiles]; rfl,
    hfiles, hcount, hmissed ⟨_, _⟩ (List.mem_singleton_self _)⟩

end Walker
end BatchFormat
