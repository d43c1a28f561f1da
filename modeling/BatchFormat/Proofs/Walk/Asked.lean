import BatchFormat.Proofs.Traverse.Unlisted
import BatchFormat.Proofs.Walk.Account

/-!
# What the engine is asked

A file that is processed is read once, and its text is sent to the engine once if there is something
in it. So the texts that an engine is asked on a walk are those of the files, in the order of the
walk, each as it is when its turn comes.
-/
namespace BatchFormat

variable {w : Walker} {host : Host} {world : World} {run : Run} {p root : Path}
  {recursive dryRun : Bool} {event : Event} {events : List Event} {faults : Faults}

/-- Neither the engine nor the sink touches the list of what was asked. -/
structure Gateway.KeepsAsked (g : Gateway) : Prop where
  engine : ∀ settings content (world : World),
    (g.engine.transform settings content world).2.asked = world.asked
  sink : ∀ sink ∈ g.sink?, ∀ r (world : World), (sink r world).asked = world.asked

theorem Gateway.KeepsAsked.apply {g : Gateway} (h : g.KeepsAsked) (content : String)
    (world : World) :
    (g.apply content world).2.asked =
      world.asked ++ if Text.isBlank content then [] else [content] := by
  have hask : (g.ask content world).2.asked = world.asked ++ [content] := h.engine _ _ _
  refine Gateway.after_apply (I := fun after => after.asked = _) (fun hblank => ?_)
    (fun hfull => ?_) fun sink hsink r after hafter => (h.sink sink hsink r after).trans hafter
  · simp [hblank]
  · simpa [hfull] using hask

theorem World.asked_replaceFile (host : Host) (p : Path) (content : String) (world : World) :
    (world.replaceFile host p content).2.asked = world.asked := by
  unfold replaceFile
  split <;> rfl

namespace Walker

/-- The text of a file that is sent to the engine: one that can be read and is not blank. -/
def sent? (host : Host) (p : Path) (world : World) : Option String :=
  match world.tree.readText host.faults host.cwd p with
  | .error _ => none
  | .ok text => if Text.isBlank text then none else some text

theorem asked_attempt (h : w.gateway.KeepsAsked) (dryRun : Bool) (p : Path) (world : World) :
    (w.attempt host dryRun p world).2.asked =
      world.asked ++ (sent? host p world).toList := by
  refine after_attempt (I := fun after => after.asked = _) (fun e hread => ?_)
    (fun text hread => ?_)
    fun _ content after hafter => (World.asked_replaceFile host p content after).trans hafter
  · simp [sent?, hread]
  · rw [h.apply text world]
    simp only [sent?, hread]
    split <;> rfl

/-- What the engine is asked on an event. -/
theorem asked_act (h : w.gateway.KeepsAsked) (dryRun : Bool) (event : Event) (run : Run) :
    ((w.visitor host dryRun).act run event).world.asked =
      run.world.asked ++
        ((w.taken? event).bind fun p => sent? host p (opening host p run)).toList := by
  cases event with
  | missed p e => exact (List.append_nil _).symm
  | met c =>
    change (w.meet host dryRun c run).world.asked = _
    unfold meet
    cases hfile : c.isFile with
    | false => simp [taken?, hfile]
    | true =>
      cases heligible : w.eligible c.path with
      | false => simp [taken?, hfile, heligible, World.say]
      | true =>
        have hattempt : (w.attempt host dryRun c.path _).2.asked = _ :=
          asked_attempt h dryRun c.path (opening host c.path run)
        have hopening : (opening host c.path run).asked = run.world.asked := rfl
        rw [hopening] at hattempt
        unfold opening at hattempt
        simp only [taken?, hfile, heligible, Bool.not_true, Bool.false_eq_true, if_false, if_true,
          Bool.and_self, Option.bind_some, processFile]
        split
        · next hfail => rwa [hfail] at hattempt
        · next hdone => rwa [hdone] at hattempt

/-- The engine is asked once for each file that can be read and is not blank, in the order of their
turns. -/
theorem asked_replay (h : w.gateway.KeepsAsked) (honce : (events.filterMap w.taken?).Nodup)
    (dryRun : Bool) (run : Run) :
    (w.replay host dryRun events run).world.asked =
      run.world.asked ++ (events.filterMap w.taken?).filterMap fun p =>
        sent? host p (w.turnAmong host dryRun events run p) := by
  induction events generalizing run with
  | nil => exact (List.append_nil _).symm
  | cons event events ih =>
    have hrest : (events.filterMap w.taken?).Nodup :=
      honce.sublist ((List.sublist_cons_self _ _).filterMap _)
    have htail : (events.filterMap w.taken?).filterMap (fun p =>
          sent? host p (w.turnAmong host dryRun (event :: events) run p)) =
        (events.filterMap w.taken?).filterMap fun p => sent? host p
          (w.turnAmong host dryRun events ((w.visitor host dryRun).act run event) p) :=
      List.filterMap_congr fun p hp => by rw [turnAmong_of_mem honce hp]
    rw [replay_cons, ih hrest, asked_act h, List.append_assoc, ← htail]
    congr 1
    cases htaken : w.taken? event with
    | none => simp [htaken]
    | some p =>
      obtain ⟨rfl, -⟩ := taken?_eq_some_iff.mp htaken
      rw [List.filterMap_cons_some htaken, List.filterMap_cons, turnAmong_head, Option.bind_some]
      cases sent? host p (opening host p run) <;> rfl

/-! ## The whole walk -/

/-- A walk takes no files where nothing is. -/
theorem taken_of_not_exists (h : w.KeepsShape host)
    (hcwd : ∃ mode, world.tree.Stands host.cwd (.dir mode))
    (hroot : world.tree.pathExists host.cwd root ≠ .ok true) (recursive dryRun : Bool) :
    w.taken host root recursive dryRun world = [] := by
  rw [taken, (trace_eq_events h hcwd root recursive dryRun).1, List.filterMap_eq_nil_iff]
  intro event hevent
  obtain ⟨e, rfl⟩ := Tree.events_of_not_exists hroot event hevent
  rfl

/-- An engine is asked the texts of the files, in the order of the walk, and nothing else. -/
theorem asked_run (h : w.gateway.KeepsAsked) (hkeep : w.KeepsNodup host)
    (hshape : w.KeepsShape host) (hcwd : ∃ mode, world.tree.Stands host.cwd (.dir mode))
    (hplaces : world.tree.places.Nodup) (root : Path) (recursive dryRun : Bool) :
    (w.run host root recursive dryRun world).run.world.asked =
      world.asked ++ (w.taken host root recursive dryRun world).filterMap fun p =>
        sent? host p (w.turn host root recursive dryRun world p) := by
  by_cases hroot : world.tree.pathExists host.cwd root = .ok true
  · have hstart : (start host root world).world.asked = world.asked := by
      unfold start announce
      split <;> rfl
    rw [run_eq_replay hroot, asked_replay h (nodup_taken hkeep hplaces root recursive dryRun),
      hstart]
    rfl
  · rw [taken_of_not_exists hshape hcwd hroot, run_eq_course hshape hcwd,
      course_of_not_exists hroot]
    have hbegun : begun host root world = ⟨world, .empty⟩ := by
      unfold begun
      split
      · next hexists => exact (hroot hexists).elim
      · rfl
    rw [hbegun]
    exact (List.append_nil _).symm

end Walker
end BatchFormat
