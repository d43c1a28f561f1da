import BatchFormat.Proofs.Engine.Soft
import BatchFormat.Proofs.Journal.LogFiles
import BatchFormat.Proofs.Pairs
import BatchFormat.Proofs.Session.Prepare
import BatchFormat.Proofs.Walk.Replay
import BatchFormat.Session

/-!
# What a log file gets during a run

A run writes to a log file when it tells something, and its engine and the programs that the engine
starts have no business with it. So each step of a run adds the lines of its records to the file and
leaves it alone otherwise, unless the file is one of those that the run replaces.
-/
namespace BatchFormat

variable {j : Journal} {stamp : String} {place : Location} {w after later : World} {host : Host}
  {g : Gateway} {walker : Walker} {run : Run} {p root : Path} {content : String}
  {recursive dryRun : Bool} {registry : Registry} {i : Invocation} {t : Tree}

/-- Between two worlds the log file at a place got the lines of the records that were told, if no
new file was moved over it. -/
structure World.Records (j : Journal) (stamp : String) (place : Location) (w after : World) :
    Prop where
  replaced : w.replaced <+: after.replaced
  written : ∃ told, after.log = w.log ++ told ∧ (place ∉ after.replaced →
    ∀ bytes mode, w.tree.get? place = some (.file bytes mode) →
      after.tree.get? place =
        some (.file (bytes ++ Journal.lines (j.copies place) (told.map (stamp, ·))) mode))

namespace World.Records

theorem elsewhere (hlog : after.log = w.log) (hreplaced : after.replaced = w.replaced)
    (hget : after.tree.get? place = w.tree.get? place) : Records j stamp place w after where
  replaced := hreplaced ▸ List.prefix_rfl
  written := ⟨[], by simpa using hlog, fun _ bytes mode hfile => by
    simpa [Journal.lines] using hget.trans hfile⟩

theorem refl (j : Journal) (stamp : String) (place : Location) (w : World) :
    Records j stamp place w w := elsewhere rfl rfl rfl

theorem trans (h : Records j stamp place w after) (h' : Records j stamp place after later) :
    Records j stamp place w later where
  replaced := h.replaced.trans h'.replaced
  written := by
    obtain ⟨told, hlog, hfile⟩ := h.written
    obtain ⟨told', hlog', hfile'⟩ := h'.written
    refine ⟨told ++ told', by rw [hlog', hlog, List.append_assoc], fun hplace bytes mode hget => ?_⟩
    have hbefore : place ∉ after.replaced := fun hmem => hplace (h'.replaced.subset hmem)
    rw [hfile' hplace _ _ (hfile hbefore _ _ hget)]
    simp [Journal.lines, List.append_assoc]

/-- A record that is told is written. -/
theorem say (hecho : host.echo = j.echo stamp) (r : Record) (w : World) :
    Records j stamp place w (w.say host r) where
  replaced := List.prefix_rfl
  written := ⟨[r], rfl, fun hplace bytes mode hget => by
    rw [World.say, hecho]
    exact Journal.get?_echo hplace hget⟩

theorem tell (hecho : host.echo = j.echo stamp) (told : List Record) (w : World) :
    Records j stamp place w (told.foldl (fun w r => w.say host r) w) := by
  induction told generalizing w with
  | nil => exact refl j stamp place w
  | cons r told ih => exact (say hecho r w).trans (ih _)

/-- A replacement touches the one file that it notes. -/
theorem replaceFile (host : Host) (p : Path) (content : String) (w : World) :
    Records j stamp place w (w.replaceFile host p content).2 := by
  unfold World.replaceFile
  rcases Tree.replace_cases w.tree host.faults (host.draw p) host.cwd p content with
    ⟨e, hfail⟩ | ⟨real, there, old, followed, htarget, hdone⟩
  · simp only [hfail]
    exact refl j stamp place w
  · simp only [hdone]
    refine ⟨List.prefix_append _ _, [], by simp, fun hplace bytes mode hget => ?_⟩
    have hne : place ≠ there := fun heq => hplace (by simp [heq])
    simpa [Journal.lines, Tree.get?_put_of_ne hne] using hget

end World.Records

open World (Records)

/-- An engine has no business with the log file at a place but to tell what it does. -/
def Engine.Records (e : Engine) (j : Journal) (stamp : String) (place : Location) : Prop :=
  ∀ settings content w, World.Records j stamp place w (e.transform settings content w).2

theorem Gateway.records_apply (hengine : g.engine.Records j stamp place)
    (hsink : ∀ sink ∈ g.sink?, ∀ r w, Records j stamp place w (sink r w)) (content : String)
    (w : World) : Records j stamp place w (g.apply content w).2 := by
  have hasked : Records j stamp place w { w with asked := w.asked ++ [content] } :=
    .elsewhere rfl rfl rfl
  have hask : Records j stamp place w (g.ask content w).2 :=
    hasked.trans (hengine g.settings content _)
  exact Gateway.after_apply (fun _ => .refl j stamp place w) (fun _ => hask)
    fun sink hsome r after hafter => hafter.trans (hsink sink hsome r after)

/-! ## A walk -/

namespace Walker

/-- Neither the engine of a walker nor its sink has any business with the log file at a place. -/
structure Records (walker : Walker) (j : Journal) (stamp : String) (place : Location) : Prop where
  engine : walker.gateway.engine.Records j stamp place
  sink : ∀ sink ∈ walker.gateway.sink?, ∀ r w, World.Records j stamp place w (sink r w)

variable (h : walker.Records j stamp place) (hecho : host.echo = j.echo stamp)
include h

theorem records_attempt (host : Host) (dryRun : Bool) (p : Path) (w : World) :
    World.Records j stamp place w (walker.attempt host dryRun p w).2 :=
  after_attempt (I := World.Records j stamp place w) (fun _ _ => .refl j stamp place w)
    (fun text _ => Gateway.records_apply h.engine h.sink text w)
    fun _ content after hafter => hafter.trans (World.Records.replaceFile host p content after)

include hecho

/-- The turn of an entry appends to the log what it says. -/
theorem records_meet (dryRun : Bool) (c : Candidate) (run : Run) :
    World.Records j stamp place run.world (walker.meet host dryRun c run).world := by
  unfold meet
  split
  · exact .refl j stamp place run.world
  · split
    · unfold processFile
      have hbegun : World.Records j stamp place run.world
          (run.world.say host (.debug s!"Formatting file: {host.shown c.path}")) :=
        .say hecho _ _
      have hattempt := hbegun.trans (records_attempt h host dryRun c.path _)
      simp only
      split
      · next hfail =>
        rw [hfail] at hattempt
        exact hattempt.trans (.say hecho _ _)
      · next hdone =>
        rw [hdone] at hattempt
        exact hattempt.trans (.say hecho _ _)
    · exact .say hecho _ _

/-- What each visit adds to the log file, the whole walk adds. -/
theorem records_run (root : Path) (recursive dryRun : Bool) (w : World) :
    World.Records j stamp place w (walker.run host root recursive dryRun w).run.world := by
  unfold run
  split
  · exact .refl j stamp place w
  · exact .refl j stamp place w
  · split
    · exact .refl j stamp place w
    · rw [conclude_run]
      refine Visitor.run_invariant (I := fun run : Run =>
        World.Records j stamp place w run.world) ?_ ?_ root ?_
      · exact fun c run hrun => hrun.trans (records_meet h hecho dryRun c run)
      · rintro pass hpass p e run hrun
        cases hpass
        exact hrun.trans (.say hecho _ _)
      · unfold announce
        split
        · exact .say hecho _ _
        · exact .refl j stamp place w

end Walker

/-! ## A whole run -/

namespace Plan

/-- The preparation of a run appends to the log what it says. -/
theorem records_prepare (hecho : host.echo = j.echo stamp) (registry : Registry) (i : Invocation)
    (w : World) : Records j stamp place w (prepare registry host i w).2 := by
  have htold : Records j stamp place w (told host i w) := .tell hecho _ w
  rw [prepare_eq]
  split
  · exact htold
  · split
    · exact htold
    · next root _ =>
      have hloaded : Records j stamp place w (loaded host i root w) :=
        htold.trans (.tell hecho _ _)
      split
      · exact hloaded
      · simp only
        split
        · exact hloaded.trans (.say hecho _ _)
        · exact hloaded.trans (.say hecho _ _)

/-- A walk appends to the log what it says. -/
theorem records_execute {plan : Plan} (h : plan.walker.Records j stamp place)
    (hecho : host.echo = j.echo stamp) (w : World) :
    Records j stamp place w (plan.execute host w).2 := by
  have htell : ∀ i summary w, Records j stamp place w (tell host i summary w).2 := by
    intro i summary w
    unfold tell
    split
    · exact .refl j stamp place w
    · exact .tell hecho _ w
  have hwalk := Walker.records_run h hecho plan.invocation.target plan.invocation.recursive
    plan.invocation.dryRun w
  unfold execute
  simp only
  split
  · exact hwalk.trans (htell _ _ _)
  · exact hwalk.trans ((World.Records.say hecho _ _).trans (htell _ _ _))
  · exact hwalk

/-- The walker of a plan has no business with a log file if its engine has none. -/
theorem records_walker {plan : Plan} (hecho : host.echo = j.echo stamp)
    (hengine : ∀ provider, registry.get host.environment i.provider (options i) = .ok provider →
      (provider.engine host).Records j stamp place)
    (h : prepare registry host i w = (.ok plan, after)) : plan.walker.Records j stamp place := by
  obtain ⟨root, provider, eligible, hfound, rfl, -⟩ := prepare_ok_iff.mp h
  refine ⟨hengine provider hfound.registered, ?_⟩
  intro sink hsink r w
  simp only [made] at hsink
  split at hsink
  · cases hsink
    exact .say hecho _ w
  · cases hsink

end Plan

namespace Session

/-- All that a run does to a log file is to write down what it tells. -/
theorem records_guarded (hecho : host.echo = j.echo stamp)
    (hengine : ∀ provider,
      registry.get host.environment i.provider (Plan.options i) = .ok provider →
        (provider.engine host).Records j stamp place)
    (wording : Wording) (w : World) :
    Records j stamp place w (guarded registry host wording i w).2 := by
  have hwork : Records j stamp place w (work registry host i w).2 := by
    have hprepare : Records j stamp place w (Plan.prepare registry host i w).2 :=
      Plan.records_prepare hecho registry i w
    unfold work
    split
    · next hfail => rwa [hfail] at hprepare
    · next plan ready hready =>
      rw [hready] at hprepare
      exact hprepare.trans (Plan.records_execute (Plan.records_walker hecho hengine hready) hecho _)
  unfold guarded
  split
  · next hdone => rwa [hdone] at hwork
  · next hfail =>
    rw [hfail] at hwork
    simp only
    split
    · exact hwork.trans ((World.Records.say hecho _ _).trans (.say hecho _ _))
    · exact hwork.trans (.say hecho _ _)

end Session

/-! ## The engines that are always there -/

theorem Tree.get?_prune {above : Location} (h : ¬above <+: place) :
    (t.prune above).get? place = t.get? place := by
  have hbelow : above.isPrefixOf place = false :=
    Bool.eq_false_iff.mpr fun hprefix => h (List.isPrefixOf_iff_prefix.mp hprefix)
  unfold get? prune
  split
  · rfl
  · have hkept := lookup_filter_fst (fun other => !above.isPrefixOf other) place t.entries
    simpa [hbelow] using hkept

/-- The programs that are started leave the entry at a place alone. -/
def Host.Spares (host : Host) (place : Location) : Prop :=
  ∀ request t, (host.launch request t).2.get? place = t.get? place

theorem Identity.records : Identity.engine.Records j stamp place :=
  fun _ _ w => .refl j stamp place w

theorem Command.records (hecho : host.echo = j.echo stamp) (hlaunch : host.Spares place)
    (c : Command) : (c.engine host).Records j stamp place := by
  intro settings content w
  change World.Records j stamp place w (c.transform host content w).2
  unfold transform
  split
  · exact .refl j stamp place w
  · exact (World.Records.say hecho _ w).trans (.elsewhere rfl rfl (hlaunch _ _))

/-- Nothing that Eclipse needs is at a place outside of the scratch directory. -/
theorem Eclipse.records (hecho : host.echo = j.echo stamp) (hlaunch : host.Spares place)
    (hscratch : ¬host.scratch <+: place) (e : Eclipse) :
    (e.engine host).Records j stamp place := by
  have hwork : ∀ w, World.Records j stamp place w (e.work host w).2 := by
    intro w
    unfold work
    simp only
    split
    · exact .refl j stamp place w
    · have hlaunched : ∀ r request, World.Records j stamp place w
          { w.say host r with tree := (host.launch request (w.say host r).tree).2 } :=
        fun r _ => (World.Records.say hecho r w).trans (.elsewhere rfl rfl (hlaunch _ _))
      split
      · exact hlaunched _ _
      · exact hlaunched _ _
  intro settings content w
  have hunpack : World.Records j stamp place w
      { w with tree := unpack host.scratch settings content w.tree } :=
    .elsewhere rfl rfl (get?_unpack hscratch)
  exact (hunpack.trans (hwork _)).trans (.elsewhere rfl rfl (Tree.get?_prune hscratch))

/-- What it takes for an engine to have no business with the log file at a place: the programs that
it starts have none, and the files that it makes are elsewhere. -/
def Provider.Spares (host : Host) (j : Journal) (stamp : String) (place : Location) :
    Provider → Prop
  | .command _ => host.Spares place
  | .eclipse _ => host.Spares place ∧ ¬host.scratch <+: place
  | .identity => True
  | .other e => e.Records j stamp place

theorem Provider.records (hecho : host.echo = j.echo stamp) {provider : Provider}
    (h : provider.Spares host j stamp place) : (provider.engine host).Records j stamp place := by
  cases provider with
  | command c => exact c.records hecho h
  | eclipse e => exact e.records hecho h.1 h.2
  | identity => exact Identity.records
  | other e => exact h

end BatchFormat
