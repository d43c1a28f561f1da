import BatchFormat.Proofs.Engine.Soft
import BatchFormat.Proofs.Traverse.Ordinary
import BatchFormat.Proofs.Walk.Quiet

/-!
# Walks on which nothing is wrong

A tree of directories and regular files that hold texts, an engine that answers with a text or a
rejection, and a device on which no request fails: the one thing that can still go wrong is that a
name is too long. An entry may have a path that the system does not take, which ends the walk; and a
file that is to be rewritten may leave no room for its temporary file, whose name is longer than its
own, so that the file fails although nothing is wrong with it.
-/
namespace BatchFormat.Walker

variable {w : Walker} {host : Host} {world : World} {t : Tree} {recursive dryRun : Bool}
  {root p : Path} {top place : Location} {names : List String} {bytes : Bytes} {mode : Nat}
  {logs : List Location} {text : String} {result : Transformed}

/-- A file that a walk is to process, by the names that lead to it from the root. -/
structure Wants (w : Walker) (t : Tree) (recursive : Bool) (root : Path) (top : Location)
    (names : List String) (bytes : Bytes) (mode : Nat) : Prop where
  offers : t.Offers recursive top names (.file bytes mode)
  eligible : w.eligible (root.extend names) = true

/-- Nothing is wrong with a walk: the engine answers softly, no request fails, the tree is an
ordinary one with the root in the place `top`, every file that is to be processed holds a text, and
for each there is a free name for its temporary file. Logs may be kept in other files. -/
structure Healthy (w : Walker) (host : Host) (t : Tree) (logs : List Location) (recursive : Bool)
    (root : Path) (top : Location) : Prop where
  stays : w.StaysIn host logs
  soft : ∀ content world, IsSoft (w.gateway.ask content world).1
  calm : host.faults = .none
  cwd : ∃ mode, t.Stands host.cwd (.dir mode)
  tree : t.Ordinary
  leads : ∃ entry, t.entryAt? host.cwd true root = .ok (top, entry)
  texts : ∀ names bytes mode, w.Wants t recursive root top names bytes mode → Text.WellFormed bytes
  free : ∀ names bytes mode, w.Wants t recursive root top names bytes mode →
    ∃ mark ∈ host.marks, t.get? ((top ++ names).dropLast ++
      [Draft.temporaryName (Path.ofNames (top ++ names)).name mark]) = none
  apart : ∀ names bytes mode, w.Wants t recursive root top names bytes mode → top ++ names ∉ logs

/-- The system takes the paths of all entries that a walk is to come to. -/
def TakesPaths (t : Tree) (recursive : Bool) (root : Path) (top : Location) : Prop :=
  ∀ names found, t.Offers recursive top names found →
    (root.extend names).text.utf8ByteSize ≤ Tree.pathLimit

/-- A file that is to be rewritten leaves no room for its temporary file. -/
def Stuck (dryRun : Bool) (result : Transformed) (place : Location) : Prop :=
  (result.changed && !dryRun) = true ∧ ¬(Path.ofNames place).LeavesRoom

/-- On a calm host, a file that the engine changes fails only where its name leaves no room for a
temporary one. -/
theorem outcome_of_format (dryRun : Bool) (hcalm : host.faults = .none)
    (hformat : w.gateway.format bytes world = .ok result)
    (hreplace : (∃ there, (world.tree.replace .none (host.draw p) host.cwd p result.content).1 =
      .ok there) ↔ (Path.ofNames place).LeavesRoom) :
    (Stuck dryRun result place → ∃ e, w.outcome host dryRun p bytes world = .error e) ∧
      (¬Stuck dryRun result place → w.outcome host dryRun p bytes world = .ok result) := by
  have hread : host.faults.read p = false := by rw [hcalm]; rfl
  rw [← hcalm] at hreplace
  simp only [outcome, hread, hformat, Bool.false_eq_true, if_false]
  cases hwrite : result.changed && !dryRun with
  | false => exact ⟨fun hstuck => (Bool.eq_false_iff.mp hwrite hstuck.1).elim, fun _ => rfl⟩
  | true =>
    simp only [if_true]
    cases hdone : (world.tree.replace host.faults (host.draw p) host.cwd p result.content).1 with
    | error e =>
      refine ⟨fun _ => ⟨_, rfl⟩, fun hnot => (hnot ⟨hwrite, fun hroom => ?_⟩).elim⟩
      obtain ⟨there, hthere⟩ := hreplace.mpr hroom
      cases hdone.symm.trans hthere
    | ok there => exact ⟨fun hstuck => (hstuck.2 (hreplace.mp ⟨there, hdone⟩)).elim, fun _ => rfl⟩

namespace Healthy

variable (h : w.Healthy host world.tree logs recursive root top)
include h

theorem exists_root : world.tree.pathExists host.cwd root = .ok true := by
  obtain ⟨entry, hroot⟩ := h.leads
  simp [Tree.pathExists, Tree.test, Tree.probe, hroot, Except.map]

/-- What a walk takes is files that it is to process. -/
theorem wants_of_taken (hp : p ∈ w.taken host root recursive dryRun world) :
    ∃ names bytes mode, p = root.extend names ∧
      w.Wants world.tree recursive root top names bytes mode ∧
      world.tree.entryAt? host.cwd true p = .ok (top ++ names, .file bytes mode) := by
  obtain ⟨entry, hroot⟩ := h.leads
  obtain ⟨hmet, heligible⟩ := mem_taken_iff.mp hp
  rw [(trace_eq_events h.stays.keepsShape h.cwd root recursive dryRun).1] at hmet
  have hfile := isFile_of_mem_taken h.stays.keepsShape h.cwd h.exists_root hp
  obtain ⟨names, bytes, mode, rfl, hoffers, hentry⟩ :=
    h.tree.offers_of_file hroot h.cwd (Tree.comesTo_of_met h.exists_root hmet) hfile
  exact ⟨names, bytes, mode, rfl, ⟨hoffers, heligible⟩, hentry⟩

/-- A walk comes to its end exactly if the system takes all paths. -/
theorem finished_iff_takesPaths (dryRun : Bool) :
    (w.run host root recursive dryRun world).Finished ↔
      TakesPaths world.tree recursive root top := by
  obtain ⟨entry, hroot⟩ := h.leads
  rw [finished_iff h.stays.keepsShape h.cwd, and_iff_right h.exists_root,
    Tree.events_stopped_iff h.exists_root, h.calm]
  exact h.tree.told_iff hroot h.cwd

/-- It then takes every file that it is to process. -/
theorem mem_taken_extend (hpaths : TakesPaths world.tree recursive root top)
    (hwants : w.Wants world.tree recursive root top names bytes mode) (dryRun : Bool) :
    root.extend names ∈ w.taken host root recursive dryRun world ∧
      world.tree.entryAt? host.cwd true (root.extend names) =
        .ok (top ++ names, .file bytes mode) := by
  obtain ⟨entry, hroot⟩ := h.leads
  have hshort := hpaths _ _ hwants.offers
  have hentry := h.tree.entryAt?_extend hroot h.cwd hwants.offers.stands hshort
  have hnone : ¬∃ q, world.tree.Overlong host.faults host.cwd recursive root q := by
    rw [Tree.not_overlong_iff h.exists_root, Tree.events_stopped_iff h.exists_root, h.calm]
    exact (h.tree.told_iff hroot h.cwd).mpr hpaths
  refine ⟨mem_taken h.stays.keepsShape h.cwd h.exists_root hnone ?_ (Tree.isFile_of_file hentry)
    hwants.eligible, hentry⟩
  rw [h.calm]
  exact h.tree.comesTo_extend hroot h.cwd hwants.offers hshort

/-- What it takes is no log. -/
theorem not_mem_logs (dryRun : Bool) : ∀ q ∈ w.taken host root recursive dryRun world, ∀ found,
    world.tree.entryAt? host.cwd true q = .ok found → found.1 ∉ logs := by
  intro q hq found hfound
  obtain ⟨names, bytes, mode, rfl, hwants, hentry⟩ := h.wants_of_taken hq
  cases hentry.symm.trans hfound
  exact h.apart names bytes mode hwants

/-- No other path of a walk leads to the same file. -/
theorem leadsTo_eq_false (hp : p ∈ w.taken host root recursive dryRun world)
    (hne : p ≠ root.extend names) :
    world.tree.leadsTo host.cwd (top ++ names) p = false := by
  obtain ⟨other, bytes, mode, rfl, -, hentry⟩ := h.wants_of_taken hp
  rw [Bool.eq_false_iff, ne_eq, Tree.leadsTo_of_file hentry]
  intro heq
  rw [List.append_cancel_left heq] at hne
  exact hne rfl

/-- No directory is missed. -/
theorem unlisted_eq_nil (hpaths : TakesPaths world.tree recursive root top) :
    (Survey.take world.tree host.faults host.cwd root recursive true).state.unlisted = [] := by
  obtain ⟨entry, hroot⟩ := h.leads
  have htells : ∀ q, world.tree.Meets host.faults host.cwd recursive root q →
      ∃ kind, world.tree.kind? host.cwd q = .ok kind := by
    intro q hmeets
    obtain ⟨names, found, rfl, hoffers⟩ := h.tree.offers_of_meets hroot h.cwd hmeets
    exact (h.tree.kind?_extend hroot h.cwd hoffers.stands).mpr (hpaths _ _ hoffers)
  refine List.eq_nil_iff_forall_not_mem.mpr fun ⟨d, e⟩ hmem => ?_
  obtain ⟨hunlisted, -⟩ :=
    (Survey.unlisted_iff (Tree.test_ok h.exists_root _) htells).mp hmem
  rw [h.calm] at hunlisted
  exact h.tree.not_unlisted hroot h.cwd hunlisted

theorem exists_apply (text : String) (world : World) :
    ∃ result, (w.gateway.apply text world).1 = .ok result :=
  (w.gateway.apply_ok_iff text world).mpr (Or.inr (h.soft text world))

/-- What a walk that comes to its end does about a file that it is to process. -/
theorem run_of_wants (hpaths : TakesPaths world.tree recursive root top)
    (hwants : w.Wants world.tree recursive root top names (Text.encode text) mode)
    (happly : (w.gateway.apply text world).1 = .ok result) (dryRun : Bool) :
    let done := (w.run host root recursive dryRun world).run
    let failed := root.extend names ∈ done.summary.errors.map Prod.fst
    (Stuck dryRun result (top ++ names) → failed ∧
        done.world.tree.get? (top ++ names) = some (.file (Text.encode text) mode)) ∧
      (¬Stuck dryRun result (top ++ names) → ¬failed ∧
        done.world.tree.get? (top ++ names) =
          some (.file (Text.encode (if dryRun then text else result.content)) mode)) := by
  intro done failed
  obtain ⟨hp, hentry⟩ := h.mem_taken_extend hpaths hwants dryRun
  have hlog := h.apart _ _ _ hwants
  have hlogs := h.not_mem_logs dryRun
  have halone : ∀ q ∈ w.taken host root recursive dryRun world, q ≠ root.extend names →
      world.tree.leadsTo host.cwd (top ++ names) q = false :=
    fun _ hq hother => h.leadsTo_eq_false hq hother
  obtain ⟨hinstep, -⟩ := run_quiet h.stays h.cwd rfl hlogs
  have hnul := h.tree.holdsNul_ofNames hwants.offers.stands.get?_eq
  have hformat : w.quiet.gateway.format (Text.encode text) world = .ok result := by
    rw [Gateway.format, Text.decode_encode]
    exact (Gateway.apply_quiet _ _ _).trans happly
  obtain ⟨hstuck, hfine⟩ := outcome_of_format dryRun h.calm hformat
    (Tree.exists_replace_iff h.cwd hentry hnul host.size_of_mem_draw
      (by simpa only [host.mem_draw] using h.free _ _ _ hwants))
  rw [taken_quiet h.stays h.cwd rfl] at hp hlogs halone
  obtain ⟨hlookup, -, hget⟩ := run_of_apart h.stays.quiet h.cwd h.tree.proper.once h.exists_root
    hlogs hp hentry halone
  rw [← hinstep.summary] at hlookup
  rw [← Tree.get?_eq_of_masked hinstep.tree hlog] at hget
  have hfailed : failed ↔ (complaint? (w.quiet.outcome host dryRun (root.extend names)
      (Text.encode text) world)).isSome := by
    rw [← hlookup]
    exact Summary.mem_keys_iff
  constructor
  · intro hno
    obtain ⟨e, he⟩ := hstuck hno
    rw [he] at hfailed hget
    exact ⟨hfailed.mpr rfl, hget⟩
  · intro hnot
    rw [hfine hnot] at hfailed hget
    have hsilent : (complaint? (.ok result)).isSome = false := rfl
    refine ⟨fun hyes => Bool.eq_false_iff.mp hsilent (hfailed.mp hyes), hget.trans ?_⟩
    cases dryRun with
    | true => simp [left]
    | false =>
      cases hchanged : result.changed with
      | true => simp [left, hchanged]
      | false => simp [left, hchanged, Gateway.content_of_unchanged happly hchanged]

/-- Nothing fails exactly if the system takes all paths and no file is stuck. -/
theorem failure?_iff (dryRun : Bool) :
    (w.run host root recursive dryRun world).failure? = none ↔
      TakesPaths world.tree recursive root top ∧ ∀ names text mode result,
        w.Wants world.tree recursive root top names (Text.encode text) mode →
          (w.gateway.apply text world).1 = .ok result → ¬Stuck dryRun result (top ++ names) := by
  rw [failure?_eq_none_iff h.stays h.cwd h.tree.proper.once]
  constructor
  · rintro ⟨hfinished, hfiles, -⟩
    have hpaths := (h.finished_iff_takesPaths dryRun).mp hfinished
    refine ⟨hpaths, fun names text mode result hwants happly hstuck => ?_⟩
    exact hfiles _ (h.mem_taken_extend hpaths hwants dryRun).1
      ((h.run_of_wants hpaths hwants happly dryRun).1 hstuck).1
  · rintro ⟨hpaths, hfine⟩
    refine ⟨(h.finished_iff_takesPaths dryRun).mpr hpaths, fun p hp => ?_, h.unlisted_eq_nil hpaths⟩
    obtain ⟨names, bytes, mode, rfl, hwants, -⟩ := h.wants_of_taken hp
    obtain ⟨text, rfl⟩ := (h.texts _ _ _ hwants).exists_encode
    obtain ⟨result, happly⟩ := h.exists_apply text world
    exact ((h.run_of_wants hpaths hwants happly dryRun).2 (hfine _ _ _ _ hwants happly)).1

end Healthy

/-- On a walk on which nothing is wrong nothing fails, exactly if the system takes the paths of all
entries that the walk is to come to and, unless the run is a dry one, every file that gets another
text leaves room for its temporary file. Where the system takes all paths, a file fails exactly if
it is to be rewritten and leaves no room, and then keeps its text. Every other file is left with the
text that the gateway makes of its own, or with its own if the run is a dry one. No bound on the
depth of calls is counted in, however deep the directories are nested. -/
theorem run_healthy (w : Walker) (host : Host) (root : Path) (recursive dryRun : Bool)
    (world : World) (logs : List Location) (top : Location)
    (h : w.Healthy host world.tree logs recursive root top) :
    let report := w.run host root recursive dryRun world
    let wants := w.Wants world.tree recursive root top
    (report.failure? = none ↔ TakesPaths world.tree recursive root top ∧
        ∀ names text mode result, wants names (Text.encode text) mode →
          (w.gateway.apply text world).1 = .ok result → ¬Stuck dryRun result (top ++ names)) ∧
      (TakesPaths world.tree recursive root top →
        ∀ names text mode, wants names (Text.encode text) mode →
          ∃ result, (w.gateway.apply text world).1 = .ok result ∧
            let failed := root.extend names ∈ report.run.summary.errors.map Prod.fst
            (Stuck dryRun result (top ++ names) → failed ∧
                report.run.world.tree.get? (top ++ names) =
                  some (.file (Text.encode text) mode)) ∧
              (¬Stuck dryRun result (top ++ names) → ¬failed ∧
                report.run.world.tree.get? (top ++ names) =
                  some (.file (Text.encode (if dryRun then text else result.content)) mode))) := by
  intro report wants
  refine ⟨h.failure?_iff dryRun, fun hpaths names text mode hwants => ?_⟩
  obtain ⟨result, happly⟩ := h.exists_apply text world
  exact ⟨result, happly, h.run_of_wants hpaths hwants happly dryRun⟩

def loneFile (name : String) : Tree := ⟨[([name], .file (Text.encode "x") 0o644)]⟩

section

variable {name : String} {found : Entry}

theorem loneFile_get? (h : (loneFile name).get? place = some found) :
    (place = [] ∧ found = .dir 0o755) ∨ (place = [name] ∧ found = .file (Text.encode "x") 0o644) := by
  simpa [loneFile] using Tree.mem_entries h

theorem loneFile_of_wants
    (h : lineWalker.Wants (loneFile name) true ⟨.relative, []⟩ [] names bytes mode) :
    names = [name] ∧ bytes = Text.encode "x" := by
  rcases loneFile_get? h.offers.stands.get?_eq with ⟨-, hdir⟩ | ⟨hnames, hfile⟩
  · cases hdir
  · exact ⟨hnames, (Entry.file.inj hfile).1⟩

theorem loneFile_wants (hname : Tree.IsName name) :
    lineWalker.Wants (loneFile name) true ⟨.relative, []⟩ [] [name] (Text.encode "x") 0o644 :=
  ⟨⟨Tree.Stands.top.child hname (by simp [loneFile, Tree.get?]), Or.inl rfl⟩, rfl⟩

theorem loneFile_healthy (hname : Tree.IsName name) (hnul : Path.holdsNul name = false) :
    lineWalker.Healthy calmHost (loneFile name) [] true ⟨.relative, []⟩ [] where
  stays := ⟨⟨⟨fun _ _ _ _ => rfl, fun _ _ _ => rfl⟩, fun _ hsink => nomatch hsink⟩,
    Echo.silent_staysIn []⟩
  soft := fun _ _ => isSoft_ok
  calm := rfl
  cwd := ⟨_, .top⟩
  tree :=
    { proper := ⟨by simp [loneFile, Tree.places], by simpa [loneFile, Tree.places] using hname⟩
      kinds := by simp [loneFile, Entry.isFile]
      spoken := by simpa [loneFile, Tree.places] using hnul }
  leads := ⟨_, Tree.entryAt?_eq_ok_iff.mpr ⟨by decide, by decide, Tree.walk_nil⟩⟩
  texts := by
    intro names bytes mode hwants
    rw [(loneFile_of_wants hwants).2]
    exact Text.wellFormed_encode "x"
  free := by
    intro names bytes mode hwants
    obtain ⟨rfl, -⟩ := loneFile_of_wants hwants
    have hmark : "abcdefgh".utf8ByteSize = 8 := by decide
    refine ⟨"abcdefgh", List.mem_cons_self, ?_⟩
    cases hget : (loneFile name).get? (([] ++ [name]).dropLast ++
      [Draft.temporaryName (Path.ofNames ([] ++ [name])).name "abcdefgh"]) with
    | none => rfl
    | some found =>
      -- the temporary file has a longer name than the only file there is
      rcases loneFile_get? hget with ⟨hnil, -⟩ | ⟨hsame, -⟩
      · cases hnil
      · have hsize := Draft.utf8ByteSize_temporaryName hmark name
        have heq : Draft.temporaryName name "abcdefgh" = name := by
          simpa [Path.ofNames, Path.name] using hsame
        rw [heq] at hsize
        omega
  apart := fun _ _ _ _ => List.not_mem_nil

theorem loneFile_takesPaths (hname : Tree.IsName name) :
    TakesPaths (loneFile name) true ⟨.relative, []⟩ [] := by
  intro names found hoffers
  rcases loneFile_get? hoffers.stands.get?_eq with ⟨hnames, -⟩ | ⟨hnames, -⟩
  · obtain rfl : names = [] := hnames
    decide
  · obtain rfl : names = [name] := hnames
    have hshort := hname.short
    simp only [Path.extend, Path.text, Path.Anchor.text, List.nil_append, String.intercalate_singleton,
      Tree.nameLimit, Tree.pathLimit] at hshort ⊢
    simp
    omega

/-- The file cannot be rewritten if its name leaves no room for fourteen bytes more. -/
theorem loneFile_stuck_iff (hname : Tree.IsName name) :
    Stuck false ⟨"x\n", true⟩ ([] ++ [name]) ↔ 241 < name.utf8ByteSize := by
  have hshort := hname.short
  have hslash : "/".utf8ByteSize = 1 := by decide
  have htext : (Path.ofNames ([] ++ [name])).text = "/" ++ name := by
    simp [Path.ofNames, Path.text, Path.Anchor.text]
  have hlast : (Path.ofNames ([] ++ [name])).name = name := rfl
  have hroom : (Path.ofNames ([] ++ [name])).LeavesRoom ↔ name.utf8ByteSize ≤ 241 := by
    constructor
    · rintro ⟨hroom, -⟩
      rw [hlast, Tree.nameLimit] at hroom
      omega
    · intro hsize
      refine ⟨?_, ?_⟩
      · rw [hlast, Tree.nameLimit]
        omega
      · rw [htext, String.utf8ByteSize_append, hslash, Tree.pathLimit]
        omega
  rw [Stuck, hroom, Nat.not_le]
  exact and_iff_right rfl

end

/-- A directory with a file, a directory that holds another one, and a file that is neither a text
nor a source. -/
def plainTree : Tree :=
  ⟨[(["s"], .dir 0o755), (["s", "a.java"], .file (Text.encode "x") 0o644), (["s", "b"], .dir 0o755),
    (["s", "b", "c.java"], .file (Text.encode "x") 0o600), (["s", "n.txt"], .file [0xff] 0o644)]⟩

theorem plainTree_of_offers {found : Entry}
    (h : plainTree.Offers true ["s"] names found) :
    (["s"] ++ names, found) ∈ plainTree.entries := by
  rcases Tree.mem_entries h.stands.get?_eq with ⟨hnil, -⟩ | hmem
  · cases hnil
  · exact hmem

theorem plainTree_of_wants
    (h : sourceWalker.Wants plainTree true ⟨.relative, ["s"]⟩ ["s"] names bytes mode) :
    (names = ["a.java"] ∨ names = ["b", "c.java"]) ∧ bytes = Text.encode "x" := by
  have hmem := plainTree_of_offers h.offers
  simp only [plainTree, List.mem_cons, List.not_mem_nil, or_false, Prod.mk.injEq] at hmem
  rcases hmem with ⟨-, hfile⟩ | ⟨hnames, hfile⟩ | ⟨-, hfile⟩ | ⟨hnames, hfile⟩ | ⟨hnames, -⟩
  · cases hfile
  · cases hnames
    exact ⟨Or.inl rfl, (Entry.file.inj hfile).1⟩
  · cases hfile
  · cases hnames
    exact ⟨Or.inr rfl, (Entry.file.inj hfile).1⟩
  · cases hnames
    exact absurd h.eligible (by decide)

theorem plainTree_healthy :
    sourceWalker.Healthy calmHost plainTree [] true ⟨.relative, ["s"]⟩ ["s"] where
  stays := ⟨⟨⟨fun _ _ _ _ => rfl, fun _ _ _ => rfl⟩, fun _ hsink => nomatch hsink⟩,
    Echo.silent_staysIn []⟩
  soft := fun _ _ => isSoft_ok
  calm := rfl
  cwd := ⟨_, .top⟩
  tree := ⟨⟨by decide, by decide⟩, by decide, by decide⟩
  leads := ⟨_, Tree.entryAt?_eq_ok_iff.mpr ⟨by decide, by decide,
    (Tree.walk_through (by decide) rfl).trans Tree.walk_nil⟩⟩
  texts := by
    intro names bytes mode hwants
    rw [(plainTree_of_wants hwants).2]
    exact Text.wellFormed_encode "x"
  free := by
    intro names bytes mode hwants
    refine ⟨"abcdefgh", List.mem_cons_self, ?_⟩
    rcases (plainTree_of_wants hwants).1 with rfl | rfl
    · decide
    · decide
  apart := fun _ _ _ _ => List.not_mem_nil

theorem plainTree_takesPaths : TakesPaths plainTree true ⟨.relative, ["s"]⟩ ["s"] := by
  intro names found hoffers
  have hmem := plainTree_of_offers hoffers
  simp only [plainTree, List.mem_cons, List.not_mem_nil, or_false, Prod.mk.injEq] at hmem
  rcases hmem with ⟨hnames, -⟩ | ⟨hnames, -⟩ | ⟨hnames, -⟩ | ⟨hnames, -⟩ | ⟨hnames, -⟩ <;>
    cases hnames <;> decide

/-- Both files are formatted, and the one that is no source is left alone. -/
theorem run_healthy_of_plainTree :
    let report := sourceWalker.run calmHost ⟨.relative, ["s"]⟩ true false (World.ofTree plainTree)
    sourceWalker.Healthy calmHost plainTree [] true ⟨.relative, ["s"]⟩ ["s"] ∧
      report.failure? = none ∧
      report.run.world.tree.get? ["s", "a.java"] = some (.file (Text.encode "x\n") 0o644) ∧
      report.run.world.tree.get? ["s", "b", "c.java"] = some (.file (Text.encode "x\n") 0o600) := by
  intro report
  obtain ⟨hnone, hfiles⟩ := run_healthy sourceWalker calmHost ⟨.relative, ["s"]⟩ true false
    (World.ofTree plainTree) [] ["s"] plainTree_healthy
  have happly : (sourceWalker.gateway.apply "x" (World.ofTree plainTree)).1 = .ok ⟨"x\n", true⟩ :=
    lineWalker_apply (by decide) _
  have hroom : ∀ names, names = ["a.java"] ∨ names = ["b", "c.java"] →
      ¬Stuck false ⟨"x\n", true⟩ (["s"] ++ names) := by
    rintro names (rfl | rfl) ⟨-, hnot⟩
    · exact hnot ⟨by decide, by decide⟩
    · exact hnot ⟨by decide, by decide⟩
  have hdone : ∀ names mode, plainTree.Stands (["s"] ++ names) (.file (Text.encode "x") mode) →
      names = ["a.java"] ∨ names = ["b", "c.java"] →
      report.run.world.tree.get? (["s"] ++ names) = some (.file (Text.encode "x\n") mode) := by
    intro names mode hstands hnames
    have heligible : sourceWalker.eligible (Path.extend ⟨.relative, ["s"]⟩ names) = true := by
      rcases hnames with rfl | rfl <;> decide
    obtain ⟨result, hresult, -, hleft⟩ :=
      hfiles plainTree_takesPaths names "x" mode ⟨⟨hstands, Or.inl rfl⟩, heligible⟩
    obtain rfl := Except.ok.inj (happly.symm.trans hresult)
    exact (hleft (hroom names hnames)).2
  have htop : plainTree.Stands ["s"] (.dir 0o755) := Tree.Stands.top.child (by decide) rfl
  refine ⟨plainTree_healthy, hnone.mpr ⟨plainTree_takesPaths, ?_⟩, ?_, ?_⟩
  · intro names text mode result hwants hresult
    obtain ⟨hnames, hbytes⟩ := plainTree_of_wants hwants
    have hread := Text.decode_eq_ok_iff.mpr hbytes
    rw [Text.decode_encode] at hread
    rw [Except.ok.inj hread, happly] at hresult
    cases hresult
    exact hroom names hnames
  · exact hdone ["a.java"] _ (htop.child (by decide) rfl) (Or.inl rfl)
  · exact hdone ["b", "c.java"] _ ((htop.child (by decide) rfl).child (by decide) rfl) (Or.inr rfl)

/-- A name of 250 letters is one that a system takes, but such a file cannot be rewritten. -/
theorem failure?_of_long_name :
    let name := String.ofList (List.replicate 245 'x') ++ ".java"
    let report := lineWalker.run calmHost ⟨.relative, []⟩ true false
      (World.ofTree (loneFile name))
    lineWalker.Healthy calmHost (loneFile name) [] true ⟨.relative, []⟩ [] ∧
      name.utf8ByteSize = 250 ∧ report.failure? ≠ none ∧
      ⟨.relative, [name]⟩ ∈ report.run.summary.errors.map Prod.fst ∧
      report.run.world.tree.get? [name] = some (.file (Text.encode "x") 0o644) := by
  have hsize : (String.ofList (List.replicate 245 'x') ++ ".java").utf8ByteSize = 250 := by
    have hletters : (String.ofList (List.replicate 245 'x')).utf8ByteSize = 245 := by
      decide +kernel
    rw [String.utf8ByteSize_append, hletters]
    decide
  have hnul : Path.holdsNul (String.ofList (List.replicate 245 'x') ++ ".java") = false := by
    have hletters : ∀ n, Path.holdsNul (String.ofList (List.replicate n 'x')) = false := by
      simp [Path.holdsNul]
    rw [Path.holdsNul_append, hletters]
    decide
  generalize String.ofList (List.replicate 245 'x') ++ ".java" = long at hsize hnul ⊢
  intro name report
  have hother : ∀ short : String, short.utf8ByteSize < 250 → long ≠ short := by
    rintro short hshort rfl
    omega
  have hname : Tree.IsName long := by
    refine ⟨not_or.mpr ⟨hother "" (by decide), hother "." (by decide)⟩, hother ".." (by decide), ?_⟩
    rw [hsize]
    decide
  have hhealthy : lineWalker.Healthy calmHost (World.ofTree (loneFile long)).tree [] true
      ⟨.relative, []⟩ [] := loneFile_healthy hname hnul
  have hstuck : Stuck false ⟨"x\n", true⟩ ([] ++ [long]) :=
    (loneFile_stuck_iff hname).mpr (by omega)
  have happly : (lineWalker.gateway.apply "x" (World.ofTree (loneFile long))).1 = .ok ⟨"x\n", true⟩ :=
    lineWalker_apply (by decide) _
  obtain ⟨hfailed, hkept⟩ := (hhealthy.run_of_wants (loneFile_takesPaths hname)
    (loneFile_wants hname) happly false).1 hstuck
  refine ⟨hhealthy, hsize, fun hnone => ?_, hfailed, hkept⟩
  exact ((hhealthy.failure?_iff false).mp hnone).2 _ _ _ _ (loneFile_wants hname) happly hstuck

end BatchFormat.Walker
