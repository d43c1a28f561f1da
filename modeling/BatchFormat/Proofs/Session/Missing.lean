import Mathlib.Data.String.Basic
import BatchFormat.Proofs.Session.Prepare

/-!
# Paths that name nothing

A walk, the loading of a profile and the preparation of a run each ask first whether their path is
there, and each has a failure of its own for a path that names nothing. They report it for all such
paths but one kind: a path that the system does not look up because it, or a name on its way, is too
long. There the question itself fails, and its error is passed on.
-/
namespace BatchFormat

variable {t u : Tree} {cwd here : Location} {p : Path} {host : Host} {follow : Bool} {links : Nat}
  {steps : List String} {e : Failure}

namespace Tree

/-- A path names an entry, links followed. -/
def Names (t : Tree) (cwd : Location) (p : Path) : Prop :=
  ∃ place entry, t.entryAt? cwd true p = .ok (place, entry)

/-- The system does not look a path up, because its text or a name on its way is too long. -/
def isTooLong (t : Tree) (cwd : Location) (p : Path) : Bool :=
  match t.entryAt? cwd true p with
  | .error (.refused .nameTooLong _) => true
  | _ => false

/-! ## Tests of such paths -/

theorem test_of_missing (h : ¬t.Names cwd p) (accept : Entry → Bool) :
    t.test cwd p accept =
      if t.isTooLong cwd p then .error (.refused .nameTooLong p.text) else .ok false := by
  unfold test probe isTooLong
  cases hentry : t.entryAt? cwd true p with
  | ok found => exact (h ⟨found.1, found.2, hentry⟩).elim
  | error e =>
    rcases entryAt?_error hentry with ⟨-, rfl⟩ | ⟨cause, rfl, habsent | rfl⟩
    · rfl
    · cases cause <;> first | rfl | cases habsent
    · rfl

theorem pathExists_of_names (h : t.Names cwd p) : t.pathExists cwd p = .ok true := by
  obtain ⟨place, entry, hentry⟩ := h
  simp [pathExists, test, probe, hentry, Except.map]

theorem names_of_test {accept : Entry → Bool} (h : t.test cwd p accept = .ok true) :
    t.Names cwd p := by
  obtain ⟨place, entry, hentry, -⟩ := entryAt?_of_test h
  exact ⟨place, entry, hentry⟩

/-- Only of a path that is too long it cannot be told whether something holds of it. -/
theorem test_error_iff {accept : Entry → Bool} {e : SystemError} :
    t.test cwd p accept = .error e ↔
      t.isTooLong cwd p = true ∧ e = .refused .nameTooLong p.text := by
  by_cases hnames : t.Names cwd p
  · obtain ⟨place, entry, hentry⟩ := hnames
    simp [test, probe, isTooLong, hentry, Except.map]
  · rw [test_of_missing hnames]
    cases t.isTooLong cwd p <;> simp [eq_comm]

theorem Names.of_shape (h : t.shape = u.shape) (hnames : t.Names cwd p) : u.Names cwd p :=
  names_of_test ((test_of_shape h fun _ => rfl).symm.trans (pathExists_of_names hnames))

theorem isTooLong_of_shape (h : t.shape = u.shape) (cwd : Location) (p : Path) :
    t.isTooLong cwd p = u.isTooLong cwd p := by
  rw [Bool.eq_iff_iff]
  have herror : ∀ s : Tree, s.isTooLong cwd p = true ↔
      s.isDir cwd p = .error (.refused .nameTooLong p.text) := fun s => by
    rw [isDir, test_error_iff]
    simp
  rw [herror, herror, isDir_of_shape h]

/-! ## Paths that are looked up -/

/-- The system takes the text of a path, its names, and the names in the links of the tree. -/
structure Short (t : Tree) (p : Path) : Prop where
  text : p.text.utf8ByteSize ≤ pathLimit
  names : ∀ name ∈ p.parts, name.utf8ByteSize ≤ nameLimit
  links : ∀ place target, t.get? place = some (.link target) →
    ∀ name ∈ Path.pieces target, name.utf8ByteSize ≤ nameLimit

/-- A walk by short names along links of short names meets no other. -/
theorem walk_ne_nameTooLong
    (hlinks : ∀ place target, t.get? place = some (.link target) →
      ∀ name ∈ Path.pieces target, name.utf8ByteSize ≤ nameLimit)
    (hsteps : ∀ name ∈ steps, name.utf8ByteSize ≤ nameLimit) :
    t.walk follow links here steps ≠ .error .nameTooLong := by
  fun_induction walk t follow links here steps with
  | case1 | case5 | case6 | case8 | case9 | case11 | case12 => simp
  | case4 links here step rest hskip hup hlong =>
    exact (Nat.not_le.mpr hlong (hsteps step List.mem_cons_self)).elim
  | case2 links here step rest hskip ih => exact ih (List.forall_mem_cons.mp hsteps).2
  | case3 links here rest hskip ih => exact ih (List.forall_mem_cons.mp hsteps).2
  | case7 links here step rest hskip hup hlong next mode hget ih =>
    exact ih (List.forall_mem_cons.mp hsteps).2
  | case10 here step rest hskip hup hlong next target hget hmore links ih =>
    refine ih fun name hname => ?_
    rcases List.mem_append.mp hname with hname | hname
    · exact hlinks _ target hget name hname
    · exact hsteps name (List.mem_cons_of_mem _ hname)

/-- No path through short names is refused for its length. -/
theorem Short.isTooLong (h : t.Short p) (cwd : Location) : t.isTooLong cwd p = false := by
  have hlocate : t.locate cwd true p ≠ .error .nameTooLong := by
    rw [locate, if_neg (Nat.not_lt.mpr h.text)]
    exact walk_ne_nameTooLong h.links h.names
  unfold Tree.isTooLong entryAt?
  split
  · next hrefused =>
    split at hrefused
    · cases hrefused
    · split at hrefused
      · cases hrefused
      · cases hrefused
      · next hcause =>
        cases hrefused
        exact (hlocate hcause).elim
  · rfl

theorem isTooLong_of_text (hnul : Path.holdsNul p.text = false)
    (hlong : pathLimit < p.text.utf8ByteSize) (t : Tree) (cwd : Location) :
    t.isTooLong cwd p = true := by
  simp [isTooLong, entryAt?, locate, hnul, hlong]

/-- A single name that is too long is refused, whatever the tree. -/
theorem entryAt?_of_long_name {name : String} (hlong : nameLimit < name.utf8ByteSize)
    (hshort : name.utf8ByteSize ≤ pathLimit) (hnul : Path.holdsNul name = false) (t : Tree)
    (cwd : Location) :
    t.entryAt? cwd true ⟨.relative, [name]⟩ = .error (.refused .nameTooLong name) := by
  have htext : (⟨.relative, [name]⟩ : Path).text = name := by simp [Path.text, Path.Anchor.text]
  have hne : ∀ other : String, other.utf8ByteSize ≤ nameLimit → name ≠ other := by
    rintro other hother rfl
    exact Nat.not_lt.mpr hother hlong
  have hwalk : t.walk true linkLimit cwd [name] = .error .nameTooLong :=
    walk_long (not_or.mpr ⟨hne "" (by decide), hne "." (by decide)⟩) (hne ".." (by decide)) hlong
  simp [entryAt?, locate, htext, hnul, Nat.not_lt.mpr hshort, Path.origin, hwalk]

end Tree

/-- What is reported of a path that names nothing, where `failure` is meant to be. -/
def reported (t : Tree) (cwd : Location) (p : Path) (failure : Failure) : Failure :=
  if t.isTooLong cwd p then .system (.refused .nameTooLong p.text) else failure

/-! ## The three entries -/

theorem Walker.run_of_missing {world : World} (h : ¬world.tree.Names host.cwd p) (w : Walker)
    (recursive dryRun : Bool) :
    w.run host p recursive dryRun world =
      ⟨⟨world, .empty⟩, some (reported world.tree host.cwd p (.noTarget (host.shown p)))⟩ := by
  unfold run reported
  rw [Tree.pathExists, Tree.test_of_missing h]
  cases world.tree.isTooLong host.cwd p <;> rfl

/-- The loading of a profile, told by whether its path is a file. -/
theorem Profile.load_cases (host : Host) (p : Path) (world : World) :
    (world.tree.isFile host.cwd p = .ok true ∧
        ((∃ settings, (load host p world).1 = .ok settings) ∨
          ∃ detail, load host p world = (.error (.badProfile detail), world))) ∨
      (world.tree.isFile host.cwd p = .ok false ∧
        load host p world = (.error (.noProfile (host.shown p) false), world)) ∨
      (world.tree.isTooLong host.cwd p = true ∧
        load host p world = (.error (.system (.refused .nameTooLong p.text)), world)) := by
  unfold load readRoot
  cases hfile : world.tree.isFile host.cwd p with
  | error e =>
    obtain ⟨hlong, rfl⟩ := Tree.test_error_iff.mp hfile
    exact Or.inr (Or.inr ⟨hlong, rfl⟩)
  | ok isFile =>
    cases isFile with
    | false => exact Or.inr (Or.inl ⟨rfl, rfl⟩)
    | true =>
      refine Or.inl ⟨rfl, ?_⟩
      simp only
      cases world.tree.readBytes .none host.cwd (Address.resolve p) with
      | error e => exact Or.inr ⟨_, rfl⟩
      | ok bytes =>
        simp only
        cases Compressed.contents bytes >>= Xml.readDocument with
        | none => exact Or.inr ⟨_, rfl⟩
        | some root => exact Or.inl ⟨_, rfl⟩

theorem Profile.load_of_missing {world : World} (h : ¬world.tree.Names host.cwd p) :
    load host p world =
      (.error (reported world.tree host.cwd p (.noProfile (host.shown p) false)), world) := by
  unfold load readRoot reported
  rw [Tree.isFile, Tree.test_of_missing h]
  cases world.tree.isTooLong host.cwd p <;> rfl

namespace Plan

variable {i : Invocation}

theorem checkPaths_of_missing_target (h : ¬t.Names host.cwd i.target) :
    checkPaths host i t =
      .error (reported t host.cwd i.target (.noTarget (host.shown i.target))) := by
  unfold checkPaths reported
  rw [Tree.pathExists, Tree.test_of_missing h]
  cases t.isTooLong host.cwd i.target <;> rfl

theorem checkPaths_of_missing_profile (htarget : t.Names host.cwd i.target)
    (h : ¬t.Names host.cwd i.profile) :
    checkPaths host i t =
      .error (reported t host.cwd i.profile (.noProfile (host.shown i.profile) true)) := by
  unfold checkPaths reported
  rw [Tree.pathExists_of_names htarget, Tree.pathExists, Tree.test_of_missing h]
  cases t.isTooLong host.cwd i.profile <;> rfl

theorem prepare_of_checkPaths {registry : Registry} {world : World}
    (h : checkPaths host i (told host i world).tree = .error e) :
    prepare registry host i world = (.error e, told host i world) := by
  rw [prepare_eq, h]

end Plan

theorem World.shape_tell (h : host.echo.KeepsShape) (records : List Record) (world : World) :
    (records.foldl (fun w r => w.say host r) world).tree.shape = world.tree.shape := by
  induction records generalizing world with
  | nil => rfl
  | cons r records ih => exact (ih _).trans (shape_say h r)

/-- A path that names nothing, for whatever reason, is reported as missing by a walk over it, by the
loading of a profile from it, and by the preparation of a run with it as target or, beside a target
that exists, as profile; and until then nothing has happened but that the preparation has told its
heading. The one exception is a path that is too long to be looked up. The loading of a profile from
any path gives settings or finds fault with them if the path is a file, and reports it as missing if
it is none, with the same exception. No path is too long if its text, its names and the names in the
links of the tree are short; a path with a text that is too long is. -/
theorem missing_reported (registry : Registry) (host : Host) (hecho : host.echo.KeepsShape) :
    (∀ (world : World) (p : Path), ¬world.tree.Names host.cwd p →
      let told := reported world.tree host.cwd p
      (∀ (w : Walker) recursive dryRun, w.run host p recursive dryRun world =
        ⟨⟨world, .empty⟩, some (told (.noTarget (host.shown p)))⟩) ∧
      Profile.load host p world = (.error (told (.noProfile (host.shown p) false)), world) ∧
      (∀ i : Invocation, i.target = p → Plan.prepare registry host i world =
        (.error (told (.noTarget (host.shown p))), Plan.told host i world)) ∧
      ∀ i : Invocation, i.profile = p → world.tree.Names host.cwd i.target →
        Plan.prepare registry host i world =
          (.error (told (.noProfile (host.shown p) true)), Plan.told host i world)) ∧
    (∀ (world : World) (p : Path),
      (world.tree.isFile host.cwd p = .ok true ∧
        ((∃ settings, (Profile.load host p world).1 = .ok settings) ∨
          ∃ detail, Profile.load host p world = (.error (.badProfile detail), world))) ∨
      (world.tree.isFile host.cwd p = .ok false ∧
        Profile.load host p world = (.error (.noProfile (host.shown p) false), world)) ∨
      (world.tree.isTooLong host.cwd p = true ∧ Profile.load host p world =
        (.error (.system (.refused .nameTooLong p.text)), world))) ∧
    ∀ (t : Tree) (p : Path), (t.Short p → t.isTooLong host.cwd p = false) ∧
      (Path.holdsNul p.text = false → Tree.pathLimit < p.text.utf8ByteSize →
        t.isTooLong host.cwd p = true) := by
  refine ⟨fun world p hmissing => ⟨fun w recursive dryRun => ?_, ?_, ?_, ?_⟩,
    fun world p => Profile.load_cases host p world, fun t p => ⟨?_, ?_⟩⟩
  · exact Walker.run_of_missing hmissing w recursive dryRun
  · exact Profile.load_of_missing hmissing
  · rintro i rfl
    have hshape : (Plan.told host i world).tree.shape = world.tree.shape :=
      World.shape_tell hecho _ world
    have hcheck : Plan.checkPaths host _ _ = _ :=
      Plan.checkPaths_of_missing_target (mt (Tree.Names.of_shape hshape) hmissing)
    rw [reported, Tree.isTooLong_of_shape hshape] at hcheck
    exact Plan.prepare_of_checkPaths hcheck
  · rintro i rfl htarget
    have hshape : (Plan.told host i world).tree.shape = world.tree.shape :=
      World.shape_tell hecho _ world
    have hcheck : Plan.checkPaths host _ _ = _ :=
      Plan.checkPaths_of_missing_profile (htarget.of_shape hshape.symm)
        (mt (Tree.Names.of_shape hshape) hmissing)
    rw [reported, Tree.isTooLong_of_shape hshape] at hcheck
    exact Plan.prepare_of_checkPaths hcheck
  · exact fun hshort => hshort.isTooLong host.cwd
  · exact fun hnul hlong => Tree.isTooLong_of_text hnul hlong t host.cwd

def danglingTree : Tree :=
  ⟨[(["a.java"], .file (Text.encode "x") 0o644), (["gone"], .link "nowhere")]⟩

theorem danglingTree_names : danglingTree.Names [] ⟨.relative, ["a.java"]⟩ := by
  have hname : Tree.IsName "a.java" := by decide
  have hfile : danglingTree.walk true Tree.linkLimit [] ["a.java"] =
      .ok (.found ["a.java"] (.file (Text.encode "x") 0o644)) :=
    (Tree.walk_halt hname rfl rfl).trans (if_pos rfl)
  exact ⟨_, _, Tree.entryAt?_eq_ok_iff.mpr ⟨by decide, by decide, hfile⟩⟩

theorem danglingTree_missing : ¬danglingTree.Names [] ⟨.relative, ["gone"]⟩ := by
  rintro ⟨place, entry, hentry⟩
  have hlink : Tree.IsName "gone" := by decide
  have htarget : Tree.IsName "nowhere" := by decide
  have hwalk : danglingTree.walk true Tree.linkLimit [] ["gone"] = .ok (.vacant ["nowhere"]) :=
    (Tree.walk_onward hlink rfl (by decide)).trans (Tree.walk_absent htarget rfl)
  cases hwalk.symm.trans (Tree.entryAt?_eq_ok_iff.mp hentry).2.2

theorem danglingTree_short : danglingTree.Short ⟨.relative, ["gone"]⟩ := by
  refine ⟨by decide, by decide, fun place target hget => ?_⟩
  rcases Tree.mem_entries hget with ⟨-, hdir⟩ | hmem
  · cases hdir
  · obtain ⟨-, rfl⟩ : place = ["gone"] ∧ target = "nowhere" := by simpa [danglingTree] using hmem
    decide

/-- A link that leads nowhere is missing, as a target and as a profile. -/
theorem missing_reported_of_dangling :
    let p : Path := ⟨.relative, ["gone"]⟩
    let host := Walker.calmHost
    let world := World.ofTree danglingTree
    let formed : Invocation := { Invocation.ofTarget ⟨.relative, ["a.java"]⟩ with profile := p }
    Walker.idleWalker.run host p true false world = ⟨⟨world, .empty⟩, some (.noTarget "/gone")⟩ ∧
      Profile.load host p world = (.error (.noProfile "/gone" false), world) ∧
      Plan.prepare .builtIn host (.ofTarget p) world =
        (.error (.noTarget "/gone"), Plan.told host (.ofTarget p) world) ∧
      Plan.prepare .builtIn host formed world =
        (.error (.noProfile "/gone" true), Plan.told host formed world) := by
  intro p host world formed
  obtain ⟨hreport, -, hlength⟩ := missing_reported .builtIn host fun _ _ _ => rfl
  obtain ⟨hrun, hload, htarget, hprofile⟩ := hreport world p danglingTree_missing
  have hlooked : world.tree.isTooLong host.cwd p = false := (hlength _ p).1 danglingTree_short
  have hshown : host.shown p = "/gone" := by decide
  simp only [reported, hlooked, hshown, Bool.false_eq_true, if_false] at hrun hload htarget hprofile
  exact ⟨hrun _ _ _, hload, htarget _ rfl, hprofile formed rfl danglingTree_names⟩

/-- A single name that is too long names nothing, and is not reported as missing. -/
theorem not_reported_of_long_name {name : String} (hlong : Tree.nameLimit < name.utf8ByteSize)
    (hshort : name.utf8ByteSize ≤ Tree.pathLimit) (hnul : Path.holdsNul name = false)
    (w : Walker) (host : Host) (world : World) (recursive dryRun : Bool) :
    let p : Path := ⟨.relative, [name]⟩
    ¬world.tree.Names host.cwd p ∧
      (w.run host p recursive dryRun world).failure? =
        some (.system (.refused .nameTooLong p.text)) ∧
      (Profile.load host p world).1 = .error (.system (.refused .nameTooLong p.text)) := by
  have hentry := Tree.entryAt?_of_long_name hlong hshort hnul world.tree host.cwd
  have hmissing : ¬world.tree.Names host.cwd ⟨.relative, [name]⟩ := by
    rintro ⟨place, entry, hfound⟩
    cases hentry.symm.trans hfound
  have hrefused : world.tree.isTooLong host.cwd ⟨.relative, [name]⟩ = true := by
    simp only [Tree.isTooLong, hentry]
  have hreported (failure : Failure) : reported world.tree host.cwd ⟨.relative, [name]⟩ failure =
      .system (.refused .nameTooLong (Path.text ⟨.relative, [name]⟩)) := if_pos hrefused
  refine ⟨hmissing, ?_, ?_⟩
  · rw [Walker.run_of_missing hmissing]
    exact congrArg some (hreported _)
  · rw [Profile.load_of_missing hmissing]
    exact congrArg Except.error (hreported _)

theorem utf8ByteSize_replicate (n : Nat) :
    (String.ofList (List.replicate n 'n')).utf8ByteSize = n := by
  rw [String.utf8ByteSize_ofList]
  induction n with
  | zero => rfl
  | succ n ih =>
    rw [List.replicate_succ, String.utf8Len, ih]
    rfl

theorem holdsNul_replicate (n : Nat) :
    Path.holdsNul (String.ofList (List.replicate n 'n')) = false := by
  simp [Path.holdsNul]

/-- So it is with a name of three hundred letters. -/
theorem missing_not_reported :
    let p : Path := ⟨.relative, [String.ofList (List.replicate 300 'n')]⟩
    ¬(Tree.mk []).Names [] p ∧
      (Walker.idleWalker.run Walker.calmHost p true false (.ofTree ⟨[]⟩)).failure? =
        some (.system (.refused .nameTooLong p.text)) ∧
      (Profile.load Walker.calmHost p (.ofTree ⟨[]⟩)).1 =
        .error (.system (.refused .nameTooLong p.text)) := by
  have hsize := utf8ByteSize_replicate 300
  have hnul := holdsNul_replicate 300
  generalize String.ofList (List.replicate 300 'n') = name at hsize hnul ⊢
  exact not_reported_of_long_name (by rw [hsize]; decide) (by rw [hsize]; decide) hnul
    Walker.idleWalker Walker.calmHost (.ofTree ⟨[]⟩) true false

end BatchFormat
