import BatchFormat.Plan
import BatchFormat.Proofs.Extension
import BatchFormat.Proofs.Walk.Quiet

/-!
# What a run needs

A run is prepared if its target is there, its profile can be read, its engine can be had and can
work, and its extension is not blank. Until then nothing is written but the log.
-/
namespace BatchFormat

variable {registry : Registry} {host : Host} {i : Invocation} {w after : World} {p : Path}
  {t u : Tree} {root : Xml.Element} {provider : Provider} {eligible : Eligibility} {plan : Plan}
  {logs : List Location} {e : Failure}

/-- What is said goes to the logs. -/
theorem World.masked_tell (h : host.echo.StaysIn logs) (records : List Record) (w : World) :
    (records.foldl (fun w r => w.say host r) w).tree.masked logs = w.tree.masked logs := by
  induction records generalizing w with
  | nil => rfl
  | cons r records ih => exact (ih _).trans (masked_say h r)

namespace Profile

/-- A path leads to a file that holds a well-formed document. -/
def Holds (t : Tree) (cwd : Location) (p : Path) (root : Xml.Element) : Prop :=
  ∃ place bytes mode, t.entryAt? cwd true p = .ok (place, .file bytes mode) ∧
    (Compressed.contents bytes >>= Xml.readDocument) = some root

/-- A document is read from the file at the path, unless the path is taken for an address. -/
theorem readRoot_ok_iff (haddress : Address.target? p = none) :
    readRoot host p t = .ok root ↔ Holds t host.cwd p root := by
  have hresolve : Address.resolve p = p := by simp [Address.resolve, haddress]
  have hread : Faults.none.read p = false := rfl
  unfold readRoot Tree.readBytes Holds
  simp only [hresolve, hread, Bool.false_eq_true, if_false]
  constructor
  · intro h
    split at h
    · cases h
    · cases h
    · next hisFile =>
      obtain ⟨place, bytes, mode, hfile⟩ := Tree.exists_file hisFile
      simp only [hfile] at h
      split at h
      · next found hdocument => exact ⟨place, bytes, mode, hfile, hdocument.trans (by cases h; rfl)⟩
      · cases h
  · rintro ⟨place, bytes, mode, hfile, hdocument⟩
    simp only [Tree.isFile_of_file hfile, hfile, hdocument]

/-- What is read at a path is a file. -/
theorem isFile_of_readRoot (h : readRoot host p t = .ok root) :
    t.isFile host.cwd p = .ok true := by
  unfold readRoot at h
  split at h
  · cases h
  · cases h
  · assumption

def loadedSettings (p : Path) (root : Xml.Element) : Settings :=
  ⟨withDefaults (settings root), some p⟩

def loaded (host : Host) (p : Path) (root : Xml.Element) (w : World) : World :=
  [Record.debug s!"Loaded Eclipse formatter configuration from {host.shown p}",
    .debug s!"Loaded {(settings root).length} formatter settings"].foldl
      (fun w r => w.say host r) w

theorem load_eq (host : Host) (p : Path) (w : World) :
    load host p w =
      match readRoot host p w.tree with
      | .error e => (.error e, w)
      | .ok root => (.ok (loadedSettings p root), loaded host p root w) := rfl

end Profile

theorem Registry.get_ok_iff {environment : Environment} {name : String} {options : Options} :
    registry.get environment name options = .ok provider ↔
      ∃ maker, registry.maker? name = some maker ∧
        maker.make environment options = .ok provider := by
  unfold get
  cases registry.maker? name <;> simp

namespace Plan

def told (host : Host) (i : Invocation) (w : World) : World :=
  (heading host i).foldl (fun w r => w.say host r) w

def loaded (host : Host) (i : Invocation) (root : Xml.Element) (w : World) : World :=
  Profile.loaded host i.profile root (told host i w)

theorem masked_loaded (h : host.echo.StaysIn logs) (i : Invocation) (root : Xml.Element)
    (w : World) : (loaded host i root w).tree.masked logs = w.tree.masked logs :=
  (World.masked_tell h _ _).trans (World.masked_tell h _ w)

def made (host : Host) (i : Invocation) (engine : Engine) (root : Xml.Element)
    (eligible : Eligibility) : Plan :=
  ⟨i, ⟨⟨engine, Profile.loadedSettings i.profile root,
    if i.isVerbose then some (sink host) else none⟩, eligible⟩⟩

/-- A run is prepared in five steps, each of which can fail. -/
theorem prepare_eq (registry : Registry) (host : Host) (i : Invocation) (w : World) :
    prepare registry host i w =
      match checkPaths host i (told host i w).tree with
      | .error e => (.error e, told host i w)
      | .ok () =>
        match Profile.readRoot host i.profile (told host i w).tree with
        | .error e => (.error e, told host i w)
        | .ok root =>
          match engine registry host i (loaded host i root w) with
          | .error e => (.error e, loaded host i root w)
          | .ok engine =>
            let named := (loaded host i root w).say host (.debug s!"Provider: {engine.name}")
            match Eligibility.ofExtension i.extension with
            | .error e => (.error e, named)
            | .ok eligible => (.ok (made host i engine root eligible), named) := by
  unfold prepare loaded told
  simp only [Profile.load_eq]
  generalize (heading host i).foldl (fun w r => w.say host r) w = told
  cases checkPaths host i told.tree with
  | error e => rfl
  | ok _ =>
    simp only
    cases Profile.readRoot host i.profile told.tree with
    | error e => rfl
    | ok root =>
      simp only
      cases engine registry host i (Profile.loaded host i.profile root told) with
      | error e => rfl
      | ok engine =>
        simp only
        cases Eligibility.ofExtension i.extension <;> rfl

/-- All that a run asks for is there. -/
structure Found (registry : Registry) (host : Host) (i : Invocation) (w : World)
    (root : Xml.Element) (provider : Provider) (eligible : Eligibility) : Prop where
  target : (told host i w).tree.pathExists host.cwd i.target = .ok true
  profile : Profile.readRoot host i.profile (told host i w).tree = .ok root
  registered : registry.get host.environment i.provider (options i) = .ok provider
  check : (provider.engine host).check (loaded host i root w) = .ok ()
  extension : Eligibility.ofExtension i.extension = .ok eligible

/-- The paths are accepted exactly if both of them exist. -/
theorem checkPaths_ok_iff : checkPaths host i t = .ok () ↔
    t.pathExists host.cwd i.target = .ok true ∧ t.pathExists host.cwd i.profile = .ok true := by
  unfold checkPaths
  cases t.pathExists host.cwd i.target with
  | error e => simp [Except.mapError, bind, Except.bind]
  | ok hasTarget =>
    cases hasTarget with
    | false => simp [Except.mapError, bind, Except.bind, throw, throwThe, MonadExceptOf.throw]
    | true =>
      cases t.pathExists host.cwd i.profile with
      | error e => simp [Except.mapError, bind, Except.bind]
      | ok hasProfile =>
        cases hasProfile <;>
          simp [Except.mapError, bind, Except.bind, pure, Except.pure, throw, throwThe,
            MonadExceptOf.throw]

theorem engine_ok_iff {found : Engine} : engine registry host i w = .ok found ↔
    ∃ provider, registry.get host.environment i.provider (options i) = .ok provider ∧
      (provider.engine host).check w = .ok () ∧ found = provider.engine host := by
  unfold engine
  cases registry.get host.environment i.provider (options i) with
  | error e => simp [bind, Except.bind]
  | ok provider =>
    cases hcheck : (provider.engine host).check w with
    | error e => simp [bind, Except.bind, hcheck]
    | ok _ => simp [bind, Except.bind, hcheck, pure, Except.pure, eq_comm]

/-- A run is prepared if and only if all is there, and then with what was found. -/
theorem prepare_ok_iff : prepare registry host i w = (.ok plan, after) ↔
    ∃ root provider eligible, Found registry host i w root provider eligible ∧
      plan = made host i (provider.engine host) root eligible ∧
      after = (loaded host i root w).say host
        (.debug s!"Provider: {(provider.engine host).name}") := by
  rw [prepare_eq]
  constructor
  · intro h
    split at h
    · cases h
    · next hpaths =>
      split at h
      · cases h
      · next root hroot =>
        split at h
        · cases h
        · next hengine =>
          obtain ⟨provider, hprovider, hcheck, rfl⟩ := engine_ok_iff.mp hengine
          simp only at h
          split at h
          · cases h
          · next eligible heligible =>
            cases h
            have htarget := (checkPaths_ok_iff.mp hpaths).1
            exact ⟨root, provider, eligible, ⟨htarget, hroot, hprovider, hcheck, heligible⟩, rfl,
              rfl⟩
  · rintro ⟨root, provider, eligible, hfound, rfl, rfl⟩
    have hpaths : checkPaths host i (told host i w).tree = .ok () := checkPaths_ok_iff.mpr
      ⟨hfound.target, Tree.pathExists_of_isFile (Profile.isFile_of_readRoot hfound.profile)⟩
    have hengine : engine registry host i (loaded host i root w) = .ok (provider.engine host) :=
      engine_ok_iff.mpr ⟨provider, hfound.registered, hfound.check, rfl⟩
    simp only [hpaths, hfound.profile, hengine, hfound.extension]

/-- The settings of a plan are those of the profile. -/
theorem settings_of_prepare (h : prepare registry host i w = (.ok plan, after)) :
    ∃ root, Profile.readRoot host i.profile (told host i w).tree = .ok root ∧
      plan.walker.gateway.settings = Profile.loadedSettings i.profile root := by
  obtain ⟨root, provider, eligible, hfound, rfl, -⟩ := prepare_ok_iff.mp h
  exact ⟨root, hfound.profile, rfl⟩

/-- Whatever comes of it, nothing is written but the log. -/
theorem masked_prepare (h : host.echo.StaysIn logs) (registry : Registry) (i : Invocation)
    (w : World) : (prepare registry host i w).2.tree.masked logs = w.tree.masked logs := by
  have htold : (told host i w).tree.masked logs = w.tree.masked logs := World.masked_tell h _ w
  rw [prepare_eq]
  split
  · exact htold
  · split
    · exact htold
    · next root _ =>
      have hloaded := masked_loaded h i root w
      split
      · exact hloaded
      · simp only
        split
        · exact (World.masked_say h _).trans hloaded
        · exact (World.masked_say h _).trans hloaded

/-- A run can be prepared if and only if its target exists, its profile is a file that holds a
well-formed document, its provider is registered and can be made and can work, and its extension is
not blank. -/
theorem prepared_iff (hecho : host.echo.StaysIn logs)
    (haddress : Address.target? i.profile = none) :
    (∃ plan after, prepare registry host i w = (.ok plan, after)) ↔
      w.tree.pathExists host.cwd i.target = .ok true ∧
      (∃ root, Profile.Holds (told host i w).tree host.cwd i.profile root ∧
        ∃ maker provider, registry.maker? i.provider = some maker ∧
          maker.make host.environment (options i) = .ok provider ∧
          (provider.engine host).check (loaded host i root w) = .ok ()) ∧
      Text.isBlank i.extension = false := by
  have htarget : (told host i w).tree.pathExists host.cwd i.target =
      w.tree.pathExists host.cwd i.target :=
    Tree.test_of_shape (Tree.shape_of_masked (World.masked_tell hecho _ w)) fun _ => rfl
  simp only [prepare_ok_iff, ← Eligibility.ofExtension_ok_iff, ← Profile.readRoot_ok_iff haddress,
    ← htarget]
  constructor
  · rintro ⟨plan, after, root, provider, eligible, hfound, -⟩
    obtain ⟨maker, hmaker, hmake⟩ := Registry.get_ok_iff.mp hfound.registered
    exact ⟨hfound.target, ⟨root, hfound.profile, maker, provider, hmaker, hmake, hfound.check⟩,
      eligible, hfound.extension⟩
  · rintro ⟨htarget, ⟨root, hprofile, maker, provider, hmaker, hmake, hcheck⟩, eligible, hextension⟩
    exact ⟨_, _, root, provider, eligible, ⟨htarget, hprofile,
      Registry.get_ok_iff.mpr ⟨maker, hmaker, hmake⟩, hcheck, hextension⟩, rfl, rfl⟩

end Plan
end BatchFormat
