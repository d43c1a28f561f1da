import BatchFormat.Proofs.Journal.Opening
import BatchFormat.Proofs.Session.Ending

/-!
# What it takes to open a log

A call that opens its log makes the log file and the directories above it, as far as they are
missing. Nothing else in the tree is touched before the work begins.
-/
namespace BatchFormat

variable {s : Session} {host : Host} {i : Invocation} {j : Journal} {t u : Tree}
  {place : Location} {p : Path} {logs : List Location}

namespace Session

/-- A directory above the log file of a call: it is found under the first names of the place that
the name of the log file stands for. -/
def AboveLog (host : Host) (i : Invocation) (t u : Tree) (place : Location) : Prop :=
  ∃ name real above, i.logFile? = some name ∧
    host.expandHome (.ofString name) >>= t.resolve host.cwd = .ok real ∧ above <+: real.dropLast ∧
    u.walk false Tree.linkLimit [] above = .ok (.found place (.dir Tree.directoryMode))

/-- The one tree became the other when a log was opened. -/
structure MadeRoom (host : Host) (i : Invocation) (logs : List Location) (t u : Tree) : Prop where
  kept : Tree.Extends t u
  nodup : t.places.Nodup → u.places.Nodup
  added : ∀ place entry, t.get? place = none → u.get? place = some entry →
    place ∈ logs ∨ entry = .dir Tree.directoryMode ∧ AboveLog host i t u place

theorem MadeRoom.refl (host : Host) (i : Invocation) (logs : List Location) (t : Tree) :
    MadeRoom host i logs t t where
  kept := .refl t
  nodup := id
  added := fun place entry hnone hsome => by
    rw [hnone] at hsome
    cases hsome

/-- Directories are made first, and then the file. -/
theorem MadeRoom.of_grown {name : String} {real : Location} {v : Tree}
    (hlog : i.logFile? = some name)
    (hreal : host.expandHome (.ofString name) >>= t.resolve host.cwd = .ok real)
    (hgrown : Tree.Grown t v real.dropLast)
    (hopen : u = v ∨ place ≠ [] ∧ v.get? place = none ∧ u = v.put place (.file [] Journal.fileMode))
    (hmem : place ∈ logs) : MadeRoom host i logs t u := by
  have hkept : Tree.Extends v u := by
    rcases hopen with rfl | ⟨-, hfree, rfl⟩
    · exact .refl u
    · exact .put hfree _
  refine ⟨hgrown.kept.trans hkept, fun hplaces => ?_, fun new entry hnone hsome => ?_⟩
  · rcases hopen with rfl | ⟨-, -, rfl⟩
    · exact hgrown.nodup hplaces
    · exact Tree.nodup_places_put (hgrown.nodup hplaces)
  · cases hbetween : v.get? new with
    | some old =>
      have hsame := hkept new old hbetween
      rw [hsome] at hsame
      cases hsame
      obtain ⟨rfl, above, hfirst, hwalk⟩ := hgrown.added new entry hnone hbetween
      exact Or.inr ⟨rfl, name, real, above, hlog, hreal, hfirst, hkept.walk_eq hbetween hwalk⟩
    | none =>
      rcases hopen with rfl | ⟨-, -, rfl⟩
      · rw [hbetween] at hsome
        cases hsome
      · by_cases heq : new = place
        · exact Or.inl (heq ▸ hmem)
        · rw [Tree.get?_put_of_ne heq, hbetween] at hsome
          cases hsome

/-- A place is as it was, or it is a directory above the log that was missing. -/
def Untouched (host : Host) (i : Invocation) (t u : Tree) (place : Location) : Prop :=
  u.get? place = t.get? place ∨
    t.get? place = none ∧ u.get? place = some (.dir Tree.directoryMode) ∧ AboveLog host i t u place

/-- Nothing but the logs is touched where only they are written to once the log is open. -/
theorem MadeRoom.untouched {v : Tree} (h : MadeRoom host i logs t u)
    (hsame : v.masked logs = u.masked logs) (hlog : place ∉ logs) : Untouched host i t v place := by
  have hget := Tree.get?_eq_of_masked hsame hlog
  cases hold : t.get? place with
  | some entry => exact Or.inl (hget.trans ((h.kept place entry hold).trans hold.symm))
  | none =>
    cases hnew : u.get? place with
    | none => exact Or.inl (hget.trans (hnew.trans hold.symm))
    | some entry =>
      rcases h.added place entry hold hnew with hmem | ⟨rfl, hdir⟩
      · exact (hlog hmem).elim
      · obtain ⟨name, real, above, hname, hreal, hfirst, hwalk⟩ := hdir
        have hparallel := Tree.Parallel.of_shape_eq (Tree.shape_of_masked hsame).symm
        refine Or.inr ⟨hold, hget.trans hnew, name, real, above, hname, hreal, hfirst, ?_⟩
        rw [hparallel.walk_eq, hwalk]
        simp [Except.map, Tree.Place.seenIn, hget, hnew]

/-- A file that is no log was there before. -/
theorem MadeRoom.get?_file (h : MadeRoom host i logs t u) (hlog : place ∉ logs) {bytes : Bytes}
    {mode : Nat} (hget : u.get? place = some (.file bytes mode)) :
    t.get? place = some (.file bytes mode) := by
  rcases h.untouched rfl hlog with hsame | ⟨-, hdir, -⟩
  · rw [← hsame, hget]
  · rw [hget] at hdir
    cases hdir

/-- To open a log file makes room for it at most: nothing that was there is changed. -/
theorem madeRoom_of_opened (h : s.opened host i = .ok (j, t)) :
    MadeRoom host i (j.files.map LogFile.place) s.tree t := by
  by_cases hlog : i.logFile? = none ∨ i.logFile? = some ""
  · rw [opened_of_no_log hlog] at h
    cases h
    exact .refl host i _ s.tree
  · obtain ⟨hsome, hname⟩ := not_or.mp hlog
    obtain ⟨name, hlogFile⟩ := Option.ne_none_iff_exists'.mp hsome
    rw [hlogFile, Option.some.injEq] at hname
    rw [opened_of_log hlogFile hname] at h
    split at h
    · cases h
    · next real hreal =>
      split at h
      · cases h
      · next made hmake =>
        cases hopen : Journal.openFile made (Journal.filePath host.cwd name) with
        | error e =>
          rw [hopen] at h
          cases h
        | ok log =>
          rw [hopen] at h
          cases h
          exact .of_grown hlogFile hreal (Tree.grown_of_makeDirectories hmake)
            (Journal.openFile_cases hopen) (by simp [Journal.addFile])

end Session
end BatchFormat
