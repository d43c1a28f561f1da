import BatchFormat.Engine.Command
import BatchFormat.Engine.Eclipse
import BatchFormat.Proofs.Shell.Launch
import BatchFormat.Proofs.Tree.Files
import BatchFormat.Proofs.Tree.Spelling
import BatchFormat.Proofs.Walk.Containment

/-!
# Programs that are found and programs that can be started

An engine is asked before a run whether its program can be found, and the start of the program
searches again. For a command both searches agree. Eclipse is also taken to be there if a file has
its name, whether or not the file can be executed, and whether or not the start looks for it at that
place.
-/
namespace BatchFormat

namespace Lookup

variable {host : Host} {t : Tree} {word found path : String}

/-- One of the paths that the start of a program tries for a word leads to a program. -/
def Startable (host : Host) (t : Tree) (word : String) : Prop :=
  ∃ path ∈ attempts host.environment word, t.LeadsToProgram host.cwd path

theorem attempts_of_slash (h : hasSlash word = true) : attempts host.environment word = [word] :=
  if_pos h

theorem startable_iff_of_slash (h : hasSlash word = true) :
    Startable host t word ↔ t.LeadsToProgram host.cwd word := by
  simp [Startable, attempts_of_slash h]

/-- With an empty search path, a bare word is looked for in the current directory. -/
theorem startable_iff_of_empty (h : hasSlash word = false)
    (hempty : host.valueOf? searchVariable = some "") :
    Startable host t word ↔ t.LeadsToProgram host.cwd word := by
  have hlookup : host.environment.lookup searchVariable = some "" := hempty
  have hattempts : attempts host.environment word = [word] := by
    simp [attempts, h, hlookup, colonPieces, inside]
  simp [Startable, hattempts]

/-- What the search finds is one of the paths that the start tries. -/
theorem program?_eq_some (h : program? host t word = some found) :
    found ∈ attempts host.environment word ∧ t.LeadsToProgram host.cwd found := by
  unfold program? at h
  split at h
  · next hslash =>
    split at h
    · next hrunnable =>
      cases h
      exact ⟨by simp [attempts_of_slash hslash], Tree.runnable_iff.mp hrunnable⟩
    · cases h
  · next hslash =>
    dsimp only at h
    split at h
    · cases h
    · refine ⟨?_, Tree.runnable_iff.mp (List.find?_some h)⟩
      rw [attempts, if_neg hslash]
      exact List.mem_of_find?_eq_some h

/-- The search fails where the start does, and also for a bare word with a search path that is
empty, although the start then looks into the current directory. -/
theorem program?_eq_none_iff : program? host t word = none ↔
    ¬Startable host t word ∨ hasSlash word = false ∧ host.valueOf? searchVariable = some "" := by
  unfold program?
  split
  · next hslash =>
    rw [startable_iff_of_slash hslash, ← Tree.runnable_iff]
    simp [hslash]
  · next hslash =>
    have hattempts : attempts host.environment word =
        (colonPieces ((host.valueOf? searchVariable).getD fallbackSearch)).map (inside · word) :=
      if_neg hslash
    have hempty : (host.valueOf? searchVariable).getD fallbackSearch = "" ↔
        host.valueOf? searchVariable = some "" := by
      cases host.valueOf? searchVariable with
      | none => simp [fallbackSearch]
      | some search => simp
    dsimp only
    split
    · next hsearch => simp [hslash, hempty.mp hsearch]
    · next hsearch =>
      rw [List.find?_eq_none, ← hattempts]
      simp [Startable, Tree.runnable_iff, mt hempty.mpr hsearch]

/-- A name in a directory is a path with a slash, unless the directory is written as nothing. -/
theorem inside_eq_or_hasSlash (dir name : String) :
    inside dir name = name ∨ hasSlash (inside dir name) = true := by
  unfold inside hasSlash
  split
  · next hdir =>
    rcases hdir with rfl | hlast
    · exact Or.inl (String.empty_append)
    · have hmem := List.mem_of_getLast? hlast
      exact Or.inr (by simp [hmem])
  · exact Or.inr (by simp)

/-- What the search found is found again when it is started. -/
theorem startable_of_found (h : program? host t word = some found) : Startable host t found := by
  obtain ⟨hmem, hprogram⟩ := program?_eq_some h
  by_cases hslash : hasSlash found = true
  · exact (startable_iff_of_slash hslash).mpr hprogram
  · have hsame : found = word := by
      by_cases hword : hasSlash word = true
      · simpa [attempts_of_slash hword] using hmem
      · rw [attempts, if_neg hword] at hmem
        obtain ⟨dir, -, rfl⟩ := List.mem_map.mp hmem
        exact (inside_eq_or_hasSlash dir word).resolve_right hslash
    exact ⟨found, hsame ▸ hmem, hprogram⟩

end Lookup
namespace Command

variable {c : Command} {host : Host} {w : World}

/-- A command that can be found can be started. -/
theorem startable_of_check (h : c.check host w = .ok ()) :
    ∃ word rest, c.words = word :: rest ∧ Lookup.Startable host w.tree word := by
  unfold check at h
  cases hwords : c.words with
  | nil => simp [hwords] at h
  | cons word rest =>
    simp only [hwords] at h
    split at h
    · next hfound =>
      obtain ⟨found, hfound⟩ := Option.isSome_iff_exists.mp hfound
      exact ⟨word, rest, rfl, found, Lookup.program?_eq_some hfound⟩
    · cases h

end Command

namespace Eclipse

variable {e : Eclipse} {host : Host} {t : Tree} {w : World} {word : String} {mode : Nat}
  {workdir prefs source : Path}

/-- Eclipse is taken to be a file of its name: the search for programs fails, and the name, read as
a path whose text is `word`, leads to a file with this mode. -/
structure FallsBack (e : Eclipse) (host : Host) (t : Tree) (word : String) (mode : Nat) : Prop where
  missed : Lookup.program? host t e.executable = none
  found : ∃ candidate place bytes, host.expandHome (.ofString e.executable) = .ok candidate ∧
    candidate.text = word ∧ t.entryAt? host.cwd true candidate = .ok (place, .file bytes mode)

/-- The two ways in which Eclipse is found. -/
theorem resolve_eq_some (h : e.resolve host t = .ok (some word)) :
    Lookup.program? host t e.executable = some word ∨ ∃ mode, FallsBack e host t word mode := by
  unfold resolve at h
  split at h
  · next found hfound =>
    cases h
    exact Or.inl hfound
  · next hmissed =>
    split at h
    · cases h
    · next candidate hcandidate =>
      split at h
      · cases h
      · next isFile hisFile =>
        cases isFile with
        | false => cases h
        | true =>
          cases h
          obtain ⟨place, bytes, mode, hentry⟩ := Tree.exists_file hisFile
          exact Or.inr ⟨mode, hmissed, candidate, place, bytes, hcandidate, rfl, hentry⟩

theorem FallsBack.leadsToProgram_iff (h : FallsBack e host t word mode) :
    t.LeadsToProgram host.cwd word ↔ Tree.isExecutableMode mode = true := by
  obtain ⟨candidate, place, bytes, hcandidate, rfl, hentry⟩ := h.found
  exact Tree.leadsToProgram_iff_of_file
    ((Path.isPlain_ofString e.executable).expandHome hcandidate) hentry

theorem FallsBack.startable_iff_of_slash (h : FallsBack e host t word mode)
    (hslash : Lookup.hasSlash word = true) :
    Lookup.Startable host t word ↔ Tree.isExecutableMode mode = true :=
  (Lookup.startable_iff_of_slash hslash).trans h.leadsToProgram_iff

/-- A bare name for which the search has failed is started all the same only where the search path
is empty, since the start then looks into the current directory. -/
theorem FallsBack.startable_iff_of_bare (h : FallsBack e host t word mode)
    (hsame : word = e.executable) (hbare : Lookup.hasSlash word = false) :
    Lookup.Startable host t word ↔ host.valueOf? Lookup.searchVariable = some "" ∧
      Tree.isExecutableMode mode = true := by
  by_cases hempty : host.valueOf? Lookup.searchVariable = some ""
  · rw [Lookup.startable_iff_of_empty hbare hempty, h.leadsToProgram_iff]
    simp [hempty]
  · have hnot := (Lookup.program?_eq_none_iff.mp h.missed).resolve_right fun hor => hempty hor.2
    rw [← hsame] at hnot
    simp [hempty, hnot]

/-- Where Eclipse is found, its command line begins with what was found. -/
theorem commandLine_of_check (h : e.check host w = .ok ()) (workdir prefs source : Path) :
    ∃ word rest, e.resolve host w.tree = .ok (some word) ∧
      e.commandLine host w.tree workdir prefs source = .ok (word :: rest) := by
  unfold check at h
  split at h
  · cases h
  · next word hresolve => exact ⟨word, _, hresolve, congrArg (Except.map _) hresolve⟩
  · cases h

end Eclipse

namespace Lookup

open Shell.Launch (launcher)

/-- Without a path to start the first word by, the launcher starts nothing; and it does start a
sound program. -/
theorem launcher_starts (host : Host) (t : Tree) {r : Request} {word : String}
    {rest : List String} (hwords : r.words = word :: rest)
    (hnul : r.words.any Path.holdsNul = false)
    (hpaths : ∀ path ∈ attempts host.environment word, Path.holdsNul path = false) :
    (¬Startable host t word →
      ∃ cause, (launcher host.cwd host.environment r t).1 = .notStarted cause) ∧
    ∀ path ∈ attempts host.environment word,
      Shell.Run.Sound t host.cwd Shell.Run.interpreterLimit (Octets.ofString path) →
      ∀ cause, (launcher host.cwd host.environment r t).1 ≠ .notStarted cause := by
  have hword : r.words.head?.getD "" = word := by simp [hwords]
  constructor
  · intro hmissing
    refine Shell.Launch.not_started_of_missing fun path hpath place bytes mode hlocate => ?_
    rw [hword] at hpath
    refine Bool.eq_false_iff.mpr fun hmode => hmissing ?_
    exact ⟨path, hpath, hpaths path hpath, place, _, hlocate, rfl, hmode⟩
  · intro path hpath hsound
    exact Shell.Launch.started_of_sound hnul (hword ▸ hpath) hsound

/-- A command that passes its check can be started. Eclipse that passes its check can be started if
the search for programs finds it. Else it is a file of its name: where the path of the file has a
slash, it can be started exactly if the file has an execute bit; where it is the bare name that was
searched for, only if the search path is empty besides. Without a path to start the first word by,
the launcher starts nothing; and it does start a sound program. -/
theorem checked_startable (host : Host) (w : World) :
    (∀ c : Command, c.check host w = .ok () →
      ∃ word rest, c.words = word :: rest ∧ Startable host w.tree word) ∧
    (∀ (e : Eclipse) (workdir prefs source : Path), e.check host w = .ok () →
      ∃ word rest, e.commandLine host w.tree workdir prefs source = .ok (word :: rest) ∧
        (program? host w.tree e.executable = some word ∧ Startable host w.tree word ∨
          ∃ mode, e.FallsBack host w.tree word mode ∧
            (hasSlash word = true →
              (Startable host w.tree word ↔ Tree.isExecutableMode mode = true)) ∧
            (word = e.executable → hasSlash word = false →
              (Startable host w.tree word ↔
                host.valueOf? searchVariable = some "" ∧ Tree.isExecutableMode mode = true)))) ∧
    ∀ (r : Request) (word : String) (rest : List String), r.words = word :: rest →
      r.words.any Path.holdsNul = false →
      (∀ path ∈ attempts host.environment word, Path.holdsNul path = false) →
      (¬Startable host w.tree word →
        ∃ cause, (launcher host.cwd host.environment r w.tree).1 = .notStarted cause) ∧
      ∀ path ∈ attempts host.environment word,
        Shell.Run.Sound w.tree host.cwd Shell.Run.interpreterLimit (Octets.ofString path) →
        ∀ cause, (launcher host.cwd host.environment r w.tree).1 ≠ .notStarted cause := by
  refine ⟨fun c => Command.startable_of_check, ?_,
    fun r word rest hwords hnul hpaths => launcher_starts host w.tree hwords hnul hpaths⟩
  intro e workdir prefs source hcheck
  obtain ⟨word, rest, hresolve, hline⟩ := Eclipse.commandLine_of_check hcheck workdir prefs source
  refine ⟨word, rest, hline, ?_⟩
  rcases Eclipse.resolve_eq_some hresolve with hfound | ⟨mode, hfalls⟩
  · exact Or.inl ⟨hfound, startable_of_found hfound⟩
  · exact Or.inr ⟨mode, hfalls, hfalls.startable_iff_of_slash, hfalls.startable_iff_of_bare⟩

def fileOfMode (mode : Nat) : Tree :=
  ⟨[(["bin"], .dir 0o755), (["bin", "ecl"], .file [] mode)]⟩

theorem fileOfMode_entryAt? (mode : Nat) :
    (fileOfMode mode).entryAt? [] true (.ofString "bin/ecl") =
      .ok (["bin", "ecl"], .file [] mode) := by
  have hbin : Tree.IsName "bin" := by decide
  have hecl : Tree.IsName "ecl" := by decide
  refine Tree.entryAt?_eq_ok_iff.mpr ⟨by decide, by decide, ?_⟩
  exact (Tree.walk_through hbin rfl).trans (Tree.walk_halt hecl rfl rfl)

theorem fileOfMode_startable_iff (mode : Nat) :
    Startable Walker.calmHost (fileOfMode mode) "bin/ecl" ↔
      Tree.isExecutableMode mode = true := by
  have htext : (Path.ofString "bin/ecl").text = "bin/ecl" := by decide
  have hleads := Tree.leadsToProgram_iff_of_file (Path.isPlain_ofString "bin/ecl")
    (fileOfMode_entryAt? mode)
  rw [htext] at hleads
  exact (startable_iff_of_slash (by decide)).trans hleads

/-- A command whose file can be executed passes its check. -/
theorem checked_startable_of_command :
    Command.check ⟨["bin/ecl"], .ofInt 120⟩ Walker.calmHost (.ofTree (fileOfMode 0o755)) = .ok () ∧
      ∃ word rest, ["bin/ecl"] = word :: rest ∧
        Startable Walker.calmHost (fileOfMode 0o755) word := by
  have hstart := (fileOfMode_startable_iff 0o755).mpr (by decide)
  have hfound : program? Walker.calmHost (fileOfMode 0o755) "bin/ecl" ≠ none := by
    rw [Ne, program?_eq_none_iff]
    rintro (hmissing | ⟨hbare, -⟩)
    · exact hmissing hstart
    · exact absurd hbare (by decide)
  have hcheck : Command.check ⟨["bin/ecl"], .ofInt 120⟩ Walker.calmHost
      (.ofTree (fileOfMode 0o755)) = .ok () := if_pos (Option.isSome_iff_ne_none.mpr hfound)
  exact ⟨hcheck, (checked_startable Walker.calmHost (.ofTree (fileOfMode 0o755))).1 _ hcheck⟩

/-- Eclipse passes its check although its file cannot be executed. -/
theorem checked_not_startable :
    Eclipse.check ⟨"bin/ecl", .ofInt 120⟩ Walker.calmHost (.ofTree (fileOfMode 0o644)) = .ok () ∧
      (∃ rest, Eclipse.commandLine ⟨"bin/ecl", .ofInt 120⟩ Walker.calmHost (fileOfMode 0o644)
        (.ofString "w") (.ofString "w/p") (.ofString "w/s") = .ok ("bin/ecl" :: rest)) ∧
      ¬Startable Walker.calmHost (fileOfMode 0o644) "bin/ecl" := by
  have hmissing : ¬Startable Walker.calmHost (fileOfMode 0o644) "bin/ecl" :=
    fun hstart => absurd ((fileOfMode_startable_iff 0o644).mp hstart) (by decide)
  have hresolve : Eclipse.resolve ⟨"bin/ecl", .ofInt 120⟩ Walker.calmHost (fileOfMode 0o644) =
      .ok (some "bin/ecl") := by
    have hhome : Walker.calmHost.expandHome (.ofString "bin/ecl") = .ok (.ofString "bin/ecl") :=
      rfl
    have hfile : (fileOfMode 0o644).isFile Walker.calmHost.cwd (.ofString "bin/ecl") = .ok true :=
      Tree.isFile_of_file (fileOfMode_entryAt? 0o644)
    have htext : (Path.ofString "bin/ecl").text = "bin/ecl" := by decide
    simp only [Eclipse.resolve, program?_eq_none_iff.mpr (Or.inl hmissing), hhome, hfile, htext]
    rfl
  refine ⟨?_, ⟨_, congrArg (Except.map _) hresolve⟩, hmissing⟩
  have htree : (World.ofTree (fileOfMode 0o644)).tree = fileOfMode 0o644 := rfl
  simp only [Eclipse.check, htree, hresolve]

end Lookup
end BatchFormat
