import BatchFormat.Proofs.Text.WellFormed
import BatchFormat.Shell.Launch

/-!
# What it takes to start a program

A start tries paths in turn and is refused only if every one of them is. A path is refused unless it
leads to a file with an execute bit; it is taken if that file is a program, or a script for one.
-/
namespace BatchFormat

/-! ## Paths as octets -/

namespace Octets

theorem bytes_ofBytes (bytes : Text.Bytes) : (ofBytes bytes).bytes = bytes := by
  have hbyte (b : UInt8) : UInt8.ofNat (Char.ofNat b.toNat).toNat = b := by
    rw [Text.toNat_ofNat_valid (Or.inl (by have := b.toNat_lt; omega)), UInt8.ofNat_toNat]
  simp [ofBytes, Octets.bytes, Function.comp_def, hbyte]

theorem text_ofString (s : String) : (ofString s).text = s := by
  rw [ofString, text, bytes_ofBytes, Text.decodeLenient_encode]

end Octets

namespace Shell

variable {eval : Evaluator} {s : State} {n links : Nat} {path : Octets} {words : List Octets}
  {place : Location} {bytes : Bytes} {mode : Nat} {cause : Cause}

namespace Run

/-- A step that was meant to start a program was refused. -/
def Refused (step : Run (Except Cause Unit)) (s : State) : Prop :=
  ∃ cause after, (step.run).run s = (.ok (.error cause), after)

theorem refused_return (cause : Cause) : Refused (return .error cause) s := ⟨cause, s, rfl⟩

/-- What is started is not refused, whatever comes of it. -/
theorem not_refused_started (step : Run Unit) : ¬Refused (do return .ok (← step)) s := by
  rintro ⟨cause, after, h⟩
  have hstep : ((do return .ok (← step) : Run (Except Cause Unit)).run).run s =
      match (step.run).run s with
      | (.ok started, after) => (.ok (.ok started), after)
      | (.error stop, after) => (.error stop, after) := by
    simp only [bind, ExceptT.bind, ExceptT.mk, ExceptT.run, StateT.bind, StateT.run, pure,
      ExceptT.pure]
    generalize step s = done
    obtain ⟨outcome, after⟩ := done
    cases outcome <;> rfl
  rw [hstep] at h
  split at h <;> cases h

theorem run_get_bind {α : Type} (step : State → Run α) :
    ((do step (← get) : Run α).run).run s = ((step s).run).run s := rfl

/-- The paths that are refused at once: nothing is there, or no file, or it has no execute bit. -/
theorem execute_refused (h : ∀ place bytes mode,
    Files.locate s.machine.tree s.process.here path = .ok (.found place (.file bytes mode)) →
      Tree.isExecutableMode mode = false) : Refused (execute eval (n + 1) links path words) s := by
  rw [execute]
  unfold Refused
  rw [run_get_bind]
  split
  · exact refused_return _
  · exact refused_return _
  · next place bytes mode hlocate =>
    rw [h place bytes mode hlocate]
    exact refused_return _
  · exact refused_return _

/-- The interpreter that the rest of a first line names. -/
def interpreterOf (rest : Octets) : Octets :=
  (((rest.takeWhile (· != '\n')).dropWhile Octets.isBlank).span fun c => !Octets.isBlank c).1

def IsKnown (name : String) : Prop :=
  Known.shells.contains name = true ∨ name = Known.changer ∨
    ∃ tool, Known.programs.lookup name = some tool

/-- A path leads to a file with an execute bit that is a known program, or a script whose
interpreter is at the end of at most `links` more steps of that kind. -/
inductive Sound (t : Tree) (here : Location) : (links : Nat) → (path : Octets) → Prop
  | program {links : Nat} {path : Octets} {place : Location} {bytes : Bytes} {mode : Nat}
    {name : String} (hlocate : Files.locate t here path = .ok (.found place (.file bytes mode)))
    (hmode : Tree.isExecutableMode mode = true)
    (hname : Known.named? (.ofBytes bytes) = some name) (hknown : IsKnown name) :
    Sound t here links path
  | script {links : Nat} {path rest : Octets} {place : Location} {bytes : Bytes} {mode : Nat}
    (hlocate : Files.locate t here path = .ok (.found place (.file bytes mode)))
    (hmode : Tree.isExecutableMode mode = true)
    (hscript : Octets.ofBytes bytes = '#' :: '!' :: rest) (hnamed : interpreterOf rest ≠ [])
    (hinterpreter : Sound t here links (interpreterOf rest)) : Sound t here (links + 1) path

/-- A sound program is not refused, if the limit allows for all of its interpreters. -/
theorem not_refused_of_sound (h : Sound s.machine.tree s.process.here links path)
    (hsteps : links < n) : ¬Refused (execute eval n links path words) s := by
  obtain ⟨n, rfl⟩ := Nat.exists_eq_add_one_of_ne_zero (Nat.ne_zero_of_lt hsteps)
  induction h generalizing n words with
  | program hlocate hmode hname hknown =>
    rw [execute]
    unfold Refused
    rw [run_get_bind, hlocate]
    simp only [hmode, hname, Bool.not_true, Bool.false_eq_true, if_false]
    split
    · exact not_refused_started _
    · next hshell =>
      split
      · exact not_refused_started _
      · next hchanger =>
        rcases hknown with hknown | hknown | ⟨tool, htool⟩
        · exact (hshell hknown).elim
        · exact (hchanger hknown).elim
        · rw [htool]
          exact not_refused_started _
  | @script links path rest _ _ _ hlocate hmode hscript hnamed hinterpreter ih =>
    rw [execute]
    unfold Refused
    rw [run_get_bind, hlocate]
    have hname : Known.named? ('#' :: '!' :: rest) = none := rfl
    simp only [hmode, hscript, hname, Bool.not_true, Bool.false_eq_true, if_false]
    unfold interpreterOf at hnamed
    rw [if_neg hnamed]
    obtain ⟨n, rfl⟩ := Nat.exists_eq_add_one_of_ne_zero (show n ≠ 0 by omega)
    exact ih n (by omega)

end Run

namespace Launch

open Run (Refused Sound)

/-- The attempt to start a program by one of its paths. -/
def attempt (words : List Octets) (path : String) : Run (Except Cause Unit) :=
  Run.execute Run.evaluator (total (words.map List.length) + 8) Run.interpreterLimit
    (Octets.ofString path) words

/-- A start is refused only if every path is. -/
theorem tryPaths_eq_error_iff (words : List Octets) (s : State) (told? : Option Cause)
    (paths : List String) : (∃ cause, tryPaths words s told? paths = .error cause) ↔
      ∀ path ∈ paths, Refused (attempt words path) s := by
  induction paths generalizing told? with
  | nil => simp [tryPaths]
  | cons path paths ih =>
    rw [List.forall_mem_cons, tryPaths]
    cases hrun : ((attempt words path).run).run s with
    | mk outcome after =>
      unfold attempt at hrun
      simp only [hrun]
      match outcome with
      | .ok (.error cause) =>
        -- A refusal leaves no trace: the next path is tried from the same state.
        have hrefused : Refused (attempt words path) s := ⟨cause, after, hrun⟩
        simp only [ih, hrefused, true_and]
      | .ok (.ok started) | .error stop =>
        have htaken : ¬Refused (attempt words path) s := by
          rintro ⟨cause, after, hrefused⟩
          cases hrun.symm.trans hrefused
        simp [htaken]

/-- The state in which a start with the limit of a request tries its paths. -/
def ready (here : Location) (environment : Environment) (r : Request) (t : Tree) : State :=
  start here environment r (max (((nanoseconds r.limit).toOption.bind id).getD 0) 1) t

/-- Once a program has been started, that is not taken back. -/
theorem outcome_ne_notStarted (result : Except Stop Unit) (s : State) (cause : SystemError) :
    (outcome result s).1 ≠ .notStarted cause := by
  unfold outcome
  dsimp only
  repeat' split
  all_goals simp

/-- The launcher starts nothing exactly if a word cannot be passed on or if no path that is tried
for the first word can be started. -/
theorem launcher_notStarted_iff (here : Location) (environment : Environment) (r : Request)
    (t : Tree) : (∃ cause, (launcher here environment r t).1 = .notStarted cause) ↔
      r.words.any Path.holdsNul = true ∨
        ∀ path ∈ Lookup.attempts environment (r.words.head?.getD ""),
          Refused (attempt (r.words.map Octets.ofString) path) (ready here environment r t) := by
  rw [← tryPaths_eq_error_iff _ _ none]
  unfold launcher ready
  split
  · next hnul => simp [hnul]
  · next hnul =>
    simp only [hnul]
    cases htried : tryPaths (r.words.map Octets.ofString)
        (start here environment r (max (((nanoseconds r.limit).toOption.bind id).getD 0) 1) t) none
        (Lookup.attempts environment (r.words.head?.getD "")) with
    | error cause => simp
    | ok tried =>
      obtain ⟨result, after⟩ := tried
      refine iff_of_false ?_ (by simp)
      rintro ⟨cause, h⟩
      cases hlimit : nanoseconds r.limit with
      | error flaw => simp [hlimit] at h
      | ok limit =>
        cases limit with
        | none => simp [hlimit] at h
        | some limit =>
          rw [hlimit] at h
          exact outcome_ne_notStarted result after cause h

/-- No file with an execute bit is reached, so nothing is started. -/
theorem not_started_of_missing {here : Location} {environment : Environment} {r : Request}
    {t : Tree} (h : ∀ path ∈ Lookup.attempts environment (r.words.head?.getD ""),
      ∀ place bytes mode, t.locateText here path = .ok (.found place (.file bytes mode)) →
        Tree.isExecutableMode mode = false) :
    ∃ cause, (launcher here environment r t).1 = .notStarted cause := by
  refine (launcher_notStarted_iff here environment r t).mpr (Or.inr fun path hpath => ?_)
  refine Run.execute_refused fun place bytes mode hlocate => h path hpath place bytes mode ?_
  rwa [Files.locate, Octets.text_ofString] at hlocate

/-- A sound program is started, whatever paths are tried before it. -/
theorem started_of_sound {here : Location} {environment : Environment} {r : Request} {t : Tree}
    {path : String} (hnul : r.words.any Path.holdsNul = false)
    (hpath : path ∈ Lookup.attempts environment (r.words.head?.getD ""))
    (hsound : Sound t here Run.interpreterLimit (Octets.ofString path)) (cause : SystemError) :
    (launcher here environment r t).1 ≠ .notStarted cause := by
  intro h
  rcases (launcher_notStarted_iff here environment r t).mp ⟨cause, h⟩ with hholds | hrefused
  · simp [hnul] at hholds
  · refine Run.not_refused_of_sound ?_ ?_ (hrefused path hpath)
    · exact hsound
    · simp [Run.interpreterLimit]

end Launch
end Shell
end BatchFormat
