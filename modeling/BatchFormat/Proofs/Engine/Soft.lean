import BatchFormat.Engine.Eclipse
import BatchFormat.Proofs.Tree.ReadBack
import BatchFormat.Proofs.Tree.Spelling
import BatchFormat.Proofs.Walk.Phases

/-!
# How Eclipse fails

An engine fails softly where it answers with a text or a rejection: every other failure goes past
the gateway and is counted as one of the file. Eclipse does so only for a well-behaved program. What
the program prints is read as text before its exit status is looked at, and the file that it leaves
is read outside of what the engine watches over; bytes that are no text, or a missing file, end the
call with a failure of another kind.
-/
namespace BatchFormat

/-- An answer that is a text or a rejection. -/
def IsSoft (answer : Except Failure String) : Prop :=
  ∀ failure, answer = .error failure → ∃ r, failure = .rejected r

theorem isSoft_ok {text : String} : IsSoft (.ok text) := fun _ h => nomatch h

theorem isSoft_error_iff {failure : Failure} :
    IsSoft (.error failure) ↔ ∃ r, failure = .rejected r :=
  ⟨fun h => h failure rfl, fun h _ heq => by cases heq; exact h⟩

/-- An answer of an engine becomes an error behind the gateway exactly if it is not soft. -/
theorem Gateway.apply_ok_iff (g : Gateway) (content : String) (w : World) :
    (∃ result, (g.apply content w).1 = .ok result) ↔
      Text.isBlank content = true ∨ IsSoft (g.ask content w).1 := by
  rw [Gateway.apply_fst]
  by_cases hblank : Text.isBlank content = true
  · simp [hblank]
  · rw [if_neg hblank]
    cases hasked : (g.ask content w).1 with
    | ok answer => simp [isSoft_ok]
    | error failure => cases failure <;> simp [isSoft_error_iff, hblank]

theorem isSoft_readText_iff {t : Tree} {faults : Faults} {cwd : Location} {p : Path} :
    IsSoft (t.readText faults cwd p) ↔
      ∃ bytes, t.readBytes faults cwd p = .ok bytes ∧ Text.WellFormed bytes := by
  cases hread : t.readBytes faults cwd p with
  | error cause => simp [Tree.readText, hread, isSoft_error_iff]
  | ok bytes =>
    by_cases hbytes : Text.WellFormed bytes
    · obtain ⟨text, rfl⟩ := hbytes.exists_encode
      rw [Tree.readText_eq_ok_iff.mpr hread]
      exact iff_of_true isSoft_ok ⟨_, rfl, hbytes⟩
    · obtain ⟨flaw, hflaw⟩ := Tree.readText_of_not_wellFormed hread hbytes
      rw [hflaw]
      exact iff_of_false (by simp [isSoft_error_iff]) (by rintro ⟨_, ⟨⟩, h⟩; exact hbytes h)

namespace Eclipse

variable {e : Eclipse} {host : Host} {w : World} {t : Tree} {settings : Settings}
  {content text : String} {words : List String} {limit : Binary} {status : Int}
  {output errors bytes : Bytes}

/-! ## What was printed -/

theorem printed_ok_iff : (∃ text, printed bytes = .ok text) ↔ Text.WellFormed bytes := by
  rw [← Text.exists_decode_iff]
  unfold printed
  cases Text.decode bytes <;> simp

theorem printed_error (h : ¬Text.WellFormed bytes) :
    ∃ flaw, printed bytes = .error (.notUtf8 flaw) := by
  cases hdecode : Text.decode bytes with
  | ok text => exact (h (Text.exists_decode_iff.mp ⟨text, hdecode⟩)).elim
  | error flaw => exact ⟨flaw, by simp [printed, hdecode]⟩

/-- A program that ended is judged by its status only if all that it printed is text. -/
theorem verdict_ended (limit : Binary) (status : Int) (houtput : Text.WellFormed output)
    (herrors : Text.WellFormed errors) :
    ∃ said, verdict limit (.ended status output errors) =
      if status ≠ 0 then .error (.rejected (.failed .eclipse said)) else .ok () := by
  obtain ⟨out, hout⟩ := printed_ok_iff.mpr houtput
  obtain ⟨err, herr⟩ := printed_ok_iff.mpr herrors
  refine ⟨complaint status out err, ?_⟩
  simp [verdict, hout, herr, bind, Except.bind, pure, Except.pure]

theorem verdict_garbled (limit : Binary) (status : Int)
    (h : ¬(Text.WellFormed output ∧ Text.WellFormed errors)) :
    ∃ flaw, verdict limit (.ended status output errors) = .error (.notUtf8 flaw) := by
  by_cases houtput : Text.WellFormed output
  · obtain ⟨out, hout⟩ := printed_ok_iff.mpr houtput
    obtain ⟨flaw, hflaw⟩ := printed_error fun herrors => h ⟨houtput, herrors⟩
    exact ⟨flaw, by simp [verdict, hout, hflaw, bind, Except.bind]⟩
  · obtain ⟨flaw, hflaw⟩ := printed_error houtput
    exact ⟨flaw, by simp [verdict, hflaw, bind, Except.bind]⟩

/-- Only a program that ends with status 0 passes, and only if all it has printed can be decoded. -/
theorem verdict_ok_iff (limit : Binary) {outcome : Outcome} : verdict limit outcome = .ok () ↔
    ∃ output errors, outcome = .ended 0 output errors ∧
      Text.WellFormed output ∧ Text.WellFormed errors := by
  cases outcome with
  | notStarted cause => cases hrefusal : cause.isRefusal <;> simp [verdict, hrefusal]
  | badLimit | overtime => simp [verdict]
  | ended status output errors =>
    by_cases hprinted : Text.WellFormed output ∧ Text.WellFormed errors
    · obtain ⟨said, hsaid⟩ := verdict_ended limit status hprinted.1 hprinted.2
      rw [hsaid]
      by_cases hstatus : status = 0
      · subst hstatus
        exact iff_of_true (if_neg (by simp)) ⟨output, errors, rfl, hprinted⟩
      · simp [hstatus]
    · obtain ⟨flaw, hflaw⟩ := verdict_garbled limit status hprinted
      rw [hflaw]
      refine iff_of_false (by simp) ?_
      rintro ⟨_, _, ⟨⟩, h⟩
      exact hprinted h

/-! ## The call -/

def sourcePath (host : Host) : Path := (Path.ofNames host.scratch).child sourceName

/-- Unpacking leaves alone what is outside of the scratch directory. -/
theorem get?_unpack {scratch place : Location} (h : ¬scratch <+: place) :
    (unpack scratch settings content t).get? place = t.get? place := by
  have hne : ∀ names, place ≠ scratch ++ names :=
    fun names heq => h (heq ▸ List.prefix_append scratch names)
  rw [unpack, Tree.get?_put_of_ne (hne _), Tree.get?_put_of_ne (hne _),
    Tree.get?_put_of_ne (by simpa using hne [])]

def started (e : Eclipse) (host : Host) (settings : Settings) (content : String) (w : World) :
    Except Failure (List String) :=
  let workdir := Path.ofNames host.scratch
  e.commandLine host (unpack host.scratch settings content w.tree) workdir
    (workdir.child prefsName) (sourcePath host)

/-- What comes of the start, and the files afterwards. -/
def launched (e : Eclipse) (host : Host) (settings : Settings) (content : String) (w : World)
    (words : List String) : Outcome × Tree :=
  let line := String.intercalate " " words
  host.launch ⟨words, [], e.limit⟩
    (({ w with tree := unpack host.scratch settings content w.tree }).say host
      (.debug s!"Executing Eclipse formatter: {line}")).tree

theorem transform_of_not_started {failure : Failure}
    (h : e.started host settings content w = .error failure) :
    (e.transform host settings content w).1 = .error failure := by
  unfold started sourcePath at h
  simp [transform, work, h]

theorem transform_of_started (h : e.started host settings content w = .ok words) :
    (e.transform host settings content w).1 =
      match verdict e.limit (e.launched host settings content w words).1 with
      | .error failure => .error failure
      | .ok () =>
        (e.launched host settings content w words).2.readText .none host.cwd (sourcePath host) := by
  unfold started sourcePath at h
  simp only [transform, work, h, launched, sourcePath]
  generalize verdict e.limit _ = judged
  cases judged <;> rfl

/-- The search for the program fails only with an error of the system. -/
theorem resolve_error {failure : Failure} (h : e.resolve host t = .error failure) :
    ∃ cause, failure = .system cause := by
  unfold resolve at h
  split at h
  · cases h
  · split at h
    · next cause _ =>
      cases h
      exact ⟨cause, rfl⟩
    · split at h
      · next cause _ =>
        cases h
        exact ⟨cause, rfl⟩
      · cases h

/-- A look-up of the program that is refused is a failure of the system, and no rejection. -/
theorem started_error {failure : Failure} (h : e.started host settings content w = .error failure) :
    ∃ cause, failure = .system cause := by
  unfold started commandLine at h
  cases hresolve : e.resolve host (unpack host.scratch settings content w.tree) with
  | ok found => simp [hresolve, Except.map] at h
  | error other =>
    obtain rfl : other = failure := by simpa [hresolve, Except.map] using h
    exact resolve_error hresolve

/-- The outcomes for which there is an answer or a rejection, with the files that were left. -/
inductive Benign (host : Host) : Outcome → Tree → Prop
  | notStarted {cause : SystemError} {t : Tree} (h : cause.isRefusal = true) :
    Benign host (.notStarted cause) t
  | overtime {t : Tree} : Benign host .overtime t
  | failed {status : Int} {output errors : Bytes} {t : Tree} (hstatus : status ≠ 0)
    (houtput : Text.WellFormed output) (herrors : Text.WellFormed errors) :
    Benign host (.ended status output errors) t
  | formatted {output errors bytes : Bytes} {t : Tree} (houtput : Text.WellFormed output)
    (herrors : Text.WellFormed errors)
    (hread : t.readBytes .none host.cwd (sourcePath host) = .ok bytes)
    (hbytes : Text.WellFormed bytes) : Benign host (.ended 0 output errors) t

/-- Once the program is found, it depends on the launch alone whether the engine is soft. -/
theorem isSoft_iff_of_started (h : e.started host settings content w = .ok words) :
    IsSoft (e.transform host settings content w).1 ↔
      Benign host (e.launched host settings content w words).1
        (e.launched host settings content w words).2 := by
  rw [transform_of_started h]
  obtain ⟨outcome, after⟩ := e.launched host settings content w words
  cases outcome with
  | notStarted cause =>
    cases hrefusal : cause.isRefusal with
    | true =>
      exact iff_of_true (by simp [verdict, hrefusal, isSoft_error_iff]) (.notStarted hrefusal)
    | false =>
      refine iff_of_false (by simp [verdict, hrefusal, isSoft_error_iff]) ?_
      rintro ⟨h⟩
      exact nomatch hrefusal.symm.trans h
  | badLimit flaw => exact iff_of_false (by simp [verdict, isSoft_error_iff]) (by rintro ⟨⟩)
  | overtime => exact iff_of_true (isSoft_error_iff.mpr ⟨_, rfl⟩) .overtime
  | ended status output errors =>
    by_cases hprinted : Text.WellFormed output ∧ Text.WellFormed errors
    · obtain ⟨said, hsaid⟩ := verdict_ended e.limit status hprinted.1 hprinted.2
      by_cases hstatus : status = 0
      · subst hstatus
        rw [hsaid, if_neg (by simp)]
        refine isSoft_readText_iff.trans ⟨?_, ?_⟩
        · rintro ⟨bytes, hread, hbytes⟩
          exact .formatted hprinted.1 hprinted.2 hread hbytes
        · rintro (_ | _ | ⟨hstatus, _, _⟩ | ⟨_, _, hread, hbytes⟩)
          · exact (hstatus rfl).elim
          · exact ⟨_, hread, hbytes⟩
      · rw [hsaid, if_pos hstatus]
        exact iff_of_true (isSoft_error_iff.mpr ⟨_, rfl⟩) (.failed hstatus hprinted.1 hprinted.2)
    · obtain ⟨flaw, hflaw⟩ := verdict_garbled e.limit status hprinted
      rw [hflaw]
      refine iff_of_false (by simp [isSoft_error_iff]) ?_
      rintro (_ | _ | ⟨_, houtput, herrors⟩ | ⟨houtput, herrors, _, _⟩)
      · exact hprinted ⟨houtput, herrors⟩
      · exact hprinted ⟨houtput, herrors⟩

/-- Only a program that ended with success, printed text and left text is answered with one. -/
theorem transform_ok_iff_of_started (h : e.started host settings content w = .ok words) :
    (e.transform host settings content w).1 = .ok text ↔ ∃ output errors,
      (e.launched host settings content w words).1 = .ended 0 output errors ∧
        Text.WellFormed output ∧ Text.WellFormed errors ∧
        (e.launched host settings content w words).2.readBytes .none host.cwd (sourcePath host) =
          .ok (Text.encode text) := by
  rw [transform_of_started h, ← Tree.readText_eq_ok_iff]
  cases hverdict : verdict e.limit (e.launched host settings content w words).1 with
  | ok judged =>
    obtain ⟨output, errors, hended, houtput, herrors⟩ := (verdict_ok_iff e.limit).mp hverdict
    refine ⟨fun htext => ⟨output, errors, hended, houtput, herrors, htext⟩, ?_⟩
    rintro ⟨_, _, -, -, -, htext⟩
    exact htext
  | error failure =>
    refine iff_of_false (by simp) ?_
    rintro ⟨output, errors, hended, houtput, herrors, -⟩
    have hok := (verdict_ok_iff e.limit).mpr ⟨output, errors, hended, houtput, herrors⟩
    exact nomatch hverdict.symm.trans hok

/-- A program that ends without success is rejected if it printed text. -/
theorem failed_iff_of_started (h : e.started host settings content w = .ok words)
    (hended : (e.launched host settings content w words).1 = .ended status output errors)
    (hstatus : status ≠ 0) :
    (∃ said, (e.transform host settings content w).1 = .error (.rejected (.failed .eclipse said))) ↔
      Text.WellFormed output ∧ Text.WellFormed errors := by
  rw [transform_of_started h, hended]
  by_cases hprinted : Text.WellFormed output ∧ Text.WellFormed errors
  · obtain ⟨said, hsaid⟩ := verdict_ended e.limit status hprinted.1 hprinted.2
    rw [hsaid, if_pos hstatus]
    exact iff_of_true ⟨_, rfl⟩ hprinted
  · obtain ⟨flaw, hflaw⟩ := verdict_garbled e.limit status hprinted
    rw [hflaw]
    exact iff_of_false (by simp) hprinted

theorem isSoft_iff (e : Eclipse) (host : Host) (settings : Settings) (content : String)
    (w : World) : IsSoft (e.transform host settings content w).1 ↔
      ∃ words, e.started host settings content w = .ok words ∧
        Benign host (e.launched host settings content w words).1
          (e.launched host settings content w words).2 := by
  cases hstarted : e.started host settings content w with
  | ok words => simp [isSoft_iff_of_started hstarted]
  | error failure =>
    obtain ⟨cause, rfl⟩ := started_error hstarted
    rw [transform_of_not_started hstarted]
    simp [isSoft_error_iff]

/-- Eclipse answers with a text or a rejection exactly if the look-up of the program is not refused
and what comes of its start is benign: it could not be started, or took too long, or it printed
nothing but text and, where it ended with success, left a text. It answers with a text just in the
last case. So a program that ends with another status is rejected exactly if it printed nothing but
text. What is not benign, and no more, is an error behind the gateway. -/
theorem transform_soft_iff (e : Eclipse) (host : Host) (settings : Settings) (content : String)
    (w : World) :
    let answer := (e.transform host settings content w).1
    let start := e.started host settings content w
    let outcome words := (e.launched host settings content w words).1
    let left words := (e.launched host settings content w words).2
    (IsSoft answer ↔ ∃ words, start = .ok words ∧ Benign host (outcome words) (left words)) ∧
      (∀ text, answer = .ok text ↔ ∃ words output errors, start = .ok words ∧
        outcome words = .ended 0 output errors ∧ Text.WellFormed output ∧ Text.WellFormed errors ∧
        (left words).readBytes .none host.cwd (sourcePath host) = .ok (Text.encode text)) ∧
      (∀ words status output errors, start = .ok words →
        outcome words = .ended status output errors → status ≠ 0 →
        ((∃ said, answer = .error (.rejected (.failed .eclipse said))) ↔
          Text.WellFormed output ∧ Text.WellFormed errors)) ∧
      ∀ sink?, (∃ result,
          ((⟨e.engine host, settings, sink?⟩ : Gateway).apply content w).1 = .ok result) ↔
        Text.isBlank content = true ∨
          ∃ words, start = .ok words ∧ Benign host (outcome words) (left words) := by
  refine ⟨e.isSoft_iff host settings content w, fun text => ?_, ?_, fun sink? => ?_⟩
  · cases hstarted : e.started host settings content w with
    | ok words => simp [transform_ok_iff_of_started hstarted]
    | error failure => simp [transform_of_not_started hstarted]
  · intro words status output errors hstarted hended hstatus
    exact failed_iff_of_started hstarted hended hstatus
  · -- Being asked is noted in the world, and changes neither the look-up nor the start.
    rw [Gateway.apply_ok_iff]
    exact or_congr_right (e.isSoft_iff host settings content _)

/-- A host on which every program comes to the same outcome and leaves the files alone. -/
def steadyHost (outcome : Outcome) : Host where
  cwd := []
  environment := []
  faults := .none
  marks := ["abcdefgh"]
  scratch := ["s"]
  launch := fun _ t => (outcome, t)
  echo := .silent

def programTree : Tree := ⟨[(["bin"], .dir 0o755), (["bin", "ecl"], .file [] 0o755)]⟩

theorem steadyHost_started (outcome : Outcome) : ∃ words,
    Eclipse.started ⟨"bin/ecl", .ofInt 120⟩ (steadyHost outcome) .empty "x"
      (.ofTree programTree) = .ok words := by
  have hgetBin : (unpack ["s"] .empty "x" programTree).get? ["bin"] = some (.dir 0o755) :=
    get?_unpack (by decide)
  have hgetEcl : (unpack ["s"] .empty "x" programTree).get? ["bin", "ecl"] =
      some (.file [] 0o755) := get?_unpack (by decide)
  have hbin : Tree.IsName "bin" := by decide
  have hecl : Tree.IsName "ecl" := by decide
  have hentry : (unpack ["s"] .empty "x" programTree).entryAt? [] true (.ofString "bin/ecl") =
      .ok (["bin", "ecl"], .file [] 0o755) := by
    refine Tree.entryAt?_eq_ok_iff.mpr ⟨by decide, by decide, ?_⟩
    exact (Tree.walk_through hbin hgetBin).trans (Tree.walk_halt hecl hgetEcl rfl)
  have hrunnable : (unpack ["s"] .empty "x" programTree).runnable [] "bin/ecl" = true := by
    have hleads := Tree.leadsToProgram_iff_of_file (Path.isPlain_ofString "bin/ecl") hentry
    exact Tree.runnable_iff.mpr (hleads.mpr (by decide))
  have hprogram : Lookup.program? (steadyHost outcome) (unpack ["s"] .empty "x" programTree)
      "bin/ecl" = some "bin/ecl" := by
    rw [Lookup.program?, if_pos (by decide)]
    exact if_pos hrunnable
  have hresolve : Eclipse.resolve ⟨"bin/ecl", .ofInt 120⟩ (steadyHost outcome)
      (unpack ["s"] .empty "x" programTree) = .ok (some "bin/ecl") := by
    simp only [resolve, hprogram]
  exact ⟨_, congrArg (Except.map _) hresolve⟩

/-- A program that fails in silence is rejected. -/
theorem transform_soft_iff_of_silence : ∃ said,
    (Eclipse.transform ⟨"bin/ecl", .ofInt 120⟩ (steadyHost (.ended 5 [] [])) .empty "x"
      (.ofTree programTree)).1 = .error (.rejected (.failed .eclipse said)) := by
  obtain ⟨words, hstarted⟩ := steadyHost_started (.ended 5 [] [])
  obtain ⟨-, -, hfailed, -⟩ := transform_soft_iff ⟨"bin/ecl", .ofInt 120⟩
    (steadyHost (.ended 5 [] [])) .empty "x" (.ofTree programTree)
  exact (hfailed words 5 [] [] hstarted rfl (by decide)).mpr ⟨.nil, .nil⟩

/-- A program that fails is not rejected if it prints a byte that is no text. -/
theorem transform_not_soft :
    (Eclipse.transform ⟨"bin/ecl", .ofInt 120⟩ (steadyHost (.ended 5 [] [0xFF])) .empty "x"
      (.ofTree programTree)).1 = .error (.notUtf8 ⟨0, 0xFF, 1, .start⟩) := by
  obtain ⟨words, hstarted⟩ := steadyHost_started (.ended 5 [] [0xFF])
  have hnothing : printed [] = .ok "" := by
    rw [printed, Text.decode, Text.decodeFrom]
    rfl
  have hnoise : printed [0xFF] = .error (.notUtf8 ⟨0, 0xFF, 1, .start⟩) := by
    rw [printed, Text.decode, Text.decodeFrom]
    rfl
  rw [transform_of_started hstarted]
  simp [launched, steadyHost, verdict, hnothing, hnoise, bind, Except.bind]

end Eclipse
end BatchFormat
