import BatchFormat.Proofs.Extension
import BatchFormat.Proofs.Text.Lower

/-!
# What an extension picks

A rule depends neither on the case of ASCII letters nor on whether its extension was normalised
before. A name that ends with the extension as it is written is picked, but for one spelling: the
extension and the name are lower-cased each on its own, and a capital sigma that is the last letter
of a word has another form where it is the first letter of an extension.
-/
namespace BatchFormat

open Text

variable {e e' n name name' : String}

/-! ## Normal extensions -/

/-- A blank extension is refused. Any other one is trimmed and lowered, and gets a point in front if
it has none. -/
theorem normalizeExtension_cases (e : String) :
    (isBlank e = true ∧ normalizeExtension e = .error .blankExtension) ∨
      isBlank e = false ∧
        normalizeExtension e =
          .ok (if (lower (trim e)).toList.head? = some '.' then lower (trim e)
            else "." ++ lower (trim e)) := by
  unfold normalizeExtension
  simp only
  cases hblank : isBlank e with
  | true =>
    rw [if_pos (lower_eq_empty_iff.mpr (trim_eq_empty_iff.mpr hblank))]
    exact Or.inl ⟨rfl, rfl⟩
  | false =>
    have hne : lower (trim e) ≠ "" := fun hempty => by
      rw [trim_eq_empty_iff.mp (lower_eq_empty_iff.mp hempty)] at hblank
      cases hblank
    rw [if_neg hne]
    refine Or.inr ⟨rfl, ?_⟩
    split <;> rfl

/-- A normal extension is in lower case, and begins with a dot. -/
theorem isLower_of_normalizeExtension (h : normalizeExtension e = .ok n) :
    n.toList.head? = some '.' ∧ (∀ c ∈ n.toList, IsLower c) ∧ IsTrimmed n.toList := by
  have hlower : ∀ c ∈ (lower (trim e)).toList, IsLower c := by
    rw [lower, String.toList_ofList]
    exact fun c => isLower_of_mem_lowerFrom
  have htrimmed : IsTrimmed (lower (trim e)).toList := by
    rw [lower, String.toList_ofList]
    exact (isTrimmed_trim e).lowerFrom
  have hdot : IsLower '.' := by
    unfold IsLower
    decide
  rcases normalizeExtension_cases e with ⟨-, herror⟩ | ⟨hblank, hok⟩
  · cases herror.symm.trans h
  · obtain rfl := Except.ok.inj (hok.symm.trans h)
    split
    · next hhead => exact ⟨hhead, hlower, htrimmed⟩
    · rw [String.toList_append, show ".".toList = ['.'] from rfl, List.singleton_append]
      refine ⟨rfl, List.forall_mem_cons.mpr ⟨hdot, hlower⟩, ?_, ?_⟩
      · rintro c ⟨⟩
        decide
      · have hne : (lower (trim e)).toList ≠ [] := by
          rw [ne_eq, String.toList_eq_nil_iff, lower_eq_empty_iff, trim_eq_empty_iff]
          simp [hblank]
        intro c hc
        rw [List.getLast?_cons_of_ne_nil hne] at hc
        exact htrimmed.2 c hc

theorem normalizeExtension_self (hdot : n.toList.head? = some '.')
    (hlower : ∀ c ∈ n.toList, IsLower c) (htrimmed : IsTrimmed n.toList) :
    normalizeExtension n = .ok n := by
  have hsame : lower (trim n) = n := by
    rw [trim_eq_self htrimmed, lower, lowerFrom_of_isLower hlower, String.ofList_toList]
  have hne : n ≠ "" := by
    rintro rfl
    cases hdot
  rw [normalizeExtension]
  simp only [hsame, hne, hdot, if_true, if_false]

/-! ## The rule of an extension -/

theorem normalizeExtension_of_caseAlike (h : CaseAlike e e') :
    normalizeExtension e = normalizeExtension e' := by
  rw [normalizeExtension, normalizeExtension, h.trim.lower]

theorem nameEndsWith_of_caseAlike (h : CaseAlike name name') (suffix : String) :
    nameEndsWith suffix name = nameEndsWith suffix name' := by
  rw [nameEndsWith, nameEndsWith, h.lower]

/-- Whether an extension is turned down, and which paths its rule picks, depends on the case of no
ASCII letter in the extension or in the name of the path. Just the blank extensions are turned down;
any other has a normal form, which begins with a dot, has no blanks around it and is its own normal
form, and the rule of an extension is that of its normal form. -/
theorem Eligibility.ofExtension_stable (e : String) :
    (∀ e' p q, CaseAlike e e' → CaseAlike p.name q.name →
      (ofExtension e).map (fun eligible => eligible p) =
        (ofExtension e').map fun eligible => eligible q) ∧
    (normalizeExtension e = .error .blankExtension ↔ ∀ c ∈ e.toList, isBlankChar c = true) ∧
    ((∃ n, normalizeExtension e = .ok n) ↔ ∃ c ∈ e.toList, isBlankChar c = false) ∧
    ∀ n, normalizeExtension e = .ok n →
      n.toList.head? = some '.' ∧ trim n = n ∧ normalizeExtension n = .ok n ∧
        ofExtension n = ofExtension e := by
  refine ⟨fun e' p q hextension hname => ?_, ?_, ?_, fun n hnormal => ?_⟩
  · rw [ofExtension, ofExtension, normalizeExtension_of_caseAlike hextension]
    cases normalizeExtension e' with
    | error e => rfl
    | ok suffix => exact congrArg Except.ok (nameEndsWith_of_caseAlike hname suffix)
  · rw [← List.all_eq_true, ← isBlank]
    rcases normalizeExtension_cases e with ⟨hblank, herror⟩ | ⟨hblank, hok⟩
    · exact iff_of_true herror hblank
    · exact iff_of_false (by simp [hok]) (by simp [hblank])
  · rw [normalizeExtension_ok_iff, isBlank, List.all_eq_false]
    simp only [Bool.not_eq_true]
  · obtain ⟨hdot, hlower, htrimmed⟩ := isLower_of_normalizeExtension hnormal
    have hself := normalizeExtension_self hdot hlower htrimmed
    exact ⟨hdot, trim_eq_self htrimmed, hself, by rw [ofExtension, ofExtension, hself, hnormal]⟩

/-- Two spellings of an extension with white space and a sigma, and two of a name. -/
theorem Eligibility.ofExtension_stable_of_sigma :
    (ofExtension "\u2003.JΣ ").map (fun eligible => eligible ⟨.relative, ["d", "aΣ.jΣ"]⟩) =
        (ofExtension "\u2003.jΣ ").map (fun eligible => eligible ⟨.top, ["AΣ.JΣ"]⟩) ∧
      ∃ n, normalizeExtension "\u2003.JΣ " = .ok n ∧ normalizeExtension n = .ok n := by
  obtain ⟨hcase, -, hsome, hnormal⟩ := ofExtension_stable "\u2003.JΣ "
  obtain ⟨n, hn⟩ := hsome.mpr ⟨'J', by decide, by decide⟩
  refine ⟨hcase _ _ _ ?_ ?_, n, hn, (hnormal n hn).2.2.1⟩
  · unfold CaseAlike
    decide +kernel
  · unfold CaseAlike
    decide +kernel

/-! ## Names that end with an extension -/

/-- Of two ends of a list that are of one length, one is an end of the other if they are the same. -/
theorem isSuffix_append_iff {cs ds front : List Char} (h : cs.length = ds.length) :
    cs <:+ front ++ ds ↔ ds = cs := by
  constructor
  · intro hsuffix
    have hends := List.suffix_of_suffix_length_le hsuffix (List.suffix_append front ds) h.le
    exact (hends.eq_of_length h).symm
  · rintro rfl
    exact List.suffix_append front ds

/-- What begins with a dot is its own normal form but for its case. -/
theorem normalizeExtension_of_dot (hdot : (trim e).toList.head? = some '.') :
    normalizeExtension e = .ok (lower (trim e)) := by
  have hform : (lower (trim e)).toList.head? = some '.' := by
    obtain ⟨rest, hrest⟩ := List.head?_eq_some_iff.mp hdot
    have hself : lowerAt [] '.' rest = ['.'] := by
      rw [lowerAt, if_neg (by decide)]
      decide
    rw [lower, String.toList_ofList, hrest, lowerFrom_cons, hself]
    rfl
  have hne : lower (trim e) ≠ "" := by
    intro hempty
    rw [hempty] at hform
    cases hform
  rw [normalizeExtension]
  simp only [hne, hform, if_true, if_false]

/-- A name that ends, character for character, with an extension that begins with a dot is picked by
its rule, unless the first character of the extension that is not passed over is a capital sigma,
no letter follows that one, and a letter comes before it in the name. -/
theorem Eligibility.picks_ending_iff (e : String) (p : Path) (front : List Char)
    (hdot : (trim e).toList.head? = some '.') (hname : p.name.toList = front ++ (trim e).toList) :
    ∃ eligible, ofExtension e = .ok eligible ∧
      (eligible p = true ↔
        ¬(opensWithSigma (trim e).toList = true ∧ meetsCased front.reverse = true)) := by
  refine ⟨.ofSuffix (lower (trim e)), by rw [ofExtension, normalizeExtension_of_dot hdot]; rfl, ?_⟩
  obtain ⟨lowered, hlowered⟩ := lowerFrom_append [] front (trim e).toList
  rw [List.append_nil] at hlowered
  rw [ofSuffix, nameEndsWith, List.isSuffixOf_iff_suffix, lower, lower, String.toList_ofList,
    String.toList_ofList, hname, hlowered, isSuffix_append_iff (length_lowerFrom _ _ _)]
  cases hletter : meetsCased front.reverse with
  | true =>
    have hsigma : lowerFrom ([] ++ front.reverse) (trim e).toList = lowerFrom [] (trim e).toList ↔
        opensWithSigma (trim e).toList = false := lowerFrom_append_eq_iff rfl hletter
    rw [List.nil_append] at hsigma
    rw [hsigma]
    simp
  | false =>
    have hsame : lowerFrom ([] ++ front.reverse) (trim e).toList = lowerFrom [] (trim e).toList :=
      lowerFrom_append_left (Or.inr hletter)
    exact iff_of_true hsame (by simp)

/-- A sigma behind a letter of the extension itself has one form in both. -/
theorem Eligibility.picks_ending_of_word :
    ∃ eligible, ofExtension " .aΣ\t" = .ok eligible ∧
      eligible ⟨.relative, ["d", "İ.aΣ"]⟩ = true := by
  have htrim : trim " .aΣ\t" = ".aΣ" := by decide +kernel
  obtain ⟨eligible, hok, hpicks⟩ := picks_ending_iff " .aΣ\t" ⟨.relative, ["d", "İ.aΣ"]⟩ ['İ']
    (by rw [htrim]; decide) (by rw [htrim]; decide)
  refine ⟨eligible, hok, hpicks.mpr ?_⟩
  rw [htrim]
  decide +kernel

/-- The name `a.Σ` ends with the extension `.Σ`, but is not picked. -/
theorem Eligibility.not_picks_ending :
    (trim ".Σ").toList.head? = some '.' ∧ (Path.ofString "a.Σ").name = "a" ++ trim ".Σ" ∧
      ∃ eligible, ofExtension ".Σ" = .ok eligible ∧ eligible (.ofString "a.Σ") = false := by
  refine ⟨by decide +kernel, by decide +kernel, .ofSuffix ".σ", ?_, by decide +kernel⟩
  rw [ofExtension, show normalizeExtension ".Σ" = .ok ".σ" by decide +kernel]
  rfl

end BatchFormat
