import Mathlib.Data.List.DropRight
import BatchFormat.Proofs.Text.WellFormed
import BatchFormat.Text.Blank
import BatchFormat.Text.Lower

/-!
# What lower-casing keeps

Lower-casing twice is lower-casing once, since no partner in the table has a partner of its own and
no form of a character is a sigma that would look around again. Whether a letter of ASCII is a
capital makes no difference to the result, neither to its own form nor to that of a sigma near it.
Blanks are not made of anything else.
-/
namespace BatchFormat.Text

variable {c d : Char} {before after cs front back : List Char} {runs : List CaseRun} {n : Nat}
  {r : CaseRun} {s t : String}

/-! ## The table -/

namespace CaseRun

/-- A run has a partner for a number. -/
def Takes (r : CaseRun) (n : Nat) : Prop :=
  r.first ≤ n ∧ n ≤ r.last ∧ (n - r.first) % r.stride = 0

def highest (r : CaseRun) : Nat := r.partner + (r.last - r.first)

/-- The partners of `r` lie between the numbers that `s` takes, of which it takes every second. -/
def alternates (r s : CaseRun) : Bool :=
  s.stride == 2 && (r.stride == 2 || r.first == r.last) && (r.partner + s.first) % 2 == 1

/-- No run of a table takes a partner of `r`. Like any search in the table this one stops at the
first run that begins above. -/
def isSettled (r : CaseRun) : List CaseRun → Bool
  | [] => true
  | s :: rest =>
    r.highest < s.first || (s.last < r.partner || r.alternates s) && r.isSettled rest

/-- No partner in a run lies in a range. -/
def avoids (r : CaseRun) (range : Nat × Nat) : Bool :=
  r.highest < range.1 || range.2 < r.partner

/-- The partners in a run are characters: neither surrogates nor numbers beyond the last one. They
are no blanks, and none of them is the dotted capital I, which has a form outside of the table. -/
def isPlain (r : CaseRun) : Bool :=
  r.highest < 0x110000 && ((0x130, 0x130) :: (0xd800, 0xdfff) :: blankRanges).all r.avoids

theorem Takes.bounds (h : r.Takes n) :
    r.partner ≤ r.partner + (n - r.first) ∧ r.partner + (n - r.first) ≤ r.highest := by
  obtain ⟨-, hlast, -⟩ := h
  unfold highest
  omega

theorem not_contains_of_avoids {ranges : Ranges} (h : ranges.all r.avoids = true)
    (hlow : r.partner ≤ n) (hhigh : n ≤ r.highest) : ranges.contains n = false := by
  induction ranges with
  | nil => rfl
  | cons range ranges ih =>
    obtain ⟨low, high⟩ := range
    simp only [List.all_cons, Bool.and_eq_true, avoids, Bool.or_eq_true, decide_eq_true_iff] at h
    obtain ⟨hrange, hrest⟩ := h
    have hcontains := ih hrest
    simp only [Ranges.contains, hcontains, Bool.or_false]
    rcases hrange with habove | hbelow
    · simp [show ¬low ≤ n by omega]
    · simp [show ¬n ≤ high by omega]

end CaseRun

/-- A number is its own partner, or a run gives it one. -/
theorem partnerCode_cases (runs : List CaseRun) (n : Nat) :
    partnerCode runs n = n ∨
      ∃ r ∈ runs, r.Takes n ∧ partnerCode runs n = r.partner + (n - r.first) := by
  induction runs with
  | nil => exact Or.inl rfl
  | cons s rest ih =>
    unfold partnerCode
    split
    · exact Or.inl rfl
    · split
      · next hfirst htakes =>
        exact Or.inr ⟨s, List.mem_cons_self, ⟨by omega, htakes⟩, rfl⟩
      · rcases ih with hself | ⟨r, hr, htakes, hpartner⟩
        · exact Or.inl hself
        · exact Or.inr ⟨r, List.mem_cons_of_mem _ hr, htakes, hpartner⟩

/-- A partner that no run takes is its own partner. -/
theorem partnerCode_of_isSettled (h : r.isSettled runs = true) (htakes : r.Takes n) :
    partnerCode runs (r.partner + (n - r.first)) = r.partner + (n - r.first) := by
  obtain ⟨hlow, hhigh⟩ := htakes.bounds
  induction runs with
  | nil => rfl
  | cons s rest ih =>
    simp only [CaseRun.isSettled, Bool.or_eq_true, Bool.and_eq_true, decide_eq_true_iff] at h
    unfold partnerCode
    rcases h with habove | ⟨hclear, hrest⟩
    · rw [if_pos (by omega)]
    · have hnot : ¬(r.partner + (n - r.first) ≤ s.last ∧
          (r.partner + (n - r.first) - s.first) % s.stride = 0) ∨
          r.partner + (n - r.first) < s.first := by
        rcases hclear with hbelow | hbetween
        · exact Or.inl fun htaken => by omega
        · simp only [CaseRun.alternates, Bool.and_eq_true, Bool.or_eq_true, beq_iff_eq] at hbetween
          obtain ⟨⟨hsecond, hstep⟩, hodd⟩ := hbetween
          obtain ⟨hfirst, hlast, hmultiple⟩ := htakes
          have heven : (n - r.first) % 2 = 0 := by
            rcases hstep with hstride | hsingle
            · rwa [hstride] at hmultiple
            · omega
          rw [hsecond]
          omega
      split
      · rfl
      · next hbegun =>
        rw [if_neg (hnot.resolve_right hbegun)]
        exact ih hrest

/-- The partners in the table have no partners of their own. -/
theorem lowerRuns_settled : (lowerRuns.all fun r => r.isSettled lowerRuns && r.isPlain) = true := by
  decide +kernel

/-- The forms of a character: itself, the two characters of the dotted capital I, or a partner. -/
theorem lowerChar_cases (c : Char) :
    (c ≠ 'İ' ∧ lowerChar c = [c] ∧ partnerCode lowerRuns c.toNat = c.toNat) ∨
      lowerChar c = ['i', '\u0307'] ∨
        ∃ r ∈ lowerRuns, ∃ d, lowerChar c = [d] ∧ r.isPlain = true ∧ r.partner ≤ d.toNat ∧
          d.toNat ≤ r.highest ∧ partnerCode lowerRuns d.toNat = d.toNat := by
  unfold lowerChar
  split
  · exact Or.inr (Or.inl rfl)
  · next hdotted =>
    rcases partnerCode_cases lowerRuns c.toNat with hself | ⟨r, hr, htakes, hpartner⟩
    · exact Or.inl ⟨hdotted, by rw [hself, Char.ofNat_toNat], hself⟩
    · have hrun := List.all_eq_true.mp lowerRuns_settled r hr
      rw [Bool.and_eq_true] at hrun
      obtain ⟨hsettled, hplain⟩ := hrun
      obtain ⟨hlow, hhigh⟩ := htakes.bounds
      have hvalid : (r.partner + (c.toNat - r.first)).isValidChar := by
        simp only [CaseRun.isPlain, List.all_cons, Bool.and_eq_true, decide_eq_true_iff,
          CaseRun.avoids, Bool.or_eq_true] at hplain
        obtain ⟨hlimit, -, hsurrogates, -⟩ := hplain
        unfold Nat.isValidChar
        omega
      have hnumber : (Char.ofNat (r.partner + (c.toNat - r.first))).toNat =
          r.partner + (c.toNat - r.first) := toNat_ofNat_valid hvalid
      refine Or.inr (Or.inr ⟨r, hr, _, by rw [hpartner], hplain, ?_⟩)
      rw [hnumber]
      exact ⟨hlow, hhigh, partnerCode_of_isSettled hsettled htakes⟩

/-! ## Lower-casing what is in lower case -/

/-- A character that lower-casing leaves as it is wherever it stands. -/
def IsLower (c : Char) : Prop := c ≠ 'Σ' ∧ lowerChar c = [c]

/-- What a character is lowered to is lowered already. -/
theorem isLower_of_mem_lowerChar (h : d ∈ lowerChar c) : IsLower d := by
  have hcode : partnerCode lowerRuns 'Σ'.toNat ≠ 'Σ'.toNat := by decide
  have hfixed : ∀ d : Char, d ≠ 'İ' → partnerCode lowerRuns d.toNat = d.toNat → IsLower d := by
    intro d hdotted hself
    refine ⟨?_, ?_⟩
    · rintro rfl
      exact hcode hself
    · rw [lowerChar, if_neg hdotted, hself, Char.ofNat_toNat]
  rcases lowerChar_cases c with ⟨hdotted, hform, hself⟩ | hform | ⟨r, -, x, hform, hplain, hin⟩
  · rw [hform, List.mem_singleton] at h
    exact h ▸ hfixed c hdotted hself
  · rw [hform] at h
    have htwo : IsLower 'i' ∧ IsLower '\u0307' := by
      unfold IsLower
      decide
    rcases List.mem_pair.mp h with rfl | rfl
    · exact htwo.1
    · exact htwo.2
  · rw [hform, List.mem_singleton] at h
    subst h
    obtain ⟨hlow, hhigh, hself⟩ := hin
    refine hfixed d ?_ hself
    rintro rfl
    simp only [CaseRun.isPlain, List.all_cons, Bool.and_eq_true, decide_eq_true_iff,
      CaseRun.avoids, Bool.or_eq_true] at hplain
    have hnumber : 'İ'.toNat = 0x130 := rfl
    omega

/-- Blanks are not made of anything else. -/
theorem isBlankChar_of_mem_lowerChar (h : d ∈ lowerChar c) (hc : isBlankChar c = false) :
    isBlankChar d = false := by
  rcases lowerChar_cases c with ⟨-, hform, -⟩ | hform | ⟨r, -, x, hform, hplain, hlow, hhigh, -⟩
  · rw [hform, List.mem_singleton] at h
    exact h ▸ hc
  · rw [hform] at h
    rcases List.mem_pair.mp h with rfl | rfl <;> decide
  · rw [hform, List.mem_singleton] at h
    subst h
    simp only [CaseRun.isPlain, List.all_cons, Bool.and_eq_true] at hplain
    exact CaseRun.not_contains_of_avoids hplain.2.2.2 hlow hhigh

/-- The form of a character between what stands before it, nearest first, and after it. -/
def lowerAt (before : List Char) (c : Char) (after : List Char) : List Char :=
  if c = 'Σ' then [lowerSigma before after] else lowerChar c

theorem lowerFrom_cons (before : List Char) (c : Char) (after : List Char) :
    lowerFrom before (c :: after) = lowerAt before c after ++ lowerFrom (c :: before) after := rfl

theorem lowerSigma_cases (before after : List Char) :
    lowerSigma before after = 'ς' ∨ lowerSigma before after = 'σ' := by
  unfold lowerSigma
  split
  · exact Or.inl rfl
  · exact Or.inr rfl

theorem isLower_of_mem_lowerAt (h : d ∈ lowerAt before c after) : IsLower d := by
  unfold lowerAt at h
  split at h
  · have hsigmas : IsLower 'ς' ∧ IsLower 'σ' := by
      unfold IsLower
      decide
    rw [List.mem_singleton] at h
    rcases lowerSigma_cases before after with hfinal | hinner
    · exact h ▸ hfinal ▸ hsigmas.1
    · exact h ▸ hinner ▸ hsigmas.2
  · exact isLower_of_mem_lowerChar h

theorem isBlankChar_of_mem_lowerAt (h : d ∈ lowerAt before c after)
    (hc : isBlankChar c = false) : isBlankChar d = false := by
  unfold lowerAt at h
  split at h
  · rw [List.mem_singleton] at h
    rcases lowerSigma_cases before after with hfinal | hinner
    · rw [h, hfinal]
      decide
    · rw [h, hinner]
      decide
  · exact isBlankChar_of_mem_lowerChar h hc

theorem lowerAt_ne_nil : lowerAt before c after ≠ [] := by
  unfold lowerAt lowerChar
  split
  · simp
  · split <;> simp

theorem isLower_of_mem_lowerFrom (h : d ∈ lowerFrom before cs) : IsLower d := by
  induction cs generalizing before with
  | nil => cases h
  | cons c after ih =>
    rw [lowerFrom_cons, List.mem_append] at h
    rcases h with hform | hrest
    · exact isLower_of_mem_lowerAt hform
    · exact ih hrest

theorem lowerFrom_of_isLower (h : ∀ c ∈ cs, IsLower c) : lowerFrom before cs = cs := by
  induction cs generalizing before with
  | nil => rfl
  | cons c after ih =>
    obtain ⟨hsigma, hform⟩ := h c List.mem_cons_self
    rw [lowerFrom_cons, lowerAt, if_neg hsigma, hform,
      ih fun d hd => h d (List.mem_cons_of_mem c hd), List.singleton_append]

/-! ## Blanks at the ends -/

def IsTrimmed (cs : List Char) : Prop :=
  (∀ c ∈ cs.head?, isBlankChar c = false) ∧ ∀ c ∈ cs.getLast?, isBlankChar c = false

/-- A text without blanks around it is its own trimmed text. -/
theorem trim_eq_self (h : IsTrimmed s.toList) : trim s = s := by
  obtain ⟨hhead, hlast⟩ := h
  have hfront : s.toList.dropWhile isBlankChar = s.toList := by
    cases hs : s.toList with
    | nil => rfl
    | cons c rest =>
      have hc := hhead c (by rw [hs]; rfl)
      rw [List.dropWhile_cons, hc, if_neg (by simp)]
  have hback : s.toList.rdropWhile isBlankChar = s.toList :=
    List.rdropWhile_eq_self_iff.mpr fun hne =>
      Bool.eq_false_iff.mp (hlast _ (List.getLast?_eq_some_getLast hne))
  rw [trim, hfront, show dropRightWhile isBlankChar s.toList = s.toList from hback,
    String.ofList_toList]

/-- A trimmed text has no blanks around it. -/
theorem isTrimmed_trim (s : String) : IsTrimmed (trim s).toList := by
  rw [trim, String.toList_ofList]
  generalize hmiddle : s.toList.dropWhile isBlankChar = middle
  change IsTrimmed (middle.rdropWhile isBlankChar)
  refine ⟨fun c hc => ?_, fun c hc => ?_⟩
  · obtain ⟨back, hback⟩ := List.rdropWhile_prefix isBlankChar middle
    have hfirst : middle.head? = some c := by
      rw [← hback, List.head?_append, Option.mem_def.mp hc, Option.some_or]
    have hnot := List.head?_dropWhile_not isBlankChar s.toList
    rw [hmiddle, hfirst] at hnot
    exact hnot
  · obtain ⟨hne, rfl⟩ := List.mem_getLast?_eq_getLast hc
    exact Bool.eq_false_iff.mpr (List.rdropWhile_last_not isBlankChar middle hne)

/-- The last character of a lowered text comes from the last character of the text. -/
theorem getLast?_lowerFrom (h : d ∈ (lowerFrom before cs).getLast?) :
    ∃ c ∈ cs.getLast?, ∃ before after, d ∈ lowerAt before c after := by
  induction cs generalizing before with
  | nil => cases h
  | cons c after ih =>
    rw [lowerFrom_cons] at h
    cases after with
    | nil =>
      rw [lowerFrom, List.append_nil] at h
      exact ⟨c, rfl, _, _, List.mem_of_getLast? h⟩
    | cons x rest =>
      have hne : lowerFrom (c :: before) (x :: rest) ≠ [] := by
        rw [lowerFrom_cons]
        exact List.append_ne_nil_of_left_ne_nil lowerAt_ne_nil _
      rw [List.getLast?_append_of_ne_nil _ hne] at h
      obtain ⟨last, hlast, hform⟩ := ih h
      exact ⟨last, by rwa [List.getLast?_cons_cons], hform⟩

theorem head?_lowerFrom (h : d ∈ (lowerFrom before cs).head?) :
    ∃ c ∈ cs.head?, ∃ before after, d ∈ lowerAt before c after := by
  cases cs with
  | nil => cases h
  | cons c after =>
    rw [lowerFrom_cons, List.head?_append_of_ne_nil _ lowerAt_ne_nil] at h
    exact ⟨c, rfl, _, _, List.mem_of_mem_head? h⟩

theorem IsTrimmed.lowerFrom (h : IsTrimmed cs) : IsTrimmed (lowerFrom before cs) := by
  refine ⟨fun d hd => ?_, fun d hd => ?_⟩
  · obtain ⟨c, hc, _, _, hform⟩ := head?_lowerFrom hd
    exact isBlankChar_of_mem_lowerAt hform (h.1 c hc)
  · obtain ⟨c, hc, _, _, hform⟩ := getLast?_lowerFrom hd
    exact isBlankChar_of_mem_lowerAt hform (h.2 c hc)

/-! ## The case of ASCII letters -/

def CaseAlike (s t : String) : Prop := s.toList.map Char.toLower = t.toList.map Char.toLower

/-- What is the same for the capitals of ASCII and their partners depends on no such capital. -/
theorem apply_toLower {α : Type} (f : Char → α)
    (h : ∀ n < 26, f (Char.ofNat (65 + n)).toLower = f (Char.ofNat (65 + n))) (c : Char) :
    f c.toLower = f c := by
  by_cases hcapital : 65 ≤ c.toNat ∧ c.toNat ≤ 90
  · have hc := h (c.toNat - 65) (by omega)
    rwa [show 65 + (c.toNat - 65) = c.toNat by omega, Char.ofNat_toNat] at hc
  · rw [show c.toLower = c from dif_neg hcapital]

theorem isBlankChar_toLower (c : Char) : isBlankChar c.toLower = isBlankChar c :=
  apply_toLower isBlankChar (by decide) c

theorem isIgnorable_toLower (c : Char) : isIgnorable c.toLower = isIgnorable c :=
  apply_toLower isIgnorable (by decide) c

theorem isCased_toLower (c : Char) : isCased c.toLower = isCased c :=
  apply_toLower isCased (by decide) c

theorem lowerChar_toLower (c : Char) : lowerChar c.toLower = lowerChar c :=
  apply_toLower lowerChar (by decide) c

theorem toLower_eq_sigma (c : Char) : c.toLower = 'Σ' ↔ c = 'Σ' := by
  have hsame := apply_toLower (fun c => decide (c = 'Σ')) (by decide) c
  simpa using hsame

/-- Whether a cased letter comes first does not depend on its case. -/
theorem meetsCased_map_toLower (cs : List Char) :
    meetsCased (cs.map Char.toLower) = meetsCased cs := by
  have hfind : (cs.map Char.toLower).find? (fun c => !isIgnorable c) =
      (cs.find? fun c => !isIgnorable c).map Char.toLower := by
    rw [List.find?_map]
    congr 2
    funext c
    simp only [Function.comp, isIgnorable_toLower]
  unfold meetsCased
  rw [hfind]
  cases cs.find? fun c => !isIgnorable c with
  | none => rfl
  | some c => exact isCased_toLower c

theorem lowerAt_toLower (before : List Char) (c : Char) (after : List Char) :
    lowerAt (before.map Char.toLower) c.toLower (after.map Char.toLower) =
      lowerAt before c after := by
  simp only [lowerAt, lowerSigma, toLower_eq_sigma, meetsCased_map_toLower, lowerChar_toLower]

theorem lowerFrom_map_toLower (before cs : List Char) :
    lowerFrom (before.map Char.toLower) (cs.map Char.toLower) = lowerFrom before cs := by
  induction cs generalizing before with
  | nil => rfl
  | cons c after ih =>
    rw [List.map_cons, lowerFrom_cons, lowerFrom_cons, lowerAt_toLower, ← List.map_cons, ih]

theorem CaseAlike.lower (h : CaseAlike s t) : lower s = lower t := by
  have hsame := congrArg (lowerFrom []) h
  rw [← List.map_nil (f := Char.toLower), lowerFrom_map_toLower, lowerFrom_map_toLower] at hsame
  rw [Text.lower, Text.lower, hsame]

theorem dropWhile_map_toLower (cs : List Char) :
    (cs.map Char.toLower).dropWhile isBlankChar =
      (cs.dropWhile isBlankChar).map Char.toLower := by
  rw [List.dropWhile_map]
  congr 2
  exact funext isBlankChar_toLower

theorem CaseAlike.trim (h : CaseAlike s t) : CaseAlike (trim s) (trim t) := by
  have hmap : ∀ s : String, (Text.trim s).toList.map Char.toLower =
      dropRightWhile isBlankChar ((s.toList.map Char.toLower).dropWhile isBlankChar) := by
    intro s
    rw [Text.trim, String.toList_ofList, dropRightWhile, dropRightWhile, dropWhile_map_toLower,
      ← List.map_reverse, dropWhile_map_toLower, List.map_reverse]
  rw [CaseAlike, hmap, hmap, h]

/-! ## Neighbours of a sigma -/

/-- What is passed over does not keep a letter from the one before it. -/
theorem meetsCased_append (front back : List Char) :
    meetsCased (front ++ back) =
      if front.all isIgnorable then meetsCased back else meetsCased front := by
  induction front with
  | nil => rfl
  | cons c front ih =>
    cases hc : isIgnorable c with
    | true => simpa [meetsCased, hc] using ih
    | false => simp [meetsCased, hc]

theorem meetsCased_append_left (h : front.all isIgnorable = false ∨ meetsCased back = false) :
    meetsCased (front ++ back) = meetsCased front := by
  rw [meetsCased_append]
  split
  · next hall =>
    have hfront := meetsCased_append front []
    rw [List.append_nil, if_pos hall] at hfront
    rw [h.resolve_left (by simp [hall]), hfront]
    rfl
  · rfl

/-- What stands before a text counts for none of its characters behind one that separates words. -/
theorem lowerFrom_append_left (h : front.all isIgnorable = false ∨ meetsCased back = false) :
    lowerFrom (front ++ back) cs = lowerFrom front cs := by
  induction cs generalizing front with
  | nil => rfl
  | cons c after ih =>
    have hnext : (c :: front).all isIgnorable = false ∨ meetsCased back = false :=
      h.imp_left fun hsome => by simp [hsome]
    have hrest : lowerFrom (c :: (front ++ back)) after = lowerFrom (c :: front) after := ih hnext
    rw [lowerFrom_cons, lowerFrom_cons, hrest]
    simp only [lowerAt, lowerSigma, meetsCased_append_left h]

/-- The first character that is not passed over is a capital sigma with no letter behind it: one
that becomes the final form only if there is a letter before the text. -/
def opensWithSigma : List Char → Bool
  | [] => false
  | c :: rest => if c = 'Σ' then !meetsCased rest else isIgnorable c && opensWithSigma rest

/-- The letters before a text change its lower case in that one sigma only. -/
theorem lowerFrom_append_eq_iff (hfront : front.all isIgnorable = true)
    (hback : meetsCased back = true) :
    lowerFrom (front ++ back) cs = lowerFrom front cs ↔ opensWithSigma cs = false := by
  induction cs generalizing front with
  | nil => exact iff_of_true rfl rfl
  | cons c after ih =>
    by_cases hsigma : c = 'Σ'
    · subst hsigma
      have hletter : isIgnorable 'Σ' = false := by decide
      have hrest : lowerFrom (('Σ' :: front) ++ back) after = lowerFrom ('Σ' :: front) after :=
        lowerFrom_append_left (Or.inl (by rw [List.all_cons, hletter, Bool.false_and]))
      have hbefore := meetsCased_append front back
      have hnone := meetsCased_append front []
      rw [hfront, if_pos rfl] at hbefore hnone
      rw [List.append_nil] at hnone
      rw [lowerFrom_cons, lowerFrom_cons, ← List.cons_append, hrest, List.append_left_inj, lowerAt,
        lowerAt, if_pos rfl, if_pos rfl, lowerSigma, lowerSigma, hbefore, hback, hnone,
        opensWithSigma, if_pos rfl]
      cases meetsCased after <;> decide
    · rw [lowerFrom_cons, lowerFrom_cons, ← List.cons_append, lowerAt, lowerAt, if_neg hsigma,
        if_neg hsigma, List.append_right_inj, opensWithSigma, if_neg hsigma]
      cases hignored : isIgnorable c with
      | true => exact ih (by rw [List.all_cons, hignored, hfront, Bool.and_self])
      | false =>
        refine iff_of_true (lowerFrom_append_left (Or.inl ?_)) rfl
        rw [List.all_cons, hignored, Bool.false_and]

theorem length_lowerAt (before after before' after' : List Char) (c : Char) :
    (lowerAt before c after).length = (lowerAt before' c after').length := by
  unfold lowerAt
  split <;> rfl

/-- How many characters a text has in lower case does not depend on what stands before it. -/
theorem length_lowerFrom (before before' cs : List Char) :
    (lowerFrom before cs).length = (lowerFrom before' cs).length := by
  induction cs generalizing before before' with
  | nil => rfl
  | cons c after ih =>
    rw [lowerFrom_cons, lowerFrom_cons, List.length_append, List.length_append,
      length_lowerAt before after before' after, ih]

theorem lowerFrom_append (before front back : List Char) :
    ∃ lowered, lowerFrom before (front ++ back) =
      lowered ++ lowerFrom (front.reverse ++ before) back := by
  induction front generalizing before with
  | nil => exact ⟨[], rfl⟩
  | cons c front ih =>
    obtain ⟨lowered, hlowered⟩ := ih (c :: before)
    refine ⟨lowerAt before c (front ++ back) ++ lowered, ?_⟩
    rw [List.cons_append, lowerFrom_cons, hlowered, List.append_assoc, List.reverse_cons,
      List.append_assoc, List.singleton_append]

end BatchFormat.Text
