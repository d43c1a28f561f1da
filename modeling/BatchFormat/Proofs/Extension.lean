import Mathlib.Data.List.TakeWhile
import BatchFormat.Extension

/-!
# Extensions that can be used

An extension gives a rule for files unless there is nothing but white space in it.
-/
namespace BatchFormat

variable {s : String} {cs : List Char}

namespace Text

theorem dropRightWhile_eq_nil_iff {p : Char → Bool} :
    dropRightWhile p cs = [] ↔ ∀ c ∈ cs, p c = true := by
  simp [dropRightWhile, List.dropWhile_eq_nil_iff]

/-- Taking the blanks away leaves nothing where there are only blanks. -/
theorem trim_eq_empty_iff : trim s = "" ↔ isBlank s = true := by
  have hmiddle : (∀ c ∈ s.toList.dropWhile isBlankChar, isBlankChar c = true) ↔
      ∀ c ∈ s.toList, isBlankChar c = true := by
    refine ⟨fun h c hc => ?_, fun h c hc => h c ((List.dropWhile_sublist _).subset hc)⟩
    rw [← List.takeWhile_append_dropWhile (p := isBlankChar) (l := s.toList), List.mem_append] at hc
    rcases hc with hfirst | hrest
    · exact List.mem_takeWhile_imp hfirst
    · exact h c hrest
  rw [trim, String.ofList_eq_empty_iff, dropRightWhile_eq_nil_iff, hmiddle, isBlank,
    List.all_eq_true]

theorem lowerChar_ne_nil (c : Char) : lowerChar c ≠ [] := by
  unfold lowerChar
  split <;> simp

/-- Lower-casing takes no character away. -/
theorem lower_eq_empty_iff : lower s = "" ↔ s = "" := by
  rw [lower, String.ofList_eq_empty_iff, ← String.toList_eq_nil_iff]
  cases s.toList with
  | nil => simp [lowerFrom]
  | cons c rest =>
    rw [lowerFrom]
    split
    · simp
    · simp [lowerChar_ne_nil]

end Text

theorem normalizeExtension_ok_iff :
    (∃ suffix, normalizeExtension s = .ok suffix) ↔ Text.isBlank s = false := by
  rw [← Bool.not_eq_true, ← Text.trim_eq_empty_iff, ← Text.lower_eq_empty_iff]
  unfold normalizeExtension
  simp only
  split
  · next hempty => simp [hempty]
  · next hsome =>
    refine iff_of_true ?_ hsome
    split
    · exact ⟨_, rfl⟩
    · exact ⟨_, rfl⟩

theorem Eligibility.ofExtension_ok_iff :
    (∃ eligible, ofExtension s = .ok eligible) ↔ Text.isBlank s = false := by
  rw [← normalizeExtension_ok_iff]
  unfold ofExtension
  cases normalizeExtension s <;> simp [Except.map]

end BatchFormat
