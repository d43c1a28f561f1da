import Mathlib.Algebra.Group.Nat.Defs
import BatchFormat.Proofs.Shell.Launch

/-!
# Limits that can be waited for

A program is started before its limit is looked at. A limit that the clock cannot measure then ends
the call with a flaw of its own; under any other limit a program that was started runs over it or
ends.
-/
namespace BatchFormat

variable {num den : Nat} {limit : Binary}

namespace Binary

theorem den_ratio_pos (mantissa : Nat) (exponent : Int) : 0 < (ratio mantissa exponent).2 :=
  Nat.two_pow_pos _

/-- A quotient with few bits before the point is scaled by no positive power of two. -/
theorem scaleOf_double_le {k : Nat} (hk : k < 53) (hnum : num ≠ 0)
    (hle : num ≤ 2 ^ k * den) : double.scaleOf num den ≤ 0 := by
  have hlog : num.log2 < k + (den.log2 + 1) := by
    rw [Nat.log2_lt hnum, Nat.pow_add]
    exact Nat.lt_of_le_of_lt hle
      (Nat.mul_lt_mul_of_pos_left Nat.lt_log2_self (Nat.two_pow_pos k))
  unfold Grid.scaleOf double
  simp only
  split <;> omega

/-- Such a quotient is in the range of the numbers. -/
theorem ofRatio_finite {k : Nat} (hk : k < 53) (hle : num ≤ 2 ^ k * den)
    (negative : Bool) : ∃ mantissa exponent,
      ofRatio negative num den = .finite negative mantissa exponent := by
  unfold ofRatio Grid.ofRatio
  split
  · exact ⟨_, _, rfl⟩
  · next hnum =>
    have hscale := scaleOf_double_le hk hnum hle
    have hgreatest : double.greatest = 971 := rfl
    simp only
    split
    · rw [if_neg (by simp only [hgreatest]; omega)]
      exact ⟨_, _, rfl⟩
    · rw [if_neg (by simp only [hgreatest]; omega)]
      exact ⟨_, _, rfl⟩

end Binary

/-- The outcomes that the caller of a program has to expect: the system refuses to start it, it runs
over its limit, or it ends, in whatever way. -/
inductive Outcome.Expected : Outcome → Prop
  | notStarted {cause : SystemError} (h : cause.isRefusal = true) : Expected (.notStarted cause)
  | overtime : Expected .overtime
  | ended {status : Int} {output errors : Bytes} : Expected (.ended status output errors)

namespace Shell.Launch

/-- The limits that the clock can measure: those that are over at once, and those of no more
milliseconds than can be waited for. -/
def Measurable : Binary → Prop
  | .nan => False
  | .infinite negative => negative = true
  | .finite negative mantissa exponent => negative = true ∨
    (Binary.ratio mantissa exponent).1 * thousand ≤
      longestWait * (Binary.ratio mantissa exponent).2

instance : DecidablePred Measurable
  | .nan => inferInstanceAs (Decidable False)
  | .infinite _ => inferInstanceAs (Decidable (_ = _))
  | .finite .. => inferInstanceAs (Decidable (_ ∨ _))

theorem isCountable_of_le (hle : num * thousand ≤ longestWait * den) :
    isCountable num den = true := by
  have hbits : longestWait * den ≤ 2 ^ 31 * den := Nat.mul_le_mul_right den (by decide)
  obtain ⟨mantissa, exponent, hfinite⟩ :=
    Binary.ofRatio_finite (k := 31) (by decide) (Nat.le_trans hle hbits) false
  rw [isCountable, hfinite]

theorem lt_clockRange_of_le (hden : 0 < den) (hle : num * thousand ≤ longestWait * den) :
    num * Delay.second < clockRange * den := by
  have hsecond : Delay.second = thousand * 1000000 := by decide
  have hrange : longestWait * 1000000 < clockRange := by decide
  calc num * Delay.second = num * thousand * 1000000 := by rw [hsecond, Nat.mul_assoc]
    _ ≤ longestWait * den * 1000000 := Nat.mul_le_mul_right _ hle
    _ = longestWait * 1000000 * den := Nat.mul_right_comm _ _ _
    _ < clockRange * den := Nat.mul_lt_mul_of_pos_right hrange hden

/-- Of the three bounds on a limit the number of milliseconds is the one that counts. -/
theorem nanoseconds_ok_iff : (∃ time, nanoseconds limit = .ok time) ↔ Measurable limit := by
  cases limit with
  | nan => simp [nanoseconds, Measurable]
  | infinite negative => cases negative <;> simp [nanoseconds, Measurable]
  | finite negative mantissa exponent =>
    have hden := Binary.den_ratio_pos mantissa exponent
    simp only [nanoseconds, Measurable]
    split
    · next hover =>
      refine iff_of_true ⟨none, rfl⟩ (hover.imp_right ?_)
      rintro rfl
      simp [Binary.ratio]
    · next hover =>
      obtain rfl : negative = false := by
        simpa using (not_or.mp hover).1
      generalize Binary.ratio mantissa exponent = fraction at hden ⊢
      obtain ⟨num, den⟩ := fraction
      simp only [Bool.false_eq_true, false_or]
      by_cases hle : num * thousand ≤ longestWait * den
      · have hcountable := isCountable_of_le hle
        have hrange := lt_clockRange_of_le hden hle
        simp [hcountable, Nat.not_le.mpr hrange, Nat.not_lt.mpr hle, hle]
      · refine iff_of_false ?_ hle
        rintro ⟨time, htime⟩
        rw [Nat.not_le] at hle
        split at htime
        · cases htime
        · split at htime <;> cases htime

variable {here : Location} {environment : Environment} {r : Request} {t : Tree}

theorem expected_outcome (result : Except Stop Unit) (s : State) :
    (outcome result s).1.Expected := by
  unfold outcome
  dsimp only
  repeat' split
  all_goals constructor

/-- Of words that can be passed on, the launcher comes to an expected outcome exactly if it starts
nothing or the limit can be measured. -/
theorem expected_launcher_iff (hnul : r.words.any Path.holdsNul = false) :
    (launcher here environment r t).1.Expected ↔
      (∃ cause, (launcher here environment r t).1 = .notStarted cause) ∨ Measurable r.limit := by
  rw [← nanoseconds_ok_iff]
  unfold launcher
  simp only [hnul, Bool.false_eq_true, if_false]
  split
  · next cause _ => exact iff_of_true (.notStarted rfl) (Or.inl ⟨_, rfl⟩)
  · next result after _ =>
    cases hlimit : nanoseconds r.limit with
    | error flaw =>
      refine iff_of_false (by rintro ⟨⟩) ?_
      simp
    | ok time =>
      refine iff_of_true ?_ (Or.inr ⟨time, rfl⟩)
      cases time with
      | none => exact .overtime
      | some time => exact expected_outcome result after

/-- A program that was started under a limit that cannot be measured ends in no expected way. -/
theorem launcher_of_flaw {flaw : ClockFlaw} (hflaw : nanoseconds r.limit = .error flaw)
    (hnul : r.words.any Path.holdsNul = false)
    (hstarted : ∀ cause, (launcher here environment r t).1 ≠ .notStarted cause) :
    (launcher here environment r t).1 = .badLimit flaw := by
  unfold launcher at hstarted ⊢
  simp only [hnul, hflaw, Bool.false_eq_true, if_false] at hstarted ⊢
  split
  · next hrefused =>
    simp only [hrefused] at hstarted
    exact (hstarted _ rfl).elim
  · rfl

end Shell.Launch
end BatchFormat
