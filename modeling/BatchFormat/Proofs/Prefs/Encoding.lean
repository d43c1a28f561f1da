import Mathlib.Data.String.Basic
import BatchFormat.Prefs

/-!
# What can be written

Texts without surrogates are those that have characters, and their settings are written as the
characters say. A surrogate in any name or value stops the writing, and nothing else does.
-/
namespace BatchFormat

namespace Point

def IsSurrogate (p : Point) : Prop := 0xD800 ≤ p.val ∧ p.val ≤ 0xDFFF

theorem char?_ofChar (c : Char) : (ofChar c).char? = some c := dif_pos c.valid

theorem char?_eq_none_iff {p : Point} : p.char? = none ↔ p.IsSurrogate := by
  have hlt := p.isLt
  unfold IsSurrogate
  by_cases hvalid : p.val.isValidChar
  · refine iff_of_false (fun hnone => ?_) fun hsurrogate => ?_
    · cases (dif_pos hvalid).symm.trans hnone
    · rcases hvalid with hlow | hhigh <;> omega
  · refine iff_of_true (dif_neg hvalid) ?_
    simp only [Nat.isValidChar] at hvalid
    omega

theorem exists_ofChar {p : Point} (h : ¬p.IsSurrogate) : ∃ c, ofChar c = p := by
  have hlt := p.isLt
  have hvalid : p.val.isValidChar := by
    simp only [IsSurrogate, Nat.isValidChar] at h ⊢
    omega
  exact ⟨Char.ofNatAux p.val hvalid, rfl⟩

theorem val_ofChar (c : Char) : (ofChar c).val = c.toNat := rfl

end Point

/-! ## Code points of characters -/

def IsText (text : List Point) : Prop := ∀ p ∈ text, ¬p.IsSurrogate

theorem isText_points (s : String) : IsText (points s) := by
  intro p hp
  obtain ⟨c, -, rfl⟩ := List.mem_map.mp hp
  rw [← Point.char?_eq_none_iff, Point.char?_ofChar]
  simp

theorem exists_points {text : List Point} (h : IsText text) : ∃ s, points s = text := by
  induction text with
  | nil => exact ⟨"", rfl⟩
  | cons p text ih =>
    obtain ⟨s, hs⟩ := ih fun q hq => h q (List.mem_cons_of_mem _ hq)
    obtain ⟨c, hc⟩ := Point.exists_ofChar (h p List.mem_cons_self)
    refine ⟨String.ofList (c :: s.toList), ?_⟩
    simp only [points, String.toList_ofList, List.map_cons] at hs ⊢
    rw [hc, hs]

namespace Prefs

/-- The values as they are handed over. -/
def spelled (values : Values) : Spelling := values.map fun pair => (points pair.1, points pair.2)

/-- Values without surrogates are those of texts. -/
theorem exists_spelled_iff {values : Spelling} :
    (∃ texts, spelled texts = values) ↔ ∀ pair ∈ values, IsText pair.1 ∧ IsText pair.2 := by
  constructor
  · rintro ⟨texts, rfl⟩ pair hpair
    obtain ⟨text, -, rfl⟩ := List.mem_map.mp hpair
    exact ⟨isText_points text.1, isText_points text.2⟩
  · intro h
    induction values with
    | nil => exact ⟨[], rfl⟩
    | cons pair values ih =>
      obtain ⟨texts, htexts⟩ := ih fun other hother => h other (List.mem_cons_of_mem _ hother)
      obtain ⟨hkey, hvalue⟩ := h pair List.mem_cons_self
      obtain ⟨key, hkey⟩ := exists_points hkey
      obtain ⟨value, hvalue⟩ := exists_points hvalue
      refine ⟨(key, value) :: texts, ?_⟩
      rw [← htexts, spelled, List.map_cons, hkey, hvalue]
      rfl

/-- Code points stand in the order of the characters. -/
theorem notAfter_points {s t : String} : notAfter (points s) (points t) = true ↔ s ≤ t := by
  rw [← String.not_lt, String.lt_iff_toList_lt, points, points]
  generalize s.toList = xs
  generalize t.toList = ys
  induction xs generalizing ys with
  | nil => simp [notAfter]
  | cons x xs ih =>
    cases ys with
    | nil => simp [notAfter]
    | cons y ys =>
      have hlt : y < x ↔ y.toNat < x.toNat := Iff.rfl
      have heq : y = x ↔ y.toNat = x.toNat := ⟨congrArg _, Char.toNat_inj.mp⟩
      rw [List.map_cons, List.map_cons, notAfter, Point.val_ofChar, Point.val_ofChar,
        List.cons_lt_cons_iff, hlt, heq, Bool.or_eq_true, decide_eq_true_iff, Bool.and_eq_true,
        beq_iff_eq, ih]
      grind

theorem sorted_spelled (values : Values) :
    (spelled values).mergeSort (fun a b => notAfter a.1 b.1) = spelled values.sorted := by
  refine (List.map_mergeSort fun a _ b _ => ?_).symm
  rw [Bool.eq_iff_iff, decide_eq_true_iff, notAfter_points]

/-! ## Settings of characters -/

theorem escapeText_points (escape : Char → List Char) (s : String) :
    escapeText escape (points s) = .ok (s.toList.flatMap escape) := by
  have hparts : (points s).mapM (escapePoint escape) = .ok (s.toList.map escape) := by
    rw [points, List.mapM_map]
    simp only [Function.comp_def, escapePoint, Point.char?_ofChar]
    exact List.mapM_pure
  rw [escapeText, hparts, List.flatMap_def]
  rfl

theorem encodeLine_points (key value : String) :
    encodeLine (points key, points value) = .ok (line key value) := by
  simp only [encodeLine, escapeText_points]
  rfl

/-- Settings without surrogates are written as their characters say. -/
theorem encode_spelled (settings : Settings) :
    encode (spelled settings.values) = .ok (bytes settings) := by
  have hlines : (spelled settings.values.sorted).mapM encodeLine =
      .ok (settings.values.sorted.map fun pair => line pair.1 pair.2) := by
    rw [spelled, List.mapM_map]
    simp only [Function.comp_def, encodeLine_points]
    exact List.mapM_pure
  rw [encode, sorted_spelled, hlines, bytes, characters, List.flatMap_def]
  rfl

/-! ## Surrogates -/

section Cases

variable {α β ε : Type} {f : α → Except ε β} {good : α → Prop} {bad : α → ε → Prop}

/-- What succeeds for good elements and fails for others does so for lists of them. -/
theorem mapM_cases (h : ∀ x, (good x ∧ ∃ y, f x = .ok y) ∨ ∃ e, bad x e ∧ f x = .error e)
    (xs : List α) :
    ((∀ x ∈ xs, good x) ∧ ∃ ys, xs.mapM f = .ok ys) ∨
      ∃ e, (∃ x ∈ xs, bad x e) ∧ xs.mapM f = .error e := by
  induction xs with
  | nil => exact Or.inl ⟨by simp, [], rfl⟩
  | cons x xs ih =>
    rw [List.mapM_cons]
    rcases h x with ⟨hgood, y, hy⟩ | ⟨e, hbad, he⟩
    · rcases ih with ⟨hall, ys, hys⟩ | ⟨e, ⟨z, hz, hbad⟩, he⟩
      · rw [hy, hys]
        exact Or.inl ⟨List.forall_mem_cons.mpr ⟨hgood, hall⟩, y :: ys, rfl⟩
      · rw [hy, he]
        exact Or.inr ⟨e, ⟨z, List.mem_cons_of_mem _ hz, hbad⟩, rfl⟩
    · rw [he]
      exact Or.inr ⟨e, ⟨x, List.mem_cons_self, hbad⟩, rfl⟩

end Cases

theorem escapePoint_cases (escape : Char → List Char) (p : Point) :
    (¬p.IsSurrogate ∧ ∃ cs, escapePoint escape p = .ok cs) ∨
      ∃ q, (q = p ∧ p.IsSurrogate) ∧ escapePoint escape p = .error q := by
  unfold escapePoint
  rw [← Point.char?_eq_none_iff]
  cases p.char? with
  | some c => exact Or.inl ⟨by simp, escape c, rfl⟩
  | none => exact Or.inr ⟨p, ⟨rfl, rfl⟩, rfl⟩

theorem escapeText_cases (escape : Char → List Char) (text : List Point) :
    (IsText text ∧ ∃ cs, escapeText escape text = .ok cs) ∨
      ∃ p, (p ∈ text ∧ p.IsSurrogate) ∧ escapeText escape text = .error p := by
  unfold escapeText
  rcases mapM_cases (escapePoint_cases escape) text with
    ⟨htext, parts, hparts⟩ | ⟨p, ⟨_, hmem, rfl, hsurrogate⟩, hp⟩
  · rw [hparts]
    exact Or.inl ⟨htext, parts.flatten, rfl⟩
  · rw [hp]
    exact Or.inr ⟨_, ⟨hmem, hsurrogate⟩, rfl⟩

/-- A line is encoded if neither of its texts holds a surrogate. Otherwise one of the surrogates is
reported. -/
theorem encodeLine_cases (pair : List Point × List Point) :
    ((IsText pair.1 ∧ IsText pair.2) ∧ ∃ cs, encodeLine pair = .ok cs) ∨
      ∃ p, ((p ∈ pair.1 ∨ p ∈ pair.2) ∧ p.IsSurrogate) ∧ encodeLine pair = .error p := by
  unfold encodeLine
  rcases escapeText_cases escapeInKey pair.1 with ⟨hkey, name, hname⟩ | ⟨p, ⟨hmem, hp⟩, hname⟩
  · rcases escapeText_cases escapeInValue pair.2 with
      ⟨hvalue, text, htext⟩ | ⟨p, ⟨hmem, hp⟩, htext⟩
    · rw [hname, htext]
      exact Or.inl ⟨⟨hkey, hvalue⟩, _, rfl⟩
    · rw [hname, htext]
      exact Or.inr ⟨p, ⟨Or.inr hmem, hp⟩, rfl⟩
  · rw [hname]
    exact Or.inr ⟨p, ⟨Or.inl hmem, hp⟩, rfl⟩

/-- A file is written for texts, and for settings that hold a surrogate there is none. -/
theorem encode_cases (values : Spelling) :
    ((∀ pair ∈ values, IsText pair.1 ∧ IsText pair.2) ∧ ∃ content, encode values = .ok content) ∨
      ∃ p, (∃ pair ∈ values, (p ∈ pair.1 ∨ p ∈ pair.2) ∧ p.IsSurrogate) ∧
        encode values = .error p := by
  unfold encode
  rcases mapM_cases encodeLine_cases (values.mergeSort fun a b => notAfter a.1 b.1) with
    ⟨htexts, lines, hlines⟩ | ⟨p, ⟨pair, hmem, hpair⟩, hp⟩
  · rw [hlines]
    exact Or.inl ⟨fun pair hpair => htexts pair (List.mem_mergeSort.mpr hpair), _, rfl⟩
  · rw [hp]
    exact Or.inr ⟨p, ⟨pair, List.mem_mergeSort.mp hmem, hpair⟩, rfl⟩

theorem exists_encode_iff (values : Spelling) :
    (∃ content, encode values = .ok content) ↔
      ∀ pair ∈ values, IsText pair.1 ∧ IsText pair.2 := by
  rcases encode_cases values with ⟨htexts, hok⟩ | ⟨p, ⟨pair, hmem, hpoint, hsurrogate⟩, hp⟩
  · exact iff_of_true hok htexts
  · refine iff_of_false (fun ⟨content, hok⟩ => ?_) fun htexts => ?_
    · rw [hp] at hok
      cases hok
    · obtain ⟨hkey, hvalue⟩ := htexts pair hmem
      exact hpoint.elim (fun hp => hkey p hp hsurrogate) fun hp => hvalue p hp hsurrogate

end Prefs
end BatchFormat
