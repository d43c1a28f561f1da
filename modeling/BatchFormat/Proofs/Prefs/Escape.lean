import BatchFormat.Proofs.Prefs.Reader

/-!
# What is written, escape by escape

The characters of a preference file as the escapes that the reader takes them for. Each of them
gives back the units of the character it was written for; which names and values are read back
whole is a matter of the blanks and marks that are written as they stand.
-/
namespace BatchFormat.Prefs

open Properties (Token Units)

def utf16 (s : String) : Units := s.toList.flatMap units

/-! ## Single characters -/

def tokensInValue (c : Char) : List Token :=
  if c = '\\' then [.escaped '\\']
  else if c = '\n' then [.escaped 'n']
  else if c = '\r' then [.escaped 'r']
  else if c = '\t' then [.escaped 't']
  else if c.toNat > 0xFF then (units c).map .unit
  else [.plain c]

def tokensInKey (c : Char) : List Token :=
  if c = '=' ∨ c = ':' ∨ c = ' ' then [.escaped c] else tokensInValue c

/-- How a character can come to stand in a file. -/
theorem tokensInValue_cases (c : Char) :
    (∃ d, tokensInValue c = [.escaped d] ∧ (c = '\\' ∧ d = '\\' ∨ c = '\n' ∧ d = 'n' ∨
        c = '\r' ∧ d = 'r' ∨ c = '\t' ∧ d = 't')) ∨
      (c.toNat > 0xFF ∧ tokensInValue c = (units c).map .unit) ∨
      (tokensInValue c = [.plain c] ∧ c ≠ '\\' ∧ c ≠ '\n' ∧ c ≠ '\r' ∧ c ≠ '\t' ∧
        c.toNat ≤ 0xFF) := by
  unfold tokensInValue
  split
  · next h => exact Or.inl ⟨_, rfl, by simp [h]⟩
  · split
    · next h => exact Or.inl ⟨_, rfl, by simp [h]⟩
    · split
      · next h => exact Or.inl ⟨_, rfl, by simp [h]⟩
      · split
        · next h => exact Or.inl ⟨_, rfl, by simp [h]⟩
        · split
          · next h => exact Or.inr (Or.inl ⟨h, rfl⟩)
          · next hslash hfeed hreturn htab hwide =>
            exact Or.inr (Or.inr ⟨rfl, hslash, hfeed, hreturn, htab, Nat.not_lt.mp hwide⟩)

theorem text_tokensInValue (c : Char) :
    (tokensInValue c).flatMap Token.text = escapeInValue c := by
  unfold tokensInValue escapeInValue
  repeat' split
  all_goals simp [Token.text, List.flatMap_map]

theorem text_tokensInKey (c : Char) : (tokensInKey c).flatMap Token.text = escapeInKey c := by
  unfold tokensInKey escapeInKey
  split
  · simp [Token.text]
  · exact text_tokensInValue c

/-- A character is no surrogate. -/
theorem toNat_valid (c : Char) : c.toNat < 0xD800 ∨ 0xDFFF < c.toNat ∧ c.toNat < 0x110000 := c.valid

theorem units_lt (c : Char) : ∀ n ∈ units c, n < 0x10000 := by
  have hvalid := toNat_valid c
  intro n hn
  unfold units at hn
  simp only at hn
  split at hn
  · next hsmall =>
    rw [List.mem_singleton] at hn
    omega
  · simp only [List.mem_cons, List.not_mem_nil, or_false] at hn
    omega

/-- Wide characters have wide units. -/
theorem units_gt {c : Char} (h : c.toNat > 0xFF) : ∀ n ∈ units c, n > 0xFF := by
  intro n hn
  unfold units at hn
  simp only at hn
  split at hn
  · rw [List.mem_singleton] at hn
    omega
  · simp only [List.mem_cons, List.not_mem_nil, or_false] at hn
    omega

theorem units_of_le {c : Char} (h : c.toNat ≤ 0xFF) : units c = [c.toNat] := by
  unfold units
  simp only
  rw [if_pos (by omega)]

theorem value_tokensInValue (c : Char) : (tokensInValue c).map Token.value = units c := by
  rcases tokensInValue_cases c with ⟨d, htokens, h⟩ | ⟨-, htokens⟩ | ⟨htokens, -, -, -, -, hsmall⟩
  · rw [htokens]
    rcases h with ⟨rfl, rfl⟩ | ⟨rfl, rfl⟩ | ⟨rfl, rfl⟩ | ⟨rfl, rfl⟩ <;> rfl
  · rw [htokens]
    simp [Token.value, Function.comp_def]
  · rw [htokens, units_of_le hsmall]
    rfl

theorem value_tokensInKey (c : Char) : (tokensInKey c).map Token.value = units c := by
  unfold tokensInKey
  split
  · next h => rcases h with rfl | rfl | rfl <;> rfl
  · exact value_tokensInValue c

/-- Each character of a value is written as sound tokens. -/
theorem isSound_tokensInValue (c : Char) : ∀ t ∈ tokensInValue c, t.IsSound := by
  intro t ht
  rcases tokensInValue_cases c with
    ⟨d, htokens, h⟩ | ⟨-, htokens⟩ | ⟨htokens, hslash, hfeed, hreturn, -, -⟩
  · rw [htokens, List.mem_singleton] at ht
    subst ht
    rcases h with ⟨-, rfl⟩ | ⟨-, rfl⟩ | ⟨-, rfl⟩ | ⟨-, rfl⟩ <;> simp [Token.IsSound]
  · rw [htokens] at ht
    obtain ⟨n, hn, rfl⟩ := List.mem_map.mp ht
    exact units_lt c n hn
  · rw [htokens, List.mem_singleton] at ht
    subst ht
    exact ⟨hslash, hfeed, hreturn⟩

theorem isSound_tokensInKey (c : Char) : ∀ t ∈ tokensInKey c, t.IsSound := by
  unfold tokensInKey
  split
  · next h => rcases h with rfl | rfl | rfl <;> simp [Token.IsSound]
  · exact isSound_tokensInValue c

/-! ## One byte for each character -/

theorem toNat_unitEscape (n : Nat) : ∀ c ∈ unitEscape n, c.toNat ≤ 0xFF := by
  have hdigit : ∀ k < 16, (Nat.digitChar k).toNat ≤ 0xFF := by decide
  have hlt : ∀ m, m % 16 < 16 := fun m => Nat.mod_lt m (by decide)
  intro c hc
  simp only [unitEscape, Properties.hexDigits_four, List.mem_cons, List.not_mem_nil,
    or_false] at hc
  rcases hc with rfl | rfl | rfl | rfl | rfl | rfl
  · decide
  · decide
  all_goals exact hdigit _ (hlt _)

theorem toNat_of_all {cs : List Char} (h : cs.all (fun c => decide (c.toNat ≤ 0xFF)) = true) :
    ∀ c ∈ cs, c.toNat ≤ 0xFF :=
  fun c hc => of_decide_eq_true (List.all_eq_true.mp h c hc)

/-- What is written for a character is within Latin-1. -/
theorem toNat_escapeInValue (d : Char) : ∀ c ∈ escapeInValue d, c.toNat ≤ 0xFF := by
  intro c hc
  unfold escapeInValue at hc
  repeat' split at hc
  · exact toNat_of_all (by decide) c hc
  · exact toNat_of_all (by decide) c hc
  · exact toNat_of_all (by decide) c hc
  · exact toNat_of_all (by decide) c hc
  · obtain ⟨n, -, hn⟩ := List.mem_flatMap.mp hc
    exact toNat_unitEscape n c hn
  · next hnarrow =>
    rw [List.mem_singleton] at hc
    exact hc ▸ Nat.not_lt.mp hnarrow

theorem toNat_escapeInKey (d : Char) : ∀ c ∈ escapeInKey d, c.toNat ≤ 0xFF := by
  intro c hc
  unfold escapeInKey at hc
  split at hc
  · next h =>
    simp only [List.mem_cons, List.not_mem_nil, or_false] at hc
    rcases hc with rfl | rfl
    · decide
    · rcases h with rfl | rfl | rfl <;> decide
  · exact toNat_escapeInValue d c hc

/-! ## Delicate characters -/

/-- The characters that can make a difference where they stand: the form feed, and the marks of
comments. -/
def IsDelicate (n : Nat) : Prop := n = 0x0C ∨ n = '#'.toNat ∨ n = '!'.toNat

/-- Delicate characters are never escaped. -/
theorem eq_plain_of_mem_value {c : Char} {t : Token}
    (ht : t ∈ tokensInValue c) (hvalue : IsDelicate t.value) : t = .plain c := by
  rcases tokensInValue_cases c with ⟨d, htokens, h⟩ | ⟨hwide, htokens⟩ | ⟨htokens, -⟩
  · rw [htokens, List.mem_singleton] at ht
    subst ht
    rcases h with ⟨-, rfl⟩ | ⟨-, rfl⟩ | ⟨-, rfl⟩ | ⟨-, rfl⟩ <;>
      exact absurd hvalue (by unfold IsDelicate; decide)
  · rw [htokens] at ht
    obtain ⟨n, hn, rfl⟩ := List.mem_map.mp ht
    have hgt := units_gt hwide n hn
    have hmark : '#'.toNat = 0x23 ∧ '!'.toNat = 0x21 := by decide
    change IsDelicate n at hvalue
    unfold IsDelicate at hvalue
    omega
  · rw [htokens, List.mem_singleton] at ht
    exact ht

theorem eq_plain_of_mem_key {c : Char} {t : Token}
    (ht : t ∈ tokensInKey c) (hvalue : IsDelicate t.value) : t = .plain c := by
  unfold tokensInKey at ht
  split at ht
  · next h =>
    rw [List.mem_singleton] at ht
    subst ht
    rcases h with rfl | rfl | rfl <;> exact absurd hvalue (by unfold IsDelicate; decide)
  · exact eq_plain_of_mem_value ht hvalue

/-! ## Texts -/

/-- Where a character begins, its code units tell it from every other one. -/
theorem append_inj_units {c d : Char} {us vs : Units} (h : units c ++ us = units d ++ vs) :
    c = d ∧ us = vs := by
  have hc := toNat_valid c
  have hd := toNat_valid d
  unfold units at h
  simp only at h
  have heq : c.toNat = d.toNat ∧ us = vs := by
    split at h <;> split at h <;>
      simp only [List.cons_append, List.nil_append, List.cons.injEq] at h
    · exact h
    · omega
    · omega
    · exact ⟨by omega, h.2.2⟩
  exact ⟨Char.toNat_inj.mp heq.1, heq.2⟩

theorem units_ne_nil (c : Char) : units c ≠ [] := by
  unfold units
  simp only
  split <;> simp

/-- Different texts have different code units. -/
theorem utf16_injective : Function.Injective utf16 := by
  have hlists : ∀ cs ds : List Char, cs.flatMap units = ds.flatMap units → cs = ds := by
    intro cs
    induction cs with
    | nil =>
      intro ds h
      cases ds with
      | nil => rfl
      | cons d ds =>
        rw [List.flatMap_nil, List.flatMap_cons] at h
        exact (units_ne_nil d (List.append_eq_nil_iff.mp h.symm).1).elim
    | cons c cs ih =>
      intro ds h
      cases ds with
      | nil =>
        rw [List.flatMap_nil, List.flatMap_cons] at h
        exact (units_ne_nil c (List.append_eq_nil_iff.mp h).1).elim
      | cons d ds =>
        rw [List.flatMap_cons, List.flatMap_cons] at h
        obtain ⟨rfl, hrest⟩ := append_inj_units h
        rw [ih ds hrest]
  exact fun s u h => String.toList_inj.mp (hlists _ _ h)

end BatchFormat.Prefs
