import BatchFormat.Proofs.Text.Utf8

/-!
# The bytes that are text

Which byte sequences are well-formed UTF-8 is a table of ranges: it leaves out longer forms of what
a shorter sequence says, the numbers of surrogates, and numbers above the last one. The reader
accepts the sequences of this table and no others, and reads from each the one text whose bytes
they are.
-/
namespace BatchFormat.Text

/-! ## The table -/

def IsContinuation (b : UInt8) : Prop := 0x80 ≤ b ∧ b ≤ 0xBF

/-- The well-formed sequences of one character, with the rows of the standard's table (Unicode,
table 3-7) as constructors. -/
inductive IsCharacter : Bytes → Prop
  | ascii {a : UInt8} (ha : a ≤ 0x7F) : IsCharacter [a]
  | two {a b : UInt8} (ha : 0xC2 ≤ a) (ha' : a ≤ 0xDF) (hb : IsContinuation b) :
    IsCharacter [a, b]
  | afterE0 {b c : UInt8} (hb : 0xA0 ≤ b) (hb' : b ≤ 0xBF) (hc : IsContinuation c) :
    IsCharacter [0xE0, b, c]
  | three {a b c : UInt8} (ha : 0xE1 ≤ a) (ha' : a ≤ 0xEC) (hb : IsContinuation b)
    (hc : IsContinuation c) : IsCharacter [a, b, c]
  | afterED {b c : UInt8} (hb : 0x80 ≤ b) (hb' : b ≤ 0x9F) (hc : IsContinuation c) :
    IsCharacter [0xED, b, c]
  | lastThree {a b c : UInt8} (ha : 0xEE ≤ a) (ha' : a ≤ 0xEF) (hb : IsContinuation b)
    (hc : IsContinuation c) : IsCharacter [a, b, c]
  | afterF0 {b c d : UInt8} (hb : 0x90 ≤ b) (hb' : b ≤ 0xBF) (hc : IsContinuation c)
    (hd : IsContinuation d) : IsCharacter [0xF0, b, c, d]
  | four {a b c d : UInt8} (ha : 0xF1 ≤ a) (ha' : a ≤ 0xF3) (hb : IsContinuation b)
    (hc : IsContinuation c) (hd : IsContinuation d) : IsCharacter [a, b, c, d]
  | afterF4 {b c d : UInt8} (hb : 0x80 ≤ b) (hb' : b ≤ 0x8F) (hc : IsContinuation c)
    (hd : IsContinuation d) : IsCharacter [0xF4, b, c, d]

/-- One character after the other. -/
inductive WellFormed : Bytes → Prop
  | nil : WellFormed []
  | append {s rest : Bytes} (hs : IsCharacter s) (hrest : WellFormed rest) :
    WellFormed (s ++ rest)

variable {a b c d : UInt8} {bytes rest s : Bytes} {ch : Char} {n offset : Nat} {read cs : List Char}
  {text : String} {flaw : Flaw}

/-! ## Every row is the bytes of a character -/

theorem byte_of_toNat (h : b.toNat = n) : UInt8.ofNat n = b := by
  rw [← h, UInt8.ofNat_toNat]

theorem IsContinuation.toNat (h : IsContinuation b) : 0x80 ≤ b.toNat ∧ b.toNat < 0xC0 :=
  ⟨UInt8.le_iff_toNat_le.mp h.1, Nat.lt_succ_of_le (UInt8.le_iff_toNat_le.mp h.2)⟩

theorem toNat_ofNat_valid (h : n.isValidChar) : (Char.ofNat n).toNat = n := by
  rw [Char.ofNat, dif_pos h]
  rfl

theorem exists_encodeChar_two (ha : 0xC2 ≤ a.toNat) (ha' : a.toNat < 0xE0)
    (hb : IsContinuation b) : ∃ ch, encodeChar ch = [a, b] := by
  obtain ⟨hlow, hhigh⟩ := hb.toNat
  obtain ⟨n, hn⟩ : ∃ n, n = (a.toNat - 0xC0) * 0x40 + (b.toNat - 0x80) := ⟨_, rfl⟩
  refine ⟨Char.ofNat n, ?_⟩
  unfold encodeChar
  simp only [toNat_ofNat_valid (n := n) (Or.inl (by omega))]
  rw [if_neg (by omega), if_pos (by omega), byte_of_toNat (b := a) (by omega),
    byte_of_toNat (b := b) (by omega)]

/-- The bounds on the second byte leave out what two bytes say, and the surrogates. -/
theorem exists_encodeChar_three (ha : 0xE0 ≤ a.toNat) (ha' : a.toNat < 0xF0)
    (hb : IsContinuation b) (hc : IsContinuation c) (hE0 : a.toNat = 0xE0 → 0xA0 ≤ b.toNat)
    (hED : a.toNat = 0xED → b.toNat < 0xA0) : ∃ ch, encodeChar ch = [a, b, c] := by
  obtain ⟨hlow, hhigh⟩ := hb.toNat
  obtain ⟨hlow', hhigh'⟩ := hc.toNat
  obtain ⟨n, hn⟩ : ∃ n, n = (a.toNat - 0xE0) * 0x1000 + (b.toNat - 0x80) * 0x40 +
    (c.toNat - 0x80) := ⟨_, rfl⟩
  have hvalid : n.isValidChar := by
    unfold Nat.isValidChar
    omega
  refine ⟨Char.ofNat n, ?_⟩
  unfold encodeChar
  simp only [toNat_ofNat_valid hvalid]
  rw [if_neg (by omega), if_neg (by omega), if_pos (by omega), byte_of_toNat (b := a) (by omega),
    byte_of_toNat (b := b) (by omega), byte_of_toNat (b := c) (by omega)]

/-- The bounds on the second byte leave out what three bytes say, and what no character is. -/
theorem exists_encodeChar_four (ha : 0xF0 ≤ a.toNat) (ha' : a.toNat < 0xF5)
    (hb : IsContinuation b) (hc : IsContinuation c) (hd : IsContinuation d)
    (hF0 : a.toNat = 0xF0 → 0x90 ≤ b.toNat) (hF4 : a.toNat = 0xF4 → b.toNat < 0x90) :
    ∃ ch, encodeChar ch = [a, b, c, d] := by
  obtain ⟨hlow, hhigh⟩ := hb.toNat
  obtain ⟨hlow', hhigh'⟩ := hc.toNat
  obtain ⟨hlow'', hhigh''⟩ := hd.toNat
  obtain ⟨n, hn⟩ : ∃ n, n = (a.toNat - 0xF0) * 0x40000 + (b.toNat - 0x80) * 0x1000 +
    (c.toNat - 0x80) * 0x40 + (d.toNat - 0x80) := ⟨_, rfl⟩
  refine ⟨Char.ofNat n, ?_⟩
  unfold encodeChar
  simp only [toNat_ofNat_valid (n := n) (Or.inr ⟨by omega, by omega⟩)]
  rw [if_neg (by omega), if_neg (by omega), if_neg (by omega), byte_of_toNat (b := a) (by omega),
    byte_of_toNat (b := b) (by omega), byte_of_toNat (b := c) (by omega),
    byte_of_toNat (b := d) (by omega)]

theorem exists_encodeChar_one (ha : a.toNat < 0x80) : ∃ ch, encodeChar ch = [a] := by
  refine ⟨Char.ofNat a.toNat, ?_⟩
  unfold encodeChar
  simp only [toNat_ofNat_valid (n := a.toNat) (Or.inl (by omega))]
  rw [if_pos ha, UInt8.ofNat_toNat]

/-- Each well-formed sequence is the encoding of a character. -/
theorem IsCharacter.exists_encodeChar (h : IsCharacter s) : ∃ ch, encodeChar ch = s := by
  have hle : ∀ {x y : UInt8}, x ≤ y → x.toNat ≤ y.toNat := UInt8.le_iff_toNat_le.mp
  have hlt : ∀ {x y : UInt8}, x ≤ y → x.toNat < y.toNat + 1 := fun h => Nat.lt_succ_of_le (hle h)
  cases h with
  | ascii ha => exact exists_encodeChar_one (hlt ha)
  | two ha ha' hb => exact exists_encodeChar_two (hle ha) (hlt ha') hb
  | afterE0 hb hb' hc =>
    exact exists_encodeChar_three (by decide) (by decide) ⟨UInt8.le_trans (by decide) hb, hb'⟩ hc
      (fun _ => hle hb) (fun h => absurd h (by decide))
  | three ha ha' hb hc =>
    have hlow := hle ha
    have hhigh := hlt ha'
    refine exists_encodeChar_three (Nat.le_of_succ_le hlow) (Nat.lt_trans hhigh (by decide)) hb hc
      (fun h => ?_) (fun h => ?_)
    · rw [h] at hlow
      exact absurd hlow (by decide)
    · rw [h] at hhigh
      exact absurd hhigh (by decide)
  | afterED hb hb' hc =>
    exact exists_encodeChar_three (by decide) (by decide) ⟨hb, UInt8.le_trans hb' (by decide)⟩ hc
      (fun h => absurd h (by decide)) (fun _ => hlt hb')
  | lastThree ha ha' hb hc =>
    have hlow := hle ha
    refine exists_encodeChar_three (Nat.le_trans (by decide) hlow) (hlt ha') hb hc
      (fun h => ?_) (fun h => ?_)
    · rw [h] at hlow
      exact absurd hlow (by decide)
    · rw [h] at hlow
      exact absurd hlow (by decide)
  | afterF0 hb hb' hc hd =>
    exact exists_encodeChar_four (by decide) (by decide) ⟨UInt8.le_trans (by decide) hb, hb'⟩ hc hd
      (fun _ => hle hb) (fun h => absurd h (by decide))
  | four ha ha' hb hc hd =>
    have hlow := hle ha
    have hhigh := hlt ha'
    refine exists_encodeChar_four (Nat.le_of_succ_le hlow) (Nat.lt_trans hhigh (by decide)) hb hc hd
      (fun h => ?_) (fun h => ?_)
    · rw [h] at hlow
      exact absurd hlow (by decide)
    · rw [h] at hhigh
      exact absurd hhigh (by decide)
  | afterF4 hb hb' hc hd =>
    exact exists_encodeChar_four (by decide) (by decide) ⟨hb, UInt8.le_trans hb' (by decide)⟩ hc hd
      (fun h => absurd h (by decide)) (fun _ => hlt hb')

/-! ## The bytes of every character are a row -/

theorem isTail_iff : isTail b = true ↔ IsContinuation b := by
  rw [isTail, Bool.and_eq_true, decide_eq_true_eq, decide_eq_true_eq]
  rfl

theorem isContinuation_byte (h : n < 0x40) : IsContinuation (UInt8.ofNat (0x80 + n)) :=
  isTail_iff.mp (isTail_byte h)

/-- The encoding of a character is one of the well-formed sequences. -/
theorem isCharacter_encodeChar (ch : Char) : IsCharacter (encodeChar ch) := by
  have hvalid : ch.toNat < 0xD800 ∨ 0xDFFF < ch.toNat ∧ ch.toNat < 0x110000 := ch.valid
  have hle : ∀ m k, m ≤ k → k < 256 → UInt8.ofNat m ≤ UInt8.ofNat k :=
    fun _ _ h hk => (byte_le (Nat.lt_of_le_of_lt h hk) hk).mpr h
  have hcont : ∀ m, IsContinuation (UInt8.ofNat (0x80 + m % 0x40)) :=
    fun m => isContinuation_byte (Nat.mod_lt m (by decide))
  unfold encodeChar
  simp only
  generalize ch.toNat = n at hvalid
  split
  · next h1 => exact .ascii (hle n 0x7F (by omega) (by omega))
  · split
    · next h1 h2 =>
      exact .two (hle 0xC2 _ (by omega) (by omega)) (hle _ 0xDF (by omega) (by omega)) (hcont n)
    · split
      · next h1 h2 h3 =>
        -- the first byte of three says which second bytes may follow it
        have hcases : n / 0x1000 = 0 ∨ 1 ≤ n / 0x1000 ∧ n / 0x1000 ≤ 0xC ∨ n / 0x1000 = 0xD ∨
            0xE ≤ n / 0x1000 ∧ n / 0x1000 ≤ 0xF := by omega
        rcases hcases with hfirst | ⟨hlow, hhigh⟩ | hfirst | ⟨hlow, hhigh⟩
        · rw [hfirst]
          exact .afterE0 (hle 0xA0 _ (by omega) (by omega)) (hcont (n / 0x40)).2 (hcont n)
        · exact .three (hle 0xE1 _ (by omega) (by omega)) (hle _ 0xEC (by omega) (by omega))
            (hcont (n / 0x40)) (hcont n)
        · rw [hfirst]
          exact .afterED (hcont (n / 0x40)).1 (hle _ 0x9F (by omega) (by omega)) (hcont n)
        · exact .lastThree (hle 0xEE _ (by omega) (by omega)) (hle _ 0xEF (by omega) (by omega))
            (hcont (n / 0x40)) (hcont n)
      · next h1 h2 h3 =>
        have hcases : n / 0x40000 = 0 ∨ 1 ≤ n / 0x40000 ∧ n / 0x40000 ≤ 3 ∨ n / 0x40000 = 4 := by
          omega
        rcases hcases with hfirst | ⟨hlow, hhigh⟩ | hfirst
        · rw [hfirst]
          exact .afterF0 (hle 0x90 _ (by omega) (by omega)) (hcont (n / 0x1000)).2
            (hcont (n / 0x40)) (hcont n)
        · exact .four (hle 0xF1 _ (by omega) (by omega)) (hle _ 0xF3 (by omega) (by omega))
            (hcont (n / 0x1000)) (hcont (n / 0x40)) (hcont n)
        · rw [hfirst]
          exact .afterF4 (hcont (n / 0x1000)).1 (hle _ 0x8F (by omega) (by omega))
            (hcont (n / 0x40)) (hcont n)

/-! ## The reader and the table -/

/-- What the reader takes for a character is a row of the table. -/
theorem isCharacter_of_head (h : head bytes = .char ch rest) :
    ∃ s, IsCharacter s ∧ bytes = s ++ rest := by
  revert h
  fun_cases head bytes with
  | case2 b rest' h1 =>
    intro h
    obtain ⟨-, rfl⟩ := Head.char.inj h
    exact ⟨[b], .ascii (by grind), rfl⟩
  | case5 b h1 h2 h3 c rest' hc =>
    intro h
    obtain ⟨-, rfl⟩ := Head.char.inj h
    exact ⟨[b, c], .two (by grind) (by grind) (isTail_iff.mp hc), rfl⟩
  | case9 b h1 h2 h3 h4 c hc d rest' hd =>
    intro h
    obtain ⟨-, rfl⟩ := Head.char.inj h
    have hd' := isTail_iff.mp hd
    refine ⟨[b, c, d], ?_, rfl⟩
    by_cases hE0 : b = 0xE0
    · subst hE0
      exact .afterE0 (by grind [isSecond, secondLow]) (by grind [isSecond, secondHigh]) hd'
    · by_cases hED : b = 0xED
      · subst hED
        exact .afterED (by grind [isSecond, secondLow]) (by grind [isSecond, secondHigh]) hd'
      · have hc' : IsContinuation c := by
          constructor <;> grind [isSecond, secondLow, secondHigh]
        by_cases hlow : b ≤ 0xEC
        · exact .three (by grind) hlow hc' hd'
        · exact .lastThree (by grind) (by grind) hc' hd'
  | case15 b h1 h2 h3 h4 h5 c hc d hd e rest' he =>
    intro h
    obtain ⟨-, rfl⟩ := Head.char.inj h
    have hd' := isTail_iff.mp hd
    have he' := isTail_iff.mp he
    refine ⟨[b, c, d, e], ?_, rfl⟩
    by_cases hF0 : b = 0xF0
    · subst hF0
      exact .afterF0 (by grind [isSecond, secondLow]) (by grind [isSecond, secondHigh]) hd' he'
    · by_cases hF4 : b = 0xF4
      · subst hF4
        exact .afterF4 (by grind [isSecond, secondLow]) (by grind [isSecond, secondHigh]) hd' he'
      · have hc' : IsContinuation c := by
          constructor <;> grind [isSecond, secondLow, secondHigh]
        exact .four (by grind) (by grind) hc' hd' he'
  | _ =>
    intro h
    cases h

/-- The reader takes the bytes of a character off, and no others. -/
theorem head_eq_char_iff : head bytes = .char ch rest ↔ bytes = encodeChar ch ++ rest := by
  constructor
  · intro h
    obtain ⟨s, hs, rfl⟩ := isCharacter_of_head h
    obtain ⟨other, rfl⟩ := hs.exists_encodeChar
    rw [head_encodeChar] at h
    cases h
    rfl
  · rintro rfl
    exact head_encodeChar ch rest

theorem head_eq_none_iff : head bytes = .none ↔ bytes = [] := by
  fun_cases head bytes <;> simp

theorem eq_encode_of_decodeFrom (h : decodeFrom offset read bytes = .ok cs) :
    ∃ more, cs = read.reverse ++ more ∧ bytes = more.flatMap encodeChar := by
  fun_induction decodeFrom offset read bytes with
  | case1 offset read bytes hnone =>
    cases h
    exact ⟨[], by simp, head_eq_none_iff.mp hnone⟩
  | case2 offset read bytes c rest hhead ih =>
    obtain ⟨more, rfl, rfl⟩ := ih h
    exact ⟨c :: more, by simp, head_eq_char_iff.mp hhead⟩
  | case3 => cases h

/-- Bytes are read as a text if and only if they are the bytes of that text. -/
theorem decode_eq_ok_iff : decode bytes = .ok text ↔ bytes = encode text := by
  constructor
  · intro h
    unfold decode at h
    cases hchars : decodeFrom 0 [] bytes with
    | error flaw =>
      rw [hchars] at h
      cases h
    | ok chars =>
      rw [hchars] at h
      cases h
      obtain ⟨more, rfl, rfl⟩ := eq_encode_of_decodeFrom hchars
      simp [encode]
  · rintro rfl
    exact decode_encode text

/-! ## Texts and well-formed bytes -/

theorem wellFormed_encode (text : String) : WellFormed (encode text) := by
  unfold encode
  induction text.toList with
  | nil => exact .nil
  | cons c cs ih => exact .append (isCharacter_encodeChar c) ih

theorem WellFormed.exists_encode (h : WellFormed bytes) : ∃ text, bytes = encode text := by
  induction h with
  | nil => exact ⟨"", rfl⟩
  | append hs _ ih =>
    obtain ⟨ch, rfl⟩ := hs.exists_encodeChar
    obtain ⟨text, rfl⟩ := ih
    exact ⟨String.ofList (ch :: text.toList), by simp [encode]⟩

/-- Bytes that can be read are well-formed, and all that are well-formed can be read. -/
theorem exists_decode_iff : (∃ text, decode bytes = .ok text) ↔ WellFormed bytes := by
  simp only [decode_eq_ok_iff]
  constructor
  · rintro ⟨text, rfl⟩
    exact wellFormed_encode text
  · exact WellFormed.exists_encode

end BatchFormat.Text
