import BatchFormat.Text.Utf8

/-!
# What is written in UTF-8 is read back

The reader finds each character where the writer put it, however many bytes it has, so the bytes of
a text are always read as that text.
-/
namespace BatchFormat.Text

variable {a b c d : Nat} {rest : Bytes}

theorem toNat_byte (h : a < 256) : (UInt8.ofNat a).toNat = a := by
  rw [UInt8.toNat_ofNat', Nat.mod_eq_of_lt h]

theorem byte_lt (ha : a < 256) (hb : b < 256) : UInt8.ofNat a < UInt8.ofNat b ↔ a < b := by
  rw [UInt8.lt_iff_toNat_lt, toNat_byte ha, toNat_byte hb]

theorem byte_le (ha : a < 256) (hb : b < 256) : UInt8.ofNat a ≤ UInt8.ofNat b ↔ a ≤ b := by
  rw [UInt8.le_iff_toNat_le, toNat_byte ha, toNat_byte hb]

theorem byte_eq (ha : a < 256) (hb : b < 256) : UInt8.ofNat a = UInt8.ofNat b ↔ a = b := by
  rw [← UInt8.toNat_inj, toNat_byte ha, toNat_byte hb]

/-- A byte that continues a character carries six bits. -/
theorem isTail_byte (h : a < 0x40) : isTail (UInt8.ofNat (0x80 + a)) = true := by
  have hlow : UInt8.ofNat 0x80 ≤ UInt8.ofNat (0x80 + a) :=
    (byte_le (by omega) (by omega)).mpr (by omega)
  have hhigh : UInt8.ofNat (0x80 + a) ≤ UInt8.ofNat 0xBF :=
    (byte_le (by omega) (by omega)).mpr (by omega)
  rw [isTail, Bool.and_eq_true, decide_eq_true_eq, decide_eq_true_eq]
  exact ⟨hlow, hhigh⟩

theorem payload_byte (h : a < 0x40) : payload (UInt8.ofNat (0x80 + a)) = a := by
  unfold payload
  have hbyte : (UInt8.ofNat (0x80 + a)).toNat = 0x80 + a := toNat_byte (by omega)
  omega

/-- The bounds on a second byte keep out what a shorter sequence says, surrogates, and numbers that
are too great. -/
theorem isSecond_byte (ha : a < 256) (hb : b < 0x40) (hE0 : a = 0xE0 → 0x20 ≤ b)
    (hF0 : a = 0xF0 → 0x10 ≤ b) (hED : a = 0xED → b < 0x20) (hF4 : a = 0xF4 → b < 0x10) :
    isSecond (UInt8.ofNat a) (UInt8.ofNat (0x80 + b)) = true := by
  have heq : ∀ n, n < 256 → UInt8.ofNat a = UInt8.ofNat n → a = n :=
    fun n hn => (byte_eq ha hn).mp
  have hle : ∀ n, n ≤ 0x80 + b → UInt8.ofNat n ≤ UInt8.ofNat (0x80 + b) :=
    fun n hn => (byte_le (by omega) (by omega)).mpr hn
  have hge : ∀ n, n < 256 → 0x80 + b ≤ n → UInt8.ofNat (0x80 + b) ≤ UInt8.ofNat n :=
    fun n hn => (byte_le (by omega) hn).mpr
  simp only [isSecond, Bool.and_eq_true, decide_eq_true_eq]
  constructor
  · unfold secondLow
    split
    · next h =>
      have hlow := hE0 (heq 0xE0 (by omega) h)
      exact hle 0xA0 (by omega)
    · split
      · next h =>
        have hlow := hF0 (heq 0xF0 (by omega) h)
        exact hle 0x90 (by omega)
      · exact hle 0x80 (by omega)
  · unfold secondHigh
    split
    · next h =>
      have hhigh := hED (heq 0xED (by omega) h)
      exact hge 0x9F (by omega) (by omega)
    · split
      · next h =>
        have hhigh := hF4 (heq 0xF4 (by omega) h)
        exact hge 0x8F (by omega) (by omega)
      · exact hge 0xBF (by omega) (by omega)

/-! ## The head of a sequence, by its length -/

theorem head_one (ha : a < 0x80) : head (UInt8.ofNat a :: rest) = .char (Char.ofNat a) rest := by
  have h1 : UInt8.ofNat a < 0x80 := (byte_lt (b := 0x80) (by omega) (by omega)).mpr ha
  unfold head
  simp only [if_pos h1, toNat_byte (show a < 256 by omega)]

/-- A sequence of two bytes. -/
theorem head_two (ha : 2 ≤ a) (ha' : a < 0x20) (hb : b < 0x40) :
    head (UInt8.ofNat (0xC0 + a) :: UInt8.ofNat (0x80 + b) :: rest) =
      .char (Char.ofNat (a * 0x40 + b)) rest := by
  have hlt : ∀ n, n < 256 → 0xC0 + a < n → UInt8.ofNat (0xC0 + a) < UInt8.ofNat n :=
    fun n hn => (byte_lt (by omega) hn).mpr
  have hge : ∀ n, n ≤ 0xC0 + a → ¬UInt8.ofNat (0xC0 + a) < UInt8.ofNat n :=
    fun n hn h => absurd ((byte_lt (by omega) (by omega)).mp h) (by omega)
  have h1 : ¬UInt8.ofNat (0xC0 + a) < 0x80 := hge 0x80 (by omega)
  have h2 : ¬UInt8.ofNat (0xC0 + a) < 0xC2 := hge 0xC2 (by omega)
  have h3 : UInt8.ofNat (0xC0 + a) < 0xE0 := hlt 0xE0 (by omega) (by omega)
  unfold head
  simp only [if_neg h1, if_neg h2, if_pos h3, isTail_byte hb, if_true, payload_byte hb,
    toNat_byte (show 0xC0 + a < 256 by omega), Nat.add_sub_cancel_left]

/-- A sequence of three bytes, neither overlong nor a surrogate. -/
theorem head_three (ha : a < 0x10) (hb : b < 0x40) (hc : c < 0x40) (hlow : a = 0 → 0x20 ≤ b)
    (hhigh : a = 0xD → b < 0x20) :
    head (UInt8.ofNat (0xE0 + a) :: UInt8.ofNat (0x80 + b) :: UInt8.ofNat (0x80 + c) :: rest) =
      .char (Char.ofNat (a * 0x1000 + b * 0x40 + c)) rest := by
  have hlt : ∀ n, n < 256 → 0xE0 + a < n → UInt8.ofNat (0xE0 + a) < UInt8.ofNat n :=
    fun n hn => (byte_lt (by omega) hn).mpr
  have hge : ∀ n, n ≤ 0xE0 + a → ¬UInt8.ofNat (0xE0 + a) < UInt8.ofNat n :=
    fun n hn h => absurd ((byte_lt (by omega) (by omega)).mp h) (by omega)
  have h1 : ¬UInt8.ofNat (0xE0 + a) < 0x80 := hge 0x80 (by omega)
  have h2 : ¬UInt8.ofNat (0xE0 + a) < 0xC2 := hge 0xC2 (by omega)
  have h3 : ¬UInt8.ofNat (0xE0 + a) < 0xE0 := hge 0xE0 (by omega)
  have h4 : UInt8.ofNat (0xE0 + a) < 0xF0 := hlt 0xF0 (by omega) (by omega)
  have hsecond : isSecond (UInt8.ofNat (0xE0 + a)) (UInt8.ofNat (0x80 + b)) = true :=
    isSecond_byte (by omega) hb (fun h => hlow (by omega)) (fun h => by omega)
      (fun h => hhigh (by omega)) (fun h => by omega)
  unfold head
  simp only [if_neg h1, if_neg h2, if_neg h3, if_pos h4, hsecond, if_true, isTail_byte hc,
    payload_byte hb, payload_byte hc, toNat_byte (show 0xE0 + a < 256 by omega),
    Nat.add_sub_cancel_left]

/-- A sequence of four bytes, neither overlong nor beyond the last character. -/
theorem head_four (ha : a < 5) (hb : b < 0x40) (hc : c < 0x40) (hd : d < 0x40)
    (hlow : a = 0 → 0x10 ≤ b) (hhigh : a = 4 → b < 0x10) :
    head (UInt8.ofNat (0xF0 + a) :: UInt8.ofNat (0x80 + b) :: UInt8.ofNat (0x80 + c) ::
        UInt8.ofNat (0x80 + d) :: rest) =
      .char (Char.ofNat (a * 0x40000 + b * 0x1000 + c * 0x40 + d)) rest := by
  have hlt : ∀ n, n < 256 → 0xF0 + a < n → UInt8.ofNat (0xF0 + a) < UInt8.ofNat n :=
    fun n hn => (byte_lt (by omega) hn).mpr
  have hge : ∀ n, n ≤ 0xF0 + a → ¬UInt8.ofNat (0xF0 + a) < UInt8.ofNat n :=
    fun n hn h => absurd ((byte_lt (by omega) (by omega)).mp h) (by omega)
  have h1 : ¬UInt8.ofNat (0xF0 + a) < 0x80 := hge 0x80 (by omega)
  have h2 : ¬UInt8.ofNat (0xF0 + a) < 0xC2 := hge 0xC2 (by omega)
  have h3 : ¬UInt8.ofNat (0xF0 + a) < 0xE0 := hge 0xE0 (by omega)
  have h4 : ¬UInt8.ofNat (0xF0 + a) < 0xF0 := hge 0xF0 (by omega)
  have h5 : UInt8.ofNat (0xF0 + a) < 0xF5 := hlt 0xF5 (by omega) (by omega)
  have hsecond : isSecond (UInt8.ofNat (0xF0 + a)) (UInt8.ofNat (0x80 + b)) = true :=
    isSecond_byte (by omega) hb (fun h => by omega) (fun h => hlow (by omega)) (fun h => by omega)
      (fun h => hhigh (by omega))
  unfold head
  simp only [if_neg h1, if_neg h2, if_neg h3, if_neg h4, if_pos h5, hsecond, if_true,
    isTail_byte hc, isTail_byte hd, payload_byte hb, payload_byte hc, payload_byte hd,
    toNat_byte (show 0xF0 + a < 256 by omega), Nat.add_sub_cancel_left]

/-! ## Characters and texts -/

/-- The reader finds the character that was written first. -/
theorem head_encodeChar (c : Char) (rest : Bytes) :
    head (encodeChar c ++ rest) = .char c rest := by
  have hvalid : c.toNat < 0xD800 ∨ 0xDFFF < c.toNat ∧ c.toNat < 0x110000 := c.valid
  have hchar : ∀ n, n = c.toNat → Char.ofNat n = c := fun n hn => hn ▸ Char.ofNat_toNat c
  unfold encodeChar
  simp only
  split
  · next h =>
    rw [List.singleton_append, head_one h, hchar _ rfl]
  · split
    · next h =>
      simp only [List.cons_append, List.nil_append]
      rw [head_two (by omega) (by omega) (by omega), hchar _ (by omega)]
    · split
      · next h =>
        simp only [List.cons_append, List.nil_append]
        rw [head_three (by omega) (by omega) (by omega) (by omega) (by omega), hchar _ (by omega)]
      · simp only [List.cons_append, List.nil_append]
        rw [head_four (by omega) (by omega) (by omega) (by omega) (by omega) (by omega),
          hchar _ (by omega)]

/-- What was encoded is decoded again, character by character. -/
theorem decodeFrom_encode (offset : Nat) (read cs : List Char) :
    decodeFrom offset read (cs.flatMap encodeChar) = .ok (read.reverse ++ cs) := by
  induction cs generalizing offset read with
  | nil =>
    rw [List.flatMap_nil, decodeFrom]
    simp [head]
  | cons c cs ih =>
    rw [List.flatMap_cons, decodeFrom]
    split
    · next hnone => rw [head_encodeChar] at hnone; cases hnone
    · next hhead =>
      rw [head_encodeChar] at hhead
      cases hhead
      rw [ih, List.reverse_cons, List.append_assoc, List.singleton_append]
    · next hflaw => rw [head_encodeChar] at hflaw; cases hflaw

/-- The bytes of a text are read as that text. -/
theorem decode_encode (s : String) : decode (encode s) = .ok s := by
  rw [decode, encode, decodeFrom_encode]
  simp [Except.map]

/-- A lenient reader has nothing to forgive in what was encoded. -/
theorem decodeLenientFrom_encode (read cs : List Char) :
    decodeLenientFrom read (cs.flatMap encodeChar) = read.reverse ++ cs := by
  induction cs generalizing read with
  | nil =>
    rw [List.flatMap_nil, decodeLenientFrom]
    simp [head]
  | cons c cs ih =>
    rw [List.flatMap_cons, decodeLenientFrom]
    split
    · next hnone => rw [head_encodeChar] at hnone; cases hnone
    · next hhead =>
      rw [head_encodeChar] at hhead
      cases hhead
      rw [ih, List.reverse_cons, List.append_assoc, List.singleton_append]
    · next hflaw => rw [head_encodeChar] at hflaw; cases hflaw

/-- The lenient reader agrees. -/
theorem decodeLenient_encode (s : String) : decodeLenient (encode s) = s := by
  rw [decodeLenient, encode, decodeLenientFrom_encode]
  simp

end BatchFormat.Text
