import BatchFormat.Prefs

/-!
# Reading a file of properties

The text format of properties, as the programs read it that preference files are written for. Each
byte is one character. A logical line is a natural line, or several where all but the last end in an
odd number of backslashes; blank lines and comments say nothing. A name ends at the first separator
that is not escaped, and of several values for one name the last one counts. Names and values are
texts in units of 16 bits.

A line that is put together from escapes is read escape by escape: what the reader does with its
characters is what it does with the escapes as a whole.
-/
namespace BatchFormat.Properties

abbrev Units := List Nat

def isBlank (c : Char) : Bool := c == ' ' || c == '\t' || c == '\x0c'

def isSeparator (c : Char) : Bool := c == '=' || c == ':'

def isCommentMark (c : Char) : Bool := c == '#' || c == '!'

/-- The lines of a text, which end at a line feed, a carriage return, or both in this order. -/
def naturalLines : List Char → List (List Char)
  | [] => []
  | '\r' :: '\n' :: rest => [] :: naturalLines rest
  | c :: rest =>
    if c = '\n' ∨ c = '\r' then [] :: naturalLines rest
    else
      match naturalLines rest with
      | [] => [[c]]
      | line :: lines => (c :: line) :: lines

def endsOpen : List Char → Bool
  | [] => false
  | ['\\'] => true
  | '\\' :: _ :: rest => endsOpen rest
  | _ :: rest => endsOpen rest

/-- A logical line in front of others, unless nothing is in it. -/
def inFront (line : List Char) (lines : List (List Char)) : List (List Char) :=
  if line = [] then lines else line :: lines

/-- The logical lines, without the blanks that each natural line begins with. `open?` is what
was read of a line that goes on. -/
def logicalLines (open? : Option (List Char)) : List (List Char) → List (List Char)
  | [] => inFront (open?.getD []) []
  | line :: lines =>
    let body := line.dropWhile isBlank
    match open? with
    | none =>
      if body.head?.any isCommentMark then logicalLines none lines
      else if endsOpen body then logicalLines (some body.dropLast) lines
      else inFront body (logicalLines none lines)
    | some front =>
      if endsOpen body then logicalLines (some (front ++ body.dropLast)) lines
      else inFront (front ++ body) (logicalLines none lines)

/-- The name at the begin of a line, still escaped, and what follows it. -/
def splitName : List Char → List Char × List Char
  | [] => ([], [])
  | '\\' :: c :: rest => ('\\' :: c :: (splitName rest).1, (splitName rest).2)
  | c :: rest =>
    if isBlank c || isSeparator c then ([], c :: rest)
    else (c :: (splitName rest).1, (splitName rest).2)

/-- The value behind a name: at most one separator is skipped, and the blanks around it. -/
def valueBehind (rest : List Char) : List Char :=
  match rest.dropWhile isBlank with
  | [] => []
  | c :: more => if isSeparator c then more.dropWhile isBlank else c :: more

/-- The character that a backslash and `c` stand for. -/
def unescape (c : Char) : Char :=
  if c = 't' then '\t' else if c = 'n' then '\n' else if c = 'r' then '\r'
  else if c = 'f' then '\x0c' else c

def hexValue? (c : Char) : Option Nat :=
  if '0' ≤ c ∧ c ≤ '9' then some (c.toNat - '0'.toNat)
  else if 'a' ≤ c ∧ c ≤ 'f' then some (c.toNat - 'a'.toNat + 10)
  else if 'A' ≤ c ∧ c ≤ 'F' then some (c.toNat - 'A'.toNat + 10)
  else none

def unitValue? (a b c d : Char) : Option Nat := do
  return 0x1000 * (← hexValue? a) + 0x100 * (← hexValue? b) + 0x10 * (← hexValue? c) +
    (← hexValue? d)

/-- Resolves escapes. A unit that has not four hexadecimal digits is an error. -/
def decode : List Char → Option Units
  | [] => some []
  | '\\' :: 'u' :: a :: b :: c :: d :: rest => do
    return (← unitValue? a b c d) :: (← decode rest)
  | '\\' :: 'u' :: _ => none
  | ['\\'] => some []
  | '\\' :: c :: rest => (decode rest).map ((unescape c).toNat :: ·)
  | c :: rest => (decode rest).map (c.toNat :: ·)

/-- The name and the value that a logical line gives. -/
def property? (line : List Char) : Option (Units × Units) := do
  let (name, rest) := splitName line
  return (← decode name, ← decode (valueBehind rest))

def ofBytes (bytes : Bytes) : List Char := bytes.map fun b => Char.ofNat b.toNat

/-- The properties of a file in the order in which they are set. -/
def read? (bytes : Bytes) : Option (List (Units × Units)) :=
  (logicalLines none (naturalLines (ofBytes bytes))).mapM property?

def get? (properties : List (Units × Units)) (name : Units) : Option Units :=
  properties.reverse.lookup name

/-! ## Escapes as a whole -/

/-- A character as it stands, an escaped character, or an escaped unit. -/
inductive Token where
  | plain (c : Char)
  | escaped (c : Char)
  | unit (n : Nat)
  deriving DecidableEq, Repr

namespace Token

def text : Token → List Char
  | plain c => [c]
  | escaped c => ['\\', c]
  | unit n => Prefs.unitEscape n

def value : Token → Nat
  | plain c => c.toNat
  | escaped c => (unescape c).toNat
  | unit n => n

/-- The text of the token is read as the token, and ends no line. -/
def IsSound : Token → Prop
  | plain c => c ≠ '\\' ∧ c ≠ '\n' ∧ c ≠ '\r'
  | escaped c => c ≠ 'u' ∧ c ≠ '\n' ∧ c ≠ '\r'
  | unit n => n < 0x10000

def isBlank : Token → Bool
  | plain c => Properties.isBlank c
  | _ => false

def isSeparator : Token → Bool
  | plain c => Properties.isSeparator c
  | _ => false

def isCommentMark : Token → Bool
  | plain c => Properties.isCommentMark c
  | _ => false

def endsName (t : Token) : Bool := t.isBlank || t.isSeparator

end Token

variable {ts : List Token} {rest line : List Char} {n : Nat}

theorem hexValue?_digitChar : ∀ k < 16, hexValue? (Nat.digitChar k) = some k := by decide

/-- What no digit of a unit is: an end of a line or of a name, or the begin of an escape. -/
def isSpecial (c : Char) : Bool :=
  c == '\\' || c == '\n' || c == '\r' || isBlank c || isSeparator c

theorem isSpecial_digitChar : ∀ k < 16, isSpecial (Nat.digitChar k) = false := by decide

theorem hexDigits_four (n : Nat) : Text.hexDigits 4 n =
    [Nat.digitChar (n / 16 / 16 / 16 % 16), Nat.digitChar (n / 16 / 16 % 16),
      Nat.digitChar (n / 16 % 16), Nat.digitChar (n % 16)] := rfl

theorem isSpecial_of_mem_hexDigits {c : Char} (h : c ∈ Text.hexDigits 4 n) :
    isSpecial c = false := by
  have hlt : ∀ m, m % 16 < 16 := fun m => Nat.mod_lt m (by decide)
  simp only [hexDigits_four, List.mem_cons, List.not_mem_nil, or_false] at h
  rcases h with rfl | rfl | rfl | rfl <;> exact isSpecial_digitChar _ (hlt _)

theorem unitValue?_hexDigits (h : n < 0x10000) :
    unitValue? (Nat.digitChar (n / 16 / 16 / 16 % 16)) (Nat.digitChar (n / 16 / 16 % 16))
      (Nat.digitChar (n / 16 % 16)) (Nat.digitChar (n % 16)) = some n := by
  have hlt : ∀ m, m % 16 < 16 := fun m => Nat.mod_lt m (by decide)
  simp only [unitValue?, hexValue?_digitChar _ (hlt _), bind, Option.bind, pure]
  congr 1
  omega

/-- A reader undoes each token on its own. -/
theorem decode_text (ts : List Token) (h : ∀ t ∈ ts, t.IsSound) :
    decode (ts.flatMap Token.text) = some (ts.map Token.value) := by
  induction ts with
  | nil => rfl
  | cons t ts ih =>
    have ht := h t List.mem_cons_self
    have hts := ih fun t ht => h t (List.mem_cons_of_mem _ ht)
    rw [List.flatMap_cons]
    cases t with
    | plain c => simp [Token.text, decode, ht.1, hts, Token.value]
    | escaped c => simp [Token.text, decode, ht.1, hts, Token.value]
    | unit n =>
      simp only [Token.text, Prefs.unitEscape, hexDigits_four, List.cons_append, List.nil_append,
        decode, unitValue?_hexDigits ht, hts]
      rfl

theorem endsOpen_append (h : ∀ c ∈ line, c ≠ '\\') : endsOpen (line ++ rest) = endsOpen rest := by
  induction line with
  | nil => rfl
  | cons c line ih =>
    have hc := h c List.mem_cons_self
    have hline := ih fun d hd => h d (List.mem_cons_of_mem _ hd)
    rw [List.cons_append, endsOpen, hline]
    all_goals simp [hc]

/-- A line of sound tokens goes on in no other line. -/
theorem endsOpen_text (h : ∀ t ∈ ts, t.IsSound) : endsOpen (ts.flatMap Token.text) = false := by
  induction ts with
  | nil => rfl
  | cons t ts ih =>
    have ht := h t List.mem_cons_self
    have hts := ih fun t ht => h t (List.mem_cons_of_mem _ ht)
    rw [List.flatMap_cons]
    cases t with
    | plain c => rw [endsOpen_append (by simpa [Token.text] using ht.1), hts]
    | escaped c => simp [Token.text, endsOpen, hts]
    | unit n =>
      have hdigits : ∀ c ∈ Text.hexDigits 4 n, c ≠ '\\' := by
        rintro c hc rfl
        exact nomatch isSpecial_of_mem_hexDigits hc
      simp only [Token.text, Prefs.unitEscape, List.cons_append, endsOpen]
      rw [endsOpen_append hdigits, hts]

/-- A sound token does not break the line. -/
theorem Token.IsSound.noBreak {t : Token} (h : t.IsSound) : ∀ c ∈ t.text, c ≠ '\n' ∧ c ≠ '\r' := by
  intro c hc
  cases t with
  | plain d =>
    rw [text, List.mem_singleton] at hc
    exact hc ▸ h.2
  | escaped d =>
    simp only [text, List.mem_cons, List.not_mem_nil, or_false] at hc
    rcases hc with rfl | rfl
    · decide
    · exact h.2
  | unit n =>
    rcases List.mem_cons.mp hc with rfl | hc
    · decide
    · rcases List.mem_cons.mp hc with rfl | hc
      · decide
      · have hplain := isSpecial_of_mem_hexDigits hc
        constructor <;> (rintro rfl; exact nomatch hplain)

theorem naturalLines_append (h : ∀ c ∈ line, c ≠ '\n' ∧ c ≠ '\r') :
    naturalLines (line ++ '\n' :: rest) = line :: naturalLines rest := by
  induction line with
  | nil => simp [naturalLines]
  | cons c line ih =>
    obtain ⟨hfeed, hreturn⟩ := h c List.mem_cons_self
    have hline := ih fun d hd => h d (List.mem_cons_of_mem _ hd)
    rw [List.cons_append, naturalLines]
    · simp [hfeed, hreturn, hline]
    · simp [hreturn]

theorem isCommentMark_text (ts : List Token) :
    (ts.flatMap Token.text).head?.any isCommentMark = ts.head?.any Token.isCommentMark := by
  have hescape : isCommentMark '\\' = false := by decide
  cases ts with
  | nil => rfl
  | cons t ts =>
    cases t <;> simp [Token.text, Prefs.unitEscape, Token.isCommentMark, hescape]

theorem dropWhile_text (ts : List Token) :
    (ts.flatMap Token.text).dropWhile isBlank =
      (ts.dropWhile Token.isBlank).flatMap Token.text := by
  have hescape : isBlank '\\' = false := by decide
  induction ts with
  | nil => rfl
  | cons t ts ih =>
    cases t with
    | plain c => cases hblank : isBlank c <;> simp [Token.text, Token.isBlank, hblank, ih]
    | escaped c => simp [Token.text, Token.isBlank, hescape]
    | unit n => simp [Token.text, Prefs.unitEscape, Token.isBlank, hescape]

theorem splitName_append (h : ∀ c ∈ line, isSpecial c = false) :
    splitName (line ++ rest) = (line ++ (splitName rest).1, (splitName rest).2) := by
  induction line with
  | nil => rfl
  | cons c line ih =>
    have hc := h c List.mem_cons_self
    have hline := ih fun d hd => h d (List.mem_cons_of_mem _ hd)
    simp only [isSpecial, Bool.or_eq_false_iff, beq_eq_false_iff_ne, ne_eq] at hc
    rw [List.cons_append, splitName, hline]
    all_goals simp [hc]

/-- The name ends before the first token that ends a name. -/
theorem splitName_text (ts : List Token) (h : ∀ t ∈ ts, t.IsSound) :
    splitName (ts.flatMap Token.text) =
      ((ts.takeWhile fun t => !t.endsName).flatMap Token.text,
        (ts.dropWhile fun t => !t.endsName).flatMap Token.text) := by
  induction ts with
  | nil => rfl
  | cons t ts ih =>
    have ht := h t List.mem_cons_self
    have hts := ih fun t ht => h t (List.mem_cons_of_mem _ ht)
    rw [List.flatMap_cons, List.takeWhile_cons, List.dropWhile_cons]
    cases t with
    | plain c =>
      rw [Token.text, List.singleton_append, splitName, hts]
      · cases hend : isBlank c || isSeparator c <;>
          simp [Token.endsName, Token.isBlank, Token.isSeparator, hend, Token.text]
      · simp [ht.1]
    | escaped c =>
      simp [Token.text, splitName, hts, Token.endsName, Token.isBlank, Token.isSeparator]
    | unit n =>
      simp only [Token.text, Prefs.unitEscape, List.cons_append, splitName]
      rw [splitName_append fun c hc => isSpecial_of_mem_hexDigits hc, hts]
      simp [Token.endsName, Token.isBlank, Token.isSeparator, Token.text, Prefs.unitEscape]

def valueTokens (rest : List Token) : List Token :=
  match rest.dropWhile Token.isBlank with
  | [] => []
  | t :: more => if t.isSeparator then more.dropWhile Token.isBlank else t :: more

/-- The value begins behind the separator and the blanks around it. -/
theorem valueBehind_text (ts : List Token) :
    valueBehind (ts.flatMap Token.text) = (valueTokens ts).flatMap Token.text := by
  have hescape : isSeparator '\\' = false := by decide
  unfold valueBehind valueTokens
  rw [dropWhile_text]
  cases ts.dropWhile Token.isBlank with
  | nil => rfl
  | cons t more =>
    cases t with
    | plain c =>
      cases hsep : isSeparator c <;> simp [Token.text, Token.isSeparator, hsep, dropWhile_text]
    | escaped c => simp [Token.text, Token.isSeparator, hescape]
    | unit n => simp [Token.text, Prefs.unitEscape, Token.isSeparator, hescape]

theorem valueTokens_subset (ts : List Token) : valueTokens ts ⊆ ts := by
  unfold valueTokens
  have hdrop := List.dropWhile_subset Token.isBlank (l := ts)
  intro t ht
  split at ht
  · cases ht
  · next head more heq =>
    rw [heq] at hdrop
    split at ht
    · exact hdrop (List.mem_cons_of_mem _ (List.dropWhile_subset _ ht))
    · exact hdrop ht

/-- What a line of whole escapes says. -/
def meaning (ts : List Token) : Units × Units :=
  ((ts.takeWhile fun t => !t.endsName).map Token.value,
    (valueTokens (ts.dropWhile fun t => !t.endsName)).map Token.value)

theorem property?_text (h : ∀ t ∈ ts, t.IsSound) :
    property? (ts.flatMap Token.text) = some (meaning ts) := by
  have hname := decode_text (ts.takeWhile fun t => !t.endsName)
    fun t ht => h t (List.takeWhile_subset _ ht)
  have hvalue := decode_text (valueTokens (ts.dropWhile fun t => !t.endsName))
    fun t ht => h t (List.dropWhile_subset _ (valueTokens_subset _ ht))
  simp only [property?, splitName_text ts h, valueBehind_text, hname, hvalue, bind, Option.bind,
    pure, meaning]

/-- The property that a natural line of whole escapes sets, if it is no comment. -/
def setBy (ts : List Token) : Option (Units × Units) :=
  let body := ts.dropWhile Token.isBlank
  if body.head?.any Token.isCommentMark then none else some (meaning body)

/-- Lines of whole escapes that hold something are read one by one. -/
theorem properties_text (lines : List (List Token)) (h : ∀ ts ∈ lines, ∀ t ∈ ts, t.IsSound)
    (hbody : ∀ ts ∈ lines, ts.dropWhile Token.isBlank ≠ []) :
    (logicalLines none (naturalLines
      (lines.flatMap fun ts => ts.flatMap Token.text ++ ['\n']))).mapM property? =
      some (lines.filterMap setBy) := by
  induction lines with
  | nil => rfl
  | cons ts lines ih =>
    have hts := h ts List.mem_cons_self
    have hrest := ih (fun ts hts => h ts (List.mem_cons_of_mem _ hts))
      fun ts hts => hbody ts (List.mem_cons_of_mem _ hts)
    have hsound : ∀ t ∈ ts.dropWhile Token.isBlank, t.IsSound :=
      fun t ht => hts t (List.dropWhile_subset _ ht)
    have hbreak : ∀ c ∈ ts.flatMap Token.text, c ≠ '\n' ∧ c ≠ '\r' := by
      intro c hc
      obtain ⟨t, ht, hct⟩ := List.mem_flatMap.mp hc
      exact (hts t ht).noBreak c hct
    have hne : (ts.dropWhile Token.isBlank).flatMap Token.text ≠ [] := by
      intro hnil
      cases hdrop : ts.dropWhile Token.isBlank with
      | nil => exact hbody ts List.mem_cons_self hdrop
      | cons t more =>
        rw [hdrop] at hnil
        cases t <;> simp [Token.text, Prefs.unitEscape] at hnil
    rw [List.flatMap_cons, List.append_assoc, List.singleton_append, naturalLines_append hbreak,
      logicalLines]
    simp only [dropWhile_text, isCommentMark_text, endsOpen_text hsound, Bool.false_eq_true,
      if_false, List.filterMap_cons, setBy]
    split
    · exact hrest
    · rw [inFront, if_neg hne, List.mapM_cons, property?_text hsound, hrest]
      rfl

end BatchFormat.Properties
