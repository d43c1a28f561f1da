import Mathlib.Algebra.Group.Nat.Even
import Mathlib.Data.List.Nodup
import BatchFormat.Proofs.Prefs.Encoding
import BatchFormat.Proofs.Prefs.ReadBack

/-!
# One line for each setting

A setting stays on a line of its own. The line is cut at the first equals sign that is not escaped,
and both parts are read by undoing the escapes, so that nothing in a name or a value can pass for
something else. The file therefore says which settings it was written from, whatever their order.
-/
namespace BatchFormat.Prefs

open Properties (Token Units unitValue? naturalLines naturalLines_append)

/-! ## A reader of single lines -/

def closingSlashes (text : List Char) : Nat := (text.reverse.takeWhile (· = '\\')).length

/-- Looks for the first equals sign behind an even number of backslashes. `front` is what was
passed on the way, and becomes the name. -/
def cutFrom (front : List Char) : List Char → Option (List Char × List Char)
  | [] => none
  | c :: rest =>
    if c = '=' ∧ Even (closingSlashes front) then some (front, rest)
    else cutFrom (front ++ [c]) rest

/-- The characters that are escaped by a single letter or mark behind the backslash. -/
def shortEscapes : List (Char × Char) :=
  [('\\', '\\'), ('n', '\n'), ('r', '\r'), ('t', '\t'), ('=', '='), (':', ':'), (' ', ' ')]

/-- Undoes the escapes that are written, and no others. -/
def undo : List Char → Option Units
  | [] => some []
  | '\\' :: 'u' :: a :: b :: c :: d :: rest => do
    return (← unitValue? a b c d) :: (← undo rest)
  | ['\\'] => none
  | '\\' :: mark :: rest => do
    return (← shortEscapes.lookup mark).toNat :: (← undo rest)
  | c :: rest => (undo rest).map (c.toNat :: ·)

def isHighSurrogate (n : Nat) : Bool := 0xD800 ≤ n && n < 0xDC00

def isLowSurrogate (n : Nat) : Bool := 0xDC00 ≤ n && n < 0xE000

/-- Joins units of 16 bits to characters. A surrogate that stands alone is an error. -/
def joinUnits : Units → Option (List Char)
  | [] => some []
  | [n] => if isHighSurrogate n || isLowSurrogate n then none else some [Char.ofNat n]
  | n :: m :: rest =>
    if isHighSurrogate n && isLowSurrogate m then
      (joinUnits rest).map
        (Char.ofNat (0x10000 + (n - 0xD800) * 0x400 + (m - 0xDC00)) :: ·)
    else if isHighSurrogate n || isLowSurrogate n then none
    else (joinUnits (m :: rest)).map (Char.ofNat n :: ·)

/-- The text that escapes stand for. -/
def unescaped? (escaped : List Char) : Option String := do
  return String.ofList (← joinUnits (← undo escaped))

def readLine? (line : List Char) : Option (String × String) := do
  let (name, value) ← cutFrom [] line
  return (← unescaped? name, ← unescaped? value)

def singleBytes? (text : List Char) : Option Bytes :=
  text.mapM fun c => if c.toNat ≤ 0xFF then some (UInt8.ofNat c.toNat) else none

/-- A line that cannot run into the next one. -/
structure IsClosed (line : List Char) : Prop where
  narrow : ∀ c ∈ line, c.toNat ≤ 0xFF
  unbroken : ∀ c ∈ line, c ≠ '\n' ∧ c ≠ '\r' ∧ c ≠ '\t'
  ending : Even (closingSlashes line)

/-! ## Escapes on a line -/

variable {ts : List Token} {t : Token} {front rest line : List Char}

theorem closingSlashes_append_of_ne {c : Char} (h : c ≠ '\\') (text : List Char) :
    closingSlashes (text ++ [c]) = 0 := by
  simp [closingSlashes, h]

theorem closingSlashes_append_slash (text : List Char) :
    closingSlashes (text ++ ['\\']) = closingSlashes text + 1 := by
  simp [closingSlashes]

/-- A whole escape leaves an even number of backslashes even. -/
theorem even_closingSlashes_append (ht : t.IsSound) (h : Even (closingSlashes front)) :
    Even (closingSlashes (front ++ t.text)) := by
  cases t with
  | plain c =>
    rw [Token.text, closingSlashes_append_of_ne ht.1]
    exact Even.zero
  | escaped c =>
    have hpair : front ++ Token.text (.escaped c) = (front ++ ['\\']) ++ [c] := by
      simp [Token.text]
    rw [hpair]
    by_cases hc : c = '\\'
    · rw [hc, closingSlashes_append_slash, closingSlashes_append_slash, add_assoc]
      exact h.add (by decide)
    · rw [closingSlashes_append_of_ne hc]
      exact Even.zero
  | unit n =>
    have hdigit : ∀ k < 16, Nat.digitChar k ≠ '\\' := by decide
    have hlast : front ++ Token.text (.unit n) =
        (front ++ ['\\', 'u', Nat.digitChar (n / 16 / 16 / 16 % 16),
          Nat.digitChar (n / 16 / 16 % 16), Nat.digitChar (n / 16 % 16)]) ++
          [Nat.digitChar (n % 16)] := by
      simp [Token.text, unitEscape, Properties.hexDigits_four]
    rw [hlast, closingSlashes_append_of_ne (hdigit _ (Nat.mod_lt _ (by decide)))]
    exact Even.zero

theorem even_closingSlashes_text (h : ∀ t ∈ ts, t.IsSound)
    (hfront : Even (closingSlashes front)) :
    Even (closingSlashes (front ++ ts.flatMap Token.text)) := by
  induction ts generalizing front with
  | nil => simpa using hfront
  | cons t ts ih =>
    rw [List.flatMap_cons, ← List.append_assoc]
    exact ih (fun t ht => h t (List.mem_cons_of_mem _ ht))
      (even_closingSlashes_append (h t List.mem_cons_self) hfront)

theorem cutFrom_of_ne {c : Char} (h : c ≠ '=') :
    cutFrom front (c :: rest) = cutFrom (front ++ [c]) rest := by
  rw [cutFrom, if_neg fun hc => h hc.1]

theorem cutFrom_append (h : '=' ∉ line) :
    cutFrom front (line ++ rest) = cutFrom (front ++ line) rest := by
  induction line generalizing front with
  | nil => simp
  | cons c line ih =>
    rw [List.mem_cons, not_or] at h
    rw [List.cons_append, cutFrom_of_ne (Ne.symm h.1), ih h.2, List.append_assoc]
    rfl

/-- The cut is not made within an escape. -/
theorem cutFrom_token (hfront : Even (closingSlashes front)) (hequals : t ≠ .plain '=') :
    cutFrom front (t.text ++ rest) = cutFrom (front ++ t.text) rest := by
  cases t with
  | plain c => exact cutFrom_append (by simpa [Token.text, eq_comm] using hequals)
  | escaped c =>
    have hodd : ¬Even (closingSlashes (front ++ ['\\'])) := by
      rw [closingSlashes_append_slash, Nat.even_add_one]
      exact not_not_intro hfront
    rw [Token.text, List.cons_append, cutFrom_of_ne (by decide), List.singleton_append, cutFrom,
      if_neg fun hc => hodd hc.2, List.append_assoc]
    rfl
  | unit n =>
    refine cutFrom_append fun hmem => ?_
    rcases List.mem_cons.mp hmem with heq | hmem
    · exact absurd heq (by decide)
    · rcases List.mem_cons.mp hmem with heq | hmem
      · exact absurd heq (by decide)
      · have hspecial := Properties.isSpecial_of_mem_hexDigits hmem
        cases hspecial

/-- A line is cut at the first sign that is not escaped. -/
theorem cutFrom_text (h : ∀ t ∈ ts, t.IsSound) (hequals : ∀ t ∈ ts, t ≠ .plain '=')
    (hfront : Even (closingSlashes front)) :
    cutFrom front (ts.flatMap Token.text ++ '=' :: rest) =
      some (front ++ ts.flatMap Token.text, rest) := by
  induction ts generalizing front with
  | nil => simp [cutFrom, hfront]
  | cons t ts ih =>
    have ht := h t List.mem_cons_self
    rw [List.flatMap_cons, List.append_assoc, cutFrom_token hfront (hequals t List.mem_cons_self),
      ih (fun t ht => h t (List.mem_cons_of_mem _ ht))
        (fun t ht => hequals t (List.mem_cons_of_mem _ ht)) (even_closingSlashes_append ht hfront),
      List.append_assoc]

/-- An escape that stands in the table of those that are undone, for the character it stands for. -/
def IsListed : Token → Prop
  | .escaped c => shortEscapes.lookup c = some (Properties.unescape c)
  | _ => True

/-- The escapes are undone token by token. -/
theorem undo_text (h : ∀ t ∈ ts, t.IsSound) (hlisted : ∀ t ∈ ts, IsListed t) :
    undo (ts.flatMap Token.text) = some (ts.map Token.value) := by
  induction ts with
  | nil => rfl
  | cons t ts ih =>
    have ht := h t List.mem_cons_self
    have hmark := hlisted t List.mem_cons_self
    have hts := ih (fun t ht => h t (List.mem_cons_of_mem _ ht))
      fun t ht => hlisted t (List.mem_cons_of_mem _ ht)
    rw [List.flatMap_cons]
    cases t with
    | plain c => simp [Token.text, undo, ht.1, hts, Token.value]
    | escaped c =>
      have hlookup : shortEscapes.lookup c = some (Properties.unescape c) := hmark
      simp [Token.text, undo, ht.1, hts, Token.value, hlookup]
    | unit n =>
      simp only [Token.text, unitEscape, Properties.hexDigits_four, List.cons_append,
        List.nil_append, undo, Properties.unitValue?_hexDigits ht, hts]
      rfl

/-! ## Characters from units -/

/-- The units of a character are joined to it again. -/
theorem joinUnits_units (c : Char) (us : Units) :
    joinUnits (units c ++ us) = (joinUnits us).map (c :: ·) := by
  have hvalid := toNat_valid c
  unfold units
  simp only
  split
  · next hsmall =>
    have hhigh : isHighSurrogate c.toNat = false := by simp [isHighSurrogate]; omega
    have hlow : isLowSurrogate c.toNat = false := by simp [isLowSurrogate]; omega
    cases us <;> simp [joinUnits, hhigh, hlow]
  · next hwide =>
    have hhigh : isHighSurrogate (0xD800 + (c.toNat - 0x10000) / 0x400) = true := by
      simp [isHighSurrogate]
      omega
    have hlow : isLowSurrogate (0xDC00 + (c.toNat - 0x10000) % 0x400) = true := by
      simp [isLowSurrogate]
      omega
    have hsum : 0x10000 + (0xD800 + (c.toNat - 0x10000) / 0x400 - 0xD800) * 0x400 +
        (0xDC00 + (c.toNat - 0x10000) % 0x400 - 0xDC00) = c.toNat := by omega
    simp only [List.cons_append, List.nil_append, joinUnits, hhigh, hlow, hsum, Char.ofNat_toNat,
      Bool.and_self, if_true]

theorem joinUnits_utf16 (s : String) : joinUnits (utf16 s) = some s.toList := by
  unfold utf16
  induction s.toList with
  | nil => rfl
  | cons c cs ih => rw [List.flatMap_cons, joinUnits_units, ih, Option.map_some]

theorem unescaped?_text {s : String} (h : ∀ t ∈ ts, t.IsSound) (hlisted : ∀ t ∈ ts, IsListed t)
    (hvalue : ts.map Token.value = utf16 s) : unescaped? (ts.flatMap Token.text) = some s := by
  simp [unescaped?, undo_text h hlisted, hvalue, joinUnits_utf16]

/-! ## The lines of a file -/

variable {settings other : Settings} {key value : String} {c : Char}

theorem isListed_tokensInValue (c : Char) : ∀ t ∈ tokensInValue c, IsListed t := by
  intro t ht
  rcases tokensInValue_cases c with ⟨d, htokens, h⟩ | ⟨-, htokens⟩ | ⟨htokens, -⟩
  · rw [htokens, List.mem_singleton] at ht
    subst ht
    rcases h with ⟨-, rfl⟩ | ⟨-, rfl⟩ | ⟨-, rfl⟩ | ⟨-, rfl⟩ <;> rfl
  · rw [htokens] at ht
    obtain ⟨n, -, rfl⟩ := List.mem_map.mp ht
    trivial
  · rw [htokens, List.mem_singleton] at ht
    subst ht
    trivial

theorem isListed_tokensInKey (c : Char) : ∀ t ∈ tokensInKey c, IsListed t := by
  unfold tokensInKey
  split
  · next h =>
    intro t ht
    rw [List.mem_singleton] at ht
    subst ht
    rcases h with rfl | rfl | rfl <;> rfl
  · exact isListed_tokensInValue c

/-- An equals sign in a name is escaped. -/
theorem ne_equals_of_mem_key (c : Char) : ∀ t ∈ tokensInKey c, t ≠ .plain '=' := by
  intro t ht
  unfold tokensInKey at ht
  split at ht
  · rw [List.mem_singleton] at ht
    rw [ht]
    simp
  · next hbare =>
    rcases tokensInValue_cases c with ⟨d, htokens, -⟩ | ⟨-, htokens⟩ | ⟨htokens, -⟩
    · rw [htokens, List.mem_singleton] at ht
      rw [ht]
      simp
    · rw [htokens] at ht
      obtain ⟨n, -, rfl⟩ := List.mem_map.mp ht
      simp
    · rw [htokens, List.mem_singleton] at ht
      rw [ht]
      simpa using fun heq => hbare (Or.inl heq)

def lineText (key value : String) : List Char := (lineTokens key value).flatMap Token.text

/-- A line says the setting that it was written for. -/
theorem readLine?_lineText (key value : String) :
    readLine? (lineText key value) = some (key, value) := by
  have hkey : ∀ t ∈ key.toList.flatMap tokensInKey,
      t.IsSound ∧ IsListed t ∧ t ≠ .plain '=' := by
    intro t ht
    obtain ⟨c, -, hc⟩ := List.mem_flatMap.mp ht
    exact ⟨isSound_tokensInKey c t hc, isListed_tokensInKey c t hc, ne_equals_of_mem_key c t hc⟩
  have hvalue : ∀ t ∈ value.toList.flatMap tokensInValue, t.IsSound ∧ IsListed t := by
    intro t ht
    obtain ⟨c, -, hc⟩ := List.mem_flatMap.mp ht
    exact ⟨isSound_tokensInValue c t hc, isListed_tokensInValue c t hc⟩
  have hline : lineText key value = (key.toList.flatMap tokensInKey).flatMap Token.text ++
      '=' :: (value.toList.flatMap tokensInValue).flatMap Token.text := by
    simp [lineText, lineTokens, Token.text]
  have hcut : cutFrom [] ((key.toList.flatMap tokensInKey).flatMap Token.text ++
      '=' :: (value.toList.flatMap tokensInValue).flatMap Token.text) =
      some ([] ++ (key.toList.flatMap tokensInKey).flatMap Token.text,
        (value.toList.flatMap tokensInValue).flatMap Token.text) :=
    cutFrom_text (fun t ht => (hkey t ht).1) (fun t ht => (hkey t ht).2.2) Even.zero
  have hname : unescaped? ((key.toList.flatMap tokensInKey).flatMap Token.text) = some key :=
    unescaped?_text (fun t ht => (hkey t ht).1) (fun t ht => (hkey t ht).2.1)
      (by simp [List.map_flatMap, value_tokensInKey, utf16])
  have htext : unescaped? ((value.toList.flatMap tokensInValue).flatMap Token.text) =
      some value :=
    unescaped?_text (fun t ht => (hvalue t ht).1) (fun t ht => (hvalue t ht).2)
      (by simp [List.map_flatMap, value_tokensInValue, utf16])
  rw [readLine?, hline, hcut]
  simp [hname, htext]

/-- No tab stands in a file as it is. -/
theorem ne_tab_of_mem_value (c : Char) : ∀ d ∈ escapeInValue c, d ≠ '\t' := by
  rintro _ hd rfl
  unfold escapeInValue at hd
  repeat' split at hd
  · exact absurd hd (by decide)
  · exact absurd hd (by decide)
  · exact absurd hd (by decide)
  · exact absurd hd (by decide)
  · obtain ⟨n, -, hn⟩ := List.mem_flatMap.mp hd
    rcases List.mem_cons.mp hn with heq | hn
    · exact absurd heq (by decide)
    · rcases List.mem_cons.mp hn with heq | hn
      · exact absurd heq (by decide)
      · exact nomatch Properties.isSpecial_of_mem_hexDigits hn
  · next htab _ => exact htab (List.mem_singleton.mp hd).symm

theorem ne_tab_of_mem_key (c : Char) : ∀ d ∈ escapeInKey c, d ≠ '\t' := by
  intro d hd
  unfold escapeInKey at hd
  split at hd
  · next h =>
    simp only [List.mem_cons, List.not_mem_nil, or_false] at hd
    rcases hd with rfl | rfl
    · decide
    · rcases h with rfl | rfl | rfl <;> decide
  · exact ne_tab_of_mem_value c d hd

theorem mem_lineText_cases (h : c ∈ lineText key value) :
    c = '=' ∨ (∃ d, c ∈ escapeInKey d) ∨ ∃ d, c ∈ escapeInValue d := by
  obtain ⟨t, ht, hc⟩ := List.mem_flatMap.mp h
  rcases List.mem_append.mp ht with hkey | hrest
  · obtain ⟨d, -, hd⟩ := List.mem_flatMap.mp hkey
    exact Or.inr (Or.inl ⟨d, text_tokensInKey d ▸ List.mem_flatMap.mpr ⟨t, hd, hc⟩⟩)
  · rcases List.mem_cons.mp hrest with rfl | hvalue
    · exact Or.inl (List.mem_singleton.mp hc)
    · obtain ⟨d, -, hd⟩ := List.mem_flatMap.mp hvalue
      exact Or.inr (Or.inr ⟨d, text_tokensInValue d ▸ List.mem_flatMap.mpr ⟨t, hd, hc⟩⟩)

/-- A line is within Latin-1, holds no break and does not go on. -/
theorem isClosed_lineText (key value : String) : IsClosed (lineText key value) where
  narrow := by
    intro c hc
    rcases mem_lineText_cases hc with rfl | ⟨d, hd⟩ | ⟨d, hd⟩
    · decide
    · exact toNat_escapeInKey d c hd
    · exact toNat_escapeInValue d c hd
  unbroken := by
    intro c hc
    obtain ⟨t, ht, hct⟩ := List.mem_flatMap.mp hc
    obtain ⟨hfeed, hreturn⟩ := (isSound_lineTokens key value t ht).noBreak c hct
    refine ⟨hfeed, hreturn, ?_⟩
    rcases mem_lineText_cases hc with rfl | ⟨d, hd⟩ | ⟨d, hd⟩
    · decide
    · exact ne_tab_of_mem_key d c hd
    · exact ne_tab_of_mem_value d c hd
  ending := by
    have heven : Even (closingSlashes ([] ++ (lineTokens key value).flatMap Token.text)) :=
      even_closingSlashes_text (isSound_lineTokens key value) Even.zero
    exact heven

def settingLines (settings : Settings) : List (List Char) :=
  settings.values.sorted.map fun pair => lineText pair.1 pair.2

theorem lineText_version : lineText versionName "1" = "eclipse.preferences.version=1".toList := by
  decide

theorem characters_eq_lines (settings : Settings) : characters settings =
    ("eclipse.preferences.version=1".toList :: settingLines settings).flatMap
      fun line => line ++ ['\n'] := by
  rw [characters_eq, ← lineText_version, filePairs, settingLines]
  simp only [List.map_cons, List.flatMap_cons, List.flatMap_map]
  rfl

/-- Lines without line ends are told apart again. -/
theorem naturalLines_flatMap {lines : List (List Char)}
    (h : ∀ line ∈ lines, ∀ c ∈ line, c ≠ '\n' ∧ c ≠ '\r') :
    naturalLines (lines.flatMap fun line => line ++ ['\n']) = lines := by
  induction lines with
  | nil => rfl
  | cons line lines ih =>
    rw [List.flatMap_cons, List.append_assoc, List.singleton_append,
      naturalLines_append (h line List.mem_cons_self),
      ih fun line hline => h line (List.mem_cons_of_mem _ hline)]

theorem isClosed_of_mem_lines {line : List Char}
    (h : line ∈ "eclipse.preferences.version=1".toList :: settingLines settings) :
    IsClosed line := by
  rcases List.mem_cons.mp h with rfl | h
  · exact lineText_version ▸ isClosed_lineText versionName "1"
  · obtain ⟨pair, -, rfl⟩ := List.mem_map.mp h
    exact isClosed_lineText _ _

theorem singleBytes?_of_narrow {text : List Char} (h : ∀ c ∈ text, c.toNat ≤ 0xFF) :
    singleBytes? text = some (text.map fun c => UInt8.ofNat c.toNat) := by
  unfold singleBytes?
  induction text with
  | nil => rfl
  | cons c text ih =>
    rw [List.mapM_cons, ih fun c hc => h c (List.mem_cons_of_mem _ hc),
      if_pos (h c List.mem_cons_self)]
    rfl

/-! ## The settings of a file -/

theorem readLine?_settingLines (settings : Settings) :
    (settingLines settings).map readLine? = settings.values.sorted.map some := by
  simp [settingLines, readLine?_lineText, Function.comp_def]

/-- Two files with the same bytes were written from the same settings. -/
theorem sorted_eq_of_bytes_eq (h : bytes settings = bytes other) :
    settings.values.sorted = other.values.sorted := by
  have hlines : ∀ s : Settings, naturalLines (Properties.ofBytes (bytes s)) =
      "eclipse.preferences.version=1".toList :: settingLines s := by
    intro s
    rw [ofBytes_bytes, characters_eq_lines, naturalLines_flatMap]
    intro line hline c hc
    obtain ⟨hfeed, hreturn, -⟩ := (isClosed_of_mem_lines hline).unbroken c hc
    exact ⟨hfeed, hreturn⟩
  have hsame : settingLines settings = settingLines other :=
    (List.cons.inj ((hlines settings).symm.trans ((h ▸ rfl : _ = _).trans (hlines other)))).2
  have hread := congrArg (List.map readLine?) hsame
  rw [readLine?_settingLines, readLine?_settingLines] at hread
  exact List.map_injective_iff.mpr (Option.some_injective _) hread

/-- Names that stand once are in the same order whatever it was before. -/
theorem sorted_eq_of_perm (hkeys : (settings.values.map Prod.fst).Nodup)
    (h : settings.values.Perm other.values) : settings.values.sorted = other.values.sorted := by
  have hother : (other.values.map Prod.fst).Nodup := (h.map Prod.fst).nodup_iff.mp hkeys
  refine List.Perm.eq_of_pairwise ?_ (pairwise_lt_mergeSort hkeys) (pairwise_lt_mergeSort hother)
    (((List.mergeSort_perm _ _).trans h).trans (List.mergeSort_perm _ _).symm)
  intro a b _ _ hlt hgt
  exact (String.not_le.mpr hlt (Std.le_of_lt hgt)).elim

/-- Settings are the same up to their order exactly if they give each key the same value. -/
theorem perm_iff_get?_eq (hkeys : (settings.values.map Prod.fst).Nodup)
    (hother : (other.values.map Prod.fst).Nodup) :
    settings.values.Perm other.values ↔ ∀ key, settings.get? key = other.get? key := by
  constructor
  · intro h key
    refine Option.ext fun value => ?_
    unfold Settings.get? Values.get?
    rw [lookup_eq_some_iff_mem hkeys, lookup_eq_some_iff_mem hother, h.mem_iff]
  · intro h
    refine (List.perm_ext_iff_of_nodup (List.Nodup.of_map _ hkeys)
      (List.Nodup.of_map _ hother)).mpr fun pair => ?_
    have hpair : settings.values.lookup pair.1 = other.values.lookup pair.1 := h pair.1
    rw [← lookup_eq_some_iff_mem hkeys, ← lookup_eq_some_iff_mem hother, hpair]

/-- A preference file is written exactly if no name and no value holds a surrogate that stands
alone. It consists of its first line and one line for each setting, in the order of the names. All
characters take one byte, no line runs into the next one, and each line of a setting says its name
and its value. So two files are the same exactly if the settings are. -/
theorem lines_read_back (settings other : Settings)
    (hkeys : (settings.values.map Prod.fst).Nodup) (hother : (other.values.map Prod.fst).Nodup) :
    (∀ values : Spelling, ((∃ content, encode values = .ok content) ↔
        ∀ pair ∈ values, IsText pair.1 ∧ IsText pair.2) ∧
      ((∃ texts, spelled texts = values) ↔ ∀ pair ∈ values, IsText pair.1 ∧ IsText pair.2)) ∧
    encode (spelled settings.values) = .ok (bytes settings) ∧
    (∃ (lines : List (List Char)) (pairs : List (String × String)),
      singleBytes? (("eclipse.preferences.version=1".toList :: lines).flatMap
        fun line => line ++ ['\n']) = some (bytes settings) ∧
      (∀ line ∈ "eclipse.preferences.version=1".toList :: lines, IsClosed line) ∧
      lines.map readLine? = pairs.map some ∧
      pairs.Perm settings.values ∧ pairs.Pairwise fun a b => a.1 < b.1) ∧
    (bytes settings = bytes other ↔ ∀ key, settings.get? key = other.get? key) := by
  refine ⟨fun values => ⟨exists_encode_iff values, exists_spelled_iff⟩, encode_spelled settings,
    ⟨settingLines settings, settings.values.sorted, ?_, fun line => isClosed_of_mem_lines,
      readLine?_settingLines settings, List.mergeSort_perm _ _, pairwise_lt_mergeSort hkeys⟩, ?_⟩
  · rw [← characters_eq_lines]
    exact singleBytes?_of_narrow (toNat_characters settings)
  · rw [← perm_iff_get?_eq hkeys hother]
    constructor
    · intro h
      have hself : settings.values.sorted.Perm settings.values := List.mergeSort_perm _ _
      have hother : other.values.sorted.Perm other.values := List.mergeSort_perm _ _
      exact hself.symm.trans (sorted_eq_of_bytes_eq h ▸ hother)
    · intro h
      have hsame : characters settings = characters other := by
        rw [characters, characters, sorted_eq_of_perm hkeys h]
      rw [bytes, bytes, hsame]

/-- The same settings in another order, from another profile: the file is the same. -/
theorem lines_read_back_of_reordered :
    let settings : Settings := ⟨[("b:= ", "=\n#\\é€𝕏\\"), ("a\\", "")], none⟩
    let other : Settings := ⟨[("a\\", ""), ("b:= ", "=\n#\\é€𝕏\\")], some ⟨.relative, ["p"]⟩⟩
    (settings.values.map Prod.fst).Nodup ∧ (other.values.map Prod.fst).Nodup ∧
      bytes settings = bytes other := by
  have hkeys : ([("b:= ", "=\n#\\é€𝕏\\"), ("a\\", "")].map Prod.fst).Nodup := by decide
  have hother : ([("a\\", ""), ("b:= ", "=\n#\\é€𝕏\\")].map Prod.fst).Nodup := by decide
  refine ⟨hkeys, hother, (lines_read_back _ _ hkeys hother).2.2.2.mpr fun key => ?_⟩
  exact (perm_iff_get?_eq hkeys hother).mp (List.Perm.swap _ _ _) key

/-- A surrogate that stands alone has no bytes, and the file is not written. -/
theorem encode_of_loneSurrogate :
    let values : Spelling := [(points "k", [0xD800])]
    (values.map Prod.fst).Nodup ∧ encode values = .error 0xD800 ∧
      ¬∃ content, encode values = .ok content := by
  have hstopped : encode [(points "k", [0xD800])] = .error 0xD800 := by
    rw [encode, List.mergeSort_singleton]
    rfl
  refine ⟨List.nodup_singleton _, hstopped, ?_⟩
  rintro ⟨content, hcontent⟩
  cases hstopped.symm.trans hcontent

end BatchFormat.Prefs
