import Mathlib.Data.List.Basic
import Mathlib.Data.List.TakeWhile
import BatchFormat.Proofs.Pairs
import BatchFormat.Proofs.Prefs.Escape

/-!
# Preference files read back

A preference file can always be read. It says what the settings say exactly where no name holds a
form feed or begins with the mark of a comment, and no value begins with a space or a form feed:
these are written as they stand, and the reader skips them or ends a name at them.
-/
namespace BatchFormat.Prefs

open Properties (Token Units setBy meaning valueTokens)

variable {key value : String} {settings : Settings}

/-! ## One line -/

def lineTokens (key value : String) : List Token :=
  key.toList.flatMap tokensInKey ++ .plain '=' :: value.toList.flatMap tokensInValue

theorem text_lineTokens (key value : String) :
    (lineTokens key value).flatMap Token.text ++ ['\n'] = line key value := by
  have hequals : Token.text (.plain '=') = ['='] := rfl
  simp [lineTokens, line, List.flatMap_append, List.flatMap_assoc, text_tokensInKey,
    text_tokensInValue, hequals]

theorem isSound_lineTokens (key value : String) : ∀ t ∈ lineTokens key value, t.IsSound := by
  intro t ht
  rcases List.mem_append.mp ht with hkey | hvalue
  · obtain ⟨c, -, hc⟩ := List.mem_flatMap.mp hkey
    exact isSound_tokensInKey c t hc
  · rcases List.mem_cons.mp hvalue with rfl | hvalue
    · simp [Token.IsSound]
    · obtain ⟨c, -, hc⟩ := List.mem_flatMap.mp hvalue
      exact isSound_tokensInValue c t hc

/-- Delicate characters in a line stand there as they are. -/
theorem eq_plain_of_mem_line {t : Token} (ht : t ∈ lineTokens key value)
    (hvalue : IsDelicate t.value) : ∃ c, t = .plain c := by
  rcases List.mem_append.mp ht with hkey | hrest
  · obtain ⟨c, -, hc⟩ := List.mem_flatMap.mp hkey
    exact ⟨c, eq_plain_of_mem_key hc hvalue⟩
  · rcases List.mem_cons.mp hrest with rfl | hrest
    · exact ⟨_, rfl⟩
    · obtain ⟨c, -, hc⟩ := List.mem_flatMap.mp hrest
      exact ⟨c, eq_plain_of_mem_value hc hvalue⟩

theorem body_ne_nil (key value : String) :
    (lineTokens key value).dropWhile Token.isBlank ≠ [] := by
  intro hnil
  have hequals : Token.plain '=' ∈ lineTokens key value :=
    List.mem_append_right _ List.mem_cons_self
  exact absurd (List.dropWhile_eq_nil_iff.mp hnil _ hequals) (by decide)

/-- A name that is read as it was written. -/
def KeyKept (key : String) : Prop :=
  '\x0c' ∉ key.toList ∧ key.toList.head?.any Properties.isCommentMark = false

def isBareBlank (c : Char) : Bool := c == ' ' || c == '\x0c'

/-- A value that is read as it was written. -/
def ValueKept (value : String) : Prop := value.toList.head?.any isBareBlank = false

instance : Decidable (KeyKept key) := inferInstanceAs (Decidable (_ ∧ _))

instance : Decidable (ValueKept value) := inferInstanceAs (Decidable (_ = _))

def readValue (value : String) : String := String.ofList (value.toList.dropWhile isBareBlank)

/-- A value is read back exactly if it has no blank in front that is written bare. -/
theorem readValue_eq_self_iff : readValue value = value ↔ ValueKept value := by
  have hlist : readValue value = value ↔ value.toList.dropWhile isBareBlank = value.toList := by
    unfold readValue
    constructor
    · intro h
      simpa using congrArg String.toList h
    · intro h
      rw [h, String.ofList_toList]
  rw [hlist]
  unfold ValueKept
  cases value.toList with
  | nil => simp
  | cons c cs =>
    cases hc : isBareBlank c with
    | false => simp [hc]
    | true =>
      have hshort := List.length_dropWhile_le isBareBlank cs
      simp only [List.dropWhile_cons_of_pos hc, List.head?_cons, Option.any_some, hc,
        Bool.true_eq_false, iff_false]
      intro heq
      rw [heq, List.length_cons] at hshort
      omega

theorem endsName_tokensInKey {c : Char} (hc : c ≠ '\x0c') :
    ∀ t ∈ tokensInKey c, t.endsName = false := by
  intro t ht
  unfold tokensInKey at ht
  split at ht
  · rw [List.mem_singleton] at ht
    exact ht ▸ rfl
  · next hbare =>
    rw [not_or, not_or] at hbare
    rcases tokensInValue_cases c with ⟨d, htokens, -⟩ | ⟨-, htokens⟩ | ⟨htokens, -, -, -, htab, -⟩
    · rw [htokens, List.mem_singleton] at ht
      exact ht ▸ rfl
    · rw [htokens] at ht
      obtain ⟨n, -, rfl⟩ := List.mem_map.mp ht
      rfl
    · rw [htokens, List.mem_singleton] at ht
      subst ht
      simp [Token.endsName, Token.isBlank, Token.isSeparator, Properties.isBlank,
        Properties.isSeparator, hbare, htab, hc]

/-- Only bare blanks are read as blanks in a value. -/
theorem tokensInValue_head (c : Char) : ∃ t more, tokensInValue c = t :: more ∧
    t.isBlank = isBareBlank c ∧ (t.isBlank = true → more = []) := by
  rcases tokensInValue_cases c with
    ⟨d, htokens, h⟩ | ⟨hwide, htokens⟩ | ⟨htokens, -, -, -, htab, -⟩
  · refine ⟨_, _, htokens, ?_, fun h => nomatch h⟩
    rcases h with ⟨rfl, -⟩ | ⟨rfl, -⟩ | ⟨rfl, -⟩ | ⟨rfl, -⟩ <;> rfl
  · have hbare : isBareBlank c = false := by
      unfold isBareBlank
      rw [Bool.or_eq_false_iff, beq_eq_false_iff_ne, beq_eq_false_iff_ne]
      constructor <;> (rintro rfl; exact absurd hwide (by decide))
    cases hunits : units c with
    | nil => exact (units_ne_nil c hunits).elim
    | cons n more =>
      rw [hunits] at htokens
      exact ⟨_, _, htokens, hbare.symm, fun h => nomatch h⟩
  · refine ⟨_, _, htokens, ?_, fun _ => rfl⟩
    simp [Token.isBlank, Properties.isBlank, isBareBlank, beq_false_of_ne htab]

theorem dropWhile_tokensInValue (cs : List Char) :
    (cs.flatMap tokensInValue).dropWhile Token.isBlank =
      (cs.dropWhile isBareBlank).flatMap tokensInValue := by
  induction cs with
  | nil => rfl
  | cons c cs ih =>
    obtain ⟨t, more, htokens, hblank, hsingle⟩ := tokensInValue_head c
    rw [List.flatMap_cons, List.dropWhile_cons, htokens, List.cons_append, List.dropWhile_cons,
      hblank]
    cases hc : isBareBlank c with
    | true => rw [hsingle (hblank.trans hc), if_pos rfl, if_pos rfl, List.nil_append, ih]
    | false => simp [htokens]

theorem isCommentMark_tokensInKey (c : Char) (rest : List Token) :
    (tokensInKey c ++ rest).head?.any Token.isCommentMark = Properties.isCommentMark c := by
  unfold tokensInKey
  split
  · next h => rcases h with rfl | rfl | rfl <;> rfl
  · rcases tokensInValue_cases c with ⟨d, htokens, h⟩ | ⟨hwide, htokens⟩ | ⟨htokens, -⟩
    · rw [htokens]
      rcases h with ⟨rfl, rfl⟩ | ⟨rfl, rfl⟩ | ⟨rfl, rfl⟩ | ⟨rfl, rfl⟩ <;> rfl
    · have hmark : Properties.isCommentMark c = false := by
        unfold Properties.isCommentMark
        rw [Bool.or_eq_false_iff, beq_eq_false_iff_ne, beq_eq_false_iff_ne]
        constructor <;> (rintro rfl; exact absurd hwide (by decide))
      cases hunits : units c with
      | nil => exact (units_ne_nil c hunits).elim
      | cons n more => simp [htokens, hunits, hmark, Token.isCommentMark]
    · simp [htokens, Token.isCommentMark]

/-- A line is a comment if the name begins with the mark of one. -/
theorem isCommentMark_lineTokens (key value : String) :
    (lineTokens key value).head?.any Token.isCommentMark =
      key.toList.head?.any Properties.isCommentMark := by
  unfold lineTokens
  cases key.toList with
  | nil => rfl
  | cons c cs =>
    rw [List.flatMap_cons, List.append_assoc, isCommentMark_tokensInKey]
    rfl

/-- The line of a name that is kept sets it to its value without the blanks in front. -/
theorem setBy_lineTokens (hkey : KeyKept key) :
    setBy (lineTokens key value) = some (utf16 key, utf16 (readValue value)) := by
  have hstay : ∀ t ∈ key.toList.flatMap tokensInKey, t.endsName = false := by
    intro t ht
    obtain ⟨c, hc, hct⟩ := List.mem_flatMap.mp ht
    exact endsName_tokensInKey (fun heq => hkey.1 (heq ▸ hc)) t hct
  have hequals : Token.endsName (.plain '=') = true ∧ Token.isBlank (.plain '=') = false ∧
      Token.isSeparator (.plain '=') = true := by decide
  have hbody : (lineTokens key value).dropWhile Token.isBlank = lineTokens key value := by
    unfold lineTokens
    cases htokens : key.toList.flatMap tokensInKey with
    | nil => simp [hequals]
    | cons t ts =>
      have hblank : t.isBlank = false :=
        (Bool.or_eq_false_iff.mp (hstay t (by simp [htokens]))).1
      simp [hblank]
  have hname : (lineTokens key value).takeWhile (fun t => !t.endsName) =
      key.toList.flatMap tokensInKey := by
    rw [lineTokens, List.takeWhile_append_of_pos (by simpa using hstay)]
    simp [hequals]
  have hrest : (lineTokens key value).dropWhile (fun t => !t.endsName) =
      .plain '=' :: value.toList.flatMap tokensInValue := by
    rw [lineTokens, List.dropWhile_append_of_pos (by simpa using hstay)]
    simp [hequals]
  have hvalue : valueTokens (.plain '=' :: value.toList.flatMap tokensInValue) =
      (value.toList.dropWhile isBareBlank).flatMap tokensInValue := by
    simp [valueTokens, hequals, dropWhile_tokensInValue]
  have hcomment : ¬(lineTokens key value).head?.any Token.isCommentMark = true := by
    rw [isCommentMark_lineTokens, hkey.2]
    decide
  simp only [setBy, hbody, if_neg hcomment, meaning, hname, hrest, hvalue, List.map_flatMap,
    value_tokensInKey, value_tokensInValue, utf16, readValue, String.toList_ofList]

/-! ### Names that are not kept -/

section

variable {body : List Token} {other : String}

/-- The name on a line has no form feed, since a bare one ends it and none is escaped. -/
theorem feed_not_mem_of_name (hmem : ∀ t ∈ body, t ∈ lineTokens key value)
    (hname : (body.takeWhile fun t => !t.endsName).map Token.value = utf16 other) :
    '\x0c' ∉ other.toList := by
  intro hfeed
  have hunit : (0x0C : Nat) ∈ utf16 other := List.mem_flatMap.mpr ⟨'\x0c', hfeed, by decide⟩
  rw [← hname] at hunit
  obtain ⟨t, ht, hvalue⟩ := List.mem_map.mp hunit
  obtain ⟨c, rfl⟩ := eq_plain_of_mem_line (hmem t (List.takeWhile_subset _ ht)) (Or.inl hvalue)
  have hc : c = '\x0c' := Char.toNat_inj.mp hvalue
  subst hc
  exact absurd (List.mem_takeWhile_imp ht) (by decide)

/-- The name on a line that is no comment does not begin with the mark of one. -/
theorem head_of_name (hmem : ∀ t ∈ body, t ∈ lineTokens key value)
    (hname : (body.takeWhile fun t => !t.endsName).map Token.value = utf16 other)
    (hcomment : ¬body.head?.any Token.isCommentMark = true) :
    other.toList.head?.any Properties.isCommentMark = false := by
  cases hlist : other.toList with
  | nil => rfl
  | cons c cs =>
    by_contra hmark
    have hc : c = '#' ∨ c = '!' := by
      simpa [Properties.isCommentMark, or_iff_not_imp_left] using hmark
    have hunits : units c = [c.toNat] := by rcases hc with rfl | rfl <;> rfl
    rw [utf16, hlist, List.flatMap_cons, hunits, List.singleton_append] at hname
    cases hfirst : body with
    | nil => simp [hfirst] at hname
    | cons t ts =>
      have hvalue : t.value = c.toNat := by
        rw [hfirst, List.takeWhile_cons] at hname
        split at hname
        · exact (List.cons.inj hname).1
        · cases hname
      obtain ⟨d, rfl⟩ := eq_plain_of_mem_line (hmem t (by simp [hfirst]))
        (by rw [hvalue]; rcases hc with rfl | rfl <;> simp [IsDelicate])
      have hd : d = c := Char.toNat_inj.mp hvalue
      subst hd
      exact hcomment (by simpa [hfirst, Token.isCommentMark] using hmark)

/-- No line sets a name that is not kept. -/
theorem ne_of_setBy {name text : Units} (h : setBy (lineTokens key value) = some (name, text))
    (hother : ¬KeyKept other) : name ≠ utf16 other := by
  rintro rfl
  simp only [setBy] at h
  split at h
  · cases h
  · next hcomment =>
    have hmem : ∀ t ∈ (lineTokens key value).dropWhile Token.isBlank, t ∈ lineTokens key value :=
      fun t ht => List.dropWhile_subset _ ht
    have hname := congrArg Prod.fst (Option.some.inj h)
    exact hother ⟨feed_not_mem_of_name hmem hname, head_of_name hmem hname hcomment⟩

end

/-! ## The whole file -/

/-- The properties say what a mapping says: each name that one of them has, the other has with the
same value. -/
def Says (properties : List (Units × Units)) (values : Values) : Prop :=
  ∀ name text, Properties.get? properties name = some text ↔
    ∃ key value, values.get? key = some value ∧ utf16 key = name ∧ utf16 value = text

def versionName : String := "eclipse.preferences.version"

def filePairs (settings : Settings) : List (String × String) :=
  (versionName, "1") :: settings.values.sorted

theorem characters_eq (settings : Settings) : characters settings =
    ((filePairs settings).map fun pair => lineTokens pair.1 pair.2).flatMap
      fun ts => ts.flatMap Token.text ++ ['\n'] := by
  have hheading : heading = line versionName "1" := by decide
  rw [characters, hheading, filePairs, List.map_cons, List.flatMap_cons, List.flatMap_map,
    text_lineTokens]
  simp only [text_lineTokens]

/-- No character of a file takes more than one byte. -/
theorem toNat_characters (settings : Settings) : ∀ c ∈ characters settings, c.toNat ≤ 0xFF := by
  intro c hc
  rcases List.mem_append.mp hc with hheading | hlines
  · exact toNat_of_all (by decide) c hheading
  · obtain ⟨pair, -, hline⟩ := List.mem_flatMap.mp hlines
    simp only [line, List.mem_append, List.mem_cons, List.not_mem_nil, or_false,
      List.mem_flatMap] at hline
    rcases hline with (⟨d, -, hd⟩ | rfl | ⟨d, -, hd⟩) | rfl
    · exact toNat_escapeInKey d c hd
    · decide
    · exact toNat_escapeInValue d c hd
    · decide

theorem ofBytes_bytes (settings : Settings) :
    Properties.ofBytes (bytes settings) = characters settings := by
  unfold Properties.ofBytes bytes
  rw [List.map_map]
  refine (List.map_congr_left fun c hc => ?_).trans (List.map_id _)
  have hsmall := toNat_characters settings c hc
  simp [Nat.mod_eq_of_lt (Nat.lt_succ_of_le hsmall)]

/-- A preference file is always read, line by line. -/
theorem read?_bytes (settings : Settings) : Properties.read? (bytes settings) =
    some ((filePairs settings).filterMap fun pair => setBy (lineTokens pair.1 pair.2)) := by
  rw [Properties.read?, ofBytes_bytes, characters_eq, Properties.properties_text,
    List.filterMap_map]
  · rfl
  · intro ts hts
    obtain ⟨pair, -, rfl⟩ := List.mem_map.mp hts
    exact isSound_lineTokens _ _
  · intro ts hts
    obtain ⟨pair, -, rfl⟩ := List.mem_map.mp hts
    exact body_ne_nil _ _

/-! ## The mapping -/

variable {pairs : List (String × String)}

/-- Where the last value of a name counts, a file gives what the settings give, and the version. -/
theorem lookup_filePairs (h : (settings.values.map Prod.fst).Nodup) (key : String) :
    (filePairs settings).reverse.lookup key =
      (settings.values.putMissing versionName "1").get? key := by
  have hperm : settings.values.sorted.reverse.Perm settings.values :=
    (List.reverse_perm _).trans (List.mergeSort_perm _ _)
  have hsorted : settings.values.sorted.reverse.lookup key = settings.values.lookup key := by
    have hnodup : (settings.values.sorted.reverse.map Prod.fst).Nodup :=
      (hperm.map Prod.fst).nodup_iff.mpr h
    refine Option.ext fun value => ?_
    rw [lookup_eq_some_iff_mem hnodup, lookup_eq_some_iff_mem h, hperm.mem_iff]
  rw [filePairs, List.reverse_cons, List.lookup_append, hsorted]
  unfold Values.putMissing Values.get?
  split
  · next hsome =>
    by_cases hkey : key = versionName
    · obtain ⟨value, hvalue⟩ := Option.isSome_iff_exists.mp hsome
      simp [hkey, hvalue]
    · simp [List.lookup_cons, beq_false_of_ne hkey]
  · rw [List.lookup_append]

/-- A look-up by the code units of a key is a look-up by the key, since no two texts have the same
code units. -/
theorem lookup_map_utf16 (name text : Units) :
    (pairs.map fun pair => (utf16 pair.1, utf16 (readValue pair.2))).lookup name = some text ↔
      ∃ key value, pairs.lookup key = some value ∧ utf16 key = name ∧
        utf16 (readValue value) = text := by
  induction pairs with
  | nil => simp
  | cons pair pairs ih =>
    obtain ⟨k, v⟩ := pair
    rw [List.map_cons, List.lookup_cons]
    by_cases heq : name = utf16 k
    · subst heq
      simp only [beq_self_eq_true]
      constructor
      · intro h
        exact ⟨k, v, by simp, rfl, Option.some.inj h⟩
      · rintro ⟨key, value, hlookup, hname, htext⟩
        have hk : key = k := utf16_injective hname
        subst hk
        have hv : v = value := by simpa using hlookup
        rw [hv, htext]
    · simp only [beq_false_of_ne heq, ih]
      refine exists_congr fun key => exists_congr fun value => ?_
      refine and_congr_left fun h => ?_
      have hk : key ≠ k := fun hk => heq (hk ▸ h.1.symm)
      rw [List.lookup_cons, beq_false_of_ne hk]

/-- What a file says whose names are all kept. -/
theorem get?_of_keyKept (hkeys : (settings.values.map Prod.fst).Nodup)
    (hkept : ∀ pair ∈ settings.values, KeyKept pair.1) (name text : Units) :
    Properties.get? ((filePairs settings).filterMap fun pair => setBy (lineTokens pair.1 pair.2))
        name = some text ↔
      ∃ key value, (settings.values.putMissing versionName "1").get? key = some value ∧
        utf16 key = name ∧ utf16 (readValue value) = text := by
  have hall : ∀ pair ∈ filePairs settings, KeyKept pair.1 := by
    intro pair hpair
    rcases List.mem_cons.mp hpair with rfl | hpair
    · exact ⟨by decide, by decide⟩
    · exact hkept pair (List.mem_mergeSort.mp hpair)
  have hlines : (filePairs settings).filterMap (fun pair => setBy (lineTokens pair.1 pair.2)) =
      (filePairs settings).map fun pair => (utf16 pair.1, utf16 (readValue pair.2)) := by
    rw [← List.filterMap_eq_map]
    exact List.filterMap_congr fun pair hpair => setBy_lineTokens (hall pair hpair)
  rw [Properties.get?, hlines, ← List.map_reverse, lookup_map_utf16]
  simp only [lookup_filePairs hkeys]

theorem get?_putMissing {values : Values} (hkeys : (values.map Prod.fst).Nodup)
    {pair : String × String} (h : pair ∈ values) (other text : String) :
    (values.putMissing other text).get? pair.1 = some pair.2 := by
  have hget : values.lookup pair.1 = some pair.2 := (lookup_eq_some_iff_mem hkeys).mpr h
  unfold Values.putMissing Values.get?
  split
  · exact hget
  · simp [List.lookup_append, hget]

theorem mem_of_get?_putMissing {values : Values} {other text : String}
    (hkeys : (values.map Prod.fst).Nodup)
    (h : (values.putMissing other text).get? key = some value) :
    (key, value) ∈ values ∨ (key, value) = (other, text) := by
  unfold Values.putMissing Values.get? at h
  split at h
  · exact Or.inl ((lookup_eq_some_iff_mem hkeys).mp h)
  · rw [List.lookup_append, Option.or_eq_some_iff] at h
    rcases h with h | ⟨-, h⟩
    · exact Or.inl ((lookup_eq_some_iff_mem hkeys).mp h)
    · exact Or.inr (by simpa using (lookup_eq_some_iff_mem (by simp)).mp h)

/-- If all keys are read back, the files say what the settings say exactly if all values are read
back too. -/
theorem says_iff_of_keyKept (hkeys : (settings.values.map Prod.fst).Nodup)
    (hkept : ∀ pair ∈ settings.values, KeyKept pair.1) :
    Says ((filePairs settings).filterMap fun pair => setBy (lineTokens pair.1 pair.2))
        (settings.values.putMissing versionName "1") ↔
      ∀ pair ∈ settings.values, ValueKept pair.2 := by
  constructor
  · intro hall pair hpair
    have hget := get?_putMissing hkeys hpair versionName "1"
    have hread := (hall _ _).mpr ⟨pair.1, pair.2, hget, rfl, rfl⟩
    obtain ⟨key, value, hvalue, hname, htext⟩ := (get?_of_keyKept hkeys hkept _ _).mp hread
    rw [utf16_injective hname, hget] at hvalue
    cases hvalue
    exact readValue_eq_self_iff.mp (utf16_injective htext)
  · intro hvalues name text
    rw [get?_of_keyKept hkeys hkept]
    refine exists_congr fun key => exists_congr fun value => ?_
    refine and_congr_right fun hget => ?_
    have hself : readValue value = value := by
      refine readValue_eq_self_iff.mpr ?_
      rcases mem_of_get?_putMissing hkeys hget with hmem | heq
      · exact hvalues _ hmem
      · cases heq
        unfold ValueKept
        decide
    rw [hself]

/-- A key that is not read back is missing from what the files say. -/
theorem not_says_of_not_keyKept (hkeys : (settings.values.map Prod.fst).Nodup)
    {pair : String × String} (hpair : pair ∈ settings.values) (hbad : ¬KeyKept pair.1) :
    ¬Says ((filePairs settings).filterMap fun pair => setBy (lineTokens pair.1 pair.2))
        (settings.values.putMissing versionName "1") := by
  intro hall
  have hget := get?_putMissing hkeys hpair versionName "1"
  have hread := (hall _ _).mpr ⟨pair.1, pair.2, hget, rfl, rfl⟩
  obtain ⟨front, back, hlines, -⟩ := List.lookup_eq_some_iff.mp hread
  have hmem : (utf16 pair.1, utf16 pair.2) ∈ (filePairs settings).filterMap
      fun pair => setBy (lineTokens pair.1 pair.2) := by
    rw [← List.mem_reverse, hlines]
    simp
  obtain ⟨line, -, hset⟩ := List.mem_filterMap.mp hmem
  exact ne_of_setBy hset hbad rfl

/-- A preference file can always be read. It says what the settings say, and the version where they
do not set it, exactly if all names and values are of the kind that is kept. -/
theorem read_back_iff (settings : Settings) (hkeys : (settings.values.map Prod.fst).Nodup) :
    ∃ properties, Properties.read? (bytes settings) = some properties ∧
      (Says properties (settings.values.putMissing "eclipse.preferences.version" "1") ↔
        ∀ pair ∈ settings.values, KeyKept pair.1 ∧ ValueKept pair.2) := by
  refine ⟨_, read?_bytes settings, ?_⟩
  change Says _ (settings.values.putMissing versionName "1") ↔ _
  by_cases hbad : ∃ pair ∈ settings.values, ¬KeyKept pair.1
  · obtain ⟨pair, hpair, hnot⟩ := hbad
    refine iff_of_false (not_says_of_not_keyKept hkeys hpair hnot) fun hall => ?_
    exact hnot (hall pair hpair).1
  · have hkept : ∀ pair ∈ settings.values, KeyKept pair.1 :=
      fun pair hpair => Classical.not_not.mp fun hnot => hbad ⟨pair, hpair, hnot⟩
    rw [says_iff_of_keyKept hkeys hkept]
    exact forall₂_congr fun pair hpair => (and_iff_right (hkept pair hpair)).symm

/-- Separators, ends of lines and wide characters do no harm, nor does a version of one's own. -/
theorem read_back_of_separators :
    let settings : Settings := ⟨[("b:c =", "=\n#\\ é€𝕏"), (versionName, "2")], none⟩
    (settings.values.map Prod.fst).Nodup ∧
      ∃ properties, Properties.read? (bytes settings) = some properties ∧
        Says properties (settings.values.putMissing "eclipse.preferences.version" "1") := by
  have hkeys : ([("b:c =", "=\n#\\ é€𝕏"), (versionName, "2")].map Prod.fst).Nodup := by decide
  obtain ⟨properties, hread, hall⟩ :=
    read_back_iff ⟨[("b:c =", "=\n#\\ é€𝕏"), (versionName, "2")], none⟩ hkeys
  exact ⟨hkeys, properties, hread, hall.mpr (by decide)⟩

/-- A value that begins with a space is read without it. -/
theorem read_back_drops_space :
    let settings : Settings := ⟨[("a", " b")], none⟩
    ∃ properties, Properties.read? (bytes settings) = some properties ∧
      Properties.get? properties (utf16 "a") = some (utf16 "b") ∧
      ¬Says properties (settings.values.putMissing "eclipse.preferences.version" "1") := by
  have hkeys : ([("a", " b")].map Prod.fst).Nodup := by decide
  have hkept : ∀ pair ∈ [("a", " b")], KeyKept pair.1 := by decide
  refine ⟨_, read?_bytes ⟨[("a", " b")], none⟩, ?_, ?_⟩
  · exact (get?_of_keyKept hkeys hkept _ _).mpr ⟨"a", " b", by decide, rfl, by decide⟩
  · intro hall
    exact absurd ((says_iff_of_keyKept hkeys hkept).mp hall) (by decide)

end BatchFormat.Prefs
