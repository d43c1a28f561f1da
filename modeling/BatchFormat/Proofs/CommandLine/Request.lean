import Mathlib.Data.List.TakeDrop
import Mathlib.Logic.Function.Basic
import BatchFormat.CommandLine.Help

/-!
# Requests on the command line

A request for a run can be written as arguments, one for each setting with its value joined to it
and one for each flag, with the target behind the mark. Whatever the values look like, and in
whatever order the arguments come, the request is read as it was written.
-/
namespace BatchFormat.CommandLine

inductive Setting where
  | config | extension | provider | eclipse | formatterCommand | logFile
  deriving DecidableEq, Repr

inductive Flag where
  | dryRun | recursive | verbose | debug
  deriving DecidableEq, Repr

/-- A text that can be given: any but the mark itself. -/
abbrev Given := { text : String // text ≠ "--" }

namespace Setting

def all : List Setting := [config, extension, provider, eclipse, formatterCommand, logFile]

def text : Setting → String
  | config => "--config"
  | extension => "--extension"
  | provider => "--provider"
  | eclipse => "--eclipse"
  | formatterCommand => "--formatter-command"
  | logFile => "--log-file"

def switch : Setting → Switch
  | config => .config
  | extension => .extension
  | provider => .provider
  | eclipse => .eclipse
  | formatterCommand => .formatterCommand
  | logFile => .logFile

theorem mem_all (s : Setting) : s ∈ all := by cases s <;> decide

end Setting

namespace Flag

def all : List Flag := [dryRun, recursive, verbose, debug]

def texts : Flag → List String
  | dryRun => ["--dry-run", "-d"]
  | recursive => ["--recursive", "-r"]
  | verbose => ["--verbose", "-v"]
  | debug => ["--debug"]

abbrev Spelling (f : Flag) := { text : String // text ∈ f.texts }

def switch : Flag → Switch
  | dryRun => .dryRun
  | recursive => .recursive
  | verbose => .verbose
  | debug => .debug

theorem mem_all (f : Flag) : f ∈ all := by cases f <;> decide

end Flag

/-- An argument that says all by itself. -/
inductive Word where
  | setting (s : Setting) (value : Given)
  | flag (f : Flag) (text : f.Spelling)

def Word.text : Word → String
  | setting s value => s.text ++ "=" ++ value
  | flag _ text => text

/-- What was chosen, however it was written. -/
@[ext] structure Choices where
  setting? : Setting → Option String
  flag : Flag → Bool

namespace Choices

def empty : Choices := ⟨fun _ => none, fun _ => false⟩

/-- The run that is asked for. What is not given has its standard value. -/
def invocation (c : Choices) (target : Path) : Invocation where
  target := target
  profile := .ofString ((c.setting? .config).getD Invocation.standardProfile)
  dryRun := c.flag .dryRun
  recursive := c.flag .recursive
  extension := (c.setting? .extension).getD defaultExtension
  provider := (c.setting? .provider).getD Eclipse.name
  eclipse? := c.setting? .eclipse
  formatterCommand? := c.setting? .formatterCommand
  limit := Command.standardLimit
  verbose := c.flag .verbose
  debug := c.flag .debug
  logFile? := c.setting? .logFile

def put (c : Choices) : Word → Choices
  | .setting s value => { c with setting? := Function.update c.setting? s (some value.val) }
  | .flag f _ => { c with flag := Function.update c.flag f true }

/-- How far the reading has come when these choices were read. -/
def state (c : Choices) : State := ⟨c.invocation (.ofString ""), false, true, none, []⟩

end Choices

/-- A target, settings with their values, and flags, each with the text that it is written by. -/
structure Request where
  target : Given
  setting? : Setting → Option Given
  flag? : (f : Flag) → Option f.Spelling

namespace Request

def words (r : Request) : List Word :=
  (Setting.all.filterMap fun s => (r.setting? s).map (.setting s)) ++
    Flag.all.filterMap fun f => (r.flag? f).map (.flag f)

def choices (r : Request) : Choices where
  setting? := fun s => (r.setting? s).map Subtype.val
  flag := fun f => (r.flag? f).isSome

theorem setting_mem_words_iff {r : Request} {s : Setting} {value : Given} :
    .setting s value ∈ r.words ↔ r.setting? s = some value := by
  simp [words, Setting.mem_all]

theorem flag_mem_words_iff {r : Request} {f : Flag} {text : f.Spelling} :
    .flag f text ∈ r.words ↔ r.flag? f = some text := by
  simp only [words, List.mem_append, List.mem_filterMap, Option.map_eq_some_iff]
  constructor
  · rintro (⟨s, -, value, -, h⟩ | ⟨g, -, written, hg, h⟩)
    · cases h
    · cases h
      exact hg
  · exact fun h => Or.inr ⟨f, f.mem_all, text, h, rfl⟩

end Request

/-! ## What the words are -/

namespace Token

/-- A text with an equals sign is divided at the first one. -/
theorem divide_joined {front : String} (h : '=' ∉ front.toList) (back : String) :
    divide (front ++ "=" ++ back) = (front, some back) := by
  have hfront : ∀ c ∈ front.toList, (c != '=') = true := by
    intro c hc
    rw [bne_iff_ne]
    rintro rfl
    exact h hc
  have hspan : (front.toList ++ '=' :: back.toList).span (· != '=') =
      (front.toList, '=' :: back.toList) := by
    rw [List.span_eq_takeWhile_dropWhile, List.takeWhile_append_of_pos hfront,
      List.dropWhile_append_of_pos hfront]
    simp
  have htext : (front ++ "=" ++ back).toList = front.toList ++ '=' :: back.toList := by simp
  rw [divide, htext, hspan]
  simp

/-- No spelling has an equals sign. -/
theorem lookup_joined (front back : String) : spellings.lookup (front ++ "=" ++ back) = none := by
  have hplain : ∀ e ∈ spellings, '=' ∉ e.1.toList := by decide
  refine List.lookup_eq_none_iff.mpr fun e he => ?_
  rw [bne_iff_ne]
  intro heq
  refine hplain e he ?_
  rw [← heq]
  simp

theorem spelled?_joined {front : String} {s : Switch} (hequals : '=' ∉ front.toList)
    (hfront : spellings.lookup front = some s) (back : String) :
    spelled? (front ++ "=" ++ back) =
      some (switch s (isLongText (front ++ "=" ++ back)) (some back)) := by
  simp [spelled?, lookup_joined, divide_joined hequals, hfront]

/-- A spelling that is no plain dash is a switch, whatever stands behind it. -/
theorem ofText_of_spelled? {text : String} {token : Token} {c : Char} {rest : List Char}
    (htext : text.toList = '-' :: c :: rest) (h : spelled? text = some token) :
    ofText text = .ok token := by
  simp [ofText, htext, h]

theorem ofText_setting (s : Setting) (value : String) :
    ofText (s.text ++ "=" ++ value) = .ok (switch s.switch true (some value)) := by
  have hequals : '=' ∉ s.text.toList := by cases s <;> decide
  have hlookup : spellings.lookup s.text = some s.switch := by cases s <;> decide
  obtain ⟨c, rest, hdashes⟩ : ∃ c rest, s.text.toList = '-' :: '-' :: c :: rest := by
    cases s <;> exact ⟨_, _, rfl⟩
  have hlong : isLongText (s.text ++ "=" ++ value) = true := by
    simp [isLongText, hdashes]
  refine ofText_of_spelled? (c := '-') (by simp [hdashes]; rfl) ?_
  rw [spelled?_joined hequals hlookup, hlong]

theorem ofText_flag (f : Flag) : ∀ text ∈ f.texts,
    ofText text = .ok (switch f.switch (isLongText text) none) := by
  cases f <;> decide

end Token

/-! ## Reading the words -/

def Word.token : Word → Token
  | setting s value => .switch s.switch true (some value)
  | flag f text => .switch f.switch (Token.isLongText text) none

theorem Word.ofText (w : Word) : Token.ofText w.text = .ok w.token := by
  cases w with
  | setting s value => exact Token.ofText_setting s value
  | flag f text => exact Token.ofText_flag f text text.property

/-- The mark is no switch, since all long ones would match it. -/
theorem Word.text_ne_marker (w : Word) : w.text ≠ Token.markerText := by
  have hmarker : (Token.ofText Token.markerText).isOk = false := by decide
  intro heq
  rw [← heq, w.ofText] at hmarker
  cases hmarker

theorem ofArguments_words (words : List Word) (target : String) :
    Token.ofArguments (words.map Word.text ++ [Token.markerText, target]) =
      .ok (words.map Word.token ++ [.marker, .plain target]) := by
  induction words with
  | nil => simp [Token.ofArguments]
  | cons w words ih =>
    simp only [List.map_cons, List.cons_append, Token.ofArguments, if_neg w.text_ne_marker,
      w.ofText, ih]
    rfl

/-- A word adds its choice to those that were read. -/
theorem run_word (w : Word) (c : Choices) (rest : List Token) :
    run (w.token :: rest) c.state = run rest (c.put w).state := by
  cases w with
  | setting s value => cases s <;> rfl
  | flag f text => cases f <;> rfl

theorem run_words (words : List Word) (c : Choices) (rest : List Token) :
    run (words.map Word.token ++ rest) c.state = run rest (words.foldl Choices.put c).state := by
  induction words generalizing c with
  | nil => rfl
  | cons w words ih => exact (run_word w c _).trans (ih (c.put w))

theorem parse_words (words : List Word) (target : String) :
    parse (words.map Word.text ++ [Token.markerText, target]) =
      .run ((words.foldl Choices.put .empty).invocation (.ofString target)) := by
  have hstart : State.start = Choices.empty.state := rfl
  unfold parse
  rw [ofArguments_words]
  simp only [hstart, run_words]
  rfl

/-! ## The choices that are read -/

namespace Request

variable {r : Request} {words : List Word} {s : Setting} {f : Flag}

/-- A setting has the value of its words, if all of them have the same. -/
theorem setting?_foldl_put {value? : Option String} (c : Choices)
    (hsame : ∀ value, .setting s value ∈ words → value? = some value.val)
    (hgiven : (∃ value, .setting s value ∈ words) ∨ c.setting? s = value?) :
    (words.foldl Choices.put c).setting? s = value? := by
  induction words generalizing c with
  | nil => simpa using hgiven
  | cons w words ih =>
    refine ih (c.put w) (fun value hvalue => hsame value (List.mem_cons_of_mem _ hvalue)) ?_
    by_cases hw : ∃ value, w = .setting s value
    · obtain ⟨value, rfl⟩ := hw
      right
      simp [Choices.put, hsame value List.mem_cons_self]
    · have hkept : (c.put w).setting? s = c.setting? s := by
        cases w with
        | setting other value =>
          have hne : s ≠ other := fun heq => hw ⟨value, heq ▸ rfl⟩
          simp [Choices.put, hne]
        | flag f text => rfl
      rw [hkept]
      refine hgiven.imp_left fun ⟨value, hvalue⟩ => ⟨value, ?_⟩
      exact (List.mem_cons.mp hvalue).resolve_left fun heq => hw ⟨value, heq.symm⟩

/-- A flag is on if there is a word for it. -/
theorem flag_foldl_put (c : Choices) :
    (words.foldl Choices.put c).flag f = true ↔
      (∃ text, .flag f text ∈ words) ∨ c.flag f = true := by
  induction words generalizing c with
  | nil => simp
  | cons w words ih =>
    rw [List.foldl_cons, ih]
    cases w with
    | setting s value => simp [Choices.put]
    | flag other text =>
      by_cases heq : f = other
      · subst heq
        simp [Choices.put]
      · have hnot : ∀ written, Word.flag f written ≠ .flag other text := fun _ h => by
          cases h
          exact heq rfl
        simp [Choices.put, heq, hnot]

/-- In whatever order the words of a request come, its choices are read. -/
theorem foldl_put_eq_choices (h : words.Perm r.words) :
    words.foldl Choices.put .empty = r.choices := by
  have hsettings : (words.foldl Choices.put .empty).setting? = r.choices.setting? := by
    funext s
    refine setting?_foldl_put .empty (fun value hvalue => ?_) ?_
    · simp [choices, setting_mem_words_iff.mp (h.mem_iff.mp hvalue)]
    · cases hgiven : r.setting? s with
      | none => exact Or.inr (by simp [choices, Choices.empty, hgiven])
      | some value => exact Or.inl ⟨value, h.mem_iff.mpr (setting_mem_words_iff.mpr hgiven)⟩
  have hflags : (words.foldl Choices.put .empty).flag = r.choices.flag := by
    funext f
    rw [Bool.eq_iff_iff, flag_foldl_put]
    simp only [h.mem_iff, flag_mem_words_iff, Choices.empty, Bool.false_eq_true, or_false]
    exact Option.isSome_iff_exists.symm
  exact Choices.ext hsettings hflags

end Request

/-- Every request is read back from its words, in whatever order they come before the mark and the
target: each setting has the value that was joined to it, whatever that looks like, or its standard
value if it is not given, exactly the flags are on that were written, and the limit is the standard
one. -/
theorem gather_words (registry : Registry) (r : Request) (words : List Word)
    (h : words.Perm r.words) :
    gather registry (words.map Word.text ++ ["--", r.target.val]) =
      .run (r.choices.invocation (.ofString r.target.val)) := by
  have hparse : parse (words.map Word.text ++ ["--", r.target.val]) =
      .run (r.choices.invocation (.ofString r.target.val)) := by
    rw [← Request.foldl_put_eq_choices h]
    exact parse_words words r.target.val
  simp only [gather, hparse]

def lookalikes : Request where
  target := ⟨"-r", by decide⟩
  setting? := fun
    | .config => some ⟨"--log-file=a b", by decide⟩
    | .extension => some ⟨"", by decide⟩
    | .provider => some ⟨"-v", by decide⟩
    | .formatterCommand => some ⟨"=", by decide⟩
    | .eclipse | .logFile => none
  flag? := fun
    | .dryRun => some ⟨"-d", by decide⟩
    | .debug => some ⟨"--debug", by decide⟩
    | .recursive | .verbose => none

/-- They are read as what they were given for, here from the last word to the first. -/
theorem gather_words_of_lookalikes :
    lookalikes.words.reverse.Perm lookalikes.words ∧
      gather .builtIn ["--debug", "-d", "--formatter-command==", "--provider=-v", "--extension=",
        "--config=--log-file=a b", "--", "-r"] =
        .run { Invocation.ofTarget ⟨.relative, ["-r"]⟩ with
          profile := ⟨.relative, ["--log-file=a b"]⟩
          extension := ""
          provider := "-v"
          formatterCommand? := some "="
          dryRun := true
          debug := true } := by
  have hperm := List.reverse_perm lookalikes.words
  refine ⟨hperm, ?_⟩
  exact gather_words .builtIn lookalikes _ hperm

end BatchFormat.CommandLine
