import BatchFormat.Shell.Tool.Print.Conversion

/-!
# Printing tools

`echo` prints its words, `printf` fills them into a format. Both exist twice: inside the shell and
as programs.
-/
namespace BatchFormat.Shell.Print

def spaced (words : List Octets) : Octets := [' '].intercalate words

/-- The options of the outer `echo`: whether a line end follows, and whether escapes are read. -/
def echoOptions : List Octets → Bool × Bool × List Octets
  | ('-' :: letter :: letters) :: words =>
    if (letter :: letters).all "neE".toList.contains then
      let (ends, escapes, rest) := echoOptions words
      let last := ((letter :: letters).reverse.find? (· != 'n')).map (· == 'e')
      (ends && !(letter :: letters).contains 'n',
        escapes || last.getD false, rest)
    else (true, false, ('-' :: letter :: letters) :: words)
  | words => (true, false, words)

def echo (form : Form) : Tool := fun c =>
  let (ends, escapes, words) :=
    match form with
    | .outer => echoOptions c.arguments
    | .inner =>
      if c.arguments.head? = some ['-', 'n'] then (false, true, c.arguments.drop 1)
      else (true, true, c.arguments)
  let text := spaced words
  let (text, end?) := if escapes then unescape form .plain text.length text else (text, none)
  c.idle.print (if ends && end?.isNone then text ++ ['\n'] else text)

/-- The state of a format that is being filled: what was printed and remarked, the latest last, the
words that are left, whether any was taken, the status, and whether all ends here. -/
structure State where
  out : List Octets
  words : List Octets
  remarks : List String
  took : Bool
  status : Nat
  stopped : Bool

namespace State

def put (s : State) (cs : Octets) : State := { s with out := cs :: s.out }

/-- The next word, or nothing once all are taken. -/
def next (s : State) : Octets × State :=
  (s.words.head?.getD [], { s with words := s.words.drop 1, took := true })

/-- Remarks on a word that is no number. -/
def blame (form : Form) (word : Octets) (flaw? : Option NumberFlaw) (s : State) : State :=
  match flaw? with
  | none => s
  | some flaw =>
    { s with remarks := s.remarks ++ [flaw.remark form word]
             status := if flaw.isMild then s.status else 1 }

def giveUp (form : Form) (remark : String) (s : State) : State :=
  { s with remarks := s.remarks ++ [remark], stopped := true
           status := match form with | .inner => 2 | .outer => 1 }

def nextWhole (form : Form) (isSigned : Bool) (s : State) : Int × State :=
  let (word, s) := s.next
  let (value, flaw?) := wholeOf form isSigned word
  (value, s.blame form word flaw?)

/-- Prints a text with its escapes read, up to one that ends everything. -/
def putUnescaped (form : Form) (shape : Shape) (word : Octets) (s : State) : State :=
  let (text, end?) := unescape form .word (word.length + 1) word
  let s := s.put (shape.text text)
  match end? with
  | none => s
  | some (.faulty remark) => s.giveUp form remark
  | some _ => { s with stopped := true, status := if form = .outer then 0 else s.status }

end State

def convert (form : Form) (shape : Shape) (kind : Char) (s : State) : State :=
  let natural (base : Nat) (isUpper : Bool) : State :=
    let (value, s) := s.nextWhole form false
    s.put (shape.natural base isUpper value.toNat)
  match kind with
  | 's' =>
    let (word, s) := s.next
    s.put (shape.text word)
  | 'b' =>
    let (word, s) := s.next
    s.putUnescaped form shape word
  | 'c' =>
    let (word, s) := s.next
    s.put (shape.fill [word.head?.getD '\x00'])
  | 'd' | 'i' =>
    let (value, s) := s.nextWhole form true
    s.put (shape.signed value)
  | 'u' => natural 10 false
  | 'o' => natural 8 false
  | 'x' => natural 16 false
  | 'X' => natural 16 true
  | letter =>
    let (word, s) := s.next
    let (b, negative, flaw?) := realOf form word
    (s.blame form word flaw?).put (shape.real form.grid (some negative) letter b)

/-- The conversions that flags and a precision leave. -/
def allowed (form : Form) (flags : Octets) (hasPrecision : Bool) : Octets :=
  match form with
  | .inner => "bcdiosuxXaAeEfFgG".toList
  | .outer =>
    let barred (flag : Char) (kinds : String) : Octets :=
      if flags.contains flag then kinds.toList else []
    let lost := barred '\'' "aAceEosxX" ++ barred 'I' "aAceEosxX" ++ barred '#' "cdisu"
      ++ barred '0' "cs" ++ (if hasPrecision then ['c'] else [])
    "cdiosuxXaAeEfFgG".toList.filter fun kind => !lost.contains kind

def widest : Nat := twoTo 31 - 1

/-- A number in a format, or the next word for a star. -/
def measure (form : Form) (cs : Octets) (s : State) : Option Int × Octets × Option Octets × State :=
  match cs with
  | '*' :: rest =>
    if s.words = [] then (some 0, rest, none, { s with took := true })
    else
      let word := s.words.head?.getD []
      let (value, s) := s.nextWhole form true
      (some value, rest, some word, s)
  | _ =>
    let (digits, rest) := cs.span Char.isDigit
    ((String.ofList digits).toNat?.map Int.ofNat, rest, none, s)

/-- Reads a conversion behind its sign and writes what it asks for. -/
def directive (form : Form) (cs : Octets) (s : State) : Octets × State :=
  let flagSigns := match form with | .inner => "-0+ #" | .outer => "-0+ #'I"
  let (flags, rest) := cs.span flagSigns.toList.contains
  let (width?, rest, givenWidth?, s) := measure form rest s
  let (precision?, rest, givenPrecision?, s) : Option Int × Octets × Option Octets × State :=
    match rest with
    | '.' :: rest =>
      let (p?, rest, given?, s) := measure form rest s
      (some (p?.getD 0), rest, given?, s)
    | _ => (none, rest, none, s)
  let width := width?.getD 0
  let shape : Shape :=
    ⟨flags.contains '-' || width < 0, flags.contains '0', flags.contains '+', flags.contains ' ',
      flags.contains '#', width.natAbs,
      precision?.bind fun p => if p < 0 then none else some p.toNat⟩
  let rest := if form = .outer then rest.dropWhile "hlLjzt".toList.contains else rest
  let written (rest : Octets) : String := Octets.text ('%' :: cs.take (cs.length - rest.length))
  let isWide := width.natAbs > widest ∨ (shape.precision?.getD 0) > widest
  match rest, givenWidth?, givenPrecision? with
  | [], _, _ =>
    (([] : Octets), match form with
      | .inner => s.giveUp form "missing format character"
      | .outer => s.giveUp form s!"{written []}: invalid conversion specification")
  | kind :: rest, givenWidth?, givenPrecision? =>
    if form = .outer ∧ width.natAbs > widest ∧ givenWidth?.isSome then
      ([], s.giveUp form s!"invalid field width: {inCurlyQuotes (givenWidth?.getD [])}")
    else if form = .outer ∧ isWide ∧ givenPrecision?.isSome then
      ([], s.giveUp form s!"invalid precision: {inCurlyQuotes (givenPrecision?.getD [])}")
    else if !(allowed form flags precision?.isSome).contains kind then
      ([], s.giveUp form
        (match form with
        | .inner => s!"{written rest}: invalid directive"
        | .outer => s!"{written rest}: invalid conversion specification"))
    else if isWide then
      ([], s.giveUp form (match form with | .inner => "xvsnprintf failed" | .outer => "write error"))
    else (rest, convert form shape kind s)

/-- A shape that asks for nothing. -/
def Shape.bare : Shape := ⟨false, false, false, false, false, 0, none⟩

def pass (form : Form) : Nat → Octets → State → State
  | 0, _, s | _, [], s => s
  | n + 1, c :: rest, s =>
    if s.stopped then s
    else if c = '\\' then
      match escape form .format rest with
      | .stop => { s with stopped := true, status := 0 }
      | .faulty remark => s.giveUp form remark
      | .text cs rest => pass form n rest (s.put cs)
    else if c = '%' then
      match form, rest with
      | _, '%' :: rest => pass form n rest (s.put ['%'])
      | .outer, 'b' :: rest =>
        let (word, s) := s.next
        pass form n rest (s.putUnescaped form Shape.bare word)
      | .outer, 'q' :: rest =>
        if s.words = [] then pass form n rest s
        else
          let (word, s) := s.next
          pass form n rest (s.put (Quotation.shielded word))
      | _, _ =>
        let (rest, s) := directive form rest s
        pass form n rest s
    else
      let (text, after) := rest.span fun d => d != '\\' && d != '%'
      pass form n after (s.put (c :: text))

/-- Goes through a format until all words are taken. -/
def passes (form : Form) (format : Octets) : Nat → State → State
  | 0, s => s
  | n + 1, s =>
    let s := pass form format.length format { s with took := false }
    if s.stopped || !s.took || s.words.isEmpty then s else passes form format n s

/-- The words of a call without a mark that ends options, unless there are wrong options. -/
def formatWords (form : Form) (words : List Octets) : Except String (List Octets) :=
  match form, words with
  | _, ['-', '-'] :: words => .ok words
  | .inner, ('-' :: letter :: _) :: _ =>
    .error s!"Illegal option -{Octets.text [letter]}"
  | _, words => .ok words

/-- `title` is what complaints begin with. -/
def printf (form : Form) (title : Octets) : Tool := fun c =>
  match formatWords form c.arguments, form with
  | .error remark, _ => c.idle.complain title remark 2
  | .ok [], .inner => c.idle.complain title "usage: printf format [arg ...]" 2
  | .ok [], .outer =>
    c.idle.complain title "missing operand\nTry 'printf --help' for more information." 1
  | .ok (format :: words), _ =>
    let s := passes form format (words.length + 1) ⟨[], words, [], false, 0, false⟩
    let excess := if form = .inner ∨ s.stopped then [] else s.words.take 1
    let remarks := s.remarks ++ excess.map fun word =>
      s!"warning: ignoring excess arguments, starting with {inCurlyQuotes word}"
    let d := remarks.foldl (fun d remark => d.complain title remark 0)
      (c.idle.print s.out.reverse.flatten)
    { d with status := s.status }

end BatchFormat.Shell.Print
