import BatchFormat.Engine.Command
import BatchFormat.Engine.Eclipse
import BatchFormat.Engine.Identity
import BatchFormat.Number.Reader

/-!
# The registry of engines

Engines are known by name. An engine is made when a run asks for it, from the options of that run,
so that listing the names never looks at the surroundings.
-/
namespace BatchFormat

inductive OptionValue where
  | none
  | text (value : String)
  | words (values : List String)
  | number (value : Binary)
  deriving DecidableEq, Repr

/-- A waiting limit as a numeral gives it. A whole number has to be in the range of the numbers in
which time is measured; one with a fraction or an exponent becomes infinite beyond it. -/
def OptionValue.ofNumeral (text : String) : Except Failure OptionValue :=
  match Binary.ofString? text with
  | .none => .ok (.number .nan)
  | some (.infinite negative) =>
    if text.toList.all fun c => c.isDigit || c = '-' then .error (.clock .beyondNumbers)
    else .ok (.number (.infinite negative))
  | some n => .ok (.number n)

abbrev Options := List (String × OptionValue)

/-- What can be made of a registered name: one of the engines that are always there, or another. -/
inductive Provider where
  | command (c : Command)
  | eclipse (e : Eclipse)
  | identity
  | other (e : Engine)

namespace Provider

def engine (host : Host) : Provider → Engine
  | command c => c.engine host
  | eclipse e => e.engine host
  | identity => Identity.engine
  | other e => e

end Provider

/-- How an engine is made: where it comes from, what it is for, and the maker itself. -/
structure Maker where
  origin : String
  description : String
  make : Environment → Options → Except Failure Provider

def Options.onlyFor (options : Options) (origin : String) (taken : List String) :
    Except Failure Unit :=
  match options.find? fun option => !taken.contains option.1 with
  | some option => .error (.unexpectedOption origin option.1)
  | none => .ok ()

def Options.limit (options : Options) : Binary :=
  match List.lookup "timeout" options with
  | some (.number limit) => limit
  | _ => Command.standardLimit

namespace Command

/-- The command that a value of an option describes: a line is split, words are taken as they
are. -/
def wordsOf : OptionValue → Except Failure (List String)
  | .text line => (Words.split line).mapError .badWords
  | .words words => .ok words
  | .none | .number _ => .ok []

def maker : Maker where
  origin := "CommandProvider"
  description := "Pipe content through an external formatter command (stdin -> stdout)"
  make := fun _ options => do
    options.onlyFor "CommandProvider" ["command", "timeout"]
    let words ← wordsOf ((List.lookup "command" options).getD .none)
    return .command ⟨words, options.limit⟩

end Command

namespace Eclipse

def maker : Maker where
  origin := "EclipseProvider"
  description := "Eclipse headless JavaCodeFormatter (requires a local Eclipse install)"
  make := fun environment options => do
    options.onlyFor "EclipseProvider" ["executable", "timeout"]
    let given :=
      match List.lookup "executable" options with
      | some (.text e) => some e
      | _ => none
    return .eclipse ⟨choose given environment, options.limit⟩

end Eclipse

namespace Identity

def maker : Maker where
  origin := "IdentityProvider"
  description := "Leave content unchanged (selection and config check only)"
  make := fun _ options => do
    options.onlyFor "IdentityProvider" []
    return .identity

end Identity

/-- Makers by name, in the order of the names, each name once. -/
structure Registry where
  entries : List (String × Maker)

namespace Registry

/-- Puts a maker in its place, over an earlier one of the same name. -/
def insertIn (name : String) (m : Maker) : List (String × Maker) → List (String × Maker)
  | [] => [(name, m)]
  | (other, old) :: rest =>
    if name = other then (name, m) :: rest
    else if name < other then (name, m) :: (other, old) :: rest
    else (other, old) :: insertIn name m rest

def empty : Registry := ⟨[]⟩

/-- Adds a maker under a name, which must not be empty. -/
def register (r : Registry) (name : String) (m : Maker) : Except Failure Registry :=
  if name = "" then .error (.nameless m.origin) else .ok ⟨insertIn name m r.entries⟩

/-- Forgets a name; a name that is not there is forgotten already. -/
def unregister (r : Registry) (name : String) : Registry :=
  ⟨r.entries.filter fun e => e.1 != name⟩

def names (r : Registry) : List String := r.entries.map Prod.fst

/-- The names with what they are for. -/
def describe (r : Registry) : List (String × String) :=
  r.entries.map fun e => (e.1, e.2.description)

def maker? (r : Registry) (name : String) : Option Maker := r.entries.lookup name

/-- Makes the engine registered under a name. -/
def get (r : Registry) (environment : Environment) (name : String) (options : Options) :
    Except Failure Provider :=
  match r.maker? name with
  | some m => m.make environment options
  | none => .error (.unknownProvider name r.names)

/-- The engines that are always there. -/
def builtIn : Registry :=
  ⟨[(Command.name, Command.maker), (Eclipse.name, Eclipse.maker),
    (Identity.name, Identity.maker)]⟩

end Registry
end BatchFormat
