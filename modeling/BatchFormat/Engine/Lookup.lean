import BatchFormat.World

/-!
# Finding programs

How the word that names a program becomes a path: a word with a slash is a path already, any other
is looked for in the directories of the search path. Whether a program is there is asked before a
run; the start of a program then searches again, by rules of its own.
-/
namespace BatchFormat

namespace Tree

/-- Looks up a path exactly as it is written, so that a slash at its end asks for a directory. -/
def locateText (t : Tree) (cwd : Location) (text : String) : Except Cause Place :=
  if text = "" then .error .noEntry
  else if text.utf8ByteSize > pathLimit then .error .nameTooLong
  else t.walk true linkLimit (linkStart text cwd) (Path.pieces text)

def isExecutableMode (mode : Nat) : Bool := mode &&& 0o111 != 0

/-- Whether a path as written leads to something other than a directory that may be executed. -/
def runnable (t : Tree) (cwd : Location) (text : String) : Bool :=
  !Path.holdsNul text &&
    match t.locateText cwd text with
    | .ok (.found _ entry) => !entry.isDir && isExecutableMode entry.mode
    | _ => false

end Tree

namespace Lookup

/-- The variable that holds the directories to search, separated by colons. -/
def searchVariable : String := "PATH"

def hasSlash (word : String) : Bool := word.toList.contains '/'

def colonPieces (text : String) : List String := (text.toList.splitOn ':').map String.ofList

/-- A name inside a directory as it is written; an empty directory adds nothing. -/
def inside (dir name : String) : String :=
  if dir = "" ∨ dir.toList.getLast? = some '/' then dir ++ name else dir ++ "/" ++ name

def fallbackSearch : String := "/bin:/usr/bin"

/-- The path of the program that a word names, if it can be run. Without a search path, or with an
empty one, a bare word names nothing. -/
def program? (host : Host) (t : Tree) (word : String) : Option String :=
  if hasSlash word then if t.runnable host.cwd word then some word else none
  else
    let search := (host.valueOf? searchVariable).getD fallbackSearch
    if search = "" then none
    else ((colonPieces search).map (inside · word)).find? (t.runnable host.cwd)

/-- The paths that the start of a program tries in turn. -/
def attempts (environment : Environment) (word : String) : List String :=
  if hasSlash word then [word]
  else
    let search := (environment.lookup searchVariable).getD fallbackSearch
    (colonPieces search).map (inside · word)

end Lookup
end BatchFormat
