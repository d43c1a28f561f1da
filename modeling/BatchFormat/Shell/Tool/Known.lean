import BatchFormat.Shell.Tool.Condition
import BatchFormat.Shell.Tool.Counting
import BatchFormat.Shell.Tool.Delay
import BatchFormat.Shell.Tool.Edit
import BatchFormat.Shell.Tool.Entries
import BatchFormat.Shell.Tool.Exchange
import BatchFormat.Shell.Tool.Pick
import BatchFormat.Shell.Tool.Print
import BatchFormat.Shell.Tool.Share

/-!
# The tools there are
-/
namespace BatchFormat.Shell.Known

def succeed : Tool := Call.idle

def fail : Tool := fun c => { c.idle with status := 1 }

/-- The variables that a program finds. -/
def env : Tool := fun c =>
  c.idle.print (c.environment.flatMap fun v => v.1 ++ '=' :: v.2 ++ ['\n'])

def changer : String := "env"

def programs : List (String × Tool) :=
  [("[", Condition.test ['[']), ("basename", Entries.basename), ("cat", Stream.cat),
    ("chmod", Entries.chmod), ("cp", Entries.cp), ("dirname", Entries.dirname),
    ("echo", Print.echo .outer), (changer, env), ("false", fail), ("grep", Pick.grep),
    ("head", Share.head), ("ln", Entries.ln), ("ls", Entries.ls), ("mkdir", Entries.mkdir),
    ("mv", Entries.mv), ("printf", Print.printf .outer "printf".toList), ("pwd", Entries.pwd),
    ("rm", Entries.rm), ("rmdir", Entries.rmdir), ("sed", Edit.sed), ("sleep", Delay.sleep),
    ("tail", Share.tail), ("tee", Stream.tee), ("test", Condition.test "test".toList),
    ("touch", Entries.touch),
    ("tr", Exchange.tr), ("true", succeed), ("wc", Counting.wc)]

def shells : List String := ["bash", "dash", "sh"]

/-- What a program file begins with. -/
def magic : Octets := "\x7fELF".toList

/-- The content of a program file. -/
def image (name : String) : Octets := magic ++ name.toList

def named? (content : Octets) : Option String :=
  if magic.isPrefixOf content then some (String.ofList (content.drop magic.length)) else none

/-- The directories that systems have: those at the top, and those for programs and their data. -/
def directories : List Location :=
  (["boot", "dev", "etc", "home", "media", "mnt", "opt", "proc", "run", "srv", "sys", "usr",
      "var"].map fun name => [name])
    ++ (["bin", "games", "include", "lib", "lib64", "libexec", "local", "sbin", "share",
      "src"].map fun name => ["usr", name])
    ++ (["bin", "etc", "games", "include", "lib", "sbin", "share", "src"].map fun name =>
      ["usr", "local", name])

/-- Adds the programs to a tree, in the directory where systems keep them. -/
def install (t : Tree) : Tree :=
  let t := directories.foldl (fun t dir => t.put dir (.dir 0o755)) t
  let t := (t.put ["root"] (.dir 0o700)).put ["tmp"] (.dir 0o1777)
  let t := ["bin", "lib", "lib64", "sbin"].foldl (fun t name =>
    t.put [name] (.link (String.intercalate "/" ["usr", name]))) t
  let t := ["full", "null"].foldl (fun t name => t.put ["dev", name] (.fifo 0o666)) t
  (programs.map Prod.fst ++ shells).foldl (fun t name =>
    t.put ["usr", "bin", name] (.file (image name).bytes 0o755)) t

end BatchFormat.Shell.Known
