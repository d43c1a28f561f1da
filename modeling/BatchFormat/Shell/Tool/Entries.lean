import BatchFormat.Shell.Tool

/-!
# Tools on files

Tools that make, copy, move and remove files, and those that tell something about paths.
-/
namespace BatchFormat.Shell.Entries

def cannot (c : Call) (what : String) (operand : Octets) (cause : Cause) (d : Deed) : Deed :=
  d.complain c.name s!"cannot {what} {inShellQuotes operand}: {cause.description}" 1

/-- The last name of a path, without slashes behind it. -/
def lastName (cs : Octets) : Octets :=
  let bare := (cs.reverse.dropWhile (· == '/')).reverse
  if bare = [] then if cs = [] then [] else ['/']
  else (bare.reverse.takeWhile (· != '/')).reverse

def basename : Tool := fun c =>
  c.withOptions ⟨"", "", "", [], 1, false⟩ fun _ operands =>
    match operands with
    | [] => c.refuse "missing operand" 1
    | _ :: _ :: extra :: _ => c.refuse s!"extra operand {inCurlyQuotes extra}" 1
    | name :: suffixes =>
      let last := lastName name
      let suffix := suffixes.head?.getD []
      let cut := if suffix.isSuffixOf last && suffix != last then
          last.take (last.length - suffix.length) else last
      c.idle.print (cut ++ ['\n'])

def parentPath (cs : Octets) : Octets :=
  let bare := (cs.reverse.dropWhile (· == '/')).reverse
  let front := (bare.reverse.dropWhile (· != '/')).reverse
  let trimmed := (front.reverse.dropWhile (· == '/')).reverse
  if bare = [] then if cs = [] then ['.'] else ['/']
  else if trimmed ≠ [] then trimmed
  else if front = [] then ['.'] else ['/']

def dirname : Tool := fun c =>
  c.withOptions ⟨"", "", "", [], 1, false⟩ fun _ operands =>
    if operands = [] then c.refuse "missing operand" 1
    else operands.foldl (fun d name => d.print (parentPath name ++ ['\n'])) c.idle

def inside (dir name : Octets) : Octets :=
  if dir.getLast? = some '/' then dir ++ name else dir ++ '/' :: name

def isDir (t : Tree) (here : Location) (cs : Octets) : Bool :=
  match Files.locate t here cs with
  | .ok (.found _ entry) => entry.isDir
  | _ => false

def rm : Tool := fun c =>
  let long := [("force", 'f'), ("recursive", 'r'), ("dir", 'd'), ("verbose", 'v')]
  c.withOptions ⟨"dfirRIv", "", "", long, 1, false⟩ fun found operands =>
    let forced := found.has 'f'
    let deep := found.has 'r' || found.has 'R'
    if operands = [] ∧ !forced then c.refuse "missing operand" 1
    else operands.foldl (fun d operand =>
      match Files.locateSelf d.tree c.here operand with
      | .error .noEntry | .ok (.vacant _) =>
        if forced then d else cannot c "remove" operand .noEntry d
      | .error cause =>
        if forced && cause = .notDirectory then d else cannot c "remove" operand cause d
      | .ok (.found place (.dir _)) =>
        if deep then { d with tree := d.tree.prune place }
        else cannot c "remove" operand .isDirectory d
      | .ok (.found place _) => { d with tree := d.tree.erase place }) c.idle

def copyTo (c : Call) (source target : Octets) (d : Deed) : Deed :=
  match Files.locate d.tree c.here source with
  | .error cause => cannot c "stat" source cause d
  | .ok (.vacant _) => cannot c "stat" source .noEntry d
  | .ok (.found _ (.dir _)) =>
    d.complain c.name s!"-r not specified; omitting directory {inShellQuotes source}" 1
  | .ok (.found place entry) =>
    match Files.locate d.tree c.here target with
    | .ok (.found other (.file _ mode)) =>
      if other = place then
        d.complain c.name s!"{inShellQuotes source} and {inShellQuotes target} are the same file" 1
      else
        match entry with
        | .file bytes _ => { d with tree := d.tree.put other (.file bytes mode) }
        | _ => d
    | .ok (.vacant other) =>
      match entry with
      | .file bytes mode => { d with tree := d.tree.put other (.file bytes (mode &&& 0o755)) }
      | _ => d
    | .ok (.found _ _) => d
    | .error cause => cannot c "create regular file" target cause d

/-- Moves one entry, with all below it, to a path. -/
def moveTo (c : Call) (source target : Octets) (d : Deed) : Deed :=
  match Files.locateSelf d.tree c.here source with
  | .error cause => cannot c "stat" source cause d
  | .ok (.vacant _) => cannot c "stat" source .noEntry d
  | .ok (.found place _) =>
    let fail (cause : Cause) : Deed :=
      d.complain c.name
        s!"cannot move {inShellQuotes source} to {inShellQuotes target}: {cause.description}" 1
    let move (other : Location) : Deed :=
      if other = place then
        d.complain c.name s!"{inShellQuotes source} and {inShellQuotes target} are the same file" 1
      else
        let moved := (d.tree.entries.filter fun e => place.isPrefixOf e.1).map fun e =>
          (other ++ e.1.drop place.length, e.2)
        let kept := d.tree.prune place
        { d with tree := moved.foldl (fun t e => t.put e.1 e.2) (kept.erase other) }
    match Files.locateSelf d.tree c.here target with
    | .ok (.vacant other) => move other
    | .ok (.found _ (.dir _)) => fail .isDirectory
    | .ok (.found other _) => move other
    | .error cause => fail cause

/-- Applies a tool for one source and one target to all sources; a directory as the target takes
each of them under its own name. -/
def toTargets (act : Call → Octets → Octets → Deed → Deed) : Tool := fun c =>
  let long := [("force", 'f'), ("no-clobber", 'n')]
  c.withOptions ⟨"abdfHiLlnPpRrsTuvxZ", "", "", long, 1, false⟩ fun _ operands =>
    match operands.getLast?, operands.dropLast with
    | none, _ => c.refuse "missing file operand" 1
    | some only, [] => c.refuse s!"missing destination file operand after {inShellQuotes only}" 1
    | some target, sources =>
      if isDir c.tree c.here target then
        sources.foldl (fun d source => act c source (inside target (lastName source)) d) c.idle
      else
        match sources with
        | [source] => act c source target c.idle
        | _ => c.idle.complain c.name s!"target {inShellQuotes target}: No such file or directory" 1

def cp : Tool := toTargets copyTo

def mv : Tool := toTargets moveTo

/-- The beginnings of a path that end before a slash, the whole path last. -/
def steps (cs : Octets) : List Octets :=
  (List.range cs.length).filterMap fun i =>
    if cs[i + 1]? = some '/' ∨ i + 1 = cs.length then some (cs.take (i + 1)) else none

def makeDir (c : Call) (deep : Bool) (operand : Octets) (d : Deed) : Deed :=
  let fail (cause : Cause) : Deed :=
    d.complain c.name
      s!"cannot create directory {inCurlyQuotes operand}: {cause.description}" 1
  match Files.locateSelf d.tree c.here operand with
  | .ok (.vacant place) => { d with tree := d.tree.put place (.dir 0o755) }
  | .ok (.found _ entry) =>
    if deep ∧ (entry.isDir ∨ isDir d.tree c.here operand) then d
    else fail .present
  | .error cause => fail cause

def mkdir : Tool := fun c =>
  let long := [("parents", 'p'), ("mode", 'm'), ("verbose", 'v')]
  c.withOptions ⟨"pvZ", "m", "", long, 1, false⟩ fun found operands =>
    let deep := found.has 'p'
    if operands = [] then c.refuse "missing operand" 1
    else operands.foldl (fun d operand =>
      let paths := if deep then steps operand else [operand]
      paths.foldl (fun d path => makeDir c deep path d) d) c.idle

def rmdir : Tool := fun c =>
  c.withOptions ⟨"pv", "", "", [("parents", 'p'), ("verbose", 'v')], 1, false⟩ fun _ operands =>
    let fail (operand : Octets) (text : String) (d : Deed) : Deed :=
      d.complain c.name s!"failed to remove {inShellQuotes operand}: {text}" 1
    if operands = [] then c.refuse "missing operand" 1
    else operands.foldl (fun d operand =>
      if lastName operand = ['.'] then fail operand "Invalid argument" d
      else
      match Files.locateSelf d.tree c.here operand with
      | .ok (.found place (.dir _)) =>
        if d.tree.names place = [] then { d with tree := d.tree.erase place }
        else fail operand "Directory not empty" d
      | .ok (.found _ _) => fail operand Cause.notDirectory.description d
      | .ok (.vacant _) => fail operand Cause.noEntry.description d
      | .error cause => fail operand cause.description d) c.idle

def touch : Tool := fun c =>
  let long := [("no-create", 'c'), ("date", 'd'), ("reference", 'r')]
  c.withOptions ⟨"acfhm", "drt", "", long, 1, false⟩ fun found operands =>
    if operands = [] then c.refuse "missing file operand" 1
    else operands.foldl (fun d operand =>
      match Files.locate d.tree c.here operand with
      | .ok (.vacant place) =>
        if found.has 'c' then d else { d with tree := d.tree.put place (.file [] (Files.masked c.mask 0o666)) }
      | .ok _ => d
      | .error cause => cannot c "touch" operand cause d) c.idle

def ln : Tool := fun c =>
  let long := [("symbolic", 's'), ("force", 'f')]
  c.withOptions ⟨"bdFfiLnPrsTv", "", "", long, 1, false⟩ fun found operands =>
    match operands with
    | [source, target] =>
      let target := if isDir c.tree c.here target then inside target (lastName source) else target
      let kind := if found.has 's' then "symbolic" else "hard"
      let fail (cause : Cause) : Deed :=
        c.idle.complain c.name
          s!"failed to create {kind} link {inShellQuotes target}: {cause.description}" 1
      let entry : Except Cause Entry :=
        if found.has 's' then .ok (.link source.text)
        else
          match Files.locateSelf c.tree c.here source with
          | .ok (.found _ entry) => .ok entry
          | .ok (.vacant _) => .error .noEntry
          | .error cause => .error cause
      match entry, Files.locateSelf c.tree c.here target with
      | .error cause, _ =>
        c.idle.complain c.name s!"failed to access {inShellQuotes source}: {cause.description}" 1
      | .ok entry, .ok (.vacant place) => { c.idle with tree := c.tree.put place entry }
      | .ok entry, .ok (.found place _) =>
        if found.has 'f' then { c.idle with tree := c.tree.put place entry } else fail .present
      | .ok _, .error cause => fail cause
    | _ => c.refuse "missing file operand" 1

/-- The mode that a written one stands for, on top of an old one. -/
def modeOf (written : Octets) (old : Nat) : Option Nat :=
  if written ≠ [] ∧ written.all fun c => '0' ≤ c && c ≤ '7' then
    some (written.foldl (fun n c => 8 * n + (c.toNat - '0'.toNat)) 0)
  else
    let (who, rest) := written.span "ugoa".toList.contains
    let places := (if who = [] ∨ who.contains 'a' then 0o111
      else (if who.contains 'u' then 0o100 else 0) + (if who.contains 'g' then 0o010 else 0)
        + (if who.contains 'o' then 0o001 else 0))
    let bits (letters : Octets) : Nat :=
      places * ((if letters.contains 'r' then 4 else 0) + (if letters.contains 'w' then 2 else 0)
        + (if letters.contains 'x' then 1 else 0))
    match rest with
    | '+' :: letters => some (old ||| bits letters)
    | '-' :: letters => some (old - (old &&& bits letters))
    | '=' :: letters => some ((old - (old &&& (places * 7))) ||| bits letters)
    | _ => none

def chmod : Tool := fun c =>
  match c.arguments with
  | [written] => c.refuse s!"missing operand after {inCurlyQuotes written}" 1
  | written :: operands =>
    if (modeOf written 0).isNone then c.refuse s!"invalid mode: {inCurlyQuotes written}" 1
    else operands.foldl (fun d operand =>
      match Files.locate d.tree c.here operand with
      | .ok (.found place entry) =>
        match modeOf written entry.mode with
        | none => d
        | some mode =>
          let entry :=
            match entry with
            | .file bytes _ => Entry.file bytes mode
            | .dir _ => .dir mode
            | .fifo _ => .fifo mode
            | .link target => .link target
          { d with tree := d.tree.put place entry }
      | .ok (.vacant _) => cannot c "access" operand .noEntry d
      | .error cause => cannot c "access" operand cause d) c.idle
  | [] => c.refuse "missing operand" 1

def pathOf (place : Location) : Octets := Octets.ofString (Path.ofNames place).text

def pwd : Tool := fun c => c.idle.print (pathOf c.here ++ ['\n'])

def ls : Tool := fun c =>
  let long := [("all", 'a'), ("almost-all", 'A')]
  c.withOptions ⟨"1aAdFlpRrSt", "", "", long, 2, false⟩ fun found operands =>
    let shown (name : String) : Bool :=
      found.has 'a' || found.has 'A' || name.toList.head? != some '.'
    let listed (place : Location) : Octets :=
      ((if found.has 'a' then [".", ".."] else []) ++ (c.tree.names place).filter shown).flatMap
        fun name => Octets.ofString name ++ ['\n']
    (if operands = [] then [['.']] else operands).foldl (fun d operand =>
      match Files.locate d.tree c.here operand with
      | .ok (.found place (.dir _)) =>
        d.print (if found.has 'd' then operand ++ ['\n'] else listed place)
      | .ok (.found _ _) => d.print (operand ++ ['\n'])
      | .ok (.vacant _) => (cannot c "access" operand .noEntry d).atLeast 2
      | .error cause => (cannot c "access" operand cause d).atLeast 2) c.idle

end BatchFormat.Shell.Entries
