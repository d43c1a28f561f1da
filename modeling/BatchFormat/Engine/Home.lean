import BatchFormat.Text.Blank
import BatchFormat.World

/-!
# Home directories

A path whose first name begins with a tilde starts in a home directory: that of the person who runs
the program, or that of the account named after the tilde.
-/
namespace BatchFormat.Host

def homeVariable : String := "HOME"

def homeOf? (host : Host) (account : String) : Option String :=
  if account = "" then
    match host.valueOf? homeVariable with
    | some home => some home
    | none => host.accounts.lookup host.account
  else host.accounts.lookup account

def expandHome (host : Host) (p : Path) : Except SystemError Path :=
  match p.anchor, p.parts with
  | .relative, first :: rest =>
    match first.toList with
    | '~' :: account =>
      if Path.holdsNul first then .error .nulInPath
      else
        match host.homeOf? (String.ofList account) with
        | none => .error .noHome
        | some home =>
          let bare := String.ofList (Text.dropRightWhile (· = '/') home.toList)
          if bare.toList.head? = some '~' then .error .noHome
          else
            let start := Path.ofString (if bare = "" then "/" else bare)
            .ok { start with parts := start.parts ++ rest }
    | _ => .ok p
  | _, _ => .ok p

end BatchFormat.Host
