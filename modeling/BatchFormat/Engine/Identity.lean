import BatchFormat.Gateway

/-!
# The engine that changes nothing

Useful to see which files a run would take and whether the profile loads.
-/
namespace BatchFormat.Identity

def name : String := "identity"

def engine : Engine where
  name := name
  check := fun _ => .ok ()
  transform := fun _ content w => (.ok content, w)

end BatchFormat.Identity
