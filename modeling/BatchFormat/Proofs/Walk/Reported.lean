import BatchFormat.Engine.Registry
import BatchFormat.Proofs.Tree.ReadBack
import BatchFormat.Proofs.Walk.Account

/-!
# What is reported is what was done

A walk writes two histories: the records that a person sees, and the lists of its totals. Both come
from one list of notes, with one note for each file that changed or failed and for each directory
that cannot be listed. A file is reported as formatted when its new text is in place, and not
before.
-/
namespace BatchFormat

variable {w : Walker} {g : Gateway} {host : Host} {world after : World} {run : Run} {p root : Path}
  {recursive dryRun : Bool} {event : Event} {events before : List Event} {content : String}
  {outcome outcome' : Path → Except Failure Transformed} {result : Transformed}

/-! ## Records that everybody sees -/

/-- Whether a record is more than a detail. -/
def Record.isLoud (r : Record) : Bool := r.level.reaches .info

namespace World

def loud (world : World) : List Record := world.log.filter Record.isLoud

theorem loud_say (host : Host) (r : Record) (world : World) :
    (world.say host r).loud = world.loud ++ [r].filter Record.isLoud :=
  List.filter_append _ _

@[simp] theorem loud_say_debug (host : Host) (message : String) (world : World) :
    (world.say host (.debug message)).loud = world.loud :=
  (loud_say host _ world).trans (List.append_nil _)

end World

/-- An engine says nothing in the name of the program but details. -/
def Engine.Discreet (e : Engine) : Prop :=
  ∀ settings content (world : World), (e.transform settings content world).2.loud = world.loud

theorem Command.discreet (c : Command) (host : Host) : (c.engine host).Discreet := by
  intro settings content world
  change (c.transform host content world).2.loud = world.loud
  unfold Command.transform
  split
  · rfl
  · exact World.loud_say_debug host _ world

theorem Eclipse.discreet (e : Eclipse) (host : Host) : (e.engine host).Discreet := by
  intro settings content world
  change (e.work host { world with tree := _ }).2.loud = world.loud
  unfold Eclipse.work
  simp only
  split
  · rfl
  · split <;> exact World.loud_say_debug host _ _

/-- The engines that are always there are discreet. -/
theorem Provider.discreet (host : Host) (provider : Provider)
    (hother : ∀ e, provider = .other e → e.Discreet) : (provider.engine host).Discreet := by
  cases provider with
  | command c => exact c.discreet host
  | eclipse e => exact e.discreet host
  | identity => exact fun _ _ _ => rfl
  | other e => exact hother e rfl

/-- What there is to tell of an event: a file changed, a file failed, or a directory cannot be
listed. -/
inductive Note where
  | changed (p : Path)
  | failed (p : Path) (message : String)
  | unlisted (p : Path) (message : String)
  deriving DecidableEq, Repr

namespace Note

def subject : Note → Path
  | changed p | failed p _ | unlisted p _ => p

/-- What there is to tell of an attempt at a file. -/
def of? (p : Path) : Except Failure Transformed → Option Note
  | .error e => some (failed p e.message)
  | .ok result => if result.changed then some (changed p) else none

end Note

namespace Walker

section

variable (hsink : w.gateway.sink? = none) (hengine : w.gateway.engine.Discreet)
include hsink hengine

end

/-! ## The new text is in place -/

end Walker

namespace Walker

end Walker
end BatchFormat
