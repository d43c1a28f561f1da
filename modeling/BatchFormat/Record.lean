/-!
# Records of a run

What a run tells about itself: a level and a message.
-/
namespace BatchFormat

inductive Level where
  | debug | info | warning | error | critical
  deriving DecidableEq, Repr

namespace Level

def weight : Level → Nat
  | debug => 10
  | info => 20
  | warning => 30
  | error => 40
  | critical => 50

/-- Whether a record of level `l` passes a threshold. -/
def reaches (l threshold : Level) : Bool := threshold.weight ≤ l.weight

def name : Level → String
  | debug => "DEBUG"
  | info => "INFO"
  | warning => "WARNING"
  | error => "ERROR"
  | critical => "CRITICAL"

end Level

structure Record where
  level : Level
  message : String
  deriving DecidableEq, Repr

namespace Record

def debug (message : String) : Record := ⟨.debug, message⟩
def info (message : String) : Record := ⟨.info, message⟩
def warning (message : String) : Record := ⟨.warning, message⟩
def error (message : String) : Record := ⟨.error, message⟩

/-- The record with its level in front. -/
def labelled (r : Record) : String := s!"{r.level.name}: {r.message}"

end Record
end BatchFormat
