import BatchFormat.Failure
import BatchFormat.Text.Blank
import BatchFormat.Text.Lower

/-!
# Files chosen by extension

A file is eligible if its name ends with the extension, whatever the case of either.
-/
namespace BatchFormat

def defaultExtension : String := ".java"

/-- An extension without the blanks around it, in lower case and with a dot in front. -/
def normalizeExtension (extension : String) : Except Failure String :=
  let lowered := Text.lower (Text.trim extension)
  if lowered = "" then .error .blankExtension
  else if lowered.toList.head? = some '.' then .ok lowered
  else .ok ("." ++ lowered)

/-- Whether a name, lower-cased, ends with a suffix. -/
def nameEndsWith (suffix name : String) : Bool :=
  suffix.toList.isSuffixOf (Text.lower name).toList

/-- A rule that picks the files to format by their path. -/
abbrev Eligibility := Path → Bool

/-- The rule for a normal extension. -/
def Eligibility.ofSuffix (suffix : String) : Eligibility := fun p => nameEndsWith suffix p.name

def Eligibility.ofExtension (extension : String) : Except Failure Eligibility :=
  (normalizeExtension extension).map .ofSuffix

/-- The rule for the default extension. -/
def Eligibility.standard : Eligibility := .ofSuffix defaultExtension

end BatchFormat
