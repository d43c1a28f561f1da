import BatchFormat.Shell.Tool.Entries

/-!
# Tools without an output

What tools do whose output cannot be written.
-/
namespace BatchFormat.Shell.Trouble

/-- The name of the program in a call, without its directory. -/
def program (c : Call) : String := String.ofList (Entries.lastName c.name)

/-- What a tool says of an output that cannot be written, and the status it ends with. -/
def outputRemark (t : Trouble) (program : String) : String × Nat :=
  let cause := t.description
  match program with
  | "env" => (s!"write error: {cause}", 125)
  | "grep" | "ls" => (s!"write error: {cause}", 2)
  | "sed" =>
    (if t = closed then s!"couldn't close stdout: {cause}" else s!"couldn't flush stdout: {cause}",
      4)
  | "tee" => (s!"'standard output': {cause}", 1)
  | "wc" => (if t = closed then s!"write error: {cause}" else "write error", 1)
  | _ => (s!"write error: {cause}", 1)

/-- A tool whose output may be one that cannot be written: it complains if it has anything to write.
An editor complains of a closed output in any case, but does not look whether its output was opened
for writing. -/
def guarded (tool : Tool) : Tool := fun c =>
  let d := tool c
  match c.outputTrouble? with
  | none => d
  | some t =>
    let isSilent := d.written.all fun w => w.1 != 1 || w.2 == []
    let program := program c
    let d' := { d with written := d.written.filter fun w => w.1 != 1 }
    if isSilent ∧ !(t = closed ∧ program = "sed") then d
    else if t = wrongWay ∧ program = "sed" then d'
    else
      let (remark, status) := outputRemark t program
      d'.complain c.name remark status

end BatchFormat.Shell.Trouble
