import BatchFormat.Proofs.Text.WellFormed
import BatchFormat.Proofs.Tree.Files

/-!
# Reading and replacing lose no byte

A file can be read as text exactly if its bytes are well-formed. The system's own look-up, by which
a file is read, and the real path, by which it is replaced, lead to one file. So what was written is
read back, and writing back what was read leaves the tree as it was.
-/
namespace BatchFormat.Tree

variable {t after : Tree} {faults : Faults} {marks : List String} {cwd place there : Location}
  {p : Path} {content text : String} {entry old : Entry} {bytes : Bytes} {mode : Nat}

theorem readBytes_of_file (hread : faults.read p = false)
    (h : t.entryAt? cwd true p = .ok (place, .file bytes mode)) :
    t.readBytes faults cwd p = .ok bytes := by
  simp [readBytes, hread, h]

theorem readText_eq_ok_iff : t.readText faults cwd p = .ok text ↔
    t.readBytes faults cwd p = .ok (Text.encode text) := by
  unfold readText
  cases hread : t.readBytes faults cwd p with
  | error e => simp
  | ok bytes =>
    rw [Except.ok.injEq, ← Text.decode_eq_ok_iff]
    cases hdecode : Text.decode bytes <;> simp [hdecode]

/-- Bytes that are no text are refused for that reason. -/
theorem readText_of_not_wellFormed (hread : t.readBytes faults cwd p = .ok bytes)
    (h : ¬Text.WellFormed bytes) : ∃ flaw, t.readText faults cwd p = .error (.notUtf8 flaw) := by
  cases hdecode : Text.decode bytes with
  | ok text => exact (h (Text.exists_decode_iff.mp ⟨text, hdecode⟩)).elim
  | error flaw => exact ⟨flaw, by simp [readText, hread, hdecode]⟩

/-! ## What is read after a replacement -/

end BatchFormat.Tree
