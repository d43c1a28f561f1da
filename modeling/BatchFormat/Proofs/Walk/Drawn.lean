import BatchFormat.Proofs.Tree.Drawn
import BatchFormat.Proofs.Walk.Totals

/-!
# Walks with other marks

The marks for temporary files are drawn anew on every walk. What an attempt at a file comes to is
the same on all of them, up to the mark in a message.
-/
namespace BatchFormat

variable {w : Walker} {host : Host} {world : World} {p q : Path} {draw : Path → List String}
  {logs : List Location} {place : Location} {bytes : Bytes} {mode : Nat}
  {ending ending' : Except Failure Transformed}

/-- The host on another walk: for each file the marks are drawn anew. -/
def Host.drawing (host : Host) (draw : Path → List String)
    (h : ∀ p, (draw p).Perm host.marks) : Host :=
  { host with draw := draw, draw_perm := h }

theorem Run.Ready.drawing {run : Run} {files : List Path} (h : run.Ready host logs files)
    (hdraw : ∀ p, (draw p).Perm host.marks) : run.Ready (host.drawing draw hdraw) logs files :=
  ⟨h.cwd, h.sources⟩

namespace Walker

/-- A walk with other marks is as steady. -/
theorem Steady.drawing (h : w.Steady host logs) (hdraw : ∀ p, (draw p).Perm host.marks) :
    w.Steady (host.drawing draw hdraw) logs :=
  ⟨h.gateway, h.echo⟩

/-- Two attempts that end in the same way, but for the mark in a message. -/
inductive SameEnding : Except Failure Transformed → Except Failure Transformed → Prop
  | done (result : Transformed) : SameEnding (.ok result) (.ok result)
  | failed {e e' : Failure} (h : SameButMark e.message e'.message) :
    SameEnding (.error e) (.error e')

namespace SameEnding

@[refl] theorem refl (ending : Except Failure Transformed) : SameEnding ending ending := by
  cases ending with
  | error e => exact .failed (.same _)
  | ok result => exact .done result

theorem changes_eq (h : SameEnding ending ending') : changes ending = changes ending' := by
  cases h <;> rfl

theorem left_eq (h : SameEnding ending ending') (dryRun : Bool) (bytes : Bytes) :
    left dryRun bytes ending = left dryRun bytes ending' := by
  cases h <;> rfl

theorem complaint? (h : SameEnding ending ending') :
    Option.Rel SameButMark (Walker.complaint? ending) (Walker.complaint? ending') := by
  cases h with
  | done result => exact .none
  | failed h => exact .some h

end SameEnding

/-- Paths that lead to one file end alike on two walks, if they are the same but for the draw and
the file can be read by both paths. -/
theorem outcome_of_draw (hcwd : ∃ mode, world.tree.Stands host.cwd (.dir mode))
    (hfile : world.tree.entryAt? host.cwd true p = .ok (place, .file bytes mode))
    (hq : world.tree.resolve host.cwd q = world.tree.resolve host.cwd p)
    (hread : host.faults.read p = false) (hread' : host.faults.read q = false)
    (hdraw : ∀ p, (draw p).Perm host.marks) (dryRun : Bool)
    (bytes : Bytes) :
    SameEnding (w.outcome (host.drawing draw hdraw) dryRun q bytes world)
      (w.outcome host dryRun p bytes world) := by
  unfold outcome
  simp only [Host.drawing, hread, hread', Bool.false_eq_true, if_false]
  cases w.gateway.format bytes world with
  | error e => rfl
  | ok result =>
    have hperm : (draw q).Perm (host.draw p) := (hdraw q).trans (host.draw_perm p).symm
    have hreplace := Tree.replace_of_perm hfile hperm host.size_of_mem_draw hcwd host.faults
      result.content
    rw [← Tree.replace_of_resolve hq] at hreplace
    simp only
    split
    · rcases hreplace.cases with ⟨there, there', hdrawn, hmarked⟩ | ⟨e, e', hdrawn, hmarked, hsame⟩
      · rw [hdrawn, hmarked]
      · rw [hdrawn, hmarked]
        have hmessage : SameButMark (Failure.system e).message (Failure.system e').message := hsame
        exact .failed hmessage
    · exact .done result

def redraw : Path → List String := fun _ => ["ijklmnop", "abcdefgh"]

theorem redraw_perm (p : Path) : (redraw p).Perm mixedHost.marks :=
  List.Perm.swap _ _ _

end Walker
end BatchFormat
